import StreamControl.Proofs.InboxOrder
import StreamControl.Proofs.Serving

/-!
# Slices of credit

An inbox whose callbacks do not call back delivers one item after the other until its credit is
used up or nothing is left. Only in the second case it looks whether the producer waits. If a slice
of credit ends just at the last item, the producer is therefore told on the next slice, which is
when a delivery on all of the credit would have told it.
-/

namespace StreamControl.Inbox

variable {κ α : Type} {mark x y : Nat} {k : κ} {a : α} {rest : List α} {b b' b₁ b₂ : Inbox κ α}
  {h : Past κ α} {reply : List (Call κ α) → (c : Call κ α) → Reply c}
  {before : List (Call κ α)} {shown : List (Signal (Call κ α) Note)}

/-- An operation is done, with callbacks that answer at once and do not call back. -/
abbrev Serves (reply : List (Call κ α) → (c : Call κ α) → Reply c) (before : List (Call κ α))
    (b : Inbox κ α) (is : List (Instr κ α)) (shown : List (Signal (Call κ α) Note))
    (b' : Inbox κ α) : Prop :=
  Machine.Serves component reply before b (is.map .work) shown b'

/-- The items that consumers are called with. -/
def given (shown : List (Signal (Call κ α) Note)) : List (κ × α) :=
  (Machine.heard shown).filterMap fun
    | .consume k a => some (k, a)
    | _ => none

/-- What fetches return. -/
def results (shown : List (Signal (Call κ α) Note)) : List Bool :=
  shown.filterMap fun
    | .noted (.granted more) => some more
    | _ => none

/-! ## One delivery -/

lemma exec_deliver_of_busy (busy : b.credit = 0 ∨ b.consumer = none) :
    exec .deliver b = (b, []) := by
  by_cases waits : (b.emitting || b.isPaused) = true
  · simp [exec, waits]
  · rcases busy with spent | missing
    · simp [isPaused, spent] at waits
    · simp [exec, waits, missing]

lemma exec_deliver_of_cons (free : b.emitting = false) (credited : b.credit ≠ 0)
    (consumer : b.consumer = some k) (pending : b.pending = a :: rest) :
    exec .deliver b = ({ b with pending := rest, credit := spend b.credit, emitting := true },
      [.call (.consume k a)]) := by
  simp [exec, isPaused, free, credited, consumer, pending]

lemma exec_deliver_of_nil (free : b.emitting = false) (credited : b.credit ≠ 0)
    (consumer : b.consumer = some k) (pending : b.pending = []) :
    exec .deliver b = ({ b with overflow := false }, relief b) := by
  simp [exec, isPaused, free, credited, consumer, pending, relief]

lemma exec_consumed (o : Outcome) (b : Inbox κ α) :
    exec (.consumed o) b = ({ b with emitting := false }, complaint b o ++ [.work .deliver]) := by
  rcases o with _ | cause
  · rfl
  · cases known : b.onFault <;> simp [exec, complaint, known]

/-- What is seen of an item: it goes to the consumer, who may fail on it. -/
def handsOver (reply : List (Call κ α) → (c : Call κ α) → Reply c) (before : List (Call κ α))
    (b : Inbox κ α) (k : κ) (a : α) : List (Signal (Call κ α) Note) :=
  .called (.consume k a) ::
    (complaint b (reply before (.consume k a))).filterMap Machine.shows?

lemma told_complaint (b : Inbox κ α) (o : Outcome) :
    ∀ t ∈ complaint b o, Machine.Told component t := by
  intro t ht
  unfold complaint at ht
  split at ht
  · cases ht
  · split at ht
    · rw [List.mem_singleton.mp ht]
      exact fun _ => rfl
    · rw [List.mem_singleton.mp ht]
      exact trivial

lemma told_relief (b : Inbox κ α) : ∀ t ∈ relief b, Machine.Told component t := by
  intro t ht
  unfold relief at ht
  split at ht
  · obtain ⟨d, -, rfl⟩ := by simpa using ht
    exact fun _ => rfl
  · cases ht

lemma serves_of_busy (busy : b.credit = 0 ∨ b.consumer = none) :
    Serves reply before b [.deliver] [] b :=
  .work_of_eq (exec_deliver_of_busy busy) .done

lemma serves_of_nil (free : b.emitting = false) (credited : b.credit ≠ 0)
    (consumer : b.consumer = some k) (pending : b.pending = []) :
    Serves reply before b [.deliver] ((relief b).filterMap Machine.shows?)
      { b with overflow := false } := by
  have tells : Machine.Serves component reply before { b with overflow := false } (relief b)
      ((relief b).filterMap Machine.shows?) { b with overflow := false } :=
    .told (told_relief b)
  exact .work_of_eq (exec_deliver_of_nil free credited consumer pending) (by simpa using tells)

lemma serves_of_cons (free : b.emitting = false) (credited : b.credit ≠ 0)
    (consumer : b.consumer = some k) (pending : b.pending = a :: rest)
    (later : Serves reply (before ++ Machine.heard (handsOver reply before b k a))
      { b with pending := rest, credit := spend b.credit } [.deliver] shown b') :
    Serves reply before b [.deliver] (handsOver reply before b k a ++ shown) b' := by
  have returned : Machine.Serves component reply (before ++ [.consume k a])
      { b with pending := rest, credit := spend b.credit, emitting := false }
      (complaint b (reply before (.consume k a)) ++ [.work .deliver])
      ((complaint b (reply before (.consume k a))).filterMap Machine.shows? ++ shown) b' := by
    refine .append (.told (told_complaint b _)) ?_
    rw [← free]
    simpa [handsOver, Serves] using later
  refine .work_of_eq (exec_deliver_of_cons free credited consumer pending) (.call ?_)
  exact .work_of_eq (exec_consumed _ _) (by simpa [complaint] using returned)

/-! ## As much as there is credit for -/

lemma spend_of_limited (limited : b.credit < unlimited) (credited : b.credit ≠ 0) :
    ∃ c, b.credit = c + 1 ∧ spend b.credit = c := by
  obtain ⟨c, credit_eq⟩ := Nat.exists_eq_succ_of_ne_zero credited
  refine ⟨c, credit_eq, ?_⟩
  rw [spend, if_neg (Nat.ne_of_lt limited), credit_eq, Nat.succ_sub_one]

lemma raise_of_limited {credit amount : Nat} (limited : credit + amount < unlimited) :
    raise credit amount = credit + amount :=
  Nat.min_eq_left (Nat.le_of_lt limited)

/-- What a delivery makes of an inbox with a consumer. -/
def delivered (b : Inbox κ α) : Inbox κ α :=
  { b with
    pending := b.pending.drop b.credit
    credit := b.credit - b.pending.length
    overflow := b.overflow && decide (b.credit ≤ b.pending.length) }

lemma delivered_of_spent (spent : b.credit = 0) : delivered b = b := by
  cases b
  simp_all [delivered]

lemma delivered_of_nil (credited : b.credit ≠ 0) (pending : b.pending = []) :
    delivered b = { b with overflow := false } := by
  simp [delivered, pending, credited]

lemma delivered_of_cons (limited : b.credit < unlimited) (credited : b.credit ≠ 0)
    (pending : b.pending = a :: rest) :
    delivered { b with pending := rest, credit := spend b.credit } = delivered b := by
  obtain ⟨c, credit_eq, spend_eq⟩ := spend_of_limited limited credited
  rw [spend_eq]
  simp [delivered, pending, credit_eq]

@[simp] lemma given_append (shown shown' : List (Signal (Call κ α) Note)) :
    given (shown ++ shown') = given shown ++ given shown' := by
  simp [given]

lemma given_handsOver : given (handsOver reply before b k a) = [(k, a)] := by
  unfold handsOver complaint
  split
  · rfl
  · split <;> rfl

lemma given_relief (b : Inbox κ α) : given ((relief b).filterMap Machine.shows?) = [] := by
  unfold relief
  split
  · cases b.onDrained <;> rfl
  · rfl

@[simp] lemma results_append (shown shown' : List (Signal (Call κ α) Note)) :
    results (shown ++ shown') = results shown ++ results shown' :=
  List.filterMap_append

lemma results_handsOver : results (handsOver reply before b k a) = [] := by
  unfold handsOver complaint
  split
  · rfl
  · split <;> rfl

lemma results_relief (b : Inbox κ α) : results ((relief b).filterMap Machine.shows?) = [] := by
  unfold relief
  split
  · cases b.onDrained <;> rfl
  · rfl

/-- A delivery hands over what there is credit for. -/
lemma serves_delivered (reply : List (Call κ α) → (c : Call κ α) → Reply c)
    (before : List (Call κ α)) (free : b.emitting = false) (limited : b.credit < unlimited)
    (consumer : b.consumer = some k) :
    ∃ shown, Serves reply before b [.deliver] shown (delivered b) ∧
      given shown = (b.pending.take b.credit).map (fun a => (k, a)) ∧ results shown = [] := by
  generalize items : b.pending = l
  induction l generalizing b before with
  | nil =>
    by_cases spent : b.credit = 0
    · rw [delivered_of_spent spent]
      exact ⟨[], serves_of_busy (.inl spent), by simp [given], rfl⟩
    · rw [delivered_of_nil spent items]
      exact ⟨_, serves_of_nil free spent consumer items, by simpa using given_relief b,
        results_relief b⟩
  | cons a rest ih =>
    by_cases spent : b.credit = 0
    · rw [delivered_of_spent spent, spent]
      exact ⟨[], serves_of_busy (.inl spent), by simp [given], rfl⟩
    · obtain ⟨c, credit_eq, spend_eq⟩ := spend_of_limited limited spent
      have later_limited : spend b.credit < unlimited := by omega
      obtain ⟨shown, later, given_eq, results_eq⟩ :=
        ih (before ++ Machine.heard (handsOver reply before b k a))
          (b := { b with pending := rest, credit := spend b.credit })
          free later_limited consumer rfl
      rw [delivered_of_cons limited spent items] at later
      refine ⟨_, serves_of_cons free spent consumer items later, ?_, ?_⟩
      · rw [spend_eq] at given_eq
        simp [given_handsOver, given_eq, credit_eq]
      · rw [results_append, results_handsOver, results_eq, List.nil_append]

/-- A delivery returns nothing and ends without an item in hand. -/
lemma nothing_of_delivery (free : b.emitting = false) (limited : b.credit < unlimited)
    (serves : Serves reply before b [.deliver] shown b') :
    results shown = [] ∧ b'.emitting = false := by
  cases consumer : b.consumer with
  | none =>
    obtain ⟨rfl, rfl⟩ := serves.unique (serves_of_busy (.inr consumer))
    exact ⟨rfl, free⟩
  | some k =>
    obtain ⟨_, delivers, -, results_eq⟩ := serves_delivered _ _ free limited consumer
    obtain ⟨rfl, rfl⟩ := serves.unique delivers
    exact ⟨results_eq, free⟩

/-! ## One slice after the other -/

def topUp (amount : Nat) (b : Inbox κ α) : Inbox κ α := { b with credit := b.credit + amount }

@[simp] lemma topUp_credit : (topUp x b).credit = b.credit + x := rfl

@[simp] lemma topUp_pending : (topUp x b).pending = b.pending := rfl

@[simp] lemma topUp_topUp : topUp y (topUp x b) = topUp (x + y) b := by
  simp [topUp, Nat.add_assoc]

/-- A delivery on the credit there is, and then one on `y` more, show what one delivery on all of
this credit shows. -/
def Slices (reply : List (Call κ α) → (c : Call κ α) → Reply c) (before : List (Call κ α))
    (b : Inbox κ α) (y : Nat) : Prop :=
  ∃ seen b₁ after b₂, Serves reply before b [.deliver] seen b₁ ∧ b₁.credit ≤ b.credit ∧
    Serves reply (before ++ Machine.heard seen) (topUp y b₁) [.deliver] after b₂ ∧
    Serves reply before (topUp y b) [.deliver] (seen ++ after) b₂

/-- Without credit, the first slice is nothing. -/
lemma slices_of_spent (free : b.emitting = false) (limited : b.credit + y < unlimited)
    (consumer : b.consumer = some k) (spent : b.credit = 0) : Slices reply before b y := by
  obtain ⟨after, serves, -⟩ := serves_delivered reply before (b := topUp y b) free
    limited consumer
  exact ⟨[], b, after, _, serves_of_busy (.inl spent), Nat.le_refl _, by simpa using serves, serves⟩

/-- The first slice looks whether the producer waits, and nothing is left for the second. -/
lemma slices_of_nil (free : b.emitting = false) (credited : b.credit ≠ 0)
    (consumer : b.consumer = some k) (pending : b.pending = []) : Slices reply before b y := by
  have more_credited : (topUp y b).credit ≠ 0 := by
    rw [topUp_credit]
    omega
  refine ⟨_, _, [], _, serves_of_nil free credited consumer pending, Nat.le_refl _,
    serves_of_nil free more_credited consumer pending, ?_⟩
  rw [List.append_nil]
  exact serves_of_nil (b := topUp y b) free more_credited consumer pending

/-- Both begin with the same item. -/
lemma slices_of_cons (free : b.emitting = false) (limited : b.credit + y < unlimited)
    (credited : b.credit ≠ 0) (consumer : b.consumer = some k) (pending : b.pending = a :: rest)
    (later : Slices reply (before ++ Machine.heard (handsOver reply before b k a))
      { b with pending := rest, credit := spend b.credit } y) : Slices reply before b y := by
  obtain ⟨seen, b₁, after, b₂, first, at_most, second, whole⟩ := later
  have more_credited : b.credit + y ≠ 0 := by omega
  have b_limited : b.credit < unlimited := by omega
  obtain ⟨c, credit_eq, spend_eq⟩ := spend_of_limited b_limited credited
  have spend_le : spend b.credit ≤ b.credit := by omega
  have spend_more : spend (topUp y b).credit = spend b.credit + y := by
    rw [topUp_credit, spend, if_neg (Nat.ne_of_lt limited)]
    omega
  refine ⟨_, b₁, after, b₂, serves_of_cons free credited consumer pending first,
    Nat.le_trans at_most spend_le, by simpa using second, ?_⟩
  rw [List.append_assoc]
  refine serves_of_cons (b := topUp y b) free more_credited consumer pending ?_
  rw [spend_more]
  exact whole

lemma slices (reply : List (Call κ α) → (c : Call κ α) → Reply c) (before : List (Call κ α))
    (free : b.emitting = false) (limited : b.credit + y < unlimited) :
    Slices reply before b y := by
  cases consumer : b.consumer with
  | none =>
    exact ⟨[], b, [], _, serves_of_busy (.inr consumer), Nat.le_refl _,
      serves_of_busy (b := topUp y b) (.inr consumer),
      serves_of_busy (b := topUp y b) (.inr consumer)⟩
  | some k =>
    generalize items : b.pending = l
    induction l generalizing b before with
    | nil =>
      by_cases spent : b.credit = 0
      · exact slices_of_spent free limited consumer spent
      · exact slices_of_nil free spent consumer items
    | cons a rest ih =>
      by_cases spent : b.credit = 0
      · exact slices_of_spent free limited consumer spent
      · have b_limited : b.credit < unlimited := by omega
        obtain ⟨c, credit_eq, spend_eq⟩ := spend_of_limited b_limited spent
        have later_limited : spend b.credit + y < unlimited := by omega
        exact slices_of_cons free limited spent consumer items
          (ih _ free later_limited consumer rfl)

/-! ## Fetching -/

/-- A fetch delivers on the credit that it adds, and returns whether anything is left. -/
lemma serves_fetch (limited : b.credit + x < unlimited)
    (serves : Serves reply before (topUp x b) [.deliver] shown b') :
    Serves reply before b (fetch x) (shown ++ [.noted (.granted (!b'.pending.isEmpty))]) b' := by
  have counts : Machine.Serves component reply (before ++ Machine.heard shown) b' [.work .count]
      [.noted (.granted (!b'.pending.isEmpty))] b' :=
    .work_of_eq rfl (.note .done)
  have granted : component.exec (.grant x) b = (topUp x b, [.work .deliver]) := by
    simp [component, exec, raise_of_limited limited, topUp]
  exact .work_of_eq granted (serves.append counts)

/-- Fetching `x` and then `y` makes the same calls in the same order as fetching both at once,
returns the same in the end, and leaves the same inbox. -/
structure SlicedAlike (reply : List (Call κ α) → (c : Call κ α) → Reply c)
    (before : List (Call κ α)) (b : Inbox κ α) (x y : Nat) : Prop where
  one_by_one : ∃ shown₁ b₁ shown₂ b₂, Serves reply before b (fetch x) shown₁ b₁ ∧
    Serves reply (before ++ Machine.heard shown₁) b₁ (fetch y) shown₂ b₂
  at_once : ∃ shown b', Serves reply before b (fetch (x + y)) shown b'
  alike : ∀ shown₁ b₁ shown₂ b₂ shown b', Serves reply before b (fetch x) shown₁ b₁ →
    Serves reply (before ++ Machine.heard shown₁) b₁ (fetch y) shown₂ b₂ →
    Serves reply before b (fetch (x + y)) shown b' →
    Machine.heard shown₁ ++ Machine.heard shown₂ = Machine.heard shown ∧ b₂ = b' ∧
      ∃ more, results shown₂ = [more] ∧ results shown = [more]

/-- A fetch hands over the first items, as many as there is credit for, and returns whether
anything is left. -/
structure FetchesFirst (reply : List (Call κ α) → (c : Call κ α) → Reply c)
    (before : List (Call κ α)) (b : Inbox κ α) (k : κ) (n : Nat) : Prop where
  returns : ∃ shown b', Serves reply before b (fetch n) shown b'
  first : ∀ shown b', Serves reply before b (fetch n) shown b' →
    given shown =
      (b.pending.take (min (b.credit + n) b.pending.length)).map (fun a => (k, a)) ∧
    b'.pending = b.pending.drop (min (b.credit + n) b.pending.length) ∧
    results shown = [!b'.pending.isEmpty]

lemma slicedAlike (free : b.emitting = false) (limited : b.credit + x + y < unlimited) :
    SlicedAlike reply before b x y := by
  obtain ⟨seen, b₁, after, b₂, first, at_most, second, whole⟩ :=
    slices reply before (b := topUp x b) free limited
  rw [topUp_topUp] at whole
  rw [topUp_credit] at at_most
  have limited_x : b.credit + x < unlimited := by omega
  have limited_y : b₁.credit + y < unlimited := by omega
  have limited_both : b.credit + (x + y) < unlimited := by omega
  obtain ⟨none_seen, free₁⟩ := nothing_of_delivery (b := topUp x b) free limited_x first
  obtain ⟨none_after, -⟩ := nothing_of_delivery (b := topUp y b₁) free₁ limited_y second
  have fetch_x := serves_fetch limited_x first
  have fetch_y : Serves reply (before ++ Machine.heard
      (seen ++ [.noted (.granted (!b₁.pending.isEmpty))])) b₁ (fetch y) _ b₂ :=
    serves_fetch limited_y (by simpa using second)
  have fetch_both := serves_fetch limited_both whole
  refine ⟨⟨_, _, _, _, fetch_x, fetch_y⟩, ⟨_, _, fetch_both⟩, ?_⟩
  intro shown₁ c₁ shown₂ c₂ shown c' serves_x serves_y serves_both
  obtain ⟨rfl, rfl⟩ := serves_x.unique fetch_x
  obtain ⟨rfl, rfl⟩ := serves_both.unique fetch_both
  obtain ⟨rfl, rfl⟩ := serves_y.unique fetch_y
  refine ⟨by simp, rfl, !c₂.pending.isEmpty, ?_, ?_⟩
  · rw [results_append, none_after]
    rfl
  · rw [results_append, results_append, none_seen, none_after]
    rfl

lemma fetchesFirst (free : b.emitting = false) (consumer : b.consumer = some k)
    (limited : b.credit + x < unlimited) : FetchesFirst reply before b k x := by
  obtain ⟨shown, serves, given_eq, results_eq⟩ := serves_delivered reply before
    (b := topUp x b) free limited consumer
  have fetch_x := serves_fetch limited serves
  refine ⟨⟨_, _, fetch_x⟩, fun shown' b' serves' => ?_⟩
  obtain ⟨rfl, rfl⟩ := serves'.unique fetch_x
  refine ⟨?_, ?_, ?_⟩
  · rw [given_append, given_eq, ← List.take_eq_take_min]
    simp [given]
  · rw [← List.drop_eq_drop_min]
    rfl
  · rw [results_append, results_eq]
    rfl

lemma free_of_rest (run : Runs mark h (.idle b)) : b.emitting = false := by
  have one := (delivery_invariants run).1
  exact Bool.toNat_eq_zero.mp one.symm

/-- How credit is sliced does not matter to an inbox at rest whose callbacks do not call back, and
what there is credit for is what it hands over. -/
theorem slicedAlike_of_runs (run : Runs mark h (.idle b))
    (reply : List (Call κ α) → (c : Call κ α) → Reply c) (before : List (Call κ α)) :
    (∀ x y, b.credit + x + y < unlimited → SlicedAlike reply before b x y) ∧
      ∀ k n, b.consumer = some k → b.credit + n < unlimited → FetchesFirst reply before b k n :=
  ⟨fun _ _ limited => slicedAlike (free_of_rest run) limited,
    fun _ _ consumer limited => fetchesFirst (free_of_rest run) consumer limited⟩

/-- A paused inbox with a mark of two has refused its second item. -/
def holdingTwo : Past Nat Nat × Live Nat Nat :=
  Machine.drive component 20
    [.ask [.setConsumer 0], .ask [.setOnFault 1], .ask [.setOnDrained 2], .ask [.pause],
      .ask (offer 1), .ask (offer 2)]
    (.idle (fresh 2))

/-- The consumer fails on the second item. -/
def failsOnSecond (_ : List (Call Nat Nat)) : (c : Call Nat Nat) → Reply c
  | .consume _ a => if a = 2 then .failure .closed else .success
  | .fault _ _ | .drained _ => ()

/-- The first slice ends just at the last item, and the second one tells the producer. -/
theorem slicedAlike_atLastItem :
    Runs 2 holdingTwo.1 (.idle holdingTwo.2.state) ∧
      SlicedAlike failsOnSecond [] holdingTwo.2.state 2 1 ∧
      FetchesFirst failsOnSecond [] holdingTwo.2.state 0 3 ∧
      ∃ shown b', Serves failsOnSecond [] holdingTwo.2.state (fetch 3) shown b' ∧
        Machine.heard shown = [.consume 0 1, .consume 0 2, .fault 1 .closed, .drained 2] := by
  have run : Runs 2 holdingTwo.1 (.idle holdingTwo.2.state) := driven_run rfl
  obtain ⟨slices, firsts⟩ := slicedAlike_of_runs run failsOnSecond []
  refine ⟨run, slices 2 1 (by decide), firsts 0 3 rfl (by decide), ?_⟩
  exact ⟨_, _, .work (.work (.call (.work (.work (.call (.work (.call (.work (.call (.work
    (.note .done))))))))))), rfl⟩

end StreamControl.Inbox
