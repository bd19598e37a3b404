import StreamControl.Proofs.OutboxWaking

/-!
# When the gate is asked

A write that comes to an empty outbox is tested at once, and one that comes behind others is not:
the gate has refused the head of what is pending, and nobody has asked to try it again. This holds
whenever no test is underway, also inside the callback that hears that the outbox has drained.
-/

namespace StreamControl.Outbox

variable {μ : Type} {mark : Nat} {i : Instr μ} {q q' : Outbox μ} {w : μ}
  {out : List (Todo (Instr μ) (Call μ) Note)} {h h' : Past μ} {m m' : Live μ} {rest : Agenda μ}
  {a : Act (Instr μ) (Call μ) Note Reply}

def tries : Act (Instr μ) (Call μ) Note Reply → List μ
  | .own (.call (.test w)) => [w]
  | _ => []

def settles : Act (Instr μ) (Call μ) Note Reply → List (μ × Verdict)
  | .answer (.test w) v => [(w, v)]
  | _ => []

/-- The writes that the gate was asked about, in this order. -/
def tried (h : Past μ) : List μ := h.flatMap fun b => tries b.2

/-- What the gate has said about them. -/
def verdicts (h : Past μ) : List (μ × Verdict) := h.flatMap fun b => settles b.2

/-- Of all tests, the last one was of the write `w`, and the gate refused it. -/
structure LastRefused (h : Past μ) (w : μ) : Prop where
  tried : (tried h).getLast? = some w
  refused : (verdicts h).getLast? = some (w, .refuse)

/-- The surroundings are in control and no test is underway, as at rest. -/
structure Free (m : Live μ) : Prop where
  waits : m.step component = none
  untested : tests m.agenda = 0

section Views

variable (b : Live μ × Act (Instr μ) (Call μ) Note Reply) (cause : Fault) (ws : List μ)

@[simp] lemma tried_snoc : tried (h ++ [b]) = tried h ++ tries b.2 := by
  simp [tried]

@[simp] lemma verdicts_snoc : verdicts (h ++ [b]) = verdicts h ++ settles b.2 := by
  simp [verdicts]

@[simp] lemma drains_warning : drains ((warning cause ws).map .todo) = 0 := by
  unfold warning
  split <;> simp [isDrain]

@[simp] lemma drains_cancelling : drains (cancelling cause ws) = 0 := by
  simp [drains, cancelling, isDrain]

lemma LastRefused.snoc (last : LastRefused h w) (none_tried : tries b.2 = [])
    (none_settled : settles b.2 = []) : LastRefused (h ++ [b]) w := by
  constructor
  · rw [tried_snoc, none_tried, List.append_nil]
    exact last.tried
  · rw [verdicts_snoc, none_settled, List.append_nil]
    exact last.refused

/-- The gate refuses the write that it is asked about. -/
lemma lastRefused_of_answer (asked : (tried h).getLast? = some w) (m : Live μ) :
    LastRefused (h ++ [(m, .answer (.test w) Verdict.refuse)]) w :=
  ⟨by simpa [tries] using asked, by simp [settles]⟩

end Views

lemma free_of_returned (returned : m.agenda = []) : Free m := by
  constructor
  · rw [Machine.step_eq_none_iff, returned]
    exact fun t rest => by simp
  · rw [returned]
    rfl

/-! ## The last test -/

/-- A test that is underway is the last one, and so is one that the gate has just refused. -/
def Recent (h : Past μ) : Entry (Instr μ) (Call μ) Note → Prop
  | .held (.test w) => (tried h).getLast? = some w
  | .todo (.work (.refused w)) => LastRefused h w
  | _ => True

lemma recent_of_not_test {x : Entry (Instr μ) (Call μ) Note} (other : isTest x = false) :
    Recent h x := by
  unfold Recent
  split
  · cases other
  · cases other
  · trivial

lemma recent_of_untested (untested : tests rest = 0) : ∀ x ∈ rest, Recent h x := by
  intro x hx
  rw [tests, List.countP_eq_zero] at untested
  exact recent_of_not_test (Bool.eq_false_iff.mpr (untested x hx))

lemma Recent.snoc {x : Entry (Instr μ) (Call μ) Note} (recent : Recent h x)
    (b : Live μ × Act (Instr μ) (Call μ) Note Reply) (none_tried : tries b.2 = [])
    (none_settled : settles b.2 = []) : Recent (h ++ [b]) x := by
  unfold Recent at *
  split
  · rw [tried_snoc, none_tried, List.append_nil]
    exact recent
  · exact LastRefused.snoc b recent none_tried none_settled
  · trivial

/-- Below a test there is no other one. -/
lemma untested_behind {x : Entry (Instr μ) (Call μ) Note} (one : OneTest ⟨q, x :: rest⟩)
    (is_test : isTest x = true) : tests rest = 0 := by
  have le_one := Bool.toNat_le q.testing
  rw [OneTest, tests_cons, is_test, if_pos rfl] at one
  dsimp only at one
  omega

/-- No instruction tests anything itself or hands anything back. -/
lemma Effect.recent (effect : Effect i q q' out) : ∀ x ∈ out.map Entry.todo, Recent h x := by
  cases effect with
  | closes _ =>
    rw [map_todo_closes]
    exact recent_of_untested (by simp)
  | _ => simp [Recent]

lemma recent_step (recent : ∀ x ∈ m.agenda, Recent h x) (one : OneTest m) (move : Moves m a m') :
    ∀ x ∈ m'.agenda, Recent (h ++ [(m, a)]) x := by
  cases move using Machine.Move.elim with
  | work q i rest =>
    have recent_rest := (List.forall_mem_cons.mp recent).2
    refine List.forall_mem_append.mpr ⟨(exec_effect i q).recent, fun x hx => ?_⟩
    exact (recent_rest x hx).snoc _ rfl rfl
  | call q c rest =>
    have recent_rest := (List.forall_mem_cons.mp recent).2
    cases c with
    | test w =>
      have untested : tests rest = 0 := untested_behind one rfl
      exact List.forall_mem_cons.mpr ⟨by simp [Recent, tries], recent_of_untested untested⟩
    | cancel w cause | drained =>
      exact List.forall_mem_cons.mpr ⟨trivial, fun x hx => (recent_rest x hx).snoc _ rfl rfl⟩
  | note q e rest =>
    exact fun x hx => (recent x (List.mem_cons_of_mem _ hx)).snoc _ rfl rfl
  | invoke m is asked =>
    refine List.forall_mem_append.mpr ⟨?_, fun x hx => (recent x hx).snoc _ rfl rfl⟩
    cases asked.2 <;> simp [Recent]
  | reply q c rest f =>
    obtain ⟨recent_head, recent_rest⟩ := List.forall_mem_cons.mp recent
    cases c with
    | test w =>
      refine List.forall_mem_append.mpr ⟨?_, recent_of_untested (untested_behind one rfl)⟩
      cases hv : f (.test w) with
      | accept => simp [component, resume, Recent]
      | refuse =>
        have last := lastRefused_of_answer recent_head ⟨q, .held (.test w) :: rest⟩
        simpa [component, resume, Recent] using last
    | cancel w cause | drained => exact fun x hx => (recent_rest x hx).snoc _ rfl rfl

/-- An open outbox with nothing underway has the write at its head that was tested last, and
refused. -/
def HeadRefused (h : Past μ) (m : Live μ) : Prop :=
  m.state.closed = none → tests m.agenda + drains m.agenda = 0 → ∀ w rest,
    m.state.pending = w :: rest → LastRefused h w

lemma headRefused_work (head : HeadRefused h ⟨q, .todo (.work i) :: rest⟩)
    (attended : AttendedNow ⟨q, .todo (.work i) :: rest⟩)
    (one : OneTest ⟨q, .todo (.work i) :: rest⟩) (recent : Recent h (.todo (.work i)))
    (effect : Effect i q q' out) :
    HeadRefused (h ++ [(⟨q, .todo (.work i) :: rest⟩, .own (.work i))])
      ⟨q', out.map .todo ++ rest⟩ := by
  intro opened none_underway w later pending
  refine LastRefused.snoc _ ?_ rfl rfl
  have unbusy (underway : tests rest + drains rest = 0) (same : isTest (.todo (.work i)) = false) :
      q.testing = false := by
    rw [OneTest, tests_cons, same] at one
    exact Bool.toNat_eq_zero.mp (by simp at one; omega)
  cases effect with
  | late closed | dropped closed => exact absurd (closed.symm.trans opened) (by simp)
  | shut closed => exact absurd opened closed
  | closes _ => cases opened
  | first | tests | passed => simp [isTest, isDrain] at none_underway
  | @queued _ w' _ waits =>
    have underway : tests rest + drains rest = 0 := by simpa [isTest, isDrain] using none_underway
    have pending_before : q.pending ≠ [] := by
      rcases waits with busy | halted | pending
      · exact absurd ((unbusy underway rfl).symm.trans busy) Bool.false_ne_true
      · exact (attended opened (by simpa [isTest, isDrain] using underway)).mp halted
      · exact pending
    -- what is appended leaves the head as it is
    obtain ⟨w₀, later₀, split⟩ := List.exists_cons_of_ne_nil pending_before
    obtain rfl : w₀ = w := by
      simp only [split, List.cons_append, List.cons.injEq] at pending
      exact pending.1
    exact head opened (by simpa [isTest, isDrain] using underway) w₀ later₀ split
  | reported => exact head opened (by simpa [isTest, isDrain] using none_underway) w later pending
  | stays busy =>
    have underway : tests rest + drains rest = 0 := by simpa using none_underway
    rcases busy with busy | closed
    · exact absurd ((unbusy underway rfl).symm.trans busy) Bool.false_ne_true
    · exact absurd opened closed
  | drained _ _ empty _ | rests _ _ empty _ => exact absurd (empty.symm.trans pending) (by simp)
  | @putBack _ w' _ =>
    obtain rfl : w' = w := (List.cons.inj pending).1
    exact recent

lemma headRefused_step (head : HeadRefused h m) (attended : AttendedNow m) (one : OneTest m)
    (recent : ∀ x ∈ m.agenda, Recent h x) (move : Moves m a m') :
    HeadRefused (h ++ [(m, a)]) m' := by
  cases move using Machine.Move.elim with
  | work q i rest =>
    exact headRefused_work head attended one (recent _ List.mem_cons_self) (exec_effect i q)
  | call q c rest =>
    intro opened none_underway w later pending
    cases c with
    | test w' => simp [isTest] at none_underway
    | cancel w' cause | drained =>
      have before := head opened (by simpa [isTest, isDrain] using none_underway) w later pending
      exact before.snoc _ rfl rfl
  | note q e rest =>
    intro opened none_underway w later pending
    have before := head opened (by simpa [isTest, isDrain] using none_underway) w later pending
    exact before.snoc _ rfl rfl
  | invoke m is asked =>
    intro opened none_underway w later pending
    simp only [Machine.invoke, tests_append, drains_append] at none_underway
    exact (head opened (by omega) w later pending).snoc _ rfl rfl
  | reply q c rest f =>
    intro opened none_underway w later pending
    cases c with
    | test w' => cases hv : f (.test w') <;> simp [component, resume, isTest, hv] at none_underway
    | cancel w' cause | drained =>
      have before := head opened
        (by simpa [component, resume, isTest, isDrain] using none_underway) w later pending
      exact before.snoc _ rfl rfl

/-! ## Drains are made at once -/

lemma drains_tail_eq_zero {agenda : Agenda μ} (none_due : drains agenda = 0) :
    drains agenda.tail = 0 := by
  rw [drains, List.countP_eq_zero] at none_due ⊢
  exact fun x hx => none_due x (List.mem_of_mem_tail hx)

lemma drains_append_tail_eq_zero {agenda agenda' : Agenda μ} (none_behind : drains agenda.tail = 0)
    (none_below : drains agenda' = 0) : drains (agenda ++ agenda').tail = 0 := by
  cases agenda with
  | nil => exact drains_tail_eq_zero none_below
  | cons x agenda =>
    rw [List.cons_append, List.tail_cons, drains_append, none_below]
    exact none_behind

lemma Effect.drains_tail (effect : Effect i q q' out) : drains (out.map .todo).tail = 0 := by
  cases effect with
  | closes _ =>
    rw [map_todo_closes]
    exact drains_tail_eq_zero (by simp)
  | _ => rfl

lemma drains_of_waits (at_once : drains m.agenda.tail = 0) (waits : m.step component = none) :
    drains m.agenda = 0 := by
  rcases m with ⟨q, _ | ⟨t | c, rest⟩⟩
  · rfl
  · exact absurd rfl (Machine.step_eq_none_iff.mp waits t rest)
  · simpa [isDrain] using at_once

lemma drains_step (at_once : drains m.agenda.tail = 0) (move : Moves m a m') :
    drains m'.agenda.tail = 0 := by
  cases move using Machine.Move.elim with
  | work q i rest => exact drains_append_tail_eq_zero (exec_effect i q).drains_tail at_once
  | call q c rest => exact at_once
  | note q e rest => exact drains_tail_eq_zero at_once
  | invoke m is asked =>
    refine drains_append_tail_eq_zero ?_ (drains_of_waits at_once asked.1)
    cases asked.2 <;> rfl
  | reply q c rest f =>
    refine drains_append_tail_eq_zero ?_ at_once
    cases c with
    | test w => cases f (.test w) <;> rfl
    | cancel w cause | drained => rfl

/-! ## Writes behind a refused one -/

/-- The rule of surroundings that do nothing but write. -/
def WriteOnly (is : List (Instr μ)) : Prop := ∃ w, is = [.submit w]

/-- No test is underway or can begin, and none did. -/
structure HeldBack (h : Past μ) (m : Live μ) : Prop where
  untested : tests m.agenda = 0
  undrained : drains m.agenda = 0
  halted : m.state.closed = none → m.state.halted = true
  none_tried : tried h = []

lemma HeldBack.snoc (held : HeldBack h m) (b : Live μ × Act (Instr μ) (Call μ) Note Reply)
    (none_tried : tries b.2 = []) (same_tests : tests m'.agenda = tests m.agenda)
    (same_drains : drains m'.agenda = drains m.agenda)
    (halted : m'.state.closed = none → m'.state.halted = true) : HeldBack (h ++ [b]) m' := by
  refine ⟨same_tests.trans held.untested, same_drains.trans held.undrained, halted, ?_⟩
  rw [tried_snoc, held.none_tried, none_tried, List.append_nil]

lemma heldBack_step (held : HeldBack h m)
    (move : Machine.Move component (Machine.InTurn component WriteOnly) m a m') :
    HeldBack (h ++ [(m, a)]) m' := by
  have ⟨untested, undrained, halted, _⟩ := held
  cases move using Machine.Move.elim with
  | work q i rest =>
    have effect := exec_effect i q
    simp only [component]
    generalize (exec i q).1 = q' at *
    generalize (exec i q).2 = out at *
    cases effect with
    | passed | dropped | putBack => simp [isTest] at untested
    | stays | tests | drained | rests => simp [isDrain] at undrained
    | first opened _ unhalted => exact absurd (unhalted.symm.trans (halted opened)) (by simp)
    | closes _ =>
      rw [map_todo_closes]
      exact held.snoc _ rfl (by simp [isTest]) (by simp [isDrain]) fun opened => by cases opened
    | _ => exact held.snoc _ rfl (by simp [isTest]) (by simp [isDrain]) halted
  | call q c rest =>
    cases c with
    | test w => simp [isTest] at untested
    | cancel w cause | drained =>
      exact held.snoc _ rfl (by simp [isTest]) (by simp [isDrain]) halted
  | note q e rest => exact held.snoc _ rfl (by simp [isTest]) (by simp [isDrain]) halted
  | invoke m is asked =>
    obtain ⟨w, rfl⟩ := asked.2
    exact held.snoc _ rfl (by simp [Machine.invoke, isTest]) (by simp [Machine.invoke, isDrain])
      halted
  | reply q c rest f =>
    cases c with
    | test w => simp [isTest] at untested
    | cancel w cause | drained =>
      exact held.snoc _ rfl (by simp [component, resume, isTest])
        (by simp [component, resume, isDrain]) halted

lemma heldBack_of_run (held : HeldBack [] m)
    (later : Machine.Run component (Machine.InTurn component WriteOnly) m h' m') :
    HeldBack h' m' := by
  induction later with
  | start => exact held
  | step _ move ih => exact heldBack_step ih move

/-! ## The gate is asked in time, and not before -/

lemma tested_at_once (opened : m.state.closed = none) (untested : m.state.testing = false)
    (unhalted : m.state.halted = false) (empty : m.state.pending = []) (w : μ) :
    Machine.Alone component (m.invoke [.submit w]) [.silent, .silent, .called (.test w)]
      ⟨{ m.state with testing := true },
        .held (.test w) :: .todo (.work .report) :: m.agenda⟩ := by
  rcases m with ⟨⟨pending, mark, testing, halted, closed⟩, agenda⟩
  dsimp only at opened untested unhalted empty
  subst opened untested unhalted empty
  exact .next rfl (.next rfl (.next rfl .stop))

lemma appended (opened : m.state.closed = none) (halted : m.state.halted = true) (w : μ) :
    Machine.Alone component (m.invoke [.submit w])
      [.silent, .silent,
        .noted (.submitted ({ m.state with pending := m.state.pending ++ [w] }).isWritable)]
      ⟨{ m.state with pending := m.state.pending ++ [w] }, m.agenda⟩ := by
  rcases m with ⟨⟨pending, mark, testing, halted', closed⟩, agenda⟩
  dsimp only at opened halted
  subst opened halted
  cases testing <;> exact .next rfl (.next rfl (.next rfl .stop))

/-- When an open outbox asks its gate, and what it knows of the answer. -/
structure AsksInTime (h : Past μ) (m : Live μ) : Prop where
  halted_iff : m.state.halted = true ↔ m.state.pending ≠ []
  refused_head : ∀ w later, m.state.pending = w :: later → LastRefused h w
  empty_tested : m.state.pending = [] → ∀ w,
    Machine.Alone component (m.invoke [.submit w]) [.silent, .silent, .called (.test w)]
      ⟨{ m.state with testing := true }, .held (.test w) :: .todo (.work .report) :: m.agenda⟩
  behind_appended : m.state.pending ≠ [] → ∀ w,
    Machine.Alone component (m.invoke [.submit w])
      [.silent, .silent,
        .noted (.submitted ({ m.state with pending := m.state.pending ++ [w] }).isWritable)]
      ⟨{ m.state with pending := m.state.pending ++ [w] }, m.agenda⟩
  /-- However many writes are appended behind a refused one, the gate is not asked again. -/
  behind_untested : m.state.pending ≠ [] → ∀ h' m',
    Machine.Run component (Machine.InTurn component WriteOnly) m h' m' → tried h' = []

lemma gate_invariants (run : Runs mark h m) :
    (∀ x ∈ m.agenda, Recent h x) ∧ HeadRefused h m ∧ drains m.agenda.tail = 0 := by
  induction run with
  | start =>
    refine ⟨fun x hx => absurd hx List.not_mem_nil, fun _ _ w rest pending => ?_, rfl⟩
    simp [Machine.idle, fresh] at pending
  | step run move ih =>
    obtain ⟨recent, head, at_once⟩ := ih
    have one := (custody_invariants run).1
    have attended := (waking_invariants run).1
    exact ⟨recent_step recent one move, headRefused_step head attended one recent move,
      drains_step at_once move⟩

/-- An open outbox without a test underway is halted exactly if something is pending, and then the
gate has refused the head of it last of all. So only a write that comes to an empty outbox is
tested. -/
theorem asksInTime_of_runs (run : Runs mark h m) (opened : m.state.closed = none) (free : Free m) :
    AsksInTime h m := by
  obtain ⟨-, head, at_once⟩ := gate_invariants run
  have undrained : drains m.agenda = 0 := drains_of_waits at_once free.waits
  have none_underway : tests m.agenda + drains m.agenda = 0 := by rw [free.untested, undrained]
  have halted_iff : m.state.halted = true ↔ m.state.pending ≠ [] :=
    (waking_invariants run).1 opened none_underway
  refine ⟨halted_iff, head opened none_underway, fun empty w => ?_, fun pending w => ?_,
    fun pending h' m' later => ?_⟩
  · have untested : m.state.testing = false := by
      have one : tests m.agenda = m.state.testing.toNat := (custody_invariants run).1
      rw [free.untested] at one
      exact Bool.toNat_eq_zero.mp one.symm
    have unhalted : m.state.halted = false := by
      rw [← Bool.not_eq_true, halted_iff]
      exact fun pending => pending empty
    exact tested_at_once opened untested unhalted empty w
  · exact appended opened (halted_iff.mpr pending) w
  · have held : HeldBack [] m :=
      ⟨free.untested, undrained, fun _ => halted_iff.mpr pending, rfl⟩
    exact (heldBack_of_run held later).none_tried

/-- The gate says `v`; nothing else is asked of the surroundings. -/
def saying (v : Verdict) : (c : Call Nat) → Reply c
  | .test _ => v
  | .cancel _ _ | .drained => ()

/-- The first write is refused and then passes. The second one is refused while its test submits a
third one. -/
def refusedAgain : Past Nat × Live Nat :=
  Machine.drive component 40
    [.ask [.submit 1], .reply (saying .refuse), .ask [.submit 2], .ask [.drain],
      .reply (saying .accept), .ask [.submit 3], .reply (saying .refuse)] (.idle (fresh 2))

/-- Both pass, and a callback is hearing that the outbox has drained. -/
def drainedLater : Past Nat × Live Nat :=
  Machine.drive component 40 [.ask [.drain], .reply (saying .accept), .reply (saying .accept)]
    refusedAgain.2

lemma refusedAgain_runs : Runs 2 refusedAgain.1 refusedAgain.2 := driven_run rfl

lemma drainedLater_runs : Runs 2 (refusedAgain.1 ++ drainedLater.1) drainedLater.2 :=
  refusedAgain_runs.append (driven_run rfl)

/-- At rest two writes wait behind the gate. A write of the callback that hears that the outbox has
drained would be tested at once. -/
theorem asksInTime_refusedAgain :
    Runs 2 refusedAgain.1 refusedAgain.2 ∧ refusedAgain.2.agenda = [] ∧
      AsksInTime refusedAgain.1 refusedAgain.2 ∧ refusedAgain.2.state.pending = [2, 3] ∧
      tried refusedAgain.1 = [1, 1, 2] ∧
      Runs 2 (refusedAgain.1 ++ drainedLater.1) drainedLater.2 ∧ Free drainedLater.2 ∧
      AsksInTime (refusedAgain.1 ++ drainedLater.1) drainedLater.2 ∧
      drainedLater.2.state.pending = [] ∧ drainedLater.2.agenda = [.held .drained] :=
  ⟨refusedAgain_runs, rfl, asksInTime_of_runs refusedAgain_runs rfl (free_of_returned rfl), rfl,
    rfl, drainedLater_runs, ⟨rfl, rfl⟩, asksInTime_of_runs drainedLater_runs rfl ⟨rfl, rfl⟩, rfl,
    rfl⟩

end StreamControl.Outbox
