import StreamControl.Proofs.OutboxGate

/-!
# Closed for good

The first closing of an outbox takes out what is pending and cancels it, before it returns and in
the order of submission. Nothing comes to the gate any more: a test that is underway then is the
last one, and if the gate hands the write back it is cancelled as well, like every write that is
submitted later. All of them hear the cause of the first closing, whatever others follow.
-/

namespace StreamControl.Outbox

variable {μ : Type} {mark : Nat} {cause : Fault} {i : Instr μ} {q q' : Outbox μ} {w : μ}
  {ws : List μ} {out : List (Todo (Instr μ) (Call μ) Note)} {before after h : Past μ}
  {m m₁ m' : Live μ} {rest : Agenda μ} {a : Act (Instr μ) (Call μ) Note Reply}

def handsBack : Act (Instr μ) (Call μ) Note Reply → List μ
  | .own (.work (.refused w)) => [w]
  | _ => []

/-- The writes that the gate has handed back. -/
def handedBack (h : Past μ) : List μ := h.flatMap fun b => handsBack b.2

/-- A write that was submitted with `agenda` below it has been told whether its producer may go
on. -/
def Told (writable : Bool) (agenda : Agenda μ) (h : Past μ) : Prop :=
  ∃ s, (⟨s, .todo (.note (.submitted writable)) :: agenda⟩, .own (.note (.submitted writable))) ∈ h

/-! ## The first closing -/

lemma opened_of_neverClosed (run : Runs mark h m) (never : NeverClosed h) :
    m.state.closed = none := by
  by_contra closed
  obtain ⟨cause, known⟩ := Option.ne_none_iff_exists'.mp closed
  obtain ⟨_, _, _, first, -⟩ := (custody_invariants run).2.2.1.2 cause known
  obtain ⟨before, m₁, after, rfl, -⟩ := first
  exact never (m₁, .own (.work (.close cause))) (by simp) cause rfl

/-- There is one first closing. -/
lemma first_unique {before' after' : Past μ} {m₂ : Live μ} {cause' : Fault}
    (same : before ++ (m₁, .own (.work (.close cause))) :: after =
      before' ++ (m₂, .own (.work (.close cause'))) :: after')
    (never : NeverClosed before) (never' : NeverClosed before') : m₁ = m₂ ∧ after = after' := by
  -- of two that are apart, the later one would have the other before it
  rcases List.append_eq_append_iff.mp same with ⟨later, rfl, split⟩ | ⟨later, rfl, split⟩
  · cases later with
    | nil =>
      obtain ⟨⟨same_machine, -⟩, same_after⟩ := by simpa using split
      exact ⟨same_machine, same_after⟩
    | cons b later =>
      rw [List.cons_append] at split
      obtain ⟨rfl, -⟩ := List.cons.inj split
      exact absurd rfl (never' _ (List.mem_append_right _ List.mem_cons_self) cause)
  · cases later with
    | nil =>
      obtain ⟨⟨same_machine, -⟩, same_after⟩ := by simpa using split
      exact ⟨same_machine.symm, same_after.symm⟩
    | cons b later =>
      rw [List.cons_append] at split
      obtain ⟨rfl, -⟩ := List.cons.inj split
      exact absurd rfl (never _ (List.mem_append_right _ List.mem_cons_self) cause')

/-! ## After the closing -/

/-- What the first closing, which took out the writes `ws`, has made of an outbox by the time that
`after` has happened. -/
structure Shut (cause : Fault) (ws : List μ) (after : Past μ) (m : Live μ) : Prop where
  closed : m.state.closed = some cause
  untried : tried after = []
  cause_due : ∀ w c, .todo (.call (.cancel w c)) ∈ m.agenda → c = cause
  cause_heard : ∀ b ∈ after, ∀ w c, b.2 = .own (.call (.cancel w c)) → c = cause
  counted : (cancelled after ++ doomed m.agenda).Perm (ws ++ submitted after ++ handedBack after)

@[simp] lemma handedBack_snoc (b : Live μ × Act (Instr μ) (Call μ) Note Reply) :
    handedBack (h ++ [b]) = handedBack h ++ handsBack b.2 := by
  simp [handedBack]

/-- A closing passes on its cause to all that it cancels. -/
lemma cause_of_cancelling {c : Fault}
    (due : .todo (.call (.cancel w c)) ∈ (warning cause ws).map .todo ++ cancelling cause ws) :
    c = cause := by
  rcases List.mem_append.mp due with warned | cancelled
  · unfold warning at warned
    split at warned <;> simp at warned
  · obtain ⟨w', -, same⟩ := List.mem_map.mp cancelled
    injection same with same
    injection same with same
    injection same with _ same
    exact same.symm

/-- A closed outbox cancels what is submitted and what is handed back, and nothing else. -/
lemma Effect.doomed_eq (effect : Effect i q q' out) (closed : q.closed ≠ none) :
    doomed (out.map .todo) = submits (.own (.work i)) ++ handsBack (.own (.work i)) := by
  cases effect with
  | late | stays | reported | passed | dropped | shut => rfl
  | first opened | queued opened | tests opened | drained opened | rests opened
  | putBack opened | closes opened => exact absurd opened closed

lemma Effect.cause_eq {c : Fault} (effect : Effect i q q' out) (closed : q.closed = some cause)
    (due : .call (.cancel w c) ∈ out) : c = cause := by
  cases effect with
  | late known | dropped known =>
    obtain rfl := Option.some.inj (known.symm.trans closed)
    simp at due
    exact due.2
  | closes opened => exact absurd (closed.symm.trans opened) (by simp)
  | _ => simp at due

lemma shut_of_close (opened : q.closed = none) (none_doomed : doomed rest = []) :
    Shut cause q.pending []
      ⟨(exec (.close cause) q).1, (exec (.close cause) q).2.map .todo ++ rest⟩ := by
  obtain ⟨cause', same, -, closed, left_to_do⟩ | ⟨-, -, other⟩ :=
    (exec_effect (.close cause) q).closes_or_keeps
  · obtain rfl := Instr.close.inj same
    rw [left_to_do]
    refine ⟨closed, rfl, fun w c due => ?_, by simp, ?_⟩
    · rcases List.mem_append.mp due with now | later
      · exact cause_of_cancelling now
      · rw [doomed, List.flatMap_eq_nil_iff] at none_doomed
        exact absurd (none_doomed _ later) (by simp [doomedEntry])
    · simp [none_doomed, cancelled, submitted, handedBack]
  · exact absurd opened (other cause rfl)

lemma shut_work (shut : Shut cause ws after ⟨q, .todo (.work i) :: rest⟩)
    (effect : Effect i q q' out) :
    Shut cause ws (after ++ [(⟨q, .todo (.work i) :: rest⟩, .own (.work i))])
      ⟨q', out.map .todo ++ rest⟩ := by
  classical
  obtain ⟨closed, untried, cause_due, cause_heard, counted⟩ := shut
  have not_open : q.closed ≠ none := by
    rw [show q.closed = some cause from closed]
    exact Option.some_ne_none cause
  refine ⟨effect.stays_closed closed, by simpa [tries] using untried, fun w c due => ?_, ?_, ?_⟩
  · rcases List.mem_append.mp due with now | later
    · exact effect.cause_eq closed (by simpa using now)
    · exact cause_due w c (List.mem_cons_of_mem _ later)
  · exact List.forall_mem_append.mpr ⟨cause_heard, by simp⟩
  · rw [List.perm_iff_count] at counted ⊢
    intro x
    have hx := counted x
    simp only [doomed_append, effect.doomed_eq not_open, doomed_cons, doomedEntry, cancelled_snoc,
      submitted_snoc, handedBack_snoc, cancels, List.count_append, List.nil_append,
      List.count_nil] at hx ⊢
    omega

/-- What tests, cancels, submits and hands back nothing leaves all this as it is. -/
lemma Shut.aside (shut : Shut cause ws after m) (b : Live μ × Act (Instr μ) (Call μ) Note Reply)
    (none_tried : tries b.2 = [])
    (none_moved : cancels b.2 = [] ∧ submits b.2 = [] ∧ handsBack b.2 = [])
    (same_state : m'.state = m.state) (same_doomed : doomed m'.agenda = doomed m.agenda)
    (due_before : ∀ w c, .todo (.call (.cancel w c)) ∈ m'.agenda →
      .todo (.call (.cancel w c)) ∈ m.agenda) : Shut cause ws (after ++ [b]) m' := by
  obtain ⟨closed, untried, cause_due, cause_heard, counted⟩ := shut
  obtain ⟨none_cancelled, none_submitted, none_back⟩ := none_moved
  refine ⟨same_state ▸ closed, by simpa [none_tried] using untried,
    fun w c due => cause_due w c (due_before w c due), ?_, ?_⟩
  · refine List.forall_mem_append.mpr ⟨cause_heard, List.forall_mem_singleton.mpr ?_⟩
    intro w c heard
    rw [heard] at none_cancelled
    cases none_cancelled
  · simpa [none_cancelled, none_submitted, none_back, same_doomed] using counted

lemma shut_step (shut : Shut cause ws after m) (due : TestsOpen m) (move : Moves m a m') :
    Shut cause ws (after ++ [(m, a)]) m' := by
  cases move using Machine.Move.elim with
  | work q i rest => exact shut_work shut (exec_effect i q)
  | call q c rest =>
    cases c with
    | test w =>
      have not_open : q.closed ≠ none := by
        rw [show q.closed = some cause from shut.closed]
        exact Option.some_ne_none cause
      exact absurd List.mem_cons_self (due.2 not_open w)
    | cancel w c =>
      obtain ⟨closed, untried, cause_due, cause_heard, counted⟩ := shut
      have cause_now : c = cause := cause_due w c List.mem_cons_self
      refine ⟨closed, by simpa [tries] using untried, fun w' c' later => ?_, ?_, ?_⟩
      · exact cause_due w' c' (List.mem_cons_of_mem _ (by simpa using later))
      · refine List.forall_mem_append.mpr ⟨cause_heard, ?_⟩
        simpa using cause_now
      · have moved : (cancelled after ++ [w] ++ doomed rest).Perm
            (ws ++ submitted after ++ handedBack after) := by
          simpa [doomedEntry] using counted
        simpa [cancels, submits, handsBack, doomedEntry] using moved
    | drained => exact shut.aside _ rfl ⟨rfl, rfl, rfl⟩ rfl rfl (by simp)
  | note q e rest => exact shut.aside _ rfl ⟨rfl, rfl, rfl⟩ rfl rfl (by simp)
  | invoke m is asked =>
    have none_asked : doomed (is.map (.todo ∘ .work) : Agenda μ) = [] := by
      simp [doomed, doomedEntry]
    refine shut.aside _ rfl ⟨rfl, rfl, rfl⟩ rfl ?_ (by simp [Machine.invoke])
    rw [Machine.invoke, doomed_append, none_asked, List.nil_append]
  | reply q c rest f =>
    cases c with
    | test w =>
      refine shut.aside _ rfl ⟨rfl, rfl, rfl⟩ rfl ?_ ?_
      · cases hv : f (.test w) <;> simp [component, resume, doomedEntry]
      · cases hv : f (.test w) <;> simp [component, resume]
    | cancel w c | drained =>
      exact shut.aside _ rfl ⟨rfl, rfl, rfl⟩ rfl rfl (by simp [component, resume])

/-- From the first closing on, an outbox is shut. -/
lemma shut_of_runs (run : Runs mark (before ++ (m₁, .own (.work (.close cause))) :: after) m)
    (never : NeverClosed before) : Shut cause m₁.state.pending after m := by
  obtain ⟨first, m₂, move, later⟩ := run.split
  have opened : m₁.state.closed = none := opened_of_neverClosed first never
  have shut₂ : Shut cause m₁.state.pending [] m₂ := by
    obtain ⟨-, ⟨whileOpen, -⟩, -, -⟩ := custody_invariants first
    have none_doomed := (whileOpen opened).2.1
    rcases m₁ with ⟨q, agenda⟩
    obtain ⟨possible, rfl⟩ := Machine.move_iff.mp move
    obtain ⟨rest, rfl⟩ := List.head?_eq_some_iff.mp possible
    exact shut_of_close opened none_doomed
  -- by induction on what has happened since the closing
  clear run
  induction later with
  | start => exact shut₂
  | step later move_now ih =>
    have due := (custody_invariants ((first.step move).append later)).2.2.2
    exact shut_step ih due move_now

/-! ## Writes and closings that come later -/

lemma late_cancelled (closed : m.state.closed = some cause) (w : μ) :
    Machine.Alone component (m.invoke [.submit w]) [.silent, .called (.cancel w cause)]
      ⟨m.state, .held (.cancel w cause) :: .todo (.note (.submitted false)) :: m.agenda⟩ := by
  rcases m with ⟨⟨pending, mark, testing, halted, closed'⟩, agenda⟩
  dsimp only at closed
  subst closed
  exact .next rfl (.next rfl .stop)

/-- Whatever comes above it does, a run gets to the answer to a write in the end. -/
lemma told_of_run {x : Entry (Instr μ) (Call μ) Note} {writable : Bool}
    (run : Machine.Run component (Machine.InTurn component Request)
      ⟨q, x :: .todo (.note (.submitted writable)) :: rest⟩ h m)
    (down : m.agenda.length ≤ rest.length) : Told writable rest h := by
  have split : (⟨q, x :: .todo (.note (.submitted writable)) :: rest⟩ : Live μ).agenda =
      [x] ++ .todo (.note (.submitted writable)) :: rest := rfl
  obtain ⟨h₁, m₁, h₂, rfl, -, reached, later⟩ := run.returns split (Nat.le_succ_of_le down)
  have moved : m.agenda ≠ m₁.agenda := by
    intro same
    rw [same, reached, List.length_cons] at down
    omega
  obtain ⟨h₃, rfl, -⟩ := later.own_first reached moved
  refine ⟨m₁.state, List.mem_append_right _ ?_⟩
  rw [← reached]
  exact List.mem_cons_self

lemma late_told (closed : m.state.closed = some cause)
    (run : Machine.Run component (Machine.InTurn component Request) (m.invoke [.submit w]) h m')
    (down : m'.agenda.length ≤ m.agenda.length) : Told false m.agenda h := by
  have moved : m'.agenda ≠ .todo (.work (.submit w)) :: m.agenda := by
    intro same
    rw [same, List.length_cons] at down
    omega
  rcases m with ⟨⟨pending, mark, testing, halted, closed'⟩, agenda⟩
  dsimp only at closed
  subst closed
  obtain ⟨h, rfl, calls⟩ := run.own_first rfl moved
  obtain ⟨s, told⟩ := told_of_run calls down
  exact ⟨s, List.mem_cons_of_mem _ told⟩

lemma late_closed (closed : m.state.closed = some cause) (cause' : Fault) :
    Machine.Alone component (m.invoke [.close cause']) [.silent] m := by
  rcases m with ⟨⟨pending, mark, testing, halted, closed'⟩, agenda⟩
  dsimp only at closed
  subst closed
  exact .next rfl .stop

/-- The write at the gate of a closed outbox runs if it passes, and nothing else is tested. -/
lemma last_passed (closed : q.closed = some cause) :
    Machine.Alone component ⟨q, .todo (.work .accepted) :: rest⟩ [.silent, .silent]
      ⟨{ q with testing := false }, rest⟩ := by
  rcases q with ⟨pending, mark, testing, halted, closed'⟩
  dsimp only at closed
  subst closed
  exact .next rfl (.next rfl .stop)

lemma last_refused (closed : q.closed = some cause) :
    Machine.Alone component ⟨q, .todo (.work (.refused w)) :: rest⟩
      [.silent, .called (.cancel w cause)]
      ⟨{ q with testing := false }, .held (.cancel w cause) :: rest⟩ := by
  rcases q with ⟨pending, mark, testing, halted, closed'⟩
  dsimp only at closed
  subst closed
  exact .next rfl (.next rfl .stop)

/-! ## Closed for good -/

/-- An outbox was closed for the first time at `m₁`, after the history `before` and with `cause`;
since then `after` has happened. -/
structure ClosedForGood (cause : Fault) (before : Past μ) (m₁ : Live μ) (after : Past μ)
    (m : Live μ) : Prop where
  closed : m.state.closed = some cause
  empty : m.state.pending = []
  untried : tried after = []
  cause_heard : ∀ b ∈ after, ∀ w c, b.2 = .own (.call (.cancel w c)) → c = cause
  in_order : List.Sublist m₁.state.pending (submitted before)
  /-- Once the closing has returned, all that was pending has been cancelled in its order. -/
  all_cancelled : m.agenda.length ≤ m₁.agenda.tail.length →
    List.Sublist m₁.state.pending (cancelled after)
  /-- What is cancelled, or is about to be, was pending at the closing, or was submitted or handed
  back by the gate since. -/
  counted : (cancelled after ++ doomed m.agenda).Perm
    (m₁.state.pending ++ submitted after ++ handedBack after)
  once : (submitted before ++ submitted after).Nodup →
    (ran before ++ ran after ++ cancelled after).Nodup
  passed : ∀ w rest, m.agenda = .held (.test w) :: rest →
    Machine.Alone component (m.after component (.answer (.test w) Verdict.accept))
      [.silent, .silent] ⟨{ m.state with testing := false }, rest⟩
  refused : ∀ w rest, m.agenda = .held (.test w) :: rest →
    Machine.Alone component (m.after component (.answer (.test w) Verdict.refuse))
      [.silent, .called (.cancel w cause)]
      ⟨{ m.state with testing := false }, .held (.cancel w cause) :: rest⟩
  late_write : ∀ w,
    Machine.Alone component (m.invoke [.submit w]) [.silent, .called (.cancel w cause)]
      ⟨m.state, .held (.cancel w cause) :: .todo (.note (.submitted false)) :: m.agenda⟩
  late_answer : ∀ w h' m',
    Machine.Run component (Machine.InTurn component Request) (m.invoke [.submit w]) h' m' →
    m'.agenda.length ≤ m.agenda.length → Told false m.agenda h'
  late_close : ∀ cause',
    Machine.Alone component (m.invoke [.close cause']) [.silent] m

lemma cancelled_of_returned
    (run : Runs mark (before ++ (m₁, .own (.work (.close cause))) :: after) m)
    (never : NeverClosed before) (closed : m.state.closed = some cause)
    (down : m.agenda.length ≤ m₁.agenda.tail.length) :
    List.Sublist m₁.state.pending (cancelled after) := by
  obtain ⟨-, -, ⟨-, taken⟩, -⟩ := custody_invariants run
  obtain ⟨gone, left, rest, first, still⟩ := taken cause closed
  obtain ⟨before', m₂, after', same, never', -, head, pending, fewer⟩ := first
  obtain ⟨rfl, rfl⟩ := first_unique same never never'
  rw [head, List.tail_cons] at down
  rw [pending, still.returned down, List.append_nil]
  exact fewer

lemma never_twice (run : Runs mark (before ++ (m₁, .own (.work (.close cause))) :: after) m)
    (distinct : (submitted before ++ submitted after).Nodup) :
    (ran before ++ ran after ++ cancelled after).Nodup := by
  have distinct_all : (submitted (before ++ (m₁, .own (.work (.close cause))) :: after)).Nodup := by
    simpa [submitted, submits] using distinct
  have all_once := (custody_of_runs run).once distinct_all
  have ran_eq : ran (before ++ (m₁, .own (.work (.close cause))) :: after) =
      ran before ++ ran after := by simp [ran, passes]
  have cancelled_eq : cancelled (before ++ (m₁, .own (.work (.close cause))) :: after) =
      cancelled before ++ cancelled after := by simp [cancelled, cancels]
  rw [ran_eq, cancelled_eq] at all_once
  refine all_once.sublist (List.Sublist.append ?_ (List.sublist_append_right _ _))
  simp only [List.append_assoc, List.append_sublist_append_left]
  exact List.sublist_append_left _ _

/-- However the outbox is re-entered, its first closing is complete when it returns, and final:
what is pending is cancelled in order, what is at the gate is the last to be tested, and what comes
later is cancelled at once, all with the cause of this closing. -/
theorem closedForGood_of_runs
    (run : Runs mark (before ++ (m₁, .own (.work (.close cause))) :: after) m)
    (never : NeverClosed before) : ClosedForGood cause before m₁ after m := by
  obtain ⟨closed, untried, -, cause_heard, counted⟩ := shut_of_runs run never
  obtain ⟨first, -⟩ := run.split
  have not_open : m.state.closed ≠ none := by
    rw [closed]
    exact Option.some_ne_none cause
  refine ⟨closed, ?_, untried, cause_heard, ?_, cancelled_of_returned run never closed, counted,
    never_twice run, ?_, ?_, late_cancelled closed, fun w h' m' => late_told closed,
    late_closed closed⟩
  · exact ((custody_invariants run).2.1.2 not_open).1
  · exact (List.sublist_append_right _ _).trans (custody_of_runs first).in_order
  · intro w rest head
    simpa [Machine.after, component, resume, head] using last_passed closed
  · intro w rest head
    simpa [Machine.after, component, resume, head] using last_refused closed

/-- The test of the first of three writes is about to close the outbox. -/
def closingInTest : Past Nat × Live Nat :=
  Machine.drive component 13
    [.ask [.submit 1], .ask [.submit 2], .ask [.submit 3], .ask [.close .closed]]
    (.idle (fresh 2))

/-- The cancellation of the second write submits a fourth one and closes the outbox once more. In
the end the gate refuses the first write. -/
def closedInTest : Past Nat × Live Nat :=
  Machine.drive component 60
    [.ask [.submit 4], .reply (saying .refuse), .ask [.close (.reset 8)], .reply (saying .refuse),
      .reply (saying .refuse), .reply (saying .refuse), .reply (saying .refuse)] closingInTest.2

lemma closingInTest_runs : Runs 2 closingInTest.1 closingInTest.2 := driven_run rfl

lemma closedInTest_runs : Runs 2
    (closingInTest.1 ++ (closingInTest.2, .own (.work (.close .closed))) :: closedInTest.1.tail)
    closedInTest.2 := by
  have later : Machine.Run component (Machine.InTurn component Request) closingInTest.2
      closedInTest.1 closedInTest.2 := driven_run rfl
  exact closingInTest_runs.append later

/-- The fourth write is cancelled inside the cancellation of the second one, and the first write
last of all. -/
theorem closedForGood_closedInTest :
    Runs 2
        (closingInTest.1 ++ (closingInTest.2, .own (.work (.close .closed))) :: closedInTest.1.tail)
        closedInTest.2 ∧
      NeverClosed closingInTest.1 ∧
      ClosedForGood .closed closingInTest.1 closingInTest.2 closedInTest.1.tail closedInTest.2 ∧
      closingInTest.2.state.pending = [2, 3] ∧ cancelled closedInTest.1.tail = [2, 4, 3, 1] ∧
      closedInTest.2.agenda = [] := by
  have never : NeverClosed closingInTest.1 := (custody_invariants closingInTest_runs).2.2.1.1 rfl
  exact ⟨closedInTest_runs, never, closedForGood_of_runs closedInTest_runs never, rfl, rfl, rfl⟩

end StreamControl.Outbox
