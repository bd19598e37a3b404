import StreamControl.Proofs.OutboxPlaces

/-!
# The custody of a write

From its submission on, a write of an outbox is in exactly one place, whatever the gate says
and however the callbacks re-enter the outbox: it is pending, at the gate, has run, was
cancelled, or is what the first closing has still to cancel. Writes never overtake one another.
-/

namespace StreamControl.Outbox

variable {μ : Type} {h : Past μ} {m m' : Live μ} {rest agenda : Agenda μ} {cause : Fault}
  {gone left : List μ} {w : μ}

/-! ## The first closing -/

def NeverClosed (h : Past μ) : Prop := ∀ b ∈ h, ∀ cause, b.2 ≠ .own (.work (.close cause))

/-- The first closing found the outbox open and `rest` below it on the agenda. Of what was
pending it has cancelled the writes `gone`, and not yet those `left`. -/
def FirstClosing (cause : Fault) (gone left : List μ) (rest : Agenda μ) (h : Past μ) : Prop :=
  ∃ before m after, h = before ++ (m, .own (.work (.close cause))) :: after ∧
    NeverClosed before ∧ m.state.closed = none ∧
    m.agenda = .todo (.work (.close cause)) :: rest ∧ m.state.pending = gone ++ left ∧
    List.Sublist gone (cancelled after)

/-- Above `rest`, the agenda has the cancellations of the writes `left`, unless there are none;
besides, only its head may be a cancellation. -/
def Cancelling (cause : Fault) (left : List μ) (rest agenda : Agenda μ) : Prop :=
  (left = [] ∧ doomed agenda.tail = []) ∨
    ∃ above, agenda = above ++ cancelling cause left ++ rest ∧ doomed above.tail = [] ∧
      doomed rest = []

lemma FirstClosing.snoc (first : FirstClosing cause gone left rest h)
    (b : Live μ × Act (Instr μ) (Call μ) Note Reply) :
    FirstClosing cause gone left rest (h ++ [b]) := by
  obtain ⟨before, m, after, rfl, never, opened, head, pending, fewer⟩ := first
  refine ⟨before, m, after ++ [b], by simp, never, opened, head, pending, ?_⟩
  rw [cancelled_snoc]
  exact fewer.trans (List.sublist_append_left _ _)

lemma FirstClosing.cancel (first : FirstClosing cause gone (w :: left) rest h) (m : Live μ)
    (cause' : Fault) :
    FirstClosing cause (gone ++ [w]) left rest (h ++ [(m, .own (.call (.cancel w cause')))]) := by
  obtain ⟨before, m₁, after, rfl, never, opened, head, pending, fewer⟩ := first
  refine ⟨before, m₁, after ++ [(m, .own (.call (.cancel w cause')))], by simp, never, opened,
    head, by simpa using pending, ?_⟩
  rw [cancelled_snoc]
  exact fewer.append (List.Sublist.refl [w])

/-- What is done for the head of the agenda may in turn have one cancellation in front. -/
lemma Cancelling.replace {x : Entry (Instr μ) (Call μ) Note} {tail : Agenda μ}
    (still : Cancelling cause left rest (x :: tail)) (out : Agenda μ) (hx : doomedEntry x = [])
    (hout : doomed out.tail = []) : Cancelling cause left rest (out ++ tail) := by
  have behind {later : Agenda μ} (none_later : doomed later = []) :
      doomed (out ++ later).tail = [] := flatMap_append_tail_eq_nil hout none_later
  rcases still with ⟨none_left, none_tail⟩ | ⟨above, split, none_above, none_rest⟩
  · exact .inl ⟨none_left, behind none_tail⟩
  · cases above with
    | nil =>
      cases left with
      | nil =>
        simp only [cancelling, List.map_nil, List.nil_append] at split
        have none_all : doomed (x :: tail) = [] := by rw [split]; exact none_rest
        simp only [doomed_cons, hx, List.nil_append] at none_all
        exact .inl ⟨rfl, behind none_all⟩
      | cons w left =>
        simp only [cancelling, List.map_cons, List.nil_append, List.cons_append,
          List.cons.injEq] at split
        simp [split.1, doomedEntry] at hx
    | cons y above =>
      simp only [List.cons_append, List.cons.injEq] at split
      refine .inr ⟨out ++ above, ?_, behind none_above, none_rest⟩
      simp [split.2]

lemma Cancelling.next {cause' : Fault} {tail : Agenda μ}
    (still : Cancelling cause left rest (.todo (.call (.cancel w cause')) :: tail)) :
    Cancelling cause left rest (.held (.cancel w cause') :: tail) ∨
      ∃ left', left = w :: left' ∧
        Cancelling cause left' rest (.held (.cancel w cause') :: tail) := by
  rcases still with ⟨none_left, none_tail⟩ | ⟨above, split, none_above, none_rest⟩
  · exact .inl (.inl ⟨none_left, none_tail⟩)
  · cases above with
    | nil =>
      cases left with
      | nil =>
        rw [show rest = _ by simpa [cancelling] using split.symm] at none_rest
        simp [doomedEntry] at none_rest
      | cons w' left =>
        simp only [cancelling, List.map_cons, List.nil_append, List.cons_append,
          List.cons.injEq, Entry.todo.injEq, Todo.call.injEq, Call.cancel.injEq] at split
        obtain ⟨⟨rfl, rfl⟩, rfl⟩ := split
        exact .inr ⟨left, rfl, .inr ⟨[.held (.cancel w cause')], rfl, rfl, none_rest⟩⟩
    | cons y above =>
      simp only [List.cons_append, List.cons.injEq] at split
      obtain ⟨rfl, rfl⟩ := split
      exact .inl (.inr ⟨.held (.cancel w cause') :: above, rfl, none_above, none_rest⟩)

lemma Cancelling.invoke {is : List (Instr μ)} (still : Cancelling cause left rest m.agenda)
    (waits : m.step component = none) : Cancelling cause left rest (m.invoke is).agenda := by
  have none_asked : doomed (is.map (.todo ∘ .work)) = [] := by
    simp [doomed, doomedEntry]
  rcases m with ⟨q, _ | ⟨_ | c, tail⟩⟩
  · have none_left : left = [] := by
      rcases still with ⟨none_left, _⟩ | ⟨above, split, _, _⟩
      · exact none_left
      · simp only [List.nil_eq, List.append_eq_nil_iff, cancelling, List.map_eq_nil_iff] at split
        exact split.1.2
    refine .inl ⟨none_left, ?_⟩
    simp only [Machine.invoke, List.append_nil]
    exact flatMap_tail_eq_nil none_asked
  · exact absurd rfl (Machine.step_eq_none_iff.mp waits _ tail)
  · have none_out : doomed (is.map (.todo ∘ .work) ++ [.held c]) = [] := by
      rw [doomed_append, none_asked]
      rfl
    simpa [Machine.invoke] using still.replace _ rfl (flatMap_tail_eq_nil none_out)

/-- Once it is closed, an outbox still cancels what the first closing took out. -/
def ClosedOnce (h : Past μ) (m : Live μ) : Prop :=
  (m.state.closed = none → NeverClosed h) ∧
    ∀ cause, m.state.closed = some cause → ∃ gone left rest,
      FirstClosing cause gone left rest h ∧ Cancelling cause left rest m.agenda

lemma NeverClosed.snoc (never : NeverClosed h) {b : Live μ × Act (Instr μ) (Call μ) Note Reply}
    (other : ∀ cause, b.2 ≠ .own (.work (.close cause))) : NeverClosed (h ++ [b]) := by
  intro b' hb'
  rcases List.mem_append.mp hb' with earlier | last
  · exact never b' earlier
  · rw [List.mem_singleton.mp last]
    exact other

/-- An instruction closes an open outbox, or it leaves things as they were and has at most one
write to cancel. -/
lemma Effect.closes_or_keeps {i : Instr μ} {q q' : Outbox μ}
    {out : List (Todo (Instr μ) (Call μ) Note)} (effect : Effect i q q' out) :
    (∃ cause, i = .close cause ∧ q.closed = none ∧ q'.closed = some cause ∧
      out.map .todo = (warning cause q.pending).map .todo ++ cancelling cause q.pending) ∨
    (q'.closed = q.closed ∧ doomed (out.map .todo).tail = [] ∧
      ∀ cause, i = .close cause → q.closed ≠ none) := by
  cases effect with
  | closes opened => exact .inl ⟨_, rfl, opened, rfl, map_todo_closes ..⟩
  | shut closed => exact .inr ⟨rfl, rfl, fun _ _ => closed⟩
  | _ => exact .inr (by simp [doomedEntry])

lemma closedOnce_step {a} (once : ClosedOnce h m) (places : InPlace h m)
    (move : Moves m a m') :
    ClosedOnce (h ++ [(m, a)]) m' := by
  obtain ⟨never, taken⟩ := once
  cases move using Machine.Move.elim with
  | work q i tail =>
    rcases (exec_effect i q).closes_or_keeps with
      ⟨cause, rfl, opened, closed, left_to_do⟩ | ⟨kept, none_out, other⟩
    · have none_rest : doomed tail = [] := (places.1 opened).2.1
      refine ⟨fun still => ?_, fun cause' same => ?_⟩
      · rw [show (component.exec (.close cause) q).1.closed = some cause from closed] at still
        cases still
      · obtain rfl := Option.some.inj (closed.symm.trans same)
        refine ⟨[], q.pending, tail, ?_, .inr ⟨(warning cause q.pending).map .todo, ?_, ?_, ?_⟩⟩
        · exact ⟨h, _, [], rfl, never opened, opened, rfl, rfl, List.Sublist.refl _⟩
        · simp [component, left_to_do]
        · exact flatMap_tail_eq_nil (doomed_warning ..)
        · exact none_rest
    · refine ⟨fun opened => ?_, fun cause closed => ?_⟩
      · have before : q.closed = none := kept.symm.trans opened
        refine (never before).snoc fun cause same => ?_
        exact other cause (Todo.work.inj (Act.own.inj same)) before
      · obtain ⟨gone, left, rest, first, still⟩ := taken cause (kept.symm.trans closed)
        exact ⟨gone, left, rest, first.snoc _, still.replace _ rfl none_out⟩
  | call q c tail =>
    refine ⟨fun opened => (never opened).snoc (by simp), fun cause closed => ?_⟩
    obtain ⟨gone, left, rest, first, still⟩ := taken cause closed
    cases c with
    | cancel w cause' =>
      rcases still.next with same | ⟨left', rfl, fewer⟩
      · exact ⟨gone, left, rest, first.snoc _, same⟩
      · exact ⟨gone ++ [w], left', rest, first.cancel _ cause', fewer⟩
    | test w | drained =>
      exact ⟨gone, left, rest, first.snoc _, still.replace [.held _] rfl rfl⟩
  | note q e tail =>
    refine ⟨fun opened => (never opened).snoc (by simp), fun cause closed => ?_⟩
    obtain ⟨gone, left, rest, first, still⟩ := taken cause closed
    exact ⟨gone, left, rest, first.snoc _, still.replace [] rfl rfl⟩
  | invoke m is asked =>
    refine ⟨fun opened => (never opened).snoc (by simp), fun cause closed => ?_⟩
    obtain ⟨gone, left, rest, first, still⟩ := taken cause closed
    exact ⟨gone, left, rest, first.snoc _, still.invoke asked.1⟩
  | reply q c tail f =>
    refine ⟨fun opened => (never opened).snoc (by simp), fun cause closed => ?_⟩
    obtain ⟨gone, left, rest, first, still⟩ := taken cause closed
    refine ⟨gone, left, rest, first.snoc _, still.replace _ rfl ?_⟩
    cases c with
    | test w => cases f (.test w) <;> rfl
    | cancel w cause | drained => rfl

/-- Once the agenda is down to what was below the closing, no write of its is left. -/
lemma Cancelling.returned (still : Cancelling cause left rest agenda)
    (down : agenda.length ≤ rest.length) : left = [] := by
  rcases still with ⟨none_left, _⟩ | ⟨above, rfl, _, _⟩
  · exact none_left
  · rw [← List.length_eq_zero_iff]
    simp only [List.length_append, cancelling, List.length_map] at down
    omega

/-- While the surroundings are in control, only writes of the closing are left to cancel. -/
lemma Cancelling.doomed_eq (still : Cancelling cause left rest m.agenda)
    (waits : m.step component = none) : doomed m.agenda = left := by
  have none_head (above below : Agenda μ) (split : m.agenda = above ++ below)
      (none_above : doomed above.tail = []) : doomed above = [] := by
    rcases above with _ | ⟨⟨t⟩ | c, above⟩
    · rfl
    · exact absurd split (Machine.step_eq_none_iff.mp waits _ _)
    · exact none_above
  rcases still with ⟨rfl, none_tail⟩ | ⟨above, split, none_above, none_rest⟩
  · exact none_head m.agenda [] (by simp) none_tail
  · have none_front := none_head above (cancelling cause left ++ rest) (by simpa using split)
      none_above
    simp [split, none_front, none_rest]

/-! ## Tests of an open outbox -/

/-- A test is called as soon as it is due, and the outbox is open then. -/
def TestsOpen (m : Live μ) : Prop :=
  (∀ w, .todo (.call (.test w)) ∉ m.agenda.tail) ∧
    (m.state.closed ≠ none → ∀ w, .todo (.call (.test w)) ∉ m.agenda)

lemma testsOpen_of_none {q : Outbox μ} (none_due : ∀ w, .todo (.call (.test w)) ∉ agenda) :
    TestsOpen ⟨q, agenda⟩ :=
  ⟨fun w later => none_due w (List.mem_of_mem_tail later), fun _ => none_due⟩

lemma testsOpen_step {a} (due : TestsOpen m)
    (move : Moves m a m') : TestsOpen m' := by
  have not_later := due.1
  cases move using Machine.Move.elim with
  | work q i tail =>
    have effect := exec_effect i q
    simp only [component]
    generalize (exec i q).1 = q' at *
    generalize (exec i q).2 = out at *
    cases effect with
    | tests opened _ _ => exact ⟨not_later, fun closed => absurd opened closed⟩
    | closes _ =>
      refine testsOpen_of_none fun w => ?_
      rw [map_todo_closes]
      unfold warning cancelling
      split <;> simpa using not_later w
    | _ => exact testsOpen_of_none (by simpa using not_later)
  | call q c tail => exact testsOpen_of_none (by simpa using not_later)
  | note q e tail => exact testsOpen_of_none not_later
  | invoke m is asked =>
    rcases m with ⟨q, _ | ⟨_ | c, tail⟩⟩
    · exact testsOpen_of_none (by simp)
    · exact absurd rfl (Machine.step_eq_none_iff.mp asked.1 _ tail)
    · exact testsOpen_of_none (by simpa using not_later)
  | reply q c tail f =>
    cases c with
    | test w =>
      cases verdict : f (.test w) <;>
        exact testsOpen_of_none (by simpa [component, resume, verdict] using not_later)
    | cancel w cause | drained => exact testsOpen_of_none not_later

/-! ## Custody -/

/-- Where every write is, after the history `h` of an outbox. -/
structure Custody (h : Past μ) (m : Live μ) : Prop where
  places : (submitted h).Perm
    (ran h ++ atGate m.agenda ++ m.state.pending ++ doomed m.agenda ++ cancelled h)
  once : (submitted h).Nodup →
    (ran h ++ atGate m.agenda ++ m.state.pending ++ doomed m.agenda ++ cancelled h).Nodup
  one_at_gate : (atGate m.agenda).length ≤ 1
  in_order : List.Sublist (ran h ++ atGate m.agenda ++ m.state.pending) (submitted h)
  tested : ∀ w tail, m.agenda = .todo (.call (.test w)) :: tail →
    submitted h = ran h ++ w :: m.state.pending
  opened : m.state.closed = none → NeverClosed h ∧ doomed m.agenda = [] ∧ cancelled h = []
  /-- What is out of the queue and has still to be cancelled was taken out by the first closing,
  which is underway and cancels it before it returns. -/
  taken : ∀ cause, m.state.closed = some cause → ∃ gone left rest,
    FirstClosing cause gone left rest h ∧ Cancelling cause left rest m.agenda ∧
      (m.step component = none → doomed m.agenda = left) ∧
      (m.agenda.length ≤ rest.length → left = [])

lemma custody_invariants {mark : Nat} (run : Runs mark h m) :
    OneTest m ∧ InPlace h m ∧ ClosedOnce h m ∧ TestsOpen m := by
  induction run with
  | start =>
    refine ⟨rfl, ⟨fun _ => ⟨rfl, rfl, rfl⟩, fun closed => absurd rfl closed⟩, ⟨?_, ?_⟩, ?_⟩
    · simp [NeverClosed]
    · simp [Machine.idle, fresh]
    · exact testsOpen_of_none (by simp)
  | step _ move ih =>
    obtain ⟨one, places, once, due⟩ := ih
    exact ⟨oneTest_step one move, inPlace_step one places move, closedOnce_step once places move,
      testsOpen_step due move⟩

/-- Whatever the gate says and however the callbacks re-enter the outbox, every submitted write
is in exactly one place, and no write overtakes another. -/
theorem custody_of_runs {mark : Nat} (run : Runs mark h m) : Custody h m := by
  obtain ⟨one, ⟨whileOpen, onceClosed⟩, ⟨never, taken⟩, due⟩ := custody_invariants run
  have at_most_one : (atGate m.agenda).length ≤ 1 := by
    have le_one := Bool.toNat_le m.state.testing
    have gate := length_atGate_le m.agenda
    unfold OneTest at one
    omega
  have places : (submitted h).Perm
      (ran h ++ atGate m.agenda ++ m.state.pending ++ doomed m.agenda ++ cancelled h) := by
    by_cases opened : m.state.closed = none
    · obtain ⟨order, none_doomed, none_cancelled⟩ := whileOpen opened
      rw [none_doomed, none_cancelled, ← order]
      simp
    · obtain ⟨none_pending, _, all⟩ := onceClosed opened
      simpa [none_pending] using all
  refine ⟨places, fun distinct => places.nodup_iff.mp distinct, at_most_one, ?_, ?_, ?_, ?_⟩
  · by_cases opened : m.state.closed = none
    · rw [(whileOpen opened).1]
    · obtain ⟨none_pending, order, _⟩ := onceClosed opened
      simpa [none_pending] using order
  · intro w tail head
    have opened : m.state.closed = none := by
      by_contra closed
      exact due.2 closed w (by simp [head])
    have order := (whileOpen opened).1
    have alone : atGate tail = [] := by
      simpa [head, gateEntry] using at_most_one
    simpa [head, gateEntry, alone] using order
  · intro opened
    exact ⟨never opened, (whileOpen opened).2⟩
  · intro cause closed
    obtain ⟨gone, left, rest, first, still⟩ := taken cause closed
    exact ⟨gone, left, rest, first, still, still.doomed_eq, still.returned⟩

/-- An outbox that is re-entered: the test of the first of three writes closes it, and then the
cancellation of the second one submits a fourth. -/
def reentered : Past Nat × Live Nat :=
  Machine.drive component 40
    [.ask [.submit 1], .ask [.submit 2], .ask [.submit 3], .ask [.close .closed],
      .ask [.submit 4], .reply fun | .test _ => .refuse | .cancel _ _ | .drained => ()]
    (.idle (fresh 2))

lemma reentered_runs : Runs 2 reentered.1 reentered.2 := driven_run rfl

/-- The first write is at the gate, the third one is still to be cancelled by the closing, and
the others were cancelled. -/
theorem custody_reentered : Runs 2 reentered.1 reentered.2 ∧ Custody reentered.1 reentered.2 ∧
    submitted reentered.1 = [1, 2, 3, 4] ∧ atGate reentered.2.agenda = [1] ∧
    doomed reentered.2.agenda = [3] ∧ cancelled reentered.1 = [2, 4] :=
  ⟨reentered_runs, custody_of_runs reentered_runs, rfl, rfl, rfl, rfl⟩

end StreamControl.Outbox
