import Mathlib.Data.List.Perm.Basic
import StreamControl.Proofs.OutboxRun

/-!
# Where the writes of an outbox are

A write that was taken out of the queue is kept by the agenda alone: by a test that has not
been settled, or by a cancellation that has still to be called. Together with the queue and
with what happened, the agenda accounts for every write.
-/

namespace StreamControl.Outbox

variable {μ : Type}

def submits : Act (Instr μ) (Call μ) Note Reply → List μ
  | .own (.work (.submit w)) => [w]
  | _ => []

def passes : Act (Instr μ) (Call μ) Note Reply → List μ
  | .answer (.test w) .accept => [w]
  | _ => []

def cancels : Act (Instr μ) (Call μ) Note Reply → List μ
  | .own (.call (.cancel w _)) => [w]
  | _ => []

/-- The writes submitted so far, in submission order. -/
def submitted (h : Past μ) : List μ := h.flatMap fun b => submits b.2

/-- The writes that ran, in this order. -/
def ran (h : Past μ) : List μ := h.flatMap fun b => passes b.2

def cancelled (h : Past μ) : List μ := h.flatMap fun b => cancels b.2

/-- The write that an entry keeps at the gate: it is about to be tested, is being tested, or
was just handed back. -/
def gateEntry : Entry (Instr μ) (Call μ) Note → List μ
  | .todo (.call (.test w)) | .held (.test w) | .todo (.work (.refused w)) => [w]
  | _ => []

def doomedEntry : Entry (Instr μ) (Call μ) Note → List μ
  | .todo (.call (.cancel w _)) => [w]
  | _ => []

def atGate (agenda : Agenda μ) : List μ := agenda.flatMap gateEntry

/-- The writes that are taken out and have still to be cancelled. -/
def doomed (agenda : Agenda μ) : List μ := agenda.flatMap doomedEntry

/-- What a closing has to do for the writes it took out. -/
def cancelling (cause : Fault) (ws : List μ) : Agenda μ :=
  ws.map fun w => .todo (.call (.cancel w cause))

/-- An entry belongs to a test that has not been settled. -/
def isTest : Entry (Instr μ) (Call μ) Note → Bool
  | .todo (.call (.test _)) | .held (.test _) => true
  | .todo (.work .accepted) | .todo (.work (.refused _)) => true
  | _ => false

def tests (agenda : Agenda μ) : Nat := agenda.countP isTest

section Views

variable (h : Past μ) (b : Live μ × Act (Instr μ) (Call μ) Note Reply)
  (x : Entry (Instr μ) (Call μ) Note) (agenda agenda' : Agenda μ)

@[simp] lemma submitted_snoc : submitted (h ++ [b]) = submitted h ++ submits b.2 := by
  simp [submitted]

@[simp] lemma ran_snoc : ran (h ++ [b]) = ran h ++ passes b.2 := by
  simp [ran]

@[simp] lemma cancelled_snoc : cancelled (h ++ [b]) = cancelled h ++ cancels b.2 := by
  simp [cancelled]

@[simp] lemma atGate_nil : atGate ([] : Agenda μ) = [] := rfl

@[simp] lemma atGate_cons : atGate (x :: agenda) = gateEntry x ++ atGate agenda := rfl

@[simp] lemma atGate_append : atGate (agenda ++ agenda') = atGate agenda ++ atGate agenda' :=
  List.flatMap_append

@[simp] lemma doomed_nil : doomed ([] : Agenda μ) = [] := rfl

@[simp] lemma doomed_cons : doomed (x :: agenda) = doomedEntry x ++ doomed agenda := rfl

@[simp] lemma doomed_append : doomed (agenda ++ agenda') = doomed agenda ++ doomed agenda' :=
  List.flatMap_append

@[simp] lemma tests_cons :
    tests (x :: agenda) = (if isTest x then 1 else 0) + tests agenda := by
  rw [tests, tests, List.countP_cons, Nat.add_comm]

@[simp] lemma tests_append : tests (agenda ++ agenda') = tests agenda + tests agenda' :=
  List.countP_append

@[simp] lemma tests_nil : tests ([] : Agenda μ) = 0 := rfl

lemma atGate_eq_nil {agenda : Agenda μ} (untested : tests agenda = 0) : atGate agenda = [] := by
  rw [tests, List.countP_eq_zero] at untested
  rw [atGate, List.flatMap_eq_nil_iff]
  intro x hx
  have hxt := untested x hx
  unfold gateEntry
  split <;> simp_all [isTest]

lemma length_atGate_le : (atGate agenda).length ≤ tests agenda := by
  induction agenda with
  | nil => simp
  | cons x rest ih =>
    have hx : (gateEntry x).length ≤ if isTest x then 1 else 0 := by
      unfold gateEntry
      split <;> simp [isTest]
    rw [atGate_cons, List.length_append, tests_cons]
    omega

variable (cause : Fault) (ws : List μ)

@[simp] lemma atGate_cancelling : atGate (cancelling cause ws) = [] := by
  simp [atGate, cancelling, gateEntry]

@[simp] lemma doomed_cancelling : doomed (cancelling cause ws) = ws := by
  induction ws with
  | nil => rfl
  | cons w ws ih => simpa [cancelling, doomedEntry] using ih

@[simp] lemma tests_cancelling : tests (cancelling cause ws) = 0 := by
  simp [tests, cancelling, isTest]

@[simp] lemma atGate_warning : atGate ((warning cause ws).map .todo) = [] := by
  unfold warning
  split <;> simp [gateEntry]

@[simp] lemma doomed_warning : doomed ((warning cause ws).map .todo) = [] := by
  unfold warning
  split <;> simp [doomedEntry]

@[simp] lemma tests_warning : tests ((warning cause ws).map .todo) = 0 := by
  unfold warning
  split <;> simp [isTest]

lemma map_todo_closes :
    (warning cause ws ++ ws.map fun w => Todo.call (Call.cancel w cause)).map Entry.todo
      = (warning cause ws).map Entry.todo ++ cancelling cause ws := by
  simp [cancelling, Function.comp_def]

end Views

/-! ## One test at a time -/

/-- The flag of an outbox tells whether a test has not been settled. -/
def OneTest (m : Live μ) : Prop := tests m.agenda = m.state.testing.toNat

/-- An instruction settles a test, or leads to one, as the flag says. -/
lemma tests_of_effect {i : Instr μ} {q q' : Outbox μ} {out : List (Todo (Instr μ) (Call μ) Note)}
    {n : Nat} (effect : Effect i q q' out)
    (one : tests [.todo (.work i)] + n = q.testing.toNat) :
    tests (out.map .todo) + n = q'.testing.toNat := by
  have le_one := Bool.toNat_le q.testing
  cases effect with
  | closes opened =>
    rw [map_todo_closes]
    simpa [isTest] using one
  | passed | dropped _ | putBack _ =>
    simp [isTest] at one ⊢
    omega
  | _ => simp_all [isTest]

lemma oneTest_step {m m' : Live μ} {a} (one : OneTest m)
    (move : Moves m a m') : OneTest m' := by
  unfold OneTest at *
  cases move using Machine.Move.elim with
  | work q i rest =>
    rw [tests_append]
    exact tests_of_effect (exec_effect i q) (by simpa using one)
  | call q c rest => cases c <;> simpa [isTest] using one
  | note q e rest => simpa [isTest] using one
  | invoke m is asked => cases asked.2 <;> simpa [Machine.invoke, isTest] using one
  | reply q c rest f =>
    cases c with
    | test w => cases hv : f (.test w) <;> simpa [component, resume, isTest, hv] using one
    | cancel w cause => simpa [component, resume, isTest] using one
    | drained => simpa [component, resume, isTest] using one

/-! ## Where the writes are -/

/-- While an outbox is open, nothing is cancelled, and the writes that ran, the one at the gate
and those pending are all that was submitted, in this order. -/
def WhileOpen (h : Past μ) (m : Live μ) : Prop :=
  submitted h = ran h ++ atGate m.agenda ++ m.state.pending ∧
    doomed m.agenda = [] ∧ cancelled h = []

/-- Once an outbox is closed, nothing is pending, and what is not at the gate and did not run
is cancelled or has to be. -/
def OnceClosed (h : Past μ) (m : Live μ) : Prop :=
  m.state.pending = [] ∧ List.Sublist (ran h ++ atGate m.agenda) (submitted h) ∧
    (submitted h).Perm (ran h ++ atGate m.agenda ++ doomed m.agenda ++ cancelled h)

def InPlace (h : Past μ) (m : Live μ) : Prop :=
  (m.state.closed = none → WhileOpen h m) ∧ (m.state.closed ≠ none → OnceClosed h m)

lemma inPlace_work {h : Past μ} {q q' : Outbox μ} {i : Instr μ} {rest : Agenda μ}
    {out : List (Todo (Instr μ) (Call μ) Note)} (one : OneTest ⟨q, .todo (.work i) :: rest⟩)
    (places : InPlace h ⟨q, .todo (.work i) :: rest⟩) (effect : Effect i q q' out) :
    InPlace (h ++ [(⟨q, .todo (.work i) :: rest⟩, .own (.work i))])
      ⟨q', out.map .todo ++ rest⟩ := by
  classical
  obtain ⟨whileOpen, onceClosed⟩ := places
  have le_one := Bool.toNat_le q.testing
  simp only [OneTest, tests_cons] at one
  cases effect with
  | late closed =>
    rename_i w cause
    obtain ⟨none_pending, order, custody⟩ := onceClosed (by simp [closed])
    refine ⟨fun opened => by simp [closed] at opened, fun _ => ⟨none_pending, ?_, ?_⟩⟩
    · have longer := order.trans (List.sublist_append_left (submitted h) [w])
      simpa [submits, passes, gateEntry] using longer
    · rw [List.perm_iff_count] at custody ⊢
      intro x
      have hx := custody x
      simp [submits, passes, cancels, gateEntry, doomedEntry, List.count_cons] at hx ⊢
      omega
  | first opened _ _ empty | queued opened _ =>
    obtain ⟨order, none_doomed, none_cancelled⟩ := whileOpen opened
    refine ⟨fun _ => ?_, fun closed => absurd opened closed⟩
    simp_all [WhileOpen, submits, passes, cancels, gateEntry, doomedEntry]
  | tests opened untested pending =>
    obtain ⟨order, none_doomed, none_cancelled⟩ := whileOpen opened
    have none_tested : atGate rest = [] := atGate_eq_nil (by simpa [isTest, untested] using one)
    refine ⟨fun _ => ?_, fun closed => absurd opened closed⟩
    simp_all [WhileOpen, submits, passes, cancels, gateEntry, doomedEntry]
  | dropped closed =>
    obtain ⟨none_pending, order, custody⟩ := onceClosed (by simp [closed])
    have none_tested : atGate rest = [] := atGate_eq_nil (by simp [isTest] at one; omega)
    refine ⟨fun opened => by simp [closed] at opened, fun _ => ⟨none_pending, ?_, ?_⟩⟩
    · have fewer := (List.sublist_append_left (ran h) _).trans order
      simpa [submits, passes, gateEntry, none_tested] using fewer
    · rw [List.perm_iff_count] at custody ⊢
      intro x
      have hx := custody x
      simp [submits, passes, cancels, gateEntry, doomedEntry, List.count_cons] at hx ⊢
      omega
  | putBack opened =>
    obtain ⟨order, none_doomed, none_cancelled⟩ := whileOpen opened
    have none_tested : atGate rest = [] := atGate_eq_nil (by simp [isTest] at one; omega)
    refine ⟨fun _ => ?_, fun closed => absurd opened closed⟩
    simp_all [WhileOpen, submits, passes, cancels, gateEntry, doomedEntry]
  | closes opened =>
    obtain ⟨order, none_doomed, none_cancelled⟩ := whileOpen opened
    rw [map_todo_closes]
    refine ⟨fun opened => by simp at opened, fun _ => ⟨rfl, ?_, ?_⟩⟩
    · have all : submitted h = ran h ++ atGate rest ++ q.pending := order
      simp [all, submits, passes, List.append_assoc]
    · have none_else : doomed rest = [] := none_doomed
      simp [order, none_else, none_cancelled, submits, passes, cancels, gateEntry]
  | reported | stays _ | rests _ _ _ _ | passed | drained _ _ _ _ | shut _ =>
    refine ⟨fun opened => ?_, fun closed => ?_⟩
    · have before := whileOpen opened
      simpa [WhileOpen, submits, passes, cancels, gateEntry, doomedEntry] using before
    · have before := onceClosed closed
      simpa [OnceClosed, submits, passes, cancels, gateEntry, doomedEntry] using before

lemma inPlace_step {h : Past μ} {m m' : Live μ} {a} (one : OneTest m) (places : InPlace h m)
    (move : Moves m a m') :
    InPlace (h ++ [(m, a)]) m' := by
  cases move using Machine.Move.elim with
  | work q i rest => exact inPlace_work one places (exec_effect i q)
  | call q c rest =>
    cases c with
    | test w | drained =>
      simpa [InPlace, WhileOpen, OnceClosed, submits, passes, cancels, gateEntry, doomedEntry]
        using places
    | cancel w cause =>
      refine ⟨fun opened => ?_, fun closed => ?_⟩
      · have none_doomed := (places.1 opened).2.1
        simp [doomedEntry] at none_doomed
      · obtain ⟨none_pending, order, custody⟩ := places.2 closed
        refine ⟨none_pending, ?_, ?_⟩
        · simpa [submits, passes, gateEntry] using order
        · have moved : ([w] ++ (doomed rest ++ cancelled h)).Perm
              (doomed rest ++ cancelled h ++ [w]) := List.perm_append_comm
          simp only [doomed_cons, doomedEntry, List.append_assoc] at custody
          simpa [passes, submits, cancels, gateEntry, doomedEntry] using
            custody.trans ((moved.append_left _).append_left _)
  | note q e rest =>
    simpa [InPlace, WhileOpen, OnceClosed, submits, passes, cancels, gateEntry, doomedEntry]
      using places
  | invoke m is asked =>
    cases asked.2 <;>
      simpa [InPlace, WhileOpen, OnceClosed, Machine.invoke, submits, passes, cancels, gateEntry,
        doomedEntry] using places
  | reply q c rest f =>
    cases c with
    | test w =>
      cases verdict : f (.test w) <;>
        simpa [InPlace, WhileOpen, OnceClosed, component, resume, verdict, submits, passes,
          cancels, gateEntry, doomedEntry] using places
    | cancel w cause | drained =>
      simpa [InPlace, WhileOpen, OnceClosed, component, resume, submits, passes, cancels,
        gateEntry, doomedEntry] using places

end StreamControl.Outbox
