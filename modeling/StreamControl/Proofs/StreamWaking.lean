import StreamControl.Proofs.OutboxWaking
import StreamControl.Proofs.StreamEnding
import StreamControl.Proofs.StreamThread

/-!
# Waking the producer of a stream

The outbox of a stream is halted while the stream is not allocated or may not send. Once it has
drained, the hook for this is called before the loop does anything else, so it is called before
the loop is at rest. As with an outbox alone, this says nothing for a producer that is told to
back off while a write is at the gate, if that write and all behind it pass.
-/

namespace StreamControl.Endpoint

variable {η : Type} {allowed : Thread → Operation η → Prop} {o : Options} {owner : Thread}
  {h h' : Past η} {m m₁ m' : Live η} {rest : Agenda η} {out : List (StreamTodo η)} {a : Deed η}

/-- An entry belongs to a write at the gate. -/
def isGateWork : Entry (StreamInstr η) (StreamCall η) StreamNote → Bool
  | .todo (.work (.attempt _)) => true
  | .todo (.work (.outbox .accepted)) | .todo (.work (.outbox (.refused _))) => true
  | _ => false

def isDrainWork : Entry (StreamInstr η) (StreamCall η) StreamNote → Bool
  | .todo (.work (.outbox .drain)) => true
  | _ => false

/-- The hook for a drained outbox is about to be called. -/
def isAnnouncing : Entry (StreamInstr η) (StreamCall η) StreamNote → Bool
  | .todo (.work (.dispatch .announceDrained)) | .todo (.work (.perform .announceDrained)) => true
  | .todo (.call (.hook .drained)) => true
  | _ => false

def announces : Deed η → Bool
  | .own (.call (.hook .drained)) => true
  | _ => false

/-- The gate has handed a write back. -/
def refuses : Deed η → Bool
  | .own (.work (.outbox (.refused _))) => true
  | _ => false

def Announced (h : Past η) : Prop := h.any (fun b => announces b.2) = true

def Refused (h : Past η) : Prop := h.any (fun b => refuses b.2) = true

section Views

variable (b : Live η × Deed η)

@[simp] lemma announced_snoc : Announced (h ++ [b]) ↔ Announced h ∨ announces b.2 = true := by
  simp [Announced]

@[simp] lemma refused_snoc : Refused (h ++ [b]) ↔ Refused h ∨ refuses b.2 = true := by
  simp [Refused]

end Views

/-! ## The outbox of a stream at rest -/

def gateWork (agenda : Agenda η) : Nat := agenda.countP isGateWork

def drainWork (agenda : Agenda η) : Nat := agenda.countP isDrainWork

section Views

variable (x : Entry (StreamInstr η) (StreamCall η) StreamNote) (agenda agenda' : Agenda η)

@[simp] lemma gateWork_cons :
    gateWork (x :: agenda) = (if isGateWork x then 1 else 0) + gateWork agenda := by
  rw [gateWork, gateWork, List.countP_cons, Nat.add_comm]

@[simp] lemma gateWork_append :
    gateWork (agenda ++ agenda') = gateWork agenda + gateWork agenda' :=
  List.countP_append

@[simp] lemma drainWork_cons :
    drainWork (x :: agenda) = (if isDrainWork x then 1 else 0) + drainWork agenda := by
  rw [drainWork, drainWork, List.countP_cons, Nat.add_comm]

@[simp] lemma drainWork_append :
    drainWork (agenda ++ agenda') = drainWork agenda + drainWork agenda' :=
  List.countP_append

end Views

/-- What the outbox leaves to do is left to the stream. -/
lemma work_ofOutbox
    (out : List (Todo (Outbox.Instr (Write η)) (Outbox.Call (Write η)) Outbox.Note)) :
    gateWork ((out.flatMap ofOutbox).map .todo : Agenda η) = Outbox.tests (out.map .todo) ∧
      drainWork ((out.flatMap ofOutbox).map .todo : Agenda η) =
        Outbox.drains (out.map .todo) := by
  induction out with
  | nil => exact ⟨rfl, rfl⟩
  | cons x out ih =>
    rw [List.flatMap_cons, List.map_append, gateWork_append, drainWork_append, ih.1, ih.2,
      List.map_cons, Outbox.tests_cons, Outbox.drains_cons]
    rcases x with i | c | n
    · cases i <;> exact ⟨rfl, rfl⟩
    · cases c <;> exact ⟨rfl, rfl⟩
    · cases n <;> exact ⟨rfl, rfl⟩

lemma work_outbox (j : Outbox.Instr (Write η)) (rest : Agenda η) :
    gateWork (.todo (.work (.outbox j)) :: rest) =
        Outbox.tests [.todo (.work j)] + gateWork rest ∧
      drainWork (.todo (.work (.outbox j)) :: rest) =
        Outbox.drains [.todo (.work j)] + drainWork rest := by
  rw [gateWork_cons, drainWork_cons]
  cases j <;> exact ⟨rfl, rfl⟩

lemma gateWork_attempt (e : Endpoint η) (w : Write η) :
    gateWork ((e.attempt w).2.map .todo : Agenda η) = 1 := by
  unfold attempt
  split
  · rfl
  · rfl
  · cases w with
    | headers block fin flush p => cases fin <;> rfl
    | data chunk fin p => cases fin <;> rfl

/-- Only the outbox and its gate have writes at the gate. -/
lemma gateWork_exec {i : StreamInstr η} (e : Endpoint η) (other : ∀ j, i ≠ .outbox j)
    (no_attempt : ∀ w, i ≠ .attempt w) : gateWork ((exec i e).2.map .todo) = 0 := by
  refine countP_exec fun x leaves => ?_
  cases leaves with
  | tests j w => exact absurd rfl (other j)
  | accepts w | refuses w w' => exact absurd rfl (no_attempt w)
  | @outbox job j no_verdict =>
    cases j with
    | accepted | refused w => cases no_verdict
    | _ => rfl
  | _ => rfl

lemma work_resume (c : StreamCall η) (r : c.Reply) :
    gateWork ((component.resume c r).map .todo : Agenda η) = 0 ∧
      drainWork ((component.resume c r).map .todo : Agenda η) = 0 := by
  cases c with
  | conn p => cases p <;> exact ⟨rfl, rfl⟩
  | hook k => cases k <;> exact ⟨rfl, rfl⟩

/-- A write is at the gate exactly while the outbox says so, and an open outbox at rest is halted
exactly if something is pending. -/
structure Tended (m : Live η) : Prop where
  one : gateWork m.agenda = m.state.stream.outbox.testing.toNat
  attended : Outbox.Attended m.state.stream.outbox (gateWork m.agenda + drainWork m.agenda)

lemma tended_work {i : StreamInstr η} {e : Endpoint η}
    (tended : Tended ⟨e, .todo (.work i) :: rest⟩) :
    Tended ⟨(exec i e).1, (exec i e).2.map .todo ++ rest⟩ := by
  obtain ⟨one, attended⟩ := tended
  rcases exec_outbox_cases i e with ⟨j, rfl, effect⟩ | ⟨other, same⟩
  · obtain ⟨gate_before, drain_before⟩ := work_outbox j rest
    obtain ⟨gate_after, drain_after⟩ := work_ofOutbox (Outbox.exec j e.stream.outbox).2
    rw [gate_before] at one attended
    rw [drain_before] at attended
    constructor
    · rw [gateWork_append]
      simp only [exec, gate_after]
      exact Outbox.tests_of_effect effect one
    · rw [gateWork_append, drainWork_append]
      simp only [exec, gate_after, drain_after]
      exact Outbox.attended_of_effect effect one attended
  · have gate_same : gateWork ((exec i e).2.map .todo) =
        if isGateWork (.todo (.work i)) then 1 else 0 := by
      cases i with
      | attempt w => exact gateWork_attempt e w
      | outbox j => exact absurd rfl (other j)
      | _ => exact gateWork_exec e (by simp) (by simp)
    have no_drain : isDrainWork (.todo (.work i)) = false := by
      cases i with
      | outbox j => exact absurd rfl (other j)
      | _ => rfl
    rw [gateWork_cons] at one attended
    rw [drainWork_cons, no_drain, if_neg Bool.false_ne_true] at attended
    constructor
    · rw [same, gateWork_append, gate_same]
      exact one
    · rw [same, gateWork_append, drainWork_append, gate_same]
      exact attended.mono (by omega)

lemma tended_step (tended : Tended m)
    (move : Machine.Move component (fun _ => Asked allowed) m a m') : Tended m' := by
  obtain ⟨one, attended⟩ := tended
  cases move using Machine.Move.elim with
  | work e i rest => exact tended_work ⟨one, attended⟩
  | call e c rest | note e s rest =>
    simp only [gateWork_cons, drainWork_cons, isGateWork, isDrainWork, Bool.false_eq_true, if_false,
      Nat.zero_add] at one attended
    exact ⟨by simpa [isGateWork] using one, by simpa [isGateWork, isDrainWork] using attended⟩
  | invoke m is asked =>
    cases asked <;> exact ⟨by simpa [Machine.invoke, isGateWork] using one,
      by simpa [Machine.invoke, isGateWork, isDrainWork] using attended⟩
  | reply e c rest f =>
    obtain ⟨no_gate, no_drain⟩ := work_resume c (f c)
    constructor
    · rw [gateWork_append, no_gate]
      simpa [isGateWork] using one
    · rw [gateWork_append, drainWork_append, no_gate, no_drain]
      simpa [isGateWork, isDrainWork] using attended

/-! ## The hook -/

/-- A stream whose outbox was halted has called the hook, is about to, or is still halted. -/
def Owing (h : Past η) (m : Live η) : Prop :=
  m.state.stream.outbox.closed = none →
    Announced h ∨ m.agenda.any isAnnouncing = true ∨ m.state.stream.outbox.halted = true

lemma opened_before {may : Live η → List (StreamInstr η) → Prop}
    (move : Machine.Move component may m a m') (opened : m'.state.stream.outbox.closed = none) :
    m.state.stream.outbox.closed = none := by
  cases move using Machine.Move.elim with
  | work e i rest =>
    rcases exec_outbox_cases i e with ⟨j, rfl, effect⟩ | ⟨_, same⟩
    · exact effect.opened_before opened
    · rw [← same]
      exact opened
  | _ => exact opened

lemma announcing_ofOutbox
    {out : List (Todo (Outbox.Instr (Write η)) (Outbox.Call (Write η)) Outbox.Note)}
    (announced : Outbox.announcement ∈ out.map .todo) :
    ((out.flatMap ofOutbox).map .todo : Agenda η).any isAnnouncing = true := by
  obtain ⟨x, due, same⟩ := List.mem_map.mp announced
  obtain rfl : x = .call .drained := Entry.todo.inj same
  rw [List.any_eq_true]
  refine ⟨.todo (.work (.dispatch .announceDrained)), List.mem_map_of_mem ?_, rfl⟩
  exact List.mem_flatMap.mpr ⟨_, due, List.mem_singleton.mpr rfl⟩

/-- An announcement goes straight to the hook: it is made on the loop. -/
lemma announcing_work {i : StreamInstr η} {e : Endpoint η}
    (home : AtHomeNow owner ⟨e, .todo (.work i) :: rest⟩)
    (due : isAnnouncing (.todo (.work i)) = true) :
    ((exec i e).2.map .todo).any isAnnouncing = true := by
  unfold isAnnouncing at due
  split at due
  · rename_i same
    obtain rfl := Todo.work.inj (Entry.todo.inj same)
    have at_owner : e.thread = owner := home.2.1 rfl
    have on_loop : e.onLoop = true := by
      have owned : e.loop.owner = owner := home.1
      simp [onLoop, TaskLoop.ownedBy, owned, at_owner]
    simp [exec, on_loop, isAnnouncing]
  · rename_i same
    obtain rfl := Todo.work.inj (Entry.todo.inj same)
    rfl
  · rename_i same
    cases same
  · cases due

/-- A call of the hook that is due stays due until it is made. -/
lemma announcing_step {may : Live η → List (StreamInstr η) → Prop} (home : AtHomeNow owner m)
    (due : m.agenda.any isAnnouncing = true) (move : Machine.Move component may m a m') :
    announces a = true ∨ m'.agenda.any isAnnouncing = true := by
  cases move using Machine.Move.elim with
  | work e i rest =>
    refine .inr ?_
    rw [List.any_append, Bool.or_eq_true]
    rw [List.any_cons, Bool.or_eq_true] at due
    exact due.imp_left (announcing_work home)
  | call e c rest =>
    rw [List.any_cons, Bool.or_eq_true] at due
    rcases due with now | later
    · cases c with
      | conn p => cases now
      | hook k =>
        cases k with
        | drained => exact .inl rfl
        | _ => cases now
    · exact .inr later
  | note e s rest => exact .inr due
  | invoke m is asked =>
    refine .inr ?_
    rw [Machine.invoke, List.any_append, due, Bool.or_true]
  | reply e c rest f =>
    have later : rest.any isAnnouncing = true := due
    refine .inr ?_
    rw [List.any_append, later, Bool.or_true]

lemma halted_step {may : Live η → List (StreamInstr η) → Prop}
    (halted : m.state.stream.outbox.halted = true)
    (opened : m'.state.stream.outbox.closed = none) (move : Machine.Move component may m a m') :
    m'.agenda.any isAnnouncing = true ∨ m'.state.stream.outbox.halted = true := by
  cases move using Machine.Move.elim with
  | work e i rest =>
    rcases exec_outbox_cases i e with ⟨j, rfl, effect⟩ | ⟨_, same⟩
    · rcases effect.halted_or_announces opened halted with still | announced
      · exact .inr still
      · refine .inl ?_
        rw [List.any_append, Bool.or_eq_true]
        exact .inl (announcing_ofOutbox announced)
    · refine .inr ?_
      rw [← same] at halted
      exact halted
  | _ => exact .inr halted

lemma halted_of_refuses {may : Live η → List (StreamInstr η) → Prop} (refused : refuses a = true)
    (opened : m'.state.stream.outbox.closed = none) (move : Machine.Move component may m a m') :
    m'.state.stream.outbox.halted = true := by
  cases move using Machine.Move.elim with
  | work e i rest =>
    unfold refuses at refused
    split at refused
    · rename_i w same
      obtain rfl := Todo.work.inj (Act.own.inj same)
      exact (Outbox.exec_effect (.refused w) e.stream.outbox).halted_of_refused opened
    · cases refused
  | _ => cases refused

lemma owing_step (owing : Owing h m ∨ refuses a = true) (home : AtHomeNow owner m)
    (move : Machine.Move component (fun _ => Asked (DrivenBy owner)) m a m') :
    Owing (h ++ [(m, a)]) m' := by
  intro opened
  rw [announced_snoc]
  rcases owing with owing | refused
  · rcases owing (opened_before move opened) with before | due | halted
    · exact .inl (.inl before)
    · rcases announcing_step home due move with made | still
      · exact .inl (.inr made)
      · exact .inr (.inl still)
    · exact .inr (halted_step halted opened move)
  · exact .inr (.inr (halted_of_refuses refused opened move))

lemma exec_mark (i : StreamInstr η) (e : Endpoint η) :
    (exec i e).1.stream.outbox.mark = e.stream.outbox.mark := by
  rcases exec_outbox_cases i e with ⟨j, rfl, effect⟩ | ⟨_, same⟩
  · exact effect.mark_eq
  · rw [same]

lemma tended_of_runs (run : RunsAnyhow allowed o owner h m) :
    Tended m ∧ m.state.stream.outbox.mark = o.outboxMark := by
  induction run with
  | start =>
    exact ⟨⟨rfl, fun _ _ => by simp [Machine.idle, fresh, Stream.fresh, Outbox.fresh]⟩, rfl⟩
  | step run move ih =>
    refine ⟨tended_step ih.1 move, ?_⟩
    cases move using Machine.Move.elim with
    | work e i rest => exact (exec_mark i e).trans ih.2
    | _ => exact ih.2

/-- A stream tells its producer to back off. -/
def BacksOff (m : Live η) : Prop :=
  m.state.stream.outbox.closed = none ∧ m.state.stream.outbox.isWritable = false

/-- All calls have returned, and the outbox of the stream is open and empty. -/
structure Emptied (m : Live η) : Prop where
  returned : m.agenda = []
  opened : m.state.stream.outbox.closed = none
  empty : m.state.stream.outbox.pending = []

lemma Tended.halted_of_backsOff (tended : Tended m) (marked : 0 < m.state.stream.outbox.mark)
    (told : BacksOff m) (returned : m.agenda = []) : m.state.stream.outbox.halted = true := by
  refine (tended.attended told.1 ?_).mpr fun empty => ?_
  · rw [returned]
    rfl
  · have full := told.2
    rw [Outbox.isWritable, empty] at full
    simp [marked] at full

/-- The hook is called before the loop is at rest with an empty outbox, if the outbox was halted
at first, or the gate has handed a write back since. -/
lemma announced_of_halted (before : RunsAnyhow (DrivenBy owner) o owner h m₁)
    (later : Machine.Run component (fun _ => Asked (DrivenBy owner)) m₁ h' m)
    (emptied : Emptied m) (halted_once : m₁.state.stream.outbox.halted = true ∨ Refused h') :
    Announced h' := by
  have owing : Owing h' m := by
    clear emptied
    induction later with
    | start => exact fun _ => .inr (.inr (halted_once.resolve_right (by simp [Refused])))
    | step later move ih =>
      refine owing_step ?_ (atHome_of_runs (before.append later)) move
      rw [refused_snoc, ← or_assoc] at halted_once
      exact halted_once.imp_left ih
  obtain ⟨tended, _⟩ := tended_of_runs (before.append later)
  rcases owing emptied.opened with announced | due | halted
  · exact announced
  · rw [emptied.returned] at due
    cases due
  · refine absurd emptied.empty ((tended.attended emptied.opened ?_).mp halted)
    rw [emptied.returned]
    rfl

/-- Whether a producer that was told to back off hears that the outbox has drained, once all calls
have returned with the outbox open and empty. An outbox tells it exactly if the outbox was halted
at the time, or if the gate has handed a write back since. A stream tells it in these cases, and
whenever it was at rest at the time. -/
theorem announced_of_backsOff {μ : Type} (marked : 0 < o.outboxMark) :
    (∀ (h h' : Outbox.Past μ) (m₁ m : Outbox.Live μ), Outbox.Runs o.outboxMark h m₁ →
      Outbox.BacksOff m₁ →
      Machine.Run Outbox.component (Machine.InTurn Outbox.component Outbox.Request) m₁ h' m →
      Outbox.Emptied m → (Outbox.Announced h' ↔ m₁.state.halted = true ∨ Outbox.Refused h')) ∧
    (∀ (h h' : Past η) (m₁ m : Live η), RunsAnyhow (DrivenBy owner) o owner h m₁ →
      BacksOff m₁ → Machine.Run component (fun _ => Asked (DrivenBy owner)) m₁ h' m →
      Emptied m → m₁.agenda = [] ∨ m₁.state.stream.outbox.halted = true ∨ Refused h' →
      Announced h') := by
  constructor
  · intro h h' m₁ m before told later emptied
    exact Outbox.announced_iff_of_backsOff marked before told later emptied
  · intro h h' m₁ m before told later emptied cases
    obtain ⟨tended, mark⟩ := tended_of_runs before
    have halted_once : m₁.state.stream.outbox.halted = true ∨ Refused h' := by
      rcases cases with at_rest | halted_once
      · exact .inl (tended.halted_of_backsOff (mark.symm ▸ marked) told at_rest)
      · exact halted_once
    exact announced_of_halted before later emptied halted_once

/-! ## Runs with a mark of one write -/

/-- The gate answers every test with one verdict. -/
def always (verdict : Outbox.Verdict) : (c : Outbox.Call Nat) → Outbox.Reply c
  | .test _ => verdict
  | .cancel _ _ | .drained => ()

def marked : Options := .withOutboxMark .standard 1

/-- A write is handed back, and later it passes. -/
def handedBack : Outbox.Past Nat × Outbox.Live Nat :=
  Machine.drive Outbox.component 9 [.ask [.submit 1], .reply (always .refuse)] (.idle (.fresh 1))

def passedLater : Outbox.Past Nat × Outbox.Live Nat :=
  Machine.drive Outbox.component 9
    [.ask [.drain], .reply (always .accept), .reply (always .accept)] handedBack.2

/-- A write waits until the stream is allocated. -/
def unallocated : Past Nat × Live Nat :=
  Machine.drive component 12 [.ask [.enter 0 (.writeData none false 1)]] (.idle (fresh marked 0))

def allocatedLater : Past Nat × Live Nat :=
  Machine.drive component 40
    [.ask [.enter 0 (.allocate 1)], .reply (plainly true .success), .reply (plainly true .success),
      .reply (plainly true .success), .reply (plainly true .success)]
    unallocated.2

theorem announced_allocatedLater :
    0 < marked.outboxMark ∧
    (Outbox.BacksOff handedBack.2 ∧ Outbox.Emptied passedLater.2 ∧
      Outbox.Announced passedLater.1) ∧
    BacksOff unallocated.2 ∧ Emptied allocatedLater.2 ∧ Announced allocatedLater.1 := by
  obtain ⟨outbox, stream⟩ := @announced_of_backsOff Nat marked 0 Nat (by decide)
  refine ⟨by decide, ⟨⟨rfl, .inl rfl⟩, ⟨rfl, rfl, rfl⟩, ?_⟩, ⟨rfl, rfl⟩, ⟨rfl, rfl, rfl⟩, ?_⟩
  · refine (outbox handedBack.1 _ handedBack.2 passedLater.2 ?_ ⟨rfl, .inl rfl⟩ ?_
      ⟨rfl, rfl, rfl⟩).mpr (.inl rfl)
    · exact Machine.drive_run
        (fun _ _ waits asked => ⟨waits, Outbox.request_of_isRequest asked⟩) _ _ _ rfl
    · exact Machine.drive_run
        (fun _ _ waits asked => ⟨waits, Outbox.request_of_isRequest asked⟩) _ _ _ rfl
  · have on_loop : ∀ t (op : Operation Nat), decide (t = 0) = true → DrivenBy 0 t op :=
      fun t op same _ => of_decide_eq_true same
    refine stream unallocated.1 _ unallocated.2 allocatedLater.2 ?_ ⟨rfl, rfl⟩ ?_ ⟨rfl, rfl, rfl⟩
      (.inl rfl)
    · exact Machine.drive_run (fun _ _ _ => asked_of_isAsked on_loop) _ _ _ rfl
    · exact Machine.drive_run (fun _ _ _ => asked_of_isAsked on_loop) _ _ _ rfl

/-- A write is submitted while another one is at the gate, and both pass. -/
def submittedInside : Outbox.Past Nat × Outbox.Live Nat :=
  Machine.drive Outbox.component 7 [.ask [.submit 1], .ask [.submit 2]] (.idle (.fresh 1))

def bothPassed : Outbox.Past Nat × Outbox.Live Nat :=
  Machine.drive Outbox.component 12 [.reply (always .accept), .reply (always .accept)]
    submittedInside.2

/-- The primitive that sends data writes, and both writes are sent. -/
def writtenInside : Past Nat × Live Nat :=
  Machine.drive component 40
    [.ask [.enter 0 (.allocate 1)], .reply (plainly true .success),
      .ask [.enter 0 (.writeData none false 1)], .reply (plainly true .success),
      .ask [.enter 0 (.writeData none false 2)]]
    (.idle (fresh marked 0))

def bothSent : Past Nat × Live Nat :=
  Machine.drive component 40
    [.reply (plainly true .success), .reply (plainly true .success),
      .reply (plainly true .success)]
    writtenInside.2

/-- Not everyone who is told to back off hears more: not who writes while the gate looks at
another write, and then all writes pass. -/
theorem not_announced_of_backsOff :
    ¬ (∀ (h h' : Outbox.Past Nat) (m₁ m : Outbox.Live Nat), Outbox.Runs marked.outboxMark h m₁ →
      m₁.agenda.head? = some (.todo (.note (.submitted false))) →
      Machine.Run Outbox.component (Machine.InTurn Outbox.component Outbox.Request) m₁ h' m →
      Outbox.Emptied m → Outbox.Announced h') ∧
    ¬ (∀ (h h' : Past Nat) (m₁ m : Live Nat), Runs false marked 0 h m₁ → BacksOff m₁ →
      Machine.Run component (Request false) m₁ h' m → Emptied m → Announced h') := by
  constructor
  · intro all
    have silent : ¬ Outbox.Announced bothPassed.1 := Bool.false_ne_true
    refine silent (all submittedInside.1 _ submittedInside.2 bothPassed.2 ?_ rfl ?_
      ⟨rfl, rfl, rfl⟩)
    · exact Machine.drive_run
        (fun _ _ waits asked => ⟨waits, Outbox.request_of_isRequest asked⟩) _ _ _ rfl
    · exact Machine.drive_run
        (fun _ _ waits asked => ⟨waits, Outbox.request_of_isRequest asked⟩) _ _ _ rfl
  · intro all
    have silent : ¬ Announced bothSent.1 := Bool.false_ne_true
    refine silent (all writtenInside.1 _ writtenInside.2 bothSent.2 ?_ ⟨rfl, rfl⟩ ?_
      ⟨rfl, rfl, rfl⟩)
    · exact Machine.drive_run (fun _ _ => request_of_isRequest) _ _ _ rfl
    · exact Machine.drive_run (fun _ _ => request_of_isRequest) _ _ _ rfl

end StreamControl.Endpoint
