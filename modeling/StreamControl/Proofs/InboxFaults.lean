import StreamControl.Proofs.InboxOrder

/-!
# Failures of a consumer

A consumer that fails gives its item back first, so the inbox may deliver again while the failure
is handled. Still the failure reaches the handler before anything else is done: it is the next call
of the inbox, whatever was left to do below.
-/

namespace StreamControl.Inbox

variable {κ α : Type} {mark : Nat} {k : κ} {i : Instr κ α} {b b' : Inbox κ α}
  {out : List (Todo (Instr κ α) (Call κ α) Note)} {h h' : Past κ α} {m m₁ m' : Live κ α}
  {rest : Agenda κ α} {a : Act (Instr κ α) (Call κ α) Note Reply}

/-- A new inbox with somebody to tell that its consumer failed. -/
def handled (mark : Nat) (k : κ) : Inbox κ α := { fresh mark with onFault := some k }

/-- The runs of an inbox that has a handler of failures from the start. -/
abbrev HandledRuns (mark : Nat) (k : κ) (h : Past κ α) (m : Live κ α) : Prop :=
  Machine.Run component (Machine.InTurn component Request) (.idle (handled mark k)) h m

/-- A call of the consumer returns with a failure. -/
def fails : Act (Instr κ α) (Call κ α) Note Reply → List Fault
  | .answer (.consume _ _) (.failure cause) => [cause]
  | _ => []

/-- A handler is called with a failure. -/
def reports : Act (Instr κ α) (Call κ α) Note Reply → List Fault
  | .own (.call (.fault _ cause)) => [cause]
  | _ => []

/-- The failures of the consumer so far, in this order. -/
def failures (h : Past κ α) : List Fault := h.flatMap fun b => fails b.2

/-- The failures that a handler was called with so far, in this order. -/
def reported (h : Past κ α) : List Fault := h.flatMap fun b => reports b.2

/-- A failure on its way to the handler. -/
def reporting : Entry (Instr κ α) (Call κ α) Note → List Fault
  | .todo (.work (.consumed (.failure cause))) | .todo (.call (.fault _ cause)) => [cause]
  | _ => []

def unreported (agenda : Agenda κ α) : List Fault := agenda.flatMap reporting

section Views

variable (b : Live κ α × Act (Instr κ α) (Call κ α) Note Reply)
  (x : Entry (Instr κ α) (Call κ α) Note) (agenda agenda' : Agenda κ α)

@[simp] lemma failures_snoc : failures (h ++ [b]) = failures h ++ fails b.2 := by
  simp [failures]

@[simp] lemma reported_snoc : reported (h ++ [b]) = reported h ++ reports b.2 := by
  simp [reported]

@[simp] lemma unreported_nil : unreported ([] : Agenda κ α) = [] := rfl

@[simp] lemma unreported_cons : unreported (x :: agenda) = reporting x ++ unreported agenda := rfl

@[simp] lemma unreported_append :
    unreported (agenda ++ agenda') = unreported agenda ++ unreported agenda' :=
  List.flatMap_append

end Views

/-- The handler of failures is never taken away. -/
lemma Effect.onFault_ne_none (effect : Effect i b b' out) (known : b.onFault ≠ none) :
    b'.onFault ≠ none := by
  cases effect with
  | onFaultSet => exact Option.some_ne_none _
  | _ => exact known

lemma unreported_complaint (known : b.onFault ≠ none) (o : Outcome) :
    unreported ((complaint b o).map .todo) = reporting (.todo (.work (.consumed o)) :
      Entry (Instr κ α) (Call κ α) Note) := by
  obtain ⟨k, known⟩ := Option.ne_none_iff_exists'.mp known
  cases o with
  | success => rfl
  | failure cause => simp [complaint, known, reporting]

/-- What is done takes a failure that it is about one step further. -/
lemma Effect.unreported (effect : Effect i b b' out) (known : b.onFault ≠ none) :
    unreported (out.map .todo) = reporting (.todo (.work i)) := by
  cases effect with
  | emptied =>
    unfold relief
    split
    · cases b.onDrained <;> rfl
    · rfl
  | @consumed _ o =>
    rw [List.map_append, unreported_append, unreported_complaint known]
    simp [reporting]
  | _ => rfl

lemma Effect.unreported_tail (effect : Effect i b b' out) (known : b.onFault ≠ none) :
    Inbox.unreported (out.map .todo).tail = [] := by
  cases effect with
  | @consumed _ o =>
    obtain ⟨k, known⟩ := Option.ne_none_iff_exists'.mp known
    cases o with
    | success => rfl
    | failure cause => simp [complaint, known, reporting]
  | emptied =>
    unfold relief
    split
    · cases b.onDrained <;> rfl
    · rfl
  | _ => rfl

/-- The handler that is called is the one that is registered. -/
lemma Effect.addressed {cause : Fault} (effect : Effect i b b' out)
    (called : .call (.fault k cause) ∈ out) : b'.onFault = some k := by
  cases effect with
  | emptied =>
    unfold relief at called
    split at called
    · simp at called
    · cases called
  | @consumed _ o =>
    cases o with
    | success => simp [complaint] at called
    | failure cause' =>
      cases known : b.onFault with
      | none => simp [complaint, known] at called
      | some k' =>
        obtain ⟨rfl, -⟩ : k = k' ∧ cause = cause' := by simpa [complaint, known] using called
        rfl
  | _ => simp at called

lemma not_mem_of_unreported {cause : Fault} {agenda : Agenda κ α}
    (none_due : unreported agenda = []) : .todo (.call (.fault k cause)) ∉ agenda := by
  intro due
  rw [unreported, List.flatMap_eq_nil_iff] at none_due
  cases none_due _ due

/-- A failing answer is on its way from then on. -/
lemma unreported_resume (c : Call κ α) (r : Reply c) :
    unreported ((component.resume c r).map .todo : Agenda κ α) = fails (.answer c r) := by
  cases c with
  | consume k x => cases r <;> rfl
  | fault k cause | drained k => rfl

lemma unreported_asked {is : List (Instr κ α)} (asked : Request is) :
    unreported (is.map (.todo ∘ .work) : Agenda κ α) = [] := by
  cases asked <;> rfl

/-- Failures reach the handler in order, and each at once. -/
structure Reporting (h : Past κ α) (m : Live κ α) : Prop where
  known : m.state.onFault ≠ none
  told : failures h = reported h ++ unreported m.agenda
  at_once : unreported m.agenda.tail = []
  addressed : ∀ k cause, .todo (.call (.fault k cause)) ∈ m.agenda → m.state.onFault = some k

/-- While the surroundings are in control, no failure is on its way. -/
lemma Reporting.none_due (ok : Reporting h m) (waits : m.step component = none) :
    unreported m.agenda = [] := by
  rcases m with ⟨b, _ | ⟨t | c, rest⟩⟩
  · rfl
  · exact absurd rfl (Machine.step_eq_none_iff.mp waits t rest)
  · exact ok.at_once

lemma reporting_step (ok : Reporting h m) (move : Moves m a m') :
    Reporting (h ++ [(m, a)]) m' := by
  cases move using Machine.Move.elim with
  | work b i rest =>
    have effect := exec_effect i b
    have none_behind : unreported rest = [] := ok.at_once
    refine ⟨effect.onFault_ne_none ok.known, ?_,
      flatMap_append_tail_eq_nil (effect.unreported_tail ok.known) none_behind, ?_⟩
    · have told := ok.told
      rw [unreported_cons] at told
      rw [failures_snoc, reported_snoc, told, unreported_append]
      simp only [component, effect.unreported ok.known]
      simp [fails, reports]
    · intro k cause due
      rcases List.mem_append.mp due with now | behind
      · obtain ⟨_, called, ⟨⟩⟩ := List.mem_map.mp now
        exact effect.addressed called
      · exact absurd behind (not_mem_of_unreported none_behind)
  | call b c rest =>
    have none_behind : unreported rest = [] := ok.at_once
    refine ⟨ok.known, ?_, none_behind, fun k cause due => ?_⟩
    · have told := ok.told
      rw [failures_snoc, reported_snoc, told]
      cases c <;> simp [fails, reports, reporting, none_behind]
    · obtain held | behind := List.mem_cons.mp due
      · cases held
      · exact absurd behind (not_mem_of_unreported none_behind)
  | note b e rest =>
    have none_behind : unreported rest = [] := ok.at_once
    refine ⟨ok.known, ?_, flatMap_tail_eq_nil none_behind,
      fun k cause due => absurd due (not_mem_of_unreported none_behind)⟩
    simpa [fails, reports, reporting] using ok.told
  | invoke m is asked =>
    have none_now : unreported (m.invoke is).agenda = [] := by
      rw [Machine.invoke, unreported_append, unreported_asked asked.2, ok.none_due asked.1]
      rfl
    refine ⟨ok.known, ?_, flatMap_tail_eq_nil none_now,
      fun k cause due => absurd due (not_mem_of_unreported none_now)⟩
    rw [failures_snoc, reported_snoc, ok.told, ok.none_due asked.1, none_now]
    simp [fails, reports]
  | reply b c rest f =>
    have none_behind : unreported rest = [] := ok.at_once
    refine ⟨ok.known, ?_, flatMap_append_tail_eq_nil ?_ none_behind, fun k cause due => ?_⟩
    · have told := ok.told
      rw [unreported_cons, none_behind] at told
      rw [failures_snoc, reported_snoc, told, unreported_append, unreported_resume, none_behind]
      simp [reports, reporting]
    · cases c <;> rfl
    · rcases List.mem_append.mp due with now | behind
      · cases c <;> simp [component, resume] at now
      · exact absurd behind (not_mem_of_unreported none_behind)

lemma reporting_of_runs (run : HandledRuns mark k h m) : Reporting h m := by
  induction run with
  | start => exact ⟨Option.some_ne_none _, rfl, rfl, fun k cause due => by cases due⟩
  | step _ move ih => exact reporting_step ih move

/-- Every failure of the consumer is reported to the handler once, after the call that failed and
before another item is handed over. -/
structure Reported (h : Past κ α) (m : Live κ α) : Prop where
  each_once : m.step component = none → failures h = reported h
  afterwards : reported h <+: failures h
  before_next : ∀ h₁ m₁ k x h₂, h = h₁ ++ (m₁, .own (.call (.consume k x))) :: h₂ →
    failures h₁ = reported h₁
  registered : ∀ h₁ m₁ k cause h₂, h = h₁ ++ (m₁, .own (.call (.fault k cause))) :: h₂ →
    m₁.state.onFault = some k

theorem reported_of_runs (run : HandledRuns mark k h m) : Reported h m := by
  have ok := reporting_of_runs run
  refine ⟨fun waits => ?_, ⟨_, ok.told.symm⟩, ?_, ?_⟩
  · rw [ok.told, ok.none_due waits, List.append_nil]
  · rintro h₁ m₁ d x h₂ rfl
    obtain ⟨before, _, move, _⟩ := run.split
    obtain ⟨head, -⟩ := Machine.move_iff.mp move
    obtain ⟨rest, agenda_eq : m₁.agenda = _⟩ := List.head?_eq_some_iff.mp head
    have ok₁ := reporting_of_runs before
    have none_behind : unreported rest = [] := by simpa [agenda_eq] using ok₁.at_once
    rw [ok₁.told, agenda_eq, unreported_cons, none_behind]
    simp [reporting]
  · rintro h₁ m₁ d cause h₂ rfl
    obtain ⟨before, _, move, _⟩ := run.split
    obtain ⟨head, -⟩ := Machine.move_iff.mp move
    obtain ⟨rest, agenda_eq : m₁.agenda = _⟩ := List.head?_eq_some_iff.mp head
    refine (reporting_of_runs before).addressed d cause ?_
    rw [agenda_eq]
    exact List.mem_cons_self

end StreamControl.Inbox
