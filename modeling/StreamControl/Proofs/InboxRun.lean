import StreamControl.Inbox
import StreamControl.Proofs.Run

/-!
# Runs of an inbox

The producer offers items, the consumer grants and takes away credit, and both may replace or
empty what they like from inside any callback. `Effect` says once what each instruction can do.
-/

namespace StreamControl.Inbox

variable {κ α : Type}

/-- An inbox among its surroundings. -/
abbrev Live (κ α : Type) := Machine (Inbox κ α) (Instr κ α) (Call κ α) Note

abbrev Agenda (κ α : Type) := List (Entry (Instr κ α) (Call κ α) Note)

abbrev Past (κ α : Type) := History (Inbox κ α) (Instr κ α) (Call κ α) Note Reply

/-- What is asked of an inbox, from outside or by one of its callbacks. -/
inductive Request : List (Instr κ α) → Prop
  | offer (a : α) : Request (offer a)
  | fetch (amount : Nat) : Request (fetch amount)
  | resume : Request resumed
  | pause : Request [.pause]
  | clear : Request [.clear]
  | setConsumer (k : κ) : Request [.setConsumer k]
  | setOnFault (k : κ) : Request [.setOnFault k]
  | setOnDrained (k : κ) : Request [.setOnDrained k]

def isRequest : List (Instr κ α) → Bool
  | [.push _, .settle] | [.grant _, .count] => true
  | [.grant amount] => amount = unlimited
  | [.pause] | [.clear] | [.setConsumer _] | [.setOnFault _] | [.setOnDrained _] => true
  | _ => false

lemma request_of_isRequest {is : List (Instr κ α)} (asked : isRequest is = true) :
    Request is := by
  unfold isRequest at asked
  split at asked
  · exact .offer _
  · exact .fetch _
  · obtain rfl := of_decide_eq_true asked
    exact .resume
  · exact .pause
  · exact .clear
  · exact .setConsumer _
  · exact .setOnFault _
  · exact .setOnDrained _
  · cases asked

abbrev Moves (m : Live κ α) (a : Act (Instr κ α) (Call κ α) Note Reply) (m' : Live κ α) : Prop :=
  Machine.Move component (Machine.InTurn component Request) m a m'

/-- The runs of an inbox, whatever its callbacks do. -/
abbrev Runs (mark : Nat) (h : Past κ α) (m : Live κ α) : Prop :=
  Machine.Run component (Machine.InTurn component Request) (.idle (fresh mark)) h m

lemma driven_run {fuel : Nat} {turns : List (Machine.Turn (Instr κ α) Reply)} {m : Live κ α}
    (checked : (Machine.drive component fuel turns m).1.all
      (fun b => b.2.asked?.all isRequest) = true) :
    Machine.Run component (Machine.InTurn component Request) m
      (Machine.drive component fuel turns m).1 (Machine.drive component fuel turns m).2 :=
  Machine.drive_run (fun _ _ waits asked => ⟨waits, request_of_isRequest asked⟩) fuel turns m
    checked

/-- Whom an inbox tells that the consumer failed. -/
def complaint (b : Inbox κ α) : Outcome → List (Todo (Instr κ α) (Call κ α) Note)
  | .success => []
  | .failure cause =>
    match b.onFault with
    | some k => [.call (.fault k cause)]
    | none => [.note (.trace (.unhandledFault cause))]

/-- Whom an inbox tells that it is empty again. -/
def relief (b : Inbox κ α) : List (Todo (Instr κ α) (Call κ α) Note) :=
  if b.overflow then (b.onDrained.map (.call ∘ .drained)).toList else []

/-- What an instruction does to an inbox, and what it leaves to do. -/
inductive Effect : Instr κ α → Inbox κ α → Inbox κ α →
    List (Todo (Instr κ α) (Call κ α) Note) → Prop
  | pushed {b : Inbox κ α} {a : α} :
    Effect (.push a) b { b with pending := b.pending ++ [a] } [.work .deliver]
  /-- An item goes to the consumer, on credit. -/
  | hands {b : Inbox κ α} {k : κ} {a : α} {rest : List α} (free : b.emitting = false)
      (credited : b.credit ≠ 0) (consumer : b.consumer = some k) (pending : b.pending = a :: rest) :
    Effect .deliver b { b with pending := rest, credit := spend b.credit, emitting := true }
      [.call (.consume k a)]
  | waits {b : Inbox κ α} (busy : b.emitting = true ∨ b.credit = 0 ∨ b.consumer = none) :
    Effect .deliver b b []
  | emptied {b : Inbox κ α} (free : b.emitting = false) (credited : b.credit ≠ 0)
      (consumer : b.consumer ≠ none) (empty : b.pending = []) :
    Effect .deliver b { b with overflow := false } (relief b)
  | consumed {b : Inbox κ α} {o : Outcome} :
    Effect (.consumed o) b { b with emitting := false } (complaint b o ++ [.work .deliver])
  | settled {b : Inbox κ α} : Effect .settle b b.settle.1 [.note (.pushed b.isWritable)]
  | granted {b : Inbox κ α} {amount : Nat} :
    Effect (.grant amount) b { b with credit := raise b.credit amount } [.work .deliver]
  | counted {b : Inbox κ α} : Effect .count b b [.note (.granted (!b.pending.isEmpty))]
  | paused {b : Inbox κ α} : Effect .pause b { b with credit := 0 } []
  | cleared {b : Inbox κ α} :
    Effect .clear b { b with pending := [] } [.note (.cleared b.pending.length)]
  | consumerSet {b : Inbox κ α} {k : κ} :
    Effect (.setConsumer k) b { b with consumer := some k } []
  | onFaultSet {b : Inbox κ α} {k : κ} : Effect (.setOnFault k) b { b with onFault := some k } []
  | onDrainedSet {b : Inbox κ α} {k : κ} :
    Effect (.setOnDrained k) b { b with onDrained := some k } []

theorem exec_effect (i : Instr κ α) (b : Inbox κ α) :
    Effect i b (exec i b).1 (exec i b).2 := by
  cases i with
  | push a => exact .pushed
  | deliver =>
    by_cases busy : b.emitting = true ∨ b.credit = 0
    · have stays : (b.emitting || b.isPaused) = true := by simpa [isPaused] using busy
      simpa [exec, stays] using Effect.waits (b := b) (by tauto)
    · simp only [not_or, Bool.not_eq_true] at busy
      obtain ⟨free, credited⟩ := busy
      have goes : (b.emitting || b.isPaused) = false := by simp [isPaused, free, credited]
      cases hk : b.consumer with
      | none => simpa [exec, goes, hk] using Effect.waits (b := b) (.inr (.inr hk))
      | some k =>
        cases hp : b.pending with
        | nil =>
          simpa [exec, goes, hk, hp, relief] using
            Effect.emptied free credited (by simp [hk]) hp
        | cons a rest => simpa [exec, goes, hk, hp] using Effect.hands free credited hk hp
  | consumed o =>
    cases o with
    | success => exact .consumed
    | failure cause =>
      cases hf : b.onFault with
      | none => simpa [exec, complaint, hf] using Effect.consumed (b := b) (o := .failure cause)
      | some k => simpa [exec, complaint, hf] using Effect.consumed (b := b) (o := .failure cause)
  | settle => exact .settled
  | grant amount => exact .granted
  | count => exact .counted
  | pause => exact .paused
  | clear => exact .cleared
  | setConsumer k => exact .consumerSet
  | setOnFault k => exact .onFaultSet
  | setOnDrained k => exact .onDrainedSet

/-- Only a push adds to an empty buffer. -/
lemma Effect.pending_nil {i : Instr κ α} {b b' : Inbox κ α}
    {out : List (Todo (Instr κ α) (Call κ α) Note)} (effect : Effect i b b' out)
    (no_push : ∀ a, i ≠ .push a) (empty : b.pending = []) : b'.pending = [] := by
  cases effect with
  | pushed => exact absurd rfl (no_push _)
  | hands _ _ _ pending => exact absurd (empty.symm.trans pending) (by simp)
  | cleared => rfl
  | _ => exact empty

end StreamControl.Inbox
