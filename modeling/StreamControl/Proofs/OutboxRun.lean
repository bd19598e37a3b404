import StreamControl.Outbox
import StreamControl.Proofs.Run

/-!
# Runs of an outbox

The gate of an outbox may say anything at each test, and its callbacks may submit writes,
drain and close the outbox to any depth. `Effect` says once what each instruction can do.
-/

namespace StreamControl.Outbox

variable {μ : Type}

/-- An outbox among its surroundings. -/
abbrev Live (μ : Type) := Machine (Outbox μ) (Instr μ) (Call μ) Note

abbrev Agenda (μ : Type) := List (Entry (Instr μ) (Call μ) Note)

abbrev Past (μ : Type) := History (Outbox μ) (Instr μ) (Call μ) Note Reply

/-- What is asked of an outbox, from outside or by one of its callbacks. -/
inductive Request : List (Instr μ) → Prop
  | write (w : μ) : Request [.submit w]
  | drain : Request [.drain]
  | close (cause : Fault) : Request [.close cause]

def isRequest : List (Instr μ) → Bool
  | [.submit _] | [.drain] | [.close _] => true
  | _ => false

lemma request_of_isRequest {is : List (Instr μ)} (asked : isRequest is = true) : Request is := by
  unfold isRequest at asked
  split at asked
  · exact .write _
  · exact .drain
  · exact .close _
  · cases asked

abbrev Moves (m : Live μ) (a : Act (Instr μ) (Call μ) Note Reply) (m' : Live μ) : Prop :=
  Machine.Move component (Machine.InTurn component Request) m a m'

/-- The runs of an outbox, whatever its gate and its callbacks do. -/
abbrev Runs (mark : Nat) (h : Past μ) (m : Live μ) : Prop :=
  Machine.Run component (Machine.InTurn component Request) (.idle (fresh mark)) h m

lemma driven_run {fuel : Nat} {turns : List (Machine.Turn (Instr μ) Reply)} {m : Live μ}
    (checked : (Machine.drive component fuel turns m).1.all
      (fun b => b.2.asked?.all isRequest) = true) :
    Machine.Run component (Machine.InTurn component Request) m
      (Machine.drive component fuel turns m).1 (Machine.drive component fuel turns m).2 :=
  Machine.drive_run (fun _ _ waits asked => ⟨waits, request_of_isRequest asked⟩) fuel turns m
    checked

/-- A closing that has writes to cancel says so first. -/
def warning (cause : Fault) (ws : List μ) : List (Todo (Instr μ) (Call μ) Note) :=
  if ws.isEmpty then [] else [.note (.trace (.cancellingWrites ws.length cause))]

/-- What an instruction does to an outbox, and what it leaves to do. -/
inductive Effect : Instr μ → Outbox μ → Outbox μ →
    List (Todo (Instr μ) (Call μ) Note) → Prop
  /-- A write that comes too late is cancelled at once. -/
  | late {q : Outbox μ} {w : μ} {cause : Fault} (closed : q.closed = some cause) :
    Effect (.submit w) q q [.call (.cancel w cause), .note (.submitted false)]
  | first {q : Outbox μ} {w : μ} (opened : q.closed = none) (untested : q.testing = false)
      (unhalted : q.halted = false) (empty : q.pending = []) :
    Effect (.submit w) q { q with pending := [w] } [.work .drain, .work .report]
  | queued {q : Outbox μ} {w : μ} (opened : q.closed = none)
      (waits : q.testing = true ∨ q.halted = true ∨ q.pending ≠ []) :
    Effect (.submit w) q { q with pending := q.pending ++ [w] } [.work .report]
  | reported {q : Outbox μ} : Effect .report q q [.note (.submitted q.isWritable)]
  /-- There is nothing to drain while the gate is being asked, or after a closing. -/
  | stays {q : Outbox μ} (busy : q.testing = true ∨ q.closed ≠ none) : Effect .drain q q []
  | tests {q : Outbox μ} {w : μ} {rest : List μ} (opened : q.closed = none)
      (untested : q.testing = false) (pending : q.pending = w :: rest) :
    Effect .drain q { q with pending := rest, testing := true } [.call (.test w)]
  | drained {q : Outbox μ} (opened : q.closed = none) (untested : q.testing = false)
      (empty : q.pending = []) (halted : q.halted = true) :
    Effect .drain q { q with halted := false } [.note (.trace .outboxDrained), .call .drained]
  | rests {q : Outbox μ} (opened : q.closed = none) (untested : q.testing = false)
      (empty : q.pending = []) (unhalted : q.halted = false) :
    Effect .drain q { q with halted := false } []
  | passed {q : Outbox μ} : Effect .accepted q { q with testing := false } [.work .drain]
  /-- A write that the gate hands back to a closed outbox is cancelled. -/
  | dropped {q : Outbox μ} {w : μ} {cause : Fault} (closed : q.closed = some cause) :
    Effect (.refused w) q { q with testing := false } [.call (.cancel w cause)]
  | putBack {q : Outbox μ} {w : μ} (opened : q.closed = none) :
    Effect (.refused w) q
      { q with pending := w :: q.pending, testing := false, halted := true }
      [.note (.trace (.gateClosed (q.pending.length + 1)))]
  | shut {q : Outbox μ} {cause : Fault} (closed : q.closed ≠ none) :
    Effect (.close cause) q q []
  | closes {q : Outbox μ} {cause : Fault} (opened : q.closed = none) :
    Effect (.close cause) q { q with pending := [], halted := false, closed := some cause }
      (warning cause q.pending ++ q.pending.map fun w => .call (.cancel w cause))

theorem exec_effect (i : Instr μ) (q : Outbox μ) : Effect i q (exec i q).1 (exec i q).2 := by
  cases i with
  | submit w =>
    cases hc : q.closed with
    | some cause => simpa only [exec, hc] using Effect.late hc
    | none =>
      by_cases idle : q.testing = false ∧ q.halted = false ∧ q.pending = []
      · obtain ⟨untested, unhalted, empty⟩ := idle
        simpa [exec, hc, untested, unhalted, empty] using
          Effect.first (w := w) hc untested unhalted empty
      · have waits : q.testing = true ∨ q.halted = true ∨ q.pending ≠ [] := by
          by_contra! none
          exact idle (by simpa using none)
        have busy : (!q.testing && !q.halted && q.pending.isEmpty) = false := by
          rcases waits with h | h | h <;> simp [h]
        simpa [exec, hc, busy] using Effect.queued (w := w) hc waits
  | report => exact .reported
  | drain =>
    by_cases busy : q.testing = true ∨ q.closed ≠ none
    · have stays : (q.testing || q.isClosed) = true := by
        simpa [isClosed, Option.isSome_iff_ne_none] using busy
      simpa [exec, stays] using Effect.stays busy
    · simp only [not_or, Bool.not_eq_true, ne_eq, not_not] at busy
      obtain ⟨untested, opened⟩ := busy
      cases hp : q.pending with
      | cons w rest =>
        simpa [exec, isClosed, untested, opened, hp] using Effect.tests opened untested hp
      | nil =>
        cases hh : q.halted with
        | true =>
          simpa [exec, isClosed, untested, opened, hp, hh] using
            Effect.drained opened untested hp hh
        | false =>
          simpa [exec, isClosed, untested, opened, hp, hh] using
            Effect.rests opened untested hp hh
  | accepted => exact .passed
  | refused w =>
    cases hc : q.closed with
    | some cause => simpa only [exec, hc] using Effect.dropped (w := w) hc
    | none => simpa only [exec, hc] using Effect.putBack (w := w) hc
  | close cause =>
    cases hc : q.closed with
    | some c =>
      have shut : Effect (.close cause) q q [] := .shut (by simp [hc])
      simpa [exec, isClosed, hc] using shut
    | none =>
      simp only [exec, isClosed, hc, Option.isSome_none, Bool.false_eq_true, if_false]
      exact .closes hc

namespace Effect

variable {i : Instr μ} {q q' : Outbox μ} {out : List (Todo (Instr μ) (Call μ) Note)}

lemma empty_of_closed (effect : Effect i q q' out) (empty : q.closed ≠ none → q.pending = [])
    (closed : q'.closed ≠ none) : q'.pending = [] := by
  cases effect with
  | first opened | queued opened | tests opened | putBack opened => exact absurd opened closed
  | closes _ => rfl
  | _ => exact empty closed

/-- Only a closing closes an outbox, and it does so unless another one was first. -/
lemma closed_eq (effect : Effect i q q' out) (other : ∀ cause, i ≠ .close cause) :
    q'.closed = q.closed := by
  cases effect with
  | closes _ => exact absurd rfl (other _)
  | _ => rfl

lemma closed_eq_or {cause : Fault} (effect : Effect (.close cause) q q' out) :
    q'.closed = q.closed.or (some cause) := by
  cases effect with
  | shut closed =>
    obtain ⟨first, known⟩ := Option.ne_none_iff_exists'.mp closed
    rw [known]
    rfl
  | closes opened =>
    rw [opened]
    rfl

lemma stays_closed {cause : Fault} (effect : Effect i q q' out) (closed : q.closed = some cause) :
    q'.closed = some cause := by
  by_cases shuts : ∃ cause', i = .close cause'
  · obtain ⟨cause', rfl⟩ := shuts
    rw [effect.closed_eq_or, closed]
    rfl
  · rw [effect.closed_eq fun cause' same => shuts ⟨cause', same⟩, closed]

end Effect

end StreamControl.Outbox
