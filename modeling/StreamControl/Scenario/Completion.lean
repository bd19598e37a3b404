import StreamControl.Completion
import StreamControl.Scenario.Scene

/-!
# Scenarios of completions

Pairs of a promise and a future, each with a waker that counts.
-/

namespace StreamControl.Scenario

inductive CompletionOp where
  | make
  | settle (pair : Nat) (o : Outcome)
  | abandon (pair : Nat)
  | isCanceled (pair : Nat)
  | take (pair : Nat)
  | poll (pair : Nat)
  | ignore (pair : Nat)

abbrev Cell := Completion (.oneShot Outcome Unit)

/-- A completion and how often its reader was woken. -/
structure Pair where
  cell : Cell
  wakes : Nat

namespace Pair

def fresh : Pair := ⟨.fresh, 0⟩

def answer : Completion.Reply → Answer
  | .done | .outcome none => .nothing
  | .canceled b => .flag b
  | .outcome (some o) => .outcome o

def apply (r : Completion.Request Unit) (p : Pair) : Pair × Answer :=
  if p.cell.allows r then
    let u := p.cell.handle r
    (⟨u.state, p.wakes + u.woken.length⟩, answer u.answer)
  else (p, .gone)

end Pair

namespace CompletionOp

/-- The pair an operation names and what it does there. -/
def target? : CompletionOp → Option (Nat × Completion.Request Unit)
  | make => none
  | settle i o => some (i, .settle o)
  | abandon i => some (i, .abandon)
  | isCanceled i => some (i, .isCanceled)
  | take i => some (i, .take)
  | poll i => some (i, .poll ())
  | ignore i => some (i, .ignore)

def apply (op : CompletionOp) (pairs : List Pair) : List Pair × Answer :=
  match op.target? with
  | none => (pairs ++ [.fresh], .count pairs.length)
  | some (i, r) =>
    match pairs[i]? with
    | none => (pairs, .gone)
    | some p => (pairs.set i (p.apply r).1, (p.apply r).2)

end CompletionOp

/-- Plays operations on pairs. The view counts the wakes of each pair. -/
def playCompletions : List CompletionOp → List Pair → List (Report Answer Empty (List Nat))
  | [], _ => []
  | op :: rest, pairs =>
    let (pairs, r) := op.apply pairs
    ⟨some r, #[], pairs.map (·.wakes)⟩ :: playCompletions rest pairs

end StreamControl.Scenario
