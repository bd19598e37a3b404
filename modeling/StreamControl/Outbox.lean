import StreamControl.Machine
import StreamControl.Options
import StreamControl.Trace

/-!
# Gated outbound writes

Writes run one at a time in submission order. Before each one the gate is asked;
a refused write goes back to the head and halts the outbox until it is drained
again. Closing cancels what is queued, and every later write on submission.
-/

namespace StreamControl

/-- An outbox of writes `μ`. -/
structure Outbox (μ : Type) where
  /-- Submitted and neither run nor cancelled, the oldest first. -/
  pending : List μ
  /-- From this many queued writes on, the producer should back off. -/
  mark : Nat
  testing : Bool
  halted : Bool
  closed : Option Fault

namespace Outbox

variable {μ : Type}

def fresh (mark : Nat) : Outbox μ := ⟨[], mark, false, false, none⟩

def isWritable (q : Outbox μ) : Bool := q.pending.length < q.mark

def isClosed (q : Outbox μ) : Bool := q.closed.isSome

inductive Instr (μ : Type) where
  | submit (m : μ)
  | report
  | drain
  | accepted
  /-- The gate handed the write back. -/
  | refused (m : μ)
  | close (cause : Fault)

inductive Call (μ : Type) where
  | test (m : μ)
  | cancel (m : μ) (cause : Fault)
  /-- The outbox had been halted and is empty again. -/
  | drained

inductive Verdict where
  | accept
  | refuse
  deriving DecidableEq

/-- The gate answers a test; nothing else is answered. -/
def Reply : Call μ → Type
  | .test _ => Verdict
  | _ => Unit

inductive Note where
  | submitted (writable : Bool)
  | trace (t : Trace)

def exec : Instr μ → Outbox μ → Outbox μ × List (Todo (Instr μ) (Call μ) Note)
  | .submit m, q =>
    match q.closed with
    | some cause => (q, [.call (.cancel m cause), .note (.submitted false)])
    | none =>
      ({ q with pending := q.pending ++ [m] },
        if !q.testing && !q.halted && q.pending.isEmpty then [.work .drain, .work .report]
        else [.work .report])
  | .report, q => (q, [.note (.submitted q.isWritable)])
  | .drain, q =>
    if q.testing || q.isClosed then (q, [])
    else match q.pending with
      | m :: rest => ({ q with pending := rest, testing := true }, [.call (.test m)])
      | [] =>
        ({ q with halted := false },
          if q.halted then [.note (.trace .outboxDrained), .call .drained] else [])
  | .accepted, q => ({ q with testing := false }, [.work .drain])
  | .refused m, q =>
    match q.closed with
    | some cause => ({ q with testing := false }, [.call (.cancel m cause)])
    | none =>
      ({ q with pending := m :: q.pending, testing := false, halted := true },
        [.note (.trace (.gateClosed (q.pending.length + 1)))])
  | .close cause, q =>
    if q.isClosed then (q, [])
    else
      ({ q with pending := [], halted := false, closed := some cause },
        (if q.pending.isEmpty then []
          else [.note (.trace (.cancellingWrites q.pending.length cause))])
        ++ q.pending.map fun m => .call (.cancel m cause))

def resume : (c : Call μ) → Reply c → List (Todo (Instr μ) (Call μ) Note)
  | .test _, .accept => [.work .accepted]
  | .test m, .refuse => [.work (.refused m)]
  | .cancel _ _, _ => []
  | .drained, _ => []

def component : Component (Outbox μ) (Instr μ) (Call μ) Note Reply := ⟨exec, resume⟩

def describe (q : Outbox μ) : String :=
  Text.record "OutboundMessageQueue" [("pending", toString q.pending.length),
    ("halted", Text.bool q.halted), ("closed", Text.option Fault.describe q.closed)]

end Outbox

end StreamControl
