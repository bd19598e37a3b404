import StreamControl.Machine
import StreamControl.Options
import StreamControl.Trace

/-!
# Inbound delivery on credit

Items are pushed in by a producer and handed one at a time to a consumer, as long
as there is credit. Credit is granted in amounts, without limit, or taken away.
The mark is only a signal to the producer: no item is dropped because of it.
-/

namespace StreamControl

/-- Credit from which nothing is taken: the largest 64-bit count. -/
def unlimited : Nat := UInt64.size - 1

/-- An inbox of items `α`, whose callbacks go by names `κ`. -/
structure Inbox (κ α : Type) where
  pending : List α
  /-- From this many buffered items on, the producer should back off. -/
  mark : Nat
  credit : Nat
  /-- The consumer has an item in hand: nothing else is handed over meanwhile. -/
  emitting : Bool
  /-- The producer was told to back off since the inbox was last emptied. -/
  overflow : Bool
  consumer : Option κ
  onFault : Option κ
  /-- Whom to tell that an overflowed inbox is empty again. -/
  onDrained : Option κ

namespace Inbox

variable {κ α : Type}

def fresh (mark : Nat) : Inbox κ α := ⟨[], mark, unlimited, false, false, none, none, none⟩

def isPaused (b : Inbox κ α) : Bool := b.credit = 0

def isWritable (b : Inbox κ α) : Bool := b.pending.length < b.mark

def spend (credit : Nat) : Nat := if credit = unlimited then credit else credit - 1

/-- Credit after a grant: it never passes the limit. -/
def raise (credit amount : Nat) : Nat := min (credit + amount) unlimited

/-- Tells the producer whether to go on, and remembers if not. -/
def settle (b : Inbox κ α) : Inbox κ α × Bool :=
  ({ b with overflow := b.overflow || !b.isWritable }, b.isWritable)

def clear (b : Inbox κ α) : Inbox κ α × Nat := ({ b with pending := [] }, b.pending.length)

def pause (b : Inbox κ α) : Inbox κ α := { b with credit := 0 }

inductive Instr (κ α : Type) where
  | push (a : α)
  | deliver
  /-- The consumer is done with the item in hand. -/
  | consumed (o : Outcome)
  | settle
  | grant (amount : Nat)
  | count
  | pause
  | clear
  | setConsumer (k : κ)
  | setOnFault (k : κ)
  | setOnDrained (k : κ)

inductive Call (κ α : Type) where
  | consume (k : κ) (a : α)
  | fault (k : κ) (cause : Fault)
  | drained (k : κ)

def Reply : Call κ α → Type
  | .consume _ _ => Outcome
  | _ => Unit

inductive Note where
  | pushed (writable : Bool)
  | granted (more : Bool)
  | cleared (count : Nat)
  | trace (t : Trace)

def exec : Instr κ α → Inbox κ α → Inbox κ α × List (Todo (Instr κ α) (Call κ α) Note)
  | .push a, b => ({ b with pending := b.pending ++ [a] }, [.work .deliver])
  | .deliver, b =>
    if b.emitting || b.isPaused then (b, [])
    else match b.consumer, b.pending with
      | none, _ => (b, [])
      | some k, a :: rest =>
        ({ b with pending := rest, credit := spend b.credit, emitting := true },
          [.call (.consume k a)])
      | some _, [] =>
        ({ b with overflow := false },
          if b.overflow then (b.onDrained.map (.call ∘ .drained)).toList else [])
  | .consumed .success, b => ({ b with emitting := false }, [.work .deliver])
  | .consumed (.failure cause), b =>
    ({ b with emitting := false },
      [match b.onFault with
        | some k => .call (.fault k cause)
        | none => .note (.trace (.unhandledFault cause)),
       .work .deliver])
  | .settle, b => (b.settle.1, [.note (.pushed b.settle.2)])
  | .grant amount, b => ({ b with credit := raise b.credit amount }, [.work .deliver])
  | .count, b => (b, [.note (.granted (!b.pending.isEmpty))])
  | .pause, b => (b.pause, [])
  | .clear, b => (b.clear.1, [.note (.cleared b.clear.2)])
  | .setConsumer k, b => ({ b with consumer := some k }, [])
  | .setOnFault k, b => ({ b with onFault := some k }, [])
  | .setOnDrained k, b => ({ b with onDrained := some k }, [])

def resume : (c : Call κ α) → Reply c → List (Todo (Instr κ α) (Call κ α) Note)
  | .consume _ _, o => [.work (.consumed o)]
  | .fault _ _, _ => []
  | .drained _, _ => []

def component : Component (Inbox κ α) (Instr κ α) (Call κ α) Note Reply := ⟨exec, resume⟩

def offer (a : α) : List (Instr κ α) := [.push a, .settle]

def fetch (amount : Nat) : List (Instr κ α) := [.grant amount, .count]

def resumed : List (Instr κ α) := [.grant unlimited]

def describe (b : Inbox κ α) : String :=
  Text.record "InboundBuffer" [("pending", toString b.pending.length),
    ("high_watermark", toString b.mark), ("demand", toString b.credit)]

end Inbox

end StreamControl
