import StreamControl.Inbox
import StreamControl.Scenario.Scene

/-!
# Scenarios of an inbox

Items bring the script the consumer plays for them and the fault it ends in, if
any. Callbacks go by the tag they were registered with.
-/

namespace StreamControl.Scenario

inductive InboxOp (κ ν : Type) where
  | write (label : ν) (body : List (InboxOp κ ν)) (fault : Option Fault)
  | setConsumer (tag : κ)
  | setOnFault (tag : κ)
  | setOnDrained (tag : κ)
  | fetch (amount : Nat)
  | resume
  | pause
  | clear
  | len
  | describe

namespace InboxOp

variable {κ ν : Type}

mutual

def count : InboxOp κ ν → Nat
  | write _ body _ => 1 + countAll body
  | _ => 1

def countAll : List (InboxOp κ ν) → Nat
  | [] => 0
  | op :: rest => op.count + countAll rest

end

end InboxOp

/-- An item with what its consumer does. -/
structure Parcel (κ ν : Type) where
  label : ν
  body : List (InboxOp κ ν)
  fault : Option Fault

inductive InboxEvent (κ ν : Type) where
  | consumed (tag : κ) (label : ν)
  | fault (tag : κ) (cause : Fault)
  | drained (tag : κ)
  | returned (op : InboxOp κ ν) (r : Answer)
  | trace (t : Trace)

/-- The scripts of the callbacks that are not the consumer. -/
structure InboxSetting (κ ν : Type) where
  onFault : List (List (InboxOp κ ν))
  onDrained : List (List (InboxOp κ ν))
  tracing : Bool

namespace InboxSetting

variable {κ ν : Type}

def start (_ : Thread) (op : InboxOp κ ν) (b : Inbox κ (Parcel κ ν)) (g : InboxSetting κ ν) :
    Opening (Inbox.Instr κ (Parcel κ ν)) (InboxSetting κ ν) (InboxOp κ ν) Answer :=
  match op with
  | .write label body fault => .work g .nothing (Inbox.offer ⟨label, body, fault⟩)
  | .setConsumer tag => .work g .nothing [.setConsumer tag]
  | .setOnFault tag => .work g .nothing [.setOnFault tag]
  | .setOnDrained tag => .work g .nothing [.setOnDrained tag]
  | .fetch amount => .work g .nothing (Inbox.fetch amount)
  | .resume => .work g .nothing Inbox.resumed
  | .pause => .work g .nothing [.pause]
  | .clear => .work g .nothing [.clear]
  | .len => .now g (.count b.pending.length)
  | .describe => .now g (.text b.describe)

def take (e : Inbox.Note) (g : InboxSetting κ ν) :
    InboxSetting κ ν × List (InboxEvent κ ν) × Option Answer :=
  match e with
  | .pushed writable => (g, [], some (.flag writable))
  | .granted more => (g, [], some (.flag more))
  | .cleared n => (g, [], some (.count n))
  | .trace t => (g, if g.tracing then [.trace t] else [], none)

def enter (c : Inbox.Call κ (Parcel κ ν)) (_ : Inbox κ (Parcel κ ν)) (g : InboxSetting κ ν) :
    InboxSetting κ ν × List (InboxEvent κ ν) × List (InboxOp κ ν) :=
  match c with
  | .consume tag item => (g, [.consumed tag item.label], item.body)
  | .fault tag cause =>
    ({ g with onFault := g.onFault.tail }, [.fault tag cause], g.onFault.headD [])
  | .drained tag =>
    ({ g with onDrained := g.onDrained.tail }, [.drained tag], g.onDrained.headD [])

def reply : (c : Inbox.Call κ (Parcel κ ν)) → InboxSetting κ ν → Inbox.Reply c
  | .consume _ item, _ => Outcome.ofFault? item.fault
  | .fault _ _, _ => ()
  | .drained _, _ => ()

def host : Host (Inbox κ (Parcel κ ν)) (Inbox.Instr κ (Parcel κ ν))
    (Inbox.Call κ (Parcel κ ν)) Inbox.Note Inbox.Reply (InboxSetting κ ν) (InboxOp κ ν)
    Answer (InboxEvent κ ν) where
  component := Inbox.component
  start := start
  take := take
  enter := enter
  reply := reply
  leave _ g := (g, [])
  finish _ _ g := (g, [])
  returned := .returned

end InboxSetting

structure InboxScenario (κ ν : Type) where
  mark : Nat
  tracing : Bool
  onFault : List (List (InboxOp κ ν))
  onDrained : List (List (InboxOp κ ν))
  operations : List (InboxOp κ ν)

structure InboxView where
  len : Nat
  isEmpty : Bool
  isPaused : Bool
  isWritable : Bool

namespace InboxScenario

variable {κ ν : Type}

def view (b : Inbox κ (Parcel κ ν)) : InboxView :=
  ⟨b.pending.length, b.pending.isEmpty, b.isPaused, b.isWritable⟩

def play (s : InboxScenario κ ν) : List (Report Answer (InboxEvent κ ν) InboxView) :=
  let operations := InboxOp.countAll (s.operations ++ (s.onFault ++ s.onDrained).flatten)
  Scenario.play InboxSetting.host (fun b g => (g, view b)) (allowance operations) s.operations
    (.opening (.fresh s.mark) ⟨s.onFault, s.onDrained, s.tracing⟩)

end InboxScenario

end StreamControl.Scenario
