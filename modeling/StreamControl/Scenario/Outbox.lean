import StreamControl.Outbox
import StreamControl.Scenario.Scene

/-!
# Scenarios of an outbox

The gate lets writes through while it is open and its budget lasts. A write can
ask to be refused a number of times, and brings scripts for its first test and
for its cancellation.
-/

namespace StreamControl.Scenario

inductive OutboxOp (ν : Type) where
  | write (label : ν) (onTest onCancel : List (OutboxOp ν)) (refusals : Nat)
  | drain
  | close (cause : Fault)
  /-- Sets the gate, without a drain. -/
  | setGate (isOpen : Bool) (budget : Option Nat)
  | len
  | describe

namespace OutboxOp

variable {ν : Type}

mutual

def count : OutboxOp ν → Nat
  | write _ onTest onCancel _ => 1 + countAll onTest + countAll onCancel
  | _ => 1

def countAll : List (OutboxOp ν) → Nat
  | [] => 0
  | op :: rest => op.count + countAll rest

end

end OutboxOp

/-- A submitted write, numbered in submission order. -/
structure Letter (ν : Type) where
  number : Nat
  label : ν
  onTest : List (OutboxOp ν)
  onCancel : List (OutboxOp ν)
  refusals : Nat

inductive OutboxEvent (ν : Type) where
  | tested (label : ν)
  | refused (label : ν)
  | ran (label : ν)
  | cancelled (label : ν) (cause : Fault)
  | drained
  | returned (op : OutboxOp ν) (r : Answer)
  | trace (t : Trace)

/-- The gate of an outbox and the scripts it plays. -/
structure OutboxSetting (ν : Type) where
  isOpen : Bool
  /-- How many more writes the gate lets through, if there is a limit. -/
  budget : Option Nat
  /-- The gate takes no notice when the outbox has been drained. -/
  plain : Bool
  onDrained : List (List (OutboxOp ν))
  tracing : Bool
  submitted : Nat
  /-- The number of the write of each test so far, the latest first. -/
  tests : List Nat

namespace OutboxSetting

variable {ν : Type}

def verdict (g : OutboxSetting ν) (m : Letter ν) : Outbox.Verdict :=
  if g.tests.count m.number ≤ m.refusals || !g.isOpen || g.budget == some 0 then .refuse
  else .accept

def start (_ : Thread) (op : OutboxOp ν) (q : Outbox (Letter ν)) (g : OutboxSetting ν) :
    Opening (Outbox.Instr (Letter ν)) (OutboxSetting ν) (OutboxOp ν) Answer :=
  match op with
  | .write label onTest onCancel refusals =>
    .work { g with submitted := g.submitted + 1 } .nothing
      [.submit ⟨g.submitted, label, onTest, onCancel, refusals⟩]
  | .drain => .work g .nothing [.drain]
  | .close cause => .work g .nothing [.close cause]
  | .setGate isOpen budget => .now { g with isOpen, budget } .nothing
  | .len => .now g (.count q.pending.length)
  | .describe => .now g (.text q.describe)

def take (e : Outbox.Note) (g : OutboxSetting ν) :
    OutboxSetting ν × List (OutboxEvent ν) × Option Answer :=
  match e with
  | .submitted writable => (g, [], some (.flag writable))
  | .trace t => (g, if g.tracing then [.trace t] else [], none)

def enter (c : Outbox.Call (Letter ν)) (_ : Outbox (Letter ν)) (g : OutboxSetting ν) :
    OutboxSetting ν × List (OutboxEvent ν) × List (OutboxOp ν) :=
  match c with
  | .test m =>
    ({ g with tests := m.number :: g.tests }, [.tested m.label],
      if g.tests.contains m.number then [] else m.onTest)
  | .cancel m cause => (g, [.cancelled m.label cause], m.onCancel)
  | .drained =>
    if g.plain then (g, [], [])
    else ({ g with onDrained := g.onDrained.tail }, [.drained], g.onDrained.headD [])

def reply : (c : Outbox.Call (Letter ν)) → OutboxSetting ν → Outbox.Reply c
  | .test m, g => g.verdict m
  | .cancel _ _, _ => ()
  | .drained, _ => ()

def leave (c : Outbox.Call (Letter ν)) (g : OutboxSetting ν) :
    OutboxSetting ν × List (OutboxEvent ν) :=
  match c with
  | .test m =>
    match g.verdict m with
    | .refuse => (g, [.refused m.label])
    | .accept => ({ g with budget := g.budget.map (· - 1) }, [.ran m.label])
  | _ => (g, [])

def host : Host (Outbox (Letter ν)) (Outbox.Instr (Letter ν)) (Outbox.Call (Letter ν))
    Outbox.Note Outbox.Reply (OutboxSetting ν) (OutboxOp ν) Answer (OutboxEvent ν) where
  component := Outbox.component
  start := start
  take := take
  enter := enter
  reply := reply
  leave := leave
  finish _ _ g := (g, [])
  returned := .returned

end OutboxSetting

structure OutboxScenario (ν : Type) where
  mark : Nat
  isOpen : Bool
  plain : Bool
  tracing : Bool
  onDrained : List (List (OutboxOp ν))
  operations : List (OutboxOp ν)

structure OutboxView where
  len : Nat
  isEmpty : Bool
  isWritable : Bool
  isClosed : Bool

namespace OutboxScenario

variable {ν : Type}

def view (q : Outbox (Letter ν)) : OutboxView :=
  ⟨q.pending.length, q.pending.isEmpty, q.isWritable, q.isClosed⟩

def play (s : OutboxScenario ν) : List (Report Answer (OutboxEvent ν) OutboxView) :=
  let operations := OutboxOp.countAll (s.operations ++ s.onDrained.flatten)
  Scenario.play OutboxSetting.host (fun q g => (g, view q)) (allowance operations) s.operations
    (.opening (.fresh s.mark)
      ⟨s.isOpen, none, s.plain, s.onDrained, s.tracing, 0, []⟩)

end OutboxScenario

end StreamControl.Scenario
