import StreamControl.Scenario.Scene

/-!
# Scenarios of a task loop

Tasks bring a script. Handles are numbered in the order in which they were made.
-/

namespace StreamControl.Scenario

inductive LoopOp (ν : Type) where
  | execute (handle : Nat) (label : ν) (body : List (LoopOp ν))
  | inLoop (handle : Nat)
  | describe (handle : Nat)
  | clone (handle : Nat)
  | dropHandle (handle : Nat)
  | pass
  | dropRunner
  | serve
  | poll (handle : Nat)
  /-- Plays operations on a new thread, holding on to a handle meanwhile. -/
  | onThread (handle : Nat) (ops : List (LoopOp ν))
  /-- Serves the loop to its end on a runtime of its own, dropping all handles
  before or after the runner first finds nothing to do. -/
  | spawn (dropFirst : Bool)

namespace LoopOp

variable {ν : Type}

mutual

def count : LoopOp ν → Nat
  | execute _ _ body => 1 + countAll body
  | onThread _ ops => 1 + countAll ops
  | _ => 1

def countAll : List (LoopOp ν) → Nat
  | [] => 0
  | op :: rest => op.count + countAll rest

end

end LoopOp

/-- A task with the script it plays. -/
structure Chore (ν : Type) where
  label : ν
  body : List (LoopOp ν)

inductive LoopEvent (ν : Type) where
  | ran (label : ν)
  | returned (op : LoopOp ν) (r : Answer)
  | trace (t : Trace)

structure LoopSetting where
  /-- Whether each handle made so far was kept. -/
  kept : List Bool
  /-- Whether each operation underway that holds on to a handle has one, the latest
  first. -/
  holding : List Bool
  wakes : Nat
  tracing : Bool

namespace LoopSetting

variable {ν : Type}

def counted : Waker := 0

def ofRuntime : Waker := 1

def has (g : LoopSetting) (l : TaskLoop (Chore ν)) (handle : Nat) : Bool :=
  g.kept.getD handle false && l.handles != 0

/-- An operation holds on to a handle, if it exists, until it ends. -/
def hold (g : LoopSetting) (l : TaskLoop (Chore ν)) (handle : Nat) :
    LoopSetting × List (TaskLoop.Instr (Chore ν)) :=
  ({ g with holding := g.has l handle :: g.holding },
    if g.has l handle then [.addHandle] else [])

def release (g : LoopSetting) : LoopSetting × List (TaskLoop.Instr (Chore ν)) :=
  ({ g with holding := g.holding.tail }, if g.holding.headD false then [.dropHandle] else [])

def describe (l : TaskLoop (Chore ν)) (t : Thread) : String :=
  Text.record "TaskQueue"
    [("owner", Text.applied "Some" (if l.ownedBy t then "me" else "other"))]

def start (t : Thread) (op : LoopOp ν) (l : TaskLoop (Chore ν)) (g : LoopSetting) :
    Opening (TaskLoop.Instr (Chore ν)) LoopSetting (LoopOp ν) Answer :=
  match op with
  | .execute handle label body =>
    if g.has l handle then .work g .nothing [.post ⟨label, body⟩] else .now g .gone
  | .inLoop handle => .now g (if g.has l handle then .flag (l.ownedBy t) else .gone)
  | .describe handle => .now g (if g.has l handle then .text (describe l t) else .gone)
  | .clone handle =>
    let present := g.has l handle
    .work { g with kept := g.kept ++ [present] } (.count g.kept.length)
      (if present then [.addHandle] else [])
  | .dropHandle handle =>
    if g.has l handle then
      .work { g with kept := g.kept.set handle false } .nothing [.dropHandle]
    else .now g .nothing
  | .pass => .work g .gone [.pass t]
  | .dropRunner =>
    if l.runner = .ready then .work g (.flag true) [.dropRunner] else .now g (.flag false)
  | .serve => if l.runner = .ready then .work g .nothing [.serve] else .now g .gone
  | .poll handle =>
    let (g, instrs) := g.hold l handle
    .work g .gone (instrs ++ [.poll t counted])
  | .onThread handle ops =>
    let (g, instrs) := g.hold l handle
    ⟨g, .nothing, instrs, ops⟩
  | .spawn dropFirst =>
    if l.runner = .ready then
      .work g .served ((if dropFirst then [.dropHandles] else []) ++
        [.serve, .poll t ofRuntime, .dropHandles, .poll t ofRuntime])
    else .now g .gone

def take (e : TaskLoop.Note (Chore ν)) (g : LoopSetting) :
    LoopSetting × List (LoopEvent ν) × Option Answer :=
  match e with
  | .passed ran => (g, [], some (.count ran))
  | .polled w done => (g, [], if w = counted then some (.polled done) else none)
  | .woken w => ({ g with wakes := if w = counted then g.wakes + 1 else g.wakes }, [], none)
  | .lost _ => (g, [], none)
  | .trace t => (g, if g.tracing then [.trace t] else [], none)

def enter (c : TaskLoop.Call (Chore ν)) (_ : TaskLoop (Chore ν)) (g : LoopSetting) :
    LoopSetting × List (LoopEvent ν) × List (LoopOp ν) :=
  match c with
  | .run task => (g, [.ran task.label], task.body)

def finish (op : LoopOp ν) (_ : Answer) (g : LoopSetting) :
    LoopSetting × List (TaskLoop.Instr (Chore ν)) :=
  match op with
  | .poll _ | .onThread .. => g.release
  | _ => (g, [])

def host : Host (TaskLoop (Chore ν)) (TaskLoop.Instr (Chore ν)) (TaskLoop.Call (Chore ν))
    (TaskLoop.Note (Chore ν)) (fun _ => Unit) LoopSetting (LoopOp ν) Answer (LoopEvent ν) where
  component := TaskLoop.component
  start := start
  take := take
  enter := enter
  reply _ _ := ()
  leave _ g := (g, [])
  finish := finish
  returned := .returned

end LoopSetting

/-- Whether each handle is on its loop as seen from outside, absent where the
handle is gone, and how often polls were woken. -/
structure LoopView where
  handles : List (Option Bool)
  wakes : Nat

def LoopView.of {ν : Type} (l : TaskLoop (Chore ν)) (g : LoopSetting) : LoopView :=
  ⟨g.kept.map fun kept => if kept && l.handles != 0 then some (l.ownedBy mainThread) else none,
    g.wakes⟩

def playLoop {ν : Type} (tracing : Bool) (ops : List (LoopOp ν)) :
    List (Report Answer (LoopEvent ν) LoopView) :=
  play LoopSetting.host (fun l g => (g, .of l g)) (allowance (LoopOp.countAll ops)) ops
    (.opening (.fresh mainThread) ⟨[true], [], 0, tracing⟩)

end StreamControl.Scenario
