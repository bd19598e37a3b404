import StreamControl.Machine
import StreamControl.TaskLoop

/-!
# Scripted surroundings

A scenario is a list of operations made on a component from outside, with scripts
for the callbacks that happen on the way. A script is again a list of operations,
so callbacks re-enter the component as they like. Playing a scenario logs all
that can be observed, in the order in which it happens.
-/

namespace StreamControl.Scenario

/-- How an operation starts: the result it has so far, the instructions it asks
of the component, and the operations it runs on a thread of their own. -/
structure Opening (ι Ω Op Res : Type) where
  setting : Ω
  result : Res
  instrs : List ι
  aside : List Op

namespace Opening

variable {ι Ω Op Res : Type}

def now (setting : Ω) (result : Res) : Opening ι Ω Op Res := ⟨setting, result, [], []⟩

def work (setting : Ω) (result : Res) (instrs : List ι) : Opening ι Ω Op Res :=
  ⟨setting, result, instrs, []⟩

end Opening

/-- The surroundings of a component: what they keep in a setting `Ω` and how they
take part in a run. -/
structure Host (σ ι κ ε : Type) (ρ : κ → Type) (Ω Op Res Ev : Type) where
  component : Component σ ι κ ε ρ
  start : Thread → Op → σ → Ω → Opening ι Ω Op Res
  /-- A note is taken: what is logged, and the result it brings, if any. -/
  take : ε → Ω → Ω × List Ev × Option Res
  /-- A call begins: what is logged and the script that is played. -/
  enter : κ → σ → Ω → Ω × List Ev × List Op
  reply : (c : κ) → Ω → ρ c
  leave : κ → Ω → Ω × List Ev
  /-- An operation ends with a result: the instructions it asks for at its end. -/
  finish : Op → Res → Ω → Ω × List ι
  returned : Op → Res → Ev

/-- A script being played: in answer to a call, on a thread of its own, or from
the very outside. -/
structure Activation (κ Op Res : Type) where
  answering : Option κ
  thread : Thread
  script : List Op
  /-- The operation that has not returned, with its result so far. -/
  underway : Option (Op × Res)

/-- A scenario at some moment. The newest activation comes first. -/
structure Scene (σ ι κ ε Ω Op Res Ev : Type) where
  machine : Machine σ ι κ ε
  setting : Ω
  stack : List (Activation κ Op Res)
  threads : Nat
  events : Array Ev
  last : Option Res

def mainThread : Thread := 0

namespace Scene

variable {σ ι κ ε : Type} {ρ : κ → Type} {Ω Op Res Ev : Type}

def opening (state : σ) (setting : Ω) : Scene σ ι κ ε Ω Op Res Ev :=
  ⟨.idle state, setting, [], 0, #[], none⟩

def log (events : List Ev) (s : Scene σ ι κ ε Ω Op Res Ev) : Scene σ ι κ ε Ω Op Res Ev :=
  { s with events := s.events ++ events }

def thread (s : Scene σ ι κ ε Ω Op Res Ev) : Thread :=
  match s.stack with
  | [] => mainThread
  | a :: _ => a.thread

def setResult (r : Res) (s : Scene σ ι κ ε Ω Op Res Ev) : Scene σ ι κ ε Ω Op Res Ev :=
  match s.stack with
  | [] => s
  | a :: below =>
    { s with stack := { a with underway := a.underway.map fun u => (u.1, r) } :: below }

def observe (H : Host σ ι κ ε ρ Ω Op Res Ev) (signal : Signal κ ε)
    (s : Scene σ ι κ ε Ω Op Res Ev) : Scene σ ι κ ε Ω Op Res Ev :=
  match signal with
  | .silent => s
  | .noted e =>
    let (setting, events, result?) := H.take e s.setting
    let s := { s with setting }.log events
    match result? with
    | some r => s.setResult r
    | none => s
  | .called c =>
    let (setting, events, script) := H.enter c s.machine.state s.setting
    { s with setting, stack := ⟨some c, s.thread, script, none⟩ :: s.stack }.log events

def start (H : Host σ ι κ ε ρ Ω Op Res Ev) (op : Op) (a : Activation κ Op Res)
    (below : List (Activation κ Op Res)) (s : Scene σ ι κ ε Ω Op Res Ev) :
    Scene σ ι κ ε Ω Op Res Ev :=
  let o := H.start a.thread op s.machine.state s.setting
  let stack := { a with underway := some (op, o.result) } :: below
  let s := { s with setting := o.setting, machine := s.machine.invoke o.instrs }
  if o.aside.isEmpty then { s with stack }
  else
    { s with
      stack := ⟨none, s.threads + 1, o.aside, none⟩ :: stack
      threads := s.threads + 1 }

/-- One step: of the component while it has something to do, else of the newest
activation. -/
def step (H : Host σ ι κ ε ρ Ω Op Res Ev) (s : Scene σ ι κ ε Ω Op Res Ev) :
    Option (Scene σ ι κ ε Ω Op Res Ev) :=
  match s.machine.step H.component with
  | some (signal, machine) => some ({ s with machine }.observe H signal)
  | none =>
    match s.stack with
    | [] => none
    | a :: below =>
      match a.underway, a.script with
      | some (op, r), _ =>
        let (setting, instrs) := H.finish op r s.setting
        some ({ s with
          setting
          machine := s.machine.invoke instrs
          stack := { a with underway := none } :: below
          last := some r }.log (if below.isEmpty then [] else [H.returned op r]))
      | none, op :: rest => some (s.start H op { a with script := rest } below)
      | none, [] =>
        match a.answering with
        | none => some { s with stack := below }
        | some c =>
          let (setting, events) := H.leave c s.setting
          some ({ s with
            machine := s.machine.answer H.component (H.reply · s.setting)
            setting
            stack := below }.log events)

def advance (H : Host σ ι κ ε ρ Ω Op Res Ev) :
    Nat → Scene σ ι κ ε Ω Op Res Ev → Scene σ ι κ ε Ω Op Res Ev
  | 0, s => s
  | fuel + 1, s =>
    match s.step H with
    | none => s
    | some s' => s'.advance H fuel

def perform (H : Host σ ι κ ε ρ Ω Op Res Ev) (fuel : Nat) (op : Op)
    (s : Scene σ ι κ ε Ω Op Res Ev) : Scene σ ι κ ε Ω Op Res Ev :=
  advance H fuel
    { s with stack := [⟨none, mainThread, [op], none⟩], events := #[], last := none }

end Scene

inductive Answer where
  | nothing
  /-- What the operation names does not exist, or not any more. -/
  | gone
  | flag (b : Bool)
  | count (n : Nat)
  | text (s : String)
  | fault (cause : Fault)
  | outcome (o : Outcome)
  | polled (done : Bool)
  | served
  deriving DecidableEq

structure Report (Res Ev View : Type) where
  result : Option Res
  events : Array Ev
  view : View

/-- Plays a scenario. After each operation a view is taken, which may itself
change the setting. -/
def play {σ ι κ ε : Type} {ρ : κ → Type} {Ω Op Res Ev View : Type}
    (H : Host σ ι κ ε ρ Ω Op Res Ev) (view : σ → Ω → Ω × View) (fuel : Nat) :
    List Op → Scene σ ι κ ε Ω Op Res Ev → List (Report Res Ev View)
  | [], _ => []
  | op :: rest, s =>
    let s := s.perform H fuel op
    let (setting, seen) := view s.machine.state s.setting
    ⟨s.last, s.events, seen⟩ :: play H view fuel rest { s with setting }

/-- The steps allowed to each operation of a scenario: every operation in it and
every item it leaves behind takes only a few dozen. -/
def allowance (operations : Nat) : Nat := 1000 * (operations + 1)

end StreamControl.Scenario
