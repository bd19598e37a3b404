import StreamControl.Machine
import StreamControl.Trace

/-!
# Task loops

Work for a connection is posted to a loop through any number of handles and run
by the loop's one runner, in posting order. The thread that drives the runner
owns the loop. A runner makes single passes, or is turned into a future that
serves the loop until the last handle is gone.
-/

namespace StreamControl

abbrev Thread := Nat

abbrev Waker := Nat

/-- What the runner of a loop is doing. -/
inductive Runner where
  | ready
  | passing
  /-- Turned into a future; `bound` once it has been polled. -/
  | serving (bound : Bool)
  | polling
  | stopped
  | dropped
  deriving DecidableEq

structure TaskLoop (τ : Type) where
  owner : Thread
  /-- Posted and not yet run, the oldest first. -/
  pending : List τ
  handles : Nat
  /-- Set while a future found nothing to do. -/
  waker : Option Waker
  runner : Runner

namespace TaskLoop

variable {τ : Type}

def fresh (owner : Thread) : TaskLoop τ := ⟨owner, [], 1, none, .ready⟩

def ownedBy (l : TaskLoop τ) (t : Thread) : Bool := l.owner = t

/-- A runner is left that may run what is posted. -/
def isLive (l : TaskLoop τ) : Bool :=
  match l.runner with
  | .stopped | .dropped => false
  | _ => true

/-- The runner, or the future that it was turned into, is there to be dropped. -/
def isIdle (l : TaskLoop τ) : Bool :=
  match l.runner with
  | .ready | .serving _ => true
  | _ => false

inductive Instr (τ : Type) where
  | post (task : τ)
  /-- A pass over everything posted, made by a thread. -/
  | pass (t : Thread)
  | passNext (ran : Nat)
  | serve
  | poll (t : Thread) (w : Waker)
  | pollNext (w : Waker)
  | addHandle
  | dropHandle
  | dropHandles
  | dropRunner

inductive Call (τ : Type) where
  | run (task : τ)

inductive Note (τ : Type) where
  | passed (ran : Nat)
  | polled (w : Waker) (done : Bool)
  | woken (w : Waker)
  /-- The task will never run. -/
  | lost (task : τ)
  | trace (t : Trace)

/-- Takes the waker, if one is stored, and uses it. -/
def wake (l : TaskLoop τ) : TaskLoop τ × List (Todo (Instr τ) (Call τ) (Note τ)) :=
  ({ l with waker := none }, (l.waker.map (.note ∘ .woken)).toList)

def exec : Instr τ → TaskLoop τ → TaskLoop τ × List (Todo (Instr τ) (Call τ) (Note τ))
  | .post task, l =>
    if l.isLive then wake { l with pending := l.pending ++ [task] }
    else (l, [.note (.lost task), .note (.trace .loopGone)])
  | .pass t, l =>
    if l.runner = .ready then ({ l with owner := t, runner := .passing }, [.work (.passNext 0)])
    else (l, [])
  | .passNext ran, l =>
    match l.pending with
    | task :: rest => ({ l with pending := rest }, [.call (.run task), .work (.passNext (ran + 1))])
    | [] =>
      ({ l with runner := .ready },
        (if ran = 0 then [] else [.note (.trace (.tasksRun ran))]) ++ [.note (.passed ran)])
  | .serve, l => if l.runner = .ready then ({ l with runner := .serving false }, []) else (l, [])
  | .poll t w, l =>
    match l.runner with
    | .serving bound =>
      ({ l with owner := if bound then l.owner else t, runner := .polling }, [.work (.pollNext w)])
    | _ => (l, [])
  | .pollNext w, l =>
    match l.pending with
    | task :: rest => ({ l with pending := rest }, [.call (.run task), .work (.pollNext w)])
    | [] =>
      if l.handles = 0 then
        ({ l with runner := .stopped }, [.note (.trace .loopStopped), .note (.polled w true)])
      else ({ l with runner := .serving true, waker := some w }, [.note (.polled w false)])
  | .addHandle, l => ({ l with handles := l.handles + 1 }, [])
  | .dropHandle, l =>
    let l := { l with handles := l.handles - 1 }
    if l.handles = 0 then l.wake else (l, [])
  | .dropHandles, l => wake { l with handles := 0 }
  | .dropRunner, l =>
    if l.isIdle then
      ({ l with runner := .dropped, pending := [] }, l.pending.map (.note ∘ .lost))
    else (l, [])

/-- The runner goes on by itself after a task. -/
def resume : (c : Call τ) → Unit → List (Todo (Instr τ) (Call τ) (Note τ))
  | .run _, _ => []

def component : Component (TaskLoop τ) (Instr τ) (Call τ) (Note τ) (fun _ => Unit) :=
  ⟨exec, resume⟩

end TaskLoop

end StreamControl
