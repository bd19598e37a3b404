import StreamControl.Channel
import StreamControl.Fault

/-!
# Completions

The outcome of a write travels through a channel. The promise sends it, or goes away
without; the future receives it. It is handed out to the first who asks, whichever way.
-/

namespace StreamControl

/-- A promise and its future. -/
structure Completion {ω : Type} (C : Channel Outcome ω) where
  channel : C.State
  /-- The promise is there: it has settled nothing, and has not gone away. -/
  promised : Bool
  /-- The future is there. -/
  awaited : Bool

namespace Completion

variable {ω : Type} {C : Channel Outcome ω}

def fresh : Completion C := ⟨C.fresh, true, true⟩

/-- Settles the write. A future that is gone does not want to know the outcome. -/
def settle (o : Outcome) (c : Completion C) : Upshot (Completion C) ω Unit :=
  (C.send o c.channel).map (fun _ => ()) fun s => { c with channel := s, promised := false }

def succeed (c : Completion C) : Upshot (Completion C) ω Unit := c.settle .success

def fail (cause : Fault) (c : Completion C) : Upshot (Completion C) ω Unit :=
  c.settle (.failure cause)

def abandon (c : Completion C) : Upshot (Completion C) ω Unit :=
  (C.dropSender c.channel).map id fun s => { c with channel := s, promised := false }

def isCanceled (c : Completion C) : Bool := C.isCanceled c.channel

/-- Asks for the outcome. There is none while the write is pending. -/
def take (c : Completion C) : Upshot (Completion C) ω (Option Outcome) :=
  (C.tryReceive c.channel).map
    (fun
      | .ok (some o) => some o
      | .ok none => none
      | .error () => some (.failure .canceled))
    fun s => { c with channel := s }

def poll (w : ω) (c : Completion C) : Upshot (Completion C) ω (Option Outcome) :=
  (C.pollReceive w c.channel).map
    (fun
      | some (.ok o) => some o
      | some (.error ()) => some (.failure .canceled)
      | none => none)
    fun s => { c with channel := s }

def ignore (c : Completion C) : Upshot (Completion C) ω Unit :=
  (C.dropReceiver c.channel).map id fun s => { c with channel := s, awaited := false }

/-- What is done with a promise or with its future. -/
inductive Request (ω : Type) where
  | succeed
  | fail (cause : Fault)
  | settle (o : Outcome)
  | abandon
  | isCanceled
  | take
  | poll (w : ω)
  | ignore
  deriving DecidableEq

inductive Reply where
  | done
  | canceled (b : Bool)
  | outcome (o? : Option Outcome)
  deriving DecidableEq

def Request.isForPromise : Request ω → Bool
  | succeed | fail _ | settle _ | abandon | isCanceled => true
  | take | poll _ | ignore => false

/-- Only a side that is there can be asked. -/
def allows (c : Completion C) (r : Request ω) : Bool :=
  if r.isForPromise then c.promised else c.awaited

def handle (c : Completion C) : Request ω → Upshot (Completion C) ω Reply
  | .succeed => c.succeed.map (fun _ => .done) id
  | .fail cause => (c.fail cause).map (fun _ => .done) id
  | .settle o => (c.settle o).map (fun _ => .done) id
  | .abandon => c.abandon.map (fun _ => .done) id
  | .isCanceled => ⟨.canceled c.isCanceled, c, []⟩
  | .take => c.take.map .outcome id
  | .poll w => (c.poll w).map .outcome id
  | .ignore => c.ignore.map (fun _ => .done) id

end Completion

end StreamControl
