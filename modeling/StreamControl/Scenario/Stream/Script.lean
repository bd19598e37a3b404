import StreamControl.Scenario.Scene
import StreamControl.Stream.Exec

/-!
# Scripts for the surroundings of a stream

What can be asked in a scenario of a stream, what its callbacks are told to do,
and what can be observed.
-/

namespace StreamControl.Scenario

inductive Mode where
  | settle (o : Outcome)
  | drop
  | hold

inductive HeldAction where
  | isCanceled
  | drop
  | settle (o : Outcome)

inductive StreamOp (η : Type) where
  | allocate (id : Nat)
  | headers (block : η) (priority : Option Priority.Parts)
  | data (bytes : ByteArray)
  | fin (trailers : Trailers)
  | reset (code : Nat)
  | changePriority (priority : Option Priority.Parts)
  | customFrame (frame : CustomFrame)
  | toggleWritable
  | close
  | exception (cause : Fault)
  /-- With `own`, the future is there before the call, else it comes with its return. -/
  | writeFrame (frame : CustomFrame) (own : Bool)
  | writeHeaders (block : η) (first fin flush : Bool)
  | writeData (chunk : Option ByteArray) (fin : Bool)
  | writeReset (code : Nat)
  | updatePriority (priority : Option Priority.Parts)
  | setPriority (priority : Option Priority.Parts)
  | pause
  | fetch (amount : Nat)
  | setConnection (writable remoteOpen : Option Bool) (mode : Option Mode)
  | held (index : Nat) (action : HeldAction)
  | tryFuture (index : Nat)
  | dropFuture (index : Nat)
  | onThread (ops : List (StreamOp η))
  | runLoop
  | dropLoop
  | handler
  | state
  | describe

namespace StreamOp

variable {η : Type}

mutual

def count : StreamOp η → Nat
  | onThread ops => 1 + countAll ops
  | _ => 1

def countAll : List (StreamOp η) → Nat
  | [] => 0
  | op :: rest => op.count + countAll rest

end

end StreamOp

inductive Callback where
  | sendFrame
  | sendHeaders
  | sendData
  | sendPriority
  | sendReset
  | canSend
  | returnCredit
  | countRead
  | countWritten
  | flushRead
  | flushWritten
  | onHeaders
  | onData
  | onFin
  | onReset
  | onException
  | onClose
  | onPriority
  | onCustomFrame
  | onDrained
  | onFinSent
  deriving DecidableEq

def Callback.of {η : Type} : StreamCall η → Callback
  | .conn (.sendFrame ..) => sendFrame
  | .conn (.sendHeaders ..) => sendHeaders
  | .conn (.sendData ..) => sendData
  | .conn (.sendPriority ..) => sendPriority
  | .conn (.sendReset ..) => sendReset
  | .conn (.canSend ..) => canSend
  | .conn (.returnCredit ..) => returnCredit
  | .conn (.countRead ..) => countRead
  | .conn (.countWritten ..) => countWritten
  | .conn .flushRead => flushRead
  | .conn .flushWritten => flushWritten
  | .hook (.headers ..) => onHeaders
  | .hook (.data ..) => onData
  | .hook (.fin ..) => onFin
  | .hook (.reset ..) => onReset
  | .hook (.exception ..) => onException
  | .hook .close => onClose
  | .hook (.priority ..) => onPriority
  | .hook (.customFrame ..) => onCustomFrame
  | .hook .drained => onDrained
  | .hook .finSent => onFinSent

/-- A script for one call: what is done in it, the fault a consumer ends in, and
how a promise is treated, if not as the connection's mode says. -/
structure Script (η : Type) where
  body : List (StreamOp η)
  fault : Option Fault
  mode : Option Mode

structure StreamView where
  id : Option Nat
  lifecycle : Lifecycle
  writable : Bool
  notWritable : Bool
  bytesRead : Nat
  bytesWritten : Nat
  priority : Priority

def StreamView.of {η : Type} (e : Endpoint η) : StreamView where
  id := e.stream.slot.id?
  lifecycle := e.lifecycle
  writable := e.stream.writable
  notWritable := !e.stream.outbox.isWritable
  bytesRead := e.stream.bytesRead
  bytesWritten := e.stream.bytesWritten
  priority := e.stream.priority

inductive StreamAnswer (η : Type) where
  | plain (a : Answer)
  | view (v : StreamView)
  /-- The layer above: its tag, or none where every hook does nothing. -/
  | handler (tag : Option η)

inductive StreamEvent (η : Type) where
  /-- A call, and whether it was made on the loop. -/
  | called (onLoop : Bool) (c : StreamCall η)
  | returned (op : StreamOp η) (r : StreamAnswer η)
  | trace (t : Trace)

end StreamControl.Scenario
