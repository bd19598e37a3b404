import StreamControl.Priority
import StreamControl.Stream.Frame
import StreamControl.Trace

/-!
# The surroundings of a stream

Below a stream is the connection it is multiplexed on, above it the layer that
uses it. A stream asks the connection through primitives and tells the layer
above through hooks. Only some of these calls are answered with a value.
-/

namespace StreamControl

/-- What a stream asks of its connection. A promise that goes along is settled by
the connection from then on. -/
inductive Primitive (η : Type) where
  | sendFrame (id : Nat) (frame : CustomFrame) (promise : PromiseId)
  | sendHeaders (id : Nat) (block : η) (fin : Bool) (priority : Priority) (flush : Bool)
      (promise : PromiseId)
  | sendData (id : Nat) (bytes : ByteArray) (fin : Bool) (promise : PromiseId)
  | sendPriority (id : Nat) (priority : Priority)
  | sendReset (id code : Nat)
  /-- Does flow control let the stream send? -/
  | canSend (id : Nat)
  /-- The consumer is done with some bytes of the receive window. -/
  | returnCredit (id len : Nat)
  | countRead (len : Nat)
  | countWritten (len : Nat)
  | flushRead
  | flushWritten

inductive Hook (η : Type) where
  | headers (block : η) (priority : Priority)
  | data (bytes : ByteArray)
  | fin (trailers : Trailers)
  | reset (code : Nat)
  | exception (cause : Fault)
  | close
  | priority (p : Priority)
  | customFrame (frame : CustomFrame)
  /-- The writes that had to wait have all been sent. -/
  | drained
  | finSent

inductive StreamCall (η : Type) where
  | conn (p : Primitive η)
  | hook (h : Hook η)

namespace StreamCall

variable {η : Type}

/-- Writability is answered, and how the layer above took what was delivered. -/
def Reply : StreamCall η → Type
  | conn (.canSend _) => Bool
  | hook (.data _) | hook (.fin _) => Outcome
  | _ => Unit

end StreamCall

/-- What a stream lets be known without a call. -/
inductive StreamNote where
  | trace (t : Trace)
  /-- The stream fails a write it holds the promise of. -/
  | failed (p : PromiseId) (cause : Fault)
  /-- The promise is dropped unsettled, together with the loop it waited on. -/
  | discarded (p : PromiseId)
  /-- A pass of the loop is over. -/
  | passed (ran : Nat)

end StreamControl
