import StreamControl.Priority
import StreamControl.Stream.Frame

namespace StreamControl

/-- Work of a stream that is done on the thread owning the loop: at once by a
caller that is on it, else posted. -/
inductive Job (η : Type) where
  | drain
  | headers (block : η) (priority : Priority)
  | data (bytes : ByteArray)
  | fin (trailers : Trailers)
  | reset (code : Nat)
  | changePriority (p : Priority)
  | customFrame (frame : CustomFrame)
  | toggleWritable
  | close
  | exception (cause : Fault)
  | writeFrame (frame : CustomFrame) (promise : PromiseId)
  | writeHeaders (block : η) (fin flush : Bool) (promise : PromiseId)
  | enqueue (w : Write η)
  | writeReset (code : Nat)
  | announcePriority (p : Priority)
  | pause
  | fetch (amount : Nat)
  | announceDrained

namespace Job

variable {η : Type}

def promise? : Job η → Option PromiseId
  | writeFrame _ p => some p
  | writeHeaders _ _ _ p => some p
  | enqueue w => some w.promise
  | _ => none

end Job

inductive Operation (η : Type) where
  | allocate (id : Nat)
  | headers (block : η) (priority : Priority)
  | data (bytes : ByteArray)
  | fin (trailers : Trailers)
  | reset (code : Nat)
  | changePriority (p : Priority)
  | customFrame (frame : CustomFrame)
  | toggleWritable
  | close
  | exception (cause : Fault)
  | writeFrame (frame : CustomFrame) (promise : PromiseId)
  /-- The first headers open the stream, later ones wait their turn. -/
  | writeHeaders (block : η) (first fin flush : Bool) (promise : PromiseId)
  | writeData (chunk : Option ByteArray) (fin : Bool) (promise : PromiseId)
  | writeReset (code : Nat)
  /-- Changes the priority and tells the peer. -/
  | updatePriority (p : Priority)
  /-- Changes the priority for this end alone. -/
  | setPriority (p : Priority)
  | pause
  | fetch (amount : Nat)
  | runLoop
  | dropLoop

end StreamControl
