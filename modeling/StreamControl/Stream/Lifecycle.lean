namespace StreamControl

/-- The protocol stream behind a stream, once the connection has allocated it. -/
inductive Slot where
  | unallocated
  | allocated (id : Nat)
  deriving DecidableEq

namespace Slot

def id? : Slot → Option Nat
  | unallocated => none
  | allocated id => some id

def isAllocated : Slot → Bool
  | unallocated => false
  | allocated _ => true

/-- Whether the peer may still send, where there is a stream to send on. -/
def remoteOpen? (remoteOpen : Bool) : Slot → Option Bool
  | unallocated => none
  | allocated _ => some remoteOpen

end Slot

/-- A stream's state as seen from this end. It is never stored but derived from
what was sent and received. -/
inductive Lifecycle where
  | idle
  | opened
  | halfClosedLocal
  | halfClosedRemote
  | closed
  deriving DecidableEq

namespace Lifecycle

def derive (allocated ended finSent remoteOpen : Bool) : Lifecycle :=
  if ended then closed
  else if !allocated then idle
  else match finSent, remoteOpen with
    | true, false => closed
    | true, true => halfClosedLocal
    | false, false => halfClosedRemote
    | false, true => opened

def isSendClosed : Lifecycle → Bool
  | halfClosedLocal | closed => true
  | _ => false

def isRecvClosed : Lifecycle → Bool
  | halfClosedRemote | closed => true
  | _ => false

def name : Lifecycle → String
  | idle => "Idle"
  | opened => "Open"
  | halfClosedLocal => "HalfClosedLocal"
  | halfClosedRemote => "HalfClosedRemote"
  | closed => "Closed"

end Lifecycle

end StreamControl
