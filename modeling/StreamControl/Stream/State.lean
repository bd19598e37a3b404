import StreamControl.Inbox
import StreamControl.Outbox
import StreamControl.Stream.Interface
import StreamControl.Stream.Job
import StreamControl.Stream.Lifecycle
import StreamControl.TaskLoop

namespace StreamControl

/-- One stream on a shared connection: its bookkeeping and its two queues. -/
structure Stream (η : Type) where
  slot : Slot
  /-- Writability as the connection last reported it. -/
  writable : Bool
  priority : Priority
  bytesRead : Nat
  bytesWritten : Nat
  finSent : Bool
  /-- The code of the reset that ended the stream. -/
  resetCode : Option Nat
  closed : Bool
  inbox : Inbox Unit Item
  outbox : Outbox (Write η)
  connect : Bool

namespace Stream

variable {η : Type}

def fresh (o : Options) : Stream η where
  slot := .unallocated
  writable := true
  priority := .initial
  bytesRead := 0
  bytesWritten := 0
  finSent := false
  resetCode := none
  closed := false
  inbox :=
    { Inbox.fresh o.inboxMark with
      credit := if o.startPaused then 0 else unlimited
      consumer := some ()
      onFault := some () }
  outbox := .fresh o.outboxMark
  connect := o.connect

def hasEnded (s : Stream η) : Bool := s.resetCode.isSome || s.closed

/-- Why a write on a terminated stream fails: a reset goes before a close. -/
def endCause? (s : Stream η) : Option Fault :=
  match s.resetCode with
  | some code => some (.reset code)
  | none => if s.closed then some .closed else none

/-- The protocol stream a write that does not wait goes out on, or why it fails. -/
def directTarget (s : Stream η) : Except Fault Nat :=
  match s.endCause?, s.slot with
  | some cause, _ => .error cause
  | none, .unallocated => .error .notAllocated
  | none, .allocated id => .ok id

def lifecycle (s : Stream η) (remoteOpen : Bool) : Lifecycle :=
  .derive s.slot.isAllocated s.hasEnded s.finSent remoteOpen

def describe (s : Stream η) : String :=
  Text.record "Http2Stream" [("id", Text.option toString s.slot.id?),
    ("state", Text.record "StreamState" [("writable", Text.bool s.writable),
      ("priority", s.priority.describe), ("bytes_read", toString s.bytesRead),
      ("bytes_written", toString s.bytesWritten), ("end_written", Text.bool s.finSent),
      ("reset", Text.option toString s.resetCode), ("closed", Text.bool s.closed)]),
    ("is_connect", Text.bool s.connect)]

end Stream

/-- A stream together with what its behaviour depends on: the loop of its
connection, the thread that is at work, and the peer's side of the protocol
stream. -/
structure Endpoint (η : Type) where
  stream : Stream η
  loop : TaskLoop (Job η)
  thread : Thread
  remoteOpen : Bool

namespace Endpoint

variable {η : Type}

def fresh (o : Options) (owner : Thread) : Endpoint η := ⟨.fresh o, .fresh owner, owner, true⟩

def onLoop (e : Endpoint η) : Bool := e.loop.ownedBy e.thread

def lifecycle (e : Endpoint η) : Lifecycle := e.stream.lifecycle e.remoteOpen

end Endpoint

end StreamControl
