import StreamControl.Fault
import StreamControl.Text.Record

namespace StreamControl

inductive Level where
  | warn
  | debug
  | trace
  deriving DecidableEq

/-- What the components report about their own work. `id` is the stream's number,
absent before the connection has allocated it. -/
inductive Trace where
  | alreadyAllocated (existing id : Nat)
  | allocated (id : Nat) (writable : Bool)
  | dataAfterTermination (id : Option Nat) (len : Nat)
  | inboxFull (id : Option Nat) (buffered : Nat)
  | trailersDiscarded (id : Option Nat)
  | writabilityChanged (id : Option Nat) (writable : Bool)
  | streamClosed (id : Option Nat)
  | streamException (id : Option Nat) (cause : Fault)
  | writingReset (id code : Nat)
  | resetBeforeAllocation (code : Nat)
  | streamReset (id : Option Nat) (code dropped : Nat)
  | dataDelivered (id : Option Nat) (len : Nat)
  | endDelivered (id : Option Nat)
  | dataWritten (id len : Nat) (fin : Bool)
  | cancellingWrites (count : Nat) (cause : Fault)
  | outboxDrained
  | gateClosed (queued : Nat)
  | unhandledFault (cause : Fault)
  | loopGone
  | tasksRun (ran : Nat)
  | loopStopped
  deriving DecidableEq

namespace Trace

def level : Trace → Level
  | alreadyAllocated .. | unhandledFault .. => .warn
  | allocated .. | streamClosed .. | streamException .. | writingReset ..
  | resetBeforeAllocation .. | streamReset .. | loopGone | loopStopped => .debug
  | _ => .trace

def message : Trace → String
  | alreadyAllocated .. => "stream already allocated"
  | allocated .. => "stream allocated"
  | dataAfterTermination .. => "dropping data on terminated stream"
  | inboxFull .. => "inbound buffer full"
  | trailersDiscarded .. => "discarding trailers on CONNECT stream"
  | writabilityChanged .. => "writability changed"
  | streamClosed .. => "stream closed"
  | streamException .. => "stream exception"
  | writingReset .. => "writing reset"
  | resetBeforeAllocation .. => "reset before allocation"
  | streamReset .. => "stream reset"
  | dataDelivered .. => "deliver data"
  | endDelivered .. => "deliver end"
  | dataWritten .. => "write data"
  | cancellingWrites .. => "cancelling queued writes"
  | outboxDrained => "write queue drained"
  | gateClosed .. => "write gate closed"
  | unhandledFault .. => "unhandled inbound handler error"
  | loopGone => "event loop is gone, dropping task"
  | tasksRun .. => "event loop tasks run"
  | loopStopped => "event loop stopped"

def fields : Trace → List (String × String)
  | alreadyAllocated existing id => [("existing", toString existing), ("id", toString id)]
  | allocated id writable => [("id", toString id), ("writable", Text.bool writable)]
  | dataAfterTermination id len => [known id, ("len", toString len)]
  | inboxFull id buffered => [known id, ("buffered", toString buffered)]
  | trailersDiscarded id => [known id]
  | writabilityChanged id writable => [known id, ("writable", Text.bool writable)]
  | streamClosed id => [known id]
  | streamException id cause => [known id, ("cause", cause.message)]
  | writingReset id code => [("id", toString id), ("code", toString code)]
  | resetBeforeAllocation code => [("code", toString code)]
  | streamReset id code dropped =>
    [known id, ("code", toString code), ("dropped", toString dropped)]
  | dataDelivered id len => [known id, ("len", toString len)]
  | endDelivered id => [known id]
  | dataWritten id len fin =>
    [("id", toString id), ("len", toString len), ("end", Text.bool fin)]
  | cancellingWrites count cause => [("count", toString count), ("cause", cause.message)]
  | outboxDrained => []
  | gateClosed queued => [("queued", toString queued)]
  | unhandledFault cause => [("cause", cause.message)]
  | loopGone => []
  | tasksRun ran => [("ran", toString ran)]
  | loopStopped => []
where
  known (id : Option Nat) : String × String := ("id", Text.option toString id)

end Trace

end StreamControl
