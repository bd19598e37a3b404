import StreamControl.Text.Quoted
import StreamControl.Text.Record

namespace StreamControl

inductive IoKind where
  | brokenPipe
  | connectionReset
  | unexpectedEof
  | timedOut
  | invalidData
  | other
  deriving DecidableEq

def IoKind.name : IoKind → String
  | brokenPipe => "BrokenPipe"
  | connectionReset => "ConnectionReset"
  | unexpectedEof => "UnexpectedEof"
  | timedOut => "TimedOut"
  | invalidData => "InvalidData"
  | other => "Other"

/-- Why a write failed, a stream ended or a value was refused. -/
inductive Fault where
  | reset (code : Nat)
  | closed
  | notAllocated
  | io (kind : IoKind) (text : String)
  | handler (text : String)
  | invalidWeight (weight : Nat)
  | canceled
  deriving DecidableEq

namespace Fault

def message : Fault → String
  | reset code => "stream reset with code " ++ toString code
  | closed => "stream closed"
  | notAllocated => "stream is not allocated yet"
  | io _ text => "IO error " ++ text
  | handler text => "handler error " ++ text
  | invalidWeight weight => "invalid stream weight " ++ toString weight ++ ", expected 1..=256"
  | canceled => "write canceled before completion"

/-- Only a reset and a close end a stream. -/
def isTerminal : Fault → Bool
  | reset _ | closed => true
  | _ => false

def resetCode? : Fault → Option Nat
  | reset code => some code
  | _ => none

/-- Sameness as callers compare faults: transport failures by their kind alone,
all others by everything they carry. -/
def same : Fault → Fault → Bool
  | io k _, io k' _ => k == k'
  | a, b => a == b

def describe : Fault → String
  | reset code => Text.applied "Reset" (toString code)
  | closed => "Closed"
  | notAllocated => "NotAllocated"
  | io kind text =>
    Text.applied "Io" (Text.record "Custom" [("kind", kind.name), ("error", Text.quoted text)])
  | handler text => Text.applied "Handler" (Text.quoted text)
  | invalidWeight weight => Text.applied "InvalidWeight" (toString weight)
  | canceled => "Canceled"

end Fault

inductive Outcome where
  | success
  | failure (cause : Fault)
  deriving DecidableEq

def Outcome.ofFault? : Option Fault → Outcome
  | none => success
  | some cause => failure cause

end StreamControl
