namespace StreamControl

/-- The name of the promise that goes with a write. -/
abbrev PromiseId := Nat

/-- A frame the connection does not interpret. -/
structure CustomFrame where
  frameType : Nat
  flags : Nat
  payload : ByteArray

/-- Trailing header fields, ordered by name; fields of one name stay in the order
in which they were added. -/
structure Trailers where
  fields : List (String × String)
  deriving DecidableEq

namespace Trailers

def empty : Trailers := ⟨[]⟩

def isEmpty (t : Trailers) : Bool := t.fields.isEmpty

/-- A field goes behind all fields whose name is not later than its own. -/
def insert (field : String × String) : List (String × String) → List (String × String)
  | [] => [field]
  | head :: rest =>
    if field.1 < head.1 then field :: head :: rest else head :: insert field rest

def add (t : Trailers) (field : String × String) : Trailers := ⟨insert field t.fields⟩

def ofList (fields : List (String × String)) : Trailers := fields.foldl add empty

end Trailers

inductive Item where
  | data (bytes : ByteArray)
  | fin (trailers : Trailers)

/-- A write that waits its turn. Header blocks `η` are passed on as they are. -/
inductive Write (η : Type) where
  | headers (block : η) (fin flush : Bool) (promise : PromiseId)
  /-- Without a chunk, an empty frame is sent. -/
  | data (chunk : Option ByteArray) (fin : Bool) (promise : PromiseId)

namespace Write

variable {η : Type}

def promise : Write η → PromiseId
  | headers _ _ _ p => p
  | data _ _ p => p

end Write

end StreamControl
