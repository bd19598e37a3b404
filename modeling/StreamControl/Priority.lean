import StreamControl.Fault

namespace StreamControl

/-- What a stream depends on, with which weight, and whether alone. Dependencies
are 31-bit stream numbers, weights run from 1 to 256. -/
structure Priority where
  dependency : Nat
  weight : Nat
  exclusive : Bool
  dependency_lt : dependency < Nat.pow 2 31
  one_le_weight : 1 ≤ weight
  weight_le : weight ≤ 256
  deriving DecidableEq

namespace Priority

/-- Streams start without a dependency and with weight 16. -/
def initial : Priority := ⟨0, 16, false, by decide, by decide, by decide⟩

instance : Inhabited Priority := ⟨initial⟩

/-- Only the low 31 bits name a stream: the high bit of the word on the wire says
whether the dependency is exclusive. -/
def withDependency (p : Priority) (n : Nat) : Priority :=
  { p with dependency := n % Nat.pow 2 31, dependency_lt := Nat.mod_lt _ (by decide) }

def withWeight (p : Priority) (n : Nat) : Except Fault Priority :=
  if h : 1 ≤ n ∧ n ≤ 256 then
    .ok { p with weight := n, one_le_weight := h.1, weight_le := h.2 }
  else .error (.invalidWeight n)

def withExclusive (p : Priority) (b : Bool) : Priority := { p with exclusive := b }

def make (dependency weight : Nat) (exclusive : Bool) : Except Fault Priority :=
  ((initial.withDependency dependency).withWeight weight).map (·.withExclusive exclusive)

abbrev Parts := Nat × Nat × Bool

def ofParts? : Option Parts → Except Fault Priority
  | none => .ok initial
  | some (dependency, weight, exclusive) => make dependency weight exclusive

inductive Change where
  | dependency (n : Nat)
  | weight (n : Nat)
  | exclusive (b : Bool)

def apply (p : Priority) : Change → Except Fault Priority
  | .dependency n => .ok (p.withDependency n)
  | .weight n => p.withWeight n
  | .exclusive b => .ok (p.withExclusive b)

/-- Changes a part if it can; a refused change leaves the priority as it is. -/
def tryApply (p : Priority) (c : Change) : Priority := (p.apply c).toOption.getD p

def applyAll : Priority → List Change → List (Except Fault Priority)
  | _, [] => []
  | p, c :: rest => p.apply c :: applyAll (p.tryApply c) rest

/-- Weights travel as one byte, one less than they are. -/
def wireWeight (p : Priority) : UInt8 := .ofNat (p.weight - 1)

def describe (p : Priority) : String :=
  Text.record "StreamPriority" [("dependency", toString p.dependency),
    ("weight", toString p.weight), ("exclusive", Text.bool p.exclusive)]

end Priority

end StreamControl
