/-!
# Machines that call out

A flow control component never calls its surroundings from the middle of an
operation. It works in small instructions; each one changes the state and says
what is left to do, and a call to the surroundings suspends the component until
the answer is in. While a call is held the surroundings may start further
operations of the same component: they run on top of what was left to do, to any
depth. Everything a re-entrant callback can see is therefore a state of the
`Machine` below.
-/

namespace StreamControl

/-- One thing left to do: an instruction to carry out, a call whose answer is
awaited, or a note to the surroundings that needs none. -/
inductive Todo (ι κ ε : Type) where
  | work (i : ι)
  | call (c : κ)
  | note (e : ε)

/-- A component over states `σ`: what each instruction does at once and leaves
to do, and how it goes on from the answer to a call. -/
structure Component (σ ι κ ε : Type) (ρ : κ → Type) where
  exec : ι → σ → σ × List (Todo ι κ ε)
  resume : (c : κ) → ρ c → List (Todo ι κ ε)

/-- An entry of the agenda: something left to do, or a call being answered. -/
inductive Entry (ι κ ε : Type) where
  | todo (t : Todo ι κ ε)
  | held (c : κ)

/-- A component at some moment. The head of the agenda comes first. -/
structure Machine (σ ι κ ε : Type) where
  state : σ
  agenda : List (Entry ι κ ε)

/-- What the surroundings see of one step. -/
inductive Signal (κ ε : Type) where
  | silent
  | called (c : κ)
  | noted (e : ε)

namespace Machine

variable {σ ι κ ε : Type} {ρ : κ → Type}

def idle (s : σ) : Machine σ ι κ ε := ⟨s, []⟩

/-- One step of the component, unless the surroundings are in control: at rest,
or while they hold a call. -/
def step (C : Component σ ι κ ε ρ) (m : Machine σ ι κ ε) :
    Option (Signal κ ε × Machine σ ι κ ε) :=
  match m.agenda with
  | [] => none
  | .held _ :: _ => none
  | .todo (.work i) :: rest =>
    let next := C.exec i m.state
    some (.silent, ⟨next.1, next.2.map .todo ++ rest⟩)
  | .todo (.call c) :: rest => some (.called c, ⟨m.state, .held c :: rest⟩)
  | .todo (.note e) :: rest => some (.noted e, ⟨m.state, rest⟩)

/-- The surroundings ask for instructions, to be done before anything else. -/
def invoke (is : List ι) (m : Machine σ ι κ ε) : Machine σ ι κ ε :=
  ⟨m.state, is.map (.todo ∘ .work) ++ m.agenda⟩

/-- The surroundings answer the call they hold. -/
def answer (C : Component σ ι κ ε ρ) (reply : (c : κ) → ρ c) (m : Machine σ ι κ ε) :
    Machine σ ι κ ε :=
  match m.agenda with
  | .held c :: rest => ⟨m.state, (C.resume c (reply c)).map .todo ++ rest⟩
  | _ => m

end Machine

end StreamControl
