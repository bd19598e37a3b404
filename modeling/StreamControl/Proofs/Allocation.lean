import StreamControl.Proofs.Writability

/-!
# The allocation of a stream

Any number of allocations may be under way, on any threads. The first one that is bound decides
for good which protocol stream a stream has; all others leave the stream as it is.
-/

namespace StreamControl.Endpoint

variable {η : Type} {may : Live η → List (StreamInstr η) → Prop}
  {allowed : Thread → Operation η → Prop} {o : Options} {owner : Thread} {h : Past η}
  {m m' : Live η} {rest agenda : Agenda η} {a : Deed η} {id : Nat}

/-- The protocol stream that a deed binds, unless there is one already. -/
def binds? : Deed η → Option Nat
  | .own (.work (.bind id _)) => some id
  | _ => none

/-- The protocol stream that was bound first. -/
def firstBound (h : Past η) : Option Nat := h.findSome? fun b => binds? b.2

@[simp] lemma firstBound_snoc (b : Live η × Deed η) :
    firstBound (h ++ [b]) = (firstBound h).or (binds? b.2) := by
  simp [firstBound, List.findSome?_append]

lemma exec_id? (i : StreamInstr η) (e : Endpoint η) :
    (exec i e).1.stream.slot.id? = e.stream.slot.id?.or (binds? (.own (.work i) : Deed η)) := by
  cases i with
  | bind id writable =>
    simp only [exec, bind]
    split
    · rename_i existing slot
      simp [slot, Slot.id?]
    · rename_i slot
      simp [slot, Slot.id?, modify, binds?]
  | _ => rw [(exec_writable rfl).2]; exact (Option.or_none ..).symm

/-- A stream has the protocol stream that was bound first. -/
theorem id?_eq_firstBound (run : Machine.Run component may (.idle (fresh o owner)) h m) :
    m.state.stream.slot.id? = firstBound h := by
  refine run.recorded (fun e => e.stream.slot.id?) (fun b => binds? b.2) rfl
    (fun e i rest => exec_id? i e) (fun b outer => ?_)
  unfold binds?
  split
  · exact absurd ‹_› (outer _)
  · rfl

/-- On an allocated stream another protocol stream is not bound: this is only traced. -/
lemma exec_bind_allocated {e : Endpoint η} (allocated : e.stream.slot = .allocated id) (other : Nat)
    (writable : Bool) :
    exec (.bind other writable) e = (e, [trace (.alreadyAllocated id other)]) := by
  simp [exec, bind, allocated]

/-! ## What is bound was allocated -/

/-- The protocol stream that an allocation under way is about. -/
def allocatingEntry : Entry (StreamInstr η) (StreamCall η) StreamNote → List Nat
  | .todo (.work (.enter _ (.allocate id))) | .todo (.work (.bind id _)) => [id]
  | .todo (.call (.conn (.canSend id))) | .held (.conn (.canSend id)) => [id]
  | _ => []

def allocating (agenda : Agenda η) : List Nat := agenda.flatMap allocatingEntry

def allocates : Deed η → List Nat
  | .invoke [.enter _ (.allocate id)] => [id]
  | _ => []

/-- The protocol streams that the stream was told to allocate, in this order. -/
def allocations (h : Past η) : List Nat := h.flatMap fun b => allocates b.2

section Views

variable (b : Live η × Deed η) (x : Entry (StreamInstr η) (StreamCall η) StreamNote)
  (agenda' : Agenda η)

@[simp] lemma allocations_snoc : allocations (h ++ [b]) = allocations h ++ allocates b.2 := by
  simp [allocations]

@[simp] lemma allocating_cons : allocating (x :: agenda) = allocatingEntry x ++ allocating agenda :=
  rfl

@[simp] lemma allocating_append :
    allocating (agenda ++ agenda') = allocating agenda ++ allocating agenda' :=
  List.flatMap_append

end Views

lemma allocating_exec (i : StreamInstr η) (e : Endpoint η) :
    allocating ((exec i e).2.map .todo) ⊆ allocatingEntry (.todo (.work i)) := by
  intro id due
  obtain ⟨x, hx, named⟩ := List.mem_flatMap.mp due
  obtain ⟨y, hy, rfl⟩ := List.mem_map.mp hx
  cases exec_leaves i e y hy with
  | samples t id' => exact named
  | counts t op counting =>
    rename_i p
    cases p with
    | canSend id' => cases counting
    | _ => cases named
  | sends job outgoing | sendsQueued w outgoing =>
    rename_i p
    cases p with
    | canSend id' => cases outgoing
    | _ => cases named
  | _ => cases named

/-- Allocations get under way by being called for. -/
lemma allocating_step (move : Machine.Move component (fun _ => Asked allowed) m a m') :
    allocating m'.agenda ⊆ allocating m.agenda ++ allocates a := by
  cases move using Machine.Move.elim with
  | work e i rest =>
    rw [allocating_append, allocating_cons]
    exact List.subset_append_of_subset_left _ (List.append_subset.mpr
      ⟨List.subset_append_of_subset_left _ (allocating_exec i e), List.subset_append_right _ _⟩)
  | call e c rest =>
    refine List.subset_append_of_subset_left _ ?_
    cases c with
    | conn p => cases p <;> exact List.Subset.refl _
    | hook k => exact List.Subset.refl _
  | note e s rest => exact List.subset_append_left _ _
  | invoke m is asked =>
    rw [Machine.invoke, allocating_append]
    refine List.append_subset.mpr ⟨?_, List.subset_append_left _ _⟩
    refine List.subset_append_of_subset_right _ ?_
    cases asked with
    | operation t op may => cases op <;> exact List.Subset.refl _
    | setRemote remoteOpen => exact List.Subset.refl _
  | reply e c rest f =>
    refine List.subset_append_of_subset_left _ ?_
    cases c with
    | conn p => cases p <;> exact List.Subset.refl _
    | hook k => cases k <;> exact List.Subset.refl _

lemma allocating_of_binds {may : Live η → List (StreamInstr η) → Prop}
    (move : Machine.Move component may m a m') (binds : binds? a = some id) :
    id ∈ allocating m.agenda := by
  cases move using Machine.Move.elim with
  | work e i rest =>
    cases i with
    | bind id' writable =>
      obtain rfl := Option.some.inj binds
      exact List.mem_append_left _ (List.mem_singleton.mpr rfl)
    | _ => cases binds
  | _ => cases binds

/-- What is bound, and what is about to be, was given to an allocation. -/
lemma allocated_of_runs (run : RunsAnyhow allowed o owner h m) :
    allocating m.agenda ⊆ allocations h ∧ ∀ id, firstBound h = some id → id ∈ allocations h := by
  induction run with
  | start => exact ⟨nofun, nofun⟩
  | step _ move ih =>
    obtain ⟨due, bound⟩ := ih
    rw [allocations_snoc]
    refine ⟨List.Subset.trans (allocating_step move) (List.append_subset.mpr
      ⟨List.subset_append_of_subset_left _ due, List.subset_append_right _ _⟩), fun id first => ?_⟩
    rw [firstBound_snoc, Option.or_eq_some_iff] at first
    rcases first with before | ⟨_, now⟩
    · exact List.mem_append_left _ (bound id before)
    · exact List.mem_append_left _ (due (allocating_of_binds move now))

end StreamControl.Endpoint
