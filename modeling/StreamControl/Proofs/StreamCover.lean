import StreamControl.Proofs.StreamGuard

/-!
# Work that is covered

Some work is done on the loop right after it was left to do. Until then there is nothing above it
but brief work, which leaves the loop to nobody, and work of other threads that came in while the
loop's own thread was occupied; these only post. A `Cover` says which work this is and what may come
above it, and that each instruction leaves its work in this order. Then it stays so in every run in
which the loop's thread calls nothing while it is occupied.
-/

namespace StreamControl.Endpoint

variable {η : Type} {o : Options} {owner t : Thread} {h : Past η} {m m' : Live η}
  {rest agenda : Agenda η} {out : List (StreamTodo η)}
  {x : Entry (StreamInstr η) (StreamCall η) StreamNote} {i : StreamInstr η} {e : Endpoint η}

/-- What an instruction leaves to do has only `brief` work above what is `kept`. -/
def Direct (kept brief : Entry (StreamInstr η) (StreamCall η) StreamNote → Bool) :
    List (StreamTodo η) → Prop
  | [] => True
  | x :: out =>
    ((out.map .todo).any kept = true → brief (.todo x) = true) ∧ Direct kept brief out

/-- Which work is covered and what may be above it, with what both have in common. -/
structure Cover (η : Type) where
  /-- The work that is covered. -/
  kept : Entry (StreamInstr η) (StreamCall η) StreamNote → Bool
  /-- The work that may be above it at any time. -/
  brief : Entry (StreamInstr η) (StreamCall η) StreamNote → Bool
  /-- The loop's thread is in no position to call anything. -/
  occupied : Agenda η → Bool
  kept_held (c : StreamCall η) : kept (.held c) = false
  brief_note (n : StreamNote) : brief (.todo (.note n)) = true
  brief_setRemote (remoteOpen : Bool) : brief (.todo (.work (.setRemote remoteOpen))) = true
  brief_call {c : StreamCall η} (brief_now : brief (.todo (.call c)) = true) :
    brief (.held c) = true
  isBrief {x : Entry (StreamInstr η) (StreamCall η) StreamNote} (brief_now : brief x = true) :
    isBrief true x = true
  occupied_held {c : StreamCall η} (rest : Agenda η) (brief_now : brief (.held c) = true) :
    occupied (.held c :: rest) = true
  occupied_cons (x : Entry (StreamInstr η) (StreamCall η) StreamNote) {rest : Agenda η}
    (before : occupied rest = true) : occupied (x :: rest) = true
  occupied_tail {x : Entry (StreamInstr η) (StreamCall η) StreamNote} {rest : Agenda η}
    (before : occupied (x :: rest) = true) (idle : isBusy true x = false)
    (inner : isBoundary x = false) : occupied rest = true
  /-- An operation that comes between two steps interrupts the loop's thread, to its end. -/
  occupied_enter (t : Thread) (op : Operation η) (x : StreamTodo η) (rest : Agenda η) :
    occupied (.todo (.work (.enter t op)) :: .todo x :: rest) = true
  occupied_leave {t : Thread} {op : Operation η} (t' : Thread) {rest : Agenda η}
    (before : occupied (.todo (.work (.enter t op)) :: rest) = true) :
    occupied (.todo (.work (.leave t')) :: rest) = true
  direct_exec (i : StreamInstr η) (e : Endpoint η) : Direct kept brief (exec i e).2
  direct_resume (k : Hook η) (r : (StreamCall.hook k).Reply) :
    Direct kept brief (resume (.hook k) r)

/-- Above covered work there is brief work, and work of other threads while the loop's thread is
occupied. -/
def Covered (C : Cover η) (owner : Thread) : Thread → Agenda η → Prop
  | _, [] => True
  | t, x :: rest =>
    (rest.any C.kept = true →
      C.brief x = true ∨ (Aside owner t x ∧ C.occupied (x :: rest) = true)) ∧
    Covered C owner (threadAfter t x) rest

def CoveredNow (C : Cover η) (m : Live η) : Prop :=
  Covered C m.state.loop.owner m.state.thread m.agenda

/-- What is asked of a stream if its loop's thread calls nothing while it is occupied. -/
inductive AskedWhenFree (occupied : Agenda η → Bool) (m : Live η) : List (StreamInstr η) → Prop
  | operation (t : Thread) (op : Operation η)
      (free : t = m.state.loop.owner ∨ op = .runLoop →
        m.step component = none ∧ occupied m.agenda = false) :
    AskedWhenFree occupied m [.enter t op]
  | setRemote (remoteOpen : Bool) : AskedWhenFree occupied m [.setRemote remoteOpen]

section Direct

variable {kept brief : Entry (StreamInstr η) (StreamCall η) StreamNote → Bool}

lemma direct_of_none (none_kept : (out.map Entry.todo).any kept = false) :
    Direct kept brief out := by
  induction out with
  | nil => trivial
  | cons x out ih =>
    rw [List.map_cons, List.any_cons, Bool.or_eq_false_iff] at none_kept
    refine ⟨fun behind => ?_, ih none_kept.2⟩
    rw [none_kept.2] at behind
    cases behind

lemma direct_cons {x : StreamTodo η} (none_behind : (out.map Entry.todo).any kept = false) :
    Direct kept brief (x :: out) := by
  refine ⟨fun behind => ?_, direct_of_none none_behind⟩
  rw [none_behind] at behind
  cases behind

end Direct

namespace Covered

variable {C : Cover η}

lemma of_none (none_kept : agenda.any C.kept = false) : Covered C owner t agenda := by
  induction agenda generalizing t with
  | nil => trivial
  | cons x rest ih =>
    rw [List.any_cons, Bool.or_eq_false_iff] at none_kept
    refine ⟨fun below => ?_, ih none_kept.2⟩
    rw [none_kept.2] at below
    cases below

/-- Work that finds nothing to cover below it may go on in any direct way. -/
lemma of_direct (direct : Direct C.kept C.brief out) (none_below : rest.any C.kept = false) :
    Covered C owner t (out.map .todo ++ rest) := by
  induction out generalizing t with
  | nil => exact of_none none_below
  | cons x out ih =>
    rw [List.map_cons, List.cons_append]
    refine ⟨fun below => .inl (direct.1 ?_), ih direct.2⟩
    rwa [List.any_append, none_below, Bool.or_false] at below

lemma aside (covered : Covered C owner t rest) (occupied : C.occupied rest = true)
    (out : List (StreamTodo η)) (aside : StaysAside owner t out) :
    Covered C owner t (out.map .todo ++ rest) ∧ C.occupied (out.map .todo ++ rest) = true := by
  induction out with
  | nil => exact ⟨covered, occupied⟩
  | cons x out ih =>
    obtain ⟨first, same⟩ := aside x List.mem_cons_self
    obtain ⟨below, still⟩ := ih fun y hy => aside y (List.mem_cons_of_mem _ hy)
    have now := C.occupied_cons (.todo x) still
    exact ⟨⟨fun _ => .inr ⟨first, now⟩, by rwa [same]⟩, now⟩

lemma notes (covered : Covered C owner t rest) (notes : ∀ x ∈ out, ∃ n, x = .note n) :
    Covered C owner t (out.map .todo ++ rest) := by
  induction out with
  | nil => exact covered
  | cons x out ih =>
    obtain ⟨n, rfl⟩ := notes x List.mem_cons_self
    exact ⟨fun _ => .inl (C.brief_note n), ih fun y hy => notes y (List.mem_cons_of_mem _ hy)⟩

lemma exec_aside (covered : Covered C e.loop.owner e.thread (.todo (.work i) :: rest))
    (occupied : C.occupied (.todo (.work i) :: rest) = true)
    (is_aside : Aside e.loop.owner e.thread (.todo (.work i))) :
    Covered C (exec i e).1.loop.owner (exec i e).1.thread ((exec i e).2.map .todo ++ rest) := by
  have below := covered.2
  obtain ⟨same_owner, goes_on⟩ := exec_of_aside is_aside
  rw [same_owner]
  rcases goes_on with ⟨t, op, out, rfl, at_work, leaves, stays⟩ | ⟨t, rfl, at_work, leaves⟩ |
    ⟨inner, at_work, stays⟩
  · have still := C.occupied_leave e.thread occupied
    have back : Covered C e.loop.owner t (.todo (.work (.leave e.thread)) :: rest) :=
      ⟨fun _ => .inr ⟨trivial, still⟩, below⟩
    rw [at_work, leaves, List.map_append, List.append_assoc]
    exact (back.aside still out stays).1
  · rw [at_work, leaves]
    exact below
  · rw [at_work]
    refine (aside ?_ (C.occupied_tail occupied rfl inner) _ stays).1
    cases i with
    | enter t op | leave t => cases inner
    | _ => exact below

end Covered

namespace CoveredNow

variable {C : Cover η}

lemma work (covered : CoveredNow C ⟨e, .todo (.work i) :: rest⟩) :
    CoveredNow C ⟨(exec i e).1, (exec i e).2.map .todo ++ rest⟩ := by
  cases kept : rest.any C.kept with
  | false => exact .of_direct (C.direct_exec i e) kept
  | true =>
    rcases covered.1 kept with brief | ⟨aside, occupied⟩
    · have brief := C.isBrief brief
      cases i with
      | inbox j =>
        cases j with
        | clear => exact covered.2
        | _ => cases brief
      | outbox j =>
        cases j with
        | close cause => exact Covered.notes covered.2 (notes_outbox_close e.stream.outbox cause)
        | _ => cases brief
      | setRemote remoteOpen => exact covered.2
      | _ => cases brief
    · exact Covered.exec_aside covered occupied aside

/-- While the surroundings are in control, covered work means that the loop's thread is occupied. -/
lemma occupied (covered : CoveredNow C m) (waits : m.step component = none)
    (kept : m.agenda.any C.kept = true) : C.occupied m.agenda = true := by
  rcases m with ⟨e, _ | ⟨x | c, rest⟩⟩
  · cases kept
  · exact absurd rfl (Machine.step_eq_none_iff.mp waits x rest)
  · rw [List.any_cons, C.kept_held, Bool.false_or] at kept
    rcases covered.1 kept with brief | ⟨_, occupied⟩
    · exact C.occupied_held rest brief
    · exact occupied

lemma invoke {is : List (StreamInstr η)} (covered : CoveredNow C m)
    (asked : AskedWhenFree C.occupied m is) : CoveredNow C (m.invoke is) := by
  cases asked with
  | operation t op free =>
    refine ⟨fun kept => .inr ⟨?_, ?_⟩, covered⟩
    · -- The loop's thread is not free as long as there is covered work.
      change t ≠ m.state.loop.owner ∧ op ≠ .runLoop
      rw [← not_or]
      intro on_loop
      obtain ⟨waits, unoccupied⟩ := free on_loop
      rw [covered.occupied waits kept] at unoccupied
      cases unoccupied
    · by_cases waits : m.step component = none
      · exact C.occupied_cons _ (covered.occupied waits kept)
      · rcases m with ⟨e, _ | ⟨x | c, rest⟩⟩
        · cases kept
        · exact C.occupied_enter t op x rest
        · exact absurd rfl waits
  | setRemote remoteOpen => exact ⟨fun _ => .inl (C.brief_setRemote remoteOpen), covered⟩

lemma call {c : StreamCall η} (covered : CoveredNow C ⟨e, .todo (.call c) :: rest⟩) :
    CoveredNow C ⟨e, .held c :: rest⟩ := by
  obtain ⟨above, below⟩ := covered
  refine ⟨fun kept => ?_, ?_⟩
  · rcases above kept with brief | ⟨aside, occupied⟩
    · exact .inl (C.brief_call brief)
    · refine .inr ⟨?_, C.occupied_cons _ (C.occupied_tail occupied rfl rfl)⟩
      cases c with
      | conn p | hook k => exact aside
  · cases c with
    | conn p | hook k => exact below

lemma reply {c : StreamCall η} (covered : CoveredNow C ⟨e, .held c :: rest⟩) (r : c.Reply) :
    CoveredNow C ⟨e, (component.resume c r).map .todo ++ rest⟩ := by
  obtain ⟨above, below⟩ := covered
  cases c with
  | conn p =>
    cases p with
    | canSend id =>
      refine ⟨fun kept => ?_, below⟩
      rcases above kept with brief | ⟨aside, occupied⟩
      · cases C.isBrief brief
      · exact .inr ⟨aside.2, C.occupied_cons _ (C.occupied_tail occupied rfl rfl)⟩
    | _ => exact below
  | hook k =>
    have none_below : rest.any C.kept = false := by
      by_contra kept
      rw [Bool.not_eq_false] at kept
      rcases above kept with brief | ⟨aside, _⟩
      · cases C.isBrief brief
      · exact aside
    exact .of_direct (C.direct_resume k r) none_below

lemma step {a : Deed η} (covered : CoveredNow C m)
    (move : Machine.Move component (AskedWhenFree C.occupied) m a m') : CoveredNow C m' := by
  cases move using Machine.Move.elim with
  | work e i rest => exact covered.work
  | call e c rest => exact covered.call
  | note e s rest => exact covered.2
  | invoke m is asked => exact covered.invoke asked
  | reply e c rest f => exact covered.reply (f c)

end CoveredNow

/-- In every run in which the loop's thread calls nothing while it is occupied, covered work stays
covered. -/
theorem covered_of_runs (C : Cover η)
    (run : Machine.Run component (AskedWhenFree C.occupied) (.idle (fresh o owner)) h m) :
    CoveredNow C m := by
  induction run with
  | start => trivial
  | step _ move ih => exact ih.step move

/-- Whatever is neither brief nor aside finds no covered work below it. -/
lemma none_kept_below {C : Cover η} (covered : CoveredNow C ⟨e, x :: rest⟩)
    (long : C.brief x = false) (near : ¬ Aside e.loop.owner e.thread x) :
    rest.any C.kept = false := by
  by_contra kept
  rw [Bool.not_eq_false] at kept
  rcases covered.1 kept with brief | ⟨aside, _⟩
  · rw [long] at brief
    cases brief
  · exact near aside

end StreamControl.Endpoint
