import StreamControl.Proofs.StreamSteps

/-!
# What a stream does without interruption

Some entries of the agenda are locks: a primitive that does not call back, a write at the
gate, an item on its way to the inbox, and a closing of the outbox that has still to begin. The
work above a lock is brief, or it belongs to other threads, which only post. So whatever changes
the stream finds no lock below it.
-/

namespace StreamControl.Endpoint

variable {η : Type} {all : Bool} {owner t : Thread} {rest : Agenda η}
  {out : List (StreamTodo η)}

/-- Nothing but brief work is done above such an entry. -/
def isLock (all : Bool) : Entry (StreamInstr η) (StreamCall η) StreamNote → Bool
  | .todo (.call (.conn p)) | .held (.conn p) => p.isStill all
  | .todo (.work (.attempt _)) | .todo (.work (.outbox (.close _))) => true
  | .todo (.work (.inbox (.push _))) => true
  | _ => false

/-- Work that is done without leaving the loop to anyone. -/
def isBrief (all : Bool) : Entry (StreamInstr η) (StreamCall η) StreamNote → Bool
  | .todo (.call (.conn p)) | .held (.conn p) => p.isStill all
  | .todo (.note _) | .todo (.work (.inbox .clear)) | .todo (.work (.outbox (.close _)))
  | .todo (.work (.setRemote _)) => true
  | _ => false

/-- Work that leaves the loop alone, when it is done on the thread `t`. -/
def Aside (owner t : Thread) : Entry (StreamInstr η) (StreamCall η) StreamNote → Prop
  | .todo (.note _) => True
  | .todo (.call (.conn p)) | .held (.conn p) => p.isAnywhere = true ∧ t ≠ owner
  | .todo (.work (.enter t' op)) => t' ≠ owner ∧ op ≠ .runLoop
  | .todo (.work (.leave _)) | .todo (.work (.setRemote _)) => True
  | .todo (.work (.dispatch _)) | .todo (.work (.bind _ _)) => t ≠ owner
  | .todo (.work (.loop (.post _))) | .todo (.work (.loop .dropRunner)) => True
  | _ => False

def threadAfter (t : Thread) : Entry (StreamInstr η) (StreamCall η) StreamNote → Thread
  | .todo (.work (.leave t')) => t'
  | _ => t

/-- Work that is done aside on the thread `t`, which stays at work. -/
def StaysAside (owner t : Thread) (out : List (StreamTodo η)) : Prop :=
  ∀ x ∈ out, Aside owner t (.todo x) ∧ threadAfter t (.todo x) = t

/-- Above a primitive that is being used all work is aside. Above a lock it is brief, unless the
loop's thread is occupied. -/
def Guarded (all : Bool) (owner : Thread) : Thread → Agenda η → Prop
  | _, [] => True
  | t, x :: rest =>
    (rest.any (isBusy all) → Aside owner t x) ∧
      (rest.any (isLock all) →
        isBrief all x ∨ (Aside owner t x ∧ isOccupied all (x :: rest))) ∧
      Guarded all owner (threadAfter t x) rest

def Unlocked (all : Bool) (agenda : Agenda η) : Prop := agenda.any (isLock all) = false

lemma unlocked_cons {x : Entry (StreamInstr η) (StreamCall η) StreamNote} :
    Unlocked all (x :: rest) ↔ isLock all x = false ∧ Unlocked all rest := by
  rw [Unlocked, List.any_cons, Bool.or_eq_false_iff]
  rfl

lemma unlocked_append {agenda : Agenda η} :
    Unlocked all (agenda ++ rest) ↔ Unlocked all agenda ∧ Unlocked all rest := by
  rw [Unlocked, List.any_append, Bool.or_eq_false_iff]
  rfl

/-- What an instruction leaves to do has only brief work above a lock. -/
def Tidy (all : Bool) : List (StreamTodo η) → Prop
  | [] => True
  | t :: out => ((out.map .todo).any (isLock all) → isBrief all (.todo t)) ∧ Tidy all out

lemma lock_of_busy {x : Entry (StreamInstr η) (StreamCall η) StreamNote}
    (busy : isBusy all x = true) : isLock all x = true := by
  unfold isBusy at busy
  split at busy
  · exact busy
  · cases busy

lemma any_lock_of_busy {agenda : Agenda η} (busy : agenda.any (isBusy all) = true) :
    agenda.any (isLock all) = true := by
  rw [List.any_eq_true] at busy ⊢
  obtain ⟨x, hx, held⟩ := busy
  exact ⟨x, hx, lock_of_busy held⟩

lemma Unlocked.not_busy {agenda : Agenda η} (unlocked : Unlocked all agenda) :
    agenda.any (isBusy all) = false := by
  by_contra busy
  rw [Bool.not_eq_false] at busy
  rw [Unlocked, any_lock_of_busy busy] at unlocked
  cases unlocked

lemma guarded_of_unlocked {agenda : Agenda η} (unlocked : Unlocked all agenda) :
    Guarded all owner t agenda := by
  induction agenda generalizing t with
  | nil => trivial
  | cons x rest ih =>
    have later : Unlocked all rest := (unlocked_cons.mp unlocked).2
    refine ⟨fun busy => ?_, fun locked => ?_, ih later⟩
    · rw [later.not_busy] at busy
      cases busy
    · rw [show rest.any (isLock all) = false from later] at locked
      cases locked

lemma busy_todo : ((out.map Entry.todo).any (isBusy all)) = false := by
  induction out with
  | nil => rfl
  | cons t out ih => exact ih

/-- Work that finds no lock below it may go on in any tidy way. -/
lemma Tidy.guarded (tidy : Tidy all out) (unlocked : Unlocked all rest) :
    Guarded all owner t (out.map .todo ++ rest) := by
  induction out generalizing t with
  | nil => exact guarded_of_unlocked unlocked
  | cons x out ih =>
    have idle : (out.map Entry.todo ++ rest).any (isBusy all) = false := by
      rw [List.any_append, busy_todo, unlocked.not_busy]
      rfl
    rw [List.map_cons, List.cons_append]
    refine ⟨fun busy => ?_, fun locked => .inl (tidy.1 ?_), ih tidy.2⟩
    · rw [idle] at busy
      cases busy
    · rwa [List.any_append, show rest.any (isLock all) = false from unlocked, Bool.or_false]
        at locked

lemma isOccupied_cons (x : Entry (StreamInstr η) (StreamCall η) StreamNote)
    (occupied : isOccupied all rest = true) : isOccupied all (x :: rest) = true := by
  rw [isOccupied, Bool.or_eq_true] at occupied ⊢
  rcases occupied with busy | interrupted
  · exact .inl (by rw [List.any_cons, busy, Bool.or_true])
  · exact .inr (by rw [isInterrupted, interrupted, Bool.or_true])

lemma isOccupied_append (occupied : isOccupied all rest = true) :
    isOccupied all (out.map .todo ++ rest) = true := by
  induction out with
  | nil => exact occupied
  | cons x out ih => exact isOccupied_cons _ ih

/-- Only a boundary can have interrupted what is right below it. -/
lemma isOccupied_tail {x : Entry (StreamInstr η) (StreamCall η) StreamNote}
    (occupied : isOccupied all (x :: rest) = true) (idle : isBusy all x = false)
    (inner : isBoundary x = false) : isOccupied all rest = true := by
  rw [isOccupied, List.any_cons, isInterrupted, idle, inner] at occupied
  exact occupied

lemma Guarded.aside (guarded : Guarded all owner t rest) (occupied : isOccupied all rest = true)
    (out : List (StreamTodo η)) (aside : StaysAside owner t out) :
    Guarded all owner t (out.map .todo ++ rest) := by
  induction out with
  | nil => exact guarded
  | cons x out ih =>
    obtain ⟨first, same⟩ := aside x (List.mem_cons_self ..)
    refine ⟨fun _ => first, fun _ => .inr ⟨first, ?_⟩, ?_⟩
    · exact isOccupied_cons _ (isOccupied_append occupied)
    · rw [same]
      exact ih fun y hy => aside y (List.mem_cons_of_mem _ hy)

lemma Guarded.notes (guarded : Guarded all owner t rest)
    (notes : ∀ x ∈ out, ∃ e, x = .note e) : Guarded all owner t (out.map .todo ++ rest) := by
  induction out with
  | nil => exact guarded
  | cons x out ih =>
    obtain ⟨e, rfl⟩ := notes x (List.mem_cons_self ..)
    exact ⟨fun _ => trivial, fun _ => .inl rfl,
      ih fun y hy => notes y (List.mem_cons_of_mem _ hy)⟩

/-! ## What each instruction leaves to do -/

lemma tidy_of_unlocked (unlocked : Unlocked all (out.map .todo)) : Tidy all out := by
  induction out with
  | nil => trivial
  | cons x out ih =>
    have later : Unlocked all (out.map .todo) := (unlocked_cons.mp unlocked).2
    refine ⟨fun locked => ?_, ih later⟩
    rw [show (out.map Entry.todo).any (isLock all) = false from later] at locked
    cases locked

lemma unlocked_of_notes (notes : ∀ x ∈ out, ∃ e, x = .note e) :
    Unlocked all (out.map .todo) := by
  rw [Unlocked, List.any_eq_false]
  intro x hx
  obtain ⟨y, hy, rfl⟩ := List.mem_map.mp hx
  obtain ⟨e, rfl⟩ := notes y hy
  exact Bool.false_ne_true

lemma notes_outbox_close (q : Outbox (Write η)) (cause : Fault) :
    ∀ x ∈ (Outbox.exec (.close cause) q).2.flatMap ofOutbox,
      ∃ e, x = (.note e : StreamTodo η) := by
  have effect := Outbox.exec_effect (.close cause) q
  generalize (Outbox.exec (.close cause) q).1 = q' at *
  generalize (Outbox.exec (.close cause) q).2 = out at *
  intro x hx
  rw [List.mem_flatMap] at hx
  obtain ⟨y, hy, hx⟩ := hx
  cases effect with
  | shut closed => cases hy
  | closes opened =>
    rcases List.mem_append.mp hy with warned | cancelled
    · unfold Outbox.warning at warned
      split at warned
      · cases warned
      · obtain rfl := List.mem_singleton.mp warned
        exact ⟨_, List.mem_singleton.mp hx⟩
    · obtain ⟨w, _, rfl⟩ := List.mem_map.mp cancelled
      exact ⟨_, List.mem_singleton.mp hx⟩

/-- The outbox leaves locks only where the gate is to look at a write. -/
lemma outbox_leaves (q : Outbox (Write η)) (i : Outbox.Instr (Write η)) :
    Unlocked all (((Outbox.exec i q).2.flatMap ofOutbox).map .todo) ∨
      (i = .drain ∧ q.closed = none ∧
        ∃ w, (Outbox.exec i q).2.flatMap ofOutbox = [.work (.attempt w)]) := by
  by_cases shuts : ∃ cause, i = .close cause
  · obtain ⟨cause, rfl⟩ := shuts
    exact .inl (unlocked_of_notes (notes_outbox_close q cause))
  · have effect := Outbox.exec_effect i q
    generalize (Outbox.exec i q).1 = q' at *
    generalize (Outbox.exec i q).2 = out at *
    cases effect with
    | tests opened => exact .inr ⟨rfl, opened, _, rfl⟩
    | closes opened => exact absurd ⟨_, rfl⟩ shuts
    | _ => exact .inl rfl

/-- Such an instruction may leave locks. -/
def makesLocks : StreamInstr η → Bool
  | .perform _ | .deliver _ | .attempt _ | .outbox _ => true
  | _ => false

lemma exec_unlocked {i : StreamInstr η} (plain : makesLocks i = false) (e : Endpoint η) :
    Unlocked all ((exec i e).2.map .todo) := by
  refine any_exec fun x leaves => ?_
  cases leaves with
  | @counts t op p counting =>
    cases p with
    | countRead len | flushRead | flushWritten => rfl
    | _ => cases counting
  | inbox | outbox | tests | sends | sendsQueued | credits => cases plain
  | _ => rfl

lemma tidy_perform (e : Endpoint η) (job : Job η) : Tidy all (e.perform job).2 := by
  cases job with
  | data bytes =>
    simp only [perform]
    split <;> simp [Tidy, isLock]
  | fin trailers =>
    simp only [perform, Inbox.offer]
    split <;> (try split) <;> simp [Tidy, trace, isLock, isBrief]
  | reset code =>
    simp only [perform, reset]
    split <;> simp [Tidy, trace, isLock, isBrief]
  | changePriority p =>
    simp only [perform]
    split <;> simp [Tidy]
  | toggleWritable =>
    simp only [perform]
    split <;> simp [Tidy, trace, isLock, isBrief]
  | close =>
    simp only [perform]
    split <;> simp [Tidy, trace, isLock, isBrief]
  | exception cause => simp [perform, Tidy, trace, isLock, isBrief]
  | writeFrame frame p =>
    simp only [perform]
    split <;> simp [Tidy]
  | writeHeaders block fin flush p =>
    simp only [perform, headersOut]
    split <;> (try split) <;> simp [Tidy, isLock]
  | writeReset code =>
    simp only [perform, reset]
    split <;> split <;> simp [Tidy, trace, isLock, isBrief, Primitive.isStill]
  | announcePriority p =>
    simp only [perform]
    split <;> simp [Tidy]
  | _ => exact tidy_of_unlocked rfl

lemma tidy_attempt (e : Endpoint η) (w : Write η) : Tidy all (e.attempt w).2 := by
  unfold attempt
  split
  · simp [Tidy]
  · simp [Tidy]
  · cases w with
    | headers block fin flush p => cases fin <;> simp [headersOut, Tidy, isLock]
    | data chunk fin p => cases fin <;> simp [Tidy, trace, isLock, isBrief, Primitive.isStill]

/-- Every instruction leaves only brief work above the locks that it makes. -/
lemma tidy_exec (i : StreamInstr η) (e : Endpoint η) : Tidy all (exec i e).2 := by
  cases i with
  | perform job => exact tidy_perform e job
  | deliver item =>
    cases item with
    | data bytes =>
      simp only [exec, deliver]
      split <;> (try split) <;> simp [Tidy, isLock]
    | fin trailers => exact tidy_of_unlocked rfl
  | attempt w => exact tidy_attempt e w
  | outbox j =>
    rcases outbox_leaves e.stream.outbox j with unlocked | ⟨_, _, w, leaves⟩
    · exact tidy_of_unlocked unlocked
    · simp only [exec, leaves]
      exact ⟨fun locked => (Bool.false_ne_true locked).elim, trivial⟩
  | _ => exact tidy_of_unlocked (exec_unlocked rfl e)

/-! ## The guard is kept -/

lemma begin_thread (e : Endpoint η) (op : Operation η) : (begin e op).1.thread = e.thread := by
  cases op with
  | writeHeaders block first fin flush p => cases first <;> rfl
  | updatePriority p =>
    unfold begin
    dsimp only
    split <;> rfl
  | _ => rfl

lemma begin_loop (e : Endpoint η) (op : Operation η) : (begin e op).1.loop = e.loop := by
  cases op with
  | writeHeaders block first fin flush p => cases first <;> rfl
  | updatePriority p =>
    unfold begin
    dsimp only
    split <;> rfl
  | _ => rfl

/-- An operation that is called away from the loop only posts. -/
lemma begin_aside {e : Endpoint η} {op : Operation η} (away : e.thread ≠ owner)
    (other : op ≠ .runLoop) : StaysAside owner e.thread (begin e op).2 := by
  unfold StaysAside
  cases op with
  | runLoop => exact absurd rfl other
  | writeHeaders block first fin flush p =>
    cases first <;> simp [begin, Aside, threadAfter, away]
  | updatePriority p =>
    unfold begin
    dsimp only
    split <;> simp [Aside, threadAfter, away]
  | _ => simp [begin, Aside, threadAfter, away, Primitive.isAnywhere]

lemma exec_post_owner (l : TaskLoop (Job η)) (job : Job η) :
    (TaskLoop.exec (.post job) l).1.owner = l.owner := by
  simp only [TaskLoop.exec, TaskLoop.wake]
  split <;> rfl

lemma exec_dropRunner_owner (l : TaskLoop (Job η)) :
    (TaskLoop.exec .dropRunner l).1.owner = l.owner := by
  simp only [TaskLoop.exec]
  split <;> rfl

lemma notes_lost {job : Job η} {x : StreamTodo η} (hx : x ∈ ofLoop (.note (.lost job))) :
    ∃ e, x = .note e := by
  obtain ⟨p, _, rfl⟩ := by simpa [ofLoop] using hx
  exact ⟨_, rfl⟩

lemma notes_post (l : TaskLoop (Job η)) (job : Job η) :
    ∀ x ∈ (TaskLoop.exec (.post job) l).2.flatMap ofLoop, ∃ e, x = (.note e : StreamTodo η) := by
  simp only [TaskLoop.exec, TaskLoop.wake]
  split
  · cases l.waker <;> simp [ofLoop]
  · intro x hx
    rw [List.flatMap_cons, List.mem_append] at hx
    rcases hx with lost | gone
    · exact notes_lost lost
    · exact ⟨_, by simpa [ofLoop, trace] using gone⟩

lemma notes_dropRunner (l : TaskLoop (Job η)) :
    ∀ x ∈ (TaskLoop.exec .dropRunner l).2.flatMap ofLoop, ∃ e, x = (.note e : StreamTodo η) := by
  simp only [TaskLoop.exec]
  split
  · intro x hx
    simp only [List.mem_flatMap, List.mem_map] at hx
    obtain ⟨_, ⟨job, _, rfl⟩, lost⟩ := hx
    exact notes_lost lost
  · simp

lemma staysAside_of_notes (notes : ∀ x ∈ out, ∃ n, x = .note n) : StaysAside owner t out := by
  intro x hx
  obtain ⟨n, rfl⟩ := notes x hx
  exact ⟨trivial, rfl⟩

/-- Work aside leaves the loop with its owner, and goes on aside: an operation on its own thread,
anything else on the thread that is at work. -/
lemma exec_of_aside {i : StreamInstr η} {e : Endpoint η}
    (aside : Aside e.loop.owner e.thread (.todo (.work i))) :
    (exec i e).1.loop.owner = e.loop.owner ∧
      ((∃ t op out, i = .enter t op ∧ (exec i e).1.thread = t ∧
          (exec i e).2 = out ++ [.work (.leave e.thread)] ∧ StaysAside e.loop.owner t out) ∨
        (∃ t, i = .leave t ∧ (exec i e).1.thread = t ∧ (exec i e).2 = []) ∨
        (isBoundary (.todo (.work i) : Entry (StreamInstr η) _ _) = false ∧
          (exec i e).1.thread = e.thread ∧ StaysAside e.loop.owner e.thread (exec i e).2)) := by
  cases i with
  | enter t op =>
    obtain ⟨away, other⟩ := aside
    exact ⟨congrArg TaskLoop.owner (begin_loop _ op), .inl ⟨t, op, _, rfl, begin_thread _ op, rfl,
      begin_aside (e := { e with thread := t }) away other⟩⟩
  | leave t => exact ⟨rfl, .inr (.inl ⟨t, rfl, rfl, rfl⟩)⟩
  | dispatch job =>
    have away : e.onLoop = false := by
      simp only [Aside] at aside
      simp [onLoop, TaskLoop.ownedBy, Ne.symm aside]
    refine ⟨rfl, .inr (.inr ⟨rfl, rfl, ?_⟩)⟩
    simp [exec, away, StaysAside, Aside, threadAfter]
  | bind id writable =>
    simp only [Aside] at aside
    simp only [exec, bind]
    split
    · exact ⟨rfl, .inr (.inr ⟨rfl, rfl, by simp [trace, StaysAside, Aside, threadAfter]⟩)⟩
    · exact ⟨rfl, .inr (.inr ⟨rfl, rfl, by simp [trace, StaysAside, Aside, threadAfter, aside]⟩)⟩
  | setRemote remoteOpen => exact ⟨rfl, .inr (.inr ⟨rfl, rfl, fun x hx => by cases hx⟩)⟩
  | loop i =>
    cases i with
    | post job =>
      exact ⟨exec_post_owner e.loop job,
        .inr (.inr ⟨rfl, rfl, staysAside_of_notes (notes_post e.loop job)⟩)⟩
    | dropRunner =>
      exact ⟨exec_dropRunner_owner e.loop,
        .inr (.inr ⟨rfl, rfl, staysAside_of_notes (notes_dropRunner e.loop)⟩)⟩
    | _ => exact absurd aside id
  | _ => exact absurd aside id

lemma Guarded.exec_aside {i : StreamInstr η} {e : Endpoint η}
    (guarded : Guarded all e.loop.owner e.thread (.todo (.work i) :: rest))
    (occupied : isOccupied all (.todo (.work i) :: rest) = true)
    (aside : Aside e.loop.owner e.thread (.todo (.work i))) :
    Guarded all (exec i e).1.loop.owner (exec i e).1.thread ((exec i e).2.map .todo ++ rest) := by
  have below := guarded.2.2
  obtain ⟨same_owner, goes_on⟩ := exec_of_aside aside
  rw [same_owner]
  rcases goes_on with ⟨t, op, out, rfl, at_work, leaves, stays⟩ | ⟨t, rfl, at_work, leaves⟩ |
    ⟨inner, at_work, stays⟩
  · -- The end of an operation interrupts whatever its beginning did.
    have still_occupied : isOccupied all (.todo (.work (.leave e.thread)) :: rest) = true :=
      occupied
    have back : Guarded all e.loop.owner t (.todo (.work (.leave e.thread)) :: rest) :=
      ⟨fun _ => trivial, fun _ => .inr ⟨trivial, still_occupied⟩, below⟩
    rw [at_work, leaves, List.map_append, List.append_assoc]
    exact back.aside still_occupied out stays
  · rw [at_work, leaves]
    exact below
  · rw [at_work]
    refine Guarded.aside ?_ (isOccupied_tail occupied rfl inner) _ stays
    cases i with
    | enter t op | leave t => cases inner
    | _ => exact below

/-- An agenda is guarded, as it stands with the thread at work and the owner of the loop. -/
def GuardedNow (all : Bool) (m : Live η) : Prop :=
  Guarded all m.state.loop.owner m.state.thread m.agenda

lemma guardedNow_work {i : StreamInstr η} {e : Endpoint η}
    (guarded : GuardedNow all ⟨e, .todo (.work i) :: rest⟩) :
    GuardedNow all ⟨(exec i e).1, (exec i e).2.map .todo ++ rest⟩ := by
  obtain ⟨aside, brief, below⟩ := guarded
  by_cases unlocked : Unlocked all rest
  · exact (tidy_exec i e).guarded unlocked
  · rw [Unlocked, Bool.not_eq_false] at unlocked
    rcases brief unlocked with is_brief | ⟨is_aside, occupied⟩
    · cases i with
      | inbox i =>
        cases i with
        | clear => exact below
        | _ => cases is_brief
      | outbox i =>
        cases i with
        | close cause => exact below.notes (notes_outbox_close e.stream.outbox cause)
        | _ => cases is_brief
      | setRemote remoteOpen => exact below
      | _ => cases is_brief
    · exact Guarded.exec_aside ⟨aside, brief, below⟩ occupied is_aside

/-- While the surroundings are in control, a lock means that the loop's thread is occupied. -/
lemma occupied_of_locked {m : Live η} (guarded : GuardedNow all m)
    (waits : m.step component = none) (locked : m.agenda.any (isLock all)) :
    isOccupied all m.agenda = true := by
  rcases m with ⟨e, _ | ⟨t | c, rest⟩⟩
  · cases locked
  · exact absurd rfl (Machine.step_eq_none_iff.mp waits t rest)
  · have still : isBrief all (.held c : Entry (StreamInstr η) _ StreamNote) ∨
        isOccupied all (.held c :: rest) := by
      rw [List.any_cons, Bool.or_eq_true] at locked
      rcases locked with here | below
      · cases c with
        | conn p => exact .inl here
        | hook p => cases here
      · exact (guarded.2.1 below).imp_right And.right
    rcases still with brief | occupied
    · cases c with
      | conn p =>
        rw [isOccupied, List.any_cons, show isBusy all (.held (.conn p)) = true from brief]
        rfl
      | hook p => cases brief
    · exact occupied

/-- An operation that is asked for above a lock is one of another thread. -/
lemma aside_of_locked {m : Live η} {op : Operation η} (guarded : GuardedNow all m)
    (free : t = m.state.loop.owner ∨ op = .runLoop →
      m.step component = none ∧ isOccupied all m.agenda = false)
    (locked : m.agenda.any (isLock all)) : t ≠ m.state.loop.owner ∧ op ≠ .runLoop := by
  rw [← not_or]
  intro on_loop
  obtain ⟨waits, unoccupied⟩ := free on_loop
  rw [occupied_of_locked guarded waits locked] at unoccupied
  cases unoccupied

lemma occupied_of_entered {m : Live η} {op : Operation η} (guarded : GuardedNow all m)
    (locked : m.agenda.any (isLock all)) :
    isOccupied all (.todo (.work (.enter t op)) :: m.agenda) = true := by
  by_cases waits : m.step component = none
  · exact isOccupied_cons _ (occupied_of_locked guarded waits locked)
  · rcases m with ⟨e, _ | ⟨todo | c, rest⟩⟩
    · cases locked
    · rw [isOccupied, Bool.or_eq_true]
      exact .inr rfl
    · exact absurd rfl waits

lemma guardedNow_step {m m' : Live η} {a : Deed η} (guarded : GuardedNow all m)
    (move : Machine.Move component (Request all) m a m') : GuardedNow all m' := by
  cases move using Machine.Move.elim with
  | work e i rest => exact guardedNow_work guarded
  | call e c rest =>
    obtain ⟨aside, brief, below⟩ := guarded
    refine ⟨?_, fun locked => ?_, ?_⟩
    · cases c with
      | conn p | hook p => exact aside
    · rcases brief locked with is_brief | ⟨is_aside, occupied⟩
      · cases c with
        | conn p => exact .inl is_brief
        | hook p => cases is_brief
      · refine .inr ⟨?_, isOccupied_cons _ (isOccupied_tail occupied rfl rfl)⟩
        cases c with
        | conn p | hook p => exact is_aside
    · cases c with
      | conn p | hook p => exact below
  | note e s rest => exact guarded.2.2
  | invoke m is asked =>
    cases asked with
    | operation t op free =>
      have aside := aside_of_locked guarded free
      refine ⟨fun busy => aside (any_lock_of_busy busy), fun locked => ?_, guarded⟩
      exact .inr ⟨aside locked, occupied_of_entered guarded locked⟩
    | setRemote remoteOpen => exact ⟨fun _ => trivial, fun _ => .inl rfl, guarded⟩
  | reply e c rest f =>
    obtain ⟨aside, brief, below⟩ := guarded
    cases c with
    | conn p =>
      cases p with
      | canSend id =>
        refine ⟨fun busy => (aside busy).2, fun locked => ?_, below⟩
        obtain ⟨is_aside, occupied⟩ := (brief locked).resolve_left Bool.false_ne_true
        exact .inr ⟨is_aside.2, isOccupied_cons _ (isOccupied_tail occupied rfl rfl)⟩
      | _ => exact below
    | hook p =>
      cases p with
      | data bytes | fin trailers =>
        refine ⟨fun busy => absurd (aside busy) id, fun locked => ?_, below⟩
        exact absurd ((brief locked).resolve_left Bool.false_ne_true).1 id
      | _ => exact below

theorem guarded_of_runs {o : Options} {h : Past η} {m : Live η} (run : Runs all o owner h m) :
    GuardedNow all m := by
  induction run with
  | start => trivial
  | step _ move ih => exact guardedNow_step ih move

/-- Whatever is neither brief nor aside finds no lock below it. -/
lemma unlocked_of_guarded {e : Endpoint η} {x : Entry (StreamInstr η) (StreamCall η) StreamNote}
    (guarded : GuardedNow all ⟨e, x :: rest⟩) (long : isBrief all x = false)
    (near : ¬ Aside e.loop.owner e.thread x) : Unlocked all rest := by
  have brief := guarded.2.1
  by_contra locked
  rw [Unlocked, Bool.not_eq_false] at locked
  rcases brief locked with is_brief | ⟨is_aside, _⟩
  · rw [long] at is_brief
    cases is_brief
  · exact near is_aside

end StreamControl.Endpoint
