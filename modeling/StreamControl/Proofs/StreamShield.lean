import StreamControl.Proofs.StreamCover

/-!
# What the loop comes to next

Whatever the hooks and the primitives of a stream call back, some work is done on the loop right
after it was left to do: a job that was begun, a write that goes to its gate or comes back from
it, an item that is put into the inbox. Until then only other threads can come in between, and
these leave the stream alone but for what they post. So whatever changes the stream on the loop
finds no such work below it.
-/

namespace StreamControl.Endpoint

variable {η : Type} {allowed : Thread → Operation η → Prop} {o : Options} {owner t : Thread}
  {h : Past η} {m m' : Live η} {rest agenda : Agenda η} {out : List (StreamTodo η)}
  {x : Entry (StreamInstr η) (StreamCall η) StreamNote} {i : StreamInstr η} {e : Endpoint η}

/-- What is asked of a stream, at any moment: an allowed operation on some thread, or a change on
the peer's side. The loop's thread calls operations, and passes over the loop are made, only where
that thread is free: at rest, or inside a callback, whichever it is. -/
inductive Called (allowed : Thread → Operation η → Prop) (m : Live η) :
    List (StreamInstr η) → Prop
  | operation (t : Thread) (op : Operation η) (may : allowed t op)
      (free : t = m.state.loop.owner ∨ op = .runLoop →
        m.step component = none ∧ isInterrupted m.agenda = false) :
    Called allowed m [.enter t op]
  | setRemote (remoteOpen : Bool) : Called allowed m [.setRemote remoteOpen]

/-- The runs of a stream in which every callback may call back. -/
abbrev RunsFreely (allowed : Thread → Operation η → Prop) (o : Options) (owner : Thread)
    (h : Past η) (m : Live η) : Prop :=
  Machine.Run component (Called allowed) (.idle (fresh o owner)) h m

lemma Called.asked {is : List (StreamInstr η)} (called : Called allowed m is) :
    Asked allowed is := by
  cases called with
  | operation t op may free => exact .operation t op may
  | setRemote remoteOpen => exact .setRemote remoteOpen

lemma Called.whenFree {is : List (StreamInstr η)} (called : Called allowed m is) :
    AskedWhenFree isInterrupted m is := by
  cases called with
  | operation t op may free => exact .operation t op free
  | setRemote remoteOpen => exact .setRemote remoteOpen

lemma Called.mono {wider : Thread → Operation η → Prop} {is : List (StreamInstr η)}
    (widens : ∀ t op, allowed t op → wider t op) (called : Called allowed m is) :
    Called wider m is := by
  cases called with
  | operation t op may free => exact .operation t op (widens t op may) free
  | setRemote remoteOpen => exact .setRemote remoteOpen

/-- Whatever primitives do not call back, every callback may do as its hooks do. -/
lemma freely_of_runs {all : Bool} (run : Runs all o owner h m) :
    RunsFreely (fun _ _ => True) o owner h m :=
  run.mono fun m is asked => by
    cases asked with
    | operation t op free =>
      refine .operation t op trivial fun near => ⟨(free near).1, ?_⟩
      have unoccupied := (free near).2
      rw [isOccupied, Bool.or_eq_false_iff] at unoccupied
      exact unoccupied.2
    | setRemote remoteOpen => exact .setRemote remoteOpen

def isCalled (check : Thread → Operation η → Bool) (m : Live η) (is : List (StreamInstr η)) :
    Bool :=
  isAsked check is && !isInterrupted m.agenda

lemma called_of_isCalled {check : Thread → Operation η → Bool}
    (sound : ∀ t op, check t op = true → allowed t op) {is : List (StreamInstr η)}
    (waits : m.step component = none) (called : isCalled check m is = true) :
    Called allowed m is := by
  rw [isCalled, Bool.and_eq_true, Bool.not_eq_true'] at called
  cases asked_of_isAsked sound called.1 with
  | operation t op may => exact .operation t op may fun _ => ⟨waits, called.2⟩
  | setRemote remoteOpen => exact .setRemote remoteOpen

/-- Work that the loop comes to next. -/
def isPressing : Entry (StreamInstr η) (StreamCall η) StreamNote → Bool
  | .todo (.work (.perform _)) | .todo (.work (.attempt _)) => true
  | .todo (.work (.inbox (.push _))) => true
  | .todo (.work (.outbox (.submit _))) | .todo (.work (.outbox (.refused _))) => true
  | .todo (.call (.conn (.sendPriority _ _))) => true
  | _ => false

/-- A note, or a change on the peer's side. -/
def isHarmless : Entry (StreamInstr η) (StreamCall η) StreamNote → Bool
  | .todo (.note _) | .todo (.work (.setRemote _)) => true
  | _ => false

/-! ## What each instruction leaves to do -/

/-- Such an instruction may leave pressing work. -/
def makesPressing : StreamInstr η → Bool
  | .dispatch _ | .perform _ | .attempt _ | .outbox _ | .loop _ => true
  | _ => false

lemma exec_unpressing (plain : makesPressing i = false) (e : Endpoint η) :
    ((exec i e).2.map .todo).any isPressing = false := by
  refine any_exec fun x leaves => ?_
  cases leaves with
  | @counts t op p counting =>
    cases p with
    | countRead len | flushRead | flushWritten => rfl
    | _ => cases counting
  | performs | runs | inbox | outbox | tests | refuses | sends | sendsQueued => cases plain
  | _ => rfl

lemma direct_perform (e : Endpoint η) (job : Job η) :
    Direct isPressing isHarmless (e.perform job).2 := by
  cases job with
  | data bytes =>
    simp only [perform]
    split <;> simp [Direct, isPressing]
  | fin trailers =>
    simp only [perform, Inbox.offer]
    (repeat' split) <;> simp [Direct, trace, isPressing, isHarmless]
  | announcePriority p =>
    simp only [perform]
    split <;> simp [Direct]
  | reset code | changePriority p | toggleWritable | close | writeFrame frame p
  | writeHeaders block fin flush p | writeReset code =>
    apply direct_of_none
    simp only [perform, reset, headersOut]
    (repeat' split) <;> rfl
  | enqueue w => exact direct_cons rfl
  | _ => exact direct_of_none rfl

lemma direct_loop (l : TaskLoop (Job η)) (j : TaskLoop.Instr (Job η)) :
    Direct isPressing isHarmless ((TaskLoop.exec j l).2.flatMap ofLoop) := by
  have none_of (other : ∀ job, Todo.call (.run job) ∉ (TaskLoop.exec j l).2) :
      Direct isPressing isHarmless ((TaskLoop.exec j l).2.flatMap ofLoop) := by
    refine direct_of_none (List.any_eq_false.mpr fun x hx => ?_)
    obtain ⟨y, hy, rfl⟩ := List.mem_map.mp hx
    obtain ⟨z, hz, hy⟩ := List.mem_flatMap.mp hy
    rcases z with k | ⟨⟨job⟩⟩ | n
    · obtain rfl := List.mem_singleton.mp hy
      exact Bool.false_ne_true
    · exact absurd hz (other job)
    · cases n with
      | lost job =>
        obtain ⟨e, rfl⟩ := notes_lost hy
        exact Bool.false_ne_true
      | passed ran | trace t =>
        obtain rfl := List.mem_singleton.mp hy
        exact Bool.false_ne_true
      | polled w done | woken w => cases hy
  cases j with
  | passNext ran =>
    simp only [TaskLoop.exec]
    split
    · exact direct_cons rfl
    · split <;> simp [Direct, ofLoop, trace, isPressing]
  | pollNext w =>
    simp only [TaskLoop.exec]
    split
    · exact direct_cons rfl
    · split <;> simp [Direct, ofLoop, trace]
  | _ =>
    refine none_of fun job => ?_
    simp only [TaskLoop.exec, TaskLoop.wake]
    (repeat' split) <;> simp

/-- Every instruction leaves only what is harmless above the pressing work that it leaves. -/
lemma direct_pressing (i : StreamInstr η) (e : Endpoint η) :
    Direct isPressing isHarmless (exec i e).2 := by
  cases i with
  | dispatch job =>
    simp only [exec]
    split <;> exact direct_cons rfl
  | perform job => exact direct_perform e job
  | deliver item =>
    cases item with
    | data bytes =>
      simp only [exec, deliver]
      (repeat' split) <;> simp [Direct, isPressing]
    | fin trailers => exact direct_of_none rfl
  | attempt w =>
    simp only [exec, attempt]
    split
    · exact direct_cons rfl
    · exact direct_cons rfl
    · apply direct_of_none
      simp only [headersOut]
      (repeat' split) <;> rfl
  | outbox j =>
    have effect := Outbox.exec_effect j e.stream.outbox
    simp only [exec]
    generalize (Outbox.exec j e.stream.outbox).1 = q' at *
    generalize hout : (Outbox.exec j e.stream.outbox).2 = out at *
    cases effect with
    | tests => exact direct_cons rfl
    | closes opened =>
      apply direct_of_none
      rw [← hout, List.any_eq_false]
      intro x hx
      obtain ⟨y, hy, rfl⟩ := List.mem_map.mp hx
      obtain ⟨n, rfl⟩ := notes_outbox_close _ _ y hy
      exact Bool.false_ne_true
    | _ => exact direct_of_none rfl
  | loop j => exact direct_loop e.loop j
  | _ => exact direct_of_none (exec_unpressing rfl e)

/-! ## The shield -/

/-- Above pressing work there is only what is harmless, and work of other threads that came in
between. -/
def shield : Cover η where
  kept := isPressing
  brief := isHarmless
  occupied := isInterrupted
  kept_held _ := rfl
  brief_note _ := rfl
  brief_setRemote _ := rfl
  brief_call := nofun
  isBrief {x} harmless := by
    unfold isHarmless at harmless
    split at harmless
    · rfl
    · rfl
    · cases harmless
  occupied_held _ := nofun
  occupied_cons x {rest} interrupted := by rw [isInterrupted, interrupted, Bool.or_true]
  occupied_tail interrupted _ inner := by
    rw [isInterrupted, inner] at interrupted
    exact interrupted
  occupied_enter t op x rest := rfl
  occupied_leave _ := id
  direct_exec := direct_pressing
  direct_resume k r := direct_of_none (by cases k <;> rfl)

theorem shielded_of_runs (run : RunsFreely allowed o owner h m) : CoveredNow shield m :=
  covered_of_runs shield (run.mono fun _ _ called => called.whenFree)

/-- Whatever is neither harmless nor aside finds nothing pressing below it. -/
lemma none_pressing_of_shielded (shielded : CoveredNow shield ⟨e, x :: rest⟩)
    (grave : isHarmless x = false) (near : ¬ Aside e.loop.owner e.thread x) :
    rest.any isPressing = false :=
  none_kept_below shielded grave near

section Views

variable {β : Type} {f : Entry (StreamInstr η) (StreamCall η) StreamNote → List β}
  {p : Entry (StreamInstr η) (StreamCall η) StreamNote → Bool}

/-- What is seen of pressing work alone is not seen below anything else that is done on the loop. -/
lemma view_below (shielded : CoveredNow shield ⟨e, x :: rest⟩) (grave : isHarmless x = false)
    (near : ¬ Aside e.loop.owner e.thread x) (seen : ∀ y, isPressing y = false → f y = []) :
    rest.flatMap f = [] := by
  have none_below := none_pressing_of_shielded shielded grave near
  rw [List.any_eq_false] at none_below
  rw [List.flatMap_eq_nil_iff]
  exact fun y hy => seen y (Bool.eq_false_iff.mpr (none_below y hy))

lemma any_below (shielded : CoveredNow shield ⟨e, x :: rest⟩) (grave : isHarmless x = false)
    (near : ¬ Aside e.loop.owner e.thread x) (seen : ∀ y, p y = true → isPressing y = true) :
    rest.any p = false := by
  have none_below := none_pressing_of_shielded shielded grave near
  rw [List.any_eq_false] at none_below ⊢
  exact fun y hy found => none_below y hy (seen y found)

end Views

end StreamControl.Endpoint
