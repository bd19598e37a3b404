import StreamControl.Proofs.StreamGuard
import StreamControl.Proofs.StreamSteps

/-!
# The thread of a stream

As long as one thread drives the loop, by passes or by polling a future, that thread does all the
work of the stream. On other threads operations post their jobs, and four primitives are used at
once.
-/

namespace StreamControl.Endpoint

variable {η : Type} {o : Options} {owner t : Thread} {h : Past η} {m m' : Live η}
  {rest : Agenda η} {out : List (StreamTodo η)}

/-- Only the thread `owner` makes passes over the loop. -/
def DrivenBy (owner t : Thread) (op : Operation η) : Prop := op = .runLoop → t = owner

/-- What leaves it open who drives the loop: its handles, and turning its runner into a future. -/
def isHandling {τ : Type} : TaskLoop.Instr τ → Bool
  | .serve | .addHandle | .dropHandle | .dropHandles => true
  | _ => false

/-- What is asked of a stream whose loop is driven on the thread `owner` alone: operations on any
thread, with passes and polls on this one. -/
inductive AskedAtHome (owner : Thread) (m : Live η) : List (StreamInstr η) → Prop
  | asked {is : List (StreamInstr η)} (asked : Asked (DrivenBy owner) is) : AskedAtHome owner m is
  | poll (w : Waker) (at_work : m.state.thread = owner) :
    AskedAtHome owner m [.loop (.poll owner w)]
  | handling (j : TaskLoop.Instr (Job η)) (plain : isHandling j = true) :
    AskedAtHome owner m [.loop j]

/-- The runs of a stream whose loop is driven on the thread `owner` alone. -/
abbrev RunsAtHome (o : Options) (owner : Thread) (h : Past η) (m : Live η) : Prop :=
  Machine.Run component (AskedAtHome owner) (.idle (fresh o owner)) h m

/-- What is done on the thread `t` while the loop belongs to `owner`. -/
def OnThread (owner t : Thread) : Entry (StreamInstr η) (StreamCall η) StreamNote → Prop
  | .todo (.note _) | .todo (.work (.leave _)) | .todo (.work (.setRemote _))
  | .todo (.work (.bind _ _)) | .todo (.work (.loop .dropRunner)) => True
  | .todo (.work (.enter t' op)) => DrivenBy owner t' op
  | .todo (.work (.dispatch job)) => job = .announceDrained → t = owner
  | .todo (.work (.loop (.post job))) => job ≠ .announceDrained
  | .todo (.work (.loop (.pass t'))) | .todo (.work (.loop (.poll t' _))) => t = owner ∧ t' = owner
  | .todo (.work (.loop (.passNext _))) | .todo (.work (.loop (.pollNext _))) => t = owner
  | .todo (.work (.loop _)) => True
  | .todo (.call (.conn p)) | .held (.conn p) => p.isAnywhere = true ∨ t = owner
  | _ => t = owner

def AtHome (owner : Thread) : Thread → Agenda η → Prop
  | _, [] => True
  | t, x :: rest => OnThread owner t x ∧ AtHome owner (threadAfter t x) rest

/-- An agenda is at home, as it stands with the thread at work, and so is the loop. -/
def AtHomeNow (owner : Thread) (m : Live η) : Prop :=
  m.state.loop.owner = owner ∧ AtHome owner m.state.thread m.agenda

/-- Neither the beginning nor the end of an operation, nor an instruction of the loop. -/
def isInner : StreamTodo η → Bool
  | .work (.enter _ _) | .work (.leave _) | .work (.loop _) => false
  | _ => true

lemma AtHome.append (home : AtHome owner t rest) (out : List (StreamTodo η))
    (inner : ∀ x ∈ out, OnThread owner t (.todo x) ∧ threadAfter t (.todo x) = t) :
    AtHome owner t (out.map .todo ++ rest) := by
  induction out with
  | nil => exact home
  | cons x out ih =>
    obtain ⟨first, same⟩ := inner x List.mem_cons_self
    refine ⟨first, ?_⟩
    rw [same]
    exact ih fun y hy => inner y (List.mem_cons_of_mem _ hy)

/-- The owner of the loop may do anything. -/
lemma AtHome.append_inner (home : AtHome owner owner rest) (inner : ∀ x ∈ out, isInner x = true) :
    AtHome owner owner (out.map .todo ++ rest) := by
  refine home.append out fun x hx => ?_
  have within := inner x hx
  cases x with
  | work i =>
    cases i with
    | enter t op | leave t | loop j => cases within
    | dispatch job => exact ⟨fun _ => rfl, rfl⟩
    | _ => exact ⟨by simp [OnThread], rfl⟩
  | call c =>
    cases c with
    | conn p => exact ⟨.inr rfl, rfl⟩
    | hook k => exact ⟨rfl, rfl⟩
  | note e => exact ⟨trivial, rfl⟩

/-! ## What each instruction leaves to do -/

lemma inner_exec {i : StreamInstr η} (e : Endpoint η) (other : isInner (.work i) = true)
    (no_dispatch : ∀ job, i ≠ .dispatch job) : ∀ x ∈ (exec i e).2, isInner x = true := by
  intro x hx
  cases exec_leaves i e x hx with
  | returns t t' op | passes t | drops t | goesOn goes => cases other
  | posts job => exact absurd rfl (no_dispatch job)
  | _ => rfl

/-- What an operation leaves to do on the thread that calls it. -/
lemma begin_onThread {e : Endpoint η} {op : Operation η} (driven : DrivenBy owner e.thread op) :
    ∀ x ∈ (begin e op).2,
      OnThread owner e.thread (.todo x) ∧ threadAfter e.thread (.todo x) = e.thread := by
  cases op with
  | writeHeaders block first fin flush p => cases first <;> simp [begin, OnThread, threadAfter]
  | updatePriority p =>
    unfold begin
    dsimp only
    split <;> simp [OnThread, threadAfter]
  | runLoop => simp [begin, OnThread, threadAfter, driven rfl]
  | _ => simp [begin, OnThread, threadAfter, Primitive.isAnywhere]

lemma exec_elsewhere {i : StreamInstr η} (e : Endpoint η) (inner : isInner (.work i) = true) :
    (exec i e).1.loop = e.loop ∧ (exec i e).1.thread = e.thread := by
  have alters := exec_alters i e
  generalize (exec i e).1 = e' at *
  cases alters with
  | enters | stores | returns | loop => cases inner
  | _ => exact ⟨rfl, rfl⟩

/-! ## The loop's thread -/

lemma atHome_loop {j : TaskLoop.Instr (Job η)} {e : Endpoint η}
    (home : AtHomeNow owner ⟨e, .todo (.work (.loop j)) :: rest⟩) :
    AtHomeNow owner ⟨(exec (.loop j) e).1, (exec (.loop j) e).2.map .todo ++ rest⟩ := by
  obtain ⟨owned, here, below⟩ := home
  have notes {out : List (StreamTodo η)} (each : ∀ x ∈ out, ∃ n, x = .note n) :
      AtHome owner e.thread (out.map .todo ++ rest) := by
    refine below.append out fun x hx => ?_
    obtain ⟨n, rfl⟩ := each x hx
    exact ⟨trivial, rfl⟩
  cases j with
  | post job => exact ⟨(exec_post_owner e.loop job).trans owned, notes (notes_post e.loop job)⟩
  | dropRunner =>
    exact ⟨(exec_dropRunner_owner e.loop).trans owned, notes (notes_dropRunner e.loop)⟩
  | pass t' =>
    obtain ⟨at_owner, passes⟩ := here
    simp only [exec, TaskLoop.exec]
    split
    · exact ⟨passes, at_owner, below⟩
    · exact ⟨owned, below⟩
  | passNext ran =>
    have at_owner : e.thread = owner := here
    simp only [exec, TaskLoop.exec]
    split
    · exact ⟨owned, at_owner, at_owner, below⟩
    · split
      · exact ⟨owned, trivial, below⟩
      · exact ⟨owned, trivial, trivial, below⟩
  | poll t' w =>
    obtain ⟨at_owner, polls⟩ := here
    simp only [exec, TaskLoop.exec]
    split
    · rename_i bound _
      cases bound with
      | true => exact ⟨owned, at_owner, below⟩
      | false => exact ⟨polls, at_owner, below⟩
    · exact ⟨owned, below⟩
  | pollNext w =>
    have at_owner : e.thread = owner := here
    simp only [exec, TaskLoop.exec]
    split
    · exact ⟨owned, at_owner, at_owner, below⟩
    · split
      · exact ⟨owned, trivial, below⟩
      · exact ⟨owned, below⟩
  | serve =>
    simp only [exec, TaskLoop.exec]
    split <;> exact ⟨owned, below⟩
  | dropHandle =>
    simp only [exec, TaskLoop.exec, TaskLoop.wake]
    split
    · exact ⟨owned, notes (by simp [ofLoop])⟩
    · exact ⟨owned, below⟩
  | dropHandles =>
    simp only [exec, TaskLoop.exec, TaskLoop.wake]
    exact ⟨owned, notes (by simp [ofLoop])⟩
  | addHandle => exact ⟨owned, below⟩

lemma atHome_inner {i : StreamInstr η} {e : Endpoint η} (inner : isInner (.work i) = true)
    (no_dispatch : ∀ job, i ≠ .dispatch job) (owned : e.loop.owner = owner)
    (at_owner : e.thread = owner) (below : AtHome owner e.thread rest) :
    AtHomeNow owner ⟨(exec i e).1, (exec i e).2.map .todo ++ rest⟩ := by
  obtain ⟨same_loop, same_thread⟩ := exec_elsewhere e inner
  rw [AtHomeNow, same_loop, same_thread, at_owner]
  rw [at_owner] at below
  exact ⟨owned, below.append_inner (inner_exec e inner no_dispatch)⟩

lemma atHome_work {i : StreamInstr η} {e : Endpoint η}
    (home : AtHomeNow owner ⟨e, .todo (.work i) :: rest⟩) :
    AtHomeNow owner ⟨(exec i e).1, (exec i e).2.map .todo ++ rest⟩ := by
  have owned : e.loop.owner = owner := home.1
  have here : OnThread owner e.thread (.todo (.work i)) := home.2.1
  have below : AtHome owner (threadAfter e.thread (.todo (.work i))) rest := home.2.2
  cases i with
  | loop j => exact atHome_loop home
  | enter t' op =>
    have back : AtHome owner t' (.todo (.work (.leave e.thread)) :: rest) := ⟨trivial, below⟩
    simp only [exec, AtHomeNow, begin_loop, begin_thread, List.map_append, List.append_assoc]
    exact ⟨owned, back.append _ (begin_onThread (e := { e with thread := t' }) here)⟩
  | leave t' => exact ⟨owned, below⟩
  | dispatch job =>
    refine ⟨owned, ?_⟩
    simp only [exec]
    split
    · rename_i on_loop
      have at_owner : e.loop.owner = e.thread := by
        simpa [onLoop, TaskLoop.ownedBy] using on_loop
      exact ⟨at_owner.symm.trans owned, below⟩
    · rename_i off_loop
      refine ⟨fun announces => off_loop ?_, below⟩
      simp [onLoop, TaskLoop.ownedBy, owned, here announces]
  | bind id writable =>
    obtain ⟨same_loop, same_thread⟩ := exec_elsewhere (i := .bind id writable) e rfl
    rw [AtHomeNow, same_loop, same_thread]
    refine ⟨owned, ?_⟩
    simp only [exec, bind]
    split
    · exact below.append [trace (.alreadyAllocated _ id)] (by simp [trace, OnThread, threadAfter])
    · exact below.append [trace (.allocated id writable), .work (.dispatch .drain)]
        (by simp [trace, OnThread, threadAfter])
  | setRemote remoteOpen => exact ⟨owned, below⟩
  | _ => exact atHome_inner rfl (by simp) owned here below

lemma atHome_step {a : Deed η} (home : AtHomeNow owner m)
    (move : Machine.Move component (AskedAtHome owner) m a m') : AtHomeNow owner m' := by
  cases move using Machine.Move.elim with
  | work e i rest => exact atHome_work home
  | call e c rest =>
    obtain ⟨owned, here, below⟩ := home
    cases c with
    | conn p | hook k => exact ⟨owned, here, below⟩
  | note e s rest => exact ⟨home.1, home.2.2⟩
  | invoke m is asked =>
    cases asked with
    | asked asked =>
      cases asked with
      | operation t op may => exact ⟨home.1, may, home.2⟩
      | setRemote remoteOpen => exact ⟨home.1, trivial, home.2⟩
    | poll w at_work => exact ⟨home.1, ⟨at_work, rfl⟩, home.2⟩
    | handling j plain =>
      cases j with
      | serve | addHandle | dropHandle | dropHandles => exact ⟨home.1, trivial, home.2⟩
      | _ => cases plain
  | reply e c rest f =>
    obtain ⟨owned, here, below⟩ := home
    cases c with
    | conn p => cases p <;> first | exact ⟨owned, below⟩ | exact ⟨owned, trivial, below⟩
    | hook k =>
      cases k with
      | data bytes | fin trailers => exact ⟨owned, here, below⟩
      | _ => exact ⟨owned, below⟩

/-- While one thread drives the loop, all that is left to do is done on its own thread. -/
theorem atHome_of_driven (run : RunsAtHome o owner h m) : AtHomeNow owner m := by
  induction run with
  | start => exact ⟨rfl, trivial⟩
  | step _ move ih => exact atHome_step ih move

theorem atHome_of_runs (run : RunsAnyhow (DrivenBy owner) o owner h m) : AtHomeNow owner m :=
  atHome_of_driven (run.mono fun _ _ asked => .asked asked)

end StreamControl.Endpoint
