import StreamControl.Proofs.OutboundOrder

/-!
# No write is left stuck

The outbox of a stream stops when its gate refuses a write, and it goes on when it is drained. The
gate is closed while the stream is not allocated or may not send, so every change that opens it is
followed by a drain: at once, or by a job that is posted. A drain that comes while the gate looks
at a write does nothing, but then this write is not refused any more.
-/

namespace StreamControl.Endpoint

variable {η : Type} {allowed : Thread → Operation η → Prop} {o : Options} {owner : Thread}
  {h : Past η} {m m' : Live η} {rest : Agenda η} {a : Deed η} {i : StreamInstr η} {e : Endpoint η}

/-- The gate lets writes pass. -/
structure MayPass (s : Stream η) : Prop where
  opened : s.outbox.closed = none
  allocated : s.slot ≠ .unallocated
  writable : s.writable = true

def isRefused : Entry (StreamInstr η) (StreamCall η) StreamNote → Bool
  | .todo (.work (.outbox (.refused _))) => true
  | _ => false

/-- The outbox is about to be drained, or a write that the gate looks at is about to pass. -/
def isRetry : Entry (StreamInstr η) (StreamCall η) StreamNote → Bool
  | .todo (.work (.dispatch .drain)) | .todo (.work (.loop (.post .drain))) => true
  | .todo (.work (.perform .drain)) | .todo (.work (.outbox .drain)) => true
  | .todo (.work (.attempt _)) | .todo (.work (.outbox .accepted)) => true
  | _ => false

/-- A write waits in the outbox, or is about to be put back there. -/
def Waiting (m : Live η) : Prop :=
  m.state.stream.outbox.pending ≠ [] ∨ m.agenda.any isRefused = true

def RetryDue (m : Live η) : Prop :=
  m.agenda.any isRetry = true ∨ .drain ∈ m.state.loop.pending

/-- While the gate lets writes pass, none waits without a retry. -/
def Progressing (m : Live η) : Prop := MayPass m.state.stream → Waiting m → RetryDue m

/-! ## What each instruction changes -/

/-- A job for the loop stays posted until it is done. -/
lemma exec_posted {job : Job η} (served : Served ⟨e, .todo (.work i) :: rest⟩)
    (posted : job ∈ e.loop.pending) :
    .work (.perform job) ∈ (exec i e).2 ∨ job ∈ (exec i e).1.loop.pending := by
  cases i with
  | enter t op =>
    have same : (exec (.enter t op) e).1.loop = e.loop := begin_loop _ op
    rw [same]
    exact .inr posted
  | leave t => exact .inr posted
  | loop j =>
    have passing := served.passing
    generalize (exec (.loop j) e).1.loop.pending = pending' at *
    generalize (exec (.loop j) e).2 = out at *
    generalize e.loop.pending = before at *
    cases passing with
    | posts job' => exact .inr (List.mem_append_left _ posted)
    | begins t | busy t => exact .inr posted
    | runs ran job' =>
      rcases List.mem_cons.mp posted with rfl | later
      · exact .inl List.mem_cons_self
      · exact .inr later
    | ends ran => cases posted
  | _ =>
    rw [(exec_elsewhere e rfl).1]
    exact .inr posted

lemma RetryDue.left {x : StreamTodo η} (left : x ∈ (exec i e).2) (retries : isRetry (.todo x)) :
    RetryDue ⟨(exec i e).1, (exec i e).2.map .todo ++ rest⟩ := by
  refine .inl ?_
  rw [List.any_append, Bool.or_eq_true, List.any_eq_true]
  exact .inl ⟨_, List.mem_map_of_mem left, retries⟩

/-- A retry that is due stays due until it is made. -/
lemma RetryDue.below (served : Served ⟨e, .todo (.work i) :: rest⟩)
    (due : RetryDue ⟨e, .todo (.work i) :: rest⟩) (other : isRetry (.todo (.work i)) = false) :
    RetryDue ⟨(exec i e).1, (exec i e).2.map .todo ++ rest⟩ := by
  rcases due with due | posted
  · rw [List.any_cons, other, Bool.false_or] at due
    refine .inl ?_
    rw [List.any_append, due, Bool.or_true]
  · rcases exec_posted served posted with left | still_posted
    · exact .left left rfl
    · exact .inr still_posted

/-- Only what the gate looks at is refused. -/
lemma refused_exec (no_attempt : ∀ w, i ≠ .attempt w) :
    ((exec i e).2.map .todo).any isRefused = false := by
  refine any_exec fun x leaves => ?_
  cases leaves with
  | refuses w w' => exact absurd rfl (no_attempt w)
  | @outbox job j no_verdict =>
    cases j with
    | refused w => cases no_verdict
    | _ => rfl
  | _ => rfl

/-- Where work is at the gate, a write is about to pass or is refused. -/
lemma retry_or_refused {agenda : Agenda η} (busy : gateWork agenda ≠ 0) :
    agenda.any isRetry = true ∨ agenda.any isRefused = true := by
  rw [gateWork, ne_eq, List.countP_eq_zero] at busy
  push Not at busy
  obtain ⟨x, hx, works⟩ := busy
  unfold isGateWork at works
  split at works
  · exact .inl (List.any_eq_true.mpr ⟨_, hx, rfl⟩)
  · exact .inl (List.any_eq_true.mpr ⟨_, hx, rfl⟩)
  · exact .inr (List.any_eq_true.mpr ⟨_, hx, rfl⟩)
  · cases works

/-! ## Every retry leads on -/

lemma attempt_passes {w : Write η} (passes : MayPass e.stream) :
    .work (.outbox .accepted) ∈ (exec (.attempt w) e).2 := by
  cases slot : e.stream.slot with
  | unallocated => exact absurd slot passes.allocated
  | allocated id =>
    cases w with
    | headers block fin flush p => simp [exec, attempt, slot, passes.writable]
    | data chunk fin p => simp [exec, attempt, slot, passes.writable]

lemma dispatch_retries :
    ∃ x ∈ (exec (.dispatch .drain) e).2, isRetry (.todo x : Entry (StreamInstr η) _ _) = true := by
  simp only [exec]
  split <;> exact ⟨_, List.mem_singleton.mpr rfl, rfl⟩

/-- The outbox keeps a write that it has submitted to nobody, only if it kept one before, or if a
write is at the gate, or if it was halted though it kept none. -/
lemma keeps_of_effect {μ : Type} {j : Outbox.Instr μ} {q q' : Outbox μ}
    {out : List (Todo (Outbox.Instr μ) (Outbox.Call μ) Outbox.Note)}
    (effect : Outbox.Effect j q q' out) (opened : q'.closed = none) (keeps : q'.pending ≠ []) :
    (.work .drain ∈ out ∨ ∃ w, .call (.test w) ∈ out) ∨ q.testing = true ∨
      (j ≠ .drain ∧ (q.pending ≠ [] ∨ ∃ w, j = .refused w)) ∨
      (q.halted = true ∧ q.pending = [] ∧ ∃ w, j = .submit w) := by
  cases effect with
  | late closed | dropped closed => exact absurd (closed.symm.trans opened) (Option.some_ne_none _)
  | shut closed => exact absurd opened closed
  | closes _ => cases opened
  | first | passed => exact .inl (.inl List.mem_cons_self)
  | tests => exact .inl (.inr ⟨_, List.mem_cons_self⟩)
  | drained _ _ empty _ | rests _ _ empty _ => exact absurd empty keeps
  | stays busy => exact .inr (.inl (busy.resolve_right (not_not_intro opened)))
  | reported => exact .inr (.inr (.inl ⟨nofun, .inl keeps⟩))
  | putBack _ => exact .inr (.inr (.inl ⟨nofun, .inr ⟨_, rfl⟩⟩))
  | queued _ waits =>
    rcases waits with testing | halted | pending
    · exact .inr (.inl testing)
    · by_cases empty : q.pending = []
      · exact .inr (.inr (.inr ⟨halted, empty, _, rfl⟩))
      · exact .inr (.inr (.inl ⟨nofun, .inl empty⟩))
    · exact .inr (.inr (.inl ⟨nofun, .inl pending⟩))

/-- A drain of the outbox finds no write refused: it is made on the loop. -/
lemma none_refused_below {x : Entry (StreamInstr η) (StreamCall η) StreamNote}
    (shielded : CoveredNow shield ⟨e, x :: rest⟩) (grave : isHarmless x = false)
    (near : ¬ Aside e.loop.owner e.thread x) : rest.any isRefused = false := by
  refine any_below shielded grave near fun y refused => ?_
  unfold isRefused at refused
  split at refused
  · rfl
  · cases refused

section AtOutbox

variable {j : Outbox.Instr (Write η)}

/-- While a write is at the gate, it is this one that is told of now, or one that passes. -/
lemma retry_below_of_testing (tended : Tended ⟨e, .todo (.work (.outbox j)) :: rest⟩)
    (none_refused : rest.any isRefused = false) (no_verdict : isVerdict j = false)
    (testing : e.stream.outbox.testing = true) : rest.any isRetry = true := by
  have one : Outbox.tests [.todo (.work j)] + gateWork rest = e.stream.outbox.testing.toNat :=
    (work_outbox j rest).1.symm.trans tended.one
  have not_this : Outbox.tests [.todo (.work j)] = 0 := by
    cases j with
    | accepted | refused w => cases no_verdict
    | _ => rfl
  have busy : gateWork rest ≠ 0 := by
    rw [testing, not_this, Nat.zero_add] at one
    rw [one]
    exact Nat.one_ne_zero
  refine (retry_or_refused busy).resolve_right fun refused => ?_
  rw [none_refused] at refused
  cases refused

/-- A halted outbox that is open and empty is just being drained. -/
lemma retry_below_of_halted {w : Write η}
    (tended : Tended ⟨e, .todo (.work (.outbox (.submit w))) :: rest⟩)
    (opened : e.stream.outbox.closed = none) (untested : e.stream.outbox.testing = false)
    (halted : e.stream.outbox.halted = true) (empty : e.stream.outbox.pending = []) :
    rest.any isRetry = true := by
  have idle : gateWork rest = 0 := by simpa [gateWork_cons, untested, isGateWork] using tended.one
  have underway : drainWork rest ≠ 0 := by
    intro none_underway
    refine (tended.attended opened ?_).mp halted empty
    rw [gateWork_cons, drainWork_cons, idle, none_underway]
    rfl
  rw [drainWork, ne_eq, List.countP_eq_zero] at underway
  push Not at underway
  obtain ⟨x, hx, drains⟩ := underway
  refine List.any_eq_true.mpr ⟨x, hx, ?_⟩
  unfold isDrainWork at drains
  split at drains
  · rfl
  · cases drains

lemma progressing_outbox (progressing : Progressing ⟨e, .todo (.work (.outbox j)) :: rest⟩)
    (served : Served ⟨e, .todo (.work (.outbox j)) :: rest⟩)
    (tended : Tended ⟨e, .todo (.work (.outbox j)) :: rest⟩)
    (shielded : CoveredNow shield ⟨e, .todo (.work (.outbox j)) :: rest⟩) :
    Progressing ⟨(exec (.outbox j) e).1, (exec (.outbox j) e).2.map .todo ++ rest⟩ := by
  intro passes waiting
  have effect := Outbox.exec_effect j e.stream.outbox
  have passes_before : MayPass e.stream :=
    ⟨effect.opened_before passes.opened, passes.allocated, passes.writable⟩
  have none_refused : rest.any isRefused = false := none_refused_below shielded rfl id
  have kept : (exec (.outbox j) e).1.stream.outbox.pending ≠ [] := by
    rcases waiting with kept | refused
    · exact kept
    · rw [List.any_append, refused_exec (by simp), none_refused] at refused
      cases refused
  have still (due : Waiting ⟨e, .todo (.work (.outbox j)) :: rest⟩)
      (other : isRetry (.todo (.work (.outbox j)) : Entry (StreamInstr η) _ _) = false) :
      RetryDue ⟨(exec (.outbox j) e).1, (exec (.outbox j) e).2.map .todo ++ rest⟩ :=
    (progressing passes_before due).below served other
  have below (due : rest.any isRetry = true) :
      RetryDue ⟨(exec (.outbox j) e).1, (exec (.outbox j) e).2.map .todo ++ rest⟩ :=
    .inl (by rw [List.any_append, due, Bool.or_true])
  rcases keeps_of_effect effect passes.opened kept with
    (drains | ⟨w, tests⟩) | testing | ⟨no_drain, waited⟩ | ⟨halted, empty, w, rfl⟩
  · have left : .work (.outbox .drain) ∈ (exec (.outbox j) e).2 :=
      List.mem_flatMap.mpr ⟨_, drains, List.mem_singleton.mpr rfl⟩
    exact .left left rfl
  · have left : .work (.attempt w) ∈ (exec (.outbox j) e).2 :=
      List.mem_flatMap.mpr ⟨_, tests, List.mem_singleton.mpr rfl⟩
    exact .left left rfl
  · cases j with
    | accepted => exact .left List.mem_cons_self rfl
    | refused w => exact still (.inr rfl) rfl
    | _ => exact below (retry_below_of_testing tended none_refused rfl testing)
  · cases j with
    | drain => exact absurd rfl no_drain
    | accepted => exact .left List.mem_cons_self rfl
    | refused w => exact still (.inr rfl) rfl
    | _ =>
      refine still (.inl (waited.resolve_right ?_)) rfl
      rintro ⟨w, same⟩
      cases same
  · cases testing : e.stream.outbox.testing with
    | true => exact below (retry_below_of_testing tended none_refused rfl testing)
    | false =>
      exact below (retry_below_of_halted tended passes_before.opened testing halted empty)

end AtOutbox

/-- Where neither the gate nor the outbox changes, a retry that is due stays due. -/
lemma progressing_other (progressing : Progressing ⟨e, .todo (.work i) :: rest⟩)
    (served : Served ⟨e, .todo (.work i) :: rest⟩)
    (no_retry : isRetry (.todo (.work i)) = false) (no_outbox : ∀ j, i ≠ .outbox j)
    (no_bind : isBinding (.own (.work i) : Deed η) = false)
    (no_toggle : isToggle (.own (.work i) : Deed η) = false) :
    Progressing ⟨(exec i e).1, (exec i e).2.map .todo ++ rest⟩ := by
  intro passes waiting
  have same : (exec i e).1.stream.outbox = e.stream.outbox := exec_outbox no_outbox
  obtain ⟨same_writable, same_slot⟩ := exec_writable (e := e) no_bind
  rw [no_toggle, Bool.xor_false] at same_writable
  have no_attempt : ∀ w, i ≠ .attempt w := by
    rintro w rfl
    cases no_retry
  have passes_before : MayPass e.stream :=
    ⟨same ▸ passes.opened, same_slot ▸ passes.allocated, same_writable ▸ passes.writable⟩
  refine (progressing passes_before (waiting.imp (fun kept => ?_) fun refused => ?_)).below served
    no_retry
  · rwa [same] at kept
  · rw [List.any_append, refused_exec no_attempt, Bool.false_or] at refused
    rw [List.any_cons, refused, Bool.or_true]

lemma progressing_attempt (w : Write η) :
    Progressing ⟨(exec (.attempt w) e).1, (exec (.attempt w) e).2.map .todo ++ rest⟩ := by
  intro passes _
  have same : (exec (.attempt w) e).1.stream.outbox = e.stream.outbox := exec_outbox (by simp)
  obtain ⟨same_writable, same_slot⟩ := exec_writable (i := .attempt w) (e := e) rfl
  have no_toggle : isToggle (.own (.work (.attempt w)) : Deed η) = false := rfl
  rw [no_toggle, Bool.xor_false] at same_writable
  exact .left (attempt_passes
    ⟨same ▸ passes.opened, same_slot ▸ passes.allocated, same_writable ▸ passes.writable⟩) rfl

lemma progressing_bind {id : Nat} {writable : Bool}
    (progressing : Progressing ⟨e, .todo (.work (.bind id writable)) :: rest⟩) :
    Progressing ⟨(exec (.bind id writable) e).1,
      (exec (.bind id writable) e).2.map .todo ++ rest⟩ := by
  intro passes waiting
  cases slot : e.stream.slot with
  | allocated id' =>
    have same : (exec (.bind id writable) e) = (e, [trace (.alreadyAllocated id' id)]) := by
      simp [exec, bind, slot]
    rw [same] at passes waiting ⊢
    exact progressing passes waiting
  | unallocated =>
    have left : .work (.dispatch .drain) ∈ (exec (.bind id writable) e).2 := by
      simp [exec, bind, slot]
    exact .left left rfl

lemma progressing_work (progressing : Progressing ⟨e, .todo (.work i) :: rest⟩)
    (served : Served ⟨e, .todo (.work i) :: rest⟩) (tended : Tended ⟨e, .todo (.work i) :: rest⟩)
    (shielded : CoveredNow shield ⟨e, .todo (.work i) :: rest⟩) :
    Progressing ⟨(exec i e).1, (exec i e).2.map .todo ++ rest⟩ := by
  -- Whatever opens the gate leaves a drain, and a drain moves on until the outbox makes it.
  cases i with
  | outbox j => exact progressing_outbox progressing served tended shielded
  | attempt w => exact progressing_attempt w
  | bind id writable => exact progressing_bind progressing
  | dispatch job =>
    cases job with
    | drain =>
      intro _ _
      obtain ⟨x, left, retries⟩ := dispatch_retries (e := e)
      exact .left left retries
    | _ => exact progressing_other progressing served rfl (by simp) rfl rfl
  | perform job =>
    cases job with
    | drain => exact fun _ _ => .left List.mem_cons_self rfl
    | toggleWritable =>
      intro passes _
      have writable : (!e.stream.writable) = true := passes.writable
      have left : .work (.outbox .drain) ∈ (exec (.perform .toggleWritable) e).2 := by
        simp [exec, perform, writable]
      exact .left left rfl
    | _ => exact progressing_other progressing served rfl (by simp) rfl rfl
  | loop j =>
    cases j with
    | post job =>
      cases job with
      | drain =>
        intro _ _
        have live : e.loop.isLive = true := served.live
        exact .inr (by simp [exec, TaskLoop.exec, live, TaskLoop.wake])
      | _ => exact progressing_other progressing served rfl (by simp) rfl rfl
    | _ => exact progressing_other progressing served rfl (by simp) rfl rfl
  | _ => exact progressing_other progressing served rfl (by simp) rfl rfl

lemma progressing_step (progressing : Progressing m) (served : Served m) (tended : Tended m)
    (shielded : CoveredNow shield m) (move : Machine.Move component (Called allowed) m a m') :
    Progressing m' := by
  cases move using Machine.Move.elim with
  | work e i rest => exact progressing_work progressing served tended shielded
  | call e c rest | note e s rest => exact progressing
  | invoke m is called => cases called <;> exact progressing
  | reply e c rest f =>
    cases c with
    | conn p => cases p <;> exact progressing
    | hook k => cases k <;> exact progressing

lemma progressing_of_runs (run : RunsFreely Kept o owner h m) : Progressing m := by
  induction run with
  | start => exact fun _ waiting => absurd (waiting.resolve_right Bool.false_ne_true) (by
      simp [Machine.idle, fresh, Stream.fresh, Outbox.fresh])
  | step run move ih =>
    have anyhow := anyhow_of_freely (fun _ _ may => may) run
    exact progressing_step ih (counted_of_runs anyhow).1 (tended_of_runs anyhow).1
      (shielded_of_runs run) move

/-- Whatever hooks and primitives call back and other threads call: when all calls have returned
and nothing is posted, an allocated and writable stream whose outbox is open has no write left in
it, and every write that was submitted has been handed to the connection. -/
theorem none_stuck_of_runs (run : RunsFreely Kept o owner h m) (rests : AtRest m)
    (allocated : m.state.stream.slot ≠ .unallocated) (writable : m.state.stream.writable = true)
    (opened : m.state.stream.outbox.closed = none) :
    m.state.stream.outbox.pending = [] ∧
      (PromisesApart h → (submitted h).Perm (waitingFrames h)) := by
  have empty : m.state.stream.outbox.pending = [] := by
    by_contra kept
    rcases progressing_of_runs run ⟨opened, allocated, writable⟩ (.inl kept) with due | posted
    · rw [rests.returned] at due
      cases due
    · rw [rests.none_posted] at posted
      cases posted
  refine ⟨empty, fun apart => ?_⟩
  have outbound := (sending_of_runs (fun _ _ may => may) run (tells_of_apart apart)).whole opened
  have all := accounted_of_runs queues_ofCalls (anyhow_of_freely (fun _ _ may => may) run)
  rw [rests.quiet.placed_eq, outbound, rests.returned, empty] at all
  simpa [submitted, waitingFrames, atGate, submitting] using all

/-- A write is posted before the stream is allocated. While it goes out, the primitive that counts
it turns the writability off and submits another write, and the one that sends it turns the
writability on again: the drain that this asks for finds the gate busy. -/
def toggledWhileSending : Past Nat × Live Nat :=
  Machine.drive component 120
    [.ask [.enter 1 (.writeData none false 1)], .ask [.enter 0 .runLoop],
      .ask [.enter 0 (.allocate 1)], .reply (plainly true .success),
      .ask [.enter 0 .toggleWritable], .ask [.enter 0 (.writeData none true 2)],
      .reply (plainly true .success), .ask [.enter 0 .toggleWritable],
      .reply (plainly true .success), .reply (plainly true .success),
      .reply (plainly true .success), .reply (plainly true .success),
      .reply (plainly true .success)]
    (.idle (fresh .standard 0))

theorem none_stuck_toggledWhileSending :
    RunsFreely Kept .standard 0 toggledWhileSending.1 toggledWhileSending.2 ∧
      AtRest toggledWhileSending.2 ∧ toggledWhileSending.2.state.stream.slot = .allocated 1 ∧
      toggledWhileSending.2.state.stream.writable = true ∧
      toggledWhileSending.2.state.stream.outbox.closed = none ∧
      toggledWhileSending.2.state.stream.outbox.pending = [] ∧
      (PromisesApart toggledWhileSending.1 →
        (submitted toggledWhileSending.1).Perm (waitingFrames toggledWhileSending.1)) ∧
      waitingFrames toggledWhileSending.1 =
        [.data (some .empty) false 1, .data (some .empty) true 2] := by
  have run : RunsFreely Kept .standard 0 toggledWhileSending.1 toggledWhileSending.2 :=
    Machine.drive_run (fun _ _ => called_of_isCalled kept_of_isKept) _ _ _ rfl
  obtain ⟨empty, all_sent⟩ := none_stuck_of_runs run ⟨rfl, rfl⟩ nofun rfl rfl
  exact ⟨run, ⟨rfl, rfl⟩, rfl, rfl, rfl, empty, all_sent, rfl⟩

end StreamControl.Endpoint
