import StreamControl.Proofs.TerminalSignals

/-!
# Resets that come too late

A stream that has ended cannot be reset any more, neither on the wire nor by itself: the job finds
the end on record and is over. There is one gap. A stream that was closed before it was allocated is
still reset, once. It forgets what it has buffered, tells the layer above, and from then on fails
immediate writes with another error than before.
-/

namespace StreamControl.Endpoint

variable {η : Type} {allowed : Thread → Operation η → Prop} {o : Options} {owner : Thread}
  {h : Past η} {m m' : Live η} {rest : Agenda η} {i : StreamInstr η} {e : Endpoint η}
  {job : Job η} {code : Nat}

/-! ## What a component does without a call -/

/-- Without a call, and without settling a promise, a machine becomes another one by itself. -/
def Silently (m m' : Live η) : Prop :=
  ∃ signals, Machine.Alone component m signals m' ∧
    ∀ x ∈ signals, x = .silent ∨ ∃ t, x = .noted (.trace t)

namespace Silently

lemma stop : Silently m m := ⟨[], .stop, nofun⟩

lemma work (later : Silently ⟨(exec i e).1, (exec i e).2.map .todo ++ rest⟩ m') :
    Silently ⟨e, .todo (.work i) :: rest⟩ m' := by
  obtain ⟨signals, alone, traces⟩ := later
  refine ⟨.silent :: signals, .next rfl alone, ?_⟩
  rw [List.forall_mem_cons]
  exact ⟨.inl rfl, traces⟩

lemma trace {t : Trace} (later : Silently ⟨e, rest⟩ m') :
    Silently ⟨e, .todo (trace t) :: rest⟩ m' := by
  obtain ⟨signals, alone, traces⟩ := later
  refine ⟨.noted (.trace t) :: signals, .next rfl alone, ?_⟩
  rw [List.forall_mem_cons]
  exact ⟨.inr ⟨t, rfl⟩, traces⟩

/-- A reset is not taken back. -/
lemma resetCode (silently : Silently m m') (known : m.state.stream.resetCode = some code) :
    m'.state.stream.resetCode = some code := by
  obtain ⟨signals, alone, -⟩ := silently
  induction alone with
  | stop => exact known
  | @next m m₁ m' signal signals first _ ih =>
    apply ih
    rcases m with ⟨e, _ | ⟨t | c, rest⟩⟩
    · cases first
    · cases t with
      | work i =>
        cases first
        exact exec_resetCode known
      | call c | note n =>
        cases first
        exact known
    · cases first

end Silently

/-! ## The outbox of a stream that was closed -/

/-- The outbox is closed because the stream is. -/
def isShutting : Entry (StreamInstr η) (StreamCall η) StreamNote → Bool
  | .todo (.work (.outbox (.close .closed))) => true
  | _ => false

lemma isShutting_iff {x : Entry (StreamInstr η) (StreamCall η) StreamNote} :
    isShutting x = true ↔ x = .todo (.work (.outbox (.close .closed))) := by
  unfold isShutting
  split <;> simp_all

lemma none_shutting_of_closings {agenda : Agenda η} (none_closed : Fault.closed ∉ closings agenda) :
    agenda.any isShutting = false := by
  rw [List.any_eq_false]
  intro x hx shutting
  rw [isShutting_iff] at shutting
  subst shutting
  exact none_closed (List.mem_flatMap.mpr ⟨_, hx, List.mem_singleton_self _⟩)

lemma direct_shutting (i : StreamInstr η) (e : Endpoint η) :
    Direct isShutting isHarmless (exec i e).2 := by
  by_cases performs : ∃ job, i = .perform job
  · obtain ⟨job, rfl⟩ := performs
    cases job with
    | close =>
      simp only [exec, perform]
      split
      · trivial
      · exact direct_cons rfl
    | exception cause => exact ⟨fun _ => rfl, direct_cons rfl⟩
    | reset code | writeReset code =>
      apply direct_of_none
      simp only [exec, perform, reset]
      (repeat' split) <;> rfl
    | _ =>
      apply direct_of_none
      apply none_shutting_of_closings
      rw [exec, perform_closings _ _ rfl]
      exact List.not_mem_nil
  · apply direct_of_none
    apply none_shutting_of_closings
    rw [exec_closings fun job same => performs ⟨job, same⟩]
    exact List.not_mem_nil

/-- Before the outbox of a stream that is closed there is only what is harmless, and work of other
threads that came in between. -/
def shutShield : Cover η :=
  { (shield : Cover η) with
    kept := isShutting
    kept_held := fun _ => rfl
    direct_exec := direct_shutting
    direct_resume := fun k r => direct_of_none (by cases k <;> rfl) }

/-- A closed stream has its outbox closed, or this is done before anything else on the loop. -/
def Shut (m : Live η) : Prop :=
  m.state.stream.closed = true →
    m.state.stream.outbox.closed ≠ none ∨ m.agenda.any isShutting = true

lemma closed_of_perform (closed : (e.perform job).1.stream.closed = true) :
    e.stream.closed = true ∨ job = .close := by
  have alters := alters_perform e job
  generalize (e.perform job).1 = e' at *
  cases alters with
  | closes => exact .inr rfl
  | _ => exact .inl closed

lemma Shut.work (shut : Shut ⟨e, .todo (.work i) :: rest⟩)
    (covered : CoveredNow shutShield ⟨e, .todo (.work i) :: rest⟩) :
    Shut ⟨(exec i e).1, (exec i e).2.map .todo ++ rest⟩ := by
  intro closed
  cases i with
  | perform job =>
    have same : (exec (.perform job) e).1.stream.outbox = e.stream.outbox := perform_outbox e job
    have none_below : rest.any isShutting = false := none_kept_below covered rfl id
    by_cases before : e.stream.closed = true
    · have done := shut before
      rw [List.any_cons, none_below] at done
      left
      rw [same]
      exact done.resolve_right Bool.false_ne_true
    · right
      obtain rfl := (closed_of_perform closed).resolve_left before
      simp [exec, perform, before, isShutting]
  | outbox j =>
    have effect := Outbox.exec_effect j e.stream.outbox
    by_cases shuts : ∃ cause, j = .close cause
    · obtain ⟨cause, rfl⟩ := shuts
      left
      rw [show (exec (.outbox (.close cause)) e).1.stream.outbox.closed = _ from
        effect.closed_eq_or]
      cases e.stream.outbox.closed <;> exact Option.some_ne_none _
    · have none_first :
          isShutting (.todo (.work (.outbox j)) : Entry (StreamInstr η) _ _) = false := by
        rw [Bool.eq_false_iff]
        intro shutting
        cases isShutting_iff.mp shutting
        exact shuts ⟨.closed, rfl⟩
      rcases shut closed with known | due
      · obtain ⟨cause, known⟩ := Option.ne_none_iff_exists'.mp known
        left
        exact Option.ne_none_iff_exists'.mpr ⟨cause, effect.stays_closed known⟩
      · right
        rw [List.any_cons, none_first, Bool.false_or] at due
        rw [List.any_append, due, Bool.or_true]
  | _ =>
    rw [(exec_flags (by simp)).2] at closed
    rw [exec_outbox (by simp), List.any_append, Bool.or_eq_true]
    apply (shut closed).imp_right
    exact .inr

theorem shut_of_runs (run : RunsFreely allowed o owner h m) : Shut m := by
  induction run with
  | start => exact fun closed => absurd closed Bool.false_ne_true
  | step run move ih =>
    cases move using Machine.Move.elim with
    | work e i rest =>
      exact ih.work (covered_of_runs shutShield (run.mono fun _ _ called => called.whenFree))
    | call e c rest | note e s rest => exact ih
    | invoke m is called => cases called <;> exact ih
    | reply e c rest f =>
      intro closed
      rw [List.any_append, Bool.or_eq_true]
      exact (ih closed).imp_right .inr

/-! ## A reset of a stream that has ended -/

/-- What a job makes of a stream that has ended and is then reset from this end. -/
structure LateReset (code : Nat) (m : Live η) (rest : Agenda η) : Prop where
  /-- Nothing at all happens if the stream is allocated or was reset, and only then. -/
  idle_iff : Silently m ⟨m.state, rest⟩ ↔
    m.state.stream.slot.isAllocated = true ∨ m.state.stream.resetCode.isSome = true
  /-- Else the reset is recorded, the inbox is cleared and the layer above is told; the outbox stays
  as it is. -/
  resets : m.state.stream.slot.isAllocated = false → m.state.stream.resetCode = none →
    Silently m
      ⟨m.state.modify fun s => { s with resetCode := some code, inbox := s.inbox.clear.1 },
        .todo (.call (.hook (.reset code))) :: rest⟩

lemma silently_of_known (ended : e.stream.hasEnded = true)
    (known : e.stream.slot.isAllocated = true ∨ e.stream.resetCode.isSome = true) :
    Silently ⟨e, .todo (.work (.perform (.writeReset code))) :: rest⟩ ⟨e, rest⟩ := by
  apply Silently.work
  cases slot : e.stream.slot with
  | allocated id =>
    simp only [exec, perform, slot, ended, if_true]
    exact .stop
  | unallocated =>
    have was_reset : e.stream.resetCode.isSome = true := by
      rw [slot] at known
      exact known.resolve_left Bool.false_ne_true
    simp only [exec, perform, slot, reset, was_reset, if_true]
    exact .trace .stop

/-- A reset that is recorded is not undone. -/
lemma known_of_silently
    (silently : Silently ⟨e, .todo (.work (.perform (.writeReset code))) :: rest⟩ ⟨e, rest⟩) :
    e.stream.slot.isAllocated = true ∨ e.stream.resetCode.isSome = true := by
  by_contra unknown
  rw [not_or, Bool.not_eq_true, Bool.not_eq_true, Option.isSome_eq_false_iff,
    Option.isNone_iff_eq_none] at unknown
  obtain ⟨unallocated, unreset⟩ := unknown
  obtain ⟨signals, alone, traces⟩ := silently
  generalize hm : (⟨e, rest⟩ : Live η) = m' at alone
  cases alone with
  | stop => exact absurd (congrArg (List.length ∘ Machine.agenda) hm) (by simp)
  | next first later =>
    subst hm
    cases first
    have recorded : (exec (.perform (.writeReset code)) e).1.stream.resetCode = some code := by
      cases slot : e.stream.slot with
      | allocated id =>
        rw [slot] at unallocated
        cases unallocated
      | unallocated => simp [exec, perform, slot, reset, unreset, modify]
    have kept := Silently.resetCode
      ⟨_, later, fun x hx => traces x (List.mem_cons_of_mem _ hx)⟩ recorded
    rw [unreset] at kept
    cases kept

lemma silently_of_closed (unallocated : e.stream.slot.isAllocated = false)
    (unreset : e.stream.resetCode = none) (shut : e.stream.outbox.closed ≠ none) :
    Silently ⟨e, .todo (.work (.perform (.writeReset code))) :: rest⟩
      ⟨e.modify fun s => { s with resetCode := some code, inbox := s.inbox.clear.1 },
        .todo (.call (.hook (.reset code))) :: rest⟩ := by
  have slot : e.stream.slot = .unallocated := by
    cases slot : e.stream.slot with
    | unallocated => rfl
    | allocated id =>
      rw [slot] at unallocated
      cases unallocated
  have is_closed : e.stream.outbox.isClosed = true := Option.isSome_iff_ne_none.mpr shut
  apply Silently.work
  simp only [exec, perform, slot, reset, unreset, Option.isSome_none, Bool.false_eq_true, if_false]
  apply Silently.trace
  apply Silently.work
  simp only [exec, modify, Outbox.exec, is_closed, if_true]
  exact .trace .stop

/-- Whatever hooks and primitives call back, and whatever other threads call: by the time that a
stream which has ended is reset from this end, nothing happens any more, unless the stream was
closed before it was allocated and has not been reset. Then it is reset. -/
theorem lateReset_of_runs (run : RunsFreely allowed o owner h m)
    (head : m.agenda = .todo (.work (.perform (.writeReset code))) :: rest)
    (ended : m.state.stream.hasEnded = true) : LateReset code m rest := by
  rcases m with ⟨e, agenda⟩
  subst head
  have gap (unallocated : e.stream.slot.isAllocated = false)
      (unreset : e.stream.resetCode = none) :
      Silently ⟨e, .todo (.work (.perform (.writeReset code))) :: rest⟩
        ⟨e.modify fun s => { s with resetCode := some code, inbox := s.inbox.clear.1 },
          .todo (.call (.hook (.reset code))) :: rest⟩ := by
    apply silently_of_closed unallocated unreset
    have closed : e.stream.closed = true := by simpa [Stream.hasEnded, unreset] using ended
    have none_below : rest.any isShutting = false :=
      none_kept_below (covered_of_runs shutShield (run.mono fun _ _ called => called.whenFree))
        rfl id
    apply (shut_of_runs run closed).resolve_right
    rw [List.any_cons, none_below]
    exact Bool.false_ne_true
  exact ⟨⟨known_of_silently, silently_of_known ended⟩, gap⟩

/-- A paused stream with an item in its inbox is closed before it was allocated, and is about to be
reset. -/
def closedAndReset : Past Nat × Live Nat :=
  Machine.drive component 24
    [.ask [.enter 0 (.data ⟨#[7]⟩)], .reply (plainly true .success), .ask [.enter 0 .close],
      .reply (plainly true .success), .reply (plainly true .success),
      .ask [.enter 0 (.writeReset 8)]]
    (.idle (fresh (.withStartPaused .standard true) 0))

lemma closedAndReset_runs :
    RunsFreely (fun _ _ => True) (.withStartPaused .standard true) 0 closedAndReset.1
      closedAndReset.2 :=
  Machine.drive_run (fun _ _ => called_of_isCalled
    fun t op (_ : (fun _ _ => true : Thread → Operation Nat → Bool) t op = true) => trivial)
    _ _ _ rfl

theorem lateReset_closedAndReset :
    RunsFreely (fun _ _ => True) (.withStartPaused .standard true) 0 closedAndReset.1
        closedAndReset.2 ∧
      closedAndReset.2.agenda.head? = some (.todo (.work (.perform (.writeReset 8)))) ∧
      closedAndReset.2.state.stream.hasEnded = true ∧
      closedAndReset.2.state.stream.inbox.pending.length = 1 ∧
      LateReset 8 closedAndReset.2 closedAndReset.2.agenda.tail :=
  ⟨closedAndReset_runs, rfl, rfl, rfl, lateReset_of_runs closedAndReset_runs rfl rfl⟩

/-- A stream that was closed before it was allocated is reset all the same: the layer above is told,
the buffered item is gone, and immediate writes fail with another error than before. -/
theorem not_idle_of_ended :
    ¬ (∀ (h : Past Nat) (m : Live Nat) (code : Nat) (rest : Agenda Nat),
      RunsFreely (fun _ _ => True) (.withStartPaused .standard true) 0 h m →
      m.agenda = .todo (.work (.perform (.writeReset code))) :: rest →
      m.state.stream.hasEnded = true → Silently m ⟨m.state, rest⟩) ∧
    closedAndReset.2.state.stream.endCause? = some .closed ∧
    closedAndReset.2.state.stream.inbox.pending.length = 1 ∧
    ∃ m', Silently closedAndReset.2 m' ∧
      m'.agenda.head? = some (.todo (.call (.hook (.reset 8)))) ∧
      m'.state.stream.endCause? = some (.reset 8) ∧
      m'.state.stream.inbox.pending.length = 0 := by
  refine ⟨fun all => ?_, rfl, rfl, _, silently_of_closed rfl rfl nofun, rfl, rfl, rfl⟩
  have idle := all _ _ 8 _ closedAndReset_runs rfl rfl
  rcases known_of_silently idle with allocated | was_reset
  · cases allocated
  · cases was_reset

end StreamControl.Endpoint
