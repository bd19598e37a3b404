import StreamControl.Proofs.Termination

/-!
# Why a write fails

Why a stream failed its writes is kept twice: by the outbox, for writes that wait, and by the
flags of the stream, for writes that are sent right away. The outbox keeps the error of the
first job that closed it, which may be an exception; the flags keep the code of the first reset
beside a close. Both name the first end of the stream, unless there was an exception before it, or
the stream was reset after it had been closed.
-/

namespace StreamControl.Endpoint

variable {η : Type} {all : Bool} {may : Live η → List (StreamInstr η) → Prop} {o : Options}
  {owner : Thread} {h : Past η} {m m' : Live η} {rest : Agenda η}

def causeOf : Deed η → Option Fault
  | .own (.work (.perform job)) => job.cause?
  | _ => none

def endOf (a : Deed η) : Option Fault := if ends a then causeOf a else none

def isException : Deed η → Bool
  | .own (.work (.perform (.exception _))) => true
  | _ => false

/-- The error of the first act that has the outbox closed. -/
def firstCause (h : Past η) : Option Fault := h.findSome? fun b => causeOf b.2

/-- The error of the first act that ended the stream. -/
def firstEnd (h : Past η) : Option Fault := h.findSome? fun b => endOf b.2

/-- The error that an act closes the outbox with. -/
def closingOf (b : Live η × Deed η) : Option Fault :=
  match b.2 with
  | .own (.work (.outbox (.close cause))) => some cause
  | _ => none

def firstClosing (h : Past η) : Option Fault := h.findSome? closingOf

/-- The code that an act resets a stream with, unless it was reset before. A reset that is to be
sent comes too late for an allocated stream that has ended. -/
def resetOf (b : Live η × Deed η) : Option Nat :=
  match b.2 with
  | .own (.work (.perform (.reset code))) => some code
  | .own (.work (.perform (.writeReset code))) =>
    if b.1.state.stream.slot.isAllocated && b.1.state.stream.hasEnded then none else some code
  | _ => none

def firstReset (h : Past η) : Option Nat := h.findSome? resetOf

/-- Why a stream fails writes that do not wait: the first reset goes before the first end. -/
def directCause (h : Past η) : Option Fault := ((firstReset h).map .reset).or (firstEnd h)

/-- An exception was reported before the stream ended. -/
def exceptionFirst (h : Past η) : Bool :=
  (h.takeWhile fun b => !ends b.2).any fun b => isException b.2

section Views

variable (b : Live η × Deed η)

lemma firstCause_snoc : firstCause (h ++ [b]) = (firstCause h).or (causeOf b.2) := by
  rw [firstCause, List.findSome?_append]
  simp [firstCause]

lemma firstEnd_snoc : firstEnd (h ++ [b]) = (firstEnd h).or (endOf b.2) := by
  rw [firstEnd, List.findSome?_append]
  simp [firstEnd]

end Views

lemma causeOf_of_ends {a : Deed η} (is_end : ends a = true) : ∃ cause, causeOf a = some cause := by
  unfold ends at is_end
  split at is_end
  · rename_i job
    cases job <;> first | exact ⟨_, rfl⟩ | cases is_end
  · cases is_end

lemma causeOf_eq_none {a : Deed η} (not_end : ends a = false)
    (no_exception : isException a = false) : causeOf a = none := by
  unfold causeOf
  split
  · rename_i job
    cases job with
    | reset code | writeReset code | close => cases not_end
    | exception cause => cases no_exception
    | _ => rfl
  · rfl

/-- Without an exception before it, the first end is also the first cause. -/
lemma firstCause_eq_firstEnd (none_before : exceptionFirst h = false) :
    firstCause h = firstEnd h := by
  induction h with
  | nil => rfl
  | cons b h ih =>
    rw [firstCause, firstEnd, List.findSome?_cons, List.findSome?_cons]
    by_cases is_end : ends b.2 = true
    · obtain ⟨cause, known⟩ := causeOf_of_ends is_end
      simp [endOf, is_end, known]
    · rw [Bool.not_eq_true] at is_end
      simp only [exceptionFirst, List.takeWhile_cons, is_end, Bool.not_false, if_true,
        List.any_cons, Bool.or_eq_false_iff] at none_before
      have same := ih none_before.2
      rw [firstCause, firstEnd] at same
      simp [endOf, is_end, causeOf_eq_none is_end none_before.1, same]

/-! ## What the outbox keeps -/

lemma exec_closingOf (i : StreamInstr η) (e : Endpoint η) (agenda : Agenda η) :
    (exec i e).1.stream.outbox.closed =
      e.stream.outbox.closed.or (closingOf (⟨e, agenda⟩, .own (.work i))) := by
  rcases exec_outbox_cases i e with ⟨j, rfl, effect⟩ | ⟨other, same⟩
  · cases j with
    | close cause => exact effect.closed_eq_or
    | _ => exact (effect.closed_eq (by simp)).trans Option.or_none.symm
  · cases i with
    | outbox j => exact absurd rfl (other j)
    | _ => exact (congrArg Outbox.closed same).trans Option.or_none.symm

/-- In every run the outbox keeps the error that it was first closed with. -/
lemma outboxClosed_eq (run : Machine.Run component may (.idle (fresh o owner)) h m) :
    m.state.stream.outbox.closed = firstClosing h := by
  refine run.recorded (fun e => e.stream.outbox.closed) closingOf rfl
    (fun e i rest => exec_closingOf i e _) (fun b outer => ?_)
  unfold closingOf
  split
  · exact absurd ‹_› (outer _)
  · rfl

/-- The outbox keeps the first cause, or is about to. -/
def CauseKept (h : Past η) (m : Live η) : Prop :=
  firstCause h = m.state.stream.outbox.closed.or (closings m.agenda).head?

lemma causeKept_work {i : StreamInstr η} {e : Endpoint η}
    (kept : CauseKept h ⟨e, .todo (.work i) :: rest⟩) (sealed : Sealed ⟨e, .todo (.work i) :: rest⟩)
    (guarded : GuardedNow all ⟨e, .todo (.work i) :: rest⟩) :
    CauseKept (h ++ [(⟨e, .todo (.work i) :: rest⟩, .own (.work i))])
      ⟨(exec i e).1, (exec i e).2.map .todo ++ rest⟩ := by
  unfold CauseKept at *
  rw [firstCause_snoc, closings_append]
  cases i with
  | perform job =>
    have none_below : closings rest = [] := closings_below guarded
    have same : (exec (.perform job) e).1.stream.outbox = e.stream.outbox := perform_outbox e job
    have before : firstCause h = e.stream.outbox.closed := by
      simpa [closing, none_below] using kept
    rw [before, same, none_below, List.append_nil]
    cases closed : e.stream.outbox.closed with
    | some cause => rfl
    | none =>
      rw [Option.none_or, Option.none_or]
      cases hc : job.cause? with
      | none =>
        have none_asked : closings ((exec (.perform job) e).2.map .todo) = [] :=
          perform_closings e job hc
        rw [none_asked]
        exact hc
      | some cause =>
        have asked : closings ((exec (.perform job) e).2.map .todo) = [cause] := by
          refine (perform_closes e job hc).resolve_right ?_
          rintro ⟨ended, _⟩
          exact sealed.closed_of_ended guarded ended closed
        rw [asked]
        exact hc
  | outbox j =>
    have effect := Outbox.exec_effect j e.stream.outbox
    rw [exec_closings (by simp), List.nil_append, show causeOf (.own (.work (.outbox j))) = none
      from rfl, Option.or_none, kept]
    by_cases shuts : ∃ cause, j = .close cause
    · obtain ⟨cause, rfl⟩ := shuts
      rw [show (exec (.outbox (.close cause)) e).1.stream.outbox.closed = _ from
        effect.closed_eq_or]
      simp only [closings_cons, closing, List.singleton_append, List.head?_cons]
      cases e.stream.outbox.closed <;> rfl
    · rw [show (exec (.outbox j) e).1.stream.outbox.closed = _ from
        effect.closed_eq fun cause same => shuts ⟨cause, same⟩]
      cases j with
      | close cause => exact absurd ⟨cause, rfl⟩ shuts
      | _ => rfl
  | _ =>
    rw [exec_outbox (by simp), exec_closings (by simp), List.nil_append]
    simpa [closing, causeOf] using kept

lemma causeKept_step {a : Deed η} (kept : CauseKept h m) (sealed : Sealed m)
    (guarded : GuardedNow all m) (move : Machine.Move component (Request all) m a m') :
    CauseKept (h ++ [(m, a)]) m' := by
  cases move using Machine.Move.elim with
  | work e i rest => exact causeKept_work kept sealed guarded
  | call e c rest | note e s rest => simpa [CauseKept, firstCause_snoc, causeOf, closing] using kept
  | invoke m is asked =>
    cases asked <;>
      simpa [CauseKept, firstCause_snoc, causeOf, closing, Machine.invoke] using kept
  | reply e c rest f =>
    simpa [CauseKept, firstCause_snoc, causeOf, closing, closings_resume] using kept

/-! ## What the flags keep -/

lemma exec_resetOf (i : StreamInstr η) (e : Endpoint η) (agenda : Agenda η) :
    (exec i e).1.stream.resetCode =
      e.stream.resetCode.or (resetOf (⟨e, agenda⟩, .own (.work i))) := by
  by_cases performs : ∃ job, i = .perform job
  · obtain ⟨job, rfl⟩ := performs
    cases job with
    | reset code =>
      simp only [exec, perform, reset, resetOf]
      cases known : e.stream.resetCode <;> simp [modify, known]
    | writeReset code =>
      simp only [exec, perform, reset, resetOf]
      cases slot : e.stream.slot with
      | unallocated =>
        cases known : e.stream.resetCode <;> simp [modify, known, Slot.isAllocated]
      | allocated id =>
        cases ended : e.stream.hasEnded with
        | false =>
          rw [Stream.hasEnded, Bool.or_eq_false_iff, Option.isSome_eq_false_iff,
            Option.isNone_iff_eq_none] at ended
          simp [modify, ended.1]
        | true => simp [Slot.isAllocated]
    | close =>
      rw [show resetOf (⟨e, agenda⟩, .own (.work (.perform .close))) = none from rfl,
        Option.or_none]
      simp only [exec, perform]
      split <;> rfl
    | _ => exact (perform_other e _ rfl).1.trans Option.or_none.symm
  · have no_reset : resetOf (⟨e, agenda⟩, .own (.work i)) = none := by
      cases i with
      | perform job => exact absurd ⟨job, rfl⟩ performs
      | _ => rfl
    rw [(exec_flags fun job same => performs ⟨job, same⟩).1, no_reset, Option.or_none]

/-- In every run a stream keeps the code of its first reset. -/
lemma resetCode_eq (run : Machine.Run component may (.idle (fresh o owner)) h m) :
    m.state.stream.resetCode = firstReset h := by
  refine run.recorded (fun e => e.stream.resetCode) resetOf rfl (fun e i rest => exec_resetOf i e _)
    (fun b outer => ?_)
  unfold resetOf
  split
  · exact absurd ‹_› (outer _)
  · exact absurd ‹_› (outer _)
  · rfl

/-- The flags of a stream keep the first end, which a reset after a close hides. -/
def EndKept (h : Past η) (s : Stream η) : Prop :=
  (firstEnd h = none → s.hasEnded = false) ∧ ∀ cause, firstEnd h = some cause →
    (∃ code, cause = .reset code ∧ s.resetCode = some code) ∨ (cause = .closed ∧ s.closed = true)

lemma endOf_perform (job : Job η) :
    endOf (.own (.work (.perform job)) : Deed η) = if job.isEnd then job.cause? else none := rfl

lemma flags_of_endCause? {s : Stream η} {cause : Fault} (shown : s.endCause? = some cause) :
    (∃ code, cause = .reset code ∧ s.resetCode = some code) ∨
      (cause = .closed ∧ s.closed = true) := by
  unfold Stream.endCause? at shown
  split at shown
  · rename_i code known
    exact .inl ⟨code, (Option.some.inj shown).symm, known⟩
  · split at shown
    · rename_i closed
      exact .inr ⟨(Option.some.inj shown).symm, closed⟩
    · cases shown

/-- A first end by a reset is the first reset. -/
lemma EndKept.directCause_eq {s : Stream η} {cause : Fault} (kept : EndKept h s)
    (recorded : s.resetCode = firstReset h) (first : firstEnd h = some cause)
    (unhidden : cause = .closed → firstReset h = none) : directCause h = some cause := by
  rw [directCause, first]
  rcases kept.2 cause first with ⟨code, rfl, known⟩ | ⟨rfl, -⟩
  · rw [← recorded, known]
    rfl
  · rw [unhidden rfl]
    rfl

/-- What a stream shows of its end is the first reset, or else the first end. -/
lemma EndKept.endCause?_eq {s : Stream η} (kept : EndKept h s)
    (recorded : s.resetCode = firstReset h) : s.endCause? = directCause h := by
  rw [Stream.endCause?, directCause, recorded]
  cases reset : firstReset h with
  | some code => rfl
  | none =>
    rw [reset] at recorded
    change (if s.closed then some Fault.closed else none) = firstEnd h
    cases first : firstEnd h with
    | none =>
      have ongoing := kept.1 first
      rw [Stream.hasEnded, Bool.or_eq_false_iff] at ongoing
      exact if_neg (by simp [ongoing.2])
    | some cause =>
      rcases kept.2 cause first with ⟨code, -, known⟩ | ⟨rfl, closed⟩
      · rw [recorded] at known
        cases known
      · exact if_pos closed

lemma EndKept.flags {s s' : Stream η} {b : Live η × Deed η} (kept : EndKept h s)
    (no_end : endOf b.2 = none) (same_code : s'.resetCode = s.resetCode)
    (same_closed : s'.closed = s.closed) : EndKept (h ++ [b]) s' := by
  rw [EndKept, firstEnd_snoc, no_end, Option.or_none, Stream.hasEnded, same_code, same_closed]
  exact kept

lemma endKept_perform {job : Job η} {e : Endpoint η} {m : Live η} (kept : EndKept h e.stream) :
    EndKept (h ++ [(m, .own (.work (.perform job)))]) (e.perform job).1.stream := by
  obtain ⟨ongoing, ended⟩ := kept
  by_cases is_end : job.isEnd = true
  · cases known : firstEnd h with
    | some cause =>
      refine ⟨fun unknown => ?_, fun cause' same => ?_⟩
      · rw [firstEnd_snoc, known] at unknown
        cases unknown
      · rw [firstEnd_snoc, known] at same
        obtain rfl := Option.some.inj same
        rcases ended cause known with ⟨code, rfl, code_known⟩ | ⟨rfl, closed_known⟩
        · exact .inl ⟨code, rfl, perform_resetCode e job code_known⟩
        · exact .inr ⟨rfl, perform_closed e job closed_known⟩
    | none =>
      have ends_here : ends (.own (.work (.perform job)) : Deed η) = true := is_end
      obtain ⟨cause, named⟩ := causeOf_of_ends ends_here
      have first : firstEnd (h ++ [(m, .own (.work (.perform job)))]) = some cause := by
        rw [firstEnd_snoc, known, Option.none_or, endOf_perform, is_end, if_pos rfl]
        exact named
      have shown := (perform_first e job is_end (ongoing known)).1
      rw [show job.cause? = some cause from named] at shown
      refine ⟨fun unknown => ?_, fun cause' same => ?_⟩
      · rw [first] at unknown
        cases unknown
      · obtain rfl := Option.some.inj (first.symm.trans same)
        exact flags_of_endCause? shown
  · rw [Bool.not_eq_true] at is_end
    obtain ⟨same_code, same_closed⟩ := perform_other e job is_end
    exact EndKept.flags ⟨ongoing, ended⟩ (by rw [endOf_perform, is_end]; rfl) same_code same_closed

lemma endKept_step {a : Deed η} (kept : EndKept h m.state.stream)
    (move : Machine.Move component may m a m') :
    EndKept (h ++ [(m, a)]) m'.state.stream := by
  cases move using Machine.Move.elim with
  | work e i rest =>
    by_cases performs : ∃ job, i = .perform job
    · obtain ⟨job, rfl⟩ := performs
      exact endKept_perform kept
    · have other : ∀ job, i ≠ .perform job := fun job same => performs ⟨job, same⟩
      obtain ⟨same_code, same_closed⟩ := exec_flags (e := e) other
      refine kept.flags ?_ same_code same_closed
      cases i with
      | perform job => exact absurd rfl (other job)
      | _ => rfl
  | call e c rest | note e s rest => exact kept.flags rfl rfl rfl
  | invoke m is asked => exact kept.flags rfl rfl rfl
  | reply e c rest f => exact kept.flags rfl rfl rfl

lemma causeKept_of_runs (run : Runs all o owner h m) : CauseKept h m := by
  induction run with
  | start => rfl
  | step run move ih => exact causeKept_step ih (sealed_of_runs run) (guarded_of_runs run) move

/-- Whatever is asked of a stream, its flags keep how it ended first. -/
lemma endKept_of_run (run : Machine.Run component may (.idle (fresh o owner)) h m) :
    EndKept h m.state.stream := by
  induction run with
  | start => exact ⟨fun _ => rfl, fun cause first => by cases first⟩
  | step _ move ih => exact endKept_step ih move

/-! ## Why a write fails -/

/-- The errors with which writes fail from the moment on that the history `h` ends with. -/
structure FailsAsEnded (o : Options) (owner : Thread) (h : Past η) (m : Live η) : Prop where
  /-- A write that is sent right away fails with the code of the first reset, if there was one,
  else with the error of the first end. -/
  direct : ∀ cause, directCause h = some cause → ∀ job p rest,
    m.agenda = .todo (.work (.perform job)) :: rest → job.direct? = some p →
    Fails p cause m ⟨m.state, rest⟩
  /-- This is the error of the first end, unless the stream was reset after a close. -/
  first_end : ∀ cause, firstEnd h = some cause → directCause h = some cause ∨
    (cause = .closed ∧ ∃ code, firstReset h = some code ∧ directCause h = some (.reset code))
  /-- A write that has to wait fails with the error that the outbox was first closed with. -/
  queued : ∀ cause, firstClosing h = some cause → ∀ w rest,
    m.agenda = .todo (.work (.perform (.enqueue w))) :: rest →
    Fails w.promise cause m ⟨m.state, rest⟩
  /-- As long as the primitive for a reset does not call back, this is the error of the first act
  that has the outbox closed, from this act on. -/
  at_once : Runs false o owner h m → ∀ w rest,
    m.agenda = .todo (.work (.perform (.enqueue w))) :: rest → firstClosing h = firstCause h
  /-- Then all writes fail with the error of the first end, unless there was an exception before it
  or a reset after a close. -/
  agree : Runs false o owner h m → ∀ cause, firstEnd h = some cause → exceptionFirst h = false →
    (cause = .closed → firstReset h = none) → ∀ job p rest,
    m.agenda = .todo (.work (.perform job)) :: rest → job.promise? = some p →
    Fails p cause m ⟨m.state, rest⟩

/-- Whatever is asked of a stream, by whomever and at any moment, and whichever way hooks and
primitives call back. -/
theorem failsAsEnded_of_runs (run : Machine.Run component may (.idle (fresh o owner)) h m) :
    FailsAsEnded o owner h m := by
  have endKept := endKept_of_run run
  have recorded := resetCode_eq run
  have direct : ∀ cause, directCause h = some cause → ∀ job p rest,
      m.agenda = .todo (.work (.perform job)) :: rest → job.direct? = some p →
      Fails p cause m ⟨m.state, rest⟩ := by
    intro cause known job p rest head promised
    have target : m.state.stream.directTarget = .error cause := by
      simp [Stream.directTarget, endKept.endCause?_eq recorded, known]
    rcases m with ⟨e, agenda⟩
    obtain rfl : agenda = _ := head
    exact direct_fails target promised
  have queued : ∀ cause, firstClosing h = some cause → ∀ w rest,
      m.agenda = .todo (.work (.perform (.enqueue w))) :: rest →
      Fails w.promise cause m ⟨m.state, rest⟩ := by
    intro cause known w rest head
    rw [← outboxClosed_eq run] at known
    rcases m with ⟨e, agenda⟩
    obtain rfl : agenda = _ := head
    exact queued_fails known
  have at_once (still : Runs false o owner h m) (w : Write η) (rest : Agenda η)
      (head : m.agenda = .todo (.work (.perform (.enqueue w))) :: rest) :
      firstClosing h = firstCause h := by
    have guarded := guarded_of_runs still
    have kept := causeKept_of_runs still
    rw [← outboxClosed_eq run]
    rcases m with ⟨e, agenda⟩
    obtain rfl : agenda = _ := head
    simpa [CauseKept, closing, closings_below guarded] using kept.symm
  refine ⟨direct, ?_, queued, at_once, ?_⟩
  · intro cause first
    by_cases unhidden : cause = .closed → firstReset h = none
    · exact .inl (endKept.directCause_eq recorded first unhidden)
    · obtain ⟨closed, hidden⟩ := Classical.not_imp.mp unhidden
      obtain ⟨code, reset⟩ := Option.ne_none_iff_exists'.mp hidden
      exact .inr ⟨closed, code, reset, by simp [directCause, reset]⟩
  · intro still cause first none_before unhidden job p rest head promised
    cases job with
    | enqueue w =>
      obtain rfl := Option.some.inj promised
      have known := (firstCause_eq_firstEnd none_before).trans first
      exact queued cause ((at_once still w rest head).trans known) w rest head
    | writeFrame frame q | writeHeaders block fin flush q =>
      exact direct cause (endKept.directCause_eq recorded first unhidden) _ p rest head promised
    | _ => cases promised

/-- A stream is closed, then there is an exception, and the hook for it writes on both ways. The
primitive that sends data is the one that called back to close the stream. -/
def closedWhileSending : Past Nat × Live Nat :=
  Machine.drive component 47
    [.ask [.enter 0 (.allocate 1)], .reply (plainly true .success),
      .ask [.enter 0 (.writeData none false 1)], .reply (plainly true .success),
      .ask [.enter 0 .close], .reply (plainly true .success),
      .ask [.enter 0 (.exception .notAllocated)], .ask [.enter 0 (.writeData none false 2)],
      .ask [.enter 0 (.writeFrame ⟨10, 0, .empty⟩ 3)]]
    (.idle (fresh .standard 0))

lemma closedWhileSending_runs :
    Runs false .standard 0 closedWhileSending.1 closedWhileSending.2 :=
  Machine.drive_run (fun _ _ => request_of_isRequest) _ _ _ rfl

/-- The primitive that sends a reset calls back to report an exception, and the hook for this
writes on both ways. -/
def exceptionWhileResetting : Past Nat × Live Nat :=
  Machine.drive component 33
    [.ask [.enter 0 (.allocate 1)], .reply (plainly true .success),
      .ask [.enter 0 (.writeReset 8)], .ask [.enter 0 (.exception .notAllocated)],
      .ask [.enter 0 (.writeData none false 1)], .ask [.enter 0 (.writeFrame ⟨10, 0, .empty⟩ 2)]]
    (.idle (fresh .standard 0))

def isOperation : List (StreamInstr η) → Bool
  | [.enter _ _] => true
  | _ => false

lemma exceptionWhileResetting_run :
    Machine.Run component (Machine.InTurn component fun is => isOperation is = true)
      (.idle (fresh .standard 0)) exceptionWhileResetting.1 exceptionWhileResetting.2 :=
  Machine.drive_run (fun _ _ waits asked => ⟨waits, asked⟩) _ _ _ rfl

theorem failsAsEnded_closedWhileSending :
    (Runs false .standard 0 closedWhileSending.1 closedWhileSending.2 ∧
      FailsAsEnded .standard 0 closedWhileSending.1 closedWhileSending.2 ∧
      firstEnd closedWhileSending.1 = some .closed ∧
      failures closedWhileSending.1 = [(2, .closed)] ∧
      Fails 3 .closed closedWhileSending.2
        ⟨closedWhileSending.2.state, closedWhileSending.2.agenda.tail⟩) ∧
    (FailsAsEnded .standard 0 exceptionWhileResetting.1 exceptionWhileResetting.2 ∧
      failures exceptionWhileResetting.1 = [(1, .notAllocated)] ∧
      Fails 2 (.reset 8) exceptionWhileResetting.2
        ⟨exceptionWhileResetting.2.state, exceptionWhileResetting.2.agenda.tail⟩) :=
  ⟨⟨closedWhileSending_runs, failsAsEnded_of_runs closedWhileSending_runs, rfl, rfl,
      (failsAsEnded_of_runs closedWhileSending_runs).agree closedWhileSending_runs .closed rfl rfl
        (fun _ => rfl) (.writeFrame ⟨10, 0, .empty⟩ 3) 3 _ rfl rfl⟩,
    ⟨failsAsEnded_of_runs exceptionWhileResetting_run, rfl,
      (failsAsEnded_of_runs exceptionWhileResetting_run).direct (.reset 8) rfl
        (.writeFrame ⟨10, 0, .empty⟩ 2) 2 _ rfl rfl⟩⟩

/-! ## Where the two ways part -/

def FailsAsFirstEnd (h : Past η) (m : Live η) : Prop :=
  ∀ cause, firstEnd h = some cause → ∀ job p rest,
    m.agenda = .todo (.work (.perform job)) :: rest → job.promise? = some p →
    Fails p cause m ⟨m.state, rest⟩

/-- A write that waits, on a stream that was reset after an exception. -/
def exceptionThenReset : Past Nat × Live Nat :=
  Machine.drive component 21
    [.ask [.enter 0 (.exception (.io .brokenPipe "gone"))], .reply (plainly true .success),
      .ask [.enter 0 (.reset 8)], .reply (plainly true .success),
      .ask [.enter 0 (.writeData none false 1)]]
    (.idle (fresh .standard 0))

/-- A write that is sent right away, on a stream that was reset after a close. -/
def closeThenReset : Past Nat × Live Nat :=
  Machine.drive component 23
    [.ask [.enter 0 .close], .reply (plainly true .success), .reply (plainly true .success),
      .ask [.enter 0 (.reset 8)], .reply (plainly true .success),
      .ask [.enter 0 (.writeFrame ⟨10, 0, .empty⟩ 1)]]
    (.idle (fresh .standard 0))

/-- A write that waits, called by the primitive that sends a reset. -/
def writtenWhileResetting : Past Nat × Live Nat :=
  Machine.drive component 19
    [.ask [.enter 0 (.allocate 1)], .reply (plainly true .success),
      .ask [.enter 0 (.writeReset 8)], .ask [.enter 0 (.writeData none false 1)]]
    (.idle (fresh .standard 0))

/-- The first end does not decide alone: an exception before it goes first where writes wait, a
reset after a close goes first where they do not, and while the reset is being sent a write may
still go out. -/
theorem not_failsAsFirstEnd :
    (Runs false .standard 0 exceptionThenReset.1 exceptionThenReset.2 ∧
      ¬ FailsAsFirstEnd exceptionThenReset.1 exceptionThenReset.2) ∧
    (Runs false .standard 0 closeThenReset.1 closeThenReset.2 ∧
      ¬ FailsAsFirstEnd closeThenReset.1 closeThenReset.2) ∧
    (Machine.Run component (Machine.InTurn component fun is => isOperation is = true)
        (.idle (fresh .standard 0)) writtenWhileResetting.1 writtenWhileResetting.2 ∧
      ¬ FailsAsFirstEnd writtenWhileResetting.1 writtenWhileResetting.2) := by
  refine ⟨⟨?_, fun all => ?_⟩, ⟨?_, fun all => ?_⟩, ⟨?_, fun all => ?_⟩⟩
  · exact Machine.drive_run (fun _ _ => request_of_isRequest) _ _ _ rfl
  · obtain ⟨n, claimed⟩ := all (.reset 8) rfl (.enqueue (.data none false 1)) 1 _ rfl rfl
    obtain ⟨k, actual⟩ : Fails 1 (.io .brokenPipe "gone") exceptionThenReset.2
        ⟨exceptionThenReset.2.state, exceptionThenReset.2.agenda.tail⟩ := queued_fails rfl
    cases Machine.Alone.signal_unique claimed actual (by simp) (by simp)
  · exact Machine.drive_run (fun _ _ => request_of_isRequest) _ _ _ rfl
  · obtain ⟨n, claimed⟩ := all .closed rfl (.writeFrame ⟨10, 0, .empty⟩ 1) 1 _ rfl rfl
    obtain ⟨k, actual⟩ : Fails 1 (.reset 8) closeThenReset.2
        ⟨closeThenReset.2.state, closeThenReset.2.agenda.tail⟩ := direct_fails rfl rfl
    cases Machine.Alone.signal_unique claimed actual (by simp) (by simp)
  · exact Machine.drive_run (fun _ _ waits asked => ⟨waits, asked⟩) _ _ _ rfl
  · obtain ⟨n, claimed⟩ := all (.reset 8) rfl (.enqueue (.data none false 1)) 1 _ rfl rfl
    have actual : ∃ m, Machine.Alone component writtenWhileResetting.2
        (List.replicate 4 .silent ++ [.called (.conn (.countWritten 0))]) m :=
      ⟨_, .next rfl (.next rfl (.next rfl (.next rfl (.next rfl .stop))))⟩
    obtain ⟨m, actual⟩ := actual
    cases Machine.Alone.signal_unique claimed actual (by simp) (by simp)

end StreamControl.Endpoint
