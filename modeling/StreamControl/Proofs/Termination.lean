import StreamControl.Proofs.StreamEnding

/-!
# Termination is final

Once a reset or a close took effect, whichever way the hooks call back, a stream hands no frame
to its connection any more, what waited to be sent fails before the reset or the close is done,
and what is sent later fails at once.
-/

namespace StreamControl

def Primitive.isFrame {η : Type} : Primitive η → Bool
  | .sendFrame _ _ _ | .sendHeaders _ _ _ _ _ _ | .sendData _ _ _ _ => true
  | _ => false

def Job.direct? {η : Type} : Job η → Option PromiseId
  | .writeFrame _ p | .writeHeaders _ _ _ p => some p
  | _ => none

namespace Endpoint

variable {η : Type} {owner : Thread} {h after : Past η} {m m' : Live η}
  {rest agenda : Agenda η} {w : Write η}

def ends : Deed η → Bool
  | .own (.work (.perform job)) => job.isEnd
  | _ => false

def handsFrame : Deed η → Bool
  | .own (.call (.conn p)) => p.isFrame
  | _ => false

def failure : Deed η → List (PromiseId × Fault)
  | .own (.note (.failed p cause)) => [(p, cause)]
  | _ => []

/-- The promises that the stream has failed, in this order. -/
def failures (h : Past η) : List (PromiseId × Fault) := h.flatMap fun b => failure b.2

def hasEndedBy (h : Past η) : Bool := h.any fun b => ends b.2

/-- An entry that will hand over a frame, or may do so. -/
def isSending : Entry (StreamInstr η) (StreamCall η) StreamNote → Bool
  | .todo (.call (.conn p)) => p.isFrame
  | .todo (.work (.attempt _)) => true
  | _ => false

def Silent (agenda : Agenda η) : Prop := agenda.any isSending = false

section Views

variable {x : Entry (StreamInstr η) (StreamCall η) StreamNote} {agenda' : Agenda η}

lemma silent_cons : Silent (x :: agenda) ↔ isSending x = false ∧ Silent agenda := by
  rw [Silent, List.any_cons, Bool.or_eq_false_iff]
  rfl

lemma silent_append : Silent (agenda ++ agenda') ↔ Silent agenda ∧ Silent agenda' := by
  rw [Silent, List.any_append, Bool.or_eq_false_iff]
  rfl

lemma Unlocked.silent (unlocked : Unlocked true agenda) : Silent agenda := by
  rw [Unlocked, List.any_eq_false] at unlocked
  rw [Silent, List.any_eq_false]
  intro x hx sending
  refine unlocked x hx ?_
  unfold isSending at sending
  split at sending
  · rename_i p
    cases p <;> first | rfl | cases sending
  · rfl
  · cases sending

end Views

/-! ## No frame is handed over -/

lemma directTarget_of_ended {s : Stream η} (ended : s.hasEnded = true) :
    ∃ cause, s.endCause? = some cause ∧ s.directTarget = .error cause := by
  rw [Stream.hasEnded, Bool.or_eq_true] at ended
  cases hr : s.resetCode with
  | some code => exact ⟨.reset code, by simp [Stream.endCause?, hr],
      by simp [Stream.directTarget, Stream.endCause?, hr]⟩
  | none =>
    have closed : s.closed = true := ended.resolve_left (by simp [hr])
    exact ⟨.closed, by simp [Stream.endCause?, hr, closed],
      by simp [Stream.directTarget, Stream.endCause?, hr, closed]⟩

lemma perform_silent {e : Endpoint η} {job : Job η}
    (ended : (e.perform job).1.stream.hasEnded = true) :
    Silent ((e.perform job).2.map .todo) := by
  cases job with
  | writeFrame frame p | writeHeaders block fin flush p =>
    rw [Stream.hasEnded, (perform_other e _ rfl).1, (perform_other e _ rfl).2,
      ← Stream.hasEnded] at ended
    obtain ⟨cause, _, target⟩ := directTarget_of_ended ended
    simp only [perform, target]
    rfl
  | data bytes | fin trailers | reset code | changePriority p | toggleWritable | close
  | writeReset code | announcePriority p =>
    simp only [perform, reset]
    (repeat' split) <;> rfl
  | _ => rfl

/-- What a stream does after its end leads to no frame. -/
lemma exec_silent {i : StreamInstr η} {e : Endpoint η} (ended : e.stream.hasEnded = true)
    (shut : i = .outbox .drain → e.stream.outbox.closed ≠ none) (other : ∀ w, i ≠ .attempt w) :
    Silent ((exec i e).2.map .todo) := by
  have without_locks (unlocked : Unlocked true ((exec i e).2.map .todo)) :
      Silent ((exec i e).2.map .todo) := unlocked.silent
  cases i with
  | perform job => exact perform_silent (perform_hasEnded e job ended)
  | deliver item =>
    cases item with
    | data bytes =>
      simp only [exec, deliver]
      (repeat' split) <;> rfl
    | fin trailers => rfl
  | attempt w => exact absurd rfl (other w)
  | outbox j =>
    rcases outbox_leaves e.stream.outbox j with unlocked | ⟨rfl, opened, _⟩
    · exact without_locks unlocked
    · exact absurd opened (shut rfl)
  | _ => exact without_locks (exec_unlocked rfl e)

def SilentOnceEnded (m : Live η) : Prop := m.state.stream.hasEnded = true → Silent m.agenda

lemma silentOnceEnded_work {i : StreamInstr η} {e : Endpoint η}
    (silent : SilentOnceEnded ⟨e, .todo (.work i) :: rest⟩)
    (guarded : GuardedNow true ⟨e, .todo (.work i) :: rest⟩)
    (sealed : Sealed ⟨e, .todo (.work i) :: rest⟩) :
    SilentOnceEnded ⟨(exec i e).1, (exec i e).2.map .todo ++ rest⟩ := by
  intro ended
  rw [silent_append]
  by_cases performs : ∃ job, i = .perform job
  · obtain ⟨job, rfl⟩ := performs
    exact ⟨perform_silent ended, (unlocked_of_guarded guarded rfl id).silent⟩
  · have before : e.stream.hasEnded = true := by
      rw [exec_hasEnded fun job same => performs ⟨job, same⟩] at ended
      exact ended
    obtain ⟨first, below⟩ := silent_cons.mp (silent before)
    refine ⟨exec_silent before ?_ ?_, below⟩
    · rintro rfl
      have none_below := closings_of_unlocked (unlocked_of_guarded guarded rfl id)
      exact (sealed.closes before).resolve_right (by simp [closing, none_below])
    · rintro w rfl
      cases first

lemma silentOnceEnded_step {a : Deed η} (silent : SilentOnceEnded m) (guarded : GuardedNow true m)
    (sealed : Sealed m) (move : Machine.Move component (Request true) m a m') :
    SilentOnceEnded m' := by
  cases move using Machine.Move.elim with
  | work e i rest => exact silentOnceEnded_work silent guarded sealed
  | call e c rest => exact fun ended => silent_cons.mpr ⟨rfl, (silent_cons.mp (silent ended)).2⟩
  | note e s rest => exact fun ended => (silent_cons.mp (silent ended)).2
  | invoke m is asked =>
    cases asked <;> exact fun ended => silent_cons.mpr ⟨rfl, silent ended⟩
  | reply e c rest f =>
    intro ended
    have below := (silent_cons.mp (silent ended)).2
    cases c with
    | conn p => cases p <;> exact below
    | hook k => cases k <;> exact below

/-- Whether a stream has ended is written in its history. -/
lemma hasEnded_eq {may : Live η → List (StreamInstr η) → Prop} {o : Options}
    (run : Machine.Run component may (.idle (fresh o owner)) h m) :
    m.state.stream.hasEnded = hasEndedBy h := by
  induction run with
  | start => rfl
  | @step h m m' a run move ih =>
    rw [hasEndedBy, List.any_append, ← hasEndedBy, ← ih]
    cases move using Machine.Move.elim with
    | work e i rest =>
      simp only [List.any_cons, List.any_nil, Bool.or_false]
      by_cases performs : ∃ job, i = .perform job
      · obtain ⟨job, rfl⟩ := performs
        by_cases is_end : job.isEnd = true
        · rw [show ends (.own (.work (.perform job)) : Deed η) = true from is_end, Bool.or_true]
          exact perform_end_hasEnded e job is_end
        · rw [Bool.not_eq_true] at is_end
          obtain ⟨same_code, same_closed⟩ := perform_other e job is_end
          rw [show ends (.own (.work (.perform job)) : Deed η) = false from is_end, Bool.or_false,
            Stream.hasEnded, Stream.hasEnded, ← same_code, ← same_closed]
          rfl
      · have none_ends : ends (.own (.work i) : Deed η) = false := by
          cases i with
          | perform job => exact absurd ⟨job, rfl⟩ performs
          | _ => rfl
        rw [none_ends, Bool.or_false]
        exact exec_hasEnded fun job same => performs ⟨job, same⟩
    | call e c rest => simp [ends]
    | note e s rest => simp [ends]
    | invoke m is asked => simp [ends, Machine.invoke]
    | reply e c rest f => simp [ends]

lemma silentOnceEnded_of_runs {o : Options} (run : Runs true o owner h m) : SilentOnceEnded m := by
  induction run with
  | start => exact fun _ => rfl
  | step run move ih =>
    exact silentOnceEnded_step ih (guarded_of_runs run) (sealed_of_runs run) move

/-! ## What waited fails -/

def HasFailed (w : Write η) (h : Past η) : Prop := ∃ cause, (w.promise, cause) ∈ failures h

/-- The failure of a write is still to be done: it is noted on the agenda, or the write is
pending and the agenda has the outbox to be closed. -/
def Due (w : Write η) (agenda : Agenda η) (q : Outbox (Write η)) : Prop :=
  (∃ cause, .todo (.note (.failed w.promise cause)) ∈ agenda) ∨
    (closings agenda ≠ [] ∧ w ∈ q.pending)

/-- A write has failed, or its failure is still to be done above `rest`. -/
def Owed (w : Write η) (rest : Agenda η) (after : Past η) (m : Live η) : Prop :=
  HasFailed w after ∨ ∃ above, m.agenda = above ++ rest ∧ Due w above m.state.stream.outbox

section Due

variable {above out : Agenda η} {q : Outbox (Write η)}
  {x : Entry (StreamInstr η) (StreamCall η) StreamNote}

lemma not_due_nil : ¬ Due w [] q := by
  rintro (⟨cause, noted⟩ | ⟨closes, _⟩)
  · cases noted
  · exact closes rfl

lemma Due.append (due : Due w above q) : Due w (out ++ above) q := by
  rcases due with ⟨cause, noted⟩ | ⟨closes, pending⟩
  · exact .inl ⟨cause, List.mem_append_right _ noted⟩
  · refine .inr ⟨fun none_left => closes ?_, pending⟩
    rw [closings_append, List.append_eq_nil_iff] at none_left
    exact none_left.2

lemma Due.tail (due : Due w (x :: above) q) (no_closing : closing x = [])
    (no_note : ∀ cause, x ≠ .todo (.note (.failed w.promise cause))) : Due w above q := by
  rcases due with ⟨cause, noted⟩ | ⟨closes, pending⟩
  · exact .inl ⟨cause, List.mem_of_ne_of_mem (no_note cause).symm noted⟩
  · rw [closings_cons, no_closing, List.nil_append] at closes
    exact .inr ⟨closes, pending⟩

end Due

lemma HasFailed.snoc (failed : HasFailed w h) (b : Live η × Deed η) :
    HasFailed w (h ++ [b]) := by
  obtain ⟨cause, known⟩ := failed
  rw [HasFailed, failures, List.flatMap_append]
  exact ⟨cause, List.mem_append_left _ known⟩

/-- What a closing does at once is to note the failure of everything pending. -/
lemma mem_outbox_close {q : Outbox (Write η)} (opened : q.closed = none) (pending : w ∈ q.pending)
    (cause : Fault) : (.note (.failed w.promise cause) : StreamTodo η) ∈
      (Outbox.exec (.close cause) q).2.flatMap ofOutbox := by
  rw [List.mem_flatMap]
  refine ⟨.call (.cancel w cause), ?_, List.mem_singleton.mpr rfl⟩
  have open_now : q.isClosed = false := by simp [Outbox.isClosed, opened]
  simp [Outbox.exec, open_now, pending]

lemma due_close {e : Endpoint η} {cause : Fault} {above : Agenda η}
    (empty : e.stream.outbox.closed ≠ none → e.stream.outbox.pending = [])
    (due : Due w (.todo (.work (.outbox (.close cause))) :: above) e.stream.outbox) :
    Due w ((exec (.outbox (.close cause)) e).2.map .todo ++ above)
      (exec (.outbox (.close cause)) e).1.stream.outbox := by
  rcases due with ⟨cause', noted⟩ | ⟨_, pending⟩
  · exact .inl ⟨cause', List.mem_append_right _ (List.mem_of_ne_of_mem (by simp) noted)⟩
  · have opened : e.stream.outbox.closed = none := by
      by_contra closed
      simp [empty closed] at pending
    refine .inl ⟨cause, List.mem_append_left _ (List.mem_map_of_mem ?_)⟩
    exact mem_outbox_close opened pending cause

lemma due_work {i : StreamInstr η} {e : Endpoint η} {above : Agenda η}
    (guarded : GuardedNow true ⟨e, .todo (.work i) :: (above ++ rest)⟩)
    (sealed : Sealed ⟨e, .todo (.work i) :: (above ++ rest)⟩)
    (due : Due w (.todo (.work i) :: above) e.stream.outbox) :
    Due w ((exec i e).2.map .todo ++ above) (exec i e).1.stream.outbox := by
  by_cases shuts : ∃ cause, i = .outbox (.close cause)
  · obtain ⟨cause, rfl⟩ := shuts
    exact due_close sealed.empty due
  · have no_closing : closing (.todo (.work i) : Entry (StreamInstr η) _ _) = [] := by
      cases i with
      | outbox j =>
        cases j with
        | close cause => exact absurd ⟨cause, rfl⟩ shuts
        | _ => rfl
      | _ => rfl
    rcases due.tail no_closing (by simp) with noted | ⟨closes, pending⟩
    · exact Due.append (.inl noted)
    · -- A closing below is a lock: only brief work and work aside is done above it.
      have locked : ¬ Unlocked true (above ++ rest) := by
        intro unlocked
        have none_left := closings_of_unlocked unlocked
        rw [closings_append, List.append_eq_nil_iff] at none_left
        exact closes none_left.1
      have other : ∀ j, i ≠ .outbox j := by
        rintro j rfl
        refine locked (unlocked_of_guarded guarded ?_ id)
        cases j with
        | close cause => exact absurd ⟨cause, rfl⟩ shuts
        | _ => rfl
      rw [exec_outbox other]
      exact Due.append (.inr ⟨closes, pending⟩)

lemma owed_step {a : Deed η} (owed : Owed w rest after m) (guarded : GuardedNow true m)
    (sealed : Sealed m) (move : Machine.Move component (Request true) m a m') :
    Owed w rest (after ++ [(m, a)]) m' := by
  rcases owed with failed | ⟨above, split, due⟩
  · exact .inl (failed.snoc _)
  · rcases above with _ | ⟨x, above⟩
    · exact absurd due not_due_nil
    · cases move using Machine.Move.elim with
      | work e i tail =>
        obtain ⟨rfl, rfl⟩ := List.cons.inj split
        exact .inr ⟨(exec i e).2.map .todo ++ above, (List.append_assoc ..).symm,
          due_work guarded sealed due⟩
      | call e c tail =>
        obtain ⟨rfl, rfl⟩ := List.cons.inj split
        exact .inr ⟨[.held c] ++ above, rfl, (due.tail rfl (by simp)).append⟩
      | note e s tail =>
        obtain ⟨rfl, rfl⟩ := List.cons.inj split
        by_cases fails : ∃ cause, s = .failed w.promise cause
        · obtain ⟨cause, rfl⟩ := fails
          exact .inl ⟨cause, by simp [failures, failure]⟩
        · refine .inr ⟨above, rfl, due.tail rfl fun cause same => fails ⟨cause, ?_⟩⟩
          exact Todo.note.inj (Entry.todo.inj same)
      | invoke m is asked =>
        exact .inr ⟨is.map (.todo ∘ .work) ++ x :: above, by simp [Machine.invoke, split],
          due.append⟩
      | reply e c tail f =>
        obtain ⟨rfl, rfl⟩ := List.cons.inj split
        exact .inr ⟨(component.resume c (f c)).map .todo ++ above, (List.append_assoc ..).symm,
          (due.tail rfl (by simp)).append⟩

lemma Owed.returned (owed : Owed w rest after m) (down : m.agenda.length ≤ rest.length) :
    HasFailed w after := by
  rcases owed with failed | ⟨above, split, due⟩
  · exact failed
  · have none_above : above = [] := by
      rw [split, List.length_append] at down
      exact List.length_eq_zero_iff.mp (by omega)
    rw [none_above] at due
    exact absurd due not_due_nil

/-- What was pending when a stream ended is owed a failure until the job that ended it is done. -/
lemma owed_of_runs {job : Job η} {o : Options} (is_end : job.isEnd = true)
    (before : Runs true o owner h m) (head : m.agenda = .todo (.work (.perform job)) :: rest)
    (first : Machine.Move component (Request true) m (.own (.work (.perform job))) m')
    (waiting : w ∈ m.state.stream.outbox.pending) {m'' : Live η}
    (later : Machine.Run component (Request true) m' after m'') : Owed w rest after m'' := by
  have run := before.step first
  induction later with
  | start =>
    have guarded := guarded_of_runs before
    have sealed := sealed_of_runs before
    rcases m with ⟨e, agenda⟩
    obtain rfl : agenda = _ := head
    cases first with
    | own _ next =>
      cases next
      refine .inr ⟨(e.perform job).2.map .todo, rfl, .inr ⟨?_, ?_⟩⟩
      · have ongoing : e.stream.hasEnded = false := by
          by_contra ended
          rw [Bool.not_eq_false] at ended
          have empty : e.stream.outbox.pending = [] :=
            sealed.empty (sealed.closed_of_ended guarded ended)
          simp [empty] at waiting
        rw [(perform_first e job is_end ongoing).2]
        cases job <;> first | exact List.cons_ne_nil _ _ | cases is_end
      · rw [← perform_outbox e job] at waiting
        exact waiting
  | @step after m₁ m₂ a later move ih =>
    have so_far := run.append later
    exact owed_step ih (guarded_of_runs so_far) (sealed_of_runs so_far) move

/-! ## What is sent later fails -/

/-- The machine goes on by itself to fail a promise, and this is all that the surroundings
see of it. -/
def Fails (p : PromiseId) (cause : Fault) (m m' : Live η) : Prop :=
  ∃ n, Machine.Alone component m (List.replicate n .silent ++ [.noted (.failed p cause)]) m'

lemma direct_fails {e : Endpoint η} {job : Job η} {p : PromiseId} {cause : Fault}
    (target : e.stream.directTarget = .error cause) (direct : job.direct? = some p) :
    Fails p cause ⟨e, .todo (.work (.perform job)) :: rest⟩ ⟨e, rest⟩ := by
  have first : Machine.step component ⟨e, .todo (.work (.perform job)) :: rest⟩ =
      some (.silent, ⟨e, .todo (.note (.failed p cause)) :: rest⟩) := by
    cases job with
    | writeFrame frame q | writeHeaders block fin flush q =>
      cases direct
      simp [Machine.step, component, exec, perform, target]
    | _ => cases direct
  exact ⟨1, .next first (.next rfl .stop)⟩

lemma queued_fails {e : Endpoint η} {cause : Fault} (closed : e.stream.outbox.closed = some cause) :
    Fails w.promise cause ⟨e, .todo (.work (.perform (.enqueue w))) :: rest⟩ ⟨e, rest⟩ := by
  have second : Machine.step component ⟨e, .todo (.work (.outbox (.submit w))) :: rest⟩ =
      some (.silent, ⟨e, .todo (.note (.failed w.promise cause)) :: rest⟩) := by
    simp [Machine.step, component, exec, Outbox.exec, closed, ofOutbox, modify]
  exact ⟨2, .next rfl (.next second (.next rfl .stop))⟩

/-! ## Finality -/

/-- The end of a stream is final, as far as the history `h` shows. -/
structure Finality (h : Past η) (m : Live η) : Prop where
  no_frame : ∀ before b after, h = before ++ b :: after → hasEndedBy before = true →
    handsFrame b.2 = false
  /-- When the job that ended the stream is done, all that was pending has failed. -/
  pending_failed : ∀ before m₁ job after rest,
    h = before ++ (m₁, .own (.work (.perform job))) :: after → job.isEnd = true →
    m₁.agenda = .todo (.work (.perform job)) :: rest → m.agenda.length ≤ rest.length →
    ∀ w ∈ m₁.state.stream.outbox.pending, HasFailed w after
  later_fails : hasEndedBy h = true → ∀ job p rest,
    m.agenda = .todo (.work (.perform job)) :: rest → job.promise? = some p →
    ∃ cause, Fails p cause m ⟨m.state, rest⟩

/-- Whatever the hooks do and other threads ask for, a reset or a close is final: no frame goes
out any more, what waited fails before it is done, and what comes later fails at once. -/
theorem finality_of_runs {o : Options} (run : Runs true o owner h m) : Finality h m := by
  refine ⟨?_, ?_, ?_⟩
  · rintro before ⟨m₁, a⟩ after rfl ended
    obtain ⟨earlier, m₂, move, _⟩ := run.split
    have silent := silentOnceEnded_of_runs earlier ((hasEnded_eq earlier).trans ended)
    cases move using Machine.Move.elim with
    | call e c tail =>
      have quiet := (silent_cons.mp silent).1
      cases c with
      | conn p => exact quiet
      | hook k => rfl
    | work e i tail | note e s tail | invoke m is asked | reply e c tail f => rfl
  · rintro before m₁ job after tail rfl is_end head down w waiting
    obtain ⟨earlier, m₂, first, later⟩ := run.split
    exact (owed_of_runs is_end earlier head first waiting later).returned down
  · intro ended job p tail head promised
    have guarded := guarded_of_runs run
    have sealed := sealed_of_runs run
    rw [← hasEnded_eq run] at ended
    rcases m with ⟨e, agenda⟩
    obtain rfl : agenda = _ := head
    cases job with
    | enqueue w =>
      obtain rfl := Option.some.inj promised
      have shut := sealed.closed_of_ended guarded ended
      obtain ⟨cause, closed⟩ := Option.ne_none_iff_exists'.mp shut
      exact ⟨cause, queued_fails closed⟩
    | writeFrame frame q | writeHeaders block fin flush q =>
      obtain ⟨cause, _, target⟩ := directTarget_of_ended ended
      exact ⟨cause, direct_fails target promised⟩
    | _ => cases promised

/-- A stream that may not send is reset. The hook for the reset writes a frame and lets the
stream send again; only then does the loop come to a write of another thread. -/
def resetWhileBlocked : Past Nat × Live Nat :=
  Machine.drive component 70
    [.ask [.enter 0 (.allocate 1)], .reply (plainly false .success),
      .ask [.enter 0 (.writeData none false 7)],
      .ask [.enter 1 (.writeHeaders 5 false true true 8)], .ask [.enter 0 (.reset 2)],
      .ask [.enter 0 (.writeFrame ⟨10, 0, .empty⟩ 9)], .ask [.enter 0 .toggleWritable],
      .reply (plainly true .success), .ask [.enter 0 .runLoop]]
    (.idle (fresh .standard 0))

lemma resetWhileBlocked_runs : Runs true .standard 0 resetWhileBlocked.1 resetWhileBlocked.2 :=
  Machine.drive_run (fun _ _ => request_of_isRequest) _ _ _ rfl

theorem finality_resetWhileBlocked :
    Runs true .standard 0 resetWhileBlocked.1 resetWhileBlocked.2 ∧
      Finality resetWhileBlocked.1 resetWhileBlocked.2 ∧
      hasEndedBy resetWhileBlocked.1 = true ∧
      failures resetWhileBlocked.1 = [(7, .reset 2), (9, .reset 2), (8, .reset 2)] :=
  ⟨resetWhileBlocked_runs, finality_of_runs resetWhileBlocked_runs, rfl, rfl⟩

end Endpoint

end StreamControl
