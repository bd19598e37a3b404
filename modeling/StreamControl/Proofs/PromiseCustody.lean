import StreamControl.Proofs.FailureCause
import StreamControl.Proofs.StreamWhole

/-!
# Where the promises are

A promise comes with a write. It is posted with its job, waits in the outbox, goes to the
connection with a frame, or is failed by the stream. While a write is under way its promise is
with the work that is left to do. Each step hands the promises on that it has, so every promise is
in one place only, and the stream drops none.
-/

namespace StreamControl

def Primitive.promise? {η : Type} : Primitive η → Option PromiseId
  | .sendFrame _ _ p | .sendHeaders _ _ _ _ _ p | .sendData _ _ _ p => some p
  | _ => none

namespace Endpoint

variable {η : Type} {allowed : Thread → Operation η → Prop} {o : Options} {owner : Thread}
  {h : Past η} {m m' : Live η} {rest agenda agenda' : Agenda η} {a : Deed η} {i : StreamInstr η}
  {e : Endpoint η}

def gives : Deed η → List PromiseId
  | .invoke [.enter _ op] => op.promise?.toList
  | _ => []

def hands : Deed η → List PromiseId
  | .own (.call (.conn p)) => p.promise?.toList
  | _ => []

def discards : Deed η → List PromiseId
  | .own (.note (.discarded p)) => [p]
  | _ => []

/-- The promises that were given to operations. -/
def given (h : Past η) : List PromiseId := h.flatMap fun b => gives b.2

/-- The promises that primitives took over. -/
def handed (h : Past η) : List PromiseId := h.flatMap fun b => hands b.2

/-- The promises that were dropped unsettled. -/
def discarded (h : Past η) : List PromiseId := h.flatMap fun b => discards b.2

/-- The promises that the stream failed. -/
def failed (h : Past η) : List PromiseId := (failures h).map Prod.fst

def promised (job : Job η) : List PromiseId := job.promise?.toList

/-- The promises that wait in the outbox. -/
def queued (e : Endpoint η) : List PromiseId := e.stream.outbox.pending.map Write.promise

/-- The promise of an operation that has not begun. -/
def enteringEntry : Entry (StreamInstr η) (StreamCall η) StreamNote → List PromiseId
  | .todo (.work (.enter _ op)) => op.promise?.toList
  | _ => []

def entering (agenda : Agenda η) : List PromiseId := agenda.flatMap enteringEntry

/-- The promise of a write whose job has been done, and that is still under way. -/
def heldEntry : Entry (StreamInstr η) (StreamCall η) StreamNote → List PromiseId
  | .todo (.work (.attempt w)) => [w.promise]
  | .todo (.work (.outbox (.submit w))) | .todo (.work (.outbox (.refused w))) => [w.promise]
  | .todo (.call (.conn p)) => p.promise?.toList
  | .todo (.note (.failed p _)) => [p]
  | _ => []

def held (agenda : Agenda η) : List PromiseId := agenda.flatMap heldEntry

section Views

variable (b : Live η × Deed η) (x : Entry (StreamInstr η) (StreamCall η) StreamNote)

@[simp] lemma given_snoc : given (h ++ [b]) = given h ++ gives b.2 := by
  simp [given]

@[simp] lemma handed_snoc : handed (h ++ [b]) = handed h ++ hands b.2 := by
  simp [handed]

@[simp] lemma discarded_snoc : discarded (h ++ [b]) = discarded h ++ discards b.2 := by
  simp [discarded]

@[simp] lemma failed_snoc : failed (h ++ [b]) = failed h ++ (failure b.2).map Prod.fst := by
  simp [failed]

@[simp] lemma entering_cons : entering (x :: agenda) = enteringEntry x ++ entering agenda := rfl

@[simp] lemma entering_append :
    entering (agenda ++ agenda') = entering agenda ++ entering agenda' :=
  List.flatMap_append

@[simp] lemma held_cons : held (x :: agenda) = heldEntry x ++ held agenda := rfl

@[simp] lemma held_append : held (agenda ++ agenda') = held agenda ++ held agenda' :=
  List.flatMap_append

end Views

/-! ## An operation has a job done that has its promise -/

lemma promised_ofCalls : OfCalls (promised : Job η → List PromiseId) := ⟨rfl, rfl⟩

lemma asked_begin (e : Endpoint η) (op : Operation η) :
    (begin e op).2.flatMap (askedBy promised) = op.promise?.toList := by
  cases op with
  | writeHeaders block first fin flush p => cases first <;> rfl
  | updatePriority p =>
    simp only [begin]
    split <;> rfl
  | _ => rfl

lemma entering_exec (i : StreamInstr η) (e : Endpoint η) :
    entering ((exec i e).2.map .todo) = [] := by
  refine view_exec fun x leaves => ?_
  cases leaves <;> rfl

lemma entering_resume (c : StreamCall η) (r : c.Reply) :
    entering ((component.resume c r).map .todo : Agenda η) = [] :=
  view_resume (fun _ _ => rfl) (fun _ => rfl) c r

lemma given_step (all_given : (given h).Perm (asked promised h ++ entering m.agenda))
    (move : Machine.Move component (fun _ => Asked allowed) m a m') :
    (given (h ++ [(m, a)])).Perm (asked promised (h ++ [(m, a)]) ++ entering m'.agenda) := by
  rw [given_snoc, asked_snoc]
  cases move using Machine.Move.elim with
  | work e i rest =>
    have none_entering : entering ((component.exec i e).2.map .todo) = [] := entering_exec i e
    rw [entering_append, none_entering, List.nil_append]
    cases i with
    | enter t op =>
      have asked_now : asks promised
          (⟨e, .todo (.work (.enter t op)) :: rest⟩, .own (.work (.enter t op))) =
            op.promise?.toList := asked_begin _ op
      rw [asked_now, List.append_assoc]
      simpa [gives, enteringEntry] using all_given
    | _ => simpa [gives, asks, enteringEntry] using all_given
  | call e c rest | note e s rest => simpa [gives, asks, enteringEntry] using all_given
  | invoke m is called =>
    cases called with
    | operation t op may =>
      have swapped : (entering m.agenda ++ op.promise?.toList).Perm
          (op.promise?.toList ++ entering m.agenda) := List.perm_append_comm
      refine (all_given.append_right _).trans ?_
      rw [List.append_assoc]
      simpa [asks, Machine.invoke, gives, enteringEntry] using swapped.append_left _
    | setRemote remoteOpen => simpa [gives, asks, Machine.invoke, enteringEntry] using all_given
  | reply e c rest f => simpa [gives, asks, entering_resume, enteringEntry] using all_given

/-- Every promise that was given is asked for when its operation begins. -/
lemma given_of_runs (run : RunsAnyhow allowed o owner h m) :
    (given h).Perm (asked promised h ++ entering m.agenda) := by
  induction run with
  | start => exact .refl _
  | step _ move ih => exact given_step ih move

/-! ## Each instruction hands on what it has -/

lemma held_perform (e : Endpoint η) (job : Job η) :
    held ((e.perform job).2.map .todo) = promised job := by
  cases job with
  | data bytes | fin trailers | reset code | changePriority p | toggleWritable | close
  | writeFrame frame p | writeHeaders block fin flush p | writeReset code | announcePriority p =>
    simp only [perform, reset, headersOut]
    (repeat' split) <;> rfl
  | _ => rfl

lemma held_attempt (e : Endpoint η) (w : Write η) :
    held ((e.attempt w).2.map .todo) = [w.promise] := by
  unfold attempt
  split
  · rfl
  · rfl
  · cases w with
    | headers block fin flush p => cases fin <;> rfl
    | data chunk fin p => cases fin <;> rfl

lemma held_cancelling (cause : Fault) (ws : List (Write η)) :
    held (((ws.map fun w => Todo.call (Outbox.Call.cancel w cause)).flatMap ofOutbox).map
      Entry.todo : Agenda η) = ws.map Write.promise := by
  induction ws with
  | nil => rfl
  | cons w ws ih => exact congrArg (w.promise :: ·) ih

/-- What the outbox takes out it leaves to the gate, or fails. -/
lemma held_outbox (j : Outbox.Instr (Write η)) (e : Endpoint η) :
    (queued e ++ heldEntry (.todo (.work (.outbox j)) : Entry (StreamInstr η) _ _)).Perm
      (queued (exec (.outbox j) e).1 ++ held ((exec (.outbox j) e).2.map .todo)) := by
  have effect := Outbox.exec_effect j e.stream.outbox
  simp only [queued, exec, modify]
  generalize (Outbox.exec j e.stream.outbox).1 = q' at *
  generalize (Outbox.exec j e.stream.outbox).2 = out at *
  cases effect with
  | @closes q cause opened =>
    have silent : held (((Outbox.warning cause e.stream.outbox.pending).flatMap ofOutbox).map
        Entry.todo : Agenda η) = [] := by
      unfold Outbox.warning
      split <;> rfl
    rw [List.flatMap_append, List.map_append, held_append, silent, held_cancelling]
    simp [heldEntry]
  | first _ _ _ empty => simp [held, heldEntry, ofOutbox, empty]
  | @tests _ w ws _ _ pending =>
    simpa [held, heldEntry, ofOutbox, pending] using
      (List.perm_append_singleton w.promise (ws.map Write.promise)).symm
  | _ => simp [held, heldEntry, ofOutbox, trace]

/-- What is done neither by a job nor by the outbox or its gate has to do with no promise of a
write under way. -/
lemma held_other (no_perform : ∀ job, i ≠ .perform job) (no_attempt : ∀ w, i ≠ .attempt w)
    (no_outbox : ∀ j, i ≠ .outbox j) :
    (does promised (.own (.work i)) ++ (queued e ++ heldEntry (.todo (.work i)))).Perm
      (queued (exec i e).1 ++ held ((exec i e).2.map .todo)) := by
  have none_left : held ((exec i e).2.map .todo) = [] := by
    refine view_exec fun x leaves => ?_
    cases leaves with
    | sends job | fails job | outbox job => exact absurd rfl (no_perform job)
    | cancels j | tests j => exact absurd rfl (no_outbox j)
    | sendsQueued w | refuses w => exact absurd rfl (no_attempt w)
    | @notes _ n settles =>
      cases n with
      | failed p cause => cases settles
      | _ => rfl
    | @counts t op p counting =>
      cases p <;> first | rfl | cases counting
    | _ => rfl
  rw [none_left, queued, queued, exec_outbox no_outbox]
  cases i with
  | perform job => exact absurd rfl (no_perform job)
  | attempt w => exact absurd rfl (no_attempt w)
  | outbox j => exact absurd rfl (no_outbox j)
  | _ => exact .refl _

/-- The promise of a job that is done goes to the outbox, to the connection, or is failed. -/
lemma held_work (i : StreamInstr η) (e : Endpoint η) :
    (does promised (.own (.work i)) ++ (queued e ++ heldEntry (.todo (.work i)))).Perm
      (queued (exec i e).1 ++ held ((exec i e).2.map .todo)) := by
  cases i with
  | perform job =>
    have left : held ((exec (.perform job) e).2.map .todo) = promised job := held_perform e job
    have same : (exec (.perform job) e).1.stream.outbox = e.stream.outbox := perform_outbox e job
    rw [left, queued, queued, same]
    simpa [does, heldEntry] using List.perm_append_comm
  | attempt w =>
    have left : held ((exec (.attempt w) e).2.map .todo) = [w.promise] := held_attempt e w
    have same : (exec (.attempt w) e).1.stream.outbox = e.stream.outbox := exec_outbox (by simp)
    rw [left, queued, queued, same]
    exact .refl _
  | outbox j => exact held_outbox j e
  | _ => exact held_other (by simp) (by simp) (by simp)

/-! ## From a job to where its promise ends up -/

/-- The promise of every job that was done is under way, or where it has got to. -/
def InHands (h : Past η) (m : Live η) : Prop :=
  (done promised h).Perm (queued m.state ++ held m.agenda ++ handed h ++ failed h)

/-- It is enough to look at what one deed moves. -/
lemma InHands.next (inHands : InHands h m)
    (moved : (does promised a ++ (queued m.state ++ held m.agenda)).Perm
      (queued m'.state ++ held m'.agenda ++ hands a ++ (failure a).map Prod.fst)) :
    InHands (h ++ [(m, a)]) m' := by
  classical
  unfold InHands at *
  rw [List.perm_iff_count] at *
  intro p
  have before := inHands p
  have moved := moved p
  simp only [done_snoc, handed_snoc, failed_snoc, List.count_append] at *
  omega

lemma held_resume (c : StreamCall η) (r : c.Reply) :
    held ((component.resume c r).map .todo : Agenda η) = [] :=
  view_resume (fun _ _ => rfl) (fun _ => rfl) c r

lemma inHands_step (inHands : InHands h m)
    (move : Machine.Move component (fun _ => Asked allowed) m a m') :
    InHands (h ++ [(m, a)]) m' := by
  refine inHands.next ?_
  cases move using Machine.Move.elim with
  | work e i rest =>
    simpa [hands, failure, component] using (held_work i e).append_right (held rest)
  | call e c rest =>
    cases c with
    | conn p =>
      have swapped : (p.promise?.toList ++ held rest).Perm (held rest ++ p.promise?.toList) :=
        List.perm_append_comm
      simpa [does, hands, failure, heldEntry] using swapped.append_left (queued e)
    | hook k => simp [does, hands, failure, heldEntry]
  | note e s rest =>
    cases s with
    | failed p cause =>
      simpa [does, hands, failure, heldEntry] using
        (List.perm_append_singleton p (held rest)).symm.append_left (queued e)
    | _ => simp [does, hands, failure, heldEntry]
  | invoke m is called =>
    cases called <;> simp [does, hands, failure, Machine.invoke, heldEntry]
  | reply e c rest f => simp [does, hands, failure, held_resume, heldEntry]

lemma inHands_of_runs (run : RunsAnyhow allowed o owner h m) : InHands h m := by
  induction run with
  | start => exact .refl _
  | step _ move ih => exact inHands_step ih move

/-! ## None is dropped -/

def isLoss : Entry (StreamInstr η) (StreamCall η) StreamNote → Bool
  | .todo (.note (.discarded _)) => true
  | _ => false

/-- A loop that keeps its runner loses no job. -/
lemma none_lost (served : Served ⟨e, .todo (.work i) :: rest⟩) :
    ((exec i e).2.map .todo).any isLoss = false := by
  by_cases loops : ∃ j, i = .loop j
  · obtain ⟨j, rfl⟩ := loops
    have passing := served.passing
    generalize (exec (.loop j) e).1.loop.pending = pending' at *
    generalize (exec (.loop j) e).2 = out at *
    generalize e.loop.pending = before at *
    cases passing with
    | ends ran => split <;> rfl
    | _ => rfl
  · refine any_exec fun x leaves => ?_
    cases leaves with
    | loses j => exact absurd ⟨j, rfl⟩ loops
    | @notes _ n settles =>
      cases n with
      | discarded p => cases settles
      | _ => rfl
    | _ => rfl

/-- Nothing was dropped, and nothing is about to be. -/
def NoneDropped (h : Past η) (m : Live η) : Prop :=
  discarded h = [] ∧ m.agenda.any isLoss = false

lemma noneDropped_step (noneDropped : NoneDropped h m) (served : Served m)
    (move : Machine.Move component (fun _ => Asked allowed) m a m') :
    NoneDropped (h ++ [(m, a)]) m' := by
  obtain ⟨none_before, none_due⟩ := noneDropped
  rw [NoneDropped, discarded_snoc, none_before, List.nil_append]
  cases move using Machine.Move.elim with
  | work e i rest =>
    refine ⟨rfl, ?_⟩
    have none_left : ((component.exec i e).2.map Entry.todo).any isLoss = false := none_lost served
    rw [List.any_append, none_left]
    exact (Bool.or_eq_false_iff.mp none_due).2
  | call e c rest => exact ⟨rfl, none_due⟩
  | note e s rest =>
    obtain ⟨not_this, none_later⟩ := Bool.or_eq_false_iff.mp none_due
    cases s with
    | discarded p => cases not_this
    | _ => exact ⟨rfl, none_later⟩
  | invoke m is called => cases called <;> exact ⟨rfl, none_due⟩
  | reply e c rest f =>
    cases c with
    | conn p => cases p <;> exact ⟨rfl, none_due⟩
    | hook k => cases k <;> exact ⟨rfl, none_due⟩

lemma noneDropped_of_runs (run : RunsAnyhow Kept o owner h m) : NoneDropped h m := by
  induction run with
  | start => exact ⟨rfl, rfl⟩
  | step run move ih => exact noneDropped_step ih (counted_of_runs run).1 move

/-! ## Every promise is in one place -/

/-- Where a promise can be when no call is in progress: posted with its job, in the outbox, with
the connection, or failed. -/
def places (h : Past η) (m : Live η) : List PromiseId :=
  posted promised m.state ++ (queued m.state ++ handed h ++ failed h)

/-- What becomes of the promises. -/
structure Settled (h : Past η) (m : Live η) : Prop where
  in_place : m.agenda = [] → (given h).Perm (places h m)
  /-- A promise that was given once is in one place, and there it is once. -/
  in_one_place : m.agenda = [] → ∀ p, (given h).count p = 1 → (places h m).count p = 1
  with_cause : ∀ p cause, (p, cause) ∈ failures h →
    cause = .notAllocated ∨ cause ∈ asked endings h
  none_dropped : discarded h = []

lemma placed_of_runs (run : RunsAnyhow Kept o owner h m) (returned : m.agenda = []) :
    (given h).Perm (places h m) := by
  have all_given := given_of_runs run
  have all_asked := accounted_of_runs promised_ofCalls run
  have all_done := inHands_of_runs run
  rw [returned] at all_given
  rw [placed, returned] at all_asked
  rw [InHands, returned] at all_done
  -- Three accounts meet: up to the job, up to where it is done, and from there on.
  calc (given h).Perm (asked promised h) := by simpa [entering] using all_given
    _ |>.Perm (done promised h ++ posted promised m.state) := by
      simpa [due, coming] using all_asked
    _ |>.Perm ((queued m.state ++ handed h ++ failed h) ++ posted promised m.state) :=
      .append_right _ (by simpa [held] using all_done)
    _ |>.Perm (places h m) := List.perm_append_comm

/-- As long as the loop keeps its runner: whatever is called on any thread and at any moment,
whenever no call is in progress every promise is in one place only. The stream drops none, and
fails one only because there is no protocol stream, or with the error of a reset, a close or an
exception that it was told of. -/
theorem settled_of_runs (run : RunsAnyhow Kept o owner h m) : Settled h m := by
  refine ⟨placed_of_runs run, fun returned p once => ?_, fun p cause => asked_of_failed run,
    (noneDropped_of_runs run).1⟩
  rw [← once]
  exact (placed_of_runs run returned).symm.count_eq p

/-- A frame is written before the stream is allocated. Then the primitive that sends a write turns
the writability off, and submits another write. A third one is posted. -/
def writtenInAllWays : Past Nat × Live Nat :=
  Machine.drive component 60
    [.ask [.enter 0 (.writeFrame ⟨10, 0, .empty⟩ 1)], .ask [.enter 0 (.allocate 1)],
      .reply (plainly true .success), .ask [.enter 0 (.writeData none false 2)],
      .reply (plainly true .success), .ask [.enter 0 .toggleWritable],
      .ask [.enter 0 (.writeData none false 3)], .reply (plainly true .success),
      .ask [.enter 1 (.writeData none true 4)]]
    (.idle (fresh .standard 0))

theorem settled_writtenInAllWays :
    RunsAnyhow Kept .standard 0 writtenInAllWays.1 writtenInAllWays.2 ∧
      Settled writtenInAllWays.1 writtenInAllWays.2 ∧ writtenInAllWays.2.agenda = [] ∧
      given writtenInAllWays.1 = [1, 2, 3, 4] ∧
      posted promised writtenInAllWays.2.state = [4] ∧
      queued writtenInAllWays.2.state = [3] ∧ handed writtenInAllWays.1 = [2] ∧
      failures writtenInAllWays.1 = [(1, .notAllocated)] := by
  have run : RunsAnyhow Kept .standard 0 writtenInAllWays.1 writtenInAllWays.2 :=
    Machine.drive_run (fun _ _ _ => asked_of_isAsked kept_of_isKept) _ _ _ rfl
  exact ⟨run, settled_of_runs run, rfl, rfl, rfl, rfl, rfl, rfl⟩

end Endpoint

end StreamControl
