import StreamControl.Proofs.StreamGuard

/-!
# The end of a stream

A stream that has ended closes its outbox before anything else can happen on the loop, and it
keeps the outbox closed. So the outbox answers for the stream: the gate need not look whether
the stream has ended.
-/

namespace StreamControl

/-- The error with which a job fails the writes that wait. -/
def Job.cause? {η : Type} : Job η → Option Fault
  | .reset code | .writeReset code => some (.reset code)
  | .close => some .closed
  | .exception cause => some cause
  | _ => none

namespace Endpoint

variable {η : Type} {all : Bool} {owner : Thread} {h : Past η} {m m' : Live η} {rest : Agenda η}

/-- The error of a closing that has still to begin. -/
def closing : Entry (StreamInstr η) (StreamCall η) StreamNote → List Fault
  | .todo (.work (.outbox (.close cause))) => [cause]
  | _ => []

def closings (agenda : Agenda η) : List Fault := agenda.flatMap closing

section Views

variable (x : Entry (StreamInstr η) (StreamCall η) StreamNote) (agenda agenda' : Agenda η)

@[simp] lemma closings_nil : closings ([] : Agenda η) = [] := rfl

@[simp] lemma closings_cons : closings (x :: agenda) = closing x ++ closings agenda := rfl

@[simp] lemma closings_append :
    closings (agenda ++ agenda') = closings agenda ++ closings agenda' :=
  List.flatMap_append

end Views

lemma closings_of_unlocked {agenda : Agenda η} (unlocked : Unlocked all agenda) :
    closings agenda = [] := by
  rw [closings, List.flatMap_eq_nil_iff]
  intro x hx
  rw [Unlocked, List.any_eq_false] at unlocked
  have free := unlocked x hx
  unfold closing
  split
  · exact absurd rfl free
  · rfl

/-! ## What each instruction changes -/

section Perform

variable (e : Endpoint η) (job : Job η)

lemma perform_outbox : (e.perform job).1.stream.outbox = e.stream.outbox := by
  have alters := alters_perform e job
  generalize (e.perform job).1 = e' at *
  cases alters <;> rfl

lemma perform_other (other : job.isEnd = false) :
    (e.perform job).1.stream.resetCode = e.stream.resetCode ∧
      (e.perform job).1.stream.closed = e.stream.closed := by
  have alters := alters_perform e job
  generalize (e.perform job).1 = e' at *
  cases alters with
  | resets e resets => rcases resets with rfl | rfl <;> cases other
  | sendsReset | closes => cases other
  | _ => exact ⟨rfl, rfl⟩

lemma perform_resetCode {code : Nat} (known : e.stream.resetCode = some code) :
    (e.perform job).1.stream.resetCode = some code := by
  cases job with
  | reset code' => simp [perform, reset, known]
  | writeReset code' =>
    simp only [perform]
    split
    · simp [Stream.hasEnded, known]
    · simp [reset, known]
  | close =>
    simp only [perform]
    split <;> exact known
  | _ => rw [(perform_other e _ rfl).1, known]

lemma perform_closed (known : e.stream.closed = true) :
    (e.perform job).1.stream.closed = true := by
  cases job with
  | reset code =>
    simp only [perform, reset]
    split <;> exact known
  | writeReset code =>
    simp only [perform, reset]
    (repeat' split) <;> exact known
  | close => simp [perform, known]
  | _ => rw [(perform_other e _ rfl).2, known]

/-- The first job that ends a stream settles how it ended. -/
lemma perform_first (ends : job.isEnd) (ongoing : e.stream.hasEnded = false) :
    (e.perform job).1.stream.endCause? = job.cause? ∧
      closings ((e.perform job).2.map .todo) = job.cause?.toList := by
  simp only [Stream.hasEnded, Bool.or_eq_false_iff, Option.isSome_eq_false_iff,
    Option.isNone_iff_eq_none] at ongoing
  obtain ⟨unreset, unclosed⟩ := ongoing
  cases job with
  | reset code =>
    simp [perform, reset, unreset, modify, Stream.endCause?, Job.cause?, closing, trace]
  | writeReset code =>
    have ongoing : e.stream.hasEnded = false := by simp [Stream.hasEnded, unreset, unclosed]
    simp only [perform, reset, ongoing, unreset]
    split <;> simp [modify, Stream.endCause?, Job.cause?, closing, trace]
  | close =>
    simp [perform, unreset, unclosed, modify, Stream.endCause?, Job.cause?, closing, trace]
  | _ => cases ends

/-- Every job with an error for the waiting writes closes the outbox with it, unless the stream
has ended before. -/
lemma perform_closes {cause : Fault} (named : job.cause? = some cause) :
    closings ((e.perform job).2.map .todo) = [cause] ∨
      (e.stream.hasEnded = true ∧ closings ((e.perform job).2.map .todo) = []) := by
  by_cases ended : e.stream.hasEnded = true
  · cases job with
    | reset code =>
      cases named
      by_cases known : e.stream.resetCode.isSome = true
      · exact .inr ⟨ended, by simp [perform, reset, known]⟩
      · exact .inl (by simp [perform, reset, known, closing, trace])
    | writeReset code =>
      cases named
      simp only [perform, reset, ended, if_true]
      split
      · exact .inr ⟨trivial, rfl⟩
      · split
        · exact .inr ⟨trivial, rfl⟩
        · exact .inl rfl
    | close =>
      cases named
      simp only [perform]
      split
      · exact .inr ⟨ended, rfl⟩
      · exact .inl rfl
    | exception cause =>
      cases named
      exact .inl rfl
    | _ => cases named
  · rw [Bool.not_eq_true] at ended
    by_cases ends : job.isEnd = true
    · exact .inl (by rw [(perform_first e job ends ended).2, named]; rfl)
    · cases job with
      | reset code | writeReset code | close => exact absurd rfl ends
      | exception cause =>
        cases named
        exact .inl rfl
      | _ => cases named

lemma perform_closings (unnamed : job.cause? = none) :
    closings ((e.perform job).2.map .todo) = [] := by
  cases job with
  | reset code | writeReset code | close | exception cause => cases unnamed
  | data bytes | fin trailers | changePriority p | writeFrame frame p
  | toggleWritable | announcePriority p =>
    simp only [perform]
    (repeat' split) <;> rfl
  | writeHeaders block fin flush p =>
    simp only [perform, headersOut]
    (repeat' split) <;> rfl
  | _ => rfl

lemma perform_hasEnded (ended : e.stream.hasEnded = true) :
    (e.perform job).1.stream.hasEnded = true := by
  rw [Stream.hasEnded, Bool.or_eq_true] at ended ⊢
  rcases ended with known | known
  · obtain ⟨code, known⟩ := Option.isSome_iff_exists.mp known
    exact .inl (by rw [perform_resetCode e job known]; rfl)
  · exact .inr (perform_closed e job known)

lemma perform_end_hasEnded (ends : job.isEnd) : (e.perform job).1.stream.hasEnded = true := by
  by_cases ended : e.stream.hasEnded = true
  · exact perform_hasEnded e job ended
  · rw [Bool.not_eq_true] at ended
    have cause := (perform_first e job ends ended).1
    rw [Stream.hasEnded]
    cases hr : (e.perform job).1.stream.resetCode with
    | some code => rfl
    | none =>
      by_contra unclosed
      rw [Option.isSome_none, Bool.false_or, Bool.not_eq_true] at unclosed
      rw [Stream.endCause?, hr, unclosed] at cause
      cases job <;> cases ends <;> cases cause

end Perform

section Exec

variable {i : StreamInstr η} {e : Endpoint η}

lemma exec_outbox (other : ∀ j, i ≠ .outbox j) :
    (exec i e).1.stream.outbox = e.stream.outbox := by
  have alters := exec_alters i e
  generalize (exec i e).1 = e' at *
  cases alters with
  | outbox j => exact absurd rfl (other j)
  | _ => rfl

/-- Only its own instructions change the outbox of a stream. -/
lemma exec_outbox_cases (i : StreamInstr η) (e : Endpoint η) :
    (∃ j, i = .outbox j ∧ Outbox.Effect j e.stream.outbox (exec i e).1.stream.outbox
        (Outbox.exec j e.stream.outbox).2) ∨
      ((∀ j, i ≠ .outbox j) ∧ (exec i e).1.stream.outbox = e.stream.outbox) := by
  by_cases outbox : ∃ j, i = .outbox j
  · obtain ⟨j, rfl⟩ := outbox
    exact .inl ⟨j, rfl, Outbox.exec_effect j e.stream.outbox⟩
  · have other : ∀ j, i ≠ .outbox j := fun j same => outbox ⟨j, same⟩
    exact .inr ⟨other, exec_outbox other⟩

lemma exec_flags (other : ∀ job, i ≠ .perform job) :
    (exec i e).1.stream.resetCode = e.stream.resetCode ∧
      (exec i e).1.stream.closed = e.stream.closed := by
  have alters := exec_alters i e
  generalize (exec i e).1 = e' at *
  cases alters with
  | resets | sendsReset | closes => exact absurd rfl (other _)
  | _ => exact ⟨rfl, rfl⟩

lemma exec_hasEnded (other : ∀ job, i ≠ .perform job) :
    (exec i e).1.stream.hasEnded = e.stream.hasEnded := by
  obtain ⟨same_code, same_closed⟩ := exec_flags (e := e) other
  rw [Stream.hasEnded, Stream.hasEnded, same_code, same_closed]

/-- Only jobs ask for the outbox to be closed. -/
lemma exec_closings (other : ∀ job, i ≠ .perform job) :
    closings ((exec i e).2.map .todo) = [] := by
  have without_locks (unlocked : Unlocked false ((exec i e).2.map .todo)) :
      closings ((exec i e).2.map .todo) = [] := closings_of_unlocked unlocked
  cases i with
  | perform job => exact absurd rfl (other job)
  | deliver item =>
    cases item with
    | data bytes =>
      simp only [exec, deliver]
      (repeat' split) <;> rfl
    | fin trailers => rfl
  | attempt w =>
    simp only [exec, attempt, headersOut]
    (repeat' split) <;> rfl
  | outbox j =>
    rcases outbox_leaves e.stream.outbox j with unlocked | ⟨_, _, w, leaves⟩
    · exact without_locks unlocked
    · simp only [exec, leaves]
      rfl
  | _ => exact without_locks (exec_unlocked rfl e)

end Exec

/-! ## The outbox of a stream that has ended -/

/-- A stream that has ended has its outbox closed, or this comes before anything else. -/
structure Sealed (m : Live η) : Prop where
  closes : m.state.stream.hasEnded = true →
    m.state.stream.outbox.closed ≠ none ∨ closings m.agenda ≠ []
  empty : m.state.stream.outbox.closed ≠ none → m.state.stream.outbox.pending = []

section AtJob

variable {e : Endpoint η} {job : Job η}

lemma closings_below (guarded : GuardedNow all ⟨e, .todo (.work (.perform job)) :: rest⟩) :
    closings rest = [] :=
  closings_of_unlocked (unlocked_of_guarded guarded rfl id)

/-- By the time that the loop comes to another job, the outbox of a stream that has ended is
closed. -/
lemma Sealed.closed_of_ended (sealed : Sealed ⟨e, .todo (.work (.perform job)) :: rest⟩)
    (guarded : GuardedNow all ⟨e, .todo (.work (.perform job)) :: rest⟩)
    (ended : e.stream.hasEnded = true) : e.stream.outbox.closed ≠ none := by
  rcases sealed.closes ended with closed | due
  · exact closed
  · simp [closing, closings_below guarded] at due

end AtJob

lemma sealed_work {i : StreamInstr η} {e : Endpoint η}
    (sealed : Sealed ⟨e, .todo (.work i) :: rest⟩)
    (guarded : GuardedNow all ⟨e, .todo (.work i) :: rest⟩) :
    Sealed ⟨(exec i e).1, (exec i e).2.map .todo ++ rest⟩ := by
  have ⟨closes, empty⟩ := sealed
  cases i with
  | perform job =>
    have same : (exec (.perform job) e).1.stream.outbox = e.stream.outbox := perform_outbox e job
    refine ⟨fun ended => ?_, by rw [same]; exact empty⟩
    rw [same, closings_append, closings_below guarded, List.append_nil]
    cases hc : job.cause? with
    | none =>
      have other : job.isEnd = false := by
        cases job with
        | reset code | writeReset code | close => cases hc
        | _ => rfl
      have before : e.stream.hasEnded = true := by
        obtain ⟨same_code, same_closed⟩ := perform_other e job other
        rw [Stream.hasEnded, ← same_code, ← same_closed]
        exact ended
      exact .inl (sealed.closed_of_ended guarded before)
    | some cause =>
      rcases perform_closes e job hc with asked | ⟨before, _⟩
      · exact .inr (by simp [exec, asked])
      · exact .inl (sealed.closed_of_ended guarded before)
  | outbox j =>
    have effect := Outbox.exec_effect j e.stream.outbox
    refine ⟨fun ended => ?_, effect.empty_of_closed empty⟩
    by_cases shuts : ∃ cause, j = .close cause
    · obtain ⟨cause, rfl⟩ := shuts
      refine .inl ?_
      rw [show (exec (.outbox (.close cause)) e).1.stream.outbox.closed = _ from
        effect.closed_eq_or]
      cases e.stream.outbox.closed <;> exact Option.some_ne_none _
    · have none_first : closing (.todo (.work (.outbox j)) : Entry (StreamInstr η) _ _) = [] := by
        cases j with
        | close cause => exact absurd ⟨cause, rfl⟩ shuts
        | _ => rfl
      rw [closings_append, exec_closings (by simp), List.nil_append]
      simp only [closings_cons, none_first, List.nil_append] at closes
      rcases closes ended with closed | due
      · obtain ⟨cause, known⟩ := Option.ne_none_iff_exists'.mp closed
        exact .inl (Option.ne_none_iff_exists'.mpr ⟨cause, effect.stays_closed known⟩)
      · exact .inr due
  | _ =>
    refine ⟨fun ended => ?_, ?_⟩
    · rw [exec_hasEnded (by simp)] at ended
      rw [exec_outbox (by simp), closings_append, exec_closings (by simp), List.nil_append]
      exact closes ended
    · rw [exec_outbox (by simp)]
      exact empty

lemma closings_resume (c : StreamCall η) (r : c.Reply) :
    closings ((component.resume c r).map .todo : Agenda η) = [] :=
  view_resume (fun _ _ => rfl) (fun _ => rfl) c r

lemma sealed_step {a : Deed η} (sealed : Sealed m) (guarded : GuardedNow all m)
    (move : Machine.Move component (Request all) m a m') : Sealed m' := by
  cases move using Machine.Move.elim with
  | work e i rest => exact sealed_work sealed guarded
  | call e c rest => exact ⟨sealed.closes, sealed.empty⟩
  | note e s rest => exact ⟨sealed.closes, sealed.empty⟩
  | invoke m is asked => cases asked <;> exact ⟨sealed.closes, sealed.empty⟩
  | reply e c rest f =>
    refine ⟨fun ended => ?_, sealed.empty⟩
    rw [closings_append, closings_resume]
    exact sealed.closes ended

theorem sealed_of_runs {o : Options} (run : Runs all o owner h m) : Sealed m := by
  induction run with
  | start =>
    have ongoing : (fresh o owner : Endpoint η).stream.hasEnded = false := rfl
    exact ⟨fun ended => absurd ended (ongoing.trans_ne Bool.false_ne_true), fun _ => rfl⟩
  | step run move ih => exact sealed_step ih (guarded_of_runs run) move

end Endpoint

end StreamControl
