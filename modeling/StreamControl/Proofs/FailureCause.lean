import StreamControl.Proofs.JobOrder
import StreamControl.Proofs.TerminalCause

/-!
# What a promise is failed with

A stream fails a promise for a reason. There is no protocol stream yet, or the error is the one
that a reset, a close or an exception came with: from its job it gets into the flags of the stream
and into the outbox, and from there to the promises.
-/

namespace StreamControl.Endpoint

variable {η : Type} {allowed : Thread → Operation η → Prop} {o : Options} {owner : Thread}
  {h : Past η} {m m' : Live η} {rest agenda agenda' : Agenda η} {a : Deed η} {i : StreamInstr η}
  {e : Endpoint η}

/-- A stream keeps an error in its outbox or in its flags. -/
def Keeps (s : Stream η) (cause : Fault) : Prop :=
  s.outbox.closed = some cause ∨ (∃ code, cause = .reset code ∧ s.resetCode = some code) ∨
    (cause = .closed ∧ s.closed = true)

/-- The error of a closing or a failure that is still to come. -/
def faultEntry : Entry (StreamInstr η) (StreamCall η) StreamNote → List Fault
  | .todo (.work (.outbox (.close cause))) | .todo (.note (.failed _ cause)) => [cause]
  | _ => []

def faultsDue (agenda : Agenda η) : List Fault := agenda.flatMap faultEntry

@[simp] lemma faultsDue_append :
    faultsDue (agenda ++ agenda') = faultsDue agenda ++ faultsDue agenda' :=
  List.flatMap_append

@[simp] lemma failures_snoc (b : Live η × Deed η) :
    failures (h ++ [b]) = failures h ++ failure b.2 := by
  simp [failures]

/-! ## Where an error comes from -/

lemma keeps_of_directTarget {s : Stream η} {cause : Fault}
    (target : s.directTarget = .error cause) : cause = .notAllocated ∨ Keeps s cause := by
  unfold Stream.directTarget at target
  split at target
  · rename_i shown
    obtain rfl := Except.error.inj target
    exact .inr (.inr (flags_of_endCause? shown))
  · exact .inl (Except.error.inj target).symm
  · cases target

/-- The flags of a stream change only as the job says that changes them. -/
lemma flags_perform (e : Endpoint η) (job : Job η) :
    (∀ code, (e.perform job).1.stream.resetCode = some code →
      e.stream.resetCode = some code ∨ job.cause? = some (.reset code)) ∧
    ((e.perform job).1.stream.closed = true →
      e.stream.closed = true ∨ job.cause? = some .closed) := by
  by_cases ends : job.isEnd = true
  · cases job with
    | reset code | writeReset code | close =>
      simp only [perform, reset]
      (repeat' split) <;> simp_all [modify, Job.cause?]
    | _ => cases ends
  · rw [Bool.not_eq_true] at ends
    obtain ⟨same_code, same_closed⟩ := perform_other e job ends
    rw [same_code, same_closed]
    exact ⟨fun _ => .inl, .inl⟩

lemma keeps_perform {job : Job η} {cause : Fault} (keeps : Keeps (e.perform job).1.stream cause) :
    Keeps e.stream cause ∨ job.cause? = some cause := by
  obtain ⟨code_from, closed_from⟩ := flags_perform e job
  rcases keeps with closed | ⟨code, rfl, known⟩ | ⟨rfl, closed⟩
  · rw [perform_outbox] at closed
    exact .inl (.inl closed)
  · exact (code_from code known).imp_left fun known => .inr (.inl ⟨code, rfl, known⟩)
  · exact (closed_from closed).imp_left fun closed => .inr (.inr ⟨rfl, closed⟩)

/-- A job closes the outbox with its own error, and fails its own promise with what the stream
keeps. -/
lemma due_perform {job : Job η} {cause : Fault}
    (due : cause ∈ faultsDue ((e.perform job).2.map .todo)) :
    cause = .notAllocated ∨ Keeps e.stream cause ∨ job.cause? = some cause := by
  cases job with
  | writeFrame frame p | writeHeaders block fin flush p =>
    simp only [perform, headersOut] at due
    split at due
    · rename_i target
      obtain rfl := List.mem_singleton.mp due
      exact (keeps_of_directTarget target).imp_right .inl
    · repeat' split at due
      all_goals cases due
  | reset code | writeReset code | close | exception cause =>
    simp only [perform, reset] at due
    repeat' split at due
    all_goals simp_all [faultsDue, faultEntry, Job.cause?, trace]
  | data bytes | fin trailers | changePriority p | toggleWritable | announcePriority p =>
    simp only [perform] at due
    repeat' split at due
    all_goals cases due
  | _ => cases due

lemma due_cancelling {cause cause' : Fault} (ws : List (Write η))
    (due : cause ∈ faultsDue (((ws.map fun w => Todo.call (Outbox.Call.cancel w cause')).flatMap
      ofOutbox).map Entry.todo : Agenda η)) : cause = cause' := by
  induction ws with
  | nil => cases due
  | cons w ws ih => exact (List.mem_cons.mp due).elim id ih

/-- The outbox fails writes with the error that it was closed with. -/
lemma due_outbox {j : Outbox.Instr (Write η)} {cause : Fault}
    (due : cause ∈ faultsDue ((exec (.outbox j) e).2.map .todo)) :
    Keeps e.stream cause ∨ j = .close cause := by
  have effect := Outbox.exec_effect j e.stream.outbox
  simp only [exec] at due
  generalize (Outbox.exec j e.stream.outbox).1 = q' at *
  generalize (Outbox.exec j e.stream.outbox).2 = out at *
  cases effect with
  | late closed | dropped closed =>
    obtain rfl := List.mem_singleton.mp due
    exact .inl (.inl closed)
  | @closes q cause' opened =>
    have silent : faultsDue (((Outbox.warning cause' e.stream.outbox.pending).flatMap
        ofOutbox).map Entry.todo : Agenda η) = [] := by
      unfold Outbox.warning
      split <;> rfl
    rw [List.flatMap_append, List.map_append, faultsDue_append, silent, List.nil_append] at due
    exact .inr (by rw [due_cancelling _ due])
  | _ => cases due

lemma keeps_outbox {j : Outbox.Instr (Write η)} {cause : Fault}
    (keeps : Keeps (exec (.outbox j) e).1.stream cause) :
    Keeps e.stream cause ∨ j = .close cause := by
  rcases keeps with closed | flags
  · have effect := Outbox.exec_effect j e.stream.outbox
    by_cases shuts : ∃ cause', j = .close cause'
    · obtain ⟨cause', rfl⟩ := shuts
      rw [show (exec (.outbox (.close cause')) e).1.stream.outbox.closed = _ from
        effect.closed_eq_or, Option.or_eq_some_iff] at closed
      rcases closed with before | ⟨_, same⟩
      · exact .inl (.inl before)
      · exact .inr (by rw [Option.some.inj same])
    · rw [show (exec (.outbox j) e).1.stream.outbox.closed = _ from
        effect.closed_eq fun cause' same => shuts ⟨cause', same⟩] at closed
      exact .inl (.inl closed)
  · exact .inl (.inr flags)

/-- Nothing else has to do with errors. -/
lemma faults_other {cause : Fault} (no_perform : ∀ job, i ≠ .perform job)
    (no_outbox : ∀ j, i ≠ .outbox j)
    (seen : Keeps (exec i e).1.stream cause ∨ cause ∈ faultsDue ((exec i e).2.map .todo)) :
    Keeps e.stream cause := by
  rcases seen with keeps | due
  · obtain ⟨same_code, same_closed⟩ := exec_flags (e := e) no_perform
    rwa [Keeps, exec_outbox no_outbox, same_code, same_closed] at keeps
  · obtain ⟨_, hx, named⟩ := List.mem_flatMap.mp due
    obtain ⟨y, hy, rfl⟩ := List.mem_map.mp hx
    cases exec_leaves i e y hy with
    | fails job | outbox job => exact absurd rfl (no_perform job)
    | cancels j => exact absurd rfl (no_outbox j)
    | @notes _ n settles =>
      cases n with
      | failed p cause => cases settles
      | _ => cases named
    | _ => cases named

/-- Every error that a stream keeps or is about to fail something with was there before, or is
that of the job being done, or says that there is no protocol stream. -/
lemma faults_work {cause : Fault}
    (seen : Keeps (exec i e).1.stream cause ∨ cause ∈ faultsDue ((exec i e).2.map .todo)) :
    cause = .notAllocated ∨ cause ∈ does endings (.own (.work i)) ∨ Keeps e.stream cause ∨
      cause ∈ faultEntry (.todo (.work i)) := by
  cases i with
  | perform job =>
    have from_job : cause = .notAllocated ∨ Keeps e.stream cause ∨ job.cause? = some cause :=
      seen.elim (fun keeps => .inr (keeps_perform keeps)) due_perform
    rcases from_job with unallocated | before | named
    · exact .inl unallocated
    · exact .inr (.inr (.inl before))
    · exact .inr (.inl (Option.mem_toList.mpr named))
  | outbox j =>
    rcases seen.elim keeps_outbox due_outbox with before | rfl
    · exact .inr (.inr (.inl before))
    · exact .inr (.inr (.inr (List.mem_singleton.mpr rfl)))
  | _ => exact .inr (.inr (.inl (faults_other (by simp) (by simp) seen)))

/-! ## No promise is failed without a reason -/

/-- There was no protocol stream, or a job was done that has this error. -/
def Grounded (h : Past η) (cause : Fault) : Prop :=
  cause = .notAllocated ∨ cause ∈ done endings h

structure Justified (h : Past η) (m : Live η) : Prop where
  kept : ∀ cause, Keeps m.state.stream cause → Grounded h cause
  due : ∀ cause ∈ faultsDue m.agenda, Grounded h cause
  failed : ∀ x ∈ failures h, Grounded h x.2

lemma Grounded.snoc {b : Live η × Deed η} {cause : Fault} (grounded : Grounded h cause) :
    Grounded (h ++ [b]) cause :=
  grounded.imp_right fun named => by
    rw [done_snoc]
    exact List.mem_append_left _ named

lemma justified_work (justified : Justified h ⟨e, .todo (.work i) :: rest⟩) :
    Justified (h ++ [(⟨e, .todo (.work i) :: rest⟩, .own (.work i))])
      ⟨(exec i e).1, (exec i e).2.map .todo ++ rest⟩ := by
  obtain ⟨kept, due, failed⟩ := justified
  -- The deed is in the history already, so the error of a job that is done now counts.
  have seen {cause : Fault}
      (seen : Keeps (exec i e).1.stream cause ∨ cause ∈ faultsDue ((exec i e).2.map .todo)) :
      Grounded (h ++ [(⟨e, .todo (.work i) :: rest⟩, .own (.work i))]) cause := by
    rcases faults_work seen with unallocated | named | keeps | closing
    · exact .inl unallocated
    · refine .inr ?_
      rw [done_snoc]
      exact List.mem_append_right _ named
    · exact (kept _ keeps).snoc
    · exact (due _ (List.mem_append_left _ closing)).snoc
  refine ⟨fun cause keeps => seen (.inl keeps), fun cause named => ?_, fun x failing => ?_⟩
  · rw [faultsDue_append, List.mem_append] at named
    exact named.elim (fun left => seen (.inr left))
      fun below => (due _ (List.mem_append_right _ below)).snoc
  · have same : failures (h ++ [(⟨e, .todo (.work i) :: rest⟩, .own (.work i))]) = failures h := by
      simp [failure]
    rw [same] at failing
    exact (failed x failing).snoc

lemma Justified.later (justified : Justified h m) (none_failed : failure a = [])
    (same : m'.state.stream = m.state.stream)
    (none_new : faultsDue m'.agenda ⊆ faultsDue m.agenda) : Justified (h ++ [(m, a)]) m' := by
  refine ⟨fun cause keeps => ?_, fun cause due => ?_, fun x failing => ?_⟩
  · rw [same] at keeps
    exact (justified.kept cause keeps).snoc
  · exact (justified.due cause (none_new due)).snoc
  · rw [failures_snoc, none_failed, List.append_nil] at failing
    exact (justified.failed x failing).snoc

lemma faultsDue_resume (c : StreamCall η) (r : c.Reply) :
    faultsDue ((component.resume c r).map .todo : Agenda η) = [] :=
  view_resume (fun _ _ => rfl) (fun _ => rfl) c r

lemma justified_step (justified : Justified h m)
    (move : Machine.Move component (fun _ => Asked allowed) m a m') :
    Justified (h ++ [(m, a)]) m' := by
  cases move using Machine.Move.elim with
  | work e i rest => exact justified_work justified
  | call e c rest => exact justified.later rfl rfl fun _ => id
  | note e s rest =>
    cases s with
    | failed p cause =>
      refine ⟨fun cause keeps => (justified.kept cause keeps).snoc, fun cause due =>
        (justified.due cause (List.mem_cons_of_mem _ due)).snoc, fun x failing => ?_⟩
      rw [failures_snoc, List.mem_append] at failing
      rcases failing with before | now
      · exact (justified.failed x before).snoc
      · obtain rfl := List.mem_singleton.mp now
        exact (justified.due cause List.mem_cons_self).snoc
    | _ => exact justified.later rfl rfl fun _ => id
  | invoke m is called => cases called <;> exact justified.later rfl rfl fun _ => id
  | reply e c rest f =>
    refine justified.later rfl rfl ?_
    rw [faultsDue_append, faultsDue_resume]
    exact fun _ => id

lemma justified_of_runs (run : RunsAnyhow allowed o owner h m) : Justified h m := by
  induction run with
  | start =>
    refine ⟨fun cause keeps => ?_, nofun, nofun⟩
    rcases keeps with closed | ⟨code, _, known⟩ | ⟨_, closed⟩
    · cases closed
    · cases known
    · cases closed
  | step _ move ih => exact justified_step ih move

/-- A promise is failed for want of a protocol stream, or with the error of a job that an operation
asked for. -/
theorem asked_of_failed (run : RunsAnyhow Kept o owner h m) {p : PromiseId} {cause : Fault}
    (failing : (p, cause) ∈ failures h) : cause = .notAllocated ∨ cause ∈ asked endings h := by
  refine ((justified_of_runs run).failed _ failing).imp_right fun named => ?_
  refine (accounted_of_runs endings_ofCalls run).mem_iff.mpr ?_
  simp only [placed, List.append_assoc]
  exact List.mem_append_left _ named

end StreamControl.Endpoint
