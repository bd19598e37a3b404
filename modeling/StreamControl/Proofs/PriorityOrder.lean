import StreamControl.Proofs.JobOrder

/-!
# The priority that the peer is told

An update stores the priority at once, on the thread that calls it, and has the peer told by a
job. So the peer is told of every change once, and last of the last one as long as no change gets
ahead of another one. A change that is made on the loop gets ahead of those that are posted.
-/

namespace StreamControl.Endpoint

variable {η : Type} {o : Options} {owner : Thread} {h h' : Past η} {m m₁ m' : Live η}
  {rest agenda agenda' : Agenda η} {a : Deed η} {i : StreamInstr η} {e : Endpoint η}

def isByUpdates (_ : Thread) : Operation η → Bool
  | .setPriority _ | .changePriority _ | .dropLoop => false
  | _ => true

/-- The priority is changed by updates alone. -/
def ByUpdates (t : Thread) (op : Operation η) : Prop := isByUpdates t op = true

/-- The change that a job tells the peer of. -/
def tells : Job η → List Priority
  | .announcePriority p => [p]
  | _ => []

/-- The changes that updates made, in the order in which they were made. -/
def updates (h : Past η) : List Priority := asked tells h

/-- Changes are made on an allocated stream. -/
def UpdatesAllocated (h : Past η) : Prop :=
  ∀ b ∈ h, asks tells b ≠ [] → b.1.state.stream.slot ≠ .unallocated

instance (h : Past η) : Decidable (UpdatesAllocated h) :=
  inferInstanceAs (Decidable (∀ b ∈ h, asks tells b ≠ [] → b.1.state.stream.slot ≠ .unallocated))

def sends : Deed η → List Priority
  | .own (.call (.conn (.sendPriority _ p))) => [p]
  | _ => []

/-- The priorities that the peer was sent, in this order. -/
def sent (h : Past η) : List Priority := h.flatMap fun b => sends b.2

def sendingEntry : Entry (StreamInstr η) (StreamCall η) StreamNote → List Priority
  | .todo (.call (.conn (.sendPriority _ p))) => [p]
  | _ => []

/-- The priorities that are sent next. -/
def sending (agenda : Agenda η) : List Priority := agenda.flatMap sendingEntry

section Views

variable (b : Live η × Deed η) (x : Entry (StreamInstr η) (StreamCall η) StreamNote)

@[simp] lemma sent_snoc : sent (h ++ [b]) = sent h ++ sends b.2 := by
  simp [sent]

lemma sent_append : sent (h ++ h') = sent h ++ sent h' :=
  List.flatMap_append

@[simp] lemma sending_cons : sending (x :: agenda) = sendingEntry x ++ sending agenda := rfl

@[simp] lemma sending_append : sending (agenda ++ agenda') = sending agenda ++ sending agenda' :=
  List.flatMap_append

end Views

lemma tells_ofCalls : OfCalls (tells : Job η → List Priority) := ⟨rfl, rfl⟩

lemma kept_of_byUpdates (t : Thread) (op : Operation η) (may : ByUpdates t op) : Kept t op := by
  rintro rfl
  cases may

/-! ## The job tells the peer -/

lemma perform_sending (job : Job η) (allocated : tells job ≠ [] → e.stream.slot ≠ .unallocated) :
    sending ((e.perform job).2.map .todo) = tells job := by
  cases job with
  | announcePriority p =>
    simp only [perform]
    split
    · rfl
    · rename_i unallocated
      exact absurd unallocated (allocated (List.cons_ne_nil _ _))
  | data bytes | fin trailers | reset code | changePriority p | toggleWritable | close
  | writeFrame frame p | writeHeaders block fin flush p | writeReset code =>
    simp only [perform, reset, headersOut]
    (repeat' split) <;> rfl
  | _ => rfl

/-- Nothing else tells the peer of a priority. -/
lemma sending_exec (other : ∀ job, i ≠ .perform job) :
    sending ((exec i e).2.map .todo) = [] := by
  by_cases attempts : ∃ w, i = .attempt w
  · obtain ⟨w, rfl⟩ := attempts
    simp only [exec, attempt, headersOut]
    (repeat' split) <;> rfl
  · refine view_exec fun x leaves => ?_
    cases leaves with
    | sends job near => exact absurd rfl (other job)
    | sendsQueued w near => exact absurd ⟨w, rfl⟩ attempts
    | @counts t op p counting =>
      cases p with
      | sendPriority id p => cases counting
      | _ => rfl
    | _ => rfl

lemma work_sending (allocated : does tells (.own (.work i)) ≠ [] → e.stream.slot ≠ .unallocated) :
    sending ((exec i e).2.map .todo) = does tells (.own (.work i)) := by
  cases i with
  | perform job => exact perform_sending job allocated
  | _ => exact sending_exec (by simp)

/-- What tells the peer is done on the loop, so nothing that was left to tell is below it. -/
lemma none_sending_below (shielded : CoveredNow shield ⟨e, .todo (.work i) :: rest⟩)
    (tells_now : does tells (.own (.work i)) ≠ []) : sending rest = [] := by
  cases i with
  | perform job =>
    refine view_below shielded rfl id fun x free => ?_
    unfold sendingEntry
    split
    · cases free
    · rfl
  | _ => exact absurd rfl tells_now

lemma exec_slot (allocated : e.stream.slot ≠ .unallocated) :
    (exec i e).1.stream.slot ≠ .unallocated := by
  cases i with
  | bind id writable =>
    simp only [exec, bind]
    split
    · exact allocated
    · exact Slot.noConfusion
  | _ => rwa [(exec_writable rfl).2]

/-- What is told is sent, in the same order; whatever was asked for found the stream allocated. -/
structure Telling (h : Past η) (m : Live η) : Prop where
  told : done tells h = sent h ++ sending m.agenda
  allocated : updates h ≠ [] → m.state.stream.slot ≠ .unallocated

lemma telling_work (telling : Telling h ⟨e, .todo (.work i) :: rest⟩)
    (accounted : (updates h).Perm (placed tells h ⟨e, .todo (.work i) :: rest⟩))
    (shielded : CoveredNow shield ⟨e, .todo (.work i) :: rest⟩)
    (on_allocated : asks tells (⟨e, .todo (.work i) :: rest⟩, .own (.work i)) ≠ [] →
      e.stream.slot ≠ .unallocated) :
    Telling (h ++ [(⟨e, .todo (.work i) :: rest⟩, .own (.work i))])
      ⟨(exec i e).1, (exec i e).2.map .todo ++ rest⟩ := by
  obtain ⟨told, allocated⟩ := telling
  constructor
  · have told_now := work_sending (i := i) (e := e) fun tells_now => allocated fun none_asked => by
      -- A job that is done was asked for.
      rw [none_asked, List.nil_perm] at accounted
      cases i with
      | perform job =>
        have none_due : tells job = [] := by simp_all [placed, dueEntry]
        exact tells_now none_due
      | _ => exact tells_now rfl
    rw [done_snoc, sent_snoc, sending_append, told_now, told, sending_cons]
    by_cases tells_now : does tells (.own (.work i) : Deed η) = []
    · simp [tells_now, sendingEntry, sends]
    · simp [none_sending_below shielded tells_now, sendingEntry, sends]
  · intro asked_now
    refine exec_slot ?_
    rw [updates, asked_snoc, ne_eq, List.append_eq_nil_iff, not_and_or] at asked_now
    exact asked_now.elim allocated on_allocated

lemma telling_step (telling : Telling h m) (accounted : (updates h).Perm (placed tells h m))
    (shielded : CoveredNow shield m)
    (on_allocated : asks tells (m, a) ≠ [] → m.state.stream.slot ≠ .unallocated)
    (move : Machine.Move component (Called ByUpdates) m a m') : Telling (h ++ [(m, a)]) m' := by
  obtain ⟨told, allocated⟩ := telling
  cases move using Machine.Move.elim with
  | work e i rest => exact telling_work ⟨told, allocated⟩ accounted shielded on_allocated
  | call e c rest =>
    refine ⟨?_, by simpa [updates, asks] using allocated⟩
    rw [done_snoc, sent_snoc, told]
    cases c with
    | conn p => cases p <;> simp [does, sends, sendingEntry]
    | hook k => simp [does, sends, sendingEntry]
  | note e s rest =>
    exact ⟨by simpa [does, sends, sendingEntry] using told,
      by simpa [updates, asks] using allocated⟩
  | invoke m is called =>
    cases called <;> exact ⟨by simpa [does, sends, Machine.invoke, sendingEntry] using told,
      by simpa [updates, asks, Machine.invoke] using allocated⟩
  | reply e c rest f =>
    have none_left : sending ((component.resume c (f c)).map .todo : Agenda η) = [] :=
      view_resume (fun _ _ => rfl) (fun _ => rfl) c (f c)
    refine ⟨?_, by simpa [updates, asks] using allocated⟩
    rw [done_snoc, sent_snoc, told, sending_append, none_left]
    simp [does, sends, sendingEntry]

lemma telling_of_runs (run : RunsFreely ByUpdates o owner h m) (on_allocated : UpdatesAllocated h) :
    Telling h m := by
  induction run with
  | start => exact ⟨rfl, fun asked => absurd rfl asked⟩
  | step run move ih =>
    have before := ih fun b hb => on_allocated b (List.mem_append_left _ hb)
    exact telling_step before
      (accounted_of_runs tells_ofCalls (anyhow_of_freely kept_of_byUpdates run))
      (shielded_of_runs run) (on_allocated _ (List.mem_append_right _ List.mem_cons_self)) move

/-! ## The priority is that of the last update -/

/-- The change that a job makes for the peer. -/
def accepts : Job η → List Priority
  | .changePriority p => [p]
  | _ => []

lemma accepts_ofCalls : OfCalls (accepts : Job η → List Priority) := ⟨rfl, rfl⟩

lemma accepts_never (t : Thread) (op : Operation η) (job : Job η) (may : ByUpdates t op)
    (asked : op.job? = some job) : accepts job = [] := by
  cases job with
  | changePriority p =>
    cases op with
    | changePriority q => cases may
    | writeHeaders block first fin flush p => cases first <;> cases asked
    | _ => cases asked
  | _ => rfl

lemma perform_priority (job : Job η) (no_change : accepts job = []) :
    (e.perform job).1.stream.priority = e.stream.priority := by
  have alters := alters_perform e job
  generalize (e.perform job).1 = e' at *
  cases alters with
  | changesPriority => cases no_change
  | _ => rfl

lemma begin_priority {t : Thread} {op : Operation η} (may : ByUpdates t op) (agenda : Agenda η) :
    (exec (.enter t op) e).1.stream.priority =
      (asks tells (⟨e, agenda⟩, .own (.work (.enter t op)))).getLastD e.stream.priority := by
  cases op with
  | setPriority p => cases may
  | writeHeaders block first fin flush p => cases first <;> rfl
  | updatePriority p =>
    simp only [exec, asks, begin]
    split <;> rfl
  | _ => rfl

/-- Updates alone change the priority. -/
lemma exec_priority (may : ∀ t op, i = .enter t op → ByUpdates t op)
    (no_change : does accepts (.own (.work i)) = []) (agenda : Agenda η) :
    (exec i e).1.stream.priority =
      (asks tells (⟨e, agenda⟩, .own (.work i))).getLastD e.stream.priority := by
  cases i with
  | enter t op => exact begin_priority (may t op rfl) agenda
  | perform job => exact perform_priority job no_change
  | bind id writable =>
    simp only [exec, bind]
    split <;> rfl
  | deliver item => cases item <;> rfl
  | attempt w =>
    simp only [exec, attempt]
    (repeat' split) <;> rfl
  | _ => rfl

lemma current_step {p : Priority}
    (current : m.state.stream.priority = (updates h).getLastD p)
    (entered : ∀ t op, .todo (.work (.enter t op)) ∈ m.agenda → ByUpdates t op)
    (none_due : due accepts m.agenda = [])
    (move : Machine.Move component (Called ByUpdates) m a m') :
    m'.state.stream.priority = (updates (h ++ [(m, a)])).getLastD p := by
  rw [updates, asked_snoc, List.getLastD_eq_getLast?, List.getLast?_append, Option.getD_or,
    ← List.getLastD_eq_getLast?, ← List.getLastD_eq_getLast?]
  rw [updates] at current
  cases move using Machine.Move.elim with
  | work e i rest =>
    rw [← current]
    refine exec_priority (fun t op same => entered t op ?_) ?_ _
    · rw [same]
      exact List.mem_cons_self
    · cases i with
      | perform job => exact (List.append_eq_nil_iff.mp none_due).1
      | _ => rfl
  | _ => exact current

lemma current_of_runs (before : RunsFreely ByUpdates o owner h m₁)
    (later : Machine.Run component (Called ByUpdates) m₁ h' m) :
    m.state.stream.priority = (updates h').getLastD m₁.state.stream.priority := by
  induction later with
  | start => rfl
  | step later move ih =>
    have anyhow := anyhow_of_freely (fun _ _ may => may) (before.append later)
    have none_placed := (none_placed accepts_ofCalls kept_of_byUpdates accepts_never anyhow).2
    simp only [placed, List.append_eq_nil_iff] at none_placed
    exact current_step ih (entered_of_runs anyhow) none_placed.1.1.2 move

/-! ## From rest to rest -/

section BetweenRests

variable (before : RunsFreely ByUpdates o owner h m₁) (rested : AtRest m₁)
  (later : Machine.Run component (Called ByUpdates) m₁ h' m) (rests : AtRest m)

include before rested later rests

/-- Every job that tells the peer has sent its frame. -/
lemma sent_of_rest (on_allocated : UpdatesAllocated (h ++ h')) : sent h' = done tells h' := by
  have told_before := (telling_of_runs before fun b hb =>
    on_allocated b (List.mem_append_left _ hb)).told
  have told := (telling_of_runs (before.append later) on_allocated).told
  rw [rested.returned, sending, List.flatMap_nil, List.append_nil] at told_before
  rw [rests.returned, sending, List.flatMap_nil, List.append_nil, sent_append, ← told_before, done,
    List.flatMap_append] at told
  exact (List.append_cancel_left told).symm

/-- Every change had its job done. -/
lemma done_of_rest : (done tells h').Perm (updates h') := by
  have all := accounted_of_runs tells_ofCalls
    (anyhow_of_freely kept_of_byUpdates (before.append later))
  have all_before := accounted_of_runs tells_ofCalls (anyhow_of_freely kept_of_byUpdates before)
  rw [rests.quiet.placed_eq] at all
  rw [rested.quiet.placed_eq] at all_before
  have split : (asked tells h ++ updates h').Perm (done tells h ++ done tells h') := by
    simpa [asked, updates, done] using all
  exact ((List.perm_append_left_iff _).mp (split.trans (all_before.symm.append_right _))).symm

end BetweenRests

/-- At rest the peer was told of every change once. The priority is that of the last update, and
if no change got ahead of another one, the peer was told so last. -/
structure Told (h : Past η) (before m : Live η) : Prop where
  each_once : (sent h).Perm (updates h)
  current : m.state.stream.priority = (updates h).getLastD before.state.stream.priority
  in_order : NoneOvertaken tells h → sent h = updates h
  converges : NoneOvertaken tells h → updates h ≠ [] →
    (sent h).getLast? = some m.state.stream.priority

/-- Let the priority be changed by updates alone, and on an allocated stream. From one moment of
rest to another, the peer is told of all that was changed. -/
theorem told_of_updates (before : RunsFreely ByUpdates o owner h m₁) (rested : AtRest m₁)
    (later : Machine.Run component (Called ByUpdates) m₁ h' m) (rests : AtRest m)
    (on_allocated : UpdatesAllocated (h ++ h')) : Told h' m₁ m := by
  have sent_eq := sent_of_rest before rested later rests on_allocated
  have current := current_of_runs before later
  have in_order (none_overtaken : NoneOvertaken tells h') : sent h' = updates h' := by
    have ordered := ordered_of_runs tells_ofCalls kept_of_byUpdates before rested.quiet later
      none_overtaken
    rw [sent_eq, updates, ordered, rests.quiet.placed_eq]
  refine ⟨?_, current, in_order, fun none_overtaken changed => ?_⟩
  · rw [sent_eq]
    exact done_of_rest before rested later rests
  · rw [in_order none_overtaken, current, List.getLastD_eq_getLast?]
    obtain ⟨p, last⟩ := Option.ne_none_iff_exists'.mp (mt List.getLast?_eq_none_iff.mp changed)
    rw [last]
    rfl

/-- The initial priority, but for the stream that is depended on. -/
def dependingOn (id : Nat) : Priority := Priority.initial.withDependency id

/-- Two other threads change the priority, and then the loop does, after a pass. -/
def updatedByThreads : Past Nat × Live Nat :=
  Machine.drive component 60
    [.ask [.enter 0 (.allocate 1)], .reply (plainly true .success),
      .ask [.enter 1 (.updatePriority (dependingOn 3))],
      .ask [.enter 2 (.updatePriority (dependingOn 5))], .ask [.enter 0 .runLoop],
      .reply (plainly true .success), .reply (plainly true .success),
      .ask [.enter 0 (.updatePriority (dependingOn 7))], .reply (plainly true .success)]
    (.idle (fresh .standard 0))

theorem told_updatedByThreads :
    RunsFreely ByUpdates .standard 0 updatedByThreads.1 updatedByThreads.2 ∧
      UpdatesAllocated updatedByThreads.1 ∧ NoneOvertaken tells updatedByThreads.1 ∧
      AtRest updatedByThreads.2 ∧
      sent updatedByThreads.1 = [dependingOn 3, dependingOn 5, dependingOn 7] ∧
      (sent updatedByThreads.1).getLast? = some updatedByThreads.2.state.stream.priority := by
  have run : RunsFreely ByUpdates .standard 0 updatedByThreads.1 updatedByThreads.2 :=
    Machine.drive_run (fun _ _ => called_of_isCalled
      fun t op (checked : isByUpdates t op = true) => checked) _ _ _ rfl
  have on_allocated : UpdatesAllocated updatedByThreads.1 := by decide
  have told := told_of_updates .start ⟨rfl, rfl⟩ run ⟨rfl, rfl⟩ on_allocated
  exact ⟨run, on_allocated, rfl, ⟨rfl, rfl⟩, rfl, told.converges rfl nofun⟩

/-- Another thread changes the priority, and the loop does so before it makes its pass. -/
def updatedMeanwhile : Past Nat × Live Nat :=
  Machine.drive component 60
    [.ask [.enter 0 (.allocate 1)], .reply (plainly true .success),
      .ask [.enter 1 (.updatePriority (dependingOn 3))],
      .ask [.enter 0 (.updatePriority (dependingOn 5))], .reply (plainly true .success),
      .ask [.enter 0 .runLoop], .reply (plainly true .success)]
    (.idle (fresh .standard 0))

/-- The peer may be told last of a change that was not the last one: what is changed on the loop
gets ahead of what is posted. -/
theorem not_told_of_updates :
    ¬ (∀ (h : Past Nat) (m : Live Nat),
      Machine.Run component (OneByOne ByUpdates) (.idle (fresh .standard 0)) h m →
      UpdatesAllocated h → AtRest m → updates h ≠ [] →
      (sent h).getLast? = some m.state.stream.priority) := by
  intro all
  have run : Machine.Run component (OneByOne ByUpdates) (.idle (fresh .standard 0))
      updatedMeanwhile.1 updatedMeanwhile.2 :=
    Machine.drive_run (fun _ _ _ => oneByOne_of_isAsked
      fun t op (checked : isByUpdates t op = true) => checked) _ _ _ rfl
  have last := all _ _ run (by decide) ⟨rfl, rfl⟩ nofun
  exact absurd last (by decide)

end StreamControl.Endpoint
