import Mathlib.Data.List.Perm.Basic
import StreamControl.Proofs.StreamShield
import StreamControl.Proofs.Writability

/-!
# Jobs on their way to the loop

An operation that begins may ask for a job, which is done on the loop: at once if the operation was
called there, else it is posted behind the others. Every job that was asked for is done once, as
long as the loop keeps its runner. Jobs are done in the order in which they were asked for, unless
one is done at once while others are posted, or is asked for while another call has not yet handed
its own over. Which jobs are followed, and what is seen of them, is left open.
-/

namespace StreamControl.Endpoint

variable {η β : Type} {allowed : Thread → Operation η → Prop} {o : Options} {owner : Thread}
  {h h' : Past η} {m m₁ m' : Live η} {rest : Agenda η} {i : StreamInstr η} {e : Endpoint η}
  {a : Deed η} (f : Job η → List β)

def askedBy : StreamTodo η → List β
  | .work (.dispatch job) => f job
  | _ => []

/-- What an operation asks the loop for when it begins. -/
def asks (b : Live η × Deed η) : List β :=
  match b.2 with
  | .own (.work (.enter t op)) =>
    (begin { b.1.state with thread := t } op).2.flatMap (askedBy f)
  | _ => []

def does : Deed η → List β
  | .own (.work (.perform job)) => f job
  | _ => []

/-- What was asked for, in the order in which the operations were called. -/
def asked (h : Past η) : List β := h.flatMap (asks f)

/-- What was done, in this order. -/
def done (h : Past η) : List β := h.flatMap fun b => does f b.2

/-- A job that its operation has not yet handed over. -/
def comingEntry : Entry (StreamInstr η) (StreamCall η) StreamNote → List β
  | .todo (.work (.dispatch job)) | .todo (.work (.loop (.post job))) => f job
  | _ => []

/-- A job that is done next. -/
def dueEntry : Entry (StreamInstr η) (StreamCall η) StreamNote → List β
  | .todo (.work (.perform job)) => f job
  | _ => []

def coming (agenda : Agenda η) : List β := agenda.flatMap (comingEntry f)

def due (agenda : Agenda η) : List β := agenda.flatMap (dueEntry f)

def posted (e : Endpoint η) : List β := e.loop.pending.flatMap f

/-- An operation asks for a job while another one has not yet handed its own over. -/
def overlaps (b : Live η × Deed η) : Bool :=
  !(asks f b).isEmpty && !(coming f b.1.agenda).isEmpty

/-- A job is done at once while others are posted. -/
def overtakes (b : Live η × Deed η) : Bool :=
  match b.2 with
  | .own (.work (.dispatch job)) =>
    b.1.state.onLoop && !(f job).isEmpty && !(posted f b.1.state).isEmpty
  | _ => false

/-- No job gets ahead of another one. -/
def NoneOvertaken (h : Past η) : Prop :=
  h.all (fun b => !overlaps f b && !overtakes f b) = true

/-- No job is on its way. -/
structure Quiet (m : Live η) : Prop where
  none_due : due f m.agenda = []
  none_posted : posted f m.state = []
  none_coming : coming f m.agenda = []

/-- The jobs that operations ask for are followed, and not those of the stream's own parts. -/
structure OfCalls : Prop where
  drain : f .drain = []
  announceDrained : f .announceDrained = []

/-- The error with which a job fails the writes that wait. -/
def endings (job : Job η) : List Fault := job.cause?.toList

lemma endings_ofCalls : OfCalls (endings : Job η → List Fault) := ⟨rfl, rfl⟩

section Views

variable (b : Live η × Deed η) (x : Entry (StreamInstr η) (StreamCall η) StreamNote)
  (agenda agenda' : Agenda η)

@[simp] lemma asked_snoc : asked f (h ++ [b]) = asked f h ++ asks f b := by
  simp [asked]

@[simp] lemma done_snoc : done f (h ++ [b]) = done f h ++ does f b.2 := by
  simp [done]

@[simp] lemma coming_cons : coming f (x :: agenda) = comingEntry f x ++ coming f agenda := rfl

@[simp] lemma coming_append :
    coming f (agenda ++ agenda') = coming f agenda ++ coming f agenda' :=
  List.flatMap_append

@[simp] lemma due_cons : due f (x :: agenda) = dueEntry f x ++ due f agenda := rfl

@[simp] lemma due_append : due f (agenda ++ agenda') = due f agenda ++ due f agenda' :=
  List.flatMap_append

lemma noneOvertaken_snoc : NoneOvertaken f (h ++ [b]) ↔
    NoneOvertaken f h ∧ overlaps f b = false ∧ overtakes f b = false := by
  simp [NoneOvertaken]

end Views

/-! ## What an instruction does to the jobs -/

/-- Where jobs are on their way. -/
structure Way (β : Type) where
  coming : List β
  posted : List β
  due : List β

/-- What is asked for, where jobs are before and after, and what is done. In order, nothing is done
at once while something is posted. -/
inductive Shift (in_order : Prop) : List β → Way β → Way β → List β → Prop
  | asks (l p : List β) : Shift in_order l ⟨[], p, []⟩ ⟨l, p, []⟩ []
  | atOnce {l p : List β} (none_overtaken : in_order → l = [] ∨ p = []) :
    Shift in_order [] ⟨l, p, []⟩ ⟨[], p, l⟩ []
  | handsOn (l p : List β) : Shift in_order [] ⟨l, p, []⟩ ⟨l, p, []⟩ []
  | posts (l p : List β) : Shift in_order [] ⟨l, p, []⟩ ⟨[], p ++ l, []⟩ []
  | runs (l p : List β) : Shift in_order [] ⟨[], l ++ p, []⟩ ⟨[], p, l⟩ []
  | does (l p : List β) : Shift in_order [] ⟨[], p, l⟩ ⟨[], p, []⟩ l

variable {f}

lemma views_enter (t : Thread) (op : Operation η) (e : Endpoint η) :
    coming f ((exec (.enter t op) e).2.map .todo) =
        (begin { e with thread := t } op).2.flatMap (askedBy f) ∧
      due f ((exec (.enter t op) e).2.map .todo) = [] := by
  have each : ∀ x ∈ (exec (.enter t op) e).2, comingEntry f (.todo x) = askedBy f x := by
    intro x hx
    cases exec_leaves (.enter t op) e x hx <;> rfl
  constructor
  · rw [coming, List.flatMap_map, List.flatMap_congr each]
    simp [exec, askedBy]
  · refine view_exec fun x leaves => ?_
    cases leaves <;> rfl

lemma views_other (of_calls : OfCalls f) (inner : isInner (.work i) = true)
    (no_dispatch : ∀ job, i ≠ .dispatch job) :
    coming f ((exec i e).2.map .todo) = [] ∧ due f ((exec i e).2.map .todo) = [] := by
  constructor
  · refine view_exec fun x leaves => ?_
    cases leaves with
    | asks t asked | goesOn goes => cases inner
    | posts job => exact absurd rfl (no_dispatch job)
    | binds id writable => exact of_calls.drain
    | announces j => exact of_calls.announceDrained
    | _ => rfl
  · refine view_exec fun x leaves => ?_
    cases leaves with
    | performs job => exact absurd rfl (no_dispatch job)
    | runs j job => cases inner
    | _ => rfl

variable (f) in
/-- The jobs that an entry and the loop have. -/
def wayOf (agenda : Agenda η) (e : Endpoint η) : Way β :=
  ⟨coming f agenda, posted f e, due f agenda⟩

lemma shift_loop {in_order : Prop} {j : TaskLoop.Instr (Job η)}
    (served : Served ⟨e, .todo (.work (.loop j)) :: rest⟩) :
    Shift in_order [] (wayOf f [.todo (.work (.loop j))] e)
      (wayOf f ((exec (.loop j) e).2.map .todo) (exec (.loop j) e).1) [] := by
  have passing := served.passing
  simp only [wayOf, posted]
  generalize (exec (.loop j) e).1.loop.pending = pending' at *
  generalize (exec (.loop j) e).2 = out at *
  generalize e.loop.pending = before at *
  cases passing with
  | posts job =>
    simpa [comingEntry, dueEntry, coming, due] using Shift.posts (f job) (before.flatMap f)
  | begins t | busy t => exact .asks [] _
  | runs ran job =>
    simpa [comingEntry, dueEntry, coming, due] using Shift.runs (f job) (pending'.flatMap f)
  | ends ran => split <;> exact .asks [] _

/-- What is neither a job nor on its way to one leaves all jobs where they are. -/
lemma shift_quiet {in_order : Prop} (of_calls : OfCalls f) (inner : isInner (.work i) = true)
    (no_dispatch : ∀ job, i ≠ .dispatch job) (no_job : ∀ job, i ≠ .perform job) :
    Shift in_order (asks f (m, .own (.work i))) (wayOf f [.todo (.work i)] e)
      (wayOf f ((exec i e).2.map .todo) (exec i e).1) (does f (.own (.work i))) := by
  obtain ⟨none_coming, none_due⟩ := views_other (e := e) of_calls inner no_dispatch
  rw [wayOf, wayOf, none_coming, none_due, posted, posted, (exec_elsewhere e inner).1]
  cases i with
  | enter t op | leave t | loop j => cases inner
  | dispatch job => exact absurd rfl (no_dispatch job)
  | perform job => exact absurd rfl (no_job job)
  | _ => exact .asks [] _

/-- Each instruction shifts the jobs in one way. -/
lemma shift_work (of_calls : OfCalls f) (served : Served ⟨e, .todo (.work i) :: rest⟩) :
    Shift (overtakes f (⟨e, .todo (.work i) :: rest⟩, .own (.work i)) = false)
      (asks f (⟨e, .todo (.work i) :: rest⟩, .own (.work i))) (wayOf f [.todo (.work i)] e)
      (wayOf f ((exec i e).2.map .todo) (exec i e).1) (does f (.own (.work i))) := by
  cases i with
  | enter t op =>
    obtain ⟨asked, none_due⟩ := views_enter (f := f) t op e
    have same : (exec (.enter t op) e).1.loop = e.loop := begin_loop _ op
    rw [wayOf, wayOf, asked, none_due, posted, posted, same]
    exact .asks _ _
  | leave t => exact .asks [] _
  | dispatch job =>
    simp only [exec, asks, does]
    split
    · rename_i on_loop
      simpa [wayOf, coming, due, comingEntry, dueEntry] using
        Shift.atOnce (l := f job) (p := posted f e) fun in_order => by
          simpa [overtakes, on_loop, or_iff_not_imp_left] using in_order
    · simpa [wayOf, coming, due, comingEntry, dueEntry] using
        Shift.handsOn (f job) (posted f e)
  | perform job =>
    obtain ⟨none_coming, none_due⟩ :=
      views_other (i := .perform job) (e := e) of_calls rfl (by simp)
    have same : (exec (.perform job) e).1.loop = e.loop := (exec_elsewhere e rfl).1
    rw [wayOf, wayOf, none_coming, none_due, posted, posted, same]
    simpa [asks, does, coming, due, comingEntry, dueEntry] using Shift.does (f job) _
  | loop j => exact shift_loop served
  | _ => exact shift_quiet of_calls rfl (by simp) (by simp)

lemma views_resume (c : StreamCall η) (r : c.Reply) :
    coming f ((component.resume c r).map .todo) = [] ∧
      due f ((component.resume c r).map .todo) = [] :=
  ⟨view_resume (fun _ _ => rfl) (fun _ => rfl) c r, view_resume (fun _ _ => rfl) (fun _ => rfl) c r⟩

/-! ## Every job is done once -/

/-- Where the jobs are, one place after the other: done, about to be done, posted, and not yet
handed over. -/
def placed (f : Job η → List β) (h : Past η) (m : Live η) : List β :=
  done f h ++ due f m.agenda ++ posted f m.state ++ coming f m.agenda

lemma Shift.perm {in_order : Prop} {l l' : List β} {w w' : Way β} (shift : Shift in_order l w w' l')
    (before dues comings : List β) :
    (before ++ (w.due ++ dues) ++ w.posted ++ (w.coming ++ comings) ++ l).Perm
      (before ++ l' ++ (w'.due ++ dues) ++ w'.posted ++ (w'.coming ++ comings)) := by
  classical
  rw [List.perm_iff_count]
  intro x
  cases shift <;> simp only [List.count_append, List.count_nil] <;> omega

lemma Shift.ordered {in_order : Prop} {l l' : List β} {w w' : Way β}
    (shift : Shift in_order l w w' l') (before dues comings : List β) (holds : in_order)
    (none_due : w'.due = [] ∨ dues = []) (none_coming : l = [] ∨ comings = []) :
    before ++ (w.due ++ dues) ++ w.posted ++ (w.coming ++ comings) ++ l =
      before ++ l' ++ (w'.due ++ dues) ++ w'.posted ++ (w'.coming ++ comings) := by
  cases shift with
  | asks l p => rcases none_coming with rfl | rfl <;> simp
  | atOnce none_overtaken =>
    rcases none_due with rfl | rfl
    · simp
    · rcases none_overtaken holds with rfl | rfl <;> simp
  | handsOn l p | posts l p => simp
  | runs l p => rcases none_due with rfl | rfl <;> simp
  | does l p => simp

/-- Jobs are handled by instructions alone. -/
lemma placed_other (other : ∀ i, a ≠ .own (.work i))
    (move : Machine.Move component (fun _ => Asked allowed) m a m') :
    asks f (m, a) = [] ∧ placed f (h ++ [(m, a)]) m' = placed f h m := by
  cases move using Machine.Move.elim with
  | work e i rest => exact absurd rfl (other i)
  | call e c rest | note e s rest =>
    exact ⟨rfl, by simp [placed, does, comingEntry, dueEntry]⟩
  | invoke m is asked =>
    cases asked <;>
      exact ⟨rfl, by simp [placed, does, Machine.invoke, comingEntry, dueEntry]⟩
  | reply e c rest f' =>
    obtain ⟨none_coming, none_due⟩ := views_resume (f := f) c (f' c)
    refine ⟨rfl, ?_⟩
    simp [placed, does, none_coming, none_due, comingEntry, dueEntry]

lemma placed_work (f : Job η → List β) (h : Past η) (e : Endpoint η) (i : StreamInstr η)
    (rest : Agenda η) :
    placed f h ⟨e, .todo (.work i) :: rest⟩ =
        done f h ++ ((wayOf f [.todo (.work i)] e).due ++ due f rest) ++ posted f e ++
          ((wayOf f [.todo (.work i)] e).coming ++ coming f rest) ∧
      placed f (h ++ [(⟨e, .todo (.work i) :: rest⟩, .own (.work i))])
          ⟨(exec i e).1, (exec i e).2.map .todo ++ rest⟩ =
        done f h ++ does f (.own (.work i)) ++
          ((wayOf f ((exec i e).2.map .todo) (exec i e).1).due ++ due f rest) ++
          posted f (exec i e).1 ++
          ((wayOf f ((exec i e).2.map .todo) (exec i e).1).coming ++ coming f rest) := by
  simp [placed, wayOf, coming, due]

lemma accounted_work (of_calls : OfCalls f) (served : Served ⟨e, .todo (.work i) :: rest⟩)
    (accounted : (asked f h).Perm (placed f h ⟨e, .todo (.work i) :: rest⟩)) :
    (asked f (h ++ [(⟨e, .todo (.work i) :: rest⟩, .own (.work i))])).Perm
      (placed f (h ++ [(⟨e, .todo (.work i) :: rest⟩, .own (.work i))])
        ⟨(exec i e).1, (exec i e).2.map .todo ++ rest⟩) := by
  obtain ⟨before, after⟩ := placed_work f h e i rest
  rw [asked_snoc, after]
  rw [before] at accounted
  exact (accounted.append_right _).trans ((shift_work of_calls served).perm _ _ _)

lemma accounted_step (of_calls : OfCalls f) (served : Served m)
    (accounted : (asked f h).Perm (placed f h m))
    (move : Machine.Move component (fun _ => Asked allowed) m a m') :
    (asked f (h ++ [(m, a)])).Perm (placed f (h ++ [(m, a)]) m') := by
  by_cases works : ∃ i, a = .own (.work i)
  · obtain ⟨i, rfl⟩ := works
    cases move using Machine.Move.elim with
    | work e i rest => exact accounted_work of_calls served accounted
  · obtain ⟨none_asked, same⟩ := placed_other (f := f) (h := h) (fun i is => works ⟨i, is⟩) move
    rw [asked_snoc, none_asked, List.append_nil, same]
    exact accounted

/-- Whatever is called anywhere: what was asked for is done, about to be done, posted or not yet
handed over, each of it once. -/
theorem accounted_of_runs (of_calls : OfCalls f) (run : RunsAnyhow Kept o owner h m) :
    (asked f h).Perm (placed f h m) := by
  induction run with
  | start => exact .refl _
  | step run move ih => exact accounted_step of_calls (counted_of_runs run).1 ih move

/-- A rule for surroundings that call one operation after the other, each of them when those
before have returned. -/
def OneByOne (allowed : Thread → Operation η → Prop) (m : Live η) (is : List (StreamInstr η)) :
    Prop :=
  m.agenda = [] ∧ Asked allowed is

lemma oneByOne_of_isAsked {check : Thread → Operation η → Bool}
    (sound : ∀ t op, check t op = true → allowed t op) {is : List (StreamInstr η)}
    (called : (m.agenda.isEmpty && isAsked check is) = true) : OneByOne allowed m is := by
  rw [Bool.and_eq_true, List.isEmpty_iff] at called
  exact ⟨called.1, asked_of_isAsked sound called.2⟩

/-- All calls have returned, and nothing is posted to the loop. -/
structure AtRest (m : Live η) : Prop where
  returned : m.agenda = []
  none_posted : m.state.loop.pending = []

lemma AtRest.quiet (rests : AtRest m) : Quiet f m := by
  constructor <;> simp [rests.returned, posted, rests.none_posted, coming, due]

lemma Quiet.placed_eq (quiet : Quiet f m) : placed f h m = done f h := by
  simp [placed, quiet.none_due, quiet.none_posted, quiet.none_coming]

/-! ## Nothing is done unasked -/

/-- A loop runs what was posted, and keeps nothing else. -/
lemma loop_pending (j : TaskLoop.Instr (Job η)) (l : TaskLoop (Job η)) :
    (∀ job, Todo.call (.run job) ∈ (TaskLoop.exec j l).2 → job ∈ l.pending) ∧
      ∀ job ∈ (TaskLoop.exec j l).1.pending, job ∈ l.pending ∨ j = .post job := by
  cases j with
  | post task =>
    simp only [TaskLoop.exec, TaskLoop.wake]
    split
    · exact ⟨fun job runs => by simp at runs, fun job kept => by simpa [eq_comm] using kept⟩
    · exact ⟨fun job runs => by simp at runs, fun job kept => .inl kept⟩
  | _ =>
    simp only [TaskLoop.exec, TaskLoop.wake]
    (repeat' split) <;> exact ⟨fun job runs => by simp_all, fun job kept => by simp_all⟩

lemma due_loop {j : TaskLoop.Instr (Job η)} :
    due f ((exec (.loop j) e).2.map .todo) ⊆ posted f e := by
  intro x seen
  obtain ⟨_, hx, seen⟩ := List.mem_flatMap.mp seen
  obtain ⟨y, hy, rfl⟩ := List.mem_map.mp hx
  obtain ⟨z, hz, hy⟩ := List.mem_flatMap.mp hy
  rcases z with k | ⟨⟨job⟩⟩ | n
  · obtain rfl := List.mem_singleton.mp hy
    cases seen
  · obtain rfl := List.mem_singleton.mp hy
    exact List.mem_flatMap.mpr ⟨job, (loop_pending j e.loop).1 job hz, seen⟩
  · cases n with
    | lost job =>
      obtain ⟨e, rfl⟩ := notes_lost hy
      cases seen
    | passed ran | trace t =>
      obtain rfl := List.mem_singleton.mp hy
      cases seen
    | polled w done | woken w => cases hy

lemma posted_loop {j : TaskLoop.Instr (Job η)} :
    posted f (exec (.loop j) e).1 ⊆ posted f e ++ comingEntry f (.todo (.work (.loop j))) := by
  intro x seen
  obtain ⟨job, kept, seen⟩ := List.mem_flatMap.mp seen
  rw [List.mem_append]
  rcases (loop_pending j e.loop).2 job kept with before | same
  · exact .inl (List.mem_flatMap.mpr ⟨job, before, seen⟩)
  · rw [same]
    exact .inr seen

lemma coming_loop {j : TaskLoop.Instr (Job η)} :
    coming f ((exec (.loop j) e).2.map .todo) = [] := by
  refine view_exec fun x leaves => ?_
  cases leaves with
  | goesOn goes => cases goes <;> rfl
  | _ => rfl

/-- All jobs on their way. -/
def Way.all (w : Way β) : List β := w.due ++ w.posted ++ w.coming

/-- What an instruction leaves of a job was asked for now, or was there before. -/
lemma way_subset (of_calls : OfCalls f) (i : StreamInstr η) (e : Endpoint η) (rest : Agenda η) :
    does f (.own (.work i)) ++ (wayOf f ((exec i e).2.map .todo) (exec i e).1).all ⊆
      (wayOf f [.todo (.work i)] e).all ++
        asks f (⟨e, .todo (.work i) :: rest⟩, .own (.work i)) := by
  have quiet (inner : isInner (.work i) = true) (no_dispatch : ∀ job, i ≠ .dispatch job) :
      wayOf f ((exec i e).2.map .todo) (exec i e).1 = ⟨[], posted f e, []⟩ := by
    obtain ⟨none_coming, none_due⟩ := views_other (e := e) of_calls inner no_dispatch
    rw [wayOf, none_coming, none_due, posted, posted, (exec_elsewhere e inner).1]
  cases i with
  | enter t op =>
    obtain ⟨same_coming, none_due⟩ := views_enter (f := f) t op e
    have same : (exec (.enter t op) e).1.loop = e.loop := begin_loop _ op
    rw [wayOf, same_coming, none_due, posted, same]
    simp [Way.all, wayOf, posted, asks, does, coming, due, comingEntry, dueEntry]
  | leave t => simp [Way.all, wayOf, exec, posted, coming, due, does]
  | dispatch job =>
    simp only [exec]
    split <;> simp [Way.all, wayOf, coming, due, comingEntry, dueEntry, posted, does, asks]
  | loop j =>
    rw [wayOf, coming_loop]
    intro x seen
    simp only [Way.all, wayOf, does, List.mem_append, List.nil_append, List.append_nil] at seen ⊢
    rcases seen with due | kept
    · exact .inl (.inl (.inr (due_loop due)))
    · rcases List.mem_append.mp (posted_loop kept) with before | now
      · exact .inl (.inl (.inr before))
      · exact .inl (.inr (by simpa [coming] using now))
  | _ =>
    rw [quiet rfl (by simp)]
    simp [Way.all, wayOf, coming, due, comingEntry, dueEntry, does]

lemma placed_subset (of_calls : OfCalls f) (i : StreamInstr η) (e : Endpoint η)
    (rest : Agenda η) :
    placed f (h ++ [(⟨e, .todo (.work i) :: rest⟩, .own (.work i))])
        ⟨(exec i e).1, (exec i e).2.map .todo ++ rest⟩ ⊆
      placed f h ⟨e, .todo (.work i) :: rest⟩ ++
        asks f (⟨e, .todo (.work i) :: rest⟩, .own (.work i)) := by
  obtain ⟨before, after⟩ := placed_work f h e i rest
  have each := way_subset of_calls i e rest
  rw [before, after]
  intro x seen
  have from_way := @each x
  simp only [Way.all, List.mem_append, wayOf] at seen from_way ⊢
  tauto

/-- Also where jobs are lost, nothing is done or about to be that was not asked for. -/
lemma asked_of_placed (of_calls : OfCalls f) (run : RunsAnyhow allowed o owner h m) :
    placed f h m ⊆ asked f h := by
  induction run with
  | start => exact nofun
  | @step h m m' a run move ih =>
    rw [asked_snoc]
    by_cases works : ∃ i, a = .own (.work i)
    · obtain ⟨i, rfl⟩ := works
      cases move using Machine.Move.elim with
      | work e i rest =>
        refine List.Subset.trans (placed_subset of_calls i e rest)
          (List.append_subset.mpr ⟨?_, ?_⟩)
        · exact List.Subset.trans ih (List.subset_append_left _ _)
        · exact List.subset_append_right _ _
    · obtain ⟨none_asked, same⟩ := placed_other (f := f) (h := h) (fun i is => works ⟨i, is⟩) move
      rw [none_asked, List.append_nil, same]
      exact ih

/-! ## What is never called -/

lemma anyhow_of_freely {wider : Thread → Operation η → Prop}
    (widens : ∀ t op, allowed t op → wider t op) (run : RunsFreely allowed o owner h m) :
    RunsAnyhow wider o owner h m :=
  run.mono fun _ _ called => by
    cases called with
    | operation t op may => exact .operation t op (widens t op may)
    | setRemote remoteOpen => exact .setRemote remoteOpen

/-- Only what is allowed begins. -/
lemma entered_of_runs (run : RunsAnyhow allowed o owner h m) :
    ∀ t op, .todo (.work (.enter t op)) ∈ m.agenda → allowed t op := by
  induction run with
  | start => exact fun t op due => absurd due List.not_mem_nil
  | step _ move ih =>
    intro t op due
    cases move using Machine.Move.elim with
    | work e i rest =>
      rcases List.mem_append.mp due with left | below
      · obtain ⟨y, hy, same⟩ := List.mem_map.mp left
        obtain rfl := Entry.todo.inj same
        cases exec_leaves i e _ hy
      · exact ih t op (List.mem_cons_of_mem _ below)
    | call e c rest => exact ih t op (by simpa using due)
    | note e s rest => exact ih t op (List.mem_cons_of_mem _ due)
    | invoke m is asked =>
      rcases List.mem_append.mp due with now | before
      · cases asked with
        | operation t' op' may =>
          obtain ⟨rfl, rfl⟩ : t = t' ∧ op = op' := by simpa using now
          exact may
        | setRemote remoteOpen => simp at now
      · exact ih t op before
    | reply e c rest f' =>
      rcases List.mem_append.mp due with resumed | below
      · cases c with
        | conn p => cases p <;> simp [component, resume] at resumed
        | hook k => cases k <;> simp [component, resume] at resumed
      · exact ih t op (List.mem_cons_of_mem _ below)

/-- Jobs that no allowed operation asks for are nowhere on their way. -/
lemma none_placed (of_calls : OfCalls f) (keeps : ∀ t op, allowed t op → Kept t op)
    (never : ∀ t op job, allowed t op → op.job? = some job → f job = [])
    (run : RunsAnyhow allowed o owner h m) : asked f h = [] ∧ placed f h m = [] := by
  have none_asked : asked f h = [] := by
    induction run with
    | start => rfl
    | @step h m m' a run move ih =>
      rw [asked_snoc, ih, List.nil_append]
      unfold asks
      split
      · rename_i t op same
        have head : m.agenda.head? = some (.todo (.work (.enter t op))) := by
          cases move using Machine.Move.elim <;> cases same
          rfl
        have may := entered_of_runs run t op (List.mem_of_mem_head? head)
        rw [List.flatMap_eq_nil_iff]
        intro x hx
        unfold askedBy
        split
        · cases leaves_begin _ _ _ hx with
          | asks _ asked => exact never t op _ may asked
        · rfl
      · rfl
  have accounted := accounted_of_runs of_calls (run.mono fun _ _ asked => by
    cases asked with
    | operation t op may => exact .operation t op (keeps t op may)
    | setRemote remoteOpen => exact .setRemote remoteOpen)
  rw [none_asked, List.nil_perm] at accounted
  exact ⟨none_asked, accounted⟩

/-! ## Jobs are done in order -/

/-- A job is begun on the loop. -/
lemma near_of_performs {job : Job η} (left : .work (.perform job) ∈ (exec i e).2) :
    isHarmless (.todo (.work i)) = false ∧ ¬ Aside e.loop.owner e.thread (.todo (.work i)) := by
  cases exec_leaves i e _ left with
  | performs job =>
    have on_loop : e.onLoop = true := by
      by_contra away
      simp [exec, away] at left
    have owned : e.loop.owner = e.thread := by
      simpa [onLoop, TaskLoop.ownedBy] using on_loop
    exact ⟨rfl, fun aside => aside owned.symm⟩
  | runs j job =>
    refine ⟨rfl, ?_⟩
    cases j with
    | post job => obtain ⟨n, same⟩ := notes_post e.loop _ _ left; cases same
    | dropRunner => obtain ⟨n, same⟩ := notes_dropRunner e.loop _ left; cases same
    | _ => exact id

/-- Where a job becomes due, none was due before. -/
lemma none_due_below (shielded : CoveredNow shield ⟨e, .todo (.work i) :: rest⟩) :
    due f ((exec i e).2.map .todo) = [] ∨ due f rest = [] := by
  by_cases performs : ∃ job, .work (.perform job) ∈ (exec i e).2
  · obtain ⟨job, left⟩ := performs
    obtain ⟨grave, near⟩ := near_of_performs left
    refine .inr (view_below shielded grave near fun x free => ?_)
    unfold dueEntry
    split
    · cases free
    · rfl
  · refine .inl ?_
    rw [due, List.flatMap_map, List.flatMap_eq_nil_iff]
    intro x hx
    unfold dueEntry
    split
    · rename_i job same
      obtain rfl := Entry.todo.inj same
      exact absurd ⟨job, hx⟩ performs
    · rfl

lemma ordered_work (of_calls : OfCalls f) (served : Served ⟨e, .todo (.work i) :: rest⟩)
    (shielded : CoveredNow shield ⟨e, .todo (.work i) :: rest⟩)
    (ordered : asked f h = placed f h ⟨e, .todo (.work i) :: rest⟩)
    (no_overlap : overlaps f (⟨e, .todo (.work i) :: rest⟩, .own (.work i)) = false)
    (no_overtaking : overtakes f (⟨e, .todo (.work i) :: rest⟩, .own (.work i)) = false) :
    asked f (h ++ [(⟨e, .todo (.work i) :: rest⟩, .own (.work i))]) =
      placed f (h ++ [(⟨e, .todo (.work i) :: rest⟩, .own (.work i))])
        ⟨(exec i e).1, (exec i e).2.map .todo ++ rest⟩ := by
  obtain ⟨before, after⟩ := placed_work f h e i rest
  have alone : asks f (⟨e, .todo (.work i) :: rest⟩, .own (.work i)) = [] ∨
      coming f rest = [] := by
    have none : asks f (⟨e, .todo (.work i) :: rest⟩, .own (.work i)) = [] ∨
        coming f (.todo (.work i) :: rest) = [] := by
      simpa [overlaps, or_iff_not_imp_left] using no_overlap
    exact none.imp_right fun none_coming => (List.append_eq_nil_iff.mp none_coming).2
  rw [asked_snoc, after, ordered, before]
  exact (shift_work of_calls served).ordered _ _ _ no_overtaking (none_due_below shielded) alone

lemma ordered_step (of_calls : OfCalls f) (served : Served m) (shielded : CoveredNow shield m)
    (ordered : asked f h = placed f h m) (no_overlap : overlaps f (m, a) = false)
    (no_overtaking : overtakes f (m, a) = false)
    (move : Machine.Move component (Called allowed) m a m') :
    asked f (h ++ [(m, a)]) = placed f (h ++ [(m, a)]) m' := by
  by_cases works : ∃ i, a = .own (.work i)
  · obtain ⟨i, rfl⟩ := works
    cases move using Machine.Move.elim with
    | work e i rest => exact ordered_work of_calls served shielded ordered no_overlap no_overtaking
  · have asked_move : Machine.Move component (fun _ => Asked allowed) m a m' :=
      move.mono fun _ _ => Called.asked
    obtain ⟨none_asked, same⟩ :=
      placed_other (f := f) (h := h) (fun i is => works ⟨i, is⟩) asked_move
    rw [asked_snoc, none_asked, List.append_nil, same]
    exact ordered

/-- From a moment on at which no job is on its way, all jobs are done in the order in which they
are asked for, if none of them gets ahead of another one. -/
theorem ordered_of_runs (of_calls : OfCalls f) (keeps : ∀ t op, allowed t op → Kept t op)
    (before : RunsFreely allowed o owner h m₁) (quiet : Quiet f m₁)
    (later : Machine.Run component (Called allowed) m₁ h' m)
    (none_overtaken : NoneOvertaken f h') : asked f h' = placed f h' m := by
  -- The history begins at the quiet moment, but what is kept along the way comes from the start.
  induction later with
  | start =>
    simp [asked, placed, done, quiet.none_due, quiet.none_posted, quiet.none_coming]
  | step later move ih =>
    obtain ⟨none_before, no_overlap, no_overtaking⟩ := (noneOvertaken_snoc f _).mp none_overtaken
    have whole := before.append later
    exact ordered_step of_calls (counted_of_runs (anyhow_of_freely keeps whole)).1
      (shielded_of_runs whole) (ih none_before) no_overlap no_overtaking move

end StreamControl.Endpoint
