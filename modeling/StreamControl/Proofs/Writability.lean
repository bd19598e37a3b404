import StreamControl.Proofs.StreamEnding
import StreamControl.Proofs.StreamThread

/-!
# The writability of a stream

The connection changes the writability of a stream and tells the stream that it has changed, but
not to what. On the loop such a change takes effect at once, elsewhere it is posted. An allocation
samples the writability and binds it at once, whatever is still posted. Every change takes effect
exactly once, so afterwards the stream agrees with the connection exactly if, up to an even
number, the changes that were told before the sample are those that took effect before the
binding.
-/

namespace StreamControl.Endpoint

variable {η : Type} {o : Options} {owner : Thread} {h : Past η} {m m' : Live η}
  {rest agenda agenda' : Agenda η} {a : Deed η} {i : StreamInstr η} {e : Endpoint η}

/-- Writability after some changes: at first a stream is writable. -/
def afterChanges (n : Nat) : Bool := n % 2 = 0

/-- The connection changes the writability and tells the stream. -/
def isChange : Deed η → Bool
  | .invoke [.enter _ .toggleWritable] => true
  | _ => false

/-- A change takes effect. -/
def isToggle : Deed η → Bool
  | .own (.work (.perform .toggleWritable)) => true
  | _ => false

def isInit : Deed η → Bool
  | .invoke [.enter _ (.allocate _)] => true
  | _ => false

/-- The writability that the connection reports when it is sampled. -/
def sample? : Deed η → Option Bool
  | .answer (.conn (.canSend _)) (writable : Bool) => some writable
  | _ => none

def isBinding : Deed η → Bool
  | .own (.work (.bind _ _)) => true
  | _ => false

def changes (h : Past η) : Nat := h.countP fun b => isChange b.2

def toggles (h : Past η) : Nat := h.countP fun b => isToggle b.2

def inits (h : Past η) : Nat := h.countP fun b => isInit b.2

def samples (h : Past η) : Nat := h.countP fun b => (sample? b.2).isSome

def bindings (h : Past η) : Nat := h.countP fun b => isBinding b.2

/-- The connection's writability of the stream. -/
def connWritable (h : Past η) : Bool := afterChanges (changes h)

/-- The connection reports its writability truly, after `n` changes and those that follow. -/
def isHonestFrom (n : Nat) : Past η → Bool
  | [] => true
  | b :: h => (sample? b.2).all (· = afterChanges n) &&
      isHonestFrom (if isChange b.2 then n + 1 else n) h

def Honest (h : Past η) : Prop := isHonestFrom 0 h = true

def beforeSample (h : Past η) : Past η := h.takeWhile fun b => !(sample? b.2).isSome

def beforeBinding (h : Past η) : Past η := h.takeWhile fun b => !isBinding b.2

section Views

variable (b : Live η × Deed η)

@[simp] lemma changes_snoc :
    changes (h ++ [b]) = changes h + if isChange b.2 then 1 else 0 := by
  rw [changes, List.countP_append, List.countP_singleton]
  rfl

@[simp] lemma toggles_snoc :
    toggles (h ++ [b]) = toggles h + if isToggle b.2 then 1 else 0 := by
  rw [toggles, List.countP_append, List.countP_singleton]
  rfl

@[simp] lemma inits_snoc : inits (h ++ [b]) = inits h + if isInit b.2 then 1 else 0 := by
  rw [inits, List.countP_append, List.countP_singleton]
  rfl

@[simp] lemma samples_snoc :
    samples (h ++ [b]) = samples h + if (sample? b.2).isSome then 1 else 0 := by
  rw [samples, List.countP_append, List.countP_singleton]
  rfl

@[simp] lemma bindings_snoc :
    bindings (h ++ [b]) = bindings h + if isBinding b.2 then 1 else 0 := by
  rw [bindings, List.countP_append, List.countP_singleton]
  rfl

lemma isHonestFrom_snoc (n : Nat) : isHonestFrom n (h ++ [b]) = true ↔
    isHonestFrom n h = true ∧ ∀ w, sample? b.2 = some w → w = afterChanges (n + changes h) := by
  induction h generalizing n with
  | nil => cases hs : sample? b.2 <;> simp [isHonestFrom, changes, hs]
  | cons c h ih =>
    have shifted : (if isChange c.2 then n + 1 else n) + changes h = n + changes (c :: h) := by
      rw [changes, changes, List.countP_cons]
      split <;> omega
    rw [List.cons_append, isHonestFrom, isHonestFrom, Bool.and_eq_true, Bool.and_eq_true, ih,
      shifted, and_assoc]

lemma honest_snoc :
    Honest (h ++ [b]) ↔ Honest h ∧ ∀ w, sample? b.2 = some w → w = connWritable h := by
  rw [Honest, isHonestFrom_snoc, Nat.zero_add]
  rfl

end Views

section Before

variable {α : Type} {p : α → Bool} {l : List α} {b : α}

/-- What comes before the first hit is settled by it. -/
lemma takeWhile_snoc_of_hit (hit : l.countP p ≠ 0) :
    (l ++ [b]).takeWhile (fun x => !p x) = l.takeWhile fun x => !p x := by
  induction l with
  | nil => exact absurd rfl hit
  | cons x l ih =>
    rw [List.cons_append, List.takeWhile_cons, List.takeWhile_cons]
    cases hx : p x with
    | true => rfl
    | false =>
      have later : l.countP p ≠ 0 := by simpa [List.countP_cons, hx] using hit
      simp [ih later]

lemma takeWhile_snoc_of_first (none_before : l.countP p = 0) (first : p b = true) :
    (l ++ [b]).takeWhile (fun x => !p x) = l := by
  rw [List.countP_eq_zero] at none_before
  rw [List.takeWhile_append_of_pos fun x hx => by simpa using none_before x hx]
  simp [first]

end Before

/-! ## Changes and samples on their way -/

/-- A change that was told is on its way to take effect. -/
def isChanging : Entry (StreamInstr η) (StreamCall η) StreamNote → Bool
  | .todo (.work (.enter _ .toggleWritable)) | .todo (.work (.dispatch .toggleWritable))
  | .todo (.work (.perform .toggleWritable)) | .todo (.work (.loop (.post .toggleWritable))) => true
  | _ => false

/-- An allocation is on its way to sample the writability. -/
def isSampling : Entry (StreamInstr η) (StreamCall η) StreamNote → Bool
  | .todo (.work (.enter _ (.allocate _))) => true
  | .todo (.call (.conn (.canSend _))) | .held (.conn (.canSend _)) => true
  | _ => false

/-- A sample is about to be bound. -/
def isSampled : Entry (StreamInstr η) (StreamCall η) StreamNote → Bool
  | .todo (.work (.bind _ _)) => true
  | _ => false

/-- The loop is about to be left by its runner, or served by it otherwise than in passes. -/
def isForeign : Entry (StreamInstr η) (StreamCall η) StreamNote → Bool
  | .todo (.work (.enter _ .dropLoop)) => true
  | .todo (.work (.loop (.post _))) | .todo (.work (.loop (.pass _)))
  | .todo (.work (.loop (.passNext _))) => false
  | .todo (.work (.loop _)) => true
  | _ => false

def isToggleJob : Job η → Bool
  | .toggleWritable => true
  | _ => false

/-- Changes that were told and have not taken effect. -/
def underway (m : Live η) : Nat :=
  m.agenda.countP isChanging + m.state.loop.pending.countP isToggleJob

/-- The loop keeps its runner, so nothing that was posted to it is lost. -/
structure Served (m : Live η) : Prop where
  passes_only : m.agenda.any isForeign = false
  live : m.state.loop.isLive = true

/-- Every change takes effect once, every allocation samples once, and every sample is bound
once. -/
structure Counted (h : Past η) (m : Live η) : Prop where
  changes_eq : changes h = toggles h + underway m
  inits_eq : inits h = m.agenda.countP isSampling + samples h
  samples_eq : samples h = m.agenda.countP isSampled + bindings h

/-! ## Each instruction hands on what it has -/

lemma changing_enter (t : Thread) (op : Operation η) :
    ((exec (.enter t op) e).2.map .todo).countP isChanging =
      if isChanging (.todo (.work (.enter t op)) : Entry (StreamInstr η) _ _) then 1 else 0 := by
  by_cases tells : op = .toggleWritable
  · rw [tells]
    rfl
  · have other : isChanging (.todo (.work (.enter t op)) : Entry (StreamInstr η) _ _) = false := by
      cases op with
      | toggleWritable => exact absurd rfl tells
      | _ => rfl
    rw [other, if_neg Bool.false_ne_true]
    refine countP_exec fun x leaves => ?_
    cases leaves with
    | @asks _ _ job asked =>
      cases job with
      | toggleWritable =>
        cases op with
        | toggleWritable => exact absurd rfl tells
        | writeHeaders block first fin flush p => cases first <;> cases asked
        | _ => cases asked
      | _ => rfl
    | _ => rfl

lemma changing_dispatch (job : Job η) :
    ((exec (.dispatch job) e).2.map .todo).countP isChanging =
      if isToggleJob job then 1 else 0 := by
  simp only [exec]
  split <;> cases job <;> rfl

/-- What a loop does that keeps its runner, with the jobs that are posted before and after. -/
inductive Passing : TaskLoop.Instr (Job η) → List (Job η) → List (Job η) →
    List (StreamTodo η) → Prop
  | posts (job : Job η) (pending : List (Job η)) :
    Passing (.post job) pending (pending ++ [job]) []
  | begins (t : Thread) (pending : List (Job η)) :
    Passing (.pass t) pending pending [.work (.loop (.passNext 0))]
  | busy (t : Thread) (pending : List (Job η)) : Passing (.pass t) pending pending []
  | runs (ran : Nat) (job : Job η) (pending : List (Job η)) :
    Passing (.passNext ran) (job :: pending) pending
      [.work (.perform job), .work (.loop (.passNext (ran + 1)))]
  | ends (ran : Nat) :
    Passing (.passNext ran) [] []
      ((if ran = 0 then [] else [trace (.tasksRun ran)]) ++ [.note (.passed ran)])

lemma Served.passing {j : TaskLoop.Instr (Job η)}
    (served : Served ⟨e, .todo (.work (.loop j)) :: rest⟩) :
    Passing j e.loop.pending (exec (.loop j) e).1.loop.pending (exec (.loop j) e).2 := by
  have live : e.loop.isLive = true := served.live
  have passes := served.passes_only
  rw [List.any_cons, Bool.or_eq_false_iff] at passes
  cases j with
  | post job =>
    simp only [exec, TaskLoop.exec, TaskLoop.wake, live, if_true]
    cases e.loop.waker <;> exact .posts job _
  | pass t =>
    simp only [exec, TaskLoop.exec]
    split
    · exact .begins t _
    · exact .busy t _
  | passNext ran =>
    simp only [exec, TaskLoop.exec]
    split
    · rename_i job later pending
      rw [pending]
      exact .runs ran job later
    · rename_i pending
      have ends : Passing (η := η) (.passNext ran) [] [] _ := .ends ran
      rw [pending]
      by_cases none_ran : ran = 0
      · simpa [none_ran, ofLoop] using ends
      · simpa [none_ran, ofLoop] using ends
  | _ => cases passes.1

/-- A pass performs what is posted. -/
lemma changing_loop {j : TaskLoop.Instr (Job η)}
    (served : Served ⟨e, .todo (.work (.loop j)) :: rest⟩) :
    ((exec (.loop j) e).2.map .todo).countP isChanging +
        (exec (.loop j) e).1.loop.pending.countP isToggleJob =
      (if isChanging (.todo (.work (.loop j)) : Entry (StreamInstr η) _ _) then 1 else 0) +
        e.loop.pending.countP isToggleJob := by
  have passing := served.passing
  generalize (exec (.loop j) e).1.loop.pending = pending' at *
  generalize (exec (.loop j) e).2 = out at *
  generalize e.loop.pending = before at *
  cases passing with
  | posts job =>
    rw [List.countP_append, List.countP_singleton]
    cases job <;> simp [isChanging, isToggleJob, Nat.add_comm]
  | begins t | busy t => rfl
  | runs ran job =>
    rw [List.countP_cons]
    cases job <;> simp [List.countP_cons, isChanging, isToggleJob, Nat.add_comm]
  | ends ran => split <;> rfl

/-- Nothing else has to do with changes, but for the job that makes one take effect. -/
lemma changing_other (other : isInner (.work i) = true) (no_dispatch : ∀ job, i ≠ .dispatch job) :
    ((exec i e).2.map .todo).countP isChanging = 0 ∧
      isChanging (.todo (.work i)) = isToggle (.own (.work i) : Deed η) := by
  constructor
  · refine countP_exec fun x leaves => ?_
    cases leaves with
    | asks t asked => cases other
    | performs job | posts job => exact absurd rfl (no_dispatch job)
    | runs j job | goesOn goes => cases other
    | _ => rfl
  · cases i with
    | enter t op | leave t | loop j => cases other
    | dispatch job => exact absurd rfl (no_dispatch job)
    | perform job => cases job <;> rfl
    | _ => rfl

lemma underway_inner (inner : isInner (.work i) = true) (no_dispatch : ∀ job, i ≠ .dispatch job) :
    underway ⟨(exec i e).1, (exec i e).2.map .todo ++ rest⟩ +
        (if isToggle (.own (.work i) : Deed η) then 1 else 0) =
      underway ⟨e, .todo (.work i) :: rest⟩ := by
  obtain ⟨nothing, takes_effect⟩ := changing_other (e := e) inner no_dispatch
  simp only [underway, List.countP_append, List.countP_cons, nothing, takes_effect,
    (exec_elsewhere e inner).1]
  omega

lemma underway_work (served : Served ⟨e, .todo (.work i) :: rest⟩) :
    underway ⟨(exec i e).1, (exec i e).2.map .todo ++ rest⟩ +
        (if isToggle (.own (.work i) : Deed η) then 1 else 0) =
      underway ⟨e, .todo (.work i) :: rest⟩ := by
  cases i with
  | enter t op =>
    have same : (exec (.enter t op) e).1.loop = e.loop := begin_loop _ op
    simp only [underway, List.countP_append, List.countP_cons, changing_enter, same, isToggle,
      Bool.false_eq_true, if_false]
    omega
  | leave t =>
    simp [underway, exec, isChanging, isToggle]
  | dispatch job =>
    have same : (exec (.dispatch job) e).1.loop = e.loop := rfl
    have token : isChanging (.todo (.work (.dispatch job)) : Entry (StreamInstr η) _ _) =
        isToggleJob job := by cases job <;> rfl
    simp only [underway, List.countP_append, List.countP_cons, changing_dispatch, same, token,
      isToggle, Bool.false_eq_true, if_false]
    omega
  | loop j =>
    have moved := changing_loop served
    simp only [underway, List.countP_append, List.countP_cons, isToggle, Bool.false_eq_true,
      if_false]
    omega
  | _ => exact underway_inner rfl (by simp)

lemma served_loop {j : TaskLoop.Instr (Job η)} (live : e.loop.isLive = true)
    (passes : isForeign (.todo (.work (.loop j)) : Entry (StreamInstr η) _ _) = false) :
    (exec (.loop j) e).1.loop.isLive = true := by
  cases j with
  | post job =>
    simp only [exec, TaskLoop.exec, live, if_true]
    exact live
  | pass t =>
    simp only [exec, TaskLoop.exec]
    split
    · rfl
    · exact live
  | passNext ran =>
    simp only [exec, TaskLoop.exec]
    split
    · exact live
    · rfl
  | _ => cases passes

lemma served_work (served : Served ⟨e, .todo (.work i) :: rest⟩) :
    Served ⟨(exec i e).1, (exec i e).2.map .todo ++ rest⟩ := by
  obtain ⟨passes_only, live⟩ := served
  rw [List.any_cons, Bool.or_eq_false_iff] at passes_only
  obtain ⟨passes, below⟩ := passes_only
  constructor
  · rw [List.any_append, below, Bool.or_false]
    refine any_exec fun x leaves => ?_
    cases leaves with
    | drops t => cases passes
    | goesOn goes =>
      cases goes with
      | first t | next ran => rfl
      | firstPolled t w | nextPolled w => cases passes
    | _ => rfl
  · cases i with
    | loop j => exact served_loop live passes
    | enter t op =>
      have same : (exec (.enter t op) e).1.loop = e.loop := begin_loop _ op
      rw [same]
      exact live
    | leave t => exact live
    | _ =>
      rw [(exec_elsewhere e rfl).1]
      exact live

lemma sampling_work :
    ((exec i e).2.map .todo).countP isSampling =
      if isSampling (.todo (.work i)) then 1 else 0 := by
  by_cases samples : ∃ t id, i = .enter t (.allocate id)
  · obtain ⟨t, id, rfl⟩ := samples
    rfl
  · have other : isSampling (.todo (.work i)) = false := by
      cases i with
      | enter t op =>
        cases op with
        | allocate id => exact absurd ⟨t, id, rfl⟩ samples
        | _ => rfl
      | _ => rfl
    rw [other, if_neg Bool.false_ne_true]
    refine countP_exec fun x leaves => ?_
    cases leaves with
    | samples t id => exact absurd ⟨t, id, rfl⟩ samples
    | @sends _ p elsewhere | @sendsQueued _ p elsewhere | @counts _ _ p elsewhere =>
      cases p with
      | canSend id => cases elsewhere
      | _ => rfl
    | _ => rfl

lemma sampled_work : ((exec i e).2.map .todo).countP isSampled = 0 := by
  refine countP_exec fun x leaves => ?_
  cases leaves <;> rfl

lemma sampled_eq_isBinding :
    isSampled (.todo (.work i)) = isBinding (.own (.work i) : Deed η) := by
  cases i <;> rfl

/-- An answered sample goes on to be bound. -/
lemma counts_resume (c : StreamCall η) (r : c.Reply) :
    ((component.resume c r).map .todo : Agenda η).countP isChanging = 0 ∧
      ((component.resume c r).map .todo : Agenda η).countP isSampling = 0 ∧
      ((component.resume c r).map .todo : Agenda η).countP isSampled =
        (if (sample? (.answer c r : Deed η)).isSome then 1 else 0) ∧
      isSampling (.held c : Entry (StreamInstr η) _ StreamNote) =
        (sample? (.answer c r : Deed η)).isSome := by
  cases c with
  | conn p => cases p <;> exact ⟨rfl, rfl, rfl, rfl⟩
  | hook k => cases k <;> exact ⟨rfl, rfl, rfl, rfl⟩

/-- Anything may be called anywhere, but that the loop is left by its runner. -/
def Kept (_ : Thread) (op : Operation η) : Prop := op ≠ .dropLoop

def isKept (_ : Thread) : Operation η → Bool
  | .dropLoop => false
  | _ => true

lemma kept_of_isKept (t : Thread) (op : Operation η) (checked : isKept t op = true) :
    Kept t op := by
  rintro rfl
  cases checked

lemma served_step (served : Served m)
    (move : Machine.Move component (fun _ => Asked Kept) m a m') : Served m' := by
  cases move using Machine.Move.elim with
  | work e i rest => exact served_work served
  | call e c rest | note e s rest => exact ⟨served.passes_only, served.live⟩
  | invoke m is asked =>
    refine ⟨?_, served.live⟩
    cases asked with
    | operation t op may =>
      cases op with
      | dropLoop => exact absurd rfl may
      | _ => exact served.passes_only
    | setRemote remoteOpen => exact served.passes_only
  | reply e c rest f =>
    cases c with
    | conn p => cases p <;> exact ⟨served.passes_only, served.live⟩
    | hook k => cases k <;> exact ⟨served.passes_only, served.live⟩

lemma counted_work (counted : Counted h ⟨e, .todo (.work i) :: rest⟩)
    (served : Served ⟨e, .todo (.work i) :: rest⟩) :
    Counted (h ++ [(⟨e, .todo (.work i) :: rest⟩, .own (.work i))])
      ⟨(exec i e).1, (exec i e).2.map .todo ++ rest⟩ := by
  obtain ⟨changes_eq, inits_eq, samples_eq⟩ := counted
  have moved := underway_work served
  rw [List.countP_cons] at inits_eq samples_eq
  refine ⟨?_, ?_, ?_⟩
  · rw [changes_snoc, toggles_snoc, changes_eq]
    simp only [isChange, Bool.false_eq_true, if_false]
    omega
  · rw [inits_snoc, samples_snoc, inits_eq, List.countP_append, sampling_work]
    simp only [isInit, sample?, Option.isSome_none, Bool.false_eq_true, if_false]
    omega
  · rw [samples_snoc, bindings_snoc, samples_eq, List.countP_append, sampled_work,
      sampled_eq_isBinding]
    simp only [sample?, Option.isSome_none, Bool.false_eq_true, if_false]
    omega

lemma counted_call {c : StreamCall η} (counted : Counted h ⟨e, .todo (.call c) :: rest⟩) :
    Counted (h ++ [(⟨e, .todo (.call c) :: rest⟩, .own (.call c))]) ⟨e, .held c :: rest⟩ := by
  obtain ⟨changes_eq, inits_eq, samples_eq⟩ := counted
  have same : isSampling (.todo (.call c)) = isSampling (.held c) := by
    cases c with
    | conn p => cases p <;> rfl
    | hook k => rfl
  rw [List.countP_cons, same] at inits_eq
  refine ⟨?_, ?_, ?_⟩
  · simpa [underway, isChange, isToggle, isChanging] using changes_eq
  · simpa [isInit, sample?, List.countP_cons] using inits_eq
  · simpa [sample?, isBinding, isSampled] using samples_eq

lemma counted_invoke {is : List (StreamInstr η)} (counted : Counted h m)
    (asked : Asked Kept is) : Counted (h ++ [(m, .invoke is)]) (m.invoke is) := by
  obtain ⟨changes_eq, inits_eq, samples_eq⟩ := counted
  cases asked with
  | operation t op may =>
    have tells : isChange (.invoke [.enter t op] : Deed η) =
        isChanging (.todo (.work (.enter t op)) : Entry (StreamInstr η) _ _) := by
      cases op <;> rfl
    have starts : isInit (.invoke [.enter t op] : Deed η) =
        isSampling (.todo (.work (.enter t op)) : Entry (StreamInstr η) _ _) := by
      cases op <;> rfl
    have entered : (m.invoke [.enter t op]).agenda = .todo (.work (.enter t op)) :: m.agenda := rfl
    have same : (m.invoke [.enter t op]).state = m.state := rfl
    refine ⟨?_, ?_, ?_⟩
    · rw [changes_snoc, toggles_snoc, changes_eq, tells, underway, underway, entered, same,
        List.countP_cons]
      simp only [isToggle, Bool.false_eq_true, if_false]
      omega
    · rw [inits_snoc, samples_snoc, inits_eq, starts, entered, List.countP_cons]
      simp only [sample?, Option.isSome_none, Bool.false_eq_true, if_false]
      omega
    · simpa [Machine.invoke, sample?, isBinding, isSampled] using samples_eq
  | setRemote remoteOpen =>
    refine ⟨?_, ?_, ?_⟩
    · simpa [Machine.invoke, underway, isChange, isToggle, isChanging] using changes_eq
    · simpa [Machine.invoke, isInit, sample?, isSampling] using inits_eq
    · simpa [Machine.invoke, sample?, isBinding, isSampled] using samples_eq

lemma counted_reply {c : StreamCall η} (r : c.Reply)
    (counted : Counted h ⟨e, .held c :: rest⟩) :
    Counted (h ++ [(⟨e, .held c :: rest⟩, .answer c r)])
      ⟨e, (component.resume c r).map .todo ++ rest⟩ := by
  obtain ⟨changes_eq, inits_eq, samples_eq⟩ := counted
  obtain ⟨no_change, no_sample, bound, sampled⟩ := counts_resume c r
  rw [List.countP_cons, sampled] at inits_eq
  refine ⟨?_, ?_, ?_⟩
  · simpa [underway, isChange, isToggle, isChanging, no_change] using changes_eq
  · rw [inits_snoc, samples_snoc, inits_eq, List.countP_append, no_sample]
    simp only [isInit, Bool.false_eq_true, if_false]
    omega
  · rw [samples_snoc, bindings_snoc, samples_eq, List.countP_append, bound]
    simp only [isBinding, isSampled, Bool.false_eq_true, if_false, List.countP_cons]
    omega

lemma counted_step (counted : Counted h m) (served : Served m)
    (move : Machine.Move component (fun _ => Asked Kept) m a m') :
    Counted (h ++ [(m, a)]) m' := by
  cases move using Machine.Move.elim with
  | work e i rest => exact counted_work counted served
  | call e c rest => exact counted_call counted
  | note e s rest =>
    obtain ⟨changes_eq, inits_eq, samples_eq⟩ := counted
    refine ⟨?_, ?_, ?_⟩
    · simpa [underway, isChange, isToggle, isChanging] using changes_eq
    · simpa [isInit, sample?, isSampling] using inits_eq
    · simpa [sample?, isBinding, isSampled] using samples_eq
  | invoke m is asked => exact counted_invoke counted asked
  | reply e c rest f => exact counted_reply (f c) counted

lemma counted_of_runs (run : RunsAnyhow Kept o owner h m) : Served m ∧ Counted h m := by
  induction run with
  | start => exact ⟨⟨rfl, rfl⟩, ⟨rfl, rfl, rfl⟩⟩
  | step _ move ih => exact ⟨served_step ih.1 move, counted_step ih.2 ih.1 move⟩

/-! ## What the stream takes for its writability -/

/-- One more change turns the writability over. -/
lemma afterChanges_add (n : Nat) (changed : Bool) :
    afterChanges (n + if changed then 1 else 0) = (afterChanges n ^^ changed) := by
  unfold afterChanges
  rcases Nat.mod_two_eq_zero_or_one n with even | odd
  · cases changed with
    | false => simp [even]
    | true =>
      have next : (n + 1) % 2 = 1 := by omega
      simp [even, next]
  · cases changed with
    | false => simp [odd]
    | true =>
      have next : (n + 1) % 2 = 0 := by omega
      simp [odd, next]

lemma afterChanges_eq_iff (n k : Nat) : afterChanges (n + k) = afterChanges k ↔ n % 2 = 0 := by
  unfold afterChanges
  rw [decide_eq_decide]
  omega

lemma exec_writable (no_bind : isBinding (.own (.work i) : Deed η) = false) :
    (exec i e).1.stream.writable = (e.stream.writable ^^ isToggle (.own (.work i) : Deed η)) ∧
      (exec i e).1.stream.slot = e.stream.slot := by
  by_cases toggles : i = .perform .toggleWritable
  · rw [toggles]
    exact ⟨(Bool.xor_true _).symm, rfl⟩
  · have no_toggle : isToggle (.own (.work i) : Deed η) = false := by
      cases i with
      | perform job =>
        cases job with
        | toggleWritable => exact absurd rfl toggles
        | _ => rfl
      | _ => rfl
    rw [no_toggle, Bool.xor_false]
    have alters := exec_alters i e
    generalize (exec i e).1 = e' at *
    cases alters with
    | toggles => exact absurd rfl toggles
    | binds => cases no_bind
    | _ => exact ⟨rfl, rfl⟩

/-- Before it is bound the stream takes itself to be writable until it hears of a change. Once it
is bound it goes on from the sample, with the changes that take effect afterwards: all but those
before the binding. -/
structure Tracked (h : Past η) (m : Live η) : Prop where
  sampled : ∀ id w, .todo (.work (.bind id w)) ∈ m.agenda →
    w = afterChanges (changes (beforeSample h))
  allocated : m.state.stream.slot = .unallocated ↔ bindings h = 0
  unbound : bindings h = 0 → m.state.stream.writable = afterChanges (toggles h)
  bound : bindings h ≠ 0 → m.state.stream.writable =
    afterChanges (changes (beforeSample h) + toggles (beforeBinding h) + toggles h)

lemma beforeSample_snoc {b : Live η × Deed η} (sampled : samples h ≠ 0) :
    beforeSample (h ++ [b]) = beforeSample h :=
  takeWhile_snoc_of_hit sampled

lemma beforeBinding_snoc {b : Live η × Deed η} (bound : bindings h ≠ 0) :
    beforeBinding (h ++ [b]) = beforeBinding h :=
  takeWhile_snoc_of_hit bound

lemma Counted.sampled_of_due (counted : Counted h m) {id : Nat} {w : Bool}
    (due : .todo (.work (.bind id w)) ∈ m.agenda) : samples h ≠ 0 := by
  have some_due : 0 < m.agenda.countP isSampled := List.countP_pos_iff.mpr ⟨_, due, rfl⟩
  have samples_eq := counted.samples_eq
  omega

lemma Counted.sampled_of_bound (counted : Counted h m) (bound : bindings h ≠ 0) :
    samples h ≠ 0 := by
  have samples_eq := counted.samples_eq
  omega

/-- As long as nothing is sampled or bound, a change that takes effect is all that counts. -/
lemma Tracked.snoc {b : Live η × Deed η} (tracked : Tracked h m) (counted : Counted h m)
    (none_sampled : ∀ id w, .todo (.work (.bind id w)) ∈ m'.agenda →
      .todo (.work (.bind id w)) ∈ m.agenda)
    (no_bind : isBinding b.2 = false)
    (writable : m'.state.stream.writable = (m.state.stream.writable ^^ isToggle b.2))
    (same_slot : m'.state.stream.slot = m.state.stream.slot) : Tracked (h ++ [b]) m' := by
  have same_bindings : bindings (h ++ [b]) = bindings h := by simp [no_bind]
  refine ⟨fun id w due => ?_, ?_, fun unbound => ?_, fun bound => ?_⟩
  · have due_before := none_sampled id w due
    rw [beforeSample_snoc (counted.sampled_of_due due_before)]
    exact tracked.sampled id w due_before
  · rw [same_slot, same_bindings]
    exact tracked.allocated
  · rw [same_bindings] at unbound
    rw [writable, toggles_snoc, afterChanges_add, tracked.unbound unbound]
  · rw [same_bindings] at bound
    rw [writable, toggles_snoc, beforeBinding_snoc bound,
      beforeSample_snoc (counted.sampled_of_bound bound), ← Nat.add_assoc, afterChanges_add,
      tracked.bound bound]

/-- No instruction leaves a sample to bind: only the connection's answer does. -/
lemma none_sampled_exec {id : Nat} {w : Bool}
    (due : .todo (.work (.bind id w)) ∈ (exec i e).2.map .todo ++ rest) :
    .todo (.work (.bind id w)) ∈ rest := by
  refine (List.mem_append.mp due).resolve_left fun left => ?_
  obtain ⟨y, hy, same⟩ := List.mem_map.mp left
  obtain rfl := Entry.todo.inj same
  cases exec_leaves i e _ hy

/-- The one sample is bound: from now on it counts, and not what was heard before. -/
lemma tracked_bind {id : Nat} {w : Bool}
    (tracked : Tracked h ⟨e, .todo (.work (.bind id w)) :: rest⟩)
    (counted : Counted h ⟨e, .todo (.work (.bind id w)) :: rest⟩) (once : inits h ≤ 1) :
    Tracked (h ++ [(⟨e, .todo (.work (.bind id w)) :: rest⟩, .own (.work (.bind id w)))])
      ⟨(exec (.bind id w) e).1, (exec (.bind id w) e).2.map .todo ++ rest⟩ := by
  have inits_eq := counted.inits_eq
  have samples_eq := counted.samples_eq
  rw [List.countP_cons] at samples_eq
  simp only [isSampled, if_true] at samples_eq
  have none_bound : bindings h = 0 := by omega
  have none_due : rest.countP isSampled = 0 := by omega
  have unallocated : e.stream.slot = .unallocated := tracked.allocated.mpr none_bound
  have sample : w = afterChanges (changes (beforeSample h)) :=
    tracked.sampled id w List.mem_cons_self
  have done : (exec (.bind id w) e).1.stream.slot = .allocated id ∧
      (exec (.bind id w) e).1.stream.writable = w := by
    simp [exec, bind, unallocated, modify]
  refine ⟨fun id' w' due => ?_, ?_, fun none => ?_, fun _ => ?_⟩
  · have due_below := none_sampled_exec due
    rw [List.countP_eq_zero] at none_due
    exact absurd rfl (none_due _ due_below)
  · rw [done.1, bindings_snoc]
    simp [isBinding]
  · rw [bindings_snoc] at none
    simp [isBinding] at none
  · rw [done.2, sample, toggles_snoc, beforeSample_snoc (by omega), beforeBinding,
      takeWhile_snoc_of_first none_bound rfl]
    unfold afterChanges
    simp only [isToggle, Bool.false_eq_true, if_false, Nat.add_zero, decide_eq_decide]
    omega

/-- The one sample is taken. -/
lemma tracked_sample {id : Nat} {f : (c : StreamCall η) → c.Reply}
    (tracked : Tracked h ⟨e, .held (.conn (.canSend id)) :: rest⟩)
    (counted : Counted h ⟨e, .held (.conn (.canSend id)) :: rest⟩) (once : inits h ≤ 1)
    (honest : ∀ w, sample? (.answer (.conn (.canSend id)) (f (.conn (.canSend id))) : Deed η) =
      some w → w = connWritable h) :
    Tracked (h ++ [(⟨e, .held (.conn (.canSend id)) :: rest⟩,
        .answer (.conn (.canSend id)) (f (.conn (.canSend id))))])
      ⟨e, .todo (.work (.bind id (f (.conn (.canSend id))))) :: rest⟩ := by
  have inits_eq := counted.inits_eq
  have samples_eq := counted.samples_eq
  rw [List.countP_cons] at inits_eq
  simp only [isSampling, if_true] at inits_eq
  have none_sampled : samples h = 0 := by omega
  have none_bound : bindings h = 0 := by omega
  refine ⟨fun id' w due => ?_, ?_, fun unbound => ?_, fun bound => ?_⟩
  · have now : beforeSample (h ++ [(⟨e, .held (.conn (.canSend id)) :: rest⟩,
        .answer (.conn (.canSend id)) (f (.conn (.canSend id))))]) = h :=
      takeWhile_snoc_of_first none_sampled rfl
    rw [now]
    rcases List.mem_cons.mp due with same | below
    · obtain ⟨_, sampled⟩ := StreamInstr.bind.inj (Todo.work.inj (Entry.todo.inj same))
      exact honest w (congrArg some sampled.symm)
    · exact absurd none_sampled (counted.sampled_of_due (List.mem_cons_of_mem _ below))
  · rw [bindings_snoc]
    simpa [isBinding] using tracked.allocated
  · rw [toggles_snoc]
    simpa [isToggle] using tracked.unbound none_bound
  · rw [bindings_snoc, none_bound] at bound
    simp [isBinding] at bound

lemma tracked_step (tracked : Tracked h m) (counted : Counted h m) (once : inits h ≤ 1)
    (honest : ∀ w, sample? a = some w → w = connWritable h)
    (move : Machine.Move component (fun _ => Asked Kept) m a m') : Tracked (h ++ [(m, a)]) m' := by
  cases move using Machine.Move.elim with
  | work e i rest =>
    by_cases binds : ∃ id w, i = .bind id w
    · obtain ⟨id, w, rfl⟩ := binds
      exact tracked_bind tracked counted once
    · have no_bind : isBinding (.own (.work i) : Deed η) = false := by
        cases i with
        | bind id w => exact absurd ⟨id, w, rfl⟩ binds
        | _ => rfl
      obtain ⟨writable, same_slot⟩ := exec_writable (e := e) no_bind
      exact tracked.snoc counted
        (fun id w due => List.mem_cons_of_mem _ (none_sampled_exec due)) no_bind writable same_slot
  | call e c rest | note e s rest =>
    exact tracked.snoc counted (fun id w due => by simpa using due) rfl (Bool.xor_false _).symm rfl
  | invoke m is asked =>
    refine tracked.snoc counted (fun id w due => ?_) rfl (Bool.xor_false _).symm rfl
    cases asked <;> simpa [Machine.invoke] using due
  | reply e c rest f =>
    by_cases samples : ∃ id, c = .conn (.canSend id)
    · obtain ⟨id, rfl⟩ := samples
      exact tracked_sample tracked counted once honest
    · refine tracked.snoc counted (fun id w due => ?_) rfl (Bool.xor_false _).symm rfl
      refine List.mem_cons_of_mem _ ((List.mem_append.mp due).resolve_left fun resumed => ?_)
      cases c with
      | conn p =>
        cases p with
        | canSend id => exact samples ⟨id, rfl⟩
        | _ => cases resumed
      | hook k => cases k <;> simp [component, resume] at resumed

lemma tracked_of_runs (run : RunsAnyhow Kept o owner h m) (once : inits h ≤ 1)
    (honest : Honest h) : Tracked h m := by
  induction run with
  | start =>
    refine ⟨fun id w due => ?_, ⟨fun _ => rfl, fun _ => rfl⟩, fun _ => rfl, fun bound => ?_⟩
    · cases due
    · exact absurd rfl bound
  | step run move ih =>
    obtain ⟨honest_before, honest_now⟩ := (honest_snoc _).mp honest
    rw [inits_snoc] at once
    have once_before : inits _ ≤ 1 := Nat.le_of_add_right_le once
    exact tracked_step (ih once_before honest_before) (counted_of_runs run).2 once_before
      honest_now move

/-- Let the connection tell the stream of every change, report its writability truly, and allocate
the stream once. When the stream is allocated, all calls have returned and nothing is posted to
the loop, the stream agrees with the connection exactly if the changes told before the sample and
those that took effect before the binding are both even or both odd in number. -/
theorem writable_iff (run : RunsAnyhow Kept o owner h m) (once : inits h ≤ 1) (honest : Honest h)
    (allocated : m.state.stream.slot ≠ .unallocated) (returned : m.agenda = [])
    (done : m.state.loop.pending = []) :
    m.state.stream.writable = connWritable h ↔
      changes (beforeSample h) % 2 = toggles (beforeBinding h) % 2 := by
  have tracked := tracked_of_runs run once honest
  have bound : bindings h ≠ 0 := fun none => allocated (tracked.allocated.mpr none)
  have all_in_effect : changes h = toggles h := by
    rw [(counted_of_runs run).2.changes_eq, underway, returned, done]
    rfl
  rw [tracked.bound bound, connWritable, all_in_effect, afterChanges_eq_iff]
  omega

/-- Another thread tells of a change, which takes effect before the stream is allocated. -/
def passedBefore : Past Nat × Live Nat :=
  Machine.drive component 40
    [.ask [.enter 1 .toggleWritable], .ask [.enter 0 .runLoop], .ask [.enter 0 (.allocate 1)],
      .reply (plainly false .success)]
    (.idle (fresh .standard 0))

theorem writable_passedBefore :
    RunsAnyhow Kept .standard 0 passedBefore.1 passedBefore.2 ∧ Honest passedBefore.1 ∧
      passedBefore.2.state.stream.writable = connWritable passedBefore.1 := by
  have kept : ∀ t (op : Operation Nat), (match op with | .dropLoop => false | _ => true) = true →
      Kept t op := by
    rintro t op checked rfl
    cases checked
  have run : RunsAnyhow Kept .standard 0 passedBefore.1 passedBefore.2 :=
    Machine.drive_run (fun _ _ _ => asked_of_isAsked kept) _ _ _ rfl
  exact ⟨run, rfl, (writable_iff run (by decide) rfl nofun rfl rfl).mpr rfl⟩

/-- Another thread tells of a change, which takes effect after the stream was allocated. -/
def passedAfter : Past Nat × Live Nat :=
  Machine.drive component 40
    [.ask [.enter 1 .toggleWritable], .ask [.enter 0 (.allocate 1)],
      .reply (plainly false .success), .ask [.enter 0 .runLoop]]
    (.idle (fresh .standard 0))

/-- A change that the sample shows already is heard of again when its job comes, and the stream
takes itself to be writable while it is not. -/
theorem not_writable_in_step :
    ¬ (∀ (h : Past Nat) (m : Live Nat), Runs true .standard 0 h m → inits h ≤ 1 → Honest h →
      m.state.stream.slot ≠ .unallocated → m.agenda = [] → m.state.loop.pending = [] →
      m.state.stream.writable = connWritable h) := by
  intro all
  have run : Runs true .standard 0 passedAfter.1 passedAfter.2 :=
    Machine.drive_run (fun _ _ => request_of_isRequest) _ _ _ rfl
  have agrees := all _ _ run (by decide) rfl nofun rfl rfl
  exact absurd agrees (by decide)

end StreamControl.Endpoint
