import StreamControl.Proofs.StreamFraming

/-!
# Work that is posted

An operation that is called on another thread posts its job, and a pass over the loop does the jobs
one after the other. Each of them unfolds as it does right after a call on the loop. So a script of
operations comes to the same on either way, but that what is counted by the callers themselves is
counted earlier.
-/

namespace StreamControl

/-- An operation that has nothing done but a job, on the loop. -/
def Operation.isFunnelled {η : Type} : Operation η → Bool
  | .allocate _ | .updatePriority _ | .setPriority _ | .runLoop | .dropLoop => false
  | _ => true

/-- What is counted by whoever calls an operation. -/
def Operation.counts {η : Type} : Operation η → List (StreamCall η)
  | .data bytes => [.conn (.countRead bytes.size)]
  | .fin _ => [.conn .flushRead]
  | .close => [.conn .flushWritten]
  | _ => []

/-- The second list is the first one with some early entries brought forward. -/
inductive BroughtForward {α : Type} (early : α → Bool) : List α → List α → Prop
  | nil : BroughtForward early [] []
  | cons (x : α) {l l' : List α} (tail : BroughtForward early l l') :
    BroughtForward early (x :: l) (x :: l')
  | swap (x : α) {c : α} (is_early : early c = true) (l : List α) :
    BroughtForward early (x :: c :: l) (c :: x :: l)
  | trans {l l' l'' : List α} (first : BroughtForward early l l')
      (second : BroughtForward early l' l'') : BroughtForward early l l''

namespace BroughtForward

variable {α : Type} {early : α → Bool} {l l' : List α}

lemma refl : ∀ l : List α, BroughtForward early l l
  | [] => nil
  | x :: l => (refl l).cons x

lemma append_left (k : List α) (tail : BroughtForward early l l') :
    BroughtForward early (k ++ l) (k ++ l') := by
  induction k with
  | nil => exact tail
  | cons x k ih => exact ih.cons x

/-- Early entries come before all others. -/
lemma bring {c : List α} (all_early : ∀ x ∈ c, early x = true) (k l : List α) :
    BroughtForward early (k ++ (c ++ l)) (c ++ (k ++ l)) := by
  induction c with
  | nil => exact refl _
  | cons x c ih =>
    have passed : BroughtForward early (k ++ x :: (c ++ l)) (x :: (k ++ (c ++ l))) := by
      clear ih
      induction k with
      | nil => exact refl _
      | cons y k ih => exact (ih.cons y).trans (.swap y (all_early x List.mem_cons_self) _)
    exact passed.trans ((ih fun y hy => all_early y (List.mem_cons_of_mem _ hy)).cons x)

/-- The others stay as they are. -/
lemma filter_eq (brought : BroughtForward early l l') :
    l'.filter (fun x => !early x) = l.filter fun x => !early x := by
  induction brought with
  | nil => rfl
  | cons x _ ih => simp only [List.filter_cons, ih]
  | swap x is_early l => simp [List.filter_cons, is_early]
  | trans _ _ first second => exact second.trans first

end BroughtForward

namespace Endpoint

variable {η : Type} {e e' b b' : Endpoint η} {t t₀ : Thread} {s : List (Seen η)}
  {rest : Agenda η} {m : Live η} {job : Job η} {op : Operation η} {script : List (Operation η)}
  {l : TaskLoop (Job η)}

/-! ## One operation -/

def atThread (e : Endpoint η) (t : Thread) : Endpoint η := { e with thread := t }

/-- What is seen of the counting that goes with an operation. -/
def counted (op : Operation η) : List (Seen η) := op.counts.map .counted

lemma isCount_of_counts : ∀ c ∈ op.counts, c.isCount = true := by
  cases op <;> simp [Operation.counts, StreamCall.isCount, Primitive.isCounting]

lemma isCounted_of_counted : ∀ x ∈ counted op, x.isCounted = true := by
  simp [counted, Seen.isCounted]

/-- On any thread an operation counts and then has the job dispatched. -/
def Funnels (op : Operation η) (job : Job η) : Prop :=
  ∀ e : Endpoint η, begin e op = (e, op.counts.map .call ++ [.work (.dispatch job)])

lemma funnels_of_funnelled (funnelled : op.isFunnelled = true) :
    ∃ job, op.job? = some job ∧ Funnels op job := by
  cases op with
  | allocate | updatePriority | setPriority | runLoop | dropLoop => cases funnelled
  | writeHeaders block first fin flush p => cases first <;> exact ⟨_, rfl, fun _ => rfl⟩
  | _ => exact ⟨_, rfl, fun _ => rfl⟩

lemma yields_leave : Yields ⟨e, [.todo (.work (.leave t))]⟩ s e' ↔ s = [] ∧ e' = e.atThread t :=
  yields_work.trans yields_idle

/-- An operation that nobody calls from within another one. -/
def calling (e : Endpoint η) (t : Thread) (op : Operation η) : Live η :=
  ⟨e, [.todo (.work (.enter t op))]⟩

/-- Called by itself, such an operation counts, has its job dispatched, and returns. -/
lemma yields_enter (funnels : Funnels op job) :
    Yields (e.calling t op) s e' ↔ ∃ s', s = counted op ++ s' ∧
      Yields ⟨e.atThread t, [.todo (.work (.dispatch job)), .todo (.work (.leave e.thread))]⟩
        s' e' := by
  have entered : exec (.enter t op) e = (e.atThread t,
      op.counts.map .call ++ [.work (.dispatch job), .work (.leave e.thread)]) := by
    simp only [exec, funnels _, atThread, List.append_assoc, List.singleton_append]
  rw [calling, yields_work, entered, List.append_nil, List.map_append, List.map_map]
  exact yields_counts isCount_of_counts

lemma within_job (on_loop : b.thread = b.loop.owner) :
    Within b.loop.owner ⟨b, [.todo (.work (.perform job))]⟩ :=
  ⟨rfl, on_loop, by simp [IsWithin]⟩

lemma yields_stays (on_loop : b.thread = b.loop.owner)
    (yields : Yields ⟨b, [.todo (.work (.perform job))]⟩ s b') :
    b'.loop = b.loop ∧ b'.thread = b'.loop.owner := by
  obtain ⟨h, run, -⟩ := yields
  obtain ⟨within, same_loop⟩ := within_of_unfolds (within_job on_loop) run
  exact ⟨same_loop, within.at_owner.trans within.owned.symm⟩

/-- A job unfolds on any loop of its owner, and then the rest does. -/
lemma yields_job (on_loop : b.thread = b.loop.owner) (same_owner : l.owner = b.loop.owner) :
    Yields ⟨b.withLoop l, .todo (.work (.perform job)) :: rest⟩ s e' ↔
      ∃ s₁ s₂ b₁, Yields ⟨b, [.todo (.work (.perform job))]⟩ s₁ b₁ ∧
        Yields ⟨b₁.withLoop l, rest⟩ s₂ e' ∧ s = s₁ ++ s₂ :=
  yields_framed (within_job on_loop) same_owner

/-- Called on the loop, an operation has its job done at once. -/
lemma yields_direct (funnels : Funnels op job)
    (on_loop : b.thread = b.loop.owner) :
    Yields ((b.atThread t₀).calling b.loop.owner op) s e' ↔
      ∃ s₁ b₁, Yields ⟨b, [.todo (.work (.perform job))]⟩ s₁ b₁ ∧ s = counted op ++ s₁ ∧
        e' = b₁.atThread t₀ := by
  have back : (b.atThread t₀).atThread b.loop.owner = b := by rw [← on_loop]; rfl
  have performs : exec (.dispatch job) b = (b, [.work (.perform job)]) := by
    simp [exec, onLoop, TaskLoop.ownedBy, on_loop]
  have done (s' : List (Seen η)) :
      Yields ⟨b, [.todo (.work (.dispatch job)), .todo (.work (.leave t₀))]⟩ s' e' ↔
        ∃ s₁ s₂ b₁, Yields ⟨b, [.todo (.work (.perform job))]⟩ s₁ b₁ ∧
          Yields ⟨b₁.withLoop b.loop, [.todo (.work (.leave t₀))]⟩ s₂ e' ∧ s' = s₁ ++ s₂ := by
    rw [yields_work, performs]
    exact yields_job on_loop rfl
  rw [yields_enter funnels, back]
  simp only [show (b.atThread t₀).thread = t₀ from rfl, done, yields_leave]
  constructor
  · rintro ⟨s', rfl, s₁, s₂, b₁, first, ⟨rfl, rfl⟩, rfl⟩
    exact ⟨s₁, b₁, first, by rw [List.append_nil], by rw [← (yields_stays on_loop first).1]; rfl⟩
  · rintro ⟨s₁, b₁, first, rfl, rfl⟩
    exact ⟨s₁, rfl, s₁, [], b₁, first, ⟨rfl, by rw [← (yields_stays on_loop first).1]; rfl⟩,
      (List.append_nil s₁).symm⟩

/-- What a loop is after something was posted to it. -/
def posting (l : TaskLoop (Job η)) (job : Job η) : TaskLoop (Job η) :=
  { l with pending := l.pending ++ [job], waker := none }

/-- Called on another thread, an operation posts its job. -/
lemma yields_posting (funnels : Funnels op job)
    (away : t ≠ e.loop.owner) (live : e.loop.isLive = true) :
    Yields (e.calling t op) s e' ↔ s = counted op ∧ e' = e.withLoop (posting e.loop job) := by
  have posts : exec (.dispatch job) (e.atThread t) =
      (e.atThread t, [.work (.loop (.post job))]) := by
    simp [exec, onLoop, TaskLoop.ownedBy, atThread, away.symm]
  have posted : exec (.loop (.post job)) (e.atThread t) =
      ((e.atThread t).withLoop (posting e.loop job), []) := by
    have live' : (e.atThread t).loop.isLive = true := live
    simp only [exec, TaskLoop.exec, live', if_true, TaskLoop.wake]
    cases (e.atThread t).loop.waker <;> rfl
  have done (s' : List (Seen η)) :
      Yields ⟨e.atThread t, [.todo (.work (.dispatch job)), .todo (.work (.leave e.thread))]⟩
        s' e' ↔ s' = [] ∧ e' = e.withLoop (posting e.loop job) := by
    rw [yields_work, posts, List.map_singleton, List.singleton_append, yields_work, posted]
    exact yields_leave
  rw [yields_enter funnels]
  simp only [done]
  constructor
  · rintro ⟨s', rfl, rfl, rfl⟩
    exact ⟨List.append_nil _, rfl⟩
  · rintro ⟨rfl, rfl⟩
    exact ⟨[], (List.append_nil _).symm, rfl, rfl⟩

/-! ## The jobs of a script -/

/-- The jobs of a script are done one after the other, and this is seen of each. -/
inductive Performs : Endpoint η → List (Operation η) → List (List (Seen η)) → Endpoint η → Prop
  | done {b : Endpoint η} : Performs b [] [] b
  | next {b b₁ b' : Endpoint η} {op : Operation η} {job : Job η} {script : List (Operation η)}
      {s : List (Seen η)} {ss : List (List (Seen η))} (asks : op.job? = some job)
      (first : Yields ⟨b, [.todo (.work (.perform job))]⟩ s b₁) (later : Performs b₁ script ss b') :
    Performs b (op :: script) (s :: ss) b'

def jobs (script : List (Operation η)) : List (Job η) := script.filterMap Operation.job?

/-- At the end of a pass the runner is ready again. -/
lemma yields_passed {ran : Nat} (empty : l.pending = []) :
    Yields ⟨b.withLoop l, [.todo (.work (.loop (.passNext ran))), .todo (.work (.leave t₀))]⟩ s e' ↔
      s = [] ∧ e' = (b.withLoop { l with pending := [], runner := .ready }).atThread t₀ := by
  have returns : exec (.loop (.passNext ran)) (b.withLoop l) =
      (b.withLoop { l with pending := [], runner := .ready },
        (if ran = 0 then [] else [trace (.tasksRun ran)]) ++ [.note (.passed ran)]) := by
    simp only [exec, TaskLoop.exec, show (b.withLoop l).loop = l from rfl, empty]
    split <;> simp [withLoop, ofLoop]
  rw [yields_work, returns]
  split
  · exact (yields_note rfl).trans yields_leave
  · exact (yields_note rfl).trans ((yields_note rfl).trans yields_leave)

/-- A pass over the loop does the jobs of a script, and nothing else is seen of it. -/
lemma yields_passNext {ran : Nat} (on_loop : b.thread = b.loop.owner)
    (same_owner : l.owner = b.loop.owner) (pending : l.pending = jobs script)
    (asks : ∀ op ∈ script, op.job?.isSome = true) :
    Yields ⟨b.withLoop l, [.todo (.work (.loop (.passNext ran))), .todo (.work (.leave t₀))]⟩ s e' ↔
      ∃ ss b', Performs b script ss b' ∧ s = ss.flatten ∧
        e' = (b'.withLoop { l with pending := [], runner := .ready }).atThread t₀ := by
  induction script generalizing b l s ran with
  | nil =>
    rw [yields_passed pending]
    constructor
    · rintro ⟨rfl, rfl⟩
      exact ⟨[], b, .done, rfl, rfl⟩
    · rintro ⟨ss, b', performs, rfl, rfl⟩
      cases performs
      exact ⟨rfl, rfl⟩
  | cons op script ih =>
    obtain ⟨job, asks_job⟩ := Option.isSome_iff_exists.mp (asks op List.mem_cons_self)
    have pending : l.pending = job :: jobs script := by simpa [jobs, asks_job] using pending
    obtain ⟨l₁, l₁_eq⟩ : ∃ l₁, l₁ = { l with pending := jobs script } := ⟨_, rfl⟩
    have runs : exec (.loop (.passNext ran)) (b.withLoop l) =
        (b.withLoop l₁, [.work (.perform job), .work (.loop (.passNext (ran + 1)))]) := by
      simp only [exec, TaskLoop.exec, show (b.withLoop l).loop = l from rfl, pending, l₁_eq]
      rfl
    have same_owner₁ : l₁.owner = b.loop.owner := by rw [l₁_eq]; exact same_owner
    have later {b₁ : Endpoint η} {s₁ s₂ : List (Seen η)}
        (first : Yields ⟨b, [.todo (.work (.perform job))]⟩ s₁ b₁) :
        Yields ⟨b₁.withLoop l₁,
            [.todo (.work (.loop (.passNext (ran + 1)))), .todo (.work (.leave t₀))]⟩ s₂ e' ↔
          ∃ ss b', Performs b₁ script ss b' ∧ s₂ = ss.flatten ∧
            e' = (b'.withLoop { l with pending := [], runner := .ready }).atThread t₀ := by
      obtain ⟨same_loop, on_loop₁⟩ := yields_stays on_loop first
      have same_owner₂ : l₁.owner = b₁.loop.owner := by rw [same_owner₁, same_loop]
      have pending₁ : l₁.pending = jobs script := by rw [l₁_eq]
      rw [ih on_loop₁ same_owner₂ pending₁ fun op' member =>
        asks op' (List.mem_cons_of_mem _ member), l₁_eq]
    -- The job unfolds above the rest of the pass, which takes up the later jobs.
    rw [yields_work, runs]
    refine (yields_job on_loop same_owner₁).trans ?_
    constructor
    · rintro ⟨s₁, s₂, b₁, first, second, rfl⟩
      obtain ⟨ss, b', performs, rfl, rfl⟩ := (later first).mp second
      exact ⟨s₁ :: ss, b', .next asks_job first performs, rfl, rfl⟩
    · rintro ⟨ss, b', performs, rfl, rfl⟩
      cases performs with
      | next asks_job' first performs =>
        obtain rfl := Option.some.inj (asks_job.symm.trans asks_job')
        exact ⟨_, _, _, first, (later first).mpr ⟨_, _, performs, rfl, rfl⟩, rfl⟩

lemma yields_pass (on_loop : b.thread = b.loop.owner) (same_owner : l.owner = b.loop.owner)
    (ready : l.runner = .ready) (pending : l.pending = jobs script)
    (asks : ∀ op ∈ script, op.job?.isSome = true) :
    Yields (((b.withLoop l).atThread t₀).calling b.loop.owner .runLoop) s e' ↔
      ∃ ss b', Performs b script ss b' ∧ s = ss.flatten ∧
        e' = (b'.withLoop { l with pending := [], runner := .ready }).atThread t₀ := by
  have entered : exec (.enter b.loop.owner .runLoop) ((b.withLoop l).atThread t₀) =
      (b.withLoop l, [.work (.loop (.pass b.loop.owner)), .work (.leave t₀)]) := by
    simp only [exec, begin, atThread, withLoop, ← on_loop]
    rfl
  have passes : exec (.loop (.pass b.loop.owner)) (b.withLoop l) =
      (b.withLoop { l with runner := .passing }, [.work (.loop (.passNext 0))]) := by
    simp only [exec, TaskLoop.exec, show (b.withLoop l).loop = l from rfl, ready, if_true,
      ← same_owner]
    rfl
  rw [calling, yields_work, entered]
  refine yields_work.trans ?_
  rw [passes]
  exact yields_passNext on_loop same_owner pending asks

/-! ## Scripts -/

/-- A script is played to its end, and this is seen of it. -/
def Shows (e : Endpoint η) (script : List (List (StreamInstr η))) (s : List (Seen η))
    (e' : Endpoint η) : Prop := ∃ h, Plays e script h e' ∧ disclosed h = s

lemma shows_nil : Shows e [] s e' ↔ s = [] ∧ e' = e := by
  constructor
  · rintro ⟨h, plays, rfl⟩
    cases plays
    exact ⟨rfl, rfl⟩
  · rintro ⟨rfl, rfl⟩
    exact ⟨[], .done, rfl⟩

lemma shows_cons {is : List (StreamInstr η)} {later : List (List (StreamInstr η))} :
    Shows e (is :: later) s e' ↔ ∃ s₁ s₂ e₁, Yields ((Machine.idle e).invoke is) s₁ e₁ ∧
      Shows e₁ later s₂ e' ∧ s = s₁ ++ s₂ := by
  constructor
  · rintro ⟨h, plays, rfl⟩
    cases plays with
    | next turn plays =>
      exact ⟨_, _, _, ⟨_, turn, rfl⟩, ⟨_, plays, rfl⟩, disclosed_append _ _⟩
  · rintro ⟨s₁, s₂, e₁, ⟨h₁, turn, rfl⟩, ⟨h₂, plays, rfl⟩, rfl⟩
    exact ⟨_, .next turn plays, disclosed_append _ _⟩

/-- The operations of a script, called one after the other on a thread. -/
def calledOn (t : Thread) (script : List (Operation η)) : List (List (StreamInstr η)) :=
  script.map fun op => [.enter t op]

/-- What is seen of a script if each job is done at once. -/
def inTurn : List (Operation η) → List (List (Seen η)) → List (Seen η)
  | op :: script, s :: ss => counted op ++ s ++ inTurn script ss
  | _, _ => []

/-- What is seen of a script if the jobs are done when all has been called. -/
def afterwards (script : List (Operation η)) (ss : List (List (Seen η))) : List (Seen η) :=
  script.flatMap counted ++ ss.flatten

lemma asks_of_funnelled (funnelled : ∀ op ∈ script, op.isFunnelled = true) :
    ∀ op ∈ script, op.job?.isSome = true := by
  intro op member
  obtain ⟨job, asks, -⟩ := funnels_of_funnelled (funnelled op member)
  rw [asks, Option.isSome_some]

/-- On the loop, each job is done at once. -/
lemma shows_direct (t₀ : Thread) (on_loop : b.thread = b.loop.owner)
    (funnelled : ∀ op ∈ script, op.isFunnelled = true) :
    Shows (b.atThread t₀) (calledOn b.loop.owner script) s e' ↔
      ∃ ss b', Performs b script ss b' ∧ s = inTurn script ss ∧ e' = b'.atThread t₀ := by
  induction script generalizing b s with
  | nil =>
    refine shows_nil.trans ?_
    constructor
    · rintro ⟨rfl, rfl⟩
      exact ⟨[], b, .done, rfl, rfl⟩
    · rintro ⟨ss, b', performs, rfl, rfl⟩
      cases performs
      exact ⟨rfl, rfl⟩
  | cons op script ih =>
    obtain ⟨job, asks, funnels⟩ := funnels_of_funnelled (funnelled op List.mem_cons_self)
    have later {b₁ : Endpoint η} {s₁ s₂ : List (Seen η)}
        (first : Yields ⟨b, [.todo (.work (.perform job))]⟩ s₁ b₁) :
        Shows (b₁.atThread t₀) (calledOn b.loop.owner script) s₂ e' ↔
          ∃ ss b', Performs b₁ script ss b' ∧ s₂ = inTurn script ss ∧ e' = b'.atThread t₀ := by
      obtain ⟨same_loop, on_loop₁⟩ := yields_stays on_loop first
      rw [← same_loop]
      exact ih on_loop₁ fun op' member => funnelled op' (List.mem_cons_of_mem _ member)
    refine shows_cons.trans ?_
    constructor
    · rintro ⟨s₁, s₂, e₁, turn, plays, rfl⟩
      obtain ⟨s₁, b₁, first, rfl, rfl⟩ := (yields_direct funnels on_loop).mp turn
      obtain ⟨ss, b', performs, rfl, rfl⟩ := (later first).mp plays
      exact ⟨s₁ :: ss, b', .next asks first performs, rfl, rfl⟩
    · rintro ⟨ss, b', performs, rfl, rfl⟩
      cases performs with
      | next asks' first performs =>
        obtain rfl := Option.some.inj (asks.symm.trans asks')
        exact ⟨_, _, _, (yields_direct funnels on_loop).mpr ⟨_, _, first, rfl, rfl⟩,
          (later first).mpr ⟨_, _, performs, rfl, rfl⟩, rfl⟩

/-- On another thread, the jobs are posted. -/
lemma shows_posting (last : List (List (StreamInstr η))) (ready : e.loop.runner = .ready)
    (away : t ≠ e.loop.owner) (funnelled : ∀ op ∈ script, op.isFunnelled = true) :
    ∃ l, l.owner = e.loop.owner ∧ l.runner = .ready ∧ l.pending = e.loop.pending ++ jobs script ∧
      ∀ s e', Shows e (calledOn t script ++ last) s e' ↔
        ∃ s', s = script.flatMap counted ++ s' ∧ Shows (e.withLoop l) last s' e' := by
  induction script generalizing e with
  | nil =>
    refine ⟨e.loop, rfl, ready, (List.append_nil _).symm, fun s e' => ?_⟩
    simp only [calledOn, List.map_nil, List.flatMap_nil, List.nil_append, exists_eq_left']
    rfl
  | cons op script ih =>
    obtain ⟨job, asks, funnels⟩ := funnels_of_funnelled (funnelled op List.mem_cons_self)
    have live : e.loop.isLive = true := by rw [TaskLoop.isLive, ready]
    obtain ⟨l, same_owner, still_ready, pending, shows⟩ :=
      ih (e := e.withLoop (posting e.loop job)) ready away
        fun op' member => funnelled op' (List.mem_cons_of_mem _ member)
    refine ⟨l, same_owner, still_ready, ?_, fun s e' => ?_⟩
    · rw [pending]
      simp [withLoop, posting, jobs, asks]
    · refine shows_cons.trans ?_
      constructor
      · rintro ⟨s₁, s₂, e₁, turn, plays, rfl⟩
        obtain ⟨rfl, rfl⟩ := (yields_posting funnels away live).mp turn
        obtain ⟨s', rfl, done⟩ := (shows _ _).mp plays
        exact ⟨s', by rw [List.flatMap_cons, List.append_assoc], done⟩
      · rintro ⟨s', rfl, done⟩
        refine ⟨_, _, _, (yields_posting funnels away live).mpr ⟨rfl, rfl⟩,
          (shows _ _).mpr ⟨s', rfl, done⟩, ?_⟩
        rw [List.flatMap_cons, List.append_assoc]

/-- The operations of a script are called on a thread, and then a pass is made over the loop. -/
def postedFrom (t owner : Thread) (script : List (Operation η)) : List (List (StreamInstr η)) :=
  calledOn t script ++ [[.enter owner .runLoop]]

/-- On another thread, the jobs are done when all has been called. -/
lemma shows_posted (t₀ : Thread) (on_loop : b.thread = b.loop.owner)
    (ready : b.loop.runner = .ready) (none_pending : b.loop.pending = [])
    (away : t ≠ b.loop.owner) (funnelled : ∀ op ∈ script, op.isFunnelled = true) :
    ∃ l, ∀ s e', Shows (b.atThread t₀) (postedFrom t b.loop.owner script) s e' ↔
      ∃ ss b', Performs b script ss b' ∧ s = afterwards script ss ∧
        e' = (b'.withLoop l).atThread t₀ := by
  obtain ⟨l, same_owner, still_ready, pending, shows⟩ :=
    shows_posting (e := b.atThread t₀) [[.enter b.loop.owner .runLoop]] ready away funnelled
  have pending : l.pending = jobs script := by
    rw [pending, show (b.atThread t₀).loop.pending = [] from none_pending, List.nil_append]
  have passes (s : List (Seen η)) (e' : Endpoint η) :
      Yields (((b.withLoop l).atThread t₀).calling b.loop.owner .runLoop) s e' ↔ _ :=
    yields_pass on_loop same_owner still_ready pending (asks_of_funnelled funnelled)
  refine ⟨{ l with pending := [], runner := .ready }, fun s e' => (shows s e').trans ?_⟩
  constructor
  · rintro ⟨s', rfl, plays⟩
    obtain ⟨s₁, s₂, e₁, turn, done, rfl⟩ := shows_cons.mp plays
    obtain ⟨rfl, rfl⟩ := shows_nil.mp done
    obtain ⟨ss, b', performs, rfl, rfl⟩ := (passes _ _).mp turn
    exact ⟨ss, b', performs, by rw [List.append_nil, afterwards], rfl⟩
  · rintro ⟨ss, b', performs, rfl, rfl⟩
    refine ⟨ss.flatten, rfl, shows_cons.mpr ⟨ss.flatten, [], _, ?_, shows_nil.mpr ⟨rfl, rfl⟩,
      (List.append_nil _).symm⟩⟩
    exact (passes _ _).mpr ⟨ss, b', performs, rfl, rfl⟩

/-! ## Transparency -/

/-- The second of two plays is like the first one, but that what keeps count of what is received
may come earlier. -/
structure PlayedAlike (h₁ : Past η) (e₁ : Endpoint η) (h₂ : Past η) (e₂ : Endpoint η) : Prop where
  shown_eq : shown (disclosed h₂) = shown (disclosed h₁)
  earlier : BroughtForward Seen.isCounted (disclosed h₁) (disclosed h₂)
  view_eq : e₂.view = e₁.view

lemma brought_of_performs {ss : List (List (Seen η))} (performs : Performs b script ss b') :
    BroughtForward Seen.isCounted (inTurn script ss) (afterwards script ss) := by
  induction performs with
  | done => exact .nil
  | @next b b₁ b' op job script s ss asks first later ih =>
    have all_counted : ∀ x ∈ script.flatMap counted, x.isCounted = true := by
      intro x member
      obtain ⟨op, -, member⟩ := List.mem_flatMap.mp member
      exact isCounted_of_counted x member
    have tail := (ih.append_left s).trans (.bring all_counted s ss.flatten)
    simpa only [inTurn, afterwards, List.flatMap_cons, List.flatten_cons, List.append_assoc]
      using tail.append_left (counted op)

section Transparency

variable {plan : Plan η} {h₁ h₂ : Past η} {e₁ e₂ : Endpoint η}

/-- Whatever is played on the loop is played alike from another thread. -/
lemma posted_of_direct (ready : e.loop.runner = .ready) (none_pending : e.loop.pending = [])
    (away : t ≠ e.loop.owner) (funnelled : ∀ op ∈ script, op.isFunnelled = true)
    (direct : PlaysBy plan e (calledOn e.loop.owner script) h₁ e₁) :
    ∃ h₂ e₂, PlaysBy plan e (postedFrom t e.loop.owner script) h₂ e₂ ∧ PlayedAlike h₁ e₁ h₂ e₂ := by
  obtain ⟨l, posted⟩ := shows_posted (b := e.atThread e.loop.owner) e.thread rfl ready
    none_pending away funnelled
  obtain ⟨ss, b', performs, disclosed_eq, rfl⟩ :=
    (shows_direct (b := e.atThread e.loop.owner) e.thread rfl funnelled).mp
      ⟨h₁, direct.plays, rfl⟩
  obtain ⟨h₂, plays, disclosed_eq'⟩ := (posted _ _).mpr ⟨ss, b', performs, rfl, rfl⟩
  have earlier : BroughtForward Seen.isCounted (disclosed h₁) (disclosed h₂) := by
    rw [disclosed_eq, disclosed_eq']
    exact brought_of_performs performs
  have shown_eq : shown (disclosed h₂) = shown (disclosed h₁) := earlier.filter_eq
  exact ⟨h₂, _, ⟨plays, shown_eq ▸ direct.by_plan⟩, shown_eq, earlier, rfl⟩

lemma direct_of_posted (ready : e.loop.runner = .ready) (none_pending : e.loop.pending = [])
    (away : t ≠ e.loop.owner) (funnelled : ∀ op ∈ script, op.isFunnelled = true)
    (posted : PlaysBy plan e (postedFrom t e.loop.owner script) h₂ e₂) :
    ∃ h₁ e₁, PlaysBy plan e (calledOn e.loop.owner script) h₁ e₁ := by
  obtain ⟨l, shows⟩ := shows_posted (b := e.atThread e.loop.owner) e.thread rfl ready
    none_pending away funnelled
  obtain ⟨ss, b', performs, disclosed_eq, rfl⟩ := (shows _ _).mp ⟨h₂, posted.plays, rfl⟩
  obtain ⟨h₁, plays, disclosed_eq'⟩ :=
    (shows_direct (b := e.atThread e.loop.owner) e.thread rfl funnelled).mpr
      ⟨ss, b', performs, rfl, rfl⟩
  have earlier : BroughtForward Seen.isCounted (disclosed h₁) (disclosed h₂) := by
    rw [disclosed_eq, disclosed_eq']
    exact brought_of_performs performs
  have shown_eq : shown (disclosed h₂) = shown (disclosed h₁) := earlier.filter_eq
  exact ⟨h₁, _, plays, shown_eq ▸ posted.by_plan⟩

/-- Take a stream with nothing pending on its loop, a script of operations, and surroundings that
follow a plan, calling back on the loop as they like. On the loop the script is played to its end
just if it is when it is called on another thread and then a pass is made over the loop. Both ways
everything looks the same, in the same order, and comes to the same, but that what keeps count of
what is received comes earlier when it is called on the other thread. -/
theorem alike_of_funnelled (ready : e.loop.runner = .ready) (none_pending : e.loop.pending = [])
    (away : t ≠ e.loop.owner) (funnelled : ∀ op ∈ script, op.isFunnelled = true)
    (plan : Plan η) :
    ((∃ h e', PlaysBy plan e (calledOn e.loop.owner script) h e') ↔
      ∃ h e', PlaysBy plan e (postedFrom t e.loop.owner script) h e') ∧
    ∀ h₁ e₁ h₂ e₂, PlaysBy plan e (calledOn e.loop.owner script) h₁ e₁ →
      PlaysBy plan e (postedFrom t e.loop.owner script) h₂ e₂ → PlayedAlike h₁ e₁ h₂ e₂ := by
  refine ⟨⟨?_, ?_⟩, fun h₁ e₁ h₂ e₂ direct posted => ?_⟩
  · rintro ⟨h₁, e₁, direct⟩
    obtain ⟨h₂, e₂, posted, -⟩ :=
      posted_of_direct ready none_pending away funnelled direct
    exact ⟨h₂, e₂, posted⟩
  · rintro ⟨h₂, e₂, posted⟩
    exact direct_of_posted ready none_pending away funnelled posted
  · obtain ⟨h₂', e₂', posted', alike⟩ :=
      posted_of_direct ready none_pending away funnelled direct
    obtain ⟨rfl, rfl⟩ := plays_unique posted.plays posted'.plays posted.by_plan posted'.by_plan
    exact alike

end Transparency

def isCallsBack (m : Live η) (is : List (StreamInstr η)) : Bool :=
  (match m.agenda with
    | .held c :: _ => !c.isCount
    | _ => false) &&
  match is with
    | [.enter t op] => t == m.state.loop.owner && !op.isOnLoop
    | [.setRemote _] => true
    | _ => false

lemma callsBack_of_check {is : List (StreamInstr η)} (checked : isCallsBack m is = true) :
    CallsBack m is := by
  unfold isCallsBack at checked
  obtain ⟨holds, checked⟩ := Bool.and_eq_true_iff.mp checked
  split at holds
  · rename_i c rest head
    have holds_head : m.agenda.head? = some (.held c) := by rw [head]; rfl
    have other : c.isCount = false := by simpa using holds
    split at checked
    · rw [Bool.and_eq_true, beq_iff_eq, Bool.not_eq_true'] at checked
      obtain ⟨rfl, plain⟩ := checked
      exact .operation holds_head other _ plain
    · exact .setRemote holds_head other _
    · cases checked
  · cases holds

/-- The consumer reports more data when it gets its first byte, and all calls are answered. -/
def reportingMore : Plan Nat
  | before, _, c =>
    match c, before.getLast? with
    | .hook (.data bytes), some (.called _ _) =>
      if bytes.size = 1 then .invoke [.enter 0 (.data ⟨#[8, 9]⟩)]
      else .answer (.hook (.data bytes)) (.success : Outcome)
    | c, _ => .answer c (plainly true .success c)

/-- A stream that was allocated. -/
def allocatedBefore : Endpoint Nat :=
  (Machine.drive component 10 [.reply (plainly true .success)]
    ((fresh .standard 0).calling 0 (.allocate 1))).2.state

def reportAndClose : List (Operation Nat) :=
  [.data ⟨#[7]⟩, .writeData (some ⟨#[5]⟩) true 1, .close]

def dataReported : Past Nat × Live Nat :=
  Machine.drive component 60
    [.reply (plainly true .success), .reply (plainly true .success),
      .ask [.enter 0 (.data ⟨#[8, 9]⟩)], .reply (plainly true .success),
      .reply (plainly true .success), .reply (plainly true .success),
      .reply (plainly true .success)]
    (allocatedBefore.calling 0 (.data ⟨#[7]⟩))

def thenWritten : Past Nat × Live Nat :=
  Machine.drive component 60 (List.replicate 3 (.reply (plainly true .success)))
    (dataReported.2.state.calling 0 (.writeData (some ⟨#[5]⟩) true 1))

def thenClosed : Past Nat × Live Nat :=
  Machine.drive component 60 (List.replicate 2 (.reply (plainly true .success)))
    (thenWritten.2.state.calling 0 .close)

/-- Data is reported, with more of it by the consumer itself, then a last write is submitted and the
stream is closed: first on the loop, then on another thread. -/
theorem alike_reportingMore :
    allocatedBefore.loop.runner = .ready ∧ allocatedBefore.loop.pending = [] ∧
      (1 : Thread) ≠ allocatedBefore.loop.owner ∧
      (∀ op ∈ reportAndClose, op.isFunnelled = true) ∧
      ∃ h₁ e₁ h₂ e₂,
        PlaysBy reportingMore allocatedBefore (calledOn 0 reportAndClose) h₁ e₁ ∧
        PlaysBy reportingMore allocatedBefore (postedFrom 1 0 reportAndClose) h₂ e₂ ∧
        PlayedAlike h₁ e₁ h₂ e₂ ∧ e₂.stream.bytesRead = 3 ∧ e₂.stream.bytesWritten = 1 ∧
        e₂.stream.closed = true := by
  have away : (1 : Thread) ≠ allocatedBefore.loop.owner := by decide
  have funnelled : ∀ op ∈ reportAndClose, op.isFunnelled = true := by decide
  have first : Unfolds (allocatedBefore.calling 0 (.data ⟨#[7]⟩)) dataReported.1
      (.idle dataReported.2.state) :=
    Machine.drive_run (fun _ _ _ => callsBack_of_check) _ _ _ rfl
  have second : Unfolds
      (dataReported.2.state.calling 0 (.writeData (some ⟨#[5]⟩) true 1)) thenWritten.1
      (.idle thenWritten.2.state) :=
    Machine.drive_run (fun _ _ _ => callsBack_of_check) _ _ _ rfl
  have third : Unfolds (thenWritten.2.state.calling 0 .close) thenClosed.1
      (.idle thenClosed.2.state) :=
    Machine.drive_run (fun _ _ _ => callsBack_of_check) _ _ _ rfl
  have direct : PlaysBy reportingMore allocatedBefore (calledOn 0 reportAndClose) _
      thenClosed.2.state :=
    { plays := .next first (.next second (.next third .done))
      by_plan := ⟨trivial, rfl, trivial, rfl, rfl, trivial, rfl, trivial, rfl, trivial, rfl,
        trivial, rfl, trivial, rfl, trivial, rfl, trivial⟩ }
  obtain ⟨both, alike⟩ := alike_of_funnelled rfl rfl away funnelled reportingMore
  obtain ⟨h₂, e₂, posted⟩ := both.mp ⟨_, _, direct⟩
  have same := alike _ _ _ _ direct posted
  have stream_eq : e₂.stream = thenClosed.2.state.stream := congrArg View.stream same.view_eq
  exact ⟨rfl, rfl, away, funnelled, _, _, h₂, e₂, direct, posted, same, stream_eq ▸ rfl,
    stream_eq ▸ rfl, stream_eq ▸ rfl⟩

end Endpoint

end StreamControl
