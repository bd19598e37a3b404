import StreamControl.Proofs.LoopTasks

/-!
# The tasks of a loop, in order

A loop runs its tasks in posting order, and only while its runner is driven. A pass or a poll goes
on until it finds nothing left to do, so all that was posted before has been run by then. It
returns a little later: what another thread posts in between has to wait.
-/

namespace StreamControl.TaskLoop

variable {τ : Type} {owner : Thread} {h h' : Past τ} {m m' : Live τ} {rest agenda : Agenda τ}
  {l l' : TaskLoop τ} {i : Instr τ} {out : List (Todo (Instr τ) (Call τ) (Note τ))}

/-! ## What a pass counts -/

/-- The latest pass is underway, and this is what happened since it began. -/
def IsPass (h during : Past τ) : Prop :=
  ∃ earlier m₀ t, h = earlier ++ (m₀, .own (.work (.pass t))) :: during ∧
    m₀.state.runner = .ready ∧ ∀ b ∈ during, b.1.state.runner = .passing

lemma IsPass.snoc {during : Past τ} (pass : IsPass h during) {b : Live τ × Deed τ}
    (passing : b.1.state.runner = .passing) : IsPass (h ++ [b]) (during ++ [b]) := by
  obtain ⟨earlier, m₀, t, rfl, ready, underway⟩ := pass
  refine ⟨earlier, m₀, t, by simp, ready, ?_⟩
  rw [List.forall_mem_append, List.forall_mem_singleton]
  exact ⟨underway, passing⟩

def tallyEntry : Entry (Instr τ) (Call τ) (Note τ) → List Nat
  | .todo (.work (.passNext ran)) => [ran]
  | _ => []

/-- What a pass has counted so far. -/
def tally (agenda : Agenda τ) : List Nat := agenda.flatMap tallyEntry

@[simp] lemma tally_cons (x : Entry (Instr τ) (Call τ) (Note τ)) (agenda : Agenda τ) :
    tally (x :: agenda) = tallyEntry x ++ tally agenda := rfl

@[simp] lemma tally_append (agenda agenda' : Agenda τ) :
    tally (agenda ++ agenda') = tally agenda ++ tally agenda' := List.flatMap_append

lemma tally_eq_nil (none_goes : going agenda = []) : tally agenda = [] := by
  rw [going, List.flatMap_eq_nil_iff] at none_goes
  rw [tally, List.flatMap_eq_nil_iff]
  intro x hx
  unfold tallyEntry
  split
  · exact absurd (none_goes _ hx) (List.cons_ne_nil _ _)
  · rfl

lemma tally_invoke (asked : isGoing i = false) (m : Live τ) :
    tally (m.invoke [i]).agenda = tally m.agenda := by
  cases i with
  | passNext ran | pollNext w => cases asked
  | _ => rfl

/-- A pass counts the tasks that it took out. -/
def Tallied (h : Past τ) (m : Live τ) : Prop :=
  m.state.runner = .passing →
    ∃ during, IsPass h during ∧ tally m.agenda = [(begun during).length + (due m.agenda).length]

/-- What neither begins a pass nor takes out a task leaves the count as it is. -/
lemma Tallied.plain {b : Live τ × Deed τ} (tallied : Tallied h b.1)
    (runner : m'.state.runner = .passing → b.1.state.runner = .passing)
    (same_tally : tally m'.agenda = tally b.1.agenda)
    (same_due : begins b.2 ++ due m'.agenda = due b.1.agenda) : Tallied (h ++ [b]) m' := by
  intro passing
  obtain ⟨during, pass, tally_eq⟩ := tallied (runner passing)
  refine ⟨_, pass.snoc (runner passing), ?_⟩
  rw [same_tally, tally_eq, ← same_due, begun_snoc, List.length_append, List.length_append,
    Nat.add_assoc]

lemma Tallied.notes (tallied : Tallied h ⟨l, .todo (.work i) :: rest⟩)
    (notes : ∀ x ∈ out, ∃ n, x = .note n) (asked : isGoing i = false)
    (runner : l'.runner = .passing → l.runner = .passing) :
    Tallied (h ++ [(⟨l, .todo (.work i) :: rest⟩, .own (.work i))])
      ⟨l', out.map .todo ++ rest⟩ := by
  have none_goes : going (out.map Entry.todo) = [] := by
    rw [going, List.flatMap_map, List.flatMap_eq_nil_iff]
    intro x hx
    obtain ⟨n, rfl⟩ := notes x hx
    rfl
  apply tallied.plain runner
  · rw [tally_append, tally_cons, tally_eq_nil none_goes]
    cases i with
    | passNext ran | pollNext w => cases asked
    | _ => rfl
  · simp [begins, dueEntry, due_eq_nil (plain_notes notes)]

lemma Tallied.work (tallied : Tallied h ⟨l, .todo (.work i) :: rest⟩)
    (driven : Driven h ⟨l, .todo (.work i) :: rest⟩) :
    Tallied (h ++ [(⟨l, .todo (.work i) :: rest⟩, .own (.work i))])
      ⟨(exec i l).1, (exec i l).2.map .todo ++ rest⟩ := by
  have goes : goingEntry (.todo (.work i)) ++ going rest = underway l.runner := driven.goes
  have effect := exec_effect i l
  generalize (exec i l).1 = l' at *
  generalize (exec i l).2 = out at *
  cases effect with
  | @passes _ t ready =>
    intro _
    have none_below : going rest = [] := by simpa [goingEntry, ready, underway] using goes
    refine ⟨[], ⟨h, _, t, rfl, ready, by simp⟩, ?_⟩
    simp [tallyEntry, dueEntry, tally_eq_nil none_below, begun,
      due_eq_nil (driven.idle_below none_below)]
  | @runs _ ran task rest' pending =>
    intro passing
    obtain ⟨during, pass, tally_eq⟩ := tallied passing
    have none_due : due rest = [] := due_eq_nil (driven.at_going rfl).2
    obtain ⟨-, none_below⟩ := passing_of_underway goes
    simp only [tally_cons, due_cons, tallyEntry, dueEntry, none_due, tally_eq_nil none_below,
      List.append_nil, List.length_nil, Nat.add_zero, List.cons.injEq, and_true] at tally_eq
    refine ⟨_, pass.snoc passing, ?_⟩
    simp [tallyEntry, dueEntry, begins, none_due, tally_eq_nil none_below, tally_eq]
  | ends empty | serves ready | polls serving | discards idle | stops empty | waits empty =>
    intro passing
    cases passing
  | runsPolled pending =>
    intro passing
    have passing : l.runner = .passing := passing
    obtain ⟨polling, -⟩ := polling_of_underway goes
    rw [passing] at polling
    cases polling
  | posts live | dropsLast last | dropsAll => exact tallied.notes (notes_woken l) rfl id
  | refuses gone => exact tallied.notes (by simp) rfl id
  | adds | drops more | busy busy | unserved unserved => exact tallied.notes (by simp) rfl id
  | unready asked unready =>
    rcases asked with ⟨t, rfl⟩ | rfl <;> exact tallied.notes (by simp) rfl id

theorem tallied_of_runs (run : Runs owner h m) : Tallied h m := by
  induction run with
  | start => exact nofun
  | step run move ih =>
    cases move using Machine.Move.elim with
    | work l i rest => exact ih.work (driven_of_runs run)
    | call l c rest =>
      cases c with
      | run task => exact ih.plain id rfl rfl
    | note l e rest => exact ih.plain id rfl rfl
    | invoke m is asked =>
      cases asked with
      | ask i asked =>
        exact Tallied.plain ih id (tally_invoke asked _) rfl
    | reply l c rest f =>
      cases c with
      | run task => exact ih.plain id rfl rfl

/-! ## Handles -/

lemma exec_handles (i : Instr τ) (l : TaskLoop τ) :
    (exec i l).1.handles = counts (.own (.work i)) l.handles := by
  have effect := exec_effect i l
  generalize (exec i l).1 = l' at *
  generalize (exec i l).2 = out at *
  cases effect with
  | dropsLast last => exact last.symm
  | unready asked unready => rcases asked with ⟨t, rfl⟩ | rfl <;> rfl
  | _ => rfl

lemma handles_of_runs (run : Runs owner h m) : m.state.handles = handlesLeft h := by
  induction run with
  | start => rfl
  | step _ move ih =>
    rw [handlesLeft_snoc, ← ih]
    cases move using Machine.Move.elim with
    | work l i rest => exact exec_handles i l
    | _ => rfl

/-! ## Where a pass and a poll find nothing left -/

lemma mem_noted {n : Note τ} :
    n ∈ noted (⟨l, agenda⟩, .own (.work i)) ↔ .note n ∈ (exec i l).2 := by
  rw [noted, List.mem_filterMap]
  constructor
  · rintro ⟨x, hx, same⟩
    split at same
    · cases same
      exact hx
    · cases same
  · exact fun left => ⟨_, left, rfl⟩

lemma head_of_move {b : Live τ × Deed τ} {t : Todo (Instr τ) (Call τ) (Note τ)}
    (move : Machine.Move component (fun _ => Request) b.1 b.2 m')
    (own : b.2 = .own t) : ∃ rest, b.1 = ⟨b.1.state, .todo t :: rest⟩ := by
  rcases b with ⟨⟨l, agenda⟩, a⟩
  change a = _ at own
  subst own
  obtain ⟨possible, -⟩ := Machine.move_iff.mp move
  obtain ⟨rest, rfl⟩ := List.head?_eq_some_iff.mp possible
  exact ⟨rest, rfl⟩

/-- Where something is told, the work that tells it comes next. -/
lemma work_of_noted {before after : Past τ} {b : Live τ × Deed τ} {n : Note τ}
    (run : Runs owner (before ++ b :: after) m) (tells : n ∈ noted b) :
    ∃ i rest, Runs owner before ⟨b.1.state, .todo (.work i) :: rest⟩ ∧
      .note n ∈ (exec i b.1.state).2 := by
  obtain ⟨earlier, m₁, move, -⟩ := run.split
  rcases b with ⟨⟨l, agenda⟩, (i | c | e) | is | ⟨c, r⟩⟩
  · obtain ⟨rest, head⟩ := head_of_move move rfl
    rw [head] at earlier
    exact ⟨i, rest, earlier, mem_noted.mp tells⟩
  all_goals cases tells

lemma passNext_of_passed {ran : Nat} (passed : .note (.passed ran) ∈ (exec i l).2) :
    i = .passNext ran ∧ l.pending = [] := by
  have effect := exec_effect i l
  generalize (exec i l).1 = l' at *
  generalize (exec i l).2 = out at *
  cases effect with
  | ends empty =>
    obtain rfl : ran = _ := by simpa [report] using passed
    exact ⟨rfl, empty⟩
  | posts live | dropsLast last | dropsAll => simp [woken] at passed
  | _ => simp at passed

lemma pollNext_of_polled {w : Waker} {done : Bool}
    (polled : .note (.polled w done) ∈ (exec i l).2) :
    i = .pollNext w ∧ l.pending = [] ∧ (done = true ↔ l.handles = 0) := by
  have effect := exec_effect i l
  generalize (exec i l).1 = l' at *
  generalize (exec i l).2 = out at *
  cases effect with
  | stops empty none_left =>
    obtain ⟨rfl, rfl⟩ : w = _ ∧ done = true := by simpa using polled
    exact ⟨rfl, empty, by simp [none_left]⟩
  | waits empty some_left =>
    obtain ⟨rfl, rfl⟩ : w = _ ∧ done = false := by simpa using polled
    exact ⟨rfl, empty, by simp [some_left]⟩
  | ends empty => simp [report] at polled
  | posts live | dropsLast last | dropsAll => simp [woken] at polled
  | _ => simp at polled

/-- Where the runner finds nothing left, all that was posted has been run. -/
lemma finished_of_empty (run : Runs owner h ⟨l, .todo (.work i) :: rest⟩)
    (goes_on : isGoing i = true) (empty : l.pending = []) :
    begun h = posted h ∧ finished h = posted h := by
  have driven := driven_of_runs run
  have idle := (driven.at_going goes_on).2
  have kept := kept_of_runs run
  have posted_eq : posted h = begun h ++ (due rest ++ (lost h ++ l.pending)) := kept.posted_eq
  have begun_eq : begun h = finished h ++ held rest := kept.begun_eq
  rw [due_eq_nil idle, kept.none_lost (driven.live_at_going goes_on), empty] at posted_eq
  rw [held_eq_nil idle, List.append_nil] at begun_eq
  simp only [List.append_nil] at posted_eq
  exact ⟨posted_eq.symm, begun_eq.symm.trans posted_eq.symm⟩

/-- A pass has counted the tasks that it ran. -/
lemma counted_of_going {ran : Nat}
    (run : Runs owner h ⟨l, .todo (.work (.passNext ran)) :: rest⟩) :
    ∃ during, IsPass h during ∧ (begun during).length = ran := by
  have driven := driven_of_runs run
  obtain ⟨passing, none_below⟩ := passing_of_underway driven.goes
  obtain ⟨during, pass, tally_eq⟩ := tallied_of_runs run passing
  refine ⟨during, pass, ?_⟩
  have none_due := due_eq_nil (driven.at_going rfl).2
  simpa [tallyEntry, dueEntry, tally_eq_nil none_below, none_due] using tally_eq.symm

/-! ## Where a pass and a poll return -/

def isReturn : Note τ → Bool
  | .passed _ | .polled _ _ => true
  | _ => false

/-- A runner found nothing left to do and put it on the agenda, above `rest`, to tell `n`; and
whatever was done since, was done above `rest`. -/
def Looked (n : Note τ) (rest : Agenda τ) (h : Past τ) : Prop :=
  ∃ before b after, h = before ++ b :: after ∧ n ∈ noted b ∧ b.1.agenda.tail = rest ∧
    ∀ c ∈ after, rest.length < c.1.agenda.length

/-- Before it is told that a pass or a poll is over, it has come to its end. -/
def Concluded (h : Past τ) (m : Live τ) : Prop :=
  ∀ n rest, isReturn n = true → .todo (.note n) :: rest <:+ m.agenda → Looked n rest h

section Concluded

variable {n : Note τ} {a : Deed τ}

lemma Concluded.snoc (concluded : Concluded h m) (returns : isReturn n = true)
    (on_agenda : .todo (.note n) :: rest <:+ m.agenda) : Looked n rest (h ++ [(m, a)]) := by
  obtain ⟨before, b, after, rfl, tells, below, since⟩ := concluded n rest returns on_agenda
  refine ⟨before, b, after ++ [(m, a)], by simp, tells, below, ?_⟩
  rw [List.forall_mem_append, List.forall_mem_singleton]
  exact ⟨since, on_agenda.length_le⟩

lemma suffix_append_cases {α : Type} {x : α} {xs ys zs : List α} (suffix : x :: xs <:+ ys ++ zs) :
    x :: xs <:+ zs ∨ ∃ below, x :: below <:+ ys ∧ xs = below ++ zs := by
  induction ys with
  | nil => exact .inl suffix
  | cons y ys ih =>
    rw [List.cons_append, List.suffix_cons_iff] at suffix
    rcases suffix with same | suffix
    · obtain ⟨rfl, rfl⟩ := List.cons.inj same
      exact .inr ⟨ys, List.suffix_rfl, rfl⟩
    · refine (ih suffix).imp_right ?_
      rintro ⟨below, above, rfl⟩
      exact ⟨below, above.trans (List.suffix_cons y ys), rfl⟩

/-- A runner that has come to its end says so at last. -/
lemma return_last {below : List (Todo (Instr τ) (Call τ) (Note τ))} (returns : isReturn n = true)
    (left : .note n :: below <:+ (exec i l).2) : below = [] := by
  have effect := exec_effect i l
  generalize (exec i l).1 = l' at *
  generalize (exec i l).2 = out at *
  cases effect with
  | posts live | dropsLast last | dropsAll =>
    have told := left.mem List.mem_cons_self
    obtain ⟨w, -, rfl⟩ : ∃ w, l.waker = some w ∧ .woken w = n := by simpa [woken] using told
    cases returns
  | discards idle =>
    have told := left.mem List.mem_cons_self
    obtain ⟨task, -, rfl⟩ : ∃ task ∈ l.pending, .lost task = n := by simpa using told
    cases returns
  | ends empty =>
    unfold report at left
    split at left
    · exact And.right (by simpa [List.suffix_cons_iff] using left)
    · obtain ⟨rfl, -⟩ | ⟨-, none_below⟩ := by simpa [List.suffix_cons_iff] using left
      · cases returns
      · exact none_below
  | refuses gone | stops empty none_left =>
    obtain ⟨rfl, -⟩ | ⟨-, none_below⟩ := by simpa [List.suffix_cons_iff] using left
    · cases returns
    · exact none_below
  | waits empty some_left =>
    exact And.right (by simpa [List.suffix_cons_iff] using left)
  | _ => simp [List.suffix_cons_iff] at left

lemma concluded_work {tail : Agenda τ} (concluded : Concluded h ⟨l, .todo (.work i) :: tail⟩) :
    Concluded (h ++ [(⟨l, .todo (.work i) :: tail⟩, .own (.work i))])
      ⟨(exec i l).1, (exec i l).2.map .todo ++ tail⟩ := by
  intro n rest returns on_agenda
  rcases suffix_append_cases on_agenda with above | ⟨below, left, rfl⟩
  · exact concluded.snoc returns (above.trans (List.suffix_cons _ _))
  · obtain ⟨todos, left, same⟩ := List.suffix_map_iff.mp left
    rcases todos with _ | ⟨t, todos⟩
    · cases same
    · obtain ⟨head, rfl⟩ := List.cons.inj same
      obtain rfl := Entry.todo.inj head
      obtain rfl := return_last returns left
      have tells : n ∈ noted (⟨l, .todo (.work i) :: tail⟩, .own (.work i)) :=
        mem_noted.mpr (left.mem List.mem_cons_self)
      exact ⟨h, _, [], rfl, tells, rfl, List.forall_mem_nil _⟩

theorem concluded_of_runs (run : Runs owner h m) : Concluded h m := by
  induction run with
  | start =>
    intro n rest returns on_agenda
    cases List.suffix_nil.mp on_agenda
  | step run move ih =>
    cases move using Machine.Move.elim with
    | work l i tail => exact concluded_work ih
    | call l c tail =>
      intro n rest returns on_agenda
      rcases List.suffix_cons_iff.mp on_agenda with same | above
      · cases same
      · exact ih.snoc returns (above.trans (List.suffix_cons _ _))
    | note l e tail =>
      exact fun n rest returns on_agenda =>
        ih.snoc returns (on_agenda.trans (List.suffix_cons _ _))
    | invoke m is asked =>
      intro n rest returns on_agenda
      cases asked with
      | ask i asked =>
        rcases List.suffix_cons_iff.mp on_agenda with same | above
        · cases same
        · exact ih.snoc returns above
    | reply l c tail f =>
      cases c with
      | run task =>
        exact fun n rest returns on_agenda =>
          ih.snoc returns (on_agenda.trans (List.suffix_cons _ _))

end Concluded

/-! ## The end of the runner -/

/-- The runner is dropped, by itself or with its future, or the future comes to its end. -/
def endsRunner : Live τ × Deed τ → Bool
  | (m, .own (.work .dropRunner)) => m.state.isIdle
  | (m, .own (.work (.pollNext _))) => m.state.pending.isEmpty && m.state.handles == 0
  | _ => false

lemma gone_of_endsRunner {b : Live τ × Deed τ}
    (move : Machine.Move component (fun _ => Request) b.1 b.2 m') (ends : endsRunner b = true) :
    m'.state.isLive = false := by
  rcases b with ⟨m, a⟩
  unfold endsRunner at ends
  split at ends
  · rename_i m same
    cases same
    obtain ⟨rest, head⟩ := head_of_move move rfl
    obtain ⟨-, rfl⟩ := Machine.move_iff.mp move
    rw [head]
    change (exec .dropRunner m.state).1.isLive = false
    simp only [exec, if_pos ends, isLive]
  · rename_i m w same
    cases same
    obtain ⟨rest, head⟩ := head_of_move move rfl
    obtain ⟨-, rfl⟩ := Machine.move_iff.mp move
    rw [head]
    change (exec (.pollNext w) m.state).1.isLive = false
    simp only [Bool.and_eq_true, List.isEmpty_iff, beq_iff_eq] at ends
    simp only [exec, ends.1, ends.2, if_true, isLive]
  · cases ends

/-- Without a runner no task is run, and there is none ever after. -/
lemma gone_step {a : Deed τ} (run : Runs owner h m) (gone : m.state.isLive = false)
    (move : Machine.Move component (fun _ => Request) m a m') :
    begins a = [] ∧ m'.state.isLive = false := by
  have driven := driven_of_runs run
  cases move using Machine.Move.elim with
  | work l i rest =>
    refine ⟨rfl, ?_⟩
    change (exec i l).1.isLive = false
    have effect := exec_queueing i l
    generalize (exec i l).1 = l' at *
    generalize (exec i l).2 = out at *
    have gone : l.isLive = false := gone
    cases effect with
    | joins live pending runner plain => exact (isLive_congr runner).trans gone
    | takes goes_on pending runner => exact (isLive_congr runner).trans gone
    | loses idle pending runner plain => simp [isLive, runner]
    | keeps pending unposted undropped live plain =>
      rcases live with same | ⟨-, goes_on⟩
      · exact same.trans gone
      · rw [driven.live_at_going goes_on] at gone
        cases gone
  | call l c rest =>
    cases c with
    | run task =>
      have is_underway := driven.followed.1 rfl
      have goes : going rest = underway l.runner := driven.goes
      rw [goes] at is_underway
      exfalso
      apply is_underway
      change l.isLive = false at gone
      unfold isLive at gone
      split at gone
      · simp [underway, *]
      · simp [underway, *]
      · cases gone
  | note l e rest | invoke m is asked | reply l c rest f => exact ⟨rfl, gone⟩

lemma gone_run (before : Runs owner h m) (gone : m.state.isLive = false)
    (more : Machine.Run component (fun _ => Request) m h' m') :
    begun h' = [] ∧ m'.state.isLive = false := by
  induction more with
  | start => exact ⟨rfl, gone⟩
  | step run move ih =>
    obtain ⟨none_begun, still_gone⟩ := ih
    obtain ⟨none_now, gone_now⟩ := gone_step (before.append run) still_gone move
    rw [begun_snoc, none_begun, none_now]
    exact ⟨rfl, gone_now⟩

/-! ## What a run keeps -/

/-- The tasks of a loop are run in order and one at a time, and none is forgotten. -/
structure KeepsOrder (h : Past τ) (m : Live τ) : Prop where
  /-- Of the tasks that were posted, the first ones were run or are run next, in this order, each of
  them once. The others wait, unless they were lost with the runner. -/
  in_order : posted h = begun h ++ (due m.agenda ++ (lost h ++ m.state.pending))
  one_by_one : begun h = finished h ++ held m.agenda ∧ m.agenda.countP isExecuting ≤ 1
  while_driven : m.agenda.any isExecuting = true →
    m.state.runner = .passing ∨ m.state.runner = .polling
  /-- Where a pass finds nothing left to do, all that was posted before has been run. It tells the
  number of tasks that it ran. -/
  passed : ∀ before b after ran, h = before ++ b :: after → .passed ran ∈ noted b →
    finished before = posted before ∧
      ∃ during, IsPass before during ∧ (begun during).length = ran
  /-- So it is where a poll finds nothing left to do. The future ends just if no handle is left. -/
  polled : ∀ before b after w done, h = before ++ b :: after → .polled w done ∈ noted b →
    finished before = posted before ∧ (done = true ↔ handlesLeft before = 0)
  /-- Where a pass or a poll returns, it has found nothing left to do some time before: `passed` and
  `polled` speak of that time. -/
  returned : ∀ before b after n, h = before ++ b :: after → b.2 = .own (.note n) →
    isReturn n = true → Looked n b.1.agenda.tail before
  /-- What waits when the runner is gone, or is posted later, is never run. -/
  none_after : ∀ before b after, h = before ++ b :: after → endsRunner b = true → begun after = []
  /-- From one and the same state on, a pass and a poll run the same tasks in the same order, and
  end at the same point. -/
  alike : m.state.runner = .ready → ∀ t w sights,
    Drives (passedBy t m) sights ↔ Drives (polledBy t w m) sights

/-- Whoever posts tasks, holds handles and drives the runner, and whatever the tasks do. -/
theorem keepsOrder_of_runs (run : Runs owner h m) : KeepsOrder h m := by
  have kept := kept_of_runs run
  have driven := driven_of_runs run
  refine ⟨kept.posted_eq, ⟨kept.begun_eq, kept.one_at_a_time⟩, ?_, ?_, ?_, ?_, ?_, ?_⟩
  · intro executing
    have is_underway := going_ne_nil driven.followed executing
    rw [driven.goes] at is_underway
    cases runner : m.state.runner with
    | passing => exact .inl rfl
    | polling => exact .inr rfl
    | _ =>
      rw [runner] at is_underway
      exact absurd rfl is_underway
  · rintro before b after ran rfl passed
    obtain ⟨i, rest, earlier, left⟩ := work_of_noted run passed
    obtain ⟨rfl, empty⟩ := passNext_of_passed left
    exact ⟨(finished_of_empty earlier rfl empty).2, counted_of_going earlier⟩
  · rintro before b after w done rfl polled
    obtain ⟨i, rest, earlier, left⟩ := work_of_noted run polled
    obtain ⟨rfl, empty, done_iff⟩ := pollNext_of_polled left
    refine ⟨(finished_of_empty earlier rfl empty).2, ?_⟩
    rw [done_iff, ← handles_of_runs earlier]
  · rintro before b after n rfl notes returns
    obtain ⟨earlier, m₁, move, -⟩ := run.split
    obtain ⟨rest, head⟩ := head_of_move move notes
    rw [head] at earlier ⊢
    exact concluded_of_runs earlier n rest returns List.suffix_rfl
  · rintro before b after rfl ends
    obtain ⟨earlier, m₁, move, later⟩ := run.split
    exact (gone_run (earlier.step move) (gone_of_endsRunner move ends) later).1
  · intro ready t w sights
    apply drives_alike ready
    rw [driven.goes, ready]
    rfl

/-- A task posts another one in a pass. Two more are posted afterwards. -/
def passedOver : Past Nat × Live Nat :=
  Machine.drive component 40
    [.ask [.post 1], .ask [.pass 7], .ask [.post 2], .reply (fun _ => ()), .reply (fun _ => ()),
      .ask [.post 3], .ask [.post 4]]
    (.idle (fresh 0))

/-- A task that a future runs drops the last handle, and the future comes to its end. -/
def servedToTheEnd : Past Nat × Live Nat :=
  Machine.drive component 40
    [.ask [.post 1], .ask [.serve], .ask [.poll 8 5], .ask [.post 2], .ask [.addHandle],
      .ask [.dropHandle], .reply (fun _ => ()), .ask [.dropHandle], .reply (fun _ => ()),
      .ask [.post 3]]
    (.idle (fresh 0))

/-- A future is dropped while a task waits. -/
def droppedWaiting : Past Nat × Live Nat :=
  Machine.drive component 40
    [.ask [.post 1], .ask [.serve], .ask [.dropRunner], .ask [.post 2], .ask [.poll 8 5]]
    (.idle (fresh 0))

theorem keepsOrder_drivenInBothWays :
    (Runs 0 passedOver.1 passedOver.2 ∧ KeepsOrder passedOver.1 passedOver.2 ∧
      finished passedOver.1 = [1, 2] ∧ passedOver.2.state.pending = [3, 4] ∧
      passedOver.2.state.runner = .ready) ∧
    (Runs 0 servedToTheEnd.1 servedToTheEnd.2 ∧
      KeepsOrder servedToTheEnd.1 servedToTheEnd.2 ∧ finished servedToTheEnd.1 = [1, 2] ∧
      handlesLeft servedToTheEnd.1 = 0 ∧ servedToTheEnd.2.state.runner = .stopped) ∧
    (Runs 0 droppedWaiting.1 droppedWaiting.2 ∧
      KeepsOrder droppedWaiting.1 droppedWaiting.2 ∧ posted droppedWaiting.1 = [1] ∧
      begun droppedWaiting.1 = [] ∧ lost droppedWaiting.1 = [1]) := by
  have passed : Runs 0 passedOver.1 passedOver.2 :=
    Machine.drive_run (fun _ _ _ => request_of_isRequest) _ _ _ rfl
  have served : Runs 0 servedToTheEnd.1 servedToTheEnd.2 :=
    Machine.drive_run (fun _ _ _ => request_of_isRequest) _ _ _ rfl
  have dropped : Runs 0 droppedWaiting.1 droppedWaiting.2 :=
    Machine.drive_run (fun _ _ _ => request_of_isRequest) _ _ _ rfl
  exact ⟨⟨passed, keepsOrder_of_runs passed, rfl, rfl, rfl⟩,
    ⟨served, keepsOrder_of_runs served, rfl, rfl, rfl⟩,
    ⟨dropped, keepsOrder_of_runs dropped, rfl, rfl, rfl⟩⟩

/-! ## Between the end and the return -/

/-- Where a pass or a poll returns, all that was posted has been run. -/
def FinishedAtReturn (h : Past τ) : Prop :=
  ∀ before b after n, h = before ++ b :: after → b.2 = .own (.note n) → isReturn n = true →
    finished before = posted before

/-- Another thread posts a task where a run has come to, and then the run goes on. -/
def interrupted (run : Past Nat × Live Nat) : Past Nat × Live Nat :=
  let later := Machine.drive component 4 [] (run.2.invoke [.post 5])
  (run.1 ++ (run.2, .invoke [.post 5]) :: later.1, later.2)

lemma interrupted_runs {run : Past Nat × Live Nat} (runs : Runs 0 run.1 run.2)
    (quiet : (Machine.drive component 4 [] (run.2.invoke [.post 5])).1.all
      (fun b => b.2.asked?.all isRequest) = true) :
    Runs 0 (interrupted run).1 (interrupted run).2 :=
  runs.append (.cons (.invoke (.ask _ rfl))
    (Machine.drive_run (fun _ _ _ => request_of_isRequest) _ _ _ quiet))

/-- A pass has found nothing to do. -/
def passEmpty : Past Nat × Live Nat :=
  Machine.drive component 3 [.ask [.pass 7]] (.idle (fresh 0))

/-- A poll has found nothing to do. -/
def pollEmpty : Past Nat × Live Nat :=
  Machine.drive component 5 [.ask [.serve], .ask [.poll 8 5]] (.idle (fresh 0))

/-- What another thread posts after the last look for a task waits when the pass or the poll
returns. -/
theorem not_finishedAtReturn :
    (Runs 0 (interrupted passEmpty).1 (interrupted passEmpty).2 ∧
      ¬ FinishedAtReturn (interrupted passEmpty).1) ∧
    (Runs 0 (interrupted pollEmpty).1 (interrupted pollEmpty).2 ∧
      ¬ FinishedAtReturn (interrupted pollEmpty).1) := by
  refine ⟨⟨interrupted_runs ?_ rfl, fun all => ?_⟩, ⟨interrupted_runs ?_ rfl, fun all => ?_⟩⟩
  · exact Machine.drive_run (fun _ _ _ => request_of_isRequest) _ _ _ rfl
  · have claimed := all (interrupted passEmpty).1.dropLast _ [] (.passed 0) rfl rfl rfl
    cases claimed
  · exact Machine.drive_run (fun _ _ _ => request_of_isRequest) _ _ _ rfl
  · have claimed := all (interrupted pollEmpty).1.dropLast _ [] (.polled 5 false) rfl rfl rfl
    cases claimed

end StreamControl.TaskLoop
