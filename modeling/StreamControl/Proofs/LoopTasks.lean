import StreamControl.Proofs.LoopDrive

/-!
# The tasks of a loop

Every task that is posted while there is a runner is run once, in posting order, or waits, or is
lost with the runner. One task is run at a time.
-/

namespace StreamControl.TaskLoop

variable {τ : Type} {owner : Thread} {h h' : Past τ} {m m' : Live τ} {rest agenda : Agenda τ}
  {l l' : TaskLoop τ} {i : Instr τ} {out : List (Todo (Instr τ) (Call τ) (Note τ))}

/-! ## What a history shows of tasks and handles -/

/-- The task that an act posts, if there is a runner for it. -/
def posts : Live τ × Deed τ → List τ
  | (m, .own (.work (.post task))) => if m.state.isLive then [task] else []
  | _ => []

def begins : Deed τ → List τ
  | .own (.call (.run task)) => [task]
  | _ => []

def finishes : Deed τ → List τ
  | .answer (.run task) _ => [task]
  | _ => []

/-- The tasks that are dropped with the runner. -/
def loses : Live τ × Deed τ → List τ
  | (m, .own (.work .dropRunner)) => if m.state.isIdle then m.state.pending else []
  | _ => []

def posted (h : Past τ) : List τ := h.flatMap posts

def begun (h : Past τ) : List τ := h.flatMap fun b => begins b.2

def finished (h : Past τ) : List τ := h.flatMap fun b => finishes b.2

def lost (h : Past τ) : List τ := h.flatMap loses

/-- How many handles an act leaves. -/
def counts : Deed τ → Nat → Nat
  | .own (.work .addHandle), n => n + 1
  | .own (.work .dropHandle), n => n - 1
  | .own (.work .dropHandles), _ => 0
  | _, n => n

/-- How many handles are left; a loop is made with one. -/
def handlesLeft (h : Past τ) : Nat := h.foldl (fun n b => counts b.2 n) 1

/-- What a loop lets be known at an act. -/
def noted : Live τ × Deed τ → List (Note τ)
  | (m, .own (.work i)) => (exec i m.state).2.filterMap fun
    | .note n => some n
    | _ => none
  | _ => []

/-! ## What an agenda shows of tasks -/

def dueEntry : Entry (Instr τ) (Call τ) (Note τ) → List τ
  | .todo (.call (.run task)) => [task]
  | _ => []

def heldEntry : Entry (Instr τ) (Call τ) (Note τ) → List τ
  | .held (.run task) => [task]
  | _ => []

/-- The tasks that were taken out and are run next. -/
def due (agenda : Agenda τ) : List τ := agenda.flatMap dueEntry

/-- The tasks that are being run. -/
def held (agenda : Agenda τ) : List τ := agenda.flatMap heldEntry

section Views

variable (b : Live τ × Deed τ) (x : Entry (Instr τ) (Call τ) (Note τ)) (agenda agenda' : Agenda τ)

@[simp] lemma posted_snoc : posted (h ++ [b]) = posted h ++ posts b := by simp [posted]

@[simp] lemma begun_snoc : begun (h ++ [b]) = begun h ++ begins b.2 := by simp [begun]

@[simp] lemma finished_snoc : finished (h ++ [b]) = finished h ++ finishes b.2 := by
  simp [finished]

@[simp] lemma lost_snoc : lost (h ++ [b]) = lost h ++ loses b := by simp [lost]

@[simp] lemma handlesLeft_snoc : handlesLeft (h ++ [b]) = counts b.2 (handlesLeft h) := by
  simp [handlesLeft]

@[simp] lemma due_cons : due (x :: agenda) = dueEntry x ++ due agenda := rfl

@[simp] lemma due_append : due (agenda ++ agenda') = due agenda ++ due agenda' :=
  List.flatMap_append

@[simp] lemma held_cons : held (x :: agenda) = heldEntry x ++ held agenda := rfl

@[simp] lemma held_append : held (agenda ++ agenda') = held agenda ++ held agenda' :=
  List.flatMap_append

end Views

/-- Where no task is run, nothing is seen of one. -/
lemma flatMap_eq_nil_of_idle {β : Type} {f : Entry (Instr τ) (Call τ) (Note τ) → List β}
    (plain : ∀ x, isExecuting x = false → f x = []) (idle : agenda.any isExecuting = false) :
    agenda.flatMap f = [] := by
  rw [List.any_eq_false] at idle
  rw [List.flatMap_eq_nil_iff]
  exact fun x hx => plain x (Bool.eq_false_iff.mpr (idle x hx))

lemma due_eq_nil (idle : agenda.any isExecuting = false) : due agenda = [] :=
  flatMap_eq_nil_of_idle (fun x plain => by unfold dueEntry; split <;> trivial) idle

lemma held_eq_nil (idle : agenda.any isExecuting = false) : held agenda = [] :=
  flatMap_eq_nil_of_idle (fun x plain => by unfold heldEntry; split <;> trivial) idle

/-! ## What an instruction does to the tasks of a loop -/

/-- A runner that took out a task goes on after it. -/
def next : Instr τ → Instr τ
  | .passNext ran => .passNext (ran + 1)
  | i => i

/-- An instruction lets a task join, takes one out to be run, loses all with the runner, or leaves
the tasks as they are. -/
inductive Queueing (l l' : TaskLoop τ) :
    Instr τ → List (Todo (Instr τ) (Call τ) (Note τ)) → Prop
  | joins {task : τ} {out : List (Todo (Instr τ) (Call τ) (Note τ))} (live : l.isLive = true)
      (pending : l'.pending = l.pending ++ [task]) (runner : l'.runner = l.runner)
      (plain : (out.map .todo).any isExecuting = false) : Queueing l l' (.post task) out
  | takes {i : Instr τ} {task : τ} (going : isGoing i = true)
      (pending : l.pending = task :: l'.pending) (runner : l'.runner = l.runner) :
    Queueing l l' i [.call (.run task), .work (next i)]
  | loses {out : List (Todo (Instr τ) (Call τ) (Note τ))} (idle : l.isIdle = true)
      (pending : l'.pending = []) (runner : l'.runner = .dropped)
      (plain : (out.map .todo).any isExecuting = false) : Queueing l l' .dropRunner out
  | keeps {i : Instr τ} {out : List (Todo (Instr τ) (Call τ) (Note τ))}
      (pending : l'.pending = l.pending) (unposted : ∀ task, i = .post task → l.isLive = false)
      (undropped : i = .dropRunner → l.isIdle = false)
      (live : l'.isLive = l.isLive ∨ l.pending = [] ∧ isGoing i = true)
      (plain : (out.map .todo).any isExecuting = false) : Queueing l l' i out

lemma plain_notes (notes : ∀ x ∈ out, ∃ n, x = .note n) :
    (out.map Entry.todo).any isExecuting = false := by
  rw [List.any_eq_false, List.forall_mem_map]
  intro x hx
  obtain ⟨n, rfl⟩ := notes x hx
  exact Bool.false_ne_true

lemma exec_queueing (i : Instr τ) (l : TaskLoop τ) :
    Queueing l (exec i l).1 i (exec i l).2 := by
  have effect := exec_effect i l
  generalize (exec i l).1 = l' at *
  generalize (exec i l).2 = out at *
  cases effect with
  | posts live => exact .joins live rfl rfl (plain_notes (notes_woken l))
  | runs pending | runsPolled pending => exact .takes rfl pending rfl
  | discards idle => exact .loses idle rfl rfl (plain_notes (by simp))
  | refuses gone =>
    exact .keeps rfl (fun _ _ => gone) (by simp) (.inl rfl) rfl
  | ends empty =>
    exact .keeps rfl (by simp) (by simp) (.inr ⟨empty, rfl⟩) (plain_notes (notes_report _))
  | stops empty | waits empty => exact .keeps rfl (by simp) (by simp) (.inr ⟨empty, rfl⟩) rfl
  | passes ready | serves ready =>
    exact .keeps rfl (by simp) (by simp) (.inl (by simp [isLive, ready])) rfl
  | polls serving => exact .keeps rfl (by simp) (by simp) (.inl (by simp [isLive, serving])) rfl
  | dropsLast | dropsAll =>
    exact .keeps rfl (by simp) (by simp) (.inl rfl) (plain_notes (notes_woken l))
  | busy busy => exact .keeps rfl (by simp) (fun _ => busy) (.inl rfl) rfl
  | unready asked unready =>
    rcases asked with ⟨t, rfl⟩ | rfl <;> exact .keeps rfl (by simp) (by simp) (.inl rfl) rfl
  | adds | drops | unserved => exact .keeps rfl (by simp) (by simp) (.inl rfl) rfl

/-! ## Tasks are kept in order -/

/-- What became of the tasks that were posted, and that one of them is run at a time. -/
structure Kept (h : Past τ) (m : Live τ) : Prop where
  posted_eq : posted h = begun h ++ (due m.agenda ++ (lost h ++ m.state.pending))
  begun_eq : begun h = finished h ++ held m.agenda
  one_at_a_time : m.agenda.countP isExecuting ≤ 1
  none_lost : m.state.isLive = true → lost h = []
  none_left : m.state.isLive = false → m.state.pending = []

lemma isLive_congr (same : l'.runner = l.runner) : l'.isLive = l.isLive := by
  simp only [isLive, same]

lemma Driven.idle_below (driven : Driven h ⟨l, .todo (.work i) :: rest⟩)
    (none_below : going rest = []) : rest.any isExecuting = false := by
  by_contra executing
  rw [Bool.not_eq_false] at executing
  exact going_ne_nil driven.followed.2 executing none_below

/-- Where the runner goes on, it is driven, and no task is run. -/
lemma Driven.at_going (driven : Driven h ⟨l, .todo (.work i) :: rest⟩)
    (goes_on : isGoing i = true) :
    (l.runner = .passing ∨ l.runner = .polling) ∧ rest.any isExecuting = false := by
  have goes : goingEntry (.todo (.work i)) ++ going rest = underway l.runner := driven.goes
  cases i with
  | passNext ran =>
    obtain ⟨passing, none_below⟩ := passing_of_underway goes
    exact ⟨.inl passing, driven.idle_below none_below⟩
  | pollNext w =>
    obtain ⟨polling, none_below⟩ := polling_of_underway goes
    exact ⟨.inr polling, driven.idle_below none_below⟩
  | _ => cases goes_on

lemma Driven.live_at_going (driven : Driven h ⟨l, .todo (.work i) :: rest⟩)
    (goes_on : isGoing i = true) : l.isLive = true := by
  rcases (driven.at_going goes_on).1 with passing | polling
  · simp [isLive, passing]
  · simp [isLive, polling]

lemma Driven.at_drop (driven : Driven h ⟨l, .todo (.work .dropRunner) :: rest⟩)
    (idle : l.isIdle = true) : rest.any isExecuting = false := by
  have goes : going rest = underway l.runner := driven.goes
  rw [underway_of_idle idle] at goes
  exact driven.idle_below goes

lemma posts_eq_nil (unposted : ∀ task, i = .post task → l.isLive = false) :
    posts (⟨l, agenda⟩, .own (.work i)) = [] := by
  cases i with
  | post task => simp [posts, unposted task rfl]
  | _ => rfl

lemma loses_eq_nil (undropped : i = .dropRunner → l.isIdle = false) :
    loses (⟨l, agenda⟩, .own (.work i)) = [] := by
  cases i with
  | dropRunner => simp [loses, undropped rfl]
  | _ => rfl

lemma Kept.work (kept : Kept h ⟨l, .todo (.work i) :: rest⟩)
    (driven : Driven h ⟨l, .todo (.work i) :: rest⟩) :
    Kept (h ++ [(⟨l, .todo (.work i) :: rest⟩, .own (.work i))])
      ⟨(exec i l).1, (exec i l).2.map .todo ++ rest⟩ := by
  obtain ⟨posted_eq, begun_eq, one, none_lost, none_left⟩ := kept
  have effect := exec_queueing i l
  generalize (exec i l).1 = l' at *
  generalize (exec i l).2 = out at *
  change posted h = begun h ++ (due rest ++ (lost h ++ l.pending)) at posted_eq
  change begun h = finished h ++ held rest at begun_eq
  change l.isLive = true → lost h = [] at none_lost
  change l.isLive = false → l.pending = [] at none_left
  have one : rest.countP isExecuting ≤ 1 := by simpa [isExecuting] using one
  have undue (plain : (out.map Entry.todo).any isExecuting = false) :
      (out.map Entry.todo).countP isExecuting = 0 := by
    simpa [List.countP_eq_zero] using plain
  cases effect with
  | joins live pending runner plain =>
    constructor
    · simp [posts, live, begins, loses, due_eq_nil plain, pending, posted_eq]
    · simp [begins, finishes, held_eq_nil plain, begun_eq]
    · rw [List.countP_append, undue plain]
      omega
    · intro _
      simp [loses, none_lost live]
    · intro gone
      rw [isLive_congr runner, live] at gone
      cases gone
  | @takes _ task goes_on pending runner =>
    have none_posted : posts (⟨l, .todo (.work i) :: rest⟩, .own (.work i)) = [] :=
      posts_eq_nil fun task same => by subst same; cases goes_on
    have none_dropped : loses (⟨l, .todo (.work i) :: rest⟩, .own (.work i)) = [] :=
      loses_eq_nil fun same => by subst same; cases goes_on
    have live := driven.live_at_going goes_on
    have idle := (driven.at_going goes_on).2
    rw [due_eq_nil idle, none_lost live, pending] at posted_eq
    constructor
    · simp [none_posted, none_dropped, begins, dueEntry, due_eq_nil idle, none_lost live,
        posted_eq]
    · simp [begins, finishes, heldEntry, begun_eq]
    · have none_below : rest.countP isExecuting = 0 := by simpa [List.countP_eq_zero] using idle
      simp [List.countP_cons, isExecuting, none_below]
    · intro _
      simp [none_dropped, none_lost live]
    · intro gone
      rw [isLive_congr runner, live] at gone
      cases gone
  | loses idle pending runner plain =>
    have none_runs := driven.at_drop idle
    constructor
    · simp [posts, begins, loses, idle, due_eq_nil plain, due_eq_nil none_runs, pending,
        posted_eq]
    · simp [begins, finishes, held_eq_nil plain, begun_eq]
    · rw [List.countP_append, undue plain]
      omega
    · intro live
      simp [isLive, runner] at live
    · exact fun _ => pending
  | keeps pending unposted undropped live plain =>
    constructor
    · simp [posts_eq_nil unposted, loses_eq_nil undropped, begins, due_eq_nil plain, pending,
        posted_eq]
    · simp [begins, finishes, held_eq_nil plain, begun_eq]
    · rw [List.countP_append, undue plain]
      omega
    · intro still_live
      rw [lost_snoc, loses_eq_nil undropped, List.append_nil]
      apply none_lost
      rcases live with same | ⟨-, goes_on⟩
      · rw [← same, still_live]
      · exact driven.live_at_going goes_on
    · intro gone
      rcases live with same | ⟨empty, -⟩
      · rw [pending, none_left (same.symm.trans gone)]
      · rw [pending, empty]

/-- While a task is run, no other is. -/
lemma Kept.idle_behind {x : Entry (Instr τ) (Call τ) (Note τ)} (kept : Kept h ⟨l, x :: rest⟩)
    (executing : isExecuting x = true) : rest.any isExecuting = false := by
  have one := kept.one_at_a_time
  rw [List.countP_cons, executing, if_pos rfl] at one
  have none_behind : rest.countP isExecuting = 0 := by omega
  simpa [List.countP_eq_zero] using none_behind

/-- An act that neither posts nor loses a task may begin or finish one. -/
lemma Kept.plain {b : Live τ × Deed τ} (kept : Kept h b.1) (same_state : m'.state = b.1.state)
    (unposted : posts b = []) (unlost : loses b = [])
    (same_due : begins b.2 ++ due m'.agenda = due b.1.agenda)
    (same_held : finishes b.2 ++ held m'.agenda = held b.1.agenda ++ begins b.2)
    (fewer : m'.agenda.countP isExecuting ≤ b.1.agenda.countP isExecuting) :
    Kept (h ++ [b]) m' where
  posted_eq := by
    rw [posted_snoc, begun_snoc, lost_snoc, unposted, unlost, List.append_nil, List.append_nil,
      same_state, kept.posted_eq, ← same_due]
    simp only [List.append_assoc]
  begun_eq := by
    rw [begun_snoc, finished_snoc, List.append_assoc, same_held, kept.begun_eq, List.append_assoc]
  one_at_a_time := Nat.le_trans fewer kept.one_at_a_time
  none_lost := by
    rw [lost_snoc, unlost, List.append_nil, same_state]
    exact kept.none_lost
  none_left := by
    rw [same_state]
    exact kept.none_left

theorem kept_of_runs (run : Runs owner h m) : Kept h m := by
  induction run with
  | start => exact ⟨rfl, rfl, Nat.zero_le 1, fun _ => rfl, nofun⟩
  | step run move ih =>
    cases move using Machine.Move.elim with
    | work l i rest => exact ih.work (driven_of_runs run)
    | call l c rest =>
      cases c with
      | run task =>
        have none_held := held_eq_nil (ih.idle_behind rfl)
        refine ih.plain rfl rfl rfl rfl ?_ (Nat.le_refl _)
        simp [begins, finishes, heldEntry, none_held]
    | note l e rest =>
      exact ih.plain rfl rfl rfl rfl (List.append_nil _).symm
        (List.sublist_cons_self _ _).countP_le
    | invoke m is asked =>
      cases asked with
      | ask i asked =>
        exact Kept.plain ih rfl rfl rfl rfl (List.append_nil _).symm
          (Nat.le_of_eq (List.countP_cons_of_neg Bool.false_ne_true))
    | reply l c rest f =>
      cases c with
      | run task =>
        exact ih.plain rfl rfl rfl rfl (List.append_nil _).symm
          (List.sublist_cons_self _ _).countP_le

end StreamControl.TaskLoop
