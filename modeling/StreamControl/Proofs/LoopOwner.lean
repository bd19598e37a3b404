import StreamControl.Proofs.LoopRun

/-!
# Who owns a loop while it runs a task

A pass binds the loop to the thread that makes it. A future binds it once, to the thread that polls
it first, and keeps it there on whichever thread it is polled later. So while a task runs, the loop
is owned by the thread that drives it, unless this is a future that another thread polled first.
-/

namespace StreamControl.TaskLoop

variable {τ : Type} {owner : Thread} {h : Past τ} {m : Live τ} {rest agenda : Agenda τ}
  {l : TaskLoop τ} {i : Instr τ}

/-! ## Who drives the runner -/

/-- The thread that polls a future, unless there is none to poll. -/
def pollsOn : Live τ × Deed τ → Option Thread
  | (m, .own (.work (.poll t _))) =>
    match m.state.runner with
    | .serving _ => some t
    | _ => none
  | _ => none

/-- The thread that makes a pass, unless the runner is not there for one. -/
def passesOn : Live τ × Deed τ → Option Thread
  | (m, .own (.work (.pass t))) => if m.state.runner = .ready then some t else none
  | _ => none

def drivesOn (b : Live τ × Deed τ) : Option Thread := (passesOn b).or (pollsOn b)

/-- The thread that drove the runner last. -/
def driver (h : Past τ) : Option Thread := (h.filterMap drivesOn).getLast?

/-- The thread that polled the future first. -/
def firstPoller (h : Past τ) : Option Thread := (h.filterMap pollsOn).head?

section Views

variable (b : Live τ × Deed τ)

lemma driver_snoc : driver (h ++ [b]) = (drivesOn b).or (driver h) := by
  rw [driver, List.filterMap_append, List.getLast?_append]
  cases hb : drivesOn b <;> simp [List.filterMap, hb, driver]

lemma firstPoller_snoc : firstPoller (h ++ [b]) = (firstPoller h).or (pollsOn b) := by
  rw [firstPoller, List.filterMap_append, List.head?_append]
  cases hb : pollsOn b <;> simp [List.filterMap, hb, firstPoller]

end Views

/-! ## Tasks run while the runner is driven -/

/-- A task is being run, or is run next. -/
def isExecuting : Entry (Instr τ) (Call τ) (Note τ) → Bool
  | .todo (.call (.run _)) | .held (.run _) => true
  | _ => false

/-- What the runner goes on with. -/
def goingEntry : Entry (Instr τ) (Call τ) (Note τ) → List Runner
  | .todo (.work (.passNext _)) => [.passing]
  | .todo (.work (.pollNext _)) => [.polling]
  | _ => []

def going (agenda : Agenda τ) : List Runner := agenda.flatMap goingEntry

/-- What a runner that is driven has to go on with. -/
def underway : Runner → List Runner
  | .passing => [.passing]
  | .polling => [.polling]
  | _ => []

/-- Under every task there is the runner that goes on after it. -/
def Followed : Agenda τ → Prop
  | [] => True
  | x :: rest => (isExecuting x = true → going rest ≠ []) ∧ Followed rest

/-- Whom the loop is bound to, by what its runner is doing. -/
def Bound (h : Past τ) (l : TaskLoop τ) : Prop :=
  match l.runner with
  | .ready | .serving false => firstPoller h = none
  | .passing => firstPoller h = none ∧ driver h = some l.owner
  | .serving true => firstPoller h = some l.owner
  | .polling => firstPoller h = some l.owner ∧ (driver h).isSome = true
  | .stopped | .dropped => True

/-- The runner goes on while it is driven, tasks run while it goes on, and the loop is bound. -/
structure Driven (h : Past τ) (m : Live τ) : Prop where
  goes : going m.agenda = underway m.state.runner
  followed : Followed m.agenda
  bound : Bound h m.state

section Agenda

variable (x : Entry (Instr τ) (Call τ) (Note τ)) (agenda agenda' : Agenda τ)

@[simp] lemma going_cons : going (x :: agenda) = goingEntry x ++ going agenda := rfl

@[simp] lemma going_append : going (agenda ++ agenda') = going agenda ++ going agenda' :=
  List.flatMap_append

end Agenda

lemma Followed.append (followed : Followed rest) (none_runs : ∀ x ∈ agenda, isExecuting x = false) :
    Followed (agenda ++ rest) := by
  induction agenda with
  | nil => exact followed
  | cons x agenda ih =>
    refine ⟨fun runs => ?_, ih fun y hy => none_runs y (List.mem_cons_of_mem _ hy)⟩
    rw [none_runs x List.mem_cons_self] at runs
    cases runs

lemma going_ne_nil (followed : Followed agenda) (executing : agenda.any isExecuting = true) :
    going agenda ≠ [] := by
  induction agenda with
  | nil => cases executing
  | cons x agenda ih =>
    have below : going agenda ≠ [] := by
      rw [List.any_cons, Bool.or_eq_true] at executing
      exact executing.elim followed.1 (ih followed.2)
    rw [going_cons]
    exact List.append_ne_nil_of_right_ne_nil _ below

/-! ## What each step keeps -/

lemma pollsOn_eq_none {b : Live τ × Deed τ} (plain : drivesOn b = none) : pollsOn b = none :=
  (Option.or_eq_none_iff.mp plain).2

/-- What drives nothing leaves the loop to whom it is bound. -/
lemma Bound.plain {l' : TaskLoop τ} {b : Live τ × Deed τ} (bound : Bound h l)
    (plain : drivesOn b = none) (same_runner : l'.runner = l.runner)
    (same_owner : l'.owner = l.owner) : Bound (h ++ [b]) l' := by
  rw [Bound, driver_snoc, firstPoller_snoc, plain, pollsOn_eq_none plain, Option.none_or,
    Option.or_none, same_runner, same_owner]
  exact bound

lemma passing_of_underway {r : Runner} {others : List Runner}
    (goes : Runner.passing :: others = underway r) : r = .passing ∧ others = [] := by
  cases r <;> simp_all [underway]

lemma polling_of_underway {r : Runner} {others : List Runner}
    (goes : Runner.polling :: others = underway r) : r = .polling ∧ others = [] := by
  cases r <;> simp_all [underway]

lemma underway_of_idle (idle : l.isIdle = true) : underway l.runner = [] := by
  unfold isIdle at idle
  split at idle
  · simp [underway, *]
  · simp [underway, *]
  · cases idle

lemma Driven.notes {out : List (Todo (Instr τ) (Call τ) (Note τ))}
    (notes : ∀ x ∈ out, ∃ n, x = .note n) (below : going rest = underway l.runner)
    (followed : Followed rest) (bound : Bound h l) : Driven h ⟨l, out.map .todo ++ rest⟩ := by
  refine ⟨?_, followed.append ?_, bound⟩
  · have none_left : going (out.map .todo) = [] := by
      rw [going, List.flatMap_map, List.flatMap_eq_nil_iff]
      intro x hx
      obtain ⟨n, rfl⟩ := notes x hx
      rfl
    rw [going_append, none_left, List.nil_append]
    exact below
  · rw [List.forall_mem_map]
    intro x hx
    obtain ⟨n, rfl⟩ := notes x hx
    rfl

lemma notes_woken (l : TaskLoop τ) : ∀ x ∈ woken l, ∃ n, x = .note n := by
  simp [woken]

lemma notes_report (ran : Nat) :
    ∀ x ∈ (report ran : List (Todo (Instr τ) (Call τ) (Note τ))), ∃ n, x = .note n := by
  unfold report
  split <;> simp

lemma driven_work (driven : Driven h ⟨l, .todo (.work i) :: rest⟩) :
    Driven (h ++ [(⟨l, .todo (.work i) :: rest⟩, .own (.work i))])
      ⟨(exec i l).1, (exec i l).2.map .todo ++ rest⟩ := by
  obtain ⟨goes, ⟨-, followed⟩, bound⟩ := driven
  have effect := exec_effect i l
  generalize (exec i l).1 = l' at *
  generalize (exec i l).2 = out at *
  have goes : goingEntry (.todo (.work i)) ++ going rest = underway l.runner := goes
  have bound : Bound h l := bound
  cases effect with
  | posts live => exact .notes (notes_woken l) goes followed (bound.plain rfl rfl rfl)
  | refuses gone => exact .notes (by simp) goes followed (bound.plain rfl rfl rfl)
  | @passes _ t ready =>
    have none_below : going rest = [] := by simpa [goingEntry, ready, underway] using goes
    have unpolled : firstPoller h = none := by simpa [Bound, ready] using bound
    refine ⟨by simp [goingEntry, none_below, underway], ⟨nofun, followed⟩, ?_⟩
    simp [Bound, driver_snoc, firstPoller_snoc, unpolled, drivesOn, passesOn, pollsOn, ready]
  | runs pending =>
    exact ⟨goes, ⟨fun _ => by simp [goingEntry], nofun, followed⟩, bound.plain rfl rfl rfl⟩
  | ends empty =>
    obtain ⟨passing, none_below⟩ := passing_of_underway goes
    refine .notes (notes_report _) none_below followed ?_
    simp only [Bound, passing] at bound
    rw [Bound, firstPoller_snoc, bound.1]
    rfl
  | serves ready =>
    have none_below : going rest = [] := by simpa [goingEntry, ready, underway] using goes
    refine ⟨none_below, followed, ?_⟩
    simp only [Bound, ready] at bound
    rw [Bound, firstPoller_snoc, bound]
    rfl
  | @polls _ t w already serving =>
    have none_below : going rest = [] := by simpa [goingEntry, serving, underway] using goes
    refine ⟨by simp [goingEntry, none_below, underway], ⟨nofun, followed⟩, ?_⟩
    cases already with
    | true =>
      have polled : firstPoller h = some l.owner := by simpa [Bound, serving] using bound
      simp [Bound, driver_snoc, firstPoller_snoc, polled, drivesOn, passesOn, pollsOn, serving]
    | false =>
      have unpolled : firstPoller h = none := by simpa [Bound, serving] using bound
      simp [Bound, driver_snoc, firstPoller_snoc, unpolled, drivesOn, passesOn, pollsOn, serving]
  | runsPolled pending =>
    exact ⟨goes, ⟨fun _ => by simp [goingEntry], nofun, followed⟩, bound.plain rfl rfl rfl⟩
  | stops empty none_left =>
    obtain ⟨-, none_below⟩ := polling_of_underway goes
    exact .notes (by simp) none_below followed trivial
  | waits empty some_left =>
    obtain ⟨polling, none_below⟩ := polling_of_underway goes
    refine .notes (by simp) none_below followed ?_
    simp only [Bound, polling] at bound
    rw [Bound, firstPoller_snoc, bound.1]
    rfl
  | adds | drops => exact ⟨goes, followed, bound.plain rfl rfl rfl⟩
  | dropsLast | dropsAll => exact .notes (notes_woken l) goes followed (bound.plain rfl rfl rfl)
  | discards idle =>
    have none_below : going rest = [] := by simpa [goingEntry, underway_of_idle idle] using goes
    exact .notes (by simp) none_below followed trivial
  | busy busy => exact ⟨goes, followed, bound.plain rfl rfl rfl⟩
  | unready asked unready =>
    rcases asked with ⟨t, rfl⟩ | rfl
    · exact ⟨goes, followed, bound.plain (by simp [drivesOn, passesOn, pollsOn, unready]) rfl rfl⟩
    · exact ⟨goes, followed, bound.plain rfl rfl rfl⟩
  | unserved unserved =>
    refine ⟨goes, followed, bound.plain ?_ rfl rfl⟩
    cases serving : l.runner with
    | serving already => exact absurd serving (unserved already)
    | _ => simp [drivesOn, passesOn, pollsOn, serving]

theorem driven_of_runs (run : Runs owner h m) : Driven h m := by
  induction run with
  | start => exact ⟨rfl, trivial, rfl⟩
  | step _ move ih =>
    cases move using Machine.Move.elim with
    | work l i rest => exact driven_work ih
    | call l c rest => exact ⟨ih.goes, ih.followed, ih.bound.plain rfl rfl rfl⟩
    | note l e rest => exact ⟨ih.goes, ih.followed.2, ih.bound.plain rfl rfl rfl⟩
    | invoke m is asked =>
      cases asked with
      | ask i asked =>
        refine ⟨?_, ⟨nofun, ih.followed⟩, ih.bound.plain rfl rfl rfl⟩
        cases i with
        | passNext ran | pollNext w => cases asked
        | _ => exact ih.goes
    | reply l c rest f => exact ⟨ih.goes, ih.followed.2, ih.bound.plain rfl rfl rfl⟩

/-! ## The owner of the loop -/

/-- While a task is being run, the loop belongs to the thread that drives it, or, if this is a
future, to the thread that polled it first, and to no other thread. So the thread that runs the task
and no other is on the loop just if it polled the future first. -/
theorem owner_of_executing (run : Runs owner h m) (executing : m.agenda.any isExecuting = true) :
    ∃ t, driver h = some t ∧ m.state.owner = (firstPoller h).getD t ∧
      ((∀ u, m.state.ownedBy u = true ↔ u = t) ↔ ∀ f, firstPoller h = some f → f = t) := by
  obtain ⟨goes, followed, bound⟩ := driven_of_runs run
  have is_underway := going_ne_nil followed executing
  rw [goes] at is_underway
  have owned : ∃ t, driver h = some t ∧ m.state.owner = (firstPoller h).getD t := by
    cases runner : m.state.runner with
    | passing =>
      simp only [Bound, runner] at bound
      exact ⟨_, bound.2, by rw [bound.1]; rfl⟩
    | polling =>
      simp only [Bound, runner] at bound
      obtain ⟨t, drives⟩ := Option.isSome_iff_exists.mp bound.2
      exact ⟨t, drives, by rw [bound.1]; rfl⟩
    | _ =>
      rw [runner] at is_underway
      exact absurd rfl is_underway
  obtain ⟨t, drives, owner_eq⟩ := owned
  refine ⟨t, drives, owner_eq, ?_⟩
  simp only [ownedBy, decide_eq_true_eq, owner_eq]
  cases polled : firstPoller h with
  | none => simp [eq_comm]
  | some f =>
    simp only [Option.getD_some, Option.some.injEq, forall_eq']
    exact ⟨fun same => (same f).mp rfl, fun same u => by rw [same, eq_comm]⟩

/-- A task posts another one while it is run, by a pass of another thread than the loop began on.
Then a future serves the loop on a third thread. -/
def drivenInTurn : Past Nat × Live Nat :=
  Machine.drive component 60
    [.ask [.post 1], .ask [.pass 1], .ask [.post 2], .reply (fun _ => ()), .reply (fun _ => ()),
      .ask [.serve], .ask [.post 3], .ask [.poll 2 5], .reply (fun _ => ()), .ask [.post 4],
      .ask [.poll 2 5]]
    (.idle (fresh 0))

theorem owner_drivenInTurn :
    Runs 0 drivenInTurn.1 drivenInTurn.2 ∧ drivenInTurn.2.agenda.any isExecuting = true ∧
      driver drivenInTurn.1 = some 2 ∧ ∀ u, drivenInTurn.2.state.ownedBy u = true ↔ u = 2 := by
  have run : Runs 0 drivenInTurn.1 drivenInTurn.2 :=
    Machine.drive_run (fun _ _ _ => request_of_isRequest) _ _ _ rfl
  obtain ⟨t, drives, -, owned⟩ := owner_of_executing run rfl
  have driver_eq : driver drivenInTurn.1 = some 2 := rfl
  have first_eq : firstPoller drivenInTurn.1 = some 2 := rfl
  obtain rfl : t = 2 := by simpa [driver_eq] using drives.symm
  exact ⟨run, rfl, driver_eq, owned.mpr fun f first => by simpa [first_eq] using first.symm⟩

/-- A future is polled on one thread and finds nothing to do, and a task is run when it is polled on
another one. -/
def polledElsewhere : Past Nat × Live Nat :=
  Machine.drive component 20 [.ask [.serve], .ask [.poll 0 5], .ask [.post 1], .ask [.poll 1 5]]
    (.idle (fresh 0))

/-- The thread that runs a task need not be on the loop: a future binds the loop to the thread that
polls it first. -/
theorem not_owned_by_driver :
    ¬ (∀ (h : Past Nat) (m : Live Nat), Runs 0 h m → m.agenda.any isExecuting = true →
      ∃ t, driver h = some t ∧ ∀ u, m.state.ownedBy u = true ↔ u = t) := by
  intro all
  have run : Runs 0 polledElsewhere.1 polledElsewhere.2 :=
    Machine.drive_run (fun _ _ _ => request_of_isRequest) _ _ _ rfl
  obtain ⟨t, drives, owned⟩ := all _ _ run rfl
  have driver_eq : driver polledElsewhere.1 = some 1 := rfl
  obtain rfl : t = 1 := by simpa [driver_eq] using drives.symm
  exact absurd ((owned 1).mpr rfl) (by decide)

end StreamControl.TaskLoop
