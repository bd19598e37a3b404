import Mathlib.Data.List.Forall2
import StreamControl.Proofs.LoopOwner

/-!
# A pass and a poll

A pass and a future that is polled go on differently when there is nothing left to run. Until then
they do the same, whatever the tasks and other threads do meanwhile: where one of them can take out
a task, or finds none left, so does the other.
-/

namespace StreamControl.TaskLoop

variable {τ : Type} {h : Past τ} {m m' m₁ m₂ : Live τ} {a a₁ a₂ : Deed τ} {l : TaskLoop τ}
  {i : Instr τ} {x y : Entry (Instr τ) (Call τ) (Note τ)} {c : Call τ}

/-! ## What is seen of a loop that is driven -/

/-- What is seen of an act, if not who drives the runner. -/
inductive Sight (τ : Type) where
  | deed (a : Deed τ)
  /-- The runner takes out the next task. -/
  | takes
  /-- The runner finds nothing left to run. -/
  | ends

def sight : Live τ × Deed τ → Sight τ
  | (m, .own (.work (.passNext _))) | (m, .own (.work (.pollNext _))) =>
    if m.state.pending.isEmpty then .ends else .takes
  | (_, a) => .deed a

/-- A thread begins a pass. -/
def passedBy (t : Thread) (m : Live τ) : Live τ :=
  ⟨(exec (.pass t) m.state).1, (exec (.pass t) m.state).2.map .todo ++ m.agenda⟩

/-- The runner is turned into a future, and a thread begins to poll it. -/
def polledBy (t : Thread) (w : Waker) (m : Live τ) : Live τ :=
  let future := (exec .serve m.state).1
  ⟨(exec (.poll t w) future).1, (exec (.poll t w) future).2.map .todo ++ m.agenda⟩

/-- From some machine on, this is seen until the runner ends, or some of it. -/
def Drives (m : Live τ) (sights : List (Sight τ)) : Prop :=
  ∃ h m', Machine.Run component (fun _ => Request) m h m' ∧ h.map sight = sights ∧
    .ends ∉ sights.dropLast

/-! ## Side by side -/

/-- What is left to do of a pass and of a poll is the same but for how they go on. -/
inductive Matches : Entry (Instr τ) (Call τ) (Note τ) → Entry (Instr τ) (Call τ) (Note τ) → Prop
  | same {x : Entry (Instr τ) (Call τ) (Note τ)} (plain : goingEntry x = []) : Matches x x
  | goes (ran : Nat) (w : Waker) :
    Matches (.todo (.work (.passNext ran))) (.todo (.work (.pollNext w)))

/-- A pass over a loop and a poll that has got just as far. -/
structure Alongside (m₁ m₂ : Live τ) : Prop where
  passing : m₁.state.runner = .passing
  state : m₂.state = { m₁.state with runner := .polling }
  agenda : List.Forall₂ Matches m₁.agenda m₂.agenda

/-- The same is done in a pass and in a poll. -/
inductive SameDeed : Deed τ → Deed τ → Prop
  | own {t₁ t₂ : Todo (Instr τ) (Call τ) (Note τ)} (matched : Matches (.todo t₁) (.todo t₂)) :
    SameDeed (.own t₁) (.own t₂)
  | invoke (is : List (Instr τ)) : SameDeed (.invoke is) (.invoke is)
  | answer (c : Call τ) (r : Unit) : SameDeed (.answer c r) (.answer c r)

lemma goingEntry_work (asked : isGoing i = false) :
    goingEntry (.todo (.work i) : Entry (Instr τ) (Call τ) (Note τ)) = [] := by
  cases i with
  | passNext ran | pollNext w => cases asked
  | _ => rfl

lemma isGoing_of_plain
    (plain : goingEntry (.todo (.work i) : Entry (Instr τ) (Call τ) (Note τ)) = []) :
    isGoing i = false := by
  cases i with
  | passNext ran | pollNext w => cases plain
  | _ => rfl

lemma matches_self {agenda : Agenda τ} (plain : going agenda = []) :
    List.Forall₂ Matches agenda agenda := by
  rw [going, List.flatMap_eq_nil_iff] at plain
  rw [List.forall₂_same]
  exact fun x hx => .same (plain x hx)

/-- What does not drive the runner finds it driven in either way, and leaves it so. -/
lemma exec_alongside (asked : isGoing i = false) (passing : l.runner = .passing) :
    exec i { l with runner := .polling } =
        ({ (exec i l).1 with runner := .polling }, (exec i l).2) ∧
      (exec i l).1.runner = .passing ∧ going ((exec i l).2.map .todo) = [] := by
  cases i with
  | passNext ran | pollNext w => cases asked
  | post task =>
    simp only [exec, isLive, passing, wake, if_true]
    cases l.waker <;> simp [going, goingEntry]
  | dropHandle =>
    simp only [exec, wake]
    split
    · cases l.waker <;> simp [passing, going, goingEntry]
    · simp [passing, going]
  | dropHandles =>
    simp only [exec, wake]
    cases l.waker <;> simp [passing, going, goingEntry]
  | _ => simp [exec, isIdle, passing, going]

lemma sight_eq (along : Alongside m₁ m₂) (same : SameDeed a₁ a₂) :
    sight (m₁, a₁) = sight (m₂, a₂) := by
  cases same with
  | own matched =>
    cases matched with
    | same plain =>
      rename_i t
      cases t with
      | work i =>
        cases i with
        | passNext ran | pollNext w => cases plain
        | _ => rfl
      | _ => rfl
    | goes ran w => simp only [sight, along.state]
  | _ => rfl

/-- Until they end, a pass and a poll stay side by side. -/
lemma Alongside.after (along : Alongside m₁ m₂) (same : SameDeed a₁ a₂)
    (possible : Machine.Possible (fun _ => Request) m₁ a₁) (goes_on : sight (m₁, a₁) ≠ .ends) :
    Alongside (m₁.after component a₁) (m₂.after component a₂) := by
  rcases m₁ with ⟨l₁, agenda₁⟩
  rcases m₂ with ⟨l₂, agenda₂⟩
  obtain ⟨passing, state, agenda⟩ := along
  change l₂ = _ at state
  subst state
  cases same with
  | invoke is =>
    cases possible with
    | ask i asked => exact ⟨passing, rfl, .cons (.same (goingEntry_work asked)) agenda⟩
  | answer c r =>
    obtain ⟨head, -⟩ := possible
    obtain ⟨rest₁, rfl⟩ := List.head?_eq_some_iff.mp head
    cases agenda with
    | cons first below => exact ⟨passing, rfl, below⟩
  | @own t t₂ matched =>
    obtain ⟨rest₁, rfl⟩ := List.head?_eq_some_iff.mp possible
    cases agenda with
    | cons first below =>
      cases first with
      | same plain =>
        cases t with
        | work i =>
          obtain ⟨same, still, none_goes⟩ := exec_alongside (isGoing_of_plain plain) passing
          refine ⟨still, congrArg Prod.fst same, ?_⟩
          change List.Forall₂ Matches (_ ++ rest₁) ((exec i _).2.map .todo ++ _)
          rw [same]
          exact List.rel_append (matches_self none_goes) below
        | call c => exact ⟨passing, rfl, .cons (.same rfl) below⟩
        | note e => exact ⟨passing, rfl, below⟩
      | goes ran w =>
        obtain ⟨task, rest, pending⟩ : ∃ task rest, l₁.pending = task :: rest := by
          rw [← List.ne_nil_iff_exists_cons]
          intro empty
          simp [sight, empty] at goes_on
        simp only [Machine.after, Machine.step, component, exec, pending, Option.map_some,
          Option.getD_some]
        exact ⟨passing, rfl, .cons (.same rfl) (.cons (.goes _ _) below)⟩

/-- Whatever can be done at one agenda has its counterpart at one whose entries match. -/
lemma possible_of_match
    {M : Entry (Instr τ) (Call τ) (Note τ) → Entry (Instr τ) (Call τ) (Note τ) → Prop}
    {S : Deed τ → Deed τ → Prop}
    (own : ∀ {t y}, M (.todo t) y → ∃ t', y = .todo t' ∧ S (.own t) (.own t'))
    (held : ∀ {c y}, M (.held c) y → y = .held c) (invoke : ∀ is, S (.invoke is) (.invoke is))
    (answer : ∀ c r, S (.answer c r) (.answer c r))
    (agendas : List.Forall₂ M m₁.agenda m₂.agenda)
    (possible : Machine.Possible (fun _ => Request) m₁ a) :
    ∃ a', S a a' ∧ Machine.Possible (fun _ => Request) m₂ a' := by
  rcases m₁ with ⟨l₁, agenda₁⟩
  rcases m₂ with ⟨l₂, agenda₂⟩
  cases a with
  | invoke is => exact ⟨_, invoke is, possible⟩
  | own t =>
    obtain ⟨rest, rfl⟩ := List.head?_eq_some_iff.mp possible
    cases agendas with
    | cons first below =>
      obtain ⟨t', rfl, same⟩ := own first
      exact ⟨_, same, rfl⟩
  | answer c r =>
    obtain ⟨head, replies⟩ := possible
    obtain ⟨rest, rfl⟩ := List.head?_eq_some_iff.mp head
    cases agendas with
    | cons first below =>
      obtain rfl := held first
      exact ⟨_, answer c r, rfl, replies⟩

/-- Whatever can be done in a pass can be done in the poll beside it. -/
lemma Alongside.possible_poll (along : Alongside m₁ m₂)
    (possible : Machine.Possible (fun _ => Request) m₁ a₁) :
    ∃ a₂, SameDeed a₁ a₂ ∧ Machine.Possible (fun _ => Request) m₂ a₂ := by
  refine possible_of_match (S := SameDeed) (fun matched => ?_) (fun matched => ?_) .invoke
    .answer along.agenda possible
  · cases matched with
    | same plain => exact ⟨_, rfl, .own (.same plain)⟩
    | goes ran w => exact ⟨_, rfl, .own (.goes ran w)⟩
  · cases matched
    rfl

lemma Alongside.possible_pass (along : Alongside m₁ m₂)
    (possible : Machine.Possible (fun _ => Request) m₂ a₂) :
    ∃ a₁, SameDeed a₁ a₂ ∧ Machine.Possible (fun _ => Request) m₁ a₁ := by
  have agendas : List.Forall₂ (flip Matches) m₂.agenda m₁.agenda := along.agenda.flip
  refine possible_of_match (S := fun a b => SameDeed b a) (fun matched => ?_)
    (fun matched => ?_) SameDeed.invoke SameDeed.answer agendas possible
  · rw [flip] at matched
    cases matched with
    | same plain => exact ⟨_, rfl, .own (.same plain)⟩
    | goes ran w => exact ⟨_, rfl, .own (.goes ran w)⟩
  · rw [flip] at matched
    cases matched
    rfl

/-! ## The same is seen of both -/

section Follows

variable {R : Live τ → Live τ → Prop}

/-- Whatever happens to one machine until its runner ends can happen to one that keeps beside
it. -/
lemma drives_beside
    (step : ∀ {m₁ m₂ a₁}, R m₁ m₂ → Machine.Possible (fun _ => Request) m₁ a₁ →
      ∃ a₂, Machine.Possible (fun _ => Request) m₂ a₂ ∧ sight (m₂, a₂) = sight (m₁, a₁) ∧
        (sight (m₁, a₁) ≠ .ends → R (m₁.after component a₁) (m₂.after component a₂)))
    (beside : R m₁ m₂) {sights : List (Sight τ)} (drives : Drives m₁ sights) :
    Drives m₂ sights := by
  obtain ⟨h, m, run, rfl, unended⟩ := drives
  have follows : ∃ h' m', Machine.Run component (fun _ => Request) m₂ h' m' ∧
      h'.map sight = h.map sight ∧ (.ends ∉ h.map sight → R m m') := by
    induction run with
    | start => exact ⟨[], m₂, .start, rfl, fun _ => beside⟩
    | @step h m m' a run move ih =>
      rw [List.map_append, List.map_singleton, List.dropLast_concat] at unended
      obtain ⟨h', m₂', run', same, keeps⟩ := ih fun ended =>
        unended ((List.dropLast_subset _) ended)
      obtain ⟨possible, rfl⟩ := Machine.move_iff.mp move
      obtain ⟨a', possible', same_sight, still⟩ := step (keeps unended) possible
      refine ⟨h' ++ [(m₂', a')], _, run'.step (Machine.move_iff.mpr ⟨possible', rfl⟩), ?_, ?_⟩
      · rw [List.map_append, List.map_append, same, List.map_singleton, same_sight,
          List.map_singleton]
      · intro goes_on
        apply still
        intro ends
        exact goes_on (by simp [ends])
  obtain ⟨h', m', run', same, -⟩ := follows
  exact ⟨h', m', run', same, unended⟩

end Follows

lemma alongside_of_ready (ready : m.state.runner = .ready) (rests : going m.agenda = [])
    (t : Thread) (w : Waker) : Alongside (passedBy t m) (polledBy t w m) := by
  simp only [passedBy, polledBy, exec, ready, if_true]
  exact ⟨rfl, rfl, .cons (.goes 0 w) (matches_self rests)⟩

/-- What is seen of a pass may be seen of the first poll of a future, and the other way round: the
same tasks are run in the same order, whatever they and other threads do meanwhile, and the pass
ends where the poll does. -/
lemma drives_alike (ready : m.state.runner = .ready) (rests : going m.agenda = []) (t : Thread)
    (w : Waker) (sights : List (Sight τ)) :
    Drives (passedBy t m) sights ↔ Drives (polledBy t w m) sights := by
  have along := alongside_of_ready ready rests t w
  constructor
  · apply drives_beside _ along
    intro m₁ m₂ a₁ along possible
    obtain ⟨a₂, same, possible₂⟩ := along.possible_poll possible
    exact ⟨a₂, possible₂, (sight_eq along same).symm, along.after same possible⟩
  · apply drives_beside (R := fun m₂ m₁ => Alongside m₁ m₂) _ along
    intro m₂ m₁ a₂ along possible
    obtain ⟨a₁, same, possible₁⟩ := along.possible_pass possible
    rw [← sight_eq along same]
    exact ⟨a₁, possible₁, rfl, along.after same possible₁⟩

end StreamControl.TaskLoop
