import StreamControl.Proofs.InboxOrder

/-!
# Relief for the producer of an inbox

A producer that is told to back off waits for the inbox to be empty again. The inbox remembers
this by its overflow, and tells the producer when a delivery finds nothing left. As long as there
is credit, a delivery is underway whenever something is buffered or the producer waits. But a
delivery that has used up the credit does not look whether anything is left: the producer is then
told on the next grant.
-/

namespace StreamControl.Inbox

variable {κ α : Type} {mark : Nat} {k d : κ} {i : Instr κ α} {b b' : Inbox κ α}
  {out : List (Todo (Instr κ α) (Call κ α) Note)} {h h' : Past κ α} {m m₁ m' : Live κ α}
  {a : Act (Instr κ α) (Call κ α) Note Reply}

/-- A new inbox with a consumer and somebody to tell that it is empty. -/
def equipped (mark : Nat) (k d : κ) : Inbox κ α :=
  { fresh mark with consumer := some k, onDrained := some d }

/-- The runs of an inbox that is equipped from the start. -/
abbrev EquippedRuns (mark : Nat) (k d : κ) (h : Past κ α) (m : Live κ α) : Prop :=
  Machine.Run component (Machine.InTurn component Request) (.idle (equipped mark k d)) h m

def relieves : Act (Instr κ α) (Call κ α) Note Reply → Bool
  | .own (.call (.drained _)) => true
  | _ => false

/-- The producer was told that the inbox is empty. -/
def Relieved (h : Past κ α) : Prop := h.any (fun b => relieves b.2) = true

/-- An offer is about to be answered: may the producer go on? -/
def answer : Entry (Instr κ α) (Call κ α) Note → List Bool
  | .todo (.note (.pushed writable)) => [writable]
  | _ => []

def answers (agenda : Agenda κ α) : List Bool := agenda.flatMap answer

def isRelief : Entry (Instr κ α) (Call κ α) Note → Bool
  | .todo (.call (.drained _)) => true
  | _ => false

/-- An entry belongs to a delivery: one that has to be made, or one that the consumer has not
finished. -/
def isUnderway : Entry (Instr κ α) (Call κ α) Note → Bool
  | .todo (.work .deliver) => true
  | x => isDelivery x

@[simp] lemma answers_append (agenda agenda' : Agenda κ α) :
    answers (agenda ++ agenda') = answers agenda ++ answers agenda' :=
  List.flatMap_append

@[simp] lemma answers_relief (b : Inbox κ α) : answers ((relief b).map .todo) = [] := by
  unfold relief
  split
  · cases b.onDrained <;> rfl
  · rfl

@[simp] lemma answers_complaint (b : Inbox κ α) (o : Outcome) :
    answers ((complaint b o).map .todo) = [] := by
  unfold complaint
  split
  · rfl
  · split <;> rfl

@[simp] lemma relieved_snoc (b : Live κ α × Act (Instr κ α) (Call κ α) Note Reply) :
    Relieved (h ++ [b]) ↔ Relieved h ∨ relieves b.2 = true := by
  simp [Relieved]

/-! ## Deliveries underway -/

/-- While there is credit, a delivery is underway whenever it has something to do. -/
def Tended (agenda : Agenda κ α) (b : Inbox κ α) : Prop :=
  b.credit ≠ 0 → b.pending ≠ [] ∨ b.overflow = true → agenda.any isUnderway = true

/-- An inbox that is equipped stays so, and keeps its mark. -/
structure Equipped (mark : Nat) (b : Inbox κ α) : Prop where
  consumer : b.consumer ≠ none
  onDrained : b.onDrained ≠ none
  mark_eq : b.mark = mark

lemma Effect.equipped (effect : Effect i b b' out) (before : Equipped mark b) :
    Equipped mark b' := by
  obtain ⟨consumer, onDrained, mark_eq⟩ := before
  cases effect with
  | consumerSet => exact ⟨Option.some_ne_none _, onDrained, mark_eq⟩
  | onDrainedSet => exact ⟨consumer, Option.some_ne_none _, mark_eq⟩
  | _ => exact ⟨consumer, onDrained, mark_eq⟩

lemma any_underway_of_emitting {agenda : Agenda κ α} (busy : b.emitting = true)
    (one : deliveries agenda = b.emitting.toNat) : agenda.any isUnderway = true := by
  have delivering : 0 < deliveries agenda := by
    rw [one, busy]
    exact Nat.one_pos
  obtain ⟨x, hx, is_delivery⟩ := List.countP_pos_iff.mp delivering
  rw [List.any_eq_true]
  refine ⟨x, hx, ?_⟩
  unfold isUnderway
  split
  · rfl
  · exact is_delivery

lemma tended_of_effect {rest : Agenda κ α} (effect : Effect i b b' out) (marked : 0 < b.mark)
    (consumer : b.consumer ≠ none) (one : deliveries (.todo (.work i) :: rest) = b.emitting.toNat)
    (tended : Tended (.todo (.work i) :: rest) b) : Tended (out.map .todo ++ rest) b' := by
  intro credited waiting
  cases effect with
  | pushed | granted | consumed => simp [isUnderway]
  | hands => simp [isUnderway, isDelivery]
  | waits busy =>
    rcases busy with busy | spent | missing
    · exact any_underway_of_emitting busy (by simpa [isDelivery] using one)
    · exact absurd spent credited
    · exact absurd missing consumer
  | emptied free _ _ empty => simp [empty] at waiting
  | settled =>
    have waited : b.pending ≠ [] ∨ b.overflow = true := by
      rcases waiting with pending | overflow
      · exact .inl pending
      · rcases Bool.or_eq_true_iff.mp overflow with before | full
        · exact .inr before
        · refine .inl fun empty => ?_
          simp [isWritable, empty, marked] at full
    simpa [isUnderway, isDelivery] using tended credited waited
  | paused => exact absurd rfl credited
  | cleared =>
    have overflow : b.overflow = true := by simpa using waiting
    simpa [isUnderway, isDelivery] using tended credited (.inr overflow)
  | counted | consumerSet | onFaultSet | onDrainedSet =>
    simpa [isUnderway, isDelivery] using tended credited waiting

lemma tended_step (tended : Tended m.agenda m.state) (marked : 0 < mark)
    (equipped : Equipped mark m.state) (one : OneDelivery m) (move : Moves m a m') :
    Tended m'.agenda m'.state := by
  cases move using Machine.Move.elim with
  | work b i rest =>
    have marked : 0 < b.mark := equipped.mark_eq.symm ▸ marked
    exact tended_of_effect (exec_effect i b) marked equipped.consumer one tended
  | call b c rest =>
    cases c with
    | consume k a => simp [Tended, isUnderway, isDelivery]
    | fault k cause | drained k => simpa [Tended, isUnderway, isDelivery] using tended
  | note b e rest => simpa [Tended, isUnderway, isDelivery] using tended
  | invoke m is asked =>
    intro credited waiting
    rw [Machine.invoke, List.any_append, tended credited waiting, Bool.or_true]
  | reply b c rest f =>
    cases c with
    | consume k a => simp [Tended, component, resume, isUnderway, isDelivery]
    | fault k cause | drained k =>
      simpa [Tended, component, resume, isUnderway, isDelivery] using tended

/-! ## The producer waits -/

/-- The answer to an offer comes at once, and the inbox remembers a refusal. -/
structure Remembers (m : Live κ α) : Prop where
  at_once : answers m.agenda.tail = []
  overflow : false ∈ answers m.agenda → m.state.overflow = true

lemma Effect.answers_tail (effect : Effect i b b' out) : answers (out.map .todo).tail = [] := by
  cases effect with
  | emptied => exact flatMap_tail_eq_nil (answers_relief b)
  | @consumed _ o =>
    have none_out : answers ((complaint b o ++ [Todo.work Instr.deliver]).map .todo) = [] := by
      rw [List.map_append, answers_append, answers_complaint]
      rfl
    exact flatMap_tail_eq_nil none_out
  | _ => rfl

/-- Only at the end of an offer the producer is told anything. -/
lemma Effect.answered (effect : Effect i b b' out) (told : false ∈ answers (out.map .todo)) :
    b'.overflow = true := by
  cases effect with
  | settled =>
    have full : false = b.isWritable := List.mem_singleton.mp told
    simp [settle, ← full]
  | emptied =>
    rw [answers_relief] at told
    cases told
  | @consumed _ o =>
    rw [List.map_append, answers_append, answers_complaint] at told
    cases told
  | _ => cases told

lemma remembers_step (remembers : Remembers m) (move : Moves m a m') : Remembers m' := by
  obtain ⟨at_once, overflow⟩ := remembers
  cases move using Machine.Move.elim with
  | work b i rest =>
    have effect := exec_effect i b
    have none_behind : answers rest = [] := at_once
    refine ⟨flatMap_append_tail_eq_nil effect.answers_tail none_behind, fun told => ?_⟩
    rw [answers_append, none_behind, List.append_nil] at told
    exact effect.answered told
  | call b c rest =>
    have none_behind : answers rest = [] := at_once
    refine ⟨none_behind, fun told => ?_⟩
    rw [show answers (.held c :: rest) = answers rest from rfl, none_behind] at told
    cases told
  | note b e rest =>
    have none_behind : answers rest = [] := at_once
    refine ⟨flatMap_tail_eq_nil none_behind, fun told => ?_⟩
    rw [none_behind] at told
    cases told
  | invoke m is asked =>
    have none_asked : answers (is.map (.todo ∘ .work) : Agenda κ α) = [] := by
      simp [answers, answer]
    have none_before : answers m.agenda = [] := by
      rcases m with ⟨b, _ | ⟨t | c, rest⟩⟩
      · rfl
      · exact absurd rfl (Machine.step_eq_none_iff.mp asked.1 t rest)
      · exact at_once
    refine ⟨flatMap_append_tail_eq_nil (flatMap_tail_eq_nil none_asked) none_before, ?_⟩
    rw [Machine.invoke, answers_append, none_asked, none_before]
    exact fun told => by cases told
  | reply b c rest f =>
    have none_behind : answers rest = [] := at_once
    have none_resumed : answers ((component.resume c (f c)).map .todo : Agenda κ α) = [] := by
      cases c <;> rfl
    refine ⟨flatMap_append_tail_eq_nil (flatMap_tail_eq_nil none_resumed) none_behind, ?_⟩
    rw [answers_append, none_resumed, none_behind]
    exact fun told => by cases told

/-- The producer was told, is about to be told, or waits. -/
def Owing (h : Past κ α) (m : Live κ α) : Prop :=
  Relieved h ∨ m.agenda.any isRelief = true ∨ m.state.overflow = true

/-- A producer that waits goes on waiting unless it is told. -/
lemma Effect.overflow_or_relief (effect : Effect i b b' out) (onDrained : b.onDrained ≠ none)
    (overflow : b.overflow = true) :
    b'.overflow = true ∨ (out.map Entry.todo).any isRelief = true := by
  cases effect with
  | emptied =>
    obtain ⟨d, known⟩ := Option.ne_none_iff_exists'.mp onDrained
    exact .inr (by simp [relief, overflow, known, isRelief])
  | settled => exact .inl (by simp [settle, overflow])
  | _ => exact .inl overflow

/-- What is due to be told stays due until it is told. -/
lemma relief_step (due : m.agenda.any isRelief = true) (move : Moves m a m') :
    relieves a = true ∨ m'.agenda.any isRelief = true := by
  cases move using Machine.Move.elim with
  | work b i rest =>
    have due_behind : rest.any isRelief = true := due
    refine .inr ?_
    rw [List.any_append, due_behind, Bool.or_true]
  | call b c rest =>
    rw [List.any_cons, Bool.or_eq_true] at due
    rcases due with now | later
    · cases c with
      | drained d => exact .inl rfl
      | consume k a | fault k cause => cases now
    · exact .inr later
  | note b e rest => exact .inr due
  | invoke m is asked =>
    refine .inr ?_
    rw [Machine.invoke, List.any_append, due, Bool.or_true]
  | reply b c rest f =>
    have due_behind : rest.any isRelief = true := due
    refine .inr ?_
    rw [List.any_append, due_behind, Bool.or_true]

lemma overflow_step (overflow : m.state.overflow = true) (equipped : Equipped mark m.state)
    (move : Moves m a m') : m'.agenda.any isRelief = true ∨ m'.state.overflow = true := by
  cases move using Machine.Move.elim with
  | work b i rest =>
    rcases (exec_effect i b).overflow_or_relief equipped.onDrained overflow with still | told
    · exact .inr still
    · refine .inl ?_
      rw [List.any_append, Bool.or_eq_true]
      exact .inl told
  | _ => exact .inr overflow

lemma owing_step (owing : Owing h m) (equipped : Equipped mark m.state) (move : Moves m a m') :
    Owing (h ++ [(m, a)]) m' := by
  rw [Owing, relieved_snoc]
  rcases owing with before | due | overflow
  · exact .inl (.inl before)
  · rcases relief_step due move with told | still
    · exact .inl (.inr told)
    · exact .inr (.inl still)
  · exact .inr (overflow_step overflow equipped move)

lemma relief_invariants (marked : 0 < mark) (run : EquippedRuns mark k d h m) :
    Equipped mark m.state ∧ OneDelivery m ∧ Tended m.agenda m.state ∧ Remembers m := by
  induction run with
  | start =>
    refine ⟨⟨Option.some_ne_none _, Option.some_ne_none _, rfl⟩, rfl, ?_, rfl, ?_⟩
    · exact fun _ waiting => absurd waiting (by simp [Machine.idle, equipped, fresh])
    · exact fun told => by cases told
  | step _ move ih =>
    obtain ⟨equipped, one, tended, remembers⟩ := ih
    refine ⟨?_, oneDelivery_step one move, tended_step tended marked equipped one move,
      remembers_step remembers move⟩
    cases move using Machine.Move.elim with
    | work b i rest => exact (exec_effect i b).equipped equipped
    | _ => exact equipped

/-- The producer waits although nothing is left: the credit was used up before the inbox could
tell. It will tell on the next grant, by a fetch or by resuming. -/
structure Owed (m : Live κ α) : Prop where
  spent : m.state.credit = 0
  waits : m.state.overflow = true
  next_grant : ∀ amount is, 0 < amount → ∃ d m', m.state.onDrained = some d ∧
    Machine.Alone component (m.invoke (.grant amount :: is))
      [.silent, .silent, .called (.drained d)] m'

lemma raise_pos {amount : Nat} (positive : 0 < amount) : raise 0 amount ≠ 0 := by
  have limit : 0 < unlimited := by decide
  rw [raise]
  omega

lemma owed_of_spent (spent : m.state.credit = 0) (waits : m.state.overflow = true)
    (equipped : Equipped mark m.state) (free : m.state.emitting = false)
    (empty : m.state.pending = []) : Owed m := by
  refine ⟨spent, waits, fun amount is positive => ?_⟩
  obtain ⟨d, known⟩ := Option.ne_none_iff_exists'.mp equipped.onDrained
  obtain ⟨k, consumer⟩ := Option.ne_none_iff_exists'.mp equipped.consumer
  have credited : raise m.state.credit amount ≠ 0 := by
    rw [spent]
    exact raise_pos positive
  have tells : ∀ rest : Agenda κ α, Machine.step component
      ⟨{ m.state with credit := raise m.state.credit amount }, .todo (.work .deliver) :: rest⟩ =
      some (.silent, ⟨{ m.state with credit := raise m.state.credit amount, overflow := false },
        .todo (.call (.drained d)) :: rest⟩) := by
    intro rest
    simp [Machine.step, component, exec, isPaused, free, credited, consumer, empty, waits, known]
  exact ⟨d, _, known, .next rfl (.next (tells _) (.next rfl .stop))⟩

/-- A producer that was told to back off, and that finds the inbox empty when all calls have
returned, was told so since, or the credit was used up before: then it is told on the next
grant. -/
theorem relieved_or_owed (marked : 0 < mark) (before : EquippedRuns mark k d h m₁)
    (refused : m₁.agenda.head? = some (.todo (.note (.pushed false))))
    (later : Machine.Run component (Machine.InTurn component Request) m₁ h' m)
    (returned : m.agenda = []) (empty : m.state.pending = []) : Relieved h' ∨ Owed m := by
  have owing : Owing h' m := by
    clear returned empty
    induction later with
    | start =>
      refine .inr (.inr ((relief_invariants marked before).2.2.2.overflow ?_))
      rw [answers, List.mem_flatMap]
      exact ⟨_, List.mem_of_mem_head? refused, List.mem_singleton.mpr rfl⟩
    | step later move ih =>
      exact owing_step ih (relief_invariants marked (before.append later)).1 move
  obtain ⟨equipped, one, tended, _⟩ := relief_invariants marked (before.append later)
  rcases owing with relieved | due | overflow
  · exact .inl relieved
  · rw [returned] at due
    cases due
  · have spent : m.state.credit = 0 := by
      by_contra credited
      have underway := tended credited (.inr overflow)
      rw [returned] at underway
      cases underway
    have free : m.state.emitting = false := by
      rw [OneDelivery, returned] at one
      exact Bool.toNat_eq_zero.mp one.symm
    exact .inr (owed_of_spent spent overflow equipped free empty)

/-- The consumer takes every item. -/
def taken : (c : Call Nat Nat) → Reply c
  | .consume _ _ => .success
  | .fault _ _ | .drained _ => ()

/-- A paused inbox with a mark of two has just refused the second item. -/
def refusing : Past Nat Nat × Live Nat Nat :=
  Machine.drive component 11 [.ask [.pause], .ask (offer 1), .ask (offer 2)]
    (.idle (equipped 2 0 1))

/-- The consumer resumes. -/
def resumedAfter : Past Nat Nat × Live Nat Nat :=
  Machine.drive component 20 [.ask resumed, .reply taken, .reply taken, .reply taken] refusing.2

/-- The consumer asks for two items, which is all there is. -/
def fetchedAfter : Past Nat Nat × Live Nat Nat :=
  Machine.drive component 20 [.ask (fetch 2), .reply taken, .reply taken] refusing.2

lemma refusing_runs : EquippedRuns 2 0 1 refusing.1 refusing.2 := driven_run rfl

lemma fetchedAfter_run : Machine.Run component (Machine.InTurn component Request) refusing.2
    fetchedAfter.1 fetchedAfter.2 := driven_run rfl

theorem relieved_resumedAfter :
    EquippedRuns 2 0 1 refusing.1 refusing.2 ∧ Relieved resumedAfter.1 ∧ Owed fetchedAfter.2 := by
  refine ⟨refusing_runs, ?_, ?_⟩
  · have run : Machine.Run component (Machine.InTurn component Request) refusing.2
        resumedAfter.1 resumedAfter.2 :=
      Machine.drive_run (fun _ _ waits asked => ⟨waits, request_of_isRequest asked⟩) _ _ _ rfl
    refine (relieved_or_owed Nat.two_pos refusing_runs rfl run rfl rfl).resolve_right ?_
    exact fun owed => absurd owed.spent (by decide)
  · exact (relieved_or_owed Nat.two_pos refusing_runs rfl fetchedAfter_run rfl rfl).resolve_left
      Bool.false_ne_true

def clears : Act (Instr κ α) (Call κ α) Note Reply → Bool
  | .own (.work .clear) => true
  | _ => false

/-- Emptying a refusing inbox is not enough for the producer to be told. -/
theorem not_relieved_of_empty :
    ¬ (∀ (h h' : Past Nat Nat) (m₁ m : Live Nat Nat), EquippedRuns 2 0 1 h m₁ →
      m₁.agenda.head? = some (.todo (.note (.pushed false))) →
      Machine.Run component (Machine.InTurn component Request) m₁ h' m →
      h'.any (fun b => clears b.2) = false → m.agenda = [] → m.state.pending = [] →
      Relieved h') := by
  intro all
  have silent : ¬ Relieved fetchedAfter.1 := Bool.false_ne_true
  exact silent (all _ _ refusing.2 fetchedAfter.2 refusing_runs rfl fetchedAfter_run rfl rfl rfl)

end StreamControl.Inbox
