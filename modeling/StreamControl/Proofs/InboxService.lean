import StreamControl.Proofs.InboxRelief

/-!
# Nothing is left behind on credit

A delivery stops at an item in hand, and what was written or granted meanwhile is left to the
delivery that is underway. So as long as there is credit, whatever is buffered is due to be
delivered by some entry of the agenda, and nothing is left once that is empty. Registering a
consumer is the one thing that finds items nobody is about to deliver: no callback can do this
for the first consumer, as there is no callback before it.
-/

namespace StreamControl.Inbox

variable {κ α : Type} {mark : Nat} {i : Instr κ α} {b b' : Inbox κ α}
  {out : List (Todo (Instr κ α) (Call κ α) Note)} {h h' : Past κ α} {m m₁ m' : Live κ α}
  {rest : Agenda κ α} {a : Act (Instr κ α) (Call κ α) Note Reply}

/-- What is asked of an inbox in order that it delivers. -/
inductive AsksDelivery : List (Instr κ α) → Prop
  | write (a : α) : AsksDelivery (offer a)
  | fetch (amount : Nat) : AsksDelivery (fetch amount)
  | resume : AsksDelivery resumed

/-- The operation `is` was asked for while the inbox was at rest, and it has just returned. -/
structure HasReturned (is : List (Instr κ α)) (h : Past κ α) (m : Live κ α) : Prop where
  asked : ∃ before m₀ after, h = before ++ (m₀, .invoke is) :: after ∧ m₀.agenda = [] ∧
    ∀ b ∈ after, b.1.agenda ≠ []
  rests : m.agenda = []

/-- Some consumer was registered before the first item was written. -/
def RegisteredFirst (h : Past κ α) : Prop :=
  ∃ before m k after, h = before ++ (m, .own (.work (.setConsumer k))) :: after ∧
    written before = []

/-! ## A consumer is there -/

/-- An entry belongs to a delivery, or it leads to one. -/
def isDue : Entry (Instr κ α) (Call κ α) Note → Bool
  | .todo (.work (.push _)) | .todo (.work (.grant _)) => true
  | x => isUnderway x

/-- While there is credit for what is buffered, it is due to be delivered. -/
def Served (m : Live κ α) : Prop :=
  m.state.credit ≠ 0 → m.state.pending ≠ [] → m.agenda.any isDue = true

lemma any_due_of_underway {agenda : Agenda κ α} (underway : agenda.any isUnderway = true) :
    agenda.any isDue = true := by
  rw [List.any_eq_true] at underway ⊢
  obtain ⟨x, hx, is_underway⟩ := underway
  refine ⟨x, hx, ?_⟩
  unfold isDue
  split
  · rfl
  · rfl
  · exact is_underway

/-- A delivery leaves something for the one underway, or there is no credit for it. -/
lemma served_of_effect (effect : Effect i b b' out) (consumer : b.consumer ≠ none)
    (one : OneDelivery ⟨b, .todo (.work i) :: rest⟩)
    (served : Served ⟨b, .todo (.work i) :: rest⟩) : Served ⟨b', out.map .todo ++ rest⟩ := by
  intro credited pending
  cases effect with
  | pushed | granted | consumed => simp [isDue, isUnderway]
  | hands => simp [isDue, isUnderway, isDelivery]
  | waits busy =>
    rcases busy with busy | spent | missing
    · have one_rest : deliveries rest = b.emitting.toNat := by
        simpa [OneDelivery, isDelivery] using one
      exact any_due_of_underway (any_underway_of_emitting busy one_rest)
    · exact absurd spent credited
    · exact absurd missing consumer
  | emptied _ _ _ empty => exact absurd empty pending
  | paused => exact absurd rfl credited
  | cleared => exact absurd rfl pending
  | settled | counted | consumerSet | onFaultSet | onDrainedSet =>
    simpa [isDue, isUnderway, isDelivery] using served credited pending

lemma Effect.consumer_ne_none (effect : Effect i b b' out) (consumer : b.consumer ≠ none) :
    b'.consumer ≠ none := by
  cases effect with
  | consumerSet => exact Option.some_ne_none _
  | _ => exact consumer

lemma served_step (served : Served m) (consumer : m.state.consumer ≠ none) (one : OneDelivery m)
    (move : Moves m a m') : Served m' ∧ m'.state.consumer ≠ none := by
  cases move using Machine.Move.elim with
  | work b i rest =>
    have effect := exec_effect i b
    exact ⟨served_of_effect effect consumer one served, effect.consumer_ne_none consumer⟩
  | call b c rest =>
    refine ⟨?_, consumer⟩
    cases c with
    | consume k a => simp [Served, isDue, isUnderway, isDelivery]
    | fault k cause | drained k => simpa [Served, isDue, isUnderway, isDelivery] using served
  | note b e rest => exact ⟨by simpa [Served, isDue, isUnderway, isDelivery] using served, consumer⟩
  | invoke m is asked =>
    refine ⟨fun credited pending => ?_, consumer⟩
    rw [Machine.invoke, List.any_append, served credited pending, Bool.or_true]
  | reply b c rest f =>
    refine ⟨?_, consumer⟩
    cases c with
    | consume k a => exact fun _ _ => rfl
    | fault k cause | drained k =>
      simpa [Served, component, resume, isDue, isUnderway, isDelivery] using served

/-- Once there is a consumer and all that can be delivered is due to be, this goes on for good. -/
lemma served_of_run (before : Runs mark h m₁) (served : Served m₁)
    (consumer : m₁.state.consumer ≠ none)
    (later : Machine.Run component (Machine.InTurn component Request) m₁ h' m) :
    Served m ∧ m.state.consumer ≠ none := by
  induction later with
  | start => exact ⟨served, consumer⟩
  | step later move ih =>
    exact served_step ih.1 ih.2 (delivery_invariants (before.append later)).1 move

lemma Served.none_left (served : Served m) (returned : m.agenda = []) :
    m.state.pending = [] ∨ m.state.credit = 0 := by
  by_contra! left
  have due := served left.2 left.1
  rw [returned] at due
  cases due

/-! ## No consumer is there -/

/-- An entry neither calls out nor registers a consumer. -/
def isQuiet : Entry (Instr κ α) (Call κ α) Note → Bool
  | .todo (.work (.consumed _)) | .todo (.work (.setConsumer _)) | .todo (.call _) | .held _ =>
    false
  | _ => true

/-- There is no consumer, and the operation that is underway does not register one. -/
structure Unattended (m : Live κ α) : Prop where
  consumer : m.state.consumer = none
  quiet : ∀ x ∈ m.agenda, isQuiet x = true

/-- Without a consumer nothing is called, so the surroundings are not in control before the
operation has returned. -/
lemma unattended_step (unattended : Unattended m) (working : m.agenda ≠ [])
    (move : Moves m a m') : Unattended m' := by
  obtain ⟨consumer, quiet⟩ := unattended
  cases move using Machine.Move.elim with
  | work b i rest =>
    obtain ⟨quiet_head, quiet_rest⟩ := List.forall_mem_cons.mp quiet
    have effect := exec_effect i b
    simp only [component]
    generalize (exec i b).1 = b' at *
    generalize (exec i b).2 = out at *
    cases effect with
    | hands _ _ known => exact absurd (known.symm.trans consumer) (Option.some_ne_none _)
    | emptied _ _ known => exact absurd consumer known
    | consumed | consumerSet => cases quiet_head
    | _ => exact ⟨consumer, by simpa [isQuiet] using quiet_rest⟩
  | call b c rest => cases quiet _ List.mem_cons_self
  | note b e rest => exact ⟨consumer, fun x hx => quiet x (List.mem_cons_of_mem _ hx)⟩
  | invoke m is asked =>
    rcases m with ⟨b, _ | ⟨t | c, rest⟩⟩
    · exact absurd rfl working
    · exact absurd rfl (Machine.step_eq_none_iff.mp asked.1 t rest)
    · cases quiet _ List.mem_cons_self
  | reply b c rest f => cases quiet _ List.mem_cons_self

lemma unattended_of_run (unattended : Unattended m₁)
    (later : Machine.Run component (Machine.InTurn component Request) m₁ h' m)
    (working : ∀ b ∈ h', b.1.agenda ≠ []) : Unattended m := by
  induction later with
  | start => exact unattended
  | step _ move ih =>
    obtain ⟨working_before, working_now⟩ := List.forall_mem_append.mp working
    exact unattended_step (ih working_before) (working_now _ (List.mem_singleton_self _)) move

/-! ## What is left -/

/-- What an inbox leaves in the buffer when all calls have returned. -/
structure LeavesNone (h : Past κ α) (m : Live κ α) : Prop where
  returned : ∀ is, AsksDelivery is → HasReturned is h m → m.state.consumer ≠ none →
    m.state.pending = [] ∨ m.state.credit = 0
  registered : RegisteredFirst h → m.agenda = [] → m.state.pending = [] ∨ m.state.credit = 0

/-- Whatever the callbacks did meanwhile, a write, a fetch or a resume that was asked for at rest
leaves nothing behind that there is credit for, unless there is no consumer. If a consumer was
there before the first item, no operation does. -/
theorem leavesNone_of_runs (run : Runs mark h m) : LeavesNone h m := by
  constructor
  · rintro is delivery ⟨⟨before, m₀, after, rfl, rested, working⟩, rests⟩ consumer
    obtain ⟨first, m₁, move, later⟩ := run.split
    obtain ⟨-, rfl⟩ := Machine.move_iff.mp move
    have agenda_eq : (m₀.invoke is).agenda = is.map (.todo ∘ .work) := by
      rw [Machine.invoke, rested, List.append_nil]
    -- a callback could register the consumer, but without one no callback is made
    by_cases registered : m₀.state.consumer = none
    · have unattended : Unattended (m₀.invoke is) := by
        refine ⟨registered, ?_⟩
        rw [agenda_eq]
        cases delivery <;> simp [offer, fetch, resumed, isQuiet]
      exact absurd (unattended_of_run unattended later working).consumer consumer
    · have served : Served (m₀.invoke is) := by
        intro _ _
        rw [agenda_eq]
        cases delivery <;> rfl
      exact (served_of_run (first.step move) served registered later).1.none_left rests
  · rintro ⟨before, m₀, k, after, rfl, none_written⟩ rests
    obtain ⟨first, m₁, move, later⟩ := run.split
    have none_pending : m₀.state.pending = [] := by
      have lossless := (orderly_of_runs first).lossless
      rw [none_written, List.nil_eq, List.append_eq_nil_iff] at lossless
      exact lossless.2
    have state_eq : m₁.state = { m₀.state with consumer := some k } := by
      cases move using Machine.Move.elim with
      | work b i rest => rfl
    have served : Served m₁ := by
      intro _ pending
      rw [state_eq] at pending
      exact absurd none_pending pending
    have consumer : m₁.state.consumer ≠ none := by
      rw [state_eq]
      exact Option.some_ne_none k
    exact (served_of_run (first.step move) served consumer later).1.none_left rests

/-- An item comes in before there is a consumer. -/
def registeredLate : Past Nat Nat × Live Nat Nat :=
  Machine.drive component 20 [.ask (offer 1), .ask [.setConsumer 0], .ask [.setOnFault 1]]
    (.idle (fresh 2))

/-- A fetch brings the item. With this one in hand, two more come in, and the consumer pauses and
fails; whoever is told of the failure fetches one more. -/
def fetchedOnFault : Past Nat Nat × Live Nat Nat :=
  Machine.drive component 60
    [.ask (fetch 0), .ask (offer 2), .ask (offer 3), .ask [.pause],
      .reply fun | .consume _ _ => .failure .closed | .fault _ _ | .drained _ => (),
      .ask (fetch 1), .reply taken, .reply taken] registeredLate.2

/-- The consumer was there first, and pauses with the first item in hand. -/
def pausedInHand : Past Nat Nat × Live Nat Nat :=
  Machine.drive component 40
    [.ask [.setConsumer 0], .ask (offer 1), .ask (offer 2), .ask [.pause], .reply taken]
    (.idle (fresh 2))

lemma registeredLate_runs : Runs 2 registeredLate.1 registeredLate.2 := driven_run rfl

lemma fetchedOnFault_runs : Runs 2 (registeredLate.1 ++ fetchedOnFault.1) fetchedOnFault.2 :=
  registeredLate_runs.append (driven_run rfl)

lemma fetchedOnFault_returned :
    HasReturned (fetch 0) (registeredLate.1 ++ fetchedOnFault.1) fetchedOnFault.2 := by
  have working : fetchedOnFault.1.tail.all (fun b => !b.1.agenda.isEmpty) = true := rfl
  refine ⟨⟨registeredLate.1, registeredLate.2, fetchedOnFault.1.tail, rfl, rfl, ?_⟩, rfl⟩
  intro b hb
  have working_then := List.all_eq_true.mp working b hb
  intro empty
  simp [empty] at working_then

/-- The item that came too early is left although there is credit for it. From the fetch on, what
is left is left for want of credit. -/
theorem leavesNone_fetchedOnFault :
    registeredLate.2.state.pending = [1] ∧ registeredLate.2.state.credit = unlimited ∧
      Runs 2 (registeredLate.1 ++ fetchedOnFault.1) fetchedOnFault.2 ∧
      LeavesNone (registeredLate.1 ++ fetchedOnFault.1) fetchedOnFault.2 ∧
      HasReturned (fetch 0) (registeredLate.1 ++ fetchedOnFault.1) fetchedOnFault.2 ∧
      consumed fetchedOnFault.1 = [1, 2] ∧ fetchedOnFault.2.state.pending = [3] ∧
      Runs 2 pausedInHand.1 pausedInHand.2 ∧ LeavesNone pausedInHand.1 pausedInHand.2 ∧
      RegisteredFirst pausedInHand.1 ∧ pausedInHand.2.agenda = [] ∧
      pausedInHand.2.state.pending = [2] := by
  have paused_runs : Runs 2 pausedInHand.1 pausedInHand.2 := driven_run rfl
  exact ⟨rfl, rfl, fetchedOnFault_runs, leavesNone_of_runs fetchedOnFault_runs,
    fetchedOnFault_returned, rfl, rfl, paused_runs, leavesNone_of_runs paused_runs,
    ⟨pausedInHand.1.take 1, _, 0, pausedInHand.1.drop 2, rfl, rfl⟩, rfl, rfl⟩

end StreamControl.Inbox
