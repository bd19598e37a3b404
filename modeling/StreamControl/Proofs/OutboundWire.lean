import StreamControl.Proofs.Allocation
import StreamControl.Proofs.StreamProgress

/-!
# What the connection is handed

The writes that wait are handed to the connection in the order in which the loop came to them.
Gate, writability and allocation only decide when: at every moment the frames that went out are
the first of the writes that were queued, and all others wait in the outbox or have failed. Which
protocol stream a frame goes to, and with which priority, is settled when its write passes the
gate.
-/

namespace StreamControl

/-- A write as it is handed over once it passes the gate. -/
def Write.frame {η : Type} (id : Nat) (priority : Priority) : Write η → Primitive η
  | headers block fin flush p => .sendHeaders id block fin priority flush p
  | data chunk fin p => .sendData id (chunk.getD .empty) fin p

namespace Endpoint

variable {η : Type} {allowed : Thread → Operation η → Prop} {o : Options} {owner : Thread}
  {h : Past η} {m m' : Live η} {rest agenda : Agenda η} {a : Deed η} {i : StreamInstr η}
  {e : Endpoint η} {q : PromiseId → Bool} {p : Primitive η}

/-- The gate looks at a write. -/
def isTest : Deed η → Bool
  | .own (.work (.attempt _)) => true
  | _ => false

/-- A primitive hands over what the gate last looked at. The gate saw an allocated and writable
stream: the frame goes out on the protocol stream that had been bound first, and headers have the
priority that the stream had then. -/
def LetPass (h : Past η) (p : Primitive η) : Prop :=
  ∃ before m₁ w id after, h = before ++ (m₁, .own (.work (.attempt w))) :: after ∧
    after.any (fun b => isTest b.2) = false ∧ m₁.state.stream.slot = .allocated id ∧
    firstBound before = some id ∧ m₁.state.stream.writable = true ∧
    p = w.frame id m₁.state.stream.priority

/-- A primitive hands over a write with a promise that `q` tells. -/
def Hands (q : PromiseId → Bool) (p : Primitive η) : Prop :=
  (frameOf (.conn p)).filter (q ·.promise) ≠ []

lemma LetPass.later {b : Live η × Deed η} (passed : LetPass h p) (no_test : isTest b.2 = false) :
    LetPass (h ++ [b]) p := by
  obtain ⟨before, m₁, w, id, after, rfl, untested, seen⟩ := passed
  refine ⟨before, m₁, w, id, after ++ [b], by simp, ?_, seen⟩
  rw [List.any_append, untested, List.any_cons, no_test]
  rfl

/-! ## Every frame passed the gate -/

/-- Every frame that is handed over next passed the gate when this looked at it. -/
def Passed (q : PromiseId → Bool) (h : Past η) (agenda : Agenda η) : Prop :=
  ∀ p, .todo (.call (.conn p)) ∈ agenda → Hands q p → LetPass h p

lemma not_hands_of_atGate (none_at_gate : atGate q agenda = [])
    (due : .todo (.call (.conn p)) ∈ agenda) : ¬ Hands q p :=
  not_not_intro (List.flatMap_eq_nil_iff.mp none_at_gate _ due)

lemma letPass_attempt {w : Write η} (bound : e.stream.slot.id? = firstBound h)
    (due : .call (.conn p) ∈ (e.attempt w).2) (hands : Hands q p) (rest : Agenda η) :
    LetPass (h ++ [(⟨e, .todo (.work (.attempt w)) :: rest⟩, .own (.work (.attempt w)))]) p := by
  unfold attempt at due
  split at due
  · simp at due
  · simp at due
  · rename_i id slot writable
    rw [slot] at bound
    refine ⟨h, _, w, id, [], rfl, rfl, slot, bound.symm, writable, ?_⟩
    cases w with
    | headers block fin flush r => cases fin <;> simpa [headersOut, Write.frame] using due
    | data chunk fin r =>
      have cases : p = .countWritten (chunk.getD .empty).size ∨
          p = .sendData id (chunk.getD .empty) fin r := by
        cases fin <;> simpa [trace] using due
      rcases cases with rfl | same
      · exact absurd rfl hands
      · exact same

/-- Apart from the gate, nothing hands over a write that waits. -/
lemma not_hands_exec (no_attempt : ∀ w, i ≠ .attempt w)
    (direct : ∀ job, i = .perform job → ∀ r ∈ hurries job, q r = false)
    (due : .call (.conn p) ∈ (exec i e).2) : ¬ Hands q p := by
  have left : .todo (.call (.conn p)) ∈ (exec i e).2.map Entry.todo := List.mem_map_of_mem due
  cases i with
  | perform job =>
    exact not_hands_of_atGate (perform_queues e job (direct job rfl)).1 left
  | attempt w => exact absurd rfl (no_attempt w)
  | outbox j => cases exec_leaves _ e _ due
  | _ => exact not_hands_of_atGate (atGate_exec (by simp) (by simp) (by simp)) left

/-- While the gate looks at one write, no other is on its way out. -/
lemma passed_attempt {w : Write η} (bound : e.stream.slot.id? = firstBound h)
    (gated : Gated q (.todo (.work (.attempt w)) :: rest))
    (tended : Tended ⟨e, .todo (.work (.attempt w)) :: rest⟩) :
    Passed q (h ++ [(⟨e, .todo (.work (.attempt w)) :: rest⟩, .own (.work (.attempt w)))])
      ((exec (.attempt w) e).2.map .todo ++ rest) := by
  have idle : gateWork rest = 0 := by
    have one := tended.one
    have le_one := Bool.toNat_le e.stream.outbox.testing
    simp only [gateWork_cons, isGateWork, if_true] at one
    omega
  intro p due hands
  rcases List.mem_append.mp due with now | below
  · obtain ⟨x, hx, same⟩ := List.mem_map.mp now
    obtain rfl := Entry.todo.inj same
    exact letPass_attempt bound hx hands rest
  · exact absurd hands (not_hands_of_atGate (gated.2.atGate_eq_nil idle) below)

lemma passed_work (bound : e.stream.slot.id? = firstBound h)
    (passed : Passed q h (.todo (.work i) :: rest))
    (gated : Gated q (.todo (.work i) :: rest)) (tended : Tended ⟨e, .todo (.work i) :: rest⟩)
    (direct : ∀ job, i = .perform job → ∀ r ∈ hurries job, q r = false) :
    Passed q (h ++ [(⟨e, .todo (.work i) :: rest⟩, .own (.work i))])
      ((exec i e).2.map .todo ++ rest) := by
  by_cases tests : ∃ w, i = .attempt w
  · obtain ⟨w, rfl⟩ := tests
    exact passed_attempt bound gated tended
  · have no_attempt : ∀ w, i ≠ .attempt w := fun w same => tests ⟨w, same⟩
    have no_test : isTest (.own (.work i) : Deed η) = false := by
      cases i with
      | attempt w => exact absurd rfl (no_attempt w)
      | _ => rfl
    intro p due hands
    rcases List.mem_append.mp due with now | below
    · obtain ⟨x, hx, same⟩ := List.mem_map.mp now
      obtain rfl := Entry.todo.inj same
      exact absurd hands (not_hands_exec no_attempt direct hx)
    · exact (passed p (List.mem_cons_of_mem _ below) hands).later no_test

lemma passed_step (bound : m.state.stream.slot.id? = firstBound h)
    (passed : Passed q h m.agenda) (gated : Gated q m.agenda) (tended : Tended m)
    (tells : TellsDone q (h ++ [(m, a)]))
    (move : Machine.Move component (Called allowed) m a m') :
    Passed q (h ++ [(m, a)]) m'.agenda := by
  cases move using Machine.Move.elim with
  | work e i rest =>
    refine passed_work bound passed gated tended ?_
    rintro job rfl r hr
    refine tells.hurried r ?_
    rw [done_snoc]
    exact List.mem_append_right _ hr
  | call e c rest | note e s rest =>
    refine fun p due hands => (passed p (List.mem_cons_of_mem _ ?_) hands).later rfl
    simpa using due
  | invoke m is called =>
    intro p due hands
    refine (passed p ?_ hands).later rfl
    cases called <;> simpa [Machine.invoke] using due
  | reply e c rest f =>
    intro p due hands
    have none_resumed : atGate q ((component.resume c (f c)).map .todo : Agenda η) = [] :=
      view_resume (fun _ _ => rfl) (fun _ => rfl) c (f c)
    rcases List.mem_append.mp due with resumed | below
    · exact absurd hands (not_hands_of_atGate none_resumed resumed)
    · exact (passed p (List.mem_cons_of_mem _ below) hands).later rfl

lemma passed_of_runs (run : RunsFreely allowed o owner h m) (tells : TellsDone q h) :
    Passed q h m.agenda := by
  induction run with
  | start => exact nofun
  | step run move ih =>
    obtain ⟨left, lined, _⟩ := queued_of_runs run tells.before
    exact passed_step (id?_eq_firstBound run) (ih tells.before) lined.gated
      (tended_of_runs (anyhow_of_freely (fun _ _ may => may) run)).1 tells move

/-! ## What went out, and what did not -/

/-- The promise of a write that has to wait, as opposed to headers that are sent right away. -/
def waits (h : Past η) (p : PromiseId) : Bool := !(asked hurries h).contains p

/-- The connection is handed the writes that wait in the order in which they were queued. -/
structure OnWire (allowed : Thread → Operation η → Prop) (h : Past η) (m : Live η) : Prop where
  in_order : waitingFrames h <+: done queues h
  /-- The others are at the gate, left behind in the outbox, or submitted to it next. -/
  whole : ∃ left, done queues h =
      waitingFrames h ++ atGate (waits h) m.agenda ++ left.map Write.out ++ submitting m.agenda ∧
    Behind left h m
  /-- At rest the others are pending, or the outbox is closed and they have failed. -/
  at_rest : m.agenda = [] → ∃ left, done queues h = waitingFrames h ++ left.map Write.out ∧
    (m.state.stream.outbox.closed = none → left = m.state.stream.outbox.pending) ∧
    (m.state.stream.outbox.closed ≠ none → ∀ w ∈ left, HasFailed w h)
  /-- They are only delayed: an open gate keeps none back, unless the loop is left. -/
  released : (∀ t op, allowed t op → Kept t op) → AtRest m → MayPass m.state.stream →
    waitingFrames h = done queues h
  /-- Each frame passed the gate when this last looked at a write. -/
  passed : ∀ before m₁ p after, h = before ++ (m₁, .own (.call (.conn p))) :: after →
    Hands (waits h) p → LetPass before p
  /-- What is bound was given to an allocation. -/
  bound : ∀ id, firstBound h = some id → id ∈ allocations h

lemma tellsDone_of_apart (run : RunsFreely allowed o owner h m) (apart : PromisesApart h) :
    TellsDone (waits h) h := by
  have anyhow := anyhow_of_freely (fun _ _ may => may) run
  have done_asked {β : Type} {f : Job η → List β} (of_calls : OfCalls f) {x : β}
      (was_done : x ∈ done f h) : x ∈ asked f h := by
    refine asked_of_placed of_calls anyhow ?_
    simp [placed, was_done]
  have tells := tells_of_apart apart
  exact ⟨fun w hw => tells.waiting w (done_asked queues_ofCalls hw),
    fun p hp => tells.hurried p (done_asked hurries_ofCalls hp)⟩

lemma TellsDone.of_append {h' : Past η} (tells : TellsDone q (h ++ h')) : TellsDone q h := by
  induction h' using List.reverseRecOn with
  | nil => simpa using tells
  | append_singleton h' b ih =>
    rw [← List.append_assoc] at tells
    exact ih tells.before

/-- Let no promise go both with a write that waits and with headers that are sent right away.
Whatever is called on any thread, by hooks and by primitives, the connection is handed the first of
the writes that wait, in their order, and keeping them back only delays them. -/
theorem onWire_of_runs (run : RunsFreely allowed o owner h m) (apart : PromisesApart h) :
    OnWire allowed h m := by
  have tells := tellsDone_of_apart run apart
  obtain ⟨left, lined, behind⟩ := queued_of_runs run tells
  have whole : done queues h = waitingFrames h ++ atGate (waits h) m.agenda ++
      left.map Write.out ++ submitting m.agenda := lined.whole
  have rested (returned : m.agenda = []) :
      done queues h = waitingFrames h ++ left.map Write.out := by
    rw [whole, returned]
    simp [atGate, submitting]
  refine ⟨?_, ⟨left, whole, behind⟩, fun returned => ⟨left, rested returned, behind.pending, ?_⟩,
    ?_, ?_, (allocated_of_runs (anyhow_of_freely (fun _ _ may => may) run)).2⟩
  · rw [whole, List.append_assoc, List.append_assoc]
    exact List.prefix_append _ _
  · intro closed w hw
    refine (behind.given_up closed w hw).resolve_right ?_
    rintro ⟨cause, noted⟩
    rw [returned] at noted
    cases noted
  · intro keeps rests passes
    have progressing := progressing_of_runs (run.mono fun _ _ called => called.mono keeps)
    have empty : m.state.stream.outbox.pending = [] := by
      by_contra kept
      rcases progressing passes (.inl kept) with due | posted
      · rw [rests.returned] at due
        cases due
      · rw [rests.none_posted] at posted
        cases posted
    rw [rested rests.returned, behind.pending passes.opened, empty]
    exact (List.append_nil _).symm
  · rintro before m₁ p after split hands
    obtain ⟨earlier, m₂, move, _⟩ := Machine.Run.split (split ▸ run)
    rw [split] at tells
    cases move using Machine.Move.elim with
    | call e c rest =>
      exact passed_of_runs earlier tells.of_append p List.mem_cons_self (split ▸ hands)

/-- Another thread posts an empty write, and the loop queues headers and changes the priority before
it makes a pass. Both writes wait for the allocation. Then the headers go out, and the hook for
the end that they carry turns the writability off and allocates the stream once more; the empty
write is still pending when the stream is closed. -/
def heldBack : Past Nat × Live Nat :=
  Machine.drive component 150
    [.ask [.enter 1 (.writeData none false 7)], .ask [.enter 0 (.writeHeaders 5 false true true 8)],
      .ask [.enter 0 (.setPriority (Priority.initial.withDependency 3))], .ask [.enter 0 .runLoop],
      .ask [.enter 0 (.allocate 1)], .reply (plainly true .success),
      .reply (plainly true .success), .ask [.enter 0 .toggleWritable],
      .ask [.enter 0 (.allocate 3)], .reply (plainly false .success),
      .reply (plainly true .success), .ask [.enter 0 .close], .reply (plainly true .success),
      .reply (plainly true .success)]
    (.idle (fresh .standard 0))

theorem onWire_heldBack :
    Runs true .standard 0 heldBack.1 heldBack.2 ∧
      OnWire (fun _ _ => True) heldBack.1 heldBack.2 ∧
      done queues heldBack.1 = [.headers 5 true true 8, .data (some .empty) false 7] ∧
      waitingFrames heldBack.1 = [.headers 5 true true 8] ∧
      failures heldBack.1 = [(7, .closed)] ∧ firstBound heldBack.1 = some 1 ∧
      allocations heldBack.1 = [1, 3] ∧ heldBack.2.agenda = [] := by
  have run : Runs true .standard 0 heldBack.1 heldBack.2 :=
    Machine.drive_run (fun _ _ => request_of_isRequest) _ _ _ rfl
  have apart : PromisesApart heldBack.1 := by
    have none_hurried : asked hurries heldBack.1 = [] := rfl
    rw [PromisesApart, none_hurried]
    exact fun _ _ => List.not_mem_nil
  exact ⟨run, onWire_of_runs (freely_of_runs run) apart, rfl, rfl, rfl, rfl, rfl, rfl⟩

end Endpoint

end StreamControl
