import StreamControl.Proofs.InboundOrder
import StreamControl.Proofs.StreamPassage

/-!
# What the consumer gets of a stream that ends

A stream accepts what is received until it ends. A close lets the consumer have what was accepted;
a reset takes away what the consumer has not been handed, also if it comes from inside the
consumer, whose inbox goes on with its deliveries afterwards.
-/

namespace StreamControl.Endpoint

variable {η : Type} {may : Live η → List (StreamInstr η) → Prop} {o : Options} {owner : Thread}
  {h : Past η} {m m' : Live η} {rest agenda : Agenda η} {a : Deed η} {i : StreamInstr η}
  {e : Endpoint η} {connect : Bool}

/-- A reset takes effect, or comes after another one. One that is to be sent comes too late for an
allocated stream that has ended. -/
def resets (b : Live η × Deed η) : Bool :=
  match b.2 with
  | .own (.work (.perform (.reset _))) => true
  | .own (.work (.perform (.writeReset _))) =>
    !(b.1.state.stream.slot.isAllocated && b.1.state.stream.hasEnded)
  | _ => false

def hasResetBy (h : Past η) : Bool := h.any resets

lemma resets_eq (b : Live η × Deed η) : resets b = (resetOf b).isSome := by
  unfold resets resetOf
  cases late : b.1.state.stream.slot.isAllocated && b.1.state.stream.hasEnded <;>
    split <;> simp [*]

/-- Whether a stream was reset is written in its history. -/
lemma isReset_eq (run : Machine.Run component may (.idle (fresh o owner)) h m) :
    m.state.stream.resetCode.isSome = hasResetBy h := by
  rw [resetCode_eq run, firstReset, hasResetBy, Bool.eq_iff_iff, List.findSome?_isSome_iff,
    List.any_eq_true]
  simp only [resets_eq]

/-! ## After a reset -/

/-- After a reset the consumer is handed nothing more, and what it was handed is the beginning of
what the stream accepted. -/
def Stopped (h : Past η) (m : Live η) : Prop :=
  m.state.stream.resetCode ≠ none →
    inHand m.agenda = [] ∧ consumed h <+: accepted m.state.stream.connect h

lemma inHand_of_none_passing (none_passing : agenda.any isPassing = false) :
    inHand agenda = [] := by
  rw [List.any_eq_false] at none_passing
  rw [inHand, List.flatMap_eq_nil_iff]
  intro x hx
  have free := none_passing x hx
  unfold inHandEntry
  split
  · exact absurd rfl free
  · exact absurd rfl free
  · exact absurd rfl free
  · exact absurd rfl free
  · rfl

lemma prefix_accepted (b : Live η × Deed η) :
    accepted connect h <+: accepted connect (h ++ [b]) := by
  rw [accepted_snoc]
  exact List.prefix_append _ _

/-- The inbox of a stream that was reset has nothing to deliver. -/
lemma empty_at_inbox {j : Inbox.Instr Unit Item} (delivers : j = .deliver)
    (reset : e.stream.resetCode ≠ none)
    (clearing : Clearing ⟨e, .todo (.work (.inbox j)) :: rest⟩)
    (guarded : GuardedNow false ⟨e, .todo (.work (.inbox j)) :: rest⟩) :
    e.stream.inbox.pending = [] := by
  subst delivers
  have unlocked : Unlocked false rest := unlocked_of_guarded guarded rfl id
  refine (clearing.emptied (Option.isSome_iff_ne_none.mpr reset)).resolve_right ?_
  rw [List.any_cons, clearing.paired.2.none_clears unlocked]
  exact Bool.false_ne_true

lemma inHand_exec (in_hand : inHandEntry (.todo (.work i)) = [])
    (empty : i = .inbox .deliver → e.stream.inbox.pending = []) :
    inHand ((exec i e).2.map .todo) = [] := by
  cases i with
  | perform job => exact inHand_eq_nil (deliveries_perform e job)
  | deliver item | handOver bytes => cases in_hand
  | inbox j =>
    have handed := (@work_ofInbox η (Inbox.exec j e.stream.inbox).2).1
    have effect := Inbox.exec_effect j e.stream.inbox
    rw [show (exec (.inbox j) e).2 = (Inbox.exec j e.stream.inbox).2.flatMap ofInbox from rfl,
      handed]
    generalize (Inbox.exec j e.stream.inbox).1 = b' at *
    generalize (Inbox.exec j e.stream.inbox).2 = out at *
    cases effect with
    | hands free credited consumer pending =>
      rw [empty rfl] at pending
      cases pending
    | _ => simp [Inbox.inHandEntry]
  | _ => exact inHand_eq_nil (deliveries_plain rfl)

lemma stopped_work (stopped : Stopped h ⟨e, .todo (.work i) :: rest⟩)
    (accepting : Accepting h ⟨e, .todo (.work i) :: rest⟩)
    (clearing : Clearing ⟨e, .todo (.work i) :: rest⟩)
    (guarded : GuardedNow false ⟨e, .todo (.work i) :: rest⟩)
    (clear : CoveredNow passage ⟨e, .todo (.work i) :: rest⟩) :
    Stopped (h ++ [(⟨e, .todo (.work i) :: rest⟩, .own (.work i))])
      ⟨(exec i e).1, (exec i e).2.map .todo ++ rest⟩ := by
  intro reset
  rw [inHand_append, consumed_snoc, exec_connect,
    show consumes (.own (.work i) : Deed η) = [] from rfl, List.append_nil]
  by_cases before : e.stream.resetCode = none
  · -- Only a job resets a stream, and it finds no item on its way.
    have performs : ∃ job, i = .perform job := by
      by_contra none_performs
      refine reset ?_
      rw [(exec_flags fun job same => none_performs ⟨job, same⟩).1]
      exact before
    obtain ⟨job, rfl⟩ := performs
    have received := accepting.received before
    refine ⟨?_, List.IsPrefix.trans ?_ (prefix_accepted _)⟩
    · rw [inHand_of_none_passing (none_passing_of_clear clear rfl id),
        inHand_exec rfl (fun same => by cases same)]
      rfl
    · rw [received, List.append_assoc, List.append_assoc]
      exact List.prefix_append _ _
  · obtain ⟨none_in_hand, in_order⟩ := stopped before
    obtain ⟨none_first, none_below⟩ := List.append_eq_nil_iff.mp none_in_hand
    refine ⟨?_, in_order.trans (prefix_accepted _)⟩
    rw [show inHand rest = [] from none_below, List.append_nil]
    refine inHand_exec none_first ?_
    rintro rfl
    exact empty_at_inbox rfl before clearing guarded

lemma consumes_of_none_in_hand {may : Live η → List (StreamInstr η) → Prop}
    (move : Machine.Move component may m a m') (none_in_hand : inHand m.agenda = []) :
    consumes a = [] := by
  cases move using Machine.Move.elim with
  | call e c rest =>
    refine Eq.trans ?_ (List.append_eq_nil_iff.mp none_in_hand).1
    cases c with
    | conn p => rfl
    | hook k => cases k <;> rfl
  | _ => rfl

/-- Whatever is no work of the stream itself sends no item on its way. -/
lemma inHand_outer (outer : ∀ i, a ≠ .own (.work i))
    (move : Machine.Move component (Request true) m a m') (none_in_hand : inHand m.agenda = []) :
    inHand m'.agenda = [] := by
  cases move using Machine.Move.elim with
  | work e i rest => exact absurd rfl (outer i)
  | call e c rest | note e s rest => exact (List.append_eq_nil_iff.mp none_in_hand).2
  | invoke m is asked => cases asked <;> exact none_in_hand
  | reply e c rest f =>
    have none_resumed : inHand ((component.resume c (f c)).map .todo : Agenda η) = [] :=
      view_resume (fun _ _ => rfl) (fun _ => rfl) c (f c)
    rw [inHand_append, none_resumed]
    exact none_in_hand

lemma stopped_step (stopped : Stopped h m) (accepting : Accepting h m) (clearing : Clearing m)
    (guarded : GuardedNow false m) (clear : CoveredNow passage m)
    (move : Machine.Move component (Request true) m a m') : Stopped (h ++ [(m, a)]) m' := by
  by_cases works : ∃ i, a = .own (.work i)
  · obtain ⟨i, rfl⟩ := works
    cases move using Machine.Move.elim with
    | work e i rest => exact stopped_work stopped accepting clearing guarded clear
  · intro reset
    have outer : ∀ i, a ≠ .own (.work i) := fun i same => works ⟨i, same⟩
    have same : m'.state = m.state := move.state_eq outer
    rw [same] at reset ⊢
    obtain ⟨none_in_hand, in_order⟩ := stopped reset
    rw [consumed_snoc, consumes_of_none_in_hand move none_in_hand, List.append_nil]
    exact ⟨inHand_outer outer move none_in_hand, in_order.trans (prefix_accepted _)⟩

lemma stopped_of_runs (run : Runs true o owner h m) : Stopped h m := by
  induction run with
  | start => exact fun reset => absurd rfl reset
  | step run move ih =>
    have run' := runs_of_all run
    exact stopped_step ih (accepting_of_runs (freely_of_runs run)) (clearing_of_runs run')
      (guarded_of_runs run') (clear_of_runs run) move

/-! ## What the consumer gets -/

/-- What the consumer was handed, and what it still will be, of the items that the stream accepted
before it ended. -/
structure Delivery (connect : Bool) (h : Past η) (m : Live η) : Prop where
  in_order : consumed h <+: accepted connect h
  /-- Until a reset nothing is lost, also after a close. -/
  whole : hasResetBy h = false → accepted connect h =
    consumed h ++ inHand m.agenda ++ m.state.stream.inbox.pending ++ pushing m.agenda
  /-- At rest, and whenever a callback may call back, what was not handed over is buffered. -/
  buffered : hasResetBy h = false → m.step component = none →
    isOccupied true m.agenda = false →
    accepted connect h = consumed h ++ m.state.stream.inbox.pending
  /-- After a reset the consumer is not called for any item. -/
  none_begun : ∀ before b after, h = before ++ b :: after → hasResetBy before = true →
    consumes b.2 = []
  /-- The buffer is empty, but while the reset is being sent. -/
  emptied : hasResetBy h = true →
    m.state.stream.inbox.pending = [] ∨ m.agenda.any isClear = true
  stays_empty : hasResetBy h = true → m.step component = none →
    isOccupied true m.agenda = false → m.state.stream.inbox.pending = []

section Free

variable (run : Runs true o owner h m) (waits : m.step component = none)
  (free : isOccupied true m.agenda = false)

include run waits free

/-- Where the loop's thread is free, no item is on its way to the consumer. -/
lemma none_in_hand_of_free : inHand m.agenda = [] := by
  refine inHand_of_none_passing ?_
  by_contra passing
  rw [Bool.not_eq_false] at passing
  exact Bool.false_ne_true (free.symm.trans (occupied_of_passing (clear_of_runs run) waits passing))

/-- Where the loop's thread is free, no item is on its way into the inbox. -/
lemma none_pushing_of_free : pushing m.agenda = [] := by
  have unlocked : Unlocked true m.agenda := by
    by_contra locked
    rw [Unlocked, Bool.not_eq_false] at locked
    exact Bool.false_ne_true
      (free.symm.trans (occupied_of_locked (guarded_of_runs run) waits locked))
  exact pushing_eq_nil unlocked.none_pushed

/-- Where the loop's thread is free, no inbox is still to be emptied. -/
lemma none_clears_of_free : m.agenda.any isClear = false := by
  by_contra clears
  refine Bool.false_ne_true ((unoccupied_of_all free).symm.trans ?_)
  refine occupied_of_locked (guarded_of_runs (runs_of_all run)) waits ?_
  by_contra unlocked
  rw [Bool.not_eq_true] at unlocked
  exact clears ((clearing_of_runs (runs_of_all run)).paired.none_clears unlocked)

end Free

/-- Let the primitives not call back. Whatever the hooks do and other threads call, the consumer is
handed what the stream accepted, in this order, until a reset keeps the rest from it. -/
theorem delivery_of_runs (run : Runs true o owner h m) : Delivery o.connect h m := by
  have connected := connect_eq run
  have whole (unreset : hasResetBy h = false) : accepted o.connect h =
      consumed h ++ inHand m.agenda ++ m.state.stream.inbox.pending ++ pushing m.agenda := by
    rw [← isReset_eq run, Option.isSome_eq_false_iff, Option.isNone_iff_eq_none] at unreset
    rw [← connected]
    exact (accepting_of_runs (freely_of_runs run)).received unreset
  have emptied (reset : hasResetBy h = true) :
      m.state.stream.inbox.pending = [] ∨ m.agenda.any isClear = true :=
    (clearing_of_runs (runs_of_all run)).emptied ((isReset_eq run).trans reset)
  refine ⟨?_, whole, fun unreset waits free => ?_, ?_, emptied, fun reset waits free => ?_⟩
  · by_cases reset : hasResetBy h = true
    · rw [← isReset_eq run, Option.isSome_iff_ne_none] at reset
      rw [← connected]
      exact (stopped_of_runs run reset).2
    · rw [whole (Bool.eq_false_iff.mpr reset), List.append_assoc, List.append_assoc]
      exact List.prefix_append _ _
  · rw [whole unreset, none_in_hand_of_free run waits free, none_pushing_of_free run waits free,
      List.append_nil, List.append_nil]
  · rintro before ⟨m₁, a⟩ after rfl reset
    obtain ⟨earlier, m₂, move, _⟩ := run.split
    rw [← isReset_eq earlier, Option.isSome_iff_ne_none] at reset
    exact consumes_of_none_in_hand move (stopped_of_runs earlier reset).1
  · refine (emptied reset).resolve_right fun clears => ?_
    rw [none_clears_of_free run waits free] at clears
    cases clears

/-- A paused tunnel has data, more data and the end in its inbox, and its consumer asks for two of
them. Handed the first one, it resets the stream; then more data is received, and more is asked
for. -/
def resetByConsumer : Past Nat × Live Nat :=
  Machine.drive component 200
    [.ask [.enter 0 (.allocate 1)], .reply (plainly true .success),
      .ask [.enter 0 (.data ⟨#[1]⟩)], .reply (plainly true .success),
      .ask [.enter 0 (.data ⟨#[2]⟩)], .reply (plainly true .success),
      .ask [.enter 0 (.fin (.ofList [("a", "b")]))], .reply (plainly true .success),
      .ask [.enter 0 (.fetch 2)], .reply (plainly true .success),
      .ask [.enter 0 (.writeReset 8)], .reply (plainly true .success),
      .ask [.enter 0 (.data ⟨#[3]⟩)], .reply (plainly true .success),
      .ask [.enter 0 (.fetch 5)], .reply (plainly true .success)]
    (.idle (fresh (.withConnect (.withStartPaused .standard true) true) 0))

theorem delivery_resetByConsumer :
    Runs true (.withConnect (.withStartPaused .standard true) true) 0 resetByConsumer.1
        resetByConsumer.2 ∧
      Delivery true resetByConsumer.1 resetByConsumer.2 ∧
      accepted true resetByConsumer.1 = [.data ⟨#[1]⟩, .data ⟨#[2]⟩, .fin .empty] ∧
      consumed resetByConsumer.1 = [.data ⟨#[1]⟩] ∧ hasResetBy resetByConsumer.1 = true ∧
      resetByConsumer.2.state.stream.inbox.pending = [] ∧ resetByConsumer.2.agenda = [] := by
  have run : Runs true (.withConnect (.withStartPaused .standard true) true) 0 resetByConsumer.1
      resetByConsumer.2 :=
    Machine.drive_run (fun _ _ => request_of_isRequest) _ _ _ rfl
  exact ⟨run, delivery_of_runs run, rfl, rfl, rfl, rfl, rfl⟩

end StreamControl.Endpoint
