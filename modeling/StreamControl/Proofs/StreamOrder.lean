import StreamControl.Proofs.InboundOrder
import StreamControl.Proofs.OutboundOrder

/-!
# The order of reports and of writes

Items that are reported on several threads reach the consumer, and writes that are submitted on
several threads reach the connection, in the order in which their jobs are done. This is the order
in which they were called, unless one that is called on the loop gets ahead of posted ones, or one
is called while another has not yet been handed over.
-/

namespace StreamControl.Endpoint

variable {η : Type} {o : Options} {owner : Thread} {h : Past η} {m : Live η}

/-- What was reported and what was submitted is handed on once, and in order if nothing was
overtaken. -/
structure HandedOn (connect : Bool) (h : Past η) (m : Live η) : Prop where
  consumed_in_order : NoneOvertaken (receives connect) h → consumed h <+: reported connect h
  sent_in_order : NoneOvertaken queues h → waitingFrames h <+: submitted h
  consumed_once : AtRest m →
    (reported connect h).Perm (consumed h ++ m.state.stream.inbox.pending)
  sent_once : AtRest m →
    (submitted h).Perm (waitingFrames h ++ m.state.stream.outbox.pending.map Write.out)

/-- Let nobody end the stream, report an exception or leave the loop. Whatever hooks and primitives
call back, and whatever other threads call, every item reaches the consumer at most once and every
write the connection at most once, none is lost on the way, and the order in which they were
called is kept if none of them gets ahead of another one. -/
theorem handedOn_of_runs (run : RunsFreely Calm o owner h m) (apart : PromisesApart h) :
    HandedOn o.connect h m := by
  have anyhow := anyhow_of_freely kept_of_calm run
  have inbound := delivering_of_runs run
  have outbound := (sending_of_runs kept_of_calm run (tells_of_apart apart)).whole
    (ongoing_of_runs (anyhow_of_freely (fun _ _ may => may) run)).opened
  have receives_ofCalls : OfCalls (receives o.connect : Job η → List Item) := ⟨rfl, rfl⟩
  have quiet_start {β : Type} {f : Job η → List β} : Quiet f (Machine.idle (fresh o owner)) :=
    ⟨rfl, rfl, rfl⟩
  refine ⟨fun none_overtaken => ?_, fun none_overtaken => ?_, fun rests => ?_, fun rests => ?_⟩
  · rw [reported, ordered_of_runs receives_ofCalls kept_of_calm .start quiet_start run
      none_overtaken, placed, inbound.whole]
    simp only [List.append_assoc]
    exact List.prefix_append _ _
  · rw [submitted, ordered_of_runs queues_ofCalls kept_of_calm .start quiet_start run
      none_overtaken, placed, outbound]
    simp only [List.append_assoc]
    exact List.prefix_append _ _
  · have all := accounted_of_runs receives_ofCalls anyhow
    rw [rests.quiet.placed_eq, inbound.whole, rests.returned] at all
    simpa [reported, inHand, pushing] using all
  · have all := accounted_of_runs queues_ofCalls anyhow
    rw [rests.quiet.placed_eq, outbound, rests.returned] at all
    simpa [submitted, waitingFrames, atGate, submitting] using all

/-- Another thread reports data and the end, and submits headers and data. The loop sends headers
right away, makes a pass, and submits an end. -/
def calledInTurn : Past Nat × Live Nat :=
  Machine.drive component 120
    [.ask [.enter 0 (.allocate 1)], .reply (plainly true .success),
      .ask [.enter 0 (.writeHeaders 5 true false false 1)], .reply (plainly true .success),
      .ask [.enter 1 (.data .empty)], .reply (plainly true .success),
      .ask [.enter 1 (.fin .empty)], .reply (plainly true .success),
      .ask [.enter 1 (.writeHeaders 7 false false false 2)],
      .ask [.enter 1 (.writeData none false 3)], .ask [.enter 0 .runLoop],
      .reply (plainly true .success), .reply (plainly true .success),
      .reply (plainly true .success), .reply (plainly true .success),
      .reply (plainly true .success), .reply (plainly true .success),
      .ask [.enter 0 (.writeData none true 4)], .reply (plainly true .success),
      .reply (plainly true .success), .reply (plainly true .success)]
    (.idle (fresh .standard 0))

theorem handedOn_calledInTurn :
    RunsFreely Calm .standard 0 calledInTurn.1 calledInTurn.2 ∧ PromisesApart calledInTurn.1 ∧
      HandedOn false calledInTurn.1 calledInTurn.2 ∧ AtRest calledInTurn.2 ∧
      NoneOvertaken (receives false) calledInTurn.1 ∧ NoneOvertaken queues calledInTurn.1 ∧
      consumed calledInTurn.1 = [.data .empty, .fin .empty] ∧
      waitingFrames calledInTurn.1 =
        [.headers 7 false false 2, .data (some .empty) false 3, .data (some .empty) true 4] := by
  have run : RunsFreely Calm .standard 0 calledInTurn.1 calledInTurn.2 :=
    Machine.drive_run (fun _ _ => called_of_isCalled
      fun t op (checked : isCalm t op = true) => checked) _ _ _ rfl
  have apart : PromisesApart calledInTurn.1 := by
    have submitted_eq : submitted calledInTurn.1 =
        [.headers 7 false false 2, .data (some .empty) false 3, .data (some .empty) true 4] := rfl
    have hurried_eq : asked hurries calledInTurn.1 = [1] := rfl
    rw [PromisesApart, submitted_eq, hurried_eq]
    simp [Write.promise]
  exact ⟨run, apart, handedOn_of_runs run apart, ⟨rfl, rfl⟩, rfl, rfl, rfl, rfl⟩

/-- Another thread reports data, and the loop reports the end before it makes a pass. -/
def endedMeanwhile : Past Nat × Live Nat :=
  Machine.drive component 60
    [.ask [.enter 1 (.data .empty)], .reply (plainly true .success),
      .ask [.enter 0 (.fin .empty)], .reply (plainly true .success),
      .reply (plainly true .success), .ask [.enter 0 .runLoop], .reply (plainly true .success)]
    (.idle (fresh .standard 0))

/-- Another thread submits headers, and the loop submits data before it makes a pass. -/
def writtenMeanwhile : Past Nat × Live Nat :=
  Machine.drive component 60
    [.ask [.enter 0 (.allocate 1)], .reply (plainly true .success),
      .ask [.enter 1 (.writeHeaders 7 false false false 1)],
      .ask [.enter 0 (.writeData none false 2)], .reply (plainly true .success),
      .reply (plainly true .success), .ask [.enter 0 .runLoop], .reply (plainly true .success)]
    (.idle (fresh .standard 0))

/-- The consumer may be handed the end before data that was reported earlier, and the connection a
later write before an earlier one: what is called on the loop gets ahead of what is posted, also
when every call returns before the next one is made. -/
theorem not_handedOn_in_order :
    ¬ (∀ (h : Past Nat) (m : Live Nat),
      Machine.Run component (OneByOne Calm) (.idle (fresh .standard 0)) h m →
      consumed h <+: reported false h) ∧
    ¬ (∀ (h : Past Nat) (m : Live Nat),
      Machine.Run component (OneByOne Calm) (.idle (fresh .standard 0)) h m →
      PromisesApart h → waitingFrames h <+: submitted h) := by
  refine ⟨fun all => ?_, fun all => ?_⟩
  · have run : Machine.Run component (OneByOne Calm) (.idle (fresh .standard 0))
        endedMeanwhile.1 endedMeanwhile.2 :=
      Machine.drive_run (fun _ _ _ => oneByOne_of_isAsked
        fun t op (checked : isCalm t op = true) => checked) _ _ _ rfl
    have consumed_eq : consumed endedMeanwhile.1 = [.fin .empty, .data .empty] := rfl
    have reported_eq : reported false endedMeanwhile.1 = [.data .empty, .fin .empty] := rfl
    have in_order := all _ _ run
    rw [consumed_eq, reported_eq, List.cons_prefix_cons] at in_order
    cases in_order.1
  · have run : Machine.Run component (OneByOne Calm) (.idle (fresh .standard 0))
        writtenMeanwhile.1 writtenMeanwhile.2 :=
      Machine.drive_run (fun _ _ _ => oneByOne_of_isAsked
        fun t op (checked : isCalm t op = true) => checked) _ _ _ rfl
    have frames_eq : waitingFrames writtenMeanwhile.1 =
        [.data (some .empty) false 2, .headers 7 false false 1] := rfl
    have submitted_eq : submitted writtenMeanwhile.1 =
        [.headers 7 false false 1, .data (some .empty) false 2] := rfl
    have apart : PromisesApart writtenMeanwhile.1 := by
      have none_hurried : asked hurries writtenMeanwhile.1 = [] := rfl
      rw [PromisesApart, none_hurried]
      exact fun _ _ => List.not_mem_nil
    have in_order := all _ _ run apart
    rw [frames_eq, submitted_eq, List.cons_prefix_cons] at in_order
    cases in_order.1

end StreamControl.Endpoint
