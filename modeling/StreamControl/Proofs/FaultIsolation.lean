import StreamControl.Proofs.StreamFaults
import StreamControl.Proofs.Veil

/-!
# Failures that stay apart

A consumer that fails is heard of by the handler of failures, and by nothing else. Whatever the
handler is called with, two runs that differ only in where the consumer fails hand over the same
items, return the same results and end in the same state. This goes for an inbox, and for a stream
whose hooks are the consumer.
-/

namespace StreamControl

namespace Inbox

variable {κ α : Type} {mark : Nat} {k : κ} {h : Past κ α} {m : Live κ α}

/-- What a consumer makes of its items is overlooked, together with what is told of its failures. -/
def unfailing : Veil (Instr κ α) (Call κ α) Note Reply where
  work
    | .consumed _ => .consumed .success
    | i => i
  shows
    | .fault _ _ => false
    | _ => true
  reads
    | .trace _ => false
    | _ => true
  reply
    | .consume _ _, _ => .success
    | .fault _ _, r => r
    | .drained _, r => r

/-- The runs of an inbox whose handler of failures does not call back. -/
abbrev QuietRuns (mark : Nat) (k : κ) (h : Past κ α) (m : Live κ α) : Prop :=
  Machine.Run component (unfailing.InSight component Request) (.idle (handled mark k)) h m

lemma unfailing_hides : (unfailing : Veil (Instr κ α) (Call κ α) Note Reply).Hides component where
  exec_eq i b := by
    cases i with
    | consumed o =>
      cases o with
      | success => rfl
      | failure cause =>
        simp only [Veil.component, component, exec, unfailing]
        split <;> rfl
    | _ => rfl
  resume_eq c r := by
    cases c <;> rfl
  resume_hidden c r hidden := by
    cases c with
    | fault k cause => rfl
    | consume k x | drained k => cases hidden

lemma unfailing_kept (is : List (Instr κ α)) (asked : Request is) :
    is.map (unfailing : Veil (Instr κ α) (Call κ α) Note Reply).work = is := by
  cases asked <;> rfl

/-- A consumer that succeeds, and callbacks that return. -/
def succeeding : (c : Call κ α) → Reply c
  | .consume _ _ => .success
  | .fault _ _ | .drained _ => ()

/-- Lets the consumer make other things of its items. -/
def failingAs (outcomes : List (Signal (Call κ α) Note) → κ → α → Outcome)
    (g : List (Signal (Call κ α) Note)) : (c : Call κ α) → Reply c → Reply c
  | .consume k x, _ => outcomes g k x
  | .fault _ _, r => r
  | .drained _, r => r

/-- Failures of the consumer of an inbox are reported once each, and make no other difference. -/
structure Isolates (mark : Nat) (k : κ) (α : Type) : Prop where
  reported : ∀ (h : Past κ α) m, HandledRuns mark k h m → Reported h m
  alike : ∀ (h₁ : Past κ α) m₁ h₂ m₂, QuietRuns mark k h₁ m₁ → QuietRuns mark k h₂ m₂ →
    Machine.turns (unfailing.history h₁) = Machine.turns (unfailing.history h₂) →
    unfailing.Waits component m₁ → unfailing.Waits component m₂ → unfailing.Alike h₁ m₁ h₂ m₂
  with_any_failures : ∀ (h : Past κ α) m
      (outcomes : List (Signal (Call κ α) Note) → κ → α → Outcome),
    QuietRuns mark k h m →
    ∃ h' m', QuietRuns mark k h' m' ∧
      (∀ h₁ n d x r h₂, h' = h₁ ++ (n, .answer (.consume d x) r) :: h₂ →
        r = outcomes (unfailing.outline h₁) d x) ∧
      Machine.turns (unfailing.history h') = Machine.turns (unfailing.history h) ∧
      unfailing.Alike h' m' h m

lemma isolates_of_runs (mark : Nat) (k : κ) (α : Type) : Isolates mark k α where
  reported _ _ run := reported_of_runs run
  alike _ _ _ _ first second same waits₁ waits₂ :=
    Veil.alike_of_turns unfailing_hides unfailing_kept first second same waits₁ waits₂
  with_any_failures h m outcomes run := by
    obtain ⟨h', m', run', picks, same, alike⟩ :=
      Veil.exists_alike (failingAs outcomes) unfailing_hides unfailing_kept succeeding
        (fun g c r => by cases c <;> rfl) run
    refine ⟨h', m', run', fun h₁ n d x r h₂ whole => ?_, same, alike⟩
    obtain ⟨_, rfl⟩ := picks h₁ n (.consume d x) r h₂ whole rfl
    rfl

end Inbox

namespace Endpoint

variable {η : Type} {o : Options} {owner : Thread}

/-- What the hooks make of the items they are handed is overlooked, together with what is told of
failures and exceptions. -/
def unfailing : Veil (StreamInstr η) (StreamCall η) StreamNote StreamCall.Reply where
  work
    | .inbox (.consumed _) => .inbox (.consumed .success)
    | i => i
  shows
    | .hook (.exception _) => false
    | _ => true
  reads
    | .trace (.unhandledFault _) => false
    | _ => true
  reply
    | .hook (.data _), _ => Outcome.success
    | .hook (.fin _), _ => Outcome.success
    | _, r => r

lemma unfailing_hides :
    (unfailing : Veil (StreamInstr η) (StreamCall η) StreamNote StreamCall.Reply).Hides
      component where
  exec_eq i e := by
    cases i with
    | inbox j =>
      cases j with
      | consumed o =>
        cases o with
        | success => rfl
        | failure cause =>
          simp only [Veil.component, component, exec, unfailing, Inbox.exec]
          split <;> rfl
      | _ => rfl
    | _ => rfl
  resume_eq c r := by
    cases c with
    | conn p => rfl
    | hook k => cases k <;> rfl
  resume_hidden c r hidden := by
    cases c with
    | conn p => cases hidden
    | hook k =>
      cases k with
      | exception cause => rfl
      | _ => cases hidden

lemma unfailing_kept {allowed : Thread → Operation η → Prop} (is : List (StreamInstr η))
    (asked : Asked allowed is) :
    is.map (unfailing : Veil _ (StreamCall η) StreamNote StreamCall.Reply).work = is := by
  cases asked <;> rfl

/-- The runs of a stream in which operations are called at rest or by callbacks, but not by the hook
for exceptions. -/
abbrev QuietRuns (allowed : Thread → Operation η → Prop) (o : Options) (owner : Thread)
    (h : Past η) (m : Live η) : Prop :=
  Machine.Run component (unfailing.InSight component (Asked allowed)) (.idle (fresh o owner)) h m

/-- Lets the hooks make other things of the items they are handed. -/
def failingAs (outcomes : List (Signal (StreamCall η) StreamNote) → Hook η → Outcome)
    (g : List (Signal (StreamCall η) StreamNote)) : (c : StreamCall η) → c.Reply → c.Reply
  | .hook (.data bytes), _ => outcomes g (.data bytes)
  | .hook (.fin trailers), _ => outcomes g (.fin trailers)
  | _, r => r

/-- Failures of the hooks that are handed items are reported once each, and make no other
difference. -/
structure Isolates (allowed : Thread → Operation η → Prop) (o : Options) (owner : Thread) :
    Prop where
  reported : ∀ (h : Past η) m, RunsFreely allowed o owner h m → Reported h m
  alike : ∀ (h₁ : Past η) m₁ h₂ m₂, RunsFreely allowed o owner h₁ m₁ →
    RunsFreely allowed o owner h₂ m₂ →
    Machine.schedule (unfailing.history h₁) = Machine.schedule (unfailing.history h₂) →
    unfailing.Alike h₁ m₁ h₂ m₂
  alike_in_turn : ∀ (h₁ : Past η) m₁ h₂ m₂, QuietRuns allowed o owner h₁ m₁ →
    QuietRuns allowed o owner h₂ m₂ →
    Machine.turns (unfailing.history h₁) = Machine.turns (unfailing.history h₂) →
    unfailing.Waits component m₁ → unfailing.Waits component m₂ → unfailing.Alike h₁ m₁ h₂ m₂
  with_any_failures : ∀ (h : Past η) m
    (outcomes : List (Signal (StreamCall η) StreamNote) → Hook η → Outcome),
    QuietRuns allowed o owner h m → ∃ h' m', QuietRuns allowed o owner h' m' ∧
      (∀ h₁ n bytes r h₂, h' = h₁ ++ (n, .answer (.hook (.data bytes)) r) :: h₂ →
        r = outcomes (unfailing.outline h₁) (.data bytes)) ∧
      (∀ h₁ n trailers r h₂, h' = h₁ ++ (n, .answer (.hook (.fin trailers)) r) :: h₂ →
        r = outcomes (unfailing.outline h₁) (.fin trailers)) ∧
      Machine.turns (unfailing.history h') = Machine.turns (unfailing.history h) ∧
      unfailing.Alike h' m' h m

lemma isolates_of_runs (allowed : Thread → Operation η → Prop) (o : Options) (owner : Thread) :
    Isolates allowed o owner where
  reported _ _ run := raised_of_runs run
  alike _ _ _ _ first second same := Veil.alike_of_schedule unfailing_hides first second same
  alike_in_turn _ _ _ _ first second same waits₁ waits₂ :=
    Veil.alike_of_turns unfailing_hides unfailing_kept first second same waits₁ waits₂
  with_any_failures h m outcomes run := by
    obtain ⟨h', m', run', picks, same, alike⟩ :=
      Veil.exists_alike (failingAs outcomes) unfailing_hides unfailing_kept
        (plainly true .success) (fun g c r => by
          cases c with
          | conn p => rfl
          | hook k => cases k <;> rfl) run
    refine ⟨h', m', run', fun h₁ n bytes r h₂ whole => ?_, fun h₁ n trailers r h₂ whole => ?_, same,
      alike⟩
    · obtain ⟨_, rfl⟩ := picks h₁ n (.hook (.data bytes)) r h₂ whole rfl
      rfl
    · obtain ⟨_, rfl⟩ := picks h₁ n (.hook (.fin trailers)) r h₂ whole rfl
      rfl

end Endpoint

/-- However the callbacks re-enter an inbox or a stream: each failure of a consumer reaches the
handler of failures once, after the consumer has returned and before the next item. Where the
handler does not call back, failures make no other difference. -/
theorem failures_isolated {κ η : Type} (α : Type) (mark : Nat) (k : κ)
    (allowed : Thread → Operation η → Prop) (o : Options) (owner : Thread) :
    Inbox.Isolates mark k α ∧ Endpoint.Isolates allowed o owner :=
  ⟨Inbox.isolates_of_runs mark k α, Endpoint.isolates_of_runs allowed o owner⟩

namespace Inbox

/-- A consumer is handed two items that were held back, and offers a third one meanwhile. What it
makes of the first is given. -/
def heldBack (first : Outcome) : Past Nat Nat × Live Nat Nat :=
  Machine.drive component 60
    ([.ask [.setConsumer 0], .ask [.setOnDrained 2], .ask [.pause], .ask (offer 1), .ask (offer 2),
      .ask resumed, .ask (offer 3)] ++
      (match first with
        | .success => [.reply succeeding]
        | .failure cause =>
          [.reply fun
            | .consume _ _ => .failure cause
            | .fault _ _ | .drained _ => (), .reply succeeding]) ++
      [.reply succeeding, .reply succeeding, .ask (offer 4), .reply succeeding, .reply succeeding])
    (.idle (handled 2 1))

lemma heldBack_runs (first : Outcome) (checked : (heldBack first).1.all
      (fun b => b.2.asked?.all (unfailing.isInSight isRequest b.1)) = true) :
    QuietRuns 2 1 (heldBack first).1 (heldBack first).2 :=
  Machine.drive_run (fun _ _ waits asked =>
    Veil.inSight_of_isInSight (fun is_request => request_of_isRequest is_request) waits asked)
    _ _ _ checked

end Inbox

namespace Endpoint

/-- Two chunks of data are received, and then the end. What becomes of the first chunk is given. -/
def received (first : Outcome) : Past Nat × Live Nat :=
  Machine.drive component 80
    ([.ask [.enter 0 (.data ⟨#[1]⟩)], .reply (plainly true .success)] ++
      (match first with
        | .success => [.reply (plainly true .success)]
        | .failure cause =>
          [.reply (plainly true (.failure cause)), .reply (plainly true .success)]) ++
      [.ask [.enter 1 (.data ⟨#[2]⟩)], .reply (plainly true .success), .ask [.enter 0 .runLoop],
        .reply (plainly true .success), .ask [.enter 0 (.fin .empty)],
        .reply (plainly true .success), .reply (plainly true .success)])
    (.idle (fresh .standard 0))

lemma received_runs (first : Outcome) (checked : (received first).1.all
      (fun b => b.2.asked?.all (isCalled (fun _ _ => true) b.1)) = true) :
    RunsFreely (fun _ _ => True) .standard 0 (received first).1 (received first).2 :=
  Machine.drive_run (fun _ _ => called_of_isCalled
    fun t op (_ : (fun _ _ => true : Thread → Operation Nat → Bool) t op = true) => trivial)
    _ _ _ checked

end Endpoint

/-- A failure on the first of several items. -/
theorem failures_isolated_onFirst :
    (Inbox.Reported (Inbox.heldBack (.failure .closed)).1 (Inbox.heldBack (.failure .closed)).2 ∧
      Inbox.reported (Inbox.heldBack (.failure .closed)).1 = [.closed] ∧
      Inbox.unfailing.Alike (Inbox.heldBack (.failure .closed)).1
        (Inbox.heldBack (.failure .closed)).2 (Inbox.heldBack .success).1
        (Inbox.heldBack .success).2) ∧
    (Endpoint.Reported (Endpoint.received (.failure .closed)).1
        (Endpoint.received (.failure .closed)).2 ∧
      Endpoint.raised (Endpoint.received (.failure .closed)).1 = [.closed] ∧
      Endpoint.unfailing.Alike (Endpoint.received (.failure .closed)).1
        (Endpoint.received (.failure .closed)).2 (Endpoint.received .success).1
        (Endpoint.received .success).2) := by
  obtain ⟨inbox, stream⟩ :=
    failures_isolated (η := Nat) Nat 2 1 (fun _ _ => True) .standard 0
  have failing := Inbox.heldBack_runs (.failure .closed) rfl
  have succeeding := Inbox.heldBack_runs .success rfl
  have at_rest {first : Outcome} (none_left : (Inbox.heldBack first).2.agenda = []) :
      Inbox.unfailing.Waits Inbox.component (Inbox.heldBack first).2 := by
    refine ⟨Machine.step_eq_none_iff.mpr fun t rest head => ?_, fun c head => ?_⟩
    · cases none_left.symm.trans head
    · rw [none_left] at head
      cases head
  refine ⟨⟨inbox.reported _ _ (failing.mono fun _ _ asked => ⟨asked.1.1, asked.2⟩), rfl, ?_⟩,
    ⟨stream.reported _ _ (Endpoint.received_runs _ rfl), rfl, ?_⟩⟩
  · exact inbox.alike _ _ _ _ failing succeeding rfl (at_rest rfl) (at_rest rfl)
  · exact stream.alike _ _ _ _ (Endpoint.received_runs _ rfl) (Endpoint.received_runs _ rfl) rfl

end StreamControl
