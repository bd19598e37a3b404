import StreamControl.Proofs.StreamThread

/-!
# Where a stream changes

Operations are called on any thread, in any order. As long as one thread drives the loop, what a
stream tells the layer above, what it sends and what it accounts for is told, sent and accounted for
on that thread, and nowhere else does it change what it has read, written, buffered or ended.
-/

namespace StreamControl

/-- A call that goes with the loop: a hook, or a primitive that is not used elsewhere. -/
def StreamCall.isAffine {η : Type} : StreamCall η → Bool
  | .conn p => !p.isAnywhere
  | .hook _ => true

/-- Counters, flags, and both queues are the same in two streams. -/
structure Stream.Unmoved {η : Type} (s s' : Stream η) : Prop where
  bytesRead : s'.bytesRead = s.bytesRead
  bytesWritten : s'.bytesWritten = s.bytesWritten
  finSent : s'.finSent = s.finSent
  resetCode : s'.resetCode = s.resetCode
  closed : s'.closed = s.closed
  inbox : s'.inbox = s.inbox
  outbox : s'.outbox = s.outbox

namespace Endpoint

variable {η : Type} {o : Options} {owner : Thread} {h : Past η} {m m' : Live η} {rest : Agenda η}
  {e : Endpoint η} {a : Deed η}

lemma unmoved_exec {i : StreamInstr η} (home : OnThread owner e.thread (.todo (.work i)))
    (away : e.thread ≠ owner) : e.stream.Unmoved (exec i e).1.stream := by
  have alters := exec_alters i e
  generalize (exec i e).1 = e' at *
  cases alters with
  | keeps | enters | stores | returns | binds | setsRemote | loop =>
    exact ⟨rfl, rfl, rfl, rfl, rfl, rfl, rfl⟩
  | _ => exact absurd home away

lemma unmoved_step {may : Live η → List (StreamInstr η) → Prop} (home : AtHomeNow owner m)
    (away : m.state.thread ≠ owner) (move : Machine.Move component may m a m') :
    m.state.stream.Unmoved m'.state.stream := by
  cases move using Machine.Move.elim with
  | work e i rest => exact unmoved_exec home.2.1 away
  | _ => exact ⟨rfl, rfl, rfl, rfl, rfl, rfl, rfl⟩

/-- A call that goes with the loop is made on its thread. -/
lemma at_owner_of_call {c : StreamCall η} (home : AtHomeNow owner ⟨e, .todo (.call c) :: rest⟩)
    (affine : c.isAffine = true) : e.thread = owner := by
  obtain ⟨-, here, -⟩ := home
  cases c with
  | conn p =>
    rw [StreamCall.isAffine, Bool.not_eq_true'] at affine
    rcases here with anywhere | at_owner
    · rw [affine] at anywhere
      cases anywhere
    · exact at_owner
  | hook k => exact here

/-- The machine that a deed led to, as what was done next found it. -/
def reached (after : Past η) (m : Live η) : Live η := (after.head?.map (·.1)).getD m

lemma reached_of_run {may : Live η → List (StreamInstr η) → Prop} {after : Past η}
    (run : Machine.Run component may m after m') : reached after m' = m := by
  cases after with
  | nil => exact run.eq_of_nil
  | cons b after => exact run.uncons.1

/-- All that goes with the loop happens on the thread `owner`. -/
structure Affine (owner : Thread) (h : Past η) (m : Live η) : Prop where
  owned : m.state.loop.owner = owner
  calls : ∀ b ∈ h, ∀ c : StreamCall η, b.2 = .own (.call c) → c.isAffine = true →
    b.1.state.thread = owner
  changes : ∀ before m₁ a after, h = before ++ (m₁, a) :: after → m₁.state.thread ≠ owner →
    m₁.state.stream.Unmoved (reached after m).state.stream

/-- Let one thread alone drive the loop, by passes or by polls, and let any threads call any
operations. Hooks, and all primitives that send or give back credit or count what is written, are
called on that thread, and on that thread alone counters, flags and both queues change. -/
theorem affine_of_runs (run : RunsAtHome o owner h m) : Affine owner h m := by
  refine ⟨(atHome_of_driven run).1, fun ⟨m₁, a⟩ made c called affine => ?_, ?_⟩
  · obtain ⟨before, after, rfl⟩ := List.append_of_mem made
    obtain ⟨earlier, m₂, move, -⟩ := run.split
    obtain rfl : a = .own (.call c) := called
    rcases m₁ with ⟨e, agenda⟩
    cases move with
    | own head next =>
      obtain ⟨rest, rfl⟩ := List.head?_eq_some_iff.mp head
      exact at_owner_of_call (atHome_of_driven earlier) affine
  · rintro before m₁ a after rfl away
    obtain ⟨earlier, m₂, move, later⟩ := run.split
    rw [reached_of_run later]
    exact unmoved_step (atHome_of_driven earlier) away move

def isAskedAtHome (owner : Thread) (m : Live η) : List (StreamInstr η) → Bool
  | [.loop (.poll t _)] => t == owner && m.state.thread == owner
  | [.loop j] => isHandling j
  | [.enter t .runLoop] => t == owner
  | is => isAsked (fun _ _ => true) is

lemma askedAtHome_of_check {is : List (StreamInstr η)} (asked : isAskedAtHome owner m is = true) :
    AskedAtHome owner m is := by
  unfold isAskedAtHome at asked
  split at asked
  · rw [Bool.and_eq_true, beq_iff_eq, beq_iff_eq] at asked
    obtain ⟨rfl, at_work⟩ := asked
    exact .poll _ at_work
  · exact .handling _ asked
  · exact .asked (.operation _ _ fun _ => beq_iff_eq.mp asked)
  · rename_i is _ _ not_pass
    unfold isAsked at asked
    split at asked
    · exact .asked (.operation _ _ (by rintro rfl; exact absurd rfl (not_pass _)))
    · exact .asked (.setRemote _)
    · cases asked

/-- Another thread reports data and submits a write, and more while the primitive that sends it is
being used. The loop makes a pass and is then served by a future. -/
def calledFromElsewhere : Past Nat × Live Nat :=
  Machine.drive component 200
    [.ask [.enter 0 (.allocate 1)], .reply (plainly true .success),
      .ask [.enter 1 (.data ⟨#[7]⟩)], .reply (plainly true .success),
      .ask [.enter 1 (.writeData (some ⟨#[8, 9]⟩) false 1)], .ask [.enter 0 .runLoop],
      .reply (plainly true .success), .reply (plainly true .success),
      .reply (plainly true .success), .ask [.enter 1 (.writeReset 8)], .ask [.enter 2 .close],
      .reply (plainly true .success), .reply (plainly true .success),
      .reply (plainly true .success), .reply (plainly true .success), .ask [.loop .serve],
      .ask [.enter 1 (.exception .closed)], .ask [.loop (.poll 0 5)],
      .reply (plainly true .success)]
    (.idle (fresh .standard 0))

theorem affine_calledFromElsewhere :
    RunsAtHome .standard 0 calledFromElsewhere.1 calledFromElsewhere.2 ∧
      Affine 0 calledFromElsewhere.1 calledFromElsewhere.2 ∧
      calledFromElsewhere.1.countP (fun b => b.1.state.thread != 0) = 19 ∧
      calledFromElsewhere.2.agenda.length = 0 ∧
      calledFromElsewhere.2.state.stream.bytesRead = 1 ∧
      calledFromElsewhere.2.state.stream.bytesWritten = 2 ∧
      calledFromElsewhere.2.state.stream.resetCode = some 8 ∧
      calledFromElsewhere.2.state.stream.closed = true := by
  have run : RunsAtHome .standard 0 calledFromElsewhere.1 calledFromElsewhere.2 :=
    Machine.drive_run (fun _ _ _ => askedAtHome_of_check) _ _ _ rfl
  exact ⟨run, affine_of_runs run, rfl, rfl, rfl, rfl, rfl, rfl⟩

end Endpoint

end StreamControl
