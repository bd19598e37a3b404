import StreamControl.Proofs.StreamCover

/-!
# On the way to the consumer

An item that was taken out of the inbox is handed to the consumer before the loop does anything
else: at most its bytes are given back first, by a primitive that does not call back, and other
threads come in between, which only post. So whatever changes the stream on the loop finds no item
on this way.
-/

namespace StreamControl.Endpoint

variable {η : Type} {owner t : Thread} {h : Past η} {m m' : Live η} {rest agenda : Agenda η}
  {out : List (StreamTodo η)} {x : Entry (StreamInstr η) (StreamCall η) StreamNote}
  {i : StreamInstr η} {e : Endpoint η}

/-- An item is on its way to the consumer. -/
def isPassing : Entry (StreamInstr η) (StreamCall η) StreamNote → Bool
  | .todo (.work (.deliver _)) | .todo (.work (.handOver _)) => true
  | .todo (.call (.hook k)) => k.isHanding
  | _ => false

/-- Such an instruction may send an item on its way. -/
def sendsOn : StreamInstr η → Bool
  | .inbox _ | .deliver _ | .handOver _ => true
  | _ => false

lemma none_passing_exec (other : sendsOn i = false) (e : Endpoint η) :
    ((exec i e).2.map .todo).any isPassing = false := by
  refine any_exec fun x leaves => ?_
  cases leaves with
  | hooks i other => exact other
  | hands | handsOver | handsData | handsFin => cases other
  | _ => rfl

/-- The bytes of an item are given back right before it is handed over. -/
lemma direct_passing (i : StreamInstr η) (e : Endpoint η) :
    Direct isPassing (isBrief true) (exec i e).2 := by
  cases i with
  | deliver item =>
    cases item with
    | data bytes =>
      simp only [exec, deliver]
      (repeat' split) <;> simp [Direct, isBrief, Primitive.isStill]
    | fin trailers => exact ⟨fun _ => rfl, direct_cons rfl⟩
  | handOver bytes => exact ⟨fun _ => rfl, direct_cons rfl⟩
  | inbox j =>
    have effect := Inbox.exec_effect j e.stream.inbox
    simp only [exec]
    generalize (Inbox.exec j e.stream.inbox).1 = b' at *
    generalize (Inbox.exec j e.stream.inbox).2 = out at *
    cases effect with
    | hands free credited consumer pending => exact direct_cons rfl
    | emptied free credited consumer empty =>
      refine direct_of_none ?_
      unfold Inbox.relief
      split
      · cases e.stream.inbox.onDrained <;> rfl
      · rfl
    | @consumed b o =>
      refine direct_of_none ?_
      unfold Inbox.complaint
      split
      · rfl
      · split <;> rfl
    | _ => exact direct_of_none rfl
  | _ => exact direct_of_none (none_passing_exec rfl e)

/-- Above an item on its way there is brief work, and work of other threads while the loop's
thread is occupied. -/
def passage : Cover η where
  kept := isPassing
  brief := isBrief true
  occupied := isOccupied true
  kept_held _ := rfl
  brief_note _ := rfl
  brief_setRemote _ := rfl
  brief_call {c} brief := by
    cases c with
    | conn p => exact brief
    | hook k => cases brief
  isBrief := id
  occupied_held {c} rest brief := by
    cases c with
    | conn p =>
      rw [isOccupied, List.any_cons, show isBusy true (.held (.conn p)) = true from brief]
      rfl
    | hook k => cases brief
  occupied_cons _ := isOccupied_cons _
  occupied_tail := isOccupied_tail
  occupied_enter t op x rest := by
    rw [isOccupied, Bool.or_eq_true]
    exact .inr rfl
  occupied_leave _ := id
  direct_exec := direct_passing
  direct_resume k r := direct_of_none (by cases k <;> rfl)

/-- While the surroundings are in control, an item on its way means that the loop's thread is
occupied. -/
lemma occupied_of_passing (clear : CoveredNow passage m) (waits : m.step component = none)
    (passing : m.agenda.any isPassing = true) : isOccupied true m.agenda = true :=
  clear.occupied waits passing

theorem clear_of_runs {o : Options} (run : Runs true o owner h m) : CoveredNow passage m :=
  covered_of_runs passage (run.mono fun m is asked => by
    cases asked with
    | operation t op free => exact .operation t op free
    | setRemote remoteOpen => exact .setRemote remoteOpen)

/-- Whatever is neither brief nor aside finds no item on its way below it. -/
lemma none_passing_of_clear (clear : CoveredNow passage ⟨e, x :: rest⟩)
    (long : isBrief true x = false) (near : ¬ Aside e.loop.owner e.thread x) :
    rest.any isPassing = false :=
  none_kept_below clear long near

end StreamControl.Endpoint
