import StreamControl.Proofs.OutboxRun
import StreamControl.Stream.Exec

/-!
# Runs of a stream

Operations are called on any thread, from outside or by a callback, to any depth. The loop is
one thread: operations are called on it at rest or by its callbacks, and not by a primitive that
does not call back. Other threads call operations at any moment, also between two steps of the
loop.
-/

namespace StreamControl

/-- A primitive that does not call back, of those used on the loop alone: any of them, or just
the one that sends a reset. -/
def Primitive.isStill {η : Type} (all : Bool) : Primitive η → Bool
  | .sendReset _ _ => true
  | .canSend _ | .countRead _ | .flushRead | .flushWritten => false
  | _ => all

def Primitive.isAnywhere {η : Type} : Primitive η → Bool
  | .canSend _ | .countRead _ | .flushRead | .flushWritten => true
  | _ => false

def Job.isEnd {η : Type} : Job η → Bool
  | .reset _ | .writeReset _ | .close => true
  | _ => false

namespace Endpoint

variable {η : Type}

/-- A stream among its surroundings. -/
abbrev Live (η : Type) := Machine (Endpoint η) (StreamInstr η) (StreamCall η) StreamNote

abbrev Agenda (η : Type) := List (Entry (StreamInstr η) (StreamCall η) StreamNote)

abbrev Deed (η : Type) := Act (StreamInstr η) (StreamCall η) StreamNote StreamCall.Reply

abbrev Past (η : Type) :=
  History (Endpoint η) (StreamInstr η) (StreamCall η) StreamNote StreamCall.Reply

/-- A primitive that does not call back is being used. -/
def isBusy (all : Bool) : Entry (StreamInstr η) (StreamCall η) StreamNote → Bool
  | .held (.conn p) => p.isStill all
  | _ => false

def isTodo : Entry (StreamInstr η) (StreamCall η) StreamNote → Bool
  | .todo _ => true
  | .held _ => false

/-- An operation begins or ends here. -/
def isBoundary : Entry (StreamInstr η) (StreamCall η) StreamNote → Bool
  | .todo (.work (.enter _ _)) | .todo (.work (.leave _)) => true
  | _ => false

/-- An operation of another thread came between two steps. -/
def isInterrupted : Agenda η → Bool
  | [] => false
  | x :: rest => isBoundary x && rest.head?.any isTodo || isInterrupted rest

/-- The loop's own thread is in no position to call anything. -/
def isOccupied (all : Bool) (agenda : Agenda η) : Bool :=
  agenda.any (isBusy all) || isInterrupted agenda

/-- The surroundings answer a call, and that is all. -/
def plainly (writable : Bool) (outcome : Outcome) : (c : StreamCall η) → c.Reply
  | .conn (.canSend _) => writable
  | .hook (.data _) | .hook (.fin _) => outcome
  | .conn (.sendFrame ..) | .conn (.sendHeaders ..) | .conn (.sendData ..)
  | .conn (.sendPriority ..) | .conn (.sendReset ..) | .conn (.returnCredit ..)
  | .conn (.countRead _) | .conn (.countWritten _) | .conn .flushRead | .conn .flushWritten
  | .hook (.headers ..) | .hook (.reset _) | .hook (.exception _) | .hook .close
  | .hook (.priority _) | .hook (.customFrame _) | .hook .drained | .hook .finSent => ()

/-- What is asked of a stream, at any moment: an operation on some thread, or a change on the
peer's side. On the loop, and to pass over it, operations are called only where its thread is
free to call them. -/
inductive Request (all : Bool) (m : Live η) : List (StreamInstr η) → Prop
  | operation (t : Thread) (op : Operation η)
      (free : t = m.state.loop.owner ∨ op = .runLoop →
        m.step component = none ∧ isOccupied all m.agenda = false) :
    Request all m [.enter t op]
  | setRemote (remoteOpen : Bool) : Request all m [.setRemote remoteOpen]

def isRequest (all : Bool) (m : Live η) : List (StreamInstr η) → Bool
  | [.enter _ .runLoop] => !isOccupied all m.agenda
  | [.enter t _] => !isOccupied all m.agenda || t != m.state.loop.owner
  | [.setRemote _] => true
  | _ => false

lemma request_of_isRequest {all : Bool} {m : Live η} {is : List (StreamInstr η)}
    (waits : m.step component = none) (asked : isRequest all m is = true) :
    Request all m is := by
  unfold isRequest at asked
  split at asked
  · exact .operation _ _ fun _ => ⟨waits, by simpa using asked⟩
  · rename_i t op other
    refine .operation t op ?_
    rintro (rfl | rfl)
    · exact ⟨waits, by simpa using asked⟩
    · exact absurd rfl other
  · exact .setRemote _
  · cases asked

/-- The runs of a stream, whatever its hooks and those primitives do that may call back. -/
abbrev Runs (all : Bool) (o : Options) (owner : Thread) (h : Past η) (m : Live η) : Prop :=
  Machine.Run component (Request all) (.idle (fresh o owner)) h m

/-- The fewer primitives keep from calling back, the more may be asked for. -/
lemma unoccupied_of_all {agenda : Agenda η} (free : isOccupied true agenda = false) :
    isOccupied false agenda = false := by
  rw [isOccupied, Bool.or_eq_false_iff, List.any_eq_false] at free ⊢
  refine ⟨fun x hx busy => free.1 x hx ?_, free.2⟩
  unfold isBusy at busy
  split at busy
  · rename_i p
    cases p <;> first | rfl | cases busy
  · cases busy

lemma runs_of_all {o : Options} {owner : Thread} {h : Past η} {m : Live η}
    (run : Runs true o owner h m) : Runs false o owner h m :=
  run.mono fun m is asked => by
    cases asked with
    | operation t op free =>
      exact .operation t op fun near => (free near).imp_right unoccupied_of_all
    | setRemote remoteOpen => exact .setRemote remoteOpen

/-- What is asked of a stream, whatever it is doing: the operations that are allowed on a thread,
or a change on the peer's side. -/
inductive Asked (allowed : Thread → Operation η → Prop) : List (StreamInstr η) → Prop
  | operation (t : Thread) (op : Operation η) (may : allowed t op) : Asked allowed [.enter t op]
  | setRemote (remoteOpen : Bool) : Asked allowed [.setRemote remoteOpen]

def isAsked (allowed : Thread → Operation η → Bool) : List (StreamInstr η) → Bool
  | [.enter t op] => allowed t op
  | [.setRemote _] => true
  | _ => false

lemma asked_of_isAsked {allowed : Thread → Operation η → Prop}
    {check : Thread → Operation η → Bool} (sound : ∀ t op, check t op = true → allowed t op)
    {is : List (StreamInstr η)} (asked : isAsked check is = true) : Asked allowed is := by
  unfold isAsked at asked
  split at asked
  · exact .operation _ _ (sound _ _ asked)
  · exact .setRemote _
  · cases asked

/-- The runs of a stream in which any thread calls the allowed operations at any moment, also
between two steps of the loop and while a primitive is being used. -/
abbrev RunsAnyhow (allowed : Thread → Operation η → Prop) (o : Options) (owner : Thread)
    (h : Past η) (m : Live η) : Prop :=
  Machine.Run component (fun _ => Asked allowed) (.idle (fresh o owner)) h m

end Endpoint

end StreamControl
