import Mathlib.Algebra.BigOperators.Group.List.Basic
import Mathlib.Algebra.GroupWithZero.Nat
import StreamControl.Proofs.CreditReturn

/-!
# The bytes that a stream counts

Bytes are reported to the connection, counted by the stream and given back to the receive window
at different moments: what is received is reported when it is called for, counted when the
consumer gets it and given back just before; what is sent is counted and reported at the gate.
Each instruction moves its bytes from one account to another, so the accounts balance whenever no
call is in progress.
-/

namespace StreamControl

def Item.size : Item → Nat
  | .data bytes => bytes.size
  | .fin _ => 0

namespace Endpoint

variable {η : Type} {may : Live η → List (StreamInstr η) → Prop}
  {allowed : Thread → Operation η → Prop} {o : Options} {owner : Thread} {h : Past η}
  {m m' : Live η} {rest agenda : Agenda η} {a : Deed η} {i : StreamInstr η} {e : Endpoint η}
  {g : StreamCall η → Nat}

/-! ## What calls come to -/

def made (g : StreamCall η → Nat) : Deed η → Nat
  | .own (.call c) => g c
  | _ => 0

def toMake (g : StreamCall η → Nat) : Entry (StreamInstr η) (StreamCall η) StreamNote → Nat
  | .todo (.call c) => g c
  | _ => 0

/-- What the calls that were made come to. -/
def total (g : StreamCall η → Nat) (h : Past η) : Nat := (h.map fun b => made g b.2).sum

/-- What the calls come to that are to be made. -/
def outstanding (g : StreamCall η → Nat) (agenda : Agenda η) : Nat := (agenda.map (toMake g)).sum

section Views

variable (b : Live η × Deed η) (x : Entry (StreamInstr η) (StreamCall η) StreamNote)
  (agenda' : Agenda η)

@[simp] lemma total_snoc : total g (h ++ [b]) = total g h + made g b.2 := by
  simp [total]

@[simp] lemma outstanding_nil : outstanding g [] = 0 := rfl

@[simp] lemma outstanding_cons : outstanding g (x :: agenda) = toMake g x + outstanding g agenda :=
  List.sum_cons

@[simp] lemma outstanding_append :
    outstanding g (agenda ++ agenda') = outstanding g agenda + outstanding g agenda' := by
  simp [outstanding]

end Views

lemma outstanding_exec (none_left : ∀ x, Leaves i x → toMake g (.todo x) = 0) :
    outstanding g ((exec i e).2.map .todo) = 0 := by
  rw [outstanding, List.sum_eq_zero]
  intro n hn
  obtain ⟨x, hx, rfl⟩ := List.mem_map.mp hn
  obtain ⟨y, hy, rfl⟩ := List.mem_map.mp hx
  exact none_left y (exec_leaves i e y hy)

lemma outstanding_resume (c : StreamCall η) (r : c.Reply) :
    outstanding g ((component.resume c r).map .todo) = 0 := by
  cases c with
  | conn p => cases p <;> rfl
  | hook k => cases k <;> rfl

lemma outstanding_invoke (is : List (StreamInstr η)) :
    outstanding g (m.invoke is).agenda = outstanding g m.agenda := by
  have none_asked : outstanding g (is.map (.todo ∘ .work)) = 0 := by
    rw [outstanding, List.sum_eq_zero]
    intro n hn
    obtain ⟨x, hx, rfl⟩ := List.mem_map.mp hn
    obtain ⟨i, _, rfl⟩ := List.mem_map.mp hx
    rfl
  rw [Machine.invoke, outstanding_append, none_asked, Nat.zero_add]

/-- Let instructions alone change a value, and change it by what the calls come to that they leave
to do. Then it is what the calls come to that were made and are to be made. -/
theorem value_of_runs (value : Past η → Endpoint η → Nat) (start : value [] (fresh o owner) = 0)
    (works : ∀ h e i rest, value (h ++ [(⟨e, .todo (.work i) :: rest⟩, .own (.work i))])
      (exec i e).1 = value h e + outstanding g ((exec i e).2.map .todo))
    (others : ∀ h (m : Live η) a, (∀ i, a ≠ .own (.work i)) →
      value (h ++ [(m, a)]) m.state = value h m.state)
    (run : Machine.Run component may (.idle (fresh o owner)) h m) :
    value h m.state = total g h + outstanding g m.agenda := by
  induction run with
  | start => exact start
  | @step h m m' a run move ih =>
    cases move using Machine.Move.elim with
    | work e i rest =>
      have before : value h e = total g h + outstanding g rest := by simpa [toMake] using ih
      refine (works h e i rest).trans ?_
      rw [before, total_snoc, outstanding_append]
      simp only [made, component]
      omega
    | call e c rest =>
      rw [others h _ _ (by simp), ih, total_snoc, outstanding_cons, outstanding_cons]
      simp only [made, toMake]
      omega
    | note e s rest =>
      rw [others h _ _ (by simp), ih, total_snoc, outstanding_cons]
      simp [made, toMake]
    | invoke m is asked =>
      rw [total_snoc, outstanding_invoke]
      exact (others h m _ (by simp)).trans ih
    | reply e c rest f =>
      rw [others h _ _ (by simp), ih, total_snoc, outstanding_append, outstanding_resume,
        outstanding_cons]
      simp [made, toMake]

/-! ## The counters of a stream -/

/-- The bytes of data that is sent. -/
def sentSize : StreamCall η → Nat
  | .conn (.sendData _ bytes _ _) => bytes.size
  | _ => 0

def reportedWritten : StreamCall η → Nat
  | .conn (.countWritten len) => len
  | _ => 0

def reportedRead : StreamCall η → Nat
  | .conn (.countRead len) => len
  | _ => 0

/-- The bytes of data that the consumer is handed. -/
def handedSize : StreamCall η → Nat
  | .hook (.data bytes) => bytes.size
  | _ => 0

lemma exec_counters (no_attempt : ∀ w, i ≠ .attempt w)
    (no_handOver : ∀ bytes, i ≠ .handOver bytes) :
    (exec i e).1.stream.bytesWritten = e.stream.bytesWritten ∧
      (exec i e).1.stream.bytesRead = e.stream.bytesRead := by
  have alters := exec_alters i e
  generalize (exec i e).1 = e' at *
  cases alters with
  | writes w => exact absurd rfl (no_attempt w)
  | reads bytes => exact absurd rfl (no_handOver bytes)
  | _ => exact ⟨rfl, rfl⟩

/-- A data frame is counted and reported as it passes the gate. -/
lemma written_attempt (e : Endpoint η) (w : Write η) :
    (e.attempt w).1.stream.bytesRead = e.stream.bytesRead ∧
    (e.attempt w).1.stream.bytesWritten =
        e.stream.bytesWritten + outstanding sentSize ((e.attempt w).2.map .todo) ∧
      outstanding reportedWritten ((e.attempt w).2.map .todo) =
        outstanding sentSize ((e.attempt w).2.map .todo) := by
  unfold attempt
  split
  · exact ⟨rfl, rfl, rfl⟩
  · exact ⟨rfl, rfl, rfl⟩
  · cases w with
    | headers block fin flush p => cases fin <;> exact ⟨rfl, rfl, rfl⟩
    | data chunk fin p =>
      cases fin <;>
        simp [modify, outstanding, toMake, sentSize, reportedWritten, trace]

lemma sent_perform (e : Endpoint η) (job : Job η) :
    outstanding sentSize ((e.perform job).2.map .todo) = 0 ∧
      outstanding reportedWritten ((e.perform job).2.map .todo) = 0 := by
  cases job with
  | data bytes | fin trailers | reset code | changePriority p | toggleWritable | close
  | writeFrame frame p | writeHeaders block fin flush p | writeReset code | announcePriority p =>
    simp only [perform, reset, headersOut]
    (repeat' split) <;> exact ⟨rfl, rfl⟩
  | _ => exact ⟨rfl, rfl⟩

/-- Only the gate lets data out. -/
lemma sent_exec (no_attempt : ∀ w, i ≠ .attempt w) :
    outstanding sentSize ((exec i e).2.map .todo) = 0 ∧
      outstanding reportedWritten ((exec i e).2.map .todo) = 0 := by
  by_cases performs : ∃ job, i = .perform job
  · obtain ⟨job, rfl⟩ := performs
    exact sent_perform e job
  · constructor <;> refine outstanding_exec fun x leaves => ?_ <;>
      cases leaves with
      | sends job near => exact absurd ⟨job, rfl⟩ performs
      | sendsQueued w near => exact absurd rfl (no_attempt w)
      | @counts t op p counting =>
        cases p with
        | sendData id bytes fin p | countWritten len => cases counting
        | _ => rfl
      | _ => rfl

lemma written_exec (i : StreamInstr η) (e : Endpoint η) :
    (exec i e).1.stream.bytesWritten =
        e.stream.bytesWritten + outstanding sentSize ((exec i e).2.map .todo) ∧
      outstanding reportedWritten ((exec i e).2.map .todo) =
        outstanding sentSize ((exec i e).2.map .todo) := by
  by_cases tests : ∃ w, i = .attempt w
  · obtain ⟨w, rfl⟩ := tests
    exact (written_attempt e w).2
  · obtain ⟨none_sent, none_reported⟩ :=
      sent_exec (e := e) fun w (same : i = .attempt w) => tests ⟨w, same⟩
    refine ⟨?_, none_reported.trans none_sent.symm⟩
    rw [none_sent]
    cases i with
    | attempt w => exact absurd ⟨w, rfl⟩ tests
    | handOver bytes => rfl
    | _ => exact (exec_counters (by simp) (by simp)).1

/-- Data is counted as it is handed to the consumer. -/
lemma read_exec (i : StreamInstr η) (e : Endpoint η) :
    (exec i e).1.stream.bytesRead =
      e.stream.bytesRead + outstanding handedSize ((exec i e).2.map .todo) := by
  by_cases hands : ∃ bytes, i = .handOver bytes
  · obtain ⟨bytes, rfl⟩ := hands
    simp [exec, modify, outstanding, toMake, handedSize, trace]
  · have none_handed : outstanding handedSize ((exec i e).2.map .todo) = 0 := by
      refine outstanding_exec fun x leaves => ?_
      cases leaves with
      | @hooks i k other =>
        cases k with
        | data bytes => cases other
        | _ => rfl
      | handsData bytes => exact absurd ⟨bytes, rfl⟩ hands
      | _ => rfl
    rw [none_handed]
    cases i with
    | attempt w => exact (written_attempt e w).1
    | handOver bytes => exact absurd ⟨bytes, rfl⟩ hands
    | _ => exact (exec_counters (by simp) (by simp)).2

lemma counters_of_runs (run : Machine.Run component may (.idle (fresh o owner)) h m) :
    m.state.stream.bytesWritten = total sentSize h + outstanding sentSize m.agenda ∧
      m.state.stream.bytesWritten =
        total reportedWritten h + outstanding reportedWritten m.agenda ∧
      m.state.stream.bytesRead = total handedSize h + outstanding handedSize m.agenda := by
  refine ⟨value_of_runs (fun _ e => e.stream.bytesWritten) rfl (fun _ e i _ => ?_)
    (fun _ _ _ _ => rfl) run, value_of_runs (fun _ e => e.stream.bytesWritten) rfl
    (fun _ e i _ => ?_) (fun _ _ _ _ => rfl) run,
    value_of_runs (fun _ e => e.stream.bytesRead) rfl (fun _ e i _ => ?_) (fun _ _ _ _ => rfl) run⟩
  · exact (written_exec i e).1
  · rw [(written_exec i e).2]
    exact (written_exec i e).1
  · exact read_exec i e

/-! ## What is received -/

/-- The size of the data that a job receives. -/
def dataSizes : Job η → List Nat
  | .data bytes => [bytes.size]
  | _ => []

lemma dataSizes_ofCalls : OfCalls (dataSizes : Job η → List Nat) := ⟨rfl, rfl⟩

/-- The bytes that the inbox keeps. -/
def buffered (s : Stream η) : Nat := (s.inbox.pending.map Item.size).sum

/-- The bytes that a reset takes out of the inbox. -/
def clears (b : Live η × Deed η) : Nat :=
  match b.2 with
  | .own (.work (.perform (.reset _))) =>
    if b.1.state.stream.resetCode.isSome then 0 else buffered b.1.state.stream
  | .own (.work (.perform (.writeReset _))) =>
    if b.1.state.stream.slot.isAllocated || b.1.state.stream.resetCode.isSome then 0
    else buffered b.1.state.stream
  | .own (.work (.inbox .clear)) => buffered b.1.state.stream
  | _ => 0

/-- The bytes that come too late for a stream that has ended. -/
def drops (b : Live η × Deed η) : Nat :=
  match b.2 with
  | .own (.work (.perform (.data bytes))) => if b.1.state.stream.hasEnded then bytes.size else 0
  | _ => 0

def clearedSize (h : Past η) : Nat := (h.map clears).sum

def droppedSize (h : Past η) : Nat := (h.map drops).sum

/-- The bytes of an item on its way into the inbox or out of it. -/
def movingEntry : Entry (StreamInstr η) (StreamCall η) StreamNote → Nat
  | .todo (.work (.inbox (.push item))) | .todo (.work (.deliver item)) => item.size
  | .todo (.work (.handOver bytes)) => bytes.size
  | _ => 0

def moving (agenda : Agenda η) : Nat := (agenda.map movingEntry).sum

section Views

variable (b : Live η × Deed η) (x : Entry (StreamInstr η) (StreamCall η) StreamNote)
  (agenda' : Agenda η)

@[simp] lemma clearedSize_snoc : clearedSize (h ++ [b]) = clearedSize h + clears b := by
  simp [clearedSize]

@[simp] lemma droppedSize_snoc : droppedSize (h ++ [b]) = droppedSize h + drops b := by
  simp [droppedSize]

@[simp] lemma moving_cons : moving (x :: agenda) = movingEntry x + moving agenda := List.sum_cons

@[simp] lemma moving_append : moving (agenda ++ agenda') = moving agenda + moving agenda' := by
  simp [moving]

end Views

lemma moving_exec (none_left : ∀ x, Leaves i x → movingEntry (.todo x) = 0) :
    moving ((exec i e).2.map .todo) = 0 := by
  rw [moving, List.sum_eq_zero]
  intro n hn
  obtain ⟨x, hx, rfl⟩ := List.mem_map.mp hn
  obtain ⟨y, hy, rfl⟩ := List.mem_map.mp hx
  exact none_left y (exec_leaves i e y hy)

/-- The data of a job goes into the inbox, or it is dropped; a reset takes out what is there. -/
lemma moved_perform (e : Endpoint η) (job : Job η) (agenda : Agenda η) :
    (dataSizes job).sum + buffered e.stream =
      moving ((e.perform job).2.map .todo) + buffered (e.perform job).1.stream +
        clears (⟨e, agenda⟩, .own (.work (.perform job))) +
        drops (⟨e, agenda⟩, .own (.work (.perform job))) := by
  cases job with
  | data bytes =>
    simp only [perform, clears, drops, dataSizes]
    split
    · simp [moving, movingEntry, trace, Nat.add_comm]
    · simp [moving, movingEntry, Item.size]
  | fin trailers =>
    simp only [perform, clears, drops, dataSizes, Inbox.offer]
    (repeat' split) <;> simp [moving, movingEntry, trace, Item.size]
  | reset code =>
    simp only [perform, reset, clears, drops, dataSizes]
    split <;> simp [moving, movingEntry, trace, modify, buffered, Inbox.clear]
  | writeReset code =>
    cases slot : e.stream.slot with
    | unallocated =>
      simp only [perform, reset, clears, drops, dataSizes, slot]
      split <;>
        simp_all [moving, movingEntry, trace, modify, buffered, Inbox.clear, Slot.isAllocated]
    | allocated id =>
      simp only [perform, clears, drops, dataSizes, slot]
      split <;> simp [moving, movingEntry, trace, modify, buffered, Slot.isAllocated]
  | changePriority p | toggleWritable | close | writeFrame frame p
  | writeHeaders block fin flush p | announcePriority p =>
    simp only [perform, headersOut, clears, drops, dataSizes]
    (repeat' split) <;> simp [moving, movingEntry, trace, modify, buffered]
  | _ => simp [perform, Inbox.fetch, moving, movingEntry, trace, clears, drops, dataSizes]

lemma moved_inbox (e : Endpoint η) (j : Inbox.Instr Unit Item) (agenda : Agenda η) :
    movingEntry (.todo (.work (.inbox j)) : Entry (StreamInstr η) (StreamCall η) StreamNote) +
        buffered e.stream =
      moving ((exec (.inbox j) e).2.map .todo) + buffered (exec (.inbox j) e).1.stream +
        clears (⟨e, agenda⟩, .own (.work (.inbox j))) := by
  have effect := Inbox.exec_effect j e.stream.inbox
  simp only [exec, modify, buffered]
  generalize (Inbox.exec j e.stream.inbox).1 = b' at *
  generalize (Inbox.exec j e.stream.inbox).2 = out at *
  cases effect with
  | hands free credited consumer pending =>
    simp [pending, movingEntry, moving, ofInbox, clears]
  | emptied free credited consumer empty =>
    unfold Inbox.relief
    split
    · cases e.stream.inbox.onDrained <;> simp [movingEntry, moving, ofInbox, clears, empty]
    · simp [movingEntry, moving, clears, empty]
  | @consumed b o =>
    unfold Inbox.complaint
    split
    · simp [movingEntry, moving, ofInbox, clears]
    · split <;> simp [movingEntry, moving, ofInbox, clears, trace]
  | _ => simp [movingEntry, moving, ofInbox, clears, buffered, Inbox.settle, Nat.add_comm]

lemma moved_plain (plain : isPlain i = true)
    (same_read : (exec i e).1.stream.bytesRead = e.stream.bytesRead) :
    (does dataSizes (.own (.work i) : Deed η)).sum + movingEntry (.todo (.work i)) +
        buffered e.stream + e.stream.bytesRead =
      moving ((exec i e).2.map .todo) + buffered (exec i e).1.stream +
        (exec i e).1.stream.bytesRead + clears (⟨e, agenda⟩, .own (.work i)) +
        drops (⟨e, agenda⟩, .own (.work i)) := by
  have none_moving : moving ((exec i e).2.map .todo) = 0 := by
    refine moving_exec fun x leaves => ?_
    cases leaves with
    | inbox | hands | handsOver => cases plain
    | _ => rfl
  have nothing : (does dataSizes (.own (.work i) : Deed η)).sum = 0 ∧
      movingEntry (.todo (.work i)) = 0 ∧ clears (⟨e, agenda⟩, .own (.work i)) = 0 ∧
      drops (⟨e, agenda⟩, .own (.work i)) = 0 := by
    cases i with
    | perform job | deliver item | handOver bytes | inbox j => cases plain
    | _ => exact ⟨rfl, rfl, rfl, rfl⟩
  obtain ⟨none_done, none_now, none_cleared, none_dropped⟩ := nothing
  rw [none_moving, none_done, none_now, none_cleared, none_dropped, same_read, buffered,
    buffered, (inbox_plain plain).1]
  omega

/-- Each instruction moves the bytes that were received from one account to another. -/
lemma moved_exec (i : StreamInstr η) (e : Endpoint η) (agenda : Agenda η) :
    (does dataSizes (.own (.work i) : Deed η)).sum + movingEntry (.todo (.work i)) +
        buffered e.stream + e.stream.bytesRead =
      moving ((exec i e).2.map .todo) + buffered (exec i e).1.stream +
        (exec i e).1.stream.bytesRead + clears (⟨e, agenda⟩, .own (.work i)) +
        drops (⟨e, agenda⟩, .own (.work i)) := by
  cases i with
  | perform job =>
    have moved := moved_perform e job agenda
    have same := (exec_counters (i := .perform job) (e := e) (by simp) (by simp)).2
    simp only [exec, does, movingEntry] at same ⊢
    omega
  | inbox j =>
    have moved := moved_inbox e j agenda
    have same := (exec_counters (i := .inbox j) (e := e) (by simp) (by simp)).2
    have none_dropped : drops (⟨e, agenda⟩, .own (.work (.inbox j))) = 0 := rfl
    simp only [does, List.sum_nil, none_dropped]
    omega
  | deliver item =>
    cases item with
    | data bytes =>
      simp only [exec, deliver, does, clears, drops]
      (repeat' split) <;> simp [moving, movingEntry, Item.size]
    | fin trailers =>
      simp [exec, deliver, does, clears, drops, moving, movingEntry, Item.size, trace]
  | handOver bytes =>
    simp [exec, modify, does, clears, drops, moving, movingEntry, trace, buffered]
    omega
  | attempt w =>
    have same := (written_attempt e w).1
    exact moved_plain rfl same
  | _ => exact moved_plain rfl (exec_counters (by simp) (by simp)).2

/-- All data whose job is done was handed to the consumer, or is on its way there, or was taken
out by a reset, or was dropped. -/
lemma received_of_runs (run : Machine.Run component may (.idle (fresh o owner)) h m)
    (asked : ∀ m is, may m is → Asked allowed is) :
    (done dataSizes h).sum = m.state.stream.bytesRead + moving m.agenda +
      buffered m.state.stream + clearedSize h + droppedSize h := by
  induction run with
  | start => rfl
  | @step h m m' a run move ih =>
    rw [done_snoc, List.sum_append, clearedSize_snoc, droppedSize_snoc]
    cases move using Machine.Move.elim with
    | work e i rest =>
      have moved := moved_exec i e (.todo (.work i) :: rest)
      simp only [moving_cons, moving_append, component] at ih moved ⊢
      omega
    | call e c rest | note e s rest =>
      simpa [does, clears, drops, movingEntry] using ih
    | invoke m is may =>
      cases asked m is may <;> simpa [Machine.invoke, does, clears, drops, movingEntry] using ih
    | reply e c rest f =>
      have none_resumed : moving ((component.resume c (f c)).map .todo : Agenda η) = 0 := by
        cases c with
        | conn p => cases p <;> rfl
        | hook k => cases k <;> rfl
      simp only [moving_append, none_resumed, does, clears, drops]
      simpa [movingEntry] using ih

/-- What is received is reported as the operation is called. -/
lemma reported_exec (i : StreamInstr η) (e : Endpoint η) (agenda : Agenda η) :
    (asks dataSizes (⟨e, agenda⟩, .own (.work i))).sum =
      outstanding reportedRead ((exec i e).2.map .todo) := by
  by_cases enters : ∃ t op, i = .enter t op
  · obtain ⟨t, op, rfl⟩ := enters
    cases op with
    | writeHeaders block first fin flush p => cases first <;> rfl
    | updatePriority p =>
      simp only [asks, exec, begin]
      split <;> rfl
    | _ => rfl
  · have none_asked : asks dataSizes (⟨e, agenda⟩, .own (.work i)) = [] := by
      cases i with
      | enter t op => exact absurd ⟨t, op, rfl⟩ enters
      | _ => rfl
    rw [none_asked, outstanding_exec]
    · rfl
    · intro x leaves
      cases leaves with
      | counts t op => exact absurd ⟨t, op, rfl⟩ enters
      | @sends job p outgoing | @sendsQueued w p outgoing =>
        cases p with
        | countRead len => cases outgoing
        | _ => rfl
      | _ => rfl

lemma reported_of_runs (run : Machine.Run component may (.idle (fresh o owner)) h m) :
    (asked dataSizes h).sum = total reportedRead h + outstanding reportedRead m.agenda := by
  refine value_of_runs (fun h _ => (asked dataSizes h).sum) rfl (fun h e i rest => ?_)
    (fun h m a outer => ?_) run
  · rw [asked_snoc, List.sum_append, reported_exec]
  · have none_asked : asks dataSizes (m, a) = [] := by
      unfold asks
      split
      · rename_i t op same
        exact absurd same (outer _)
      · rfl
    rw [asked_snoc, none_asked, List.append_nil]

/-! ## The balance -/

/-- How the accounts of a stream agree with its calls. -/
structure Balanced (h : Past η) (m : Live η) : Prop where
  written : m.state.stream.bytesWritten = total sentSize h
  written_reported : m.state.stream.bytesWritten = total reportedWritten h
  read : m.state.stream.bytesRead = total handedSize h
  /-- What was reported was handed over, is buffered, was taken out by a reset, was dropped, or is
  posted. -/
  read_reported : total reportedRead h = m.state.stream.bytesRead + buffered m.state.stream +
    clearedSize h + droppedSize h + (posted dataSizes m.state).sum
  handed : (delivered h).map Prod.fst = consumed h
  /-- Each delivery that was charged has given its bytes back once, in its turn. -/
  credited : credits h = (delivered h).flatMap credit

/-- Whatever is called on any thread and by any callback, as long as the loop keeps its runner:
whenever no call is in progress, the accounts balance. -/
theorem balanced_of_runs (run : RunsAnyhow Kept o owner h m) (returned : m.agenda = []) :
    Balanced h m := by
  obtain ⟨written, written_reported, read⟩ := counters_of_runs run
  have received := received_of_runs run fun _ _ asked => asked
  have reported := reported_of_runs run
  have accounted := (accounted_of_runs dataSizes_ofCalls run).sum_eq
  obtain ⟨handed, credited, _⟩ := crediting_of_runs run
  rw [returned] at written written_reported read received reported handed credited
  have none_on_way : due dataSizes m.agenda = [] ∧ coming dataSizes m.agenda = [] := by
    rw [returned]
    exact ⟨rfl, rfl⟩
  rw [placed, none_on_way.1, none_on_way.2, List.append_nil, List.append_nil,
    List.sum_append] at accounted
  have none_moving : moving ([] : Agenda η) = 0 := rfl
  rw [none_moving] at received
  simp only [outstanding_nil, Nat.add_zero] at written written_reported read received reported
  refine ⟨written, written_reported, read, ?_, ?_, ?_⟩
  · omega
  · simpa [handing] using handed
  · simpa [creditsDue] using credited.symm

/-- A paused stream delivers one byte before it is allocated, two bytes that are given back, and
three when its peer has finished. It sends two bytes; a reset clears four, one comes too late,
and five are posted by another thread. -/
def accountsOfAll : Past Nat × Live Nat :=
  Machine.drive component 200
    [.ask [.enter 0 (.data ⟨#[1]⟩)], .reply (plainly true .success),
      .ask [.enter 0 (.fetch 1)], .reply (plainly true .success),
      .ask [.enter 0 (.allocate 7)], .reply (plainly true .success),
      .ask [.enter 0 (.data ⟨#[1, 2]⟩)], .reply (plainly true .success),
      .ask [.enter 0 (.fetch 1)], .reply (plainly true .success), .reply (plainly true .success),
      .ask [.enter 0 (.writeData (some ⟨#[1, 2]⟩) false 0)], .reply (plainly true .success),
      .reply (plainly true .success),
      .ask [.setRemote false],
      .ask [.enter 0 (.data ⟨#[1, 2, 3]⟩)], .reply (plainly true .success),
      .ask [.enter 0 (.fetch 1)], .reply (plainly true .success),
      .ask [.enter 0 (.data ⟨#[1, 2, 3, 4]⟩)], .reply (plainly true .success),
      .ask [.enter 0 (.reset 8)], .reply (plainly true .success),
      .ask [.enter 0 (.data ⟨#[1]⟩)], .reply (plainly true .success),
      .ask [.enter 1 (.data ⟨#[1, 2, 3, 4, 5]⟩)], .reply (plainly true .success)]
    (.idle (fresh (.withStartPaused .standard true) 0))

theorem balanced_accountsOfAll :
    RunsAnyhow Kept (.withStartPaused .standard true) 0 accountsOfAll.1 accountsOfAll.2 ∧
      accountsOfAll.2.agenda = [] ∧ Balanced accountsOfAll.1 accountsOfAll.2 ∧
      total sentSize accountsOfAll.1 = 2 ∧ total reportedRead accountsOfAll.1 = 16 ∧
      accountsOfAll.2.state.stream.bytesRead = 6 ∧ clearedSize accountsOfAll.1 = 4 ∧
      droppedSize accountsOfAll.1 = 1 ∧ posted dataSizes accountsOfAll.2.state = [5] ∧
      credits accountsOfAll.1 = [(7, 2)] := by
  have run : RunsAnyhow Kept (.withStartPaused .standard true) 0 accountsOfAll.1
      accountsOfAll.2 :=
    Machine.drive_run (fun _ _ _ => asked_of_isAsked kept_of_isKept) _ _ _ rfl
  exact ⟨run, rfl, balanced_of_runs run rfl, by decide +kernel, by decide +kernel, rfl,
    by decide +kernel, by decide +kernel, rfl, by decide +kernel⟩

end Endpoint

end StreamControl
