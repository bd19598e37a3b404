import StreamControl.Proofs.StreamFraming

/-!
# The two directions of a stream

What a stream receives and what it sends meet in one record. But an operation of one direction leads
to work of this direction alone, which neither looks at what belongs to the other one nor changes
it. And this comes to an end: each instruction leaves less to do than there was.
-/

namespace StreamControl

inductive Direction where
  | inward
  | outward
  deriving DecidableEq

/-- Something received, or the consumer's pace. -/
def Operation.isReceiving {η : Type} : Operation η → Bool
  | .headers .. | .data _ | .fin _ | .customFrame _ | .pause | .fetch _ => true
  | _ => false

/-- Something to be sent, or its flow control. -/
def Operation.isSending {η : Type} : Operation η → Bool
  | .writeFrame .. | .writeHeaders .. | .writeData .. | .toggleWritable | .updatePriority _ => true
  | _ => false

/-- A hook for what is received. -/
def Hook.isReceiving {η : Type} : Hook η → Bool
  | .headers .. | .data _ | .fin _ | .customFrame _ | .exception _ => true
  | _ => false

namespace Direction

variable {η : Type}

def other : Direction → Direction
  | inward => outward
  | outward => inward

def ownsOperation : Direction → Operation η → Bool
  | inward => Operation.isReceiving
  | outward => Operation.isSending

def ownsJob : Direction → Job η → Bool
  | inward, .headers .. | inward, .data _ | inward, .fin _ | inward, .customFrame _
  | inward, .pause | inward, .fetch _ => true
  | outward, .toggleWritable | outward, .writeFrame .. | outward, .writeHeaders ..
  | outward, .enqueue _ | outward, .announcePriority _ | outward, .announceDrained => true
  | _, _ => false

def ownsCall : Direction → StreamCall η → Bool
  | inward, .hook k => k.isReceiving
  | inward, .conn (.returnCredit ..) | inward, .conn (.countRead _)
  | inward, .conn .flushRead => true
  | outward, .hook .finSent | outward, .hook .drained => true
  | outward, .conn (.sendFrame ..) | outward, .conn (.sendHeaders ..)
  | outward, .conn (.sendData ..) | outward, .conn (.sendPriority ..)
  | outward, .conn (.countWritten _) => true
  | _, _ => false

def ownsNote : Direction → StreamNote → Bool
  | _, .trace _ => true
  | outward, .failed _ _ => true
  | _, _ => false

/-- What is left to do for one direction alone. -/
def owns : Direction → StreamTodo η → Bool
  | d, .work (.enter _ op) => d.ownsOperation op
  | _, .work (.leave _) => true
  | d, .work (.dispatch job) | d, .work (.perform job) => d.ownsJob job
  | inward, .work .settleData | inward, .work (.deliver _) | inward, .work (.handOver _)
  | inward, .work (.inbox _) => true
  | outward, .work (.attempt _) | outward, .work .finSent => true
  | outward, .work (.outbox (.close _)) => false
  | outward, .work (.outbox _) => true
  | _, .work _ => false
  | d, .call c => d.ownsCall c
  | d, .note n => d.ownsNote n

end Direction

namespace Endpoint

variable {η : Type} {d : Direction} {e e' e'' : Endpoint η} {i : StreamInstr η} {job : Job η}
  {op : Operation η} {out out' : List (StreamTodo η)}

/-- A stream with what belongs to the other direction taken from another one. -/
def mixed : Direction → Endpoint η → Endpoint η → Endpoint η
  | .inward, e, e₀ => e.modify fun s =>
    { s with
      writable := e₀.stream.writable
      priority := e₀.stream.priority
      bytesWritten := e₀.stream.bytesWritten
      finSent := e₀.stream.finSent
      outbox := e₀.stream.outbox }
  | .outward, e, e₀ => e.modify fun s =>
    { s with inbox := e₀.stream.inbox, bytesRead := e₀.stream.bytesRead }

/-! ## How much is left to do -/

/-- What an instruction of the inbox leads to, whatever the inbox holds, but for the items. -/
def inboxLoad : Inbox.Instr Unit Item → Nat
  | .push _ => 10
  | .consumed _ => 3
  | .grant _ => 2
  | _ => 1

def outboxLoad : Outbox.Instr (Write η) → Nat
  | .submit _ => 16
  | .refused _ => 11
  | .accepted => 6
  | .drain => 5
  | _ => 1

/-- What is left to do weighs more than all it leads to, but for the items and writes that wait. -/
def load : StreamTodo η → Nat
  | .work (.enter _ _) => 21
  | .work (.dispatch .announceDrained) => 3
  | .work (.dispatch _) => 18
  | .work (.perform .announceDrained) => 2
  | .work (.perform _) => 17
  | .work .settleData => 2
  | .work (.deliver _) => 8
  | .work (.handOver _) => 6
  | .work (.attempt _) => 12
  | .work .finSent => 2
  | .work (.inbox j) => inboxLoad j
  | .work (.outbox j) => outboxLoad j
  | .call (.hook (.data _)) | .call (.hook (.fin _)) => 4
  | _ => 1

def loads : List (StreamTodo η) → Nat
  | [] => 0
  | x :: out => load x + loads out

/-- What the items and the writes that wait lead to. -/
def waiting (e : Endpoint η) : Nat :=
  8 * e.stream.inbox.pending.length + 9 * e.stream.outbox.pending.length

@[simp] lemma loads_nil : loads ([] : List (StreamTodo η)) = 0 := rfl

@[simp] lemma loads_cons (x : StreamTodo η) : loads (x :: out) = load x + loads out := rfl

@[simp] lemma loads_append : loads (out ++ out') = loads out + loads out' := by
  induction out with
  | nil => simp
  | cons x out ih => simp [ih, Nat.add_assoc]

/-! ## What is done for one direction -/

attribute [local simp] Direction.owns Direction.ownsJob Direction.ownsCall Direction.ownsNote

/-- What is done for one direction looks at nothing of the other one and changes nothing of it, is
all for this direction, and leaves less to do than there was. -/
structure Sided (d : Direction) (f : Endpoint η → Endpoint η × List (StreamTodo η))
    (e : Endpoint η) (before : Nat) : Prop where
  commutes : ∀ e₀, f (mixed d e e₀) = (mixed d (f e).1 e₀, (f e).2)
  own_part : (f e).1 = mixed d.other e (f e).1
  owned : ∀ x ∈ (f e).2, d.owns x = true
  less : loads (f e).2 + waiting (f e).1 < before + waiting e

section Shared

variable (d : Direction) (e e₀ : Endpoint η)

/-! What belongs to no direction stays as it is. -/

@[simp] lemma mixed_slot : (mixed d e e₀).stream.slot = e.stream.slot := by cases d <;> rfl

@[simp] lemma mixed_hasEnded : (mixed d e e₀).stream.hasEnded = e.stream.hasEnded := by
  cases d <;> rfl

@[simp] lemma mixed_directTarget :
    (mixed d e e₀).stream.directTarget = e.stream.directTarget := by cases d <;> rfl

@[simp] lemma mixed_connect : (mixed d e e₀).stream.connect = e.stream.connect := by
  cases d <;> rfl

@[simp] lemma mixed_onLoop : (mixed d e e₀).onLoop = e.onLoop := by cases d <;> rfl

end Shared

lemma sided_receiving (owned : Direction.inward.ownsJob job = true) (e : Endpoint η) :
    Sided .inward (perform · job) e (load (.work (.perform job))) := by
  cases job with
  | headers block p | customFrame frame | pause =>
    refine ⟨fun _ => rfl, rfl, ?_, ?_⟩
    · simp [perform, Hook.isReceiving]
    · simp [perform, load, inboxLoad]
  | data bytes =>
    constructor
    · intro e₀
      simp only [perform, mixed_hasEnded, mixed_slot]
      split <;> rfl
    · simp only [perform]
      split <;> rfl
    · simp only [perform]
      split <;> simp [trace]
    · simp only [perform]
      split <;> simp [load, inboxLoad, trace]
  | fin trailers =>
    constructor
    · intro e₀
      simp only [perform, mixed_hasEnded, mixed_slot, mixed_connect]
      (repeat' split) <;> rfl
    · simp only [perform]
      (repeat' split) <;> rfl
    · simp only [perform, Inbox.offer]
      (repeat' split) <;> simp [trace]
    · simp only [perform, Inbox.offer]
      (repeat' split) <;> simp [load, inboxLoad, trace]
  | fetch amount =>
    refine ⟨fun _ => rfl, rfl, ?_, ?_⟩
    · simp [perform, Inbox.fetch]
    · simp [perform, Inbox.fetch, load, inboxLoad]
  | _ => cases owned

lemma sided_sending (owned : Direction.outward.ownsJob job = true) (e : Endpoint η) :
    Sided .outward (perform · job) e (load (.work (.perform job))) := by
  cases job with
  | toggleWritable =>
    constructor
    · intro e₀
      rfl
    · rfl
    · simp only [perform]
      split <;> simp [trace]
    · simp only [perform]
      split <;> simp [load, outboxLoad, trace, waiting, modify]
  | writeFrame frame p =>
    constructor
    · intro e₀
      simp only [perform, mixed_directTarget]
      split <;> rfl
    · simp only [perform]
      split <;> rfl
    · simp only [perform]
      split <;> simp
    · simp only [perform]
      split <;> simp [load]
  | writeHeaders block fin flush p =>
    constructor
    · intro e₀
      simp only [perform, mixed_directTarget]
      split <;> rfl
    · simp only [perform]
      split <;> rfl
    · simp only [perform, headersOut]
      (repeat' split) <;> simp
    · simp only [perform, headersOut]
      (repeat' split) <;> simp [load]
  | enqueue w | announceDrained =>
    refine ⟨fun _ => rfl, rfl, ?_, ?_⟩
    · simp [perform]
    · simp [perform, load, outboxLoad]
  | announcePriority p =>
    constructor
    · intro e₀
      simp only [perform, mixed_slot]
      split <;> rfl
    · simp only [perform]
      split <;> rfl
    · simp only [perform]
      split <;> simp
    · simp only [perform]
      split <;> simp [load]
  | _ => cases owned

lemma sided_perform (owned : d.ownsJob job = true) (e : Endpoint η) :
    Sided d (perform · job) e (load (.work (.perform job))) := by
  cases d with
  | inward => exact sided_receiving owned e
  | outward => exact sided_sending owned e

lemma sided_enter (owned : d.ownsOperation op = true) (e : Endpoint η) :
    Sided d (exec (.enter e.thread op)) e (load (.work (.enter e.thread op) : StreamTodo η)) := by
  cases d with
  | inward =>
    cases op with
    | headers block p | data bytes | fin trailers | customFrame frame | pause | fetch amount =>
      refine ⟨fun _ => rfl, rfl, ?_, ?_⟩
      · simp [exec, begin]
      · simp [exec, begin, load, waiting]
    | _ => cases owned
  | outward =>
    cases op with
    | writeHeaders block first fin flush p =>
      cases first with
      | true | false =>
        refine ⟨fun _ => rfl, rfl, ?_, ?_⟩
        · simp [exec, begin]
        · simp [exec, begin, load, waiting]
    | writeFrame frame p | writeData chunk fin p | toggleWritable =>
      refine ⟨fun _ => rfl, rfl, ?_, ?_⟩
      · simp [exec, begin]
      · simp [exec, begin, load, waiting]
    | updatePriority p =>
      constructor
      · intro e₀
        have same : (mixed .outward e e₀).stream.priority = e.stream.priority := rfl
        simp only [exec, begin, same]
        split <;> rfl
      · simp only [exec, begin]
        split <;> rfl
      · simp only [exec, begin]
        split <;> simp
      · simp only [exec, begin]
        split <;> simp [load, waiting, modify]
    | _ => cases owned

lemma owned_ofInbox (x : Todo (Inbox.Instr Unit Item) (Inbox.Call Unit Item) Inbox.Note) :
    ∀ y ∈ (ofInbox x : List (StreamTodo η)), Direction.inward.owns y = true := by
  cases x with
  | work j => simp [ofInbox]
  | call c =>
    cases c <;> simp [ofInbox, Hook.isReceiving]
  | note n => cases n <;> simp [ofInbox, trace]

/-- An item that is pushed leads to its delivery, and a delivery to the next one only for an item
that is gone. -/
lemma inbox_less (j : Inbox.Instr Unit Item) (b : Inbox Unit Item) :
    loads ((Inbox.exec j b).2.flatMap ofInbox : List (StreamTodo η)) +
        8 * (Inbox.exec j b).1.pending.length < inboxLoad j + 8 * b.pending.length := by
  have effect := Inbox.exec_effect j b
  generalize (Inbox.exec j b).1 = b' at *
  generalize (Inbox.exec j b).2 = left at *
  cases effect with
  | pushed =>
    simp only [List.flatMap_cons, List.flatMap_nil, ofInbox, loads_append, loads_cons, loads_nil,
      load, inboxLoad, List.length_append, List.length_singleton]
    omega
  | hands free credited consumer pending =>
    simp only [List.flatMap_cons, List.flatMap_nil, ofInbox, loads_append, loads_cons, loads_nil,
      load, inboxLoad, pending, List.length_cons]
    omega
  | emptied =>
    have nothing : loads ((Inbox.relief b).flatMap ofInbox : List (StreamTodo η)) = 0 := by
      unfold Inbox.relief
      split
      · cases b.onDrained <;> rfl
      · rfl
    simp [nothing, inboxLoad]
  | @consumed _ o =>
    have complains : loads ((Inbox.complaint b o).flatMap ofInbox : List (StreamTodo η)) ≤ 1 := by
      unfold Inbox.complaint
      split
      · exact Nat.zero_le 1
      · split <;> simp [ofInbox, load, trace]
    simp only [List.flatMap_append, List.flatMap_cons, List.flatMap_nil, ofInbox, loads_append,
      loads_cons, loads_nil, load, inboxLoad]
    omega
  | cleared =>
    simp only [List.flatMap_cons, List.flatMap_nil, ofInbox, inboxLoad, loads_append, loads_nil,
      List.length_nil]
    omega
  | _ => simp [ofInbox, load, inboxLoad, Inbox.settle]

lemma sided_inbox (j : Inbox.Instr Unit Item) (e : Endpoint η) :
    Sided .inward (exec (.inbox j)) e (load (.work (.inbox j) : StreamTodo η)) := by
  refine ⟨fun _ => rfl, rfl, ?_, ?_⟩
  · simp only [exec, List.mem_flatMap]
    rintro y ⟨x, -, hy⟩
    exact owned_ofInbox x y hy
  · have less := inbox_less (η := η) j e.stream.inbox
    simp only [exec, modify, waiting, load]
    omega

lemma owned_ofOutbox (x : Todo (Outbox.Instr (Write η)) (Outbox.Call (Write η)) Outbox.Note)
    (ongoing : ∀ cause, x ≠ .work (.close cause)) :
    ∀ y ∈ (ofOutbox x : List (StreamTodo η)), Direction.outward.owns y = true := by
  cases x with
  | work j =>
    cases j with
    | close cause => exact absurd rfl (ongoing cause)
    | _ => simp [ofOutbox]
  | call c =>
    cases c <;> simp [ofOutbox]
  | note n => cases n <;> simp [ofOutbox, trace]

/-- An outbox does not close itself. -/
lemma outbox_ongoing (j : Outbox.Instr (Write η)) (q : Outbox (Write η)) :
    ∀ x ∈ (Outbox.exec j q).2, ∀ cause, x ≠ .work (.close cause) := by
  have effect := Outbox.exec_effect j q
  generalize (Outbox.exec j q).1 = q' at *
  generalize (Outbox.exec j q).2 = left at *
  cases effect with
  | closes opened =>
    unfold Outbox.warning
    split <;> simp
  | _ => simp

lemma outbox_less (j : Outbox.Instr (Write η)) (ongoing : ∀ cause, j ≠ .close cause)
    (q : Outbox (Write η)) :
    loads ((Outbox.exec j q).2.flatMap ofOutbox : List (StreamTodo η)) +
        9 * (Outbox.exec j q).1.pending.length < outboxLoad j + 9 * q.pending.length := by
  have effect := Outbox.exec_effect j q
  generalize (Outbox.exec j q).1 = q' at *
  generalize (Outbox.exec j q).2 = left at *
  cases effect with
  | shut | closes => exact absurd rfl (ongoing _)
  | first opened untested unhalted empty => simp [ofOutbox, load, outboxLoad, empty]
  | tests opened untested pending =>
    simp [ofOutbox, load, outboxLoad, pending]
    omega
  | _ => simp [ofOutbox, load, outboxLoad, trace] <;> omega

lemma sided_outbox {j : Outbox.Instr (Write η)}
    (owned : Direction.outward.owns (.work (.outbox j)) = true) (e : Endpoint η) :
    Sided .outward (exec (.outbox j)) e (load (.work (.outbox j))) := by
  refine ⟨fun _ => rfl, rfl, ?_, ?_⟩
  · simp only [exec, List.mem_flatMap]
    rintro y ⟨x, hx, hy⟩
    exact owned_ofOutbox x (outbox_ongoing j e.stream.outbox x hx) y hy
  · have ongoing : ∀ cause, j ≠ .close cause := by
      rintro cause rfl
      cases owned
    have less := outbox_less j ongoing e.stream.outbox
    simp only [exec, modify, waiting, load]
    omega

lemma sided_attempt (w : Write η) (e : Endpoint η) :
    Sided .outward (exec (.attempt w)) e (load (.work (.attempt w))) := by
  constructor
  · intro e₀
    have same : (mixed .outward e e₀).stream.writable = e.stream.writable := rfl
    simp only [exec, attempt, mixed_slot, same]
    split
    · rfl
    · rfl
    · split <;> rfl
  · simp only [exec, attempt]
    split
    · rfl
    · rfl
    · split <;> rfl
  · simp only [exec, attempt, headersOut]
    (repeat' split) <;> simp [trace]
  · simp only [exec, attempt, headersOut]
    (repeat' split) <;> simp [load, outboxLoad, trace, waiting, modify]

lemma sided_deliver (item : Item) (e : Endpoint η) :
    Sided .inward (exec (.deliver item)) e (load (.work (.deliver item) : StreamTodo η)) := by
  cases item with
  | data bytes =>
    refine ⟨fun _ => rfl, rfl, ?_, ?_⟩
    · simp only [exec, deliver]
      (repeat' split) <;> simp
    · simp only [exec, deliver]
      (repeat' split) <;> simp [load]
  | fin trailers =>
    refine ⟨fun _ => rfl, rfl, ?_, ?_⟩
    · simp [exec, deliver, trace, Hook.isReceiving]
    · simp [exec, deliver, trace, load]

lemma sided_settleData (e : Endpoint η) :
    Sided .inward (exec .settleData) e (load (.work .settleData : StreamTodo η)) := by
  refine ⟨fun _ => rfl, rfl, ?_, ?_⟩
  · simp only [exec]
    split <;> simp [trace]
  · simp only [exec]
    split <;> simp [trace, load, waiting, modify, Inbox.settle]

lemma sided_handOver (bytes : ByteArray) (e : Endpoint η) :
    Sided .inward (exec (.handOver bytes)) e (load (.work (.handOver bytes) : StreamTodo η)) := by
  refine ⟨fun _ => rfl, rfl, ?_, ?_⟩
  · simp [exec, trace, Hook.isReceiving]
  · simp [exec, trace, load, waiting, modify]

lemma sided_finSent (e : Endpoint η) :
    Sided .outward (exec .finSent) e (load (.work .finSent : StreamTodo η)) := by
  refine ⟨fun _ => rfl, rfl, ?_, ?_⟩
  · simp [exec]
  · simp [exec, load, waiting, modify]

/-- On the loop, a job is done at once. -/
lemma sided_dispatch (owned : d.ownsJob job = true) (on_loop : e.onLoop = true) :
    Sided d (exec (.dispatch job)) e (load (.work (.dispatch job))) := by
  constructor
  · intro e₀
    simp only [exec, mixed_onLoop]
  · simp only [exec]
    cases d <;> rfl
  · simp only [exec, on_loop, if_true, List.forall_mem_singleton]
    cases d <;> exact owned
  · simp only [exec, on_loop, if_true, loads_cons, loads_nil]
    cases job <;> simp [load]

/-- Whatever is done on the loop for one direction keeps to it. -/
lemma sided_exec (owned : d.owns (.work i) = true)
    (within : IsWithin e.thread (.todo (.work i))) (on_loop : e.onLoop = true) :
    Sided d (exec i) e (load (.work i)) := by
  cases i with
  | enter t op =>
    obtain ⟨rfl, -⟩ := within
    exact sided_enter (by cases d <;> exact owned) e
  | leave t =>
    obtain rfl : t = e.thread := within
    refine ⟨fun _ => ?_, ?_, ?_, ?_⟩
    · cases d <;> rfl
    · cases d <;> rfl
    · simp [exec]
    · simp [exec, load, waiting]
  | dispatch job => exact sided_dispatch (by cases d <;> exact owned) on_loop
  | perform job => exact sided_perform (by cases d <;> exact owned) e
  | settleData =>
    cases d with
    | inward => exact sided_settleData e
    | outward => cases owned
  | deliver item =>
    cases d with
    | inward => exact sided_deliver item e
    | outward => cases owned
  | handOver bytes =>
    cases d with
    | inward => exact sided_handOver bytes e
    | outward => cases owned
  | attempt w =>
    cases d with
    | inward => cases owned
    | outward => exact sided_attempt w e
  | finSent =>
    cases d with
    | inward => cases owned
    | outward => exact sided_finSent e
  | inbox j =>
    cases d with
    | inward => exact sided_inbox j e
    | outward => cases owned
  | outbox j =>
    cases d with
    | inward => cases j <;> cases owned
    | outward => exact sided_outbox owned e
  | bind id writable | setRemote remoteOpen | loop j => cases d <;> cases owned

/-- An answer, too, leads to work of the direction of the call, and to less than the call. -/
lemma sided_resume {c : StreamCall η} (owned : d.ownsCall c = true) (r : c.Reply) :
    (∀ x ∈ resume c r, d.owns x = true) ∧ loads (resume c r) < load (.call c) := by
  cases d with
  | inward =>
    cases c with
    | conn p => cases p <;> first | (cases owned; done) | simp [resume, load]
    | hook k =>
      cases k <;> first | (cases owned; done) | simp [resume, load, inboxLoad]
  | outward =>
    cases c with
    | conn p => cases p <;> first | (cases owned; done) | simp [resume, load]
    | hook k => cases k <;> first | (cases owned; done) | simp [resume, load]

/-! ## Mixing -/

lemma mixed_mixed (e e₁ e₂ : Endpoint η) : mixed d (mixed d e e₁) e₂ = mixed d e e₂ := by
  cases d <;> rfl

lemma mixed_self (e : Endpoint η) : mixed d e e = e := by cases d <;> rfl

end Endpoint

end StreamControl
