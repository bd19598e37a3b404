import StreamControl.Proofs.InboxRun
import StreamControl.Proofs.StreamRun

/-!
# The steps of a stream

Each instruction of a stream does one small thing and leaves the rest to others. `Leaves` says
once which instruction can leave which work; where some work cannot come from is read off its
cases. `Alters` says once what an instruction can change; what stays as it is is read off its cases.
-/

namespace StreamControl

/-- The job that an operation has done on the loop. -/
def Operation.job? {η : Type} : Operation η → Option (Job η)
  | .allocate _ | .setPriority _ | .runLoop | .dropLoop => none
  | .headers block p => some (.headers block p)
  | .data bytes => some (.data bytes)
  | .fin trailers => some (.fin trailers)
  | .reset code => some (.reset code)
  | .changePriority p => some (.changePriority p)
  | .customFrame frame => some (.customFrame frame)
  | .toggleWritable => some .toggleWritable
  | .close => some .close
  | .exception cause => some (.exception cause)
  | .writeFrame frame p => some (.writeFrame frame p)
  | .writeHeaders block true last flush p => some (.writeHeaders block last flush p)
  | .writeHeaders block false last flush p => some (.enqueue (.headers block last flush p))
  | .writeData chunk last p => some (.enqueue (.data chunk last p))
  | .writeReset code => some (.writeReset code)
  | .updatePriority p => some (.announcePriority p)
  | .pause => some .pause
  | .fetch amount => some (.fetch amount)

/-- A primitive that keeps count, used at once by whoever calls an operation. -/
def Primitive.isCounting {η : Type} : Primitive η → Bool
  | .countRead _ | .flushRead | .flushWritten => true
  | _ => false

/-- A primitive that goes with what is sent to the peer. -/
def Primitive.isOutgoing {η : Type} : Primitive η → Bool
  | .sendFrame .. | .sendHeaders .. | .sendData .. | .sendPriority .. | .sendReset .. => true
  | .countWritten _ => true
  | _ => false

/-- A hook that hands an item to the consumer. -/
def Hook.isHanding {η : Type} : Hook η → Bool
  | .data _ | .fin _ => true
  | _ => false

/-- The stream fails a promise, or drops it. -/
def StreamNote.settles : StreamNote → Bool
  | .failed _ _ | .discarded _ => true
  | _ => false

namespace Endpoint

variable {η : Type}

/-- The outbox hears what the gate made of a write. -/
def isVerdict {μ : Type} : Outbox.Instr μ → Bool
  | .accepted | .refused _ => true
  | _ => false

/-- A runner goes on with what it is doing. -/
inductive GoesOn {τ : Type} : TaskLoop.Instr τ → TaskLoop.Instr τ → Prop
  | first (t : Thread) : GoesOn (.pass t) (.passNext 0)
  | next (ran : Nat) : GoesOn (.passNext ran) (.passNext (ran + 1))
  | firstPolled (t : Thread) (w : Waker) : GoesOn (.poll t w) (.pollNext w)
  | nextPolled (w : Waker) : GoesOn (.pollNext w) (.pollNext w)

/-- What an instruction of a stream can leave to do. -/
inductive Leaves : StreamInstr η → StreamTodo η → Prop
  | notes (i : StreamInstr η) {n : StreamNote} (settles : n.settles = false) : Leaves i (.note n)
  | hooks (i : StreamInstr η) {k : Hook η} (other : k.isHanding = false) :
    Leaves i (.call (.hook k))
  -- an operation
  | samples (t : Thread) (id : Nat) :
    Leaves (.enter t (.allocate id)) (.call (.conn (.canSend id)))
  | counts (t : Thread) (op : Operation η) {p : Primitive η} (counting : p.isCounting = true) :
    Leaves (.enter t op) (.call (.conn p))
  | asks (t : Thread) {op : Operation η} {job : Job η} (asked : op.job? = some job) :
    Leaves (.enter t op) (.work (.dispatch job))
  | passes (t : Thread) : Leaves (.enter t .runLoop) (.work (.loop (.pass t)))
  | drops (t : Thread) : Leaves (.enter t .dropLoop) (.work (.loop .dropRunner))
  | returns (t t' : Thread) (op : Operation η) : Leaves (.enter t op) (.work (.leave t'))
  -- a job on its way
  | performs (job : Job η) : Leaves (.dispatch job) (.work (.perform job))
  | posts (job : Job η) : Leaves (.dispatch job) (.work (.loop (.post job)))
  | runs (i : TaskLoop.Instr (Job η)) (job : Job η) : Leaves (.loop i) (.work (.perform job))
  | loses (i : TaskLoop.Instr (Job η)) (p : PromiseId) :
    Leaves (.loop i) (.note (.discarded p))
  | goesOn {i j : TaskLoop.Instr (Job η)} (goes : GoesOn i j) :
    Leaves (.loop i) (.work (.loop j))
  | binds (id : Nat) (writable : Bool) : Leaves (.bind id writable) (.work (.dispatch .drain))
  -- a job
  | sends (job : Job η) {p : Primitive η} (outgoing : p.isOutgoing = true) :
    Leaves (.perform job) (.call (.conn p))
  | finishes (job : Job η) : Leaves (.perform job) (.work .finSent)
  | inbox (job : Job η) (i : Inbox.Instr Unit Item) : Leaves (.perform job) (.work (.inbox i))
  | settles (job : Job η) : Leaves (.perform job) (.work .settleData)
  | fails (job : Job η) (p : PromiseId) (cause : Fault) :
    Leaves (.perform job) (.note (.failed p cause))
  | outbox (job : Job η) {i : Outbox.Instr (Write η)} (other : isVerdict i = false) :
    Leaves (.perform job) (.work (.outbox i))
  -- an item on its way
  | delivers (i : Inbox.Instr Unit Item) : Leaves (.inbox i) (.work (.inbox .deliver))
  | hands (i : Inbox.Instr Unit Item) (item : Item) : Leaves (.inbox i) (.work (.deliver item))
  | credits (bytes : ByteArray) (id len : Nat) :
    Leaves (.deliver (.data bytes)) (.call (.conn (.returnCredit id len)))
  | handsOver (item : Item) (bytes : ByteArray) :
    Leaves (.deliver item) (.work (.handOver bytes))
  | handsData (bytes : ByteArray) : Leaves (.handOver bytes) (.call (.hook (.data bytes)))
  | handsFin (trailers : Trailers) :
    Leaves (.deliver (.fin trailers)) (.call (.hook (.fin trailers)))
  -- a write on its way
  | reports (i : Outbox.Instr (Write η)) : Leaves (.outbox i) (.work (.outbox .report))
  | drains (i : Outbox.Instr (Write η)) : Leaves (.outbox i) (.work (.outbox .drain))
  | tests (i : Outbox.Instr (Write η)) (w : Write η) : Leaves (.outbox i) (.work (.attempt w))
  | announces (i : Outbox.Instr (Write η)) :
    Leaves (.outbox i) (.work (.dispatch .announceDrained))
  | cancels (i : Outbox.Instr (Write η)) (p : PromiseId) (cause : Fault) :
    Leaves (.outbox i) (.note (.failed p cause))
  | sendsQueued (w : Write η) {p : Primitive η} (outgoing : p.isOutgoing = true) :
    Leaves (.attempt w) (.call (.conn p))
  | finishesQueued (w : Write η) : Leaves (.attempt w) (.work .finSent)
  | accepts (w : Write η) : Leaves (.attempt w) (.work (.outbox .accepted))
  | refuses (w w' : Write η) : Leaves (.attempt w) (.work (.outbox (.refused w')))

lemma leaves_begin (e : Endpoint η) (op : Operation η) :
    ∀ x ∈ (begin e op).2, Leaves (.enter e.thread op) x := by
  cases op with
  | allocate id => simpa [begin] using .samples _ id
  | data bytes | fin trailers | close =>
    simpa [begin] using ⟨.counts _ _ rfl, .asks _ rfl⟩
  | writeHeaders block first fin flush p => cases first <;> simpa [begin] using .asks _ rfl
  | updatePriority p =>
    simp only [begin]
    split
    · simp
    · simpa using .asks _ rfl
  | setPriority p => simp [begin]
  | runLoop => simpa [begin] using .passes _
  | dropLoop => simpa [begin] using .drops _
  | _ => simpa [begin] using .asks _ rfl

lemma leaves_headersOut {i : StreamInstr η}
    (sends : ∀ {p : Primitive η}, p.isOutgoing = true → Leaves i (.call (.conn p)))
    (finishes : Leaves i (.work .finSent)) (e : Endpoint η) (id : Nat) (block : η)
    (fin flush : Bool) (p : PromiseId) :
    ∀ x ∈ e.headersOut id block fin flush p, Leaves i x := by
  cases fin with
  | true => simpa [headersOut] using ⟨sends rfl, finishes⟩
  | false => simpa [headersOut] using sends rfl

lemma leaves_reset (job : Job η) (e : Endpoint η) (code : Nat) :
    ∀ x ∈ (e.reset code).2, Leaves (.perform job) x := by
  simp only [reset]
  split
  · simp
  · simpa [trace] using ⟨.outbox _ rfl, .notes _ rfl, .hooks _ rfl⟩

lemma leaves_perform (e : Endpoint η) (job : Job η) :
    ∀ x ∈ (e.perform job).2, Leaves (.perform job) x := by
  cases job with
  | drain | enqueue w => simpa [perform] using .outbox _ rfl
  | headers block p | customFrame frame | announceDrained => simpa [perform] using .hooks _ rfl
  | pause => simpa [perform] using .inbox _ _
  | fetch amount => simpa [perform, Inbox.fetch] using ⟨.inbox _ _, .inbox _ _⟩
  | exception cause =>
    simpa [perform, trace] using ⟨.notes _ rfl, .outbox _ rfl, .hooks _ rfl⟩
  | reset code => exact leaves_reset _ e code
  | data bytes =>
    simp only [perform]
    split
    · simpa [trace] using .notes _ rfl
    · simpa using ⟨.inbox _ _, .settles _⟩
  | fin trailers =>
    simp only [perform, Inbox.offer]
    split
    · simp
    · split
      · simpa [trace] using ⟨.notes _ rfl, .inbox _ _, .inbox _ _⟩
      · simpa using ⟨.inbox _ _, .inbox _ _⟩
  | changePriority p =>
    simp only [perform]
    split
    · simp
    · simpa using .hooks _ rfl
  | toggleWritable =>
    simp only [perform]
    split
    · simpa [trace] using ⟨.notes _ rfl, .outbox _ rfl⟩
    · simpa [trace] using .notes _ rfl
  | close =>
    simp only [perform]
    split
    · simp
    · simpa [trace] using ⟨.outbox _ rfl, .notes _ rfl, .hooks _ rfl⟩
  | writeFrame frame p =>
    simp only [perform]
    split
    · simpa using .fails _ _ _
    · simpa using .sends _ rfl
  | writeHeaders block fin flush p =>
    simp only [perform]
    split
    · simpa using .fails _ _ _
    · exact leaves_headersOut (.sends _) (.finishes _) e _ block fin flush p
  | writeReset code =>
    simp only [perform]
    split
    · split
      · simp
      · simpa [trace] using ⟨.notes _ rfl, .sends _ rfl, .inbox _ _, .outbox _ rfl⟩
    · rw [List.forall_mem_cons]
      exact ⟨.notes _ rfl, leaves_reset _ e code⟩
  | announcePriority p =>
    simp only [perform]
    split
    · simpa using .sends _ rfl
    · simp

lemma leaves_attempt (e : Endpoint η) (w : Write η) :
    ∀ x ∈ (e.attempt w).2, Leaves (.attempt w) x := by
  unfold attempt
  split
  · simpa using .refuses w w
  · simpa using .refuses w w
  · cases w with
    | headers block fin flush p =>
      rw [List.forall_mem_append]
      exact ⟨leaves_headersOut (.sendsQueued _) (.finishesQueued _) e _ block fin flush p,
        by simpa using .accepts _⟩
    | data chunk fin p =>
      cases fin with
      | true =>
        simpa [trace] using
          ⟨.sendsQueued _ rfl, .notes _ rfl, .sendsQueued _ rfl, .finishesQueued _,
            .accepts _⟩
      | false =>
        simpa [trace] using ⟨.sendsQueued _ rfl, .notes _ rfl, .sendsQueued _ rfl, .accepts _⟩

lemma leaves_inbox (b : Inbox Unit Item) (i : Inbox.Instr Unit Item) :
    ∀ x ∈ (Inbox.exec i b).2.flatMap ofInbox, Leaves (.inbox i) (x : StreamTodo η) := by
  have effect := Inbox.exec_effect i b
  generalize (Inbox.exec i b).1 = b' at *
  generalize (Inbox.exec i b).2 = out at *
  cases effect with
  | pushed | granted => simpa [ofInbox] using .delivers _
  | hands free credited consumer pending => simpa [ofInbox] using .hands _ _
  | emptied free credited consumer empty =>
    unfold Inbox.relief
    split
    · cases b.onDrained <;> simp [ofInbox]
    · simp
  | @consumed _ o =>
    rw [List.flatMap_append, List.forall_mem_append]
    refine ⟨?_, by simpa [ofInbox] using .delivers _⟩
    unfold Inbox.complaint
    split
    · simp
    · split
      · simpa [ofInbox] using .hooks _ rfl
      · simpa [ofInbox, trace] using .notes _ rfl
  | _ => simp [ofInbox]

lemma leaves_outbox (q : Outbox (Write η)) (i : Outbox.Instr (Write η)) :
    ∀ x ∈ (Outbox.exec i q).2.flatMap ofOutbox, Leaves (.outbox i) x := by
  have effect := Outbox.exec_effect i q
  generalize (Outbox.exec i q).1 = q' at *
  generalize (Outbox.exec i q).2 = out at *
  cases effect with
  | late closed | dropped closed => simpa [ofOutbox] using .cancels _ _ _
  | first => simpa [ofOutbox] using ⟨.drains _, .reports _⟩
  | queued => simpa [ofOutbox] using .reports _
  | tests => simpa [ofOutbox] using .tests _ _
  | drained => simpa [ofOutbox, trace] using ⟨.notes _ rfl, .announces _⟩
  | passed => simpa [ofOutbox] using .drains _
  | putBack => simpa [ofOutbox, trace] using .notes _ rfl
  | @closes q cause opened =>
    rw [List.flatMap_append, List.forall_mem_append]
    constructor
    · unfold Outbox.warning
      split
      · simp
      · simpa [ofOutbox, trace] using .notes _ rfl
    · intro x hx
      obtain ⟨_, cancelled, hx⟩ := List.mem_flatMap.mp hx
      obtain ⟨w, _, rfl⟩ := List.mem_map.mp cancelled
      obtain rfl := List.mem_singleton.mp hx
      exact .cancels _ _ _
  | _ => simp [ofOutbox]

lemma goesOn_of_mem {l : TaskLoop (Job η)} {i j : TaskLoop.Instr (Job η)}
    (left : .work j ∈ (TaskLoop.exec i l).2) : GoesOn i j := by
  cases i with
  | post task =>
    simp only [TaskLoop.exec, TaskLoop.wake] at left
    split at left
    · simp at left
    · simp at left
  | pass t =>
    simp only [TaskLoop.exec] at left
    split at left
    · obtain rfl : j = .passNext 0 := by simpa using left
      exact .first t
    · cases left
  | passNext ran =>
    simp only [TaskLoop.exec] at left
    split at left
    · obtain rfl : j = .passNext (ran + 1) := by simpa using left
      exact .next ran
    · split at left <;> simp at left
  | poll t w =>
    simp only [TaskLoop.exec] at left
    split at left
    · obtain rfl : j = .pollNext w := by simpa using left
      exact .firstPolled t w
    · cases left
  | pollNext w =>
    simp only [TaskLoop.exec] at left
    split at left
    · obtain rfl : j = .pollNext w := by simpa using left
      exact .nextPolled w
    · split at left <;> simp at left
  | serve | dropRunner =>
    simp only [TaskLoop.exec] at left
    split at left <;> simp at left
  | dropHandle =>
    simp only [TaskLoop.exec, TaskLoop.wake] at left
    split at left <;> simp at left
  | addHandle => cases left
  | dropHandles => simp [TaskLoop.exec, TaskLoop.wake] at left

lemma leaves_loop (l : TaskLoop (Job η)) (i : TaskLoop.Instr (Job η)) :
    ∀ x ∈ (TaskLoop.exec i l).2.flatMap ofLoop, Leaves (.loop i) x := by
  intro x hx
  obtain ⟨y, hy, hx⟩ := List.mem_flatMap.mp hx
  rcases y with j | ⟨⟨job⟩⟩ | n
  · obtain rfl := List.mem_singleton.mp hx
    exact .goesOn (goesOn_of_mem hy)
  · obtain rfl := List.mem_singleton.mp hx
    exact .runs i job
  · cases n with
    | lost job =>
      obtain ⟨p, _, rfl⟩ := by simpa [ofLoop] using hx
      exact .loses _ _
    | passed ran | trace t =>
      obtain rfl := List.mem_singleton.mp hx
      exact .notes _ rfl
    | polled w done | woken w => cases hx

/-- An instruction leaves what `Leaves` says, and nothing else. -/
theorem exec_leaves (i : StreamInstr η) (e : Endpoint η) : ∀ x ∈ (exec i e).2, Leaves i x := by
  cases i with
  | enter t op =>
    simp only [exec]
    rw [List.forall_mem_append]
    exact ⟨leaves_begin _ op, by simpa using .returns t _ op⟩
  | leave t | setRemote remoteOpen => simp [exec]
  | dispatch job =>
    simp only [exec]
    split
    · simpa using .performs job
    · simpa using .posts job
  | perform job => exact leaves_perform e job
  | bind id writable =>
    simp only [exec, bind]
    split
    · simpa [trace] using .notes _ rfl
    · simpa [trace] using ⟨.notes _ rfl, .binds id writable⟩
  | settleData =>
    simp only [exec]
    split
    · simp
    · simpa [trace] using .notes _ rfl
  | deliver item =>
    cases item with
    | data bytes =>
      simp only [exec, deliver]
      rw [List.forall_mem_append]
      refine ⟨?_, by simpa using .handsOver _ bytes⟩
      split
      · split
        · simpa using .credits bytes _ _
        · simp
      · simp
    | fin trailers => simpa [exec, deliver, trace] using ⟨.notes _ rfl, .handsFin _⟩
  | handOver bytes => simpa [exec, trace] using ⟨.notes _ rfl, .handsData _⟩
  | attempt w => exact leaves_attempt e w
  | finSent => simpa [exec] using .hooks _ rfl
  | inbox i => exact leaves_inbox e.stream.inbox i
  | outbox i => exact leaves_outbox e.stream.outbox i
  | loop i => exact leaves_loop e.loop i

/-! ## What an instruction changes -/

/-- What an instruction of a stream can make of it. -/
inductive Alters : StreamInstr η → Endpoint η → Endpoint η → Prop
  | keeps (i : StreamInstr η) (e : Endpoint η) : Alters i e e
  -- an operation
  | enters (t : Thread) (op : Operation η) (e : Endpoint η) :
    Alters (.enter t op) e { e with thread := t }
  | stores (t : Thread) {op : Operation η} (e : Endpoint η) {p : Priority}
      (stored : op = .updatePriority p ∨ op = .setPriority p) :
    Alters (.enter t op) e (modify { e with thread := t } ({ · with priority := p }))
  | returns (t : Thread) (e : Endpoint η) : Alters (.leave t) e { e with thread := t }
  -- a job
  | resets {job : Job η} {code : Nat} (e : Endpoint η)
      (resets : job = .reset code ∨ job = .writeReset code) :
    Alters (.perform job) e
      (e.modify ({ · with resetCode := some code, inbox := e.stream.inbox.clear.1 }))
  | sendsReset (code : Nat) (e : Endpoint η) :
    Alters (.perform (.writeReset code)) e (e.modify ({ · with resetCode := some code }))
  | changesPriority (p : Priority) (e : Endpoint η) :
    Alters (.perform (.changePriority p)) e (e.modify ({ · with priority := p }))
  | toggles (e : Endpoint η) :
    Alters (.perform .toggleWritable) e (e.modify ({ · with writable := !e.stream.writable }))
  | closes (e : Endpoint η) : Alters (.perform .close) e (e.modify ({ · with closed := true }))
  -- what a stream does itself
  | binds (id : Nat) (writable : Bool) {e : Endpoint η} (first : e.stream.slot = .unallocated) :
    Alters (.bind id writable) e (e.modify ({ · with slot := .allocated id, writable }))
  | settles (e : Endpoint η) :
    Alters .settleData e (e.modify ({ · with inbox := e.stream.inbox.settle.1 }))
  | writes (w : Write η) (e : Endpoint η) (len : Nat) :
    Alters (.attempt w) e (e.modify fun s => { s with bytesWritten := s.bytesWritten + len })
  | reads (bytes : ByteArray) (e : Endpoint η) :
    Alters (.handOver bytes) e (e.modify fun s => { s with bytesRead := s.bytesRead + bytes.size })
  | finishes (e : Endpoint η) : Alters .finSent e (e.modify ({ · with finSent := true }))
  | setsRemote (remoteOpen : Bool) (e : Endpoint η) :
    Alters (.setRemote remoteOpen) e { e with remoteOpen }
  -- its parts
  | inbox (j : Inbox.Instr Unit Item) (e : Endpoint η) :
    Alters (.inbox j) e (e.modify ({ · with inbox := (Inbox.exec j e.stream.inbox).1 }))
  | outbox (j : Outbox.Instr (Write η)) (e : Endpoint η) :
    Alters (.outbox j) e (e.modify ({ · with outbox := (Outbox.exec j e.stream.outbox).1 }))
  | loop (j : TaskLoop.Instr (Job η)) (e : Endpoint η) :
    Alters (.loop j) e { e with loop := (TaskLoop.exec j e.loop).1 }

lemma alters_enter (t : Thread) (op : Operation η) (e : Endpoint η) :
    Alters (.enter t op) e (exec (.enter t op) e).1 := by
  cases op with
  | writeHeaders block first fin flush p => cases first <;> exact .enters t _ e
  | updatePriority p =>
    simp only [exec, begin]
    split
    · exact .enters t _ e
    · exact .stores t e (.inl rfl)
  | setPriority p => exact .stores t e (.inr rfl)
  | _ => exact .enters t _ e

lemma alters_reset {job : Job η} {code : Nat} (e : Endpoint η)
    (resets : job = .reset code ∨ job = .writeReset code) :
    Alters (.perform job) e (e.reset code).1 := by
  simp only [reset]
  split
  · exact .keeps _ e
  · exact .resets e resets

lemma alters_perform (e : Endpoint η) (job : Job η) :
    Alters (.perform job) e (e.perform job).1 := by
  cases job with
  | reset code => exact alters_reset e (.inl rfl)
  | writeReset code =>
    simp only [perform]
    split
    · split
      · exact .keeps _ e
      · exact .sendsReset code e
    · exact alters_reset e (.inr rfl)
  | changePriority p =>
    simp only [perform]
    split
    · exact .keeps _ e
    · exact .changesPriority p e
  | toggleWritable => exact .toggles e
  | close =>
    simp only [perform]
    split
    · exact .keeps _ e
    · exact .closes e
  | data bytes | fin trailers | writeFrame frame p | writeHeaders block fin flush p
  | announcePriority p =>
    simp only [perform]
    (repeat' split) <;> exact .keeps _ e
  | _ => exact .keeps _ e

/-- An instruction changes what `Alters` says, and nothing else. -/
theorem exec_alters (i : StreamInstr η) (e : Endpoint η) : Alters i e (exec i e).1 := by
  cases i with
  | enter t op => exact alters_enter t op e
  | leave t => exact .returns t e
  | dispatch job => exact .keeps _ e
  | perform job => exact alters_perform e job
  | bind id writable =>
    simp only [exec, bind]
    split
    · exact .keeps _ e
    · exact .binds id writable ‹_›
  | settleData => exact .settles e
  | deliver item => cases item <;> exact .keeps _ e
  | handOver bytes => exact .reads bytes e
  | attempt w =>
    simp only [exec, attempt]
    split
    · exact .keeps _ e
    · exact .keeps _ e
    · cases w with
      | headers block fin flush p => exact .keeps _ e
      | data chunk fin p => exact .writes _ e _
  | finSent => exact .finishes e
  | setRemote remoteOpen => exact .setsRemote remoteOpen e
  | inbox j => exact .inbox j e
  | outbox j => exact .outbox j e
  | loop j => exact .loop j e

/-! ## What is not left -/

section Views

variable {β : Type} {f : Entry (StreamInstr η) (StreamCall η) StreamNote → List β}
  {p : Entry (StreamInstr η) (StreamCall η) StreamNote → Bool} {i : StreamInstr η} {e : Endpoint η}

lemma view_exec (none_left : ∀ x, Leaves i x → f (.todo x) = []) :
    ((exec i e).2.map .todo).flatMap f = [] := by
  rw [List.flatMap_map, List.flatMap_eq_nil_iff]
  exact fun x hx => none_left x (exec_leaves i e x hx)

lemma any_exec (none_left : ∀ x, Leaves i x → p (.todo x) = false) :
    ((exec i e).2.map .todo).any p = false := by
  rw [List.any_map, List.any_eq_false]
  intro x hx left
  cases (none_left x (exec_leaves i e x hx)).symm.trans left

lemma countP_exec (none_left : ∀ x, Leaves i x → p (.todo x) = false) :
    ((exec i e).2.map .todo).countP p = 0 := by
  rw [List.countP_eq_zero, ← List.any_eq_false]
  exact any_exec none_left

/-- The answer to a call leads to a binding, or tells the inbox what became of an item. -/
lemma view_resume (bound : ∀ id writable, f (.todo (.work (.bind id writable))) = [])
    (consumed : ∀ o, f (.todo (.work (.inbox (.consumed o)))) = []) (c : StreamCall η)
    (r : c.Reply) : ((component.resume c r).map .todo).flatMap f = [] := by
  cases c with
  | conn p =>
    cases p with
    | canSend id => exact List.append_eq_nil_iff.mpr ⟨bound id r, rfl⟩
    | _ => rfl
  | hook k =>
    cases k with
    | data bytes | fin trailers => exact List.append_eq_nil_iff.mpr ⟨consumed r, rfl⟩
    | _ => rfl

end Views

end Endpoint
end StreamControl
