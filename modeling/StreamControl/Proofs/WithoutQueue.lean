import StreamControl.Proofs.StreamRounds

/-!
# Without the writes that wait

Nothing that a stream does on its loop depends on its outbox, but for the writes that wait there. So
where the outbox is closed for good, all goes on as it would have gone on with the outbox open, less
what belongs to these writes.
-/

namespace StreamControl

/-- A call that goes with a write: it is sent, its bytes are counted, or its end is told. -/
def StreamCall.isOfWrites {η : Type} : StreamCall η → Bool
  | .conn (.sendHeaders ..) | .conn (.sendData ..) | .conn (.countWritten _) => true
  | .hook .drained | .hook .finSent => true
  | _ => false

def StreamNote.isOfWrites : StreamNote → Bool
  | .failed _ _ => true
  | .trace (.dataWritten ..) | .trace (.gateClosed _) | .trace .outboxDrained
  | .trace (.cancellingWrites ..) => true
  | _ => false

/-- A job for writes that wait. -/
def Job.isQueueing {η : Type} : Job η → Bool
  | .enqueue _ | .announceDrained => true
  | _ => false

/-- A job that sends a write right away. -/
def Job.isDirect {η : Type} : Job η → Bool
  | .writeFrame .. | .writeHeaders .. => true
  | _ => false

namespace Endpoint

variable {η : Type} {e e' : Endpoint η} {i : StreamInstr η} {q : Outbox (Write η)} {n : Nat}
  {fin : Bool} {is js out rest : List (StreamTodo η)} {x : StreamTodo η} {owner : Thread}

/-- What is seen of a write. -/
def isOfWrites : Signal (StreamCall η) StreamNote → Bool
  | .silent => false
  | .called c => c.isOfWrites
  | .noted n => n.isOfWrites

/-- Work for writes that wait, and what is seen of a write. -/
def isForWrites : StreamTodo η → Bool
  | .work (.outbox _) | .work (.attempt _) | .work .finSent => true
  | .work (.dispatch job) | .work (.perform job) => job.isQueueing
  | .work _ => false
  | .call c => c.isOfWrites
  | .note n => n.isOfWrites

/-- A closed outbox takes no notice of this. -/
def isVain : StreamTodo η → Bool
  | .work (.outbox .drain) | .work (.outbox (.close _)) => true
  | _ => false

/-- What leads to no write but by the outbox. -/
def isSteady : StreamTodo η → Bool
  | .work (.enter _ op) => op.job?.all fun job => !job.isQueueing && !job.isDirect
  | .work (.dispatch job) | .work (.perform job) => !job.isDirect
  | _ => true

/-- A stream with another outbox, and with what goes with writes as this has it. -/
def withQueue (e : Endpoint η) (q : Outbox (Write η)) (n : Nat) (fin : Bool) : Endpoint η :=
  e.modify fun s => { s with outbox := q, bytesWritten := n, finSent := fin }

lemma withQueue_self : e.withQueue e.stream.outbox e.stream.bytesWritten e.stream.finSent = e := rfl

/-! ## Work for writes -/

lemma isForWrites_outbox (q : Outbox (Write η)) (j : Outbox.Instr (Write η)) :
    ∀ x ∈ (Outbox.exec j q).2.flatMap ofOutbox, isForWrites x = true := by
  have effect := Outbox.exec_effect j q
  generalize (Outbox.exec j q).1 = q' at *
  generalize (Outbox.exec j q).2 = out at *
  cases effect with
  | @closes q cause opened =>
    rw [List.flatMap_append, List.forall_mem_append]
    constructor
    · unfold Outbox.warning
      split <;> simp [ofOutbox, trace, isForWrites, StreamNote.isOfWrites]
    · intro x hx
      obtain ⟨_, cancelled, hx⟩ := List.mem_flatMap.mp hx
      obtain ⟨w, _, rfl⟩ := List.mem_map.mp cancelled
      obtain rfl := List.mem_singleton.mp hx
      rfl
  | _ =>
    simp [ofOutbox, trace, isForWrites, StreamNote.isOfWrites, Job.isQueueing]

lemma isForWrites_headersOut (e : Endpoint η) (id : Nat) (block : η) (last flush : Bool)
    (p : PromiseId) : ∀ x ∈ e.headersOut id block last flush p, isForWrites x = true := by
  cases last <;> simp [headersOut, isForWrites, StreamCall.isOfWrites]

lemma isForWrites_attempt (e : Endpoint η) (w : Write η) :
    ∀ x ∈ (e.attempt w).2, isForWrites x = true := by
  unfold attempt
  split
  · simp [isForWrites]
  · simp [isForWrites]
  · cases w with
    | headers block last flush p =>
      rw [List.forall_mem_append]
      exact ⟨isForWrites_headersOut e _ block last flush p, by simp [isForWrites]⟩
    | data chunk last p =>
      cases last <;> simp [trace, isForWrites, StreamCall.isOfWrites, StreamNote.isOfWrites]

lemma withQueue_attempt (e : Endpoint η) (w : Write η) :
    (e.attempt w).1.withQueue q n fin = e.withQueue q n fin := by
  unfold attempt
  split
  · rfl
  · rfl
  · cases w <;> rfl

/-- Work for writes leaves more of it, and changes nothing else. -/
lemma exec_forWrites (q : Outbox (Write η)) (n : Nat) (fin : Bool) (on_loop : e.onLoop = true)
    (for_writes : isForWrites (.work i) = true) :
    (exec i e).1.withQueue q n fin = e.withQueue q n fin ∧
      ∀ x ∈ (exec i e).2, isForWrites x = true := by
  cases i with
  | outbox j => exact ⟨rfl, isForWrites_outbox e.stream.outbox j⟩
  | attempt w => exact ⟨withQueue_attempt e w, isForWrites_attempt e w⟩
  | finSent => exact ⟨rfl, by simp [exec, isForWrites, StreamCall.isOfWrites]⟩
  | dispatch job =>
    have performed : isForWrites (.work (.perform job) : StreamTodo η) = true := for_writes
    exact ⟨rfl, by simpa [exec, on_loop] using performed⟩
  | perform job =>
    cases job with
    | enqueue w => exact ⟨rfl, by simp [exec, perform, isForWrites]⟩
    | announceDrained =>
      exact ⟨rfl, by simp [exec, perform, isForWrites, StreamCall.isOfWrites]⟩
    | _ => cases for_writes
  | _ => cases for_writes

lemma exec_vain (vain : isVain (.work i : StreamTodo η) = true)
    (closed : e.stream.outbox.closed.isSome = true) : exec i e = (e, []) := by
  have is_closed : e.stream.outbox.isClosed = true := closed
  cases i with
  | outbox j =>
    cases j with
    | drain | close cause =>
      simp only [exec, Outbox.exec, is_closed, Bool.or_true, if_true]
      rfl
    | _ => cases vain
  | _ => cases vain

/-! ## All other work -/

lemma reset_withQueue (code : Nat) :
    (e.withQueue q n fin).reset code =
      ((e.reset code).1.withQueue q n fin, (e.reset code).2) := by
  simp only [reset, show (e.withQueue q n fin).stream.resetCode = e.stream.resetCode from rfl]
  split <;> rfl

lemma perform_withQueue (job : Job η) :
    (e.withQueue q n fin).perform job =
      ((e.perform job).1.withQueue q n fin, (e.perform job).2) := by
  cases job with
  | reset code => exact reset_withQueue code
  | writeReset code =>
    simp only [perform,
      show (e.withQueue q n fin).stream.slot = e.stream.slot from rfl,
      show (e.withQueue q n fin).stream.hasEnded = e.stream.hasEnded from rfl]
    split
    · split <;> rfl
    · rw [reset_withQueue]
  | data bytes | fin trailers | close =>
    simp only [perform,
      show (e.withQueue q n fin).stream.hasEnded = e.stream.hasEnded from rfl,
      show (e.withQueue q n fin).stream.closed = e.stream.closed from rfl,
      show (e.withQueue q n fin).stream.connect = e.stream.connect from rfl]
    (repeat' split) <;> rfl
  | changePriority p =>
    simp only [perform, show (e.withQueue q n fin).stream.priority = e.stream.priority from rfl]
    split <;> rfl
  | writeFrame frame p | writeHeaders block last flush p =>
    simp only [perform,
      show (e.withQueue q n fin).stream.directTarget = e.stream.directTarget from rfl]
    split <;> rfl
  | announcePriority p =>
    simp only [perform, show (e.withQueue q n fin).stream.slot = e.stream.slot from rfl]
    split <;> rfl
  | _ => rfl

/-- All work but that for writes is done on any outbox alike. -/
lemma exec_withQueue (other : isForWrites (.work i) = false) :
    exec i (e.withQueue q n fin) = ((exec i e).1.withQueue q n fin, (exec i e).2) := by
  cases i with
  | outbox j | attempt w | finSent => cases other
  | perform job => exact perform_withQueue job
  | enter t op =>
    cases op with
    | writeHeaders block first last flush p => cases first <;> rfl
    | updatePriority p =>
      simp only [exec, begin,
        show (e.withQueue q n fin).stream.priority = e.stream.priority from rfl]
      split <;> rfl
    | _ => rfl
  | bind id writable =>
    simp only [exec, bind, show (e.withQueue q n fin).stream.slot = e.stream.slot from rfl]
    split <;> rfl
  | deliver item => cases item <;> rfl
  | _ => rfl

/-- What is left to do as well where the outbox is closed. -/
def isCommon (x : StreamTodo η) : Bool := !isForWrites x || isVain x

lemma isCommon_inbox (b : Inbox Unit Item) (j : Inbox.Instr Unit Item) :
    ∀ x ∈ (Inbox.exec j b).2.flatMap ofInbox, isCommon (x : StreamTodo η) = true := by
  have effect := Inbox.exec_effect j b
  generalize (Inbox.exec j b).1 = b' at *
  generalize (Inbox.exec j b).2 = out at *
  cases effect with
  | emptied free credited consumer empty =>
    unfold Inbox.relief
    split
    · cases b.onDrained <;> simp [ofInbox]
    · simp
  | @consumed _ o =>
    rw [List.flatMap_append, List.forall_mem_append]
    refine ⟨?_, by simp [ofInbox, isCommon, isForWrites]⟩
    unfold Inbox.complaint
    split
    · simp
    · split <;> simp [ofInbox, trace, isCommon, isForWrites, StreamCall.isOfWrites,
        StreamNote.isOfWrites]
  | _ => simp [ofInbox, isCommon, isForWrites]

lemma isCommon_begin {op : Operation η} (steady : isSteady (.work (.enter owner op)) = true)
    (plain : op.isOnLoop = false) (e : Endpoint η) :
    ∀ x ∈ (begin e op).2, isCommon x = true := by
  cases op with
  | runLoop | dropLoop => cases plain
  | writeFrame frame p | writeData chunk last p => cases steady
  | writeHeaders block first last flush p => cases first <;> cases steady
  | updatePriority p =>
    simp only [begin]
    split <;> simp [isCommon, isForWrites, Job.isQueueing]
  | _ => simp [begin, isCommon, isForWrites, Job.isQueueing, StreamCall.isOfWrites]

lemma isCommon_reset (e : Endpoint η) (code : Nat) : ∀ x ∈ (e.reset code).2, isCommon x = true := by
  simp only [reset]
  split <;> simp [trace, isCommon, isForWrites, isVain, StreamCall.isOfWrites,
    StreamNote.isOfWrites]

lemma isCommon_perform {job : Job η} (direct : job.isDirect = false)
    (queueing : job.isQueueing = false) (e : Endpoint η) :
    ∀ x ∈ (e.perform job).2, isCommon x = true := by
  cases job with
  | reset code => exact isCommon_reset e code
  | writeReset code =>
    simp only [perform]
    split
    · split <;> simp [trace, isCommon, isForWrites, isVain, StreamCall.isOfWrites,
        StreamNote.isOfWrites]
    · rw [List.forall_mem_cons]
      exact ⟨rfl, isCommon_reset e code⟩
  | writeFrame frame p | writeHeaders block last flush p => cases direct
  | enqueue w | announceDrained => cases queueing
  | fetch amount => simp [perform, Inbox.fetch, isCommon, isForWrites]
  | data bytes | fin trailers | changePriority p | toggleWritable | close | announcePriority p =>
    simp only [perform, Inbox.offer]
    (repeat' split) <;> simp [trace, isCommon, isForWrites, isVain, StreamCall.isOfWrites,
      StreamNote.isOfWrites]
  | _ => simp [perform, trace, isCommon, isForWrites, isVain, StreamCall.isOfWrites,
      StreamNote.isOfWrites]

lemma isCommon_deliver (e : Endpoint η) (item : Item) :
    ∀ x ∈ (e.deliver item).2, isCommon x = true := by
  cases item with
  | data bytes =>
    simp only [deliver]
    (repeat' split) <;> simp [isCommon, isForWrites, StreamCall.isOfWrites]
  | fin trailers =>
    simp [deliver, trace, isCommon, isForWrites, StreamCall.isOfWrites, StreamNote.isOfWrites]

/-- What other work leaves is left as well where the outbox is closed. -/
lemma isCommon_exec (here : IsWithin owner (.todo (.work i))) (steady : isSteady (.work i) = true)
    (other : isForWrites (.work i) = false) (on_loop : e.onLoop = true) :
    ∀ x ∈ (exec i e).2, isCommon x = true := by
  cases i with
  | outbox j | attempt w | finSent => cases other
  | loop j => cases here
  | enter t op =>
    simp only [exec, List.forall_mem_append]
    exact ⟨isCommon_begin steady here.2 _, by simp [isCommon, isForWrites]⟩
  | dispatch job =>
    have queueing : job.isQueueing = false := other
    simp [exec, on_loop, isCommon, isForWrites, queueing]
  | perform job =>
    have direct : job.isDirect = false := by simpa [isSteady] using steady
    exact isCommon_perform direct other e
  | deliver item => exact isCommon_deliver e item
  | inbox j => exact isCommon_inbox e.stream.inbox j
  | bind id writable =>
    simp only [exec, bind]
    split <;> simp [trace, isCommon, isForWrites, Job.isQueueing, StreamNote.isOfWrites]
  | settleData =>
    simp only [exec]
    split <;> simp [trace, isCommon, isForWrites, StreamNote.isOfWrites]
  | _ => simp [exec, trace, isCommon, isForWrites, StreamCall.isOfWrites, StreamNote.isOfWrites]

/-- What comes of steady work is steady. -/
lemma isSteady_exec (here : IsWithin owner (.todo (.work i))) (steady : isSteady (.work i) = true) :
    ∀ x ∈ (exec i e).2, isSteady x = true := by
  intro x hx
  cases exec_leaves i e x hx with
  | asks t asked =>
    simp only [isSteady, asked, Option.all_some, Bool.and_eq_true] at steady
    exact steady.2
  | performs job => exact steady
  | runs j job => cases here
  | _ => rfl

/-! ## What is left to do on either outbox -/

/-- The second list is the first one without work for writes, but for what is in vain. -/
inductive Without : List (StreamTodo η) → List (StreamTodo η) → Prop
  | nil : Without [] []
  | other {x : StreamTodo η} {l l' : List (StreamTodo η)} (other : isForWrites x = false)
      (later : Without l l') : Without (x :: l) (x :: l')
  | vain {x : StreamTodo η} {l l' : List (StreamTodo η)} (vain : isVain x = true)
      (later : Without l l') : Without (x :: l) (x :: l')
  | drop {x : StreamTodo η} {l l' : List (StreamTodo η)} (for_writes : isForWrites x = true)
      (later : Without l l') : Without (x :: l) l'

namespace Without

lemma dropped (later : Without is js) (all : ∀ x ∈ out, isForWrites x = true) :
    Without (out ++ is) js := by
  induction out with
  | nil => exact later
  | cons x out ih =>
    rw [List.forall_mem_cons] at all
    exact .drop all.1 (ih all.2)

lemma kept (later : Without is js) (all : ∀ x ∈ out, isCommon x = true) :
    Without (out ++ is) (out ++ js) := by
  induction out with
  | nil => exact later
  | cons x out ih =>
    rw [List.forall_mem_cons] at all
    obtain ⟨first, all⟩ := all
    rw [isCommon, Bool.or_eq_true, Bool.not_eq_true'] at first
    exact first.elim (fun other => .other other (ih all)) fun vain => .vain vain (ih all)

end Without

lemma forWrites_of_vain (vain : isVain x = true) : isForWrites x = true := by
  unfold isVain at vain
  split at vain <;> first | rfl | cases vain

/-! ## Two runs -/

/-- What the surroundings answer by: all calls but those that go with writes or tell of failures. -/
def isAudible : StreamCall η → Bool
  | .hook (.exception _) => false
  | c => !c.isOfWrites

/-- Surroundings that answer by what they have heard of, apart from writes and failures. What they
have heard of else is to decide, so that they answer alike whatever becomes of the writes. -/
def attentive (reply : List (StreamCall η) → (c : StreamCall η) → c.Reply)
    (before : List (StreamCall η)) : (c : StreamCall η) → c.Reply :=
  reply (before.filter isAudible)

lemma isAudible_of_ofWrites {c : StreamCall η} (of_writes : c.isOfWrites = true) :
    isAudible c = false := by
  unfold isAudible
  split
  · rfl
  · simp [of_writes]

lemma resume_ofWrites {c : StreamCall η} (of_writes : c.isOfWrites = true) (r : c.Reply) :
    component.resume c r = [] := by
  cases c with
  | conn p =>
    cases p with
    | canSend id => cases of_writes
    | _ => rfl
  | hook k =>
    cases k with
    | data bytes | fin trailers => cases of_writes
    | _ => rfl

variable {reply : List (StreamCall η) → (c : StreamCall η) → c.Reply}
  {before before' : List (StreamCall η)} {shown : List (Signal (StreamCall η) StreamNote)}

/-- On a closed outbox all goes on as it does on any other one, less what belongs to writes. -/
theorem serves_without (serves : Machine.Serves component (attentive reply) before e is shown e')
    (within : Within owner ⟨e, is.map .todo⟩) (steady : ∀ x ∈ is, isSteady x = true)
    (without : Without is js) (closed : q.closed.isSome = true)
    (same : before'.filter isAudible = before.filter isAudible) :
    Machine.Serves component (attentive reply) before' (e.withQueue q n fin) js
      (shown.filter fun s => !isOfWrites s) (e'.withQueue q n fin) := by
  -- Along the first run: what is for writes the second one drops, or does in vain, and all other
  -- work it does alike, since this does not look at what the outboxes have apart.
  induction serves generalizing js before' with
  | done =>
    cases without
    exact .done
  | @work before s s' i rest shown next ih =>
    rw [List.forall_mem_cons] at steady
    have here : IsWithin owner (.todo (.work i)) := within.all _ List.mem_cons_self
    have within' : Within owner ⟨(exec i s).1, ((exec i s).2 ++ rest).map .todo⟩ := by
      rw [List.map_append]
      exact (within_work within).1
    have steady' : ∀ x ∈ (exec i s).2 ++ rest, isSteady x = true :=
      List.forall_mem_append.mpr ⟨isSteady_exec here steady.1, steady.2⟩
    cases for_writes : isForWrites (.work i) with
    | false =>
      have keeps := isCommon_exec here steady.1 for_writes within.on_loop
      have goes (js' : List (StreamTodo η)) (later : Without rest js') :
          Machine.Serves component (attentive reply) before' (s.withQueue q n fin)
            (.work i :: js') (shown.filter fun s => !isOfWrites s) (s'.withQueue q n fin) :=
        .work_of_eq (exec_withQueue for_writes) (ih within' steady' (later.kept keeps) same)
      cases without with
      | other _ later => exact goes _ later
      | vain vain => cases (forWrites_of_vain vain).symm.trans for_writes
      | drop for_writes' => cases for_writes'.symm.trans for_writes
    | true =>
      obtain ⟨unchanged, all⟩ := exec_forWrites q n fin within.on_loop for_writes
      have goes (js' : List (StreamTodo η)) (later : Without rest js') :
          Machine.Serves component (attentive reply) before' (s.withQueue q n fin) js'
            (shown.filter fun s => !isOfWrites s) (s'.withQueue q n fin) := by
        rw [← unchanged]
        exact ih within' steady' (later.dropped all) same
      cases without with
      | other other => cases other.symm.trans for_writes
      | vain vain later =>
        refine .work_of_eq (exec_vain vain closed) ?_
        rw [List.nil_append]
        exact goes _ later
      | drop _ later => exact goes _ later
  | @call before s s' c rest shown next ih =>
    rw [List.forall_mem_cons] at steady
    have steady' (r : c.Reply) : ∀ x ∈ component.resume c r ++ rest, isSteady x = true :=
      List.forall_mem_append.mpr
        ⟨forall_resume c r (fun _ _ => rfl) fun _ => rfl, steady.2⟩
    cases of_writes : c.isOfWrites with
    | false =>
      have answers : attentive reply before' c = attentive reply before c := by
        rw [attentive, same, attentive]
      have heard : (before' ++ [c]).filter isAudible = (before ++ [c]).filter isAudible := by
        rw [List.filter_append, same, List.filter_append]
      cases without with
      | other _ later =>
        rw [List.filter_cons_of_pos (by simp [isOfWrites, of_writes])]
        refine .call ?_
        rw [answers]
        refine ih (within.resume _) (steady' _) (later.kept ?_) heard
        exact forall_resume c _ (fun _ _ => rfl) fun _ => rfl
      | vain vain => cases vain
      | drop for_writes => cases of_writes.symm.trans for_writes
    | true =>
      have heard : before'.filter isAudible = (before ++ [c]).filter isAudible := by
        rw [List.filter_append, same, List.filter_cons_of_neg, List.filter_nil, List.append_nil]
        simp [isAudible_of_ofWrites of_writes]
      cases without with
      | other other => cases of_writes.symm.trans other
      | vain vain => cases vain
      | drop _ later =>
        rw [List.filter_cons_of_neg (by simp [isOfWrites, of_writes])]
        refine ih (within.resume _) (steady' _) ?_ heard
        rw [resume_ofWrites of_writes]
        exact later
  | @note before s s' t rest shown next ih =>
    rw [List.forall_mem_cons] at steady
    cases without with
    | other other later =>
      have visible : t.isOfWrites = false := other
      rw [List.filter_cons_of_pos (by simp [isOfWrites, visible])]
      exact .note (ih within.uncons steady.2 later same)
    | vain vain => cases vain
    | drop for_writes later =>
      have of_writes : t.isOfWrites = true := for_writes
      rw [List.filter_cons_of_neg (by simp [isOfWrites, of_writes])]
      exact ih within.uncons steady.2 later same

end Endpoint

end StreamControl
