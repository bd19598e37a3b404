import StreamControl.Proofs.WithoutQueue

/-!
# An exception is no end

An exception closes the outbox of a stream and is told, and that is all. What is asked of the stream
later goes on as it would have gone on, but for the writes that wait: each of them fails with the
error of the exception, also where the stream has ended since.
-/

namespace StreamControl.Endpoint

variable {η : Type} {o : Options} {owner : Thread} {e e' e₁ e₂ : Endpoint η}
  {q : Outbox (Write η)} {n : Nat} {fin : Bool} {cause : Fault} {op : Operation η} {job : Job η}
  {reply : List (StreamCall η) → (c : StreamCall η) → c.Reply}
  {before before' : List (StreamCall η)} {shown : List (Signal (StreamCall η) StreamNote)}
  {rest : List (StreamTodo η)}

/-- All is seen but what belongs to writes. -/
def besides (shown : List (Signal (StreamCall η) StreamNote)) :
    List (Signal (StreamCall η) StreamNote) :=
  shown.filter fun s => !isOfWrites s

variable {rounds rounds₁ rounds₂ : List (Round η)} {ask : Ask η}

/-! ## One job at a time -/

lemma exec_enter (home : e.thread = e.loop.owner)
    (begins : begin e op = (e, [.work (.dispatch job)])) :
    exec (.enter e.loop.owner op) e =
      (e, [.work (.dispatch job), .work (.leave e.thread)]) := by
  simp only [exec, ← home, begins, List.singleton_append]

lemma serves_leave (t : Thread) (same : e.thread = t) :
    Machine.Serves component reply before e [.work (.leave t)] [] e := by
  subst same
  exact .work .done

/-- On the loop an operation does its job at once. -/
lemma serves_job (home : e.thread = e.loop.owner)
    (begins : begin e op = (e, [.work (.dispatch job)]))
    (next : Machine.Serves component reply before (e.perform job).1
      ((e.perform job).2 ++ [.work (.leave e.thread)]) shown e') :
    Machine.Serves component reply before e [.work (.enter e.loop.owner op)] shown e' := by
  have on_loop : e.onLoop = true := by simp [onLoop, TaskLoop.ownedBy, home]
  have dispatched : exec (.dispatch job) e = (e, [.work (.perform job)]) := by
    simp only [exec, on_loop, if_true]
  exact .work_of_eq (exec_enter home begins) (.work_of_eq dispatched (.work next))

/-! ## The exception -/

/-- What a closing makes known of the writes that wait. -/
def cancelled (cause : Fault) (q : Outbox (Write η)) : List StreamNote :=
  if q.isClosed || q.pending.isEmpty then []
  else .trace (.cancellingWrites q.pending.length cause) ::
    q.pending.map fun w => .failed w.promise cause

/-- What is seen of an exception: what waits fails with its error, unless the outbox was closed
before, and it is told. -/
def excepted (cause : Fault) (e : Endpoint η) : List (Signal (StreamCall η) StreamNote) :=
  .noted (.trace (.streamException e.stream.slot.id? cause)) ::
    ((cancelled cause e.stream.outbox).map .noted ++ [.called (.hook (.exception cause))])

/-- An outbox that has been closed, if it was not before. -/
def shut (cause : Fault) (q : Outbox (Write η)) : Outbox (Write η) :=
  if q.isClosed then q else { q with pending := [], halted := false, closed := some cause }

lemma ofOutbox_cancelling (cause : Fault) (ws : List (Write η)) :
    (ws.map fun w => .call (.cancel w cause)).flatMap ofOutbox =
      (ws.map fun w => .failed w.promise cause).map (.note : StreamNote → StreamTodo η) := by
  rw [List.flatMap_map, List.map_map, List.map_eq_flatMap]
  rfl

lemma exec_close (cause : Fault) (e : Endpoint η) :
    exec (.outbox (.close cause)) e =
      (e.withQueue (shut cause e.stream.outbox) e.stream.bytesWritten e.stream.finSent,
        (cancelled cause e.stream.outbox).map .note) := by
  cases closed : e.stream.outbox.isClosed with
  | true =>
    simp only [exec, Outbox.exec, shut, cancelled, closed, if_true, Bool.true_or]
    rfl
  | false =>
    simp only [exec, Outbox.exec, shut, cancelled, closed, Bool.false_eq_true, if_false,
      Bool.false_or, List.flatMap_append, ofOutbox_cancelling]
    cases empty : e.stream.outbox.pending.isEmpty with
    | true =>
      rw [List.isEmpty_iff.mp empty]
      rfl
    | false => rfl

/-- What is left to make known is made known. -/
lemma serves_notes (notes : List StreamNote)
    (later : Machine.Serves component reply before e rest shown e') :
    Machine.Serves component reply before e (notes.map .note ++ rest) (notes.map .noted ++ shown)
      e' := by
  induction notes with
  | nil => exact later
  | cons _ _ ih => exact .note ih

lemma serves_exception (home : e.thread = e.loop.owner) (cause : Fault) :
    Machine.Serves component reply before e [.work (.enter e.loop.owner (.exception cause))]
      (excepted cause e)
      (e.withQueue (shut cause e.stream.outbox) e.stream.bytesWritten e.stream.finSent) :=
  serves_job home rfl (.note (.work_of_eq (exec_close cause e)
    (serves_notes _ (.call (serves_leave _ rfl)))))

/-! ## Writes -/

/-- It is told that the last write has been sent. -/
def tellsEnd (shown : List (Signal (StreamCall η) StreamNote)) : Bool :=
  shown.any fun
    | .called (.hook .finSent) => true
    | _ => false

/-- An operation shows the same on any outbox, and leaves this and what waits there alone. -/
def SentAlike (reply : List (StreamCall η) → (c : StreamCall η) → c.Reply) (e : Endpoint η)
    (op : Operation η) : Prop :=
  ∃ shown : List (Signal (StreamCall η) StreamNote),
    ∀ (q : Outbox (Write η)) (n : Nat) (fin : Bool) (before : List (StreamCall η)),
      Machine.Serves component reply before (e.withQueue q n fin)
        [.work (.enter e.loop.owner op)] shown (e.withQueue q n (tellsEnd shown || fin))

lemma sentAlike_of_fails (p : PromiseId) (cause : Fault) (home : e.thread = e.loop.owner)
    (begins : ∀ e : Endpoint η, begin e op = (e, [.work (.dispatch job)]))
    (fails : ∀ q n fin, (e.withQueue q n fin).perform job =
      (e.withQueue q n fin, [.note (.failed p cause)])) : SentAlike reply e op := by
  refine ⟨[.noted (.failed p cause)], fun q n fin before => ?_⟩
  refine serves_job (e := e.withQueue q n fin) home (begins _) ?_
  rw [fails]
  exact .note (serves_leave _ rfl)

/-- A write that does not wait is sent, or fails, alike on any outbox. -/
lemma sentAlike_of_direct (reply : List (StreamCall η) → (c : StreamCall η) → c.Reply)
    (home : e.thread = e.loop.owner) (direct : job.isDirect = true)
    (begins : ∀ e : Endpoint η, begin e op = (e, [.work (.dispatch job)])) :
    SentAlike reply e op := by
  have as_queued (q : Outbox (Write η)) (n : Nat) (fin : Bool) :
      (e.withQueue q n fin).stream.directTarget = e.stream.directTarget := rfl
  cases job with
  | writeFrame frame p =>
    cases target : e.stream.directTarget with
    | error cause =>
      refine sentAlike_of_fails p cause home begins fun q n fin => ?_
      simp only [perform, as_queued, target]
    | ok id =>
      refine ⟨[.called (.conn (.sendFrame id frame p))], fun q n fin before => ?_⟩
      refine serves_job (e := e.withQueue q n fin) home (begins _) ?_
      simp only [perform, as_queued, target]
      exact .call (serves_leave _ rfl)
  | writeHeaders block last flush p =>
    cases target : e.stream.directTarget with
    | error cause =>
      refine sentAlike_of_fails p cause home begins fun q n fin => ?_
      simp only [perform, as_queued, target]
    | ok id =>
      refine ⟨.called (.conn (.sendHeaders id block last e.stream.priority flush p)) ::
        (if last then [.called (.hook .finSent)] else []), fun q n fin before => ?_⟩
      refine serves_job (e := e.withQueue q n fin) home (begins _) ?_
      simp only [perform, as_queued, target]
      cases last with
      | true => exact .call (.work (.call (serves_leave _ rfl)))
      | false => exact .call (serves_leave _ rfl)
  | _ => cases direct

/-- A write that waits fails at once on a closed outbox. -/
lemma serves_late {w : Write η} (home : e.thread = e.loop.owner)
    (begins : begin e op = (e, [.work (.dispatch (.enqueue w))]))
    (closed : e.stream.outbox.closed = some cause) :
    Machine.Serves component reply before e [.work (.enter e.loop.owner op)]
      [.noted (.failed w.promise cause)] e := by
  have submitted : exec (.outbox (.submit w)) e = (e, [.note (.failed w.promise cause)]) := by
    simp only [exec, Outbox.exec, closed]
    rfl
  exact serves_job home begins (.work_of_eq submitted (.note (serves_leave _ rfl)))

/-- A write that waits makes itself known alone, and changes nothing else. -/
lemma quiet_of_queued {w : Write η} (n : Nat) (fin : Bool) (home : e.thread = e.loop.owner)
    (begins : begin e op = (e, [.work (.dispatch (.enqueue w))]))
    (serves : Machine.Serves component (attentive reply) before e
      [.work (.enter e.loop.owner op)] shown e') (closed : q.closed.isSome = true) :
    besides shown = [] ∧ e'.withQueue q n fin = e.withQueue q n fin := by
  have enqueues : Machine.Serves component (attentive reply) before e
      [.work (.dispatch (.enqueue w)), .work (.leave e.thread)] shown e' := by
    cases serves with
    | work next =>
      rw [show component.exec (.enter e.loop.owner op) e = _ from exec_enter home begins] at next
      exact next
  have within : Within e.loop.owner
      ⟨e, [.todo (.work (.dispatch (.enqueue w))), .todo (.work (.leave e.thread))]⟩ :=
    ⟨rfl, home, by simp [IsWithin, home]⟩
  exact (serves_without enqueues within (by simp [isSteady, Job.isDirect])
    (.drop rfl (.other rfl .nil)) closed rfl).unique (serves_leave _ rfl)

/-! ## What is seen of later requests -/

/-- What is seen of what is asked after an exception, by what would have been seen: a write that
does not wait goes as before, one that waits fails if `fails` says so, and nothing else of writes is
left. -/
def spared (cause : Fault) (fails : Bool) (shown : List (Signal (StreamCall η) StreamNote)) :
    Ask η → List (Signal (StreamCall η) StreamNote)
  | .operation (.writeData _ _ p) _ | .operation (.writeHeaders _ false _ _ p) _ =>
    if fails then [.noted (.failed p cause)] else shown
  | .operation (.writeFrame ..) _ | .operation (.writeHeaders _ true ..) _ => shown
  | _ => besides shown

/-- The same is asked of a stream with a closed outbox. This is seen instead, the same of it when it
does not belong to writes, and it comes to the same but for what goes with writes that wait. -/
def Spares (reply : List (StreamCall η) → (c : StreamCall η) → c.Reply)
    (before : List (StreamCall η)) (q : Outbox (Write η)) (n : Nat) (fin : Bool) (e : Endpoint η)
    (ask : Ask η) (shown shown' : List (Signal (StreamCall η) StreamNote)) (e' : Endpoint η) :
    Prop :=
  Machine.Serves component (attentive reply) before (e.withQueue q n fin)
    [.work (ask.instr e.loop.owner)] shown' (e'.withQueue q n (tellsEnd shown' || fin)) ∧
      besides shown' = besides shown

lemma tellsEnd_besides (shown : List (Signal (StreamCall η) StreamNote)) :
    tellsEnd (besides shown) = false := by
  rw [tellsEnd, List.any_eq_false]
  intro s member told
  have visible := (List.mem_filter.mp member).2
  split at told
  · cases visible
  · cases told

section Spares

variable {plain : op.isOnLoop = false} (home : e.thread = e.loop.owner)
  (closed : q.closed = some cause) (same : before'.filter isAudible = before.filter isAudible)

include home closed same

lemma spares_of_steady
    (serves : Machine.Serves component (attentive reply) before e
      [.work (ask.instr e.loop.owner)] shown e')
    (steady : isSteady (.work (ask.instr e.loop.owner)) = true) :
    Spares reply before' q n fin e ask shown (besides shown) e' := by
  have other : isForWrites (.work (ask.instr e.loop.owner)) = false := by cases ask <;> rfl
  refine ⟨?_, by simp [besides, List.filter_filter]⟩
  rw [tellsEnd_besides]
  exact serves_without serves (within_ask home ask) (List.forall_mem_singleton.mpr steady)
    (.other other .nil) (by simp [closed]) same

omit same in
lemma spares_of_queued {w : Write η}
    (begins : ∀ e : Endpoint η, begin e op = (e, [.work (.dispatch (.enqueue w))]))
    (serves : Machine.Serves component (attentive reply) before e
      [.work (.enter e.loop.owner op)] shown e') :
    Spares reply before' q n fin e (.operation op plain) shown
      [.noted (.failed w.promise cause)] e' := by
  obtain ⟨quiet, unchanged⟩ := quiet_of_queued n fin home (begins e) serves
    (q := q) (by simp [closed])
  refine ⟨?_, quiet.symm⟩
  rw [show (tellsEnd [.noted (.failed w.promise cause)] || fin) = fin from rfl, unchanged]
  exact serves_late (e := e.withQueue q n fin) home (begins _) closed

omit closed same in
lemma spares_of_direct (job : Job η) (direct : job.isDirect = true)
    (begins : ∀ e : Endpoint η, begin e op = (e, [.work (.dispatch job)]))
    (serves : Machine.Serves component (attentive reply) before e
      [.work (.enter e.loop.owner op)] shown e') :
    Spares reply before' q n fin e (.operation op plain) shown shown e' := by
  obtain ⟨shown', alike⟩ := sentAlike_of_direct (attentive reply) home direct begins
  obtain ⟨rfl, rfl⟩ := serves.unique (alike _ _ _ _)
  exact ⟨alike q n fin before', rfl⟩

lemma spares_ask (n : Nat) (fin : Bool)
    (serves : Machine.Serves component (attentive reply) before e
      [.work (ask.instr e.loop.owner)] shown e') :
    Spares reply before' q n fin e ask shown (spared cause true shown ask) e' := by
  cases ask with
  | setRemote remoteOpen => exact spares_of_steady home closed same serves rfl
  | operation op plain =>
    cases op with
    | writeData chunk last p => exact spares_of_queued home closed (fun _ => rfl) serves
    | writeFrame frame p =>
      exact spares_of_direct home (.writeFrame frame p) rfl (fun _ => rfl) serves
    | writeHeaders block first last flush p =>
      cases first with
      | true =>
        exact spares_of_direct home (.writeHeaders block last flush p) rfl (fun _ => rfl) serves
      | false => exact spares_of_queued home closed (fun _ => rfl) serves
    | runLoop | dropLoop => cases plain
    | _ => exact spares_of_steady home closed same serves rfl

end Spares

/-! ## What is heard of it -/

lemma heard_besides (shown : List (Signal (StreamCall η) StreamNote)) :
    (Machine.heard (besides shown)).filter isAudible = (Machine.heard shown).filter isAudible := by
  induction shown with
  | nil => rfl
  | cons s shown ih =>
    cases s with
    | silent | noted n =>
      rw [besides, List.filter_cons]
      split <;> exact ih
    | called c =>
      cases of_writes : c.isOfWrites with
      | false =>
        rw [besides, List.filter_cons_of_pos (by simp [isOfWrites, of_writes])]
        simp only [Machine.heard_called, List.filter_cons]
        rw [show (Machine.heard (shown.filter _)).filter isAudible = _ from ih]
      | true =>
        rw [besides, List.filter_cons_of_neg (by simp [isOfWrites, of_writes]),
          Machine.heard_called, List.filter_cons_of_neg (by simp [isAudible_of_ofWrites of_writes])]
        exact ih

lemma audible_append {shown' : List (Signal (StreamCall η) StreamNote)}
    (same : before'.filter isAudible = before.filter isAudible)
    (besides_same : besides shown' = besides shown) :
    (before' ++ Machine.heard shown').filter isAudible =
      (before ++ Machine.heard shown).filter isAudible := by
  rw [List.filter_append, List.filter_append, same, ← heard_besides shown', besides_same,
    heard_besides]

/-- Surroundings that have heard the same answer the same. -/
lemma serves_of_audible {is : List (StreamTodo η)}
    (serves : Machine.Serves component (attentive reply) before e is shown e')
    (same : before'.filter isAudible = before.filter isAudible) :
    Machine.Serves component (attentive reply) before' e is shown e' := by
  induction serves generalizing before' with
  | done => exact .done
  | work _ ih => exact .work (ih same)
  | @call before e e' c rest shown next ih =>
    have answers : attentive reply before' c = attentive reply before c := by
      rw [attentive, same, attentive]
    refine .call ?_
    rw [answers]
    exact ih (by rw [List.filter_append, List.filter_append, same])
  | note _ ih => exact .note (ih same)

lemma attends_of_audible (attends : Attends (attentive reply) before e rounds e')
    (same : before'.filter isAudible = before.filter isAudible) :
    Attends (attentive reply) before' e rounds e' := by
  induction attends generalizing before' with
  | done => exact .done
  | next _ serves _ ih =>
    exact .next _ (serves_of_audible serves same) (ih (audible_append same rfl))

/-! ## After the exception -/

/-- The same is asked of two streams, of which the second has a closed outbox. -/
structure Follows (cause : Fault) (fails : Stream η → Bool) (q : Outbox (Write η)) (n : Nat)
    (r r' : Round η) : Prop where
  ask : r'.ask = r.ask
  /-- They differ in what goes with writes alone. -/
  start : r'.start = r.start.withQueue q n r'.start.stream.finSent
  shown : r'.shown = spared cause (fails r.start.stream) r.shown r.ask

section Follows

variable {fails : Stream η → Bool}
  (follow : List.Forall₂ (Follows cause fails q n) rounds₁ rounds₂)

include follow

lemma asks_of_follows : rounds₂.map Round.ask = rounds₁.map Round.ask := by
  induction follow with
  | nil => rfl
  | cons first _ ih => rw [List.map_cons, List.map_cons, first.ask, ih]

lemma shown_of_follows : rounds₂.map Round.shown =
    rounds₁.map fun r => spared cause (fails r.start.stream) r.shown r.ask := by
  induction follow with
  | nil => rfl
  | cons first _ ih => rw [List.map_cons, List.map_cons, first.shown, ih]

end Follows

/-- What is seen of all that was asked, but for what belongs to writes. -/
def besidesIn (rounds : List (Round η)) : List (Signal (StreamCall η) StreamNote) :=
  besides (rounds.flatMap Round.shown)

lemma attends_spared (n : Nat) (fin : Bool) (attends : Attends (attentive reply) before e rounds e')
    (home : e.thread = e.loop.owner) (closed : q.closed = some cause)
    (same : before'.filter isAudible = before.filter isAudible) :
    ∃ rounds', Attends (attentive reply) before' (e.withQueue q n fin) rounds'
        (e'.withQueue q n (tellsEnd (rounds'.flatMap Round.shown) || fin)) ∧
      List.Forall₂ (Follows cause (fun _ => true) q n) rounds rounds' ∧
      besidesIn rounds' = besidesIn rounds := by
  induction attends generalizing before' fin with
  | done => exact ⟨[], .done, .nil, rfl⟩
  | @next before e e₁ e' shown rounds ask serves _ ih =>
    obtain ⟨serves', alike⟩ := spares_ask home closed same n fin serves
    obtain ⟨rounds', attends', follow, unchanged⟩ :=
      ih _ (home_of_serves home serves).1 (audible_append same alike)
    have ended : (tellsEnd (rounds'.flatMap Round.shown) ||
        (tellsEnd (spared cause true shown ask) || fin)) =
          (tellsEnd (spared cause true shown ask ++ rounds'.flatMap Round.shown) || fin) := by
      simp only [tellsEnd, List.any_append, Bool.or_left_comm, Bool.or_assoc]
    rw [ended] at attends'
    refine ⟨_ :: rounds', .next _ serves' attends', .cons ⟨rfl, rfl, rfl⟩ follow, ?_⟩
    simp only [besidesIn, besides, List.flatMap_cons, List.filter_append] at *
    rw [alike, unchanged]

/-- What an exception makes of all that is asked later of a stream. -/
structure Spared (cause : Fault) (fails : Stream η → Bool) (e : Endpoint η)
    (rounds : List (Round η)) (e₁ : Endpoint η) (rounds' : List (Round η)) (e₂ : Endpoint η) :
    Prop where
  /-- Where the outbox was closed before, nothing. -/
  closed : e.stream.outbox.isClosed = true → rounds' = rounds ∧ e₂ = e₁
  /-- Else the outbox stays closed and no bytes are written. -/
  opened : e.stream.outbox.isClosed = false →
    List.Forall₂ (Follows cause fails (shut cause e.stream.outbox) e.stream.bytesWritten) rounds
        rounds' ∧
      e₂ = e₁.withQueue (shut cause e.stream.outbox) e.stream.bytesWritten
        (tellsEnd (rounds'.flatMap Round.shown) || e.stream.finSent)
  /-- All but what belongs to writes is seen as it would have been. -/
  besides : besidesIn rounds' = besidesIn rounds

lemma audible_excepted (cause : Fault) (e : Endpoint η) :
    (Machine.heard (excepted cause e)).filter isAudible = [] := by
  have unheard (notes : List StreamNote) :
      Machine.heard (notes.map (.noted : StreamNote → Signal (StreamCall η) StreamNote)) = [] := by
    induction notes with
    | nil => rfl
    | cons _ _ ih => exact ih
  simp [excepted, unheard, isAudible]

lemma spared_exception (home : e.thread = e.loop.owner)
    (later : Attends (attentive reply) before e rounds₁ e₁) (cause : Fault) :
    ∃ rounds₂ e₂, Spared cause (fun _ => true) e rounds₁ e₁ rounds₂ e₂ ∧
      rounds₂.map Round.ask = rounds₁.map Round.ask ∧
      Attends (attentive reply) before e
        (⟨e, .operation (.exception cause) rfl, excepted cause e⟩ :: rounds₂) e₂ := by
  have excepts : Machine.Serves component (attentive reply) before e
      [.work (.enter e.loop.owner (.exception cause))] (excepted cause e) _ :=
    serves_exception home cause
  have unheard : (before ++ Machine.heard (excepted cause e)).filter isAudible =
      before.filter isAudible := by
    rw [List.filter_append, audible_excepted, List.append_nil]
  cases closed : e.stream.outbox.isClosed with
  | true =>
    rw [shut, if_pos closed, withQueue_self] at excepts
    exact ⟨rounds₁, e₁,
      { closed := fun _ => ⟨rfl, rfl⟩
        opened := fun opened => nomatch closed.symm.trans opened
        besides := rfl },
      rfl, .next _ excepts (attends_of_audible later unheard)⟩
  | false =>
    have closes : (shut cause e.stream.outbox).closed = some cause := by simp [shut, closed]
    obtain ⟨rounds₂, later', follow, unchanged⟩ :=
      attends_spared e.stream.bytesWritten e.stream.finSent later home closes unheard
    exact ⟨rounds₂, _,
      { closed := fun other => nomatch closed.symm.trans other
        opened := fun _ => ⟨follow, rfl⟩
        besides := unchanged },
      asks_of_follows follow, .next _ excepts later'⟩

/-- An exception may be reported between any two requests. It is told, and fails the writes that
wait, each of those that were asked for and have neither gone to the connection nor failed. All that
is asked later goes on as it would have gone on, but for the writes that wait: these all fail with
its error. -/
theorem spared_of_attends (first : Attends (attentive reply) [] (fresh o owner) rounds e)
    (later : Attends (attentive reply) (heardIn rounds) e rounds₁ e₁) (cause : Fault) :
    (promisesIn rounds).Perm (queued e ++ handedIn rounds ++ failedIn rounds) ∧
    ∃ rounds₂ e₂, Spared cause (fun _ => true) e rounds₁ e₁ rounds₂ e₂ ∧
      ∀ played e', (Attends (attentive reply) (heardIn rounds) e played e' ∧
          played.map Round.ask = .operation (.exception cause) rfl :: rounds₁.map Round.ask) ↔
        played = ⟨e, .operation (.exception cause) rfl, excepted cause e⟩ :: rounds₂ ∧
          e' = e₂ := by
  obtain ⟨rounds₂, e₂, spared, asked, attends⟩ :=
    spared_exception (home_of_attends first rfl).1 later cause
  refine ⟨accounted_of_attends first, rounds₂, e₂, spared,
    fun played e' => ⟨fun ⟨plays, same⟩ => ?_, ?_⟩⟩
  · exact plays.unique attends (by rw [same, List.map_cons, asked])
  · rintro ⟨rfl, rfl⟩
    exact ⟨attends, by rw [List.map_cons, asked]⟩

def brokenPipe : Fault := .io .brokenPipe "gone"

/-- A stream was allocated unwritable, and a write waits. -/
def oneWaiting : Endpoint Nat :=
  (fresh .standard 0).modify fun s =>
    { s with
      slot := .allocated 1
      writable := false
      outbox := { s.outbox with pending := [.data none false 1], halted := true } }

/-- The connection breaks while a write waits. Later data comes in, a frame is sent, the stream is
reset, and there is one more write. -/
theorem spared_resetLater :
    ∃ (rounds rounds₁ rounds₂ : List (Round Nat)) (e₁ e₂ : Endpoint Nat),
      Attends (attentive fun _ => plainly false .success) [] (fresh .standard 0) rounds
        oneWaiting ∧
      Attends (attentive fun _ => plainly false .success) (heardIn rounds) oneWaiting rounds₁ e₁ ∧
      Attends (attentive fun _ => plainly false .success) (heardIn rounds) oneWaiting
        (⟨oneWaiting, .operation (.exception brokenPipe) rfl, excepted brokenPipe oneWaiting⟩ ::
          rounds₂) e₂ ∧
      Spared brokenPipe (fun _ => true) oneWaiting rounds₁ e₁ rounds₂ e₂ ∧
      rounds₁.map Round.ask = [.operation (.data ⟨#[7]⟩) rfl,
        .operation (.writeFrame ⟨10, 0, .empty⟩ 2) rfl, .operation (.reset 8) rfl,
        .operation (.writeData none false 3) rfl] ∧
      excepted brokenPipe oneWaiting = [.noted (.trace (.streamException (some 1) brokenPipe)),
        .noted (.trace (.cancellingWrites 1 brokenPipe)), .noted (.failed 1 brokenPipe),
        .called (.hook (.exception brokenPipe))] ∧
      rounds₂.map Round.shown =
        [[.called (.conn (.countRead 1)), .called (.conn (.returnCredit 1 1)),
            .noted (.trace (.dataDelivered (some 1) 1)), .called (.hook (.data ⟨#[7]⟩))],
          [.called (.conn (.sendFrame 1 ⟨10, 0, .empty⟩ 2))],
          [.noted (.trace (.streamReset (some 1) 8 0)), .called (.hook (.reset 8))],
          [.noted (.failed 3 brokenPipe)]] := by
  have first : Attends (attentive fun _ => plainly false .success) []
      (fresh .standard 0) _ oneWaiting :=
    .next (.operation (.allocate 1) rfl)
      (.work (.call (.work (.note (.work (.work (.work (.work .done)))))))) <|
    .next (.operation (.writeData none false 1) rfl)
      (.work (.work (.work (.work (.work (.work (.work (.note (.work (.work .done))))))))))
    .done
  have later (before : List (StreamCall Nat)) :
      Attends (attentive fun _ => plainly false .success) before oneWaiting _ _ :=
    .next (.operation (.data ⟨#[7]⟩) rfl)
      (.work (.call (.work (.work (.work (.work (.work (.call (.work (.note (.call (.work (.work
        (.work (.work .done))))))))))))))) <|
    .next (.operation (.writeFrame ⟨10, 0, .empty⟩ 2) rfl)
      (.work (.work (.work (.call (.work .done))))) <|
    .next (.operation (.reset 8) rfl)
      (.work (.work (.work (.work (.note (.note (.note (.call (.work .done))))))))) <|
    .next (.operation (.writeData none false 3) rfl)
      (.work (.work (.work (.work (.note (.work .done)))))) .done
  obtain ⟨-, rounds₂, e₂, spared, played⟩ := spared_of_attends first (later _) brokenPipe
  refine ⟨_, _, rounds₂, _, e₂, first, later _, ((played _ _).mpr ⟨rfl, rfl⟩).1, spared, rfl, rfl,
    ?_⟩
  rw [shown_of_follows (spared.opened rfl).1]
  rfl

/-! ## After an end -/

/-- A stream is reset after an exception. A write that waits then fails with the error of the
exception, not with that of the reset. -/
theorem not_spared_once_ended :
    ∃ (rounds₁ : List (Round Nat)) (e₁ : Endpoint Nat) (rounds₂ : List (Round Nat))
        (e₂ : Endpoint Nat),
      Attends (attentive fun _ => plainly true .success) [] (fresh .standard 0) rounds₁ e₁ ∧
      Attends (attentive fun _ => plainly true .success) [] (fresh .standard 0)
        (⟨fresh .standard 0, .operation (.exception brokenPipe) rfl,
          excepted brokenPipe (fresh .standard 0)⟩ :: rounds₂) e₂ ∧
      rounds₁.map Round.ask =
        [.operation (.reset 8) rfl, .operation (.writeData none false 1) rfl] ∧
      rounds₂.map Round.ask = rounds₁.map Round.ask ∧
      ¬ Spared brokenPipe (fun s => !s.hasEnded) (fresh .standard 0) rounds₁ e₁ rounds₂ e₂ := by
  have later : Attends (attentive fun _ => plainly true .success) []
      (fresh .standard 0 : Endpoint Nat) _ _ :=
    .next (.operation (.reset 8) rfl)
      (.work (.work (.work (.work (.note (.call (.work .done))))))) <|
    .next (.operation (.writeData none false 1) rfl)
      (.work (.work (.work (.work (.note (.work .done)))))) .done
  obtain ⟨rounds₂, e₂, spared, asked, attends⟩ := spared_exception rfl later brokenPipe
  -- What is seen of the write tells the two ways of failing apart.
  refine ⟨_, _, rounds₂, e₂, later, attends, rfl, asked, fun claimed => ?_⟩
  have actual := shown_of_follows (spared.opened rfl).1
  rw [shown_of_follows (claimed.opened rfl).1] at actual
  cases actual

end StreamControl.Endpoint
