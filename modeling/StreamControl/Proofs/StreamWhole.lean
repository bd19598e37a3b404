import StreamControl.Proofs.TerminalCause

/-!
# A stream ends as a whole

To end a stream takes three steps: its flags are set, its inbox is emptied and its outbox is
closed. Whoever is called in between may see only a part of this. Hooks and primitives are called
when all three are done, with one exception: the primitive that sends a reset is used when only
the flag is set. As long as this primitive does not call back, nobody can make use of it.
-/

namespace StreamControl

/-- The promise that goes with an operation. -/
def Operation.promise? {η : Type} (op : Operation η) : Option PromiseId :=
  op.job?.bind Job.promise?

def Job.isReset {η : Type} : Job η → Bool
  | .reset _ | .writeReset _ => true
  | _ => false

namespace Endpoint

variable {η : Type} {o : Options} {owner : Thread} {h : Past η} {m m' : Live η}
  {rest agenda agenda' : Agenda η} {a : Deed η} {c : StreamCall η}

/-- An item is on its way to the inbox. -/
def isPush : Entry (StreamInstr η) (StreamCall η) StreamNote → Bool
  | .todo (.work (.inbox (.push _))) => true
  | _ => false

/-- The inbox is about to be emptied. -/
def isClear : Entry (StreamInstr η) (StreamCall η) StreamNote → Bool
  | .todo (.work (.inbox .clear)) => true
  | _ => false

/-- Below an entry that empties the inbox there is a lock. -/
def Paired : Agenda η → Prop
  | [] => True
  | x :: rest => (isClear x = true → ¬ Unlocked false rest) ∧ Paired rest

lemma paired_of_none (none_clears : agenda.any isClear = false) : Paired agenda := by
  induction agenda with
  | nil => trivial
  | cons x rest ih =>
    rw [List.any_cons, Bool.or_eq_false_iff] at none_clears
    refine ⟨fun clears => ?_, ih none_clears.2⟩
    rw [none_clears.1] at clears
    cases clears

lemma Paired.append (above : Paired agenda) (below : Paired agenda') :
    Paired (agenda ++ agenda') := by
  induction agenda with
  | nil => exact below
  | cons x rest ih =>
    refine ⟨fun clears unlocked => above.1 clears ?_, ih above.2⟩
    exact (unlocked_append.mp unlocked).1

lemma Paired.none_clears (paired : Paired agenda) (unlocked : Unlocked false agenda) :
    agenda.any isClear = false := by
  induction agenda with
  | nil => rfl
  | cons x rest ih =>
    have later : Unlocked false rest := (unlocked_cons.mp unlocked).2
    rw [List.any_cons, Bool.or_eq_false_iff]
    refine ⟨?_, ih paired.2 later⟩
    by_contra clears
    rw [Bool.not_eq_false] at clears
    exact paired.1 clears later

lemma Unlocked.none_pushed {all : Bool} (unlocked : Unlocked all agenda) :
    agenda.any isPush = false := by
  rw [Unlocked, List.any_eq_false] at unlocked
  rw [List.any_eq_false]
  intro x hx pushes
  refine unlocked x hx ?_
  unfold isPush at pushes
  split at pushes
  · rfl
  · cases pushes

/-- The inbox of a stream that was reset is empty, or about to be emptied; no item is on its way
to the inbox of a stream that has ended. -/
structure Clearing (m : Live η) : Prop where
  emptied : m.state.stream.resetCode.isSome = true →
    m.state.stream.inbox.pending = [] ∨ m.agenda.any isClear = true
  ongoing : m.agenda.any isPush = true → m.state.stream.hasEnded = false
  paired : Paired m.agenda

/-! ## What each instruction does to the inbox -/

section Perform

variable (e : Endpoint η) (job : Job η)

lemma perform_inbox (other : job.isReset = false) :
    (e.perform job).1.stream.inbox = e.stream.inbox ∧
      (e.perform job).1.stream.resetCode = e.stream.resetCode := by
  have alters := alters_perform e job
  generalize (e.perform job).1 = e' at *
  cases alters with
  | resets e resets => rcases resets with rfl | rfl <;> cases other
  | sendsReset => cases other
  | _ => exact ⟨rfl, rfl⟩

lemma reset_pending (code : Nat)
    (before : e.stream.resetCode.isSome = true → e.stream.inbox.pending = []) :
    (e.reset code).1.stream.inbox.pending = [] := by
  simp only [reset]
  split
  · rename_i known
    exact before known
  · rfl

/-- A reset empties the inbox, or asks for this. -/
lemma perform_emptied
    (before : e.stream.resetCode.isSome = true → e.stream.inbox.pending = [])
    (reset_now : (e.perform job).1.stream.resetCode.isSome = true) :
    (e.perform job).1.stream.inbox.pending = [] ∨
      ((e.perform job).2.map .todo).any isClear = true := by
  by_cases resets : job.isReset = true
  · cases job with
    | reset code => exact .inl (reset_pending e code before)
    | writeReset code =>
      cases slot : e.stream.slot with
      | unallocated =>
        simp only [perform, slot]
        exact .inl (reset_pending e code before)
      | allocated id =>
        by_cases ended : e.stream.hasEnded = true
        · simp only [perform, slot, ended, if_true] at reset_now ⊢
          exact .inl (before reset_now)
        · simp only [perform, slot, ended]
          exact .inr rfl
    | _ => cases resets
  · rw [Bool.not_eq_true] at resets
    obtain ⟨same_inbox, same_code⟩ := perform_inbox e job resets
    rw [same_code] at reset_now
    exact .inl (by rw [same_inbox, before reset_now])

/-- What is received after the end does not get to the inbox. -/
lemma perform_pushes (pushes : ((e.perform job).2.map .todo).any isPush = true) :
    (e.perform job).1.stream.hasEnded = false := by
  cases job with
  | data bytes | fin trailers =>
    by_cases ended : e.stream.hasEnded = true
    · simp only [perform, ended, if_true] at pushes
      cases pushes
    · rw [Stream.hasEnded, (perform_other e _ rfl).1, (perform_other e _ rfl).2,
        ← Stream.hasEnded]
      exact Bool.eq_false_iff.mpr ended
  | reset code | changePriority p | toggleWritable | close | writeFrame frame p
  | writeHeaders block fin flush p | writeReset code | announcePriority p =>
    simp only [perform, reset, headersOut] at pushes
    repeat' split at pushes
    all_goals cases pushes
  | _ => cases pushes

lemma perform_paired : Paired ((e.perform job).2.map .todo) := by
  cases job with
  | writeReset code =>
    simp only [perform, reset]
    (repeat' split) <;> simp [Paired, isClear, unlocked_cons, isLock, trace]
  | data bytes | fin trailers | reset code | changePriority p | toggleWritable | close
  | writeFrame frame p | writeHeaders block fin flush p | announcePriority p =>
    apply paired_of_none
    simp only [perform, reset, headersOut]
    (repeat' split) <;> rfl
  | _ => exact paired_of_none rfl

end Perform

/-- Only jobs have items buffered and the inbox emptied. -/
lemma exec_inbound {i : StreamInstr η} (e : Endpoint η) (other : ∀ job, i ≠ .perform job) :
    ((exec i e).2.map .todo).any isPush = false ∧
      ((exec i e).2.map .todo).any isClear = false := by
  constructor <;> refine any_exec fun x leaves => ?_ <;>
    cases leaves with
    | inbox job j => exact absurd rfl (other job)
    | _ => rfl

/-- Only an item that is pushed is added to the inbox. -/
lemma exec_pending {i : StreamInstr η} (e : Endpoint η) (other : ∀ job, i ≠ .perform job)
    (no_push : ∀ item, i ≠ .inbox (.push item)) (empty : e.stream.inbox.pending = []) :
    (exec i e).1.stream.inbox.pending = [] := by
  have alters := exec_alters i e
  generalize (exec i e).1 = e' at *
  cases alters with
  | resets | sendsReset | closes => exact absurd rfl (other _)
  | inbox j =>
    exact (Inbox.exec_effect j e.stream.inbox).pending_nil
      (fun item same => no_push item (congrArg _ same)) empty
  | _ => exact empty

lemma clearing_work {i : StreamInstr η} {e : Endpoint η}
    (clearing : Clearing ⟨e, .todo (.work i) :: rest⟩)
    (guarded : GuardedNow false ⟨e, .todo (.work i) :: rest⟩) :
    Clearing ⟨(exec i e).1, (exec i e).2.map .todo ++ rest⟩ := by
  obtain ⟨emptied, ongoing, paired⟩ := clearing
  have paired_below : Paired rest := paired.2
  by_cases performs : ∃ job, i = .perform job
  · obtain ⟨job, rfl⟩ := performs
    have unlocked : Unlocked false rest := unlocked_of_guarded guarded rfl id
    have no_clear := paired_below.none_clears unlocked
    refine ⟨fun reset_now => ?_, fun pushes => ?_, (perform_paired e job).append paired_below⟩
    · have before : e.stream.resetCode.isSome = true → e.stream.inbox.pending = [] := by
        intro known
        refine (emptied known).resolve_right ?_
        rw [List.any_cons, no_clear]
        exact Bool.false_ne_true
      rw [List.any_append, no_clear, Bool.or_false]
      exact perform_emptied e job before reset_now
    · rw [List.any_append, unlocked.none_pushed, Bool.or_false] at pushes
      exact perform_pushes e job pushes
  · have other : ∀ job, i ≠ .perform job := fun job same => performs ⟨job, same⟩
    obtain ⟨no_push_out, no_clear_out⟩ := exec_inbound e other
    obtain ⟨same_code, _⟩ := exec_flags (e := e) other
    refine ⟨fun known => ?_, fun pushes => ?_, (paired_of_none no_clear_out).append paired_below⟩
    · rw [same_code] at known
      rw [List.any_append, no_clear_out, Bool.false_or]
      by_cases pushes : ∃ item, i = .inbox (.push item)
      · obtain ⟨item, rfl⟩ := pushes
        have unended := ongoing rfl
        rw [Stream.hasEnded, known] at unended
        cases unended
      · have no_push : ∀ item, i ≠ .inbox (.push item) := fun item same => pushes ⟨item, same⟩
        rcases emptied known with empty | clears
        · exact .inl (exec_pending e other no_push empty)
        · rw [List.any_cons, Bool.or_eq_true] at clears
          rcases clears with now | later
          · unfold isClear at now
            split at now
            · rename_i same
              obtain rfl := Todo.work.inj (Entry.todo.inj same)
              exact .inl rfl
            · cases now
          · exact .inr later
    · rw [List.any_append, no_push_out, Bool.false_or] at pushes
      rw [exec_hasEnded other]
      exact ongoing (by rw [List.any_cons, pushes, Bool.or_true])

lemma clearing_step (clearing : Clearing m) (guarded : GuardedNow false m)
    (move : Machine.Move component (Request false) m a m') : Clearing m' := by
  obtain ⟨emptied, ongoing, paired⟩ := clearing
  cases move using Machine.Move.elim with
  | work e i rest => exact clearing_work ⟨emptied, ongoing, paired⟩ guarded
  | call e c rest => exact ⟨emptied, ongoing, nofun, paired.2⟩
  | note e s rest => exact ⟨emptied, ongoing, paired.2⟩
  | invoke m is asked =>
    cases asked <;> exact ⟨emptied, ongoing, nofun, paired⟩
  | reply e c rest f =>
    have nothing : ((component.resume c (f c)).map .todo : Agenda η).any isPush = false ∧
        ((component.resume c (f c)).map .todo : Agenda η).any isClear = false := by
      cases c with
      | conn p => cases p <;> exact ⟨rfl, rfl⟩
      | hook k => cases k <;> exact ⟨rfl, rfl⟩
    refine ⟨fun known => ?_, fun pushes => ?_, (paired_of_none nothing.2).append paired.2⟩
    · rw [List.any_append, nothing.2, Bool.false_or]
      exact emptied known
    · rw [List.any_append, nothing.1, Bool.false_or] at pushes
      exact ongoing pushes

lemma clearing_of_runs (run : Runs false o owner h m) : Clearing m := by
  induction run with
  | start => exact ⟨nofun, nofun, trivial⟩
  | step run move ih => exact clearing_step ih (guarded_of_runs run) move

/-! ## What a callback sees -/

/-- All that ends with a stream has ended. -/
structure Whole (s : Stream η) : Prop where
  outbox_closed : s.hasEnded = true → s.outbox.closed ≠ none
  outbox_empty : s.hasEnded = true → s.outbox.pending = []
  inbox_empty : s.resetCode.isSome = true → s.inbox.pending = []

/-- The surroundings see a stream that has ended as a whole: every write that they make on the
loop now fails, and no item is delivered to them when they ask for some after a reset. -/
structure SeenWhole (m : Live η) : Prop where
  whole : Whole m.state.stream
  writes_fail : m.state.stream.hasEnded = true → ∀ op p, op.promise? = some p →
    ∃ cause m', Fails p cause (m.invoke [.enter m.state.loop.owner op]) m'
  fetches_nothing : m.state.stream.resetCode.isSome = true → ∀ amount, ∃ n m',
    Machine.Alone component (m.invoke [.enter m.state.loop.owner (.fetch amount)])
      (List.replicate n .silent) m' ∧ m'.agenda = m.agenda

lemma Fails.after {m₁ m' : Live η} {p : PromiseId} {cause : Fault}
    (first : m.step component = some (.silent, m₁)) (fails : Fails p cause m₁ m') :
    Fails p cause m m' := by
  obtain ⟨n, alone⟩ := fails
  exact ⟨n + 1, .next first alone⟩

/-- On the loop a job is done at once. -/
lemma step_dispatch {e : Endpoint η} {job : Job η} (on_loop : e.onLoop = true) :
    Machine.step component ⟨e, .todo (.work (.dispatch job)) :: rest⟩ =
      some (.silent, ⟨e, .todo (.work (.perform job)) :: rest⟩) := by
  simp [Machine.step, component, exec, on_loop]

lemma job_fails {e : Endpoint η} {job : Job η} {p : PromiseId} (whole : Whole e.stream)
    (ended : e.stream.hasEnded = true) (promised : job.promise? = some p) (rest : Agenda η) :
    ∃ cause, Fails p cause ⟨e, .todo (.work (.perform job)) :: rest⟩ ⟨e, rest⟩ := by
  cases job with
  | enqueue w =>
    obtain rfl := Option.some.inj promised
    obtain ⟨cause, closed⟩ := Option.ne_none_iff_exists'.mp (whole.outbox_closed ended)
    exact ⟨cause, queued_fails closed⟩
  | writeFrame frame q | writeHeaders block fin flush q =>
    obtain ⟨cause, _, target⟩ := directTarget_of_ended ended
    exact ⟨cause, direct_fails target promised⟩
  | _ => cases promised

lemma deliver_nothing {b : Inbox Unit Item} (empty : b.pending = []) :
    ((Inbox.exec .deliver b).2.flatMap ofInbox : List (StreamTodo η)) = [] := by
  have effect := Inbox.exec_effect .deliver b
  generalize (Inbox.exec .deliver b).1 = b' at *
  generalize (Inbox.exec .deliver b).2 = out at *
  cases effect with
  | hands _ _ _ pending => exact absurd (empty.symm.trans pending) (by simp)
  | waits => rfl
  | emptied =>
    unfold Inbox.relief
    split
    · cases b.onDrained <;> rfl
    · rfl

/-- An operation that goes with a promise has its job done, and nothing else. -/
lemma begin_of_promise {op : Operation η} {p : PromiseId} (promised : op.promise? = some p) :
    ∃ job : Job η, job.promise? = some p ∧ ∀ e, begin e op = (e, [.work (.dispatch job)]) := by
  cases op with
  | writeFrame frame q => exact ⟨.writeFrame frame q, promised, fun e => rfl⟩
  | writeHeaders block first fin flush q =>
    cases first with
    | true => exact ⟨.writeHeaders block fin flush q, promised, fun e => rfl⟩
    | false => exact ⟨.enqueue (.headers block fin flush q), promised, fun e => rfl⟩
  | writeData chunk fin q => exact ⟨.enqueue (.data chunk fin q), promised, fun e => rfl⟩
  | _ => cases promised

lemma seenWhole_of_whole (whole : Whole m.state.stream) : SeenWhole m := by
  rcases m with ⟨e, agenda⟩
  have on_loop : onLoop { e with thread := e.loop.owner } = true := by
    simp [onLoop, TaskLoop.ownedBy]
  refine ⟨whole, fun ended op p promised => ?_, fun reset amount => ?_⟩
  · obtain ⟨job, job_promised, begins⟩ := begin_of_promise promised
    obtain ⟨cause, fails⟩ := job_fails (e := { e with thread := e.loop.owner }) whole ended
      job_promised (.todo (.work (.leave e.thread)) :: agenda)
    have entered : Machine.step component ⟨e, .todo (.work (.enter e.loop.owner op)) :: agenda⟩ =
        some (.silent, ⟨{ e with thread := e.loop.owner },
          .todo (.work (.dispatch job)) :: .todo (.work (.leave e.thread)) :: agenda⟩) := by
      simp [Machine.step, component, exec, begins]
    exact ⟨cause, _, (fails.after (step_dispatch on_loop)).after entered⟩
  · have empty : e.stream.inbox.pending = [] := whole.inbox_empty reset
    have delivers (e' : Endpoint η) (rest : Agenda η) (empty : e'.stream.inbox.pending = []) :
        Machine.step component ⟨e', .todo (.work (.inbox .deliver)) :: rest⟩ =
          some (.silent, ⟨(exec (.inbox .deliver) e').1, rest⟩) := by
      simp only [Machine.step, component, exec, deliver_nothing empty]
      rfl
    -- The operation, its job, the grant, the delivery, the count of what is left, the way back.
    refine ⟨7, _, .next rfl (.next (step_dispatch on_loop) (.next rfl (.next rfl (.next
      (delivers _ _ empty) (.next rfl (.next rfl .stop)))))), rfl⟩

/-- There is no lock below a call of the loop, unless a reset is being sent. -/
lemma unlocked_of_called {e : Endpoint η} {x : Entry (StreamInstr η) (StreamCall η) StreamNote}
    (guarded : GuardedNow false ⟨e, x :: rest⟩) (called : x = .todo (.call c) ∨ x = .held c)
    (other : ∀ id code, c ≠ .conn (.sendReset id code))
    (near : ∀ p, c = .conn p → p.isAnywhere = true → e.thread = e.loop.owner) :
    Unlocked false rest := by
  refine unlocked_of_guarded guarded ?_ ?_
  · cases c with
    | conn p =>
      have moving : p.isStill false = false := by
        cases p with
        | sendReset id code => exact absurd rfl (other id code)
        | _ => rfl
      rcases called with rfl | rfl <;> exact moving
    | hook k => rcases called with rfl | rfl <;> rfl
  · cases c with
    | conn p => rcases called with rfl | rfl <;> exact fun aside => aside.2 (near p rfl aside.1)
    | hook k => rcases called with rfl | rfl <;> exact id

/-- Whenever a hook is called, or on the loop a primitive, and until it is answered, a stream that
has ended is seen as a whole. The primitive that sends a reset is left out: it sees the stream
before its queues have ended, and must not call back. -/
theorem seenWhole_of_runs {x : Entry (StreamInstr η) (StreamCall η) StreamNote}
    (run : Runs false o owner h m) (head : m.agenda = x :: rest)
    (called : x = .todo (.call c) ∨ x = .held c)
    (other : ∀ id code, c ≠ .conn (.sendReset id code))
    (near : ∀ p, c = .conn p → p.isAnywhere = true → m.state.thread = m.state.loop.owner) :
    SeenWhole m := by
  have guarded := guarded_of_runs run
  have sealed := sealed_of_runs run
  have clearing := clearing_of_runs run
  rcases m with ⟨e, agenda⟩
  obtain rfl : agenda = _ := head
  have unlocked : Unlocked false rest := unlocked_of_called guarded called other near
  have no_closing : closing x = [] := by rcases called with rfl | rfl <;> rfl
  have no_clear : isClear x = false := by rcases called with rfl | rfl <;> rfl
  have closed : e.stream.hasEnded = true → e.stream.outbox.closed ≠ none := by
    intro ended
    refine (sealed.closes ended).resolve_right ?_
    rw [closings_cons, no_closing, closings_of_unlocked unlocked]
    exact fun due => due rfl
  refine seenWhole_of_whole ⟨closed, fun ended => sealed.empty (closed ended), fun reset => ?_⟩
  refine (clearing.emptied reset).resolve_right ?_
  rw [List.any_cons, no_clear, clearing.paired.2.none_clears unlocked]
  exact Bool.false_ne_true

/-- A paused stream with an item in its inbox and a write in its outbox is reset, and the hook for
this is called. -/
def resetWhileFull : Past Nat × Live Nat :=
  Machine.drive component 40
    [.ask [.enter 0 (.data ⟨#[7]⟩)], .reply (plainly true .success),
      .ask [.enter 0 (.writeData none false 1)], .ask [.enter 0 (.reset 2)]]
    (.idle (fresh (.withStartPaused .standard true) 0))

lemma resetWhileFull_runs :
    Runs false (.withStartPaused .standard true) 0 resetWhileFull.1 resetWhileFull.2 :=
  Machine.drive_run (fun _ _ => request_of_isRequest) _ _ _ rfl

theorem seenWhole_resetWhileFull :
    Runs false (.withStartPaused .standard true) 0 resetWhileFull.1 resetWhileFull.2 ∧
      resetWhileFull.2.agenda.head? = some (.held (.hook (.reset 2))) ∧
      resetWhileFull.2.state.stream.resetCode = some 2 ∧ SeenWhole resetWhileFull.2 :=
  ⟨resetWhileFull_runs, rfl, rfl,
    seenWhole_of_runs resetWhileFull_runs rfl (.inr rfl) nofun nofun⟩

/-- A stream with an item in its inbox resets itself, and the primitive for this is used. -/
def resettingWhileFull : Past Nat × Live Nat :=
  Machine.drive component 40
    [.ask [.enter 0 (.allocate 1)], .reply (plainly true .success),
      .ask [.enter 0 (.data ⟨#[7]⟩)], .reply (plainly true .success),
      .ask [.enter 0 (.writeReset 8)]]
    (.idle (fresh (.withStartPaused .standard true) 0))

/-- The primitive that sends a reset sees half of it: were it to call back, the item would still be
delivered, and a write would still be sent. -/
theorem not_seenWhole_of_called :
    ¬ (∀ (h : Past Nat) (m : Live Nat) (c : StreamCall Nat) (rest : Agenda Nat),
      Machine.Run component (Machine.InTurn component fun is => isOperation is = true)
        (.idle (fresh (.withStartPaused .standard true) 0)) h m →
      m.agenda = .held c :: rest → SeenWhole m) ∧
    (∃ m', Machine.Alone component (resettingWhileFull.2.invoke [.enter 0 (.fetch 1)])
      (List.replicate 6 .silent ++ [.called (.conn (.returnCredit 1 1))]) m') ∧
    (∃ m', Machine.Alone component
      (resettingWhileFull.2.invoke [.enter 0 (.writeData none false 1)])
      (List.replicate 6 .silent ++ [.called (.conn (.countWritten 0))]) m') := by
  refine ⟨fun all => ?_, ?_, ?_⟩
  · have run : Machine.Run component (Machine.InTurn component fun is => isOperation is = true)
        (.idle (fresh (.withStartPaused .standard true) 0)) resettingWhileFull.1
        resettingWhileFull.2 :=
      Machine.drive_run (fun _ _ waits asked => ⟨waits, asked⟩) _ _ _ rfl
    exact (all _ _ (.conn (.sendReset 1 8)) _ run rfl).whole.outbox_closed rfl rfl
  · exact ⟨_, .next rfl (.next rfl (.next rfl (.next rfl (.next rfl (.next rfl (.next rfl
      .stop))))))⟩
  · exact ⟨_, .next rfl (.next rfl (.next rfl (.next rfl (.next rfl (.next rfl (.next rfl
      .stop))))))⟩

end Endpoint

end StreamControl
