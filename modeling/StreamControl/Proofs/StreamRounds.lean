import StreamControl.Proofs.PromiseCustody
import StreamControl.Proofs.Serving
import StreamControl.Proofs.StreamFraming

/-!
# One request after the other

On the thread of its loop a stream is asked for one thing after the other, by surroundings that
answer its calls and do not call back. Then what is asked decides what is seen. Each round ends with
the loop as it was, and with every write waiting, sent or failed.
-/

namespace StreamControl.Endpoint

variable {η : Type} {o : Options} {owner : Thread} {e e' e₁ e₂ : Endpoint η}
  {is rest : List (StreamTodo η)} {x : StreamTodo η} {h : Past η} {m m' : Live η}
  {reply : List (StreamCall η) → (c : StreamCall η) → c.Reply}
  {before : List (StreamCall η)} {shown : List (Signal (StreamCall η) StreamNote)}

/-! ## On the thread of the loop -/

/-- The answer to a call leads to a binding, or tells the inbox what became of an item. -/
lemma forall_resume {p : StreamTodo η → Prop} (c : StreamCall η) (r : c.Reply)
    (binds : ∀ id writable, p (.work (.bind id writable)))
    (consumed : ∀ o, p (.work (.inbox (.consumed o)))) : ∀ x ∈ component.resume c r, p x := by
  cases c with
  | conn k =>
    cases k with
    | canSend id => exact List.forall_mem_singleton.mpr (binds id r)
    | _ => exact List.forall_mem_nil _
  | hook k =>
    cases k with
    | data bytes | fin trailers => exact List.forall_mem_singleton.mpr (consumed r)
    | _ => exact List.forall_mem_nil _

lemma Within.on_loop {agenda : Agenda η} (within : Within owner ⟨e, agenda⟩) : e.onLoop = true := by
  have owned : e.loop.owner = owner := within.owned
  have at_owner : e.thread = owner := within.at_owner
  simp [onLoop, TaskLoop.ownedBy, owned, at_owner]

lemma Within.uncons {agenda : Agenda η} (within : Within owner ⟨e, .todo x :: agenda⟩) :
    Within owner ⟨e, agenda⟩ :=
  ⟨within.owned, within.at_owner, fun y hy => within.all y (List.mem_cons_of_mem _ hy)⟩

lemma Within.resume {c : StreamCall η}
    (within : Within owner ⟨e, .todo (.call c) :: rest.map .todo⟩) (r : c.Reply) :
    Within owner ⟨e, (component.resume c r ++ rest).map .todo⟩ := by
  rw [List.map_append]
  exact within.append (forall_resume c r (fun _ _ => trivial) fun _ => trivial) rfl rfl

/-- The loop's thread is at work in the end as well, and the loop is as it was. -/
lemma within_of_serves (serves : Machine.Serves component reply before e is shown e')
    (within : Within owner ⟨e, is.map .todo⟩) : Within owner ⟨e', []⟩ ∧ e'.loop = e.loop := by
  induction serves with
  | done => exact ⟨within, rfl⟩
  | work _ ih =>
    obtain ⟨within', same_loop⟩ := within_work within
    rw [← List.map_append] at within'
    exact ⟨(ih within').1, (ih within').2.trans same_loop⟩
  | call _ ih => exact ih (within.resume _)
  | note _ ih => exact ih within.uncons

/-! ## Rounds -/

/-- What is asked of a stream on the thread of its loop. -/
inductive Ask (η : Type) where
  | operation (op : Operation η) (plain : op.isOnLoop = false)
  | setRemote (remoteOpen : Bool)

def Ask.instr (owner : Thread) : Ask η → StreamInstr η
  | operation op _ => .enter owner op
  | setRemote remoteOpen => .setRemote remoteOpen

/-- What was asked of a stream, how it was then, and what was seen of it. -/
structure Round (η : Type) where
  start : Endpoint η
  ask : Ask η
  shown : List (Signal (StreamCall η) StreamNote)

/-- The calls that were heard. -/
def heardIn (rounds : List (Round η)) : List (StreamCall η) :=
  Machine.heard (rounds.flatMap Round.shown)

/-- One thing after the other is asked of a stream on its loop, by surroundings that answer its
calls and do not call back. -/
inductive Attends (reply : List (StreamCall η) → (c : StreamCall η) → c.Reply) :
    List (StreamCall η) → Endpoint η → List (Round η) → Endpoint η → Prop
  | done {before : List (StreamCall η)} {e : Endpoint η} : Attends reply before e [] e
  | next {before : List (StreamCall η)} {e e₁ e' : Endpoint η}
      {shown : List (Signal (StreamCall η) StreamNote)} {rounds : List (Round η)} (ask : Ask η)
      (serves : Machine.Serves component reply before e [.work (ask.instr e.loop.owner)] shown e₁)
      (later : Attends reply (before ++ Machine.heard shown) e₁ rounds e') :
    Attends reply before e (⟨e, ask, shown⟩ :: rounds) e'

variable {rounds rounds₁ rounds₂ : List (Round η)} {ask : Ask η}

/-- What is asked decides what is seen, and what becomes of the stream. -/
lemma Attends.unique (first : Attends reply before e rounds₁ e₁)
    (second : Attends reply before e rounds₂ e₂)
    (same : rounds₁.map Round.ask = rounds₂.map Round.ask) : rounds₁ = rounds₂ ∧ e₁ = e₂ := by
  induction first generalizing rounds₂ with
  | done =>
    cases second with
    | done => exact ⟨rfl, rfl⟩
    | next => cases same
  | next _ serves _ ih =>
    cases second with
    | done => cases same
    | next _ serves' later' =>
      obtain ⟨rfl, rest_same⟩ := List.cons.inj same
      obtain ⟨rfl, rfl⟩ := serves.unique serves'
      obtain ⟨rfl, rfl⟩ := ih later' rest_same
      exact ⟨rfl, rfl⟩

/-! ## The thread of the loop -/

lemma within_ask (home : e.thread = e.loop.owner) (ask : Ask η) :
    Within e.loop.owner ⟨e, [.todo (.work (ask.instr e.loop.owner))]⟩ := by
  refine ⟨rfl, home, List.forall_mem_singleton.mpr ?_⟩
  cases ask with
  | operation op plain => exact ⟨rfl, plain⟩
  | setRemote remoteOpen => trivial

lemma home_of_serves (home : e.thread = e.loop.owner)
    (serves : Machine.Serves component reply before e [.work (ask.instr e.loop.owner)] shown e') :
    e'.thread = e'.loop.owner ∧ e'.loop = e.loop := by
  obtain ⟨within, same_loop⟩ := within_of_serves serves (within_ask home ask)
  exact ⟨within.at_owner.trans within.owned.symm, same_loop⟩

lemma home_of_attends (attends : Attends reply before e rounds e')
    (home : e.thread = e.loop.owner) : e'.thread = e'.loop.owner ∧ e'.loop = e.loop := by
  induction attends with
  | done => exact ⟨home, rfl⟩
  | next _ serves _ ih =>
    obtain ⟨home', same_loop⟩ := home_of_serves home serves
    exact ⟨(ih home').1, (ih home').2.trans same_loop⟩

/-! ## Where the writes are -/

def Ask.promises : Ask η → List PromiseId
  | operation op _ => op.promise?.toList
  | setRemote _ => []

/-- The promises that came with what was asked. -/
def promisesIn (rounds : List (Round η)) : List PromiseId :=
  rounds.flatMap fun r => r.ask.promises

/-- A promise goes to the connection. -/
def entrusts : Signal (StreamCall η) StreamNote → List PromiseId
  | .called (.conn p) => p.promise?.toList
  | _ => []

/-- A promise is failed by the stream itself. -/
def denies : Signal (StreamCall η) StreamNote → List PromiseId
  | .noted (.failed p _) => [p]
  | _ => []

/-- The promises that went to the connection with a write. -/
def handedIn (rounds : List (Round η)) : List PromiseId :=
  (rounds.flatMap Round.shown).flatMap entrusts

/-- The promises that were failed. -/
def failedIn (rounds : List (Round η)) : List PromiseId :=
  (rounds.flatMap Round.shown).flatMap denies

lemma handed_eq_seen (h : Past η) : handed h = (Machine.seen h).flatMap entrusts := by
  induction h with
  | nil => rfl
  | cons b h ih =>
    rw [Machine.seen_cons, List.flatMap_append, ← ih, handed, List.flatMap_cons]
    rcases b with ⟨m, (i | c | n) | is | ⟨c, r⟩⟩
    · rfl
    · cases c <;> simp [hands, Machine.signal?, Machine.shows?, entrusts, handed]
    · rfl
    · rfl
    · rfl

lemma failed_eq_seen (h : Past η) : failed h = (Machine.seen h).flatMap denies := by
  induction h with
  | nil => rfl
  | cons b h ih =>
    rw [Machine.seen_cons, List.flatMap_append, ← ih, failed, failures, List.flatMap_cons,
      List.map_append]
    rcases b with ⟨m, (i | c | n) | is | ⟨c, r⟩⟩
    · rfl
    · rfl
    · cases n <;> simp [failure, Machine.signal?, Machine.shows?, denies, failed, failures]
    · rfl
    · rfl

lemma given_of_never (run : Machine.Run component Machine.never m h m') : given h = [] := by
  induction run with
  | start => rfl
  | step _ move ih =>
    rw [given_snoc, ih]
    cases move using Machine.Move.elim with
    | invoke m is asked => exact asked.elim
    | _ => rfl

lemma asked_ask (owner : Thread) (ask : Ask η) : Asked Kept [ask.instr owner] := by
  cases ask with
  | operation op plain =>
    refine .operation owner op ?_
    rintro rfl
    cases plain
  | setRemote remoteOpen => exact .setRemote remoteOpen

/-- To attend to what is asked is to run. -/
lemma runs_of_attends (attends : Attends reply before e rounds e') :
    ∃ h : Past η, Machine.Run component (fun _ => Asked Kept) (.idle e) h (.idle e') ∧
      given h = promisesIn rounds ∧ Machine.seen h = rounds.flatMap Round.shown := by
  induction attends with
  | done => exact ⟨[], .start, rfl, rfl⟩
  | @next before e e₁ e' shown rounds ask serves _ ih =>
    obtain ⟨h₁, run, -, rfl⟩ := Machine.serves_iff.mp serves
    obtain ⟨h₂, later, given_later, seen_later⟩ := ih
    have none_given := given_of_never run
    have asked : Machine.Move component (fun _ => Asked Kept) (.idle e)
        (.invoke [ask.instr e.loop.owner]) ⟨e, [.todo (.work (ask.instr e.loop.owner))]⟩ :=
      .invoke (asked_ask _ ask)
    refine ⟨(.idle e, .invoke [ask.instr e.loop.owner]) :: (h₁ ++ h₂),
      .cons asked ((run.mono fun _ _ no => no.elim).append later), ?_, ?_⟩
    · have first : gives (.invoke [ask.instr e.loop.owner] : Deed η) = ask.promises := by
        cases ask <;> rfl
      simp only [given, List.flatMap_cons, List.flatMap_append] at *
      rw [first, none_given, given_later, List.nil_append]
      rfl
    · rw [Machine.seen_cons, Machine.seen_append, seen_later]
      rfl

/-- Every write that was asked for waits in the outbox, has gone to the connection, or has
failed. -/
lemma accounted_of_attends (attends : Attends reply [] (fresh o owner) rounds e) :
    (promisesIn rounds).Perm (queued e ++ handedIn rounds ++ failedIn rounds) := by
  obtain ⟨h, run, given_eq, seen_eq⟩ := runs_of_attends attends
  have placed := placed_of_runs run rfl
  have none_posted : posted promised e = [] := by
    rw [posted, (home_of_attends attends rfl).2]
    rfl
  rwa [places, given_eq, handed_eq_seen, failed_eq_seen, seen_eq,
    show (Machine.idle e : Live η).state = e from rfl, none_posted, List.nil_append] at placed

end StreamControl.Endpoint
