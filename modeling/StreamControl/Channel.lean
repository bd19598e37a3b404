/-!
# Channels for one message

A sender passes a message to a receiver, or goes away without. The receiver asks for
the message, or waits to be woken. A `Channel` is what the two sides can do, and its
`Contract` is what they rely on. `Channel.oneShot` is the channel in use.
-/

namespace StreamControl

/-- What comes of an operation: its answer, the state it leaves, and whom it wakes. -/
structure Upshot (σ ω β : Type) where
  answer : β
  state : σ
  woken : List ω

def Upshot.map {σ τ ω β γ : Type} (f : β → γ) (g : σ → τ) (u : Upshot σ ω β) : Upshot τ ω γ :=
  ⟨f u.answer, g u.state, u.woken⟩

/-- A channel for messages `α`, whose receivers leave wakers `ω`. -/
structure Channel (α ω : Type) where
  State : Type
  fresh : State
  /-- The sender is gone after this. A message that nobody can receive comes back. -/
  send : α → State → Upshot State ω (Except α Unit)
  dropSender : State → Upshot State ω Unit
  isCanceled : State → Bool
  /-- The error says that no message is to come. -/
  tryReceive : State → Upshot State ω (Except Unit (Option α))
  /-- Finds the channel ready, or leaves a waker. -/
  pollReceive : ω → State → Upshot State ω (Option (Except Unit α))
  dropReceiver : State → Upshot State ω Unit

namespace Channel

variable {α ω β : Type} {C : Channel α ω}

/-- What there is to tell of the states of a channel. -/
structure View (C : Channel α ω) where
  hasSender : C.State → Bool
  hasReceiver : C.State → Bool
  /-- Sent and not yet received. -/
  message? : C.State → Option α
  /-- The waker that was left last. -/
  waiting? : C.State → Option ω

namespace View

/-- The sender goes away, and a receiver that waits is woken. -/
structure Ends (v : View C) (s : C.State) (u : Upshot C.State ω β) : Prop where
  sender : v.hasSender u.state = false
  receiver : v.hasReceiver u.state = v.hasReceiver s
  woken : u.woken = (v.waiting? s).toList

/-- The message is taken out if there is one. Both sides stay, and nobody is woken. -/
structure Empties (v : View C) (s : C.State) (u : Upshot C.State ω β) : Prop where
  sender : v.hasSender u.state = v.hasSender s
  receiver : v.hasReceiver u.state = v.hasReceiver s
  message : v.message? u.state = none
  woken : u.woken = []

end View

/-- What the two sides of a channel rely on, each as long as it is there. -/
structure Contract (C : Channel α ω) (v : View C) : Prop where
  /-- A new channel has both sides, and nothing in it. -/
  fresh_sides : v.hasSender C.fresh = true ∧ v.hasReceiver C.fresh = true
  fresh_empty : v.message? C.fresh = none ∧ v.waiting? C.fresh = none
  send : ∀ a s, v.hasSender s = true → v.Ends s (C.send a s)
  /-- What is sent is there for a receiver that is left. -/
  send_message : ∀ a s, v.hasSender s = true → v.hasReceiver s = true →
    v.message? (C.send a s).state = some a
  dropSender : ∀ s, v.hasSender s = true → v.Ends s (C.dropSender s)
  dropSender_message : ∀ s, v.hasSender s = true →
    v.message? (C.dropSender s).state = v.message? s
  /-- The sender learns whether the receiver is gone. -/
  isCanceled : ∀ s, v.hasSender s = true → C.isCanceled s = !v.hasReceiver s
  tryReceive : ∀ s, v.hasReceiver s = true → v.Empties s (C.tryReceive s)
  /-- The receiver gets the message. Without one it gets an error if the sender is gone. -/
  tryReceive_answer : ∀ s, v.hasReceiver s = true → (C.tryReceive s).answer =
    match v.message? s with
    | some a => .ok (some a)
    | none => if v.hasSender s then .ok none else .error ()
  /-- This neither leaves a waker nor takes one away. -/
  tryReceive_waiting : ∀ s, v.hasReceiver s = true →
    v.waiting? (C.tryReceive s).state = v.waiting? s
  pollReceive : ∀ w s, v.hasReceiver s = true → v.Empties s (C.pollReceive w s)
  pollReceive_answer : ∀ w s, v.hasReceiver s = true → (C.pollReceive w s).answer =
    match v.message? s with
    | some a => some (.ok a)
    | none => if v.hasSender s then none else some (.error ())
  /-- Whoever finds nothing waits from now on, and nobody else does. -/
  pollReceive_waiting : ∀ w s, v.hasReceiver s = true → (C.pollReceive w s).answer = none →
    v.waiting? (C.pollReceive w s).state = some w
  dropReceiver_sides : ∀ s, v.hasReceiver s = true →
    v.hasSender (C.dropReceiver s).state = v.hasSender s ∧
      v.hasReceiver (C.dropReceiver s).state = false
  dropReceiver_woken : ∀ s, v.hasReceiver s = true → (C.dropReceiver s).woken = []

/-- The state of the channel in use. -/
structure OneShot (α ω : Type) where
  sender : Bool
  receiver : Bool
  message : Option α
  waiting : Option ω
  deriving DecidableEq

def OneShot.senderLeaves (s : OneShot α ω) : Upshot (OneShot α ω) ω Unit :=
  ⟨(), { s with sender := false, waiting := none }, s.waiting.toList⟩

def oneShot (α ω : Type) : Channel α ω where
  State := OneShot α ω
  fresh := ⟨true, true, none, none⟩
  send a s :=
    if s.receiver then { s with message := some a }.senderLeaves.map .ok id
    else s.senderLeaves.map (fun _ => .error a) id
  dropSender s := s.senderLeaves
  isCanceled s := !s.receiver
  tryReceive s :=
    match s.message with
    | some a => ⟨.ok (some a), { s with message := none }, []⟩
    | none => ⟨if s.sender then .ok none else .error (), s, []⟩
  pollReceive w s :=
    match s.message with
    | some a => ⟨some (.ok a), { s with message := none }, []⟩
    | none =>
      if s.sender then ⟨none, { s with waiting := some w }, []⟩ else ⟨some (.error ()), s, []⟩
  dropReceiver s := ⟨(), { s with receiver := false, waiting := none }, []⟩

def oneShotView (α ω : Type) : View (oneShot α ω) :=
  ⟨OneShot.sender, OneShot.receiver, OneShot.message, OneShot.waiting⟩

theorem oneShot_contract : (oneShot α ω).Contract (oneShotView α ω) where
  fresh_sides := ⟨rfl, rfl⟩
  fresh_empty := ⟨rfl, rfl⟩
  send a s _ := by
    simp only [oneShot]
    split
    · exact ⟨rfl, rfl, rfl⟩
    · exact ⟨rfl, rfl, rfl⟩
  send_message a s _ there := by
    have there : s.receiver = true := there
    simp only [oneShot, there]
    rfl
  dropSender s _ := ⟨rfl, rfl, rfl⟩
  dropSender_message s _ := rfl
  isCanceled s _ := rfl
  tryReceive s _ := by
    rcases s with ⟨sender, receiver, _ | a, waiting⟩
    · exact ⟨rfl, rfl, rfl, rfl⟩
    · exact ⟨rfl, rfl, rfl, rfl⟩
  tryReceive_answer s _ := by
    rcases s with ⟨sender, receiver, _ | a, waiting⟩
    · rfl
    · rfl
  tryReceive_waiting s _ := by
    rcases s with ⟨sender, receiver, _ | a, waiting⟩
    · rfl
    · rfl
  pollReceive w s _ := by
    rcases s with ⟨_ | _, receiver, _ | a, waiting⟩
    all_goals exact ⟨rfl, rfl, rfl, rfl⟩
  pollReceive_answer w s _ := by
    rcases s with ⟨_ | _, receiver, _ | a, waiting⟩
    all_goals rfl
  pollReceive_waiting w s _ nothing := by
    rcases s with ⟨_ | _, receiver, _ | a, waiting⟩
    · cases nothing
    · cases nothing
    · rfl
    · cases nothing
  dropReceiver_sides s _ := ⟨rfl, rfl⟩
  dropReceiver_woken s _ := rfl

end Channel

end StreamControl
