import Mathlib.Data.List.Induction
import Mathlib.Tactic.Lemma
import StreamControl.Completion

/-!
# Runs of a completion

A promise and its future are asked in any order, each as long as it is there. `Standing` tells
from the requests alone how the channel between them stands, over every channel that keeps its
contract.
-/

namespace StreamControl.Completion

variable {ω : Type} {C : Channel Outcome ω} {v : C.View} {c : Completion C} {r : Request ω}

/-- A request that was made, its answer, and whom it woke. -/
structure Event (ω : Type) where
  request : Request ω
  answer : Reply
  woken : List ω
  deriving DecidableEq

abbrev Past (ω : Type) := List (Event ω)

def event (c : Completion C) (r : Request ω) : Event ω :=
  ⟨r, (c.handle r).answer, (c.handle r).woken⟩

/-- A new pair has been asked so far, the oldest request first. -/
inductive Run (C : Channel Outcome ω) : Past ω → Completion C → Prop
  | start : Run C [] fresh
  | step {h : Past ω} {c : Completion C} {r : Request ω} (run : Run C h c)
      (there : c.allows r = true) : Run C (h ++ [c.event r]) (c.handle r).state

namespace Request

/-- The outcome with which a request ends the promise. One that just goes away ends with a
cancellation. -/
def ending? : Request ω → Option Outcome
  | succeed => some .success
  | fail cause => some (.failure cause)
  | settle o => some o
  | abandon => some (.failure .canceled)
  | isCanceled | take | poll _ | ignore => none

def isEnding (r : Request ω) : Bool := r.ending?.isSome

def isReading : Request ω → Bool
  | take | poll _ => true
  | _ => false

def isIgnoring : Request ω → Bool
  | ignore => true
  | _ => false

/-- The waker that comes with a poll. -/
def waker? : Request ω → Option ω
  | poll w => some w
  | _ => none

/-- What is left to read after a request, from what was left before it. -/
def leaves : Request ω → Option Outcome → Option Outcome
  | succeed, _ => some .success
  | fail cause, _ => some (.failure cause)
  | settle o, _ => some o
  | take, _ | poll _, _ => none
  | abandon, left | isCanceled, left | ignore, left => left

lemma isIgnoring_of_ending (ends : r.isEnding = true) : r.isIgnoring = false := by
  cases r with
  | ignore => cases ends
  | _ => rfl

lemma isEnding_of_reading (reading : r.isReading = true) : r.isEnding = false := by
  cases r with
  | take | poll w => rfl
  | _ => cases reading

lemma isIgnoring_of_reading (reading : r.isReading = true) : r.isIgnoring = false := by
  cases r with
  | take | poll w => rfl
  | _ => cases reading

lemma leaves_of_reading (reading : r.isReading = true) (left : Option Outcome) :
    r.leaves left = none := by
  cases r with
  | take | poll w => rfl
  | _ => cases reading

end Request

variable {h before after since : Past ω} {d e : Event ω} {o : Outcome}

def ended (h : Past ω) : Bool := h.any (·.request.isEnding)

def hasRead (h : Past ω) : Bool := h.any (·.request.isReading)

def ignored (h : Past ω) : Bool := h.any (·.request.isIgnoring)

/-- Sent, and not handed out. -/
def unread (h : Past ω) : Option Outcome := h.foldl (fun left e => e.request.leaves left) none

/-- The wakers of all polls, the latest last. -/
def wakers (h : Past ω) : List ω := h.filterMap (·.request.waker?)

/-- All who were woken, one after the other. -/
def woken (h : Past ω) : List ω := h.flatMap (·.woken)

section Views

@[simp] lemma ended_append : ended (before ++ after) = (ended before || ended after) :=
  List.any_append

@[simp] lemma ended_cons : ended (e :: h) = (e.request.isEnding || ended h) := rfl

@[simp] lemma ended_nil : ended ([] : Past ω) = false := rfl

@[simp] lemma hasRead_snoc : hasRead (h ++ [e]) = (hasRead h || e.request.isReading) := by
  simp [hasRead]

@[simp] lemma ignored_snoc : ignored (h ++ [e]) = (ignored h || e.request.isIgnoring) := by
  simp [ignored]

@[simp] lemma unread_snoc : unread (h ++ [e]) = e.request.leaves (unread h) := by
  simp [unread]

@[simp] lemma wakers_snoc : wakers (h ++ [e]) = wakers h ++ e.request.waker?.toList := by
  cases w : e.request.waker? <;> simp [wakers, w]

end Views

/-- A run up to one of its requests. -/
lemma Run.split (run : Run C (before ++ e :: after) c) :
    ∃ c₁ r, Run C before c₁ ∧ c₁.allows r = true ∧ e = c₁.event r := by
  induction after using List.reverseRecOn generalizing c with
  | nil =>
    generalize same : before ++ [e] = h at run
    cases run with
    | start => simp at same
    | step run there =>
      obtain ⟨rfl, last⟩ := List.append_inj' same rfl
      exact ⟨_, _, run, there, List.singleton_inj.mp last⟩
  | append_singleton after e' ih =>
    generalize same : before ++ e :: (after ++ [e']) = h at run
    cases run with
    | start => simp at same
    | step run there =>
      rw [← List.cons_append, ← List.append_assoc] at same
      obtain ⟨rfl, -⟩ := List.append_inj' same rfl
      exact ih run

/-! ## What is left to read -/

/-- As long as the promise does not end, a message stays until it is read. -/
lemma unread_append (unended : ended since = false) :
    unread (h ++ since) = if hasRead since then none else unread h := by
  induction since using List.reverseRecOn with
  | nil => simp [hasRead]
  | append_singleton since e ih =>
    simp only [ended_append, ended_cons, ended_nil, Bool.or_false, Bool.or_eq_false_iff] at unended
    obtain ⟨unended, kept⟩ := unended
    rw [← List.append_assoc, unread_snoc, ih unended, hasRead_snoc]
    rcases e with ⟨r, answer, woken⟩
    cases r with
    | succeed | fail cause | settle o | abandon => cases kept
    | take | poll w => simp [Request.leaves, Request.isReading]
    | isCanceled | ignore => simp [Request.leaves, Request.isReading]

lemma unread_of_unended (unended : ended h = false) : unread h = none := by
  have nothing : unread ([] ++ h) = if hasRead h then none else none := unread_append unended
  simpa using nothing

/-! ## How a pair stands -/

/-- How a pair stands after what was asked of it. -/
structure Standing (v : C.View) (h : Past ω) (c : Completion C) : Prop where
  promised : c.promised = !ended h
  awaited : c.awaited = !ignored h
  sender : v.hasSender c.channel = c.promised
  receiver : v.hasReceiver c.channel = c.awaited
  message : c.awaited = true → v.message? c.channel = unread h
  waiting : c.promised = true → c.awaited = true →
    v.waiting? c.channel = (wakers h).getLast?

namespace Standing

/-- However the promise ends, it is gone after that. -/
lemma gone {β : Type} {u : Upshot C.State ω β} (standing : Standing v h c)
    (ends : e.request.isEnding = true) (goes : v.Ends c.channel u)
    (message : c.awaited = true → v.message? u.state = e.request.leaves (unread h)) :
    Standing v (h ++ [e]) { c with channel := u.state, promised := false } := by
  refine ⟨?_, ?_, goes.sender, goes.receiver.trans standing.receiver, ?_, ?_⟩
  · simp [ends]
  · simpa [Request.isIgnoring_of_ending ends] using standing.awaited
  · intro awaited
    rw [unread_snoc]
    exact message awaited
  · intro promised
    cases promised

lemma settled (standing : Standing v h c) (contract : C.Contract v)
    (there : c.promised = true) (ends : e.request.isEnding = true)
    (sent : e.request.leaves (unread h) = some o) :
    Standing v (h ++ [e]) (c.settle o).state := by
  have sending : v.hasSender c.channel = true := standing.sender.trans there
  refine standing.gone ends (contract.send o _ sending) ?_
  intro awaited
  rw [sent]
  exact contract.send_message o _ sending (standing.receiver.trans awaited)

lemma abandoned (standing : Standing v h c) (contract : C.Contract v)
    (there : c.promised = true) (asked : e.request = .abandon) :
    Standing v (h ++ [e]) c.abandon.state := by
  have sending : v.hasSender c.channel = true := standing.sender.trans there
  refine standing.gone (by rw [asked]; rfl) (contract.dropSender _ sending) ?_
  intro awaited
  rw [asked]
  exact (contract.dropSender_message _ sending).trans (standing.message awaited)

/-- However the future asks, what it asks for is handed out after that. -/
lemma read {β : Type} {u : Upshot C.State ω β} (standing : Standing v h c)
    (reading : e.request.isReading = true) (empties : v.Empties c.channel u)
    (waiting : c.promised = true → c.awaited = true →
      v.waiting? u.state = (wakers (h ++ [e])).getLast?) :
    Standing v (h ++ [e]) { c with channel := u.state } := by
  refine ⟨?_, ?_, empties.sender.trans standing.sender, empties.receiver.trans standing.receiver,
    ?_, waiting⟩
  · simpa [Request.isEnding_of_reading reading] using standing.promised
  · simpa [Request.isIgnoring_of_reading reading] using standing.awaited
  · intro _
    rw [unread_snoc, empties.message, Request.leaves_of_reading reading]

lemma leftAlone (standing : Standing v h c) (contract : C.Contract v)
    (there : c.awaited = true) (asked : e.request = .ignore) :
    Standing v (h ++ [e]) c.ignore.state := by
  have receiving : v.hasReceiver c.channel = true := standing.receiver.trans there
  obtain ⟨sender, receiver⟩ := contract.dropReceiver_sides _ receiving
  refine ⟨?_, ?_, sender.trans standing.sender, receiver, ?_, ?_⟩
  · simpa [ignore, Upshot.map, asked, Request.isEnding, Request.ending?] using standing.promised
  · simp [ignore, Upshot.map, asked, Request.isIgnoring]
  · intro awaited
    cases awaited
  · intro _ awaited
    cases awaited

/-- Who polls while the promise is there finds nothing, and waits. -/
lemma polled (standing : Standing v h c) (contract : C.Contract v)
    (w : ω) (there : c.awaited = true) (asked : e.request = .poll w) :
    Standing v (h ++ [e]) (c.poll w).state := by
  have receiving : v.hasReceiver c.channel = true := standing.receiver.trans there
  refine standing.read (by rw [asked]; rfl) (contract.pollReceive w _ receiving) ?_
  intro promised awaited
  -- With its sender there the channel is empty, so the poll leaves its waker.
  have sending : v.hasSender c.channel = true := standing.sender.trans promised
  have unended : ended h = false := by simpa [promised] using standing.promised
  have empty : v.message? c.channel = none :=
    (standing.message awaited).trans (unread_of_unended unended)
  have nothing : (C.pollReceive w c.channel).answer = none := by
    rw [contract.pollReceive_answer _ _ receiving, empty]
    exact if_pos sending
  rw [contract.pollReceive_waiting _ _ receiving nothing, wakers_snoc, asked]
  exact List.getLast?_concat.symm

lemma taken (standing : Standing v h c) (contract : C.Contract v)
    (there : c.awaited = true) (asked : e.request = .take) :
    Standing v (h ++ [e]) c.take.state := by
  have receiving : v.hasReceiver c.channel = true := standing.receiver.trans there
  refine standing.read (by rw [asked]; rfl) (contract.tryReceive _ receiving) ?_
  intro promised awaited
  rw [contract.tryReceive_waiting _ receiving, standing.waiting promised awaited, wakers_snoc,
    asked]
  exact congrArg List.getLast? (List.append_nil _).symm

/-- To look whether the future is there changes nothing. -/
lemma looked (standing : Standing v h c) (asked : e.request = .isCanceled) :
    Standing v (h ++ [e]) c := by
  refine ⟨?_, ?_, standing.sender, standing.receiver, ?_, ?_⟩
  · simpa [asked, Request.isEnding, Request.ending?] using standing.promised
  · simpa [asked, Request.isIgnoring] using standing.awaited
  · simpa [asked, Request.leaves] using standing.message
  · simpa [asked, Request.waker?] using standing.waiting

end Standing

lemma standing_step (contract : C.Contract v) (standing : Standing v h c)
    (there : c.allows r = true) : Standing v (h ++ [c.event r]) (c.handle r).state := by
  cases r with
  | succeed => exact standing.settled contract there rfl rfl
  | fail cause => exact standing.settled contract there rfl rfl
  | settle o => exact standing.settled contract there rfl rfl
  | abandon => exact standing.abandoned contract there rfl
  | isCanceled => exact standing.looked rfl
  | take => exact standing.taken contract there rfl
  | poll w => exact standing.polled contract w there rfl
  | ignore => exact standing.leftAlone contract there rfl

theorem standing_of_runs (contract : C.Contract v) (run : Run C h c) : Standing v h c := by
  induction run with
  | start =>
    obtain ⟨sender, receiver⟩ := contract.fresh_sides
    obtain ⟨message, waiting⟩ := contract.fresh_empty
    exact ⟨rfl, rfl, sender, receiver, fun _ => message, fun _ _ => waiting⟩
  | step run there ih => exact standing_step contract ih there

end StreamControl.Completion
