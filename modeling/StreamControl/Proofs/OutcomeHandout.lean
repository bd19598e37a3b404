import StreamControl.Proofs.CompletionRun

/-!
# An outcome is handed out once

Both ways of asking hear the same of a channel, and `Standing` says what that is. So the answers
to all readers are known from the requests before them, and who is woken.
-/

namespace StreamControl.Completion

variable {ω : Type} {C : Channel Outcome ω} {v : C.View} {c : Completion C} {r : Request ω}
  {h before after since : Past ω} {d e : Event ω} {o : Outcome}

/-- What becomes of an outcome. -/
structure HandedOutOnce (h : Past ω) : Prop where
  /-- Before the promise ends, whoever asks hears that the write is pending. -/
  pending : ∀ before e after, h = before ++ e :: after → e.request.isReading = true →
    ended before = false → e.answer = .outcome none
  /-- Who asks first after that hears the outcome. -/
  first : ∀ before d since e after o, h = before ++ d :: (since ++ e :: after) →
    d.request.ending? = some o → e.request.isReading = true → hasRead since = false →
    e.answer = .outcome (some o)
  /-- Whoever asks later hears that the write was canceled. -/
  later : ∀ before d since e after o, h = before ++ d :: (since ++ e :: after) →
    d.request.ending? = some o → e.request.isReading = true → hasRead since = true →
    e.answer = .outcome (some (.failure .canceled))
  /-- If the future is there when the promise ends, this wakes who polled last, once. Nobody is
  woken before or after. -/
  wakes : ∀ before d after, h = before ++ d :: after → d.request.isEnding = true →
    ignored before = false →
    woken before = [] ∧ d.woken = (wakers before).getLast?.toList ∧ woken after = []
  /-- Nobody is woken before the promise ends. -/
  quiet : ended h = false → woken h = []
  /-- The promise is told whether the future is there. -/
  told : ∀ before e after, h = before ++ e :: after → e.request = .isCanceled →
    e.answer = .canceled (ignored before)

/-! ## Both ways of asking hear the same -/

/-- What a reader hears of a channel. -/
def outcomeHeard (v : C.View) (s : C.State) : Option Outcome :=
  match v.message? s with
  | some o => some o
  | none => if v.hasSender s then none else some (.failure .canceled)

lemma take_answer (contract : C.Contract v) (there : v.hasReceiver c.channel = true) :
    c.take.answer = outcomeHeard v c.channel := by
  simp only [take, Upshot.map, contract.tryReceive_answer _ there, outcomeHeard]
  cases v.message? c.channel with
  | some o => rfl
  | none => cases v.hasSender c.channel <;> rfl

lemma poll_answer (contract : C.Contract v) (there : v.hasReceiver c.channel = true) (w : ω) :
    (c.poll w).answer = outcomeHeard v c.channel := by
  simp only [poll, Upshot.map, contract.pollReceive_answer _ _ there, outcomeHeard]
  cases v.message? c.channel with
  | some o => rfl
  | none => cases v.hasSender c.channel <;> rfl

lemma answer_of_reading (contract : C.Contract v) (there : v.hasReceiver c.channel = true)
    (reading : r.isReading = true) : (c.handle r).answer = .outcome (outcomeHeard v c.channel) := by
  cases r with
  | take => exact congrArg Reply.outcome (take_answer contract there)
  | poll w => exact congrArg Reply.outcome (poll_answer contract there w)
  | _ => cases reading

lemma Standing.hears (standing : Standing v h c) (awaited : c.awaited = true) :
    outcomeHeard v c.channel =
      if ended h then some ((unread h).getD (.failure .canceled)) else none := by
  have message : v.message? c.channel = unread h := standing.message awaited
  have sender : v.hasSender c.channel = !ended h := standing.sender.trans standing.promised
  rw [outcomeHeard, message, sender]
  cases ending : ended h with
  | false => simp [unread_of_unended ending]
  | true => cases unread h <;> rfl

/-! ## What readers hear in a run -/

lemma answer_of_run (contract : C.Contract v) (run : Run C (before ++ e :: after) c)
    (reading : e.request.isReading = true) : e.answer = .outcome
      (if ended before then some ((unread before).getD (.failure .canceled)) else none) := by
  obtain ⟨c₁, r, earlier, there, rfl⟩ := run.split
  have reading : r.isReading = true := reading
  have standing : Standing v before c₁ := standing_of_runs contract earlier
  have awaited : c₁.awaited = true := by
    cases r with
    | take | poll w => exact there
    | _ => cases reading
  calc (c₁.handle r).answer
    _ = .outcome (outcomeHeard v c₁.channel) :=
      answer_of_reading contract (standing.receiver.trans awaited) reading
    _ = _ := congrArg Reply.outcome (standing.hears awaited)

lemma promised_of_ending (there : c.allows r = true) (ends : r.isEnding = true) :
    c.promised = true := by
  cases r with
  | succeed | fail cause | settle o | abandon => exact there
  | _ => cases ends

/-- A promise ends once. -/
lemma unended_before (contract : C.Contract v) (run : Run C (before ++ d :: after) c)
    (ends : d.request.isEnding = true) : ended before = false := by
  obtain ⟨c₁, r, earlier, there, rfl⟩ := run.split
  have promised : c₁.promised = true := promised_of_ending there ends
  simpa [promised] using (standing_of_runs contract earlier).promised

lemma unended_after (contract : C.Contract v) (run : Run C (before ++ d :: after) c)
    (ends : d.request.isEnding = true) : ended after = false := by
  by_contra not_unended
  have again : ended after = true := by simpa using not_unended
  obtain ⟨e, mem, ends_again⟩ := List.any_eq_true.mp again
  obtain ⟨since, later, rfl⟩ := List.append_of_mem mem
  rw [← List.cons_append, ← List.append_assoc] at run
  have unended : ended (before ++ d :: since) = false := unended_before contract run ends_again
  simp [ends] at unended

lemma leaves_of_ending (ends : r.ending? = some o) :
    (r.leaves none).getD (.failure .canceled) = o := by
  cases r with
  | succeed | fail cause | settle o' | abandon =>
    obtain rfl := Option.some.inj ends
    rfl
  | _ => cases ends

/-- What readers find after the promise has ended. -/
lemma unread_of_ending (ends : d.request.ending? = some o) (unended : ended before = false)
    (unended_since : ended since = false) :
    (unread (before ++ d :: since)).getD (.failure .canceled) =
      if hasRead since then .failure .canceled else o := by
  rw [← List.singleton_append, ← List.append_assoc, unread_append unended_since, unread_snoc,
    unread_of_unended unended]
  split
  · rfl
  · exact leaves_of_ending ends

lemma answer_of_ended (contract : C.Contract v)
    (run : Run C (before ++ d :: (since ++ e :: after)) c) (ends : d.request.ending? = some o)
    (reading : e.request.isReading = true) :
    e.answer = .outcome (some (if hasRead since then .failure .canceled else o)) := by
  have ending : d.request.isEnding = true := by rw [Request.isEnding, ends]; rfl
  have unended : ended before = false := unended_before contract run ending
  have unended_since : ended since = false := by
    have unended_later : ended (since ++ e :: after) = false := unended_after contract run ending
    rw [ended_append, Bool.or_eq_false_iff] at unended_later
    exact unended_later.1
  rw [← List.cons_append, ← List.append_assoc] at run
  rw [answer_of_run contract run reading, unread_of_ending ends unended unended_since]
  simp [ending]

/-! ## Who is woken -/

lemma woken_of_unending (contract : C.Contract v) (standing : Standing v h c)
    (there : c.allows r = true) (unending : r.isEnding = false) : (c.handle r).woken = [] := by
  have receiving (awaited : c.awaited = true) : v.hasReceiver c.channel = true :=
    standing.receiver.trans awaited
  cases r with
  | take => exact (contract.tryReceive _ (receiving there)).woken
  | poll w => exact (contract.pollReceive w _ (receiving there)).woken
  | ignore => exact contract.dropReceiver_woken _ (receiving there)
  | isCanceled => rfl
  | succeed | fail cause | settle o | abandon => cases unending

lemma woken_of_ending (contract : C.Contract v) (standing : Standing v h c)
    (there : c.allows r = true) (ends : r.isEnding = true) (awaited : c.awaited = true) :
    (c.handle r).woken = (wakers h).getLast?.toList := by
  have promised : c.promised = true := promised_of_ending there ends
  have sending : v.hasSender c.channel = true := standing.sender.trans promised
  rw [← standing.waiting promised awaited]
  cases r with
  | succeed => exact (contract.send _ _ sending).woken
  | fail cause => exact (contract.send _ _ sending).woken
  | settle o => exact (contract.send _ _ sending).woken
  | abandon => exact (contract.dropSender _ sending).woken
  | _ => cases ends

/-- Only the end of the promise wakes somebody. -/
lemma woken_eq_nil {part : Past ω} (contract : C.Contract v) (run : Run C h c)
    (within : ∀ e ∈ part, e ∈ h) (unended : ended part = false) : woken part = [] := by
  rw [woken, List.flatMap_eq_nil_iff]
  intro e mem
  have unending : e.request.isEnding = false := by
    simpa using List.any_eq_false.mp unended e mem
  obtain ⟨before, after, rfl⟩ := List.append_of_mem (within e mem)
  obtain ⟨c₁, r, earlier, there, rfl⟩ := run.split
  exact woken_of_unending contract (standing_of_runs contract earlier) there unending

lemma woken_of_run (contract : C.Contract v) (run : Run C (before ++ d :: after) c)
    (ends : d.request.isEnding = true) (there : ignored before = false) :
    d.woken = (wakers before).getLast?.toList := by
  obtain ⟨c₁, r, earlier, allowed, rfl⟩ := run.split
  have standing : Standing v before c₁ := standing_of_runs contract earlier
  have awaited : c₁.awaited = true := by rw [standing.awaited, there]; rfl
  exact woken_of_ending contract standing allowed ends awaited

lemma told_of_run (contract : C.Contract v) (run : Run C (before ++ e :: after) c)
    (asked : e.request = .isCanceled) : e.answer = .canceled (ignored before) := by
  obtain ⟨c₁, r, earlier, allowed, rfl⟩ := run.split
  obtain rfl : r = .isCanceled := asked
  have standing : Standing v before c₁ := standing_of_runs contract earlier
  have told : c₁.isCanceled = !v.hasReceiver c₁.channel :=
    contract.isCanceled _ (standing.sender.trans allowed)
  have receiver : v.hasReceiver c₁.channel = !ignored before :=
    standing.receiver.trans standing.awaited
  rw [receiver, Bool.not_not] at told
  exact congrArg Reply.canceled told

/-- Over every channel that keeps its contract, and however a promise and its future are asked:
until the promise ends every reader hears that the write is pending, the first one after that
hears the outcome, and all later ones hear that it was canceled, whichever way they ask. The end
of the promise wakes the latest poll of a future that is there, and nothing else wakes anybody. -/
theorem handedOutOnce_of_runs (contract : C.Contract v) (run : Run C h c) :
    HandedOutOnce h := by
  refine ⟨?_, ?_, ?_, ?_, woken_eq_nil contract run fun _ mem => mem, ?_⟩
  · rintro before e after rfl reading unended
    rw [answer_of_run contract run reading, unended]
    rfl
  · rintro before d since e after o rfl ends reading none_read
    rw [answer_of_ended contract run ends reading, none_read]
    rfl
  · rintro before d since e after o rfl ends reading some_read
    rw [answer_of_ended contract run ends reading, some_read]
    rfl
  · rintro before d after rfl ends there
    have quiet_before : woken before = [] :=
      woken_eq_nil contract run (fun _ mem => List.mem_append_left _ mem)
        (unended_before contract run ends)
    have quiet_after : woken after = [] :=
      woken_eq_nil contract run (fun _ mem => List.mem_append_right _ (.tail _ mem))
        (unended_after contract run ends)
    exact ⟨quiet_before, woken_of_run contract run ends there, quiet_after⟩
  · rintro before e after rfl asked
    exact told_of_run contract run asked

/-- Two polls and a question find the write pending. It fails, which wakes the second poll, and the
future asks on, in both ways. -/
def askedInBothWays : Past Nat :=
  [⟨.poll 1, .outcome none, []⟩, ⟨.poll 2, .outcome none, []⟩, ⟨.take, .outcome none, []⟩,
    ⟨.isCanceled, .canceled false, []⟩, ⟨.fail (.reset 8), .done, [2]⟩,
    ⟨.take, .outcome (some (.failure (.reset 8))), []⟩,
    ⟨.poll 3, .outcome (some (.failure .canceled)), []⟩,
    ⟨.take, .outcome (some (.failure .canceled)), []⟩, ⟨.ignore, .done, []⟩]

theorem handedOutOnce_askedInBothWays :
    (Channel.oneShot Outcome Nat).Contract (Channel.oneShotView Outcome Nat) ∧
      (∃ c, Run (.oneShot Outcome Nat) askedInBothWays c) ∧ HandedOutOnce askedInBothWays := by
  have run : ∃ c, Run (.oneShot Outcome Nat) askedInBothWays c :=
    ⟨_, Run.start.step (r := .poll 1) rfl |>.step (r := .poll 2) rfl |>.step (r := .take) rfl
      |>.step (r := .isCanceled) rfl |>.step (r := .fail (.reset 8)) rfl
      |>.step (r := .take) rfl |>.step (r := .poll 3) rfl |>.step (r := .take) rfl
      |>.step (r := .ignore) rfl⟩
  obtain ⟨c, run⟩ := run
  exact ⟨Channel.oneShot_contract, ⟨c, run⟩, handedOutOnce_of_runs Channel.oneShot_contract run⟩

end StreamControl.Completion
