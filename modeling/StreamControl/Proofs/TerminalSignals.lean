import StreamControl.Proofs.StreamEnding
import StreamControl.Proofs.StreamShield

/-!
# The signals of an end

A reset is told once: to the peer by a frame, or to the layer above by its hook, depending on who
asked for it. A close is told once to the layer above. What is told goes with what the stream
records of its end in one and the same step, so it does not matter how the operations that end a
stream are nested in one another: whoever comes later finds the record.
-/

namespace StreamControl

/-- The code of a reset that a call tells the peer or the layer above. -/
def StreamCall.resetTold? {η : Type} : StreamCall η → Option Nat
  | .conn (.sendReset _ code) | .hook (.reset code) => some code
  | _ => none

def StreamCall.closeTold? {η : Type} : StreamCall η → Option Unit
  | .hook .close => some ()
  | _ => none

def Stream.closeTold? {η : Type} (s : Stream η) : Option Unit := if s.closed then some () else none

/-- A call that tells how a stream ended. -/
def StreamCall.isTerminal {η : Type} : StreamCall η → Bool
  | .conn (.sendReset _ _) | .hook (.reset _) | .hook .close => true
  | _ => false

namespace Endpoint

variable {η β : Type} {allowed : Thread → Operation η → Prop} {o : Options} {owner : Thread}
  {h : Past η} {m : Live η} {rest agenda : Agenda η} {i : StreamInstr η}
  {e : Endpoint η} {job : Job η}

/-! ## What is told by calls -/

/-- What a deed tells, if `tells` says what calls tell. -/
def toldBy (tells : StreamCall η → Option β) : Deed η → List β
  | .own (.call c) => (tells c).toList
  | _ => []

def told (tells : StreamCall η → Option β) (h : Past η) : List β :=
  h.flatMap fun b => toldBy tells b.2

/-- What is told next by a call that is due. -/
def tellingBy (tells : StreamCall η → Option β) :
    Entry (StreamInstr η) (StreamCall η) StreamNote → List β
  | .todo (.call c) => (tells c).toList
  | _ => []

def telling (tells : StreamCall η → Option β) (agenda : Agenda η) : List β :=
  agenda.flatMap (tellingBy tells)

section Views

variable (tells : StreamCall η → Option β) (b : Live η × Deed η)
  (x : Entry (StreamInstr η) (StreamCall η) StreamNote) (agenda agenda' : Agenda η)

@[simp] lemma told_snoc : told tells (h ++ [b]) = told tells h ++ toldBy tells b.2 := by
  simp [told]

@[simp] lemma telling_cons :
    telling tells (x :: agenda) = tellingBy tells x ++ telling tells agenda := rfl

@[simp] lemma telling_append :
    telling tells (agenda ++ agenda') = telling tells agenda ++ telling tells agenda' :=
  List.flatMap_append

end Views

/-- Something that a stream records of its end, and the calls that tell it: each job leaves the
record alone and tells nothing, or it makes the first record and tells just this. -/
structure Announcement (η β : Type) where
  tells : StreamCall η → Option β
  recorded : Stream η → Option β
  unrecorded (o : Options) : recorded (.fresh o) = none
  plain {c : StreamCall η} (other : c.isTerminal = false) : tells c = none
  kept {s s' : Stream η} (same_code : s'.resetCode = s.resetCode)
    (same_closed : s'.closed = s.closed) : recorded s' = recorded s
  once {job : Job η} (ends : job.isEnd = true) (e : Endpoint η) :
    (telling tells ((e.perform job).2.map .todo) = [] ∧
      recorded (e.perform job).1.stream = recorded e.stream) ∨
    (recorded e.stream = none ∧ telling tells ((e.perform job).2.map .todo) =
      (recorded (e.perform job).1.stream).toList)

/-! ## Who tells how a stream ended -/

/-- A call that tells how the stream ended is due. -/
def isTelling : Entry (StreamInstr η) (StreamCall η) StreamNote → Bool
  | .todo (.call c) => c.isTerminal
  | _ => false

section Parts

variable (j : Inbox.Instr Unit Item) (k : Outbox.Instr (Write η)) (l : TaskLoop.Instr (Job η))

lemma none_telling_inbox (e : Endpoint η) :
    ((exec (.inbox j) e).2.map .todo).any isTelling = false := by
  rw [exec, List.any_map, List.any_flatMap, List.any_eq_false]
  intro x _
  cases x with
  | work j => exact Bool.false_ne_true
  | call c => cases c <;> exact Bool.false_ne_true
  | note n => cases n <;> exact Bool.false_ne_true

lemma none_telling_outbox (e : Endpoint η) :
    ((exec (.outbox k) e).2.map .todo).any isTelling = false := by
  rw [exec, List.any_map, List.any_flatMap, List.any_eq_false]
  intro x _
  cases x with
  | work j => exact Bool.false_ne_true
  | call c => cases c <;> exact Bool.false_ne_true
  | note n => cases n <;> exact Bool.false_ne_true

lemma none_telling_loop (e : Endpoint η) :
    ((exec (.loop l) e).2.map .todo).any isTelling = false := by
  rw [exec, List.any_map, List.any_flatMap, List.any_eq_false]
  intro x _
  cases x with
  | work j => exact Bool.false_ne_true
  | call c => exact Bool.false_ne_true
  | note n =>
    cases n with
    | lost job => simp [ofLoop, isTelling]
    | _ => exact Bool.false_ne_true

end Parts

/-- Only jobs tell how a stream ended. -/
lemma none_telling_exec (other : ∀ job, i ≠ .perform job) (e : Endpoint η) :
    ((exec i e).2.map .todo).any isTelling = false := by
  cases i with
  | perform job => exact absurd rfl (other job)
  | inbox j => exact none_telling_inbox j e
  | outbox k => exact none_telling_outbox k e
  | loop l => exact none_telling_loop l e
  | enter t op =>
    cases op with
    | writeHeaders block first fin flush p => cases first <;> rfl
    | updatePriority p =>
      simp only [exec, begin]
      split <;> rfl
    | _ => rfl
  | bind id writable | dispatch job | settleData =>
    simp only [exec, bind]
    split <;> rfl
  | deliver item =>
    cases item with
    | data bytes =>
      simp only [exec, deliver]
      (repeat' split) <;> rfl
    | fin trailers => rfl
  | attempt w =>
    simp only [exec, attempt, headersOut]
    (repeat' split) <;> rfl
  | _ => rfl

/-- A job that is none of those that end a stream tells nothing of an end. -/
lemma none_telling_perform (other : job.isEnd = false) (e : Endpoint η) :
    ((e.perform job).2.map .todo).any isTelling = false := by
  cases job with
  | reset code | writeReset code | close => cases other
  | data bytes | fin trailers | changePriority p | toggleWritable | writeFrame frame p
  | writeHeaders block fin flush p | announcePriority p =>
    simp only [perform, headersOut, Inbox.offer]
    (repeat' split) <;> rfl
  | _ => rfl

namespace Announcement

variable (S : Announcement η β)

lemma telling_eq_nil (none_due : agenda.any isTelling = false) : telling S.tells agenda = [] := by
  rw [List.any_eq_false] at none_due
  rw [telling, List.flatMap_eq_nil_iff]
  intro x hx
  unfold tellingBy
  split
  · rename_i c
    rw [S.plain (Bool.eq_false_iff.mpr (none_due _ hx)), Option.toList_none]
  · rfl

/-- Whatever an instruction does, it makes the first record and tells this, or does neither. -/
lemma once_exec (i : StreamInstr η) (e : Endpoint η) :
    (telling S.tells ((exec i e).2.map .todo) = [] ∧
      S.recorded (exec i e).1.stream = S.recorded e.stream) ∨
    (S.recorded e.stream = none ∧
      telling S.tells ((exec i e).2.map .todo) = (S.recorded (exec i e).1.stream).toList) := by
  by_cases performs : ∃ job, i = .perform job
  · obtain ⟨job, rfl⟩ := performs
    cases is_end : job.isEnd with
    | true => exact S.once is_end e
    | false =>
      obtain ⟨same_code, same_closed⟩ := perform_other e job is_end
      exact .inl ⟨S.telling_eq_nil (none_telling_perform is_end e), S.kept same_code same_closed⟩
  · have other : ∀ job, i ≠ .perform job := fun job same => performs ⟨job, same⟩
    obtain ⟨same_code, same_closed⟩ := exec_flags (e := e) other
    exact .inl ⟨S.telling_eq_nil (none_telling_exec other e), S.kept same_code same_closed⟩

lemma telling_resume (c : StreamCall η) (r : c.Reply) :
    telling S.tells ((component.resume c r).map .todo : Agenda η) = [] :=
  view_resume (fun _ _ => rfl) (fun _ => rfl) c r

/-- What was told and what is told next is what the stream has on record. -/
def Told (h : Past η) (m : Live η) : Prop :=
  told S.tells h ++ telling S.tells m.agenda = (S.recorded m.state.stream).toList

variable {S}

lemma Told.work (kept : S.Told h ⟨e, .todo (.work i) :: rest⟩) :
    S.Told (h ++ [(⟨e, .todo (.work i) :: rest⟩, .own (.work i))])
      ⟨(exec i e).1, (exec i e).2.map .todo ++ rest⟩ := by
  have before : told S.tells h ++ telling S.tells rest = (S.recorded e.stream).toList := kept
  rw [Told, told_snoc, telling_append]
  rcases S.once_exec i e with ⟨silent, same⟩ | ⟨first, tells⟩
  · rw [silent, same, ← before]
    simp [toldBy]
  · rw [first, Option.toList_none, List.append_eq_nil_iff] at before
    rw [before.1, before.2, tells]
    simp [toldBy]

theorem told_of_runs (run : RunsAnyhow allowed o owner h m) : S.Told h m := by
  induction run with
  | start => exact (congrArg Option.toList (S.unrecorded o)).symm
  | step _ move ih =>
    cases move using Machine.Move.elim with
    | work e i rest => exact ih.work
    | call e c rest =>
      rw [Told, told_snoc, List.append_assoc]
      exact ih
    | note e s rest =>
      rw [Told, told_snoc, List.append_assoc]
      exact ih
    | invoke m is asked =>
      rw [Told, told_snoc, List.append_assoc]
      cases asked <;> exact ih
    | reply e c rest f =>
      rw [Told, told_snoc, telling_append, telling_resume, List.append_assoc]
      exact ih

/-- The record leaves room for one only. -/
lemma Told.length_le (kept : S.Told h m) :
    (told S.tells h).length + (telling S.tells m.agenda).length ≤ 1 := by
  rw [← List.length_append, kept]
  cases S.recorded m.state.stream <;> simp

lemma Told.recorded (kept : S.Told h m) {x : β} (was_told : x ∈ told S.tells h) :
    S.recorded m.state.stream = some x := by
  rw [← Option.mem_toList, ← kept]
  exact List.mem_append_left _ was_told

/-- Before the call that tells it, nothing was told. -/
lemma Told.none_before (kept : S.Told h m) {c : StreamCall η} {x : β}
    (head : m.agenda = .todo (.call c) :: rest) (tells : S.tells c = some x) :
    told S.tells h = [] := by
  have room := kept.length_le
  rw [head, telling_cons, tellingBy, tells, List.length_append] at room
  exact List.eq_nil_of_length_eq_zero (by simp at room; omega)

end Announcement

/-! ## The record of a reset and of a close -/

lemma telling_reset (e : Endpoint η) (code : Nat) :
    (telling StreamCall.resetTold? ((e.reset code).2.map .todo) = [] ∧
      (e.reset code).1.stream.resetCode = e.stream.resetCode) ∨
    (e.stream.resetCode = none ∧ telling StreamCall.resetTold? ((e.reset code).2.map .todo) =
      (e.reset code).1.stream.resetCode.toList) := by
  simp only [reset]
  split
  · exact .inl ⟨rfl, rfl⟩
  · rename_i unknown
    exact .inr ⟨by simpa using unknown, rfl⟩

/-- A reset, told to the peer or to the layer above, and the code that the stream keeps of it. -/
def resetting : Announcement η Nat where
  tells := StreamCall.resetTold?
  recorded := Stream.resetCode
  unrecorded _ := rfl
  plain {c} other := by
    unfold StreamCall.isTerminal at other
    unfold StreamCall.resetTold?
    split <;> first | rfl | cases other
  kept same_code _ := same_code
  once {job} ends e := by
    cases job with
    | reset code => exact telling_reset e code
    | writeReset code =>
      cases slot : e.stream.slot with
      | unallocated =>
        simp only [perform, slot]
        exact telling_reset e code
      | allocated id =>
        simp only [perform, slot]
        split
        · exact .inl ⟨rfl, rfl⟩
        · rename_i ongoing
          rw [Stream.hasEnded, Bool.or_eq_true, not_or] at ongoing
          exact .inr ⟨by simpa using ongoing.1, rfl⟩
    | close =>
      simp only [perform]
      split <;> exact .inl ⟨rfl, rfl⟩
    | _ => cases ends

/-- A close, told to the layer above, and the flag that the stream keeps of it. -/
def closingDown : Announcement η Unit where
  tells := StreamCall.closeTold?
  recorded := Stream.closeTold?
  unrecorded _ := rfl
  plain {c} other := by
    unfold StreamCall.isTerminal at other
    unfold StreamCall.closeTold?
    split <;> first | rfl | cases other
  kept _ same_closed := by rw [Stream.closeTold?, same_closed, Stream.closeTold?]
  once {job} ends e := by
    cases job with
    | reset code =>
      simp only [perform, reset]
      split <;> exact .inl ⟨rfl, rfl⟩
    | writeReset code =>
      simp only [perform, reset]
      (repeat' split) <;> exact .inl ⟨rfl, rfl⟩
    | close =>
      simp only [perform]
      split
      · exact .inl ⟨rfl, rfl⟩
      · rename_i unclosed
        exact .inr ⟨if_neg unclosed, rfl⟩
    | _ => cases ends

/-! ## No frame after a close -/

/-- A frame that resets the stream is handed over next. -/
def isResetFrame : Entry (StreamInstr η) (StreamCall η) StreamNote → Bool
  | .todo (.call (.conn (.sendReset _ _))) => true
  | _ => false

lemma isTelling_of_isResetFrame {x : Entry (StreamInstr η) (StreamCall η) StreamNote}
    (frame : isResetFrame x = true) : isTelling x = true := by
  unfold isResetFrame at frame
  split at frame
  · rfl
  · cases frame

lemma none_framed_of_none_telling (none_telling : agenda.any isTelling = false) :
    agenda.any isResetFrame = false := by
  rw [List.any_eq_false] at none_telling ⊢
  exact fun x hx frame => none_telling x hx (isTelling_of_isResetFrame frame)

lemma direct_resetFrame (i : StreamInstr η) (e : Endpoint η) :
    Direct isResetFrame isHarmless (exec i e).2 := by
  by_cases performs : ∃ job, i = .perform job
  · obtain ⟨job, rfl⟩ := performs
    cases is_end : job.isEnd with
    | false => exact direct_of_none (none_framed_of_none_telling (none_telling_perform is_end e))
    | true =>
      cases job with
      | writeReset code =>
        simp only [exec, perform, reset]
        (repeat' split) <;> simp [Direct, trace, isResetFrame, isHarmless]
      | reset code | close =>
        apply direct_of_none
        simp only [exec, perform, reset]
        (repeat' split) <;> rfl
      | _ => cases is_end
  · exact direct_of_none
      (none_framed_of_none_telling (none_telling_exec (fun job same => performs ⟨job, same⟩) e))

/-- Above a frame that resets the stream there is only what is harmless, and work of other threads
that came in between. -/
def resetShield : Cover η :=
  { (shield : Cover η) with
    kept := isResetFrame
    kept_held := fun _ => rfl
    direct_exec := direct_resetFrame
    direct_resume := fun k r => direct_of_none (by cases k <;> rfl) }

theorem resetShielded_of_runs (run : RunsFreely allowed o owner h m) : CoveredNow resetShield m :=
  covered_of_runs resetShield (run.mono fun _ _ called => called.whenFree)

/-- A stream that hands over a frame has not been closed. -/
lemma unclosed_of_framed (framed : ((exec i e).2.map .todo).any isResetFrame = true) :
    (exec i e).1.stream.closed = false := by
  by_cases performs : ∃ job, i = .perform job
  · obtain ⟨job, rfl⟩ := performs
    cases is_end : job.isEnd with
    | false =>
      rw [exec, none_framed_of_none_telling (none_telling_perform is_end e)] at framed
      cases framed
    | true =>
      cases job with
      | writeReset code =>
        simp only [exec, perform, reset] at framed ⊢
        split at framed
        · split at framed
          · cases framed
          · rename_i id slot ongoing
            rw [Stream.hasEnded, Bool.or_eq_true, not_or, Bool.not_eq_true, Bool.not_eq_true]
              at ongoing
            rw [if_neg (by simp [Stream.hasEnded, ongoing])]
            exact ongoing.2
        · split at framed <;> cases framed
      | reset code | close =>
        simp only [exec, perform, reset] at framed
        split at framed <;> cases framed
      | _ => cases is_end
  · rw [none_framed_of_none_telling
      (none_telling_exec (fun job same => performs ⟨job, same⟩) e)] at framed
    cases framed

/-- As long as a frame is due, nothing closes the stream. -/
def FramedOpen (m : Live η) : Prop :=
  m.agenda.any isResetFrame = true → m.state.stream.closed = false

lemma FramedOpen.work (unclosed : FramedOpen ⟨e, .todo (.work i) :: rest⟩)
    (covered : CoveredNow resetShield ⟨e, .todo (.work i) :: rest⟩) :
    FramedOpen ⟨(exec i e).1, (exec i e).2.map .todo ++ rest⟩ := by
  intro due
  rw [List.any_append, Bool.or_eq_true] at due
  rcases due with framed | below
  · exact unclosed_of_framed framed
  · have before : e.stream.closed = false := unclosed (by simpa [isResetFrame] using below)
    by_cases performs : ∃ job, i = .perform job
    · obtain ⟨job, rfl⟩ := performs
      have none_below : rest.any isResetFrame = false := none_kept_below covered rfl id
      rw [none_below] at below
      cases below
    · rw [(exec_flags fun job same => performs ⟨job, same⟩).2]
      exact before

theorem framedOpen_of_runs (run : RunsFreely allowed o owner h m) : FramedOpen m := by
  induction run with
  | start => exact fun due => absurd due Bool.false_ne_true
  | step run move ih =>
    cases move using Machine.Move.elim with
    | work e i rest => exact ih.work (resetShielded_of_runs run)
    | call e c rest => exact fun due => ih (by rw [List.any_cons, Bool.or_eq_true]; exact .inr due)
    | note e s rest => exact ih
    | invoke m is called => cases called <;> exact ih
    | reply e c rest f =>
      intro due
      rw [List.any_append, Bool.or_eq_true] at due
      rcases due with framed | below
      · cases c with
        | conn p => cases p <;> cases framed
        | hook k => cases k <;> cases framed
      · exact ih below

/-! ## The signals of a run -/

lemma exec_resetCode {code : Nat} (known : e.stream.resetCode = some code) :
    (exec i e).1.stream.resetCode = some code := by
  by_cases performs : ∃ job, i = .perform job
  · obtain ⟨job, rfl⟩ := performs
    exact perform_resetCode e job known
  · rw [(exec_flags fun job same => performs ⟨job, same⟩).1, known]

/-- The code of a reset is kept for good. -/
lemma resetCode_of_runs (run : RunsAnyhow allowed o owner h m) {b : Live η × Deed η} (seen : b ∈ h)
    {code : Nat} (known : b.1.state.stream.resetCode = some code) :
    m.state.stream.resetCode = some code := by
  induction run with
  | start => cases seen
  | @step h m m' a _ move ih =>
    have before : m.state.stream.resetCode = some code := by
      rcases List.mem_append.mp seen with earlier | now
      · exact ih earlier
      · obtain rfl := List.mem_singleton.mp now
        exact known
    cases move using Machine.Move.elim with
    | work e i rest => exact exec_resetCode before
    | _ => exact before

/-- A stream tells its end once. -/
structure OneShot (h : Past η) (m : Live η) : Prop where
  reset_once : (told StreamCall.resetTold? h).length ≤ 1
  reset_as_recorded : ∀ code ∈ told StreamCall.resetTold? h, m.state.stream.resetCode = some code
  code_kept : ∀ b ∈ h, ∀ code, b.1.state.stream.resetCode = some code →
    m.state.stream.resetCode = some code
  close_once : (told StreamCall.closeTold? h).length ≤ 1
  no_late_frame : ∀ before after m₁ id code,
    h = before ++ (m₁, .own (.call (.conn (.sendReset id code)))) :: after →
    m₁.state.stream.closed = false ∧ told StreamCall.resetTold? before = []

/-- Whatever hooks and primitives call back, and whatever other threads call: the peer or the layer
above is told at most one reset, with the code on record, which never changes; a close is told at
most once; and no frame that resets the stream goes out after a reset was told or the stream was
closed. -/
theorem oneShot_of_runs (run : RunsFreely allowed o owner h m) : OneShot h m := by
  have anyhow : RunsAnyhow allowed o owner h m := run.mono fun _ _ called => called.asked
  have resets : resetting.Told h m := Announcement.told_of_runs anyhow
  have closes : closingDown.Told h m := Announcement.told_of_runs anyhow
  refine ⟨Nat.le_of_add_right_le resets.length_le, fun code => resets.recorded,
    fun b seen code => resetCode_of_runs anyhow seen, Nat.le_of_add_right_le closes.length_le, ?_⟩
  rintro before after ⟨e, agenda⟩ id code rfl
  obtain ⟨earlier, m₂, move, -⟩ := run.split
  have head : ∃ rest, agenda = .todo (.call (.conn (.sendReset id code))) :: rest := by
    cases move with
    | own head next => exact List.head?_eq_some_iff.mp head
  obtain ⟨rest, rfl⟩ := head
  have told_earlier : resetting.Told before ⟨e, _⟩ :=
    Announcement.told_of_runs (earlier.mono fun _ _ called => called.asked)
  exact ⟨framedOpen_of_runs earlier rfl, told_earlier.none_before rfl rfl⟩

/-- While the peer is told a reset, the primitive resets and closes the stream again, and the hook
of that close sends one more reset. Another thread does the same later. -/
def endedOverAndOver : Past Nat × Live Nat :=
  Machine.drive component 120
    [.ask [.enter 0 (.allocate 1)], .reply (plainly true .success),
      .ask [.enter 0 (.writeReset 8)], .ask [.enter 0 (.reset 9)], .ask [.enter 0 .close],
      .reply (plainly true .success), .ask [.enter 0 (.writeReset 7)],
      .reply (plainly true .success), .reply (plainly true .success),
      .ask [.enter 1 (.reset 6)], .ask [.enter 1 .close], .reply (plainly true .success),
      .ask [.enter 0 .runLoop]]
    (.idle (fresh .standard 0))

theorem oneShot_endedOverAndOver :
    RunsFreely (fun _ _ => True) .standard 0 endedOverAndOver.1 endedOverAndOver.2 ∧
      OneShot endedOverAndOver.1 endedOverAndOver.2 ∧ endedOverAndOver.2.agenda.length = 0 ∧
      told StreamCall.resetTold? endedOverAndOver.1 = [8] ∧
      told StreamCall.closeTold? endedOverAndOver.1 = [()] := by
  have run : RunsFreely (fun _ _ => True) .standard 0 endedOverAndOver.1 endedOverAndOver.2 :=
    Machine.drive_run (fun _ _ => called_of_isCalled
      fun t op (_ : (fun _ _ => true : Thread → Operation Nat → Bool) t op = true) => trivial)
      _ _ _ rfl
  exact ⟨run, oneShot_of_runs run, rfl, rfl, rfl⟩

end Endpoint

end StreamControl
