import StreamControl.Proofs.InboxFaults
import StreamControl.Proofs.StreamShield

/-!
# Troubles of a stream

What a hook fails with when it is handed an item, and the exceptions a stream is told of, go to the
one hook for exceptions. A failure gets there next: until then no other work is done on the loop, so
the failures and exceptions are reported in the order in which they came up.
-/

namespace StreamControl.Endpoint

variable {η : Type} {allowed : Thread → Operation η → Prop} {o : Options} {owner : Thread}
  {h : Past η} {m m' : Live η} {rest agenda agenda' : Agenda η} {a : Deed η} {i : StreamInstr η}
  {e : Endpoint η} {out : List (StreamTodo η)}

/-- Something goes wrong: a hook fails on the item it was handed, or there is an exception. -/
def troubles : Deed η → List Fault
  | .answer (.hook (.data _)) (.failure cause) => [cause]
  | .answer (.hook (.fin _)) (.failure cause) => [cause]
  | .own (.work (.perform (.exception cause))) => [cause]
  | _ => []

def raises : Deed η → List Fault
  | .own (.call (.hook (.exception cause))) => [cause]
  | _ => []

/-- What went wrong so far, in this order. -/
def troubled (h : Past η) : List Fault := h.flatMap fun b => troubles b.2

/-- What the hook for exceptions was called with so far, in this order. -/
def raised (h : Past η) : List Fault := h.flatMap fun b => raises b.2

/-- Something that went wrong is on its way to the hook for exceptions. -/
def raising : Entry (StreamInstr η) (StreamCall η) StreamNote → List Fault
  | .todo (.work (.inbox (.consumed (.failure cause)))) => [cause]
  | .todo (.call (.hook (.exception cause))) => [cause]
  | _ => []

def unraised (agenda : Agenda η) : List Fault := agenda.flatMap raising

def isRaising (x : Entry (StreamInstr η) (StreamCall η) StreamNote) : Bool := !(raising x).isEmpty

section Views

variable (b : Live η × Deed η) (x : Entry (StreamInstr η) (StreamCall η) StreamNote)

@[simp] lemma troubled_snoc : troubled (h ++ [b]) = troubled h ++ troubles b.2 := by
  simp [troubled]

@[simp] lemma raised_snoc : raised (h ++ [b]) = raised h ++ raises b.2 := by
  simp [raised]

@[simp] lemma unraised_cons : unraised (x :: agenda) = raising x ++ unraised agenda := rfl

@[simp] lemma unraised_append :
    unraised (agenda ++ agenda') = unraised agenda ++ unraised agenda' :=
  List.flatMap_append

end Views

lemma unraised_eq_nil_iff : unraised agenda = [] ↔ agenda.any isRaising = false := by
  rw [unraised, List.flatMap_eq_nil_iff, List.any_eq_false]
  simp [isRaising]

/-! ## What each instruction leaves to raise -/

lemma unraised_perform (e : Endpoint η) (job : Job η) :
    unraised ((e.perform job).2.map .todo) = troubles (.own (.work (.perform job))) := by
  cases job with
  | data bytes | fin trailers | reset code | changePriority p | toggleWritable | close
  | writeFrame frame p | writeHeaders block fin flush p | writeReset code | announcePriority p =>
    simp only [perform, reset, headersOut, Inbox.offer]
    (repeat' split) <;> rfl
  | _ => rfl

lemma unraised_outbox (j : Outbox.Instr (Write η)) :
    unraised ((exec (.outbox j) e).2.map .todo) = [] := by
  rw [unraised_eq_nil_iff, exec, List.any_map, List.any_flatMap, List.any_eq_false]
  intro x _
  cases x with
  | work j => exact Bool.false_ne_true
  | call c => cases c <;> exact Bool.false_ne_true
  | note n => cases n <;> exact Bool.false_ne_true

lemma unraised_loop (j : TaskLoop.Instr (Job η)) :
    unraised ((exec (.loop j) e).2.map .todo) = [] := by
  rw [unraised_eq_nil_iff, exec, List.any_map, List.any_flatMap, List.any_eq_false]
  intro x _
  cases x with
  | work j => exact Bool.false_ne_true
  | call c => exact Bool.false_ne_true
  | note n =>
    cases n with
    | lost job => simp [ofLoop, isRaising, raising]
    | _ => exact Bool.false_ne_true

/-- An instruction leaves to raise what goes wrong. -/
lemma unraised_exec (other : ∀ j, i ≠ .inbox j) (e : Endpoint η) :
    unraised ((exec i e).2.map .todo) = troubles (.own (.work i)) := by
  cases i with
  | inbox j => exact absurd rfl (other j)
  | perform job => exact unraised_perform e job
  | outbox j => exact unraised_outbox j
  | loop j => exact unraised_loop j
  | enter t op =>
    cases op with
    | writeHeaders block first fin flush p => cases first <;> rfl
    | updatePriority p =>
      simp only [exec, begin]
      split <;> rfl
    | _ => rfl
  | bind id writable | dispatch job | settleData =>
    simp only [exec, bind]
    split <;> rfl
  | deliver item =>
    cases item with
    | data bytes =>
      simp only [exec, deliver]
      (repeat' split) <;> rfl
    | fin trailers => rfl
  | attempt w =>
    simp only [exec, attempt, headersOut]
    (repeat' split) <;> rfl
  | _ => rfl

/-- The inbox takes a failure that it is about one step further. -/
lemma unraised_inbox (handled : e.stream.inbox.onFault ≠ none) (j : Inbox.Instr Unit Item) :
    unraised ((exec (.inbox j) e).2.map .todo) =
      raising (.todo (.work (.inbox j)) : Entry (StreamInstr η) _ _) := by
  have effect := Inbox.exec_effect j e.stream.inbox
  simp only [exec]
  generalize (Inbox.exec j e.stream.inbox).1 = b' at *
  generalize (Inbox.exec j e.stream.inbox).2 = out at *
  cases effect with
  | emptied =>
    unfold Inbox.relief
    split
    · cases e.stream.inbox.onDrained <;> rfl
    · rfl
  | @consumed _ o =>
    obtain ⟨k, known⟩ := Option.ne_none_iff_exists'.mp handled
    cases o with
    | success => rfl
    | failure cause =>
      simp only [Inbox.complaint, known]
      rfl
  | _ => rfl

/-! ## What is raised next -/

/-- Work that may be above something that is raised next. -/
def isSwift : Entry (StreamInstr η) (StreamCall η) StreamNote → Bool
  | .todo (.work (.outbox (.close _))) => true
  | x => isHarmless x

lemma direct_inbox (e : Endpoint η) (j : Inbox.Instr Unit Item) :
    Direct isRaising isSwift (exec (.inbox j) e).2 := by
  have effect := Inbox.exec_effect j e.stream.inbox
  simp only [exec]
  generalize (Inbox.exec j e.stream.inbox).1 = b' at *
  generalize (Inbox.exec j e.stream.inbox).2 = out at *
  cases effect with
  | emptied =>
    apply direct_of_none
    unfold Inbox.relief
    split
    · cases e.stream.inbox.onDrained <;> rfl
    · rfl
  | @consumed _ o =>
    cases o with
    | success => exact direct_cons rfl
    | failure cause =>
      simp only [Inbox.complaint]
      split <;> exact direct_cons rfl
  | _ => exact direct_of_none rfl

lemma direct_raising (i : StreamInstr η) (e : Endpoint η) :
    Direct isRaising isSwift (exec i e).2 := by
  by_cases about_inbox : ∃ j, i = .inbox j
  · obtain ⟨j, rfl⟩ := about_inbox
    exact direct_inbox e j
  · have left := unraised_exec (fun j same => about_inbox ⟨j, same⟩) e
    cases i with
    | perform job =>
      cases job with
      | exception cause => simp [exec, perform, Direct, trace, isSwift, isHarmless]
      | _ => exact direct_of_none (unraised_eq_nil_iff.mp left)
    | _ => exact direct_of_none (unraised_eq_nil_iff.mp left)

/-- Above something that is raised next there is only what is swift, and work of other threads that
came in between. -/
def raisingShield : Cover η :=
  { (shield : Cover η) with
    kept := isRaising
    brief := isSwift
    kept_held := fun _ => rfl
    brief_note := fun _ => rfl
    brief_setRemote := fun _ => rfl
    brief_call := nofun
    isBrief := by
      intro x swift
      unfold isSwift at swift
      split at swift
      · rfl
      · exact shield.isBrief swift
    occupied_held := fun _ => nofun
    direct_exec := direct_raising
    direct_resume := fun k r => by
      cases k <;> first | exact direct_of_none rfl | exact direct_cons rfl }

theorem raisingShielded_of_runs (run : RunsFreely allowed o owner h m) :
    CoveredNow raisingShield m :=
  covered_of_runs raisingShield (run.mono fun _ _ called => called.whenFree)

/-- A stream handles the failures of its hooks. -/
lemma handled_exec (handled : e.stream.inbox.onFault ≠ none) (i : StreamInstr η) :
    (exec i e).1.stream.inbox.onFault ≠ none := by
  have alters := exec_alters i e
  generalize (exec i e).1 = e' at *
  cases alters with
  | inbox j => exact (Inbox.exec_effect j e.stream.inbox).onFault_ne_none handled
  | _ => exact handled

/-- Only what is done on the loop goes wrong, and nothing is to be raised below it. -/
lemma none_below_exec (covered : CoveredNow raisingShield ⟨e, .todo (.work i) :: rest⟩)
    (wrong : troubles (.own (.work i) : Deed η) ≠ []) : unraised rest = [] := by
  cases i with
  | perform job => exact unraised_eq_nil_iff.mpr (none_kept_below covered rfl id)
  | _ => exact absurd rfl wrong

lemma none_below_answer {c : StreamCall η} {r : c.Reply}
    (covered : CoveredNow raisingShield ⟨e, .held c :: rest⟩)
    (wrong : troubles (.answer c r : Deed η) ≠ []) : unraised rest = [] := by
  cases c with
  | conn p => exact absurd rfl wrong
  | hook k => exact unraised_eq_nil_iff.mpr (none_kept_below covered rfl id)

/-- A failing answer is on its way from then on. -/
lemma unraised_resume (c : StreamCall η) (r : c.Reply) :
    unraised ((component.resume c r).map .todo : Agenda η) = troubles (.answer c r) := by
  cases c with
  | conn p => cases p <;> rfl
  | hook k =>
    cases k with
    | data bytes | fin trailers => cases r <;> rfl
    | _ => rfl

/-- What went wrong was raised, but for what is on its way. -/
structure Raising (h : Past η) (m : Live η) : Prop where
  handled : m.state.stream.inbox.onFault ≠ none
  told : troubled h = raised h ++ unraised m.agenda

lemma Raising.work (ok : Raising h ⟨e, .todo (.work i) :: rest⟩)
    (covered : CoveredNow raisingShield ⟨e, .todo (.work i) :: rest⟩) :
    Raising (h ++ [(⟨e, .todo (.work i) :: rest⟩, .own (.work i))])
      ⟨(exec i e).1, (exec i e).2.map .todo ++ rest⟩ := by
  refine ⟨handled_exec ok.handled i, ?_⟩
  have told := ok.told
  rw [unraised_cons] at told
  rw [troubled_snoc, raised_snoc, told, unraised_append, show raises (.own (.work i)) = [] from rfl,
    List.append_nil]
  by_cases about_inbox : ∃ j, i = .inbox j
  · obtain ⟨j, rfl⟩ := about_inbox
    rw [unraised_inbox ok.handled]
    simp [troubles]
  · have other : ∀ j, i ≠ .inbox j := fun j same => about_inbox ⟨j, same⟩
    have plain :
        raising (.todo (.work i) : Entry (StreamInstr η) (StreamCall η) StreamNote) = [] := by
      cases i with
      | inbox j => exact absurd rfl (other j)
      | _ => rfl
    rw [unraised_exec other, plain]
    by_cases wrong : troubles (.own (.work i) : Deed η) = []
    · simp [wrong]
    · simp [none_below_exec covered wrong]

lemma raising_step (ok : Raising h m) (covered : CoveredNow raisingShield m)
    (move : Machine.Move component (Called allowed) m a m') : Raising (h ++ [(m, a)]) m' := by
  cases move using Machine.Move.elim with
  | work e i rest => exact ok.work covered
  | call e c rest =>
    refine ⟨ok.handled, ?_⟩
    rw [troubled_snoc, raised_snoc, ok.told]
    cases c with
    | conn p => simp [troubles, raises, raising]
    | hook k => cases k <;> simp [troubles, raises, raising]
  | note e s rest =>
    refine ⟨ok.handled, ?_⟩
    rw [troubled_snoc, raised_snoc, ok.told]
    simp [troubles, raises, raising]
  | invoke m is called =>
    refine ⟨ok.handled, ?_⟩
    rw [troubled_snoc, raised_snoc, ok.told]
    cases called <;> simp [Machine.invoke, troubles, raises, raising]
  | reply e c rest f =>
    refine ⟨ok.handled, ?_⟩
    rw [troubled_snoc, raised_snoc, ok.told, unraised_append, unraised_resume]
    by_cases wrong : troubles (.answer c (f c) : Deed η) = []
    · simp [wrong, raises, raising]
    · simp [none_below_answer covered wrong, raises, raising]

lemma raising_of_runs (run : RunsFreely allowed o owner h m) : Raising h m := by
  induction run with
  | start => exact ⟨Option.some_ne_none _, rfl⟩
  | step run move ih => exact raising_step ih (raisingShielded_of_runs run) move

/-- Whatever goes wrong is raised once, afterwards and before another item is handed to a hook. -/
structure Reported (h : Past η) (m : Live η) : Prop where
  each_once : m.step component = none → isInterrupted m.agenda = false → troubled h = raised h
  afterwards : raised h <+: troubled h
  before_next : ∀ h₁ m₁ k h₂, h = h₁ ++ (m₁, .own (.call (.hook k))) :: h₂ →
    k.isHanding = true → troubled h₁ = raised h₁

theorem raised_of_runs (run : RunsFreely allowed o owner h m) : Reported h m := by
  have ok := raising_of_runs run
  refine ⟨fun waits free => ?_, ⟨_, ok.told.symm⟩, ?_⟩
  · have none_due : unraised m.agenda = [] := by
      rw [unraised_eq_nil_iff]
      by_contra due
      rw [Bool.not_eq_false] at due
      exact Bool.false_ne_true
        (free.symm.trans ((raisingShielded_of_runs run).occupied waits due))
    rw [ok.told, none_due, List.append_nil]
  · rintro h₁ ⟨e, agenda⟩ k h₂ rfl hands
    obtain ⟨before, _, move, _⟩ := run.split
    obtain ⟨head, -⟩ := Machine.move_iff.mp move
    obtain ⟨rest, rfl⟩ := List.head?_eq_some_iff.mp head
    have none_due : unraised rest = [] :=
      unraised_eq_nil_iff.mpr (none_kept_below (raisingShielded_of_runs before) rfl id)
    have told := (raising_of_runs before).told
    rw [unraised_cons, none_due, List.append_nil] at told
    cases k with
    | data bytes | fin trailers => simpa [raising] using told
    | _ => cases hands

end StreamControl.Endpoint
