import Mathlib.Data.List.TakeWhile
import StreamControl.Proofs.OutboxGate

/-!
# Blocked periods

A write that comes back from the gate blocks the outbox until a write passes that leaves none
behind. However often the outbox is drained in part and refused again in between, and whatever is
written meanwhile, the end of the period is announced once: it is the next thing that the
surroundings hear. Nothing else is announced, and nothing at all once the outbox is closed.
-/

namespace StreamControl.Outbox

variable {μ : Type} {mark : Nat} {i : Instr μ} {q q' : Outbox μ}
  {out : List (Todo (Instr μ) (Call μ) Note)} {before mid after h h' : Past μ} {m m₁ m' : Live μ}
  {rest : Agenda μ} {a : Act (Instr μ) (Call μ) Note Reply}
  {put e : Live μ × Act (Instr μ) (Call μ) Note Reply}

/-- A write comes back from the gate, and the outbox is open. -/
def putsBack (b : Live μ × Act (Instr μ) (Call μ) Note Reply) : Bool :=
  refuses b.2 && !b.1.state.isClosed

/-- A write passes the gate, and the outbox is open and has none left. -/
def empties (b : Live μ × Act (Instr μ) (Call μ) Note Reply) : Bool :=
  match b.2 with
  | .answer (.test _) .accept => b.1.state.pending.isEmpty && !b.1.state.isClosed
  | _ => false

/-- How often it was announced that the outbox has drained. -/
def announcements (h : Past μ) : Nat := h.countP fun b => announces b.2

/-- Some write was put back since the last announcement. -/
def Blocked (h : Past μ) : Prop :=
  ∃ before b after, h = before ++ b :: after ∧ putsBack b = true ∧ ¬ Announced after

/-- A write is put back, and after `mid` a write passes that leaves none behind, for the first
time since. -/
structure Period (put : Live μ × Act (Instr μ) (Call μ) Note Reply) (mid : Past μ)
    (e : Live μ × Act (Instr μ) (Call μ) Note Reply) : Prop where
  putsBack : putsBack put = true
  blocked : ∀ b ∈ mid, empties b = false
  empties : empties e = true

lemma Blocked.snoc (blocked : Blocked h) (b : Live μ × Act (Instr μ) (Call μ) Note Reply)
    (silent : announces b.2 = false) : Blocked (h ++ [b]) := by
  obtain ⟨before, b', after, rfl, back, none_announced⟩ := blocked
  refine ⟨before, b', after ++ [b], by simp, back, ?_⟩
  simpa [silent] using none_announced

lemma blocked_of_putsBack {b : Live μ × Act (Instr μ) (Call μ) Note Reply}
    (back : putsBack b = true) : Blocked (h ++ [b]) :=
  ⟨h, b, [], rfl, back, by simp [Announced]⟩

/-- After an announcement the outbox is blocked only once a write is put back. -/
lemma not_blocked_of_announced (none_back : ∀ b ∈ h', putsBack b = false)
    (announced : Announced h') : ¬ Blocked (h ++ h') := by
  rintro ⟨before, b, after, split, back, none_announced⟩
  have not_later : b ∉ h' := fun hb =>
    absurd ((none_back b hb).symm.trans back) Bool.false_ne_true
  rcases List.append_eq_append_iff.mp split with ⟨later, -, split'⟩ | ⟨earlier, -, split'⟩
  · exact not_later (by simp [split'])
  · cases earlier with
    | nil =>
      rw [List.nil_append] at split'
      exact not_later (split' ▸ List.mem_cons_self)
    | cons b' earlier =>
      rw [List.cons_append] at split'
      obtain ⟨-, rfl⟩ := List.cons.inj split'
      refine none_announced ?_
      rw [Announced, List.any_append, Bool.or_eq_true]
      exact .inr announced

lemma announcements_append : announcements (h ++ h') = announcements h + announcements h' :=
  List.countP_append

lemma announcements_cons (b : Live μ × Act (Instr μ) (Call μ) Note Reply) :
    announcements (b :: h) = announcements h + if announces b.2 then 1 else 0 :=
  List.countP_cons

lemma announcements_eq_zero : announcements h = 0 ↔ ¬ Announced h := by
  simp [announcements, Announced]

/-! ## What is announced -/

/-- An announcement that is due was due before, or the outbox has just found that it is empty and
no longer halted. -/
lemma due_of_move (at_once : AtOnce m) (move : Moves m a m') (due : announcement ∈ m'.agenda) :
    (announcement ∈ m.agenda ∧ m'.state = m.state ∧ announces a = false) ∨
      (m.state.closed = none ∧ m.state.testing = false ∧ m.state.halted = true ∧
        m'.state = { m.state with halted := false } ∧ announces a = false) := by
  cases move using Machine.Move.elim with
  | work q i rest =>
    have effect := exec_effect i q
    have none_behind := at_once.none_behind (by simp)
    simp only [component] at *
    generalize (exec i q).1 = q' at *
    generalize (exec i q).2 = out at *
    cases effect with
    | drained opened untested _ halted => exact .inr ⟨opened, untested, halted, rfl, rfl⟩
    | closes _ =>
      refine absurd due ?_
      rw [map_todo_closes]
      unfold warning cancelling
      split <;> simpa [announcement] using none_behind
    | _ => exact absurd due (by simpa [announcement] using none_behind)
  | call q c rest =>
    exact absurd due (by simpa [announcement] using at_once.none_behind (by simp))
  | note q e rest => exact .inl ⟨List.mem_cons_of_mem _ due, rfl, rfl⟩
  | invoke m is asked =>
    exact .inl ⟨by simpa [Machine.invoke, announcement] using due, rfl, rfl⟩
  | reply q c rest f =>
    refine absurd due ?_
    have none_behind := at_once.none_behind (by simp)
    cases c with
    | test w =>
      cases hv : f (.test w) <;> simpa [component, resume, announcement, hv] using none_behind
    | cancel w cause | drained => simpa [component, resume, announcement] using none_behind

lemma due_of_announces (announced : announces a = true) (move : Moves m a m') :
    announcement ∈ m.agenda := by
  cases move using Machine.Move.elim with
  | call q c rest =>
    cases c with
    | drained => exact List.mem_cons_self
    | test w | cancel w cause => cases announced
  | work q i rest | note q e rest | invoke m is asked | reply q c rest f => cases announced

/-- The outbox that has to announce is open, asks nothing, and is no longer halted. -/
def Ready (m : Live μ) : Prop :=
  announcement ∈ m.agenda →
    m.state.closed = none ∧ m.state.testing = false ∧ m.state.halted = false

lemma ready_step (ready : Ready m) (at_once : AtOnce m) (move : Moves m a m') : Ready m' := by
  intro due
  rcases due_of_move at_once move due with
    ⟨before, same, -⟩ | ⟨opened, untested, -, unhalted, -⟩
  · rw [same]
    exact ready before
  · rw [unhalted]
    exact ⟨opened, untested, rfl⟩

/-- Only a write that is put back halts an outbox. -/
lemma halted_of_move (halted : m'.state.halted = true) (move : Moves m a m') :
    putsBack (m, a) = true ∨ m.state.halted = true := by
  cases move using Machine.Move.elim with
  | work q i rest =>
    have effect := exec_effect i q
    simp only [component] at *
    generalize (exec i q).1 = q' at *
    generalize (exec i q).2 = out at *
    cases effect with
    | putBack opened => exact .inl (by simp [putsBack, refuses, isClosed, opened])
    | drained | rests | closes => cases halted
    | _ => exact .inr halted
  | _ => exact .inr halted

/-- An outbox is halted, or has to announce, because a write was put back. -/
def Justified (h : Past μ) (m : Live μ) : Prop :=
  m.state.halted = true ∨ announcement ∈ m.agenda → Blocked h

lemma justified_step (justified : Justified h m) (ready : Ready m) (at_once : AtOnce m)
    (move : Moves m a m') : Justified (h ++ [(m, a)]) m' := by
  rintro (halted | due)
  · rcases halted_of_move halted move with back | halted_before
    · exact blocked_of_putsBack back
    · refine (justified (.inl halted_before)).snoc _ (Bool.eq_false_iff.mpr fun announced => ?_)
      have unhalted := (ready (due_of_announces announced move)).2.2
      exact absurd (unhalted.symm.trans halted_before) Bool.false_ne_true
  · rcases due_of_move at_once move due with ⟨before, -, silent⟩ | ⟨-, -, halted, -, silent⟩
    · exact (justified (.inr before)).snoc _ silent
    · exact (justified (.inl halted)).snoc _ silent

lemma period_invariants (run : Runs mark h m) : Ready m ∧ Justified h m := by
  induction run with
  | start =>
    refine ⟨fun due => absurd due List.not_mem_nil, ?_⟩
    rintro (halted | due)
    · simp [Machine.idle, fresh] at halted
    · cases due
  | step run move ih =>
    have at_once := (waking_invariants run).2.2
    exact ⟨ready_step ih.1 at_once move, justified_step ih.2 ih.1 at_once move⟩

/-! ## Inside a blocked period -/

/-- As long as a period lasts, an open outbox is halted and has something left: it is pending or at
the gate. -/
def Lasting (m : Live μ) : Prop :=
  m.state.closed = none → m.state.halted = true ∧ announcement ∉ m.agenda ∧
    (m.state.pending ≠ [] ∨ atGate m.agenda ≠ [])

lemma lasting_of_effect (effect : Effect i q q' out) (opened : q'.closed = none)
    (one : OneTest ⟨q, .todo (.work i) :: rest⟩) (lasting : Lasting ⟨q, .todo (.work i) :: rest⟩) :
    q'.halted = true ∧ announcement ∉ out.map .todo ++ rest ∧
      (q'.pending ≠ [] ∨ atGate (out.map .todo ++ rest) ≠ []) := by
  obtain ⟨halted, none_due, left⟩ := lasting (effect.opened_before opened)
  have none_behind : announcement ∉ rest := List.not_mem_of_not_mem_cons none_due
  cases effect with
  | late closed | dropped closed => exact absurd (closed.symm.trans opened) (by simp)
  | shut closed => exact absurd opened closed
  | closes _ => cases opened
  | first _ _ unhalted => exact absurd (unhalted.symm.trans halted) Bool.false_ne_true
  | drained _ untested empty | rests _ untested empty =>
    have none_tested : tests rest = 0 := by simpa [OneTest, isTest, untested] using one
    rcases left with pending | gate
    · exact absurd empty pending
    · exact absurd (atGate_eq_nil none_tested) (by simpa [gateEntry] using gate)
  | queued => exact ⟨halted, by simpa [announcement] using none_behind, .inl (by simp)⟩
  | putBack => exact ⟨rfl, by simpa [announcement] using none_behind, .inl (by simp)⟩
  | tests => exact ⟨halted, by simpa [announcement] using none_behind, .inr (by simp [gateEntry])⟩
  | reported | stays | passed =>
    exact ⟨halted, by simpa [announcement] using none_behind, by simpa [gateEntry] using left⟩

lemma lasting_step (lasting : Lasting m) (one : OneTest m) (lasts : empties (m, a) = false)
    (move : Moves m a m') : Lasting m' := by
  intro opened
  cases move using Machine.Move.elim with
  | work q i rest => exact lasting_of_effect (exec_effect i q) opened one lasting
  | call q c rest =>
    obtain ⟨halted, none_due, left⟩ := lasting opened
    refine ⟨halted, ?_, ?_⟩
    · simpa [announcement] using List.not_mem_of_not_mem_cons none_due
    · cases c with
      | test w => exact .inr (by simp [gateEntry])
      | cancel w cause | drained => simpa [gateEntry] using left
  | note q e rest =>
    obtain ⟨halted, none_due, left⟩ := lasting opened
    exact ⟨halted, List.not_mem_of_not_mem_cons none_due, by simpa [gateEntry] using left⟩
  | invoke m is asked =>
    obtain ⟨halted, none_due, left⟩ := lasting opened
    have none_asked : atGate (is.map (.todo ∘ .work) : Agenda μ) = [] := by
      cases asked.2 <;> rfl
    refine ⟨halted, by simpa [Machine.invoke, announcement] using none_due, ?_⟩
    rwa [Machine.invoke, atGate_append, none_asked, List.nil_append]
  | reply q c rest f =>
    obtain ⟨halted, none_due, left⟩ := lasting opened
    have none_behind := List.not_mem_of_not_mem_cons none_due
    cases c with
    | test w =>
      cases hv : f (.test w) with
      | accept =>
        have pending : q.pending ≠ [] := by
          have opened_now : q.closed = none := opened
          simpa [empties, hv, isClosed, opened_now] using lasts
        exact ⟨halted, by simpa [component, resume, announcement] using none_behind, .inl pending⟩
      | refuse =>
        exact ⟨halted, by simpa [component, resume, announcement] using none_behind,
          .inr (by simp [component, resume, gateEntry])⟩
    | cancel w cause | drained =>
      exact ⟨halted, by simpa [component, resume, announcement] using none_behind,
        by simpa [component, resume, gateEntry] using left⟩

lemma lasting_of_putsBack (at_once : AtOnce m) (back : putsBack (m, a) = true)
    (move : Moves m a m') : Lasting m' := by
  obtain ⟨refused, unclosed⟩ := Bool.and_eq_true_iff.mp back
  cases move using Machine.Move.elim with
  | work q i rest =>
    cases i with
    | refused w =>
      have opened : q.closed = none := by simpa [isClosed] using unclosed
      have none_behind := at_once.none_behind (by simp)
      intro _
      simpa [component, exec, opened, announcement] using none_behind
    | _ => cases refused
  | _ => cases refused

/-- Nothing is announced before a period is over. -/
lemma lasting_of_run (before : Runs mark h m₁) (lasting : Lasting m₁)
    (later : Machine.Run component (Machine.InTurn component Request) m₁ h' m)
    (lasts : ∀ b ∈ h', empties b = false) : Lasting m ∧ announcements h' = 0 := by
  induction later with
  | start => exact ⟨lasting, rfl⟩
  | @step h' m m' a later move ih =>
    obtain ⟨lasts_before, lasts_now⟩ := List.forall_mem_append.mp lasts
    obtain ⟨lasting, silent⟩ := ih lasts_before
    have run := before.append later
    refine ⟨lasting_step lasting (custody_invariants run).1
      (lasts_now _ (List.mem_singleton_self _)) move, ?_⟩
    have silent_now : announces a = false := by
      refine Bool.eq_false_iff.mpr fun announced => ?_
      have due := due_of_announces announced move
      exact (lasting ((period_invariants run).1 due).1).2.1 due
    simp [announcements_append, announcements_cons, silent, silent_now]
    rfl

/-! ## The end of a period -/

lemma of_empties (emptied : empties (m, a) = true) :
    (∃ w, a = .answer (.test w) Verdict.accept) ∧ m.state.pending = [] ∧ m.state.closed = none := by
  unfold empties at emptied
  split at emptied
  · rename_i w same
    exact ⟨⟨w, same⟩, by simpa [isClosed] using emptied⟩
  · cases emptied

lemma after_of_empties (emptied : empties (m, a) = true) :
    m.after component a = ⟨m.state, .todo (.work .accepted) :: m.agenda.tail⟩ := by
  obtain ⟨⟨w, rfl⟩, -, -⟩ := of_empties emptied
  rfl

/-- The drain that finds nothing left in a halted outbox announces it. -/
lemma announces_at_once (opened : q.closed = none) (empty : q.pending = [])
    (halted : q.halted = true) :
    Machine.Alone component ⟨q, .todo (.work .accepted) :: rest⟩
      [.silent, .silent, .noted (.trace .outboxDrained), .called .drained]
      ⟨{ q with testing := false, halted := false }, .held .drained :: rest⟩ := by
  rcases q with ⟨pending, mark, testing, halted', closed⟩
  dsimp only at opened empty halted
  subst opened empty halted
  exact .next rfl (.next rfl (.next rfl (.next rfl .stop)))

lemma announced_of_run (opened : q.closed = none) (empty : q.pending = [])
    (halted : q.halted = true)
    (run : Machine.Run component (Machine.InTurn component Request)
      ⟨q, .todo (.work .accepted) :: rest⟩ h m)
    (down : m.agenda.length ≤ rest.length) :
    ∃ h₁ h₂, h = h₁ ++ h₂ ∧ announcements h₁ = 1 ∧ ∀ b ∈ h₁, putsBack b = false := by
  have above (x : Entry (Instr μ) (Call μ) Note) (more : Agenda μ) :
      m.agenda ≠ x :: (more ++ rest) := by
    intro same
    rw [same, List.length_cons, List.length_append] at down
    omega
  rcases q with ⟨pending, mark, testing, halted', closed⟩
  dsimp only at opened empty halted
  subst opened empty halted
  -- up to the announcement the surroundings have no turn, and the run does not end before it
  obtain ⟨h₁, rfl, drains⟩ := run.own_first rfl (above _ [])
  obtain ⟨h₂, rfl, notes⟩ := drains.own_first rfl (above _ [])
  obtain ⟨h₃, rfl, calls⟩ := notes.own_first rfl (above _ [_])
  obtain ⟨h₄, rfl, -⟩ := calls.own_first rfl (above _ [])
  exact ⟨[_, _, _, _], h₄, rfl, rfl, by simp [putsBack, refuses]⟩

/-- What holds when it is announced that an outbox has drained, after the history `before`. -/
structure Drained (before : Past μ) (m : Live μ) : Prop where
  opened : m.state.closed = none
  never_closed : NeverClosed before
  empty : m.state.pending = []
  untested : tests m.agenda = 0
  blocked : Blocked before

lemma drained_of_announces (run : Runs mark (before ++ (m₁, a) :: after) m)
    (announced : announces a = true) : Drained before m₁ := by
  obtain ⟨first, m₂, move, -⟩ := run.split
  obtain ⟨ready, justified⟩ := period_invariants first
  have due : announcement ∈ m₁.agenda := due_of_announces announced move
  obtain ⟨opened, untested, -⟩ := ready due
  obtain ⟨one, -, never, -⟩ := custody_invariants first
  refine ⟨opened, never.1 opened, ((waking_invariants first).2.2 due).1, ?_, justified (.inr due)⟩
  rw [OneTest, untested] at one
  exact one

/-- From an announcement on, none is made until a write is put back. -/
lemma silent_after (run : Runs mark (h ++ (h' ++ after)) m) (announced : Announced h')
    (none_back : ∀ b ∈ h', putsBack b = false) :
    announcements (after.takeWhile fun b => !putsBack b) = 0 := by
  rw [announcements_eq_zero, Announced, List.any_eq_true]
  -- another announcement would need a write that was put back since this one
  rintro ⟨⟨m₁, a⟩, again, announces_again⟩
  obtain ⟨s, t, split⟩ := List.append_of_mem again
  have none_back_yet : ∀ b ∈ h' ++ s, putsBack b = false := by
    refine List.forall_mem_append.mpr ⟨none_back, fun b hb => ?_⟩
    have in_front : b ∈ after.takeWhile fun b => !putsBack b := by
      rw [split]
      exact List.mem_append_left _ hb
    simpa using List.mem_takeWhile_imp in_front
  have announced_by_then : Announced (h' ++ s) := by
    rw [Announced, List.any_append, Bool.or_eq_true]
    exact .inl announced
  have whole : h ++ (h' ++ after) =
      (h ++ (h' ++ s)) ++ (m₁, a) :: (t ++ after.dropWhile fun b => !putsBack b) := by
    conv_lhs =>
      rw [← List.takeWhile_append_dropWhile (p := fun b => !putsBack b) (l := after), split]
    simp
  rw [whole] at run
  exact not_blocked_of_announced none_back_yet announced_by_then
    (drained_of_announces run announces_again).blocked

/-- How an outbox announces that it has drained. -/
structure AnnouncesOnce (h : Past μ) (m : Live μ) : Prop where
  drained : ∀ before m₁ after, h = before ++ (m₁, .own (.call .drained)) :: after →
    Drained before m₁
  at_once : ∀ before put mid e after, h = before ++ put :: (mid ++ e :: after) →
    Period put mid e → Machine.Alone component (e.1.after component e.2)
      [.silent, .silent, .noted (.trace .outboxDrained), .called .drained]
      ⟨{ e.1.state with testing := false, halted := false }, .held .drained :: e.1.agenda.tail⟩
  /-- When the drain that emptied the outbox has returned, the period has been announced, and no
  other announcement follows before the next period begins. -/
  once : ∀ before put mid e after, h = before ++ put :: (mid ++ e :: after) → Period put mid e →
    m.agenda.length ≤ e.1.agenda.tail.length →
    announcements (mid ++ e :: after.takeWhile fun b => !putsBack b) = 1

lemma halted_of_period (run : Runs mark (before ++ put :: (mid ++ e :: after)) m)
    (period : Period put mid e) :
    e.1.state.halted = true ∧ announcements mid = 0 ∧
      Machine.Run component (Machine.InTurn component Request)
        ⟨e.1.state, .todo (.work .accepted) :: e.1.agenda.tail⟩ after m := by
  obtain ⟨first, m₁, move, later⟩ := run.split
  obtain ⟨middle, m₂, move_e, last⟩ := later.split
  have at_once := (waking_invariants first).2.2
  have lasting₁ : Lasting m₁ := lasting_of_putsBack at_once period.putsBack move
  obtain ⟨lasting, silent⟩ :=
    lasting_of_run (first.step move) lasting₁ middle period.blocked
  obtain ⟨-, -, opened⟩ := of_empties period.empties
  obtain ⟨-, rfl⟩ := Machine.move_iff.mp move_e
  rw [after_of_empties period.empties] at last
  exact ⟨(lasting opened).1, silent, last⟩

/-- Whatever the gate says and however the outbox is re-entered, it announces that it has drained
once for each period in which it was blocked, as soon as the period is over, and never else. -/
theorem announcesOnce_of_runs (run : Runs mark h m) : AnnouncesOnce h m := by
  refine ⟨?_, ?_, ?_⟩
  · rintro before m₁ after rfl
    exact drained_of_announces run rfl
  · rintro before put mid e after rfl period
    obtain ⟨halted, -, -⟩ := halted_of_period run period
    obtain ⟨-, empty, opened⟩ := of_empties period.empties
    rw [after_of_empties period.empties]
    exact announces_at_once opened empty halted
  · rintro before put mid e after rfl period down
    obtain ⟨halted, silent, last⟩ := halted_of_period run period
    obtain ⟨⟨w, is_answer⟩, empty, opened⟩ := of_empties period.empties
    obtain ⟨h₁, h₂, rfl, announced, none_back⟩ := announced_of_run opened empty halted last down
    have none_back_yet : ∀ b ∈ e :: h₁, putsBack b = false :=
      List.forall_mem_cons.mpr ⟨by simp [putsBack, is_answer, refuses], none_back⟩
    have silent_now : announces e.2 = false := by
      rw [is_answer]
      rfl
    have announced_yet : Announced (e :: h₁) := by
      by_contra none_announced
      rw [← announcements_eq_zero, announcements_cons, announced] at none_announced
      omega
    have silent_then : announcements (h₂.takeWhile fun b => !putsBack b) = 0 := by
      have whole : before ++ put :: (mid ++ e :: (h₁ ++ h₂)) =
          (before ++ put :: mid) ++ ((e :: h₁) ++ h₂) := by simp
      rw [whole] at run
      exact silent_after run announced_yet none_back_yet
    have up_to_h₁ : (h₁ ++ h₂).takeWhile (fun b => !putsBack b) =
        h₁ ++ h₂.takeWhile fun b => !putsBack b :=
      List.takeWhile_append_of_pos fun b hb => by simp [none_back b hb]
    rw [up_to_h₁, announcements_append, announcements_cons, announcements_append, silent,
      announced, silent_then, silent_now]
    rfl

/-- The gate has just refused the first write, which is not put back yet. -/
def firstRefused : Past Nat × Live Nat :=
  Machine.drive component 5 [.ask [.submit 1], .reply (saying .refuse)] (.idle (fresh 2))

/-- A first drain gets as far as the second write, whose test submits a third one and is refused.
Another drain comes to the last of them. -/
def drainedInPart : Past Nat × Live Nat :=
  Machine.drive component 29
    [.ask [.submit 2], .ask [.drain], .reply (saying .accept), .ask [.submit 3],
      .reply (saying .refuse), .ask [.drain], .reply (saying .accept)] firstRefused.2

/-- This one passes. The callback that hears of it submits a write that is refused, and drains the
outbox once more. -/
def blockedAgain : Past Nat × Live Nat :=
  Machine.drive component 80
    [.reply (saying .accept), .ask [.submit 4], .reply (saying .refuse), .ask [.drain],
      .reply (saying .accept), .reply (saying .accept), .reply (saying .accept)] drainedInPart.2

lemma blockedAgain_runs :
    Runs 2 (firstRefused.1 ++ drainedInPart.1 ++ blockedAgain.1) blockedAgain.2 := by
  have first : Runs 2 firstRefused.1 firstRefused.2 := driven_run rfl
  have second : Machine.Run component (Machine.InTurn component Request) firstRefused.2
      drainedInPart.1 drainedInPart.2 := driven_run rfl
  exact (first.append second).append (driven_run rfl)

lemma period_drainedInPart :
    Period (firstRefused.2, .own (.work (.refused 1))) drainedInPart.1.tail
      (drainedInPart.2, .answer (.test 3) Verdict.accept) := by
  have none_empties : drainedInPart.1.tail.any empties = false := rfl
  rw [List.any_eq_false] at none_empties
  exact ⟨rfl, fun b hb => Bool.eq_false_iff.mpr (none_empties b hb), rfl⟩

/-- The first period, with two refusals, is announced once when it is over; the second one begins
and ends inside that announcement. -/
theorem announcesOnce_blockedAgain :
    Runs 2 (firstRefused.1 ++ drainedInPart.1 ++ blockedAgain.1) blockedAgain.2 ∧
      AnnouncesOnce (firstRefused.1 ++ drainedInPart.1 ++ blockedAgain.1) blockedAgain.2 ∧
      Period (firstRefused.2, .own (.work (.refused 1))) drainedInPart.1.tail
        (drainedInPart.2, .answer (.test 3) Verdict.accept) ∧
      drainedInPart.1 = (firstRefused.2, .own (.work (.refused 1))) :: drainedInPart.1.tail ∧
      blockedAgain.1 =
        (drainedInPart.2, .answer (.test 3) Verdict.accept) :: blockedAgain.1.tail ∧
      blockedAgain.2.agenda = [] ∧ announcements blockedAgain.1 = 2 :=
  ⟨blockedAgain_runs, announcesOnce_of_runs blockedAgain_runs, period_drainedInPart, rfl, rfl, rfl,
    rfl⟩

end StreamControl.Outbox
