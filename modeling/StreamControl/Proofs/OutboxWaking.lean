import StreamControl.Proofs.OutboxCustody

/-!
# Waking the producer of an outbox

A producer that is told to back off waits for the outbox to announce that it has drained. How
many writes are queued decides the one, whether the outbox was halted decides the other. An open
outbox at rest is halted exactly if something is pending, so the two agree there. They part while
a write is at the gate: writes that queue up behind it and then all pass are never announced.
-/

namespace StreamControl.Outbox

variable {μ : Type} {mark t d : Nat} {i : Instr μ} {q q' : Outbox μ}
  {out : List (Todo (Instr μ) (Call μ) Note)} {h h' : Past μ} {m m₁ m' : Live μ}
  {a : Act (Instr μ) (Call μ) Note Reply}

def isDrain : Entry (Instr μ) (Call μ) Note → Bool
  | .todo (.work .drain) => true
  | _ => false

/-- The drains that have still to be made. -/
def drains (agenda : Agenda μ) : Nat := agenda.countP isDrain

/-- A callback is about to hear that the outbox has drained. -/
def announcement : Entry (Instr μ) (Call μ) Note := .todo (.call .drained)

def announces : Act (Instr μ) (Call μ) Note Reply → Bool
  | .own (.call .drained) => true
  | _ => false

/-- The gate has handed a write back. -/
def refuses : Act (Instr μ) (Call μ) Note Reply → Bool
  | .own (.work (.refused _)) => true
  | _ => false

def Announced (h : Past μ) : Prop := h.any (fun b => announces b.2) = true

def Refused (h : Past μ) : Prop := h.any (fun b => refuses b.2) = true

/-- An open outbox tells the producer to back off: whenever it is asked, or in answer to a
write. -/
def BacksOff (m : Live μ) : Prop :=
  m.state.closed = none ∧ (m.state.isWritable = false ∨
    m.agenda.head? = some (.todo (.note (.submitted false))))

/-- All calls have returned, and the outbox is open and empty. -/
structure Emptied (m : Live μ) : Prop where
  returned : m.agenda = []
  opened : m.state.closed = none
  empty : m.state.pending = []

section Views

variable (x : Entry (Instr μ) (Call μ) Note) (agenda agenda' : Agenda μ)

@[simp] lemma drains_nil : drains ([] : Agenda μ) = 0 := rfl

@[simp] lemma drains_cons :
    drains (x :: agenda) = (if isDrain x then 1 else 0) + drains agenda := by
  rw [drains, drains, List.countP_cons, Nat.add_comm]

@[simp] lemma drains_append : drains (agenda ++ agenda') = drains agenda + drains agenda' :=
  List.countP_append

@[simp] lemma announced_snoc (b : Live μ × Act (Instr μ) (Call μ) Note Reply) :
    Announced (h ++ [b]) ↔ Announced h ∨ announces b.2 = true := by
  simp [Announced]

@[simp] lemma refused_snoc (b : Live μ × Act (Instr μ) (Call μ) Note Reply) :
    Refused (h ++ [b]) ↔ Refused h ∨ refuses b.2 = true := by
  simp [Refused]

end Views

/-! ## An outbox at rest -/

/-- An open outbox with nothing underway is halted exactly if something is pending. -/
def Attended (q : Outbox μ) (underway : Nat) : Prop :=
  q.closed = none → underway = 0 → (q.halted = true ↔ q.pending ≠ [])

lemma Attended.mono {n k : Nat} (attended : Attended q n) (le : n ≤ k) : Attended q k :=
  fun opened none_underway => attended opened (by omega)

/-- Whatever an instruction does, it leaves a drain or a test behind, or the outbox halted, if
something is pending. -/
lemma attended_of_effect (effect : Effect i q q' out)
    (one : tests [.todo (.work i)] + t = q.testing.toNat)
    (attended : Attended q (tests [.todo (.work i)] + t + (drains [.todo (.work i)] + d))) :
    Attended q' (tests (out.map .todo) + t + (drains (out.map .todo) + d)) := by
  intro opened none_underway
  cases effect with
  | late closed | dropped closed => exact absurd (closed.symm.trans opened) (by simp)
  | shut closed => exact absurd opened closed
  | closes _ => cases opened
  | first | tests | passed => simp [isTest, isDrain] at none_underway
  | queued _ waits =>
    simp only [isTest, isDrain, tests_cons, tests_nil, drains_cons, drains_nil] at one attended
    simp [isTest, isDrain] at none_underway
    have untested : q.testing = false := Bool.toNat_eq_zero.mp (by simp at one; omega)
    have halted_iff := attended opened (by simp [none_underway])
    have halted : q.halted = true := by
      rcases waits with busy | halted | pending
      · simp [untested] at busy
      · exact halted
      · exact halted_iff.mpr pending
    simp [halted]
  | reported => exact attended opened (by simpa [isTest, isDrain] using none_underway)
  | stays busy =>
    rcases busy with busy | closed
    · simp [isTest, busy] at one
      simp [one] at none_underway
    · exact absurd opened closed
  | drained _ _ empty _ | rests _ _ empty _ => simp [empty]
  | putBack => simp

def AttendedNow (m : Live μ) : Prop := Attended m.state (tests m.agenda + drains m.agenda)

lemma attendedNow_step (attended : AttendedNow m) (one : OneTest m) (move : Moves m a m') :
    AttendedNow m' := by
  unfold AttendedNow OneTest at *
  cases move using Machine.Move.elim with
  | work q i rest =>
    rw [tests_append, drains_append]
    refine attended_of_effect (exec_effect i q) ?_ ?_
    · simpa using one
    · simpa using attended
  | call q c rest => cases c <;> simpa [isTest, isDrain] using attended
  | note q e rest => simpa [isTest, isDrain] using attended
  | invoke m is asked =>
    intro opened none_underway
    refine attended opened ?_
    simp only [Machine.invoke, tests_append, drains_append] at none_underway
    omega
  | reply q c rest f =>
    cases c with
    | test w =>
      cases hv : f (.test w) <;> simpa [component, resume, isTest, isDrain, hv] using attended
    | cancel w cause | drained => simpa [component, resume, isTest, isDrain] using attended

/-! ## What a write is told -/

lemma Effect.mark_eq (effect : Effect i q q' out) : q'.mark = q.mark := by
  cases effect <;> rfl

lemma mark_of_runs (run : Runs mark h m) : m.state.mark = mark := by
  induction run with
  | start => rfl
  | step _ move ih =>
    cases move using Machine.Move.elim with
    | work q i rest => exact (exec_effect i q).mark_eq.trans ih
    | _ => exact ih

/-- An open outbox answers a write at once, and truly. -/
def Answered (m : Live μ) : Prop :=
  m.state.closed = none → ∀ w, .todo (.note (.submitted w)) ∈ m.agenda →
    w = m.state.isWritable ∧ ∃ rest, m.agenda = .todo (.note (.submitted w)) :: rest ∧
      ∀ w', .todo (.note (.submitted w')) ∉ rest

lemma answered_of_none (none_due : ∀ w, .todo (.note (.submitted w)) ∉ m.agenda) : Answered m :=
  fun _ w due => absurd due (none_due w)

/-- Nothing else is done before a write has been answered. -/
lemma Answered.none_behind {x : Entry (Instr μ) (Call μ) Note} {rest : Agenda μ}
    (answered : Answered ⟨q, x :: rest⟩) (opened : q.closed = none) (w : Bool) :
    .todo (.note (.submitted w)) ∉ rest := by
  intro due
  obtain ⟨_, rest', split, none_behind⟩ := answered opened w (List.mem_cons_of_mem _ due)
  rw [(List.cons.inj split).2] at due
  exact none_behind w due

lemma answered_step (answered : Answered m) (move : Moves m a m') : Answered m' := by
  cases move using Machine.Move.elim with
  | work q i rest =>
    have effect := exec_effect i q
    simp only [component] at *
    generalize (exec i q).1 = q' at *
    generalize (exec i q).2 = out at *
    have none_behind := fun opened => answered.none_behind (q := q) opened
    cases effect with
    | late closed | dropped closed => exact fun opened => by simp [closed] at opened
    | shut closed => exact fun opened => absurd opened closed
    | closes _ => exact fun opened => by simp at opened
    | reported =>
      intro opened w due
      simp only [List.map_cons, List.map_nil, List.cons_append, List.nil_append] at due ⊢
      rcases List.mem_cons.mp due with same | later
      · obtain rfl : w = q.isWritable := by simpa using same
        exact ⟨rfl, rest, rfl, none_behind opened⟩
      · exact absurd later (none_behind opened w)
    | _ => exact fun opened w due => absurd due (by simpa using none_behind opened w)
  | call q c rest | note q e rest =>
    exact fun opened w due => absurd due (by simpa using answered.none_behind opened w)
  | invoke m is asked =>
    intro opened w due
    have due_before : .todo (.note (.submitted w)) ∈ m.agenda := by
      simpa [Machine.invoke] using due
    obtain ⟨_, rest, split, _⟩ := answered opened w due_before
    exact absurd split (Machine.step_eq_none_iff.mp asked.1 _ _)
  | reply q c rest f =>
    refine fun opened w due => absurd due ?_
    have none_behind := answered.none_behind opened w
    cases c with
    | test w => cases hv : f (.test w) <;> simpa [component, resume, hv] using none_behind
    | cancel w cause | drained => simpa [component, resume] using none_behind

/-! ## The announcement -/

/-- The outbox is empty while it has to announce that it has drained, and nothing comes before
the announcement. -/
def AtOnce (m : Live μ) : Prop :=
  announcement ∈ m.agenda → m.state.pending = [] ∧ ∃ above rest,
    m.agenda = above ++ announcement :: rest ∧ announcement ∉ rest ∧
      (above = [] ∨ ∃ e, above = [.todo (.note e)])

lemma AtOnce.none_behind {x : Entry (Instr μ) (Call μ) Note} {rest : Agenda μ}
    (at_once : AtOnce ⟨q, x :: rest⟩) (other : ∀ e, x ≠ .todo (.note e)) :
    announcement ∉ rest := by
  intro due
  obtain ⟨_, above, rest', split, none_behind, rfl | ⟨e, rfl⟩⟩ :=
    at_once (List.mem_cons_of_mem _ due)
  · rw [(List.cons.inj split).2] at due
    exact none_behind due
  · exact other e (List.cons.inj split).1

lemma atOnce_step (at_once : AtOnce m) (move : Moves m a m') : AtOnce m' := by
  cases move using Machine.Move.elim with
  | work q i rest =>
    have effect := exec_effect i q
    have none_behind := at_once.none_behind (by simp)
    simp only [component]
    generalize (exec i q).1 = q' at *
    generalize (exec i q).2 = out at *
    cases effect with
    | drained _ _ empty _ =>
      exact fun _ => ⟨empty, [.todo (.note (.trace .outboxDrained))], rest, rfl, none_behind,
        .inr ⟨_, rfl⟩⟩
    | closes _ =>
      refine fun due => absurd due ?_
      rw [map_todo_closes]
      unfold warning cancelling
      split <;> simpa [announcement] using none_behind
    | _ => exact fun due => absurd due (by simpa [announcement] using none_behind)
  | call q c rest =>
    exact fun due => absurd due (by simpa [announcement] using at_once.none_behind (by simp))
  | note q e rest =>
    intro due
    obtain ⟨empty, above, rest', split, none_behind, rfl | ⟨e, rfl⟩⟩ :=
      at_once (List.mem_cons_of_mem _ due)
    · simp [announcement] at split
    · exact ⟨empty, [], rest', (List.cons.inj split).2, none_behind, .inl rfl⟩
  | invoke m is asked =>
    intro due
    have due_before : announcement ∈ m.agenda := by
      simpa [Machine.invoke, announcement] using due
    obtain ⟨_, above, rest, split, _, rfl | ⟨e, rfl⟩⟩ := at_once due_before
    · exact absurd split (Machine.step_eq_none_iff.mp asked.1 _ _)
    · exact absurd split (Machine.step_eq_none_iff.mp asked.1 _ _)
  | reply q c rest f =>
    refine fun due => absurd due ?_
    have none_behind := at_once.none_behind (by simp)
    cases c with
    | test w =>
      cases hv : f (.test w) <;> simpa [component, resume, announcement, hv] using none_behind
    | cancel w cause | drained => simpa [component, resume, announcement] using none_behind

/-- A halted outbox stays halted until it is closed or announces that it has drained. -/
lemma Effect.halted_or_announces (effect : Effect i q q' out) (opened : q'.closed = none)
    (halted : q.halted = true) : q'.halted = true ∨ announcement ∈ out.map .todo := by
  cases effect with
  | closes _ => cases opened
  | drained _ _ _ _ => exact .inr (by simp [announcement])
  | rests _ _ _ unhalted => exact absurd (unhalted.symm.trans halted) Bool.false_ne_true
  | putBack _ => exact .inl rfl
  | _ => exact .inl halted

lemma Effect.halted_of_refused {w : μ} (effect : Effect (.refused w) q q' out)
    (opened : q'.closed = none) : q'.halted = true := by
  cases effect with
  | dropped closed => exact absurd (closed.symm.trans opened) (by simp)
  | putBack _ => rfl

/-- An outbox that was halted has announced that it drained, is about to, or is still halted. -/
def Owing (h : Past μ) (m : Live μ) : Prop :=
  m.state.closed = none → Announced h ∨ announcement ∈ m.agenda ∨ m.state.halted = true

lemma Effect.opened_before (effect : Effect i q q' out) (opened : q'.closed = none) :
    q.closed = none := by
  by_contra closed
  obtain ⟨cause, known⟩ := Option.ne_none_iff_exists'.mp closed
  have still : q'.closed = some cause := effect.stays_closed known
  exact absurd (still.symm.trans opened) (by simp)

lemma opened_before (move : Moves m a m') (opened : m'.state.closed = none) :
    m.state.closed = none := by
  cases move using Machine.Move.elim with
  | work q i rest => exact (exec_effect i q).opened_before opened
  | _ => exact opened

/-- An announcement that is due stays due until it is made. -/
lemma due_step (due : announcement ∈ m.agenda) (move : Moves m a m') :
    announces a = true ∨ announcement ∈ m'.agenda := by
  cases move using Machine.Move.elim with
  | work q i rest =>
    have due_behind : announcement ∈ rest := by simpa [announcement] using due
    exact .inr (List.mem_append_right _ due_behind)
  | call q c rest =>
    rcases List.mem_cons.mp due with now | later
    · obtain rfl : c = .drained := by simpa [announcement] using now.symm
      exact .inl rfl
    · exact .inr (List.mem_cons_of_mem _ later)
  | note q e rest => exact .inr (by simpa [announcement] using due)
  | invoke m is asked => exact .inr (List.mem_append_right _ due)
  | reply q c rest f =>
    have due_behind : announcement ∈ rest := by simpa [announcement] using due
    exact .inr (List.mem_append_right _ due_behind)

lemma halted_step (halted : m.state.halted = true) (opened : m'.state.closed = none)
    (move : Moves m a m') : announcement ∈ m'.agenda ∨ m'.state.halted = true := by
  cases move using Machine.Move.elim with
  | work q i rest =>
    rcases (exec_effect i q).halted_or_announces opened halted with still | announced
    · exact .inr still
    · exact .inl (List.mem_append_left _ announced)
  | _ => exact .inr halted

lemma halted_of_refuses (refused : refuses a = true) (opened : m'.state.closed = none)
    (move : Moves m a m') : m'.state.halted = true := by
  cases move using Machine.Move.elim with
  | work q i rest =>
    cases i with
    | refused w => exact (exec_effect (.refused w) q).halted_of_refused opened
    | _ => cases refused
  | _ => cases refused

lemma owing_step (owing : Owing h m ∨ refuses a = true) (move : Moves m a m') :
    Owing (h ++ [(m, a)]) m' := by
  intro opened
  rw [announced_snoc]
  rcases owing with owing | refused
  · rcases owing (opened_before move opened) with before | due | halted
    · exact .inl (.inl before)
    · rcases due_step due move with made | still
      · exact .inl (.inr made)
      · exact .inr (.inl still)
    · exact .inr (halted_step halted opened move)
  · exact .inr (.inr (halted_of_refuses refused opened move))

/-- An outbox that is not halted, and has nothing to announce, stays so as long as the gate
hands nothing back. -/
lemma Effect.unhalted (effect : Effect i q q' out) (unhalted : q.halted = false)
    (none_back : ∀ w, i ≠ .refused w) :
    q'.halted = false ∧ announcement ∉ out.map .todo := by
  cases effect with
  | dropped | putBack => exact absurd rfl (none_back _)
  | drained _ _ _ halted => exact absurd (unhalted.symm.trans halted) Bool.false_ne_true
  | closes _ =>
    refine ⟨rfl, ?_⟩
    rw [map_todo_closes]
    unfold warning cancelling
    split <;> simp [announcement]
  | _ => simp [unhalted, announcement]

def Unhalted (h : Past μ) (m : Live μ) : Prop :=
  m.state.halted = false ∧ announcement ∉ m.agenda ∧ ¬ Announced h

lemma unhalted_step (unhalted : Unhalted h m) (none_back : refuses a = false)
    (move : Moves m a m') : Unhalted (h ++ [(m, a)]) m' := by
  obtain ⟨unhalted, none_due, silent⟩ := unhalted
  rw [Unhalted, announced_snoc]
  cases move using Machine.Move.elim with
  | work q i rest =>
    have none_refused : ∀ w, i ≠ .refused w := by
      rintro w rfl
      cases none_back
    obtain ⟨still, none_out⟩ := (exec_effect i q).unhalted unhalted none_refused
    refine ⟨still, ?_, by simpa [announces] using silent⟩
    rw [List.mem_append, not_or]
    exact ⟨none_out, fun due => none_due (List.mem_cons_of_mem _ due)⟩
  | call q c rest =>
    refine ⟨unhalted, by simpa [announcement] using (List.not_mem_of_not_mem_cons none_due), ?_⟩
    rintro (before | now)
    · exact silent before
    · cases c with
      | drained => exact none_due List.mem_cons_self
      | test w | cancel w cause => cases now
  | note q e rest =>
    exact ⟨unhalted, List.not_mem_of_not_mem_cons none_due, by simpa [announces] using silent⟩
  | invoke m is asked =>
    exact ⟨unhalted, by simpa [Machine.invoke, announcement] using none_due,
      by simpa [announces] using silent⟩
  | reply q c rest f =>
    have none_behind := List.not_mem_of_not_mem_cons none_due
    refine ⟨unhalted, ?_, by simpa [announces] using silent⟩
    cases c with
    | test w =>
      cases hv : f (.test w) <;> simpa [component, resume, announcement, hv] using none_behind
    | cancel w cause | drained => simpa [component, resume] using none_behind

lemma waking_invariants (run : Runs mark h m) : AttendedNow m ∧ Answered m ∧ AtOnce m := by
  induction run with
  | start =>
    refine ⟨fun _ _ => ?_, answered_of_none fun w => List.not_mem_nil, fun due => ?_⟩
    · simp [Machine.idle, fresh]
    · cases due
  | step run move ih =>
    obtain ⟨attended, answered, at_once⟩ := ih
    exact ⟨attendedNow_step attended (custody_invariants run).1 move, answered_step answered move,
      atOnce_step at_once move⟩

lemma full_of_backsOff (run : Runs mark h m) (told : BacksOff m) : m.state.isWritable = false := by
  obtain ⟨opened, full | answered⟩ := told
  · exact full
  · have due := List.mem_of_mem_head? answered
    exact ((waking_invariants run).2.1 opened false due).1.symm

lemma pending_of_full (marked : 0 < mark) (run : Runs mark h m)
    (full : m.state.isWritable = false) : m.state.pending ≠ [] := by
  intro empty
  rw [Outbox.isWritable, empty, mark_of_runs run] at full
  simp [marked] at full

/-- A producer that was told to back off hears that the outbox has drained exactly if the outbox
was halted when the producer was told, or the gate has handed a write back since. -/
theorem announced_iff_of_backsOff (marked : 0 < mark) (before : Runs mark h m₁)
    (told : BacksOff m₁)
    (later : Machine.Run component (Machine.InTurn component Request) m₁ h' m)
    (emptied : Emptied m) : Announced h' ↔ m₁.state.halted = true ∨ Refused h' := by
  have pending : m₁.state.pending ≠ [] :=
    pending_of_full marked before (full_of_backsOff before told)
  constructor
  · intro announced
    by_contra none_halted
    rw [not_or, Bool.not_eq_true] at none_halted
    obtain ⟨unhalted, none_back⟩ := none_halted
    have silent : Unhalted h' m := by
      clear emptied announced
      induction later with
      | start =>
        refine ⟨unhalted, fun due => pending ?_, by simp [Announced]⟩
        exact ((waking_invariants before).2.2 due).1
      | step _ move ih =>
        rw [refused_snoc, not_or, Bool.not_eq_true] at none_back
        exact unhalted_step (ih none_back.1) none_back.2 move
    exact silent.2.2 announced
  · intro halted_once
    have owing : Owing h' m := by
      clear emptied
      induction later with
      | start => exact fun _ => .inr (.inr (halted_once.resolve_right (by simp [Refused])))
      | step _ move ih =>
        refine owing_step ?_ move
        rw [refused_snoc, ← or_assoc] at halted_once
        exact halted_once.imp_left ih
    have attended := (waking_invariants (before.append later)).1
    rcases owing emptied.opened with announced | due | halted
    · exact announced
    · rw [emptied.returned] at due
      cases due
    · refine absurd emptied.empty ((attended emptied.opened ?_).mp halted)
      rw [emptied.returned]
      rfl

end StreamControl.Outbox
