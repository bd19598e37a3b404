import StreamControl.Proofs.Serving

/-!
# Runs that look alike

Two runs of a component may differ in something that one chooses to overlook: some answers, and the
calls and notes that follow from them. A `Veil` says what is overlooked. If instructions and answers
that are taken for one another differ in nothing else, a run seen through the veil is a run of a
component again, and it is determined by what the surroundings did. So runs in which they did the
same look alike, and end in the same state. And whatever answers are overlooked, some run that looks
the same has any others in their place.
-/

namespace StreamControl

namespace Machine

variable {σ ι κ ε : Type} {ρ : κ → Type} {C : Component σ ι κ ε ρ}
  {may may' : Machine σ ι κ ε → List ι → Prop} {request request' : List ι → Prop}
  {m m' m₁ m₂ : Machine σ ι κ ε} {h h₁ h₂ : History σ ι κ ε ρ} {a a' : Act ι κ ε ρ}

/-- What the surroundings did, and not the component itself. -/
def turn? : Act ι κ ε ρ → Option (Act ι κ ε ρ)
  | .own _ => none
  | a => some a

/-- What the surroundings did, one thing after the other. -/
def turns (h : History σ ι κ ε ρ) : List (Act ι κ ε ρ) := h.filterMap fun b => turn? b.2

/-- What the surroundings did, and how often the component went on by itself in between. -/
def schedule (h : History σ ι κ ε ρ) : List (Option (Act ι κ ε ρ)) := h.map fun b => turn? b.2

/-- A run that is not over yet goes on after its first act. -/
lemma Run.after_first {m₀ : Machine σ ι κ ε} (run : Run C may m ((m₀, a) :: h) m') :
    m₀ = m ∧ Possible may m a ∧ Run C may (m.after C a) h m' := by
  obtain ⟨same, m₁, move, later⟩ := run.uncons
  obtain ⟨possible, rfl⟩ := move_iff.mp move
  exact ⟨same, possible, later⟩

/-- At some machine, what the component does by itself is determined. -/
lemma act_unique (first : Possible may m a) (second : Possible may' m a')
    (same : turn? a = turn? a') : a = a' := by
  cases a with
  | own t =>
    cases a' with
    | own t' => rw [Entry.todo.inj (Option.some.inj (first.symm.trans second))]
    | invoke is | answer c r => cases same
  | invoke is | answer c r =>
    cases a' with
    | own t' => cases same
    | invoke is' | answer c' r' => exact Option.some.inj same

/-- Runs with the same schedule are the same. -/
theorem Run.unique_of_schedule (first : Run C may m h₁ m₁) (second : Run C may' m h₂ m₂)
    (same : schedule h₁ = schedule h₂) : h₁ = h₂ ∧ m₁ = m₂ := by
  induction h₁ generalizing m h₂ with
  | nil =>
    obtain rfl : h₂ = [] := List.map_eq_nil_iff.mp same.symm
    exact ⟨rfl, first.eq_of_nil.trans second.eq_of_nil.symm⟩
  | cons b h₁ ih =>
    cases h₂ with
    | nil => cases same
    | cons b' h₂ =>
      rcases b with ⟨n, a⟩
      rcases b' with ⟨n', a'⟩
      obtain ⟨same_turn, same_later⟩ := List.cons.inj same
      obtain ⟨rfl, possible, later⟩ := first.after_first
      obtain ⟨rfl, possible', later'⟩ := second.after_first
      obtain rfl : a = a' := act_unique possible possible' same_turn
      obtain ⟨rfl, rfl⟩ := ih later later' same_later
      exact ⟨rfl, rfl⟩

/-- Whoever asks in turn leaves the component alone as long as it has something to do. -/
lemma own_of_busy (possible : Possible (InTurn C request) m a) (busy : m.step C ≠ none) :
    ∃ t, a = .own t := by
  cases a with
  | own t => exact ⟨t, rfl⟩
  | invoke is => exact absurd possible.1 busy
  | answer c r =>
    obtain ⟨rest, agenda_eq⟩ := List.head?_eq_some_iff.mp possible.1
    refine absurd (step_eq_none_iff.mpr fun t rest' head => ?_) busy
    rw [agenda_eq] at head
    cases head

lemma turn_of_waits (possible : Possible may m a) (waits : m.step C = none) :
    turn? a = some a := by
  cases a with
  | own t =>
    obtain ⟨rest, agenda_eq⟩ := List.head?_eq_some_iff.mp possible
    exact absurd agenda_eq (step_eq_none_iff.mp waits t rest)
  | invoke is | answer c r => rfl

lemma turns_cons (b : Machine σ ι κ ε × Act ι κ ε ρ) :
    turns (b :: h) = (turn? b.2).toList ++ turns h := by
  unfold turns
  cases taken : turn? b.2 <;> simp [taken]

/-- Runs in turn are determined by the turns, once the component has done all it has to do. -/
theorem Run.unique_of_turns (first : Run C (InTurn C request) m h₁ m₁)
    (second : Run C (InTurn C request') m h₂ m₂) (same : turns h₁ = turns h₂)
    (waits₁ : m₁.step C = none) (waits₂ : m₂.step C = none) : h₁ = h₂ ∧ m₁ = m₂ := by
  induction h₁ generalizing m h₂ with
  | nil =>
    obtain rfl := first.eq_of_nil
    cases h₂ with
    | nil => exact ⟨rfl, second.eq_of_nil.symm⟩
    | cons b' h₂ =>
      rcases b' with ⟨n', a'⟩
      obtain ⟨rfl, possible', -⟩ := second.after_first
      rw [turns_cons, turn_of_waits possible' waits₁] at same
      cases same
  | cons b h₁ ih =>
    rcases b with ⟨n, a⟩
    obtain ⟨rfl, possible, later⟩ := first.after_first
    by_cases waits : n.step C = none
    · have taken := turn_of_waits possible waits
      cases h₂ with
      | nil =>
        rw [turns_cons, taken] at same
        cases same
      | cons b' h₂ =>
        rcases b' with ⟨n', a'⟩
        obtain ⟨rfl, possible', later'⟩ := second.after_first
        rw [turns_cons, turns_cons, taken, turn_of_waits possible' waits] at same
        obtain ⟨rfl, same_later⟩ := List.cons.inj same
        obtain ⟨rfl, rfl⟩ := ih later later' same_later
        exact ⟨rfl, rfl⟩
    · cases h₂ with
      | nil =>
        obtain rfl := second.eq_of_nil
        exact absurd waits₂ waits
      | cons b' h₂ =>
        rcases b' with ⟨n', a'⟩
        obtain ⟨rfl, possible', later'⟩ := second.after_first
        obtain ⟨t, rfl⟩ := own_of_busy possible waits
        obtain ⟨t', rfl⟩ := own_of_busy possible' waits
        obtain rfl : t = t' := by simpa using act_unique possible possible' rfl
        obtain ⟨rfl, rfl⟩ := ih later later' same
        exact ⟨rfl, rfl⟩

end Machine

open Machine

/-- What is overlooked: some calls and notes, and something about instructions and answers, which
are taken for others. -/
structure Veil (ι κ ε : Type) (ρ : κ → Type) where
  work : ι → ι
  shows : κ → Bool
  reads : ε → Bool
  reply : (c : κ) → ρ c → ρ c

namespace Veil

variable {σ ι κ ε : Type} {ρ : κ → Type}

section Definitions

variable (V : Veil ι κ ε ρ)

def todo? : Todo ι κ ε → Option (Todo ι κ ε)
  | .work i => some (.work (V.work i))
  | .call c => if V.shows c then some (.call c) else none
  | .note e => if V.reads e then some (.note e) else none

def visible? : Entry ι κ ε → Option (Entry ι κ ε)
  | .todo t => (V.todo? t).map .todo
  | .held c => if V.shows c then some (.held c) else none

def act? : Act ι κ ε ρ → Option (Act ι κ ε ρ)
  | .own t => (V.todo? t).map .own
  | .invoke is => some (.invoke (is.map V.work))
  | .answer c r => if V.shows c then some (.answer c (V.reply c r)) else none

/-- A machine seen through the veil. -/
def machine (m : Machine σ ι κ ε) : Machine σ ι κ ε := ⟨m.state, m.agenda.filterMap V.visible?⟩

/-- A history seen through the veil. -/
def history (h : History σ ι κ ε ρ) : History σ ι κ ε ρ :=
  h.filterMap fun b => (V.act? b.2).map fun a => (V.machine b.1, a)

def signals : Signal κ ε → Bool
  | .silent => false
  | .called c => V.shows c
  | .noted e => V.reads e

/-- The calls and notes that are not overlooked, in their order. -/
def outline (h : History σ ι κ ε ρ) : List (Signal κ ε) := (seen h).filter V.signals

/-- A component seen through the veil. -/
def component (C : Component σ ι κ ε ρ) : Component σ ι κ ε ρ where
  exec i s := ((C.exec i s).1, (C.exec i s).2.filterMap V.todo?)
  resume c r := (C.resume c r).filterMap V.todo?

/-- What is overlooked makes no difference: instructions that are taken for one another do the same
to the state, and lead to the same but for what is overlooked; so do answers. -/
structure Hides (C : Component σ ι κ ε ρ) : Prop where
  exec_eq : ∀ i s, (V.component C).exec (V.work i) s = (V.component C).exec i s
  resume_eq : ∀ c r, (V.component C).resume c (V.reply c r) = (V.component C).resume c r
  resume_hidden : ∀ c r, V.shows c = false → C.resume c r = []

/-- The surroundings are in control, and they are not answering a call that is overlooked. -/
def Waits (C : Component σ ι κ ε ρ) (m : Machine σ ι κ ε) : Prop :=
  m.step C = none ∧ ∀ c, m.agenda.head? = some (.held c) → V.shows c = true

/-- A rule for surroundings that do not call back while they answer a call that is overlooked. -/
def InSight (C : Component σ ι κ ε ρ) (request : List ι → Prop) (m : Machine σ ι κ ε)
    (is : List ι) : Prop := V.Waits C m ∧ request is

def isInSight (check : List ι → Bool) (m : Machine σ ι κ ε) (is : List ι) : Bool :=
  check is && match m.agenda.head? with
    | some (.held c) => V.shows c
    | _ => true

end Definitions

variable {V : Veil ι κ ε ρ} {C : Component σ ι κ ε ρ}
  {may may' : Machine σ ι κ ε → List ι → Prop} {request : List ι → Prop}
  {m m₀ m' m₁ m₂ : Machine σ ι κ ε} {h h₁ h₂ : History σ ι κ ε ρ} {a : Act ι κ ε ρ}

lemma inSight_of_isInSight {check : List ι → Bool}
    (sound : ∀ {is : List ι}, check is = true → request is) {is : List ι}
    (waits : m.step C = none) (asked : V.isInSight check m is = true) :
    V.InSight C request m is := by
  rw [isInSight, Bool.and_eq_true] at asked
  refine ⟨⟨waits, fun c head => ?_⟩, sound asked.1⟩
  have shown := asked.2
  rw [head] at shown
  exact shown

lemma machine_todo (s : σ) (out : List (Todo ι κ ε)) (rest : List (Entry ι κ ε)) :
    V.machine ⟨s, out.map .todo ++ rest⟩ =
      ⟨s, (out.filterMap V.todo?).map .todo ++ rest.filterMap V.visible?⟩ := by
  rw [machine, List.filterMap_append, List.filterMap_map, List.map_filterMap]
  rfl

lemma machine_invoke (is : List ι) :
    V.machine (m.invoke is) = (V.machine m).invoke (is.map V.work) := by
  simp [machine, Machine.invoke, visible?, todo?, Function.comp_def, List.filterMap_map]

/-- Seen through the veil, a move is a move again, or nothing at all. -/
lemma move_cases (hides : V.Hides C) (move : Move C may m a m')
    (allows : ∀ m is, may m is → may' (V.machine m) (is.map V.work)) :
    (V.act? a = none ∧ V.machine m' = V.machine m) ∨
      ∃ a', V.act? a = some a' ∧ Move (V.component C) may' (V.machine m) a' (V.machine m') := by
  cases move using Move.elim with
  | work s i rest =>
    refine .inr ⟨.own (.work (V.work i)), rfl, ?_⟩
    have move : Move (V.component C) may' _ _ _ :=
      .work s (V.work i) (rest.filterMap V.visible?)
    rw [hides.exec_eq] at move
    rw [machine_todo]
    exact move
  | call s c rest =>
    cases shown : V.shows c with
    | false => exact .inl ⟨by simp [act?, todo?, shown], by simp [machine, visible?, todo?, shown]⟩
    | true =>
      refine .inr ⟨.own (.call c), by simp [act?, todo?, shown], ?_⟩
      have move : Move (V.component C) may' _ _ _ := .call s c (rest.filterMap V.visible?)
      simpa [machine, visible?, todo?, shown] using move
  | note s e rest =>
    cases shown : V.reads e with
    | false => exact .inl ⟨by simp [act?, todo?, shown], by simp [machine, visible?, todo?, shown]⟩
    | true =>
      refine .inr ⟨.own (.note e), by simp [act?, todo?, shown], ?_⟩
      have move : Move (V.component C) may' _ _ _ := .note s e (rest.filterMap V.visible?)
      simpa [machine, visible?, todo?, shown] using move
  | invoke m is asked =>
    refine .inr ⟨.invoke (is.map V.work), rfl, ?_⟩
    rw [machine_invoke]
    exact .invoke (allows m is asked)
  | reply s c rest f =>
    cases shown : V.shows c with
    | false =>
      refine .inl ⟨by simp [act?, shown], ?_⟩
      simp [machine, visible?, shown, hides.resume_hidden c _ shown]
    | true =>
      refine .inr ⟨.answer c (V.reply c (f c)), by simp [act?, shown], ?_⟩
      have move : Move (V.component C) may' _ _ _ :=
        .reply s c (rest.filterMap V.visible?) fun c => V.reply c (f c)
      rw [hides.resume_eq] at move
      rw [machine_todo]
      simpa [machine, component, visible?, shown] using move

lemma history_append (h h' : History σ ι κ ε ρ) :
    V.history (h ++ h') = V.history h ++ V.history h' :=
  List.filterMap_append

lemma history_snoc {a' : Act ι κ ε ρ} (is_seen : V.act? a = some a') :
    V.history (h ++ [(m, a)]) = V.history h ++ [(V.machine m, a')] := by
  rw [history_append]
  simp [history, is_seen]

lemma history_eq_nil (unseen : ∀ b ∈ h, V.act? b.2 = none) : V.history h = [] := by
  rw [history, List.filterMap_eq_nil_iff]
  intro b hb
  rw [unseen b hb, Option.map_none]

/-- Seen through the veil, a run is a run of what is seen of the component. -/
theorem run_history (hides : V.Hides C) (run : Run C may m₀ h m)
    (allows : ∀ m is, may m is → may' (V.machine m) (is.map V.work)) :
    Run (V.component C) may' (V.machine m₀) (V.history h) (V.machine m) := by
  induction run with
  | start => exact .start
  | @step h m m' a _ move ih =>
    rcases move_cases hides move allows with ⟨unseen, same⟩ | ⟨a', is_seen, move'⟩
    · rw [history_append, history_eq_nil (h := [(m, a)]) (by simpa using unseen), List.append_nil,
        same]
      exact ih
    · rw [history_snoc is_seen]
      exact ih.step move'

lemma history_cons (b : Machine σ ι κ ε × Act ι κ ε ρ) (h : History σ ι κ ε ρ) :
    V.history (b :: h) =
      ((V.act? b.2).map fun a => (V.machine b.1, a)).toList ++ V.history h := by
  unfold history
  cases seen_now : V.act? b.2 <;> simp [seen_now]

/-- What is seen of a history is what is seen of it through the veil. -/
lemma outline_eq (h : History σ ι κ ε ρ) : V.outline h = seen (V.history h) := by
  unfold outline
  induction h with
  | nil => rfl
  | cons b h ih =>
    rw [seen_cons, List.filter_append, ih, history_cons, seen_append]
    congr 1
    rcases b with ⟨m, a⟩
    cases a with
    | own t =>
      cases t with
      | work i => rfl
      | call c =>
        cases shown : V.shows c <;> simp [seen, signal?, shows?, signals, act?, todo?, shown]
      | note e =>
        cases shown : V.reads e <;> simp [seen, signal?, shows?, signals, act?, todo?, shown]
    | invoke is => rfl
    | answer c r => cases shown : V.shows c <;> simp [seen, signal?, act?, shown]

/-- A machine at which the surroundings wait is one also through the veil. -/
lemma Waits.step_eq_none (waits : V.Waits C m) : (V.machine m).step (V.component C) = none := by
  rcases m with ⟨s, _ | ⟨t | c, rest⟩⟩
  · rfl
  · exact absurd rfl (step_eq_none_iff.mp waits.1 t rest)
  · simp [machine, visible?, waits.2 c rfl, Machine.step]

lemma inTurn_of_inSight (kept : ∀ is, request is → is.map V.work = is) (m : Machine σ ι κ ε)
    (is : List ι) (asked : V.InSight C request m is) :
    InTurn (V.component C) request (V.machine m) (is.map V.work) := by
  refine ⟨asked.1.step_eq_none, ?_⟩
  rw [kept is asked.2]
  exact asked.2

/-- Two runs look alike, and end in the same state. -/
structure Alike (V : Veil ι κ ε ρ) (h₁ : History σ ι κ ε ρ) (m₁ : Machine σ ι κ ε)
    (h₂ : History σ ι κ ε ρ) (m₂ : Machine σ ι κ ε) : Prop where
  outline_eq : V.outline h₁ = V.outline h₂
  state_eq : m₁.state = m₂.state

/-- Runs in turn in which the surroundings did the same, but for what is overlooked, look alike,
and end in the same state. -/
theorem alike_of_turns (hides : V.Hides C) (kept : ∀ is, request is → is.map V.work = is)
    (first : Run C (V.InSight C request) m₀ h₁ m₁) (second : Run C (V.InSight C request) m₀ h₂ m₂)
    (same : turns (V.history h₁) = turns (V.history h₂)) (waits₁ : V.Waits C m₁)
    (waits₂ : V.Waits C m₂) : V.Alike h₁ m₁ h₂ m₂ := by
  obtain ⟨same_history, same_end⟩ :=
    (run_history hides first (inTurn_of_inSight kept)).unique_of_turns
      (run_history hides second (inTurn_of_inSight kept)) same waits₁.step_eq_none
      waits₂.step_eq_none
  exact ⟨by rw [outline_eq, outline_eq, same_history], (Machine.mk.inj same_end).1⟩

/-- Runs in which the surroundings did the same at the same moments, but for what is overlooked,
look alike, and end in the same state. -/
theorem alike_of_schedule (hides : V.Hides C) (first : Run C may m₀ h₁ m₁)
    (second : Run C may m₀ h₂ m₂) (same : schedule (V.history h₁) = schedule (V.history h₂)) :
    V.Alike h₁ m₁ h₂ m₂ := by
  have seen_first : Run (V.component C) (fun _ _ => True) _ (V.history h₁) _ :=
    run_history hides first fun _ _ _ => trivial
  have seen_second : Run (V.component C) (fun _ _ => True) _ (V.history h₂) _ :=
    run_history hides second fun _ _ _ => trivial
  obtain ⟨same_history, same_end⟩ := seen_first.unique_of_schedule seen_second same
  exact ⟨by rw [outline_eq, outline_eq, same_history], (Machine.mk.inj same_end).1⟩

/-! ## A run that differs in what is overlooked -/

/-- What is next is not overlooked. -/
def Clear (V : Veil ι κ ε ρ) (m : Machine σ ι κ ε) : Prop :=
  ∀ x, m.agenda.head? = some x → V.visible? x ≠ none

/-- Calls that are not overlooked are answered as `pick` has it from what was seen so far, in place
of some other answer. -/
def Picks (V : Veil ι κ ε ρ) (pick : List (Signal κ ε) → (c : κ) → ρ c → ρ c)
    (h : History σ ι κ ε ρ) : Prop :=
  ∀ h₁ m c r h₂, h = h₁ ++ (m, .answer c r) :: h₂ → V.shows c = true →
    ∃ r', r = pick (V.outline h₁) c r'

variable {pick : List (Signal κ ε) → (c : κ) → ρ c → ρ c} {a' : Act ι κ ε ρ}
  {x y : Entry ι κ ε} {rest : List (Entry ι κ ε)}

lemma picks_nil : V.Picks pick ([] : History σ ι κ ε ρ) := by
  intro h₁ m c r h₂ whole
  simp at whole

lemma Picks.snoc (picks : V.Picks pick h)
    (last : ∀ c r, a = .answer c r → V.shows c = true → ∃ r', r = pick (V.outline h) c r') :
    V.Picks pick (h ++ [(m, a)]) := by
  intro h₁ m₁ c r h₂ whole shown
  rcases List.eq_nil_or_concat h₂ with rfl | ⟨h₂, b, rfl⟩
  · obtain ⟨rfl, now⟩ := List.append_inj' whole rfl
    exact last c r (Prod.mk.inj (List.singleton_inj.mp now)).2 shown
  · rw [List.concat_eq_append, ← List.cons_append, ← List.append_assoc] at whole
    obtain ⟨rfl, -⟩ := List.append_inj' whole rfl
    exact picks h₁ m₁ c r h₂ rfl shown

/-- Answers that are overlooked are not picked. -/
lemma Picks.append_unseen (picks : V.Picks pick h) (unseen : ∀ b ∈ h₁, V.act? b.2 = none) :
    V.Picks pick (h ++ h₁) := by
  induction h₁ using List.reverseRecOn with
  | nil => simpa using picks
  | append_singleton h₁ b ih =>
    rw [List.forall_mem_append] at unseen
    rw [← List.append_assoc]
    refine (ih unseen.1).snoc fun c r now shown => ?_
    have hidden := unseen.2 b (List.mem_singleton.mpr rfl)
    rw [show b.2 = .answer c r from now] at hidden
    simp [act?, shown] at hidden

/-- What is overlooked and next can be done away with at once. -/
lemma clears (hides : V.Hides C) (answers : (c : κ) → ρ c) (m : Machine σ ι κ ε) :
    ∃ h' m', Run C may m h' m' ∧ (∀ b ∈ h', V.act? b.2 = none) ∧
      V.machine m' = V.machine m ∧ V.Clear m' := by
  rcases m with ⟨s, agenda⟩
  induction agenda with
  | nil => exact ⟨[], _, .start, by simp, rfl, fun x head => by cases head⟩
  | cons x rest ih =>
    cases seen_now : V.visible? x with
    | some y =>
      refine ⟨[], _, .start, by simp, rfl, fun x' head unseen => ?_⟩
      obtain rfl := Option.some.inj head
      cases seen_now.symm.trans unseen
    | none =>
      obtain ⟨h', m', later, unseen, same, clear⟩ := ih
      rw [show V.machine ⟨s, rest⟩ = V.machine ⟨s, x :: rest⟩ by simp [machine, seen_now]] at same
      have answered (c : κ) (hidden : V.shows c = false) :
          Move C may ⟨s, .held c :: rest⟩ (.answer c (answers c)) ⟨s, rest⟩ := by
        have move : Move C may _ _ _ := .reply s c rest answers
        simpa [hides.resume_hidden c _ hidden] using move
      rcases x with (i | c | e) | c
      · cases seen_now
      · have hidden : V.shows c = false := by simpa [visible?, todo?] using seen_now
        refine ⟨_, m', (later.cons (answered c hidden)).cons (.call s c rest), ?_, same, clear⟩
        simpa [act?, todo?, hidden] using unseen
      · have hidden : V.reads e = false := by simpa [visible?, todo?] using seen_now
        refine ⟨_, m', later.cons (.note s e rest), ?_, same, clear⟩
        simpa [act?, todo?, hidden] using unseen
      · have hidden : V.shows c = false := by simpa [visible?] using seen_now
        refine ⟨_, m', later.cons (answered c hidden), ?_, same, clear⟩
        simpa [act?, hidden] using unseen

/-- Only instructions are taken for others. -/
lemma entry_cases (seen_as : V.visible? x = some y) :
    (∃ i, x = .todo (.work i) ∧ y = .todo (.work (V.work i))) ∨ x = y := by
  rcases x with (i | c | e) | c
  · exact .inl ⟨i, rfl, (Option.some.inj seen_as).symm⟩
  · refine .inr ?_
    simp only [visible?, todo?] at seen_as
    split at seen_as
    · exact Option.some.inj seen_as
    · cases seen_as
  · refine .inr ?_
    simp only [visible?, todo?] at seen_as
    split at seen_as
    · exact Option.some.inj seen_as
    · cases seen_as
  · refine .inr ?_
    simp only [visible?] at seen_as
    split at seen_as
    · exact Option.some.inj seen_as
    · cases seen_as

/-- What is next looks the same wherever it is not overlooked. -/
lemma Clear.head (clear : V.Clear m') (same : V.machine m' = V.machine m)
    (head : m.agenda = x :: rest) (seen_as : V.visible? x = some y) :
    ∃ x' rest', m'.agenda = x' :: rest' ∧ V.visible? x' = some y := by
  have same_agenda := (Machine.mk.inj same).2
  rw [head, List.filterMap_cons_some seen_as] at same_agenda
  rcases m' with ⟨s, _ | ⟨x', rest'⟩⟩
  · cases same_agenda
  · obtain ⟨y', seen_as'⟩ := Option.ne_none_iff_exists'.mp (clear x' rfl)
    rw [List.filterMap_cons_some seen_as'] at same_agenda
    obtain ⟨rfl, -⟩ := List.cons.inj same_agenda
    exact ⟨x', rest', rfl, seen_as'⟩

lemma Clear.waits (clear : V.Clear m') (same : V.machine m' = V.machine m)
    (waits : V.Waits C m) : V.Waits C m' := by
  have seen_waits := waits.step_eq_none
  rw [← same] at seen_waits
  rcases m' with ⟨s, _ | ⟨t | c, rest⟩⟩
  · exact ⟨rfl, fun c head => by cases head⟩
  · obtain ⟨y, seen_as⟩ := Option.ne_none_iff_exists'.mp (clear _ rfl)
    obtain ⟨t', -, rfl⟩ := Option.map_eq_some_iff.mp seen_as
    exact absurd (List.filterMap_cons_some seen_as) (step_eq_none_iff.mp seen_waits t' _)
  · refine ⟨rfl, fun d head => ?_⟩
    obtain rfl := Entry.held.inj (Option.some.inj head)
    have shown := clear _ rfl
    simp only [visible?] at shown
    by_contra hidden
    exact shown (if_neg hidden)

/-- A move that is seen can be made wherever things look the same, with a picked answer. -/
lemma Clear.move (pick_ok : ∀ g c r, V.reply c (pick g c r) = V.reply c r)
    (g : List (Signal κ ε)) (clear : V.Clear m') (same : V.machine m' = V.machine m)
    (move : Move C (V.InSight C request) m a m₁) (is_seen : V.act? a = some a') :
    ∃ a₂ m₂, Move C (V.InSight C request) m' a₂ m₂ ∧ V.act? a₂ = some a' ∧
      ∀ c r, a₂ = .answer c r → ∃ r', r = pick g c r' := by
  rcases m' with ⟨s', agenda'⟩
  cases move using Move.elim with
  | work s i rest =>
    obtain ⟨x', rest', rfl, seen_as⟩ := clear.head same rfl rfl
    obtain rfl := Option.some.inj is_seen
    rcases entry_cases seen_as with ⟨j, rfl, same_work⟩ | rfl
    · refine ⟨_, _, .work s' j rest', ?_, fun c r other => by cases other⟩
      simpa [act?, todo?] using same_work.symm
    · refine ⟨_, _, .work s' _ rest', ?_, fun c r other => by cases other⟩
      simpa [visible?, act?, todo?] using seen_as
  | call s c rest =>
    have shown : V.shows c = true := by
      by_contra hidden
      simp [act?, todo?, hidden] at is_seen
    obtain ⟨x', rest', rfl, seen_as⟩ :=
      clear.head same rfl (y := .todo (.call c)) (by simp [visible?, todo?, shown])
    rcases entry_cases seen_as with ⟨j, rfl, ⟨⟩⟩ | rfl
    exact ⟨_, _, .call s' c rest', is_seen, fun c r other => by cases other⟩
  | note s e rest =>
    have shown : V.reads e = true := by
      by_contra hidden
      simp [act?, todo?, hidden] at is_seen
    obtain ⟨x', rest', rfl, seen_as⟩ :=
      clear.head same rfl (y := .todo (.note e)) (by simp [visible?, todo?, shown])
    rcases entry_cases seen_as with ⟨j, rfl, ⟨⟩⟩ | rfl
    exact ⟨_, _, .note s' e rest', is_seen, fun c r other => by cases other⟩
  | invoke m is asked =>
    exact ⟨_, _, .invoke ⟨clear.waits same asked.1, asked.2⟩, is_seen,
      fun c r other => by cases other⟩
  | reply s c rest f =>
    have shown : V.shows c = true := by
      by_contra hidden
      simp [act?, hidden] at is_seen
    obtain ⟨x', rest', rfl, seen_as⟩ :=
      clear.head same rfl (y := .held c) (by simp [visible?, shown])
    rcases entry_cases seen_as with ⟨j, rfl, ⟨⟩⟩ | rfl
    refine ⟨_, _, .reply s' c rest' fun c => pick g c (f c), ?_, ?_⟩
    · simpa [act?, shown, pick_ok] using is_seen
    · rintro d r ⟨⟩
      exact ⟨f c, rfl⟩

lemma exists_seen_alike (hides : V.Hides C) (kept : ∀ is, request is → is.map V.work = is)
    (answers : (c : κ) → ρ c) (pick_ok : ∀ g c r, V.reply c (pick g c r) = V.reply c r)
    (run : Run C (V.InSight C request) m₀ h m) :
    ∃ h' m', Run C (V.InSight C request) m₀ h' m' ∧ V.Picks pick h' ∧
      V.history h' = V.history h ∧ V.machine m' = V.machine m ∧ V.Clear m' := by
  induction run with
  | start =>
    obtain ⟨h', m', run', unseen, same, clear⟩ := clears hides answers m₀
    exact ⟨h', m', run', picks_nil.append_unseen unseen, history_eq_nil unseen, same, clear⟩
  | @step h m m₁ a run move ih =>
    obtain ⟨h', m', run', picks, same_history, same, clear⟩ := ih
    rcases move_cases hides move (inTurn_of_inSight kept) with
      ⟨unseen, still⟩ | ⟨a', is_seen, seen_move⟩
    · refine ⟨h', m', run', picks, ?_, same.trans still.symm, clear⟩
      rw [history_append, history_eq_nil (h := [(m, a)]) (by simpa using unseen), same_history,
        List.append_nil]
    · obtain ⟨a₂, m₂, move₂, is_seen₂, picked⟩ :=
        clear.move pick_ok (V.outline h') same move is_seen
      obtain ⟨h₃, m₃, run₃, unseen, same₃, clear₃⟩ := clears hides answers m₂
      rcases move_cases hides move₂ (inTurn_of_inSight kept) with
        ⟨unseen₂, -⟩ | ⟨a₃, is_seen₃, seen_move₂⟩
      · cases unseen₂.symm.trans is_seen₂
      · obtain rfl := Option.some.inj (is_seen₃.symm.trans is_seen₂)
        refine ⟨_, m₃, (run'.step move₂).append run₃, ?_, ?_, ?_, clear₃⟩
        · exact (picks.snoc fun c r now _ => picked c r now).append_unseen unseen
        · rw [history_append, history_eq_nil unseen, List.append_nil, history_snoc is_seen₂,
            history_snoc is_seen, same_history, same]
        · rw [same₃, (move_iff.mp seen_move₂).2, (move_iff.mp seen_move).2, same]

/-- Whatever answers are overlooked in a run, in some run that looks the same they are as picked. -/
theorem exists_alike (pick : List (Signal κ ε) → (c : κ) → ρ c → ρ c) (hides : V.Hides C)
    (kept : ∀ is, request is → is.map V.work = is)
    (answers : (c : κ) → ρ c) (pick_ok : ∀ g c r, V.reply c (pick g c r) = V.reply c r)
    (run : Run C (V.InSight C request) m₀ h m) :
    ∃ h' m', Run C (V.InSight C request) m₀ h' m' ∧ V.Picks pick h' ∧
      turns (V.history h') = turns (V.history h) ∧ V.Alike h' m' h m := by
  obtain ⟨h', m', run', picks, same_history, same, -⟩ :=
    exists_seen_alike hides kept answers pick_ok run
  refine ⟨h', m', run', picks, by rw [same_history], ?_, (Machine.mk.inj same).1⟩
  rw [outline_eq, outline_eq, same_history]

end Veil

end StreamControl
