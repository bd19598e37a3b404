import Mathlib.Data.List.Induction
import Mathlib.Tactic.Lemma
import StreamControl.Machine

/-!
# Runs of a machine

A component acts by itself as long as it has something to do, and its surroundings ask for
instructions and answer the call they hold. A run is any sequence of such acts. What the
surroundings may ask for, and when, is laid down by a rule; how they answer is left open, and
so is how deeply they re-enter a component while they hold a call.
-/

namespace StreamControl

inductive Act (ι κ ε : Type) (ρ : κ → Type) where
  | own (t : Todo ι κ ε)
  | invoke (is : List ι)
  | answer (c : κ) (r : ρ c)

def Act.asked? {ι κ ε : Type} {ρ : κ → Type} : Act ι κ ε ρ → Option (List ι)
  | .invoke is => some is
  | _ => none

/-- What happened so far: every act with the machine it happened at, the oldest first. -/
abbrev History (σ ι κ ε : Type) (ρ : κ → Type) := List (Machine σ ι κ ε × Act ι κ ε ρ)

namespace Machine

variable {σ ι κ ε : Type} {ρ : κ → Type} {C : Component σ ι κ ε ρ}
  {may : Machine σ ι κ ε → List ι → Prop} {m m₀ m' : Machine σ ι κ ε}
  {a : Act ι κ ε ρ} {h h' : History σ ι κ ε ρ}

/-- A rule for surroundings that ask only while they are in control: the component is at rest,
or they hold a call. -/
def InTurn (C : Component σ ι κ ε ρ) (request : List ι → Prop) (m : Machine σ ι κ ε)
    (is : List ι) : Prop := m.step C = none ∧ request is

/-- One act. The surroundings ask only for what they `may` ask for, and answer only the call at
the head of the agenda. -/
inductive Move (C : Component σ ι κ ε ρ) (may : Machine σ ι κ ε → List ι → Prop) :
    Machine σ ι κ ε → Act ι κ ε ρ → Machine σ ι κ ε → Prop
  | own {m m' : Machine σ ι κ ε} {t : Todo ι κ ε} {signal : Signal κ ε}
      (head : m.agenda.head? = some (.todo t)) (next : m.step C = some (signal, m')) :
      Move C may m (.own t) m'
  | invoke {m : Machine σ ι κ ε} {is : List ι} (asked : may m is) :
      Move C may m (.invoke is) (m.invoke is)
  | answer {m : Machine σ ι κ ε} {c : κ} (head : m.agenda.head? = some (.held c))
      (reply : (c : κ) → ρ c) : Move C may m (.answer c (reply c)) (m.answer C reply)

/-- A machine may become another one, with a history of what happened in between. -/
inductive Run (C : Component σ ι κ ε ρ) (may : Machine σ ι κ ε → List ι → Prop)
    (m₀ : Machine σ ι κ ε) : History σ ι κ ε ρ → Machine σ ι κ ε → Prop
  | start : Run C may m₀ [] m₀
  | step {h : History σ ι κ ε ρ} {m m' : Machine σ ι κ ε} {a : Act ι κ ε ρ}
      (run : Run C may m₀ h m) (move : Move C may m a m') : Run C may m₀ (h ++ [(m, a)]) m'

lemma step_eq_none_iff : m.step C = none ↔ ∀ t rest, m.agenda ≠ .todo t :: rest := by
  rcases m with ⟨s, _ | ⟨_ | c, rest⟩⟩
  · simp [step]
  · rename_i t
    cases t <;> simp [step]
  · simp [step]

namespace Move

lemma work (s : σ) (i : ι) (rest : List (Entry ι κ ε)) :
    Move C may ⟨s, .todo (.work i) :: rest⟩ (.own (.work i))
      ⟨(C.exec i s).1, (C.exec i s).2.map .todo ++ rest⟩ :=
  .own rfl rfl

lemma call (s : σ) (c : κ) (rest : List (Entry ι κ ε)) :
    Move C may ⟨s, .todo (.call c) :: rest⟩ (.own (.call c)) ⟨s, .held c :: rest⟩ :=
  .own rfl rfl

lemma note (s : σ) (e : ε) (rest : List (Entry ι κ ε)) :
    Move C may ⟨s, .todo (.note e) :: rest⟩ (.own (.note e)) ⟨s, rest⟩ :=
  .own rfl rfl

lemma reply (s : σ) (c : κ) (rest : List (Entry ι κ ε)) (f : (c : κ) → ρ c) :
    Move C may ⟨s, .held c :: rest⟩ (.answer c (f c))
      ⟨s, (C.resume c (f c)).map .todo ++ rest⟩ :=
  .answer rfl f

/-- Whatever happens, it is one of five things. -/
theorem elim {motive : ∀ {m a m'}, Move C may m a m' → Prop}
    (work : ∀ s i rest, motive (.work s i rest))
    (call : ∀ s c rest, motive (.call s c rest))
    (note : ∀ s e rest, motive (.note s e rest))
    (invoke : ∀ m is (asked : may m is), motive (.invoke asked))
    (reply : ∀ s c rest f, motive (.reply s c rest f))
    {m a m'} (move : Move C may m a m') : motive move := by
  cases move with
  | @own _ t signal head next =>
    rcases m with ⟨s, _ | ⟨_ | c, rest⟩⟩
    · simp at head
    · obtain rfl := Entry.todo.inj (Option.some.inj head)
      rename_i t
      cases t with
      | work i => cases next; exact work s i rest
      | call c => cases next; exact call s c rest
      | note e => cases next; exact note s e rest
    · simp at head
  | invoke asked => exact invoke _ _ asked
  | @answer c head f =>
    rcases m with ⟨s, _ | ⟨_ | d, rest⟩⟩
    · simp at head
    · simp at head
    · obtain rfl := Entry.held.inj (Option.some.inj head)
      exact reply s d rest f

/-- Only the component's own work changes its state. -/
lemma state_eq (move : Move C may m a m') (outer : ∀ i, a ≠ .own (.work i)) :
    m'.state = m.state := by
  cases move using elim with
  | work s i rest => exact absurd rfl (outer i)
  | _ => rfl

lemma mono {may' : Machine σ ι κ ε → List ι → Prop} (allows : ∀ m is, may m is → may' m is)
    (move : Move C may m a m') : Move C may' m a m' := by
  cases move with
  | own head next => exact .own head next
  | invoke asked => exact .invoke (allows _ _ asked)
  | answer head reply => exact .answer head reply

end Move

namespace Run

/-- What may be asked for under one rule may be asked for under a wider one. -/
lemma mono {may' : Machine σ ι κ ε → List ι → Prop} (allows : ∀ m is, may m is → may' m is)
    (run : Run C may m₀ h m) : Run C may' m₀ h m := by
  induction run with
  | start => exact .start
  | step _ move ih => exact ih.step (move.mono allows)

lemma append (run : Run C may m₀ h m) (more : Run C may m h' m') :
    Run C may m₀ (h ++ h') m' := by
  induction more with
  | start => simpa using run
  | step _ move ih =>
    rw [← List.append_assoc]
    exact ih.step move

lemma cons (move : Move C may m₀ a m) (run : Run C may m h m') :
    Run C may m₀ ((m₀, a) :: h) m' :=
  (start.step move).append run

lemma eq_of_nil (run : Run C may m₀ [] m) : m = m₀ := by
  generalize hg : ([] : History σ ι κ ε ρ) = g at run
  cases run with
  | start => rfl
  | step run move => simp at hg

/-- A run up to one of its acts, and what follows. -/
lemma split {b : Machine σ ι κ ε × Act ι κ ε ρ} (run : Run C may m₀ (h ++ b :: h') m) :
    Run C may m₀ h b.1 ∧ ∃ m₁, Move C may b.1 b.2 m₁ ∧ Run C may m₁ h' m := by
  induction h' using List.reverseRecOn generalizing m with
  | nil =>
    generalize hg : h ++ [b] = g at run
    cases run with
    | start => simp at hg
    | step run move =>
      obtain ⟨rfl, hb⟩ := List.append_inj' hg rfl
      obtain rfl := List.singleton_inj.mp hb
      exact ⟨run, _, move, .start⟩
  | append_singleton h' b' ih =>
    generalize hg : h ++ b :: (h' ++ [b']) = g at run
    cases run with
    | start => simp at hg
    | step run move =>
      rw [← List.cons_append, ← List.append_assoc] at hg
      obtain ⟨rfl, hb⟩ := List.append_inj' hg rfl
      obtain rfl := List.singleton_inj.mp hb
      obtain ⟨before, m₁, first, after⟩ := ih run
      exact ⟨before, m₁, first, after.step move⟩

/-- A run that is not over yet, by its first act. -/
lemma uncons {b : Machine σ ι κ ε × Act ι κ ε ρ} (run : Run C may m₀ (b :: h) m) :
    b.1 = m₀ ∧ ∃ m₁, Move C may m₀ b.2 m₁ ∧ Run C may m₁ h m := by
  obtain ⟨none_before, m₁, first, after⟩ := split (h := []) run
  obtain same := none_before.eq_of_nil
  exact ⟨same, m₁, same ▸ first, after⟩

/-- What a component keeps of the first act that brings it is written in its history. -/
lemma recorded {β : Type} (kept : σ → Option β)
    (brings : Machine σ ι κ ε × Act ι κ ε ρ → Option β) (run : Run C may m₀ h m)
    (none_kept : kept m₀.state = none)
    (work : ∀ s i rest, kept (C.exec i s).1 =
      (kept s).or (brings (⟨s, .todo (.work i) :: rest⟩, .own (.work i))))
    (outer : ∀ b, (∀ i, b.2 ≠ .own (.work i)) → brings b = none) :
    kept m.state = h.findSome? brings := by
  induction run with
  | start => exact none_kept
  | step _ move ih =>
    rw [List.findSome?_append, ← ih, List.findSome?_singleton]
    cases move using Move.elim with
    | work s i rest => exact work s i rest
    | call s c rest | note s e rest | reply s c rest f => rw [outer _ (by simp), Option.or_none]
    | invoke m is asked =>
      rw [outer _ (by simp), Option.or_none]
      rfl

end Run

/-- An act can be done. -/
def Possible (may : Machine σ ι κ ε → List ι → Prop) (m : Machine σ ι κ ε) :
    Act ι κ ε ρ → Prop
  | .own t => m.agenda.head? = some (.todo t)
  | .invoke is => may m is
  | .answer c r => m.agenda.head? = some (.held c) ∧ ∃ reply : (c : κ) → ρ c, reply c = r

/-- What an act makes of a machine. -/
def after (C : Component σ ι κ ε ρ) (m : Machine σ ι κ ε) : Act ι κ ε ρ → Machine σ ι κ ε
  | .own _ => ((m.step C).map Prod.snd).getD m
  | .invoke is => m.invoke is
  | .answer c r => ⟨m.state, (C.resume c r).map .todo ++ m.agenda.tail⟩

/-- Where a machine gets to is up to the act. -/
theorem move_iff : Move C may m a m' ↔ Possible may m a ∧ m' = m.after C a := by
  constructor
  · intro move
    cases move using Move.elim with
    | invoke m is asked => exact ⟨asked, rfl⟩
    | reply s c rest f => exact ⟨⟨rfl, f, rfl⟩, rfl⟩
    | _ => exact ⟨rfl, rfl⟩
  · rintro ⟨possible, rfl⟩
    rcases m with ⟨s, agenda⟩
    cases a with
    | own t =>
      obtain ⟨rest, rfl⟩ := List.head?_eq_some_iff.mp possible
      cases t with
      | work i => exact .work s i rest
      | call c => exact .call s c rest
      | note e => exact .note s e rest
    | invoke is => exact .invoke possible
    | answer c r =>
      obtain ⟨head, f, rfl⟩ := possible
      obtain ⟨rest, rfl⟩ := List.head?_eq_some_iff.mp head
      exact .reply s c rest f

/-- Below its head an agenda stays as it is. -/
lemma Move.keeps_tail {x : Entry ι κ ε} {tail : List (Entry ι κ ε)} (move : Move C may m a m')
    (split : m.agenda = x :: tail) : ∃ above, m'.agenda = above ++ tail := by
  cases move using Move.elim with
  | work s i rest =>
    obtain ⟨-, rfl⟩ := List.cons.inj split
    exact ⟨_, rfl⟩
  | call s c rest =>
    obtain ⟨-, rfl⟩ := List.cons.inj split
    exact ⟨[.held c], rfl⟩
  | note s e rest =>
    obtain ⟨-, rfl⟩ := List.cons.inj split
    exact ⟨[], rfl⟩
  | invoke m is asked => exact ⟨is.map (.todo ∘ .work) ++ [x], by simp [Machine.invoke, split]⟩
  | reply s c rest f =>
    obtain ⟨-, rfl⟩ := List.cons.inj split
    exact ⟨_, rfl⟩

/-- A run that gets down to what was below on the agenda comes to just this. -/
lemma Run.returns {above below : List (Entry ι κ ε)} (run : Run C may m h m')
    (split : m.agenda = above ++ below) (down : m'.agenda.length ≤ below.length) :
    ∃ h₁ m₁ h₂, h = h₁ ++ h₂ ∧ Run C may m h₁ m₁ ∧ m₁.agenda = below ∧ Run C may m₁ h₂ m' := by
  induction h generalizing m above with
  | nil =>
    obtain rfl := run.eq_of_nil
    have none_above : above.length = 0 := by
      rw [split, List.length_append] at down
      omega
    rw [List.length_eq_zero_iff] at none_above
    exact ⟨[], m', [], rfl, .start, by simpa [none_above] using split, run⟩
  | cons b h ih =>
    cases above with
    | nil => exact ⟨[], m, b :: h, rfl, .start, split, run⟩
    | cons x above =>
      obtain ⟨same, m₁, move, later⟩ := run.uncons
      rw [List.cons_append] at split
      obtain ⟨new, split'⟩ := move.keeps_tail split
      rw [← List.append_assoc] at split'
      obtain ⟨h₁, m₂, h₂, rfl, first, reached, rest⟩ := ih later split'
      refine ⟨b :: h₁, m₂, h₂, rfl, ?_, reached, rest⟩
      rw [show b = (m, b.2) from Prod.ext same rfl]
      exact first.cons move

/-- As long as a machine has something to do, this is what happens next. -/
lemma Run.own_first {request : List ι → Prop} {t : Todo ι κ ε} {rest : List (Entry ι κ ε)}
    (run : Run C (InTurn C request) m h m') (head : m.agenda = .todo t :: rest)
    (moved : m'.agenda ≠ m.agenda) :
    ∃ h', h = (m, .own t) :: h' ∧ Run C (InTurn C request) (m.after C (.own t)) h' m' := by
  cases h with
  | nil => exact absurd (congrArg agenda run.eq_of_nil) moved
  | cons b h =>
    obtain ⟨same, m₁, move, later⟩ := run.uncons
    obtain ⟨possible, rfl⟩ := move_iff.mp move
    rcases b with ⟨m₀, act⟩
    obtain rfl : m₀ = m := same
    cases act with
    | own t' =>
      obtain rfl : t = t' := by simpa [Possible, head] using possible
      exact ⟨h, rfl, later⟩
    | invoke is => exact absurd head (step_eq_none_iff.mp possible.1 t rest)
    | answer c r => simp [Possible, head] at possible

/-- The component goes on by itself from one machine to another, and the surroundings see
the signals. -/
inductive Alone (C : Component σ ι κ ε ρ) :
    Machine σ ι κ ε → List (Signal κ ε) → Machine σ ι κ ε → Prop
  | stop {m : Machine σ ι κ ε} : Alone C m [] m
  | next {m m₁ m' : Machine σ ι κ ε} {signal : Signal κ ε} {signals : List (Signal κ ε)}
      (first : m.step C = some (signal, m₁)) (rest : Alone C m₁ signals m') :
      Alone C m (signal :: signals) m'

/-- Left alone, a component does one thing after the other: its first signal that is not silent
is determined. -/
lemma Alone.signal_unique {m₁ m₂ : Machine σ ι κ ε} {x y : Signal κ ε} {n k : Nat}
    (first : Alone C m (List.replicate n .silent ++ [x]) m₁)
    (second : Alone C m (List.replicate k .silent ++ [y]) m₂)
    (hx : x ≠ .silent) (hy : y ≠ .silent) : x = y := by
  induction n generalizing k m with
  | zero =>
    cases first with
    | next one _ =>
      cases k with
      | zero =>
        cases second with
        | next other _ => exact (Prod.mk.inj (Option.some.inj (one.symm.trans other))).1
      | succ k =>
        cases second with
        | next other _ => exact absurd (Prod.mk.inj (Option.some.inj (one.symm.trans other))).1 hx
  | succ n ih =>
    cases first with
    | next one more =>
      cases k with
      | zero =>
        cases second with
        | next other _ => exact absurd (Prod.mk.inj (Option.some.inj (other.symm.trans one))).1 hy
      | succ k =>
        cases second with
        | next other rest =>
          obtain rfl := (Prod.mk.inj (Option.some.inj (one.symm.trans other))).2
          exact ih more rest

inductive Turn (ι : Type) {κ : Type} (ρ : κ → Type) where
  | ask (is : List ι)
  | reply (f : (c : κ) → ρ c)

/-- Lets a machine run with given turns of the surroundings, which are taken while they are in
control, for a number of acts at most. -/
def drive (C : Component σ ι κ ε ρ) :
    Nat → List (Turn ι ρ) → Machine σ ι κ ε → History σ ι κ ε ρ × Machine σ ι κ ε
  | 0, _, m => ([], m)
  | fuel + 1, turns, m =>
    match m.agenda, m.step C with
    | .todo t :: _, some (_, m') =>
      let after := drive C fuel turns m'
      ((m, .own t) :: after.1, after.2)
    | agenda, _ =>
      match turns, agenda with
      | .ask is :: turns, _ =>
        let after := drive C fuel turns (m.invoke is)
        ((m, .invoke is) :: after.1, after.2)
      | .reply f :: turns, .held c :: _ =>
        let after := drive C fuel turns (m.answer C f)
        ((m, .answer c (f c)) :: after.1, after.2)
      | _, _ => ([], m)

/-- Driving a machine is a run of it, if only what may be asked for is. -/
theorem drive_run {allowed : Machine σ ι κ ε → List ι → Bool}
    (sound : ∀ m is, m.step C = none → allowed m is = true → may m is) (fuel : Nat)
    (turns : List (Turn ι ρ)) (m : Machine σ ι κ ε)
    (checked : (drive C fuel turns m).1.all (fun b => b.2.asked?.all (allowed b.1)) = true) :
    Run C may m (drive C fuel turns m).1 (drive C fuel turns m).2 := by
  induction fuel generalizing turns m with
  | zero => exact .start
  | succ fuel ih =>
    rcases m with ⟨s, _ | ⟨t | c, rest⟩⟩
    · rcases turns with _ | ⟨is | f, turns⟩
      · exact .start
      · obtain ⟨first, later⟩ := Bool.and_eq_true_iff.mp checked
        exact .cons (.invoke (sound _ _ rfl first)) (ih _ _ later)
      · exact .start
    · cases t with
      | work i | call c | note e => exact .cons (.own rfl rfl) (ih _ _ checked)
    · rcases turns with _ | ⟨is | f, turns⟩
      · exact .start
      · obtain ⟨first, later⟩ := Bool.and_eq_true_iff.mp checked
        exact .cons (.invoke (sound _ _ rfl first)) (ih _ _ later)
      · exact .cons (.answer rfl f) (ih _ _ checked)

end Machine

section Views

variable {α β : Type} {f : α → List β} {l l' : List α}

/-! A view of an agenda collects something from each of its entries. -/

lemma flatMap_tail_eq_nil (none_seen : l.flatMap f = []) : l.tail.flatMap f = [] := by
  rw [List.flatMap_eq_nil_iff] at none_seen ⊢
  exact fun x hx => none_seen x (List.mem_of_mem_tail hx)

lemma flatMap_append_tail_eq_nil (none_behind : l.tail.flatMap f = [])
    (none_below : l'.flatMap f = []) : (l ++ l').tail.flatMap f = [] := by
  cases l with
  | nil => exact flatMap_tail_eq_nil none_below
  | cons x l =>
    rw [List.cons_append, List.tail_cons, List.flatMap_append, none_below, List.append_nil]
    exact none_behind

end Views

end StreamControl
