import StreamControl.Proofs.Run

/-!
# Serving without being re-entered

When the surroundings answer every call at once, and ask for nothing meanwhile, what a component
does from some state on is determined by how they answer. `Serves` says so in one judgement for a
whole list of things to do; it is the same as a run without requests that ends at rest. The
answers may depend on the calls heard before, as those of a callback with a state of its own.
-/

namespace StreamControl.Machine

variable {σ ι κ ε : Type} {ρ : κ → Type}

/-- The calls among what the surroundings saw. -/
def heard (shown : List (Signal κ ε)) : List κ :=
  shown.filterMap fun
    | .called c => some c
    | _ => none

@[simp] lemma heard_nil : heard ([] : List (Signal κ ε)) = [] := rfl

@[simp] lemma heard_called (c : κ) (shown : List (Signal κ ε)) :
    heard (.called c :: shown) = c :: heard shown := rfl

@[simp] lemma heard_noted (e : ε) (shown : List (Signal κ ε)) :
    heard (.noted e :: shown) = heard shown := rfl

@[simp] lemma heard_append (shown shown' : List (Signal κ ε)) :
    heard (shown ++ shown') = heard shown ++ heard shown' :=
  List.filterMap_append

/-- What the surroundings see of one thing that is done. -/
def shows? : Todo ι κ ε → Option (Signal κ ε)
  | .work _ => none
  | .call c => some (.called c)
  | .note e => some (.noted e)

/-- The surroundings are told, and nothing is left to do whatever they answer. -/
def Told (C : Component σ ι κ ε ρ) : Todo ι κ ε → Prop
  | .work _ => False
  | .call c => ∀ r, C.resume c r = []
  | .note _ => True

/-- From a state and after some calls, all of a list of things is done, and this is what the
surroundings see. -/
inductive Serves (C : Component σ ι κ ε ρ) (reply : List κ → (c : κ) → ρ c) :
    List κ → σ → List (Todo ι κ ε) → List (Signal κ ε) → σ → Prop
  | done {before : List κ} {s : σ} : Serves C reply before s [] [] s
  | work {before : List κ} {s s' : σ} {i : ι} {rest : List (Todo ι κ ε)}
      {shown : List (Signal κ ε)}
      (next : Serves C reply before (C.exec i s).1 ((C.exec i s).2 ++ rest) shown s') :
      Serves C reply before s (.work i :: rest) shown s'
  | call {before : List κ} {s s' : σ} {c : κ} {rest : List (Todo ι κ ε)}
      {shown : List (Signal κ ε)}
      (next : Serves C reply (before ++ [c]) s (C.resume c (reply before c) ++ rest) shown s') :
      Serves C reply before s (.call c :: rest) (.called c :: shown) s'
  | note {before : List κ} {s s' : σ} {e : ε} {rest : List (Todo ι κ ε)}
      {shown : List (Signal κ ε)} (next : Serves C reply before s rest shown s') :
      Serves C reply before s (.note e :: rest) (.noted e :: shown) s'

variable {C : Component σ ι κ ε ρ} {reply : List κ → (c : κ) → ρ c} {before : List κ}
  {s s' s₁ s₂ : σ} {is is' : List (Todo ι κ ε)} {shown shown₁ shown₂ : List (Signal κ ε)}

namespace Serves

lemma work_of_eq {i : ι} {out : List (Todo ι κ ε)} (does : C.exec i s = (s₁, out))
    (next : Serves C reply before s₁ (out ++ is) shown s') :
    Serves C reply before s (.work i :: is) shown s' := by
  refine .work ?_
  rw [does]
  exact next

/-- What is seen, and what becomes of the component, is determined. -/
theorem unique (first : Serves C reply before s is shown₁ s₁)
    (second : Serves C reply before s is shown₂ s₂) : shown₁ = shown₂ ∧ s₁ = s₂ := by
  induction first generalizing shown₂ s₂ with
  | done =>
    cases second
    exact ⟨rfl, rfl⟩
  | work _ ih =>
    cases second with
    | work other => exact ih other
  | call _ ih =>
    cases second with
    | call other =>
      obtain ⟨same, same_end⟩ := ih other
      exact ⟨congrArg _ same, same_end⟩
  | note _ ih =>
    cases second with
    | note other =>
      obtain ⟨same, same_end⟩ := ih other
      exact ⟨congrArg _ same, same_end⟩

/-- One list is served after the other. -/
theorem append (first : Serves C reply before s is shown₁ s₁)
    (second : Serves C reply (before ++ heard shown₁) s₁ is' shown₂ s₂) :
    Serves C reply before s (is ++ is') (shown₁ ++ shown₂) s₂ := by
  induction first with
  | done => simpa using second
  | work _ ih => exact .work (by simpa using ih second)
  | call _ ih => exact .call (by simpa using ih (by simpa using second))
  | note _ ih => exact .note (ih second)

/-- Serving two lists, by what is seen of each. -/
theorem of_append (both : Serves C reply before s (is ++ is') shown s') :
    ∃ shown₁ s₁ shown₂, Serves C reply before s is shown₁ s₁ ∧
      Serves C reply (before ++ heard shown₁) s₁ is' shown₂ s' ∧ shown = shown₁ ++ shown₂ := by
  generalize whole : is ++ is' = todo at both
  induction both generalizing is with
  | @done before s =>
    obtain ⟨rfl, rfl⟩ := List.append_eq_nil_iff.mp whole
    exact ⟨[], s, [], .done, .done, rfl⟩
  | @work before s s' i rest shown next ih =>
    cases is with
    | nil =>
      obtain rfl : is' = .work i :: rest := whole
      exact ⟨[], s, shown, .done, by simpa using next.work, rfl⟩
    | cons t is =>
      obtain ⟨rfl, rfl⟩ := List.cons.inj whole
      obtain ⟨shown₁, s₁, shown₂, first, second, rfl⟩ := ih (List.append_assoc _ _ _)
      exact ⟨shown₁, s₁, shown₂, .work first, second, rfl⟩
  | @call before s s' c rest shown next ih =>
    cases is with
    | nil =>
      obtain rfl : is' = .call c :: rest := whole
      exact ⟨[], s, .called c :: shown, .done, by simpa using next.call, rfl⟩
    | cons t is =>
      obtain ⟨rfl, rfl⟩ := List.cons.inj whole
      obtain ⟨shown₁, s₁, shown₂, first, second, rfl⟩ := ih (List.append_assoc _ _ _)
      exact ⟨.called c :: shown₁, s₁, shown₂, .call first, by simpa using second, rfl⟩
  | @note before s s' e rest shown next ih =>
    cases is with
    | nil =>
      obtain rfl : is' = .note e :: rest := whole
      exact ⟨[], s, .noted e :: shown, .done, by simpa using next.note, rfl⟩
    | cons t is =>
      obtain ⟨rfl, rfl⟩ := List.cons.inj whole
      obtain ⟨shown₁, s₁, shown₂, first, second, rfl⟩ := ih rfl
      exact ⟨.noted e :: shown₁, s₁, shown₂, .note first, second, rfl⟩

/-- Where nothing is left to do after telling, all of it is told in order. -/
theorem told (only_told : ∀ t ∈ is, Told C t) :
    Serves C reply before s is (is.filterMap shows?) s := by
  induction is generalizing before with
  | nil => exact .done
  | cons t is ih =>
    obtain ⟨first, later⟩ := List.forall_mem_cons.mp only_told
    cases t with
    | work i => exact first.elim
    | call c =>
      refine .call ?_
      rw [show C.resume c (reply before c) = [] from first _]
      exact ih later
    | note e => exact .note (ih later)

end Serves

/-! ## Serving is running -/

/-- What the surroundings see of an act. -/
def signal? : Act ι κ ε ρ → Option (Signal κ ε)
  | .own t => shows? t
  | _ => none

/-- What the surroundings see of a history. -/
def seen (h : History σ ι κ ε ρ) : List (Signal κ ε) := h.filterMap fun b => signal? b.2

/-- Every call is answered as `reply` has it from the calls heard before it. -/
def Obeys (reply : List κ → (c : κ) → ρ c) (before : List κ) (h : History σ ι κ ε ρ) : Prop :=
  ∀ h₁ m c r h₂, h = h₁ ++ (m, .answer c r) :: h₂ →
    ∃ earlier, before ++ heard (seen h₁) = earlier ++ [c] ∧ r = reply earlier c

/-- The surroundings ask for nothing. -/
def never : Machine σ ι κ ε → List ι → Prop := fun _ _ => False

variable {m m' : Machine σ ι κ ε} {a : Act ι κ ε ρ} {h : History σ ι κ ε ρ}

lemma seen_cons (b : Machine σ ι κ ε × Act ι κ ε ρ) (h : History σ ι κ ε ρ) :
    seen (b :: h) = (signal? b.2).toList ++ seen h := by
  unfold seen
  cases seen_first : signal? b.2 <;> simp [seen_first]

lemma seen_append (h h' : History σ ι κ ε ρ) : seen (h ++ h') = seen h ++ seen h' :=
  List.filterMap_append

lemma obeys_nil : Obeys reply before ([] : History σ ι κ ε ρ) := by
  intro h₁ m c r h₂ whole
  simp at whole

/-- Later answers obey what was heard meanwhile. -/
lemma Obeys.tail (obeys : Obeys reply before ((m, a) :: h)) :
    Obeys reply (before ++ heard (signal? a).toList) h := by
  rintro h₁ m₁ c r h₂ rfl
  obtain ⟨earlier, calls, answered⟩ := obeys ((m, a) :: h₁) m₁ c r h₂ rfl
  exact ⟨earlier, by simpa [seen_cons] using calls, answered⟩

lemma Obeys.tail_of_unheard (obeys : Obeys reply before ((m, a) :: h))
    (unheard : heard (signal? a).toList = []) : Obeys reply before h := by
  simpa [unheard] using obeys.tail

lemma Obeys.cons (later : Obeys reply (before ++ heard (signal? a).toList) h)
    (first : ∀ c r, a = .answer c r → ∃ earlier, before = earlier ++ [c] ∧ r = reply earlier c) :
    Obeys reply before ((m, a) :: h) := by
  intro h₁ m₁ c r h₂ whole
  cases h₁ with
  | nil =>
    obtain ⟨now, -⟩ := List.cons.inj whole
    obtain ⟨earlier, calls, answered⟩ := first c r (Prod.mk.inj now).2
    exact ⟨earlier, by simpa [seen] using calls, answered⟩
  | cons b h₁ =>
    obtain ⟨rfl, rfl⟩ := List.cons.inj whole
    obtain ⟨earlier, calls, answered⟩ := later h₁ m₁ c r h₂ rfl
    exact ⟨earlier, by simpa [seen_cons] using calls, answered⟩

/-- Serving is a run on top of whatever is below on the agenda. -/
theorem Serves.run (serves : Serves C reply before s is shown s') (below : List (Entry ι κ ε)) :
    ∃ h : History σ ι κ ε ρ, Run C never ⟨s, is.map .todo ++ below⟩ h ⟨s', below⟩ ∧
      Obeys reply before h ∧ seen h = shown := by
  induction serves with
  | done => exact ⟨[], .start, obeys_nil, rfl⟩
  | @work before s s' i rest shown next ih =>
    obtain ⟨h, run, obeys, rfl⟩ := ih
    rw [List.map_append, List.append_assoc] at run
    refine ⟨_ :: h, run.cons (.work s i _), .cons ?_ ?_, rfl⟩
    · simpa [signal?, shows?] using obeys
    · exact fun c r other => nomatch other
  | @call before s s' c rest shown next ih =>
    obtain ⟨h, run, obeys, rfl⟩ := ih
    rw [List.map_append, List.append_assoc] at run
    refine ⟨_ :: _ :: h, (run.cons (.reply s c _ (reply before))).cons (.call s c _),
      .cons (.cons ?_ ?_) ?_, rfl⟩
    · simpa [signal?, shows?] using obeys
    · rintro c' r ⟨⟩
      exact ⟨before, rfl, rfl⟩
    · exact fun c' r other => nomatch other
  | @note before s s' e rest shown next ih =>
    obtain ⟨h, run, obeys, rfl⟩ := ih
    refine ⟨_ :: h, run.cons (.note s e _), .cons ?_ ?_, rfl⟩
    · simpa [signal?, shows?] using obeys
    · exact fun c r other => nomatch other

/-- A run without requests that ends at rest serves all there was to do, and goes on from the
answer to a call that was held. -/
theorem serves_of_run (run : Run C never m h (.idle s')) (obeys : Obeys reply before h) :
    (∀ is, m.agenda = is.map .todo → Serves C reply before m.state is (seen h) s') ∧
    ∀ earlier c is, m.agenda = .held c :: is.map .todo → before = earlier ++ [c] →
      Serves C reply before m.state (C.resume c (reply earlier c) ++ is) (seen h) s' := by
  induction h generalizing m before with
  | nil =>
    obtain rfl := run.eq_of_nil
    refine ⟨fun is none_left => ?_, fun earlier c is held => by cases held⟩
    obtain rfl : is = [] := by simpa [idle] using none_left.symm
    exact .done
  | cons b h ih =>
    rcases b with ⟨m₀, a⟩
    obtain ⟨rfl, m₁, move, later⟩ := run.uncons
    cases move using Move.elim with
    | work s i rest =>
      refine ⟨fun is agenda => ?_, fun earlier c is held => by cases held⟩
      obtain ⟨_, is, rfl, ⟨⟩, rfl⟩ := List.map_eq_cons_iff.mp agenda.symm
      exact .work ((ih later (obeys.tail_of_unheard rfl)).1 _ List.map_append.symm)
    | call s c rest =>
      refine ⟨fun is agenda => ?_, fun earlier c is held => by cases held⟩
      obtain ⟨_, is, rfl, ⟨⟩, rfl⟩ := List.map_eq_cons_iff.mp agenda.symm
      exact .call ((ih later obeys.tail).2 before c is rfl rfl)
    | note s e rest =>
      refine ⟨fun is agenda => ?_, fun earlier c is held => by cases held⟩
      obtain ⟨_, is, rfl, ⟨⟩, rfl⟩ := List.map_eq_cons_iff.mp agenda.symm
      exact .note ((ih later (obeys.tail_of_unheard rfl)).1 is rfl)
    | invoke m is asked => exact asked.elim
    | reply s c rest f =>
      refine ⟨fun is agenda => ?_, fun earlier d is held calls => ?_⟩
      · obtain ⟨_, is, rfl, ⟨⟩, rfl⟩ := List.map_eq_cons_iff.mp agenda.symm
      · obtain ⟨head, rfl⟩ := List.cons.inj held
        obtain rfl := Entry.held.inj head
        obtain ⟨earlier', calls', answered⟩ := obeys [] _ c (f c) h rfl
        have last_heard : earlier ++ [c] = earlier' ++ [c] := by simpa [seen, calls] using calls'
        obtain rfl := List.append_cancel_right last_heard
        rw [← answered]
        exact (ih later (obeys.tail_of_unheard rfl)).1 _ List.map_append.symm

theorem serves_iff : Serves C reply before s is shown s' ↔
    ∃ h : History σ ι κ ε ρ, Run C never ⟨s, is.map .todo⟩ h (.idle s') ∧
      Obeys reply before h ∧ seen h = shown := by
  constructor
  · intro serves
    simpa [idle] using serves.run []
  · rintro ⟨h, run, obeys, rfl⟩
    exact (serves_of_run run obeys).1 is rfl

end StreamControl.Machine
