import StreamControl.Proofs.InboxRelief

/-!
# No signal without a refusal

The producer is told that the inbox is empty only if it was told to back off since it was told so
last. A delivery that finds nothing left takes the overflow away before it calls the producer, so
any delivery nested in that call, or underway below it, has nothing to tell until the next refusal.
-/

namespace StreamControl.Inbox

variable {κ α : Type} {mark : Nat} {k : κ} {i : Instr κ α} {b b' : Inbox κ α}
  {out : List (Todo (Instr κ α) (Call κ α) Note)} {h h' : Past κ α} {m m₁ m' : Live κ α}
  {a : Act (Instr κ α) (Call κ α) Note Reply}

/-- An offer returns, and the producer is told to back off. -/
def refuses : Act (Instr κ α) (Call κ α) Note Reply → Bool
  | .own (.note (.pushed false)) => true
  | _ => false

/-- The producer was told to back off, and not told since that the inbox is empty. -/
def RefusedSince (h : Past κ α) : Prop :=
  ∃ before b after, h = before ++ b :: after ∧ refuses b.2 = true ∧
    ∀ c ∈ after, relieves c.2 = false

/-- The handler `k` may be told that the inbox is empty: it is, with credit left, and an overflow
is over that nobody was told about. -/
structure Earned (h : Past κ α) (m : Live κ α) (k : κ) : Prop where
  empty : m.state.pending = []
  credited : m.state.credit ≠ 0
  registered : m.state.onDrained = some k
  ended : m.state.overflow = false
  refused : RefusedSince h

/-! ## Refusals -/

lemma RefusedSince.snoc (refused : RefusedSince h) (silent : relieves a = false) :
    RefusedSince (h ++ [(m, a)]) := by
  obtain ⟨before, b, after, rfl, refuses_b, none_after⟩ := refused
  refine ⟨before, b, after ++ [(m, a)], by simp, refuses_b, fun c hc => ?_⟩
  rcases List.mem_append.mp hc with earlier | last
  · exact none_after c earlier
  · rw [List.mem_singleton.mp last]
    exact silent

lemma refusedSince_of_refuses (told : refuses a = true) : RefusedSince (h ++ [(m, a)]) :=
  ⟨h, (m, a), [], rfl, told, by simp⟩

/-- The inbox remembers nothing but a refusal that is about to be told. -/
lemma Effect.overflow_or_refusal (effect : Effect i b b' out) (overflow : b'.overflow = true) :
    b.overflow = true ∨ out = [.note (.pushed false)] := by
  cases effect with
  | settled =>
    rcases Bool.or_eq_true_iff.mp overflow with before | full
    · exact .inl before
    · exact .inr (by simpa using full)
  | emptied => cases overflow
  | _ => exact .inl overflow

/-! ## Signals -/

/-- The handlers about to be told that the inbox is empty. -/
def relieved : Entry (Instr κ α) (Call κ α) Note → List κ
  | .todo (.call (.drained k)) => [k]
  | _ => []

def reliefs (agenda : Agenda κ α) : List κ := agenda.flatMap relieved

@[simp] lemma reliefs_append (agenda agenda' : Agenda κ α) :
    reliefs (agenda ++ agenda') = reliefs agenda ++ reliefs agenda' :=
  List.flatMap_append

@[simp] lemma reliefs_complaint (b : Inbox κ α) (o : Outcome) :
    reliefs ((complaint b o).map .todo) = [] := by
  unfold complaint
  split
  · rfl
  · split <;> rfl

lemma Effect.reliefs_tail (effect : Effect i b b' out) : reliefs (out.map .todo).tail = [] := by
  cases effect with
  | emptied =>
    unfold relief
    split
    · cases b.onDrained <;> rfl
    · rfl
  | @consumed _ o =>
    have none_out : reliefs ((complaint b o ++ [Todo.work Instr.deliver]).map .todo) = [] := by
      rw [List.map_append, reliefs_append, reliefs_complaint]
      rfl
    exact flatMap_tail_eq_nil none_out
  | _ => rfl

lemma mem_reliefs_relief (told : k ∈ reliefs ((relief b).map .todo)) :
    b.overflow = true ∧ b.onDrained = some k := by
  unfold relief at told
  split at told
  · rename_i overflow
    cases registered : b.onDrained with
    | none => simp [registered, reliefs] at told
    | some d =>
      obtain rfl : k = d := by simpa [registered, reliefs, relieved] using told
      exact ⟨overflow, rfl⟩
  · cases told

/-- A signal takes the overflow away. -/
lemma Effect.earned (effect : Effect i b b' out) (told : k ∈ reliefs (out.map .todo))
    (refused : b.overflow = true → RefusedSince h) (rest : Agenda κ α) :
    Earned h ⟨b', rest⟩ k := by
  cases effect with
  | emptied free credited consumer empty =>
    obtain ⟨overflow, registered⟩ := mem_reliefs_relief told
    exact ⟨empty, credited, registered, rfl, refused overflow⟩
  | @consumed _ o =>
    rw [List.map_append, reliefs_append, reliefs_complaint] at told
    cases told
  | _ => cases told

/-- Every signal about to be given is earned, and every overflow goes back to a refusal. -/
structure Accounted (h : Past κ α) (m : Live κ α) : Prop where
  at_once : reliefs m.agenda.tail = []
  due : ∀ k ∈ reliefs m.agenda, Earned h m k
  overflow : m.state.overflow = true →
    RefusedSince h ∨ m.agenda.head? = some (.todo (.note (.pushed false)))

lemma Accounted.refused (accounted : Accounted h m) (overflow : m.state.overflow = true)
    (other : m.agenda.head? ≠ some (.todo (.note (.pushed false)))) : RefusedSince h :=
  (accounted.overflow overflow).resolve_right other

/-- While the surroundings are in control, no signal is due. -/
lemma Accounted.none_due (accounted : Accounted h m) (waits : m.step component = none) :
    reliefs m.agenda = [] := by
  rcases m with ⟨b, _ | ⟨t | c, rest⟩⟩
  · rfl
  · exact absurd rfl (Machine.step_eq_none_iff.mp waits t rest)
  · exact accounted.at_once

lemma accounted_step (accounted : Accounted h m) (move : Moves m a m') :
    Accounted (h ++ [(m, a)]) m' := by
  cases move using Machine.Move.elim with
  | work b i rest =>
    have effect := exec_effect i b
    have none_behind : reliefs rest = [] := accounted.at_once
    have refused : b.overflow = true →
        RefusedSince (h ++ [(⟨b, .todo (.work i) :: rest⟩, .own (.work i))]) :=
      fun overflow => (accounted.refused overflow (by simp)).snoc rfl
    refine ⟨flatMap_append_tail_eq_nil effect.reliefs_tail none_behind, fun k told => ?_,
      fun overflow => ?_⟩
    · rw [reliefs_append, none_behind, List.append_nil] at told
      exact effect.earned told refused _
    · rcases effect.overflow_or_refusal overflow with before | answered
      · exact .inl (refused before)
      · refine .inr ?_
        simp [component, answered]
  | call b c rest =>
    have none_behind : reliefs rest = [] := accounted.at_once
    refine ⟨none_behind, fun k told => ?_, fun overflow => ?_⟩
    · rw [show reliefs (.held c :: rest) = reliefs rest from rfl, none_behind] at told
      cases told
    · cases c with
      | drained k =>
        have earned := accounted.due k (by simp [reliefs, relieved])
        exact absurd (earned.ended.symm.trans overflow) Bool.false_ne_true
      | consume k x | fault k cause => exact .inl ((accounted.refused overflow (by simp)).snoc rfl)
  | note b e rest =>
    have none_behind : reliefs rest = [] := accounted.at_once
    refine ⟨flatMap_tail_eq_nil none_behind, fun k told => ?_, fun overflow => ?_⟩
    · rw [none_behind] at told
      cases told
    · rcases accounted.overflow overflow with before | now
      · exact .inl (before.snoc rfl)
      · obtain rfl : e = .pushed false := by simpa using now
        exact .inl (refusedSince_of_refuses rfl)
  | invoke m is asked =>
    have none_asked : reliefs (is.map (.todo ∘ .work) : Agenda κ α) = [] := by
      simp [reliefs, relieved]
    have none_before := accounted.none_due asked.1
    refine ⟨flatMap_append_tail_eq_nil (flatMap_tail_eq_nil none_asked) none_before,
      fun k told => ?_, fun overflow => ?_⟩
    · rw [Machine.invoke, reliefs_append, none_asked, none_before] at told
      cases told
    · refine .inl ((accounted.refused overflow fun head => ?_).snoc rfl)
      obtain ⟨rest, agenda_eq⟩ := List.head?_eq_some_iff.mp head
      exact Machine.step_eq_none_iff.mp asked.1 _ rest agenda_eq
  | reply b c rest f =>
    have none_behind : reliefs rest = [] := accounted.at_once
    have none_resumed : reliefs ((component.resume c (f c)).map .todo : Agenda κ α) = [] := by
      cases c <;> rfl
    refine ⟨flatMap_append_tail_eq_nil (flatMap_tail_eq_nil none_resumed) none_behind,
      fun k told => ?_, fun overflow => .inl ((accounted.refused overflow (by simp)).snoc rfl)⟩
    rw [reliefs_append, none_resumed, none_behind] at told
    cases told

lemma accounted_of_runs (run : Runs mark h m) : Accounted h m := by
  induction run with
  | start =>
    refine ⟨rfl, fun k told => ?_, fun overflow => ?_⟩
    · cases told
    · cases overflow
  | step _ move ih => exact accounted_step ih move

/-- However the callbacks re-enter an inbox, it tells the producer that it is empty only when it is,
with credit left, and only if the producer was told to back off since it was told so last. -/
theorem earned_of_runs (run : Runs mark (h ++ (m₁, .own (.call (.drained k))) :: h') m) :
    Earned h m₁ k := by
  obtain ⟨before, _, move, _⟩ := run.split
  obtain ⟨head, -⟩ := Machine.move_iff.mp move
  obtain ⟨rest, agenda_eq⟩ := List.head?_eq_some_iff.mp head
  refine (accounted_of_runs before).due k ?_
  rw [agenda_eq]
  exact List.mem_cons_self

/-- The only item a paused inbox has room for is refused. It is handed over on resuming, the
consumer fails on it, and the handler of this failure asks for more: the inbox is empty. -/
def signalling : Past Nat Nat × Live Nat Nat :=
  Machine.drive component 23
    [.ask [.setConsumer 0], .ask [.setOnFault 1], .ask [.setOnDrained 2], .ask [.pause],
      .ask (offer 1), .ask resumed, .reply fun
        | .consume _ _ => .failure .closed
        | .fault _ _ | .drained _ => (),
      .ask (fetch 1)]
    (.idle (fresh 1))

/-- The producer is told so inside that handler, and offers the next item at once. -/
def signalled : Past Nat Nat × Live Nat Nat :=
  Machine.drive component 40 [.ask (offer 2), .reply taken, .reply taken, .reply taken]
    signalling.2

/-- None of the deliveries underway signals the overflow again. -/
theorem earned_signalledOnFault :
    Runs 1 (signalling.1 ++ signalled.1) signalled.2 ∧ Earned signalling.1 signalling.2 2 ∧
      signalled.2.agenda = [] ∧
      (signalling.1 ++ signalled.1).countP (fun b => refuses b.2) = 1 ∧
      (signalling.1 ++ signalled.1).countP (fun b => relieves b.2) = 1 := by
  have run : Runs 1 (signalling.1 ++ signalled.1) signalled.2 :=
    (driven_run rfl).append (driven_run rfl)
  have first : signalled.1 =
      (signalling.2, .own (.call (.drained 2))) :: signalled.1.tail := rfl
  have earned : Earned signalling.1 signalling.2 2 := by
    rw [first] at run
    exact earned_of_runs run
  exact ⟨run, earned, rfl, rfl, rfl⟩

end StreamControl.Inbox
