import StreamControl.Proofs.StreamSteps

/-!
# Surroundings with a plan

Let the surroundings of a stream call back on its loop alone, from inside a call that it makes. A
plan says what they do while they hold a call, by what they were shown before and by what there is
to see of the stream. They are shown every call but those that keep count of what is received, every
promise that the stream settles itself, and what they did. A script says what they ask for from
outside, one thing after the other. By one plan a script is played in one way at most.
-/

namespace StreamControl

/-- A call that keeps count, made at once by whoever calls an operation. -/
def StreamCall.isCount {η : Type} : StreamCall η → Bool
  | .conn p => p.isCounting
  | .hook _ => false

/-- An operation on the loop itself. -/
def Operation.isOnLoop {η : Type} : Operation η → Bool
  | .runLoop | .dropLoop => true
  | _ => false

namespace Endpoint

variable {η : Type}

/-- The surroundings call back on the loop, or the peer's side changes, while they hold a call. -/
inductive CallsBack (m : Live η) : List (StreamInstr η) → Prop
  | operation {c : StreamCall η} (holds : m.agenda.head? = some (.held c))
      (other : c.isCount = false) (op : Operation η) (plain : op.isOnLoop = false) :
    CallsBack m [.enter m.state.loop.owner op]
  | setRemote {c : StreamCall η} (holds : m.agenda.head? = some (.held c))
      (other : c.isCount = false) (remoteOpen : Bool) : CallsBack m [.setRemote remoteOpen]

/-- A stream is left to itself and to callbacks. -/
abbrev Unfolds (m : Live η) (h : Past η) (m' : Live η) : Prop :=
  Machine.Run component CallsBack m h m'

/-- What there is to see while a call is made. -/
structure View (η : Type) where
  stream : Stream η
  remoteOpen : Bool
  thread : Thread

def view (e : Endpoint η) : View η := ⟨e.stream, e.remoteOpen, e.thread⟩

/-- What happens for others to see. -/
inductive Seen (η : Type) where
  /-- A call that keeps count. -/
  | counted (c : StreamCall η)
  | called (v : View η) (c : StreamCall η)
  | settled (v : View η) (n : StreamNote)
  /-- What was done while a call was held. -/
  | chosen (v : View η) (c : StreamCall η) (a : Deed η)

def Seen.isCounted : Seen η → Bool
  | .counted _ => true
  | _ => false

/-- What is done while a call is held, unless the call keeps count. -/
def choice (v : View η) (a : Deed η) : Agenda η → List (Seen η)
  | .held c :: _ => if c.isCount then [] else [.chosen v c a]
  | _ => []

def sees : Live η × Deed η → List (Seen η)
  | (m, .own (.call c)) => if c.isCount then [.counted c] else [.called m.state.view c]
  | (m, .own (.note n)) => if n.settles then [.settled m.state.view n] else []
  | (_, .own (.work _)) => []
  | (m, a) => choice m.state.view a m.agenda

def disclosed (h : Past η) : List (Seen η) := h.flatMap sees

/-- What the surroundings are shown: all but what keeps count. -/
def shown (s : List (Seen η)) : List (Seen η) := s.filter fun x => !x.isCounted

/-- What the surroundings do while they hold a call, by what they were shown before and by what
there is to see. -/
abbrev Plan (η : Type) := List (Seen η) → View η → StreamCall η → Deed η

def Seen.Accords (plan : Plan η) (before : List (Seen η)) : Seen η → Prop
  | .chosen v c a => a = plan before v c
  | _ => True

/-- All that was done is what the plan says. -/
def ByPlan (plan : Plan η) : List (Seen η) → List (Seen η) → Prop
  | _, [] => True
  | before, x :: rest => x.Accords plan before ∧ ByPlan plan (before ++ [x]) rest

/-- What is asked for from outside, each when the last thing has been done. -/
inductive Plays : Endpoint η → List (List (StreamInstr η)) → Past η → Endpoint η → Prop
  | done {e : Endpoint η} : Plays e [] [] e
  | next {e e₁ e' : Endpoint η} {is : List (StreamInstr η)} {script : List (List (StreamInstr η))}
      {h h' : Past η} (turn : Unfolds ((Machine.idle e).invoke is) h (.idle e₁))
      (later : Plays e₁ script h' e') :
    Plays e (is :: script) ((.idle e, .invoke is) :: (h ++ h')) e'

/-- A script is played to its end, and the surroundings follow a plan. -/
structure PlaysBy (plan : Plan η) (e : Endpoint η) (script : List (List (StreamInstr η)))
    (h : Past η) (e' : Endpoint η) : Prop where
  plays : Plays e script h e'
  by_plan : ByPlan plan [] (shown (disclosed h))

section Views

variable (b : Live η × Deed η) (h h' : Past η) (s s' : List (Seen η))

@[simp] lemma disclosed_cons : disclosed (b :: h) = sees b ++ disclosed h := rfl

@[simp] lemma disclosed_append : disclosed (h ++ h') = disclosed h ++ disclosed h' :=
  List.flatMap_append

@[simp] lemma shown_append : shown (s ++ s') = shown s ++ shown s' := List.filter_append _ _

lemma sees_idle (e : Endpoint η) (is : List (StreamInstr η)) :
    sees ((.idle e, .invoke is) : Live η × Deed η) = [] := rfl

end Views

lemma byPlan_append {plan : Plan η} {before l l' : List (Seen η)} :
    ByPlan plan before (l ++ l') ↔ ByPlan plan before l ∧ ByPlan plan (before ++ l) l' := by
  induction l generalizing before with
  | nil => simp [ByPlan]
  | cons x l ih =>
    rw [List.cons_append, ByPlan, ByPlan, ih, List.append_assoc, List.singleton_append, and_assoc]

/-! ## There is one way to play -/

variable {plan : Plan η} {m m₁ m₂ : Live η} {h₁ h₂ : Past η} {a a₁ a₂ : Deed η}
  {before : List (Seen η)} {c : StreamCall η} {rest : Agenda η} {e : Endpoint η}

/-- What was chosen is what the plan says. -/
def AsPlanned (plan : Plan η) (before : List (Seen η)) (m : Live η) (a : Deed η) : Prop :=
  ByPlan plan before (shown (sees (m, a)))

lemma own_of_possible {x : StreamTodo η} (head : m.agenda = .todo x :: rest)
    (possible : Machine.Possible CallsBack m a) : a = .own x := by
  cases a with
  | own y =>
    rw [Machine.Possible, head] at possible
    cases possible
    rfl
  | invoke is =>
    cases possible with
    | operation holds | setRemote holds =>
      rw [head] at holds
      cases holds
  | answer c r =>
    obtain ⟨holds, -⟩ := possible
    rw [head] at holds
    cases holds

/-- A call that keeps count is answered, and that is all. -/
lemma answer_of_possible (head : m.agenda = .held c :: rest) (counts : c.isCount = true)
    (possible : Machine.Possible CallsBack m a) : ∃ r : c.Reply, a = .answer c r := by
  cases a with
  | own y =>
    rw [Machine.Possible, head] at possible
    cases possible
  | invoke is =>
    cases possible with
    | operation holds other | setRemote holds other =>
      rw [head] at holds
      cases holds
      rw [counts] at other
      cases other
  | answer c' r =>
    obtain ⟨holds, -⟩ := possible
    rw [head] at holds
    cases holds
    exact ⟨r, rfl⟩

lemma planned_of_possible (head : m.agenda = .held c :: rest) (other : c.isCount = false)
    (possible : Machine.Possible CallsBack m a) (planned : AsPlanned plan before m a) :
    a = plan before m.state.view c := by
  have chosen : shown (sees (m, a)) = [.chosen m.state.view c a] := by
    cases a with
    | own y =>
      rw [Machine.Possible, head] at possible
      cases possible
    | invoke is | answer c' r => simp [sees, choice, head, other, shown, Seen.isCounted]
  rw [AsPlanned, chosen] at planned
  exact planned.1

lemma reply_unique (counts : c.isCount = true) (r r' : c.Reply) : r = r' := by
  cases c with
  | conn p =>
    cases p with
    | countRead len | flushRead | flushWritten => rfl
    | _ => cases counts
  | hook k => cases counts

/-- By one plan, one thing is done. -/
lemma deed_unique (possible₁ : Machine.Possible CallsBack m a₁)
    (possible₂ : Machine.Possible CallsBack m a₂) (planned₁ : AsPlanned plan before m a₁)
    (planned₂ : AsPlanned plan before m a₂) : a₁ = a₂ := by
  cases head : m.agenda with
  | nil =>
    cases a₁ with
    | own y => simp [Machine.Possible, head] at possible₁
    | invoke is =>
      cases possible₁ with
      | operation holds | setRemote holds => simp [head] at holds
    | answer c r => simp [Machine.Possible, head] at possible₁
  | cons x rest =>
    cases x with
    | todo x => rw [own_of_possible head possible₁, own_of_possible head possible₂]
    | held c =>
      cases counts : c.isCount with
      | true =>
        obtain ⟨r₁, rfl⟩ := answer_of_possible head counts possible₁
        obtain ⟨r₂, rfl⟩ := answer_of_possible head counts possible₂
        rw [reply_unique counts r₁ r₂]
      | false =>
        rw [planned_of_possible head counts possible₁ planned₁,
          planned_of_possible head counts possible₂ planned₂]

/-- At rest nothing is done but by a script. -/
lemma nothing_at_rest (rests : m.agenda = []) : ¬ Machine.Possible CallsBack m a := by
  intro possible
  cases a with
  | own y => simp [Machine.Possible, rests] at possible
  | invoke is =>
    cases possible with
    | operation holds | setRemote holds => simp [rests] at holds
  | answer c r => simp [Machine.Possible, rests] at possible

lemma unfolds_unique (run₁ : Unfolds m h₁ m₁) (run₂ : Unfolds m h₂ m₂) (rests₁ : m₁.agenda = [])
    (rests₂ : m₂.agenda = []) (by_plan₁ : ByPlan plan before (shown (disclosed h₁)))
    (by_plan₂ : ByPlan plan before (shown (disclosed h₂))) : h₁ = h₂ ∧ m₁ = m₂ := by
  induction h₁ generalizing m before h₂ with
  | nil =>
    obtain rfl := run₁.eq_of_nil
    cases h₂ with
    | nil => exact ⟨rfl, run₂.eq_of_nil.symm⟩
    | cons b h₂ =>
      obtain ⟨-, m', move, -⟩ := run₂.uncons
      exact absurd (Machine.move_iff.mp move).1 (nothing_at_rest rests₁)
  | cons b₁ h₁ ih =>
    rcases b₁ with ⟨n₁, a₁⟩
    obtain ⟨at_m, m', move₁, later₁⟩ := run₁.uncons
    obtain rfl : n₁ = m := at_m
    cases h₂ with
    | nil =>
      obtain rfl := run₂.eq_of_nil
      exact absurd (Machine.move_iff.mp move₁).1 (nothing_at_rest rests₂)
    | cons b₂ h₂ =>
      rcases b₂ with ⟨n₂, a₂⟩
      obtain ⟨at_m, m'', move₂, later₂⟩ := run₂.uncons
      obtain rfl : n₂ = n₁ := at_m
      obtain ⟨possible₁, rfl⟩ := Machine.move_iff.mp move₁
      obtain ⟨possible₂, rfl⟩ := Machine.move_iff.mp move₂
      rw [disclosed_cons, shown_append, byPlan_append] at by_plan₁ by_plan₂
      obtain rfl := deed_unique possible₁ possible₂ by_plan₁.1 by_plan₂.1
      obtain ⟨rfl, rfl⟩ := ih later₁ later₂ by_plan₁.2 by_plan₂.2
      exact ⟨rfl, rfl⟩

/-- By one plan, a script is played in one way. -/
theorem plays_unique {script : List (List (StreamInstr η))} {e₁ e₂ : Endpoint η}
    (plays₁ : Plays e script h₁ e₁) (plays₂ : Plays e script h₂ e₂)
    (by_plan₁ : ByPlan plan before (shown (disclosed h₁)))
    (by_plan₂ : ByPlan plan before (shown (disclosed h₂))) : h₁ = h₂ ∧ e₁ = e₂ := by
  induction plays₁ generalizing before h₂ with
  | done =>
    cases plays₂
    exact ⟨rfl, rfl⟩
  | next turn₁ _ ih =>
    cases plays₂ with
    | next turn₂ later₂ =>
      rw [disclosed_cons, sees_idle, List.nil_append, disclosed_append, shown_append, byPlan_append]
        at by_plan₁ by_plan₂
      obtain ⟨rfl, same⟩ := unfolds_unique turn₁ turn₂ rfl rfl by_plan₁.1 by_plan₂.1
      obtain rfl := congrArg Machine.state same
      obtain ⟨rfl, rfl⟩ := ih later₂ by_plan₁.2 by_plan₂.2
      exact ⟨rfl, rfl⟩

end Endpoint

end StreamControl
