import StreamControl.Proofs.StreamFunnel
import StreamControl.Proofs.StreamSides

/-!
# Each direction for itself

Let operations of both directions be called on the loop of a stream, in any order, with surroundings
that answer and do nothing else. Each direction then goes as if the operations of the other one had
not been called: the same is made known of it in the same order, and it comes to the same.
-/

namespace StreamControl

/-- What a stream makes known, apart from what there is to see of its state. -/
inductive Emission (η : Type) where
  | call (c : StreamCall η)
  | note (n : StreamNote)

/-- A list is made up of two others, each in its order. -/
inductive Interleaved {α : Type} : List α → List α → List α → Prop
  | nil : Interleaved [] [] []
  | left (x : α) {l r k : List α} (later : Interleaved l r k) : Interleaved (x :: l) r (x :: k)
  | right (x : α) {l r k : List α} (later : Interleaved l r k) : Interleaved l (x :: r) (x :: k)

namespace Interleaved

variable {α : Type} {l r k : List α} {p : α → Bool}

lemma symm (interleaved : Interleaved l r k) : Interleaved r l k := by
  induction interleaved with
  | nil => exact .nil
  | left x _ ih => exact .right x ih
  | right x _ ih => exact .left x ih

lemma mem (interleaved : Interleaved l r k) {x : α} (member : x ∈ k) : x ∈ l ∨ x ∈ r := by
  induction interleaved with
  | nil => cases member
  | left y _ ih | right y _ ih =>
    rcases List.mem_cons.mp member with rfl | member
    · simp
    · rcases ih member with left | right
      · simp [left]
      · simp [right]

/-- What tells the two lists apart takes them out again. -/
lemma filter_left (interleaved : Interleaved l r k) (all : ∀ x ∈ l, p x = true)
    (none : ∀ x ∈ r, p x = false) : k.filter p = l := by
  induction interleaved with
  | nil => rfl
  | left x _ ih =>
    rw [List.forall_mem_cons] at all
    rw [List.filter_cons_of_pos all.1, ih all.2 none]
  | right x _ ih =>
    rw [List.forall_mem_cons] at none
    rw [List.filter_cons_of_neg (Bool.eq_false_iff.mp none.1), ih all none.2]

end Interleaved

def Direction.ownsEmission {η : Type} (d : Direction) : Emission η → Bool
  | .call c => d.ownsCall c
  | .note n => d.ownsNote n && n.settles

namespace Endpoint

variable {η : Type} {d : Direction} {e e₁ e₂ e' : Endpoint η} {i : StreamInstr η}
  {rest : Agenda η} {out : List (StreamTodo η)} {es es' : List (Emission η)} {k : List (Hook η)}
  {consumer : List (Hook η) → Outcome} {h h₁ h₂ : Past η} {script : List (Operation η)}
  {op : Operation η} {before s : List (Seen η)} {owner : Thread}

def emits : Seen η → List (Emission η)
  | .counted c | .called _ c => [.call c]
  | .settled _ n => [.note n]
  | .chosen .. => []

def emitted (h : Past η) : List (Emission η) := (disclosed h).flatMap emits

/-! ## Surroundings that only answer -/

/-- The consumer hears of what is received. -/
def hears : StreamCall η → List (Hook η)
  | .hook k => if k.isReceiving then [k] else []
  | _ => []

def hooksHeard (s : List (Seen η)) : List (Hook η) := s.flatMap fun
  | .called _ c => hears c
  | _ => []

def heardOf (es : List (Emission η)) : List (Hook η) := es.flatMap fun
  | .call c => hears c
  | .note _ => []

/-- Every call is answered, and that is all. How the consumer takes an item is up to what it has
heard so far. -/
def answering (consumer : List (Hook η) → Outcome) : Plan η :=
  fun before _ c => .answer c (plainly true (consumer (hooksHeard before)) c)

section Views

variable (b : Live η × Deed η) (h h' : Past η) (s s' : List (Seen η))

@[simp] lemma emitted_cons : emitted (b :: h) = (sees b).flatMap emits ++ emitted h := by
  simp [emitted]

@[simp] lemma emitted_append : emitted (h ++ h') = emitted h ++ emitted h' := by simp [emitted]

@[simp] lemma hooksHeard_append : hooksHeard (s ++ s') = hooksHeard s ++ hooksHeard s' :=
  List.flatMap_append

@[simp] lemma heardOf_append (es es' : List (Emission η)) :
    heardOf (es ++ es') = heardOf es ++ heardOf es' := List.flatMap_append

end Views

/-- A machine comes to this by itself and makes this known, whatever belongs to the other direction
and whatever it made known before. -/
def Comes (d : Direction) (consumer : List (Hook η) → Outcome) (k : List (Hook η)) (m : Live η)
    (es : List (Emission η)) (e' : Endpoint η) : Prop :=
  ∀ e₀ before, (d = .inward → hooksHeard before = k) →
    ∃ h, Unfolds ⟨mixed d m.state e₀, m.agenda⟩ h (.idle (mixed d e' e₀)) ∧
      ByPlan (answering consumer) before (shown (disclosed h)) ∧ emitted h = es

lemma comes_idle : Comes d consumer k (.idle e) [] e := fun _ _ _ => ⟨[], .start, trivial, rfl⟩

lemma comes_work {n : Nat} (sided : Sided d (exec i) e n)
    (later : Comes d consumer k ⟨(exec i e).1, (exec i e).2.map .todo ++ rest⟩ es e') :
    Comes d consumer k ⟨e, .todo (.work i) :: rest⟩ es e' := by
  intro e₀ before listened
  obtain ⟨h, run, by_plan, same⟩ := later e₀ before listened
  refine ⟨(⟨mixed d e e₀, .todo (.work i) :: rest⟩, .own (.work i)) :: h, ?_, by_plan, same⟩
  have move : Machine.Move component CallsBack ⟨mixed d e e₀, .todo (.work i) :: rest⟩
      (.own (.work i)) ⟨(exec i (mixed d e e₀)).1, (exec i (mixed d e e₀)).2.map .todo ++ rest⟩ :=
    .work (mixed d e e₀) i rest
  rw [sided.commutes] at move
  exact run.cons move

/-- What is made known by a note. -/
def noteEmission (n : StreamNote) : List (Emission η) := if n.settles then [.note n] else []

lemma comes_note {n : StreamNote} (later : Comes d consumer k ⟨e, rest⟩ es e') :
    Comes d consumer k ⟨e, .todo (.note n) :: rest⟩ (noteEmission n ++ es) e' := by
  intro e₀ before listened
  cases settles : n.settles with
  | false =>
    obtain ⟨h, run, by_plan, same⟩ := later e₀ before listened
    refine ⟨_, run.cons (.note _ n rest), ?_, ?_⟩
    · simpa [sees, settles] using by_plan
    · simp [sees, settles, noteEmission, same]
  | true =>
    obtain ⟨h, run, by_plan, same⟩ := later e₀ (before ++ [.settled (mixed d e e₀).view n])
      (by simpa [hooksHeard] using listened)
    refine ⟨_, run.cons (.note _ n rest), ?_, ?_⟩
    · simpa [sees, settles, shown, Seen.isCounted, ByPlan, Seen.Accords] using by_plan
    · simp [sees, settles, noteEmission, same, emits]

lemma resume_outward {c : StreamCall η} (owned : Direction.outward.ownsCall c = true)
    (r : c.Reply) : resume c r = [] := by
  cases c with
  | conn p => cases p <;> first | (cases owned; done) | rfl
  | hook k => cases k <;> first | (cases owned; done) | rfl

lemma hears_count {c : StreamCall η} (counts : c.isCount = true) : hears c = [] := by
  cases c with
  | conn p => rfl
  | hook k => cases counts

/-- A call is made and answered. -/
lemma comes_call {c : StreamCall η} (owned : d.ownsCall c = true)
    (later : Comes d consumer (k ++ hears c)
      ⟨e, (resume c (plainly true (consumer (k ++ hears c)) c)).map .todo ++ rest⟩ es e') :
    Comes d consumer k ⟨e, .todo (.call c) :: rest⟩ (.call c :: es) e' := by
  intro e₀ before listened
  have same_way : resume c (plainly true (consumer (hooksHeard before ++ hears c)) c) =
      resume c (plainly true (consumer (k ++ hears c)) c) := by
    cases d with
    | inward => rw [listened rfl]
    | outward => rw [resume_outward owned, resume_outward owned]
  have calls : Machine.Move component CallsBack ⟨mixed d e e₀, .todo (.call c) :: rest⟩
      (.own (.call c)) ⟨mixed d e e₀, .held c :: rest⟩ := .call _ c rest
  have answers : Machine.Move component CallsBack ⟨mixed d e e₀, .held c :: rest⟩
      (.answer c (plainly true (consumer (hooksHeard before ++ hears c)) c))
      ⟨mixed d e e₀,
        (resume c (plainly true (consumer (hooksHeard before ++ hears c)) c)).map .todo ++ rest⟩ :=
    .reply _ c rest (plainly true (consumer (hooksHeard before ++ hears c)))
  rw [same_way] at answers
  cases counts : c.isCount with
  | true =>
    obtain ⟨h, run, by_plan, same⟩ := later e₀ before fun inward => by
      rw [listened inward, hears_count counts, List.append_nil]
    refine ⟨_, .cons calls (.cons answers run), ?_, ?_⟩
    · simpa [sees, choice, counts, shown, Seen.isCounted] using by_plan
    · simp [sees, choice, counts, emits, same]
  | false =>
    obtain ⟨h, run, by_plan, same⟩ := later e₀
      (before ++ [.called (mixed d e e₀).view c, .chosen (mixed d e e₀).view c
        (.answer c (plainly true (consumer (hooksHeard before ++ hears c)) c))])
      fun inward => by simp [hooksHeard, ← listened inward]
    refine ⟨_, .cons calls (.cons answers run), ?_, ?_⟩
    · simpa [sees, choice, counts, shown, Seen.isCounted, ByPlan, Seen.Accords, answering,
        hooksHeard] using by_plan
    · simp [sees, choice, counts, emits, same]

/-! ## The work of one direction -/

lemma mixed_trans (first : e₁ = mixed d e e₁) (second : e₂ = mixed d e₁ e₂) :
    e₂ = mixed d e e₂ := by
  rw [first, mixed_mixed] at second
  exact second

lemma isWithin_resume (c : StreamCall η) (r : c.Reply) :
    ∀ x ∈ resume c r, IsWithin owner (.todo x) := by
  cases c with
  | conn p => cases p <;> simp [resume, IsWithin]
  | hook k => cases k <;> simp [resume, IsWithin]

lemma load_pos (x : StreamTodo η) : 0 < load x := by
  unfold load
  split <;> first | omega | skip
  · unfold inboxLoad
    split <;> omega
  · unfold outboxLoad
    split <;> omega

/-- Work of one direction comes to an end, and it is all the same what belongs to the other one. -/
lemma comes_of_owned (owned : ∀ x ∈ out, d.owns x = true)
    (within : Within owner ⟨e, out.map .todo⟩) (k : List (Hook η)) :
    ∃ es e', Comes d consumer k ⟨e, out.map .todo⟩ es e' ∧
      (∀ x ∈ es, d.ownsEmission x = true) ∧ e' = mixed d.other e e' := by
  -- By how much is left to do: whatever is done leaves less of it.
  induction hn : loads out + waiting e using Nat.strongRecOn generalizing out e k with
  | ind n ih =>
    subst hn
    cases out with
    | nil => exact ⟨[], e, comes_idle, by simp, (mixed_self e).symm⟩
    | cons x out =>
      rw [List.forall_mem_cons] at owned
      cases x with
      | work i =>
        have here : IsWithin e.thread (.todo (.work i)) := by
          rw [show e.thread = owner from within.at_owner]
          exact within.all _ List.mem_cons_self
        have on_loop : e.onLoop = true := by
          have owned_by : e.loop.owner = owner := within.owned
          have at_owner : e.thread = owner := within.at_owner
          simp [onLoop, TaskLoop.ownedBy, owned_by, at_owner]
        have sided := sided_exec owned.1 here on_loop
        have still := (within_work within).1
        have less := sided.less
        rw [← List.map_append] at still
        obtain ⟨es, e', later, all_owned, own⟩ := ih _ (by simp; omega)
          (List.forall_mem_append.mpr ⟨sided.owned, owned.2⟩) still k rfl
        rw [List.map_append] at later
        exact ⟨es, e', comes_work sided later, all_owned, mixed_trans sided.own_part own⟩
      | call c =>
        have owned_call : d.ownsCall c = true := by cases d <;> exact owned.1
        have answered := sided_resume owned_call
          (plainly true (consumer (k ++ hears c)) c)
        have less := answered.2
        have still := within.append (isWithin_resume c (plainly true (consumer (k ++ hears c)) c))
          rfl rfl
        rw [← List.map_append] at still
        obtain ⟨es, e', later, all_owned, own⟩ := ih _ (by simp; omega)
          (List.forall_mem_append.mpr ⟨answered.1, owned.2⟩) still (k ++ hears c) rfl
        rw [List.map_append] at later
        exact ⟨_, e', comes_call owned_call later, List.forall_mem_cons.mpr ⟨owned_call, all_owned⟩,
          own⟩
      | note n =>
        have still : Within owner ⟨e, out.map .todo⟩ :=
          ⟨within.owned, within.at_owner, fun y hy => within.all y (List.mem_cons_of_mem _ hy)⟩
        obtain ⟨es, e', later, all_owned, own⟩ := ih _ (by simp [load_pos]) owned.2 still k rfl
        refine ⟨_, e', comes_note later, List.forall_mem_append.mpr ⟨?_, all_owned⟩, own⟩
        have owned_note : d.ownsNote n = true := by cases d <;> exact owned.1
        unfold noteEmission
        split
        · rename_i settles
          simp [Direction.ownsEmission, owned_note, settles]
        · simp

/-! ## Scripts of both directions -/

lemma ownsOperation_other (owned : d.ownsOperation op = true) :
    d.other.ownsOperation op = false := by
  cases d <;> cases op <;> first | rfl | cases owned

lemma isOnLoop_of_owned (owned : d.ownsOperation op = true) : op.isOnLoop = false := by
  cases d <;> cases op <;> first | rfl | cases owned

lemma ownsEmission_other {x : Emission η} (owned : d.ownsEmission x = true) :
    d.other.ownsEmission x = false := by
  cases x with
  | call c =>
    cases d with
    | inward | outward =>
      cases c with
      | conn p => cases p <;> first | rfl | cases owned
      | hook k => cases k <;> first | rfl | cases owned
  | note n => cases d <;> cases n <;> first | rfl | cases owned

lemma heardOf_outward (owned : ∀ x ∈ es, Direction.outward.ownsEmission x = true) :
    heardOf es = [] := by
  rw [heardOf, List.flatMap_eq_nil_iff]
  intro x hx
  have owned := owned x hx
  cases x with
  | call c =>
    cases c with
    | conn p => rfl
    | hook k => cases k <;> first | rfl | cases owned
  | note n => rfl

lemma choice_unheard (v : View η) (a : Deed η) (agenda : Agenda η) :
    hooksHeard (shown (choice v a agenda)) = heardOf ((choice v a agenda).flatMap emits) := by
  unfold choice
  split
  · split <;> rfl
  · rfl

lemma heard_sees (b : Live η × Deed η) :
    hooksHeard (shown (sees b)) = heardOf ((sees b).flatMap emits) := by
  rcases b with ⟨m, (i | c | n) | is | ⟨c, r⟩⟩
  · rfl
  · cases counts : c.isCount with
    | true =>
      simp [sees, counts, shown, Seen.isCounted, hooksHeard, emits, heardOf, hears_count counts]
    | false => simp [sees, counts, shown, Seen.isCounted, hooksHeard, emits, heardOf]
  · cases settles : n.settles <;>
      simp [sees, settles, shown, Seen.isCounted, hooksHeard, emits, heardOf]
  · exact choice_unheard _ _ _
  · exact choice_unheard _ _ _

lemma hooksHeard_disclosed (h : Past η) :
    hooksHeard (shown (disclosed h)) = heardOf (emitted h) := by
  induction h with
  | nil => rfl
  | cons b h ih => simp [heard_sees, ih]

/-- A script is played to its end, one operation after the other on the loop's thread, and this is
made known. -/
def Unrolls (consumer : List (Hook η) → Outcome) (owner : Thread) (before : List (Seen η))
    (e : Endpoint η) (script : List (Operation η)) (es : List (Emission η)) (e' : Endpoint η) :
    Prop :=
  ∃ h, Plays e (calledOn owner script) h e' ∧
    ByPlan (answering consumer) before (shown (disclosed h)) ∧ emitted h = es

lemma unrolls_nil : Unrolls consumer owner before e [] [] e := ⟨[], .done, trivial, rfl⟩

lemma unrolls_cons
    (turn : ∃ h, Unfolds ((Machine.idle e).invoke [.enter owner op]) h (.idle e₁) ∧
      ByPlan (answering consumer) before (shown (disclosed h)) ∧ emitted h = es)
    (later : ∀ before', hooksHeard before' = hooksHeard before ++ heardOf es →
      Unrolls consumer owner before' e₁ script es' e') :
    Unrolls consumer owner before e (op :: script) (es ++ es') e' := by
  obtain ⟨h, run, by_plan, rfl⟩ := turn
  obtain ⟨h', plays, by_plan', rfl⟩ :=
    later (before ++ shown (disclosed h)) (by simp [hooksHeard_disclosed])
  refine ⟨_, .next run plays, ?_, ?_⟩
  · rw [disclosed_cons, sees_idle, List.nil_append, disclosed_append, shown_append, byPlan_append]
    exact ⟨by_plan, by_plan'⟩
  · simp [sees_idle]

/-- An operation of one direction makes known what is of it, and changes nothing else. -/
lemma comes_of_operation (consumer : List (Hook η) → Outcome) (k : List (Hook η))
    (owned : d.ownsOperation op = true) (at_owner : e.thread = owner)
    (owned_by : e.loop.owner = owner) :
    ∃ es e', Comes d consumer k ((Machine.idle e).invoke [.enter owner op]) es e' ∧
      (∀ x ∈ es, d.ownsEmission x = true) ∧ e' = mixed d.other e e' := by
  have owned_call : ∀ x ∈ [(.work (.enter owner op) : StreamTodo η)], d.owns x = true := by
    rw [List.forall_mem_singleton]
    cases d <;> exact owned
  have within : Within owner ⟨e, [(.work (.enter owner op) : StreamTodo η)].map .todo⟩ := by
    refine ⟨owned_by, at_owner, ?_⟩
    rw [List.map_singleton, List.forall_mem_singleton]
    exact ⟨rfl, isOnLoop_of_owned owned⟩
  exact comes_of_owned owned_call within k

lemma mixed_of_own (own : e₁ = mixed d.other e e₁) : mixed d e₁ e = e₁ := by
  rw [own]
  cases d <;> rfl

lemma mixed_other (own : e₁ = mixed d.other e e₁) (e₀ : Endpoint η) :
    mixed d.other e₁ e₀ = mixed d.other e e₀ := by
  rw [own, mixed_mixed]

/-- A script of both directions is played to its end. Of each direction this makes known, and comes
to, what its operations alone make known and come to, whatever belongs to the other direction. -/
lemma unrolls_apart (consumer : List (Hook η) → Outcome) (k : List (Hook η))
    (at_owner : e.thread = owner) (owned_by : e.loop.owner = owner)
    (sided : ∀ op ∈ script, ∃ d : Direction, d.ownsOperation op = true) :
    ∃ es e', (∀ before, hooksHeard before = k → Unrolls consumer owner before e script es e') ∧
      (∀ x ∈ es, ∃ d : Direction, d.ownsEmission x = true) ∧
      ∀ d e₀ before, (d = .inward → hooksHeard before = k) →
        Unrolls consumer owner before (mixed d e e₀) (script.filter d.ownsOperation)
          (es.filter d.ownsEmission) (mixed d e' e₀) := by
  induction script generalizing e k with
  | nil =>
    exact ⟨[], e, fun before _ => unrolls_nil, by simp, fun d e₀ before _ => unrolls_nil⟩
  | cons op script ih =>
    rw [List.forall_mem_cons] at sided
    obtain ⟨⟨d₀, owned⟩, sided⟩ := sided
    obtain ⟨es₁, e₁, turn, all_owned, own⟩ :=
      comes_of_operation consumer k owned at_owner owned_by
    have at_owner₁ : e₁.thread = owner := by rw [own]; cases d₀ <;> exact at_owner
    have owned_by₁ : e₁.loop.owner = owner := by rw [own]; cases d₀ <;> exact owned_by
    obtain ⟨es, e', whole, all_sided, apart⟩ := ih (k ++ heardOf es₁) at_owner₁ owned_by₁ sided
    refine ⟨es₁ ++ es, e', fun before listened => ?_, ?_, fun d e₀ before listened => ?_⟩
    · have alone : ∃ h, Unfolds ((Machine.idle (mixed d₀ e e)).invoke [.enter owner op]) h
          (.idle (mixed d₀ e₁ e)) ∧ ByPlan (answering consumer) before (shown (disclosed h)) ∧
            emitted h = es₁ := turn e before fun _ => listened
      rw [mixed_self, mixed_of_own own] at alone
      exact unrolls_cons alone fun before' more => whole before' (by rw [more, listened])
    · rw [List.forall_mem_append]
      exact ⟨fun x hx => ⟨d₀, all_owned x hx⟩, all_sided⟩
    rw [List.filter_append]
    by_cases same : d = d₀
    · subst same
      rw [List.filter_cons_of_pos owned, List.filter_eq_self.mpr all_owned]
      refine unrolls_cons (turn e₀ before listened) fun before' more => ?_
      exact apart d e₀ before' fun inward => by rw [more, listened inward]
    · -- The operation is the other direction's, and leaves this one as it was.
      obtain rfl : d = d₀.other := by cases d <;> cases d₀ <;> first | rfl | exact absurd rfl same
      have dropped : es₁.filter d₀.other.ownsEmission = [] :=
        List.filter_eq_nil_iff.mpr fun x hx =>
          Bool.eq_false_iff.mp (ownsEmission_other (all_owned x hx))
      rw [List.filter_cons_of_neg (Bool.eq_false_iff.mp (ownsOperation_other owned)), dropped,
        List.nil_append, ← mixed_other own]
      refine apart d₀.other e₀ before fun inward => ?_
      obtain rfl : d₀ = .outward := by cases d₀ <;> first | rfl | cases inward
      rw [listened inward, heardOf_outward all_owned, List.append_nil]

/-! ## Whatever thread is returned to -/

/-- What is done for an operation does not depend on the thread it returns to. -/
lemma yields_elsewhere (t₀ : Thread) (at_owner : e.thread = owner) (owned_by : e.loop.owner = owner)
    (plain : op.isOnLoop = false) (turn : Yields (e.calling owner op) s e') :
    Yields ((e.atThread t₀).calling owner op) s (e'.atThread t₀) := by
  have entered (t : Thread) : exec (.enter owner op) (e.atThread t) =
      ((begin e op).1, (begin e op).2 ++ [.work (.leave t)]) := by
    have back : (e.atThread t).atThread owner = e := by rw [← at_owner]; rfl
    simp only [exec, show ({ e.atThread t with thread := owner } : Endpoint η) = e from back]
    rfl
  have within : Within owner ⟨(begin e op).1, (begin e op).2.map .todo⟩ :=
    { owned := (congrArg TaskLoop.owner (begin_loop e op)).trans owned_by
      at_owner := (begin_thread e op).trans at_owner
      all := List.forall_mem_map.mpr (isWithin_begin plain e) }
  have returning (t : Thread) (s : List (Seen η)) (e' : Endpoint η) :
      Yields ((e.atThread t).calling owner op) s e' ↔ ∃ s₁ s₂ e₁,
        Yields ⟨(begin e op).1, (begin e op).2.map .todo⟩ s₁ e₁ ∧
          Yields ⟨e₁.withLoop (begin e op).1.loop, [.todo (.work (.leave t))]⟩ s₂ e' ∧
          s = s₁ ++ s₂ := by
    rw [calling, yields_work, entered, List.append_nil, List.map_append]
    exact yields_framed within within.owned
  obtain ⟨s₁, s₂, e₁, first, second, rfl⟩ := (returning e.thread _ _).mp turn
  obtain ⟨rfl, rfl⟩ := yields_leave.mp second
  exact (returning t₀ _ _).mpr ⟨s₁, [], e₁, first, yields_leave.mpr ⟨rfl, rfl⟩, rfl⟩

lemma shows_elsewhere (t₀ : Thread) (at_owner : e.thread = owner) (owned_by : e.loop.owner = owner)
    (plain : ∀ op ∈ script, op.isOnLoop = false) (shows : Shows e (calledOn owner script) s e') :
    Shows (e.atThread t₀) (calledOn owner script) s (e'.atThread t₀) := by
  induction script generalizing e s with
  | nil =>
    obtain ⟨rfl, rfl⟩ := shows_nil.mp shows
    exact shows_nil.mpr ⟨rfl, rfl⟩
  | cons op script ih =>
    rw [List.forall_mem_cons] at plain
    obtain ⟨s₁, s₂, e₁, turn, later, rfl⟩ := shows_cons.mp shows
    obtain ⟨h, run, rfl⟩ := turn
    have called : Within owner (e.calling owner op) :=
      ⟨owned_by, at_owner, List.forall_mem_singleton.mpr ⟨rfl, plain.1⟩⟩
    have still := (within_of_unfolds called run).1
    exact shows_cons.mpr ⟨_, s₂, _,
      yields_elsewhere t₀ at_owner owned_by plain.1 ⟨h, run, rfl⟩,
      ih still.at_owner still.owned plain.2 later, rfl⟩

lemma unrolls_elsewhere (t₀ : Thread) (at_owner : e.thread = owner)
    (owned_by : e.loop.owner = owner) (plain : ∀ op ∈ script, op.isOnLoop = false)
    (unrolls : Unrolls consumer owner before e script es e') :
    Unrolls consumer owner before (e.atThread t₀) script es (e'.atThread t₀) := by
  obtain ⟨h, plays, by_plan, rfl⟩ := unrolls
  obtain ⟨h', plays', same⟩ := shows_elsewhere t₀ at_owner owned_by plain ⟨h, plays, rfl⟩
  exact ⟨h', plays', same ▸ by_plan, by rw [emitted, emitted, same]⟩

/-! ## Interleavings -/

/-- Operations of both directions were interleaved; of each direction, this made known and came to
what its operations make known and come to alone. -/
structure Undisturbed (h : Past η) (e' : Endpoint η) (h₁ : Past η) (e₁ : Endpoint η) (h₂ : Past η)
    (e₂ : Endpoint η) : Prop where
  received : (emitted h).filter Direction.inward.ownsEmission = emitted h₁
  inbox : e'.stream.inbox = e₁.stream.inbox
  bytesRead : e'.stream.bytesRead = e₁.stream.bytesRead
  submitted : (emitted h).filter Direction.outward.ownsEmission = emitted h₂
  outbox : e'.stream.outbox = e₂.stream.outbox
  writable : e'.stream.writable = e₂.stream.writable
  priority : e'.stream.priority = e₂.stream.priority
  bytesWritten : e'.stream.bytesWritten = e₂.stream.bytesWritten
  finSent : e'.stream.finSent = e₂.stream.finSent
  /-- What is made known is of one of the directions. -/
  nothing_else : ∀ x ∈ emitted h, ∃ d : Direction, d.ownsEmission x = true

/-- Whatever is called on the loop of what is received and what is sent is played to its end, in
whatever order. Each direction goes as if the operations of the other one had not been called. -/
theorem undisturbed_of_interleaved {ins outs : List (Operation η)}
    (receiving : ∀ op ∈ ins, op.isReceiving = true) (sending : ∀ op ∈ outs, op.isSending = true)
    (interleaved : Interleaved ins outs script) (consumer : List (Hook η) → Outcome) :
    (∃ h e', PlaysBy (answering consumer) e (calledOn e.loop.owner script) h e') ∧
    (∃ h₁ e₁, PlaysBy (answering consumer) e (calledOn e.loop.owner ins) h₁ e₁) ∧
    (∃ h₂ e₂, PlaysBy (answering consumer) e (calledOn e.loop.owner outs) h₂ e₂) ∧
    ∀ h e' h₁ e₁ h₂ e₂, PlaysBy (answering consumer) e (calledOn e.loop.owner script) h e' →
      PlaysBy (answering consumer) e (calledOn e.loop.owner ins) h₁ e₁ →
      PlaysBy (answering consumer) e (calledOn e.loop.owner outs) h₂ e₂ →
      Undisturbed h e' h₁ e₁ h₂ e₂ := by
  have own_ins : script.filter Direction.inward.ownsOperation = ins :=
    interleaved.filter_left receiving fun op member =>
      ownsOperation_other (d := .outward) (sending op member)
  have own_outs : script.filter Direction.outward.ownsOperation = outs :=
    interleaved.symm.filter_left sending fun op member =>
      ownsOperation_other (d := .inward) (receiving op member)
  have sided : ∀ op ∈ script, ∃ d : Direction, d.ownsOperation op = true := fun op member =>
    (interleaved.mem member).elim (fun h => ⟨.inward, receiving op h⟩)
      fun h => ⟨.outward, sending op h⟩
  have plain : ∀ op ∈ script, op.isOnLoop = false := fun op member =>
    (sided op member).elim fun _ => isOnLoop_of_owned
  obtain ⟨es, b', whole, all_sided, apart⟩ :=
    unrolls_apart (e := e.atThread e.loop.owner) consumer [] rfl rfl sided
  have inward := apart .inward (e.atThread e.loop.owner) [] fun _ => rfl
  have outward := apart .outward (e.atThread e.loop.owner) [] nofun
  rw [mixed_self, own_ins] at inward
  rw [mixed_self, own_outs] at outward
  -- On the loop's own thread this is so; then it is so from the thread the stream is on.
  obtain ⟨h, plays, by_plan, rfl⟩ := unrolls_elsewhere e.thread rfl rfl plain (whole [] rfl)
  obtain ⟨h₁, plays₁, by_plan₁, emitted₁⟩ := unrolls_elsewhere e.thread rfl rfl
    (fun op member => isOnLoop_of_owned (d := .inward) (receiving op member)) inward
  obtain ⟨h₂, plays₂, by_plan₂, emitted₂⟩ := unrolls_elsewhere e.thread rfl rfl
    (fun op member => isOnLoop_of_owned (d := .outward) (sending op member)) outward
  refine ⟨⟨h, _, plays, by_plan⟩, ⟨h₁, _, plays₁, by_plan₁⟩, ⟨h₂, _, plays₂, by_plan₂⟩, ?_⟩
  intro h' e' h₁' e₁' h₂' e₂' both alone₁ alone₂
  obtain ⟨rfl, rfl⟩ := plays_unique plays both.plays by_plan both.by_plan
  obtain ⟨rfl, rfl⟩ := plays_unique plays₁ alone₁.plays by_plan₁ alone₁.by_plan
  obtain ⟨rfl, rfl⟩ := plays_unique plays₂ alone₂.plays by_plan₂ alone₂.by_plan
  exact
    { received := emitted₁.symm
      inbox := rfl
      bytesRead := rfl
      submitted := emitted₂.symm
      outbox := rfl
      writable := rfl
      priority := rfl
      bytesWritten := rfl
      finSent := rfl
      nothing_else := all_sided }

/-- An operation on the loop, with a consumer that takes nothing. -/
def refusedTurn (e : Endpoint Nat) (op : Operation Nat) : Past Nat × Live Nat :=
  Machine.drive component 40 (List.replicate 4 (.reply (plainly true (.failure .closed))))
    (e.calling 0 op)

def fetchedData : List (Operation Nat) := [.pause, .data ⟨#[7, 8]⟩, .fetch 1]

def delayedWrite : List (Operation Nat) :=
  [.toggleWritable, .writeData (some ⟨#[5]⟩) true 1, .toggleWritable]

def fetchedAndDelayed : List (Operation Nat) :=
  [.pause, .toggleWritable, .data ⟨#[7, 8]⟩, .writeData (some ⟨#[5]⟩) true 1, .toggleWritable,
    .fetch 1]

/-- A write waits for its stream to become writable while data waits to be fetched. -/
theorem undisturbed_fetchedAndDelayed :
    (∀ op ∈ fetchedData, op.isReceiving = true) ∧ (∀ op ∈ delayedWrite, op.isSending = true) ∧
      Interleaved fetchedData delayedWrite fetchedAndDelayed ∧
      ∃ h e', PlaysBy (answering fun _ => .failure .closed) allocatedBefore
          (calledOn 0 fetchedAndDelayed) h e' ∧
        (emitted h).filter Direction.inward.ownsEmission =
          [.call (.conn (.countRead 2)), .call (.conn (.returnCredit 1 2)),
            .call (.hook (.data ⟨#[7, 8]⟩)), .call (.hook (.exception .closed))] ∧
        (emitted h).filter Direction.outward.ownsEmission =
          [.call (.conn (.countWritten 1)), .call (.conn (.sendData 1 ⟨#[5]⟩ true 1)),
            .call (.hook .finSent), .call (.hook .drained)] ∧
        e'.stream.bytesRead = 2 ∧ e'.stream.bytesWritten = 1 ∧ e'.stream.finSent = true := by
  have receiving : ∀ op ∈ fetchedData, op.isReceiving = true := by decide
  have sending : ∀ op ∈ delayedWrite, op.isSending = true := by decide
  have interleaved : Interleaved fetchedData delayedWrite fetchedAndDelayed :=
    .left _ (.right _ (.left _ (.right _ (.right _ (.left _ .nil)))))
  have turn (e : Endpoint Nat) (op : Operation Nat)
      (checked : (refusedTurn e op).1.all
        (fun b => b.2.asked?.all (isCallsBack b.1)) = true) :
      Unfolds (e.calling 0 op) (refusedTurn e op).1 (refusedTurn e op).2 :=
    Machine.drive_run (fun _ _ _ => callsBack_of_check) _ _ _ checked
  have alone₁ : PlaysBy (answering fun _ => .failure .closed) allocatedBefore
      (calledOn 0 fetchedData) _ _ :=
    { plays := .next (turn _ _ rfl) (.next (turn _ _ rfl) (.next (turn _ _ rfl) .done))
      by_plan := ⟨trivial, rfl, trivial, rfl, trivial, rfl, trivial⟩ }
  have alone₂ : PlaysBy (answering fun _ => .failure .closed) allocatedBefore
      (calledOn 0 delayedWrite) _ _ :=
    { plays := .next (turn _ _ rfl) (.next (turn _ _ rfl) (.next (turn _ _ rfl) .done))
      by_plan := ⟨trivial, rfl, trivial, rfl, trivial, rfl, trivial, rfl, trivial⟩ }
  obtain ⟨⟨h, e', both⟩, -, -, undisturbed⟩ :=
    undisturbed_of_interleaved receiving sending interleaved fun _ => .failure .closed
  have same := undisturbed h e' _ _ _ _ both alone₁ alone₂
  exact ⟨receiving, sending, interleaved, h, e', both, same.received, same.submitted,
    same.bytesRead, same.bytesWritten, same.finSent⟩

end Endpoint

end StreamControl
