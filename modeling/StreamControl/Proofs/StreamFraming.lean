import StreamControl.Proofs.StreamPlans
import StreamControl.Proofs.StreamThread

/-!
# What is below does not matter

On the loop's thread a stream does its work without a look at what its loop has pending, what the
loop's runner is doing, or what is left to do afterwards. So a job unfolds on any loop of one owner,
and above anything that is left to do, as it does by itself.
-/

namespace StreamControl.Endpoint

variable {η : Type} {owner : Thread} {m m' : Live η} {h : Past η} {a : Deed η}
  {rest agenda : Agenda η} {e e' : Endpoint η} {l : TaskLoop (Job η)} {i : StreamInstr η}
  {s : List (Seen η)}

def withLoop (e : Endpoint η) (l : TaskLoop (Job η)) : Endpoint η := { e with loop := l }

/-- A stream on another loop, with more left to do. -/
def framed (l : TaskLoop (Job η)) (rest : Agenda η) (m : Live η) : Live η :=
  ⟨m.state.withLoop l, m.agenda ++ rest⟩

/-- What is done on the loop's thread without the loop. -/
def IsWithin (owner : Thread) : Entry (StreamInstr η) (StreamCall η) StreamNote → Prop
  | .todo (.work (.enter t op)) => t = owner ∧ op.isOnLoop = false
  | .todo (.work (.leave t)) => t = owner
  | .todo (.work (.loop _)) => False
  | _ => True

/-- The owner of the loop is at work, and all that is left to do is done without the loop. -/
structure Within (owner : Thread) (m : Live η) : Prop where
  owned : m.state.loop.owner = owner
  at_owner : m.state.thread = owner
  all : ∀ x ∈ m.agenda, IsWithin owner x

/-! ## Instructions on another loop -/

section Instructions

variable (e : Endpoint η) (l : TaskLoop (Job η))

lemma reset_withLoop (code : Nat) :
    (e.withLoop l).reset code = ((e.reset code).1.withLoop l, (e.reset code).2) := by
  simp only [reset, show (e.withLoop l).stream = e.stream from rfl]
  split <;> rfl

lemma perform_withLoop (job : Job η) :
    (e.withLoop l).perform job = ((e.perform job).1.withLoop l, (e.perform job).2) := by
  cases job with
  | reset code => exact reset_withLoop e l code
  | writeReset code =>
    simp only [perform, show (e.withLoop l).stream = e.stream from rfl]
    split
    · split <;> rfl
    · rw [reset_withLoop]
  | data bytes | fin trailers | changePriority p | close | writeFrame frame p
  | writeHeaders block fin flush p | announcePriority p =>
    simp only [perform, show (e.withLoop l).stream = e.stream from rfl]
    (repeat' split) <;> rfl
  | _ => rfl

/-- What is done without the loop is done on any loop of the same owner. -/
lemma exec_withLoop (other : ∀ j, i ≠ .loop j) (same_owner : l.owner = e.loop.owner) :
    exec i (e.withLoop l) = ((exec i e).1.withLoop l, (exec i e).2) := by
  have same_stream : (e.withLoop l).stream = e.stream := rfl
  cases i with
  | loop j => exact absurd rfl (other j)
  | perform job => exact perform_withLoop e l job
  | enter t op =>
    cases op with
    | writeHeaders block first fin flush p => cases first <;> rfl
    | updatePriority p =>
      simp only [exec, begin, same_stream]
      split <;> rfl
    | _ => rfl
  | dispatch job =>
    have same_side : (e.withLoop l).onLoop = e.onLoop := by
      simp only [onLoop, TaskLoop.ownedBy, withLoop, same_owner]
    simp only [exec, same_side]
  | bind id writable =>
    simp only [exec, bind, same_stream]
    split <;> rfl
  | deliver item => cases item <;> rfl
  | attempt w =>
    simp only [exec, attempt, same_stream]
    split
    · rfl
    · rfl
    · cases w <;> rfl
  | _ => rfl

end Instructions

/-! ## Work within -/

lemma isWithin_of_inner {x : StreamTodo η} (inner : isInner x = true) :
    IsWithin owner (.todo x) := by
  unfold isInner at inner
  split at inner
  · cases inner
  · cases inner
  · cases inner
  · unfold IsWithin
    split <;> simp_all

lemma isWithin_begin {op : Operation η} (plain : op.isOnLoop = false) (e : Endpoint η) :
    ∀ x ∈ (begin e op).2, IsWithin owner (.todo x) := by
  cases op with
  | writeHeaders block first fin flush p => cases first <;> simp [begin, IsWithin]
  | updatePriority p =>
    simp only [begin]
    split <;> simp [IsWithin]
  | runLoop | dropLoop => cases plain
  | _ => simp [begin, IsWithin]

lemma Within.append {out : List (StreamTodo η)}
    {x : Entry (StreamInstr η) (StreamCall η) StreamNote} (within : Within owner ⟨e, x :: rest⟩)
    (each : ∀ y ∈ out, IsWithin owner (.todo y)) {e' : Endpoint η}
    (same_loop : e'.loop = e.loop) (same_thread : e'.thread = e.thread) :
    Within owner ⟨e', out.map .todo ++ rest⟩ := by
  refine ⟨same_loop ▸ within.owned, same_thread ▸ within.at_owner, fun y hy => ?_⟩
  rcases List.mem_append.mp hy with new | below
  · obtain ⟨z, hz, rfl⟩ := List.mem_map.mp new
    exact each z hz
  · exact within.all y (List.mem_cons_of_mem _ below)

lemma within_inner (within : Within owner ⟨e, .todo (.work i) :: rest⟩)
    (inner : isInner (.work i) = true) (no_dispatch : ∀ job, i ≠ .dispatch job) :
    Within owner ⟨(exec i e).1, (exec i e).2.map .todo ++ rest⟩ ∧ (exec i e).1.loop = e.loop := by
  obtain ⟨same_loop, same_thread⟩ := exec_elsewhere e inner
  have each := inner_exec e inner no_dispatch
  exact ⟨within.append (fun x hx => isWithin_of_inner (each x hx)) same_loop same_thread, same_loop⟩

lemma within_work (within : Within owner ⟨e, .todo (.work i) :: rest⟩) :
    Within owner ⟨(exec i e).1, (exec i e).2.map .todo ++ rest⟩ ∧ (exec i e).1.loop = e.loop := by
  have here : IsWithin owner (.todo (.work i)) := within.all _ List.mem_cons_self
  have at_owner : e.thread = owner := within.at_owner
  have owned : e.loop.owner = owner := within.owned
  cases i with
  | loop j => exact absurd here id
  | enter t op =>
    obtain ⟨rfl, plain⟩ := here
    refine ⟨within.append ?_ (begin_loop _ op) ?_, begin_loop _ op⟩
    · simp only [exec, List.forall_mem_append]
      exact ⟨isWithin_begin plain _, by simpa [IsWithin] using at_owner⟩
    · exact (begin_thread _ op).trans at_owner.symm
  | leave t =>
    obtain rfl : t = owner := here
    exact ⟨within.append (by simp [exec]) rfl at_owner.symm, rfl⟩
  | dispatch job =>
    have on_loop : e.onLoop = true := by simp [onLoop, TaskLoop.ownedBy, owned, at_owner]
    refine ⟨within.append ?_ rfl rfl, rfl⟩
    simp [exec, on_loop, IsWithin]
  | _ => exact within_inner within rfl (by simp)

/-- A callback finds the loop's thread at work and leaves it there. -/
lemma within_move (within : Within owner m) (possible : Machine.Possible CallsBack m a) :
    Within owner (m.after component a) ∧ (m.after component a).state.loop = m.state.loop := by
  rcases m with ⟨e, agenda⟩
  cases a with
  | own x =>
    obtain ⟨rest, rfl⟩ := List.head?_eq_some_iff.mp possible
    cases x with
    | work i => exact within_work within
    | call c =>
      refine ⟨⟨within.owned, within.at_owner, fun y hy => ?_⟩, rfl⟩
      rcases List.mem_cons.mp hy with rfl | below
      · trivial
      · exact within.all y (List.mem_cons_of_mem _ below)
    | note n =>
      exact ⟨⟨within.owned, within.at_owner,
        fun y hy => within.all y (List.mem_cons_of_mem _ hy)⟩, rfl⟩
  | invoke is =>
    refine ⟨⟨within.owned, within.at_owner, fun y hy => ?_⟩, rfl⟩
    cases possible with
    | operation holds other op plain =>
      rcases List.mem_cons.mp hy with rfl | below
      · exact ⟨within.owned, plain⟩
      · exact within.all y below
    | setRemote holds other remoteOpen =>
      rcases List.mem_cons.mp hy with rfl | below
      · trivial
      · exact within.all y below
  | answer c r =>
    obtain ⟨holds, -⟩ := possible
    obtain ⟨rest, rfl⟩ := List.head?_eq_some_iff.mp holds
    refine ⟨within.append (x := .held c) ?_ rfl rfl, rfl⟩
    cases c with
    | conn p => cases p <;> simp [component, resume, IsWithin]
    | hook k => cases k <;> simp [component, resume, IsWithin]

/-! ## A frame around a machine -/

/-- What can be done does not depend on what is below, as long as something is left to do. -/
lemma possible_framed (busy : m.agenda ≠ []) (same_owner : l.owner = m.state.loop.owner) :
    Machine.Possible CallsBack (framed l rest m) a ↔ Machine.Possible CallsBack m a := by
  have same_head : (framed l rest m).agenda.head? = m.agenda.head? := by
    obtain ⟨x, below, head⟩ := List.exists_cons_of_ne_nil busy
    rw [framed, head]
    rfl
  have owner_eq : (framed l rest m).state.loop.owner = m.state.loop.owner := same_owner
  cases a with
  | own x => rw [Machine.Possible, Machine.Possible, same_head]
  | invoke is =>
    constructor
    · intro possible
      cases possible with
      | operation holds other op plain =>
        rw [owner_eq]
        exact .operation (same_head ▸ holds) other op plain
      | setRemote holds other remoteOpen => exact .setRemote (same_head ▸ holds) other remoteOpen
    · intro possible
      cases possible with
      | operation holds other op plain =>
        rw [← owner_eq]
        exact .operation (same_head.trans holds) other op plain
      | setRemote holds other remoteOpen =>
        exact .setRemote (same_head.trans holds) other remoteOpen
  | answer c r => rw [Machine.Possible, Machine.Possible, same_head]

lemma after_framed (within : Within owner m) (same_owner : l.owner = owner)
    (possible : Machine.Possible CallsBack m a) :
    (framed l rest m).after component a = framed l rest (m.after component a) := by
  rcases m with ⟨e, agenda⟩
  cases a with
  | own x =>
    obtain ⟨below, rfl⟩ := List.head?_eq_some_iff.mp possible
    cases x with
    | work i =>
      have other : ∀ j, i ≠ .loop j := by
        rintro j rfl
        exact within.all _ List.mem_cons_self
      have same := exec_withLoop e l other (same_owner.trans within.owned.symm)
      simp only [framed, Machine.after, Machine.step, List.cons_append, Option.map_some,
        Option.getD_some, show component.exec = (exec : StreamInstr η → _) from rfl, same,
        List.append_assoc]
    | call c | note n => rfl
  | invoke is => simp [framed, Machine.after, Machine.invoke]
  | answer c r =>
    obtain ⟨holds, -⟩ := possible
    obtain ⟨below, rfl⟩ := List.head?_eq_some_iff.mp holds
    simp [framed, Machine.after]

lemma sees_framed (possible : Machine.Possible CallsBack m a) :
    sees (framed l rest m, a) = sees (m, a) := by
  rcases m with ⟨e, agenda⟩
  cases a with
  | own x => cases x <;> rfl
  | invoke is =>
    cases possible with
    | operation holds | setRemote holds =>
      obtain ⟨below, rfl⟩ := List.head?_eq_some_iff.mp holds
      rfl
  | answer c r =>
    obtain ⟨holds, -⟩ := possible
    obtain ⟨below, rfl⟩ := List.head?_eq_some_iff.mp holds
    rfl

lemma busy_of_possible (possible : Machine.Possible CallsBack m a) : m.agenda ≠ [] :=
  fun rests => nothing_at_rest rests possible

/-! ## A frame around a run -/

lemma within_of_unfolds (within : Within owner m) (run : Unfolds m h m') :
    Within owner m' ∧ m'.state.loop = m.state.loop := by
  induction run with
  | start => exact ⟨within, rfl⟩
  | step _ move ih =>
    obtain ⟨possible, rfl⟩ := Machine.move_iff.mp move
    obtain ⟨still, same_loop⟩ := within_move ih.1 possible
    exact ⟨still, same_loop.trans ih.2⟩

/-- What unfolds by itself unfolds within any frame, and looks the same. -/
lemma unfolds_framed (within : Within owner m) (same_owner : l.owner = owner)
    (run : Unfolds m h m') :
    ∃ h', Unfolds (framed l rest m) h' (framed l rest m') ∧ disclosed h' = disclosed h := by
  induction run with
  | start => exact ⟨[], .start, rfl⟩
  | @step h m₁ m' a run move ih =>
    obtain ⟨h', run', same⟩ := ih
    obtain ⟨possible, rfl⟩ := Machine.move_iff.mp move
    have within₁ := (within_of_unfolds within run).1
    have possible' : Machine.Possible CallsBack (framed l rest m₁) a :=
      (possible_framed (busy_of_possible possible)
        (same_owner.trans within₁.owned.symm)).mpr possible
    have move' := Machine.move_iff.mpr ⟨possible', (after_framed within₁ same_owner possible).symm⟩
    exact ⟨h' ++ [(framed l rest m₁, a)], run'.step move', by simp [same, sees_framed possible]⟩

/-- What unfolds within a frame unfolds by itself until it is done, and then its frame does. -/
lemma unfolds_of_framed (within : Within owner m) (same_owner : l.owner = owner)
    (run : Unfolds (framed l rest m) h m') (rests : m'.agenda = []) :
    ∃ h₁ h₂ e₁, Unfolds m h₁ (.idle e₁) ∧ Unfolds ⟨e₁.withLoop l, rest⟩ h₂ m' ∧
      disclosed h = disclosed h₁ ++ disclosed h₂ := by
  induction h generalizing m with
  | nil =>
    obtain rfl := run.eq_of_nil
    rcases m with ⟨e, agenda⟩
    obtain ⟨rfl, rfl⟩ : agenda = [] ∧ rest = [] := List.append_eq_nil_iff.mp rests
    exact ⟨[], [], e, .start, .start, rfl⟩
  | cons b h ih =>
    by_cases ended : m.agenda = []
    · rcases m with ⟨e, agenda⟩
      obtain rfl : agenda = [] := ended
      exact ⟨[], b :: h, e, .start, run, rfl⟩
    · rcases b with ⟨n, a⟩
      obtain ⟨at_m, m₁, move, later⟩ := run.uncons
      obtain rfl : n = framed l rest m := at_m
      obtain ⟨possible', rfl⟩ := Machine.move_iff.mp move
      have possible := (possible_framed ended (same_owner.trans within.owned.symm)).mp possible'
      rw [after_framed within same_owner possible] at later
      obtain ⟨h₁, h₂, e₁, first, second, same⟩ := ih (within_move within possible).1 later
      refine ⟨(m, a) :: h₁, h₂, e₁, first.cons (Machine.move_iff.mpr ⟨possible, rfl⟩), second, ?_⟩
      simp [same, sees_framed possible]

/-! ## What a machine comes to -/

/-- A machine unfolds until nothing is left to do, and this is seen of it. -/
def Yields (m : Live η) (s : List (Seen η)) (e' : Endpoint η) : Prop :=
  ∃ h, Unfolds m h (.idle e') ∧ disclosed h = s

lemma yields_idle : Yields (.idle e) s e' ↔ s = [] ∧ e' = e := by
  constructor
  · rintro ⟨h, run, rfl⟩
    cases h with
    | nil => exact ⟨rfl, congrArg Machine.state run.eq_of_nil⟩
    | cons b h =>
      obtain ⟨-, m₁, move, -⟩ := run.uncons
      exact absurd (Machine.move_iff.mp move).1 (nothing_at_rest rfl)
  · rintro ⟨rfl, rfl⟩
    exact ⟨[], .start, rfl⟩

/-- Where one thing only can be done, it is done. -/
lemma yields_forced {a : Deed η} (possible : Machine.Possible CallsBack m a)
    (only : ∀ a', Machine.Possible CallsBack m a' → a' = a) :
    Yields m s e' ↔ ∃ s', s = sees (m, a) ++ s' ∧ Yields (m.after component a) s' e' := by
  constructor
  · rintro ⟨h, run, rfl⟩
    cases h with
    | nil => exact absurd possible (nothing_at_rest (congrArg Machine.agenda run.eq_of_nil).symm)
    | cons b h =>
      rcases b with ⟨n, a'⟩
      obtain ⟨at_m, m₁, move, later⟩ := run.uncons
      obtain rfl : n = m := at_m
      obtain ⟨possible', rfl⟩ := Machine.move_iff.mp move
      obtain rfl := only a' possible'
      exact ⟨disclosed h, rfl, h, later, rfl⟩
  · rintro ⟨s', rfl, h, run, rfl⟩
    exact ⟨(m, a) :: h, run.cons (Machine.move_iff.mpr ⟨possible, rfl⟩), rfl⟩

lemma yields_own (x : StreamTodo η) : Yields ⟨e, .todo x :: rest⟩ s e' ↔
    ∃ s', s = sees (⟨e, .todo x :: rest⟩, .own x) ++ s' ∧
      Yields ((⟨e, .todo x :: rest⟩ : Live η).after component (.own x)) s' e' :=
  yields_forced rfl fun _ => own_of_possible rfl

lemma yields_work {i : StreamInstr η} : Yields ⟨e, .todo (.work i) :: rest⟩ s e' ↔
    Yields ⟨(exec i e).1, (exec i e).2.map .todo ++ rest⟩ s e' := by
  rw [yields_own]
  simp only [sees, List.nil_append, exists_eq_left']
  rfl

lemma yields_note {n : StreamNote} (settles : n.settles = false) :
    Yields ⟨e, .todo (.note n) :: rest⟩ s e' ↔ Yields ⟨e, rest⟩ s e' := by
  rw [yields_own]
  simp only [sees, settles, Bool.false_eq_true, if_false, List.nil_append, exists_eq_left']
  rfl

lemma yields_count {c : StreamCall η} (counts : c.isCount = true) :
    Yields ⟨e, .todo (.call c) :: rest⟩ s e' ↔
      ∃ s', s = .counted c :: s' ∧ Yields ⟨e, rest⟩ s' e' := by
  have answered (s' : List (Seen η)) :
      Yields ⟨e, .held c :: rest⟩ s' e' ↔ Yields ⟨e, rest⟩ s' e' := by
    obtain ⟨r, possible, same⟩ : ∃ r : c.Reply,
        Machine.Possible CallsBack ⟨e, .held c :: rest⟩ (.answer c r) ∧
          (⟨e, .held c :: rest⟩ : Live η).after component (.answer c r) = ⟨e, rest⟩ := by
      cases c with
      | conn p =>
        cases p with
        | countRead len | flushRead | flushWritten =>
          exact ⟨(), ⟨rfl, plainly true .success, rfl⟩, rfl⟩
        | _ => cases counts
      | hook k => cases counts
    rw [yields_forced possible, same]
    · simp only [sees, choice, counts, if_true, List.nil_append, exists_eq_left']
    · intro a' possible'
      obtain ⟨r', rfl⟩ := answer_of_possible rfl counts possible'
      rw [reply_unique counts r' r]
  rw [yields_own]
  simp only [sees, counts, if_true, List.singleton_append]
  exact exists_congr fun s' => and_congr_right fun _ => answered s'

lemma yields_counts {calls : List (StreamCall η)} (counts : ∀ c ∈ calls, c.isCount = true) :
    Yields ⟨e, calls.map (.todo ∘ .call) ++ rest⟩ s e' ↔
      ∃ s', s = calls.map .counted ++ s' ∧ Yields ⟨e, rest⟩ s' e' := by
  induction calls generalizing s with
  | nil => simp only [List.map_nil, List.nil_append, exists_eq_left']
  | cons c calls ih =>
    rw [List.map_cons, List.cons_append, Function.comp_apply,
      yields_count (counts c List.mem_cons_self)]
    simp only [ih fun x hx => counts x (List.mem_cons_of_mem _ hx)]
    constructor
    · rintro ⟨s', rfl, s'', rfl, later⟩
      exact ⟨s'', rfl, later⟩
    · rintro ⟨s', rfl, later⟩
      exact ⟨_, rfl, s', rfl, later⟩

/-- A frame waits until what is in it is done. -/
lemma yields_framed (within : Within owner m) (same_owner : l.owner = owner) :
    Yields (framed l rest m) s e' ↔
      ∃ s₁ s₂ e₁, Yields m s₁ e₁ ∧ Yields ⟨e₁.withLoop l, rest⟩ s₂ e' ∧ s = s₁ ++ s₂ := by
  constructor
  · rintro ⟨h, run, rfl⟩
    obtain ⟨h₁, h₂, e₁, first, second, same⟩ := unfolds_of_framed within same_owner run rfl
    exact ⟨_, _, e₁, ⟨h₁, first, rfl⟩, ⟨h₂, second, rfl⟩, same⟩
  · rintro ⟨s₁, s₂, e₁, ⟨h₁, first, rfl⟩, ⟨h₂, second, rfl⟩, rfl⟩
    obtain ⟨h, run, same⟩ : ∃ h, Unfolds (framed l rest m) h ⟨e₁.withLoop l, rest⟩ ∧
        disclosed h = disclosed h₁ := unfolds_framed within same_owner first
    exact ⟨h ++ h₂, run.append second, by rw [disclosed_append, same]⟩

end StreamControl.Endpoint
