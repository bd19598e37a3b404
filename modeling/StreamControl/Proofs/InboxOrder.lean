import StreamControl.Proofs.InboxRun

/-!
# The order of delivery

Delivery goes on inside the callbacks for failures and for an emptied inbox, where nothing
holds it back. Even so no item is lost, repeated or overtaken: a second delivery can only
begin once the consumer has given back the item that it has in hand.
-/

namespace StreamControl.Inbox

variable {κ α : Type}

/-- What becomes of an item that leaves the buffer. -/
inductive Fate where
  | handed
  | discarded
  deriving DecidableEq

def fate : Instr κ α → Fate
  | .clear => .discarded
  | _ => .handed

/-- The items that an instruction takes out of the buffer, from its front. -/
def removes (i : Instr κ α) (b : Inbox κ α) : List (α × Fate) :=
  (b.pending.take (b.pending.length - (exec i b).1.pending.length)).map fun a => (a, fate i)

def puts : Act (Instr κ α) (Call κ α) Note Reply → List α
  | .own (.work (.push a)) => [a]
  | _ => []

def takes (b : Live κ α × Act (Instr κ α) (Call κ α) Note Reply) : List (α × Fate) :=
  match b.2 with
  | .own (.work i) => removes i b.1.state
  | _ => []

def consumes : Act (Instr κ α) (Call κ α) Note Reply → List α
  | .own (.call (.consume _ a)) => [a]
  | _ => []

/-- All items ever put into the buffer, in this order. -/
def written (h : Past κ α) : List α := h.flatMap fun b => puts b.2

/-- The items taken out of the buffer and what became of them, in this order. -/
def removed (h : Past κ α) : List (α × Fate) := h.flatMap takes

/-- The items taken out for delivery. -/
def handed (h : Past κ α) : List α := ((removed h).filter (·.2 = .handed)).map Prod.fst

def consumed (h : Past κ α) : List α := h.flatMap fun b => consumes b.2

/-- The item of an entry with which the consumer is about to be called. -/
def inHandEntry : Entry (Instr κ α) (Call κ α) Note → List α
  | .todo (.call (.consume _ a)) => [a]
  | _ => []

def inHand (agenda : Agenda κ α) : List α := agenda.flatMap inHandEntry

/-- An entry belongs to a delivery that the consumer has not finished. -/
def isDelivery : Entry (Instr κ α) (Call κ α) Note → Bool
  | .todo (.call (.consume _ _)) | .held (.consume _ _) | .todo (.work (.consumed _)) => true
  | _ => false

def deliveries (agenda : Agenda κ α) : Nat := agenda.countP isDelivery

section Views

variable (h : Past κ α) (b : Live κ α × Act (Instr κ α) (Call κ α) Note Reply)
  (x : Entry (Instr κ α) (Call κ α) Note) (agenda agenda' : Agenda κ α)

@[simp] lemma written_snoc : written (h ++ [b]) = written h ++ puts b.2 := by
  simp [written]

@[simp] lemma removed_snoc : removed (h ++ [b]) = removed h ++ takes b := by
  simp [removed]

@[simp] lemma handed_snoc : handed (h ++ [b]) =
    handed h ++ ((takes b).filter (·.2 = .handed)).map Prod.fst := by
  simp [handed]

@[simp] lemma consumed_snoc : consumed (h ++ [b]) = consumed h ++ consumes b.2 := by
  simp [consumed]

@[simp] lemma inHand_nil : inHand ([] : Agenda κ α) = [] := rfl

@[simp] lemma inHand_cons : inHand (x :: agenda) = inHandEntry x ++ inHand agenda := rfl

@[simp] lemma inHand_append : inHand (agenda ++ agenda') = inHand agenda ++ inHand agenda' :=
  List.flatMap_append

@[simp] lemma deliveries_nil : deliveries ([] : Agenda κ α) = 0 := rfl

@[simp] lemma deliveries_cons :
    deliveries (x :: agenda) = (if isDelivery x then 1 else 0) + deliveries agenda := by
  rw [deliveries, deliveries, List.countP_cons, Nat.add_comm]

@[simp] lemma deliveries_append :
    deliveries (agenda ++ agenda') = deliveries agenda + deliveries agenda' :=
  List.countP_append

variable (c : Inbox κ α) (o : Outcome)

@[simp] lemma inHand_complaint : inHand ((complaint c o).map .todo) = [] := by
  unfold complaint
  split
  · rfl
  · split <;> rfl

@[simp] lemma deliveries_complaint : deliveries ((complaint c o).map .todo) = 0 := by
  unfold complaint
  split
  · rfl
  · split <;> rfl

@[simp] lemma inHand_relief : inHand ((relief c).map .todo) = [] := by
  unfold relief
  split
  · cases c.onDrained <;> rfl
  · rfl

@[simp] lemma deliveries_relief : deliveries ((relief c).map .todo) = 0 := by
  unfold relief
  split
  · cases c.onDrained <;> rfl
  · rfl

end Views

/-! ## One delivery at a time -/

/-- The flag of an inbox tells whether the consumer has an item in hand. -/
def OneDelivery (m : Live κ α) : Prop := deliveries m.agenda = m.state.emitting.toNat

/-- An instruction begins a delivery or ends one, as the flag says. -/
lemma deliveries_of_effect {i : Instr κ α} {b b' : Inbox κ α}
    {out : List (Todo (Instr κ α) (Call κ α) Note)} {n : Nat} (effect : Effect i b b' out)
    (one : deliveries [.todo (.work i)] + n = b.emitting.toNat) :
    deliveries (out.map .todo) + n = b'.emitting.toNat := by
  have le_one := Bool.toNat_le b.emitting
  cases effect with
  | consumed =>
    simp [isDelivery] at one ⊢
    omega
  | _ => simp_all [isDelivery, settle]

lemma oneDelivery_step {m m' : Live κ α} {a} (one : OneDelivery m)
    (move : Moves m a m') : OneDelivery m' := by
  unfold OneDelivery at *
  cases move using Machine.Move.elim with
  | work b i rest =>
    rw [deliveries_append]
    exact deliveries_of_effect (exec_effect i b) (by simpa using one)
  | call b c rest => cases c <;> simpa [isDelivery] using one
  | note b e rest => simpa [isDelivery] using one
  | invoke m is asked =>
    cases asked.2 <;> simpa [Machine.invoke, offer, fetch, resumed, isDelivery] using one
  | reply b c rest f => cases c <;> simpa [component, resume, isDelivery] using one

/-! ## Where the items are -/

/-- An instruction takes items out at the front and puts one in at the back. -/
lemma removes_append (i : Instr κ α) (b : Inbox κ α) :
    b.pending ++ puts (.own (.work i)) =
      (removes i b).map Prod.fst ++ (exec i b).1.pending := by
  have effect := exec_effect i b
  unfold removes
  generalize (exec i b).1 = b' at *
  generalize (exec i b).2 = out at *
  cases effect <;> simp_all [puts, settle, Function.comp_def]

/-- What is taken out for delivery is what the consumer is called with next. -/
lemma removes_handed (i : Instr κ α) (b : Inbox κ α) :
    ((removes i b).filter (·.2 = .handed)).map Prod.fst =
      inHand ((exec i b).2.map .todo) := by
  have effect := exec_effect i b
  unfold removes
  generalize (exec i b).1 = b' at *
  generalize (exec i b).2 = out at *
  cases effect <;> simp_all [fate, settle, inHandEntry]

lemma called_at_once (i : Instr κ α) (b : Inbox κ α) :
    inHand ((exec i b).2.map .todo).tail = [] := by
  have effect := exec_effect i b
  generalize (exec i b).1 = b' at *
  generalize (exec i b).2 = out at *
  cases effect with
  | emptied => exact flatMap_tail_eq_nil (inHand_relief b)
  | @consumed _ o =>
    have none_out : inHand ((complaint b o ++ [Todo.work Instr.deliver]).map .todo) = [] := by
      simp [inHandEntry]
    exact flatMap_tail_eq_nil none_out
  | _ => rfl

lemma inHand_of_waits {m : Live κ α} (waits : m.step component = none)
    (called_next : inHand m.agenda.tail = []) : inHand m.agenda = [] := by
  rcases m with ⟨b, _ | ⟨t | c, rest⟩⟩
  · rfl
  · exact absurd rfl (Machine.step_eq_none_iff.mp waits t rest)
  · exact called_next

lemma removes_credited {i : Instr κ α} {b : Inbox κ α} {x : α × Fate} (hx : x ∈ removes i b)
    (for_delivery : x.2 = .handed) : b.credit ≠ 0 ∧ b.emitting = false := by
  have effect := exec_effect i b
  unfold removes at hx
  generalize (exec i b).1 = b' at *
  generalize (exec i b).2 = out at *
  cases effect with
  | hands free credited _ _ => exact ⟨credited, free⟩
  | cleared =>
    obtain ⟨a, _, rfl⟩ := List.mem_map.mp hx
    cases for_delivery
  | _ => simp [settle] at hx

structure InOrder (h : Past κ α) (m : Live κ α) : Prop where
  lossless : written h = (removed h).map Prod.fst ++ m.state.pending
  handed_eq : handed h = consumed h ++ inHand m.agenda
  called_next : inHand m.agenda.tail = []
  credited : ∀ b ∈ h, ∀ x ∈ takes b, x.2 = .handed → b.1.state.credit ≠ 0

lemma inOrder_step {h : Past κ α} {m m' : Live κ α} {a} (order : InOrder h m)
    (move : Moves m a m') : InOrder (h ++ [(m, a)]) m' := by
  obtain ⟨lossless, handed_eq, called_next, credited⟩ := order
  have credited_after : ∀ b ∈ h ++ [(m, a)], ∀ x ∈ takes b, x.2 = .handed →
      b.1.state.credit ≠ 0 := by
    intro b hb x hx for_delivery
    rcases List.mem_append.mp hb with earlier | last
    · exact credited b earlier x hx for_delivery
    · rw [List.mem_singleton.mp last] at hx ⊢
      unfold takes at hx
      split at hx
      · exact (removes_credited hx for_delivery).1
      · simp at hx
  cases move using Machine.Move.elim with
  | work b i rest =>
    have none_later : inHand rest = [] := called_next
    refine ⟨?_, ?_, ?_, credited_after⟩
    · rw [written_snoc, lossless, List.append_assoc, removes_append, removed_snoc,
        List.map_append, List.append_assoc]
      rfl
    · rw [handed_snoc, consumed_snoc]
      simp only [takes, removes_handed, handed_eq, inHand_cons, inHand_append, none_later]
      simp [component, consumes, inHandEntry]
    · exact flatMap_append_tail_eq_nil (called_at_once i b) none_later
  | call b c rest =>
    have none_later : inHand rest = [] := called_next
    refine ⟨?_, ?_, ?_, credited_after⟩
    · simpa [puts, takes] using lossless
    · cases c <;> simpa [takes, consumes, inHandEntry, none_later] using handed_eq
    · exact none_later
  | note b e rest =>
    refine ⟨by simpa [puts, takes] using lossless, ?_, ?_, credited_after⟩
    · simpa [takes, consumes, inHandEntry] using handed_eq
    · exact flatMap_tail_eq_nil called_next
  | invoke m is asked =>
    have none_asked : inHand (is.map (.todo ∘ .work) : Agenda κ α) = [] := by
      simp [inHand, inHandEntry]
    refine ⟨by simpa [Machine.invoke, puts, takes] using lossless, ?_, ?_, credited_after⟩
    · simpa [Machine.invoke, takes, consumes, none_asked] using handed_eq
    · refine flatMap_append_tail_eq_nil (flatMap_tail_eq_nil none_asked) ?_
      exact inHand_of_waits asked.1 called_next
  | reply b c rest f =>
    refine ⟨by simpa [puts, takes] using lossless, ?_, ?_, credited_after⟩
    · cases c <;> simpa [component, resume, takes, consumes, inHandEntry] using handed_eq
    · refine flatMap_append_tail_eq_nil ?_ called_next
      cases c <;> rfl

/-- An inbox that loses nothing and delivers in order, one item at a time and on credit. -/
structure Orderly (h : Past κ α) (m : Live κ α) : Prop where
  lossless : written h = (removed h).map Prod.fst ++ m.state.pending
  delivered : handed h = consumed h ++ inHand m.agenda
  in_hand : m.step component = none → inHand m.agenda = []
  alone : ∀ k a rest, m.agenda = .todo (.call (.consume k a)) :: rest →
    ∀ k' a', .held (.consume k' a') ∉ rest
  one_at_work : deliveries m.agenda ≤ 1
  credited : ∀ b ∈ h, ∀ x ∈ takes b, x.2 = .handed → b.1.state.credit ≠ 0

lemma delivery_invariants {mark : Nat} {h : Past κ α} {m : Live κ α} (run : Runs mark h m) :
    OneDelivery m ∧ InOrder h m := by
  induction run with
  | start => exact ⟨rfl, rfl, rfl, rfl, by simp⟩
  | step _ move ih => exact ⟨oneDelivery_step ih.1 move, inOrder_step ih.2 move⟩

/-- However the callbacks re-enter an inbox, it loses nothing and delivers in order. -/
theorem orderly_of_runs {mark : Nat} {h : Past κ α} {m : Live κ α} (run : Runs mark h m) :
    Orderly h m := by
  obtain ⟨one, lossless, handed_eq, called_next, credited⟩ := delivery_invariants run
  have at_most_one : deliveries m.agenda ≤ 1 := by
    unfold OneDelivery at one
    rw [one]
    exact Bool.toNat_le _
  refine ⟨lossless, handed_eq, fun waits => inHand_of_waits waits called_next, ?_, at_most_one,
    credited⟩
  intro k a rest head k' a' held
  have another : 0 < deliveries rest := List.countP_pos_iff.mpr ⟨_, held, rfl⟩
  rw [head, deliveries_cons] at at_most_one
  simp only [isDelivery, if_true] at at_most_one
  omega

/-- An inbox that is re-entered: the consumer fails on the first item while two more are
offered, and the handler of its failure asks for the next one. -/
def reentered : Past Nat Nat × Live Nat Nat :=
  Machine.drive component 40
    [.ask [.setConsumer 0], .ask [.setOnFault 1], .ask (offer 1), .ask (offer 2), .ask (offer 3),
      .reply fun | .consume _ _ => .failure .closed | .fault _ _ | .drained _ => (),
      .ask (fetch 1), .ask [.clear], .ask (offer 4)]
    (.idle (fresh 2))

lemma reentered_runs : Runs 2 reentered.1 reentered.2 := driven_run rfl

/-- Inside the handler, the second item is handed over; a clearing then discards the third. -/
theorem orderly_reentered : Runs 2 reentered.1 reentered.2 ∧ Orderly reentered.1 reentered.2 ∧
    written reentered.1 = [1, 2, 3, 4] ∧
    removed reentered.1 = [(1, .handed), (2, .handed), (3, .discarded)] ∧
    consumed reentered.1 = [1, 2] ∧ reentered.2.state.pending = [4] :=
  ⟨reentered_runs, orderly_of_runs reentered_runs, rfl, rfl, rfl, rfl⟩

end StreamControl.Inbox
