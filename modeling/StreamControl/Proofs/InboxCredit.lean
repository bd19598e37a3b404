import Mathlib.Algebra.BigOperators.Group.List.Basic
import Mathlib.Algebra.GroupWithZero.Nat
import StreamControl.Proofs.InboxRelief

/-!
# Credit that is granted and used

Since a pause, the credit of an inbox is what was granted and not used, to the item, as long as this
stays below the limit. A grant and an item taken out for delivery are one step each, so nothing that
a callback does comes between the item and its credit. Once the limit is reached nothing is taken
from the credit any more, until the next pause.
-/

namespace StreamControl.Inbox

variable {κ α : Type} {mark : Nat} {i : Instr κ α} {b b' : Inbox κ α}
  {out : List (Todo (Instr κ α) (Call κ α) Note)} {h h' : Past κ α} {m m₁ m' : Live κ α}
  {agenda : Agenda κ α}

/-- What an act grants; resuming grants the limit. -/
def grants : Act (Instr κ α) (Call κ α) Note Reply → Nat
  | .own (.work (.grant amount)) => amount
  | _ => 0

def pauses : Act (Instr κ α) (Call κ α) Note Reply → Bool
  | .own (.work .pause) => true
  | _ => false

def granted (h : Past κ α) : Nat := (h.map fun b => grants b.2).sum

/-- What was granted, less the items that were taken out for delivery. -/
def balance (h : Past κ α) : Int := granted h - (handed h).length

/-- At some moment as much as the limit was granted and not used. -/
def ReachedLimit (h : Past κ α) : Prop :=
  ∃ earlier, earlier <+: h ∧ (unlimited : Int) ≤ balance earlier

section Views

variable (c : Live κ α × Act (Instr κ α) (Call κ α) Note Reply)

@[simp] lemma granted_snoc : granted (h ++ [c]) = granted h + grants c.2 := by
  simp [granted]

lemma balance_snoc :
    balance (h ++ [c]) =
      balance h + grants c.2 - (((takes c).filter (·.2 = .handed)).map Prod.fst).length := by
  simp only [balance, granted_snoc, handed_snoc, List.length_append]
  omega

lemma handed_append : handed (h ++ h') = handed h ++ handed h' := by
  simp [handed, removed]

lemma handed_cons : handed (c :: h) =
    ((takes c).filter (·.2 = .handed)).map Prod.fst ++ handed h := by
  simp [handed, removed]

lemma takes_pause : takes ((⟨b, agenda⟩, .own (.work .pause)) :
    Live κ α × Act (Instr κ α) (Call κ α) Note Reply) = [] := by
  simp [takes, removes, exec, pause]

lemma consumed_append : consumed (h ++ h') = consumed h ++ consumed h' := by
  simp [consumed]

lemma reachedLimit_snoc :
    ReachedLimit (h ++ [c]) ↔ ReachedLimit h ∨ (unlimited : Int) ≤ balance (h ++ [c]) := by
  constructor
  · rintro ⟨earlier, before, reached⟩
    rcases List.prefix_concat_iff.mp before with rfl | before
    · exact .inr reached
    · exact .inl ⟨earlier, before, reached⟩
  · rintro (⟨earlier, before, reached⟩ | reached)
    · exact ⟨earlier, before.trans (List.prefix_append h [c]), reached⟩
    · exact ⟨_, List.prefix_rfl, reached⟩

end Views

/-! ## What an instruction does to the credit -/

lemma raise_le (credit amount : Nat) : raise credit amount ≤ unlimited := Nat.min_le_right _ _

lemma Effect.credit_le (effect : Effect i b b' out) (limited : b.credit ≤ unlimited) :
    b'.credit ≤ unlimited := by
  cases effect with
  | hands =>
    simp only [spend]
    split
    · exact limited
    · omega
  | granted => exact raise_le _ _
  | paused => exact Nat.zero_le _
  | _ => exact limited

/-- Credit without limit stays so, whatever is granted or handed over. -/
lemma Effect.credit_unlimited (effect : Effect i b b' out) (unpaused : i ≠ .pause)
    (limitless : b.credit = unlimited) : b'.credit = unlimited := by
  cases effect with
  | hands => simp only [spend, limitless, if_true]
  | granted =>
    simp only [raise, limitless]
    omega
  | paused => exact absurd rfl unpaused
  | _ => exact limitless

/-- Below the limit, credit is raised by grants and used by the items that are handed over. No
instruction does both. -/
lemma Effect.credit_add (effect : Effect i b b' out) (unpaused : i ≠ .pause)
    (below : b.credit < unlimited) :
    b'.credit + (inHand (out.map .todo)).length =
        min (b.credit + grants (.own (.work i))) unlimited ∧
      (grants (.own (.work i)) = 0 ∨ (inHand (out.map .todo)).length = 0) := by
  have unraised : min b.credit unlimited = b.credit := Nat.min_eq_left (Nat.le_of_lt below)
  have same_credit {out' : List (Todo (Instr κ α) (Call κ α) Note)}
      (none_handed : inHand (out'.map .todo) = []) :
      b.credit + (inHand (out'.map .todo)).length = min (b.credit + 0) unlimited ∧
        ((0 : Nat) = 0 ∨ (inHand (out'.map .todo)).length = 0) := by
    rw [none_handed, Nat.add_zero, unraised]
    exact ⟨rfl, .inl rfl⟩
  cases effect with
  | @hands _ k a rest free credited =>
    refine ⟨?_, .inl rfl⟩
    change spend b.credit + 1 = min (b.credit + 0) unlimited
    rw [spend, if_neg (Nat.ne_of_lt below)]
    omega
  | granted => exact ⟨rfl, .inr rfl⟩
  | paused => exact absurd rfl unpaused
  | consumed => exact same_credit (by simp [inHandEntry])
  | emptied => exact same_credit (inHand_relief b)
  | _ => exact same_credit rfl

/-! ## From a pause on -/

/-- What holds from a pause on: the credit is the balance, to the item, unless the balance has
reached the limit since. -/
structure Metered (h : Past κ α) (m : Live κ α) : Prop where
  exact : ¬ ReachedLimit h → (m.state.credit : Int) = balance h
  limitless : ReachedLimit h → m.state.credit = unlimited

lemma Metered.work (metered : Metered h ⟨b, .todo (.work i) :: agenda⟩) (unpaused : i ≠ .pause) :
    Metered (h ++ [(⟨b, .todo (.work i) :: agenda⟩, .own (.work i))])
      ⟨(exec i b).1, (exec i b).2.map .todo ++ agenda⟩ := by
  obtain ⟨exact_before, limitless⟩ := metered
  have effect := exec_effect i b
  have balance_eq := balance_snoc (h := h) (⟨b, .todo (.work i) :: agenda⟩, .own (.work i))
  rw [show takes (⟨b, .todo (.work i) :: agenda⟩, .own (.work i)) = removes i b from rfl,
    removes_handed] at balance_eq
  dsimp only at balance_eq
  generalize (exec i b).1 = b' at *
  generalize (exec i b).2 = out at *
  by_cases reached : ReachedLimit h
  · have still := effect.credit_unlimited unpaused (limitless reached)
    exact ⟨fun unreached => absurd ((reachedLimit_snoc _).mpr (.inl reached)) unreached,
      fun _ => still⟩
  · have credit_eq : (b.credit : Int) = balance h := exact_before reached
    have below : b.credit < unlimited := by
      by_contra above
      exact reached ⟨h, List.prefix_rfl, by omega⟩
    obtain ⟨sum, one_only⟩ := effect.credit_add unpaused below
    constructor
    · intro unreached
      have still_below : ¬ (unlimited : Int) ≤ balance (h ++ [_]) :=
        fun above => unreached ((reachedLimit_snoc _).mpr (.inr above))
      change (b'.credit : Int) = _
      omega
    · intro reached_now
      have above := ((reachedLimit_snoc _).mp reached_now).resolve_left reached
      change b'.credit = _
      omega

/-- What takes no item out and grants nothing leaves the credit as it is. -/
lemma Metered.aside (metered : Metered h m) (c : Live κ α × Act (Instr κ α) (Call κ α) Note Reply)
    (none_taken : takes c = []) (none_granted : grants c.2 = 0)
    (same_credit : m'.state.credit = m.state.credit) : Metered (h ++ [c]) m' := by
  have same_balance : balance (h ++ [c]) = balance h := by
    rw [balance_snoc, none_taken, none_granted]
    simp
  have same_limit : ReachedLimit (h ++ [c]) ↔ ReachedLimit h := by
    rw [reachedLimit_snoc, same_balance]
    exact or_iff_left_of_imp fun reached => ⟨h, List.prefix_rfl, reached⟩
  constructor
  · intro unreached
    rw [same_credit, same_balance]
    exact metered.exact fun reached => unreached (same_limit.mpr reached)
  · intro reached
    rw [same_credit]
    exact metered.limitless (same_limit.mp reached)

lemma not_reachedLimit_nil : ¬ ReachedLimit ([] : Past κ α) := by
  rintro ⟨earlier, before, reached⟩
  have limit : 0 < unlimited := by decide
  rw [List.prefix_nil.mp before, balance, granted, handed] at reached
  simp at reached
  omega

lemma metered_of_run {m₂ : Live κ α}
    (run : Machine.Run component (Machine.InTurn component Request) m₂ h m)
    (unpaused : ∀ c ∈ h, pauses c.2 = false) (spent : m₂.state.credit = 0) : Metered h m := by
  induction run with
  | start =>
    refine ⟨fun _ => ?_, fun reached => absurd reached not_reachedLimit_nil⟩
    rw [spent]
    rfl
  | @step h m m' a run move ih =>
    have metered := ih fun c hc => unpaused c (List.mem_append_left _ hc)
    cases move using Machine.Move.elim with
    | work b i rest =>
      apply metered.work
      rintro rfl
      cases unpaused _ (List.mem_append_right h (List.mem_singleton_self _))
    | _ => exact metered.aside _ rfl rfl rfl

lemma credit_le_of_runs (run : Runs mark h m) : m.state.credit ≤ unlimited := by
  induction run with
  | start => exact Nat.le_refl unlimited
  | step _ move ih =>
    cases move using Machine.Move.elim with
    | work b i rest => exact (exec_effect i b).credit_le ih
    | _ => exact ih

/-- The credit of an inbox since a pause, after which `h` happened. -/
structure OnCredit (h : Past κ α) (m : Live κ α) : Prop where
  exact : ¬ ReachedLimit h → (m.state.credit : Int) = granted h - (handed h).length
  calls_le : ¬ ReachedLimit h → (consumed h).length ≤ granted h
  called : handed h = consumed h ++ inHand m.agenda
  called_next : m.step component = none → inHand m.agenda = []
  limitless : ReachedLimit h → m.state.credit = unlimited
  bounded : m.state.credit ≤ unlimited

/-- From any pause to the next one, whatever is granted by anybody, the consumer inside its own call
included: as long as the grants exceed the items that were handed over by less than the limit, the
credit is exactly this difference, and the consumer is not called more often than was granted. Once
the limit is reached, the credit stays without limit. -/
theorem onCredit_of_runs (run : Runs mark (h ++ (m₁, .own (.work .pause)) :: h') m)
    (unpaused : ∀ c ∈ h', pauses c.2 = false) : OnCredit h' m := by
  obtain ⟨-, order_after⟩ := delivery_invariants run
  obtain ⟨before, m₂, move, later⟩ := run.split
  obtain ⟨-, order_before⟩ := delivery_invariants before
  rcases m₁ with ⟨b, agenda⟩
  have head : ∃ rest, agenda = .todo (.work .pause) :: rest := by
    cases move with
    | own head next => exact List.head?_eq_some_iff.mp head
  obtain ⟨rest, rfl⟩ := head
  obtain ⟨-, rfl⟩ := Machine.move_iff.mp move
  have metered : Metered h' m := metered_of_run later unpaused rfl
  have called : handed h' = consumed h' ++ inHand m.agenda := by
    have none_in_hand : inHand rest = [] := order_before.called_next
    have handed_before : handed h = consumed h ++ inHand rest := order_before.handed_eq
    have handed_after := order_after.handed_eq
    rw [none_in_hand, List.append_nil] at handed_before
    rw [handed_append, handed_cons, takes_pause, consumed_append, handed_before,
      List.append_assoc] at handed_after
    exact List.append_cancel_left handed_after
  refine ⟨metered.exact, ?_, called, fun waits => inHand_of_waits waits order_after.called_next,
    metered.limitless, credit_le_of_runs run⟩
  intro unreached
  have credit_eq := metered.exact unreached
  have calls : (consumed h').length ≤ (handed h').length := by
    rw [called, List.length_append]
    exact Nat.le_add_right _ _
  rw [balance] at credit_eq
  omega

/-- A new inbox with a consumer is about to be paused. -/
def pausing : Past Nat Nat × Live Nat Nat :=
  Machine.drive component 3 [.ask [.setConsumer 0], .ask [.pause]] (.idle (fresh 2))

/-- Three items come in and one is asked for; with this one in hand the consumer asks for another
one. -/
def askedInHand : Past Nat Nat × Live Nat Nat :=
  Machine.drive component 40
    [.ask (offer 1), .ask (offer 2), .ask (offer 3), .ask (fetch 1), .ask (fetch 1), .reply taken,
      .reply taken]
    pausing.2

/-- The consumer resumes, and two more items come in. -/
def resumedLater : Past Nat Nat × Live Nat Nat :=
  Machine.drive component 40
    [.ask resumed, .reply taken, .ask (offer 4), .reply taken, .ask (offer 5), .reply taken]
    askedInHand.2

lemma askedInHand_runs :
    Runs 2 (pausing.1 ++ (pausing.2, .own (.work .pause)) :: askedInHand.1.tail) askedInHand.2 := by
  have first : Runs 2 pausing.1 pausing.2 := driven_run rfl
  have second : Machine.Run component (Machine.InTurn component Request) pausing.2
      askedInHand.1 askedInHand.2 := driven_run rfl
  exact first.append second

lemma resumedLater_run : Machine.Run component (Machine.InTurn component Request) askedInHand.2
    resumedLater.1 resumedLater.2 := driven_run rfl

/-- Two grants of one are used up by two items. After resuming, three more items do not change the
credit. -/
theorem onCredit_askedInHand :
    Runs 2 (pausing.1 ++ (pausing.2, .own (.work .pause)) :: askedInHand.1.tail) askedInHand.2 ∧
      (∀ c ∈ askedInHand.1.tail ++ resumedLater.1, pauses c.2 = false) ∧
      OnCredit askedInHand.1.tail askedInHand.2 ∧ granted askedInHand.1.tail = 2 ∧
      consumed askedInHand.1.tail = [1, 2] ∧ askedInHand.2.state.credit = 0 ∧
      OnCredit (askedInHand.1.tail ++ resumedLater.1) resumedLater.2 ∧
      ReachedLimit (askedInHand.1.tail ++ resumedLater.1) ∧
      consumed (askedInHand.1.tail ++ resumedLater.1) = [1, 2, 3, 4, 5] ∧
      resumedLater.2.state.credit = unlimited := by
  have unpaused : ∀ c ∈ askedInHand.1.tail ++ resumedLater.1, pauses c.2 = false := by
    have none_pauses : (askedInHand.1.tail ++ resumedLater.1).any (fun c => pauses c.2) = false :=
      rfl
    rw [List.any_eq_false] at none_pauses
    exact fun c hc => Bool.eq_false_iff.mpr (none_pauses c hc)
  have later : OnCredit (askedInHand.1.tail ++ resumedLater.1) resumedLater.2 := by
    have run := askedInHand_runs.append resumedLater_run
    rw [List.append_assoc, List.cons_append] at run
    exact onCredit_of_runs run unpaused
  have reached : ReachedLimit (askedInHand.1.tail ++ resumedLater.1) := by
    by_contra unreached
    have credit_eq := later.exact unreached
    exact absurd credit_eq (by decide +kernel)
  exact ⟨askedInHand_runs, unpaused,
    onCredit_of_runs askedInHand_runs fun c hc => unpaused c (List.mem_append_left _ hc),
    rfl, rfl, rfl, later, reached, rfl, by decide +kernel⟩

end StreamControl.Inbox
