import StreamControl.Proofs.InboundOrder

/-!
# What is given back to the receive window

An item that is delivered goes to the consumer, and the bytes of a chunk are given back right before
it does, if there is a window that was charged. Only one delivery is under way at any time, so both
happen in the order of the deliveries.
-/

namespace StreamControl.Endpoint

variable {η : Type} {allowed : Thread → Operation η → Prop} {o : Options} {owner : Thread}
  {h : Past η} {m m' : Live η} {rest agenda : Agenda η} {a : Deed η} {i : StreamInstr η}
  {e : Endpoint η}

/-- The protocol stream whose receive window a delivery is charged to, as long as there is one. -/
def chargedTo (e : Endpoint η) : Option Nat := if e.remoteOpen then e.stream.slot.id? else none

/-- An item is delivered, and its bytes are charged to a protocol stream or not. -/
def delivers (b : Live η × Deed η) : List (Item × Option Nat) :=
  match b.2 with
  | .own (.work (.deliver item)) => [(item, chargedTo b.1.state)]
  | _ => []

/-- The items that were delivered, in this order. -/
def delivered (h : Past η) : List (Item × Option Nat) := h.flatMap delivers

/-- The bytes that a delivery gives back. -/
def credit : Item × Option Nat → List (Nat × Nat)
  | (.data bytes, some id) => [(id, bytes.size)]
  | _ => []

def creditOf : StreamCall η → List (Nat × Nat)
  | .conn (.returnCredit id len) => [(id, len)]
  | _ => []

def returns : Deed η → List (Nat × Nat)
  | .own (.call c) => creditOf c
  | _ => []

/-- The bytes that were given back, in this order. -/
def credits (h : Past η) : List (Nat × Nat) := h.flatMap fun b => returns b.2

def creditEntry : Entry (StreamInstr η) (StreamCall η) StreamNote → List (Nat × Nat)
  | .todo (.call c) => creditOf c
  | _ => []

/-- The bytes that are given back next. -/
def creditsDue (agenda : Agenda η) : List (Nat × Nat) := agenda.flatMap creditEntry

/-- An item that is handed to the consumer next. -/
def handingEntry : Entry (StreamInstr η) (StreamCall η) StreamNote → List Item
  | .todo (.work (.handOver bytes)) | .todo (.call (.hook (.data bytes))) => [.data bytes]
  | .todo (.call (.hook (.fin trailers))) => [.fin trailers]
  | _ => []

def handing (agenda : Agenda η) : List Item := agenda.flatMap handingEntry

section Views

variable (b : Live η × Deed η) (x : Entry (StreamInstr η) (StreamCall η) StreamNote)
  (agenda' : Agenda η)

@[simp] lemma delivered_snoc : delivered (h ++ [b]) = delivered h ++ delivers b := by
  simp [delivered]

@[simp] lemma credits_snoc : credits (h ++ [b]) = credits h ++ returns b.2 := by
  simp [credits]

@[simp] lemma creditsDue_cons : creditsDue (x :: agenda) = creditEntry x ++ creditsDue agenda := rfl

@[simp] lemma creditsDue_append :
    creditsDue (agenda ++ agenda') = creditsDue agenda ++ creditsDue agenda' :=
  List.flatMap_append

@[simp] lemma handing_cons : handing (x :: agenda) = handingEntry x ++ handing agenda := rfl

@[simp] lemma handing_append : handing (agenda ++ agenda') = handing agenda ++ handing agenda' :=
  List.flatMap_append

end Views

lemma handing_eq_nil (none_delivered : deliveries agenda = 0) : handing agenda = [] := by
  rw [deliveries, List.countP_eq_zero] at none_delivered
  rw [handing, List.flatMap_eq_nil_iff]
  intro x hx
  have free := none_delivered x hx
  unfold handingEntry
  split
  · exact absurd rfl free
  · exact absurd rfl free
  · exact absurd rfl free
  · rfl

/-- Bytes that are given back next belong to a delivery below them. -/
def Owned : Agenda η → Prop
  | [] => True
  | x :: rest => (deliveries rest = 0 → creditEntry x = []) ∧ Owned rest

lemma owned_of_none (none_due : creditsDue agenda = []) : Owned agenda := by
  induction agenda with
  | nil => trivial
  | cons x rest ih =>
    obtain ⟨none_first, none_later⟩ := List.append_eq_nil_iff.mp none_due
    exact ⟨fun _ => none_first, ih none_later⟩

lemma Owned.append {agenda' : Agenda η} (above : Owned agenda) (below : Owned agenda') :
    Owned (agenda ++ agenda') := by
  induction agenda with
  | nil => exact below
  | cons x rest ih =>
    refine ⟨fun none_delivered => above.1 ?_, ih above.2⟩
    have sum := @deliveries_append η rest agenda'
    rw [List.append_eq] at none_delivered
    omega

lemma Owned.creditsDue_eq_nil (owned : Owned agenda) (none_delivered : deliveries agenda = 0) :
    creditsDue agenda = [] := by
  induction agenda with
  | nil => rfl
  | cons x rest ih =>
    rw [deliveries_cons, Nat.add_eq_zero_iff] at none_delivered
    rw [creditsDue_cons, owned.1 none_delivered.2, ih owned.2 none_delivered.2]
    rfl

/-- What was delivered was handed to the consumer or is handed to it next, and its bytes were given
back or are given back next, each in this order. -/
structure Crediting (h : Past η) (m : Live η) : Prop where
  handed : (delivered h).map Prod.fst = consumed h ++ handing m.agenda
  credited : (delivered h).flatMap credit = credits h ++ creditsDue m.agenda
  owned : Owned m.agenda

lemma credits_item (e : Endpoint η) (item : Item) :
    handing ((exec (.deliver item) e).2.map .todo) = [item] ∧
      creditsDue ((exec (.deliver item) e).2.map .todo) = credit (item, chargedTo e) ∧
      Owned ((exec (.deliver item) e).2.map .todo) := by
  cases item with
  | data bytes =>
    simp only [exec, deliver, chargedTo]
    split
    · rename_i id slot
      rw [slot]
      split <;> exact ⟨rfl, rfl, by simp [Owned, creditEntry, isDelivery]⟩
    · rename_i slot
      rw [slot]
      split <;> exact ⟨rfl, rfl, by simp [Owned, creditEntry]⟩
  | fin trailers =>
    exact ⟨rfl, rfl, by simp [exec, deliver, trace, Owned, creditEntry, creditOf]⟩

/-- Nothing else hands anything to the consumer. -/
lemma handing_exec (other : ∀ item, i ≠ .deliver item) :
    handing ((exec i e).2.map .todo) = handingEntry (.todo (.work i)) := by
  by_cases hands : ∃ bytes, i = .handOver bytes
  · obtain ⟨bytes, rfl⟩ := hands
    rfl
  · have none_now : handingEntry (.todo (.work i)) = [] := by
      cases i with
      | handOver bytes => exact absurd ⟨bytes, rfl⟩ hands
      | _ => rfl
    rw [none_now]
    refine view_exec fun x leaves => ?_
    cases leaves with
    | @hooks i k other =>
      cases k with
      | data bytes | fin trailers => cases other
      | _ => rfl
    | handsData bytes => exact absurd ⟨bytes, rfl⟩ hands
    | handsOver item | handsFin trailers => exact absurd rfl (other _)
    | _ => rfl

/-- Nothing else gives bytes back. -/
lemma creditsDue_exec (other : ∀ item, i ≠ .deliver item) :
    creditsDue ((exec i e).2.map .todo) = [] := by
  refine view_exec fun x leaves => ?_
  cases leaves with
  | credits bytes id len => exact absurd rfl (other _)
  | @sends job p outgoing | @sendsQueued w p outgoing =>
    cases p with
    | returnCredit id len => cases outgoing
    | _ => rfl
  | @counts t op p counting =>
    cases p with
    | returnCredit id len => cases counting
    | _ => rfl
  | _ => rfl

lemma crediting_work (crediting : Crediting h ⟨e, .todo (.work i) :: rest⟩)
    (one : deliveries (.todo (.work i) :: rest) = e.stream.inbox.emitting.toNat) :
    Crediting (h ++ [(⟨e, .todo (.work i) :: rest⟩, .own (.work i))])
      ⟨(exec i e).1, (exec i e).2.map .todo ++ rest⟩ := by
  obtain ⟨handed, credited, owned⟩ := crediting
  by_cases delivers_now : ∃ item, i = .deliver item
  · obtain ⟨item, rfl⟩ := delivers_now
    obtain ⟨hands, returns_now, owned_now⟩ := credits_item e item
    have none_below : deliveries rest = 0 := by
      have le_one := Bool.toNat_le e.stream.inbox.emitting
      simp only [deliveries_cons, isDelivery, if_true] at one
      omega
    refine ⟨?_, ?_, owned_now.append owned.2⟩
    · rw [delivered_snoc, consumed_snoc, handing_append, hands, List.map_append, handed,
        handing_cons, handing_eq_nil none_below]
      simp [delivers, consumes, handingEntry]
    · rw [delivered_snoc, credits_snoc, creditsDue_append, returns_now, List.flatMap_append,
        credited, creditsDue_cons, owned.2.creditsDue_eq_nil none_below]
      simp [delivers, returns, creditEntry]
  · have other : ∀ item, i ≠ .deliver item := fun item same => delivers_now ⟨item, same⟩
    have hands := handing_exec (e := e) other
    have none_returned := creditsDue_exec (e := e) other
    have nothing : delivers (⟨e, .todo (.work i) :: rest⟩, .own (.work i)) = [] := by
      cases i with
      | deliver item => exact absurd ⟨item, rfl⟩ delivers_now
      | _ => rfl
    refine ⟨?_, ?_, (owned_of_none none_returned).append owned.2⟩
    · rw [delivered_snoc, consumed_snoc, handing_append, hands, nothing, List.append_nil, handed]
      simp [consumes]
    · rw [delivered_snoc, credits_snoc, creditsDue_append, none_returned, nothing, List.append_nil,
        credited]
      simp [returns, creditEntry]

lemma crediting_step (crediting : Crediting h m)
    (one : deliveries m.agenda = m.state.stream.inbox.emitting.toNat)
    (move : Machine.Move component (fun _ => Asked allowed) m a m') :
    Crediting (h ++ [(m, a)]) m' := by
  obtain ⟨handed, credited, owned⟩ := crediting
  cases move using Machine.Move.elim with
  | work e i rest => exact crediting_work ⟨handed, credited, owned⟩ one
  | call e c rest =>
    refine ⟨?_, ?_, fun _ => rfl, owned.2⟩
    · rw [delivered_snoc, consumed_snoc, List.map_append, handed]
      cases c with
      | conn p => simp [delivers, consumes, handingEntry]
      | hook k => cases k <;> simp [delivers, consumes, handingEntry]
    · rw [delivered_snoc, credits_snoc, List.flatMap_append, credited]
      simp [delivers, returns, creditEntry]
  | note e s rest =>
    exact ⟨by simpa [delivers, consumes, handingEntry] using handed,
      by simpa [delivers, returns, creditEntry] using credited, owned.2⟩
  | invoke m is asked =>
    cases asked <;>
      exact ⟨by simpa [Machine.invoke, delivers, consumes, handingEntry] using handed,
        by simpa [Machine.invoke, delivers, returns, creditEntry] using credited,
        fun _ => rfl, owned⟩
  | reply e c rest f =>
    have none_handed : handing ((component.resume c (f c)).map .todo : Agenda η) = [] :=
      view_resume (fun _ _ => rfl) (fun _ => rfl) c (f c)
    have none_returned : creditsDue ((component.resume c (f c)).map .todo : Agenda η) = [] :=
      view_resume (fun _ _ => rfl) (fun _ => rfl) c (f c)
    refine ⟨?_, ?_, (owned_of_none none_returned).append owned.2⟩
    · rw [delivered_snoc, consumed_snoc, handing_append, none_handed, List.map_append, handed]
      simp [delivers, consumes, handingEntry]
    · rw [delivered_snoc, credits_snoc, creditsDue_append, none_returned, List.flatMap_append,
        credited]
      simp [delivers, returns, creditEntry]

lemma crediting_of_runs (run : RunsAnyhow allowed o owner h m) : Crediting h m := by
  induction run with
  | start => exact ⟨rfl, rfl, trivial⟩
  | step run move ih => exact crediting_step ih (deliveries_of_runs run) move

end StreamControl.Endpoint
