import Mathlib.Data.List.TakeWhile
import StreamControl.Proofs.InboxOrder
import StreamControl.Proofs.JobOrder
import StreamControl.Proofs.StreamWhole

/-!
# What the consumer of a stream is handed

Until a stream ends, whatever is received goes through its inbox to the consumer: no item is
dropped, doubled or overtaken on the way from its job to the consumer. So the consumer is handed
the items in the order in which their jobs are done.
-/

namespace StreamControl.Endpoint

variable {η : Type} {allowed : Thread → Operation η → Prop} {o : Options} {owner : Thread}
  {h : Past η} {m m' : Live η} {rest agenda agenda' : Agenda η} {a : Deed η} {i : StreamInstr η}
  {e : Endpoint η} {connect : Bool} {items : List Item}

/-! ## A stream that nobody ends -/

def isCalm (_ : Thread) : Operation η → Bool
  | .reset _ | .close | .exception _ | .writeReset _ | .dropLoop => false
  | _ => true

/-- Nobody ends the stream, reports an exception or leaves the loop without its runner. -/
def Calm (t : Thread) (op : Operation η) : Prop := isCalm t op = true

lemma kept_of_calm (t : Thread) (op : Operation η) (may : Calm t op) : Kept t op := by
  rintro rfl
  cases may

lemma endings_never (t : Thread) (op : Operation η) (job : Job η) (may : Calm t op)
    (asked : op.job? = some job) : endings job = [] := by
  cases op with
  | reset code | close | exception cause | writeReset code | dropLoop => cases may
  | writeHeaders block first fin flush p => cases first <;> cases asked <;> rfl
  | _ => cases asked <;> rfl

/-- The stream has not ended, and nothing is about to end it. -/
structure Ongoing (m : Live η) : Prop where
  unended : m.state.stream.hasEnded = false
  opened : m.state.stream.outbox.closed = none
  none_closing : closings m.agenda = []
  none_clearing : m.agenda.any isClear = false

lemma perform_ongoing {job : Job η} (unnamed : job.cause? = none) :
    job.isEnd = false ∧ job.isReset = false ∧
      ((e.perform job).2.map .todo).any isClear = false := by
  cases job with
  | reset code | writeReset code | close | exception cause => cases unnamed
  | data bytes | fin trailers | changePriority p | toggleWritable | writeFrame frame p
  | writeHeaders block fin flush p | announcePriority p =>
    refine ⟨rfl, rfl, ?_⟩
    simp only [perform, headersOut]
    (repeat' split) <;> rfl
  | _ => exact ⟨rfl, rfl, rfl⟩

lemma ongoing_work (ongoing : Ongoing ⟨e, .todo (.work i) :: rest⟩)
    (none_due : due endings (.todo (.work i) :: rest) = []) :
    Ongoing ⟨(exec i e).1, (exec i e).2.map .todo ++ rest⟩ := by
  obtain ⟨unended, opened, none_closing, none_clearing⟩ := ongoing
  rw [List.any_cons, Bool.or_eq_false_iff] at none_clearing
  obtain ⟨_, none_clearing⟩ := none_clearing
  rw [closings_cons, List.append_eq_nil_iff] at none_closing
  obtain ⟨none_now, none_closing⟩ := none_closing
  by_cases performs : ∃ job, i = .perform job
  · obtain ⟨job, rfl⟩ := performs
    have unnamed : job.cause? = none :=
      Option.toList_eq_nil_iff.mp (List.append_eq_nil_iff.mp none_due).1
    obtain ⟨no_end, _, no_clear⟩ := perform_ongoing (e := e) unnamed
    obtain ⟨same_code, same_closed⟩ := perform_other e job no_end
    refine ⟨?_, ?_, ?_, ?_⟩
    · change (e.perform job).1.stream.hasEnded = false
      rw [Stream.hasEnded, same_code, same_closed]
      exact unended
    · exact (congrArg Outbox.closed (perform_outbox e job)).trans opened
    · rw [closings_append, none_closing, List.append_nil]
      exact perform_closings e job unnamed
    · rw [List.any_append, none_clearing, Bool.or_false]
      exact no_clear
  · have other : ∀ job, i ≠ .perform job := fun job same => performs ⟨job, same⟩
    refine ⟨(exec_hasEnded other).trans unended, ?_, ?_, ?_⟩
    · rcases exec_outbox_cases i e with ⟨j, rfl, effect⟩ | ⟨_, same⟩
      · refine (effect.closed_eq fun cause same => ?_).trans opened
        rw [same] at none_now
        cases none_now
      · exact (congrArg Outbox.closed same).trans opened
    · rw [closings_append, none_closing, exec_closings other, List.append_nil]
    · rw [List.any_append, none_clearing, Bool.or_false]
      exact (exec_inbound e other).2

lemma ongoing_step (ongoing : Ongoing m) (none_due : due endings m.agenda = [])
    (move : Machine.Move component (fun _ => Asked allowed) m a m') : Ongoing m' := by
  obtain ⟨unended, opened, none_closing, none_clearing⟩ := ongoing
  cases move using Machine.Move.elim with
  | work e i rest => exact ongoing_work ⟨unended, opened, none_closing, none_clearing⟩ none_due
  | call e c rest | note e s rest => exact ⟨unended, opened, none_closing, none_clearing⟩
  | invoke m is asked => cases asked <;> exact ⟨unended, opened, none_closing, none_clearing⟩
  | reply e c rest f =>
    refine ⟨unended, opened, ?_, ?_⟩
    · rw [closings_append, closings_resume]
      exact none_closing
    · cases c with
      | conn p => cases p <;> exact none_clearing
      | hook k => cases k <;> exact none_clearing

lemma none_ending (run : RunsAnyhow Calm o owner h m) : due endings m.agenda = [] := by
  have none_placed := (none_placed endings_ofCalls kept_of_calm endings_never run).2
  simp only [placed, List.append_eq_nil_iff] at none_placed
  exact none_placed.1.1.2

lemma ongoing_of_runs (run : RunsAnyhow Calm o owner h m) : Ongoing m := by
  induction run with
  | start => exact ⟨rfl, rfl, rfl, rfl⟩
  | step run move ih => exact ongoing_step ih (none_ending run) move

/-! ## On the way to the consumer -/

/-- What a job adds to the inbox: the end of a tunnel carries no trailers. -/
def receives (connect : Bool) : Job η → List Item
  | .data bytes => [.data bytes]
  | .fin trailers => [.fin (if connect && !trailers.isEmpty then .empty else trailers)]
  | _ => []

/-- The items that were reported to the stream, in this order. -/
def reported (connect : Bool) (h : Past η) : List Item := asked (receives connect) h

def consumes : Deed η → List Item
  | .own (.call (.hook (.data bytes))) => [.data bytes]
  | .own (.call (.hook (.fin trailers))) => [.fin trailers]
  | _ => []

/-- The items that the consumer was handed, in this order. -/
def consumed (h : Past η) : List Item := h.flatMap fun b => consumes b.2

/-- An item that was taken out of the inbox for the consumer. -/
def inHandEntry : Entry (StreamInstr η) (StreamCall η) StreamNote → List Item
  | .todo (.work (.deliver item)) => [item]
  | .todo (.work (.handOver bytes)) | .todo (.call (.hook (.data bytes))) => [.data bytes]
  | .todo (.call (.hook (.fin trailers))) => [.fin trailers]
  | _ => []

/-- An entry belongs to a delivery that the consumer has not finished. -/
def isDelivery : Entry (StreamInstr η) (StreamCall η) StreamNote → Bool
  | .todo (.work (.deliver _)) | .todo (.work (.handOver _)) => true
  | .todo (.call (.hook k)) | .held (.hook k) => k.isHanding
  | .todo (.work (.inbox (.consumed _))) => true
  | _ => false

def pushingEntry : Entry (StreamInstr η) (StreamCall η) StreamNote → List Item
  | .todo (.work (.inbox (.push item))) => [item]
  | _ => []

def inHand (agenda : Agenda η) : List Item := agenda.flatMap inHandEntry

def deliveries (agenda : Agenda η) : Nat := agenda.countP isDelivery

/-- The items that are put into the inbox next. -/
def pushing (agenda : Agenda η) : List Item := agenda.flatMap pushingEntry

section Views

variable (b : Live η × Deed η) (x : Entry (StreamInstr η) (StreamCall η) StreamNote)

@[simp] lemma consumed_snoc : consumed (h ++ [b]) = consumed h ++ consumes b.2 := by
  simp [consumed]

@[simp] lemma inHand_cons : inHand (x :: agenda) = inHandEntry x ++ inHand agenda := rfl

@[simp] lemma inHand_append : inHand (agenda ++ agenda') = inHand agenda ++ inHand agenda' :=
  List.flatMap_append

@[simp] lemma deliveries_cons :
    deliveries (x :: agenda) = (if isDelivery x then 1 else 0) + deliveries agenda := by
  rw [deliveries, deliveries, List.countP_cons, Nat.add_comm]

@[simp] lemma deliveries_append :
    deliveries (agenda ++ agenda') = deliveries agenda + deliveries agenda' :=
  List.countP_append

@[simp] lemma pushing_cons : pushing (x :: agenda) = pushingEntry x ++ pushing agenda := rfl

@[simp] lemma pushing_append : pushing (agenda ++ agenda') = pushing agenda ++ pushing agenda' :=
  List.flatMap_append

end Views

lemma inHand_eq_nil (none_delivered : deliveries agenda = 0) : inHand agenda = [] := by
  rw [deliveries, List.countP_eq_zero] at none_delivered
  rw [inHand, List.flatMap_eq_nil_iff]
  intro x hx
  have free := none_delivered x hx
  unfold inHandEntry
  split
  · exact absurd rfl free
  · exact absurd rfl free
  · exact absurd rfl free
  · exact absurd rfl free
  · rfl

lemma pushing_eq_nil (none_pushed : agenda.any isPush = false) : pushing agenda = [] := by
  rw [List.any_eq_false] at none_pushed
  rw [pushing, List.flatMap_eq_nil_iff]
  intro x hx
  have free := none_pushed x hx
  unfold pushingEntry
  split
  · exact absurd rfl free
  · rfl

/-! ## What each instruction does to the items -/

/-- Until the stream ends, a job puts into the inbox what it received. -/
lemma perform_receives (e : Endpoint η) (job : Job η) (unended : e.stream.hasEnded = false) :
    pushing ((e.perform job).2.map .todo) = receives e.stream.connect job ∧
      deliveries ((e.perform job).2.map .todo) = 0 := by
  cases job with
  | data bytes =>
    simp only [perform, unended]
    exact ⟨rfl, rfl⟩
  | fin trailers =>
    simp only [perform, unended, receives, Bool.false_eq_true, if_false]
    split <;> exact ⟨rfl, rfl⟩
  | reset code | changePriority p | toggleWritable | close | writeFrame frame p
  | writeHeaders block fin flush p | writeReset code | announcePriority p =>
    simp only [perform, reset, headersOut]
    (repeat' split) <;> exact ⟨rfl, rfl⟩
  | _ => exact ⟨rfl, rfl⟩

/-- An instruction that has nothing to do with items. -/
def isPlain : StreamInstr η → Bool
  | .perform _ | .deliver _ | .handOver _ | .inbox _ => false
  | _ => true

lemma deliveries_plain (plain : isPlain i = true) : deliveries ((exec i e).2.map .todo) = 0 := by
  refine countP_exec fun x leaves => ?_
  cases leaves with
  | hooks i other => exact other
  | handsData | handsFin | inbox | hands | handsOver => cases plain
  | _ => rfl

lemma inbox_plain (plain : isPlain i = true) :
    (exec i e).1.stream.inbox.pending = e.stream.inbox.pending ∧
      (exec i e).1.stream.inbox.emitting = e.stream.inbox.emitting := by
  have alters := exec_alters i e
  generalize (exec i e).1 = e' at *
  cases alters with
  | resets | inbox => cases plain
  | _ => exact ⟨rfl, rfl⟩

/-- What the inbox leaves to do is left to the stream. -/
lemma work_ofInbox (out : List (Todo (Inbox.Instr Unit Item) (Inbox.Call Unit Item) Inbox.Note)) :
    inHand ((out.flatMap ofInbox).map .todo : Agenda η) = Inbox.inHand (out.map .todo) ∧
      deliveries ((out.flatMap ofInbox).map .todo : Agenda η) =
        Inbox.deliveries (out.map .todo) := by
  induction out with
  | nil => exact ⟨rfl, rfl⟩
  | cons x out ih =>
    rw [List.flatMap_cons, List.map_append, inHand_append, deliveries_append, ih.1, ih.2,
      List.map_cons, Inbox.inHand_cons, Inbox.deliveries_cons]
    rcases x with j | c | n
    · cases j <;> exact ⟨rfl, rfl⟩
    · cases c <;> exact ⟨rfl, rfl⟩
    · cases n <;> exact ⟨rfl, rfl⟩

/-- The inbox is a queue: what is put in goes behind what is there, and the front of it goes to the
consumer while it has nothing in hand. -/
lemma inbox_queue {j : Inbox.Instr Unit Item} (kept : j ≠ .clear) (b : Inbox Unit Item) :
    b.pending ++ pushingEntry (.todo (.work (.inbox j)) : Entry (StreamInstr η) _ _) =
        Inbox.inHand ((Inbox.exec j b).2.map .todo) ++ (Inbox.exec j b).1.pending ∧
      (b.emitting = false ∨ Inbox.inHand ((Inbox.exec j b).2.map .todo) = []) := by
  have effect := Inbox.exec_effect j b
  generalize (Inbox.exec j b).1 = b' at *
  generalize (Inbox.exec j b).2 = out at *
  cases effect with
  | cleared => exact absurd rfl kept
  | hands free credited consumer pending =>
    exact ⟨by simp [pushingEntry, Inbox.inHandEntry, pending], .inl free⟩
  | _ => exact ⟨by simp [pushingEntry, Inbox.inHandEntry, Inbox.settle], .inr (by
      simp [Inbox.inHandEntry])⟩

/-! ## One item at a time -/

lemma deliveries_perform (e : Endpoint η) (job : Job η) :
    deliveries ((e.perform job).2.map .todo) = 0 := by
  cases job with
  | data bytes | fin trailers | reset code | changePriority p | toggleWritable | close
  | writeFrame frame p | writeHeaders block fin flush p | writeReset code | announcePriority p =>
    simp only [perform, reset, headersOut]
    (repeat' split) <;> rfl
  | _ => rfl

lemma deliveries_item (e : Endpoint η) (item : Item) :
    deliveries ((exec (.deliver item) e).2.map .todo) = 1 ∧
      inHand ((exec (.deliver item) e).2.map .todo) = [item] := by
  cases item with
  | data bytes =>
    simp only [exec, deliver]
    (repeat' split) <;> exact ⟨rfl, rfl⟩
  | fin trailers => exact ⟨rfl, rfl⟩

lemma deliveries_split (j : Inbox.Instr Unit Item) (rest : Agenda η) :
    deliveries (.todo (.work (.inbox j)) :: rest) =
      Inbox.deliveries [.todo (.work j)] + deliveries rest := by
  rw [deliveries_cons]
  cases j <;> rfl

lemma deliveries_resume (c : StreamCall η) (r : c.Reply) :
    deliveries ((component.resume c r).map .todo : Agenda η) =
      if isDelivery (.held c : Entry (StreamInstr η) _ StreamNote) then 1 else 0 := by
  cases c with
  | conn p => cases p <;> rfl
  | hook k => cases k <;> rfl

lemma emitting_perform (e : Endpoint η) (job : Job η) :
    (e.perform job).1.stream.inbox.emitting = e.stream.inbox.emitting := by
  cases job with
  | data bytes | fin trailers | reset code | changePriority p | close | writeFrame frame p
  | writeHeaders block fin flush p | writeReset code | announcePriority p =>
    simp only [perform, reset]
    (repeat' split) <;> rfl
  | _ => rfl

lemma deliveries_work (one : deliveries (.todo (.work i) :: rest) = e.stream.inbox.emitting.toNat) :
    deliveries ((exec i e).2.map .todo ++ rest) =
      (exec i e).1.stream.inbox.emitting.toNat := by
  rw [deliveries_append]
  cases i with
  | inbox j =>
    obtain ⟨_, begun⟩ := @work_ofInbox η (Inbox.exec j e.stream.inbox).2
    rw [deliveries_split] at one
    simp only [exec, begun]
    exact Inbox.deliveries_of_effect (Inbox.exec_effect j e.stream.inbox) one
  | perform job =>
    have out : (exec (.perform job) e).2 = (e.perform job).2 := rfl
    have same : (exec (.perform job) e).1.stream.inbox.emitting = e.stream.inbox.emitting :=
      emitting_perform e job
    rw [deliveries_cons] at one
    rw [out, deliveries_perform, same]
    exact one
  | deliver item =>
    have same : (exec (.deliver item) e).1.stream.inbox = e.stream.inbox := by
      cases item <;> rfl
    rw [deliveries_cons] at one
    rw [(deliveries_item e item).1, same]
    exact one
  | handOver bytes =>
    rw [deliveries_cons] at one
    exact one
  | _ =>
    rw [deliveries_cons] at one
    rw [deliveries_plain rfl, (inbox_plain rfl).2]
    exact one

/-- Whatever is called: as long as the consumer has not finished with one item, no other is
delivered. -/
lemma deliveries_of_runs (run : RunsAnyhow allowed o owner h m) :
    deliveries m.agenda = m.state.stream.inbox.emitting.toNat := by
  induction run with
  | start => rfl
  | step _ move ih =>
    cases move using Machine.Move.elim with
    | work e i rest => exact deliveries_work ih
    | call e c rest =>
      rw [← ih]
      cases c <;> rfl
    | note e s rest => simpa [isDelivery] using ih
    | invoke m is asked => cases asked <;> simpa [Machine.invoke, isDelivery] using ih
    | reply e c rest f =>
      rw [deliveries_append, deliveries_resume, ← deliveries_cons]
      exact ih

/-! ## Where the items are -/

/-- Some items are with the consumer, in the inbox or on the way between them, in this order. -/
def Received (items : List Item) (h : Past η) (m : Live η) : Prop :=
  items = consumed h ++ inHand m.agenda ++ m.state.stream.inbox.pending ++ pushing m.agenda

lemma Received.inbox {j : Inbox.Instr Unit Item} (kept : j ≠ .clear)
    (one : deliveries (.todo (.work (.inbox j)) :: rest) = e.stream.inbox.emitting.toNat)
    (received : Received items h ⟨e, .todo (.work (.inbox j)) :: rest⟩) :
    Received items (h ++ [(⟨e, .todo (.work (.inbox j)) :: rest⟩, .own (.work (.inbox j)))])
      ⟨(exec (.inbox j) e).1, (exec (.inbox j) e).2.map .todo ++ rest⟩ := by
  obtain ⟨handed, _⟩ := @work_ofInbox η (Inbox.exec j e.stream.inbox).2
  obtain ⟨queue, alone⟩ := @inbox_queue η j kept e.stream.inbox
  rw [deliveries_split] at one
  have none_pushed : pushing ((exec (.inbox j) e).2.map .todo) = [] :=
    pushing_eq_nil (exec_inbound e (by simp)).1
  have in_turn : Inbox.inHand ((Inbox.exec j e.stream.inbox).2.map .todo) = [] ∨
      inHand rest = [] := by
    refine alone.symm.imp_right fun free => inHand_eq_nil ?_
    rw [free] at one
    exact (Nat.add_eq_zero_iff.mp one).2
  have same : (exec (.inbox j) e).1.stream.inbox = (Inbox.exec j e.stream.inbox).1 := rfl
  rw [Received] at received ⊢
  rw [consumed_snoc, inHand_append, pushing_append, none_pushed, received, same,
    show (exec (.inbox j) e).2 = (Inbox.exec j e.stream.inbox).2.flatMap ofInbox from rfl, handed]
  simp only [consumes, inHand_cons, pushing_cons, inHandEntry, List.nil_append, List.append_nil]
  rw [← List.append_assoc, List.append_assoc _ e.stream.inbox.pending, queue]
  -- What the inbox hands out now follows what the consumer has in hand, and one of them is empty.
  rcases in_turn with none | none <;> simp [none]

/-- A job is done on the loop, so nothing that goes into the inbox is below it. -/
lemma none_pushing_below {job : Job η}
    (shielded : CoveredNow shield ⟨e, .todo (.work (.perform job)) :: rest⟩) :
    pushing rest = [] := by
  refine pushing_eq_nil (any_below shielded rfl id fun x pushes => ?_)
  unfold isPush at pushes
  split at pushes
  · rfl
  · cases pushes

/-- What a job adds to the inbox of a stream, unless the stream has ended. -/
def receivesNow (s : Stream η) (job : Job η) : List Item :=
  if s.hasEnded then [] else receives s.connect job

lemma pushing_perform (e : Endpoint η) (job : Job η) :
    pushing ((e.perform job).2.map .todo) = receivesNow e.stream job := by
  unfold receivesNow
  split
  · rename_i ended
    refine pushing_eq_nil (Bool.eq_false_iff.mpr fun pushes => ?_)
    exact Bool.false_ne_true
      ((perform_pushes e job pushes).symm.trans (perform_hasEnded e job ended))
  · rename_i ongoing
    exact (perform_receives e job (Bool.eq_false_iff.mpr ongoing)).1

/-- A job that does not reset the stream leaves the inbox as it is. -/
lemma perform_inbox_of_unreset {job : Job η} (unreset : (e.perform job).1.stream.resetCode = none) :
    (e.perform job).1.stream.inbox = e.stream.inbox := by
  by_cases resets : job.isReset = true
  · cases job with
    | reset code | writeReset code =>
      simp only [perform, reset] at unreset ⊢
      repeat' split at unreset
      all_goals simp_all [modify]
    | _ => cases resets
  · rw [Bool.not_eq_true] at resets
    exact (perform_inbox e job resets).1

lemma Received.perform {job : Job η} (unreset : (e.perform job).1.stream.resetCode = none)
    (shielded : CoveredNow shield ⟨e, .todo (.work (.perform job)) :: rest⟩)
    (received : Received items h ⟨e, .todo (.work (.perform job)) :: rest⟩) :
    Received (items ++ receivesNow e.stream job)
      (h ++ [(⟨e, .todo (.work (.perform job)) :: rest⟩, .own (.work (.perform job)))])
      ⟨(exec (.perform job) e).1, (exec (.perform job) e).2.map .todo ++ rest⟩ := by
  have same : (exec (.perform job) e).1.stream.inbox = e.stream.inbox :=
    perform_inbox_of_unreset unreset
  have out : (exec (.perform job) e).2 = (e.perform job).2 := rfl
  rw [Received] at received ⊢
  rw [consumed_snoc, inHand_append, pushing_append, same, out, pushing_perform,
    inHand_eq_nil (deliveries_perform e job), none_pushing_below shielded, received, pushing_cons,
    none_pushing_below shielded]
  simp [consumes, inHandEntry, pushingEntry]

lemma Received.plain (plain : isPlain i = true)
    (received : Received items h ⟨e, .todo (.work i) :: rest⟩) :
    Received items (h ++ [(⟨e, .todo (.work i) :: rest⟩, .own (.work i))])
      ⟨(exec i e).1, (exec i e).2.map .todo ++ rest⟩ := by
  have none_delivered := deliveries_plain (e := e) plain
  have other : ∀ job, i ≠ .perform job := by
    rintro job rfl
    cases plain
  have none_pushed := pushing_eq_nil (exec_inbound e other).1
  have nothing : inHandEntry (.todo (.work i)) = [] ∧ pushingEntry (.todo (.work i)) = [] := by
    cases i with
    | perform job | deliver item | handOver bytes | inbox j => cases plain
    | _ => exact ⟨rfl, rfl⟩
  rw [Received] at received ⊢
  rw [consumed_snoc, inHand_append, pushing_append, none_pushed, inHand_eq_nil none_delivered,
    (inbox_plain (e := e) plain).1, received, inHand_cons, pushing_cons, nothing.1, nothing.2]
  simp [consumes]

/-- An item on its way to the consumer goes on. -/
lemma Received.item {item : Item}
    (received : Received items h ⟨e, .todo (.work (.deliver item)) :: rest⟩) :
    Received items
      (h ++ [(⟨e, .todo (.work (.deliver item)) :: rest⟩, .own (.work (.deliver item)))])
      ⟨(exec (.deliver item) e).1, (exec (.deliver item) e).2.map .todo ++ rest⟩ := by
  have same : (exec (.deliver item) e).1.stream.inbox = e.stream.inbox := by
    cases item <;> rfl
  have none_pushed := pushing_eq_nil (exec_inbound (i := .deliver item) e (by simp)).1
  rw [Received] at received ⊢
  rw [consumed_snoc, inHand_append, pushing_append, same, (deliveries_item e item).2, none_pushed,
    received]
  simp [consumes, inHandEntry, pushingEntry]

lemma Received.handOver {bytes : ByteArray}
    (received : Received items h ⟨e, .todo (.work (.handOver bytes)) :: rest⟩) :
    Received items
      (h ++ [(⟨e, .todo (.work (.handOver bytes)) :: rest⟩, .own (.work (.handOver bytes)))])
      ⟨(exec (.handOver bytes) e).1, (exec (.handOver bytes) e).2.map .todo ++ rest⟩ := by
  rw [Received] at received ⊢
  rw [consumed_snoc, received]
  simp [consumes, inHandEntry, pushingEntry, exec, modify, trace]

/-- Nothing but an instruction moves an item, except to the consumer. -/
lemma Received.outer (outer : ∀ i, a ≠ .own (.work i)) (received : Received items h m)
    (move : Machine.Move component (fun _ => Asked allowed) m a m') :
    Received items (h ++ [(m, a)]) m' := by
  rw [Received] at received ⊢
  rw [consumed_snoc, received]
  cases move using Machine.Move.elim with
  | work e i rest => exact absurd rfl (outer i)
  | call e c rest =>
    cases c with
    | conn p => simp [consumes, inHandEntry, pushingEntry]
    | hook k => cases k <;> simp [consumes, inHandEntry, pushingEntry]
  | note e s rest => simp [consumes, inHandEntry, pushingEntry]
  | invoke m is asked =>
    cases asked <;> simp [Machine.invoke, consumes, inHandEntry, pushingEntry]
  | reply e c rest f =>
    have none_in_hand : inHand ((component.resume c (f c)).map .todo : Agenda η) = [] :=
      view_resume (fun _ _ => rfl) (fun _ => rfl) c (f c)
    have none_pushed : pushing ((component.resume c (f c)).map .todo : Agenda η) = [] :=
      view_resume (fun _ _ => rfl) (fun _ => rfl) c (f c)
    rw [inHand_append, pushing_append, none_in_hand, none_pushed]
    simp [consumes, inHandEntry, pushingEntry]

lemma exec_connect : (exec i e).1.stream.connect = e.stream.connect := by
  have alters := exec_alters i e
  generalize (exec i e).1 = e' at *
  cases alters <;> rfl

/-! ## What is accepted -/

/-- The items whose jobs were done before the stream ended, in this order. -/
def accepted (connect : Bool) (h : Past η) : List Item :=
  done (receives connect) (h.takeWhile fun b => !ends b.2)

lemma accepted_of_unended (unended : hasEndedBy h = false) :
    accepted connect h = done (receives connect) h := by
  rw [hasEndedBy, List.any_eq_false] at unended
  rw [accepted, List.takeWhile_eq_self_iff.mpr fun b hb => by simpa using unended b hb]

lemma accepted_snoc (b : Live η × Deed η) : accepted connect (h ++ [b]) =
    accepted connect h ++ if hasEndedBy h then [] else does (receives connect) b.2 := by
  split
  · rename_i ended
    have hit : h.countP (fun b => ends b.2) ≠ 0 := by
      rw [hasEndedBy, List.any_eq_true] at ended
      exact Nat.pos_iff_ne_zero.mp (List.countP_pos_iff.mpr ended)
    rw [accepted, takeWhile_snoc_of_hit hit, ← accepted, List.append_nil]
  · rename_i unended
    rw [Bool.not_eq_true] at unended
    rw [accepted_of_unended unended]
    by_cases now : ends b.2 = true
    · have none_before : h.countP (fun b => ends b.2) = 0 := by
        rw [hasEndedBy, List.any_eq_false] at unended
        exact List.countP_eq_zero.mpr unended
      have none_done : does (receives connect) b.2 = [] := by
        obtain ⟨m, a⟩ := b
        unfold ends at now
        split at now
        · rename_i job same
          rw [same]
          cases job <;> first | rfl | cases now
        · cases now
      rw [accepted, takeWhile_snoc_of_first none_before now, none_done, List.append_nil]
    · have still : hasEndedBy (h ++ [b]) = false := by
        rw [hasEndedBy, List.any_append, ← hasEndedBy, unended]
        simpa using now
      rw [accepted_of_unended still, done_snoc]

/-- Until a stream is reset, everything that it accepted is with the consumer, in the inbox or on
the way between them. Its inbox is emptied only by a reset. -/
structure Accepting (h : Past η) (m : Live η) : Prop where
  received : m.state.stream.resetCode = none → Received (accepted m.state.stream.connect h) h m
  clears : m.agenda.any isClear = true → m.state.stream.resetCode ≠ none

lemma unreset_before (unreset : (exec i e).1.stream.resetCode = none) :
    e.stream.resetCode = none := by
  by_cases performs : ∃ job, i = .perform job
  · obtain ⟨job, rfl⟩ := performs
    by_contra known
    obtain ⟨code, known⟩ := Option.ne_none_iff_exists'.mp known
    exact Option.some_ne_none _ ((perform_resetCode e job known).symm.trans unreset)
  · rw [(exec_flags fun job same => performs ⟨job, same⟩).1] at unreset
    exact unreset

lemma perform_clears (e : Endpoint η) (job : Job η)
    (clears : ((e.perform job).2.map .todo).any isClear = true) :
    (e.perform job).1.stream.resetCode ≠ none := by
  by_cases named : job.cause? = none
  · rw [(perform_ongoing (e := e) named).2.2] at clears
    cases clears
  · cases job with
    | reset code | writeReset code | close =>
      simp only [perform, reset] at clears ⊢
      repeat' split at clears
      all_goals simp_all [isClear, trace, modify]
    | exception cause => cases clears
    | _ => exact absurd rfl named

lemma accepting_work (accepting : Accepting h ⟨e, .todo (.work i) :: rest⟩)
    (ended : e.stream.hasEnded = hasEndedBy h)
    (one : deliveries (.todo (.work i) :: rest) = e.stream.inbox.emitting.toNat)
    (shielded : CoveredNow shield ⟨e, .todo (.work i) :: rest⟩) :
    Accepting (h ++ [(⟨e, .todo (.work i) :: rest⟩, .own (.work i))])
      ⟨(exec i e).1, (exec i e).2.map .todo ++ rest⟩ := by
  obtain ⟨received, clears⟩ := accepting
  have still (known : e.stream.resetCode ≠ none) :
      (exec i e).1.stream.resetCode ≠ none := fun unreset => known (unreset_before unreset)
  refine ⟨fun unreset => ?_, fun due => ?_⟩
  · have so_far := received (unreset_before unreset)
    rw [exec_connect, accepted_snoc, ← ended]
    cases i with
    | perform job => exact so_far.perform unreset shielded
    | inbox j =>
      rw [show does (receives e.stream.connect) (.own (.work (.inbox j)) : Deed η) = [] from rfl,
        ite_self, List.append_nil]
      refine so_far.inbox ?_ one
      rintro rfl
      exact clears rfl (unreset_before unreset)
    | deliver item => simpa [does] using so_far.item
    | handOver bytes => simpa [does] using so_far.handOver
    | _ => simpa [does] using so_far.plain rfl
  · rw [List.any_append, Bool.or_eq_true] at due
    rcases due with now | below
    · by_cases performs : ∃ job, i = .perform job
      · obtain ⟨job, rfl⟩ := performs
        exact perform_clears e job now
      · rw [(exec_inbound e fun job same => performs ⟨job, same⟩).2] at now
        cases now
    · refine still (clears ?_)
      rw [List.any_cons, below, Bool.or_true]

lemma accepting_step (accepting : Accepting h m) (ended : m.state.stream.hasEnded = hasEndedBy h)
    (one : deliveries m.agenda = m.state.stream.inbox.emitting.toNat)
    (shielded : CoveredNow shield m)
    (move : Machine.Move component (Called allowed) m a m') :
    Accepting (h ++ [(m, a)]) m' := by
  by_cases works : ∃ i, a = .own (.work i)
  · obtain ⟨i, rfl⟩ := works
    cases move using Machine.Move.elim with
    | work e i rest => exact accepting_work accepting ended one shielded
  · have outer : ∀ i, a ≠ .own (.work i) := fun i same => works ⟨i, same⟩
    have asked_move : Machine.Move component (fun _ => Asked allowed) m a m' :=
      move.mono fun _ _ => Called.asked
    have none_done : does (receives m.state.stream.connect) a = [] := by
      unfold does
      split
      · exact absurd rfl (outer _)
      · rfl
    obtain ⟨received, clears⟩ := accepting
    have same : m'.state = m.state := move.state_eq outer
    refine ⟨fun unreset => ?_, fun due => ?_⟩
    · rw [same] at unreset ⊢
      rw [accepted_snoc, none_done, ite_self, List.append_nil]
      exact (received unreset).outer outer asked_move
    · rw [same]
      refine clears ?_
      cases move using Machine.Move.elim with
      | work e i rest => exact absurd rfl (outer i)
      | call e c rest | note e s rest => exact due
      | invoke m is called => cases called <;> exact due
      | reply e c rest f =>
        cases c with
        | conn p => cases p <;> exact due
        | hook k => cases k <;> exact due

lemma accepting_of_runs (run : RunsFreely allowed o owner h m) : Accepting h m := by
  induction run with
  | start => exact ⟨fun _ => rfl, nofun⟩
  | step run move ih =>
    exact accepting_step ih (hasEnded_eq run)
      (deliveries_of_runs (anyhow_of_freely (fun _ _ may => may) run)) (shielded_of_runs run) move

lemma connect_eq {may : Live η → List (StreamInstr η) → Prop}
    (run : Machine.Run component may (.idle (fresh o owner)) h m) :
    m.state.stream.connect = o.connect := by
  induction run with
  | start => rfl
  | step _ move ih =>
    cases move using Machine.Move.elim with
    | work e i rest => exact exec_connect.trans ih
    | _ => exact ih

/-- Nothing is lost on the way from its job to the consumer, and nothing changes places. -/
structure Delivering (connect : Bool) (h : Past η) (m : Live η) : Prop where
  one : deliveries m.agenda = m.state.stream.inbox.emitting.toNat
  whole : done (receives connect) h =
    consumed h ++ inHand m.agenda ++ m.state.stream.inbox.pending ++ pushing m.agenda

/-- Until a stream ends, everything it received is with its consumer, in the inbox or on the way
between them, in the order in which the jobs were done. -/
theorem delivering_of_runs (run : RunsFreely Calm o owner h m) : Delivering o.connect h m := by
  have anyhow := anyhow_of_freely (fun _ _ may => may) run
  have unended := (ongoing_of_runs anyhow).unended
  have unreset : m.state.stream.resetCode = none := by
    rw [Stream.hasEnded, Bool.or_eq_false_iff, Option.isSome_eq_false_iff] at unended
    exact Option.isNone_iff_eq_none.mp unended.1
  have received := (accepting_of_runs run).received unreset
  rw [connect_eq run, accepted_of_unended ((hasEnded_eq run).symm.trans unended)] at received
  exact ⟨deliveries_of_runs anyhow, received⟩

end StreamControl.Endpoint
