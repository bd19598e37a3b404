import StreamControl.Proofs.JobOrder
import StreamControl.Proofs.OutboxPlaces
import StreamControl.Proofs.StreamWaking
import StreamControl.Proofs.Termination

/-!
# What a stream hands to its connection

A write that waits goes through the outbox to the gate, and from there to the connection as a
frame. While the outbox is open no write is lost, doubled or overtaken on this way, so the frames
reach the connection in the order in which the jobs of their writes are done. Headers that are
sent right away do not wait, and their frames are told from the others by their promises.
-/

namespace StreamControl

/-- A write as it goes out. -/
def Write.out {η : Type} : Write η → Write η
  | headers block fin flush p => headers block fin flush p
  | data chunk fin p => data (some (chunk.getD .empty)) fin p

lemma Write.promise_out {η : Type} (w : Write η) : w.out.promise = w.promise := by
  cases w <;> rfl

/-- An open outbox is a queue: what is submitted goes behind what is there, the front of it goes to
the gate when nothing is there, and what the gate hands back goes to the front again. -/
lemma Outbox.Effect.queue {μ : Type} {j : Outbox.Instr μ} {q q' : Outbox μ}
    {out : List (Todo (Outbox.Instr μ) (Outbox.Call μ) Outbox.Note)}
    (effect : Outbox.Effect j q q' out) (opened : q'.closed = none) :
    Outbox.atGate [.todo (.work j)] ++ q.pending ++ Outbox.submits (.own (.work j)) =
        Outbox.atGate (out.map .todo) ++ q'.pending ∧
      (Outbox.atGate (out.map .todo) = [] ∨ q.testing = false) := by
  cases effect with
  | late closed | dropped closed => exact absurd (closed.symm.trans opened) (Option.some_ne_none _)
  | closes _ => cases opened
  | tests _ untested pending =>
    exact ⟨by simp [Outbox.gateEntry, Outbox.submits, pending], .inr untested⟩
  | _ => exact ⟨by simp_all [Outbox.gateEntry, Outbox.submits], .inl rfl⟩

/-- An outbox lets go of its writes in their order, or it fails them. What it has not let go is what
is pending, and once it is closed all that was pending then and all that came later. -/
lemma Outbox.Effect.keeps {μ : Type} {j : Outbox.Instr μ} {q q' : Outbox μ} {left : List μ}
    {out : List (Todo (Outbox.Instr μ) (Outbox.Call μ) Outbox.Note)}
    (effect : Outbox.Effect j q q' out) (pending : q.closed = none → left = q.pending) :
    ∃ left', Outbox.atGate [.todo (.work j)] ++ left ++ Outbox.submits (.own (.work j)) =
        Outbox.atGate (out.map .todo) ++ left' ∧
      (Outbox.atGate (out.map .todo) = [] ∨ q.testing = false) ∧
      (q'.closed = none → left' = q'.pending) ∧
      (q'.closed ≠ none → ∀ w ∈ left',
        (q.closed ≠ none ∧ w ∈ left) ∨ ∃ cause, .call (.cancel w cause) ∈ out) := by
  by_cases opened : q'.closed = none
  · obtain ⟨moved, in_turn⟩ := effect.queue opened
    refine ⟨q'.pending, ?_, in_turn, fun _ => rfl, fun closed => absurd opened closed⟩
    rw [pending (effect.opened_before opened)]
    exact moved
  · cases effect with
    | first opened' | queued opened' | tests opened' | putBack opened' | drained opened'
    | rests opened' => exact absurd opened' opened
    | @late q w cause closed =>
      refine ⟨left ++ [w], by simp [Outbox.gateEntry, Outbox.submits], .inl rfl,
        fun opened' => absurd opened' opened, fun _ w' hw => ?_⟩
      rcases List.mem_append.mp hw with before | now
      · exact .inl ⟨opened, before⟩
      · obtain rfl := List.mem_singleton.mp now
        exact .inr ⟨cause, List.mem_cons_self⟩
    | @dropped q w cause closed =>
      refine ⟨w :: left, by simp [Outbox.gateEntry, Outbox.submits], .inl rfl,
        fun opened' => absurd opened' opened, fun _ w' hw => ?_⟩
      rcases List.mem_cons.mp hw with rfl | before
      · exact .inr ⟨cause, List.mem_cons_self⟩
      · exact .inl ⟨opened, before⟩
    | @closes q cause opened_before =>
      have all_cancelled : ∀ w ∈ left, .call (.cancel w cause) ∈
          Outbox.warning cause q.pending ++ q.pending.map fun w => .call (.cancel w cause) := by
        intro w hw
        rw [pending opened_before] at hw
        exact List.mem_append_right _ (List.mem_map_of_mem hw)
      refine ⟨left, ?_, .inl ?_, fun opened' => absurd opened' opened,
        fun _ w hw => .inr ⟨cause, all_cancelled w hw⟩⟩
      · rw [Outbox.map_todo_closes]
        simp [Outbox.gateEntry, Outbox.submits]
      · rw [Outbox.map_todo_closes]
        simp
    | _ =>
      exact ⟨left, by simp [Outbox.gateEntry, Outbox.submits], .inl rfl,
        fun opened' => absurd opened' opened, fun _ w hw => .inl ⟨opened, hw⟩⟩

/-- Only the gate hands a write back. -/
lemma Outbox.Effect.none_refused {μ : Type} {j : Outbox.Instr μ} {q q' : Outbox μ}
    {out : List (Todo (Outbox.Instr μ) (Outbox.Call μ) Outbox.Note)}
    (effect : Outbox.Effect j q q' out) (w : μ) : .work (.refused w) ∉ out := by
  cases effect with
  | closes opened =>
    unfold Outbox.warning
    split <;> simp
  | _ => simp

namespace Endpoint

variable {η : Type} {allowed : Thread → Operation η → Prop} {o : Options} {owner : Thread}
  {h : Past η} {m m' : Live η} {rest agenda agenda' : Agenda η} {a : Deed η} {i : StreamInstr η}
  {e : Endpoint η} {q : PromiseId → Bool} {left left' : List (Write η)}

/-- The write that a job leaves to the outbox. -/
def queues : Job η → List (Write η)
  | .enqueue w => [w.out]
  | _ => []

/-- The promise of headers that a job sends right away. -/
def hurries : Job η → List PromiseId
  | .writeHeaders _ _ _ p => [p]
  | _ => []

/-- The writes that were left to the outbox, in the order in which they were called. -/
def submitted (h : Past η) : List (Write η) := asked queues h

/-- The write that a primitive sends. -/
def frameOf : StreamCall η → List (Write η)
  | .conn (.sendHeaders _ block fin _ flush p) => [.headers block fin flush p]
  | .conn (.sendData _ bytes fin p) => [.data (some bytes) fin p]
  | _ => []

def sendsFrame : Deed η → List (Write η)
  | .own (.call c) => frameOf c
  | _ => []

/-- The frames that were handed to the connection with certain promises, in this order. -/
def frames (q : PromiseId → Bool) (h : Past η) : List (Write η) :=
  h.flatMap fun b => (sendsFrame b.2).filter (q ·.promise)

/-- A write that was taken out of the outbox and has not gone out. -/
def gateEntry (q : PromiseId → Bool) :
    Entry (StreamInstr η) (StreamCall η) StreamNote → List (Write η)
  | .todo (.work (.attempt w)) | .todo (.work (.outbox (.refused w))) => [w.out]
  | .todo (.call c) => (frameOf c).filter (q ·.promise)
  | _ => []

def atGate (q : PromiseId → Bool) (agenda : Agenda η) : List (Write η) :=
  agenda.flatMap (gateEntry q)

def submittingEntry : Entry (StreamInstr η) (StreamCall η) StreamNote → List (Write η)
  | .todo (.work (.outbox (.submit w))) => [w.out]
  | _ => []

/-- The writes that the outbox gets next. -/
def submitting (agenda : Agenda η) : List (Write η) := agenda.flatMap submittingEntry

section Views

variable (b : Live η × Deed η) (x : Entry (StreamInstr η) (StreamCall η) StreamNote)

@[simp] lemma frames_snoc :
    frames q (h ++ [b]) = frames q h ++ (sendsFrame b.2).filter (q ·.promise) := by
  simp [frames]

@[simp] lemma atGate_cons : atGate q (x :: agenda) = gateEntry q x ++ atGate q agenda := rfl

@[simp] lemma atGate_append : atGate q (agenda ++ agenda') = atGate q agenda ++ atGate q agenda' :=
  List.flatMap_append

@[simp] lemma submitting_cons :
    submitting (x :: agenda) = submittingEntry x ++ submitting agenda := rfl

@[simp] lemma submitting_append :
    submitting (agenda ++ agenda') = submitting agenda ++ submitting agenda' :=
  List.flatMap_append

end Views

lemma queues_ofCalls : OfCalls (queues : Job η → List (Write η)) := ⟨rfl, rfl⟩

lemma hurries_ofCalls : OfCalls (hurries : Job η → List PromiseId) := ⟨rfl, rfl⟩

/-! ## A write at the gate -/

/-- A write that has not gone out belongs to work at the gate, which is below it at the latest. -/
def Gated (q : PromiseId → Bool) : Agenda η → Prop
  | [] => True
  | x :: rest => (gateWork (x :: rest) = 0 → gateEntry q x = []) ∧ Gated q rest

lemma Gated.atGate_eq_nil (gated : Gated q agenda) (idle : gateWork agenda = 0) :
    atGate q agenda = [] := by
  induction agenda with
  | nil => rfl
  | cons x rest ih =>
    have idle_below : gateWork rest = 0 := by
      rw [gateWork_cons] at idle
      omega
    rw [atGate_cons, gated.1 idle, ih gated.2 idle_below]
    rfl

lemma gated_of_none (none_at_gate : atGate q agenda = []) : Gated q agenda := by
  induction agenda with
  | nil => trivial
  | cons x rest ih =>
    obtain ⟨none_first, none_later⟩ := List.append_eq_nil_iff.mp none_at_gate
    exact ⟨fun _ => none_first, ih none_later⟩

lemma Gated.append (above : Gated q agenda) (below : Gated q agenda') :
    Gated q (agenda ++ agenda') := by
  induction agenda with
  | nil => exact below
  | cons x rest ih =>
    refine ⟨fun idle => above.1 ?_, ih above.2⟩
    have all_idle : gateWork (x :: rest) + gateWork agenda' = 0 := by
      rw [← gateWork_append]
      exact idle
    omega

/-! ## What each instruction does to the writes -/

/-- A job submits its write, and sends nothing else that waits. -/
lemma perform_queues (e : Endpoint η) (job : Job η) (direct : ∀ p ∈ hurries job, q p = false) :
    atGate q ((e.perform job).2.map .todo) = [] ∧
      submitting ((e.perform job).2.map .todo) = queues job := by
  cases job with
  | writeHeaders block fin flush p =>
    have other : q p = false := direct p (List.mem_singleton.mpr rfl)
    simp only [perform, headersOut]
    (repeat' split) <;>
      simp [atGate, gateEntry, frameOf, submitting, submittingEntry, queues, Write.promise, other]
  | data bytes | fin trailers | reset code | changePriority p | toggleWritable | close
  | writeFrame frame p | writeReset code | announcePriority p =>
    simp only [perform, reset]
    (repeat' split) <;> exact ⟨rfl, rfl⟩
  | _ => exact ⟨rfl, rfl⟩

lemma gated_attempt (e : Endpoint η) (w : Write η) : Gated q ((e.attempt w).2.map .todo) := by
  unfold attempt
  split
  · exact ⟨nofun, trivial⟩
  · exact ⟨nofun, trivial⟩
  · cases w with
    | headers block fin flush p => cases fin <;> simp [headersOut, Gated, isGateWork, gateEntry]
    | data chunk fin p =>
      cases fin <;> simp [Gated, isGateWork, gateEntry, trace]

/-- A write that the gate looks at goes out, or back to the outbox. -/
lemma attempt_goesOn (e : Endpoint η) (w : Write η) (waits : q w.promise = true) :
    atGate q ((e.attempt w).2.map .todo) = [w.out] ∧
      submitting ((e.attempt w).2.map .todo) = [] := by
  unfold attempt
  split
  · exact ⟨rfl, rfl⟩
  · exact ⟨rfl, rfl⟩
  · cases w with
    | headers block fin flush p =>
      simp only [Write.promise] at waits
      cases fin <;>
        simp [headersOut, atGate, gateEntry, frameOf, submitting, submittingEntry, Write.out,
          Write.promise, waits]
    | data chunk fin p =>
      simp only [Write.promise] at waits
      cases fin <;>
        simp [atGate, gateEntry, frameOf, submitting, submittingEntry, trace, Write.out,
          Write.promise, waits]

/-- What the outbox leaves to do is left to the stream. -/
lemma atGate_ofOutbox
    (out : List (Todo (Outbox.Instr (Write η)) (Outbox.Call (Write η)) Outbox.Note))
    (none_refused : ∀ w, .work (.refused w) ∉ out) :
    atGate q ((out.flatMap ofOutbox).map .todo : Agenda η) =
      (Outbox.atGate (out.map .todo)).map Write.out := by
  induction out with
  | nil => rfl
  | cons x out ih =>
    rw [List.flatMap_cons, List.map_append, atGate_append,
      ih fun w refused => none_refused w (List.mem_cons_of_mem _ refused), List.map_cons,
      Outbox.atGate_cons, List.map_append]
    rcases x with j | c | n
    · cases j with
      | refused w => exact absurd List.mem_cons_self (none_refused w)
      | _ => rfl
    · cases c <;> rfl
    · cases n <;> rfl

lemma submitting_exec (other : ∀ job, i ≠ .perform job) :
    submitting ((exec i e).2.map .todo) = [] := by
  refine view_exec fun x leaves => ?_
  cases leaves with
  | outbox job no_verdict => exact absurd rfl (other job)
  | _ => rfl

/-- Only jobs, the outbox and its gate have to do with writes. -/
lemma atGate_exec (other : ∀ job, i ≠ .perform job) (no_attempt : ∀ w, i ≠ .attempt w)
    (no_outbox : ∀ j, i ≠ .outbox j) : atGate q ((exec i e).2.map .todo) = [] := by
  refine view_exec fun x leaves => ?_
  cases leaves with
  | sends job near | outbox job no_verdict => exact absurd rfl (other job)
  | sendsQueued w near | refuses w w' => exact absurd rfl (no_attempt w)
  | tests j w => exact absurd rfl (no_outbox j)
  | @counts t op p counting =>
    cases p with
    | sendHeaders id block fin priority flush p | sendData id bytes fin p => cases counting
    | _ => rfl
  | _ => rfl

/-! ## Where the writes are -/

/-- All that was submitted has gone out, is at the gate, is left behind, or is submitted next, in
this order. -/
structure Lined (q : PromiseId → Bool) (left : List (Write η)) (h : Past η) (m : Live η) :
    Prop where
  whole : done queues h =
    frames q h ++ atGate q m.agenda ++ left.map Write.out ++ submitting m.agenda
  gated : Gated q m.agenda

lemma none_submitting_below {job : Job η}
    (shielded : CoveredNow shield ⟨e, .todo (.work (.perform job)) :: rest⟩) :
    submitting rest = [] := by
  refine view_below shielded rfl id fun x free => ?_
  unfold submittingEntry
  split
  · cases free
  · rfl

lemma Lined.perform {job : Job η} (direct : ∀ p ∈ hurries job, q p = false)
    (shielded : CoveredNow shield ⟨e, .todo (.work (.perform job)) :: rest⟩)
    (lined : Lined q left h ⟨e, .todo (.work (.perform job)) :: rest⟩) :
    Lined q left (h ++ [(⟨e, .todo (.work (.perform job)) :: rest⟩, .own (.work (.perform job)))])
      ⟨(exec (.perform job) e).1, (exec (.perform job) e).2.map .todo ++ rest⟩ := by
  obtain ⟨whole, gated⟩ := lined
  obtain ⟨none_at_gate, submits⟩ := perform_queues e job direct
  have out : (exec (.perform job) e).2 = (e.perform job).2 := rfl
  refine ⟨?_, (gated_of_none (by rw [out, none_at_gate])).append gated.2⟩
  rw [done_snoc, frames_snoc, atGate_append, submitting_append, out, none_at_gate, submits,
    none_submitting_below shielded, whole, submitting_cons, none_submitting_below shielded]
  simp [does, sendsFrame, gateEntry, submittingEntry]

lemma Lined.attempt {w : Write η} (waits : q w.promise = true)
    (lined : Lined q left h ⟨e, .todo (.work (.attempt w)) :: rest⟩) :
    Lined q left (h ++ [(⟨e, .todo (.work (.attempt w)) :: rest⟩, .own (.work (.attempt w)))])
      ⟨(exec (.attempt w) e).1, (exec (.attempt w) e).2.map .todo ++ rest⟩ := by
  obtain ⟨whole, gated⟩ := lined
  have out : (exec (.attempt w) e).2 = (e.attempt w).2 := rfl
  obtain ⟨goes_on, none_submitted⟩ := attempt_goesOn e w waits
  refine ⟨?_, (out ▸ gated_attempt e w).append gated.2⟩
  rw [done_snoc, frames_snoc, atGate_append, submitting_append, out, goes_on, none_submitted, whole]
  simp [does, sendsFrame, gateEntry, submittingEntry]

/-- What the outbox leaves to the gate is work at the gate itself. -/
lemma gated_outbox (j : Outbox.Instr (Write η)) (e : Endpoint η) :
    Gated q ((exec (.outbox j) e).2.map .todo) := by
  have each : ∀ x ∈ (exec (.outbox j) e).2.map .todo,
      isGateWork x = true ∨ gateEntry q x = [] := by
    intro x hx
    obtain ⟨y, hy, rfl⟩ := List.mem_map.mp hx
    cases exec_leaves _ e y hy with
    | tests j w => exact .inl rfl
    | _ => exact .inr rfl
  generalize (exec (.outbox j) e).2.map Entry.todo = agenda at each
  induction agenda with
  | nil => trivial
  | cons x rest ih =>
    refine ⟨fun idle => ?_, ih fun y hy => each y (List.mem_cons_of_mem _ hy)⟩
    refine (each x List.mem_cons_self).resolve_left fun works => ?_
    rw [gateWork_cons, if_pos works] at idle
    omega

/-- The outbox moves its writes on in their order. -/
lemma Lined.outbox {j : Outbox.Instr (Write η)}
    (moved : Outbox.atGate [.todo (.work j)] ++ left ++ Outbox.submits (.own (.work j)) =
      Outbox.atGate ((Outbox.exec j e.stream.outbox).2.map .todo) ++ left')
    (in_turn : Outbox.atGate ((Outbox.exec j e.stream.outbox).2.map .todo) = [] ∨
      e.stream.outbox.testing = false)
    (tended : Tended ⟨e, .todo (.work (.outbox j)) :: rest⟩)
    (lined : Lined q left h ⟨e, .todo (.work (.outbox j)) :: rest⟩) :
    Lined q left' (h ++ [(⟨e, .todo (.work (.outbox j)) :: rest⟩, .own (.work (.outbox j)))])
      ⟨(exec (.outbox j) e).1, (exec (.outbox j) e).2.map .todo ++ rest⟩ := by
  obtain ⟨whole, gated⟩ := lined
  have given : atGate q ((exec (.outbox j) e).2.map .todo) =
      (Outbox.atGate ((Outbox.exec j e.stream.outbox).2.map .todo)).map Write.out :=
    atGate_ofOutbox _ (Outbox.exec_effect j e.stream.outbox).none_refused
  have token : gateEntry q (.todo (.work (.outbox j)) : Entry (StreamInstr η) _ _) =
        (Outbox.atGate [.todo (.work j)]).map Write.out ∧
      submittingEntry (.todo (.work (.outbox j)) : Entry (StreamInstr η) _ _) =
        (Outbox.submits (.own (.work j))).map Write.out := by
    cases j <;> exact ⟨rfl, rfl⟩
  refine ⟨?_, (gated_outbox j e).append gated.2⟩
  rw [done_snoc, frames_snoc, atGate_append, submitting_append, submitting_exec (by simp), given,
    whole, atGate_cons, submitting_cons, token.1, token.2]
  simp only [does, sendsFrame, List.filter_nil, List.append_nil, List.nil_append]
  by_cases idle : gateWork rest = 0
  · have none_below : atGate q rest = [] := gated.2.atGate_eq_nil idle
    have moved_out := congrArg (List.map Write.out) moved
    simp only [List.map_append] at moved_out
    simp only [none_below, List.append_nil, List.append_assoc] at moved_out ⊢
    rw [← List.append_assoc _ _ (submitting rest), ← List.append_assoc _ _ (submitting rest),
      moved_out]
    simp
  · -- Another write is at the gate, so nothing gets there.
    have one : Outbox.tests [.todo (.work j)] + gateWork rest = e.stream.outbox.testing.toNat :=
      (work_outbox j rest).1.symm.trans tended.one
    have le_one := Bool.toNat_le e.stream.outbox.testing
    have none_now : Outbox.atGate [.todo (.work j)] = [] := Outbox.atGate_eq_nil (by omega)
    have none_left : Outbox.atGate ((Outbox.exec j e.stream.outbox).2.map .todo) = [] := by
      refine in_turn.resolve_right fun untested => ?_
      rw [untested] at one
      exact idle (Nat.add_eq_zero_iff.mp one).2
    rw [none_now, none_left, List.nil_append, List.nil_append] at moved
    rw [none_now, none_left, ← moved]
    simp

lemma Lined.other (other : ∀ job, i ≠ .perform job) (no_attempt : ∀ w, i ≠ .attempt w)
    (no_outbox : ∀ j, i ≠ .outbox j) (lined : Lined q left h ⟨e, .todo (.work i) :: rest⟩) :
    Lined q left (h ++ [(⟨e, .todo (.work i) :: rest⟩, .own (.work i))])
      ⟨(exec i e).1, (exec i e).2.map .todo ++ rest⟩ := by
  obtain ⟨whole, gated⟩ := lined
  have none_left := atGate_exec (q := q) (e := e) other no_attempt no_outbox
  have nothing : gateEntry q (.todo (.work i)) = [] ∧ submittingEntry (.todo (.work i)) = [] ∧
      does queues (.own (.work i)) = [] := by
    cases i with
    | perform job => exact absurd rfl (other job)
    | attempt w => exact absurd rfl (no_attempt w)
    | outbox j => exact absurd rfl (no_outbox j)
    | _ => exact ⟨rfl, rfl, rfl⟩
  obtain ⟨none_at_gate, none_submitted, none_done⟩ := nothing
  refine ⟨?_, (gated_of_none none_left).append gated.2⟩
  rw [done_snoc, frames_snoc, atGate_append, submitting_append, none_left, submitting_exec other,
    none_done, whole, atGate_cons, submitting_cons, none_at_gate, none_submitted]
  simp [sendsFrame]

/-- Nothing but an instruction moves a write, except to the connection. -/
lemma Lined.outer (outer : ∀ i, a ≠ .own (.work i)) (lined : Lined q left h m)
    (move : Machine.Move component (Called allowed) m a m') : Lined q left (h ++ [(m, a)]) m' := by
  obtain ⟨whole, gated⟩ := lined
  cases move using Machine.Move.elim with
  | work e i rest => exact absurd rfl (outer i)
  | call e c rest =>
    refine ⟨?_, fun _ => rfl, gated.2⟩
    rw [done_snoc, frames_snoc, whole]
    simp [does, sendsFrame, gateEntry, submittingEntry]
  | note e s rest =>
    refine ⟨?_, gated.2⟩
    rw [done_snoc, frames_snoc, whole]
    simp [does, sendsFrame, gateEntry, submittingEntry]
  | invoke m is called =>
    refine ⟨?_, ?_⟩
    · rw [done_snoc, frames_snoc, whole]
      cases called <;> simp [Machine.invoke, does, sendsFrame, gateEntry, submittingEntry]
    · cases called <;> exact ⟨fun _ => rfl, gated⟩
  | reply e c rest f =>
    have none_at_gate : atGate q ((component.resume c (f c)).map .todo : Agenda η) = [] :=
      view_resume (fun _ _ => rfl) (fun _ => rfl) c (f c)
    have none_submitting : submitting ((component.resume c (f c)).map .todo : Agenda η) = [] :=
      view_resume (fun _ _ => rfl) (fun _ => rfl) c (f c)
    refine ⟨?_, (gated_of_none none_at_gate).append gated.2⟩
    rw [done_snoc, frames_snoc, whole, atGate_append, submitting_append, none_at_gate,
      none_submitting]
    simp [does, sendsFrame, gateEntry, submittingEntry]

/-! ## What is left behind -/

/-- A write has failed, or its failure is about to be noted. -/
def GivenUp (h : Past η) (agenda : Agenda η) (w : Write η) : Prop :=
  HasFailed w h ∨ ∃ cause, .todo (.note (.failed w.promise cause)) ∈ agenda

/-- What an outbox has not let go waits in it. Once it is closed, all of this is given up. -/
structure Behind (left : List (Write η)) (h : Past η) (m : Live η) : Prop where
  pending : m.state.stream.outbox.closed = none → left = m.state.stream.outbox.pending
  given_up : m.state.stream.outbox.closed ≠ none → ∀ w ∈ left, GivenUp h m.agenda w

lemma GivenUp.step {w : Write η} {may : Live η → List (StreamInstr η) → Prop}
    (given_up : GivenUp h m.agenda w) (move : Machine.Move component may m a m') :
    GivenUp (h ++ [(m, a)]) m'.agenda w := by
  rcases given_up with failed | ⟨cause, noted⟩
  · exact .inl (failed.snoc _)
  · cases move using Machine.Move.elim with
    | work e i rest =>
      have later := List.mem_of_ne_of_mem (by simp) noted
      exact .inr ⟨cause, List.mem_append_right _ later⟩
    | call e c rest =>
      have later := List.mem_of_ne_of_mem (by simp) noted
      exact .inr ⟨cause, List.mem_cons_of_mem _ later⟩
    | note e s rest =>
      rcases List.mem_cons.mp noted with now | later
      · obtain rfl := Todo.note.inj (Entry.todo.inj now)
        exact .inl ⟨cause, by simp [failures, failure]⟩
      · exact .inr ⟨cause, later⟩
    | invoke m is asked => exact .inr ⟨cause, List.mem_append_right _ noted⟩
    | reply e c rest f =>
      have later := List.mem_of_ne_of_mem (by simp) noted
      exact .inr ⟨cause, List.mem_append_right _ later⟩

/-- A step that leaves the outbox alone leaves behind what was left behind. -/
lemma Behind.step {may : Live η → List (StreamInstr η) → Prop} (behind : Behind left h m)
    (same : m'.state.stream.outbox = m.state.stream.outbox)
    (move : Machine.Move component may m a m') : Behind left (h ++ [(m, a)]) m' := by
  refine ⟨fun opened => ?_, fun closed w hw => ?_⟩
  · rw [same] at opened ⊢
    exact behind.pending opened
  · rw [same] at closed
    exact (behind.given_up closed w hw).step move

lemma cancelled_of_outbox {w : Write η} {cause : Fault}
    {out : List (Todo (Outbox.Instr (Write η)) (Outbox.Call (Write η)) Outbox.Note)}
    (cancelled : .call (.cancel w cause) ∈ out) :
    .todo (.note (.failed w.promise cause)) ∈ ((out.flatMap ofOutbox).map .todo : Agenda η) :=
  List.mem_map_of_mem (List.mem_flatMap.mpr ⟨_, cancelled, List.mem_singleton.mpr rfl⟩)

/-- Every write whose job is done has gone out, is at the gate, is submitted next, or is left
behind in the outbox. -/
def Queued (q : PromiseId → Bool) (h : Past η) (m : Live η) : Prop :=
  ∃ left, Lined q left h m ∧ Behind left h m

/-- The promises that `q` tells are those of the writes that wait. -/
structure Tells (q : PromiseId → Bool) (h : Past η) : Prop where
  waiting : ∀ w ∈ submitted h, q w.promise = true
  hurried : ∀ p ∈ asked hurries h, q p = false

/-- As far as their jobs are done, the promises that `q` tells are those of the writes that wait. -/
structure TellsDone (q : PromiseId → Bool) (h : Past η) : Prop where
  waiting : ∀ w ∈ done queues h, q w.promise = true
  hurried : ∀ p ∈ done hurries h, q p = false

lemma TellsDone.before {b : Live η × Deed η} (tells : TellsDone q (h ++ [b])) : TellsDone q h := by
  refine ⟨fun w hw => tells.waiting w ?_, fun p hp => tells.hurried p ?_⟩
  · rw [done_snoc]
    exact List.mem_append_left _ hw
  · rw [done_snoc]
    exact List.mem_append_left _ hp

lemma queued_outbox {j : Outbox.Instr (Write η)}
    (tended : Tended ⟨e, .todo (.work (.outbox j)) :: rest⟩)
    (queued : Queued q h ⟨e, .todo (.work (.outbox j)) :: rest⟩) :
    Queued q (h ++ [(⟨e, .todo (.work (.outbox j)) :: rest⟩, .own (.work (.outbox j)))])
      ⟨(exec (.outbox j) e).1, (exec (.outbox j) e).2.map .todo ++ rest⟩ := by
  obtain ⟨left, lined, behind⟩ := queued
  have step : Machine.Move component (fun _ _ => True) _ (.own (.work (.outbox j))) _ :=
    .work e (.outbox j) rest
  have effect := Outbox.exec_effect j e.stream.outbox
  obtain ⟨left', moved, in_turn, pending, given_up⟩ := effect.keeps behind.pending
  refine ⟨left', lined.outbox moved in_turn tended, pending, fun closed w hw => ?_⟩
  rcases given_up closed w hw with ⟨closed_before, before⟩ | ⟨cause, cancelled⟩
  · exact (behind.given_up closed_before w before).step step
  · exact .inr ⟨cause, List.mem_append_left _ (cancelled_of_outbox cancelled)⟩

lemma queued_work (queued : Queued q h ⟨e, .todo (.work i) :: rest⟩)
    (tells : TellsDone q (h ++ [(⟨e, .todo (.work i) :: rest⟩, .own (.work i))]))
    (tended : Tended ⟨e, .todo (.work i) :: rest⟩)
    (shielded : CoveredNow shield ⟨e, .todo (.work i) :: rest⟩) :
    Queued q (h ++ [(⟨e, .todo (.work i) :: rest⟩, .own (.work i))])
      ⟨(exec i e).1, (exec i e).2.map .todo ++ rest⟩ := by
  have step : Machine.Move component (fun _ _ => True) _ (.own (.work i)) _ := .work e i rest
  obtain ⟨left, lined, behind⟩ := queued
  cases i with
  | perform job =>
    refine ⟨left, lined.perform (fun p hp => tells.hurried p ?_) shielded,
      behind.step (perform_outbox e job) step⟩
    rw [done_snoc]
    exact List.mem_append_right _ hp
  | attempt w =>
    refine ⟨left, lined.attempt ?_, behind.step (exec_outbox (by simp)) step⟩
    rw [← Write.promise_out]
    refine tells.before.waiting w.out ?_
    rw [lined.whole]
    simp [gateEntry]
  | outbox j => exact queued_outbox tended ⟨left, lined, behind⟩
  | _ =>
    exact ⟨left, lined.other (by simp) (by simp) (by simp),
      behind.step (exec_outbox (by simp)) step⟩

lemma queued_step (queued : Queued q h m) (tells : TellsDone q (h ++ [(m, a)]))
    (tended : Tended m) (shielded : CoveredNow shield m)
    (move : Machine.Move component (Called allowed) m a m') : Queued q (h ++ [(m, a)]) m' := by
  by_cases works : ∃ i, a = .own (.work i)
  · obtain ⟨i, rfl⟩ := works
    cases move using Machine.Move.elim with
    | work e i rest => exact queued_work queued tells tended shielded
  · obtain ⟨left, lined, behind⟩ := queued
    have outer : ∀ i, a ≠ .own (.work i) := fun i same => works ⟨i, same⟩
    refine ⟨left, lined.outer outer move, behind.step ?_ move⟩
    cases move using Machine.Move.elim with
    | work e i rest => exact absurd rfl (outer i)
    | _ => rfl

/-- Whatever is called: the writes go out in the order in which their jobs are done, and those
that do not go out are left behind in the outbox. -/
lemma queued_of_runs (run : RunsFreely allowed o owner h m) (tells : TellsDone q h) :
    Queued q h m := by
  induction run with
  | start => exact ⟨[], ⟨rfl, trivial⟩, fun _ => rfl, nofun⟩
  | step run move ih =>
    have anyhow := anyhow_of_freely (fun _ _ may => may) run
    exact queued_step (ih tells.before) tells (tended_of_runs anyhow).1 (shielded_of_runs run) move

/-- While the outbox is open, all that was submitted has gone out, is at the gate, is pending, or
is submitted next, in this order. -/
structure Sending (q : PromiseId → Bool) (h : Past η) (m : Live η) : Prop where
  whole : m.state.stream.outbox.closed = none → done queues h =
    frames q h ++ atGate q m.agenda ++ m.state.stream.outbox.pending.map Write.out ++
      submitting m.agenda
  gated : Gated q m.agenda

/-- While the outbox is open, every write whose job is done has gone out, or is kept by the stream,
and the writes are in the order in which their jobs were done. -/
theorem sending_of_runs (keeps : ∀ t op, allowed t op → Kept t op)
    (run : RunsFreely allowed o owner h m) (tells : Tells q h) : Sending q h m := by
  have anyhow := anyhow_of_freely keeps run
  have done_asked {β : Type} {f : Job η → List β} (of_calls : OfCalls f) {x : β}
      (was_done : x ∈ done f h) : x ∈ asked f h := by
    refine (accounted_of_runs of_calls anyhow).mem_iff.mpr ?_
    simp [placed, was_done]
  have tells_done : TellsDone q h :=
    ⟨fun w hw => tells.waiting w (done_asked queues_ofCalls hw),
      fun p hp => tells.hurried p (done_asked hurries_ofCalls hp)⟩
  obtain ⟨left, lined, behind⟩ := queued_of_runs run tells_done
  refine ⟨fun opened => ?_, lined.gated⟩
  rw [← behind.pending opened]
  exact lined.whole

/-- The frames of the writes that had to wait, told from headers sent right away by their
promises. -/
def waitingFrames (h : Past η) : List (Write η) :=
  frames (fun p => !(asked hurries h).contains p) h

/-- A promise can be given away once: none goes both with a write that waits and with headers that
do not. -/
def PromisesApart (h : Past η) : Prop := ∀ w ∈ submitted h, w.promise ∉ asked hurries h

lemma tells_of_apart (apart : PromisesApart h) :
    Tells (fun p => !(asked hurries h).contains p) h := by
  refine ⟨fun w hw => ?_, fun p hp => ?_⟩
  · simpa using apart w hw
  · simpa using hp

end Endpoint

end StreamControl
