import StreamControl.Proofs.Allocation
import StreamControl.Proofs.Termination

/-!
# The stages of a stream

The stage that a stream is in is derived from facts that are kept in different places: whether it
has a protocol stream, whether it has ended, whether it has sent the end and whether its peer has
done so. Each of these facts changes once at most, so the stage can only advance, however the
operations of a stream are mixed and whoever looks at it.
-/

namespace StreamControl

/-- Which stage a stream may be in after it was in another one. -/
def Lifecycle.mayBecome : Lifecycle → Lifecycle → Bool
  | .idle, _ | _, .closed => true
  | .opened, s => s != .idle
  | s, s' => s == s'

lemma Slot.isAllocated_iff {slot : Slot} :
    slot.isAllocated = true ↔ ∃ id, slot = .allocated id := by
  cases slot <;> simp [Slot.isAllocated]

lemma Slot.isAllocated_eq_false {slot : Slot} : slot.isAllocated = false ↔ slot.id? = none := by
  cases slot <;> simp [Slot.isAllocated, Slot.id?]

lemma Slot.eq_allocated {slot : Slot} {id : Nat} (known : slot.id? = some id) :
    slot = .allocated id := by
  cases slot with
  | unallocated => cases known
  | allocated other => rw [Option.some.inj known]

/-- A frame that carries the end of what is sent. -/
def Primitive.isLast {η : Type} : Primitive η → Bool
  | .sendHeaders _ _ fin _ _ _ | .sendData _ _ fin _ => fin
  | _ => false

namespace Endpoint

variable {η : Type} {allowed : Thread → Operation η → Prop} {o : Options} {owner : Thread}
  {h : Past η} {m m' : Live η} {rest agenda : Agenda η} {a : Deed η} {i : StreamInstr η}
  {e e' e₁ e₁' : Endpoint η} {id : Nat}

/-! ## What a stream does not take back -/

/-- The peer sends again on an allocated stream, although it had finished. -/
def reopens (b : Live η × Deed η) : Bool :=
  match b.2 with
  | .own (.work (.setRemote true)) => b.1.state.stream.slot.isAllocated && !b.1.state.remoteOpen
  | _ => false

def NeverReopened (h : Past η) : Prop := h.any reopens = false

/-- The stream at every moment of its history, and as it is now. -/
def moments (h : Past η) (m : Live η) : List (Endpoint η) := h.map (·.1.state) ++ [m.state]

/-- One endpoint knows all that another one knew. -/
structure Advances (e e' : Endpoint η) : Prop where
  bound : ∀ {id}, e.stream.slot = .allocated id → e'.stream.slot = .allocated id
  ended : e.stream.hasEnded = true → e'.stream.hasEnded = true
  finSent : e.stream.finSent = true → e'.stream.finSent = true
  remote : e.stream.slot.isAllocated = true → e'.remoteOpen = true → e.remoteOpen = true

section Views

variable (b : Live η × Deed η)

lemma neverReopened_snoc : NeverReopened (h ++ [b]) ↔ NeverReopened h ∧ reopens b = false := by
  simp [NeverReopened]

@[simp] lemma moments_snoc : moments (h ++ [(m, a)]) m' = moments h m ++ [m'.state] := by
  simp [moments]

end Views

namespace Advances

lemma refl (e : Endpoint η) : Advances e e := ⟨id, id, id, fun _ => id⟩

lemma allocated (advances : Advances e e') (known : e.stream.slot.isAllocated = true) :
    e'.stream.slot.isAllocated = true := by
  obtain ⟨id, bound⟩ := Slot.isAllocated_iff.mp known
  exact Slot.isAllocated_iff.mpr ⟨id, advances.bound bound⟩

lemma trans (first : Advances e e₁) (second : Advances e₁ e') : Advances e e' where
  bound known := second.bound (first.bound known)
  ended known := second.ended (first.ended known)
  finSent known := second.finSent (first.finSent known)
  remote known opened := first.remote known (second.remote (first.allocated known) opened)

end Advances

lemma exec_sides (no_fin : i ≠ .finSent) (no_remote : ∀ remoteOpen, i ≠ .setRemote remoteOpen) :
    (exec i e).1.stream.finSent = e.stream.finSent ∧ (exec i e).1.remoteOpen = e.remoteOpen := by
  have alters := exec_alters i e
  generalize (exec i e).1 = e' at *
  cases alters with
  | finishes => exact absurd rfl no_fin
  | setsRemote remoteOpen => exact absurd rfl (no_remote remoteOpen)
  | _ => exact ⟨rfl, rfl⟩

lemma exec_bound (i : StreamInstr η) (bound : e.stream.slot = .allocated id) :
    (exec i e).1.stream.slot = .allocated id := by
  cases i with
  | bind other writable => rw [exec_bind_allocated bound, bound]
  | _ => rw [(exec_writable rfl).2, bound]

lemma advances_exec (i : StreamInstr η) (e : Endpoint η)
    (kept : reopens (⟨e, agenda⟩, .own (.work i)) = false) : Advances e (exec i e).1 := by
  refine ⟨exec_bound i, fun ended => ?_, fun sent => ?_, fun allocated opened => ?_⟩
  · by_cases performs : ∃ job, i = .perform job
    · obtain ⟨job, rfl⟩ := performs
      exact perform_hasEnded e job ended
    · rw [exec_hasEnded fun job same => performs ⟨job, same⟩]
      exact ended
  · cases i with
    | finSent => rfl
    | setRemote remoteOpen => exact sent
    | _ => exact (exec_sides (by simp) (by simp)).1.trans sent
  · cases i with
    | finSent => exact opened
    | setRemote remoteOpen =>
      obtain rfl : remoteOpen = true := opened
      simpa [reopens, allocated] using kept
    | _ => exact (exec_sides (by simp) (by simp)).2.symm.trans opened

lemma advances_step {may : Live η → List (StreamInstr η) → Prop}
    (kept : reopens (m, a) = false) (move : Machine.Move component may m a m') :
    Advances m.state m'.state := by
  cases move using Machine.Move.elim with
  | work e i rest => exact advances_exec i e kept
  | _ => exact .refl _

/-- Later moments know all that earlier ones knew. -/
lemma advances_of_runs {may : Live η → List (StreamInstr η) → Prop}
    (run : Machine.Run component may (.idle (fresh o owner)) h m) (once : NeverReopened h) :
    (moments h m).Pairwise Advances := by
  have with_last : (moments h m).Pairwise Advances ∧ ∀ e ∈ moments h m, Advances e m.state := by
    induction run with
    | start =>
      refine ⟨List.pairwise_singleton _ _, fun e he => ?_⟩
      obtain rfl := List.mem_singleton.mp he
      exact .refl _
    | step _ move ih =>
      obtain ⟨once, kept⟩ := (neverReopened_snoc _).mp once
      obtain ⟨ordered, last⟩ := ih once
      have later (e : Endpoint η) (he : e ∈ moments _ _) : Advances e _ :=
        (last e he).trans (advances_step kept move)
      rw [moments_snoc]
      refine ⟨List.pairwise_append.mpr ⟨ordered, List.pairwise_singleton _ _, ?_⟩, ?_⟩
      · intro e he e' he'
        obtain rfl := List.mem_singleton.mp he'
        exact later e he
      · intro e he
        rcases List.mem_append.mp he with before | now
        · exact later e before
        · obtain rfl := List.mem_singleton.mp now
          exact .refl _
  exact with_last.1

/-- What a thread takes the stage to be that looks at the protocol stream of one moment, and at
what the stream knows of its end at another. -/
def observed (e e' : Endpoint η) : Lifecycle :=
  .derive e.stream.slot.isAllocated e'.stream.hasEnded e'.stream.finSent e.remoteOpen

lemma derive_mayBecome : ∀ allocated allocated' ended ended' finSent finSent' remote remote' : Bool,
    (allocated = true → allocated' = true) → (ended = true → ended' = true) →
    (finSent = true → finSent' = true) → (allocated = true → remote' = true → remote = true) →
    (Lifecycle.derive allocated ended finSent remote).mayBecome
      (.derive allocated' ended' finSent' remote') = true := by
  decide

lemma Advances.mayBecome (first : Advances e e') (second : Advances e₁ e₁') :
    (observed e e₁).mayBecome (observed e' e₁') = true :=
  derive_mayBecome _ _ _ _ _ _ _ _ first.allocated second.ended second.finSent first.remote

/-! ## The end that is sent -/

/-- The stream takes note that it has sent the end. -/
def isFinishing : Entry (StreamInstr η) (StreamCall η) StreamNote → Bool
  | .todo (.work .finSent) => true
  | _ => false

/-- A last frame is handed over next. -/
def isLastDue : Entry (StreamInstr η) (StreamCall η) StreamNote → Bool
  | .todo (.call (.conn p)) => p.isLast
  | _ => false

def handsLast : Deed η → Bool
  | .own (.call (.conn p)) => p.isLast
  | _ => false

/-- A last frame was handed over. -/
def hasSentLast (h : Past η) : Bool := h.any fun b => handsLast b.2

@[simp] lemma hasSentLast_snoc (b : Live η × Deed η) :
    hasSentLast (h ++ [b]) = (hasSentLast h || handsLast b.2) := by
  simp [hasSentLast]

lemma allocated_of_directTarget {s : Stream η} (target : s.directTarget = .ok id) :
    s.slot = .allocated id := by
  unfold Stream.directTarget at target
  split at target
  · cases target
  · cases target
  · rename_i slot
    rw [slot, Except.ok.inj target]

lemma finishing_headersOut (e : Endpoint η) (id : Nat) (block : η) (fin flush : Bool)
    (p : PromiseId) :
    ((e.headersOut id block fin flush p).map .todo).any isFinishing =
      ((e.headersOut id block fin flush p).map .todo).any isLastDue := by
  cases fin <;> rfl

lemma finishing_perform (e : Endpoint η) (job : Job η) :
    ((e.perform job).2.map .todo).any isFinishing = ((e.perform job).2.map .todo).any isLastDue ∧
      (((e.perform job).2.map .todo).any isFinishing = true →
        e.stream.slot.isAllocated = true) := by
  cases job with
  | writeHeaders block fin flush p =>
    simp only [perform]
    split
    · exact ⟨rfl, fun none_due => absurd none_due Bool.false_ne_true⟩
    · rename_i id target
      refine ⟨finishing_headersOut e id block fin flush p, fun _ => ?_⟩
      rw [allocated_of_directTarget target]
      rfl
  | data bytes | fin trailers | reset code | changePriority p | toggleWritable | close
  | writeFrame frame p | writeReset code | announcePriority p =>
    simp only [perform, reset]
    (repeat' split) <;> exact ⟨rfl, fun none_due => absurd none_due Bool.false_ne_true⟩
  | _ => exact ⟨rfl, fun none_due => absurd none_due Bool.false_ne_true⟩

lemma finishing_attempt (e : Endpoint η) (w : Write η) :
    ((e.attempt w).2.map .todo).any isFinishing = ((e.attempt w).2.map .todo).any isLastDue ∧
      (((e.attempt w).2.map .todo).any isFinishing = true →
        e.stream.slot.isAllocated = true) := by
  unfold attempt
  split
  · exact ⟨rfl, fun none_due => absurd none_due Bool.false_ne_true⟩
  · exact ⟨rfl, fun none_due => absurd none_due Bool.false_ne_true⟩
  · rename_i id slot _
    refine ⟨?_, fun _ => by rw [slot]; rfl⟩
    cases w with
    | headers block fin flush p => cases fin <;> rfl
    | data chunk fin p => cases fin <;> rfl

/-- With every last frame the stream leaves a note to itself, and it does so while it has a
protocol stream. -/
lemma finishing_exec (i : StreamInstr η) (e : Endpoint η) :
    ((exec i e).2.map .todo).any isFinishing = ((exec i e).2.map .todo).any isLastDue ∧
      (((exec i e).2.map .todo).any isFinishing = true → e.stream.slot.isAllocated = true) := by
  by_cases performs : ∃ job, i = .perform job
  · obtain ⟨job, rfl⟩ := performs
    exact finishing_perform e job
  by_cases tests : ∃ w, i = .attempt w
  · obtain ⟨w, rfl⟩ := tests
    exact finishing_attempt e w
  have none_finishing : ((exec i e).2.map .todo).any isFinishing = false := by
    refine any_exec fun x leaves => ?_
    cases leaves with
    | finishes job => exact absurd ⟨job, rfl⟩ performs
    | finishesQueued w => exact absurd ⟨w, rfl⟩ tests
    | _ => rfl
  have none_last : ((exec i e).2.map .todo).any isLastDue = false := by
    refine any_exec fun x leaves => ?_
    cases leaves with
    | sends job => exact absurd ⟨job, rfl⟩ performs
    | sendsQueued w => exact absurd ⟨w, rfl⟩ tests
    | @counts t op p counting =>
      cases p with
      | sendHeaders | sendData => cases counting
      | _ => rfl
    | _ => rfl
  rw [none_finishing, none_last]
  exact ⟨rfl, fun due => absurd due Bool.false_ne_true⟩

/-- The stream knows that it has sent the end, or is about to note it, as soon as a last frame was
handed over or is handed over next. -/
structure Finishing (h : Past η) (m : Live η) : Prop where
  noted : (m.state.stream.finSent || m.agenda.any isFinishing) =
    (hasSentLast h || m.agenda.any isLastDue)
  allocated : (m.state.stream.finSent || m.agenda.any isFinishing) = true →
    m.state.stream.slot.isAllocated = true

lemma exec_allocated (i : StreamInstr η) (allocated : e.stream.slot.isAllocated = true) :
    (exec i e).1.stream.slot.isAllocated = true := by
  obtain ⟨id, bound⟩ := Slot.isAllocated_iff.mp allocated
  exact Slot.isAllocated_iff.mpr ⟨id, exec_bound i bound⟩

lemma finishing_work (finishing : Finishing h ⟨e, .todo (.work i) :: rest⟩) :
    Finishing (h ++ [(⟨e, .todo (.work i) :: rest⟩, .own (.work i))])
      ⟨(exec i e).1, (exec i e).2.map .todo ++ rest⟩ := by
  obtain ⟨noted, allocated⟩ := finishing
  by_cases notes : i = .finSent
  · rw [notes] at noted allocated ⊢
    refine ⟨?_, fun _ => allocated (by simp [isFinishing])⟩
    simpa [exec, modify, isFinishing, isLastDue, handsLast] using noted
  · have same : (exec i e).1.stream.finSent = e.stream.finSent := by
      cases i with
      | setRemote remoteOpen => rfl
      | _ => exact (exec_sides notes (by simp)).1
    have none_now : isFinishing (.todo (.work i) : Entry (StreamInstr η) _ _) = false := by
      cases i with
      | finSent => exact absurd rfl notes
      | _ => rfl
    obtain ⟨together, on_slot⟩ := finishing_exec i e
    rw [List.any_cons, List.any_cons, none_now, Bool.false_or] at noted
    rw [List.any_cons, none_now, Bool.false_or] at allocated
    refine ⟨?_, fun due => exec_allocated i ?_⟩
    · rw [hasSentLast_snoc, List.any_append, List.any_append, same, together,
        Bool.or_left_comm, noted]
      simp [isLastDue, handsLast, Bool.or_left_comm]
    · rw [List.any_append, same, Bool.or_left_comm, Bool.or_eq_true] at due
      exact due.elim on_slot allocated

lemma finishing_of_runs (run : RunsAnyhow allowed o owner h m) : Finishing h m := by
  induction run with
  | start => exact ⟨rfl, nofun⟩
  | step _ move ih =>
    cases move using Machine.Move.elim with
    | work e i rest => exact finishing_work ih
    | call e c rest =>
      refine ⟨?_, ih.allocated⟩
      rw [hasSentLast_snoc, Bool.or_assoc]
      cases c with
      | conn p => exact ih.noted
      | hook k => exact ih.noted
    | note e s rest =>
      exact ⟨by simpa [isFinishing, isLastDue, handsLast] using ih.noted, ih.allocated⟩
    | invoke m is asked =>
      cases asked <;>
        exact ⟨by simpa [Machine.invoke, isFinishing, isLastDue, handsLast] using ih.noted,
          ih.allocated⟩
    | reply e c rest f =>
      have none_resumed : ((component.resume c (f c)).map .todo).any isFinishing = false ∧
          ((component.resume c (f c)).map .todo).any isLastDue = false := by
        cases c with
        | conn p => cases p <;> exact ⟨rfl, rfl⟩
        | hook k => cases k <;> exact ⟨rfl, rfl⟩
      obtain ⟨noted, allocated⟩ := ih
      refine ⟨?_, ?_⟩
      · rw [hasSentLast_snoc, List.any_append, List.any_append, none_resumed.1, none_resumed.2]
        simpa [handsLast, isFinishing, isLastDue] using noted
      · rw [List.any_append, none_resumed.1]
        exact allocated

/-! ## A further allocation -/

/-- A deed of an allocation: it is called for, the connection is asked and answers, and a protocol
stream is bound. -/
def initiates : Deed η → Bool
  | .own (.work (.enter _ (.allocate _))) | .own (.work (.bind _ _)) => true
  | .own (.call (.conn (.canSend _))) | .answer (.conn (.canSend _)) _ => true
  | _ => false

/-- What is still to be done for an allocation that binds nothing. -/
def isInitiating : Entry (StreamInstr η) (StreamCall η) StreamNote → Bool
  | .todo (.call (.conn (.canSend _))) | .held (.conn (.canSend _)) => true
  | .todo (.work (.bind _ _)) | .todo (.work (.leave _)) | .todo (.note (.trace _)) => true
  | _ => false

/-- On an allocated stream an allocation leaves everything as it is. -/
lemma initiates_step {may : Live η → List (StreamInstr η) → Prop}
    (move : Machine.Move component may m a m') (further : initiates a = true)
    (allocated : m.state.stream.slot.isAllocated = true) :
    m'.state.stream = m.state.stream ∧
      ∃ added, m'.agenda = added ++ m.agenda.tail ∧ added.all isInitiating = true := by
  cases move using Machine.Move.elim with
  | work e i rest =>
    cases i with
    | enter t op =>
      cases op with
      | allocate id => exact ⟨rfl, _, rfl, rfl⟩
      | _ => cases further
    | bind id writable =>
      obtain ⟨existing, bound⟩ := Slot.isAllocated_iff.mp allocated
      simp only [component, exec_bind_allocated bound]
      exact ⟨trivial, _, rfl, rfl⟩
    | _ => cases further
  | call e c rest =>
    refine ⟨rfl, [.held c], rfl, ?_⟩
    cases c with
    | conn p =>
      cases p with
      | canSend id => rfl
      | _ => cases further
    | hook k => cases further
  | note e s rest => cases further
  | invoke m is asked => cases further
  | reply e c rest f =>
    cases c with
    | conn p =>
      cases p with
      | canSend id => exact ⟨rfl, _, rfl, rfl⟩
      | _ => cases further
    | hook k => cases further

/-! ## The stages -/

lemma advances_of_le {moments : List (Endpoint η)} {j k : Nat} (ordered : moments.Pairwise Advances)
    (le : j ≤ k) (at_j : moments[j]? = some e) (at_k : moments[k]? = some e') : Advances e e' := by
  obtain ⟨j_lt, rfl⟩ := List.getElem?_eq_some_iff.mp at_j
  obtain ⟨k_lt, rfl⟩ := List.getElem?_eq_some_iff.mp at_k
  rcases Nat.eq_or_lt_of_le le with rfl | lt
  · exact .refl _
  · exact List.pairwise_iff_getElem.mp ordered j k j_lt k_lt lt

lemma derive_eq_closed : ∀ allocated ended finSent remoteOpen : Bool,
    Lifecycle.derive allocated ended finSent remoteOpen = .closed ↔
      ended = true ∨ allocated = true ∧ finSent = true ∧ remoteOpen = false := by
  decide

lemma derive_eq_idle : ∀ allocated ended finSent remoteOpen : Bool,
    Lifecycle.derive allocated ended finSent remoteOpen = .idle ↔
      allocated = false ∧ ended = false := by
  decide

lemma isSendClosed_derive : ∀ allocated finSent remoteOpen : Bool,
    (Lifecycle.derive allocated false finSent remoteOpen).isSendClosed = true ↔
      allocated = true ∧ finSent = true := by
  decide

/-- What the stage of a stream is, and that it only advances. -/
structure Staged (allowed : Thread → Operation η → Prop) (h : Past η) (m : Live η) : Prop where
  forward : (moments h m).Pairwise fun e e' => e.lifecycle.mayBecome e'.lifecycle = true
  /-- Also where the protocol stream is looked at in one moment and the end of the stream in
  another, as long as nobody looks back. -/
  forward_observed : ∀ {j k j' k' : Nat} {e e' e₁ e₁' : Endpoint η}, j ≤ k → j' ≤ k' →
    (moments h m)[j]? = some e → (moments h m)[k]? = some e' →
    (moments h m)[j']? = some e₁ → (moments h m)[k']? = some e₁' →
    (observed e e₁).mayBecome (observed e' e₁') = true
  closed_iff : m.agenda = [] → (m.state.lifecycle = .closed ↔ hasEndedBy h = true ∨
    m.state.stream.slot.isAllocated = true ∧ hasSentLast h = true ∧ m.state.remoteOpen = false)
  idle_iff : m.state.lifecycle = .idle ↔ firstBound h = none ∧ hasEndedBy h = false
  sendClosed_iff : m.agenda = [] → hasEndedBy h = false →
    (m.state.lifecycle.isSendClosed = true ↔ hasSentLast h = true)
  id_kept : (moments h m).Pairwise fun e e' =>
    ∀ id, e.stream.slot.id? = some id → e'.stream.slot.id? = some id
  /-- A further allocation binds nothing, and leaves the rest of the stream as it is, too. -/
  further : ∀ {before m₁ a after}, h = before ++ (m₁, a) :: after → initiates a = true →
    m₁.state.stream.slot.isAllocated = true →
    ∃ m₂, Machine.Run component (fun _ => Asked allowed) m₂ after m ∧
      m₂.state.stream = m₁.state.stream ∧
      ∃ added, m₂.agenda = added ++ m₁.agenda.tail ∧ added.all isInitiating = true

/-- Let the peer's side of the protocol stream never open again. Whatever is called on any thread
and by any callback, a stream only advances, and at rest its stage tells what took effect and what
was handed over. -/
theorem staged_of_runs (run : RunsAnyhow allowed o owner h m) (once : NeverReopened h) :
    Staged allowed h m := by
  have ordered := advances_of_runs run once
  have ended := hasEnded_eq run
  have bound := id?_eq_firstBound run
  obtain ⟨noted, allocated⟩ := finishing_of_runs run
  have sent (returned : m.agenda = []) : m.state.stream.finSent = hasSentLast h := by
    simpa [returned] using noted
  refine ⟨ordered.imp fun advances => advances.mayBecome advances, ?_, fun returned => ?_, ?_,
    fun returned ongoing => ?_, ordered.imp fun advances id known => ?_, ?_⟩
  · intro j k j' k' e e' e₁ e₁' le le' at_j at_k at_j' at_k'
    exact (advances_of_le ordered le at_j at_k).mayBecome (advances_of_le ordered le' at_j' at_k')
  · rw [← ended, ← sent returned]
    exact derive_eq_closed _ _ _ _
  · rw [← ended, ← bound, ← Slot.isAllocated_eq_false]
    exact derive_eq_idle _ _ _ _
  · rw [← sent returned, Endpoint.lifecycle, Stream.lifecycle, ended, ongoing,
      isSendClosed_derive]
    exact ⟨And.right, fun known => ⟨allocated (by rw [known]; rfl), known⟩⟩
  · rw [advances.bound (Slot.eq_allocated known)]
    rfl
  · rintro before m₁ a after rfl further known
    obtain ⟨_, m₂, move, later⟩ := run.split
    exact ⟨m₂, later, initiates_step move further known⟩

/-- Another thread queues the end before the stream is allocated. After it went out the peer ends
its side, and the stream, which is closed then, is allocated once more. -/
def stepByStep : Past Nat × Live Nat :=
  Machine.drive component 200
    [.ask [.enter 1 (.writeHeaders 5 false true true 8)], .ask [.enter 0 .runLoop],
      .ask [.enter 0 (.allocate 1)], .reply (plainly true .success),
      .reply (plainly true .success), .reply (plainly true .success),
      .reply (plainly true .success), .ask [.setRemote false],
      .ask [.enter 0 (.allocate 3)], .reply (plainly true .success)]
    (.idle (fresh .standard 0))

theorem staged_stepByStep :
    RunsAnyhow Kept .standard 0 stepByStep.1 stepByStep.2 ∧ NeverReopened stepByStep.1 ∧
      Staged Kept stepByStep.1 stepByStep.2 ∧
      ((moments stepByStep.1 stepByStep.2).map lifecycle).eraseDups =
        [.idle, .opened, .halfClosedLocal, .closed] ∧
      stepByStep.2.state.stream.slot = .allocated 1 ∧ stepByStep.2.agenda = [] := by
  have run : RunsAnyhow Kept .standard 0 stepByStep.1 stepByStep.2 :=
    Machine.drive_run (fun _ _ _ => asked_of_isAsked kept_of_isKept) _ _ _ rfl
  exact ⟨run, rfl, staged_of_runs run rfl, by decide +kernel, rfl, rfl⟩

end Endpoint

end StreamControl
