import StreamControl.Proofs.Run
import StreamControl.TaskLoop

/-!
# Runs of a task loop

Any thread posts tasks, clones and drops handles, and drives the runner, at any moment, also from
inside a task. `Effect` says once what each instruction can do.
-/

namespace StreamControl.TaskLoop

variable {τ : Type}

/-- A task loop among its surroundings. -/
abbrev Live (τ : Type) := Machine (TaskLoop τ) (Instr τ) (Call τ) (Note τ)

abbrev Agenda (τ : Type) := List (Entry (Instr τ) (Call τ) (Note τ))

abbrev Deed (τ : Type) := Act (Instr τ) (Call τ) (Note τ) (fun _ => Unit)

abbrev Past (τ : Type) := History (TaskLoop τ) (Instr τ) (Call τ) (Note τ) (fun _ => Unit)

/-- A runner goes on with what it is doing; nobody asks for this. -/
def isGoing : Instr τ → Bool
  | .passNext _ | .pollNext _ => true
  | _ => false

/-- What is asked of a task loop, by any thread and at any moment. -/
inductive Request : List (Instr τ) → Prop
  | ask (i : Instr τ) (asked : isGoing i = false) : Request [i]

def isRequest : List (Instr τ) → Bool
  | [i] => !isGoing i
  | _ => false

lemma request_of_isRequest {is : List (Instr τ)} (asked : isRequest is = true) : Request is := by
  unfold isRequest at asked
  split at asked
  · exact .ask _ (by simpa using asked)
  · cases asked

/-- The runs of a task loop, whatever its tasks do and whoever drives its runner. -/
abbrev Runs (owner : Thread) (h : Past τ) (m : Live τ) : Prop :=
  Machine.Run component (fun _ => Request) (.idle (fresh owner)) h m

/-- Whom a loop wakes that has something to do again. -/
def woken (l : TaskLoop τ) : List (Todo (Instr τ) (Call τ) (Note τ)) :=
  (l.waker.map (.note ∘ .woken)).toList

/-- What a pass says at its end. -/
def report (ran : Nat) : List (Todo (Instr τ) (Call τ) (Note τ)) :=
  (if ran = 0 then [] else [.note (.trace (.tasksRun ran))]) ++ [.note (.passed ran)]

/-- What an instruction does to a task loop, and what it leaves to do. -/
inductive Effect : Instr τ → TaskLoop τ → TaskLoop τ →
    List (Todo (Instr τ) (Call τ) (Note τ)) → Prop
  | posts {l : TaskLoop τ} {task : τ} (live : l.isLive = true) :
    Effect (.post task) l { l with pending := l.pending ++ [task], waker := none } (woken l)
  | refuses {l : TaskLoop τ} {task : τ} (gone : l.isLive = false) :
    Effect (.post task) l l [.note (.lost task), .note (.trace .loopGone)]
  -- a pass
  | passes {l : TaskLoop τ} {t : Thread} (ready : l.runner = .ready) :
    Effect (.pass t) l { l with owner := t, runner := .passing } [.work (.passNext 0)]
  | runs {l : TaskLoop τ} {ran : Nat} {task : τ} {rest : List τ}
      (pending : l.pending = task :: rest) :
    Effect (.passNext ran) l { l with pending := rest }
      [.call (.run task), .work (.passNext (ran + 1))]
  | ends {l : TaskLoop τ} {ran : Nat} (empty : l.pending = []) :
    Effect (.passNext ran) l { l with runner := .ready } (report ran)
  -- a future
  | serves {l : TaskLoop τ} (ready : l.runner = .ready) :
    Effect .serve l { l with runner := .serving false } []
  | polls {l : TaskLoop τ} {t : Thread} {w : Waker} {bound : Bool}
      (serving : l.runner = .serving bound) :
    Effect (.poll t w) l { l with owner := if bound then l.owner else t, runner := .polling }
      [.work (.pollNext w)]
  | runsPolled {l : TaskLoop τ} {w : Waker} {task : τ} {rest : List τ}
      (pending : l.pending = task :: rest) :
    Effect (.pollNext w) l { l with pending := rest } [.call (.run task), .work (.pollNext w)]
  | stops {l : TaskLoop τ} {w : Waker} (empty : l.pending = []) (none_left : l.handles = 0) :
    Effect (.pollNext w) l { l with runner := .stopped }
      [.note (.trace .loopStopped), .note (.polled w true)]
  | waits {l : TaskLoop τ} {w : Waker} (empty : l.pending = []) (some_left : l.handles ≠ 0) :
    Effect (.pollNext w) l { l with runner := .serving true, waker := some w }
      [.note (.polled w false)]
  -- handles
  | adds {l : TaskLoop τ} : Effect .addHandle l { l with handles := l.handles + 1 } []
  | drops {l : TaskLoop τ} (more : l.handles - 1 ≠ 0) :
    Effect .dropHandle l { l with handles := l.handles - 1 } []
  | dropsLast {l : TaskLoop τ} (last : l.handles - 1 = 0) :
    Effect .dropHandle l { l with handles := 0, waker := none } (woken l)
  | dropsAll {l : TaskLoop τ} :
    Effect .dropHandles l { l with handles := 0, waker := none } (woken l)
  -- the end of the runner
  | discards {l : TaskLoop τ} (idle : l.isIdle = true) :
    Effect .dropRunner l { l with runner := .dropped, pending := [] }
      (l.pending.map (.note ∘ .lost))
  /-- The runner is busy, or there is none any more. -/
  | busy {l : TaskLoop τ} (busy : l.isIdle = false) : Effect .dropRunner l l []
  -- what finds the runner doing something else
  | unready {l : TaskLoop τ} {i : Instr τ} (asked : (∃ t, i = .pass t) ∨ i = .serve)
      (unready : l.runner ≠ .ready) :
    Effect i l l []
  /-- There is no future, or it is busy. -/
  | unserved {l : TaskLoop τ} {t : Thread} {w : Waker}
      (unserved : ∀ bound, l.runner ≠ .serving bound) : Effect (.poll t w) l l []

theorem exec_effect (i : Instr τ) (l : TaskLoop τ) : Effect i l (exec i l).1 (exec i l).2 := by
  cases i with
  | post task =>
    simp only [exec]
    split
    · exact .posts ‹_›
    · exact .refuses (by simpa using ‹¬ l.isLive = true›)
  | pass t =>
    simp only [exec]
    split
    · exact .passes ‹_›
    · exact .unready (.inl ⟨t, rfl⟩) ‹_›
  | passNext ran =>
    simp only [exec]
    split
    · exact .runs ‹_›
    · exact .ends ‹_›
  | serve =>
    simp only [exec]
    split
    · exact .serves ‹_›
    · exact .unready (.inr rfl) ‹_›
  | poll t w =>
    simp only [exec]
    split
    · exact .polls ‹_›
    · exact .unserved ‹_›
  | pollNext w =>
    simp only [exec]
    split
    · exact .runsPolled ‹_›
    · split
      · exact .stops ‹_› ‹_›
      · exact .waits ‹_› ‹_›
  | addHandle => exact .adds
  | dropHandle =>
    simp only [exec]
    split
    · rename_i last
      simpa only [wake, last, woken] using Effect.dropsLast last
    · exact .drops ‹_›
  | dropHandles => exact .dropsAll
  | dropRunner =>
    simp only [exec]
    split
    · exact .discards ‹_›
    · exact .busy (by simpa using ‹¬ l.isIdle = true›)

end StreamControl.TaskLoop
