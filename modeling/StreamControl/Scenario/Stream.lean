import StreamControl.Scenario.Completion
import StreamControl.Scenario.Stream.Script

/-!
# Scenarios of a stream

A scripted connection and a scripted layer above surround the stream. Each of
their callbacks plays the next of its scripts. The connection settles the promise
of a frame as its script or its mode says, and the outcomes of all writes are
reported as soon as they are known.
-/

namespace StreamControl.Scenario

structure Future where
  cell : Cell
  /-- The call that makes the future has not returned. -/
  hidden : Bool
  reported : Bool

structure StreamSetting (η : Type) where
  scripts : List (Callback × List (Script η))
  /-- The layer above goes by a tag; without one, its hooks do nothing. -/
  handler : Option η
  tracing : Bool
  connWritable : Bool
  mode : Mode
  futures : List Future
  /-- The promises kept by the connection, absent once taken. -/
  held : List (Option PromiseId)
  /-- The scripts of the calls underway, the latest first. -/
  playing : List (Script η)

namespace StreamSetting

variable {η : Type}

def onCell (p : PromiseId) (f : Cell → Cell) (g : StreamSetting η) : StreamSetting η :=
  { g with futures := g.futures.modify p fun u => { u with cell := f u.cell } }

def settle (p : PromiseId) (o : Outcome) : StreamSetting η → StreamSetting η :=
  onCell p (·.settle o |>.state)

def abandon (p : PromiseId) : StreamSetting η → StreamSetting η := onCell p (·.abandon |>.state)

def treat (p : PromiseId) (mode : Mode) (g : StreamSetting η) : StreamSetting η :=
  match mode with
  | .settle o => g.settle p o
  | .drop => g.abandon p
  | .hold => { g with held := g.held ++ [some p] }

def future? (g : StreamSetting η) (index : Nat) : Option Future :=
  g.futures[index]?.filter fun u => u.cell.awaited && !u.hidden

/-- A new write: its promise, and the setting with its future. -/
def newWrite (hidden : Bool) (g : StreamSetting η) : PromiseId × StreamSetting η :=
  (g.futures.length, { g with futures := g.futures ++ [⟨.fresh, hidden, false⟩] })

/-- The next script of a callback. A layer above without a tag plays none. -/
def nextScript (c : StreamCall η) (g : StreamSetting η) : Script η × StreamSetting η :=
  match g.scripts.lookup (.of c) with
  | some (script :: rest) =>
    (script, { g with scripts := (.of c, rest) :: g.scripts })
  | _ => (⟨[], none, none⟩, g)

def isSilent (c : StreamCall η) (g : StreamSetting η) : Bool :=
  match c with
  | .hook _ => g.handler.isNone
  | .conn _ => false

def onHeld (index : Nat) (action : HeldAction) (g : StreamSetting η) :
    StreamSetting η × Answer :=
  match g.held[index]? with
  | some (some p) =>
    match action with
    | .isCanceled => (g, .flag ((g.futures[p]?.map (·.cell.isCanceled)).getD true))
    | .drop => ({ g with held := g.held.set index none }.abandon p, .nothing)
    | .settle o => ({ g with held := g.held.set index none }.settle p o, .nothing)
  | _ => (g, .gone)

def tryFuture (index : Nat) (g : StreamSetting η) : StreamSetting η × Answer :=
  match g.future? index with
  | none => (g, .gone)
  | some u =>
    (g.onCell index (·.take.state),
      match u.cell.take.answer with
      | some o => .outcome o
      | none => .nothing)

def dropFuture (index : Nat) (g : StreamSetting η) : StreamSetting η :=
  if (g.future? index).isSome then g.onCell index (·.ignore.state) else g

abbrev StreamOpening (η : Type) :=
  Opening (StreamInstr η) (StreamSetting η) (StreamOp η) (StreamAnswer η)

def call (t : Thread) (g : StreamSetting η) (op : Operation η) : StreamOpening η :=
  .work g (.plain .nothing) [.enter t op]

def callWith (t : Thread) (g : StreamSetting η) (priority : Option Priority.Parts)
    (op : Priority → Operation η) : StreamOpening η :=
  match Priority.ofParts? priority with
  | .ok p => call t g (op p)
  | .error cause => .now g (.plain (.fault cause))

/-- A write is made, and answered by the index of its future. -/
def write (t : Thread) (g : StreamSetting η) (hidden : Bool) (op : PromiseId → Operation η) :
    StreamOpening η :=
  let (p, g) := g.newWrite hidden
  .work g (.plain (.count p)) [.enter t (op p)]

def start (t : Thread) (op : StreamOp η) (e : Endpoint η) (g : StreamSetting η) :
    StreamOpening η :=
  match op with
  | .allocate id => call t g (.allocate id)
  | .headers block priority => callWith t g priority (.headers block)
  | .data bytes => call t g (.data bytes)
  | .fin trailers => call t g (.fin trailers)
  | .reset code => call t g (.reset code)
  | .changePriority priority => callWith t g priority .changePriority
  | .customFrame frame => call t g (.customFrame frame)
  | .toggleWritable => call t g .toggleWritable
  | .close => call t g .close
  | .exception cause => call t g (.exception cause)
  | .writeFrame frame own => write t g (!own) (.writeFrame frame)
  | .writeHeaders block first fin flush => write t g false (.writeHeaders block first fin flush)
  | .writeData chunk fin => write t g false (.writeData chunk fin)
  | .writeReset code => call t g (.writeReset code)
  | .updatePriority priority => callWith t g priority .updatePriority
  | .setPriority priority => callWith t g priority .setPriority
  | .pause => call t g .pause
  | .fetch amount => call t g (.fetch amount)
  | .setConnection writable remoteOpen mode =>
    .work
      { g with connWritable := writable.getD g.connWritable, mode := mode.getD g.mode }
      (.plain .nothing) (remoteOpen.map .setRemote).toList
  | .held index action => let (g, r) := g.onHeld index action; .now g (.plain r)
  | .tryFuture index => let (g, r) := g.tryFuture index; .now g (.plain r)
  | .dropFuture index => .now (g.dropFuture index) (.plain .nothing)
  | .onThread ops => ⟨g, .plain .nothing, [], ops⟩
  | .runLoop => .work g (.plain .gone) [.enter t .runLoop]
  | .dropLoop => .work g (.plain (.flag (e.loop.runner = .ready))) [.enter t .dropLoop]
  | .handler => .now g (.handler g.handler)
  | .state => .now g (.view (.of e))
  | .describe => .now g (.plain (.text e.stream.describe))

def take (n : StreamNote) (g : StreamSetting η) :
    StreamSetting η × List (StreamEvent η) × Option (StreamAnswer η) :=
  match n with
  | .trace t => (g, if g.tracing then [.trace t] else [], none)
  | .failed p cause => (g.settle p (.failure cause), [], none)
  | .discarded p => (g.abandon p, [], none)
  | .passed ran => (g, [], some (.plain (.count ran)))

def enter (c : StreamCall η) (e : Endpoint η) (g : StreamSetting η) :
    StreamSetting η × List (StreamEvent η) × List (StreamOp η) :=
  if g.isSilent c then ({ g with playing := ⟨[], none, none⟩ :: g.playing }, [], [])
  else
    let (script, g) := g.nextScript c
    ({ g with playing := script :: g.playing }, [.called e.onLoop c], script.body)

def outcome (g : StreamSetting η) : Outcome :=
  .ofFault? (g.playing.head?.bind (·.fault))

def reply : (c : StreamCall η) → StreamSetting η → c.Reply
  | .conn (.sendFrame ..), _ => ()
  | .conn (.sendHeaders ..), _ => ()
  | .conn (.sendData ..), _ => ()
  | .conn (.sendPriority ..), _ => ()
  | .conn (.sendReset ..), _ => ()
  | .conn (.canSend ..), g => g.connWritable
  | .conn (.returnCredit ..), _ => ()
  | .conn (.countRead ..), _ => ()
  | .conn (.countWritten ..), _ => ()
  | .conn .flushRead, _ => ()
  | .conn .flushWritten, _ => ()
  | .hook (.headers ..), _ => ()
  | .hook (.data ..), g => g.outcome
  | .hook (.fin ..), g => g.outcome
  | .hook (.reset ..), _ => ()
  | .hook (.exception ..), _ => ()
  | .hook .close, _ => ()
  | .hook (.priority ..), _ => ()
  | .hook (.customFrame ..), _ => ()
  | .hook .drained, _ => ()
  | .hook .finSent, _ => ()

def handedOver? : StreamCall η → Option PromiseId
  | .conn (.sendFrame _ _ p) => some p
  | .conn (.sendHeaders _ _ _ _ _ p) => some p
  | .conn (.sendData _ _ _ p) => some p
  | _ => none

def leave (c : StreamCall η) (g : StreamSetting η) :
    StreamSetting η × List (StreamEvent η) :=
  let g' := { g with playing := g.playing.tail }
  match handedOver? c with
  | none => (g', [])
  | some p => (g'.treat p ((g.playing.head?.bind (·.mode)).getD g.mode), [])

/-- The future of a frame comes with the return of its write. -/
def finish (op : StreamOp η) (r : StreamAnswer η) (g : StreamSetting η) :
    StreamSetting η × List (StreamInstr η) :=
  match op, r with
  | .writeFrame _ false, .plain (.count p) =>
    ({ g with futures := g.futures.modify p fun u => { u with hidden := false } }, [])
  | _, _ => (g, [])

def host : Host (Endpoint η) (StreamInstr η) (StreamCall η) StreamNote StreamCall.Reply
    (StreamSetting η) (StreamOp η) (StreamAnswer η) (StreamEvent η) where
  component := Endpoint.component
  start := start
  take := take
  enter := enter
  reply := reply
  leave := leave
  finish := finish
  returned := .returned

def report (index : Nat) (u : Future) : Future × Option (Nat × Answer) :=
  if u.reported then (u, none)
  else if !u.cell.awaited then ({ u with reported := true }, some (index, .gone))
  else
    let asked := u.cell.take
    match asked.answer with
    | some o => ({ u with cell := asked.state, reported := true }, some (index, .outcome o))
    | none => ({ u with cell := asked.state }, none)

def reportAll (g : StreamSetting η) : StreamSetting η × List (Nat × Answer) :=
  let asked := g.futures.mapIdx report
  ({ g with futures := asked.map (·.1) }, asked.filterMap (·.2))

end StreamSetting

structure StreamScenario (η : Type) where
  options : Options
  handler : Option η
  tracing : Bool
  scripts : List (Callback × List (Script η))
  operations : List (StreamOp η)

namespace StreamScenario

variable {η : Type}

/-- Plays a scenario. Besides the stream, the view shows the outcomes that became
known. -/
def play (s : StreamScenario η) :
    List (Report (StreamAnswer η) (StreamEvent η) (StreamView × List (Nat × Answer))) :=
  let operations :=
    StreamOp.countAll (s.operations ++ s.scripts.flatMap fun e => e.2.flatMap (·.body))
  Scenario.play StreamSetting.host
    (fun e g => let (g, done) := g.reportAll; (g, (.of e, done)))
    (allowance operations) s.operations
    (.opening (.fresh s.options mainThread)
      ⟨s.scripts, s.handler, s.tracing, true, .settle .success, [], [], []⟩)

end StreamScenario

end StreamControl.Scenario
