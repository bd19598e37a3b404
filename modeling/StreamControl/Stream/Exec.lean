import StreamControl.Stream.State

/-!
# What a stream does

Every state change happens on the thread that owns the connection's loop. An
operation called there takes effect at once; called elsewhere it is posted as a
job. Inbound items pass through the inbox at the consumer's pace, queued writes
through the outbox, whose gate is open while the stream is allocated and writable.
-/

namespace StreamControl

/-- The instructions of a stream; the last three are those of its parts. -/
inductive StreamInstr (η : Type) where
  | enter (t : Thread) (op : Operation η)
  | leave (t : Thread)
  | dispatch (job : Job η)
  | perform (job : Job η)
  /-- Binds an allocated protocol stream and its writability. -/
  | bind (id : Nat) (writable : Bool)
  /-- Ends a push of data: a full inbox is reported. -/
  | settleData
  | deliver (item : Item)
  | handOver (bytes : ByteArray)
  /-- The gate of the outbox looks at a write. -/
  | attempt (w : Write η)
  | finSent
  | setRemote (remoteOpen : Bool)
  | inbox (i : Inbox.Instr Unit Item)
  | outbox (i : Outbox.Instr (Write η))
  | loop (i : TaskLoop.Instr (Job η))

abbrev StreamTodo (η : Type) := Todo (StreamInstr η) (StreamCall η) StreamNote

namespace Endpoint

variable {η : Type}

def modify (e : Endpoint η) (f : Stream η → Stream η) : Endpoint η :=
  { e with stream := f e.stream }

def trace (t : Trace) : StreamTodo η := .note (.trace t)

/-- What the inbox leaves to do: the stream itself is the consumer. -/
def ofInbox : Todo (Inbox.Instr Unit Item) (Inbox.Call Unit Item) Inbox.Note →
    List (StreamTodo η)
  | .work i => [.work (.inbox i)]
  | .call (.consume _ item) => [.work (.deliver item)]
  | .call (.fault _ cause) => [.call (.hook (.exception cause))]
  | .call (.drained _) => []
  | .note (.trace t) => [trace t]
  | .note _ => []

/-- What the outbox leaves to do: the stream itself is the gate. -/
def ofOutbox : Todo (Outbox.Instr (Write η)) (Outbox.Call (Write η)) Outbox.Note →
    List (StreamTodo η)
  | .work i => [.work (.outbox i)]
  | .call (.test w) => [.work (.attempt w)]
  | .call (.cancel w cause) => [.note (.failed w.promise cause)]
  | .call .drained => [.work (.dispatch .announceDrained)]
  | .note (.trace t) => [trace t]
  | .note _ => []

/-- What the loop leaves to do: its tasks are jobs of the stream. -/
def ofLoop : Todo (TaskLoop.Instr (Job η)) (TaskLoop.Call (Job η)) (TaskLoop.Note (Job η)) →
    List (StreamTodo η)
  | .work i => [.work (.loop i)]
  | .call (.run job) => [.work (.perform job)]
  | .note (.lost job) => (job.promise?.map (.note ∘ .discarded)).toList
  | .note (.passed ran) => [.note (.passed ran)]
  | .note (.trace t) => [trace t]
  | .note _ => []

def begin (e : Endpoint η) : Operation η → Endpoint η × List (StreamTodo η)
  | .allocate id => (e, [.call (.conn (.canSend id))])
  | .headers block p => (e, [.work (.dispatch (.headers block p))])
  | .data bytes =>
    (e, [.call (.conn (.countRead bytes.size)), .work (.dispatch (.data bytes))])
  | .fin trailers => (e, [.call (.conn .flushRead), .work (.dispatch (.fin trailers))])
  | .reset code => (e, [.work (.dispatch (.reset code))])
  | .changePriority p => (e, [.work (.dispatch (.changePriority p))])
  | .customFrame frame => (e, [.work (.dispatch (.customFrame frame))])
  | .toggleWritable => (e, [.work (.dispatch .toggleWritable)])
  | .close => (e, [.call (.conn .flushWritten), .work (.dispatch .close)])
  | .exception cause => (e, [.work (.dispatch (.exception cause))])
  | .writeFrame frame p => (e, [.work (.dispatch (.writeFrame frame p))])
  | .writeHeaders block true fin flush p =>
    (e, [.work (.dispatch (.writeHeaders block fin flush p))])
  | .writeHeaders block false fin flush p =>
    (e, [.work (.dispatch (.enqueue (.headers block fin flush p)))])
  | .writeData chunk fin p => (e, [.work (.dispatch (.enqueue (.data chunk fin p)))])
  | .writeReset code => (e, [.work (.dispatch (.writeReset code))])
  | .updatePriority p =>
    if e.stream.priority = p then (e, [])
    else (e.modify ({ · with priority := p }), [.work (.dispatch (.announcePriority p))])
  | .setPriority p => (e.modify ({ · with priority := p }), [])
  | .pause => (e, [.work (.dispatch .pause)])
  | .fetch amount => (e, [.work (.dispatch (.fetch amount))])
  | .runLoop => (e, [.work (.loop (.pass e.thread))])
  | .dropLoop => (e, [.work (.loop .dropRunner)])

/-- A header block goes out with the priority of the moment. -/
def headersOut (e : Endpoint η) (id : Nat) (block : η) (fin flush : Bool) (p : PromiseId) :
    List (StreamTodo η) :=
  .call (.conn (.sendHeaders id block fin e.stream.priority flush p))
    :: (if fin then [.work .finSent] else [])

/-- Ends the stream by a reset, unless it was reset before. -/
def reset (e : Endpoint η) (code : Nat) : Endpoint η × List (StreamTodo η) :=
  if e.stream.resetCode.isSome then (e, [])
  else
    (e.modify ({ · with resetCode := some code, inbox := e.stream.inbox.clear.1 }),
      [.work (.outbox (.close (.reset code))),
       trace (.streamReset e.stream.slot.id? code e.stream.inbox.clear.2),
       .call (.hook (.reset code))])

def perform (e : Endpoint η) : Job η → Endpoint η × List (StreamTodo η)
  | .drain => (e, [.work (.outbox .drain)])
  | .headers block p => (e, [.call (.hook (.headers block p))])
  | .data bytes =>
    if e.stream.hasEnded then
      (e, [trace (.dataAfterTermination e.stream.slot.id? bytes.size)])
    else (e, [.work (.inbox (.push (.data bytes))), .work .settleData])
  | .fin trailers =>
    if e.stream.hasEnded then (e, [])
    else if e.stream.connect && !trailers.isEmpty then
      (e, trace (.trailersDiscarded e.stream.slot.id?)
        :: (Inbox.offer (.fin .empty)).map (.work ∘ .inbox))
    else (e, (Inbox.offer (.fin trailers)).map (.work ∘ .inbox))
  | .reset code => e.reset code
  | .changePriority p =>
    if e.stream.priority = p then (e, [])
    else (e.modify ({ · with priority := p }), [.call (.hook (.priority p))])
  | .customFrame frame => (e, [.call (.hook (.customFrame frame))])
  | .toggleWritable =>
    let writable := !e.stream.writable
    (e.modify ({ · with writable }),
      trace (.writabilityChanged e.stream.slot.id? writable)
        :: (if writable then [.work (.outbox .drain)] else []))
  | .close =>
    if e.stream.closed then (e, [])
    else
      (e.modify ({ · with closed := true }),
        [.work (.outbox (.close .closed)), trace (.streamClosed e.stream.slot.id?),
         .call (.hook .close)])
  | .exception cause =>
    (e, [trace (.streamException e.stream.slot.id? cause), .work (.outbox (.close cause)),
      .call (.hook (.exception cause))])
  | .writeFrame frame p =>
    match e.stream.directTarget with
    | .error cause => (e, [.note (.failed p cause)])
    | .ok id => (e, [.call (.conn (.sendFrame id frame p))])
  | .writeHeaders block fin flush p =>
    match e.stream.directTarget with
    | .error cause => (e, [.note (.failed p cause)])
    | .ok id => (e, e.headersOut id block fin flush p)
  | .enqueue w => (e, [.work (.outbox (.submit w))])
  | .writeReset code =>
    match e.stream.slot with
    | .allocated id =>
      if e.stream.hasEnded then (e, [])
      else
        (e.modify ({ · with resetCode := some code }),
          [trace (.writingReset id code), .call (.conn (.sendReset id code)),
           .work (.inbox .clear), .work (.outbox (.close (.reset code)))])
    | .unallocated => ((e.reset code).1, trace (.resetBeforeAllocation code) :: (e.reset code).2)
  | .announcePriority p =>
    match e.stream.slot with
    | .allocated id => (e, [.call (.conn (.sendPriority id p))])
    | .unallocated => (e, [])
  | .pause => (e, [.work (.inbox .pause)])
  | .fetch amount => (e, (Inbox.fetch amount).map (.work ∘ .inbox))
  | .announceDrained => (e, [.call (.hook .drained)])

/-- The first protocol stream is kept for good. -/
def bind (e : Endpoint η) (id : Nat) (writable : Bool) : Endpoint η × List (StreamTodo η) :=
  match e.stream.slot with
  | .allocated existing => (e, [trace (.alreadyAllocated existing id)])
  | .unallocated =>
    (e.modify ({ · with slot := .allocated id, writable }),
      [trace (.allocated id writable), .work (.dispatch .drain)])

/-- An item reaches the consumer. Its bytes are given back to the receive window,
unless there is no such window: a stream whose peer has finished was never charged. -/
def deliver (e : Endpoint η) : Item → Endpoint η × List (StreamTodo η)
  | .data bytes =>
    (e, (match e.stream.slot with
        | .allocated id =>
          if e.remoteOpen then [.call (.conn (.returnCredit id bytes.size))] else []
        | .unallocated => [])
      ++ [.work (.handOver bytes)])
  | .fin trailers =>
    (e, [trace (.endDelivered e.stream.slot.id?), .call (.hook (.fin trailers))])

/-- The gate: a write passes while the stream is allocated and writable. -/
def attempt (e : Endpoint η) (w : Write η) : Endpoint η × List (StreamTodo η) :=
  match e.stream.slot, e.stream.writable with
  | .unallocated, _ | _, false => (e, [.work (.outbox (.refused w))])
  | .allocated id, true =>
    match w with
    | .headers block fin flush p =>
      (e, e.headersOut id block fin flush p ++ [.work (.outbox .accepted)])
    | .data chunk fin p =>
      let bytes := chunk.getD .empty
      (e.modify fun s => { s with bytesWritten := s.bytesWritten + bytes.size },
        [.call (.conn (.countWritten bytes.size)), trace (.dataWritten id bytes.size fin),
         .call (.conn (.sendData id bytes fin p))]
        ++ (if fin then [.work .finSent] else []) ++ [.work (.outbox .accepted)])

def exec : StreamInstr η → Endpoint η → Endpoint η × List (StreamTodo η)
  | .enter t op, e =>
    let called := begin { e with thread := t } op
    (called.1, called.2 ++ [.work (.leave e.thread)])
  | .leave t, e => ({ e with thread := t }, [])
  | .dispatch job, e =>
    (e, [if e.onLoop then .work (.perform job) else .work (.loop (.post job))])
  | .perform job, e => e.perform job
  | .bind id writable, e => e.bind id writable
  | .settleData, e =>
    (e.modify ({ · with inbox := e.stream.inbox.settle.1 }),
      if e.stream.inbox.settle.2 then []
      else [trace (.inboxFull e.stream.slot.id? e.stream.inbox.pending.length)])
  | .deliver item, e => e.deliver item
  | .handOver bytes, e =>
    (e.modify fun s => { s with bytesRead := s.bytesRead + bytes.size },
      [trace (.dataDelivered e.stream.slot.id? bytes.size), .call (.hook (.data bytes))])
  | .attempt w, e => e.attempt w
  | .finSent, e =>
    (e.modify ({ · with finSent := true }), [.call (.hook .finSent)])
  | .setRemote remoteOpen, e => ({ e with remoteOpen }, [])
  | .inbox i, e =>
    let done := Inbox.exec i e.stream.inbox
    (e.modify ({ · with inbox := done.1 }), done.2.flatMap ofInbox)
  | .outbox i, e =>
    let done := Outbox.exec i e.stream.outbox
    (e.modify ({ · with outbox := done.1 }), done.2.flatMap ofOutbox)
  | .loop i, e =>
    let done := TaskLoop.exec i e.loop
    ({ e with loop := done.1 }, done.2.flatMap ofLoop)

/-- Writability completes an allocation, the consumer's outcome a delivery. -/
def resume : (c : StreamCall η) → c.Reply → List (StreamTodo η)
  | .conn (.canSend id), (writable : Bool) => [.work (.bind id writable)]
  | .hook (.data _), o => [.work (.inbox (.consumed o))]
  | .hook (.fin _), o => [.work (.inbox (.consumed o))]
  | _, _ => []

def component :
    Component (Endpoint η) (StreamInstr η) (StreamCall η) StreamNote StreamCall.Reply :=
  ⟨exec, resume⟩

end Endpoint

end StreamControl
