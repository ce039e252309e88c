import GpuLink.Worker.SubprocessCompletion

/-!
# The bridge to an approved subprocess

One session between a client's data-plane socket and an adapter subprocess.
Messages of the client wait in a bounded queue that an asynchronous pump
writes to the child; frames of the child are sent to the client as they come.
Every callback and every continuation of an `await` is an event, and events
come in any order.
-/

namespace GpuLink

namespace SubprocessBridge

open AdapterIpc AdapterSupervisor

def maxBacklog : Nat := 262144
def maxReplyBuffer : Nat := 262144
def maxMessageBytes : Nat := 65536
def maxApprovedSessionTimeoutMs : Int := 900000

/-- `SUBPROCESS_END_TEXT_V1` -/
def subprocessEndText : String :=
  "\x7b\"type\":\"gpulink.session.end.v1\"\x7d"

/-- `SUBPROCESS_COMPLETED_TEXT_V1` -/
def subprocessCompletedText : String :=
  "\x7b\"type\":\"gpulink.session.completed.v1\"\x7d"

def endBytes : List UInt8 := subprocessEndText.toUTF8.toList
def completedBytes : List UInt8 := subprocessCompletedText.toUTF8.toList

/-- The text by which the worker reports a completion. -/
def completedFrame : Frame := ⟨.TEXT, completedBytes⟩

/-- The code of a failure that the bridge is left with. -/
def failureCode (code : String) : String :=
  if 1 ≤ code.length ∧ code.length ≤ 64 ∧
      code.toList.all (fun c => c.isLower || c.isDigit || c = '_') then code
  else "adapter_session_failed"

/-- The code that a throwing write of the runtime carries. -/
def thrownCode : String := "ERR_STREAM_DESTROYED"

/-- What `bridgeSubprocessSession` is called with; `explicit` says that the
completion mode is `explicit-text-v1`. -/
structure Context where
  sessionId : String
  gpuUuid : Option String := none
  executable : String
  args : List String := []
  explicit : Bool
  sessionTimeoutMs : Option Int := none

def Context.options (context : Context) : Options where
  executable := context.executable
  args := context.args
  sessionId := context.sessionId
  sessionTimeoutMs := context.sessionTimeoutMs.getD 30000
  signal := some false
  cudaVisibleDevices := context.gpuUuid.filter isCudaUuid

/-- A message of the client. -/
structure Message where
  data : List UInt8
  binary : Bool

/-- The END text, where the mode reserves it. -/
def Message.isEnd (explicit : Bool) (message : Message) : Bool :=
  explicit && !message.binary && decide (message.data = endBytes)

structure Item extends Message where
  «end» : Bool

/-- A child that was started, and what has happened to it since. -/
structure Child where
  options : Options
  throws : Bool
  first : Supervisor
  started : startAdapterSubprocess options throws = .ok first
  events : List AdapterSupervisor.Event

namespace Child

def now (parse : String → Option Json) (child : Child) : Supervisor :=
  child.first.play parse child.events

def apply (child : Child) (event : AdapterSupervisor.Event) : Child :=
  { child with events := child.events ++ [event] }

end Child

/-- What a promise came to, once it is settled. -/
abbrev Settled := Option (Option String)

/-- Where the pump awaits. -/
inductive Pump where
  | idle
  /-- The promise of a send; `call` sends were settled before it. -/
  | sending (call : Nat)
  /-- The promise of `end`, of which the write is settled first. -/
  | ending (written : Settled)
  | acking (outcome : Settled)

inductive Stage where
  | verifying
  | starting
  | serving
  /-- `finally` has run; the child's completion is awaited. -/
  | closing
  | settled (failure : Option String)
  deriving DecidableEq

/-- What was sent to the client. -/
inductive Outgoing where
  | reply (frame : Frame)
  | completed
  deriving DecidableEq

/-- What the client's socket does when a frame is sent to it. -/
structure Answer where
  bufferedAmount : Nat
  throws : Bool

structure Bridge where
  context : Context
  /-- `socket.readyState === 1` -/
  socketOpen : Bool
  /-- The listeners are registered. -/
  listening : Bool
  parentAborted : Bool
  aborted : Bool
  ready : Bool
  queue : List Item
  queuedBytes : Nat
  pumping : Pump
  child : Option Child
  /-- The handler of the child's completion has run. -/
  observed : Bool
  endRequested : Bool
  graceful : Bool
  failure : Option String
  stage : Stage
  sent : List Outgoing

/-- `throws` says that a write to the child, or to the client, that this step
makes throws at once. -/
inductive Event where
  /-- `verifyCommand` is settled. -/
  | verified (failure : Option String) (throws : Bool)
  | message (message : Message) (throws : Bool)
  | socketClosing
  | socketClosed
  | socketFailed
  | parentAborted
  /-- A frame that was sent to the client could not be written. -/
  | replyFailed
  /-- A callback of the child's runtime, but for its output. -/
  | child (event : AdapterSupervisor.Event)
  | childOutput (chunk : List UInt8) (answers : Nat → Answer)
  /-- The `await` of `child.ready` continues. -/
  | childReady (throws : Bool)
  | childSettled
  /-- The `await` of the pump continues. -/
  | resumed (throws : Bool)
  | ackFlushed (failed : Bool)
  | ackTimeout
  /-- The `await` of `closed` or `finished` continues. -/
  | raced (throws : Bool)
  | finished

def Effect.sendOutcome? : Effect → Settled
  | .sendSettled failure => some failure
  | _ => none

/-- What the sends have come to, in order. -/
def settledSends (log : List Effect) : List (Option String) :=
  log.filterMap Effect.sendOutcome?

/-- The frames of a log with which `onFrame` was called, and how many frames
had come by then. -/
def deliveries : Nat → List Effect → List (Nat × Frame)
  | _, [] => []
  | seen, .received _ :: log => deliveries (seen + 1) log
  | seen, .onFrame frame :: log => (seen, frame) :: deliveries seen log
  | seen, _ :: log => deliveries seen log

/-- The supervisor's callbacks that come from the runtime. -/
def isRuntime : AdapterSupervisor.Event → Bool
  | .stdoutData .. => false
  | .api _ => false
  | _ => true

namespace Bridge

/-- The child's log; nothing before it is started. -/
def log (parse : String → Option Json) (b : Bridge) : List Effect :=
  match b.child with
  | some child => (child.now parse).log
  | none => []

def callChild (b : Bridge) (call : ApiCall) : Bridge :=
  { b with child := b.child.map (·.apply (.api call)) }

/-- The signal is aborted; a completion that is being sent is cancelled. -/
def controlAbort (b : Bridge) : Bridge :=
  { b with
    aborted := true
    pumping := match b.pumping with
      | .acking none => .acking (some (some "completion_disconnected"))
      | pumping => pumping }

def abort (b : Bridge) : Bridge :=
  if b.aborted then b else b.controlAbort.callChild .abort

/-- A failure is kept unless the session was aborted before. -/
def fail (b : Bridge) (code : String) : Bridge :=
  if b.aborted then b else { b with failure := some (failureCode code) }

/-- `finally` -/
def conclude (b : Bridge) (throws : Bool) : Bridge :=
  let aborted := b.abort
  let cancelled := if aborted.graceful then aborted
    else aborted.callChild (.cancel throws)
  { cancelled with
    listening := false
    queue := []
    queuedBytes := 0
    stage := .closing }

/-! ## The pump -/

/-- The pump's `catch` and `finally`. -/
def pumpFailed (b : Bridge) (code : String) : Bridge :=
  { (b.fail code).abort with pumping := .idle }

def send (parse : String → Option Json) (b : Bridge) (call : ApiCall) :
    Bridge :=
  { b.callChild call with
    pumping := .sending (settledSends (b.log parse)).length }

def sendEnd (parse : String → Option Json) (b : Bridge) (throws : Bool) :
    Bridge :=
  match b.child with
  | none => b
  | some child =>
      { b.callChild (.end throws) with
        pumping := .ending
          (if (child.now parse).mode ≠ .running then
            some (some "session_not_writable")
          else if throws then some (some thrownCode)
          else none) }

/-- The first item is taken off the queue. -/
def shift (b : Bridge) (item : Item) (queue : List Item) : Bridge :=
  { b with
    queue := queue
    queuedBytes := b.queuedBytes - (item.data.length + 9) }

/-- The loop of the pump, until its next `await`. -/
def next (parse : String → Option Json) (b : Bridge) (throws : Bool) :
    Bridge :=
  if b.aborted then { b with pumping := .idle }
  else
    match b.queue with
    | [] => { b with pumping := .idle }
    | item :: queue =>
        let b := b.shift item queue
        if item.end then b.sendEnd parse throws
        else if item.binary then
          b.send parse (.sendBinary item.data throws)
        else
          match decodeAdapterIpcText item.data with
          | .error code => b.pumpFailed code
          | .ok text => b.send parse (.sendText text throws)

def pump (parse : String → Option Json) (b : Bridge) (throws : Bool) :
    Bridge :=
  match b.ready, b.child, b.pumping, b.aborted with
  | true, some _, .idle, false => b.next parse throws
  | _, _, _, _ => b

def sendCompletionAck (b : Bridge) (throws : Bool) : Bridge :=
  if b.aborted ∨ ¬b.socketOpen then b.pumpFailed "completion_disconnected"
  else if throws then
    { b with pumping := .acking (some (some "completion_ack_failed")) }
  else
    { b with
      sent := b.sent ++ [.completed]
      pumping := .acking none }

/-- What the awaited promise has come to. -/
def awaited (parse : String → Option Json) (b : Bridge) : Settled :=
  match b.pumping with
  | .idle => none
  | .sending call => (settledSends (b.log parse))[call]?
  | .ending (some none) => (completions (b.log parse)).head?
  | .ending written => written
  | .acking outcome => outcome

def resumed (parse : String → Option Json) (b : Bridge) (throws : Bool) :
    Bridge :=
  match b.awaited parse with
  | none => b
  | some (some code) => b.pumpFailed code
  | some none =>
      match b.pumping with
      | .idle => b
      | .sending _ => b.next parse throws
      | .ending _ =>
          if b.aborted then { b with pumping := .idle }
          else b.sendCompletionAck throws
      | .acking _ =>
          if b.aborted then { b with pumping := .idle }
          else { b with pumping := .idle, graceful := true }

def ackSettled (b : Bridge) (outcome : Option String) : Bridge :=
  match b.pumping with
  | .acking none => { b with pumping := .acking (some outcome) }
  | _ => b

/-! ## The client and the child -/

def onMessage (parse : String → Option Json) (b : Bridge)
    (message : Message) (throws : Bool) : Bridge :=
  if b.aborted then b
  else if b.endRequested then b.abort
  else if message.data.length > maxMessageBytes ∨
      b.queuedBytes + message.data.length + 9 > maxBacklog then b.abort
  else if b.context.explicit ∧ ¬message.binary ∧
      message.data = completedBytes then b.abort
  else
    let «end» := message.isEnd b.context.explicit
    Bridge.pump parse { b with
      endRequested := b.endRequested || «end»
      queuedBytes := b.queuedBytes + (message.data.length + 9)
      queue := b.queue ++ [⟨message, «end»⟩] } throws

/-- `onFrame` sends the frame, and does not abort the session. -/
def forwards (b : Bridge) (answer : Answer) (frame : Frame) : Bool :=
  !b.aborted && b.socketOpen &&
    !(b.context.explicit && decide (frame = completedFrame)) &&
    decide (answer.bufferedAmount + frame.payload.length ≤ maxReplyBuffer) &&
    !answer.throws

/-- `onFrame`; the child's abort handler runs as the reaction of the child. -/
def onFrame (answers : Nat → Answer) (b : Bridge)
    (delivery : Nat × Frame) : Bridge :=
  if b.forwards (answers delivery.1) delivery.2 then
    { b with sent := b.sent ++ [.reply delivery.2] }
  else b.controlAbort

/-- What `onFrame` calls while the child hands over the frames of a chunk. -/
def reaction (b : Bridge) (answers : Nat → Answer) (frames : List Frame)
    (before seen : Nat) : Reaction where
  calls := match frames[seen - before - 1]? with
    | some frame => if b.forwards (answers seen) frame then [] else [.abort]
    | none => []
  throws := false

def childOutput (parse : String → Option Json) (b : Bridge)
    (chunk : List UInt8) (answers : Nat → Answer) : Bridge :=
  match b.child with
  | none => b
  | some child =>
      let now := child.now parse
      let frames := match (now.decoder.push chunk).2 with
        | .ok frames => frames
        | .error _ => []
      let react := b.reaction answers frames now.framesSeen
      let later := child.apply (.stdoutData chunk react)
      let added := (later.now parse).log.drop now.log.length
      (deliveries now.framesSeen added).foldl (onFrame answers)
        { b with child := some later }

def childEvent (b : Bridge) (event : AdapterSupervisor.Event) : Bridge :=
  if isRuntime event then
    { b with
      child := b.child.map (·.apply event)
      pumping := match b.pumping, event with
        | .ending none, .endWritten failed =>
            .ending (some (if failed then some "stdin_failed" else none))
        | pumping, _ => pumping }
  else b

def childSettled (parse : String → Option Json) (b : Bridge) : Bridge :=
  if b.observed then b
  else
    match completions (b.log parse) with
    | [] => b
    | none :: _ =>
        if b.endRequested then { b with observed := true }
        else { b.abort with observed := true }
    | some code :: _ => { (b.fail code).abort with observed := true }

/-! ## The session -/

/-- The files are verified; the child is started unless the session was
aborted in the meantime. -/
def begin (b : Bridge) (failure : Option String) (throws : Bool) : Bridge :=
  match failure with
  | some code => (b.fail code).conclude throws
  | none =>
      if b.aborted then b.conclude throws
      else
        match started : startAdapterSubprocess b.context.options throws with
        | .error code => (b.fail code).conclude throws
        | .ok first =>
            { b with
              child := some ⟨b.context.options, throws, first, started, []⟩
              stage := .starting }

def childReady (parse : String → Option Json) (b : Bridge) (throws : Bool) :
    Bridge :=
  match readinesses (b.log parse) with
  | [] => b
  | none :: _ =>
      Bridge.pump parse { b with ready := true, stage := .serving } throws
  | some code :: _ => (b.fail code).conclude throws

def step (parse : String → Option Json) (b : Bridge) : Event → Bridge
  | .verified failure throws =>
      if b.stage = .verifying then b.begin failure throws else b
  | .message message throws =>
      if b.listening then b.onMessage parse message throws else b
  | .socketClosing => { b with socketOpen := false }
  | .socketClosed =>
      let closed := { b with socketOpen := false }
      if b.listening then closed.abort else closed
  | .socketFailed => if b.listening then b.abort else b
  | .parentAborted =>
      let signalled := { b with parentAborted := true }
      if b.listening then signalled.abort else signalled
  | .replyFailed => b.abort
  | .child event => b.childEvent event
  | .childOutput chunk answers => b.childOutput parse chunk answers
  | .childReady throws =>
      if b.stage = .starting then b.childReady parse throws else b
  | .childSettled => b.childSettled parse
  | .resumed throws => b.resumed parse throws
  | .ackFlushed failed =>
      b.ackSettled (if failed ∨ b.aborted then some "completion_ack_failed"
        else none)
  | .ackTimeout => b.ackSettled (some "completion_ack_timeout")
  | .raced throws =>
      if b.stage = .serving ∧ (b.aborted ∨ b.graceful) then b.conclude throws
      else b
  | .finished =>
      if b.stage = .closing ∧
          (b.child.isNone ∨ completions (b.log parse) ≠ []) then
        { b with stage := .settled (if b.parentAborted then none
            else b.failure) }
      else b

def run (parse : String → Option Json) (b : Bridge) (events : List Event) :
    Bridge :=
  events.foldl (step parse) b

end Bridge

/-- The checks on the context, and the registration of the listeners. -/
def bridgeSubprocessSession (context : Context)
    (signalAborted socketOpen : Bool) : Except String Bridge :=
  if context.sessionTimeoutMs.any (fun limit =>
      decide (limit < 1 ∨ limit > maxApprovedSessionTimeoutMs)) then
    .error "invalid_session_context"
  else if signalAborted ∨ ¬socketOpen then .error "session_not_connected"
  else .ok {
    context := context
    socketOpen := true
    listening := true
    parentAborted := false
    aborted := false
    ready := false
    queue := []
    queuedBytes := 0
    pumping := .idle
    child := none
    observed := false
    endRequested := false
    graceful := false
    failure := none
    stage := .verifying
    sent := [] }

end SubprocessBridge

end GpuLink
