import GpuLink.Shared.Text
import GpuLink.Worker.AdapterIpc
import Mathlib.Data.List.Sort

/-!
# The adapter subprocess supervisor

One adapter subprocess under supervision: a mode, budgets and deadlines, the
incremental decoder of its standard output, and two promises.  Every callback
of the runtime is an event; what the supervisor does to the child, to `onFrame`
and to its promises is written to a log in the order in which it happens.
-/

namespace GpuLink

namespace AdapterSupervisor

open AdapterIpc

def maxWireBytes : Nat := 16 * 1024 * 1024
def maxPendingWriteBytes : Nat := 262144
def maxStderrBytes : Nat := 8192
def maxFrameCount : Nat := 8192
def maxSessionTimeoutMs : Int := 900000

/-- The options of `startAdapterSubprocess`, with their defaults; `signal` says
of an abort signal whether it is aborted. -/
structure Options where
  executable : String
  args : List String := []
  sessionId : String
  startupTimeoutMs : Int := 2000
  sessionTimeoutMs : Int := 30000
  terminateGraceMs : Int := 150
  signal : Option Bool := none
  cudaVisibleDevices : Option String := none

def ms (value : Int) (label : String) (low high : Int) : Except String Unit :=
  if value < low ∨ value > high then .error ("invalid_" ++ label) else .ok ()

/-- `/^[A-Za-z0-9_-]{1,128}$/` -/
def isSessionId (text : String) : Bool :=
  decide (1 ≤ text.length) && decide (text.length ≤ 128) &&
    text.toList.all (fun c => c.isAlphanum || c = '_' || c = '-')

/-- `/^GPU-[a-fA-F0-9-]{32,64}$/u` -/
def isCudaUuid (text : String) : Bool :=
  text.toList.take 4 = "GPU-".toList && decide (36 ≤ text.length) &&
    decide (text.length ≤ 68) && (text.toList.drop 4).all (fun c =>
      c.isDigit || c = '-' || (decide ('a' ≤ c) && decide (c ≤ 'f')) ||
        (decide ('A' ≤ c) && decide (c ≤ 'F')))

def isArgument (text : String) : Bool :=
  decide (utf16Length text ≤ 4096) && !text.toList.contains '\x00'

def validate (options : Options) : Except String Options := do
  if options.executable.toList.head? ≠ some '/' ∨
      ¬isArgument options.executable then
    throw "absolute_executable_required"
  if options.args.length > 16 ∨ ¬options.args.all isArgument then
    throw "invalid_args"
  if ¬isSessionId options.sessionId then
    throw "invalid_session_id"
  if ¬options.cudaVisibleDevices.all isCudaUuid then
    throw "invalid_cuda_visible_devices"
  ms options.startupTimeoutMs "startup_timeout" 1 60000
  ms options.sessionTimeoutMs "session_timeout" 1 maxSessionTimeoutMs
  ms options.terminateGraceMs "termination_grace" 10 5000
  if options.signal = some true then
    throw "cancelled"
  return options

inductive Mode where
  | starting
  | running
  | ending
  | acknowledged
  | stopping
  | closed
  deriving DecidableEq, Repr

inductive Signal where
  | SIGTERM
  | SIGKILL
  deriving DecidableEq, Repr

/-- What the supervisor takes in and does; a failure is given by its code. -/
inductive Effect where
  /-- A decoded frame comes to `receive`. -/
  | received (frame : Frame)
  | onFrame (frame : Frame)
  /-- `end` has changed the mode. -/
  | ending
  | write (type : FrameType) (payload : List UInt8)
  | stdinEnded
  | stdinDestroyed
  | kill (signal : Signal)
  | terminated (reason : String)
  | readySettled (failure : Option String)
  | completedSettled (failure : Option String)
  | sendSettled (failure : Option String)
  deriving DecidableEq, Repr

structure Supervisor where
  mode : Mode
  outputBytes : Nat
  framesSeen : Nat
  pendingWrites : Nat
  endAcknowledged : Bool
  stoppedReason : Option String
  readySettled : Bool
  doneSettled : Bool
  stderrBytes : Nat
  decoder : Decoder
  /-- Which timers are set, and whether the abort handler is registered. -/
  startupTimer : Bool
  lifetimeTimer : Bool
  killTimer : Bool
  abortHandler : Bool
  log : List Effect

/-- Calls of the owner; `throws` says that a write to the child's input throws
at once. -/
inductive ApiCall where
  | sendBinary (bytes : List UInt8) (throws : Bool)
  | sendText (text : String) (throws : Bool)
  | «end» (throws : Bool)
  | cancel (throws : Bool)
  /-- The abort signal that the owner has passed in is aborted. -/
  | abort

/-- What `onFrame` does before it returns or throws. -/
structure Reaction where
  calls : List ApiCall
  throws : Bool

/-- The callbacks of the runtime. -/
inductive Event where
  | stdoutData (chunk : List UInt8) (react : Nat → Reaction)
  | stderrData (length : Nat)
  | stdinError
  | stdoutError
  | stderrError
  | childError
  | close (code : Option Int)
  | startupTimeout
  | lifetimeTimeout
  | killTimeout
  /-- A write of `sendBinary` or `sendText` is flushed or has failed. -/
  | written (length : Nat) (failed : Bool)
  /-- So is the write of `end`. -/
  | endWritten (failed : Bool)
  | api (call : ApiCall)

/-- The checks on the object that a READY frame carries. -/
def isHandshake (fields : List (String × Json)) : Bool :=
  let keys := (fields.map Prod.fst).insertionSort (· ≤ ·)
  String.intercalate "," keys = "protocol,ready,version" &&
    (match Json.field? (.object fields) "protocol" with
    | some (.string text) => text = "gpulink.adapter.ipc"
    | _ => false) &&
    (match Json.field? (.object fields) "version" with
    | some (.number version) => version = 1
    | _ => false) &&
    (match Json.field? (.object fields) "ready" with
    | some (.bool ready) => ready
    | _ => false)

namespace Supervisor

def emit (s : Supervisor) (effect : Effect) : Supervisor :=
  { s with log := s.log ++ [effect] }

def settleReady (s : Supervisor) (failure : Option String) : Supervisor :=
  if s.readySettled then s
  else { s with readySettled := true }.emit (.readySettled failure)

def terminate (s : Supervisor) (reason : String) : Supervisor :=
  if s.stoppedReason.isSome then s
  else
    let stopped := ({ s with
      stoppedReason := some reason
      mode := .stopping }.emit (.terminated reason)).settleReady (some reason)
    { (stopped.emit .stdinDestroyed).emit (.kill .SIGTERM) with
      killTimer := true }

/-! ## Calls of the owner -/

def writeFrame (s : Supervisor) (type : FrameType) (payload : List UInt8)
    (throws : Bool) : Supervisor :=
  if s.mode ≠ .running then
    s.emit (.sendSettled (some "session_not_writable"))
  else
    match encodeAdapterIpcFrame type payload with
    | .error code => s.emit (.sendSettled (some code))
    | .ok wire =>
        if s.pendingWrites + wire.length > maxPendingWriteBytes then
          s.emit (.sendSettled (some "pending_write_budget_exceeded"))
        else if throws then s.emit (.sendSettled (some "stdin_failed"))
        else { s with pendingWrites := s.pendingWrites + wire.length }.emit
          (.write type payload)

def sendBinary (s : Supervisor) (bytes : List UInt8) (throws : Bool) :
    Supervisor :=
  if bytes.length > maxFrameBytes then
    s.emit (.sendSettled (some "frame_too_large"))
  else s.writeFrame .BINARY bytes throws

def sendText (s : Supervisor) (text : String) (throws : Bool) : Supervisor :=
  s.writeFrame .TEXT text.toUTF8.toList throws

def «end» (s : Supervisor) (throws : Bool) : Supervisor :=
  if s.mode ≠ .running then s
  else
    let ending := { s with mode := .ending }.emit .ending
    if throws then ending else ending.emit (.write .END [])

def cancel (s : Supervisor) (throws : Bool) : Supervisor :=
  if s.mode = .closed ∨ s.stoppedReason.isSome then s
  else if s.mode = .running ∧ ¬throws then
    (s.emit (.write .CANCEL [])).terminate "cancelled"
  else s.terminate "cancelled"

/-- The abort handler, which runs once. -/
def abort (s : Supervisor) : Supervisor :=
  if s.abortHandler then
    { s with abortHandler := false }.terminate "cancelled"
  else s

def call (s : Supervisor) : ApiCall → Supervisor
  | .sendBinary bytes throws => s.sendBinary bytes throws
  | .sendText text throws => s.sendText text throws
  | .end throws => s.end throws
  | .cancel throws => s.cancel throws
  | .abort => s.abort

/-! ## Output of the child -/

/-- `onFrame` is called; what it calls in turn happens before it returns. -/
def deliver (s : Supervisor) (frame : Frame) (reaction : Reaction) :
    Supervisor × Option String :=
  (reaction.calls.foldl call (s.emit (.onFrame frame)),
    if reaction.throws then some "application_callback_failed" else none)

/-- `receive`, with the code of the failure that it throws. -/
def receive (parse : String → Option Json) (s : Supervisor) (frame : Frame)
    (react : Nat → Reaction) : Supervisor × Option String :=
  let s := { s with framesSeen := s.framesSeen + 1 }.emit (.received frame)
  if s.framesSeen > maxFrameCount then (s, some "output_frame_budget_exceeded")
  else if s.mode = .starting then
    if frame.type ≠ .READY then (s, some "ready_required")
    else
      match decodeAdapterIpcJson parse frame .READY with
      | .error code => (s, some code)
      | .ok fields =>
          if isHandshake fields then
            ({ s with mode := .running, startupTimer := false }.settleReady
              none, none)
          else (s, some "invalid_ready_handshake")
  else if s.mode = .stopping ∨ s.mode = .acknowledged then
    (s, some "unexpected_terminal_frame")
  else if frame.type = .BINARY ∨ frame.type = .TEXT then
    if s.mode ≠ .running ∧ s.mode ≠ .ending then
      (s, some "application_frame_after_end")
    else if frame.type = .TEXT then
      match decodeAdapterIpcText frame.payload with
      | .error code => (s, some code)
      | .ok _ => s.deliver frame (react s.framesSeen)
    else s.deliver frame (react s.framesSeen)
  else if frame.type = .END ∧ frame.payload = [] ∧ s.mode = .ending then
    ({ s with endAcknowledged := true, mode := .acknowledged }, none)
  else (s, some "invalid_adapter_direction_or_state")

/-- The frames of a chunk, until one of them fails. -/
def receiveAll (parse : String → Option Json) (react : Nat → Reaction) :
    List Frame → Supervisor → Supervisor × Option String
  | [], s => (s, none)
  | frame :: frames, s =>
      match s.receive parse frame react with
      | (later, some code) => (later, some code)
      | (later, none) => receiveAll parse react frames later

def stdoutData (parse : String → Option Json) (s : Supervisor)
    (chunk : List UInt8) (react : Nat → Reaction) : Supervisor :=
  if s.stoppedReason.isSome then s
  else
    let s := { s with outputBytes := s.outputBytes + chunk.length }
    if s.outputBytes > maxWireBytes then
      s.terminate "output_byte_budget_exceeded"
    else
      match s.decoder.push chunk with
      | (decoder, .error code) => { s with decoder := decoder }.terminate code
      | (decoder, .ok frames) =>
          match receiveAll parse react frames { s with decoder := decoder } with
          | (later, some code) => later.terminate code
          | (later, none) => later

def stderrData (s : Supervisor) (length : Nat) : Supervisor :=
  let s := { s with stderrBytes := s.stderrBytes + length }
  if s.stderrBytes > maxStderrBytes then s.terminate "stderr_budget_exceeded"
  else s

def stdinError (s : Supervisor) : Supervisor :=
  if s.stoppedReason.isNone ∧ s.mode ≠ .acknowledged then
    s.terminate "stdin_failed"
  else s

/-- The failure with which `completed` is rejected, if any. -/
def verdict (s : Supervisor) (code : Option Int) : Option String :=
  match s.stoppedReason with
  | some reason => some reason
  | none =>
      match s.decoder.finish.2 with
      | .error _ => some "truncated_output"
      | .ok () =>
          if s.endAcknowledged ∧ code = some 0 then none
          else some "adapter_incomplete_or_failed"

def onClose (s : Supervisor) (code : Option Int) : Supervisor :=
  let s := { s with
    startupTimer := false
    lifetimeTimer := false
    killTimer := false
    abortHandler := false }
  if s.doneSettled then s
  else
    let failure := s.verdict code
    let closed := { s with
      doneSettled := true
      decoder := if s.stoppedReason.isSome then s.decoder
        else s.decoder.finish.1
      mode := .closed }
    (closed.settleReady
      (some (failure.getD "adapter_closed_before_ready"))).emit
      (.completedSettled failure)

def apply (parse : String → Option Json) (s : Supervisor) :
    Event → Supervisor
  | .stdoutData chunk react => s.stdoutData parse chunk react
  | .stderrData length => s.stderrData length
  | .stdinError => s.stdinError
  | .stdoutError => s.terminate "stdout_failed"
  | .stderrError => s.terminate "stderr_failed"
  | .childError => s.terminate "spawn_failed"
  | .close code => s.onClose code
  | .startupTimeout =>
      if s.startupTimer then
        { s with startupTimer := false }.terminate "startup_deadline_exceeded"
      else s
  | .lifetimeTimeout =>
      if s.lifetimeTimer then
        { s with lifetimeTimer := false }.terminate "session_deadline_exceeded"
      else s
  | .killTimeout =>
      if s.killTimer then { s with killTimer := false }.emit (.kill .SIGKILL)
      else s
  | .written length failed =>
      let failure := if failed ∨ s.stoppedReason.isSome ∨ s.mode = .closed then
          some (s.stoppedReason.getD "stdin_failed")
        else none
      { s with pendingWrites := s.pendingWrites - length }.emit
        (.sendSettled failure)
  | .endWritten failed => if failed then s else s.emit .stdinEnded
  | .api call => s.call call

def play (parse : String → Option Json) (s : Supervisor)
    (events : List Event) : Supervisor :=
  events.foldl (apply parse) s

end Supervisor

/-- The object of the HELLO frame, as text. -/
def helloText (sessionId : String) : String :=
  "\x7b\"protocol\":\"gpulink.adapter.ipc\",\"version\":1,\"sessionId\":\"" ++
    sessionId ++ "\"\x7d"

/-- The child is spawned, its deadlines are set and the abort handler is
registered. -/
def Supervisor.spawned (config : Options) : Supervisor where
  mode := .starting
  outputBytes := 0
  framesSeen := 0
  pendingWrites := 0
  endAcknowledged := false
  stoppedReason := none
  readySettled := false
  doneSettled := false
  stderrBytes := 0
  decoder := createAdapterIpcDecoder
  startupTimer := true
  lifetimeTimer := true
  killTimer := false
  abortHandler := config.signal.isSome
  log := []

/-- `throws` says that the write of the HELLO frame throws. -/
def startAdapterSubprocess (options : Options) (throws : Bool) :
    Except String Supervisor :=
  match validate options with
  | .error code => .error code
  | .ok config =>
      let child := Supervisor.spawned config
      .ok (if throws then child.terminate "stdin_failed"
        else child.emit
          (.write .HELLO (helloText config.sessionId).toUTF8.toList))

end AdapterSupervisor

end GpuLink
