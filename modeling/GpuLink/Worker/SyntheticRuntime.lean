import GpuLink.Library.Base64Url
import GpuLink.Library.Machine
import GpuLink.Shared.JsonPrint
import GpuLink.Shared.Text

/-!
# The synthetic speech runtime

`launchSyntheticAsrRuntime` keeps a child process that consumes audio.  Chunks
wait for the child's acknowledgement in the order in which they were sent.  The
operating system decides what each event finds at the child's standard input.
-/

namespace GpuLink

namespace SyntheticAsr

open JsonText

/-- `MAX_LINE` -/
def maxLine : Nat := 16384
/-- `MAX_FRAME_SAMPLES` -/
def maxFrameSamples : Nat := 3200
/-- `MAX_QUEUED_SAMPLES` -/
def maxQueuedSamples : Nat := 32000
/-- `MAX_SESSION_SAMPLES` -/
def maxSessionSamples : Nat := 28800000
/-- `MAX_STDERR_BYTES` -/
def maxStderrBytes : Nat := 4096
/-- `MAX_STDIN_BUFFER_BYTES` -/
def maxStdinBufferBytes : Nat := 16384

inductive RuntimeState where
  | starting
  | ready
  | ending
  | cancelling
  | cancelled
  | completed
  | failed
  deriving DecidableEq, Repr

def RuntimeState.terminal : RuntimeState → Bool
  | failed | cancelled | completed => true
  | _ => false

/-! ## What is written -/

/-- `buffer.toString("base64")` -/
def base64 (bytes : List UInt8) : String :=
  let letters := (Base64Url.encode bytes).map fun c =>
    if c = '-' then '+' else if c = '_' then '/' else c
  String.ofList
    (letters ++ List.replicate ((4 - letters.length % 4) % 4) '=')

/-- A message for the child. -/
inductive Outgoing where
  | start (modelId revision : String)
  | audio (sequence sampleOffset sampleCount : Nat) (pcm : List UInt8)
  | endInput (lastSequence : Nat)
  deriving DecidableEq, Repr

def Outgoing.fields : Outgoing → List (String × Scalar)
  | start modelId revision =>
      [("type", .text "asr.ipc.start.v1"), ("modelId", .text modelId),
        ("revision", .text revision), ("encoding", .text "pcm_s16le"),
        ("sampleRateHz", .number 16000), ("channels", .number 1)]
  | audio sequence sampleOffset sampleCount pcm =>
      [("type", .text "asr.ipc.audio.v1"), ("sequence", .number sequence),
        ("sampleOffset", .number sampleOffset),
        ("sampleCount", .number sampleCount), ("pcmBase64", .text (base64 pcm))]
  | endInput lastSequence =>
      [("type", .text "asr.ipc.end.v1"), ("lastSequence", .number lastSequence)]

def Outgoing.line (message : Outgoing) : List UInt8 :=
  utf8Bytes (stringify message.fields ++ "\n")

/-- The stream to the child, as a write finds it. -/
structure Stdin where
  destroyed : Bool
  writable : Bool
  writableLength : Nat
  /-- What `write` returns. -/
  accepts : Bool

/-! ## The state -/

/-- A chunk in `pending`; its promise is known by a number. -/
structure Entry where
  sequence : Nat
  sampleCount : Nat
  endSample : Nat
  promise : Nat
  deriving DecidableEq, Repr

/-- What `sendAudio` resolves with; the child's numbers are kept as they
came. -/
structure Acknowledgement where
  sequence : Rat
  sampleCount : Nat
  endSample : Rat
  deriving DecidableEq

inductive Settlement where
  | resolved (acknowledgement : Acknowledgement)
  | rejected (code : String)
  deriving DecidableEq

/-- What `waitForExit` resolves with. -/
structure Exit where
  state : RuntimeState
  exitCode : Option Int
  exitSignal : Option String
  deriving DecidableEq

inductive Signal where
  | SIGTERM
  | SIGKILL
  deriving DecidableEq

/-- `ready` and `ended` are the two promises: not settled, resolved, or rejected
with a code.  `ackTimers` are the promises whose timer is set. -/
structure Runtime where
  state : RuntimeState := .starting
  nextSequence : Nat := 0
  nextSampleOffset : Nat := 0
  pendingSamples : Int := 0
  stdoutBuffer : List UInt8 := []
  stderrBytes : Nat := 0
  stdinBackpressured : Bool := false
  completedReceived : Bool := false
  startupTimer : Bool := false
  killTimer : Bool := false
  ready : Option (Option String) := none
  ended : Option (Option String) := none
  pending : List Entry := []
  ackTimers : List Nat := []
  promises : Nat := 0
  settlements : List (Nat × Settlement) := []
  written : List Outgoing := []
  /-- What `onMessage` has been given. -/
  messages : List Json := []
  inputEnded : Bool := false
  signals : List Signal := []
  closed : Option Exit := none

/-- What the runtime is launched with. -/
structure Config where
  modelId : String
  revision : String
  stdin : Stdin

namespace Runtime

/-- A promise that is settled stays as it is. -/
def settleReady (runtime : Runtime) (error : Option String) : Runtime :=
  { runtime with
    ready := runtime.ready.or (some error)
    startupTimer := runtime.startupTimer && runtime.ready.isSome }

def settleEnd (runtime : Runtime) (error : Option String) : Runtime :=
  { runtime with ended := runtime.ended.or (some error) }

def clearPending (runtime : Runtime) (error : String) : Runtime :=
  let cleared := runtime.pending.map (·.promise)
  { runtime with
    ackTimers := runtime.ackTimers.filter (· ∉ cleared)
    settlements := runtime.settlements ++
      cleared.map (fun promise => (promise, .rejected error))
    pending := []
    pendingSamples := 0 }

def terminate (runtime : Runtime) : Runtime :=
  { runtime with
    signals := runtime.signals ++ [.SIGTERM]
    killTimer := true }

/-- A final state without success; all that waits is rejected. -/
def abandon (runtime : Runtime) (state : RuntimeState) (code : String) :
    Runtime :=
  let runtime := { runtime with state := state }
  ((runtime.settleReady (some code)).settleEnd (some code)).clearPending code

def fail (runtime : Runtime) (code : String) : Runtime :=
  if runtime.state.terminal then runtime
  else (runtime.abandon .failed code).terminate

def write (runtime : Runtime) (stdin : Stdin) (message : Outgoing) :
    Except String Runtime :=
  if stdin.destroyed ∨ ¬stdin.writable then .error "runtime_unavailable"
  else if message.line.length > maxLine ∨
      stdin.writableLength > maxStdinBufferBytes ∨
      runtime.stdinBackpressured then .error "backpressure_limit"
  else .ok { runtime with
    written := runtime.written ++ [message]
    stdinBackpressured := runtime.stdinBackpressured || !stdin.accepts }

/-! ## Messages of the child -/

/-- An object with these fields and no other. -/
def exactFields (message : Json) (keys : List String) : Bool :=
  match message with
  | .object fields => fields.length = keys.length &&
      keys.all fun key => fields.any fun field => field.1 = key
  | _ => false

def isText (value : Option Json) (text : String) : Bool :=
  match value with
  | some (.string other) => other = text
  | _ => false

def numberOf : Option Json → Option Rat
  | some (.number number) => some number
  | _ => none

/-- `asr.ipc.ready.v1` -/
def onReady (config : Config) (runtime : Runtime) (message : Json) : Runtime :=
  if exactFields message ["type", "modelId", "revision"] ∧
      runtime.state = .starting ∧
      isText (message.field? "modelId") config.modelId ∧
      isText (message.field? "revision") config.revision then
    { runtime with state := .ready }.settleReady none
  else runtime.fail "runtime_protocol_invalid"

/-- The chunk that has waited longest leaves `pending`. -/
def acknowledge (runtime : Runtime) (first : Entry)
    (sequence endSample : Rat) : Runtime :=
  { runtime with
    pending := runtime.pending.filter (·.sequence ≠ first.sequence)
    pendingSamples := runtime.pendingSamples - first.sampleCount
    ackTimers := runtime.ackTimers.filter (· ≠ first.promise)
    settlements := runtime.settlements ++ [(first.promise,
      .resolved ⟨sequence, first.sampleCount, endSample⟩)] }

/-- `asr.ipc.consumed.v1` -/
def onConsumed (runtime : Runtime) (message : Json) : Runtime :=
  if exactFields message ["type", "sequence", "endSample"] ∧
      (runtime.state = .ready ∨ runtime.state = .ending) then
    match runtime.pending with
    | [] => runtime.fail "runtime_protocol_invalid"
    | first :: _ =>
        match numberOf (message.field? "sequence"),
          numberOf (message.field? "endSample") with
        | some sequence, some endSample =>
            if sequence = first.sequence ∧ endSample = first.endSample then
              runtime.acknowledge first sequence endSample
            else runtime.fail "runtime_protocol_invalid"
        | _, _ => runtime.fail "runtime_protocol_invalid"
  else runtime.fail "runtime_protocol_invalid"

/-- `asr.ipc.completed.v1` -/
def onCompleted (runtime : Runtime) (message : Json) : Runtime :=
  if exactFields message ["type", "lastSequence"] ∧ runtime.state = .ending ∧
      numberOf (message.field? "lastSequence") =
        some (runtime.nextSequence - 1 : Rat) ∧
      runtime.pendingSamples = 0 ∧ runtime.pending = [] ∧
      ¬runtime.completedReceived then
    { runtime with completedReceived := true, inputEnded := true }
  else runtime.fail "runtime_protocol_invalid"

def onMessage (config : Config) (runtime : Runtime) (message : Json) :
    Runtime :=
  let runtime := { runtime with messages := runtime.messages ++ [message] }
  if runtime.state.terminal ∨ runtime.state = .cancelling then runtime
  else if isText (message.field? "type") "asr.ipc.ready.v1" then
    runtime.onReady config message
  else if isText (message.field? "type") "asr.ipc.consumed.v1" then
    runtime.onConsumed message
  else if isText (message.field? "type") "asr.ipc.completed.v1" then
    runtime.onCompleted message
  else runtime.fail "runtime_protocol_invalid"

/-- `decoder.decode`, with a byte order mark taken off. -/
def decodeLine (line : List UInt8) : Option String :=
  match line with
  | 0xef :: 0xbb :: 0xbf :: rest => String.fromUTF8? rest.toByteArray
  | line => String.fromUTF8? line.toByteArray

def onLine (config : Config) (runtime : Runtime) (line : List UInt8) :
    Runtime :=
  match (decodeLine line).bind JsonText.parse with
  | some message => runtime.onMessage config message
  | none => runtime.fail "runtime_protocol_invalid"

/-- The lines in the buffer; every round takes a newline. -/
def readLines (config : Config) : Nat → Runtime → Runtime
  | 0, runtime => runtime
  | rounds + 1, runtime =>
      let line := runtime.stdoutBuffer.takeWhile (· ≠ 10)
      if runtime.stdoutBuffer.length = line.length then
        if runtime.stdoutBuffer.length > maxLine then
          runtime.fail "runtime_output_limit"
        else runtime
      else if line.length > maxLine ∨ line.length = 0 then
        runtime.fail "runtime_output_limit"
      else
        let rest := runtime.stdoutBuffer.drop (line.length + 1)
        let after := { runtime with stdoutBuffer := rest }.onLine config line
        if after.state = .failed then after else after.readLines config rounds

def stdoutData (config : Config) (runtime : Runtime) (chunk : List UInt8) :
    Runtime :=
  if runtime.state = .failed ∨ runtime.state = .cancelling then runtime
  else
    let buffer := runtime.stdoutBuffer ++ chunk
    { runtime with stdoutBuffer := buffer }.readLines config (buffer.length + 1)

/-! ## Other events -/

def stderrData (runtime : Runtime) (bytes : Nat) : Runtime :=
  let counted := { runtime with stderrBytes := runtime.stderrBytes + bytes }
  if counted.stderrBytes > maxStderrBytes then
    counted.fail "runtime_output_limit"
  else counted

/-- The exit code is `none` after a signal. -/
def onClose (runtime : Runtime) (exitCode : Option Int)
    (exitSignal : Option String) : Runtime :=
  let runtime := { runtime with startupTimer := false }
  let after :=
    if runtime.state = .cancelling then
      runtime.abandon .cancelled "session_cancelled"
    else if runtime.state = .ending ∧ runtime.completedReceived ∧
        exitCode = some 0 then
      { runtime with state := .completed }.settleEnd none
    else if runtime.state.terminal then runtime
    else runtime.abandon .failed "runtime_exited_unexpectedly"
  { after with closed := some ⟨after.state, exitCode, exitSignal⟩ }

def onAbort (runtime : Runtime) : Runtime :=
  if runtime.state.terminal ∨ runtime.state = .cancelling then runtime
  else { runtime with state := .cancelling }.terminate

def onStartupTimer (runtime : Runtime) : Runtime :=
  let runtime := { runtime with startupTimer := false }
  if runtime.state = .starting then runtime.fail "runtime_startup_timeout"
  else runtime

def onAckTimer (runtime : Runtime) (promise : Nat) : Runtime :=
  { runtime with
    ackTimers := runtime.ackTimers.filter (· ≠ promise) }.fail
      "runtime_ack_timeout"

/-! ## Calls -/

/-- `pending.set` -/
def setPending (pending : List Entry) (entry : Entry) : List Entry :=
  if pending.any (·.sequence = entry.sequence) then
    pending.map fun other =>
      if other.sequence = entry.sequence then entry else other
  else pending ++ [entry]

/-- What `sendAudio` checks of a chunk; `none` is no integer, and no buffer. -/
def admitsAudio (runtime : Runtime) (sequence sampleOffset : Option Int)
    (pcm : List UInt8) : Bool :=
  pcm.length % 2 = 0 && 1 ≤ pcm.length / 2 &&
    pcm.length / 2 ≤ maxFrameSamples && sequence = some runtime.nextSequence &&
    sampleOffset = some runtime.nextSampleOffset &&
    runtime.nextSampleOffset + pcm.length / 2 ≤ maxSessionSamples

/-- `sendAudio` answers with its promise, or throws a code. -/
def sendAudio (runtime : Runtime) (stdin : Stdin)
    (sequence sampleOffset : Option Int) (pcm : Option (List UInt8)) :
    Runtime × Except String Nat :=
  if runtime.state ≠ .ready then (runtime, .error "runtime_unavailable")
  else
    match pcm with
    | none => (runtime, .error "input_invalid")
    | some pcm =>
        if ¬runtime.admitsAudio sequence sampleOffset pcm then
          (runtime, .error "input_invalid")
        else
          let sampleCount := pcm.length / 2
          if runtime.pendingSamples + sampleCount > maxQueuedSamples ∨
              runtime.stdinBackpressured ∨
              stdin.writableLength > maxStdinBufferBytes then
            (runtime, .error "backpressure_limit")
          else
            let endSample := runtime.nextSampleOffset + sampleCount
            let promise := runtime.promises
            let entry : Entry :=
              ⟨runtime.nextSequence, sampleCount, endSample, promise⟩
            let waiting := { runtime with
              promises := promise + 1
              ackTimers := runtime.ackTimers ++ [promise]
              pending := setPending runtime.pending entry
              pendingSamples := runtime.pendingSamples + sampleCount }
            match waiting.write stdin (.audio runtime.nextSequence
              runtime.nextSampleOffset sampleCount pcm) with
            | .error code =>
                ({ waiting with
                  ackTimers := waiting.ackTimers.filter (· ≠ promise)
                  pending := waiting.pending.filter
                    (·.sequence ≠ runtime.nextSequence)
                  pendingSamples := waiting.pendingSamples - sampleCount
                  settlements := waiting.settlements ++
                    [(promise, .rejected code)] }, .error code)
            | .ok sent =>
                ({ sent with
                  nextSequence := runtime.nextSequence + 1
                  nextSampleOffset := endSample }, .ok promise)

/-- `end` answers with `endPromise`, or is rejected with a code. -/
def endInput (runtime : Runtime) (stdin : Stdin) (lastSequence : Option Json) :
    Runtime × Except String Unit :=
  if runtime.state ≠ .ready ∨ runtime.nextSequence = 0 ∨
      numberOf lastSequence ≠ some (runtime.nextSequence - 1 : Rat) then
    (runtime, .error "input_invalid")
  else
    let ending := { runtime with state := .ending }
    match ending.write stdin (.endInput (runtime.nextSequence - 1)) with
    | .error _ => (ending.fail "runtime_io_failed", .ok ())
    | .ok sent => (sent, .ok ())

/-- `cancel`; its caller awaits the close. -/
def cancel (runtime : Runtime) : Runtime :=
  if runtime.state.terminal ∨ runtime.state = .cancelling then runtime
  else { runtime with state := .cancelling }.terminate

/-! ## Runs -/

/-- The child has been spawned. -/
def launch (config : Config) : Runtime :=
  let started : Runtime := { startupTimer := true }
  match started.write config.stdin (.start config.modelId config.revision) with
  | .error _ => started.fail "runtime_io_failed"
  | .ok written => written

inductive Event where
  | stdinDrain
  | stdinError
  /-- The callback of a write reports an error. -/
  | writeError
  | stderrData (bytes : Nat)
  | stdoutData (chunk : List UInt8)
  | stdoutError
  | spawnError
  | close (exitCode : Option Int) (exitSignal : Option String)
  | abort
  | startupTimer
  | ackTimer (promise : Nat)
  | killTimer
  | sendAudio (stdin : Stdin) (sequence sampleOffset : Option Int)
      (pcm : Option (List UInt8))
  | endInput (stdin : Stdin) (lastSequence : Option Json)
  | cancel

/-- The runtime is returned once `readyPromise` has resolved. -/
def available (runtime : Runtime) : Prop :=
  runtime.ready = some none

instance (runtime : Runtime) : Decidable runtime.available :=
  inferInstanceAs (Decidable (_ = _))

def step (config : Config) (runtime : Runtime) : Event → Option Runtime
  | .stdinDrain => some { runtime with stdinBackpressured := false }
  | .stdinError | .writeError | .stdoutError =>
      some (runtime.fail "runtime_io_failed")
  | .stderrData bytes => some (runtime.stderrData bytes)
  | .stdoutData chunk => some (runtime.stdoutData config chunk)
  | .spawnError => some (runtime.fail "runtime_spawn_failed")
  | .close exitCode exitSignal =>
      if runtime.closed = none then some (runtime.onClose exitCode exitSignal)
      else none
  | .abort => if runtime.closed = none then some runtime.onAbort else none
  | .startupTimer =>
      if runtime.startupTimer then some runtime.onStartupTimer else none
  | .ackTimer promise =>
      if promise ∈ runtime.ackTimers then some (runtime.onAckTimer promise)
      else none
  | .killTimer =>
      if runtime.killTimer ∧ runtime.closed = none then
        some { runtime with signals := runtime.signals ++ [.SIGKILL] }
      else none
  | .sendAudio stdin sequence sampleOffset pcm =>
      if runtime.available then
        some (runtime.sendAudio stdin sequence sampleOffset pcm).1
      else none
  | .endInput stdin lastSequence =>
      if runtime.available then some (runtime.endInput stdin lastSequence).1
      else none
  | .cancel => if runtime.available then some runtime.cancel else none

end Runtime

def machine (config : Config) : Machine Runtime Runtime.Event where
  initial := Runtime.launch config
  step := Runtime.step config

end SyntheticAsr

end GpuLink
