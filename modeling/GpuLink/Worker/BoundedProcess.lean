import GpuLink.Library.Failures
import GpuLink.Library.Machine
import GpuLink.Shared.Text
import GpuLink.Shared.Validation

/-!
# Bounded processes

A child process whose output, time and owner's patience are limited.  The first
of the limits that is passed ends the process, and decides what its promise is
rejected with.
-/

namespace GpuLink

namespace BoundedProcess

/-! ## Invocations -/

/-- `MAX_PROCESS_OUTPUT_BYTES` -/
def maxProcessOutputBytes : Nat := 1048576

/-- `MAX_PROCESS_TIMEOUT_MS` -/
def maxProcessTimeoutMs : Nat := 86400000

/-- `path.isAbsolute` -/
def isAbsolute (path : String) : Bool :=
  path.toList.head? = some '/'

structure Invocation where
  command : String
  arguments : List String
  timeoutMs : Nat
  maxOutputBytes : Nat
  env : List (String × String)
  absolute : isAbsolute command = true
  few : arguments.length ≤ 128
  timed : 1 ≤ timeoutMs ∧ timeoutMs ≤ maxProcessTimeoutMs
  bounded : 1 ≤ maxOutputBytes ∧ maxOutputBytes ≤ maxProcessOutputBytes

def readCommand (command : Json) :
    Except String { path : String // isAbsolute path = true } :=
  match command with
  | .string path =>
      if absolute : isAbsolute path = true then .ok ⟨path, absolute⟩
      else .error "Process executable must be an absolute path"
  | _ => .error "Process executable must be an absolute path"

def stringOf? : Json → Option String
  | .string text => some text
  | _ => none

def readArguments (arguments : Json) :
    Except String { texts : List String // texts.length ≤ 128 } :=
  let refused := "Process arguments must be an array of at most 128 strings"
  match arguments with
  | .array items =>
      match items.mapM stringOf? with
      | some texts =>
          if few : texts.length ≤ 128 then .ok ⟨texts, few⟩ else .error refused
      | none => .error refused
  | _ => .error refused

/-- An integer that is safe, from one to a maximum. -/
def readLimit (value : Json) (maximum : Nat) (refused : String) :
    Except String { limit : Nat // 1 ≤ limit ∧ limit ≤ maximum } :=
  match value with
  | .number q =>
      if q.den = 1 ∧ q.num.natAbs ≤ JsonText.maxSafeInteger ∧ 0 ≤ q.num then
        if within : 1 ≤ q.num.toNat ∧ q.num.toNat ≤ maximum then
          .ok ⟨q.num.toNat, within⟩
        else .error refused
      else .error refused
  | _ => .error refused

/-- `envIsInvalid`, and the environment that the process is given. -/
def readEnv (env : Option Json) : Except String (List (String × String)) :=
  let refused := "Process environment must contain only string values"
  match env with
  | none => .ok []
  | some (.object fields) =>
      match fields.mapM fun field => (stringOf? field.2).map (field.1, ·) with
      | some texts => .ok texts
      | none => .error refused
  | some _ => .error refused

/-- `validateInvocation`, with the defaults of `runBoundedProcess`. -/
def validateInvocation (command arguments : Json)
    (timeoutMs maxOutputBytes env : Option Json) : Except String Invocation := do
  let command ← readCommand command
  let arguments ← readArguments arguments
  let timeoutMs ← readLimit (timeoutMs.getD (.number 60000)) maxProcessTimeoutMs
    "Process timeout must be between 1 and 86400000 ms"
  let maxOutputBytes ← readLimit (maxOutputBytes.getD (.number 65536))
    maxProcessOutputBytes
    "Process output limit must be between 1 and 1048576 bytes"
  let env ← readEnv env
  return ⟨command.1, arguments.1, timeoutMs.1, maxOutputBytes.1, env, command.2,
    arguments.2, timeoutMs.2, maxOutputBytes.2⟩

theorem readLimit_of {limit maximum : Nat} {refused : String}
    (within : 1 ≤ limit ∧ limit ≤ maximum)
    (safe : maximum ≤ JsonText.maxSafeInteger) :
    readLimit (.number limit) maximum refused = .ok ⟨limit, within⟩ := by
  have number : ((limit : Rat).den = 1 ∧
      (limit : Rat).num.natAbs ≤ JsonText.maxSafeInteger ∧
        0 ≤ (limit : Rat).num) := by
    rw [Rat.num_natCast, Int.natAbs_natCast]
    exact ⟨Rat.den_natCast limit, within.2.trans safe, Int.natCast_nonneg limit⟩
  have same : (limit : Rat).num.toNat = limit := by
    rw [Rat.num_natCast, Int.toNat_natCast]
  unfold readLimit
  dsimp only
  rw [if_pos number, dif_pos (by rw [same]; exact within)]
  congr 2

theorem mapM_strings (texts : List String) :
    (texts.map Json.string).mapM stringOf? = some texts := by
  induction texts with
  | nil => rfl
  | cons text rest induction =>
      rw [List.map_cons, List.mapM_cons, induction]
      rfl

theorem mapM_entries (env : List (String × String)) :
    (env.map fun entry => (entry.1, Json.string entry.2)).mapM
      (fun field => (stringOf? field.2).map (field.1, ·)) = some env := by
  induction env with
  | nil => rfl
  | cons entry rest induction =>
      rw [List.map_cons, List.mapM_cons, induction]
      rfl

/-- The arguments that an invocation is read from. -/
theorem validateInvocation_again (invocation : Invocation)
    {maxOutputBytes : Option Json}
    (given : maxOutputBytes.getD (.number 65536) =
      .number invocation.maxOutputBytes) :
    validateInvocation (.string invocation.command)
      (.array (invocation.arguments.map .string))
      (some (.number invocation.timeoutMs)) maxOutputBytes
      (some (.object (invocation.env.map fun entry =>
        (entry.1, .string entry.2)))) = .ok invocation := by
  unfold validateInvocation readCommand readArguments readEnv
  dsimp only
  rw [dif_pos invocation.absolute, mapM_strings, mapM_entries, given,
    Option.getD_some, readLimit_of invocation.timed (by decide),
    readLimit_of invocation.bounded (by decide)]
  dsimp only
  rw [dif_pos invocation.few]
  rfl

/-! ## Processes -/

/-- `processError`; the message is held in UTF-16 code units, as `slice` may
cut a character in two. -/
structure Failure where
  code : String
  message : List Nat
  deriving DecidableEq, Repr

def processError (code message : String) : Failure :=
  ⟨code, utf16Units message⟩

def outputLimit : Failure :=
  processError "process_output_limit" "Process exceeded its output limit"

def timedOut : Failure :=
  processError "process_timeout" "Process exceeded its time limit"

def aborted : Failure :=
  processError "job_aborted" "Job was aborted"

structure Output where
  stdout : String
  stderr : String
  deriving DecidableEq, Repr

inductive Signal where
  | sigterm
  | sigkill
  deriving DecidableEq, Repr

/-- A signal goes to the group of a detached process, or else to the child. -/
inductive Recipient where
  | group (pid : Nat)
  | child
  deriving DecidableEq, Repr

structure Sent where
  time : Nat
  recipient : Recipient
  signal : Signal
  deriving DecidableEq, Repr

/-- How a process is started: `detached` is false on Windows only, and there is
no `pid` when it could not be spawned. -/
structure Spawn where
  invocation : Invocation
  detached : Bool
  pid : Option Nat
  /-- `signal.aborted`, when a signal has been given. -/
  signal : Option Bool

inductive Stream where
  | stdout
  | stderr
  deriving DecidableEq, Repr

/-- The variables that the handlers share; `chunks` are the two lists of the
streams. -/
structure Child where
  now : Nat
  chunks : Stream → List (List UInt8)
  outputBytes : Nat
  failure : Option Failure
  /-- When each timer that is set is due. -/
  timeout : Option Nat
  killTimer : Option Nat
  /-- The signal has our listener. -/
  listening : Bool
  sent : List Sent
  /-- What the promise has been settled with, when the process has closed. -/
  settled : Option (Except Failure Output)

inductive Event where
  | elapse (ms : Nat)
  | data (stream : Stream) (chunk : List UInt8)
  | timeout
  | killTimer
  | abort
  | error (message : String)
  | close (exitCode : Option Int) (exitSignal : Option String)
  deriving DecidableEq, Repr

def Spawn.recipient (spawn : Spawn) : Recipient :=
  match spawn.pid with
  | some pid => if spawn.detached then .group pid else .child
  | none => .child

namespace Child

/-- `killChild` -/
def kill (spawn : Spawn) (signal : Signal) (child : Child) : Child :=
  { child with sent := child.sent ++ [⟨child.now, spawn.recipient, signal⟩] }

/-- `terminate` -/
def terminate (spawn : Spawn) (failure : Failure) (child : Child) : Child :=
  match child.failure with
  | some _ => child
  | none =>
      { child.kill spawn .sigterm with
        failure := some failure
        killTimer := some (child.now + 2000) }

/-- `collect` -/
def collect (spawn : Spawn) (stream : Stream) (chunk : List UInt8)
    (child : Child) : Child :=
  match child.failure with
  | some _ => child
  | none =>
      let outputBytes := child.outputBytes + chunk.length
      let child := { child with outputBytes := outputBytes }
      if outputBytes > spawn.invocation.maxOutputBytes then
        child.terminate spawn outputLimit
      else { child with
        chunks := Function.update child.chunks stream
          (child.chunks stream ++ [chunk]) }

/-- The handler of `error`. -/
def fail (message : String) (child : Child) : Child :=
  match child.failure with
  | some _ => child
  | none =>
      { child with
        failure := some (processError "process_runner_failed" message) }

end Child

/-- What a process that exited with anything but zero is rejected with. -/
def exitFailure (stderr : String) (exitCode : Option Int)
    (exitSignal : Option String) : Failure :=
  let detail := (utf16Units (trimText stderr)).take 2000
  let code := match exitCode with
    | some code => toString code
    | none => "null"
  let how := match exitSignal with
    | some "" => code
    | some name => name
    | none => code
  ⟨"process_runner_failed",
    if detail = [] then utf16Units ("Process exited with " ++ how) else detail⟩

namespace Child

/-- The handler of `close`. -/
def close (exitCode : Option Int) (exitSignal : Option String)
    (child : Child) : Child :=
  let stdoutText := utf8Text (child.chunks .stdout).flatten
  let stderrText := utf8Text (child.chunks .stderr).flatten
  { child with
    timeout := none
    killTimer := none
    listening := false
    settled := some (match child.failure with
      | some failure => .error failure
      | none =>
          if exitCode = some 0 then .ok ⟨stdoutText, stderrText⟩
          else .error (exitFailure stderrText exitCode exitSignal)) }

def spawned (invocation : Invocation) : Child :=
  ⟨0, fun _ => [], 0, none, some invocation.timeoutMs, none, false, [], none⟩

/-- What is left when `runBoundedProcess` returns its promise. -/
def start (spawn : Spawn) : Child :=
  match spawn.signal with
  | some true =>
      (spawned spawn.invocation).terminate spawn BoundedProcess.aborted
  | some false => { spawned spawn.invocation with listening := true }
  | none => spawned spawn.invocation

/-- A timer fires when it is due, and is not set any more. -/
def due (timer : Option Nat) (now : Nat) : Bool :=
  match timer with
  | some time => time ≤ now
  | none => false

/-- The child emits nothing after `close`. -/
def step (spawn : Spawn) (child : Child) : Event → Option Child
  | .elapse ms => some { child with now := child.now + ms }
  | .data stream chunk =>
      if child.settled.isSome then none
      else some (child.collect spawn stream chunk)
  | .timeout =>
      if due child.timeout child.now then
        some ({ child with timeout := none }.terminate spawn timedOut)
      else none
  | .killTimer =>
      if due child.killTimer child.now then
        some ({ child with killTimer := none }.kill spawn .sigkill)
      else none
  | .abort =>
      if child.listening then
        some ({ child with listening := false }.terminate spawn
          BoundedProcess.aborted)
      else none
  | .error message =>
      if child.settled.isSome then none else some (child.fail message)
  | .close exitCode exitSignal =>
      if child.settled.isSome then none
      else some (child.close exitCode exitSignal)

end Child

/-- `runBoundedProcess` -/
def runBoundedProcess (spawn : Spawn) : Machine Child Event where
  initial := .start spawn
  step := Child.step spawn

/-! ## What a process has done -/

def chunkOf (stream : Stream) : Event → List UInt8
  | .data source chunk => if source = stream then chunk else []
  | _ => []

/-- What has been written to a stream. -/
def written (stream : Stream) (events : List Event) : List UInt8 :=
  events.flatMap (chunkOf stream)

/-- The bytes of both streams. -/
def received (events : List Event) : Nat :=
  (written .stdout events).length + (written .stderr events).length

/-- What an event ends a process for, after these. -/
def cause (maxOutputBytes : Nat) (earlier : List Event) (event : Event) :
    Option Failure :=
  match event with
  | .data _ _ =>
      if maxOutputBytes < received (earlier ++ [event]) then some outputLimit
      else none
  | .timeout => some timedOut
  | .abort => some aborted
  | .error message => some (processError "process_runner_failed" message)
  | .elapse _ | .killTimer | .close _ _ => none

def firstCause (maxOutputBytes : Nat) (earlier : List Event) :
    List Event → Option Failure
  | [] => none
  | event :: rest =>
      (cause maxOutputBytes earlier event).or
        (firstCause maxOutputBytes (earlier ++ [event]) rest)

/-- What a process has failed with: it comes first, whatever comes later. -/
def failureOf (spawn : Spawn) (events : List Event) : Option Failure :=
  if spawn.signal = some true then some aborted
  else firstCause spawn.invocation.maxOutputBytes [] events

structure Closing where
  before : List Event
  exitCode : Option Int
  exitSignal : Option String

def closes (earlier : List Event) : Event → Option Closing
  | .close exitCode exitSignal => some ⟨earlier, exitCode, exitSignal⟩
  | _ => none

def closing (earlier : List Event) : List Event → Option Closing
  | [] => none
  | event :: rest =>
      (closes earlier event).or (closing (earlier ++ [event]) rest)

/-- The events up to `close`. -/
def lifetime (events : List Event) : List Event :=
  match closing [] events with
  | some closed => closed.before
  | none => events

/-- What the promise of a process that has closed is settled with. -/
def verdict (spawn : Spawn) (closed : Closing) : Except Failure Output :=
  match failureOf spawn closed.before with
  | some failure => .error failure
  | none =>
      let stderr := utf8Text (written .stderr closed.before)
      if closed.exitCode = some 0 then
        .ok ⟨utf8Text (written .stdout closed.before), stderr⟩
      else .error (exitFailure stderr closed.exitCode closed.exitSignal)

theorem firstCause_snoc (maxOutputBytes : Nat) (earlier events : List Event)
    (event : Event) :
    firstCause maxOutputBytes earlier (events ++ [event]) =
      (firstCause maxOutputBytes earlier events).or
        (cause maxOutputBytes (earlier ++ events) event) := by
  induction events generalizing earlier with
  | nil =>
      rw [List.nil_append, List.append_nil, firstCause, firstCause, firstCause,
        Option.or_none, Option.none_or]
  | cons first rest induction =>
      rw [List.cons_append, firstCause, induction, firstCause, Option.or_assoc,
        List.append_assoc, List.singleton_append]

theorem failureOf_snoc (spawn : Spawn) (events : List Event) (event : Event) :
    failureOf spawn (events ++ [event]) =
      (failureOf spawn events).or
        (cause spawn.invocation.maxOutputBytes events event) := by
  unfold failureOf
  split_ifs with already
  · rw [Option.some_or]
  · rw [firstCause_snoc, List.nil_append]

/-- A process closes once. -/
theorem closing_snoc (earlier events : List Event) (event : Event) :
    closing earlier (events ++ [event]) =
      (closing earlier events).or (closes (earlier ++ events) event) := by
  induction events generalizing earlier with
  | nil =>
      rw [List.nil_append, List.append_nil, closing, closing, closing,
        Option.or_none, Option.none_or]
  | cons first rest induction =>
      rw [List.cons_append, closing, induction, closing, Option.or_assoc,
        List.append_assoc, List.singleton_append]

theorem lifetime_of_open {events : List Event}
    (open_ : closing [] events = none) : lifetime events = events := by
  rw [lifetime, open_]

theorem lifetime_of_closed {events : List Event} {closed : Closing}
    (found : closing [] events = some closed) :
    lifetime events = closed.before := by
  rw [lifetime, found]

/-- While a process is open, its life goes on with each event but `close`. -/
theorem lifetime_snoc {events : List Event} (open_ : closing [] events = none)
    {event : Event} (goesOn : closes events event = none) :
    closing [] (events ++ [event]) = none ∧
      lifetime (events ++ [event]) = events ++ [event] := by
  have still : closing [] (events ++ [event]) = none := by
    rw [closing_snoc, open_, List.nil_append, goesOn, Option.none_or]
  exact ⟨still, lifetime_of_open still⟩

/-- After `close` it does not. -/
theorem lifetime_closed {events : List Event} {closed : Closing}
    (found : closing [] events = some closed) (event : Event) :
    closing [] (events ++ [event]) = some closed ∧
      lifetime (events ++ [event]) = lifetime events := by
  have still : closing [] (events ++ [event]) = some closed := by
    rw [closing_snoc, found, Option.some_or]
  exact ⟨still, (lifetime_of_closed still).trans
    (lifetime_of_closed found).symm⟩

/-! ## What the variables say -/

namespace Child

theorem terminate_failed {spawn : Spawn} {failure other : Failure}
    {child : Child} (failed : child.failure = some other) :
    child.terminate spawn failure = child := by
  rw [terminate, failed]

theorem terminate_running {spawn : Spawn} {failure : Failure} {child : Child}
    (running : child.failure = none) :
    child.terminate spawn failure =
      { child.kill spawn .sigterm with
        failure := some failure
        killTimer := some (child.now + 2000) } := by
  rw [terminate, running]

theorem collect_failed {spawn : Spawn} {stream : Stream} {chunk : List UInt8}
    {other : Failure} {child : Child} (failed : child.failure = some other) :
    child.collect spawn stream chunk = child := by
  rw [collect, failed]

theorem collect_running {spawn : Spawn} {stream : Stream} {chunk : List UInt8}
    {child : Child} (running : child.failure = none) :
    child.collect spawn stream chunk =
      if child.outputBytes + chunk.length > spawn.invocation.maxOutputBytes then
        { child with
          outputBytes := child.outputBytes + chunk.length }.terminate spawn
            outputLimit
      else { child with
        outputBytes := child.outputBytes + chunk.length
        chunks := Function.update child.chunks stream
          (child.chunks stream ++ [chunk]) } := by
  unfold collect
  split
  · next found =>
      rw [running] at found
      cases found
  · rfl

theorem fail_failed {message : String} {other : Failure} {child : Child}
    (failed : child.failure = some other) : child.fail message = child := by
  rw [fail, failed]

end Child

theorem written_snoc (stream : Stream) (events : List Event) (event : Event) :
    written stream (events ++ [event]) =
      written stream events ++ chunkOf stream event := by
  rw [written, List.flatMap_append, List.flatMap_singleton]
  rfl

theorem received_data (events : List Event) (stream : Stream)
    (chunk : List UInt8) :
    received (events ++ [.data stream chunk]) =
      received events + chunk.length := by
  unfold received
  rw [written_snoc, written_snoc]
  cases stream <;> simp [chunkOf] <;> omega

/-- The bytes that a process that has not failed holds are those that it has
been sent. -/
structure Holds (events : List Event) (child : Child) : Prop where
  chunks : ∀ stream, (child.chunks stream).flatten = written stream events
  outputBytes : child.outputBytes = received events

/-- What two streams hold. -/
def Child.held (child : Child) : Nat :=
  (child.chunks .stdout).flatten.length + (child.chunks .stderr).flatten.length

theorem Holds.held {events : List Event} {child : Child}
    (holds : Holds events child) : child.held = received events := by
  rw [Child.held, holds.chunks, holds.chunks, received]

/-- An event without data changes nothing of it. -/
theorem Holds.quiet {events : List Event} {child after : Child} {event : Event}
    (holds : Holds events child) (silent : ∀ stream, chunkOf stream event = [])
    (chunks : after.chunks = child.chunks)
    (outputBytes : after.outputBytes = child.outputBytes) :
    Holds (events ++ [event]) after := by
  have same : ∀ stream, written stream (events ++ [event]) =
      written stream events := by
    intro stream
    rw [written_snoc, silent, List.append_nil]
  constructor
  · intro stream
    rw [chunks, same, holds.chunks]
  · rw [outputBytes, received, same, same, holds.outputBytes, received]

theorem Holds.data {events : List Event} {child after : Child}
    {stream : Stream} {chunk : List UInt8} (holds : Holds events child)
    (chunks : after.chunks = Function.update child.chunks stream
      (child.chunks stream ++ [chunk]))
    (outputBytes : after.outputBytes = child.outputBytes + chunk.length) :
    Holds (events ++ [.data stream chunk]) after := by
  constructor
  · intro other
    rw [chunks, written_snoc, chunkOf, ← holds.chunks]
    by_cases same : stream = other
    · subst same
      simp
    · rw [if_neg same, Function.update_of_ne (Ne.symm same), List.append_nil]
  · rw [outputBytes, received_data, holds.outputBytes]

/-- The variables after these events. -/
structure Follows (spawn : Spawn) (events : List Event) (child : Child) :
    Prop where
  failure : child.failure = failureOf spawn (lifetime events)
  holds : child.failure = none → Holds (lifetime events) child
  settled : child.settled = (closing [] events).map (verdict spawn)
  bounded : child.held ≤ spawn.invocation.maxOutputBytes
  still : child.settled.isSome →
    child.timeout = none ∧ child.killTimer = none ∧ child.listening = false

/-- What a step makes of a process that stays open. -/
structure Continues (spawn : Spawn) (events : List Event) (event : Event)
    (child after : Child) : Prop where
  goesOn : closes events event = none
  failure : after.failure = child.failure.or
    (cause spawn.invocation.maxOutputBytes events event)
  holds : after.failure = none → Holds (events ++ [event]) after
  settled : after.settled = child.settled
  bounded : after.held ≤ spawn.invocation.maxOutputBytes

theorem continues_data {spawn : Spawn} {events : List Event} {child : Child}
    (holds : child.failure = none → Holds events child)
    (bounded : child.held ≤ spawn.invocation.maxOutputBytes) (stream : Stream)
    (chunk : List UInt8) :
    Continues spawn events (.data stream chunk) child
      (child.collect spawn stream chunk) := by
  cases failed : child.failure with
  | some failure =>
      rw [Child.collect_failed failed]
      refine ⟨rfl, ?_, ?_, rfl, bounded⟩
      · rw [failed, Option.some_or]
      · intro running
        rw [failed] at running
        cases running
  | none =>
      have more := received_data events stream chunk
      rw [← (holds failed).outputBytes] at more
      rw [Child.collect_running failed]
      by_cases much : child.outputBytes + chunk.length >
          spawn.invocation.maxOutputBytes
      · rw [if_pos much, @Child.terminate_running spawn outputLimit
          { child with outputBytes := child.outputBytes + chunk.length } failed]
        refine ⟨rfl, ?_, ?_, rfl, bounded⟩
        · rw [failed, Option.none_or, cause, more, if_pos much]
        · intro running
          cases running
      · rw [if_neg much]
        have held : Holds (events ++ [.data stream chunk]) { child with
            outputBytes := child.outputBytes + chunk.length
            chunks := Function.update child.chunks stream
              (child.chunks stream ++ [chunk]) } :=
          (holds failed).data rfl rfl
        refine ⟨rfl, ?_, ?_, rfl, ?_⟩
        · dsimp only
          rw [failed, Option.none_or, cause, more, if_neg much]
        · intro _
          exact held
        · rw [held.held, more]
          exact not_lt.mp much

/-- An event that changes what has failed, and no data. -/
theorem continues_quiet {spawn : Spawn} {events : List Event}
    {child after : Child} {event : Event}
    (holds : child.failure = none → Holds events child)
    (bounded : child.held ≤ spawn.invocation.maxOutputBytes)
    (goesOn : closes events event = none)
    (silent : ∀ stream, chunkOf stream event = [])
    (failure : after.failure = child.failure.or
      (cause spawn.invocation.maxOutputBytes events event))
    (chunks : after.chunks = child.chunks)
    (outputBytes : after.outputBytes = child.outputBytes)
    (settled : after.settled = child.settled) :
    Continues spawn events event child after := by
  refine ⟨goesOn, failure, ?_, settled, ?_⟩
  · intro running
    rw [running] at failure
    have before : child.failure = none :=
      (Option.or_eq_none_iff.mp failure.symm).1
    exact (holds before).quiet silent chunks outputBytes
  · rw [Child.held, chunks]
    exact bounded

theorem continues_terminate {spawn : Spawn} {events : List Event}
    {child : Child} {event : Event} {failure : Failure}
    (holds : child.failure = none → Holds events child)
    (bounded : child.held ≤ spawn.invocation.maxOutputBytes)
    (goesOn : closes events event = none)
    (silent : ∀ stream, chunkOf stream event = [])
    (causes : cause spawn.invocation.maxOutputBytes events event =
      some failure) :
    Continues spawn events event child (child.terminate spawn failure) := by
  cases failed : child.failure with
  | some other =>
      rw [Child.terminate_failed failed]
      refine continues_quiet holds bounded goesOn silent ?_ rfl rfl rfl
      rw [failed, Option.some_or]
  | none =>
      rw [Child.terminate_running failed]
      refine continues_quiet holds bounded goesOn silent ?_ rfl rfl rfl
      rw [failed, Option.none_or, causes]

/-- What an event may do to a process that has not closed. -/
theorem step_open {spawn : Spawn} {events : List Event} {child after : Child}
    {event : Event} (open_ : child.settled = none)
    (holds : child.failure = none → Holds events child)
    (bounded : child.held ≤ spawn.invocation.maxOutputBytes)
    (taken : child.step spawn event = some after) :
    Continues spawn events event child after ∨
      ∃ exitCode exitSignal, event = .close exitCode exitSignal ∧
        after = child.close exitCode exitSignal := by
  have going : ¬child.settled.isSome := by
    rw [open_]
    exact Bool.false_ne_true
  cases event with
  | elapse ms =>
      cases taken
      left
      refine continues_quiet holds bounded rfl (fun _ => rfl) ?_ rfl rfl rfl
      exact Option.or_none.symm
  | data stream chunk =>
      rw [Child.step, if_neg going] at taken
      cases taken
      exact Or.inl (continues_data holds bounded stream chunk)
  | timeout =>
      rw [Child.step] at taken
      split_ifs at taken
      cases taken
      left
      obtain ⟨goesOn, failure, kept, settled, few⟩ :=
        @continues_terminate spawn events { child with timeout := none } .timeout timedOut
          (fun running => ⟨(holds running).chunks, (holds running).outputBytes⟩)
          bounded rfl (fun _ => rfl) rfl
      exact ⟨goesOn, failure, kept, settled, few⟩
  | killTimer =>
      rw [Child.step] at taken
      split_ifs at taken
      cases taken
      left
      refine continues_quiet holds bounded rfl (fun _ => rfl) ?_ rfl rfl rfl
      exact Option.or_none.symm
  | abort =>
      rw [Child.step] at taken
      split_ifs at taken
      cases taken
      left
      obtain ⟨goesOn, failure, kept, settled, few⟩ :=
        @continues_terminate spawn events { child with listening := false } .abort aborted
          (fun running => ⟨(holds running).chunks, (holds running).outputBytes⟩)
          bounded rfl (fun _ => rfl) rfl
      exact ⟨goesOn, failure, kept, settled, few⟩
  | error message =>
      rw [Child.step, if_neg going] at taken
      cases taken
      left
      cases failed : child.failure with
      | some other =>
          rw [Child.fail_failed failed]
          refine continues_quiet holds bounded rfl (fun _ => rfl) ?_ rfl rfl rfl
          rw [failed, Option.some_or]
      | none =>
          have failing : child.fail message = { child with
              failure := some (processError "process_runner_failed" message) } := by
            rw [Child.fail, failed]
          rw [failing]
          refine continues_quiet holds bounded rfl (fun _ => rfl) ?_ rfl rfl rfl
          rw [failed, Option.none_or, cause]
  | close exitCode exitSignal =>
      rw [Child.step, if_neg going] at taken
      cases taken
      exact Or.inr ⟨exitCode, exitSignal, rfl, rfl⟩

/-- A process that has closed only waits. -/
theorem step_closed {spawn : Spawn} {child after : Child} {event : Event}
    (closed : child.settled.isSome)
    (still : child.timeout = none ∧ child.killTimer = none ∧
      child.listening = false)
    (taken : child.step spawn event = some after) :
    ∃ ms, event = .elapse ms ∧ after = { child with now := child.now + ms } := by
  obtain ⟨timeout, killTimer, listening⟩ := still
  cases event with
  | elapse ms =>
      cases taken
      exact ⟨ms, rfl, rfl⟩
  | data stream chunk | error message | close exitCode exitSignal =>
      rw [Child.step, if_pos closed] at taken
      cases taken
  | timeout =>
      rw [Child.step, timeout] at taken
      cases taken
  | killTimer =>
      rw [Child.step, killTimer] at taken
      cases taken
  | abort =>
      rw [Child.step, listening] at taken
      cases taken

theorem Follows.step {spawn : Spawn} {events : List Event}
    {child after : Child} {event : Event} (follows : Follows spawn events child)
    (taken : child.step spawn event = some after) :
    Follows spawn (events ++ [event]) after := by
  cases found : closing [] events with
  | some closed =>
      have settled : child.settled.isSome := by
        rw [follows.settled, found]
        rfl
      obtain ⟨ms, rfl, rfl⟩ := step_closed settled (follows.still settled) taken
      obtain ⟨still, same⟩ := lifetime_closed found (.elapse ms)
      refine ⟨?_, ?_, ?_, follows.bounded, follows.still⟩
      · rw [same]
        exact follows.failure
      · rw [same]
        intro running
        exact ⟨(follows.holds running).chunks,
          (follows.holds running).outputBytes⟩
      · rw [still, ← found]
        exact follows.settled
  | none =>
      have settled : child.settled = none := by
        rw [follows.settled, found]
        rfl
      have life := lifetime_of_open found
      have holds := follows.holds
      have failure := follows.failure
      rw [life] at holds failure
      rcases step_open settled holds follows.bounded taken with
        continues | ⟨exitCode, exitSignal, rfl, rfl⟩
      · obtain ⟨still, same⟩ := lifetime_snoc found continues.goesOn
        refine ⟨?_, ?_, ?_, continues.bounded, ?_⟩
        · rw [same, continues.failure, failureOf_snoc, failure]
        · rw [same]
          exact continues.holds
        · rw [still, continues.settled, settled]
          rfl
        · rw [continues.settled, settled]
          intro isSome
          cases isSome
      · have ends : closing [] (events ++ [.close exitCode exitSignal]) =
            some ⟨events, exitCode, exitSignal⟩ := by
          rw [closing_snoc, found, List.nil_append]
          rfl
        have same := lifetime_of_closed ends
        refine ⟨?_, ?_, ?_, follows.bounded, fun _ => ⟨rfl, rfl, rfl⟩⟩
        · rw [same]
          exact failure
        · rw [same]
          intro running
          exact ⟨(holds running).chunks, (holds running).outputBytes⟩
        · rw [ends, Option.map_some, verdict, ← failure, Child.close]
          cases failed : child.failure with
          | some other => rfl
          | none =>
              have chunks := (holds failed).chunks
              simp only [chunks]

theorem follows_start (spawn : Spawn) : Follows spawn [] (.start spawn) := by
  have few : (Child.spawned spawn.invocation).held ≤
      spawn.invocation.maxOutputBytes := Nat.zero_le _
  have holds : ∀ child : Child, child.chunks = (fun _ => []) →
      child.outputBytes = 0 → Holds [] child := by
    intro child chunks outputBytes
    refine ⟨?_, outputBytes⟩
    intro stream
    rw [chunks]
    rfl
  have open_ : ∀ child : Child, child.settled = none → child.settled.isSome →
      child.timeout = none ∧ child.killTimer = none ∧
        child.listening = false := by
    intro child unsettled settled
    rw [unsettled] at settled
    cases settled
  unfold Child.start
  cases signal : spawn.signal with
  | none =>
      refine ⟨?_, fun _ => holds _ rfl rfl, rfl, few, open_ _ rfl⟩
      simp [failureOf, signal, lifetime, closing, firstCause, Child.spawned]
  | some already =>
      cases already with
      | true =>
          dsimp only
          rw [Child.terminate_running rfl]
          refine ⟨?_, fun _ => holds _ rfl rfl, rfl, few, open_ _ rfl⟩
          simp [failureOf, signal]
      | false =>
          refine ⟨?_, fun _ => holds _ rfl rfl, rfl, few, open_ _ rfl⟩
          simp [failureOf, signal, lifetime, closing, firstCause, Child.spawned]

theorem follows {spawn : Spawn} {events : List Event} {child : Child}
    (run : (runBoundedProcess spawn).Reaches events child) :
    Follows spawn events child := by
  refine Machine.Runs.invariant (Follows spawn) (follows_start spawn) ?_ run
  intro events before event after _ follows _ taken
  exact follows.step taken

/-- In every run a process is never let hold more bytes than it may, and what
its promise is settled with, when it closes and not before, is what it failed
with first, or else what it has written, however that was cut into chunks. -/
theorem process_verdict {spawn : Spawn} {events : List Event} {child : Child}
    (run : (runBoundedProcess spawn).Reaches events child) :
    child.held ≤ spawn.invocation.maxOutputBytes ∧
    child.settled = (closing [] events).map (verdict spawn) ∧
    ∀ closed output text, closing [] events = some closed →
      child.settled = some (.ok output) →
        written .stdout closed.before = utf8Bytes text →
          output.stdout = text := by
  have follows := follows run
  refine ⟨follows.bounded, follows.settled, ?_⟩
  intro closed output text found settled wrote
  rw [follows.settled, found, Option.map_some, verdict] at settled
  cases failed : failureOf spawn closed.before with
  | some failure =>
      rw [failed] at settled
      cases settled
  | none =>
      rw [failed] at settled
      simp only at settled
      split_ifs at settled with zero
      · cases settled
        rw [← utf8Text_utf8Bytes text, ← wrote]
      · cases settled

/-- Twelve bytes at most, for half a second. -/
def spawnSample : Spawn where
  invocation := ⟨"/bin/true", [], 500, 12, [], rfl, by decide, by decide,
    by decide⟩
  detached := true
  pid := some 7
  signal := none

/-- A character may come in two chunks. -/
theorem process_verdict_sample : ∃ child output,
    (runBoundedProcess spawnSample).Reaches [.data .stdout [0xc3],
      .data .stderr [0x21], .data .stdout [0xa9], .close (some 0) none] child ∧
    child.settled = some (.ok output) ∧ output.stdout = "é" := by
  have run := Machine.reaches_of_play (Machine.play_get
    (runBoundedProcess spawnSample) [.data .stdout [0xc3],
      .data .stderr [0x21], .data .stdout [0xa9], .close (some 0) none]
    (by decide))
  obtain ⟨_, settled, text⟩ := process_verdict run
  exact ⟨_, _, run, settled, text _ _ "é" rfl settled (by decide)⟩

/-! ## Signals -/

/-- What a process goes through.  One that has been ended is asked first, and
killed two seconds later unless it has closed; an error of the child alone ends
nothing. -/
inductive Phase (spawn : Spawn) (child : Child) : Prop where
  | running (failure : child.failure = none) (sent : child.sent = [])
      (unset : child.killTimer = none)
  | broken (message : String) (failure : child.failure =
        some (processError "process_runner_failed" message))
      (sent : child.sent = []) (unset : child.killTimer = none)
  | asked (failure : Failure) (time : Nat) (failed : child.failure = some failure)
      (ends : failure.code ≠ "process_runner_failed")
      (sent : child.sent = [⟨time, spawn.recipient, .sigterm⟩])
      (pending : child.settled = none → child.killTimer = some (time + 2000))
      (set : ∀ due ∈ child.killTimer, due = time + 2000)
  | killed (failure : Failure) (asked time : Nat)
      (failed : child.failure = some failure)
      (ends : failure.code ≠ "process_runner_failed")
      (sent : child.sent = [⟨asked, spawn.recipient, .sigterm⟩,
        ⟨time, spawn.recipient, .sigkill⟩])
      (late : asked + 2000 ≤ time) (unset : child.killTimer = none)

/-- The timers of a process. -/
structure Orderly (spawn : Spawn) (child : Child) : Prop where
  phase : Phase spawn child
  pending : child.settled = none → child.failure = none →
    child.timeout = some spawn.invocation.timeoutMs
  set : ∀ time ∈ child.timeout, time = spawn.invocation.timeoutMs
  late : child.failure = some timedOut →
    spawn.invocation.timeoutMs ≤ child.now

theorem Phase.congr {spawn : Spawn} {child after : Child}
    (phase : Phase spawn child) (failure : after.failure = child.failure)
    (sent : after.sent = child.sent) (killTimer : after.killTimer = child.killTimer)
    (settled : after.settled = child.settled) : Phase spawn after := by
  cases phase with
  | running none nothing unset =>
      exact .running (failure.trans none) (sent.trans nothing)
        (killTimer.trans unset)
  | broken message failed nothing unset =>
      exact .broken message (failure.trans failed) (sent.trans nothing)
        (killTimer.trans unset)
  | asked cause time failed ends first pending set =>
      rw [← killTimer, ← settled] at pending
      rw [← killTimer] at set
      exact .asked cause time (failure.trans failed) ends (sent.trans first)
        pending set
  | killed cause asked time failed ends both late unset =>
      exact .killed cause asked time (failure.trans failed) ends
        (sent.trans both) late (killTimer.trans unset)

theorem Phase.terminate {spawn : Spawn} {child : Child} {failure : Failure}
    (phase : Phase spawn child)
    (ends : failure.code ≠ "process_runner_failed") :
    Phase spawn (child.terminate spawn failure) := by
  cases failed : child.failure with
  | some other =>
      rw [Child.terminate_failed failed]
      exact phase
  | none =>
      rw [Child.terminate_running failed]
      cases phase with
      | running _ sent unset =>
          refine .asked failure child.now rfl ends ?_ (fun _ => rfl) ?_
          · rw [Child.kill, sent]
            rfl
          · intro due set
            exact (Option.some.inj set).symm
      | broken message failure => cases failed.symm.trans failure
      | asked other time failure => cases failed.symm.trans failure
      | killed other asked time failure => cases failed.symm.trans failure

/-- The timer of the first signal is due two seconds after it. -/
theorem Phase.kill {spawn : Spawn} {child : Child} (phase : Phase spawn child)
    (due : Child.due child.killTimer child.now = true) :
    Phase spawn ({ child with killTimer := none }.kill spawn .sigkill) := by
  have unset : child.killTimer ≠ none := by
    intro none
    rw [none] at due
    cases due
  cases phase with
  | running _ _ never | broken _ _ _ never | killed _ _ _ _ _ _ _ never =>
      exact absurd never unset
  | asked failure time failed ends sent _ set =>
      obtain ⟨when_, found⟩ := Option.ne_none_iff_exists'.mp unset
      rw [found, Child.due, decide_eq_true_eq, set when_ found] at due
      refine .killed failure time child.now failed ends ?_ due rfl
      rw [Child.kill, sent]
      rfl

theorem Phase.close {spawn : Spawn} {child : Child} (phase : Phase spawn child)
    (exitCode : Option Int) (exitSignal : Option String) :
    Phase spawn (child.close exitCode exitSignal) := by
  have settled : (child.close exitCode exitSignal).settled ≠ none :=
    Option.some_ne_none _
  cases phase with
  | running failure sent _ => exact .running failure sent rfl
  | broken message failure sent _ => exact .broken message failure sent rfl
  | asked failure time failed ends sent _ _ =>
      refine .asked failure time failed ends sent (fun open_ => absurd open_ settled)
        ?_
      intro due set
      cases set
  | killed failure asked time failed ends sent late _ =>
      exact .killed failure asked time failed ends sent late rfl

/-- A failure stays the first. -/
theorem Child.terminate_failure {spawn : Spawn} {child : Child}
    {failure : Failure} :
    (child.terminate spawn failure).failure = child.failure.or (some failure) := by
  cases failed : child.failure with
  | some other => rw [Child.terminate_failed failed, failed, Option.some_or]
  | none => rw [Child.terminate_running failed, Option.none_or]

theorem Orderly.terminate {spawn : Spawn} {child : Child} {failure : Failure}
    (phase : Phase spawn child)
    (ends : failure.code ≠ "process_runner_failed")
    (set : ∀ time ∈ child.timeout, time = spawn.invocation.timeoutMs)
    (late : child.failure = some timedOut ∨ failure = timedOut →
      spawn.invocation.timeoutMs ≤ child.now) :
    Orderly spawn (child.terminate spawn failure) := by
  have same : (child.terminate spawn failure).timeout = child.timeout ∧
      (child.terminate spawn failure).now = child.now := by
    cases failed : child.failure with
    | some other => simp only [Child.terminate_failed failed, and_self]
    | none => simp only [Child.terminate_running failed, Child.kill, and_self]
  refine ⟨phase.terminate ends, ?_, ?_, ?_⟩
  · intro _ running
    rw [Child.terminate_failure] at running
    exact absurd (Option.or_eq_none_iff.mp running).2 (Option.some_ne_none _)
  · rw [same.1]
    exact set
  · rw [same.2, Child.terminate_failure]
    intro passed
    apply late
    cases failed : child.failure with
    | some other =>
        rw [failed, Option.some_or] at passed
        exact Or.inl passed
    | none =>
        rw [failed, Option.none_or] at passed
        exact Or.inr (Option.some.inj passed)

/-- A step that leaves failure, signals and timers as they are. -/
theorem Orderly.quiet {spawn : Spawn} {child after : Child}
    (orderly : Orderly spawn child) (failure : after.failure = child.failure)
    (sent : after.sent = child.sent)
    (killTimer : after.killTimer = child.killTimer)
    (settled : after.settled = child.settled)
    (timeout : after.timeout = child.timeout) (now : child.now ≤ after.now) :
    Orderly spawn after := by
  refine ⟨orderly.phase.congr failure sent killTimer settled, ?_, ?_, ?_⟩
  · rw [settled, failure, timeout]
    exact orderly.pending
  · rw [timeout]
    exact orderly.set
  · rw [failure]
    intro passed
    exact (orderly.late passed).trans now

theorem Orderly.collect {spawn : Spawn} {child : Child}
    (orderly : Orderly spawn child) (stream : Stream) (chunk : List UInt8) :
    Orderly spawn (child.collect spawn stream chunk) := by
  cases failed : child.failure with
  | some other =>
      rw [Child.collect_failed failed]
      exact orderly
  | none =>
      rw [Child.collect_running failed]
      split_ifs with much
      · refine Orderly.terminate (orderly.phase.congr rfl rfl rfl rfl) (by decide)
          orderly.set ?_
        rintro (passed | other)
        · exact orderly.late passed
        · exact absurd other (by decide)
      · exact orderly.quiet rfl rfl rfl rfl rfl le_rfl

theorem Orderly.fail {spawn : Spawn} {child : Child}
    (orderly : Orderly spawn child) (message : String) :
    Orderly spawn (child.fail message) := by
  cases failed : child.failure with
  | some other =>
      rw [Child.fail_failed failed]
      exact orderly
  | none =>
      have failing : child.fail message = { child with
          failure := some (processError "process_runner_failed" message) } := by
        rw [Child.fail, failed]
      rw [failing]
      refine ⟨?_, ?_, orderly.set, ?_⟩
      · cases orderly.phase with
        | running _ sent unset => exact .broken message rfl sent unset
        | broken other failure => cases failed.symm.trans failure
        | asked other time failure => cases failed.symm.trans failure
        | killed other asked time failure => cases failed.symm.trans failure
      · intro _ running
        cases running
      · intro passed
        have code := congrArg (fun failure => failure.map Failure.code) passed
        have apart : "process_runner_failed" ≠ timedOut.code := by decide
        exact absurd (Option.some.inj code) apart

theorem Orderly.step {spawn : Spawn} {child after : Child} {event : Event}
    (orderly : Orderly spawn child)
    (taken : child.step spawn event = some after) : Orderly spawn after := by
  cases event with
  | elapse ms =>
      cases taken
      exact orderly.quiet rfl rfl rfl rfl rfl (Nat.le_add_right _ _)
  | data stream chunk =>
      rw [Child.step] at taken
      split_ifs at taken
      cases taken
      exact orderly.collect stream chunk
  | timeout =>
      rw [Child.step] at taken
      split_ifs at taken with due
      cases taken
      refine Orderly.terminate (orderly.phase.congr rfl rfl rfl rfl) (by decide)
        ?_ ?_
      · intro time set
        cases set
      · intro _
        cases set : child.timeout with
        | none =>
            rw [set] at due
            cases due
        | some time =>
            rw [set, Child.due, decide_eq_true_eq, orderly.set time set] at due
            exact due
  | killTimer =>
      rw [Child.step] at taken
      split_ifs at taken with due
      cases taken
      exact ⟨orderly.phase.kill due, orderly.pending, orderly.set, orderly.late⟩
  | abort =>
      rw [Child.step] at taken
      split_ifs at taken
      cases taken
      refine Orderly.terminate (orderly.phase.congr rfl rfl rfl rfl) (by decide)
        orderly.set ?_
      rintro (passed | other)
      · exact orderly.late passed
      · exact absurd other (by decide)
  | error message =>
      rw [Child.step] at taken
      split_ifs at taken
      cases taken
      exact orderly.fail message
  | close exitCode exitSignal =>
      rw [Child.step] at taken
      split_ifs at taken
      cases taken
      refine ⟨orderly.phase.close exitCode exitSignal, ?_, ?_, orderly.late⟩
      · intro open_
        cases open_
      · intro time set
        cases set

theorem orderly_start (spawn : Spawn) : Orderly spawn (.start spawn) := by
  have first : Orderly spawn (.spawned spawn.invocation) := by
    refine ⟨.running rfl rfl rfl, fun _ _ => rfl, ?_, ?_⟩
    · intro time set
      exact (Option.some.inj set).symm
    · intro passed
      cases passed
  unfold Child.start
  split
  · apply Orderly.terminate first.phase (by decide) first.set
    rintro (passed | other)
    · cases passed
    · exact absurd other (by decide)
  · exact first.quiet rfl rfl rfl rfl rfl le_rfl
  · exact first

theorem orderly {spawn : Spawn} {events : List Event} {child : Child}
    (run : (runBoundedProcess spawn).Reaches events child) :
    Orderly spawn child := by
  refine Machine.Runs.invariant (fun _ => Orderly spawn) (orderly_start spawn)
    ?_ run
  intro _ before event after _ orderly _ taken
  exact orderly.step taken

/-- In every run a process that passes a limit is sent the first signal at
once, and the second two seconds later if it has not closed; the time limit is
never cut short, and after `close` there is nothing left that could signal a
process that may have taken its number. -/
theorem process_signals {spawn : Spawn} {events : List Event} {child : Child}
    (run : (runBoundedProcess spawn).Reaches events child) :
    Orderly spawn child ∧
    (child.settled.isSome → ∀ event after,
      child.step spawn event = some after → ∃ ms, event = .elapse ms) := by
  refine ⟨orderly run, ?_⟩
  intro settled event after taken
  obtain ⟨ms, same, _⟩ := step_closed settled ((follows run).still settled) taken
  exact ⟨ms, same⟩

/-- A process that is killed for its time. -/
theorem process_signals_sample : ∃ child,
    (runBoundedProcess spawnSample).Reaches [.elapse 500, .timeout,
      .elapse 2000, .killTimer, .close none (some "SIGKILL")] child ∧
    child.sent = [⟨500, .group 7, .sigterm⟩, ⟨2500, .group 7, .sigkill⟩] ∧
    Orderly spawnSample child := by
  have run := Machine.reaches_of_play (Machine.play_get
    (runBoundedProcess spawnSample) [.elapse 500, .timeout, .elapse 2000,
      .killTimer, .close none (some "SIGKILL")] (by decide))
  exact ⟨_, run, rfl, (process_signals run).1⟩

end BoundedProcess

end GpuLink
