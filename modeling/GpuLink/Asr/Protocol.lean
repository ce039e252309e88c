import GpuLink.Asr.DuplicateKeys
import GpuLink.DataPlane.Contract

/-!
# The speech protocol

Control frames are JSON texts of one direction, audio frames are numbered and
carry their place in the stream.  The text of a frame is well formed, as a
socket hands it over; what its escapes stand for need not be.
-/

namespace GpuLink

namespace Asr

open DuplicateKeys

def headerBytes : Nat := 16
def maxControlBytes : Nat := 16384
def maxFrameSamples : Nat := 3200
def maxQueuedSamples : Nat := 32000
def maxSessionSamples : Nat := 28800000
def maxTranscriptBytes : Nat := 4096
def uint32Max : Nat := 0xffffffff

def validErrors : List String :=
  ["model_integrity_failed", "model_load_failed", "cuda_oom",
    "inference_failed", "runtime_timeout", "input_invalid",
    "backpressure_limit", "lease_lost", "internal_error"]

/-- The code of an `AsrProtocolError`. -/
inductive Rejection where
  | inputInvalid
  | backpressureLimit
  deriving DecidableEq, Repr

inductive Direction where
  | client
  | worker
  deriving DecidableEq, Repr

/-- A hypothesis on a stretch of the audio. -/
structure Transcript where
  segmentId : Nat
  revision : Nat
  startSample : Nat
  endSample : Nat
  text : String

inductive Message where
  | start
  | endInput (lastSequence : Nat)
  | cancel
  | modelReady (modelId revision : String)
  | partialTranscript (transcript : Transcript)
  | finalTranscript (transcript : Transcript)
  | completed (lastSequence : Nat)
  | cancelled
  | error (code : String) (retryable : Bool)

/-! ## Control frames -/

/-- A natural number between two bounds. -/
def uint (value : Option Json) (min max : Nat) : Option Nat :=
  match value with
  | some (.number q) =>
      if q.den = 1 ∧ (min : Int) ≤ q.num ∧ q.num ≤ max ∧
          q.num ≤ JsonText.maxSafeInteger then some q.num.toNat
      else none
  | _ => none

/-- An object whose names are all allowed. -/
def fields (value : Json) (allowed : List String) :
    Option (List (String × Json)) :=
  match value with
  | .object entries =>
      if entries.all (fun entry => entry.1 ∈ allowed) then some entries
      else none
  | _ => none

def isModelIdStart (c : Char) : Bool :=
  c.isAlphanum

def isModelIdPart (c : Char) : Bool :=
  c.isAlphanum || c = '.' || c = '_' || c = '/' || c = '-'

/-- A letter or a digit, then letters, digits and four marks; at most 200 code
units. -/
def isModelId (text : String) : Bool :=
  decide (utf16Length text ≤ 200) &&
    match text.toList with
    | first :: rest => isModelIdStart first && rest.all isModelIdPart
    | [] => false

/-- Forty hexadecimal digits. -/
def isRevision (text : String) : Bool :=
  text.toList.length = 40 &&
    text.toList.all (fun c => c.isDigit || ('a' ≤ c && c ≤ 'f'))

def parseStart (value : Json) : Option Message := do
  let _ ← fields value ["type", "audio"]
  let audio ← value.field? "audio"
  let entries ← fields audio ["encoding", "sampleRateHz", "channels"]
  match audio.field? "encoding", audio.field? "sampleRateHz",
    audio.field? "channels" with
  | some (.string encoding), some (.number sampleRateHz),
    some (.number channels) =>
      if entries.length = 3 ∧ encoding = "pcm_s16le" ∧ sampleRateHz = 16000 ∧
          channels = 1 then some .start
      else none
  | _, _, _ => none

def parseModelReady (value : Json) : Option Message := do
  let _ ← fields value ["type", "modelId", "revision"]
  match value.field? "modelId", value.field? "revision" with
  | some (.string modelId), some (.string revision) =>
      if isModelId modelId ∧ isRevision revision then
        some (.modelReady modelId revision)
      else none
  | _, _ => none

/-- The last member of a name is the one that counts. -/
def member? (tree : Tree) (name : String) : Option Tree :=
  match tree with
  | .object members =>
      (members.reverse.find? fun member =>
        String.ofList (JsonText.joinSurrogates member.1) = name).map (·.2)
  | _ => none

def isSurrogate (unit : Nat) : Bool :=
  0xd800 ≤ unit && unit < 0xe000

/-- `String.prototype.isWellFormed`, of code units -/
def isWellFormed : List Nat → Bool
  | [] => true
  | [unit] => !isSurrogate unit
  | high :: low :: rest =>
      if 0xd800 ≤ high ∧ high < 0xdc00 ∧ 0xdc00 ≤ low ∧ low < 0xe000 then
        isWellFormed rest
      else !isSurrogate high && isWellFormed (low :: rest)

def parseTranscript (tree : Tree) : Option Transcript := do
  let _ ← fields tree.json
    ["type", "segmentId", "revision", "startSample", "endSample", "text"]
  let segmentId ← uint (tree.json.field? "segmentId") 1 uint32Max
  let revision ← uint (tree.json.field? "revision") 1 uint32Max
  let startSample ← uint (tree.json.field? "startSample") 0 (maxSessionSamples - 1)
  let endSample ← uint (tree.json.field? "endSample") (startSample + 1)
    maxSessionSamples
  match member? tree "text" with
  | some (.text codes) =>
      let text := String.ofList (JsonText.joinSurrogates codes)
      if byteLength text ≤ maxTranscriptBytes ∧
          isWellFormed (codeUnits codes) then
        some ⟨segmentId, revision, startSample, endSample, text⟩
      else none
  | _ => none

def parseError (value : Json) : Option Message := do
  let _ ← fields value ["type", "code", "retryable"]
  match value.field? "code", value.field? "retryable" with
  | some (.string code), some (.bool retryable) =>
      if code ∈ validErrors then some (.error code retryable) else none
  | _, _ => none

/-- The message of a parsed frame. -/
def parseMessage (tree : Tree) (direction : Direction) : Option Message :=
  match tree.json.field? "type", direction with
  | some (.string "asr.start.v1"), .client => parseStart tree.json
  | some (.string "asr.end.v1"), .client => do
      let _ ← fields tree.json ["type", "lastSequence"]
      let lastSequence ← uint (tree.json.field? "lastSequence") 0 uint32Max
      return .endInput lastSequence
  | some (.string "asr.cancel.v1"), .client =>
      (fields tree.json ["type"]).map (fun _ => .cancel)
  | some (.string "asr.model_ready.v1"), .worker => parseModelReady tree.json
  | some (.string "asr.partial.v1"), .worker =>
      (parseTranscript tree).map .partialTranscript
  | some (.string "asr.final.v1"), .worker =>
      (parseTranscript tree).map .finalTranscript
  | some (.string "asr.completed.v1"), .worker => do
      let _ ← fields tree.json ["type", "lastSequence"]
      let lastSequence ← uint (tree.json.field? "lastSequence") 0 uint32Max
      return .completed lastSequence
  | some (.string "asr.cancelled.v1"), .worker =>
      (fields tree.json ["type"]).map (fun _ => .cancelled)
  | some (.string "asr.error.v1"), .worker => parseError tree.json
  | _, _ => none

/-- The side that sends a message. -/
def Message.direction : Message → Direction
  | .start | .endInput _ | .cancel => .client
  | _ => .worker

/-- The sequence number that a message names. -/
def Message.lastSequence : Message → Nat
  | .endInput lastSequence | .completed lastSequence => lastSequence
  | _ => 0

theorem uint_bounds {value : Option Json} {min max n : Nat}
    (read : uint value min max = some n) : min ≤ n ∧ n ≤ max := by
  unfold uint at read
  split at read
  · split at read
    · rename_i bounded
      cases read
      omega
    · cases read
  · cases read

/-- A message has the type of its side, and names a sequence number of 32
bits. -/
theorem parseMessage_valid {tree : Tree} {direction : Direction}
    {message : Message} (parsed : parseMessage tree direction = some message) :
    message.direction = direction ∧ message.lastSequence ≤ uint32Max := by
  unfold parseMessage at parsed
  split at parsed
  · simp only [parseStart, Option.bind_eq_bind, Option.bind_eq_some_iff]
      at parsed
    obtain ⟨_, _, _, _, _, _, parsed⟩ := parsed
    split at parsed
    · split at parsed
      · cases parsed
        exact ⟨rfl, Nat.zero_le _⟩
      · cases parsed
    · cases parsed
  · simp only [Option.bind_eq_bind, Option.bind_eq_some_iff] at parsed
    obtain ⟨_, _, _, read, parsed⟩ := parsed
    cases parsed
    exact ⟨rfl, (uint_bounds read).2⟩
  · obtain ⟨_, _, rfl⟩ := Option.map_eq_some_iff.mp parsed
    exact ⟨rfl, Nat.zero_le _⟩
  · simp only [parseModelReady, Option.bind_eq_bind, Option.bind_eq_some_iff]
      at parsed
    obtain ⟨_, _, parsed⟩ := parsed
    split at parsed
    · split at parsed
      · cases parsed
        exact ⟨rfl, Nat.zero_le _⟩
      · cases parsed
    · cases parsed
  · obtain ⟨_, _, rfl⟩ := Option.map_eq_some_iff.mp parsed
    exact ⟨rfl, Nat.zero_le _⟩
  · obtain ⟨_, _, rfl⟩ := Option.map_eq_some_iff.mp parsed
    exact ⟨rfl, Nat.zero_le _⟩
  · simp only [Option.bind_eq_bind, Option.bind_eq_some_iff] at parsed
    obtain ⟨_, _, _, read, parsed⟩ := parsed
    cases parsed
    exact ⟨rfl, (uint_bounds read).2⟩
  · obtain ⟨_, _, rfl⟩ := Option.map_eq_some_iff.mp parsed
    exact ⟨rfl, Nat.zero_le _⟩
  · simp only [parseError, Option.bind_eq_bind, Option.bind_eq_some_iff]
      at parsed
    obtain ⟨_, _, parsed⟩ := parsed
    split at parsed
    · split at parsed
      · cases parsed
        exact ⟨rfl, Nat.zero_le _⟩
      · cases parsed
    · cases parsed
  · cases parsed

/-- `none` stands for what is not a string. -/
def parseAsrControlFrame (raw : Option String) (direction : Direction) :
    Except Rejection Message :=
  match raw with
  | none => .error .inputInvalid
  | some raw =>
      if byteLength raw > maxControlBytes then .error .inputInvalid
      else
        match readTree raw with
        | none => .error .inputInvalid
        | some tree =>
            if rejectDuplicateJsonKeys raw.length raw = some false then
              match parseMessage tree direction with
              | none => .error .inputInvalid
              | some message => .ok message
            else .error .inputInvalid

theorem parseAsrControlFrame_message {raw : Option String}
    {direction : Direction} {message : Message}
    (parsed : parseAsrControlFrame raw direction = .ok message) :
    ∃ tree, parseMessage tree direction = some message := by
  unfold parseAsrControlFrame at parsed
  split at parsed
  · cases parsed
  · split at parsed
    · cases parsed
    · split at parsed
      · cases parsed
      · split at parsed
        · split at parsed
          · cases parsed
          · rename_i found
            cases parsed
            exact ⟨_, found⟩
        · cases parsed

/-- A frame is accepted from the side that sends such messages. -/
theorem parseAsrControlFrame_valid {raw : Option String}
    {direction : Direction} {message : Message}
    (parsed : parseAsrControlFrame raw direction = .ok message) :
    message.direction = direction ∧ message.lastSequence ≤ uint32Max := by
  obtain ⟨tree, found⟩ := parseAsrControlFrame_message parsed
  exact parseMessage_valid found

/-! ## Audio frames -/

structure AudioFrame where
  sequence : Nat
  sampleOffset : Nat
  sampleCount : Nat
  pcm : List UInt8

/-- `readUInt32LE` -/
def readUInt32LE (bytes : List UInt8) : Nat :=
  (bytes.take 4).foldr (fun byte rest => byte.toNat + 256 * rest) 0

/-- `toString("ascii", 0, 4)` drops the highest bit of each byte. -/
def asciiMagic (frame : List UInt8) : List UInt8 :=
  (frame.take 4).map (fun byte => byte &&& 0x7f)

/-- `none` stands for what is not a buffer. -/
def decodeAsrAudioFrame (frame : Option (List UInt8))
    (expectedSequence expectedSampleOffset : Nat) :
    Except Rejection AudioFrame :=
  match frame with
  | none => .error .inputInvalid
  | some frame =>
      if frame.length < headerBytes + 2 ∨
          ¬DataPlane.validateDataPlaneFrameSize frame.length then
        .error .inputInvalid
      else if asciiMagic frame ≠ [0x41, 0x53, 0x52, 0x31] then
        .error .inputInvalid
      else if uint32Max < expectedSequence ∨
          maxSessionSamples < expectedSampleOffset then
        .error .inputInvalid
      else
        let sequence := readUInt32LE (frame.drop 4)
        let sampleOffset := readUInt32LE (frame.drop 8)
        let sampleCount := readUInt32LE (frame.drop 12)
        if sequence ≠ expectedSequence ∨ sampleOffset ≠ expectedSampleOffset ∨
            sampleCount < 1 ∨ maxFrameSamples < sampleCount ∨
            maxSessionSamples < sampleOffset + sampleCount ∨
            frame.length ≠ headerBytes + sampleCount * 2 then
          .error .inputInvalid
        else .ok ⟨sequence, sampleOffset, sampleCount, frame.drop headerBytes⟩

/-- An accepted frame is the next one, and the stream stays within a
session. -/
theorem decodeAsrAudioFrame_ok {frame : Option (List UInt8)}
    {expectedSequence expectedSampleOffset : Nat} {decoded : AudioFrame}
    (accepted : decodeAsrAudioFrame frame expectedSequence
      expectedSampleOffset = .ok decoded) :
    decoded.sequence = expectedSequence ∧
      decoded.sampleOffset = expectedSampleOffset ∧
      1 ≤ decoded.sampleCount ∧ decoded.sampleCount ≤ maxFrameSamples ∧
      expectedSampleOffset + decoded.sampleCount ≤ maxSessionSamples := by
  unfold decodeAsrAudioFrame at accepted
  split at accepted
  · cases accepted
  · split at accepted
    · cases accepted
    · split at accepted
      · cases accepted
      · split at accepted
        · cases accepted
        · simp only at accepted
          split at accepted
          · cases accepted
          · rename_i valid
            cases accepted
            simp only [not_or, Decidable.not_not, Nat.not_lt] at valid
            obtain ⟨sequence, offset, positive, short, bounded, _⟩ := valid
            rw [offset] at bounded
            exact ⟨sequence, offset, positive, short, bounded⟩

/-! ## The client's side -/

inductive ClientState where
  | awaitingStart
  | streaming
  | draining
  | cancelled
  deriving DecidableEq, Repr

/-- `createAsrClientIngress` -/
structure ClientIngress where
  state : ClientState
  nextSequence : Nat
  nextSampleOffset : Nat
  queuedSamples : Nat

namespace ClientIngress

def initial : ClientIngress where
  state := .awaitingStart
  nextSequence := 0
  nextSampleOffset := 0
  queuedSamples := 0

def onControl (ingress : ClientIngress) (raw : Option String) :
    Except Rejection (Message × ClientIngress) := do
  let control ← parseAsrControlFrame raw .client
  match control with
  | .start =>
      if ingress.state ≠ .awaitingStart then throw .inputInvalid
      else return (control, { ingress with state := .streaming })
  | .endInput lastSequence =>
      if ingress.state ≠ .streaming ∨ ingress.nextSequence = 0 ∨
          lastSequence ≠ ingress.nextSequence - 1 then throw .inputInvalid
      else return (control, { ingress with state := .draining })
  | .cancel =>
      if ingress.state = .cancelled then throw .inputInvalid
      else return (control, { ingress with state := .cancelled })
  | _ => return (control, ingress)

def onAudio (ingress : ClientIngress) (frame : Option (List UInt8)) :
    Except Rejection (AudioFrame × ClientIngress) := do
  if ingress.state ≠ .streaming then throw .inputInvalid
  else
    let decoded ← decodeAsrAudioFrame frame ingress.nextSequence
      ingress.nextSampleOffset
    if ingress.queuedSamples + decoded.sampleCount > maxQueuedSamples then
      throw .backpressureLimit
    else
      return (decoded, { ingress with
        nextSequence := ingress.nextSequence + 1
        nextSampleOffset := ingress.nextSampleOffset + decoded.sampleCount
        queuedSamples := ingress.queuedSamples + decoded.sampleCount })

/-- `none` stands for what is not a safe integer. -/
def releaseSamples (ingress : ClientIngress) (count : Option Int) :
    Except Rejection (Nat × ClientIngress) :=
  match count with
  | none => .error .inputInvalid
  | some count =>
      if 1 ≤ count ∧ count ≤ ingress.queuedSamples then
        .ok (count.toNat, { ingress with
          queuedSamples := ingress.queuedSamples - count.toNat })
      else .error .inputInvalid

end ClientIngress

end Asr

end GpuLink
