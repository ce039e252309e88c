import GpuLink.Shared.Json
import Mathlib.Tactic.Common

/-!
# Adapter IPC frames

The framing between the worker and an adapter subprocess: a header of nine
bytes, then an opaque payload.  The decoder takes its input in chunks that stop
anywhere; what it holds between two chunks is the beginning of one frame.
-/

namespace GpuLink

namespace AdapterIpc

def magic : List UInt8 :=
  [0x47, 0x4c, 0x49, 0x50]

def headerBytes : Nat := 9
def maxFrameBytes : Nat := 65536
def maxInputChunkBytes : Nat := 1048576
def maxBatchFrames : Nat := 64

/-- `ADAPTER_IPC_TYPES` -/
inductive FrameType where
  | HELLO
  | READY
  | BINARY
  | TEXT
  | END
  | ERROR
  | CANCEL
  deriving DecidableEq, Repr

def FrameType.code : FrameType → UInt8
  | HELLO => 1
  | READY => 2
  | BINARY => 3
  | TEXT => 4
  | END => 5
  | ERROR => 6
  | CANCEL => 7

/-- The member of `knownTypes` with this code. -/
def FrameType.ofCode? (code : UInt8) : Option FrameType :=
  [HELLO, READY, BINARY, TEXT, END, ERROR, CANCEL].find? (fun type =>
    type.code = code)

theorem code_of_ofCode? {code : UInt8} {type : FrameType}
    (known : FrameType.ofCode? code = some type) : type.code = code := by
  have found := List.find?_some known
  exact of_decide_eq_true found

structure Frame where
  type : FrameType
  payload : List UInt8
  deriving DecidableEq, Repr

/-- `writeUInt32BE` -/
def uint32BE (n : Nat) : List UInt8 :=
  [UInt8.ofNat (n / 16777216), UInt8.ofNat (n / 65536), UInt8.ofNat (n / 256),
    UInt8.ofNat n]

/-- `readUInt32BE` -/
def readUInt32BE (bytes : List UInt8) : Nat :=
  (bytes.take 4).foldl (fun n byte => 256 * n + byte.toNat) 0

theorem uint32BE_read {bytes : List UInt8} (four : bytes.length = 4) :
    uint32BE (readUInt32BE bytes) = bytes := by
  match bytes, four with
  | [a, b, c, d], _ =>
      have boundA := a.toNat_lt
      have boundB := b.toNat_lt
      have boundC := c.toNat_lt
      have boundD := d.toNat_lt
      simp only [uint32BE, readUInt32BE, List.take, List.foldl,
        List.cons.injEq, and_true]
      refine ⟨?_, ?_, ?_, ?_⟩ <;>
        (apply UInt8.toNat.inj; simp only [UInt8.toNat_ofNat']; omega)

/-- The bytes of a frame's header. -/
def header (type : FrameType) (length : Nat) : List UInt8 :=
  magic ++ type.code :: uint32BE length

/-- `encodeAdapterIpcFrame` -/
def encodeAdapterIpcFrame (type : FrameType) (payload : List UInt8) :
    Except String (List UInt8) :=
  if payload.length > maxFrameBytes then .error "frame_too_large"
  else .ok (header type payload.length ++ payload)

/-- A frame as it stands on the wire. -/
def Frame.wire (frame : Frame) : List UInt8 :=
  header frame.type frame.payload.length ++ frame.payload

theorem encode_wire {type : FrameType} {payload bytes : List UInt8}
    (encoded : encodeAdapterIpcFrame type payload = .ok bytes) :
    bytes = Frame.wire ⟨type, payload⟩ := by
  unfold encodeAdapterIpcFrame at encoded
  split at encoded
  · cases encoded
  · exact (Except.ok.inj encoded).symm

/-- `decodeAdapterIpcText`: strict UTF-8, a byte order mark kept. -/
def decodeAdapterIpcText (bytes : List UInt8) : Except String String :=
  match String.fromUTF8? bytes.toByteArray with
  | some text => .ok text
  | none => .error "invalid_utf8"

/-- `decodeAdapterIpcJson`, `parse` standing for `JSON.parse`: the fields of
the object in the payload. -/
def decodeAdapterIpcJson (parse : String → Option Json) (frame : Frame)
    (expectedType : FrameType) : Except String (List (String × Json)) :=
  if frame.type ≠ expectedType ∨ expectedType ∉ [.HELLO, .READY, .ERROR] then
    .error "invalid_control_type"
  else
    match decodeAdapterIpcText frame.payload with
    | .error _ => .error "invalid_control_json"
    | .ok text =>
        match parse text with
        | some (.object fields) => .ok fields
        | _ => .error "invalid_control_json"

/-! ## The decoder -/

/-- What has been read of the frame that comes next. -/
inductive Phase where
  | header (used : List UInt8) (short : used.length < headerBytes)
  | payload (type : FrameType) (expected : Nat) (used : List UInt8)
      (bounded : expected ≤ maxFrameBytes) (short : used.length < expected)

/-- Between two frames. -/
def Phase.boundary : Phase :=
  .header [] (by decide)

/-- The bytes that were read. -/
def Phase.wire : Phase → List UInt8
  | .header used _ => used
  | .payload type expected used _ _ => AdapterIpc.header type expected ++ used

/-- The checks on a whole header: the type and the length of the payload. -/
def readHeader (bytes : List UInt8) :
    Except String (FrameType × { length : Nat // length ≤ maxFrameBytes }) :=
  if bytes.take 4 ≠ magic then .error "invalid_magic"
  else
    match FrameType.ofCode? (bytes.getD 4 0) with
    | none => .error "invalid_frame_type"
    | some type =>
        if bounded : readUInt32BE (bytes.drop 5) ≤ maxFrameBytes then
          .ok (type, ⟨readUInt32BE (bytes.drop 5), bounded⟩)
        else .error "frame_too_large"

/-- Reads on with the payload: what is held then, the rest of the input, and
the frame when it is whole. -/
def takePayload (type : FrameType) (expected : Nat)
    (bounded : expected ≤ maxFrameBytes) (used input : List UInt8) :
    Phase × List UInt8 × Option Frame :=
  let missing := expected - used.length
  let filled := used ++ input.take missing
  if short : filled.length < expected then
    (.payload type expected filled bounded short, input.drop missing, none)
  else (.boundary, input.drop missing, some ⟨type, filled⟩)

/-- Once through the `while` loop of `decode`. -/
def Phase.advance (phase : Phase) (input : List UInt8) :
    Except String (Phase × List UInt8 × Option Frame) :=
  match phase with
  | .header used _ =>
      let missing := headerBytes - used.length
      let filled := used ++ input.take missing
      if short : filled.length < headerBytes then
        .ok (.header filled short, input.drop missing, none)
      else do
        let (type, expected) ← readHeader filled
        return takePayload type expected.1 expected.2 [] (input.drop missing)
  | .payload type expected used bounded _ =>
      .ok (takePayload type expected bounded used input)

theorem takePayload_length (type : FrameType) (expected : Nat)
    (bounded : expected ≤ maxFrameBytes) (used input : List UInt8) :
    (takePayload type expected bounded used input).2.1.length =
      input.length - (expected - used.length) := by
  unfold takePayload
  dsimp only
  split <;> simp

/-- The loop goes on only when it has read something. -/
theorem advance_shorter {phase next : Phase} {input rest : List UInt8}
    {frame : Option Frame} (nonempty : input ≠ [])
    (advanced : phase.advance input = .ok (next, rest, frame)) :
    rest.length < input.length := by
  have some := List.length_pos_iff.mpr nonempty
  unfold Phase.advance at advanced
  split at advanced
  · next used short =>
      dsimp only at advanced
      split at advanced
      · cases advanced
        simp only [List.length_drop]
        omega
      · cases read : readHeader (used ++ input.take (headerBytes - used.length)) with
        | error code =>
            rw [read] at advanced
            cases advanced
        | ok found =>
            rw [read] at advanced
            have taken := takePayload_length found.1 found.2.1 found.2.2 []
              (input.drop (headerBytes - used.length))
            have same : takePayload found.1 found.2.1 found.2.2 []
                (input.drop (headerBytes - used.length)) =
                  (next, rest, frame) := Except.ok.inj advanced
            rw [same, List.length_drop] at taken
            dsimp only at taken
            omega
  · next type expected used bounded short =>
      have taken := takePayload_length type expected bounded used input
      rw [Except.ok.inj advanced] at taken
      dsimp only at taken
      omega

/-- The `while` loop: the frames so far, then those that the input completes. -/
def Phase.decode (phase : Phase) (input : List UInt8) (frames : List Frame) :
    Except String (Phase × List Frame) :=
  if empty : input = [] then .ok (phase, frames)
  else
    match advanced : phase.advance input with
    | .error code => .error code
    | .ok (next, rest, frame) =>
        if (frames ++ frame.toList).length > maxBatchFrames then
          .error "frame_batch_exceeded"
        else next.decode rest (frames ++ frame.toList)
  termination_by input.length
  decreasing_by exact advance_shorter empty advanced

/-- The state of `createAdapterIpcDecoder`. -/
structure Decoder where
  phase : Phase
  terminal : Bool

def createAdapterIpcDecoder : Decoder where
  phase := .boundary
  terminal := false

/-- Any failure is final, so what was read of the chunk need not be kept. -/
def Decoder.push (decoder : Decoder) (chunk : List UInt8) :
    Decoder × Except String (List Frame) :=
  let failed (code : String) := ({ decoder with terminal := true }, .error code)
  if decoder.terminal then failed "decoder_terminal"
  else if chunk.length > maxInputChunkBytes then failed "chunk_too_large"
  else
    match decoder.phase.decode chunk [] with
    | .error code => failed code
    | .ok (phase, frames) => ({ decoder with phase := phase }, .ok frames)

def Decoder.finish (decoder : Decoder) : Decoder × Except String Unit :=
  if decoder.terminal then (decoder, .error "decoder_terminal")
  else if decoder.phase.wire ≠ [] then
    ({ decoder with terminal := true }, .error "truncated_frame")
  else ({ decoder with terminal := true }, .ok ())

/-! ## What the decoder reads -/

theorem wire_header {type : FrameType} {bytes : List UInt8}
    {length : { length : Nat // length ≤ maxFrameBytes }}
    (whole : bytes.length = headerBytes)
    (read : readHeader bytes = .ok (type, length)) :
    bytes = header type length.1 := by
  unfold readHeader at read
  split at read
  · cases read
  · rename_i marked
    split at read
    · cases read
    · rename_i found known
      split at read
      · cases read
        have code := code_of_ofCode? known
        have start : bytes.take 4 = magic := not_not.mp marked
        have coded : (bytes.drop 5).length = 4 := by
          rw [List.length_drop, whole]
          rfl
        have split : bytes = bytes.take 4 ++ bytes.getD 4 0 :: bytes.drop 5 := by
          match bytes, whole with
          | [_, _, _, _, _, _, _, _, _], _ => rfl
        rw [header, uint32BE_read coded, code, ← start]
        exact split
      · cases read

theorem takePayload_wire {type : FrameType} {expected : Nat}
    {bounded : expected ≤ maxFrameBytes} {used input rest : List UInt8}
    {next : Phase} {frame : Option Frame} (within : used.length ≤ expected)
    (taken : takePayload type expected bounded used input =
      (next, rest, frame)) :
    header type expected ++ used ++ input =
      frame.toList.flatMap Frame.wire ++ next.wire ++ rest := by
  have whole := List.take_append_drop (expected - used.length) input
  unfold takePayload at taken
  dsimp only at taken
  split at taken
  · cases taken
    simp [Phase.wire, whole]
  · rename_i filled
    cases taken
    have length : (used ++ input.take (expected - used.length)).length =
        expected := by
      simp only [List.length_append, List.length_take] at filled ⊢
      omega
    simp only [Option.toList_some, List.flatMap_cons, List.flatMap_nil,
      List.append_nil, Frame.wire, length]
    simp [Phase.wire, Phase.boundary, whole]

theorem advance_wire {phase next : Phase} {input rest : List UInt8}
    {frame : Option Frame}
    (advanced : phase.advance input = .ok (next, rest, frame)) :
    phase.wire ++ input =
      frame.toList.flatMap Frame.wire ++ next.wire ++ rest := by
  unfold Phase.advance at advanced
  split at advanced
  · next used short =>
      have whole := List.take_append_drop (headerBytes - used.length) input
      dsimp only at advanced
      split at advanced
      · cases advanced
        simp [Phase.wire, whole]
      · rename_i filled
        cases read : readHeader (used ++ input.take (headerBytes - used.length)) with
        | error code =>
            rw [read] at advanced
            cases advanced
        | ok found =>
            rw [read] at advanced
            have length : (used ++ input.take (headerBytes - used.length)).length =
                headerBytes := by
              simp only [List.length_append, List.length_take] at filled ⊢
              omega
            have named := wire_header length read
            have taken := takePayload_wire (Nat.zero_le _)
              (Except.ok.inj advanced)
            rw [← taken, ← named, Phase.wire]
            simp [whole]
  · next type expected used bounded short =>
      exact takePayload_wire short.le (Except.ok.inj advanced)

theorem decode_wire {phase next : Phase} {input : List UInt8}
    {frames decoded : List Frame}
    (done : phase.decode input frames = .ok (next, decoded)) :
    frames.flatMap Frame.wire ++ phase.wire ++ input =
      decoded.flatMap Frame.wire ++ next.wire := by
  induction phase, input, frames using Phase.decode.induct with
  | case1 phase frames =>
      rw [Phase.decode, dif_pos rfl] at done
      cases done
      simp
  | case2 phase input frames empty code advanced =>
      rw [Phase.decode, dif_neg empty] at done
      split at done
      · cases done
      · rename_i other
        rw [advanced] at other
        cases other
  | case3 phase input frames empty middle rest frame advanced many =>
      rw [Phase.decode, dif_neg empty] at done
      split at done
      · cases done
      · rename_i other
        rw [advanced] at other
        cases other
        rw [if_pos many] at done
        cases done
  | case4 phase input frames empty middle rest frame advanced few induction =>
      rw [Phase.decode, dif_neg empty] at done
      split at done
      · cases done
      · rename_i other
        rw [advanced] at other
        cases other
        rw [if_neg few] at done
        have step := advance_wire advanced
        have later := induction done
        rw [← later, List.append_assoc, step]
        simp [List.flatMap_append]

/-- The frames of a chunk and what is held after it are what was held before,
followed by the chunk. -/
theorem push_wire {decoder next : Decoder} {chunk : List UInt8}
    {frames : List Frame} (pushed : decoder.push chunk = (next, .ok frames)) :
    decoder.phase.wire ++ chunk =
        frames.flatMap Frame.wire ++ next.phase.wire ∧
      next.terminal = decoder.terminal := by
  unfold Decoder.push at pushed
  dsimp only at pushed
  split at pushed
  · cases pushed
  · split at pushed
    · cases pushed
    · split at pushed
      · cases pushed
      · rename_i decoded
        cases pushed
        exact ⟨by simpa using decode_wire decoded, rfl⟩

theorem finish_boundary {decoder next : Decoder}
    (finished : decoder.finish = (next, .ok ())) : decoder.phase.wire = [] := by
  unfold Decoder.finish at finished
  split at finished
  · cases finished
  · split at finished
    · cases finished
    · rename_i boundary
      exact not_not.mp boundary

end AdapterIpc

end GpuLink
