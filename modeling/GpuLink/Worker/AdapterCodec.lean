import GpuLink.Worker.AdapterIpc
import GpuLink.Library.Framing
import Mathlib.Data.List.Forall2

/-!
# Streams of adapter frames

The wire format as a framing: what the decoder holds between two chunks is the
beginning of one frame.  It reads a stream the same in all chunks that it
admits.
-/

namespace GpuLink

namespace AdapterIpc

/-! ## Headers -/

theorem code_injective {first second : FrameType}
    (same : first.code = second.code) : first = second := by
  cases first <;> cases second <;> first | rfl | cases same

theorem ofCode?_code (type : FrameType) :
    FrameType.ofCode? type.code = some type := by
  cases type <;> rfl

theorem readUInt32BE_uint32BE {n : Nat} (small : n < 4294967296)
    (rest : List UInt8) : readUInt32BE (uint32BE n ++ rest) = n := by
  have taken : (uint32BE n ++ rest).take 4 = uint32BE n := rfl
  rw [readUInt32BE, taken]
  simp only [uint32BE, List.foldl, UInt8.toNat_ofNat']
  omega

@[simp] theorem header_length (type : FrameType) (length : Nat) :
    (header type length).length = headerBytes :=
  rfl

theorem readHeader_header (type : FrameType) {length : Nat}
    (bounded : length ≤ maxFrameBytes) :
    readHeader (header type length) = .ok (type, ⟨length, bounded⟩) := by
  have small : length < 4294967296 := by
    unfold maxFrameBytes at bounded
    omega
  have start : (header type length).take 4 = magic := rfl
  have code : (header type length).getD 4 0 = type.code := rfl
  have stated : readUInt32BE ((header type length).drop 5) = length := by
    have dropped : (header type length).drop 5 = uint32BE length ++ [] := rfl
    rw [dropped]
    exact readUInt32BE_uint32BE small []
  unfold readHeader
  rw [if_neg (not_not.mpr start), code, ofCode?_code]
  simp only [stated, bounded, dite_true]

/-- A header states its type and its length. -/
theorem header_injective {first second : FrameType} {n m : Nat}
    (boundedN : n ≤ maxFrameBytes) (boundedM : m ≤ maxFrameBytes)
    (same : header first n = header second m) : first = second ∧ n = m := by
  have read := readHeader_header first boundedN
  rw [same, readHeader_header second boundedM] at read
  cases read
  exact ⟨rfl, rfl⟩

/-! ## The framing -/

/-- A frame that can be encoded. -/
def Frame.Valid (frame : Frame) : Prop :=
  frame.payload.length ≤ maxFrameBytes

theorem wire_length (frame : Frame) :
    frame.wire.length = headerBytes + frame.payload.length := by
  rw [Frame.wire, List.length_append, header_length]

/-- Words that begin with a header agree on it. -/
theorem header_of_begins {first second : FrameType} {n m : Nat}
    {left right : List UInt8} (boundedN : n ≤ maxFrameBytes)
    (boundedM : m ≤ maxFrameBytes)
    (begins : header first n ++ left <+: header second m ++ right) :
    first = second ∧ n = m ∧ left <+: right := by
  obtain ⟨rest, same⟩ := begins
  rw [List.append_assoc] at same
  obtain ⟨headers, lefts⟩ := List.append_inj same rfl
  obtain ⟨types, lengths⟩ := header_injective boundedN boundedM headers
  exact ⟨types, lengths, ⟨rest, lefts⟩⟩

/-- The beginning of a word that starts with a header can be held. -/
theorem phase_of_begins {type : FrameType} {expected : Nat}
    {body start : List UInt8} (bounded : expected ≤ maxFrameBytes)
    (begins : start <+: header type expected ++ body)
    (short : start.length < headerBytes + expected) :
    ∃ phase : Phase, phase.wire = start := by
  by_cases early : start.length < headerBytes
  · exact ⟨.header start early, rfl⟩
  obtain ⟨rest, same⟩ := begins
  have headed : start.take headerBytes = header type expected := by
    have taken := congrArg (List.take headerBytes) same
    rw [List.take_append_of_le_length (by omega), List.take_left'
      (header_length _ _)] at taken
    exact taken
  have split := List.take_append_drop headerBytes start
  rw [headed] at split
  refine ⟨.payload type expected (start.drop headerBytes) bounded ?_, split⟩
  rw [List.length_drop]
  omega

theorem wire_ne_nil (frame : Frame) : frame.wire ≠ [] := by
  intro empty
  have length := wire_length frame
  rw [empty, List.length_nil] at length
  unfold headerBytes at length
  omega

/-- No word begins another one. -/
theorem wire_instant {first second : Frame} (validFirst : first.Valid)
    (validSecond : second.Valid) (begins : first.wire <+: second.wire) :
    first = second := by
  obtain ⟨types, lengths, bodies⟩ := header_of_begins validFirst validSecond
    begins
  have payloads := bodies.eq_of_length lengths
  cases first
  cases second
  cases types
  cases payloads
  rfl

theorem phase_short {frame : Frame} (phase : Phase) (valid : frame.Valid) :
    ¬frame.wire <+: phase.wire := by
  intro begins
  cases phase with
  | header used short =>
      have length := begins.length_le
      rw [wire_length] at length
      simp only [Phase.wire] at length
      omega
  | payload type expected used bounded short =>
      obtain ⟨_, lengths, bodies⟩ := header_of_begins valid bounded begins
      have length := bodies.length_le
      omega

theorem phase_of_wire {frame : Frame} {start : List UInt8}
    (valid : frame.Valid) (begins : start <+: frame.wire)
    (proper : start ≠ frame.wire) : ∃ phase : Phase, phase.wire = start := by
  have shorter : start.length < headerBytes + frame.payload.length := by
    have length := begins.length_le
    rw [wire_length] at length
    rcases Nat.lt_or_ge start.length
      (headerBytes + frame.payload.length) with less | equal
    · exact less
    · rw [← wire_length] at equal
      exact absurd (begins.eq_of_length_le equal) proper
  exact phase_of_begins valid begins shorter

theorem phase_cut {phase : Phase} {start : List UInt8}
    (begins : start <+: phase.wire) : ∃ other : Phase, other.wire = start := by
  cases phase with
  | header used short =>
      have length := begins.length_le
      simp only [Phase.wire] at length
      exact ⟨.header start (by omega), rfl⟩
  | payload type expected used bounded short =>
      have length := begins.length_le
      simp only [Phase.wire, List.length_append, header_length] at length
      exact phase_of_begins bounded begins (by omega)

theorem phase_injective {first second : Phase}
    (same : first.wire = second.wire) : first = second := by
  cases first with
  | header used short =>
      cases second with
      | header other _ =>
          cases same
          rfl
      | payload type expected other bounded _ =>
          have length := congrArg List.length same
          simp only [Phase.wire, List.length_append, header_length] at length
          omega
  | payload type expected used bounded short =>
      cases second with
      | header other less =>
          have length := congrArg List.length same
          simp only [Phase.wire, List.length_append, header_length] at length
          omega
      | payload second other rest boundedOther _ =>
          obtain ⟨headers, bodies⟩ := List.append_inj same rfl
          obtain ⟨types, lengths⟩ := header_injective bounded boundedOther
            headers
          cases types
          cases lengths
          cases bodies
          rfl

def framing : Framing UInt8 Frame Phase where
  word := Frame.wire
  held := Phase.wire
  valid := Frame.Valid
  nonempty _ := wire_ne_nil _
  instant := wire_instant
  short := phase_short
  cut := phase_of_wire
  cut_held := phase_cut
  held_inj := phase_injective

/-! ## The decoder -/

/-- A header that is refused is not the beginning of a stream of frames. -/
theorem advance_reads {phase next : Phase} {input : List UInt8}
    {frames : List Frame}
    (reads : framing.Reads (phase.wire ++ input) frames next) :
    ∀ code, phase.advance input ≠ .error code := by
  intro code refused
  unfold Phase.advance at refused
  split at refused
  · rename_i used short
    dsimp only at refused
    split at refused
    · cases refused
    · rename_i filled
      have whole : (used ++ input.take (headerBytes - used.length)).length =
          headerBytes := by
        simp only [List.length_append, List.length_take] at filled ⊢
        omega
      have begins : used ++ input.take (headerBytes - used.length) <+:
          frames.flatMap Frame.wire ++ next.wire := by
        have stream : used ++ input = frames.flatMap Frame.wire ++ next.wire :=
          reads.stream
        rw [← stream]
        exact (List.prefix_append_right_inj _).mpr (List.take_prefix _ _)
      -- What the stream begins with is the header of a frame.
      have known : ∀ {type : FrameType} {length : Nat} {rest : List UInt8},
          length ≤ maxFrameBytes →
          used ++ input.take (headerBytes - used.length) <+:
            header type length ++ rest → False := by
        intro type length rest bounded begins
        have same := (List.prefix_of_prefix_length_le begins
          (List.prefix_append (header type length) rest)
          (by rw [whole, header_length])).eq_of_length
          (by rw [whole, header_length])
        rw [same, readHeader_header type bounded] at refused
        cases refused
      cases frames with
      | cons frame frames =>
          rw [List.flatMap_cons, Frame.wire, List.append_assoc,
            List.append_assoc] at begins
          exact known (reads.valid frame List.mem_cons_self) begins
      | nil =>
          rw [List.flatMap_nil, List.nil_append] at begins
          cases next with
          | header other less =>
              have length := begins.length_le
              rw [whole] at length
              simp only [Phase.wire] at length
              omega
          | payload type expected other bounded _ =>
              exact known bounded begins
  · cases refused

theorem takePayload_valid {type : FrameType} {expected : Nat}
    {bounded : expected ≤ maxFrameBytes} {used input rest : List UInt8}
    {next : Phase} {frame : Option Frame} (within : used.length ≤ expected)
    (taken : takePayload type expected bounded used input =
      (next, rest, frame)) : ∀ found ∈ frame, found.Valid := by
  unfold takePayload at taken
  dsimp only at taken
  split at taken
  · cases taken
    intro found member
    cases member
  · cases taken
    intro found member
    cases member
    simp only [Frame.Valid, List.length_append, List.length_take]
    omega

/-- A frame that is completed can be encoded. -/
theorem advance_valid {phase next : Phase} {input rest : List UInt8}
    {frame : Option Frame}
    (advanced : phase.advance input = .ok (next, rest, frame)) :
    ∀ found ∈ frame, found.Valid := by
  unfold Phase.advance at advanced
  split at advanced
  · dsimp only at advanced
    split at advanced
    · cases advanced
      intro found member
      cases member
    · rename_i used short _
      cases read : readHeader
          (used ++ input.take (headerBytes - used.length)) with
      | error code =>
          rw [read] at advanced
          cases advanced
      | ok found =>
          rw [read] at advanced
          exact takePayload_valid (Nat.zero_le _) (Except.ok.inj advanced)
  · rename_i short
    exact takePayload_valid short.le (Except.ok.inj advanced)

theorem advance_split {phase next last : Phase} {input rest : List UInt8}
    {frame : Option Frame} {frames : List Frame}
    (advanced : phase.advance input = .ok (next, rest, frame))
    (reads : framing.Reads (phase.wire ++ input) frames last) :
    ∃ later, frames = frame.toList ++ later ∧
      framing.Reads (next.wire ++ rest) later last := by
  have wire := advance_wire advanced
  have valid : ∀ found ∈ frame.toList, found.Valid := by
    intro found member
    exact advance_valid advanced found (Option.mem_toList.mp member)
  have begins : framing.Begins (phase.wire ++ input) frame.toList :=
    ⟨valid, by rw [wire, List.append_assoc]; exact List.prefix_append _ _⟩
  obtain ⟨later, rfl⟩ := begins.of_reads reads
  refine ⟨later, rfl, ?_, ?_⟩
  · intro found member
    exact reads.valid found (List.mem_append_right _ member)
  · have stream := wire.symm.trans reads.stream
    rw [List.flatMap_append, List.append_assoc, List.append_assoc] at stream
    exact List.append_cancel_left stream

theorem decode_of_reads {phase last : Phase} {input : List UInt8}
    {earlier frames : List Frame}
    (reads : framing.Reads (phase.wire ++ input) frames last)
    (few : earlier.length + frames.length ≤ maxBatchFrames) :
    phase.decode input earlier = .ok (last, earlier ++ frames) := by
  induction phase, input, earlier using Phase.decode.induct
    generalizing frames with
  | case1 phase earlier =>
      have here : framing.Reads (phase.wire ++ ([] : List UInt8)) [] phase :=
        ⟨by simp, by simp [framing]⟩
      obtain ⟨rfl, rfl⟩ := here.unique reads
      rw [Phase.decode, dif_pos rfl, List.append_nil]
  | case2 phase input earlier empty code advanced =>
      exact absurd advanced (advance_reads reads code)
  | case3 phase input earlier empty middle rest frame advanced many =>
      obtain ⟨later, rfl, _⟩ := advance_split advanced reads
      rw [List.length_append] at few many
      omega
  | case4 phase input earlier empty middle rest frame advanced fits induction =>
      obtain ⟨later, rfl, still⟩ := advance_split advanced reads
      rw [Phase.decode, dif_neg empty]
      split
      · rename_i other
        rw [advanced] at other
        cases other
      · rename_i other
        rw [advanced] at other
        cases other
        rw [if_neg fits, induction still (by
          rw [List.length_append] at few ⊢
          omega), List.append_assoc]

theorem decode_reads {phase next : Phase} {input : List UInt8}
    {earlier decoded : List Frame}
    (done : phase.decode input earlier = .ok (next, decoded)) :
    ∃ frames, decoded = earlier ++ frames ∧
      framing.Reads (phase.wire ++ input) frames next := by
  induction phase, input, earlier using Phase.decode.induct with
  | case1 phase earlier =>
      rw [Phase.decode, dif_pos rfl] at done
      cases done
      exact ⟨[], by simp, ⟨by simp, by simp [framing]⟩⟩
  | case2 phase input earlier empty code advanced =>
      rw [Phase.decode, dif_neg empty] at done
      split at done
      · cases done
      · rename_i other
        rw [advanced] at other
        cases other
  | case3 phase input earlier empty middle rest frame advanced many =>
      rw [Phase.decode, dif_neg empty] at done
      split at done
      · cases done
      · rename_i other
        rw [advanced] at other
        cases other
        rw [if_pos many] at done
        cases done
  | case4 phase input earlier empty middle rest frame advanced few induction =>
      rw [Phase.decode, dif_neg empty] at done
      split at done
      · cases done
      · rename_i other
        rw [advanced] at other
        cases other
        rw [if_neg few] at done
        obtain ⟨later, rfl, reads⟩ := induction done
        refine ⟨frame.toList ++ later, List.append_assoc _ _ _, ?_, ?_⟩
        · intro found member
          rcases List.mem_append.mp member with here | there
          · exact advance_valid advanced found (Option.mem_toList.mp here)
          · exact reads.valid found there
        · rw [advance_wire advanced, List.append_assoc,
            show middle.wire ++ rest = _ from reads.stream,
            List.flatMap_append, List.append_assoc]
          rfl

/-- What `push` reads while the decoder is not terminal. -/
def readChunk (phase : Phase) (chunk : List UInt8) :
    Option (Phase × List Frame) :=
  if chunk.length > maxInputChunkBytes then none
  else (phase.decode chunk []).toOption

theorem readChunk_reader :
    framing.Reader readChunk maxInputChunkBytes maxBatchFrames where
  sound {phase chunk next frames} read := by
    unfold readChunk at read
    split at read
    · cases read
    · cases decoded : phase.decode chunk [] with
      | error code =>
          rw [decoded] at read
          cases read
      | ok outcome =>
          rw [decoded] at read
          cases read
          obtain ⟨_, rfl, reads⟩ := decode_reads decoded
          exact reads
  complete {phase chunk next frames} reads short few := by
    have decoded := decode_of_reads reads
      (show ([] : List Frame).length + frames.length ≤ maxBatchFrames by simpa)
    rw [readChunk, if_neg (Nat.not_lt.mpr short), decoded]
    rfl

/-! ## Whole streams -/

/-- Pushes chunk after chunk, until one of them fails. -/
def Decoder.feed (decoder : Decoder) :
    List (List UInt8) → Decoder × Except String (List Frame)
  | [] => (decoder, .ok [])
  | chunk :: chunks =>
      match decoder.push chunk with
      | (after, .error code) => (after, .error code)
      | (after, .ok frames) =>
          let (last, later) := after.feed chunks
          (last, later.map (frames ++ ·))

/-- All chunks of a stream, then its end. -/
def decodeStream (chunks : List (List UInt8)) : Except String (List Frame) :=
  match createAdapterIpcDecoder.feed chunks with
  | (_, .error code) => .error code
  | (last, .ok frames) => last.finish.2.map (fun _ => frames)

/-- The stream in chunks that the decoder admits: of at most a mebibyte, and
completing at most 64 frames each. -/
def Admitted (chunks : List (List UInt8)) : Prop :=
  framing.Admissible maxInputChunkBytes maxBatchFrames [] chunks

/-- The concatenated encodings of the frames. -/
def Encodes (frames : List Frame) (stream : List UInt8) : Prop :=
  ∃ encodings, stream = encodings.flatten ∧
    List.Forall₂ (fun frame bytes =>
      encodeAdapterIpcFrame frame.type frame.payload = .ok bytes) frames encodings

theorem encodes_iff {frames : List Frame} {stream : List UInt8} :
    Encodes frames stream ↔ framing.Reads stream frames .boundary := by
  constructor
  · rintro ⟨encodings, rfl, encoded⟩
    induction encoded with
    | nil => exact ⟨by simp, rfl⟩
    | @cons frame bytes frames encodings first rest induction =>
        have valid : frame.Valid := by
          by_contra large
          rw [encodeAdapterIpcFrame, if_pos (Nat.not_le.mp large)] at first
          cases first
        refine ⟨?_, ?_⟩
        · intro other member
          rcases List.mem_cons.mp member with rfl | later
          · exact valid
          · exact induction.valid other later
        · rw [List.flatten_cons, induction.stream, encode_wire first,
            List.flatMap_cons, List.append_assoc]
          rfl
  · intro reads
    refine ⟨frames.map Frame.wire, ?_, ?_⟩
    · rw [reads.stream]
      exact (List.append_nil _).trans List.flatMap_def
    · rw [List.forall₂_map_right_iff, List.forall₂_same]
      intro frame member
      have valid : frame.payload.length ≤ maxFrameBytes :=
        reads.valid frame member
      exact if_neg (Nat.not_lt.mpr valid)

theorem push_eq {decoder : Decoder} (live : decoder.terminal = false)
    (chunk : List UInt8) :
    (∃ next frames, readChunk decoder.phase chunk = some (next, frames) ∧
        decoder.push chunk = (⟨next, false⟩, .ok frames)) ∨
      (readChunk decoder.phase chunk = none ∧
        ∃ code, decoder.push chunk = ({ decoder with terminal := true },
          .error code)) := by
  have open' : ¬decoder.terminal = true := by simp [live]
  unfold readChunk Decoder.push
  simp only [if_neg open']
  split_ifs with long
  · exact .inr ⟨rfl, _, rfl⟩
  · cases decoder.phase.decode chunk [] with
    | error code => exact .inr ⟨rfl, _, rfl⟩
    | ok outcome => exact .inl ⟨outcome.1, outcome.2, rfl, by rw [← live]⟩

/-- Feeding a live decoder is reading its chunks. -/
theorem feed_eq {decoder : Decoder} (live : decoder.terminal = false)
    (chunks : List (List UInt8)) :
    (∃ last frames, Framing.pushAll readChunk decoder.phase chunks =
          some (last, frames) ∧
        decoder.feed chunks = (⟨last, false⟩, .ok frames)) ∨
      (Framing.pushAll readChunk decoder.phase chunks = none ∧
        ∃ last code, decoder.feed chunks = (last, .error code)) := by
  induction chunks generalizing decoder with
  | nil =>
      left
      refine ⟨decoder.phase, [], rfl, ?_⟩
      rw [Decoder.feed, ← live]
  | cons chunk chunks induction =>
      rcases push_eq live chunk with ⟨next, frames, read, pushed⟩ |
        ⟨refused, code, pushed⟩
      · have more := @induction ⟨next, false⟩ rfl
        rcases more with ⟨last, later, reads, fed⟩ | ⟨fails, last, code, fed⟩
        · left
          refine ⟨last, frames ++ later, ?_, ?_⟩
          · rw [Framing.pushAll, read, Option.bind_some]
            simp only
            rw [reads]
            rfl
          · rw [Decoder.feed, pushed]
            simp only
            rw [fed]
            rfl
        · right
          refine ⟨?_, last, code, ?_⟩
          · rw [Framing.pushAll, read, Option.bind_some]
            simp only
            rw [fails]
            rfl
          · rw [Decoder.feed, pushed]
            simp only
            rw [fed]
            rfl
      · right
        refine ⟨?_, { decoder with terminal := true }, code, ?_⟩
        · rw [Framing.pushAll, refused]
          rfl
        · rw [Decoder.feed, pushed]

theorem finish_eq (phase : Phase) :
    (∃ code, (Decoder.finish ⟨phase, false⟩).2 = .error code ∧
        phase ≠ .boundary) ∨
      ((Decoder.finish ⟨phase, false⟩).2 = .ok () ∧ phase = .boundary) := by
  by_cases held : phase.wire = []
  · right
    refine ⟨?_, framing.held_inj (held.trans rfl)⟩
    simp [Decoder.finish, held]
  · left
    refine ⟨"truncated_frame", ?_, ?_⟩
    · simp [Decoder.finish, held]
    · rintro rfl
      exact held rfl

/-- A stream in admitted chunks is read as it can be read at all. -/
theorem feed_iff {chunks : List (List UInt8)} (admitted : Admitted chunks)
    {frames : List Frame} :
    (createAdapterIpcDecoder.feed chunks).2 = .ok frames ↔
      ∃ last, framing.Reads chunks.flatten frames last := by
  have start : framing.Reads [] [] Phase.boundary := ⟨by simp, rfl⟩
  constructor
  · intro fed
    rcases @feed_eq createAdapterIpcDecoder rfl chunks with
      ⟨last, other, pushed, same⟩ | ⟨_, last, code, same⟩
    · rw [same] at fed
      cases fed
      exact ⟨last, readChunk_reader.reads pushed⟩
    · rw [same] at fed
      cases fed
  · rintro ⟨last, reads⟩
    have pushed := readChunk_reader.pushes start admitted reads
    rcases @feed_eq createAdapterIpcDecoder rfl chunks with
      ⟨other, found, same, fed⟩ | ⟨fails, _⟩
    · cases pushed.symm.trans same
      rw [fed]
    · cases pushed.symm.trans fails

theorem decodeStream_iff {chunks : List (List UInt8)}
    (admitted : Admitted chunks) {frames : List Frame} :
    decodeStream chunks = .ok frames ↔
      framing.Reads chunks.flatten frames .boundary := by
  have start : framing.Reads [] [] Phase.boundary := ⟨by simp, rfl⟩
  unfold decodeStream
  rcases @feed_eq createAdapterIpcDecoder rfl chunks with
    ⟨last, found, pushed, fed⟩ | ⟨fails, last, code, fed⟩
  · rw [fed]
    have reads := readChunk_reader.reads pushed
    simp only
    rcases finish_eq last with ⟨code, finished, inside⟩ | ⟨finished, rfl⟩
    · rw [finished]
      refine ⟨(fun ok => by cases ok), ?_⟩
      intro other
      exact absurd (reads.unique other).2 inside
    · rw [finished]
      constructor
      · intro ok
        cases ok
        exact reads
      · intro other
        rw [(reads.unique other).1]
        rfl
  · rw [fed]
    refine ⟨(fun ok => by cases ok), ?_⟩
    intro reads
    cases fails.symm.trans (readChunk_reader.pushes start admitted reads)

/-! ## Closed decoders -/

inductive DecoderCall where
  | push (chunk : List UInt8)
  | finish

/-- A call, and whether it returns. -/
def Decoder.call (decoder : Decoder) : DecoderCall → Decoder × Bool
  | .push chunk => ((decoder.push chunk).1, (decoder.push chunk).2.isOk)
  | .finish => (decoder.finish.1, decoder.finish.2.isOk)

def Decoder.calls (decoder : Decoder) : List DecoderCall → List Bool
  | [] => []
  | call :: rest =>
      (decoder.call call).2 :: (decoder.call call).1.calls rest

theorem call_terminal {decoder : Decoder} (ended : decoder.terminal = true)
    (call : DecoderCall) :
    (decoder.call call).2 = false ∧ (decoder.call call).1.terminal = true := by
  cases call with
  | push chunk =>
      rw [Decoder.call, Decoder.push]
      simp only [ended, if_true]
      exact ⟨rfl, trivial⟩
  | finish =>
      rw [Decoder.call, Decoder.finish]
      simp only [ended, if_true]
      exact ⟨rfl, trivial⟩

theorem calls_terminal {decoder : Decoder} (ended : decoder.terminal = true)
    (calls : List DecoderCall) : ∀ returned ∈ decoder.calls calls,
      returned = false := by
  induction calls generalizing decoder with
  | nil => intro returned member; cases member
  | cons call rest induction =>
      obtain ⟨refused, still⟩ := call_terminal ended call
      intro returned member
      rcases List.mem_cons.mp member with rfl | later
      · exact refused
      · exact induction still returned later

/-- A call that fails, or that finishes, closes the decoder. -/
theorem call_closes {decoder : Decoder} {call : DecoderCall}
    (closes : (decoder.call call).2 = false ∨ call = .finish) :
    (decoder.call call).1.terminal = true := by
  cases ended : decoder.terminal with
  | true => exact (call_terminal ended call).2
  | false =>
      cases call with
      | push chunk =>
          rcases closes with refused | other
          · rw [Decoder.call] at refused ⊢
            rcases push_eq ended chunk with ⟨next, frames, _, pushed⟩ |
              ⟨_, code, pushed⟩
            · rw [pushed] at refused
              cases refused
            · rw [pushed]
          · cases other
      | finish =>
          rw [Decoder.call, Decoder.finish]
          simp only [ended, Bool.false_eq_true, if_false]
          split_ifs
          · rfl
          · rfl

/-- Frames come out as they were encoded, whatever the chunks; a stream is
accepted if it is a concatenation of encodings; and nothing follows a failure
or the end. -/
theorem adapter_ipc_codec :
    (∀ frames stream chunks, Encodes frames stream →
      chunks.flatten = stream → Admitted chunks →
        decodeStream chunks = .ok frames) ∧
    (∀ first second, first.flatten = second.flatten → Admitted first →
      Admitted second → ∀ frames,
        ((createAdapterIpcDecoder.feed first).2 = .ok frames ↔
          (createAdapterIpcDecoder.feed second).2 = .ok frames) ∧
        (decodeStream first = .ok frames ↔
          decodeStream second = .ok frames)) ∧
    (∀ chunks, Admitted chunks →
      ((∃ frames, decodeStream chunks = .ok frames) ↔
        ∃ frames, Encodes frames chunks.flatten)) ∧
    ∀ decoder : Decoder, ∀ call,
      (decoder.call call).2 = false ∨ call = .finish →
        ∀ calls, ∀ returned ∈ (decoder.call call).1.calls calls,
          returned = false := by
  refine ⟨?_, ?_, ?_, ?_⟩
  · rintro frames stream chunks encodes rfl admitted
    exact (decodeStream_iff admitted).mpr (encodes_iff.mp encodes)
  · intro first second same admittedFirst admittedSecond frames
    constructor
    · rw [feed_iff admittedFirst, feed_iff admittedSecond, same]
    · rw [decodeStream_iff admittedFirst, decodeStream_iff admittedSecond, same]
  · intro chunks admitted
    constructor
    · rintro ⟨frames, decoded⟩
      exact ⟨frames, encodes_iff.mpr ((decodeStream_iff admitted).mp decoded)⟩
    · rintro ⟨frames, encodes⟩
      exact ⟨frames, (decodeStream_iff admitted).mpr (encodes_iff.mp encodes)⟩
  · intro decoder call closes calls
    exact calls_terminal (call_closes closes) calls

/-! ## A frame in two chunks -/

/-- No frame is shorter than its header. -/
theorem begins_few {stream : List UInt8} {frames : List Frame}
    (begins : framing.Begins stream frames) :
    frames.length * headerBytes ≤ stream.length := by
  refine le_trans ?_ begins.begins.length_le
  have total : ∀ frames : List Frame,
      frames.length * headerBytes ≤ (frames.flatMap Frame.wire).length := by
    intro frames
    induction frames with
    | nil => exact Nat.zero_le _
    | cons frame frames induction =>
        rw [List.flatMap_cons, List.length_append, wire_length,
          List.length_cons, Nat.add_one_mul]
        omega
  exact total frames

/-- A short stream is admitted in any chunks. -/
theorem admitted_of_short {chunks : List (List UInt8)}
    (short : chunks.flatten.length ≤ maxBatchFrames * headerBytes) :
    Admitted chunks := by
  have all : ∀ earlier : List UInt8,
      (earlier ++ chunks.flatten).length ≤ maxBatchFrames * headerBytes →
        framing.Admissible maxInputChunkBytes maxBatchFrames earlier chunks := by
    clear short
    induction chunks with
    | nil => exact fun _ _ => trivial
    | cons chunk chunks induction =>
        intro earlier short
        rw [List.flatten_cons, ← List.append_assoc] at short
        have here : (earlier ++ chunk).length ≤ maxBatchFrames * headerBytes :=
          le_trans (List.prefix_append _ _).length_le short
        refine ⟨?_, ?_, induction _ short⟩
        · rw [List.length_append] at here
          simp only [maxBatchFrames, headerBytes] at here
          unfold maxInputChunkBytes
          omega
        · intro frames begins
          have few := (begins_few begins).trans here
          refine ⟨[], ⟨List.forall_mem_nil _, List.nil_prefix⟩, ?_⟩
          simp only [headerBytes, maxBatchFrames, List.length_nil] at few ⊢
          omega
  exact all [] short

def sampleFrames : List Frame :=
  [⟨.TEXT, [111, 107]⟩, ⟨.END, []⟩]

/-- The first chunk ends within the text of the first frame. -/
def sampleChunks : List (List UInt8) :=
  [(sampleFrames.flatMap Frame.wire).take 10,
    (sampleFrames.flatMap Frame.wire).drop 10]

theorem sampleChunks_encode : Encodes sampleFrames sampleChunks.flatten :=
  ⟨sampleFrames.map Frame.wire, rfl, .cons rfl (.cons rfl .nil)⟩

theorem sampleChunks_admitted : Admitted sampleChunks :=
  admitted_of_short (by decide)

/-- The stream is read the same in two chunks and in one. -/
theorem adapter_ipc_codec_sample :
    decodeStream sampleChunks = .ok sampleFrames ∧
      decodeStream [sampleChunks.flatten] = .ok sampleFrames := by
  have streamed := adapter_ipc_codec.1 sampleFrames _ sampleChunks
    sampleChunks_encode rfl sampleChunks_admitted
  have whole : Admitted [sampleChunks.flatten] := admitted_of_short (by decide)
  exact ⟨streamed, ((adapter_ipc_codec.2.1 sampleChunks
    [sampleChunks.flatten] rfl sampleChunks_admitted whole sampleFrames).2).mp
      streamed⟩

end AdapterIpc

end GpuLink
