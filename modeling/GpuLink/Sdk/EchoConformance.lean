import GpuLink.Worker.AdapterCodec

/-!
# The codec of the adapter SDK

`encodeGlipV1` and `decodeGlipV1` handle the frames of a conformance run.  The
decoder takes its whole input at once and at most 64 frames of it.
-/

namespace GpuLink

namespace EchoConformance

open AdapterIpc

def maxPayload : Nat := 65536
def maxOutput : Nat := 262144
def maxOutputFrames : Nat := 64

structure GlipFrame where
  kind : UInt8
  payload : List UInt8
  deriving DecidableEq, Repr

/-- The type is an integer or nothing, the payload bytes or nothing. -/
def encodeGlipV1 (type : Option Int) (payload : Option (List UInt8)) :
    Except String (List UInt8) :=
  match type with
  | none => .error "invalid_frame_kind"
  | some type =>
      if type < 1 ∨ 7 < type then .error "invalid_frame_kind"
      else
        match payload with
        | none => .error "invalid_payload"
        | some payload =>
            if payload.length > maxPayload then .error "oversize_payload"
            else .ok (magic ++ UInt8.ofNat type.toNat ::
              uint32BE payload.length ++ payload)

/-- A strict decoder takes the payload. -/
def isText (payload : List UInt8) : Bool :=
  (String.fromUTF8? payload.toByteArray).isSome

/-- The loop of `decodeGlipV1` on what is left of its input. -/
def decodeFrames (bytes : List UInt8) (frames : List GlipFrame) :
    Except String (List GlipFrame) :=
  if empty : bytes = [] then .ok frames
  else if bytes.length < headerBytes then .error "truncated_header"
  else if bytes.take 4 ≠ magic then .error "invalid_magic"
  else
    let kind := bytes.getD 4 0
    let size := readUInt32BE (bytes.drop 5)
    let rest := bytes.drop headerBytes
    if kind < 1 ∨ 7 < kind then .error "invalid_frame_kind"
    else if size > maxPayload then .error "oversize_payload"
    else if rest.length < size then .error "truncated_payload"
    else if kind = FrameType.TEXT.code ∧ ¬isText (rest.take size) then
      .error "invalid_utf8_text"
    else if frames.length + 1 > maxOutputFrames then
      .error "too_many_output_frames"
    else decodeFrames (rest.drop size) (frames ++ [⟨kind, rest.take size⟩])
  termination_by bytes.length
  decreasing_by
    have length := List.length_pos_iff.mpr empty
    simp only [List.length_drop, headerBytes]
    omega

def decodeGlipV1 (bytes : List UInt8) : Except String (List GlipFrame) :=
  if bytes.length > maxOutput then .error "oversize_output"
  else decodeFrames bytes []

/-! ## The worker's frames -/

def glipFrame (frame : Frame) : GlipFrame :=
  ⟨frame.type.code, frame.payload⟩

/-- What both decoders demand of the text in a stream. -/
def Texts (frames : List Frame) : Prop :=
  ∀ frame ∈ frames, frame.type = .TEXT → isText frame.payload = true

/-- `checkType`, then the rest of `encodeAdapterIpcFrame`. -/
def workerEncode (type : Option Int) (payload : Option (List UInt8)) :
    Except String (List UInt8) :=
  match type with
  | none => .error "invalid_frame_type"
  | some type =>
      if type < 0 ∨ 255 < type then .error "invalid_frame_type"
      else
        match FrameType.ofCode? (UInt8.ofNat type.toNat), payload with
        | none, _ => .error "invalid_frame_type"
        | some _, none => .error "invalid_payload"
        | some type, some payload => encodeAdapterIpcFrame type payload

theorem ofCode?_eq_none_iff {code : UInt8} :
    FrameType.ofCode? code = none ↔ code < 1 ∨ 7 < code := by
  have listed : FrameType.ofCode? code = none ↔
      code ≠ 1 ∧ code ≠ 2 ∧ code ≠ 3 ∧ code ≠ 4 ∧ code ≠ 5 ∧ code ≠ 6 ∧
        code ≠ 7 := by
    rw [FrameType.ofCode?, List.find?_eq_none]
    simp [FrameType.code, eq_comm]
  rw [listed]
  simp only [ne_eq, ← UInt8.toNat_inj, UInt8.lt_iff_toNat_lt]
  simp only [UInt8.reduceToNat]
  omega

theorem encode_agree (type : Option Int) (payload : Option (List UInt8)) :
    (encodeGlipV1 type payload).toOption =
      (workerEncode type payload).toOption := by
  cases type with
  | none => rfl
  | some type =>
      by_cases small : type < 0 ∨ 255 < type
      · have outside : type < 1 ∨ 7 < type := by omega
        unfold encodeGlipV1 workerEncode
        simp only [if_pos outside, if_pos small]
        rfl
      · have toNat : (UInt8.ofNat type.toNat).toNat = type.toNat := by
          rw [UInt8.toNat_ofNat']
          omega
        unfold workerEncode
        simp only [if_neg small]
        cases known : FrameType.ofCode? (UInt8.ofNat type.toNat) with
        | none =>
            have outside := ofCode?_eq_none_iff.mp known
            rw [UInt8.lt_iff_toNat_lt, UInt8.lt_iff_toNat_lt, toNat] at outside
            simp only [UInt8.reduceToNat] at outside
            have outside : type < 1 ∨ 7 < type := by omega
            unfold encodeGlipV1
            simp only [if_pos outside]
            rfl
        | some found =>
            have inside : ¬(type < 1 ∨ 7 < type) := by
              intro outside
              have unknown : FrameType.ofCode? (UInt8.ofNat type.toNat) =
                  none := by
                rw [ofCode?_eq_none_iff, UInt8.lt_iff_toNat_lt,
                  UInt8.lt_iff_toNat_lt, toNat]
                simp only [UInt8.reduceToNat]
                omega
              cases known.symm.trans unknown
            unfold encodeGlipV1
            simp only [if_neg inside]
            cases payload with
            | none => rfl
            | some payload =>
                have code := code_of_ofCode? known
                simp only
                have limits : maxPayload = maxFrameBytes := rfl
                rw [limits]
                by_cases large : payload.length > maxFrameBytes
                · rw [if_pos large, encodeAdapterIpcFrame, if_pos large]
                  rfl
                · rw [if_neg large, encodeAdapterIpcFrame, if_neg large, header,
                    code]

/-! ## Decoding -/

/-- The checks on a header are the same on both sides. -/
theorem readHeader_eq {bytes : List UInt8} (long : headerBytes ≤ bytes.length) :
    readHeader (bytes.take headerBytes) =
      if bytes.take 4 ≠ magic then .error "invalid_magic"
      else
        match FrameType.ofCode? (bytes.getD 4 0) with
        | none => .error "invalid_frame_type"
        | some type =>
            if bounded : readUInt32BE (bytes.drop 5) ≤ maxFrameBytes then
              .ok (type, ⟨readUInt32BE (bytes.drop 5), bounded⟩)
            else .error "frame_too_large" := by
  match bytes, long with
  | a :: b :: c :: d :: e :: f :: g :: h :: i :: rest, _ => rfl

/-- A frame at the beginning of the input. -/
theorem decodeFrames_wire {frame : Frame} (valid : frame.Valid)
    (rest : List UInt8) (frames : List GlipFrame)
    (text : frame.type = .TEXT → isText frame.payload = true)
    (few : frames.length < maxOutputFrames) :
    decodeFrames (frame.wire ++ rest) frames =
      decodeFrames rest (frames ++ [glipFrame frame]) := by
  have nonempty : frame.wire ++ rest ≠ [] := by
    intro empty
    have length := congrArg List.length empty
    rw [List.length_append, wire_length, headerBytes, List.length_nil] at length
    omega
  have start : frame.wire ++ rest =
      header frame.type frame.payload.length ++ (frame.payload ++ rest) :=
    List.append_assoc _ _ _
  have small : frame.payload.length < 4294967296 := by
    have bounded : frame.payload.length ≤ 65536 := valid
    omega
  have size : readUInt32BE ((frame.wire ++ rest).drop 5) =
      frame.payload.length := by
    rw [start]
    exact readUInt32BE_uint32BE small _
  have body : (frame.wire ++ rest).drop headerBytes = frame.payload ++ rest := by
    rw [start]
    exact List.drop_left' (header_length _ _)
  have code : (frame.wire ++ rest).getD 4 0 = frame.type.code := rfl
  have known : ¬(frame.type.code < 1 ∨ 7 < frame.type.code) := by
    rw [← ofCode?_eq_none_iff, ofCode?_code]
    simp
  have textual : ¬(frame.type.code = FrameType.TEXT.code ∧
      ¬isText frame.payload) := by
    rintro ⟨same, invalid⟩
    exact invalid (text (code_injective same))
  rw [decodeFrames, dif_neg nonempty]
  have long : ¬(frame.wire ++ rest).length < headerBytes := by
    rw [List.length_append, wire_length]
    omega
  have marked : ¬(frame.wire ++ rest).take 4 ≠ magic := not_not.mpr rfl
  simp only [if_neg long, if_neg marked, code, size, body, if_neg known,
    List.take_left', List.drop_left']
  have bounded : ¬frame.payload.length > maxPayload := Nat.not_lt.mpr valid
  have whole : ¬(frame.payload ++ rest).length < frame.payload.length := by
    rw [List.length_append]
    omega
  have more : ¬frames.length + 1 > maxOutputFrames := by omega
  rw [if_neg bounded, if_neg whole, if_neg textual, if_neg more]
  rfl

theorem decodeFrames_reads {bytes : List UInt8} {frames : List Frame}
    {earlier : List GlipFrame}
    (reads : framing.Reads bytes frames .boundary) (texts : Texts frames)
    (few : earlier.length + frames.length ≤ maxOutputFrames) :
    decodeFrames bytes earlier = .ok (earlier ++ frames.map glipFrame) := by
  induction frames generalizing bytes earlier with
  | nil =>
      rw [show bytes = [] from reads.stream, decodeFrames, dif_pos rfl]
      simp
  | cons frame frames induction =>
      have valid := reads.valid frame List.mem_cons_self
      have others : framing.Reads (frames.flatMap Frame.wire ++ [])
          frames .boundary :=
        ⟨fun other member => reads.valid other (List.mem_cons_of_mem _ member),
          rfl⟩
      rw [List.length_cons] at few
      have stream : bytes = frame.wire ++ (frames.flatMap Frame.wire ++ []) := by
        rw [← List.append_assoc]
        exact reads.stream
      rw [stream, decodeFrames_wire valid _ _
        (texts frame List.mem_cons_self) (by omega), induction others
          (fun other member => texts other (List.mem_cons_of_mem _ member))
          (by rw [List.length_append, List.length_singleton]; omega)]
      simp

theorem reads_decodeFrames {bytes : List UInt8}
    {earlier decoded : List GlipFrame}
    (done : decodeFrames bytes earlier = .ok decoded)
    (start : earlier.length ≤ maxOutputFrames) :
    ∃ frames, decoded = earlier ++ frames.map glipFrame ∧
      framing.Reads bytes frames .boundary ∧ Texts frames ∧
      earlier.length + frames.length ≤ maxOutputFrames := by
  induction bytes, earlier using decodeFrames.induct with
  | case1 earlier =>
      rw [decodeFrames, dif_pos rfl] at done
      cases done
      refine ⟨[], by simp, ⟨by simp, rfl⟩, ?_, start⟩
      intro frame member
      cases member
  | case2 bytes earlier empty short =>
      rw [decodeFrames, dif_neg empty, if_pos short] at done
      cases done
  | case3 bytes earlier empty long marked =>
      rw [decodeFrames, dif_neg empty, if_neg long, if_pos marked] at done
      cases done
  | case4 bytes earlier empty long marked kind unknown =>
      rw [decodeFrames, dif_neg empty, if_neg long, if_neg marked] at done
      simp only at done
      rw [if_pos unknown] at done
      cases done
  | case5 bytes earlier empty long marked kind size known large =>
      rw [decodeFrames, dif_neg empty, if_neg long, if_neg marked] at done
      simp only at done
      rw [if_neg known, if_pos large] at done
      cases done
  | case6 bytes earlier empty long marked kind size rest known bounded short =>
      rw [decodeFrames, dif_neg empty, if_neg long, if_neg marked] at done
      simp only at done
      rw [if_neg known, if_neg bounded, if_pos short] at done
      cases done
  | case7 bytes earlier empty long marked kind size rest known bounded whole
      invalid =>
      rw [decodeFrames, dif_neg empty, if_neg long, if_neg marked] at done
      simp only at done
      rw [if_neg known, if_neg bounded, if_neg whole, if_pos invalid] at done
      cases done
  | case8 bytes earlier empty long marked kind size rest known bounded whole
      valid many =>
      rw [decodeFrames, dif_neg empty, if_neg long, if_neg marked] at done
      simp only at done
      rw [if_neg known, if_neg bounded, if_neg whole, if_neg valid,
        if_pos many] at done
      cases done
  | case9 bytes earlier empty long marked kind size rest known bounded whole
      valid few induction =>
      rw [decodeFrames, dif_neg empty, if_neg long, if_neg marked] at done
      simp only at done
      rw [if_neg known, if_neg bounded, if_neg whole, if_neg valid,
        if_neg few] at done
      have shorter : (earlier ++ [(⟨kind, rest.take size⟩ : GlipFrame)]).length ≤
          maxOutputFrames := by
        rw [List.length_append, List.length_singleton]
        exact Nat.not_lt.mp few
      obtain ⟨frames, rfl, reads, texts, total⟩ := induction done shorter
      obtain ⟨type, found⟩ := Option.ne_none_iff_exists'.mp
        (ofCode?_eq_none_iff.not.mpr known)
      have read : readHeader (bytes.take headerBytes) =
          .ok (type, ⟨size, Nat.not_lt.mp bounded⟩) := by
        rw [readHeader_eq (Nat.not_lt.mp long), if_neg marked, found]
        exact dif_pos (show size ≤ maxFrameBytes from Nat.not_lt.mp bounded)
      have named := wire_header (by
        rw [List.length_take]
        omega) read
      have taken : (rest.take size).length = size := by
        rw [List.length_take]
        omega
      have code := code_of_ofCode? found
      refine ⟨⟨type, rest.take size⟩ :: frames, ?_, ⟨?_, ?_⟩, ?_, ?_⟩
      · rw [List.map_cons, List.append_assoc, glipFrame, code]
        rfl
      · intro frame member
        rcases List.mem_cons.mp member with rfl | later
        · exact taken.le.trans (Nat.not_lt.mp bounded)
        · exact reads.valid frame later
      · have stream : rest.drop size = frames.flatMap framing.word ++
            framing.held .boundary := reads.stream
        have word : framing.word ⟨type, rest.take size⟩ =
            header type size ++ rest.take size :=
          congrArg (fun length => header type length ++ rest.take size) taken
        calc bytes = header type size ++ rest := by
              rw [← show bytes.take headerBytes = header type size from named]
              exact (List.take_append_drop headerBytes bytes).symm
          _ = header type size ++ (rest.take size ++ rest.drop size) := by
              rw [List.take_append_drop]
          _ = _ := by
              rw [stream, List.flatMap_cons, word]
              simp only [List.append_assoc]
      · intro frame member isText
        rcases List.mem_cons.mp member with rfl | later
        · by_contra invalid
          apply valid
          refine ⟨?_, invalid⟩
          rw [← isText, code]
        · exact texts frame later isText
      · rw [List.length_append, List.length_singleton] at total
        rw [List.length_cons]
        omega

/-- The decoder of the SDK accepts what the worker's accepts, if it is at most
64 frames whose texts are texts. -/
theorem decodeGlipV1_iff {bytes : List UInt8} (short : bytes.length ≤ maxOutput)
    {chunks : List (List UInt8)} (whole : chunks.flatten = bytes)
    (admitted : Admitted chunks) (decoded : List GlipFrame) :
    decodeGlipV1 bytes = .ok decoded ↔
      ∃ frames, decodeStream chunks = .ok frames ∧ Texts frames ∧
        frames.length ≤ maxOutputFrames ∧ decoded = frames.map glipFrame := by
  rw [decodeGlipV1, if_neg (Nat.not_lt.mpr short)]
  constructor
  · intro done
    obtain ⟨frames, same, reads, texts, few⟩ := reads_decodeFrames done
      (Nat.zero_le _)
    rw [List.length_nil, Nat.zero_add] at few
    rw [List.nil_append] at same
    refine ⟨frames, (decodeStream_iff admitted).mpr ?_, texts, few, same⟩
    rw [whole]
    exact reads
  · rintro ⟨frames, streamed, texts, few, rfl⟩
    have reads := (decodeStream_iff admitted).mp streamed
    rw [whole] at reads
    exact decodeFrames_reads reads texts (by simpa using few)

/-- The two codecs of the adapter protocol. -/
theorem codecs_agree :
    (∀ bytes chunks, bytes.length ≤ maxOutput → chunks.flatten = bytes →
      Admitted chunks → ∀ decoded,
        decodeGlipV1 bytes = .ok decoded ↔
          ∃ frames, decodeStream chunks = .ok frames ∧ Texts frames ∧
            frames.length ≤ maxOutputFrames ∧
            decoded = frames.map glipFrame) ∧
    ∀ type payload, (encodeGlipV1 type payload).toOption =
      (workerEncode type payload).toOption := by
  refine ⟨?_, encode_agree⟩
  intro bytes chunks short whole admitted decoded
  exact decodeGlipV1_iff short whole admitted decoded

/-- A text, of which the worker's decoder gets a part first. -/
theorem codecs_agree_sample :
    decodeStream sampleChunks = .ok sampleFrames ∧
      decodeGlipV1 sampleChunks.flatten = .ok (sampleFrames.map glipFrame) := by
  have streamed : decodeStream sampleChunks = .ok sampleFrames :=
    (decodeStream_iff sampleChunks_admitted).mpr
      (encodes_iff.mp sampleChunks_encode)
  have texts : Texts sampleFrames := by
    simp only [Texts, sampleFrames, List.forall_mem_cons]
    exact ⟨fun _ => by decide +kernel, fun _ => by decide +kernel,
      List.forall_mem_nil _⟩
  exact ⟨streamed, (codecs_agree.1 sampleChunks.flatten sampleChunks
    (by decide +kernel) rfl sampleChunks_admitted _).mpr
      ⟨sampleFrames, streamed, texts, by decide, rfl⟩⟩

/-! ## Too many frames -/

/-- An answer of one more frame than the SDK takes. -/
def manyFrames : List Frame :=
  List.replicate 65 ⟨.END, []⟩

def manyChunks : List (List UInt8) :=
  [(List.replicate 33 (⟨.END, []⟩ : Frame)).flatMap Frame.wire,
    (List.replicate 32 (⟨.END, []⟩ : Frame)).flatMap Frame.wire]

theorem manyChunks_reads :
    framing.Reads manyChunks.flatten manyFrames .boundary where
  valid frame member := by
    rw [List.eq_of_mem_replicate member]
    exact Nat.zero_le _
  stream := by decide +kernel

theorem manyChunks_admitted : Admitted manyChunks := by
  have first : framing.Begins
      ((List.replicate 33 (⟨.END, []⟩ : Frame)).flatMap Frame.wire)
      (List.replicate 33 ⟨.END, []⟩) := by
    refine ⟨?_, List.prefix_refl _⟩
    intro frame member
    rw [List.eq_of_mem_replicate member]
    exact Nat.zero_le _
  refine ⟨by decide +kernel, ?_, by decide +kernel, ?_, trivial⟩
  · intro frames begins
    have few := begins_few begins
    have length : ([] ++ (List.replicate 33 (⟨.END, []⟩ : Frame)).flatMap
      Frame.wire).length = 297 := by decide +kernel
    rw [length] at few
    refine ⟨[], ⟨by simp, List.nil_prefix⟩, ?_⟩
    simp only [headerBytes, maxBatchFrames, List.length_nil] at few ⊢
    omega
  · intro frames begins
    have few := begins_few begins
    have length : ([] ++ (List.replicate 33 (⟨.END, []⟩ : Frame)).flatMap
      Frame.wire ++ (List.replicate 32 (⟨.END, []⟩ : Frame)).flatMap
        Frame.wire).length = 585 := by decide +kernel
    rw [length] at few
    refine ⟨List.replicate 33 ⟨.END, []⟩, first, ?_⟩
    rw [List.length_replicate]
    simp only [headerBytes, maxBatchFrames] at few ⊢
    omega

/-- The worker's decoder takes 65 frames in two chunks, the SDK does not take
them. -/
theorem many_frames_refused : ∃ bytes chunks frames,
    bytes.length ≤ maxOutput ∧ chunks.flatten = bytes ∧ Admitted chunks ∧
      decodeStream chunks = .ok frames ∧ Texts frames ∧
      ∀ decoded, decodeGlipV1 bytes ≠ .ok decoded := by
  have short : manyChunks.flatten.length ≤ maxOutput := by decide +kernel
  have streamed := (decodeStream_iff manyChunks_admitted).mpr manyChunks_reads
  refine ⟨_, manyChunks, manyFrames, short, rfl, manyChunks_admitted, streamed,
    ?_, ?_⟩
  · intro frame member isText
    rw [List.eq_of_mem_replicate member] at isText
    cases isText
  · intro decoded accepted
    obtain ⟨frames, same, _, few, _⟩ := (decodeGlipV1_iff short rfl
      manyChunks_admitted decoded).mp accepted
    cases streamed.symm.trans same
    exact absurd few (by decide)

end EchoConformance

end GpuLink
