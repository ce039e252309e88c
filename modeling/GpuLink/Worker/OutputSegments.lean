import GpuLink.Shared.JsonText
import GpuLink.Worker.AdapterSupervisor

/-!
# Adapter output in segments

The operating system decides how the bytes of an adapter's output come as data
events.  A supervisor that is not stopped cannot tell a chunk from its bytes
one by one, unless the chunk completes too many frames or loses some of them to
a header that is refused.
-/

namespace GpuLink

namespace AdapterIpc

/-! ## Reading byte by byte -/

/-- The frames that the bytes complete, and what is held after them or the code
of the header that is refused. -/
def Phase.read (phase : Phase) :
    List UInt8 → List Frame × Except String Phase
  | [] => ([], .ok phase)
  | byte :: rest =>
      match phase.advance [byte] with
      | .error code => ([], .error code)
      | .ok (next, _, frame) =>
          (frame.toList ++ (next.read rest).1, (next.read rest).2)

theorem takePayload_cons (type : FrameType) {expected : Nat}
    (bounded : expected ≤ maxFrameBytes) {used : List UInt8}
    (short : used.length < expected) (byte : UInt8) (input : List UInt8) :
    (∃ next, takePayload type expected bounded used [byte] =
          (next, [], none) ∧
        Except.ok (takePayload type expected bounded used (byte :: input)) =
          next.advance input) ∨
      ∃ next frame, takePayload type expected bounded used [byte] =
          (next, [], some frame) ∧
        takePayload type expected bounded used (byte :: input) =
          (next, input, some frame) := by
  obtain ⟨missing, count⟩ : ∃ missing, expected - used.length = missing + 1 :=
    ⟨expected - used.length - 1, by omega⟩
  have joined : used ++ byte :: input.take missing =
      used ++ [byte] ++ input.take missing := by
    rw [List.append_assoc, List.singleton_append]
  by_cases more : (used ++ [byte]).length < expected
  · left
    refine ⟨.payload type expected (used ++ [byte]) bounded more, ?_, ?_⟩
    · simp only [takePayload, count, List.take_succ_cons, List.take_nil,
        List.drop_succ_cons, List.drop_nil, more, dite_true]
    · have rest : expected - (used ++ [byte]).length = missing := by
        rw [List.length_append, List.length_singleton]
        omega
      simp only [Phase.advance, takePayload, count, rest, List.take_succ_cons,
        List.drop_succ_cons, joined]
  · right
    have last : missing = 0 := by
      rw [List.length_append, List.length_singleton] at more
      omega
    subst last
    refine ⟨.boundary, ⟨type, used ++ [byte]⟩, ?_, ?_⟩
    · simp only [takePayload, count, List.take_succ_cons, List.take_nil,
        List.drop_succ_cons, List.drop_nil, more, dite_false]
    · simp only [takePayload, count, List.take_succ_cons, List.take_zero,
        List.drop_succ_cons, List.drop_zero, more, dite_false]

/-- The first byte of a chunk is read as if it came alone. -/
theorem advance_cons (phase : Phase) (byte : UInt8) (input : List UInt8) :
    (∃ code, phase.advance [byte] = .error code ∧
        phase.advance (byte :: input) = .error code) ∨
      (∃ next, phase.advance [byte] = .ok (next, [], none) ∧
        phase.advance (byte :: input) = next.advance input) ∨
      ∃ next frame, phase.advance [byte] = .ok (next, [], some frame) ∧
        phase.advance (byte :: input) = .ok (next, input, some frame) := by
  cases phase with
  | payload type expected used bounded short =>
      rcases takePayload_cons type bounded short byte input with
        ⟨next, alone, first⟩ | ⟨next, frame, alone, first⟩
      · exact .inr (.inl ⟨next, congrArg Except.ok alone, first⟩)
      · exact .inr (.inr ⟨next, frame, congrArg Except.ok alone,
          congrArg Except.ok first⟩)
  | header used short =>
      obtain ⟨missing, count⟩ : ∃ missing,
          headerBytes - used.length = missing + 1 :=
        ⟨headerBytes - used.length - 1, by omega⟩
      have joined : used ++ byte :: input.take missing =
          used ++ [byte] ++ input.take missing := by
        rw [List.append_assoc, List.singleton_append]
      by_cases more : (used ++ [byte]).length < headerBytes
      · right
        left
        refine ⟨.header (used ++ [byte]) more, ?_, ?_⟩
        · simp only [Phase.advance, count, List.take_succ_cons, List.take_nil,
            List.drop_succ_cons, List.drop_nil, more, dite_true]
        · have rest : headerBytes - (used ++ [byte]).length = missing := by
            rw [List.length_append, List.length_singleton]
            omega
          simp only [Phase.advance, count, rest, List.take_succ_cons,
            List.drop_succ_cons, joined]
      · have last : missing = 0 := by
          rw [List.length_append, List.length_singleton] at more
          omega
        subst last
        have alone : (Phase.header used short).advance [byte] =
            (readHeader (used ++ [byte])).map fun found =>
              takePayload found.1 found.2.1 found.2.2 [] [] := by
          simp only [Phase.advance, count, List.take_succ_cons, List.take_nil,
            List.drop_succ_cons, List.drop_nil, more, dite_false]
          cases readHeader (used ++ [byte]) <;> rfl
        have first : (Phase.header used short).advance (byte :: input) =
            (readHeader (used ++ [byte])).map fun found =>
              takePayload found.1 found.2.1 found.2.2 [] input := by
          simp only [Phase.advance, count, List.take_succ_cons, List.take_zero,
            List.drop_succ_cons, List.drop_zero, more, dite_false]
          cases readHeader (used ++ [byte]) <;> rfl
        rw [alone, first]
        cases readHeader (used ++ [byte]) with
        | error code => exact .inl ⟨code, rfl, rfl⟩
        | ok found =>
            obtain ⟨type, expected, bounded⟩ := found
            right
            cases expected with
            | zero => exact .inr ⟨.boundary, ⟨type, []⟩, rfl, rfl⟩
            | succ expected =>
                exact .inl ⟨.payload type (expected + 1) [] bounded
                  (Nat.succ_pos _), rfl, rfl⟩

theorem advance_nil (phase : Phase) :
    phase.advance [] = .ok (phase, [], none) := by
  cases phase with
  | header used short =>
      simp only [Phase.advance, List.take_nil, List.drop_nil, List.append_nil,
        short, dite_true]
  | payload type expected used bounded short =>
      simp only [Phase.advance, takePayload, List.take_nil, List.drop_nil,
        List.append_nil, short, dite_true]

theorem decode_error {phase : Phase} {input : List UInt8} {code : String}
    (nonempty : input ≠ []) (refused : phase.advance input = .error code)
    (earlier : List Frame) : phase.decode input earlier = .error code := by
  rw [Phase.decode, dif_neg nonempty]
  split
  · rename_i other
    cases refused.symm.trans other
    rfl
  · rename_i other
    cases refused.symm.trans other

theorem decode_ok {phase next : Phase} {input rest : List UInt8}
    {frame : Option Frame} (nonempty : input ≠ [])
    (advanced : phase.advance input = .ok (next, rest, frame))
    {earlier : List Frame}
    (few : (earlier ++ frame.toList).length ≤ maxBatchFrames) :
    phase.decode input earlier =
      next.decode rest (earlier ++ frame.toList) := by
  rw [Phase.decode, dif_neg nonempty]
  split
  · rename_i other
    cases advanced.symm.trans other
  · rename_i other
    cases advanced.symm.trans other
    rw [if_neg (Nat.not_lt.mpr few)]

/-- A byte that completes no frame is read once more with what follows it. -/
theorem decode_of_advance {phase next : Phase} {byte : UInt8}
    {input : List UInt8} {earlier : List Frame}
    (first : phase.advance (byte :: input) = next.advance input)
    (few : earlier.length ≤ maxBatchFrames) :
    phase.decode (byte :: input) earlier = next.decode input earlier := by
  have fits : (earlier ++ (none : Option Frame).toList).length ≤
      maxBatchFrames := by simpa using few
  cases input with
  | nil =>
      rw [advance_nil] at first
      rw [decode_ok (List.cons_ne_nil _ _) first fits, Option.toList_none,
        List.append_nil]
  | cons other input =>
      rw [Phase.decode, dif_neg (List.cons_ne_nil _ _), Phase.decode,
        dif_neg (List.cons_ne_nil _ _), first]

/-- A chunk that completes no more frames than it may is read byte by byte; a
header that is refused loses them. -/
theorem decode_eq_read {phase : Phase} {input : List UInt8}
    {earlier : List Frame}
    (few : earlier.length + (phase.read input).1.length ≤ maxBatchFrames) :
    phase.decode input earlier =
      (phase.read input).2.map fun last =>
        (last, earlier ++ (phase.read input).1) := by
  induction input generalizing phase earlier with
  | nil =>
      rw [Phase.decode, dif_pos rfl]
      exact congrArg Except.ok (congrArg _ (List.append_nil earlier).symm)
  | cons byte input induction =>
      rcases advance_cons phase byte input with ⟨code, alone, first⟩ |
        ⟨next, alone, first⟩ | ⟨next, frame, alone, first⟩
      · rw [decode_error (List.cons_ne_nil _ _) first]
        simp only [Phase.read, alone]
        rfl
      · simp only [Phase.read, alone, Option.toList_none, List.nil_append]
          at few ⊢
        rw [decode_of_advance first (by omega), induction few]
      · simp only [Phase.read, alone, Option.toList_some,
          List.singleton_append, List.length_cons] at few ⊢
        have fits : (earlier ++ (some frame).toList).length ≤
            maxBatchFrames := by
          simp only [Option.toList_some, List.length_append,
            List.length_singleton]
          omega
        rw [decode_ok (List.cons_ne_nil _ _) first fits, induction (by
          simp only [Option.toList_some, List.length_append,
            List.length_singleton]
          omega)]
        simp only [Option.toList_some, List.append_assoc,
          List.singleton_append]

end AdapterIpc

namespace AdapterSupervisor

open AdapterIpc

/-! ## What is judged -/

/-- A frame is passed to `onFrame`, or a promise settles. -/
def Effect.isJudged : Effect → Bool
  | .onFrame _ | .readySettled _ | .completedSettled _ => true
  | _ => false

/-- A moment of a run as the adapter and the owner see it: a byte of the
output, with what `onFrame` does if it completes a frame, or another event. -/
inductive Moment where
  | byte (byte : UInt8) (react : Nat → Reaction)
  | other (event : Event)

def Event.moments : Event → List Moment
  | .stdoutData chunk react => chunk.map fun byte => .byte byte react
  | event => [.other event]

def Event.output : Event → List (List UInt8)
  | .stdoutData chunk _ => [chunk]
  | _ => []

/-- The output in its chunks. -/
def outputOf (events : List Event) : List (List UInt8) :=
  events.flatMap Event.output

/-- The bytes of the output and the other events, in their order. -/
def timeline (events : List Event) : List Moment :=
  events.flatMap Event.moments

/-- Chunks of at most a mebibyte that complete at most 64 frames each, and none
before a header that is refused. -/
def Segmented (phase : Phase) : List (List UInt8) → Prop
  | [] => True
  | chunk :: chunks => chunk.length ≤ maxInputChunkBytes ∧
      match phase.read chunk with
      | (frames, .ok next) =>
          frames.length ≤ maxBatchFrames ∧ Segmented next chunks
      | (frames, .error _) => frames = []

instance decideSegmented : ∀ phase chunks, Decidable (Segmented phase chunks)
  | _, [] => .isTrue trivial
  | phase, chunk :: chunks =>
      have : Decidable (match phase.read chunk with
          | (frames, .ok next) =>
              frames.length ≤ maxBatchFrames ∧ Segmented next chunks
          | (frames, .error _) => frames = []) :=
        match phase.read chunk with
        | (frames, .ok next) =>
            have := decideSegmented next chunks
            inferInstanceAs (Decidable (frames.length ≤ maxBatchFrames ∧
              Segmented next chunks))
        | (frames, .error _) => inferInstanceAs (Decidable (frames = []))
      inferInstanceAs (Decidable (chunk.length ≤ maxInputChunkBytes ∧ _))

namespace Supervisor

/-- The frames passed to `onFrame` and how the promises settle. -/
def judged (s : Supervisor) : List Effect :=
  s.log.filter Effect.isJudged

variable {s t : Supervisor}

/-- Neither promise is open, except that of a child that has been stopped and
has not closed. -/
structure Settled (s : Supervisor) : Prop where
  ready : s.readySettled = true
  ended : s.stoppedReason.isSome ∨
    s.doneSettled = true ∧ s.decoder.terminal = true

/-- Nothing that is judged happens from the first state to the second. -/
structure Rests (s t : Supervisor) : Prop where
  settled : t.Settled
  done : t.doneSettled = s.doneSettled
  reason : s.doneSettled = false → t.stoppedReason = s.stoppedReason
  judged : t.judged = s.judged

theorem Settled.rests (settled : s.Settled) : Rests s s :=
  ⟨settled, rfl, fun _ => rfl, rfl⟩

theorem Rests.trans {u : Supervisor} (first : Rests s t) (second : Rests t u) :
    Rests s u where
  settled := second.settled
  done := second.done.trans first.done
  reason undone :=
    (second.reason (first.done.trans undone)).trans (first.reason undone)
  judged := second.judged.trans first.judged

theorem judged_emit {effect : Effect} (unjudged : effect.isJudged = false) :
    (s.emit effect).judged = s.judged := by
  simp [Supervisor.judged, emit, unjudged]

theorem Settled.emit (settled : s.Settled) {effect : Effect}
    (unjudged : effect.isJudged = false) : Rests s (s.emit effect) :=
  ⟨⟨settled.ready, settled.ended⟩, rfl, fun _ => rfl, judged_emit unjudged⟩

theorem Settled.terminate (settled : s.Settled) (reason : String) :
    Rests s (s.terminate reason) := by
  unfold Supervisor.terminate
  split
  · exact settled.rests
  · rename_i going
    have done : s.doneSettled = true := by
      rcases settled.ended with stopped | ended
      · exact absurd stopped going
      · exact ended.1
    have ready := settled.ready
    refine ⟨⟨?_, ?_⟩, ?_, ?_, ?_⟩
    · simp [settleReady, Supervisor.emit, ready]
    · left
      simp [settleReady, Supervisor.emit, ready]
    · simp [settleReady, Supervisor.emit, ready]
    · intro undone
      rw [done] at undone
      cases undone
    · simp [settleReady, Supervisor.emit, ready, Supervisor.judged,
        Effect.isJudged]

/-- Mode, timers, counters and what is not judged may change. -/
theorem Settled.same (settled : s.Settled)
    (ready : t.readySettled = s.readySettled)
    (reason : t.stoppedReason = s.stoppedReason)
    (done : t.doneSettled = s.doneSettled) (decoder : t.decoder = s.decoder)
    (judged : t.judged = s.judged) : Rests s t where
  settled := by
    constructor
    · rw [ready]
      exact settled.ready
    · rw [reason, done, decoder]
      exact settled.ended
  done := done
  reason _ := reason
  judged := judged

theorem Settled.writeFrame (settled : s.Settled) (type : FrameType)
    (payload : List UInt8) (throws : Bool) :
    Rests s (s.writeFrame type payload throws) := by
  unfold Supervisor.writeFrame
  split
  · exact settled.emit rfl
  · split
    · exact settled.emit rfl
    · split
      · exact settled.emit rfl
      · split
        · exact settled.emit rfl
        · exact settled.same rfl rfl rfl rfl (judged_emit rfl)

theorem Settled.call (settled : s.Settled) (call : ApiCall) :
    Rests s (s.call call) := by
  cases call with
  | sendBinary bytes throws =>
      simp only [Supervisor.call, Supervisor.sendBinary]
      split
      · exact settled.emit rfl
      · exact settled.writeFrame _ _ _
  | sendText text throws => exact settled.writeFrame _ _ _
  | «end» throws =>
      simp only [Supervisor.call, Supervisor.end]
      split
      · exact settled.rests
      · have ending : Rests s
            ({ s with mode := .ending }.emit .ending) :=
          settled.same rfl rfl rfl rfl (judged_emit rfl)
        split
        · exact ending
        · exact ending.trans (ending.settled.emit rfl)
  | cancel throws =>
      simp only [Supervisor.call, Supervisor.cancel]
      split
      · exact settled.rests
      · split
        · have written : Rests s (s.emit (.write .CANCEL [])) :=
            settled.emit rfl
          exact written.trans (written.settled.terminate _)
        · exact settled.terminate _
  | abort =>
      simp only [Supervisor.call, Supervisor.abort]
      split
      · have handled : Rests s { s with abortHandler := false } :=
          settled.same rfl rfl rfl rfl rfl
        exact handled.trans (handled.settled.terminate _)
      · exact settled.rests

/-- Nothing is received any more. -/
theorem Settled.stdoutData (settled : s.Settled) (parse : String → Option Json)
    (chunk : List UInt8) (react : Nat → Reaction) :
    Rests s (s.stdoutData parse chunk react) := by
  unfold Supervisor.stdoutData
  split
  · exact settled.rests
  · rename_i going
    have counted : Rests s { s with
        outputBytes := s.outputBytes + chunk.length } :=
      settled.same rfl rfl rfl rfl rfl
    dsimp only
    split
    · exact counted.trans (counted.settled.terminate _)
    · have terminal : s.decoder.terminal = true := by
        rcases settled.ended with stopped | ended
        · exact absurd stopped going
        · exact ended.2
      have refused : s.decoder.push chunk =
          ({ s.decoder with terminal := true }, .error "decoder_terminal") := by
        rw [Decoder.push]
        simp only [terminal, if_true]
      rw [refused]
      simp only
      have pushed : Rests s { s with
          outputBytes := s.outputBytes + chunk.length
          decoder := { s.decoder with terminal := true } } := by
        refine ⟨⟨settled.ready, ?_⟩, rfl, fun _ => rfl, rfl⟩
        rcases settled.ended with stopped | ended
        · exact .inl stopped
        · exact .inr ⟨ended.1, rfl⟩
      exact pushed.trans (pushed.settled.terminate _)

theorem Settled.apply (settled : s.Settled) (parse : String → Option Json)
    {event : Event} (other : ∀ code, event ≠ .close code) :
    Rests s (s.apply parse event) := by
  cases event with
  | stdoutData chunk react => exact settled.stdoutData parse chunk react
  | stderrData length =>
      have counted : Rests s { s with
          stderrBytes := s.stderrBytes + length } :=
        settled.same rfl rfl rfl rfl rfl
      simp only [Supervisor.apply, Supervisor.stderrData]
      split
      · exact counted.trans (counted.settled.terminate _)
      · exact counted
  | stdinError =>
      simp only [Supervisor.apply, Supervisor.stdinError]
      split
      · exact settled.terminate _
      · exact settled.rests
  | stdoutError => exact settled.terminate _
  | stderrError => exact settled.terminate _
  | childError => exact settled.terminate _
  | close code => exact absurd rfl (other code)
  | startupTimeout =>
      simp only [Supervisor.apply]
      split
      · have cleared : Rests s { s with startupTimer := false } :=
          settled.same rfl rfl rfl rfl rfl
        exact cleared.trans (cleared.settled.terminate _)
      · exact settled.rests
  | lifetimeTimeout =>
      simp only [Supervisor.apply]
      split
      · have cleared : Rests s { s with lifetimeTimer := false } :=
          settled.same rfl rfl rfl rfl rfl
        exact cleared.trans (cleared.settled.terminate _)
      · exact settled.rests
  | killTimeout =>
      simp only [Supervisor.apply]
      split
      · exact settled.same rfl rfl rfl rfl (judged_emit rfl)
      · exact settled.rests
  | written length failed =>
      exact settled.same rfl rfl rfl rfl (judged_emit rfl)
  | endWritten failed =>
      simp only [Supervisor.apply]
      split
      · exact settled.rests
      · exact settled.emit rfl
  | api call => exact settled.call call

/-- The child closes: what it has been stopped for is what `completed` is
rejected with. -/
theorem Settled.onClose (settled : s.Settled) (code : Option Int) :
    (s.onClose code).Settled ∧ (s.onClose code).doneSettled = true ∧
      (s.onClose code).judged = s.judged ++
        if s.doneSettled then [] else [.completedSettled s.stoppedReason] := by
  unfold Supervisor.onClose
  dsimp only
  split
  · rename_i done
    exact ⟨⟨settled.ready, settled.ended⟩, done, by simp [Supervisor.judged]⟩
  · rename_i undone
    have stopped : s.stoppedReason.isSome := by
      rcases settled.ended with stopped | ended
      · exact stopped
      · exact absurd ended.1 undone
    obtain ⟨reason, same⟩ := Option.isSome_iff_exists.mp stopped
    have ready := settled.ready
    refine ⟨⟨?_, ?_⟩, ?_, ?_⟩
    · simp [settleReady, Supervisor.emit, ready]
    · left
      simp [settleReady, Supervisor.emit, ready, same]
    · simp [settleReady, Supervisor.emit, ready]
    · simp [settleReady, Supervisor.emit, ready, verdict, same,
        Supervisor.judged, Effect.isJudged]

/-! ## What the decoder holds -/

/-- The same supervisor after other bytes. -/
def reading (s : Supervisor) (outputBytes : Nat) (decoder : Decoder) :
    Supervisor :=
  { s with outputBytes := outputBytes, decoder := decoder }

section Reading

variable (s : Supervisor) (n : Nat) (d : Decoder)

theorem reading_self : s.reading s.outputBytes s.decoder = s :=
  rfl

theorem settleReady_reading (failure : Option String) :
    (s.reading n d).settleReady failure =
      (s.settleReady failure).reading n d := by
  cases ready : s.readySettled <;>
    simp [settleReady, reading, Supervisor.emit, ready]

theorem terminate_reading (reason : String) :
    (s.reading n d).terminate reason = (s.terminate reason).reading n d := by
  cases stopped : s.stoppedReason with
  | some other => simp [Supervisor.terminate, reading, stopped]
  | none =>
      cases ready : s.readySettled <;>
        simp [Supervisor.terminate, settleReady, reading, Supervisor.emit,
          stopped, ready]

theorem writeFrame_reading (type : FrameType) (payload : List UInt8)
    (throws : Bool) :
    (s.reading n d).writeFrame type payload throws =
      (s.writeFrame type payload throws).reading n d := by
  have same : (s.reading n d).mode = s.mode ∧
      (s.reading n d).pendingWrites = s.pendingWrites := ⟨rfl, rfl⟩
  simp only [Supervisor.writeFrame, same]
  by_cases writable : s.mode ≠ .running
  · rw [if_pos writable, if_pos writable]
    rfl
  · rw [if_neg writable, if_neg writable]
    cases encodeAdapterIpcFrame type payload with
    | error code => rfl
    | ok wire =>
        dsimp only
        by_cases full : s.pendingWrites + wire.length > maxPendingWriteBytes
        · rw [if_pos full, if_pos full]
          rfl
        · rw [if_neg full, if_neg full]
          cases throws <;> rfl

theorem call_reading (call : ApiCall) :
    (s.reading n d).call call = (s.call call).reading n d := by
  cases call with
  | sendBinary bytes throws =>
      simp only [Supervisor.call, Supervisor.sendBinary]
      by_cases large : bytes.length > maxFrameBytes
      · rw [if_pos large, if_pos large]
        rfl
      · rw [if_neg large, if_neg large]
        exact writeFrame_reading s n d _ _ _
  | sendText text throws => exact writeFrame_reading s n d _ _ _
  | «end» throws =>
      have same : (s.reading n d).mode = s.mode := rfl
      simp only [Supervisor.call, Supervisor.end, same]
      by_cases writable : s.mode ≠ .running
      · rw [if_pos writable, if_pos writable]
      · rw [if_neg writable, if_neg writable]
        cases throws <;> rfl
  | cancel throws =>
      have same : (s.reading n d).mode = s.mode ∧
          (s.reading n d).stoppedReason = s.stoppedReason := ⟨rfl, rfl⟩
      simp only [Supervisor.call, Supervisor.cancel, same]
      by_cases ended : s.mode = .closed ∨ s.stoppedReason.isSome
      · rw [if_pos ended, if_pos ended]
      · rw [if_neg ended, if_neg ended]
        by_cases writable : s.mode = .running ∧ ¬throws
        · rw [if_pos writable, if_pos writable]
          exact terminate_reading (s.emit (.write .CANCEL [])) n d _
        · rw [if_neg writable, if_neg writable]
          exact terminate_reading s n d _
  | abort =>
      have same : (s.reading n d).abortHandler = s.abortHandler := rfl
      simp only [Supervisor.call, Supervisor.abort, same]
      cases s.abortHandler with
      | true =>
          exact terminate_reading { s with abortHandler := false } n d _
      | false => rfl

theorem calls_reading (calls : List ApiCall) :
    calls.foldl Supervisor.call (s.reading n d) =
      (calls.foldl Supervisor.call s).reading n d := by
  induction calls generalizing s with
  | nil => rfl
  | cons call calls induction =>
      rw [List.foldl_cons, call_reading, induction, List.foldl_cons]

theorem deliver_reading (frame : Frame) (reaction : Reaction) :
    (s.reading n d).deliver frame reaction =
      (s.deliver frame reaction).map (reading · n d) id := by
  rw [deliver, deliver]
  exact congrArg (·, _) (calls_reading (s.emit (.onFrame frame)) n d _)

theorem receive_reading (parse : String → Option Json) (frame : Frame)
    (react : Nat → Reaction) :
    (s.reading n d).receive parse frame react =
      (s.receive parse frame react).map (reading · n d) id := by
  have counted : ({ s.reading n d with
      framesSeen := (s.reading n d).framesSeen + 1 } : Supervisor).emit
        (.received frame) = (({ s with
      framesSeen := s.framesSeen + 1 } : Supervisor).emit
        (.received frame)).reading n d := rfl
  unfold receive
  rw [counted]
  generalize ({ s with framesSeen := s.framesSeen + 1 } : Supervisor).emit
    (.received frame) = u
  have same : (u.reading n d).framesSeen = u.framesSeen ∧
      (u.reading n d).mode = u.mode := ⟨rfl, rfl⟩
  simp only [same]
  by_cases many : u.framesSeen > maxFrameCount
  · simp only [if_pos many]
    rfl
  simp only [if_neg many]
  by_cases starting : u.mode = .starting
  · simp only [if_pos starting]
    by_cases ready : frame.type ≠ .READY
    · simp only [if_pos ready]
      rfl
    simp only [if_neg ready]
    cases decodeAdapterIpcJson parse frame .READY with
    | error code => rfl
    | ok fields =>
        dsimp only
        cases isHandshake fields with
        | false => rfl
        | true => exact congrArg (·, none) (settleReady_reading
            { u with mode := .running, startupTimer := false } n d none)
  simp only [if_neg starting]
  by_cases stopping : u.mode = .stopping ∨ u.mode = .acknowledged
  · simp only [if_pos stopping]
    rfl
  simp only [if_neg stopping]
  by_cases application : frame.type = .BINARY ∨ frame.type = .TEXT
  · simp only [if_pos application]
    by_cases late : u.mode ≠ .running ∧ u.mode ≠ .ending
    · simp only [if_pos late]
      rfl
    simp only [if_neg late]
    by_cases text : frame.type = .TEXT
    · simp only [if_pos text]
      cases decodeAdapterIpcText frame.payload with
      | error code => rfl
      | ok text => exact deliver_reading _ n d frame _
    · simp only [if_neg text]
      exact deliver_reading _ n d frame _
  simp only [if_neg application]
  by_cases echoed : frame.type = .END ∧ frame.payload = [] ∧ u.mode = .ending
  · simp only [if_pos echoed]
    rfl
  · simp only [if_neg echoed]
    rfl

end Reading

/-! ## Before the child closes -/

/-- The child has not closed; once it is stopped, it only has to close. -/
structure Going (s : Supervisor) : Prop where
  undone : s.doneSettled = false
  stopped : s.stoppedReason.isSome → s.readySettled = true ∧ s.mode = .stopping

/-- The supervisor goes on and has read nothing. -/
structure Goes (s t : Supervisor) : Prop where
  going : t.Going
  decoder : t.decoder = s.decoder
  bytes : t.outputBytes = s.outputBytes

theorem Going.settled (going : s.Going) (stopped : s.stoppedReason.isSome) :
    s.Settled :=
  ⟨(going.stopped stopped).1, .inl stopped⟩

theorem Going.reading (going : s.Going) (n : Nat) (d : Decoder) :
    (s.reading n d).Going :=
  ⟨going.undone, going.stopped⟩

theorem Going.unstopped (going : s.Going) (mode : s.mode ≠ .stopping) :
    s.stoppedReason = none := by
  cases stopped : s.stoppedReason with
  | none => rfl
  | some reason =>
      have isSome : s.stoppedReason.isSome := by rw [stopped]; rfl
      exact absurd (going.stopped isSome).2 mode

theorem Goes.trans {u : Supervisor} (first : Goes s t) (second : Goes t u) :
    Goes s u :=
  ⟨second.going, second.decoder.trans first.decoder,
    second.bytes.trans first.bytes⟩

/-- Timers, counters and the log may change. -/
theorem Going.same (going : s.Going) (done : t.doneSettled = s.doneSettled)
    (reason : t.stoppedReason = s.stoppedReason) (mode : t.mode = s.mode)
    (ready : t.readySettled = s.readySettled) (decoder : t.decoder = s.decoder)
    (bytes : t.outputBytes = s.outputBytes) : Goes s t where
  going := by
    constructor
    · rw [done]
      exact going.undone
    · rw [reason, mode, ready]
      exact going.stopped
  decoder := decoder
  bytes := bytes

/-- Before it is stopped, so may the mode. -/
theorem Going.free (going : s.Going) (unstopped : s.stoppedReason = none)
    (done : t.doneSettled = s.doneSettled)
    (reason : t.stoppedReason = s.stoppedReason)
    (decoder : t.decoder = s.decoder) (bytes : t.outputBytes = s.outputBytes) :
    Goes s t where
  going := by
    constructor
    · rw [done]
      exact going.undone
    · rw [reason, unstopped]
      intro stopped
      cases stopped
  decoder := decoder
  bytes := bytes

theorem terminate_stopped (s : Supervisor) (reason : String) :
    (s.terminate reason).stoppedReason.isSome := by
  cases stopped : s.stoppedReason with
  | some other => simp [Supervisor.terminate, stopped]
  | none =>
      cases ready : s.readySettled <;>
        simp [Supervisor.terminate, settleReady, Supervisor.emit, stopped,
          ready]

theorem Going.terminate (going : s.Going) (reason : String) :
    Goes s (s.terminate reason) := by
  have undone := going.undone
  cases stopped : s.stoppedReason with
  | some other =>
      have same : s.terminate reason = s := by
        simp [Supervisor.terminate, stopped]
      rw [same]
      exact ⟨going, rfl, rfl⟩
  | none =>
      refine ⟨⟨?_, fun _ => ⟨?_, ?_⟩⟩, ?_, ?_⟩ <;>
        cases ready : s.readySettled <;>
          simp [Supervisor.terminate, settleReady, Supervisor.emit, stopped,
            ready, undone]

theorem Going.writeFrame (going : s.Going) (type : FrameType)
    (payload : List UInt8) (throws : Bool) :
    Goes s (s.writeFrame type payload throws) := by
  unfold Supervisor.writeFrame
  split
  · exact going.same rfl rfl rfl rfl rfl rfl
  · split
    · exact going.same rfl rfl rfl rfl rfl rfl
    · split
      · exact going.same rfl rfl rfl rfl rfl rfl
      · split
        · exact going.same rfl rfl rfl rfl rfl rfl
        · exact going.same rfl rfl rfl rfl rfl rfl

theorem Going.call (going : s.Going) (call : ApiCall) :
    Goes s (s.call call) := by
  cases call with
  | sendBinary bytes throws =>
      simp only [Supervisor.call, Supervisor.sendBinary]
      split
      · exact going.same rfl rfl rfl rfl rfl rfl
      · exact going.writeFrame _ _ _
  | sendText text throws => exact going.writeFrame _ _ _
  | «end» throws =>
      simp only [Supervisor.call, Supervisor.end]
      split
      · exact ⟨going, rfl, rfl⟩
      · rename_i running
        have unstopped : s.stoppedReason = none := by
          apply going.unstopped
          rw [not_not.mp running]
          exact Mode.noConfusion
        split
        · exact going.free unstopped rfl rfl rfl rfl
        · exact going.free unstopped rfl rfl rfl rfl
  | cancel throws =>
      simp only [Supervisor.call, Supervisor.cancel]
      split
      · exact ⟨going, rfl, rfl⟩
      · split
        · have written : Goes s (s.emit (.write .CANCEL [])) :=
            going.same rfl rfl rfl rfl rfl rfl
          exact written.trans (written.going.terminate _)
        · exact going.terminate _
  | abort =>
      simp only [Supervisor.call, Supervisor.abort]
      split
      · have handled : Goes s { s with abortHandler := false } :=
          going.same rfl rfl rfl rfl rfl rfl
        exact handled.trans (handled.going.terminate _)
      · exact ⟨going, rfl, rfl⟩

theorem Going.calls (going : s.Going) (calls : List ApiCall) :
    Goes s (calls.foldl Supervisor.call s) := by
  induction calls generalizing s with
  | nil => exact ⟨going, rfl, rfl⟩
  | cons call calls induction =>
      have called := going.call call
      exact called.trans (induction called.going)

theorem Going.deliver (going : s.Going) (frame : Frame) (reaction : Reaction) :
    Goes s (s.deliver frame reaction).1 := by
  have passed : Goes s (s.emit (.onFrame frame)) :=
    going.same rfl rfl rfl rfl rfl rfl
  exact passed.trans (passed.going.calls _)

theorem Going.receive (going : s.Going) (parse : String → Option Json)
    (frame : Frame) (react : Nat → Reaction) :
    Goes s (s.receive parse frame react).1 := by
  have counted : Goes s (({ s with
      framesSeen := s.framesSeen + 1 } : Supervisor).emit (.received frame)) :=
    going.same rfl rfl rfl rfl rfl rfl
  refine counted.trans ?_
  unfold Supervisor.receive
  generalize ({ s with framesSeen := s.framesSeen + 1 } : Supervisor).emit
    (.received frame) = u at counted ⊢
  have idle : Goes u u := ⟨counted.going, rfl, rfl⟩
  dsimp only
  split
  · exact idle
  split
  · rename_i starting
    have unstopped : u.stoppedReason = none := by
      apply counted.going.unstopped
      rw [starting]
      exact Mode.noConfusion
    split
    · exact idle
    split
    · exact idle
    split
    · refine counted.going.free unstopped ?_ ?_ ?_ ?_ <;>
        simp only [settleReady] <;> split <;> rfl
    · exact idle
  split
  · exact idle
  split
  · split
    · exact idle
    split
    · split
      · exact idle
      · exact counted.going.deliver _ _
    · exact counted.going.deliver _ _
  split
  · rename_i echoed
    have unstopped : u.stoppedReason = none := by
      apply counted.going.unstopped
      rw [echoed.2.2]
      exact Mode.noConfusion
    exact counted.going.free unstopped rfl rfl rfl rfl
  · exact idle

theorem Going.receiveAll (going : s.Going) (parse : String → Option Json)
    (react : Nat → Reaction) (frames : List Frame) :
    Goes s (receiveAll parse react frames s).1 := by
  induction frames generalizing s with
  | nil => exact ⟨going, rfl, rfl⟩
  | cons frame frames induction =>
      have received := going.receive parse frame react
      simp only [Supervisor.receiveAll]
      cases outcome : s.receive parse frame react with
      | mk later failure =>
          rw [outcome] at received
          cases failure with
          | none => exact received.trans (induction received.going)
          | some code => exact received

theorem Going.apply (going : s.Going) (parse : String → Option Json)
    {event : Event} (open' : ∀ code, event ≠ .close code)
    (silent : event.output = []) : Goes s (s.apply parse event) := by
  cases event with
  | stdoutData chunk react => cases silent
  | stderrData length =>
      have counted : Goes s { s with stderrBytes := s.stderrBytes + length } :=
        going.same rfl rfl rfl rfl rfl rfl
      simp only [Supervisor.apply, Supervisor.stderrData]
      split
      · exact counted.trans (counted.going.terminate _)
      · exact counted
  | stdinError =>
      simp only [Supervisor.apply, Supervisor.stdinError]
      split
      · exact going.terminate _
      · exact ⟨going, rfl, rfl⟩
  | stdoutError => exact going.terminate _
  | stderrError => exact going.terminate _
  | childError => exact going.terminate _
  | close code => exact absurd rfl (open' code)
  | startupTimeout =>
      simp only [Supervisor.apply]
      split
      · have cleared : Goes s { s with startupTimer := false } :=
          going.same rfl rfl rfl rfl rfl rfl
        exact cleared.trans (cleared.going.terminate _)
      · exact ⟨going, rfl, rfl⟩
  | lifetimeTimeout =>
      simp only [Supervisor.apply]
      split
      · have cleared : Goes s { s with lifetimeTimer := false } :=
          going.same rfl rfl rfl rfl rfl rfl
        exact cleared.trans (cleared.going.terminate _)
      · exact ⟨going, rfl, rfl⟩
  | killTimeout =>
      simp only [Supervisor.apply]
      split
      · exact going.same rfl rfl rfl rfl rfl rfl
      · exact ⟨going, rfl, rfl⟩
  | written length failed => exact going.same rfl rfl rfl rfl rfl rfl
  | endWritten failed =>
      simp only [Supervisor.apply]
      split
      · exact ⟨going, rfl, rfl⟩
      · exact going.same rfl rfl rfl rfl rfl rfl
  | api call => exact going.call call

/-- A child that closes before it is stopped settles both promises. -/
theorem Going.onClose (going : s.Going) (code : Option Int) :
    (s.onClose code).Settled := by
  cases stopped : s.stoppedReason with
  | some reason =>
      exact ((going.settled (by rw [stopped]; rfl)).onClose code).1
  | none =>
      have undone := going.undone
      have terminal : s.decoder.finish.1.terminal = true := by
        unfold Decoder.finish
        split_ifs with ended
        · exact ended
        · rfl
        · rfl
      refine ⟨?_, .inr ⟨?_, ?_⟩⟩ <;>
        cases ready : s.readySettled <;>
          simp [Supervisor.onClose, settleReady, Supervisor.emit, stopped,
            ready, undone, terminal]

/-! ## Chunks and bytes -/

/-- A failure of `receive` stops the child. -/
def concluded : Supervisor × Option String → Supervisor
  | (s, some code) => s.terminate code
  | (s, none) => s

/-- The supervisor reads: nothing has stopped it, and the decoder holds the
beginning of a frame. -/
structure Reading (s : Supervisor) (phase : Phase) : Prop where
  going : s.Going
  unstopped : s.stoppedReason = none
  decoder : s.decoder = ⟨phase, false⟩

/-- Two supervisors that are judged alike from now on. -/
inductive Alike (s t : Supervisor) : Prop where
  | same (eq : s = t)
  | settled (first : s.Settled) (second : t.Settled)
      (done : s.doneSettled = t.doneSettled)
      (reason : s.doneSettled = false → s.stoppedReason = t.stoppedReason)
      (judged : s.judged = t.judged)

theorem Alike.judged (alike : Alike s t) : s.judged = t.judged := by
  cases alike with
  | same eq => rw [eq]
  | settled _ _ _ _ judged => exact judged

theorem Alike.trans {u : Supervisor} (first : Alike s t)
    (second : Alike t u) : Alike s u := by
  cases first with
  | same eq =>
      rw [eq]
      exact second
  | settled one two done reason judged =>
      cases second with
      | same eq =>
          rw [← eq]
          exact .settled one two done reason judged
      | settled _ three done' reason' judged' =>
          exact .settled one three (done.trans done')
            (fun undone => (reason undone).trans
              (reason' (done.symm.trans undone)))
            (judged.trans judged')

theorem Alike.symm (alike : Alike s t) : Alike t s := by
  cases alike with
  | same eq => exact .same eq.symm
  | settled one two done reason judged =>
      exact .settled two one done.symm
        (fun undone => (reason (done.trans undone)).symm) judged.symm

theorem Rests.alike (settled : s.Settled) (rests : Rests s t) : Alike s t :=
  .settled settled rests.settled rests.done.symm
    (fun undone => (rests.reason undone).symm) rests.judged.symm

/-- What a supervisor that has been stopped has read makes no difference. -/
theorem Going.alike (going : s.Going) (stopped : s.stoppedReason.isSome)
    (n m : Nat) (d e : Decoder) : Alike (s.reading n d) (s.reading m e) :=
  .settled ((going.reading n d).settled stopped)
    ((going.reading m e).settled stopped) rfl (fun _ => rfl) rfl

variable {parse : String → Option Json} {phase : Phase}
  {react : Nat → Reaction}

theorem stdoutData_stopped (stopped : s.stoppedReason.isSome)
    (chunk : List UInt8) (react : Nat → Reaction) :
    s.stdoutData parse chunk react = s :=
  if_pos stopped

/-- A chunk within the limits is received as its frames, or refused. -/
theorem Reading.stdoutData (reads : s.Reading phase) {chunk : List UInt8}
    (short : chunk.length ≤ maxInputChunkBytes)
    (within : s.outputBytes + chunk.length ≤ maxWireBytes)
    (few : (phase.read chunk).1.length ≤ maxBatchFrames) :
    s.stdoutData parse chunk react =
      match (phase.read chunk).2 with
      | .error code => (s.reading (s.outputBytes + chunk.length)
          ⟨phase, true⟩).terminate code
      | .ok next => concluded (receiveAll parse react (phase.read chunk).1
          (s.reading (s.outputBytes + chunk.length) ⟨next, false⟩)) := by
  have decoded := decode_eq_read (show ([] : List Frame).length +
    (phase.read chunk).1.length ≤ maxBatchFrames by simpa using few)
  have pushed : s.decoder.push chunk =
      match (phase.read chunk).2 with
      | .error code => (⟨phase, true⟩, .error code)
      | .ok next => (⟨next, false⟩, .ok (phase.read chunk).1) := by
    rw [reads.decoder, Decoder.push]
    simp only [Bool.false_eq_true, if_false, if_neg (Nat.not_lt.mpr short),
      decoded]
    cases (phase.read chunk).2 <;> rfl
  have unstopped : ¬s.stoppedReason.isSome = true := by
    rw [reads.unstopped]
    exact Bool.false_ne_true
  rw [Supervisor.stdoutData, if_neg unstopped]
  simp only [if_neg (Nat.not_lt.mpr within), pushed]
  cases (phase.read chunk).2 with
  | error code => rfl
  | ok next =>
      change (match receiveAll parse react (phase.read chunk).1
          (s.reading (s.outputBytes + chunk.length) ⟨next, false⟩) with
        | (later, some code) => later.terminate code
        | (later, none) => later) =
          concluded (receiveAll parse react (phase.read chunk).1
            (s.reading (s.outputBytes + chunk.length) ⟨next, false⟩))
      cases receiveAll parse react (phase.read chunk).1
          (s.reading (s.outputBytes + chunk.length) ⟨next, false⟩) with
      | mk later failure => cases failure <;> rfl

/-- Frames that follow a stop in their chunk are not passed on. -/
theorem Going.receiveAll_stopped (going : s.Going)
    (stopped : s.stoppedReason.isSome) (parse : String → Option Json)
    (react : Nat → Reaction) (frames : List Frame) :
    Rests s (concluded (Supervisor.receiveAll parse react frames s)) := by
  have settled := going.settled stopped
  cases frames with
  | nil => exact settled.rests
  | cons frame frames =>
      have mode := (going.stopped stopped).2
      obtain ⟨later, code, received, rests⟩ : ∃ later code,
          s.receive parse frame react = (later, some code) ∧ Rests s later := by
        have counted : Rests s (({ s with
            framesSeen := s.framesSeen + 1 } : Supervisor).emit
              (.received frame)) :=
          settled.same rfl rfl rfl rfl (judged_emit rfl)
        have still : (({ s with
            framesSeen := s.framesSeen + 1 } : Supervisor).emit
              (.received frame)).mode = .stopping := mode
        unfold Supervisor.receive
        generalize ({ s with framesSeen := s.framesSeen + 1 } :
          Supervisor).emit (.received frame) = u at counted still ⊢
        by_cases many : u.framesSeen > maxFrameCount
        · exact ⟨u, _, if_pos many, counted⟩
        · refine ⟨u, "unexpected_terminal_frame", ?_, counted⟩
          simp [many, still]
      simp only [Supervisor.receiveAll, received, concluded]
      exact rests.trans (rests.settled.terminate code)

theorem Goes.concluded {outcome : Supervisor × Option String}
    (goes : Goes s outcome.1) : Goes s (Supervisor.concluded outcome) := by
  obtain ⟨later, failure⟩ := outcome
  cases failure with
  | none => exact goes
  | some code => exact goes.trans (goes.going.terminate code)

/-- The first byte of a chunk may come alone. -/
theorem Reading.stdoutData_cons (reads : s.Reading phase) {byte : UInt8}
    {rest : List UInt8} (short : (byte :: rest).length ≤ maxInputChunkBytes)
    (within : s.outputBytes + (byte :: rest).length ≤ maxWireBytes)
    (few : (phase.read (byte :: rest)).1.length ≤ maxBatchFrames)
    (whole : ∀ code, (phase.read (byte :: rest)).2 = .error code →
      (phase.read (byte :: rest)).1 = []) :
    Alike (s.stdoutData parse (byte :: rest) react)
      ((s.stdoutData parse [byte] react).stdoutData parse rest react) := by
  have going := reads.going
  have length : (byte :: rest).length = 1 + rest.length := by
    rw [List.length_cons]
    omega
  rw [length] at short within
  rw [reads.stdoutData (by omega) (by omega) few]
  rcases advance_cons phase byte rest with ⟨code, alone, _⟩ |
    ⟨next, alone, _⟩ | ⟨next, frame, alone, _⟩
  · -- The byte completes a header that is refused.
    have one : phase.read [byte] = ([], .error code) := by
      simp only [Phase.read, alone]
    have all : phase.read (byte :: rest) = ([], .error code) := by
      simp only [Phase.read, alone]
    rw [reads.stdoutData (by simp; omega) (by simp; omega)
      (by rw [one]; exact Nat.zero_le _), one, all]
    simp only
    rw [stdoutData_stopped (terminate_stopped _ _), terminate_reading,
      terminate_reading]
    exact (going.terminate code).going.alike (terminate_stopped _ _) _ _ _ _
  · -- The byte is held.
    have one : phase.read [byte] = ([], .ok next) := by
      simp only [Phase.read, alone, Option.toList_none, List.append_nil]
    have all : phase.read (byte :: rest) = next.read rest := by
      simp only [Phase.read, alone, Option.toList_none, List.nil_append]
    rw [all] at few ⊢
    have first : s.stdoutData parse [byte] react =
        s.reading (s.outputBytes + 1) ⟨next, false⟩ := by
      rw [reads.stdoutData (by simp; omega) (by simp; omega)
        (by rw [one]; exact Nat.zero_le _), one]
      rfl
    have held : (s.reading (s.outputBytes + 1) ⟨next, false⟩).Reading next :=
      ⟨going.reading _ _, reads.unstopped, rfl⟩
    have count : s.outputBytes + (byte :: rest).length =
        s.outputBytes + 1 + rest.length := by
      rw [length]
      omega
    rw [first, held.stdoutData (by omega) (by
      change s.outputBytes + 1 + rest.length ≤ _
      omega) few, count]
    cases (next.read rest).2 with
    | error code =>
        simp only
        rw [terminate_reading, terminate_reading, terminate_reading]
        exact (going.terminate code).going.alike (terminate_stopped _ _)
          _ _ _ _
    | ok last => exact .same rfl
  · -- The byte completes a frame.
    have one : phase.read [byte] = ([frame], .ok next) := by
      simp only [Phase.read, alone, Option.toList_some, List.append_nil]
    have all : phase.read (byte :: rest) =
        (frame :: (next.read rest).1, (next.read rest).2) := by
      simp only [Phase.read, alone, Option.toList_some, List.singleton_append]
    rw [all] at few whole ⊢
    obtain ⟨last, ends⟩ : ∃ last, (next.read rest).2 = .ok last := by
      cases ends : (next.read rest).2 with
      | ok last => exact ⟨last, rfl⟩
      | error code => exact absurd (whole code ends) (List.cons_ne_nil _ _)
    have first : s.stdoutData parse [byte] react =
        concluded ((s.receive parse frame react).map
          (reading · (s.outputBytes + 1) ⟨next, false⟩) id) := by
      rw [reads.stdoutData (by simp; omega) (by simp; omega)
        (by rw [one]; exact Nat.succ_le_succ (Nat.zero_le _)), one]
      simp only [receiveAll, receive_reading, List.length_singleton]
      cases s.receive parse frame react with
      | mk mid failure => cases failure <;> rfl
    have goes := going.receive parse frame react
    rw [first, ends]
    simp only [receiveAll, receive_reading]
    cases received : s.receive parse frame react with
    | mk mid failure =>
        rw [received] at goes
        cases failure with
        | some code =>
            simp only [Prod.map, concluded, id]
            rw [stdoutData_stopped (terminate_stopped _ _), terminate_reading,
              terminate_reading]
            exact (goes.going.terminate code).going.alike
              (terminate_stopped _ _) _ _ _ _
        | none =>
            change Alike (concluded (receiveAll parse react (next.read rest).1
                (mid.reading (s.outputBytes + (byte :: rest).length)
                  ⟨last, false⟩)))
              ((mid.reading (s.outputBytes + 1) ⟨next, false⟩).stdoutData
                parse rest react)
            cases stopped : mid.stoppedReason with
            | some reason =>
                have isSome : (mid.reading (s.outputBytes + 1)
                    ⟨next, false⟩).stoppedReason.isSome := by
                  change mid.stoppedReason.isSome
                  rw [stopped]
                  rfl
                rw [stdoutData_stopped isSome]
                have halted := goes.going.reading
                  (s.outputBytes + (byte :: rest).length) ⟨last, false⟩
                exact ((halted.receiveAll_stopped isSome parse react _).alike
                  (halted.settled isSome)).symm.trans
                    (goes.going.alike isSome _ _ _ _)
            | none =>
                have held : (mid.reading (s.outputBytes + 1)
                    ⟨next, false⟩).Reading next :=
                  ⟨goes.going.reading _ _, stopped, rfl⟩
                have count : s.outputBytes + (byte :: rest).length =
                    s.outputBytes + 1 + rest.length := by
                  rw [length]
                  omega
                simp only [List.length_cons] at few
                rw [held.stdoutData (by omega) (by
                  change s.outputBytes + 1 + rest.length ≤ _
                  omega) (by omega), ends, count]
                exact .same rfl

/-- Nothing more is read, or the decoder goes on. -/
theorem Reading.stdoutData_next (reads : s.Reading phase) {chunk : List UInt8}
    (short : chunk.length ≤ maxInputChunkBytes)
    (within : s.outputBytes + chunk.length ≤ maxWireBytes)
    (few : (phase.read chunk).1.length ≤ maxBatchFrames) :
    (s.stdoutData parse chunk react).Settled ∨
      ∃ next, (phase.read chunk).2 = .ok next ∧
        (s.stdoutData parse chunk react).Reading next ∧
        (s.stdoutData parse chunk react).outputBytes =
          s.outputBytes + chunk.length := by
  have going := reads.going
  rw [reads.stdoutData short within few]
  cases (phase.read chunk).2 with
  | error code =>
      left
      exact ((going.reading _ _).terminate code).going.settled
        (terminate_stopped _ _)
  | ok next =>
      simp only
      have start := going.reading (s.outputBytes + chunk.length)
        ⟨next, false⟩
      have goes := (start.receiveAll parse react (phase.read chunk).1).concluded
      cases stopped : (concluded (receiveAll parse react (phase.read chunk).1
          (s.reading (s.outputBytes + chunk.length)
            ⟨next, false⟩))).stoppedReason with
      | some reason =>
          left
          exact goes.going.settled (by rw [stopped]; rfl)
      | none =>
          right
          exact ⟨next, rfl, ⟨goes.going, stopped, goes.decoder⟩, goes.bytes⟩

/-! ## Runs -/

/-- Bytes come one by one. -/
def observe (parse : String → Option Json) (s : Supervisor) :
    Moment → Supervisor
  | .byte byte react => s.stdoutData parse [byte] react
  | .other event => s.apply parse event

def observeAll (parse : String → Option Json) (s : Supervisor)
    (moments : List Moment) : Supervisor :=
  moments.foldl (observe parse) s

theorem Alike.apply (alike : Alike s t) (event : Event) :
    Alike (s.apply parse event) (t.apply parse event) := by
  cases alike with
  | same eq =>
      rw [eq]
      exact .same rfl
  | settled one two done reason judged =>
      have alike : Alike s t := .settled one two done reason judged
      by_cases closes : ∃ code, event = .close code
      · obtain ⟨code, rfl⟩ := closes
        obtain ⟨first, ended, log⟩ := one.onClose code
        obtain ⟨second, ended', log'⟩ := two.onClose code
        refine .settled first second (ended.trans ended'.symm) ?_ ?_
        · intro undone
          cases ended.symm.trans undone
        · change (s.onClose code).judged = (t.onClose code).judged
          rw [log, log', judged, done]
          cases undone : t.doneSettled with
          | true => rfl
          | false => rw [reason (done.trans undone)]
      · have other : ∀ code, event ≠ .close code :=
          fun code same => closes ⟨code, same⟩
        exact ((one.apply parse other).alike one).symm.trans
          (alike.trans ((two.apply parse other).alike two))

theorem Alike.observe (alike : Alike s t) (moment : Moment) :
    Alike (s.observe parse moment) (t.observe parse moment) := by
  cases moment with
  | byte byte react => exact alike.apply (.stdoutData [byte] react)
  | other event => exact alike.apply event

theorem Alike.observeAll (alike : Alike s t) (moments : List Moment) :
    Alike (s.observeAll parse moments) (t.observeAll parse moments) := by
  induction moments generalizing s t with
  | nil => exact alike
  | cons moment moments induction => exact induction (alike.observe moment)

theorem Settled.bytes (settled : s.Settled) (chunk : List UInt8)
    (react : Nat → Reaction) :
    Rests s (s.observeAll parse (chunk.map fun byte => .byte byte react)) := by
  induction chunk generalizing s with
  | nil => exact settled.rests
  | cons byte rest induction =>
      have first := settled.stdoutData parse [byte] react
      exact first.trans (induction first.settled)

theorem read_cons {phase next : Phase} {byte : UInt8}
    (alone : (phase.read [byte]).2 = .ok next) (rest : List UInt8) :
    phase.read (byte :: rest) =
      ((phase.read [byte]).1 ++ (next.read rest).1, (next.read rest).2) := by
  simp only [Phase.read] at alone ⊢
  cases advanced : phase.advance [byte] with
  | error code =>
      rw [advanced] at alone
      cases alone
  | ok found =>
      rw [advanced] at alone
      cases alone
      simp only [List.append_nil]

/-- A chunk is judged as its bytes are. -/
theorem Reading.bytes (reads : s.Reading phase) {chunk : List UInt8}
    (short : chunk.length ≤ maxInputChunkBytes)
    (within : s.outputBytes + chunk.length ≤ maxWireBytes)
    (few : (phase.read chunk).1.length ≤ maxBatchFrames)
    (whole : ∀ code, (phase.read chunk).2 = .error code →
      (phase.read chunk).1 = []) :
    Alike (s.stdoutData parse chunk react)
      (s.observeAll parse (chunk.map fun byte => .byte byte react)) := by
  induction chunk generalizing s phase with
  | nil =>
      rw [reads.stdoutData short within few]
      refine .same ?_
      change s.reading s.outputBytes ⟨phase, false⟩ = s
      rw [← reads.decoder, reading_self]
  | cons byte rest induction =>
      have shorter : rest.length ≤ maxInputChunkBytes := by
        rw [List.length_cons] at short
        omega
      have one : (phase.read [byte]).1.length ≤ maxBatchFrames := by
        simp only [Phase.read]
        cases phase.advance [byte] with
        | error code => exact Nat.zero_le _
        | ok found =>
            obtain ⟨next, _, frame⟩ := found
            cases frame with
            | none => exact Nat.zero_le _
            | some frame => exact Nat.succ_le_succ (Nat.zero_le _)
      refine (reads.stdoutData_cons short within few whole).trans ?_
      rw [List.length_cons] at short within
      change Alike _ ((s.stdoutData parse [byte] react).observeAll parse
        (rest.map fun byte => .byte byte react))
      rcases reads.stdoutData_next (by simp; omega) (by simp; omega) one with
        settled | ⟨next, alone, held, count⟩
      · exact ((settled.stdoutData parse rest react).alike settled).symm.trans
          ((settled.bytes rest react).alike settled)
      · rw [read_cons alone] at few whole
        simp only [List.length_append] at few
        apply induction held shorter
        · rw [count, List.length_singleton]
          omega
        · omega
        · intro code refused
          exact (List.append_eq_nil_iff.mp (whole code refused)).2

theorem few_of_segmented {chunk : List UInt8} {chunks : List (List UInt8)}
    (segmented : Segmented phase (chunk :: chunks)) :
    (phase.read chunk).1.length ≤ maxBatchFrames := by
  have judged := segmented.2
  split at judged
  · rename_i read
    rw [read]
    exact judged.1
  · rename_i read
    rw [read, judged]
    exact Nat.zero_le _

theorem whole_of_segmented {chunk : List UInt8} {chunks : List (List UInt8)}
    (segmented : Segmented phase (chunk :: chunks)) :
    ∀ code, (phase.read chunk).2 = .error code →
      (phase.read chunk).1 = [] := by
  intro code refused
  have judged := segmented.2
  split at judged
  · rename_i read
    rw [read] at refused
    cases refused
  · rename_i read
    rw [read, judged]

theorem rest_of_segmented {chunk : List UInt8} {chunks : List (List UInt8)}
    {next : Phase} (segmented : Segmented phase (chunk :: chunks))
    (read : (phase.read chunk).2 = .ok next) : Segmented next chunks := by
  have judged := segmented.2
  split at judged
  · rename_i other
    rw [other] at read
    cases read
    exact judged.2
  · rename_i other
    rw [other] at read
    cases read

theorem moments_of_silent {event : Event} (silent : event.output = []) :
    event.moments = [.other event] := by
  cases event <;> first | rfl | cases silent

/-- A run is judged as it is when the bytes of its output come one by one. -/
theorem play_alike {events : List Event}
    (reads : s.Settled ∨ ∃ phase, s.Reading phase ∧
      Segmented phase (outputOf events) ∧
      s.outputBytes + (outputOf events).flatten.length ≤ maxWireBytes) :
    Alike (s.play parse events) (s.observeAll parse (timeline events)) := by
  induction events generalizing s with
  | nil => exact .same rfl
  | cons event events induction =>
      have split : s.observeAll parse (timeline (event :: events)) =
          (s.observeAll parse event.moments).observeAll parse
            (timeline events) := by
        rw [timeline, List.flatMap_cons, Supervisor.observeAll,
          List.foldl_append]
        rfl
      rw [split]
      change Alike ((s.apply parse event).play parse events) _
      -- What follows is judged from what the event leaves.
      suffices step : Alike (s.apply parse event)
            (s.observeAll parse event.moments) ∧
          ((s.apply parse event).Settled ∨
            ∃ phase, (s.apply parse event).Reading phase ∧
              Segmented phase (outputOf events) ∧
              (s.apply parse event).outputBytes +
                (outputOf events).flatten.length ≤ maxWireBytes) from
        (induction step.2).trans (step.1.observeAll _)
      by_cases closes : ∃ code, event = .close code
      · obtain ⟨code, rfl⟩ := closes
        refine ⟨.same rfl, .inl ?_⟩
        rcases reads with settled | ⟨phase, reads, _⟩
        · exact (settled.onClose code).1
        · exact reads.going.onClose code
      have other : ∀ code, event ≠ .close code :=
        fun code same => closes ⟨code, same⟩
      rcases reads with settled | ⟨phase, reads, segmented, within⟩
      · refine ⟨?_, .inl (settled.apply parse other).settled⟩
        cases event with
        | stdoutData chunk react =>
            exact ((settled.stdoutData parse chunk react).alike settled).symm
              |>.trans ((settled.bytes chunk react).alike settled)
        | _ => exact .same rfl
      · by_cases silent : event.output = []
        · have goes := reads.going.apply parse other silent
          refine ⟨?_, ?_⟩
          · rw [moments_of_silent silent]
            exact .same rfl
          · cases stopped : (s.apply parse event).stoppedReason with
            | some reason =>
                left
                exact goes.going.settled (by rw [stopped]; rfl)
            | none =>
                right
                rw [outputOf, List.flatMap_cons, silent, List.nil_append]
                  at segmented within
                exact ⟨phase, ⟨goes.going, stopped,
                  goes.decoder.trans reads.decoder⟩, segmented,
                  goes.bytes.symm ▸ within⟩
        · cases event with
          | stdoutData chunk react =>
              have segmented : Segmented phase (chunk :: outputOf events) :=
                segmented
              change s.outputBytes +
                (chunk :: outputOf events).flatten.length ≤ _ at within
              rw [List.flatten_cons, List.length_append] at within
              have few := few_of_segmented segmented
              refine ⟨reads.bytes segmented.1 (by omega) few
                (whole_of_segmented segmented), ?_⟩
              rcases reads.stdoutData_next segmented.1 (by omega) few with
                settled | ⟨next, read, held, count⟩
              · exact .inl settled
              · refine .inr ⟨next, held, rest_of_segmented segmented read, ?_⟩
                change (s.stdoutData parse chunk react).outputBytes + _ ≤ _
                rw [count]
                omega
          | _ => exact absurd rfl silent

theorem started_reads {options : Options} {throws : Bool}
    (started : startAdapterSubprocess options throws = .ok s) :
    s.outputBytes = 0 ∧ (s.Settled ∨ s.Reading .boundary) := by
  unfold startAdapterSubprocess at started
  cases valid : validate options with
  | error code =>
      rw [valid] at started
      cases started
  | ok config =>
      rw [valid] at started
      have going : (Supervisor.spawned config).Going :=
        ⟨rfl, fun stopped => by cases stopped⟩
      cases throws with
      | true =>
          cases started
          have goes := going.terminate "stdin_failed"
          exact ⟨goes.bytes, .inl
            (goes.going.settled (terminate_stopped _ _))⟩
      | false =>
          cases started
          exact ⟨rfl, .inr ⟨⟨rfl, fun stopped => by cases stopped⟩, rfl, rfl⟩⟩

end Supervisor

def Moment.byte? : Moment → Option UInt8
  | .byte found _ => some found
  | .other _ => none

theorem flatten_outputOf (events : List Event) :
    (outputOf events).flatten = (timeline events).filterMap Moment.byte? := by
  induction events with
  | nil => rfl
  | cons event events induction =>
      rw [outputOf, timeline, List.flatMap_cons, List.flatMap_cons,
        List.flatten_append, List.filterMap_append]
      refine congrArg₂ _ ?_ induction
      cases event with
      | stdoutData chunk react =>
          simp only [Event.output, Event.moments, List.flatten_singleton,
            List.filterMap_map]
          exact (List.filterMap_some).symm
      | _ => rfl

/-- Of one output, and of other events in the same order relative to its bytes,
any two segmentations that lose no frame are judged alike. -/
theorem output_judged (parse : String → Option Json) {options : Options}
    {throws : Bool} {s : Supervisor}
    (started : startAdapterSubprocess options throws = .ok s)
    {first second : List Event} (same : timeline first = timeline second)
    (within : (outputOf first).flatten.length ≤ maxWireBytes)
    (segmented : Segmented .boundary (outputOf first))
    (other : Segmented .boundary (outputOf second)) :
    (s.play parse first).judged = (s.play parse second).judged := by
  obtain ⟨unread, reads⟩ := Supervisor.started_reads started
  have bytes : (outputOf second).flatten = (outputOf first).flatten := by
    rw [flatten_outputOf, flatten_outputOf, same]
  have ready : ∀ events, Segmented .boundary (outputOf events) →
      (outputOf events).flatten.length ≤ maxWireBytes →
      s.Settled ∨ ∃ phase, s.Reading phase ∧
        Segmented phase (outputOf events) ∧
        s.outputBytes + (outputOf events).flatten.length ≤ maxWireBytes := by
    intro events segmented within
    rcases reads with settled | reads
    · exact .inl settled
    · exact .inr ⟨_, reads, segmented, by rw [unread]; omega⟩
  have one : Supervisor.Alike (s.play parse first) _ :=
    Supervisor.play_alike (ready first segmented within)
  have two : Supervisor.Alike (s.play parse second) _ :=
    Supervisor.play_alike (ready second other (bytes ▸ within))
  rw [same] at one
  exact (one.trans two.symm).judged

/-! ## Segmentations that lose frames -/

theorem timeline_append (before after : List UInt8) (react : Nat → Reaction)
    (events : List Event) :
    timeline (.stdoutData (before ++ after) react :: events) =
      timeline (.stdoutData before react :: .stdoutData after react ::
        events) := by
  simp only [timeline, List.flatMap_cons, Event.moments, List.map_append,
    List.append_assoc]

def echoOptions : Options where
  executable := "/usr/bin/cat"
  sessionId := "session_2"

def greeting : List UInt8 :=
  Frame.wire ⟨.READY, ("\x7b\"protocol\":\"gpulink.adapter.ipc\"," ++
    "\"version\":1,\"ready\":true\x7d").toUTF8.toList⟩

/-- So many empty frames. -/
def emptyFrames (count : Nat) : List UInt8 :=
  (List.replicate count (Frame.wire ⟨.BINARY, []⟩)).flatten

def ignore (_ : Nat) : Reaction where
  calls := []
  throws := false

/-- The output in these chunks, then the exit of the child. -/
def outputRun (chunks : List (List UInt8)) : List Event :=
  chunks.map (.stdoutData · ignore) ++ [.close (some 0)]

/-- A chunk may end within the handshake. -/
theorem output_judged_sample : ∃ s,
    startAdapterSubprocess echoOptions false = .ok s ∧
      (s.play JsonText.parse (outputRun [greeting.take 5 ++
          (greeting.drop 5 ++ emptyFrames 2)])).judged =
        (s.play JsonText.parse (outputRun [greeting.take 5,
          greeting.drop 5 ++ emptyFrames 2])).judged := by
  have started : startAdapterSubprocess echoOptions false = .ok _ := rfl
  exact ⟨_, started, output_judged JsonText.parse started
    (timeline_append _ _ ignore _) (by decide +kernel) (by decide +kernel)
    (by decide +kernel)⟩

/-- Many frames in one chunk, and a frame before a header that is refused. -/
theorem output_split : ∃ s,
    startAdapterSubprocess echoOptions false = .ok s ∧
    (∃ first second, timeline first = timeline second ∧
      (outputOf first).flatten.length ≤ maxWireBytes ∧
      (Phase.boundary.read (outputOf first).flatten).1.length ≤
        maxFrameCount ∧
      (∀ chunk ∈ outputOf first ++ outputOf second,
        chunk.length ≤ maxInputChunkBytes) ∧
      (s.play JsonText.parse first).judged = [.readySettled none,
        .completedSettled (some "frame_batch_exceeded")] ∧
      (s.play JsonText.parse second).judged = .readySettled none ::
        List.replicate 65 (.onFrame ⟨.BINARY, []⟩) ++
          [.completedSettled (some "adapter_incomplete_or_failed")]) ∧
    ∃ first second, timeline first = timeline second ∧
      (outputOf first).flatten.length ≤ maxWireBytes ∧
      (Phase.boundary.read (outputOf first).flatten).1.length ≤
        maxFrameCount ∧
      (∀ chunk ∈ outputOf first ++ outputOf second,
        chunk.length ≤ maxInputChunkBytes) ∧
      (s.play JsonText.parse first).judged =
        [.readySettled (some "invalid_magic"),
          .completedSettled (some "invalid_magic")] ∧
      (s.play JsonText.parse second).judged = [.readySettled none,
          .completedSettled (some "invalid_magic")] := by
  refine ⟨_, rfl, ⟨outputRun [greeting, emptyFrames 33 ++ emptyFrames 32],
    outputRun [greeting, emptyFrames 33, emptyFrames 32], ?_, ?_, ?_, ?_, ?_, ?_⟩,
    outputRun [greeting ++ List.replicate 9 0],
    outputRun [greeting, List.replicate 9 0], ?_, ?_, ?_, ?_, ?_, ?_⟩
  · exact congrArg (Event.moments (.stdoutData greeting ignore) ++ ·)
      (timeline_append (emptyFrames 33) (emptyFrames 32) ignore
        [.close (some 0)])
  · decide +kernel
  · decide +kernel
  · decide +kernel
  · decide +kernel
  · decide +kernel
  · exact timeline_append _ _ ignore _
  · decide +kernel
  · decide +kernel
  · decide +kernel
  · decide +kernel
  · decide +kernel

end AdapterSupervisor

end GpuLink
