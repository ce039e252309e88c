import GpuLink.Asr.Lifecycle
import GpuLink.Library.Statements

/-!
# Rejected calls of a speech session

The calls as the source runs them, assignment by assignment: what throws keeps
what has been assigned before.  They refine the calls that change all or
nothing, so a rejection changes nothing.
-/

namespace GpuLink

namespace Asr

open Statements

/-- Statements that a rejection can end. -/
abbrev Script (σ α : Type) :=
  EStateM Rejection σ α

variable {σ α : Type}

/-! ## The client's side -/

namespace ClientIngress

def controlStatements (raw : Option String) :
    Script ClientIngress Message := do
  let control ← checked (parseAsrControlFrame raw .client)
  let ingress ← get
  match control with
  | .start =>
      rejectIf (ingress.state ≠ .awaitingStart) .inputInvalid
      assign fun ingress => { ingress with state := .streaming }
  | .endInput lastSequence =>
      rejectIf (ingress.state ≠ .streaming ∨ ingress.nextSequence = 0 ∨
        lastSequence ≠ ingress.nextSequence - 1) .inputInvalid
      assign fun ingress => { ingress with state := .draining }
  | .cancel =>
      rejectIf (ingress.state = .cancelled) .inputInvalid
      assign fun ingress => { ingress with state := .cancelled }
  | _ => pure ()
  return control

def audioStatements (frame : Option (List UInt8)) :
    Script ClientIngress AudioFrame := do
  let ingress ← get
  rejectIf (ingress.state ≠ .streaming) .inputInvalid
  let decoded ← checked (decodeAsrAudioFrame frame ingress.nextSequence
    ingress.nextSampleOffset)
  rejectIf (ingress.queuedSamples + decoded.sampleCount > maxQueuedSamples)
    .backpressureLimit
  assign fun ingress => { ingress with
    nextSequence := ingress.nextSequence + 1 }
  assign fun ingress => { ingress with
    nextSampleOffset := ingress.nextSampleOffset + decoded.sampleCount }
  assign fun ingress => { ingress with
    queuedSamples := ingress.queuedSamples + decoded.sampleCount }
  return decoded

def releaseStatements (count : Option Int) : Script ClientIngress Nat := do
  let ingress ← get
  match count with
  | none => throw .inputInvalid
  | some count =>
      rejectIf (¬(1 ≤ count ∧ count ≤ ingress.queuedSamples)) .inputInvalid
      assign fun ingress => { ingress with
        queuedSamples := ingress.queuedSamples - count.toNat }
      return count.toNat

theorem controlStatements_eq (raw : Option String) (ingress : ClientIngress) :
    controlStatements raw ingress = atomically ingress (ingress.onControl raw) := by
  unfold controlStatements onControl
  cases parseAsrControlFrame raw .client with
  | error rejection => rfl
  | ok control =>
      cases control with
      | start => exact rejectIf_bind ingress (fun _ => rfl)
      | endInput lastSequence => exact rejectIf_bind ingress (fun _ => rfl)
      | cancel => exact rejectIf_bind ingress (fun _ => rfl)
      | _ => rfl

theorem audioStatements_eq (frame : Option (List UInt8))
    (ingress : ClientIngress) :
    audioStatements frame ingress = atomically ingress (ingress.onAudio frame) := by
  unfold audioStatements onAudio
  apply rejectIf_bind ingress
  intro _
  cases decodeAsrAudioFrame frame ingress.nextSequence
      ingress.nextSampleOffset with
  | error rejection => rfl
  | ok decoded => exact rejectIf_bind ingress (fun _ => rfl)

theorem releaseStatements_eq (count : Option Int) (ingress : ClientIngress) :
    releaseStatements count ingress =
      atomically ingress (ingress.releaseSamples count) := by
  cases count with
  | none => rfl
  | some count =>
      unfold releaseStatements releaseSamples
      by_cases valid : 1 ≤ count ∧ count ≤ ingress.queuedSamples
      · simp only [if_pos valid]
        rw [bind_apply, get_apply]
        simp only
        rw [bind_apply, rejectIf, if_neg (not_not.mpr valid)]
        rfl
      · simp only [if_neg valid]
        rw [bind_apply, get_apply]
        simp only
        rw [bind_apply, rejectIf, if_pos valid]
        rfl

end ClientIngress

/-! ## The worker's side -/

namespace WorkerOutput

def transcriptStatements (transcript : Transcript) (final : Bool) :
    Script WorkerOutput Unit := do
  let output ← get
  rejectIf (output.state ≠ .streaming ∧ output.state ≠ .draining) .inputInvalid
  rejectIf (transcript.segmentId ≠ output.lastFinalSegmentId + 1 ∨
    transcript.segmentId > maxSegments ∨
    transcript.startSample < output.lastFinalEndSample) .inputInvalid
  match output.activeSegment with
  | none =>
      assign fun output => { output with
        activeSegment := some ⟨transcript.segmentId, transcript.revision,
          transcript.startSample, transcript.endSample⟩ }
  | some segment =>
      rejectIf (transcript.segmentId ≠ segment.segmentId ∨
        transcript.revision ≤ segment.revision ∨
        transcript.startSample ≠ segment.startSample ∨
        transcript.endSample < segment.endSample) .inputInvalid
      assign fun output => { output with
        activeSegment := some { segment with
          revision := transcript.revision
          endSample := transcript.endSample } }
  if final then
    assign fun output => { output with
      lastFinalSegmentId := transcript.segmentId }
    assign fun output => { output with
      lastFinalEndSample := transcript.endSample }
    assign fun output => { output with activeSegment := none }

def acceptStatements (message : Message) : Script WorkerOutput Unit := do
  let output ← get
  rejectIf output.state.terminal .inputInvalid
  match message with
  | .modelReady modelId revision =>
      rejectIf (output.state ≠ .awaitingModelReady ∨ modelId ≠ output.modelId ∨
        revision ≠ output.revision) .inputInvalid
      assign fun output => { output with state := .streaming }
  | .partialTranscript transcript => transcriptStatements transcript false
  | .finalTranscript transcript => transcriptStatements transcript true
  | .completed lastSequence =>
      rejectIf (output.state ≠ .draining ∨
        output.inputEndSequence ≠ some lastSequence ∨
        output.activeSegment.isSome) .inputInvalid
      assign fun output => { output with state := .completed }
  | .cancelled =>
      rejectIf (output.state ≠ .cancelling) .inputInvalid
      assign fun output => { output with state := .cancelled }
  | .error _ _ => assign fun output => { output with state := .failed }
  | _ => throw .inputInvalid

def messageStatements (raw : Option String) :
    Script WorkerOutput Message := do
  let message ← checked (parseAsrControlFrame raw .worker)
  acceptStatements message
  return message

/-- `none` stands for what is not a safe integer. -/
def clientEndStatements (lastSequence : Option Int) :
    Script WorkerOutput Unit := do
  let output ← get
  match lastSequence with
  | none => throw .inputInvalid
  | some lastSequence =>
      rejectIf (output.state ≠ .streaming ∨
        ¬(0 ≤ lastSequence ∧ lastSequence ≤ uint32Max)) .inputInvalid
      assign fun output => { output with
        inputEndSequence := some lastSequence.toNat }
      assign fun output => { output with state := .draining }

def clientCancelStatements : Script WorkerOutput Unit := do
  let output ← get
  rejectIf (output.state.terminal ∨ output.state = .cancelling) .inputInvalid
  assign fun output => { output with state := .cancelling }

/-- The outcome of a call that answers nothing. -/
def silent (outcome : Except Rejection σ) : Except Rejection (Unit × σ) :=
  outcome.map fun after => ((), after)

theorem transcriptStatements_eq (transcript : Transcript) (final : Bool)
    (output : WorkerOutput) :
    transcriptStatements transcript final output =
      atomically output (silent (output.onTranscript transcript final)) := by
  unfold transcriptStatements onTranscript
  rw [bind_apply, get_apply]
  simp only
  by_cases idle : output.state ≠ .streaming ∧ output.state ≠ .draining
  · rw [bind_apply, rejectIf, if_pos idle, if_pos idle]
    rfl
  rw [bind_apply, rejectIf, if_neg idle, if_neg idle]
  simp only
  by_cases misplaced : transcript.segmentId ≠ output.lastFinalSegmentId + 1 ∨
      transcript.segmentId > maxSegments ∨
      transcript.startSample < output.lastFinalEndSample
  · rw [bind_apply, rejectIf, if_pos misplaced, if_pos misplaced]
    rfl
  rw [bind_apply, rejectIf, if_neg misplaced, if_neg misplaced]
  simp only [nextHypothesis]
  cases output.activeSegment with
  | none =>
      cases final with
      | false => rfl
      | true => rfl
  | some segment =>
      simp only
      by_cases stale : transcript.segmentId ≠ segment.segmentId ∨
          transcript.revision ≤ segment.revision ∨
          transcript.startSample ≠ segment.startSample ∨
          transcript.endSample < segment.endSample
      · rw [bind_apply, rejectIf, if_pos stale, if_pos stale]
        rfl
      · rw [bind_apply, rejectIf, if_neg stale, if_neg stale]
        cases final with
        | false => rfl
        | true => rfl

theorem acceptStatements_eq (message : Message) (output : WorkerOutput) :
    acceptStatements message output =
      atomically output (silent (output.accept message)) := by
  unfold acceptStatements accept
  rw [bind_apply, get_apply]
  simp only
  by_cases ended : output.state.terminal
  · rw [bind_apply, rejectIf, if_pos ended, if_pos ended]
    rfl
  rw [bind_apply, rejectIf, if_neg ended, if_neg ended]
  simp only
  cases message with
  | partialTranscript transcript => exact transcriptStatements_eq _ _ output
  | finalTranscript transcript => exact transcriptStatements_eq _ _ output
  | modelReady modelId revision =>
      simp only
      by_cases other : output.state ≠ .awaitingModelReady ∨
          modelId ≠ output.modelId ∨ revision ≠ output.revision
      · rw [bind_apply, rejectIf, if_pos other, if_pos other]
        rfl
      · rw [bind_apply, rejectIf, if_neg other, if_neg other]
        rfl
  | completed lastSequence =>
      simp only
      by_cases early : output.state ≠ .draining ∨
          output.inputEndSequence ≠ some lastSequence ∨
          output.activeSegment.isSome
      · rw [bind_apply, rejectIf, if_pos early, if_pos early]
        rfl
      · rw [bind_apply, rejectIf, if_neg early, if_neg early]
        rfl
  | cancelled =>
      simp only
      by_cases unasked : output.state ≠ .cancelling
      · rw [bind_apply, rejectIf, if_pos unasked, if_pos unasked]
        rfl
      · rw [bind_apply, rejectIf, if_neg unasked, if_neg unasked]
        rfl
  | error | start | endInput | cancel => rfl

theorem messageStatements_eq (raw : Option String) (output : WorkerOutput) :
    messageStatements raw output = atomically output (output.onMessage raw) := by
  unfold messageStatements onMessage
  cases parseAsrControlFrame raw .worker with
  | error rejection => rfl
  | ok message =>
      have accepts := acceptStatements_eq message output
      rw [bind_apply]
      simp only [checked]
      rw [bind_apply, accepts]
      cases taken : output.accept message with
      | error rejection =>
          simp only [bind, Except.bind, taken]
          rfl
      | ok after =>
          simp only [bind, Except.bind, taken]
          rfl

theorem clientCancelStatements_eq (output : WorkerOutput) :
    clientCancelStatements output =
      atomically output (silent output.onClientCancel) := by
  unfold clientCancelStatements onClientCancel
  rw [bind_apply, get_apply]
  simp only
  by_cases ended : output.state.terminal ∨ output.state = .cancelling
  · rw [bind_apply, rejectIf, if_pos ended, if_pos ended]
    rfl
  · rw [bind_apply, rejectIf, if_neg ended, if_neg ended]
    rfl

theorem clientEndStatements_eq (lastSequence : Nat) (output : WorkerOutput) :
    clientEndStatements (some lastSequence) output =
      atomically output (silent (output.onClientEnd lastSequence)) := by
  unfold clientEndStatements onClientEnd
  rw [bind_apply, get_apply]
  simp only
  have same : (output.state ≠ .streaming ∨
      ¬((0 : Int) ≤ lastSequence ∧ (lastSequence : Int) ≤ uint32Max)) ↔
        (output.state ≠ .streaming ∨ uint32Max < lastSequence) := by
    apply or_congr Iff.rfl
    constructor
    · intro invalid
      omega
    · intro invalid
      omega
  by_cases invalid : output.state ≠ .streaming ∨ uint32Max < lastSequence
  · rw [bind_apply, rejectIf, if_pos (same.mpr invalid), if_pos invalid]
    rfl
  · rw [bind_apply, rejectIf, if_neg (same.not.mpr invalid), if_neg invalid]
    rfl

end WorkerOutput

/-! ## The coordinator -/

namespace Coordinator

/-- Statements over the client's side. -/
def onClient (statements : Script ClientIngress α) :
    Script Coordinator α := fun coordinator =>
  match statements coordinator.client with
  | .ok value ingress => .ok value { coordinator with client := ingress }
  | .error rejection ingress =>
      .error rejection { coordinator with client := ingress }

/-- Statements over the worker's side. -/
def onWorker (statements : Script WorkerOutput α) :
    Script Coordinator α := fun coordinator =>
  match statements coordinator.worker with
  | .ok value output => .ok value { coordinator with worker := output }
  | .error rejection output =>
      .error rejection { coordinator with worker := output }

def controlStatements (raw : Option String) :
    Script Coordinator Message := do
  let message ← checked (parseAsrControlFrame raw .client)
  let coordinator ← get
  let _ ← checked coordinator.ensureActive
  rejectIf (coordinator.admitsControl message = false) .inputInvalid
  let _ ← onClient (ClientIngress.controlStatements raw)
  match message with
  | .endInput lastSequence =>
      onWorker (WorkerOutput.clientEndStatements (some lastSequence))
  | .cancel => onWorker WorkerOutput.clientCancelStatements
  | _ => pure ()
  return message

def audioStatements (frame : Option (List UInt8)) :
    Script Coordinator AudioFrame := do
  let coordinator ← get
  let state ← checked coordinator.ensureActive
  rejectIf (state ≠ .streaming ∨ coordinator.client.state ≠ .streaming)
    .inputInvalid
  onClient (ClientIngress.audioStatements frame)

def consumedStatements (count : Option Int) :
    Script Coordinator (Nat × Nat) := do
  let coordinator ← get
  let state ← checked coordinator.ensureActive
  rejectIf ((state ≠ .streaming ∧ state ≠ .draining) ∨
    (coordinator.client.state ≠ .streaming ∧
      coordinator.client.state ≠ .draining)) .inputInvalid
  let released ← onClient (ClientIngress.releaseStatements count)
  let coordinator ← get
  return (released, coordinator.consumedSamples)

def messageStatements (raw : Option String) :
    Script Coordinator Message := do
  let message ← checked (parseAsrControlFrame raw .worker)
  let coordinator ← get
  rejectIf (coordinator.worker.state.terminal ∨
    (coordinator.worker.state = .cancelling ∧ ¬ending message)) .inputInvalid
  rejectIf (coordinator.admitsOutput message = false) .inputInvalid
  onWorker (WorkerOutput.messageStatements raw)

/-- What a call has come to, as the result of its statements. -/
def reached (outcome : Coordinator × Except Rejection α) :
    EStateM.Result Rejection Coordinator α :=
  match outcome.2 with
  | .ok value => .ok value outcome.1
  | .error rejection => .error rejection outcome.1

theorem audioStatements_eq (frame : Option (List UInt8))
    (coordinator : Coordinator) :
    audioStatements frame coordinator =
      reached (coordinator.onClientAudio frame) := by
  unfold audioStatements onClientAudio
  rw [bind_apply, get_apply]
  simp only
  cases coordinator.ensureActive with
  | error rejection => rfl
  | ok state =>
      simp only
      by_cases idle : state ≠ .streaming ∨ coordinator.client.state ≠ .streaming
      · rw [bind_apply, checked]
        simp only
        rw [bind_apply, rejectIf, if_pos idle, if_pos idle]
        rfl
      · rw [bind_apply, checked]
        simp only
        rw [bind_apply, rejectIf, if_neg idle, if_neg idle]
        simp only [onClient, ClientIngress.audioStatements_eq]
        cases coordinator.client.onAudio frame with
        | error rejection => rfl
        | ok outcome => rfl

theorem consumedStatements_eq (count : Option Int) (coordinator : Coordinator) :
    consumedStatements count coordinator =
      reached (coordinator.onSamplesConsumed count) := by
  unfold consumedStatements onSamplesConsumed
  rw [bind_apply, get_apply]
  simp only
  cases coordinator.ensureActive with
  | error rejection => rfl
  | ok state =>
      rw [bind_apply, checked]
      simp only
      by_cases idle : (state ≠ .streaming ∧ state ≠ .draining) ∨
          (coordinator.client.state ≠ .streaming ∧
            coordinator.client.state ≠ .draining)
      · rw [bind_apply, rejectIf, if_pos idle, if_pos idle]
        rfl
      · rw [bind_apply, rejectIf, if_neg idle, if_neg idle]
        simp only
        rw [bind_apply, onClient, ClientIngress.releaseStatements_eq]
        cases coordinator.client.releaseSamples count with
        | error rejection => rfl
        | ok outcome => rfl

theorem messageStatements_eq (raw : Option String) (coordinator : Coordinator) :
    messageStatements raw coordinator =
      reached (coordinator.onWorkerMessage raw) := by
  unfold messageStatements onWorkerMessage
  cases parseAsrControlFrame raw .worker with
  | error rejection => rfl
  | ok message =>
      rw [bind_apply, checked]
      simp only
      rw [bind_apply, get_apply]
      simp only
      by_cases ended : coordinator.worker.state.terminal ∨
          (coordinator.worker.state = .cancelling ∧ ¬ending message)
      · rw [bind_apply, rejectIf, if_pos ended, if_pos ended]
        rfl
      · rw [bind_apply, rejectIf, if_neg ended, if_neg ended]
        simp only
        cases coordinator.admitsOutput message with
        | false => rfl
        | true =>
            rw [bind_apply, rejectIf, if_neg Bool.true_eq_false.mp,
              if_pos rfl]
            simp only [onWorker, WorkerOutput.messageStatements_eq]
            cases coordinator.worker.onMessage raw with
            | error rejection => rfl
            | ok outcome => rfl

/-- The worker's side of a control frame. -/
theorem followControl_eq (message : Message) (coordinator : Coordinator) :
    (do match message with
        | .endInput lastSequence =>
            onWorker (WorkerOutput.clientEndStatements (some lastSequence))
        | .cancel => onWorker WorkerOutput.clientCancelStatements
        | _ => pure ()
        return message : Script Coordinator Message) coordinator =
      reached (coordinator.followControl message) := by
  unfold followControl
  cases message with
  | endInput lastSequence =>
      simp only
      rw [bind_apply, onWorker, WorkerOutput.clientEndStatements_eq]
      cases coordinator.worker.onClientEnd lastSequence with
      | error rejection => rfl
      | ok output => rfl
  | cancel =>
      simp only
      rw [bind_apply, onWorker, WorkerOutput.clientCancelStatements_eq]
      cases coordinator.worker.onClientCancel with
      | error rejection => rfl
      | ok output => rfl
  | start | modelReady | partialTranscript | finalTranscript | completed
    | cancelled | error => rfl

theorem controlStatements_eq (raw : Option String) (coordinator : Coordinator) :
    controlStatements raw coordinator =
      reached (coordinator.onClientControl raw) := by
  unfold controlStatements onClientControl
  cases parseAsrControlFrame raw .client with
  | error rejection => rfl
  | ok message =>
      rw [bind_apply, checked]
      simp only
      rw [bind_apply, get_apply]
      simp only
      cases coordinator.ensureActive with
      | error rejection => rfl
      | ok state =>
          rw [bind_apply, checked]
          simp only
          cases coordinator.admitsControl message with
          | false => rfl
          | true =>
              rw [bind_apply, rejectIf, if_neg Bool.true_eq_false.mp,
                if_pos rfl]
              simp only
              rw [bind_apply, onClient, ClientIngress.controlStatements_eq]
              cases coordinator.client.onControl raw with
              | error rejection => rfl
              | ok outcome => exact followControl_eq message _

end Coordinator

/-! ## Rejections -/

theorem atomic_of_moved {statements : Script Coordinator α}
    {entry : α → Accepted} {outcome : Coordinator → Coordinator × Except Rejection α}
    (same : ∀ coordinator, statements coordinator =
      Coordinator.reached (outcome coordinator))
    (moved : ∀ coordinator, Moved coordinator entry (outcome coordinator)) :
    Atomic statements := by
  intro coordinator rejection after thrown
  rw [same] at thrown
  have move := moved coordinator
  rcases taken : outcome coordinator with ⟨last, result⟩
  rw [taken] at thrown move
  cases result with
  | error other =>
      cases thrown
      exact move
  | ok value => cases thrown

theorem atomic_clientEnd (lastSequence : Option Int) :
    Atomic (WorkerOutput.clientEndStatements lastSequence) := by
  intro output rejection after thrown
  cases lastSequence with
  | none =>
      cases thrown
      rfl
  | some lastSequence =>
      unfold WorkerOutput.clientEndStatements at thrown
      rw [bind_apply, get_apply] at thrown
      simp only at thrown
      rw [bind_apply, rejectIf] at thrown
      split_ifs at thrown
      · cases thrown
        rfl
      · cases thrown

/-- The end of the input and a cancellation move both machines. -/
theorem control_together {raw : Option String} {coordinator after : Coordinator}
    {message : Message}
    (accepted : Coordinator.controlStatements raw coordinator =
      .ok message after) :
    (∀ lastSequence, message = .endInput lastSequence →
      after.client.state = .draining ∧ after.worker.state = .draining) ∧
    (message = .cancel →
      after.client.state = .cancelled ∧ after.worker.state = .cancelling) := by
  rw [Coordinator.controlStatements_eq] at accepted
  have move := onClientControl_moved coordinator raw
  rcases taken : coordinator.onClientControl raw with ⟨last, result⟩
  rw [taken] at accepted move
  cases result with
  | error rejection => cases accepted
  | ok value =>
      cases accepted
      constructor
      · rintro lastSequence rfl
        cases move with
        | ended => exact ⟨rfl, rfl⟩
      · rintro rfl
        cases move with
        | cancelled => exact ⟨rfl, rfl⟩

/-- A call that throws leaves both machines as they were, and no control frame
moves one machine where it has to move both. -/
theorem rejections_atomic :
    ((∀ raw, Atomic (Coordinator.controlStatements raw)) ∧
      (∀ frame, Atomic (Coordinator.audioStatements frame)) ∧
      (∀ count, Atomic (Coordinator.consumedStatements count)) ∧
      (∀ raw, Atomic (Coordinator.messageStatements raw))) ∧
    ((∀ raw, Atomic (ClientIngress.controlStatements raw)) ∧
      (∀ frame, Atomic (ClientIngress.audioStatements frame)) ∧
      (∀ count, Atomic (ClientIngress.releaseStatements count))) ∧
    ((∀ raw, Atomic (WorkerOutput.messageStatements raw)) ∧
      (∀ lastSequence, Atomic (WorkerOutput.clientEndStatements lastSequence)) ∧
      Atomic WorkerOutput.clientCancelStatements) ∧
    ∀ raw coordinator message after,
      Coordinator.controlStatements raw coordinator = .ok message after →
        (∀ lastSequence, message = .endInput lastSequence →
          after.client.state = .draining ∧ after.worker.state = .draining) ∧
        (message = .cancel →
          after.client.state = .cancelled ∧
            after.worker.state = .cancelling) := by
  refine ⟨⟨?_, ?_, ?_, ?_⟩, ⟨?_, ?_, ?_⟩, ⟨?_, atomic_clientEnd, ?_⟩, ?_⟩
  · intro raw
    exact atomic_of_moved (Coordinator.controlStatements_eq raw)
      (fun coordinator => onClientControl_moved coordinator raw)
  · intro frame
    exact atomic_of_moved (Coordinator.audioStatements_eq frame)
      (fun coordinator => onClientAudio_moved coordinator frame)
  · intro count
    exact atomic_of_moved (Coordinator.consumedStatements_eq count)
      (fun coordinator => onSamplesConsumed_moved coordinator count)
  · intro raw
    exact atomic_of_moved (Coordinator.messageStatements_eq raw)
      (fun coordinator => onWorkerMessage_moved coordinator raw)
  · intro raw
    exact atomic_of_eq (ClientIngress.controlStatements_eq raw)
  · intro frame
    exact atomic_of_eq (ClientIngress.audioStatements_eq frame)
  · intro count
    exact atomic_of_eq (ClientIngress.releaseStatements_eq count)
  · intro raw
    exact atomic_of_eq (WorkerOutput.messageStatements_eq raw)
  · exact atomic_of_eq WorkerOutput.clientCancelStatements_eq
  · intro raw coordinator message after accepted
    exact control_together accepted

end Asr

end GpuLink
