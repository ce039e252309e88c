import GpuLink.Asr.Protocol

/-!
# The worker's side of a speech session

The messages of a worker in order: it is ready, it makes hypotheses on one
segment after the other, and it ends the session.
-/

namespace GpuLink

namespace Asr

inductive OutputState where
  | awaitingModelReady
  | streaming
  | draining
  | cancelling
  | completed
  | cancelled
  | failed
  | interrupted
  deriving DecidableEq, Repr

def OutputState.terminal : OutputState → Bool
  | completed | cancelled | failed | interrupted => true
  | _ => false

structure Segment where
  segmentId : Nat
  revision : Nat
  startSample : Nat
  endSample : Nat

def maxSegments : Nat := 10000

/-- `createAsrWorkerOutput` -/
structure WorkerOutput where
  modelId : String
  revision : String
  state : OutputState
  inputEndSequence : Option Nat
  lastFinalSegmentId : Nat
  lastFinalEndSample : Nat
  activeSegment : Option Segment

namespace WorkerOutput

/-- The expected identity has the grammar of a readiness message. -/
def create (modelId revision : String) : Except Rejection WorkerOutput := do
  let _ ← parseAsrControlFrame
    (some (JsonText.stringify [("type", .text "asr.model_ready.v1"),
      ("modelId", .text modelId), ("revision", .text revision)])) .worker
  return {
    modelId := modelId
    revision := revision
    state := .awaitingModelReady
    inputEndSequence := none
    lastFinalSegmentId := 0
    lastFinalEndSample := 0
    activeSegment := none }

/-- The segment after another hypothesis on it. -/
def nextHypothesis (output : WorkerOutput) (transcript : Transcript) :
    Except Rejection Segment :=
  match output.activeSegment with
  | none => .ok ⟨transcript.segmentId, transcript.revision,
      transcript.startSample, transcript.endSample⟩
  | some segment =>
      if transcript.segmentId ≠ segment.segmentId ∨
          transcript.revision ≤ segment.revision ∨
          transcript.startSample ≠ segment.startSample ∨
          transcript.endSample < segment.endSample then .error .inputInvalid
      else .ok { segment with
        revision := transcript.revision
        endSample := transcript.endSample }

/-- A partial or a final transcript. -/
def onTranscript (output : WorkerOutput) (transcript : Transcript)
    (final : Bool) : Except Rejection WorkerOutput := do
  if output.state ≠ .streaming ∧ output.state ≠ .draining then
    throw .inputInvalid
  else if transcript.segmentId ≠ output.lastFinalSegmentId + 1 ∨
      transcript.segmentId > maxSegments ∨
      transcript.startSample < output.lastFinalEndSample then
    throw .inputInvalid
  else
    let segment ← output.nextHypothesis transcript
    if final then
      return { output with
        lastFinalSegmentId := transcript.segmentId
        lastFinalEndSample := transcript.endSample
        activeSegment := none }
    else return { output with activeSegment := some segment }

def accept (output : WorkerOutput) (message : Message) :
    Except Rejection WorkerOutput :=
  if output.state.terminal then .error .inputInvalid
  else
    match message with
    | .modelReady modelId revision =>
        if output.state ≠ .awaitingModelReady ∨ modelId ≠ output.modelId ∨
            revision ≠ output.revision then .error .inputInvalid
        else .ok { output with state := .streaming }
    | .partialTranscript transcript => output.onTranscript transcript false
    | .finalTranscript transcript => output.onTranscript transcript true
    | .completed lastSequence =>
        if output.state ≠ .draining ∨
            output.inputEndSequence ≠ some lastSequence ∨
            output.activeSegment.isSome then .error .inputInvalid
        else .ok { output with state := .completed }
    | .cancelled =>
        if output.state ≠ .cancelling then .error .inputInvalid
        else .ok { output with state := .cancelled }
    | .error _ _ => .ok { output with state := .failed }
    | _ => .error .inputInvalid

def onMessage (output : WorkerOutput) (raw : Option String) :
    Except Rejection (Message × WorkerOutput) := do
  let message ← parseAsrControlFrame raw .worker
  let output ← output.accept message
  return (message, output)

def onClientEnd (output : WorkerOutput) (lastSequence : Nat) :
    Except Rejection WorkerOutput :=
  if output.state ≠ .streaming ∨ uint32Max < lastSequence then
    .error .inputInvalid
  else .ok { output with
    inputEndSequence := some lastSequence
    state := .draining }

def onClientCancel (output : WorkerOutput) : Except Rejection WorkerOutput :=
  if output.state.terminal ∨ output.state = .cancelling then
    .error .inputInvalid
  else .ok { output with state := .cancelling }

def onDisconnected (output : WorkerOutput) : OutputState × WorkerOutput :=
  if output.state.terminal then (output.state, output)
  else (.interrupted, { output with state := .interrupted })

end WorkerOutput

end Asr

end GpuLink
