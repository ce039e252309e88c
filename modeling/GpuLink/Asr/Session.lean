import GpuLink.Asr.WorkerOutput

/-!
# A speech session

The coordinator composes the client's side and the worker's side.  A session is
a coordinator with what it has accepted; the life of a session follows from
what one accepted call can do.
-/

namespace GpuLink

namespace Asr

/-- `createAsrSessionCoordinator` -/
structure Coordinator where
  client : ClientIngress
  worker : WorkerOutput

namespace Coordinator

def create (modelId revision : String) : Except Rejection Coordinator := do
  let output ← WorkerOutput.create modelId revision
  return ⟨.initial, output⟩

def consumedSamples (coordinator : Coordinator) : Nat :=
  coordinator.client.nextSampleOffset - coordinator.client.queuedSamples

def ensureActive (coordinator : Coordinator) : Except Rejection OutputState :=
  if coordinator.worker.state.terminal ∨
      coordinator.worker.state = .cancelling then .error .inputInvalid
  else .ok coordinator.worker.state

/-- What is checked of a control frame before either side changes. -/
def admitsControl (coordinator : Coordinator) : Message → Bool
  | .start => coordinator.worker.state = .streaming &&
      coordinator.client.state = .awaitingStart
  | .endInput lastSequence => coordinator.worker.state = .streaming &&
      coordinator.client.state = .streaming &&
      coordinator.client.nextSequence ≠ 0 &&
      lastSequence = coordinator.client.nextSequence - 1
  | .cancel => coordinator.client.state ≠ .cancelled
  | _ => true

/-- The worker's side of a control frame; the client's side has changed by
then. -/
def followControl (coordinator : Coordinator) (message : Message) :
    Coordinator × Except Rejection Message :=
  match message with
  | .endInput lastSequence =>
      match coordinator.worker.onClientEnd lastSequence with
      | .error rejection => (coordinator, .error rejection)
      | .ok output => ({ coordinator with worker := output }, .ok message)
  | .cancel =>
      match coordinator.worker.onClientCancel with
      | .error rejection => (coordinator, .error rejection)
      | .ok output => ({ coordinator with worker := output }, .ok message)
  | _ => (coordinator, .ok message)

def onClientControl (coordinator : Coordinator) (raw : Option String) :
    Coordinator × Except Rejection Message :=
  match parseAsrControlFrame raw .client with
  | .error rejection => (coordinator, .error rejection)
  | .ok message =>
      match coordinator.ensureActive with
      | .error rejection => (coordinator, .error rejection)
      | .ok _ =>
          if coordinator.admitsControl message then
            match coordinator.client.onControl raw with
            | .error rejection => (coordinator, .error rejection)
            | .ok (_, ingress) =>
                { coordinator with client := ingress }.followControl message
          else (coordinator, .error .inputInvalid)

def onClientAudio (coordinator : Coordinator) (frame : Option (List UInt8)) :
    Coordinator × Except Rejection AudioFrame :=
  match coordinator.ensureActive with
  | .error rejection => (coordinator, .error rejection)
  | .ok state =>
      if state ≠ .streaming ∨ coordinator.client.state ≠ .streaming then
        (coordinator, .error .inputInvalid)
      else
        match coordinator.client.onAudio frame with
        | .error rejection => (coordinator, .error rejection)
        | .ok (decoded, ingress) =>
            ({ coordinator with client := ingress }, .ok decoded)

/-- The count that is released, and the answer. -/
def onSamplesConsumed (coordinator : Coordinator) (count : Option Int) :
    Coordinator × Except Rejection (Nat × Nat) :=
  match coordinator.ensureActive with
  | .error rejection => (coordinator, .error rejection)
  | .ok state =>
      if (state ≠ .streaming ∧ state ≠ .draining) ∨
          (coordinator.client.state ≠ .streaming ∧
            coordinator.client.state ≠ .draining) then
        (coordinator, .error .inputInvalid)
      else
        match coordinator.client.releaseSamples count with
        | .error rejection => (coordinator, .error rejection)
        | .ok (released, ingress) =>
            let coordinator := { coordinator with client := ingress }
            (coordinator, .ok (released, coordinator.consumedSamples))

/-- What is checked of a worker's message against the client's side. -/
def admitsOutput (coordinator : Coordinator) : Message → Bool
  | .modelReady _ _ => coordinator.client.state = .awaitingStart
  | .partialTranscript transcript | .finalTranscript transcript =>
      (coordinator.client.state = .streaming ||
        coordinator.client.state = .draining) &&
      transcript.endSample ≤ coordinator.consumedSamples
  | .completed _ => coordinator.client.state = .draining &&
      coordinator.client.queuedSamples = 0 &&
      coordinator.worker.state = .draining
  | .cancelled => coordinator.client.state = .cancelled &&
      coordinator.worker.state = .cancelling
  | _ => true

/-- While a session is being cancelled only its end is let through. -/
def ending : Message → Bool
  | .cancelled | .error _ _ => true
  | _ => false

def onWorkerMessage (coordinator : Coordinator) (raw : Option String) :
    Coordinator × Except Rejection Message :=
  match parseAsrControlFrame raw .worker with
  | .error rejection => (coordinator, .error rejection)
  | .ok message =>
      if coordinator.worker.state.terminal ∨
          (coordinator.worker.state = .cancelling ∧ ¬ending message) then
        (coordinator, .error .inputInvalid)
      else if coordinator.admitsOutput message then
        match coordinator.worker.onMessage raw with
        | .error rejection => (coordinator, .error rejection)
        | .ok (message, output) =>
            ({ coordinator with worker := output }, .ok message)
      else (coordinator, .error .inputInvalid)

def onDisconnected (coordinator : Coordinator) : Coordinator × OutputState :=
  let (state, output) := coordinator.worker.onDisconnected
  ({ coordinator with worker := output }, state)

end Coordinator

/-! ## Sessions -/

inductive Call where
  | clientControl (raw : Option String)
  | clientAudio (frame : Option (List UInt8))
  | samplesConsumed (count : Option Int)
  | workerMessage (raw : Option String)
  | disconnected

/-- What a call that is not rejected has brought. -/
inductive Accepted where
  | client (message : Message)
  | audio (frame : AudioFrame)
  | consumed (count : Nat)
  | worker (message : Message)
  | disconnected

structure Session where
  coordinator : Coordinator
  log : List Accepted

namespace Session

def initial (modelId revision : String) : Session where
  coordinator :=
    { client := .initial
      worker :=
        { modelId := modelId
          revision := revision
          state := .awaitingModelReady
          inputEndSequence := none
          lastFinalSegmentId := 0
          lastFinalEndSample := 0
          activeSegment := none } }
  log := []

/-- A call that is rejected leaves nothing in the log. -/
def settle {α : Type} (session : Session)
    (outcome : Coordinator × Except Rejection α) (entry : α → Accepted) :
    Session where
  coordinator := outcome.1
  log :=
    match outcome.2 with
    | .error _ => session.log
    | .ok value => session.log ++ [entry value]

def call (session : Session) : Call → Session
  | .clientControl raw =>
      session.settle (session.coordinator.onClientControl raw) .client
  | .clientAudio frame =>
      session.settle (session.coordinator.onClientAudio frame) .audio
  | .samplesConsumed count =>
      session.settle (session.coordinator.onSamplesConsumed count)
        (fun released => .consumed released.1)
  | .workerMessage raw =>
      session.settle (session.coordinator.onWorkerMessage raw) .worker
  | .disconnected =>
      { coordinator := session.coordinator.onDisconnected.1
        log := session.log ++ [.disconnected] }

def play (session : Session) (calls : List Call) : Session :=
  calls.foldl call session

end Session

end Asr

end GpuLink
