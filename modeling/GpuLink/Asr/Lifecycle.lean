import GpuLink.Asr.Session
import Mathlib.Data.List.Induction

/-!
# The life of a speech session

What one accepted call can do is said once.  The bounds on the samples, the
numbering of the frames, the states that go together and the way to completion
are kept by every such move.
-/

namespace GpuLink

namespace Asr

/-! ## What an accepted call does -/

/-- The moves of a coordinator, each with what it has found. -/
inductive Moves : Coordinator → Accepted → Coordinator → Prop where
  | started (coordinator : Coordinator)
      (ready : coordinator.worker.state = .streaming)
      (waiting : coordinator.client.state = .awaitingStart) :
      Moves coordinator (.client .start) { coordinator with
        client := { coordinator.client with state := .streaming } }
  | ended (coordinator : Coordinator) (lastSequence : Nat)
      (streaming : coordinator.worker.state = .streaming)
      (sending : coordinator.client.state = .streaming)
      (last : coordinator.client.nextSequence = lastSequence + 1) :
      Moves coordinator (.client (.endInput lastSequence))
        { client := { coordinator.client with state := .draining }
          worker := { coordinator.worker with
            inputEndSequence := some lastSequence
            state := .draining } }
  | cancelled (coordinator : Coordinator)
      (running : coordinator.worker.state.terminal = false)
      (going : coordinator.worker.state ≠ .cancelling) :
      Moves coordinator (.client .cancel)
        { client := { coordinator.client with state := .cancelled }
          worker := { coordinator.worker with state := .cancelling } }
  | audio (coordinator : Coordinator) (frame : AudioFrame)
      (streaming : coordinator.worker.state = .streaming)
      (sending : coordinator.client.state = .streaming)
      (sequence : frame.sequence = coordinator.client.nextSequence)
      (offset : frame.sampleOffset = coordinator.client.nextSampleOffset)
      (session : coordinator.client.nextSampleOffset + frame.sampleCount ≤
        maxSessionSamples)
      (queue : coordinator.client.queuedSamples + frame.sampleCount ≤
        maxQueuedSamples) :
      Moves coordinator (.audio frame) { coordinator with
        client := { coordinator.client with
          nextSequence := coordinator.client.nextSequence + 1
          nextSampleOffset :=
            coordinator.client.nextSampleOffset + frame.sampleCount
          queuedSamples :=
            coordinator.client.queuedSamples + frame.sampleCount } }
  | consumed (coordinator : Coordinator) (count : Nat)
      (queued : count ≤ coordinator.client.queuedSamples) :
      Moves coordinator (.consumed count) { coordinator with
        client := { coordinator.client with
          queuedSamples := coordinator.client.queuedSamples - count } }
  | ready (coordinator : Coordinator)
      (awaiting : coordinator.worker.state = .awaitingModelReady)
      (waiting : coordinator.client.state = .awaitingStart) :
      Moves coordinator
        (.worker (.modelReady coordinator.worker.modelId
          coordinator.worker.revision))
        { coordinator with
          worker := { coordinator.worker with state := .streaming } }
  | transcribed (coordinator : Coordinator) (message : Message)
      (running : coordinator.worker.state.terminal = false)
      (finalId finalEnd : Nat) (segment : Option Segment) :
      Moves coordinator (.worker message) { coordinator with
        worker := { coordinator.worker with
          lastFinalSegmentId := finalId
          lastFinalEndSample := finalEnd
          activeSegment := segment } }
  | completed (coordinator : Coordinator) (lastSequence : Nat)
      (draining : coordinator.worker.state = .draining)
      (drained : coordinator.client.state = .draining)
      (empty : coordinator.client.queuedSamples = 0)
      (last : coordinator.worker.inputEndSequence = some lastSequence)
      (closed : coordinator.worker.activeSegment = none) :
      Moves coordinator (.worker (.completed lastSequence)) { coordinator with
        worker := { coordinator.worker with state := .completed } }
  | workerCancelled (coordinator : Coordinator)
      (cancelling : coordinator.worker.state = .cancelling)
      (asked : coordinator.client.state = .cancelled) :
      Moves coordinator (.worker .cancelled) { coordinator with
        worker := { coordinator.worker with state := .cancelled } }
  | failed (coordinator : Coordinator) (code : String) (retryable : Bool)
      (running : coordinator.worker.state.terminal = false) :
      Moves coordinator (.worker (.error code retryable)) { coordinator with
        worker := { coordinator.worker with state := .failed } }
  | interrupted (coordinator : Coordinator)
      (running : coordinator.worker.state.terminal = false) :
      Moves coordinator .disconnected { coordinator with
        worker := { coordinator.worker with state := .interrupted } }
  | finished (coordinator : Coordinator)
      (ended : coordinator.worker.state.terminal = true) :
      Moves coordinator .disconnected coordinator

theorem ensureActive_ok {coordinator : Coordinator} {state : OutputState}
    (active : coordinator.ensureActive = .ok state) :
    coordinator.worker.state.terminal = false ∧
      coordinator.worker.state ≠ .cancelling ∧
      state = coordinator.worker.state := by
  unfold Coordinator.ensureActive at active
  split at active
  · cases active
  · rename_i going
    rw [not_or] at going
    cases active
    exact ⟨by simpa using going.1, going.2, rfl⟩

theorem onControl_ok {ingress after : ClientIngress} {raw : Option String}
    {message read : Message}
    (parsed : parseAsrControlFrame raw .client = .ok message)
    (accepted : ingress.onControl raw = .ok (read, after)) :
    (message = .start ∧ after = { ingress with state := .streaming }) ∨
      (∃ lastSequence, message = .endInput lastSequence ∧
        after = { ingress with state := .draining }) ∨
      (message = .cancel ∧ after = { ingress with state := .cancelled }) ∨
      ((∀ lastSequence, message ≠ .endInput lastSequence) ∧ message ≠ .start ∧
        message ≠ .cancel ∧ after = ingress) := by
  simp only [ClientIngress.onControl, parsed, bind, Except.bind] at accepted
  split at accepted
  · split at accepted
    · cases accepted
    · cases accepted
      exact Or.inl ⟨rfl, rfl⟩
  · split at accepted
    · cases accepted
    · cases accepted
      exact Or.inr (Or.inl ⟨_, rfl, rfl⟩)
  · split at accepted
    · cases accepted
    · cases accepted
      exact Or.inr (Or.inr (Or.inl ⟨rfl, rfl⟩))
  · rename_i notStart notEnd notCancel
    cases accepted
    exact Or.inr (Or.inr (Or.inr ⟨notEnd, notStart, notCancel, rfl⟩))

/-- A rejected call changes nothing, an accepted one is a move. -/
def Moved {α : Type} (coordinator : Coordinator) (entry : α → Accepted)
    (outcome : Coordinator × Except Rejection α) : Prop :=
  match outcome with
  | (after, .error _) => after = coordinator
  | (after, .ok value) => Moves coordinator (entry value) after

theorem onClientControl_moved (coordinator : Coordinator)
    (raw : Option String) :
    Moved coordinator .client (coordinator.onClientControl raw) := by
  unfold Coordinator.onClientControl
  cases parsed : parseAsrControlFrame raw .client with
  | error rejection => rfl
  | ok message =>
      cases active : coordinator.ensureActive with
      | error rejection => rfl
      | ok state =>
          obtain ⟨running, going, _⟩ := ensureActive_ok active
          obtain ⟨direction, bounded⟩ := parseAsrControlFrame_valid parsed
          simp only
          split
          · rename_i admitted
            cases accepted : coordinator.client.onControl raw with
            | error rejection => rfl
            | ok outcome =>
                obtain ⟨read, ingress⟩ := outcome
                simp only
                rcases onControl_ok parsed accepted with ⟨rfl, rfl⟩ |
                  ⟨lastSequence, rfl, rfl⟩ | ⟨rfl, rfl⟩ |
                  ⟨notEnd, notStart, notCancel, _⟩
                · simp only [Coordinator.admitsControl, Bool.and_eq_true,
                    decide_eq_true_eq] at admitted
                  exact .started _ admitted.1 admitted.2
                · simp only [Coordinator.admitsControl, Bool.and_eq_true,
                    decide_eq_true_eq] at admitted
                  obtain ⟨⟨⟨streaming, sending⟩, some⟩, last⟩ := admitted
                  have bounded : ¬uint32Max < lastSequence :=
                    Nat.not_lt.mpr bounded
                  simp only [Coordinator.followControl,
                    WorkerOutput.onClientEnd, streaming, ne_eq,
                    not_true_eq_false, bounded, or_self, if_false]
                  exact .ended _ lastSequence streaming sending (by omega)
                · have unended : ¬(coordinator.worker.state.terminal = true ∨
                      coordinator.worker.state = .cancelling) := by
                    simp [running, going]
                  simp only [Coordinator.followControl,
                    WorkerOutput.onClientCancel, if_neg unended]
                  exact .cancelled _ running going
                · cases message <;> simp_all [Message.direction]
          · rfl

theorem onClientAudio_moved (coordinator : Coordinator)
    (frame : Option (List UInt8)) :
    Moved coordinator .audio (coordinator.onClientAudio frame) := by
  unfold Coordinator.onClientAudio
  cases active : coordinator.ensureActive with
  | error rejection => rfl
  | ok state =>
      obtain ⟨_, _, rfl⟩ := ensureActive_ok active
      simp only
      split
      · rfl
      · rename_i streams
        simp only [not_or, Decidable.not_not] at streams
        cases accepted : coordinator.client.onAudio frame with
        | error rejection => rfl
        | ok outcome =>
            have sending : ¬coordinator.client.state ≠ .streaming :=
              not_not.mpr streams.2
            simp only [ClientIngress.onAudio, if_neg sending, bind, Except.bind]
              at accepted
            split at accepted
            · cases accepted
            · rename_i decoded read
              obtain ⟨sequence, offset, _, _, session⟩ :=
                decodeAsrAudioFrame_ok read
              split at accepted
              · cases accepted
              · rename_i queue
                cases accepted
                exact .audio _ decoded streams.1 streams.2 sequence offset
                  session (Nat.not_lt.mp queue)

theorem onSamplesConsumed_moved (coordinator : Coordinator)
    (count : Option Int) :
    Moved coordinator (fun released => .consumed released.1)
      (coordinator.onSamplesConsumed count) := by
  unfold Coordinator.onSamplesConsumed
  cases active : coordinator.ensureActive with
  | error rejection => rfl
  | ok state =>
      simp only
      split
      · rfl
      · cases accepted : coordinator.client.releaseSamples count with
        | error rejection => rfl
        | ok outcome =>
            unfold ClientIngress.releaseSamples at accepted
            split at accepted
            · cases accepted
            · split at accepted
              · rename_i count bounded
                cases accepted
                exact .consumed _ count.toNat (by omega)
              · cases accepted

theorem onTranscript_ok {output after : WorkerOutput} {transcript : Transcript}
    {final : Bool} (accepted : output.onTranscript transcript final =
      .ok after) :
    ∃ finalId finalEnd segment, after = { output with
      lastFinalSegmentId := finalId
      lastFinalEndSample := finalEnd
      activeSegment := segment } := by
  unfold WorkerOutput.onTranscript at accepted
  split at accepted
  · cases accepted
  · split at accepted
    · cases accepted
    · cases next : output.nextHypothesis transcript with
      | error rejection =>
          rw [next] at accepted
          cases accepted
      | ok segment =>
          simp only [next, bind, Except.bind] at accepted
          split at accepted
          · cases accepted
            exact ⟨_, _, _, rfl⟩
          · cases accepted
            exact ⟨_, _, _, rfl⟩

/-- A message that both sides accept. -/
theorem accept_moves {coordinator : Coordinator} {message : Message}
    {output : WorkerOutput}
    (admitted : coordinator.admitsOutput message = true)
    (accepted : coordinator.worker.accept message = .ok output) :
    Moves coordinator (.worker message)
      { coordinator with worker := output } := by
  unfold WorkerOutput.accept at accepted
  split at accepted
  · cases accepted
  · rename_i running
    have running : coordinator.worker.state.terminal = false := by
      simpa using running
    split at accepted
    · split at accepted
      · cases accepted
      · rename_i expected
        simp only [not_or, Decidable.not_not] at expected
        obtain ⟨awaiting, rfl, rfl⟩ := expected
        simp only [Coordinator.admitsOutput, decide_eq_true_eq] at admitted
        cases accepted
        exact .ready _ awaiting admitted
    · obtain ⟨_, _, _, rfl⟩ := onTranscript_ok accepted
      exact .transcribed _ _ running _ _ _
    · obtain ⟨_, _, _, rfl⟩ := onTranscript_ok accepted
      exact .transcribed _ _ running _ _ _
    · split at accepted
      · cases accepted
      · rename_i expected
        simp only [not_or, Decidable.not_not, Bool.not_eq_true,
          Option.isSome_eq_false_iff, Option.isNone_iff_eq_none] at expected
        simp only [Coordinator.admitsOutput, Bool.and_eq_true,
          decide_eq_true_eq] at admitted
        cases accepted
        exact .completed _ _ expected.1 admitted.1.1 admitted.1.2 expected.2.1
          expected.2.2
    · split at accepted
      · cases accepted
      · simp only [Coordinator.admitsOutput, Bool.and_eq_true,
          decide_eq_true_eq] at admitted
        cases accepted
        exact .workerCancelled _ admitted.2 admitted.1
    · cases accepted
      exact .failed _ _ _ running
    · cases accepted

theorem onWorkerMessage_moved (coordinator : Coordinator)
    (raw : Option String) :
    Moved coordinator .worker (coordinator.onWorkerMessage raw) := by
  unfold Coordinator.onWorkerMessage
  cases parsed : parseAsrControlFrame raw .worker with
  | error rejection => rfl
  | ok message =>
      simp only
      split
      · rfl
      · split
        · rename_i admitted
          cases accepted : coordinator.worker.onMessage raw with
          | error rejection => rfl
          | ok outcome =>
              simp only [WorkerOutput.onMessage, parsed, bind, Except.bind]
                at accepted
              split at accepted
              · cases accepted
              · rename_i output found
                cases accepted
                exact accept_moves admitted found
        · rfl

theorem onDisconnected_moves (coordinator : Coordinator) :
    Moves coordinator .disconnected coordinator.onDisconnected.1 := by
  unfold Coordinator.onDisconnected WorkerOutput.onDisconnected
  cases ended : coordinator.worker.state.terminal with
  | true => exact .finished _ ended
  | false => exact .interrupted _ ended

/-- A call leaves a session as it is, or is a move that the log records. -/
theorem call_cases (session : Session) (call : Call) :
    session.call call = session ∨ ∃ accepted,
      Moves session.coordinator accepted (session.call call).coordinator ∧
        (session.call call).log = session.log ++ [accepted] := by
  have settled : ∀ {α : Type} (entry : α → Accepted)
      (outcome : Coordinator × Except Rejection α),
      Moved session.coordinator entry outcome →
      session.settle outcome entry = session ∨ ∃ accepted,
        Moves session.coordinator accepted
            (session.settle outcome entry).coordinator ∧
          (session.settle outcome entry).log = session.log ++ [accepted] := by
    intro α entry outcome moved
    obtain ⟨after, result⟩ := outcome
    cases result with
    | error rejection =>
        have same : after = session.coordinator := moved
        rw [same]
        exact Or.inl rfl
    | ok value => exact Or.inr ⟨entry value, moved, rfl⟩
  cases call with
  | clientControl raw => exact settled _ _ (onClientControl_moved _ raw)
  | clientAudio frame => exact settled _ _ (onClientAudio_moved _ frame)
  | samplesConsumed count => exact settled _ _ (onSamplesConsumed_moved _ count)
  | workerMessage raw => exact settled _ _ (onWorkerMessage_moved _ raw)
  | disconnected => exact Or.inr ⟨_, onDisconnected_moves _, rfl⟩

/-! ## What the log tells -/

def framesOf : List Accepted → List AudioFrame
  | [] => []
  | .audio frame :: rest => frame :: framesOf rest
  | _ :: rest => framesOf rest

def consumedOf : List Accepted → Nat
  | [] => 0
  | .consumed count :: rest => count + consumedOf rest
  | _ :: rest => consumedOf rest

def samples : List AudioFrame → Nat
  | [] => 0
  | frame :: rest => frame.sampleCount + samples rest

theorem framesOf_append (first second : List Accepted) :
    framesOf (first ++ second) = framesOf first ++ framesOf second := by
  induction first with
  | nil => rfl
  | cons head rest induction => cases head <;> simp [framesOf, induction]

theorem consumedOf_append (first second : List Accepted) :
    consumedOf (first ++ second) = consumedOf first + consumedOf second := by
  induction first with
  | nil => simp [consumedOf]
  | cons head rest induction =>
      cases head <;> simp [consumedOf, induction, Nat.add_assoc]

theorem samples_append (first second : List AudioFrame) :
    samples (first ++ second) = samples first + samples second := by
  induction first with
  | nil => simp [samples]
  | cons head rest induction => simp [samples, induction, Nat.add_assoc]

/-- Frames are numbered from zero, and each begins where the one before it
ends. -/
def Contiguous (frames : List AudioFrame) : Prop :=
  ∀ before frame after, frames = before ++ frame :: after →
    frame.sequence = before.length ∧ frame.sampleOffset = samples before

theorem Contiguous.append {frames : List AudioFrame} {frame : AudioFrame}
    (contiguous : Contiguous frames) (sequence : frame.sequence = frames.length)
    (offset : frame.sampleOffset = samples frames) :
    Contiguous (frames ++ [frame]) := by
  intro before other after split
  rcases List.eq_nil_or_concat after with rfl | ⟨rest, last, rfl⟩
  · obtain ⟨rfl, same⟩ := List.append_inj' split rfl
    cases same
    exact ⟨sequence, offset⟩
  · rw [List.concat_eq_append, ← List.cons_append, ← List.append_assoc]
      at split
    obtain ⟨same, _⟩ := List.append_inj' split rfl
    exact contiguous before other rest same

/-- The counters of the client's side. -/
structure Counted (session : Session) : Prop where
  queue : session.coordinator.client.queuedSamples ≤ maxQueuedSamples
  balance : session.coordinator.client.queuedSamples +
    consumedOf session.log = session.coordinator.client.nextSampleOffset
  bounded : session.coordinator.client.nextSampleOffset ≤ maxSessionSamples
  numbered : session.coordinator.client.nextSequence =
    (framesOf session.log).length
  placed : session.coordinator.client.nextSampleOffset =
    samples (framesOf session.log)
  contiguous : Contiguous (framesOf session.log)

/-- The states of the two sides that go together. -/
def Compatible (client : ClientState) : OutputState → Prop
  | .awaitingModelReady => client = .awaitingStart
  | .streaming => client = .awaitingStart ∨ client = .streaming
  | .draining => client = .draining
  | .cancelling => client = .cancelled
  | .completed => client = .draining
  | .cancelled => client = .cancelled
  | .failed => True
  | .interrupted => True

/-- A session has been completed after the worker was ready, the client had
begun and ended its input, and every admitted sample was consumed. -/
def CompletedInOrder (modelId revision : String) (session : Session) : Prop :=
  ∃ before lastSequence after,
    session.log = before ++ .worker (.completed lastSequence) :: after ∧
      .worker (.modelReady modelId revision) ∈ before ∧
      .client .start ∈ before ∧ .client (.endInput lastSequence) ∈ before ∧
      (framesOf before).length = lastSequence + 1 ∧
      consumedOf before = samples (framesOf before) ∧
      session.coordinator.worker.activeSegment = none

/-- What the log holds in each state. -/
structure Traced (modelId revision : String) (session : Session) : Prop where
  pair : Compatible session.coordinator.client.state
    session.coordinator.worker.state
  identity : session.coordinator.worker.modelId = modelId ∧
    session.coordinator.worker.revision = revision
  ready : session.coordinator.worker.state = .streaming ∨
    session.coordinator.worker.state = .draining →
      .worker (.modelReady modelId revision) ∈ session.log
  started : session.coordinator.client.state = .streaming ∨
    session.coordinator.client.state = .draining →
      .client .start ∈ session.log
  ended : session.coordinator.worker.state = .draining → ∃ lastSequence,
    session.coordinator.worker.inputEndSequence = some lastSequence ∧
      .client (.endInput lastSequence) ∈ session.log ∧
      session.coordinator.client.nextSequence = lastSequence + 1
  finished : session.coordinator.worker.state = .completed →
    CompletedInOrder modelId revision session

theorem Counted.moves {coordinator after : Coordinator} {log : List Accepted}
    {accepted : Accepted} (counted : Counted ⟨coordinator, log⟩)
    (moves : Moves coordinator accepted after) :
    Counted ⟨after, log ++ [accepted]⟩ := by
  have still : ∀ entry : Accepted, ∀ changed : Coordinator,
      framesOf [entry] = [] → consumedOf [entry] = 0 →
      changed.client.queuedSamples = coordinator.client.queuedSamples →
      changed.client.nextSampleOffset = coordinator.client.nextSampleOffset →
      changed.client.nextSequence = coordinator.client.nextSequence →
      Counted ⟨changed, log ++ [entry]⟩ := by
    intro entry changed unframed unconsumed queued offset sequence
    obtain ⟨queue, balance, bounded, numbered, placed, contiguous⟩ := counted
    constructor <;> simp only [framesOf_append, consumedOf_append, unframed,
      unconsumed, queued, offset, sequence, List.append_nil, Nat.add_zero]
      <;> assumption
  cases moves with
  | audio frame streaming sending sequence offset session queue =>
      obtain ⟨_, balance, _, numbered, placed, contiguous⟩ := counted
      simp only at balance numbered placed
      constructor
      · exact queue
      · simp only [consumedOf_append, consumedOf]
        omega
      · exact session
      · simp [framesOf_append, framesOf, numbered]
      · simp [framesOf_append, framesOf, samples_append, samples, placed]
      · simp only [framesOf_append, framesOf]
        exact contiguous.append (by rw [sequence, numbered])
          (by rw [offset, placed])
  | consumed count queued =>
      obtain ⟨queue, balance, bounded, numbered, placed, contiguous⟩ := counted
      simp only at queue balance
      constructor
      · exact Nat.le_trans (Nat.sub_le _ _) queue
      · simp only [consumedOf_append, consumedOf]
        omega
      · exact bounded
      · simpa [framesOf_append, framesOf] using numbered
      · simpa [framesOf_append, framesOf] using placed
      · simpa [framesOf_append, framesOf] using contiguous
  | started => exact still _ _ rfl rfl rfl rfl rfl
  | ended => exact still _ _ rfl rfl rfl rfl rfl
  | cancelled => exact still _ _ rfl rfl rfl rfl rfl
  | ready => exact still _ _ rfl rfl rfl rfl rfl
  | transcribed => exact still _ _ rfl rfl rfl rfl rfl
  | completed => exact still _ _ rfl rfl rfl rfl rfl
  | workerCancelled => exact still _ _ rfl rfl rfl rfl rfl
  | failed => exact still _ _ rfl rfl rfl rfl rfl
  | interrupted => exact still _ _ rfl rfl rfl rfl rfl
  | finished => exact still _ _ rfl rfl rfl rfl rfl

theorem CompletedInOrder.append {modelId revision : String}
    {coordinator after : Coordinator} {log : List Accepted}
    {accepted : Accepted}
    (completed : CompletedInOrder modelId revision ⟨coordinator, log⟩)
    (segment : after.worker.activeSegment = coordinator.worker.activeSegment) :
    CompletedInOrder modelId revision ⟨after, log ++ [accepted]⟩ := by
  obtain ⟨before, lastSequence, rest, split, facts⟩ := completed
  refine ⟨before, lastSequence, rest ++ [accepted], ?_, ?_⟩
  · have split : log = before ++ .worker (.completed lastSequence) :: rest :=
      split
    simp [split]
  · rw [segment]
    exact facts

theorem Traced.moves {modelId revision : String}
    {coordinator after : Coordinator} {log : List Accepted}
    {accepted : Accepted} (counted : Counted ⟨coordinator, log⟩)
    (traced : Traced modelId revision ⟨coordinator, log⟩)
    (moves : Moves coordinator accepted after) :
    Traced modelId revision ⟨after, log ++ [accepted]⟩ := by
  obtain ⟨pair, identity, ready, started, ended, finished⟩ := traced
  simp only at pair identity ready started ended finished
  cases moves with
  | started streaming waiting =>
      constructor
      · simp only [streaming, Compatible]
        exact Or.inr trivial
      · exact identity
      · intro state
        exact List.mem_append_left _ (ready state)
      · intro _
        exact List.mem_append_right _ (List.mem_singleton.mpr rfl)
      · intro draining
        have draining : coordinator.worker.state = .draining := draining
        rw [streaming] at draining
        cases draining
      · intro completed
        have completed : coordinator.worker.state = .completed := completed
        rw [streaming] at completed
        cases completed
  | ended lastSequence streaming sending last =>
      constructor
      · rfl
      · exact identity
      · intro _
        exact List.mem_append_left _ (ready (Or.inl streaming))
      · intro _
        exact List.mem_append_left _ (started (Or.inl sending))
      · intro _
        exact ⟨lastSequence, rfl,
          List.mem_append_right _ (List.mem_singleton.mpr rfl), last⟩
      · intro completed
        cases completed
  | cancelled running going =>
      constructor
      · rfl
      · exact identity
      · intro state
        rcases state with state | state <;> cases state
      · intro state
        rcases state with state | state <;> cases state
      · intro state
        cases state
      · intro state
        cases state
  | audio frame streaming sending =>
      constructor
      · exact pair
      · exact identity
      · intro state
        exact List.mem_append_left _ (ready state)
      · intro state
        exact List.mem_append_left _ (started state)
      · intro draining
        have draining : coordinator.worker.state = .draining := draining
        rw [streaming] at draining
        cases draining
      · intro completed
        have completed : coordinator.worker.state = .completed := completed
        rw [streaming] at completed
        cases completed
  | consumed count queued =>
      constructor
      · exact pair
      · exact identity
      · intro state
        exact List.mem_append_left _ (ready state)
      · intro state
        exact List.mem_append_left _ (started state)
      · intro state
        obtain ⟨lastSequence, input, asked, last⟩ := ended state
        exact ⟨lastSequence, input, List.mem_append_left _ asked, last⟩
      · intro state
        exact (finished state).append rfl
  | ready awaiting waiting =>
      constructor
      · exact Or.inl waiting
      · exact identity
      · intro _
        rw [← identity.1, ← identity.2]
        exact List.mem_append_right _ (List.mem_singleton.mpr rfl)
      · intro state
        exact List.mem_append_left _ (started state)
      · intro state
        cases state
      · intro state
        cases state
  | transcribed message running finalId finalEnd segment =>
      constructor
      · exact pair
      · exact identity
      · intro state
        exact List.mem_append_left _ (ready state)
      · intro state
        exact List.mem_append_left _ (started state)
      · intro state
        obtain ⟨lastSequence, input, asked, last⟩ := ended state
        exact ⟨lastSequence, input, List.mem_append_left _ asked, last⟩
      · intro completed
        have completed : coordinator.worker.state = .completed := completed
        rw [completed] at running
        cases running
  | completed lastSequence draining drained empty last closed =>
      constructor
      · exact drained
      · exact identity
      · intro state
        rcases state with state | state <;> cases state
      · intro state
        exact List.mem_append_left _ (started state)
      · intro state
        cases state
      · intro _
        obtain ⟨other, input, asked, number⟩ := ended draining
        obtain rfl : other = lastSequence := by
          rw [last] at input
          exact (Option.some.inj input).symm
        have numbered := counted.numbered
        have balance := counted.balance
        have placed := counted.placed
        simp only at numbered balance placed
        refine ⟨log, other, [], rfl, ready (Or.inr draining),
          started (Or.inr drained), asked, ?_, ?_, closed⟩
        · omega
        · omega
  | workerCancelled cancelling asked =>
      constructor
      · exact asked
      · exact identity
      · intro state
        rcases state with state | state <;> cases state
      · intro state
        exact List.mem_append_left _ (started state)
      · intro state
        cases state
      · intro state
        cases state
  | failed code retryable running =>
      constructor
      · trivial
      · exact identity
      · intro state
        rcases state with state | state <;> cases state
      · intro state
        exact List.mem_append_left _ (started state)
      · intro state
        cases state
      · intro state
        cases state
  | interrupted running =>
      constructor
      · trivial
      · exact identity
      · intro state
        rcases state with state | state <;> cases state
      · intro state
        exact List.mem_append_left _ (started state)
      · intro state
        cases state
      · intro state
        cases state
  | finished final =>
      constructor
      · exact pair
      · exact identity
      · intro state
        exact List.mem_append_left _ (ready state)
      · intro state
        exact List.mem_append_left _ (started state)
      · intro state
        obtain ⟨lastSequence, input, asked, last⟩ := ended state
        exact ⟨lastSequence, input, List.mem_append_left _ asked, last⟩
      · intro state
        exact (finished state).append rfl

/-! ## Runs -/

theorem play_append (session : Session) (calls more : List Call) :
    session.play (calls ++ more) = (session.play calls).play more :=
  List.foldl_append

theorem play_invariant (modelId revision : String) (calls : List Call) :
    Counted ((Session.initial modelId revision).play calls) ∧
      Traced modelId revision
        ((Session.initial modelId revision).play calls) := by
  induction calls using List.reverseRecOn with
  | nil =>
      constructor
      · constructor
        · exact Nat.zero_le _
        · rfl
        · exact Nat.zero_le _
        · rfl
        · rfl
        · intro before frame after split
          simp [Session.play, Session.initial, framesOf] at split
      · constructor
        · rfl
        · exact ⟨rfl, rfl⟩
        · intro state
          rcases state with state | state <;> cases state
        · intro state
          rcases state with state | state <;> cases state
        · intro state
          cases state
        · intro state
          cases state
  | append_singleton calls call induction =>
      rw [play_append]
      generalize (Session.initial modelId revision).play calls = session
        at induction
      obtain ⟨counted, traced⟩ := induction
      have next : session.play [call] = session.call call := rfl
      rw [next]
      rcases call_cases session call with same | ⟨accepted, moves, logged⟩
      · rw [same]
        exact ⟨counted, traced⟩
      · have split : session.call call =
            ⟨(session.call call).coordinator, session.log ++ [accepted]⟩ := by
          rw [← logged]
        rw [split]
        exact ⟨counted.moves moves, traced.moves counted moves⟩

/-- A session that is never going to be completed: it has been cancelled,
failed or interrupted. -/
def Lost (session : Session) : Prop :=
  session.coordinator.client.state = .cancelled ∨
    session.coordinator.worker.state = .cancelled ∨
    session.coordinator.worker.state = .failed ∨
    session.coordinator.worker.state = .interrupted

theorem lost_moves {session after : Session} {accepted : Accepted}
    (lost : Lost session)
    (moves : Moves session.coordinator accepted after.coordinator) :
    Lost after := by
  obtain ⟨coordinator, log⟩ := session
  obtain ⟨changed, other⟩ := after
  unfold Lost at lost ⊢
  simp only at lost moves ⊢
  cases moves <;> simp_all [OutputState.terminal]

theorem lost_play {session : Session} (lost : Lost session)
    (calls : List Call) : Lost (session.play calls) := by
  induction calls generalizing session with
  | nil => exact lost
  | cons call rest induction =>
      apply induction
      rcases call_cases session call with same | ⟨accepted, moves, logged⟩
      · rw [same]
        exact lost
      · exact lost_moves lost moves

/-- The life of a session. -/
structure Lifecycle (modelId revision : String) (session : Session) : Prop where
  queue : session.coordinator.client.queuedSamples ≤ 32000
  admitted : session.coordinator.client.queuedSamples ≤
    session.coordinator.client.nextSampleOffset
  bounded : session.coordinator.client.nextSampleOffset ≤ 28800000
  contiguous : Contiguous (framesOf session.log)
  pair : Compatible session.coordinator.client.state
    session.coordinator.worker.state
  completed : session.coordinator.worker.state = .completed →
    CompletedInOrder modelId revision session
  lost : Lost session → ∀ more,
    (session.play more).coordinator.worker.state ≠ .completed

/-- Every session, after any calls, has lived as it should. -/
theorem asr_lifecycle (modelId revision : String) (calls : List Call) :
    Lifecycle modelId revision
      ((Session.initial modelId revision).play calls) := by
  obtain ⟨counted, traced⟩ := play_invariant modelId revision calls
  constructor
  · exact counted.queue
  · have balance := counted.balance
    omega
  · exact counted.bounded
  · exact counted.contiguous
  · exact traced.pair
  · exact traced.finished
  · intro lost more completed
    obtain ⟨_, traced⟩ := play_invariant modelId revision (calls ++ more)
    rw [play_append] at traced
    have pair := traced.pair
    rw [completed] at pair
    rcases lost_play lost more with state | state | state | state
    · rw [show _ = ClientState.draining from pair] at state
      cases state
    · rw [completed] at state
      cases state
    · rw [completed] at state
      cases state
    · rw [completed] at state
      cases state

end Asr

end GpuLink
