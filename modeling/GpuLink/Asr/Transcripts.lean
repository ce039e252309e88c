import GpuLink.Asr.Lifecycle
import GpuLink.Library.Machine

/-!
# The transcripts of a speech session

The hypotheses of a session come segment after segment.  Within one they share
a start and only grow; the final one closes it for good.
-/

namespace GpuLink

namespace Asr

/-- A transcript that has been accepted, and whether it was final. -/
structure Hypothesis where
  transcript : Transcript
  final : Bool

def Accepted.hypothesis? : Accepted → Option Hypothesis
  | .worker (.partialTranscript transcript) => some ⟨transcript, false⟩
  | .worker (.finalTranscript transcript) => some ⟨transcript, true⟩
  | _ => none

def hypothesesOf (log : List Accepted) : List Hypothesis :=
  log.filterMap Accepted.hypothesis?

def finalsOf (log : List Accepted) : List Transcript :=
  ((hypothesesOf log).filter (·.final)).map (·.transcript)

/-- How a hypothesis may come after another one. -/
structure Follows (earlier later : Hypothesis) : Prop where
  ordered : earlier.transcript.segmentId ≤ later.transcript.segmentId
  closed : earlier.final = true →
    earlier.transcript.segmentId < later.transcript.segmentId ∧
      earlier.transcript.endSample ≤ later.transcript.startSample
  grows : earlier.transcript.segmentId = later.transcript.segmentId →
    earlier.transcript.startSample = later.transcript.startSample ∧
      earlier.transcript.revision < later.transcript.revision ∧
      earlier.transcript.endSample ≤ later.transcript.endSample

structure Disciplined (log : List Accepted) : Prop where
  numbered : (finalsOf log).map (·.segmentId) =
    List.range' 1 (finalsOf log).length
  ordered : (hypothesesOf log).Pairwise Follows
  nonempty : ∀ hypothesis ∈ hypothesesOf log,
    hypothesis.transcript.startSample < hypothesis.transcript.endSample
  consumed : Chronological (fun before entry => ∀ {hypothesis},
    entry.hypothesis? = some hypothesis →
      hypothesis.transcript.endSample ≤ consumedOf before) log

/-! ## What a call adds -/

/-- The entry that a call adds to the log, and what it does to the worker's
side. -/
inductive Hears (before after : Coordinator) (accepted : Accepted) : Prop where
  | silent (none : accepted.hypothesis? = none)
      (finalId : after.worker.lastFinalSegmentId =
        before.worker.lastFinalSegmentId)
      (finalEnd : after.worker.lastFinalEndSample =
        before.worker.lastFinalEndSample)
      (segment : after.worker.activeSegment = before.worker.activeSegment)
  | transcript {hypothesis : Hypothesis}
      (some : accepted.hypothesis? = some hypothesis)
      (nonempty : hypothesis.transcript.startSample <
        hypothesis.transcript.endSample)
      (consumed : hypothesis.transcript.endSample ≤ before.consumedSamples)
      (taken : before.worker.onTranscript hypothesis.transcript
        hypothesis.final = .ok after.worker)

theorem parseTranscript_nonempty {tree : DuplicateKeys.Tree}
    {transcript : Transcript}
    (parsed : parseTranscript tree = some transcript) :
    transcript.startSample < transcript.endSample := by
  simp only [parseTranscript, Option.bind_eq_bind, Option.bind_eq_some_iff]
    at parsed
  obtain ⟨_, _, _, _, _, _, startSample, _, endSample, read, parsed⟩ := parsed
  split at parsed
  · split at parsed
    · cases parsed
      exact (uint_bounds read).1
    · cases parsed
  · cases parsed

/-- The transcript of a message covers a stretch of the audio. -/
theorem parseMessage_nonempty {tree : DuplicateKeys.Tree}
    {direction : Direction} {message : Message}
    (parsed : parseMessage tree direction = some message)
    {hypothesis : Hypothesis}
    (isTranscript : (Accepted.worker message).hypothesis? = some hypothesis) :
    hypothesis.transcript.startSample < hypothesis.transcript.endSample := by
  unfold parseMessage at parsed
  split at parsed
  · simp only [parseStart, Option.bind_eq_bind, Option.bind_eq_some_iff]
      at parsed
    obtain ⟨_, _, _, _, _, _, parsed⟩ := parsed
    split at parsed
    · split at parsed
      · cases parsed
        cases isTranscript
      · cases parsed
    · cases parsed
  · simp only [Option.bind_eq_bind, Option.bind_eq_some_iff] at parsed
    obtain ⟨_, _, _, _, parsed⟩ := parsed
    cases parsed
    cases isTranscript
  · obtain ⟨_, _, rfl⟩ := Option.map_eq_some_iff.mp parsed
    cases isTranscript
  · simp only [parseModelReady, Option.bind_eq_bind, Option.bind_eq_some_iff]
      at parsed
    obtain ⟨_, _, parsed⟩ := parsed
    split at parsed
    · split at parsed
      · cases parsed
        cases isTranscript
      · cases parsed
    · cases parsed
  · obtain ⟨_, read, rfl⟩ := Option.map_eq_some_iff.mp parsed
    cases isTranscript
    exact parseTranscript_nonempty read
  · obtain ⟨_, read, rfl⟩ := Option.map_eq_some_iff.mp parsed
    cases isTranscript
    exact parseTranscript_nonempty read
  · simp only [Option.bind_eq_bind, Option.bind_eq_some_iff] at parsed
    obtain ⟨_, _, _, _, parsed⟩ := parsed
    cases parsed
    cases isTranscript
  · obtain ⟨_, _, rfl⟩ := Option.map_eq_some_iff.mp parsed
    cases isTranscript
  · simp only [parseError, Option.bind_eq_bind, Option.bind_eq_some_iff]
      at parsed
    obtain ⟨_, _, parsed⟩ := parsed
    split at parsed
    · split at parsed
      · cases parsed
        cases isTranscript
      · cases parsed
    · cases parsed
  · cases parsed

theorem accept_hears {coordinator : Coordinator} {message : Message}
    {output : WorkerOutput} {tree : DuplicateKeys.Tree} {direction : Direction}
    (parsed : parseMessage tree direction = some message)
    (admitted : coordinator.admitsOutput message = true)
    (accepted : coordinator.worker.accept message = .ok output) :
    Hears coordinator { coordinator with worker := output }
      (.worker message) := by
  unfold WorkerOutput.accept at accepted
  split at accepted
  · cases accepted
  · split at accepted
    · split at accepted
      · cases accepted
      · cases accepted
        exact .silent rfl rfl rfl rfl
    · simp only [Coordinator.admitsOutput, Bool.and_eq_true, decide_eq_true_eq]
        at admitted
      exact .transcript rfl (parseMessage_nonempty parsed rfl) admitted.2
        accepted
    · simp only [Coordinator.admitsOutput, Bool.and_eq_true, decide_eq_true_eq]
        at admitted
      exact .transcript rfl (parseMessage_nonempty parsed rfl) admitted.2
        accepted
    · split at accepted
      · cases accepted
      · cases accepted
        exact .silent rfl rfl rfl rfl
    · split at accepted
      · cases accepted
      · cases accepted
        exact .silent rfl rfl rfl rfl
    · cases accepted
      exact .silent rfl rfl rfl rfl
    · cases accepted

/-- Other calls than a worker's message leave the segments alone. -/
theorem Moves.hears {before after : Coordinator} {accepted : Accepted}
    (moves : Moves before accepted after)
    (other : ∀ message, accepted ≠ .worker message) :
    Hears before after accepted := by
  cases moves with
  | started | ended | cancelled | audio | consumed | interrupted | finished =>
      exact .silent rfl rfl rfl rfl
  | ready | transcribed | completed | workerCancelled | failed =>
      exact absurd rfl (other _)

theorem onWorkerMessage_hears {coordinator after : Coordinator}
    {raw : Option String} {message : Message}
    (taken : coordinator.onWorkerMessage raw = (after, .ok message)) :
    Hears coordinator after (.worker message) := by
  unfold Coordinator.onWorkerMessage at taken
  cases parsed : parseAsrControlFrame raw .worker with
  | error rejection =>
      rw [parsed] at taken
      cases taken
  | ok read =>
      obtain ⟨tree, found⟩ := parseAsrControlFrame_message parsed
      rw [parsed] at taken
      simp only at taken
      split at taken
      · cases taken
      · split at taken
        · rename_i admitted
          cases accepted : coordinator.worker.onMessage raw with
          | error rejection =>
              rw [accepted] at taken
              cases taken
          | ok outcome =>
              rw [accepted] at taken
              simp only [WorkerOutput.onMessage, parsed, bind, Except.bind]
                at accepted
              split at accepted
              · cases accepted
              · rename_i output takes
                cases accepted
                cases taken
                exact accept_hears found admitted takes
        · cases taken

/-- A call that is accepted is heard. -/
theorem call_hears (session : Session) (call : Call) :
    session.call call = session ∨ ∃ accepted,
      Hears session.coordinator (session.call call).coordinator accepted ∧
        (session.call call).log = session.log ++ [accepted] := by
  have settled : ∀ {α : Type} (entry : α → Accepted)
      (outcome : Coordinator × Except Rejection α),
      Moved session.coordinator entry outcome →
      (∀ value message, entry value ≠ .worker message) →
      session.settle outcome entry = session ∨ ∃ accepted,
        Hears session.coordinator (session.settle outcome entry).coordinator
            accepted ∧
          (session.settle outcome entry).log = session.log ++ [accepted] := by
    intro α entry outcome moved other
    obtain ⟨after, result⟩ := outcome
    cases result with
    | error rejection =>
        have same : after = session.coordinator := moved
        rw [same]
        exact Or.inl rfl
    | ok value =>
        have moves : Moves session.coordinator (entry value) after := moved
        exact Or.inr ⟨entry value, moves.hears (other value), rfl⟩
  cases call with
  | clientControl raw =>
      exact settled _ _ (onClientControl_moved _ raw) (by simp)
  | clientAudio frame =>
      exact settled _ _ (onClientAudio_moved _ frame) (by simp)
  | samplesConsumed count =>
      exact settled _ _ (onSamplesConsumed_moved _ count) (by simp)
  | disconnected =>
      exact Or.inr ⟨_, (onDisconnected_moves _).hears (by simp), rfl⟩
  | workerMessage raw =>
      rcases taken : session.coordinator.onWorkerMessage raw with
        ⟨after, result⟩
      have next : session.call (.workerMessage raw) =
          session.settle (after, result) .worker := by
        rw [← taken]
        rfl
      rw [next]
      cases result with
      | error rejection =>
          have moved := onWorkerMessage_moved session.coordinator raw
          rw [taken] at moved
          rw [show after = session.coordinator from moved]
          exact Or.inl rfl
      | ok message =>
          exact Or.inr ⟨_, onWorkerMessage_hears taken, rfl⟩

/-! ## The invariant -/

/-- The hypothesis is on the segment, and the segment has come as far. -/
structure On (hypothesis : Hypothesis) (segment : Segment) : Prop where
  unfinished : hypothesis.final = false
  segmentId : hypothesis.transcript.segmentId = segment.segmentId
  startSample : hypothesis.transcript.startSample = segment.startSample
  revision : hypothesis.transcript.revision ≤ segment.revision
  endSample : hypothesis.transcript.endSample ≤ segment.endSample

/-- What the worker's side remembers of the hypotheses. -/
structure Remembers (output : WorkerOutput) (log : List Accepted) : Prop where
  counted : (finalsOf log).length = output.lastFinalSegmentId
  ended : ∀ hypothesis ∈ hypothesesOf log, hypothesis.final = true →
    hypothesis.transcript.endSample ≤ output.lastFinalEndSample
  placed : ∀ hypothesis ∈ hypothesesOf log,
    hypothesis.transcript.segmentId ≤ output.lastFinalSegmentId ∨
      ∃ segment, output.activeSegment = some segment ∧ On hypothesis segment
  current : ∀ {segment}, output.activeSegment = some segment →
    segment.segmentId = output.lastFinalSegmentId + 1

/-- A hypothesis that the worker's side takes. -/
structure Taken (before after : WorkerOutput) (hypothesis : Hypothesis) :
    Prop where
  next : hypothesis.transcript.segmentId = before.lastFinalSegmentId + 1
  later : before.lastFinalEndSample ≤ hypothesis.transcript.startSample
  grows : ∀ {segment}, before.activeSegment = some segment →
    segment.startSample = hypothesis.transcript.startSample ∧
      segment.revision < hypothesis.transcript.revision ∧
      segment.endSample ≤ hypothesis.transcript.endSample
  final : hypothesis.final = true →
    after.lastFinalSegmentId = hypothesis.transcript.segmentId ∧
      after.lastFinalEndSample = hypothesis.transcript.endSample ∧
      after.activeSegment = none
  unfinished : hypothesis.final = false →
    after.lastFinalSegmentId = before.lastFinalSegmentId ∧
      after.lastFinalEndSample = before.lastFinalEndSample ∧
      ∃ segment, after.activeSegment = some segment ∧ On hypothesis segment

theorem nextHypothesis_ok {output : WorkerOutput} {transcript : Transcript}
    {segment : Segment}
    (next : output.nextHypothesis transcript = .ok segment) :
    (∀ {earlier}, output.activeSegment = some earlier →
      earlier.startSample = transcript.startSample ∧
        earlier.revision < transcript.revision ∧
        earlier.endSample ≤ transcript.endSample) ∧
      On ⟨transcript, false⟩ segment := by
  unfold WorkerOutput.nextHypothesis at next
  cases active : output.activeSegment with
  | none =>
      rw [active] at next
      cases next
      refine ⟨(fun none => by cases none), ?_⟩
      exact ⟨rfl, rfl, rfl, Nat.le_refl _, Nat.le_refl _⟩
  | some earlier =>
      rw [active] at next
      simp only at next
      split at next
      · cases next
      · rename_i valid
        cases next
        simp only [not_or, Decidable.not_not, Nat.not_le, Nat.not_lt] at valid
        obtain ⟨same, newer, start, longer⟩ := valid
        constructor
        · intro other found
          cases found
          exact ⟨start.symm, newer, longer⟩
        · exact ⟨rfl, same, start, Nat.le_refl _, Nat.le_refl _⟩

theorem onTranscript_taken {before after : WorkerOutput}
    {hypothesis : Hypothesis}
    (accepted : before.onTranscript hypothesis.transcript hypothesis.final =
      .ok after) : Taken before after hypothesis := by
  unfold WorkerOutput.onTranscript at accepted
  split at accepted
  · cases accepted
  · split at accepted
    · cases accepted
    · rename_i placed
      simp only [not_or, Decidable.not_not, Nat.not_lt] at placed
      obtain ⟨next, _, later⟩ := placed
      cases found : before.nextHypothesis hypothesis.transcript with
      | error rejection =>
          rw [found] at accepted
          cases accepted
      | ok segment =>
          obtain ⟨grows, on⟩ := nextHypothesis_ok found
          simp only [found, bind, Except.bind] at accepted
          split at accepted
          · rename_i isFinal
            cases accepted
            refine ⟨next, later, grows, (fun _ => ⟨rfl, rfl, rfl⟩), ?_⟩
            intro unfinished
            rw [isFinal] at unfinished
            cases unfinished
          · rename_i unfinished
            cases accepted
            refine ⟨next, later, grows, (fun final => absurd final unfinished),
              (fun same => ⟨rfl, rfl, segment, rfl, ?_⟩)⟩
            exact ⟨same, on.segmentId, on.startSample, on.revision,
              on.endSample⟩

/-- A hypothesis that is taken may come after all before it. -/
theorem Remembers.follows {before after : WorkerOutput} {log : List Accepted}
    {hypothesis : Hypothesis} (remembers : Remembers before log)
    (taken : Taken before after hypothesis) :
    ∀ earlier ∈ hypothesesOf log, Follows earlier hypothesis := by
  intro earlier member
  have next := taken.next
  rcases remembers.placed earlier member with past | ⟨segment, active, on⟩
  · refine ⟨by omega, ?_, ?_⟩
    · intro final
      have ended := remembers.ended earlier member final
      have later := taken.later
      omega
    · intro same
      omega
  · have same := remembers.current active
    have segmentId := on.segmentId
    obtain ⟨start, newer, longer⟩ := taken.grows active
    refine ⟨by omega, ?_, ?_⟩
    · intro final
      rw [on.unfinished] at final
      cases final
    · intro _
      have revision := on.revision
      have endSample := on.endSample
      exact ⟨on.startSample.trans start, by omega, by omega⟩

theorem hypothesesOf_snoc (log : List Accepted) (accepted : Accepted) :
    hypothesesOf (log ++ [accepted]) =
      hypothesesOf log ++ accepted.hypothesis?.toList := by
  unfold hypothesesOf
  rw [List.filterMap_append]
  cases found : accepted.hypothesis? with
  | none => rw [List.filterMap_cons_none found]; rfl
  | some hypothesis => rw [List.filterMap_cons_some found]; rfl

theorem finalsOf_snoc (log : List Accepted) {accepted : Accepted}
    {hypothesis : Hypothesis} (is : accepted.hypothesis? = some hypothesis) :
    finalsOf (log ++ [accepted]) = finalsOf log ++
      if hypothesis.final then [hypothesis.transcript] else [] := by
  unfold finalsOf
  rw [hypothesesOf_snoc, is, List.filter_append, List.map_append]
  cases final : hypothesis.final with
  | false => simp [final]
  | true => simp [final]

/-- A worker's side that hears no transcript remembers the same. -/
theorem Remembers.silent {before after : WorkerOutput} {log : List Accepted}
    {accepted : Accepted} (remembers : Remembers before log)
    (none : accepted.hypothesis? = none)
    (finalId : after.lastFinalSegmentId = before.lastFinalSegmentId)
    (finalEnd : after.lastFinalEndSample = before.lastFinalEndSample)
    (segment : after.activeSegment = before.activeSegment) :
    Remembers after (log ++ [accepted]) := by
  have same : hypothesesOf (log ++ [accepted]) = hypothesesOf log := by
    rw [hypothesesOf_snoc, none, Option.toList_none, List.append_nil]
  have finals : finalsOf (log ++ [accepted]) = finalsOf log := by
    rw [finalsOf, same, finalsOf]
  constructor
  · rw [finals, finalId]
    exact remembers.counted
  · rw [same, finalEnd]
    exact remembers.ended
  · rw [same, finalId, segment]
    exact remembers.placed
  · rw [finalId, segment]
    exact remembers.current

theorem Remembers.taken {before after : WorkerOutput} {log : List Accepted}
    {accepted : Accepted} {hypothesis : Hypothesis}
    (remembers : Remembers before log)
    (is : accepted.hypothesis? = some hypothesis)
    (nonempty : hypothesis.transcript.startSample <
      hypothesis.transcript.endSample)
    (taken : Taken before after hypothesis) :
    Remembers after (log ++ [accepted]) := by
  have all : ∀ earlier ∈ hypothesesOf (log ++ [accepted]),
      earlier ∈ hypothesesOf log ∨ earlier = hypothesis := by
    intro earlier member
    rw [hypothesesOf_snoc, is, Option.toList_some, List.mem_append,
      List.mem_singleton] at member
    exact member
  have counted := remembers.counted
  have next := taken.next
  have later := taken.later
  cases final : hypothesis.final with
  | true =>
      obtain ⟨finalId, finalEnd, inactive⟩ := taken.final final
      constructor
      · rw [finalsOf_snoc log is, if_pos final, List.length_append, finalId,
          next, counted]
        rfl
      · intro earlier member isFinal
        rw [finalEnd]
        rcases all earlier member with past | rfl
        · have follows := remembers.follows taken earlier past
          have before_start := (follows.closed isFinal).2
          omega
        · exact Nat.le_refl _
      · intro earlier member
        left
        rw [finalId]
        rcases all earlier member with past | rfl
        · exact (remembers.follows taken earlier past).ordered
        · exact Nat.le_refl _
      · intro segment active
        rw [inactive] at active
        cases active
  | false =>
      obtain ⟨finalId, finalEnd, segment, active, on⟩ := taken.unfinished final
      constructor
      · rw [finalsOf_snoc log is, if_neg (by simp [final]), List.append_nil,
          finalId]
        exact counted
      · intro earlier member isFinal
        rw [finalEnd]
        rcases all earlier member with past | rfl
        · exact remembers.ended earlier past isFinal
        · cases final.symm.trans isFinal
      · intro earlier member
        rw [finalId]
        rcases all earlier member with past | rfl
        · rcases remembers.placed earlier past with old | ⟨before, was, onBefore⟩
          · exact .inl old
          · right
            obtain ⟨start, newer, longer⟩ := taken.grows was
            have current := remembers.current was
            have earlierId := onBefore.segmentId
            have segmentId := on.segmentId
            have revision := onBefore.revision
            have endSample := onBefore.endSample
            refine ⟨segment, active, onBefore.unfinished, by omega, ?_, ?_, ?_⟩
            · exact onBefore.startSample.trans (start.trans on.startSample)
            · exact (revision.trans newer.le).trans on.revision
            · exact (endSample.trans longer).trans on.endSample
        · exact .inr ⟨segment, active, on⟩
      · intro other isActive
        cases active.symm.trans isActive
        rw [finalId, ← next]
        exact on.segmentId.symm

/-! ## Runs -/

theorem Disciplined.silent {log : List Accepted} {accepted : Accepted}
    (disciplined : Disciplined log) (none : accepted.hypothesis? = none) :
    Disciplined (log ++ [accepted]) := by
  have same : hypothesesOf (log ++ [accepted]) = hypothesesOf log := by
    rw [hypothesesOf_snoc, none, Option.toList_none, List.append_nil]
  have finals : finalsOf (log ++ [accepted]) = finalsOf log := by
    rw [finalsOf, same, finalsOf]
  constructor
  · rw [finals]
    exact disciplined.numbered
  · rw [same]
    exact disciplined.ordered
  · rw [same]
    exact disciplined.nonempty
  · apply disciplined.consumed.snoc
    intro hypothesis some
    cases none.symm.trans some

theorem Disciplined.taken {before after : WorkerOutput} {log : List Accepted}
    {accepted : Accepted} {hypothesis : Hypothesis}
    (disciplined : Disciplined log) (remembers : Remembers before log)
    (is : accepted.hypothesis? = some hypothesis)
    (nonempty : hypothesis.transcript.startSample <
      hypothesis.transcript.endSample)
    (consumed : hypothesis.transcript.endSample ≤ consumedOf log)
    (taken : Taken before after hypothesis) :
    Disciplined (log ++ [accepted]) := by
  have hypotheses : hypothesesOf (log ++ [accepted]) =
      hypothesesOf log ++ [hypothesis] := by
    rw [hypothesesOf_snoc, is, Option.toList_some]
  constructor
  · rw [finalsOf_snoc log is]
    split
    · -- The next number is that of the new final transcript.
      rw [List.map_append, disciplined.numbered, List.length_append,
        List.length_singleton, List.range'_concat, List.map_singleton,
        taken.next, remembers.counted, Nat.one_mul, Nat.add_comm 1]
    · rw [List.append_nil]
      exact disciplined.numbered
  · rw [hypotheses, List.pairwise_append]
    refine ⟨disciplined.ordered, List.pairwise_singleton _ _, ?_⟩
    intro earlier member last isLast
    rw [List.mem_singleton.mp isLast]
    exact remembers.follows taken earlier member
  · intro other member
    rw [hypotheses, List.mem_append, List.mem_singleton] at member
    rcases member with past | rfl
    · exact disciplined.nonempty other past
    · exact nonempty
  · apply disciplined.consumed.snoc
    intro other some
    cases is.symm.trans some
    exact consumed

theorem consumedSamples_eq {session : Session} (counted : Counted session) :
    session.coordinator.consumedSamples = consumedOf session.log := by
  have balance := counted.balance
  unfold Coordinator.consumedSamples
  omega

/-- In every session the transcripts are disciplined. -/
theorem transcripts_disciplined (modelId revision : String)
    (calls : List Call) :
    Disciplined ((Session.initial modelId revision).play calls).log := by
  have kept : Disciplined ((Session.initial modelId revision).play calls).log ∧
      Remembers
        ((Session.initial modelId revision).play calls).coordinator.worker
        ((Session.initial modelId revision).play calls).log := by
    induction calls using List.reverseRecOn with
    | nil =>
        refine ⟨⟨rfl, .nil, ?_, chronological_nil⟩, ⟨rfl, ?_, ?_, ?_⟩⟩
        · intro hypothesis member
          cases member
        · intro hypothesis member
          cases member
        · intro hypothesis member
          cases member
        · intro segment active
          cases active
    | append_singleton calls call induction =>
        have counted := (play_invariant modelId revision calls).1
        rw [play_append]
        generalize (Session.initial modelId revision).play calls = session
          at induction counted
        obtain ⟨disciplined, remembers⟩ := induction
        have next : session.play [call] = session.call call := rfl
        rw [next]
        rcases call_hears session call with same | ⟨accepted, hears, logged⟩
        · rw [same]
          exact ⟨disciplined, remembers⟩
        · rw [logged]
          cases hears with
          | silent none finalId finalEnd segment =>
              exact ⟨disciplined.silent none,
                remembers.silent none finalId finalEnd segment⟩
          | transcript is nonempty consumed taken =>
              have took := onTranscript_taken taken
              rw [consumedSamples_eq counted] at consumed
              exact ⟨disciplined.taken remembers is nonempty consumed took,
                remembers.taken is nonempty took⟩
  exact kept.1

end Asr

end GpuLink
