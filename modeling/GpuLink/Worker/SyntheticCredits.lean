import GpuLink.Worker.SyntheticRuntime
import Mathlib.Data.List.Nodup
import Mathlib.Data.List.Perm.Basic

/-!
# Credits of the synthetic speech runtime

In every order of events the samples that wait are counted once, they are
acknowledged in the order in which they were sent, and a run is completed only
after the last acknowledgement.
-/

namespace GpuLink

namespace SyntheticAsr

/-! ## Chunks and their acknowledgements -/

/-- The acknowledgement that a chunk waits for. -/
def Entry.due (entry : Entry) : Acknowledgement :=
  ⟨entry.sequence, entry.sampleCount, entry.endSample⟩

def Outgoing.due? : Outgoing → Option Acknowledgement
  | audio sequence sampleOffset sampleCount _ =>
      some ⟨sequence, sampleCount, (sampleOffset + sampleCount : Nat)⟩
  | _ => none

def Settlement.resolved? : Settlement → Option Acknowledgement
  | resolved acknowledgement => some acknowledgement
  | rejected _ => none

namespace Runtime

/-- The acknowledgements due for all chunks that were sent, in order. -/
def due (runtime : Runtime) : List Acknowledgement :=
  runtime.written.filterMap Outgoing.due?

/-- The acknowledgements that were accepted, in order. -/
def accepted (runtime : Runtime) : List Acknowledgement :=
  runtime.settlements.filterMap fun settlement => settlement.2.resolved?

def waiting (runtime : Runtime) : Nat :=
  (runtime.pending.map (·.sampleCount)).sum

/-- The child has said that it consumed the input up to this chunk. -/
def Completion (message : Json) (lastSequence : Nat) : Prop :=
  exactFields message ["type", "lastSequence"] ∧
    isText (message.field? "type") "asr.ipc.completed.v1" ∧
    numberOf (message.field? "lastSequence") = some (lastSequence : Rat)

/-- The end has been sent after the last chunk. -/
def EndSent (runtime : Runtime) : Prop :=
  runtime.nextSequence ≠ 0 ∧
    .endInput (runtime.nextSequence - 1) ∈ runtime.written

/-- Every chunk was acknowledged, the end was sent, and the child said that it
is complete. -/
structure Fulfilled (runtime : Runtime) : Prop where
  acknowledged : runtime.accepted = runtime.due
  endSent : runtime.EndSent
  completion : ∃ message ∈ runtime.messages,
    Completion message (runtime.nextSequence - 1)

structure Kept (runtime : Runtime) : Prop where
  numbered : runtime.due.map (·.sequence) =
    (List.range runtime.nextSequence).map (fun n : Nat => (n : Rat))
  credit : runtime.pendingSamples = runtime.waiting
  bounded : runtime.waiting ≤ maxQueuedSamples
  ordered : ∃ lost,
    runtime.due = runtime.accepted ++ runtime.pending.map Entry.due ++ lost ∧
      (lost ≠ [] → runtime.state = .failed ∨ runtime.state = .cancelled)
  resting : runtime.state.terminal → runtime.pending = []
  settled : (runtime.settlements.map Prod.fst ++
    runtime.pending.map (·.promise)).Perm (List.range runtime.promises)
  timed : runtime.ackTimers = runtime.pending.map (·.promise)
  ending : runtime.state = .ending → runtime.EndSent
  fulfilled : runtime.completedReceived →
    runtime.Fulfilled ∧ runtime.state ≠ .starting ∧ runtime.state ≠ .ready
  completed : runtime.state = .completed → runtime.completedReceived ∧
    ∃ exitSignal, runtime.closed = some ⟨.completed, some 0, exitSignal⟩
  resolved : runtime.ended = some none → runtime.state = .completed
  exited : ∀ exit, runtime.closed = some exit →
    exit.state = runtime.state ∧ runtime.state.terminal

/-! ## Settling -/

theorem filterMap_rejected (promises : List Nat) (code : String) :
    (promises.map fun promise => (promise, Settlement.rejected code)).filterMap
      (fun settlement => settlement.2.resolved?) = [] := by
  rw [List.filterMap_eq_nil_iff]
  intro settlement member
  obtain ⟨promise, _, rfl⟩ := List.mem_map.mp member
  rfl

theorem Kept.abandon {runtime : Runtime} (kept : runtime.Kept)
    (running : ¬runtime.state.terminal) {state : RuntimeState}
    (given : state = .failed ∨ state = .cancelled) (code : String) :
    (runtime.abandon state code).Kept := by
  have accepted : (runtime.abandon state code).accepted = runtime.accepted := by
    change (runtime.settlements ++ _).filterMap _ = _
    rw [List.filterMap_append, filterMap_rejected, List.append_nil]
    rfl
  have due : (runtime.abandon state code).due = runtime.due := rfl
  have unclosed : runtime.closed = none := by
    cases closed : runtime.closed with
    | none => rfl
    | some exit => exact absurd (kept.exited exit closed).2 running
  have final : (runtime.abandon state code).state = state := rfl
  constructor
  case numbered => exact kept.numbered
  case credit => rfl
  case bounded => exact Nat.zero_le _
  case ordered =>
    obtain ⟨lost, same, _⟩ := kept.ordered
    refine ⟨runtime.pending.map Entry.due ++ lost, ?_, fun _ => given⟩
    rw [accepted, due, same]
    simp [Runtime.abandon, clearPending]
  case resting => exact fun _ => rfl
  case settled =>
    have promises : (runtime.abandon state code).settlements.map Prod.fst =
        runtime.settlements.map Prod.fst ++ runtime.pending.map (·.promise) := by
      simp [Runtime.abandon, clearPending, settleReady, settleEnd,
        Function.comp_def]
    change ((runtime.abandon state code).settlements.map Prod.fst ++ []).Perm
      (List.range runtime.promises)
    rw [List.append_nil, promises]
    exact kept.settled
  case timed =>
    change runtime.ackTimers.filter
      (· ∉ runtime.pending.map (·.promise)) = []
    rw [List.filter_eq_nil_iff, kept.timed]
    intro promise member
    simpa using member
  case ending =>
    intro same
    rw [final] at same
    rcases given with rfl | rfl <;> cases same
  case fulfilled =>
    intro received
    obtain ⟨fulfilled, _⟩ := kept.fulfilled received
    refine ⟨⟨?_, fulfilled.endSent, fulfilled.completion⟩, ?_⟩
    · rw [accepted, due, fulfilled.acknowledged]
    · rw [final]
      rcases given with rfl | rfl <;> simp
  case completed =>
    intro same
    rw [final] at same
    rcases given with rfl | rfl <;> cases same
  case resolved =>
    intro same
    change runtime.ended.or _ = _ at same
    cases ended : runtime.ended with
    | none =>
        rw [ended] at same
        cases same
    | some value =>
        rw [ended] at same
        have before : runtime.ended = some none := ended.trans same
        rw [kept.resolved before] at running
        exact absurd rfl running
  case exited =>
    intro exit closed
    change runtime.closed = some exit at closed
    rw [unclosed] at closed
    cases closed

/-- Fields that the account does not mention. -/
theorem Kept.quiet {runtime : Runtime} (kept : runtime.Kept)
    (nextSampleOffset : Nat) (stdoutBuffer : List UInt8) (stderrBytes : Nat)
    (stdinBackpressured startupTimer killTimer : Bool)
    (ready : Option (Option String)) (inputEnded : Bool)
    (signals : List Signal) :
    Kept { runtime with
      nextSampleOffset := nextSampleOffset
      stdoutBuffer := stdoutBuffer
      stderrBytes := stderrBytes
      stdinBackpressured := stdinBackpressured
      startupTimer := startupTimer
      killTimer := killTimer
      ready := ready
      inputEnded := inputEnded
      signals := signals } := by
  refine ⟨kept.numbered, kept.credit, kept.bounded, kept.ordered, kept.resting,
    kept.settled, kept.timed, kept.ending, ?_, kept.completed, kept.resolved,
    kept.exited⟩
  intro received
  obtain ⟨⟨acknowledged, endSent, completion⟩, started⟩ :=
    kept.fulfilled received
  exact ⟨⟨acknowledged, endSent, completion⟩, started⟩

theorem Kept.fail {runtime : Runtime} (kept : runtime.Kept) (code : String) :
    (runtime.fail code).Kept := by
  unfold Runtime.fail
  split_ifs with terminal
  · exact kept
  · exact (kept.abandon terminal (.inl rfl) code).quiet _ _ _ _ _ _ _ _ _

theorem Kept.unclosed {runtime : Runtime} (kept : runtime.Kept)
    (running : ¬runtime.state.terminal) : runtime.closed = none := by
  cases closed : runtime.closed with
  | none => rfl
  | some exit => exact absurd (kept.exited exit closed).2 running

/-- As long as nothing is rejected, a chunk is acknowledged or waits. -/
theorem Kept.balance {runtime : Runtime} (kept : runtime.Kept)
    (running : ¬runtime.state.terminal) :
    runtime.due = runtime.accepted ++ runtime.pending.map Entry.due := by
  obtain ⟨lost, same, only⟩ := kept.ordered
  cases lost with
  | nil => rwa [List.append_nil] at same
  | cons first lost =>
      rcases only (List.cons_ne_nil _ _) with failed | cancelled
      · rw [failed] at running
        exact absurd rfl running
      · rw [cancelled] at running
        exact absurd rfl running

/-- The chunks that wait have sequence numbers of their own, all given. -/
theorem Kept.sequences {runtime : Runtime} (kept : runtime.Kept) :
    (runtime.pending.map (·.sequence)).Nodup ∧
      ∀ entry ∈ runtime.pending, entry.sequence < runtime.nextSequence := by
  obtain ⟨lost, same, _⟩ := kept.ordered
  have numbered := kept.numbered
  rw [same, List.map_append, List.map_append, List.map_map] at numbered
  have castInjective : Function.Injective (fun n : Nat => (n : Rat)) :=
    fun _ _ => Nat.cast_inj.mp
  have casts : runtime.pending.map
      ((fun due : Acknowledgement => due.sequence) ∘ Entry.due) =
        (runtime.pending.map (·.sequence)).map (fun n : Nat => (n : Rat)) := by
    rw [List.map_map]
    rfl
  rw [casts] at numbered
  have within : ((runtime.pending.map (·.sequence)).map
      (fun n : Nat => (n : Rat))).Sublist
        ((List.range runtime.nextSequence).map (fun n : Nat => (n : Rat))) := by
    rw [← numbered]
    exact (List.sublist_append_right _ _).trans (List.sublist_append_left _ _)
  constructor
  · have distinct := List.Nodup.map castInjective
      (List.nodup_range (n := runtime.nextSequence))
    exact (distinct.sublist within).of_map _
  · intro entry member
    have there := within.subset (List.mem_map_of_mem
      (List.mem_map_of_mem member))
    obtain ⟨n, listed, cast⟩ := List.mem_map.mp there
    rw [← castInjective cast]
    exact List.mem_range.mp listed

theorem Kept.distinct {runtime : Runtime} (kept : runtime.Kept) :
    (runtime.settlements.map Prod.fst ++
      runtime.pending.map (·.promise)).Nodup :=
  kept.settled.nodup_iff.mpr List.nodup_range

/-- A list without its first element, taken out by its key. -/
theorem filter_ne_head {α κ : Type} [DecidableEq κ] (key : α → κ) (first : α)
    (rest : List α) (distinct : ((first :: rest).map key).Nodup) :
    (first :: rest).filter (fun other => key other ≠ key first) = rest := by
  rw [List.map_cons, List.nodup_cons] at distinct
  rw [List.filter_cons_of_neg (by simp), List.filter_eq_self]
  intro other member
  have apart : key other ≠ key first := by
    intro same
    exact distinct.1 (same ▸ List.mem_map_of_mem member)
  simpa using apart

/-! ## Messages of the child -/

theorem Kept.hear {runtime : Runtime} (kept : runtime.Kept) (message : Json) :
    Kept { runtime with messages := runtime.messages ++ [message] } := by
  refine ⟨kept.numbered, kept.credit, kept.bounded, kept.ordered, kept.resting,
    kept.settled, kept.timed, kept.ending, ?_, kept.completed, kept.resolved,
    kept.exited⟩
  intro received
  obtain ⟨⟨acknowledged, endSent, told, member, completion⟩, started⟩ :=
    kept.fulfilled received
  exact ⟨⟨acknowledged, endSent, told, List.mem_append_left _ member,
    completion⟩, started⟩

theorem Kept.onReady {runtime : Runtime} (kept : runtime.Kept)
    (config : Config) (message : Json) :
    (runtime.onReady config message).Kept := by
  unfold Runtime.onReady
  split_ifs with accepted
  · obtain ⟨_, starting, _⟩ := accepted
    have running : ¬runtime.state.terminal := by
      rw [starting]
      exact Bool.false_ne_true
    have balance := kept.balance running
    have unclosed := kept.unclosed running
    constructor
    case numbered => exact kept.numbered
    case credit => exact kept.credit
    case bounded => exact kept.bounded
    case ordered =>
      refine ⟨[], ?_, fun lost => absurd rfl lost⟩
      rw [List.append_nil]
      exact balance
    case resting => exact fun terminal => absurd terminal Bool.false_ne_true
    case settled => exact kept.settled
    case timed => exact kept.timed
    case ending => exact fun same => nomatch same
    case fulfilled =>
      intro received
      exact absurd starting (kept.fulfilled received).2.1
    case completed => exact fun same => nomatch same
    case resolved =>
      intro ended
      have completed := kept.resolved ended
      rw [starting] at completed
      cases completed
    case exited =>
      intro exit closed
      change runtime.closed = some exit at closed
      rw [unclosed] at closed
      cases closed
  · exact kept.fail _

theorem Kept.acknowledge {runtime : Runtime} (kept : runtime.Kept)
    {first : Entry} {rest : List Entry} (waits : runtime.pending = first :: rest)
    (running : ¬runtime.state.terminal) :
    (runtime.acknowledge first first.sequence first.endSample).Kept := by
  have balance := kept.balance running
  have sequences := kept.sequences.1
  have promises := List.nodup_append.mp kept.distinct |>.2.1
  rw [waits] at sequences promises
  have left : (runtime.acknowledge first first.sequence
      first.endSample).pending = rest := by
    change runtime.pending.filter (·.sequence ≠ first.sequence) = rest
    rw [waits]
    exact filter_ne_head (·.sequence) first rest sequences
  have accepted : (runtime.acknowledge first first.sequence
      first.endSample).accepted = runtime.accepted ++ [first.due] := by
    change (runtime.settlements ++ [_]).filterMap _ = _
    rw [List.filterMap_append]
    rfl
  constructor
  case numbered => exact kept.numbered
  case credit =>
    have credit := kept.credit
    unfold waiting at credit ⊢
    rw [left]
    rw [waits, List.map_cons, List.sum_cons] at credit
    change runtime.pendingSamples - first.sampleCount = _
    push_cast at credit ⊢
    omega
  case bounded =>
    have bounded := kept.bounded
    unfold waiting at bounded ⊢
    rw [left]
    rw [waits, List.map_cons, List.sum_cons] at bounded
    omega
  case ordered =>
    refine ⟨[], ?_, fun lost => absurd rfl lost⟩
    rw [accepted, left, List.append_nil, List.append_assoc]
    rw [waits] at balance
    exact balance
  case resting => exact fun terminal => absurd terminal running
  case settled =>
    have settled := kept.settled
    rw [waits, List.map_cons] at settled
    rw [left]
    change ((runtime.settlements ++ [_]).map Prod.fst ++ _).Perm _
    rw [List.map_append, List.append_assoc]
    exact settled
  case timed =>
    rw [left]
    change runtime.ackTimers.filter (· ≠ first.promise) = _
    rw [kept.timed, waits, List.map_cons]
    exact filter_ne_head id first.promise _ (by rwa [List.map_id])
  case ending => exact kept.ending
  case fulfilled =>
    intro received
    obtain ⟨fulfilled, _⟩ := kept.fulfilled received
    rw [fulfilled.acknowledged, waits] at balance
    have empty := List.append_right_eq_self.mp balance.symm
    cases empty
  case completed =>
    intro same
    rw [show runtime.state = .completed from same] at running
    exact absurd rfl running
  case resolved => exact kept.resolved
  case exited => exact kept.exited

/-- The states in which a handler does nothing. -/
theorem running_of {runtime : Runtime} {state : RuntimeState}
    (same : runtime.state = state) (running : state.terminal = false) :
    ¬runtime.state.terminal := by
  rw [same, running]
  exact Bool.false_ne_true

theorem Kept.onConsumed {runtime : Runtime} (kept : runtime.Kept)
    (message : Json) : (runtime.onConsumed message).Kept := by
  unfold Runtime.onConsumed
  split
  · rename_i accepted
    have running : ¬runtime.state.terminal := by
      rcases accepted.2 with ready | ending
      · exact running_of ready rfl
      · exact running_of ending rfl
    split
    · exact kept.fail _
    · rename_i first rest waits
      split
      · rename_i sequence endSample _ _
        split_ifs with matching
        · obtain ⟨rfl, rfl⟩ := matching
          exact kept.acknowledge waits running
        · exact kept.fail _
      · exact kept.fail _
  · exact kept.fail _

theorem Kept.onCompleted {runtime : Runtime} (kept : runtime.Kept)
    {message : Json} (member : message ∈ runtime.messages)
    (typed : isText (message.field? "type") "asr.ipc.completed.v1") :
    (runtime.onCompleted message).Kept := by
  unfold Runtime.onCompleted
  split_ifs with accepted
  · obtain ⟨exact_, ending, last, _, empty, _⟩ := accepted
    have running : ¬runtime.state.terminal := running_of ending rfl
    have balance := kept.balance running
    rw [empty, List.map_nil, List.append_nil] at balance
    have endSent := kept.ending ending
    have positive := Nat.pos_of_ne_zero endSent.1
    refine ⟨kept.numbered, kept.credit, kept.bounded, kept.ordered,
      kept.resting, kept.settled, kept.timed, kept.ending, ?_, ?_,
      kept.resolved, kept.exited⟩
    · intro _
      refine ⟨⟨balance.symm, endSent, message, member, exact_, typed, ?_⟩, ?_⟩
      · rw [last]
        push_cast [positive]
        rfl
      · change runtime.state ≠ _ ∧ runtime.state ≠ _
        rw [ending]
        exact ⟨nofun, nofun⟩
    · intro completed
      rw [show runtime.state = .completed from completed] at ending
      cases ending
  · exact kept.fail _

theorem Kept.onMessage {runtime : Runtime} (kept : runtime.Kept)
    (config : Config) (message : Json) :
    (runtime.onMessage config message).Kept := by
  have heard := kept.hear message
  unfold Runtime.onMessage
  dsimp only
  split_ifs with resting ready consumed completed
  · exact heard
  · exact heard.onReady config message
  · exact heard.onConsumed message
  · refine heard.onCompleted ?_ completed
    exact List.mem_append_right _ List.mem_cons_self
  · exact heard.fail _

theorem Kept.onLine {runtime : Runtime} (kept : runtime.Kept) (config : Config)
    (line : List UInt8) : (runtime.onLine config line).Kept := by
  unfold Runtime.onLine
  split
  · exact kept.onMessage config _
  · exact kept.fail _

/-- The loop over the lines that have come. -/
theorem Kept.readLines {runtime : Runtime} (kept : runtime.Kept)
    (config : Config) (rounds : Nat) :
    (runtime.readLines config rounds).Kept := by
  induction rounds generalizing runtime with
  | zero => exact kept
  | succ rounds induction =>
      rw [Runtime.readLines]
      dsimp only
      have buffered : ∀ rest,
          Kept { runtime with stdoutBuffer := rest } := fun rest =>
        kept.quiet _ rest _ _ _ _ _ _ _
      have line := (buffered (runtime.stdoutBuffer.drop
        ((runtime.stdoutBuffer.takeWhile (· ≠ 10)).length + 1))).onLine config
          (runtime.stdoutBuffer.takeWhile (· ≠ 10))
      split_ifs
      · exact kept.fail _
      · exact kept
      · exact kept.fail _
      · exact line
      · exact induction line

theorem Kept.stdoutData {runtime : Runtime} (kept : runtime.Kept)
    (config : Config) (chunk : List UInt8) :
    (runtime.stdoutData config chunk).Kept := by
  unfold Runtime.stdoutData
  split_ifs
  · exact kept
  · have buffered : Kept { runtime with
        stdoutBuffer := runtime.stdoutBuffer ++ chunk } :=
      kept.quiet _ _ _ _ _ _ _ _ _
    exact buffered.readLines config _

/-! ## Other events -/

theorem Kept.stderrData {runtime : Runtime} (kept : runtime.Kept)
    (bytes : Nat) : (runtime.stderrData bytes).Kept := by
  have counted : Kept { runtime with
      stderrBytes := runtime.stderrBytes + bytes } :=
    kept.quiet _ _ _ _ _ _ _ _ _
  unfold Runtime.stderrData
  dsimp only
  split_ifs
  · exact counted.fail _
  · exact counted

/-- What `waitForExit` resolves with. -/
theorem Kept.close {runtime : Runtime} (kept : runtime.Kept)
    (terminal : runtime.state.terminal) {exit : Exit}
    (same : exit.state = runtime.state)
    (unfinished : runtime.state ≠ .completed) :
    Kept { runtime with closed := some exit } := by
  refine ⟨kept.numbered, kept.credit, kept.bounded, kept.ordered, kept.resting,
    kept.settled, kept.timed, kept.ending, ?_, ?_, kept.resolved, ?_⟩
  · intro received
    obtain ⟨⟨acknowledged, endSent, completion⟩, started⟩ :=
      kept.fulfilled received
    exact ⟨⟨acknowledged, endSent, completion⟩, started⟩
  · intro completed
    exact absurd completed unfinished
  · intro other closed
    cases closed
    exact ⟨same, terminal⟩

theorem Kept.succeed {runtime : Runtime} (kept : runtime.Kept)
    (ending : runtime.state = .ending) (received : runtime.completedReceived)
    (exitSignal : Option String) :
    Kept { ({ runtime with state := .completed }.settleEnd none) with
      closed := some ⟨.completed, some 0, exitSignal⟩ } := by
  have running : ¬runtime.state.terminal := running_of ending rfl
  have balance := kept.balance running
  obtain ⟨⟨acknowledged, endSent, completion⟩, _⟩ := kept.fulfilled received
  have empty : runtime.pending = [] := by
    rw [acknowledged] at balance
    exact List.map_eq_nil_iff.mp (List.append_right_eq_self.mp balance.symm)
  refine ⟨kept.numbered, kept.credit, kept.bounded, ?_, fun _ => empty,
    kept.settled, kept.timed, (fun same => nomatch same), ?_, ?_,
    fun _ => rfl, ?_⟩
  · refine ⟨[], ?_, fun lost => absurd rfl lost⟩
    rw [List.append_nil]
    exact balance
  · exact fun _ => ⟨⟨acknowledged, endSent, completion⟩, nofun, nofun⟩
  · exact fun _ => ⟨received, exitSignal, rfl⟩
  · intro exit closed
    cases closed
    exact ⟨rfl, rfl⟩

theorem Kept.onClose {runtime : Runtime} (kept : runtime.Kept)
    (exitCode : Option Int) (exitSignal : Option String) :
    (runtime.closed = none) → (runtime.onClose exitCode exitSignal).Kept := by
  intro unclosed
  have quiet : Kept { runtime with startupTimer := false } :=
    kept.quiet _ _ _ _ _ _ _ _ _
  unfold Runtime.onClose
  dsimp only
  split_ifs with cancelling succeeded terminal
  · refine Kept.close (quiet.abandon (running_of cancelling rfl) (.inr rfl) _)
      rfl rfl ?_
    exact nofun
  · obtain ⟨ending, received, rfl⟩ := succeeded
    exact quiet.succeed ending received exitSignal
  · refine quiet.close terminal rfl ?_
    intro completed
    obtain ⟨_, _, closed⟩ := kept.completed completed
    rw [unclosed] at closed
    cases closed
  · refine Kept.close (quiet.abandon terminal (.inl rfl) _) rfl rfl ?_
    exact nofun

/-- `onAbort` and `cancel`. -/
theorem Kept.cancelling {runtime : Runtime} (kept : runtime.Kept)
    (running : ¬runtime.state.terminal) :
    Kept ({ runtime with state := .cancelling }.terminate) := by
  have balance := kept.balance running
  have unclosed := kept.unclosed running
  refine ⟨kept.numbered, kept.credit, kept.bounded, ?_,
    fun terminal => absurd terminal Bool.false_ne_true, kept.settled,
    kept.timed, (fun same => nomatch same), ?_, (fun same => nomatch same), ?_,
    ?_⟩
  · refine ⟨[], ?_, fun lost => absurd rfl lost⟩
    rw [List.append_nil]
    exact balance
  · intro received
    obtain ⟨⟨acknowledged, endSent, completion⟩, _⟩ := kept.fulfilled received
    exact ⟨⟨acknowledged, endSent, completion⟩, nofun, nofun⟩
  · intro ended
    rw [kept.resolved ended] at running
    exact absurd rfl running
  · intro exit closed
    rw [show runtime.closed = some exit from closed] at unclosed
    cases unclosed

theorem Kept.onAbort {runtime : Runtime} (kept : runtime.Kept) :
    runtime.onAbort.Kept := by
  unfold Runtime.onAbort
  split_ifs with resting
  · exact kept
  · exact kept.cancelling (not_or.mp resting).1

theorem Kept.cancel {runtime : Runtime} (kept : runtime.Kept) :
    runtime.cancel.Kept := by
  unfold Runtime.cancel
  split_ifs with resting
  · exact kept
  · exact kept.cancelling (not_or.mp resting).1

theorem Kept.onStartupTimer {runtime : Runtime} (kept : runtime.Kept) :
    runtime.onStartupTimer.Kept := by
  have quiet : Kept { runtime with startupTimer := false } :=
    kept.quiet _ _ _ _ _ _ _ _ _
  unfold Runtime.onStartupTimer
  dsimp only
  split_ifs
  · exact quiet.fail _
  · exact quiet

/-- Timers are set for the chunks that wait, and for nothing else. -/
theorem Kept.running_of_timer {runtime : Runtime} (kept : runtime.Kept)
    {promise : Nat} (armed : promise ∈ runtime.ackTimers) :
    ¬runtime.state.terminal := by
  intro terminal
  rw [kept.timed, kept.resting terminal] at armed
  cases armed

theorem Kept.onAckTimer {runtime : Runtime} (kept : runtime.Kept)
    {promise : Nat} (armed : promise ∈ runtime.ackTimers) :
    runtime.onAckTimer promise = runtime.fail "runtime_ack_timeout" := by
  have running := kept.running_of_timer armed
  have timed := kept.timed
  have none_left : (runtime.ackTimers.filter (· ≠ promise)).filter
      (· ∉ runtime.pending.map (·.promise)) =
        runtime.ackTimers.filter (· ∉ runtime.pending.map (·.promise)) := by
    rw [List.filter_comm, List.filter_eq_self]
    intro other member
    rw [timed, List.mem_filter] at member
    simp [member.1] at member
  unfold Runtime.onAckTimer Runtime.fail
  rw [if_neg running, if_neg running]
  change Runtime.terminate { runtime.abandon .failed "runtime_ack_timeout" with
    ackTimers := (runtime.ackTimers.filter (· ≠ promise)).filter
      (· ∉ runtime.pending.map (·.promise)) } = _
  rw [none_left]
  rfl

/-! ## Calls -/

theorem setPending_fresh {pending : List Entry} {entry : Entry}
    (fresh : ∀ other ∈ pending, other.sequence ≠ entry.sequence) :
    setPending pending entry = pending ++ [entry] := by
  have unknown : pending.any (·.sequence = entry.sequence) = false := by
    rw [List.any_eq_false]
    intro other member same
    exact fresh other member (of_decide_eq_true same)
  rw [setPending, unknown]
  rfl

/-- The chunk as it waits once it is sent. -/
def nextEntry (runtime : Runtime) (sampleCount : Nat) : Entry :=
  ⟨runtime.nextSequence, sampleCount, runtime.nextSampleOffset + sampleCount,
    runtime.promises⟩

/-- A chunk that is sent. -/
def sendChunk (runtime : Runtime) (pcm : List UInt8) (accepts : Bool) :
    Runtime :=
  let sampleCount := pcm.length / 2
  { runtime with
    nextSequence := runtime.nextSequence + 1
    nextSampleOffset := runtime.nextSampleOffset + sampleCount
    promises := runtime.promises + 1
    ackTimers := runtime.ackTimers ++ [runtime.promises]
    pending := runtime.pending ++ [runtime.nextEntry sampleCount]
    pendingSamples := runtime.pendingSamples + sampleCount
    written := runtime.written ++ [.audio runtime.nextSequence
      runtime.nextSampleOffset sampleCount pcm]
    stdinBackpressured := runtime.stdinBackpressured || !accepts }

/-- A chunk whose write throws leaves a promise that nobody has. -/
def refuseChunk (runtime : Runtime) (code : String) : Runtime :=
  { runtime with
    promises := runtime.promises + 1
    settlements := runtime.settlements ++
      [(runtime.promises, .rejected code)] }

theorem write_cases (runtime : Runtime) (stdin : Stdin) (message : Outgoing) :
    (∃ code, runtime.write stdin message = .error code) ∨
      runtime.write stdin message = .ok { runtime with
        written := runtime.written ++ [message]
        stdinBackpressured := runtime.stdinBackpressured || !stdin.accepts } := by
  unfold write
  split_ifs
  · exact .inl ⟨_, rfl⟩
  · exact .inl ⟨_, rfl⟩
  · exact .inr rfl

theorem Kept.timers_lt {runtime : Runtime} (kept : runtime.Kept) :
    ∀ promise ∈ runtime.ackTimers, promise < runtime.promises := by
  intro promise armed
  rw [kept.timed] at armed
  exact List.mem_range.mp
    (kept.settled.subset (List.mem_append_right _ armed))

/-- What `sendAudio` can do. -/
theorem Kept.sendAudio_cases {runtime : Runtime} (kept : runtime.Kept)
    (stdin : Stdin) (sequence sampleOffset : Option Int)
    (pcm : Option (List UInt8)) :
    (∃ code, runtime.sendAudio stdin sequence sampleOffset pcm =
        (runtime, .error code)) ∨
      runtime.state = .ready ∧
        ((∃ code, runtime.sendAudio stdin sequence sampleOffset pcm =
            (runtime.refuseChunk code, .error code)) ∨
          ∃ bytes, pcm = some bytes ∧
            runtime.pendingSamples + (bytes.length / 2 : Nat) ≤
              maxQueuedSamples ∧
            runtime.sendAudio stdin sequence sampleOffset pcm =
              (runtime.sendChunk bytes stdin.accepts,
                .ok runtime.promises)) := by
  unfold Runtime.sendAudio
  split_ifs with busy
  · exact .inl ⟨_, rfl⟩
  have ready : runtime.state = .ready := not_not.mp busy
  split
  · exact .inl ⟨_, rfl⟩
  rename_i bytes
  dsimp only
  by_cases valid : runtime.admitsAudio sequence sampleOffset bytes
  case neg =>
    rw [if_pos valid]
    exact .inl ⟨_, rfl⟩
  rw [if_neg (not_not.mpr valid)]
  split_ifs with full
  · exact .inl ⟨_, rfl⟩
  refine .inr ⟨ready, ?_⟩
  have room : runtime.pendingSamples + (bytes.length / 2 : Nat) ≤
      maxQueuedSamples := not_lt.mp (not_or.mp full).1
  have fresh := @setPending_fresh runtime.pending
    (runtime.nextEntry (bytes.length / 2))
    fun other member => (kept.sequences.2 other member).ne
  unfold nextEntry at fresh
  rw [fresh]
  have written := write_cases { runtime with
    promises := runtime.promises + 1
    ackTimers := runtime.ackTimers ++ [runtime.promises]
    pending := runtime.pending ++ [runtime.nextEntry (bytes.length / 2)]
    pendingSamples := runtime.pendingSamples + (bytes.length / 2 : Nat) } stdin
      (.audio runtime.nextSequence runtime.nextSampleOffset (bytes.length / 2)
        bytes)
  unfold nextEntry at written
  rcases written with ⟨code, refused⟩ | sent
  · left
    refine ⟨code, ?_⟩
    rw [refused]
    have timers : (runtime.ackTimers ++ [runtime.promises]).filter
        (· ≠ runtime.promises) = runtime.ackTimers := by
      rw [List.filter_append, List.filter_eq_self.mpr]
      · simp
      · intro promise armed
        simpa using (kept.timers_lt promise armed).ne
    have pending : (runtime.pending ++ [(⟨runtime.nextSequence,
        bytes.length / 2, runtime.nextSampleOffset + bytes.length / 2,
          runtime.promises⟩ : Entry)]).filter
            (·.sequence ≠ runtime.nextSequence) = runtime.pending := by
      rw [List.filter_append, List.filter_eq_self.mpr]
      · simp
      · intro other member
        simpa using (kept.sequences.2 other member).ne
    have samples : runtime.pendingSamples + (bytes.length / 2 : Nat) -
        (bytes.length / 2 : Nat) = runtime.pendingSamples := by
      omega
    simp only [timers, pending, samples]
    rfl
  · right
    refine ⟨bytes, rfl, room, ?_⟩
    rw [sent]
    rfl

theorem Kept.refuseChunk {runtime : Runtime} (kept : runtime.Kept)
    (code : String) : (runtime.refuseChunk code).Kept := by
  have accepted : (runtime.refuseChunk code).accepted = runtime.accepted := by
    change (runtime.settlements ++ [_]).filterMap _ = _
    rw [List.filterMap_append]
    exact List.append_nil _
  refine ⟨kept.numbered, kept.credit, kept.bounded, ?_, kept.resting, ?_,
    kept.timed, kept.ending, ?_, kept.completed, kept.resolved, kept.exited⟩
  · obtain ⟨lost, same, only⟩ := kept.ordered
    refine ⟨lost, ?_, only⟩
    rw [accepted]
    exact same
  · change ((runtime.settlements ++ [_]).map Prod.fst ++ _).Perm
      (List.range (runtime.promises + 1))
    rw [List.map_append, List.range_succ, List.append_assoc]
    have moved : (runtime.settlements.map Prod.fst ++
        ([runtime.promises] ++ runtime.pending.map (·.promise))).Perm
          ((runtime.settlements.map Prod.fst ++
            runtime.pending.map (·.promise)) ++ [runtime.promises]) := by
      rw [List.append_assoc]
      exact List.perm_append_comm.append_left _
    exact moved.trans (kept.settled.append_right _)
  · intro received
    obtain ⟨⟨acknowledged, endSent, completion⟩, started⟩ :=
      kept.fulfilled received
    exact ⟨⟨accepted.trans acknowledged, endSent, completion⟩, started⟩

theorem Kept.sendChunk {runtime : Runtime} (kept : runtime.Kept)
    (ready : runtime.state = .ready) {pcm : List UInt8}
    (room : runtime.pendingSamples + (pcm.length / 2 : Nat) ≤ maxQueuedSamples)
    (accepts : Bool) : (runtime.sendChunk pcm accepts).Kept := by
  have running : ¬runtime.state.terminal := running_of ready rfl
  have balance := kept.balance running
  have unclosed := kept.unclosed running
  have due : (runtime.sendChunk pcm accepts).due =
      runtime.due ++ [(runtime.nextEntry (pcm.length / 2)).due] := by
    change (runtime.written ++ [_]).filterMap _ = _
    rw [List.filterMap_append]
    rfl
  have waiting : (runtime.sendChunk pcm accepts).waiting =
      runtime.waiting + pcm.length / 2 := by
    change ((runtime.pending ++ [_]).map _).sum = _
    rw [List.map_append, List.sum_append]
    rfl
  have credit := kept.credit
  refine ⟨?_, ?_, ?_, ?_, fun terminal => absurd terminal running, ?_, ?_, ?_,
    ?_, ?_, kept.resolved, ?_⟩
  · change (runtime.sendChunk pcm accepts).due.map _ =
      (List.range (runtime.nextSequence + 1)).map _
    rw [due, List.map_append, kept.numbered, List.range_succ, List.map_append]
    rfl
  · rw [waiting]
    change runtime.pendingSamples + (pcm.length / 2 : Nat) = _
    push_cast
    omega
  · rw [waiting]
    omega
  · refine ⟨[], ?_, fun lost => absurd rfl lost⟩
    rw [due, balance, List.append_nil, List.append_assoc]
    change _ = runtime.accepted ++ (runtime.pending ++ [_]).map Entry.due
    rw [List.map_append]
    rfl
  · change (runtime.settlements.map Prod.fst ++
      (runtime.pending ++ [_]).map Entry.promise).Perm
        (List.range (runtime.promises + 1))
    rw [List.map_append, List.range_succ, ← List.append_assoc]
    exact kept.settled.append_right _
  · change runtime.ackTimers ++ [_] = (runtime.pending ++ [_]).map Entry.promise
    rw [kept.timed, List.map_append]
    rfl
  · intro ending
    rw [show runtime.state = .ending from ending] at ready
    cases ready
  · intro received
    exact absurd ready (kept.fulfilled received).2.2
  · intro completed
    rw [show runtime.state = .completed from completed] at ready
    cases ready
  · intro exit closed
    rw [show runtime.closed = some exit from closed] at unclosed
    cases unclosed

theorem Kept.sendAudio {runtime : Runtime} (kept : runtime.Kept)
    (stdin : Stdin) (sequence sampleOffset : Option Int)
    (pcm : Option (List UInt8)) :
    (runtime.sendAudio stdin sequence sampleOffset pcm).1.Kept := by
  rcases kept.sendAudio_cases stdin sequence sampleOffset pcm with
    ⟨code, same⟩ | ⟨ready, ⟨code, same⟩ | ⟨bytes, _, room, same⟩⟩
  · rw [same]
    exact kept
  · rw [same]
    exact kept.refuseChunk code
  · rw [same]
    exact kept.sendChunk ready room stdin.accepts

theorem Kept.endInput {runtime : Runtime} (kept : runtime.Kept)
    (stdin : Stdin) (lastSequence : Option Json) :
    (runtime.endInput stdin lastSequence).1.Kept := by
  unfold Runtime.endInput
  dsimp only
  split_ifs with invalid
  · exact kept
  obtain ⟨busy, some_sent, _⟩ := not_or.mp invalid |>.imp id not_or.mp
  have ready : runtime.state = .ready := not_not.mp busy
  have running : ¬runtime.state.terminal := running_of ready rfl
  have balance := kept.balance running
  have unclosed := kept.unclosed running
  rcases write_cases { runtime with state := .ending } stdin
    (.endInput (runtime.nextSequence - 1)) with ⟨code, refused⟩ | sent
  · rw [refused]
    exact (kept.abandon running (.inl rfl) _).quiet _ _ _ _ _ _ _ _ _
  · rw [sent]
    have due : (runtime.written ++ [Outgoing.endInput
        (runtime.nextSequence - 1)]).filterMap Outgoing.due? = runtime.due := by
      rw [List.filterMap_append]
      exact List.append_nil _
    refine ⟨?_, kept.credit, kept.bounded, ?_,
      fun terminal => absurd terminal Bool.false_ne_true, kept.settled,
      kept.timed, ?_, ?_, (fun same => nomatch same), ?_, ?_⟩
    · change (List.filterMap _ (runtime.written ++ [_])).map _ = _
      rw [due]
      exact kept.numbered
    · refine ⟨[], ?_, fun lost => absurd rfl lost⟩
      rw [List.append_nil]
      exact due.trans balance
    · intro _
      exact ⟨some_sent, List.mem_append_right _ List.mem_cons_self⟩
    · intro received
      exact absurd ready (kept.fulfilled received).2.2
    · intro ended
      have completed := kept.resolved ended
      rw [ready] at completed
      cases completed
    · intro exit closed
      rw [show runtime.closed = some exit from closed] at unclosed
      cases unclosed

/-! ## Runs -/

theorem kept_started : Kept { startupTimer := true } := by
  refine ⟨rfl, rfl, Nat.zero_le _, ⟨[], rfl, fun lost => absurd rfl lost⟩,
    fun _ => rfl, .refl _, rfl, nofun, nofun, nofun, nofun, nofun⟩

theorem kept_launch (config : Config) : (launch config).Kept := by
  unfold launch
  dsimp only
  rcases write_cases { startupTimer := true } config.stdin
    (.start config.modelId config.revision) with ⟨code, refused⟩ | sent
  · rw [refused]
    exact kept_started.fail _
  · rw [sent]
    refine ⟨rfl, rfl, Nat.zero_le _, ⟨[], rfl, fun lost => absurd rfl lost⟩,
      fun _ => rfl, .refl _, rfl, nofun, nofun, nofun, nofun, nofun⟩

theorem Kept.step {config : Config} {runtime after : Runtime} {event : Event}
    (kept : runtime.Kept) (taken : runtime.step config event = some after) :
    after.Kept := by
  cases event with
  | stdinDrain =>
      cases taken
      exact kept.quiet _ _ _ _ _ _ _ _ _
  | stdinError =>
      cases taken
      exact kept.fail _
  | writeError =>
      cases taken
      exact kept.fail _
  | stderrData bytes =>
      cases taken
      exact kept.stderrData bytes
  | stdoutData chunk =>
      cases taken
      exact kept.stdoutData config chunk
  | stdoutError =>
      cases taken
      exact kept.fail _
  | spawnError =>
      cases taken
      exact kept.fail _
  | close exitCode exitSignal =>
      obtain ⟨unclosed, same⟩ := Option.ite_none_right_eq_some.mp taken
      cases same
      exact kept.onClose exitCode exitSignal unclosed
  | abort =>
      obtain ⟨_, same⟩ := Option.ite_none_right_eq_some.mp taken
      cases same
      exact kept.onAbort
  | startupTimer =>
      obtain ⟨_, same⟩ := Option.ite_none_right_eq_some.mp taken
      cases same
      exact kept.onStartupTimer
  | ackTimer promise =>
      obtain ⟨armed, same⟩ := Option.ite_none_right_eq_some.mp taken
      cases same
      rw [kept.onAckTimer armed]
      exact kept.fail _
  | killTimer =>
      obtain ⟨_, same⟩ := Option.ite_none_right_eq_some.mp taken
      cases same
      exact kept.quiet _ _ _ _ _ _ _ _ _
  | sendAudio stdin sequence sampleOffset pcm =>
      obtain ⟨_, same⟩ := Option.ite_none_right_eq_some.mp taken
      cases same
      exact kept.sendAudio stdin sequence sampleOffset pcm
  | endInput stdin lastSequence =>
      obtain ⟨_, same⟩ := Option.ite_none_right_eq_some.mp taken
      cases same
      exact kept.endInput stdin lastSequence
  | cancel =>
      obtain ⟨_, same⟩ := Option.ite_none_right_eq_some.mp taken
      cases same
      exact kept.cancel

theorem kept_of_reached {config : Config} {events : List Event}
    {runtime : Runtime} (run : (machine config).Reaches events runtime) :
    runtime.Kept :=
  run.invariant (fun _ runtime => runtime.Kept) (kept_launch config)
    fun _ kept _ taken => kept.step taken

/-! ## The account -/

/-- What holds whenever a handler has returned. -/
structure Credited (config : Config) (runtime : Runtime) : Prop where
  counted : runtime.pendingSamples =
    ((runtime.pending.map (·.sampleCount)).sum : Nat)
  bounded : runtime.pendingSamples ≤ maxQueuedSamples
  /-- Chunks are numbered as they are sent, and the acknowledgements accepted
  are those due for the first of them. -/
  numbered : runtime.due.map (·.sequence) =
    (List.range runtime.nextSequence).map (fun n : Nat => (n : Rat))
  inOrder : runtime.accepted <+: runtime.due
  /-- A promise is settled, once, or its chunk waits. -/
  settledOnce : (runtime.settlements.map Prod.fst ++
    runtime.pending.map (·.promise)).Perm (List.range runtime.promises)
  /-- A chunk waits no longer than its timer runs, and not after the close. -/
  timed : ∀ entry ∈ runtime.pending,
    (runtime.step config (.ackTimer entry.promise)).map (·.pending) = some []
  closed : runtime.closed.isSome → runtime.pending = []
  unchanged : ∀ stdin sequence sampleOffset pcm after code,
    runtime.sendAudio stdin sequence sampleOffset pcm = (after, .error code) →
      after.nextSequence = runtime.nextSequence ∧
        after.nextSampleOffset = runtime.nextSampleOffset ∧
        after.pending = runtime.pending ∧
        after.pendingSamples = runtime.pendingSamples
  completed : runtime.state = .completed → runtime.Fulfilled ∧
    ∃ exitSignal, runtime.closed = some ⟨.completed, some 0, exitSignal⟩

theorem Kept.credited {runtime : Runtime} (kept : runtime.Kept)
    (config : Config) : runtime.Credited config := by
  have credit := kept.credit
  have bounded := kept.bounded
  refine ⟨credit, by omega, kept.numbered, ?_, kept.settled, ?_, ?_, ?_, ?_⟩
  · obtain ⟨lost, same, _⟩ := kept.ordered
    rw [same, List.append_assoc]
    exact List.prefix_append _ _
  · intro entry waits
    have armed : entry.promise ∈ runtime.ackTimers := by
      rw [kept.timed]
      exact List.mem_map_of_mem waits
    have running := kept.running_of_timer armed
    rw [Runtime.step, if_pos armed, kept.onAckTimer armed, Runtime.fail,
      if_neg running]
    rfl
  · intro closed
    obtain ⟨exit, same⟩ := Option.isSome_iff_exists.mp closed
    exact kept.resting (kept.exited exit same).2
  · intro stdin sequence sampleOffset pcm after code thrown
    rcases kept.sendAudio_cases stdin sequence sampleOffset pcm with
      ⟨other, same⟩ | ⟨_, ⟨other, same⟩ | ⟨bytes, _, _, same⟩⟩
    · rw [same] at thrown
      cases thrown
      exact ⟨rfl, rfl, rfl, rfl⟩
    · rw [same] at thrown
      cases thrown
      exact ⟨rfl, rfl, rfl, rfl⟩
    · rw [same] at thrown
      cases thrown
  · intro completed
    obtain ⟨received, closed⟩ := kept.completed completed
    exact ⟨(kept.fulfilled received).1, closed⟩

/-! ## The close is final -/

theorem fail_closed (runtime : Runtime) (code : String) :
    (runtime.fail code).closed = runtime.closed := by
  unfold fail
  split_ifs <;> rfl

theorem onMessage_closed (config : Config) (runtime : Runtime)
    (message : Json) :
    (runtime.onMessage config message).closed = runtime.closed := by
  unfold onMessage onReady onConsumed onCompleted
  dsimp only
  split_ifs
  · rfl
  · rfl
  · exact fail_closed _ _
  · split
    · exact fail_closed _ _
    · split
      · split_ifs
        · rfl
        · exact fail_closed _ _
      · exact fail_closed _ _
  · exact fail_closed _ _
  · rfl
  · exact fail_closed _ _
  · exact fail_closed _ _

theorem onLine_closed (config : Config) (runtime : Runtime)
    (line : List UInt8) :
    (runtime.onLine config line).closed = runtime.closed := by
  unfold onLine
  split
  · exact onMessage_closed config runtime _
  · exact fail_closed _ _

theorem readLines_closed (config : Config) (rounds : Nat) (runtime : Runtime) :
    (runtime.readLines config rounds).closed = runtime.closed := by
  induction rounds generalizing runtime with
  | zero => rfl
  | succ rounds induction =>
      rw [readLines]
      dsimp only
      split_ifs
      · exact fail_closed _ _
      · rfl
      · exact fail_closed _ _
      · exact onLine_closed config _ _
      · exact (induction _).trans (onLine_closed config _ _)

theorem cancel_closed (runtime : Runtime) :
    runtime.cancel.closed = runtime.closed := by
  unfold cancel
  split_ifs <;> rfl

theorem write_closed {runtime written : Runtime} {stdin : Stdin}
    {message : Outgoing} (sent : runtime.write stdin message = .ok written) :
    written.closed = runtime.closed := by
  rcases write_cases runtime stdin message with ⟨code, refused⟩ | same
  · rw [refused] at sent
    cases sent
  · rw [same] at sent
    cases sent
    rfl

theorem sendAudio_closed (runtime : Runtime) (stdin : Stdin)
    (sequence sampleOffset : Option Int) (pcm : Option (List UInt8)) :
    (runtime.sendAudio stdin sequence sampleOffset pcm).1.closed =
      runtime.closed := by
  unfold sendAudio
  split_ifs
  · rfl
  split
  · rfl
  dsimp only
  split_ifs
  · rfl
  · split
    · rfl
    · rename_i written
      exact (write_closed written :)
  · rfl

theorem endInput_closed (runtime : Runtime) (stdin : Stdin)
    (lastSequence : Option Json) :
    (runtime.endInput stdin lastSequence).1.closed = runtime.closed := by
  unfold endInput
  dsimp only
  split_ifs
  · rfl
  · split
    · exact fail_closed _ _
    · rename_i written
      exact (write_closed written :)

/-- What `waitForExit` has resolved with does not change. -/
theorem step_closed {config : Config} {runtime after : Runtime} {event : Event}
    {exit : Exit} (closed : runtime.closed = some exit)
    (taken : runtime.step config event = some after) :
    after.closed = some exit := by
  rw [← closed]
  cases event with
  | stdinDrain =>
      cases taken
      rfl
  | stdinError =>
      cases taken
      exact fail_closed _ _
  | writeError =>
      cases taken
      exact fail_closed _ _
  | stderrData bytes =>
      cases taken
      unfold stderrData
      dsimp only
      split_ifs
      · exact fail_closed _ _
      · rfl
  | stdoutData chunk =>
      cases taken
      unfold stdoutData
      split_ifs
      · rfl
      · exact readLines_closed config _ _
  | stdoutError =>
      cases taken
      exact fail_closed _ _
  | spawnError =>
      cases taken
      exact fail_closed _ _
  | close exitCode exitSignal =>
      rw [step, if_neg (by rw [closed]; exact nofun)] at taken
      cases taken
  | abort =>
      rw [step, if_neg (by rw [closed]; exact nofun)] at taken
      cases taken
  | startupTimer =>
      obtain ⟨_, same⟩ := Option.ite_none_right_eq_some.mp taken
      cases same
      unfold onStartupTimer
      dsimp only
      split_ifs
      · exact fail_closed _ _
      · rfl
  | ackTimer promise =>
      obtain ⟨_, same⟩ := Option.ite_none_right_eq_some.mp taken
      cases same
      exact fail_closed _ _
  | killTimer =>
      obtain ⟨_, same⟩ := Option.ite_none_right_eq_some.mp taken
      cases same
      rfl
  | sendAudio stdin sequence sampleOffset pcm =>
      obtain ⟨_, same⟩ := Option.ite_none_right_eq_some.mp taken
      cases same
      exact sendAudio_closed _ _ _ _ _
  | endInput stdin lastSequence =>
      obtain ⟨_, same⟩ := Option.ite_none_right_eq_some.mp taken
      cases same
      exact endInput_closed _ _ _
  | cancel =>
      obtain ⟨_, same⟩ := Option.ite_none_right_eq_some.mp taken
      cases same
      exact cancel_closed _

end Runtime

end SyntheticAsr

end GpuLink
