import GpuLink.Worker.AdapterSupervisor
import Mathlib.Algebra.GroupWithZero.Nat
import Mathlib.Algebra.Order.BigOperators.Group.List
import Mathlib.Data.List.Induction
import Mathlib.Data.List.Nodup
import Mathlib.Data.List.Perm.Subperm

/-!
# What the completion of a subprocess vouches for

Whatever the order of the runtime's callbacks, `completed` resolves only for a
child whose whole output was the handshake, application frames that were each
handed over once and in order, and one empty END that answers `end`.
-/

namespace GpuLink

namespace AdapterSupervisor

open AdapterIpc

/-! ## The handshake -/

/-- The fields of the handshake, in any order. -/
def handshakeFields : List (String × Json) :=
  [("protocol", .string "gpulink.adapter.ipc"), ("version", .number 1),
    ("ready", .bool true)]

/-- A READY frame that carries the handshake and nothing else. -/
def Handshake (parse : String → Option Json) (frame : Frame) : Prop :=
  frame.type = .READY ∧
    ∃ text fields, decodeAdapterIpcText frame.payload = .ok text ∧
      parse text = some (.object fields) ∧ fields.Perm handshakeFields

theorem intercalate_comma_length {keys : List String} (nonempty : keys ≠ []) :
    (String.intercalate "," keys).length + 1 =
      (keys.map (fun key => key.length + 1)).sum := by
  induction keys with
  | nil => exact (nonempty rfl).elim
  | cons key keys induction =>
      cases keys with
      | nil => simp
      | cons next keys =>
          have rest := induction (by simp)
          rw [String.intercalate_cons_cons]
          simp only [String.length_append, List.map_cons, List.sum_cons] at *
          have comma : ",".length = 1 := by decide
          omega

theorem field?_mem {fields : List (String × Json)} {name : String}
    {value : Json} (found : Json.field? (.object fields) name = some value) :
    (name, value) ∈ fields := by
  change (fields.find? _).map Prod.snd = some value at found
  obtain ⟨entry, first, held⟩ := Option.map_eq_some_iff.mp found
  have named := List.find?_some first
  have same : entry = (name, value) :=
    Prod.ext (of_decide_eq_true named) held
  exact same ▸ List.mem_of_find?_eq_some first

/-- The names, sorted and joined, have the length of the three names that must
occur, so there is no other field. -/
theorem isHandshake_perm {fields : List (String × Json)}
    (accepted : isHandshake fields) : fields.Perm handshakeFields := by
  unfold isHandshake at accepted
  simp only [Bool.and_eq_true, decide_eq_true_eq] at accepted
  obtain ⟨⟨⟨joined, protocol⟩, version⟩, ready⟩ := accepted
  have hasProtocol : ("protocol", Json.string "gpulink.adapter.ipc") ∈ fields := by
    split at protocol
    · next text found =>
        have same : text = "gpulink.adapter.ipc" := of_decide_eq_true protocol
        exact field?_mem (same ▸ found)
    · cases protocol
  have hasVersion : ("version", Json.number 1) ∈ fields := by
    split at version
    · next number found =>
        have same : number = 1 := of_decide_eq_true version
        exact field?_mem (same ▸ found)
    · cases version
  have hasReady : ("ready", Json.bool true) ∈ fields := by
    split at ready
    · next flag found =>
        have same : flag = true := ready
        exact field?_mem (same ▸ found)
    · cases ready
  have distinct : handshakeFields.Nodup := by
    apply List.Nodup.of_map Prod.fst
    decide
  have included : handshakeFields ⊆ fields := by
    intro entry member
    simp only [handshakeFields, List.mem_cons, List.not_mem_nil, or_false]
      at member
    rcases member with rfl | rfl | rfl
    · exact hasProtocol
    · exact hasVersion
    · exact hasReady
  have within := List.subperm_of_subset distinct included
  by_cases more : handshakeFields.length < fields.length
  · obtain ⟨other, listed, perm, sublist⟩ := within.exists_of_length_lt more
    have sorted := List.perm_insertionSort (· ≤ ·) (fields.map Prod.fst)
    have nonempty : (fields.map Prod.fst).insertionSort (· ≤ ·) ≠ [] := by
      intro empty
      rw [empty] at joined
      exact absurd joined (by decide)
    have total := intercalate_comma_length nonempty
    rw [joined, (sorted.map _).sum_eq, List.map_map] at total
    have weight := (perm.map (fun entry : String × Json =>
      entry.1.length + 1)).sum_eq
    have bound : (listed.map (fun entry : String × Json =>
        entry.1.length + 1)).sum ≤ _ :=
      (sublist.map _).sum_le_sum (fun _ _ => Nat.zero_le _)
    have three : (handshakeFields.map (fun entry : String × Json =>
        entry.1.length + 1)).sum = 23 := by decide
    have whole : "protocol,ready,version".length + 1 = 23 := by decide
    simp only [List.map_cons, List.sum_cons] at weight
    simp only [Function.comp_def] at total
    omega
  · exact (within.perm_of_length_le (Nat.not_lt.mp more)).symm

theorem handshake_of_receive {parse : String → Option Json} {frame : Frame}
    {fields : List (String × Json)} (ready : frame.type = .READY)
    (decoded : decodeAdapterIpcJson parse frame .READY = .ok fields)
    (accepted : isHandshake fields) : Handshake parse frame := by
  refine ⟨ready, ?_⟩
  unfold decodeAdapterIpcJson at decoded
  split at decoded
  · cases decoded
  · split at decoded
    · cases decoded
    · next text found =>
        split at decoded
        · next other parsed =>
            cases decoded
            exact ⟨text, fields, found, parsed, isHandshake_perm accepted⟩
        · cases decoded

/-! ## Reading the log -/

def Effect.frame? : Effect → Option Frame
  | .received frame => some frame
  | _ => none

def Effect.delivery? : Effect → Option Frame
  | .onFrame frame => some frame
  | _ => none

def Effect.completion? : Effect → Option (Option String)
  | .completedSettled failure => some failure
  | _ => none

def Effect.readiness? : Effect → Option (Option String)
  | .readySettled failure => some failure
  | _ => none

/-- The frames that came to `receive`. -/
def receivedFrames (log : List Effect) : List Frame :=
  log.filterMap Effect.frame?

/-- The frames that were given to `onFrame`. -/
def deliveredFrames (log : List Effect) : List Frame :=
  log.filterMap Effect.delivery?

/-- How often, and with what, `completed` was settled. -/
def completions (log : List Effect) : List (Option String) :=
  log.filterMap Effect.completion?

/-- How often, and with what, `ready` was settled. -/
def readinesses (log : List Effect) : List (Option String) :=
  log.filterMap Effect.readiness?

theorem filterMap_emit {α : Type} (read : Effect → Option α)
    (log : List Effect) (effect : Effect) :
    (log ++ [effect]).filterMap read =
      log.filterMap read ++ (read effect).toList := by
  cases found : read effect <;> simp [found]

theorem receivedFrames_emit (log : List Effect) (effect : Effect) :
    receivedFrames (log ++ [effect]) =
      receivedFrames log ++ effect.frame?.toList :=
  filterMap_emit _ _ _

theorem deliveredFrames_emit (log : List Effect) (effect : Effect) :
    deliveredFrames (log ++ [effect]) =
      deliveredFrames log ++ effect.delivery?.toList :=
  filterMap_emit _ _ _

theorem completions_emit (log : List Effect) (effect : Effect) :
    completions (log ++ [effect]) =
      completions log ++ effect.completion?.toList :=
  filterMap_emit _ _ _

theorem readinesses_emit (log : List Effect) (effect : Effect) :
    readinesses (log ++ [effect]) =
      readinesses log ++ effect.readiness?.toList :=
  filterMap_emit _ _ _

def Event.stdout : Event → List UInt8
  | .stdoutData chunk _ => chunk
  | _ => []

/-- What the child has written to its standard output. -/
def stdoutOf (events : List Event) : List UInt8 :=
  events.flatMap Event.stdout

def IsApplication (frame : Frame) : Prop :=
  frame.type = .BINARY ∨ frame.type = .TEXT

/-- The END frame came after `end` was called. -/
def EndAnswered (log : List Effect) : Prop :=
  ∃ earlier later,
    log = earlier ++ .received ⟨.END, []⟩ :: later ∧ .ending ∈ earlier

/-- Whenever `ready` resolved, the handshake and no other frame had come. -/
def ReadyAfterHandshake (parse : String → Option Json)
    (log : List Effect) : Prop :=
  ∀ earlier later, log = earlier ++ .readySettled none :: later →
    ∃ frame, Handshake parse frame ∧ receivedFrames earlier = [frame]

/-- A successful session: the whole output, what was handed over, and how the
child ended. -/
structure Succeeded (parse : String → Option Json) (stdout : List UInt8)
    (code : Option Int) (log : List Effect) : Prop where
  output : ∃ handshake application,
    Handshake parse handshake ∧
    (∀ frame ∈ application, IsApplication frame) ∧
    stdout = (handshake :: application ++ [Frame.mk .END []]).flatMap Frame.wire ∧
    deliveredFrames log = application
  answered : EndAnswered log
  exited : code = some 0
  unterminated : ∀ reason, .terminated reason ∉ log

/-! ## What every event keeps -/

/-- The handshake has come, and every frame since then was handed over, but for
`rest`. -/
def Talk (parse : String → Option Json) (log : List Effect)
    (rest : List Frame) : Prop :=
  ∃ handshake, Handshake parse handshake ∧
    (∀ frame ∈ deliveredFrames log, IsApplication frame) ∧
    receivedFrames log = handshake :: deliveredFrames log ++ rest

/-- How far the session is, by mode and by `endAcknowledged`. -/
inductive InStep (parse : String → Option Json) (log : List Effect) :
    Mode → Bool → Prop where
  | starting :
      receivedFrames log = [] → deliveredFrames log = [] →
      InStep parse log .starting false
  | running : Talk parse log [] → InStep parse log .running false
  | ending :
      Talk parse log [] → .ending ∈ log → InStep parse log .ending false
  | acknowledged :
      Talk parse log [⟨.END, []⟩] → EndAnswered log →
      InStep parse log .acknowledged true

/-- A session that still may succeed; the decoder has cut the output into
frames, of which `pending` have not come to `receive`. -/
structure Live (parse : String → Option Json) (stdout : List UInt8)
    (pending : List Frame) (s : Supervisor) : Prop where
  inStep : InStep parse s.log s.mode s.endAcknowledged
  consumed : stdout =
    (receivedFrames s.log ++ pending).flatMap Frame.wire ++
      s.decoder.phase.wire
  unterminated : ∀ reason, .terminated reason ∉ s.log

/-- What holds of a session however it ends, `done` being how `completed` was
settled. -/
structure Kept (parse : String → Option Json) (done : List (Option String))
    (s : Supervisor) : Prop where
  resting : s.stoppedReason.isSome ∨ s.doneSettled →
    s.mode = .stopping ∨ s.mode = .closed
  ready : ReadyAfterHandshake parse s.log
  readyOnce : (readinesses s.log).length = s.readySettled.toNat
  completed : completions s.log = done
  doneSettled : s.doneSettled = !done.isEmpty

structure Tracked (parse : String → Option Json) (stdout : List UInt8)
    (pending : List Frame) (done : List (Option String))
    (s : Supervisor) : Prop extends Kept parse done s where
  live : s.stoppedReason = none → s.doneSettled = false →
    Live parse stdout pending s

/-- The fields that `Tracked` speaks of. -/
def Supervisor.view (s : Supervisor) :=
  (s.mode, s.endAcknowledged, s.stoppedReason, s.readySettled, s.doneSettled,
    s.decoder.phase, s.log)

/-- An effect that says nothing of frames, of promises or of a termination. -/
def Effect.Quiet (effect : Effect) : Prop :=
  effect.frame? = none ∧ effect.delivery? = none ∧
    effect.completion? = none ∧ effect.readiness? = none ∧
    ∀ reason, effect ≠ .terminated reason

section

variable {parse : String → Option Json} {log : List Effect}
variable {stdout : List UInt8} {pending : List Frame}
variable {done : List (Option String)} {s t : Supervisor}

theorem Kept.of_view (kept : Kept parse done s) (same : t.view = s.view) :
    Kept parse done t := by
  obtain ⟨⟩ := s
  obtain ⟨⟩ := t
  simp only [Supervisor.view, Prod.mk.injEq] at same
  obtain ⟨rfl, rfl, rfl, rfl, rfl, held, rfl⟩ := same
  exact ⟨kept.resting, kept.ready, kept.readyOnce, kept.completed,
    kept.doneSettled⟩

theorem Tracked.of_view (tracked : Tracked parse stdout pending done s)
    (same : t.view = s.view) : Tracked parse stdout pending done t := by
  refine ⟨tracked.toKept.of_view same, ?_⟩
  obtain ⟨⟩ := s
  obtain ⟨⟩ := t
  simp only [Supervisor.view, Prod.mk.injEq] at same
  obtain ⟨rfl, rfl, rfl, rfl, rfl, held, rfl⟩ := same
  intro running unsettled
  have live := tracked.live running unsettled
  exact ⟨live.inStep, held ▸ live.consumed, live.unterminated⟩

theorem ReadyAfterHandshake.append {effect : Effect}
    (ready : ReadyAfterHandshake parse log)
    (other : effect ≠ .readySettled none) :
    ReadyAfterHandshake parse (log ++ [effect]) := by
  intro earlier later split
  rcases List.eq_nil_or_concat later with rfl | ⟨front, last, rfl⟩
  · have same := List.append_inj_right' split rfl
    exact (other (List.cons.inj same).1).elim
  · rw [List.concat_eq_append, ← List.cons_append, ← List.append_assoc]
      at split
    exact ready earlier front (List.append_inj_left' split rfl)

theorem Talk.append {effect : Effect} {rest : List Frame}
    (talk : Talk parse log rest) (frame : effect.frame? = none)
    (delivery : effect.delivery? = none) :
    Talk parse (log ++ [effect]) rest := by
  obtain ⟨handshake, greeted, application, received⟩ := talk
  refine ⟨handshake, greeted, ?_, ?_⟩
  · simpa [deliveredFrames_emit, delivery] using application
  · simpa [deliveredFrames_emit, receivedFrames_emit, frame, delivery] using
      received

theorem EndAnswered.append {effect : Effect} (answered : EndAnswered log) :
    EndAnswered (log ++ [effect]) := by
  obtain ⟨earlier, later, split, called⟩ := answered
  exact ⟨earlier, later ++ [effect], by simp [split], called⟩

theorem InStep.append {effect : Effect} {mode : Mode} {acknowledged : Bool}
    (inStep : InStep parse log mode acknowledged)
    (frame : effect.frame? = none) (delivery : effect.delivery? = none) :
    InStep parse (log ++ [effect]) mode acknowledged := by
  cases inStep with
  | starting received delivered =>
      apply InStep.starting
      · simpa [receivedFrames_emit, frame] using received
      · simpa [deliveredFrames_emit, delivery] using delivered
  | running talk => exact .running (talk.append frame delivery)
  | ending talk called =>
      exact .ending (talk.append frame delivery)
        (List.mem_append_left _ called)
  | acknowledged talk answered =>
      exact .acknowledged (talk.append frame delivery) answered.append

theorem Kept.emit (kept : Kept parse done s) (effect : Effect)
    (completion : effect.completion? = none)
    (readiness : effect.readiness? = none) :
    Kept parse done (s.emit effect) := by
  refine ⟨kept.resting, ?_, ?_, ?_, kept.doneSettled⟩
  · apply kept.ready.append
    intro same
    rw [same] at readiness
    cases readiness
  · have once := kept.readyOnce
    simpa [Supervisor.emit, readinesses_emit, readiness] using once
  · have completed := kept.completed
    simpa [Supervisor.emit, completions_emit, completion] using completed

theorem Tracked.emit {effect : Effect}
    (tracked : Tracked parse stdout pending done s) (quiet : effect.Quiet) :
    Tracked parse stdout pending done (s.emit effect) := by
  obtain ⟨frame, delivery, completion, readiness, termination⟩ := quiet
  refine ⟨tracked.toKept.emit effect completion readiness, ?_⟩
  intro running unsettled
  have live := tracked.live running unsettled
  refine ⟨live.inStep.append frame delivery, ?_, ?_⟩
  · have consumed := live.consumed
    simpa [Supervisor.emit, receivedFrames_emit, frame] using consumed
  · intro reason member
    rcases List.mem_append.mp member with before | last
    · exact live.unterminated reason before
    · exact termination reason (List.mem_singleton.mp last).symm

theorem Kept.settleReady (kept : Kept parse done s) (code : String) :
    Kept parse done (s.settleReady (some code)) := by
  unfold Supervisor.settleReady
  split
  · exact kept
  · next unsettled =>
      refine ⟨kept.resting, kept.ready.append (by simp), ?_, ?_,
        kept.doneSettled⟩
      · have once := kept.readyOnce
        rw [Bool.eq_false_iff.mpr unsettled] at once
        simpa [Supervisor.emit, readinesses_emit, Effect.readiness?] using once
      · have completed := kept.completed
        simpa [Supervisor.emit, completions_emit, Effect.completion?] using
          completed

theorem settleReady_fields (s : Supervisor) (failure : Option String) :
    (s.settleReady failure).stoppedReason = s.stoppedReason ∧
      (s.settleReady failure).mode = s.mode ∧
      (s.settleReady failure).doneSettled = s.doneSettled := by
  unfold Supervisor.settleReady
  split <;> exact ⟨rfl, rfl, rfl⟩

/-- Whatever came before, a terminated session is in order: it can no longer
succeed. -/
theorem Kept.terminate (kept : Kept parse done s) (reason : String) :
    Tracked parse stdout pending done (s.terminate reason) := by
  unfold Supervisor.terminate
  split
  · next stopped =>
      refine ⟨kept, ?_⟩
      intro running
      simp [running] at stopped
  · have begun : Kept parse done
        { s with stoppedReason := some reason, mode := .stopping } :=
      ⟨fun _ => .inl rfl, kept.ready, kept.readyOnce, kept.completed,
        kept.doneSettled⟩
    have logged := (((begun.emit (.terminated reason) rfl rfl).settleReady
      reason).emit .stdinDestroyed rfl rfl).emit (.kill .SIGTERM) rfl rfl
    refine ⟨logged.of_view rfl, ?_⟩
    intro running
    have marked := (settleReady_fields ({ s with
      stoppedReason := some reason
      mode := .stopping }.emit (.terminated reason)) (some reason)).1
    exact absurd (marked.symm.trans running) (by simp [Supervisor.emit])

theorem InStep.of_starting {acknowledged : Bool}
    (inStep : InStep parse log .starting acknowledged) :
    receivedFrames log = [] ∧ deliveredFrames log = [] ∧
      acknowledged = false := by
  cases inStep with
  | starting received delivered => exact ⟨received, delivered, rfl⟩

theorem InStep.of_running {acknowledged : Bool}
    (inStep : InStep parse log .running acknowledged) :
    Talk parse log [] ∧ acknowledged = false := by
  cases inStep with
  | running talk => exact ⟨talk, rfl⟩

theorem InStep.of_ending {acknowledged : Bool}
    (inStep : InStep parse log .ending acknowledged) :
    Talk parse log [] ∧ .ending ∈ log ∧ acknowledged = false := by
  cases inStep with
  | ending talk called => exact ⟨talk, called, rfl⟩

theorem InStep.of_acknowledged {mode : Mode}
    (inStep : InStep parse log mode true) :
    Talk parse log [⟨.END, []⟩] ∧ EndAnswered log := by
  cases inStep with
  | acknowledged talk answered => exact ⟨talk, answered⟩

/-! ## Calls of the owner -/

theorem quiet_sendSettled (failure : Option String) :
    (Effect.sendSettled failure).Quiet :=
  ⟨rfl, rfl, rfl, rfl, by simp⟩

theorem quiet_write (type : FrameType) (payload : List UInt8) :
    (Effect.write type payload).Quiet :=
  ⟨rfl, rfl, rfl, rfl, by simp⟩

theorem Tracked.writeFrame (tracked : Tracked parse stdout pending done s)
    (type : FrameType) (payload : List UInt8) (throws : Bool) :
    Tracked parse stdout pending done (s.writeFrame type payload throws) := by
  unfold Supervisor.writeFrame
  split
  · exact tracked.emit (quiet_sendSettled _)
  · split
    · exact tracked.emit (quiet_sendSettled _)
    · split
      · exact tracked.emit (quiet_sendSettled _)
      · split
        · exact tracked.emit (quiet_sendSettled _)
        · exact (tracked.emit (quiet_write type payload)).of_view rfl

/-- In these modes the session may still succeed. -/
theorem Tracked.live_of_mode (tracked : Tracked parse stdout pending done s)
    (stopping : s.mode ≠ .stopping) (closed : s.mode ≠ .closed) :
    Live parse stdout pending s := by
  apply tracked.live
  · by_contra stopped
    have resting := tracked.resting (.inl (Option.isSome_iff_ne_none.mpr stopped))
    exact resting.elim stopping closed
  · by_contra settled
    have resting := tracked.resting (.inr (by simpa using settled))
    exact resting.elim stopping closed

theorem Tracked.end (tracked : Tracked parse stdout pending done s)
    (throws : Bool) : Tracked parse stdout pending done (s.end throws) := by
  unfold Supervisor.end
  split
  · exact tracked
  · next mode =>
      have running : s.mode = .running := not_not.mp mode
      have live := tracked.live_of_mode (by simp [running]) (by simp [running])
      have ended : Tracked parse stdout pending done
          ({ s with mode := .ending }.emit .ending) := by
        have begun : Kept parse done { s with mode := .ending } :=
          ⟨fun rests => by simpa [running] using tracked.resting rests,
            tracked.ready, tracked.readyOnce, tracked.completed,
            tracked.doneSettled⟩
        refine ⟨begun.emit _ rfl rfl, fun _ _ => ?_⟩
        have inStep := live.inStep
        rw [running] at inStep
        obtain ⟨talk, unacknowledged⟩ := inStep.of_running
        refine ⟨?_, ?_, ?_⟩
        · change InStep parse (s.log ++ [.ending]) .ending s.endAcknowledged
          rw [unacknowledged]
          exact .ending (talk.append rfl rfl) (by simp)
        · have consumed := live.consumed
          simpa [Supervisor.emit, receivedFrames_emit, Effect.frame?] using
            consumed
        · intro reason member
          rcases List.mem_append.mp member with before | last
          · exact live.unterminated reason before
          · cases List.mem_singleton.mp last
      split
      · exact ended
      · exact ended.emit (quiet_write _ _)

theorem Tracked.cancel (tracked : Tracked parse stdout pending done s)
    (throws : Bool) : Tracked parse stdout pending done (s.cancel throws) := by
  unfold Supervisor.cancel
  split
  · exact tracked
  · split
    · exact (tracked.emit (quiet_write _ _)).toKept.terminate _
    · exact tracked.toKept.terminate _

theorem Tracked.abort (tracked : Tracked parse stdout pending done s) :
    Tracked parse stdout pending done s.abort := by
  unfold Supervisor.abort
  split
  · have unregistered : Kept parse done { s with abortHandler := false } :=
      tracked.toKept.of_view rfl
    exact unregistered.terminate _
  · exact tracked

theorem Tracked.call (tracked : Tracked parse stdout pending done s)
    (call : ApiCall) : Tracked parse stdout pending done (s.call call) := by
  cases call with
  | sendBinary bytes throws =>
      unfold Supervisor.call Supervisor.sendBinary
      dsimp only
      split
      · exact tracked.emit (quiet_sendSettled _)
      · exact tracked.writeFrame _ _ _
  | sendText text throws => exact tracked.writeFrame _ _ _
  | «end» throws => exact tracked.end throws
  | cancel throws => exact tracked.cancel throws
  | abort => exact tracked.abort

theorem Tracked.calls (tracked : Tracked parse stdout pending done s)
    (calls : List ApiCall) :
    Tracked parse stdout pending done (calls.foldl Supervisor.call s) := by
  induction calls generalizing s with
  | nil => exact tracked
  | cons call calls induction => exact induction (tracked.call call)

/-! ## Output of the child -/

theorem ReadyAfterHandshake.resolve {frame : Frame}
    (ready : ReadyAfterHandshake parse log)
    (greeted : Handshake parse frame) (received : receivedFrames log = [frame]) :
    ReadyAfterHandshake parse (log ++ [.readySettled none]) := by
  intro earlier later split
  rcases List.eq_nil_or_concat later with rfl | ⟨front, last, rfl⟩
  · have same := List.append_inj_left' split rfl
    exact ⟨frame, greeted, same ▸ received⟩
  · rw [List.concat_eq_append, ← List.cons_append, ← List.append_assoc]
      at split
    exact ready earlier front (List.append_inj_left' split rfl)

theorem Tracked.resolve {frame : Frame}
    (tracked : Tracked parse stdout pending done s)
    (greeted : Handshake parse frame)
    (first : receivedFrames s.log = [frame]) :
    Tracked parse stdout pending done (s.settleReady none) := by
  unfold Supervisor.settleReady
  split
  · exact tracked
  · next unsettled =>
      have once := tracked.readyOnce
      have completed := tracked.completed
      rw [Bool.eq_false_iff.mpr unsettled] at once
      refine ⟨⟨tracked.resting, tracked.ready.resolve greeted first, ?_, ?_,
        tracked.doneSettled⟩, ?_⟩
      · simpa [Supervisor.emit, readinesses_emit, Effect.readiness?] using once
      · simpa [Supervisor.emit, completions_emit, Effect.completion?] using
          completed
      · intro running unclosed
        have live := tracked.live running unclosed
        refine ⟨live.inStep.append rfl rfl, ?_, ?_⟩
        · have consumed := live.consumed
          simpa [Supervisor.emit, receivedFrames_emit, Effect.frame?] using
            consumed
        · intro reason member
          rcases List.mem_append.mp member with before | last
          · exact live.unterminated reason before
          · cases List.mem_singleton.mp last

/-- The handshake has come: the session runs. -/
theorem Tracked.greet {frame : Frame}
    (tracked : Tracked parse stdout (frame :: pending) done s)
    (starting : s.mode = .starting) (greeted : Handshake parse frame) :
    Tracked parse stdout pending done
      ({ s.emit (.received frame) with mode := .running }.settleReady
        none) := by
  have live := tracked.live_of_mode (by simp [starting]) (by simp [starting])
  have inStep := live.inStep
  rw [starting] at inStep
  obtain ⟨received, delivered, unacknowledged⟩ := inStep.of_starting
  have kept := tracked.toKept.emit (.received frame) rfl rfl
  have unsettled : s.stoppedReason.isSome ∨ s.doneSettled → False := by
    intro rests
    simpa [starting] using tracked.resting rests
  have first : receivedFrames (s.log ++ [.received frame]) = [frame] := by
    rw [receivedFrames_emit, received]
    rfl
  have none' : deliveredFrames (s.log ++ [.received frame]) = [] := by
    rw [deliveredFrames_emit, delivered]
    rfl
  have begun : Kept parse done { s.emit (.received frame) with
      mode := .running } :=
    ⟨fun rests => (unsettled rests).elim, kept.ready, kept.readyOnce,
      kept.completed, kept.doneSettled⟩
  have talk : Talk parse (s.log ++ [.received frame]) [] :=
    ⟨frame, greeted, by simp [none'], by simp [none', first]⟩
  have running : Tracked parse stdout pending done
      { s.emit (.received frame) with mode := .running } := by
    refine ⟨begun, fun _ _ => ⟨?_, ?_, ?_⟩⟩
    · change InStep parse (s.log ++ [.received frame]) .running
        s.endAcknowledged
      rw [unacknowledged]
      exact .running talk
    · have consumed := live.consumed
      simpa [Supervisor.emit, first, received] using consumed
    · intro reason member
      rcases List.mem_append.mp member with before | last
      · exact live.unterminated reason before
      · cases List.mem_singleton.mp last
  exact running.resolve greeted first

/-- An application frame is handed over; the callback may make any calls. -/
theorem Tracked.deliver {frame : Frame}
    (tracked : Tracked parse stdout (frame :: pending) done s)
    (mode : s.mode = .running ∨ s.mode = .ending)
    (application : IsApplication frame) (reaction : Reaction) :
    Tracked parse stdout pending done
      ((s.emit (.received frame)).deliver frame reaction).1 := by
  have live := tracked.live_of_mode
    (by rcases mode with same | same <;> simp [same])
    (by rcases mode with same | same <;> simp [same])
  have kept := (tracked.toKept.emit (.received frame) rfl rfl).emit
    (.onFrame frame) rfl rfl
  have received : receivedFrames
      (s.log ++ [.received frame] ++ [.onFrame frame]) =
        receivedFrames s.log ++ [frame] := by
    simp only [receivedFrames_emit]
    simp [Effect.frame?]
  have delivered : deliveredFrames
      (s.log ++ [.received frame] ++ [.onFrame frame]) =
        deliveredFrames s.log ++ [frame] := by
    simp only [deliveredFrames_emit]
    simp [Effect.delivery?]
  have talk : Talk parse s.log [] →
      Talk parse (s.log ++ [.received frame] ++ [.onFrame frame]) [] := by
    intro ⟨handshake, greeted, applications, order⟩
    refine ⟨handshake, greeted, ?_, ?_⟩
    · intro other member
      rw [delivered] at member
      rcases List.mem_append.mp member with before | last
      · exact applications other before
      · exact List.mem_singleton.mp last ▸ application
    · rw [received, delivered, order]
      simp
  have handed : Tracked parse stdout pending done
      ((s.emit (.received frame)).emit (.onFrame frame)) := by
    refine ⟨kept, fun _ _ => ⟨?_, ?_, ?_⟩⟩
    · have inStep := live.inStep
      change InStep parse (s.log ++ [.received frame] ++ [.onFrame frame])
        s.mode s.endAcknowledged
      rcases mode with running | ending
      · rw [running] at inStep ⊢
        obtain ⟨before, unacknowledged⟩ := inStep.of_running
        rw [unacknowledged]
        exact .running (talk before)
      · rw [ending] at inStep ⊢
        obtain ⟨before, called, unacknowledged⟩ := inStep.of_ending
        rw [unacknowledged]
        exact .ending (talk before) (by simp [called])
    · have consumed := live.consumed
      change stdout = (receivedFrames (s.log ++ [.received frame] ++
        [.onFrame frame]) ++ pending).flatMap Frame.wire ++
          s.decoder.phase.wire
      rw [received]
      simpa using consumed
    · intro reason member
      simp only [Supervisor.emit, List.mem_append, List.mem_singleton,
        reduceCtorEq, or_false] at member
      exact live.unterminated reason member
  exact handed.calls reaction.calls

/-- The END frame that answers `end`. -/
theorem Tracked.acknowledge
    (tracked : Tracked parse stdout (⟨.END, []⟩ :: pending) done s)
    (ending : s.mode = .ending) :
    Tracked parse stdout pending done { s.emit (.received ⟨.END, []⟩) with
      endAcknowledged := true, mode := .acknowledged } := by
  have live := tracked.live_of_mode (by simp [ending]) (by simp [ending])
  have inStep := live.inStep
  rw [ending] at inStep
  obtain ⟨⟨handshake, greeted, applications, order⟩, called, -⟩ :=
    inStep.of_ending
  have kept := tracked.toKept.emit (.received ⟨.END, []⟩) rfl rfl
  refine ⟨⟨?_, kept.ready, kept.readyOnce, kept.completed, kept.doneSettled⟩,
    fun _ _ => ⟨?_, ?_, ?_⟩⟩
  · intro rests
    simpa [ending] using tracked.resting rests
  · apply InStep.acknowledged
    · refine ⟨handshake, greeted, ?_, ?_⟩
      · simpa [Supervisor.emit, deliveredFrames_emit, Effect.delivery?] using
          applications
      · simp [Supervisor.emit, receivedFrames_emit, deliveredFrames_emit,
          Effect.frame?, Effect.delivery?, order]
    · exact ⟨s.log, [], rfl, called⟩
  · have consumed := live.consumed
    simpa [Supervisor.emit, receivedFrames_emit, Effect.frame?] using consumed
  · intro reason member
    rcases List.mem_append.mp member with before | last
    · exact live.unterminated reason before
    · cases List.mem_singleton.mp last

theorem Tracked.receive {frame : Frame}
    (tracked : Tracked parse stdout (frame :: pending) done s)
    (react : Nat → Reaction) :
    Kept parse done (s.receive parse frame react).1 ∧
      ((s.receive parse frame react).2 = none →
        Tracked parse stdout pending done (s.receive parse frame react).1) := by
  have counted : Tracked parse stdout (frame :: pending) done
      { s with framesSeen := s.framesSeen + 1 } := tracked.of_view rfl
  have kept := counted.toKept.emit (.received frame) rfl rfl
  have handed : ∀ reaction,
      IsApplication frame → s.mode = .running ∨ s.mode = .ending →
      Tracked parse stdout pending done
        (({ s with framesSeen := s.framesSeen + 1 }.emit
          (.received frame)).deliver frame reaction).1 :=
    fun reaction application mode => counted.deliver mode application reaction
  unfold Supervisor.receive
  dsimp only
  split
  · exact ⟨kept, by simp⟩
  · split
    · next starting =>
        split
        · exact ⟨kept, by simp⟩
        · next ready =>
            split
            · exact ⟨kept, by simp⟩
            · next fields decoded =>
                split
                · next accepted =>
                    have unarmed : Tracked parse stdout (frame :: pending) done
                        { s with framesSeen := s.framesSeen + 1
                                 startupTimer := false } :=
                      tracked.of_view rfl
                    have greeted := unarmed.greet starting
                      (handshake_of_receive (not_not.mp ready) decoded accepted)
                    exact ⟨greeted.toKept, fun _ => greeted⟩
                · exact ⟨kept, by simp⟩
    · split
      · exact ⟨kept, by simp⟩
      · split
        · next application =>
            split
            · exact ⟨kept, by simp⟩
            · next mode =>
                have talking : s.mode = .running ∨ s.mode = .ending := by
                  by_contra neither
                  exact mode (not_or.mp neither)
                split
                · split
                  · exact ⟨kept, by simp⟩
                  · have later := handed (react (s.framesSeen + 1)) application
                      talking
                    exact ⟨later.toKept, fun _ => later⟩
                · have later := handed (react (s.framesSeen + 1)) application
                      talking
                  exact ⟨later.toKept, fun _ => later⟩
        · split
          · next answer =>
              obtain ⟨type, payload⟩ := frame
              obtain ⟨rfl, rfl, ending⟩ := answer
              have later := counted.acknowledge ending
              exact ⟨later.toKept, fun _ => later⟩
          · exact ⟨kept, by simp⟩

theorem Tracked.receiveAll {frames : List Frame}
    (tracked : Tracked parse stdout frames done s) (react : Nat → Reaction) :
    Kept parse done (Supervisor.receiveAll parse react frames s).1 ∧
      ((Supervisor.receiveAll parse react frames s).2 = none →
        Tracked parse stdout [] done
          (Supervisor.receiveAll parse react frames s).1) := by
  induction frames generalizing s with
  | nil => exact ⟨tracked.toKept, fun _ => tracked⟩
  | cons frame frames induction =>
      have first := tracked.receive react
      unfold Supervisor.receiveAll
      generalize s.receive parse frame react = outcome at first ⊢
      obtain ⟨later, failure⟩ := outcome
      cases failure with
      | some code => exact ⟨first.1, by simp⟩
      | none => exact induction (first.2 rfl)

theorem Tracked.stdoutData (tracked : Tracked parse stdout [] done s)
    (chunk : List UInt8) (react : Nat → Reaction) :
    Tracked parse (stdout ++ chunk) [] done
      (s.stdoutData parse chunk react) := by
  have counted : Kept parse done
      { s with outputBytes := s.outputBytes + chunk.length } :=
    tracked.toKept.of_view rfl
  unfold Supervisor.stdoutData
  dsimp only
  split
  · next stopped =>
      refine ⟨tracked.toKept, ?_⟩
      intro running
      simp [running] at stopped
  · split
    · exact counted.terminate _
    · split
      · have read : ∀ decoder, Kept parse done
            { s with outputBytes := s.outputBytes + chunk.length
                     decoder := decoder } := fun decoder =>
          ⟨tracked.resting, tracked.ready, tracked.readyOnce,
            tracked.completed, tracked.doneSettled⟩
        exact (read _).terminate _
      · next decoder frames pushed =>
          obtain ⟨wire, -⟩ := push_wire pushed
          have read : Tracked parse (stdout ++ chunk) frames done
              { s with outputBytes := s.outputBytes + chunk.length
                       decoder := decoder } := by
            refine ⟨⟨tracked.resting, tracked.ready, tracked.readyOnce,
              tracked.completed, tracked.doneSettled⟩, ?_⟩
            intro running unsettled
            have live := tracked.live running unsettled
            refine ⟨live.inStep, ?_, live.unterminated⟩
            have consumed := live.consumed
            rw [List.append_nil] at consumed
            rw [consumed, List.append_assoc, wire, List.flatMap_append,
              List.append_assoc]
          have all := read.receiveAll react
          generalize Supervisor.receiveAll parse react frames _ = outcome
            at all ⊢
          obtain ⟨later, failure⟩ := outcome
          cases failure with
          | some code => exact all.1.terminate code
          | none => exact all.2 rfl

/-! ## The end of the child -/

theorem Kept.close (kept : Kept parse [] s) (decoder : Decoder)
    (failure : Option String) (code : String) :
    Tracked parse stdout [] [failure]
      (({ s with doneSettled := true
                 decoder := decoder
                 mode := .closed }.settleReady (some code)).emit
        (.completedSettled failure)) := by
  have once := kept.readyOnce
  have completed := kept.completed
  unfold Supervisor.settleReady
  split
  · refine ⟨⟨fun _ => .inr rfl, kept.ready.append (by simp), ?_, ?_, rfl⟩, ?_⟩
    · simpa [Supervisor.emit, readinesses_emit, Effect.readiness?] using once
    · simp [Supervisor.emit, completions_emit, Effect.completion?, completed]
    · intro running unsettled
      cases unsettled
  · next unsettled =>
      have pending : s.readySettled = false := Bool.eq_false_iff.mpr unsettled
      rw [pending] at once
      refine ⟨⟨fun _ => .inr rfl,
        (kept.ready.append (by simp)).append (by simp), ?_, ?_, rfl⟩, ?_⟩
      · simp only [Supervisor.emit, readinesses_emit, List.length_append, once]
        rfl
      · simp only [Supervisor.emit, completions_emit, completed]
        rfl
      · intro running unsettled
        cases unsettled

/-- `completed` resolves only for a session that has succeeded. -/
theorem Live.succeeded {code : Option Int} (live : Live parse stdout [] s)
    (accepted : s.verdict code = none) :
    Succeeded parse stdout code s.log := by
  unfold Supervisor.verdict at accepted
  split at accepted
  · cases accepted
  · split at accepted
    · cases accepted
    · next finished =>
        split at accepted
        · next ended =>
            obtain ⟨acknowledged, exited⟩ := ended
            have inStep := live.inStep
            rw [acknowledged] at inStep
            obtain ⟨⟨handshake, greeted, applications, order⟩, answered⟩ :=
              inStep.of_acknowledged
            have boundary : s.decoder.phase.wire = [] :=
              finish_boundary (Prod.ext rfl finished)
            have consumed := live.consumed
            rw [boundary, order, List.append_nil, List.append_nil] at consumed
            exact ⟨⟨handshake, deliveredFrames s.log, greeted, applications,
              consumed, rfl⟩, answered, exited, live.unterminated⟩
        · cases accepted

/-! ## Whole sessions -/

theorem Tracked.apply {event : Event}
    (tracked : Tracked parse stdout [] done s)
    (other : ∀ code, event ≠ .close code) :
    Tracked parse (stdout ++ event.stdout) [] done (s.apply parse event) := by
  have unchanged : Tracked parse (stdout ++ []) [] done s := by
    rw [List.append_nil]
    exact tracked
  have terminated : ∀ t : Supervisor, t.view = s.view → ∀ reason,
      Tracked parse (stdout ++ []) [] done (t.terminate reason) :=
    fun t same reason => (unchanged.of_view same).toKept.terminate reason
  cases event with
  | stdoutData chunk react => exact tracked.stdoutData chunk react
  | stderrData length =>
      unfold Supervisor.apply Supervisor.stderrData
      dsimp only
      split
      · apply terminated
        rfl
      · exact unchanged.of_view rfl
  | stdinError =>
      unfold Supervisor.apply Supervisor.stdinError
      dsimp only
      split
      · apply terminated
        rfl
      · exact unchanged
  | stdoutError => exact terminated s rfl _
  | stderrError => exact terminated s rfl _
  | childError => exact terminated s rfl _
  | close code => exact (other code rfl).elim
  | startupTimeout =>
      unfold Supervisor.apply
      dsimp only
      split
      · apply terminated
        rfl
      · exact unchanged
  | lifetimeTimeout =>
      unfold Supervisor.apply
      dsimp only
      split
      · apply terminated
        rfl
      · exact unchanged
  | killTimeout =>
      unfold Supervisor.apply
      dsimp only
      split
      · exact (unchanged.of_view
          (t := { s with killTimer := false }) rfl).emit
            ⟨rfl, rfl, rfl, rfl, by simp⟩
      · exact unchanged
  | written length failed =>
      exact (unchanged.of_view (t := { s with
        pendingWrites := s.pendingWrites - length }) rfl).emit
          (quiet_sendSettled _)
  | endWritten failed =>
      unfold Supervisor.apply
      dsimp only
      split
      · exact unchanged
      · exact unchanged.emit ⟨rfl, rfl, rfl, rfl, by simp⟩
  | api call => exact unchanged.call call

/-- However `completed` was settled, it was settled once; and if it resolved,
then at the end of a session that had succeeded. -/
def Vouched (parse : String → Option Json) (first : Supervisor)
    (events : List Event) (done : List (Option String)) : Prop :=
  done.length ≤ 1 ∧
    (none ∈ done → ∃ before code after,
      events = before ++ .close code :: after ∧
        Succeeded parse (stdoutOf before) code (first.play parse before).log)

theorem Vouched.append {first : Supervisor} {events : List Event}
    (vouched : Vouched parse first events done) (event : Event) :
    Vouched parse first (events ++ [event]) done := by
  refine ⟨vouched.1, ?_⟩
  intro resolved
  obtain ⟨before, code, after, split, succeeded⟩ := vouched.2 resolved
  exact ⟨before, code, after ++ [event], by simp [split], succeeded⟩

theorem play_append (first : Supervisor) (events : List Event)
    (event : Event) :
    first.play parse (events ++ [event]) =
      (first.play parse events).apply parse event := by
  simp [Supervisor.play]

theorem stdoutOf_append (events : List Event) (event : Event) :
    stdoutOf (events ++ [event]) = stdoutOf events ++ event.stdout := by
  simp [stdoutOf]

theorem Tracked.play {first : Supervisor}
    (begun : Tracked parse [] [] [] first) (events : List Event) :
    ∃ done, Tracked parse (stdoutOf events) [] done
        (first.play parse events) ∧
      Vouched parse first events done := by
  induction events using List.reverseRecOn with
  | nil => exact ⟨[], begun, by simp, by simp⟩
  | append_singleton events event induction =>
      obtain ⟨done, tracked, vouched⟩ := induction
      rw [play_append, stdoutOf_append]
      by_cases closing : ∃ code, event = .close code
      · obtain ⟨code, rfl⟩ := closing
        have released : Tracked parse (stdoutOf events ++ []) [] done
            { first.play parse events with
              startupTimer := false
              lifetimeTimer := false
              killTimer := false
              abortHandler := false } := by
          rw [List.append_nil]
          exact tracked.of_view rfl
        change ∃ done, Tracked parse (stdoutOf events ++ []) [] done
            ((first.play parse events).onClose code) ∧ _
        unfold Supervisor.onClose
        dsimp only
        split
        · exact ⟨done, released, vouched.append _⟩
        · next unsettled =>
            have unclosed : (first.play parse events).doneSettled = false :=
              Bool.eq_false_iff.mpr unsettled
            have fresh : done = [] := by
              have flag := tracked.doneSettled
              rw [unclosed] at flag
              simpa using flag.symm
            subst fresh
            refine ⟨_, released.toKept.close _ _ _, by simp, ?_⟩
            intro resolved
            have accepted := (List.mem_singleton.mp resolved).symm
            have running : (first.play parse events).stoppedReason = none := by
              unfold Supervisor.verdict at accepted
              split at accepted
              · cases accepted
              · assumption
            refine ⟨events, code, [], rfl, ?_⟩
            exact (tracked.live running unclosed).succeeded accepted
      · have other : ∀ code, event ≠ .close code :=
          fun code same => closing ⟨code, same⟩
        exact ⟨done, tracked.apply other, vouched.append event⟩

theorem started_tracked {options : Options} {throws : Bool}
    {first : Supervisor}
    (started : startAdapterSubprocess options throws = .ok first) :
    Tracked parse [] [] [] first := by
  have spawned : ∀ config, Tracked parse [] [] []
      (Supervisor.spawned config) := by
    intro config
    refine ⟨⟨by simp [Supervisor.spawned], ?_, rfl, rfl, rfl⟩,
      fun _ _ => ⟨.starting rfl rfl, rfl, by simp [Supervisor.spawned]⟩⟩
    intro earlier later split
    exact absurd split (by simp [Supervisor.spawned])
  unfold startAdapterSubprocess at started
  split at started
  · cases started
  · dsimp only at started
    split at started
    · cases started
      exact (spawned _).toKept.terminate _
    · cases started
      exact (spawned _).emit (quiet_write _ _)

end

/-- For every order of the runtime's callbacks: `completed` resolves only at
the end of a session that has succeeded, `ready` resolves only after the
handshake, and neither is settled twice. -/
theorem subprocess_completion (parse : String → Option Json)
    {options : Options} {throws : Bool} {first : Supervisor}
    (started : startAdapterSubprocess options throws = .ok first)
    (events : List Event) :
    (none ∈ completions (first.play parse events).log →
      ∃ before code after, events = before ++ .close code :: after ∧
        Succeeded parse (stdoutOf before) code
          (first.play parse before).log) ∧
    ReadyAfterHandshake parse (first.play parse events).log ∧
    (completions (first.play parse events).log).length ≤ 1 ∧
    (readinesses (first.play parse events).log).length ≤ 1 := by
  have begun : Tracked parse [] [] [] first := started_tracked started
  obtain ⟨done, tracked, vouched⟩ := begun.play events
  have once := tracked.readyOnce
  refine ⟨?_, tracked.ready, ?_, ?_⟩
  · rw [tracked.completed]
    exact vouched.2
  · rw [tracked.completed]
    exact vouched.1
  · rw [once]
    exact Bool.toNat_le _

/-! ## An echo -/

def sampleOptions : Options where
  executable := "/usr/bin/python3"
  sessionId := "session_1"

def sampleChild : Supervisor :=
  (Supervisor.spawned sampleOptions).emit
    (.write .HELLO (helloText "session_1").toUTF8.toList)

def readyText : String :=
  "\x7b\"protocol\":\"gpulink.adapter.ipc\",\"version\":1,\"ready\":true\x7d"

/-- `JSON.parse` on the text of the handshake. -/
def parseReady (text : String) : Option Json :=
  if text = readyText then some (.object handshakeFields) else none

/-- The child greets, echoes one frame, answers END and exits; the second chunk
stops in the middle of a frame. -/
def sampleSession : List Event :=
  let echo := Frame.wire ⟨.BINARY, [0, 255]⟩ ++ Frame.wire ⟨.END, []⟩
  let idle : Nat → Reaction := fun _ => ⟨[], false⟩
  [.stdoutData (Frame.wire ⟨.READY, readyText.toUTF8.toList⟩) idle,
    .api (.sendBinary [0, 255] false), .written 11 false,
    .api (.end false), .endWritten false,
    .stdoutData (echo.take 10) idle, .stdoutData (echo.drop 10) idle,
    .close (some 0)]

theorem subprocess_completion_sample :
    none ∈ completions (sampleChild.play parseReady sampleSession).log ∧
      ∃ before code after, sampleSession = before ++ .close code :: after ∧
        Succeeded parseReady (stdoutOf before) code
          (sampleChild.play parseReady before).log := by
  have resolved :
      none ∈ completions (sampleChild.play parseReady sampleSession).log := by
    decide +kernel
  have started : startAdapterSubprocess sampleOptions false = .ok sampleChild :=
    rfl
  exact ⟨resolved,
    (subprocess_completion parseReady started sampleSession).1 resolved⟩

end AdapterSupervisor

end GpuLink
