import GpuLink.Worker.SubprocessBridge
import Mathlib.Data.List.TakeWhile

/-!
# Order and completion in the subprocess bridge

Whatever the order of messages, continuations, callbacks of the child and
aborts, the child is written a beginning of what the client has sent, and the
client is told of a completion once, last, and only for a child that has
answered END and has exited with 0.
-/

namespace GpuLink

namespace SubprocessBridge

open AdapterIpc AdapterSupervisor

/-! ## What is written to the child -/

/-- A frame of the client's, or the END that stands for its END text. -/
def Effect.input? : Effect → Option Frame
  | .write .BINARY payload => some ⟨.BINARY, payload⟩
  | .write .TEXT payload => some ⟨.TEXT, payload⟩
  | .write .END payload => some ⟨.END, payload⟩
  | _ => none

/-- What was written to the child between the handshake and a CANCEL. -/
def inputs (log : List Effect) : List Frame :=
  log.filterMap Effect.input?

/-- An effect that writes no input. -/
def Effect.Silent (effect : Effect) : Prop :=
  Effect.input? effect = none

/-- Nor does it hand over a frame. -/
def Effect.Mute (effect : Effect) : Prop :=
  Effect.Silent effect ∧ effect.delivery? = none

/-- From `s` to `t` the log grows by such effects only. -/
def Adds (kind : Effect → Prop) (s t : Supervisor) : Prop :=
  ∃ added, t.log = s.log ++ added ∧ ∀ effect ∈ added, kind effect

section

variable {parse : String → Option Json} {kind : Effect → Prop}
variable {s t u : Supervisor}

theorem Adds.of_log (same : t.log = s.log) : Adds kind s t :=
  ⟨[], by simp [same], by simp⟩

theorem Adds.refl (s : Supervisor) : Adds kind s s :=
  .of_log rfl

theorem Adds.trans (first : Adds kind s t) (second : Adds kind t u) :
    Adds kind s u := by
  obtain ⟨early, before, earlyKind⟩ := first
  obtain ⟨late, after, lateKind⟩ := second
  refine ⟨early ++ late, ?_, ?_⟩
  · rw [after, before, List.append_assoc]
  · intro effect member
    rcases List.mem_append.mp member with inEarly | inLate
    · exact earlyKind effect inEarly
    · exact lateKind effect inLate

theorem Adds.mono {other : Effect → Prop} (adds : Adds kind s t)
    (weaker : ∀ effect, kind effect → other effect) : Adds other s t := by
  obtain ⟨added, log, all⟩ := adds
  exact ⟨added, log, fun effect member => weaker effect (all effect member)⟩

theorem Adds.emit (adds : Adds kind s t) (effect : Effect)
    (held : kind effect) : Adds kind s (t.emit effect) := by
  apply adds.trans
  refine ⟨[effect], rfl, ?_⟩
  intro other member
  exact List.mem_singleton.mp member ▸ held

theorem mute_settleReady (failure : Option String) :
    Adds Effect.Mute s (s.settleReady failure) := by
  unfold Supervisor.settleReady
  split
  · exact .refl s
  · have settled : Adds Effect.Mute s { s with readySettled := true } :=
      .of_log rfl
    exact settled.emit _ ⟨rfl, rfl⟩

theorem mute_terminate (reason : String) :
    Adds Effect.Mute s (s.terminate reason) := by
  unfold Supervisor.terminate
  split
  · exact .refl s
  · have marked : Adds Effect.Mute s { s with
        stoppedReason := some reason
        mode := .stopping } := .of_log rfl
    have logged : Adds Effect.Mute s ({ s with
        stoppedReason := some reason
        mode := .stopping }.emit (.terminated reason)) :=
      marked.emit _ ⟨rfl, rfl⟩
    have settled := logged.trans (mute_settleReady (some reason))
    have destroyed := settled.emit .stdinDestroyed ⟨rfl, rfl⟩
    have killed := destroyed.emit (.kill .SIGTERM) ⟨rfl, rfl⟩
    exact killed.trans (.of_log rfl)

theorem mute_terminate_of (same : t.log = s.log) (reason : String) :
    Adds Effect.Mute s (t.terminate reason) :=
  (Adds.of_log same).trans (mute_terminate reason)

theorem mute_abort : Adds Effect.Mute s s.abort := by
  unfold Supervisor.abort
  split
  · exact mute_terminate_of rfl _
  · exact .refl s

theorem mute_cancel (throws : Bool) :
    Adds Effect.Mute s (s.cancel throws) := by
  unfold Supervisor.cancel
  split
  · exact .refl s
  · split
    · have written : Adds Effect.Mute s (s.emit (.write .CANCEL [])) :=
        (Adds.refl s).emit _ ⟨rfl, rfl⟩
      exact written.trans (mute_terminate _)
    · exact mute_terminate _

theorem mute_onClose (code : Option Int) :
    Adds Effect.Mute s (s.onClose code) := by
  unfold Supervisor.onClose
  dsimp only
  split
  · exact .of_log rfl
  · apply Adds.emit
    · apply Adds.trans (t := { s with
        startupTimer := false
        lifetimeTimer := false
        killTimer := false
        abortHandler := false })
      · exact .of_log rfl
      · exact (Adds.of_log rfl).trans (mute_settleReady _)
    · exact ⟨rfl, rfl⟩

/-- No callback of the runtime but the child's output matters to the order. -/
theorem mute_runtime {event : AdapterSupervisor.Event}
    (runtime : isRuntime event = true) :
    Adds Effect.Mute s (s.apply parse event) := by
  cases event with
  | stdoutData chunk react => cases runtime
  | api call => cases runtime
  | stderrData length =>
      unfold Supervisor.apply Supervisor.stderrData
      dsimp only
      split
      · exact mute_terminate_of rfl _
      · exact .of_log rfl
  | stdinError =>
      unfold Supervisor.apply Supervisor.stdinError
      dsimp only
      split
      · exact mute_terminate _
      · exact .refl s
  | stdoutError => exact mute_terminate _
  | stderrError => exact mute_terminate _
  | childError => exact mute_terminate _
  | close code => exact mute_onClose code
  | startupTimeout =>
      unfold Supervisor.apply
      dsimp only
      split
      · exact mute_terminate_of rfl _
      · exact .refl s
  | lifetimeTimeout =>
      unfold Supervisor.apply
      dsimp only
      split
      · exact mute_terminate_of rfl _
      · exact .refl s
  | killTimeout =>
      unfold Supervisor.apply
      dsimp only
      split
      · have unset : Adds Effect.Mute s { s with killTimer := false } :=
          .of_log rfl
        exact unset.emit _ ⟨rfl, rfl⟩
      · exact .refl s
  | written length failed =>
      have flushed : Adds Effect.Mute s { s with
          pendingWrites := s.pendingWrites - length } := .of_log rfl
      exact flushed.emit _ ⟨rfl, rfl⟩
  | endWritten failed =>
      unfold Supervisor.apply
      dsimp only
      split
      · exact .refl s
      · exact (Adds.refl s).emit _ ⟨rfl, rfl⟩

/-! ## The output of the child -/

/-- All that `onFrame` calls is the abort handler. -/
def Aborting (react : Nat → Reaction) : Prop :=
  ∀ seen, ∀ call ∈ (react seen).calls, call = ApiCall.abort

theorem silent_calls {calls : List ApiCall}
    (aborts : ∀ call ∈ calls, call = ApiCall.abort) :
    Adds Effect.Silent s (calls.foldl Supervisor.call s) := by
  induction calls generalizing s with
  | nil => exact .refl s
  | cons call calls induction =>
      have first : call = .abort := aborts call List.mem_cons_self
      have rest := induction (s := s.call call) (fun other member =>
        aborts other (List.mem_cons_of_mem call member))
      have aborted : Adds Effect.Silent s (s.call call) := by
        rw [first]
        exact mute_abort.mono (fun _ mute => mute.1)
      exact aborted.trans rest

theorem silent_deliver (frame : Frame) {reaction : Reaction}
    (aborts : ∀ call ∈ reaction.calls, call = ApiCall.abort) :
    Adds Effect.Silent s (s.deliver frame reaction).1 := by
  have handed : Adds Effect.Silent s (s.emit (.onFrame frame)) :=
    (Adds.refl s).emit _ rfl
  exact handed.trans (silent_calls aborts)

theorem silent_receive (parse : String → Option Json)
    {react : Nat → Reaction} (aborting : Aborting react) (s : Supervisor)
    (frame : Frame) :
    Adds Effect.Silent s (s.receive parse frame react).1 := by
  have counted : Adds Effect.Silent s
      ({ s with framesSeen := s.framesSeen + 1 }.emit (.received frame)) :=
    (Adds.of_log (t := { s with framesSeen := s.framesSeen + 1 }) rfl).emit _
      rfl
  have delivered := counted.trans (silent_deliver frame
    (aborting (s.framesSeen + 1)))
  unfold Supervisor.receive
  dsimp only
  split
  · exact counted
  · split
    · split
      · exact counted
      · split
        · exact counted
        · split
          · apply counted.trans
            apply Adds.trans (t := { ({ s with
              framesSeen := s.framesSeen + 1 }.emit (.received frame)) with
                mode := .running
                startupTimer := false })
            · exact .of_log rfl
            · exact (mute_settleReady none).mono (fun _ mute => mute.1)
          · exact counted
    · split
      · exact counted
      · split
        · split
          · exact counted
          · split
            · split
              · exact counted
              · exact delivered
            · exact delivered
        · split
          · exact counted.trans (.of_log rfl)
          · exact counted

theorem silent_receiveAll (parse : String → Option Json)
    {react : Nat → Reaction} (aborting : Aborting react)
    (frames : List Frame) :
    Adds Effect.Silent s (Supervisor.receiveAll parse react frames s).1 := by
  induction frames generalizing s with
  | nil => exact .refl s
  | cons frame frames induction =>
      have first := silent_receive parse aborting s frame
      unfold Supervisor.receiveAll
      generalize s.receive parse frame react = outcome at first ⊢
      obtain ⟨later, failure⟩ := outcome
      cases failure with
      | some code => exact first
      | none => exact first.trans induction

/-- A child that has stopped hands over nothing more. -/
theorem mute_receiveAll (parse : String → Option Json)
    (resting : s.mode = .stopping ∨ s.mode = .closed)
    (react : Nat → Reaction) (frames : List Frame) :
    Adds Effect.Mute s (Supervisor.receiveAll parse react frames s).1 := by
  cases frames with
  | nil => exact .refl s
  | cons frame frames =>
      have counted : Adds Effect.Mute s
          ({ s with framesSeen := s.framesSeen + 1 }.emit (.received frame)) :=
        (Adds.of_log (t := { s with framesSeen := s.framesSeen + 1 })
          rfl).emit _ ⟨rfl, rfl⟩
      have refused : ∃ code, s.receive parse frame react =
          ({ s with framesSeen := s.framesSeen + 1 }.emit (.received frame),
            some code) := by
        unfold Supervisor.receive Supervisor.emit
        dsimp only
        rcases resting with stopping | closed
        · simp only [stopping, reduceCtorEq, if_false, true_or, if_true]
          split <;> exact ⟨_, rfl⟩
        · simp only [closed, reduceCtorEq, or_self, if_false, ne_eq,
            not_false_eq_true, and_self, if_true, and_false]
          split
          · exact ⟨_, rfl⟩
          · split <;> exact ⟨_, rfl⟩
      obtain ⟨code, same⟩ := refused
      unfold Supervisor.receiveAll
      rw [same]
      exact counted

theorem silent_stdoutData {react : Nat → Reaction} (aborting : Aborting react)
    (chunk : List UInt8) :
    Adds Effect.Silent s (s.stdoutData parse chunk react) := by
  unfold Supervisor.stdoutData
  dsimp only
  split
  · exact .refl s
  · split
    · exact (mute_terminate_of rfl _).mono (fun _ mute => mute.1)
    · split
      · exact (mute_terminate_of rfl _).mono (fun _ mute => mute.1)
      · next decoder frames pushed =>
          have read : Adds Effect.Silent s { s with
              outputBytes := s.outputBytes + chunk.length
              decoder := decoder } := .of_log rfl
          have all := read.trans (silent_receiveAll parse aborting frames)
          generalize Supervisor.receiveAll parse react frames _ = outcome
            at all ⊢
          obtain ⟨later, failure⟩ := outcome
          cases failure with
          | some code =>
              exact all.trans ((mute_terminate code).mono
                (fun _ mute => mute.1))
          | none => exact all

theorem mute_stdoutData (parse : String → Option Json)
    (resting : s.mode = .stopping ∨ s.mode = .closed)
    (chunk : List UInt8) (react : Nat → Reaction) :
    Adds Effect.Mute s (s.stdoutData parse chunk react) := by
  unfold Supervisor.stdoutData
  dsimp only
  split
  · exact .refl s
  · split
    · exact mute_terminate_of rfl _
    · split
      · exact mute_terminate_of rfl _
      · next decoder frames pushed =>
          have read : Adds Effect.Mute s { s with
              outputBytes := s.outputBytes + chunk.length
              decoder := decoder } := .of_log rfl
          have all := read.trans (mute_receiveAll parse
            (s := { s with
              outputBytes := s.outputBytes + chunk.length
              decoder := decoder }) resting react frames)
          generalize Supervisor.receiveAll parse react frames _ = outcome
            at all ⊢
          obtain ⟨later, failure⟩ := outcome
          cases failure with
          | some code => exact all.trans (mute_terminate code)
          | none => exact all

/-! ## Sends and `end` -/

/-- A send writes its frame, or its promise is rejected at once. -/
theorem writeFrame_log (type : FrameType) (payload : List UInt8)
    (throws : Bool) :
    (s.writeFrame type payload throws).log =
        s.log ++ [.write type payload] ∨
      ∃ code, (s.writeFrame type payload throws).log =
        s.log ++ [.sendSettled (some code)] := by
  unfold Supervisor.writeFrame
  split
  · exact .inr ⟨_, rfl⟩
  · split
    · exact .inr ⟨_, rfl⟩
    · split
      · exact .inr ⟨_, rfl⟩
      · split
        · exact .inr ⟨_, rfl⟩
        · exact .inl rfl

theorem sendBinary_log (bytes : List UInt8) (throws : Bool) :
    (s.sendBinary bytes throws).log = s.log ++ [.write .BINARY bytes] ∨
      ∃ code, (s.sendBinary bytes throws).log =
        s.log ++ [.sendSettled (some code)] := by
  unfold Supervisor.sendBinary
  split
  · exact .inr ⟨_, rfl⟩
  · exact writeFrame_log _ _ _

theorem end_log (throws : Bool) :
    (s.end throws).log =
      if s.mode ≠ .running then s.log
      else if throws then s.log ++ [.ending]
      else s.log ++ [.ending, .write .END []] := by
  unfold Supervisor.end
  split
  · rfl
  · split
    · rfl
    · simp [Supervisor.emit]

theorem toList_loop (bytes : ByteArray) (i : Nat) (read : List UInt8) :
    ByteArray.toList.loop bytes i read =
      read.reverse ++ bytes.data.toList.drop i := by
  fun_induction ByteArray.toList.loop bytes i read with
  | case1 i read inside induction =>
      have bound : i < bytes.data.toList.length := inside
      have byte : bytes.get! i = bytes.data.toList[i] := by
        rw [Array.getElem_toList]
        exact getElem!_pos bytes.data i inside
      rw [induction, List.drop_eq_getElem_cons bound, byte,
        List.reverse_cons, List.append_assoc, List.singleton_append]
  | case2 i read outside =>
      have past : bytes.data.toList.length ≤ i := Nat.not_lt.mp outside
      rw [List.drop_eq_nil_of_le past, List.append_nil]

/-- Decoding a text and encoding it again gives the bytes back. -/
theorem toUTF8_of_decode {bytes : List UInt8} {text : String}
    (decoded : decodeAdapterIpcText bytes = .ok text) :
    text.toUTF8.toList = bytes := by
  unfold decodeAdapterIpcText at decoded
  split at decoded
  · next found valid =>
      cases decoded
      unfold String.fromUTF8? at valid
      split at valid
      · cases valid
        change bytes.toByteArray.toList = bytes
        unfold ByteArray.toList
        rw [toList_loop]
        exact List.toList_data_toByteArray
      · cases valid
  · cases decoded

end

/-! ## What the client asks for -/

/-- The frame that carries a message to the child. -/
def Message.frame (message : Message) : Frame :=
  ⟨if message.binary then .BINARY else .TEXT, message.data⟩

def Item.frame (item : Item) : Frame :=
  if item.end then ⟨.END, []⟩ else item.toMessage.frame

/-- What an item counts for in `queuedBytes`. -/
def Item.size (item : Item) : Nat :=
  item.data.length + 9

def beforeEnd (explicit : Bool) (messages : List Message) : List Message :=
  messages.takeWhile (fun message => !message.isEnd explicit)

/-- The messages before END, and END if it has come. -/
def clientInput (explicit : Bool) (messages : List Message) : List Frame :=
  (beforeEnd explicit messages).map Message.frame ++
    if messages.any (Message.isEnd explicit) then [⟨.END, []⟩] else []

section

variable {explicit : Bool} {messages : List Message}

theorem beforeEnd_of_open
    (unended : messages.any (Message.isEnd explicit) = false) :
    beforeEnd explicit messages = messages := by
  apply List.takeWhile_eq_self_iff.mpr
  intro message member
  have other := List.any_eq_false.mp unended message member
  simpa using other

/-- After END nothing more is asked for. -/
theorem clientInput_of_ended (message : Message)
    (ended : messages.any (Message.isEnd explicit) = true) :
    clientInput explicit (messages ++ [message]) =
      clientInput explicit messages := by
  have stops : beforeEnd explicit (messages ++ [message]) =
      beforeEnd explicit messages := by
    induction messages with
    | nil => cases ended
    | cons first messages induction =>
        unfold beforeEnd at *
        rw [List.cons_append, List.takeWhile_cons, List.takeWhile_cons]
        split
        · next going =>
            have other : first.isEnd explicit = false := by
              simpa using going
            rw [List.any_cons, other, Bool.false_or] at ended
            rw [induction ended]
        · rfl
  unfold clientInput
  rw [stops, List.any_append, ended, Bool.true_or]

theorem clientInput_of_open (message : Message)
    (unended : messages.any (Message.isEnd explicit) = false) :
    clientInput explicit (messages ++ [message]) =
      clientInput explicit messages ++
        [Item.frame ⟨message, message.isEnd explicit⟩] := by
  have all := beforeEnd_of_open unended
  unfold beforeEnd at all
  have longer : beforeEnd explicit (messages ++ [message]) =
      messages ++ if message.isEnd explicit then [] else [message] := by
    unfold beforeEnd
    rw [List.takeWhile_append_of_pos (List.takeWhile_eq_self_iff.mp all),
      List.takeWhile_cons]
    cases message.isEnd explicit <;> rfl
  unfold clientInput
  rw [longer, beforeEnd_of_open unended, List.any_append, unended]
  cases ended : message.isEnd explicit <;> simp [Item.frame, ended]

theorem clientInput_append (message : Message) :
    clientInput explicit messages <+:
      clientInput explicit (messages ++ [message]) := by
  cases ended : messages.any (Message.isEnd explicit) with
  | true =>
      exact (clientInput_of_ended message ended).symm ▸ List.prefix_rfl
  | false =>
      rw [clientInput_of_open message ended]
      exact List.prefix_append _ _

end

/-! ## What every event keeps -/

/-- The completion is the last thing sent, and the child has completed. -/
def Final (sent : List Outgoing) (done : List (Option String)) : Prop :=
  ∃ replies : List Frame,
    sent = replies.map Outgoing.reply ∨
      (sent = replies.map Outgoing.reply ++ [.completed] ∧ none ∈ done)

/-- What holds of a session at all times; `received` are the messages so
far. -/
structure Safe (parse : String → Option Json) (received : List Message)
    (b : Bridge) : Prop where
  ordered : inputs (b.log parse) <+: clientInput b.context.explicit received
  unsmuggled : b.context.explicit = true →
    completedFrame ∉ inputs (b.log parse)
  unforged : b.context.explicit = true → Outgoing.reply completedFrame ∉ b.sent
  counted : b.queuedBytes = (b.queue.map Item.size).sum
  bounded : b.queuedBytes ≤ maxBacklog
  final : Final b.sent (completions (b.log parse))

/-- Until the session is aborted, what the client asks for was written or waits
in the queue, but for an item whose write is known to have failed. -/
structure Flowing (parse : String → Option Json) (received : List Message)
    (b : Bridge) : Prop where
  owed : ∃ lost, clientInput b.context.explicit received =
      inputs (b.log parse) ++ lost ++ b.queue.map Item.frame ∧
    (lost = [] ∨ ∃ code, b.awaited parse = some (some code))
  requested : b.endRequested = received.any (Message.isEnd b.context.explicit)
  genuine : b.context.explicit = true →
    ∀ item ∈ b.queue, item.frame ≠ completedFrame
  unreported : ∀ written, b.pumping = .ending written →
    (∀ code, written ≠ some (some code)) → .completed ∉ b.sent

structure Held (parse : String → Option Json) (received : List Message)
    (b : Bridge) : Prop where
  safe : Safe parse received b
  flowing : b.aborted = false → Flowing parse received b

/-- The child's log grows by silent effects. -/
def Extends (parse : String → Option Json) (b later : Bridge) : Prop :=
  ∃ added, later.log parse = b.log parse ++ added ∧
    ∀ effect ∈ added, Effect.Silent effect

/-- What the invariant reads, apart from the child's log. -/
def Bridge.view (b : Bridge) :=
  (b.context, b.sent, b.queue, b.queuedBytes)

section

variable {parse : String → Option Json} {received : List Message}
variable {context : Context} {b later last : Bridge}

theorem log_of_child (same : later.child = b.child) :
    later.log parse = b.log parse := by
  unfold Bridge.log
  rw [same]

theorem Extends.of_child (same : later.child = b.child) :
    Extends parse b later :=
  ⟨[], by simp [log_of_child same], by simp⟩

theorem now_apply (child : Child) (event : AdapterSupervisor.Event) :
    (child.apply event).now parse = (child.now parse).apply parse event :=
  play_append _ _ _

/-- The child is applied an event, and nothing else about its log changes. -/
theorem Extends.apply (event : AdapterSupervisor.Event)
    (silent : ∀ s : Supervisor, Adds Effect.Silent s (s.apply parse event))
    (same : later.child = b.child.map (·.apply event)) :
    Extends parse b later := by
  unfold Extends Bridge.log
  rw [same]
  cases b.child with
  | none => exact ⟨[], rfl, by simp⟩
  | some child =>
      rw [Option.map_some]
      change ∃ added, ((child.apply event).now parse).log = _ ∧ _
      rw [now_apply]
      exact silent (child.now parse)

theorem inputs_append (log added : List Effect) :
    inputs (log ++ added) = inputs log ++ inputs added :=
  List.filterMap_append

theorem inputs_of_silent {added : List Effect}
    (silent : ∀ effect ∈ added, Effect.Silent effect) : inputs added = [] :=
  List.filterMap_eq_nil_iff.mpr silent

theorem Extends.inputs (extend : Extends parse b later) :
    SubprocessBridge.inputs (later.log parse) =
      SubprocessBridge.inputs (b.log parse) := by
  obtain ⟨added, log, silent⟩ := extend
  rw [log, inputs_append, inputs_of_silent silent, List.append_nil]

theorem Extends.completions (extend : Extends parse b later) :
    AdapterSupervisor.completions (b.log parse) <+:
      AdapterSupervisor.completions (later.log parse) := by
  obtain ⟨added, log, silent⟩ := extend
  rw [log]
  unfold AdapterSupervisor.completions
  rw [List.filterMap_append]
  exact List.prefix_append _ _

/-- What an `await` has come to stays so. -/
theorem awaited_of_extends {outcome : Option String}
    (extend : Extends parse b later) (same : later.pumping = b.pumping)
    (settled : b.awaited parse = some outcome) :
    later.awaited parse = some outcome := by
  have completed := extend.completions
  obtain ⟨added, log, silent⟩ := extend
  unfold Bridge.awaited at *
  rw [same]
  split at settled
  · cases settled
  · next call pumping =>
      have bound : call < (settledSends (b.log parse)).length :=
        (List.getElem?_eq_some_iff.mp settled).1
      rw [log]
      unfold settledSends at *
      rw [List.filterMap_append, List.getElem?_append_left bound]
      exact settled
  · obtain ⟨more, whole⟩ := completed
    rw [← whole, List.head?_append, settled]
    rfl
  · exact settled
  · exact settled

theorem Final.mono {sent : List Outgoing} {done more : List (Option String)}
    (final : Final sent done) (grown : done <+: more) : Final sent more := by
  obtain ⟨replies, before | ⟨after, resolved⟩⟩ := final
  · exact ⟨replies, .inl before⟩
  · exact ⟨replies, .inr ⟨after, grown.subset resolved⟩⟩

theorem Safe.extend (safe : Safe parse received b)
    (extend : Extends parse b later) (same : later.view = b.view) :
    Safe parse received later := by
  simp only [Bridge.view, Prod.mk.injEq] at same
  obtain ⟨context, sent, queue, queuedBytes⟩ := same
  refine ⟨?_, ?_, ?_, ?_, ?_, ?_⟩
  · rw [extend.inputs, context]
    exact safe.ordered
  · rw [extend.inputs, context]
    exact safe.unsmuggled
  · rw [context, sent]
    exact safe.unforged
  · rw [queue, queuedBytes]
    exact safe.counted
  · rw [queuedBytes]
    exact safe.bounded
  · rw [sent]
    exact safe.final.mono extend.completions

theorem Flowing.extend (flowing : Flowing parse received b)
    (extend : Extends parse b later) (same : later.view = b.view)
    (requested : later.endRequested = b.endRequested)
    (pumping : later.pumping = b.pumping) : Flowing parse received later := by
  simp only [Bridge.view, Prod.mk.injEq] at same
  obtain ⟨context, sent, queue, queuedBytes⟩ := same
  refine ⟨?_, ?_, ?_, ?_⟩
  · obtain ⟨lost, owed, failed⟩ := flowing.owed
    refine ⟨lost, ?_, ?_⟩
    · rw [extend.inputs, context, queue]
      exact owed
    · rcases failed with nothing | ⟨code, settled⟩
      · exact .inl nothing
      · exact .inr ⟨code, awaited_of_extends extend pumping settled⟩
  · rw [requested, context]
    exact flowing.requested
  · rw [context, queue]
    exact flowing.genuine
  · rw [pumping, sent]
    exact flowing.unreported

theorem Held.extend (held : Held parse received b)
    (extend : Extends parse b later) (same : later.view = b.view)
    (requested : later.endRequested = b.endRequested)
    (pumping : later.pumping = b.pumping)
    (aborted : later.aborted = b.aborted) : Held parse received later :=
  ⟨held.safe.extend extend same, fun going =>
    (held.flowing (aborted.symm.trans going)).extend extend same requested
      pumping⟩

theorem Safe.held (safe : Safe parse received b) (aborted : b.aborted = true) :
    Held parse received b :=
  ⟨safe, fun going => by simp [aborted] at going⟩

/-! ## Aborts and failures -/

theorem abort_aborted (b : Bridge) : b.abort.aborted = true := by
  unfold Bridge.abort
  split
  · assumption
  · rfl

theorem Safe.abort (safe : Safe parse received b) :
    Safe parse received b.abort := by
  unfold Bridge.abort
  split
  · exact safe
  · apply safe.extend
    · apply Extends.apply (.api .abort)
      · intro s
        exact mute_abort.mono (fun _ mute => mute.1)
      · rfl
    · rfl

theorem Safe.fail (safe : Safe parse received b) (code : String) :
    Safe parse received (b.fail code) := by
  unfold Bridge.fail
  split
  · exact safe
  · exact safe.extend (.of_child rfl) rfl

theorem Safe.pumpFailed (safe : Safe parse received b) (code : String) :
    Safe parse received (b.pumpFailed code) :=
  (safe.fail code).abort.extend (.of_child rfl) rfl

theorem pumpFailed_aborted (b : Bridge) (code : String) :
    (b.pumpFailed code).aborted = true :=
  abort_aborted _

theorem Safe.conclude (safe : Safe parse received b) (throws : Bool) :
    Safe parse received (b.conclude throws) := by
  have aborted := safe.abort
  have cancelled : Safe parse received (if b.abort.graceful then b.abort
      else b.abort.callChild (.cancel throws)) := by
    split
    · exact aborted
    · apply aborted.extend
      · apply Extends.apply (.api (.cancel throws))
        · intro s
          exact (mute_cancel throws).mono (fun _ mute => mute.1)
        · rfl
      · rfl
  exact ⟨cancelled.ordered, cancelled.unsmuggled, cancelled.unforged, rfl,
    Nat.zero_le _, cancelled.final⟩

theorem conclude_aborted (b : Bridge) (throws : Bool) :
    (b.conclude throws).aborted = true := by
  unfold Bridge.conclude
  dsimp only
  split
  · exact abort_aborted b
  · exact abort_aborted b

/-! ## The pump -/

/-- A child whose completion is settled takes no more input. -/
theorem resting_of_completed {child : Child}
    (completed : completions (child.now parse).log ≠ []) :
    (child.now parse).mode = .stopping ∨ (child.now parse).mode = .closed := by
  have begun : Tracked parse [] [] [] child.first :=
    started_tracked child.started
  obtain ⟨done, tracked, vouched⟩ := begun.play child.events
  apply tracked.resting
  apply Or.inr
  change completions ((child.first.play parse child.events).log) ≠ []
    at completed
  rw [tracked.completed] at completed
  rw [tracked.doneSettled]
  cases done with
  | nil => exact (completed rfl).elim
  | cons first done => rfl

theorem log_of_some {child : Child} (started : b.child = some child) :
    b.log parse = (child.now parse).log := by
  unfold Bridge.log
  rw [started]

theorem log_of_call {child : Child} (call : ApiCall)
    (started : b.child = some child)
    (called : later.child = b.child.map (·.apply (.api call))) :
    later.log parse = ((child.now parse).call call).log := by
  rw [started] at called
  rw [log_of_some called, now_apply]
  rfl

theorem Final.unreported {sent : List Outgoing} {done : List (Option String)}
    (final : Final sent done) (unresolved : none ∉ done) :
    .completed ∉ sent := by
  obtain ⟨replies, rfl | ⟨rfl, resolved⟩⟩ := final
  · simp
  · exact (unresolved resolved).elim

theorem Flowing.settled (flowing : Flowing parse received b)
    (unfailed : ∀ code, b.awaited parse ≠ some (some code)) :
    clientInput b.context.explicit received =
      inputs (b.log parse) ++ b.queue.map Item.frame := by
  obtain ⟨lost, owed, nothing | ⟨code, failed⟩⟩ := flowing.owed
  · rw [owed, nothing, List.append_nil]
  · exact (unfailed code failed).elim

/-- The first item of the queue is taken: it is written, or its write is known
to have failed. -/
theorem Held.taken {item : Item} {queue : List Item}
    (held : Held parse received b) (going : b.aborted = false)
    (unfailed : ∀ code, b.awaited parse ≠ some (some code))
    (waiting : b.queue = item :: queue)
    (view : later.view = (b.shift item queue).view)
    (requested : later.endRequested = b.endRequested)
    (completed : completions (b.log parse) <+: completions (later.log parse))
    (written : inputs (later.log parse) = inputs (b.log parse) ++ [item.frame] ∨
      inputs (later.log parse) = inputs (b.log parse) ∧
        ∃ code, later.awaited parse = some (some code))
    (unreported : ∀ written, later.pumping = .ending written →
      (∀ code, written ≠ some (some code)) → .completed ∉ b.sent) :
    Held parse received later := by
  obtain ⟨context, sent, rest, bytes⟩ : later.context = b.context ∧
      later.sent = b.sent ∧ later.queue = queue ∧
      later.queuedBytes = b.queuedBytes - item.size := by
    simp only [Bridge.view, Prod.mk.injEq] at view
    exact view
  have flowing := held.flowing going
  have owed := flowing.settled unfailed
  rw [waiting, List.map_cons] at owed
  have counted := held.safe.counted
  rw [waiting, List.map_cons, List.sum_cons] at counted
  have bounded := held.safe.bounded
  refine ⟨⟨?_, ?_, ?_, ?_, ?_, ?_⟩, fun _ => ⟨?_, ?_, ?_, ?_⟩⟩
  · rw [context]
    rcases written with wrote | ⟨same, -⟩
    · refine ⟨queue.map Item.frame, ?_⟩
      rw [wrote, owed, List.append_assoc, List.singleton_append]
    · rw [same]
      exact held.safe.ordered
  · rw [context]
    intro explicit member
    rcases written with wrote | ⟨same, -⟩
    · rw [wrote] at member
      rcases List.mem_append.mp member with before | last
      · exact held.safe.unsmuggled explicit before
      · have own := flowing.genuine explicit item (by simp [waiting])
        exact own (List.mem_singleton.mp last).symm
    · rw [same] at member
      exact held.safe.unsmuggled explicit member
  · rw [context, sent]
    exact held.safe.unforged
  · rw [rest, bytes, counted]
    exact Nat.add_sub_cancel_left _ _
  · rw [bytes]
    omega
  · rw [sent]
    exact held.safe.final.mono completed
  · rw [context, rest]
    rcases written with wrote | ⟨same, failed⟩
    · refine ⟨[], ?_, .inl rfl⟩
      rw [wrote, owed, List.append_nil, List.append_assoc,
        List.singleton_append]
    · refine ⟨[item.frame], ?_, .inr failed⟩
      rw [same, owed, List.append_assoc, List.singleton_append]
  · rw [requested, context]
    exact flowing.requested
  · rw [context, rest]
    intro explicit other member
    apply flowing.genuine explicit other
    rw [waiting]
    exact List.mem_cons_of_mem item member
  · rw [sent]
    exact unreported

theorem Held.send {item : Item} {queue : List Item} {child : Child}
    {type : FrameType} {payload : List UInt8} (held : Held parse received b)
    (call : ApiCall) (going : b.aborted = false)
    (unfailed : ∀ code, b.awaited parse ≠ some (some code))
    (waiting : b.queue = item :: queue) (started : b.child = some child)
    (input : Effect.input? (.write type payload) = some item.frame)
    (outcome : ((child.now parse).call call).log =
        (child.now parse).log ++ [.write type payload] ∨
      ∃ code, ((child.now parse).call call).log =
        (child.now parse).log ++ [.sendSettled (some code)]) :
    Held parse received ((b.shift item queue).send parse call) := by
  have before : b.log parse = (child.now parse).log := log_of_some started
  have after : ((b.shift item queue).send parse call).log parse =
      ((child.now parse).call call).log := log_of_call call started rfl
  refine held.taken going unfailed waiting rfl rfl ?_ ?_ ?_
  · rw [after, before]
    unfold completions
    rcases outcome with wrote | ⟨code, refused⟩
    · rw [wrote, List.filterMap_append]
      exact List.prefix_append _ _
    · rw [refused, List.filterMap_append]
      exact List.prefix_append _ _
  · rcases outcome with wrote | ⟨code, refused⟩
    · apply Or.inl
      rw [after, before, wrote, inputs_append]
      unfold inputs
      rw [List.filterMap_cons_some input, List.filterMap_nil]
    · apply Or.inr
      rw [after, before, refused, inputs_append]
      refine ⟨List.append_nil _, code, ?_⟩
      change (settledSends _)[(settledSends (b.log parse)).length]? = _
      rw [after, before, refused]
      unfold settledSends
      rw [List.filterMap_append, List.getElem?_append_right (Nat.le_refl _),
        Nat.sub_self]
      rfl
  · intro written pumping
    cases pumping

theorem awaited_of_refused {code : String}
    (refused : b.pumping = .ending (some (some code))) :
    b.awaited parse = some (some code) := by
  unfold Bridge.awaited
  rw [refused]

theorem Held.sendEnd {item : Item} {queue : List Item} {child : Child}
    (held : Held parse received b) (going : b.aborted = false)
    (unfailed : ∀ code, b.awaited parse ≠ some (some code))
    (waiting : b.queue = item :: queue) (started : b.child = some child)
    (last : item.end = true) (throws : Bool) :
    Held parse received ((b.shift item queue).sendEnd parse throws) := by
  have before : b.log parse = (child.now parse).log := log_of_some started
  unfold Bridge.sendEnd
  split
  · next missing =>
      cases started.symm.trans missing
  · next other found =>
      cases started.symm.trans found
      have after : ((b.shift item queue).callChild (.end throws)).log parse =
          ((child.now parse).end throws).log :=
        log_of_call (.end throws) started rfl
      have ended := end_log (s := child.now parse) throws
      rw [← after] at ended
      refine held.taken going unfailed waiting rfl rfl ?_ ?_ ?_
      · change completions _ <+: completions (Bridge.log parse
          (Bridge.callChild _ (.end throws)))
        rw [ended, before]
        unfold completions
        split
        · exact List.prefix_rfl
        · split
          · rw [List.filterMap_append]
            exact List.prefix_append _ _
          · rw [List.filterMap_append]
            exact List.prefix_append _ _
      · by_cases running : (child.now parse).mode = .running
        · cases throws with
          | false =>
              apply Or.inl
              change inputs (Bridge.log parse
                (Bridge.callChild _ (.end false))) = _
              rw [ended, before, if_neg (not_not.mpr running),
                if_neg Bool.false_ne_true, inputs_append]
              unfold Item.frame
              rw [last]
              rfl
          | true =>
              apply Or.inr
              constructor
              · change inputs (Bridge.log parse
                  (Bridge.callChild _ (.end true))) = _
                rw [ended, before, if_neg (not_not.mpr running), if_pos rfl,
                  inputs_append]
                exact List.append_nil _
              · refine ⟨thrownCode, awaited_of_refused ?_⟩
                dsimp only
                rw [if_neg (not_not.mpr running), if_pos rfl]
        · apply Or.inr
          constructor
          · change inputs (Bridge.log parse
              (Bridge.callChild _ (.end throws))) = _
            rw [ended, before, if_pos running]
          · refine ⟨"session_not_writable", awaited_of_refused ?_⟩
            dsimp only
            rw [if_pos running]
      · intro written pumping unrefused
        have running : (child.now parse).mode = .running := by
          by_contra refused
          have outcome := Pump.ending.inj pumping
          rw [if_pos refused] at outcome
          exact unrefused _ outcome.symm
        apply held.safe.final.unreported
        rw [before]
        intro resolved
        have resting := resting_of_completed (List.ne_nil_of_mem resolved)
        rw [running] at resting
        rcases resting with stopping | closed
        · cases stopping
        · cases closed

/-- The pump moves on to an `await` of something else than `end`. -/
theorem Held.repumped (held : Held parse received b) (pump : Pump)
    (unfailed : ∀ code, b.awaited parse ≠ some (some code))
    (other : ∀ written, pump ≠ .ending written) :
    Held parse received { b with pumping := pump } := by
  refine ⟨held.safe.extend (.of_child rfl) rfl, fun going => ?_⟩
  have flowing := held.flowing going
  refine ⟨⟨[], ?_, .inl rfl⟩, flowing.requested, flowing.genuine, ?_⟩
  · rw [List.append_nil]
    exact flowing.settled unfailed
  · intro written pumping
    exact (other written pumping).elim

theorem Held.next {child : Child} (held : Held parse received b)
    (unfailed : ∀ code, b.awaited parse ≠ some (some code))
    (started : b.child = some child) (throws : Bool) :
    Held parse received (b.next parse throws) := by
  unfold Bridge.next
  split
  · exact held.repumped _ unfailed nofun
  · next unaborted =>
      have going : b.aborted = false := Bool.eq_false_iff.mpr unaborted
      split
      · exact held.repumped _ unfailed nofun
      · next item queue waiting =>
          dsimp only
          split
          · next last =>
              exact held.sendEnd going unfailed waiting started last throws
          · next more =>
              have more : item.end = false := Bool.eq_false_iff.mpr more
              split
              · next binary =>
                  have sent := sendBinary_log (s := child.now parse)
                    item.data throws
                  apply held.send (.sendBinary item.data throws) going
                    unfailed waiting started ?_ sent
                  unfold Item.frame Message.frame
                  rw [more, binary]
                  rfl
              · next textual =>
                  have textual : item.binary = false :=
                    Bool.eq_false_iff.mpr textual
                  split
                  · next code undecoded =>
                      have safe := held.safe
                      have counted := safe.counted
                      have bounded := safe.bounded
                      rw [waiting, List.map_cons, List.sum_cons] at counted
                      have popped : Safe parse received (b.shift item queue) := by
                        refine ⟨safe.ordered, safe.unsmuggled, safe.unforged,
                          ?_, ?_, safe.final⟩
                        · change b.queuedBytes - item.size = _
                          rw [counted]
                          exact Nat.add_sub_cancel_left _ _
                        · exact Nat.le_trans (Nat.sub_le _ _) bounded
                      exact (popped.pumpFailed code).held
                        (pumpFailed_aborted _ code)
                  · next text decoded =>
                      have bytes := toUTF8_of_decode decoded
                      have sent := writeFrame_log (s := child.now parse)
                        .TEXT text.toUTF8.toList throws
                      apply held.send (.sendText text throws) going
                        unfailed waiting started ?_ sent
                      unfold Item.frame Message.frame
                      rw [more, textual, bytes]
                      rfl

theorem Held.pump (held : Held parse received b) (throws : Bool) :
    Held parse received (b.pump parse throws) := by
  unfold Bridge.pump
  split
  · next child ready started idle going =>
      apply held.next ?_ started
      intro code
      unfold Bridge.awaited
      rw [idle]
      nofun
  · exact held

/-! ## Messages of the client -/

theorem Safe.receive (safe : Safe parse received b) (message : Message) :
    Safe parse (received ++ [message]) b :=
  ⟨safe.ordered.trans (clientInput_append message), safe.unsmuggled,
    safe.unforged, safe.counted, safe.bounded, safe.final⟩

/-- A message that is not refused joins the queue. -/
theorem Held.enqueue {message : Message} (held : Held parse received b)
    (unrequested : b.endRequested = false)
    (room : b.queuedBytes + message.data.length + 9 ≤ maxBacklog)
    (genuine : ¬(b.context.explicit = true ∧ ¬message.binary = true ∧
      message.data = completedBytes)) :
    Held parse (received ++ [message]) { b with
      endRequested := b.endRequested || message.isEnd b.context.explicit
      queuedBytes := b.queuedBytes + (message.data.length + 9)
      queue := b.queue ++ [⟨message, message.isEnd b.context.explicit⟩] } := by
  have safe := held.safe.receive message
  constructor
  · refine ⟨safe.ordered, safe.unsmuggled, safe.unforged, ?_, ?_, safe.final⟩
    · rw [List.map_append, List.sum_append, ← safe.counted]
      rfl
    · change b.queuedBytes + (message.data.length + 9) ≤ maxBacklog
      omega
  · intro going
    have flowing := held.flowing going
    have requested := flowing.requested
    have unended := requested.symm.trans unrequested
    refine ⟨?_, ?_, ?_, flowing.unreported⟩
    · obtain ⟨lost, owed, failed⟩ := flowing.owed
      refine ⟨lost, ?_, failed⟩
      rw [clientInput_of_open message unended, owed, List.map_append,
        List.append_assoc]
      rfl
    · rw [List.any_append, ← requested, List.any_cons, List.any_nil,
        Bool.or_false]
    · intro explicit item member
      rcases List.mem_append.mp member with before | last
      · exact flowing.genuine explicit item before
      · rw [List.mem_singleton.mp last]
        unfold Item.frame Message.frame completedFrame
        dsimp only
        split
        · simp
        · intro same
          obtain ⟨type, data⟩ := Frame.mk.inj same
          apply genuine
          refine ⟨explicit, ?_, data⟩
          intro binary
          rw [if_pos binary] at type
          cases type

theorem Held.onMessage (held : Held parse received b) (message : Message)
    (throws : Bool) :
    Held parse (received ++ [message]) (b.onMessage parse message throws) := by
  have safe := held.safe.receive message
  have aborted : Held parse (received ++ [message]) b.abort :=
    safe.abort.held (abort_aborted b)
  unfold Bridge.onMessage
  split
  · next already => exact safe.held already
  · split
    · exact aborted
    · next unrequested =>
        split
        · exact aborted
        · next fits =>
            split
            · exact aborted
            · next genuine =>
                have room := Nat.not_lt.mp (not_or.mp fits).2
                exact (held.enqueue (Bool.eq_false_iff.mpr unrequested) room
                  genuine).pump throws

/-! ## The awaits of the pump -/

theorem Final.replies {sent : List Outgoing} {done : List (Option String)}
    (final : Final sent done) (unreported : .completed ∉ sent) :
    ∃ replies : List Frame, sent = replies.map Outgoing.reply := by
  obtain ⟨replies, before | ⟨after, resolved⟩⟩ := final
  · exact ⟨replies, before⟩
  · exact (unreported (by simp [after])).elim

/-- The completion is sent for a child that has completed, and was not sent
before. -/
theorem Held.sendCompletionAck (held : Held parse received b)
    (awaited : b.awaited parse = some none)
    (resolved : none ∈ completions (b.log parse))
    (unreported : .completed ∉ b.sent) (throws : Bool) :
    Held parse received (b.sendCompletionAck throws) := by
  have unfailed : ∀ code, b.awaited parse ≠ some (some code) := by
    rw [awaited]
    simp
  unfold Bridge.sendCompletionAck
  split
  · exact (held.safe.pumpFailed _).held (pumpFailed_aborted _ _)
  · split
    · exact held.repumped _ unfailed nofun
    · obtain ⟨replies, sent⟩ := held.safe.final.replies unreported
      have acking := held.repumped (.acking none) unfailed nofun
      have safe := acking.safe
      constructor
      · refine ⟨safe.ordered, safe.unsmuggled, ?_, safe.counted, safe.bounded,
          ⟨replies, .inr ⟨by rw [sent], resolved⟩⟩⟩
        intro explicit member
        rcases List.mem_append.mp member with before | last
        · exact safe.unforged explicit before
        · cases List.mem_singleton.mp last
      · intro going
        have flowing := acking.flowing going
        refine ⟨flowing.owed, flowing.requested, flowing.genuine, ?_⟩
        intro written pumping
        cases pumping

theorem Held.resumed (held : Held parse received b) (throws : Bool) :
    Held parse received (b.resumed parse throws) := by
  unfold Bridge.resumed
  split
  · exact held
  · exact (held.safe.pumpFailed _).held (pumpFailed_aborted _ _)
  · next awaited =>
      have unfailed : ∀ code, b.awaited parse ≠ some (some code) := by
        rw [awaited]
        simp
      split
      · exact held
      · next call pumping =>
          cases started : b.child with
          | some child => exact held.next unfailed started throws
          | none =>
              unfold Bridge.awaited Bridge.log at awaited
              rw [pumping, started] at awaited
              cases awaited
      · next written pumping =>
          split
          · exact held.repumped _ unfailed nofun
          · next unaborted =>
              have flowing := held.flowing (Bool.eq_false_iff.mpr unaborted)
              have ended := awaited
              unfold Bridge.awaited at ended
              rw [pumping] at ended
              have flushed : written = some none := by
                split at ended
                · next idle => cases idle
                · next sending => cases sending
                · next same => exact Pump.ending.inj same
                · next other same => exact Pump.ending.inj same ▸ ended
                · next acking => cases acking
              subst flushed
              have resolved : none ∈ completions (b.log parse) :=
                List.mem_of_head? ended
              have unreported := flowing.unreported _ pumping (by simp)
              exact held.sendCompletionAck awaited resolved unreported throws
      · split
        · exact held.repumped _ unfailed nofun
        · exact (held.repumped .idle unfailed nofun).extend
            (.of_child rfl) rfl rfl rfl rfl

theorem Held.ackSettled (held : Held parse received b)
    (outcome : Option String) :
    Held parse received (b.ackSettled outcome) := by
  unfold Bridge.ackSettled
  split
  · next pumping =>
      have waiting : b.awaited parse = none := by
        unfold Bridge.awaited
        rw [pumping]
      refine held.repumped _ ?_ nofun
      rw [waiting]
      simp
  · exact held

/-! ## Callbacks and output of the child -/

theorem Held.childEvent (held : Held parse received b)
    (event : AdapterSupervisor.Event) :
    Held parse received (b.childEvent event) := by
  unfold Bridge.childEvent
  split
  · next runtime =>
      have moved : Held parse received
          { b with child := b.child.map (·.apply event) } := by
        apply held.extend
        · apply Extends.apply event
          · intro s
            exact (mute_runtime runtime).mono (fun _ mute => mute.1)
          · rfl
        · rfl
        · rfl
        · rfl
        · rfl
      split
      · next failed pumping =>
          refine ⟨moved.safe.extend (.of_child rfl) rfl, fun going => ?_⟩
          have flowing := moved.flowing going
          refine ⟨⟨[], ?_, .inl rfl⟩, flowing.requested, flowing.genuine, ?_⟩
          · rw [List.append_nil]
            apply flowing.settled
            intro code
            unfold Bridge.awaited
            rw [show Bridge.pumping _ = _ from pumping]
            nofun
          · intro written _ _
            exact flowing.unreported none pumping nofun
      · exact moved
  · exact held

theorem deliveries_of_mute {added : List Effect}
    (mute : ∀ effect ∈ added, Effect.Mute effect) (seen : Nat) :
    deliveries seen added = [] := by
  induction added generalizing seen with
  | nil => rfl
  | cons effect added induction =>
      have rest := induction (fun other member =>
        mute other (List.mem_cons_of_mem effect member))
      have first := (mute effect List.mem_cons_self).2
      unfold deliveries
      split
      · rfl
      · next same =>
          cases same
          exact rest _
      · next same =>
          cases same
          cases first
      · next same =>
          cases same
          exact rest _

theorem Held.onFrame (held : Held parse received b)
    (unreported : .completed ∉ b.sent) (answers : Nat → Answer)
    (delivery : Nat × Frame) :
    Held parse received (b.onFrame answers delivery) ∧
      .completed ∉ (b.onFrame answers delivery).sent := by
  unfold Bridge.onFrame
  split
  · next forwarded =>
      obtain ⟨replies, sent⟩ := held.safe.final.replies unreported
      have safe := held.safe
      refine ⟨⟨⟨safe.ordered, safe.unsmuggled, ?_, safe.counted, safe.bounded,
        ⟨replies ++ [delivery.2], .inl ?_⟩⟩, ?_⟩, ?_⟩
      · intro explicit member
        rcases List.mem_append.mp member with before | last
        · exact safe.unforged explicit before
        · have forged : delivery.2 = completedFrame :=
            (Outgoing.reply.inj (List.mem_singleton.mp last)).symm
          have explicit : b.context.explicit = true := explicit
          unfold Bridge.forwards at forwarded
          simp [forged, explicit] at forwarded
      · rw [List.map_append, sent]
        rfl
      · intro going
        have flowing := held.flowing going
        refine ⟨flowing.owed, flowing.requested, flowing.genuine, ?_⟩
        intro written pumping unfailed member
        rcases List.mem_append.mp member with before | last
        · exact unreported before
        · cases List.mem_singleton.mp last
      · intro member
        rcases List.mem_append.mp member with before | last
        · exact unreported before
        · cases List.mem_singleton.mp last
  · have safe : Safe parse received b.controlAbort :=
      held.safe.extend (.of_child rfl) rfl
    exact ⟨safe.held rfl, unreported⟩

theorem Held.onFrames (held : Held parse received b)
    (unreported : .completed ∉ b.sent) (answers : Nat → Answer)
    (delivered : List (Nat × Frame)) :
    Held parse received (delivered.foldl (Bridge.onFrame answers) b) := by
  induction delivered generalizing b with
  | nil => exact held
  | cons delivery delivered induction =>
      have first := held.onFrame unreported answers delivery
      exact induction first.1 first.2

theorem aborting_reaction (b : Bridge) (answers : Nat → Answer)
    (frames : List Frame) (before : Nat) :
    Aborting (b.reaction answers frames before) := by
  intro seen call member
  unfold Bridge.reaction at member
  dsimp only at member
  split at member
  · split at member
    · cases member
    · exact List.mem_singleton.mp member
  · cases member

theorem Held.childOutput (held : Held parse received b) (chunk : List UInt8)
    (answers : Nat → Answer) :
    Held parse received (b.childOutput parse chunk answers) := by
  unfold Bridge.childOutput
  split
  · exact held
  · next child started =>
      dsimp only
      generalize reacts : b.reaction answers _ _ = react
      have aborting : Aborting react :=
        reacts ▸ aborting_reaction b answers _ _
      have read : Held parse received { b with
          child := some (child.apply (.stdoutData chunk react)) } := by
        apply held.extend
        · apply Extends.apply (.stdoutData chunk react)
          · intro s
            exact silent_stdoutData aborting chunk
          · rw [started]
            rfl
        · rfl
        · rfl
        · rfl
        · rfl
      rw [now_apply]
      by_cases resolved : none ∈ completions (child.now parse).log
      · obtain ⟨added, log, mute⟩ := mute_stdoutData parse
          (resting_of_completed (List.ne_nil_of_mem resolved)) chunk react
        change ((child.now parse).apply parse (.stdoutData chunk react)).log =
          _ at log
        rw [log, List.drop_left, deliveries_of_mute mute]
        exact read
      · apply read.onFrames
        apply held.safe.final.unreported
        rw [log_of_some started]
        exact resolved

theorem Safe.observed (safe : Safe parse received b) :
    Safe parse received { b with observed := true } :=
  safe.extend (.of_child rfl) rfl

theorem Held.childSettled (held : Held parse received b) :
    Held parse received (b.childSettled parse) := by
  have aborted : Held parse received { b.abort with observed := true } :=
    held.safe.abort.observed.held (abort_aborted b)
  unfold Bridge.childSettled
  split
  · exact held
  · split
    · exact held
    · split
      · exact held.extend (.of_child rfl) rfl rfl rfl rfl
      · exact aborted
    · exact (held.safe.fail _).abort.observed.held (abort_aborted _)

/-! ## The session -/

theorem silent_start {options : Options} {throws : Bool} {first : Supervisor}
    (started : startAdapterSubprocess options throws = .ok first) :
    ∀ effect ∈ first.log, Effect.Silent effect := by
  unfold startAdapterSubprocess at started
  split at started
  · cases started
  · next config valid =>
      dsimp only at started
      split at started
      · cases started
        obtain ⟨added, log, mute⟩ :=
          mute_terminate (s := Supervisor.spawned config) "stdin_failed"
        intro effect member
        rw [log] at member
        exact (mute effect member).1
      · cases started
        intro effect member
        rw [List.mem_singleton.mp member]
        rfl

theorem Held.begin (held : Held parse received b) (childless : b.child = none)
    (failure : Option String) (throws : Bool) :
    Held parse received (b.begin failure throws) := by
  unfold Bridge.begin
  split
  · exact ((held.safe.fail _).conclude throws).held (conclude_aborted _ _)
  · split
    · exact (held.safe.conclude throws).held (conclude_aborted _ _)
    · split
      · exact ((held.safe.fail _).conclude throws).held (conclude_aborted _ _)
      · next first started =>
          apply held.extend
          · refine ⟨first.log, ?_, silent_start started⟩
            unfold Bridge.log
            rw [childless]
            rfl
          · rfl
          · rfl
          · rfl
          · rfl

theorem Held.childReady (held : Held parse received b) (throws : Bool) :
    Held parse received (b.childReady parse throws) := by
  unfold Bridge.childReady
  split
  · exact held
  · apply Held.pump
    exact held.extend (.of_child rfl) rfl rfl rfl rfl
  · exact ((held.safe.fail _).conclude throws).held (conclude_aborted _ _)

/-- Before the files are verified there is no child, and the listeners are
removed after an abort only. -/
structure Placed (context : Context) (b : Bridge) : Prop where
  context : b.context = context
  childless : b.stage = .verifying → b.child = none
  deaf : b.listening = false → b.aborted = true

/-- What the parts of a step leave alone. -/
structure Keeps (b later : Bridge) : Prop where
  context : later.context = b.context
  stage : later.stage = b.stage
  listening : later.listening = b.listening
  child : b.child = none → later.child = none
  aborted : b.aborted = true → later.aborted = true

theorem Keeps.refl (b : Bridge) : Keeps b b :=
  ⟨rfl, rfl, rfl, id, id⟩

theorem Keeps.trans (first : Keeps b later) (second : Keeps later last) :
    Keeps b last :=
  ⟨second.context.trans first.context, second.stage.trans first.stage, second.listening.trans first.listening,
    fun childless => second.child (first.child childless),
    fun aborted => second.aborted (first.aborted aborted)⟩

theorem Placed.keeps (placed : Placed context b) (keeps : Keeps b later) :
    Placed context later := by
  refine ⟨keeps.context.trans placed.context, ?_, ?_⟩
  · intro verifying
    exact keeps.child (placed.childless (keeps.stage.symm.trans verifying))
  · intro deaf
    exact keeps.aborted (placed.deaf (keeps.listening.symm.trans deaf))

theorem map_apply_none {event : AdapterSupervisor.Event}
    (childless : b.child = none) :
    b.child.map (·.apply event) = none := by
  rw [childless]
  rfl

theorem keeps_abort (b : Bridge) : Keeps b b.abort := by
  unfold Bridge.abort
  split
  · exact .refl b
  · exact ⟨rfl, rfl, rfl, map_apply_none, fun _ => rfl⟩

theorem keeps_fail (b : Bridge) (code : String) : Keeps b (b.fail code) := by
  unfold Bridge.fail
  split
  · exact .refl b
  · exact ⟨rfl, rfl, rfl, id, id⟩

theorem keeps_pumpFailed (b : Bridge) (code : String) :
    Keeps b (b.pumpFailed code) := by
  have aborted := (keeps_fail b code).trans (keeps_abort _)
  exact aborted.trans ⟨rfl, rfl, rfl, id, id⟩

theorem keeps_next (b : Bridge) (throws : Bool) :
    Keeps b (b.next parse throws) := by
  unfold Bridge.next
  split
  · exact ⟨rfl, rfl, rfl, id, id⟩
  · split
    · exact ⟨rfl, rfl, rfl, id, id⟩
    · next item queue waiting =>
        have shifted : Keeps b (b.shift item queue) := ⟨rfl, rfl, rfl, id, id⟩
        dsimp only
        split
        · unfold Bridge.sendEnd
          split
          · exact shifted
          · exact ⟨rfl, rfl, rfl, map_apply_none, id⟩
        · split
          · exact ⟨rfl, rfl, rfl, map_apply_none, id⟩
          · split
            · exact shifted.trans (keeps_pumpFailed _ _)
            · exact ⟨rfl, rfl, rfl, map_apply_none, id⟩

theorem keeps_pump (b : Bridge) (throws : Bool) :
    Keeps b (b.pump parse throws) := by
  unfold Bridge.pump
  split
  · exact keeps_next b throws
  · exact .refl b

theorem keeps_resumed (b : Bridge) (throws : Bool) :
    Keeps b (b.resumed parse throws) := by
  unfold Bridge.resumed
  split
  · exact .refl b
  · exact keeps_pumpFailed b _
  · split
    · exact .refl b
    · exact keeps_next b throws
    · split
      · exact ⟨rfl, rfl, rfl, id, id⟩
      · unfold Bridge.sendCompletionAck
        split
        · exact keeps_pumpFailed b _
        · split
          · exact ⟨rfl, rfl, rfl, id, id⟩
          · exact ⟨rfl, rfl, rfl, id, id⟩
    · split
      · exact ⟨rfl, rfl, rfl, id, id⟩
      · exact ⟨rfl, rfl, rfl, id, id⟩

theorem keeps_ackSettled (b : Bridge) (outcome : Option String) :
    Keeps b (b.ackSettled outcome) := by
  unfold Bridge.ackSettled
  split
  · exact ⟨rfl, rfl, rfl, id, id⟩
  · exact .refl b

theorem keeps_onMessage (b : Bridge) (message : Message) (throws : Bool) :
    Keeps b (b.onMessage parse message throws) := by
  unfold Bridge.onMessage
  split
  · exact .refl b
  · split
    · exact keeps_abort b
    · split
      · exact keeps_abort b
      · split
        · exact keeps_abort b
        · have queued : Keeps b { b with
              endRequested :=
                b.endRequested || message.isEnd b.context.explicit
              queuedBytes := b.queuedBytes + (message.data.length + 9)
              queue := b.queue ++
                [⟨message, message.isEnd b.context.explicit⟩] } :=
            ⟨rfl, rfl, rfl, id, id⟩
          exact queued.trans (keeps_pump _ throws)

theorem keeps_childEvent (b : Bridge) (event : AdapterSupervisor.Event) :
    Keeps b (b.childEvent event) := by
  unfold Bridge.childEvent
  split
  · exact ⟨rfl, rfl, rfl, map_apply_none, id⟩
  · exact .refl b

theorem keeps_onFrames (b : Bridge) (answers : Nat → Answer)
    (delivered : List (Nat × Frame)) :
    Keeps b (delivered.foldl (Bridge.onFrame answers) b) := by
  induction delivered generalizing b with
  | nil => exact .refl b
  | cons delivery delivered induction =>
      have first : Keeps b (b.onFrame answers delivery) := by
        unfold Bridge.onFrame
        split
        · exact ⟨rfl, rfl, rfl, id, id⟩
        · exact ⟨rfl, rfl, rfl, id, fun _ => rfl⟩
      exact first.trans (induction _)

theorem keeps_childOutput (b : Bridge) (chunk : List UInt8)
    (answers : Nat → Answer) :
    Keeps b (b.childOutput parse chunk answers) := by
  unfold Bridge.childOutput
  split
  · exact .refl b
  · next child started =>
      dsimp only
      generalize b.reaction answers _ _ = react
      have read : Keeps b { b with
          child := some (child.apply (.stdoutData chunk react)) } :=
        ⟨rfl, rfl, rfl, (fun childless => nomatch started.symm.trans childless), id⟩
      exact read.trans (keeps_onFrames _ answers _)

theorem keeps_childSettled (b : Bridge) :
    Keeps b (b.childSettled parse) := by
  have observed : ∀ later : Bridge,
      Keeps later { later with observed := true } :=
    fun later => ⟨rfl, rfl, rfl, id, id⟩
  unfold Bridge.childSettled
  split
  · exact .refl b
  · split
    · exact .refl b
    · split
      · exact observed b
      · exact (keeps_abort b).trans (observed _)
    · exact ((keeps_fail b _).trans (keeps_abort _)).trans (observed _)

theorem placed_conclude (same : b.context = context) (throws : Bool) :
    Placed context (b.conclude throws) := by
  refine ⟨?_, nofun, fun _ => conclude_aborted b throws⟩
  have aborted := (keeps_abort b).context.trans same
  unfold Bridge.conclude
  dsimp only
  split
  · exact aborted
  · exact aborted

theorem Placed.begin (placed : Placed context b) (failure : Option String)
    (throws : Bool) : Placed context (b.begin failure throws) := by
  have failed : ∀ code, (b.fail code).context = context :=
    fun code => (keeps_fail b code).context.trans placed.context
  unfold Bridge.begin
  split
  · exact placed_conclude (failed _) throws
  · split
    · exact placed_conclude placed.context throws
    · split
      · exact placed_conclude (failed _) throws
      · exact ⟨placed.context, nofun, placed.deaf⟩

theorem Placed.childReady (placed : Placed context b) (throws : Bool) :
    Placed context (b.childReady parse throws) := by
  unfold Bridge.childReady
  split
  · exact placed
  · have serving : Placed context { b with
        ready := true
        stage := .serving } := ⟨placed.context, nofun, placed.deaf⟩
    exact serving.keeps (keeps_pump _ throws)
  · exact placed_conclude ((keeps_fail b _).context.trans placed.context)
      throws

/-! ## Whole sessions -/

/-- The messages that an event brings. -/
def Event.messages : Event → List Message
  | .message received _ => [received]
  | _ => []

/-- What the client has sent. -/
def messagesOf (events : List Event) : List Message :=
  events.flatMap Event.messages

theorem Placed.step (placed : Placed context b) (event : Event) :
    Placed context (b.step parse event) := by
  have closed : Keeps b { b with socketOpen := false } :=
    ⟨rfl, rfl, rfl, id, id⟩
  have signalled : Keeps b { b with parentAborted := true } :=
    ⟨rfl, rfl, rfl, id, id⟩
  unfold Bridge.step
  cases event with
  | verified failure throws =>
      dsimp only
      split
      · exact placed.begin failure throws
      · exact placed
  | message message throws =>
      dsimp only
      split
      · exact placed.keeps (keeps_onMessage b message throws)
      · exact placed
  | socketClosing => exact placed.keeps closed
  | socketClosed =>
      dsimp only
      split
      · exact placed.keeps (closed.trans (keeps_abort _))
      · exact placed.keeps closed
  | socketFailed =>
      dsimp only
      split
      · exact placed.keeps (keeps_abort b)
      · exact placed
  | parentAborted =>
      dsimp only
      split
      · exact placed.keeps (signalled.trans (keeps_abort _))
      · exact placed.keeps signalled
  | replyFailed => exact placed.keeps (keeps_abort b)
  | child event => exact placed.keeps (keeps_childEvent b event)
  | childOutput chunk answers =>
      exact placed.keeps (keeps_childOutput b chunk answers)
  | childReady throws =>
      dsimp only
      split
      · exact placed.childReady throws
      · exact placed
  | childSettled => exact placed.keeps (keeps_childSettled b)
  | resumed throws => exact placed.keeps (keeps_resumed b throws)
  | ackFlushed failed => exact placed.keeps (keeps_ackSettled b _)
  | ackTimeout => exact placed.keeps (keeps_ackSettled b _)
  | raced throws =>
      dsimp only
      split
      · exact placed_conclude placed.context throws
      · exact placed
  | finished =>
      dsimp only
      split
      · exact ⟨placed.context, nofun, placed.deaf⟩
      · exact placed

theorem Held.step (held : Held parse received b) (placed : Placed context b)
    (event : Event) :
    Held parse (received ++ event.messages) (b.step parse event) := by
  have aborted : ∀ later : Bridge, Safe parse received later →
      Held parse (received ++ []) later.abort := by
    intro later safe
    rw [List.append_nil]
    exact safe.abort.held (abort_aborted later)
  have unchanged : Held parse (received ++ []) b := by
    rw [List.append_nil]
    exact held
  have closed : Held parse (received ++ []) { b with socketOpen := false } :=
    unchanged.extend (.of_child rfl) rfl rfl rfl rfl
  have signalled : Held parse (received ++ []) { b with
      parentAborted := true } :=
    unchanged.extend (.of_child rfl) rfl rfl rfl rfl
  unfold Bridge.step
  cases event with
  | verified failure throws =>
      dsimp only
      split
      · next verifying =>
          exact unchanged.begin (placed.childless verifying) failure throws
      · exact unchanged
  | message message throws =>
      dsimp only
      split
      · exact held.onMessage message throws
      · next deaf =>
          exact (held.safe.receive message).held
            (placed.deaf (Bool.eq_false_iff.mpr deaf))
  | socketClosing => exact closed
  | socketClosed =>
      dsimp only
      split
      · exact closed.safe.abort.held (abort_aborted _)
      · exact closed
  | socketFailed =>
      dsimp only
      split
      · exact aborted b held.safe
      · exact unchanged
  | parentAborted =>
      dsimp only
      split
      · exact signalled.safe.abort.held (abort_aborted _)
      · exact signalled
  | replyFailed => exact aborted b held.safe
  | child event => exact unchanged.childEvent event
  | childOutput chunk answers => exact unchanged.childOutput chunk answers
  | childReady throws =>
      dsimp only
      split
      · exact unchanged.childReady throws
      · exact unchanged
  | childSettled => exact unchanged.childSettled
  | resumed throws => exact unchanged.resumed throws
  | ackFlushed failed => exact unchanged.ackSettled _
  | ackTimeout => exact unchanged.ackSettled _
  | raced throws =>
      dsimp only
      split
      · exact (unchanged.safe.conclude throws).held (conclude_aborted b throws)
      · exact unchanged
  | finished =>
      dsimp only
      split
      · exact unchanged.extend (.of_child rfl) rfl rfl rfl rfl
      · exact unchanged

theorem Held.run (held : Held parse received b) (placed : Placed context b)
    (events : List Event) :
    Held parse (received ++ messagesOf events) (b.run parse events) ∧
      Placed context (b.run parse events) := by
  induction events generalizing received b with
  | nil =>
      rw [messagesOf, List.flatMap_nil, List.append_nil]
      exact ⟨held, placed⟩
  | cons event events induction =>
      have rest := induction (held.step placed event) (placed.step event)
      rw [messagesOf, List.flatMap_cons, ← List.append_assoc]
      exact rest

end

/-- What is promised of a session; `client` are the messages of the client. -/
structure Orderly (parse : String → Option Json) (explicit : Bool)
    (client : List Message) (b : Bridge) : Prop where
  /-- The child is written the messages before END, in order. -/
  ordered : (inputs (b.log parse)).filter (·.type ≠ .END) <+:
    (beforeEnd explicit client).map Message.frame
  /-- END is written after all of them, and after the client's END text. -/
  ended : ∀ before after payload,
    inputs (b.log parse) = before ++ ⟨.END, payload⟩ :: after →
      payload = [] ∧ after = [] ∧
        before = (beforeEnd explicit client).map Message.frame ∧
        ∃ message ∈ client, message.isEnd explicit
  /-- A completion is sent once and last, for a child that has answered END
  and has exited with 0. -/
  completed : ∀ before after, b.sent = before ++ .completed :: after →
    after = [] ∧ .completed ∉ before ∧
      ∃ child earlier later, b.child = some child ∧
        child.events = earlier ++ .close (some 0) :: later ∧
        Succeeded parse (stdoutOf earlier) (some 0)
          (child.first.play parse earlier).log
  /-- The reserved text passes in neither direction. -/
  unforged : explicit = true → completedFrame ∉ inputs (b.log parse) ∧
    ∀ frame, .reply frame ∈ b.sent → frame ≠ completedFrame
  bounded : (b.queue.map Item.size).sum ≤ maxBacklog

section

variable {parse : String → Option Json} {received : List Message}
variable {b : Bridge}

theorem frame_type (message : Message) : message.frame.type ≠ .END := by
  unfold Message.frame
  dsimp only
  split <;> simp

theorem filter_clientInput (explicit : Bool) (messages : List Message) :
    (clientInput explicit messages).filter (·.type ≠ .END) =
      (beforeEnd explicit messages).map Message.frame := by
  have kept : ((beforeEnd explicit messages).map Message.frame).filter
      (·.type ≠ .END) = (beforeEnd explicit messages).map Message.frame := by
    apply List.filter_eq_self.mpr
    intro frame member
    obtain ⟨message, -, rfl⟩ := List.mem_map.mp member
    exact decide_eq_true (frame_type message)
  unfold clientInput
  rw [List.filter_append, kept]
  split <;> simp

/-- END stands at the end of what the client asks for, and nowhere else. -/
theorem end_of_clientInput {explicit : Bool} {messages : List Message}
    {before after : List Frame} {payload : List UInt8}
    (whole : clientInput explicit messages =
      before ++ ⟨.END, payload⟩ :: after) :
    payload = [] ∧ after = [] ∧
      before = (beforeEnd explicit messages).map Message.frame ∧
      ∃ message ∈ messages, message.isEnd explicit := by
  have none_before : ∀ payload : List UInt8, ⟨.END, payload⟩ ∉
      (beforeEnd explicit messages).map Message.frame := by
    intro payload member
    obtain ⟨message, -, same⟩ := List.mem_map.mp member
    exact frame_type message (congrArg Frame.type same)
  unfold clientInput at whole
  split at whole
  · next ended =>
      rcases List.eq_nil_or_concat after with rfl | ⟨front, last, rfl⟩
      · obtain ⟨first, marker⟩ := List.append_inj' whole rfl
        have empty := (Frame.mk.inj (List.cons.inj marker).1).2
        exact ⟨empty.symm, rfl, first.symm, List.any_eq_true.mp ended⟩
      · rw [List.concat_eq_append, ← List.cons_append, ← List.append_assoc]
          at whole
        have first := List.append_inj_left' whole rfl
        exact (none_before payload (first ▸ by simp)).elim
  · rw [List.append_nil] at whole
    exact (none_before payload (whole ▸ by simp)).elim

theorem Safe.completed_of_sent (safe : Safe parse received b)
    {before after : List Outgoing}
    (sent : b.sent = before ++ .completed :: after) :
    after = [] ∧ .completed ∉ before ∧ none ∈ completions (b.log parse) := by
  obtain ⟨replies, only | ⟨last, resolved⟩⟩ := safe.final
  · rw [only] at sent
    have member : Outgoing.completed ∈ replies.map Outgoing.reply := by
      rw [sent]
      simp
    simp at member
  · rw [last] at sent
    have absent : Outgoing.completed ∉ replies.map Outgoing.reply := by simp
    rcases List.eq_nil_or_concat after with rfl | ⟨front, other, rfl⟩
    · have first := List.append_inj_left' sent rfl
      exact ⟨rfl, first ▸ absent, resolved⟩
    · rw [List.concat_eq_append, ← List.cons_append, ← List.append_assoc]
        at sent
      have first := List.append_inj_left' sent rfl
      exact (absent (first ▸ by simp)).elim

/-- A resolved completion is that of a child which has succeeded. -/
theorem succeeded_of_completed
    (resolved : none ∈ completions (b.log parse)) :
    ∃ child earlier later, b.child = some child ∧
      child.events = earlier ++ .close (some 0) :: later ∧
      Succeeded parse (stdoutOf earlier) (some 0)
        (child.first.play parse earlier).log := by
  cases started : b.child with
  | none =>
      unfold Bridge.log at resolved
      rw [started] at resolved
      cases resolved
  | some child =>
      rw [log_of_some started] at resolved
      have begun : Tracked parse [] [] [] child.first :=
        started_tracked child.started
      obtain ⟨done, tracked, vouched⟩ := begun.play child.events
      change none ∈ completions (child.first.play parse child.events).log
        at resolved
      rw [tracked.completed] at resolved
      obtain ⟨earlier, code, later, split, succeeded⟩ := vouched.2 resolved
      have exited := succeeded.exited
      subst exited
      exact ⟨child, earlier, later, rfl, split, succeeded⟩

theorem Safe.orderly (safe : Safe parse received b) :
    Orderly parse b.context.explicit received b := by
  refine ⟨?_, ?_, ?_, ?_, ?_⟩
  · have filtered := safe.ordered.filter (·.type ≠ .END)
    rw [filter_clientInput] at filtered
    exact filtered
  · intro before after payload written
    obtain ⟨rest, whole⟩ := safe.ordered
    rw [written, List.append_assoc, List.cons_append] at whole
    obtain ⟨empty, nothing, first, asked⟩ := end_of_clientInput whole.symm
    exact ⟨empty, (List.append_eq_nil_iff.mp nothing).1, first, asked⟩
  · intro before after sent
    obtain ⟨last, once, resolved⟩ := safe.completed_of_sent sent
    exact ⟨last, once, succeeded_of_completed resolved⟩
  · intro explicit
    refine ⟨safe.unsmuggled explicit, ?_⟩
    intro frame member same
    exact safe.unforged explicit (same ▸ member)
  · rw [← safe.counted]
    exact safe.bounded

end

theorem opened_held (parse : String → Option Json) {context : Context}
    {signalAborted socketOpen : Bool} {b : Bridge}
    (opened : bridgeSubprocessSession context signalAborted socketOpen =
      .ok b) : Held parse [] b ∧ Placed context b := by
  unfold bridgeSubprocessSession at opened
  split at opened
  · cases opened
  · split at opened
    · cases opened
    · cases opened
      have nothing : clientInput context.explicit [] = [] := rfl
      refine ⟨⟨⟨?_, ?_, ?_, rfl, Nat.zero_le _, ⟨[], .inl rfl⟩⟩, fun _ =>
        ⟨⟨[], nothing, .inl rfl⟩, rfl, ?_, ?_⟩⟩, ⟨rfl, fun _ => rfl, nofun⟩⟩
      · exact List.nil_prefix
      · intro _ member
        cases member
      · intro _ member
        cases member
      · intro _ item member
        cases member
      · intro written pumping
        cases pumping

/-- For every order of messages, continuations, callbacks and aborts, and
whatever the child writes. -/
theorem bridge_orderly (parse : String → Option Json) {context : Context}
    {signalAborted socketOpen : Bool} {b : Bridge}
    (opened : bridgeSubprocessSession context signalAborted socketOpen = .ok b)
    (events : List Event) :
    Orderly parse context.explicit (messagesOf events)
      (b.run parse events) := by
  obtain ⟨held, placed⟩ := opened_held parse opened
  obtain ⟨later, same⟩ := held.run placed events
  have orderly := later.safe.orderly
  rw [same.context, List.nil_append] at orderly
  exact orderly

/-! ## An echo -/

def sampleContext : Context where
  sessionId := "session_1"
  executable := "/usr/bin/python3"
  explicit := true

def sampleBridge : Bridge where
  context := sampleContext
  socketOpen := true
  listening := true
  parentAborted := false
  aborted := false
  ready := false
  queue := []
  queuedBytes := 0
  pumping := .idle
  child := none
  observed := false
  endRequested := false
  graceful := false
  failure := none
  stage := .verifying
  sent := []

/-- The client sends a frame and END before the first write is flushed; the
child echoes the frame, answers END and exits. -/
def sampleEvents : List Event :=
  let answers : Nat → Answer := fun _ => ⟨0, false⟩
  let echo := Frame.wire ⟨.BINARY, [0, 255]⟩ ++ Frame.wire ⟨.END, []⟩
  [.verified none false,
    .childOutput (Frame.wire ⟨.READY, readyText.toUTF8.toList⟩) answers,
    .childReady false, .message ⟨[0, 255], true⟩ false,
    .message ⟨endBytes, false⟩ false, .child (.written 11 false),
    .resumed false, .child (.endWritten false), .childOutput echo answers,
    .child (.close (some 0)), .resumed false, .ackFlushed false,
    .resumed false, .raced false, .finished]

theorem bridge_orderly_sample :
    (sampleBridge.run parseReady sampleEvents).sent =
        [.reply ⟨.BINARY, [0, 255]⟩, .completed] ∧
      Orderly parseReady true (messagesOf sampleEvents)
        (sampleBridge.run parseReady sampleEvents) := by
  have opened : bridgeSubprocessSession sampleContext false true =
      .ok sampleBridge := rfl
  have sent : (sampleBridge.run parseReady sampleEvents).sent =
      [.reply ⟨.BINARY, [0, 255]⟩, .completed] := by decide +kernel
  exact ⟨sent, bridge_orderly parseReady opened sampleEvents⟩

end SubprocessBridge

end GpuLink
