import GpuLink.Asr.Session
import GpuLink.Worker.SyntheticCredits

/-!
# The synthetic speech session

`launchSyntheticAsrSession` joins the runtime to the coordinator of a session.
Callbacks of promises run some time after the promises are settled, in any
order; `end` reports what the coordinator says after the child has exited.
-/

namespace GpuLink

namespace SyntheticAsr

open Asr

/-- The text of a control message; `none` is an undefined property. -/
def control (type : String) (details : List (String × Option Json)) :
    Option String :=
  let fields := details.filterMap fun (name, value) =>
    value.map fun value => (name, value)
  some (String.ofList (JsonText.print
    (.object (("type", .string type) :: fields))))

/-- `START` -/
def startControl : Option String :=
  control "asr.start.v1" [("audio", some (.object
    [("encoding", .string "pcm_s16le"), ("sampleRateHz", .number 16000),
      ("channels", .number 1)]))]

/-- How far the reactions to a promise of the runtime's `sendAudio` have come:
`then`, `catch`, `finally`. -/
inductive ChainPhase where
  | awaiting
  | catching
  | finishing (fulfilled : Bool)
  | settled (fulfilled : Bool)
  deriving DecidableEq

structure Tracked where
  promise : Nat
  decoded : AudioFrame
  phase : ChainPhase

/-- What a call of `end` awaits, or how it has ended. -/
inductive EndPhase where
  | acknowledging (tracked : List Nat)
  | ending
  | exiting
  | cancelling
  | reported (state : OutputState)
  | rejected
  deriving DecidableEq

structure EndCall where
  lastSequence : Option Json
  phase : EndPhase

inductive CancelPhase where
  | awaiting
  | returned
  | failed
  deriving DecidableEq

structure Session where
  runtime : Runtime
  coordinator : Coordinator
  cancelRequested : Bool := false
  /-- The tracked promises, by the runtime's promise. -/
  pending : List Nat := []
  tracked : List Tracked := []
  exited : Option Exit := none
  ends : List EndCall := []
  cancels : List CancelPhase := []

namespace Session

/-- A session is returned when the coordinator takes the model as ready. -/
def launch (config : Config) (runtime : Runtime) : Option Session :=
  match Coordinator.create config.modelId config.revision with
  | .error _ => none
  | .ok coordinator =>
      match coordinator.onWorkerMessage (control "asr.model_ready.v1"
        [("modelId", some (.string config.modelId)),
          ("revision", some (.string config.revision))]) with
      | (_, .error _) => none
      | (coordinator, .ok _) =>
          some { runtime := runtime, coordinator := coordinator }

def interrupt (session : Session) : Session :=
  if session.coordinator.worker.state.terminal then session
  else { session with coordinator := session.coordinator.onDisconnected.1 }

def interruptUnlessCancelled (session : Session) : Session :=
  if session.cancelRequested then session else session.interrupt

def cancelRuntime (session : Session) : Session :=
  { session with runtime := session.runtime.cancel }

def start (session : Session) : Session :=
  { session with
    coordinator := (session.coordinator.onClientControl startControl).1 }

def sendAudio (session : Session) (stdin : Stdin)
    (frame : Option (List UInt8)) : Session :=
  match session.coordinator.onClientAudio frame with
  | (coordinator, .error _) => { session with coordinator := coordinator }
  | (coordinator, .ok decoded) =>
      match session.runtime.sendAudio stdin (some decoded.sequence)
        (some decoded.sampleOffset) (some decoded.pcm) with
      | (runtime, .error _) =>
          ({ session with
            runtime := runtime
            coordinator := coordinator }.interrupt).cancelRuntime
      | (runtime, .ok promise) =>
          { session with
            runtime := runtime
            coordinator := coordinator
            pending := session.pending ++ [promise]
            tracked := session.tracked ++ [⟨promise, decoded, .awaiting⟩] }

/-! ## Reactions -/

def setChain (session : Session) (promise : Nat) (phase : ChainPhase) :
    Session :=
  { session with tracked := session.tracked.map fun entry =>
      if entry.promise = promise then { entry with phase := phase } else entry }

def matchesFrame (acknowledgement : Acknowledgement) (decoded : AudioFrame) :
    Bool :=
  acknowledgement.sequence = decoded.sequence &&
    acknowledgement.endSample =
      (decoded.sampleOffset + decoded.sampleCount : Nat) &&
    acknowledgement.sampleCount = decoded.sampleCount

/-- The callback of `then`. -/
def onAcknowledged (session : Session) (entry : Tracked)
    (acknowledgement : Acknowledgement) : Session :=
  if matchesFrame acknowledgement entry.decoded then
    match session.coordinator.onSamplesConsumed
      (some acknowledgement.sampleCount) with
    | (coordinator, .error _) =>
        { session with coordinator := coordinator }.setChain entry.promise
          .catching
    | (coordinator, .ok _) =>
        { session with coordinator := coordinator }.setChain entry.promise
          (.finishing true)
  else session.setChain entry.promise .catching

/-- The next reaction in the chain of a promise, if it is due. -/
def react (session : Session) (entry : Tracked) : Option Session :=
  match entry.phase with
  | .awaiting =>
      match session.runtime.settlements.find? (·.1 = entry.promise) with
      | none => none
      | some (_, .resolved acknowledgement) =>
          some (session.onAcknowledged entry acknowledgement)
      | some (_, .rejected _) =>
          some (session.setChain entry.promise .catching)
  | .catching =>
      some (session.interruptUnlessCancelled.cancelRuntime.setChain
        entry.promise (.finishing false))
  | .finishing fulfilled =>
      let left := session.pending.erase entry.promise
      some ({ session with pending := left }.setChain entry.promise
        (.settled fulfilled))
  | .settled _ => none

/-- The callback of `waitForExit`. -/
def observeExit (session : Session) (result : Exit) : Session :=
  let observed := { session with exited := some result }
  if result.state ≠ .completed ∧
      ¬(session.cancelRequested ∧ result.state = .cancelled) then
    observed.interrupt
  else observed

/-! ## `end` -/

def endInput (session : Session) (lastSequence : Option Json) : Session :=
  match session.coordinator.onClientControl
    (control "asr.end.v1" [("lastSequence", lastSequence)]) with
  | (coordinator, .error _) =>
      { session with
        coordinator := coordinator
        ends := session.ends ++ [⟨lastSequence, .rejected⟩] }
  | (coordinator, .ok _) =>
      { session with
        coordinator := coordinator
        ends := session.ends ++
          [⟨lastSequence, .acknowledging session.pending⟩] }

def setEnd (session : Session) (index : Nat) (phase : EndPhase) : Session :=
  { session with ends := session.ends.modify index fun call =>
      { call with phase := phase } }

/-- The `catch` of `end`. -/
def catchEnd (session : Session) (index : Nat) : Session :=
  session.interruptUnlessCancelled.cancelRuntime.setEnd index .cancelling

def chainSettled (session : Session) (promise : Nat) (fulfilled : Bool) :
    Bool :=
  session.tracked.any fun entry =>
    entry.promise = promise && entry.phase = .settled fulfilled

/-- After the exit has been awaited. -/
def reportEnd (session : Session) (index : Nat) (lastSequence : Option Json)
    (exit : Exit) : Session :=
  if exit.state ≠ .completed ∨ exit.exitCode ≠ some 0 ∨
      session.coordinator.client.queuedSamples ≠ 0 then session.catchEnd index
  else
    match session.coordinator.onWorkerMessage
      (control "asr.completed.v1" [("lastSequence", lastSequence)]) with
    | (coordinator, .error _) =>
        { session with coordinator := coordinator }.catchEnd index
    | (coordinator, .ok _) =>
        { session with coordinator := coordinator }.setEnd index
          (.reported coordinator.worker.state)

/-- A call of `end` goes on, if what it awaits is settled. -/
def resumeEnd (session : Session) (index : Nat) (call : EndCall)
    (stdin : Stdin) : Option Session :=
  match call.phase with
  | .acknowledging tracked =>
      if tracked.any (session.chainSettled · false) then
        some (session.catchEnd index)
      else if tracked.all (session.chainSettled · true) then
        match session.runtime.endInput stdin call.lastSequence with
        | (runtime, .error _) =>
            some ({ session with runtime := runtime }.catchEnd index)
        | (runtime, .ok _) =>
            some ({ session with runtime := runtime }.setEnd index .ending)
      else none
  | .ending =>
      match session.runtime.ended with
      | none => none
      | some none => some (session.setEnd index .exiting)
      | some (some _) => some (session.catchEnd index)
  | .exiting => session.exited.map (session.reportEnd index call.lastSequence)
  | .cancelling => session.runtime.closed.map fun _ =>
      session.setEnd index .rejected
  | .reported _ | .rejected => none

/-! ## `cancel` and `disconnect` -/

def cancel (session : Session) : Session :=
  if session.coordinator.worker.state.terminal then session.cancelRuntime
  else
    match session.coordinator.onClientControl (control "asr.cancel.v1" []) with
    | (coordinator, .error _) => { session with coordinator := coordinator }
    | (coordinator, .ok _) =>
        { session with
          coordinator := coordinator
          cancelRequested := true
          cancels := session.cancels ++ [CancelPhase.awaiting]
        }.cancelRuntime

def setCancel (session : Session) (index : Nat) (phase : CancelPhase) :
    Session :=
  { session with cancels := session.cancels.set index phase }

/-- A call of `cancel` goes on after the close. -/
def resumeCancel (session : Session) (index : Nat) (exit : Exit) : Session :=
  if exit.state ≠ .cancelled then session.interrupt.setCancel index .failed
  else
    match session.coordinator.onWorkerMessage
      (control "asr.cancelled.v1" []) with
    | (coordinator, .error _) =>
        { session with coordinator := coordinator }.setCancel index .failed
    | (coordinator, .ok _) =>
        { session with coordinator := coordinator }.setCancel index .returned

def disconnect (session : Session) : Session :=
  session.interrupt.cancelRuntime

/-! ## Runs -/

inductive Event where
  /-- Of the child, its streams, the timers and the signal. -/
  | runtime (event : Runtime.Event)
  | start
  | sendAudio (stdin : Stdin) (frame : Option (List UInt8))
  | endInput (lastSequence : Option Json)
  | cancel
  | disconnect
  | react (promise : Nat)
  | observeExit
  | resumeEnd (index : Nat) (stdin : Stdin)
  | resumeCancel (index : Nat)

/-- Only the session calls the runtime. -/
def isCall : Runtime.Event → Bool
  | .sendAudio _ _ _ _ | .endInput _ _ | .cancel => true
  | _ => false

def step (config : Config) (session : Session) : Event → Option Session
  | .runtime event =>
      if isCall event then none
      else (session.runtime.step config event).map fun runtime =>
        { session with runtime := runtime }
  | .start => some session.start
  | .sendAudio stdin frame => some (session.sendAudio stdin frame)
  | .endInput lastSequence => some (session.endInput lastSequence)
  | .cancel => some session.cancel
  | .disconnect => some session.disconnect
  | .react promise =>
      (session.tracked.find? (·.promise = promise)).bind session.react
  | .observeExit =>
      if session.exited = none then session.runtime.closed.map
        session.observeExit
      else none
  | .resumeEnd index stdin =>
      session.ends[index]?.bind fun call => session.resumeEnd index call stdin
  | .resumeCancel index =>
      if session.cancels[index]? = some .awaiting then
        session.runtime.closed.map (session.resumeCancel index)
      else none

def machine (config : Config) (launched : Session) : Machine Session Event where
  initial := launched
  step := Session.step config

/-! ## What a step leaves -/

/-- The runtime keeps its account, and no call of `end` reports. -/
structure Steady (before after : Session) : Prop where
  kept : before.runtime.Kept → after.runtime.Kept
  closed : ∀ exit, before.runtime.closed = some exit →
    after.runtime.closed = some exit
  exited : after.exited = before.exited
  ends : ∀ call ∈ after.ends, ∀ state, call.phase = .reported state →
    ∃ earlier ∈ before.ends, earlier.phase = .reported state

theorem Steady.trans {first second third : Session}
    (left : Steady first second) (right : Steady second third) :
    Steady first third where
  kept := fun kept => right.kept (left.kept kept)
  closed := fun exit closed => right.closed exit (left.closed exit closed)
  exited := right.exited.trans left.exited
  ends := by
    intro call member state reported
    obtain ⟨middle, member, reported⟩ := right.ends call member state reported
    exact left.ends middle member state reported

/-- Nothing but the coordinator and the promises of the session. -/
theorem steady_of_eq {before after : Session}
    (runtime : after.runtime = before.runtime)
    (exited : after.exited = before.exited) (ends : after.ends = before.ends) :
    Steady before after where
  kept := fun kept => runtime ▸ kept
  closed := fun _ closed => runtime ▸ closed
  exited := exited
  ends := fun call member _ reported => ⟨call, ends ▸ member, reported⟩

theorem steady_refl (session : Session) : Steady session session :=
  steady_of_eq rfl rfl rfl

theorem steady_runtime (session : Session) {runtime : Runtime}
    (kept : session.runtime.Kept → runtime.Kept)
    (closed : ∀ exit, session.runtime.closed = some exit →
      runtime.closed = some exit) :
    Steady session { session with runtime := runtime } where
  kept := kept
  closed := closed
  exited := rfl
  ends := fun call member _ reported => ⟨call, member, reported⟩

theorem steady_interrupt (session : Session) :
    Steady session session.interrupt := by
  unfold interrupt
  split_ifs
  · exact steady_refl session
  · exact steady_of_eq rfl rfl rfl

theorem steady_interruptUnlessCancelled (session : Session) :
    Steady session session.interruptUnlessCancelled := by
  unfold interruptUnlessCancelled
  split_ifs
  · exact steady_refl session
  · exact steady_interrupt session

theorem steady_cancelRuntime (session : Session) :
    Steady session session.cancelRuntime :=
  steady_runtime session (fun kept => kept.cancel)
    fun _ closed => (Runtime.cancel_closed _).trans closed

theorem steady_coordinator (session : Session) (coordinator : Coordinator) :
    Steady session { session with coordinator := coordinator } :=
  steady_of_eq rfl rfl rfl

theorem steady_sendAudio (session : Session) (stdin : Stdin)
    (frame : Option (List UInt8)) :
    Steady session (session.sendAudio stdin frame) := by
  unfold sendAudio
  split
  · exact steady_of_eq rfl rfl rfl
  · rename_i decoded _
    have sent : ∀ {outcome}, session.runtime.sendAudio stdin
        (some decoded.sequence) (some decoded.sampleOffset)
          (some decoded.pcm) = outcome →
        Steady session { session with runtime := outcome.1 } := by
      rintro outcome rfl
      exact steady_runtime session (fun kept => kept.sendAudio _ _ _ _)
        fun _ closed => (Runtime.sendAudio_closed _ _ _ _ _).trans closed
    split
    · rename_i thrown
      apply (sent thrown).trans
      refine Steady.trans ?_ (steady_cancelRuntime _)
      refine Steady.trans ?_ (steady_interrupt _)
      exact steady_of_eq rfl rfl rfl
    · rename_i given
      exact (sent given).trans (steady_of_eq rfl rfl rfl)

theorem steady_onAcknowledged (session : Session) (entry : Tracked)
    (acknowledgement : Acknowledgement) :
    Steady session (session.onAcknowledged entry acknowledgement) := by
  unfold onAcknowledged
  split_ifs
  · split <;> exact steady_of_eq rfl rfl rfl
  · exact steady_of_eq rfl rfl rfl

theorem steady_react {session after : Session} {entry : Tracked}
    (taken : session.react entry = some after) : Steady session after := by
  unfold react at taken
  split at taken
  · split at taken
    · cases taken
    · cases taken
      exact steady_onAcknowledged _ _ _
    · cases taken
      exact steady_of_eq rfl rfl rfl
  · cases taken
    refine (steady_interruptUnlessCancelled session).trans ?_
    refine (steady_cancelRuntime _).trans ?_
    exact steady_of_eq rfl rfl rfl
  · cases taken
    exact steady_of_eq rfl rfl rfl
  · cases taken

theorem steady_endInput (session : Session) (lastSequence : Option Json) :
    Steady session (session.endInput lastSequence) := by
  have added : ∀ (coordinator : Coordinator) (phase : EndPhase),
      (∀ state, phase ≠ .reported state) →
      Steady session { session with
        coordinator := coordinator
        ends := session.ends ++ [⟨lastSequence, phase⟩] } := by
    intro coordinator phase other
    refine ⟨id, fun _ => id, rfl, ?_⟩
    intro call member state reported
    rcases List.mem_append.mp member with member | member
    · exact ⟨call, member, reported⟩
    · rw [List.mem_singleton.mp member] at reported
      exact absurd reported (other state)
  unfold endInput
  split
  · exact added _ _ fun _ => nofun
  · exact added _ _ fun _ => nofun

theorem steady_setEnd (session : Session) (index : Nat) {phase : EndPhase}
    (other : ∀ state, phase ≠ .reported state) :
    Steady session (session.setEnd index phase) where
  kept := id
  closed := fun _ => id
  exited := rfl
  ends := by
    intro call member state reported
    obtain ⟨place, same⟩ := List.mem_iff_getElem?.mp member
    change (session.ends.modify index _)[place]? = some call at same
    rw [List.getElem?_modify] at same
    obtain ⟨earlier, there, same⟩ := Option.map_eq_some_iff.mp same
    split_ifs at same
    · rw [← same] at reported
      exact absurd reported (other state)
    · exact ⟨call, same ▸ List.mem_of_getElem? there, reported⟩

theorem steady_catchEnd (session : Session) (index : Nat) :
    Steady session (session.catchEnd index) := by
  refine (steady_interruptUnlessCancelled session).trans ?_
  refine (steady_cancelRuntime _).trans ?_
  exact steady_setEnd _ index fun _ => nofun

theorem steady_cancel (session : Session) : Steady session session.cancel := by
  unfold cancel
  split_ifs
  · exact steady_cancelRuntime session
  · split
    · exact steady_of_eq rfl rfl rfl
    · refine Steady.trans ?_ (steady_cancelRuntime _)
      exact steady_of_eq rfl rfl rfl

theorem steady_resumeCancel (session : Session) (index : Nat) (exit : Exit) :
    Steady session (session.resumeCancel index exit) := by
  unfold resumeCancel
  split_ifs
  · exact (steady_interrupt session).trans (steady_of_eq rfl rfl rfl)
  · split <;> exact steady_of_eq rfl rfl rfl

/-! ## What `end` reports -/

structure Sound (session : Session) : Prop where
  kept : session.runtime.Kept
  exited : ∀ exit, session.exited = some exit →
    session.runtime.closed = some exit
  reported : ∀ call ∈ session.ends, ∀ state, call.phase = .reported state →
    ∃ exit, session.exited = some exit ∧ exit.state = .completed ∧
      exit.exitCode = some 0

theorem Sound.steady {before after : Session} (sound : before.Sound)
    (steady : Steady before after) : after.Sound where
  kept := steady.kept sound.kept
  exited := by
    intro exit exited
    rw [steady.exited] at exited
    exact steady.closed exit (sound.exited exit exited)
  reported := by
    intro call member state reported
    obtain ⟨earlier, member, reported⟩ := steady.ends call member state reported
    rw [steady.exited]
    exact sound.reported earlier member state reported

theorem Sound.observeExit {session : Session} (sound : session.Sound)
    (unseen : session.exited = none) {result : Exit}
    (closed : session.runtime.closed = some result) :
    (session.observeExit result).Sound := by
  have observed : Sound { session with exited := some result } := by
    refine ⟨sound.kept, ?_, ?_⟩
    · intro exit exited
      cases exited
      exact closed
    · intro call member state reported
      obtain ⟨exit, exited, _⟩ := sound.reported call member state reported
      rw [unseen] at exited
      cases exited
  unfold Session.observeExit
  dsimp only
  split_ifs
  · exact observed.steady (steady_interrupt _)
  · exact observed

theorem Sound.reportEnd {session : Session} (sound : session.Sound)
    (index : Nat) (lastSequence : Option Json) {exit : Exit}
    (exited : session.exited = some exit) :
    (session.reportEnd index lastSequence exit).Sound := by
  unfold Session.reportEnd
  split_ifs with unclean
  · exact sound.steady (steady_catchEnd session index)
  · simp only [not_or, not_not] at unclean
    split
    · refine sound.steady (Steady.trans ?_ (steady_catchEnd _ index))
      exact steady_of_eq rfl rfl rfl
    · refine ⟨sound.kept, sound.exited, ?_⟩
      intro call member state reported
      exact ⟨exit, exited, unclean.1, unclean.2.1⟩

theorem Sound.resumeEnd {session after : Session} (sound : session.Sound)
    {index : Nat} {call : EndCall} {stdin : Stdin}
    (taken : session.resumeEnd index call stdin = some after) :
    after.Sound := by
  unfold Session.resumeEnd at taken
  split at taken
  · split_ifs at taken
    · cases taken
      exact sound.steady (steady_catchEnd session index)
    · have ended : ∀ {outcome}, session.runtime.endInput stdin
          call.lastSequence = outcome →
          Steady session { session with runtime := outcome.1 } := by
        rintro outcome rfl
        exact steady_runtime session (fun kept => kept.endInput _ _)
          fun _ closed => (Runtime.endInput_closed _ _ _).trans closed
      split at taken
      · rename_i thrown
        cases taken
        exact sound.steady ((ended thrown).trans (steady_catchEnd _ index))
      · rename_i given
        cases taken
        exact sound.steady ((ended given).trans
          (steady_setEnd _ index fun _ => nofun))
  · split at taken
    · cases taken
    · cases taken
      exact sound.steady (steady_setEnd session index fun _ => nofun)
    · cases taken
      exact sound.steady (steady_catchEnd session index)
  · obtain ⟨exit, exited, same⟩ := Option.map_eq_some_iff.mp taken
    cases same
    exact sound.reportEnd index _ exited
  · obtain ⟨exit, _, same⟩ := Option.map_eq_some_iff.mp taken
    cases same
    exact sound.steady (steady_setEnd session index fun _ => nofun)
  · cases taken
  · cases taken

theorem Sound.step {config : Config} {session after : Session} {event : Event}
    (sound : session.Sound) (taken : session.step config event = some after) :
    after.Sound := by
  cases event with
  | runtime event =>
      rw [Session.step] at taken
      split_ifs at taken
      obtain ⟨runtime, moved, same⟩ := Option.map_eq_some_iff.mp taken
      subst same
      exact sound.steady (steady_runtime session (fun kept => kept.step moved)
        fun _ closed => Runtime.step_closed closed moved)
  | start =>
      obtain rfl := Option.some.inj taken
      exact sound.steady (steady_coordinator session _)
  | sendAudio stdin frame =>
      obtain rfl := Option.some.inj taken
      exact sound.steady (steady_sendAudio session stdin frame)
  | endInput lastSequence =>
      obtain rfl := Option.some.inj taken
      exact sound.steady (steady_endInput session lastSequence)
  | cancel =>
      obtain rfl := Option.some.inj taken
      exact sound.steady (steady_cancel session)
  | disconnect =>
      obtain rfl := Option.some.inj taken
      exact sound.steady ((steady_interrupt session).trans
        (steady_cancelRuntime _))
  | react promise =>
      obtain ⟨entry, _, taken⟩ := Option.bind_eq_some_iff.mp taken
      exact sound.steady (steady_react taken)
  | observeExit =>
      obtain ⟨unseen, taken⟩ := Option.ite_none_right_eq_some.mp taken
      obtain ⟨result, closed, same⟩ := Option.map_eq_some_iff.mp taken
      subst same
      exact sound.observeExit unseen closed
  | resumeEnd index stdin =>
      obtain ⟨call, _, taken⟩ := Option.bind_eq_some_iff.mp taken
      exact sound.resumeEnd taken
  | resumeCancel index =>
      obtain ⟨_, taken⟩ := Option.ite_none_right_eq_some.mp taken
      obtain ⟨exit, _, same⟩ := Option.map_eq_some_iff.mp taken
      subst same
      exact sound.steady (steady_resumeCancel session index exit)

theorem sound_launch {config : Config} {runtime : Runtime} {launched : Session}
    (kept : runtime.Kept) (returned : launch config runtime = some launched) :
    launched.Sound := by
  unfold launch at returned
  split at returned
  · cases returned
  · split at returned
    · cases returned
    · cases returned
      exact ⟨kept, nofun, nofun⟩

end Session

open GpuLink.SyntheticAsr.Session in
/-- In every run of the runtime the credits add up; a session reports the
completion only of a runtime that has been fulfilled and has exited with
zero. -/
theorem synthetic_credits (config : Config) (events : List Runtime.Event)
    (runtime : Runtime)
    (reached : (SyntheticAsr.machine config).Reaches events runtime) :
    runtime.Credited config ∧
      ∀ launched, runtime.available → launch config runtime = some launched →
        ∀ calls session, (Session.machine config launched).Reaches calls
          session →
          session.runtime.Credited config ∧
            ∀ call ∈ session.ends, call.phase = .reported .completed →
              session.runtime.Fulfilled ∧ ∃ exitSignal,
                session.runtime.closed =
                  some ⟨.completed, some 0, exitSignal⟩ := by
  have kept := Runtime.kept_of_reached reached
  refine ⟨kept.credited config, ?_⟩
  intro launched _ returned calls session run
  have sound : session.Sound :=
    run.invariant (fun _ session => session.Sound) (sound_launch kept returned)
      fun _ sound _ taken => sound.step taken
  have credited := sound.kept.credited config
  refine ⟨credited, ?_⟩
  intro call member reported
  obtain ⟨exit, exited, completed, _⟩ :=
    sound.reported call member _ reported
  have closed := sound.exited exit exited
  have state := (sound.kept.exited exit closed).1
  exact credited.completed (state ▸ completed)

/-! ## A session of one chunk -/

def openStdin : Stdin :=
  ⟨false, true, 0, true⟩

def sampleConfig : Config :=
  ⟨"model", "0000000000000000000000000000000000000000", openStdin⟩

def childLine (text : String) : Runtime.Event :=
  .stdoutData (utf8Bytes text ++ [10])

def readyRun : List Runtime.Event :=
  [childLine ("\x7b\"type\":\"asr.ipc.ready.v1\",\"modelId\":\"model\"," ++
    "\"revision\":\"0000000000000000000000000000000000000000\"\x7d")]

/-- One sample. -/
def sampleFrame : List UInt8 :=
  [0x41, 0x53, 0x52, 0x31, 0, 0, 0, 0, 0, 0, 0, 0, 1, 0, 0, 0, 7, 0]

def sampleCalls : List Session.Event :=
  [.start, .sendAudio openStdin (some sampleFrame),
    .runtime (childLine ("\x7b\"type\":\"asr.ipc.consumed.v1\"," ++
      "\"sequence\":0,\"endSample\":1\x7d")),
    .react 0, .react 0, .endInput (some (.number 0)), .resumeEnd 0 openStdin,
    .runtime (childLine
      "\x7b\"type\":\"asr.ipc.completed.v1\",\"lastSequence\":0\x7d"),
    .runtime (.close (some 0) none), .observeExit, .resumeEnd 0 openStdin,
    .resumeEnd 0 openStdin]

/-- The runtime before the session is launched, and the session at the end. -/
def samplePlay : Option (Runtime × Session) :=
  ((machine sampleConfig).play readyRun).bind fun runtime =>
    (Session.launch sampleConfig runtime).bind fun launched =>
      ((Session.machine sampleConfig launched).play sampleCalls).map
        fun session => (runtime, session)

theorem samplePlay_reports : (samplePlay.map fun (runtime, session) =>
    (runtime.ready, session.ends.any (·.phase = .reported .completed))) =
      some (some none, true) := by
  decide +kernel

theorem synthetic_credits_sample :
    ∃ runtime session, samplePlay = some (runtime, session) ∧
      session.runtime.Fulfilled := by
  obtain ⟨⟨runtime, session⟩, played, shown⟩ :=
    Option.map_eq_some_iff.mp samplePlay_reports
  obtain ⟨available, reports⟩ := Prod.mk.inj shown
  obtain ⟨before, ready, opened⟩ := Option.bind_eq_some_iff.mp played
  obtain ⟨launched, returned, called⟩ := Option.bind_eq_some_iff.mp opened
  obtain ⟨after, ended, pair⟩ := Option.map_eq_some_iff.mp called
  obtain ⟨rfl, rfl⟩ := Prod.mk.inj pair
  obtain ⟨call, member, reported⟩ := List.any_eq_true.mp reports
  have credits := (synthetic_credits sampleConfig readyRun before
    (Machine.reaches_of_play ready)).2 launched available returned sampleCalls
      after (Machine.reaches_of_play ended)
  exact ⟨before, after, played,
    (credits.2 call member (of_decide_eq_true reported)).1⟩

end SyntheticAsr

end GpuLink
