import GpuLink.Shared.Text
import Mathlib.Data.List.Nodup

/-!
# The data plane of the client library

A version 2 socket is opened with a listener that keeps the frames which arrive
before the relay is ready; the data plane takes these over and hands them to the
first listener of the application in a microtask.
-/

namespace GpuLink

namespace Sdk

def maxFrameBytes : Nat := 1048576
def maxBufferedBytes : Nat := 4194304

/-- A frame from the server. -/
inductive Frame where
  | text (value : String)
  | binary (bytes : List UInt8)
  deriving DecidableEq

/-- `GPULINK_RELAY_READY_V2` -/
def relayReady : Frame := .text "gpulink.relay.ready.v2"

def Frame.byteLength : Frame → Nat
  | .text value => GpuLink.byteLength value
  | .binary bytes => bytes.length

/-- The `data` of a message event; a `Blob` is nothing that is sent to a socket
whose binary type is `arraybuffer`. -/
inductive Data where
  | frame (frame : Frame)
  | blob

inductive ReadyState where
  | connecting
  | opened
  | closing
  | closed
  deriving DecidableEq

/-- A `GPULinkDataPlane`; a listener is known by a number. -/
structure Plane where
  earlyMessages : List Frame
  messageListeners : List Nat
  closeInfo : Bool

/-- Where `connectSession` is. -/
inductive Phase where
  /-- The promise of the handshake is pending. -/
  | handshake (openedOk : Bool) (earlyMessages : List Frame) (earlyBytes : Nat)
  /-- It is resolved, and what awaits it has not gone on. -/
  | ready (earlyMessages : List Frame)
  /-- `openDataPlaneSocket` has returned to `connectSession`. -/
  | constructed (plane : Plane)
  /-- The application has the data plane. -/
  | returned (plane : Plane)
  | failed

structure Socket where
  readyState : ReadyState
  /-- `socket.protocol` is the one asked for. -/
  negotiated : Bool
  /-- The signal of the call is aborted. -/
  aborted : Bool

/-- What has come and gone. -/
structure Record where
  /-- The microtask that `onMessage` has queued. -/
  flush : Option (Nat × List Frame)
  /-- The frames but for the relay's own that have arrived. -/
  arrived : List Frame
  delivered : List (Nat × Frame)
  firstListener : Option Nat
  /-- The application has taken its first listener off. -/
  removed : Bool

structure Connection where
  socket : Socket
  phase : Phase
  record : Record

/-- What happens next; nothing is said of the order. -/
inductive Event where
  | opened (accepted : Bool)
  /-- The listeners among these throw when they are called. -/
  | message (data : Data) (throws : List Nat)
  | error
  | closed
  | timeout
  | abort
  /-- What awaits the handshake goes on. -/
  | continueHandshake
  /-- What awaits `openDataPlaneSocket` goes on. -/
  | continueConnect
  | onMessage (listener : Nat)
  | removeListener (listener : Nat)
  /-- The listener throws at the kept frame of this index. -/
  | flush (throws : Option Nat)
  | close

/-- The close listener of the data plane. -/
def Plane.closed (plane : Plane) : Plane :=
  { plane with closeInfo := true, messageListeners := [] }

def Phase.plane? : Phase → Option Plane
  | .constructed plane => some plane
  | .returned plane => some plane
  | _ => none

/-- `socket.close()` -/
def Socket.close (socket : Socket) : Socket :=
  { socket with
    readyState :=
      match socket.readyState with
      | .closed => .closed
      | _ => .closing }

/-- `GPULinkDataPlane.close` -/
def Socket.closeOpen (socket : Socket) : Socket :=
  if socket.readyState = .opened then socket.close else socket

/-- The listeners that a loop calls; it ends with one that throws. -/
def called (throws : List Nat) : List Nat → List Nat
  | [] => []
  | listener :: rest =>
      if listener ∈ throws then [listener] else listener :: called throws rest

/-- The frames that a loop hands over; it ends with one at which the listener
throws. -/
def handed (throws : Option Nat) (queued : List Frame) : List Frame :=
  match throws with
  | none => queued
  | some index => queued.take (index + 1)

namespace Record

def arrive (record : Record) (data : Data) : Record :=
  match data with
  | .frame frame =>
      if frame = relayReady then record
      else { record with arrived := record.arrived ++ [frame] }
  | .blob => record

/-- A frame is handed to one listener after the other. -/
def dispatch (record : Record) (listeners throws : List Nat) (frame : Frame) :
    Record :=
  { record with
    delivered := record.delivered ++
      (called throws listeners).map (fun listener => (listener, frame)) }

/-- The microtask of `onMessage`; the queue is empty, whatever it throws. -/
def runFlush (record : Record) (plane : Option Plane) (listener : Nat)
    (queued : List Frame) (throws : Option Nat) : Record :=
  let flushed := { record with flush := none }
  match plane with
  | none => flushed
  | some plane =>
      if listener ∉ plane.messageListeners ∨ plane.closeInfo then flushed
      else { flushed with
        delivered := record.delivered ++
          (handed throws queued).map (fun frame => (listener, frame)) }

/-- The microtask, if there is one, has run to its end. -/
def drained (record : Record) (plane : Option Plane) : Record :=
  match record.flush with
  | none => record
  | some (listener, queued) => record.runFlush plane listener queued none

/-- What a listener has been called with. -/
def received (record : Record) (listener : Nat) : List Frame :=
  (record.delivered.filter (fun entry => entry.1 = listener)).map (·.2)

end Record

namespace Connection

def initial : Connection where
  socket := ⟨.connecting, false, false⟩
  phase := .handshake false [] 0
  record := ⟨none, [], [], none, false⟩

/-- The call throws, and gives the socket up. -/
def fail (connection : Connection) : Connection :=
  { connection with socket := connection.socket.close, phase := .failed }

/-- The message listener of the handshake. -/
def handshakeMessage (connection : Connection) (openedOk : Bool)
    (early : List Frame) (earlyBytes : Nat) (data : Data) : Connection :=
  if !openedOk then connection.fail
  else
    match data with
    | .blob => connection.fail
    | .frame frame =>
        if frame = relayReady then { connection with phase := .ready early }
        else if frame.byteLength > maxFrameBytes ∨
            earlyBytes + frame.byteLength > maxBufferedBytes then
          connection.fail
        else { connection with
          phase := .handshake openedOk (early ++ [frame])
            (earlyBytes + frame.byteLength) }

/-- The message listener of the data plane. -/
def planeMessage (connection : Connection) (plane : Plane) (data : Data)
    (throws : List Nat) : Connection :=
  match data with
  | .blob => { connection with socket := connection.socket.closeOpen }
  | .frame frame =>
      if frame = relayReady then
        { connection with socket := connection.socket.closeOpen }
      else { connection with
        record := connection.record.dispatch plane.messageListeners throws
          frame }

def message (connection : Connection) (data : Data) (throws : List Nat) :
    Connection :=
  match connection.phase with
  | .handshake openedOk early earlyBytes =>
      connection.handshakeMessage openedOk early earlyBytes data
  -- The listener of the handshake is gone and the data plane is not yet there.
  | .ready _ => connection
  | .constructed plane => connection.planeMessage plane data throws
  | .returned plane => connection.planeMessage plane data throws
  | .failed => connection

/-- The close listeners. -/
def closed (connection : Connection) : Connection :=
  let connection := { connection with
    socket := { connection.socket with readyState := .closed } }
  match connection.phase with
  | .handshake _ _ _ => connection.fail
  | .constructed plane =>
      { connection with phase := .constructed plane.closed }
  | .returned plane =>
      { connection with phase := .returned plane.closed }
  | _ => connection

/-- In the handshake the call fails; later nobody listens. -/
def failHandshake (connection : Connection) : Connection :=
  match connection.phase with
  | .handshake _ _ _ => connection.fail
  | _ => connection

/-- The constructor of the data plane refuses a socket that is not open. -/
def construct (connection : Connection) (early : List Frame) : Connection :=
  if connection.socket.aborted then connection.fail
  else if !connection.socket.negotiated then connection.fail
  else if connection.socket.readyState ≠ .opened then connection.fail
  else { connection with phase := .constructed ⟨early, [], false⟩ }

/-- `connectSession` returns the data plane to its caller. -/
def handOver (connection : Connection) (plane : Plane) : Connection :=
  if connection.socket.aborted then connection.fail
  else if connection.socket.readyState ≠ .opened then connection.fail
  else { connection with phase := .returned plane }

def onMessage (connection : Connection) (plane : Plane) (listener : Nat) :
    Connection :=
  let record := connection.record
  if plane.closeInfo then connection
  else { connection with
    phase := .returned { plane with
      messageListeners :=
        if listener ∈ plane.messageListeners then plane.messageListeners
        else plane.messageListeners ++ [listener]
      earlyMessages := [] }
    record := { record with
      flush :=
        if plane.earlyMessages = [] then record.flush
        else some (listener, plane.earlyMessages)
      firstListener := record.firstListener.or (some listener) } }

def removeListener (connection : Connection) (plane : Plane)
    (listener : Nat) : Connection :=
  let record := connection.record
  { connection with
    phase := .returned { plane with
      messageListeners := plane.messageListeners.erase listener }
    record := { record with
      removed := record.removed || record.firstListener = some listener } }

/-- One step of the event loop, where the event can occur. -/
def step (connection : Connection) (event : Event) : Option Connection :=
  match event with
  | .opened accepted =>
      if connection.socket.readyState ≠ .connecting then none
      else
        let connection := { connection with
          socket := { connection.socket with
            readyState := .opened, negotiated := accepted } }
        match connection.phase with
        | .handshake _ early earlyBytes =>
            if accepted then some { connection with
              phase := .handshake true early earlyBytes }
            else some connection.fail
        | _ => some connection
  | .message data throws =>
      if connection.socket.readyState = .closed then none
      else
        let connection := { connection with
          record := connection.record.arrive data }
        some (connection.message data throws)
  | .error => some connection.failHandshake
  | .closed =>
      if connection.socket.readyState = .closed then none
      else some connection.closed
  | .timeout => some connection.failHandshake
  | .abort =>
      let connection := { connection with
        socket := { connection.socket with aborted := true } }
      some connection.failHandshake
  | .continueHandshake =>
      match connection.phase with
      | .ready early => some (connection.construct early)
      | _ => none
  | .continueConnect =>
      match connection.phase with
      | .constructed plane => some (connection.handOver plane)
      | _ => none
  | .onMessage listener =>
      match connection.phase with
      | .returned plane => some (connection.onMessage plane listener)
      | _ => none
  | .removeListener listener =>
      match connection.phase with
      | .returned plane => some (connection.removeListener plane listener)
      | _ => none
  | .flush throws => connection.record.flush.map (fun (listener, queued) =>
      { connection with
        record := connection.record.runFlush connection.phase.plane? listener
          queued throws })
  | .close =>
      match connection.phase with
      | .returned _ =>
          some { connection with socket := connection.socket.closeOpen }
      | _ => none

/-- The first listener gets every frame that has arrived, once and in order. -/
def LosesNothing (connection : Connection) : Prop :=
  ∀ listener, connection.record.firstListener = some listener →
    connection.record.removed = false →
      (connection.record.drained connection.phase.plane?).received listener =
        connection.record.arrived

/-- No frame arrives between the ready frame and the first listener, nothing
comes between the first listener and its microtask, and in that the listener
throws at the last of the kept frames if at all. -/
def Orderly (connection : Connection) : Event → Prop
  | .message (.frame frame) _ => frame ≠ relayReady →
      match connection.phase with
      | .ready _ => False
      | .constructed _ => False
      | .returned _ => connection.record.firstListener ≠ none ∧
          connection.record.flush = none
      | _ => True
  | .closed => connection.record.flush = none
  | .flush (some index) => ∀ listener queued,
      connection.record.flush = some (listener, queued) →
        queued.length ≤ index + 1
  | _ => True

/-- The states of the runs whose steps all meet a condition. -/
inductive Reached (condition : Connection → Event → Prop) :
    Connection → Prop where
  | initial : Reached condition initial
  | step {before after : Connection} (earlier : Reached condition before)
      (event : Event) (met : condition before event)
      (stepped : before.step event = some after) : Reached condition after

/-! ## What is kept from step to step -/

/-- Nothing has been handed to a listener. -/
structure Untouched (record : Record) (early : List Frame) : Prop where
  arrived : record.arrived = early
  flush : record.flush = none
  delivered : record.delivered = []
  listener : record.firstListener = none
  removed : record.removed = false

/-- The first listener has been called. -/
structure Served (record : Record) (plane : Plane) (first : Nat) : Prop where
  early : plane.earlyMessages = []
  flush : ∀ listener queued, record.flush = some (listener, queued) →
    listener = first ∧ plane.closeInfo = false
  distinct : plane.messageListeners.Nodup
  listening : record.removed = false → plane.closeInfo = false →
    plane.messageListeners.head? = some first
  complete : record.removed = false →
    (record.drained (some plane)).received first = record.arrived

/-- What every orderly run keeps. -/
def Invariant (connection : Connection) : Prop :=
  match connection.phase with
  | .handshake _ early _ => Untouched connection.record early
  | .ready early => Untouched connection.record early
  | .constructed plane =>
      Untouched connection.record plane.earlyMessages ∧
        plane.messageListeners = []
  | .returned plane =>
      (Untouched connection.record plane.earlyMessages ∧
        plane.messageListeners = []) ∨
      ∃ first, connection.record.firstListener = some first ∧
        Served connection.record plane first
  | .failed => connection.record.firstListener = none

theorem initial_invariant : initial.Invariant := ⟨rfl, rfl, rfl, rfl, rfl⟩

theorem invariant_losesNothing {connection : Connection}
    (invariant : connection.Invariant) : connection.LosesNothing := by
  obtain ⟨socket, phase, record⟩ := connection
  intro listener first kept
  cases phase with
  | handshake openedOk early bytes => cases invariant.listener.symm.trans first
  | ready early => cases invariant.listener.symm.trans first
  | constructed plane => cases invariant.1.listener.symm.trans first
  | returned plane =>
      rcases invariant with unheard | ⟨other, heard, served⟩
      · cases unheard.1.listener.symm.trans first
      · cases heard.symm.trans first
        exact served.complete kept
  | failed => cases invariant.symm.trans first

theorem Record.drained_idle {record : Record} {plane : Option Plane}
    (idle : record.flush = none) : record.drained plane = record := by
  unfold Record.drained
  rw [idle]

theorem called_sublist (throws listeners : List Nat) :
    (called throws listeners).Sublist listeners := by
  induction listeners with
  | nil => exact .slnil
  | cons listener rest induction =>
      rw [called]
      split
      · exact (List.nil_sublist rest).cons_cons listener
      · exact induction.cons_cons listener

/-- Nothing that throws comes before the first. -/
theorem first_called {listeners : List Nat} {first : Nat} (throws : List Nat)
    (head : listeners.head? = some first) : first ∈ called throws listeners := by
  cases listeners with
  | nil => cases head
  | cons listener rest =>
      cases head
      rw [called]
      split
      · exact List.mem_cons_self
      · exact List.mem_cons_self

theorem received_dispatch {record : Record} {listeners : List Nat}
    {first : Nat} (throws : List Nat) {frame : Frame}
    (distinct : listeners.Nodup) (head : listeners.head? = some first) :
    (record.dispatch listeners throws frame).received first =
      record.received first ++ [frame] := by
  have distinct := distinct.sublist (called_sublist throws listeners)
  have registered := first_called throws head
  have one : (((called throws listeners).map
      (fun other => (other, frame))).filter
        (fun entry => entry.1 = first)).map (·.2) = [frame] := by
    generalize called throws listeners = called at distinct registered
    induction called with
    | nil => cases registered
    | cons head rest induction =>
        rw [List.nodup_cons] at distinct
        by_cases here : head = first
        · have none : (rest.map (fun other => (other, frame))).filter
              (fun entry => entry.1 = first) = [] := by
            apply List.filter_eq_nil_iff.mpr
            intro entry member same
            obtain ⟨other, known, rfl⟩ := List.mem_map.mp member
            have same : other = first := of_decide_eq_true same
            rw [same, ← here] at known
            exact distinct.1 known
          rw [List.map_cons, List.filter_cons_of_pos, none]
          · rfl
          · exact decide_eq_true here
        · have later : first ∈ rest := by
            rcases List.mem_cons.mp registered with same | later
            · exact absurd same.symm here
            · exact later
          rw [List.map_cons, List.filter_cons_of_neg, induction distinct.2 later]
          intro same
          exact here (of_decide_eq_true same)
  simp only [Record.received, Record.dispatch, List.filter_append,
    List.map_append, one]

/-- The microtask hands over what is queued. -/
theorem received_runFlush {record : Record} {plane : Plane} {listener : Nat}
    {queued : List Frame}
    (first : plane.messageListeners.head? = some listener)
    (opened : plane.closeInfo = false) :
    (record.runFlush (some plane) listener queued none).received listener =
      record.received listener ++ queued := by
  have registered := List.mem_of_head? first
  have all : ((queued.map (fun frame => (listener, frame))).filter
      (fun entry => entry.1 = listener)).map (·.2) = queued := by
    rw [List.filter_eq_self.mpr (by simp), List.map_map]
    exact List.map_id _
  unfold Record.runFlush handed
  simp only [registered, opened, not_true_eq_false, Bool.false_eq_true,
    or_self, if_false, Record.received, List.filter_append, List.map_append, all]

section Steps

variable {connection after : Connection}

theorem failed_invariant (unheard : connection.record.firstListener = none) :
    connection.fail.Invariant :=
  unheard

theorem failHandshake_invariant (invariant : connection.Invariant) :
    connection.failHandshake.Invariant := by
  obtain ⟨socket, phase, record⟩ := connection
  cases phase with
  | handshake openedOk early bytes => exact failed_invariant invariant.listener
  | ready early => exact invariant
  | constructed plane => exact invariant
  | returned plane => exact invariant
  | failed => exact invariant

theorem Untouched.arrive {record : Record} {early : List Frame} {frame : Frame}
    (untouched : Untouched record early) (own : frame ≠ relayReady) :
    Untouched (record.arrive (.frame frame)) (early ++ [frame]) := by
  unfold Record.arrive
  simp only [own, if_false]
  exact { untouched with
    arrived := by rw [untouched.arrived] }

theorem handshakeMessage_invariant {openedOk : Bool} {early : List Frame}
    {bytes : Nat} {data : Data}
    (untouched : Untouched connection.record early) :
    Invariant (handshakeMessage { connection with
      record := connection.record.arrive data } openedOk early bytes data) := by
  have unheard : (connection.record.arrive data).firstListener = none := by
    unfold Record.arrive
    split
    · split
      · exact untouched.listener
      · exact untouched.listener
    · exact untouched.listener
  unfold handshakeMessage
  split
  · exact failed_invariant unheard
  · cases data with
    | blob => exact failed_invariant unheard
    | frame frame =>
        simp only
        by_cases ready : frame = relayReady
        · rw [if_pos ready, Record.arrive, if_pos ready]
          exact untouched
        · rw [if_neg ready]
          split
          · exact failed_invariant unheard
          · exact untouched.arrive ready

/-- A frame arrives when the first listener has been served. -/
theorem Served.message {record : Record} {plane : Plane} {first : Nat}
    {frame : Frame} (served : Served record plane first)
    (opened : plane.closeInfo = false) (idle : record.flush = none)
    (own : frame ≠ relayReady) (throws : List Nat) :
    Served ((record.arrive (.frame frame)).dispatch plane.messageListeners
      throws frame) plane first := by
  have arrived : record.arrive (.frame frame) =
      { record with arrived := record.arrived ++ [frame] } := if_neg own
  rw [arrived]
  refine ⟨served.early, ?_, served.distinct, served.listening, ?_⟩
  · intro listener queued queue
    cases idle.symm.trans queue
  · intro kept
    have complete := served.complete kept
    rw [Record.drained_idle idle] at complete
    rw [Record.drained_idle (show (Record.dispatch
      { record with arrived := record.arrived ++ [frame] }
      plane.messageListeners throws frame).flush = none from idle)]
    rw [received_dispatch throws served.distinct
      (served.listening kept opened)]
    exact congrArg (fun frames => frames ++ [frame]) complete

/-- A data plane that knows of its end has a socket that is closed. -/
def Closes (connection : Connection) : Prop :=
  ∀ plane, connection.phase.plane? = some plane → plane.closeInfo = true →
    connection.socket.readyState = .closed

/-- What is not an application frame changes the socket at most. -/
theorem message_control {data : Data} {throws : List Nat}
    (invariant : connection.Invariant)
    (unrecorded : connection.record.arrive data = connection.record)
    (control : data = .blob ∨ data = .frame relayReady) :
    Invariant (message { connection with
      record := connection.record.arrive data } data throws) := by
  obtain ⟨socket, phase, record⟩ := connection
  cases phase with
  | handshake openedOk early bytes =>
      exact handshakeMessage_invariant invariant
  | ready early =>
      rw [unrecorded]
      exact invariant
  | constructed plane =>
      rw [unrecorded]
      rcases control with rfl | rfl
      · exact invariant
      · exact invariant
  | returned plane =>
      rw [unrecorded]
      rcases control with rfl | rfl
      · exact invariant
      · exact invariant
  | failed =>
      rw [unrecorded]
      exact invariant

theorem message_invariant {data : Data} {throws : List Nat}
    (invariant : connection.Invariant) (closes : connection.Closes)
    (orderly : connection.Orderly (.message data throws))
    (open_ : connection.socket.readyState ≠ .closed) :
    Invariant (message { connection with
      record := connection.record.arrive data } data throws) := by
  cases data with
  | blob => exact message_control invariant rfl (.inl rfl)
  | frame frame =>
      by_cases ready : frame = relayReady
      · rw [ready]
        exact message_control invariant rfl (.inr rfl)
      · obtain ⟨socket, phase, record⟩ := connection
        have arrived : record.arrive (.frame frame) =
            { record with arrived := record.arrived ++ [frame] } := if_neg ready
        have orderly := orderly ready
        cases phase with
        | handshake openedOk early bytes =>
            exact handshakeMessage_invariant invariant
        | ready early => cases orderly
        | constructed plane => cases orderly
        | failed =>
            rw [arrived]
            exact invariant
        | returned plane =>
            have opened : plane.closeInfo = false := by
              by_contra known
              exact open_ (closes plane rfl (eq_true_of_ne_false known))
            have shape : message ⟨socket, .returned plane,
                record.arrive (.frame frame)⟩ (.frame frame) throws =
                ⟨socket, .returned plane, (record.arrive (.frame frame)).dispatch
                  plane.messageListeners throws frame⟩ := if_neg ready
            rw [shape]
            rcases invariant with unheard | ⟨first, heard, served⟩
            · exact absurd unheard.1.listener orderly.1
            · refine .inr ⟨first, ?_,
                served.message opened orderly.2 ready throws⟩
              rw [arrived]
              exact heard

theorem closed_invariant (invariant : connection.Invariant)
    (idle : connection.record.flush = none) : connection.closed.Invariant := by
  obtain ⟨socket, phase, record⟩ := connection
  cases phase with
  | handshake openedOk early bytes => exact failed_invariant invariant.listener
  | ready early => exact invariant
  | failed => exact invariant
  | constructed plane => exact ⟨invariant.1, rfl⟩
  | returned plane =>
      rcases invariant with unheard | ⟨first, heard, served⟩
      · exact .inl ⟨unheard.1, rfl⟩
      · refine .inr ⟨first, heard, served.early, ?_, List.nodup_nil, ?_, ?_⟩
        · intro listener queued queue
          cases idle.symm.trans queue
        · intro _ opened
          cases opened
        · intro kept
          have complete := served.complete kept
          rw [Record.drained_idle idle] at complete
          exact (congrArg (fun (record : Record) => record.received first)
            (Record.drained_idle idle)).trans complete

theorem construct_invariant {early : List Frame}
    (untouched : Untouched connection.record early) :
    (connection.construct early).Invariant := by
  unfold construct
  split_ifs
  · exact failed_invariant untouched.listener
  · exact failed_invariant untouched.listener
  · exact failed_invariant untouched.listener
  · exact ⟨untouched, rfl⟩

theorem handOver_invariant {plane : Plane}
    (untouched : Untouched connection.record plane.earlyMessages)
    (unheard : plane.messageListeners = []) :
    (connection.handOver plane).Invariant := by
  unfold handOver
  split_ifs
  · exact failed_invariant untouched.listener
  · exact failed_invariant untouched.listener
  · exact .inl ⟨untouched, unheard⟩

/-- The listeners after one more call of `onMessage`. -/
theorem prefix_added {listeners : List Nat} (listener : Nat)
    (distinct : listeners.Nodup) :
    let added := if listener ∈ listeners then listeners
      else listeners ++ [listener]
    listeners <+: added ∧ added.Nodup := by
  intro added
  by_cases known : listener ∈ listeners
  · rw [show added = listeners from if_pos known]
    exact ⟨List.prefix_refl _, distinct⟩
  · rw [show added = listeners ++ [listener] from if_neg known]
    constructor
    · exact List.prefix_append _ _
    · rw [List.nodup_append']
      refine ⟨distinct, List.nodup_singleton _, ?_⟩
      intro other earlier here
      rw [List.mem_singleton.mp here] at earlier
      exact known earlier

/-- Other listeners come and go. -/
theorem Served.relist {record next : Record} {plane other : Plane}
    {first : Nat} (served : Served record plane first)
    (opened : plane.closeInfo = other.closeInfo)
    (early : other.earlyMessages = [])
    (distinct : other.messageListeners.Nodup)
    (flush : next.flush = record.flush) (arrived : next.arrived = record.arrived)
    (delivered : next.delivered = record.delivered)
    (kept : next.removed = false → record.removed = false ∧
      (plane.messageListeners.head? = some first →
        other.messageListeners.head? = some first)) :
    Served next other first where
  early := early
  flush listener queued queue := by
    rw [flush] at queue
    rw [← opened]
    exact served.flush listener queued queue
  distinct := distinct
  listening unremoved open_ := by
    obtain ⟨unremoved, stays⟩ := kept unremoved
    rw [← opened] at open_
    exact stays (served.listening unremoved open_)
  complete unremoved := by
    obtain ⟨unremoved, stays⟩ := kept unremoved
    have complete := served.complete unremoved
    have same : next.received first = record.received first := by
      rw [Record.received, Record.received, delivered]
    rw [arrived]
    cases queue : record.flush with
    | none =>
        rw [Record.drained_idle queue] at complete
        rw [Record.drained_idle (flush.trans queue), same]
        exact complete
    | some entry =>
        obtain ⟨listener, queued⟩ := entry
        obtain ⟨rfl, open_⟩ := served.flush listener queued queue
        have listening := served.listening unremoved open_
        have before : record.drained (some plane) =
            record.runFlush (some plane) listener queued none := by
          rw [Record.drained, queue]
        have now : next.drained (some other) =
            next.runFlush (some other) listener queued none := by
          rw [Record.drained, flush, queue]
        rw [before, received_runFlush listening open_] at complete
        rw [now, received_runFlush (stays listening) (opened ▸ open_), same]
        exact complete

/-- The first listener takes over what has been kept for it. -/
theorem Untouched.serve {record : Record} {plane other : Plane} {first : Nat}
    (untouched : Untouched record plane.earlyMessages)
    (opened : other.closeInfo = false) (early : other.earlyMessages = [])
    (distinct : other.messageListeners.Nodup)
    (listening : other.messageListeners.head? = some first) :
    Served { record with
      flush := if plane.earlyMessages = [] then record.flush
        else some (first, plane.earlyMessages)
      firstListener := record.firstListener.or (some first) } other first := by
  by_cases none : plane.earlyMessages = []
  · simp only [none, if_true]
    refine ⟨early, ?_, distinct, fun _ _ => listening, ?_⟩
    · intro listener queued queue
      cases untouched.flush.symm.trans queue
    · intro _
      simp only [Record.drained, untouched.flush, Record.received,
        untouched.delivered, untouched.arrived, none]
      rfl
  · simp only [none, if_false]
    refine ⟨early, ?_, distinct, fun _ _ => listening, ?_⟩
    · intro listener queued queue
      cases queue
      exact ⟨rfl, opened⟩
    · intro _
      refine (received_runFlush listening opened).trans ?_
      simp only [Record.received, untouched.delivered, untouched.arrived]
      rfl

theorem onMessage_invariant {plane : Plane} {listener : Nat}
    (shape : connection.phase = .returned plane)
    (invariant : connection.Invariant) :
    (connection.onMessage plane listener).Invariant := by
  obtain ⟨socket, phase, record⟩ := connection
  cases shape
  unfold onMessage
  by_cases known : plane.closeInfo = true
  · simp only [known, if_true]
    exact invariant
  · have opened : plane.closeInfo = false := eq_false_of_ne_true known
    rw [if_neg known]
    right
    rcases invariant with ⟨untouched, unheard⟩ | ⟨first, heard, served⟩
    · have empty : plane.messageListeners.Nodup := by
        rw [unheard]
        exact List.nodup_nil
      have added := prefix_added listener empty
      refine ⟨listener, ?_, untouched.serve opened rfl added.2 ?_⟩
      · have unheard : record.firstListener = none := untouched.listener
        simp only [unheard]
        rfl
      · simp [unheard]
    · have added := prefix_added listener served.distinct
      refine ⟨first, ?_, served.relist rfl rfl added.2 ?_ rfl rfl ?_⟩
      · have heard : record.firstListener = some first := heard
        simp only [heard]
        rfl
      · simp only [served.early, if_true]
      · intro unremoved
        refine ⟨unremoved, fun head => ?_⟩
        obtain ⟨rest, same⟩ := added.1
        rw [← same, List.head?_append, head]
        rfl

theorem removeListener_invariant {plane : Plane} {listener : Nat}
    (shape : connection.phase = .returned plane)
    (invariant : connection.Invariant) :
    (connection.removeListener plane listener).Invariant := by
  obtain ⟨socket, phase, record⟩ := connection
  cases shape
  rcases invariant with ⟨untouched, unheard⟩ | ⟨first, heard, served⟩
  · left
    have unheardRecord : record.firstListener = none := untouched.listener
    have unremoved : record.removed = false := untouched.removed
    refine ⟨{ untouched with removed := ?_ }, ?_⟩
    · show (record.removed || decide (record.firstListener = some listener)) =
        false
      rw [unheardRecord, unremoved]
      rfl
    · show plane.messageListeners.erase listener = []
      rw [unheard]
      rfl
  · right
    refine ⟨first, heard, served.relist rfl served.early
      (served.distinct.erase _) rfl rfl rfl ?_⟩
    intro unremoved
    have unremoved : (record.removed ||
        decide (record.firstListener = some listener)) = false := unremoved
    rw [Bool.or_eq_false_iff, decide_eq_false_iff_not] at unremoved
    refine ⟨unremoved.1, ?_⟩
    intro head
    have other : first ≠ listener := by
      rintro rfl
      exact unremoved.2 heard
    cases listeners : plane.messageListeners with
    | nil =>
        rw [listeners] at head
        cases head
    | cons _ rest =>
        rw [listeners] at head
        cases head
        simp [other]

theorem runFlush_frame (record : Record) (plane : Option Plane)
    (listener : Nat) (queued : List Frame) (throws : Option Nat) :
    let ran := record.runFlush plane listener queued throws
    ran.flush = none ∧ ran.firstListener = record.firstListener ∧
      ran.arrived = record.arrived ∧ ran.removed = record.removed := by
  unfold Record.runFlush
  split
  · exact ⟨rfl, rfl, rfl, rfl⟩
  · simp only
    split
    · exact ⟨rfl, rfl, rfl, rfl⟩
    · exact ⟨rfl, rfl, rfl, rfl⟩

/-- A listener that throws at the last frame has been called with all. -/
theorem runFlush_late {record : Record} {plane : Option Plane} {listener : Nat}
    {queued : List Frame} {throws : Option Nat}
    (late : ∀ index ∈ throws, queued.length ≤ index + 1) :
    record.runFlush plane listener queued throws =
      record.runFlush plane listener queued none := by
  cases throws with
  | none => rfl
  | some index =>
      have all : handed (some index) queued = queued :=
        List.take_of_length_le (late index rfl)
      unfold Record.runFlush
      rw [all]
      rfl

theorem Served.flushed {record : Record} {plane : Plane} {first listener : Nat}
    {queued : List Frame} (served : Served record plane first)
    (queue : record.flush = some (listener, queued)) :
    Served (record.runFlush (some plane) listener queued none) plane first := by
  obtain ⟨flush, _, arrived, removed⟩ :=
    runFlush_frame record (some plane) listener queued none
  refine ⟨served.early, ?_, served.distinct, ?_, ?_⟩
  · intro other frames pending
    cases flush.symm.trans pending
  · rw [removed]
    exact served.listening
  · rw [removed, arrived]
    intro kept
    have complete := served.complete kept
    rw [Record.drained, queue] at complete
    rw [Record.drained_idle flush]
    exact complete

theorem flush_invariant {listener : Nat} {queued : List Frame}
    {throws : Option Nat}
    (queue : connection.record.flush = some (listener, queued))
    (orderly : connection.Orderly (.flush throws))
    (invariant : connection.Invariant) :
    Invariant { connection with
      record := connection.record.runFlush connection.phase.plane? listener
        queued throws } := by
  have late : ∀ index ∈ throws, queued.length ≤ index + 1 := by
    rintro index rfl
    exact orderly listener queued queue
  rw [runFlush_late late]
  obtain ⟨socket, phase, record⟩ := connection
  cases phase with
  | handshake openedOk early bytes => cases invariant.flush.symm.trans queue
  | ready early => cases invariant.flush.symm.trans queue
  | constructed plane => cases invariant.1.flush.symm.trans queue
  | failed => exact invariant
  | returned plane =>
      rcases invariant with unheard | ⟨first, heard, served⟩
      · cases unheard.1.flush.symm.trans queue
      · right
        refine ⟨first, ?_, served.flushed queue⟩
        rw [← heard]
        exact (runFlush_frame record _ listener queued none).2.1

theorem step_invariant {event : Event} (invariant : connection.Invariant)
    (closes : connection.Closes) (orderly : connection.Orderly event)
    (stepped : connection.step event = some after) : after.Invariant := by
  cases event with
  | opened accepted =>
      obtain ⟨socket, phase, record⟩ := connection
      simp only [step] at stepped
      split at stepped
      · cases stepped
      · cases phase with
        | handshake openedOk early bytes =>
            simp only at stepped
            split at stepped
            · cases stepped
              exact invariant
            · cases stepped
              exact failed_invariant invariant.listener
        | ready early => cases stepped; exact invariant
        | constructed plane => cases stepped; exact invariant
        | returned plane => cases stepped; exact invariant
        | failed => cases stepped; exact invariant
  | message data throws =>
      simp only [step] at stepped
      split at stepped
      · cases stepped
      · rename_i open_
        cases stepped
        exact message_invariant invariant closes orderly open_
  | error =>
      cases stepped
      exact failHandshake_invariant invariant
  | closed =>
      simp only [step] at stepped
      split at stepped
      · cases stepped
      · cases stepped
        exact closed_invariant invariant orderly
  | timeout =>
      cases stepped
      exact failHandshake_invariant invariant
  | abort =>
      cases stepped
      exact failHandshake_invariant invariant
  | continueHandshake =>
      simp only [step] at stepped
      split at stepped
      · rename_i early shape
        cases stepped
        rw [Invariant, shape] at invariant
        exact construct_invariant invariant
      · cases stepped
  | continueConnect =>
      simp only [step] at stepped
      split at stepped
      · rename_i plane shape
        cases stepped
        rw [Invariant, shape] at invariant
        exact handOver_invariant invariant.1 invariant.2
      · cases stepped
  | onMessage listener =>
      simp only [step] at stepped
      split at stepped
      · rename_i plane shape
        cases stepped
        exact onMessage_invariant shape invariant
      · cases stepped
  | removeListener listener =>
      simp only [step] at stepped
      split at stepped
      · rename_i plane shape
        cases stepped
        exact removeListener_invariant shape invariant
      · cases stepped
  | flush throws =>
      obtain ⟨⟨listener, queued⟩, queue, rfl⟩ :=
        Option.map_eq_some_iff.mp stepped
      exact flush_invariant queue orderly invariant
  | close =>
      simp only [step] at stepped
      split at stepped
      · cases stepped
        exact invariant
      · cases stepped

theorem closes_of_none (nothing : connection.phase.plane? = none) :
    connection.Closes := by
  intro plane shape
  cases nothing.symm.trans shape

/-- The data plane is the same and a closed socket has stayed closed. -/
theorem Closes.keep (closes : connection.Closes)
    (phase : after.phase.plane? = connection.phase.plane?)
    (stays : connection.socket.readyState = .closed →
      after.socket.readyState = .closed) : after.Closes := by
  intro plane shape known
  rw [phase] at shape
  exact stays (closes plane shape known)

theorem closeOpen_closed {socket : Socket}
    (closed : socket.readyState = .closed) :
    socket.closeOpen.readyState = .closed := by
  unfold Socket.closeOpen
  rw [if_neg (by rw [closed]; decide)]
  exact closed

theorem failHandshake_closes (closes : connection.Closes) :
    connection.failHandshake.Closes := by
  unfold failHandshake
  split
  · exact closes_of_none rfl
  · exact closes

theorem planeMessage_closes {plane : Plane} {data : Data} {throws : List Nat}
    (closes : connection.Closes) :
    (connection.planeMessage plane data throws).Closes := by
  unfold planeMessage
  split
  · exact closes.keep rfl closeOpen_closed
  · split
    · exact closes.keep rfl closeOpen_closed
    · exact closes

theorem message_closes {data : Data} {throws : List Nat}
    (closes : connection.Closes) :
    (connection.message data throws).Closes := by
  obtain ⟨socket, phase, record⟩ := connection
  cases phase with
  | handshake openedOk early bytes =>
      apply closes_of_none
      simp only [message, handshakeMessage]
      split
      · rfl
      · split
        · rfl
        · split
          · rfl
          · split <;> rfl
  | ready early => exact closes
  | constructed plane => exact planeMessage_closes closes
  | returned plane => exact planeMessage_closes closes
  | failed => exact closes

theorem closed_closes : connection.closed.Closes := by
  intro plane shape _
  obtain ⟨socket, phase, record⟩ := connection
  cases phase with
  | handshake openedOk early bytes => cases shape
  | ready early => cases shape
  | constructed other => rfl
  | returned other => rfl
  | failed => cases shape

theorem construct_closes {early : List Frame} :
    (connection.construct early).Closes := by
  unfold construct
  split_ifs
  · exact closes_of_none rfl
  · exact closes_of_none rfl
  · exact closes_of_none rfl
  · intro plane shape known
    cases shape
    cases known

theorem handOver_closes {plane : Plane}
    (shape : connection.phase = .constructed plane)
    (closes : connection.Closes) : (connection.handOver plane).Closes := by
  unfold handOver
  split_ifs
  · exact closes_of_none rfl
  · exact closes_of_none rfl
  · exact closes.keep (by rw [shape]; rfl) id

theorem onMessage_closes {plane : Plane} {listener : Nat}
    (closes : connection.Closes) :
    (connection.onMessage plane listener).Closes := by
  unfold onMessage
  by_cases known : plane.closeInfo = true
  · rw [if_pos known]
    exact closes
  · rw [if_neg known]
    intro other shape same
    cases shape
    exact absurd same known

theorem removeListener_closes {plane : Plane} {listener : Nat}
    (shape : connection.phase = .returned plane)
    (closes : connection.Closes) :
    (connection.removeListener plane listener).Closes := by
  intro other same known
  cases same
  exact closes plane (by rw [shape]; rfl) known

theorem step_closes {event : Event} (closes : connection.Closes)
    (stepped : connection.step event = some after) : after.Closes := by
  cases event with
  | opened accepted =>
      simp only [step] at stepped
      split at stepped
      · cases stepped
      · rename_i connecting
        have connecting := not_not.mp connecting
        have closed : connection.socket.readyState ≠ .closed := by
          rw [connecting]
          decide
        split at stepped
        · split at stepped
          · cases stepped
            exact closes_of_none rfl
          · cases stepped
            exact closes_of_none rfl
        · cases stepped
          exact closes.keep rfl (fun same => absurd same closed)
  | message data throws =>
      simp only [step] at stepped
      split at stepped
      · cases stepped
      · cases stepped
        exact message_closes (closes.keep rfl id)
  | error =>
      cases stepped
      exact failHandshake_closes closes
  | closed =>
      simp only [step] at stepped
      split at stepped
      · cases stepped
      · cases stepped
        exact closed_closes
  | timeout =>
      cases stepped
      exact failHandshake_closes closes
  | abort =>
      cases stepped
      exact failHandshake_closes (closes.keep rfl id)
  | continueHandshake =>
      simp only [step] at stepped
      split at stepped
      · cases stepped
        exact construct_closes
      · cases stepped
  | continueConnect =>
      simp only [step] at stepped
      split at stepped
      · rename_i plane shape
        cases stepped
        exact handOver_closes shape closes
      · cases stepped
  | onMessage listener =>
      simp only [step] at stepped
      split at stepped
      · cases stepped
        exact onMessage_closes closes
      · cases stepped
  | removeListener listener =>
      simp only [step] at stepped
      split at stepped
      · rename_i plane shape
        cases stepped
        exact removeListener_closes shape closes
      · cases stepped
  | flush throws =>
      obtain ⟨⟨listener, queued⟩, _, rfl⟩ := Option.map_eq_some_iff.mp stepped
      exact closes.keep rfl id
  | close =>
      simp only [step] at stepped
      split at stepped
      · cases stepped
        exact closes.keep rfl closeOpen_closed
      · cases stepped

end Steps

/-! ## Whole runs -/

theorem Reached.closes {condition : Connection → Event → Prop}
    {connection : Connection} (reached : Reached condition connection) :
    connection.Closes := by
  induction reached with
  | initial => exact closes_of_none rfl
  | step _ _ _ stepped induction => exact step_closes induction stepped

/-- A run in which frames come before the relay is ready, or after the first
listener and its microtask, loses nothing, unless the listener throws in it. -/
theorem orderly_losesNothing {connection : Connection}
    (reached : Reached Orderly connection) : connection.LosesNothing := by
  apply invariant_losesNothing
  induction reached with
  | initial => exact initial_invariant
  | step earlier _ orderly stepped induction =>
      exact step_invariant induction earlier.closes orderly stepped

/-- A frame before the relay is ready, at which the listener throws, and a frame
after the microtask. -/
theorem orderly_sample : ∃ connection, Reached Orderly connection ∧
    connection.record.delivered =
      [(0, .binary [1]), (0, .binary [2])] ∧
    connection.LosesNothing := by
  have opened : Reached Orderly
      ⟨⟨.opened, true, false⟩, .handshake true [] 0, ⟨none, [], [], none, false⟩⟩ :=
    Reached.initial.step (.opened true) trivial rfl
  have early : Reached Orderly
      ⟨⟨.opened, true, false⟩, .handshake true [.binary [1]] 1,
        ⟨none, [.binary [1]], [], none, false⟩⟩ :=
    opened.step (.message (.frame (.binary [1])) [])
      (fun _ => trivial) rfl
  have ready : Reached Orderly
      ⟨⟨.opened, true, false⟩, .ready [.binary [1]],
        ⟨none, [.binary [1]], [], none, false⟩⟩ :=
    early.step (.message (.frame relayReady) [])
      (fun other => absurd rfl other) rfl
  have constructed : Reached Orderly
      ⟨⟨.opened, true, false⟩, .constructed ⟨[.binary [1]], [], false⟩,
        ⟨none, [.binary [1]], [], none, false⟩⟩ :=
    ready.step (.continueHandshake) trivial rfl
  have returned : Reached Orderly
      ⟨⟨.opened, true, false⟩, .returned ⟨[.binary [1]], [], false⟩,
        ⟨none, [.binary [1]], [], none, false⟩⟩ :=
    constructed.step (.continueConnect) trivial rfl
  have heard : Reached Orderly
      ⟨⟨.opened, true, false⟩, .returned ⟨[], [0], false⟩,
        ⟨some (0, [.binary [1]]), [.binary [1]], [], some 0, false⟩⟩ :=
    returned.step (.onMessage 0) trivial rfl
  have flushed : Reached Orderly
      ⟨⟨.opened, true, false⟩, .returned ⟨[], [0], false⟩,
        ⟨none, [.binary [1]], [(0, .binary [1])], some 0, false⟩⟩ :=
    heard.step (.flush (some 0)) (fun _ _ queue => by cases queue; decide) rfl
  have later : Reached Orderly
      ⟨⟨.opened, true, false⟩, .returned ⟨[], [0], false⟩,
        ⟨none, [.binary [1], .binary [2]],
          [(0, .binary [1]), (0, .binary [2])], some 0, false⟩⟩ :=
    flushed.step (.message (.frame (.binary [2])) [0])
      (fun _ => ⟨by simp, rfl⟩) rfl
  exact ⟨_, later, rfl, orderly_losesNothing later⟩

/-- A frame that arrives before the application has called `onMessage`. -/
theorem frame_lost : ∃ connection, Reached (fun _ _ => True) connection ∧
    ¬connection.LosesNothing := by
  have opened : Reached (fun _ _ => True)
      ⟨⟨.opened, true, false⟩, .handshake true [] 0, ⟨none, [], [], none, false⟩⟩ :=
    Reached.initial.step (.opened true) trivial rfl
  have ready : Reached (fun _ _ => True)
      ⟨⟨.opened, true, false⟩, .ready [], ⟨none, [], [], none, false⟩⟩ :=
    opened.step (.message (.frame relayReady) []) trivial rfl
  have constructed : Reached (fun _ _ => True)
      ⟨⟨.opened, true, false⟩, .constructed ⟨[], [], false⟩,
        ⟨none, [], [], none, false⟩⟩ :=
    ready.step (.continueHandshake) trivial rfl
  have returned : Reached (fun _ _ => True)
      ⟨⟨.opened, true, false⟩, .returned ⟨[], [], false⟩,
        ⟨none, [], [], none, false⟩⟩ :=
    constructed.step (.continueConnect) trivial rfl
  have arrived : Reached (fun _ _ => True)
      ⟨⟨.opened, true, false⟩, .returned ⟨[], [], false⟩,
        ⟨none, [.binary [1]], [], none, false⟩⟩ :=
    returned.step (.message (.frame (.binary [1])) []) trivial rfl
  have heard : Reached (fun _ _ => True)
      ⟨⟨.opened, true, false⟩, .returned ⟨[], [0], false⟩,
        ⟨none, [.binary [1]], [], some 0, false⟩⟩ :=
    arrived.step (.onMessage 0) trivial rfl
  refine ⟨_, heard, ?_⟩
  intro delivered
  have lost := delivered 0 rfl rfl
  cases lost

end Connection

end Sdk

end GpuLink
