import GpuLink.DataPlane.RelayActivation

/-!
# The relay and what the service reads

Transactions commit and time passes while the relay waits.  A call of the
service is answered from the store and the clock as they were at some moment
since it was made.
-/

namespace GpuLink

open DataPlane Service

namespace Relay

/-! ## The flags -/

/-- That a further pass is due, and that the relay is being stopped. -/
def flags (relay : Relay) : Bool × Bool :=
  (relay.revalidationPending, relay.closed)

section Flags

variable (relay : Relay)

@[simp] theorem emit_flags (effect : Effect) :
    (relay.emit effect).flags = relay.flags := rfl

@[simp] theorem setEntry_flags (id : Nat) (entry : Entry) :
    (relay.setEntry id entry).flags = relay.flags := rfl

@[simp] theorem modifyState_flags (socket : Nat)
    (change : PeerState → PeerState) :
    (relay.modifyState socket change).flags = relay.flags := rfl

@[simp] theorem setPairing_flags (id : Nat) (pairing : Pairing) :
    (relay.setPairing id pairing).flags = relay.flags := rfl

@[simp] theorem finishPairing_flags (id : Nat) :
    (relay.finishPairing id).flags = relay.flags := rfl

@[simp] theorem closeSocket_flags (socket : Nat) (code : CloseCode)
    (reason : String) :
    (relay.closeSocket socket code reason).flags = relay.flags := by
  unfold closeSocket
  split_ifs
  · rfl
  · rfl

@[simp] theorem closeState_flags (code : CloseCode) (reason : String)
    (state : Option Nat) :
    (closeState code reason relay state).flags = relay.flags := by
  cases state with
  | none => rfl
  | some socket =>
      rw [closeState, closeSocket_flags]
      rfl

@[simp] theorem closeEntry_flags (id : Nat) (code : CloseCode)
    (reason : String) :
    (relay.closeEntry id code reason).flags = relay.flags := by
  unfold closeEntry
  split
  · rfl
  · split_ifs
    · rfl
    · rw [List.foldl_cons, List.foldl_cons, List.foldl_nil, closeState_flags,
        closeState_flags]
      rfl

@[simp] theorem handleSocketClose_flags (socket : Nat) :
    (relay.handleSocketClose socket).flags = relay.flags := by
  unfold handleSocketClose
  simp only
  split
  · rfl
  · split
    · rfl
    · split_ifs
      · rfl
      · split
        · rw [closeEntry_flags]
          rfl
        · rfl
      · split
        · rw [closeEntry_flags]
          rfl
        · rfl

@[simp] theorem beginClosing_flags (socket : Nat) :
    (relay.beginClosing socket).flags = relay.flags := by
  unfold beginClosing
  split_ifs
  · rfl
  · rfl

@[simp] theorem resetIdleTimers_flags (entry : Entry) :
    (relay.resetIdleTimers entry).flags = relay.flags := by
  unfold resetIdleTimers
  rw [List.foldl_cons, List.foldl_cons, List.foldl_nil]
  split
  · split
    · rfl
    · rfl
  · split
    · rfl
    · rfl

@[simp] theorem peerTimeout_flags (socket : Nat) (state : PeerState) :
    (relay.peerTimeout socket state).flags = relay.flags := by
  unfold peerTimeout
  simp only
  split
  · rfl
  · split_ifs
    · rfl
    · rw [closeEntry_flags]
      rfl

@[simp] theorem idleTimeout_flags (socket : Nat) (state : PeerState) :
    (relay.idleTimeout socket state).flags = relay.flags := by
  unfold idleTimeout
  rw [closeEntry_flags]
  rfl

@[simp] theorem tryPair_flags (id : Nat) :
    (relay.tryPair id).flags = relay.flags := by
  rcases tryPair_cases relay id with same | ⟨_, _, _, _, _, _, _, _, _, begun⟩
  · rw [same]
  · rw [begun]
    rfl

@[simp] theorem announce_flags (id : Nat) (sockets : List Nat) :
    (relay.announce id sockets).flags = relay.flags := by
  rw [announce_eq]
  split_ifs
  · rfl
  · rw [closeEntry_flags]
    rfl

@[simp] theorem activate_flags (id : Nat)
    (clientAuthorization workerAuthorization : Authorization) :
    (relay.activate id clientAuthorization workerAuthorization).flags =
      relay.flags := by
  unfold activate
  split
  · rfl
  · split_ifs
    · rfl
    · simp only
      split
      · rw [finishPairing_flags, announce_flags, emit_flags,
          resetIdleTimers_flags]
        rfl
      · rw [finishPairing_flags, closeEntry_flags]
        rfl

@[simp] theorem refusePairing_flags (id : Nat) :
    (relay.refusePairing id).flags = relay.flags := by
  rw [refusePairing, finishPairing_flags, closeEntry_flags]

@[simp] theorem resumePairing_flags (id : Nat) (entry : Entry)
    (pairing : Pairing) (client worker : Option Authorization) :
    (relay.resumePairing id entry pairing client worker).flags =
      relay.flags := by
  unfold resumePairing
  split_ifs
  · exact relay.refusePairing_flags id
  · split
    · split_ifs
      · rfl
      · rw [finishPairing_flags, closeEntry_flags]
      · exact relay.activate_flags id _ _
    · exact relay.refusePairing_flags id

@[simp] theorem handleUpgrade_flags (socket : Nat) (request : UpgradeRequest) :
    (relay.handleUpgrade socket request).flags = relay.flags := by
  unfold handleUpgrade
  split_ifs
  · rfl
  · split
    · rfl
    · rfl

@[simp] theorem acceptConnection_flags (socket : Nat) (offer : ProtocolOffer)
    (authorization : Authorization) :
    (relay.acceptConnection socket offer authorization).flags =
      relay.flags := by
  have made : (relay.entryFor socket authorization.claims).1.flags =
      relay.flags := by
    unfold entryFor
    split
    · rfl
    · rfl
  unfold acceptConnection
  simp only
  split
  · exact made
  · split
    · split_ifs
      · rw [closeSocket_flags, made]
      · rw [tryPair_flags]
        exact made
    · rw [tryPair_flags]
      exact made

@[simp] theorem completeUpgrade_flags (socket : Nat) (offer : ProtocolOffer)
    (authorization : Option Authorization) (destroyed : Bool) :
    (relay.completeUpgrade socket offer authorization destroyed).flags =
      relay.flags := by
  unfold completeUpgrade
  cases authorization with
  | none => rfl
  | some authorization =>
      simp only
      split_ifs
      · rfl
      · rw [acceptConnection_flags]
        rfl

@[simp] theorem handleMessage_flags (socket : Nat) (frame : Frame)
    (bufferedAmount : Nat) :
    (relay.handleMessage socket frame bufferedAmount).flags = relay.flags := by
  unfold handleMessage
  split
  · rfl
  · split
    · split_ifs <;> simp only [closeEntry_flags, emit_flags,
        resetIdleTimers_flags]
    · rw [closeEntry_flags]

@[simp] theorem shutDown_flags : relay.shutDown.flags = relay.flags := by
  unfold shutDown
  generalize relay.pairs = pairs
  induction pairs generalizing relay with
  | nil => rfl
  | cons pair rest induction =>
      rw [List.foldl_cons, induction, closeEntry_flags]

theorem nextEntry_flags (rest : List Nat) :
    (relay.nextEntry rest).flags = relay.flags := by
  unfold nextEntry
  split
  · rfl
  · split
    · rfl
    · rfl

theorem resumeRevalidation_flags (id : Nat) (rest : List Nat)
    (client worker : Option Authorization) :
    (relay.resumeRevalidation id rest client worker).flags = relay.flags := by
  unfold resumeRevalidation
  split
  · rfl
  · split_ifs
    · rw [nextEntry_flags, closeEntry_flags]
    · rw [nextEntry_flags]

end Flags

/-- Only a pass and the shutdown change the flags. -/
theorem step_flags {before after : Relay} {event : Event}
    (taken : before.step event = some after)
    (notRevalidation : event.isRevalidation = false) :
    after.revalidationPending = before.revalidationPending ∧
      (event ≠ .stop → after.closed = before.closed) := by
  have same (flags : after.flags = before.flags) :
      after.revalidationPending = before.revalidationPending ∧
        (event ≠ .stop → after.closed = before.closed) := by
    rw [Relay.flags, Relay.flags, Prod.mk.injEq] at flags
    exact ⟨flags.1, fun _ => flags.2⟩
  cases event with
  | notified | looked | revalidated | settled => cases notRevalidation
  | stop =>
      rw [Relay.step, Option.ite_none_left_eq_some] at taken
      obtain ⟨_, taken⟩ := taken
      cases taken
      exact ⟨rfl, fun other => absurd rfl other⟩
  | upgraded | sendFailed =>
      obtain ⟨_, _, rfl⟩ := Option.map_eq_some_iff.mp taken
      exact same (by simp)
  | upgrade | message | alive | closing | close | shutDown =>
      rw [Relay.step, Option.ite_none_right_eq_some] at taken
      obtain ⟨_, taken⟩ := taken
      cases taken
      exact same (by simp [resetIdleTimer])
  | terminate =>
      rw [Relay.step, Option.ite_none_right_eq_some] at taken
      obtain ⟨_, taken⟩ := taken
      cases taken
      exact same rfl
  | errored =>
      rw [Relay.step, Option.ite_none_right_eq_some] at taken
      obtain ⟨_, taken⟩ := taken
      obtain ⟨_, _, rfl⟩ := Option.map_eq_some_iff.mp taken
      exact same (by simp)
  | peerTimeout | idleTimeout =>
      obtain ⟨_, _, taken⟩ := Option.bind_eq_some_iff.mp taken
      rw [Option.ite_none_right_eq_some] at taken
      obtain ⟨_, taken⟩ := taken
      cases taken
      exact same (by simp)
  | granted =>
      rw [Relay.step] at taken
      split at taken
      · obtain ⟨_, _, rfl⟩ := Option.map_eq_some_iff.mp taken
        exact same (by simp)
      · cases taken
  | activated =>
      rw [Relay.step] at taken
      split at taken
      · cases taken
        exact same (by simp)
      · cases taken
  | authorized =>
      rw [Relay.step, stepPairing] at taken
      split at taken
      · split at taken
        · split at taken
          · cases taken
          · cases taken
            exact same (by simp)
          · cases taken
            exact same (by simp)
        · cases taken
      · cases taken
  | proceeded =>
      rw [Relay.step, stepActivation] at taken
      split at taken
      · split_ifs at taken
        · cases taken
          exact same (by simp)
        · cases taken
          exact same (by simp)
      · cases taken

/-! ## Moments -/

/-- What there is to read at a time. -/
structure Moment where
  store : Store
  now : Int

/-- Of the pass that has begun last: how many moments were over by then, which
entries it is for, and of which of them a call was rejected. -/
structure Pass where
  since : Nat
  entries : List Nat
  rejected : List Nat

/-- The relay, the moments so far, and the pass that has begun last. -/
structure World where
  relay : Relay
  past : List Moment
  present : Moment
  pass : Pass
  /-- How many moments were over when the pairing of an entry began. -/
  begun : Nat → Nat
  /-- No notification has been delivered since the last commit. -/
  owed : Bool

namespace World

inductive Event where
  | relay (event : Relay.Event)
  | committed (store : Store)
  | ticked (now : Int)

/-- The event begins a pass. -/
def begins (relay : Relay) : Relay.Event → Bool
  | .notified => relay.revalidation.isNone && !relay.closed
  | .settled => relay.revalidationPending && !relay.closed
  | _ => false

def track (world : World) (event : Relay.Event) : Pass :=
  if begins world.relay event then
    { since := world.past.length
      entries := world.relay.activeEntries
      rejected := [] }
  else
    match event, world.relay.revalidation with
    | .looked _ .rejected, some ⟨some (id, _, _), _⟩ =>
        { world.pass with rejected := id :: world.pass.rejected }
    | _, _ => world.pass

/-- The world after an event of the relay. -/
def next (world : World) (event : Relay.Event) (after : Relay) : World :=
  { world with
    relay := after
    pass := world.track event
    begun := fun id =>
      if (world.relay.pairings id).isNone then world.past.length
      else world.begun id
    owed := match event with
      | .notified => false
      | _ => world.owed }

/-- There is something else to read. -/
def advance (world : World) (later : Moment) : World :=
  { world with
    past := world.past ++ [world.present]
    present := later }

def step (world : World) : Event → Option World
  | .relay event => (world.relay.step event).map (world.next event)
  | .committed store => some
      { world.advance ⟨store, world.present.now⟩ with owed := true }
  | .ticked now => some (world.advance ⟨world.present.store, now⟩)

/-- The moments from a number of them on. -/
def moments (world : World) (since : Nat) : List Moment :=
  (world.past ++ [world.present]).drop since

end World

/-- The relay of a service with this store and clock at first. -/
def world (first : Moment) : Machine World World.Event where
  initial :=
    { relay := initial
      past := []
      present := first
      pass := ⟨0, [], []⟩
      begun := fun _ => 0
      owed := false }
  step := World.step

/-! ## Answers -/

/-- The session has the allocation of the entry, and its lease has not run
out. -/
def Holds (store : Store) (entry : Entry) (now : Int) : Prop :=
  ∃ row, store.sessions.find? entry.sessionId = some row ∧ row.isOccupying ∧
    row.assignedWorkerId = some entry.workerId ∧
    row.leaseId = some entry.leaseId ∧
    (Database.mapSession row).leaseCurrent now

namespace World

/-- The answer is for these claims; the clock was read at one of the moments,
and the store at one of them. -/
def AnswersFrom (moments : List Moment) (claims : Claims) (role : Role)
    (reply : Answer) : Prop :=
  ∃ asked ∈ moments, ∃ stored ∈ moments,
    reply = .answered (authorization? stored.store claims role asked.now)

/-- A call of the pass is rejected, or answered for the claims of the socket
that has the role in the entry. -/
def Truthful (world : World) : Event → Prop
  | .relay (.looked role reply) => reply = .rejected ∨
      ∃ id first second rest socket state, world.relay.revalidation =
          some ⟨some (id, first, second), rest⟩ ∧
        world.relay.states socket = some state ∧ state.entry = id ∧
        state.role = role ∧
        AnswersFrom (world.moments world.pass.since) state.claims role reply
  | _ => True

/-- From the number of moments on, the session has not had the allocation of
the entry. -/
def Lost (world : World) (since : Nat) (entry : Entry) : Prop :=
  ∀ asked ∈ world.moments since, ∀ stored ∈ world.moments since,
    ¬Holds stored.store entry asked.now

end World

/-! ## Small stores -/

/-- The row of the session that the small runs are about. -/
def sampleRow (id : BoundedString 200) (status : SessionStatus) :
    SessionRow where
  id := id.1
  schemaVersion := 1
  projectId := "project"
  capability := "asr.session"
  priority := 0
  status := status
  gpuCount := 1
  minVramMiB := 0
  requiredCapabilities := []
  requestedModel := none
  requestedAdapter := none
  metadata := .null
  maxInterruptions := 0
  interruptionCount := 0
  assignedWorkerId := some "worker"
  assignedGpuUuid := none
  leaseId := some "lease"
  leaseExpiresAt := some 60000
  idempotencyKey := none
  createdAt := 0
  updatedAt := 0

example (id : BoundedString 200) (status : SessionStatus) :
    Database.mapSession (sampleRow id status) = sampleSession id status := rfl

/-- Active sessions with these names. -/
def sampleStore (ids : List (BoundedString 200)) : Store :=
  { Store.empty with
    sessions := ids.foldl (fun table id =>
      table.put (sampleRow id .active)) .empty }

/-- A time within their leases. -/
def sampleMoment (ids : List (BoundedString 200)) : Moment :=
  ⟨sampleStore ids, 2000⟩

end Relay

end GpuLink
