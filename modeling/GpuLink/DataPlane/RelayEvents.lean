import GpuLink.DataPlane.Relay
import GpuLink.Library.Machine

/-!
# Everything that happens to the relay

The events of the relay: sockets, timers, answers of the service, notifications
and shutdown.  Each runs one handler to its end, or to its next await.
-/

namespace GpuLink

open DataPlane Service

namespace Relay

inductive Event where
  /-- The HTTP server hands over an upgrade request. -/
  | upgrade (socket : Nat) (request : UpgradeRequest)
  /-- The calls that the upgrade awaits have come back. -/
  | upgraded (socket : Nat) (client worker : Answer) (destroyed : Bool)
  | granted (entry : Nat) (role : Role) (answer : Answer)
  /-- `tryPair` goes on after both grants. -/
  | authorized (entry : Nat)
  | activated (entry : Nat) (accepted : Bool)
  /-- `tryPair` goes on after `activateSession`. -/
  | proceeded (entry : Nat)
  | message (socket : Nat) (frame : Frame) (bufferedAmount : Nat)
  /-- A ping or a pong. -/
  | alive (socket : Nat)
  | sendFailed (socket : Nat) (readiness : Bool)
  /-- The peer has begun to close. -/
  | closing (socket : Nat)
  | errored (socket : Nat)
  | close (socket : Nat)
  | peerTimeout (socket : Nat)
  | idleTimeout (socket : Nat)
  | notified
  | looked (role : Role) (answer : Answer)
  /-- `revalidatePairs` goes on after the calls for an entry. -/
  | revalidated
  | settled
  | stop
  /-- `stop` goes on after `unsubscribe` and the revalidation. -/
  | shutDown
  /-- The last part of `stop`. -/
  | terminate

/-- `Promise.all` of two calls. -/
inductive Both where
  | pending
  | rejected
  | fulfilled (client worker : Option Authorization)

def promiseAll (client worker : Option Answer) : Both :=
  match client, worker with
  | some .rejected, _ => .rejected
  | _, some .rejected => .rejected
  | some (.answered client), some (.answered worker) =>
      .fulfilled client worker
  | _, _ => .pending

/-- The answers with one more. -/
def answer (client worker : Option Answer) (role : Role) (reply : Answer) :
    Option (Option Answer × Option Answer) :=
  match role, client, worker with
  | .client, none, worker => some (some reply, worker)
  | .worker, client, none => some (client, some reply)
  | _, _, _ => none

def setPairing (relay : Relay) (id : Nat) (pairing : Pairing) : Relay :=
  { relay with pairings := Function.update relay.pairings id (some pairing) }

def isConnected (relay : Relay) (socket : Nat) : Bool :=
  relay.readyStates socket = some .OPEN ||
    relay.readyStates socket = some .CLOSING

/-- An open socket is closing; others are as they were. -/
def beginClosing (relay : Relay) (socket : Nat) : Relay :=
  if relay.readyStates socket = some .OPEN then
    { relay with
      readyStates := Function.update relay.readyStates socket (some .CLOSING) }
  else relay

/-- `stop` from the loop over the pairs on. -/
def shutDown (relay : Relay) : Relay :=
  relay.pairs.foldl (fun relay pair =>
    relay.closeEntry pair.2 .TRY_AGAIN_LATER "relay shutting down") relay

/-- Every socket that is not closed is terminated. -/
def terminate (relay : Relay) : Relay :=
  { relay with
    readyStates := fun socket =>
      if relay.readyStates socket = some .OPEN then some .CLOSING
      else relay.readyStates socket
    pairs := [] }

/-- A number that no connection has had. -/
def isFresh (relay : Relay) (socket : Nat) : Bool :=
  (relay.upgrades socket).isNone && (relay.readyStates socket).isNone

def stepPairing (relay : Relay) (id : Nat) : Option Relay :=
  match relay.entries id, relay.pairings id with
  | some entry, some pairing =>
      match pairing.stage with
      | .authorizing client worker =>
          match promiseAll client worker with
          | .pending => none
          | .rejected => some (relay.refusePairing id)
          | .fulfilled client worker =>
              some (relay.resumePairing id entry pairing client worker)
      | .activating _ _ _ => none
  | _, _ => none

def stepActivation (relay : Relay) (id : Nat) : Option Relay :=
  match relay.pairings id with
  | some ⟨_, _, .activating client worker (some accepted)⟩ =>
      if accepted then some (relay.activate id client worker)
      else some (relay.refusePairing id)
  | _ => none

def stepRevalidation (relay : Relay) : Option Relay :=
  match relay.revalidation with
  | some ⟨some (id, client, worker), rest⟩ =>
      match promiseAll client worker with
      | .pending => none
      | .rejected => some relay.failRevalidation
      | .fulfilled client worker =>
          some (relay.resumeRevalidation id rest client worker)
  | _ => none

/-- What the relay does on an event; `none` where the event cannot come. -/
def step (relay : Relay) : Event → Option Relay
  | .upgrade socket request =>
      if relay.isFresh socket then some (relay.handleUpgrade socket request)
      else none
  | .upgraded socket client worker destroyed =>
      (relay.upgrades socket).map (fun offer =>
        relay.completeUpgrade socket offer (authorizeGrant client worker)
          destroyed)
  | .granted id role reply =>
      match relay.pairings id with
      | some ⟨client, worker, .authorizing first second⟩ =>
          (answer first second role reply).map (fun answers =>
            relay.setPairing id
              ⟨client, worker, .authorizing answers.1 answers.2⟩)
      | _ => none
  | .authorized id => relay.stepPairing id
  | .activated id accepted =>
      match relay.pairings id with
      | some ⟨client, worker, .activating first second none⟩ =>
          some (relay.setPairing id
            ⟨client, worker, .activating first second (some accepted)⟩)
      | _ => none
  | .proceeded id => relay.stepActivation id
  | .message socket frame bufferedAmount =>
      if relay.isConnected socket then
        some (relay.handleMessage socket frame bufferedAmount)
      else none
  | .alive socket =>
      if relay.isConnected socket then some (relay.resetIdleTimer socket)
      else none
  | .sendFailed socket readiness =>
      (relay.states socket).map (fun state =>
        relay.closeEntry state.entry .INTERNAL_ERROR
          (if readiness then "relay readiness send failed"
          else "relay send failed"))
  | .closing socket =>
      if relay.readyStates socket = some .OPEN then
        some (relay.beginClosing socket)
      else none
  | .errored socket =>
      if relay.isConnected socket then
        (relay.states socket).map (fun state =>
          (relay.beginClosing socket).closeEntry state.entry .INTERNAL_ERROR
            "relay socket error")
      else none
  | .close socket =>
      if relay.isConnected socket then some (relay.handleSocketClose socket)
      else none
  | .peerTimeout socket =>
      (relay.states socket).bind (fun state =>
        if state.peerTimer then some (relay.peerTimeout socket state) else none)
  | .idleTimeout socket =>
      (relay.states socket).bind (fun state =>
        if state.idleTimer then some (relay.idleTimeout socket state) else none)
  | .notified => some relay.scheduleRevalidation
  | .looked role reply =>
      match relay.revalidation with
      | some ⟨some (id, first, second), rest⟩ =>
          (answer first second role reply).map (fun answers =>
            { relay with
              revalidation := some ⟨some (id, answers.1, answers.2), rest⟩ })
      | _ => none
  | .revalidated => relay.stepRevalidation
  | .settled =>
      match relay.revalidation with
      | some ⟨none, _⟩ => some relay.settleRevalidation
      | _ => none
  | .stop => if relay.closed then none else some { relay with closed := true }
  | .shutDown =>
      if relay.closed && relay.revalidation.isNone then some relay.shutDown
      else none
  | .terminate =>
      if relay.closed && relay.revalidation.isNone && relay.pairs.isEmpty then
        some relay.terminate
      else none

def machine : Machine Relay Event where
  initial := initial
  step := step

/-! ## Small runs -/

def sampleId : BoundedString 200 := ⟨"session", by decide⟩

def sampleSession (id : BoundedString 200) (status : SessionStatus) :
    Session where
  id := id.1
  schemaVersion := 1
  projectId := "project"
  capability := "asr.session"
  priority := 0
  status := status
  requirements := ⟨1, 0, [], none, none⟩
  metadata := .null
  recovery := ⟨0⟩
  interruptionCount := 0
  assignedWorkerId := some "worker"
  assignedGpuUuid := none
  leaseId := some "lease"
  leaseExpiresAt := some 60000
  idempotencyKey := none
  createdAt := 0
  updatedAt := 0

def sampleAuthorization (id : BoundedString 200) (status : SessionStatus)
    (role : Role) : Authorization where
  claims :=
    { role := role
      sessionId := id
      workerId := ⟨"worker", by decide⟩
      leaseId := ⟨"lease", by decide⟩
      issuedAt := ⟨3000, by decide⟩
      expiresAt := ⟨18000, by decide⟩
      nonce := ⟨"grant", by decide⟩
      ordered := by decide
      bounded := by decide }
  session := sampleSession id status

def sampleRequest (protocol : Subprotocol) : UpgradeRequest where
  url := some ("/v1/data-plane", "")
  protocols := some (protocol.text ++ ",gpulink.grant.gdp1.a.b")

/-- The two sockets of a session connect. -/
def connectPair (client worker : Nat) (protocol : Subprotocol)
    (id : BoundedString 200) (status : SessionStatus) : List Event :=
  [.upgrade client (sampleRequest protocol),
    .upgraded client
      (.answered (some (sampleAuthorization id status .client)))
      .rejected false,
    .upgrade worker (sampleRequest protocol),
    .upgraded worker (.answered none)
      (.answered (some (sampleAuthorization id status .worker))) false]

/-- Their grants are authorized again. -/
def grantPair (entry : Nat) (id : BoundedString 200) (status : SessionStatus) :
    List Event :=
  [.granted entry .client
      (.answered (some (sampleAuthorization id status .client))),
    .granted entry .worker
      (.answered (some (sampleAuthorization id status .worker)))]

end Relay

end GpuLink
