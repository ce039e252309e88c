import GpuLink.DataPlane.Admission
import Mathlib.Logic.Function.Basic

/-!
# The data-plane relay

One relay with its sockets, its entries and the asynchronous calls under way.
Every stretch of code between two awaits is one handler; what the handlers do
to sockets, and when entries open and close, is written to a log.
-/

namespace GpuLink

open DataPlane Service

namespace Relay

/-- `readyState`; a WebSocket of the server is open from the start. -/
inductive ReadyState where
  | OPEN
  | CLOSING
  | CLOSED
  deriving DecidableEq, Repr

/-- A `state`: what the relay keeps of a socket that it has accepted.  Sockets
and states go by the number of the connection. -/
structure PeerState where
  grant : String
  protocol : Subprotocol
  claims : Claims
  role : Role
  entry : Nat
  peer : Option Nat
  /-- Which timers are set. -/
  peerTimer : Bool
  idleTimer : Bool

/-- An entry goes by the number of the connection that it was made for. -/
structure Entry where
  key : String
  sessionId : String
  workerId : String
  leaseId : String
  client : Option Nat
  worker : Option Nat
  activating : Bool
  active : Bool
  closed : Bool

namespace Entry

/-- `entry[role]` -/
def slot (entry : Entry) : Role → Option Nat
  | .client => entry.client
  | .worker => entry.worker

def setSlot (entry : Entry) (role : Role) (state : Option Nat) : Entry :=
  match role with
  | .client => { entry with client := state }
  | .worker => { entry with worker := state }

end Entry

def otherRole : Role → Role
  | .client => .worker
  | .worker => .client

/-- A message of a socket. -/
structure Frame where
  data : List UInt8
  isBinary : Bool

/-- What a call of the service comes back with. -/
inductive Answer where
  | rejected
  | answered (authorization : Option Authorization)

/-- How far `tryPair` has come. -/
inductive PairingStage where
  | authorizing (client worker : Option Answer)
  | activating (client worker : Authorization) (accepted : Option Bool)

/-- A `tryPair` that waits, and the sockets whose grants it has sent. -/
structure Pairing where
  client : Nat
  worker : Nat
  stage : PairingStage

/-- A `revalidatePairs` that has not settled: the entry whose calls are under
way with their answers so far, and the entries after it. -/
structure Revalidation where
  current : Option (Nat × Option Answer × Option Answer)
  rest : List Nat

inductive Effect where
  | rejected (socket statusCode : Nat) (message : String)
  | destroyed (socket : Nat)
  | socketClosed (socket : Nat) (code : CloseCode) (reason : String)
  | entryClosed (entry : Nat)
  | paired (entry client worker : Nat)
      (clientAuthorization workerAuthorization : Authorization)
  | ready (socket : Nat)
  | forwarded (sender receiver : Nat) (frame : Frame)
  | revalidationFailed

end Relay

open Relay

structure Relay where
  pairs : List (String × Nat)
  entries : Nat → Option Entry
  states : Nat → Option PeerState
  readyStates : Nat → Option ReadyState
  upgrades : Nat → Option ProtocolOffer
  pairings : Nat → Option Pairing
  revalidation : Option Revalidation
  revalidationPending : Bool
  closed : Bool
  log : List Effect

namespace Relay

def initial : Relay where
  pairs := []
  entries _ := none
  states _ := none
  readyStates _ := none
  upgrades _ := none
  pairings _ := none
  revalidation := none
  revalidationPending := false
  closed := false
  log := []

def emit (relay : Relay) (effect : Effect) : Relay :=
  { relay with log := relay.log ++ [effect] }

def setEntry (relay : Relay) (id : Nat) (entry : Entry) : Relay :=
  { relay with entries := Function.update relay.entries id (some entry) }

def modifyState (relay : Relay) (socket : Nat)
    (change : PeerState → PeerState) : Relay :=
  { relay with
    states := Function.update relay.states socket
      ((relay.states socket).map change) }

/-! ## Closing -/

/-- `close` makes an open socket a closing one, and so does `terminate`. -/
def closeSocket (relay : Relay) (socket : Nat) (code : CloseCode)
    (reason : String) : Relay :=
  if relay.readyStates socket = some .OPEN then
    { relay with
      readyStates := Function.update relay.readyStates socket (some .CLOSING)
      log := relay.log ++ [.socketClosed socket code reason] }
  else relay

def clearPeerTimer (relay : Relay) (socket : Nat) : Relay :=
  relay.modifyState socket (fun state => { state with peerTimer := false })

def clearStateTimers (relay : Relay) (socket : Nat) : Relay :=
  relay.modifyState socket (fun state =>
    { state with peerTimer := false, idleTimer := false })

def closeState (code : CloseCode) (reason : String) (relay : Relay)
    (state : Option Nat) : Relay :=
  match state with
  | none => relay
  | some socket => (relay.clearStateTimers socket).closeSocket socket code reason

/-- The entry is marked and leaves the map. -/
def markClosed (relay : Relay) (id : Nat) (entry : Entry) : Relay :=
  { relay with
    entries := Function.update relay.entries id
      (some { entry with closed := true })
    pairs := relay.pairs.filter (fun pair => pair.1 ≠ entry.key)
    log := relay.log ++ [.entryClosed id] }

def closeEntry (relay : Relay) (id : Nat) (code : CloseCode)
    (reason : String) : Relay :=
  match relay.entries id with
  | none => relay
  | some entry =>
      if entry.closed then relay
      else [entry.client, entry.worker].foldl (closeState code reason)
        (relay.markClosed id entry)

/-- The socket's `close` event, with which it is `CLOSED`. -/
def handleSocketClose (relay : Relay) (socket : Nat) : Relay :=
  let relay := { relay with
    readyStates := Function.update relay.readyStates socket (some .CLOSED) }
  match relay.states socket with
  | none => relay
  | some state =>
      let relay := relay.clearStateTimers socket
      match relay.entries state.entry with
      | none => relay
      | some entry =>
          if entry.closed then relay
          else
            let entry :=
              if entry.slot state.role = some socket then
                entry.setSlot state.role none
              else entry
            let relay := relay.setEntry state.entry entry
            match entry.slot (otherRole state.role) with
            | some _ => relay.closeEntry state.entry .TRY_AGAIN_LATER
                "relay peer disconnected"
            | none => relay.markClosed state.entry entry

/-! ## Timers -/

def resetIdleTimer (relay : Relay) (socket : Nat) : Relay :=
  relay.modifyState socket (fun state => { state with idleTimer := true })

def resetIdleTimers (relay : Relay) (entry : Entry) : Relay :=
  [entry.client, entry.worker].foldl (fun relay state =>
    match state with
    | none => relay
    | some socket => relay.resetIdleTimer socket) relay

def peerTimeout (relay : Relay) (socket : Nat) (state : PeerState) : Relay :=
  let relay := relay.clearPeerTimer socket
  match relay.entries state.entry with
  | none => relay
  | some entry =>
      if entry.closed ∨ entry.active then relay
      else relay.closeEntry state.entry .PEER_TIMEOUT "relay peer timeout"

def idleTimeout (relay : Relay) (socket : Nat) (state : PeerState) : Relay :=
  let relay := relay.modifyState socket (fun state =>
    { state with idleTimer := false })
  relay.closeEntry state.entry .PEER_TIMEOUT "relay idle timeout"

/-! ## Pairing -/

def pairingKey (claims : Claims) : String :=
  "\x00".intercalate [claims.sessionId.1, claims.workerId.1, claims.leaseId.1]

def sameAllocation (authorization : Option Authorization) (entry : Entry) :
    Bool :=
  match authorization with
  | none => false
  | some authorization =>
      authorization.claims.sessionId.1 = entry.sessionId &&
        authorization.claims.workerId.1 = entry.workerId &&
        authorization.claims.leaseId.1 = entry.leaseId

/-- `tryPair` up to its first await. -/
def tryPair (relay : Relay) (id : Nat) : Relay :=
  match relay.entries id with
  | none => relay
  | some entry =>
      if entry.closed ∨ entry.active ∨ entry.activating then relay
      else
        match entry.client, entry.worker with
        | some client, some worker =>
            { relay.setEntry id { entry with activating := true } with
              pairings := Function.update relay.pairings id
                (some ⟨client, worker, .authorizing none none⟩) }
        | _, _ => relay

/-- The `finally` of `tryPair`. -/
def finishPairing (relay : Relay) (id : Nat) : Relay :=
  { relay with
    entries := Function.update relay.entries id ((relay.entries id).map
      (fun entry => { entry with activating := false }))
    pairings := Function.update relay.pairings id none }

/-- The readiness frames, to the peers that have asked for them; the first peer
that is not open closes the entry. -/
def announce (relay : Relay) (id : Nat) : List Nat → Relay
  | [] => relay
  | socket :: rest =>
      match relay.states socket with
      | none => relay.announce id rest
      | some state =>
          if state.protocol ≠ .v2 then relay.announce id rest
          else if relay.readyStates socket ≠ some .OPEN then
            relay.closeEntry id .TRY_AGAIN_LATER "relay peer unavailable"
          else (relay.emit (.ready socket)).announce id rest

/-- The states of the two slots become peers. -/
def link (relay : Relay) (client worker : Nat) : Relay :=
  (relay.modifyState client (fun state =>
    { state with peer := some worker })).modifyState worker (fun state =>
      { state with peer := some client })

/-- `tryPair` from `if (entry.closed)` on. -/
def activate (relay : Relay) (id : Nat)
    (clientAuthorization workerAuthorization : Authorization) : Relay :=
  match relay.entries id with
  | none => relay
  | some entry =>
      if entry.closed then relay.finishPairing id
      else
        let entry := { entry with active := true }
        let relay := relay.setEntry id entry
        match entry.client, entry.worker with
        | some client, some worker =>
            let relay := ((relay.link client worker).clearPeerTimer
              client).clearPeerTimer worker
            let relay := relay.resetIdleTimers entry
            let relay := relay.emit (.paired id client worker
              clientAuthorization workerAuthorization)
            (relay.announce id [client, worker]).finishPairing id
        | _, _ =>
            -- A null slot throws.
            (relay.closeEntry id .LEASE_INVALIDATED
              "session lease invalidated").finishPairing id

/-- The `catch` of `tryPair`, and its first refusal. -/
def refusePairing (relay : Relay) (id : Nat) : Relay :=
  (relay.closeEntry id .LEASE_INVALIDATED
    "session lease invalidated").finishPairing id

/-- `tryPair` after both grants are authorized. -/
def resumePairing (relay : Relay) (id : Nat) (entry : Entry) (pairing : Pairing)
    (client worker : Option Authorization) : Relay :=
  if ¬sameAllocation client entry ∨ ¬sameAllocation worker entry then
    relay.refusePairing id
  else
    match client, worker with
    | some client, some worker =>
        if client.session.status = .connecting then
          { relay with
            pairings := Function.update relay.pairings id
              (some { pairing with stage := .activating client worker none }) }
        else if client.session.status ≠ .active then
          (relay.closeEntry id .TRY_AGAIN_LATER
            "session is not ready for relay activation").finishPairing id
        else relay.activate id client worker
    | _, _ => relay.refusePairing id

/-! ## Connections -/

structure UpgradeRequest where
  /-- The path and the query of the URL, when it can be read. -/
  url : Option (String × String)
  protocols : Option String

def readUpgrade (request : UpgradeRequest) :
    Except (Nat × String) ProtocolOffer :=
  match request.url with
  | none => .error (400, "invalid request URL")
  | some (pathname, search) =>
      if pathname ≠ "/v1/data-plane" ∨ search ≠ "" then
        .error (404, "data-plane route not found")
      else
        match request.protocols.bind parseDataPlaneProtocols with
        | none => .error (401, "valid data-plane grant required")
        | some offer => .ok offer

/-- `handleUpgrade` up to its await. -/
def handleUpgrade (relay : Relay) (socket : Nat) (request : UpgradeRequest) :
    Relay :=
  if relay.closed then relay.emit (.rejected socket 503 "relay unavailable")
  else
    match readUpgrade request with
    | .error (statusCode, message) =>
        relay.emit (.rejected socket statusCode message)
    | .ok offer =>
        { relay with
          upgrades := Function.update relay.upgrades socket (some offer) }

/-- The entry with this key, made if there is none. -/
def entryFor (relay : Relay) (socket : Nat) (claims : Claims) : Relay × Nat :=
  match relay.pairs.lookup (pairingKey claims) with
  | some id => (relay, id)
  | none =>
      ({ relay with
        pairs := relay.pairs ++ [(pairingKey claims, socket)]
        entries := Function.update relay.entries socket (some
          { key := pairingKey claims
            sessionId := claims.sessionId.1
            workerId := claims.workerId.1
            leaseId := claims.leaseId.1
            client := none
            worker := none
            activating := false
            active := false
            closed := false }) }, socket)

/-- The state takes its role in the entry. -/
def occupySlot (relay : Relay) (id : Nat) (entry : Entry) (socket : Nat)
    (offer : ProtocolOffer) (claims : Claims) : Relay :=
  { relay.setEntry id (entry.setSlot claims.role (some socket)) with
    states := Function.update relay.states socket (some
      { grant := offer.grant
        protocol := offer.protocol
        claims := claims
        role := claims.role
        entry := id
        peer := none
        peerTimer := true
        idleTimer := false }) }

def acceptConnection (relay : Relay) (socket : Nat) (offer : ProtocolOffer)
    (authorization : Authorization) : Relay :=
  let claims := authorization.claims
  let (relay, id) := relay.entryFor socket claims
  match relay.entries id with
  | none => relay
  | some entry =>
      match entry.slot claims.role with
      | some existing =>
          if relay.readyStates existing ≠ some .CLOSED then
            relay.closeSocket socket .DUPLICATE_ROLE "duplicate relay role"
          else (relay.occupySlot id entry socket offer claims).tryPair id
      | none => (relay.occupySlot id entry socket offer claims).tryPair id

/-- A grant is authorized for either role. -/
def authorizeGrant (client worker : Answer) : Option Authorization :=
  match client with
  | .rejected => none
  | .answered (some authorization) => some authorization
  | .answered none =>
      match worker with
      | .rejected => none
      | .answered authorization => authorization

/-- `handleUpgrade` after its await; `destroyed` says that the connection has
not lasted, or that its handshake fails. -/
def completeUpgrade (relay : Relay) (socket : Nat) (offer : ProtocolOffer)
    (authorization : Option Authorization) (destroyed : Bool) : Relay :=
  let relay := { relay with
    upgrades := Function.update relay.upgrades socket none }
  match authorization with
  | none =>
      relay.emit (.rejected socket 401 "valid data-plane grant required")
  | some authorization =>
      if relay.closed ∨ destroyed then relay.emit (.destroyed socket)
      else
        let relay := { relay with
          readyStates := Function.update relay.readyStates socket
            (some .OPEN) }
        relay.acceptConnection socket offer authorization

/-! ## Messages -/

/-- A text frame that a peer must not send in place of the server. -/
def isReserved (frame : Frame) (peer : Option PeerState) : Bool :=
  !frame.isBinary && (peer.map PeerState.protocol = some .v2) &&
    utf8Text frame.data = relayReadyV2

/-- The `message` event; `bufferedAmount` is that of the peer's socket. -/
def handleMessage (relay : Relay) (socket : Nat) (frame : Frame)
    (bufferedAmount : Nat) : Relay :=
  match relay.states socket with
  | none => relay
  | some state =>
      match relay.entries state.entry, state.peer with
      | some entry, some peer =>
          if ¬entry.active then
            relay.closeEntry state.entry .TRY_AGAIN_LATER "relay peer not ready"
          else if isReserved frame (relay.states peer) then
            relay.closeEntry state.entry .PROTOCOL_ERROR
              "reserved relay control frame"
          else if ¬validateDataPlaneFrameSize frame.data.length then
            relay.closeEntry state.entry .MESSAGE_TOO_BIG
              "data-plane frame too large"
          else if relay.readyStates peer ≠ some .OPEN then
            relay.closeEntry state.entry .TRY_AGAIN_LATER
              "relay peer unavailable"
          else if isDataPlaneBackpressured bufferedAmount then
            relay.closeEntry state.entry .TRY_AGAIN_LATER
              "relay backpressure limit exceeded"
          else
            (relay.resetIdleTimers entry).emit (.forwarded socket peer frame)
      | _, _ =>
          relay.closeEntry state.entry .TRY_AGAIN_LATER "relay peer not ready"

/-! ## Revalidation -/

/-- The loop of `revalidatePairs` up to its next await, or its end; an entry
that has lost a socket throws. -/
def nextEntry (relay : Relay) (rest : List Nat) : Relay :=
  match rest with
  | [] => { relay with revalidation := some ⟨none, []⟩ }
  | id :: rest =>
      match (relay.entries id).bind Entry.client,
        (relay.entries id).bind Entry.worker with
      | some _, some _ =>
          { relay with revalidation := some ⟨some (id, none, none), rest⟩ }
      | _, _ =>
          { relay with revalidation := some ⟨none, []⟩ }.emit
            .revalidationFailed

/-- The entries that a pass looks at. -/
def activeEntries (relay : Relay) : List Nat :=
  (relay.pairs.map Prod.snd).filter (fun id =>
    (relay.entries id).any (fun entry => entry.active && !entry.closed))

def scheduleRevalidation (relay : Relay) : Relay :=
  if relay.closed then relay
  else if relay.revalidation.isSome then
    { relay with revalidationPending := true }
  else relay.nextEntry relay.activeEntries

/-- `revalidatePairs` after the calls for one entry. -/
def resumeRevalidation (relay : Relay) (id : Nat) (rest : List Nat)
    (client worker : Option Authorization) : Relay :=
  match relay.entries id with
  | none => relay
  | some entry =>
      if ¬sameAllocation client entry ∨ ¬sameAllocation worker entry then
        (relay.closeEntry id .LEASE_INVALIDATED
          "session lease invalidated").nextEntry rest
      else relay.nextEntry rest

/-- The `catch`: the rest of the pass is left out. -/
def failRevalidation (relay : Relay) : Relay :=
  { relay with revalidation := some ⟨none, []⟩ }.emit .revalidationFailed

/-- The `finally`. -/
def settleRevalidation (relay : Relay) : Relay :=
  let relay := { relay with revalidation := none }
  if relay.revalidationPending ∧ ¬relay.closed then
    { relay with revalidationPending := false }.scheduleRevalidation
  else relay

end Relay

end GpuLink
