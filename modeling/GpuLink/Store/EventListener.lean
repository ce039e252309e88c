import GpuLink.Library.Machine
import Mathlib.Logic.Function.Basic

/-!
# The listener for PostgreSQL notifications

`PostgresPersistence` keeps one client that has executed `LISTEN` for all its
subscribers.  The first subscriber starts it, later ones share the start, and
the last to leave stops it, as does `close`.  Every event runs the code up to
its next await.
-/

namespace GpuLink

namespace PostgresPersistence

/-- How far the start of a client is. -/
inductive Start where
  | connecting | listening
  /-- `connect` or `LISTEN` has failed, and the client is being ended. -/
  | ending
  | fulfilled | rejected
  deriving DecidableEq, Repr

def Start.isSettled : Start → Bool
  | .fulfilled | .rejected => true
  | .connecting | .listening | .ending => false

inductive Connection where
  | opening | connected
  /-- The connection has executed `LISTEN`. -/
  | listens
  | lost | ended
  deriving DecidableEq, Repr

/-- A `Client` of the driver that `#ensureEventListener` has made. -/
structure ListenerClient where
  start : Start
  connection : Connection
  deriving DecidableEq, Repr

/-- What `#stopEventListener` awaits. -/
inductive Stop where
  /-- The start of the client. -/
  | start (client : Nat)
  | unlisten (client : Nat)
  /-- The end of the client, after an `UNLISTEN` that has failed or not. -/
  | ending (client : Nat) (failed : Bool)
  deriving DecidableEq, Repr

/-- A call of `subscribeToEvents`, and of the function that it returns. -/
inductive Call where
  /-- It awaits the start that it has made. -/
  | starts (listener client : Nat)
  /-- It awaits the start of another call. -/
  | joins (listener client : Nat)
  /-- `#ensureEventListener` has returned. -/
  | ensured (listener : Nat)
  /-- `#ensureEventListener` has thrown. -/
  | refused (listener : Nat)
  | subscribed (listener : Nat)
  | stops (stop : Stop)
  deriving DecidableEq, Repr

inductive Closing where
  | initialization
  | stops (stop : Stop)
  | pool | closed
  | failed
  deriving DecidableEq, Repr

inductive Event where
  | initializing
  | initializeSettled (succeeded : Bool)
  /-- A listener is subscribed; a client that has to be made gets this name. -/
  | subscribe (call listener client : Nat)
  | connectSettled (client : Nat) (succeeded : Bool)
  | listenSettled (client : Nat) (succeeded : Bool)
  /-- The end of a client whose start has failed. -/
  | endSettled (client : Nat)
  /-- `#ensureEventListener` goes on, of the call that made the start. -/
  | started (call : Nat)
  /-- The same, of a call that shares the start. -/
  | joined (call : Nat)
  /-- `subscribeToEvents` goes on. -/
  | proceeded (call : Nat)
  | unsubscribe (call : Nat)
  /-- What a stop awaits has settled; a stop without a call is the one of
  `close`. -/
  | stopSettled (call : Option Nat) (succeeded : Bool)
  | close
  | closeProceeded
  | poolEnded (succeeded : Bool)
  /-- The connection of the client breaks; its `error` handler only logs. -/
  | lost (client : Nat)
  deriving DecidableEq, Repr

end PostgresPersistence

open PostgresPersistence in
/-- The fields of `PostgresPersistence` about its listener, the clients that it
has made and the calls under way. -/
structure PostgresPersistence where
  eventSubscribers : List Nat
  eventListenerClient : Option Nat
  /-- The client whose start is shared. -/
  eventListenerPromise : Option Nat
  /-- Of a promise, whether it is fulfilled. -/
  initializePromise : Option Bool
  initialized : Bool
  closed : Bool
  closePromise : Option Closing
  clients : Nat → Option ListenerClient
  calls : Nat → Option Call

namespace PostgresPersistence

def initial : PostgresPersistence where
  eventSubscribers := []
  eventListenerClient := none
  eventListenerPromise := none
  initializePromise := none
  initialized := false
  closed := false
  closePromise := none
  clients := fun _ => none
  calls := fun _ => none

variable (persistence : PostgresPersistence)

def setClient (client : Nat) (state : ListenerClient) : PostgresPersistence :=
  { persistence with
    clients := Function.update persistence.clients client (some state) }

def setCall (call : Nat) (state : Option Call) : PostgresPersistence :=
  { persistence with
    calls := Function.update persistence.calls call state }

variable {persistence} in
@[simp] theorem setClient_self {client : Nat} {state : ListenerClient} :
    (persistence.setClient client state).clients client = some state :=
  Function.update_self _ _ _

variable {persistence} in
theorem setClient_of_ne {client other : Nat} {state : ListenerClient}
    (apart : other ≠ client) :
    (persistence.setClient client state).clients other =
      persistence.clients other :=
  Function.update_of_ne apart _ _

variable {persistence} in
@[simp] theorem setCall_self {call : Nat} {state : Option Call} :
    (persistence.setCall call state).calls call = state :=
  Function.update_self _ _ _

variable {persistence} in
theorem setCall_of_ne {call other : Nat} {state : Option Call}
    (apart : other ≠ call) :
    (persistence.setCall call state).calls other = persistence.calls other :=
  Function.update_of_ne apart _ _

def assertReady : Bool :=
  !persistence.closed && persistence.initialized

/-- `Set.prototype.add` -/
def addSubscriber (listener : Nat) : PostgresPersistence :=
  if listener ∈ persistence.eventSubscribers then persistence
  else
    { persistence with
      eventSubscribers := persistence.eventSubscribers ++ [listener] }

/-- `Set.prototype.delete` -/
def deleteSubscriber (listener : Nat) : PostgresPersistence :=
  { persistence with
    eventSubscribers := persistence.eventSubscribers.filter (· ≠ listener) }

/-- `#ensureEventListener`, up to its first await. -/
def ensureEventListener (call listener client : Nat) : PostgresPersistence :=
  if persistence.eventListenerClient.isSome then
    persistence.setCall call (some (.ensured listener))
  else
    match persistence.eventListenerPromise with
    | some shared => persistence.setCall call (some (.joins listener shared))
    | none =>
        let persistence := persistence.setClient client ⟨.connecting, .opening⟩
        let persistence :=
          { persistence with eventListenerPromise := some client }
        persistence.setCall call (some (.starts listener client))

def subscribeToEvents (call listener client : Nat) : PostgresPersistence :=
  if persistence.assertReady then
    (persistence.addSubscriber listener).ensureEventListener call listener
      client
  else persistence

def isSettled (client : Nat) : Bool :=
  (persistence.clients client).any (·.start.isSettled)

/-- What the start of the client comes to, for one that has awaited it. -/
def outcome (client listener : Nat) : Call :=
  if (persistence.clients client).any (·.start = .fulfilled) then
    .ensured listener
  else .refused listener

/-- The rest of `#stopEventListener`, from where it reads the client. -/
def takeEventListener : PostgresPersistence × Option Stop :=
  ({ persistence with eventListenerClient := none },
    persistence.eventListenerClient.map .unlisten)

def stopEventListener : PostgresPersistence × Option Stop :=
  match persistence.eventListenerPromise with
  | some shared => (persistence, some (.start shared))
  | none => persistence.takeEventListener

/-- What the stop awaits has settled; its new state, and whether it failed if it
has come to its end. -/
def resumeStop (stop : Stop) (succeeded : Bool) :
    Option (PostgresPersistence × Option Stop × Bool) :=
  match stop with
  | .start client =>
      if persistence.isSettled client then
        let (persistence, stop) := persistence.takeEventListener
        some (persistence, stop, false)
      else none
  | .unlisten client =>
      (persistence.clients client).bind fun state =>
        if succeeded ∧ state.connection ≠ .listens then none
        else some (persistence.setClient client { state with
          connection := .ended }, some (.ending client !succeeded), false)
  | .ending _ failed => some (persistence, none, failed || !succeeded)

/-- The function that `subscribeToEvents` has returned. -/
def unsubscribe (call listener : Nat) : PostgresPersistence :=
  let persistence := persistence.deleteSubscriber listener
  if persistence.eventSubscribers = [] then
    let (persistence, stop) := persistence.stopEventListener
    persistence.setCall call (stop.map .stops)
  else persistence.setCall call none

/-- `close` once its stop has settled. -/
def closing (stop : Option Stop) (failed : Bool) : Closing :=
  match stop with
  | some stop => .stops stop
  | none => if failed then .failed else .pool

/-- `close` from where the initialization has settled. -/
def closeSubscribers : PostgresPersistence :=
  let persistence := { persistence with eventSubscribers := [] }
  let (persistence, stop) := persistence.stopEventListener
  { persistence with closePromise := some (closing stop false) }

def close : PostgresPersistence :=
  if persistence.closePromise.isSome then persistence
  else
    let persistence := { persistence with closed := true }
    if persistence.initializePromise.isSome then
      { persistence with closePromise := some .initialization }
    else persistence.closeSubscribers

def beginInitialize : PostgresPersistence :=
  if persistence.closed ∨ persistence.initializePromise.isSome then persistence
  else { persistence with initializePromise := some false }

/-- The start of a client goes on. -/
def advance (client : Nat) (expected : Start)
    (change : ListenerClient → Option ListenerClient) :
    Option PostgresPersistence :=
  (persistence.clients client).bind fun state =>
    if state.start = expected then
      (change state).map (persistence.setClient client)
    else none

def connectSettled (succeeded : Bool) (state : ListenerClient) :
    Option ListenerClient :=
  if succeeded then
    if state.connection = .opening then some ⟨.listening, .connected⟩ else none
  else some ⟨.ending, .ended⟩

def listenSettled (succeeded : Bool) (state : ListenerClient) :
    Option ListenerClient :=
  if succeeded then
    if state.connection = .connected then some ⟨.fulfilled, .listens⟩ else none
  else some ⟨.ending, .ended⟩

def step : Event → Option PostgresPersistence
  | .initializing => some persistence.beginInitialize
  | .initializeSettled succeeded =>
      if persistence.initializePromise = some false then
        if succeeded then
          some { persistence with
            initializePromise := some true, initialized := true }
        else some { persistence with initializePromise := none }
      else none
  | .subscribe call listener client =>
      if (persistence.calls call).isNone ∧ (persistence.clients client).isNone
      then some (persistence.subscribeToEvents call listener client)
      else none
  | .connectSettled client succeeded =>
      persistence.advance client .connecting (connectSettled succeeded)
  | .listenSettled client succeeded =>
      (persistence.advance client .listening (listenSettled succeeded)).map
        fun persistence =>
          if succeeded then
            { persistence with eventListenerClient := some client }
          else persistence
  | .endSettled client =>
      persistence.advance client .ending fun state =>
        some { state with start := .rejected }
  | .started call =>
      match persistence.calls call with
      | some (.starts listener client) =>
          if persistence.isSettled client then
            let persistence := { persistence with eventListenerPromise := none }
            some (persistence.setCall call (persistence.outcome client listener))
          else none
      | _ => none
  | .joined call =>
      match persistence.calls call with
      | some (.joins listener client) =>
          if persistence.isSettled client then
            some (persistence.setCall call (persistence.outcome client listener))
          else none
      | _ => none
  | .proceeded call =>
      match persistence.calls call with
      | some (.ensured listener) =>
          some (persistence.setCall call (some (.subscribed listener)))
      | some (.refused listener) =>
          some ((persistence.deleteSubscriber listener).setCall call none)
      | _ => none
  | .unsubscribe call =>
      match persistence.calls call with
      | some (.subscribed listener) =>
          some (persistence.unsubscribe call listener)
      | _ => none
  | .stopSettled (some call) succeeded =>
      match persistence.calls call with
      | some (.stops stop) =>
          (persistence.resumeStop stop succeeded).map
            fun (persistence, stop, _) =>
              persistence.setCall call (stop.map .stops)
      | _ => none
  | .stopSettled none succeeded =>
      match persistence.closePromise with
      | some (.stops stop) =>
          (persistence.resumeStop stop succeeded).map
            fun (persistence, stop, failed) =>
              { persistence with closePromise := some (closing stop failed) }
      | _ => none
  | .close => some persistence.close
  | .closeProceeded =>
      if persistence.closePromise = some .initialization ∧
          persistence.initializePromise ≠ some false then
        some persistence.closeSubscribers
      else none
  | .poolEnded succeeded =>
      if persistence.closePromise = some .pool then
        if succeeded then
          some { persistence with
            initialized := false, closePromise := some .closed }
        else some { persistence with closePromise := some .failed }
      else none
  | .lost client =>
      (persistence.clients client).bind fun state =>
        if state.connection = .lost ∨ state.connection = .ended then none
        else some (persistence.setClient client { state with
          connection := .lost })

def machine : Machine PostgresPersistence Event where
  initial := initial
  step := step

/-! ## Liveness of the listener -/

/-- The call has not got the listener that it waits for. -/
def Call.isStarting : Call → Bool
  | .starts _ _ | .joins _ _ | .refused _ => true
  | .ensured _ | .subscribed _ | .stops _ => false

def Call.isStopping : Call → Bool
  | .stops _ => true
  | _ => false

def Closing.isStopping : Closing → Bool
  | .stops _ => true
  | _ => false

/-- `close` has not settled. -/
def Closing.isPending : Closing → Bool
  | .initialization | .stops _ | .pool => true
  | .closed | .failed => false

/-- No start and no stop of a listener is in progress. -/
structure Steady : Prop where
  promise : persistence.eventListenerPromise = none
  calls : ∀ {id call}, persistence.calls id = some call →
    call.isStarting = false ∧ call.isStopping = false
  closing : ∀ {closing}, persistence.closePromise = some closing →
    closing.isStopping = false

/-- A connected client that has executed `LISTEN` is stored. -/
def Listens : Prop :=
  ∃ client state, persistence.eventListenerClient = some client ∧
    persistence.clients client = some state ∧ state.connection = .listens

/-- Subscribers have a listener, and without them none is kept. -/
structure Live : Prop where
  served : persistence.eventSubscribers ≠ [] → persistence.closed = false →
    persistence.Steady → persistence.Listens
  unused : persistence.eventSubscribers = [] → persistence.Steady →
    (∀ {closing}, persistence.closePromise = some closing →
      closing.isPending = false) → persistence.eventListenerClient = none

end PostgresPersistence

end GpuLink
