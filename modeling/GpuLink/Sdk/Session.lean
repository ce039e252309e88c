import GpuLink.Library.Machine
import GpuLink.Sdk.Transport

/-!
# Sessions of the client library

A session sits on a data plane.  Messages that come before anybody listens are
kept within bounds and delivered in a microtask; a close releases the session
at the control plane, and may be tried again when that fails.
-/

namespace GpuLink

namespace Sdk

inductive SessionErrorCode where
  | earlyBufferOverflow
  | messageListenerError
  | closeListenerError
  | remoteReleaseFailed
  deriving DecidableEq, Repr

/-- What has happened to a session.  Messages are numbered as they arrive. -/
inductive Entry where
  /-- A message listener is called. -/
  | delivered (number listener : Nat)
  /-- A frame is given to the data plane. -/
  | sent (frame : Frame)
  /-- `close` is called; it may start a release. -/
  | closed (starts : Bool)
  /-- The control plane is asked for the release. -/
  | called
  /-- It has released the session, or not. -/
  | settled (success : Bool)
  | reported (code : SessionErrorCode)
  deriving DecidableEq

/-- A message and the listener that is called with it. -/
def Entry.delivery? : Entry → Option (Nat × Nat)
  | .delivered number listener => some (number, listener)
  | _ => none

/-- What the application may do with a session. -/
inductive Action where
  | subscribe (listener : Nat)
  | unsubscribe (listener : Nat)
  | send (frame : Frame)
  | close

/-- What a callback does before it returns or throws; what the listeners do
that it causes to be called is a part of it. -/
structure Reaction where
  actions : List Action
  throws : Bool

/-- The callbacks of an application, which may depend on whatever has
happened. -/
structure Application where
  onMessage : List Entry → Reaction
  onError : List Entry → List Action
  onClose : List Entry → Reaction

/-- Where the promise of a `close` is. -/
inductive Release where
  /-- The microtask that calls `closeRemote` is queued. -/
  | queued
  | running
  /-- `closeRemote` has settled, and `close` does not know it yet. -/
  | settled (success : Bool)
  | done (success : Bool)
  deriving DecidableEq

/-- A `GPULinkSession`. -/
structure ClientSession where
  closing : Bool
  messageListeners : List Nat
  pending : List (Nat × Frame)
  pendingBytes : Nat
  flushQueued : Bool
  draining : Bool
  /-- The last 16 errors. -/
  errors : List SessionErrorCode
  /-- The release that `#closePromise` is about. -/
  closePromise : Option Nat
  releases : List Release
  /-- How many messages have come to the session before its close. -/
  arrivals : Nat
  log : List Entry

namespace ClientSession

def initial : ClientSession where
  closing := false
  messageListeners := []
  pending := []
  pendingBytes := 0
  flushQueued := false
  draining := false
  errors := []
  closePromise := none
  releases := []
  arrivals := 0
  log := []

def note (session : ClientSession) (entry : Entry) : ClientSession :=
  { session with log := session.log ++ [entry] }

/-- `#scheduleFlush` -/
def scheduleFlush (session : ClientSession) : ClientSession :=
  if session.messageListeners = [] ∨ session.pending = [] ∨
      session.flushQueued then session
  else { session with flushQueued := true }

/-- `onMessage`, and nothing where it throws. -/
def subscribe (session : ClientSession) (listener : Nat) : ClientSession :=
  if session.closing then session
  else
    { session with
      messageListeners :=
        if listener ∈ session.messageListeners then session.messageListeners
        else session.messageListeners ++ [listener] }.scheduleFlush

def unsubscribe (session : ClientSession) (listener : Nat) : ClientSession :=
  { session with messageListeners := session.messageListeners.erase listener }

/-- `sendBinary` and `sendText` -/
def send (session : ClientSession) (frame : Frame) : ClientSession :=
  if session.closing then session else session.note (.sent frame)

def close (session : ClientSession) : ClientSession :=
  let session := { session with
    closing := true, pending := [], pendingBytes := 0 }
  match session.closePromise with
  | some _ => session.note (.closed false)
  | none =>
      ({ session with
        closePromise := some session.releases.length
        releases := session.releases ++ [.queued] } : ClientSession).note
          (.closed true)

def perform (session : ClientSession) : Action → ClientSession
  | .subscribe listener => session.subscribe listener
  | .unsubscribe listener => session.unsubscribe listener
  | .send frame => session.send frame
  | .close => session.close

def performAll (session : ClientSession) (actions : List Action) :
    ClientSession :=
  actions.foldl perform session

section Callbacks

variable (app : Application)

/-- `#report` -/
def report (session : ClientSession) (code : SessionErrorCode) :
    ClientSession :=
  let errors := session.errors ++ [code]
  let session := { session with
    errors := if errors.length > 16 then errors.tail else errors }.note
      (.reported code)
  session.performAll (app.onError session.log)

/-- A callback that is caught when it throws. -/
def react (session : ClientSession) (reaction : Reaction)
    (code : SessionErrorCode) : ClientSession :=
  let session := session.performAll reaction.actions
  if reaction.throws then session.report app code else session

/-- One turn of the loop of `#deliver`. -/
def callListener (session : ClientSession) (number listener : Nat) :
    ClientSession :=
  let session := session.note (.delivered number listener)
  session.react app (app.onMessage session.log) .messageListenerError

/-- The loop over a copy of the listeners. -/
def callListeners (session : ClientSession) (number : Nat) :
    List Nat → ClientSession
  | [] => session
  | listener :: listeners =>
      if session.closing then session
      else (session.callListener app number listener).callListeners number
        listeners

/-- `#deliver` -/
def deliver (session : ClientSession) (number : Nat) : ClientSession :=
  session.callListeners app number session.messageListeners

/-- The loop over what was pending. -/
def drain (session : ClientSession) : List (Nat × Frame) → ClientSession
  | [] => session
  | message :: messages =>
      if session.closing then session
      else (session.deliver app message.1).drain messages

/-- What the data plane calls with a message. -/
def message (session : ClientSession) (frame : Frame) : ClientSession :=
  if session.closing then session
  else
    let number := session.arrivals
    let session := { session with arrivals := number + 1 }
    if session.messageListeners ≠ [] ∧ session.flushQueued = false ∧
        session.draining = false ∧ session.pending = [] then
      session.deliver app number
    else if session.pending.length ≥ 256 ∨
        session.pendingBytes + frame.byteLength > maxBufferedBytes then
      (session.report app .earlyBufferOverflow).close
    else
      { session with
        pending := session.pending ++ [(number, frame)]
        pendingBytes := session.pendingBytes + frame.byteLength }.scheduleFlush

/-- The microtask of `#scheduleFlush`. -/
def flush (session : ClientSession) : ClientSession :=
  let session := { session with flushQueued := false }
  if session.messageListeners = [] ∨ session.closing then session
  else
    let drained := { session with
      pending := [], pendingBytes := 0, draining := true }.drain app
        session.pending
    { drained with draining := false }.scheduleFlush

/-- The data plane has closed: the session's listener is called first, then
those of the application. -/
def socketClosed (session : ClientSession) : ClientSession :=
  let session := if session.closing then session else session.close
  session.react app (app.onClose session.log) .closeListenerError

/-- What `close` does when the release has settled. -/
def settle (session : ClientSession) (release : Nat) (success : Bool) :
    ClientSession :=
  let session := { session with
    releases := session.releases.set release (.done success) }
  if success then session
  else
    { session with closePromise := none }.report app .remoteReleaseFailed

end Callbacks

/-- What happens next; nothing is said of the order. -/
inductive Event where
  | message (frame : Frame)
  | act (action : Action)
  | flush
  | socketClosed
  /-- The microtask of a `close` calls `closeRemote`. -/
  | callRemote (release : Nat)
  | remoteSettles (release : Nat) (success : Bool)
  /-- The handler in `close` runs. -/
  | settle (release : Nat)

def step (app : Application) (session : ClientSession) :
    Event → Option ClientSession
  | .message frame => some (session.message app frame)
  | .act action => some (session.perform action)
  | .flush => if session.flushQueued then some (session.flush app) else none
  | .socketClosed => some (session.socketClosed app)
  | .callRemote release =>
      if session.releases[release]? = some .queued then
        some ({ session with
          releases := session.releases.set release .running }.note .called)
      else none
  | .remoteSettles release success =>
      if session.releases[release]? = some .running then
        some ({ session with
          releases := session.releases.set release (.settled success) }.note
            (.settled success))
      else none
  | .settle release =>
      match session.releases[release]? with
      | some (.settled success) => some (session.settle app release success)
      | _ => none

def machine (app : Application) : Machine ClientSession Event where
  initial := initial
  step := step app

/-- An application whose message listeners do these things. -/
def answering (actions : List Action) : Application where
  onMessage := fun _ => ⟨actions, false⟩
  onError := fun _ => []
  onClose := fun _ => ⟨[], false⟩

/-- The calls of message listeners, oldest first. -/
def deliveries (session : ClientSession) : List (Nat × Nat) :=
  session.log.filterMap Entry.delivery?

end ClientSession

end Sdk

end GpuLink
