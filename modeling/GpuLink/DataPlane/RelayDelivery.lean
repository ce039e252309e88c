import GpuLink.DataPlane.RelayLog

/-!
# The frames of the relay

What the sockets of the relay are sent: the readiness frame first, where it was
asked for, and then what comes in at the other socket of the pair.
-/

namespace GpuLink

open DataPlane Service

namespace Relay

/-- What the relay sends on a socket. -/
inductive Sent where
  | ready
  | forwarded (sender : Nat) (frame : Frame)

def Effect.sentTo (socket : Nat) : Effect → Option Sent
  | .ready receiver => if receiver = socket then some .ready else none
  | .forwarded sender receiver frame =>
      if receiver = socket then some (.forwarded sender frame) else none
  | _ => none

def sentTo (relay : Relay) (socket : Nat) : List Sent :=
  relay.log.filterMap (Effect.sentTo socket)

def Effect.forwardedFrom (socket : Nat) : Effect → Option Frame
  | .forwarded sender _ frame => if sender = socket then some frame else none
  | _ => none

def forwardedFrom (relay : Relay) (socket : Nat) : List Frame :=
  relay.log.filterMap (Effect.forwardedFrom socket)

def Event.messageFrom (socket : Nat) : Event → Option Frame
  | .message sender frame _ => if sender = socket then some frame else none
  | _ => none

def messagesFrom (socket : Nat) (events : List Event) : List Frame :=
  events.filterMap (Event.messageFrom socket)

theorem messagesFrom_snoc (socket : Nat) (events : List Event) (event : Event) :
    messagesFrom socket (events ++ [event]) =
      messagesFrom socket events ++ (event.messageFrom socket).toList := by
  rw [messagesFrom, messagesFrom, List.filterMap_append]
  cases found : event.messageFrom socket with
  | none => simp [found]
  | some frame => simp [found]

theorem mute_sentTo {relay : Relay} {effects : List Effect}
    (mute : ∀ effect ∈ effects, effect.Mute relay) (socket : Nat) :
    effects.filterMap (Effect.sentTo socket) = [] := by
  rw [List.filterMap_eq_nil_iff]
  intro effect member
  have mute := (mute effect member).frame
  cases effect <;> first | rfl | cases mute

theorem mute_forwardedFrom {relay : Relay} {effects : List Effect}
    (mute : ∀ effect ∈ effects, effect.Mute relay) (socket : Nat) :
    effects.filterMap (Effect.forwardedFrom socket) = [] := by
  rw [List.filterMap_eq_nil_iff]
  intro effect member
  have mute := (mute effect member).frame
  cases effect <;> first | rfl | cases mute

/-- Each of the sockets is told once. -/
theorem ready_sentTo {sockets : List Nat} (once : sockets.Nodup)
    (socket : Nat) :
    (sockets.map Effect.ready).filterMap (Effect.sentTo socket) =
      if socket ∈ sockets then [.ready] else [] := by
  induction sockets with
  | nil => rfl
  | cons first rest induction =>
      obtain ⟨absent, once⟩ := List.nodup_cons.mp once
      have later := induction once
      rw [List.map_cons]
      by_cases same : first = socket
      · subst same
        rw [if_neg absent] at later
        have found : (Effect.ready first).sentTo first = some .ready :=
          if_pos rfl
        rw [List.filterMap_cons_some found, later, if_pos List.mem_cons_self]
      · have missing : (Effect.ready first).sentTo socket = none := if_neg same
        rw [List.filterMap_cons_none missing, later]
        simp only [List.mem_cons, Ne.symm same, false_or]

theorem ready_forwardedFrom (sockets : List Nat) (socket : Nat) :
    (sockets.map Effect.ready).filterMap (Effect.forwardedFrom socket) =
      [] := by
  rw [List.filterMap_eq_nil_iff]
  intro effect member
  obtain ⟨_, _, rfl⟩ := List.mem_map.mp member
  rfl

section Step

variable {before after : Relay}

theorem Quiet.sentTo (quiet : Quiet before after) (socket : Nat) :
    after.sentTo socket = before.sentTo socket := by
  obtain ⟨effects, mute, log⟩ := quiet.log
  rw [Relay.sentTo, log, List.filterMap_append, mute_sentTo mute,
    List.append_nil]
  rfl

theorem Quiet.forwardedFrom (quiet : Quiet before after) (socket : Nat) :
    after.forwardedFrom socket = before.forwardedFrom socket := by
  obtain ⟨effects, mute, log⟩ := quiet.log
  rw [Relay.forwardedFrom, log, List.filterMap_append, mute_forwardedFrom mute,
    List.append_nil]
  rfl

theorem Forwards.sentTo {socket peer : Nat} {frame : Frame}
    (forwards : Forwards before after socket peer frame) (other : Nat) :
    after.sentTo other = before.sentTo other ++
      if peer = other then [.forwarded socket frame] else [] := by
  rw [Relay.sentTo, forwards.log, List.filterMap_append]
  by_cases same : peer = other
  · have found : (Effect.forwarded socket peer frame).sentTo other =
        some (.forwarded socket frame) := if_pos same
    rw [if_pos same, List.filterMap_cons_some found]
    rfl
  · have missing : (Effect.forwarded socket peer frame).sentTo other = none :=
      if_neg same
    rw [if_neg same, List.filterMap_cons_none missing]
    rfl

theorem Forwards.forwardedFrom {socket peer : Nat} {frame : Frame}
    (forwards : Forwards before after socket peer frame) (other : Nat) :
    after.forwardedFrom other = before.forwardedFrom other ++
      if socket = other then [frame] else [] := by
  rw [Relay.forwardedFrom, forwards.log, List.filterMap_append]
  by_cases same : socket = other
  · have found : (Effect.forwarded socket peer frame).forwardedFrom other =
        some frame := if_pos same
    rw [if_pos same, List.filterMap_cons_some found]
    rfl
  · have missing : (Effect.forwarded socket peer frame).forwardedFrom other =
        none := if_neg same
    rw [if_neg same, List.filterMap_cons_none missing]
    rfl

section LinksPair

variable {id client worker : Nat}
  {clientAuthorization workerAuthorization : Authorization}

theorem LinksPair.sentTo (links : LinksPair before after id client worker
    clientAuthorization workerAuthorization) :
    ∃ sockets, Tells before after client worker sockets ∧ ∀ socket,
      after.sentTo socket = before.sentTo socket ++
        if socket ∈ sockets then [.ready] else [] := by
  obtain ⟨sockets, effects, tells, mute, log⟩ := links.log
  refine ⟨sockets, tells, ?_⟩
  intro socket
  rw [Relay.sentTo, log, List.filterMap_append, List.filterMap_cons_none rfl,
    List.filterMap_append, ready_sentTo tells.once, mute_sentTo mute,
    List.append_nil]
  rfl

theorem LinksPair.forwardedFrom (links : LinksPair before after id client worker
    clientAuthorization workerAuthorization) (socket : Nat) :
    after.forwardedFrom socket = before.forwardedFrom socket := by
  obtain ⟨sockets, effects, tells, mute, log⟩ := links.log
  rw [Relay.forwardedFrom, log, List.filterMap_append,
    List.filterMap_cons_none rfl, List.filterMap_append, ready_forwardedFrom,
    mute_forwardedFrom mute, List.append_nil, List.append_nil]
  rfl

/-- The states after a pair has been linked: those of the pair, which had no
peers, and the others. -/
theorem LinksPair.core_cases (sound : Sound before)
    (links : LinksPair before after id client worker clientAuthorization
      workerAuthorization) {socket : Nat} {last : PeerState}
    (known : after.core socket = some last) :
    (∃ state peer, before.core socket = some state ∧ state.entry = id ∧
      state.peer = none ∧ last = { state with peer := some peer } ∧
        ((socket = client ∧ peer = worker) ∨
          (socket = worker ∧ peer = client))) ∨
    (socket ≠ client ∧ socket ≠ worker ∧ before.core socket = some last) := by
  obtain ⟨entry, found, _, inactive, inClient, inWorker⟩ := links.entry
  have alone : ∀ {socket state}, before.core socket = some state →
      state.entry = id → state.peer = none := by
    intro socket state known isEntry
    by_contra linked
    obtain ⟨peer, linked⟩ := Option.ne_none_iff_exists'.mp linked
    obtain ⟨_, other, entered, active⟩ := sound.linked known linked
    rw [isEntry, found] at entered
    cases entered
    rw [inactive] at active
    cases active
  obtain ⟨clientState, clientKnown, clientEntry, _⟩ := sound.slots found
    (show entry.slot .client = some client from inClient)
  obtain ⟨workerState, workerKnown, workerEntry, _⟩ := sound.slots found
    (show entry.slot .worker = some worker from inWorker)
  by_cases isClient : socket = client
  · subst isClient
    rw [links.links.atClient clientKnown] at known
    cases known
    exact .inl ⟨clientState, worker, clientKnown, clientEntry,
      alone clientKnown clientEntry, rfl, .inl ⟨rfl, rfl⟩⟩
  · by_cases isWorker : socket = worker
    · subst isWorker
      rw [links.links.atWorker workerKnown] at known
      cases known
      exact .inl ⟨workerState, client, workerKnown, workerEntry,
        alone workerKnown workerEntry, rfl, .inr ⟨rfl, rfl⟩⟩
    · rw [links.links.elsewhere isClient isWorker] at known
      exact .inr ⟨isClient, isWorker, known⟩

/-- The states of before are still there. -/
theorem LinksPair.kept (links : LinksPair before after id client worker
    clientAuthorization workerAuthorization) {socket : Nat} {state : PeerState}
    (known : before.core socket = some state) :
    ∃ peer, after.core socket = some { state with peer := peer } ∧
      (state.peer.isSome → peer.isSome) := by
  by_cases isClient : socket = client
  · subst isClient
    exact ⟨some worker, links.links.atClient known, fun _ => rfl⟩
  · by_cases isWorker : socket = worker
    · subst isWorker
      exact ⟨some client, links.links.atWorker known, fun _ => rfl⟩
    · refine ⟨state.peer, ?_, fun linked => linked⟩
      rw [links.links.elsewhere isClient isWorker]
      exact known

end LinksPair

/-! ## The readiness frame -/

/-- Who is sent anything has a peer; who has asked for the readiness frame, and
has a peer, has been sent it first, and only then. -/
structure Told (relay : Relay) : Prop where
  linked : ∀ {socket}, relay.sentTo socket ≠ [] →
    ∃ state, relay.core socket = some state ∧ state.peer.isSome
  told : ∀ {socket state}, relay.core socket = some state →
    state.protocol = .v2 → state.peer.isSome →
      relay.readyStates socket = some .OPEN → relay.sentTo socket ≠ []
  first : ∀ {socket state}, relay.core socket = some state →
    state.protocol = .v2 → relay.sentTo socket = [] ∨
      ∃ rest, relay.sentTo socket = .ready :: rest ∧ .ready ∉ rest
  asked : ∀ {socket}, .ready ∈ relay.sentTo socket →
    ∃ state, relay.core socket = some state ∧ state.protocol = .v2

theorem told_initial : Told initial where
  linked sent := absurd rfl sent
  told known := by cases known
  first known := by cases known
  asked sent := by cases sent

theorem Told.quiet (told : Told before) (sound : Sound before)
    (quiet : Quiet before after) : Told after where
  linked sent := by
    rw [quiet.sentTo] at sent
    obtain ⟨state, known, linked⟩ := told.linked sent
    exact ⟨state, quiet.kept known, linked⟩
  told known asks linked isOpen := by
    rw [quiet.sentTo]
    rcases quiet.fresh known with was | ⟨_, alone⟩
    · exact told.told was asks linked (quiet.opened was isOpen)
    · rw [alone] at linked
      cases linked
  first known asks := by
    rw [quiet.sentTo]
    rcases quiet.fresh known with was | ⟨absent, _⟩
    · exact told.first was asks
    · left
      by_contra sent
      obtain ⟨state, known, _⟩ := told.linked sent
      rw [sound.unstated absent] at known
      cases known
  asked sent := by
    rw [quiet.sentTo] at sent
    obtain ⟨state, known, asks⟩ := told.asked sent
    exact ⟨state, quiet.kept known, asks⟩

theorem Told.forwards {socket peer : Nat} {frame : Frame} (told : Told before)
    (sound : Sound before)
    (forwards : Forwards before after socket peer frame) : Told after := by
  obtain ⟨state, _, known, linked, _⟩ := forwards.sender
  obtain ⟨⟨peerState, peerKnown, _, _, peerLinked⟩, _⟩ :=
    sound.linked known linked
  constructor
  · intro other sent
    rw [forwards.core]
    rw [forwards.sentTo] at sent
    by_cases same : peer = other
    · subst same
      refine ⟨peerState, peerKnown, ?_⟩
      rw [peerLinked]
      rfl
    · rw [if_neg same, List.append_nil] at sent
      exact told.linked sent
  · intro other otherState otherKnown asks isLinked isOpen
    rw [forwards.core] at otherKnown
    rw [forwards.readyStates] at isOpen
    have sent := told.told otherKnown asks isLinked isOpen
    rw [forwards.sentTo]
    intro none
    exact sent (List.append_eq_nil_iff.mp none).1
  · intro other otherState otherKnown asks
    rw [forwards.core] at otherKnown
    rw [forwards.sentTo]
    by_cases same : peer = other
    · subst same
      rw [peerKnown] at otherKnown
      cases otherKnown
      have sent := told.told peerKnown asks (by rw [peerLinked]; rfl)
        forwards.receiver
      rcases told.first peerKnown asks with none | ⟨rest, is, once⟩
      · exact absurd none sent
      · right
        refine ⟨rest ++ [.forwarded socket frame], ?_, ?_⟩
        · rw [is, if_pos rfl]
          rfl
        · simp [once]
    · rw [if_neg same, List.append_nil]
      exact told.first otherKnown asks
  · intro other sent
    rw [forwards.core]
    rw [forwards.sentTo, List.mem_append] at sent
    rcases sent with was | isNew
    · exact told.asked was
    · split at isNew
      · cases isNew with
        | tail _ impossible => cases impossible
      · cases isNew

theorem Told.links {id client worker : Nat}
    {clientAuthorization workerAuthorization : Authorization}
    (told : Told before) (sound : Sound before)
    (links : LinksPair before after id client worker clientAuthorization
      workerAuthorization) : Told after := by
  obtain ⟨sockets, tells, sentTo⟩ := links.sentTo
  -- A socket that had no peer has not been sent anything.
  have unsent : ∀ {socket state}, before.core socket = some state →
      state.peer = none → before.sentTo socket = [] := by
    intro socket state known alone
    by_contra sent
    obtain ⟨other, same, linked⟩ := told.linked sent
    rw [known] at same
    cases same
    rw [alone] at linked
    cases linked
  have asks_of : ∀ {socket last}, after.core socket = some last →
      last.protocol = .v2 → (socket = client ∨ socket = worker) →
        before.Asks client worker socket := by
    intro socket last known asks inside
    refine ⟨inside, ?_⟩
    rcases links.core_cases sound known with
      ⟨state, _, was, _, _, rfl, _⟩ | ⟨_, _, was⟩
    · rw [was]
      exact congrArg some asks
    · rw [was]
      exact congrArg some asks
  have known_of : ∀ {socket}, before.Asks client worker socket →
      ∃ last, after.core socket = some last ∧ last.protocol = .v2 ∧
        last.peer.isSome := by
    intro socket asks
    obtain ⟨inside, protocol⟩ := asks
    obtain ⟨state, known, asks⟩ := Option.map_eq_some_iff.mp protocol
    rcases inside with rfl | rfl
    · exact ⟨_, links.links.atClient known, asks, rfl⟩
    · exact ⟨_, links.links.atWorker known, asks, rfl⟩
  constructor
  · intro socket sent
    rw [sentTo] at sent
    by_cases member : socket ∈ sockets
    · obtain ⟨last, known, _, linked⟩ := known_of (tells.asked socket member)
      exact ⟨last, known, linked⟩
    · rw [if_neg member, List.append_nil] at sent
      obtain ⟨state, known, linked⟩ := told.linked sent
      obtain ⟨peer, now, still⟩ := links.kept known
      exact ⟨_, now, still linked⟩
  · intro socket last known asks linked isOpen
    rw [sentTo]
    by_cases inside : socket = client ∨ socket = worker
    · have member := tells.all socket (asks_of known asks inside) isOpen
      rw [if_pos member]
      simp
    · rcases links.core_cases sound known with
        ⟨_, _, _, _, _, _, isClient | isWorker⟩ | ⟨_, _, was⟩
      · exact absurd (.inl isClient.1) inside
      · exact absurd (.inr isWorker.1) inside
      · have wasOpen : before.readyStates socket = some .OPEN := by
          by_contra shut
          exact links.fades.shut shut isOpen
        intro none
        exact told.told was asks linked wasOpen
          (List.append_eq_nil_iff.mp none).1
  · intro socket last known asks
    rw [sentTo]
    rcases links.core_cases sound known with
      ⟨state, _, was, _, alone, _, _⟩ | ⟨notClient, notWorker, was⟩
    · rw [unsent was alone, List.nil_append]
      split_ifs
      · exact .inr ⟨[], rfl, by simp⟩
      · exact .inl rfl
    · have outside : socket ∉ sockets := by
        intro member
        rcases (tells.asked socket member).1 with isClient | isWorker
        · exact notClient isClient
        · exact notWorker isWorker
      rw [if_neg outside, List.append_nil]
      exact told.first was asks
  · intro socket sent
    rw [sentTo, List.mem_append] at sent
    rcases sent with was | isNew
    · obtain ⟨state, known, asks⟩ := told.asked was
      obtain ⟨peer, now, _⟩ := links.kept known
      exact ⟨_, now, asks⟩
    · split at isNew
      · rename_i member
        obtain ⟨last, known, asks, _⟩ := known_of (tells.asked socket member)
        exact ⟨last, known, asks⟩
      · cases isNew

theorem Told.step {event : Event} (told : Told before) (sound : Sound before)
    (taken : before.step event = some after) : Told after := by
  rcases sound.step_writes taken with ⟨quiet, _⟩ | ⟨_, _, _, _, _, forwards⟩ |
    ⟨_, _, _, _, _, _, _, links⟩
  · exact told.quiet sound quiet
  · exact told.forwards sound forwards
  · exact told.links sound links

theorem Runs.told {allowed : Relay → Event → Prop} {events : List Event}
    {relay : Relay} (run : machine.Runs allowed events relay) : Told relay := by
  have both := run.invariant (fun _ relay => Sound relay ∧ Told relay)
    ⟨sound_initial, told_initial⟩
    (fun _ facts _ taken => ⟨facts.1.step taken, facts.2.step facts.1 taken⟩)
  exact both.2

/-! ## The frames that are forwarded -/

/-- What comes in at a socket is forwarded as long as its entry is open. -/
structure Passed (events : List Event) (relay : Relay) : Prop where
  known : ∀ {socket}, messagesFrom socket events ≠ [] →
    (relay.readyStates socket).isSome
  order : ∀ socket,
    relay.forwardedFrom socket <+: messagesFrom socket events
  all : ∀ {socket state}, relay.core socket = some state →
    ¬relay.IsClosed state.entry →
      relay.forwardedFrom socket = messagesFrom socket events

theorem passed_initial : Passed [] initial where
  known some := absurd rfl some
  order _ := List.prefix_refl _
  all known := by cases known

/-- The entry of a socket whose peer is open is not closed. -/
theorem Forwards.isOpen {socket peer : Nat} {frame : Frame} {state : PeerState}
    (forwards : Forwards before after socket peer frame) (sound : Sound before)
    (known : before.core socket = some state) :
    ¬before.IsClosed state.entry := by
  obtain ⟨other, _, same, linked, _⟩ := forwards.sender
  rw [known] at same
  cases same
  obtain ⟨⟨peerState, peerKnown, inside, _⟩, _⟩ := sound.linked known linked
  obtain ⟨_, entry, entered, _, whenClosed⟩ := sound.entered peerKnown
  rintro ⟨closed, found, isClosed⟩
  rw [inside, found] at entered
  cases entered
  exact whenClosed isClosed forwards.receiver

theorem isConnected_of_message {socket : Nat} {frame : Frame}
    {bufferedAmount : Nat}
    (taken : before.step (.message socket frame bufferedAmount) = some after) :
    (before.readyStates socket).isSome := by
  rw [Relay.step, Option.ite_none_right_eq_some] at taken
  exact isKnown_of_connected taken.1

theorem messageFrom_some {event : Event} {socket : Nat} {frame : Frame}
    (found : event.messageFrom socket = some frame) :
    ∃ bufferedAmount, event = .message socket frame bufferedAmount := by
  cases event with
  | message sender sent bufferedAmount =>
      rw [Event.messageFrom, Option.ite_none_right_eq_some] at found
      obtain ⟨rfl, same⟩ := found
      cases same
      exact ⟨bufferedAmount, rfl⟩
  | _ => cases found

theorem Passed.stays {events : List Event} {event : Event}
    (passed : Passed events before)
    (known : ∀ {socket}, (before.readyStates socket).isSome →
      (after.readyStates socket).isSome)
    (taken : before.step event = some after) {socket : Nat}
    (sent : messagesFrom socket (events ++ [event]) ≠ []) :
    (after.readyStates socket).isSome := by
  apply known
  rw [messagesFrom_snoc] at sent
  cases found : event.messageFrom socket with
  | none =>
      rw [found] at sent
      exact passed.known (by simpa using sent)
  | some frame =>
      obtain ⟨bufferedAmount, rfl⟩ := messageFrom_some found
      exact isConnected_of_message taken

theorem Passed.longer {events : List Event} (passed : Passed events before)
    (event : Event) (socket : Nat) :
    before.forwardedFrom socket <+: messagesFrom socket (events ++ [event]) := by
  rw [messagesFrom_snoc]
  exact (passed.order socket).trans (List.prefix_append _ _)

theorem Passed.quiet {events : List Event} {event : Event}
    (passed : Passed events before) (quiet : Quiet before after)
    (closes : ∀ socket frame bufferedAmount state,
      event = .message socket frame bufferedAmount →
        before.core socket = some state → after.IsClosed state.entry)
    (taken : before.step event = some after) :
    Passed (events ++ [event]) after where
  known := passed.stays quiet.known taken
  order socket := by
    rw [quiet.forwardedFrom]
    exact passed.longer event socket
  all {socket state} known isOpen := by
    rw [quiet.forwardedFrom, messagesFrom_snoc]
    cases found : event.messageFrom socket with
    | none =>
        rw [Option.toList_none, List.append_nil]
        rcases quiet.fresh known with was | ⟨absent, _⟩
        · exact passed.all was (fun closed => isOpen (quiet.closed closed))
        · -- No message has come from a connection that was not there.
          have none : messagesFrom socket events = [] := by
            by_contra sent
            have known := passed.known sent
            rw [absent] at known
            cases known
          have order := passed.order socket
          rw [none, List.prefix_nil] at order
          rw [none, order]
    | some frame =>
        exfalso
        obtain ⟨bufferedAmount, same⟩ := messageFrom_some found
        rcases quiet.fresh known with was | ⟨absent, _⟩
        · exact isOpen (closes socket frame bufferedAmount state same was)
        · rw [same] at taken
          have isKnown := isConnected_of_message taken
          rw [absent] at isKnown
          cases isKnown

theorem Passed.forwards {events : List Event} {socket peer : Nat}
    {frame : Frame} {bufferedAmount : Nat} (passed : Passed events before)
    (sound : Sound before)
    (forwards : Forwards before after socket peer frame)
    (taken : before.step (.message socket frame bufferedAmount) =
      some after) :
    Passed (events ++ [.message socket frame bufferedAmount]) after := by
  have same : ∀ other, (Event.message socket frame bufferedAmount).messageFrom
      other = if socket = other then some frame else none := fun _ => rfl
  obtain ⟨state, _, known, _⟩ := forwards.sender
  have complete := passed.all known (forwards.isOpen sound known)
  constructor
  · refine passed.stays ?_ taken
    intro other was
    rw [forwards.readyStates]
    exact was
  · intro other
    rw [forwards.forwardedFrom]
    by_cases here : socket = other
    · subst here
      rw [if_pos rfl, messagesFrom_snoc, same, if_pos rfl, complete]
      exact List.prefix_refl _
    · rw [if_neg here, List.append_nil]
      exact passed.longer _ other
  · intro other otherState otherKnown isOpen
    rw [forwards.core] at otherKnown
    rw [IsClosed, forwards.entries] at isOpen
    rw [forwards.forwardedFrom, messagesFrom_snoc, same,
      passed.all otherKnown isOpen]
    split_ifs
    · rfl
    · rfl

theorem Passed.links {events : List Event} {event : Event}
    {id client worker : Nat}
    {clientAuthorization workerAuthorization : Authorization}
    (passed : Passed events before) (sound : Sound before)
    (links : LinksPair before after id client worker clientAuthorization
      workerAuthorization) (notMessage : event.isPairing = true)
    (taken : before.step event = some after) :
    Passed (events ++ [event]) after := by
  have none : ∀ socket, event.messageFrom socket = none := by
    intro socket
    cases event <;> first | rfl | cases notMessage
  constructor
  · refine passed.stays ?_ taken
    intro socket was
    rw [links.fades.isSome]
    exact was
  · intro socket
    rw [links.forwardedFrom]
    exact passed.longer event socket
  · intro socket last known isOpen
    rw [links.forwardedFrom, messagesFrom_snoc, none, Option.toList_none,
      List.append_nil]
    rcases links.core_cases sound known with
      ⟨state, _, was, _, _, rfl, _⟩ | ⟨_, _, was⟩
    · exact passed.all was (fun closed => isOpen (links.closed closed))
    · exact passed.all was (fun closed => isOpen (links.closed closed))

theorem Passed.step {events : List Event} {event : Event}
    (passed : Passed events before) (sound : Sound before)
    (taken : before.step event = some after) :
    Passed (events ++ [event]) after := by
  rcases sound.step_writes taken with ⟨quiet, closes⟩ |
    ⟨_, _, _, _, rfl, forwards⟩ | ⟨pairing, _, _, _, _, _, _, links⟩
  · exact passed.quiet quiet closes taken
  · exact passed.forwards sound forwards taken
  · exact passed.links sound links pairing taken

theorem Runs.passed {allowed : Relay → Event → Prop} {events : List Event}
    {relay : Relay} (run : machine.Runs allowed events relay) :
    Passed events relay := by
  have both := run.invariant
    (fun events relay => Sound relay ∧ Passed events relay)
    ⟨sound_initial, passed_initial⟩
    (fun _ facts _ taken => ⟨facts.1.step taken, facts.2.step facts.1 taken⟩)
  exact both.2

/-! ## The log -/

/-- Peers of one entry, either way round. -/
def IsPair (client worker socket peer : Nat) : Prop :=
  (socket = client ∧ peer = worker) ∨ (socket = worker ∧ peer = client)

/-- The pair was linked, with these authorizations. -/
def WasPaired (log : List Effect) (id socket peer : Nat) : Prop :=
  ∃ client worker clientAuthorization workerAuthorization,
    .paired id client worker clientAuthorization workerAuthorization ∈ log ∧
      IsPair client worker socket peer

/-- What must have been written before an effect is written. -/
def Follows (log : List Effect) : Effect → Prop
  | .ready socket => ∃ id peer, WasPaired log id socket peer
  | .forwarded sender receiver _ =>
      ∃ id, WasPaired log id sender receiver ∧ .entryClosed id ∉ log
  | _ => True

/-- The log tells of every link and of every entry that has closed. -/
structure Recorded (relay : Relay) : Prop where
  closed : ∀ {id}, .entryClosed id ∈ relay.log → relay.IsClosed id
  paired : ∀ {socket state peer}, relay.core socket = some state →
    state.peer = some peer → WasPaired relay.log state.entry socket peer
  ordered : Chronological Follows relay.log

theorem WasPaired.later {log : List Effect} {id socket peer : Nat}
    (paired : WasPaired log id socket peer) (more : List Effect) :
    WasPaired (log ++ more) id socket peer := by
  obtain ⟨client, worker, clientAuthorization, workerAuthorization, member,
    isPair⟩ := paired
  exact ⟨client, worker, clientAuthorization, workerAuthorization,
    List.mem_append_left _ member, isPair⟩

theorem follows_mute {relay : Relay} {effect : Effect}
    (mute : effect.Mute relay) (log : List Effect) : Follows log effect := by
  have silent := mute.frame
  cases effect <;> trivial

theorem recorded_initial : Recorded initial where
  closed member := by cases member
  paired known := by cases known
  ordered := chronological_nil

theorem Recorded.quiet (recorded : Recorded before)
    (quiet : Quiet before after) : Recorded after := by
  obtain ⟨effects, mute, log⟩ := quiet.log
  constructor
  · intro id member
    rw [log, List.mem_append] at member
    rcases member with was | isNew
    · exact quiet.closed (recorded.closed was)
    · exact (mute _ isNew).closes id rfl
  · intro socket state peer known linked
    rw [log]
    rcases quiet.fresh known with was | ⟨_, alone⟩
    · exact (recorded.paired was linked).later effects
    · rw [alone] at linked
      cases linked
  · rw [log]
    apply recorded.ordered.append
    intro effect member middle
    exact follows_mute (mute effect member) _

theorem Recorded.forwards {socket peer : Nat} {frame : Frame}
    (recorded : Recorded before) (sound : Sound before)
    (forwards : Forwards before after socket peer frame) : Recorded after := by
  obtain ⟨state, _, known, linked, _⟩ := forwards.sender
  constructor
  · intro id member
    rw [forwards.log, List.mem_append] at member
    rw [IsClosed, forwards.entries]
    rcases member with was | isNew
    · exact recorded.closed was
    · cases List.mem_singleton.mp isNew
  · intro other otherState otherPeer otherKnown isLinked
    rw [forwards.core] at otherKnown
    rw [forwards.log]
    exact (recorded.paired otherKnown isLinked).later _
  · rw [forwards.log]
    apply recorded.ordered.snoc
    refine ⟨state.entry, recorded.paired known linked, ?_⟩
    intro member
    exact forwards.isOpen sound known (recorded.closed member)

theorem Recorded.links {id client worker : Nat}
    {clientAuthorization workerAuthorization : Authorization}
    (recorded : Recorded before) (sound : Sound before)
    (links : LinksPair before after id client worker clientAuthorization
      workerAuthorization) : Recorded after := by
  obtain ⟨sockets, effects, tells, mute, log⟩ := links.log
  have paired : ∀ {socket peer}, IsPair client worker socket peer → ∀ more,
      WasPaired (before.log ++ (.paired id client worker clientAuthorization
        workerAuthorization :: more)) id socket peer := by
    intro socket peer isPair more
    exact ⟨client, worker, clientAuthorization, workerAuthorization,
      List.mem_append_right _ List.mem_cons_self, isPair⟩
  constructor
  · intro other member
    rw [log, List.mem_append, List.mem_cons, List.mem_append] at member
    rcases member with was | isPaired | isReady | isNew
    · exact links.closed (recorded.closed was)
    · cases isPaired
    · obtain ⟨_, _, same⟩ := List.mem_map.mp isReady
      cases same
    · exact (mute _ isNew).closes other rfl
  · intro socket last peer known linked
    rw [log]
    rcases links.core_cases sound known with
      ⟨state, other, _, inside, _, rfl, isPair⟩ | ⟨_, _, was⟩
    · cases linked
      change WasPaired _ state.entry socket peer
      rw [inside]
      exact paired isPair _
    · exact (recorded.paired was linked).later _
  · rw [log, List.append_cons]
    have first : Follows before.log (.paired id client worker
      clientAuthorization workerAuthorization) := trivial
    apply (recorded.ordered.snoc first).append
    intro effect member middle
    rcases List.mem_append.mp member with isReady | isMute
    · obtain ⟨socket, told, rfl⟩ := List.mem_map.mp isReady
      rw [List.append_assoc, List.singleton_append]
      rcases (tells.asked socket told).1 with rfl | rfl
      · exact ⟨id, worker, paired (.inl ⟨rfl, rfl⟩) middle⟩
      · exact ⟨id, client, paired (.inr ⟨rfl, rfl⟩) middle⟩
    · exact follows_mute (mute effect isMute) _

theorem Recorded.step {event : Event} (recorded : Recorded before)
    (sound : Sound before) (taken : before.step event = some after) :
    Recorded after := by
  rcases sound.step_writes taken with ⟨quiet, _⟩ | ⟨_, _, _, _, _, forwards⟩ |
    ⟨_, _, _, _, _, _, _, links⟩
  · exact recorded.quiet quiet
  · exact recorded.forwards sound forwards
  · exact recorded.links sound links

theorem Runs.recorded {allowed : Relay → Event → Prop} {events : List Event}
    {relay : Relay} (run : machine.Runs allowed events relay) :
    Recorded relay := by
  have both := run.invariant (fun _ relay => Sound relay ∧ Recorded relay)
    ⟨sound_initial, recorded_initial⟩
    (fun _ facts _ taken => ⟨facts.1.step taken, facts.2.step facts.1 taken⟩)
  exact both.2

end Step

end Relay

end GpuLink
