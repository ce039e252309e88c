import GpuLink.DataPlane.RelayDelivery

/-!
# Who the relay connects

A pair is linked with the authorizations that came back for its grants.  Frames
pass only between its two sockets, and only until its entry closes.
-/

namespace GpuLink

open DataPlane Service

namespace Relay

/-! ## Peers -/

/-- What has been forwarded went to the peer of its socket, and was not reserved
for the server. -/
structure Addressed (relay : Relay) : Prop where
  peer : ∀ {sender receiver frame},
    .forwarded sender receiver frame ∈ relay.log →
      ∃ state, relay.core sender = some state ∧ state.peer = some receiver
  free : ∀ {sender receiver frame},
    .forwarded sender receiver frame ∈ relay.log →
      isReserved frame (relay.core receiver) = false

theorem addressed_initial : Addressed initial where
  peer member := by cases member
  free member := by cases member

theorem isReserved_same {frame : Frame} {left right : Option PeerState}
    (same : left.map PeerState.protocol = right.map PeerState.protocol) :
    isReserved frame left = isReserved frame right := by
  rw [isReserved, isReserved, same]

section Step

variable {before after : Relay}

theorem Addressed.quiet (addressed : Addressed before) (sound : Sound before)
    (quiet : Quiet before after) : Addressed after := by
  obtain ⟨effects, mute, log⟩ := quiet.log
  have earlier : ∀ {sender receiver frame},
      .forwarded sender receiver frame ∈ after.log →
        .forwarded sender receiver frame ∈ before.log := by
    intro sender receiver frame member
    rw [log, List.mem_append] at member
    rcases member with was | isNew
    · exact was
    · cases (mute _ isNew).frame
  constructor
  · intro sender receiver frame member
    obtain ⟨state, known, linked⟩ := addressed.peer (earlier member)
    exact ⟨state, quiet.kept known, linked⟩
  · intro sender receiver frame member
    obtain ⟨state, known, linked⟩ := addressed.peer (earlier member)
    obtain ⟨⟨other, otherKnown, _⟩, _⟩ := sound.linked known linked
    have free := addressed.free (earlier member)
    rw [otherKnown] at free
    rw [quiet.kept otherKnown]
    exact free

theorem Addressed.forwards {socket peer : Nat} {frame : Frame}
    (addressed : Addressed before)
    (forwards : Forwards before after socket peer frame) : Addressed after := by
  obtain ⟨state, _, known, linked, _⟩ := forwards.sender
  constructor
  · intro sender receiver other member
    rw [forwards.core]
    rw [forwards.log, List.mem_append] at member
    rcases member with was | isNew
    · exact addressed.peer was
    · cases List.mem_singleton.mp isNew
      exact ⟨state, known, linked⟩
  · intro sender receiver other member
    rw [forwards.core]
    rw [forwards.log, List.mem_append] at member
    rcases member with was | isNew
    · exact addressed.free was
    · cases List.mem_singleton.mp isNew
      exact forwards.free

theorem Addressed.links {id client worker : Nat}
    {clientAuthorization workerAuthorization : Authorization}
    (addressed : Addressed before) (sound : Sound before)
    (links : LinksPair before after id client worker clientAuthorization
      workerAuthorization) : Addressed after := by
  obtain ⟨sockets, effects, _, mute, log⟩ := links.log
  have earlier : ∀ {sender receiver frame},
      .forwarded sender receiver frame ∈ after.log →
        .forwarded sender receiver frame ∈ before.log := by
    intro sender receiver frame member
    rw [log, List.mem_append, List.mem_cons, List.mem_append] at member
    rcases member with was | isPaired | isReady | isNew
    · exact was
    · cases isPaired
    · obtain ⟨_, _, same⟩ := List.mem_map.mp isReady
      cases same
    · cases (mute _ isNew).frame
  constructor
  · intro sender receiver frame member
    obtain ⟨state, known, linked⟩ := addressed.peer (earlier member)
    obtain ⟨peer, now, _⟩ := links.kept known
    -- A socket that has a peer is not of the pair that has just been linked.
    rcases links.core_cases sound now with
      ⟨other, _, was, _, alone, _⟩ | ⟨_, _, was⟩
    · rw [known] at was
      cases was
      rw [alone] at linked
      cases linked
    · rw [known] at was
      refine ⟨_, now, ?_⟩
      rw [← Option.some.inj was]
      exact linked
  · intro sender receiver frame member
    obtain ⟨state, known, linked⟩ := addressed.peer (earlier member)
    obtain ⟨⟨other, otherKnown, _⟩, _⟩ := sound.linked known linked
    obtain ⟨peer, now, _⟩ := links.kept otherKnown
    rw [now, ← addressed.free (earlier member), otherKnown]
    exact isReserved_same rfl

theorem Addressed.step {event : Event} (addressed : Addressed before)
    (sound : Sound before) (taken : before.step event = some after) :
    Addressed after := by
  rcases sound.step_writes taken with ⟨quiet, _⟩ | ⟨_, _, _, _, _, forwards⟩ |
    ⟨_, _, _, _, _, _, _, links⟩
  · exact addressed.quiet sound quiet
  · exact addressed.forwards forwards
  · exact addressed.links sound links

theorem Runs.addressed {allowed : Relay → Event → Prop} {events : List Event}
    {relay : Relay} (run : machine.Runs allowed events relay) :
    Addressed relay := by
  have both := run.invariant (fun _ relay => Sound relay ∧ Addressed relay)
    ⟨sound_initial, addressed_initial⟩
    (fun _ facts _ taken => ⟨facts.1.step taken, facts.2.step facts.1 taken⟩)
  exact both.2

end Step

/-! ## Grants that are authorized again -/

/-- Both grants of the pair were authorized again, for the allocation of its
entry. -/
structure Reauthorized (events : List Event) (relay : Relay) (id : Nat)
    (clientAuthorization workerAuthorization : Authorization) : Prop where
  client : .granted id .client (.answered (some clientAuthorization)) ∈ events
  worker : .granted id .worker (.answered (some workerAuthorization)) ∈ events
  allocation : relay.SameAllocation id clientAuthorization workerAuthorization

/-- The answers of a pairing have come back for the roles that they are kept
for. -/
structure Granted (events : List Event) (relay : Relay) : Prop where
  client : ∀ {id client worker first second reply}, relay.pairings id =
    some ⟨client, worker, .authorizing first second⟩ → first = some reply →
      .granted id .client reply ∈ events
  worker : ∀ {id client worker first second reply}, relay.pairings id =
    some ⟨client, worker, .authorizing first second⟩ → second = some reply →
      .granted id .worker reply ∈ events
  activating : ∀ {id client worker clientAuthorization workerAuthorization
    accepted}, relay.pairings id = some ⟨client, worker,
      .activating clientAuthorization workerAuthorization accepted⟩ →
      Reauthorized events relay id clientAuthorization workerAuthorization
  paired : ∀ {id client worker clientAuthorization workerAuthorization},
    .paired id client worker clientAuthorization workerAuthorization ∈
      relay.log →
      Reauthorized events relay id clientAuthorization workerAuthorization

theorem granted_initial : Granted [] initial where
  client known := by cases known
  worker known := by cases known
  activating known := by cases known
  paired member := by cases member

theorem answer_cases {first second next other : Option Answer} {role : Role}
    {reply : Answer}
    (answered : answer first second role reply = some (next, other)) :
    (role = .client ∧ next = some reply ∧ other = second) ∨
      (role = .worker ∧ next = first ∧ other = some reply) := by
  unfold answer at answered
  split at answered
  · cases answered
    exact .inl ⟨rfl, rfl, rfl⟩
  · cases answered
    exact .inr ⟨rfl, rfl, rfl⟩
  · cases answered

theorem tryPair_pairings (relay : Relay) (id other : Nat) :
    (relay.tryPair id).pairings other = relay.pairings other ∨
      ∃ client worker, (relay.tryPair id).pairings other =
        some ⟨client, worker, .authorizing none none⟩ := by
  rcases tryPair_cases relay id with same |
    ⟨_, client, worker, _, _, _, _, _, _, begun⟩
  · rw [same]
    exact .inl rfl
  · rw [begun]
    by_cases here : other = id
    · subst here
      exact .inr ⟨client, worker, Function.update_self _ _ _⟩
    · exact .inl (Function.update_of_ne here _ _)

/-- A connection begins a pairing, or leaves all as they were. -/
theorem acceptConnection_pairings (relay : Relay) (socket : Nat)
    (offer : ProtocolOffer) (authorization : Authorization) (id : Nat) :
    (relay.acceptConnection socket offer authorization).pairings id =
        relay.pairings id ∨
      ∃ client worker,
        (relay.acceptConnection socket offer authorization).pairings id =
          some ⟨client, worker, .authorizing none none⟩ := by
  obtain ⟨_, _, _, samePairings, _⟩ :=
    relay.entryFor_frame socket authorization.claims
  rw [← samePairings]
  unfold acceptConnection
  simp only
  split
  · exact .inl rfl
  · split
    · split_ifs
      · left
        rw [(closeSocket_shuts _ _ _ _).pairings]
      · exact tryPair_pairings _ _ id
    · exact tryPair_pairings _ _ id

theorem completeUpgrade_pairings (relay : Relay) (socket : Nat)
    (offer : ProtocolOffer) (authorization : Option Authorization)
    (destroyed : Bool) (id : Nat) :
    (relay.completeUpgrade socket offer authorization destroyed).pairings id =
        relay.pairings id ∨
      ∃ client worker, (relay.completeUpgrade socket offer authorization
        destroyed).pairings id =
          some ⟨client, worker, .authorizing none none⟩ := by
  unfold completeUpgrade
  cases authorization with
  | none => exact .inl rfl
  | some authorization =>
      simp only
      split_ifs
      · exact .inl rfl
      · exact acceptConnection_pairings _ socket offer authorization id

section Step

variable {before after : Relay} {events : List Event}

theorem SameAllocation.changes {touched gone : Nat → Prop} {id : Nat}
    {clientAuthorization workerAuthorization : Authorization}
    (same : before.SameAllocation id clientAuthorization workerAuthorization)
    (changes : Changes before after touched gone) :
    after.SameAllocation id clientAuthorization workerAuthorization := by
  obtain ⟨entry, found, client, worker⟩ := same
  obtain ⟨last, now, grows, _⟩ := changes.entries found
  refine ⟨last, now, ?_, ?_⟩
  · rw [sameAllocation, grows.sessionId, grows.workerId, grows.leaseId]
    exact client
  · rw [sameAllocation, grows.sessionId, grows.workerId, grows.leaseId]
    exact worker

theorem Reauthorized.later {event : Event} {id : Nat}
    {clientAuthorization workerAuthorization : Authorization}
    (was : Reauthorized events before id clientAuthorization
      workerAuthorization) (sound : Sound before)
    (taken : before.step event = some after) :
    Reauthorized (events ++ [event]) after id clientAuthorization
      workerAuthorization where
  client := List.mem_append_left _ was.client
  worker := List.mem_append_left _ was.worker
  allocation := was.allocation.changes (sound.step_changes taken)

theorem Granted.concludes {id client worker : Nat}
    {clientAuthorization workerAuthorization : Authorization}
    (granted : Granted events before)
    (concludes : Concludes before id client worker clientAuthorization
      workerAuthorization) :
    Reauthorized events before id clientAuthorization workerAuthorization := by
  rcases concludes with ⟨known, same⟩ | known
  · exact ⟨granted.client known rfl, granted.worker known rfl, same⟩
  · exact granted.activating known

/-- Every link in the log was made with authorizations that came back. -/
theorem Granted.paired_step {event : Event} (granted : Granted events before)
    (sound : Sound before) (taken : before.step event = some after)
    {id client worker : Nat}
    {clientAuthorization workerAuthorization : Authorization}
    (member : .paired id client worker clientAuthorization
      workerAuthorization ∈ after.log) :
    Reauthorized (events ++ [event]) after id clientAuthorization
      workerAuthorization := by
  rcases sound.step_writes taken with ⟨quiet, _⟩ | ⟨_, _, _, _, _, forwards⟩ |
    ⟨_, _, _, _, _, _, concludes, links⟩
  · obtain ⟨effects, mute, log⟩ := quiet.log
    rw [log, List.mem_append] at member
    rcases member with was | isNew
    · exact (granted.paired was).later sound taken
    · cases (mute _ isNew).frame
  · rw [forwards.log, List.mem_append] at member
    rcases member with was | isNew
    · exact (granted.paired was).later sound taken
    · cases List.mem_singleton.mp isNew
  · obtain ⟨sockets, effects, _, mute, log⟩ := links.log
    rw [log, List.mem_append, List.mem_cons, List.mem_append] at member
    rcases member with was | isPaired | isReady | isNew
    · exact (granted.paired was).later sound taken
    · cases isPaired
      exact (granted.concludes concludes).later sound taken
    · obtain ⟨_, _, same⟩ := List.mem_map.mp isReady
      cases same
    · cases (mute _ isNew).frame

/-- Where a pairing has come from. -/
theorem Sound.pairing_step {event : Event} (sound : Sound before)
    (taken : before.step event = some after)
    {id client worker : Nat} {stage : PairingStage}
    (known : after.pairings id = some ⟨client, worker, stage⟩) :
    before.pairings id = some ⟨client, worker, stage⟩ ∨
      (stage = .authorizing none none) ∨
      (∃ first second role reply next other,
        before.pairings id =
          some ⟨client, worker, .authorizing first second⟩ ∧
        event = .granted id role reply ∧
        answer first second role reply = some (next, other) ∧
          stage = .authorizing next other) ∨
      ∃ clientAuthorization workerAuthorization accepted,
        stage = .activating clientAuthorization workerAuthorization accepted ∧
          ((before.pairings id = some ⟨client, worker,
              .authorizing (some (.answered (some clientAuthorization)))
                (some (.answered (some workerAuthorization)))⟩ ∧
            before.SameAllocation id clientAuthorization
              workerAuthorization) ∨
          before.pairings id = some ⟨client, worker,
            .activating clientAuthorization workerAuthorization none⟩) := by
  have still (same : after.pairings id = before.pairings id) :
      before.pairings id = some ⟨client, worker, stage⟩ := by
    rw [same] at known
    exact known
  cases event with
  | upgraded socket first second destroyed =>
      rw [Relay.step, Option.map_eq_some_iff] at taken
      obtain ⟨offer, _, rfl⟩ := taken
      rcases before.completeUpgrade_pairings socket offer
          (authorizeGrant first second) destroyed id with same |
        ⟨_, _, begun⟩
      · exact .inl (still same)
      · rw [begun] at known
        cases known
        exact .inr (.inl rfl)
  | granted other role reply =>
      by_cases here : other = id
      · subst here
        rw [Relay.step] at taken
        split at taken
        · rename_i first second was
          obtain ⟨answers, answered, rfl⟩ := Option.map_eq_some_iff.mp taken
          simp only [Relay.setPairing, Function.update_self, Option.some.injEq,
            Pairing.mk.injEq] at known
          obtain ⟨rfl, rfl, rfl⟩ := known
          exact .inr (.inr (.inl ⟨_, _, role, reply, _, _, was, rfl, answered,
            rfl⟩))
        · cases taken
      · exact .inl (still ((sound.step_changes taken).pairings here))
  | authorized other =>
      by_cases here : other = id
      · subst here
        rw [Relay.step, stepPairing] at taken
        split at taken
        · rename_i entry pairing found was
          obtain ⟨clientSocket, workerSocket, stage⟩ := pairing
          split at taken
          · rename_i first second isStage
            cases isStage
            split at taken
            · cases taken
            · cases taken
              rw [refusePairing_pairings] at known
              cases known
            · rename_i one two both
              cases taken
              obtain ⟨rfl, rfl⟩ := promiseAll_fulfilled both
              rcases resumePairing_pairings found _ one two with
                finished | ⟨first, second, rfl, rfl, sameClient, sameWorker, called⟩
              · rw [finished] at known
                cases known
              · rw [called] at known
                cases known
                exact .inr (.inr (.inr ⟨first, second, none, rfl,
                  .inl ⟨was, entry, found, sameClient, sameWorker⟩⟩))
          · cases taken
        · cases taken
      · exact .inl (still ((sound.step_changes taken).pairings here))
  | activated other accepted =>
      by_cases here : other = id
      · subst here
        rw [Relay.step] at taken
        split at taken
        · rename_i first second was
          cases taken
          simp only [Relay.setPairing, Function.update_self, Option.some.injEq,
            Pairing.mk.injEq] at known
          obtain ⟨rfl, rfl, rfl⟩ := known
          exact .inr (.inr (.inr ⟨_, _, _, rfl, .inr was⟩))
        · cases taken
      · exact .inl (still ((sound.step_changes taken).pairings here))
  | proceeded other =>
      by_cases here : other = id
      · subst here
        rw [Relay.step, stepActivation] at taken
        split at taken
        · rename_i called
          obtain ⟨entry, found, _⟩ := sound.pairing called
          split_ifs at taken
          · cases taken
            rw [activate_pairings found] at known
            cases known
          · cases taken
            rw [refusePairing_pairings] at known
            cases known
        · cases taken
      · exact .inl (still ((sound.step_changes taken).pairings here))
  | _ => exact .inl (still (congrFun (sound.step_pairings taken rfl) id))

theorem Granted.step {event : Event} (granted : Granted events before)
    (sound : Sound before) (taken : before.step event = some after) :
    Granted (events ++ [event]) after := by
  have earlier : ∀ {id role reply}, Event.granted id role reply ∈ events →
      Event.granted id role reply ∈ events ++ [event] :=
    fun member => List.mem_append_left _ member
  have last : event ∈ events ++ [event] := by simp
  constructor
  · intro id client worker first second reply known is
    rcases sound.pairing_step taken known with was | fresh |
      ⟨one, two, role, answered, next, other, was, rfl, answers, same⟩ |
        ⟨_, _, _, same, _⟩
    · exact earlier (granted.client was is)
    · cases fresh
      cases is
    · cases same
      rcases answer_cases answers with ⟨rfl, rfl, _⟩ | ⟨_, rfl, _⟩
      · cases is
        exact last
      · exact earlier (granted.client was is)
    · cases same
  · intro id client worker first second reply known is
    rcases sound.pairing_step taken known with was | fresh |
      ⟨one, two, role, answered, next, other, was, rfl, answers, same⟩ |
        ⟨_, _, _, same, _⟩
    · exact earlier (granted.worker was is)
    · cases fresh
      cases is
    · cases same
      rcases answer_cases answers with ⟨_, _, rfl⟩ | ⟨rfl, _, rfl⟩
      · exact earlier (granted.worker was is)
      · cases is
        exact last
    · cases same
  · intro id client worker clientAuthorization workerAuthorization accepted
      known
    rcases sound.pairing_step taken known with was | fresh |
      ⟨_, _, _, _, _, _, _, _, _, same⟩ | ⟨_, _, _, same, origin⟩
    · exact (granted.activating was).later sound taken
    · cases fresh
    · cases same
    · cases same
      rcases origin with ⟨was, allocation⟩ | was
      · exact Reauthorized.later ⟨granted.client was rfl, granted.worker was rfl,
          allocation⟩ sound taken
      · exact (granted.activating was).later sound taken
  · intro id client worker clientAuthorization workerAuthorization member
    exact granted.paired_step sound taken member

theorem Runs.granted {allowed : Relay → Event → Prop} {events : List Event}
    {relay : Relay} (run : machine.Runs allowed events relay) :
    Granted events relay := by
  have both := run.invariant
    (fun events relay => Sound relay ∧ Granted events relay)
    ⟨sound_initial, granted_initial⟩
    (fun _ facts _ taken => ⟨facts.1.step taken, facts.2.step facts.1 taken⟩)
  exact both.2

end Step

/-! ## Pairs -/

theorem states_of_core {relay : Relay} {socket : Nat} {state : PeerState}
    (known : relay.core socket = some state) :
    ∃ timed, relay.states socket = some timed ∧ timed.untimed = state := by
  rw [core, Option.map_eq_some_iff] at known
  exact known

/-- A frame went to the peer of its socket, which has the other role in the
same entry; their pair had been linked, with both grants authorized again, and
the entry had not been closed. -/
structure ForwardedWithin (events : List Event) (relay : Relay)
    (earlier : List Effect) (sender receiver : Nat) : Prop where
  opposite : ∃ state other, relay.states sender = some state ∧
    relay.states receiver = some other ∧ state.peer = some receiver ∧
      other.entry = state.entry ∧ other.role = otherRole state.role
  paired : ∃ id client worker clientAuthorization workerAuthorization,
    .paired id client worker clientAuthorization workerAuthorization ∈
        earlier ∧
      IsPair client worker sender receiver ∧
      Reauthorized events relay id clientAuthorization workerAuthorization ∧
      .entryClosed id ∉ earlier

/-- Between any two events the relay connects the right sockets, and no others.
A slot is given up only by a socket that has closed. -/
structure PairsSafe (events : List Event) (relay : Relay) : Prop where
  forwarded : ∀ earlier sender receiver frame later,
    relay.log = earlier ++ .forwarded sender receiver frame :: later →
      ForwardedWithin events relay earlier sender receiver
  listed : ∀ key id, (key, id) ∈ relay.pairs → ∃ entry,
    relay.entries id = some entry ∧ entry.key = key ∧ entry.closed = false
  once : (relay.pairs.map Prod.fst).Nodup
  full : ∀ id entry, relay.entries id = some entry → entry.active = true →
    entry.closed = false → ∃ client worker clientState workerState,
      entry.client = some client ∧ entry.worker = some worker ∧
        relay.states client = some clientState ∧
        relay.states worker = some workerState ∧
        clientState.peer = some worker ∧ workerState.peer = some client
  slots : ∀ event after id entry last role socket,
    relay.step event = some after → relay.entries id = some entry →
      after.entries id = some last → entry.slot role = some socket →
        last.slot role ≠ some socket → after.readyStates socket = some .CLOSED

theorem Sound.mutual {relay : Relay} (sound : Sound relay) {id : Nat}
    {entry : Entry} (found : relay.entries id = some entry)
    (active : entry.active = true) (isOpen : entry.closed = false) :
    ∃ client worker clientState workerState,
      entry.client = some client ∧ entry.worker = some worker ∧
        relay.states client = some clientState ∧
        relay.states worker = some workerState ∧
        clientState.peer = some worker ∧ workerState.peer = some client := by
  obtain ⟨client, clientCore, worker, inClient, clientKnown, clientPeer,
    inWorker⟩ := sound.full found active isOpen .client
  obtain ⟨⟨workerCore, workerKnown, _, _, workerPeer⟩, _⟩ :=
    sound.linked clientKnown clientPeer
  obtain ⟨clientState, clientAt, rfl⟩ := states_of_core clientKnown
  obtain ⟨workerState, workerAt, rfl⟩ := states_of_core workerKnown
  exact ⟨client, worker, clientState, workerState, inClient, inWorker, clientAt,
    workerAt, clientPeer, workerPeer⟩

theorem handleSocketClose_closed (relay : Relay) (socket : Nat) :
    (relay.handleSocketClose socket).readyStates socket = some .CLOSED := by
  have stays : ∀ {earlier : Relay} {id code reason},
      earlier.readyStates socket = some .CLOSED →
        (earlier.closeEntry id code reason).readyStates socket =
          some .CLOSED := by
    intro earlier id code reason closed
    rcases closeEntry_cases earlier id code reason with same |
      ⟨_, _, _, closes⟩
    · rw [same]
      exact closed
    · rcases closes.fades socket with still | ⟨wasOpen, _⟩
      · rw [still]
        exact closed
      · rw [closed] at wasOpen
        cases wasOpen
  have first : Function.update relay.readyStates socket (some .CLOSED) socket =
      some .CLOSED := Function.update_self _ _ _
  unfold handleSocketClose
  simp only
  split
  · exact first
  · split
    · exact first
    · split_ifs
      · exact first
      · split
        · exact stays first
        · exact first
      · split
        · exact stays first
        · exact first

/-- The relay connects the right sockets, whatever happens in what order. -/
theorem pairs_safe {events : List Event} {relay : Relay}
    (run : machine.Reaches events relay) : PairsSafe events relay := by
  have sound := Runs.sound run
  have recorded := Runs.recorded run
  constructor
  · intro earlier sender receiver frame later split
    have member : .forwarded sender receiver frame ∈ relay.log := by
      rw [split]
      exact List.mem_append_right _ List.mem_cons_self
    obtain ⟨state, known, linked⟩ := (Runs.addressed run).peer member
    obtain ⟨⟨other, otherKnown, sameEntry, opposite, _⟩, _⟩ :=
      sound.linked known linked
    obtain ⟨senderState, senderAt, rfl⟩ := states_of_core known
    obtain ⟨receiverState, receiverAt, rfl⟩ := states_of_core otherKnown
    obtain ⟨id, ⟨client, worker, clientAuthorization, workerAuthorization,
      paired, isPair⟩, notClosed⟩ := recorded.ordered _ _ _ split
    have inLog : .paired id client worker clientAuthorization
        workerAuthorization ∈ relay.log := by
      rw [split]
      exact List.mem_append_left _ paired
    exact ⟨⟨senderState, receiverState, senderAt, receiverAt, linked, sameEntry,
      opposite⟩, id, client, worker, clientAuthorization, workerAuthorization,
      paired, isPair, (Runs.granted run).paired inLog, notClosed⟩
  · intro key id member
    exact sound.listed member
  · exact sound.once
  · intro id entry found active isOpen
    exact sound.mutual found active isOpen
  · intro event after id entry last role socket taken found now held other
    obtain ⟨_, same, grows, _⟩ := (sound.step_changes taken).entries found
    rw [now] at same
    cases same
    rcases grows.slots held with still | rfl
    · exact absurd still other
    · rw [Relay.step, Option.ite_none_right_eq_some] at taken
      obtain ⟨_, taken⟩ := taken
      cases taken
      exact relay.handleSocketClose_closed socket

/-- A pair of an active session that a frame passes through. -/
def passingRun (protocol : Subprotocol) (bufferedAmount : Nat) : List Event :=
  connectPair 0 1 protocol sampleId .active ++ grantPair 0 sampleId .active ++
    [.authorized 0, .message 0 ⟨[1, 2, 3], true⟩ bufferedAmount]

theorem pairs_safe_sample : ∃ relay,
    PairsSafe (passingRun .v2 0) relay ∧
      (relay.forwardedFrom 0).map Frame.data = [[1, 2, 3]] := by
  have played := machine.play_get (passingRun .v2 0) (by decide +kernel)
  refine ⟨_, pairs_safe (Machine.reaches_of_play played), ?_⟩
  decide +kernel

/-! ## Readiness -/

/-- What the sockets of the relay are sent, and in which order. -/
structure ReadyFirst (events : List Event) (relay : Relay) : Prop where
  first : ∀ socket state, relay.states socket = some state →
    state.protocol = .v2 → relay.sentTo socket = [] ∨
      ∃ rest, relay.sentTo socket = .ready :: rest ∧ .ready ∉ rest
  paired : ∀ earlier socket later,
    relay.log = earlier ++ .ready socket :: later →
      ∃ id client worker clientAuthorization workerAuthorization,
        .paired id client worker clientAuthorization workerAuthorization ∈
            earlier ∧
          (socket = client ∨ socket = worker) ∧
          Reauthorized events relay id clientAuthorization
            workerAuthorization
  linked : ∀ socket, .ready ∈ relay.sentTo socket →
    ∃ state peer other, relay.states socket = some state ∧
      state.peer = some peer ∧ relay.states peer = some other ∧
        other.peer = some socket
  legacy : ∀ socket state, relay.states socket = some state →
    state.protocol = .v1 → .ready ∉ relay.sentTo socket
  reserved : ∀ sender receiver frame state,
    .forwarded sender receiver frame ∈ relay.log →
      relay.states receiver = some state → state.protocol = .v2 →
        frame.isBinary = false → utf8Text frame.data ≠ relayReadyV2
  /-- Frames are forwarded as they have come in, in their order, and all of them
  as long as the entry is open. -/
  order : ∀ socket, relay.forwardedFrom socket <+: messagesFrom socket events
  all : ∀ socket state entry, relay.states socket = some state →
    relay.entries state.entry = some entry → entry.closed = false →
      relay.forwardedFrom socket = messagesFrom socket events
  /-- A frame that fits is forwarded, when its receiver can take it. -/
  passes : ∀ socket frame bufferedAmount after state peer entry,
    relay.step (.message socket frame bufferedAmount) = some after →
      relay.states socket = some state → state.peer = some peer →
        relay.entries state.entry = some entry → entry.active = true →
          isReserved frame (relay.states peer) = false →
            validateDataPlaneFrameSize frame.data.length = true →
              relay.readyStates peer = some .OPEN →
                isDataPlaneBackpressured bufferedAmount = false →
                  after.log = relay.log ++ [.forwarded socket peer frame]

theorem handleMessage_passes {relay : Relay} {socket peer : Nat} {frame : Frame}
    {bufferedAmount : Nat} {state : PeerState} {entry : Entry}
    (stated : relay.states socket = some state)
    (linked : state.peer = some peer)
    (found : relay.entries state.entry = some entry)
    (active : entry.active = true)
    (free : isReserved frame (relay.states peer) = false)
    (fits : validateDataPlaneFrameSize frame.data.length = true)
    (isOpen : relay.readyStates peer = some .OPEN)
    (drained : isDataPlaneBackpressured bufferedAmount = false) :
    (relay.handleMessage socket frame bufferedAmount).log =
      relay.log ++ [.forwarded socket peer frame] := by
  have alike := relay.resetIdleTimers_alike entry
  unfold handleMessage
  simp only [stated, found, linked, active, free, fits, isOpen, drained,
    not_true, if_false, ne_eq, Bool.false_eq_true]
  rw [emit, alike.log]

/-- Who has asked for the readiness frame gets it first, and from the relay. -/
theorem ready_first {events : List Event} {relay : Relay}
    (run : machine.Reaches events relay) : ReadyFirst events relay := by
  have sound := Runs.sound run
  have told := Runs.told run
  have passed := Runs.passed run
  constructor
  · intro socket state stated asks
    exact told.first (core_of_states stated) asks
  · intro earlier socket later split
    obtain ⟨id, peer, client, worker, clientAuthorization, workerAuthorization,
      paired, isPair⟩ := (Runs.recorded run).ordered _ _ _ split
    have inLog : .paired id client worker clientAuthorization
        workerAuthorization ∈ relay.log := by
      rw [split]
      exact List.mem_append_left _ paired
    refine ⟨id, client, worker, clientAuthorization, workerAuthorization,
      paired, ?_, (Runs.granted run).paired inLog⟩
    rcases isPair with ⟨isClient, _⟩ | ⟨isWorker, _⟩
    · exact .inl isClient
    · exact .inr isWorker
  · intro socket sent
    obtain ⟨state, known, linked⟩ := told.linked (List.ne_nil_of_mem sent)
    obtain ⟨peer, linked⟩ := Option.isSome_iff_exists.mp linked
    obtain ⟨⟨other, otherKnown, _, _, back⟩, _⟩ := sound.linked known linked
    obtain ⟨timed, stated, rfl⟩ := states_of_core known
    obtain ⟨otherTimed, otherStated, rfl⟩ := states_of_core otherKnown
    exact ⟨timed, peer, otherTimed, stated, linked, otherStated, back⟩
  · intro socket state stated isLegacy sent
    obtain ⟨other, known, asks⟩ := told.asked sent
    rw [core_of_states stated] at known
    cases known
    rw [show state.untimed.protocol = state.protocol from rfl, isLegacy] at asks
    cases asks
  · intro sender receiver frame state member stated asks text same
    have free := (Runs.addressed run).free member
    rw [core_of_states stated] at free
    have reserved : isReserved frame (some state.untimed) = true := by
      simp [isReserved, text, same, PeerState.untimed, asks]
    rw [reserved] at free
    cases free
  · exact passed.order
  · intro socket state entry stated found isOpen
    apply passed.all (core_of_states stated)
    rintro ⟨other, same, closed⟩
    rw [show state.untimed.entry = state.entry from rfl, found] at same
    cases same
    rw [isOpen] at closed
    cases closed
  · intro socket frame bufferedAmount after state peer entry taken stated linked
      found active free fits isOpen drained
    rw [Relay.step, Option.ite_none_right_eq_some] at taken
    obtain ⟨_, taken⟩ := taken
    cases taken
    exact handleMessage_passes stated linked found active free fits isOpen
      drained

theorem ready_first_sample : ∃ relay,
    ReadyFirst (passingRun .v2 0) relay ∧ (relay.sentTo 1).length = 2 := by
  have played := machine.play_get (passingRun .v2 0) (by decide +kernel)
  refine ⟨_, ready_first (Machine.reaches_of_play played), ?_⟩
  decide +kernel

/-- A frame of an active pair is dropped, with the pair, where its receiver does
not keep up. -/
theorem frame_dropped :
    ¬ ∀ events before socket frame bufferedAmount after state entry,
      machine.Reaches events before →
        before.step (.message socket frame bufferedAmount) = some after →
          before.states socket = some state →
            before.entries state.entry = some entry → entry.active = true →
              entry.closed = false → frame.isBinary = true →
                ∃ peer, .forwarded socket peer frame ∈ after.log := by
  intro all
  let earlier := connectPair 0 1 .v2 sampleId .active ++
    grantPair 0 sampleId .active ++ [.authorized 0]
  have played := machine.play_get earlier (by decide +kernel)
  obtain ⟨peer, member⟩ := all earlier _ 0 ⟨[1, 2, 3], true⟩ 4194305 _ _ _
    (Machine.reaches_of_play played) rfl rfl rfl rfl rfl rfl
  have none : ∀ effect ∈ (machine.play (passingRun .v2 4194305)).elim []
      Relay.log, (effect.forwardedFrom 0).isNone := by decide +kernel
  cases none _ member

end Relay

end GpuLink
