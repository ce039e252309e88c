import GpuLink.DataPlane.RelayPairing

/-!
# What an event changes

An event concerns few entries.  The others, and their sockets, are as they
were; and no entry loses what it has come to, or a socket that has not closed.
-/

namespace GpuLink

open DataPlane Service

namespace Relay

/-- How an entry goes on; `gone` are the sockets that may have left it. -/
structure Entry.Grows (first last : Entry) (gone : Nat → Prop) : Prop where
  key : last.key = first.key
  sessionId : last.sessionId = first.sessionId
  workerId : last.workerId = first.workerId
  leaseId : last.leaseId = first.leaseId
  active : first.active = true → last.active = true
  closed : first.closed = true → last.closed = true
  slots : ∀ {role socket}, first.slot role = some socket →
    last.slot role = some socket ∨ gone socket

theorem Entry.grows_refl (entry : Entry) (gone : Nat → Prop) :
    entry.Grows entry gone :=
  ⟨rfl, rfl, rfl, rfl, fun is => is, fun is => is, .inl⟩

theorem Entry.Grows.trans {first second third : Entry} {gone : Nat → Prop}
    (left : first.Grows second gone) (right : second.Grows third gone) :
    first.Grows third gone where
  key := right.key.trans left.key
  sessionId := right.sessionId.trans left.sessionId
  workerId := right.workerId.trans left.workerId
  leaseId := right.leaseId.trans left.leaseId
  active was := right.active (left.active was)
  closed was := right.closed (left.closed was)
  slots held := by
    rcases left.slots held with still | left
    · exact right.slots still
    · exact .inr left

/-- How a state goes on. -/
structure PeerState.Grows (first last : PeerState) : Prop where
  entry : last.entry = first.entry
  role : last.role = first.role
  protocol : last.protocol = first.protocol
  claims : last.claims = first.claims

/-- Only these entries, and their sockets, may have changed. -/
structure Changes (before after : Relay) (touched gone : Nat → Prop) :
    Prop where
  entries : ∀ {id entry}, before.entries id = some entry →
    ∃ last, after.entries id = some last ∧ entry.Grows last gone ∧
      (¬touched id → last = entry)
  pairings : ∀ {id}, ¬touched id → after.pairings id = before.pairings id
  states : ∀ {socket state}, before.core socket = some state →
    ∃ last, after.core socket = some last ∧ state.Grows last ∧
      (¬touched state.entry → last = state ∧
        after.readyStates socket = before.readyStates socket)

section Changes

variable {before after : Relay} {touched gone : Nat → Prop}

theorem Changes.trans {middle : Relay}
    (left : Changes before middle touched gone)
    (right : Changes middle after touched gone) :
    Changes before after touched gone where
  entries found := by
    obtain ⟨between, known, grows, same⟩ := left.entries found
    obtain ⟨last, now, further, still⟩ := right.entries known
    refine ⟨last, now, grows.trans further, ?_⟩
    intro outside
    exact (still outside).trans (same outside)
  pairings outside := (right.pairings outside).trans (left.pairings outside)
  states known := by
    obtain ⟨between, found, grows, same⟩ := left.states known
    obtain ⟨last, now, further, still⟩ := right.states found
    refine ⟨last, now, ⟨further.entry.trans grows.entry,
      further.role.trans grows.role, further.protocol.trans grows.protocol,
      further.claims.trans grows.claims⟩, ?_⟩
    intro outside
    obtain ⟨rfl, ready⟩ := same outside
    obtain ⟨rfl, later⟩ := still outside
    exact ⟨rfl, later.trans ready⟩

theorem changes_of_same (entries : after.entries = before.entries)
    (core : after.core = before.core)
    (readyStates : after.readyStates = before.readyStates)
    (pairings : after.pairings = before.pairings) :
    Changes before after touched gone where
  entries {id entry} found := by
    rw [entries]
    exact ⟨entry, found, entry.grows_refl gone, fun _ => rfl⟩
  pairings _ := by rw [pairings]
  states {socket state} known := by
    rw [core, readyStates]
    exact ⟨state, known, ⟨rfl, rfl, rfl, rfl⟩, fun _ => ⟨rfl, rfl⟩⟩

theorem Alike.changes (alike : Alike before after) :
    Changes before after touched gone :=
  changes_of_same alike.entries alike.core alike.readyStates alike.pairings

theorem SamePairs.changes (same : SamePairs before after) :
    Changes before after touched gone := by
  refine changes_of_same same.entries ?_ same.readyStates same.pairings
  funext socket
  rw [core, core, same.states]

/-- A change of one entry, and of nothing else but its pairing. -/
theorem changes_of_entry {id : Nat} {entry last : Entry} (here : touched id)
    (found : before.entries id = some entry)
    (entries : after.entries = Function.update before.entries id (some last))
    (grows : entry.Grows last gone) (core : after.core = before.core)
    (readyStates : after.readyStates = before.readyStates)
    (pairings : ∀ {other}, other ≠ id →
      after.pairings other = before.pairings other) :
    Changes before after touched gone where
  entries {other held} known := by
    rw [entries]
    by_cases same : other = id
    · subst same
      rw [found] at known
      cases known
      exact ⟨last, Function.update_self _ _ _, grows,
        fun outside => absurd here outside⟩
    · exact ⟨held, (Function.update_of_ne same _ _).trans known,
        held.grows_refl gone, fun _ => rfl⟩
  pairings {other} outside := by
    apply pairings
    rintro rfl
    exact outside here
  states {socket state} known := by
    rw [core, readyStates]
    exact ⟨state, known, ⟨rfl, rfl, rfl, rfl⟩, fun _ => ⟨rfl, rfl⟩⟩

theorem Ends.changes {id : Nat} {first last : Entry}
    (ends : Ends before after id first last) (here : touched id)
    (identity : last.key = first.key ∧ last.sessionId = first.sessionId ∧
      last.workerId = first.workerId ∧ last.leaseId = first.leaseId)
    (leaves : ∀ {role socket}, first.slot role = some socket →
      last.slot role = some socket ∨ gone socket) :
    Changes before after touched gone where
  entries {other held} known := by
    rw [ends.entries]
    by_cases same : other = id
    · subst same
      rw [ends.found] at known
      cases known
      refine ⟨last, Function.update_self _ _ _, ⟨identity.1, identity.2.1,
        identity.2.2.1, identity.2.2.2, ?_, fun _ => ends.closed, leaves⟩,
        fun outside => absurd here outside⟩
      intro active
      exact ends.active.trans active
    · exact ⟨held, (Function.update_of_ne same _ _).trans known,
        held.grows_refl gone, fun _ => rfl⟩
  pairings _ := by rw [ends.pairings]
  states {socket state} known := by
    rw [ends.core]
    refine ⟨state, known, ⟨rfl, rfl, rfl, rfl⟩, ?_⟩
    intro outside
    refine ⟨rfl, ends.elsewhere known ?_⟩
    rintro rfl
    exact outside here

/-- The slots of an entry hold sockets that know it. -/
def SlotsKnown (relay : Relay) (id : Nat) : Prop :=
  ∀ {entry role socket}, relay.entries id = some entry →
    entry.slot role = some socket →
      ∃ state, relay.core socket = some state ∧ state.entry = id

theorem Sound.slotsKnown (sound : Sound before) (id : Nat) :
    SlotsKnown before id := by
  intro entry role socket found held
  obtain ⟨state, known, isEntry, _⟩ := sound.slots found held
  exact ⟨state, known, isEntry⟩

theorem closeEntry_changes {id : Nat} (known : SlotsKnown before id)
    (here : touched id) (code : CloseCode) (reason : String) :
    Changes before (before.closeEntry id code reason) touched gone := by
  rcases closeEntry_cases before id code reason with same |
    ⟨entry, found, isOpen, closes⟩
  · rw [same]
    exact (alike_refl before).changes
  · refine ⟨?_, ?_, ?_⟩
    · intro other held inBefore
      rw [closes.entries]
      by_cases same : other = id
      · subst same
        rw [found] at inBefore
        cases inBefore
        refine ⟨_, Function.update_self _ _ _, ⟨rfl, rfl, rfl, rfl,
          fun is => is, fun _ => rfl, ?_⟩, fun outside => absurd here outside⟩
        intro role socket held
        left
        cases role <;> exact held
      · exact ⟨held, (Function.update_of_ne same _ _).trans inBefore,
          held.grows_refl gone, fun _ => rfl⟩
    · intro other _
      rw [closes.pairings]
    · intro socket state inBefore
      rw [closes.core]
      refine ⟨state, inBefore, ⟨rfl, rfl, rfl, rfl⟩, ?_⟩
      intro outside
      refine ⟨rfl, closes.kept socket ?_⟩
      intro role held
      obtain ⟨other, same, isEntry⟩ := known found held
      rw [inBefore] at same
      cases same
      rw [isEntry] at outside
      exact outside here

theorem finishPairing_changes {id : Nat} (here : touched id)
    (relay : Relay) : Changes relay (relay.finishPairing id) touched gone := by
  have pairings : ∀ {other}, other ≠ id →
      (relay.finishPairing id).pairings other = relay.pairings other := by
    intro other different
    rw [finishPairing_pairings, Function.update_of_ne different]
  cases found : relay.entries id with
  | none =>
      refine ⟨?_, ?_, ?_⟩
      · intro other entry known
        refine ⟨entry, ?_, entry.grows_refl gone, fun _ => rfl⟩
        have different : other ≠ id := by
          rintro rfl
          rw [found] at known
          cases known
        rw [finishPairing]
        simp only [Function.update_of_ne different]
        exact known
      · intro other outside
        apply pairings
        rintro rfl
        exact outside here
      · intro socket state known
        exact ⟨state, known, ⟨rfl, rfl, rfl, rfl⟩, fun _ => ⟨rfl, rfl⟩⟩
  | some entry =>
      refine changes_of_entry here found (finishPairing_entries found) ?_ rfl rfl
        pairings
      refine ⟨rfl, rfl, rfl, rfl, fun is => is,
        fun is => is, ?_⟩
      intro role socket held
      left
      cases role <;> exact held

theorem tryPair_changes {id : Nat} (here : touched id) (relay : Relay) :
    Changes relay (relay.tryPair id) touched gone := by
  rcases tryPair_cases relay id with same | ⟨entry, client, worker, found,
    _, _, _, _, _, begun⟩
  · rw [same]
    exact (alike_refl relay).changes
  · rw [begun]
    refine changes_of_entry here found rfl ⟨rfl, rfl, rfl, rfl, fun is => is,
        fun is => is, ?_⟩ rfl
      rfl ?_
    · intro role socket held
      left
      cases role <;> exact held
    · intro other different
      exact Function.update_of_ne different _ _

theorem refusePairing_changes (sound : Sound before) {id : Nat}
    (here : touched id) :
    Changes before (before.refusePairing id) touched gone :=
  (closeEntry_changes (sound.slotsKnown id) here _ _).trans
    (finishPairing_changes here _)

theorem setPairing_changes {id : Nat} (here : touched id) (relay : Relay)
    (pairing : Pairing) :
    Changes relay (relay.setPairing id pairing) touched gone := by
  refine ⟨?_, ?_, ?_⟩
  · intro other entry known
    exact ⟨entry, known, entry.grows_refl gone, fun _ => rfl⟩
  · intro other outside
    apply Function.update_of_ne
    rintro rfl
    exact outside here
  · intro socket state known
    exact ⟨state, known, ⟨rfl, rfl, rfl, rfl⟩, fun _ => ⟨rfl, rfl⟩⟩

theorem Activates.changes (sound : Sound before) {id client worker : Nat}
    {entry : Entry} (here : touched id)
    (found : before.entries id = some entry)
    (inClient : entry.client = some client)
    (inWorker : entry.worker = some worker)
    (activates : Activates before after id entry client worker) :
    Changes before after touched gone := by
  obtain ⟨clientState, clientKnown, clientEntry, _⟩ :=
    sound.slots found (show entry.slot .client = some client from inClient)
  obtain ⟨workerState, workerKnown, workerEntry, _⟩ :=
    sound.slots found (show entry.slot .worker = some worker from inWorker)
  refine ⟨?_, ?_, ?_⟩
  · intro other held known
    rw [activates.entries]
    by_cases same : other = id
    · subst same
      rw [found] at known
      cases known
      refine ⟨_, Function.update_self _ _ _, ⟨rfl, rfl, rfl, rfl, fun _ => rfl,
        fun is => is, ?_⟩, fun outside => absurd here outside⟩
      intro role socket held
      left
      cases role <;> exact held
    · exact ⟨held, (Function.update_of_ne same _ _).trans known,
        held.grows_refl gone, fun _ => rfl⟩
  · intro other _
    rw [activates.pairings]
  · intro socket state known
    rw [activates.readyStates]
    by_cases isClient : socket = client
    · subst isClient
      rw [clientKnown] at known
      cases known
      refine ⟨_, activates.links.atClient clientKnown, ⟨rfl, rfl, rfl, rfl⟩, ?_⟩
      intro outside
      rw [clientEntry] at outside
      exact absurd here outside
    · by_cases isWorker : socket = worker
      · subst isWorker
        rw [workerKnown] at known
        cases known
        refine ⟨_, activates.links.atWorker workerKnown, ⟨rfl, rfl, rfl, rfl⟩,
          ?_⟩
        intro outside
        rw [workerEntry] at outside
        exact absurd here outside
      · rw [activates.links.elsewhere isClient isWorker]
        exact ⟨state, known, ⟨rfl, rfl, rfl, rfl⟩, fun _ => ⟨rfl, rfl⟩⟩

theorem Activates.slotsKnown (sound : Sound before) {id client worker : Nat}
    {entry : Entry} (found : before.entries id = some entry)
    (inClient : entry.client = some client)
    (inWorker : entry.worker = some worker)
    (activates : Activates before after id entry client worker) :
    SlotsKnown after id := by
  intro last role socket known held
  rw [activates.entries, Function.update_self] at known
  cases known
  have held : entry.slot role = some socket := by
    cases role <;> exact held
  obtain ⟨state, inCore, isEntry, _⟩ := sound.slots found held
  have changes : Changes before after (· = id) (fun _ => False) :=
    activates.changes sound rfl found inClient inWorker
  obtain ⟨last, now, grows, _⟩ := changes.states inCore
  exact ⟨last, now, grows.entry.trans isEntry⟩

theorem announce_changes {id : Nat} (known : SlotsKnown before id)
    (here : touched id) (sockets : List Nat) :
    Changes before (before.announce id sockets) touched gone := by
  rw [announce_eq]
  have written : Changes before (before.withReady (before.told sockets))
      touched gone :=
    changes_of_same rfl rfl rfl rfl
  have stillKnown : SlotsKnown (before.withReady (before.told sockets)) id :=
    known
  split_ifs
  · exact written
  · exact written.trans (closeEntry_changes stillKnown here _ _)

theorem activate_changes (sound : Sound before) {id : Nat} {pairing : Pairing}
    (paired : before.pairings id = some pairing) (here : touched id)
    (clientAuthorization workerAuthorization : Authorization) :
    Changes before (before.activate id clientAuthorization workerAuthorization)
      touched gone := by
  obtain ⟨entry, found, _, _, slots⟩ := sound.pairing paired
  cases closed : entry.closed with
  | true =>
      rw [activate_closed found closed]
      exact finishPairing_changes here _
  | false =>
      obtain ⟨inClient, inWorker⟩ := slots closed
      have activates := linkedUp_activates before id entry
        (sound.apart found inClient inWorker) clientAuthorization
        workerAuthorization
      rw [activate_linked found closed inClient inWorker]
      refine Changes.trans ?_ (finishPairing_changes here _)
      refine Changes.trans ?_ (announce_changes
        (activates.slotsKnown sound found inClient inWorker) here _)
      exact activates.changes sound here found inClient inWorker

theorem resumePairing_changes (sound : Sound before) {id : Nat} {entry : Entry}
    {pairing : Pairing} (paired : before.pairings id = some pairing)
    (here : touched id) (client worker : Option Authorization) :
    Changes before (before.resumePairing id entry pairing client worker)
      touched gone := by
  unfold resumePairing
  split_ifs
  · exact refusePairing_changes sound here
  · split
    · split_ifs
      · exact setPairing_changes here _ _
      · exact (closeEntry_changes (sound.slotsKnown id) here _ _).trans
          (finishPairing_changes here _)
      · exact activate_changes sound paired here _ _
    · exact refusePairing_changes sound here

/-! ### Sockets -/

/-- Sockets that may change are of entries that may. -/
theorem changes_of_readyStates (entries : after.entries = before.entries)
    (core : after.core = before.core)
    (pairings : after.pairings = before.pairings)
    (kept : ∀ {socket state}, before.core socket = some state →
      ¬touched state.entry →
        after.readyStates socket = before.readyStates socket) :
    Changes before after touched gone where
  entries {id entry} found := by
    rw [entries]
    exact ⟨entry, found, entry.grows_refl gone, fun _ => rfl⟩
  pairings _ := by rw [pairings]
  states {socket state} known := by
    rw [core]
    exact ⟨state, known, ⟨rfl, rfl, rfl, rfl⟩,
      fun outside => ⟨rfl, kept known outside⟩⟩

theorem beginClosing_changes {socket : Nat}
    (here : ∀ {state}, before.core socket = some state → touched state.entry) :
    Changes before (before.beginClosing socket) touched gone := by
  unfold beginClosing
  split
  · refine changes_of_readyStates rfl rfl rfl ?_
    intro other state known outside
    apply Function.update_of_ne
    rintro rfl
    exact outside (here known)
  · exact (alike_refl before).changes

theorem handleSocketClose_changes (sound : Sound before) {socket : Nat}
    (known : (before.readyStates socket).isSome)
    (here : ∀ {state}, before.core socket = some state → touched state.entry)
    (leaves : gone socket) :
    Changes before (before.handleSocketClose socket) touched gone := by
  rcases handleSocketClose_cases sound known with disconnects |
    ⟨state, first, inCore, ends⟩
  · refine changes_of_readyStates disconnects.entries disconnects.core
      disconnects.pairings ?_
    intro other state inCore outside
    rw [disconnects.readyStates]
    apply Function.update_of_ne
    rintro rfl
    exact outside (here inCore)
  · refine ends.changes (here inCore) ?_ ?_
    · cases state.role <;> exact ⟨rfl, rfl, rfl, rfl⟩
    · intro role other held
      by_cases same : role = state.role
      · right
        obtain ⟨_, entry, entered, slot, _⟩ := sound.entered inCore
        rw [ends.found] at entered
        cases entered
        have slot := (slot ends.isOpen).1
        rw [← same, held] at slot
        cases slot
        exact leaves
      · left
        have still := first.slot_setSlot_other same none
        rw [held] at still
        cases role <;> exact still

theorem closeSocket_changes {socket : Nat} (relay : Relay) (code : CloseCode)
    (reason : String) (unstated : relay.core socket = none) :
    Changes relay (relay.closeSocket socket code reason) touched gone := by
  have shuts := relay.closeSocket_shuts socket code reason
  apply changes_of_readyStates shuts.entries shuts.core shuts.pairings
  intro other state known _
  apply shuts.kept
  rintro rfl
  rw [unstated] at known
  cases known

/-! ### Connections -/

theorem opened_changes (sound : Sound before) {socket : Nat}
    (fresh : before.readyStates socket = none) :
    Changes before (before.opened socket) touched gone := by
  refine changes_of_readyStates rfl rfl rfl ?_
  intro other state known _
  apply Function.update_of_ne
  rintro rfl
  rw [sound.unstated fresh] at known
  cases known

theorem entryFor_changes {socket : Nat} (unmade : before.entries socket = none)
    (claims : Claims) :
    Changes before (before.entryFor socket claims).1 touched gone := by
  unfold entryFor
  split
  · exact (alike_refl before).changes
  · refine ⟨?_, fun _ => rfl, ?_⟩
    · intro id entry found
      refine ⟨entry, ?_, entry.grows_refl gone, fun _ => rfl⟩
      have different : id ≠ socket := by
        rintro rfl
        rw [unmade] at found
        cases found
      exact (Function.update_of_ne different _ _).trans found
    · intro other state known
      exact ⟨state, known, ⟨rfl, rfl, rfl, rfl⟩, fun _ => ⟨rfl, rfl⟩⟩

theorem occupySlot_changes {id socket : Nat} {entry : Entry}
    (here : touched id) (found : before.entries id = some entry)
    (offer : ProtocolOffer) (claims : Claims)
    (vacant : entry.slot claims.role = none)
    (unstated : before.core socket = none) :
    Changes before (before.occupySlot id entry socket offer claims) touched
      gone := by
  refine ⟨?_, fun _ => rfl, ?_⟩
  · intro other held known
    by_cases same : other = id
    · subst same
      rw [found] at known
      cases known
      refine ⟨_, Function.update_self other _ before.entries, ⟨?_, ?_, ?_, ?_,
        ?_, ?_, ?_⟩, fun outside => absurd here outside⟩
      · exact Entry.setSlot_key _ _ _
      · cases claims.role <;> rfl
      · cases claims.role <;> rfl
      · cases claims.role <;> rfl
      · rw [Entry.setSlot_active]
        exact fun is => is
      · rw [Entry.setSlot_closed]
        exact fun is => is
      · intro role other held
        left
        by_cases same : role = claims.role
        · rw [same, vacant] at held
          cases held
        · rw [Entry.slot_setSlot_other _ same]
          exact held
    · exact ⟨held, (Function.update_of_ne same _ _).trans known,
        held.grows_refl gone, fun _ => rfl⟩
  · intro other state known
    have different : other ≠ socket := by
      rintro rfl
      rw [unstated] at known
      cases known
    rw [occupySlot_core, Function.update_of_ne different]
    exact ⟨state, known, ⟨rfl, rfl, rfl, rfl⟩, fun _ => ⟨rfl, rfl⟩⟩

/-- Only entries with an empty slot take a connection. -/
theorem acceptConnection_changes (sound : Sound before) {socket : Nat}
    (isKnown : (before.readyStates socket).isSome)
    (unmade : before.entries socket = none)
    (unstated : before.core socket = none) (offer : ProtocolOffer)
    (authorization : Authorization)
    (vacancies : ∀ {id}, (∀ {entry}, before.entries id = some entry →
      ∃ role, entry.slot role = none) → touched id) :
    Changes before (before.acceptConnection socket offer authorization)
      touched gone := by
  have making : Changes before
      (before.entryFor socket authorization.claims).1 touched gone :=
    entryFor_changes unmade authorization.claims
  obtain ⟨_, sameCore, _⟩ := before.entryFor_frame socket authorization.claims
  obtain ⟨made, entry, found, isOpen, _⟩ :=
    sound.entryFor isKnown unmade authorization.claims
  rw [← sameCore] at unstated
  unfold acceptConnection
  simp only [found]
  split
  · rename_i existing held
    rw [if_pos (made.occupied found isOpen held)]
    exact making.trans (closeSocket_changes _ _ _ unstated)
  · rename_i vacant
    have here : touched (before.entryFor socket authorization.claims).2 := by
      apply vacancies
      intro earlier known
      have untouched : Changes before
          (before.entryFor socket authorization.claims).1 (fun _ => False)
          gone :=
        entryFor_changes unmade authorization.claims
      obtain ⟨last, now, _, same⟩ := untouched.entries known
      rw [found] at now
      cases now
      rw [← same not_false]
      exact ⟨authorization.claims.role, vacant⟩
    refine making.trans (Changes.trans ?_ (tryPair_changes here _))
    exact occupySlot_changes here found offer authorization.claims vacant
      unstated

/-! ### Every event -/

/-- The entry of the socket. -/
def IsEntryOf (relay : Relay) (socket id : Nat) : Prop :=
  ∃ state, relay.core socket = some state ∧ state.entry = id

/-- The entries that an event may change. -/
def Event.touches (relay : Relay) (id : Nat) : Event → Prop
  | .upgraded _ _ _ _ =>
      ∀ entry, relay.entries id = some entry → ∃ role, entry.slot role = none
  | .granted entry _ _ | .authorized entry | .activated entry _
  | .proceeded entry => entry = id
  | .message socket _ _ | .sendFailed socket _ | .closing socket
  | .errored socket | .close socket | .peerTimeout socket
  | .idleTimeout socket => relay.IsEntryOf socket id
  | .revalidated => ∃ client worker rest,
      relay.revalidation = some ⟨some (id, client, worker), rest⟩
  | .shutDown | .terminate => True
  | .upgrade _ _ | .alive _ | .notified | .looked _ _ | .settled | .stop => False

theorem handleMessage_changes (sound : Sound before) (socket : Nat)
    (frame : Frame) (bufferedAmount : Nat)
    (here : ∀ {state}, before.core socket = some state → touched state.entry) :
    Changes before (before.handleMessage socket frame bufferedAmount) touched
      gone := by
  unfold handleMessage
  cases stateful : before.states socket with
  | none => exact (alike_refl before).changes
  | some state =>
      have known := core_of_states stateful
      have here : touched state.untimed.entry := here known
      have closing : ∀ code reason,
          Changes before (before.closeEntry state.entry code reason) touched
            gone :=
        closeEntry_changes (sound.slotsKnown _) here
      have forwarding : ∀ entry peer, Changes before ((before.resetIdleTimers
          entry).emit (.forwarded socket peer frame)) touched gone := by
        intro entry peer
        have alike := resetIdleTimers_alike before entry
        exact changes_of_same alike.entries alike.core alike.readyStates
          alike.pairings
      simp only
      split
      · split_ifs <;> first | exact closing _ _ | exact forwarding _ _
      · exact closing _ _

theorem peerTimeout_changes (sound : Sound before) (socket : Nat)
    {state : PeerState} (here : touched state.entry) :
    Changes before (before.peerTimeout socket state) touched gone := by
  have alike := clearPeerTimer_alike before socket
  unfold peerTimeout
  simp only
  split
  · exact alike.changes
  · split_ifs
    · exact alike.changes
    · exact alike.changes.trans
        (closeEntry_changes ((sound.alike alike).slotsKnown _) here _ _)

theorem idleTimeout_changes (sound : Sound before) (socket : Nat)
    {state : PeerState} (here : touched state.entry) :
    Changes before (before.idleTimeout socket state) touched gone := by
  have alike : Alike before (before.modifyState socket (fun state =>
      { state with idleTimer := false })) :=
    modifyState_alike before socket (fun _ => rfl)
  exact alike.changes.trans
    (closeEntry_changes ((sound.alike alike).slotsKnown _) here _ _)

theorem resumeRevalidation_changes (sound : Sound before) {id : Nat}
    (here : touched id) (rest : List Nat)
    (client worker : Option Authorization) :
    Changes before (before.resumeRevalidation id rest client worker) touched
      gone := by
  unfold resumeRevalidation
  split
  · exact (alike_refl before).changes
  · split_ifs
    · exact (closeEntry_changes (sound.slotsKnown id) here _ _).trans
        (nextEntry_samePairs _ _).changes
    · exact (nextEntry_samePairs _ _).changes

theorem shutDown_changes (sound : Sound before) (all : ∀ id, touched id) :
    Changes before before.shutDown touched gone := by
  unfold shutDown
  induction before.pairs generalizing before with
  | nil => exact (alike_refl before).changes
  | cons pair rest induction =>
      exact (closeEntry_changes (sound.slotsKnown pair.2) (all pair.2) _
        _).trans (induction (sound.closeEntry _ _ _))

theorem completeUpgrade_changes (sound : Sound before) {socket : Nat}
    {offer : ProtocolOffer} (known : before.upgrades socket = some offer)
    (authorization : Option Authorization) (destroyed : Bool)
    (vacancies : ∀ {id}, (∀ {entry}, before.entries id = some entry →
      ∃ role, entry.slot role = none) → touched id) :
    Changes before (before.completeUpgrade socket offer authorization destroyed)
      touched gone := by
  have fresh := sound.upgrading known
  unfold completeUpgrade
  cases authorization with
  | none => exact changes_of_same rfl rfl rfl rfl
  | some authorization =>
      simp only
      split_ifs
      · exact changes_of_same rfl rfl rfl rfl
      · have isOpen : (before.opened socket).readyStates socket =
            some .OPEN :=
          Function.update_self socket _ before.readyStates
        have isKnown : ((before.opened socket).readyStates socket).isSome := by
          rw [isOpen]
          rfl
        exact (opened_changes sound fresh).trans
          (acceptConnection_changes (sound.opened fresh) isKnown
            (sound.unmade fresh) (sound.unstated fresh) offer authorization
            vacancies)

theorem handleUpgrade_changes (socket : Nat) (request : UpgradeRequest) :
    Changes before (before.handleUpgrade socket request) touched gone := by
  unfold handleUpgrade
  split_ifs
  · exact changes_of_same rfl rfl rfl rfl
  · split
    · exact changes_of_same rfl rfl rfl rfl
    · exact changes_of_same rfl rfl rfl rfl

/-- An event changes the entries that it touches, and takes a socket from its
slot only when that closes. -/
theorem Sound.step_changes {event : Event} (sound : Sound before)
    (taken : before.step event = some after) :
    Changes before after (fun id => event.touches before id)
      (fun socket => event = .close socket) := by
  cases event with
  | upgrade socket request =>
      rw [Relay.step, Option.ite_none_right_eq_some] at taken
      obtain ⟨_, taken⟩ := taken
      cases taken
      exact handleUpgrade_changes socket request
  | upgraded socket client worker destroyed =>
      rw [Relay.step, Option.map_eq_some_iff] at taken
      obtain ⟨offer, known, rfl⟩ := taken
      apply completeUpgrade_changes sound known
      intro id vacant entry found
      exact vacant found
  | granted id role reply =>
      rw [Relay.step] at taken
      split at taken
      · obtain ⟨answers, _, rfl⟩ := Option.map_eq_some_iff.mp taken
        exact setPairing_changes rfl _ _
      · cases taken
  | authorized id =>
      rw [Relay.step, stepPairing] at taken
      split at taken
      · rename_i entry pairing found known
        split at taken
        · split at taken
          · cases taken
          · cases taken
            exact refusePairing_changes sound rfl
          · cases taken
            exact resumePairing_changes sound known rfl _ _
        · cases taken
      · cases taken
  | activated id accepted =>
      rw [Relay.step] at taken
      split at taken
      · cases taken
        exact setPairing_changes rfl _ _
      · cases taken
  | proceeded id =>
      rw [Relay.step, stepActivation] at taken
      split at taken
      · rename_i known
        split_ifs at taken
        · cases taken
          exact activate_changes sound known rfl _ _
        · cases taken
          exact refusePairing_changes sound rfl
      · cases taken
  | message socket frame bufferedAmount =>
      rw [Relay.step, Option.ite_none_right_eq_some] at taken
      obtain ⟨_, taken⟩ := taken
      cases taken
      apply handleMessage_changes sound
      intro state known
      exact ⟨state, known, rfl⟩
  | alive socket =>
      rw [Relay.step, Option.ite_none_right_eq_some] at taken
      obtain ⟨_, taken⟩ := taken
      cases taken
      exact (resetIdleTimer_alike before socket).changes
  | sendFailed socket readiness =>
      rw [Relay.step, Option.map_eq_some_iff] at taken
      obtain ⟨state, known, rfl⟩ := taken
      exact closeEntry_changes (sound.slotsKnown _)
        ⟨_, core_of_states known, rfl⟩ _ _
  | closing socket =>
      rw [Relay.step, Option.ite_none_right_eq_some] at taken
      obtain ⟨_, taken⟩ := taken
      cases taken
      apply beginClosing_changes
      intro state known
      exact ⟨state, known, rfl⟩
  | errored socket =>
      rw [Relay.step, Option.ite_none_right_eq_some] at taken
      obtain ⟨_, taken⟩ := taken
      obtain ⟨state, known, rfl⟩ := Option.map_eq_some_iff.mp taken
      have began := sound.beginClosing socket
      refine Changes.trans (beginClosing_changes ?_) (closeEntry_changes
        (began.slotsKnown _) ⟨_, core_of_states known, rfl⟩ _ _)
      intro state known
      exact ⟨state, known, rfl⟩
  | close socket =>
      rw [Relay.step, Option.ite_none_right_eq_some] at taken
      obtain ⟨connected, taken⟩ := taken
      cases taken
      refine handleSocketClose_changes sound (isKnown_of_connected connected) ?_
        rfl
      intro state known
      exact ⟨state, known, rfl⟩
  | peerTimeout socket =>
      rw [Relay.step, Option.bind_eq_some_iff] at taken
      obtain ⟨state, known, taken⟩ := taken
      rw [Option.ite_none_right_eq_some] at taken
      obtain ⟨_, taken⟩ := taken
      cases taken
      exact peerTimeout_changes sound socket ⟨_, core_of_states known, rfl⟩
  | idleTimeout socket =>
      rw [Relay.step, Option.bind_eq_some_iff] at taken
      obtain ⟨state, known, taken⟩ := taken
      rw [Option.ite_none_right_eq_some] at taken
      obtain ⟨_, taken⟩ := taken
      cases taken
      exact idleTimeout_changes sound socket ⟨_, core_of_states known, rfl⟩
  | notified =>
      cases taken
      exact (scheduleRevalidation_samePairs before).changes
  | looked role reply =>
      rw [Relay.step] at taken
      split at taken
      · obtain ⟨answers, _, rfl⟩ := Option.map_eq_some_iff.mp taken
        exact changes_of_same rfl rfl rfl rfl
      · cases taken
  | revalidated =>
      rw [Relay.step, stepRevalidation] at taken
      split at taken
      · rename_i id client worker rest passing
        split at taken
        · cases taken
        · cases taken
          exact changes_of_same rfl rfl rfl rfl
        · cases taken
          exact resumeRevalidation_changes sound ⟨client, worker, rest, passing⟩
            _ _ _
      · cases taken
  | settled =>
      rw [Relay.step] at taken
      split at taken
      · cases taken
        exact (settleRevalidation_samePairs before).changes
      · cases taken
  | stop =>
      rw [Relay.step, Option.ite_none_left_eq_some] at taken
      obtain ⟨_, taken⟩ := taken
      cases taken
      exact changes_of_same rfl rfl rfl rfl
  | shutDown =>
      rw [Relay.step, Option.ite_none_right_eq_some] at taken
      obtain ⟨_, taken⟩ := taken
      cases taken
      exact shutDown_changes sound (fun _ => trivial)
  | terminate =>
      rw [Relay.step, Option.ite_none_right_eq_some] at taken
      obtain ⟨_, taken⟩ := taken
      cases taken
      refine changes_of_readyStates rfl rfl rfl ?_
      intro socket state _ outside
      exact absurd trivial outside

/-! ### Pairings and the revalidation -/

def Event.isPairing : Event → Bool
  | .upgraded _ _ _ _ | .granted _ _ _ | .authorized _ | .activated _ _
  | .proceeded _ => true
  | _ => false

def Event.isRevalidation : Event → Bool
  | .notified | .looked _ _ | .revalidated | .settled => true
  | _ => false

/-- No pairing and no revalidation has gone on. -/
structure Waits (before after : Relay) : Prop where
  pairings : after.pairings = before.pairings
  revalidation : after.revalidation = before.revalidation

theorem closeEntry_waits (relay : Relay) (id : Nat) (code : CloseCode)
    (reason : String) : Waits relay (relay.closeEntry id code reason) := by
  rcases closeEntry_cases relay id code reason with same | ⟨_, _, _, closes⟩
  · rw [same]
    exact ⟨rfl, rfl⟩
  · exact ⟨closes.pairings, closes.revalidation⟩

theorem handleSocketClose_waits (sound : Sound before) {socket : Nat}
    (known : (before.readyStates socket).isSome) :
    Waits before (before.handleSocketClose socket) := by
  rcases handleSocketClose_cases sound known with disconnects |
    ⟨_, _, _, ends⟩
  · exact ⟨disconnects.pairings, disconnects.revalidation⟩
  · exact ⟨ends.pairings, ends.revalidation⟩

theorem handleMessage_waits (relay : Relay) (socket : Nat) (frame : Frame)
    (bufferedAmount : Nat) :
    Waits relay (relay.handleMessage socket frame bufferedAmount) := by
  unfold handleMessage
  split
  · exact ⟨rfl, rfl⟩
  · split
    · split_ifs <;> first | exact closeEntry_waits _ _ _ _ | skip
      rename_i entry _ _ _ _ _ _ _ _
      have alike := resetIdleTimers_alike relay entry
      exact ⟨alike.pairings, alike.revalidation⟩
    · exact closeEntry_waits _ _ _ _

theorem beginClosing_waits (relay : Relay) (socket : Nat) :
    Waits relay (relay.beginClosing socket) := by
  unfold beginClosing
  split
  · exact ⟨rfl, rfl⟩
  · exact ⟨rfl, rfl⟩

theorem shutDown_waits (relay : Relay) : Waits relay relay.shutDown := by
  unfold shutDown
  induction relay.pairs generalizing relay with
  | nil => exact ⟨rfl, rfl⟩
  | cons pair rest induction =>
      have first := relay.closeEntry_waits pair.2 .TRY_AGAIN_LATER
        "relay shutting down"
      have later := induction (relay.closeEntry pair.2 .TRY_AGAIN_LATER
        "relay shutting down")
      exact ⟨later.pairings.trans first.pairings,
        later.revalidation.trans first.revalidation⟩

theorem peerTimeout_waits (relay : Relay) (socket : Nat) (state : PeerState) :
    Waits relay (relay.peerTimeout socket state) := by
  unfold peerTimeout
  simp only
  split
  · exact ⟨rfl, rfl⟩
  · split_ifs
    · exact ⟨rfl, rfl⟩
    · have waits := (relay.clearPeerTimer socket).closeEntry_waits state.entry
        .PEER_TIMEOUT "relay peer timeout"
      exact ⟨waits.pairings, waits.revalidation⟩

theorem idleTimeout_waits (relay : Relay) (socket : Nat) (state : PeerState) :
    Waits relay (relay.idleTimeout socket state) := by
  have waits := (relay.modifyState socket (fun state =>
    { state with idleTimer := false })).closeEntry_waits state.entry
      .PEER_TIMEOUT "relay idle timeout"
  exact ⟨waits.pairings, waits.revalidation⟩

/-- What sockets and timers do leaves every await as it is. -/
theorem Sound.step_waits {event : Event} (sound : Sound before)
    (taken : before.step event = some after)
    (notPairing : event.isPairing = false)
    (notRevalidation : event.isRevalidation = false) : Waits before after := by
  cases event with
  | upgraded | granted | authorized | activated | proceeded => cases notPairing
  | notified | looked | revalidated | settled => cases notRevalidation
  | upgrade socket request =>
      rw [Relay.step, Option.ite_none_right_eq_some] at taken
      obtain ⟨_, taken⟩ := taken
      cases taken
      unfold Relay.handleUpgrade
      split_ifs
      · exact ⟨rfl, rfl⟩
      · split
        · exact ⟨rfl, rfl⟩
        · exact ⟨rfl, rfl⟩
  | message socket frame bufferedAmount =>
      rw [Relay.step, Option.ite_none_right_eq_some] at taken
      obtain ⟨_, taken⟩ := taken
      cases taken
      exact before.handleMessage_waits socket frame bufferedAmount
  | alive socket =>
      rw [Relay.step, Option.ite_none_right_eq_some] at taken
      obtain ⟨_, taken⟩ := taken
      cases taken
      exact ⟨rfl, rfl⟩
  | sendFailed socket readiness =>
      rw [Relay.step, Option.map_eq_some_iff] at taken
      obtain ⟨state, known, rfl⟩ := taken
      exact before.closeEntry_waits _ _ _
  | closing socket =>
      rw [Relay.step, Option.ite_none_right_eq_some] at taken
      obtain ⟨_, taken⟩ := taken
      cases taken
      exact before.beginClosing_waits socket
  | errored socket =>
      rw [Relay.step, Option.ite_none_right_eq_some] at taken
      obtain ⟨_, taken⟩ := taken
      obtain ⟨state, known, rfl⟩ := Option.map_eq_some_iff.mp taken
      have began := before.beginClosing_waits socket
      have closed := (before.beginClosing socket).closeEntry_waits state.entry
        .INTERNAL_ERROR "relay socket error"
      exact ⟨closed.pairings.trans began.pairings,
        closed.revalidation.trans began.revalidation⟩
  | close socket =>
      rw [Relay.step, Option.ite_none_right_eq_some] at taken
      obtain ⟨connected, taken⟩ := taken
      cases taken
      exact handleSocketClose_waits sound (isKnown_of_connected connected)
  | peerTimeout socket =>
      rw [Relay.step, Option.bind_eq_some_iff] at taken
      obtain ⟨state, known, taken⟩ := taken
      rw [Option.ite_none_right_eq_some] at taken
      obtain ⟨_, taken⟩ := taken
      cases taken
      exact before.peerTimeout_waits socket state
  | idleTimeout socket =>
      rw [Relay.step, Option.bind_eq_some_iff] at taken
      obtain ⟨state, known, taken⟩ := taken
      rw [Option.ite_none_right_eq_some] at taken
      obtain ⟨_, taken⟩ := taken
      cases taken
      exact before.idleTimeout_waits socket state
  | stop =>
      rw [Relay.step, Option.ite_none_left_eq_some] at taken
      obtain ⟨_, taken⟩ := taken
      cases taken
      exact ⟨rfl, rfl⟩
  | shutDown =>
      rw [Relay.step, Option.ite_none_right_eq_some] at taken
      obtain ⟨_, taken⟩ := taken
      cases taken
      exact before.shutDown_waits
  | terminate =>
      rw [Relay.step, Option.ite_none_right_eq_some] at taken
      obtain ⟨_, taken⟩ := taken
      cases taken
      exact ⟨rfl, rfl⟩

theorem tryPair_revalidation (relay : Relay) (id : Nat) :
    (relay.tryPair id).revalidation = relay.revalidation := by
  rcases tryPair_cases relay id with same | ⟨_, _, _, _, _, _, _, _, _, begun⟩
  · rw [same]
  · rw [begun]
    rfl

theorem acceptConnection_revalidation (relay : Relay) (socket : Nat)
    (offer : ProtocolOffer) (authorization : Authorization) :
    (relay.acceptConnection socket offer authorization).revalidation =
      relay.revalidation := by
  have made := (relay.entryFor_frame socket authorization.claims).2.2.2.2
  have occupied : ∀ entry, (((relay.entryFor socket
      authorization.claims).1.occupySlot
        (relay.entryFor socket authorization.claims).2 entry socket offer
          authorization.claims).tryPair
            (relay.entryFor socket authorization.claims).2).revalidation =
      relay.revalidation := by
    intro entry
    rw [tryPair_revalidation]
    exact made
  unfold acceptConnection
  simp only
  split
  · exact made
  · rename_i entry _
    split
    · split_ifs
      · exact ((relay.entryFor socket authorization.claims).1.closeSocket_shuts
          socket _ _).revalidation.trans made
      · exact occupied entry
    · exact occupied entry

theorem refusePairing_revalidation (relay : Relay) (id : Nat) :
    (relay.refusePairing id).revalidation = relay.revalidation :=
  (relay.closeEntry_waits id _ _).revalidation

theorem activate_revalidation (sound : Sound before) {id : Nat}
    {pairing : Pairing} (paired : before.pairings id = some pairing)
    (clientAuthorization workerAuthorization : Authorization) :
    (before.activate id clientAuthorization workerAuthorization).revalidation =
      before.revalidation := by
  obtain ⟨entry, found, _, _, slots⟩ := sound.pairing paired
  cases closed : entry.closed with
  | true =>
      rw [activate_closed found closed]
      rfl
  | false =>
      obtain ⟨inClient, inWorker⟩ := slots closed
      have activates := linkedUp_activates before id entry
        (sound.apart found inClient inWorker) clientAuthorization
        workerAuthorization
      rw [activate_linked found closed inClient inWorker, announce_eq]
      split_ifs
      · exact activates.revalidation
      · exact (closeEntry_waits _ _ _ _).revalidation.trans
          activates.revalidation

/-- No pairing stops a revalidation or takes it further. -/
theorem Sound.step_revalidation {event : Event} (sound : Sound before)
    (taken : before.step event = some after)
    (notRevalidation : event.isRevalidation = false) :
    after.revalidation = before.revalidation := by
  cases notPairing : event.isPairing with
  | false => exact (sound.step_waits taken notPairing notRevalidation).revalidation
  | true =>
      cases event with
      | upgraded socket client worker destroyed =>
          rw [Relay.step, Option.map_eq_some_iff] at taken
          obtain ⟨offer, _, rfl⟩ := taken
          unfold Relay.completeUpgrade
          cases authorizeGrant client worker with
          | none => rfl
          | some authorization =>
              simp only
              split_ifs
              · rfl
              · exact acceptConnection_revalidation _ _ _ _
      | granted id role reply =>
          rw [Relay.step] at taken
          split at taken
          · obtain ⟨answers, _, rfl⟩ := Option.map_eq_some_iff.mp taken
            rfl
          · cases taken
      | authorized id =>
          rw [Relay.step, stepPairing] at taken
          split at taken
          · rename_i entry pairing found known
            split at taken
            · split at taken
              · cases taken
              · cases taken
                exact before.refusePairing_revalidation id
              · cases taken
                unfold Relay.resumePairing
                split_ifs
                · exact before.refusePairing_revalidation id
                · split
                  · split_ifs
                    · rfl
                    · exact (closeEntry_waits _ _ _ _).revalidation
                    · exact activate_revalidation sound known _ _
                  · exact before.refusePairing_revalidation id
            · cases taken
          · cases taken
      | activated id accepted =>
          rw [Relay.step] at taken
          split at taken
          · cases taken
            rfl
          · cases taken
      | proceeded id =>
          rw [Relay.step, stepActivation] at taken
          split at taken
          · rename_i known
            split_ifs at taken
            · cases taken
              exact activate_revalidation sound known _ _
            · cases taken
              exact before.refusePairing_revalidation id
          · cases taken
      | upgrade | message | alive | sendFailed | closing | errored | close
      | peerTimeout | idleTimeout | notified | looked | revalidated | settled
      | stop | shutDown | terminate => cases notPairing

theorem refusePairing_pairings (relay : Relay) (id : Nat) :
    (relay.refusePairing id).pairings id = none := by
  rw [refusePairing, finishPairing_pairings, Function.update_self]

theorem activate_pairings {relay : Relay} {id : Nat} {entry : Entry}
    (found : relay.entries id = some entry)
    (clientAuthorization workerAuthorization : Authorization) :
    (relay.activate id clientAuthorization workerAuthorization).pairings id =
      none := by
  unfold activate
  simp only [found]
  split
  · rw [finishPairing_pairings, Function.update_self]
  · split
    · rw [finishPairing_pairings, Function.update_self]
    · rw [finishPairing_pairings, Function.update_self]

/-- After the grants the pairing is over, or the session is being activated for
the allocation of the entry. -/
theorem resumePairing_pairings {relay : Relay} {id : Nat} {entry : Entry}
    (found : relay.entries id = some entry) (pairing : Pairing)
    (client worker : Option Authorization) :
    (relay.resumePairing id entry pairing client worker).pairings id = none ∨
      ∃ first second, client = some first ∧ worker = some second ∧
        sameAllocation client entry = true ∧
        sameAllocation worker entry = true ∧
          (relay.resumePairing id entry pairing client worker).pairings id =
            some { pairing with stage := .activating first second none } := by
  unfold resumePairing
  split_ifs with different
  · exact .inl (relay.refusePairing_pairings id)
  · simp only [not_or, not_not] at different
    cases client with
    | none => exact .inl (relay.refusePairing_pairings id)
    | some first =>
        cases worker with
        | none => exact .inl (relay.refusePairing_pairings id)
        | some second =>
            simp only
            split_ifs
            · exact .inr ⟨first, second, rfl, rfl, different.1, different.2,
                Function.update_self _ _ _⟩
            · left
              rw [finishPairing_pairings, Function.update_self]
            · exact .inl (activate_pairings found first second)

/-- No revalidation takes a pairing further. -/
theorem Sound.step_pairings {event : Event} (sound : Sound before)
    (taken : before.step event = some after)
    (notPairing : event.isPairing = false) :
    after.pairings = before.pairings := by
  cases notRevalidation : event.isRevalidation with
  | false => exact (sound.step_waits taken notPairing notRevalidation).pairings
  | true =>
      cases event with
      | notified =>
          cases taken
          exact (scheduleRevalidation_samePairs before).pairings
      | looked role reply =>
          rw [Relay.step] at taken
          split at taken
          · obtain ⟨answers, _, rfl⟩ := Option.map_eq_some_iff.mp taken
            rfl
          · cases taken
      | revalidated =>
          rw [Relay.step, stepRevalidation] at taken
          split at taken
          · split at taken
            · cases taken
            · cases taken
              rfl
            · cases taken
              unfold Relay.resumeRevalidation
              split
              · rfl
              · split_ifs
                · exact (nextEntry_samePairs _ _).pairings.trans
                    (closeEntry_waits _ _ _ _).pairings
                · exact (nextEntry_samePairs _ _).pairings
          · cases taken
      | settled =>
          rw [Relay.step] at taken
          split at taken
          · cases taken
            exact (settleRevalidation_samePairs before).pairings
          · cases taken
      | upgrade | upgraded | granted | authorized | activated | proceeded
      | message | alive | sendFailed | closing | errored | close | peerTimeout
      | idleTimeout | stop | shutDown | terminate => cases notRevalidation

end Changes

end Relay

end GpuLink
