import GpuLink.DataPlane.RelayProgress

/-!
# What the relay writes down

An event sends no frame, or forwards the one that has come in, or links a pair
and tells its sockets so.
-/

namespace GpuLink

open DataPlane Service

namespace Relay

/-- The effects that are about frames and pairs. -/
def Effect.isFrame : Effect → Bool
  | .paired _ _ _ _ _ | .ready _ | .forwarded _ _ _ => true
  | _ => false

/-- The entry is there, and closed. -/
def IsClosed (relay : Relay) (id : Nat) : Prop :=
  ∃ entry, relay.entries id = some entry ∧ entry.closed = true

/-- An effect without a frame; an entry that it closes is closed. -/
structure Effect.Mute (relay : Relay) (effect : Effect) : Prop where
  frame : effect.isFrame = false
  closes : ∀ id, effect = .entryClosed id → relay.IsClosed id

theorem mute_of_socketClosed {relay : Relay} {effect : Effect}
    (closed : effect.isSocketClosed = true) : effect.Mute relay := by
  cases effect with
  | socketClosed socket code reason =>
      refine ⟨rfl, ?_⟩
      intro id same
      cases same
  | _ => cases closed

/-- No frame is sent, and no pair is linked. -/
structure Quiet (before after : Relay) : Prop where
  log : ∃ effects, (∀ effect ∈ effects, effect.Mute after) ∧
    after.log = before.log ++ effects
  closed : ∀ {id}, before.IsClosed id → after.IsClosed id
  kept : ∀ {socket state}, before.core socket = some state →
    after.core socket = some state
  fresh : ∀ {socket state}, after.core socket = some state →
    before.core socket = some state ∨
      (before.readyStates socket = none ∧ state.peer = none)
  opened : ∀ {socket state}, before.core socket = some state →
    after.readyStates socket = some .OPEN →
      before.readyStates socket = some .OPEN
  known : ∀ {socket}, (before.readyStates socket).isSome →
    (after.readyStates socket).isSome

section Step

variable {before after : Relay}

theorem quiet_refl (relay : Relay) : Quiet relay relay where
  log := ⟨[], by simp, (List.append_nil _).symm⟩
  closed was := was
  kept known := known
  fresh known := .inl known
  opened _ isOpen := isOpen
  known was := was

/-- The states are as they were, up to timers. -/
theorem quiet_of_core {effects : List Effect} (core : after.core = before.core)
    (fades : Fades before after)
    (closed : ∀ {id}, before.IsClosed id → after.IsClosed id)
    (mute : ∀ effect ∈ effects, effect.Mute after)
    (log : after.log = before.log ++ effects) : Quiet before after where
  log := ⟨effects, mute, log⟩
  closed := closed
  kept known := by
    rw [core]
    exact known
  fresh known := by
    rw [core] at known
    exact .inl known
  opened _ isOpen := by
    by_contra shut
    exact fades.shut shut isOpen
  known was := by
    rw [fades.isSome]
    exact was

theorem quiet_of_log (core : after.core = before.core)
    (fades : Fades before after)
    (closed : ∀ {id}, before.IsClosed id → after.IsClosed id)
    (log : after.log = before.log) : Quiet before after := by
  have appended : after.log = before.log ++ ([] : List Effect) := by
    rw [log, List.append_nil]
  apply quiet_of_core core fades closed _ appended
  intro effect member
  cases member

theorem Effect.Mute.later {effect : Effect} (mute : effect.Mute before)
    (closed : ∀ {id}, before.IsClosed id → after.IsClosed id) :
    effect.Mute after :=
  ⟨mute.frame, fun id same => closed (mute.closes id same)⟩

theorem mute_append {left right : List Effect}
    (closed : ∀ {id}, before.IsClosed id → after.IsClosed id)
    (first : ∀ effect ∈ left, effect.Mute before)
    (second : ∀ effect ∈ right, effect.Mute after) :
    ∀ effect ∈ left ++ right, effect.Mute after := by
  intro effect member
  rcases List.mem_append.mp member with here | there
  · exact (first effect here).later closed
  · exact second effect there

theorem Quiet.trans {middle : Relay} (left : Quiet before middle)
    (right : Quiet middle after)
    (core : after.core = middle.core) : Quiet before after where
  log := by
    obtain ⟨first, firstMute, first_eq⟩ := left.log
    obtain ⟨second, secondMute, second_eq⟩ := right.log
    refine ⟨first ++ second, mute_append right.closed firstMute secondMute, ?_⟩
    rw [second_eq, first_eq, List.append_assoc]
  closed was := right.closed (left.closed was)
  kept known := right.kept (left.kept known)
  fresh known := by
    rw [core] at known
    exact left.fresh known
  opened known isOpen := left.opened known (right.opened (left.kept known) isOpen)
  known was := right.known (left.known was)

theorem Alike.quiet (alike : Alike before after) : Quiet before after := by
  refine quiet_of_log alike.core (fades_of_eq alike.readyStates) ?_ alike.log
  intro id closed
  rw [IsClosed, alike.entries]
  exact closed

theorem isClosed_update {id : Nat} {last : Entry}
    (entries : after.entries = Function.update before.entries id (some last))
    (stays : before.IsClosed id → last.closed = true) {other : Nat}
    (closed : before.IsClosed other) : after.IsClosed other := by
  by_cases same : other = id
  · subst same
    refine ⟨last, ?_, stays closed⟩
    rw [entries, Function.update_self]
  · obtain ⟨entry, found, was⟩ := closed
    refine ⟨entry, ?_, was⟩
    rw [entries, Function.update_of_ne same]
    exact found

/-- The effects with which an entry closes. -/
theorem mute_closing {id : Nat} {effects : List Effect}
    (closed : after.IsClosed id)
    (sockets : ∀ effect ∈ effects, effect.isSocketClosed = true) :
    ∀ effect ∈ .entryClosed id :: effects, effect.Mute after := by
  intro effect member
  rcases List.mem_cons.mp member with rfl | there
  · refine ⟨rfl, ?_⟩
    intro other same
    cases same
    exact closed
  · exact mute_of_socketClosed (sockets effect there)

theorem Closes.isClosed {id : Nat} {entry : Entry}
    (closes : Closes before after id entry) : after.IsClosed id := by
  refine ⟨{ entry with closed := true }, ?_, rfl⟩
  rw [closes.entries, Function.update_self]

theorem Closes.quiet {id : Nat} {entry : Entry}
    (closes : Closes before after id entry) : Quiet before after := by
  obtain ⟨effects, sockets, log⟩ := closes.log
  refine quiet_of_core closes.core closes.fades ?_
    (mute_closing closes.isClosed sockets) log
  exact isClosed_update closes.entries (fun _ => rfl)

theorem closeEntry_quiet (relay : Relay) (id : Nat) (code : CloseCode)
    (reason : String) : Quiet relay (relay.closeEntry id code reason) := by
  rcases closeEntry_cases relay id code reason with same | ⟨_, _, _, closes⟩
  · rw [same]
    exact quiet_refl relay
  · exact closes.quiet

theorem closeEntry_core (relay : Relay) (id : Nat) (code : CloseCode)
    (reason : String) : (relay.closeEntry id code reason).core = relay.core := by
  rcases closeEntry_cases relay id code reason with same | ⟨_, _, _, closes⟩
  · rw [same]
  · exact closes.core

theorem handleSocketClose_quiet (sound : Sound before) {socket : Nat}
    (known : (before.readyStates socket).isSome) :
    Quiet before (before.handleSocketClose socket) := by
  rcases handleSocketClose_cases sound known with disconnects |
    ⟨state, first, stated, ends⟩
  · constructor
    · exact ⟨[], by simp, by rw [disconnects.log, List.append_nil]⟩
    · intro id closed
      rw [IsClosed, disconnects.entries]
      exact closed
    · intro other state found
      rw [disconnects.core]
      exact found
    · intro other state found
      rw [disconnects.core] at found
      exact .inl found
    · intro other state found isOpen
      rw [disconnects.readyStates] at isOpen
      by_cases same : other = socket
      · rw [same, Function.update_self] at isOpen
        cases isOpen
      · rw [Function.update_of_ne same] at isOpen
        exact isOpen
    · intro other was
      rw [disconnects.readyStates]
      by_cases same : other = socket
      · rw [same, Function.update_self]
        rfl
      · rw [Function.update_of_ne same]
        exact was
  · obtain ⟨effects, sockets, log⟩ := ends.log
    have closed : (before.handleSocketClose socket).IsClosed state.entry := by
      refine ⟨_, ?_, ends.closed⟩
      rw [ends.entries, Function.update_self]
    constructor
    · exact ⟨_, mute_closing closed sockets, log⟩
    · exact isClosed_update ends.entries (fun _ => ends.closed)
    · intro other state found
      rw [ends.core]
      exact found
    · intro other state found
      rw [ends.core] at found
      exact .inl found
    · intro other otherState found isOpen
      by_cases inside : otherState.entry = state.entry
      · exfalso
        obtain ⟨_, entry, entered, whenOpen, _⟩ := sound.entered found
        rw [inside, ends.found] at entered
        cases entered
        exact ends.shut (whenOpen ends.isOpen).1 isOpen
      · rw [ends.elsewhere found inside] at isOpen
        exact isOpen
    · intro other was
      rw [ends.known]
      exact was

theorem beginClosing_quiet (relay : Relay) (socket : Nat) :
    Quiet relay (relay.beginClosing socket) := by
  have entries : (relay.beginClosing socket).entries = relay.entries := by
    unfold beginClosing
    split_ifs
    · rfl
    · rfl
  refine quiet_of_log ?_ (relay.beginClosing_fades socket) ?_ ?_
  · unfold beginClosing
    split_ifs
    · rfl
    · rfl
  · intro id closed
    rw [IsClosed, entries]
    exact closed
  · unfold beginClosing
    split_ifs
    · rfl
    · rfl

theorem finishPairing_quiet (relay : Relay) (id : Nat) :
    Quiet relay (relay.finishPairing id) := by
  refine quiet_of_log rfl (fades_of_eq rfl) ?_ rfl
  intro other closed
  obtain ⟨entry, found, was⟩ := closed
  by_cases same : other = id
  · subst same
    refine ⟨{ entry with activating := false }, ?_, was⟩
    rw [finishPairing_entries found, Function.update_self]
  · exact ⟨entry, (Function.update_of_ne same _ _).trans found, was⟩

theorem refusePairing_quiet (relay : Relay) (id : Nat) :
    Quiet relay (relay.refusePairing id) :=
  (relay.closeEntry_quiet id _ _).trans (finishPairing_quiet _ id) rfl

theorem SamePairs.quiet (same : SamePairs before after)
    (log : after.log = before.log ∨
      after.log = before.log ++ [.revalidationFailed]) :
    Quiet before after := by
  have core : after.core = before.core := by
    funext socket
    rw [Relay.core, Relay.core, same.states]
  have closed : ∀ {id}, before.IsClosed id → after.IsClosed id := by
    intro id closed
    rw [IsClosed, same.entries]
    exact closed
  rcases log with still | failed
  · exact quiet_of_log core (fades_of_eq same.readyStates) closed still
  · refine quiet_of_core core (fades_of_eq same.readyStates) closed ?_ failed
    intro effect member
    rw [List.mem_singleton.mp member]
    refine ⟨rfl, ?_⟩
    intro id same
    cases same

theorem nextEntry_quiet (relay : Relay) (rest : List Nat) :
    Quiet relay (relay.nextEntry rest) := by
  apply (relay.nextEntry_samePairs rest).quiet
  unfold nextEntry
  split
  · exact .inl rfl
  · split
    · exact .inl rfl
    · exact .inr rfl

theorem scheduleRevalidation_quiet (relay : Relay) :
    Quiet relay relay.scheduleRevalidation := by
  unfold scheduleRevalidation
  split_ifs
  · exact quiet_refl relay
  · exact SamePairs.quiet ⟨rfl, rfl, rfl, rfl, rfl, rfl⟩ (.inl rfl)
  · exact relay.nextEntry_quiet _

theorem settleRevalidation_quiet (relay : Relay) :
    Quiet relay relay.settleRevalidation := by
  have finished : Quiet relay { relay with revalidation := none } :=
    SamePairs.quiet ⟨rfl, rfl, rfl, rfl, rfl, rfl⟩ (.inl rfl)
  unfold settleRevalidation
  simp only
  split_ifs
  · have again : Quiet relay { relay with
        revalidation := none, revalidationPending := false } :=
      SamePairs.quiet ⟨rfl, rfl, rfl, rfl, rfl, rfl⟩ (.inl rfl)
    apply again.trans (scheduleRevalidation_quiet _)
    funext socket
    rw [Relay.core, (scheduleRevalidation_samePairs _).states]
    rfl
  · exact finished

theorem resumeRevalidation_quiet (relay : Relay) (id : Nat) (rest : List Nat)
    (client worker : Option Authorization) :
    Quiet relay (relay.resumeRevalidation id rest client worker) := by
  unfold resumeRevalidation
  split
  · exact quiet_refl relay
  · split_ifs
    · apply (relay.closeEntry_quiet id _ _).trans (nextEntry_quiet _ rest)
      funext socket
      rw [Relay.core, (nextEntry_samePairs _ rest).states]
      rfl
    · exact relay.nextEntry_quiet rest

theorem shutDown_quiet (relay : Relay) : Quiet relay relay.shutDown := by
  unfold shutDown
  have each : ∀ (pairs : List (String × Nat)) (relay : Relay),
      Quiet relay (pairs.foldl (fun relay pair => relay.closeEntry pair.2
        .TRY_AGAIN_LATER "relay shutting down") relay) ∧
      (pairs.foldl (fun relay pair => relay.closeEntry pair.2
        .TRY_AGAIN_LATER "relay shutting down") relay).core = relay.core := by
    intro pairs
    induction pairs with
    | nil =>
        intro relay
        exact ⟨quiet_refl relay, rfl⟩
    | cons pair rest induction =>
        intro relay
        obtain ⟨later, core⟩ := induction (relay.closeEntry pair.2
          .TRY_AGAIN_LATER "relay shutting down")
        exact ⟨(relay.closeEntry_quiet _ _ _).trans later core,
          core.trans (relay.closeEntry_core _ _ _)⟩
  exact (each relay.pairs relay).1

theorem terminate_quiet (relay : Relay) : Quiet relay relay.terminate := by
  refine quiet_of_log rfl ?_ (fun closed => closed) rfl
  intro socket
  unfold terminate
  simp only
  split_ifs with isOpen
  · exact .inr ⟨isOpen, rfl⟩
  · exact .inl rfl

theorem peerTimeout_quiet (relay : Relay) (socket : Nat) (state : PeerState) :
    Quiet relay (relay.peerTimeout socket state) := by
  have cleared := (relay.clearPeerTimer_alike socket).quiet
  unfold peerTimeout
  simp only
  split
  · exact cleared
  · split_ifs
    · exact cleared
    · exact cleared.trans (closeEntry_quiet _ _ _ _) (closeEntry_core _ _ _ _)

/-! ### Connections -/

/-- What a connection makes of the states, the sockets and the log. -/
structure Accepts (before after : Relay) (socket : Nat) : Prop where
  core : after.core = before.core ∨ ∃ id offer claims,
    after.core = Function.update before.core socket
      (some (newState id offer claims))
  log : ∃ effects, (∀ effect ∈ effects, effect.isSocketClosed = true) ∧
    after.log = before.log ++ effects
  readyStates : ∀ {other}, other ≠ socket →
    after.readyStates other = before.readyStates other

theorem tryPair_frame (relay : Relay) (id : Nat) :
    (relay.tryPair id).core = relay.core ∧
      (relay.tryPair id).log = relay.log ∧
      (relay.tryPair id).readyStates = relay.readyStates := by
  rcases tryPair_cases relay id with same | ⟨_, _, _, _, _, _, _, _, _, begun⟩
  · rw [same]
    exact ⟨rfl, rfl, rfl⟩
  · rw [begun]
    exact ⟨rfl, rfl, rfl⟩

theorem occupied_accepts (relay : Relay) (id : Nat) (entry : Entry)
    (socket : Nat) (offer : ProtocolOffer) (claims : Claims) :
    Accepts relay ((relay.occupySlot id entry socket offer claims).tryPair id)
      socket := by
  obtain ⟨core, log, readyStates⟩ := tryPair_frame
    (relay.occupySlot id entry socket offer claims) id
  refine ⟨.inr ⟨id, offer, claims, ?_⟩, ⟨[], by simp, ?_⟩, ?_⟩
  · rw [core, occupySlot_core]
  · rw [log, List.append_nil]
    rfl
  · intro other _
    rw [readyStates]
    rfl

theorem acceptConnection_accepts (relay : Relay) (socket : Nat)
    (offer : ProtocolOffer) (authorization : Authorization) :
    Accepts relay (relay.acceptConnection socket offer authorization)
      socket := by
  obtain ⟨sameReady, sameCore, sameLog, _⟩ :=
    relay.entryFor_frame socket authorization.claims
  -- The entry that is made leaves the states, the sockets and the log alone.
  have made : ∀ {after}, Accepts (relay.entryFor socket authorization.claims).1
      after socket → Accepts relay after socket := by
    intro after accepts
    refine ⟨?_, ?_, ?_⟩
    · rw [← sameCore]
      exact accepts.core
    · rw [← sameLog]
      exact accepts.log
    · intro other different
      rw [← sameReady]
      exact accepts.readyStates different
  have refused : Accepts relay (relay.entryFor socket authorization.claims).1
      socket :=
    ⟨.inl sameCore, ⟨[], by simp, by rw [sameLog, List.append_nil]⟩,
      fun _ => by rw [sameReady]⟩
  unfold acceptConnection
  simp only
  split
  · exact refused
  · split
    · split_ifs
      · have shuts := closeSocket_shuts (relay.entryFor socket
          authorization.claims).1 socket .DUPLICATE_ROLE "duplicate relay role"
        apply made
        exact ⟨.inl shuts.core, shuts.log, fun different =>
          shuts.kept _ different⟩
      · exact made (occupied_accepts _ _ _ _ _ _)
    · exact made (occupied_accepts _ _ _ _ _ _)

/-- A connection that was not there before is accepted. -/
theorem Accepts.quiet {socket : Nat}
    (accepts : Accepts (before.opened socket) after socket)
    (sound : Sound before) (fresh : before.readyStates socket = none)
    (closed : ∀ {id}, before.IsClosed id → after.IsClosed id) :
    Quiet before after := by
  obtain ⟨effects, sockets, log⟩ := accepts.log
  have apart : ∀ {other state}, before.core other = some state →
      other ≠ socket := by
    intro other state found same
    rw [same, sound.unstated fresh] at found
    cases found
  refine ⟨⟨effects, ?_, log⟩, closed, ?_, ?_, ?_, ?_⟩
  · intro effect member
    exact mute_of_socketClosed (sockets effect member)
  · intro other state found
    rcases accepts.core with same | ⟨id, offer, claims, core⟩
    · rw [same]
      exact found
    · rw [core, Function.update_of_ne (apart found)]
      exact found
  · intro other state found
    rcases accepts.core with same | ⟨id, offer, claims, core⟩
    · rw [same] at found
      exact .inl found
    · rw [core] at found
      by_cases here : other = socket
      · rw [here, Function.update_self] at found
        cases found
        rw [here]
        exact .inr ⟨fresh, rfl⟩
      · rw [Function.update_of_ne here] at found
        exact .inl found
  · intro other state found isOpen
    rw [accepts.readyStates (apart found)] at isOpen
    exact (Function.update_of_ne (apart found) _ _).symm.trans isOpen
  · intro other was
    have different : other ≠ socket := by
      intro same
      rw [same, fresh] at was
      cases was
    rw [accepts.readyStates different]
    exact (congrArg Option.isSome (Function.update_of_ne different _ _)).trans
      was

theorem completeUpgrade_quiet (sound : Sound before) {socket : Nat}
    {offer : ProtocolOffer} (known : before.upgrades socket = some offer)
    (authorization : Option Authorization) (destroyed : Bool) :
    Quiet before
      (before.completeUpgrade socket offer authorization destroyed) := by
  have fresh := sound.upgrading known
  have closed : ∀ {id}, before.IsClosed id →
      (before.completeUpgrade socket offer authorization destroyed).IsClosed
        id := by
    intro id closed
    obtain ⟨entry, found, was⟩ := closed
    have changes : Changes before
        (before.completeUpgrade socket offer authorization destroyed)
        (fun _ => True) (fun _ => True) :=
      completeUpgrade_changes sound known authorization destroyed
        (fun _ => trivial)
    obtain ⟨last, now, grows, _⟩ := changes.entries found
    exact ⟨last, now, grows.closed was⟩
  have refused : ∀ effect : Effect, effect.isFrame = false →
      (∀ id, effect ≠ .entryClosed id) →
        Quiet before ({ before with
          upgrades := Function.update before.upgrades socket none }.emit
            effect) := by
    intro effect mute other
    have muted : ∀ this ∈ [effect], this.Mute ({ before with
        upgrades := Function.update before.upgrades socket none }.emit
          effect) := by
      intro this member
      rw [List.mem_singleton.mp member]
      exact ⟨mute, fun id same => absurd same (other id)⟩
    exact quiet_of_core rfl (fades_of_eq rfl) (fun closed => closed) muted rfl
  cases authorization with
  | none => exact refused _ rfl (fun id same => by cases same)
  | some authorization =>
      unfold completeUpgrade at closed ⊢
      simp only at closed ⊢
      split_ifs at closed ⊢
      · exact refused _ rfl (fun id same => by cases same)
      · have accepts := acceptConnection_accepts (before.opened socket) socket
          offer authorization
        exact accepts.quiet sound fresh closed

theorem handleUpgrade_quiet (relay : Relay) (socket : Nat)
    (request : UpgradeRequest) :
    Quiet relay (relay.handleUpgrade socket request) := by
  have refused : ∀ statusCode message,
      Quiet relay (relay.emit (.rejected socket statusCode message)) := by
    intro statusCode message
    refine quiet_of_core rfl (fades_of_eq rfl) (fun closed => closed) ?_ rfl
    intro effect member
    rw [List.mem_singleton.mp member]
    refine ⟨rfl, ?_⟩
    intro id same
    cases same
  unfold handleUpgrade
  split_ifs
  · exact refused _ _
  · split
    · exact refused _ _
    · exact quiet_of_log rfl (fades_of_eq rfl) (fun closed => closed) rfl

/-! ### Frames -/

theorem isReserved_core (relay : Relay) (frame : Frame) (socket : Nat) :
    isReserved frame (relay.states socket) =
      isReserved frame (relay.core socket) := by
  rw [core]
  cases relay.states socket with
  | none => rfl
  | some state => rfl

/-- The frame goes to the peer of the socket. -/
structure Forwards (before after : Relay) (socket peer : Nat) (frame : Frame) :
    Prop where
  sender : ∃ state entry, before.core socket = some state ∧
    state.peer = some peer ∧ before.entries state.entry = some entry ∧
      entry.active = true
  receiver : before.readyStates peer = some .OPEN
  free : isReserved frame (before.core peer) = false
  entries : after.entries = before.entries
  core : after.core = before.core
  readyStates : after.readyStates = before.readyStates
  pairings : after.pairings = before.pairings
  log : after.log = before.log ++ [.forwarded socket peer frame]

theorem closeEntry_isClosed {relay : Relay} {id : Nat} {entry : Entry}
    (found : relay.entries id = some entry) (code : CloseCode)
    (reason : String) : (relay.closeEntry id code reason).IsClosed id := by
  rcases closeEntry_cases relay id code reason with same | ⟨_, _, _, closes⟩
  · cases closed : entry.closed with
    | true =>
        rw [same]
        exact ⟨entry, found, closed⟩
    | false => exact (closeEntry_open found closed code reason).isClosed
  · exact closes.isClosed

/-- A message that is not forwarded closes the entry of its socket. -/
theorem Sound.handleMessage_cases (sound : Sound before) (socket : Nat)
    (frame : Frame) (bufferedAmount : Nat) :
    (Quiet before (before.handleMessage socket frame bufferedAmount) ∧
      ∀ state, before.core socket = some state →
        (before.handleMessage socket frame bufferedAmount).IsClosed
          state.entry) ∨
    ∃ peer, Forwards before (before.handleMessage socket frame bufferedAmount)
      socket peer frame := by
  unfold Relay.handleMessage
  cases stated : before.states socket with
  | none =>
      refine .inl ⟨quiet_refl before, ?_⟩
      intro state known
      rw [core, stated] at known
      cases known
  | some state =>
      have known := core_of_states stated
      obtain ⟨_, entry, found, _⟩ := sound.entered known
      have closing : ∀ code reason,
          Quiet before (before.closeEntry state.entry code reason) ∧
            ∀ other, before.core socket = some other →
              (before.closeEntry state.entry code reason).IsClosed
                other.entry := by
        intro code reason
        refine ⟨before.closeEntry_quiet _ _ _, ?_⟩
        intro other same
        rw [known] at same
        cases same
        exact closeEntry_isClosed found code reason
      simp only
      split
      · rename_i entry peer found linked
        -- Every branch but the last closes the entry.
        split_ifs <;> first | exact .inl (closing _ _) | skip
        rename_i active reserved _ shut _
        have alike := before.resetIdleTimers_alike entry
        refine .inr ⟨peer, ⟨state.untimed, entry, known, linked,
          found, active⟩, not_not.mp shut, ?_, alike.entries,
          alike.core, alike.readyStates, alike.pairings, ?_⟩
        · rw [← isReserved_core]
          exact eq_false_of_ne_true reserved
        · rw [emit, alike.log]
      · exact .inl (closing _ _)

/-! ### Pairs -/

/-- The event is a message that has come in. -/
def Event.isMessage : Event → Bool
  | .message _ _ _ => true
  | _ => false

/-- One of the two has asked for the readiness frame. -/
def Asks (relay : Relay) (client worker socket : Nat) : Prop :=
  (socket = client ∨ socket = worker) ∧
    (relay.core socket).map PeerState.protocol = some .v2

/-- Those that are told are sockets of the pair, and of those that have asked
only sockets that are not open are left out. -/
structure Tells (before after : Relay) (client worker : Nat)
    (sockets : List Nat) : Prop where
  once : sockets.Nodup
  asked : ∀ socket ∈ sockets, before.Asks client worker socket
  all : ∀ socket, before.Asks client worker socket →
    after.readyStates socket = some .OPEN → socket ∈ sockets

/-- The pair of an entry has been linked. -/
structure LinksPair (before after : Relay) (id client worker : Nat)
    (clientAuthorization workerAuthorization : Authorization) : Prop where
  entry : ∃ entry, before.entries id = some entry ∧ entry.closed = false ∧
    entry.active = false ∧ entry.client = some client ∧
      entry.worker = some worker
  links : Links before after client worker
  closed : ∀ {id}, before.IsClosed id → after.IsClosed id
  fades : Fades before after
  log : ∃ sockets effects, Tells before after client worker sockets ∧
    (∀ effect ∈ effects, effect.Mute after) ∧
      after.log = before.log ++ .paired id client worker clientAuthorization
        workerAuthorization :: (sockets.map .ready ++ effects)

theorem mem_asking {relay : Relay} {client worker socket : Nat} :
    socket ∈ relay.asking [client, worker] ↔
      relay.Asks client worker socket := by
  rw [asking, List.mem_filter, List.mem_cons, List.mem_singleton]
  apply and_congr_right
  intro _
  rw [core]
  cases relay.states socket with
  | none => simp
  | some state => simp [PeerState.untimed]

theorem mem_told {relay : Relay} {sockets : List Nat} {socket : Nat}
    (member : socket ∈ relay.told sockets) : socket ∈ relay.asking sockets :=
  (List.takeWhile_sublist _).subset member

theorem told_nodup {relay : Relay} {sockets : List Nat}
    (once : sockets.Nodup) : (relay.told sockets).Nodup :=
  once.sublist ((List.takeWhile_sublist _).trans List.filter_sublist)

theorem Links.protocol {client worker : Nat}
    (links : Links before after client worker)
    (clientKnown : (before.core client).isSome)
    (workerKnown : (before.core worker).isSome) (socket : Nat) :
    (after.core socket).map PeerState.protocol =
      (before.core socket).map PeerState.protocol := by
  obtain ⟨clientState, clientKnown⟩ := Option.isSome_iff_exists.mp clientKnown
  obtain ⟨workerState, workerKnown⟩ := Option.isSome_iff_exists.mp workerKnown
  by_cases isClient : socket = client
  · rw [isClient, links.atClient clientKnown, clientKnown]
    rfl
  · by_cases isWorker : socket = worker
    · rw [isWorker, links.atWorker workerKnown, workerKnown]
      rfl
    · rw [links.elsewhere isClient isWorker]

theorem activate_linksPair {id client worker : Nat} {entry : Entry}
    (sound : Sound before) (found : before.entries id = some entry)
    (isOpen : entry.closed = false) (inactive : entry.active = false)
    (inClient : entry.client = some client)
    (inWorker : entry.worker = some worker)
    (clientAuthorization workerAuthorization : Authorization) :
    LinksPair before
      (before.activate id clientAuthorization workerAuthorization) id client
        worker clientAuthorization workerAuthorization := by
  have apart := sound.apart found inClient inWorker
  have activates := linkedUp_activates before id entry apart
    clientAuthorization workerAuthorization
  have written := linkedUp_log before id entry client worker
    clientAuthorization workerAuthorization
  rw [activate_linked found isOpen inClient inWorker]
  generalize before.linkedUp id entry client worker clientAuthorization
    workerAuthorization = linked at activates written
  obtain ⟨_, clientKnown, _⟩ := sound.slots found
    (show entry.slot .client = some client from inClient)
  obtain ⟨_, workerKnown, _⟩ := sound.slots found
    (show entry.slot .worker = some worker from inWorker)
  have asks : ∀ {socket}, linked.Asks client worker socket ↔
      before.Asks client worker socket := by
    intro socket
    rw [Asks, Asks, activates.links.protocol (by rw [clientKnown]; rfl)
      (by rw [workerKnown]; rfl)]
  have once : (linked.told [client, worker]).Nodup := by
    apply told_nodup
    simp [apart]
  have asked : ∀ socket ∈ linked.told [client, worker],
      before.Asks client worker socket := by
    intro socket member
    exact asks.mp (mem_asking.mp (mem_told member))
  have atId : linked.entries id = some { entry with active := true } := by
    rw [activates.entries, Function.update_self]
  have closed : ∀ {id}, before.IsClosed id → linked.IsClosed id := by
    intro other
    refine isClosed_update activates.entries ?_
    rintro ⟨same, known, was⟩
    rw [found] at known
    cases known
    exact was
  rw [announce_eq]
  split_ifs with all
  · refine ⟨⟨entry, found, isOpen, inactive, inClient, inWorker⟩,
      ⟨activates.links.atClient, activates.links.atWorker,
        activates.links.elsewhere⟩, ?_, fades_of_eq activates.readyStates,
      linked.told [client, worker], [], ⟨once, asked, ?_⟩, by simp, ?_⟩
    · intro other was
      exact (finishPairing_quiet _ id).closed (closed was)
    · intro socket asks' _
      rw [all]
      exact mem_asking.mpr (asks.mpr asks')
    · rw [List.append_nil]
      exact (congrArg (· ++ _) written).trans (List.append_assoc _ _ _)
  · have known : (linked.withReady (linked.told [client, worker])).entries id =
        some { entry with active := true } := atId
    have closes := closeEntry_open known isOpen .TRY_AGAIN_LATER
      "relay peer unavailable"
    obtain ⟨effects, sockets, log⟩ := closes.log
    have last := (finishPairing_quiet ((linked.withReady (linked.told
      [client, worker])).closeEntry id .TRY_AGAIN_LATER
        "relay peer unavailable") id).closed closes.isClosed
    refine ⟨⟨entry, found, isOpen, inactive, inClient, inWorker⟩,
      ⟨?_, ?_, ?_⟩, ?_, ?_, linked.told [client, worker],
      .entryClosed id :: effects, ⟨once, asked, ?_⟩,
      mute_closing last sockets, ?_⟩
    · intro state known
      exact (congrFun closes.core client).trans
        (activates.links.atClient known)
    · intro state known
      exact (congrFun closes.core worker).trans
        (activates.links.atWorker known)
    · intro socket notClient notWorker
      exact (congrFun closes.core socket).trans
        (activates.links.elsewhere notClient notWorker)
    · intro other was
      have still : (linked.withReady (linked.told [client, worker])).IsClosed
          other := closed was
      exact (finishPairing_quiet _ id).closed (closes.quiet.closed still)
    · exact (fades_of_eq activates.readyStates).trans closes.fades
    · intro socket asks' stillOpen
      exfalso
      rcases asks'.1 with rfl | rfl
      · exact closes.shut .client socket inClient stillOpen
      · exact closes.shut .worker socket inWorker stillOpen
    · refine log.trans ?_
      rw [withReady, written]
      simp only [List.append_assoc, List.cons_append, List.nil_append]

/-- Both authorizations are for the allocation of the entry. -/
def SameAllocation (relay : Relay) (id : Nat)
    (clientAuthorization workerAuthorization : Authorization) : Prop :=
  ∃ entry, relay.entries id = some entry ∧
    sameAllocation (some clientAuthorization) entry = true ∧
      sameAllocation (some workerAuthorization) entry = true

/-- The pairing goes on with these authorizations: they have just come back, or
the session has been activated meanwhile. -/
def Concludes (relay : Relay) (id client worker : Nat)
    (clientAuthorization workerAuthorization : Authorization) : Prop :=
  (relay.pairings id = some ⟨client, worker,
      .authorizing (some (.answered (some clientAuthorization)))
        (some (.answered (some workerAuthorization)))⟩ ∧
    relay.SameAllocation id clientAuthorization workerAuthorization) ∨
  relay.pairings id = some ⟨client, worker,
    .activating clientAuthorization workerAuthorization (some true)⟩

theorem promiseAll_fulfilled {first second : Option Answer}
    {client worker : Option Authorization}
    (both : promiseAll first second = .fulfilled client worker) :
    first = some (.answered client) ∧ second = some (.answered worker) := by
  unfold promiseAll at both
  split at both
  · cases both
  · cases both
  · cases both
    exact ⟨rfl, rfl⟩
  · cases both

theorem setPairing_quiet (relay : Relay) (id : Nat) (pairing : Pairing) :
    Quiet relay (relay.setPairing id pairing) :=
  quiet_of_log rfl (fades_of_eq rfl) (fun closed => closed) rfl

/-- A pairing that is about to link its pair does so if the entry is open. -/
theorem Sound.activate_writes {id : Nat} {pairing : Pairing}
    (sound : Sound before) (known : before.pairings id = some pairing)
    (clientAuthorization workerAuthorization : Authorization) :
    Quiet before (before.activate id clientAuthorization workerAuthorization) ∨
      LinksPair before
        (before.activate id clientAuthorization workerAuthorization) id
          pairing.client pairing.worker clientAuthorization
            workerAuthorization := by
  obtain ⟨entry, found, _, inactive, slots⟩ := sound.pairing known
  cases closed : entry.closed with
  | true =>
      left
      rw [activate_closed found closed]
      exact before.finishPairing_quiet id
  | false =>
      obtain ⟨inClient, inWorker⟩ := slots closed
      exact .inr (activate_linksPair sound found closed inactive inClient
        inWorker clientAuthorization workerAuthorization)

theorem Sound.stepPairing_writes {id : Nat} (sound : Sound before)
    (taken : before.stepPairing id = some after) :
    Quiet before after ∨ ∃ client worker clientAuthorization workerAuthorization,
      Concludes before id client worker clientAuthorization
          workerAuthorization ∧
        LinksPair before after id client worker clientAuthorization
          workerAuthorization := by
  unfold stepPairing at taken
  split at taken
  · rename_i entry pairing found known
    obtain ⟨clientSocket, workerSocket, stage⟩ := pairing
    split at taken
    · rename_i first second isStage
      cases isStage
      split at taken
      · cases taken
      · cases taken
        exact .inl (before.refusePairing_quiet id)
      · rename_i client worker both
        cases taken
        obtain ⟨rfl, rfl⟩ := promiseAll_fulfilled both
        unfold Relay.resumePairing
        split_ifs with different
        · exact .inl (before.refusePairing_quiet id)
        · simp only [not_or, not_not] at different
          cases client with
          | none => cases different.1
          | some client =>
              cases worker with
              | none => cases different.2
              | some worker =>
                  simp only
                  split_ifs
                  · exact .inl (before.setPairing_quiet id _)
                  · exact .inl ((before.closeEntry_quiet id _ _).trans
                      (finishPairing_quiet _ id) rfl)
                  · rcases sound.activate_writes known client worker with
                      quiet | links
                    · exact .inl quiet
                    · exact .inr ⟨_, _, client, worker,
                        .inl ⟨known, entry, found, different⟩, links⟩
    · cases taken
  · cases taken

/-- Every event sends no frame, forwards the one that has come in, or links the
pair of which it concludes the pairing. -/
theorem Sound.step_writes {event : Event} (sound : Sound before)
    (taken : before.step event = some after) :
    (Quiet before after ∧ ∀ socket frame bufferedAmount state,
      event = .message socket frame bufferedAmount →
        before.core socket = some state → after.IsClosed state.entry) ∨
    (∃ socket frame bufferedAmount peer,
      event = .message socket frame bufferedAmount ∧
        Forwards before after socket peer frame) ∨
    (event.isPairing = true ∧
      ∃ id client worker clientAuthorization workerAuthorization,
        Concludes before id client worker clientAuthorization
            workerAuthorization ∧
          LinksPair before after id client worker clientAuthorization
            workerAuthorization) := by
  have silent (quiet : Quiet before after)
      (notMessage : event.isMessage = false) :
      Quiet before after ∧ ∀ socket frame bufferedAmount state,
        event = .message socket frame bufferedAmount →
          before.core socket = some state → after.IsClosed state.entry := by
    refine ⟨quiet, ?_⟩
    intro socket frame bufferedAmount state same
    rw [same] at notMessage
    cases notMessage
  cases event with
  | upgrade socket request =>
      rw [Relay.step, Option.ite_none_right_eq_some] at taken
      obtain ⟨_, taken⟩ := taken
      cases taken
      exact .inl (silent (before.handleUpgrade_quiet socket request) rfl)
  | upgraded socket client worker destroyed =>
      rw [Relay.step, Option.map_eq_some_iff] at taken
      obtain ⟨offer, known, rfl⟩ := taken
      exact .inl (silent (completeUpgrade_quiet sound known _ _) rfl)
  | granted id role reply =>
      rw [Relay.step] at taken
      split at taken
      · obtain ⟨answers, _, rfl⟩ := Option.map_eq_some_iff.mp taken
        exact .inl (silent (before.setPairing_quiet id _) rfl)
      · cases taken
  | authorized id =>
      rw [Relay.step] at taken
      rcases sound.stepPairing_writes taken with quiet | links
      · exact .inl (silent quiet rfl)
      · exact .inr (.inr ⟨rfl, id, links⟩)
  | activated id accepted =>
      rw [Relay.step] at taken
      split at taken
      · cases taken
        exact .inl (silent (before.setPairing_quiet id _) rfl)
      · cases taken
  | proceeded id =>
      rw [Relay.step, stepActivation] at taken
      split at taken
      · rename_i client worker clientAuthorization workerAuthorization accepted
          known
        split_ifs at taken with accepts
        · cases taken
          subst accepts
          rcases sound.activate_writes known clientAuthorization
              workerAuthorization with quiet | links
          · exact .inl (silent quiet rfl)
          · exact .inr (.inr ⟨rfl, id, _, _, _, _, .inr known, links⟩)
        · cases taken
          exact .inl (silent (before.refusePairing_quiet id) rfl)
      · cases taken
  | message socket frame bufferedAmount =>
      rw [Relay.step, Option.ite_none_right_eq_some] at taken
      obtain ⟨_, taken⟩ := taken
      cases taken
      rcases sound.handleMessage_cases socket frame bufferedAmount with
        ⟨quiet, closes⟩ | ⟨peer, forwards⟩
      · refine .inl ⟨quiet, ?_⟩
        intro _ _ _ state same known
        cases same
        exact closes state known
      · exact .inr (.inl ⟨socket, frame, bufferedAmount, peer, rfl, forwards⟩)
  | alive socket =>
      rw [Relay.step, Option.ite_none_right_eq_some] at taken
      obtain ⟨_, taken⟩ := taken
      cases taken
      exact .inl (silent (before.resetIdleTimer_alike socket).quiet rfl)
  | sendFailed socket readiness =>
      rw [Relay.step, Option.map_eq_some_iff] at taken
      obtain ⟨state, known, rfl⟩ := taken
      exact .inl (silent (before.closeEntry_quiet _ _ _) rfl)
  | closing socket =>
      rw [Relay.step, Option.ite_none_right_eq_some] at taken
      obtain ⟨_, taken⟩ := taken
      cases taken
      exact .inl (silent (before.beginClosing_quiet socket) rfl)
  | errored socket =>
      rw [Relay.step, Option.ite_none_right_eq_some] at taken
      obtain ⟨_, taken⟩ := taken
      obtain ⟨state, known, rfl⟩ := Option.map_eq_some_iff.mp taken
      exact .inl (silent ((before.beginClosing_quiet socket).trans
        (closeEntry_quiet _ _ _ _) (closeEntry_core _ _ _ _)) rfl)
  | close socket =>
      rw [Relay.step, Option.ite_none_right_eq_some] at taken
      obtain ⟨connected, taken⟩ := taken
      cases taken
      exact .inl (silent (handleSocketClose_quiet sound (isKnown_of_connected connected)) rfl)
  | peerTimeout socket =>
      rw [Relay.step, Option.bind_eq_some_iff] at taken
      obtain ⟨state, known, taken⟩ := taken
      rw [Option.ite_none_right_eq_some] at taken
      obtain ⟨_, taken⟩ := taken
      cases taken
      exact .inl (silent (before.peerTimeout_quiet socket state) rfl)
  | idleTimeout socket =>
      rw [Relay.step, Option.bind_eq_some_iff] at taken
      obtain ⟨state, known, taken⟩ := taken
      rw [Option.ite_none_right_eq_some] at taken
      obtain ⟨_, taken⟩ := taken
      cases taken
      have cleared : Alike before (before.modifyState socket fun state =>
          { state with idleTimer := false }) :=
        before.modifyState_alike socket (fun _ => rfl)
      exact .inl (silent (cleared.quiet.trans (closeEntry_quiet _ _ _ _)
        (closeEntry_core _ _ _ _)) rfl)
  | notified =>
      cases taken
      exact .inl (silent before.scheduleRevalidation_quiet rfl)
  | looked role reply =>
      rw [Relay.step] at taken
      split at taken
      · obtain ⟨answers, _, rfl⟩ := Option.map_eq_some_iff.mp taken
        exact .inl (silent (SamePairs.quiet ⟨rfl, rfl, rfl, rfl, rfl, rfl⟩ (.inl rfl)) rfl)
      · cases taken
  | revalidated =>
      rw [Relay.step, stepRevalidation] at taken
      split at taken
      · split at taken
        · cases taken
        · cases taken
          exact .inl (silent (SamePairs.quiet ⟨rfl, rfl, rfl, rfl, rfl, rfl⟩ (.inr rfl)) rfl)
        · cases taken
          exact .inl (silent (before.resumeRevalidation_quiet _ _ _ _) rfl)
      · cases taken
  | settled =>
      rw [Relay.step] at taken
      split at taken
      · cases taken
        exact .inl (silent before.settleRevalidation_quiet rfl)
      · cases taken
  | stop =>
      rw [Relay.step, Option.ite_none_left_eq_some] at taken
      obtain ⟨_, taken⟩ := taken
      cases taken
      exact .inl (silent (SamePairs.quiet ⟨rfl, rfl, rfl, rfl, rfl, rfl⟩ (.inl rfl)) rfl)
  | shutDown =>
      rw [Relay.step, Option.ite_none_right_eq_some] at taken
      obtain ⟨_, taken⟩ := taken
      cases taken
      exact .inl (silent before.shutDown_quiet rfl)
  | terminate =>
      rw [Relay.step, Option.ite_none_right_eq_some] at taken
      obtain ⟨_, taken⟩ := taken
      cases taken
      exact .inl (silent before.terminate_quiet rfl)

end Step

end Relay

end GpuLink
