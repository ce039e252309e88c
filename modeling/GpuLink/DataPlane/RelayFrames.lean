import GpuLink.DataPlane.RelayEvents

/-!
# What the handlers of the relay change

Most of a handler's work is on timers and on sockets that are being closed.
What the pairs of the relay depend on is told here for each of its parts.
-/

namespace GpuLink

open DataPlane Service

namespace Relay

@[simp] theorem Entry.slot_setSlot_same (entry : Entry) (role : Role)
    (state : Option Nat) : (entry.setSlot role state).slot role = state := by
  cases role <;> rfl

theorem Entry.slot_setSlot_other (entry : Entry) {role other : Role}
    (different : other ≠ role) (state : Option Nat) :
    (entry.setSlot role state).slot other = entry.slot other := by
  cases role <;> cases other <;> first | rfl | exact absurd rfl different

@[simp] theorem Entry.setSlot_closed (entry : Entry) (role : Role)
    (state : Option Nat) : (entry.setSlot role state).closed = entry.closed := by
  cases role <;> rfl

@[simp] theorem Entry.setSlot_active (entry : Entry) (role : Role)
    (state : Option Nat) : (entry.setSlot role state).active = entry.active := by
  cases role <;> rfl

@[simp] theorem Entry.setSlot_activating (entry : Entry) (role : Role)
    (state : Option Nat) :
    (entry.setSlot role state).activating = entry.activating := by
  cases role <;> rfl

@[simp] theorem Entry.setSlot_key (entry : Entry) (role : Role)
    (state : Option Nat) : (entry.setSlot role state).key = entry.key := by
  cases role <;> rfl

theorem otherRole_ne (role : Role) : otherRole role ≠ role := by
  cases role <;> decide

theorem eq_or_otherRole (role other : Role) :
    other = role ∨ other = otherRole role := by
  cases role <;> cases other <;> decide

/-! ## Timers -/

/-- A state without its timers. -/
def PeerState.untimed (state : PeerState) : PeerState :=
  { state with peerTimer := false, idleTimer := false }

/-- The states without their timers. -/
def core (relay : Relay) (socket : Nat) : Option PeerState :=
  (relay.states socket).map PeerState.untimed

theorem core_of_states {relay : Relay} {socket : Nat} {state : PeerState}
    (found : relay.states socket = some state) :
    relay.core socket = some state.untimed := by
  rw [core, found]
  rfl

theorem modifyState_core (relay : Relay) (socket : Nat)
    {change : PeerState → PeerState}
    (keeps : ∀ state, (change state).untimed = state.untimed) :
    (relay.modifyState socket change).core = relay.core := by
  funext other
  rw [core, core, modifyState]
  by_cases same : other = socket
  · subst same
    simp only [Function.update_self]
    cases relay.states other with
    | none => rfl
    | some state => exact congrArg some (keeps state)
  · simp only [Function.update_of_ne same]

/-- Two relays with the same pairs, up to timers. -/
structure Alike (left right : Relay) : Prop where
  pairs : right.pairs = left.pairs
  entries : right.entries = left.entries
  core : right.core = left.core
  readyStates : right.readyStates = left.readyStates
  upgrades : right.upgrades = left.upgrades
  pairings : right.pairings = left.pairings
  revalidation : right.revalidation = left.revalidation
  log : right.log = left.log

theorem alike_refl (relay : Relay) : Alike relay relay :=
  ⟨rfl, rfl, rfl, rfl, rfl, rfl, rfl, rfl⟩

theorem Alike.trans {first second third : Relay} (left : Alike first second)
    (right : Alike second third) : Alike first third where
  pairs := right.pairs.trans left.pairs
  entries := right.entries.trans left.entries
  core := right.core.trans left.core
  readyStates := right.readyStates.trans left.readyStates
  upgrades := right.upgrades.trans left.upgrades
  pairings := right.pairings.trans left.pairings
  revalidation := right.revalidation.trans left.revalidation
  log := right.log.trans left.log

theorem modifyState_alike (relay : Relay) (socket : Nat)
    {change : PeerState → PeerState}
    (keeps : ∀ state, (change state).untimed = state.untimed) :
    Alike relay (relay.modifyState socket change) :=
  ⟨rfl, rfl, relay.modifyState_core socket keeps, rfl, rfl, rfl, rfl, rfl⟩

theorem clearPeerTimer_alike (relay : Relay) (socket : Nat) :
    Alike relay (relay.clearPeerTimer socket) :=
  relay.modifyState_alike socket (fun _ => rfl)

theorem clearStateTimers_alike (relay : Relay) (socket : Nat) :
    Alike relay (relay.clearStateTimers socket) :=
  relay.modifyState_alike socket (fun _ => rfl)

theorem resetIdleTimer_alike (relay : Relay) (socket : Nat) :
    Alike relay (relay.resetIdleTimer socket) :=
  relay.modifyState_alike socket (fun _ => rfl)

theorem resetIdleTimers_alike (relay : Relay) (entry : Entry) :
    Alike relay (relay.resetIdleTimers entry) := by
  unfold resetIdleTimers
  generalize entry.client = client
  generalize entry.worker = worker
  cases client with
  | none =>
      cases worker with
      | none => exact alike_refl relay
      | some worker => exact relay.resetIdleTimer_alike worker
  | some client =>
      have first := relay.resetIdleTimer_alike client
      cases worker with
      | none => exact first
      | some worker => exact first.trans (resetIdleTimer_alike _ worker)

/-! ## Sockets that are being closed -/

/-- Open sockets may have begun to close. -/
def Fades (before after : Relay) : Prop :=
  ∀ socket, after.readyStates socket = before.readyStates socket ∨
    (before.readyStates socket = some .OPEN ∧
      after.readyStates socket = some .CLOSING)

theorem Fades.trans {first second third : Relay} (left : Fades first second)
    (right : Fades second third) : Fades first third := by
  intro socket
  rcases left socket with same | began
  · rcases right socket with still | later
    · exact .inl (still.trans same)
    · rw [same] at later
      exact .inr later
  · rcases right socket with still | later
    · exact .inr ⟨began.1, still.trans began.2⟩
    · rw [began.2] at later
      cases later.1

theorem Fades.shut {before after : Relay} (fades : Fades before after)
    {socket : Nat} (shut : before.readyStates socket ≠ some .OPEN) :
    after.readyStates socket ≠ some .OPEN := by
  rcases fades socket with same | began
  · rw [same]
    exact shut
  · exact absurd began.1 shut

theorem Fades.isSome {before after : Relay} (fades : Fades before after)
    (socket : Nat) :
    (after.readyStates socket).isSome = (before.readyStates socket).isSome := by
  rcases fades socket with same | began
  · rw [same]
  · rw [began.1, began.2]
    rfl

theorem Fades.connected {before after : Relay} (fades : Fades before after)
    {socket : Nat} (connected : before.isConnected socket = true) :
    after.isConnected socket = true := by
  unfold isConnected at connected ⊢
  rcases fades socket with same | began
  · rw [same]
    exact connected
  · rw [began.2]
    rfl

theorem beginClosing_fades (relay : Relay) (socket : Nat) :
    Fades relay (relay.beginClosing socket) := by
  intro other
  unfold beginClosing
  split
  · rename_i isOpen
    by_cases same : other = socket
    · subst same
      exact .inr ⟨isOpen, Function.update_self _ _ _⟩
    · exact .inl (Function.update_of_ne same _ _)
  · exact .inl rfl

/-- Which effects leave the log about closed sockets. -/
def Effect.isSocketClosed : Effect → Bool
  | .socketClosed _ _ _ => true
  | _ => false

/-- These sockets are not open any more; the rest is as it was. -/
structure Shuts (before after : Relay) (sockets : Nat → Prop) : Prop where
  pairs : after.pairs = before.pairs
  entries : after.entries = before.entries
  core : after.core = before.core
  upgrades : after.upgrades = before.upgrades
  pairings : after.pairings = before.pairings
  revalidation : after.revalidation = before.revalidation
  fades : Fades before after
  shut : ∀ socket, sockets socket → after.readyStates socket ≠ some .OPEN
  kept : ∀ socket, ¬sockets socket →
    after.readyStates socket = before.readyStates socket
  log : ∃ effects, (∀ effect ∈ effects, effect.isSocketClosed = true) ∧
    after.log = before.log ++ effects

theorem Shuts.trans {first second third : Relay} {sockets others : Nat → Prop}
    (left : Shuts first second sockets) (right : Shuts second third others) :
    Shuts first third (fun socket => sockets socket ∨ others socket) where
  pairs := right.pairs.trans left.pairs
  entries := right.entries.trans left.entries
  core := right.core.trans left.core
  upgrades := right.upgrades.trans left.upgrades
  pairings := right.pairings.trans left.pairings
  revalidation := right.revalidation.trans left.revalidation
  fades := left.fades.trans right.fades
  shut socket member := by
    rcases member with here | there
    · exact right.fades.shut (left.shut socket here)
    · exact right.shut socket there
  kept socket others := by
    rw [not_or] at others
    exact (right.kept socket others.2).trans (left.kept socket others.1)
  log := by
    obtain ⟨before, closed, first⟩ := left.log
    obtain ⟨after, also, second⟩ := right.log
    refine ⟨before ++ after, ?_, ?_⟩
    · intro effect member
      rcases List.mem_append.mp member with here | there
      · exact closed effect here
      · exact also effect there
    · rw [second, first, List.append_assoc]

theorem closeSocket_shuts (relay : Relay) (socket : Nat) (code : CloseCode)
    (reason : String) :
    Shuts relay (relay.closeSocket socket code reason) (· = socket) := by
  unfold closeSocket
  split
  · rename_i isOpen
    refine ⟨rfl, rfl, rfl, rfl, rfl, rfl, ?_, ?_, ?_,
      [.socketClosed socket code reason], ?_, rfl⟩
    · intro other
      by_cases same : other = socket
      · subst same
        exact .inr ⟨isOpen, Function.update_self _ _ _⟩
      · exact .inl (Function.update_of_ne same _ _)
    · intro other same
      subst same
      simp
    · intro other different
      exact Function.update_of_ne different _ _
    · intro effect member
      rw [List.mem_singleton.mp member]
      rfl
  · rename_i shut
    refine ⟨rfl, rfl, rfl, rfl, rfl, rfl, fun _ => .inl rfl, ?_,
      fun _ _ => rfl, [], by simp, (List.append_nil _).symm⟩
    intro other same
    subst same
    exact shut

theorem closeState_shuts (relay : Relay) (code : CloseCode) (reason : String)
    (state : Option Nat) :
    Shuts relay (closeState code reason relay state) (state = some ·) := by
  cases state with
  | none =>
      refine ⟨rfl, rfl, rfl, rfl, rfl, rfl, fun _ => .inl rfl, ?_,
        fun _ _ => rfl, [], by simp, (List.append_nil _).symm⟩
      intro socket impossible
      cases impossible
  | some socket =>
      have alike := relay.clearStateTimers_alike socket
      have shuts := (relay.clearStateTimers socket).closeSocket_shuts socket
        code reason
      refine ⟨shuts.pairs, shuts.entries, shuts.core.trans alike.core,
        shuts.upgrades, shuts.pairings, shuts.revalidation, shuts.fades, ?_, ?_,
        shuts.log⟩
      · intro other same
        exact shuts.shut other (Option.some.inj same).symm
      · intro other different
        exact shuts.kept other (fun same => different (congrArg some same.symm))

/-! ## Entries that are closed -/

/-- The entry has been closed. -/
structure Closes (before after : Relay) (id : Nat) (entry : Entry) : Prop where
  pairs : after.pairs = before.pairs.filter (fun pair => pair.1 ≠ entry.key)
  entries : after.entries =
    Function.update before.entries id (some { entry with closed := true })
  core : after.core = before.core
  upgrades : after.upgrades = before.upgrades
  pairings : after.pairings = before.pairings
  revalidation : after.revalidation = before.revalidation
  fades : Fades before after
  shut : ∀ role socket, entry.slot role = some socket →
    after.readyStates socket ≠ some .OPEN
  kept : ∀ socket, (∀ role, entry.slot role ≠ some socket) →
    after.readyStates socket = before.readyStates socket
  log : ∃ effects, (∀ effect ∈ effects, effect.isSocketClosed = true) ∧
    after.log = before.log ++ .entryClosed id :: effects

theorem closeEntry_open {relay : Relay} {id : Nat} {entry : Entry}
    (found : relay.entries id = some entry) (isOpen : entry.closed = false)
    (code : CloseCode) (reason : String) :
    Closes relay (relay.closeEntry id code reason) id entry := by
  have shuts := ((relay.markClosed id entry).closeState_shuts code reason
    entry.client).trans (closeState_shuts _ code reason entry.worker)
  have closed : relay.closeEntry id code reason =
      closeState code reason (closeState code reason
        (relay.markClosed id entry) entry.client) entry.worker := by
    rw [closeEntry, found]
    simp only [isOpen, Bool.false_eq_true, if_false]
    rfl
  rw [closed]
  refine ⟨shuts.pairs, shuts.entries, shuts.core, shuts.upgrades,
    shuts.pairings, shuts.revalidation, shuts.fades, ?_, ?_, ?_⟩
  · intro role socket held
    apply shuts.shut
    cases role with
    | client => exact .inl held
    | worker => exact .inr held
  · intro socket outside
    apply shuts.kept
    rintro (client | worker)
    · exact outside .client client
    · exact outside .worker worker
  · obtain ⟨effects, sockets, log⟩ := shuts.log
    refine ⟨effects, sockets, ?_⟩
    rw [log, markClosed, List.append_assoc]
    rfl

theorem closeEntry_closed {relay : Relay} {id : Nat} {entry : Entry}
    (found : relay.entries id = some entry) (closed : entry.closed = true)
    (code : CloseCode) (reason : String) :
    relay.closeEntry id code reason = relay := by
  rw [closeEntry, found]
  simp only [closed, if_true]

theorem closeEntry_missing {relay : Relay} {id : Nat}
    (missing : relay.entries id = none) (code : CloseCode) (reason : String) :
    relay.closeEntry id code reason = relay := by
  rw [closeEntry, missing]

/-- Nothing happens, or an open entry is closed. -/
theorem closeEntry_cases (relay : Relay) (id : Nat) (code : CloseCode)
    (reason : String) :
    relay.closeEntry id code reason = relay ∨
      ∃ entry, relay.entries id = some entry ∧ entry.closed = false ∧
        Closes relay (relay.closeEntry id code reason) id entry := by
  cases found : relay.entries id with
  | none => exact .inl (closeEntry_missing found code reason)
  | some entry =>
      cases closed : entry.closed with
      | true => exact .inl (closeEntry_closed found closed code reason)
      | false =>
          exact .inr ⟨entry, rfl, closed, closeEntry_open found closed code reason⟩

end Relay

end GpuLink
