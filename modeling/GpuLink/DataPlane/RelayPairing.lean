import GpuLink.DataPlane.RelayFrames

/-!
# The pairs of the relay

What holds of entries, sockets and pairings between two events.  Every handler
is shown to preserve it, part by part.
-/

namespace GpuLink

open DataPlane Service

namespace Relay

/-- The entries, the sockets and the pairings of a relay fit together. -/
structure Sound (relay : Relay) : Prop where
  listed : ∀ {key : String} {id : Nat}, (key, id) ∈ relay.pairs →
    ∃ entry, relay.entries id = some entry ∧ entry.key = key ∧
      entry.closed = false
  once : (relay.pairs.map Prod.fst).Nodup
  kept : ∀ {id : Nat} {entry : Entry}, relay.entries id = some entry →
    entry.closed = false → (entry.key, id) ∈ relay.pairs
  made : ∀ {id : Nat} {entry : Entry}, relay.entries id = some entry →
    (relay.readyStates id).isSome
  /-- A socket is in its slot as long as the entry is open. -/
  entered : ∀ {socket : Nat} {state : PeerState},
    relay.core socket = some state → (relay.readyStates socket).isSome ∧
      ∃ entry, relay.entries state.entry = some entry ∧
        (entry.closed = false → entry.slot state.role = some socket ∧
          relay.isConnected socket = true) ∧
        (entry.closed = true → relay.readyStates socket ≠ some .OPEN)
  slots : ∀ {id : Nat} {entry : Entry} {role : Role} {socket : Nat},
    relay.entries id = some entry → entry.slot role = some socket →
      ∃ state, relay.core socket = some state ∧ state.entry = id ∧
        state.role = role
  linked : ∀ {socket : Nat} {state : PeerState} {peer : Nat},
    relay.core socket = some state → state.peer = some peer →
      (∃ other, relay.core peer = some other ∧ other.entry = state.entry ∧
        other.role = otherRole state.role ∧ other.peer = some socket) ∧
      ∃ entry, relay.entries state.entry = some entry ∧ entry.active = true
  full : ∀ {id : Nat} {entry : Entry}, relay.entries id = some entry →
    entry.active = true → entry.closed = false → ∀ role,
      ∃ socket state peer, entry.slot role = some socket ∧
        relay.core socket = some state ∧ state.peer = some peer ∧
        entry.slot (otherRole role) = some peer
  upgrading : ∀ {socket : Nat} {offer : ProtocolOffer},
    relay.upgrades socket = some offer → relay.readyStates socket = none
  pairing : ∀ {id : Nat} {pairing : Pairing},
    relay.pairings id = some pairing → ∃ entry, relay.entries id = some entry ∧
      entry.activating = true ∧ entry.active = false ∧
      (entry.closed = false → entry.client = some pairing.client ∧
        entry.worker = some pairing.worker)

theorem sound_initial : Sound initial where
  listed member := by cases member
  once := List.nodup_nil
  kept found := by cases found
  made found := by cases found
  entered found := by cases found
  slots found := by cases found
  linked found := by cases found
  full found := by cases found
  upgrading found := by cases found
  pairing found := by cases found

section Preserved

variable {before after : Relay}

/-- Sockets may begin to close, whatever becomes of the rest of the relay. -/
theorem Sound.fades (sound : Sound before) (pairs : after.pairs = before.pairs)
    (entries : after.entries = before.entries) (core : after.core = before.core)
    (upgrades : after.upgrades = before.upgrades)
    (pairings : after.pairings = before.pairings)
    (fades : Fades before after) : Sound after where
  listed member := by
    rw [pairs] at member
    rw [entries]
    exact sound.listed member
  once := by
    rw [pairs]
    exact sound.once
  kept found isOpen := by
    rw [entries] at found
    rw [pairs]
    exact sound.kept found isOpen
  made found := by
    rw [entries] at found
    rw [fades.isSome]
    exact sound.made found
  entered found := by
    rw [core] at found
    rw [entries, fades.isSome]
    obtain ⟨known, entry, entered, isOpen, closed⟩ := sound.entered found
    refine ⟨known, entry, entered, ?_, ?_⟩
    · intro stillOpen
      exact ⟨(isOpen stillOpen).1, fades.connected (isOpen stillOpen).2⟩
    · intro isClosed
      exact fades.shut (closed isClosed)
  slots found held := by
    rw [entries] at found
    rw [core]
    exact sound.slots found held
  linked found peer := by
    rw [core] at found
    rw [core, entries]
    exact sound.linked found peer
  full found active isOpen := by
    rw [entries] at found
    rw [core]
    exact sound.full found active isOpen
  upgrading found := by
    rw [upgrades] at found
    have absent := sound.upgrading found
    have same := fades.isSome
    rw [← Option.isNone_iff_eq_none] at absent ⊢
    rw [← Option.not_isSome, same, Option.not_isSome]
    exact absent
  pairing found := by
    rw [pairings] at found
    rw [entries]
    exact sound.pairing found

theorem fades_of_eq (same : after.readyStates = before.readyStates) :
    Fades before after := by
  intro socket
  rw [same]
  exact .inl rfl

theorem Sound.alike (sound : Sound before) (alike : Alike before after) :
    Sound after :=
  sound.fades alike.pairs alike.entries alike.core alike.upgrades
    alike.pairings (fades_of_eq alike.readyStates)

theorem Sound.shuts {sockets : Nat → Prop} (sound : Sound before)
    (shuts : Shuts before after sockets) : Sound after :=
  sound.fades shuts.pairs shuts.entries shuts.core shuts.upgrades
    shuts.pairings shuts.fades

/-- An entry that is open at first is closed at last; one of its sockets may
have left its slot. -/
structure Ends (before after : Relay) (id : Nat) (first last : Entry) : Prop where
  found : before.entries id = some first
  isOpen : first.closed = false
  pairs : after.pairs = before.pairs.filter (fun pair => pair.1 ≠ first.key)
  entries : after.entries = Function.update before.entries id (some last)
  closed : last.closed = true
  active : last.active = first.active
  activating : last.activating = first.activating
  slots : ∀ {role socket}, last.slot role = some socket →
    first.slot role = some socket
  core : after.core = before.core
  upgrades : after.upgrades = before.upgrades
  pairings : after.pairings = before.pairings
  revalidation : after.revalidation = before.revalidation
  known : ∀ socket,
    (after.readyStates socket).isSome = (before.readyStates socket).isSome
  elsewhere : ∀ {socket state}, before.core socket = some state →
    state.entry ≠ id → after.readyStates socket = before.readyStates socket
  shut : ∀ {role socket}, first.slot role = some socket →
    after.readyStates socket ≠ some .OPEN
  log : ∃ effects, (∀ effect ∈ effects, effect.isSocketClosed = true) ∧
    after.log = before.log ++ .entryClosed id :: effects

theorem Sound.ends {id : Nat} {first last : Entry} (sound : Sound before)
    (ends : Ends before after id first last) : Sound after := by
  have atId : after.entries id = some last := by
    rw [ends.entries, Function.update_self]
  have other : ∀ {id'}, id' ≠ id → after.entries id' = before.entries id' := by
    intro id' different
    rw [ends.entries, Function.update_of_ne different]
  have isOther : ∀ {id' entry}, after.entries id' = some entry →
      entry.closed = false → id' ≠ id := by
    rintro id' entry found isOpen rfl
    rw [atId] at found
    cases found
    rw [ends.closed] at isOpen
    cases isOpen
  constructor
  · intro key id' member
    rw [ends.pairs, List.mem_filter, decide_eq_true_eq] at member
    obtain ⟨entry, found, named, isOpen⟩ := sound.listed member.1
    refine ⟨entry, ?_, named, isOpen⟩
    rw [other, found]
    rintro rfl
    rw [ends.found] at found
    cases found
    exact member.2 named.symm
  · rw [ends.pairs]
    exact sound.once.sublist (List.filter_sublist.map _)
  · intro id' entry found isOpen
    have different := isOther found isOpen
    rw [other different] at found
    have listed := sound.kept found isOpen
    rw [ends.pairs, List.mem_filter, decide_eq_true_eq]
    refine ⟨listed, ?_⟩
    intro same
    have here := sound.kept ends.found ends.isOpen
    apply different
    exact congrArg Prod.snd
      (List.inj_on_of_nodup_map sound.once listed here same)
  · intro id' entry found
    rw [ends.known]
    by_cases same : id' = id
    · subst same
      exact sound.made ends.found
    · rw [other same] at found
      exact sound.made found
  · intro socket state found
    rw [ends.core] at found
    obtain ⟨known, entry, entered, isOpen, closed⟩ := sound.entered found
    rw [ends.known]
    refine ⟨known, ?_⟩
    by_cases same : state.entry = id
    · rw [same] at entered ⊢
      rw [ends.found] at entered
      cases entered
      refine ⟨last, atId, ?_, ?_⟩
      · intro stillOpen
        rw [ends.closed] at stillOpen
        cases stillOpen
      · intro _
        exact ends.shut (isOpen ends.isOpen).1
    · have still := ends.elsewhere found same
      rw [other same, isConnected, still]
      exact ⟨entry, entered, isOpen, closed⟩
  · intro id' entry role socket found held
    rw [ends.core]
    by_cases same : id' = id
    · subst same
      rw [atId] at found
      cases found
      exact sound.slots ends.found (ends.slots held)
    · rw [other same] at found
      exact sound.slots found held
  · intro socket state peer found hasPeer
    rw [ends.core] at found ⊢
    obtain ⟨linked, entry, entered, active⟩ := sound.linked found hasPeer
    refine ⟨linked, ?_⟩
    by_cases same : state.entry = id
    · rw [same] at entered ⊢
      rw [ends.found] at entered
      cases entered
      exact ⟨last, atId, ends.active.trans active⟩
    · rw [other same]
      exact ⟨entry, entered, active⟩
  · intro id' entry found active isOpen
    rw [other (isOther found isOpen)] at found
    rw [ends.core]
    exact sound.full found active isOpen
  · intro socket offer found
    rw [ends.upgrades] at found
    have absent := sound.upgrading found
    rw [← Option.isNone_iff_eq_none] at absent ⊢
    rw [← Option.not_isSome, ends.known, Option.not_isSome]
    exact absent
  · intro id' pairing found
    rw [ends.pairings] at found
    obtain ⟨entry, entered, activating, inactive, slots⟩ := sound.pairing found
    by_cases same : id' = id
    · subst same
      rw [ends.found] at entered
      cases entered
      refine ⟨last, atId, ends.activating.trans activating,
        ends.active.trans inactive, ?_⟩
      intro stillOpen
      rw [ends.closed] at stillOpen
      cases stillOpen
    · rw [other same]
      exact ⟨entry, entered, activating, inactive, slots⟩

theorem Sound.ends_of_closes {id : Nat} {entry : Entry} (sound : Sound before)
    (found : before.entries id = some entry) (isOpen : entry.closed = false)
    (closes : Closes before after id entry) :
    Ends before after id entry { entry with closed := true } where
  found := found
  isOpen := isOpen
  pairs := closes.pairs
  entries := closes.entries
  closed := rfl
  active := rfl
  activating := rfl
  slots {role socket} held := by
    cases role <;> exact held
  core := closes.core
  upgrades := closes.upgrades
  pairings := closes.pairings
  revalidation := closes.revalidation
  known := closes.fades.isSome
  elsewhere {socket state} known different := by
    apply closes.kept
    intro role held
    obtain ⟨other, same, entered, _⟩ := sound.slots found held
    rw [known] at same
    cases same
    exact different entered
  shut {role socket} held := closes.shut role socket held
  log := closes.log

theorem Sound.closeEntry (sound : Sound before) (id : Nat) (code : CloseCode)
    (reason : String) : Sound (before.closeEntry id code reason) := by
  rcases closeEntry_cases before id code reason with same |
    ⟨entry, found, isOpen, closes⟩
  · rw [same]
    exact sound
  · exact sound.ends (sound.ends_of_closes found isOpen closes)

/-! ### A socket that has closed -/

/-- Only that this socket is closed now has changed. -/
structure Disconnects (before after : Relay) (socket : Nat) : Prop where
  pairs : after.pairs = before.pairs
  entries : after.entries = before.entries
  core : after.core = before.core
  readyStates : after.readyStates =
    Function.update before.readyStates socket (some .CLOSED)
  upgrades : after.upgrades = before.upgrades
  pairings : after.pairings = before.pairings
  revalidation : after.revalidation = before.revalidation
  log : after.log = before.log
  known : (before.readyStates socket).isSome
  outside : ∀ {state}, before.core socket = some state →
    ∃ entry, before.entries state.entry = some entry ∧ entry.closed = true

theorem Sound.disconnects {socket : Nat} (sound : Sound before)
    (disconnects : Disconnects before after socket) : Sound after := by
  have known : ∀ other, (after.readyStates other).isSome =
      (before.readyStates other).isSome := by
    intro other
    rw [disconnects.readyStates]
    by_cases same : other = socket
    · subst same
      rw [Function.update_self, disconnects.known]
      rfl
    · rw [Function.update_of_ne same]
  constructor
  · rw [disconnects.pairs, disconnects.entries]
    exact sound.listed
  · rw [disconnects.pairs]
    exact sound.once
  · rw [disconnects.pairs, disconnects.entries]
    exact sound.kept
  · intro id entry found
    rw [disconnects.entries] at found
    rw [known]
    exact sound.made found
  · intro other state found
    rw [disconnects.core] at found
    obtain ⟨isKnown, entry, entered, isOpen, closed⟩ := sound.entered found
    rw [known, disconnects.entries]
    refine ⟨isKnown, entry, entered, ?_⟩
    rw [isConnected, disconnects.readyStates]
    by_cases same : other = socket
    · subst same
      obtain ⟨last, also, ended⟩ := disconnects.outside found
      rw [entered] at also
      cases also
      constructor
      · intro isOpen
        rw [ended] at isOpen
        cases isOpen
      · intro _
        rw [Function.update_self]
        decide
    · rw [Function.update_of_ne same]
      exact ⟨isOpen, closed⟩
  · rw [disconnects.core, disconnects.entries]
    exact sound.slots
  · rw [disconnects.core, disconnects.entries]
    exact sound.linked
  · rw [disconnects.core, disconnects.entries]
    exact sound.full
  · intro other offer found
    rw [disconnects.upgrades] at found
    have absent := sound.upgrading found
    rw [← Option.isNone_iff_eq_none] at absent ⊢
    rw [← Option.not_isSome, known, Option.not_isSome]
    exact absent
  · rw [disconnects.pairings, disconnects.entries]
    exact sound.pairing

/-- The slot that a closed socket leaves. -/
theorem Ends.vacated {middle : Relay} {id socket : Nat} {state : PeerState}
    {entry : Entry} (sound : Sound before)
    (known : before.core socket = some state) (isEntry : state.entry = id)
    (found : before.entries id = some entry) (isOpen : entry.closed = false)
    (closes : Closes middle after id (entry.setSlot state.role none))
    (pairs : middle.pairs = before.pairs)
    (entries : middle.entries = Function.update before.entries id
      (some (entry.setSlot state.role none)))
    (core : middle.core = before.core)
    (readyStates : middle.readyStates =
      Function.update before.readyStates socket (some .CLOSED))
    (upgrades : middle.upgrades = before.upgrades)
    (pairings : middle.pairings = before.pairings)
    (revalidation : middle.revalidation = before.revalidation)
    (log : middle.log = before.log) :
    Ends before after id entry
      { entry.setSlot state.role none with closed := true } where
  found := found
  isOpen := isOpen
  pairs := by
    rw [closes.pairs, pairs, Entry.setSlot_key]
  entries := by
    rw [closes.entries, entries, Function.update_idem]
  closed := rfl
  active := Entry.setSlot_active _ _ _
  activating := Entry.setSlot_activating _ _ _
  slots {role other} held := by
    have held : (entry.setSlot state.role none).slot role = some other := by
      cases role <;> exact held
    by_cases same : role = state.role
    · subst same
      rw [Entry.slot_setSlot_same] at held
      cases held
    · rw [Entry.slot_setSlot_other _ same] at held
      exact held
  core := closes.core.trans core
  upgrades := closes.upgrades.trans upgrades
  pairings := closes.pairings.trans pairings
  revalidation := closes.revalidation.trans revalidation
  known other := by
    rw [closes.fades.isSome, readyStates]
    by_cases same : other = socket
    · subst same
      rw [Function.update_self, (sound.entered known).1]
      rfl
    · rw [Function.update_of_ne same]
  elsewhere {other otherState} known' different := by
    have apart : other ≠ socket := by
      rintro rfl
      rw [known] at known'
      cases known'
      exact different isEntry
    rw [closes.kept, readyStates, Function.update_of_ne apart]
    intro role held
    have held : (entry.setSlot state.role none).slot role = some other := held
    have inFirst : entry.slot role = some other := by
      by_cases same : role = state.role
      · subst same
        rw [Entry.slot_setSlot_same] at held
        cases held
      · rw [Entry.slot_setSlot_other _ same] at held
        exact held
    obtain ⟨third, same, entered, _⟩ := sound.slots found inFirst
    rw [known'] at same
    cases same
    exact different entered
  shut {role other} held := by
    by_cases same : role = state.role
    · have isSocket : other = socket := by
        obtain ⟨_, entry', entered, slot, _⟩ := sound.entered known
        rw [isEntry, found] at entered
        cases entered
        have slot := (slot isOpen).1
        rw [← same, held] at slot
        exact Option.some.inj slot
      subst isSocket
      apply closes.fades.shut
      rw [readyStates, Function.update_self]
      decide
    · apply closes.shut role
      rw [Entry.slot_setSlot_other _ same]
      exact held
  log := by
    obtain ⟨effects, closed, same⟩ := closes.log
    exact ⟨effects, closed, by rw [same, log]⟩

theorem markClosed_closes {id : Nat} {entry : Entry}
    (empty : ∀ role, entry.slot role = none) :
    Closes before (before.markClosed id entry) id entry where
  pairs := rfl
  entries := rfl
  core := rfl
  upgrades := rfl
  pairings := rfl
  revalidation := rfl
  fades _ := .inl rfl
  shut role socket held := by
    rw [empty role] at held
    cases held
  kept _ _ := rfl
  log := ⟨[], by simp, rfl⟩

/-- The socket is of no open entry, or its entry is closed with it. -/
theorem handleSocketClose_cases (sound : Sound before) {socket : Nat}
    (known : (before.readyStates socket).isSome) :
    Disconnects before (before.handleSocketClose socket) socket ∨
      ∃ state first, before.core socket = some state ∧
        Ends before (before.handleSocketClose socket) state.entry first
          { first.setSlot state.role none with closed := true } := by
  unfold handleSocketClose
  cases stateful : before.states socket with
  | none =>
      left
      simp only [stateful]
      refine ⟨rfl, rfl, rfl, rfl, rfl, rfl, rfl, rfl, known, ?_⟩
      intro state found
      rw [core, stateful] at found
      cases found
  | some state =>
      simp only [stateful]
      have found := core_of_states stateful
      obtain ⟨_, entry, entered, slot, _⟩ := sound.entered found
      have entered : before.entries state.entry = some entry := entered
      have alike := clearStateTimers_alike { before with
        readyStates := Function.update before.readyStates socket
          (some .CLOSED) } socket
      have entries : (clearStateTimers { before with
          readyStates := Function.update before.readyStates socket
            (some .CLOSED) } socket).entries state.entry = some entry := entered
      simp only [entries]
      cases closed : entry.closed with
      | true =>
          left
          simp only [if_true]
          refine ⟨rfl, rfl, alike.core, rfl, rfl, rfl, rfl, rfl, known, ?_⟩
          intro other same
          rw [found] at same
          cases same
          exact ⟨entry, entered, closed⟩
      | false =>
          right
          simp only [Bool.false_eq_true, if_false]
          have slot : entry.slot state.role = some socket := (slot closed).1
          rw [if_pos slot]
          refine ⟨state.untimed, entry, found, ?_⟩
          cases vacant : (entry.setSlot state.role none).slot
              (otherRole state.role) with
          | some other =>
              exact Ends.vacated sound found rfl entered closed
                (closeEntry_open (Function.update_self _ _ _)
                  ((Entry.setSlot_closed _ _ _).trans closed) _ _)
                rfl rfl alike.core rfl rfl rfl rfl rfl
          | none =>
              refine Ends.vacated sound found rfl entered closed
                (markClosed_closes ?_) rfl rfl alike.core rfl rfl rfl rfl rfl
              intro role
              rcases eq_or_otherRole state.role role with same | other
              · rw [same, Entry.slot_setSlot_same]
              · rw [other]
                exact vacant

theorem Sound.handleSocketClose (sound : Sound before) {socket : Nat}
    (known : (before.readyStates socket).isSome) :
    Sound (before.handleSocketClose socket) := by
  rcases handleSocketClose_cases sound known with disconnects |
    ⟨_, _, _, ends⟩
  · exact sound.disconnects disconnects
  · exact sound.ends ends

/-! ### Pairing -/

/-- An entry changes in nothing but whether it is being paired. -/
theorem Sound.remarked {id : Nat} {entry new : Entry} (sound : Sound before)
    (found : before.entries id = some entry)
    (entries : after.entries = Function.update before.entries id (some new))
    (key : new.key = entry.key) (closed : new.closed = entry.closed)
    (active : new.active = entry.active)
    (slots : ∀ role, new.slot role = entry.slot role)
    (pairs : after.pairs = before.pairs) (core : after.core = before.core)
    (readyStates : after.readyStates = before.readyStates)
    (upgrades : after.upgrades = before.upgrades)
    (pairing : ∀ {id pairing}, after.pairings id = some pairing →
      ∃ entry, after.entries id = some entry ∧ entry.activating = true ∧
        entry.active = false ∧ (entry.closed = false →
          entry.client = some pairing.client ∧
            entry.worker = some pairing.worker)) : Sound after := by
  have atId : after.entries id = some new := by
    rw [entries, Function.update_self]
  have other : ∀ {id'}, id' ≠ id → after.entries id' = before.entries id' := by
    intro id' different
    rw [entries, Function.update_of_ne different]
  have changed : ∀ {id' last}, after.entries id' = some last → ∃ first,
      before.entries id' = some first ∧ last.key = first.key ∧
        last.closed = first.closed ∧ last.active = first.active ∧
        ∀ role, last.slot role = first.slot role := by
    intro id' last known
    by_cases same : id' = id
    · subst same
      rw [atId] at known
      cases known
      exact ⟨entry, found, key, closed, active, slots⟩
    · rw [other same] at known
      exact ⟨last, known, rfl, rfl, rfl, fun _ => rfl⟩
  have remains : ∀ {id' first}, before.entries id' = some first → ∃ last,
      after.entries id' = some last ∧ last.key = first.key ∧
        last.closed = first.closed ∧ last.active = first.active ∧
        ∀ role, last.slot role = first.slot role := by
    intro id' first known
    by_cases same : id' = id
    · subst same
      rw [found] at known
      cases known
      exact ⟨new, atId, key, closed, active, slots⟩
    · exact ⟨first, (other same).trans known, rfl, rfl, rfl, fun _ => rfl⟩
  constructor
  · intro key id' member
    rw [pairs] at member
    obtain ⟨first, known, named, isOpen⟩ := sound.listed member
    obtain ⟨last, now, sameKey, sameClosed, _⟩ := remains known
    exact ⟨last, now, sameKey.trans named, sameClosed.trans isOpen⟩
  · rw [pairs]
    exact sound.once
  · intro id' last known isOpen
    obtain ⟨first, then', sameKey, sameClosed, _⟩ := changed known
    rw [pairs, sameKey]
    exact sound.kept then' (sameClosed.symm.trans isOpen)
  · intro id' last known
    obtain ⟨first, then', _⟩ := changed known
    rw [readyStates]
    exact sound.made then'
  · intro socket state known
    rw [core] at known
    rw [readyStates]
    obtain ⟨isKnown, first, entered, isOpen, shut⟩ := sound.entered known
    obtain ⟨last, now, _, sameClosed, _, sameSlots⟩ := remains entered
    refine ⟨isKnown, last, now, ?_, ?_⟩
    · intro stillOpen
      rw [sameSlots, isConnected, readyStates]
      exact isOpen (sameClosed.symm.trans stillOpen)
    · intro isClosed
      exact shut (sameClosed.symm.trans isClosed)
  · intro id' last role socket known held
    obtain ⟨first, then', _, _, _, sameSlots⟩ := changed known
    rw [core]
    exact sound.slots then' ((sameSlots role).symm.trans held)
  · intro socket state peer known hasPeer
    rw [core] at known ⊢
    obtain ⟨linked, first, entered, isActive⟩ := sound.linked known hasPeer
    obtain ⟨last, now, _, _, sameActive, _⟩ := remains entered
    exact ⟨linked, last, now, sameActive.trans isActive⟩
  · intro id' last known isActive isOpen role
    obtain ⟨first, then', _, sameClosed, sameActive, sameSlots⟩ := changed known
    rw [core]
    simp only [sameSlots]
    exact sound.full then' (sameActive.symm.trans isActive)
      (sameClosed.symm.trans isOpen) role
  · rw [upgrades, readyStates]
    exact sound.upgrading
  · exact pairing

/-- Nothing happens, or the entry is being paired from now on. -/
theorem tryPair_cases (relay : Relay) (id : Nat) :
    relay.tryPair id = relay ∨ ∃ entry client worker,
      relay.entries id = some entry ∧ entry.closed = false ∧
        entry.active = false ∧ entry.activating = false ∧
        entry.client = some client ∧ entry.worker = some worker ∧
        relay.tryPair id =
          { relay.setEntry id { entry with activating := true } with
            pairings := Function.update relay.pairings id
              (some ⟨client, worker, .authorizing none none⟩) } := by
  unfold tryPair
  cases found : relay.entries id with
  | none => exact .inl rfl
  | some entry =>
      simp only
      split_ifs with busy
      · exact .inl rfl
      · simp only [not_or, Bool.not_eq_true] at busy
        split
        · rename_i client worker inClient inWorker
          exact .inr ⟨entry, client, worker, rfl, busy.1, busy.2.1, busy.2.2,
            inClient, inWorker, rfl⟩
        · exact .inl rfl

theorem Sound.tryPair (sound : Sound before) (id : Nat) :
    Sound (before.tryPair id) := by
  rcases tryPair_cases before id with same | ⟨entry, client, worker, found,
    isOpen, inactive, _, inClient, inWorker, begun⟩
  · rw [same]
    exact sound
  · rw [begun]
    refine sound.remarked found rfl rfl rfl rfl
      (by intro role; cases role <;> rfl) rfl rfl rfl rfl ?_
    intro id' pairing known
    by_cases same : id' = id
    · subst same
      have begun : pairing =
          ⟨client, worker, .authorizing none none⟩ := by
        simp only [Function.update_self, Option.some.injEq] at known
        exact known.symm
      subst begun
      refine ⟨{ entry with activating := true }, ?_, rfl, inactive,
        fun _ => ⟨inClient, inWorker⟩⟩
      exact Function.update_self id' _ before.entries
    · simp only [Function.update_of_ne same] at known
      have known : before.pairings id' = some pairing := known
      obtain ⟨other, entered, rest⟩ := sound.pairing known
      exact ⟨other, (Function.update_of_ne same _ _).trans entered, rest⟩

theorem finishPairing_entries {relay : Relay} {id : Nat} {entry : Entry}
    (found : relay.entries id = some entry) :
    (relay.finishPairing id).entries = Function.update relay.entries id
      (some { entry with activating := false }) := by
  rw [finishPairing, found]
  rfl

theorem finishPairing_pairings (relay : Relay) (id : Nat) :
    (relay.finishPairing id).pairings =
      Function.update relay.pairings id none :=
  rfl

theorem Sound.finishPairing (sound : Sound before) (id : Nat) :
    Sound (before.finishPairing id) := by
  have pairing : ∀ {other pairing},
      (before.finishPairing id).pairings other = some pairing →
        other ≠ id ∧ before.pairings other = some pairing := by
    intro other pairing known
    by_cases same : other = id
    · subst same
      have absent : (before.finishPairing other).pairings other = none :=
        Function.update_self _ _ _
      rw [absent] at known
      cases known
    · refine ⟨same, ?_⟩
      rw [← known]
      exact (Function.update_of_ne same _ _).symm
  cases found : before.entries id with
  | none =>
      have entries : (before.finishPairing id).entries = before.entries := by
        rw [Relay.finishPairing, found]
        exact Function.update_eq_self_iff.mpr found.symm
      refine ⟨?_, sound.once, ?_, ?_, ?_, ?_, ?_, ?_, sound.upgrading, ?_⟩
      all_goals rw [entries]
      · exact sound.listed
      · exact sound.kept
      · exact sound.made
      · exact sound.entered
      · exact sound.slots
      · exact sound.linked
      · exact sound.full
      · intro other other' known
        exact sound.pairing (pairing known).2
  | some entry =>
      refine sound.remarked found (finishPairing_entries found) rfl rfl rfl
        (by intro role; cases role <;> rfl) rfl rfl rfl rfl ?_
      intro other other' known
      obtain ⟨different, known⟩ := pairing known
      obtain ⟨first, entered, rest⟩ := sound.pairing known
      refine ⟨first, ?_, rest⟩
      rw [finishPairing_entries found, Function.update_of_ne different]
      exact entered

/-! ### Activation -/

/-- The states of the two slots have become peers. -/
structure Links (before after : Relay) (client worker : Nat) : Prop where
  atClient : ∀ {state}, before.core client = some state →
    after.core client = some { state with peer := some worker }
  atWorker : ∀ {state}, before.core worker = some state →
    after.core worker = some { state with peer := some client }
  elsewhere : ∀ {socket}, socket ≠ client → socket ≠ worker →
    after.core socket = before.core socket

theorem link_links (relay : Relay) {client worker : Nat}
    (apart : client ≠ worker) :
    Links relay (relay.link client worker) client worker := by
  have states : (relay.link client worker).states =
      Function.update (Function.update relay.states client
        ((relay.states client).map (fun state =>
          { state with peer := some worker }))) worker
        ((relay.states worker).map (fun state =>
          { state with peer := some client })) := by
    simp only [link, modifyState, Function.update_of_ne (Ne.symm apart)]
  constructor
  · intro state known
    rw [core, Option.map_eq_some_iff] at known
    obtain ⟨timed, found, rfl⟩ := known
    rw [core, states, Function.update_of_ne apart, Function.update_self, found]
    rfl
  · intro state known
    rw [core, Option.map_eq_some_iff] at known
    obtain ⟨timed, found, rfl⟩ := known
    rw [core, states, Function.update_self, found]
    rfl
  · intro socket notClient notWorker
    rw [core, core, states, Function.update_of_ne notWorker,
      Function.update_of_ne notClient]

/-- The two sockets of an entry are not the same. -/
theorem Sound.apart {id client worker : Nat} {entry : Entry}
    (sound : Sound before) (found : before.entries id = some entry)
    (inClient : entry.client = some client)
    (inWorker : entry.worker = some worker) : client ≠ worker := by
  rintro rfl
  obtain ⟨state, known, _, isClient⟩ := sound.slots found
    (show entry.slot .client = some client from inClient)
  obtain ⟨other, same, _, isWorker⟩ := sound.slots found
    (show entry.slot .worker = some client from inWorker)
  rw [known] at same
  cases same
  rw [isClient] at isWorker
  cases isWorker

/-- An open entry with both slots filled becomes active. -/
theorem Sound.linkUp {id client worker : Nat} {entry : Entry}
    (sound : Sound before) (found : before.entries id = some entry)
    (inactive : entry.active = false) (inClient : entry.client = some client)
    (inWorker : entry.worker = some worker)
    (unpaired : before.pairings id = none)
    (entries : after.entries = Function.update before.entries id
      (some { entry with active := true }))
    (links : Links before after client worker)
    (pairs : after.pairs = before.pairs)
    (readyStates : after.readyStates = before.readyStates)
    (upgrades : after.upgrades = before.upgrades)
    (pairings : after.pairings = before.pairings) : Sound after := by
  have apart := sound.apart found inClient inWorker
  obtain ⟨clientState, clientKnown, clientEntry, clientRole⟩ :=
    sound.slots found (show entry.slot .client = some client from inClient)
  obtain ⟨workerState, workerKnown, workerEntry, workerRole⟩ :=
    sound.slots found (show entry.slot .worker = some worker from inWorker)
  have atClient := links.atClient clientKnown
  have atWorker := links.atWorker workerKnown
  have atId : after.entries id = some { entry with active := true } := by
    rw [entries, Function.update_self]
  have other : ∀ {id'}, id' ≠ id → after.entries id' = before.entries id' := by
    intro id' different
    rw [entries, Function.update_of_ne different]
  have slotEq : ∀ role,
      Entry.slot { entry with active := true } role = entry.slot role := by
    intro role
    cases role <;> rfl
  have coreCases : ∀ {socket state}, after.core socket = some state →
      (socket = client ∧ state = { clientState with peer := some worker }) ∨
      (socket = worker ∧ state = { workerState with peer := some client }) ∨
      (socket ≠ client ∧ socket ≠ worker ∧
        before.core socket = some state) := by
    intro socket state known
    by_cases isClient : socket = client
    · subst isClient
      rw [atClient] at known
      exact .inl ⟨rfl, (Option.some.inj known).symm⟩
    · by_cases isWorker : socket = worker
      · subst isWorker
        rw [atWorker] at known
        exact .inr (.inl ⟨rfl, (Option.some.inj known).symm⟩)
      · rw [links.elsewhere isClient isWorker] at known
        exact .inr (.inr ⟨isClient, isWorker, known⟩)
  have stays : ∀ {socket state}, after.core socket = some state →
      ∃ first, before.core socket = some first ∧
        state.entry = first.entry ∧ state.role = first.role := by
    intro socket state known
    rcases coreCases known with ⟨rfl, rfl⟩ | ⟨rfl, rfl⟩ | ⟨_, _, same⟩
    · exact ⟨clientState, clientKnown, rfl, rfl⟩
    · exact ⟨workerState, workerKnown, rfl, rfl⟩
    · exact ⟨state, same, rfl, rfl⟩
  constructor
  · intro key id' member
    rw [pairs] at member
    obtain ⟨first, known, named, isOpen⟩ := sound.listed member
    by_cases same : id' = id
    · subst same
      rw [found] at known
      cases known
      exact ⟨_, atId, named, isOpen⟩
    · exact ⟨first, (other same).trans known, named, isOpen⟩
  · rw [pairs]
    exact sound.once
  · intro id' last known isOpen
    rw [pairs]
    by_cases same : id' = id
    · subst same
      rw [atId] at known
      cases known
      have listed := sound.kept found isOpen
      exact listed
    · rw [other same] at known
      exact sound.kept known isOpen
  · intro id' last known
    rw [readyStates]
    by_cases same : id' = id
    · subst same
      exact sound.made found
    · rw [other same] at known
      exact sound.made known
  · intro socket state known
    obtain ⟨first, earlier, sameEntry, sameRole⟩ := stays known
    obtain ⟨isKnown, held, entered, isOpen, shut⟩ := sound.entered earlier
    rw [readyStates, isConnected, readyStates, sameEntry, sameRole]
    refine ⟨isKnown, ?_⟩
    by_cases same : first.entry = id
    · rw [same] at entered ⊢
      rw [found] at entered
      cases entered
      refine ⟨_, atId, ?_, shut⟩
      rw [slotEq]
      exact isOpen
    · exact ⟨held, (other same).trans entered, isOpen, shut⟩
  · intro id' last role socket known held
    have before' : ∃ first, before.entries id' = some first ∧
        first.slot role = some socket := by
      by_cases same : id' = id
      · subst same
        rw [atId] at known
        cases known
        rw [slotEq] at held
        exact ⟨entry, found, held⟩
      · rw [other same] at known
        exact ⟨last, known, held⟩
    obtain ⟨first, known, held⟩ := before'
    obtain ⟨state, inCore, isEntry, isRole⟩ := sound.slots known held
    by_cases isClient : socket = client
    · subst isClient
      rw [clientKnown] at inCore
      cases inCore
      exact ⟨_, atClient, isEntry, isRole⟩
    · by_cases isWorker : socket = worker
      · subst isWorker
        rw [workerKnown] at inCore
        cases inCore
        exact ⟨_, atWorker, isEntry, isRole⟩
      · rw [links.elsewhere isClient isWorker]
        exact ⟨state, inCore, isEntry, isRole⟩
  · intro socket state peer known hasPeer
    rcases coreCases known with ⟨rfl, rfl⟩ | ⟨rfl, rfl⟩ |
      ⟨notClient, notWorker, earlier⟩
    · cases hasPeer
      refine ⟨⟨_, atWorker, workerEntry.trans clientEntry.symm, ?_, rfl⟩, ?_⟩
      · rw [clientRole]
        exact workerRole
      · rw [clientEntry]
        exact ⟨_, atId, rfl⟩
    · cases hasPeer
      refine ⟨⟨_, atClient, clientEntry.trans workerEntry.symm, ?_, rfl⟩, ?_⟩
      · rw [workerRole]
        exact clientRole
      · rw [workerEntry]
        exact ⟨_, atId, rfl⟩
    · obtain ⟨⟨peerState, peerKnown, sameEntry, peerRole, back⟩, held, entered,
        active⟩ := sound.linked earlier hasPeer
      -- The entry is active already, so the peer is of another one.
      have outside : state.entry ≠ id := by
        intro same
        rw [same, found] at entered
        cases entered
        rw [inactive] at active
        cases active
      have notThere : peer ≠ client ∧ peer ≠ worker := by
        constructor
        · rintro rfl
          rw [clientKnown] at peerKnown
          cases peerKnown
          exact outside (sameEntry.symm.trans clientEntry)
        · rintro rfl
          rw [workerKnown] at peerKnown
          cases peerKnown
          exact outside (sameEntry.symm.trans workerEntry)
      rw [links.elsewhere notThere.1 notThere.2, other outside]
      exact ⟨⟨peerState, peerKnown, sameEntry, peerRole, back⟩, held, entered,
        active⟩
  · intro id' last known active isOpen role
    by_cases same : id' = id
    · subst same
      rw [atId] at known
      cases known
      cases role with
      | client => exact ⟨client, _, worker, inClient, atClient, rfl, inWorker⟩
      | worker => exact ⟨worker, _, client, inWorker, atWorker, rfl, inClient⟩
    · rw [other same] at known
      obtain ⟨socket, state, peer, held, inCore, hasPeer, otherHeld⟩ :=
        sound.full known active isOpen role
      obtain ⟨first, inBefore, isEntry, _⟩ := sound.slots known held
      rw [inCore] at inBefore
      cases inBefore
      have notThere : socket ≠ client ∧ socket ≠ worker := by
        constructor
        · rintro rfl
          rw [clientKnown] at inCore
          cases inCore
          exact same (isEntry.symm.trans clientEntry)
        · rintro rfl
          rw [workerKnown] at inCore
          cases inCore
          exact same (isEntry.symm.trans workerEntry)
      refine ⟨socket, state, peer, held, ?_, hasPeer, otherHeld⟩
      rw [links.elsewhere notThere.1 notThere.2]
      exact inCore
  · rw [upgrades, readyStates]
    exact sound.upgrading
  · intro id' pairing known
    rw [pairings] at known
    by_cases same : id' = id
    · subst same
      rw [unpaired] at known
      cases known
    · rw [other same]
      exact sound.pairing known

/-- Of these sockets, those that have asked for the readiness frame. -/
def asking (relay : Relay) (sockets : List Nat) : List Nat :=
  sockets.filter (fun socket =>
    (relay.states socket).any (fun state => state.protocol = .v2))

/-- Those that come before the first that is not open. -/
def told (relay : Relay) (sockets : List Nat) : List Nat :=
  (relay.asking sockets).takeWhile (fun socket =>
    relay.readyStates socket = some .OPEN)

/-- The readiness frames have been written. -/
def withReady (relay : Relay) (sockets : List Nat) : Relay :=
  { relay with log := relay.log ++ sockets.map .ready }

theorem announce_eq (relay : Relay) (id : Nat) (sockets : List Nat) :
    relay.announce id sockets =
      if relay.told sockets = relay.asking sockets then
        relay.withReady (relay.told sockets)
      else (relay.withReady (relay.told sockets)).closeEntry id .TRY_AGAIN_LATER
        "relay peer unavailable" := by
  induction sockets generalizing relay with
  | nil =>
      simp [announce, told, asking, withReady]
  | cons socket rest induction =>
      rw [announce]
      cases stateful : relay.states socket with
      | none =>
          have same : relay.asking (socket :: rest) = relay.asking rest := by
            simp [asking, stateful]
          have sameTold : relay.told (socket :: rest) = relay.told rest := by
            rw [told, same]
            rfl
          rw [same, sameTold]
          exact induction relay
      | some state =>
          simp only
          by_cases legacy : state.protocol ≠ .v2
          · rw [if_pos legacy]
            have same : relay.asking (socket :: rest) = relay.asking rest := by
              simp [asking, stateful, legacy]
            have sameTold : relay.told (socket :: rest) = relay.told rest := by
              rw [told, same]
              rfl
            rw [same, sameTold]
            exact induction relay
          · rw [if_neg legacy]
            simp only [not_not] at legacy
            have asks : relay.asking (socket :: rest) =
                socket :: relay.asking rest := by
              simp [asking, stateful, legacy]
            by_cases shut : relay.readyStates socket ≠ some .OPEN
            · rw [if_pos shut]
              have none : relay.told (socket :: rest) = [] := by
                rw [told, asks, List.takeWhile_cons_of_neg (by simpa using shut)]
              rw [none, asks, if_neg (List.cons_ne_nil _ _).symm, withReady,
                List.map_nil, List.append_nil]
            · rw [if_neg shut]
              simp only [not_not] at shut
              have tells : relay.told (socket :: rest) =
                  socket :: relay.told rest := by
                rw [told, asks,
                  List.takeWhile_cons_of_pos (by simpa using shut)]
                rfl
              have written : (relay.emit (.ready socket)).withReady
                  (relay.told rest) = relay.withReady
                    (socket :: relay.told rest) := by
                rw [withReady, withReady, emit, List.map_cons]
                simp only [List.append_assoc, List.singleton_append]
              have sameTold : (relay.emit (.ready socket)).told rest =
                  relay.told rest := rfl
              have sameAsking : (relay.emit (.ready socket)).asking rest =
                  relay.asking rest := rfl
              rw [induction (relay.emit (.ready socket)), tells, asks, sameTold,
                sameAsking, written]
              simp only [List.cons.injEq, true_and]

/-- The `finally` of a pairing makes no difference to how its entry closes. -/
theorem Closes.finished {id : Nat} {entry : Entry}
    (found : before.entries id = some entry)
    (closes : Closes before after id entry) :
    Closes (before.finishPairing id) (after.finishPairing id) id
      { entry with activating := false } where
  pairs := closes.pairs
  entries := by
    have last : after.entries id = some { entry with closed := true } := by
      rw [closes.entries, Function.update_self]
    rw [finishPairing_entries last, finishPairing_entries found,
      closes.entries, Function.update_idem, Function.update_idem]
  core := closes.core
  upgrades := closes.upgrades
  pairings := by
    rw [finishPairing_pairings, finishPairing_pairings, closes.pairings]
  revalidation := closes.revalidation
  fades := closes.fades
  shut role socket held := by
    apply closes.shut role socket
    cases role <;> exact held
  kept socket outside := by
    apply closes.kept socket
    intro role
    have outside := outside role
    cases role <;> exact outside
  log := closes.log

/-- `tryPair` as soon as the entry is active and linked. -/
def linkedUp (relay : Relay) (id : Nat) (entry : Entry) (client worker : Nat)
    (clientAuthorization workerAuthorization : Authorization) : Relay :=
  let active := { entry with active := true }
  let relay := (((relay.setEntry id active).link client worker).clearPeerTimer
    client).clearPeerTimer worker
  (relay.resetIdleTimers active).emit
    (.paired id client worker clientAuthorization workerAuthorization)

theorem activate_linked {relay : Relay} {id client worker : Nat} {entry : Entry}
    (found : relay.entries id = some entry) (isOpen : entry.closed = false)
    (inClient : entry.client = some client)
    (inWorker : entry.worker = some worker)
    (clientAuthorization workerAuthorization : Authorization) :
    relay.activate id clientAuthorization workerAuthorization =
      ((relay.linkedUp id entry client worker clientAuthorization
        workerAuthorization).announce id [client, worker]).finishPairing id := by
  obtain ⟨_, _, _, _, _, _, _, _, _⟩ := entry
  cases isOpen
  cases inClient
  cases inWorker
  rw [activate, found]
  rfl

theorem activate_closed {relay : Relay} {id : Nat} {entry : Entry}
    (found : relay.entries id = some entry) (closed : entry.closed = true)
    (clientAuthorization workerAuthorization : Authorization) :
    relay.activate id clientAuthorization workerAuthorization =
      relay.finishPairing id := by
  rw [activate, found]
  simp only [closed, if_true]

/-- Up to timers, and to the frames in the log, the linked relay. -/
structure Activates (before after : Relay) (id : Nat) (entry : Entry)
    (client worker : Nat) : Prop where
  entries : after.entries = Function.update before.entries id
    (some { entry with active := true })
  links : Links before after client worker
  pairs : after.pairs = before.pairs
  readyStates : after.readyStates = before.readyStates
  upgrades : after.upgrades = before.upgrades
  pairings : after.pairings = before.pairings
  revalidation : after.revalidation = before.revalidation

theorem linkedUp_activates (relay : Relay) (id : Nat) (entry : Entry)
    {client worker : Nat} (apart : client ≠ worker)
    (clientAuthorization workerAuthorization : Authorization) :
    Activates relay (relay.linkedUp id entry client worker clientAuthorization
      workerAuthorization) id entry client worker := by
  have alike := ((clearPeerTimer_alike ((relay.setEntry id
    { entry with active := true }).link client worker) client).trans
      (clearPeerTimer_alike _ worker)).trans
        (resetIdleTimers_alike _ { entry with active := true })
  have links := (relay.setEntry id { entry with active := true }).link_links apart
  refine ⟨alike.entries, ?_, alike.pairs, alike.readyStates, alike.upgrades,
    alike.pairings, alike.revalidation⟩
  have core : (relay.linkedUp id entry client worker clientAuthorization
      workerAuthorization).core = ((relay.setEntry id
        { entry with active := true }).link client worker).core := alike.core
  constructor
  · rw [core]
    exact links.atClient
  · rw [core]
    exact links.atWorker
  · rw [core]
    exact links.elsewhere

theorem linkedUp_log (relay : Relay) (id : Nat) (entry : Entry)
    (client worker : Nat)
    (clientAuthorization workerAuthorization : Authorization) :
    (relay.linkedUp id entry client worker clientAuthorization
        workerAuthorization).log = relay.log ++
      [.paired id client worker clientAuthorization workerAuthorization] := by
  have alike := ((clearPeerTimer_alike ((relay.setEntry id
    { entry with active := true }).link client worker) client).trans
      (clearPeerTimer_alike _ worker)).trans
        (resetIdleTimers_alike _ { entry with active := true })
  exact congrArg (· ++ [_]) alike.log

/-- The relay at the end of a pairing, but for what the readiness frames find. -/
theorem Sound.activates {id client worker : Nat} {entry : Entry}
    (sound : Sound before) (found : before.entries id = some entry)
    (inactive : entry.active = false) (inClient : entry.client = some client)
    (inWorker : entry.worker = some worker)
    (activates : Activates before after id entry client worker) :
    Sound (after.finishPairing id) := by
  have linked : after.entries id = some { entry with active := true } := by
    rw [activates.entries, Function.update_self]
  have unpaired : (before.finishPairing id).pairings id = none := by
    rw [finishPairing_pairings, Function.update_self]
  have finished : (before.finishPairing id).entries id =
      some { entry with activating := false } := by
    rw [finishPairing_entries found, Function.update_self]
  refine (sound.finishPairing id).linkUp finished inactive inClient inWorker
    unpaired ?_ ⟨activates.links.atClient, activates.links.atWorker,
      activates.links.elsewhere⟩ activates.pairs activates.readyStates
    activates.upgrades ?_
  · rw [finishPairing_entries linked, finishPairing_entries found,
      activates.entries, Function.update_idem, Function.update_idem]
  · rw [finishPairing_pairings, finishPairing_pairings, activates.pairings]

theorem Sound.announced {id : Nat} {entry : Entry} (sockets : List Nat)
    (sound : Sound (before.finishPairing id))
    (found : before.entries id = some entry) :
    Sound ((before.announce id sockets).finishPairing id) := by
  have written : Sound ((before.withReady (before.told sockets)).finishPairing
      id) :=
    sound.fades rfl rfl rfl rfl rfl (fades_of_eq rfl)
  rw [announce_eq]
  split_ifs with all
  · exact written
  · have known : (before.withReady (before.told sockets)).entries id =
        some entry := found
    cases closed : entry.closed with
    | true =>
        rw [closeEntry_closed known closed]
        exact written
    | false =>
        have closes := closeEntry_open known closed .TRY_AGAIN_LATER
          "relay peer unavailable"
        have finished := closes.finished known
        have isOpen : Entry.closed { entry with activating := false } = false :=
          closed
        refine written.ends (written.ends_of_closes ?_ isOpen finished)
        rw [finishPairing_entries known, Function.update_self]

theorem Sound.activate {id : Nat} {pairing : Pairing} (sound : Sound before)
    (known : before.pairings id = some pairing)
    (clientAuthorization workerAuthorization : Authorization) :
    Sound (before.activate id clientAuthorization workerAuthorization) := by
  obtain ⟨entry, found, _, inactive, slots⟩ := sound.pairing known
  cases closed : entry.closed with
  | true =>
      rw [activate_closed found closed]
      exact sound.finishPairing id
  | false =>
      obtain ⟨inClient, inWorker⟩ := slots closed
      have activates := linkedUp_activates before id entry
        (sound.apart found inClient inWorker) clientAuthorization
        workerAuthorization
      rw [activate_linked found closed inClient inWorker]
      have linked := sound.activates found inactive inClient inWorker activates
      have active : (before.linkedUp id entry pairing.client pairing.worker
          clientAuthorization workerAuthorization).entries id =
            some { entry with active := true } := by
        rw [activates.entries, Function.update_self]
      exact linked.announced _ active

theorem Sound.refusePairing (sound : Sound before) (id : Nat) :
    Sound (before.refusePairing id) :=
  (sound.closeEntry id _ _).finishPairing id

/-- A pairing goes on to its next stage. -/
theorem Sound.setPairing {id : Nat} {pairing : Pairing} (sound : Sound before)
    (known : before.pairings id = some pairing) (stage : PairingStage) :
    Sound (before.setPairing id { pairing with stage := stage }) := by
  refine ⟨sound.listed, sound.once, sound.kept, sound.made, sound.entered,
    sound.slots, sound.linked, sound.full, sound.upgrading, ?_⟩
  intro other new found
  by_cases same : other = id
  · subst same
    have same : new = { pairing with stage := stage } := by
      simp only [Relay.setPairing, Function.update_self,
        Option.some.injEq] at found
      exact found.symm
    subst same
    obtain ⟨entry, paired⟩ := sound.pairing known
    exact ⟨entry, paired⟩
  · simp only [Relay.setPairing, Function.update_of_ne same] at found
    exact sound.pairing found

theorem Sound.resumePairing {id : Nat} {entry : Entry} {pairing : Pairing}
    (sound : Sound before) (known : before.pairings id = some pairing)
    (client worker : Option Authorization) :
    Sound (before.resumePairing id entry pairing client worker) := by
  unfold Relay.resumePairing
  split_ifs
  · exact sound.refusePairing id
  · split
    · split_ifs
      · exact sound.setPairing known _
      · exact (sound.closeEntry id _ _).finishPairing id
      · exact sound.activate known _ _
    · exact sound.refusePairing id

/-! ### Connections -/

theorem Sound.unstated {socket : Nat} (sound : Sound before)
    (fresh : before.readyStates socket = none) : before.core socket = none := by
  cases known : before.core socket with
  | none => rfl
  | some state =>
      have isKnown := (sound.entered known).1
      rw [fresh] at isKnown
      cases isKnown

theorem Sound.unmade {id : Nat} (sound : Sound before)
    (fresh : before.readyStates id = none) : before.entries id = none := by
  cases known : before.entries id with
  | none => rfl
  | some entry =>
      have isKnown := sound.made known
      rw [fresh] at isKnown
      cases isKnown

/-- An upgrade begins, or ends. -/
theorem Sound.upgrades (sound : Sound before)
    (upgrades : ∀ {socket offer}, after.upgrades socket = some offer →
      before.readyStates socket = none)
    (pairs : after.pairs = before.pairs)
    (entries : after.entries = before.entries) (core : after.core = before.core)
    (readyStates : after.readyStates = before.readyStates)
    (pairings : after.pairings = before.pairings) : Sound after := by
  have connected : after.isConnected = before.isConnected := by
    funext socket
    rw [isConnected, isConnected, readyStates]
  refine ⟨?_, ?_, ?_, ?_, ?_, ?_, ?_, ?_, ?_, ?_⟩
  · rw [pairs, entries]
    exact sound.listed
  · rw [pairs]
    exact sound.once
  · rw [pairs, entries]
    exact sound.kept
  · rw [entries, readyStates]
    exact sound.made
  · rw [core, readyStates, entries, connected]
    exact sound.entered
  · rw [core, entries]
    exact sound.slots
  · rw [core, entries]
    exact sound.linked
  · rw [core, entries]
    exact sound.full
  · rw [readyStates]
    exact upgrades
  · rw [pairings, entries]
    exact sound.pairing

/-- A connection is open that was not there before. -/
def opened (relay : Relay) (socket : Nat) : Relay :=
  { relay with
    upgrades := Function.update relay.upgrades socket none
    readyStates := Function.update relay.readyStates socket (some .OPEN) }

theorem Sound.opened {socket : Nat} (sound : Sound before)
    (fresh : before.readyStates socket = none) :
    Sound (before.opened socket) := by
  have unstated := sound.unstated fresh
  have unmade := sound.unmade fresh
  have other : ∀ {this}, this ≠ socket →
      (before.opened socket).readyStates this = before.readyStates this :=
    fun different => Function.update_of_ne different _ _
  refine ⟨sound.listed, sound.once, sound.kept, ?_, ?_, sound.slots,
    sound.linked, sound.full, ?_, sound.pairing⟩
  · intro id entry found
    have different : id ≠ socket := by
      rintro rfl
      have found : before.entries id = some entry := found
      rw [unmade] at found
      cases found
    rw [other different]
    exact sound.made found
  · intro this state known
    have different : this ≠ socket := by
      rintro rfl
      have known : before.core this = some state := known
      rw [unstated] at known
      cases known
    rw [isConnected, other different]
    exact sound.entered known
  · intro this offer known
    by_cases same : this = socket
    · subst same
      simp only [Relay.opened, Function.update_self] at known
      cases known
    · simp only [Relay.opened, Function.update_of_ne same] at known
      rw [other same]
      exact sound.upgrading known

/-- The entry that a connection finds or makes. -/
theorem Sound.entryFor {socket : Nat} (sound : Sound before)
    (isKnown : (before.readyStates socket).isSome)
    (unmade : before.entries socket = none) (claims : Claims) :
    Sound (before.entryFor socket claims).1 ∧ ∃ entry,
      (before.entryFor socket claims).1.entries
          (before.entryFor socket claims).2 = some entry ∧
        entry.closed = false ∧ entry.key = pairingKey claims := by
  unfold Relay.entryFor
  cases found : before.pairs.lookup (pairingKey claims) with
  | some id =>
      have member : (pairingKey claims, id) ∈ before.pairs := by
        obtain ⟨before', after', split, _⟩ := List.lookup_eq_some_iff.mp found
        rw [split]
        exact List.mem_append_right _ List.mem_cons_self
      obtain ⟨entry, known, named, isOpen⟩ := sound.listed member
      exact ⟨sound, entry, known, isOpen, named⟩
  | none =>
      have absent : pairingKey claims ∉ before.pairs.map Prod.fst := by
        intro member
        obtain ⟨pair, listed, same⟩ := List.mem_map.mp member
        have missing := List.lookup_eq_none_iff.mp found pair listed
        rw [same] at missing
        simp at missing
      refine ⟨?_, _, Function.update_self socket _ before.entries, rfl, rfl⟩
      have other : ∀ {id}, id ≠ socket →
          Function.update before.entries socket (some
            { key := pairingKey claims
              sessionId := claims.sessionId.1
              workerId := claims.workerId.1
              leaseId := claims.leaseId.1
              client := none
              worker := none
              activating := false
              active := false
              closed := false }) id = before.entries id :=
        fun different => Function.update_of_ne different _ _
      have earlier : ∀ {id entry}, before.entries id = some entry →
          id ≠ socket := by
        rintro id entry known rfl
        rw [unmade] at known
        cases known
      constructor
      · intro key id member
        rcases List.mem_append.mp member with listed | new
        · obtain ⟨entry, known, rest⟩ := sound.listed listed
          exact ⟨entry, (other (earlier known)).trans known, rest⟩
        · cases List.mem_singleton.mp new
          exact ⟨_, Function.update_self _ _ _, rfl, rfl⟩
      · rw [List.map_append, List.nodup_append']
        refine ⟨sound.once, List.nodup_singleton _, ?_⟩
        intro key listed new
        rw [List.map_singleton, List.mem_singleton] at new
        rw [new] at listed
        exact absent listed
      · intro id entry known isOpen
        by_cases same : id = socket
        · subst same
          simp only [Function.update_self, Option.some.injEq] at known
          rw [← known]
          exact List.mem_append_right _ List.mem_cons_self
        · simp only [other same] at known
          exact List.mem_append_left _ (sound.kept known isOpen)
      · intro id entry known
        by_cases same : id = socket
        · rw [same]
          exact isKnown
        · simp only [other same] at known
          exact sound.made known
      · intro this state known
        obtain ⟨isKnown, entry, entered, rest⟩ := sound.entered known
        exact ⟨isKnown, entry, (other (earlier entered)).trans entered, rest⟩
      · intro id entry role this known held
        by_cases same : id = socket
        · subst same
          simp only [Function.update_self, Option.some.injEq] at known
          rw [← known] at held
          cases role <;> cases held
        · simp only [other same] at known
          exact sound.slots known held
      · intro this state peer known hasPeer
        obtain ⟨linked, entry, entered, active⟩ := sound.linked known hasPeer
        exact ⟨linked, entry, (other (earlier entered)).trans entered, active⟩
      · intro id entry known active isOpen
        by_cases same : id = socket
        · subst same
          simp only [Function.update_self, Option.some.injEq] at known
          rw [← known] at active
          cases active
        · simp only [other same] at known
          exact sound.full known active isOpen
      · exact sound.upgrading
      · intro id pairing known
        obtain ⟨entry, entered, rest⟩ := sound.pairing known
        exact ⟨entry, (other (earlier entered)).trans entered, rest⟩

/-- A state that has just been made, without its timers. -/
def newState (id : Nat) (offer : ProtocolOffer) (claims : Claims) :
    PeerState where
  grant := offer.grant
  protocol := offer.protocol
  claims := claims
  role := claims.role
  entry := id
  peer := none
  peerTimer := false
  idleTimer := false

theorem occupySlot_core (relay : Relay) (id : Nat) (entry : Entry)
    (socket : Nat) (offer : ProtocolOffer) (claims : Claims) :
    (relay.occupySlot id entry socket offer claims).core =
      Function.update relay.core socket (some (newState id offer claims)) := by
  funext this
  by_cases same : this = socket
  · subst same
    rw [core, occupySlot, Function.update_self]
    simp only [Function.update_self]
    rfl
  · rw [core, occupySlot, Function.update_of_ne same]
    simp only [Function.update_of_ne same]
    rfl

theorem Sound.occupySlot {id socket : Nat} {entry : Entry}
    (sound : Sound before) (found : before.entries id = some entry)
    (isOpen : entry.closed = false) (offer : ProtocolOffer) (claims : Claims)
    (vacant : entry.slot claims.role = none)
    (unstated : before.core socket = none)
    (connected : before.isConnected socket = true) :
    Sound (before.occupySlot id entry socket offer claims) := by
  have atId : (before.occupySlot id entry socket offer claims).entries id =
      some (entry.setSlot claims.role (some socket)) :=
    Function.update_self id _ before.entries
  have other : ∀ {id'}, id' ≠ id →
      (before.occupySlot id entry socket offer claims).entries id' =
        before.entries id' :=
    fun different => Function.update_of_ne different _ _
  have inactive : entry.active = false := by
    cases active : entry.active with
    | false => rfl
    | true =>
        obtain ⟨held, _, _, inSlot, _⟩ :=
          sound.full found active isOpen claims.role
        rw [vacant] at inSlot
        cases inSlot
  have isKnown : (before.readyStates socket).isSome := by
    unfold isConnected at connected
    cases known : before.readyStates socket with
    | none =>
        rw [known] at connected
        cases connected
    | some _ => rfl
  have earlier : ∀ {this state}, before.core this = some state →
      this ≠ socket := by
    rintro this state known rfl
    rw [unstated] at known
    cases known
  have core : ∀ {this}, this ≠ socket →
      (before.occupySlot id entry socket offer claims).core this =
        before.core this := by
    intro this different
    rw [occupySlot_core, Function.update_of_ne different]
  have atSocket : (before.occupySlot id entry socket offer claims).core socket =
      some (newState id offer claims) := by
    rw [occupySlot_core, Function.update_self]
  have unpaired : before.pairings id = none := by
    cases known : before.pairings id with
    | none => rfl
    | some pairing =>
        obtain ⟨held, entered, _, _, slots⟩ := sound.pairing known
        rw [found] at entered
        cases entered
        obtain ⟨inClient, inWorker⟩ := slots isOpen
        have filled : ∀ role, entry.slot role ≠ none := by
          intro role
          cases role with
          | client =>
              rw [show entry.slot .client = some pairing.client from inClient]
              exact Option.some_ne_none _
          | worker =>
              rw [show entry.slot .worker = some pairing.worker from inWorker]
              exact Option.some_ne_none _
        exact absurd vacant (filled claims.role)
  constructor
  · intro key id' member
    obtain ⟨first, known, named, stillOpen⟩ := sound.listed member
    by_cases same : id' = id
    · subst same
      rw [found] at known
      cases known
      exact ⟨_, atId, (Entry.setSlot_key _ _ _).trans named,
        (Entry.setSlot_closed _ _ _).trans isOpen⟩
    · exact ⟨first, (other same).trans known, named, stillOpen⟩
  · exact sound.once
  · intro id' last known stillOpen
    by_cases same : id' = id
    · subst same
      rw [atId] at known
      cases known
      rw [Entry.setSlot_key]
      exact sound.kept found isOpen
    · rw [other same] at known
      exact sound.kept known stillOpen
  · intro id' last known
    by_cases same : id' = id
    · rw [same]
      exact sound.made found
    · rw [other same] at known
      exact sound.made known
  · intro this state known
    by_cases same : this = socket
    · subst same
      rw [atSocket] at known
      cases known
      refine ⟨isKnown, _, atId, ?_, ?_⟩
      · intro _
        exact ⟨Entry.slot_setSlot_same _ _ _, connected⟩
      · intro closed
        rw [Entry.setSlot_closed, isOpen] at closed
        cases closed
    · rw [core same] at known
      obtain ⟨isKnown, held, entered, whenOpen, whenClosed⟩ :=
        sound.entered known
      refine ⟨isKnown, ?_⟩
      by_cases here : state.entry = id
      · rw [here] at entered ⊢
        rw [found] at entered
        cases entered
        have slot := whenOpen isOpen
        have apart : state.role ≠ claims.role := by
          intro sameRole
          rw [sameRole, vacant] at slot
          cases slot.1
        refine ⟨_, atId, ?_, ?_⟩
        · intro _
          rw [Entry.slot_setSlot_other _ apart]
          exact slot
        · intro closed
          rw [Entry.setSlot_closed, isOpen] at closed
          cases closed
      · exact ⟨held, (other here).trans entered, whenOpen, whenClosed⟩
  · intro id' last role this known held
    by_cases same : id' = id
    · subst same
      rw [atId] at known
      cases known
      by_cases sameRole : role = claims.role
      · subst sameRole
        rw [Entry.slot_setSlot_same] at held
        cases held
        exact ⟨_, atSocket, rfl, rfl⟩
      · rw [Entry.slot_setSlot_other _ sameRole] at held
        obtain ⟨state, inCore, rest⟩ := sound.slots found held
        exact ⟨state, (core (earlier inCore)).trans inCore, rest⟩
    · rw [other same] at known
      obtain ⟨state, inCore, rest⟩ := sound.slots known held
      exact ⟨state, (core (earlier inCore)).trans inCore, rest⟩
  · intro this state peer known hasPeer
    by_cases same : this = socket
    · subst same
      rw [atSocket] at known
      cases known
      cases hasPeer
    · rw [core same] at known
      obtain ⟨⟨peerState, inCore, rest⟩, held, entered, active⟩ :=
        sound.linked known hasPeer
      refine ⟨⟨peerState, (core (earlier inCore)).trans inCore, rest⟩, held, ?_,
        active⟩
      rw [other, entered]
      intro here
      rw [here, found] at entered
      cases entered
      rw [inactive] at active
      cases active
  · intro id' last known active stillOpen role
    by_cases same : id' = id
    · subst same
      rw [atId] at known
      cases known
      rw [Entry.setSlot_active, inactive] at active
      cases active
    · rw [other same] at known
      obtain ⟨this, state, peer, held, inCore, rest⟩ :=
        sound.full known active stillOpen role
      exact ⟨this, state, peer, held, (core (earlier inCore)).trans inCore, rest⟩
  · exact sound.upgrading
  · intro id' pairing known
    have earlier : before.pairings id' = some pairing := known
    have apart : id' ≠ id := by
      rintro rfl
      rw [unpaired] at earlier
      cases earlier
    rw [other apart]
    exact sound.pairing earlier

/-- A slot of an open entry holds a socket that is not closed. -/
theorem Sound.occupied {id existing : Nat} {entry : Entry} {role : Role}
    (sound : Sound before) (found : before.entries id = some entry)
    (isOpen : entry.closed = false) (held : entry.slot role = some existing) :
    before.readyStates existing ≠ some .CLOSED := by
  obtain ⟨state, known, isEntry, _⟩ := sound.slots found held
  obtain ⟨_, other, entered, whenOpen, _⟩ := sound.entered known
  rw [isEntry, found] at entered
  cases entered
  intro closed
  have connected := (whenOpen isOpen).2
  rw [isConnected, closed] at connected
  cases connected

theorem entryFor_frame (relay : Relay) (socket : Nat) (claims : Claims) :
    (relay.entryFor socket claims).1.readyStates = relay.readyStates ∧
      (relay.entryFor socket claims).1.core = relay.core ∧
      (relay.entryFor socket claims).1.log = relay.log ∧
      (relay.entryFor socket claims).1.pairings = relay.pairings ∧
      (relay.entryFor socket claims).1.revalidation = relay.revalidation := by
  unfold entryFor
  cases relay.pairs.lookup (pairingKey claims) with
  | none => exact ⟨rfl, rfl, rfl, rfl, rfl⟩
  | some _ => exact ⟨rfl, rfl, rfl, rfl, rfl⟩

theorem Sound.acceptConnection {socket : Nat} (sound : Sound before)
    (connected : before.isConnected socket = true)
    (isKnown : (before.readyStates socket).isSome)
    (unmade : before.entries socket = none)
    (unstated : before.core socket = none) (offer : ProtocolOffer)
    (authorization : Authorization) :
    Sound (before.acceptConnection socket offer authorization) := by
  obtain ⟨sameReady, sameCore, _⟩ :=
    before.entryFor_frame socket authorization.claims
  obtain ⟨made, entry, found, isOpen, _⟩ :=
    sound.entryFor isKnown unmade authorization.claims
  unfold Relay.acceptConnection
  simp only [found]
  split
  · rename_i existing held
    rw [if_pos (made.occupied found isOpen held)]
    exact made.shuts (closeSocket_shuts _ _ _ _)
  · rename_i vacant
    apply Sound.tryPair
    apply made.occupySlot found isOpen offer authorization.claims vacant
    · rw [sameCore]
      exact unstated
    · rw [isConnected, sameReady]
      exact connected

theorem Sound.completeUpgrade {socket : Nat} {offer : ProtocolOffer}
    (sound : Sound before) (known : before.upgrades socket = some offer)
    (authorization : Option Authorization) (destroyed : Bool) :
    Sound (before.completeUpgrade socket offer authorization destroyed) := by
  have fresh := sound.upgrading known
  have ended : ∀ {this offer},
      Function.update before.upgrades socket none this = some offer →
        before.readyStates this = none := by
    intro this offer known
    by_cases same : this = socket
    · subst same
      rw [Function.update_self] at known
      cases known
    · rw [Function.update_of_ne same] at known
      exact sound.upgrading known
  unfold Relay.completeUpgrade
  cases authorization with
  | none => exact sound.upgrades ended rfl rfl rfl rfl rfl
  | some authorization =>
      simp only
      split_ifs
      · exact sound.upgrades ended rfl rfl rfl rfl rfl
      · have opened := sound.opened fresh
        have isOpen : (before.opened socket).readyStates socket =
            some .OPEN :=
          Function.update_self socket _ before.readyStates
        have connected : (before.opened socket).isConnected socket = true := by
          rw [isConnected, isOpen]
          rfl
        have isKnown : ((before.opened socket).readyStates socket).isSome := by
          rw [isOpen]
          rfl
        exact opened.acceptConnection connected isKnown (sound.unmade fresh)
          (sound.unstated fresh) offer authorization

theorem Sound.handleUpgrade {socket : Nat} (sound : Sound before)
    (fresh : before.readyStates socket = none) (request : UpgradeRequest) :
    Sound (before.handleUpgrade socket request) := by
  unfold Relay.handleUpgrade
  split_ifs
  · exact sound.fades rfl rfl rfl rfl rfl (fades_of_eq rfl)
  · split
    · exact sound.fades rfl rfl rfl rfl rfl (fades_of_eq rfl)
    · rename_i offer _
      refine sound.upgrades ?_ rfl rfl rfl rfl rfl
      intro this other known
      by_cases same : this = socket
      · rw [same]
        exact fresh
      · simp only [Function.update_of_ne same] at known
        exact sound.upgrading known

/-! ### Every event -/

theorem Sound.handleMessage (sound : Sound before) (socket : Nat)
    (frame : Frame) (bufferedAmount : Nat) :
    Sound (before.handleMessage socket frame bufferedAmount) := by
  unfold Relay.handleMessage
  cases before.states socket with
  | none => exact sound
  | some state =>
      have forwarded : ∀ entry peer, Sound ((before.resetIdleTimers
          entry).emit (.forwarded socket peer frame)) := by
        intro entry peer
        have reset := sound.alike (resetIdleTimers_alike before entry)
        exact reset.fades rfl rfl rfl rfl rfl (fades_of_eq rfl)
      simp only
      split
      · split_ifs <;>
          first | exact sound.closeEntry _ _ _ | exact forwarded _ _
      · exact sound.closeEntry _ _ _

theorem Sound.beginClosing (sound : Sound before) (socket : Nat) :
    Sound (before.beginClosing socket) := by
  have frame : (before.beginClosing socket).pairs = before.pairs ∧
      (before.beginClosing socket).entries = before.entries ∧
      (before.beginClosing socket).core = before.core ∧
      (before.beginClosing socket).upgrades = before.upgrades ∧
      (before.beginClosing socket).pairings = before.pairings := by
    unfold Relay.beginClosing
    split
    · exact ⟨rfl, rfl, rfl, rfl, rfl⟩
    · exact ⟨rfl, rfl, rfl, rfl, rfl⟩
  obtain ⟨pairs, entries, core, upgrades, pairings⟩ := frame
  exact sound.fades pairs entries core upgrades pairings
    (beginClosing_fades before socket)

theorem Sound.peerTimeout (sound : Sound before) (socket : Nat)
    (state : PeerState) : Sound (before.peerTimeout socket state) := by
  have cleared := sound.alike (clearPeerTimer_alike before socket)
  unfold Relay.peerTimeout
  simp only
  split
  · exact cleared
  · split_ifs
    · exact cleared
    · exact cleared.closeEntry _ _ _

theorem Sound.idleTimeout (sound : Sound before) (socket : Nat)
    (state : PeerState) : Sound (before.idleTimeout socket state) := by
  unfold Relay.idleTimeout
  apply Sound.closeEntry
  apply sound.alike
  apply modifyState_alike
  intro other
  rfl

/-- Nothing but the revalidation, the flags and the log has changed. -/
structure SamePairs (before after : Relay) : Prop where
  pairs : after.pairs = before.pairs
  entries : after.entries = before.entries
  states : after.states = before.states
  readyStates : after.readyStates = before.readyStates
  upgrades : after.upgrades = before.upgrades
  pairings : after.pairings = before.pairings

theorem Sound.samePairs (sound : Sound before) (same : SamePairs before after) :
    Sound after := by
  have core : after.core = before.core := by
    funext socket
    rw [Relay.core, Relay.core, same.states]
  exact sound.fades same.pairs same.entries core same.upgrades same.pairings
    (fades_of_eq same.readyStates)

theorem nextEntry_samePairs (relay : Relay) (rest : List Nat) :
    SamePairs relay (relay.nextEntry rest) := by
  unfold nextEntry
  split
  · exact ⟨rfl, rfl, rfl, rfl, rfl, rfl⟩
  · split
    · exact ⟨rfl, rfl, rfl, rfl, rfl, rfl⟩
    · exact ⟨rfl, rfl, rfl, rfl, rfl, rfl⟩

theorem scheduleRevalidation_samePairs (relay : Relay) :
    SamePairs relay relay.scheduleRevalidation := by
  unfold scheduleRevalidation
  split_ifs
  · exact ⟨rfl, rfl, rfl, rfl, rfl, rfl⟩
  · exact ⟨rfl, rfl, rfl, rfl, rfl, rfl⟩
  · exact relay.nextEntry_samePairs _

theorem settleRevalidation_samePairs (relay : Relay) :
    SamePairs relay relay.settleRevalidation := by
  unfold settleRevalidation
  simp only
  split_ifs
  · have same := scheduleRevalidation_samePairs { relay with
      revalidation := none, revalidationPending := false }
    exact ⟨same.pairs, same.entries, same.states, same.readyStates,
      same.upgrades, same.pairings⟩
  · exact ⟨rfl, rfl, rfl, rfl, rfl, rfl⟩

theorem Sound.resumeRevalidation (sound : Sound before) (id : Nat)
    (rest : List Nat) (client worker : Option Authorization) :
    Sound (before.resumeRevalidation id rest client worker) := by
  unfold Relay.resumeRevalidation
  split
  · exact sound
  · split_ifs
    · exact (sound.closeEntry _ _ _).samePairs (nextEntry_samePairs _ _)
    · exact sound.samePairs (nextEntry_samePairs _ _)

theorem Sound.shutDown (sound : Sound before) : Sound before.shutDown := by
  unfold Relay.shutDown
  induction before.pairs generalizing before with
  | nil => exact sound
  | cons pair rest induction => exact induction (sound.closeEntry _ _ _)

theorem Sound.terminate (sound : Sound before) (empty : before.pairs = []) :
    Sound before.terminate := by
  refine sound.fades empty.symm rfl rfl rfl rfl ?_
  intro socket
  unfold Relay.terminate
  simp only
  split_ifs with isOpen
  · exact .inr ⟨isOpen, rfl⟩
  · exact .inl rfl

theorem isKnown_of_connected {socket : Nat}
    (connected : before.isConnected socket = true) :
    (before.readyStates socket).isSome := by
  unfold isConnected at connected
  cases known : before.readyStates socket with
  | none =>
      rw [known] at connected
      cases connected
  | some _ => rfl

/-- Every event leaves a relay that fits together. -/
theorem Sound.step {event : Event} (sound : Sound before)
    (taken : before.step event = some after) : Sound after := by
  cases event with
  | upgrade socket request =>
      rw [Relay.step, Option.ite_none_right_eq_some] at taken
      obtain ⟨fresh, taken⟩ := taken
      cases taken
      simp only [isFresh, Bool.and_eq_true, Option.isNone_iff_eq_none] at fresh
      exact sound.handleUpgrade fresh.2 request
  | upgraded socket client worker destroyed =>
      rw [Relay.step, Option.map_eq_some_iff] at taken
      obtain ⟨offer, known, rfl⟩ := taken
      exact sound.completeUpgrade known _ _
  | granted id role reply =>
      rw [Relay.step] at taken
      split at taken
      · rename_i client worker first second known
        obtain ⟨answers, _, rfl⟩ := Option.map_eq_some_iff.mp taken
        exact sound.setPairing known (.authorizing answers.1 answers.2)
      · cases taken
  | authorized id =>
      rw [Relay.step, stepPairing] at taken
      split at taken
      · rename_i entry pairing found known
        split at taken
        · split at taken
          · cases taken
          · cases taken
            exact sound.refusePairing id
          · cases taken
            exact sound.resumePairing known _ _
        · cases taken
      · cases taken
  | activated id accepted =>
      rw [Relay.step] at taken
      split at taken
      · rename_i client worker first second known
        cases taken
        exact sound.setPairing known (.activating first second (some accepted))
      · cases taken
  | proceeded id =>
      rw [Relay.step, stepActivation] at taken
      split at taken
      · rename_i known
        split_ifs at taken
        · cases taken
          exact sound.activate known _ _
        · cases taken
          exact sound.refusePairing id
      · cases taken
  | message socket frame bufferedAmount =>
      rw [Relay.step, Option.ite_none_right_eq_some] at taken
      obtain ⟨_, taken⟩ := taken
      cases taken
      exact sound.handleMessage socket frame bufferedAmount
  | alive socket =>
      rw [Relay.step, Option.ite_none_right_eq_some] at taken
      obtain ⟨_, taken⟩ := taken
      cases taken
      exact sound.alike (resetIdleTimer_alike before socket)
  | sendFailed socket readiness =>
      rw [Relay.step, Option.map_eq_some_iff] at taken
      obtain ⟨state, _, rfl⟩ := taken
      exact sound.closeEntry _ _ _
  | closing socket =>
      rw [Relay.step, Option.ite_none_right_eq_some] at taken
      obtain ⟨_, taken⟩ := taken
      cases taken
      exact sound.beginClosing socket
  | errored socket =>
      rw [Relay.step, Option.ite_none_right_eq_some] at taken
      obtain ⟨_, taken⟩ := taken
      obtain ⟨state, _, rfl⟩ := Option.map_eq_some_iff.mp taken
      exact (sound.beginClosing socket).closeEntry _ _ _
  | close socket =>
      rw [Relay.step, Option.ite_none_right_eq_some] at taken
      obtain ⟨connected, taken⟩ := taken
      cases taken
      exact sound.handleSocketClose (isKnown_of_connected connected)
  | peerTimeout socket =>
      rw [Relay.step, Option.bind_eq_some_iff] at taken
      obtain ⟨state, _, taken⟩ := taken
      rw [Option.ite_none_right_eq_some] at taken
      obtain ⟨_, taken⟩ := taken
      cases taken
      exact sound.peerTimeout socket state
  | idleTimeout socket =>
      rw [Relay.step, Option.bind_eq_some_iff] at taken
      obtain ⟨state, _, taken⟩ := taken
      rw [Option.ite_none_right_eq_some] at taken
      obtain ⟨_, taken⟩ := taken
      cases taken
      exact sound.idleTimeout socket state
  | notified =>
      cases taken
      exact sound.samePairs (scheduleRevalidation_samePairs before)
  | looked role reply =>
      rw [Relay.step] at taken
      split at taken
      · obtain ⟨answers, _, rfl⟩ := Option.map_eq_some_iff.mp taken
        exact sound.samePairs ⟨rfl, rfl, rfl, rfl, rfl, rfl⟩
      · cases taken
  | revalidated =>
      rw [Relay.step, stepRevalidation] at taken
      split at taken
      · split at taken
        · cases taken
        · cases taken
          exact sound.samePairs ⟨rfl, rfl, rfl, rfl, rfl, rfl⟩
        · cases taken
          exact sound.resumeRevalidation _ _ _ _
      · cases taken
  | settled =>
      rw [Relay.step] at taken
      split at taken
      · cases taken
        exact sound.samePairs (settleRevalidation_samePairs before)
      · cases taken
  | stop =>
      rw [Relay.step, Option.ite_none_left_eq_some] at taken
      obtain ⟨_, taken⟩ := taken
      cases taken
      exact sound.samePairs ⟨rfl, rfl, rfl, rfl, rfl, rfl⟩
  | shutDown =>
      rw [Relay.step, Option.ite_none_right_eq_some] at taken
      obtain ⟨_, taken⟩ := taken
      cases taken
      exact sound.shutDown
  | terminate =>
      rw [Relay.step, Option.ite_none_right_eq_some] at taken
      obtain ⟨allowed, taken⟩ := taken
      cases taken
      rw [Bool.and_eq_true, List.isEmpty_iff] at allowed
      exact sound.terminate allowed.2

end Preserved

theorem Runs.sound {allowed : Relay → Event → Prop} {events : List Event}
    {relay : Relay} (run : machine.Runs allowed events relay) : Sound relay :=
  run.invariant (fun _ relay => Sound relay) sound_initial
    (fun _ sound _ taken => sound.step taken)

end Relay

end GpuLink
