import GpuLink.DataPlane.RelayService
import GpuLink.DataPlane.RelaySafety

/-!
# What a pass covers

A pass looks at the entries that were active when it began, one after the
other.  As long as none of its calls is rejected and none of the entries ahead
loses a socket, it closes those whose allocations had been lost.
-/

namespace GpuLink

open DataPlane Service

namespace Relay

theorem authorization?_some {store : Store} {claims : Claims} {role : Role}
    {now : Int} {authorization : Authorization}
    (answered : authorization? store claims role now = some authorization) :
    authorization.claims = claims ∧ Service.Allocated store claims now := by
  have allocated : Service.Allocated store claims now := by
    have isSome : (authorization? store claims role now).isSome := by
      rw [answered]
      rfl
    exact (authorization?_isSome_iff.mp isSome).2
  refine ⟨?_, allocated⟩
  unfold authorization? at answered
  split_ifs at answered
  split at answered
  · cases answered
  · split_ifs at answered
    cases answered
    rfl

theorem holds_of_allocated {store : Store} {authorization : Authorization}
    {entry : Entry} {now : Int}
    (same : sameAllocation (some authorization) entry = true)
    (allocated : Service.Allocated store authorization.claims now) :
    Holds store entry now := by
  simp only [sameAllocation, Bool.and_eq_true, decide_eq_true_eq] at same
  obtain ⟨⟨session, worker⟩, lease⟩ := same
  obtain ⟨row, found, occupying, sameWorker, sameLease, current⟩ := allocated
  refine ⟨row, ?_, occupying, ?_, ?_, current⟩
  · rw [← session]
    exact found
  · rw [← worker]
    exact sameWorker
  · rw [← lease]
    exact sameLease

namespace World

/-- The authorization was read at these moments. -/
def FoundIn (moments : List Moment) (authorization : Authorization) : Prop :=
  ∃ asked ∈ moments, ∃ stored ∈ moments,
    Service.Allocated stored.store authorization.claims asked.now

theorem AnswersFrom.found {moments : List Moment} {claims : Claims}
    {role : Role} {authorization : Authorization}
    (answers : AnswersFrom moments claims role
      (.answered (some authorization))) : FoundIn moments authorization := by
  obtain ⟨asked, askedIn, stored, storedIn, same⟩ := answers
  obtain ⟨isClaims, allocated⟩ :=
    authorization?_some (Answer.answered.inj same).symm
  rw [← isClaims] at allocated
  exact ⟨asked, askedIn, stored, storedIn, allocated⟩

theorem moments_advance (world : World) (later : Moment) {since : Nat}
    {moment : Moment} (member : moment ∈ world.moments since) :
    moment ∈ (world.advance later).moments since := by
  rw [World.moments, advance]
  simp only
  rw [List.drop_append]
  exact List.mem_append_left _ member

/-- What a pass has come to for an entry of it. -/
def Checked (world : World) (id : Nat) : Prop :=
  ∃ entry, world.relay.entries id = some entry ∧
    (entry.closed = true ∨ id ∈ world.pass.rejected ∨
      world.relay.revalidationPending = true ∨
        ¬world.Lost world.pass.since entry)

/-- Both slots of the entry are taken. -/
def Slotted (relay : Relay) (id : Nat) : Prop :=
  ∃ entry, relay.entries id = some entry ∧
    ∀ role, ∃ socket, entry.slot role = some socket

/-- The pass leaves no entry out. -/
structure Covering (world : World) : Prop where
  known : ∀ id ∈ world.pass.entries, (world.relay.entries id).isSome
  ahead : ∀ {pass}, world.relay.revalidation = some pass → ∀ id ∈ pass.rest,
    Slotted world.relay id
  finished : ∀ {rest}, world.relay.revalidation = some ⟨none, rest⟩ → rest = []
  covered : ∀ {pass}, world.relay.revalidation = some pass →
    ∀ id ∈ world.pass.entries, id ∈ pass.ids ∨ world.Checked id
  found : ∀ {id first second rest authorization},
    world.relay.revalidation = some ⟨some (id, first, second), rest⟩ →
      first = some (.answered (some authorization)) ∨
          second = some (.answered (some authorization)) →
        FoundIn (world.moments world.pass.since) authorization
  refused : ∀ {id first second rest},
    world.relay.revalidation = some ⟨some (id, first, second), rest⟩ →
      first = some .rejected ∨ second = some .rejected →
        id ∈ world.pass.rejected ∧ rest = []

/-- No call of the pass is rejected, and no socket of an open entry closes,
while the entry is still ahead. -/
structure Undisturbed (world : World) (event : World.Event) : Prop where
  truthful : world.Truthful event
  answered : ∀ {role id first second rest},
    event = .relay (.looked role .rejected) →
      world.relay.revalidation = some ⟨some (id, first, second), rest⟩ →
        rest = []
  present : ∀ {socket state pass entry}, event = .relay (.close socket) →
    world.relay.states socket = some state →
      world.relay.revalidation = some pass → state.entry ∈ pass.rest →
        world.relay.entries state.entry = some entry → entry.closed = true

end World

section Slots

variable {before after : Relay}

/-- A socket that closes changes no entry that is closed already. -/
theorem Sound.close_keeps {socket id : Nat} {entry : Entry}
    (sound : Sound before) (taken : before.step (.close socket) = some after)
    (found : before.entries id = some entry) (closed : entry.closed = true) :
    after.entries id = some entry := by
  rw [Relay.step, Option.ite_none_right_eq_some] at taken
  obtain ⟨connected, taken⟩ := taken
  cases taken
  rcases handleSocketClose_cases sound (isKnown_of_connected connected) with
    disconnects | ⟨state, first, _, ends⟩
  · rw [disconnects.entries]
    exact found
  · have other : id ≠ state.entry := by
      rintro rfl
      have was := ends.found
      rw [found] at was
      cases was
      rw [ends.isOpen] at closed
      cases closed
    rw [ends.entries, Function.update_of_ne other]
    exact found

/-- A slot is given up only by the socket of an open entry that closes. -/
theorem Sound.step_slots {event : Event} {id socket : Nat}
    {entry last : Entry} {role : Role} (sound : Sound before)
    (taken : before.step event = some after)
    (found : before.entries id = some entry)
    (now : after.entries id = some last)
    (held : entry.slot role = some socket) :
    last.slot role = some socket ∨
      (event = .close socket ∧ entry.closed = false ∧
        ∃ state, before.states socket = some state ∧ state.entry = id) := by
  obtain ⟨_, same, grows, _⟩ := (sound.step_changes taken).entries found
  rw [now] at same
  cases same
  rcases grows.slots held with still | rfl
  · exact .inl still
  · cases closed : entry.closed with
    | true =>
        left
        rw [sound.close_keeps taken found closed] at now
        cases now
        exact held
    | false =>
        obtain ⟨state, known, isEntry, _⟩ := sound.slots found held
        rw [core, Option.map_eq_some_iff] at known
        obtain ⟨timed, stated, rfl⟩ := known
        exact .inr ⟨rfl, rfl, timed, stated, isEntry⟩

end Slots

namespace World

/-! ## Entries that are ahead -/

/-- A pass that is about to look at these entries. -/
def passOf : List Nat → Revalidation
  | [] => ⟨none, []⟩
  | id :: rest => ⟨some (id, none, none), rest⟩

theorem passOf_ids (rest : List Nat) : (passOf rest).ids = rest := by
  cases rest with
  | nil => rfl
  | cons id rest => rfl

theorem nextEntry_passOf {relay : Relay} {rest : List Nat}
    (slotted : ∀ id ∈ rest, Slotted relay id) :
    (relay.nextEntry rest).revalidation = some (passOf rest) := by
  cases rest with
  | nil => rfl
  | cons id rest =>
      obtain ⟨entry, found, slots⟩ := slotted id List.mem_cons_self
      obtain ⟨client, inClient⟩ := slots .client
      obtain ⟨worker, inWorker⟩ := slots .worker
      rw [nextEntry, found]
      simp only [Option.bind_some]
      rw [show entry.client = some client from inClient,
        show entry.worker = some worker from inWorker]
      rfl

/-- The pass goes on to these entries; those before them have been checked. -/
theorem covering_next {world : World} (rest : List Nat)
    (now : world.relay.revalidation = some (passOf rest))
    (slotted : ∀ id ∈ rest, Slotted world.relay id)
    (known : ∀ id ∈ world.pass.entries, (world.relay.entries id).isSome)
    (covered : ∀ id ∈ world.pass.entries, id ∈ rest ∨ world.Checked id) :
    Covering world where
  known := known
  ahead {pass} is id member := by
    rw [now] at is
    cases is
    apply slotted
    cases rest with
    | nil => exact member
    | cons first rest => exact List.mem_cons_of_mem _ member
  finished {rest} is := by
    rw [now] at is
    rename_i entries
    cases entries with
    | nil =>
        cases is
        rfl
    | cons first rest => cases is
  covered {pass} is := by
    rw [now] at is
    cases is
    rw [passOf_ids]
    exact covered
  found is answered := by
    rw [now] at is
    cases rest with
    | nil => cases is
    | cons first rest =>
        cases is
        rcases answered with none | none <;> cases none
  refused is answered := by
    rw [now] at is
    cases rest with
    | nil => cases is
    | cons first rest =>
        cases is
        rcases answered with none | none <;> cases none

section Step

variable {world : World} {event : Relay.Event} {after : Relay}

theorem track_kept (continues : begins world.relay event = false) :
    (world.track event).since = world.pass.since ∧
      (world.track event).entries = world.pass.entries ∧
      ∀ id ∈ world.pass.rejected, id ∈ (world.track event).rejected := by
  unfold track
  rw [if_neg (by rw [continues]; exact Bool.false_ne_true)]
  split
  · exact ⟨rfl, rfl, fun id member => List.mem_cons_of_mem _ member⟩
  · exact ⟨rfl, rfl, fun id member => member⟩

theorem pending_kept (taken : world.relay.step event = some after)
    (continues : begins world.relay event = false)
    (pending : world.relay.revalidationPending = true) :
    after.revalidationPending = true := by
  have same (flags : after.flags = world.relay.flags) :
      after.revalidationPending = true := by
    rw [Relay.flags, Relay.flags, Prod.mk.injEq] at flags
    rw [flags.1]
    exact pending
  cases revalidation : event.isRevalidation with
  | false =>
      rw [(step_flags taken revalidation).1]
      exact pending
  | true =>
      cases event with
      | notified =>
          cases taken
          unfold scheduleRevalidation
          split_ifs with stopped running
          · exact pending
          · rfl
          · simp [begins, running, stopped] at continues
      | looked role reply =>
          rw [Relay.step] at taken
          split at taken
          · obtain ⟨_, _, rfl⟩ := Option.map_eq_some_iff.mp taken
            exact pending
          · cases taken
      | revalidated =>
          rw [Relay.step, stepRevalidation] at taken
          split at taken
          · split at taken
            · cases taken
            · cases taken
              exact pending
            · cases taken
              exact same (resumeRevalidation_flags _ _ _ _ _)
          · cases taken
      | settled =>
          rw [Relay.step] at taken
          split at taken
          · cases taken
            unfold settleRevalidation
            simp only
            rw [if_neg]
            · exact pending
            · rintro ⟨_, running⟩
              simp [begins, pending, running] at continues
          · cases taken
      | _ => cases revalidation

/-- What has been checked stays checked, as long as no pass begins. -/
theorem Checked.next {id : Nat} (checked : world.Checked id)
    (sound : Sound world.relay) (taken : world.relay.step event = some after)
    (continues : begins world.relay event = false) :
    (world.next event after).Checked id := by
  obtain ⟨entry, found, outcome⟩ := checked
  obtain ⟨last, now, grows, _⟩ := (sound.step_changes taken).entries found
  obtain ⟨since, _, rejected⟩ := track_kept continues
  refine ⟨last, now, ?_⟩
  rcases outcome with closed | refused | pending | kept
  · exact .inl (grows.closed closed)
  · exact .inr (.inl (rejected id refused))
  · exact .inr (.inr (.inl (pending_kept taken continues pending)))
  · refine .inr (.inr (.inr ?_))
    intro lost
    apply kept
    intro asked askedIn stored storedIn holds
    rw [show (world.next event after).pass.since = world.pass.since
      from since] at lost
    apply lost asked askedIn stored storedIn
    rw [Holds, grows.sessionId, grows.workerId, grows.leaseId]
    exact holds

theorem known_next (covering : Covering world) (sound : Sound world.relay)
    (taken : world.relay.step event = some after)
    (continues : begins world.relay event = false) :
    ∀ id ∈ (world.next event after).pass.entries,
      ((world.next event after).relay.entries id).isSome := by
  intro id member
  rw [show (world.next event after).pass.entries = world.pass.entries
    from (track_kept continues).2.1] at member
  obtain ⟨entry, found⟩ :=
    Option.isSome_iff_exists.mp (covering.known id member)
  obtain ⟨last, now, _⟩ := (sound.step_changes taken).entries found
  exact Option.isSome_iff_exists.mpr ⟨last, now⟩

/-- The entries ahead keep their sockets. -/
theorem Undisturbed.slotted (undisturbed : Undisturbed world (.relay event))
    (sound : Sound world.relay) (taken : world.relay.step event = some after)
    {pass : Revalidation} (now : world.relay.revalidation = some pass)
    {id : Nat} (member : id ∈ pass.rest) (slotted : Slotted world.relay id) :
    Slotted after id := by
  obtain ⟨entry, found, slots⟩ := slotted
  obtain ⟨last, known, _⟩ := (sound.step_changes taken).entries found
  refine ⟨last, known, ?_⟩
  intro role
  obtain ⟨socket, held⟩ := slots role
  rcases sound.step_slots taken found known held with
    still | ⟨rfl, isOpen, state, stated, rfl⟩
  · exact ⟨socket, still⟩
  · have closed := undisturbed.present rfl stated now member found
    rw [isOpen] at closed
    cases closed

/-- An event that leaves the pass as it is. -/
theorem Covering.kept (covering : Covering world) (sound : Sound world.relay)
    (undisturbed : Undisturbed world (.relay event))
    (taken : world.relay.step event = some after)
    (continues : begins world.relay event = false)
    (same : after.revalidation = world.relay.revalidation) :
    Covering (world.next event after) where
  known := known_next covering sound taken continues
  ahead now id member := by
    have was := same.symm.trans now
    exact undisturbed.slotted sound taken was member (covering.ahead was id member)
  finished now := covering.finished (same.symm.trans now)
  covered now id member := by
    rw [show (world.next event after).pass.entries = world.pass.entries
      from (track_kept continues).2.1] at member
    rcases covering.covered (same.symm.trans now) id member with ahead | checked
    · exact .inl ahead
    · exact .inr (checked.next sound taken continues)
  found now answered := by
    rw [show (world.next event after).pass.since = world.pass.since
      from (track_kept continues).1]
    exact covering.found (same.symm.trans now) answered
  refused now answered := by
    obtain ⟨rejected, last⟩ :=
      covering.refused (same.symm.trans now) answered
    exact ⟨(track_kept continues).2.2 _ rejected, last⟩

theorem slotted_of_entries {before after : Relay} {id : Nat}
    (same : after.entries = before.entries) (slotted : Slotted before id) :
    Slotted after id := by
  rw [Slotted, same]
  exact slotted

theorem closeEntry_slotted {relay : Relay} {id : Nat}
    (slotted : Slotted relay id) (other : Nat) (code : CloseCode)
    (reason : String) : Slotted (relay.closeEntry other code reason) id := by
  rcases closeEntry_cases relay other code reason with same |
    ⟨entry, found, _, closes⟩
  · rw [same]
    exact slotted
  · obtain ⟨first, known, slots⟩ := slotted
    by_cases here : id = other
    · subst here
      rw [found] at known
      cases known
      refine ⟨{ entry with closed := true }, ?_, ?_⟩
      · rw [closes.entries, Function.update_self]
      · intro role
        obtain ⟨socket, held⟩ := slots role
        refine ⟨socket, ?_⟩
        cases role <;> exact held
    · refine ⟨first, ?_, slots⟩
      rw [closes.entries, Function.update_of_ne here]
      exact known

/-- The entries of a pass that begins have both their sockets. -/
theorem active_slotted {relay : Relay} (sound : Sound relay) {id : Nat}
    (member : id ∈ relay.activeEntries) : Slotted relay id := by
  obtain ⟨entry, found, active, isOpen⟩ := activeEntries_active member
  refine ⟨entry, found, ?_⟩
  intro role
  obtain ⟨socket, _, _, held, _⟩ := sound.full found active isOpen role
  exact ⟨socket, held⟩

/-- A pass begins with all that is active. -/
theorem covering_begins (sound : Sound world.relay)
    (begins : begins world.relay event = true)
    (same : after.entries = world.relay.entries)
    (now : after.revalidation = some (passOf world.relay.activeEntries)) :
    Covering (world.next event after) := by
  have pass : (world.next event after).pass =
      ⟨world.past.length, world.relay.activeEntries, []⟩ := if_pos begins
  refine covering_next world.relay.activeEntries now ?_ ?_ ?_
  · intro id member
    exact slotted_of_entries same (active_slotted sound member)
  · intro id member
    rw [pass] at member
    obtain ⟨entry, found, _⟩ := activeEntries_active member
    rw [show (world.next event after).relay.entries = world.relay.entries
      from same, found]
    rfl
  · intro id member
    rw [pass] at member
    exact .inl member

/-- A call has come back. -/
theorem Covering.looked {role : Role} {reply : Answer}
    (covering : Covering world) (sound : Sound world.relay)
    (undisturbed : Undisturbed world (.relay (.looked role reply)))
    (taken : world.relay.step (.looked role reply) = some after) :
    Covering (world.next (.looked role reply) after) := by
  have continues : begins world.relay (.looked role reply) = false := rfl
  have later : ∀ {id}, world.Checked id →
      (world.next (.looked role reply) after).Checked id :=
    fun checked => checked.next sound taken continues
  have known := known_next covering sound taken continues
  obtain ⟨since, sameEntries, rejected⟩ := track_kept continues
  rw [Relay.step] at taken
  split at taken
  · rename_i id first second rest was
    obtain ⟨⟨next, other⟩, answered, rfl⟩ := Option.map_eq_some_iff.mp taken
    constructor
    · exact known
    · intro pass now this member
      cases now
      exact slotted_of_entries rfl (covering.ahead was this member)
    · intro rest now
      cases now
    · intro pass now this member
      cases now
      rw [show (world.next (.looked role reply) _).pass.entries =
        world.pass.entries from sameEntries] at member
      rcases covering.covered was this member with ahead | checked
      · exact .inl ahead
      · exact .inr (later checked)
    · intro id' first' second' rest' authorization now isAnswer
      cases now
      rw [show (world.next (.looked role reply) _).pass.since =
        world.pass.since from since]
      have fresh : reply = .answered (some authorization) →
          FoundIn (world.moments world.pass.since) authorization := by
        rintro rfl
        rcases undisturbed.truthful with rejected |
          ⟨_, _, _, _, _, _, _, _, _, _, answers⟩
        · cases rejected
        · exact answers.found
      rcases answer_cases answered with ⟨_, rfl, rfl⟩ | ⟨_, rfl, rfl⟩
      · rcases isAnswer with isFirst | isSecond
        · exact fresh (Option.some.inj isFirst)
        · exact covering.found was (.inr isSecond)
      · rcases isAnswer with isFirst | isSecond
        · exact covering.found was (.inl isFirst)
        · exact fresh (Option.some.inj isSecond)
    · intro id' first' second' rest' now isRejected
      cases now
      have fresh : reply = .rejected →
          id ∈ (world.track (.looked role reply)).rejected ∧ rest = [] := by
        rintro rfl
        refine ⟨?_, undisturbed.answered rfl was⟩
        unfold track
        rw [if_neg (by rw [continues]; exact Bool.false_ne_true)]
        simp only [was]
        exact List.mem_cons_self
      have earlier : first = some .rejected ∨ second = some .rejected →
          id ∈ (world.track (.looked role reply)).rejected ∧ rest = [] := by
        intro was'
        obtain ⟨listed, last⟩ := covering.refused was was'
        exact ⟨rejected id listed, last⟩
      rcases answer_cases answered with ⟨_, rfl, rfl⟩ | ⟨_, rfl, rfl⟩
      · rcases isRejected with isFirst | isSecond
        · exact fresh (Option.some.inj isFirst)
        · exact earlier (.inr isSecond)
      · rcases isRejected with isFirst | isSecond
        · exact earlier (.inl isFirst)
        · exact fresh (Option.some.inj isSecond)
  · cases taken

theorem promiseAll_rejected {first second : Option Answer}
    (both : promiseAll first second = .rejected) :
    first = some .rejected ∨ second = some .rejected := by
  unfold promiseAll at both
  split at both
  · exact .inl rfl
  · exact .inr rfl
  · cases both
  · cases both

/-- The entry under way is closed, or has kept its allocation. -/
theorem Covering.compared {id : Nat} {rest : List Nat}
    {client worker : Option Authorization}
    (covering : Covering world)
    (was : world.relay.revalidation = some
      ⟨some (id, some (.answered client), some (.answered worker)), rest⟩)
    {entry : Entry} (sameClient : sameAllocation client entry = true) :
    ¬world.Lost world.pass.since entry := by
  cases client with
  | none => cases sameClient
  | some authorization =>
      obtain ⟨asked, askedIn, stored, storedIn, allocated⟩ :=
        covering.found was (.inl rfl)
      intro lost
      exact lost asked askedIn stored storedIn
        (holds_of_allocated sameClient allocated)

/-- The calls for an entry have come back. -/
theorem Covering.revalidated (covering : Covering world)
    (sound : Sound world.relay) (watching : Watching world.relay)
    (taken : world.relay.step .revalidated = some after) :
    Covering (world.next .revalidated after) := by
  have continues : begins world.relay .revalidated = false := rfl
  have later : ∀ {id}, world.Checked id →
      (world.next .revalidated after).Checked id :=
    fun checked => checked.next sound taken continues
  have known := known_next covering sound taken continues
  have sameEntries : (world.next .revalidated after).pass.entries =
      world.pass.entries := (track_kept continues).2.1
  have isEntry : ∀ {id}, id ∈ world.pass.entries →
      ∃ entry, world.relay.entries id = some entry := by
    intro id member
    exact Option.isSome_iff_exists.mp (covering.known id member)
  rw [Relay.step, stepRevalidation] at taken
  split at taken
  · rename_i id first second rest was
    split at taken
    · cases taken
    · rename_i both
      cases taken
      obtain ⟨rejected, rfl⟩ := covering.refused was (promiseAll_rejected both)
      refine covering_next [] rfl (by simp) known ?_
      intro this member
      rw [sameEntries] at member
      right
      apply later
      rcases covering.covered was this member with ahead | checked
      · cases List.mem_singleton.mp ahead
        obtain ⟨entry, found⟩ := isEntry member
        exact ⟨entry, found, .inr (.inl rejected)⟩
      · exact checked
    · rename_i client worker both
      obtain ⟨rfl, rfl⟩ := promiseAll_fulfilled both
      cases taken
      -- The entry under way counts as checked once it is dealt with.
      have go_on : ∀ {middle : Relay},
          world.relay.resumeRevalidation id rest client worker =
            middle.nextEntry rest →
          (∀ this ∈ rest, Slotted middle this) →
          (id ∈ world.pass.entries → (world.next .revalidated
            (world.relay.resumeRevalidation id rest client worker)).Checked
              id) →
          Covering (world.next .revalidated
            (world.relay.resumeRevalidation id rest client worker)) := by
        intro middle same slotted checked
        refine covering_next rest ?_ ?_ known ?_
        · exact (congrArg Relay.revalidation same).trans
            (nextEntry_passOf slotted)
        · intro this member
          apply slotted_of_entries _ (slotted this member)
          exact (congrArg Relay.entries same).trans
            (nextEntry_samePairs middle rest).entries
        · intro this member
          rw [sameEntries] at member
          rcases covering.covered was this member with ahead | earlier
          · rcases List.mem_cons.mp ahead with rfl | behind
            · exact .inr (checked member)
            · exact .inl behind
          · exact .inr (later earlier)
      obtain ⟨entry, found, _⟩ := watching _ was id List.mem_cons_self
      by_cases different : ¬sameAllocation client entry ∨
          ¬sameAllocation worker entry
      · have closes : world.relay.resumeRevalidation id rest client worker =
            (world.relay.closeEntry id .LEASE_INVALIDATED
              "session lease invalidated").nextEntry rest := by
          rw [resumeRevalidation, found]
          exact if_pos different
        apply go_on closes
        · intro this member
          exact closeEntry_slotted (covering.ahead was this member) _ _ _
        · intro member
          obtain ⟨last, now, closed⟩ := closeEntry_isClosed found
            .LEASE_INVALIDATED "session lease invalidated"
          refine ⟨last, ?_, .inl closed⟩
          have same := congrFun ((congrArg Relay.entries closes).trans
            (nextEntry_samePairs _ rest).entries) id
          exact same.trans now
      · have keeps : world.relay.resumeRevalidation id rest client worker =
            world.relay.nextEntry rest := by
          rw [resumeRevalidation, found]
          exact if_neg different
        apply go_on keeps
        · exact covering.ahead was
        · intro member
          simp only [not_or, not_not] at different
          have kept := covering.compared was different.1
          exact later ⟨entry, found, .inr (.inr (.inr kept))⟩
  · cases taken

theorem Covering.relay (covering : Covering world) (sound : Sound world.relay)
    (watching : Watching world.relay)
    (undisturbed : Undisturbed world (.relay event))
    (taken : world.relay.step event = some after) :
    Covering (world.next event after) := by
  cases revalidation : event.isRevalidation with
  | false =>
      have continues : begins world.relay event = false := by
        cases event <;> first | rfl | cases revalidation
      exact covering.kept sound undisturbed taken continues
        (sound.step_revalidation taken revalidation)
  | true =>
      cases event with
      | looked role reply => exact covering.looked sound undisturbed taken
      | revalidated => exact covering.revalidated sound watching taken
      | notified =>
          cases starts : begins world.relay .notified with
          | true =>
              simp only [begins, Bool.and_eq_true, Option.isNone_iff_eq_none,
                Bool.not_eq_true'] at starts
              cases taken
              refine covering_begins sound (by simp [begins, starts])
                (scheduleRevalidation_samePairs _).entries ?_
              rw [scheduleRevalidation, if_neg (by simp [starts]),
                if_neg (by simp [starts])]
              exact nextEntry_passOf (fun id member =>
                active_slotted sound member)
          | false =>
              refine covering.kept sound undisturbed taken starts ?_
              cases taken
              unfold scheduleRevalidation
              split_ifs with stopped running
              · rfl
              · rfl
              · simp [begins, stopped, running] at starts
      | settled =>
          cases starts : begins world.relay .settled with
          | true =>
              have due := starts
              simp only [begins, Bool.and_eq_true, Bool.not_eq_true'] at due
              rw [Relay.step] at taken
              split at taken
              · cases taken
                refine covering_begins sound starts
                  (settleRevalidation_samePairs _).entries ?_
                rw [settleRevalidation]
                simp only
                rw [if_pos ⟨due.1, by simp [due.2]⟩, scheduleRevalidation,
                  if_neg (by simp [due.2]), if_neg (by simp)]
                exact nextEntry_passOf (fun id member =>
                  slotted_of_entries rfl (active_slotted sound member))
              · cases taken
          | false =>
              have known := known_next covering sound taken starts
              have finished : after.revalidation = none := by
                rw [Relay.step] at taken
                split at taken
                · cases taken
                  rw [settleRevalidation]
                  simp only
                  rw [if_neg]
                  rintro ⟨pending, running⟩
                  simp [begins, pending, running] at starts
                · cases taken
              constructor
              · exact known
              · intro pass now
                cases finished.symm.trans now
              · intro rest now
                cases finished.symm.trans now
              · intro pass now
                cases finished.symm.trans now
              · intro _ _ _ _ _ now
                cases finished.symm.trans now
              · intro _ _ _ _ now
                cases finished.symm.trans now
      | _ => cases revalidation

/-- Time passes, or a transaction commits. -/
theorem Covering.advance (covering : Covering world) (later : Moment) :
    Covering (world.advance later) where
  known := covering.known
  ahead := covering.ahead
  finished := covering.finished
  covered now id member := by
    rcases covering.covered now id member with ahead | checked
    · exact .inl ahead
    · right
      obtain ⟨entry, found, outcome⟩ := checked
      refine ⟨entry, found, ?_⟩
      rcases outcome with closed | rejected | pending | kept
      · exact .inl closed
      · exact .inr (.inl rejected)
      · exact .inr (.inr (.inl pending))
      · refine .inr (.inr (.inr ?_))
        intro lost
        apply kept
        intro asked askedIn stored storedIn
        exact lost asked (world.moments_advance later askedIn) stored
          (world.moments_advance later storedIn)
  found now answered := by
    obtain ⟨asked, askedIn, stored, storedIn, allocated⟩ :=
      covering.found now answered
    exact ⟨asked, world.moments_advance later askedIn, stored,
      world.moments_advance later storedIn, allocated⟩
  refused := covering.refused

end Step

theorem covering_initial (first : Moment) :
    Covering (Relay.world first).initial where
  known id member := by cases member
  ahead now := by cases now
  finished now := by cases now
  covered now := by cases now
  found now := by cases now
  refused now := by cases now

theorem step_sound {world after : World} {event : World.Event}
    (sound : Sound world.relay) (taken : world.step event = some after) :
    Sound after.relay := by
  cases event with
  | relay event =>
      obtain ⟨relay, moved, rfl⟩ := Option.map_eq_some_iff.mp taken
      exact sound.step moved
  | committed | ticked =>
      cases taken
      exact sound

theorem step_watching {world after : World} {event : World.Event}
    (watching : Watching world.relay) (sound : Sound world.relay)
    (taken : world.step event = some after) : Watching after.relay := by
  cases event with
  | relay event =>
      obtain ⟨relay, moved, rfl⟩ := Option.map_eq_some_iff.mp taken
      exact watching.step sound moved
  | committed | ticked =>
      cases taken
      exact watching

theorem Covering.step {world after : World} {event : World.Event}
    (covering : Covering world) (sound : Sound world.relay)
    (watching : Watching world.relay) (undisturbed : Undisturbed world event)
    (taken : world.step event = some after) : Covering after := by
  cases event with
  | relay event =>
      obtain ⟨relay, moved, rfl⟩ := Option.map_eq_some_iff.mp taken
      exact covering.relay sound watching undisturbed moved
  | committed store =>
      cases taken
      have later := covering.advance ⟨store, world.present.now⟩
      exact ⟨later.known, later.ahead, later.finished, later.covered, later.found,
        later.refused⟩
  | ticked now =>
      cases taken
      exact covering.advance ⟨world.present.store, now⟩

theorem Runs.covering {first : Moment} {events : List World.Event}
    {world : World}
    (run : (Relay.world first).Runs Undisturbed events world) :
    Covering world := by
  have all := run.invariant (fun _ world => Sound world.relay ∧
      Watching world.relay ∧ Covering world)
    ⟨sound_initial, (fun _ now => by cases now), covering_initial first⟩
    (fun _ facts undisturbed taken => ⟨step_sound facts.1 taken,
      step_watching facts.2.1 facts.1 taken,
      facts.2.2.step facts.1 facts.2.1 undisturbed taken⟩)
  exact all.2.2

/-- At the end of a pass, the entries that it began with are closed if their
allocations had been lost. -/
theorem pass_covers {first : Moment} {events : List World.Event}
    {before after : World} {id : Nat}
    (run : (Relay.world first).Runs Undisturbed events before)
    (ends : before.step (.relay .settled) = some after)
    (member : id ∈ before.pass.entries) :
    ∃ entry, before.relay.entries id = some entry ∧
      (before.Lost before.pass.since entry → entry.closed = true ∨
        id ∈ before.pass.rejected ∨
          before.relay.revalidationPending = true) := by
  have covering := Runs.covering run
  obtain ⟨relay, taken, _⟩ := Option.map_eq_some_iff.mp ends
  rw [Relay.step] at taken
  split at taken
  · rename_i rest now
    rcases covering.covered now id member with ahead | checked
    · cases covering.finished now
      cases ahead
    · obtain ⟨entry, found, outcome⟩ := checked
      refine ⟨entry, found, ?_⟩
      intro lost
      rcases outcome with closed | rejected | pending | kept
      · exact .inl closed
      · exact .inr (.inl rejected)
      · exact .inr (.inr pending)
      · exact absurd lost kept
  · cases taken

/-! ## Small runs -/

def otherId : BoundedString 200 := ⟨"other", by decide⟩

/-- Two sockets of an active session, linked. -/
def linkedRun (client worker : Nat) (id : BoundedString 200) :
    List World.Event :=
  (connectPair client worker .v1 id .active ++ grantPair client id .active ++
    [Relay.Event.authorized client]).map .relay

/-- The calls of a pass for two entries: the first session has lost its
allocation, the second has it. -/
def passCalls : List World.Event :=
  [.relay (.looked .client (.answered none)),
    .relay (.looked .worker (.answered none)), .relay .revalidated,
    .relay (.looked .client
      (.answered (some (sampleAuthorization otherId .active .client)))),
    .relay (.looked .worker
      (.answered (some (sampleAuthorization otherId .active .worker)))),
    .relay .revalidated]

/-- Two sessions are linked, and the first is over when the pass begins. -/
def lostRun : List World.Event :=
  linkedRun 0 1 sampleId ++ linkedRun 2 3 otherId ++
    [.committed (sampleStore [otherId]), .relay .notified]

/-- Two sessions, of which the second is over when the pass begins; a call for
the first is rejected. -/
def rejectedRun : List World.Event :=
  linkedRun 0 1 sampleId ++ linkedRun 2 3 otherId ++
    [.committed (sampleStore [sampleId]), .relay .notified,
      .relay (.looked .client .rejected), .relay .revalidated]

/-- The event is neither a call of a pass that comes back nor a socket that
closes. -/
def isPlain : World.Event → Bool
  | .relay (.looked _ _) | .relay (.close _) => false
  | _ => true

theorem truthful_plain {event : World.Event} (plain : isPlain event = true)
    (world : World) : world.Truthful event := by
  cases event with
  | committed | ticked => trivial
  | relay event => cases event <;> trivial

theorem undisturbed_plain {event : World.Event} (plain : isPlain event = true)
    (world : World) : Undisturbed world event where
  truthful := truthful_plain plain world
  answered same := by
    rw [same] at plain
    cases plain
  present same := by
    rw [same] at plain
    cases plain

/-- The event is a call of a pass that is answered, or its end. -/
def isAnswered : World.Event → Bool
  | .relay (.looked _ (.answered _)) | .relay .revalidated => true
  | _ => false

theorem undisturbed_answered {world : World} {event : World.Event}
    (answered : isAnswered event = true) (truthful : world.Truthful event) :
    Undisturbed world event where
  truthful := truthful
  answered same := by
    rw [same] at answered
    cases answered
  present same := by
    rw [same] at answered
    cases answered

/-- A call comes back with what held at the one moment that the pass has
seen. -/
theorem truthful_looked {world : World} {role : Role} {reply : Answer}
    {state : PeerState} {moment : Moment} (id : Nat)
    (first second : Option Answer) (rest : List Nat) (socket : Nat)
    (now : world.relay.revalidation = some ⟨some (id, first, second), rest⟩)
    (stated : world.relay.states socket = some state)
    (isEntry : state.entry = id) (isRole : state.role = role)
    (moments : world.moments world.pass.since = [moment])
    (same : reply = .answered
      (authorization? moment.store state.claims role moment.now)) :
    world.Truthful (.relay (.looked role reply)) := by
  have member : moment ∈ world.moments world.pass.since :=
    moments ▸ List.mem_cons_self
  exact .inr ⟨id, first, second, rest, socket, state, now, stated, isEntry,
    isRole, moment, member, moment, member, same⟩

theorem meets_passCalls : ∀ world,
    (Relay.world (sampleMoment [sampleId, otherId])).playFrom
        (Relay.world (sampleMoment [sampleId, otherId])).initial lostRun =
      some world →
    (Relay.world (sampleMoment [sampleId, otherId])).Meets
      (fun world event => world.Truthful event ∧ isAnswered event = true)
      world passCalls := by
  intro world played
  cases played
  refine ⟨⟨truthful_looked 0 none none [2] 0 rfl rfl rfl rfl rfl rfl, rfl⟩, ?_⟩
  intro world taken
  cases taken
  refine ⟨⟨truthful_looked 0 _ none [2] 1 rfl rfl rfl rfl rfl rfl, rfl⟩, ?_⟩
  intro world taken
  cases taken
  refine ⟨⟨trivial, rfl⟩, ?_⟩
  intro world taken
  cases taken
  refine ⟨⟨truthful_looked 2 none none [] 2 rfl rfl rfl rfl rfl rfl, rfl⟩, ?_⟩
  intro world taken
  cases taken
  refine ⟨⟨truthful_looked 2 _ none [] 3 rfl rfl rfl rfl rfl rfl, rfl⟩, ?_⟩
  intro world taken
  exact ⟨⟨trivial, rfl⟩, fun _ _ => trivial⟩

/-- The pass looks at both entries; the first is closed, the second stays. -/
theorem pass_covers_sample : ∃ world gone kept,
    (Relay.world (sampleMoment [sampleId, otherId])).Runs Undisturbed
        (lostRun ++ passCalls) world ∧
      world.pass.entries = [0, 2] ∧ world.relay.entries 0 = some gone ∧
      (gone.closed = true ∨ 0 ∈ world.pass.rejected ∨
        world.relay.revalidationPending = true) ∧
      world.relay.entries 2 = some kept ∧ kept.active = true ∧
        kept.closed = false := by
  have played := (Relay.world (sampleMoment [sampleId, otherId])).play_get
    (lostRun ++ passCalls) (by decide +kernel)
  have meets : (Relay.world (sampleMoment [sampleId, otherId])).Meets
      Undisturbed (Relay.world (sampleMoment [sampleId, otherId])).initial
        (lostRun ++ passCalls) := by
    apply Machine.meets_append
    · apply Machine.meets_of_forall
      intro event member world
      exact undisturbed_plain ((by decide +kernel : ∀ event ∈ lostRun,
        isPlain event = true) event member) world
    · intro world played
      exact Machine.Meets.mono (fun _ _ met => undisturbed_answered met.2 met.1)
        (meets_passCalls world played)
  have run := Machine.runs_of_play meets played
  obtain ⟨gone, found, covers⟩ := pass_covers run rfl
    (show 0 ∈ _ from List.mem_cons_self)
  refine ⟨_, gone, _, run, rfl, found, covers ?_, rfl, rfl, rfl⟩
  intro asked askedIn stored storedIn holds
  obtain ⟨row, inStore, _⟩ := holds
  cases List.mem_singleton.mp storedIn
  cases found
  cases inStore

/-- A rejected call for the first session leaves the second one connected. -/
theorem pass_stops : ¬ ∀ first events before after id entry,
    (Relay.world first).Runs Truthful events before →
      before.step (.relay .settled) = some after →
        id ∈ before.pass.entries → before.relay.entries id = some entry →
          before.Lost before.pass.since entry → entry.closed = true ∨
            id ∈ before.pass.rejected ∨
              before.relay.revalidationPending = true := by
  intro all
  have played := (Relay.world (sampleMoment [sampleId, otherId])).play_get
    rejectedRun (by decide +kernel)
  have meets : (Relay.world (sampleMoment [sampleId, otherId])).Meets Truthful
      (Relay.world (sampleMoment [sampleId, otherId])).initial rejectedRun := by
    apply Machine.meets_append
    · apply Machine.meets_of_forall
      intro event member world
      exact truthful_plain ((by decide +kernel : ∀ event ∈ linkedRun 0 1
        sampleId ++ linkedRun 2 3 otherId, isPlain event = true) event member)
          world
    · intro world _
      refine ⟨trivial, fun _ _ => ⟨trivial, fun _ _ => ⟨.inl rfl, fun _ _ =>
        ⟨trivial, fun _ _ => trivial⟩⟩⟩⟩
  have outcome := all _ _ _ _ 2 _ (Machine.runs_of_play meets played) rfl
    (show 2 ∈ _ from List.mem_cons_of_mem _ (List.mem_singleton.mpr rfl)) rfl
  have outcome := outcome (by
    intro asked askedIn stored storedIn holds
    obtain ⟨row, inStore, _⟩ := holds
    cases List.mem_singleton.mp storedIn
    cases inStore)
  rcases outcome with closed | rejected | pending
  · cases closed
  · exact absurd (List.mem_singleton.mp rejected) (by decide)
  · cases pending

end World

end Relay

end GpuLink
