import GpuLink.DataPlane.RelayRevalidation

/-!
# Which invalidations are seen

A commit may take the allocation of a session away.  Its notification starts a
pass, or another one after the pass that is under way; a pass sees only pairs
that are active by then.
-/

namespace GpuLink

open DataPlane Service

namespace Relay

/-- The session has the allocation of the entry. -/
def Kept (store : Store) (entry : Entry) : Prop :=
  ∃ row, store.sessions.find? entry.sessionId = some row ∧ row.isOccupying ∧
    row.assignedWorkerId = some entry.workerId ∧
    row.leaseId = some entry.leaseId

theorem Kept.grows {store : Store} {first last : Entry} {gone : Nat → Prop}
    (kept : Kept store first) (grows : first.Grows last gone) :
    Kept store last := by
  rw [Kept, grows.sessionId, grows.workerId, grows.leaseId]
  exact kept

section Step

variable {before after : Relay}

/-- An entry becomes active only when its pairing concludes. -/
theorem Sound.active_before {event : Event} {id : Nat} {last : Entry}
    (sound : Sound before) (taken : before.step event = some after)
    (now : after.entries id = some last) (active : last.active = true)
    (isOpen : last.closed = false) :
    (∃ entry, before.entries id = some entry ∧ entry.active = true ∧
      entry.closed = false) ∨
    ∃ client worker clientAuthorization workerAuthorization,
      Concludes before id client worker clientAuthorization
        workerAuthorization := by
  have soundAfter := sound.step taken
  obtain ⟨socket, state, peer, held, known, linked, _⟩ :=
    soundAfter.full now active isOpen .client
  obtain ⟨_, same, isEntry, _⟩ := soundAfter.slots now held
  rw [known] at same
  cases same
  -- The entry was active already where its socket had a peer already.
  have earlier : before.core socket = some state →
      (∀ {id}, before.IsClosed id → after.IsClosed id) →
        ∃ entry, before.entries id = some entry ∧ entry.active = true ∧
          entry.closed = false := by
    intro was closed
    obtain ⟨_, entry, entered, wasActive⟩ := sound.linked was linked
    rw [isEntry] at entered
    refine ⟨entry, entered, wasActive, ?_⟩
    by_contra wasClosed
    obtain ⟨other, found, isClosed⟩ :=
      closed ⟨entry, entered, Bool.not_eq_false _ ▸ wasClosed⟩
    rw [now] at found
    cases found
    rw [isOpen] at isClosed
    cases isClosed
  rcases sound.step_writes taken with ⟨quiet, _⟩ | ⟨_, _, _, _, _, forwards⟩ |
    ⟨_, other, client, worker, clientAuthorization, workerAuthorization,
      concludes, links⟩
  · rcases quiet.fresh known with was | ⟨_, alone⟩
    · exact .inl (earlier was quiet.closed)
    · rw [alone] at linked
      cases linked
  · rw [forwards.core] at known
    apply Or.inl
    apply earlier known
    intro id closed
    rw [IsClosed, forwards.entries]
    exact closed
  · rcases links.core_cases sound known with
      ⟨first, _, _, inside, _, rfl, _⟩ | ⟨_, _, was⟩
    · have same : other = id := inside.symm.trans isEntry
      rw [same] at concludes
      exact .inr ⟨client, worker, clientAuthorization, workerAuthorization,
        concludes⟩
    · exact .inl (earlier was links.closed)

/-- A relay that is being stopped stays so. -/
theorem step_running {event : Event} (taken : before.step event = some after)
    (running : after.closed = false) : before.closed = false := by
  have same (flags : after.closed = before.closed) : before.closed = false := by
    rw [← flags]
    exact running
  cases revalidation : event.isRevalidation with
  | false =>
      by_cases stops : event = .stop
      · subst stops
        rw [Relay.step, Option.ite_none_left_eq_some] at taken
        obtain ⟨_, taken⟩ := taken
        cases taken
        cases running
      · exact same ((step_flags taken revalidation).2 stops)
  | true =>
      have closed_of_flags : ∀ {left right : Relay}, left.flags = right.flags →
          left.closed = right.closed :=
        fun flags => congrArg Prod.snd flags
      have scheduled : ∀ relay : Relay,
          relay.scheduleRevalidation.closed = relay.closed := by
        intro relay
        unfold scheduleRevalidation
        split_ifs
        · rfl
        · rfl
        · exact closed_of_flags (relay.nextEntry_flags _)
      cases event with
      | notified =>
          cases taken
          exact same (scheduled before)
      | looked role reply =>
          rw [Relay.step] at taken
          split at taken
          · obtain ⟨_, _, rfl⟩ := Option.map_eq_some_iff.mp taken
            exact running
          · cases taken
      | revalidated =>
          rw [Relay.step, stepRevalidation] at taken
          split at taken
          · split at taken
            · cases taken
            · cases taken
              exact running
            · cases taken
              exact same (closed_of_flags (before.resumeRevalidation_flags _ _ _ _))
          · cases taken
      | settled =>
          rw [Relay.step] at taken
          split at taken
          · cases taken
            apply same
            unfold Relay.settleRevalidation
            simp only
            split_ifs
            · exact scheduled _
            · rfl
          · cases taken
      | _ => cases revalidation

end Step

namespace World

theorem moments_present (world : World) :
    world.moments world.past.length = [world.present] := by
  rw [World.moments, List.drop_left]

theorem mem_advance {world : World} {later moment : Moment} {since : Nat}
    (member : moment ∈ (world.advance later).moments since) :
    moment ∈ world.moments since ∨ moment = later := by
  rw [World.moments, advance] at member
  simp only at member
  rw [List.drop_append, List.mem_append] at member
  rcases member with earlier | last
  · exact .inl earlier
  · exact .inr (List.mem_singleton.mp (List.mem_of_mem_drop last))

/-- The store has been the same at these moments. -/
def Constant (world : World) (since : Nat) : Prop :=
  ∀ moment ∈ world.moments since, moment.store = world.present.store

theorem constant_present (world : World) : Constant world world.past.length := by
  intro moment member
  rw [moments_present] at member
  rw [List.mem_singleton.mp member]

/-- What was found in a store that has not changed is still there. -/
theorem kept_of_found {world : World} {since : Nat} {entry : Entry}
    {authorization : Authorization}
    (same : sameAllocation (some authorization) entry = true)
    (found : FoundIn (world.moments since) authorization)
    (constant : Constant world since) : Kept world.present.store entry := by
  obtain ⟨asked, _, stored, storedIn, allocated⟩ := found
  rw [constant stored storedIn] at allocated
  obtain ⟨row, inStore, occupying, worker, lease, _⟩ :=
    holds_of_allocated same allocated
  exact ⟨row, inStore, occupying, worker, lease⟩

/-- A call for a grant is rejected, or answered for the claims of the grant at a
moment since the pairing began. -/
def TruthfulGrant (world : World) : World.Event → Prop
  | .relay (.granted id role reply) =>
      reply = .rejected ∨ reply = .answered none ∨ ∃ claims,
        AnswersFrom (world.moments (world.begun id)) claims role reply
  | _ => True

/-- What the service promises, and that no call of a pass is rejected. -/
structure Served (world : World) (event : World.Event) : Prop where
  truthful : world.Truthful event
  grants : world.TruthfulGrant event
  succeeds : ∀ role, event ≠ .relay (.looked role .rejected)

/-- No entry ahead in a pass loses a socket; and when a notification comes, the
entries that are being paired have kept their allocations. -/
structure Attended (world : World) (event : World.Event) : Prop where
  served : Served world event
  present : ∀ {socket state pass entry}, event = .relay (.close socket) →
    world.relay.states socket = some state →
      world.relay.revalidation = some pass → state.entry ∈ pass.rest →
        world.relay.entries state.entry = some entry → entry.closed = true
  pairing : event = .relay .notified → ∀ id pairing entry,
    world.relay.pairings id = some pairing →
      world.relay.entries id = some entry → Kept world.present.store entry

theorem Attended.undisturbed {world : World} {event : World.Event}
    (attended : Attended world event) : Undisturbed world event where
  truthful := attended.served.truthful
  answered same := absurd same (attended.served.succeeds _)
  present := attended.present

/-- What has been lost without a notification that is still to come will be
looked at by the pass that is under way. -/
structure Seen (world : World) : Prop where
  constant : ∀ {pass}, world.owed = false →
    world.relay.revalidationPending = false →
      world.relay.revalidation = some pass → Constant world world.pass.since
  kept : ∀ {id entry}, world.owed = false →
    world.relay.revalidationPending = false →
      world.relay.entries id = some entry → entry.active = true →
        entry.closed = false → Kept world.present.store entry ∨
          ∃ pass, world.relay.revalidation = some pass ∧ id ∈ pass.ids
  pairing : ∀ {id pairing entry}, world.owed = false →
    world.relay.pairings id = some pairing →
      world.relay.entries id = some entry →
        Kept world.present.store entry ∨ Constant world (world.begun id)
  authorizing : ∀ {id client worker authorization second},
    world.relay.pairings id = some ⟨client, worker,
      .authorizing (some (.answered (some authorization))) second⟩ →
      FoundIn (world.moments (world.begun id)) authorization
  activating : ∀ {id client worker clientAuthorization workerAuthorization
    accepted}, world.relay.pairings id = some ⟨client, worker,
      .activating clientAuthorization workerAuthorization accepted⟩ →
      FoundIn (world.moments (world.begun id)) clientAuthorization ∧
        world.relay.SameAllocation id clientAuthorization workerAuthorization
  idle : world.relay.revalidation = none →
    world.relay.revalidationPending = false
  unrejected : ∀ {id first second rest},
    world.relay.revalidation = some ⟨some (id, first, second), rest⟩ →
      first ≠ some .rejected ∧ second ≠ some .rejected

/-! ## How a pass goes on -/

/-- What an event makes of the pass that is under way. -/
inductive PassMoves (before after : Relay) (event : Relay.Event) : Prop where
  | same (continues : begins before event = false)
      (silent : event ≠ .notified)
      (revalidation : after.revalidation = before.revalidation)
      (pending : after.revalidationPending = before.revalidationPending)
  | coalesced (continues : begins before event = false)
      (running : before.revalidation.isSome)
      (revalidation : after.revalidation = before.revalidation)
      (pending : after.revalidationPending = true)
  | begun (starts : begins before event = true)
      (revalidation : after.revalidation =
        some (passOf before.activeEntries))
  | looked {id : Nat} {first second next other : Option Answer}
      {rest : List Nat} {role : Role} {reply : Answer}
      (isLooked : event = .looked role reply)
      (was : before.revalidation = some ⟨some (id, first, second), rest⟩)
      (answered : answer first second role reply = some (next, other))
      (revalidation : after.revalidation =
        some ⟨some (id, next, other), rest⟩)
      (pending : after.revalidationPending = before.revalidationPending)
  | compared {id : Nat} {client worker : Option Authorization}
      {rest : List Nat} (isRevalidated : event = .revalidated)
      (was : before.revalidation = some
        ⟨some (id, some (.answered client), some (.answered worker)), rest⟩)
      (revalidation : after.revalidation = some (passOf rest))
      (pending : after.revalidationPending = before.revalidationPending)
      (outcome : after.IsClosed id ∨ ∃ entry,
        before.entries id = some entry ∧ sameAllocation client entry = true)
  | finished {rest : List Nat} (isSettled : event = .settled)
      (continues : begins before event = false)
      (was : before.revalidation = some ⟨none, rest⟩)
      (revalidation : after.revalidation = none)
      (wasPending : before.revalidationPending = false)
      (pending : after.revalidationPending = false)

section Step

variable {world : World} {event : Relay.Event} {after : Relay}

theorem resumeRevalidation_moves {before : Relay} {id : Nat} {rest : List Nat}
    {client worker : Option Authorization} (watching : Watching before)
    (was : before.revalidation = some
      ⟨some (id, some (.answered client), some (.answered worker)), rest⟩)
    (slotted : ∀ id ∈ rest, Slotted before id) :
    PassMoves before (before.resumeRevalidation id rest client worker)
      .revalidated := by
  obtain ⟨entry, found, _⟩ := watching _ was id List.mem_cons_self
  have pending := congrArg Prod.fst
    (before.resumeRevalidation_flags id rest client worker)
  by_cases different : ¬sameAllocation client entry ∨
      ¬sameAllocation worker entry
  · have closes : before.resumeRevalidation id rest client worker =
        (before.closeEntry id .LEASE_INVALIDATED
          "session lease invalidated").nextEntry rest := by
      rw [resumeRevalidation, found]
      exact if_pos different
    refine .compared rfl was ?_ pending (.inl ?_)
    · rw [closes]
      exact nextEntry_passOf (fun this member =>
        closeEntry_slotted (slotted this member) _ _ _)
    · rw [closes, IsClosed, (nextEntry_samePairs _ rest).entries]
      exact closeEntry_isClosed found _ _
  · have keeps : before.resumeRevalidation id rest client worker =
        before.nextEntry rest := by
      rw [resumeRevalidation, found]
      exact if_neg different
    simp only [not_or, not_not] at different
    refine .compared rfl was ?_ pending (.inr ⟨entry, found, different.1⟩)
    rw [keeps]
    exact nextEntry_passOf slotted

theorem pass_moves {before : Relay} (sound : Sound before)
    (watching : Watching before)
    (slotted : ∀ {pass}, before.revalidation = some pass → ∀ id ∈ pass.rest,
      Slotted before id)
    (unrejected : ∀ {id first second rest},
      before.revalidation = some ⟨some (id, first, second), rest⟩ →
        first ≠ some .rejected ∧ second ≠ some .rejected)
    (taken : before.step event = some after)
    (running : after.closed = false) : PassMoves before after event := by
  have wasRunning := step_running taken running
  cases revalidation : event.isRevalidation with
  | false =>
      refine .same ?_ ?_ (sound.step_revalidation taken revalidation)
        (step_flags taken revalidation).1
      · cases event <;> first | rfl | cases revalidation
      · rintro rfl
        cases revalidation
  | true =>
      cases event with
      | notified =>
          cases taken
          cases pass : before.revalidation with
          | none =>
              have starts : begins before .notified = true := by
                simp [begins, pass, wasRunning]
              refine .begun starts ?_
              rw [scheduleRevalidation, if_neg (by simp [wasRunning]),
                if_neg (by simp [pass])]
              exact nextEntry_passOf (fun id member =>
                active_slotted sound member)
          | some pass' =>
              have scheduled : before.scheduleRevalidation =
                  { before with revalidationPending := true } := by
                rw [scheduleRevalidation, if_neg (by simp [wasRunning]),
                  if_pos (by simp [pass])]
              refine .coalesced (by simp [begins, pass]) (by simp [pass]) ?_ ?_
              · rw [scheduled]
              · rw [scheduled]
      | looked role reply =>
          rw [Relay.step] at taken
          split at taken
          · rename_i id first second rest was
            obtain ⟨⟨next, other⟩, answered, rfl⟩ :=
              Option.map_eq_some_iff.mp taken
            exact .looked rfl was answered rfl rfl
          · cases taken
      | revalidated =>
          rw [Relay.step, stepRevalidation] at taken
          split at taken
          · rename_i id first second rest was
            split at taken
            · cases taken
            · rename_i both
              obtain ⟨noFirst, noSecond⟩ := unrejected was
              rcases promiseAll_rejected both with isFirst | isSecond
              · exact absurd isFirst noFirst
              · exact absurd isSecond noSecond
            · rename_i client worker both
              obtain ⟨rfl, rfl⟩ := promiseAll_fulfilled both
              cases taken
              exact resumeRevalidation_moves watching was (slotted was)
          · cases taken
      | settled =>
          rw [Relay.step] at taken
          split at taken
          · rename_i rest was
            cases taken
            cases pending : before.revalidationPending with
            | true =>
                refine .begun (by simp [begins, pending, wasRunning]) ?_
                rw [settleRevalidation]
                simp only
                rw [if_pos ⟨pending, by simp [wasRunning]⟩,
                  scheduleRevalidation, if_neg (by simp [wasRunning]),
                  if_neg (by simp)]
                exact nextEntry_passOf (fun id member =>
                  slotted_of_entries rfl (active_slotted sound member))
            | false =>
                have settled : before.settleRevalidation =
                    { before with revalidation := none } := by
                  rw [settleRevalidation]
                  simp only
                  rw [if_neg (by simp [pending])]
                refine .finished rfl (by simp [begins, pending]) was ?_ pending ?_
                · rw [settled]
                · rw [settled]
                  exact pending
          · cases taken
      | _ => cases revalidation

end Step

/-! ## What is lost is seen -/

theorem FoundIn.advance {world : World} {since : Nat}
    {authorization : Authorization}
    (found : FoundIn (world.moments since) authorization) (later : Moment) :
    FoundIn ((world.advance later).moments since) authorization := by
  obtain ⟨asked, askedIn, stored, storedIn, allocated⟩ := found
  exact ⟨asked, world.moments_advance later askedIn, stored,
    world.moments_advance later storedIn, allocated⟩

theorem Constant.ticked {world : World} {since : Nat}
    (constant : Constant world since) (now : Int) :
    Constant (world.advance ⟨world.present.store, now⟩) since := by
  intro moment member
  rcases mem_advance member with earlier | rfl
  · exact constant moment earlier
  · rfl

/-- Time passes; the store is as it was. -/
theorem Seen.ticked {world : World} (seen : Seen world) (now : Int) :
    Seen (world.advance ⟨world.present.store, now⟩) where
  constant delivered notPending pass :=
    (seen.constant delivered notPending pass).ticked now
  kept := seen.kept
  pairing delivered known found := by
    rcases seen.pairing delivered known found with kept | constant
    · exact .inl kept
    · exact .inr (constant.ticked now)
  authorizing known := (seen.authorizing known).advance _
  activating known := by
    obtain ⟨found, same⟩ := seen.activating known
    exact ⟨found.advance _, same⟩
  idle := seen.idle
  unrejected := seen.unrejected

/-- After a commit a notification is owed. -/
theorem Seen.committed {world : World} (seen : Seen world) (store : Store) :
    Seen { world.advance ⟨store, world.present.now⟩ with owed := true } where
  constant delivered := by cases delivered
  kept delivered := by cases delivered
  pairing delivered := by cases delivered
  authorizing known := (seen.authorizing known).advance _
  activating known := by
    obtain ⟨found, same⟩ := seen.activating known
    exact ⟨found.advance _, same⟩
  idle := seen.idle
  unrejected := seen.unrejected

section Step

variable {world : World} {event : Relay.Event} {after : Relay}

theorem owed_before (silent : event ≠ .notified)
    (delivered : (world.next event after).owed = false) :
    world.owed = false := by
  cases event <;> first | exact delivered | exact absurd rfl silent

theorem begun_kept {id : Nat} {pairing : Pairing}
    (known : world.relay.pairings id = some pairing) :
    (world.next event after).begun id = world.begun id := by
  simp [World.next, known]

/-- A pairing that concludes does so for an allocation that is kept. -/
theorem Seen.concludes {id client worker : Nat} {entry : Entry}
    {clientAuthorization workerAuthorization : Authorization}
    (seen : Seen world) (delivered : world.owed = false)
    (concludes : Concludes world.relay id client worker clientAuthorization
      workerAuthorization) (found : world.relay.entries id = some entry) :
    Kept world.present.store entry := by
  have read : FoundIn (world.moments (world.begun id)) clientAuthorization ∧
      world.relay.SameAllocation id clientAuthorization workerAuthorization := by
    rcases concludes with ⟨known, same⟩ | known
    · exact ⟨seen.authorizing known, same⟩
    · exact seen.activating known
  have known : ∃ pairing, world.relay.pairings id = some pairing := by
    rcases concludes with ⟨known, _⟩ | known
    · exact ⟨_, known⟩
    · exact ⟨_, known⟩
  obtain ⟨pairing, known⟩ := known
  obtain ⟨other, same, sameClient, _⟩ := read.2
  rw [found] at same
  cases same
  rcases seen.pairing delivered known found with kept | constant
  · exact kept
  · exact kept_of_found sameClient read.1 constant

/-- An active entry has kept its allocation, or was active before. -/
theorem Seen.active_before {id : Nat} {last : Entry} (seen : Seen world)
    (delivered : world.owed = false) (sound : Sound world.relay)
    (taken : world.relay.step event = some after)
    (now : after.entries id = some last) (active : last.active = true)
    (isOpen : last.closed = false) :
    Kept world.present.store last ∨ ∃ entry,
      world.relay.entries id = some entry ∧ entry.active = true ∧
        entry.closed = false ∧
          (Kept world.present.store entry → Kept world.present.store last) := by
  have changes := sound.step_changes taken
  rcases sound.active_before taken now active isOpen with
    ⟨entry, found, wasActive, wasOpen⟩ | ⟨_, _, _, _, concludes⟩
  · obtain ⟨_, same, grows, _⟩ := changes.entries found
    rw [now] at same
    cases same
    exact .inr ⟨entry, found, wasActive, wasOpen, fun kept => kept.grows grows⟩
  · left
    have known : ∃ entry, world.relay.entries id = some entry := by
      rcases concludes with ⟨known, _⟩ | known
      · obtain ⟨entry, found, _⟩ := sound.pairing known
        exact ⟨entry, found⟩
      · obtain ⟨entry, found, _⟩ := sound.pairing known
        exact ⟨entry, found⟩
    obtain ⟨entry, found⟩ := known
    obtain ⟨_, same, grows, _⟩ := changes.entries found
    rw [now] at same
    cases same
    exact (seen.concludes delivered concludes found).grows grows

theorem mem_activeEntries {relay : Relay} (sound : Sound relay) {id : Nat}
    {entry : Entry} (found : relay.entries id = some entry)
    (active : entry.active = true) (isOpen : entry.closed = false) :
    id ∈ relay.activeEntries := by
  rw [activeEntries, List.mem_filter]
  refine ⟨List.mem_map.mpr ⟨_, sound.kept found isOpen, rfl⟩, ?_⟩
  rw [found, Option.any_some, active, isOpen]
  rfl

/-- What is active has kept its allocation, or is in the pass. -/
theorem Seen.kept_next {id : Nat} {last : Entry} (seen : Seen world)
    (sound : Sound world.relay) (covering : Covering world)
    (taken : world.relay.step event = some after)
    (moves : PassMoves world.relay after event)
    (delivered : (world.next event after).owed = false)
    (notPending : after.revalidationPending = false)
    (now : after.entries id = some last) (active : last.active = true)
    (isOpen : last.closed = false) :
    Kept world.present.store last ∨
      ∃ pass, after.revalidation = some pass ∧ id ∈ pass.ids := by
  -- Unless a pass begins, the entry had been kept, or was in the pass before.
  have earlier : event ≠ .notified →
      world.relay.revalidationPending = false →
        (∀ {pass}, world.relay.revalidation = some pass → id ∈ pass.ids →
          Kept world.present.store last ∨
            ∃ pass, after.revalidation = some pass ∧ id ∈ pass.ids) →
          Kept world.present.store last ∨
            ∃ pass, after.revalidation = some pass ∧ id ∈ pass.ids := by
    intro silent wasPending later
    have owed := owed_before silent delivered
    rcases seen.active_before owed sound taken now active isOpen with
      kept | ⟨entry, found, wasActive, wasOpen, stays⟩
    · exact .inl kept
    · rcases seen.kept owed wasPending found wasActive wasOpen with
        kept | ⟨pass, was, member⟩
      · exact .inl (stays kept)
      · exact later was member
  cases moves with
  | same continues silent revalidation pending =>
      apply earlier silent (pending.symm.trans notPending)
      intro pass was member
      exact .inr ⟨pass, revalidation.trans was, member⟩
  | coalesced continues running revalidation pending =>
      rw [pending] at notPending
      cases notPending
  | begun starts revalidation =>
      right
      refine ⟨_, revalidation, ?_⟩
      rw [passOf_ids]
      rcases sound.active_before taken now active isOpen with
        ⟨entry, found, wasActive, wasOpen⟩ | ⟨_, _, _, _, concludes⟩
      · exact mem_activeEntries sound found wasActive wasOpen
      · -- Neither a notification nor the end of a pass concludes a pairing.
        exfalso
        have same : after.entries = world.relay.entries := by
          cases event with
          | notified =>
              cases taken
              exact (scheduleRevalidation_samePairs _).entries
          | settled =>
              rw [Relay.step] at taken
              split at taken
              · cases taken
                exact (settleRevalidation_samePairs _).entries
              · cases taken
          | _ => cases starts
        rw [same] at now
        have inactive : ∀ {pairing}, world.relay.pairings id = some pairing →
            False := by
          intro pairing known
          obtain ⟨entry, found, _, notActive, _⟩ := sound.pairing known
          rw [now] at found
          cases found
          rw [active] at notActive
          cases notActive
        rcases concludes with ⟨known, _⟩ | known
        · exact inactive known
        · exact inactive known
  | looked isLooked was answered revalidation pending =>
      apply earlier (by rw [isLooked]; intro same; cases same)
        (pending.symm.trans notPending)
      intro pass is member
      rw [was] at is
      cases is
      exact .inr ⟨_, revalidation, member⟩
  | @compared first client worker rest isRevalidated was revalidation pending
      outcome =>
      have silent : event ≠ .notified := by
        rw [isRevalidated]
        intro same
        cases same
      have wasPending := pending.symm.trans notPending
      have owed := owed_before silent delivered
      apply earlier silent wasPending
      intro pass is member
      have is := was.symm.trans is
      cases is
      rcases List.mem_cons.mp member with rfl | ahead
      · left
        rcases outcome with ⟨other, same, closed⟩ | ⟨entry, found, same⟩
        · rw [now] at same
          cases same
          rw [isOpen] at closed
          cases closed
        · obtain ⟨_, is, grows, _⟩ :=
            (sound.step_changes taken).entries found
          rw [now] at is
          cases is
          cases client with
          | none => cases same
          | some authorization =>
              have found := covering.found was (.inl rfl)
              have constant := seen.constant owed wasPending was
              exact (kept_of_found same found constant).grows grows
      · refine .inr ⟨_, revalidation, ?_⟩
        rw [passOf_ids]
        exact ahead
  | finished isSettled continues was revalidation wasPending pending =>
      apply earlier (by rw [isSettled]; intro same; cases same) wasPending
      intro pass is member
      rw [was] at is
      cases is
      cases covering.finished was
      cases member

theorem Seen.constant_next {pass : Revalidation} (seen : Seen world)
    (moves : PassMoves world.relay after event)
    (delivered : (world.next event after).owed = false)
    (notPending : after.revalidationPending = false)
    (now : after.revalidation = some pass) :
    Constant world (world.next event after).pass.since := by
  have since : begins world.relay event = false →
      (world.next event after).pass.since = world.pass.since :=
    fun continues => (track_kept continues).1
  cases moves with
  | same continues silent revalidation pending =>
      rw [since continues]
      exact seen.constant (owed_before silent delivered)
        (pending.symm.trans notPending) (revalidation.symm.trans now)
  | coalesced continues running revalidation pending =>
      rw [pending] at notPending
      cases notPending
  | begun starts revalidation =>
      have starting : (world.next event after).pass =
          ⟨world.past.length, world.relay.activeEntries, []⟩ := if_pos starts
      rw [starting]
      exact constant_present world
  | looked isLooked was answered revalidation pending =>
      subst isLooked
      rw [since rfl]
      exact seen.constant (owed_before (by intro same; cases same) delivered)
        (pending.symm.trans notPending) was
  | compared isRevalidated was revalidation pending outcome =>
      subst isRevalidated
      rw [since rfl]
      exact seen.constant (owed_before (by intro same; cases same) delivered)
        (pending.symm.trans notPending) was
  | finished isSettled continues was revalidation wasPending pending =>
      rw [revalidation] at now
      cases now

theorem Seen.pairing_next {id : Nat} {last : Entry}
    (seen : Seen world) (sound : Sound world.relay)
    (attended : Attended world (.relay event))
    (taken : world.relay.step event = some after)
    (delivered : (world.next event after).owed = false)
    (now : after.entries id = some last) :
    Kept world.present.store last ∨
      Constant world ((world.next event after).begun id) := by
  cases earlier : world.relay.pairings id with
  | none =>
      right
      rw [show (world.next event after).begun id = world.past.length by
        simp [World.next, earlier]]
      exact constant_present world
  | some was =>
      rw [begun_kept earlier]
      obtain ⟨entry, found, _⟩ := sound.pairing earlier
      obtain ⟨_, same, grows, _⟩ := (sound.step_changes taken).entries found
      rw [now] at same
      cases same
      by_cases notified : event = .notified
      · left
        exact (attended.pairing (by rw [notified]) id was entry earlier
          found).grows grows
      · rcases seen.pairing (owed_before notified delivered) earlier found with
          kept | constant
        · exact .inl (kept.grows grows)
        · exact .inr constant

theorem Seen.authorizing_next {id client worker : Nat}
    {authorization : Authorization} {second : Option Answer}
    (seen : Seen world) (sound : Sound world.relay)
    (attended : Attended world (.relay event))
    (taken : world.relay.step event = some after)
    (known : after.pairings id = some ⟨client, worker,
      .authorizing (some (.answered (some authorization))) second⟩) :
    FoundIn (world.moments ((world.next event after).begun id))
      authorization := by
  rcases sound.pairing_step taken known with was | fresh |
    ⟨first, other, role, reply, _, _, was, rfl, answered, same⟩ |
      ⟨_, _, _, same, _⟩
  · rw [begun_kept was]
    exact seen.authorizing was
  · cases fresh
  · cases same
    rw [begun_kept was]
    rcases answer_cases answered with ⟨rfl, isReply, _⟩ | ⟨_, isFirst, _⟩
    · cases isReply
      rcases attended.served.grants with rejected | none | ⟨claims, answers⟩
      · cases rejected
      · cases none
      · exact answers.found
    · cases isFirst
      exact seen.authorizing was
  · cases same

theorem Seen.activating_next {id client worker : Nat}
    {clientAuthorization workerAuthorization : Authorization}
    {accepted : Option Bool} (seen : Seen world) (sound : Sound world.relay)
    (taken : world.relay.step event = some after)
    (known : after.pairings id = some ⟨client, worker,
      .activating clientAuthorization workerAuthorization accepted⟩) :
    FoundIn (world.moments ((world.next event after).begun id))
        clientAuthorization ∧
      after.SameAllocation id clientAuthorization workerAuthorization := by
  have changes := sound.step_changes taken
  rcases sound.pairing_step taken known with was | fresh |
    ⟨_, _, _, _, _, _, _, _, _, same⟩ | ⟨_, _, _, same, origin⟩
  · rw [begun_kept was]
    obtain ⟨found, allocation⟩ := seen.activating was
    exact ⟨found, allocation.changes changes⟩
  · cases fresh
  · cases same
  · cases same
    rcases origin with ⟨was, allocation⟩ | was
    · rw [begun_kept was]
      exact ⟨seen.authorizing was, allocation.changes changes⟩
    · rw [begun_kept was]
      obtain ⟨found, allocation⟩ := seen.activating was
      exact ⟨found, allocation.changes changes⟩

theorem Seen.relay (seen : Seen world) (sound : Sound world.relay)
    (watching : Watching world.relay) (covering : Covering world)
    (attended : Attended world (.relay event))
    (taken : world.relay.step event = some after)
    (running : after.closed = false) : Seen (world.next event after) := by
  have moves := pass_moves sound watching covering.ahead seen.unrejected taken
    running
  constructor
  · intro pass delivered notPending now
    exact seen.constant_next moves delivered notPending now
  · intro id last delivered notPending now active isOpen
    exact seen.kept_next sound covering taken moves delivered notPending now
      active isOpen
  · intro id pairing last delivered _ now
    exact seen.pairing_next sound attended taken delivered now
  · intro id client worker authorization second known
    exact seen.authorizing_next sound attended taken known
  · intro id client worker clientAuthorization workerAuthorization accepted
      known
    exact seen.activating_next sound taken known
  · intro now
    cases moves with
    | same continues silent revalidation pending =>
        exact pending.trans (seen.idle (revalidation.symm.trans now))
    | coalesced continues running revalidation pending =>
        rw [revalidation.symm.trans now] at running
        cases running
    | begun starts revalidation => cases revalidation.symm.trans now
    | looked isLooked was answered revalidation pending =>
        cases revalidation.symm.trans now
    | compared isRevalidated was revalidation pending outcome =>
        cases revalidation.symm.trans now
    | finished isSettled continues was revalidation wasPending pending =>
        exact pending
  · intro id first second rest now
    have fresh : ∀ {entries}, after.revalidation = some (passOf entries) →
        first ≠ some .rejected ∧ second ≠ some .rejected := by
      intro entries is
      cases entries with
      | nil => cases is.symm.trans now
      | cons this others =>
          cases is.symm.trans now
          exact ⟨by simp, by simp⟩
    cases moves with
    | same continues silent revalidation pending =>
        exact seen.unrejected (revalidation.symm.trans now)
    | coalesced continues running revalidation pending =>
        exact seen.unrejected (revalidation.symm.trans now)
    | begun starts revalidation => exact fresh revalidation
    | looked isLooked was answered revalidation pending =>
        subst isLooked
        cases revalidation.symm.trans now
        obtain ⟨noFirst, noSecond⟩ := seen.unrejected was
        rcases answer_cases answered with ⟨_, rfl, rfl⟩ | ⟨_, rfl, rfl⟩
        · refine ⟨?_, noSecond⟩
          intro rejected
          exact attended.served.succeeds _
            (by rw [Option.some.inj rejected])
        · refine ⟨noFirst, ?_⟩
          intro rejected
          exact attended.served.succeeds _
            (by rw [Option.some.inj rejected])
    | compared isRevalidated was revalidation pending outcome =>
        exact fresh revalidation
    | finished isSettled continues was revalidation wasPending pending =>
        cases revalidation.symm.trans now

end Step

theorem seen_initial (first : Moment) :
    Seen (Relay.world first).initial where
  constant _ _ now := by cases now
  kept _ _ found := by cases found
  pairing _ known := by cases known
  authorizing known := by cases known
  activating known := by cases known
  idle _ := rfl
  unrejected now := by cases now

theorem Seen.step {world after : World} {event : World.Event}
    (seen : world.relay.closed = false → Seen world)
    (sound : Sound world.relay) (watching : Watching world.relay)
    (covering : Covering world) (attended : Attended world event)
    (taken : world.step event = some after)
    (running : after.relay.closed = false) : Seen after := by
  cases event with
  | relay event =>
      obtain ⟨relay, moved, rfl⟩ := Option.map_eq_some_iff.mp taken
      exact (seen (step_running moved running)).relay sound watching covering
        attended moved running
  | committed store =>
      cases taken
      exact (seen running).committed store
  | ticked now =>
      cases taken
      exact (seen running).ticked now

theorem Runs.seen {first : Moment} {events : List World.Event} {world : World}
    (run : (Relay.world first).Runs Attended events world) :
    world.relay.closed = false → Seen world := by
  have all := run.invariant (fun _ world => Sound world.relay ∧
      Watching world.relay ∧ Covering world ∧
        (world.relay.closed = false → Seen world))
    ⟨sound_initial, (fun _ now => by cases now), covering_initial first,
      fun _ => seen_initial first⟩
    (fun _ facts attended taken => ⟨step_sound facts.1 taken,
      step_watching facts.2.1 facts.1 taken,
      facts.2.2.1.step facts.1 facts.2.1 attended.undisturbed taken,
      Seen.step facts.2.2.2 facts.1 facts.2.1 facts.2.2.1 attended taken⟩)
  exact all.2.2.2

/-- The notifications have been delivered, and nothing is under way. -/
structure Quiescent (world : World) : Prop where
  delivered : world.owed = false
  unpaired : ∀ id, world.relay.pairings id = none
  settled : world.relay.revalidation = none
  running : world.relay.closed = false

/-- When nothing is under way, what is active has the allocation that it was
linked for. -/
theorem invalidations_seen {first : Moment} {events : List World.Event}
    {world : World} {id : Nat} {entry : Entry}
    (run : (Relay.world first).Runs Attended events world)
    (quiescent : Quiescent world)
    (found : world.relay.entries id = some entry)
    (active : entry.active = true) (isOpen : entry.closed = false) :
    Kept world.present.store entry := by
  have seen := Runs.seen run quiescent.running
  rcases seen.kept quiescent.delivered (seen.idle quiescent.settled) found
      active isOpen with kept | ⟨pass, now, _⟩
  · exact kept
  · rw [quiescent.settled] at now
    cases now

/-! ## Small runs -/

/-- The event is no answer, closes no socket and is no notification. -/
def isCalm : World.Event → Bool
  | .relay (.looked _ _) | .relay (.granted _ _ _) | .relay (.close _)
  | .relay .notified => false
  | _ => true

theorem attended_calm {event : World.Event} (calm : isCalm event = true)
    (world : World) : Attended world event where
  served := by
    refine ⟨?_, ?_, ?_⟩
    · cases event with
      | committed | ticked => trivial
      | relay event => cases event <;> trivial
    · cases event with
      | committed | ticked => trivial
      | relay event => cases event <;> trivial
    · rintro role rfl
      cases calm
  present same := by
    rw [same] at calm
    cases calm
  pairing same := by
    rw [same] at calm
    cases calm

theorem attended_answered {world : World} {event : World.Event}
    (answered : isAnswered event = true) (truthful : world.Truthful event) :
    Attended world event where
  served := by
    refine ⟨truthful, ?_, ?_⟩
    · cases event with
      | committed | ticked => trivial
      | relay event => cases event <;> trivial
    · rintro role rfl
      cases answered
  present same := by
    rw [same] at answered
    cases answered
  pairing same := by
    rw [same] at answered
    cases answered

theorem meets_calm {first : Moment} {world : World}
    {events : List World.Event}
    (calm : ∀ event ∈ events, isCalm event = true) :
    (Relay.world first).Meets Attended world events :=
  Machine.meets_of_forall
    (fun event member world => attended_calm (calm event member) world) world

/-- A grant of the session is authorized while it has its allocation. -/
theorem attended_granted {world : World} {entry : Nat}
    {id : BoundedString 200} {role : Role} {moment : Moment}
    (listed : moment ∈ world.moments (world.begun entry))
    (holds : authorization? moment.store
      (sampleAuthorization id .active role).claims role moment.now =
        some (sampleAuthorization id .active role)) :
    Attended world (.relay (.granted entry role
      (.answered (some (sampleAuthorization id .active role))))) where
  served := by
    refine ⟨trivial, .inr (.inr ⟨(sampleAuthorization id .active role).claims,
      moment, listed, moment, listed, ?_⟩), ?_⟩
    · rw [holds]
    · intro _ same
      cases same
  present same := by cases same
  pairing same := by cases same

/-- A pair whose grants are authorized, before its pairing goes on. -/
def grantedRun : List World.Event :=
  (connectPair 0 1 .v1 sampleId .active).map .relay ++
    (grantPair 0 sampleId .active).map .relay

theorem meets_granted :
    (Relay.world (sampleMoment [sampleId])).Meets Attended
      (Relay.world (sampleMoment [sampleId])).initial grantedRun := by
  apply Machine.meets_append (meets_calm (by decide +kernel))
  intro world played
  cases played
  refine ⟨attended_granted (List.mem_singleton.mpr rfl) rfl, ?_⟩
  intro world taken
  cases taken
  exact ⟨attended_granted (List.mem_singleton.mpr rfl) rfl,
    fun _ _ => trivial⟩

theorem meets_lostRun :
    (Relay.world (sampleMoment [sampleId, otherId])).Meets Attended
      (Relay.world (sampleMoment [sampleId, otherId])).initial lostRun := by
  change Machine.Meets _ _ _
    ((connectPair 0 1 .v1 sampleId .active).map World.Event.relay ++
      ((grantPair 0 sampleId .active).map World.Event.relay ++
        ((.relay (.authorized 0) ::
            (connectPair 2 3 .v1 otherId .active).map World.Event.relay) ++
          ((grantPair 2 otherId .active).map World.Event.relay ++
            [.relay (.authorized 2), .committed (sampleStore [otherId]),
              .relay .notified]))))
  apply Machine.meets_append (meets_calm (by decide +kernel))
  intro world played
  cases played
  apply Machine.meets_append
  · refine ⟨attended_granted (List.mem_singleton.mpr rfl) rfl, ?_⟩
    intro world taken
    cases taken
    exact ⟨attended_granted (List.mem_singleton.mpr rfl) rfl,
      fun _ _ => trivial⟩
  intro world played
  cases played
  apply Machine.meets_append (meets_calm (by decide +kernel))
  intro world played
  cases played
  apply Machine.meets_append
  · refine ⟨attended_granted (List.mem_singleton.mpr rfl) rfl, ?_⟩
    intro world taken
    cases taken
    exact ⟨attended_granted (List.mem_singleton.mpr rfl) rfl,
      fun _ _ => trivial⟩
  intro world played
  cases played
  refine ⟨attended_calm rfl _, ?_⟩
  intro world taken
  cases taken
  refine ⟨attended_calm rfl _, ?_⟩
  intro world taken
  cases taken
  refine ⟨⟨⟨trivial, trivial, ?_⟩, ?_, ?_⟩, fun _ _ => trivial⟩
  · intro role same
    cases same
  · intro socket state pass entry same
    cases same
  -- Nothing is being paired.
  · intro _ id pairing entry paired
    rcases id with _ | _ | _ | id <;> cases paired

/-- The first session ends, and its pair with it; the other pair stays. -/
theorem invalidations_seen_sample : ∃ world gone kept,
    (Relay.world (sampleMoment [sampleId, otherId])).Runs Attended
        (lostRun ++ passCalls ++ [.relay .settled]) world ∧
      world.relay.entries 0 = some gone ∧ gone.closed = true ∧
      world.relay.entries 2 = some kept ∧ kept.active = true ∧
        Kept world.present.store kept := by
  have played := (Relay.world (sampleMoment [sampleId, otherId])).play_get
    (lostRun ++ passCalls ++ [.relay .settled]) (by decide +kernel)
  have meets : (Relay.world (sampleMoment [sampleId, otherId])).Meets Attended
      (Relay.world (sampleMoment [sampleId, otherId])).initial
        (lostRun ++ passCalls ++ [.relay .settled]) := by
    apply Machine.meets_append
    · apply Machine.meets_append meets_lostRun
      intro world played
      exact Machine.Meets.mono (fun _ _ met => attended_answered met.2 met.1)
        (meets_passCalls world played)
    · intro world _
      exact ⟨attended_calm rfl world, fun _ _ => trivial⟩
  have run := Machine.runs_of_play meets played
  refine ⟨_, _, _, run, rfl, rfl, rfl, rfl, @invalidations_seen _ _ _ 2 _ run
    ⟨rfl, ?_, rfl, rfl⟩ rfl rfl rfl⟩
  intro id
  rcases id with _ | _ | _ | id <;> rfl

/-- The session ends after its grants are authorized, and before its pair is
linked: the pass that the notification starts does not see it. -/
def missedRun : List World.Event :=
  grantedRun ++ [.committed (sampleStore []), .relay .notified,
    .relay .settled, .relay (.authorized 0)]

theorem invalidation_missed : ¬ ∀ first events world id entry,
    (Relay.world first).Runs Served events world → Quiescent world →
      world.relay.entries id = some entry → entry.active = true →
        entry.closed = false → Kept world.present.store entry := by
  intro all
  have played := (Relay.world (sampleMoment [sampleId])).play_get missedRun
    (by decide +kernel)
  have granted := Machine.Meets.mono (fun _ _ attended =>
    Attended.served attended) meets_granted
  have meets : (Relay.world (sampleMoment [sampleId])).Meets Served
      (Relay.world (sampleMoment [sampleId])).initial missedRun := by
    apply Machine.meets_append granted
    intro world _
    have plain : ∀ {world event}, isCalm event = true → Served world event :=
      fun calm => (attended_calm calm _).served
    refine ⟨plain rfl, fun world _ => ⟨⟨trivial, trivial, ?_⟩, fun world _ =>
      ⟨plain rfl, fun world _ => ⟨plain rfl, fun _ _ => trivial⟩⟩⟩⟩
    intro _ same
    cases same
  have missed := all _ _ _ 0 _ (Machine.runs_of_play meets played)
    ⟨rfl, ?_, rfl, rfl⟩ rfl rfl rfl
  · obtain ⟨row, inStore, _⟩ := missed
    cases inStore
  · intro id
    cases id with
    | zero => rfl
    | succ id => rfl

end World

end Relay

end GpuLink
