import GpuLink.Broker.HostJournals
import GpuLink.Library.Machine

/-!
# What a start finds in the journals

A run of the broker is a sequence of commits: the broker may crash between any
two of them, and every operation may end early.  The checks of a start hold of
whatever has been committed, as long as the kernel's answers about a child stay
within the bounds that only the start checks.
-/

namespace GpuLink

namespace HostJournals

open AuthorityBridge HostProcess Failures

/-! ## Runs -/

/-- What the broker is started with, after its checks. -/
structure Setup where
  config : Config
  worker : isBrokerId config.workerId = true
  file : Option (Except String Json)
  witnesses : List Witness
  read : HostProcess.witnesses file = .ok witnesses

/-- Whatever commits something. -/
inductive Act where
  | reserve (setup : Setup) (peerUid : Nat) (payload : Json) (world : World)
  | capture (setup : Setup) (peerUid : Nat) (request : Json) (world : World)
  | spawn (setup : Setup) (peerUid : Nat) (request : Json) (world : World)
  | restart

def Act.commits (journals : Journals) : Act → List Journals
  | .reserve setup peerUid payload world =>
      (HostJournals.reserve setup.config journals peerUid payload world).commits
  | .capture setup peerUid request world =>
      (Outcome.single (HostJournals.capture setup.config setup.witnesses
        journals peerUid request world)).commits
  | .spawn setup peerUid request world =>
      (HostJournals.spawn setup.config journals peerUid request world).commits
  | .restart => [journals.quarantine]

/-- An event is an act and the last of its commits that the act comes to. -/
def machine : Machine Journals (Act × Nat) where
  initial := .empty
  step := fun journals event => (event.1.commits journals)[event.2]?

/-- The clock is below 2^53 milliseconds. -/
def World.Timely (world : World) : Prop :=
  ∀ reading, world.clock reading ≤ maxSafeInteger

/-- The bounds that only a start checks. -/
structure Modest (identity : HostIdentity) : Prop where
  pid : 1 ≤ identity.pid ∧ identity.pid ≤ 4194304
  startTicks : positive identity.startTicks
  cgroup : identity.cgroupV2.length ≤ 1024 ∧ '\x00' ∉ identity.cgroupV2.toList

/-- The child, if `spawn` gets to see it, is within the bounds. -/
def World.Modest (world : World) : Prop :=
  ∀ pid ∈ world.child, ∀ identity,
    readChild world.moments pid = .ok identity →
    inspectProcfs (fun reading => world.moments (reading + 3)) identity =
      (.present, .identityPresent) →
    HostJournals.Modest identity

/-- The condition on an act. -/
def Act.Fits : Act → Prop
  | .reserve .. => True
  | .capture _ _ _ world => world.Timely
  | .spawn _ _ _ world => world.Timely ∧ world.Modest
  | .restart => True

/-! ## The invariant -/

/-- A row of `remote_claims` as `reserve` leaves it. -/
structure ClaimSound (row : RemoteClaim) : Prop where
  attemptId : isBrokerId row.attemptId
  leaseId : isBrokerId row.leaseId
  workerId : isBrokerId row.workerId
  pending : row.status = .pending → row.fenceEpoch = none

/-- The attempt has been acknowledged with these columns. -/
def Owns (claims : Journal) (attemptId : String)
    (owner : String × String × Nat) : Prop :=
  ∃ claim, claims.claim? attemptId = some claim ∧
    claim.leaseId = owner.1 ∧ claim.workerId = owner.2.1 ∧
      claim.fenceEpoch = some owner.2.2

def HostBinding.owner (row : HostBinding) : String × String × Nat :=
  (row.leaseId, row.workerId, row.fenceEpoch)

structure Journals.Sound (journals : Journals) : Prop where
  claims : ∀ row ∈ journals.claims.rows, ClaimSound row
  bindings : ∀ row ∈ journals.bindings.rows, row.valid ∧
    Owns journals.claims row.attemptId row.owner
  probes : ∀ row ∈ journals.probes.rows, row.valid ∧
    Owns journals.claims row.attemptId row.owner
  /-- A child is only recorded after the intent. -/
  intents : ∀ row ∈ journals.probes.rows, row.sequence = 2 →
    ∃ first ∈ journals.probes.rows, first.attemptId = row.attemptId ∧
      first.sequence = 1

theorem sound_empty : Journals.empty.Sound where
  claims := fun _ none => nomatch none
  bindings := fun _ none => nomatch none
  probes := fun _ none => nomatch none
  intents := fun _ none => nomatch none

/-! ## Claims -/

/-- Acknowledged claims stay as they are, up to their status. -/
def Steady (before after : Journal) : Prop :=
  ∀ attemptId owner, Owns before attemptId owner → Owns after attemptId owner

/-- Both tables of host processes are untouched, and the claims are steady. -/
theorem Journals.Sound.withClaims {journals : Journals} {claims : Journal}
    (sound : journals.Sound) (kept : ∀ row ∈ claims.rows, ClaimSound row)
    (steady : Steady journals.claims claims) :
    ({ journals with claims := claims } : Journals).Sound where
  claims := kept
  bindings := fun row member =>
    (sound.bindings row member).imp_right (steady _ _)
  probes := fun row member => (sound.probes row member).imp_right (steady _ _)
  intents := sound.intents

theorem claimSound_quarantine {row : RemoteClaim} (sound : ClaimSound row) :
    ClaimSound row.quarantine := by
  unfold RemoteClaim.quarantine
  split
  · exact ⟨sound.attemptId, sound.leaseId, sound.workerId, fun none => nomatch none⟩
  · exact sound

theorem steady_quarantine (claims : Journal) :
    Steady claims (Journal.quarantine claims) := by
  intro attemptId owner ⟨claim, found, lease, worker, epoch⟩
  obtain ⟨row, here, rfl⟩ := Option.map_eq_some_iff.mp found
  refine ⟨row.quarantine.localClaim, ?_, ?_⟩
  · rw [Journal.claim?, find?_quarantine, here]
    rfl
  · unfold RemoteClaim.quarantine
    split
    · exact ⟨lease, worker, epoch⟩
    · exact ⟨lease, worker, epoch⟩

theorem Journals.Sound.quarantine {journals : Journals}
    (sound : journals.Sound) : journals.quarantine.Sound := by
  apply sound.withClaims
  · intro row member
    obtain ⟨old, here, rfl⟩ := List.mem_map.mp member
    exact claimSound_quarantine (sound.claims old here)
  · exact steady_quarantine journals.claims

/-- A write of a row that was not acknowledged before. -/
theorem steady_put {claims : Journal} {row : RemoteClaim}
    (fresh : ∀ old, claims.find? row.attemptId = some old →
      old.fenceEpoch = none) : Steady claims (claims.put row) := by
  intro attemptId owner ⟨claim, found, lease, worker, epoch⟩
  obtain ⟨old, here, rfl⟩ := Option.map_eq_some_iff.mp found
  refine ⟨old.localClaim, ?_, lease, worker, epoch⟩
  have other : attemptId ≠ row.attemptId := by
    intro same
    have unset := fresh old (same ▸ here)
    change old.fenceEpoch = _ at epoch
    rw [unset] at epoch
    cases epoch
  rw [Journal.claim?, KeyedTable.find?_put_other _ other, here]
  rfl

theorem claimSound_put {claims : Journal} {row : RemoteClaim}
    (sound : ∀ other ∈ claims.rows, ClaimSound other)
    (new : ClaimSound row) : ∀ other ∈ (claims.put row).rows,
      ClaimSound other := by
  intro other member
  rcases KeyedTable.mem_put_iff.mp member with rfl | ⟨_, old⟩
  · exact new
  · exact sound other old

theorem insertPending_sound {claims later : Journal}
    {request : BrokerRequest} {workerId : String} {createdMs : Int}
    (sound : ∀ row ∈ claims.rows, ClaimSound row)
    (identified : Identified request) (worker : isBrokerId workerId)
    (inserted : Journal.insertPending claims request workerId createdMs =
      some later) :
    (∀ row ∈ later.rows, ClaimSound row) ∧ Steady claims later := by
  unfold Journal.insertPending at inserted
  split at inserted
  · cases inserted
  · next absent =>
      cases inserted
      obtain ⟨_, lease, attempt⟩ := identified
      constructor
      · exact claimSound_put sound ⟨attempt, lease, worker, fun _ => rfl⟩
      · apply steady_put
        intro old found
        rw [absent] at found
        cases found

theorem acknowledge_sound {claims later : Journal} {attemptId : String}
    {fenceEpoch : Nat} (sound : ∀ row ∈ claims.rows, ClaimSound row)
    (acknowledged : Journal.acknowledge claims attemptId fenceEpoch =
      some later) :
    (∀ row ∈ later.rows, ClaimSound row) ∧ Steady claims later := by
  obtain ⟨row, here, pending, rfl⟩ := acknowledge_eq acknowledged
  have old := sound row (KeyedTable.mem_of_find? here)
  constructor
  · exact claimSound_put sound
      ⟨old.attemptId, old.leaseId, old.workerId, fun none => nomatch none⟩
  · apply steady_put
    intro other found
    change claims.find? row.attemptId = some other at found
    rw [KeyedTable.key_of_find? here, here] at found
    cases found
    exact old.pending pending

/-- Whatever `reserve` commits is sound. -/
theorem reserve_sound {setup : Setup} {journals after : Journals}
    {peerUid : Nat} {payload : Json} {world : World} (sound : journals.Sound)
    (committed : after ∈
      (reserve setup.config journals peerUid payload world).commits) :
    after.Sound := by
  unfold reserve at committed
  split at committed
  · cases committed
  · next request pending begun =>
      obtain ⟨valid, inserted⟩ := beginReserve_eq begun
      have first := insertPending_sound sound.claims
        (validRequest_identified valid) setup.worker inserted
      have withPending := sound.withClaims first.1 first.2
      split at committed
      · rw [List.mem_singleton.mp committed]
        exact withPending
      · split at committed
        · rw [List.mem_singleton.mp committed]
          exact withPending
        · next acknowledged =>
            have second := acknowledge_sound first.1 acknowledged
            rcases List.mem_cons.mp committed with rfl | last
            · exact withPending
            · rw [List.mem_singleton.mp last]
              exact withPending.withClaims second.1 second.2

/-! ## Rows of host processes -/

theorem call_ok {α : Type} {result : Except String α} {value : α}
    (done : call result = .ok value) : result = .ok value := by
  cases result with
  | error code => cases done
  | ok other =>
      cases done
      rfl

theorem confirmedEpoch_ok {claim : LocalClaim} {statuses : List ClaimStatus}
    {fenceEpoch : Nat}
    (confirmed : confirmedEpoch claim statuses = .ok fenceEpoch) :
    claim.fenceEpoch = some fenceEpoch ∧ positive fenceEpoch := by
  unfold confirmedEpoch at confirmed
  split at confirmed
  · cases confirmed
  · next epoch known =>
      split at confirmed
      · next meets =>
          cases confirmed
          exact ⟨known, meets.1⟩
      · cases confirmed

/-- The identifiers of a claim that an operation may act for. -/
theorem claim_identified {journals : Journals} {attemptId : String}
    {claim : LocalClaim} (sound : journals.Sound)
    (found : journals.claims.claim? attemptId = some claim) :
    isBrokerId claim.leaseId ∧ isBrokerId claim.workerId := by
  obtain ⟨row, here, rfl⟩ := Option.map_eq_some_iff.mp found
  have old := sound.claims row (KeyedTable.mem_of_find? here)
  exact ⟨old.leaseId, old.workerId⟩

theorem bindingOf_valid {attemptId : String} {claim : LocalClaim}
    {fenceEpoch : Nat} {witness : Witness} {capturedMs : Int}
    (attempt : isBrokerId attemptId)
    (identified : isBrokerId claim.leaseId ∧ isBrokerId claim.workerId)
    (epoch : positive fenceEpoch) (late : 0 < capturedMs)
    (timely : capturedMs ≤ maxSafeInteger) :
    (bindingOf attemptId claim fenceEpoch witness capturedMs).valid := by
  simp only [HostBinding.valid, bindingOf, attempt, identified.1,
    identified.2, epoch, witness.valid, Bool.and_self]
  simp only [positive, Bool.and_eq_true, decide_eq_true_eq]
  exact ⟨⟨trivial, late, timely⟩, trivial⟩

theorem capture_ok {config : Config} {witnesses : List Witness}
    {journals : Journals} {peerUid : Nat} {request : Json} {world : World}
    {committed : Journals × Json}
    (done : capture config witnesses journals peerUid request world =
      .ok committed) :
    ∃ attemptId claim fenceEpoch witness, isBrokerId attemptId ∧
      journals.claims.claim? attemptId = some claim ∧
      claim.fenceEpoch = some fenceEpoch ∧ positive fenceEpoch ∧
      insertBinding journals attemptId claim (bindingOf attemptId claim
        fenceEpoch witness (world.clock 0)) = .ok committed := by
  obtain ⟨attemptId, named, more⟩ := ok_of_bind done
  obtain ⟨claim, granted, more⟩ := ok_of_bind more
  obtain ⟨fenceEpoch, confirmed, more⟩ := ok_of_bind more
  have known := confirmedEpoch_ok confirmed
  split at more
  · cases more
  · next witness _ =>
      split at more
      · cases more
      · split at more
        · cases more
        · obtain ⟨_, _, more⟩ := ok_of_bind more
          split at more
          · cases more
          · exact ⟨attemptId, claim, fenceEpoch, witness,
              readAttempt_id (call_ok named),
              (authorized_claim (call_ok granted)).1, known.1, known.2, more⟩

theorem insertBinding_ok {journals : Journals} {attemptId : String}
    {claim : LocalClaim} {row : HostBinding} {committed : Journals × Json}
    (done : insertBinding journals attemptId claim row = .ok committed) :
    ∃ later, journals.bindings.insert row = some later ∧
      committed = ({ journals with bindings := later }, captured attemptId) := by
  unfold insertBinding at done
  split at done
  · cases done
  · split at done
    · cases done
    · split at done
      · cases done
      · next later inserted => exact ⟨later, inserted, (Except.ok.inj done).symm⟩

/-- What `capture` commits is sound. -/
theorem capture_sound {setup : Setup} {journals after : Journals}
    {peerUid : Nat} {request : Json} {world : World} (sound : journals.Sound)
    (timely : world.Timely)
    (committed : after ∈ (Outcome.single (capture setup.config setup.witnesses
      journals peerUid request world)).commits) : after.Sound := by
  cases done : capture setup.config setup.witnesses journals peerUid request
      world with
  | error failure =>
      rw [done] at committed
      cases committed
  | ok result =>
      rw [done] at committed
      obtain ⟨attemptId, claim, fenceEpoch, witness, attempt, found, epoch,
        positive, inserting⟩ := capture_ok done
      obtain ⟨later, inserted, rfl⟩ := insertBinding_ok inserting
      rw [List.mem_singleton.mp committed]
      obtain ⟨admits, rows⟩ := CheckedTable.insert_eq inserted
      refine ⟨sound.claims, ?_, sound.probes, sound.intents⟩
      intro row member
      change row ∈ later.rows at member
      rw [rows] at member
      rcases List.mem_append.mp member with old | new
      · exact sound.bindings row old
      · rw [List.mem_singleton.mp new]
        have identified := claim_identified sound found
        exact ⟨bindingOf_valid attempt identified positive
          admits.check.capturedMs (timely 0), claim, found, rfl, rfl, epoch⟩

theorem insertProbe_ok {journals later : Journals} {attemptId : String}
    {claim : LocalClaim} {row : ProbeEvent}
    (done : insertProbe journals attemptId claim row = .ok later) :
    ∃ probes, journals.probes.insert row = some probes ∧
      later = { journals with probes := probes } := by
  unfold insertProbe at done
  split at done
  · cases done
  · split at done
    · cases done
    · split at done
      · cases done
      · next probes inserted =>
          exact ⟨probes, inserted, (Except.ok.inj done).symm⟩

/-- One more row keeps the journals sound. -/
theorem insertProbe_sound {journals later : Journals} {attemptId : String}
    {claim : LocalClaim} {row : ProbeEvent} (sound : journals.Sound)
    (done : insertProbe journals attemptId claim row = .ok later)
    (valid : row.Check → row.valid)
    (owns : Owns journals.claims row.attemptId row.owner)
    (intended : row.sequence = 2 → ∃ first ∈ journals.probes.rows,
      first.attemptId = row.attemptId ∧ first.sequence = 1) :
    later.Sound ∧ row ∈ later.probes.rows ∧
      later.claims = journals.claims := by
  obtain ⟨probes, inserted, rfl⟩ := insertProbe_ok done
  obtain ⟨admits, rows⟩ := CheckedTable.insert_eq inserted
  have member : ∀ other, other ∈ probes.rows ↔
      other ∈ journals.probes.rows ∨ other = row := by
    intro other
    rw [rows, List.mem_append, List.mem_singleton]
  refine ⟨⟨sound.claims, sound.bindings, ?_, ?_⟩,
    (member row).mpr (Or.inr rfl), rfl⟩
  · intro other inTable
    rcases (member other).mp inTable with old | rfl
    · exact sound.probes other old
    · exact ⟨valid admits.check, owns⟩
  · intro other inTable second
    have earlier : ∃ first ∈ journals.probes.rows,
        first.attemptId = other.attemptId ∧ first.sequence = 1 := by
      rcases (member other).mp inTable with old | rfl
      · exact sound.intents other old second
      · exact intended second
    obtain ⟨first, inOld, same⟩ := earlier
    exact ⟨first, (member first).mpr (Or.inl inOld), same⟩

theorem beginSpawn_ok {config : Config} {journals intended : Journals}
    {peerUid : Nat} {request : Json} {world : World} {attemptId : String}
    {claim : LocalClaim} {fenceEpoch : Nat}
    (begun : beginSpawn config journals peerUid request world =
      .ok (attemptId, claim, fenceEpoch, intended)) :
    isBrokerId attemptId ∧ journals.claims.claim? attemptId = some claim ∧
      claim.fenceEpoch = some fenceEpoch ∧ positive fenceEpoch ∧
      insertProbe journals attemptId claim (intentOf attemptId claim
        fenceEpoch (world.clock 0)) = .ok intended := by
  obtain ⟨attempt, named, more⟩ := ok_of_bind begun
  obtain ⟨row, granted, more⟩ := ok_of_bind more
  obtain ⟨epoch, confirmed, more⟩ := ok_of_bind more
  have known := confirmedEpoch_ok confirmed
  split at more
  · cases more
  · split at more
    · cases more
    · obtain ⟨_, _, more⟩ := ok_of_bind more
      obtain ⟨later, inserted, more⟩ := ok_of_bind more
      cases more
      exact ⟨readAttempt_id (call_ok named),
        (authorized_claim (call_ok granted)).1, known.1, known.2, inserted⟩

theorem intentOf_valid {attemptId : String} {claim : LocalClaim}
    {fenceEpoch : Nat} {eventMs : Int} (attempt : isBrokerId attemptId)
    (identified : isBrokerId claim.leaseId ∧ isBrokerId claim.workerId)
    (epoch : positive fenceEpoch) (timely : eventMs ≤ maxSafeInteger)
    (check : (intentOf attemptId claim fenceEpoch eventMs).Check) :
    (intentOf attemptId claim fenceEpoch eventMs).valid := by
  have late : 0 < eventMs := check.eventMs
  simp only [ProbeEvent.valid, intentOf, attempt, identified.1, identified.2,
    epoch, Bool.and_self]
  simp [positive, late, timely]

theorem observedOf_valid {attemptId : String} {claim : LocalClaim}
    {fenceEpoch : Nat} {identity : HostIdentity} {eventMs : Int}
    (attempt : isBrokerId attemptId)
    (identified : isBrokerId claim.leaseId ∧ isBrokerId claim.workerId)
    (epoch : positive fenceEpoch) (timely : eventMs ≤ maxSafeInteger)
    (seen : identity.valid)
    (check : (observedOf attemptId claim fenceEpoch identity eventMs).Check) :
    (observedOf attemptId claim fenceEpoch identity eventMs).valid := by
  have late : 0 < eventMs := check.eventMs
  simp only [ProbeEvent.valid, observedOf, attempt, identified.1, identified.2,
    epoch, Bool.and_self]
  simp [positive, late, timely, seen]

theorem readChild_ok {moments : Nat → Procfs} {pid : Int}
    {identity : HostIdentity} (read : readChild moments pid = .ok identity) :
    identity.pid = pid ∧
      procIdentity (moments 1) pid = .ok identity.startTicks ∧
        cgroupV2 (moments 2) pid = .ok identity.cgroupV2 := by
  obtain ⟨boot, _, more⟩ := ok_of_bind read
  obtain ⟨birth, born, more⟩ := ok_of_bind more
  obtain ⟨cgroup, placed, more⟩ := ok_of_bind more
  cases more
  exact ⟨rfl, born, placed⟩

/-- A child that was present has an identity that a start accepts, if the
kernel's answers are within the bounds. -/
theorem readChild_valid {world : World} {pid : Int} {identity : HostIdentity}
    (modest : world.Modest) (started : world.child = some pid)
    (read : readChild world.moments pid = .ok identity)
    (present : inspectProcfs (fun reading => world.moments (reading + 3))
      identity = (.present, .identityPresent)) : identity.valid := by
  obtain ⟨rfl, _, placed⟩ := readChild_ok read
  obtain ⟨boot, _, _⟩ := inspectProcfs_present (congrArg Prod.fst present)
  obtain ⟨slash, single⟩ := cgroupV2_ok placed
  obtain ⟨⟨least, most⟩, ticks, short, clean⟩ :=
    modest _ started identity read present
  simp only [HostIdentity.valid, boot, ticks, cgroupOk, slash]
  simp [least, most, short, clean, single]

/-- When the second row of `spawn` is committed. -/
theorem finishSpawn_iff {journals recorded : Journals} {attemptId : String}
    {claim : LocalClaim} {fenceEpoch : Nat} {world : World} :
    finishSpawn journals attemptId claim fenceEpoch world = some recorded ↔
      ∃ pid identity, world.child = some pid ∧
        readChild world.moments pid = .ok identity ∧
        inspectProcfs (fun reading => world.moments (reading + 3)) identity =
          (.present, .identityPresent) ∧
        insertProbe journals attemptId claim (observedOf attemptId claim
          fenceEpoch identity (world.clock 1)) = .ok recorded := by
  constructor
  · intro finished
    obtain ⟨pid, started, more⟩ := Option.bind_eq_some_iff.mp finished
    obtain ⟨identity, read, more⟩ := Option.bind_eq_some_iff.mp more
    split at more
    · cases more
    · next present =>
        exact ⟨pid, identity, started, toOption_ok read, not_not.mp present,
          toOption_ok more⟩
  · rintro ⟨pid, identity, started, read, present, recording⟩
    apply Option.bind_eq_some_iff.mpr
    refine ⟨pid, started, Option.bind_eq_some_iff.mpr ⟨identity, ?_, ?_⟩⟩
    · rw [read]
      rfl
    · rw [if_neg (not_not.mpr present), recording]
      rfl

/-- Whatever `spawn` commits is sound. -/
theorem spawn_sound {setup : Setup} {journals after : Journals}
    {peerUid : Nat} {request : Json} {world : World} (sound : journals.Sound)
    (timely : world.Timely) (modest : world.Modest)
    (committed : after ∈
      (spawn setup.config journals peerUid request world).commits) :
    after.Sound := by
  unfold spawn at committed
  split at committed
  · cases committed
  · next attemptId claim fenceEpoch intended begun =>
      obtain ⟨attempt, found, epoch, positive, inserting⟩ := beginSpawn_ok begun
      have identified := claim_identified sound found
      have owns : Owns journals.claims attemptId
          (claim.leaseId, claim.workerId, fenceEpoch) :=
        ⟨claim, found, rfl, rfl, epoch⟩
      obtain ⟨first, inTable, same⟩ := insertProbe_sound sound inserting
        (intentOf_valid attempt identified positive (timely 0)) owns
        (fun second => nomatch second)
      split at committed
      · rw [List.mem_singleton.mp committed]
        exact first
      · next recorded finished =>
          rcases List.mem_cons.mp committed with rfl | last
          · exact first
          · rw [List.mem_singleton.mp last]
            obtain ⟨pid, identity, started, read, present, recording⟩ :=
              finishSpawn_iff.mp finished
            have seen := readChild_valid modest started read present
            exact (insertProbe_sound first recording
              (observedOf_valid attempt identified positive (timely 1) seen)
              (same ▸ owns) (fun _ => ⟨_, inTable, rfl, rfl⟩)).1

theorem Act.sound {journals after : Journals} {act : Act}
    (sound : journals.Sound) (fits : act.Fits)
    (committed : after ∈ act.commits journals) : after.Sound := by
  cases act with
  | reserve => exact reserve_sound sound committed
  | capture => exact capture_sound sound fits committed
  | spawn => exact spawn_sound sound fits.1 fits.2 committed
  | restart =>
      rw [List.mem_singleton.mp committed]
      exact sound.quarantine

/-- Every state that a run of fitting acts reaches is sound. -/
theorem runs_sound {events : List (Act × Nat)} {journals : Journals}
    (run : machine.Runs (fun _ event => event.1.Fits) events journals) :
    journals.Sound := by
  refine run.invariant (fun _ state => state.Sound) sound_empty ?_
  intro _ _ event after _ sound fits taken
  exact Act.sound sound fits (List.mem_of_getElem? taken)

/-! ## Starts -/

theorem claimed_of_owns {claims : Journal} {attemptId : String}
    {row : ProbeEvent} (owns : Owns claims attemptId row.owner) :
    (claims.claim? attemptId).any row.claimed := by
  obtain ⟨claim, found, lease, worker, epoch⟩ := owns
  rw [found]
  simp only [Option.any_some, ProbeEvent.claimed, lease, worker, epoch,
    ProbeEvent.owner, decide_true, Bool.and_self]

theorem owner_of_owns {claims : Journal} {attemptId : String}
    {first second : String × String × Nat}
    (one : Owns claims attemptId first) (two : Owns claims attemptId second) :
    first = second := by
  obtain ⟨claim, found, lease, worker, epoch⟩ := one
  obtain ⟨other, same, otherLease, otherWorker, otherEpoch⟩ := two
  rw [found] at same
  cases same
  have epochs := epoch.symm.trans otherEpoch
  exact Prod.ext (lease.symm.trans otherLease)
    (Prod.ext (worker.symm.trans otherWorker) (Option.some.inj epochs))

theorem Journals.Sound.reloadBindings {journals : Journals}
    (sound : journals.Sound) :
    HostJournals.reloadBindings journals = .ok () := by
  unfold HostJournals.reloadBindings
  rw [if_pos]
  rw [List.all_eq_true]
  intro row member
  obtain ⟨valid, claim, found, lease, worker, epoch⟩ :=
    sound.bindings row member
  rw [found]
  simp [valid, lease, worker, epoch, HostBinding.owner]

theorem mem_rowsOf {probes : ProbeTable} {attemptId : String}
    {row : ProbeEvent} : row ∈ rowsOf probes attemptId ↔
      row ∈ probes.rows ∧ row.attemptId = attemptId := by
  unfold rowsOf
  rw [List.mem_mergeSort, List.mem_filter, decide_eq_true_eq]

/-- The rows of an attempt come in strictly increasing sequence. -/
theorem rowsOf_increasing (probes : ProbeTable) (attemptId : String) :
    (rowsOf probes attemptId).Pairwise (fun left right =>
      left.sequence < right.sequence) := by
  have sorted : (rowsOf probes attemptId).Pairwise (fun left right =>
      decide (left.sequence ≤ right.sequence) = true) := by
    apply List.pairwise_mergeSort
    · intro left middle right first second
      simp only [decide_eq_true_eq] at first second ⊢
      omega
    · intro left right
      simp only [Bool.or_eq_true, decide_eq_true_eq]
      omega
  have distinct : (rowsOf probes attemptId).Nodup :=
    ((List.mergeSort_perm _ _).nodup_iff).mpr
      ((List.Nodup.of_map _ probes.keyed).filter _)
  apply (sorted.and distinct).imp_of_mem
  intro left right inLeft inRight ⟨order, different⟩
  have leftRow := mem_rowsOf.mp inLeft
  have rightRow := mem_rowsOf.mp inRight
  apply lt_of_le_of_ne (of_decide_eq_true order)
  intro same
  apply different
  exact CheckedTable.eq_of_key leftRow.1 rightRow.1
    (Prod.ext (leftRow.2.trans rightRow.2.symm) same)

theorem ProbeEvent.sequence_cases {probes : ProbeTable} {row : ProbeEvent}
    (member : row ∈ probes.rows) : row.sequence = 1 ∨ row.sequence = 2 :=
  (probes.checked row member).kind.imp And.left And.left

/-- Every attempt with rows has an intent among them. -/
theorem Journals.Sound.intended {journals : Journals} {row : ProbeEvent}
    (sound : journals.Sound) (member : row ∈ journals.probes.rows) :
    ∃ first ∈ rowsOf journals.probes row.attemptId, first.sequence = 1 := by
  rcases ProbeEvent.sequence_cases member with one | two
  · exact ⟨row, mem_rowsOf.mpr ⟨member, rfl⟩, one⟩
  · obtain ⟨first, inTable, same, one⟩ := sound.intents row member two
    exact ⟨first, mem_rowsOf.mpr ⟨inTable, same⟩, one⟩

/-- The rows of every attempt are an intent, or an intent and its child. -/
theorem Journals.Sound.coherent {journals : Journals} {row : ProbeEvent}
    (sound : journals.Sound) (member : row ∈ journals.probes.rows) :
    HostJournals.coherent (journals.claims.claim? row.attemptId)
      (rowsOf journals.probes row.attemptId) := by
  have increasing := rowsOf_increasing journals.probes row.attemptId
  have intended := sound.intended member
  have known : ∀ other ∈ rowsOf journals.probes row.attemptId,
      (other.sequence = 1 ∨ other.sequence = 2) ∧
        Owns journals.claims row.attemptId other.owner := by
    intro other inRows
    obtain ⟨inTable, same⟩ := mem_rowsOf.mp inRows
    exact ⟨ProbeEvent.sequence_cases inTable,
      same ▸ (sound.probes other inTable).2⟩
  generalize rowsOf journals.probes row.attemptId = rows at *
  rcases rows with _ | ⟨first, _ | ⟨second, _ | ⟨third, more⟩⟩⟩
  · obtain ⟨_, none, _⟩ := intended
    cases none
  · obtain ⟨only, inRows, one⟩ := intended
    rw [List.mem_singleton.mp inRows] at one
    have owns := (known first List.mem_cons_self).2
    simp only [HostJournals.coherent, one, claimed_of_owns owns, decide_true,
      Bool.and_self]
  · obtain ⟨firstSequence, firstOwns⟩ := known first List.mem_cons_self
    obtain ⟨secondSequence, secondOwns⟩ := known second (by simp)
    have order : first.sequence < second.sequence :=
      List.rel_of_pairwise_cons increasing List.mem_cons_self
    have one : first.sequence = 1 := by omega
    have two : second.sequence = 2 := by omega
    simp only [HostJournals.coherent, one, two, claimed_of_owns firstOwns,
      owner_of_owns firstOwns secondOwns, decide_true, Bool.and_self]
  · -- Three sequences cannot increase between 1 and 2.
    have low := (known first List.mem_cons_self).1
    have high := (known third (by simp)).1
    have order : first.sequence < second.sequence :=
      List.rel_of_pairwise_cons increasing List.mem_cons_self
    have next : second.sequence < third.sequence :=
      List.rel_of_pairwise_cons (List.pairwise_cons.mp increasing).2
        List.mem_cons_self
    omega

theorem Journals.Sound.reloadProbes {journals : Journals}
    (sound : journals.Sound) :
    HostJournals.reloadProbes journals = .ok () := by
  unfold HostJournals.reloadProbes
  rw [if_pos]
  rw [Bool.and_eq_true, List.all_eq_true, List.all_eq_true]
  constructor
  · intro row member
    exact (sound.probes row member).1
  · intro row member
    exact sound.coherent member

theorem Journals.Sound.restart {journals : Journals} (sound : journals.Sound) :
    HostJournals.restart journals = .ok journals.quarantine := by
  have quarantined := sound.quarantine
  simp only [HostJournals.restart, quarantined.reloadBindings,
    quarantined.reloadProbes]
  rfl

/-- A start never stops over what fitting acts have committed. -/
theorem journals_reload {events : List (Act × Nat)} {journals : Journals}
    (run : machine.Runs (fun _ event => event.1.Fits) events journals) :
    restart journals = .ok journals.quarantine :=
  (runs_sound run).restart

def sampleSetup : Setup where
  config := ⟨"worker", "token", [(1000, "worker")]⟩
  worker := by decide
  file := none
  witnesses := []
  read := rfl

/-- Five nested groups with names of 250 characters. -/
def deepPath : List Char :=
  (List.replicate 5 ('/' :: List.replicate 250 'a')).flatten

def sampleProcfs (path : List Char) : Procfs where
  bootId := .text "01234567-89ab-cdef-0123-456789abcdef\n"
  stat := fun _ => .text
    "41 (python3) S 1 2 3 4 5 6 7 8 9 10 11 12 13 14 15 16 17 18 4242 20"
  cgroup := fun _ => .text (String.ofList (['0', ':', ':'] ++ path))

def sampleReserveWorld : World where
  response := some ⟨201, 100, some (reservedBody ⟨"attempt", 7, false⟩)⟩
  moments := fun _ => sampleProcfs ['/']
  child := none
  clock := fun _ => 1

def sampleSpawnWorld (path : List Char) : World where
  response := some ⟨200, 100, some (.object [("result", .object [
    ("schemaVersion", .number 1), ("attemptId", .string "attempt"),
    ("disposition", .string "held"), ("fenceEpoch", .number 7),
    ("canLaunch", .bool false), ("canRelease", .bool false),
    ("evidenceVerified", .bool false)])])⟩
  moments := fun _ => sampleProcfs path
  child := some 41
  clock := fun _ => 2

def sampleReservation : Json :=
  .object [("subjectKind", .string "session"),
    ("subjectId", .string "session"), ("leaseId", .string "lease"),
    ("attemptId", .string "attempt")]

/-- A reservation, and a child in this group. -/
def sampleEvents (path : List Char) : List (Act × Nat) :=
  [(.reserve sampleSetup 1000 sampleReservation sampleReserveWorld, 1),
    (.spawn sampleSetup 1000 (attemptRequest "attempt")
      (sampleSpawnWorld path), 1)]

/-! ## Observations -/

/-- An answer about an attempt of the peer's own that allows nothing. -/
structure Advisory (config : Config) (journals : Journals) (peerUid : Nat)
    (request answer : Json) : Prop where
  owned : ∃ attemptId claim, readAttempt request = .ok attemptId ∧
    authorized config journals.claims peerUid attemptId = .ok claim ∧
      answer.field? "attemptId" = some (.string attemptId)
  launch : answer.field? "canLaunch" = some (.bool false)
  release : answer.field? "canRelease" = some (.bool false)
  advisory : answer.field? "advisoryOnly" = some (.bool true)

section Observations

variable {config : Config} {witnesses : List Witness} {journals : Journals}
  {peerUid : Nat} {request answer : Json} {world : World}

theorem advisory_authority
    (observed : observeAuthority config journals peerUid request world =
      .ok answer) : Advisory config journals peerUid request answer := by
  obtain ⟨⟨attemptId, seen⟩, asked, more⟩ := ok_of_bind observed
  cases more
  obtain ⟨named, read, asked⟩ := ok_of_bind (call_ok asked)
  obtain ⟨claim, granted, asked⟩ := ok_of_bind asked
  split at asked
  · cases asked
  · split at asked
    · cases asked
    · cases asked
      exact ⟨⟨attemptId, claim, read, granted, rfl⟩, rfl, rfl, rfl⟩

theorem advisory_host
    (observed : observeHost config witnesses journals peerUid request world =
      .ok answer) : Advisory config journals peerUid request answer := by
  obtain ⟨attemptId, read, more⟩ := ok_of_bind observed
  obtain ⟨claim, granted, more⟩ := ok_of_bind more
  cases more
  exact ⟨⟨attemptId, claim, call_ok read, call_ok granted, rfl⟩, rfl, rfl, rfl⟩

theorem advisory_bound
    (observed : observeBound config journals peerUid request world =
      .ok answer) : Advisory config journals peerUid request answer := by
  obtain ⟨attemptId, read, more⟩ := ok_of_bind observed
  obtain ⟨claim, granted, more⟩ := ok_of_bind more
  obtain ⟨seen, _, more⟩ := ok_of_bind more
  cases more
  exact ⟨⟨attemptId, claim, call_ok read, call_ok granted, rfl⟩, rfl, rfl, rfl⟩

theorem advisory_probe
    (observed : observeProbe config journals peerUid request world =
      .ok answer) : Advisory config journals peerUid request answer := by
  obtain ⟨attemptId, read, more⟩ := ok_of_bind observed
  obtain ⟨claim, granted, more⟩ := ok_of_bind more
  obtain ⟨seen, _, more⟩ := ok_of_bind more
  cases more
  exact ⟨⟨attemptId, claim, call_ok read, call_ok granted, rfl⟩, rfl, rfl, rfl⟩

/-- Whatever has been seen, and wherever, an observation allows nothing. -/
theorem observations_advisory
    (observed : .ok answer ∈
      [observeAuthority config journals peerUid request world,
        observeHost config witnesses journals peerUid request world,
        observeBound config journals peerUid request world,
        observeProbe config journals peerUid request world]) :
    Advisory config journals peerUid request answer := by
  simp only [List.mem_cons, List.not_mem_nil, or_false] at observed
  rcases observed with authority | host | bound | probe
  · exact advisory_authority authority.symm
  · exact advisory_host host.symm
  · exact advisory_bound bound.symm
  · exact advisory_probe probe.symm

end Observations

/-! ## A child in a deep group -/

/-- The reservation, and `spawn` up to its intent. -/
def sampleBegun : Option (String × LocalClaim × Nat × Journals) :=
  (machine.step .empty (.reserve sampleSetup 1000 sampleReservation
    sampleReserveWorld, 1)).bind (fun journals =>
      (beginSpawn sampleSetup.config journals 1000 (attemptRequest "attempt")
        (sampleSpawnWorld ['/'])).toOption)

def sampleClaim : LocalClaim :=
  ⟨"lease", "worker", some 7, .reserved⟩

def sampleBoot : String := "01234567-89ab-cdef-0123-456789abcdef"

/-- What the broker reads of the child. -/
def sampleChild (path : List Char) : HostIdentity :=
  ⟨sampleBoot, 41, 4242, String.ofList path⟩

theorem sampleBegun_tables :
    sampleBegun.any (fun begun => begun.1 = "attempt" &&
      begun.2.1 = sampleClaim && begun.2.2.1 = 7 &&
      begun.2.2.2.claims.claim? "attempt" = some sampleClaim &&
      begun.2.2.2.bindings.rows = [] &&
      begun.2.2.2.probes.rows = [intentOf "attempt" sampleClaim 7 2]) := by
  decide +kernel

theorem cgroupV2_sample {path : List Char} (slash : path.head? = some '/')
    (unbroken : ∀ c ∈ path, PythonText.isLineBreak c = false) (pid : Int) :
    cgroupV2 (sampleProcfs path) pid = .ok (String.ofList path) := by
  have line : PythonText.lines (['0', ':', ':'] ++ path) =
      [['0', ':', ':'] ++ path] := by
    apply PythonText.lines_single (by simp)
    intro c member
    rcases List.mem_append.mp member with inStart | inPath
    · simp only [List.mem_cons, List.not_mem_nil, or_false, or_self] at inStart
      rcases inStart with rfl | rfl <;> rfl
    · exact unbroken c inPath
  have only : unifiedPaths (['0', ':', ':'] ++ path) = [path] := by
    rw [unifiedPaths, line]
    simp
  simp only [cgroupV2, sampleProcfs, Reading.content, String.toList_ofList,
    only, slash, bind, Except.bind]
  rfl

theorem bootId_sample (path : List Char) :
    bootId (sampleProcfs path) = .ok sampleBoot := by
  have read : bootId (sampleProcfs ['/']) = .ok sampleBoot := by
    decide +kernel
  exact read

theorem procIdentity_sample (path : List Char) :
    procIdentity (sampleProcfs path) 41 = .ok 4242 := by
  have read : procIdentity (sampleProcfs ['/']) 41 = .ok 4242 := by
    decide +kernel
  exact read

section

variable {path : List Char} (slash : path.head? = some '/')
  (unbroken : ∀ c ∈ path, PythonText.isLineBreak c = false)

include slash unbroken

theorem readChild_sample :
    readChild (sampleSpawnWorld path).moments 41 = .ok (sampleChild path) := by
  simp only [readChild, sampleSpawnWorld, bootId_sample, procIdentity_sample,
    cgroupV2_sample slash unbroken, bind, Except.bind]
  rfl

theorem inspectProcfs_sample :
    inspectProcfs (fun reading =>
        (sampleSpawnWorld path).moments (reading + 3)) (sampleChild path) =
      (.present, .identityPresent) := by
  have wellFormed : isBootId sampleBoot = true := by decide +kernel
  have cgroup := cgroupV2_sample slash unbroken 41
  simp only [inspectProcfs, inspection, sampleSpawnWorld, sampleChild,
    bootId_sample, procIdentity_sample, cgroup, bind, Except.bind, wellFormed]
  simp [pure, Except.pure]

/-- The child is recorded, whatever the length of its path. -/
theorem finishSpawn_sample {journals : Journals}
    (claimed : journals.claims.claim? "attempt" = some sampleClaim)
    (intended : journals.probes.rows =
      [intentOf "attempt" sampleClaim 7 2]) :
    ∃ recorded, finishSpawn journals "attempt" sampleClaim 7
        (sampleSpawnWorld path) = some recorded ∧
      recorded.claims = journals.claims ∧
      recorded.bindings = journals.bindings ∧
      observedOf "attempt" sampleClaim 7 (sampleChild path) 2 ∈
        recorded.probes.rows := by
  have admits : journals.probes.Admits
      (observedOf "attempt" sampleClaim 7 (sampleChild path) 2) := by
    constructor
    · rw [intended]
      simp [intentOf, observedOf]
    · intro other _
      rw [intended]
      simp [intentOf]
    · exact ⟨Nat.zero_lt_succ 6, Int.natCast_pos.mpr (Nat.zero_lt_succ 1), Or.inr ⟨rfl, rfl, nofun⟩⟩
  refine ⟨{ journals with probes := journals.probes.append _ admits }, ?_, rfl,
    rfl, List.mem_append_right _ (List.mem_singleton_self _)⟩
  have inserted : insertProbe journals "attempt" sampleClaim
      (observedOf "attempt" sampleClaim 7 (sampleChild path) 2) =
        .ok { journals with probes := journals.probes.append _ admits } := by
    rw [insertProbe, if_neg (not_not.mpr claimed), if_neg,
      CheckedTable.insert, dif_pos admits]
    simp [observedOf, sampleChild, bindable]
  have present := inspectProcfs_sample slash unbroken
  have read := readChild_sample slash unbroken
  exact finishSpawn_iff.mpr ⟨41, _, rfl, read, present, inserted⟩

/-- The run comes to a state in which the child is recorded. -/
theorem play_sample :
    ∃ journals, machine.play (sampleEvents path) = some journals ∧
      journals.bindings.rows = [] ∧
      observedOf "attempt" sampleClaim 7 (sampleChild path) 2 ∈
        journals.probes.rows := by
  obtain ⟨⟨attemptId, claim, fenceEpoch, intended⟩, found, tables⟩ :=
    (Option.any_eq_true _ _).mp sampleBegun_tables
  simp only [Bool.and_eq_true, decide_eq_true_eq] at tables
  obtain ⟨⟨⟨⟨⟨rfl, rfl⟩, rfl⟩, claimed⟩, unbound⟩, rows⟩ := tables
  obtain ⟨before, taken, begun⟩ := Option.bind_eq_some_iff.mp found
  obtain ⟨recorded, finished, _, bindings, member⟩ :=
    finishSpawn_sample slash unbroken claimed rows
  refine ⟨recorded, ?_, bindings ▸ unbound, member⟩
  have spawns : spawn sampleSetup.config before 1000 (attemptRequest "attempt")
      (sampleSpawnWorld path) =
        ⟨[intended, recorded], .ok (spawned "attempt")⟩ := by
    have sameBegun : beginSpawn sampleSetup.config before 1000
        (attemptRequest "attempt") (sampleSpawnWorld path) =
          .ok ("attempt", sampleClaim, 7, intended) := toOption_ok begun
    rw [spawn, sameBegun]
    simp only [finished]
  have second : machine.step before (.spawn sampleSetup 1000
      (attemptRequest "attempt") (sampleSpawnWorld path), 1) =
        some recorded := by
    simp only [machine, Act.commits, spawns]
    rfl
  rw [Machine.play, sampleEvents, Machine.playFrom]
  change (machine.step .empty _).bind _ = _
  rw [taken, Option.bind_some, Machine.playFrom, second]
  rfl

end

theorem root_unbroken : ∀ c ∈ ['/'], PythonText.isLineBreak c = false := by
  intro c member
  rw [List.mem_singleton.mp member]
  rfl

theorem sampleEvents_fit : ∀ event ∈ sampleEvents ['/'], event.1.Fits := by
  intro event member
  rcases List.mem_cons.mp member with rfl | last
  · trivial
  · rw [List.mem_singleton.mp last]
    constructor
    · intro reading
      have small : (2 : Int) ≤ maxSafeInteger := by decide
      exact small
    · intro pid started identity read _
      cases started
      have child := @readChild_sample ['/'] rfl root_unbroken
      rw [child] at read
      cases read
      exact ⟨by decide, by decide, by decide⟩

theorem journals_reload_sample : ∃ journals,
    machine.Runs (fun _ event => event.1.Fits) (sampleEvents ['/']) journals ∧
      restart journals = .ok journals.quarantine := by
  obtain ⟨journals, played, _⟩ := @play_sample ['/'] rfl root_unbroken
  have run := Machine.runs_of_play
    (Machine.meets_of_forall (fun event member _ =>
      sampleEvents_fit event member) machine.initial) played
  exact ⟨journals, run, journals_reload run⟩

/-- A start stops over a row that is not valid. -/
theorem restart_corrupt {journals : Journals} {row : ProbeEvent}
    (unbound : journals.bindings.rows = [])
    (member : row ∈ journals.probes.rows) (invalid : row.valid = false) :
    restart journals = .error "broker_provenance_corrupt" := by
  have bound : reloadBindings journals.quarantine = .ok () := by
    simp [reloadBindings, Journals.quarantine, unbound]
  have corrupt : reloadProbes journals.quarantine =
      .error "broker_provenance_corrupt" := by
    rw [reloadProbes, if_neg]
    intro whole
    rw [Bool.and_eq_true, List.all_eq_true] at whole
    have valid := whole.1 row member
    rw [invalid] at valid
    cases valid
  simp only [restart, bound, corrupt]
  rfl

/-- The broker commits a child in any deep group, and does not read it. -/
theorem long_path_stops {path : List Char} (slash : path.head? = some '/')
    (unbroken : ∀ c ∈ path, PythonText.isLineBreak c = false)
    (long : 1024 < path.length) : ∃ journals,
      machine.Reaches (sampleEvents path) journals ∧
        restart journals = .error "broker_provenance_corrupt" := by
  obtain ⟨journals, played, unbound, member⟩ := play_sample slash unbroken
  have tooLong : cgroupOk (String.ofList path) = false := by
    have beyond : ¬(String.ofList path).length ≤ 1024 := by
      rw [String.length_ofList]
      exact not_le.mpr long
    simp only [cgroupOk, beyond, decide_false, Bool.and_false, Bool.false_and]
  refine ⟨journals, Machine.reaches_of_play played,
    restart_corrupt unbound member ?_⟩
  simp [ProbeEvent.valid, observedOf, sampleChild, HostIdentity.valid, tooLong]

theorem deepPath_mem {c : Char} (member : c ∈ deepPath) :
    c = '/' ∨ c = 'a' := by
  obtain ⟨part, inPath, member⟩ := List.mem_flatten.mp member
  rw [List.eq_of_mem_replicate inPath] at member
  rcases List.mem_cons.mp member with rfl | letters
  · exact Or.inl rfl
  · exact Or.inr (List.eq_of_mem_replicate letters)

theorem deepPath_length : deepPath.length = 1255 := by
  rw [deepPath, List.length_flatten, List.map_replicate, List.sum_replicate_nat,
    List.length_cons, List.length_replicate]

/-- Five nested groups are enough. -/
theorem deep_group_stops : ∃ journals,
    machine.Reaches (sampleEvents deepPath) journals ∧
      restart journals = .error "broker_provenance_corrupt" := by
  apply long_path_stops
  · rfl
  · intro c member
    rcases deepPath_mem member with rfl | rfl <;> rfl
  · rw [deepPath_length]
    decide

end HostJournals

end GpuLink
