import GpuLink.ControlPlane.Drain
import GpuLink.ControlPlane.Exclusivity
import GpuLink.Library.Regime

/-!
# Allocation under one lock

Leases are given out by scheduler passes and fences are raised by reservations,
and both hold the advisory lock while they do.  Here stands what the others
leave alone meanwhile, what a reservation does, and what every transaction has
established when it commits.
-/

namespace GpuLink

open Transactional Sql Postgres Scheduler

/-! ## What the lock protects -/

/-- Fences and attempts are as they were. -/
def FencesKept (key : RowKey) (before after : Kept key.Row) : Prop :=
  match key, before, after with
  | .fence _ _, before, after => after.row = before.row
  | .attempt _, before, after => after.row = before.row
  | _, _, _ => True

/-- No lease is given out, no workload is put on a GPU, no worker is taken
offline, and no fence is touched. -/
def Unplaced (key : RowKey) (before after : Kept key.Row) : Prop :=
  Calm key before after ∧ after.leases = before.leases ∧
    FencesKept key before after

theorem fencesKept_refl (key : RowKey) (kept : Kept key.Row) :
    FencesKept key kept kept := by
  cases key <;> first | rfl | trivial

theorem fencesKept_trans (key : RowKey) {a b c : Kept key.Row}
    (first : FencesKept key a b) (second : FencesKept key b c) :
    FencesKept key a c := by
  cases key <;> first | exact Eq.trans second first | trivial

theorem unplaced_refl (key : RowKey) (kept : Kept key.Row) :
    Unplaced key kept kept :=
  ⟨calm_refl key kept, rfl, fencesKept_refl key kept⟩

theorem unplaced_trans (key : RowKey) {a b c : Kept key.Row}
    (first : Unplaced key a b) (second : Unplaced key b c) :
    Unplaced key a c :=
  ⟨calm_trans key first.1 second.1, second.2.1.trans first.2.1,
    fencesKept_trans key first.2.2 second.2.2⟩

theorem fencesKept_of_move {allowed : Call → Prop}
    (others : ¬ allowed .reserved) {key : RowKey} {before after : Kept key.Row}
    (moved : KeptMove allowed key before after) :
    FencesKept key before after := by
  rcases moved with rfl | ⟨call, permitted, move, _⟩
  · exact fencesKept_refl key _
  cases key with
  | fence workerId gpuUuid =>
      have reserves : call = .reserved := by
        generalize before.row = old at move
        generalize after.row = new at move
        cases (move : FenceMove call old new) <;> rfl
      exact (others (reserves ▸ permitted)).elim
  | attempt id =>
      have reserves : call = .reserved := by
        generalize before.row = old at move
        generalize after.row = new at move
        cases (move : AttemptMove call old new)
        rfl
      exact (others (reserves ▸ permitted)).elim
  | _ => trivial

theorem leases_of_move {allowed : Call → Prop}
    (gives : ∀ call, allowed call → call.givesNothing) {key : RowKey}
    {before after : Kept key.Row} (moved : KeptMove allowed key before after) :
    after.leases = before.leases := by
  rcases moved with rfl | ⟨call, permitted, _, noted⟩
  · rfl
  · have nothing : call.leaseId = none := gives call permitted
    simp [Kept.leases, noted, List.filterMap_append, nothing]

/-- The calls that need no lock. -/
def Call.isFree (call : Call) : Prop :=
  call.isCalm ∧ call ≠ .reserved

theorem unplaced_of_moved {before after : Store}
    (moved : Moved Call.isFree before after) :
    Rowwise Unplaced before after := by
  intro key
  refine ⟨calm_of_move (moved.mono (fun _ free => free.1) key),
    leases_of_move ?_ (moved key),
    fencesKept_of_move (fun free => free.2 rfl) (moved key)⟩
  intro call free
  cases call <;> first | rfl | cases free.1

theorem Store.fence_of_kept {before after : Store}
    (kept : Rowwise FencesKept before after) (workerId : String)
    (gpuUuid : NonEmptyString) :
    after.fences.find? (workerId, gpuUuid) =
      before.fences.find? (workerId, gpuUuid) :=
  kept (.fence workerId gpuUuid)

theorem Store.attempt_of_kept {before after : Store}
    (kept : Rowwise FencesKept before after) (id : String) :
    after.attempts.find? id = before.attempts.find? id :=
  kept (.attempt id)

/-- The GPU of the worker is not fenced off. -/
def Store.FenceClear (store : Store) (workerId : String)
    (gpuUuid : NonEmptyString) : Prop :=
  ∀ fence, store.fences.find? (workerId, gpuUuid) = some fence →
    fence.safetyState = .clear

/-- Every attempt has its GPU fenced off, at most one of a GPU not
terminated. -/
structure Store.Guarded (store : Store) : Prop where
  fenced : ∀ id attempt, store.attempts.find? id = some attempt →
    ∃ fence,
      store.fences.find? (attempt.workerId, attempt.gpuUuid) = some fence ∧
        fence.safetyState ≠ .clear ∧ attempt.fenceEpoch ≤ fence.epoch
  sole : ∀ id other attempt rival, store.attempts.find? id = some attempt →
    store.attempts.find? other = some rival →
    attempt.workerId = rival.workerId → attempt.gpuUuid = rival.gpuUuid →
    attempt.status ≠ .terminated → rival.status ≠ .terminated → id = other

theorem Store.Guarded.kept {before after : Store}
    (kept : Rowwise FencesKept before after) (guarded : before.Guarded) :
    after.Guarded := by
  constructor
  · intro id attempt found
    rw [Store.attempt_of_kept kept] at found
    rw [Store.fence_of_kept kept]
    exact guarded.fenced id attempt found
  · intro id other attempt rival found otherFound
    rw [Store.attempt_of_kept kept] at found otherFound
    exact guarded.sole id other attempt rival found otherFound

theorem Store.guarded_empty : Store.empty.Guarded := by
  constructor
  · intro id attempt found
    cases found
  · intro id other attempt rival found
    cases found

/-! ## A reservation -/

/-- The epoch that the next reservation of the GPU gets. -/
def Store.nextEpoch (store : Store) (workerId : String)
    (gpuUuid : NonEmptyString) : Nat :=
  match store.fences.find? (workerId, gpuUuid) with
  | none => 1
  | some fence => fence.epoch + 1

/-- The fence that the claim raises. -/
def ExecutionClaim.fence (claim : ExecutionClaim) (epoch : Nat) : FenceRow where
  workerId := claim.workerId
  gpuUuid := claim.gpuUuid
  epoch := epoch
  safetyState := .reserved
  subjectKind := some claim.subjectKind
  subjectId := some claim.subjectId
  leaseId := some claim.leaseId
  attemptId := some claim.attemptId
  updatedAt := claim.now

/-- The attempt that the claim inserts. -/
def ExecutionClaim.attempt (claim : ExecutionClaim) (projectId : String)
    (epoch : Nat) : AttemptRow where
  attemptId := claim.attemptId
  subjectKind := claim.subjectKind
  subjectId := claim.subjectId
  projectId := projectId
  leaseId := claim.leaseId
  workerId := claim.workerId
  gpuUuid := claim.gpuUuid
  fenceEpoch := epoch
  artifactDigest := claim.artifactDigest
  adapterIdentity := claim.adapterIdentity
  runtimePolicyRevision := claim.runtimePolicyRevision
  approvalRef := claim.approvalRef
  status := .reserved
  createdAt := claim.now
  updatedAt := claim.now

/-- The two rows are written and nothing else. -/
def Store.reserve (store : Store) (claim : ExecutionClaim)
    (projectId : String) : Store :=
  (store.apply ⟨.fence (claim.fence
      (store.nextEpoch claim.workerId claim.gpuUuid)), some .reserved⟩).apply
    ⟨.attempt (claim.attempt projectId
      (store.nextEpoch claim.workerId claim.gpuUuid)), some .reserved⟩

/-- The claim was reserved: its worker and its owner are current, the GPU was
free and the attempt new. -/
structure ReservedFor (claim : ExecutionClaim) (before after : Store) :
    Prop where
  clear : before.FenceClear claim.workerId claim.gpuUuid
  fresh : before.attempts.find? claim.attemptId = none
  worker : ∃ row, before.workers.find? claim.workerId = some row ∧
    claim.workerAvailable row
  owner : ∃ workload, before.claimed claim = some workload ∧
    claim.ownedBy workload ∧ after = before.reserve claim workload.projectId

theorem Store.Guarded.absent {store : Store} (guarded : store.Guarded)
    {workerId : String} {gpuUuid : NonEmptyString}
    (clear : store.FenceClear workerId gpuUuid) {id : String}
    {attempt : AttemptRow} (found : store.attempts.find? id = some attempt) :
    ¬ (attempt.workerId = workerId ∧ attempt.gpuUuid = gpuUuid) := by
  rintro ⟨rfl, rfl⟩
  obtain ⟨fence, fenced, held, _⟩ := guarded.fenced id attempt found
  exact held (clear fence fenced)

theorem Store.reserve_fence (store : Store) (claim : ExecutionClaim)
    (projectId : String) :
    (store.reserve claim projectId).fences.find?
        (claim.workerId, claim.gpuUuid) =
      some (claim.fence (store.nextEpoch claim.workerId claim.gpuUuid)) := by
  have written := store.row?_apply_self ⟨.fence (claim.fence
    (store.nextEpoch claim.workerId claim.gpuUuid)), some .reserved⟩
  exact (Store.row?_apply_other _ (by simp [Write.key])).trans written

theorem Store.reserve_attempt (store : Store) (claim : ExecutionClaim)
    (projectId : String) :
    (store.reserve claim projectId).attempts.find? claim.attemptId =
      some (claim.attempt projectId
        (store.nextEpoch claim.workerId claim.gpuUuid)) :=
  Store.row?_apply_self _ ⟨.attempt (claim.attempt projectId
    (store.nextEpoch claim.workerId claim.gpuUuid)), some .reserved⟩

/-- Nothing else changes. -/
theorem Store.reserve_other (store : Store) (claim : ExecutionClaim)
    (projectId : String) {key : RowKey}
    (notFence : key ≠ .fence claim.workerId claim.gpuUuid)
    (notAttempt : key ≠ .attempt claim.attemptId) :
    (store.reserve claim projectId).get key = store.get key := by
  unfold Store.reserve
  have second : ∀ s : Store, (s.apply ⟨.attempt (claim.attempt projectId
      (store.nextEpoch claim.workerId claim.gpuUuid)), some .reserved⟩).get
        key = s.get key :=
    fun s => RowStore.get_apply_other (S := Store) s _ key notAttempt
  rw [second]
  exact RowStore.get_apply_other (S := Store) store _ key notFence

theorem Store.reserve_attempt_other (store : Store) (claim : ExecutionClaim)
    (projectId : String) {id : String} (other : id ≠ claim.attemptId) :
    (store.reserve claim projectId).attempts.find? id =
      store.attempts.find? id :=
  congrArg Kept.row (@Store.reserve_other store claim projectId (.attempt id)
    (by simp) (by simpa using other))

theorem ReservedFor.guarded {claim : ExecutionClaim} {before after : Store}
    (reserved : ReservedFor claim before after) (guarded : before.Guarded) :
    after.Guarded := by
  obtain ⟨workload, _, _, rfl⟩ := reserved.owner
  have absent := fun {id attempt} found =>
    @Store.Guarded.absent before guarded _ _ reserved.clear id attempt found
  constructor
  · intro id attempt found
    by_cases mine : id = claim.attemptId
    · subst mine
      rw [Store.reserve_attempt] at found
      cases found
      exact ⟨_, Store.reserve_fence _ _ _, nofun, Nat.le_refl _⟩
    · rw [Store.reserve_attempt_other _ _ _ mine] at found
      obtain ⟨fence, fenced, held⟩ := guarded.fenced id attempt found
      refine ⟨fence, ?_, held⟩
      have apart : RowKey.fence attempt.workerId attempt.gpuUuid ≠
          .fence claim.workerId claim.gpuUuid := by
        intro same
        exact absent found ⟨(RowKey.fence.inj same).1, (RowKey.fence.inj same).2⟩
      exact (congrArg Kept.row (before.reserve_other claim workload.projectId
        apart (by simp))).trans fenced
  · intro id other attempt rival found otherFound sameWorker sameGpu open₁ open₂
    by_cases mine : id = claim.attemptId
    · by_cases theirs : other = claim.attemptId
      · exact mine.trans theirs.symm
      · subst mine
        rw [Store.reserve_attempt] at found
        cases found
        rw [Store.reserve_attempt_other _ _ _ theirs] at otherFound
        exact (absent otherFound ⟨sameWorker.symm, sameGpu.symm⟩).elim
    · rw [Store.reserve_attempt_other _ _ _ mine] at found
      by_cases theirs : other = claim.attemptId
      · subst theirs
        rw [Store.reserve_attempt] at otherFound
        cases otherFound
        exact (absent found ⟨sameWorker, sameGpu⟩).elim
      · rw [Store.reserve_attempt_other _ _ _ theirs] at otherFound
        exact guarded.sole id other attempt rival found otherFound sameWorker
          sameGpu open₁ open₂

/-! ## The regime -/

/-- While the lock is held, the others place nothing and fence nothing. -/
def allocation : Regime Store where
  env held before after := held = true → Rowwise Unplaced before after
  Inv := Store.Guarded
  refl _ _ _ key := unplaced_refl key _
  trans first second held key :=
    unplaced_trans key (first held key) (second held key)

/-- Locks taken on rows as they stand. -/
def LocksHeld (store : Store) (log : List Write) : Prop :=
  ∀ write ∈ log, write.call = none ∧ store.row? write.key = write.left

theorem applyAll_of_locksHeld {store : Store} {log : List Write}
    (locks : LocksHeld store log) : applyAll store log = store := by
  induction log with
  | nil => rfl
  | cons write log induction =>
      obtain ⟨row, call⟩ := write
      obtain ⟨quiet, same⟩ := locks _ List.mem_cons_self
      cases quiet
      rw [applyAll_cons]
      have unchanged : RowStore.apply store (⟨row, none⟩ : Write) = store :=
        apply_lock same
      rw [unchanged]
      exact induction (fun other member =>
        locks other (List.mem_cons_of_mem _ member))

theorem LocksHeld.shifted {before after : Store} {log : List Write}
    (locks : LocksHeld before log) (kept : LocksKept log before after) :
    LocksHeld after log := by
  intro write member
  obtain ⟨quiet, same⟩ := locks write member
  exact ⟨quiet, (congrArg Kept.row (kept write member)).trans same⟩

theorem LocksHeld.append {store : Store} {log : List Write} {row : RowWrite}
    (locks : LocksHeld store log)
    (same : store.row? (Write.key ⟨row, none⟩) = Write.left ⟨row, none⟩) :
    LocksHeld store (log ++ [⟨row, none⟩]) := by
  intro write member
  rcases List.mem_append.mp member with old | new
  · exact locks write old
  · cases List.mem_singleton.mp new
    exact ⟨rfl, same⟩

/-- A `FOR UPDATE` lock, for the holder of the advisory lock. -/
theorem secures_lock {ρ β : Type} {wrap : ρ → RowWrite}
    {found : Store → Option ρ} {next : Option ρ → Tx β}
    {post : β → Bool → Store → List Write → Prop} {s : Store}
    {log : List Write} (locks : LocksHeld s log)
    (present : ∀ (store : Store) (row : ρ), found store = some row →
      store.row? (Write.key ⟨wrap row, none⟩) = Write.left ⟨wrap row, none⟩)
    (missing : ∀ s', allocation.Shift true log s s' → found s' = none →
      (next none).secures allocation true post s' log)
    (locked : ∀ s' row, allocation.Shift true log s s' →
      found s' = some row → LocksHeld s' (log ++ [⟨wrap row, none⟩]) →
      (next (some row)).secures allocation true post s'
        (log ++ [⟨wrap row, none⟩])) :
    ((query (selectForUpdate wrap found)).bind next).secures allocation true
      post s log := by
  intro s' shift input view answer effect accepted
  have held := locks.shifted shift.locks
  rw [applyAll_of_locksHeld held] at view
  unfold selectForUpdate update at accepted
  rw [view] at accepted
  split at accepted
  · rename_i absent
    cases accepted
    rw [List.append_nil]
    exact missing s' shift absent
  · rename_i row selected
    cases accepted
    exact locked s' row shift selected
      (held.append (present s' row selected))

/-- A read, for the holder of the advisory lock. -/
theorem secures_read {β γ : Type} {read : Store → Scan → γ} {next : γ → Tx β}
    {post : β → Bool → Store → List Write → Prop} {s : Store}
    {log : List Write} (locks : LocksHeld s log)
    (held : ∀ s' scan, allocation.Shift true log s s' →
      (next (read s' scan)).secures allocation true post s' log) :
    ((query (select read)).bind next).secures allocation true post s log := by
  intro s' shift input view answer effect accepted
  rw [applyAll_of_locksHeld (locks.shifted shift.locks)] at view
  cases accepted
  rw [view, List.append_nil]
  exact held s' input.order shift

/-! ## A reservation under the lock -/

/-- The row of the owner. -/
def ExecutionClaim.subject (claim : ExecutionClaim) : RowKey :=
  match claim.subjectKind with
  | .job => .job claim.subjectId
  | .session => .session claim.subjectId

theorem Store.claimed_congr {before after : Store} {claim : ExecutionClaim}
    (same : after.row? claim.subject = before.row? claim.subject) :
    after.claimed claim = before.claimed claim := by
  unfold ExecutionClaim.subject at same
  unfold Store.claimed
  cases kind : claim.subjectKind with
  | job =>
      rw [kind] at same
      exact congrArg (Option.map JobRow.workload) same
  | session =>
      rw [kind] at same
      exact congrArg (Option.map SessionRow.workload) same

theorem secures_lockOwner {β : Type} {claim : ExecutionClaim}
    {next : Option Workload → Tx β}
    {post : β → Bool → Store → List Write → Prop} {s : Store}
    {log : List Write} (locks : LocksHeld s log)
    (missing : ∀ s', allocation.Shift true log s s' →
      (next none).secures allocation true post s' log)
    (locked : ∀ s' workload write, allocation.Shift true log s s' →
      s'.claimed claim = some workload → write.key = claim.subject →
      LocksHeld s' (log ++ [write]) →
      (next (some workload)).secures allocation true post s'
        (log ++ [write])) :
    ((lockOwner claim).bind next).secures allocation true post s log := by
  apply Program.secures_bind
  unfold lockOwner
  cases kind : claim.subjectKind with
  | job =>
      apply secures_lock locks
      · intro store row found
        have atId : row.id = claim.subjectId := KeyedTable.key_of_find? found
        simp only [Write.key, Store.row?, Write.left, atId, found]
        rfl
      · intro s' shift _ s'' further
        exact missing s'' (shift.trans further)
      · intro s' row shift found held s'' further
        have atId : row.id = claim.subjectId := KeyedTable.key_of_find? found
        refine Program.secures_stable
          (locked s' row.workload _ shift ?_ ?_ held) further
        · simp [Store.claimed, kind, found]
        · simp [Write.key, ExecutionClaim.subject, kind, atId]
  | session =>
      apply secures_lock locks
      · intro store row found
        have atId : row.id = claim.subjectId := KeyedTable.key_of_find? found
        simp only [Write.key, Store.row?, Write.left, atId, found]
        rfl
      · intro s' shift _ s'' further
        exact missing s'' (shift.trans further)
      · intro s' row shift found held s'' further
        have atId : row.id = claim.subjectId := KeyedTable.key_of_find? found
        refine Program.secures_stable
          (locked s' row.workload _ shift ?_ ?_ held) further
        · simp [Store.claimed, kind, found]
        · simp [Write.key, ExecutionClaim.subject, kind, atId]

/-- The locks are held, the worker's row and the owner's among them. -/
structure Owned (claim : ExecutionClaim) (worker : WorkerRow)
    (workload : Workload) (store : Store) (log : List Write) : Prop where
  locks : LocksHeld store log
  worker : store.workers.find? claim.workerId = some worker
  owner : store.claimed claim = some workload
  workerLocked : ∃ write ∈ log, write.key = .worker claim.workerId
  ownerLocked : ∃ write ∈ log, write.key = claim.subject

theorem Owned.shifted {claim : ExecutionClaim} {worker : WorkerRow}
    {workload : Workload} {before after : Store} {log : List Write}
    (owned : Owned claim worker workload before log)
    (kept : LocksKept log before after) :
    Owned claim worker workload after log := by
  refine ⟨owned.locks.shifted kept, ?_, ?_, owned.workerLocked,
    owned.ownerLocked⟩
  · have same := congrArg Kept.row (kept.row owned.workerLocked)
    exact same.trans owned.worker
  · have same := congrArg Kept.row (kept.row owned.ownerLocked)
    exact (Store.claimed_congr same).trans owned.owner

theorem validateCurrentExecutionOwner_ok {claim : ExecutionClaim}
    {worker : Option WorkerRow} {workload : Option Workload} {owner : Workload}
    (valid : validateCurrentExecutionOwner claim worker workload = .ok owner) :
    (∃ row, worker = some row ∧ claim.workerAvailable row) ∧
      workload = some owner ∧ claim.ownedBy owner := by
  unfold validateCurrentExecutionOwner at valid
  split at valid
  · cases valid
  · rename_i row available
    split at valid
    · cases valid
    · rename_i workload owned
      cases valid
      obtain ⟨found, isAvailable⟩ := Option.filter_eq_some_iff.mp available
      obtain ⟨same, isOwned⟩ := Option.filter_eq_some_iff.mp owned
      exact ⟨⟨row, found, isAvailable⟩, same, isOwned⟩

/-- The fence is raised when none is held. -/
theorem reserveFence_ok {claim : ExecutionClaim} {input : Input Store Scan}
    {answer : Option FenceRow} {effect : Effect Write}
    (accepted : postgresReserveFence claim input = .ok (answer, effect)) :
    answer = none ∨
      (input.view.FenceClear claim.workerId claim.gpuUuid ∧
        answer = some (claim.fence
          (input.view.nextEpoch claim.workerId claim.gpuUuid)) ∧
        effect.writes = [⟨.fence (claim.fence
          (input.view.nextEpoch claim.workerId claim.gpuUuid)),
          some .reserved⟩]) := by
  have written := (referencing_ok accepted).1
  unfold upsert at written
  split at written
  · rename_i row found
    have found : input.view.fences.find? (claim.workerId, claim.gpuUuid) =
        some row := found
    split at written
    · rename_i meets
      cases written
      right
      have atKey : (row.workerId, row.gpuUuid) =
          (claim.workerId, claim.gpuUuid) :=
        @KeyedTable.key_of_find? _ _ _ _ input.view.fences _ _ found
      obtain ⟨atWorker, atGpu⟩ := Prod.mk.inj atKey
      refine ⟨?_, ?_, ?_⟩
      · intro fence fenced
        rw [found] at fenced
        cases fenced
        simpa using meets
      · simp [ExecutionClaim.fence, Store.nextEpoch, found, atWorker, atGpu]
      · simp [ExecutionClaim.fence, Store.nextEpoch, found, atWorker, atGpu]
    · cases written
      exact Or.inl rfl
  · rename_i absent
    have absent : input.view.fences.find? (claim.workerId, claim.gpuUuid) =
        none := absent
    simp only [Bool.false_eq_true, if_false] at written
    cases written
    right
    refine ⟨?_, ?_, ?_⟩
    · intro fence fenced
      rw [absent] at fenced
      cases fenced
    · simp [ExecutionClaim.fence, Store.nextEpoch, absent]
    · simp [ExecutionClaim.fence, Store.nextEpoch, absent]

theorem insertAttempt_ok {claim : ExecutionClaim} {projectId : String}
    {epoch : Nat} {input : Input Store Scan} {answer : AttemptRow}
    {effect : Effect Write}
    (accepted : postgresInsertAttempt claim projectId epoch input =
      .ok (answer, effect)) :
    input.view.attempts.find? claim.attemptId = none ∧
      effect.writes =
        [⟨.attempt (claim.attempt projectId epoch), some .reserved⟩] := by
  unfold postgresInsertAttempt Sql.insert at accepted
  split at accepted
  · cases accepted
  · rename_i untaken
    cases accepted
    simp only [Bool.or_eq_true, not_or] at untaken
    exact ⟨by simpa using untaken.1, rfl⟩

theorem Store.nextEpoch_congr {before after : Store} {workerId : String}
    {gpuUuid : NonEmptyString}
    (same : after.fences.find? (workerId, gpuUuid) =
      before.fences.find? (workerId, gpuUuid)) :
    after.nextEpoch workerId gpuUuid = before.nextEpoch workerId gpuUuid := by
  simp only [Store.nextEpoch, same]

/-- The two writes, once the owner is known and locked. -/
theorem reserveRows_secures {claim : ExecutionClaim} {worker : WorkerRow}
    {owner : Workload} {s : Store} {log : List Write}
    (owned : Owned claim worker owner s log)
    (available : claim.workerAvailable worker) (owns : claim.ownedBy owner) :
    ((query (postgresReserveFence claim)).bind (fun row =>
      match row with
      | none => throw (.claimDenied .resourceHeld)
      | some fence =>
          (query (postgresInsertAttempt claim owner.projectId fence.epoch)).bind
            (fun _ => .done (.ok ⟨claim.attemptId, fence.epoch, false⟩))) :
      Tx ReservedAttempt).secures allocation true
      (fun result held s log => held = true ∧
        ReservedFor claim s (applyAll s log) ∧
        result = ⟨claim.attemptId,
          s.nextEpoch claim.workerId claim.gpuUuid, false⟩) s log := by
  intro s₁ fenceShift input view answer effect accepted
  have first := owned.shifted fenceShift.locks
  rw [applyAll_of_locksHeld first.locks] at view
  rcases reserveFence_ok accepted with rfl | ⟨clear, rfl, writes⟩
  · trivial
  rw [view] at clear
  simp only [view] at writes ⊢
  intro s₂ attemptShift input' view' row effect' accepted'
  obtain ⟨untaken, inserts⟩ := insertAttempt_ok accepted'
  rw [writes] at attemptShift view'
  have second := first.shifted attemptShift.locks.of_append
  rw [applyAll_append, applyAll_of_locksHeld second.locks] at view'
  intro s₃ endShift
  rw [writes, inserts] at endShift ⊢
  -- the fence and the attempt are the transaction's own by now
  have third := second.shifted endShift.locks.of_append.of_append
  have fenceKept : s₃.fences.find? (claim.workerId, claim.gpuUuid) =
      s₁.fences.find? (claim.workerId, claim.gpuUuid) := by
    have earlier := congrArg Kept.row (attemptShift.locks.row
      (k := .fence claim.workerId claim.gpuUuid)
      ⟨_, List.mem_append_right _ List.mem_cons_self, rfl⟩)
    have later := congrArg Kept.row (endShift.locks.of_append.row
      (k := .fence claim.workerId claim.gpuUuid)
      ⟨_, List.mem_append_right _ List.mem_cons_self, rfl⟩)
    exact later.trans earlier
  have attemptKept : s₃.attempts.find? claim.attemptId =
      s₂.attempts.find? claim.attemptId :=
    congrArg Kept.row (endShift.locks.row (k := .attempt claim.attemptId)
      ⟨_, List.mem_append_right _ List.mem_cons_self, rfl⟩)
  have epoch := Store.nextEpoch_congr fenceKept
  refine ⟨rfl, ⟨?_, ?_, ⟨worker, third.worker, available⟩,
    ⟨owner, third.owner, owns, ?_⟩⟩, ?_⟩
  · intro fence found
    rw [fenceKept] at found
    exact clear fence found
  · rw [attemptKept]
    rw [view'] at untaken
    have untouched := @Store.row?_apply_other s₂ ⟨.fence (claim.fence
      (s₁.nextEpoch claim.workerId claim.gpuUuid)), some .reserved⟩
      (.attempt claim.attemptId) (by simp [Write.key])
    exact untouched.symm.trans untaken
  · rw [applyAll_append, applyAll_append, applyAll_of_locksHeld third.locks]
    unfold Store.reserve
    rw [epoch]
    rfl
  · rw [epoch]
    rfl

/-- Whoever reserves holds the lock and has done what the claim says. -/
theorem reserveExecutionAttempt_secures (claim : ExecutionClaim) (s : Store) :
    (postgresReserveExecutionAttempt claim).secures allocation false
      (fun result held s log => held = true ∧
        ReservedFor claim s (applyAll s log) ∧
        result = ⟨claim.attemptId,
          s.nextEpoch claim.workerId claim.gpuUuid, false⟩) s [] := by
  intro s₁ _
  refine ⟨?_, fun _ => trivial⟩
  have unlocked : ∀ store : Store, LocksHeld store [] :=
    fun store write member => nomatch member
  apply secures_lock (unlocked s₁)
  · intro store row found
    have atId : row.id = claim.workerId := KeyedTable.key_of_find? found
    simp only [Write.key, Store.row?, Write.left, atId, found]
    rfl
  · -- without a worker the claim is denied
    intro s₂ _ _
    exact secures_lockOwner (unlocked s₂) (fun _ _ => trivial)
      (fun _ _ _ _ _ _ _ => trivial)
  intro s₂ worker _ workerFound workerLocks
  have atWorker : worker.id = claim.workerId :=
    KeyedTable.key_of_find? workerFound
  apply secures_lockOwner workerLocks
  · intro s₃ _
    cases valid : validateCurrentExecutionOwner claim (some worker) none with
    | error denial => trivial
    | ok owner => cases (validateCurrentExecutionOwner_ok valid).2.1
  intro s₃ workload write ownerShift claimed atOwner locks
  cases valid : validateCurrentExecutionOwner claim (some worker)
      (some workload) with
  | error denial => trivial
  | ok owner =>
      obtain ⟨⟨_, ⟨⟩, available⟩, ⟨⟩, owns⟩ :=
        validateCurrentExecutionOwner_ok valid
      have workerLocked : ∃ write ∈ ([] ++ [(⟨.worker worker, none⟩ : Write)]),
          RowStore.key Store write = RowKey.worker claim.workerId :=
        ⟨_, List.mem_singleton_self _, congrArg RowKey.worker atWorker⟩
      have owned : Owned claim worker workload s₃
          ([] ++ [⟨.worker worker, none⟩] ++ [write]) := by
        refine ⟨locks, ?_, claimed, ?_, ?_⟩
        · exact (congrArg Kept.row (ownerShift.locks.row workerLocked)).trans
            workerFound
        · obtain ⟨lock, member, atKey⟩ := workerLocked
          exact ⟨lock, List.mem_append_left _ member, atKey⟩
        · exact ⟨write, List.mem_append_right _ (List.mem_singleton_self _),
            atOwner⟩
      apply secures_read locks
      intro s₄ scan readShift
      cases resourceConflict claim s₄ with
      | true => trivial
      | false =>
          exact reserveRows_secures (owned.shifted readShift.locks) available
            owns

end GpuLink
