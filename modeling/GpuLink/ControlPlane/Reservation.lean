import GpuLink.ControlPlane.FencedPass

/-!
# Reserving an execution attempt

A successful reservation raises the fence of the GPU by one epoch and inserts
one attempt, for a subject that occupies the GPU alone.  A reservation that
fails changes nothing, and no attempt is ever reserved twice.
-/

namespace GpuLink

open Transactional Sql Postgres

/-! ## The subject of a reservation -/

theorem ExecutionClaim.ownedBy_iff {claim : ExecutionClaim}
    {workload : Workload} :
    claim.ownedBy workload ↔ workload.active ∧
      workload.leaseId = some claim.leaseId ∧
      workload.assignedWorkerId = some claim.workerId ∧
      workload.assignedGpuUuid = some claim.gpuUuid ∧
      ∃ expires, workload.leaseExpiresAt = some expires ∧
        claim.now < expires := by
  unfold ExecutionClaim.ownedBy
  cases workload.leaseExpiresAt <;> simp [and_assoc]

/-- The owner of the lease occupies the GPU. -/
theorem Store.occupies_of_owned {store : Store} {claim : ExecutionClaim}
    {workload : Workload} (claimed : store.claimed claim = some workload)
    (owned : claim.ownedBy workload) :
    store.Occupies claim.subject (some claim.workerId)
      (some claim.gpuUuid) := by
  obtain ⟨active, _, worker, gpu, _⟩ := ExecutionClaim.ownedBy_iff.mp owned
  unfold Store.claimed at claimed
  unfold ExecutionClaim.subject
  cases kind : claim.subjectKind with
  | job =>
      rw [kind] at claimed
      obtain ⟨row, found, rfl⟩ := Option.map_eq_some_iff.mp claimed
      exact Store.occupies_job.mpr ⟨row, found, active, worker, gpu⟩
  | session =>
      rw [kind] at claimed
      obtain ⟨row, found, rfl⟩ := Option.map_eq_some_iff.mp claimed
      exact Store.occupies_session.mpr ⟨row, found, active, worker, gpu⟩

/-- What a successful reservation has done, `earlier` being any state of the run
up to it. -/
structure Reserved (claim : ExecutionClaim) (earlier before after : Store) :
    Prop where
  /-- The fence was clear and is the claim's now, one epoch higher. -/
  clear : before.FenceClear claim.workerId claim.gpuUuid
  fenced : after.fences.find? (claim.workerId, claim.gpuUuid) =
    some (claim.fence (before.nextEpoch claim.workerId claim.gpuUuid))
  /-- The attempt was never there and is now, with that epoch. -/
  fresh : earlier.attempts.find? claim.attemptId = none ∧
    before.attempts.find? claim.attemptId = none
  higher : ∀ id attempt, before.attempts.find? id = some attempt →
    attempt.workerId = claim.workerId → attempt.gpuUuid = claim.gpuUuid →
    attempt.fenceEpoch < before.nextEpoch claim.workerId claim.gpuUuid
  /-- The subject is the only occupant, under its current lease. -/
  owner : ∃ workload, after.claimed claim = some workload ∧
    claim.ownedBy workload ∧
    after.attempts.find? claim.attemptId =
      some (claim.attempt workload.projectId
        (before.nextEpoch claim.workerId claim.gpuUuid))
  sole : ∀ key workerId, after.Occupies key workerId (some claim.gpuUuid) →
    key = claim.subject ∧ workerId = some claim.workerId
  worker : ∃ row, after.workers.find? claim.workerId = some row ∧
    claim.workerAvailable row
  /-- No other row and no other history changes. -/
  others : ∀ key, key ≠ .fence claim.workerId claim.gpuUuid →
    key ≠ .attempt claim.attemptId → after.get key = before.get key

/-! ## Histories of fences and attempts -/

/-- Attempts stay as they were inserted. -/
def AttemptStays (key : RowKey) (before after : Kept key.Row) : Prop :=
  match key, before, after with
  | .attempt _, before, after => ∀ attempt : AttemptRow,
      before.row = some attempt → after.row = some attempt
  | _, _, _ => True

/-- A fence that changes gets a higher epoch. -/
def EpochGrows (key : RowKey) (before after : Kept key.Row) : Prop :=
  match key, before, after with
  | .fence _ _, before, after => ∀ fence : FenceRow, before.row = some fence →
      ∃ later : FenceRow, after.row = some later ∧
        (later = fence ∨ fence.epoch < later.epoch)
  | _, _, _ => True

theorem attemptStays_refl (key : RowKey) (kept : Kept key.Row) :
    AttemptStays key kept kept := by
  cases key with
  | attempt id => exact fun attempt found => found
  | _ => trivial

theorem attemptStays_trans (key : RowKey) {a b c : Kept key.Row}
    (first : AttemptStays key a b) (second : AttemptStays key b c) :
    AttemptStays key a c := by
  cases key with
  | attempt id => exact fun attempt found => second attempt (first attempt found)
  | _ => trivial

theorem attemptStays_of_move {key : RowKey} {before after : Kept key.Row}
    (moved : KeptMove (fun _ => True) key before after) :
    AttemptStays key before after := by
  rcases moved with rfl | ⟨call, _, move, _⟩
  · exact attemptStays_refl key _
  cases key with
  | attempt id =>
      intro attempt found
      obtain ⟨beforeRow, beforeCalls⟩ := before
      cases found
      generalize after.row = left at move ⊢
      cases (move : AttemptMove call (some attempt) left)
  | _ => trivial

theorem epochGrows_refl (key : RowKey) (kept : Kept key.Row) :
    EpochGrows key kept kept := by
  cases key with
  | fence => exact fun fence found => ⟨fence, found, Or.inl rfl⟩
  | _ => trivial

theorem epochGrows_trans (key : RowKey) {a b c : Kept key.Row}
    (first : EpochGrows key a b) (second : EpochGrows key b c) :
    EpochGrows key a c := by
  cases key with
  | fence =>
      intro fence found
      obtain ⟨middle, middleFound, grows⟩ := first fence found
      obtain ⟨later, laterFound, growsOn⟩ := second middle middleFound
      refine ⟨later, laterFound, ?_⟩
      rcases grows with rfl | higher
      · exact growsOn
      · rcases growsOn with rfl | higherStill
        · exact Or.inr higher
        · exact Or.inr (Nat.lt_trans higher higherStill)
  | _ => trivial

theorem epochGrows_of_move {key : RowKey} {before after : Kept key.Row}
    (moved : KeptMove (fun _ => True) key before after) :
    EpochGrows key before after := by
  rcases moved with rfl | ⟨call, _, move, _⟩
  · exact epochGrows_refl key _
  cases key with
  | fence workerId gpuUuid =>
      intro fence found
      obtain ⟨beforeRow, beforeCalls⟩ := before
      cases found
      generalize after.row = left at move ⊢
      cases (move : FenceMove call (some fence) left) with
      | reserved _ claim _ => exact ⟨_, rfl, Or.inr (Nat.lt_succ_self _)⟩
  | _ => trivial

/-- From one state of a run to a later one, attempts stay and epochs grow. -/
structure AttemptsGrow (earlier later : Store) : Prop where
  attempts : ∀ id attempt, earlier.attempts.find? id = some attempt →
    later.attempts.find? id = some attempt
  epochs : ∀ workerId gpuUuid fence,
    earlier.fences.find? (workerId, gpuUuid) = some fence →
    ∃ next, later.fences.find? (workerId, gpuUuid) = some next ∧
      (next = fence ∨ fence.epoch < next.epoch)

theorem CommittedThen.attemptsGrow {text : Collation} {store later : Store}
    (run : CommittedThen text store later) : AttemptsGrow store later where
  attempts id :=
    (run.rowwise attemptStays_refl attemptStays_trans
      (fun _ _ _ => attemptStays_of_move)).2 (.attempt id)
  epochs workerId gpuUuid :=
    (run.rowwise epochGrows_refl epochGrows_trans
      (fun _ _ _ => epochGrows_of_move)).2 (.fence workerId gpuUuid)

/-! ## The claim and its commit -/

theorem ReservedFor.reserved {claim : ExecutionClaim}
    {earlier before after : Store} (done : ReservedFor claim before after)
    (guarded : before.Guarded) (grows : AttemptsGrow earlier before)
    (exclusive : after.Exclusive) : Reserved claim earlier before after := by
  obtain ⟨workload, claimed, owned, rfl⟩ := done.owner
  have subjectKept : (before.reserve claim workload.projectId).get
      claim.subject = before.get claim.subject := by
    refine Store.reserve_other _ _ _ ?_ ?_ <;>
      · unfold ExecutionClaim.subject
        split <;> simp
  have stillClaimed :=
    (Store.claimed_congr (congrArg Kept.row subjectKept)).trans claimed
  have occupies := Store.occupies_of_owned stillClaimed owned
  refine ⟨done.clear, Store.reserve_fence _ _ _, ⟨?_, done.fresh⟩, ?_,
    ⟨workload, stillClaimed, owned, Store.reserve_attempt _ _ _⟩, ?_, ?_,
    fun key => Store.reserve_other _ _ _⟩
  · cases found : earlier.attempts.find? claim.attemptId with
    | none => rfl
    | some attempt =>
        have still := grows.attempts _ _ found
        rw [done.fresh] at still
        cases still
  · intro id attempt found sameWorker sameGpu
    exact (guarded.absent done.clear found ⟨sameWorker, sameGpu⟩).elim
  · intro key workerId other
    have same := exclusive key claim.subject workerId _ _ other occupies
    subst same
    have pair := Option.some.inj (other.symm.trans occupies)
    exact ⟨rfl, (Prod.mk.inj pair).1⟩
  · obtain ⟨row, found, available⟩ := done.worker
    have kept := Store.reserve_other before claim workload.projectId
      (show RowKey.worker claim.workerId ≠ _ by simp) (by simp)
    exact ⟨row, (congrArg Kept.row kept).trans found, available⟩

/-- A transaction that has failed. -/
def Failed (replicas : Replicas) (name : Nat) : Prop :=
  ∃ problem log, replicas.transactions name =
    some ⟨.done (.error problem), log⟩

theorem failed_step {text : Collation} {before after : Replicas} {name : Nat}
    (step : Cluster.Step (Service.Begins (postgres text)) before after)
    (failed : Failed before name) :
    Failed after name ∨
      (after.transactions name = none ∧ after.committed = before.committed) := by
  obtain ⟨problem, log, found⟩ := failed
  have stays : ∀ (other : Nat) opened, other ≠ name →
      ∀ cluster : Replicas, cluster.transactions = before.transactions →
        Failed (cluster.set other opened) name := by
    intro other opened different cluster same
    refine ⟨problem, log, ?_⟩
    rw [Cluster.set_transactions_other _ different.symm, same]
    exact found
  cases step with
  | begin other fresh begins =>
      refine Or.inl (stays other _ ?_ _ rfl)
      rintro rfl
      rw [found] at fresh
      cases fresh
  | exec other order here =>
      refine Or.inl (stays other _ ?_ _ rfl)
      rintro rfl
      rw [found] at here
      cases here
  | lock other here =>
      refine Or.inl (stays other _ ?_ _ rfl)
      rintro rfl
      rw [found] at here
      cases here
  | busy other holder here =>
      refine Or.inl (stays other _ ?_ _ rfl)
      rintro rfl
      rw [found] at here
      cases here
  | commit other here =>
      refine Or.inl (stays other _ ?_ _ rfl)
      rintro rfl
      rw [found] at here
      cases here
  | abort other here =>
      by_cases same : other = name
      · subst same
        exact Or.inr ⟨Cluster.set_transactions_self _ _ _, rfl⟩
      · exact Or.inl (stays other _ same _ rfl)

/-- `SqlitePersistence.transaction`: commit, or roll back. -/
inductive Database.Transacts (code : Tx Unit) :
    Database.State → Except TxError Unit → Database.State → Prop where
  | commit {state final : Database.State} :
      code.Runs state.1 state.2 (.ok ()) final.1 final.2 →
      Transacts code state (.ok ()) final
  | rollback {state left : Database.State} {problem : TxError} :
      code.Runs state.1 state.2 (.error problem) left.1 left.2 →
      Transacts code state (.error problem) state

/-- A transaction that fails changes no committed row: on SQLite it is rolled
back, on PostgreSQL it can only disappear, and what is committed changes by
the commit of a transaction that has succeeded. -/
structure FailuresChangeNothing (text : Collation) : Prop where
  sqlite : ∀ code state problem final,
    Database.Transacts code state (.error problem) final → final = state
  postgres : ∀ before after : Replicas,
    Cluster.Step (Service.Begins (postgres text)) before after →
    (∀ name, Failed before name → Failed after name ∨
      (after.transactions name = none ∧ after.committed = before.committed)) ∧
    (after.committed ≠ before.committed →
      ∃ name log, Cluster.Commits name log before after)

theorem failuresChangeNothing (text : Collation) :
    FailuresChangeNothing text where
  sqlite code state problem final transacted := by
    cases transacted
    rfl
  postgres before after step := by
    refine ⟨fun name => failed_step step, ?_⟩
    intro changed
    cases step with
    | @commit name log found => exact ⟨name, log, found, rfl⟩
    | _ => exact (changed rfl).elim

theorem Committed.guarded {text : Collation} {store : Store}
    (committed : Committed text store) : store.Guarded := by
  cases committed with
  | serial run => exact serialRun_guarded run
  | replicated run =>
      obtain ⟨origin, traced⟩ := Traced.of_steps run
      exact (Traced.secured (allocation_sound text) traced
        (Traced.secured_initial Store.guarded_empty)).invariant

theorem CommitOf.reserved {text : Collation} {work : Service.Transaction}
    {earlier before after : Store}
    (commit : CommitOf text work earlier before after)
    (reserves : work.isReservation) :
    ∃ claim, work.Reserves claim ∧ Reserved claim earlier before after := by
  obtain ⟨collation, settings, held, allocated, guarded⟩ := commit.allocated
  obtain ⟨claim, made, done⟩ :=
    allocated.reserved settings work reserves rfl
  exact ⟨claim, made, done.reserved guarded commit.before.attemptsGrow
    commit.after.last.exclusive_attended.1⟩

/-- Reservations in every run on either engine: what a successful one does,
what holds of the fences and attempts of every committed state, what only ever
grows, and that a failed one changes nothing. -/
theorem attempt_reservation (text : Collation) :
    (∀ (work : Service.Transaction) (earlier before after : Store),
      CommitOf text work earlier before after → work.isReservation →
      ∃ claim, work.Reserves claim ∧ Reserved claim earlier before after) ∧
    (∀ store, Committed text store → store.Guarded) ∧
    (∀ store later, CommittedThen text store later →
      AttemptsGrow store later) ∧
    FailuresChangeNothing text :=
  ⟨fun _ _ _ _ commit reserves => commit.reserved reserves,
    fun _ committed => committed.guarded, fun _ _ run => run.attemptsGrow,
    failuresChangeNothing text⟩

theorem attempt_reservation_sample :
    Reserved sampleClaim (Database.State.after sampleSubmission).1
        (Database.State.after samplePlacement).1
        (Database.State.after sampleReservation).1 ∧
      (Database.State.after sampleReservation).1.Guarded ∧
      AttemptsGrow (Database.State.after samplePlacement).1
        (Database.State.after sampleReservation).1 := by
  have commit := @commitOf_after sampleSubmission [.pass samplePass]
    (.request (.reserveAttempt sampleClaim)) Collation.binary
    (by decide +kernel) (by decide +kernel) (by decide +kernel)
  have facts := attempt_reservation Collation.binary
  refine ⟨?_, facts.2.1 _ commit.after.last, facts.2.2.1 _ _ commit.after⟩
  obtain ⟨claim, made, reserved⟩ := facts.1 _ _ _ _ commit rfl
  cases made
  exact reserved

end GpuLink
