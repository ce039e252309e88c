import GpuLink.ControlPlane.TransactionRules

/-!
# The SQLite engine runs as the PostgreSQL engine does

A transaction of the SQLite engine that commits is a run of the same
transaction on a PostgreSQL engine whose text compares by its bytes.  Most
methods are the same program; the recovery loops, the idempotent inserts and
the reservation are not.
-/

namespace GpuLink

open Transactional Sql

/-- Successful runs of the left program are runs of the right one. -/
def TxRelation.refines : TxRelation where
  rel := Program.Refines
  done _ := Program.Refines.refl _
  bind := Program.Refines.bind

theorem runs_select {β : Type} {read : Store → Scan → β} {s final : Store}
    {sequence last : Nat} {answer : β}
    (run : (query (select read)).Runs s sequence (.ok answer) final last) :
    ∃ scan, read s scan = answer ∧ s = final ∧ sequence = last := by
  obtain ⟨scan, effect, accepted, rfl, rfl⟩ := run.of_statement
  cases accepted
  exact ⟨scan, rfl, rfl, rfl⟩

/-! ## Recovery -/

section Recovery

variable (now : Int)

/-- The row that recovery leaves of an active job. -/
private def recoveredJobRow (row : JobRow) : JobRow :=
  { row with
    status := if row.maxAttempts ≤ row.attempt then .failed else .queued
    assignedWorkerId := none
    assignedGpuUuid := none
    leaseId := none
    leaseExpiresAt := none
    error := if row.maxAttempts ≤ row.attempt then some leaseExhausted else none
    updatedAt := now }

/-- The loop recovers each selected row once, in the order of the selection. -/
theorem recoverJobs_runs (offlineWorkerIds : List String) {rows : List JobRow}
    {s final : Store} {sequence last : Nat} {recovered : List RecoveredJob}
    (distinct : (rows.map JobRow.id).Nodup)
    (present : ∀ row ∈ rows, row ∈ s.jobs.rows ∧ row.isActive)
    (run : (Database.recoverJobs now offlineWorkerIds
      (rows.map Database.mapJob)).Runs s sequence (.ok recovered) final last) :
    recovered = rows.map (fun row =>
        ⟨Postgres.mapPostgresJob (recoveredJobRow now row),
          Postgres.recoveryCase offlineWorkerIds row.assignedWorkerId⟩) ∧
      final = applyAll s (rows.map (fun row =>
        (⟨.job (recoveredJobRow now row), some .recovered⟩ : Write))) ∧
      last = sequence := by
  induction rows generalizing s sequence recovered with
  | nil =>
      cases run
      exact ⟨rfl, rfl, rfl⟩
  | cons row rest induction =>
      simp only [List.map_cons, List.nodup_cons] at distinct
      obtain ⟨listed, active⟩ := present row List.mem_cons_self
      have found : s.jobWhere row.id JobRow.isActive = some row :=
        Store.jobWhere_eq_some.mpr ⟨KeyedTable.mem_rows_iff.mp listed, active⟩
      obtain ⟨updated, middle, between, first, second⟩ :=
        Program.Runs.of_bind run
      obtain ⟨scan, effect, accepted, rfl, rfl⟩ := first.of_statement
      simp only [update, Database.mapJob, found] at accepted
      cases accepted
      obtain ⟨later, middle, between, loop, ending⟩ :=
        Program.Runs.of_bind second
      cases ending
      have restPresent : ∀ other ∈ rest,
          other ∈ (RowStore.apply s (⟨.job (recoveredJobRow now row),
            some .recovered⟩ : Write) : Store).jobs.rows ∧ other.isActive := by
        intro other member
        obtain ⟨otherListed, otherActive⟩ :=
          present other (List.mem_cons_of_mem _ member)
        refine ⟨KeyedTable.mem_put_iff.mpr (Or.inr ⟨?_, otherListed⟩),
          otherActive⟩
        intro same
        exact distinct.1 (same ▸ List.mem_map_of_mem member)
      obtain ⟨rfl, rfl, rfl⟩ := induction distinct.2 restPresent loop
      exact ⟨rfl, rfl, rfl⟩

theorem selectJobs_filter (s : Store) (scan : Scan)
    (first second : JobRow → Bool) :
    (s.selectJobs scan first).filter second =
      s.selectJobs scan (fun row => first row && second row) := by
  simp only [Store.selectJobs, List.filter_filter, Bool.and_comm]

theorem recoverExpiredJobs_refines (offlineWorkerIds : List String) :
    (Database.recoverExpiredJobs now offlineWorkerIds).Refines
      (Postgres.postgresRecoverExpiredJobs now offlineWorkerIds) := by
  intro s sequence result final last run
  obtain ⟨active, middle, between, listing, loop⟩ := Program.Runs.of_bind run
  obtain ⟨rows, middle, between, selection, mapping⟩ :=
    Program.Runs.of_bind listing
  obtain ⟨scan, rfl, rfl, rfl⟩ := runs_select selection
  cases mapping
  rw [List.filter_map, selectJobs_filter] at loop
  obtain ⟨rfl, rfl, rfl⟩ := recoverJobs_runs now offlineWorkerIds
    (selectJobs_ids_nodup _ _ _)
    (fun row member => by
      obtain ⟨listed, meets⟩ := Store.mem_selectJobs.mp member
      exact ⟨listed, (Bool.and_eq_true_iff.mp meets).1⟩) loop
  refine Program.Runs.bind (Program.Runs.statement scan rfl) ?_
  simp only [List.map_map]
  exact Program.Runs.done _ _ _

/-- The row that recovery leaves of an occupying session. -/
private def recoveredSessionRow (row : SessionRow) : SessionRow :=
  { row with
    status :=
      if row.interruptionCount + 1 ≤ row.maxInterruptions then .requested
      else .interrupted
    interruptionCount := row.interruptionCount + 1
    assignedWorkerId := none
    assignedGpuUuid := none
    leaseId := none
    leaseExpiresAt := none
    updatedAt := now }

/-- The loop recovers each selected row once, in the order of the selection. -/
theorem recoverSessions_runs (offlineWorkerIds : List String)
    {rows : List SessionRow} {s final : Store} {sequence last : Nat}
    {recovered : List RecoveredSession}
    (distinct : (rows.map SessionRow.id).Nodup)
    (present : ∀ row ∈ rows, row ∈ s.sessions.rows ∧ row.isOccupying)
    (run : (Database.recoverSessions now offlineWorkerIds
      (rows.map Database.mapSession)).Runs s sequence (.ok recovered) final
      last) :
    recovered = rows.map (fun row =>
        ⟨Postgres.mapPostgresSession (recoveredSessionRow now row),
          Postgres.recoveryCase offlineWorkerIds row.assignedWorkerId,
          row.status⟩) ∧
      final = applyAll s (rows.map (fun row =>
        (⟨.session (recoveredSessionRow now row), some .recovered⟩ : Write))) ∧
      last = sequence := by
  induction rows generalizing s sequence recovered with
  | nil =>
      cases run
      exact ⟨rfl, rfl, rfl⟩
  | cons row rest induction =>
      simp only [List.map_cons, List.nodup_cons] at distinct
      obtain ⟨listed, active⟩ := present row List.mem_cons_self
      have found : s.sessionWhere row.id SessionRow.isOccupying = some row :=
        Store.sessionWhere_eq_some.mpr
          ⟨KeyedTable.mem_rows_iff.mp listed, active⟩
      obtain ⟨updated, middle, between, first, second⟩ :=
        Program.Runs.of_bind run
      obtain ⟨scan, effect, accepted, rfl, rfl⟩ := first.of_statement
      simp only [update, Database.mapSession, found] at accepted
      cases accepted
      obtain ⟨later, middle, between, loop, ending⟩ :=
        Program.Runs.of_bind second
      cases ending
      have restPresent : ∀ other ∈ rest,
          other ∈ (RowStore.apply s (⟨.session (recoveredSessionRow now row),
            some .recovered⟩ : Write) : Store).sessions.rows ∧
            other.isOccupying := by
        intro other member
        obtain ⟨otherListed, otherActive⟩ :=
          present other (List.mem_cons_of_mem _ member)
        refine ⟨KeyedTable.mem_put_iff.mpr (Or.inr ⟨?_, otherListed⟩),
          otherActive⟩
        intro same
        exact distinct.1 (same ▸ List.mem_map_of_mem member)
      obtain ⟨rfl, rfl, rfl⟩ := induction distinct.2 restPresent loop
      exact ⟨rfl, rfl, rfl⟩

/-- A scan that meets the occupying sessions first, the oldest of them first. -/
private def oldestFirstScan (scan : Scan) : Scan where
  workers := scan.workers
  jobs := scan.jobs
  sessions rows :=
    orderBy (oldestFirst Collation.binary)
        ((scan.sessions rows).filter SessionRow.isOccupying) ++
      (scan.sessions rows).filter (fun row => !row.isOccupying)
  workersPerm := scan.workersPerm
  jobsPerm := scan.jobsPerm
  sessionsPerm rows :=
    (((orderBy_perm _ _).append_right _).trans
      (List.filter_append_perm _ _)).trans (scan.sessionsPerm rows)

private theorem selectSessions_oldestFirst (s : Store) (scan : Scan)
    (guard : SessionRow → Bool) :
    s.selectSessions (oldestFirstScan scan)
        (fun row => row.isOccupying && guard row) =
      (orderBy (oldestFirst Collation.binary)
        (s.selectSessions scan SessionRow.isOccupying)).filter guard := by
  have occupying : ∀ row ∈ orderBy (oldestFirst Collation.binary)
      ((scan.sessions s.sessions.rows).filter SessionRow.isOccupying),
      (row.isOccupying && guard row) = guard row := by
    intro row member
    have meets := List.of_mem_filter (mem_orderBy.mp member)
    simp [meets]
  have others : ((scan.sessions s.sessions.rows).filter
      (fun row => !row.isOccupying)).filter
      (fun row => row.isOccupying && guard row) = [] := by
    rw [List.filter_filter]
    apply List.filter_eq_nil_iff.mpr
    intro row _
    cases row.isOccupying <;> simp
  simp only [Store.selectSessions, oldestFirstScan, List.filter_append, others,
    List.append_nil]
  exact List.filter_congr occupying

theorem recoverInterruptedSessions_refines (offlineWorkerIds : List String) :
    (Database.recoverInterruptedSessions now offlineWorkerIds).Refines
      (Postgres.postgresRecoverInterruptedSessions now offlineWorkerIds) := by
  intro s sequence result final last run
  obtain ⟨occupying, middle, between, listing, loop⟩ :=
    Program.Runs.of_bind run
  obtain ⟨rows, middle, between, selection, mapping⟩ :=
    Program.Runs.of_bind listing
  obtain ⟨scan, rfl, rfl, rfl⟩ := runs_select selection
  cases mapping
  rw [List.filter_map, ← selectSessions_oldestFirst] at loop
  obtain ⟨rfl, rfl, rfl⟩ := recoverSessions_runs now offlineWorkerIds
    (selectSessions_ids_nodup _ _ _)
    (fun row member => by
      obtain ⟨listed, meets⟩ := Store.mem_selectSessions.mp member
      exact ⟨listed, (Bool.and_eq_true_iff.mp meets).1⟩) loop
  refine Program.Runs.bind
    (Program.Runs.statement (oldestFirstScan scan) rfl) ?_
  simp only [List.map_map]
  exact Program.Runs.done _ _ _

end Recovery

/-! ## Inserts -/

section Inserts

variable {ρ : Type} {wrap : ρ → RowWrite} {keyTaken idTaken : Store → Bool}
  {row : ρ} {input : Input Store Scan}

theorem insertUnlessKeyTaken_taken (taken : keyTaken input.view = true) :
    Postgres.insertUnlessKeyTaken wrap keyTaken idTaken row input =
      .ok (none, ⟨[], 0⟩) := by
  simp [Postgres.insertUnlessKeyTaken, taken]

theorem insertUnlessKeyTaken_inserted (untaken : ¬ keyTaken input.view = true)
    (fresh : ¬ idTaken input.view = true) :
    Postgres.insertUnlessKeyTaken wrap keyTaken idTaken row input =
      .ok (some row, ⟨[⟨wrap row, some .inserted⟩], 0⟩) := by
  simp [Postgres.insertUnlessKeyTaken, untaken, fresh]

end Inserts

theorem insertJob_refines (job : JobRequest) :
    (Database.insertJob job).Refines (Postgres.postgresInsertJob job) := by
  intro s sequence result final last run
  obtain ⟨row, middle, between, first, second⟩ := Program.Runs.of_bind run
  obtain ⟨scan, effect, accepted, rfl, rfl⟩ := first.of_statement
  simp only [attempt, Sql.insert] at accepted
  by_cases keyTaken : s.jobKeyTaken job.projectId job.idempotencyKey = true
  · -- both engines answer with the row that has the key
    simp only [keyTaken, Bool.or_true, if_true] at accepted
    cases accepted
    refine Program.Runs.bind
      (Program.Runs.statement scan (insertUnlessKeyTaken_taken keyTaken)) ?_
    cases named : job.idempotencyKey with
    | none => simp [named, Store.jobKeyTaken] at keyTaken
    | some key =>
        simp only [named] at second ⊢
        obtain ⟨existing, middle, between, selection, ending⟩ :=
          Program.Runs.of_bind second
        obtain ⟨order, rfl, rfl, rfl⟩ := runs_select selection
        refine Program.Runs.bind (Program.Runs.statement order rfl) ?_
        cases found : s.jobByKey job.projectId key with
        | none => simp [named, found, Store.jobKeyTaken] at keyTaken
        | some row =>
            simp only [applyAll_nil, found] at ending ⊢
            cases ending
            exact .done _ _ _
  · simp only [keyTaken, Bool.or_false] at accepted
    by_cases idTaken : (s.jobs.find? job.id).isSome = true
    · -- a taken identifier alone makes the insert fail
      simp only [idTaken, if_true] at accepted
      cases accepted
      cases named : job.idempotencyKey with
      | none =>
          simp only [named] at second
          cases second
      | some key =>
          simp only [named] at second keyTaken
          obtain ⟨existing, middle, between, selection, ending⟩ :=
            Program.Runs.of_bind second
          obtain ⟨order, rfl, rfl, rfl⟩ := runs_select selection
          have absent : s.jobByKey job.projectId key = none := by
            simpa [Store.jobKeyTaken] using keyTaken
          simp only [applyAll_nil, absent] at ending
          cases ending
    · simp only [idTaken] at accepted
      cases accepted
      refine Program.Runs.bind
        (Program.Runs.statement scan
          (insertUnlessKeyTaken_inserted keyTaken idTaken)) ?_
      cases second
      exact .done _ _ _

theorem insertSession_refines (session : SessionRequest) :
    (Database.insertSession session).Refines (Postgres.postgresInsertSession session) := by
  intro s sequence result final last run
  obtain ⟨row, middle, between, first, second⟩ := Program.Runs.of_bind run
  obtain ⟨scan, effect, accepted, rfl, rfl⟩ := first.of_statement
  simp only [attempt, Sql.insert] at accepted
  by_cases keyTaken : s.sessionKeyTaken session.projectId session.idempotencyKey = true
  · -- both engines answer with the row that has the key
    simp only [keyTaken, Bool.or_true, if_true] at accepted
    cases accepted
    refine Program.Runs.bind
      (Program.Runs.statement scan (insertUnlessKeyTaken_taken keyTaken)) ?_
    cases named : session.idempotencyKey with
    | none => simp [named, Store.sessionKeyTaken] at keyTaken
    | some key =>
        simp only [named] at second ⊢
        obtain ⟨existing, middle, between, selection, ending⟩ :=
          Program.Runs.of_bind second
        obtain ⟨order, rfl, rfl, rfl⟩ := runs_select selection
        refine Program.Runs.bind (Program.Runs.statement order rfl) ?_
        cases found : s.sessionByKey session.projectId key with
        | none => simp [named, found, Store.sessionKeyTaken] at keyTaken
        | some row =>
            simp only [applyAll_nil, found] at ending ⊢
            cases ending
            exact .done _ _ _
  · simp only [keyTaken, Bool.or_false] at accepted
    by_cases idTaken : (s.sessions.find? session.id).isSome = true
    · -- a taken identifier alone makes the insert fail
      simp only [idTaken, if_true] at accepted
      cases accepted
      cases named : session.idempotencyKey with
      | none =>
          simp only [named] at second
          cases second
      | some key =>
          simp only [named] at second keyTaken
          obtain ⟨existing, middle, between, selection, ending⟩ :=
            Program.Runs.of_bind second
          obtain ⟨order, rfl, rfl, rfl⟩ := runs_select selection
          have absent : s.sessionByKey session.projectId key = none := by
            simpa [Store.sessionKeyTaken] using keyTaken
          simp only [applyAll_nil, absent] at ending
          cases ending
    · simp only [idTaken] at accepted
      cases accepted
      refine Program.Runs.bind
        (Program.Runs.statement scan
          (insertUnlessKeyTaken_inserted keyTaken idTaken)) ?_
      cases second
      exact .done _ _ _

/-! ## Events and reservations -/

theorem appendEvent_refines (type : String) (subjectId : Option String)
    (payload : Json) (now : Int) :
    (Database.appendEvent type subjectId payload now).Refines
      (Postgres.postgresAppendEvent type subjectId payload now) := by
  refine Program.Refines.bind (Program.Refines.refl _) (fun row => ?_)
  refine Program.Refines.bind (Program.Refines.refl _) (fun _ => ?_)
  intro s sequence result final last run
  cases run
  exact Program.Runs.bind (Program.Runs.statement Scan.stored rfl) (.done _ _ _)

theorem listBlockedGpuResources_refines :
    Database.listBlockedGpuResources.Refines
      (Postgres.postgresListBlockedGpuResources Collation.binary) := by
  intro s sequence result final last run
  obtain ⟨rows, middle, between, selection, ending⟩ := Program.Runs.of_bind run
  obtain ⟨scan, rfl, rfl, rfl⟩ := runs_select selection
  cases ending
  have locked := @applyAll_locks FenceRow .fence
    (orderBy (fenceOrder Collation.binary)
      (s.fences.rows.filter (fun row => row.safetyState ≠ .clear)))
    s (fun row member => KeyedTable.mem_rows_iff.mp
      (List.mem_of_mem_filter (mem_orderBy.mp member)))
  refine Program.Runs.bind (Program.Runs.statement scan rfl) ?_
  simp only [id_eq, List.map_map]
  rw [locked]
  exact Program.Runs.done _ _ _

/-- Locking a row answers with the row and leaves the store as it is. -/
theorem runs_selectForUpdate {ρ : Type} {wrap : ρ → RowWrite}
    {found : Store → Option ρ} {s : Store} {sequence : Nat}
    (present : ∀ row, found s = some row →
      s.row? (Write.key ⟨wrap row, none⟩) = Write.left ⟨wrap row, none⟩) :
    (query (Postgres.selectForUpdate wrap found)).Runs s sequence
      (.ok (found s)) s sequence := by
  cases selected : found s with
  | none =>
      have accepted : Postgres.selectForUpdate wrap found
          ⟨s, sequence, Scan.stored⟩ = .ok (none, ⟨[], 0⟩) := by
        simp [Postgres.selectForUpdate, update, selected]
      exact Program.Runs.statement Scan.stored accepted
  | some row =>
      have accepted : Postgres.selectForUpdate wrap found
          ⟨s, sequence, Scan.stored⟩ =
            .ok (some row, ⟨[⟨wrap row, none⟩], 0⟩) := by
        simp [Postgres.selectForUpdate, update, selected]
      have unchanged : applyAll s [(⟨wrap row, none⟩ : Write)] = s :=
        apply_lock (present row selected)
      have run := Program.Runs.statement Scan.stored accepted
      rwa [unchanged] at run

theorem runs_lockOwner (claim : ExecutionClaim) (s : Store) (sequence : Nat) :
    (Postgres.lockOwner claim).Runs s sequence
      (.ok (s.claimed claim)) s sequence := by
  unfold Postgres.lockOwner Store.claimed
  cases claim.subjectKind with
  | job =>
      refine Program.Runs.bind (runs_selectForUpdate ?_) (.done _ _ _)
      intro row found
      have atId : row.id = claim.subjectId := KeyedTable.key_of_find? found
      simp only [Write.key, Store.row?, Write.left, atId, found]
      rfl
  | session =>
      refine Program.Runs.bind (runs_selectForUpdate ?_) (.done _ _ _)
      intro row found
      have atId : row.id = claim.subjectId := KeyedTable.key_of_find? found
      simp only [Write.key, Store.row?, Write.left, atId, found]
      rfl

theorem reserveExecutionAttempt_refines (claim : ExecutionClaim) :
    (Database.reserveExecutionAttempt claim).Refines
      (Postgres.postgresReserveExecutionAttempt claim) := by
  intro s sequence result final last run
  obtain ⟨worker, middle, between, workerRun, run⟩ := Program.Runs.of_bind run
  obtain ⟨_, rfl, rfl, rfl⟩ := runs_select workerRun
  obtain ⟨workload, middle, between, workloadRun, run⟩ :=
    Program.Runs.of_bind run
  obtain ⟨_, rfl, rfl, rfl⟩ := runs_select workloadRun
  refine Program.Runs.bind (.tryLock (.done _ _ _)) ?_
  refine Program.Runs.bind (runs_selectForUpdate ?_) ?_
  · intro row found
    have atId : row.id = claim.workerId := KeyedTable.key_of_find? found
    simp only [Write.key, Store.row?, Write.left, atId, found]
    rfl
  refine Program.Runs.bind (runs_lockOwner claim s sequence) ?_
  generalize validateCurrentExecutionOwner claim _ _ = verdict at run ⊢
  cases verdict with
  | error denial => cases run
  | ok owner =>
      obtain ⟨jobConflict, middle, between, jobRun, run⟩ :=
        Program.Runs.of_bind run
      obtain ⟨_, rfl, rfl, rfl⟩ := runs_select jobRun
      obtain ⟨sessionConflict, middle, between, sessionRun, run⟩ :=
        Program.Runs.of_bind run
      obtain ⟨_, rfl, rfl, rfl⟩ := runs_select sessionRun
      refine Program.Runs.bind (Program.Runs.statement Scan.stored rfl) ?_
      exact run

/-! ## The whole engine -/

theorem sqlite_serves :
    sqlite.Serves .refines (postgres Collation.binary) where
  upsertWorker _ := Program.Refines.refl _
  updateWorkerHeartbeat _ _ := Program.Refines.refl _
  setWorkerDrain _ _ _ := Program.Refines.refl _
  insertJob := insertJob_refines
  getJob _ := Program.Refines.refl _
  startJob _ _ _ _ _ := Program.Refines.refl _
  renewJob _ _ _ _ _ := Program.Refines.refl _
  finishJob _ _ _ _ _ _ _ := Program.Refines.refl _
  cancelJob _ _ := Program.Refines.refl _
  insertSession := insertSession_refines
  getSession _ := Program.Refines.refl _
  startSession _ _ _ _ _ := Program.Refines.refl _
  activateSession _ _ _ _ _ := Program.Refines.refl _
  renewSession _ _ _ _ _ := Program.Refines.refl _
  closeSession _ _ := Program.Refines.refl _
  appendEvent := appendEvent_refines
  reserveExecutionAttempt := reserveExecutionAttempt_refines

theorem sqlite_schedules :
    sqlite.Schedules .refines (postgres Collation.binary) where
  tryAcquireSchedulerLock := by
    intro s sequence result final last run
    cases run
    exact .tryLock (.done _ _ _)
  markStaleWorkersOffline _ _ := Program.Refines.refl _
  recoverExpiredJobs := recoverExpiredJobs_refines
  recoverInterruptedSessions := recoverInterruptedSessions_refines
  appendEvent := appendEvent_refines
  listBlockedGpuResources := listBlockedGpuResources_refines
  listWorkers := Program.Refines.refl _
  listActiveJobs := Program.Refines.refl _
  listOccupyingSessions := Program.Refines.refl _
  listQueuedJobs := Program.Refines.refl _
  listRequestedSessions := Program.Refines.refl _
  assignJob _ _ _ _ _ := Program.Refines.refl _
  assignSession _ _ _ _ _ := Program.Refines.refl _

/-- A transaction that commits on the SQLite engine is a run of the same
transaction on the PostgreSQL engine. -/
theorem sqlite_refines_postgres (settings : SchedulerSettings)
    (work : Service.Transaction) :
    (work.code sqlite settings).Refines
      (work.code (postgres Collation.binary) settings) :=
  Persistence.transaction_related sqlite_serves sqlite_schedules settings work

end GpuLink
