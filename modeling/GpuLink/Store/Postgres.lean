import GpuLink.Store.Database

/-!
# The PostgreSQL persistence

The queries of `PostgresPersistence`.  Unlike the SQLite methods they recover
expired leases in one statement, meet a repeated idempotency key with
`ON CONFLICT DO NOTHING`, and lock the rows that a reservation or a placement
relies on.  Text in an `ORDER BY` compares by the collation of the database.
-/

namespace GpuLink

open Transactional Sql

namespace Postgres

/-! ## Row mappings -/

def mapPostgresWorker (row : WorkerRow) : Worker where
  id := row.id
  name := row.name
  version := row.version
  baseUrl := row.baseUrl
  status := row.status
  drainMode := row.drainMode
  labels := row.labels
  capabilities := row.capabilities
  adapterManifests := row.adapterManifests
  adapterHealth := row.adapterHealth
  warmModels := row.warmModels
  modelInventory := row.modelInventory
  gpus := row.gpuInventory
  lastSeenAt := row.lastSeenAt
  createdAt := row.createdAt
  updatedAt := row.updatedAt

def mapPostgresJob (row : JobRow) : Job where
  id := row.id
  projectId := row.projectId
  type := row.type
  priority := row.priority
  status := row.status
  constraints :=
    { gpuCount := row.gpuCount
      minVramMiB := row.minVramMiB
      capabilities := row.requiredCapabilities
      model := row.requestedModel }
  payload := row.payload
  result := row.result.getD .null
  error := row.error.getD .null
  assignedWorkerId := row.assignedWorkerId
  assignedGpuUuid := row.assignedGpuUuid
  leaseId := row.leaseId
  leaseExpiresAt := row.leaseExpiresAt
  attempt := row.attempt
  maxAttempts := row.maxAttempts
  idempotencyKey := row.idempotencyKey
  createdAt := row.createdAt
  updatedAt := row.updatedAt

def mapPostgresSession (row : SessionRow) : Session where
  id := row.id
  schemaVersion := row.schemaVersion
  projectId := row.projectId
  capability := row.capability
  priority := row.priority
  status := row.status
  requirements :=
    { gpuCount := row.gpuCount
      minVramMiB := row.minVramMiB
      capabilities := row.requiredCapabilities
      model := row.requestedModel
      adapter := row.requestedAdapter }
  metadata := row.metadata
  recovery := { maxInterruptions := row.maxInterruptions }
  interruptionCount := row.interruptionCount
  assignedWorkerId := row.assignedWorkerId
  assignedGpuUuid := row.assignedGpuUuid
  leaseId := row.leaseId
  leaseExpiresAt := row.leaseExpiresAt
  idempotencyKey := row.idempotencyKey
  createdAt := row.createdAt
  updatedAt := row.updatedAt

def mapPostgresEvent (row : EventRow) : Event where
  sequence := row.sequence
  type := row.type
  subjectId := row.subjectId
  payload := row.payload
  createdAt := row.createdAt

/-! ## Workers -/

def postgresUpsertWorker (worker : WorkerRegistration) : Tx Worker := do
  let row ← query (upsert .worker .registered
    (fun store => store.workerByName worker.name)
    (fun store => (store.workers.find? worker.id).isSome)
    { id := worker.id
      name := worker.name
      version := worker.version
      baseUrl := worker.baseUrl
      status := .online
      drainMode := false
      labels := worker.labels
      capabilities := worker.capabilities
      adapterManifests := worker.adapterManifests
      adapterHealth := worker.adapterHealth
      warmModels := worker.warmModels
      modelInventory := worker.modelInventory
      gpuInventory := worker.gpus
      lastSeenAt := worker.now
      createdAt := worker.now
      updatedAt := worker.now }
    (fun _ => true)
    (fun row => { row with
      version := worker.version
      baseUrl := worker.baseUrl
      status := .online
      labels := worker.labels
      capabilities := worker.capabilities
      adapterManifests := worker.adapterManifests
      adapterHealth := worker.adapterHealth
      warmModels := worker.warmModels
      modelInventory := worker.modelInventory
      gpuInventory := worker.gpus
      lastSeenAt := worker.now
      updatedAt := worker.now }))
  match row with
  | some row => pure (mapPostgresWorker row)
  | none => throw .typeError

def postgresUpdateWorkerHeartbeat (workerId : String) (heartbeat : Heartbeat) :
    Tx (Option Worker) := do
  let row ← query (update .worker (some .heartbeat)
    (fun store => store.workers.find? workerId)
    (fun row => { row with
      status := .online
      capabilities := heartbeat.capabilities
      adapterManifests := heartbeat.adapterManifests
      adapterHealth := heartbeat.adapterHealth
      warmModels := heartbeat.warmModels
      modelInventory := heartbeat.modelInventory
      gpuInventory := heartbeat.gpus
      lastSeenAt := heartbeat.now
      updatedAt := heartbeat.now }))
  pure (row.map mapPostgresWorker)

def postgresSetWorkerDrain (workerId : String) (drainMode : Bool) (now : Int) :
    Tx (Option Worker) := do
  let row ← query (update .worker (some .drainSet)
    (fun store => store.workers.find? workerId)
    (fun row => { row with drainMode := drainMode, updatedAt := now }))
  pure (row.map mapPostgresWorker)

def postgresListWorkers (text : Collation) : Tx (List Worker) := do
  let rows ← query (select (fun store scan =>
    orderBy (fun left right => text.le left.name right.name)
      (store.selectWorkers scan (fun _ => true))))
  pure (rows.map mapPostgresWorker)

def postgresGetWorker (workerId : String) : Tx (Option Worker) := do
  let row ← query (select (fun store _ => store.workers.find? workerId))
  pure (row.map mapPostgresWorker)

def postgresMarkStaleWorkersOffline (staleBefore now : Int) : Tx (List String) := do
  let rows ← query (updateAll .worker (some .markedOffline)
    (fun store scan => store.selectWorkers scan
      (fun row => row.status = .online && row.lastSeenAt < staleBefore))
    (fun row => { row with status := .offline, updatedAt := now }))
  pure (rows.map (fun row => row.2.id))

/-! ## Jobs -/

/-- `INSERT … ON CONFLICT (project_id, idempotency_key) DO NOTHING`: no row when
the key is taken, an error when only the primary key is. -/
def insertUnlessKeyTaken {ρ : Type} (wrap : ρ → RowWrite)
    (keyTaken idTaken : Store → Bool) (row : ρ) : Statement (Option ρ) :=
  fun input =>
    if keyTaken input.view then .ok (none, ⟨[], 0⟩)
    else if idTaken input.view then .error .uniqueConstraint
    else .ok (some row, ⟨[⟨wrap row, some .inserted⟩], 0⟩)

def postgresInsertJob (job : JobRequest) : Tx JobInsertion := do
  let row ← query (insertUnlessKeyTaken .job
    (fun store => store.jobKeyTaken job.projectId job.idempotencyKey)
    (fun store => (store.jobs.find? job.id).isSome)
    { id := job.id
      projectId := job.projectId
      type := job.type
      priority := job.priority
      status := .queued
      gpuCount := 1
      minVramMiB := job.minVramMiB
      requiredCapabilities := job.requiredCapabilities
      requestedModel := job.requestedModel
      payload := job.payload
      result := none
      error := none
      assignedWorkerId := none
      assignedGpuUuid := none
      leaseId := none
      leaseExpiresAt := none
      attempt := 0
      maxAttempts := job.maxAttempts
      idempotencyKey := job.idempotencyKey
      createdAt := job.now
      updatedAt := job.now })
  match row with
  | some row => pure ⟨mapPostgresJob row, false⟩
  | none =>
      match job.idempotencyKey with
      | none => throw (.noRow "PostgreSQL job insert returned no row")
      | some key => do
          let existing ← query (select (fun store _ =>
            store.jobByKey job.projectId key))
          match existing with
          | some row => pure ⟨mapPostgresJob row, true⟩
          | none => throw (.noRow "PostgreSQL job insert returned no row")

def postgresGetJob (jobId : String) : Tx (Option Job) := do
  let row ← query (select (fun store _ => store.jobs.find? jobId))
  pure (row.map mapPostgresJob)

def postgresListJobs (options : ListOptions JobStatus) : Tx (List Job) := do
  let rows ← query (select (fun store scan =>
    (orderBy (fun left right => decide (right.createdAt ≤ left.createdAt))
      (store.selectJobs scan (jobFilter options))).take options.limit))
  pure (rows.map mapPostgresJob)

def postgresListQueuedJobs (text : Collation) : Tx (List Job) := do
  let rows ← query (select (fun store scan =>
    orderBy (fun left right => queueOrder text
        (left.priority, left.createdAt, left.id)
        (right.priority, right.createdAt, right.id))
      (store.selectJobs scan (fun row => row.status = .queued))))
  pure (rows.map mapPostgresJob)

def postgresListActiveJobs : Tx (List Job) := do
  let rows ← query (select (fun store scan =>
    store.selectJobs scan JobRow.isActive))
  pure (rows.map mapPostgresJob)

def postgresAssignJob (jobId : String) (placement : Placement) (leaseId : String)
    (leaseExpiresAt now : Int) : Tx (Option Job) := do
  let row ← query (referencing placement.workerId
    (update .job (some (.assigned leaseId leaseExpiresAt))
      (fun store => store.jobWhere jobId (fun row => row.status = .queued))
      (fun row => { row with
        status := .leased
        assignedWorkerId := some placement.workerId
        assignedGpuUuid := some placement.gpuUuid
        leaseId := some leaseId
        leaseExpiresAt := some leaseExpiresAt
        attempt := row.attempt + 1
        updatedAt := now })))
  pure (row.map mapPostgresJob)

def postgresStartJob (jobId workerId leaseId : String) (leaseExpiresAt now : Int) :
    Tx (Option Job) := do
  let row ← query (update .job (some (.started leaseExpiresAt))
    (fun store => store.jobWhere jobId (fun row =>
      row.status = .leased && jobLeaseHeld workerId leaseId now row))
    (fun row => { row with
      status := .running
      leaseExpiresAt := some leaseExpiresAt
      updatedAt := now }))
  pure (row.map mapPostgresJob)

def postgresRenewJob (jobId workerId leaseId : String) (leaseExpiresAt now : Int) :
    Tx (Option Job) := do
  let row ← query (update .job (some (.renewed leaseExpiresAt))
    (fun store => store.jobWhere jobId (fun row =>
      row.status = .running && jobLeaseHeld workerId leaseId now row))
    (fun row => { row with
      leaseExpiresAt := some leaseExpiresAt
      updatedAt := now }))
  pure (row.map mapPostgresJob)

/-- `resultValue === null ? null : JSON.stringify(resultValue)` -/
def jsonParameter (value : Json) : Option Json :=
  if value.isNull then none else some value

def postgresFinishJob (jobId workerId leaseId : String) (outcome : Outcome)
    (result error : Json) (now : Int) : Tx (Option Job) := do
  let row ← query (update .job (some .finished)
    (fun store => store.jobWhere jobId (fun row =>
      row.isActive && jobLeaseHeld workerId leaseId now row))
    (fun row => { row with
      status := outcome.status
      result := jsonParameter result
      error := jsonParameter error
      leaseExpiresAt := none
      updatedAt := now }))
  pure (row.map mapPostgresJob)

def postgresCancelJob (jobId : String) (now : Int) : Tx (Option Job) := do
  let row ← query (update .job (some .cancelled)
    (fun store => store.jobWhere jobId (fun row =>
      row.status = .queued || row.isActive))
    (fun row => { row with
      status := .cancelled
      leaseExpiresAt := none
      updatedAt := now }))
  pure (row.map mapPostgresJob)

/-- `assigned_worker_id = ANY($2::text[])` -/
def anyOf (offlineWorkerIds : List String) (workerId : Option String) : Bool :=
  match workerId with
  | none => false
  | some id => id ∈ offlineWorkerIds

/-- `lease_expires_at IS NOT NULL AND lease_expires_at <= $1` -/
def leaseExpired (now : Int) (leaseExpiresAt : Option Int) : Bool :=
  match leaseExpiresAt with
  | none => false
  | some expires => expires ≤ now

/-- `CASE WHEN assigned_worker_id = ANY($2) THEN … ELSE … END` -/
def recoveryCase (offlineWorkerIds : List String)
    (workerId : Option String) : RecoveryReason :=
  if anyOf offlineWorkerIds workerId then .heartbeatTimeout else .leaseExpired

def postgresRecoverExpiredJobs (now : Int) (offlineWorkerIds : List String) :
    Tx (List RecoveredJob) := do
  let rows ← query (updateAll .job (some .recovered)
    (fun store scan => store.selectJobs scan (fun row =>
      row.isActive && (leaseExpired now row.leaseExpiresAt ||
        anyOf offlineWorkerIds row.assignedWorkerId)))
    (fun row => { row with
      status := if row.maxAttempts ≤ row.attempt then .failed else .queued
      assignedWorkerId := none
      assignedGpuUuid := none
      leaseId := none
      leaseExpiresAt := none
      error :=
        if row.maxAttempts ≤ row.attempt then some leaseExhausted else none
      updatedAt := now }))
  pure (rows.map (fun row =>
    ⟨mapPostgresJob row.2, recoveryCase offlineWorkerIds row.1.assignedWorkerId⟩))

/-! ## Sessions -/

def postgresInsertSession (session : SessionRequest) :
    Tx SessionInsertion := do
  let row ← query (insertUnlessKeyTaken .session
    (fun store => store.sessionKeyTaken session.projectId session.idempotencyKey)
    (fun store => (store.sessions.find? session.id).isSome)
    { id := session.id
      schemaVersion := session.schemaVersion
      projectId := session.projectId
      capability := session.capability
      priority := session.priority
      status := .requested
      gpuCount := 1
      minVramMiB := session.requirements.minVramMiB
      requiredCapabilities := session.requirements.capabilities
      requestedModel := session.requirements.model
      requestedAdapter := session.requirements.adapter
      metadata := session.metadata
      maxInterruptions := session.recovery.maxInterruptions
      interruptionCount := 0
      assignedWorkerId := none
      assignedGpuUuid := none
      leaseId := none
      leaseExpiresAt := none
      idempotencyKey := session.idempotencyKey
      createdAt := session.now
      updatedAt := session.now })
  match row with
  | some row => pure ⟨mapPostgresSession row, false⟩
  | none =>
      match session.idempotencyKey with
      | none => throw (.noRow "PostgreSQL session insert returned no row")
      | some key => do
          let existing ← query (select (fun store _ =>
            store.sessionByKey session.projectId key))
          match existing with
          | some row => pure ⟨mapPostgresSession row, true⟩
          | none => throw (.noRow "PostgreSQL session insert returned no row")

def postgresGetSession (sessionId : String) : Tx (Option Session) := do
  let row ← query (select (fun store _ => store.sessions.find? sessionId))
  pure (row.map mapPostgresSession)

def postgresListSessions (text : Collation) (options : ListOptions SessionStatus) :
    Tx (List Session) := do
  let rows ← query (select (fun store scan =>
    (orderBy (newestFirst text)
      (store.selectSessions scan (sessionFilter options))).take options.limit))
  pure (rows.map mapPostgresSession)

def postgresListRequestedSessions (text : Collation) : Tx (List Session) := do
  let rows ← query (select (fun store scan =>
    orderBy (fun left right => queueOrder text
        (left.priority, left.createdAt, left.id)
        (right.priority, right.createdAt, right.id))
      (store.selectSessions scan (fun row => row.status = .requested))))
  pure (rows.map mapPostgresSession)

def postgresListActiveSessions (text : Collation) : Tx (List Session) := do
  let rows ← query (select (fun store scan =>
    orderBy (oldestFirst text)
      (store.selectSessions scan SessionRow.isOccupying)))
  pure (rows.map mapPostgresSession)

def postgresAssignSession (sessionId : String) (placement : Placement)
    (leaseId : String) (leaseExpiresAt now : Int) : Tx (Option Session) := do
  let row ← query (referencing placement.workerId
    (update .session (some (.assigned leaseId leaseExpiresAt))
      (fun store => store.sessionWhere sessionId
        (fun row => row.status = .requested))
      (fun row => { row with
        status := .allocated
        assignedWorkerId := some placement.workerId
        assignedGpuUuid := some placement.gpuUuid
        leaseId := some leaseId
        leaseExpiresAt := some leaseExpiresAt
        updatedAt := now })))
  pure (row.map mapPostgresSession)

def postgresStartSession (sessionId workerId leaseId : String)
    (leaseExpiresAt now : Int) : Tx (Option Session) := do
  let row ← query (update .session (some (.started leaseExpiresAt))
    (fun store => store.sessionWhere sessionId (fun row =>
      row.status = .allocated && sessionLeaseHeld workerId leaseId now row))
    (fun row => { row with
      status := .connecting
      leaseExpiresAt := some leaseExpiresAt
      updatedAt := now }))
  pure (row.map mapPostgresSession)

def postgresActivateSession (sessionId workerId leaseId : String)
    (leaseExpiresAt now : Int) : Tx (Option Session) := do
  let row ← query (update .session (some (.activated leaseExpiresAt))
    (fun store => store.sessionWhere sessionId (fun row =>
      row.status = .connecting && sessionLeaseHeld workerId leaseId now row))
    (fun row => { row with
      status := .active
      leaseExpiresAt := some leaseExpiresAt
      updatedAt := now }))
  pure (row.map mapPostgresSession)

def postgresRenewSession (sessionId workerId leaseId : String)
    (leaseExpiresAt now : Int) : Tx (Option Session) := do
  let row ← query (update .session (some (.renewed leaseExpiresAt))
    (fun store => store.sessionWhere sessionId (fun row =>
      row.isOccupying && sessionLeaseHeld workerId leaseId now row))
    (fun row => { row with
      leaseExpiresAt := some leaseExpiresAt
      updatedAt := now }))
  pure (row.map mapPostgresSession)

def postgresCloseSession (sessionId : String) (now : Int) : Tx (Option Session) := do
  let row ← query (update .session (some .closed)
    (fun store => store.sessionWhere sessionId (fun row =>
      row.status = .requested || row.isOccupying))
    (fun row => { row with
      status := .closed
      assignedWorkerId := none
      assignedGpuUuid := none
      leaseId := none
      leaseExpiresAt := none
      updatedAt := now }))
  pure (row.map mapPostgresSession)

def postgresRecoverInterruptedSessions (now : Int)
    (offlineWorkerIds : List String) : Tx (List RecoveredSession) := do
  let rows ← query (updateAll .session (some .recovered)
    (fun store scan => store.selectSessions scan (fun row =>
      row.isOccupying && (leaseExpired now row.leaseExpiresAt ||
        anyOf offlineWorkerIds row.assignedWorkerId)))
    (fun row => { row with
      status :=
        if row.interruptionCount + 1 ≤ row.maxInterruptions then .requested
        else .interrupted
      interruptionCount := row.interruptionCount + 1
      assignedWorkerId := none
      assignedGpuUuid := none
      leaseId := none
      leaseExpiresAt := none
      updatedAt := now }))
  pure (rows.map (fun row =>
    ⟨mapPostgresSession row.2,
      recoveryCase offlineWorkerIds row.1.assignedWorkerId, row.1.status⟩))

/-! ## Events and counts -/

def postgresAppendEvent (type : String) (subjectId : Option String)
    (payload : Json) (now : Int) : Tx Event := do
  let inserted ← query (insertEvent type subjectId payload now)
  query pruneEvents
  -- `pg_notify` reaches the listeners at commit and leaves the tables alone
  query (select (fun _ _ => ()))
  pure (mapPostgresEvent inserted)

def postgresListEventsAfter (sequence limit : Nat) : Tx (List Event) := do
  let rows ← query (select (fun store _ =>
    (orderBy (fun left right => decide (left.sequence ≤ right.sequence))
      (store.events.rows.filter (fun row => decide (sequence < row.sequence)))
      ).take limit))
  pure (rows.map mapPostgresEvent)

def postgresCounts : Tx Counts := do
  let workerCounts ← query (select (fun store _ =>
    countBy [WorkerStatus.online, .offline]
      (store.workers.rows.map WorkerRow.status)))
  let jobCounts ← query (select (fun store _ =>
    countBy [JobStatus.queued, .leased, .running, .succeeded, .failed,
      .cancelled] (store.jobs.rows.map JobRow.status)))
  pure ⟨workerCounts, jobCounts⟩

/-! ## Execution attempts -/

/-- `SELECT … FOR UPDATE`: the row comes back as it was, and is the
transaction's own until it ends. -/
def selectForUpdate {ρ : Type} (wrap : ρ → RowWrite)
    (found : Store → Option ρ) : Statement (Option ρ) :=
  update wrap none found id

def postgresListBlockedGpuResources (text : Collation) :
    Tx (List BlockedGpu) := do
  let rows ← query (updateAll .fence none
    (fun store _ => orderBy (fenceOrder text)
      (store.fences.rows.filter (fun row => row.safetyState ≠ .clear)))
    id)
  pure (rows.map (fun row => ⟨row.2.workerId, row.2.gpuUuid⟩))

def postgresObserveExecutionAttempt (input : AttemptQuery) :
    Tx (Option AttemptObservation) :=
  query (select (fun store _ =>
    (store.attempts.rows.find? (matchingAttempt input)).map (fun row =>
      ⟨row, store.fences.find? (row.workerId, row.gpuUuid)⟩)))

/-- The conflict query: another active job or session of the worker on the
GPU. -/
def resourceConflict (claim : ExecutionClaim) (store : Store) : Bool :=
  store.jobs.rows.any (fun row =>
      row.assignedWorkerId = some claim.workerId &&
        row.assignedGpuUuid = some claim.gpuUuid && row.isActive &&
        row.id ≠ (if claim.subjectKind = .job then claim.subjectId else "")) ||
    store.sessions.rows.any (fun row =>
      row.assignedWorkerId = some claim.workerId &&
        row.assignedGpuUuid = some claim.gpuUuid && row.isOccupying &&
        row.id ≠ (if claim.subjectKind = .session then claim.subjectId else ""))

/-- The fence is reserved for the claim unless it is already held. -/
def postgresReserveFence (claim : ExecutionClaim) : Statement (Option FenceRow) :=
  referencing claim.workerId (upsert .fence .reserved
    (fun store => store.fences.find? (claim.workerId, claim.gpuUuid))
    (fun _ => false)
    { workerId := claim.workerId
      gpuUuid := claim.gpuUuid
      epoch := 1
      safetyState := .reserved
      subjectKind := some claim.subjectKind
      subjectId := some claim.subjectId
      leaseId := some claim.leaseId
      attemptId := some claim.attemptId
      updatedAt := claim.now }
    (fun row => row.safetyState = .clear)
    (fun row => { row with
      epoch := row.epoch + 1
      safetyState := .reserved
      subjectKind := some claim.subjectKind
      subjectId := some claim.subjectId
      leaseId := some claim.leaseId
      attemptId := some claim.attemptId
      updatedAt := claim.now }))

/-- The attempt row; its fence was written by the statement before. -/
def postgresInsertAttempt (claim : ExecutionClaim) (projectId : String)
    (fenceEpoch : Nat) : Statement AttemptRow :=
  insert .attempt .reserved
    (fun store =>
      (store.attempts.find? claim.attemptId).isSome ||
        store.attempts.rows.any (fun row =>
          row.workerId = claim.workerId && row.gpuUuid = claim.gpuUuid &&
            row.status ≠ .terminated))
    { attemptId := claim.attemptId
      subjectKind := claim.subjectKind
      subjectId := claim.subjectId
      projectId := projectId
      leaseId := claim.leaseId
      workerId := claim.workerId
      gpuUuid := claim.gpuUuid
      fenceEpoch := fenceEpoch
      artifactDigest := claim.artifactDigest
      adapterIdentity := claim.adapterIdentity
      runtimePolicyRevision := claim.runtimePolicyRevision
      approvalRef := claim.approvalRef
      status := .reserved
      createdAt := claim.now
      updatedAt := claim.now }

/-- The owner of the lease, locked against concurrent updates. -/
def lockOwner (claim : ExecutionClaim) : Tx (Option Workload) :=
  match claim.subjectKind with
  | .job => do
      let row ← query (selectForUpdate .job
        (fun store => store.jobs.find? claim.subjectId))
      pure (row.map JobRow.workload)
  | .session => do
      let row ← query (selectForUpdate .session
        (fun store => store.sessions.find? claim.subjectId))
      pure (row.map SessionRow.workload)

/-- `pg_try_advisory_xact_lock` -/
def tryAdvisoryLock : Tx Bool :=
  .tryLock (fun acquired => .done (.ok acquired))

def postgresReserveExecutionAttempt (claim : ExecutionClaim) :
    Tx ReservedAttempt := do
  let acquired ← tryAdvisoryLock
  if acquired then do
    let worker ← query (selectForUpdate .worker
      (fun store => store.workers.find? claim.workerId))
    let workload ← lockOwner claim
    match validateCurrentExecutionOwner claim worker workload with
    | .error denial => throw denial
    | .ok owner => do
        let conflict ← query (select (fun store _ =>
          resourceConflict claim store))
        if conflict then throw (.claimDenied .resourceConflict)
        else do
          let row ← query (postgresReserveFence claim)
          match row with
          | none => throw (.claimDenied .resourceHeld)
          | some fence => do
              let _ ← query
                (postgresInsertAttempt claim owner.projectId fence.epoch)
              pure ⟨claim.attemptId, fence.epoch, false⟩
  else throw (.claimDenied .allocationBusy)

end Postgres

/-- The PostgreSQL engine over a database whose text has the given order. -/
def postgres (text : Collation) : Persistence where
  upsertWorker := Postgres.postgresUpsertWorker
  updateWorkerHeartbeat := Postgres.postgresUpdateWorkerHeartbeat
  setWorkerDrain := Postgres.postgresSetWorkerDrain
  listWorkers := Postgres.postgresListWorkers text
  getWorker := Postgres.postgresGetWorker
  markStaleWorkersOffline := Postgres.postgresMarkStaleWorkersOffline
  insertJob := Postgres.postgresInsertJob
  getJob := Postgres.postgresGetJob
  listJobs := Postgres.postgresListJobs
  listQueuedJobs := Postgres.postgresListQueuedJobs text
  listActiveJobs := Postgres.postgresListActiveJobs
  listBlockedGpuResources := Postgres.postgresListBlockedGpuResources text
  assignJob := Postgres.postgresAssignJob
  startJob := Postgres.postgresStartJob
  renewJob := Postgres.postgresRenewJob
  finishJob := Postgres.postgresFinishJob
  cancelJob := Postgres.postgresCancelJob
  recoverExpiredJobs := Postgres.postgresRecoverExpiredJobs
  insertSession := Postgres.postgresInsertSession
  getSession := Postgres.postgresGetSession
  listSessions := Postgres.postgresListSessions text
  listRequestedSessions := Postgres.postgresListRequestedSessions text
  listOccupyingSessions := Postgres.postgresListActiveSessions text
  assignSession := Postgres.postgresAssignSession
  startSession := Postgres.postgresStartSession
  activateSession := Postgres.postgresActivateSession
  renewSession := Postgres.postgresRenewSession
  closeSession := Postgres.postgresCloseSession
  recoverInterruptedSessions := Postgres.postgresRecoverInterruptedSessions
  appendEvent := Postgres.postgresAppendEvent
  listEventsAfter := Postgres.postgresListEventsAfter
  counts := Postgres.postgresCounts
  observeExecutionAttempt := Postgres.postgresObserveExecutionAttempt
  reserveExecutionAttempt := Postgres.postgresReserveExecutionAttempt
  tryAcquireSchedulerLock := Postgres.tryAdvisoryLock

end GpuLink
