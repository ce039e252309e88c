import GpuLink.Store.ExecutionClaim
import GpuLink.Store.Statements

/-!
# The SQLite database

The methods of `ControlPlaneDatabase`.  Rows are selected and updated one
statement at a time; text compares by its bytes.
-/

namespace GpuLink

open Transactional Sql

namespace Database

/-! ## Row mappings -/

def mapWorker (row : WorkerRow) : Worker where
  id := row.id
  name := row.name
  version := row.version
  baseUrl := row.baseUrl
  status := row.status
  drainMode := row.drainMode
  labels := row.labels
  capabilities := row.capabilities
  adapterManifests := row.adapterManifests
  adapterHealth := row.adapterHealth
  warmModels := row.warmModels
  modelInventory := row.modelInventory
  gpus := row.gpuInventory
  lastSeenAt := row.lastSeenAt
  createdAt := row.createdAt
  updatedAt := row.updatedAt

def mapJob (row : JobRow) : Job where
  id := row.id
  projectId := row.projectId
  type := row.type
  priority := row.priority
  status := row.status
  constraints :=
    { gpuCount := row.gpuCount
      minVramMiB := row.minVramMiB
      capabilities := row.requiredCapabilities
      model := row.requestedModel }
  payload := row.payload
  result := row.result.getD .null
  error := row.error.getD .null
  assignedWorkerId := row.assignedWorkerId
  assignedGpuUuid := row.assignedGpuUuid
  leaseId := row.leaseId
  leaseExpiresAt := row.leaseExpiresAt
  attempt := row.attempt
  maxAttempts := row.maxAttempts
  idempotencyKey := row.idempotencyKey
  createdAt := row.createdAt
  updatedAt := row.updatedAt

def mapSession (row : SessionRow) : Session where
  id := row.id
  schemaVersion := row.schemaVersion
  projectId := row.projectId
  capability := row.capability
  priority := row.priority
  status := row.status
  requirements :=
    { gpuCount := row.gpuCount
      minVramMiB := row.minVramMiB
      capabilities := row.requiredCapabilities
      model := row.requestedModel
      adapter := row.requestedAdapter }
  metadata := row.metadata
  recovery := { maxInterruptions := row.maxInterruptions }
  interruptionCount := row.interruptionCount
  assignedWorkerId := row.assignedWorkerId
  assignedGpuUuid := row.assignedGpuUuid
  leaseId := row.leaseId
  leaseExpiresAt := row.leaseExpiresAt
  idempotencyKey := row.idempotencyKey
  createdAt := row.createdAt
  updatedAt := row.updatedAt

def mapEvent (row : EventRow) : Event where
  sequence := row.sequence
  type := row.type
  subjectId := row.subjectId
  payload := row.payload
  createdAt := row.createdAt

/-! ## Workers -/

def upsertWorker (worker : WorkerRegistration) : Tx Worker := do
  let row ← query (upsert .worker .registered
    (fun store => store.workerByName worker.name)
    (fun store => (store.workers.find? worker.id).isSome)
    { id := worker.id
      name := worker.name
      version := worker.version
      baseUrl := worker.baseUrl
      status := .online
      drainMode := false
      labels := worker.labels
      capabilities := worker.capabilities
      adapterManifests := worker.adapterManifests
      adapterHealth := worker.adapterHealth
      warmModels := worker.warmModels
      modelInventory := worker.modelInventory
      gpuInventory := worker.gpus
      lastSeenAt := worker.now
      createdAt := worker.now
      updatedAt := worker.now }
    (fun _ => true)
    (fun row => { row with
      version := worker.version
      baseUrl := worker.baseUrl
      status := .online
      labels := worker.labels
      capabilities := worker.capabilities
      adapterManifests := worker.adapterManifests
      adapterHealth := worker.adapterHealth
      warmModels := worker.warmModels
      modelInventory := worker.modelInventory
      gpuInventory := worker.gpus
      lastSeenAt := worker.now
      updatedAt := worker.now }))
  match row with
  | some row => pure (mapWorker row)
  | none => throw .typeError

def updateWorkerHeartbeat (workerId : String) (heartbeat : Heartbeat) :
    Tx (Option Worker) := do
  let row ← query (update .worker (some .heartbeat)
    (fun store => store.workers.find? workerId)
    (fun row => { row with
      status := .online
      capabilities := heartbeat.capabilities
      adapterManifests := heartbeat.adapterManifests
      adapterHealth := heartbeat.adapterHealth
      warmModels := heartbeat.warmModels
      modelInventory := heartbeat.modelInventory
      gpuInventory := heartbeat.gpus
      lastSeenAt := heartbeat.now
      updatedAt := heartbeat.now }))
  pure (row.map mapWorker)

def setWorkerDrain (workerId : String) (drainMode : Bool) (now : Int) :
    Tx (Option Worker) := do
  let row ← query (update .worker (some .drainSet)
    (fun store => store.workers.find? workerId)
    (fun row => { row with drainMode := drainMode, updatedAt := now }))
  pure (row.map mapWorker)

def listWorkers : Tx (List Worker) := do
  let rows ← query (select (fun store scan =>
    orderBy (fun left right => Collation.binary.le left.name right.name)
      (store.selectWorkers scan (fun _ => true))))
  pure (rows.map mapWorker)

def getWorker (workerId : String) : Tx (Option Worker) := do
  let row ← query (select (fun store _ => store.workers.find? workerId))
  pure (row.map mapWorker)

def markStaleWorkersOffline (staleBefore now : Int) : Tx (List String) := do
  let rows ← query (updateAll .worker (some .markedOffline)
    (fun store scan => store.selectWorkers scan
      (fun row => row.status = .online && row.lastSeenAt < staleBefore))
    (fun row => { row with status := .offline, updatedAt := now }))
  pure (rows.map (fun row => row.2.id))

/-! ## Jobs -/

def insertJob (job : JobRequest) : Tx JobInsertion := do
  let row ← query (attempt (insert .job .inserted
    (fun store =>
      (store.jobs.find? job.id).isSome ||
        store.jobKeyTaken job.projectId job.idempotencyKey)
    { id := job.id
      projectId := job.projectId
      type := job.type
      priority := job.priority
      status := .queued
      gpuCount := 1
      minVramMiB := job.minVramMiB
      requiredCapabilities := job.requiredCapabilities
      requestedModel := job.requestedModel
      payload := job.payload
      result := none
      error := none
      assignedWorkerId := none
      assignedGpuUuid := none
      leaseId := none
      leaseExpiresAt := none
      attempt := 0
      maxAttempts := job.maxAttempts
      idempotencyKey := job.idempotencyKey
      createdAt := job.now
      updatedAt := job.now }))
  match row with
  | some row => pure ⟨mapJob row, false⟩
  | none =>
      match job.idempotencyKey with
      | none => throw .uniqueConstraint
      | some key =>
          let existing ← query (select (fun store _ =>
            store.jobByKey job.projectId key))
          match existing with
          | some row => pure ⟨mapJob row, true⟩
          | none => throw .typeError

def getJob (jobId : String) : Tx (Option Job) := do
  let row ← query (select (fun store _ => store.jobs.find? jobId))
  pure (row.map mapJob)

def listJobs (options : ListOptions JobStatus) : Tx (List Job) := do
  let rows ← query (select (fun store scan =>
    (orderBy (fun left right => decide (right.createdAt ≤ left.createdAt))
      (store.selectJobs scan (jobFilter options))).take options.limit))
  pure (rows.map mapJob)

def listQueuedJobs : Tx (List Job) := do
  let rows ← query (select (fun store scan =>
    orderBy (fun left right => queueOrder Collation.binary
        (left.priority, left.createdAt, left.id)
        (right.priority, right.createdAt, right.id))
      (store.selectJobs scan (fun row => row.status = .queued))))
  pure (rows.map mapJob)

def listActiveJobs : Tx (List Job) := do
  let rows ← query (select (fun store scan =>
    store.selectJobs scan JobRow.isActive))
  pure (rows.map mapJob)

def assignJob (jobId : String) (placement : Placement) (leaseId : String)
    (leaseExpiresAt now : Int) : Tx (Option Job) := do
  let row ← query (referencing placement.workerId
    (update .job (some (.assigned leaseId leaseExpiresAt))
      (fun store => store.jobWhere jobId (fun row => row.status = .queued))
      (fun row => { row with
        status := .leased
        assignedWorkerId := some placement.workerId
        assignedGpuUuid := some placement.gpuUuid
        leaseId := some leaseId
        leaseExpiresAt := some leaseExpiresAt
        attempt := row.attempt + 1
        updatedAt := now })))
  pure (row.map mapJob)

def startJob (jobId workerId leaseId : String) (leaseExpiresAt now : Int) :
    Tx (Option Job) := do
  let row ← query (update .job (some (.started leaseExpiresAt))
    (fun store => store.jobWhere jobId (fun row =>
      row.status = .leased && jobLeaseHeld workerId leaseId now row))
    (fun row => { row with
      status := .running
      leaseExpiresAt := some leaseExpiresAt
      updatedAt := now }))
  pure (row.map mapJob)

def renewJob (jobId workerId leaseId : String) (leaseExpiresAt now : Int) :
    Tx (Option Job) := do
  let row ← query (update .job (some (.renewed leaseExpiresAt))
    (fun store => store.jobWhere jobId (fun row =>
      row.status = .running && jobLeaseHeld workerId leaseId now row))
    (fun row => { row with
      leaseExpiresAt := some leaseExpiresAt
      updatedAt := now }))
  pure (row.map mapJob)

/-- `result === null ? null : stringifyJson(result)` -/
def jsonColumn (value : Json) : Option Json :=
  if value.isNull then none else some value

def finishJob (jobId workerId leaseId : String) (outcome : Outcome)
    (result error : Json) (now : Int) : Tx (Option Job) := do
  let row ← query (update .job (some .finished)
    (fun store => store.jobWhere jobId (fun row =>
      row.isActive && jobLeaseHeld workerId leaseId now row))
    (fun row => { row with
      status := outcome.status
      result := jsonColumn result
      error := jsonColumn error
      leaseExpiresAt := none
      updatedAt := now }))
  pure (row.map mapJob)

def cancelJob (jobId : String) (now : Int) : Tx (Option Job) := do
  let row ← query (update .job (some .cancelled)
    (fun store => store.jobWhere jobId (fun row =>
      row.status = .queued || row.isActive))
    (fun row => { row with
      status := .cancelled
      leaseExpiresAt := none
      updatedAt := now }))
  pure (row.map mapJob)

/-- `offlineWorkerIdSet.has(…)` of a worker column. -/
def offlineHas (offlineWorkerIds : List String)
    (workerId : Option String) : Bool :=
  match workerId with
  | none => false
  | some id => id ∈ offlineWorkerIds

/-- `leaseExpiresAt !== null && leaseExpiresAt <= now` -/
def leaseOver (now : Int) (leaseExpiresAt : Option Int) : Bool :=
  match leaseExpiresAt with
  | none => false
  | some expires => expires ≤ now

def recoveryReason (offlineWorkerIds : List String)
    (workerId : Option String) : RecoveryReason :=
  if offlineHas offlineWorkerIds workerId then .heartbeatTimeout
  else .leaseExpired

/-- The loop of `recoverExpiredJobs` over the jobs it selected. -/
def recoverJobs (now : Int) (offlineWorkerIds : List String) :
    List Job → Tx (List RecoveredJob)
  | [] => pure []
  | job :: rest => do
      let terminal := job.maxAttempts ≤ job.attempt
      let row ← query (update .job (some .recovered)
        (fun store => store.jobWhere job.id JobRow.isActive)
        (fun row => { row with
          status := if terminal then .failed else .queued
          assignedWorkerId := none
          assignedGpuUuid := none
          leaseId := none
          leaseExpiresAt := none
          error := if terminal then some leaseExhausted else none
          updatedAt := now }))
      let recovered ← recoverJobs now offlineWorkerIds rest
      match row with
      | none => pure recovered
      | some row =>
          pure (⟨mapJob row,
            recoveryReason offlineWorkerIds job.assignedWorkerId⟩ :: recovered)

def recoverExpiredJobs (now : Int) (offlineWorkerIds : List String) :
    Tx (List RecoveredJob) := do
  let active ← listActiveJobs
  recoverJobs now offlineWorkerIds (active.filter (fun job =>
    leaseOver now job.leaseExpiresAt ||
      offlineHas offlineWorkerIds job.assignedWorkerId))

/-! ## Sessions -/

def insertSession (session : SessionRequest) : Tx SessionInsertion := do
  let row ← query (attempt (insert .session .inserted
    (fun store =>
      (store.sessions.find? session.id).isSome ||
        store.sessionKeyTaken session.projectId session.idempotencyKey)
    { id := session.id
      schemaVersion := session.schemaVersion
      projectId := session.projectId
      capability := session.capability
      priority := session.priority
      status := .requested
      gpuCount := 1
      minVramMiB := session.requirements.minVramMiB
      requiredCapabilities := session.requirements.capabilities
      requestedModel := session.requirements.model
      requestedAdapter := session.requirements.adapter
      metadata := session.metadata
      maxInterruptions := session.recovery.maxInterruptions
      interruptionCount := 0
      assignedWorkerId := none
      assignedGpuUuid := none
      leaseId := none
      leaseExpiresAt := none
      idempotencyKey := session.idempotencyKey
      createdAt := session.now
      updatedAt := session.now }))
  match row with
  | some row => pure ⟨mapSession row, false⟩
  | none =>
      match session.idempotencyKey with
      | none => throw .uniqueConstraint
      | some key =>
          let existing ← query (select (fun store _ =>
            store.sessionByKey session.projectId key))
          match existing with
          | some row => pure ⟨mapSession row, true⟩
          | none => throw .typeError

def getSession (sessionId : String) : Tx (Option Session) := do
  let row ← query (select (fun store _ => store.sessions.find? sessionId))
  pure (row.map mapSession)

def listSessions (options : ListOptions SessionStatus) :
    Tx (List Session) := do
  let rows ← query (select (fun store scan =>
    (orderBy (newestFirst Collation.binary)
      (store.selectSessions scan (sessionFilter options))).take options.limit))
  pure (rows.map mapSession)

def listRequestedSessions : Tx (List Session) := do
  let rows ← query (select (fun store scan =>
    orderBy (fun left right => queueOrder Collation.binary
        (left.priority, left.createdAt, left.id)
        (right.priority, right.createdAt, right.id))
      (store.selectSessions scan (fun row => row.status = .requested))))
  pure (rows.map mapSession)

def listOccupyingSessions : Tx (List Session) := do
  let rows ← query (select (fun store scan =>
    orderBy (oldestFirst Collation.binary)
      (store.selectSessions scan SessionRow.isOccupying)))
  pure (rows.map mapSession)

def assignSession (sessionId : String) (placement : Placement)
    (leaseId : String) (leaseExpiresAt now : Int) : Tx (Option Session) := do
  let row ← query (referencing placement.workerId
    (update .session (some (.assigned leaseId leaseExpiresAt))
      (fun store => store.sessionWhere sessionId
        (fun row => row.status = .requested))
      (fun row => { row with
        status := .allocated
        assignedWorkerId := some placement.workerId
        assignedGpuUuid := some placement.gpuUuid
        leaseId := some leaseId
        leaseExpiresAt := some leaseExpiresAt
        updatedAt := now })))
  pure (row.map mapSession)

def startSession (sessionId workerId leaseId : String)
    (leaseExpiresAt now : Int) : Tx (Option Session) := do
  let row ← query (update .session (some (.started leaseExpiresAt))
    (fun store => store.sessionWhere sessionId (fun row =>
      row.status = .allocated && sessionLeaseHeld workerId leaseId now row))
    (fun row => { row with
      status := .connecting
      leaseExpiresAt := some leaseExpiresAt
      updatedAt := now }))
  pure (row.map mapSession)

def activateSession (sessionId workerId leaseId : String)
    (leaseExpiresAt now : Int) : Tx (Option Session) := do
  let row ← query (update .session (some (.activated leaseExpiresAt))
    (fun store => store.sessionWhere sessionId (fun row =>
      row.status = .connecting && sessionLeaseHeld workerId leaseId now row))
    (fun row => { row with
      status := .active
      leaseExpiresAt := some leaseExpiresAt
      updatedAt := now }))
  pure (row.map mapSession)

def renewSession (sessionId workerId leaseId : String)
    (leaseExpiresAt now : Int) : Tx (Option Session) := do
  let row ← query (update .session (some (.renewed leaseExpiresAt))
    (fun store => store.sessionWhere sessionId (fun row =>
      row.isOccupying && sessionLeaseHeld workerId leaseId now row))
    (fun row => { row with
      leaseExpiresAt := some leaseExpiresAt
      updatedAt := now }))
  pure (row.map mapSession)

def closeSession (sessionId : String) (now : Int) : Tx (Option Session) := do
  let row ← query (update .session (some .closed)
    (fun store => store.sessionWhere sessionId (fun row =>
      row.status = .requested || row.isOccupying))
    (fun row => { row with
      status := .closed
      assignedWorkerId := none
      assignedGpuUuid := none
      leaseId := none
      leaseExpiresAt := none
      updatedAt := now }))
  pure (row.map mapSession)

/-- The loop of `recoverInterruptedSessions` over the sessions it selected. -/
def recoverSessions (now : Int) (offlineWorkerIds : List String) :
    List Session → Tx (List RecoveredSession)
  | [] => pure []
  | session :: rest => do
      let interruptionCount := session.interruptionCount + 1
      let replacementAllowed :=
        interruptionCount ≤ session.recovery.maxInterruptions
      let row ← query (update .session (some .recovered)
        (fun store => store.sessionWhere session.id SessionRow.isOccupying)
        (fun row => { row with
          status := if replacementAllowed then .requested else .interrupted
          interruptionCount := interruptionCount
          assignedWorkerId := none
          assignedGpuUuid := none
          leaseId := none
          leaseExpiresAt := none
          updatedAt := now }))
      let recovered ← recoverSessions now offlineWorkerIds rest
      match row with
      | none => pure recovered
      | some row =>
          pure (⟨mapSession row,
            recoveryReason offlineWorkerIds session.assignedWorkerId,
            session.status⟩ :: recovered)

def recoverInterruptedSessions (now : Int) (offlineWorkerIds : List String) :
    Tx (List RecoveredSession) := do
  let occupying ← listOccupyingSessions
  recoverSessions now offlineWorkerIds (occupying.filter (fun session =>
    leaseOver now session.leaseExpiresAt ||
      offlineHas offlineWorkerIds session.assignedWorkerId))

/-! ## Events and counts -/

def appendEvent (type : String) (subjectId : Option String) (payload : Json)
    (now : Int) : Tx Event := do
  let row ← query (insertEvent type subjectId payload now)
  query pruneEvents
  pure (mapEvent row)

def listEventsAfter (sequence limit : Nat) : Tx (List Event) := do
  let rows ← query (select (fun store _ =>
    (orderBy (fun left right => decide (left.sequence ≤ right.sequence))
      (store.events.rows.filter (fun row => decide (sequence < row.sequence)))
      ).take limit))
  pure (rows.map mapEvent)

def counts : Tx Counts := do
  let workerCounts ← query (select (fun store _ =>
    countBy [WorkerStatus.online, .offline]
      (store.workers.rows.map WorkerRow.status)))
  let jobCounts ← query (select (fun store _ =>
    countBy [JobStatus.queued, .leased, .running, .succeeded, .failed,
      .cancelled] (store.jobs.rows.map JobRow.status)))
  pure ⟨workerCounts, jobCounts⟩

/-! ## Execution attempts -/

def listBlockedGpuResources : Tx (List BlockedGpu) := do
  let rows ← query (select (fun store _ =>
    orderBy (fenceOrder Collation.binary)
      (store.fences.rows.filter (fun row => row.safetyState ≠ .clear))))
  pure (rows.map (fun row => ⟨row.workerId, row.gpuUuid⟩))

def observeExecutionAttempt (input : AttemptQuery) :
    Tx (Option AttemptObservation) :=
  query (select (fun store _ =>
    (store.attempts.rows.find? (matchingAttempt input)).map (fun row =>
      ⟨row, store.fences.find? (row.workerId, row.gpuUuid)⟩)))

/-- Another active job of the worker holds the GPU. -/
def occupiedJob (claim : ExecutionClaim) (store : Store) : Bool :=
  store.jobs.rows.any (fun row =>
    row.assignedWorkerId = some claim.workerId &&
      row.assignedGpuUuid = some claim.gpuUuid && row.isActive &&
      row.id ≠ (if claim.subjectKind = .job then claim.subjectId else ""))

/-- Another occupying session of the worker holds the GPU. -/
def occupiedSession (claim : ExecutionClaim) (store : Store) : Bool :=
  store.sessions.rows.any (fun row =>
    row.assignedWorkerId = some claim.workerId &&
      row.assignedGpuUuid = some claim.gpuUuid && row.isOccupying &&
      row.id ≠ (if claim.subjectKind = .session then claim.subjectId else ""))

/-- The fence is reserved for the claim unless it is already held. -/
def reserveFence (claim : ExecutionClaim) : Statement (Option FenceRow) :=
  referencing claim.workerId (upsert .fence .reserved
    (fun store => store.fences.find? (claim.workerId, claim.gpuUuid))
    (fun _ => false)
    { workerId := claim.workerId
      gpuUuid := claim.gpuUuid
      epoch := 1
      safetyState := .reserved
      subjectKind := some claim.subjectKind
      subjectId := some claim.subjectId
      leaseId := some claim.leaseId
      attemptId := some claim.attemptId
      updatedAt := claim.now }
    (fun row => row.safetyState = .clear)
    (fun row => { row with
      epoch := row.epoch + 1
      safetyState := .reserved
      subjectKind := some claim.subjectKind
      subjectId := some claim.subjectId
      leaseId := some claim.leaseId
      attemptId := some claim.attemptId
      updatedAt := claim.now }))

/-- The attempt row; its fence was written by the statement before. -/
def insertAttempt (claim : ExecutionClaim) (projectId : String)
    (fenceEpoch : Nat) : Statement AttemptRow :=
  insert .attempt .reserved
    (fun store =>
      (store.attempts.find? claim.attemptId).isSome ||
        store.attempts.rows.any (fun row =>
          row.workerId = claim.workerId && row.gpuUuid = claim.gpuUuid &&
            row.status ≠ .terminated))
    { attemptId := claim.attemptId
      subjectKind := claim.subjectKind
      subjectId := claim.subjectId
      projectId := projectId
      leaseId := claim.leaseId
      workerId := claim.workerId
      gpuUuid := claim.gpuUuid
      fenceEpoch := fenceEpoch
      artifactDigest := claim.artifactDigest
      adapterIdentity := claim.adapterIdentity
      runtimePolicyRevision := claim.runtimePolicyRevision
      approvalRef := claim.approvalRef
      status := .reserved
      createdAt := claim.now
      updatedAt := claim.now }

def reserveExecutionAttempt (claim : ExecutionClaim) :
    Tx ReservedAttempt := do
  let worker ← query (select (fun store _ =>
    store.workers.find? claim.workerId))
  let workload ← query (select (fun store _ => store.claimed claim))
  match validateCurrentExecutionOwner claim worker workload with
  | .error denial => throw denial
  | .ok owner => do
      let jobConflict ← query (select (fun store _ => occupiedJob claim store))
      let sessionConflict ← query (select (fun store _ =>
        occupiedSession claim store))
      if jobConflict || sessionConflict then
        throw (.claimDenied .resourceConflict)
      else do
        let row ← query (reserveFence claim)
        match row with
        | none => throw (.claimDenied .resourceHeld)
        | some fence => do
            let _ ← query (insertAttempt claim owner.projectId fence.epoch)
            pure ⟨claim.attemptId, fence.epoch, false⟩

end Database

/-- The SQLite engine; every transaction has the database to itself. -/
def sqlite : Persistence where
  upsertWorker := Database.upsertWorker
  updateWorkerHeartbeat := Database.updateWorkerHeartbeat
  setWorkerDrain := Database.setWorkerDrain
  listWorkers := Database.listWorkers
  getWorker := Database.getWorker
  markStaleWorkersOffline := Database.markStaleWorkersOffline
  insertJob := Database.insertJob
  getJob := Database.getJob
  listJobs := Database.listJobs
  listQueuedJobs := Database.listQueuedJobs
  listActiveJobs := Database.listActiveJobs
  listBlockedGpuResources := Database.listBlockedGpuResources
  assignJob := Database.assignJob
  startJob := Database.startJob
  renewJob := Database.renewJob
  finishJob := Database.finishJob
  cancelJob := Database.cancelJob
  recoverExpiredJobs := Database.recoverExpiredJobs
  insertSession := Database.insertSession
  getSession := Database.getSession
  listSessions := Database.listSessions
  listRequestedSessions := Database.listRequestedSessions
  listOccupyingSessions := Database.listOccupyingSessions
  assignSession := Database.assignSession
  startSession := Database.startSession
  activateSession := Database.activateSession
  renewSession := Database.renewSession
  closeSession := Database.closeSession
  recoverInterruptedSessions := Database.recoverInterruptedSessions
  appendEvent := Database.appendEvent
  listEventsAfter := Database.listEventsAfter
  counts := Database.counts
  observeExecutionAttempt := Database.observeExecutionAttempt
  reserveExecutionAttempt := Database.reserveExecutionAttempt
  tryAcquireSchedulerLock := pure true

end GpuLink
