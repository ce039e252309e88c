import GpuLink.Store.Rows

/-!
# The persistence contract

What the service and the scheduler hand to a persistence call and what they get
back, and the calls themselves as programs of statements.  A database engine is
one value of `Persistence`.
-/

namespace GpuLink

open Transactional

/-! ## Mapped rows -/

structure Worker where
  id : String
  name : String
  version : String
  baseUrl : Option String
  status : WorkerStatus
  drainMode : Bool
  labels : List (String × String)
  capabilities : List String
  adapterManifests : List AdapterManifest
  adapterHealth : List AdapterHealth
  warmModels : List String
  modelInventory : List ModelEntry
  gpus : List Gpu
  lastSeenAt : Int
  createdAt : Int
  updatedAt : Int

structure Constraints where
  gpuCount : Int
  minVramMiB : Int
  capabilities : List String
  model : Option String

structure Job where
  id : String
  projectId : String
  type : String
  priority : Int
  status : JobStatus
  constraints : Constraints
  payload : Json
  result : Json
  error : Json
  assignedWorkerId : Option String
  assignedGpuUuid : Option NonEmptyString
  leaseId : Option String
  leaseExpiresAt : Option Int
  attempt : Nat
  maxAttempts : Nat
  idempotencyKey : Option NonEmptyString
  createdAt : Int
  updatedAt : Int

structure Requirements where
  gpuCount : Int
  minVramMiB : Int
  capabilities : List String
  model : Option String
  adapter : Option String

structure Recovery where
  maxInterruptions : Nat

structure Session where
  id : String
  schemaVersion : Int
  projectId : String
  capability : String
  priority : Int
  status : SessionStatus
  requirements : Requirements
  metadata : Json
  recovery : Recovery
  interruptionCount : Nat
  assignedWorkerId : Option String
  assignedGpuUuid : Option NonEmptyString
  leaseId : Option String
  leaseExpiresAt : Option Int
  idempotencyKey : Option NonEmptyString
  createdAt : Int
  updatedAt : Int

structure Event where
  sequence : Nat
  type : String
  subjectId : Option String
  payload : Json
  createdAt : Int

/-! ## Arguments and answers -/

/-- A validated registration. -/
structure WorkerRegistration where
  id : String
  name : String
  version : String
  baseUrl : Option String
  labels : List (String × String)
  capabilities : List String
  adapterManifests : List AdapterManifest
  adapterHealth : List AdapterHealth
  warmModels : List String
  modelInventory : List ModelEntry
  gpus : List Gpu
  now : Int

structure Heartbeat where
  capabilities : List String
  adapterManifests : List AdapterManifest
  adapterHealth : List AdapterHealth
  warmModels : List String
  modelInventory : List ModelEntry
  gpus : List Gpu
  now : Int

/-- A validated job submission. -/
structure JobRequest where
  id : String
  projectId : String
  type : String
  priority : Int
  gpuCount : Int
  minVramMiB : Int
  requiredCapabilities : List String
  requestedModel : Option String
  payload : Json
  maxAttempts : Nat
  attemptsBounded : 1 ≤ maxAttempts ∧ maxAttempts ≤ 20
  idempotencyKey : Option NonEmptyString
  now : Int

/-- A validated session submission. -/
structure SessionRequest where
  id : String
  schemaVersion : Int
  projectId : String
  capability : String
  priority : Int
  requirements : Requirements
  metadata : Json
  recovery : Recovery
  interruptionsBounded : recovery.maxInterruptions ≤ 3
  idempotencyKey : Option NonEmptyString
  now : Int

structure JobInsertion where
  job : Job
  duplicate : Bool

structure SessionInsertion where
  session : Session
  duplicate : Bool

structure ListOptions (σ : Type) where
  status : Option σ := none
  workerId : Option String := none
  limit : Nat := 100

structure Placement where
  workerId : String
  gpuUuid : NonEmptyString
  deriving DecidableEq

inductive RecoveryReason where
  | heartbeatTimeout
  | leaseExpired
  deriving DecidableEq, Repr

structure RecoveredJob where
  job : Job
  reason : RecoveryReason

structure RecoveredSession where
  session : Session
  reason : RecoveryReason
  previousStatus : SessionStatus

/-- The two outcomes a worker may report. -/
inductive Outcome where
  | succeeded
  | failed
  deriving DecidableEq, Repr

def Outcome.status : Outcome → JobStatus
  | .succeeded => .succeeded
  | .failed => .failed

structure BlockedGpu where
  workerId : String
  gpuUuid : NonEmptyString
  deriving DecidableEq

structure Counts where
  workers : List (WorkerStatus × Nat)
  jobs : List (JobStatus × Nat)

/-- A claim that has passed `validateExecutionClaim`. -/
structure ExecutionClaim where
  subjectKind : SubjectKind
  subjectId : String
  leaseId : String
  workerId : String
  gpuUuid : NonEmptyString
  attemptId : String
  artifactDigest : String
  adapterIdentity : String
  runtimePolicyRevision : String
  approvalRef : String
  now : Int
  maxHeartbeatAgeMs : Int

structure ReservedAttempt where
  attemptId : String
  fenceEpoch : Nat
  canLaunch : Bool
  deriving DecidableEq, Repr

structure AttemptQuery where
  attemptId : String
  workerId : String
  projectId : String
  subjectKind : SubjectKind
  subjectId : String
  leaseId : String

structure AttemptObservation where
  attempt : AttemptRow
  fence : Option FenceRow

/-! ## Errors -/

inductive ClaimDenial where
  | invalidClaim
  | workerUnavailable
  | staleLease
  | resourceConflict
  | resourceHeld
  | allocationBusy
  deriving DecidableEq, Repr

/-- `BrokerClaimError` -/
structure BrokerClaimError where
  code : String
  statusCode : Nat := 409
  deriving DecidableEq, Repr

/-- Everything that makes a transaction roll back. -/
inductive TxError where
  | uniqueConstraint
  | foreignKey
  | noRow (message : String)
  | typeError
  | notFound (message : String)
  | conflict (message : String)
  | claimDenied (code : ClaimDenial)
  | lockNotAvailable
  | broker (error : BrokerClaimError)
  deriving DecidableEq, Repr

/-! ## Calls -/

/-- The order in which a statement happens to meet rows that its SQL leaves
unordered. -/
structure Scan where
  workers : List WorkerRow → List WorkerRow
  jobs : List JobRow → List JobRow
  sessions : List SessionRow → List SessionRow
  workersPerm : ∀ rows, (workers rows).Perm rows
  jobsPerm : ∀ rows, (jobs rows).Perm rows
  sessionsPerm : ∀ rows, (sessions rows).Perm rows

/-- Rows in insertion order. -/
def Scan.stored : Scan where
  workers := id
  jobs := id
  sessions := id
  workersPerm _ := List.Perm.refl _
  jobsPerm _ := List.Perm.refl _
  sessionsPerm _ := List.Perm.refl _

abbrev Statement (β : Type) : Type :=
  Input Store Scan → Except TxError (β × Effect Write)

abbrev Tx (α : Type) : Type 1 :=
  Program Store Scan Write TxError α

/-- The methods of a transaction. -/
structure Persistence where
  upsertWorker : WorkerRegistration → Tx Worker
  updateWorkerHeartbeat : String → Heartbeat → Tx (Option Worker)
  setWorkerDrain : String → Bool → Int → Tx (Option Worker)
  listWorkers : Tx (List Worker)
  getWorker : String → Tx (Option Worker)
  markStaleWorkersOffline : (staleBefore now : Int) → Tx (List String)
  insertJob : JobRequest → Tx JobInsertion
  getJob : String → Tx (Option Job)
  listJobs : ListOptions JobStatus → Tx (List Job)
  listQueuedJobs : Tx (List Job)
  listActiveJobs : Tx (List Job)
  listBlockedGpuResources : Tx (List BlockedGpu)
  assignJob : (jobId : String) → Placement → (leaseId : String) →
    (leaseExpiresAt now : Int) → Tx (Option Job)
  startJob : (jobId workerId leaseId : String) → (leaseExpiresAt now : Int) →
    Tx (Option Job)
  renewJob : (jobId workerId leaseId : String) → (leaseExpiresAt now : Int) →
    Tx (Option Job)
  finishJob : (jobId workerId leaseId : String) → Outcome →
    (result error : Json) → (now : Int) → Tx (Option Job)
  cancelJob : (jobId : String) → (now : Int) → Tx (Option Job)
  recoverExpiredJobs : (now : Int) → (offlineWorkerIds : List String) →
    Tx (List RecoveredJob)
  insertSession : SessionRequest → Tx SessionInsertion
  getSession : String → Tx (Option Session)
  listSessions : ListOptions SessionStatus → Tx (List Session)
  listRequestedSessions : Tx (List Session)
  listOccupyingSessions : Tx (List Session)
  assignSession : (sessionId : String) → Placement → (leaseId : String) →
    (leaseExpiresAt now : Int) → Tx (Option Session)
  startSession : (sessionId workerId leaseId : String) →
    (leaseExpiresAt now : Int) → Tx (Option Session)
  activateSession : (sessionId workerId leaseId : String) →
    (leaseExpiresAt now : Int) → Tx (Option Session)
  renewSession : (sessionId workerId leaseId : String) →
    (leaseExpiresAt now : Int) → Tx (Option Session)
  closeSession : (sessionId : String) → (now : Int) → Tx (Option Session)
  recoverInterruptedSessions : (now : Int) → (offlineWorkerIds : List String) →
    Tx (List RecoveredSession)
  appendEvent : (type : String) → (subjectId : Option String) →
    (payload : Json) → (now : Int) → Tx Event
  listEventsAfter : (sequence limit : Nat) → Tx (List Event)
  counts : Tx Counts
  observeExecutionAttempt : AttemptQuery → Tx (Option AttemptObservation)
  reserveExecutionAttempt : ExecutionClaim → Tx ReservedAttempt
  tryAcquireSchedulerLock : Tx Bool

end GpuLink
