import GpuLink.Store.Engines

/-!
# Runs of persistence calls

The contract as a set of calls, and the stores that calls can see: on SQLite
one call after the other, on PostgreSQL transactions composed of any calls, any
number of them at once.
-/

namespace GpuLink

open Transactional Sql

/-- A call of the persistence contract with its arguments. -/
inductive Operation where
  | upsertWorker (worker : WorkerRegistration)
  | updateWorkerHeartbeat (workerId : String) (heartbeat : Heartbeat)
  | setWorkerDrain (workerId : String) (drainMode : Bool) (now : Int)
  | listWorkers
  | getWorker (workerId : String)
  | markStaleWorkersOffline (staleBefore now : Int)
  | insertJob (job : JobRequest)
  | getJob (jobId : String)
  | listJobs (options : ListOptions JobStatus)
  | listQueuedJobs
  | listActiveJobs
  | listBlockedGpuResources
  | assignJob (jobId : String) (placement : Placement) (leaseId : String)
      (leaseExpiresAt now : Int)
  | startJob (jobId workerId leaseId : String) (leaseExpiresAt now : Int)
  | renewJob (jobId workerId leaseId : String) (leaseExpiresAt now : Int)
  | finishJob (jobId workerId leaseId : String) (outcome : Outcome)
      (result error : Json) (now : Int)
  | cancelJob (jobId : String) (now : Int)
  | recoverExpiredJobs (now : Int) (offlineWorkerIds : List String)
  | insertSession (session : SessionRequest)
  | getSession (sessionId : String)
  | listSessions (options : ListOptions SessionStatus)
  | listRequestedSessions
  | listOccupyingSessions
  | assignSession (sessionId : String) (placement : Placement)
      (leaseId : String) (leaseExpiresAt now : Int)
  | startSession (sessionId workerId leaseId : String)
      (leaseExpiresAt now : Int)
  | activateSession (sessionId workerId leaseId : String)
      (leaseExpiresAt now : Int)
  | renewSession (sessionId workerId leaseId : String)
      (leaseExpiresAt now : Int)
  | closeSession (sessionId : String) (now : Int)
  | recoverInterruptedSessions (now : Int) (offlineWorkerIds : List String)
  | appendEvent (type : String) (subjectId : Option String) (payload : Json)
      (now : Int)
  | listEventsAfter (sequence limit : Nat)
  | counts
  | observeExecutionAttempt (query : AttemptQuery)
  | reserveExecutionAttempt (claim : ExecutionClaim)
  | tryAcquireSchedulerLock

namespace Operation

/-- What a call answers with. -/
abbrev Answer : Operation → Type
  | upsertWorker _ => Worker
  | updateWorkerHeartbeat _ _ => Option Worker
  | setWorkerDrain _ _ _ => Option Worker
  | listWorkers => List Worker
  | getWorker _ => Option Worker
  | markStaleWorkersOffline _ _ => List String
  | insertJob _ => JobInsertion
  | getJob _ => Option Job
  | listJobs _ => List Job
  | listQueuedJobs => List Job
  | listActiveJobs => List Job
  | listBlockedGpuResources => List BlockedGpu
  | assignJob _ _ _ _ _ => Option Job
  | startJob _ _ _ _ _ => Option Job
  | renewJob _ _ _ _ _ => Option Job
  | finishJob _ _ _ _ _ _ _ => Option Job
  | cancelJob _ _ => Option Job
  | recoverExpiredJobs _ _ => List RecoveredJob
  | insertSession _ => SessionInsertion
  | getSession _ => Option Session
  | listSessions _ => List Session
  | listRequestedSessions => List Session
  | listOccupyingSessions => List Session
  | assignSession _ _ _ _ _ => Option Session
  | startSession _ _ _ _ _ => Option Session
  | activateSession _ _ _ _ _ => Option Session
  | renewSession _ _ _ _ _ => Option Session
  | closeSession _ _ => Option Session
  | recoverInterruptedSessions _ _ => List RecoveredSession
  | appendEvent _ _ _ _ => Event
  | listEventsAfter _ _ => List Event
  | counts => Counts
  | observeExecutionAttempt _ => Option AttemptObservation
  | reserveExecutionAttempt _ => ReservedAttempt
  | tryAcquireSchedulerLock => Bool

/-- The call on an engine. -/
def run (transaction : Persistence) : (operation : Operation) →
    Tx operation.Answer
  | upsertWorker worker => transaction.upsertWorker worker
  | updateWorkerHeartbeat workerId heartbeat =>
      transaction.updateWorkerHeartbeat workerId heartbeat
  | setWorkerDrain workerId drainMode now =>
      transaction.setWorkerDrain workerId drainMode now
  | listWorkers => transaction.listWorkers
  | getWorker workerId => transaction.getWorker workerId
  | markStaleWorkersOffline staleBefore now =>
      transaction.markStaleWorkersOffline staleBefore now
  | insertJob job => transaction.insertJob job
  | getJob jobId => transaction.getJob jobId
  | listJobs options => transaction.listJobs options
  | listQueuedJobs => transaction.listQueuedJobs
  | listActiveJobs => transaction.listActiveJobs
  | listBlockedGpuResources => transaction.listBlockedGpuResources
  | assignJob jobId placement leaseId leaseExpiresAt now =>
      transaction.assignJob jobId placement leaseId leaseExpiresAt now
  | startJob jobId workerId leaseId leaseExpiresAt now =>
      transaction.startJob jobId workerId leaseId leaseExpiresAt now
  | renewJob jobId workerId leaseId leaseExpiresAt now =>
      transaction.renewJob jobId workerId leaseId leaseExpiresAt now
  | finishJob jobId workerId leaseId outcome result error now =>
      transaction.finishJob jobId workerId leaseId outcome result error now
  | cancelJob jobId now => transaction.cancelJob jobId now
  | recoverExpiredJobs now offlineWorkerIds =>
      transaction.recoverExpiredJobs now offlineWorkerIds
  | insertSession session => transaction.insertSession session
  | getSession sessionId => transaction.getSession sessionId
  | listSessions options => transaction.listSessions options
  | listRequestedSessions => transaction.listRequestedSessions
  | listOccupyingSessions => transaction.listOccupyingSessions
  | assignSession sessionId placement leaseId leaseExpiresAt now =>
      transaction.assignSession sessionId placement leaseId leaseExpiresAt now
  | startSession sessionId workerId leaseId leaseExpiresAt now =>
      transaction.startSession sessionId workerId leaseId leaseExpiresAt now
  | activateSession sessionId workerId leaseId leaseExpiresAt now =>
      transaction.activateSession sessionId workerId leaseId leaseExpiresAt now
  | renewSession sessionId workerId leaseId leaseExpiresAt now =>
      transaction.renewSession sessionId workerId leaseId leaseExpiresAt now
  | closeSession sessionId now => transaction.closeSession sessionId now
  | recoverInterruptedSessions now offlineWorkerIds =>
      transaction.recoverInterruptedSessions now offlineWorkerIds
  | appendEvent type subjectId payload now =>
      transaction.appendEvent type subjectId payload now
  | listEventsAfter sequence limit =>
      transaction.listEventsAfter sequence limit
  | counts => transaction.counts
  | observeExecutionAttempt query =>
      transaction.observeExecutionAttempt query
  | reserveExecutionAttempt claim => transaction.reserveExecutionAttempt claim
  | tryAcquireSchedulerLock => transaction.tryAcquireSchedulerLock

end Operation

/-- The methods that only reads of the API call are related. -/
structure Persistence.Reads (left : Persistence) (relation : TxRelation)
    (right : Persistence) : Prop where
  getWorker : ∀ workerId,
    relation.rel (left.getWorker workerId) (right.getWorker workerId)
  listJobs : ∀ options,
    relation.rel (left.listJobs options) (right.listJobs options)
  listSessions : ∀ options,
    relation.rel (left.listSessions options) (right.listSessions options)
  listEventsAfter : ∀ sequence limit,
    relation.rel (left.listEventsAfter sequence limit)
      (right.listEventsAfter sequence limit)
  counts : relation.rel left.counts right.counts
  observeExecutionAttempt : ∀ query,
    relation.rel (left.observeExecutionAttempt query)
      (right.observeExecutionAttempt query)

theorem Persistence.operation_related {relation : TxRelation}
    {left right : Persistence} (serves : left.Serves relation right)
    (schedules : left.Schedules relation right)
    (reads : left.Reads relation right) (operation : Operation) :
    relation.rel (operation.run left) (operation.run right) := by
  cases operation with
  | upsertWorker worker => exact serves.upsertWorker worker
  | updateWorkerHeartbeat workerId heartbeat =>
      exact serves.updateWorkerHeartbeat workerId heartbeat
  | setWorkerDrain workerId drainMode now =>
      exact serves.setWorkerDrain workerId drainMode now
  | listWorkers => exact schedules.listWorkers
  | getWorker workerId => exact reads.getWorker workerId
  | markStaleWorkersOffline staleBefore now =>
      exact schedules.markStaleWorkersOffline staleBefore now
  | insertJob job => exact serves.insertJob job
  | getJob jobId => exact serves.getJob jobId
  | listJobs options => exact reads.listJobs options
  | listQueuedJobs => exact schedules.listQueuedJobs
  | listActiveJobs => exact schedules.listActiveJobs
  | listBlockedGpuResources => exact schedules.listBlockedGpuResources
  | assignJob jobId placement leaseId leaseExpiresAt now =>
      exact schedules.assignJob jobId placement leaseId leaseExpiresAt now
  | startJob jobId workerId leaseId leaseExpiresAt now =>
      exact serves.startJob jobId workerId leaseId leaseExpiresAt now
  | renewJob jobId workerId leaseId leaseExpiresAt now =>
      exact serves.renewJob jobId workerId leaseId leaseExpiresAt now
  | finishJob jobId workerId leaseId outcome result error now =>
      exact serves.finishJob jobId workerId leaseId outcome result error now
  | cancelJob jobId now => exact serves.cancelJob jobId now
  | recoverExpiredJobs now offlineWorkerIds =>
      exact schedules.recoverExpiredJobs now offlineWorkerIds
  | insertSession session => exact serves.insertSession session
  | getSession sessionId => exact serves.getSession sessionId
  | listSessions options => exact reads.listSessions options
  | listRequestedSessions => exact schedules.listRequestedSessions
  | listOccupyingSessions => exact schedules.listOccupyingSessions
  | assignSession sessionId placement leaseId leaseExpiresAt now =>
      exact schedules.assignSession sessionId placement leaseId leaseExpiresAt
        now
  | startSession sessionId workerId leaseId leaseExpiresAt now =>
      exact serves.startSession sessionId workerId leaseId leaseExpiresAt now
  | activateSession sessionId workerId leaseId leaseExpiresAt now =>
      exact serves.activateSession sessionId workerId leaseId leaseExpiresAt now
  | renewSession sessionId workerId leaseId leaseExpiresAt now =>
      exact serves.renewSession sessionId workerId leaseId leaseExpiresAt now
  | closeSession sessionId now => exact serves.closeSession sessionId now
  | recoverInterruptedSessions now offlineWorkerIds =>
      exact schedules.recoverInterruptedSessions now offlineWorkerIds
  | appendEvent type subjectId payload now =>
      exact serves.appendEvent type subjectId payload now
  | listEventsAfter sequence limit =>
      exact reads.listEventsAfter sequence limit
  | counts => exact reads.counts
  | observeExecutionAttempt query => exact reads.observeExecutionAttempt query
  | reserveExecutionAttempt claim =>
      exact serves.reserveExecutionAttempt claim
  | tryAcquireSchedulerLock => exact schedules.tryAcquireSchedulerLock

/-! ## Both engines -/

theorem postgres_reads (text : Collation) (allowed : Call → Prop) :
    (postgres text).Reads (.steady (Moved allowed)) (postgres text) where
  getWorker _ := Program.Steady.bind moved_select (fun _ => trivial)
  listJobs _ := Program.Steady.bind moved_select (fun _ => trivial)
  listSessions _ := Program.Steady.bind moved_select (fun _ => trivial)
  listEventsAfter _ _ := Program.Steady.bind moved_select (fun _ => trivial)
  counts := Program.Steady.bind moved_select
    (fun _ => Program.Steady.bind moved_select (fun _ => trivial))
  observeExecutionAttempt _ := moved_select

theorem sqlite_reads : sqlite.Reads .refines (postgres Collation.binary) where
  getWorker _ := Program.Refines.refl _
  listJobs _ := Program.Refines.refl _
  listSessions _ := Program.Refines.refl _
  listEventsAfter _ _ := Program.Refines.refl _
  counts := Program.Refines.refl _
  observeExecutionAttempt _ := Program.Refines.refl _

theorem operation_steady (text : Collation) (operation : Operation) :
    (operation.run (postgres text)).Steady (Moved (fun _ => True)) :=
  Persistence.operation_related (postgres_serves text (fun _ _ => trivial))
    (postgres_schedules text (fun _ _ => trivial)) (postgres_reads text _)
    operation

theorem operation_refines (operation : Operation) :
    (operation.run sqlite).Refines
      (operation.run (postgres Collation.binary)) :=
  Persistence.operation_related sqlite_serves sqlite_schedules sqlite_reads
    operation

/-! ## Stores that a call can see -/

/-- Write locks of the database: rows with the same key, and rows that a unique
index holds apart. -/
instance : RowLocks Store where
  Clash left right :=
    left.key = right.key ∨
      match left.row, right.row with
      | .worker first, .worker second => first.name = second.name
      | .job first, .job second =>
          first.projectId = second.projectId ∧ first.idempotencyKey ≠ none ∧
            first.idempotencyKey = second.idempotencyKey
      | .session first, .session second =>
          first.projectId = second.projectId ∧ first.idempotencyKey ≠ none ∧
            first.idempotencyKey = second.idempotencyKey
      | .attempt first, .attempt second =>
          first.workerId = second.workerId ∧ first.gpuUuid = second.gpuUuid
      | _, _ => False
  clash_of_key _ _ same := Or.inl same

instance : DecidableRel (RowLocks.Clash Store) := by
  intro left right
  have row : Decidable (match left.row, right.row with
      | .worker first, .worker second => first.name = second.name
      | .job first, .job second =>
          first.projectId = second.projectId ∧ first.idempotencyKey ≠ none ∧
            first.idempotencyKey = second.idempotencyKey
      | .session first, .session second =>
          first.projectId = second.projectId ∧ first.idempotencyKey ≠ none ∧
            first.idempotencyKey = second.idempotencyKey
      | .attempt first, .attempt second =>
          first.workerId = second.workerId ∧ first.gpuUuid = second.gpuUuid
      | _, _ => False) := by
    split <;> infer_instance
  exact @instDecidableOr _ _ inferInstance row

/-- A store and the last sequence number it has handed out. -/
abbrev Database.State : Type := Store × Nat

/-- Transactions of any number of clients, those still open included. -/
abbrev Replicas : Type 1 := Cluster Store Scan Write TxError

/-- Code that goes from one persistence call to the next. -/
inductive Composed (transaction : Persistence) : Tx Unit → Prop where
  | done (outcome : Except TxError Unit) : Composed transaction (.done outcome)
  | call (operation : Operation) {next : operation.Answer → Tx Unit} :
      (∀ answer, Composed transaction (next answer)) →
      Composed transaction ((operation.run transaction).bind next)

/-- One persistence call as a transaction of its own. -/
def Called (transaction : Persistence) (code : Tx Unit) : Prop :=
  ∃ operation : Operation, code = do
    let _ ← operation.run transaction

/-- What the next call can see in a run from an empty schema. -/
inductive Observed (text : Collation) : Persistence → Store → Prop where
  | serial {state : Database.State} :
      Relation.ReflTransGen (SerialStep (Called sqlite)) (Store.empty, 0)
        state →
      Observed text sqlite state.1
  | replicated {replicas : Replicas} {name : Nat}
      {opened : Open Store Scan Write TxError} :
      Cluster.Steps (Composed (postgres text)) (Cluster.initial Store.empty)
        replicas →
      replicas.transactions name = some opened →
      Observed text (postgres text) (replicas.view opened)

theorem composed_steady {text : Collation} {code : Tx Unit}
    (composed : Composed (postgres text) code) :
    code.Steady (Moved (fun _ => True)) := by
  induction composed with
  | done outcome => trivial
  | call operation _ induction =>
      exact Program.Steady.bind (operation_steady text operation) induction

theorem called_postgres {code : Tx Unit} (called : Called sqlite code) :
    ∃ refined : Tx Unit, code.Refines refined ∧
      refined.Steady (Moved (fun _ => True)) := by
  obtain ⟨operation, rfl⟩ := called
  exact ⟨do let _ ← operation.run (postgres Collation.binary),
    Program.Refines.bind (operation_refines operation)
      (fun _ => Program.Refines.refl _),
    Program.Steady.bind (operation_steady Collation.binary operation)
      (fun _ => trivial)⟩

/-- What every move does to a row, a run has done to every row that a call
sees. -/
theorem Observed.rowwise
    {rel : (key : RowKey) → Kept key.Row → Kept key.Row → Prop}
    (refl : ∀ key kept, rel key kept kept)
    (trans : ∀ key {a b c}, rel key a b → rel key b c → rel key a c)
    (moves : ∀ key {before after},
      KeptMove (fun _ => True) key before after → rel key before after)
    {text : Collation} {transaction : Persistence} {store : Store}
    (observed : Observed text transaction store) :
    Rowwise rel Store.empty store := by
  cases observed with
  | serial run =>
      induction run with
      | refl => exact fun key => refl key _
      | tail _ step induction =>
          cases step with
          | commit called run =>
              obtain ⟨refined, refines, steady⟩ := called_postgres called
              have moved : Rowwise rel _ _ := Program.Runs.steady
                (fun s key => refl key _)
                (fun first second key => trans key (first key) (second key))
                (refines _ _ _ _ _ run)
                (steady.mono (fun moved key => moves key (moved key)))
              exact fun key => trans key (induction key) (moved key)
  | replicated run found =>
      have start : ∀ code, Composed (postgres text) code →
          code.Steady (Rowwise rel) := fun code composed =>
        (composed_steady composed).mono (fun moved key => moves key (moved key))
      obtain ⟨steady, first⟩ := Cluster.steady start refl trans run
        (Cluster.steady_initial Store.empty)
      exact fun key => trans key (first key) ((steady.opened _ _ found).2 key)

/-! ## A small run -/

def sampleGpu : Gpu where
  uuid := ⟨"GPU-0", by decide⟩
  index := 0
  name := "sample"
  memoryTotalMiB := 24000
  memoryUsedMiB := 0
  utilizationPercent := 0
  temperatureC := 40
  powerDrawWatts := none

/-- A worker with one GPU. -/
def sampleWorker : WorkerRegistration where
  id := "worker_1"
  name := "host"
  version := "1"
  baseUrl := none
  labels := []
  capabilities := ["cuda"]
  adapterManifests := []
  adapterHealth := []
  warmModels := []
  modelInventory := []
  gpus := [sampleGpu]
  now := 1000

def sampleJob (id : String) (now : Int) : JobRequest where
  id := id
  projectId := "project"
  type := "cuda"
  priority := 0
  gpuCount := 1
  minVramMiB := 1
  requiredCapabilities := ["cuda"]
  requestedModel := none
  payload := .object []
  maxAttempts := 3
  attemptsBounded := by decide
  idempotencyKey := none
  now := now

/-- A worker, a job, and the job's lease. -/
def sampleOperations : List Operation :=
  [.upsertWorker sampleWorker, .insertJob (sampleJob "job_1" 1001),
    .assignJob "job_1" ⟨"worker_1", sampleGpu.uuid⟩ "lease_1" 2000 1002]

def Operation.code (operation : Operation) : Tx Unit := do
  let _ ← operation.run sqlite

/-- The given calls on SQLite, from an empty schema. -/
def calledRun (operations : List Operation) : Option Database.State :=
  playAll Scan.stored (operations.map Operation.code) (Store.empty, 0)

def Database.State.called (operations : List Operation) : Database.State :=
  (calledRun operations).getD (Store.empty, 0)

theorem observed_called {operations : List Operation}
    (commits : (calledRun operations).isSome) (text : Collation) :
    Observed text sqlite (Database.State.called operations).1 := by
  obtain ⟨final, played⟩ := Option.isSome_iff_exists.mp commits
  have reached : Database.State.called operations = final := by
    simp [Database.State.called, played]
  rw [reached]
  refine .serial (serial_of_playAll ?_ played)
  intro code member
  obtain ⟨operation, _, rfl⟩ := List.mem_map.mp member
  exact ⟨operation, rfl⟩

end GpuLink
