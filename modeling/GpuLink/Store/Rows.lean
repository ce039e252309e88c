import GpuLink.Library.KeyedTable
import GpuLink.Library.ReadCommitted
import GpuLink.Shared.Json

/-!
# Rows of the control-plane store

The columns of the six tables, the same for both database engines, and the
store as keyed tables.  Beside the tables stands a journal of the persistence
calls that changed each row, in commit order; no statement reads it.
-/

namespace GpuLink

open Transactional

/-! ## Columns -/

inductive WorkerStatus where
  | online
  | offline
  deriving DecidableEq, Repr

inductive JobStatus where
  | queued
  | leased
  | running
  | succeeded
  | failed
  | cancelled
  deriving DecidableEq, Repr

inductive SessionStatus where
  | requested
  | allocated
  | connecting
  | active
  | interrupted
  | closed
  deriving DecidableEq, Repr

inductive SafetyState where
  | clear
  | allocated
  | reserved
  | running
  | cleanupRequired
  | quarantined
  deriving DecidableEq, Repr

inductive SubjectKind where
  | session
  | job
  deriving DecidableEq, Repr

inductive AttemptStatus where
  | reserved
  | preparing
  | running
  | stopping
  | terminated
  | cleanupRequired
  | quarantined
  deriving DecidableEq, Repr

inductive ExecutionMode where
  | inProcess
  | boundedProcess
  | streamingGateway
  deriving DecidableEq, Repr

inductive HealthState where
  | ready
  | unavailable
  | notInstalled
  deriving DecidableEq, Repr

structure AdapterManifest where
  schemaVersion : Nat
  type : String
  adapterId : Option String
  version : String
  executionMode : ExecutionMode
  deriving DecidableEq, Repr

structure AdapterHealth where
  schemaVersion : Nat
  type : String
  adapterId : Option String
  state : HealthState
  code : String
  checkedAt : Int
  deriving DecidableEq, Repr

structure ModelEntry where
  schemaVersion : Nat
  modelId : String
  revision : String
  adapterType : String
  deriving DecidableEq, Repr

structure Gpu where
  uuid : NonEmptyString
  index : Int
  name : String
  memoryTotalMiB : Int
  memoryUsedMiB : Int
  utilizationPercent : Int
  temperatureC : Int
  powerDrawWatts : Option Rat
  deriving DecidableEq, Repr

structure WorkerRow where
  id : String
  name : String
  version : String
  baseUrl : Option String
  status : WorkerStatus
  drainMode : Bool
  labels : List (String × String)
  capabilities : List String
  adapterManifests : List AdapterManifest
  adapterHealth : List AdapterHealth
  warmModels : List String
  modelInventory : List ModelEntry
  gpuInventory : List Gpu
  lastSeenAt : Int
  createdAt : Int
  updatedAt : Int
  deriving DecidableEq, Repr

structure JobRow where
  id : String
  projectId : String
  type : String
  priority : Int
  status : JobStatus
  gpuCount : Int
  minVramMiB : Int
  requiredCapabilities : List String
  requestedModel : Option String
  payload : Json
  result : Option Json
  error : Option Json
  assignedWorkerId : Option String
  assignedGpuUuid : Option NonEmptyString
  leaseId : Option String
  leaseExpiresAt : Option Int
  attempt : Nat
  maxAttempts : Nat
  idempotencyKey : Option NonEmptyString
  createdAt : Int
  updatedAt : Int

structure SessionRow where
  id : String
  schemaVersion : Int
  projectId : String
  capability : String
  priority : Int
  status : SessionStatus
  gpuCount : Int
  minVramMiB : Int
  requiredCapabilities : List String
  requestedModel : Option String
  requestedAdapter : Option String
  metadata : Json
  maxInterruptions : Nat
  interruptionCount : Nat
  assignedWorkerId : Option String
  assignedGpuUuid : Option NonEmptyString
  leaseId : Option String
  leaseExpiresAt : Option Int
  idempotencyKey : Option NonEmptyString
  createdAt : Int
  updatedAt : Int

structure EventRow where
  sequence : Nat
  type : String
  subjectId : Option String
  payload : Json
  createdAt : Int

structure FenceRow where
  workerId : String
  gpuUuid : NonEmptyString
  epoch : Nat
  safetyState : SafetyState
  subjectKind : Option SubjectKind
  subjectId : Option String
  leaseId : Option String
  attemptId : Option String
  updatedAt : Int
  deriving DecidableEq, Repr

structure AttemptRow where
  attemptId : String
  subjectKind : SubjectKind
  subjectId : String
  projectId : String
  leaseId : String
  workerId : String
  gpuUuid : NonEmptyString
  fenceEpoch : Nat
  artifactDigest : String
  adapterIdentity : String
  runtimePolicyRevision : String
  approvalRef : String
  status : AttemptStatus
  createdAt : Int
  updatedAt : Int
  deriving DecidableEq, Repr

/-- `status IN ('leased', 'running')` -/
def JobRow.isActive (row : JobRow) : Bool :=
  row.status = .leased || row.status = .running

/-- `status IN ('allocated', 'connecting', 'active')` -/
def SessionRow.isOccupying (row : SessionRow) : Bool :=
  row.status = .allocated || row.status = .connecting || row.status = .active

/-! ## The store -/

/-- Primary keys of the six tables. -/
inductive RowKey where
  | worker (id : String)
  | job (id : String)
  | session (id : String)
  | fence (workerId : String) (gpuUuid : NonEmptyString)
  | attempt (id : String)
  | event (sequence : Nat)
  deriving DecidableEq

def RowKey.Row : RowKey → Type
  | .worker _ => WorkerRow
  | .job _ => JobRow
  | .session _ => SessionRow
  | .fence _ _ => FenceRow
  | .attempt _ => AttemptRow
  | .event _ => EventRow

/-- The persistence call behind a write, with the lease values it wrote. -/
inductive Call where
  | registered
  | heartbeat
  | drainSet
  | markedOffline
  | inserted
  | assigned (leaseId : String) (leaseExpiresAt : Int)
  | started (leaseExpiresAt : Int)
  | activated (leaseExpiresAt : Int)
  | renewed (leaseExpiresAt : Int)
  | finished
  | cancelled
  | closed
  | recovered
  | appended
  | pruned
  | reserved
  deriving DecidableEq, Repr

/-- What the store holds at a key: the row, and the calls that changed it. -/
structure Kept (ρ : Type) where
  row : Option ρ
  calls : List Call

structure Store where
  workers : KeyedTable WorkerRow.id
  jobs : KeyedTable JobRow.id
  sessions : KeyedTable SessionRow.id
  fences : KeyedTable (fun row : FenceRow => (row.workerId, row.gpuUuid))
  attempts : KeyedTable AttemptRow.attemptId
  events : KeyedTable EventRow.sequence
  journal : List (RowKey × Call)

/-- An empty schema. -/
def Store.empty : Store where
  workers := .empty
  jobs := .empty
  sessions := .empty
  fences := .empty
  attempts := .empty
  events := .empty
  journal := []

/-- The row a write leaves behind, or the event it deletes. -/
inductive RowWrite where
  | worker (row : WorkerRow)
  | job (row : JobRow)
  | session (row : SessionRow)
  | fence (row : FenceRow)
  | attempt (row : AttemptRow)
  | event (row : EventRow)
  | deleteEvent (sequence : Nat)

/-- A write and the call it is noted under; a `FOR UPDATE` lock writes a row
back as it was and is not noted. -/
structure Write where
  row : RowWrite
  call : Option Call

namespace Write

def key (write : Write) : RowKey :=
  match write.row with
  | .worker row => .worker row.id
  | .job row => .job row.id
  | .session row => .session row.id
  | .fence row => .fence row.workerId row.gpuUuid
  | .attempt row => .attempt row.attemptId
  | .event row => .event row.sequence
  | .deleteEvent sequence => .event sequence

/-- The row that stands at the key afterwards. -/
def left : (write : Write) → Option write.key.Row
  | ⟨.worker row, _⟩ => some row
  | ⟨.job row, _⟩ => some row
  | ⟨.session row, _⟩ => some row
  | ⟨.fence row, _⟩ => some row
  | ⟨.attempt row, _⟩ => some row
  | ⟨.event row, _⟩ => some row
  | ⟨.deleteEvent _, _⟩ => none

end Write

namespace Store

/-- The calls that changed the row at `key`, oldest first. -/
def calls (store : Store) (key : RowKey) : List Call :=
  (store.journal.filter (fun entry => entry.1 = key)).map (·.2)

/-- The row at a key. -/
def row? (store : Store) : (key : RowKey) → Option key.Row
  | .worker id => store.workers.find? id
  | .job id => store.jobs.find? id
  | .session id => store.sessions.find? id
  | .fence workerId gpuUuid => store.fences.find? (workerId, gpuUuid)
  | .attempt id => store.attempts.find? id
  | .event sequence => store.events.find? sequence

def get (store : Store) (key : RowKey) : Kept key.Row :=
  ⟨store.row? key, store.calls key⟩

/-- Put the row into its table and note the call. -/
def apply (store : Store) (write : Write) : Store :=
  let noted := { store with
    journal := store.journal ++ write.call.toList.map (write.key, ·) }
  match write.row with
  | .worker row => { noted with workers := store.workers.put row }
  | .job row => { noted with jobs := store.jobs.put row }
  | .session row => { noted with sessions := store.sessions.put row }
  | .fence row => { noted with fences := store.fences.put row }
  | .attempt row => { noted with attempts := store.attempts.put row }
  | .event row => { noted with events := store.events.put row }
  | .deleteEvent sequence => { noted with events := store.events.erase sequence }

theorem apply_journal (store : Store) (write : Write) :
    (store.apply write).journal =
      store.journal ++ write.call.toList.map (write.key, ·) := by
  obtain ⟨row, call⟩ := write
  cases row <;> rfl

theorem calls_apply_self (store : Store) (write : Write) :
    (store.apply write).calls write.key =
      store.calls write.key ++ write.call.toList := by
  cases noted : write.call <;> simp [calls, apply_journal, noted]

theorem calls_apply_other (store : Store) {write : Write} {key : RowKey}
    (different : key ≠ write.key) :
    (store.apply write).calls key = store.calls key := by
  cases noted : write.call <;>
    simp [calls, apply_journal, noted, different.symm]

theorem row?_apply_self (store : Store) (write : Write) :
    (store.apply write).row? write.key = write.left := by
  obtain ⟨row, call⟩ := write
  cases row with
  | worker row => exact KeyedTable.find?_put_self store.workers row
  | job row => exact KeyedTable.find?_put_self store.jobs row
  | session row => exact KeyedTable.find?_put_self store.sessions row
  | fence row => exact KeyedTable.find?_put_self store.fences row
  | attempt row => exact KeyedTable.find?_put_self store.attempts row
  | event row => exact KeyedTable.find?_put_self store.events row
  | deleteEvent sequence => exact KeyedTable.find?_erase_self store.events sequence

theorem row?_apply_other (store : Store) {write : Write} {key : RowKey}
    (different : key ≠ write.key) :
    (store.apply write).row? key = store.row? key := by
  obtain ⟨row, call⟩ := write
  cases row <;> cases key <;>
    first
    | rfl
    | exact KeyedTable.find?_put_other _ (by simpa [Write.key] using different)
    | exact KeyedTable.find?_erase_other _ (by simpa [Write.key] using different)

end Store

instance : RowStore Store Write RowKey (fun key => Kept key.Row) where
  get := Store.get
  key := Write.key
  act write kept := ⟨write.left, kept.calls ++ write.call.toList⟩
  apply := Store.apply
  get_apply_self store write := by
    simp [Store.get, Store.row?_apply_self, Store.calls_apply_self]
  get_apply_other store write key different := by
    simp [Store.get, Store.row?_apply_other _ different,
      Store.calls_apply_other _ different]

end GpuLink
