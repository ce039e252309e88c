import GpuLink.Shared.Text
import GpuLink.Store.MigrationVerification

/-!
# Rows of a migration

The migration reads the rows of the SQLite store, writes them to PostgreSQL and
reads them back.  Each engine has its own types of columns, and its own order
of texts.
-/

namespace GpuLink

namespace Migration

open JsonText

/-! ## Values -/

/-- What a JSON column stands for; its text reads back as this value. -/
structure Value where
  json : Json
  proper : Proper json

/-- A JSON column in which the store keeps objects or lists. -/
structure Column extends Value where
  notNull : json ≠ .null

/-- A number of the runtime, which is also what an integer column holds. -/
structure Double where
  number : Rat
  double : IsDouble number

namespace Value

def null : Value := ⟨.null, .null⟩

def string (text : String) : Value := ⟨.string text, .string text⟩

def bool (value : Bool) : Value := ⟨.bool value, .bool value⟩

def number (value : Double) : Value := ⟨.number value.number, .number value.double⟩

def emptyObject : Value := ⟨.object [], .object List.nodup_nil nofun⟩

def emptyArray : Value := ⟨.array [], .array nofun⟩

def text? (text : Option String) : Value := (text.map string).getD null

def number? (value : Option Double) : Value := (value.map number).getD null

/-- `value ?? fallback` -/
def orElse (value fallback : Value) : Value :=
  match value.json with
  | .null => fallback
  | _ => value

end Value

/-- An object with these properties. -/
def objectOf (properties : List (String × Value)) : Json :=
  .object (properties.map (Prod.map id Value.json))

theorem proper_objectOf {properties : List (String × Value)}
    (nodup : (properties.map Prod.fst).Nodup) : Proper (objectOf properties) := by
  refine .object ?_ ?_
  · rw [List.map_map]
    exact nodup
  · intro field member
    obtain ⟨property, _, rfl⟩ := List.mem_map.mp member
    exact property.2.proper

/-! ## What the script makes of a row -/

structure Worker where
  id : String
  name : String
  version : String
  baseUrl : Option String
  status : String
  drainMode : Bool
  labels : Value
  capabilities : Value
  adapterManifests : Value
  adapterHealth : Value
  warmModels : Value
  modelInventory : Value
  gpus : Value
  lastSeenAt : Double
  createdAt : Double
  updatedAt : Double

def Worker.properties (worker : Worker) : List (String × Value) :=
  [("id", .string worker.id), ("name", .string worker.name),
    ("version", .string worker.version), ("baseUrl", .text? worker.baseUrl),
    ("status", .string worker.status), ("drainMode", .bool worker.drainMode),
    ("labels", worker.labels), ("capabilities", worker.capabilities),
    ("adapterManifests", worker.adapterManifests),
    ("adapterHealth", worker.adapterHealth), ("warmModels", worker.warmModels),
    ("modelInventory", worker.modelInventory), ("gpus", worker.gpus),
    ("lastSeenAt", .number worker.lastSeenAt),
    ("createdAt", .number worker.createdAt),
    ("updatedAt", .number worker.updatedAt)]

theorem Worker.nodup (worker : Worker) :
    (worker.properties.map Prod.fst).Nodup := by
  change ["id", "name", "version", "baseUrl", "status", "drainMode", "labels",
    "capabilities", "adapterManifests", "adapterHealth", "warmModels",
    "modelInventory", "gpus", "lastSeenAt", "createdAt", "updatedAt"].Nodup
  decide

structure Job where
  id : String
  projectId : String
  type : String
  priority : Double
  status : String
  gpuCount : Double
  minVramMiB : Double
  requiredCapabilities : Value
  requestedModel : Option String
  payload : Value
  result : Value
  error : Value
  assignedWorkerId : Option String
  assignedGpuUuid : Option String
  leaseId : Option String
  leaseExpiresAt : Option Double
  attempt : Double
  maxAttempts : Double
  idempotencyKey : Option String
  createdAt : Double
  updatedAt : Double

def Job.properties (job : Job) : List (String × Value) :=
  [("id", .string job.id), ("projectId", .string job.projectId),
    ("type", .string job.type), ("priority", .number job.priority),
    ("status", .string job.status), ("gpuCount", .number job.gpuCount),
    ("minVramMiB", .number job.minVramMiB),
    ("requiredCapabilities", job.requiredCapabilities),
    ("requestedModel", .text? job.requestedModel), ("payload", job.payload),
    ("result", job.result), ("error", job.error),
    ("assignedWorkerId", .text? job.assignedWorkerId),
    ("assignedGpuUuid", .text? job.assignedGpuUuid),
    ("leaseId", .text? job.leaseId),
    ("leaseExpiresAt", .number? job.leaseExpiresAt),
    ("attempt", .number job.attempt), ("maxAttempts", .number job.maxAttempts),
    ("idempotencyKey", .text? job.idempotencyKey),
    ("createdAt", .number job.createdAt), ("updatedAt", .number job.updatedAt)]

theorem Job.nodup (job : Job) : (job.properties.map Prod.fst).Nodup := by
  change ["id", "projectId", "type", "priority", "status", "gpuCount",
    "minVramMiB", "requiredCapabilities", "requestedModel", "payload",
    "result", "error", "assignedWorkerId", "assignedGpuUuid", "leaseId",
    "leaseExpiresAt", "attempt", "maxAttempts", "idempotencyKey", "createdAt",
    "updatedAt"].Nodup
  decide

structure EventRecord where
  sequence : Double
  type : String
  subjectId : Option String
  payload : Value
  createdAt : Double

def EventRecord.properties (event : EventRecord) : List (String × Value) :=
  [("sequence", .number event.sequence), ("type", .string event.type),
    ("subjectId", .text? event.subjectId), ("payload", event.payload),
    ("createdAt", .number event.createdAt)]

theorem EventRecord.nodup (event : EventRecord) :
    (event.properties.map Prod.fst).Nodup := by
  change ["sequence", "type", "subjectId", "payload", "createdAt"].Nodup
  decide

def Worker.row (worker : Worker) : StatusRow where
  json := objectOf worker.properties
  status := worker.status
  proper := proper_objectOf worker.nodup
  hasStatus := rfl

def Job.row (job : Job) : StatusRow where
  json := objectOf job.properties
  status := job.status
  proper := proper_objectOf job.nodup
  hasStatus := rfl

def EventRecord.row (event : EventRecord) : EventRow where
  json := objectOf event.properties
  sequence := event.sequence.number
  proper := proper_objectOf event.nodup
  hasSequence := rfl

/-- What is read of a store. -/
structure Records where
  workers : List Worker
  jobs : List Job
  events : List EventRecord

/-- As `summarizeData` takes it. -/
def Records.data (records : Records) : Data where
  workers := records.workers.map Worker.row
  jobs := records.jobs.map Job.row
  events := records.events.map EventRecord.row

/-! ## The source -/

structure SqliteWorker where
  id : String
  name : String
  version : String
  baseUrl : Option String
  status : String
  drainMode : Int
  labelsJson : Column
  capabilitiesJson : Column
  adapterManifestsJson : Column
  adapterHealthJson : Column
  warmModelsJson : Column
  modelInventoryJson : Column
  gpuInventoryJson : Column
  lastSeenAt : Double
  createdAt : Double
  updatedAt : Double

structure SqliteJob where
  id : String
  projectId : String
  type : String
  priority : Double
  status : String
  gpuCount : Double
  minVramMib : Double
  requiredCapabilitiesJson : Column
  requestedModel : Option String
  payloadJson : Column
  resultJson : Option Value
  errorJson : Option Value
  assignedWorkerId : Option String
  assignedGpuUuid : Option String
  leaseId : Option String
  leaseExpiresAt : Option Double
  attempt : Double
  maxAttempts : Double
  idempotencyKey : Option String
  createdAt : Double
  updatedAt : Double

structure SqliteEvent where
  sequence : Double
  type : String
  subjectId : Option String
  payloadJson : Column
  createdAt : Double

/-- The tables that are migrated; ids and sequences are primary keys. -/
structure SqliteStore where
  workers : List SqliteWorker
  jobs : List SqliteJob
  events : List SqliteEvent
  workerIds : (workers.map SqliteWorker.id).Nodup
  jobIds : (jobs.map SqliteJob.id).Nodup
  sequences : (events.map fun event => event.sequence.number).Nodup

/-- `JSON.parse` of the text of a value, and a fallback where there is none. -/
def parseJson (value : Option Value) (fallback : Value) : Value :=
  value.getD fallback

def mapSqliteWorker (row : SqliteWorker) : Worker where
  id := row.id
  name := row.name
  version := row.version
  baseUrl := row.baseUrl
  status := row.status
  drainMode := row.drainMode ≠ 0
  labels := parseJson (some row.labelsJson.toValue) .emptyObject
  capabilities := parseJson (some row.capabilitiesJson.toValue) .emptyArray
  adapterManifests :=
    parseJson (some row.adapterManifestsJson.toValue) .emptyArray
  adapterHealth := parseJson (some row.adapterHealthJson.toValue) .emptyArray
  warmModels := parseJson (some row.warmModelsJson.toValue) .emptyArray
  modelInventory := parseJson (some row.modelInventoryJson.toValue) .emptyArray
  gpus := parseJson (some row.gpuInventoryJson.toValue) .emptyArray
  lastSeenAt := row.lastSeenAt
  createdAt := row.createdAt
  updatedAt := row.updatedAt

def mapSqliteJob (row : SqliteJob) : Job where
  id := row.id
  projectId := row.projectId
  type := row.type
  priority := row.priority
  status := row.status
  gpuCount := row.gpuCount
  minVramMiB := row.minVramMib
  requiredCapabilities :=
    parseJson (some row.requiredCapabilitiesJson.toValue) .emptyArray
  requestedModel := row.requestedModel
  payload := parseJson (some row.payloadJson.toValue) .emptyObject
  result := parseJson row.resultJson .null
  error := parseJson row.errorJson .null
  assignedWorkerId := row.assignedWorkerId
  assignedGpuUuid := row.assignedGpuUuid
  leaseId := row.leaseId
  leaseExpiresAt := row.leaseExpiresAt
  attempt := row.attempt
  maxAttempts := row.maxAttempts
  idempotencyKey := row.idempotencyKey
  createdAt := row.createdAt
  updatedAt := row.updatedAt

def mapSqliteEvent (row : SqliteEvent) : EventRecord where
  sequence := row.sequence
  type := row.type
  subjectId := row.subjectId
  payload := parseJson (some row.payloadJson.toValue) .emptyObject
  createdAt := row.createdAt

/-! ## The target -/

structure PostgresWorker where
  id : String
  name : String
  version : String
  baseUrl : Option String
  status : String
  drainMode : Bool
  labelsJson : Value
  capabilitiesJson : Value
  adapterManifestsJson : Value
  adapterHealthJson : Value
  warmModelsJson : Value
  modelInventoryJson : Value
  gpuInventoryJson : Value
  lastSeenAt : Double
  createdAt : Double
  updatedAt : Double

structure PostgresJob where
  id : String
  projectId : String
  type : String
  priority : Double
  status : String
  gpuCount : Double
  minVramMib : Double
  requiredCapabilitiesJson : Value
  requestedModel : Option String
  payloadJson : Value
  resultJson : Option Value
  errorJson : Option Value
  assignedWorkerId : Option String
  assignedGpuUuid : Option String
  leaseId : Option String
  leaseExpiresAt : Option Double
  attempt : Double
  maxAttempts : Double
  idempotencyKey : Option String
  createdAt : Double
  updatedAt : Double

structure PostgresEvent where
  sequence : Double
  type : String
  subjectId : Option String
  payloadJson : Value
  createdAt : Double

structure PostgresStore where
  workers : List PostgresWorker
  jobs : List PostgresJob
  events : List PostgresEvent

section Inserts

-- What a `jsonb` column gives back for a value, if it takes the text.
variable (jsonb : Value → Option Value)

def insertWorker (worker : Worker) : Option PostgresWorker := do
  let labels ← jsonb worker.labels
  let capabilities ← jsonb worker.capabilities
  let adapterManifests ← jsonb worker.adapterManifests
  let adapterHealth ← jsonb worker.adapterHealth
  let warmModels ← jsonb worker.warmModels
  let modelInventory ← jsonb worker.modelInventory
  let gpus ← jsonb worker.gpus
  some {
    id := worker.id
    name := worker.name
    version := worker.version
    baseUrl := worker.baseUrl
    status := worker.status
    drainMode := worker.drainMode
    labelsJson := labels
    capabilitiesJson := capabilities
    adapterManifestsJson := adapterManifests
    adapterHealthJson := adapterHealth
    warmModelsJson := warmModels
    modelInventoryJson := modelInventory
    gpuInventoryJson := gpus
    lastSeenAt := worker.lastSeenAt
    createdAt := worker.createdAt
    updatedAt := worker.updatedAt }

/-- `value === null ? null : JSON.stringify(value)` -/
def nullable (value : Value) : Option (Option Value) :=
  match value.json with
  | .null => some none
  | _ => (jsonb value).map some

def insertJob (job : Job) : Option PostgresJob := do
  let requiredCapabilities ← jsonb job.requiredCapabilities
  let payload ← jsonb job.payload
  let result ← nullable jsonb job.result
  let error ← nullable jsonb job.error
  some {
    id := job.id
    projectId := job.projectId
    type := job.type
    priority := job.priority
    status := job.status
    gpuCount := job.gpuCount
    minVramMib := job.minVramMiB
    requiredCapabilitiesJson := requiredCapabilities
    requestedModel := job.requestedModel
    payloadJson := payload
    resultJson := result
    errorJson := error
    assignedWorkerId := job.assignedWorkerId
    assignedGpuUuid := job.assignedGpuUuid
    leaseId := job.leaseId
    leaseExpiresAt := job.leaseExpiresAt
    attempt := job.attempt
    maxAttempts := job.maxAttempts
    idempotencyKey := job.idempotencyKey
    createdAt := job.createdAt
    updatedAt := job.updatedAt }

def insertEvent (event : EventRecord) : Option PostgresEvent := do
  let payload ← jsonb event.payload
  some {
    sequence := event.sequence
    type := event.type
    subjectId := event.subjectId
    payloadJson := payload
    createdAt := event.createdAt }

/-- The three loops of inserts into the empty tables. -/
def insertAll (records : Records) : Option PostgresStore := do
  let workers ← records.workers.mapM (insertWorker jsonb)
  let jobs ← records.jobs.mapM (insertJob jsonb)
  let events ← records.events.mapM (insertEvent jsonb)
  some ⟨workers, jobs, events⟩

end Inserts

def mapPostgresWorker (row : PostgresWorker) : Worker where
  id := row.id
  name := row.name
  version := row.version
  baseUrl := row.baseUrl
  status := row.status
  drainMode := row.drainMode
  labels := row.labelsJson.orElse .emptyObject
  capabilities := row.capabilitiesJson.orElse .emptyArray
  adapterManifests := row.adapterManifestsJson.orElse .emptyArray
  adapterHealth := row.adapterHealthJson.orElse .emptyArray
  warmModels := row.warmModelsJson.orElse .emptyArray
  modelInventory := row.modelInventoryJson.orElse .emptyArray
  gpus := row.gpuInventoryJson.orElse .emptyArray
  lastSeenAt := row.lastSeenAt
  createdAt := row.createdAt
  updatedAt := row.updatedAt

def mapPostgresJob (row : PostgresJob) : Job where
  id := row.id
  projectId := row.projectId
  type := row.type
  priority := row.priority
  status := row.status
  gpuCount := row.gpuCount
  minVramMiB := row.minVramMib
  requiredCapabilities := row.requiredCapabilitiesJson.orElse .emptyArray
  requestedModel := row.requestedModel
  payload := row.payloadJson.orElse .emptyObject
  result := (row.resultJson.getD .null).orElse .null
  error := (row.errorJson.getD .null).orElse .null
  assignedWorkerId := row.assignedWorkerId
  assignedGpuUuid := row.assignedGpuUuid
  leaseId := row.leaseId
  leaseExpiresAt := row.leaseExpiresAt
  attempt := row.attempt
  maxAttempts := row.maxAttempts
  idempotencyKey := row.idempotencyKey
  createdAt := row.createdAt
  updatedAt := row.updatedAt

def mapPostgresEvent (row : PostgresEvent) : EventRecord where
  sequence := row.sequence
  type := row.type
  subjectId := row.subjectId
  payload := row.payloadJson.orElse .emptyObject
  createdAt := row.createdAt

/-! ## Orders -/

/-- A total order of texts, as a collation of a database is. -/
structure Collation where
  le : String → String → Prop
  decidable : DecidableRel le
  total : ∀ first second, le first second ∨ le second first
  trans : ∀ {first second third}, le first second → le second third →
    le first third
  antisymm : ∀ {first second}, le first second → le second first →
    first = second

attribute [instance] Collation.decidable

/-- The bytes of a text, as SQLite compares them. -/
def textBytes (text : String) : List Nat :=
  (utf8Bytes text).map UInt8.toNat

theorem textBytes_injective {first second : String}
    (same : textBytes first = textBytes second) : first = second := by
  have injective : Function.Injective UInt8.toNat :=
    fun _ _ => UInt8.toNat_inj.mp
  exact utf8Bytes_inj (List.map_injective_iff.mpr injective same)

/-- The order of keys that tell texts apart. -/
def Collation.ofKey {κ : Type} [LinearOrder κ] (key : String → κ)
    (injective : Function.Injective key) : Collation where
  le first second := key first ≤ key second
  decidable _ _ := inferInstance
  total _ _ := le_total _ _
  trans := le_trans
  antisymm below above := injective (le_antisymm below above)

/-- The default collation of SQLite. -/
def binary : Collation :=
  .ofKey textBytes fun _ _ => textBytes_injective

/-- `ORDER BY` a text -/
def orderedBy {α : Type} (collation : Collation) (id : α → String)
    (rows : List α) : List α :=
  rows.insertionSort fun first second => collation.le (id first) (id second)

/-- `ORDER BY sequence` -/
def orderedBySequence {α : Type} (sequence : α → Double) (rows : List α) :
    List α :=
  rows.insertionSort fun first second =>
    (sequence first).number ≤ (sequence second).number

def readSqliteData (store : SqliteStore) : Records where
  workers := (orderedBy binary SqliteWorker.id store.workers).map mapSqliteWorker
  jobs := (orderedBy binary SqliteJob.id store.jobs).map mapSqliteJob
  events := (orderedBySequence SqliteEvent.sequence store.events).map
    mapSqliteEvent

def readPostgresData (collation : Collation) (store : PostgresStore) :
    Records where
  workers := (orderedBy collation PostgresWorker.id store.workers).map
    mapPostgresWorker
  jobs := (orderedBy collation PostgresJob.id store.jobs).map mapPostgresJob
  events := (orderedBySequence PostgresEvent.sequence store.events).map
    mapPostgresEvent

end Migration

end GpuLink
