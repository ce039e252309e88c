import GpuLink.Store.Statements

/-!
# Choosing a GPU for a workload

`choosePlacement` looks for the best free GPU among the workers a scheduler
pass has read.
-/

namespace GpuLink

open Sql

/-- `String.prototype.localeCompare`, a total preorder on text. -/
structure Locale where
  compare : String → String → Ordering
  swap : ∀ left right, compare right left = (compare left right).swap
  trans : ∀ {first second third}, compare first second ≠ .gt →
    compare second third ≠ .gt → compare first third ≠ .gt

/-- Text compared code point by code point. -/
def Locale.codePoints : Locale where
  compare left right := Ord.compare left right
  swap _ _ := Std.OrientedCmp.eq_swap
  trans first second := Ordering.isLE_iff_ne_gt.mp
    (Std.TransCmp.isLE_trans (Ordering.isLE_iff_ne_gt.mpr first)
      (Ordering.isLE_iff_ne_gt.mpr second))

/-- `Array.prototype.sort` with a comparator. -/
def sortBy {α : Type} (comparator : α → α → Ordering) (items : List α) :
    List α :=
  orderBy (fun left right => decide (comparator left right ≠ .gt)) items

/-- What a workload asks of a worker: the `constraints` of a job, or the
`requirements` and the capability of a session. -/
structure Demand where
  minVramMiB : Int
  capabilities : List String
  model : Option String
  adapter : Option String
  capability : Option String

def Job.demand (job : Job) : Demand where
  minVramMiB := job.constraints.minVramMiB
  capabilities := job.constraints.capabilities
  model := job.constraints.model
  adapter := none
  capability := none

def Session.demand (session : Session) : Demand where
  minVramMiB := session.requirements.minVramMiB
  capabilities := session.requirements.capabilities
  model := session.requirements.model
  adapter := session.requirements.adapter
  capability := some session.capability

structure PlacementOptions where
  now : Int
  heartbeatTimeoutMs : Int
  vramSafetyMiB : Int
  blockedGpuResources : List BlockedGpu

structure Candidate where
  workerId : String
  gpuUuid : NonEmptyString
  warmModel : Bool
  cachedModel : Bool
  utilizationPercent : Int
  headroomMiB : Int

/-- The manifests that implement the pinned adapter. -/
def matchingManifests (demand : Demand) (adapter : String) (worker : Worker) :
    List AdapterManifest :=
  worker.adapterManifests.filter (fun manifest =>
    manifest.schemaVersion = 2 && manifest.adapterId = some adapter &&
      manifest.executionMode = .streamingGateway &&
      manifest.type ∈ demand.capabilities &&
      (match demand.capability with
      | none => true
      | some capability => manifest.type = capability))

def matchingHealth (matched : AdapterManifest) (worker : Worker) :
    List AdapterHealth :=
  worker.adapterHealth.filter (fun health =>
    health.schemaVersion = 2 && health.adapterId = matched.adapterId &&
      health.type = matched.type)

/-- Exactly one manifest implements the pinned adapter, and exactly one report
confirms that it is ready. -/
def adapterReady (demand : Demand) (worker : Worker) : Bool :=
  match demand.adapter with
  | none => true
  | some adapter =>
      match matchingManifests demand adapter worker with
      | [matched] =>
          (match matchingHealth matched worker with
          | [report] => report.state = .ready && report.code = "ready"
          | _ => false)
      | _ => false

/-- The worker is online, not draining, and was heard of in time. -/
def workerAvailable (options : PlacementOptions) (worker : Worker) : Bool :=
  worker.status = .online && !worker.drainMode &&
    decide (options.now - worker.lastSeenAt ≤ options.heartbeatTimeoutMs)

theorem workerAvailable_online {options : PlacementOptions} {worker : Worker}
    (available : workerAvailable options worker) : worker.status = .online := by
  simp only [workerAvailable, Bool.and_eq_true, decide_eq_true_eq] at available
  exact available.1.1

def workerEligible (demand : Demand) (options : PlacementOptions)
    (worker : Worker) : Bool :=
  workerAvailable options worker &&
    demand.capabilities.all (fun capability =>
      capability ∈ worker.capabilities) &&
    adapterReady demand worker

def freeVramMiB (options : PlacementOptions) (gpu : Gpu) : Int :=
  gpu.memoryTotalMiB - gpu.memoryUsedMiB - options.vramSafetyMiB

def gpuEligible (demand : Demand) (occupiedGpus : List NonEmptyString)
    (options : PlacementOptions) (worker : Worker) (gpu : Gpu) : Bool :=
  gpu.uuid ∉ occupiedGpus &&
    (⟨worker.id, gpu.uuid⟩ : BlockedGpu) ∉ options.blockedGpuResources &&
    demand.minVramMiB ≤ freeVramMiB options gpu

def candidate (demand : Demand) (options : PlacementOptions) (worker : Worker)
    (gpu : Gpu) : Candidate where
  workerId := worker.id
  gpuUuid := gpu.uuid
  warmModel := match demand.model with
    | none => false
    | some model => model ∈ worker.warmModels
  cachedModel := match demand.model with
    | none => false
    | some model => worker.modelInventory.any (fun entry =>
        entry.modelId = model && entry.adapterType ∈ demand.capabilities)
  utilizationPercent := gpu.utilizationPercent
  headroomMiB := freeVramMiB options gpu - demand.minVramMiB

def candidates (demand : Demand) (workers : List Worker)
    (occupiedGpus : List NonEmptyString) (options : PlacementOptions) :
    List Candidate :=
  (workers.filter (workerEligible demand options)).flatMap (fun worker =>
    (worker.gpus.filter (gpuEligible demand occupiedGpus options worker)).map
      (candidate demand options worker))

def compareCandidates (locale : Locale) (left right : Candidate) : Ordering :=
  (compare right.warmModel left.warmModel).then <|
  (compare right.cachedModel left.cachedModel).then <|
  (compare left.utilizationPercent right.utilizationPercent).then <|
  (compare left.headroomMiB right.headroomMiB).then <|
  (locale.compare left.workerId right.workerId).then <|
    locale.compare left.gpuUuid.val right.gpuUuid.val

def choosePlacement (locale : Locale) (demand : Demand) (workers : List Worker)
    (occupiedGpus : List NonEmptyString) (options : PlacementOptions) :
    Option Placement :=
  ((sortBy (compareCandidates locale)
    (candidates demand workers occupiedGpus options)).head?).map
    (fun best => ⟨best.workerId, best.gpuUuid⟩)

/-- A placement is on an eligible worker of the list, on an eligible GPU. -/
theorem choosePlacement_eligible {locale : Locale} {demand : Demand}
    {workers : List Worker} {occupiedGpus : List NonEmptyString}
    {options : PlacementOptions} {placement : Placement}
    (chosen : choosePlacement locale demand workers occupiedGpus options =
      some placement) :
    ∃ worker ∈ workers, worker.id = placement.workerId ∧
      workerEligible demand options worker ∧
      ∃ gpu ∈ worker.gpus, gpu.uuid = placement.gpuUuid ∧
        gpuEligible demand occupiedGpus options worker gpu := by
  simp only [choosePlacement, Option.map_eq_some_iff] at chosen
  obtain ⟨best, first, rfl⟩ := chosen
  have member : best ∈ candidates demand workers occupiedGpus options := by
    have sorted := List.mem_of_head? first
    exact mem_orderBy.mp sorted
  simp only [candidates, List.mem_flatMap, List.mem_filter, List.mem_map] at member
  obtain ⟨worker, ⟨listed, eligible⟩, gpu, ⟨present, free⟩, rfl⟩ := member
  exact ⟨worker, listed, rfl, eligible, gpu, present, rfl, free⟩

/-- A placement is on an available worker of the list, on a GPU that is neither
occupied nor blocked. -/
theorem choosePlacement_sound {locale : Locale} {demand : Demand}
    {workers : List Worker} {occupiedGpus : List NonEmptyString}
    {options : PlacementOptions} {placement : Placement}
    (chosen : choosePlacement locale demand workers occupiedGpus options =
      some placement) :
    ∃ worker ∈ workers, worker.id = placement.workerId ∧
      workerAvailable options worker ∧
      placement.gpuUuid ∉ occupiedGpus ∧
      (⟨placement.workerId, placement.gpuUuid⟩ : BlockedGpu) ∉
        options.blockedGpuResources := by
  obtain ⟨worker, listed, named, eligible, gpu, _, uuid, free⟩ :=
    choosePlacement_eligible chosen
  simp only [workerEligible, Bool.and_eq_true] at eligible
  simp only [gpuEligible, Bool.and_eq_true, decide_eq_true_eq] at free
  rw [← named, ← uuid]
  exact ⟨worker, listed, rfl, eligible.1.1, free.1.1, free.1.2⟩

end GpuLink
