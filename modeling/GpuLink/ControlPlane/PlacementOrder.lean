import GpuLink.ControlPlane.Placement
import GpuLink.Library.OrderLimit
import GpuLink.Store.Operations

/-!
# The best placement

`choosePlacement` returns the least feasible candidate in a lexicographic
order, whatever the order in which workers and GPUs are listed.
-/

namespace GpuLink

/-! ## Feasible pairs -/

/-- A workload may be placed on this GPU of this worker. -/
structure Feasible (demand : Demand) (occupiedGpus : List NonEmptyString)
    (options : PlacementOptions) (worker : Worker) (gpu : Gpu) : Prop where
  online : worker.status = .online
  serving : worker.drainMode = false
  fresh : options.now - worker.lastSeenAt ≤ options.heartbeatTimeoutMs
  capable : ∀ capability ∈ demand.capabilities,
    capability ∈ worker.capabilities
  /-- A pinned adapter has one manifest that matches and one report on it, which
  is that it is ready. -/
  pinned : ∀ adapter, demand.adapter = some adapter → ∃ manifest report,
    matchingManifests demand adapter worker = [manifest] ∧
      matchingHealth manifest worker = [report] ∧
      report.state = .ready ∧ report.code = "ready"
  unoccupied : gpu.uuid ∉ occupiedGpus
  unfenced : (⟨worker.id, gpu.uuid⟩ : BlockedGpu) ∉ options.blockedGpuResources
  roomy : demand.minVramMiB ≤
    gpu.memoryTotalMiB - gpu.memoryUsedMiB - options.vramSafetyMiB

theorem adapterReady_iff {demand : Demand} {worker : Worker} :
    adapterReady demand worker = true ↔
      ∀ adapter, demand.adapter = some adapter → ∃ manifest report,
        matchingManifests demand adapter worker = [manifest] ∧
          matchingHealth manifest worker = [report] ∧
          report.state = .ready ∧ report.code = "ready" := by
  cases asked : demand.adapter with
  | none => simp [adapterReady, asked]
  | some adapter =>
      simp only [adapterReady, asked]
      constructor
      · intro ready other same
        cases same
        split at ready
        · rename_i manifest only
          split at ready
          · rename_i report single
            simp only [Bool.and_eq_true, decide_eq_true_eq] at ready
            exact ⟨manifest, report, only, single, ready⟩
          · cases ready
        · cases ready
      · intro pinned
        obtain ⟨manifest, report, only, single, state, code⟩ :=
          pinned adapter rfl
        simp [only, single, state, code]

theorem eligible_iff {demand : Demand} {occupiedGpus : List NonEmptyString}
    {options : PlacementOptions} {worker : Worker} {gpu : Gpu} :
    (workerEligible demand options worker = true ∧
      gpuEligible demand occupiedGpus options worker gpu = true) ↔
      Feasible demand occupiedGpus options worker gpu := by
  simp only [workerEligible, workerAvailable, gpuEligible, freeVramMiB,
    Bool.and_eq_true, decide_eq_true_eq, List.all_eq_true, adapterReady_iff,
    Bool.not_eq_true']
  constructor
  · rintro ⟨⟨⟨⟨⟨online, serving⟩, fresh⟩, capable⟩, pinned⟩,
      ⟨unoccupied, unfenced⟩, roomy⟩
    exact ⟨online, serving, fresh, capable, pinned, unoccupied, unfenced,
      of_decide_eq_true roomy⟩
  · intro feasible
    exact ⟨⟨⟨⟨⟨feasible.online, feasible.serving⟩, feasible.fresh⟩,
      feasible.capable⟩, feasible.pinned⟩,
      ⟨feasible.unoccupied, feasible.unfenced⟩,
      decide_eq_true feasible.roomy⟩

theorem mem_candidates_iff {demand : Demand} {workers : List Worker}
    {occupiedGpus : List NonEmptyString} {options : PlacementOptions}
    {placed : Candidate} :
    placed ∈ candidates demand workers occupiedGpus options ↔
      ∃ worker ∈ workers, ∃ gpu ∈ worker.gpus,
        Feasible demand occupiedGpus options worker gpu ∧
          candidate demand options worker gpu = placed := by
  simp only [candidates, List.mem_flatMap, List.mem_filter, List.mem_map]
  constructor
  · rintro ⟨worker, ⟨listed, eligible⟩, gpu, ⟨present, free⟩, same⟩
    exact ⟨worker, listed, gpu, present, eligible_iff.mp ⟨eligible, free⟩, same⟩
  · rintro ⟨worker, listed, gpu, present, feasible, same⟩
    obtain ⟨eligible, free⟩ := eligible_iff.mpr feasible
    exact ⟨worker, ⟨listed, eligible⟩, gpu, ⟨present, free⟩, same⟩

/-! ## The order of the candidates -/

/-- Warm models first, then cached ones, then low utilization, little headroom,
and the identities. -/
def Precedes (locale : Locale) (left right : Candidate) : Prop :=
  (left.warmModel = true ∧ right.warmModel = false) ∨
    left.warmModel = right.warmModel ∧
      ((left.cachedModel = true ∧ right.cachedModel = false) ∨
        left.cachedModel = right.cachedModel ∧
          (left.utilizationPercent < right.utilizationPercent ∨
            left.utilizationPercent = right.utilizationPercent ∧
              (left.headroomMiB < right.headroomMiB ∨
                left.headroomMiB = right.headroomMiB ∧
                  (locale.compare left.workerId right.workerId = .lt ∨
                    left.workerId = right.workerId ∧
                      locale.compare left.gpuUuid.val right.gpuUuid.val =
                        .lt))))

def workerIds (workers : List Worker) : List String :=
  workers.map Worker.id

namespace Locale

instance (locale : Locale) : Std.TransCmp locale.compare where
  eq_swap := by
    intro left right
    exact locale.swap right left
  isLE_trans := by
    intro first second third before after
    exact Ordering.isLE_iff_ne_gt.mpr (locale.trans
      (Ordering.isLE_iff_ne_gt.mp before) (Ordering.isLE_iff_ne_gt.mp after))

end Locale

theorem transCmp_comap {α β : Type} {comparator : β → β → Ordering}
    [Std.TransCmp comparator] (project : α → β) :
    Std.TransCmp (fun left right => comparator (project left) (project right))
    where
  eq_swap := by
    intro left right
    exact @Std.OrientedCmp.eq_swap _ comparator _ _ _
  isLE_trans := by
    intro first second third before after
    exact @Std.TransCmp.isLE_trans _ comparator _ _ _ _ before after

instance (locale : Locale) : Std.TransCmp (compareCandidates locale) :=
  have : Std.TransCmp (fun left right : Candidate =>
      compare right.warmModel left.warmModel) :=
    @Std.TransCmp.opposite _ (compareOn Candidate.warmModel) _
  have : Std.TransCmp (fun left right : Candidate =>
      compare right.cachedModel left.cachedModel) :=
    @Std.TransCmp.opposite _ (compareOn Candidate.cachedModel) _
  have := @transCmp_comap _ _ locale.compare _ Candidate.workerId
  have := @transCmp_comap _ _ locale.compare _
    (fun placed : Candidate => placed.gpuUuid.val)
  inferInstanceAs (Std.TransCmp <|
    compareLex (fun left right => compare right.warmModel left.warmModel) <|
    compareLex (fun left right => compare right.cachedModel left.cachedModel) <|
    compareLex (compareOn Candidate.utilizationPercent) <|
    compareLex (compareOn Candidate.headroomMiB) <|
    compareLex (fun left right =>
      locale.compare left.workerId right.workerId)
      (fun left right => locale.compare left.gpuUuid.val right.gpuUuid.val))

section Least

variable {locale : Locale} {demand : Demand} {workers : List Worker}
  {occupiedGpus : List NonEmptyString} {options : PlacementOptions}

theorem choosePlacement_eq_none :
    choosePlacement locale demand workers occupiedGpus options = none ↔
      ∀ worker ∈ workers, ∀ gpu ∈ worker.gpus,
        ¬Feasible demand occupiedGpus options worker gpu := by
  rw [choosePlacement, Option.map_eq_none_iff, sortBy, Sql.orderBy,
    OrderLimit.head?_insertionSort_eq_none, List.eq_nil_iff_forall_not_mem]
  constructor
  · intro empty worker listed gpu present feasible
    exact empty _ (mem_candidates_iff.mpr
      ⟨worker, listed, gpu, present, feasible, rfl⟩)
  · intro infeasible placed member
    obtain ⟨worker, listed, gpu, present, feasible, _⟩ :=
      mem_candidates_iff.mp member
    exact infeasible worker listed gpu present feasible

end Least

/-! ## The order of the lists -/

/-- The same workers in some order, each with its GPUs in some order. -/
def Rearranged (workers others : List Worker) : Prop :=
  ∃ shuffled, workers.Perm shuffled ∧
    List.Forall₂ (fun worker other => ∃ gpus, worker.gpus.Perm gpus ∧
      other = { worker with gpus := gpus }) shuffled others

theorem pairs_of_forall₂ {shuffled others : List Worker}
    (related : List.Forall₂ (fun worker other => ∃ gpus,
      worker.gpus.Perm gpus ∧ other = { worker with gpus := gpus })
      shuffled others) (P : Worker → Gpu → Prop)
    (blind : ∀ worker gpus gpu, P { worker with gpus := gpus } gpu ↔
      P worker gpu) :
    (∃ worker ∈ others, ∃ gpu ∈ worker.gpus, P worker gpu) ↔
      ∃ worker ∈ shuffled, ∃ gpu ∈ worker.gpus, P worker gpu := by
  induction related with
  | nil => rfl
  | @cons worker other shuffled others pair _ induction =>
      obtain ⟨gpus, perm, rfl⟩ := pair
      simp only [List.mem_cons, exists_eq_or_imp, induction, blind]
      apply or_congr_left
      constructor
      · rintro ⟨gpu, present, holds⟩
        exact ⟨gpu, perm.mem_iff.mpr present, holds⟩
      · rintro ⟨gpu, present, holds⟩
        exact ⟨gpu, perm.mem_iff.mp present, holds⟩

/-- A property of pairs that does not look at the other GPUs of a worker. -/
theorem Rearranged.pairs {workers others : List Worker}
    (rearranged : Rearranged workers others) (P : Worker → Gpu → Prop)
    (blind : ∀ worker gpus gpu, P { worker with gpus := gpus } gpu ↔
      P worker gpu) :
    (∃ worker ∈ others, ∃ gpu ∈ worker.gpus, P worker gpu) ↔
      ∃ worker ∈ workers, ∃ gpu ∈ worker.gpus, P worker gpu := by
  obtain ⟨shuffled, perm, related⟩ := rearranged
  rw [pairs_of_forall₂ related P blind]
  constructor
  · rintro ⟨worker, listed, holds⟩
    exact ⟨worker, perm.mem_iff.mpr listed, holds⟩
  · rintro ⟨worker, listed, holds⟩
    exact ⟨worker, perm.mem_iff.mp listed, holds⟩

theorem feasible_gpus {demand : Demand} {occupiedGpus : List NonEmptyString}
    {options : PlacementOptions} {worker : Worker} {gpus : List Gpu}
    {gpu : Gpu} :
    Feasible demand occupiedGpus options { worker with gpus := gpus } gpu ↔
      Feasible demand occupiedGpus options worker gpu := by
  rw [← eligible_iff, ← eligible_iff]
  rfl

theorem Rearranged.candidates {workers others : List Worker}
    (rearranged : Rearranged workers others) {demand : Demand}
    {occupiedGpus : List NonEmptyString} {options : PlacementOptions}
    {placed : Candidate} :
    placed ∈ candidates demand others occupiedGpus options ↔
      placed ∈ candidates demand workers occupiedGpus options := by
  rw [mem_candidates_iff, mem_candidates_iff]
  apply rearranged.pairs (fun worker gpu =>
    Feasible demand occupiedGpus options worker gpu ∧
      candidate demand options worker gpu = placed)
  intro worker gpus gpu
  rw [feasible_gpus]
  rfl

/-- An online worker with one GPU. -/
def idleHost (id : String) (utilizationPercent : Int) : Worker where
  id := id
  name := "host"
  version := "1"
  baseUrl := none
  status := .online
  drainMode := false
  labels := []
  capabilities := ["cuda"]
  adapterManifests := []
  adapterHealth := []
  warmModels := []
  modelInventory := []
  gpus := [{ sampleGpu with utilizationPercent := utilizationPercent }]
  lastSeenAt := 1000
  createdAt := 1000
  updatedAt := 1000

def idleOptions : PlacementOptions where
  now := 1000
  heartbeatTimeoutMs := 15000
  vramSafetyMiB := 512
  blockedGpuResources := []

end GpuLink
