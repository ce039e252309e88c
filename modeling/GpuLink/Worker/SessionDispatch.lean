import GpuLink.ControlPlane.PlacementOrder
import GpuLink.Worker.Advertisement
import GpuLink.Worker.Agent

/-!
# What a worker runs of what is placed on it

The control plane places a workload by what a worker advertises; the worker
finds the adapter for it in its own tables.
-/

namespace GpuLink

open AdapterContract Validation

/-! ## The two tables -/

/-- What the agent selects a session's handler from. -/
def WorkerAgent.handlers (agent : WorkerAgent) (legacyHandler : Bool) :
    SessionAdapters where
  registry := agent.sessionAdapters.map (fun manifest =>
    (manifest.id, manifest.type))
  readyIds := agent.readySessionAdapters
  legacyHandler := legacyHandler

/-- `adapters.has(type)` -/
def hasAdapter (type : String) : Bool :=
  (installedAdapter type).isSome

theorem hasAdapter_iff {type : String} :
    hasAdapter type = true ↔
      type ∈ installedAdapters.map (fun adapter => adapter.manifest.type) := by
  rw [hasAdapter, installedAdapter, List.find?_isSome, List.mem_map]
  constructor
  · intro found
    obtain ⟨adapter, listed, same⟩ := found
    exact ⟨adapter, listed, of_decide_eq_true same⟩
  · intro found
    obtain ⟨adapter, listed, same⟩ := found
    exact ⟨adapter, listed, decide_eq_true same⟩

/-- An adapter that is pinned, ready and of the capability is selected. -/
theorem selectSessionHandler_pinned (locale : Locale) {agent : WorkerAgent}
    {session : Session} (legacyHandler : Bool) {manifest : AdapterManifest}
    (valid : ValidRegistry agent.sessionAdapters)
    (listed : manifest ∈ agent.sessionAdapters)
    (pinned : session.requirements.adapter = some manifest.id)
    (ready : manifest.id ∈ agent.readySessionAdapters)
    (type : manifest.type = session.capability) :
    selectSessionHandler locale (agent.handlers legacyHandler) session =
      some (.adapter manifest.id) := by
  have found : (agent.handlers legacyHandler).registry.find? (fun entry =>
      entry.1 = manifest.id) = some (manifest.id, manifest.type) := by
    have present : (manifest.id, manifest.type) ∈
        (agent.handlers legacyHandler).registry :=
      List.mem_map.mpr ⟨manifest, listed, rfl⟩
    cases search : (agent.handlers legacyHandler).registry.find? (fun entry =>
        entry.1 = manifest.id) with
    | none =>
        have missing := List.find?_eq_none.mp search _ present
        exact absurd (decide_eq_true rfl) missing
    | some entry =>
        have kept := List.find?_some search
        have same : entry.1 = manifest.id := of_decide_eq_true kept
        obtain ⟨other, member, rfl⟩ :=
          List.mem_map.mp (List.mem_of_find?_eq_some search)
        rw [List.inj_on_of_nodup_map valid.distinct member listed same]
  unfold selectSessionHandler
  rw [pinned]
  simp only [found]
  rw [if_pos ⟨ready, type⟩]

/-- Without a pinned adapter and without a generic handler a ready adapter of
the capability is needed. -/
theorem selectSessionHandler_unpinned (locale : Locale) {agent : WorkerAgent}
    {session : Session} (unpinned : session.requirements.adapter = none) :
    (selectSessionHandler locale (agent.handlers false) session).isSome ↔
      ∃ manifest ∈ agent.sessionAdapters,
        manifest.id ∈ agent.readySessionAdapters ∧
          manifest.type = session.capability := by
  unfold selectSessionHandler
  rw [unpinned]
  simp only
  split
  · rename_i entry found
    constructor
    · intro _
      have kept := List.find?_some found
      simp only [Bool.and_eq_true, decide_eq_true_eq] at kept
      obtain ⟨manifest, listed, rfl⟩ := List.mem_map.mp
        (Sql.mem_orderBy.mp (List.mem_of_find?_eq_some found))
      exact ⟨manifest, listed, kept⟩
    · intro _
      rfl
  · rename_i missing
    constructor
    · intro some
      cases some
    · intro provided
      obtain ⟨manifest, listed, ready, type⟩ := provided
      have refused := List.find?_eq_none.mp missing
        (manifest.id, manifest.type)
        (Sql.mem_orderBy.mpr (List.mem_map.mpr ⟨manifest, listed, rfl⟩))
      have ready : manifest.id ∈ (agent.handlers false).readyIds := ready
      simp [ready, type] at refused

/-! ## The adapters that the agent holds for ready -/

/-- The ready set is that of the reports on the session adapters. -/
def WorkerAgent.ReadyAsReported (agent : WorkerAgent) : Prop :=
  agent.readySessionAdapters =
    (agent.adapterHealth.filter (fun entry =>
      entry.schemaVersion = 2 && entry.state = .ready)).map
        (fun entry => entry.adapterId.getD "")

theorem refreshCapabilities_reported {agent after : WorkerAgent} {force : Bool}
    {round : ProbeRound} (valid : ValidRegistry agent.sessionAdapters)
    (refreshed : agent.refreshCapabilities force round = .ok after) :
    (force = false ∧ after = agent) ∨ after.ReadyAsReported := by
  unfold WorkerAgent.refreshCapabilities at refreshed
  split_ifs at refreshed with early
  · cases refreshed
    simp only [Bool.and_eq_true, Bool.not_eq_true'] at early
    exact .inl ⟨early.1, rfl⟩
  · obtain ⟨report, _, refreshed⟩ := bind_ok.mp refreshed
    simp only at refreshed
    split at refreshed
    · cases refreshed
    · obtain ⟨sessions, probed, refreshed⟩ := bind_ok.mp refreshed
      have health := (probeSessionAdapters_ok valid probed).2.2.1
      cases refreshed
      right
      unfold WorkerAgent.ReadyAsReported
      simp only
      congr 1
      rw [List.filter_append, List.filter_filter]
      have own : report.adapterHealth.filter (fun entry =>
          (entry.schemaVersion = 2 && entry.state = .ready) &&
            (entry.schemaVersion = 1 && entry.type ∉
              agent.sessionAdapters.map (·.type))) = [] := by
        apply List.filter_eq_nil_iff.mpr
        intro entry _ both
        simp only [Bool.and_eq_true, decide_eq_true_eq] at both
        omega
      rw [own, List.nil_append, health]
      apply List.filter_congr
      intro entry member
      obtain ⟨manifest, _, rfl⟩ := List.mem_map.mp member
      rw [sessionHealth]
      simp

theorem Advertising.readyAsReported {created agent : WorkerAgent}
    (valid : ValidRegistry created.sessionAdapters)
    (advertising : Advertising created agent) : agent.ReadyAsReported := by
  induction advertising with
  | first refreshed =>
      rcases refreshCapabilities_reported valid refreshed with skipped | reported
      · cases skipped.1
      · exact reported
  | next earlier refreshed induction =>
      have registry := (earlier.produced valid).2.1
      rw [← registry] at valid
      rcases refreshCapabilities_reported valid refreshed with skipped | reported
      · rw [skipped.2]
        exact induction
      · exact reported

section Produced

variable {agent : WorkerAgent} {round : ProbeRound}

/-- An adapter is in the ready set when its probe has said so. -/
theorem Produced.mem_ready (produced : Produced agent round)
    (reported : agent.ReadyAsReported)
    (valid : ValidRegistry agent.sessionAdapters) {manifest : AdapterManifest}
    (listed : manifest ∈ agent.sessionAdapters) :
    manifest.id ∈ agent.readySessionAdapters ↔
      isReadySession round.session manifest = true := by
  rw [reported, produced.health, List.mem_map]
  constructor
  · intro found
    obtain ⟨entry, kept, same⟩ := found
    obtain ⟨member, ready⟩ := List.mem_filter.mp kept
    simp only [Bool.and_eq_true, decide_eq_true_eq] at ready
    rcases List.mem_append.mp member with own | session
    · obtain ⟨capability, _, rfl⟩ := List.mem_map.mp own
      exact absurd ready.1 (by simp [ownHealth])
    · obtain ⟨other, registered, rfl⟩ := List.mem_map.mp session
      have same : other.id = manifest.id := same
      rw [List.inj_on_of_nodup_map valid.distinct registered listed
        same] at ready
      exact decide_eq_true ready.2
  · intro ready
    refine ⟨sessionHealth round.session round.now manifest,
      List.mem_filter.mpr ⟨List.mem_append_right _
        (List.mem_map_of_mem listed), ?_⟩, rfl⟩
    simp only [Bool.and_eq_true, decide_eq_true_eq]
    exact ⟨rfl, of_decide_eq_true ready⟩

/-- A manifest of the second version is that of a ready session adapter. -/
theorem Produced.second_iff (produced : Produced agent round)
    (valid : ValidRegistry agent.sessionAdapters)
    {manifest : AdapterManifest} :
    (manifest ∈ agent.adapterManifests ∧ manifest.schemaVersion = 2) ↔
      manifest ∈ agent.sessionAdapters ∧
        isReadySession round.session manifest = true := by
  rw [produced.manifests, List.mem_append, List.mem_filter]
  constructor
  · intro facts
    obtain ⟨own | session, second⟩ := facts
    · have identity := (installedManifest_valid (mem_installed own).2).2.1
      rw [show manifest.schemaVersion = 1 from
        congrArg Prod.fst identity] at second
      cases second
    · exact session
  · intro session
    exact ⟨.inr session, valid.second manifest session.1⟩

/-- A manifest of the first version is that of an installed adapter. -/
theorem Produced.first_installed (produced : Produced agent round)
    (valid : ValidRegistry agent.sessionAdapters) {manifest : AdapterManifest}
    (listed : manifest ∈ agent.adapterManifests)
    (first : manifest.schemaVersion = 1) :
    manifest.type ∈
      installedAdapters.map (fun adapter => adapter.manifest.type) := by
  rw [produced.manifests] at listed
  rcases List.mem_append.mp listed with own | session
  · obtain ⟨_, adapter, installed, same⟩ :=
      installedManifest_eq_some.mp (mem_installed own).2
    apply List.mem_map.mpr
    refine ⟨adapter, List.mem_of_find?_eq_some installed, ?_⟩
    rw [same]
  · rw [valid.second manifest (List.mem_filter.mp session).1] at first
    cases first

/-- A capability is one that an adapter of its own or a session adapter has
been found ready for, and never both. -/
theorem Produced.capability_iff (produced : Produced agent round)
    (valid : ValidRegistry agent.sessionAdapters) {capability : String}
    (capable : capability ∈ agent.capabilities) :
    (∃ manifest ∈ agent.adapterManifests,
        manifest.schemaVersion = 2 ∧ manifest.type = capability) ↔
      ¬∃ manifest ∈ agent.adapterManifests,
        manifest.schemaVersion = 1 ∧ manifest.type = capability := by
  rw [produced.manifests]
  constructor
  · intro session own
    obtain ⟨manifest, listed, first, rfl⟩ := own
    obtain ⟨other, member, second, same⟩ := session
    rw [← produced.manifests] at member
    have registered := ((produced.second_iff valid).mp ⟨member, second⟩).1
    rcases List.mem_append.mp listed with here | session
    · obtain ⟨configured, ready⟩ :=
        installed_types.mp (List.mem_map_of_mem here)
      apply produced.unmixed _ configured ready
      rw [← same]
      exact List.mem_map_of_mem registered
    · rw [valid.second manifest (List.mem_filter.mp session).1] at first
      cases first
  · intro unowned
    rw [produced.capabilities, (sortText_perm _).mem_iff, List.mem_dedup,
      List.mem_append, (sortText_perm _).mem_iff, List.mem_dedup,
      List.mem_filter, decide_eq_true_eq] at capable
    rcases capable with own | session
    · obtain ⟨manifest, here, type⟩ :=
        List.mem_map.mp (installed_types.mpr own)
      have identity := (installedManifest_valid (mem_installed here).2).2.1
      exact absurd ⟨manifest, List.mem_append_left _ here,
        congrArg Prod.fst identity, type⟩ unowned
    · obtain ⟨manifest, kept, type⟩ := List.mem_map.mp session
      exact ⟨manifest, List.mem_append_right _ kept,
        valid.second manifest (List.mem_filter.mp kept).1, type⟩

end Produced

/-! ## What the control plane has on record -/

/-- The row of a worker shows a registration or a heartbeat of the agent. -/
def Advertised (locale : Locale) (agent : WorkerAgent) (worker : Worker) :
    Prop :=
  ∃ modelInventory gpus taken,
    (validateWorkerAdapters locale
        (agent.registration modelInventory gpus) = .ok taken ∨
      validateHeartbeatAdapters locale
        (agent.heartbeat modelInventory gpus) = .ok taken) ∧
    worker.capabilities = taken.1 ∧
    worker.adapterManifests = taken.2.manifests ∧
    worker.adapterHealth = taken.2.health

/-- A row with the capabilities and the adapters of the agent. -/
structure Shows (agent : WorkerAgent) (worker : Worker) : Prop where
  capabilities : ∀ capability,
    capability ∈ worker.capabilities ↔ capability ∈ agent.capabilities
  manifests : worker.adapterManifests.Perm agent.adapterManifests
  health : worker.adapterHealth.Perm agent.adapterHealth

theorem Produced.capabilities_bounded {agent : WorkerAgent}
    {round : ProbeRound} (produced : Produced agent round)
    (valid : ValidRegistry agent.sessionAdapters) :
    ∀ capability ∈ agent.capabilities, BoundedText 100 capability := by
  intro capability member
  obtain ⟨report, listed, _, rfl⟩ :=
    ((produced.consistent valid).capable capability).mp member
  exact (produced.healthValid report listed).identified.1

theorem Produced.shows {agent : WorkerAgent} {round : ProbeRound}
    (produced : Produced agent round)
    (valid : ValidRegistry agent.sessionAdapters) {locale : Locale}
    {worker : Worker} (advertised : Advertised locale agent worker) :
    Shows agent worker := by
  obtain ⟨modelInventory, gpus, taken, sent, capabilities, manifests, health⟩ :=
    advertised
  have same : (∀ capability, capability ∈ taken.1 ↔
        capability ∈ agent.capabilities) ∧
      taken.2.manifests.Perm agent.adapterManifests ∧
      taken.2.health.Perm agent.adapterHealth := by
    rcases sent with registered | beaten
    · apply readAdapters_taken (by simp [Json.field?, WorkerAgent.advertised])
        (by simp [Json.field?, WorkerAgent.advertised])
        (by simp [Json.field?, WorkerAgent.advertised])
        (produced.capabilities_bounded valid) (produced.manifestsValid valid)
        produced.healthValid registered
    · apply readAdapters_taken (by simp [Json.field?, WorkerAgent.advertised])
        (by simp [Json.field?, WorkerAgent.advertised])
        (by simp [Json.field?, WorkerAgent.advertised])
        (produced.capabilities_bounded valid) (produced.manifestsValid valid)
        produced.healthValid beaten
  constructor
  · rw [capabilities]
    exact same.1
  · rw [manifests]
    exact same.2.1
  · rw [health]
    exact same.2.2

/-! ## Placement and dispatch -/

section Placed

variable {agent : WorkerAgent} {round : ProbeRound} {worker : Worker}
  {options : PlacementOptions}

/-- Of a pinned adapter the manifest on record is that of a ready session
adapter with that identity, and the capability that is asked for. -/
theorem Shows.pinned (shown : Shows agent worker)
    (produced : Produced agent round)
    (valid : ValidRegistry agent.sessionAdapters) {session : Session}
    {adapter : String} (pinned : session.requirements.adapter = some adapter)
    (eligible : workerEligible session.demand options worker = true) :
    ∃ manifest ∈ agent.sessionAdapters,
      isReadySession round.session manifest = true ∧
        manifest.adapterId = some adapter ∧
        manifest.type = session.capability := by
  simp only [workerEligible, Bool.and_eq_true] at eligible
  have ready := eligible.2
  unfold adapterReady at ready
  rw [show session.demand.adapter = some adapter from pinned] at ready
  simp only at ready
  split at ready
  · rename_i matched single
    have member : matched ∈ matchingManifests session.demand adapter worker := by
      rw [single]
      exact List.mem_cons_self
    obtain ⟨recorded, kept⟩ := List.mem_filter.mp member
    simp only [Session.demand, Bool.and_eq_true, decide_eq_true_eq] at kept
    obtain ⟨⟨⟨⟨second, named⟩, _⟩, _⟩, type⟩ := kept
    obtain ⟨listed, ready⟩ := (produced.second_iff valid).mp
      ⟨shown.manifests.mem_iff.mp recorded, second⟩
    exact ⟨matched, listed, ready, named, type⟩
  · cases ready

/-- What is asked for of an eligible worker is among its capabilities. -/
theorem Shows.capable (shown : Shows agent worker) {demand : Demand}
    (eligible : workerEligible demand options worker = true)
    {capability : String} (asked : capability ∈ demand.capabilities) :
    capability ∈ agent.capabilities := by
  simp only [workerEligible, Bool.and_eq_true] at eligible
  have held := List.all_eq_true.mp eligible.1.2 capability asked
  exact (shown.capabilities capability).mp (of_decide_eq_true held)

end Placed

/-- The worker has an adapter of its own ready for the type. -/
def WorkerAgent.OwnReady (agent : WorkerAgent) (type : String) : Prop :=
  ∃ manifest ∈ agent.adapterManifests,
    manifest.schemaVersion = 1 ∧ manifest.type = type

/-- The worker has a session adapter ready for the type, and no adapter of its
own is installed for it. -/
def WorkerAgent.SessionOnly (agent : WorkerAgent) (type : String) : Prop :=
  (∃ manifest ∈ agent.adapterManifests,
    manifest.schemaVersion = 2 ∧ manifest.type = type) ∧
  type ∉ installedAdapters.map (fun adapter => adapter.manifest.type)

/-- A session with a pinned adapter gets that adapter where it is placed. -/
theorem pinned_placement_dispatched (central locale : Locale)
    (config : WorkerConfig) (adapters : List (Option OfferedAdapter))
    {created agent : WorkerAgent}
    (admitted : WorkerAgent.create locale config adapters = .ok created)
    (advertising : Advertising created agent)
    (session : Session) (adapter : String)
    (pinned : session.requirements.adapter = some adapter)
    (workers : List Worker) (occupiedGpus : List NonEmptyString)
    (options : PlacementOptions) (placement : Placement)
    (chosen : choosePlacement central session.demand workers occupiedGpus
      options = some placement)
    (advertised : ∀ worker ∈ workers, worker.id = placement.workerId →
      Advertised central agent worker) (legacyHandler : Bool) :
    (∃ manifest ∈ agent.sessionAdapters, manifest.adapterId = some adapter ∧
      manifest.type = session.capability) ∧
      selectSessionHandler locale (agent.handlers legacyHandler) session =
        some (.adapter adapter) := by
  obtain ⟨registry, registered, admitted⟩ := bind_ok.mp admitted
  cases admitted
  have valid := (createSessionAdapterRegistry_valid registered).1
  obtain ⟨_, sameRegistry, round, produced⟩ := advertising.produced valid
  have reported := advertising.readyAsReported valid
  have kept : ValidRegistry agent.sessionAdapters := by
    rw [sameRegistry]
    exact valid
  obtain ⟨worker, listed, named, eligible, _⟩ := choosePlacement_eligible chosen
  have shown := produced.shows kept (advertised worker listed named)
  obtain ⟨manifest, member, ready, identified, type⟩ :=
    shown.pinned produced kept pinned eligible
  have id : manifest.id = adapter := by
    rw [AdapterManifest.id, identified]
    rfl
  refine ⟨⟨manifest, member, identified, type⟩, ?_⟩
  rw [← id] at pinned ⊢
  apply selectSessionHandler_pinned locale legacyHandler kept member pinned
  · exact (produced.mem_ready reported kept member).mpr ready
  · exact type

/-- A session without a pinned adapter is attended to where it is placed unless
its capability is that of one of the worker's own adapters, and a job is
executed unless only a session adapter has its type. -/
theorem unpinned_placement_dispatched (central locale : Locale)
    (config : WorkerConfig) (adapters : List (Option OfferedAdapter))
    {created agent : WorkerAgent}
    (admitted : WorkerAgent.create locale config adapters = .ok created)
    (advertising : Advertising created agent)
    (workers : List Worker) (occupiedGpus : List NonEmptyString)
    (options : PlacementOptions) (placement : Placement)
    (advertised : ∀ worker ∈ workers, worker.id = placement.workerId →
      Advertised central agent worker) :
    (∀ session : Session, session.requirements.adapter = none →
      session.capability ∈ session.requirements.capabilities →
      choosePlacement central session.demand workers occupiedGpus options =
        some placement →
      ((selectSessionHandler locale (agent.handlers false) session).isSome ↔
        ¬agent.OwnReady session.capability)) ∧
    ∀ job : Job, job.type ∈ job.constraints.capabilities →
      choosePlacement central job.demand workers occupiedGpus options =
        some placement →
      (hasAdapter job.type = true ↔ ¬agent.SessionOnly job.type) := by
  obtain ⟨registry, registered, admitted⟩ := bind_ok.mp admitted
  cases admitted
  have valid := (createSessionAdapterRegistry_valid registered).1
  obtain ⟨_, sameRegistry, round, produced⟩ := advertising.produced valid
  have reported := advertising.readyAsReported valid
  have kept : ValidRegistry agent.sessionAdapters := by
    rw [sameRegistry]
    exact valid
  constructor
  · intro session unpinned asked chosen
    obtain ⟨worker, listed, named, eligible, _⟩ :=
      choosePlacement_eligible chosen
    have shown := produced.shows kept (advertised worker listed named)
    have capable := shown.capable eligible asked
    rw [selectSessionHandler_unpinned locale unpinned, WorkerAgent.OwnReady,
      ← produced.capability_iff kept capable]
    constructor
    · intro provided
      obtain ⟨manifest, member, ready, type⟩ := provided
      obtain ⟨recorded, second⟩ := (produced.second_iff kept).mpr
        ⟨member, (produced.mem_ready reported kept member).mp ready⟩
      exact ⟨manifest, recorded, second, type⟩
    · intro provided
      obtain ⟨manifest, recorded, second, type⟩ := provided
      obtain ⟨member, ready⟩ :=
        (produced.second_iff kept).mp ⟨recorded, second⟩
      exact ⟨manifest, member,
        (produced.mem_ready reported kept member).mpr ready, type⟩
  · intro job asked chosen
    obtain ⟨worker, listed, named, eligible, _⟩ :=
      choosePlacement_eligible chosen
    have shown := produced.shows kept (advertised worker listed named)
    have capable := shown.capable eligible asked
    rw [hasAdapter_iff]
    constructor
    · intro installed sessionOnly
      exact sessionOnly.2 installed
    · intro executable
      by_contra missing
      apply executable
      refine ⟨(produced.capability_iff kept capable).mpr ?_, missing⟩
      intro own
      obtain ⟨manifest, recorded, first, type⟩ := own
      apply missing
      rw [← type]
      exact produced.first_installed kept recorded first

/-! ## Two workers -/

/-- The only GPU of the only worker. -/
theorem choosePlacement_single {locale : Locale} {demand : Demand}
    {worker : Worker} {options : PlacementOptions} {gpu : Gpu}
    (eligible : workerEligible demand options worker = true)
    (gpus : worker.gpus = [gpu])
    (free : gpuEligible demand [] options worker gpu = true) :
    choosePlacement locale demand [worker] [] options =
      some ⟨worker.id, gpu.uuid⟩ := by
  have all : candidates demand [worker] [] options =
      [candidate demand options worker gpu] := by
    simp [candidates, eligible, gpus, free]
  rw [choosePlacement, all]
  rfl

/-- An agent that has completed its first refresh. -/
theorem refreshed_agent (config : WorkerConfig)
    {manifests : List AdapterManifest} (round : ProbeRound)
    (valid : ValidRegistry manifests)
    (gateways : ∀ manifest ∈ manifests,
      manifest.executionMode = .streamingGateway)
    (few : manifests.length ≤ 64)
    (bounded : ∀ capability ∈ config.capabilities,
      BoundedText 100 (trimText capability))
    (early : 0 ≤ round.now) (late : round.now ≤ JsonText.maxSafeInteger)
    (unmixed : ∀ type ∈ config.capabilities,
      type ∉ manifests.map (·.type)) :
    ∃ created agent, WorkerAgent.create .codePoints config
        (manifests.map (·.offered)) = .ok created ∧
      Advertising created agent ∧ agent.config = config ∧
      agent.sessionAdapters.Perm manifests ∧ Produced agent round := by
  obtain ⟨registry, perm, made⟩ := createSessionAdapterRegistry_of .codePoints
    valid gateways few
  have created : WorkerAgent.create .codePoints config
      (manifests.map (·.offered)) = .ok ⟨config, registry, [], [], [], [], 0⟩ :=
    bind_ok.mpr ⟨registry, made, rfl⟩
  obtain ⟨agent, refreshed⟩ := refreshCapabilities_of
    ⟨config, registry, [], [], [], [], 0⟩ round (valid.perm perm) bounded early
    late (by
      intro type member provided
      have configured := (installed_types.mp member).1
      apply unmixed type
      · exact List.mem_dedup.mp ((sortText_perm _).mem_iff.mp configured)
      · exact (perm.map _).mem_iff.mp provided)
  obtain ⟨sameConfig, sameRegistry, skipped | produced⟩ :=
    refreshCapabilities_ok (valid.perm perm) refreshed
  · cases skipped.1
  · refine ⟨_, agent, created, .first refreshed, sameConfig, ?_, produced⟩
    rw [sameRegistry]
    exact perm

/-- The row of a worker that has sent these. -/
def recordedHost (capabilities : List String)
    (manifests : List AdapterManifest) (health : List AdapterHealth) : Worker :=
  { idleHost "worker_1" 0 with
    capabilities := capabilities
    adapterManifests := manifests
    adapterHealth := health }

theorem recordedHost_advertised {agent : WorkerAgent}
    (accepted : SignalsAccepted .codePoints agent (.array []) (.array [])) :
    ∃ capabilities manifests health, Advertised .codePoints agent
      (recordedHost capabilities manifests health) := by
  obtain ⟨taken, registered⟩ := accepted.1
  exact ⟨taken.1, taken.2.manifests, taken.2.health, .array [], .array [],
    taken, .inl registered, rfl, rfl, rfl⟩

/-- The only GPU of the row takes what asks for little memory. -/
theorem recordedHost_chosen {capabilities : List String}
    {manifests : List AdapterManifest} {health : List AdapterHealth}
    {demand : Demand} (modest : demand.minVramMiB = 1)
    (capable : ∀ capability ∈ demand.capabilities, capability ∈ capabilities)
    (ready : adapterReady demand
      (recordedHost capabilities manifests health) = true) :
    choosePlacement .codePoints demand
        [recordedHost capabilities manifests health] [] idleOptions =
      some ⟨"worker_1", sampleGpu.uuid⟩ := by
  have eligible : workerEligible demand idleOptions
      (recordedHost capabilities manifests health) = true := by
    simp only [workerEligible, Bool.and_eq_true]
    refine ⟨⟨rfl, ?_⟩, ready⟩
    apply List.all_eq_true.mpr
    intro capability asked
    exact decide_eq_true (capable capability asked)
  apply choosePlacement_single eligible rfl
  simp [gpuEligible, modest, idleOptions, freeVramMiB, sampleGpu]

def audioConfig : WorkerConfig := { echoConfig with capabilities := [] }

/-- Every probe of a session adapter says that it is ready. -/
def audioRound : ProbeRound where
  now := 1
  installed _ := .rejected
  session _ := some (.fulfilled (.bool true))

def audioManifest : AdapterManifest := numberedManifest 0

/-- A worker with one session adapter and none of its own. -/
theorem audio_agent : ∃ created agent capabilities,
    WorkerAgent.create .codePoints audioConfig [audioManifest.offered] =
        .ok created ∧
      Advertising created agent ∧
      agent.sessionAdapters = [audioManifest] ∧
      agent.adapterManifests = [audioManifest] ∧
      "stream.audio" ∈ capabilities ∧
      Advertised .codePoints agent (recordedHost capabilities [audioManifest]
        [sessionHealth audioRound.session 1 audioManifest]) := by
  have valid : ValidRegistry [audioManifest] := by
    refine ⟨?_, ?_, List.nodup_singleton _⟩
    · intro manifest member
      rw [List.mem_singleton.mp member]
      exact numberedManifest_wellFormed (by decide)
    · intro manifest member
      rw [List.mem_singleton.mp member]
      rfl
  obtain ⟨created, agent, made, advertising, config, perm, produced⟩ :=
    refreshed_agent audioConfig audioRound valid
      (by
        intro manifest member
        rw [List.mem_singleton.mp member]
        rfl)
      (by decide) (by simp [audioConfig]) (by decide) (by decide)
      (by simp [audioConfig])
  have registry : agent.sessionAdapters = [audioManifest] :=
    List.perm_singleton.mp perm
  have kept : ValidRegistry agent.sessionAdapters := valid.perm perm
  have configured : agent.configured = [] := by
    rw [WorkerAgent.configured, config]
    rfl
  have manifests : agent.adapterManifests = [audioManifest] := by
    rw [produced.manifests, WorkerAgent.installed, configured, registry]
    rfl
  have health : agent.adapterHealth =
      [sessionHealth audioRound.session 1 audioManifest] := by
    rw [produced.health, WorkerAgent.own, configured, registry]
    rfl
  have accepted := (produced.accepted_iff kept .codePoints (.array [])
    (.array [])).mpr (by
      rw [config, registry]
      exact ⟨by decide, by decide⟩)
  obtain ⟨capabilities, others, reports, advertised⟩ :=
    recordedHost_advertised accepted
  have shown := produced.shows kept advertised
  have sameManifests : others = [audioManifest] := by
    have sent := shown.manifests
    rw [manifests] at sent
    exact List.perm_singleton.mp sent
  have sameHealth :
      reports = [sessionHealth audioRound.session 1 audioManifest] := by
    have sent := shown.health
    rw [health] at sent
    exact List.perm_singleton.mp sent
  rw [sameManifests, sameHealth] at advertised
  refine ⟨created, agent, capabilities, made, advertising, registry,
    manifests, ?_, advertised⟩
  apply (shown.capabilities "stream.audio").mpr
  apply ((produced.consistent kept).capable "stream.audio").mpr
  refine ⟨sessionHealth audioRound.session 1 audioManifest, ?_, rfl, rfl⟩
  rw [health]
  exact List.mem_cons_self

/-- A session that asks for its capability. -/
def askingSession (capability : String) (adapter : Option String) : Session where
  id := "session_1"
  schemaVersion := 1
  projectId := "project"
  capability := capability
  priority := 0
  status := .requested
  requirements := ⟨1, 1, [capability], none, adapter⟩
  metadata := .object []
  recovery := ⟨0⟩
  interruptionCount := 0
  assignedWorkerId := none
  assignedGpuUuid := none
  leaseId := none
  leaseExpiresAt := none
  idempotencyKey := none
  createdAt := 1000
  updatedAt := 1000

/-- A job that asks for its type. -/
def askingJob (type : String) : Job where
  id := "job_1"
  projectId := "project"
  type := type
  priority := 0
  status := .queued
  constraints := ⟨1, 1, [type], none⟩
  payload := .object []
  result := .null
  error := .null
  assignedWorkerId := none
  assignedGpuUuid := none
  leaseId := none
  leaseExpiresAt := none
  attempt := 0
  maxAttempts := 1
  idempotencyKey := none
  createdAt := 1000
  updatedAt := 1000

/-- The session adapter of the worker is pinned, placed and selected. -/
theorem pinned_placement_sample : ∃ created agent capabilities,
    WorkerAgent.create .codePoints audioConfig [audioManifest.offered] =
        .ok created ∧
      Advertising created agent ∧
      choosePlacement .codePoints
          (askingSession "stream.audio" (some "a")).demand
          [recordedHost capabilities [audioManifest]
            [sessionHealth audioRound.session 1 audioManifest]] []
          idleOptions = some ⟨"worker_1", sampleGpu.uuid⟩ ∧
      (∃ manifest ∈ agent.sessionAdapters, manifest.adapterId = some "a" ∧
        manifest.type = "stream.audio") ∧
        selectSessionHandler .codePoints (agent.handlers false)
          (askingSession "stream.audio" (some "a")) = some (.adapter "a") := by
  obtain ⟨created, agent, capabilities, made, advertising, _, _, capable,
    advertised⟩ := audio_agent
  have chosen : choosePlacement .codePoints
      (askingSession "stream.audio" (some "a")).demand
      [recordedHost capabilities [audioManifest]
        [sessionHealth audioRound.session 1 audioManifest]] [] idleOptions =
      some ⟨"worker_1", sampleGpu.uuid⟩ := by
    apply recordedHost_chosen rfl _ rfl
    intro capability asked
    rw [List.mem_singleton.mp asked]
    exact capable
  refine ⟨created, agent, capabilities, made, advertising, chosen, ?_⟩
  apply pinned_placement_dispatched .codePoints .codePoints audioConfig
    [audioManifest.offered] made advertising
    (askingSession "stream.audio" (some "a")) "a" rfl _ [] idleOptions _ chosen
  intro worker listed _
  rw [List.mem_singleton.mp listed]
  exact advertised

/-- A worker with the echo adapter and no session adapter. -/
theorem echo_agent : ∃ created agent capabilities manifests health,
    WorkerAgent.create .codePoints echoConfig [] = .ok created ∧
      Advertising created agent ∧ agent.sessionAdapters = [] ∧
      "diagnostic.echo" ∈ capabilities ∧
      Advertised .codePoints agent
        (recordedHost capabilities manifests health) := by
  have valid : ValidRegistry [] := ⟨by simp, by simp, List.nodup_nil⟩
  obtain ⟨created, agent, made, advertising, config, perm, produced⟩ :=
    refreshed_agent echoConfig echoRound valid (by simp) (by decide)
      echo_bounded (by decide) (by decide) (by simp)
  have registry : agent.sessionAdapters = [] := List.perm_nil.mp perm
  have kept : ValidRegistry agent.sessionAdapters := valid.perm perm
  have accepted := (produced.accepted_iff kept .codePoints (.array [])
    (.array [])).mpr (by
      rw [config, registry]
      exact ⟨by decide, by decide⟩)
  obtain ⟨capabilities, manifests, health, advertised⟩ :=
    recordedHost_advertised accepted
  refine ⟨created, agent, capabilities, manifests, health, made, advertising,
    registry, ?_, advertised⟩
  have shown := produced.shows kept advertised
  apply (shown.capabilities "diagnostic.echo").mpr
  have configured : agent.configured = ["diagnostic.echo"] := by
    rw [WorkerAgent.configured, config]
    rfl
  rw [produced.capabilities, configured, registry,
    (sortText_perm _).mem_iff, List.mem_dedup]
  exact List.mem_append_left _ List.mem_cons_self

/-- The echo worker has no handler for the session that is placed on it, and
the audio worker no adapter for the job. -/
theorem unpinned_placement_unbacked :
    (∃ created agent worker placement,
      WorkerAgent.create .codePoints echoConfig [] = .ok created ∧
        Advertising created agent ∧ Advertised .codePoints agent worker ∧
        choosePlacement .codePoints
            (askingSession "diagnostic.echo" none).demand [worker] []
            idleOptions = some placement ∧
        selectSessionHandler .codePoints (agent.handlers false)
          (askingSession "diagnostic.echo" none) = none) ∧
    ∃ created agent worker placement,
      WorkerAgent.create .codePoints audioConfig [audioManifest.offered] =
          .ok created ∧
        Advertising created agent ∧ Advertised .codePoints agent worker ∧
        choosePlacement .codePoints (askingJob "stream.audio").demand [worker]
            [] idleOptions = some placement ∧
        hasAdapter "stream.audio" = false := by
  constructor
  · obtain ⟨created, agent, capabilities, manifests, health, made, advertising,
      registry, capable, advertised⟩ := echo_agent
    refine ⟨created, agent, _, _, made, advertising, advertised,
      recordedHost_chosen rfl ?_ rfl, ?_⟩
    · intro capability asked
      rw [List.mem_singleton.mp asked]
      exact capable
    · rw [WorkerAgent.handlers, registry]
      rfl
  · obtain ⟨created, agent, capabilities, made, advertising, _, _, capable,
      advertised⟩ := audio_agent
    refine ⟨created, agent, _, _, made, advertising, advertised,
      recordedHost_chosen rfl ?_ rfl, by decide⟩
    intro capability asked
    rw [List.mem_singleton.mp asked]
    exact capable

/-- The audio worker attends to the session that is placed on it. -/
theorem unpinned_placement_sample : ∃ created agent,
    WorkerAgent.create .codePoints audioConfig [audioManifest.offered] =
        .ok created ∧
      Advertising created agent ∧
      (selectSessionHandler .codePoints (agent.handlers false)
        (askingSession "stream.audio" none)).isSome := by
  obtain ⟨created, agent, capabilities, made, advertising, _, recorded,
    capable, advertised⟩ := audio_agent
  refine ⟨created, agent, made, advertising, ?_⟩
  have dispatched := unpinned_placement_dispatched .codePoints .codePoints
    audioConfig [audioManifest.offered] made advertising
    [recordedHost capabilities [audioManifest]
      [sessionHealth audioRound.session 1 audioManifest]] [] idleOptions
    ⟨"worker_1", sampleGpu.uuid⟩
    (by
      intro worker listed _
      rw [List.mem_singleton.mp listed]
      exact advertised)
  apply (dispatched.1 (askingSession "stream.audio" none) rfl
    List.mem_cons_self (recordedHost_chosen rfl _ rfl)).mpr
  · intro own
    obtain ⟨manifest, listed, first, _⟩ := own
    rw [recorded, List.mem_singleton] at listed
    rw [listed] at first
    exact absurd first (by decide)
  · intro capability asked
    rw [List.mem_singleton.mp asked]
    exact capable

end GpuLink
