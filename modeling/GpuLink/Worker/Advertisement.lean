import GpuLink.ControlPlane.AdvertisedAdapters
import GpuLink.Worker.SessionAdapters

/-!
# What a worker advertises

`#refreshCapabilities` puts together what the worker's own adapters and its
session adapters report.  The control plane takes the outcome exactly when all
the reports fit in one list.
-/

namespace GpuLink

open AdapterContract Validation

/-! ## The agent -/

/-- The configured capabilities, from the environment. -/
def configuredCapabilities (environment : Option String) : List String :=
  let text := (environment.map trimText).getD ""
  let text := if text = "" then "diagnostic.echo,diagnostic.gpu-status" else text
  sortText ((DataPlane.protocolValues text).map String.ofList).dedup

structure WorkerConfig where
  name : String
  version : String
  labels : Json
  warmModels : Json
  capabilities : List String
  capabilityProbeIntervalMs : Option Int

structure WorkerAgent where
  config : WorkerConfig
  sessionAdapters : List AdapterManifest
  readySessionAdapters : List String
  capabilities : List String
  adapterManifests : List AdapterManifest
  adapterHealth : List AdapterHealth
  capabilitiesCheckedAt : Int

/-- What a refresh meets: the time and how the probes settle. -/
structure ProbeRound where
  now : Int
  installed : String → ProbeOutcome
  session : String → Option ProbeOutcome

namespace WorkerAgent

/-- `new WorkerAgent(config, { sessionAdapters })` -/
def create (locale : Locale) (config : WorkerConfig)
    (adapters : List (Option OfferedAdapter)) : Except String WorkerAgent := do
  let registry ← createSessionAdapterRegistry locale adapters
  return {
    config := config
    sessionAdapters := registry
    readySessionAdapters := []
    capabilities := []
    adapterManifests := []
    adapterHealth := []
    capabilitiesCheckedAt := 0 }

/-- `#refreshCapabilities`, with the worker's own resolver. -/
def refreshCapabilities (agent : WorkerAgent) (force : Bool)
    (round : ProbeRound) : Except String WorkerAgent :=
  if !force && round.now - agent.capabilitiesCheckedAt <
      agent.config.capabilityProbeIntervalMs.getD 300000 then .ok agent
  else do
    let report ← resolveAdapterHealth agent.config.capabilities round.installed
      round.now
    let v1Manifests := report.adapterManifests.filter (fun manifest =>
      manifest.schemaVersion = 1)
    let v1Types := v1Manifests.map (·.type)
    let sessionTypes := agent.sessionAdapters.map (·.type)
    match v1Types.find? (fun type => type ∈ sessionTypes) with
    | some type =>
        .error ("session adapter conflicts with v1 capability " ++ type)
    | none => do
        let sessionReport ← probeSessionAdapters agent.sessionAdapters
          round.session round.now
        let v1Capabilities := report.capabilities.filter (fun capability =>
          capability ∈ v1Types)
        let v1Health := report.adapterHealth.filter (fun health =>
          health.schemaVersion = 1 && health.type ∉ sessionTypes)
        return { agent with
          capabilities :=
            sortText (v1Capabilities ++ sessionReport.capabilities).dedup
          adapterManifests := v1Manifests ++ sessionReport.adapterManifests
          adapterHealth := v1Health ++ sessionReport.adapterHealth
          readySessionAdapters :=
            ((sessionReport.adapterHealth.filter (fun entry =>
              entry.state = .ready)).map (fun entry => entry.adapterId.getD ""))
          capabilitiesCheckedAt := round.now }

def advertised (agent : WorkerAgent) : List (String × Json) :=
  [("capabilities", .array (agent.capabilities.map .string)),
    ("adapterManifests", .array (agent.adapterManifests.map (·.toJson))),
    ("adapterHealth", .array (agent.adapterHealth.map (·.toJson)))]

/-- The body of `registerWorker`. -/
def registration (agent : WorkerAgent) (modelInventory gpus : Json) : Json :=
  .object ([("name", .string agent.config.name),
      ("version", .string agent.config.version),
      ("labels", agent.config.labels)] ++ agent.advertised ++
    [("warmModels", agent.config.warmModels),
      ("modelInventory", modelInventory), ("gpus", gpus)])

/-- The body of `heartbeat`. -/
def heartbeat (agent : WorkerAgent) (modelInventory gpus : Json) : Json :=
  .object (agent.advertised ++
    [("warmModels", agent.config.warmModels),
      ("modelInventory", modelInventory), ("gpus", gpus)])

end WorkerAgent

/-- What the agent of a configuration can come to advertise: the forced refresh
that `start` begins with has completed, and any refreshes after it. -/
inductive Advertising (created : WorkerAgent) : WorkerAgent → Prop where
  | first {round : ProbeRound} {agent : WorkerAgent}
      (refreshed : created.refreshCapabilities true round = .ok agent) :
      Advertising created agent
  | next {before agent : WorkerAgent} {force : Bool} {round : ProbeRound}
      (earlier : Advertising created before)
      (refreshed : before.refreshCapabilities force round = .ok agent) :
      Advertising created agent

/-- The control plane takes what the agent sends about its adapters. -/
def SignalsAccepted (locale : Locale) (agent : WorkerAgent)
    (modelInventory gpus : Json) : Prop :=
  (∃ taken, validateWorkerAdapters locale
    (agent.registration modelInventory gpus) = .ok taken) ∧
  ∃ taken, validateHeartbeatAdapters locale
    (agent.heartbeat modelInventory gpus) = .ok taken

/-- The configured capabilities that no session adapter provides. -/
def ownCapabilities (capabilities : List String)
    (registry : List AdapterManifest) : List String :=
  capabilities.dedup.filter (fun capability =>
    trimText capability ∉ registry.map (·.type))

/-- The worker's own capabilities have different names, and with the session
adapters they are at most 64. -/
def Advertisable (capabilities : List String)
    (registry : List AdapterManifest) : Prop :=
  ((ownCapabilities capabilities registry).map trimText).Nodup ∧
    (ownCapabilities capabilities registry).length + registry.length ≤ 64

/-! ## The worker's own part -/

theorem installedAdapters_valid :
    ∀ adapter ∈ installedAdapters, adapter.manifest.WellFormed ∧
      adapter.manifest.schemaVersion = 1 ∧
      adapter.manifest.adapterId = none := by
  intro adapter member
  simp only [installedAdapters, List.mem_cons, List.not_mem_nil,
    or_false] at member
  rcases member with rfl | rfl | rfl
  all_goals
    refine ⟨⟨⟨⟨by decide, by decide, by decide⟩, .inl ⟨rfl, rfl⟩⟩,
      ⟨by decide, by decide, by decide⟩, by decide⟩, rfl, rfl⟩

theorem installedManifest_eq_some {outcomes : String → ProbeOutcome}
    {capability : String} {manifest : AdapterManifest} :
    installedManifest outcomes capability = some manifest ↔
      installedState outcomes capability = .ready ∧
        ∃ adapter, installedAdapter capability = some adapter ∧
          adapter.manifest = manifest := by
  unfold installedManifest
  split_ifs with ready
  · simp [ready]
  · simp [ready]

/-- A capability that is ready is one of the installed adapters. -/
theorem installed_of_ready {outcomes : String → ProbeOutcome}
    {capability : String}
    (ready : installedState outcomes capability = .ready) :
    ∃ manifest, installedManifest outcomes capability = some manifest := by
  unfold installedManifest
  rw [if_pos ready]
  unfold installedState at ready
  cases found : installedAdapter capability with
  | none =>
      rw [found] at ready
      cases ready
  | some adapter => exact ⟨adapter.manifest, rfl⟩

theorem installedManifest_valid {outcomes : String → ProbeOutcome}
    {capability : String} {manifest : AdapterManifest}
    (found : installedManifest outcomes capability = some manifest) :
    manifest.WellFormed ∧ manifest.identity = (1, capability, none) ∧
      trimText capability = capability ∧
      installedState outcomes capability = .ready := by
  obtain ⟨ready, adapter, installed, rfl⟩ := installedManifest_eq_some.mp found
  unfold installedAdapter at installed
  have matched := List.find?_some installed
  have type : adapter.manifest.type = capability := of_decide_eq_true matched
  obtain ⟨wellFormed, first, unnamed⟩ := installedAdapters_valid adapter
    (List.mem_of_find?_eq_some installed)
  refine ⟨wellFormed, ?_, ?_, ready⟩
  · rw [AdapterManifest.identity, type, first, unnamed]
  · rw [← type]
    exact wellFormed.identified.1.trimmed

/-- The configured capabilities in the order in which they are asked. -/
def WorkerAgent.configured (agent : WorkerAgent) : List String :=
  sortText agent.config.capabilities.dedup

theorem WorkerAgent.configured_nodup (agent : WorkerAgent) :
    agent.configured.Nodup :=
  (sortText_perm _).nodup_iff.mpr (List.nodup_dedup _)

/-- Those that no session adapter provides. -/
def WorkerAgent.own (agent : WorkerAgent) : List String :=
  agent.configured.filter (fun capability =>
    trimText capability ∉ agent.sessionAdapters.map (·.type))

theorem WorkerAgent.own_perm (agent : WorkerAgent) :
    agent.own.Perm
      (ownCapabilities agent.config.capabilities agent.sessionAdapters) :=
  (sortText_perm _).filter _

/-- The manifests of the capabilities that are ready. -/
def WorkerAgent.installed (agent : WorkerAgent) (round : ProbeRound) :
    List AdapterManifest :=
  agent.configured.filterMap (installedManifest round.installed)

theorem mem_installed {agent : WorkerAgent} {round : ProbeRound}
    {manifest : AdapterManifest} (member : manifest ∈ agent.installed round) :
    manifest.type ∈ agent.configured ∧
      installedManifest round.installed manifest.type = some manifest := by
  obtain ⟨capability, listed, found⟩ := List.mem_filterMap.mp member
  have type : manifest.type = capability :=
    congrArg (fun identity : Identity => identity.2.1)
      (installedManifest_valid found).2.1
  rw [type]
  exact ⟨listed, found⟩

theorem installed_types {agent : WorkerAgent} {round : ProbeRound}
    {capability : String} :
    capability ∈ (agent.installed round).map (·.type) ↔
      capability ∈ agent.configured ∧
        installedState round.installed capability = .ready := by
  constructor
  · intro member
    obtain ⟨manifest, listed, rfl⟩ := List.mem_map.mp member
    obtain ⟨configured, found⟩ := mem_installed listed
    exact ⟨configured, (installedManifest_valid found).2.2.2⟩
  · intro facts
    obtain ⟨configured, ready⟩ := facts
    obtain ⟨manifest, found⟩ := installed_of_ready ready
    have type : manifest.type = capability :=
      congrArg (fun identity : Identity => identity.2.1)
        (installedManifest_valid found).2.1
    rw [← type]
    exact List.mem_map_of_mem
      (List.mem_filterMap.mpr ⟨capability, configured, found⟩)

theorem installed_first {agent : WorkerAgent} {round : ProbeRound} :
    (agent.installed round).filter (fun manifest => manifest.schemaVersion = 1) =
      agent.installed round := by
  apply List.filter_eq_self.mpr
  intro manifest member
  have identity := (installedManifest_valid (mem_installed member).2).2.1
  exact decide_eq_true (congrArg Prod.fst identity)

/-- What a completed refresh has put together. -/
structure Produced (agent : WorkerAgent) (round : ProbeRound) : Prop where
  unmixed : ∀ capability ∈ agent.configured,
    installedState round.installed capability = .ready →
      capability ∉ agent.sessionAdapters.map (·.type)
  capabilities : agent.capabilities = sortText
    (agent.configured.filter (fun capability =>
        installedState round.installed capability = .ready) ++
      sortText ((agent.sessionAdapters.filter
        (isReadySession round.session)).map (·.type)).dedup).dedup
  manifests : agent.adapterManifests = agent.installed round ++
    agent.sessionAdapters.filter (isReadySession round.session)
  health : agent.adapterHealth =
    agent.own.map (ownHealth round.installed round.now) ++
      agent.sessionAdapters.map (sessionHealth round.session round.now)
  healthValid : ∀ report ∈ agent.adapterHealth, report.WellFormed

theorem refreshCapabilities_ok {agent after : WorkerAgent} {force : Bool}
    {round : ProbeRound} (valid : ValidRegistry agent.sessionAdapters)
    (refreshed : agent.refreshCapabilities force round = .ok after) :
    after.config = agent.config ∧
      after.sessionAdapters = agent.sessionAdapters ∧
      ((force = false ∧ after = agent) ∨ Produced after round) := by
  unfold WorkerAgent.refreshCapabilities at refreshed
  split_ifs at refreshed with early
  · cases refreshed
    simp only [Bool.and_eq_true, Bool.not_eq_true'] at early
    exact ⟨rfl, rfl, .inl ⟨early.1, rfl⟩⟩
  · obtain ⟨report, resolved, refreshed⟩ := bind_ok.mp refreshed
    obtain ⟨ready, installed, own, ownValid⟩ := resolveAdapterHealth_ok resolved
    simp only at refreshed
    split at refreshed
    · cases refreshed
    · rename_i unmixed
      obtain ⟨sessions, probed, refreshed⟩ := bind_ok.mp refreshed
      obtain ⟨manifests, types, health, sessionValid⟩ :=
        probeSessionAdapters_ok valid probed
      cases refreshed
      have installed : report.adapterManifests = agent.installed round :=
        installed
      rw [installed, installed_first] at unmixed
      have apart := List.find?_eq_none.mp unmixed
      have ownReports : report.adapterHealth.filter (fun health =>
          health.schemaVersion = 1 &&
            health.type ∉ agent.sessionAdapters.map (·.type)) =
          agent.own.map (ownHealth round.installed round.now) := by
        rw [own, List.filter_map]
        congr 1
      have ownCapabilities : report.capabilities.filter (fun capability =>
          capability ∈ (agent.installed round).map (·.type)) =
          report.capabilities := by
        apply List.filter_eq_self.mpr
        intro capability member
        rw [ready] at member
        obtain ⟨configured, ready⟩ := List.mem_filter.mp member
        exact decide_eq_true
          (installed_types.mpr ⟨configured, of_decide_eq_true ready⟩)
      refine ⟨rfl, rfl, .inr ⟨?_, ?_, ?_, ?_, ?_⟩⟩
      · intro capability configured isReady provided
        exact apart capability (installed_types.mpr ⟨configured, isReady⟩)
          (decide_eq_true provided)
      · simp only [installed, installed_first, ownCapabilities, types,
          manifests]
        rw [ready]
        rfl
      · simp only [installed, installed_first, manifests]
        rfl
      · simp only [ownReports, health]
        rfl
      · intro entry member
        rcases List.mem_append.mp member with here | session
        · exact ownValid entry (List.mem_filter.mp here).1
        · exact sessionValid entry session

/-! ## Manifests, reports and capabilities agree -/

section Produced

variable {agent : WorkerAgent} {round : ProbeRound}

theorem mem_own {capability : String} :
    capability ∈ agent.own ↔ capability ∈ agent.configured ∧
      trimText capability ∉ agent.sessionAdapters.map (·.type) := by
  rw [WorkerAgent.own, List.mem_filter, decide_eq_true_eq]

/-- A capability that is ready is not one that a session adapter provides. -/
theorem Produced.ready_own (produced : Produced agent round)
    {capability : String} (configured : capability ∈ agent.configured)
    (ready : installedState round.installed capability = .ready) :
    capability ∈ agent.own := by
  obtain ⟨manifest, found⟩ := installed_of_ready ready
  apply mem_own.mpr
  rw [(installedManifest_valid found).2.2.1]
  exact ⟨configured, produced.unmixed capability configured ready⟩

theorem sessionHealth_identity (valid : ValidRegistry agent.sessionAdapters)
    {manifest : AdapterManifest} (member : manifest ∈ agent.sessionAdapters) :
    (sessionHealth round.session round.now manifest).identity =
      manifest.identity := by
  rw [AdapterManifest.identity, valid.second manifest member]
  rfl

theorem ownHealth_identity {capability : String} {manifest : AdapterManifest}
    (found : installedManifest round.installed capability = some manifest) :
    (ownHealth round.installed round.now capability).identity =
      manifest.identity := by
  obtain ⟨_, identity, trimmed, _⟩ := installedManifest_valid found
  rw [identity, AdapterHealth.identity, ownHealth, trimmed]

theorem Produced.consistent (produced : Produced agent round)
    (valid : ValidRegistry agent.sessionAdapters) :
    Consistent agent.capabilities agent.adapterManifests
      agent.adapterHealth where
  manifestReady manifest member := by
    rw [produced.manifests] at member
    rw [produced.health]
    rcases List.mem_append.mp member with here | session
    · obtain ⟨configured, found⟩ := mem_installed here
      have ready := (installedManifest_valid found).2.2.2
      refine ⟨_, List.mem_append_left _ (List.mem_map_of_mem
        (produced.ready_own configured ready)), ready, ?_⟩
      exact ownHealth_identity found
    · obtain ⟨registered, ready⟩ := List.mem_filter.mp session
      refine ⟨_, List.mem_append_right _ (List.mem_map_of_mem registered),
        of_decide_eq_true ready, ?_⟩
      exact sessionHealth_identity valid registered
  readyManifest report member ready := by
    rw [produced.health] at member
    rw [produced.manifests]
    rcases List.mem_append.mp member with here | session
    · obtain ⟨capability, listed, rfl⟩ := List.mem_map.mp here
      obtain ⟨manifest, found⟩ := installed_of_ready ready
      refine ⟨manifest, List.mem_append_left _ ?_,
        (ownHealth_identity found).symm⟩
      exact List.mem_filterMap.mpr ⟨capability, (mem_own.mp listed).1, found⟩
    · obtain ⟨manifest, registered, rfl⟩ := List.mem_map.mp session
      refine ⟨manifest, List.mem_append_right _ ?_,
        (sessionHealth_identity valid registered).symm⟩
      exact List.mem_filter.mpr ⟨registered, decide_eq_true ready⟩
  capable capability := by
    rw [produced.capabilities, produced.health, (sortText_perm _).mem_iff,
      List.mem_dedup, List.mem_append, (sortText_perm _).mem_iff,
      List.mem_dedup, List.mem_filter, decide_eq_true_eq]
    constructor
    · intro listed
      rcases listed with ⟨configured, ready⟩ | session
      · obtain ⟨manifest, found⟩ := installed_of_ready ready
        refine ⟨_, List.mem_append_left _ (List.mem_map_of_mem
          (produced.ready_own configured ready)), ready, ?_⟩
        exact (installedManifest_valid found).2.2.1
      · obtain ⟨manifest, kept, rfl⟩ := List.mem_map.mp session
        obtain ⟨registered, ready⟩ := List.mem_filter.mp kept
        exact ⟨_, List.mem_append_right _ (List.mem_map_of_mem registered),
          of_decide_eq_true ready, rfl⟩
    · intro reported
      obtain ⟨report, member, ready, rfl⟩ := reported
      rcases List.mem_append.mp member with here | session
      · obtain ⟨capability, listed, rfl⟩ := List.mem_map.mp here
        obtain ⟨manifest, found⟩ := installed_of_ready ready
        have trimmed := (installedManifest_valid found).2.2.1
        left
        rw [show (ownHealth round.installed round.now capability).type =
          capability from trimmed]
        exact ⟨(mem_own.mp listed).1, ready⟩
      · obtain ⟨manifest, registered, rfl⟩ := List.mem_map.mp session
        right
        exact List.mem_map_of_mem (List.mem_filter.mpr
          ⟨registered, decide_eq_true ready⟩)

theorem Produced.manifestsValid (produced : Produced agent round)
    (valid : ValidRegistry agent.sessionAdapters) :
    ∀ manifest ∈ agent.adapterManifests, manifest.WellFormed := by
  intro manifest member
  rw [produced.manifests] at member
  rcases List.mem_append.mp member with here | session
  · exact (installedManifest_valid (mem_installed here).2).1
  · exact valid.wellFormed manifest (List.mem_filter.mp session).1

theorem Produced.health_identities (produced : Produced agent round)
    (valid : ValidRegistry agent.sessionAdapters) :
    agent.adapterHealth.map (·.identity) =
      agent.own.map (fun capability => (1, trimText capability, none)) ++
        agent.sessionAdapters.map (·.identity) := by
  rw [produced.health, List.map_append, List.map_map, List.map_map]
  congr 1
  apply List.map_congr_left
  intro manifest member
  exact sessionHealth_identity valid member

theorem registry_second (valid : ValidRegistry agent.sessionAdapters)
    {manifests : List AdapterManifest}
    (kept : manifests ⊆ agent.sessionAdapters) :
    ∀ identity ∈ manifests.map (·.identity), identity.1 ≠ 1 := by
  intro identity member first
  obtain ⟨manifest, listed, rfl⟩ := List.mem_map.mp member
  have second := valid.second manifest (kept listed)
  rw [show manifest.schemaVersion = 1 from first] at second
  cases second

theorem Produced.health_distinct (produced : Produced agent round)
    (valid : ValidRegistry agent.sessionAdapters) :
    Distinct (agent.adapterHealth.map (·.identity)) ↔
      (agent.own.map trimText).Nodup := by
  rw [produced.health_identities valid]
  rw [distinct_append (by simp) (registry_second valid (List.Subset.refl _))]
  simp only [List.map_map]
  constructor
  · intro facts
    exact facts.1
  · intro distinct
    refine ⟨distinct, valid.distinct, ?_⟩
    intro type member provided
    obtain ⟨capability, listed, rfl⟩ := List.mem_map.mp member
    exact (mem_own.mp listed).2 provided

theorem installed_nodup : ((agent.installed round).map (·.type)).Nodup := by
  rw [WorkerAgent.installed, List.map_filterMap]
  apply List.Nodup.filterMap _ agent.configured_nodup
  intro capability other type first second
  obtain ⟨manifest, found, rfl⟩ := Option.map_eq_some_iff.mp first
  obtain ⟨others, same, equal⟩ := Option.map_eq_some_iff.mp second
  have left : manifest.type = capability :=
    congrArg (fun identity : Identity => identity.2.1)
      (installedManifest_valid found).2.1
  have right : others.type = other :=
    congrArg (fun identity : Identity => identity.2.1)
      (installedManifest_valid same).2.1
  rw [← left, ← right, equal]

theorem Produced.manifests_distinct (produced : Produced agent round)
    (valid : ValidRegistry agent.sessionAdapters) :
    Distinct (agent.adapterManifests.map (·.identity)) := by
  rw [produced.manifests, List.map_append, distinct_append]
  · simp only [List.map_map]
    refine ⟨installed_nodup, ?_, ?_⟩
    · exact valid.distinct.sublist (List.filter_sublist.map _)
    · intro type member provided
      obtain ⟨configured, ready⟩ := installed_types.mp member
      apply produced.unmixed type configured ready
      exact (List.filter_sublist.map _).subset provided
  · intro identity member
    obtain ⟨manifest, listed, rfl⟩ := List.mem_map.mp member
    exact congrArg Prod.fst
      (installedManifest_valid (mem_installed listed).2).2.1
  · exact registry_second valid List.filter_sublist.subset

theorem Produced.health_length (produced : Produced agent round) :
    agent.adapterHealth.length =
      agent.own.length + agent.sessionAdapters.length := by
  rw [produced.health, List.length_append, List.length_map, List.length_map]

/-- Every manifest stands for a report. -/
theorem Produced.manifests_length (produced : Produced agent round) :
    agent.adapterManifests.length ≤ agent.adapterHealth.length := by
  rw [produced.health_length, produced.manifests, List.length_append]
  have own : (agent.installed round).length ≤ agent.own.length := by
    have covered : (agent.installed round).map (·.type) ⊆ agent.own := by
      intro type member
      obtain ⟨configured, ready⟩ := installed_types.mp member
      exact produced.ready_own configured ready
    have counted := (List.subperm_of_subset installed_nodup covered).length_le
    rw [List.length_map] at counted
    exact counted
  have session := List.length_filter_le (isReadySession round.session)
    agent.sessionAdapters
  omega

theorem Produced.accepted_iff (produced : Produced agent round)
    (valid : ValidRegistry agent.sessionAdapters) (locale : Locale)
    (modelInventory gpus : Json) :
    SignalsAccepted locale agent modelInventory gpus ↔
      Advertisable agent.config.capabilities agent.sessionAdapters := by
  have capabilitiesBounded : ∀ capability ∈ agent.capabilities,
      BoundedText 100 capability := by
    intro capability member
    obtain ⟨report, listed, _, rfl⟩ :=
      ((produced.consistent valid).capable capability).mp member
    exact (produced.healthValid report listed).identified.1
  have distinct : agent.capabilities.Nodup := by
    rw [produced.capabilities]
    exact (sortText_perm _).nodup_iff.mpr (List.nodup_dedup _)
  have fits : ((agent.adapterManifests.length ≤ 64 ∧
        Distinct (agent.adapterManifests.map (·.identity))) ∧
      agent.adapterHealth.length ≤ 64 ∧
        Distinct (agent.adapterHealth.map (·.identity))) ↔
      Advertisable agent.config.capabilities agent.sessionAdapters := by
    have fewer := produced.manifests_length
    rw [produced.health_distinct valid, produced.health_length]
    rw [produced.health_length] at fewer
    unfold Advertisable
    rw [← agent.own_perm.length_eq, ← (agent.own_perm.map _).nodup_iff]
    constructor
    · intro facts
      exact ⟨facts.2.2, facts.2.1⟩
    · intro facts
      exact ⟨⟨fewer.trans facts.2, produced.manifests_distinct valid⟩,
        facts.2, facts.1⟩
  have registered := readAdapters_ok locale "worker"
    ([("name", .string agent.config.name),
        ("version", .string agent.config.version),
        ("labels", agent.config.labels)] ++ agent.advertised ++
      [("warmModels", agent.config.warmModels),
        ("modelInventory", modelInventory), ("gpus", gpus)])
    (produced.consistent valid)
    (by simp [Json.field?, WorkerAgent.advertised])
    (by simp [Json.field?, WorkerAgent.advertised])
    (by simp [Json.field?, WorkerAgent.advertised])
    distinct capabilitiesBounded (produced.manifestsValid valid)
    produced.healthValid
  have beaten := readAdapters_ok locale "heartbeat"
    (agent.advertised ++
      [("warmModels", agent.config.warmModels),
        ("modelInventory", modelInventory), ("gpus", gpus)])
    (produced.consistent valid)
    (by simp [Json.field?, WorkerAgent.advertised])
    (by simp [Json.field?, WorkerAgent.advertised])
    (by simp [Json.field?, WorkerAgent.advertised])
    distinct capabilitiesBounded (produced.manifestsValid valid)
    produced.healthValid
  constructor
  · intro accepted
    exact fits.mp (registered.mp accepted.1)
  · intro advertisable
    exact ⟨registered.mpr (fits.mpr advertisable),
      beaten.mpr (fits.mpr advertisable)⟩

end Produced

/-! ## Every run of the agent -/

theorem Advertising.produced {created agent : WorkerAgent}
    (valid : ValidRegistry created.sessionAdapters)
    (advertising : Advertising created agent) :
    agent.config = created.config ∧
      agent.sessionAdapters = created.sessionAdapters ∧
      ∃ round, Produced agent round := by
  induction advertising with
  | first refreshed =>
      obtain ⟨config, registry, skipped | produced⟩ :=
        refreshCapabilities_ok valid refreshed
      · cases skipped.1
      · exact ⟨config, registry, _, produced⟩
  | next earlier refreshed induction =>
      obtain ⟨config, registry, produced⟩ := induction
      rw [← registry] at valid
      obtain ⟨sameConfig, sameRegistry, skipped | fresh⟩ :=
        refreshCapabilities_ok valid refreshed
      · rw [skipped.2]
        exact ⟨config, registry, produced⟩
      · exact ⟨sameConfig.trans config, sameRegistry.trans registry, _, fresh⟩

/-- A forced refresh completes when the configured names are names, the clock is
sane and no adapter that is ready has the type of a session adapter. -/
theorem refreshCapabilities_of (agent : WorkerAgent) (round : ProbeRound)
    (valid : ValidRegistry agent.sessionAdapters)
    (bounded : ∀ capability ∈ agent.config.capabilities,
      BoundedText 100 (trimText capability))
    (early : 0 ≤ round.now) (late : round.now ≤ JsonText.maxSafeInteger)
    (unmixed : ∀ type ∈ (agent.installed round).map (·.type),
      type ∉ agent.sessionAdapters.map (·.type)) :
    ∃ after, agent.refreshCapabilities true round = .ok after := by
  obtain ⟨report, resolved⟩ :=
    resolveAdapterHealth_of round.installed bounded early late
  obtain ⟨sessions, probed⟩ :=
    probeSessionAdapters_of round.session valid early late
  have installed : report.adapterManifests = agent.installed round :=
    (resolveAdapterHealth_ok resolved).2.1
  have free : ((agent.installed round).map (·.type)).find? (fun type =>
      type ∈ agent.sessionAdapters.map (·.type)) = none :=
    List.find?_eq_none.mpr (fun type member provided =>
      unmixed type member (of_decide_eq_true provided))
  unfold WorkerAgent.refreshCapabilities
  rw [if_neg (by simp), resolved]
  simp only [bind, Except.bind, installed, installed_first, free, probed]
  exact ⟨_, rfl⟩

/-- What the agent sends is taken exactly when its own capabilities have
different names and all its adapters fit in one list. -/
theorem advertisement_accepted_iff (locale : Locale) (config : WorkerConfig)
    (adapters : List (Option OfferedAdapter)) (modelInventory gpus : Json)
    {created agent : WorkerAgent}
    (admitted : WorkerAgent.create locale config adapters = .ok created)
    (advertising : Advertising created agent) :
    SignalsAccepted locale agent modelInventory gpus ↔
      Advertisable config.capabilities created.sessionAdapters := by
  obtain ⟨registry, registered, admitted⟩ := bind_ok.mp admitted
  cases admitted
  have valid := (createSessionAdapterRegistry_valid registered).1
  obtain ⟨sameConfig, sameRegistry, round, produced⟩ :=
    advertising.produced valid
  have kept : ValidRegistry agent.sessionAdapters := by
    rw [sameRegistry]
    exact valid
  rw [produced.accepted_iff kept, sameConfig, sameRegistry]

def echoConfig : WorkerConfig where
  name := "gpu-1"
  version := "0.1.0"
  labels := .object []
  warmModels := .array []
  capabilities := ["diagnostic.echo"]
  capabilityProbeIntervalMs := none

def echoRound : ProbeRound where
  now := 1
  installed _ := .rejected
  session _ := none

theorem echo_bounded : ∀ capability ∈ echoConfig.capabilities,
    BoundedText 100 (trimText capability) := by
  intro capability member
  rw [List.mem_singleton.mp member]
  exact ⟨by decide, by decide, by decide⟩

/-- A worker with the echo adapter alone is taken. -/
theorem echo_accepted : ∃ created agent,
    WorkerAgent.create .codePoints echoConfig [] = .ok created ∧
      Advertising created agent ∧
      SignalsAccepted .codePoints agent (.array []) (.array []) := by
  have valid : ValidRegistry [] := ⟨by simp, by simp, List.nodup_nil⟩
  have created : WorkerAgent.create .codePoints echoConfig [] =
      .ok ⟨echoConfig, [], [], [], [], [], 0⟩ := rfl
  obtain ⟨agent, refreshed⟩ := refreshCapabilities_of
    ⟨echoConfig, [], [], [], [], [], 0⟩ echoRound valid echo_bounded
    (by decide) (by decide) (by simp)
  have advertising := Advertising.first refreshed
  refine ⟨_, agent, created, advertising, ?_⟩
  apply (advertisement_accepted_iff .codePoints echoConfig [] (.array [])
    (.array []) created advertising).mpr
  exact ⟨by decide, by decide⟩

/-- The environment names no capability twice, with or without blanks. -/
theorem configuredCapabilities_distinct (environment : Option String)
    (registry : List AdapterManifest) :
    ((ownCapabilities (configuredCapabilities environment) registry).map
      trimText).Nodup := by
  have trimmed : ∀ capability ∈ configuredCapabilities environment,
      trimText capability = capability := by
    intro capability member
    unfold configuredCapabilities at member
    have listed := List.mem_dedup.mp ((sortText_perm _).mem_iff.mp member)
    obtain ⟨value, kept, rfl⟩ := List.mem_map.mp listed
    obtain ⟨raw, _, rfl⟩ := List.mem_map.mp (List.mem_filter.mp kept).1
    rw [trimText, String.toList_ofList, trim_trim]
  have same : (ownCapabilities (configuredCapabilities environment)
      registry).map trimText =
        ownCapabilities (configuredCapabilities environment) registry := by
    calc _ = (ownCapabilities (configuredCapabilities environment)
          registry).map id := by
          apply List.map_congr_left
          intro capability member
          exact trimmed capability
            (List.mem_dedup.mp (List.mem_filter.mp member).1)
      _ = _ := List.map_id _
  rw [same]
  exact (List.nodup_dedup _).filter _

/-- With capabilities from the environment only the number counts. -/
theorem configured_advertisable_iff (environment : Option String)
    (registry : List AdapterManifest) :
    Advertisable (configuredCapabilities environment) registry ↔
      (ownCapabilities (configuredCapabilities environment) registry).length +
        registry.length ≤ 64 := by
  constructor
  · intro advertisable
    exact advertisable.2
  · intro few
    exact ⟨configuredCapabilities_distinct environment registry, few⟩

/-! ## A full registry -/

/-- The session adapter whose name is so many letters long. -/
def numberedManifest (letters : Nat) : AdapterManifest :=
  ⟨2, "stream.audio", some (String.ofList (List.replicate (letters + 1) 'a')),
    "1.0.0", .streamingGateway⟩

def fullRegistry : List AdapterManifest :=
  (List.range 64).map numberedManifest

theorem letters_bounded {letters : Nat} (few : letters < 64) :
    BoundedText 200 (String.ofList (List.replicate (letters + 1) 'a')) := by
  have plain : DataPlane.isTrimmed 'a' = false := by decide
  refine ⟨?_, ?_, ?_⟩
  · simp [trimText, DataPlane.trim, plain]
  · intro empty
    have chars := congrArg String.length empty
    simp at chars
  · simp [utf16Length, List.countP_replicate]
    omega

theorem letters_adapterId (letters : Nat) :
    isAdapterId (String.ofList (List.replicate (letters + 1) 'a')) = true := by
  have letter : isAlphanumeric 'a' = true := by decide
  rw [isAdapterId, String.toList_ofList, List.replicate_succ]
  simp [letter]

theorem audio_bounded : BoundedText 100 "stream.audio" :=
  ⟨by decide, by decide, by decide⟩

theorem firstVersion_bounded : BoundedText 100 "1.0.0" :=
  ⟨by decide, by decide, by decide⟩

theorem firstVersion_semantic : isSemanticVersion "1.0.0" = true := by decide

theorem numberedManifest_wellFormed {letters : Nat} (few : letters < 64) :
    (numberedManifest letters).WellFormed where
  identified := ⟨audio_bounded,
    .inr ⟨rfl, _, rfl, letters_bounded few, letters_adapterId letters⟩⟩
  version := firstVersion_bounded
  semantic := firstVersion_semantic

theorem fullRegistry_valid : ValidRegistry fullRegistry where
  wellFormed manifest member := by
    obtain ⟨letters, listed, rfl⟩ := List.mem_map.mp member
    exact numberedManifest_wellFormed (List.mem_range.mp listed)
  second manifest member := by
    obtain ⟨letters, _, rfl⟩ := List.mem_map.mp member
    rfl
  distinct := by
    rw [fullRegistry, List.map_map]
    apply List.Nodup.map _ List.nodup_range
    intro left right same
    have lengths := congrArg String.length
      (show String.ofList (List.replicate (left + 1) 'a') =
        String.ofList (List.replicate (right + 1) 'a') from same)
    simpa using lengths

theorem fullRegistry_length : fullRegistry.length = 64 := by
  rw [fullRegistry, List.length_map, List.length_range]

/-- Sixty-four session adapters and one capability of the worker's own: the
registry is admitted, the refresh completes and the outcome is refused. -/
theorem full_registry_refused : ∃ created agent,
    WorkerAgent.create .codePoints echoConfig
        (fullRegistry.map (·.offered)) = .ok created ∧
      Advertising created agent ∧
      ¬SignalsAccepted .codePoints agent (.array []) (.array []) := by
  obtain ⟨registry, perm, created⟩ := createSessionAdapterRegistry_of
    .codePoints fullRegistry_valid
    (by
      intro manifest member
      obtain ⟨letters, _, rfl⟩ := List.mem_map.mp member
      rfl)
    (by rw [fullRegistry_length])
  have valid := fullRegistry_valid.perm perm
  have types : ∀ type ∈ registry.map (·.type), type = "stream.audio" := by
    intro type member
    obtain ⟨manifest, listed, rfl⟩ := List.mem_map.mp member
    obtain ⟨letters, _, rfl⟩ := List.mem_map.mp (perm.mem_iff.mp listed)
    rfl
  have made : WorkerAgent.create .codePoints echoConfig
      (fullRegistry.map (·.offered)) = .ok
        ⟨echoConfig, registry, [], [], [], [], 0⟩ :=
    bind_ok.mpr ⟨registry, created, rfl⟩
  have configured : sortText echoConfig.capabilities.dedup =
      ["diagnostic.echo"] := rfl
  obtain ⟨agent, refreshed⟩ := refreshCapabilities_of
    ⟨echoConfig, registry, [], [], [], [], 0⟩ echoRound valid
    echo_bounded (by decide) (by decide)
    (by
      intro type member provided
      have own := (installed_types.mp member).1
      rw [types type provided] at own
      rw [WorkerAgent.configured, configured] at own
      exact absurd own (by decide))
  refine ⟨_, agent, made, .first refreshed, ?_⟩
  obtain ⟨config, kept, skipped | produced⟩ :=
    refreshCapabilities_ok valid refreshed
  · cases skipped.1
  · rw [produced.accepted_iff (by rw [kept]; exact valid), config, kept]
    intro advertisable
    have own : ownCapabilities echoConfig.capabilities registry =
        ["diagnostic.echo"] := by
      apply List.filter_eq_self.mpr
      intro capability member
      apply decide_eq_true
      intro provided
      rw [List.mem_singleton.mp member] at provided
      exact absurd (types _ provided) (by decide)
    have counted := advertisable.2
    simp only [own, perm.length_eq, fullRegistry_length,
      List.length_singleton] at counted
    omega

end GpuLink
