import GpuLink.Shared.AdapterContract

/-!
# The adapters of a worker

A worker has adapters of its own, of the first version, and a registry of
session adapters of the second.  Each is asked whether it is ready; what comes
of that is a report on every adapter and the manifests of those that are.
-/

namespace GpuLink

open AdapterContract Validation

/-- How a readiness probe settles. -/
inductive ProbeOutcome where
  | fulfilled (value : Json)
  | rejected

/-- `await probe === true` -/
def ProbeOutcome.ready : ProbeOutcome → Bool
  | .fulfilled (.bool true) => true
  | _ => false

/-- What a set of probes comes to. -/
structure HealthReport where
  capabilities : List String
  adapterManifests : List AdapterManifest
  adapterHealth : List AdapterHealth

/-! ## Session adapters -/

/-- A member of `options.sessionAdapters`, `manifest` being `undefined` for
`none`. -/
structure OfferedAdapter where
  manifest : Option Json
  handleSession : Bool
  readinessProbe : Bool

def AdapterManifest.id (manifest : AdapterManifest) : String :=
  manifest.adapterId.getD ""

/-- The loop of `createSessionAdapterRegistry`; `none` is a member that is not
an object. -/
def registerEach : Nat → List AdapterManifest → List (Option OfferedAdapter) →
    Except String (List AdapterManifest)
  | _, registry, [] => .ok registry
  | index, registry, offered :: rest => do
      let place := "sessionAdapters[" ++ toString index ++ "]"
      match offered with
      | none => .error (place ++ " must be an object")
      | some adapter =>
          let manifest ← validateAdapterManifest adapter.manifest
            (place ++ ".manifest")
          ensure (manifest.schemaVersion = 2 &&
              manifest.executionMode = .streamingGateway)
            "session adapter requires a v2 streaming-gateway manifest"
          ensure adapter.handleSession ("session adapter " ++ manifest.id ++
            " requires handleSession handler")
          ensure adapter.readinessProbe ("session adapter " ++ manifest.id ++
            " requires readinessProbe")
          ensure (registry.all (fun known => known.id ≠ manifest.id))
            ("duplicate session adapter identity " ++ manifest.id)
          registerEach (index + 1) (registry ++ [manifest]) rest

/-- The manifests of the registry, by adapter. -/
def createSessionAdapterRegistry (locale : Locale)
    (adapters : List (Option OfferedAdapter)) :
    Except String (List AdapterManifest) :=
  if adapters.length > 64 then
    .error "sessionAdapters must be an array with at most 64 items"
  else do
    let registry ← registerEach 0 [] adapters
    return sortBy (fun left right => locale.compare left.id right.id) registry

/-- The state that a session adapter is reported in; `none` is a probe that has
not settled when its deadline passes. -/
def sessionState (outcome : Option ProbeOutcome) : HealthState :=
  if outcome.any ProbeOutcome.ready then .ready else .unavailable

/-- The report on a session adapter. -/
def sessionHealth (outcomes : String → Option ProbeOutcome) (checkedAt : Int)
    (manifest : AdapterManifest) : AdapterHealth :=
  ⟨2, manifest.type, manifest.adapterId, sessionState (outcomes manifest.id),
    stateCode (sessionState (outcomes manifest.id)), checkedAt⟩

def isReadySession (outcomes : String → Option ProbeOutcome)
    (manifest : AdapterManifest) : Bool :=
  sessionState (outcomes manifest.id) = .ready

def probeSessionAdapters (registry : List AdapterManifest)
    (outcomes : String → Option ProbeOutcome) (checkedAt : Int) :
    Except String HealthReport := do
  let adapterHealth ← registry.mapM (fun manifest =>
    validateAdapterHealthReport
      (some (sessionHealth outcomes checkedAt manifest).toJson) "adapterHealth")
  let adapterManifests := registry.filter (isReadySession outcomes)
  return ⟨sortText (adapterManifests.map (·.type)).dedup, adapterManifests,
    adapterHealth⟩

/-! ## The worker's own adapters -/

/-- An entry of `adapters`; `probed` says whether it has a probe of its own. -/
structure InstalledAdapter where
  manifest : AdapterManifest
  probed : Bool

def installedAdapters : List InstalledAdapter :=
  [⟨⟨1, "diagnostic.echo", none, "1.0.0", .inProcess⟩, false⟩,
    ⟨⟨1, "diagnostic.gpu-status", none, "1.0.0", .inProcess⟩, false⟩,
    ⟨⟨1, "benchmark.gpu", none, "1.0.0", .boundedProcess⟩, true⟩]

/-- `adapters.get(capability)` -/
def installedAdapter (capability : String) : Option InstalledAdapter :=
  installedAdapters.find? (fun adapter => adapter.manifest.type = capability)

/-- The state that a configured capability is reported in. -/
def installedState (outcomes : String → ProbeOutcome) (capability : String) :
    HealthState :=
  match installedAdapter capability with
  | none => .notInstalled
  | some adapter =>
      if !adapter.probed || (outcomes capability).ready then .ready
      else .unavailable

/-- The manifest of a configured capability that is ready. -/
def installedManifest (outcomes : String → ProbeOutcome)
    (capability : String) : Option AdapterManifest :=
  if installedState outcomes capability = .ready then
    (installedAdapter capability).map (·.manifest)
  else none

def adapterHealthReport (type : String) (state : HealthState)
    (checkedAt : Int) : Except String AdapterHealth :=
  validateAdapterHealthReport
    (some (AdapterHealth.toJson
      ⟨1, type, none, state, stateCode state, checkedAt⟩)) "adapterHealth"

def resolveAdapterHealth (configuredCapabilities : List String)
    (outcomes : String → ProbeOutcome) (checkedAt : Int) :
    Except String HealthReport := do
  let configured := sortText configuredCapabilities.dedup
  let adapterHealth ← configured.mapM (fun capability =>
    adapterHealthReport capability (installedState outcomes capability)
      checkedAt)
  return ⟨configured.filter (fun capability =>
      installedState outcomes capability = .ready),
    configured.filterMap (installedManifest outcomes), adapterHealth⟩

/-! ## What is reported -/

/-- What the registry holds: valid manifests of the second version, no
adapter twice. -/
structure ValidRegistry (registry : List AdapterManifest) : Prop where
  wellFormed : ∀ manifest ∈ registry, manifest.WellFormed
  second : ∀ manifest ∈ registry, manifest.schemaVersion = 2
  distinct : (registry.map AdapterManifest.id).Nodup

theorem registerEach_valid {index : Nat}
    {registry result : List AdapterManifest}
    {adapters : List (Option OfferedAdapter)} (valid : ValidRegistry registry)
    (ran : registerEach index registry adapters = .ok result) :
    ValidRegistry result ∧ result.length = registry.length + adapters.length := by
  induction adapters generalizing index registry with
  | nil =>
      cases ran
      exact ⟨valid, rfl⟩
  | cons offered rest induction =>
      cases offered with
      | none => cases ran
      | some adapter =>
          rw [registerEach] at ran
          obtain ⟨manifest, read, ran⟩ := bind_ok.mp ran
          obtain ⟨_, gateway, ran⟩ := bind_ok.mp ran
          obtain ⟨_, _, ran⟩ := bind_ok.mp ran
          obtain ⟨_, _, ran⟩ := bind_ok.mp ran
          obtain ⟨_, fresh, ran⟩ := bind_ok.mp ran
          have wellFormed := validateAdapterManifest_wellFormed read
          have second : manifest.schemaVersion = 2 :=
            of_decide_eq_true (Bool.and_eq_true_iff.mp (ensure_ok.mp gateway)).1
          have fresh := List.all_eq_true.mp (ensure_ok.mp fresh)
          have grown : ValidRegistry (registry ++ [manifest]) := by
            refine ⟨?_, ?_, ?_⟩
            · intro other member
              rcases List.mem_append.mp member with earlier | here
              · exact valid.wellFormed other earlier
              · rw [List.mem_singleton.mp here]
                exact wellFormed
            · intro other member
              rcases List.mem_append.mp member with earlier | here
              · exact valid.second other earlier
              · rw [List.mem_singleton.mp here]
                exact second
            · rw [List.map_append, List.map_singleton, List.nodup_append']
              refine ⟨valid.distinct, List.nodup_singleton _, ?_⟩
              intro id earlier here
              obtain ⟨other, member, same⟩ := List.mem_map.mp earlier
              rw [List.mem_singleton.mp here] at same
              exact of_decide_eq_true (fresh other member) same
          obtain ⟨valid, length⟩ := induction grown ran
          refine ⟨valid, ?_⟩
          rw [length]
          simp only [List.length_append, List.length_cons, List.length_nil]
          omega

theorem ValidRegistry.perm {registry other : List AdapterManifest}
    (valid : ValidRegistry registry) (same : other.Perm registry) :
    ValidRegistry other where
  wellFormed manifest member :=
    valid.wellFormed manifest (same.mem_iff.mp member)
  second manifest member := valid.second manifest (same.mem_iff.mp member)
  distinct := (same.map _).nodup_iff.mpr valid.distinct

theorem createSessionAdapterRegistry_valid {locale : Locale}
    {adapters : List (Option OfferedAdapter)} {registry : List AdapterManifest}
    (created : createSessionAdapterRegistry locale adapters = .ok registry) :
    ValidRegistry registry ∧ registry.length = adapters.length ∧
      registry.length ≤ 64 := by
  unfold createSessionAdapterRegistry at created
  split_ifs at created with long
  obtain ⟨unsorted, ran, created⟩ := bind_ok.mp created
  cases created
  have empty : ValidRegistry [] := ⟨by simp, by simp, List.nodup_nil⟩
  obtain ⟨valid, length⟩ := registerEach_valid empty ran
  have perm := Sql.orderBy_perm (fun left right : AdapterManifest =>
    decide (locale.compare left.id right.id ≠ .gt)) unsorted
  refine ⟨valid.perm perm, ?_, ?_⟩
  · rw [sortBy, perm.length_eq, length, List.length_nil, Nat.zero_add]
  · rw [sortBy, perm.length_eq, length, List.length_nil, Nat.zero_add]
    omega

/-- The report on a configured capability. -/
def ownHealth (outcomes : String → ProbeOutcome) (checkedAt : Int)
    (capability : String) : AdapterHealth :=
  ⟨1, trimText capability, none, installedState outcomes capability,
    stateCode (installedState outcomes capability), checkedAt⟩

theorem resolveAdapterHealth_ok {configured : List String}
    {outcomes : String → ProbeOutcome} {checkedAt : Int} {report : HealthReport}
    (ran : resolveAdapterHealth configured outcomes checkedAt = .ok report) :
    report.capabilities = (sortText configured.dedup).filter (fun capability =>
        installedState outcomes capability = .ready) ∧
      report.adapterManifests =
        (sortText configured.dedup).filterMap (installedManifest outcomes) ∧
      report.adapterHealth =
        (sortText configured.dedup).map (ownHealth outcomes checkedAt) ∧
      ∀ health ∈ report.adapterHealth, health.WellFormed := by
  obtain ⟨healths, probed, done⟩ := bind_ok.mp ran
  cases done
  have reads : ∀ capability ∈ sortText configured.dedup, ∀ health,
      adapterHealthReport capability (installedState outcomes capability)
          checkedAt = .ok health →
        health = ownHealth outcomes checkedAt capability := by
    intro capability _ health ran
    rw [adapterHealthReport, validateAdapterHealthReport_v1] at ran
    obtain ⟨type, typed, ran⟩ := bind_ok.mp ran
    obtain ⟨time, timed, ran⟩ := bind_ok.mp ran
    cases ran
    rw [requireString_string_ok typed, (boundedInteger_ok timed).1]
    rfl
  obtain ⟨same, each⟩ := mapM_ok reads probed
  refine ⟨rfl, rfl, same, ?_⟩
  intro health member
  rw [same] at member
  obtain ⟨capability, listed, rfl⟩ := List.mem_map.mp member
  exact validateAdapterHealthReport_wellFormed (each capability listed)

theorem probeSessionAdapters_ok {registry : List AdapterManifest}
    {outcomes : String → Option ProbeOutcome} {checkedAt : Int}
    {report : HealthReport} (valid : ValidRegistry registry)
    (ran : probeSessionAdapters registry outcomes checkedAt = .ok report) :
    report.adapterManifests = registry.filter (isReadySession outcomes) ∧
      report.capabilities =
        sortText (report.adapterManifests.map (·.type)).dedup ∧
      report.adapterHealth = registry.map (sessionHealth outcomes checkedAt) ∧
      ∀ health ∈ report.adapterHealth, health.WellFormed := by
  obtain ⟨healths, probed, done⟩ := bind_ok.mp ran
  cases done
  have reads : ∀ manifest ∈ registry, ∀ health,
      validateAdapterHealthReport
          (some (sessionHealth outcomes checkedAt manifest).toJson)
          "adapterHealth" = .ok health →
        health = sessionHealth outcomes checkedAt manifest := by
    intro manifest member health ran
    have wellFormed := valid.wellFormed manifest member
    have second := valid.second manifest member
    obtain ⟨⟨typed, identified⟩, _, _⟩ := wellFormed
    rcases identified with ⟨first, _⟩ | ⟨_, id, named, bounded, _⟩
    · rw [first] at second
      cases second
    · unfold sessionHealth at ran ⊢
      rw [named] at ran ⊢
      rw [validateAdapterHealthReport_v2] at ran
      obtain ⟨type, read, ran⟩ := bind_ok.mp ran
      obtain ⟨time, timed, ran⟩ := bind_ok.mp ran
      obtain ⟨text, readId, ran⟩ := bind_ok.mp ran
      obtain ⟨_, _, ran⟩ := bind_ok.mp ran
      cases ran
      rw [requireString_string_ok read, typed.trimmed,
        (boundedInteger_ok timed).1, requireString_string_ok readId,
        bounded.trimmed]
  obtain ⟨same, each⟩ := mapM_ok reads probed
  refine ⟨rfl, rfl, same, ?_⟩
  intro health member
  rw [same] at member
  obtain ⟨manifest, listed, rfl⟩ := List.mem_map.mp member
  exact validateAdapterHealthReport_wellFormed (each manifest listed)

/-! ## When adapters are admitted and probes are reported -/

/-- An adapter with both functions. -/
def AdapterManifest.offered (manifest : AdapterManifest) :
    Option OfferedAdapter :=
  some ⟨some manifest.toJson, true, true⟩

theorem registerEach_of {index : Nat} {registry manifests : List AdapterManifest}
    (valid : ValidRegistry (registry ++ manifests))
    (gateways : ∀ manifest ∈ manifests,
      manifest.executionMode = .streamingGateway) :
    registerEach index registry (manifests.map (·.offered)) =
      .ok (registry ++ manifests) := by
  induction manifests generalizing index registry with
  | nil =>
      rw [List.append_nil]
      rfl
  | cons manifest rest induction =>
      have here : manifest ∈ registry ++ manifest :: rest :=
        List.mem_append_right _ List.mem_cons_self
      have shifted : registry ++ manifest :: rest =
          (registry ++ [manifest]) ++ rest := by
        rw [List.append_assoc, List.singleton_append]
      have fresh : ∀ known ∈ registry, known.id ≠ manifest.id := by
        have distinct := valid.distinct
        rw [List.map_append, List.map_cons, List.nodup_append'] at distinct
        intro known member same
        apply distinct.2.2 (List.mem_map_of_mem member)
        rw [same]
        exact List.mem_cons_self
      rw [List.map_cons, AdapterManifest.offered, registerEach]
      simp only
      rw [validateAdapterManifest_toJson (valid.wellFormed manifest here)]
      refine bind_ok.mpr ⟨_, rfl, ?_⟩
      refine bind_ok.mpr ⟨(), ensure_of ?_, ?_⟩
      · rw [valid.second manifest here, gateways manifest List.mem_cons_self]
        rfl
      refine bind_ok.mpr ⟨(), rfl, bind_ok.mpr ⟨(), rfl, ?_⟩⟩
      refine bind_ok.mpr ⟨(), ensure_of ?_, ?_⟩
      · apply List.all_eq_true.mpr
        intro known member
        exact decide_eq_true (fresh known member)
      rw [shifted] at valid ⊢
      exact induction valid (fun other member =>
        gateways other (List.mem_cons_of_mem _ member))

theorem createSessionAdapterRegistry_of (locale : Locale)
    {manifests : List AdapterManifest} (valid : ValidRegistry manifests)
    (gateways : ∀ manifest ∈ manifests,
      manifest.executionMode = .streamingGateway)
    (few : manifests.length ≤ 64) :
    ∃ registry, registry.Perm manifests ∧
      createSessionAdapterRegistry locale (manifests.map (·.offered)) =
        .ok registry := by
  refine ⟨_, Sql.orderBy_perm (fun left right : AdapterManifest =>
    decide (locale.compare left.id right.id ≠ .gt)) manifests, ?_⟩
  unfold createSessionAdapterRegistry
  rw [List.length_map, if_neg (not_lt.mpr few)]
  exact bind_ok.mpr ⟨manifests, registerEach_of valid gateways, rfl⟩

theorem resolveAdapterHealth_of (outcomes : String → ProbeOutcome)
    {configured : List String} {checkedAt : Int}
    (bounded : ∀ capability ∈ configured,
      BoundedText 100 (trimText capability))
    (early : 0 ≤ checkedAt) (late : checkedAt ≤ JsonText.maxSafeInteger) :
    ∃ report, resolveAdapterHealth configured outcomes checkedAt =
      .ok report := by
  have each : ∀ capability ∈ sortText configured.dedup,
      adapterHealthReport capability (installedState outcomes capability)
          checkedAt = .ok (ownHealth outcomes checkedAt capability) := by
    intro capability member
    have listed := List.mem_dedup.mp ((sortText_perm _).mem_iff.mp member)
    rw [adapterHealthReport, validateAdapterHealthReport_v1,
      requireString_string_of (bounded capability listed),
      boundedInteger_of _ early late (by omega)]
    rfl
  exact ⟨_, bind_ok.mpr ⟨_, mapM_of each, rfl⟩⟩

theorem probeSessionAdapters_of (outcomes : String → Option ProbeOutcome)
    {registry : List AdapterManifest} {checkedAt : Int}
    (valid : ValidRegistry registry) (early : 0 ≤ checkedAt)
    (late : checkedAt ≤ JsonText.maxSafeInteger) :
    ∃ report, probeSessionAdapters registry outcomes checkedAt =
      .ok report := by
  have each : ∀ manifest ∈ registry,
      validateAdapterHealthReport
          (some (sessionHealth outcomes checkedAt manifest).toJson)
          "adapterHealth" = .ok (sessionHealth outcomes checkedAt manifest) := by
    intro manifest member
    apply validateAdapterHealthReport_toJson
    refine ⟨?_, rfl, early, late⟩
    have identified := (valid.wellFormed manifest member).identified
    rw [AdapterManifest.identity, valid.second manifest member] at identified
    exact identified
  exact ⟨_, bind_ok.mpr ⟨_, mapM_of each, rfl⟩⟩

end GpuLink
