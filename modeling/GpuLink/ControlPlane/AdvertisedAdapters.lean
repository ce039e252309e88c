import GpuLink.Shared.AdapterContract
import Mathlib.Data.List.Perm.Subperm

/-!
# What the control plane takes from a worker about its adapters

Registration and heartbeat read the capabilities, the manifests and the health
reports of a worker with the same function.
-/

namespace GpuLink

open AdapterContract Validation

/-- `value ?? []` -/
def orEmpty : Option Json → Option Json
  | none => some (.array [])
  | some .null => some (.array [])
  | some value => some value

/-- Two lists as sets. -/
def sameStringSet {α : Type} [DecidableEq α] (left right : List α) : Bool :=
  left.dedup.length = right.dedup.length &&
    left.dedup.all (fun value => value ∈ right)

/-- The manifests and the health reports that are stored for a worker. -/
structure AdapterState where
  manifests : List AdapterManifest
  health : List AdapterHealth
  deriving DecidableEq, Repr

def readyReports (health : List AdapterHealth) : List AdapterHealth :=
  health.filter (fun report => report.state = .ready)

/-- A set of manifests and reports whose ready entries agree. -/
def agree (capabilities : List String) (state : AdapterState) : Bool :=
  sameStringSet (state.manifests.map (·.identity))
      ((readyReports state.health).map (·.identity)) &&
    sameStringSet capabilities ((readyReports state.health).map (·.type))

/-- The checks between the lists. -/
def checkAgreement (capabilities : List String) (state : AdapterState) :
    Except String AdapterState :=
  let usesV2Identity :=
    state.manifests.any (fun entry => entry.schemaVersion = 2) ||
      state.health.any (fun entry => entry.schemaVersion = 2)
  match state.manifests.find? (fun manifest =>
      manifest.type ∉ capabilities) with
  | some manifest =>
      .error ("adapter manifest " ++ manifest.type ++
        " must match an advertised capability")
  | none =>
      -- A worker of the first version may send no reports at all.
      if state.health = [] then
        if state.manifests.any (fun entry => entry.schemaVersion = 2) then
          .error "v2 adapter manifests require adapter health reports"
        else .ok state
      else if agree capabilities state then .ok state
      else if usesV2Identity then
        .error ("ready adapter manifests, health, and advertised " ++
          "capabilities must match by identity")
      else .error ("ready adapter health, manifests, and advertised " ++
        "capabilities must match")

def validateAdvertisedAdapterState (locale : Locale) (object : Json)
    (capabilities : List String) : Except String AdapterState := do
  let manifests ← validateAdapterManifests locale
    (orEmpty (object.field? "adapterManifests")) "adapterManifests"
  let health ← validateAdapterHealth locale
    (orEmpty (object.field? "adapterHealth")) "adapterHealth"
  checkAgreement capabilities ⟨manifests, health⟩

/-- How `validateWorker` and `validateHeartbeat` begin. -/
def readAdapters (locale : Locale) (input : Json) (name : String) :
    Except String (List String × AdapterState) := do
  let object ← requireObject (some input) name
  let capabilities ← stringArray (orEmpty (object.field? "capabilities"))
    "capabilities"
  let state ← validateAdvertisedAdapterState locale object capabilities
  return (capabilities, state)

/-- The adapters of a registration. -/
def validateWorkerAdapters (locale : Locale) (input : Json) :
    Except String (List String × AdapterState) :=
  readAdapters locale input "worker"

/-- The adapters of a heartbeat. -/
def validateHeartbeatAdapters (locale : Locale) (input : Json) :
    Except String (List String × AdapterState) :=
  readAdapters locale input "heartbeat"

theorem sameStringSet_of {α : Type} [DecidableEq α] {left right : List α}
    (same : ∀ value, value ∈ left ↔ value ∈ right) :
    sameStringSet left right = true := by
  have perm : left.dedup.Perm right.dedup := by
    apply (List.perm_ext_iff_of_nodup (List.nodup_dedup _)
      (List.nodup_dedup _)).mpr
    intro value
    rw [List.mem_dedup, List.mem_dedup]
    exact same value
  unfold sameStringSet
  rw [Bool.and_eq_true]
  constructor
  · exact decide_eq_true perm.length_eq
  · apply List.all_eq_true.mpr
    intro value member
    exact decide_eq_true ((same value).mp (List.mem_dedup.mp member))

/-- Reports whose ready entries are the manifests and the capabilities. -/
structure Consistent (capabilities : List String)
    (manifests : List AdapterManifest) (health : List AdapterHealth) :
    Prop where
  manifestReady : ∀ manifest ∈ manifests, ∃ report ∈ health,
    report.state = .ready ∧ report.identity = manifest.identity
  readyManifest : ∀ report ∈ health, report.state = .ready →
    ∃ manifest ∈ manifests, manifest.identity = report.identity
  capable : ∀ capability, capability ∈ capabilities ↔
    ∃ report ∈ health, report.state = .ready ∧ report.type = capability

theorem AdapterManifest.type_of_identity {manifest : AdapterManifest}
    {report : AdapterHealth} (same : report.identity = manifest.identity) :
    report.type = manifest.type :=
  congrArg (fun identity : Identity => identity.2.1) same

theorem Consistent.perm {capabilities : List String}
    {manifests otherManifests : List AdapterManifest}
    {health otherHealth : List AdapterHealth}
    (consistent : Consistent capabilities manifests health)
    (sameManifests : otherManifests.Perm manifests)
    (sameHealth : otherHealth.Perm health) :
    Consistent capabilities otherManifests otherHealth where
  manifestReady manifest member := by
    obtain ⟨report, listed, ready⟩ := consistent.manifestReady manifest
      (sameManifests.mem_iff.mp member)
    exact ⟨report, sameHealth.mem_iff.mpr listed, ready⟩
  readyManifest report member ready := by
    obtain ⟨manifest, listed, same⟩ := consistent.readyManifest report
      (sameHealth.mem_iff.mp member) ready
    exact ⟨manifest, sameManifests.mem_iff.mpr listed, same⟩
  capable capability := by
    simp only [consistent.capable, sameHealth.mem_iff]

theorem Consistent.agree {capabilities : List String}
    {manifests : List AdapterManifest} {health : List AdapterHealth}
    (consistent : Consistent capabilities manifests health) :
    agree capabilities ⟨manifests, health⟩ = true := by
  unfold GpuLink.agree
  rw [Bool.and_eq_true]
  constructor
  · apply sameStringSet_of
    intro identity
    constructor
    · intro member
      obtain ⟨manifest, listed, rfl⟩ := List.mem_map.mp member
      obtain ⟨report, known, ready, same⟩ :=
        consistent.manifestReady manifest listed
      rw [← same]
      exact List.mem_map_of_mem
        (List.mem_filter.mpr ⟨known, decide_eq_true ready⟩)
    · intro member
      obtain ⟨report, listed, rfl⟩ := List.mem_map.mp member
      obtain ⟨known, ready⟩ := List.mem_filter.mp listed
      obtain ⟨manifest, found, same⟩ :=
        consistent.readyManifest report known (of_decide_eq_true ready)
      rw [← same]
      exact List.mem_map_of_mem found
  · apply sameStringSet_of
    intro capability
    rw [consistent.capable]
    constructor
    · intro known
      obtain ⟨report, listed, ready, rfl⟩ := known
      exact List.mem_map_of_mem
        (List.mem_filter.mpr ⟨listed, decide_eq_true ready⟩)
    · intro member
      obtain ⟨report, listed, rfl⟩ := List.mem_map.mp member
      obtain ⟨known, ready⟩ := List.mem_filter.mp listed
      exact ⟨report, known, of_decide_eq_true ready, rfl⟩

theorem checkAgreement_of {capabilities : List String}
    {manifests : List AdapterManifest} {health : List AdapterHealth}
    (consistent : Consistent capabilities manifests health) :
    checkAgreement capabilities ⟨manifests, health⟩ =
      .ok ⟨manifests, health⟩ := by
  have advertised : manifests.find? (fun manifest =>
      manifest.type ∉ capabilities) = none := by
    apply List.find?_eq_none.mpr
    intro manifest member unknown
    obtain ⟨report, listed, ready, same⟩ :=
      consistent.manifestReady manifest member
    apply of_decide_eq_true unknown
    apply (consistent.capable _).mpr
    exact ⟨report, listed, ready, AdapterManifest.type_of_identity same⟩
  unfold checkAgreement
  simp only [advertised]
  by_cases empty : health = []
  · have none : manifests = [] := by
      apply List.eq_nil_iff_forall_not_mem.mpr
      intro manifest member
      obtain ⟨report, listed, _⟩ := consistent.manifestReady manifest member
      rw [empty] at listed
      cases listed
    rw [if_pos empty, none]
    rfl
  · rw [if_neg empty, if_pos consistent.agree]

/-- The checks leave the lists as they are. -/
theorem checkAgreement_ok {capabilities : List String}
    {state taken : AdapterState}
    (checked : checkAgreement capabilities state = .ok taken) :
    taken = state := by
  unfold checkAgreement at checked
  simp only at checked
  split at checked
  · cases checked
  · split_ifs at checked <;> cases checked <;> rfl

/-- Consistent entries pass every check but those of the two lists. -/
theorem validateAdvertisedAdapterState_ok (locale : Locale) {object : Json}
    {capabilities : List String} {manifests : List AdapterManifest}
    {health : List AdapterHealth}
    (consistent : Consistent capabilities manifests health)
    (manifestsSent : object.field? "adapterManifests" =
      some (.array (manifests.map (·.toJson))))
    (healthSent : object.field? "adapterHealth" =
      some (.array (health.map (·.toJson))))
    (manifestsValid : ∀ manifest ∈ manifests, manifest.WellFormed)
    (healthValid : ∀ report ∈ health, report.WellFormed) :
    (∃ state, validateAdvertisedAdapterState locale object capabilities =
        .ok state) ↔
      ((manifests.length ≤ 64 ∧ Distinct (manifests.map (·.identity))) ∧
        health.length ≤ 64 ∧ Distinct (health.map (·.identity))) := by
  have manifestsRead : ∀ {result}, validateAdapterManifests locale
      (some (.array (manifests.map (·.toJson)))) "adapterManifests" =
        .ok result ↔ _ :=
    validateEntries_ok (fun manifest member =>
      validateAdapterManifest_toJson (manifestsValid manifest member))
  have healthRead : ∀ {result}, validateAdapterHealth locale
      (some (.array (health.map (·.toJson)))) "adapterHealth" =
        .ok result ↔ _ :=
    validateEntries_ok (fun report member =>
      validateAdapterHealthReport_toJson (healthValid report member))
  unfold validateAdvertisedAdapterState
  rw [manifestsSent, healthSent]
  constructor
  · intro taken
    obtain ⟨state, ran⟩ := taken
    obtain ⟨_, readManifests, ran⟩ := bind_ok.mp ran
    obtain ⟨_, readHealth, _⟩ := bind_ok.mp ran
    obtain ⟨fewManifests, distinctManifests, _⟩ :=
      manifestsRead.mp readManifests
    obtain ⟨fewReports, distinctReports, _⟩ := healthRead.mp readHealth
    exact ⟨⟨fewManifests, distinctManifests⟩, fewReports, distinctReports⟩
  · intro fits
    obtain ⟨⟨fewManifests, distinctManifests⟩, fewReports, distinctReports⟩ :=
      fits
    have readManifests :=
      manifestsRead.mpr ⟨fewManifests, distinctManifests, rfl⟩
    have readHealth := healthRead.mpr ⟨fewReports, distinctReports, rfl⟩
    have agreed := fun first second => checkAgreement_of
      (consistent.perm (Sql.orderBy_perm first manifests)
        (Sql.orderBy_perm second health))
    exact ⟨_, bind_ok.mpr ⟨_, readManifests,
      bind_ok.mpr ⟨_, readHealth, agreed _ _⟩⟩⟩

theorem Consistent.capabilities_length {capabilities : List String}
    {manifests : List AdapterManifest} {health : List AdapterHealth}
    (consistent : Consistent capabilities manifests health)
    (distinct : capabilities.Nodup) : capabilities.length ≤ health.length := by
  have covered : capabilities ⊆ health.map (·.type) := by
    intro capability member
    obtain ⟨report, listed, _, same⟩ := (consistent.capable _).mp member
    rw [← same]
    exact List.mem_map_of_mem listed
  have counted := (List.subperm_of_subset distinct covered).length_le
  rw [List.length_map] at counted
  exact counted

/-- What is sent in these fields, and the checks that decide over it. -/
theorem readAdapters_ok (locale : Locale) (name : String)
    (fields : List (String × Json)) {capabilities : List String}
    {manifests : List AdapterManifest} {health : List AdapterHealth}
    (consistent : Consistent capabilities manifests health)
    (capabilitiesSent : (Json.object fields).field? "capabilities" =
      some (.array (capabilities.map .string)))
    (manifestsSent : (Json.object fields).field? "adapterManifests" =
      some (.array (manifests.map (·.toJson))))
    (healthSent : (Json.object fields).field? "adapterHealth" =
      some (.array (health.map (·.toJson))))
    (distinct : capabilities.Nodup)
    (bounded : ∀ capability ∈ capabilities, BoundedText 100 capability)
    (manifestsValid : ∀ manifest ∈ manifests, manifest.WellFormed)
    (healthValid : ∀ report ∈ health, report.WellFormed) :
    (∃ taken, readAdapters locale (.object fields) name = .ok taken) ↔
      ((manifests.length ≤ 64 ∧ Distinct (manifests.map (·.identity))) ∧
        health.length ≤ 64 ∧ Distinct (health.map (·.identity))) := by
  have asRead : Consistent (sortText capabilities.dedup) manifests health :=
    { consistent with
      capable := by
        intro capability
        rw [(sortText_perm _).mem_iff, List.mem_dedup]
        exact consistent.capable capability }
  have checked := validateAdvertisedAdapterState_ok locale asRead manifestsSent
    healthSent manifestsValid healthValid
  have texts : capabilities.length ≤ 64 →
      stringArray (some (.array (capabilities.map .string))) "capabilities" =
        .ok (sortText capabilities.dedup) := stringArray_of bounded
  rw [← checked]
  unfold readAdapters requireObject
  constructor
  · intro taken
    obtain ⟨_, ran⟩ := taken
    obtain ⟨_, same, ran⟩ := bind_ok.mp ran
    cases same
    obtain ⟨_, read, ran⟩ := bind_ok.mp ran
    rw [capabilitiesSent] at read
    have few := stringArray_length read
    rw [List.length_map] at few
    cases (texts few).symm.trans read
    obtain ⟨state, ran, _⟩ := bind_ok.mp ran
    exact ⟨state, ran⟩
  · intro taken
    obtain ⟨state, ran⟩ := taken
    have few : capabilities.length ≤ 64 :=
      (consistent.capabilities_length distinct).trans
        (checked.mp ⟨state, ran⟩).2.1
    have read : stringArray (orEmpty ((Json.object fields).field?
        "capabilities")) "capabilities" =
          .ok (sortText capabilities.dedup) := by
      rw [capabilitiesSent]
      exact texts few
    exact ⟨_, bind_ok.mpr ⟨_, rfl, bind_ok.mpr ⟨_, read,
      bind_ok.mpr ⟨_, ran, rfl⟩⟩⟩⟩

/-- What is taken is what was sent, in another order. -/
theorem readAdapters_taken {locale : Locale} {name : String}
    {fields : List (String × Json)} {capabilities : List String}
    {manifests : List AdapterManifest} {health : List AdapterHealth}
    {taken : List String × AdapterState}
    (capabilitiesSent : (Json.object fields).field? "capabilities" =
      some (.array (capabilities.map .string)))
    (manifestsSent : (Json.object fields).field? "adapterManifests" =
      some (.array (manifests.map (·.toJson))))
    (healthSent : (Json.object fields).field? "adapterHealth" =
      some (.array (health.map (·.toJson))))
    (bounded : ∀ capability ∈ capabilities, BoundedText 100 capability)
    (manifestsValid : ∀ manifest ∈ manifests, manifest.WellFormed)
    (healthValid : ∀ report ∈ health, report.WellFormed)
    (ran : readAdapters locale (.object fields) name = .ok taken) :
    (∀ capability, capability ∈ taken.1 ↔ capability ∈ capabilities) ∧
      taken.2.manifests.Perm manifests ∧ taken.2.health.Perm health := by
  have manifestsRead : ∀ {result}, validateAdapterManifests locale
      (some (.array (manifests.map (·.toJson)))) "adapterManifests" =
        .ok result ↔ _ :=
    validateEntries_ok (fun manifest member =>
      validateAdapterManifest_toJson (manifestsValid manifest member))
  have healthRead : ∀ {result}, validateAdapterHealth locale
      (some (.array (health.map (·.toJson)))) "adapterHealth" =
        .ok result ↔ _ :=
    validateEntries_ok (fun report member =>
      validateAdapterHealthReport_toJson (healthValid report member))
  unfold readAdapters requireObject at ran
  obtain ⟨_, same, ran⟩ := bind_ok.mp ran
  cases same
  obtain ⟨texts, read, ran⟩ := bind_ok.mp ran
  obtain ⟨state, checked, ran⟩ := bind_ok.mp ran
  cases ran
  rw [capabilitiesSent] at read
  unfold validateAdvertisedAdapterState at checked
  rw [manifestsSent, healthSent] at checked
  obtain ⟨_, readManifests, checked⟩ := bind_ok.mp checked
  obtain ⟨_, readHealth, checked⟩ := bind_ok.mp checked
  cases checkAgreement_ok checked
  refine ⟨?_, ?_, ?_⟩
  · have few := stringArray_length read
    rw [List.length_map] at few
    cases (stringArray_of bounded few).symm.trans read
    intro capability
    rw [(sortText_perm _).mem_iff, List.mem_dedup]
  · rw [(manifestsRead.mp readManifests).2.2]
    exact Sql.orderBy_perm _ manifests
  · rw [(healthRead.mp readHealth).2.2]
    exact Sql.orderBy_perm _ health

end GpuLink
