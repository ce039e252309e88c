import GpuLink.Broker.LaunchIntent

/-!
# Selections of workload runtimes

A workload is admitted by a selection: the runtime of least name among those
that the operator's policy and the runtime reports allow.
-/

namespace GpuLink

namespace WorkloadRuntime

open LaunchIntent (NameLe isSha testVersion toText)

/-! ## Names -/

inductive IsolationProperty where
  | process
  | filesystem
  | network
  | identity
  | resourceLimits
  | gpuDevice
  deriving DecidableEq, Repr

/-- `ISOLATION_PROPERTIES` -/
def isolationProperties : List IsolationProperty :=
  [.process, .filesystem, .network, .identity, .resourceLimits, .gpuDevice]

def IsolationProperty.name : IsolationProperty → String
  | process => "process"
  | filesystem => "filesystem"
  | network => "network"
  | identity => "identity"
  | resourceLimits => "resource-limits"
  | gpuDevice => "gpu-device"

inductive RuntimeKind where
  | trustedProcess
  | isolatedOci
  | dedicatedHost
  deriving DecidableEq, Repr

/-- `RUNTIME_KINDS` -/
def runtimeKinds : List RuntimeKind :=
  [.trustedProcess, .isolatedOci, .dedicatedHost]

def RuntimeKind.name : RuntimeKind → String
  | trustedProcess => "trusted-process"
  | isolatedOci => "isolated-oci"
  | dedicatedHost => "dedicated-host"

inductive Verification where
  | simulated
  | operatorVerified
  deriving DecidableEq, Repr

def Verification.name : Verification → String
  | simulated => "simulated"
  | operatorVerified => "operator-verified"

inductive TrustClass where
  | operatorTrusted
  | reviewedThirdParty
  | untrusted
  deriving DecidableEq, Repr

def TrustClass.name : TrustClass → String
  | operatorTrusted => "operator-trusted"
  | reviewedThirdParty => "reviewed-third-party"
  | untrusted => "untrusted"

/-! ## Values -/

/-- `Object.keys(v).sort().join('|')` -/
def joinKeys (names : List String) : List Char :=
  List.intercalate ['|'] ((names.insertionSort NameLe).map String.toList)

def hasKeys (value : Json) (keys : List String) : Bool :=
  match value with
  | .object fields => joinKeys (fields.map Prod.fst) = joinKeys keys
  | _ => false

/-- `validId` -/
def readId (value : Option Json) : Option String :=
  match value with
  | some (.string text) => if isBrokerId text then some text else none
  | _ => none

/-- One of the names that are allowed. -/
def readName {α : Type} (allowed : List α) (name : α → String)
    (value : Option Json) : Option α :=
  match value with
  | some (.string text) => allowed.find? fun item => name item = text
  | _ => none

def readBool (value : Option Json) : Option Bool :=
  match value with
  | some (.bool value) => some value
  | _ => none

/-- A version of the protocol: an integer from 1 to 255. -/
def readIpcVersion (value : Option Json) : Option Nat :=
  match value with
  | some (.number value) =>
      if value.den = 1 ∧ 1 ≤ value.num ∧ value.num ≤ 255 then
        some value.num.toNat
      else none
  | _ => none

def readItems {α : Type} (read : Option Json → Option α)
    (value : Option Json) : Option (List α) :=
  match value with
  | some (.array items) => items.mapM fun item => read (some item)
  | _ => none

/-- A list of distinct items, at most so many. -/
def readUnique {α : Type} [DecidableEq α] (read : Option Json → Option α)
    (limit : Nat) (value : Option Json) : Option (List α) := do
  let items ← readItems read value
  if items.Nodup ∧ items.length ≤ limit then some items else none

def readIsolation (value : Option Json) : Option (List IsolationProperty) :=
  readUnique (readName isolationProperties IsolationProperty.name)
    isolationProperties.length value

def sortIsolation (properties : List IsolationProperty) :
    List IsolationProperty :=
  properties.insertionSort fun first second => NameLe first.name second.name

/-! ## Reports, requests and policies -/

structure RuntimeReport where
  runtimeId : String
  kind : RuntimeKind
  available : Bool
  verification : Verification
  supportedIpcVersions : List Nat
  isolation : List IsolationProperty
  deriving DecidableEq, Repr

def availability : Bool → String
  | true => "available"
  | false => "unavailable"

def readRuntimeReport (report : Json) : Option RuntimeReport := do
  if hasKeys report ["schemaVersion", "runtimeId", "kind", "availability",
      "verification", "supportedIpcVersions", "isolationProperties"] &&
      LaunchIntent.isOne (report.field? "schemaVersion") then
    let runtimeId ← readId (report.field? "runtimeId")
    let kind ← readName runtimeKinds RuntimeKind.name (report.field? "kind")
    let available ← readName [true, false] availability
      (report.field? "availability")
    let verification ← readName [.simulated, .operatorVerified]
      Verification.name (report.field? "verification")
    let versions ← readUnique readIpcVersion 16
      (report.field? "supportedIpcVersions")
    let isolation ← readIsolation (report.field? "isolationProperties")
    return ⟨runtimeId, kind, available, verification,
      versions.insertionSort (· ≤ ·), sortIsolation isolation⟩
  else none

def validateRuntimeReport (report : Json) : Except String RuntimeReport :=
  (readRuntimeReport report).elim (.error "invalid_runtime_report") .ok

/-- The version is whatever `VERSION.test` finds a version in. -/
structure Artifact where
  adapterId : String
  version : Json
  sha256 : String

def readArtifact (value : Json) : Except String Artifact :=
  match readId (value.field? "adapterId") with
  | some adapterId => do
      let versioned ← testVersion (value.field? "version")
      match value.field? "version", value.field? "sha256" with
      | some version, some (.string sha256) =>
          if versioned && isSha sha256 then
            return ⟨adapterId, version, sha256⟩
          else .error "invalid_artifact"
      | _, _ => .error "invalid_artifact"
  | none => .error "invalid_artifact"

def validateArtifact (value : Option Json) : Except String Artifact :=
  match value with
  | some value =>
      if hasKeys value ["adapterId", "version", "sha256"] then
        readArtifact value
      else .error "invalid_artifact"
  | none => .error "invalid_artifact"

structure WorkloadRequest where
  attemptId : String
  sessionId : String
  leaseId : String
  artifact : Artifact
  requiredIpcVersion : Nat
  requiredIsolation : List IsolationProperty

/-- What a request asks for, but for its artifact. -/
def readWorkload (request : Json) :
    Option (String × String × String × Nat × List IsolationProperty) := do
  if hasKeys request ["schemaVersion", "attemptId", "sessionId", "leaseId",
      "artifact", "requiredIpcVersion", "requiredIsolation"] &&
      LaunchIntent.isOne (request.field? "schemaVersion") then
    let attemptId ← readId (request.field? "attemptId")
    let sessionId ← readId (request.field? "sessionId")
    let leaseId ← readId (request.field? "leaseId")
    let version ← readIpcVersion (request.field? "requiredIpcVersion")
    let isolation ← readIsolation (request.field? "requiredIsolation")
    return (attemptId, sessionId, leaseId, version, isolation)
  else none

def validateWorkloadRequest (request : Json) : Except String WorkloadRequest :=
  match readWorkload request with
  | some (attemptId, sessionId, leaseId, version, isolation) => do
      let artifact ← validateArtifact (request.field? "artifact")
      return ⟨attemptId, sessionId, leaseId, artifact, version,
        sortIsolation isolation⟩
  | none => .error "invalid_workload_request"

structure Approval where
  artifact : Artifact
  trustClass : TrustClass

structure RuntimePolicy where
  approvedArtifacts : List Approval
  enabledRuntimeIds : List String
  trustedProcessEnabled : Bool
  allowSimulation : Bool

/-- `adapterId\0version\0sha256` -/
def Artifact.identity (artifact : Artifact) : List Char :=
  artifact.adapterId.toList ++ '\x00' ::
    (toText artifact.version ++ '\x00' :: artifact.sha256.toList)

def readTrustClass (entry : Json) : Option TrustClass :=
  if hasKeys entry ["artifact", "trustClass"] then
    readName [.operatorTrusted, .reviewedThirdParty, .untrusted]
      TrustClass.name (entry.field? "trustClass")
  else none

/-- The approvals, in order; `seen` are the identities of those before. -/
def readApprovals (seen : List (List Char)) :
    List Json → Except String (List Approval)
  | [] => .ok []
  | entry :: entries =>
      match readTrustClass entry with
      | none => .error "invalid_runtime_policy"
      | some trustClass => do
          let artifact ← validateArtifact (entry.field? "artifact")
          if artifact.identity ∈ seen then .error "duplicate_artifact_approval"
          else
            let rest ← readApprovals (artifact.identity :: seen) entries
            return ⟨artifact, trustClass⟩ :: rest

/-- What a policy says, with its approvals still to be read. -/
def readPolicy (policy : Json) :
    Option (Bool × Bool × List String × List Json) := do
  if hasKeys policy ["schemaVersion", "approvedArtifacts", "enabledRuntimeIds",
      "trustedProcessEnabled", "allowSimulation"] &&
      LaunchIntent.isOne (policy.field? "schemaVersion") then
    let trusted ← readBool (policy.field? "trustedProcessEnabled")
    let simulation ← readBool (policy.field? "allowSimulation")
    let enabled ← readUnique readId 64 (policy.field? "enabledRuntimeIds")
    let entries ← readItems (fun entry => entry)
      (policy.field? "approvedArtifacts")
    if entries.length ≤ 64 then
      return (trusted, simulation, enabled, entries)
    else none
  else none

def validateRuntimePolicy (policy : Json) : Except String RuntimePolicy :=
  match readPolicy policy with
  | some (trusted, simulation, enabled, entries) => do
      let approvals ← readApprovals [] entries
      return ⟨approvals, enabled.insertionSort NameLe, trusted, simulation⟩
  | none => .error "invalid_runtime_policy"

/-! ## Selections -/

structure Selection where
  runtimeId : String
  attemptId : String
  sessionId : String
  leaseId : String
  artifact : Artifact
  requiredIpcVersion : Nat
  simulation : Bool

/-- `===` of two versions; arrays of the request are none of the policy's. -/
def strictEqual : Json → Json → Bool
  | .null, .null => true
  | .bool first, .bool second => first = second
  | .number first, .number second => first = second
  | .string first, .string second => first = second
  | _, _ => false

def Artifact.same (artifact other : Artifact) : Bool :=
  artifact.adapterId = other.adapterId &&
    strictEqual artifact.version other.version &&
    artifact.sha256 = other.sha256

def eligible (request : WorkloadRequest) (policy : RuntimePolicy)
    (report : RuntimeReport) : Bool :=
  report.runtimeId ∈ policy.enabledRuntimeIds && report.available &&
    (report.verification = .operatorVerified || policy.allowSimulation) &&
    (report.kind ≠ .trustedProcess || policy.trustedProcessEnabled) &&
    request.requiredIpcVersion ∈ report.supportedIpcVersions &&
    request.requiredIsolation.all fun property => property ∈ report.isolation

def validateRuntimeReports (reports : Json) :
    Except String (List RuntimeReport) :=
  match reports with
  | .array items =>
      if items.length ≤ 64 then do
        let reports ← items.mapM validateRuntimeReport
        if (reports.map RuntimeReport.runtimeId).Nodup then .ok reports
        else .error "duplicate_runtime_id"
      else .error "invalid_runtime_reports"
  | _ => .error "invalid_runtime_reports"

def selectionOf (request : WorkloadRequest) (chosen : RuntimeReport) :
    Selection where
  runtimeId := chosen.runtimeId
  attemptId := request.attemptId
  sessionId := request.sessionId
  leaseId := request.leaseId
  artifact := request.artifact
  requiredIpcVersion := request.requiredIpcVersion
  simulation := chosen.verification = .simulated

section Select

variable (localeCompare : String → String → Int)

/-- The order in which the eligible runtimes are sorted. -/
def ReportLe (first second : RuntimeReport) : Prop :=
  localeCompare first.runtimeId second.runtimeId ≤ 0

instance : DecidableRel (ReportLe localeCompare) :=
  fun first second => inferInstanceAs (Decidable
    (localeCompare first.runtimeId second.runtimeId ≤ 0))

/-- The approval of an artifact, and the first of the eligible runtimes. -/
def decideSelection (request : WorkloadRequest) (policy : RuntimePolicy)
    (reports : List RuntimeReport) : Except String Selection :=
  match policy.approvedArtifacts.find? fun approval =>
      approval.artifact.same request.artifact with
  | none => .error "artifact_not_approved"
  | some approval =>
      if approval.trustClass = .operatorTrusted then
        match (reports.filter (eligible request policy)).insertionSort
            (ReportLe localeCompare) with
        | [] => .error "no_eligible_runtime"
        | chosen :: _ => .ok (selectionOf request chosen)
      else .error "trust_class_not_supported"

def selectWorkloadRuntime (request policy runtimeReports : Json) :
    Except String Selection := do
  let request ← validateWorkloadRequest request
  let policy ← validateRuntimePolicy policy
  let reports ← validateRuntimeReports runtimeReports
  decideSelection localeCompare request policy reports

end Select

/-! ## What is selected -/

/-- What the sorting of ids relies on. -/
structure Collates (localeCompare : String → String → Int) : Prop where
  total : ∀ first second,
    localeCompare first second ≤ 0 ∨ localeCompare second first ≤ 0
  trans : ∀ first second third, localeCompare first second ≤ 0 →
    localeCompare second third ≤ 0 → localeCompare first third ≤ 0
  antisymm : ∀ first second, isBrokerId first = true →
    isBrokerId second = true → localeCompare first second ≤ 0 →
      localeCompare second first ≤ 0 → first = second

/-- The inputs of a selection when they are well formed, and the report of the
runtime that is selected. -/
structure Grant (localeCompare : String → String → Int)
    (request : WorkloadRequest) (policy : RuntimePolicy)
    (reports : List RuntimeReport) (chosen : RuntimeReport) : Prop where
  approved : ∃ approval ∈ policy.approvedArtifacts,
    approval.artifact.same request.artifact = true ∧
      approval.trustClass = .operatorTrusted
  reported : chosen ∈ reports
  eligible : eligible request policy chosen = true
  first : ∀ other ∈ reports, WorkloadRuntime.eligible request policy other =
    true → localeCompare chosen.runtimeId other.runtimeId ≤ 0

theorem strictEqual_eq {first second : Json}
    (same : strictEqual first second = true) : first = second := by
  unfold strictEqual at same
  split at same
  · rfl
  · rw [of_decide_eq_true same]
  · rw [of_decide_eq_true same]
  · rw [of_decide_eq_true same]
  · cases same

theorem Artifact.same_eq {artifact other : Artifact}
    (same : artifact.same other = true) : artifact = other := by
  rw [Artifact.same, Bool.and_eq_true, Bool.and_eq_true] at same
  obtain ⟨⟨adapterId, version⟩, sha256⟩ := same
  cases artifact
  cases other
  rw [Artifact.mk.injEq]
  exact ⟨of_decide_eq_true adapterId, strictEqual_eq version,
    of_decide_eq_true sha256⟩

/-- No two approvals are of one artifact. -/
theorem readApprovals_apart {seen : List (List Char)} {entries : List Json}
    {approvals : List Approval}
    (read : readApprovals seen entries = .ok approvals) :
    (approvals.map fun approval => approval.artifact.identity).Nodup ∧
      ∀ approval ∈ approvals, approval.artifact.identity ∉ seen := by
  induction entries generalizing seen approvals with
  | nil =>
      cases read
      exact ⟨List.nodup_nil, List.forall_mem_nil _⟩
  | cons entry entries induction =>
      unfold readApprovals at read
      split at read
      · cases read
      · obtain ⟨artifact, _, read⟩ := Failures.ok_of_bind read
        split at read
        · cases read
        · next unseen =>
            obtain ⟨rest, later, read⟩ := Failures.ok_of_bind read
            cases read
            obtain ⟨apart, fresh⟩ := induction later
            constructor
            · rw [List.map_cons, List.nodup_cons]
              refine ⟨?_, apart⟩
              intro again
              obtain ⟨other, member, same⟩ := List.mem_map.mp again
              exact fresh other member (same ▸ List.mem_cons_self)
            · rw [List.forall_mem_cons]
              exact ⟨unseen, fun other member inSeen =>
                fresh other member (List.mem_cons_of_mem _ inSeen)⟩

theorem apart_of_policy {policy : Json} {valid : RuntimePolicy}
    (validated : validateRuntimePolicy policy = .ok valid) :
    (valid.approvedArtifacts.map fun approval =>
      approval.artifact.identity).Nodup := by
  unfold validateRuntimePolicy at validated
  split at validated
  · obtain ⟨approvals, read, same⟩ := Failures.ok_of_bind validated
    cases same
    exact (readApprovals_apart read).1
  · cases validated

/-- The approval of an artifact is the one that is found. -/
theorem find_approval {approvals : List Approval} {artifact : Artifact}
    (apart : (approvals.map fun approval => approval.artifact.identity).Nodup)
    {approval : Approval} :
    approvals.find? (fun approval => approval.artifact.same artifact) =
      some approval ↔
        approval ∈ approvals ∧ approval.artifact.same artifact = true := by
  constructor
  · intro found
    have same := List.find?_some found
    exact ⟨List.mem_of_find?_eq_some found, same⟩
  · rintro ⟨member, same⟩
    cases found : approvals.find? fun approval =>
        approval.artifact.same artifact with
    | none => exact absurd same (List.find?_eq_none.mp found approval member)
    | some other =>
        have alike : other.artifact.same artifact = true :=
          List.find?_some (p := fun approval : Approval =>
            approval.artifact.same artifact) found
        replace alike := (Artifact.same_eq alike).trans
          (Artifact.same_eq same).symm
        have identity : other.artifact.identity = approval.artifact.identity :=
          congrArg Artifact.identity alike
        rw [List.inj_on_of_nodup_map apart (List.mem_of_find?_eq_some found)
          member identity]

theorem readId_ok {value : Option Json} {text : String}
    (read : readId value = some text) : isBrokerId text = true := by
  unfold readId at read
  split at read
  · split at read
    · next valid =>
        cases read
        exact valid
    · cases read
  · cases read

theorem report_id {report : Json} {valid : RuntimeReport}
    (validated : validateRuntimeReport report = .ok valid) :
    isBrokerId valid.runtimeId = true := by
  unfold validateRuntimeReport at validated
  cases read : readRuntimeReport report with
  | none =>
      rw [read] at validated
      cases validated
  | some other =>
      rw [read] at validated
      cases validated
      unfold readRuntimeReport at read
      split at read
      · obtain ⟨runtimeId, named, read⟩ := Option.bind_eq_some_iff.mp read
        obtain ⟨_, _, read⟩ := Option.bind_eq_some_iff.mp read
        obtain ⟨_, _, read⟩ := Option.bind_eq_some_iff.mp read
        obtain ⟨_, _, read⟩ := Option.bind_eq_some_iff.mp read
        obtain ⟨_, _, read⟩ := Option.bind_eq_some_iff.mp read
        obtain ⟨_, _, read⟩ := Option.bind_eq_some_iff.mp read
        cases read
        exact readId_ok named
      · cases read

theorem report_error {report : Json} {failure : String}
    (failed : validateRuntimeReport report = .error failure) :
    failure = "invalid_runtime_report" := by
  unfold validateRuntimeReport at failed
  cases read : readRuntimeReport report with
  | none =>
      rw [read] at failed
      cases failed
      rfl
  | some other =>
      rw [read] at failed
      cases failed

/-- The runtimes have names of their own. -/
structure Named (reports : List RuntimeReport) : Prop where
  apart : (reports.map RuntimeReport.runtimeId).Nodup
  ids : ∀ report ∈ reports, isBrokerId report.runtimeId = true

theorem named_of_reports {runtimeReports : Json} {reports : List RuntimeReport}
    (validated : validateRuntimeReports runtimeReports = .ok reports) :
    Named reports := by
  unfold validateRuntimeReports at validated
  split at validated
  · split at validated
    · obtain ⟨list, read, validated⟩ := Failures.ok_of_bind validated
      split at validated
      · next apart =>
          cases validated
          refine ⟨apart, ?_⟩
          intro report member
          obtain ⟨item, _, validated⟩ := Failures.mem_of_mapM read member
          exact report_id validated
      · cases validated
    · cases validated
  · cases validated

section Sorting

variable {localeCompare : String → String → Int}
  (collates : Collates localeCompare)

include collates

theorem sorted_reports (reports : List RuntimeReport) :
    (reports.insertionSort (ReportLe localeCompare)).Pairwise
      (ReportLe localeCompare) := by
  have : Std.Total (ReportLe localeCompare) :=
    ⟨fun first second => collates.total first.runtimeId second.runtimeId⟩
  have : IsTrans RuntimeReport (ReportLe localeCompare) :=
    ⟨fun first second third => collates.trans first.runtimeId
      second.runtimeId third.runtimeId⟩
  exact List.pairwise_insertionSort (ReportLe localeCompare) reports

/-- Reports that come before each other are one. -/
theorem report_antisymm {reports : List RuntimeReport} (named : Named reports)
    {first second : RuntimeReport} (one : first ∈ reports)
    (other : second ∈ reports)
    (before : localeCompare first.runtimeId second.runtimeId ≤ 0)
    (after : localeCompare second.runtimeId first.runtimeId ≤ 0) :
    first = second :=
  List.inj_on_of_nodup_map named.apart one other
    (collates.antisymm _ _ (named.ids first one) (named.ids second other)
      before after)

/-- A sort starts with what comes before all of the list. -/
theorem head_insertionSort {reports list : List RuntimeReport}
    (named : Named reports) (within : ∀ report ∈ list, report ∈ reports)
    {chosen : RuntimeReport} :
    (list.insertionSort (ReportLe localeCompare)).head? = some chosen ↔
      chosen ∈ list ∧ ∀ other ∈ list,
        localeCompare chosen.runtimeId other.runtimeId ≤ 0 := by
  have sorted := sorted_reports collates list
  have perm := List.perm_insertionSort (ReportLe localeCompare) list
  generalize list.insertionSort (ReportLe localeCompare) = ordered at sorted perm
  cases ordered with
  | nil =>
      have none := perm.symm.eq_nil
      subst none
      constructor
      · intro found
        cases found
      · rintro ⟨member, _⟩
        cases member
  | cons first rest =>
      have refl : localeCompare first.runtimeId first.runtimeId ≤ 0 :=
        (collates.total _ _).elim (fun le => le) (fun le => le)
      have least : ∀ other ∈ list,
          localeCompare first.runtimeId other.runtimeId ≤ 0 := by
        intro other member
        rcases List.mem_cons.mp (perm.mem_iff.mpr member) with rfl | later
        · exact refl
        · exact List.rel_of_pairwise_cons sorted later
      have inList : first ∈ list := perm.mem_iff.mp List.mem_cons_self
      constructor
      · intro found
        cases found
        exact ⟨inList, least⟩
      · rintro ⟨member, before⟩
        rw [report_antisymm collates named (within _ member)
          (within _ inList) (before first inList) (least chosen member)]
        rfl

/-- The selection that is made, if one is. -/
theorem decideSelection_iff {request : WorkloadRequest} {policy : RuntimePolicy}
    {reports : List RuntimeReport} {selection : Selection}
    (named : Named reports)
    (apart : (policy.approvedArtifacts.map fun approval =>
      approval.artifact.identity).Nodup) :
    decideSelection localeCompare request policy reports = .ok selection ↔
      ∃ chosen, Grant localeCompare request policy reports chosen ∧
        selection = selectionOf request chosen := by
  have within : ∀ report ∈ reports.filter (eligible request policy),
      report ∈ reports := fun report member => (List.mem_filter.mp member).1
  have least : ∀ {chosen : RuntimeReport},
      ((reports.filter (eligible request policy)).insertionSort
        (ReportLe localeCompare)).head? = some chosen ↔
          chosen ∈ reports.filter (eligible request policy) ∧
            ∀ other ∈ reports.filter (eligible request policy),
              localeCompare chosen.runtimeId other.runtimeId ≤ 0 :=
    head_insertionSort collates named within
  unfold decideSelection
  constructor
  · intro decided
    split at decided
    · cases decided
    · next approval found =>
        have approved := (find_approval apart).mp found
        split at decided
        · next trusted =>
            split at decided
            · cases decided
            · next chosen rest sorted =>
                cases decided
                rw [sorted] at least
                obtain ⟨member, first⟩ := least.mp rfl
                obtain ⟨reported, allowed⟩ := List.mem_filter.mp member
                refine ⟨chosen, ⟨⟨approval, approved.1, approved.2, trusted⟩,
                  reported, allowed, ?_⟩, rfl⟩
                intro other inReports may
                exact first other (List.mem_filter.mpr ⟨inReports, may⟩)
        · cases decided
  · rintro ⟨chosen, grant, rfl⟩
    obtain ⟨approval, member, same, trusted⟩ := grant.approved
    have found := (find_approval apart).mpr ⟨member, same⟩
    have head := least.mpr ⟨List.mem_filter.mpr ⟨grant.reported,
      grant.eligible⟩, fun other inList =>
        grant.first other (within other inList) (List.mem_filter.mp inList).2⟩
    rw [found]
    obtain ⟨rest, sorted⟩ := List.head?_eq_some_iff.mp head
    dsimp only
    rw [if_pos trusted, sorted]

/-- The order of the reports is of no matter. -/
theorem decideSelection_perm {request : WorkloadRequest}
    {policy : RuntimePolicy} {reports permuted : List RuntimeReport}
    (named : Named reports) (perm : reports.Perm permuted) :
    decideSelection localeCompare request policy reports =
      decideSelection localeCompare request policy permuted := by
  have within : ∀ report ∈ reports.filter (eligible request policy),
      report ∈ reports := fun report member => (List.mem_filter.mp member).1
  have filtered := perm.filter (eligible request policy)
  have same : (reports.filter (eligible request policy)).insertionSort
      (ReportLe localeCompare) =
        (permuted.filter (eligible request policy)).insertionSort
          (ReportLe localeCompare) := by
    refine List.Perm.eq_of_pairwise ?_ (sorted_reports collates _)
      (sorted_reports collates _) ?_
    · intro first second one other before after
      rw [List.mem_insertionSort] at one other
      exact report_antisymm collates named (within _ one)
        (within _ (filtered.mem_iff.mpr other)) before after
    · exact (List.perm_insertionSort _ _).trans
        (filtered.trans (List.perm_insertionSort _ _).symm)
  unfold decideSelection
  rw [same]

end Sorting

theorem validateRuntimeReports_perm {items permuted : List Json}
    (perm : items.Perm permuted) :
    (∃ reports others, validateRuntimeReports (.array items) = .ok reports ∧
      validateRuntimeReports (.array permuted) = .ok others ∧
        reports.Perm others) ∨
      ∃ failure, validateRuntimeReports (.array items) = .error failure ∧
        validateRuntimeReports (.array permuted) = .error failure := by
  unfold validateRuntimeReports
  dsimp only
  rw [perm.length_eq]
  split
  · rcases Failures.mapM_perm (fun _ _ => report_error) perm with
      ⟨reports, others, first, second, same⟩ | ⟨first, second⟩
    · rw [first, second]
      have apart := (same.map RuntimeReport.runtimeId).nodup_iff
      by_cases distinct : (reports.map RuntimeReport.runtimeId).Nodup
      · refine Or.inl ⟨reports, others, if_pos distinct,
          if_pos (apart.mp distinct), same⟩
      · exact Or.inr ⟨_, if_neg distinct, if_neg (mt apart.mpr distinct)⟩
    · rw [first, second]
      exact Or.inr ⟨_, rfl, rfl⟩
  · exact Or.inr ⟨_, rfl, rfl⟩

/-- What a selection is made from. -/
def Granted (localeCompare : String → String → Int)
    (request policy runtimeReports : Json) (selection : Selection) : Prop :=
  ∃ asked allowed reports chosen,
    validateWorkloadRequest request = .ok asked ∧
    validateRuntimePolicy policy = .ok allowed ∧
    validateRuntimeReports runtimeReports = .ok reports ∧
    Grant localeCompare asked allowed reports chosen ∧
    selection = selectionOf asked chosen

theorem select_iff {localeCompare : String → String → Int}
    (collates : Collates localeCompare) {request policy runtimeReports : Json}
    {selection : Selection} :
    selectWorkloadRuntime localeCompare request policy runtimeReports =
      .ok selection ↔
        Granted localeCompare request policy runtimeReports selection := by
  unfold selectWorkloadRuntime
  constructor
  · intro selected
    obtain ⟨asked, valid, selected⟩ := Failures.ok_of_bind selected
    obtain ⟨allowed, permitted, selected⟩ := Failures.ok_of_bind selected
    obtain ⟨reports, reported, selected⟩ := Failures.ok_of_bind selected
    obtain ⟨chosen, grant, same⟩ := (decideSelection_iff collates
      (named_of_reports reported) (apart_of_policy permitted)).mp selected
    exact ⟨asked, allowed, reports, chosen, valid, permitted, reported, grant,
      same⟩
  · rintro ⟨asked, allowed, reports, chosen, valid, permitted, reported, grant,
      same⟩
    rw [valid, permitted, reported]
    exact (decideSelection_iff collates (named_of_reports reported)
      (apart_of_policy permitted)).mpr ⟨chosen, grant, same⟩

/-- A selection is made exactly if the artifact is approved as one that the
operator trusts and some report is eligible; it is that of the first eligible
runtime by name, whatever order the reports come in. -/
theorem workload_selection {localeCompare : String → String → Int}
    (collates : Collates localeCompare) (request policy : Json) :
    (∀ runtimeReports selection,
      selectWorkloadRuntime localeCompare request policy runtimeReports =
        .ok selection ↔
          Granted localeCompare request policy runtimeReports selection) ∧
    ∀ items permuted : List Json, items.Perm permuted →
      selectWorkloadRuntime localeCompare request policy (.array items) =
        selectWorkloadRuntime localeCompare request policy
          (.array permuted) := by
  refine ⟨fun runtimeReports selection => select_iff collates, ?_⟩
  intro items permuted perm
  unfold selectWorkloadRuntime
  cases validateWorkloadRequest request with
  | error failure => rfl
  | ok asked =>
      cases validateRuntimePolicy policy with
      | error failure => rfl
      | ok allowed =>
          rcases validateRuntimeReports_perm perm with
            ⟨reports, others, first, second, same⟩ | ⟨_, first, second⟩
          · rw [first, second]
            exact decideSelection_perm collates (named_of_reports first) same
          · rw [first, second]

/-- The order of code units is one that ids can be sorted in. -/
def compareUnits (first second : String) : Int :=
  if NameLe first second then if NameLe second first then 0 else -1 else 1

theorem compareUnits_le {first second : String} :
    compareUnits first second ≤ 0 ↔ NameLe first second := by
  unfold compareUnits
  split
  · next le =>
      split <;> exact ⟨fun _ => le, fun _ => by decide⟩
  · next notLe => exact ⟨fun le => by omega, fun le => absurd le notLe⟩

theorem collates_units : Collates compareUnits where
  total first second := by
    rw [compareUnits_le, compareUnits_le]
    exact le_total (Migration.units first) (Migration.units second)
  trans first second third before after := by
    rw [compareUnits_le] at before after ⊢
    exact le_trans before after
  antisymm first second _ _ before after := by
    rw [compareUnits_le] at before after
    exact Migration.units_injective (le_antisymm before after)

def sampleArtifact : Json := .object [("adapterId", .string "echo"),
  ("version", .string "1.0.0"),
  ("sha256", .string (String.ofList (List.replicate 64 'a')))]

def sampleRequest : Json := .object [("schemaVersion", .number 1),
  ("attemptId", .string "attempt"), ("sessionId", .string "session"),
  ("leaseId", .string "lease"), ("artifact", sampleArtifact),
  ("requiredIpcVersion", .number 1),
  ("requiredIsolation", .array [.string "process"])]

def samplePolicy : Json := .object [("schemaVersion", .number 1),
  ("approvedArtifacts", .array [.object [("artifact", sampleArtifact),
    ("trustClass", .string "operator-trusted")]]),
  ("enabledRuntimeIds", .array [.string "runtime", .string "other"]),
  ("trustedProcessEnabled", .bool false), ("allowSimulation", .bool true)]

def reportOf (runtimeId : String) : Json := .object
  [("schemaVersion", .number 1), ("runtimeId", .string runtimeId),
    ("kind", .string "isolated-oci"), ("availability", .string "available"),
    ("verification", .string "simulated"),
    ("supportedIpcVersions", .array [.number 1]),
    ("isolationProperties", .array [.string "process", .string "network"])]

def sampleReport : Json := reportOf "runtime"

/-- Of two eligible runtimes the first by name is taken, in either order. -/
theorem workload_selection_sample : ∃ selection,
    Granted compareUnits sampleRequest samplePolicy
        (.array [sampleReport, reportOf "other"]) selection ∧
      selection.runtimeId = "other" ∧
      selectWorkloadRuntime compareUnits sampleRequest samplePolicy
        (.array [reportOf "other", sampleReport]) = .ok selection := by
  have chosen : (selectWorkloadRuntime compareUnits sampleRequest samplePolicy
      (.array [sampleReport, reportOf "other"])).toOption.map
        Selection.runtimeId = some "other" := by decide +kernel
  obtain ⟨selection, selected, named⟩ := Option.map_eq_some_iff.mp chosen
  have selects := workload_selection collates_units sampleRequest samplePolicy
  have found := Failures.toOption_ok selected
  refine ⟨selection, (selects.1 _ selection).mp found, named, ?_⟩
  exact (selects.2 _ _ (.swap _ _ _)).trans found

end WorkloadRuntime

end GpuLink
