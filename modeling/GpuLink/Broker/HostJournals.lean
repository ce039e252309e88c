import GpuLink.Broker.HostProcess
import GpuLink.Library.CheckedTable

/-!
# The broker's records of host processes

Two journals that only grow say which host process belongs to an attempt: one
keeps what an operator hinted at and the kernel confirmed, the other what the
kernel said of a child that the broker started itself.  A start of the broker
reads both, and stops if a row is not one that the broker could have written.
-/

namespace GpuLink

namespace HostJournals

open AuthorityBridge HostProcess

/-- Why an operation has no result. -/
inductive Failure where
  | denied (code : String)
  /-- `sqlite3.Error` -/
  | database
  /-- One of the other errors that the server catches. -/
  | refused
  deriving DecidableEq, Repr

def deny {α : Type} (code : String) : Except Failure α :=
  .error (.denied code)

/-- A call of a function that may deny. -/
def call {α : Type} : Except String α → Except Failure α
  | .ok value => .ok value
  | .error code => deny code

/-- SQLite takes integers of 64 bits. -/
def bindable (value : Int) : Bool :=
  -9223372036854775808 ≤ value && value ≤ 9223372036854775807

/-! ## Tables -/

/-- A row of `host_identity_bindings`. -/
structure HostBinding where
  attemptId : String
  leaseId : String
  workerId : String
  fenceEpoch : Nat
  identity : HostIdentity
  capturedMs : Int
  origin : String
  deriving DecidableEq

/-- What `UNIQUE(boot_id,pid,start_ticks)` compares. -/
def processOf (identity : HostIdentity) : String × Int × Int :=
  (identity.bootId, identity.pid, identity.startTicks)

def hintOrigin : String := "operator-hint-procfs-test-only"

/-- The checks of the table. -/
structure HostBinding.Check (row : HostBinding) : Prop where
  fenceEpoch : row.fenceEpoch > 0
  pid : row.identity.pid > 0
  startTicks : row.identity.startTicks > 0
  capturedMs : row.capturedMs > 0
  origin : row.origin = hintOrigin

instance (row : HostBinding) : Decidable row.Check :=
  decidable_of_iff (row.fenceEpoch > 0 ∧ row.identity.pid > 0 ∧
      row.identity.startTicks > 0 ∧ row.capturedMs > 0 ∧
      row.origin = hintOrigin)
    ⟨fun meets => ⟨meets.1, meets.2.1, meets.2.2.1, meets.2.2.2.1,
        meets.2.2.2.2⟩,
      fun meets => ⟨meets.fenceEpoch, meets.pid, meets.startTicks,
        meets.capturedMs, meets.origin⟩⟩

inductive ProbeKind where
  | intentDurable
  | syntheticChildObserved
  deriving DecidableEq, Repr

/-- A row of `synthetic_probe_events`. -/
structure ProbeEvent where
  attemptId : String
  sequence : Nat
  event : ProbeKind
  leaseId : String
  workerId : String
  fenceEpoch : Nat
  /-- The four columns that are null together. -/
  identity : Option HostIdentity
  eventMs : Int
  deriving DecidableEq

/-- The checks of the table. -/
structure ProbeEvent.Check (row : ProbeEvent) : Prop where
  fenceEpoch : row.fenceEpoch > 0
  eventMs : row.eventMs > 0
  kind : row.sequence = 1 ∧ row.event = .intentDurable ∧ row.identity = none ∨
    row.sequence = 2 ∧ row.event = .syntheticChildObserved ∧
      row.identity ≠ none

instance (row : ProbeEvent) : Decidable row.Check :=
  decidable_of_iff (row.fenceEpoch > 0 ∧ row.eventMs > 0 ∧
      (row.sequence = 1 ∧ row.event = .intentDurable ∧ row.identity = none ∨
        row.sequence = 2 ∧ row.event = .syntheticChildObserved ∧
          row.identity ≠ none))
    ⟨fun meets => ⟨meets.1, meets.2.1, meets.2.2⟩,
      fun meets => ⟨meets.fenceEpoch, meets.eventMs, meets.kind⟩⟩

abbrev BindingTable :=
  CheckedTable HostBinding.attemptId
    (fun row => some (processOf row.identity)) HostBinding.Check

abbrev ProbeTable :=
  CheckedTable (fun row : ProbeEvent => (row.attemptId, row.sequence))
    (fun row => row.identity.map processOf) ProbeEvent.Check

/-- The database of the bridge: its claims and both journals. -/
structure Journals where
  claims : Journal
  bindings : BindingTable
  probes : ProbeTable

def Journals.empty : Journals where
  claims := KeyedTable.empty
  bindings := CheckedTable.empty
  probes := CheckedTable.empty

/-! ## Reading the journals at a start -/

/-- `_validate` -/
def HostBinding.valid (row : HostBinding) : Bool :=
  isBrokerId row.attemptId && isBrokerId row.leaseId &&
    isBrokerId row.workerId && positive row.fenceEpoch &&
    row.identity.valid && positive row.capturedMs && row.origin = hintOrigin

/-- `HostBindingJournal.__init__` -/
def reloadBindings (journals : Journals) : Except String Unit :=
  if journals.bindings.rows.all (fun row =>
      row.valid && (journals.claims.claim? row.attemptId).any (fun claim =>
        claim.leaseId = row.leaseId && claim.workerId = row.workerId &&
          claim.fenceEpoch = some row.fenceEpoch)) then
    .ok ()
  else .error "broker_binding_corrupt"

/-- `_validate_row` -/
def ProbeEvent.valid (row : ProbeEvent) : Bool :=
  isBrokerId row.attemptId && isBrokerId row.leaseId &&
    isBrokerId row.workerId && (row.sequence = 1 || row.sequence = 2) &&
    positive row.fenceEpoch && positive row.eventMs &&
    (if row.sequence = 1 then
      row.event = .intentDurable && row.identity = none
    else
      row.event = .syntheticChildObserved &&
        row.identity.any HostIdentity.valid)

/-- The rows of an attempt by their sequence. -/
def rowsOf (probes : ProbeTable) (attemptId : String) : List ProbeEvent :=
  (probes.rows.filter (fun row => row.attemptId = attemptId)).mergeSort
    (fun left right => left.sequence ≤ right.sequence)

/-- The columns that are the same in both rows of an attempt. -/
def ProbeEvent.owner (row : ProbeEvent) : String × String × Nat :=
  (row.leaseId, row.workerId, row.fenceEpoch)

/-- A row belongs to the claim of its attempt. -/
def ProbeEvent.claimed (row : ProbeEvent) (claim : LocalClaim) : Bool :=
  claim.leaseId = row.leaseId && claim.workerId = row.workerId &&
    claim.fenceEpoch = some row.fenceEpoch

/-- What a start asks of the rows of one attempt. -/
def coherent (claim : Option LocalClaim) (rows : List ProbeEvent) : Bool :=
  match rows with
  | [first] => first.sequence = 1 && claim.any first.claimed
  | [first, second] => first.sequence = 1 && second.sequence = 2 &&
      claim.any first.claimed && first.owner = second.owner
  | _ => false

/-- `SyntheticProvenance.__init__` -/
def reloadProbes (journals : Journals) : Except String Unit :=
  if journals.probes.rows.all ProbeEvent.valid &&
      journals.probes.rows.all (fun row =>
        coherent (journals.claims.claim? row.attemptId)
          (rowsOf journals.probes row.attemptId)) then
    .ok ()
  else .error "broker_provenance_corrupt"

/-- A start of the bridge commits the quarantine, whatever comes after. -/
def Journals.quarantine (journals : Journals) : Journals where
  claims := Journal.quarantine journals.claims
  bindings := journals.bindings
  probes := journals.probes

/-- The part of a start that reads what earlier runs have left. -/
def restart (journals : Journals) : Except String Journals := do
  let quarantined := journals.quarantine
  reloadBindings quarantined
  reloadProbes quarantined
  return quarantined

/-! ## Operations -/

/-- What an operation meets outside the broker: the answer of the control
plane, procfs at each reading, the child that was started, and the clock. -/
structure World where
  response : Option HttpResponse
  moments : Nat → Procfs
  child : Option Int
  clock : Nat → Int

/-- The states that an operation commits one after the other, and its end. -/
structure Outcome where
  commits : List Journals
  answer : Except Failure Json

/-- An operation with one transaction. -/
def Outcome.single : Except Failure (Journals × Json) → Outcome
  | .ok (later, result) => ⟨[later], .ok result⟩
  | .error failure => ⟨[], .error failure⟩

def attemptRequest (attemptId : String) : Json :=
  .object [("attemptId", .string attemptId)]

/-- The epoch of a claim in one of these states. -/
def confirmedEpoch (claim : LocalClaim) (statuses : List ClaimStatus) :
    Except Failure Nat :=
  match claim.fenceEpoch with
  | none => deny "broker_authority_uncertain"
  | some fenceEpoch =>
      if positive fenceEpoch ∧ claim.status ∈ statuses then .ok fenceEpoch
      else deny "broker_authority_uncertain"

/-- The control plane still holds the fence with this epoch. -/
def confirmHeld (config : Config) (journals : Journals) (peerUid : Nat)
    (attemptId : String) (fenceEpoch : Nat) (world : World) :
    Except Failure Unit := do
  let (_, observed) ← call (observe config journals.claims peerUid
    (attemptRequest attemptId) world.response)
  if observed.disposition ≠ .held ∨ observed.fenceEpoch ≠ some fenceEpoch then
    deny "broker_authority_uncertain"

def captured (attemptId : String) : Json :=
  .object [("schemaVersion", .number 1), ("attemptId", .string attemptId),
    ("status", .string "captured-test-only"), ("brokerMeasured", .bool true),
    ("launchAttested", .bool false), ("cleanupVerified", .bool false),
    ("canLaunch", .bool false), ("canRelease", .bool false),
    ("advisoryOnly", .bool true)]

/-- The row that `capture` inserts. -/
def bindingOf (attemptId : String) (claim : LocalClaim) (fenceEpoch : Nat)
    (witness : Witness) (capturedMs : Int) : HostBinding where
  attemptId := attemptId
  leaseId := claim.leaseId
  workerId := claim.workerId
  fenceEpoch := fenceEpoch
  identity := witness.identity
  capturedMs := capturedMs
  origin := hintOrigin

/-- The transaction of `capture`. -/
def insertBinding (journals : Journals) (attemptId : String)
    (claim : LocalClaim) (row : HostBinding) :
    Except Failure (Journals × Json) :=
  if journals.claims.claim? attemptId ≠ some claim then
    deny "broker_authority_uncertain"
  else if bindable row.capturedMs = false then .error .refused
  else
    match journals.bindings.insert row with
    | none => deny "broker_binding_exists"
    | some later =>
        .ok ({ journals with bindings := later }, captured attemptId)

def capture (config : Config) (witnesses : List Witness) (journals : Journals)
    (peerUid : Nat) (request : Json) (world : World) :
    Except Failure (Journals × Json) := do
  let attemptId ← call (readAttempt request)
  let claim ← call (authorized config journals.claims peerUid attemptId)
  let fenceEpoch ← confirmedEpoch claim [.reserved, .quarantined]
  match witnessOf witnesses attemptId with
  | none => deny "broker_binding_witness_missing"
  | some witness =>
      if witness.leaseId ≠ claim.leaseId ∨
          witness.workerId ≠ claim.workerId ∨
          witness.fenceEpoch ≠ fenceEpoch then
        deny "broker_binding_identity_mismatch"
      else if journals.bindings.rows.any (fun row =>
          row.attemptId = attemptId) then
        deny "broker_binding_exists"
      else
        confirmHeld config journals peerUid attemptId fenceEpoch world
        if (inspectProcfs world.moments witness.identity).1 ≠ .present then
          deny "broker_binding_host_unconfirmed"
        else
          insertBinding journals attemptId claim
            (bindingOf attemptId claim fenceEpoch witness (world.clock 0))

/-- The row that `spawn` inserts before it starts the child. -/
def intentOf (attemptId : String) (claim : LocalClaim) (fenceEpoch : Nat)
    (eventMs : Int) : ProbeEvent where
  attemptId := attemptId
  sequence := 1
  event := .intentDurable
  leaseId := claim.leaseId
  workerId := claim.workerId
  fenceEpoch := fenceEpoch
  identity := none
  eventMs := eventMs

/-- The row that it inserts when it has seen the child. -/
def observedOf (attemptId : String) (claim : LocalClaim) (fenceEpoch : Nat)
    (identity : HostIdentity) (eventMs : Int) : ProbeEvent where
  attemptId := attemptId
  sequence := 2
  event := .syntheticChildObserved
  leaseId := claim.leaseId
  workerId := claim.workerId
  fenceEpoch := fenceEpoch
  identity := some identity
  eventMs := eventMs

/-- Both transactions of `spawn`. -/
def insertProbe (journals : Journals) (attemptId : String)
    (claim : LocalClaim) (row : ProbeEvent) : Except Failure Journals :=
  if journals.claims.claim? attemptId ≠ some claim then
    deny "broker_authority_uncertain"
  else if bindable row.eventMs = false ∨
      row.identity.any (fun identity =>
        !bindable identity.pid || !bindable identity.startTicks) then
    .error .refused
  else
    match journals.probes.insert row with
    | none => deny "broker_provenance_exists"
    | some later => .ok { journals with probes := later }

/-- `spawn` up to the commit of its intent. -/
def beginSpawn (config : Config) (journals : Journals) (peerUid : Nat)
    (request : Json) (world : World) :
    Except Failure (String × LocalClaim × Nat × Journals) := do
  let attemptId ← call (readAttempt request)
  let claim ← call (authorized config journals.claims peerUid attemptId)
  let fenceEpoch ← confirmedEpoch claim [.reserved]
  if journals.bindings.rows.any (fun row => row.attemptId = attemptId) then
    deny "broker_provenance_conflict"
  else if journals.probes.rows.any (fun row => row.attemptId = attemptId) then
    deny "broker_provenance_exists"
  else
    confirmHeld config journals peerUid attemptId fenceEpoch world
    let later ← insertProbe journals attemptId claim
      (intentOf attemptId claim fenceEpoch (world.clock 0))
    return (attemptId, claim, fenceEpoch, later)

/-- What procfs says of the child. -/
def readChild (moments : Nat → Procfs) (pid : Int) :
    Except ProcError HostIdentity := do
  let boot ← bootId (moments 0)
  let birth ← procIdentity (moments 1) pid
  let cgroup ← cgroupV2 (moments 2) pid
  return ⟨boot, pid, birth, cgroup⟩

/-- The child is started and looked at; whatever fails, the intent stays. -/
def finishSpawn (journals : Journals) (attemptId : String)
    (claim : LocalClaim) (fenceEpoch : Nat) (world : World) :
    Option Journals := do
  let pid ← world.child
  let identity ← (readChild world.moments pid).toOption
  if inspectProcfs (fun reading => world.moments (reading + 3)) identity ≠
      (.present, .identityPresent) then
    none
  else
    (insertProbe journals attemptId claim
      (observedOf attemptId claim fenceEpoch identity
        (world.clock 1))).toOption

def probeOrigin : String := "broker-created-fixed-synthetic-child-test-only"

def spawned (attemptId : String) : Json :=
  .object [("schemaVersion", .number 1), ("attemptId", .string attemptId),
    ("status", .string "synthetic-probe-recorded"),
    ("origin", .string probeOrigin), ("intentDurable", .bool true),
    ("identityObserved", .bool true), ("workloadLaunchAttested", .bool false),
    ("cleanupVerified", .bool false), ("canLaunch", .bool false),
    ("canRelease", .bool false), ("advisoryOnly", .bool true)]

def spawn (config : Config) (journals : Journals) (peerUid : Nat)
    (request : Json) (world : World) : Outcome :=
  match beginSpawn config journals peerUid request world with
  | .error failure => ⟨[], .error failure⟩
  | .ok (attemptId, claim, fenceEpoch, intended) =>
      match finishSpawn intended attemptId claim fenceEpoch world with
      | none => ⟨[intended], deny "broker_provenance_uncertain"⟩
      | some recorded => ⟨[intended, recorded], .ok (spawned attemptId)⟩

def reserved (attemptId : String) (fenceEpoch : Nat) : Json :=
  .object [("schemaVersion", .number 1), ("attemptId", .string attemptId),
    ("fenceEpoch", .number fenceEpoch),
    ("status", .string "reserved-not-launchable"),
    ("canLaunch", .bool false), ("advisoryOnly", .bool true)]

/-- `reserve` of the bridge, with both of its transactions. -/
def reserve (config : Config) (journals : Journals) (peerUid : Nat)
    (payload : Json) (world : World) : Outcome :=
  match beginReserve config journals.claims peerUid payload (world.clock 0) with
  | .error code => ⟨[], deny code⟩
  | .ok (request, pending) =>
      let inserted := { journals with claims := pending }
      match world.response.bind (acceptReserve request) with
      | none => ⟨[inserted], deny "broker_authority_uncertain"⟩
      | some fenceEpoch =>
          match Journal.acknowledge pending request.attemptId fenceEpoch with
          | none => ⟨[inserted], deny "broker_authority_uncertain"⟩
          | some acknowledged =>
              ⟨[inserted, { journals with claims := acknowledged }],
                .ok (reserved request.attemptId fenceEpoch)⟩

/-! ## Observations -/

/-- `observe` of the bridge -/
def observeAuthority (config : Config) (journals : Journals) (peerUid : Nat)
    (request : Json) (world : World) : Except Failure Json := do
  let (attemptId, observed) ← call (observe config journals.claims peerUid
    request world.response)
  return .object [("schemaVersion", .number 1),
    ("attemptId", .string attemptId),
    ("disposition", .string observed.disposition.text),
    ("fenceEpoch", match observed.fenceEpoch with
      | none => .null
      | some fenceEpoch => .number fenceEpoch),
    ("canLaunch", .bool false), ("canRelease", .bool false),
    ("evidenceVerified", .bool false), ("advisoryOnly", .bool true)]

/-- What a witness of the operator says of a claim. -/
def observeWitness (claim : LocalClaim) (witness : Option Witness)
    (moments : Nat → Procfs) : Observation × Reason :=
  match claim.fenceEpoch, witness with
  | none, _ => (.unknown, .epochUnconfirmed)
  | some _, none => (.unknown, .noBrokerVerifiedBinding)
  | some fenceEpoch, some witness =>
      if witness.workerId ≠ claim.workerId ∨
          witness.leaseId ≠ claim.leaseId ∨
          witness.fenceEpoch ≠ fenceEpoch then
        (.unknown, .witnessIdentityMismatch)
      else inspectProcfs moments witness.identity

/-- `HostProcessObserver.observe` -/
def observeHost (config : Config) (witnesses : List Witness)
    (journals : Journals) (peerUid : Nat) (request : Json) (world : World) :
    Except Failure Json := do
  let attemptId ← call (readAttempt request)
  let claim ← call (authorized config journals.claims peerUid attemptId)
  let (observation, reason) :=
    observeWitness claim (witnessOf witnesses attemptId) world.moments
  return .object [("schemaVersion", .number 1),
    ("attemptId", .string attemptId),
    ("observation", .string observation.text), ("reason", .string reason.text),
    ("source", .string observation.source), ("operatorHintOnly", .bool true),
    ("authorityConfirmed", .bool false), ("cleanupVerified", .bool false),
    ("canLaunch", .bool false), ("canRelease", .bool false),
    ("advisoryOnly", .bool true)]

/-- What a bound process looks like now. -/
def observeRow (claim : LocalClaim) (moments : Nat → Procfs) :
    Option HostBinding → Except Failure (Observation × Reason)
  | none => .ok (.unknown, .noDurableBinding)
  | some row =>
      if row.valid = false ∨ row.leaseId ≠ claim.leaseId ∨
          row.workerId ≠ claim.workerId ∨
          claim.fenceEpoch ≠ some row.fenceEpoch then
        deny "broker_binding_corrupt"
      else .ok (inspectProcfs moments row.identity)

/-- `HostBindingJournal.observe` -/
def observeBound (config : Config) (journals : Journals) (peerUid : Nat)
    (request : Json) (world : World) : Except Failure Json := do
  let attemptId ← call (readAttempt request)
  let claim ← call (authorized config journals.claims peerUid attemptId)
  let row := journals.bindings.rows.find? (fun row =>
    row.attemptId = attemptId)
  let (observation, reason) ← observeRow claim world.moments row
  return .object [("schemaVersion", .number 1),
    ("attemptId", .string attemptId),
    ("observation", .string observation.text), ("reason", .string reason.text),
    ("source", .string observation.source), ("brokerMeasured", .bool row.isSome),
    ("launchAttested", .bool false), ("authorityConfirmed", .bool false),
    ("cleanupVerified", .bool false), ("canLaunch", .bool false),
    ("canRelease", .bool false), ("advisoryOnly", .bool true)]

inductive ProbeStatus where
  | noIntent
  | intentUncertain
  | syntheticIdentityRecorded
  deriving DecidableEq, Repr

def ProbeStatus.text : ProbeStatus → String
  | .noIntent => "no_intent"
  | .intentUncertain => "intent_uncertain"
  | .syntheticIdentityRecorded => "synthetic_identity_recorded"

/-- What the rows of an attempt say now. -/
def observeRows (claim : LocalClaim) (moments : Nat → Procfs)
    (rows : List ProbeEvent) :
    Except Failure (ProbeStatus × Observation × Reason) :=
  if rows.all ProbeEvent.valid = false then deny "broker_provenance_corrupt"
  else
    match rows with
    | [] => .ok (.noIntent, .unknown, .noProvenanceIntent)
    | [first] =>
        if first.claimed claim then
          .ok (.intentUncertain, .unknown, .birthNotCommitted)
        else deny "broker_provenance_corrupt"
    | [first, second] =>
        if first.claimed claim ∧ second.claimed claim then
          match second.sequence, second.identity with
          | 2, some identity =>
              .ok (.syntheticIdentityRecorded, inspectProcfs moments identity)
          | _, _ => deny "broker_provenance_corrupt"
        else deny "broker_provenance_corrupt"
    | _ => deny "broker_provenance_corrupt"

/-- `SyntheticProvenance.observe` -/
def observeProbe (config : Config) (journals : Journals) (peerUid : Nat)
    (request : Json) (world : World) : Except Failure Json := do
  let attemptId ← call (readAttempt request)
  let claim ← call (authorized config journals.claims peerUid attemptId)
  let (status, observation, reason) ← observeRows claim world.moments
    (rowsOf journals.probes attemptId)
  return .object [("schemaVersion", .number 1),
    ("attemptId", .string attemptId), ("status", .string status.text),
    ("origin", .string probeOrigin),
    ("observation", .string observation.text), ("reason", .string reason.text),
    ("source", .string observation.source),
    ("workloadLaunchAttested", .bool false),
    ("authorityConfirmed", .bool false), ("cleanupVerified", .bool false),
    ("canLaunch", .bool false), ("canRelease", .bool false),
    ("advisoryOnly", .bool true)]

end HostJournals

end GpuLink
