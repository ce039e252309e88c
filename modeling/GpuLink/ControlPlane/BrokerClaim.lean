import GpuLink.Store.Database

/-!
# Claims of a broker

An authenticated broker reserves one attempt under an existing lease, and may
ask whether the fence still holds it.  Every column that identifies the GPU
comes from the store.
-/

namespace GpuLink

open Transactional Sql

/-- An operator-issued approval, pinned to one worker and one project. -/
structure BrokerProfile where
  brokerId : String
  workerId : String
  projectId : String
  token : String
  artifactDigest : String
  adapterIdentity : String
  runtimePolicyRevision : String
  approvalRef : String

/-- A request that has passed `validateBrokerClaimRequest`. -/
structure BrokerRequest where
  subjectKind : SubjectKind
  subjectId : String
  leaseId : String
  attemptId : String
  deriving DecidableEq, Repr

/-- `/^[A-Za-z0-9][A-Za-z0-9._:-]{0,127}$/u` -/
def isBrokerId (text : String) : Bool :=
  match text.toList with
  | [] => false
  | first :: rest =>
      first.isAlphanum && decide (rest.length ≤ 127) &&
        rest.all (fun c =>
          c.isAlphanum || c = '.' || c = '_' || c = ':' || c = '-')

/-- The profile whose token the header carries; the last one, if several do. -/
def authenticateBroker (profiles : List BrokerProfile)
    (authorization : Option String) : Option BrokerProfile :=
  match authorization with
  | none => none
  | some header =>
      if header.startsWith "Bearer " && decide (header.length ≤ 530) then
        profiles.foldl (fun matched principal =>
          if principal.token.toList = header.toList.drop 7 then some principal
          else matched) none
      else none

/-- `ownValues(raw, REQUEST_FIELDS)`: exactly these fields. -/
def requestFields : List String :=
  ["schemaVersion", "subjectKind", "subjectId", "leaseId", "attemptId"]

def Json.hasFields (names : List String) : Json → Bool
  | .object fields =>
      fields.length = names.length &&
        names.all (fun name => fields.any (fun entry => entry.1 = name))
  | _ => false

/-- A text field that `ID` matches. -/
def Json.idField? (raw : Json) (name : String) : Option String :=
  match raw.field? name with
  | some (.string text) => if isBrokerId text then some text else none
  | _ => none

def Json.subjectKind? (raw : Json) : Option SubjectKind :=
  match raw.field? "subjectKind" with
  | some (.string "job") => some .job
  | some (.string "session") => some .session
  | _ => none

def validateBrokerClaimRequest (raw : Json) :
    Except BrokerClaimError BrokerRequest :=
  let request : Option BrokerRequest :=
    if raw.hasFields requestFields then
      match raw.field? "schemaVersion", raw.subjectKind?,
        raw.idField? "subjectId", raw.idField? "leaseId",
        raw.idField? "attemptId" with
      | some (.number version), some subjectKind, some subjectId, some leaseId,
        some attemptId =>
          if version = 1 then some ⟨subjectKind, subjectId, leaseId, attemptId⟩
          else none
      | _, _, _, _, _ => none
    else none
  match request with
  | none => .error ⟨"broker_invalid_request", 400⟩
  | some request => .ok request

/-- What both calls check before they open a transaction. -/
def admitBroker (profiles : List BrokerProfile) (authorization : Option String)
    (request : Json) :
    Except BrokerClaimError (BrokerProfile × BrokerRequest) :=
  if profiles.isEmpty then .error ⟨"broker_disabled", 404⟩
  else
    match authenticateBroker profiles authorization with
    | none => .error ⟨"broker_unauthorized", 401⟩
    | some principal =>
        match validateBrokerClaimRequest request with
        | .error invalid => .error invalid
        | .ok input => .ok (principal, input)

/-- The columns of the job or session that a broker's claim is looked up by. -/
structure StoredSubject where
  id : String
  projectId : String
  assignedWorkerId : Option String
  assignedGpuUuid : Option NonEmptyString
  leaseId : Option String

def Job.storedSubject (job : Job) : StoredSubject where
  id := job.id
  projectId := job.projectId
  assignedWorkerId := job.assignedWorkerId
  assignedGpuUuid := job.assignedGpuUuid
  leaseId := job.leaseId

def Session.storedSubject (session : Session) : StoredSubject where
  id := session.id
  projectId := session.projectId
  assignedWorkerId := session.assignedWorkerId
  assignedGpuUuid := session.assignedGpuUuid
  leaseId := session.leaseId

/-- `tx[lookup](input.subjectId)` -/
def lookupSubject (transaction : Persistence) (input : BrokerRequest) :
    Tx (Option StoredSubject) :=
  match input.subjectKind with
  | .job => do
      let stored ← transaction.getJob input.subjectId
      pure (stored.map Job.storedSubject)
  | .session => do
      let stored ← transaction.getSession input.subjectId
      pure (stored.map Session.storedSubject)

/-- The claim that a broker's request makes on the GPU of the stored row. -/
def BrokerRequest.claim (input : BrokerRequest) (principal : BrokerProfile)
    (subjectId : String) (gpuUuid : NonEmptyString)
    (now maxHeartbeatAgeMs : Int) : ExecutionClaim where
  subjectKind := input.subjectKind
  subjectId := subjectId
  leaseId := input.leaseId
  workerId := principal.workerId
  gpuUuid := gpuUuid
  attemptId := input.attemptId
  artifactDigest := principal.artifactDigest
  adapterIdentity := principal.adapterIdentity
  runtimePolicyRevision := principal.runtimePolicyRevision
  approvalRef := principal.approvalRef
  now := now
  maxHeartbeatAgeMs := maxHeartbeatAgeMs

/-- The transaction of `reserveBrokerBoundAttempt`. -/
def reserveBrokerBoundAttempt (transaction : Persistence)
    (principal : BrokerProfile) (input : BrokerRequest)
    (now maxHeartbeatAgeMs : Int) : Tx ReservedAttempt := do
  let stored ← lookupSubject transaction input
  match stored with
  | none => throw (.broker ⟨"broker_claim_denied", 409⟩)
  | some stored =>
      if stored.projectId = principal.projectId ∧
          stored.assignedWorkerId = some principal.workerId ∧
          stored.leaseId = some input.leaseId then
        match stored.assignedGpuUuid with
        | none => throw (.broker ⟨"broker_claim_denied", 409⟩)
        | some gpuUuid =>
            match validateExecutionClaim (input.claim principal stored.id
              gpuUuid now maxHeartbeatAgeMs) with
            | .error invalid => throw invalid
            | .ok claim => do
                let result ← transaction.reserveExecutionAttempt claim
                if result.canLaunch || result.attemptId ≠ input.attemptId ||
                    result.fenceEpoch < 1 ||
                    maxSafeInteger < result.fenceEpoch then
                  throw (.broker ⟨"broker_authority_unavailable", 503⟩)
                else pure result
      else throw (.broker ⟨"broker_claim_denied", 409⟩)

inductive BrokerDisposition where
  | held
  | unconfirmed
  | notFound
  deriving DecidableEq, Repr

structure BrokerObservation where
  attemptId : String
  disposition : BrokerDisposition
  fenceEpoch : Option Nat
  deriving DecidableEq, Repr

/-- The fence still belongs to the attempt. -/
def fenceHolds (row : AttemptObservation) : Bool :=
  match row.fence with
  | none => false
  | some fence =>
      fence.safetyState ≠ .clear &&
        fence.attemptId = some row.attempt.attemptId &&
        fence.leaseId = some row.attempt.leaseId &&
        fence.subjectKind = some row.attempt.subjectKind &&
        fence.subjectId = some row.attempt.subjectId &&
        fence.epoch = row.attempt.fenceEpoch

/-- The transaction of `observeBrokerBoundAttempt`. -/
def observeBrokerBoundAttempt (transaction : Persistence)
    (principal : BrokerProfile) (input : BrokerRequest) :
    Tx BrokerObservation := do
  let row ← transaction.observeExecutionAttempt
    { attemptId := input.attemptId
      workerId := principal.workerId
      projectId := principal.projectId
      subjectKind := input.subjectKind
      subjectId := input.subjectId
      leaseId := input.leaseId }
  match row with
  | none => pure ⟨input.attemptId, .notFound, none⟩
  | some row =>
      if row.attempt.fenceEpoch < 1 ||
          maxSafeInteger < row.attempt.fenceEpoch then
        throw (.broker ⟨"broker_authority_unavailable", 503⟩)
      else
        pure ⟨input.attemptId,
          if fenceHolds row then .held else .unconfirmed,
          some row.attempt.fenceEpoch⟩

end GpuLink
