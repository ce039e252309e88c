import GpuLink.Store.Contract

/-!
# Authority of an execution claim

What a claim on a GPU is checked against: the worker it names and the job or
session that owns the lease.
-/

namespace GpuLink

/-- `Number.MAX_SAFE_INTEGER` -/
def maxSafeInteger : Int :=
  9007199254740991

/-- `/^[a-zA-Z0-9_.:-]{1,128}$/` -/
def isClaimText (text : String) : Bool :=
  decide (1 ≤ text.length) && decide (text.length ≤ 128) &&
    text.toList.all (fun c =>
      c.isAlphanum || c = '_' || c = '.' || c = ':' || c = '-')

/-- `/^sha256:[a-f0-9]{64}$/` -/
def isDigest (text : String) : Bool :=
  text.toList.take 7 = "sha256:".toList && decide (text.length = 71) &&
    (text.toList.drop 7).all (fun c =>
      c.isDigit || (decide ('a' ≤ c) && decide (c ≤ 'f')))

/-- The checks of `validateExecutionClaim` on the values of a claim. -/
def validateExecutionClaim (claim : ExecutionClaim) :
    Except TxError ExecutionClaim :=
  if [claim.subjectId, claim.leaseId, claim.workerId, claim.gpuUuid.val,
        claim.attemptId, claim.adapterIdentity, claim.runtimePolicyRevision,
        claim.approvalRef].all isClaimText &&
      isDigest claim.artifactDigest &&
      1 ≤ claim.now && claim.now ≤ maxSafeInteger &&
      1 ≤ claim.maxHeartbeatAgeMs && claim.maxHeartbeatAgeMs ≤ 300000 then
    .ok claim
  else .error (.claimDenied .invalidClaim)

/-- The columns of the owning job or session that a claim is checked against. -/
structure Workload where
  active : Bool
  leaseId : Option String
  assignedWorkerId : Option String
  assignedGpuUuid : Option NonEmptyString
  leaseExpiresAt : Option Int
  projectId : String

def JobRow.workload (row : JobRow) : Workload where
  active := row.isActive
  leaseId := row.leaseId
  assignedWorkerId := row.assignedWorkerId
  assignedGpuUuid := row.assignedGpuUuid
  leaseExpiresAt := row.leaseExpiresAt
  projectId := row.projectId

def SessionRow.workload (row : SessionRow) : Workload where
  active := row.isOccupying
  leaseId := row.leaseId
  assignedWorkerId := row.assignedWorkerId
  assignedGpuUuid := row.assignedGpuUuid
  leaseExpiresAt := row.leaseExpiresAt
  projectId := row.projectId

/-- The job or the session that the claim names. -/
def Store.claimed (store : Store) (claim : ExecutionClaim) : Option Workload :=
  match claim.subjectKind with
  | .job => (store.jobs.find? claim.subjectId).map JobRow.workload
  | .session => (store.sessions.find? claim.subjectId).map SessionRow.workload

def ExecutionClaim.workerAvailable (claim : ExecutionClaim)
    (row : WorkerRow) : Bool :=
  row.status = .online && !row.drainMode && row.lastSeenAt ≤ claim.now &&
    claim.now - row.lastSeenAt < claim.maxHeartbeatAgeMs &&
    row.gpuInventory.any (fun gpu => gpu.uuid = claim.gpuUuid)

def ExecutionClaim.ownedBy (claim : ExecutionClaim)
    (workload : Workload) : Bool :=
  workload.active && workload.leaseId = some claim.leaseId &&
    workload.assignedWorkerId = some claim.workerId &&
    workload.assignedGpuUuid = some claim.gpuUuid &&
    (match workload.leaseExpiresAt with
    | none => false
    | some expires => claim.now < expires)

/-- `validateCurrentExecutionOwner`: the project of the owner, or the denial. -/
def validateCurrentExecutionOwner (claim : ExecutionClaim)
    (worker : Option WorkerRow) (workload : Option Workload) :
    Except TxError Workload :=
  match worker.filter claim.workerAvailable with
  | none => .error (.claimDenied .workerUnavailable)
  | some _ =>
      match workload.filter claim.ownedBy with
      | none => .error (.claimDenied .staleLease)
      | some owner => .ok owner

end GpuLink
