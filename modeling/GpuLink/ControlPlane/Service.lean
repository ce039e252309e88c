import GpuLink.ControlPlane.BrokerClaim
import GpuLink.ControlPlane.Scheduler

/-!
# The transactions of the service

Each request of `ControlPlaneService` that changes the store does so in one
transaction of its own; the scheduler pass that follows is another one.
-/

namespace GpuLink

open Transactional Sql

structure LeaseAction where
  workerId : String
  leaseId : String

namespace Service

section Transactions

variable (transaction : Persistence)

/-- The transaction of `registerWorker`. -/
def registerWorker (worker : WorkerRegistration) : Tx Worker := do
  let result ← transaction.upsertWorker worker
  let _ ← transaction.appendEvent "worker.online" (some result.id)
    (.object [("name", .string result.name),
      ("gpuCount", .nat result.gpus.length)]) worker.now
  pure result

/-- The statement of `heartbeatWorker`. -/
def heartbeatWorker (workerId : String) (heartbeat : Heartbeat) :
    Tx Worker := do
  let worker ← transaction.updateWorkerHeartbeat workerId heartbeat
  match worker with
  | none => throw (.notFound "worker not found")
  | some worker => pure worker

def setWorkerDrain (workerId : String) (drain : Bool) (now : Int) :
    Tx Worker := do
  let worker ← transaction.setWorkerDrain workerId drain now
  match worker with
  | none => throw (.notFound "worker not found")
  | some worker => do
      let _ ← transaction.appendEvent
        (if drain then "worker.draining" else "worker.resumed")
        (some worker.id) (.object []) now
      pure worker

/-- The transaction of `submitJob`. -/
def submitJob (job : JobRequest) : Tx JobInsertion := do
  let result ← transaction.insertJob job
  if result.duplicate then pure result
  else do
    let _ ← transaction.appendEvent "job.queued" (some result.job.id)
      (.object [("projectId", .string result.job.projectId),
        ("type", .string result.job.type),
        ("priority", .number result.job.priority)]) job.now
    pure result

/-- The transaction of `submitSession`. -/
def submitSession (session : SessionRequest) : Tx SessionInsertion := do
  let result ← transaction.insertSession session
  if result.duplicate then pure result
  else do
    let _ ← transaction.appendEvent "session.requested"
      (some result.session.id)
      (.object [("projectId", .string result.session.projectId),
        ("capability", .string result.session.capability),
        ("priority", .number result.session.priority)]) session.now
    pure result

def startSession (sessionId : String) (lease : LeaseAction)
    (leaseDurationMs now : Int) : Tx Session := do
  let session ← transaction.startSession sessionId lease.workerId lease.leaseId
    (now + leaseDurationMs) now
  match session with
  | none => throw (.conflict "session lease is not valid for this worker")
  | some session => do
      let _ ← transaction.appendEvent "session.connecting" (some session.id)
        (.object [("workerId", .string lease.workerId)]) now
      pure session

def activateSession (sessionId : String) (lease : LeaseAction)
    (leaseDurationMs now : Int) : Tx Session := do
  let session ← transaction.activateSession sessionId lease.workerId
    lease.leaseId (now + leaseDurationMs) now
  match session with
  | none =>
      throw (.conflict "connecting session lease is not valid for this worker")
  | some session => do
      let _ ← transaction.appendEvent "session.active" (some session.id)
        (.object [("workerId", .string lease.workerId)]) now
      pure session

def renewSession (sessionId : String) (lease : LeaseAction)
    (leaseDurationMs now : Int) : Tx Session := do
  let session ← transaction.renewSession sessionId lease.workerId lease.leaseId
    (now + leaseDurationMs) now
  match session with
  | none => throw (.conflict "session lease is not valid for this worker")
  | some session => pure session

/-- The transaction of `closeSession`. -/
def closeSession (sessionId : String) (now : Int) : Tx Session := do
  let existing ← transaction.getSession sessionId
  match existing with
  | none => throw (.notFound "session not found")
  | some existing => do
      let closed ← transaction.closeSession sessionId now
      match closed with
      | none => throw (.conflict
          s!"session cannot be closed from {existing.status.text}")
      | some closed => do
          let _ ← transaction.appendEvent "session.closed" (some sessionId)
            (.object [("previousStatus", .string existing.status.text)]) now
          pure closed

def startJob (jobId : String) (lease : LeaseAction)
    (leaseDurationMs now : Int) : Tx Job := do
  let job ← transaction.startJob jobId lease.workerId lease.leaseId
    (now + leaseDurationMs) now
  match job with
  | none => throw (.conflict "job lease is not valid for this worker")
  | some job => do
      let _ ← transaction.appendEvent "job.started" (some job.id)
        (.object [("workerId", .string lease.workerId),
          ("attempt", .nat job.attempt)]) now
      pure job

def renewJob (jobId : String) (lease : LeaseAction)
    (leaseDurationMs now : Int) : Tx Job := do
  let job ← transaction.renewJob jobId lease.workerId lease.leaseId
    (now + leaseDurationMs) now
  match job with
  | none => throw (.conflict "running job lease is not valid for this worker")
  | some job => pure job

/-- The transaction of `finishJob`. -/
def finishJob (jobId : String) (lease : LeaseAction) (outcome : Outcome)
    (result error : Json) (now : Int) : Tx Job := do
  let stored ← transaction.finishJob jobId lease.workerId lease.leaseId outcome
    result error now
  match stored with
  | none => throw (.conflict "job lease is not valid for this worker")
  | some stored => do
      let _ ← transaction.appendEvent
        (match outcome with
          | .succeeded => "job.succeeded"
          | .failed => "job.failed")
        (some stored.id)
        (.object [("workerId", .string lease.workerId),
          ("attempt", .nat stored.attempt)]) now
      pure stored

/-- The transaction of `cancelJob`. -/
def cancelJob (jobId : String) (now : Int) : Tx Job := do
  let existing ← transaction.getJob jobId
  match existing with
  | none => throw (.notFound "job not found")
  | some existing => do
      let cancelled ← transaction.cancelJob jobId now
      match cancelled with
      | none => throw (.conflict s!"job is already {existing.status.text}")
      | some cancelled => do
          let _ ← transaction.appendEvent "job.cancelled" (some jobId)
            (.object []) now
          pure cancelled

end Transactions

/-- The transactions that change workers, jobs, sessions and fences outside a
scheduler pass, with any arguments. -/
inductive Request where
  | registerWorker (worker : WorkerRegistration)
  | heartbeatWorker (workerId : String) (heartbeat : Heartbeat)
  | setWorkerDrain (workerId : String) (drain : Bool) (now : Int)
  | submitJob (job : JobRequest)
  | submitSession (session : SessionRequest)
  | startSession (sessionId : String) (lease : LeaseAction) (now : Int)
  | activateSession (sessionId : String) (lease : LeaseAction) (now : Int)
  | renewSession (sessionId : String) (lease : LeaseAction) (now : Int)
  | closeSession (sessionId : String) (now : Int)
  | startJob (jobId : String) (lease : LeaseAction) (now : Int)
  | renewJob (jobId : String) (lease : LeaseAction) (now : Int)
  | finishJob (jobId : String) (lease : LeaseAction) (outcome : Outcome)
      (result error : Json) (now : Int)
  | cancelJob (jobId : String) (now : Int)
  | reserveAttempt (claim : ExecutionClaim)
  | reserveBrokerAttempt (principal : BrokerProfile) (input : BrokerRequest)
      (now maxHeartbeatAgeMs : Int)

/-- The code of a request's transaction. -/
def Request.code (transaction : Persistence) (leaseDurationMs : Int) :
    Request → Tx Unit
  | .registerWorker worker => do
      let _ ← Service.registerWorker transaction worker
  | .heartbeatWorker workerId heartbeat => do
      let _ ← Service.heartbeatWorker transaction workerId heartbeat
  | .setWorkerDrain workerId drain now => do
      let _ ← Service.setWorkerDrain transaction workerId drain now
  | .submitJob job => do
      let _ ← Service.submitJob transaction job
  | .submitSession session => do
      let _ ← Service.submitSession transaction session
  | .startSession sessionId lease now => do
      let _ ← Service.startSession transaction sessionId lease leaseDurationMs
        now
  | .activateSession sessionId lease now => do
      let _ ← Service.activateSession transaction sessionId lease
        leaseDurationMs now
  | .renewSession sessionId lease now => do
      let _ ← Service.renewSession transaction sessionId lease leaseDurationMs
        now
  | .closeSession sessionId now => do
      let _ ← Service.closeSession transaction sessionId now
  | .startJob jobId lease now => do
      let _ ← Service.startJob transaction jobId lease leaseDurationMs now
  | .renewJob jobId lease now => do
      let _ ← Service.renewJob transaction jobId lease leaseDurationMs now
  | .finishJob jobId lease outcome result error now => do
      let _ ← Service.finishJob transaction jobId lease outcome result error now
  | .cancelJob jobId now => do
      let _ ← Service.cancelJob transaction jobId now
  | .reserveAttempt claim => do
      let _ ← transaction.reserveExecutionAttempt claim
  | .reserveBrokerAttempt principal input now maxHeartbeatAgeMs => do
      let _ ← reserveBrokerBoundAttempt transaction principal input now
        maxHeartbeatAgeMs

/-- Everything that runs on the store as a transaction of its own. -/
inductive Transaction where
  | request (request : Request)
  | pass (input : PassInput)

/-- The code of a transaction. -/
def Transaction.code (transaction : Persistence)
    (settings : SchedulerSettings) : Transaction → Tx Unit
  | .request work => work.code transaction settings.leaseDurationMs
  | .pass input => do
      let _ ← Scheduler.runOnce transaction settings input

/-- The transactions of any number of control planes on the given engine, which
may be configured differently. -/
def Begins (transaction : Persistence) (code : Tx Unit) : Prop :=
  ∃ (settings : SchedulerSettings) (work : Transaction),
    code = work.code transaction settings

end Service

end GpuLink
