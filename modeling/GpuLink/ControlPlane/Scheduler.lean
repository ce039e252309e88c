import GpuLink.ControlPlane.Placement

/-!
# The scheduler pass

One pass is one transaction: it takes workers offline whose heartbeat is
overdue, recovers the work they and expired leases held, and places what is
pending.
-/

namespace GpuLink

open Transactional Sql

structure SchedulerSettings where
  heartbeatTimeoutMs : Int
  leaseDurationMs : Int
  vramSafetyMiB : Int
  heartbeatPositive : 0 < heartbeatTimeoutMs
  leasePositive : 0 < leaseDurationMs
  locale : Locale

/-- What a pass takes from outside: the clock, and the identifiers that
`createId("lease")` hands out one after the other. -/
structure PassInput where
  now : Int
  leaseIds : Nat → String

structure PassResult where
  acquired : Bool
  staleWorkerIds : List String
  recoveredJobs : List Job
  assigned : List Job

def RecoveryReason.text : RecoveryReason → String
  | .heartbeatTimeout => "heartbeat_timeout"
  | .leaseExpired => "lease_expired"

def SessionStatus.text : SessionStatus → String
  | .requested => "requested"
  | .allocated => "allocated"
  | .connecting => "connecting"
  | .active => "active"
  | .interrupted => "interrupted"
  | .closed => "closed"

def JobStatus.text : JobStatus → String
  | .queued => "queued"
  | .leased => "leased"
  | .running => "running"
  | .succeeded => "succeeded"
  | .failed => "failed"
  | .cancelled => "cancelled"

def Json.nat (value : Nat) : Json :=
  .number value

/-- Queued jobs and requested sessions wait in one queue. -/
inductive PendingEntry where
  | job (item : Job)
  | session (item : Session)

namespace PendingEntry

def kind : PendingEntry → String
  | job _ => "job"
  | session _ => "session"

def id : PendingEntry → String
  | job item => item.id
  | session item => item.id

def priority : PendingEntry → Int
  | job item => item.priority
  | session item => item.priority

def createdAt : PendingEntry → Int
  | job item => item.createdAt
  | session item => item.createdAt

def demand : PendingEntry → Demand
  | job item => item.demand
  | session item => item.demand

end PendingEntry

def comparePendingWork (locale : Locale) (left right : PendingEntry) :
    Ordering :=
  (compare right.priority left.priority).then <|
  (compare left.createdAt right.createdAt).then <|
  (locale.compare left.id right.id).then <|
    locale.compare left.kind right.kind

namespace Scheduler

section Pass

variable (transaction : Persistence) (settings : SchedulerSettings)

/-- A `worker.offline` event for each stale worker. -/
def reportStale (now : Int) : List String → Tx Unit
  | [] => pure ()
  | workerId :: rest => do
      let _ ← transaction.appendEvent "worker.offline" (some workerId)
        (.object [("reason", .string "heartbeat_timeout")]) now
      reportStale now rest

/-- A `job.requeued` or `job.failed` event for each recovered job. -/
def reportJobs (now : Int) : List RecoveredJob → Tx Unit
  | [] => pure ()
  | recovery :: rest => do
      let _ ← transaction.appendEvent
        (if recovery.job.status = .queued then "job.requeued"
          else "job.failed")
        (some recovery.job.id)
        (.object [("reason", .string recovery.reason.text),
          ("attempt", .nat recovery.job.attempt)]) now
      reportJobs now rest

/-- A `session.interrupted` event for each recovered session, and a
`session.requeued` event when it may be placed again. -/
def reportSessions (now : Int) : List RecoveredSession → Tx Unit
  | [] => pure ()
  | recovery :: rest => do
      let _ ← transaction.appendEvent "session.interrupted"
        (some recovery.session.id)
        (.object [("reason", .string recovery.reason.text),
          ("previousStatus", .string recovery.previousStatus.text),
          ("interruptionCount", .nat recovery.session.interruptionCount)]) now
      if recovery.session.status = .requested then do
        let _ ← transaction.appendEvent "session.requeued"
          (some recovery.session.id)
          (.object [("reason", .string recovery.reason.text),
            ("interruptionCount", .nat recovery.session.interruptionCount)])
          now
        reportSessions now rest
      else reportSessions now rest

/-- The assignment of one pending entry to a placement: the leased job, if the
entry was a job, and whether the entry was still pending. -/
def assignEntry (now : Int) (leaseId : String) (placement : Placement) :
    PendingEntry → Tx (Bool × Option Job)
  | .job item => do
      let leasedJob ← transaction.assignJob item.id placement leaseId
        (now + settings.leaseDurationMs) now
      match leasedJob with
      | none => pure (false, none)
      | some leasedJob => do
          let _ ← transaction.appendEvent "job.leased" (some leasedJob.id)
            (.object [("workerId", .string placement.workerId),
              ("gpuUuid", .string placement.gpuUuid.val),
              ("attempt", .nat leasedJob.attempt)]) now
          pure (true, some leasedJob)
  | .session item => do
      let allocated ← transaction.assignSession item.id placement leaseId
        (now + settings.leaseDurationMs) now
      match allocated with
      | none => pure (false, none)
      | some allocated => do
          let _ ← transaction.appendEvent "session.allocated"
            (some allocated.id)
            (.object [("workerId", .string placement.workerId),
              ("gpuUuid", .string placement.gpuUuid.val)]) now
          pure (true, none)

/-- The loop over the pending entries.  `occupiedGpus` grows with every
assignment; each placement draws the next lease identifier. -/
def placePending (input : PassInput) (workers : List Worker)
    (blocked : List BlockedGpu) :
    (pending : List PendingEntry) → (drawn : Nat) →
    (occupiedGpus : List NonEmptyString) → Tx (List Job)
  | [], _, _ => pure []
  | entry :: rest, drawn, occupiedGpus =>
      match choosePlacement settings.locale entry.demand workers occupiedGpus
        { now := input.now
          heartbeatTimeoutMs := settings.heartbeatTimeoutMs
          vramSafetyMiB := settings.vramSafetyMiB
          blockedGpuResources := blocked } with
      | none => placePending input workers blocked rest drawn occupiedGpus
      | some placement => do
          let (placed, job) ← assignEntry transaction settings input.now
            (input.leaseIds drawn) placement entry
          if placed then do
            let assigned ← placePending input workers blocked rest (drawn + 1)
              (placement.gpuUuid :: occupiedGpus)
            pure (job.toList ++ assigned)
          else placePending input workers blocked rest (drawn + 1) occupiedGpus

/-- The GPUs that active jobs and occupying sessions hold. -/
def occupiedGpus (activeJobs : List Job) (occupyingSessions : List Session) :
    List NonEmptyString :=
  activeJobs.filterMap Job.assignedGpuUuid ++
    occupyingSessions.filterMap Session.assignedGpuUuid

/-- Read what is free and what is pending, and place. -/
def place (input : PassInput) : Tx (List Job) := do
  let blocked ← transaction.listBlockedGpuResources
  let workers ← transaction.listWorkers
  let activeJobs ← transaction.listActiveJobs
  let occupyingSessions ← transaction.listOccupyingSessions
  let queuedJobs ← transaction.listQueuedJobs
  let requestedSessions ← transaction.listRequestedSessions
  placePending transaction settings input workers blocked
    (sortBy (comparePendingWork settings.locale)
      (queuedJobs.map .job ++ requestedSessions.map .session))
    0 (occupiedGpus activeJobs occupyingSessions)

/-- The pass once it holds the scheduler lock. -/
def lockedPass (input : PassInput) : Tx PassResult := do
  let staleWorkerIds ← transaction.markStaleWorkersOffline
    (input.now - settings.heartbeatTimeoutMs) input.now
  reportStale transaction input.now staleWorkerIds
  let recoveries ← transaction.recoverExpiredJobs input.now staleWorkerIds
  reportJobs transaction input.now recoveries
  let sessionRecoveries ← transaction.recoverInterruptedSessions input.now
    staleWorkerIds
  reportSessions transaction input.now sessionRecoveries
  let assigned ← place transaction settings input
  pure ⟨true, staleWorkerIds, recoveries.map (·.job), assigned⟩

/-- The transaction of `Scheduler.runOnce`. -/
def runOnce (input : PassInput) : Tx PassResult := do
  let acquired ← transaction.tryAcquireSchedulerLock
  if acquired then lockedPass transaction settings input
  else pure ⟨false, [], [], []⟩

end Pass

end Scheduler

end GpuLink
