import GpuLink.ControlPlane.Service
import GpuLink.Store.PostgresMoves

/-!
# What holds of every transaction of the control plane

Requests and scheduler passes are written over the methods of an engine.  A
relation between programs that is closed under sequencing and holds between the
methods of two engines holds between the transactions over them; taking one
engine alone, a property of its methods becomes one of its transactions.
-/

namespace GpuLink

open Transactional Sql

/-- A relation between programs that sequencing keeps. -/
structure TxRelation where
  rel : {α : Type} → Tx α → Tx α → Prop
  done : ∀ {α : Type} (outcome : Except TxError α),
    rel (.done outcome) (.done outcome)
  bind : ∀ {α β : Type} {left right : Tx α} {leftNext rightNext : α → Tx β},
    rel left right → (∀ result, rel (leftNext result) (rightNext result)) →
    rel (left.bind leftNext) (right.bind rightNext)

/-- Every statement of the left program moves the view along `env`. -/
def TxRelation.steady (env : Store → Store → Prop) : TxRelation where
  rel left _ := left.Steady env
  done _ := trivial
  bind := Program.Steady.bind

/-- The methods that requests call are related. -/
structure Persistence.Serves (left : Persistence) (relation : TxRelation)
    (right : Persistence) : Prop where
  upsertWorker : ∀ worker,
    relation.rel (left.upsertWorker worker) (right.upsertWorker worker)
  updateWorkerHeartbeat : ∀ workerId heartbeat,
    relation.rel (left.updateWorkerHeartbeat workerId heartbeat)
      (right.updateWorkerHeartbeat workerId heartbeat)
  setWorkerDrain : ∀ workerId drainMode now,
    relation.rel (left.setWorkerDrain workerId drainMode now)
      (right.setWorkerDrain workerId drainMode now)
  insertJob : ∀ job, relation.rel (left.insertJob job) (right.insertJob job)
  getJob : ∀ jobId, relation.rel (left.getJob jobId) (right.getJob jobId)
  startJob : ∀ jobId workerId leaseId leaseExpiresAt now,
    relation.rel (left.startJob jobId workerId leaseId leaseExpiresAt now)
      (right.startJob jobId workerId leaseId leaseExpiresAt now)
  renewJob : ∀ jobId workerId leaseId leaseExpiresAt now,
    relation.rel (left.renewJob jobId workerId leaseId leaseExpiresAt now)
      (right.renewJob jobId workerId leaseId leaseExpiresAt now)
  finishJob : ∀ jobId workerId leaseId outcome result error now,
    relation.rel
      (left.finishJob jobId workerId leaseId outcome result error now)
      (right.finishJob jobId workerId leaseId outcome result error now)
  cancelJob : ∀ jobId now,
    relation.rel (left.cancelJob jobId now) (right.cancelJob jobId now)
  insertSession : ∀ session,
    relation.rel (left.insertSession session) (right.insertSession session)
  getSession : ∀ sessionId,
    relation.rel (left.getSession sessionId) (right.getSession sessionId)
  startSession : ∀ sessionId workerId leaseId leaseExpiresAt now,
    relation.rel
      (left.startSession sessionId workerId leaseId leaseExpiresAt now)
      (right.startSession sessionId workerId leaseId leaseExpiresAt now)
  activateSession : ∀ sessionId workerId leaseId leaseExpiresAt now,
    relation.rel
      (left.activateSession sessionId workerId leaseId leaseExpiresAt now)
      (right.activateSession sessionId workerId leaseId leaseExpiresAt now)
  renewSession : ∀ sessionId workerId leaseId leaseExpiresAt now,
    relation.rel
      (left.renewSession sessionId workerId leaseId leaseExpiresAt now)
      (right.renewSession sessionId workerId leaseId leaseExpiresAt now)
  closeSession : ∀ sessionId now,
    relation.rel (left.closeSession sessionId now)
      (right.closeSession sessionId now)
  appendEvent : ∀ type subjectId payload now,
    relation.rel (left.appendEvent type subjectId payload now)
      (right.appendEvent type subjectId payload now)
  reserveExecutionAttempt : ∀ claim,
    relation.rel (left.reserveExecutionAttempt claim)
      (right.reserveExecutionAttempt claim)

/-- The methods that a scheduler pass calls are related. -/
structure Persistence.Schedules (left : Persistence) (relation : TxRelation)
    (right : Persistence) : Prop where
  tryAcquireSchedulerLock :
    relation.rel left.tryAcquireSchedulerLock right.tryAcquireSchedulerLock
  markStaleWorkersOffline : ∀ staleBefore now,
    relation.rel (left.markStaleWorkersOffline staleBefore now)
      (right.markStaleWorkersOffline staleBefore now)
  recoverExpiredJobs : ∀ now offlineWorkerIds,
    relation.rel (left.recoverExpiredJobs now offlineWorkerIds)
      (right.recoverExpiredJobs now offlineWorkerIds)
  recoverInterruptedSessions : ∀ now offlineWorkerIds,
    relation.rel (left.recoverInterruptedSessions now offlineWorkerIds)
      (right.recoverInterruptedSessions now offlineWorkerIds)
  appendEvent : ∀ type subjectId payload now,
    relation.rel (left.appendEvent type subjectId payload now)
      (right.appendEvent type subjectId payload now)
  listBlockedGpuResources :
    relation.rel left.listBlockedGpuResources right.listBlockedGpuResources
  listWorkers : relation.rel left.listWorkers right.listWorkers
  listActiveJobs : relation.rel left.listActiveJobs right.listActiveJobs
  listOccupyingSessions :
    relation.rel left.listOccupyingSessions right.listOccupyingSessions
  listQueuedJobs : relation.rel left.listQueuedJobs right.listQueuedJobs
  listRequestedSessions :
    relation.rel left.listRequestedSessions right.listRequestedSessions
  assignJob : ∀ jobId placement leaseId leaseExpiresAt now,
    relation.rel (left.assignJob jobId placement leaseId leaseExpiresAt now)
      (right.assignJob jobId placement leaseId leaseExpiresAt now)
  assignSession : ∀ sessionId placement leaseId leaseExpiresAt now,
    relation.rel
      (left.assignSession sessionId placement leaseId leaseExpiresAt now)
      (right.assignSession sessionId placement leaseId leaseExpiresAt now)

section Requests

variable {relation : TxRelation} {left right : Persistence}

theorem Persistence.Serves.lookupSubject
    (serves : left.Serves relation right) (input : BrokerRequest) :
    relation.rel (lookupSubject left input) (lookupSubject right input) := by
  unfold GpuLink.lookupSubject
  split
  · exact relation.bind (serves.getJob _) (fun _ => relation.done _)
  · exact relation.bind (serves.getSession _) (fun _ => relation.done _)

theorem Persistence.Serves.reserveBrokerBoundAttempt
    (serves : left.Serves relation right) (principal : BrokerProfile)
    (input : BrokerRequest) (now maxHeartbeatAgeMs : Int) :
    relation.rel
      (reserveBrokerBoundAttempt left principal input now maxHeartbeatAgeMs)
      (reserveBrokerBoundAttempt right principal input now
        maxHeartbeatAgeMs) := by
  refine relation.bind (serves.lookupSubject input) ?_
  intro stored
  cases stored with
  | none => exact relation.done _
  | some stored =>
      dsimp only
      split
      · split
        · exact relation.done _
        · split
          · exact relation.done _
          · refine relation.bind (serves.reserveExecutionAttempt _) ?_
            intro result
            split
            · exact relation.done _
            · exact relation.done _
      · exact relation.done _

/-- Related methods make related requests. -/
theorem Persistence.Serves.request (serves : left.Serves relation right)
    (leaseDurationMs : Int) (request : Service.Request) :
    relation.rel (request.code left leaseDurationMs)
      (request.code right leaseDurationMs) := by
  have logged : ∀ {α : Type} type subjectId payload now (result : α),
      relation.rel
        ((left.appendEvent type subjectId payload now).bind
          (fun _ => .done (.ok result)))
        ((right.appendEvent type subjectId payload now).bind
          (fun _ => .done (.ok result))) :=
    fun type subjectId payload now result =>
      relation.bind (serves.appendEvent type subjectId payload now)
        (fun _ => relation.done _)
  cases request with
  | registerWorker worker =>
      refine relation.bind (relation.bind (serves.upsertWorker worker) ?_)
        (fun _ => relation.done _)
      intro result
      exact logged _ _ _ _ _
  | heartbeatWorker workerId heartbeat =>
      refine relation.bind (relation.bind (serves.updateWorkerHeartbeat _ _) ?_)
        (fun _ => relation.done _)
      intro worker
      cases worker <;> exact relation.done _
  | setWorkerDrain workerId drain now =>
      refine relation.bind (relation.bind (serves.setWorkerDrain _ _ _) ?_)
        (fun _ => relation.done _)
      intro worker
      cases worker with
      | none => exact relation.done _
      | some worker => exact logged _ _ _ _ _
  | submitJob job =>
      refine relation.bind (relation.bind (serves.insertJob job) ?_)
        (fun _ => relation.done _)
      rintro ⟨stored, duplicate⟩
      cases duplicate with
      | true => exact relation.done _
      | false => exact logged _ _ _ _ _
  | submitSession session =>
      refine relation.bind (relation.bind (serves.insertSession session) ?_)
        (fun _ => relation.done _)
      rintro ⟨stored, duplicate⟩
      cases duplicate with
      | true => exact relation.done _
      | false => exact logged _ _ _ _ _
  | startSession sessionId lease now =>
      refine relation.bind (relation.bind (serves.startSession _ _ _ _ _) ?_)
        (fun _ => relation.done _)
      intro session
      cases session with
      | none => exact relation.done _
      | some session => exact logged _ _ _ _ _
  | activateSession sessionId lease now =>
      refine relation.bind (relation.bind (serves.activateSession _ _ _ _ _) ?_)
        (fun _ => relation.done _)
      intro session
      cases session with
      | none => exact relation.done _
      | some session => exact logged _ _ _ _ _
  | renewSession sessionId lease now =>
      refine relation.bind (relation.bind (serves.renewSession _ _ _ _ _) ?_)
        (fun _ => relation.done _)
      intro session
      cases session <;> exact relation.done _
  | closeSession sessionId now =>
      refine relation.bind (relation.bind (serves.getSession _) ?_)
        (fun _ => relation.done _)
      intro existing
      cases existing with
      | none => exact relation.done _
      | some existing =>
          refine relation.bind (serves.closeSession _ _) ?_
          intro closed
          cases closed with
          | none => exact relation.done _
          | some closed => exact logged _ _ _ _ _
  | startJob jobId lease now =>
      refine relation.bind (relation.bind (serves.startJob _ _ _ _ _) ?_)
        (fun _ => relation.done _)
      intro job
      cases job with
      | none => exact relation.done _
      | some job => exact logged _ _ _ _ _
  | renewJob jobId lease now =>
      refine relation.bind (relation.bind (serves.renewJob _ _ _ _ _) ?_)
        (fun _ => relation.done _)
      intro job
      cases job <;> exact relation.done _
  | finishJob jobId lease outcome result error now =>
      refine relation.bind (relation.bind (serves.finishJob _ _ _ _ _ _ _) ?_)
        (fun _ => relation.done _)
      intro stored
      cases stored with
      | none => exact relation.done _
      | some stored => exact logged _ _ _ _ _
  | cancelJob jobId now =>
      refine relation.bind (relation.bind (serves.getJob _) ?_)
        (fun _ => relation.done _)
      intro existing
      cases existing with
      | none => exact relation.done _
      | some existing =>
          refine relation.bind (serves.cancelJob _ _) ?_
          intro cancelled
          cases cancelled with
          | none => exact relation.done _
          | some cancelled => exact logged _ _ _ _ _
  | reserveAttempt claim =>
      exact relation.bind (serves.reserveExecutionAttempt claim)
        (fun _ => relation.done _)
  | reserveBrokerAttempt principal input now maxHeartbeatAgeMs =>
      exact relation.bind
        (serves.reserveBrokerBoundAttempt principal input now maxHeartbeatAgeMs)
        (fun _ => relation.done _)

end Requests

section Passes

variable {relation : TxRelation} {left right : Persistence}

open Scheduler

section Reports

variable (append : ∀ type subjectId payload now,
  relation.rel (left.appendEvent type subjectId payload now)
    (right.appendEvent type subjectId payload now))

include append

theorem reportStale_related (now : Int) (workerIds : List String) :
    relation.rel (reportStale left now workerIds)
      (reportStale right now workerIds) := by
  induction workerIds with
  | nil => exact relation.done _
  | cons workerId rest induction =>
      exact relation.bind (append _ _ _ _) (fun _ => induction)

theorem reportJobs_related (now : Int) (recoveries : List RecoveredJob) :
    relation.rel (reportJobs left now recoveries)
      (reportJobs right now recoveries) := by
  induction recoveries with
  | nil => exact relation.done _
  | cons recovery rest induction =>
      exact relation.bind (append _ _ _ _) (fun _ => induction)

theorem reportSessions_related (now : Int)
    (recoveries : List RecoveredSession) :
    relation.rel (reportSessions left now recoveries)
      (reportSessions right now recoveries) := by
  induction recoveries with
  | nil => exact relation.done _
  | cons recovery rest induction =>
      simp only [Scheduler.reportSessions]
      refine relation.bind (append _ _ _ _) (fun _ => ?_)
      split
      · exact relation.bind (append _ _ _ _) (fun _ => induction)
      · exact induction

end Reports

theorem Persistence.Schedules.assignEntry
    (schedules : left.Schedules relation right) (settings : SchedulerSettings)
    (now : Int) (leaseId : String) (placement : Placement)
    (entry : PendingEntry) :
    relation.rel (assignEntry left settings now leaseId placement entry)
      (assignEntry right settings now leaseId placement entry) := by
  cases entry with
  | job item =>
      refine relation.bind (schedules.assignJob _ _ _ _ _) ?_
      intro leasedJob
      cases leasedJob with
      | none => exact relation.done _
      | some leasedJob =>
          exact relation.bind (schedules.appendEvent _ _ _ _)
            (fun _ => relation.done _)
  | session item =>
      refine relation.bind (schedules.assignSession _ _ _ _ _) ?_
      intro allocated
      cases allocated with
      | none => exact relation.done _
      | some allocated =>
          exact relation.bind (schedules.appendEvent _ _ _ _)
            (fun _ => relation.done _)

theorem Persistence.Schedules.placePending
    (schedules : left.Schedules relation right) (settings : SchedulerSettings)
    (input : PassInput) (workers : List Worker) (blocked : List BlockedGpu)
    (pending : List PendingEntry) (drawn : Nat)
    (occupiedGpus : List NonEmptyString) :
    relation.rel
      (placePending left settings input workers blocked pending drawn
        occupiedGpus)
      (placePending right settings input workers blocked pending drawn
        occupiedGpus) := by
  induction pending generalizing drawn occupiedGpus with
  | nil => exact relation.done _
  | cons entry rest induction =>
      simp only [Scheduler.placePending]
      split
      · exact induction _ _
      · rename_i placement _
        refine relation.bind
          (schedules.assignEntry settings _ _ placement entry) ?_
        rintro ⟨placed, job⟩
        cases placed with
        | true =>
            exact relation.bind (induction _ _) (fun _ => relation.done _)
        | false => exact induction _ _

/-- Related methods make related passes. -/
theorem Persistence.Schedules.runOnce
    (schedules : left.Schedules relation right) (settings : SchedulerSettings)
    (input : PassInput) :
    relation.rel (runOnce left settings input)
      (runOnce right settings input) := by
  refine relation.bind schedules.tryAcquireSchedulerLock ?_
  intro acquired
  cases acquired with
  | false => exact relation.done _
  | true =>
      refine relation.bind (schedules.markStaleWorkersOffline _ _)
        (fun _ => ?_)
      refine relation.bind
        (reportStale_related schedules.appendEvent _ _) (fun _ => ?_)
      refine relation.bind (schedules.recoverExpiredJobs _ _) (fun _ => ?_)
      refine relation.bind
        (reportJobs_related schedules.appendEvent _ _) (fun _ => ?_)
      refine relation.bind (schedules.recoverInterruptedSessions _ _)
        (fun _ => ?_)
      refine relation.bind
        (reportSessions_related schedules.appendEvent _ _) (fun _ => ?_)
      refine relation.bind ?_ (fun _ => relation.done _)
      refine relation.bind schedules.listBlockedGpuResources (fun _ => ?_)
      refine relation.bind schedules.listWorkers (fun _ => ?_)
      refine relation.bind schedules.listActiveJobs (fun _ => ?_)
      refine relation.bind schedules.listOccupyingSessions (fun _ => ?_)
      refine relation.bind schedules.listQueuedJobs (fun _ => ?_)
      refine relation.bind schedules.listRequestedSessions (fun _ => ?_)
      exact schedules.placePending _ _ _ _ _ _ _

/-- Related methods make related transactions. -/
theorem Persistence.transaction_related (serves : left.Serves relation right)
    (schedules : left.Schedules relation right) (settings : SchedulerSettings)
    (work : Service.Transaction) :
    relation.rel (work.code left settings) (work.code right settings) := by
  cases work with
  | request request => exact serves.request _ request
  | pass input =>
      exact relation.bind (schedules.runOnce settings input)
        (fun _ => relation.done _)

end Passes

/-! ## The PostgreSQL engine -/

/-- The calls under which requests write. -/
def Call.ByRequest : Call → Prop
  | .registered | .heartbeat | .drainSet | .inserted | .started _
  | .activated _ | .renewed _ | .finished | .cancelled | .closed
  | .appended | .pruned | .reserved => True
  | .markedOffline | .assigned _ _ | .recovered => False

/-- The calls under which a pass writes. -/
def Call.ByPass : Call → Prop
  | .markedOffline | .assigned _ _ | .recovered | .appended | .pruned => True
  | .registered | .heartbeat | .drainSet | .inserted | .started _
  | .activated _ | .renewed _ | .finished | .cancelled | .closed
  | .reserved => False

/-- The calls that touch events only. -/
def Call.isEvent : Call → Prop
  | .appended | .pruned => True
  | _ => False

/-- The engine for requests that reserve nothing. -/
def Persistence.withoutReservations (transaction : Persistence) :
    Persistence :=
  { transaction with
    reserveExecutionAttempt := fun _ => throw .typeError }

theorem postgres_serves_unreserved (text : Collation) {allowed : Call → Prop}
    (permits : ∀ call, call.ByRequest → call ≠ .reserved → allowed call) :
    (postgres text).withoutReservations.Serves (.steady (Moved allowed))
      (postgres text).withoutReservations where
  upsertWorker := Postgres.upsertWorker_steady (permits _ trivial (by simp))
  updateWorkerHeartbeat :=
    Postgres.updateWorkerHeartbeat_steady (permits _ trivial (by simp))
  setWorkerDrain := Postgres.setWorkerDrain_steady (permits _ trivial (by simp))
  insertJob := Postgres.insertJob_steady (permits _ trivial (by simp))
  getJob _ := Program.Steady.bind moved_select (fun _ => trivial)
  startJob jobId workerId leaseId _ now :=
    Postgres.startJob_steady (permits _ trivial (by simp)) jobId workerId
      leaseId now
  renewJob jobId workerId leaseId _ now :=
    Postgres.renewJob_steady (permits _ trivial (by simp)) jobId workerId
      leaseId now
  finishJob := Postgres.finishJob_steady (permits _ trivial (by simp))
  cancelJob := Postgres.cancelJob_steady (permits _ trivial (by simp))
  insertSession := Postgres.insertSession_steady (permits _ trivial (by simp))
  getSession _ := Program.Steady.bind moved_select (fun _ => trivial)
  startSession sessionId workerId leaseId _ now :=
    Postgres.startSession_steady (permits _ trivial (by simp)) sessionId workerId
      leaseId now
  activateSession sessionId workerId leaseId _ now :=
    Postgres.activateSession_steady (permits _ trivial (by simp)) sessionId
      workerId leaseId now
  renewSession sessionId workerId leaseId _ now :=
    Postgres.renewSession_steady (permits _ trivial (by simp)) sessionId workerId
      leaseId now
  closeSession := Postgres.closeSession_steady (permits _ trivial (by simp))
  appendEvent := Postgres.appendEvent_steady (permits _ trivial (by simp))
    (permits _ trivial (by simp))
  reserveExecutionAttempt _ := trivial

theorem postgres_serves (text : Collation) {allowed : Call → Prop}
    (permits : ∀ call, call.ByRequest → allowed call) :
    (postgres text).Serves (.steady (Moved allowed)) (postgres text) :=
  { postgres_serves_unreserved text (fun call requested _ =>
      permits call requested) with
    reserveExecutionAttempt :=
      Postgres.reserveExecutionAttempt_steady (permits _ trivial) }

theorem postgres_schedules (text : Collation) {allowed : Call → Prop}
    (permits : ∀ call, call.ByPass → allowed call) :
    (postgres text).Schedules (.steady (Moved allowed)) (postgres text) where
  tryAcquireSchedulerLock _ := trivial
  markStaleWorkersOffline := Postgres.markStaleWorkersOffline_steady (permits _ trivial)
  recoverExpiredJobs := Postgres.recoverExpiredJobs_steady (permits _ trivial)
  recoverInterruptedSessions :=
    Postgres.recoverInterruptedSessions_steady (permits _ trivial)
  appendEvent := Postgres.appendEvent_steady (permits _ trivial) (permits _ trivial)
  listBlockedGpuResources := Postgres.listBlockedGpuResources_steady text
  listWorkers := Program.Steady.bind moved_select (fun _ => trivial)
  listActiveJobs := Program.Steady.bind moved_select (fun _ => trivial)
  listOccupyingSessions := Program.Steady.bind moved_select (fun _ => trivial)
  listQueuedJobs := Program.Steady.bind moved_select (fun _ => trivial)
  listRequestedSessions := Program.Steady.bind moved_select (fun _ => trivial)
  assignJob jobId placement _ _ now :=
    Postgres.assignJob_steady (permits _ trivial) jobId placement now
  assignSession sessionId placement _ _ now :=
    Postgres.assignSession_steady (permits _ trivial) sessionId placement now

end GpuLink
