import GpuLink.Store.Moves

/-!
# The moves of the PostgreSQL methods

Every statement of a method makes only moves that are noted under the method's
own call.
-/

namespace GpuLink

open Transactional Sql

namespace Postgres

section Methods

variable {allowed : Call → Prop}

/-! ## Workers -/

theorem row_of_workerByName {store : Store} {name : String} {row : WorkerRow}
    (found : store.workerByName name = some row) :
    store.workers.find? row.id = some row ∧ row.name = name := by
  refine ⟨KeyedTable.mem_rows_iff.mp (List.mem_of_find?_eq_some found), ?_⟩
  simpa using List.find?_some found

theorem upsertWorker_steady (permitted : allowed .registered)
    (worker : WorkerRegistration) :
    (postgresUpsertWorker worker).Steady (Moved allowed) := by
  refine Program.Steady.bind (steady_upsert permitted ?_ ?_) ?_
  · intro store _ untaken
    have absent : store.workers.find? worker.id = none := by
      simpa using untaken
    simp only [Write.key, Store.row?, absent]
    exact WorkerMove.registered rfl
  · intro store row found _
    obtain ⟨present, named⟩ := row_of_workerByName found
    simp only [Write.key, Store.row?, present]
    exact WorkerMove.registeredAgain row worker named
  · intro row
    cases row <;> trivial

theorem updateWorkerHeartbeat_steady (permitted : allowed .heartbeat)
    (workerId : String) (heartbeat : Heartbeat) :
    (postgresUpdateWorkerHeartbeat workerId heartbeat).Steady
      (Moved allowed) := by
  refine Program.Steady.bind (steady_update permitted ?_) (fun _ => trivial)
  intro store row found
  have sameId : row.id = workerId := KeyedTable.key_of_find? found
  simp only [Write.key, Store.row?, sameId, found]
  exact WorkerMove.heartbeat row heartbeat

theorem setWorkerDrain_steady (permitted : allowed .drainSet)
    (workerId : String) (drainMode : Bool) (now : Int) :
    (postgresSetWorkerDrain workerId drainMode now).Steady (Moved allowed) := by
  refine Program.Steady.bind (steady_update permitted ?_) (fun _ => trivial)
  intro store row found
  have sameId : row.id = workerId := KeyedTable.key_of_find? found
  simp only [Write.key, Store.row?, sameId, found]
  exact WorkerMove.drainSet row drainMode now

theorem markStaleWorkersOffline_steady (permitted : allowed .markedOffline)
    (staleBefore now : Int) :
    (postgresMarkStaleWorkersOffline staleBefore now).Steady
      (Moved allowed) := by
  refine Program.Steady.bind (steady_query ?_) (fun _ => trivial)
  intro input answer effect accepted
  cases accepted
  apply moved_writes permitted
  · exact selectWorkers_keys_nodup _ _ _
  · intro row member
    obtain ⟨listed, meets⟩ := Store.mem_selectWorkers.mp member
    simp only [Bool.and_eq_true, decide_eq_true_eq] at meets
    simp only [Write.key, Store.row?, KeyedTable.mem_rows_iff.mp listed]
    exact WorkerMove.markedOffline row now meets.1

/-! ## Jobs -/

theorem steady_updateJob {call : Call} {id : String} {guard : JobRow → Bool}
    {set : JobRow → JobRow} (permitted : allowed call)
    (sameId : ∀ row, (set row).id = row.id)
    (move : ∀ row, guard row → JobMove call (some row) (some (set row))) :
    (query (update .job (some call) (fun store => store.jobWhere id guard)
      set)).Steady (Moved allowed) := by
  apply steady_update permitted
  intro store row selected
  obtain ⟨found, meets⟩ := Store.jobWhere_eq_some.mp selected
  have atId : row.id = id := KeyedTable.key_of_find? found
  simp only [Write.key, Store.row?, sameId, atId, found]
  exact move row meets

theorem insertJob_steady (permitted : allowed .inserted) (job : JobRequest) :
    (postgresInsertJob job).Steady (Moved allowed) := by
  refine Program.Steady.bind
    (steady_insertUnlessKeyTaken permitted ?_) ?_
  · intro store untaken
    have absent : store.jobs.find? job.id = none := by simpa using untaken
    simp only [Write.key, Store.row?, absent]
    exact JobMove.inserted rfl rfl rfl rfl rfl rfl job.attemptsBounded.1
  · intro row
    cases row with
    | some row => trivial
    | none =>
        cases job.idempotencyKey with
        | none => trivial
        | some key =>
            refine Program.Steady.bind moved_select ?_
            intro existing
            cases existing <;> trivial

theorem assignJob_steady {leaseId : String} {leaseExpiresAt : Int}
    (permitted : allowed (.assigned leaseId leaseExpiresAt)) (jobId : String)
    (placement : Placement) (now : Int) :
    (postgresAssignJob jobId placement leaseId leaseExpiresAt now).Steady
      (Moved allowed) := by
  refine Program.Steady.bind (steady_referencing
    (steady_updateJob permitted (fun _ => rfl) ?_)) (fun _ => trivial)
  intro row meets
  exact JobMove.assigned row placement leaseId leaseExpiresAt now
    (by simpa using meets)

theorem startJob_steady {leaseExpiresAt : Int}
    (permitted : allowed (.started leaseExpiresAt))
    (jobId workerId leaseId : String) (now : Int) :
    (postgresStartJob jobId workerId leaseId leaseExpiresAt now).Steady
      (Moved allowed) := by
  refine Program.Steady.bind (steady_updateJob permitted (fun _ => rfl) ?_)
    (fun _ => trivial)
  intro row meets
  simp only [Bool.and_eq_true, decide_eq_true_eq] at meets
  exact JobMove.started row workerId leaseId leaseExpiresAt now meets.1 meets.2

theorem renewJob_steady {leaseExpiresAt : Int}
    (permitted : allowed (.renewed leaseExpiresAt))
    (jobId workerId leaseId : String) (now : Int) :
    (postgresRenewJob jobId workerId leaseId leaseExpiresAt now).Steady
      (Moved allowed) := by
  refine Program.Steady.bind (steady_updateJob permitted (fun _ => rfl) ?_)
    (fun _ => trivial)
  intro row meets
  simp only [Bool.and_eq_true, decide_eq_true_eq] at meets
  exact JobMove.renewed row workerId leaseId leaseExpiresAt now meets.1 meets.2

theorem finishJob_steady (permitted : allowed .finished)
    (jobId workerId leaseId : String) (outcome : Outcome) (result error : Json)
    (now : Int) :
    (postgresFinishJob jobId workerId leaseId outcome result error now).Steady
      (Moved allowed) := by
  refine Program.Steady.bind (steady_updateJob permitted (fun _ => rfl) ?_)
    (fun _ => trivial)
  intro row meets
  simp only [Bool.and_eq_true] at meets
  exact JobMove.finished row workerId leaseId outcome _ _ now meets.1 meets.2

theorem cancelJob_steady (permitted : allowed .cancelled) (jobId : String)
    (now : Int) :
    (postgresCancelJob jobId now).Steady (Moved allowed) :=
  Program.Steady.bind (steady_updateJob permitted (fun _ => rfl)
    (fun row meets => JobMove.cancelled row now meets)) (fun _ => trivial)

theorem recoverExpiredJobs_steady (permitted : allowed .recovered) (now : Int)
    (offlineWorkerIds : List String) :
    (postgresRecoverExpiredJobs now offlineWorkerIds).Steady
      (Moved allowed) := by
  refine Program.Steady.bind (steady_query ?_) (fun _ => trivial)
  intro input answer effect accepted
  cases accepted
  apply moved_writes permitted
  · exact selectJobs_keys_nodup _ _ _
  · intro row member
    obtain ⟨listed, meets⟩ := Store.mem_selectJobs.mp member
    simp only [Bool.and_eq_true] at meets
    simp only [Write.key, Store.row?, KeyedTable.mem_rows_iff.mp listed]
    exact JobMove.recovered row _ now meets.1

/-! ## Sessions -/

theorem steady_updateSession {call : Call} {id : String}
    {guard : SessionRow → Bool} {set : SessionRow → SessionRow}
    (permitted : allowed call) (sameId : ∀ row, (set row).id = row.id)
    (move : ∀ row, guard row → SessionMove call (some row) (some (set row))) :
    (query (update .session (some call)
      (fun store => store.sessionWhere id guard) set)).Steady
      (Moved allowed) := by
  apply steady_update permitted
  intro store row selected
  obtain ⟨found, meets⟩ := Store.sessionWhere_eq_some.mp selected
  have atId : row.id = id := KeyedTable.key_of_find? found
  simp only [Write.key, Store.row?, sameId, atId, found]
  exact move row meets

theorem insertSession_steady (permitted : allowed .inserted)
    (session : SessionRequest) :
    (postgresInsertSession session).Steady (Moved allowed) := by
  refine Program.Steady.bind
    (steady_insertUnlessKeyTaken permitted ?_) ?_
  · intro store untaken
    have absent : store.sessions.find? session.id = none := by
      simpa using untaken
    simp only [Write.key, Store.row?, absent]
    exact SessionMove.inserted rfl rfl rfl rfl rfl rfl
  · intro row
    cases row with
    | some row => trivial
    | none =>
        cases session.idempotencyKey with
        | none => trivial
        | some key =>
            refine Program.Steady.bind moved_select ?_
            intro existing
            cases existing <;> trivial

theorem assignSession_steady {leaseId : String} {leaseExpiresAt : Int}
    (permitted : allowed (.assigned leaseId leaseExpiresAt))
    (sessionId : String) (placement : Placement) (now : Int) :
    (postgresAssignSession sessionId placement leaseId leaseExpiresAt
      now).Steady (Moved allowed) := by
  refine Program.Steady.bind (steady_referencing
    (steady_updateSession permitted (fun _ => rfl) ?_)) (fun _ => trivial)
  intro row meets
  exact SessionMove.assigned row placement leaseId leaseExpiresAt now
    (by simpa using meets)

theorem startSession_steady {leaseExpiresAt : Int}
    (permitted : allowed (.started leaseExpiresAt))
    (sessionId workerId leaseId : String) (now : Int) :
    (postgresStartSession sessionId workerId leaseId leaseExpiresAt
      now).Steady (Moved allowed) := by
  refine Program.Steady.bind (steady_updateSession permitted (fun _ => rfl) ?_)
    (fun _ => trivial)
  intro row meets
  simp only [Bool.and_eq_true, decide_eq_true_eq] at meets
  exact SessionMove.started row workerId leaseId leaseExpiresAt now meets.1
    meets.2

theorem activateSession_steady {leaseExpiresAt : Int}
    (permitted : allowed (.activated leaseExpiresAt))
    (sessionId workerId leaseId : String) (now : Int) :
    (postgresActivateSession sessionId workerId leaseId leaseExpiresAt
      now).Steady (Moved allowed) := by
  refine Program.Steady.bind (steady_updateSession permitted (fun _ => rfl) ?_)
    (fun _ => trivial)
  intro row meets
  simp only [Bool.and_eq_true, decide_eq_true_eq] at meets
  exact SessionMove.activated row workerId leaseId leaseExpiresAt now meets.1
    meets.2

theorem renewSession_steady {leaseExpiresAt : Int}
    (permitted : allowed (.renewed leaseExpiresAt))
    (sessionId workerId leaseId : String) (now : Int) :
    (postgresRenewSession sessionId workerId leaseId leaseExpiresAt
      now).Steady (Moved allowed) := by
  refine Program.Steady.bind (steady_updateSession permitted (fun _ => rfl) ?_)
    (fun _ => trivial)
  intro row meets
  simp only [Bool.and_eq_true] at meets
  exact SessionMove.renewed row workerId leaseId leaseExpiresAt now meets.1
    meets.2

theorem closeSession_steady (permitted : allowed .closed) (sessionId : String)
    (now : Int) :
    (postgresCloseSession sessionId now).Steady (Moved allowed) :=
  Program.Steady.bind (steady_updateSession permitted (fun _ => rfl)
    (fun row meets => SessionMove.closed row now meets)) (fun _ => trivial)

theorem recoverInterruptedSessions_steady (permitted : allowed .recovered)
    (now : Int) (offlineWorkerIds : List String) :
    (postgresRecoverInterruptedSessions now offlineWorkerIds).Steady
      (Moved allowed) := by
  refine Program.Steady.bind (steady_query ?_) (fun _ => trivial)
  intro input answer effect accepted
  cases accepted
  apply moved_writes permitted
  · exact selectSessions_keys_nodup _ _ _
  · intro row member
    obtain ⟨listed, meets⟩ := Store.mem_selectSessions.mp member
    simp only [Bool.and_eq_true] at meets
    simp only [Write.key, Store.row?, KeyedTable.mem_rows_iff.mp listed]
    exact SessionMove.recovered row now meets.1

/-! ## Events -/

theorem insertEvent_steady (permitted : allowed .appended) (type : String)
    (subjectId : Option String) (payload : Json) (now : Int) :
    (query (insertEvent type subjectId payload now)).Steady
      (Moved allowed) := by
  apply steady_query
  intro input answer effect accepted
  cases accepted
  exact moved_write permitted (EventMove.appended _ _)

theorem pruneEvents_steady (permitted : allowed .pruned) :
    (query pruneEvents).Steady (Moved allowed) := by
  apply steady_query
  intro input answer effect accepted
  cases accepted
  -- a deletion is the write of an event row's key with nothing left there
  refine @moved_writes allowed EventRow (fun row => .deleteEvent row.sequence)
    .pruned _ id input.view permitted ?_ ?_
  · have keys := input.view.events.distinct.map
      (fun _ _ same => RowKey.event.inj same)
    rw [List.map_map] at keys
    exact (List.filter_sublist.map _).nodup keys
  · intro row member
    have listed : row ∈ input.view.events.rows := List.mem_of_mem_filter member
    simp only [id_eq, Write.key, Store.row?, KeyedTable.mem_rows_iff.mp listed]
    exact EventMove.pruned row

theorem appendEvent_steady (appended : allowed .appended)
    (pruned : allowed .pruned) (type : String) (subjectId : Option String)
    (payload : Json) (now : Int) :
    (postgresAppendEvent type subjectId payload now).Steady (Moved allowed) :=
  Program.Steady.bind (insertEvent_steady appended type subjectId payload now)
    (fun _ => Program.Steady.bind (pruneEvents_steady pruned)
      (fun _ => Program.Steady.bind moved_select (fun _ => trivial)))

/-! ## Execution attempts -/

theorem steady_lock {ρ : Type} {wrap : ρ → RowWrite}
    {found : Store → Option ρ}
    (present : ∀ (store : Store) (row : ρ), found store = some row →
      store.row? (Write.key ⟨wrap row, none⟩) = Write.left ⟨wrap row, none⟩) :
    (query (selectForUpdate wrap found)).Steady (Moved allowed) := by
  apply steady_query
  intro input answer effect accepted
  unfold selectForUpdate update at accepted
  split at accepted
  · cases accepted
    exact Moved.refl _
  · rename_i row selected
    cases accepted
    have unchanged : RowStore.apply input.view (⟨wrap row, none⟩ : Write) =
        input.view := apply_lock (present input.view row selected)
    simp only [id_eq, applyAll_cons, applyAll_nil, unchanged]
    exact Moved.refl _

theorem listBlockedGpuResources_steady (text : Collation) :
    (postgresListBlockedGpuResources text).Steady (Moved allowed) := by
  refine Program.Steady.bind (steady_query ?_) (fun _ => trivial)
  intro input answer effect accepted
  cases accepted
  simp only [id_eq]
  rw [applyAll_locks]
  · exact Moved.refl _
  · intro row member
    have listed : row ∈ input.view.fences.rows :=
      List.mem_of_mem_filter (mem_orderBy.mp member)
    exact KeyedTable.mem_rows_iff.mp listed

theorem reserveFence_steady (permitted : allowed .reserved)
    (claim : ExecutionClaim) :
    (query (postgresReserveFence claim)).Steady (Moved allowed) := by
  apply steady_referencing
  apply steady_upsert permitted
  · intro store absent _
    simp only [Write.key, Store.row?, absent]
    exact FenceMove.raised rfl rfl
  · intro store row found meets
    have atKey : (row.workerId, row.gpuUuid) = (claim.workerId, claim.gpuUuid) :=
      @KeyedTable.key_of_find? _ _ _ _ store.fences _ _ found
    obtain ⟨atWorker, atGpu⟩ := Prod.mk.inj atKey
    simp only [Write.key, Store.row?, atWorker, atGpu, found]
    exact FenceMove.reserved row claim (by simpa using meets)

theorem insertAttempt_steady (permitted : allowed .reserved)
    (claim : ExecutionClaim) (projectId : String) (fenceEpoch : Nat) :
    (query (postgresInsertAttempt claim projectId fenceEpoch)).Steady
      (Moved allowed) := by
  apply steady_insert permitted
  intro store untaken
  simp only [Bool.or_eq_false_iff] at untaken
  have absent : store.attempts.find? claim.attemptId = none := by
    simpa using untaken.1
  simp only [Write.key, Store.row?, absent]
  exact AttemptMove.inserted rfl

theorem lockOwner_steady (claim : ExecutionClaim) :
    (lockOwner claim).Steady (Moved allowed) := by
  unfold lockOwner
  split
  · refine Program.Steady.bind (steady_lock ?_) (fun _ => trivial)
    intro store row found
    have atId : row.id = claim.subjectId := KeyedTable.key_of_find? found
    simp only [Write.key, Store.row?, Write.left, atId, found]
    rfl
  · refine Program.Steady.bind (steady_lock ?_) (fun _ => trivial)
    intro store row found
    have atId : row.id = claim.subjectId := KeyedTable.key_of_find? found
    simp only [Write.key, Store.row?, Write.left, atId, found]
    rfl

theorem reserveExecutionAttempt_steady (permitted : allowed .reserved)
    (claim : ExecutionClaim) :
    (postgresReserveExecutionAttempt claim).Steady (Moved allowed) := by
  refine Program.Steady.bind (fun _ => trivial) ?_
  intro acquired
  cases acquired with
  | false => trivial
  | true =>
      refine Program.Steady.bind (steady_lock ?_) ?_
      · intro store row found
        have atId : row.id = claim.workerId := KeyedTable.key_of_find? found
        simp only [Write.key, Store.row?, Write.left, atId, found]
        rfl
      intro worker
      refine Program.Steady.bind (lockOwner_steady claim) ?_
      intro workload
      cases validateCurrentExecutionOwner claim worker workload with
      | error denial => trivial
      | ok owner =>
          refine Program.Steady.bind moved_select ?_
          intro conflict
          cases conflict with
          | true => trivial
          | false =>
              refine Program.Steady.bind (reserveFence_steady permitted claim) ?_
              intro row
              cases row with
              | none => trivial
              | some fence =>
                  exact Program.Steady.bind
                    (insertAttempt_steady permitted claim _ _)
                    (fun _ => trivial)

end Methods

end Postgres

end GpuLink
