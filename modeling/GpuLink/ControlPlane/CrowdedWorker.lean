import GpuLink.ControlPlane.Runs

/-!
# A worker with a long history

Cancelled jobs keep the worker they were placed on.  One job holds a GPU of a
worker while any number of later jobs are placed on its other GPU and
cancelled, one after the other.
-/

namespace GpuLink

open Transactional Sql

def crowdedWorker : WorkerRegistration :=
  { sampleWorker with
    gpus := [sampleGpu, { sampleGpu with uuid := ⟨"GPU-1", by decide⟩ }] }

/-- The worker's first job holds one of its two GPUs. -/
def crowdedStart : List Service.Transaction :=
  [.request (.registerWorker crowdedWorker),
    .request (.submitJob (sampleJob "job_1" 1001)), .pass samplePass]

def quietPass : PassInput where
  now := 2000
  leaseIds _ := "lease_2"

/-- A job that waits until the worker's first job has run for a while. -/
def pendingRow (id : String) : JobRow where
  id := id
  projectId := "project"
  type := "cuda"
  priority := 0
  status := .queued
  gpuCount := 1
  minVramMiB := 1
  requiredCapabilities := ["cuda"]
  requestedModel := none
  payload := .object []
  result := none
  error := none
  assignedWorkerId := none
  assignedGpuUuid := none
  leaseId := none
  leaseExpiresAt := none
  attempt := 0
  maxAttempts := 3
  idempotencyKey := none
  createdAt := 2000
  updatedAt := 2000

def placedRow (id : String) : JobRow :=
  { pendingRow id with
    status := .leased
    assignedWorkerId := some "worker_1"
    assignedGpuUuid := some ⟨"GPU-1", by decide⟩
    leaseId := some "lease_2"
    leaseExpiresAt := some 32000
    attempt := 1 }

def spentRow (id : String) : JobRow :=
  { placedRow id with status := .cancelled, leaseExpiresAt := none }

/-- The tables of the start, with more jobs after its own. -/
structure Crowded (more : List JobRow) (store : Store) : Prop where
  workers : store.workers = (Database.State.after crowdedStart).1.workers
  sessions : store.sessions = (Database.State.after crowdedStart).1.sessions
  fences : store.fences = (Database.State.after crowdedStart).1.fences
  jobs : store.jobs.rows =
    (Database.State.after crowdedStart).1.jobs.rows ++ more

theorem Crowded.of_events {more : List JobRow} {store later : Store}
    (crowded : Crowded more store)
    (workers : later.workers = store.workers) (jobs : later.jobs = store.jobs)
    (sessions : later.sessions = store.sessions)
    (fences : later.fences = store.fences) : Crowded more later where
  workers := workers.trans crowded.workers
  sessions := sessions.trans crowded.sessions
  fences := fences.trans crowded.fences
  jobs := by rw [jobs, crowded.jobs]

theorem Crowded.deleteEvents {more : List JobRow} {store : Store}
    (crowded : Crowded more store) (stale : List EventRow) :
    Crowded more (applyAll store (stale.map
      (fun row => (⟨.deleteEvent row.sequence, some .pruned⟩ : Write)))) := by
  induction stale generalizing store with
  | nil => exact crowded
  | cons row rest induction =>
      exact induction (crowded.of_events rfl rfl rfl rfl)

theorem appendEvent_crowded {more : List JobRow} {store : Store}
    (crowded : Crowded more store) (sequence : Nat) (type : String)
    (subjectId : Option String) (payload : Json) (now : Int) :
    ∃ event final last,
      (sqlite.appendEvent type subjectId payload now).Runs store sequence
        (.ok event) final last ∧ Crowded more final := by
  refine ⟨_, _, _, Program.Runs.bind (Program.Runs.statement Scan.stored rfl)
    (Program.Runs.bind (Program.Runs.statement Scan.stored rfl)
      (.done _ _ _)), ?_⟩
  refine Crowded.deleteEvents ?_ _
  exact crowded.of_events rfl rfl rfl rfl

/-- What a call computes is a run of it. -/
theorem runs_of_runAlone {α : Type} {code : Tx α} {store final : Store}
    {sequence last : Nat} {answer : α}
    (alone : code.runAlone Scan.stored store sequence =
      (.ok answer, final, last)) :
    code.Runs store sequence (.ok answer) final last := by
  have run := Program.runs_runAlone Scan.stored code store sequence
  rwa [alone] at run

/-- No job of the store has the identifier. -/
def Unused (more : List JobRow) (id : String) : Prop :=
  ∀ row ∈ (Database.State.after crowdedStart).1.jobs.rows ++ more, row.id ≠ id

theorem Crowded.find?_unused {more : List JobRow} {store : Store} {id : String}
    (crowded : Crowded more store) (unused : Unused more id) :
    store.jobs.find? id = none := by
  rw [KeyedTable.find?, crowded.jobs]
  exact List.find?_eq_none.mpr (fun row member => by
    simpa using unused row member)

theorem Crowded.find?_last {more : List JobRow} {store : Store} {row : JobRow}
    (crowded : Crowded (more ++ [row]) store) (unused : Unused more row.id) :
    store.jobs.find? row.id = some row := by
  rw [KeyedTable.find?, crowded.jobs, ← List.append_assoc]
  exact KeyedTable.find?_append_last unused

theorem Crowded.put_unused {more : List JobRow} {store : Store}
    (crowded : Crowded more store) (row : JobRow) (unused : Unused more row.id)
    (call : Option Call) :
    Crowded (more ++ [row]) (store.apply ⟨.job row, call⟩) := by
  refine ⟨crowded.workers, crowded.sessions, crowded.fences, ?_⟩
  have put := KeyedTable.putRows_append unused []
  simpa [Store.apply, KeyedTable.put, crowded.jobs, KeyedTable.putRows] using put

theorem Crowded.put_last {more : List JobRow} {store : Store}
    {old : JobRow} (crowded : Crowded (more ++ [old]) store) (row : JobRow)
    (unused : Unused more row.id) (same : old.id = row.id)
    (call : Option Call) :
    Crowded (more ++ [row]) (store.apply ⟨.job row, call⟩) := by
  refine ⟨crowded.workers, crowded.sessions, crowded.fences, ?_⟩
  have put := KeyedTable.putRows_append unused [old]
  simpa [Store.apply, KeyedTable.put, crowded.jobs, KeyedTable.putRows, same]
    using put

theorem submitJob_crowded {more : List JobRow} {store : Store} {id : String}
    (crowded : Crowded more store) (unused : Unused more id)
    (sequence : Nat) :
    ∃ answer final last,
      (Service.submitJob sqlite (sampleJob id 2000)).Runs store sequence
        (.ok answer) final last ∧
      Crowded (more ++ [pendingRow id]) final := by
  have inserted : (sqlite.insertJob (sampleJob id 2000)).Runs store sequence
      (.ok ⟨Database.mapJob (pendingRow id), false⟩)
      (store.apply ⟨.job (pendingRow id), some .inserted⟩) sequence := by
    apply runs_of_runAlone
    have absent := crowded.find?_unused unused
    simp [sqlite, Database.insertJob, query, Program.statement, Program.bind,
      Program.runAlone, attempt, Sql.insert, sampleJob, absent, Store.jobKeyTaken,
      pendingRow]
    rfl
  obtain ⟨event, final, last, appended, later⟩ :=
    appendEvent_crowded (crowded.put_unused (pendingRow id) unused
      (some .inserted)) sequence
      "job.queued" (some id) _ 2000
  exact ⟨_, final, last, Program.Runs.bind inserted
    (Program.Runs.bind appended (.done _ _ _)), later⟩

theorem cancelJob_crowded {more : List JobRow} {store : Store} {id : String}
    (crowded : Crowded (more ++ [placedRow id]) store)
    (unused : Unused more id) (sequence : Nat) :
    ∃ answer final last,
      (Service.cancelJob sqlite id 2000).Runs store sequence
        (.ok answer) final last ∧
      Crowded (more ++ [spentRow id]) final := by
  have found : store.jobs.find? id = some (placedRow id) :=
    crowded.find?_last unused
  have read : (sqlite.getJob id).Runs store sequence
      (.ok (some (Database.mapJob (placedRow id)))) store sequence := by
    apply runs_of_runAlone
    simp [sqlite, Database.getJob, query, Program.statement, Program.bind,
      Program.runAlone, select, found]
  have cancelled : (sqlite.cancelJob id 2000).Runs store sequence
      (.ok (some (Database.mapJob (spentRow id))))
      (store.apply ⟨.job (spentRow id), some .cancelled⟩) sequence := by
    apply runs_of_runAlone
    have selected : store.jobWhere id (fun row =>
        row.status = .queued || row.isActive) = some (placedRow id) := by
      simp [Store.jobWhere, found, placedRow, JobRow.isActive]
    simp only [sqlite, Database.cancelJob, query, Program.statement,
      Program.bind_eq, Program.bind, Program.runAlone, update, selected]
    rfl
  obtain ⟨event, final, last, appended, later⟩ :=
    appendEvent_crowded (crowded.put_last (spentRow id) unused rfl
      (some .cancelled)) sequence "job.cancelled" (some id) (.object []) 2000
  exact ⟨_, final, last, Program.Runs.bind read (Program.Runs.bind cancelled
    (Program.Runs.bind appended (.done _ _ _))), later⟩

theorem Crowded.selectJobs {more : List JobRow} {store : Store}
    (crowded : Crowded more store) (guard : JobRow → Bool) :
    store.selectJobs Scan.stored guard =
      (Database.State.after crowdedStart).1.jobs.rows.filter guard ++
        more.filter guard := by
  rw [Store.selectJobs, ← List.filter_append, ← crowded.jobs]
  rfl

/-- The one GPU that the first job leaves is chosen. -/
theorem crowded_placement :
    choosePlacement sampleSettings.locale
      (Database.mapJob (pendingRow "")).demand
      ((Database.State.after crowdedStart).1.workers.rows.map
        Database.mapWorker)
      (Scheduler.occupiedGpus ((Database.State.after crowdedStart).1.jobs.rows.map
        Database.mapJob) [])
      { now := 2000
        heartbeatTimeoutMs := sampleSettings.heartbeatTimeoutMs
        vramSafetyMiB := sampleSettings.vramSafetyMiB
        blockedGpuResources := [] } =
      some ⟨"worker_1", ⟨"GPU-1", by decide⟩⟩ := by
  decide +kernel

/-- What is true of the rows that the worker starts with. -/
theorem crowdedStart_jobs : ∀ row ∈ (Database.State.after crowdedStart).1.jobs.rows,
    row.isActive ∧ row.status ≠ .queued ∧ row.leaseExpiresAt = some 31002 ∧
      row.assignedWorkerId = some "worker_1" ∧ row.createdAt = 1001 ∧
      row.id = "job_1" := by
  decide +kernel

theorem pass_crowded {more : List JobRow} {store : Store} {id : String}
    (crowded : Crowded (more ++ [pendingRow id]) store)
    (unused : Unused more id) (spent : ∀ row ∈ more, row.status = .cancelled)
    (sequence : Nat) :
    ∃ answer final last,
      (Scheduler.runOnce sqlite sampleSettings quietPass).Runs store sequence
        (.ok answer) final last ∧
      Crowded (more ++ [placedRow id]) final := by
  have sessions : store.sessions.rows = [] := by
    rw [crowded.sessions]
    rfl
  have fences : store.fences.rows = [] := by
    rw [crowded.fences]
    rfl
  have marked : (sqlite.markStaleWorkersOffline
      (quietPass.now - sampleSettings.heartbeatTimeoutMs) quietPass.now).Runs
      store sequence (.ok []) store sequence := by
    apply runs_of_runAlone
    have none : store.selectWorkers Scan.stored (fun row =>
        row.status = .online && row.lastSeenAt <
          quietPass.now - sampleSettings.heartbeatTimeoutMs) = [] := by
      rw [Store.selectWorkers, crowded.workers]
      decide +kernel
    simp [sqlite, Database.markStaleWorkersOffline, query, Program.statement,
      Program.bind, Program.runAlone, updateAll, none]
  have activeRows : store.selectJobs Scan.stored JobRow.isActive =
      (Database.State.after crowdedStart).1.jobs.rows := by
    rw [crowded.selectJobs, List.filter_append,
      List.filter_eq_self.mpr (fun row member =>
        (crowdedStart_jobs row member).1),
      List.filter_eq_nil_iff.mpr (fun row member => by
        simp [JobRow.isActive, spent row member])]
    simp [JobRow.isActive, pendingRow]
  have active : sqlite.listActiveJobs.Runs store sequence
      (.ok ((Database.State.after crowdedStart).1.jobs.rows.map Database.mapJob))
      store sequence := by
    rw [← activeRows]
    exact .exec Scan.stored rfl (.done _ _ _)
  have queuedRows : store.selectJobs Scan.stored
      (fun row => row.status = .queued) = [pendingRow id] := by
    rw [crowded.selectJobs, List.filter_append,
      List.filter_eq_nil_iff.mpr (fun row member => by
        simp [(crowdedStart_jobs row member).2.1]),
      List.filter_eq_nil_iff.mpr (fun row member => by
        simp [spent row member])]
    simp [pendingRow]
  have queued : sqlite.listQueuedJobs.Runs store sequence
      (.ok [Database.mapJob (pendingRow id)]) store sequence := by
    have sorted : (orderBy (fun left right => queueOrder Collation.binary
        (left.priority, left.createdAt, left.id)
        (right.priority, right.createdAt, right.id))
      (store.selectJobs Scan.stored (fun row => row.status = .queued))) =
        [pendingRow id] := by
      rw [queuedRows]
      rfl
    have read : sqlite.listQueuedJobs.Runs store sequence
        (.ok ((orderBy (fun left right => queueOrder Collation.binary
          (left.priority, left.createdAt, left.id)
          (right.priority, right.createdAt, right.id))
        (store.selectJobs Scan.stored (fun row => row.status = .queued))).map
          Database.mapJob)) store sequence :=
      .exec Scan.stored rfl (.done _ _ _)
    rwa [sorted] at read
  have assigned : (sqlite.assignJob id ⟨"worker_1", ⟨"GPU-1", by decide⟩⟩
      "lease_2" 32000 2000).Runs store sequence
      (.ok (some (Database.mapJob (placedRow id))))
      (store.apply ⟨.job (placedRow id), some (.assigned "lease_2" 32000)⟩)
      sequence := by
    apply runs_of_runAlone
    have found : store.jobs.find? id = some (pendingRow id) :=
      crowded.find?_last unused
    have selected : store.jobWhere id (fun row => row.status = .queued) =
        some (pendingRow id) := by
      simp [Store.jobWhere, found, pendingRow]
    have worker : (store.workers.find? "worker_1").isSome := by
      rw [crowded.workers]
      decide +kernel
    simp only [sqlite, Database.assignJob, query, Program.statement,
      Program.bind_eq, Program.bind, Program.runAlone, referencing, update,
      selected, worker]
    rfl
  have spared : ((Database.State.after crowdedStart).1.jobs.rows.map
      Database.mapJob).filter (fun job =>
        Database.leaseOver 2000 job.leaseExpiresAt ||
          Database.offlineHas [] job.assignedWorkerId) = [] := by
    decide +kernel
  have recovered : (sqlite.recoverExpiredJobs 2000 []).Runs store sequence
      (.ok []) store sequence := by
    refine Program.Runs.bind active ?_
    simp only [spared]
    exact .done _ _ _
  have occupying : sqlite.listOccupyingSessions.Runs store sequence (.ok [])
      store sequence := by
    apply runs_of_runAlone
    simp [sqlite, Database.listOccupyingSessions, query, Program.statement,
      Program.bind, Program.runAlone, select, Store.selectSessions, Scan.stored,
      sessions, orderBy]
  have requested : sqlite.listRequestedSessions.Runs store sequence (.ok [])
      store sequence := by
    apply runs_of_runAlone
    simp [sqlite, Database.listRequestedSessions, query, Program.statement,
      Program.bind, Program.runAlone, select, Store.selectSessions, Scan.stored,
      sessions, orderBy]
  have blocked : sqlite.listBlockedGpuResources.Runs store sequence (.ok [])
      store sequence := by
    apply runs_of_runAlone
    simp [sqlite, Database.listBlockedGpuResources, query, Program.statement,
      Program.bind, Program.runAlone, select, fences, orderBy]
  have workers : sqlite.listWorkers.Runs store sequence
      (.ok ((Database.State.after crowdedStart).1.workers.rows.map
        Database.mapWorker)) store sequence := by
    have sorted : orderBy (fun left right : WorkerRow =>
        Collation.binary.le left.name right.name)
        (store.selectWorkers Scan.stored (fun _ => true)) =
          (Database.State.after crowdedStart).1.workers.rows := by
      rw [Store.selectWorkers, crowded.workers]
      rfl
    rw [← sorted]
    exact .exec Scan.stored rfl (.done _ _ _)
  obtain ⟨event, final, last, appended, later⟩ :=
    appendEvent_crowded (crowded.put_last (placedRow id) unused rfl
      (some (.assigned "lease_2" 32000))) sequence "job.leased" (some id)
      (.object [("workerId", .string "worker_1"), ("gpuUuid", .string "GPU-1"),
        ("attempt", .nat 1)]) 2000
  have placed : (Scheduler.place sqlite sampleSettings quietPass).Runs store
      sequence (.ok [Database.mapJob (placedRow id)]) final last := by
    refine Program.Runs.bind blocked (Program.Runs.bind workers
      (Program.Runs.bind active (Program.Runs.bind occupying
        (Program.Runs.bind queued (Program.Runs.bind requested ?_)))))
    have entered : (Scheduler.assignEntry sqlite sampleSettings 2000 "lease_2"
        ⟨"worker_1", ⟨"GPU-1", by decide⟩⟩
        (.job (Database.mapJob (pendingRow id)))).Runs store sequence
        (.ok (true, some (Database.mapJob (placedRow id)))) final last :=
      Program.Runs.bind assigned (Program.Runs.bind appended (.done _ _ _))
    have chosen := crowded_placement
    change (Scheduler.placePending sqlite sampleSettings quietPass _ []
      [.job (Database.mapJob (pendingRow id))] 0 _).Runs _ _ _ _ _
    rw [Scheduler.placePending]
    change choosePlacement sampleSettings.locale (PendingEntry.job
      (Database.mapJob (pendingRow id))).demand _ _ _ = _ at chosen
    simp only [quietPass] at chosen ⊢
    rw [chosen]
    exact Program.Runs.bind entered (Program.Runs.bind (.done _ _ _)
      (.done _ _ _))
  have interrupted : (sqlite.recoverInterruptedSessions 2000 []).Runs store
      sequence (.ok []) store sequence :=
    Program.Runs.bind occupying (.done _ _ _)
  have locked : (Scheduler.lockedPass sqlite sampleSettings quietPass).Runs
      store sequence (.ok _) final last :=
    Program.Runs.bind marked <| Program.Runs.bind (.done _ _ _) <|
      Program.Runs.bind recovered <| Program.Runs.bind (.done _ _ _) <|
      Program.Runs.bind interrupted <| Program.Runs.bind (.done _ _ _) <|
      Program.Runs.bind placed (.done _ _ _)
  exact ⟨_, final, last, Program.Runs.bind (.done _ _ _) locked, later⟩

/-- Identifiers of different lengths. -/
def crowdId (index : Nat) : String :=
  String.ofList (List.replicate (index + 6) 'j')

theorem crowdId_length (index : Nat) : (crowdId index).length = index + 6 := by
  simp [crowdId]

/-- The jobs that were placed on the worker and cancelled there. -/
def spentRows (count : Nat) : List JobRow :=
  (List.range count).map (fun index => spentRow (crowdId index))

theorem crowdId_ne_start (index : Nat) : crowdId index ≠ "job_1" := by
  intro same
  have length := congrArg String.length same
  rw [crowdId_length] at length
  have five : ("job_1" : String).length = 5 := rfl
  omega

theorem unused_crowdId (count : Nat) : Unused (spentRows count) (crowdId count) := by
  intro row member same
  rcases List.mem_append.mp member with first | later
  · rw [(crowdedStart_jobs row first).2.2.2.2.2] at same
    exact crowdId_ne_start count same.symm
  · have length := congrArg String.length same
    rw [crowdId_length] at length
    obtain ⟨index, below, rfl⟩ := List.mem_map.mp later
    have shorter : (spentRow (crowdId index)).id.length = index + 6 :=
      crowdId_length index
    have bound := List.mem_range.mp below
    omega

/-- Any number of jobs, one after the other. -/
theorem crowded_run (count : Nat) :
    ∃ state : Database.State, SerialRun (Store.empty, 0) state ∧
      Crowded (spentRows count) state.1 := by
  induction count with
  | zero =>
      refine ⟨Database.State.after crowdedStart,
        serialRun_after (by decide +kernel), rfl, rfl, rfl, ?_⟩
      simp [spentRows]
  | succ count induction =>
      obtain ⟨state, run, crowded⟩ := induction
      have unused := unused_crowdId count
      have spent : ∀ row ∈ spentRows count, row.status = .cancelled := by
        intro row member
        obtain ⟨index, _, rfl⟩ := List.mem_map.mp member
        rfl
      obtain ⟨_, store, sequence, submitted, crowded⟩ :=
        submitJob_crowded crowded unused state.2
      obtain ⟨_, placed, next, passed, crowded⟩ :=
        pass_crowded crowded unused spent sequence
      obtain ⟨_, final, last, cancelled, crowded⟩ :=
        cancelJob_crowded crowded unused next
      refine ⟨(final, last), ?_, ?_⟩
      · have first : SerialStep (Service.Begins sqlite) state (store, sequence) :=
          .commit ⟨sampleSettings, .request (.submitJob
            (sampleJob (crowdId count) 2000)), rfl⟩
            (Program.Runs.bind submitted (.done _ _ _))
        have second : SerialStep (Service.Begins sqlite) (store, sequence)
            (placed, next) :=
          .commit ⟨sampleSettings, .pass quietPass, rfl⟩
            (Program.Runs.bind passed (.done _ _ _))
        have third : SerialStep (Service.Begins sqlite) (placed, next)
            (final, last) :=
          .commit ⟨sampleSettings, .request (.cancelJob (crowdId count) 2000),
            rfl⟩ (Program.Runs.bind cancelled (.done _ _ _))
        exact ((run.tail first).tail second).tail third
      · rw [spentRows, List.range_succ, List.map_append]
        exact crowded

end GpuLink
