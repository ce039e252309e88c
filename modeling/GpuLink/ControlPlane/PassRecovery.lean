import GpuLink.ControlPlane.PassQueue

/-!
# The recovery of a pass

Before a pass reads its queue it takes stale workers offline and takes work
back from them and from expired leases.  Nothing that waits is lost by that,
and no GPU that was free and feasible ceases to be so.
-/

namespace GpuLink

open Transactional Sql Scheduler Postgres

/-- An entry that waits occupies nothing. -/
theorem Store.Waiting.idle {store : Store} {entry : PendingEntry}
    (waiting : store.Waiting entry) {workerId : Option String}
    {gpuUuid : Option NonEmptyString} :
    ¬ store.Occupies entry.key workerId gpuUuid := by
  intro occupies
  cases entry with
  | job item =>
      obtain ⟨row, found, queued, _⟩ := waiting
      obtain ⟨other, again, active, _⟩ := Store.occupies_job.mp occupies
      cases found.symm.trans again
      simp [JobRow.isActive, queued] at active
  | session item =>
      obtain ⟨row, found, requested, _⟩ := waiting
      obtain ⟨other, again, occupying, _⟩ :=
        Store.occupies_session.mp occupies
      cases found.symm.trans again
      simp [SessionRow.isOccupying, requested] at occupying

/-- From the start of a pass to the reading of its queue: what waits goes on
waiting, work that is recovered joins it, and no GPU becomes less free. -/
structure PassRecovery (seenSince : Int) (before after : Store) : Prop where
  waits : ∀ entry, before.Waiting entry → after.Waiting entry
  requeued : ∀ entry, after.Waiting entry → before.Waiting entry ∨
    ∃ workerId gpuUuid, before.Occupies entry.key workerId gpuUuid
  frees : ∀ key workerId gpuUuid, after.Occupies key workerId gpuUuid →
    before.Occupies key workerId gpuUuid
  fences : ∀ key, after.fences.find? key = before.fences.find? key
  fresh : ∀ id row, before.workers.find? id = some row →
    seenSince ≤ row.lastSeenAt → after.workers.find? id = some row

namespace PassRecovery

variable {seenSince : Int} {before middle after : Store}

theorem trans (first : PassRecovery seenSince before middle)
    (second : PassRecovery seenSince middle after) :
    PassRecovery seenSince before after where
  waits entry waiting := second.waits entry (first.waits entry waiting)
  requeued entry waiting := by
    rcases second.requeued entry waiting with waiting | ⟨_, _, occupies⟩
    · exact first.requeued entry waiting
    · exact Or.inr ⟨_, _, first.frees _ _ _ occupies⟩
  frees key workerId gpuUuid occupies :=
    first.frees _ _ _ (second.frees _ _ _ occupies)
  fences key := (second.fences key).trans (first.fences key)
  fresh id row found seen := second.fresh id row (first.fresh id row found seen)
    seen

/-- Where jobs and sessions are as they were. -/
theorem of_workers
    (others : ∀ key, (∀ sequence, key ≠ .event sequence) →
      (∀ id, key ≠ .worker id) → after.row? key = before.row? key)
    (fresh : ∀ id row, before.workers.find? id = some row →
      seenSince ≤ row.lastSeenAt → after.workers.find? id = some row) :
    PassRecovery seenSince before after where
  waits entry := Store.Waiting.congr (others _ entry.key_ne_event
    (by cases entry <;> exact nofun))
  requeued entry waiting := Or.inl (waiting.congr
    (others _ entry.key_ne_event (by cases entry <;> exact nofun)).symm)
  frees key workerId gpuUuid occupies := by
    refine Store.occupies_congr (others key ?_ ?_) occupies <;>
      · rcases occupies.cases with ⟨id, rfl⟩ | ⟨id, rfl⟩ <;> exact nofun
  fences key := others (.fence key.1 key.2) nofun nofun
  fresh := fresh

theorem of_eventful (eventful : before.Eventful after) :
    PassRecovery seenSince before after :=
  of_workers (fun key nonEvent _ => eventful key nonEvent)
    (fun id _ found _ => (eventful (.worker id) nofun).trans found)

/-- Where each row is as it was, or occupied a GPU and occupies none any
more. -/
theorem of_released
    (rows : ∀ key, after.row? key = before.row? key ∨
      (∃ workerId gpuUuid, before.Occupies key workerId gpuUuid) ∧
        ∀ workerId gpuUuid, ¬ after.Occupies key workerId gpuUuid) :
    PassRecovery seenSince before after where
  waits entry waiting := by
    rcases rows entry.key with same | ⟨⟨_, _, occupies⟩, _⟩
    · exact waiting.congr same
    · exact (waiting.idle occupies).elim
  requeued entry waiting :=
    (rows entry.key).imp (fun same => waiting.congr same.symm) And.left
  frees key workerId gpuUuid occupies := by
    rcases rows key with same | ⟨_, released⟩
    · exact Store.occupies_congr same occupies
    · exact (released _ _ occupies).elim
  fences key := by
    rcases rows (.fence key.1 key.2) with same | ⟨⟨_, _, occupies⟩, _⟩
    · exact same
    · cases occupies
  fresh id row found _ := by
    rcases rows (.worker id) with same | ⟨⟨_, _, occupies⟩, _⟩
    · exact same.trans found
    · cases occupies

end PassRecovery

theorem markStale_recovery {staleBefore now : Int} {s final : Store}
    {sequence last : Nat} {ids : List String}
    (run : (postgresMarkStaleWorkersOffline staleBefore now).Runs s sequence
      (.ok ids) final last) : PassRecovery staleBefore s final := by
  obtain ⟨scan, _, rfl⟩ := updateAll_runs run
  refine PassRecovery.of_workers ?_ ?_
  · intro key _ other
    exact @row?_writes_other WorkerRow
      (fun row => .worker { row with status := .offline, updatedAt := now })
      _ _ key (fun row _ => other row.id) s
  · intro id _ found seen
    rw [workers_updateAll (by simp), found]
    simp [not_lt.mpr seen]

/-- Active jobs that are selected are active no more. -/
theorem PassRecovery.of_jobs {seenSince : Int} {store : Store} {scan : Scan}
    {guard : JobRow → Bool} {set : JobRow → JobRow} {call : Option Call}
    (keepsId : ∀ row, (set row).id = row.id)
    (active : ∀ row, guard row → row.isActive)
    (idle : ∀ row, ¬ (set row).isActive) :
    PassRecovery seenSince store (applyAll store
      ((store.selectJobs scan guard).map
        (fun row => (⟨.job (set row), call⟩ : Write)))) := by
  refine PassRecovery.of_released (fun key => ?_)
  by_cases job : ∃ id, key = .job id
  · obtain ⟨id, rfl⟩ := job
    have written := @jobs_updateAll store scan guard set call keepsId id
    cases found : store.jobs.find? id with
    | none =>
        rw [found] at written
        exact Or.inl (written.trans found.symm)
    | some row =>
        rw [found, Option.map_some] at written
        by_cases selected : guard row
        · rw [if_pos selected] at written
          refine Or.inr ⟨⟨_, _, Store.occupies_job.mpr
            ⟨row, found, active row selected, rfl, rfl⟩⟩,
            fun _ _ occupies => ?_⟩
          obtain ⟨after, again, running, _⟩ :=
            Store.occupies_job.mp occupies
          cases written.symm.trans again
          exact idle row running
        · rw [if_neg selected] at written
          exact Or.inl (written.trans found.symm)
  · exact Or.inl (@row?_writes_other JobRow (fun row => .job (set row))
      call _ key (fun _ _ same => job ⟨_, same⟩) store)

/-- Sessions that are selected occupy nothing any more. -/
theorem PassRecovery.of_sessions {seenSince : Int} {store : Store}
    {scan : Scan} {guard : SessionRow → Bool} {set : SessionRow → SessionRow}
    {call : Option Call} (keepsId : ∀ row, (set row).id = row.id)
    (occupying : ∀ row, guard row → row.isOccupying)
    (idle : ∀ row, ¬ (set row).isOccupying) :
    PassRecovery seenSince store (applyAll store
      ((store.selectSessions scan guard).map
        (fun row => (⟨.session (set row), call⟩ : Write)))) := by
  refine PassRecovery.of_released (fun key => ?_)
  by_cases session : ∃ id, key = .session id
  · obtain ⟨id, rfl⟩ := session
    have written := @sessions_updateAll store scan guard set call keepsId id
    cases found : store.sessions.find? id with
    | none =>
        rw [found] at written
        exact Or.inl (written.trans found.symm)
    | some row =>
        rw [found, Option.map_some] at written
        by_cases selected : guard row
        · rw [if_pos selected] at written
          refine Or.inr ⟨⟨_, _, Store.occupies_session.mpr
            ⟨row, found, occupying row selected, rfl, rfl⟩⟩,
            fun _ _ occupies => ?_⟩
          obtain ⟨after, again, held, _⟩ :=
            Store.occupies_session.mp occupies
          cases written.symm.trans again
          exact idle row held
        · rw [if_neg selected] at written
          exact Or.inl (written.trans found.symm)
  · exact Or.inl (@row?_writes_other SessionRow (fun row => .session (set row))
      call _ key (fun _ _ same => session ⟨_, same⟩) store)

theorem recoverJobs_recovery {seenSince now : Int} {ids : List String}
    {s final : Store} {sequence last : Nat} {answer : List RecoveredJob}
    (run : (postgresRecoverExpiredJobs now ids).Runs s sequence (.ok answer)
      final last) : PassRecovery seenSince s final := by
  obtain ⟨scan, _, rfl⟩ := updateAll_runs run
  refine PassRecovery.of_jobs (fun _ => rfl) ?_ ?_
  · intro row selected
    exact (Bool.and_eq_true _ _ ▸ selected).1
  · intro row
    by_cases exhausted : row.maxAttempts ≤ row.attempt <;>
      simp [JobRow.isActive, exhausted]

theorem recoverSessions_recovery {seenSince now : Int} {ids : List String}
    {s final : Store} {sequence last : Nat} {answer : List RecoveredSession}
    (run : (postgresRecoverInterruptedSessions now ids).Runs s sequence
      (.ok answer) final last) : PassRecovery seenSince s final := by
  obtain ⟨scan, _, rfl⟩ := updateAll_runs run
  refine PassRecovery.of_sessions (fun _ => rfl) ?_ ?_
  · intro row selected
    exact (Bool.and_eq_true _ _ ▸ selected).1
  · intro row
    by_cases allowed : row.interruptionCount + 1 ≤ row.maxInterruptions <;>
      simp [SessionRow.isOccupying, allowed]

/-- A pass recovers and then places. -/
theorem lockedPass_runs {text : Collation} {settings : SchedulerSettings}
    {input : PassInput} {s final : Store} {sequence last : Nat}
    {result : PassResult}
    (run : (lockedPass (postgres text) settings input).Runs s sequence
      (.ok result) final last) :
    ∃ recovered between, PassRecovery
        (input.now - settings.heartbeatTimeoutMs) s recovered ∧
      (place (postgres text) settings input).Runs recovered between
        (.ok result.assigned) final last ∧ result.acquired = true := by
  have events : ∀ {α : Type} {code : Tx α} {before after : Store}
      {drawn next : Nat} {outcome : Except TxError α},
      code.Steady Store.Eventful →
      code.Runs before drawn outcome after next →
      PassRecovery (input.now - settings.heartbeatTimeoutMs) before after :=
    fun steady run => .of_eventful (eventful_runs steady run)
  obtain ⟨stale, _, _, marked, afterMark⟩ := Program.Runs.of_bind run
  obtain ⟨_, _, _, offline, afterOffline⟩ := Program.Runs.of_bind afterMark
  obtain ⟨jobs, _, _, jobsRun, afterJobs⟩ := Program.Runs.of_bind afterOffline
  obtain ⟨_, _, _, requeued, afterRequeued⟩ := Program.Runs.of_bind afterJobs
  obtain ⟨sessions, _, _, sessionsRun, afterSessions⟩ :=
    Program.Runs.of_bind afterRequeued
  obtain ⟨_, recovered, between, interrupted, afterInterrupted⟩ :=
    Program.Runs.of_bind afterSessions
  obtain ⟨assigned, _, _, placed, ending⟩ :=
    Program.Runs.of_bind afterInterrupted
  cases ending
  refine ⟨recovered, between, ?_, placed, rfl⟩
  have first := (markStale_recovery marked).trans (events
    (@reportStale_related (.steady Store.Eventful) (postgres text)
      (postgres text) appendEvent_eventful _ _) offline)
  have second := (first.trans (recoverJobs_recovery jobsRun)).trans (events
    (@reportJobs_related (.steady Store.Eventful) (postgres text)
      (postgres text) appendEvent_eventful _ _) requeued)
  exact (second.trans (recoverSessions_recovery sessionsRun)).trans (events
    (@reportSessions_related (.steady Store.Eventful) (postgres text)
      (postgres text) appendEvent_eventful _ _) interrupted)

end GpuLink
