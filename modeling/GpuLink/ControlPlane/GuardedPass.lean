import GpuLink.ControlPlane.Occupancy
import GpuLink.ControlPlane.PassOutline

/-!
# A pass among calm transactions

A pass reads the occupied GPUs from two tables at different moments and extends
them in memory while it places work.  Its assertions survive everything that
calm transactions do in between, so every placement is on a free GPU of a worker
that is still online.
-/

namespace GpuLink

open Transactional Sql Scheduler Postgres

variable {s : Store}

theorem markStaleWorkersOffline_attended {staleBefore now : Int}
    (exclusive : s.Exclusive) (attended : s.Attended) :
    (postgresMarkStaleWorkersOffline staleBefore now).wp (Rowwise Calm)
      (fun ids s =>
        s.Exclusive ∧ s.AttendedExcept (fun _ id => id ∈ ids)) s := by
  apply markStaleWorkersOffline_effect
  intro view marked ids moved others _ left final later
  have before : ∀ key workerId gpuUuid,
      marked.Occupies key workerId gpuUuid →
      view.Occupies key workerId gpuUuid := by
    intro key workerId gpuUuid occupies
    refine Store.occupies_congr (others key ?_) occupies
    rintro id rfl
    cases occupies
  refine ⟨((exclusive.after moved).of_fewer before).after later, ?_⟩
  apply Store.AttendedExcept.after later
  intro key workerId gpuUuid occupies
  obtain ⟨id, named, row, found, online⟩ :=
    attended.after moved key workerId gpuUuid (before _ _ _ occupies)
  refine ⟨id, named, ?_⟩
  rcases left id row found online with stale | stays
  · exact Or.inr stale
  · exact Or.inl ⟨row, stays, online⟩

theorem anyOf_some {ids : List String} {id : String}
    (spared : anyOf ids (some id) = false) : id ∉ ids := by
  simpa [anyOf] using spared

theorem recoverExpiredJobs_attended {now : Int} {ids : List String}
    (exclusive : s.Exclusive)
    (attended : s.AttendedExcept (fun _ id => id ∈ ids)) :
    (postgresRecoverExpiredJobs now ids).wp (Rowwise Calm)
      (fun _ s => s.Exclusive ∧ s.AttendedExcept (fun key id =>
        (∃ sessionId, key = .session sessionId) ∧ id ∈ ids)) s := by
  apply recoverExpiredJobs_effect
  intro view recovered answer moved others spared final later
  have before : ∀ key workerId gpuUuid,
      recovered.Occupies key workerId gpuUuid →
      view.Occupies key workerId gpuUuid := by
    intro key workerId gpuUuid occupies
    by_cases job : ∃ id, key = .job id
    · obtain ⟨id, rfl⟩ := job
      obtain ⟨row, found, active, columns⟩ := Store.occupies_job.mp occupies
      exact Store.occupies_job.mpr
        ⟨row, (spared id row found active).1, active, columns⟩
    · exact Store.occupies_congr
        (others key (fun id same => job ⟨id, same⟩)) occupies
  refine ⟨((exclusive.after moved).of_fewer before).after later, ?_⟩
  apply Store.AttendedExcept.after later
  intro key workerId gpuUuid occupies
  obtain ⟨id, rfl, covered⟩ :=
    attended.after moved key workerId gpuUuid (before _ _ _ occupies)
  refine ⟨id, rfl, ?_⟩
  rcases covered with online | stale
  · exact Or.inl (Store.online_congr
      (others (.worker id) (by simp)).symm online)
  rcases occupies.cases with ⟨jobId, rfl⟩ | session
  · obtain ⟨row, found, active, worker, _⟩ := Store.occupies_job.mp occupies
    have kept := (spared jobId row found active).2.2
    rw [worker] at kept
    exact (anyOf_some kept stale).elim
  · exact Or.inr ⟨session, stale⟩

theorem recoverInterruptedSessions_attended {now : Int} {ids : List String}
    (exclusive : s.Exclusive)
    (attended : s.AttendedExcept (fun key id =>
      (∃ sessionId, key = .session sessionId) ∧ id ∈ ids)) :
    (postgresRecoverInterruptedSessions now ids).wp (Rowwise Calm)
      (fun _ s => s.Exclusive ∧ s.Attended) s := by
  apply recoverInterruptedSessions_effect
  intro view recovered answer moved others spared final later
  have before : ∀ key workerId gpuUuid,
      recovered.Occupies key workerId gpuUuid →
      view.Occupies key workerId gpuUuid := by
    intro key workerId gpuUuid occupies
    by_cases session : ∃ id, key = .session id
    · obtain ⟨id, rfl⟩ := session
      obtain ⟨row, found, occupying, columns⟩ :=
        Store.occupies_session.mp occupies
      exact Store.occupies_session.mpr
        ⟨row, (spared id row found occupying).1, occupying, columns⟩
    · exact Store.occupies_congr
        (others key (fun id same => session ⟨id, same⟩)) occupies
  refine ⟨((exclusive.after moved).of_fewer before).after later, ?_⟩
  apply Store.Attended.after later
  intro key workerId gpuUuid occupies
  obtain ⟨id, rfl, covered⟩ :=
    attended.after moved key workerId gpuUuid (before _ _ _ occupies)
  refine ⟨id, rfl, ?_⟩
  rcases covered with online | ⟨⟨sessionId, rfl⟩, stale⟩
  · exact Store.online_congr (others (.worker id) (by simp)).symm online
  · obtain ⟨row, found, occupying, worker, _⟩ :=
      Store.occupies_session.mp occupies
    have kept := (spared sessionId row found occupying).2.2
    rw [worker] at kept
    exact (anyOf_some kept stale).elim

/-- A placement that `choosePlacement` found keeps the loop's assertion. -/
theorem assignJob_placing {settings : SchedulerSettings} {input : PassInput}
    {workers : List Worker} {occupied : List NonEmptyString}
    {blocked : List BlockedGpu} {jobId leaseId : String}
    {placement : Placement} {leaseExpiresAt now : Int}
    (sound : placement.SoundFor (input.options settings blocked) workers
      occupied) (placing : s.Placing workers occupied) :
    (postgresAssignJob jobId placement leaseId leaseExpiresAt now).wp
      (Rowwise Calm) (fun job s => s.Placing workers
        (if job.isSome then placement.gpuUuid :: occupied else occupied)) s := by
  obtain ⟨worker, listed, named, available, free⟩ := sound
  apply assignJob_effect
  · intro view moved final later
    exact (placing.after moved).after later
  · intro view row job moved status workerId gpuUuid _ final later
    have here := placing.after moved
    apply Store.Placing.after later
    refine here.place free (named ▸ here.online worker listed ?_) ?_
      (Store.online_apply (by simp [Write.key]))
    · exact workerAvailable_online available
    · refine Eq.trans (occupancyOf_job ?_) (by rw [workerId, gpuUuid])
      simp [JobRow.isActive, status]

theorem assignSession_placing {settings : SchedulerSettings}
    {input : PassInput} {workers : List Worker}
    {occupied : List NonEmptyString} {blocked : List BlockedGpu}
    {sessionId leaseId : String} {placement : Placement}
    {leaseExpiresAt now : Int}
    (sound : placement.SoundFor (input.options settings blocked) workers
      occupied) (placing : s.Placing workers occupied) :
    (postgresAssignSession sessionId placement leaseId leaseExpiresAt now).wp
      (Rowwise Calm) (fun session s => s.Placing workers
        (if session.isSome then placement.gpuUuid :: occupied else occupied))
      s := by
  obtain ⟨worker, listed, named, available, free⟩ := sound
  apply assignSession_effect
  · intro view moved final later
    exact (placing.after moved).after later
  · intro view row session moved status workerId gpuUuid _ final later
    have here := placing.after moved
    apply Store.Placing.after later
    refine here.place free (named ▸ here.online worker listed ?_) ?_
      (Store.online_apply (by simp [Write.key]))
    · exact workerAvailable_online available
    · refine Eq.trans (occupancyOf_session ?_) (by rw [workerId, gpuUuid])
      simp [SessionRow.isOccupying, status]

theorem listWorkers_online {text : Collation} (exclusive : s.Exclusive)
    (attended : s.Attended) :
    (postgresListWorkers text).wp (Rowwise Calm) (fun workers s =>
      s.Exclusive ∧ s.Attended ∧ s.StillOnline workers) s := by
  apply wp_select
  intro view scan moved final later
  refine ⟨(exclusive.after moved).after later,
    (attended.after moved).after later, ?_⟩
  apply Store.StillOnline.after later
  intro worker listed status
  obtain ⟨row, selected, rfl⟩ := List.mem_map.mp listed
  obtain ⟨stored, _⟩ := Store.mem_selectWorkers.mp (mem_orderBy.mp selected)
  exact ⟨row, KeyedTable.mem_rows_iff.mp stored, status⟩

theorem listActiveJobs_covered {workers : List Worker}
    (held : s.Exclusive ∧ s.Attended ∧ s.StillOnline workers) :
    postgresListActiveJobs.wp (Rowwise Calm) (fun jobs s =>
      s.Exclusive ∧ s.Attended ∧ s.StillOnline workers ∧
        s.CoveredBy (fun key => ∃ id, key = .job id)
          (jobs.filterMap Job.assignedGpuUuid)) s := by
  obtain ⟨exclusive, attended, online⟩ := held
  apply wp_select
  intro view scan moved final later
  refine ⟨(exclusive.after moved).after later,
    (attended.after moved).after later, (online.after moved).after later, ?_⟩
  apply Store.CoveredBy.after later
  rintro key workerId gpuUuid ⟨id, rfl⟩ occupies
  obtain ⟨row, found, active, _, gpu⟩ := Store.occupies_job.mp occupies
  exact List.mem_filterMap.mpr ⟨mapPostgresJob row, List.mem_map_of_mem
    (Store.mem_selectJobs.mpr ⟨KeyedTable.mem_of_find? found, active⟩), gpu⟩

/-- With the sessions read after the jobs, everything that is occupied has been
seen by one of the two reads. -/
theorem listActiveSessions_placing {text : Collation} {workers : List Worker}
    {jobs : List Job}
    (held : s.Exclusive ∧ s.Attended ∧ s.StillOnline workers ∧
      s.CoveredBy (fun key => ∃ id, key = .job id)
        (jobs.filterMap Job.assignedGpuUuid)) :
    (postgresListActiveSessions text).wp (Rowwise Calm) (fun sessions s =>
      s.Placing workers (Scheduler.occupiedGpus jobs sessions)) s := by
  obtain ⟨exclusive, attended, online, covered⟩ := held
  apply wp_select
  intro view scan moved final later
  refine ⟨(exclusive.after moved).after later,
    (attended.after moved).after later, (online.after moved).after later, ?_⟩
  apply Store.CoveredBy.after later
  intro key workerId gpuUuid _ occupies
  rcases occupies.cases with job | ⟨id, rfl⟩
  · exact List.mem_append_left _
      (covered.after moved key workerId gpuUuid job occupies)
  · obtain ⟨row, found, occupying, _, gpu⟩ :=
      Store.occupies_session.mp occupies
    have listed : row ∈ view.selectSessions scan SessionRow.isOccupying :=
      Store.mem_selectSessions.mpr ⟨KeyedTable.mem_of_find? found, occupying⟩
    exact List.mem_append_right _ (List.mem_filterMap.mpr
      ⟨mapPostgresSession row,
        List.mem_map_of_mem (mem_orderBy.mpr listed), gpu⟩)

/-- The stages of a pass among other transactions that are calm. -/
def guardedPass (text : Collation) (settings : SchedulerSettings)
    (input : PassInput) :
    PassOutline (postgres text) settings input (Rowwise Calm) where
  quiet := Rowwise Calm
  begun s := s.Exclusive ∧ s.Attended
  marked ids s := s.Exclusive ∧ s.AttendedExcept (fun _ id => id ∈ ids)
  jobsRecovered ids s := s.Exclusive ∧ s.AttendedExcept (fun key id =>
    (∃ sessionId, key = .session sessionId) ∧ id ∈ ids)
  recovered s := s.Exclusive ∧ s.Attended
  workersRead workers s := s.Exclusive ∧ s.Attended ∧ s.StillOnline workers
  jobsRead workers jobs s := s.Exclusive ∧ s.Attended ∧
    s.StillOnline workers ∧
    s.CoveredBy (fun key => ∃ id, key = .job id)
      (jobs.filterMap Job.assignedGpuUuid)
  placing workers occupied s := s.Placing workers occupied
  env_refl _ key := calm_refl key _
  quiet_of_env calm := calm
  marked_quiet calm held := ⟨held.1.after calm, held.2.after calm⟩
  jobsRecovered_quiet calm held := ⟨held.1.after calm, held.2.after calm⟩
  recovered_quiet calm held := ⟨held.1.after calm, held.2.after calm⟩
  placing_quiet calm held := held.after calm
  append type subjectId payload now := calmly
    (@appendEvent_steady (fun call => call.isCalm) rfl rfl type subjectId
      payload now)
  listBlocked := calmly (listBlockedGpuResources_steady text)
  listQueued := calmly (Program.Steady.bind moved_select (fun _ => trivial))
  listRequested := calmly (Program.Steady.bind moved_select (fun _ => trivial))
  mark _ held := markStaleWorkersOffline_attended held.1 held.2
  recoverJobs _ _ held := recoverExpiredJobs_attended held.1 held.2
  recoverSessions _ _ held :=
    recoverInterruptedSessions_attended held.1 held.2
  readWorkers _ held := listWorkers_online held.1 held.2
  readJobs _ _ held := listActiveJobs_covered held
  readSessions _ _ _ held := listActiveSessions_placing held
  assignJob _ _ _ _ _ _ _ sound placing := assignJob_placing sound placing
  assignSession _ _ _ _ _ _ _ sound placing :=
    assignSession_placing sound placing

end GpuLink
