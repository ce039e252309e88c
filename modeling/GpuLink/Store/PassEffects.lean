import GpuLink.Store.PostgresMoves

/-!
# What the methods of a pass leave in the tables

One rule for each method that a scheduler pass writes with: which rows are as
they were, and what is known of those that are still occupied.
-/

namespace GpuLink

open Transactional Sql Postgres

section Effects

variable {env : Store → Store → Prop} {s : Store}

/-- Online workers that are left have been seen recently; those that are not
left online are named in the answer. -/
theorem markStaleWorkersOffline_effect {staleBefore now : Int}
    {post : List String → Store → Prop}
    (held : ∀ view marked ids, env s view →
      (∀ key, (∀ id, key ≠ .worker id) → marked.row? key = view.row? key) →
      (∀ id row, marked.workers.find? id = some row → row.status = .online →
        staleBefore ≤ row.lastSeenAt) →
      (∀ id row, view.workers.find? id = some row → row.status = .online →
        id ∈ ids ∨ marked.workers.find? id = some row) →
      ∀ final, env marked final → post ids final) :
    (postgresMarkStaleWorkersOffline staleBefore now).wp env post s := by
  refine wp_updateAll ?_
  intro view scan moved
  refine held view _ _ moved ?_ ?_ ?_
  · intro key other
    exact @row?_writes_other WorkerRow
      (fun row => .worker { row with status := .offline, updatedAt := now })
      _ _ key (fun row _ => other row.id) view
  · intro id row found online
    rw [workers_updateAll (by simp)] at found
    obtain ⟨old, oldFound, rfl⟩ := Option.map_eq_some_iff.mp found
    split at online
    · simp at online
    · rename_i spared
      rw [if_neg spared]
      simpa [online] using spared
  · intro id row found online
    by_cases stale : row.lastSeenAt < staleBefore
    · left
      have atId : row.id = id := KeyedTable.key_of_find? found
      simp only [List.map_map, List.mem_map]
      exact ⟨row, Store.mem_selectWorkers.mpr
        ⟨KeyedTable.mem_of_find? found, by simp [online, stale]⟩, atId⟩
    · right
      rw [workers_updateAll (by simp), found]
      simp [stale]

/-- An active job that is left was spared: its lease runs on and its worker was
not named. -/
theorem recoverExpiredJobs_effect {now : Int} {offlineWorkerIds : List String}
    {post : List RecoveredJob → Store → Prop}
    (held : ∀ view recovered answer, env s view →
      (∀ key, (∀ id, key ≠ .job id) → recovered.row? key = view.row? key) →
      (∀ id row, recovered.jobs.find? id = some row → row.isActive →
        view.jobs.find? id = some row ∧
          leaseExpired now row.leaseExpiresAt = false ∧
          anyOf offlineWorkerIds row.assignedWorkerId = false) →
      ∀ final, env recovered final → post answer final) :
    (postgresRecoverExpiredJobs now offlineWorkerIds).wp env post s := by
  refine wp_updateAll ?_
  intro view scan moved
  refine held view _ _ moved ?_ ?_
  · intro key other
    exact @row?_writes_other JobRow
      (fun row => .job { row with
        status := if row.maxAttempts ≤ row.attempt then .failed else .queued
        assignedWorkerId := none
        assignedGpuUuid := none
        leaseId := none
        leaseExpiresAt := none
        error :=
          if row.maxAttempts ≤ row.attempt then some leaseExhausted else none
        updatedAt := now })
      _ _ key (fun row _ => other row.id) view
  · intro id row found active
    rw [jobs_updateAll (by simp)] at found
    obtain ⟨old, oldFound, rfl⟩ := Option.map_eq_some_iff.mp found
    split at active
    · by_cases exhausted : old.maxAttempts ≤ old.attempt <;>
        simp [JobRow.isActive, exhausted] at active
    · rename_i spared
      rw [if_neg spared]
      refine ⟨oldFound, ?_⟩
      simpa [active] using spared

theorem recoverInterruptedSessions_effect {now : Int}
    {offlineWorkerIds : List String}
    {post : List RecoveredSession → Store → Prop}
    (held : ∀ view recovered answer, env s view →
      (∀ key, (∀ id, key ≠ .session id) →
        recovered.row? key = view.row? key) →
      (∀ id row, recovered.sessions.find? id = some row → row.isOccupying →
        view.sessions.find? id = some row ∧
          leaseExpired now row.leaseExpiresAt = false ∧
          anyOf offlineWorkerIds row.assignedWorkerId = false) →
      ∀ final, env recovered final → post answer final) :
    (postgresRecoverInterruptedSessions now offlineWorkerIds).wp env post
      s := by
  refine wp_updateAll ?_
  intro view scan moved
  refine held view _ _ moved ?_ ?_
  · intro key other
    exact @row?_writes_other SessionRow
      (fun row => .session { row with
        status :=
          if row.interruptionCount + 1 ≤ row.maxInterruptions then .requested
          else .interrupted
        interruptionCount := row.interruptionCount + 1
        assignedWorkerId := none
        assignedGpuUuid := none
        leaseId := none
        leaseExpiresAt := none
        updatedAt := now })
      _ _ key (fun row _ => other row.id) view
  · intro id row found occupying
    rw [sessions_updateAll (by simp)] at found
    obtain ⟨old, oldFound, rfl⟩ := Option.map_eq_some_iff.mp found
    split at occupying
    · by_cases allowed : old.interruptionCount + 1 ≤ old.maxInterruptions <;>
        simp [SessionRow.isOccupying, allowed] at occupying
    · rename_i spared
      rw [if_neg spared]
      refine ⟨oldFound, ?_⟩
      simpa [occupying] using spared

/-- Either the job was not queued any more, or it is leased at the
placement. -/
theorem assignJob_effect {jobId leaseId : String} {placement : Placement}
    {leaseExpiresAt now : Int} {post : Option Job → Store → Prop}
    (missing : ∀ view, env s view → ∀ final, env view final → post none final)
    (leased : ∀ view (row : JobRow) job, env s view →
      row.status = .leased →
      row.assignedWorkerId = some placement.workerId →
      row.assignedGpuUuid = some placement.gpuUuid →
      row.leaseExpiresAt = some leaseExpiresAt →
      ∀ final, env (view.apply
        ⟨.job row, some (.assigned leaseId leaseExpiresAt)⟩) final →
      post (some job) final) :
    (postgresAssignJob jobId placement leaseId leaseExpiresAt now).wp env post
      s :=
  wp_referencing (wp_update missing (fun view _ moved _ =>
    leased view _ _ moved rfl rfl rfl rfl))

theorem assignSession_effect {sessionId leaseId : String}
    {placement : Placement} {leaseExpiresAt now : Int}
    {post : Option Session → Store → Prop}
    (missing : ∀ view, env s view → ∀ final, env view final → post none final)
    (allocated : ∀ view (row : SessionRow) session, env s view →
      row.status = .allocated →
      row.assignedWorkerId = some placement.workerId →
      row.assignedGpuUuid = some placement.gpuUuid →
      row.leaseExpiresAt = some leaseExpiresAt →
      ∀ final, env (view.apply
        ⟨.session row, some (.assigned leaseId leaseExpiresAt)⟩) final →
      post (some session) final) :
    (postgresAssignSession sessionId placement leaseId leaseExpiresAt now).wp
      env post s :=
  wp_referencing (wp_update missing (fun view _ moved _ =>
    allocated view _ _ moved rfl rfl rfl rfl))

end Effects

end GpuLink
