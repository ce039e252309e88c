import GpuLink.ControlPlane.Exclusivity
import GpuLink.ControlPlane.Lifecycle

/-!
# No stranded work

Whoever occupies a GPU names an online worker in every committed state, and
after a pass that ran alone also holds a lease that runs on and a worker whose
heartbeat is recent enough.
-/

namespace GpuLink

open Transactional Sql Postgres

/-- Every active job and every occupying session names a worker that is there
and online. -/
structure Store.Staffed (store : Store) : Prop where
  jobs : ∀ row ∈ store.jobs.rows, row.isActive →
    ∃ worker ∈ store.workers.rows,
      row.assignedWorkerId = some worker.id ∧ worker.status = .online
  sessions : ∀ row ∈ store.sessions.rows, row.isOccupying →
    ∃ worker ∈ store.workers.rows,
      row.assignedWorkerId = some worker.id ∧ worker.status = .online

/-- Every active job and every occupying session has a lease that ends after
`now` and a worker that was seen at or after `seenSince`. -/
structure Store.CurrentAt (store : Store) (now seenSince : Int) : Prop where
  jobs : ∀ row ∈ store.jobs.rows, row.isActive →
    (∃ expires, row.leaseExpiresAt = some expires ∧ now < expires) ∧
      ∃ worker ∈ store.workers.rows,
        row.assignedWorkerId = some worker.id ∧ seenSince ≤ worker.lastSeenAt
  sessions : ∀ row ∈ store.sessions.rows, row.isOccupying →
    (∃ expires, row.leaseExpiresAt = some expires ∧ now < expires) ∧
      ∃ worker ∈ store.workers.rows,
        row.assignedWorkerId = some worker.id ∧ seenSince ≤ worker.lastSeenAt

theorem Store.Online.worker {store : Store} {id : String}
    (online : store.Online id) :
    ∃ worker ∈ store.workers.rows, worker.id = id ∧ worker.status = .online := by
  obtain ⟨worker, found, status⟩ := online
  exact ⟨worker, KeyedTable.mem_of_find? found,
    KeyedTable.key_of_find? found, status⟩

theorem Store.Attended.staffed {store : Store} (attended : store.Attended) :
    store.Staffed where
  jobs row listed active := by
    obtain ⟨id, named, online⟩ := attended (.job row.id) _ _
      (Store.occupies_job.mpr
        ⟨row, KeyedTable.mem_rows_iff.mp listed, active, rfl, rfl⟩)
    obtain ⟨worker, there, rfl, status⟩ := online.worker
    exact ⟨worker, there, named, status⟩
  sessions row listed occupying := by
    obtain ⟨id, named, online⟩ := attended (.session row.id) _ _
      (Store.occupies_session.mpr
        ⟨row, KeyedTable.mem_rows_iff.mp listed, occupying, rfl, rfl⟩)
    obtain ⟨worker, there, rfl, status⟩ := online.worker
    exact ⟨worker, there, named, status⟩

/-! ## A pass that runs alone -/

/-- Every online worker was seen at or after `seenSince`. -/
def Store.Fresh (store : Store) (seenSince : Int) : Prop :=
  ∀ id row, store.workers.find? id = some row → row.status = .online →
    seenSince ≤ row.lastSeenAt

/-- No active job holds a lease that has ended. -/
def Store.JobsCurrent (store : Store) (now : Int) : Prop :=
  ∀ id row, store.jobs.find? id = some row → row.isActive →
    leaseExpired now row.leaseExpiresAt = false

def Store.SessionsCurrent (store : Store) (now : Int) : Prop :=
  ∀ id row, store.sessions.find? id = some row → row.isOccupying →
    leaseExpired now row.leaseExpiresAt = false

/-- The tables that a placement looks at are as they were. -/
def Unworked (key : RowKey) (before after : Kept key.Row) : Prop :=
  match key, before, after with
  | .worker _, before, after => after.row = before.row
  | .job _, before, after => after.row = before.row
  | .session _, before, after => after.row = before.row
  | _, _, _ => True

theorem unworked_of_move {key : RowKey} {before after : Kept key.Row}
    (moved : KeptMove Call.isEvent key before after) :
    Unworked key before after := by
  rcases moved with rfl | ⟨call, event, move, _⟩
  · cases key <;> first | rfl | trivial
  · obtain ⟨beforeRow, _⟩ := before
    obtain ⟨afterRow, _⟩ := after
    simp only at move
    cases key with
    | worker id => cases move <;> cases event
    | job id => cases move <;> cases event
    | session id => cases move <;> cases event
    | _ => trivial

theorem unworked_of_moved {before after : Store}
    (moved : Moved Call.isEvent before after) : Rowwise Unworked before after :=
  fun key => unworked_of_move (moved key)

section Unworked

variable {earlier later : Store} (unworked : Rowwise Unworked earlier later)

include unworked

theorem Store.Fresh.after {seenSince : Int} (fresh : earlier.Fresh seenSince) :
    later.Fresh seenSince := by
  intro id row found online
  have same : later.workers.find? id = earlier.workers.find? id :=
    unworked (.worker id)
  exact fresh id row (same ▸ found) online

theorem Store.JobsCurrent.after {now : Int} (current : earlier.JobsCurrent now) :
    later.JobsCurrent now := by
  intro id row found active
  have same : later.jobs.find? id = earlier.jobs.find? id :=
    unworked (.job id)
  exact current id row (same ▸ found) active

theorem Store.SessionsCurrent.after {now : Int}
    (current : earlier.SessionsCurrent now) : later.SessionsCurrent now := by
  intro id row found occupying
  have same : later.sessions.find? id = earlier.sessions.find? id :=
    unworked (.session id)
  exact current id row (same ▸ found) occupying

end Unworked

/-- What a pass has established once it has recovered what it had to. -/
structure Store.Recovered (store : Store) (now seenSince : Int) : Prop where
  fresh : store.Fresh seenSince
  jobs : store.JobsCurrent now
  sessions : store.SessionsCurrent now

theorem Store.Recovered.after {earlier later : Store} {now seenSince : Int}
    (unworked : Rowwise Unworked earlier later)
    (recovered : earlier.Recovered now seenSince) :
    later.Recovered now seenSince :=
  ⟨recovered.fresh.after unworked, recovered.jobs.after unworked,
    recovered.sessions.after unworked⟩

theorem unworked_refl (store : Store) : Rowwise Unworked store store := by
  intro key
  cases key <;> first | rfl | trivial

theorem leaseExpired_later {now expires : Int} (later : now < expires) :
    leaseExpired now (some expires) = false := by
  simpa [leaseExpired] using later

/-- A new lease ends later than the pass that gives it out. -/
theorem Store.Recovered.assignJob {store : Store} {now seenSince : Int}
    {row : JobRow} {leaseId : String} {leaseExpiresAt : Int}
    (recovered : store.Recovered now seenSince)
    (expiry : row.leaseExpiresAt = some leaseExpiresAt)
    (later : now < leaseExpiresAt) :
    (store.apply ⟨.job row, some (.assigned leaseId leaseExpiresAt)⟩).Recovered
      now seenSince := by
  refine ⟨recovered.fresh, ?_, recovered.sessions⟩
  intro id other found active
  simp only [Store.apply, KeyedTable.find?_put] at found
  split at found
  · cases found
    rw [expiry]
    exact leaseExpired_later later
  · exact recovered.jobs id other found active

theorem Store.Recovered.assignSession {store : Store} {now seenSince : Int}
    {row : SessionRow} {leaseId : String} {leaseExpiresAt : Int}
    (recovered : store.Recovered now seenSince)
    (expiry : row.leaseExpiresAt = some leaseExpiresAt)
    (later : now < leaseExpiresAt) :
    (store.apply
      ⟨.session row, some (.assigned leaseId leaseExpiresAt)⟩).Recovered
      now seenSince := by
  refine ⟨recovered.fresh, recovered.jobs, ?_⟩
  intro id other found occupying
  simp only [Store.apply, KeyedTable.find?_put] at found
  split at found
  · cases found
    rw [expiry]
    exact leaseExpired_later later
  · exact recovered.sessions id other found occupying

/-- The stages of a pass that nobody interrupts. -/
def solitaryPass (settings : SchedulerSettings) (input : PassInput) :
    PassOutline (postgres Collation.binary) settings input Eq where
  quiet := Rowwise Unworked
  begun _ := True
  marked _ s := s.Fresh (input.now - settings.heartbeatTimeoutMs)
  jobsRecovered _ s := s.Fresh (input.now - settings.heartbeatTimeoutMs) ∧
    s.JobsCurrent input.now
  recovered s :=
    s.Recovered input.now (input.now - settings.heartbeatTimeoutMs)
  workersRead _ s :=
    s.Recovered input.now (input.now - settings.heartbeatTimeoutMs)
  jobsRead _ _ s :=
    s.Recovered input.now (input.now - settings.heartbeatTimeoutMs)
  placing _ _ s :=
    s.Recovered input.now (input.now - settings.heartbeatTimeoutMs)
  env_refl _ := rfl
  quiet_of_env same := same ▸ unworked_refl _
  marked_quiet unworked fresh := fresh.after unworked
  jobsRecovered_quiet unworked held :=
    ⟨held.1.after unworked, held.2.after unworked⟩
  recovered_quiet unworked recovered := recovered.after unworked
  placing_quiet unworked recovered := recovered.after unworked
  append type subjectId payload now :=
    (@appendEvent_steady Call.isEvent trivial trivial type subjectId payload
      now).mono unworked_of_moved
  listBlocked := (listBlockedGpuResources_steady _).mono unworked_of_moved
  listQueued := Program.Steady.mono unworked_of_moved
    (Program.Steady.bind moved_select (fun _ => trivial))
  listRequested := Program.Steady.mono unworked_of_moved
    (Program.Steady.bind moved_select (fun _ => trivial))
  mark _ _ := by
    apply markStaleWorkersOffline_effect
    rintro view marked ids rfl _ fresh _ final rfl
    exact fresh
  recoverJobs _ _ held := by
    apply recoverExpiredJobs_effect
    rintro view recovered answer rfl others spared final rfl
    refine ⟨?_, fun id row found active => (spared id row found active).2.1⟩
    intro id row found online
    exact held id row ((others (.worker id) (by simp)).symm.trans found) online
  recoverSessions _ _ held := by
    apply recoverInterruptedSessions_effect
    rintro view recovered answer rfl others spared final rfl
    refine ⟨?_, ?_,
      fun id row found occupying => (spared id row found occupying).2.1⟩
    · intro id row found online
      exact held.1 id row ((others (.worker id) (by simp)).symm.trans found)
        online
    · intro id row found active
      exact held.2 id row ((others (.job id) (by simp)).symm.trans found) active
  readWorkers _ held := by
    apply wp_select
    rintro view scan rfl final rfl
    exact held
  readJobs _ _ held := by
    apply wp_select
    rintro view scan rfl final rfl
    exact held
  readSessions _ _ _ held := by
    apply wp_select
    rintro view scan rfl final rfl
    exact held
  assignJob _ _ _ _ _ _ _ _ held := by
    apply assignJob_effect
    · rintro view rfl final rfl
      exact held
    · rintro view row job rfl _ _ _ expiry final rfl
      exact held.assignJob expiry
        (Int.lt_add_of_pos_right _ settings.leasePositive)
  assignSession _ _ _ _ _ _ _ _ held := by
    apply assignSession_effect
    · rintro view rfl final rfl
      exact held
    · rintro view row session rfl _ _ _ expiry final rfl
      exact held.assignSession expiry
        (Int.lt_add_of_pos_right _ settings.leasePositive)

/-- A pass that commits has recovered everything that had to be. -/
theorem recovered_of_pass {settings : SchedulerSettings} {input : PassInput}
    {before after : Database.State}
    (run : ((Service.Transaction.pass input).code sqlite settings).Runs
      before.1 before.2 (.ok ()) after.1 after.2) :
    after.1.Recovered input.now (input.now - settings.heartbeatTimeoutMs) := by
  have alone := sqlite_refines_postgres settings (.pass input) _ _ _ _ _ run
  have held : ((Service.Transaction.pass input).code
      (postgres Collation.binary) settings).wp Eq
      (fun _ s =>
        s.Recovered input.now (input.now - settings.heartbeatTimeoutMs))
      before.1 := by
    rintro s rfl
    refine Program.wp_bind (fun _ => rfl) (Program.wp_mono ?_
      ((solitaryPass settings input).lockedPass trivial))
    rintro result s ⟨_, _, placing⟩ s' rfl
    exact placing
  exact alone.post (fun _ => rfl) held rfl

theorem leaseExpired_some {now : Int} {leaseExpiresAt : Option Int}
    (present : leaseExpiresAt.isSome)
    (running : leaseExpired now leaseExpiresAt = false) :
    ∃ expires, leaseExpiresAt = some expires ∧ now < expires := by
  obtain ⟨expires, rfl⟩ := Option.isSome_iff_exists.mp present
  exact ⟨expires, rfl, by simpa [leaseExpired] using running⟩

theorem Store.Recovered.currentAt {store : Store} {now seenSince : Int}
    (recovered : store.Recovered now seenSince) (formed : store.WellFormed)
    (staffed : store.Staffed) : store.CurrentAt now seenSince where
  jobs row listed active := by
    obtain ⟨worker, there, named, online⟩ := staffed.jobs row listed active
    refine ⟨leaseExpired_some ((formed.jobs row listed).active active).1.expiry
      (recovered.jobs row.id row (KeyedTable.mem_rows_iff.mp listed) active),
      worker, there, named, ?_⟩
    exact recovered.fresh worker.id worker (KeyedTable.mem_rows_iff.mp there)
      online
  sessions row listed occupying := by
    obtain ⟨worker, there, named, online⟩ :=
      staffed.sessions row listed occupying
    refine ⟨leaseExpired_some
      ((formed.sessions row listed).occupying occupying).expiry
      (recovered.sessions row.id row (KeyedTable.mem_rows_iff.mp listed)
        occupying),
      worker, there, named, ?_⟩
    exact recovered.fresh worker.id worker (KeyedTable.mem_rows_iff.mp there)
      online

/-- Nobody occupies a GPU without an online worker in a committed state; and
right after a pass on SQLite every lease runs on and every worker has been seen
within the heartbeat timeout. -/
theorem no_stranded_work {text : Collation} {store : Store}
    (committed : Committed text store) :
    store.Staffed ∧
      ∀ (settings : SchedulerSettings) (input : PassInput)
        (before after : Database.State),
        SerialRun (Store.empty, 0) before →
        ((Service.Transaction.pass input).code sqlite settings).Runs
          before.1 before.2 (.ok ()) after.1 after.2 →
        after.1.CurrentAt input.now
          (input.now - settings.heartbeatTimeoutMs) := by
  refine ⟨committed.exclusive_attended.2.staffed, ?_⟩
  intro settings input before after earlier run
  have step : SerialStep (Service.Begins sqlite) before after :=
    .commit ⟨settings, .pass input, rfl⟩ run
  have reached : SerialRun (Store.empty, 0) after := earlier.tail step
  have here : Committed text after.1 := .serial reached
  exact (recovered_of_pass run).currentAt
    (lifecycle_wellFormed (.serial reached .refl : CommittedThen text _ _)).1
    here.exclusive_attended.2.staffed

theorem no_stranded_work_sample :
    (Database.State.after samplePlacement).1.Staffed ∧
      (Database.State.after samplePlacement).1.CurrentAt 1002 (-13998) := by
  have commits : (sampleRun samplePlacement).isSome := by decide +kernel
  have submitted : SerialRun (Store.empty, 0)
      (Database.State.after sampleSubmission) :=
    serialRun_after (by decide +kernel)
  have stranded := no_stranded_work
    (.serial (serialRun_after commits) : Committed Collation.binary _)
  exact ⟨stranded.1, stranded.2 sampleSettings samplePass _ _ submitted
    (runs_of_playAll (played_after commits))⟩

end GpuLink
