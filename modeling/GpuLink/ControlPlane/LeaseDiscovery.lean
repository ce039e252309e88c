import GpuLink.ControlPlane.CrowdedWorker
import GpuLink.Library.OrderLimit
import GpuLink.Worker.Agent

/-!
# Lease discovery

`GET /v1/workers/:id/leases` cuts the worker's jobs and its sessions to the
newest hundred each before it looks at their status.  Jobs keep the worker that
reported or lost them, so an old live job can be cut by newer dead ones.
-/

namespace GpuLink

open Transactional Sql OrderLimit

/-- `job.status === "leased" || job.status === "running"` -/
def Job.isLeased (job : Job) : Bool :=
  job.status = .leased || job.status = .running

def Session.isHeld (session : Session) : Bool :=
  session.status = .allocated || session.status = .connecting ||
    session.status = .active

/-- The handler of `GET /v1/workers/:id/leases`; no body stands for the status
404. -/
def leases (database : Persistence) (workerId : String) : Tx (Option Leases) := do
  let worker ← database.getWorker workerId
  match worker with
  | none => pure none
  | some _ => do
      let jobs ← database.listJobs { workerId := some workerId, limit := 100 }
      let sessions ← database.listSessions
        { workerId := some workerId, limit := 100 }
      pure (some ⟨jobs.filter Job.isLeased, sessions.filter Session.isHeld⟩)

/-! ## The property -/

/-- The live job is assigned to the worker. -/
def JobRow.liveOn (row : JobRow) (workerId : String) : Prop :=
  row.isActive ∧ row.assignedWorkerId = some workerId

def SessionRow.liveOn (row : SessionRow) (workerId : String) : Prop :=
  row.isOccupying ∧ row.assignedWorkerId = some workerId

/-- Everything live on the worker is listed. -/
structure Leases.Complete (response : Leases) (store : Store)
    (workerId : String) : Prop where
  jobs : ∀ row ∈ store.jobs.rows, row.liveOn workerId →
    Postgres.mapPostgresJob row ∈ response.jobs
  sessions : ∀ row ∈ store.sessions.rows, row.liveOn workerId →
    Postgres.mapPostgresSession row ∈ response.sessions

/-- What an agent does with the response: it aborts nothing that is live, and
holds everything that waits for it. -/
structure Leases.Heeded (response : Leases) (store : Store) (agent : Agent) :
    Prop where
  keepsJobs : ∀ entry ∈ agent.inFlight.rows,
    (∃ row ∈ store.jobs.rows, row.liveOn agent.workerId ∧
      row.id = entry.jobId) →
    entry ∈ (agent.poll response).inFlight.rows
  startsJobs : ∀ row ∈ store.jobs.rows, row.liveOn agent.workerId →
    row.status = .leased →
    ∃ entry ∈ (agent.poll response).inFlight.rows, entry.jobId = row.id
  keepsSessions : ∀ entry ∈ agent.sessionLeases.rows,
    (∃ row ∈ store.sessions.rows, row.liveOn agent.workerId ∧
      row.id = entry.sessionId ∧ row.leaseId = entry.leaseId) →
    entry ∈ (agent.poll response).sessionLeases.rows
  startsSessions : ∀ row ∈ store.sessions.rows, row.liveOn agent.workerId →
    row.status = .allocated →
    (selectSessionHandler agent.locale agent.adapters
      (Postgres.mapPostgresSession row)).isSome →
    ∃ entry ∈ (agent.poll response).sessionLeases.rows,
      entry.sessionId = row.id

/-- Whatever the order in which the database meets tied rows, the response is
complete and serves every agent of the worker. -/
def Store.Discovers (store : Store) (database : Persistence)
    (workerId : String) : Prop :=
  ∀ sequence response final last,
    (leases database workerId).Runs store sequence (.ok (some response)) final
      last →
    response.Complete store workerId ∧
      ∀ agent : Agent, agent.workerId = workerId →
        response.Heeded store agent

/-- Fewer than a hundred other rows of the worker may come before a live
one. -/
structure Store.LeasesFit (store : Store) (text : Collation)
    (workerId : String) : Prop where
  jobs : ∀ row ∈ store.jobs.rows, row.liveOn workerId →
    (ahead (fun left right => decide (right.createdAt ≤ left.createdAt))
      JobRow.id (store.jobs.rows.filter
        (jobFilter { workerId := some workerId })) row).length < 100
  sessions : ∀ row ∈ store.sessions.rows, row.liveOn workerId →
    (ahead (newestFirst text) SessionRow.id (store.sessions.rows.filter
      (sessionFilter { workerId := some workerId })) row).length < 100

/-! ## What the handler answers -/

/-- The jobs of the answer when the scan meets rows in this order. -/
def leasedJobs (scan : Scan) (store : Store) (workerId : String) : List Job :=
  (((orderBy (fun left right => decide (right.createdAt ≤ left.createdAt))
    (store.selectJobs scan (jobFilter { workerId := some workerId }))).take
      100).map Postgres.mapPostgresJob).filter Job.isLeased

def heldSessions (text : Collation) (scan : Scan) (store : Store)
    (workerId : String) : List Session :=
  (((orderBy (newestFirst text) (store.selectSessions scan
    (sessionFilter { workerId := some workerId }))).take 100).map
      Postgres.mapPostgresSession).filter Session.isHeld

/-- The two engines that the handler runs on, and how their text compares. -/
inductive Engine : Collation → Persistence → Prop where
  | onSqlite : Engine Collation.binary sqlite
  | onPostgres (text : Collation) : Engine text (postgres text)

theorem Engine.leases_eq {text : Collation} {database : Persistence}
    (engine : Engine text database) (workerId : String) :
    leases database workerId = leases (postgres text) workerId := by
  cases engine <;> rfl

theorem leases_answers {text : Collation} {workerId : String} {store final : Store}
    {sequence last : Nat} {response : Leases}
    (run : (leases (postgres text) workerId).Runs store sequence
      (.ok (some response)) final last) :
    ∃ scan other, response =
      ⟨leasedJobs scan store workerId, heldSessions text other store workerId⟩ := by
  obtain ⟨worker, s1, n1, asked, run⟩ := Program.Runs.of_bind run
  obtain ⟨row, s2, n2, selected, mapped⟩ := Program.Runs.of_bind asked
  obtain ⟨_, rfl, rfl, rfl⟩ := runs_select selected
  cases mapped
  cases found : store.workers.find? workerId with
  | none =>
      simp only [found, Option.map_none] at run
      cases run
  | some row =>
      simp only [found, Option.map_some] at run
      obtain ⟨jobs, s3, n3, listed, run⟩ := Program.Runs.of_bind run
      obtain ⟨rows, s4, n4, selected, mapped⟩ := Program.Runs.of_bind listed
      obtain ⟨scan, rfl, rfl, rfl⟩ := runs_select selected
      cases mapped
      obtain ⟨sessions, s5, n5, listed, run⟩ := Program.Runs.of_bind run
      obtain ⟨rows, s6, n6, selected, mapped⟩ := Program.Runs.of_bind listed
      obtain ⟨other, rfl, rfl, rfl⟩ := runs_select selected
      cases mapped
      cases run
      exact ⟨scan, other, rfl⟩

/-- Every order of the scan gives an answer. -/
theorem leases_answered (text : Collation) {workerId : String} {store : Store}
    (found : (store.workers.find? workerId).isSome) (scan : Scan) :
    (leases (postgres text) workerId).Runs store 0
      (.ok (some ⟨leasedJobs scan store workerId,
        heldSessions text scan store workerId⟩)) store 0 := by
  obtain ⟨row, present⟩ := Option.isSome_iff_exists.mp found
  have asked : ((postgres text).getWorker workerId).Runs store 0
      (.ok (some (Postgres.mapPostgresWorker row))) store 0 := by
    refine Program.Runs.bind (Program.Runs.statement scan rfl) ?_
    simp only [present, Option.map_some]
    exact .done _ _ _
  have jobs : ((postgres text).listJobs
      { workerId := some workerId, limit := 100 }).Runs store 0 (.ok _) store 0 :=
    Program.Runs.bind (Program.Runs.statement scan rfl) (.done _ _ _)
  have sessions : ((postgres text).listSessions
      { workerId := some workerId, limit := 100 }).Runs store 0 (.ok _) store 0 :=
    Program.Runs.bind (Program.Runs.statement scan rfl) (.done _ _ _)
  exact Program.Runs.bind asked
    (Program.Runs.bind jobs (Program.Runs.bind sessions (.done _ _ _)))

/-! ## When the answer is complete -/

theorem newest_total (a b : JobRow) :
    decide (b.createdAt ≤ a.createdAt) ∨ decide (a.createdAt ≤ b.createdAt) := by
  simpa using Int.le_total b.createdAt a.createdAt

theorem newest_trans (a b c : JobRow) (first : decide (b.createdAt ≤ a.createdAt))
    (second : decide (c.createdAt ≤ b.createdAt)) :
    decide (c.createdAt ≤ a.createdAt) := by
  simp only [decide_eq_true_eq] at first second ⊢
  omega

theorem newestFirst_total (text : Collation) (a b : SessionRow) :
    newestFirst text a b ∨ newestFirst text b a := by
  simp only [newestFirst, Bool.or_eq_true, Bool.and_eq_true, decide_eq_true_eq]
  rcases Int.lt_trichotomy a.createdAt b.createdAt with older | same | newer
  · exact Or.inr (Or.inl older)
  · rcases text.total a.id b.id with before | after
    · exact Or.inl (Or.inr ⟨same, before⟩)
    · exact Or.inr (Or.inr ⟨same.symm, after⟩)
  · exact Or.inl (Or.inl newer)

theorem newestFirst_trans (text : Collation) (a b c : SessionRow)
    (first : newestFirst text a b) (second : newestFirst text b c) :
    newestFirst text a c := by
  simp only [newestFirst, Bool.or_eq_true, Bool.and_eq_true, decide_eq_true_eq]
    at first second ⊢
  rcases first with newer | ⟨same, before⟩ <;>
    rcases second with newerStill | ⟨sameStill, beforeStill⟩
  · left
    omega
  · left
    omega
  · left
    omega
  · exact Or.inr ⟨same.trans sameStill, text.trans before beforeStill⟩

theorem mem_selectedJobs {scan : Scan} {store : Store} {workerId : String}
    {row : JobRow} (listed : row ∈ store.jobs.rows)
    (live : row.liveOn workerId) :
    row ∈ store.selectJobs scan (jobFilter { workerId := some workerId }) :=
  Store.mem_selectJobs.mpr ⟨listed, by simp [jobFilter, live.2]⟩

theorem mem_selectedSessions {scan : Scan} {store : Store} {workerId : String}
    {row : SessionRow} (listed : row ∈ store.sessions.rows)
    (live : row.liveOn workerId) :
    row ∈ store.selectSessions scan
      (sessionFilter { workerId := some workerId }) :=
  Store.mem_selectSessions.mpr ⟨listed, by simp [sessionFilter, live.2]⟩

/-- The rows ahead of one are counted in any order of the scan. -/
theorem ahead_length_perm {ρ κ : Type} [DecidableEq κ] {le : ρ → ρ → Bool}
    {key : ρ → κ} {rows others : List ρ} (perm : rows.Perm others) (row : ρ) :
    (ahead le key rows row).length = (ahead le key others row).length :=
  (perm.filter _).length_eq

theorem Store.LeasesFit.leasedJobs {store : Store} {text : Collation}
    {workerId : String} (fit : store.LeasesFit text workerId) (scan : Scan)
    {row : JobRow} (listed : row ∈ store.jobs.rows)
    (live : row.liveOn workerId) :
    Postgres.mapPostgresJob row ∈ leasedJobs scan store workerId := by
  have kept := mem_take_of_ahead newest_total newest_trans
    (selectJobs_ids_nodup store scan _) (mem_selectedJobs listed live)
    (by
      rw [Store.selectJobs, ahead_length_perm ((scan.jobsPerm _).filter _)]
      exact fit.jobs row listed live)
  exact List.mem_filter.mpr ⟨List.mem_map_of_mem kept, live.1⟩

theorem Store.LeasesFit.heldSessions {store : Store} {text : Collation}
    {workerId : String} (fit : store.LeasesFit text workerId) (scan : Scan)
    {row : SessionRow} (listed : row ∈ store.sessions.rows)
    (live : row.liveOn workerId) :
    Postgres.mapPostgresSession row ∈ heldSessions text scan store workerId := by
  have kept := mem_take_of_ahead (newestFirst_total text)
    (newestFirst_trans text) (selectSessions_ids_nodup store scan _)
    (mem_selectedSessions listed live) (by
      rw [Store.selectSessions,
        ahead_length_perm ((scan.sessionsPerm _).filter _)]
      exact fit.sessions row listed live)
  exact List.mem_filter.mpr ⟨List.mem_map_of_mem kept, live.1⟩

/-- Jobs are met with this one last. -/
def Scan.jobLast (row : JobRow) : Scan where
  workers := id
  jobs rows := lastMet JobRow.id rows row
  sessions := id
  workersPerm := List.Perm.refl
  jobsPerm rows := lastMet_perm JobRow.id rows row
  sessionsPerm := List.Perm.refl

/-- Sessions are met with this one last. -/
def Scan.sessionLast (row : SessionRow) : Scan where
  workers := id
  jobs := id
  sessions rows := lastMet SessionRow.id rows row
  workersPerm := List.Perm.refl
  jobsPerm := List.Perm.refl
  sessionsPerm rows := lastMet_perm SessionRow.id rows row

theorem filter_lastMet {ρ κ : Type} [DecidableEq κ] (key : ρ → κ)
    (rows : List ρ) (row : ρ) (guard : ρ → Bool) :
    (lastMet key rows row).filter guard = lastMet key (rows.filter guard) row := by
  simp only [lastMet, List.filter_append, List.filter_filter, Bool.and_comm]

theorem job_of_mapped {store : Store} {row other : JobRow}
    (listed : row ∈ store.jobs.rows) (otherListed : other ∈ store.jobs.rows)
    (same : Postgres.mapPostgresJob other = Postgres.mapPostgresJob row) :
    other = row :=
  KeyedTable.eq_of_mem_of_key otherListed listed (congrArg Job.id same)

theorem session_of_mapped {store : Store} {row other : SessionRow}
    (listed : row ∈ store.sessions.rows)
    (otherListed : other ∈ store.sessions.rows)
    (same : Postgres.mapPostgresSession other =
      Postgres.mapPostgresSession row) :
    other = row :=
  KeyedTable.eq_of_mem_of_key otherListed listed (congrArg Session.id same)

/-- A hundred rows ahead of a live job can push it out of the answer. -/
theorem leasedJobs_missing {store : Store} {workerId : String} {row : JobRow}
    (listed : row ∈ store.jobs.rows)
    (many : 100 ≤ (ahead
      (fun left right => decide (right.createdAt ≤ left.createdAt)) JobRow.id
      (store.jobs.rows.filter
        (jobFilter { workerId := some workerId })) row).length) :
    Postgres.mapPostgresJob row ∉
      leasedJobs (Scan.jobLast row) store workerId := by
  intro member
  obtain ⟨other, kept, same⟩ :=
    List.mem_map.mp (List.mem_of_mem_filter member)
  have selected := mem_orderBy.mp (List.mem_of_mem_take kept)
  have equal := job_of_mapped listed (Store.mem_selectJobs.mp selected).1 same
  rw [equal, Store.selectJobs] at kept
  have distinct : ((store.jobs.rows.filter
      (jobFilter { workerId := some workerId })).map JobRow.id).Nodup :=
    (List.filter_sublist.map _).nodup store.jobs.distinct
  refine not_mem_take_of_ahead distinct many ?_
  simpa [orderBy, Scan.jobLast, filter_lastMet] using kept

theorem heldSessions_missing {store : Store} {text : Collation}
    {workerId : String} {row : SessionRow}
    (listed : row ∈ store.sessions.rows)
    (many : 100 ≤ (ahead (newestFirst text) SessionRow.id
      (store.sessions.rows.filter
        (sessionFilter { workerId := some workerId })) row).length) :
    Postgres.mapPostgresSession row ∉
      heldSessions text (Scan.sessionLast row) store workerId := by
  intro member
  obtain ⟨other, kept, same⟩ :=
    List.mem_map.mp (List.mem_of_mem_filter member)
  have selected := mem_orderBy.mp (List.mem_of_mem_take kept)
  have equal := session_of_mapped listed
    (Store.mem_selectSessions.mp selected).1 same
  rw [equal, Store.selectSessions] at kept
  have distinct : ((store.sessions.rows.filter
      (sessionFilter { workerId := some workerId })).map
        SessionRow.id).Nodup :=
    (List.filter_sublist.map _).nodup store.sessions.distinct
  refine not_mem_take_of_ahead distinct many ?_
  simpa [orderBy, Scan.sessionLast, filter_lastMet] using kept

theorem heldSessions_ids_nodup (text : Collation) (scan : Scan)
    (store : Store) (workerId : String) :
    ((heldSessions text scan store workerId).map Session.id).Nodup := by
  have selected := selectSessions_ids_nodup store scan
    (sessionFilter { workerId := some workerId })
  have sorted := ((orderBy_perm (newestFirst text)
    (store.selectSessions scan (sessionFilter
      { workerId := some workerId }))).map SessionRow.id).nodup_iff.mpr selected
  have kept := ((List.take_sublist 100 _).map SessionRow.id).nodup sorted
  refine (List.filter_sublist.map _).nodup ?_
  simpa [List.map_map, Function.comp_def, Postgres.mapPostgresSession] using kept

/-- An agent heeds a complete answer. -/
theorem Leases.Complete.heeded {response : Leases} {store : Store}
    {agent : Agent} (complete : response.Complete store agent.workerId)
    (distinct : (response.sessions.map Session.id).Nodup) :
    response.Heeded store agent where
  keepsJobs entry member live := by
    obtain ⟨row, listed, alive, same⟩ := live
    exact Agent.poll_keeps_job member
      ⟨Postgres.mapPostgresJob row, complete.jobs row listed alive, same⟩
  startsJobs row listed alive leased :=
    Agent.poll_starts_job (complete.jobs row listed alive) leased
  keepsSessions entry member live := by
    obtain ⟨row, listed, alive, same, lease⟩ := live
    have current := Agent.sessionById_of_mem distinct
      (complete.sessions row listed alive)
    have named : (Postgres.mapPostgresSession row).id = entry.sessionId := same
    rw [named] at current
    exact Agent.poll_keeps_session member current lease
  startsSessions row listed alive allocated handled :=
    Agent.poll_starts_session (complete.sessions row listed alive) allocated
      handled

/-- Discovery is complete exactly when everything live is among the newest
hundred of the worker, whatever the order of ties. -/
theorem discovery_complete_iff {text : Collation} {database : Persistence}
    (engine : Engine text database) {store : Store} {workerId : String}
    (registered : (store.workers.find? workerId).isSome) :
    store.Discovers database workerId ↔ store.LeasesFit text workerId := by
  constructor
  · intro discovers
    have answered : ∀ scan : Scan, Leases.Complete
        ⟨leasedJobs scan store workerId, heldSessions text scan store workerId⟩
        store workerId := by
      intro scan
      have run := leases_answered text registered scan
      rw [← engine.leases_eq] at run
      exact (discovers _ _ _ _ run).1
    constructor
    · intro row listed live
      by_contra many
      exact leasedJobs_missing listed (Nat.not_lt.mp many)
        ((answered (Scan.jobLast row)).jobs row listed live)
    · intro row listed live
      by_contra many
      exact heldSessions_missing listed (Nat.not_lt.mp many)
        ((answered (Scan.sessionLast row)).sessions row listed live)
  · intro fit sequence response final last run
    rw [engine.leases_eq] at run
    obtain ⟨scan, other, rfl⟩ := leases_answers run
    have complete : Leases.Complete
        ⟨leasedJobs scan store workerId, heldSessions text other store workerId⟩
        store workerId :=
      ⟨fun row listed live => fit.leasedJobs scan listed live,
        fun row listed live => fit.heldSessions other listed live⟩
    refine ⟨complete, ?_⟩
    rintro agent rfl
    exact complete.heeded (heldSessions_ids_nodup text other store _)

theorem discovery_complete_sample :
    (Database.State.after samplePlacement).1.Discovers sqlite "worker_1" := by
  refine (discovery_complete_iff .onSqlite (by decide +kernel)).mpr ⟨?_, ?_⟩
  · have few : ∀ row ∈ (Database.State.after samplePlacement).1.jobs.rows,
        (ahead (fun left right => decide (right.createdAt ≤ left.createdAt))
          JobRow.id ((Database.State.after samplePlacement).1.jobs.rows.filter
            (jobFilter { workerId := some "worker_1" })) row).length < 100 := by
      decide +kernel
    exact fun row listed _ => few row listed
  · intro row listed _
    cases listed

/-- A hundred cancelled jobs hide the job that the worker still runs. -/
theorem discovery_incomplete :
    ∃ store, Committed Collation.binary store ∧
      (store.workers.find? "worker_1").isSome ∧
      ¬ store.Discovers sqlite "worker_1" := by
  obtain ⟨state, run, crowded⟩ := crowded_run 100
  have registered : (state.1.workers.find? "worker_1").isSome := by
    rw [crowded.workers]
    decide +kernel
  refine ⟨state.1, .serial run, registered, ?_⟩
  intro discovers
  obtain ⟨row, first⟩ : ∃ row,
      row ∈ (Database.State.after crowdedStart).1.jobs.rows :=
    List.exists_mem_of_ne_nil _ (by decide +kernel)
  obtain ⟨active, _, _, assigned, created, named⟩ := crowdedStart_jobs row first
  have listed : row ∈ state.1.jobs.rows := by
    rw [crowded.jobs]
    exact List.mem_append_left _ first
  have many : 100 ≤ (ahead
      (fun left right => decide (right.createdAt ≤ left.createdAt)) JobRow.id
      (state.1.jobs.rows.filter
        (jobFilter { workerId := some "worker_1" })) row).length := by
    have kept : (spentRows 100).Sublist (ahead
        (fun left right => decide (right.createdAt ≤ left.createdAt)) JobRow.id
        (state.1.jobs.rows.filter
          (jobFilter { workerId := some "worker_1" })) row) := by
      have counted : (spentRows 100).filter (fun other =>
          (other.id ≠ row.id && decide (row.createdAt ≤ other.createdAt)) &&
            jobFilter { workerId := some "worker_1" } other) =
          spentRows 100 := by
        refine List.filter_eq_self.mpr (fun other member => ?_)
        obtain ⟨index, _, rfl⟩ := List.mem_map.mp member
        have other := crowdId_ne_start index
        simp [spentRow, placedRow, pendingRow, jobFilter, created, named, other]
      rw [ahead, crowded.jobs, List.filter_filter, List.filter_append, counted]
      exact List.sublist_append_right _ _
    have length := kept.length_le
    simpa [spentRows] using length
  have answered := leases_answered Collation.binary registered (Scan.jobLast row)
  exact leasedJobs_missing listed many
    ((discovers _ _ _ _ answered).1.jobs row listed ⟨active, assigned⟩)

end GpuLink
