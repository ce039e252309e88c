import GpuLink.Worker.Agent

/-!
# What a poll makes of a replaced lease

The executions of a worker are the entries of `inFlight`, and any that the map
has lost.  Polls, executions and shutdown interleave; a poll follows its answer
exactly when no execution of a listed job goes on under another lease.
-/

namespace GpuLink

deriving instance DecidableEq for JobExecution

/-- An agent with the executions that are no longer in its map. -/
structure JobRunner where
  agent : Agent
  orphans : List JobExecution

namespace JobRunner

/-- The executions in progress. -/
def executions (runner : JobRunner) : List JobExecution :=
  runner.agent.inFlight.rows ++ runner.orphans

/-- A completed poll; an entry that `set` replaces loses its place. -/
def poll (runner : JobRunner) (response : Leases) : JobRunner where
  agent := runner.agent.poll response
  orphans := runner.orphans ++
    (runner.agent.abortJobs response).inFlight.rows.filter (fun entry =>
      entry ∉ (runner.agent.poll response).inFlight.rows)

/-- `#executeLease` goes on. -/
def advance (runner : JobRunner) (entry : JobExecution) (phase : JobPhase) :
    JobRunner :=
  let change := fun other : JobExecution =>
    if other = entry then { other with phase := phase } else other
  { agent := { runner.agent with
      inFlight := runner.agent.inFlight.modify change (by
        intro other
        simp only [change]
        split <;> rfl) }
    orphans := runner.orphans.map change }

/-- The promise of an execution settles, and the entry of its job is deleted,
whichever execution that belongs to. -/
def settle (runner : JobRunner) (entry : JobExecution) : JobRunner where
  agent := { runner.agent with
    inFlight := runner.agent.inFlight.erase entry.jobId }
  orphans := (runner.orphans ++
    (runner.agent.inFlight.find? entry.jobId).toList).erase entry

/-- `stop` aborts what is in flight. -/
def stop (runner : JobRunner) : JobRunner :=
  { runner with
    agent := { runner.agent with
      inFlight := runner.agent.inFlight.modify
        (fun entry => { entry with aborted := true }) (fun _ => rfl) } }

end JobRunner

/-- From one await of `#executeLease` to the next. -/
inductive JobPhase.Next : JobPhase → JobPhase → Prop where
  | started : Next .starting .started
  | uninstalled : Next .started .reporting
  | executing : Next .started .executing
  | reporting : Next .executing .reporting

namespace JobRunner

/-- The control plane lists rows of a table with distinct identifiers. -/
def Distinct (response : Leases) : Prop :=
  (response.jobs.map Job.id).Nodup

inductive Step : JobRunner → JobRunner → Prop where
  | polled (runner : JobRunner) (response : Leases)
      (distinct : Distinct response) : Step runner (runner.poll response)
  | advanced (runner : JobRunner) (entry : JobExecution) (phase : JobPhase)
      (present : entry ∈ runner.executions)
      (next : JobPhase.Next entry.phase phase) :
      Step runner (runner.advance entry phase)
  /-- The start is refused, or the last report has come back. -/
  | settled (runner : JobRunner) (entry : JobExecution)
      (present : entry ∈ runner.executions)
      (leaving : entry.phase = .starting ∨ entry.phase = .reporting) :
      Step runner (runner.settle entry)
  | stopped (runner : JobRunner) : Step runner runner.stop
  /-- Heartbeats and sessions change the rest of the agent. -/
  | elsewhere (runner : JobRunner) (agent : Agent)
      (same : agent.inFlight = runner.agent.inFlight) :
      Step runner { runner with agent := agent }

/-- The states of an agent that has registered. -/
inductive Reached : JobRunner → Prop where
  | start (agent : Agent) (idle : agent.inFlight = .empty) :
      Reached ⟨agent, []⟩
  | next {runner after : JobRunner} : Reached runner → Step runner after →
      Reached after

/-! ## No execution is lost -/

theorem mem_poll_of_mem_abortJobs {agent : Agent} {response : Leases}
    {entry : JobExecution}
    (member : entry ∈ (agent.abortJobs response).inFlight.rows) :
    entry ∈ (agent.poll response).inFlight.rows := by
  rw [Agent.poll, Agent.startSessions_inFlight]
  exact Agent.mem_startJobs response.jobs member

theorem poll_orphans {runner : JobRunner} (response : Leases)
    (none : runner.orphans = []) : (runner.poll response).orphans = [] := by
  simp only [poll, none, List.nil_append]
  apply List.filter_eq_nil_iff.mpr
  intro entry member
  simp [mem_poll_of_mem_abortJobs member]

theorem settle_orphans {runner : JobRunner} {entry : JobExecution}
    (none : runner.orphans = []) (present : entry ∈ runner.executions) :
    (runner.settle entry).orphans = [] := by
  rw [executions, none, List.append_nil] at present
  have found := KeyedTable.mem_rows_iff.mp present
  simp [settle, none, found]

theorem orphans_of_reached {runner : JobRunner} (reached : Reached runner) :
    runner.orphans = [] := by
  induction reached with
  | start => rfl
  | next _ step induction =>
      cases step with
      | polled response => exact poll_orphans response induction
      | advanced entry phase =>
          simp [advance, induction]
      | settled entry present => exact settle_orphans induction present
      | stopped => exact induction
      | elsewhere => exact induction

/-! ## What is in flight after a poll -/

/-- `#runJob` -/
def entryOf (job : Job) : JobExecution where
  jobId := job.id
  leaseId := job.leaseId
  gpuUuid := job.assignedGpuUuid
  phase := .starting
  aborted := false

theorem mem_startJobs_iff {agent : Agent} {jobs : List Job}
    (distinct : (jobs.map Job.id).Nodup) {entry : JobExecution} :
    entry ∈ (agent.startJobs jobs).inFlight.rows ↔
      entry ∈ agent.inFlight.rows ∨
        ∃ job ∈ jobs, job.status = .leased ∧
          agent.inFlight.find? job.id = none ∧ entry = entryOf job := by
  induction jobs generalizing agent with
  | nil => simp [Agent.startJobs]
  | cons head rest induction =>
      simp only [List.map_cons, List.nodup_cons] at distinct
      rw [Agent.startJobs]
      split
      · rename_i begins
        have others : ∀ job ∈ rest, (agent.runJob head).inFlight.find? job.id =
            agent.inFlight.find? job.id := by
          intro job later
          apply KeyedTable.find?_put_other
          intro same
          have same : job.id = head.id := same
          exact distinct.1 (same ▸ List.mem_map_of_mem later)
        have absent : ∀ other ∈ agent.inFlight.rows, other.jobId ≠ head.id := by
          intro other member same
          have found := KeyedTable.mem_rows_iff.mp member
          rw [same, begins.2] at found
          cases found
        rw [induction distinct.2, Agent.runJob, KeyedTable.mem_put_iff]
        constructor
        · rintro ((rfl | ⟨_, member⟩) | ⟨job, later, leased, free, rfl⟩)
          · exact Or.inr ⟨head, List.mem_cons_self, begins.1, begins.2, rfl⟩
          · exact Or.inl member
          · rw [← Agent.runJob, others job later] at free
            exact Or.inr ⟨job, List.mem_cons_of_mem _ later, leased, free, rfl⟩
        · rintro (member | ⟨job, listed, leased, free, rfl⟩)
          · exact Or.inl (Or.inr ⟨absent entry member, member⟩)
          · rcases List.mem_cons.mp listed with rfl | later
            · exact Or.inl (Or.inl rfl)
            · rw [← others job later] at free
              exact Or.inr ⟨job, later, leased, free, rfl⟩
      · rename_i held
        rw [induction distinct.2]
        apply or_congr_right
        constructor
        · rintro ⟨job, later, rest⟩
          exact ⟨job, List.mem_cons_of_mem _ later, rest⟩
        · rintro ⟨job, listed, leased, free, rfl⟩
          rcases List.mem_cons.mp listed with rfl | later
          · exact (held ⟨leased, free⟩).elim
          · exact ⟨job, later, leased, free, rfl⟩

/-- An entry after the jobs that are no longer listed have been aborted. -/
def afterAborts (response : Leases) (entry : JobExecution) : JobExecution :=
  { entry with
    aborted := entry.aborted ||
      !response.jobs.any (fun job => job.id = entry.jobId) }

theorem find?_abortJobs {agent : Agent} {response : Leases} {jobId : String} :
    (agent.abortJobs response).inFlight.find? jobId = none ↔
      ∀ entry ∈ agent.inFlight.rows, entry.jobId ≠ jobId := by
  rw [Agent.abortJobs, KeyedTable.find?_modify]
  constructor
  · intro absent entry member same
    have found := KeyedTable.mem_rows_iff.mp member
    rw [same] at found
    rw [found] at absent
    cases absent
  · intro absent
    cases found : agent.inFlight.find? jobId with
    | none => rfl
    | some entry =>
        exact (absent entry (KeyedTable.mem_of_find? found)
          (KeyedTable.key_of_find? found)).elim

/-- What is in flight after a poll was so before, or has begun. -/
theorem mem_executions_poll {runner : JobRunner} {response : Leases}
    (none : runner.orphans = []) (distinct : Distinct response)
    {entry : JobExecution} :
    entry ∈ (runner.poll response).executions ↔
      (∃ before ∈ runner.executions, afterAborts response before = entry) ∨
        ∃ job ∈ response.jobs, job.status = .leased ∧
          (∀ before ∈ runner.executions, before.jobId ≠ job.id) ∧
          entry = entryOf job := by
  have after : (runner.poll response).executions =
      ((runner.agent.abortJobs response).startJobs
        response.jobs).inFlight.rows := by
    rw [executions, poll_orphans response none, List.append_nil, poll,
      Agent.poll, Agent.startSessions_inFlight]
    rfl
  have before : runner.executions = runner.agent.inFlight.rows := by
    rw [executions, none, List.append_nil]
  rw [after, before, mem_startJobs_iff distinct]
  simp only [find?_abortJobs]
  apply or_congr_left
  exact List.mem_map

/-- At most one execution per job is in progress. -/
theorem executions_distinct {runner : JobRunner} (reached : Reached runner) :
    (runner.executions.map JobExecution.jobId).Nodup := by
  rw [executions, orphans_of_reached reached, List.append_nil]
  exact runner.agent.inFlight.distinct

/-! ## Following a poll -/

/-- After the poll what goes on has the lease that is listed, one execution per
job is in progress, and a leased job without an execution has begun. -/
structure Follows (runner : JobRunner) (response : Leases) : Prop where
  replaced : ∀ entry ∈ (runner.poll response).executions,
    (¬∃ job ∈ response.jobs, job.id = entry.jobId ∧
      job.leaseId = entry.leaseId) → entry.aborted = true
  single : ((runner.poll response).executions.map JobExecution.jobId).Nodup
  started : ∀ job ∈ response.jobs, job.status = .leased →
    (∀ before ∈ runner.executions, before.jobId ≠ job.id) →
    ∃ entry ∈ (runner.poll response).executions, entry.jobId = job.id ∧
      entry.leaseId = job.leaseId ∧ entry.aborted = false

/-- No listed job is executed under another lease, unless the execution has
been aborted before. -/
def SameLeases (runner : JobRunner) (response : Leases) : Prop :=
  ∀ entry ∈ runner.executions, ∀ job ∈ response.jobs, job.id = entry.jobId →
    job.leaseId = entry.leaseId ∨ entry.aborted = true

/-- At every poll of every run the agent follows the answer exactly when no
listed job is executed under another lease. -/
theorem poll_follows_iff {runner : JobRunner} (reached : Reached runner)
    {response : Leases} (distinct : Distinct response) :
    Follows runner response ↔ SameLeases runner response := by
  have none := orphans_of_reached reached
  constructor
  · intro follows entry member job listed same
    have kept : afterAborts response entry = entry := by
      have named : response.jobs.any (fun job => job.id = entry.jobId) :=
        List.any_eq_true.mpr ⟨job, listed, by simpa using same⟩
      simp [afterAborts, named]
    have still := (mem_executions_poll none distinct).mpr
      (Or.inl ⟨entry, member, kept⟩)
    by_cases lease : job.leaseId = entry.leaseId
    · exact Or.inl lease
    · right
      apply follows.replaced entry still
      rintro ⟨other, otherListed, otherSame, otherLease⟩
      have equal : other = job :=
        List.inj_on_of_nodup_map distinct otherListed listed
          (otherSame.trans same.symm)
      rw [equal] at otherLease
      exact lease otherLease
  · intro agrees
    constructor
    · intro entry member unlisted
      rcases (mem_executions_poll none distinct).mp member with
        ⟨before, present, rfl⟩ | ⟨job, listed, _, _, rfl⟩
      · by_cases named : ∃ job ∈ response.jobs, job.id = before.jobId
        · obtain ⟨job, listed, same⟩ := named
          rcases agrees before present job listed same with lease | aborted
          · exact (unlisted ⟨job, listed, same, lease⟩).elim
          · simp [afterAborts, aborted]
        · have unnamed : response.jobs.any
              (fun job => job.id = before.jobId) = false := by
            apply List.any_eq_false.mpr
            intro job listed same
            exact named ⟨job, listed, by simpa using same⟩
          simp [afterAborts, unnamed]
      · exact (unlisted ⟨job, listed, rfl, rfl⟩).elim
    · exact executions_distinct (reached.next (.polled runner response distinct))
    · intro job listed leased free
      exact ⟨entryOf job, (mem_executions_poll none distinct).mpr
        (Or.inr ⟨job, listed, leased, free, rfl⟩), rfl, rfl, rfl⟩

/-! ## A replaced lease -/

def idleAgent : JobRunner where
  agent :=
    { workerId := "worker_1"
      locale := .codePoints
      adapters := ⟨[], [], false⟩
      inFlight := .empty
      sessionLeases := .empty }
  orphans := []

def leasedJob (leaseId : String) : Job where
  id := "job_1"
  projectId := "project"
  type := "cuda"
  priority := 0
  status := .leased
  constraints := ⟨1, 1, ["cuda"], none⟩
  payload := .null
  result := .null
  error := .null
  assignedWorkerId := some "worker_1"
  assignedGpuUuid := none
  leaseId := some leaseId
  leaseExpiresAt := some 31000
  attempt := 1
  maxAttempts := 3
  idempotencyKey := none
  createdAt := 1000
  updatedAt := 1000

/-- The listing of one job under the given lease. -/
def listing (leaseId : String) : Leases where
  jobs := [leasedJob leaseId]
  sessions := []

/-- The job is executed under its first lease. -/
def executingFirst : JobRunner :=
  idleAgent.poll (listing "lease_1")

theorem executingFirst_reached : Reached executingFirst :=
  (Reached.start idleAgent.agent rfl).next
    (.polled _ (listing "lease_1") (by simp [Distinct, listing]))

/-- The lease is unchanged, and the poll follows. -/
theorem poll_follows_sample : Follows executingFirst (listing "lease_1") := by
  apply (poll_follows_iff executingFirst_reached
    (by simp [Distinct, listing])).mpr
  intro entry member job listed _
  have only : executingFirst.executions =
      [entryOf (leasedJob "lease_1")] := by decide
  rw [only, List.mem_singleton] at member
  rw [List.mem_singleton.mp listed, member]
  exact Or.inl rfl

/-- The job is re-leased between two polls, and its execution goes on under the
first lease. -/
theorem replaced_lease_kept : ¬∀ runner, Reached runner → ∀ response,
    Distinct response → Follows runner response := by
  intro follows
  have follows := follows executingFirst executingFirst_reached
    (listing "lease_2") (by simp [Distinct, listing])
  have kept : (executingFirst.poll (listing "lease_2")).executions =
      [entryOf (leasedJob "lease_1")] := by decide
  have aborted := follows.replaced (entryOf (leasedJob "lease_1"))
    (by rw [kept]; exact List.mem_singleton.mpr rfl)
    (by simp [listing, leasedJob, entryOf])
  cases aborted

end JobRunner

end GpuLink
