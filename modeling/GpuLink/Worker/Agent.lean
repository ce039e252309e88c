import GpuLink.ControlPlane.Placement

/-!
# The worker agent

A worker keeps the jobs and the sessions it executes in two maps, by their
identifiers.  A completed poll aborts what the control plane no longer lists and
begins what is newly listed; an abort is only a signal, and an execution leaves
its map when its own promise settles.
-/

namespace GpuLink

/-- The body of `GET /v1/workers/:id/leases`. -/
structure Leases where
  jobs : List Job
  sessions : List Session

/-! ## Executions -/

/-- Where `#executeLease` is. -/
inductive JobPhase where
  | starting
  | started
  | executing
  | reporting
  deriving DecidableEq, Repr

/-- An entry of `inFlight`. -/
structure JobExecution where
  jobId : String
  leaseId : Option String
  gpuUuid : Option NonEmptyString
  phase : JobPhase
  aborted : Bool

/-- Where `#maintainSessionLease` is; the GPU is read from the answer to the
start request. -/
inductive SessionPhase where
  | starting
  | started (gpuUuid : Option NonEmptyString)
  | connecting (gpuUuid : Option NonEmptyString)
  | handling (gpuUuid : Option NonEmptyString)
  | settling
  deriving DecidableEq, Repr

/-- An entry of `sessionLeases`. -/
structure SessionExecution where
  sessionId : String
  leaseId : Option String
  phase : SessionPhase
  aborted : Bool

/-- The session adapters of a worker: the registry from adapter identity to
type, the identities that were ready at the last probe, and whether there is a
generic handler. -/
structure SessionAdapters where
  registry : List (String × String)
  readyIds : List String
  legacyHandler : Bool

inductive SessionHandler where
  | adapter (id : String)
  | legacy
  deriving DecidableEq, Repr

def selectSessionHandler (locale : Locale) (adapters : SessionAdapters)
    (session : Session) : Option SessionHandler :=
  match session.requirements.adapter with
  | some requestedId =>
      match adapters.registry.find? (fun entry => entry.1 = requestedId) with
      | none => none
      | some entry =>
          if requestedId ∈ adapters.readyIds ∧ entry.2 = session.capability then
            some (.adapter requestedId)
          else none
  | none =>
      match (sortBy (fun left right => locale.compare left.1 right.1)
          adapters.registry).find? (fun entry =>
            entry.1 ∈ adapters.readyIds && entry.2 = session.capability) with
      | some entry => some (.adapter entry.1)
      | none => if adapters.legacyHandler then some .legacy else none

structure Agent where
  workerId : String
  locale : Locale
  adapters : SessionAdapters
  inFlight : KeyedTable JobExecution.jobId
  sessionLeases : KeyedTable SessionExecution.sessionId

namespace Agent

/-! ## A completed poll -/

/-- Jobs that are no longer listed are aborted. -/
def abortJobs (agent : Agent) (response : Leases) : Agent :=
  { agent with
    inFlight := agent.inFlight.modify
      (fun entry => { entry with
        aborted := entry.aborted ||
          !response.jobs.any (fun job => job.id = entry.jobId) })
      (fun _ => rfl) }

/-- `#runJob` -/
def runJob (agent : Agent) (job : Job) : Agent :=
  { agent with
    inFlight := agent.inFlight.put
      { jobId := job.id
        leaseId := job.leaseId
        gpuUuid := job.assignedGpuUuid
        phase := .starting
        aborted := false } }

/-- Leased jobs that are not in flight begin. -/
def startJobs (agent : Agent) : List Job → Agent
  | [] => agent
  | job :: rest =>
      if job.status = .leased ∧ agent.inFlight.find? job.id = none then
        (agent.runJob job).startJobs rest
      else agent.startJobs rest

/-- The session that `sessionsById` has under an identifier. -/
def sessionById (response : Leases) (sessionId : String) : Option Session :=
  (response.sessions.filter (fun session => session.id = sessionId)).getLast?

/-- Sessions that are no longer listed, or under another lease, are aborted. -/
def abortSessions (agent : Agent) (response : Leases) : Agent :=
  { agent with
    sessionLeases := agent.sessionLeases.modify
      (fun entry => { entry with
        aborted := entry.aborted ||
          (sessionById response entry.sessionId).all
            (fun current => current.leaseId ≠ entry.leaseId) })
      (fun _ => rfl) }

/-- `#runSession` -/
def runSession (agent : Agent) (session : Session) : Agent :=
  { agent with
    sessionLeases := agent.sessionLeases.put
      { sessionId := session.id
        leaseId := session.leaseId
        phase := .starting
        aborted := false } }

/-- Allocated sessions that are not held begin when there is a handler. -/
def startSessions (agent : Agent) : List Session → Agent
  | [] => agent
  | session :: rest =>
      if session.status = .allocated ∧
          agent.sessionLeases.find? session.id = none ∧
          (selectSessionHandler agent.locale agent.adapters session).isSome then
        (agent.runSession session).startSessions rest
      else agent.startSessions rest

/-- What `#scheduleAssignmentPoll` does with a response. -/
def poll (agent : Agent) (response : Leases) : Agent :=
  ((((agent.abortJobs response).startJobs response.jobs).abortSessions
    response).startSessions response.sessions)

/-! ## What a poll keeps and begins -/

theorem mem_startJobs {agent : Agent} {entry : JobExecution} (jobs : List Job)
    (member : entry ∈ agent.inFlight.rows) :
    entry ∈ (agent.startJobs jobs).inFlight.rows := by
  induction jobs generalizing agent with
  | nil => exact member
  | cons job rest induction =>
      rw [startJobs]
      split
      · rename_i absent
        apply induction
        refine KeyedTable.mem_put_iff.mpr (Or.inr ⟨?_, member⟩)
        intro same
        have found := KeyedTable.mem_rows_iff.mp member
        rw [show entry.jobId = job.id from same, absent.2] at found
        cases found
      · exact induction member

theorem started_of_startJobs {agent : Agent} {jobs : List Job} {job : Job}
    (listed : job ∈ jobs) (leased : job.status = .leased) :
    ∃ entry ∈ (agent.startJobs jobs).inFlight.rows, entry.jobId = job.id := by
  induction jobs generalizing agent with
  | nil => cases listed
  | cons head rest induction =>
      rw [startJobs]
      rcases List.mem_cons.mp listed with rfl | later
      · split
        · exact ⟨_, mem_startJobs rest
            (KeyedTable.mem_put_iff.mpr (Or.inl rfl)), rfl⟩
        · rename_i held
          cases found : agent.inFlight.find? job.id with
          | none => exact (held ⟨leased, found⟩).elim
          | some entry =>
              exact ⟨entry, mem_startJobs rest (KeyedTable.mem_of_find? found),
                KeyedTable.key_of_find? found⟩
      · split
        · exact induction later
        · exact induction later

theorem mem_startSessions {agent : Agent} {entry : SessionExecution}
    (sessions : List Session) (member : entry ∈ agent.sessionLeases.rows) :
    entry ∈ (agent.startSessions sessions).sessionLeases.rows := by
  induction sessions generalizing agent with
  | nil => exact member
  | cons session rest induction =>
      rw [startSessions]
      split
      · rename_i absent
        apply induction
        refine KeyedTable.mem_put_iff.mpr (Or.inr ⟨?_, member⟩)
        intro same
        have found := KeyedTable.mem_rows_iff.mp member
        rw [show entry.sessionId = session.id from same, absent.2.1] at found
        cases found
      · exact induction member

theorem started_of_startSessions {agent : Agent} {sessions : List Session}
    {session : Session} (listed : session ∈ sessions)
    (allocated : session.status = .allocated)
    (handled :
      (selectSessionHandler agent.locale agent.adapters session).isSome) :
    ∃ entry ∈ (agent.startSessions sessions).sessionLeases.rows,
      entry.sessionId = session.id := by
  induction sessions generalizing agent with
  | nil => cases listed
  | cons head rest induction =>
      rw [startSessions]
      rcases List.mem_cons.mp listed with rfl | later
      · split
        · exact ⟨_, mem_startSessions rest
            (KeyedTable.mem_put_iff.mpr (Or.inl rfl)), rfl⟩
        · rename_i held
          cases found : agent.sessionLeases.find? session.id with
          | none => exact (held ⟨allocated, found, handled⟩).elim
          | some entry =>
              exact ⟨entry,
                mem_startSessions rest (KeyedTable.mem_of_find? found),
                KeyedTable.key_of_find? found⟩
      · split
        · exact induction later handled
        · exact induction later handled

@[simp] theorem startSessions_inFlight (agent : Agent)
    (sessions : List Session) :
    (agent.startSessions sessions).inFlight = agent.inFlight := by
  induction sessions generalizing agent with
  | nil => rfl
  | cons session rest induction =>
      rw [startSessions]
      split
      · exact induction _
      · exact induction _

theorem startJobs_others (agent : Agent) (jobs : List Job) :
    (agent.startJobs jobs).sessionLeases = agent.sessionLeases ∧
      (agent.startJobs jobs).locale = agent.locale ∧
      (agent.startJobs jobs).adapters = agent.adapters := by
  induction jobs generalizing agent with
  | nil => exact ⟨rfl, rfl, rfl⟩
  | cons job rest induction =>
      rw [startJobs]
      split
      · exact induction _
      · exact induction _

/-- A listed job stays as it is. -/
theorem poll_keeps_job {agent : Agent} {response : Leases}
    {entry : JobExecution} (member : entry ∈ agent.inFlight.rows)
    (listed : ∃ job ∈ response.jobs, job.id = entry.jobId) :
    entry ∈ (agent.poll response).inFlight.rows := by
  rw [poll, startSessions_inFlight]
  apply mem_startJobs
  refine List.mem_map.mpr ⟨entry, member, ?_⟩
  have named : response.jobs.any (fun job => job.id = entry.jobId) := by
    simpa using listed
  simp [named]

theorem poll_starts_job {agent : Agent} {response : Leases} {job : Job}
    (listed : job ∈ response.jobs) (leased : job.status = .leased) :
    ∃ entry ∈ (agent.poll response).inFlight.rows, entry.jobId = job.id := by
  rw [poll, startSessions_inFlight]
  exact started_of_startJobs listed leased

/-- A session that is listed under the same lease stays as it is. -/
theorem poll_keeps_session {agent : Agent} {response : Leases}
    {entry : SessionExecution} (member : entry ∈ agent.sessionLeases.rows)
    {session : Session}
    (current : sessionById response entry.sessionId = some session)
    (same : session.leaseId = entry.leaseId) :
    entry ∈ (agent.poll response).sessionLeases.rows := by
  rw [poll]
  apply mem_startSessions
  refine List.mem_map.mpr ⟨entry, ?_, ?_⟩
  · rw [(startJobs_others _ _).1]
    exact member
  · simp [current, same]

theorem poll_starts_session {agent : Agent} {response : Leases}
    {session : Session} (listed : session ∈ response.sessions)
    (allocated : session.status = .allocated)
    (handled :
      (selectSessionHandler agent.locale agent.adapters session).isSome) :
    ∃ entry ∈ (agent.poll response).sessionLeases.rows,
      entry.sessionId = session.id := by
  rw [poll]
  apply started_of_startSessions listed allocated
  obtain ⟨_, locale, adapters⟩ :=
    startJobs_others (agent.abortJobs response) response.jobs
  simp only [abortSessions, locale, adapters]
  exact handled

/-- With distinct identifiers the map finds what is listed. -/
theorem sessionById_of_mem {response : Leases} {session : Session}
    (distinct : (response.sessions.map Session.id).Nodup)
    (listed : session ∈ response.sessions) :
    sessionById response session.id = some session := by
  have only : response.sessions.filter (fun other => other.id = session.id) =
      [session] := by
    generalize response.sessions = sessions at distinct listed
    induction sessions with
    | nil => cases listed
    | cons head rest induction =>
        simp only [List.map_cons, List.nodup_cons] at distinct
        rcases List.mem_cons.mp listed with rfl | later
        · have none : rest.filter (fun other => other.id = session.id) = [] := by
            apply List.filter_eq_nil_iff.mpr
            intro other member same
            have equal : other.id = session.id := by simpa using same
            exact distinct.1 (equal ▸ List.mem_map_of_mem member)
          simp [none]
        · have different : head.id ≠ session.id := fun same =>
            distinct.1 (same ▸ List.mem_map_of_mem later)
          simpa [different] using induction distinct.2 later
  simp [sessionById, only]

end Agent

end GpuLink
