import GpuLink.ControlPlane.TransactionRules
import GpuLink.Library.Chronicle

/-!
# What each statement writes

The writes of a statement are seen here one by one, with the view that the
statement had, and not as what they make of the store: an event that is
appended and pruned again leaves no row, but it has been written.  The rules
are those of the statement forms; both engines are walked through once.
-/

namespace GpuLink

open Transactional Sql

/-- Every write of a statement has the property, on the view of the
statement. -/
def EachWrite (property : Store → Write → Prop) (input : Input Store Scan)
    (effect : Effect Write) : Prop :=
  ∀ write ∈ effect.writes, property input.view write

/-- Every statement of the left program has only allowed effects. -/
def TxRelation.emits (allowed : Input Store Scan → Effect Write → Prop) :
    TxRelation where
  rel left _ := left.Emits allowed
  done _ := trivial
  bind := Program.Emits.bind

/-! ## Statement forms -/

section Forms

variable {β ρ : Type} {property : Store → Write → Prop}

theorem emits_query {allowed : Input Store Scan → Effect Write → Prop}
    {statement : Statement β}
    (each : ∀ input answer effect, statement input = .ok (answer, effect) →
      allowed input effect) : (query statement).Emits allowed :=
  Program.emits_statement each

theorem each_nothing {input : Input Store Scan} {draws : Nat} :
    EachWrite property input ⟨[], draws⟩ := by
  intro write member
  cases member

theorem each_single {input : Input Store Scan} {write : Write} {draws : Nat}
    (holds : property input.view write) :
    EachWrite property input ⟨[write], draws⟩ := by
  intro other member
  rw [List.mem_singleton.mp member]
  exact holds

theorem emits_select {read : Store → Scan → β} :
    (query (select read)).Emits (EachWrite property) := by
  apply emits_query
  intro input answer effect accepted
  cases accepted
  exact each_nothing

theorem emits_insert {wrap : ρ → RowWrite} {call : Call} {taken : Store → Bool}
    {row : ρ} (holds : ∀ view, property view ⟨wrap row, some call⟩) :
    (query (Sql.insert wrap call taken row)).Emits (EachWrite property) := by
  apply emits_query
  intro input answer effect accepted
  unfold Sql.insert at accepted
  split at accepted
  · cases accepted
  · cases accepted
    exact each_single (holds _)

theorem emits_update {wrap : ρ → RowWrite} {call : Option Call}
    {found : Store → Option ρ} {set : ρ → ρ}
    (holds : ∀ view row, found view = some row →
      property view ⟨wrap (set row), call⟩) :
    (query (update wrap call found set)).Emits (EachWrite property) := by
  apply emits_query
  intro input answer effect accepted
  unfold update at accepted
  split at accepted
  · cases accepted
    exact each_nothing
  · next row selected =>
      cases accepted
      exact each_single (holds _ row selected)

theorem emits_updateAll {wrap : ρ → RowWrite} {call : Option Call}
    {found : Store → Scan → List ρ} {set : ρ → ρ}
    (holds : ∀ view scan, ∀ row ∈ found view scan,
      property view ⟨wrap (set row), call⟩) :
    (query (updateAll wrap call found set)).Emits (EachWrite property) := by
  apply emits_query
  intro input answer effect accepted
  cases accepted
  intro write member
  obtain ⟨row, selected, rfl⟩ := List.mem_map.mp member
  exact holds _ _ row selected

theorem emits_upsert {wrap : ρ → RowWrite} {call : Call}
    {existing : Store → Option ρ} {taken : Store → Bool} {fresh : ρ}
    {guard : ρ → Bool} {set : ρ → ρ}
    (inserted : ∀ view, property view ⟨wrap fresh, some call⟩)
    (updated : ∀ view row, existing view = some row →
      property view ⟨wrap (set row), some call⟩) :
    (query (upsert wrap call existing taken fresh guard set)).Emits
      (EachWrite property) := by
  apply emits_query
  intro input answer effect accepted
  unfold upsert at accepted
  split at accepted
  · next row present =>
      split at accepted
      · cases accepted
        exact each_single (updated _ row present)
      · cases accepted
        exact each_nothing
  · split at accepted
    · cases accepted
    · cases accepted
      exact each_single (inserted _)

theorem emits_referencing {allowed : Input Store Scan → Effect Write → Prop}
    {workerId : String} {statement : Statement β}
    (emits : (query statement).Emits allowed) :
    (query (referencing workerId statement)).Emits allowed := by
  apply emits_query
  intro input answer effect accepted
  exact (emits input answer effect (referencing_ok accepted).1).1

theorem emits_pruneEvents
    (holds : ∀ view sequence,
      property view ⟨.deleteEvent sequence, some .pruned⟩) :
    (query pruneEvents).Emits (EachWrite property) := by
  apply emits_query
  intro input answer effect accepted
  cases accepted
  intro write member
  obtain ⟨row, _, rfl⟩ := List.mem_map.mp member
  exact holds _ _

end Forms

/-! ## Insertions -/

/-- An insert that answers nothing when a unique index refuses it, and then a
look for the row that has the key. -/
def insertOnce {ρ ι : Type} (statement : Statement (Option ρ))
    (key : Option NonEmptyString) (byKey : Store → NonEmptyString → Option ρ)
    (missing lost : TxError) (answer : ρ → Bool → ι) : Tx ι :=
  (query statement).bind (fun row =>
    match row with
    | some row => .done (.ok (answer row false))
    | none =>
        match key with
        | none => throw missing
        | some key =>
            (query (select (fun store _ => byKey store key))).bind (fun found =>
              match found with
              | some row => .done (.ok (answer row true))
              | none => throw lost))

/-- The statement inserts the row, on tables that admit it, or nothing. -/
def InsertsRow {ρ : Type} (wrap : ρ → RowWrite) (row : ρ)
    (admits : Store → Prop) (statement : Statement (Option ρ)) : Prop :=
  ∀ input answer effect, statement input = .ok (answer, effect) →
    answer = none ∧ effect = ⟨[], 0⟩ ∨
    answer = some row ∧ effect = ⟨[⟨wrap row, some .inserted⟩], 0⟩ ∧
      admits input.view

/-- Neither the id nor the key of the job is taken. -/
def Store.AdmitsJob (store : Store) (row : JobRow) : Prop :=
  store.jobs.find? row.id = none ∧
    store.jobKeyTaken row.projectId row.idempotencyKey = false

def Store.AdmitsSession (store : Store) (row : SessionRow) : Prop :=
  store.sessions.find? row.id = none ∧
    store.sessionKeyTaken row.projectId row.idempotencyKey = false

/-- The row that a submitted job begins as. -/
def JobRequest.row (job : JobRequest) : JobRow where
  id := job.id
  projectId := job.projectId
  type := job.type
  priority := job.priority
  status := .queued
  gpuCount := 1
  minVramMiB := job.minVramMiB
  requiredCapabilities := job.requiredCapabilities
  requestedModel := job.requestedModel
  payload := job.payload
  result := none
  error := none
  assignedWorkerId := none
  assignedGpuUuid := none
  leaseId := none
  leaseExpiresAt := none
  attempt := 0
  maxAttempts := job.maxAttempts
  idempotencyKey := job.idempotencyKey
  createdAt := job.now
  updatedAt := job.now

/-- The row that a submitted session begins as. -/
def SessionRequest.row (session : SessionRequest) : SessionRow where
  id := session.id
  schemaVersion := session.schemaVersion
  projectId := session.projectId
  capability := session.capability
  priority := session.priority
  status := .requested
  gpuCount := 1
  minVramMiB := session.requirements.minVramMiB
  requiredCapabilities := session.requirements.capabilities
  requestedModel := session.requirements.model
  requestedAdapter := session.requirements.adapter
  metadata := session.metadata
  maxInterruptions := session.recovery.maxInterruptions
  interruptionCount := 0
  assignedWorkerId := none
  assignedGpuUuid := none
  leaseId := none
  leaseExpiresAt := none
  idempotencyKey := session.idempotencyKey
  createdAt := session.now
  updatedAt := session.now

/-- What the two engines have in common when they insert. -/
structure Persistence.Inserts (transaction : Persistence) : Prop where
  insertJob : ∀ job, ∃ (statement : Statement (Option JobRow))
    (missing lost : TxError) (answer : JobRow → Bool → JobInsertion),
    transaction.insertJob job = insertOnce statement job.idempotencyKey
      (fun store key => store.jobByKey job.projectId key) missing lost
      answer ∧
    InsertsRow .job job.row (fun store => store.AdmitsJob job.row) statement ∧
    ∀ row duplicate, (answer row duplicate).job.id = row.id ∧
      (answer row duplicate).duplicate = duplicate
  insertSession : ∀ session, ∃ (statement : Statement (Option SessionRow))
    (missing lost : TxError) (answer : SessionRow → Bool → SessionInsertion),
    transaction.insertSession session = insertOnce statement
      session.idempotencyKey
      (fun store key => store.sessionByKey session.projectId key) missing lost
      answer ∧
    InsertsRow .session session.row
      (fun store => store.AdmitsSession session.row) statement ∧
    ∀ row duplicate, (answer row duplicate).session.id = row.id ∧
      (answer row duplicate).duplicate = duplicate

section Insertions

variable {ρ ι : Type} {wrap : ρ → RowWrite} {row : ρ} {admits : Store → Prop}
  {statement : Statement (Option ρ)}
  {allowed : Input Store Scan → Effect Write → Prop}

theorem insertOnce_emits {key : Option NonEmptyString}
    {byKey : Store → NonEmptyString → Option ρ} {missing lost : TxError}
    {answer : ρ → Bool → ι}
    (inserts : InsertsRow wrap row admits statement)
    (nothing : ∀ input, allowed input ⟨[], 0⟩)
    (single : ∀ input, admits input.view →
      allowed input ⟨[⟨wrap row, some .inserted⟩], 0⟩) :
    (insertOnce statement key byKey missing lost answer).Emits allowed := by
  refine Program.Emits.bind (emits_query ?_) ?_
  · intro input answer effect accepted
    rcases inserts input answer effect accepted with
      ⟨_, rfl⟩ | ⟨_, rfl, admitted⟩
    · exact nothing input
    · exact single input admitted
  · intro answered
    cases answered with
    | some row => trivial
    | none =>
        cases key with
        | none => trivial
        | some key =>
            refine Program.Emits.bind (emits_query ?_) ?_
            · intro input answer effect accepted
              cases accepted
              exact nothing input
            · intro found
              cases found <;> trivial

theorem insertsRow_unlessKeyTaken {keyTaken idTaken : Store → Bool}
    (admitted : ∀ view, keyTaken view = false → idTaken view = false →
      admits view) :
    InsertsRow wrap row admits
      (Postgres.insertUnlessKeyTaken wrap keyTaken idTaken row) := by
  intro input answer effect accepted
  unfold Postgres.insertUnlessKeyTaken at accepted
  split at accepted
  · cases accepted
    exact Or.inl ⟨rfl, rfl⟩
  · next free =>
      split at accepted
      · cases accepted
      · next fresh =>
          cases accepted
          exact Or.inr ⟨rfl, rfl, admitted _ (Bool.not_eq_true _ ▸ free)
            (Bool.not_eq_true _ ▸ fresh)⟩

theorem insertsRow_attempt {taken : Store → Bool}
    (admitted : ∀ view, taken view = false → admits view) :
    InsertsRow wrap row admits
      (attempt (Sql.insert wrap .inserted taken row)) := by
  intro input answer effect accepted
  unfold attempt Sql.insert at accepted
  by_cases refused : taken input.view = true
  · simp only [refused, if_true] at accepted
    cases accepted
    exact Or.inl ⟨rfl, rfl⟩
  · simp only [refused, Bool.false_eq_true, if_false] at accepted
    cases accepted
    exact Or.inr ⟨rfl, rfl, admitted _ (Bool.not_eq_true _ ▸ refused)⟩

end Insertions

section Inserts

variable {transaction : Persistence} (inserts : transaction.Inserts)
  {allowed : Input Store Scan → Effect Write → Prop}
  (nothing : ∀ input, allowed input ⟨[], 0⟩)

include inserts nothing

theorem Persistence.Inserts.job_emits (job : JobRequest)
    (single : ∀ (input : Input Store Scan) (row : JobRow),
      input.view.AdmitsJob row →
        allowed input ⟨[⟨.job row, some .inserted⟩], 0⟩) :
    (transaction.insertJob job).Emits allowed := by
  obtain ⟨statement, missing, lost, answer, same, insertsRow, _⟩ :=
    inserts.insertJob job
  rw [same]
  exact insertOnce_emits insertsRow nothing (fun input => single input _)

theorem Persistence.Inserts.session_emits (session : SessionRequest)
    (single : ∀ (input : Input Store Scan) (row : SessionRow),
      input.view.AdmitsSession row →
        allowed input ⟨[⟨.session row, some .inserted⟩], 0⟩) :
    (transaction.insertSession session).Emits allowed := by
  obtain ⟨statement, missing, lost, answer, same, insertsRow, _⟩ :=
    inserts.insertSession session
  rw [same]
  exact insertOnce_emits insertsRow nothing (fun input => single input _)

end Inserts

theorem postgresInsertJob_once (job : JobRequest) :
    Postgres.postgresInsertJob job =
      insertOnce (Postgres.insertUnlessKeyTaken .job
          (fun store =>
            store.jobKeyTaken job.projectId job.idempotencyKey)
          (fun store => (store.jobs.find? job.id).isSome) job.row)
        job.idempotencyKey
        (fun store key => store.jobByKey job.projectId key)
        (.noRow "PostgreSQL job insert returned no row")
        (.noRow "PostgreSQL job insert returned no row")
        (fun row duplicate => ⟨Postgres.mapPostgresJob row, duplicate⟩) := by
  unfold Postgres.postgresInsertJob insertOnce
  refine congrArg (Program.bind _) (funext (fun row => ?_))
  cases row with
  | some row => rfl
  | none =>
      dsimp only
      cases job.idempotencyKey with
      | none => rfl
      | some key =>
          refine congrArg (Program.bind _) (funext (fun found => ?_))
          cases found <;> rfl

theorem postgresInsertSession_once (session : SessionRequest) :
    Postgres.postgresInsertSession session =
      insertOnce (Postgres.insertUnlessKeyTaken .session
          (fun store =>
            store.sessionKeyTaken session.projectId session.idempotencyKey)
          (fun store => (store.sessions.find? session.id).isSome) session.row)
        session.idempotencyKey
        (fun store key => store.sessionByKey session.projectId key)
        (.noRow "PostgreSQL session insert returned no row")
        (.noRow "PostgreSQL session insert returned no row")
        (fun row duplicate => ⟨Postgres.mapPostgresSession row, duplicate⟩) := by
  unfold Postgres.postgresInsertSession insertOnce
  refine congrArg (Program.bind _) (funext (fun row => ?_))
  cases row with
  | some row => rfl
  | none =>
      dsimp only
      cases session.idempotencyKey with
      | none => rfl
      | some key =>
          refine congrArg (Program.bind _) (funext (fun found => ?_))
          cases found <;> rfl

theorem insertJob_once (job : JobRequest) :
    Database.insertJob job =
      insertOnce (attempt (Sql.insert .job .inserted
          (fun store => (store.jobs.find? job.id).isSome ||
            store.jobKeyTaken job.projectId job.idempotencyKey)
          job.row))
        job.idempotencyKey
        (fun store key => store.jobByKey job.projectId key)
        .uniqueConstraint
        .typeError
        (fun row duplicate => ⟨Database.mapJob row, duplicate⟩) := by
  unfold Database.insertJob insertOnce
  refine congrArg (Program.bind _) (funext (fun row => ?_))
  cases row with
  | some row => rfl
  | none =>
      dsimp only
      cases job.idempotencyKey with
      | none => rfl
      | some key =>
          refine congrArg (Program.bind _) (funext (fun found => ?_))
          cases found <;> rfl

theorem insertSession_once (session : SessionRequest) :
    Database.insertSession session =
      insertOnce (attempt (Sql.insert .session .inserted
          (fun store => (store.sessions.find? session.id).isSome ||
            store.sessionKeyTaken session.projectId session.idempotencyKey)
          session.row))
        session.idempotencyKey
        (fun store key => store.sessionByKey session.projectId key)
        .uniqueConstraint
        .typeError
        (fun row duplicate => ⟨Database.mapSession row, duplicate⟩) := by
  unfold Database.insertSession insertOnce
  refine congrArg (Program.bind _) (funext (fun row => ?_))
  cases row with
  | some row => rfl
  | none =>
      dsimp only
      cases session.idempotencyKey with
      | none => rfl
      | some key =>
          refine congrArg (Program.bind _) (funext (fun found => ?_))
          cases found <;> rfl

theorem postgres_inserts (text : Collation) : (postgres text).Inserts where
  insertJob job := by
    refine ⟨_, _, _, _, postgresInsertJob_once job,
      insertsRow_unlessKeyTaken ?_, fun _ _ => ⟨rfl, rfl⟩⟩
    intro view free fresh
    have absent : view.jobs.find? job.id = none := by simpa using fresh
    exact ⟨absent, free⟩
  insertSession session := by
    refine ⟨_, _, _, _, postgresInsertSession_once session,
      insertsRow_unlessKeyTaken ?_, fun _ _ => ⟨rfl, rfl⟩⟩
    intro view free fresh
    have absent : view.sessions.find? session.id = none := by
      simpa using fresh
    exact ⟨absent, free⟩

theorem sqlite_inserts : sqlite.Inserts where
  insertJob job := by
    refine ⟨_, _, _, _, insertJob_once job, insertsRow_attempt ?_,
      fun _ _ => ⟨rfl, rfl⟩⟩
    intro view free
    simpa [Store.AdmitsJob, JobRequest.row] using free
  insertSession session := by
    refine ⟨_, _, _, _, insertSession_once session, insertsRow_attempt ?_,
      fun _ _ => ⟨rfl, rfl⟩⟩
    intro view free
    simpa [Store.AdmitsSession, SessionRequest.row] using free

/-! ## Writes that keep what stands in the tables -/

/-- The write appends no event and inserts no job or session; a worker row that
it writes has the status it had, a job or a session the project and the key. -/
def Write.Elsewhere (view : Store) (write : Write) : Prop :=
  match write.row with
  | .worker row => ∃ old, view.workers.find? row.id = some old ∧
      old.status = row.status
  | .job row => write.call ≠ some .inserted ∧
      ∃ old, view.jobs.find? row.id = some old ∧
        old.projectId = row.projectId ∧
        old.idempotencyKey = row.idempotencyKey
  | .session row => write.call ≠ some .inserted ∧
      ∃ old, view.sessions.find? row.id = some old ∧
        old.projectId = row.projectId ∧
        old.idempotencyKey = row.idempotencyKey
  | .event _ => False
  | _ => True

theorem emits_updateJob {call : Option Call} {id : String}
    {guard : JobRow → Bool} {set : JobRow → JobRow}
    (other : call ≠ some .inserted)
    (keeps : ∀ row, (set row).id = row.id ∧
      (set row).projectId = row.projectId ∧
      (set row).idempotencyKey = row.idempotencyKey) :
    (query (update .job call (fun store => store.jobWhere id guard) set)).Emits
      (EachWrite Write.Elsewhere) := by
  apply emits_update
  intro view row found
  obtain ⟨sameId, sameProject, sameKey⟩ := keeps row
  obtain ⟨stored, _⟩ := Store.jobWhere_eq_some.mp found
  refine ⟨other, row, ?_, sameProject.symm, sameKey.symm⟩
  rw [sameId, KeyedTable.key_of_find? stored]
  exact stored

theorem emits_updateJobs {call : Option Call}
    {guard : JobRow → Bool} {set : JobRow → JobRow}
    (other : call ≠ some .inserted)
    (keeps : ∀ row, (set row).id = row.id ∧
      (set row).projectId = row.projectId ∧
      (set row).idempotencyKey = row.idempotencyKey) :
    (query (updateAll .job call
      (fun store scan => store.selectJobs scan guard) set)).Emits
      (EachWrite Write.Elsewhere) := by
  apply emits_updateAll
  intro view scan row selected
  obtain ⟨sameId, sameProject, sameKey⟩ := keeps row
  refine ⟨other, row, ?_, sameProject.symm, sameKey.symm⟩
  rw [sameId]
  exact KeyedTable.mem_rows_iff.mp (Store.mem_selectJobs.mp selected).1

theorem emits_updateSession {call : Option Call} {id : String}
    {guard : SessionRow → Bool} {set : SessionRow → SessionRow}
    (other : call ≠ some .inserted)
    (keeps : ∀ row, (set row).id = row.id ∧
      (set row).projectId = row.projectId ∧
      (set row).idempotencyKey = row.idempotencyKey) :
    (query (update .session call (fun store => store.sessionWhere id guard)
      set)).Emits (EachWrite Write.Elsewhere) := by
  apply emits_update
  intro view row found
  obtain ⟨sameId, sameProject, sameKey⟩ := keeps row
  obtain ⟨stored, _⟩ := Store.sessionWhere_eq_some.mp found
  refine ⟨other, row, ?_, sameProject.symm, sameKey.symm⟩
  rw [sameId, KeyedTable.key_of_find? stored]
  exact stored

theorem emits_updateSessions {call : Option Call}
    {guard : SessionRow → Bool} {set : SessionRow → SessionRow}
    (other : call ≠ some .inserted)
    (keeps : ∀ row, (set row).id = row.id ∧
      (set row).projectId = row.projectId ∧
      (set row).idempotencyKey = row.idempotencyKey) :
    (query (updateAll .session call
      (fun store scan => store.selectSessions scan guard) set)).Emits
      (EachWrite Write.Elsewhere) := by
  apply emits_updateAll
  intro view scan row selected
  obtain ⟨sameId, sameProject, sameKey⟩ := keeps row
  refine ⟨other, row, ?_, sameProject.symm, sameKey.symm⟩
  rw [sameId]
  exact KeyedTable.mem_rows_iff.mp (Store.mem_selectSessions.mp selected).1

/-- The methods beside registration, heartbeat, staleness, insertion and
events. -/
structure Persistence.ActsElsewhere (transaction : Persistence) : Prop where
  setWorkerDrain : ∀ workerId drainMode now,
    (transaction.setWorkerDrain workerId drainMode now).Emits
      (EachWrite Write.Elsewhere)
  getJob : ∀ jobId,
    (transaction.getJob jobId).Emits (EachWrite Write.Elsewhere)
  startJob : ∀ jobId workerId leaseId leaseExpiresAt now,
    (transaction.startJob jobId workerId leaseId leaseExpiresAt now).Emits
      (EachWrite Write.Elsewhere)
  renewJob : ∀ jobId workerId leaseId leaseExpiresAt now,
    (transaction.renewJob jobId workerId leaseId leaseExpiresAt now).Emits
      (EachWrite Write.Elsewhere)
  finishJob : ∀ jobId workerId leaseId outcome result error now,
    (transaction.finishJob jobId workerId leaseId outcome result error
      now).Emits (EachWrite Write.Elsewhere)
  cancelJob : ∀ jobId now,
    (transaction.cancelJob jobId now).Emits (EachWrite Write.Elsewhere)
  recoverExpiredJobs : ∀ now offlineWorkerIds,
    (transaction.recoverExpiredJobs now offlineWorkerIds).Emits
      (EachWrite Write.Elsewhere)
  getSession : ∀ sessionId,
    (transaction.getSession sessionId).Emits (EachWrite Write.Elsewhere)
  startSession : ∀ sessionId workerId leaseId leaseExpiresAt now,
    (transaction.startSession sessionId workerId leaseId leaseExpiresAt
      now).Emits (EachWrite Write.Elsewhere)
  activateSession : ∀ sessionId workerId leaseId leaseExpiresAt now,
    (transaction.activateSession sessionId workerId leaseId leaseExpiresAt
      now).Emits (EachWrite Write.Elsewhere)
  renewSession : ∀ sessionId workerId leaseId leaseExpiresAt now,
    (transaction.renewSession sessionId workerId leaseId leaseExpiresAt
      now).Emits (EachWrite Write.Elsewhere)
  closeSession : ∀ sessionId now,
    (transaction.closeSession sessionId now).Emits (EachWrite Write.Elsewhere)
  recoverInterruptedSessions : ∀ now offlineWorkerIds,
    (transaction.recoverInterruptedSessions now offlineWorkerIds).Emits
      (EachWrite Write.Elsewhere)
  assignJob : ∀ jobId placement leaseId leaseExpiresAt now,
    (transaction.assignJob jobId placement leaseId leaseExpiresAt now).Emits
      (EachWrite Write.Elsewhere)
  assignSession : ∀ sessionId placement leaseId leaseExpiresAt now,
    (transaction.assignSession sessionId placement leaseId leaseExpiresAt
      now).Emits (EachWrite Write.Elsewhere)
  listBlockedGpuResources :
    transaction.listBlockedGpuResources.Emits (EachWrite Write.Elsewhere)
  listWorkers : transaction.listWorkers.Emits (EachWrite Write.Elsewhere)
  listActiveJobs : transaction.listActiveJobs.Emits (EachWrite Write.Elsewhere)
  listOccupyingSessions :
    transaction.listOccupyingSessions.Emits (EachWrite Write.Elsewhere)
  listQueuedJobs : transaction.listQueuedJobs.Emits (EachWrite Write.Elsewhere)
  listRequestedSessions :
    transaction.listRequestedSessions.Emits (EachWrite Write.Elsewhere)
  reserveExecutionAttempt : ∀ claim,
    (transaction.reserveExecutionAttempt claim).Emits
      (EachWrite Write.Elsewhere)
  tryAcquireSchedulerLock :
    transaction.tryAcquireSchedulerLock.Emits (EachWrite Write.Elsewhere)

/-- The engine with these methods for the liveness of workers, for what is
submitted, and for events. -/
def Persistence.replacing (transaction : Persistence)
    (upsertWorker : WorkerRegistration → Tx Worker)
    (updateWorkerHeartbeat : String → Heartbeat → Tx (Option Worker))
    (insertJob : JobRequest → Tx JobInsertion)
    (insertSession : SessionRequest → Tx SessionInsertion)
    (appendEvent : String → Option String → Json → Int → Tx Event) :
    Persistence :=
  { transaction with
    upsertWorker := upsertWorker
    updateWorkerHeartbeat := updateWorkerHeartbeat
    insertJob := insertJob
    insertSession := insertSession
    appendEvent := appendEvent }

theorem Persistence.ActsElsewhere.serves {transaction : Persistence}
    (elsewhere : transaction.ActsElsewhere)
    {allowed : Input Store Scan → Effect Write → Prop}
    (wider : ∀ input effect, EachWrite Write.Elsewhere input effect →
      allowed input effect)
    {upsertWorker : WorkerRegistration → Tx Worker}
    {updateWorkerHeartbeat : String → Heartbeat → Tx (Option Worker)}
    {insertJob : JobRequest → Tx JobInsertion}
    {insertSession : SessionRequest → Tx SessionInsertion}
    {appendEvent : String → Option String → Json → Int → Tx Event}
    (upsert : ∀ worker, (upsertWorker worker).Emits allowed)
    (heartbeat : ∀ workerId heartbeat,
      (updateWorkerHeartbeat workerId heartbeat).Emits allowed)
    (insertsJob : ∀ job, (insertJob job).Emits allowed)
    (insertsSession : ∀ session, (insertSession session).Emits allowed)
    (append : ∀ type subjectId payload now,
      (appendEvent type subjectId payload now).Emits allowed)
    (right : Persistence) :
    (transaction.replacing upsertWorker updateWorkerHeartbeat insertJob
      insertSession appendEvent).Serves (.emits allowed) right where
  upsertWorker := upsert
  updateWorkerHeartbeat := heartbeat
  setWorkerDrain workerId drainMode now :=
    (elsewhere.setWorkerDrain workerId drainMode now).mono wider
  insertJob := insertsJob
  getJob jobId := (elsewhere.getJob jobId).mono wider
  startJob jobId workerId leaseId leaseExpiresAt now :=
    (elsewhere.startJob jobId workerId leaseId leaseExpiresAt now).mono wider
  renewJob jobId workerId leaseId leaseExpiresAt now :=
    (elsewhere.renewJob jobId workerId leaseId leaseExpiresAt now).mono wider
  finishJob jobId workerId leaseId outcome result error now :=
    (elsewhere.finishJob jobId workerId leaseId outcome result error now).mono
      wider
  cancelJob jobId now := (elsewhere.cancelJob jobId now).mono wider
  insertSession := insertsSession
  getSession sessionId := (elsewhere.getSession sessionId).mono wider
  startSession sessionId workerId leaseId leaseExpiresAt now :=
    (elsewhere.startSession sessionId workerId leaseId leaseExpiresAt now).mono
      wider
  activateSession sessionId workerId leaseId leaseExpiresAt now :=
    (elsewhere.activateSession sessionId workerId leaseId leaseExpiresAt
      now).mono wider
  renewSession sessionId workerId leaseId leaseExpiresAt now :=
    (elsewhere.renewSession sessionId workerId leaseId leaseExpiresAt now).mono
      wider
  closeSession sessionId now :=
    (elsewhere.closeSession sessionId now).mono wider
  appendEvent := append
  reserveExecutionAttempt claim :=
    (elsewhere.reserveExecutionAttempt claim).mono wider

theorem Persistence.ActsElsewhere.schedules {transaction : Persistence}
    (elsewhere : transaction.ActsElsewhere)
    {allowed : Input Store Scan → Effect Write → Prop}
    (wider : ∀ input effect, EachWrite Write.Elsewhere input effect →
      allowed input effect)
    (mark : ∀ staleBefore now,
      (transaction.markStaleWorkersOffline staleBefore now).Emits allowed)
    (append : ∀ type subjectId payload now,
      (transaction.appendEvent type subjectId payload now).Emits allowed)
    (right : Persistence) :
    transaction.Schedules (.emits allowed) right where
  tryAcquireSchedulerLock := elsewhere.tryAcquireSchedulerLock.mono wider
  markStaleWorkersOffline := mark
  recoverExpiredJobs now ids :=
    (elsewhere.recoverExpiredJobs now ids).mono wider
  recoverInterruptedSessions now ids :=
    (elsewhere.recoverInterruptedSessions now ids).mono wider
  appendEvent := append
  listBlockedGpuResources := elsewhere.listBlockedGpuResources.mono wider
  listWorkers := elsewhere.listWorkers.mono wider
  listActiveJobs := elsewhere.listActiveJobs.mono wider
  listOccupyingSessions := elsewhere.listOccupyingSessions.mono wider
  listQueuedJobs := elsewhere.listQueuedJobs.mono wider
  listRequestedSessions := elsewhere.listRequestedSessions.mono wider
  assignJob jobId placement leaseId leaseExpiresAt now :=
    (elsewhere.assignJob jobId placement leaseId leaseExpiresAt now).mono wider
  assignSession sessionId placement leaseId leaseExpiresAt now :=
    (elsewhere.assignSession sessionId placement leaseId leaseExpiresAt
      now).mono wider

/-- A statement and then a computation of the answer. -/
theorem emits_mapped {α β : Type}
    {allowed : Input Store Scan → Effect Write → Prop} {program : Tx α}
    {answer : α → β} (emits : program.Emits allowed) :
    (program.bind (fun result => .done (.ok (answer result)))).Emits allowed :=
  Program.Emits.bind emits (fun _ => trivial)

section Postgres

open Postgres

theorem lockOwner_elsewhere (claim : ExecutionClaim) :
    (lockOwner claim).Emits (EachWrite Write.Elsewhere) := by
  unfold lockOwner
  split
  · refine emits_mapped (emits_update ?_)
    intro view row found
    refine ⟨by simp, row, ?_, rfl, rfl⟩
    have atId : row.id = claim.subjectId := KeyedTable.key_of_find? found
    rw [← found]
    exact congrArg view.jobs.find? atId
  · refine emits_mapped (emits_update ?_)
    intro view row found
    refine ⟨by simp, row, ?_, rfl, rfl⟩
    have atId : row.id = claim.subjectId := KeyedTable.key_of_find? found
    rw [← found]
    exact congrArg view.sessions.find? atId

/-- The worker row is locked as it was. -/
theorem postgres_reserve_elsewhere (claim : ExecutionClaim) :
    (postgresReserveExecutionAttempt claim).Emits
      (EachWrite Write.Elsewhere) := by
  have locks : tryAdvisoryLock.Emits (EachWrite Write.Elsewhere) :=
    fun _ => trivial
  refine Program.Emits.bind locks ?_
  intro acquired
  cases acquired with
  | false => trivial
  | true =>
      refine Program.Emits.bind (emits_update ?_) (fun worker => ?_)
      · intro view row found
        refine ⟨row, ?_, rfl⟩
        have atId : row.id = claim.workerId := KeyedTable.key_of_find? found
        rw [← found]
        exact congrArg view.workers.find? atId
      · refine Program.Emits.bind (lockOwner_elsewhere claim) ?_
        intro workload
        split
        · trivial
        · refine Program.Emits.bind emits_select ?_
          intro conflict
          cases conflict with
          | true => trivial
          | false =>
              refine Program.Emits.bind (emits_referencing
                (emits_upsert (fun _ => trivial) (fun _ _ _ => trivial))) ?_
              intro fence
              cases fence with
              | none => trivial
              | some fence => exact emits_mapped (emits_insert (fun _ => trivial))

theorem postgres_elsewhere (text : Collation) :
    (postgres text).ActsElsewhere where
  setWorkerDrain workerId drainMode now := by
    refine emits_mapped (emits_update ?_)
    intro view row found
    refine ⟨row, ?_, rfl⟩
    have atId : row.id = workerId := KeyedTable.key_of_find? found
    rw [← found]
    exact congrArg view.workers.find? atId
  getJob _ := emits_mapped emits_select
  startJob _ _ _ _ _ :=
    emits_mapped (emits_updateJob (by simp) (fun _ => ⟨rfl, rfl, rfl⟩))
  renewJob _ _ _ _ _ :=
    emits_mapped (emits_updateJob (by simp) (fun _ => ⟨rfl, rfl, rfl⟩))
  finishJob _ _ _ _ _ _ _ :=
    emits_mapped (emits_updateJob (by simp) (fun _ => ⟨rfl, rfl, rfl⟩))
  cancelJob _ _ :=
    emits_mapped (emits_updateJob (by simp) (fun _ => ⟨rfl, rfl, rfl⟩))
  recoverExpiredJobs _ _ :=
    emits_mapped (emits_updateJobs (by simp) (fun _ => ⟨rfl, rfl, rfl⟩))
  getSession _ := emits_mapped emits_select
  startSession _ _ _ _ _ :=
    emits_mapped (emits_updateSession (by simp) (fun _ => ⟨rfl, rfl, rfl⟩))
  activateSession _ _ _ _ _ :=
    emits_mapped (emits_updateSession (by simp) (fun _ => ⟨rfl, rfl, rfl⟩))
  renewSession _ _ _ _ _ :=
    emits_mapped (emits_updateSession (by simp) (fun _ => ⟨rfl, rfl, rfl⟩))
  closeSession _ _ :=
    emits_mapped (emits_updateSession (by simp) (fun _ => ⟨rfl, rfl, rfl⟩))
  recoverInterruptedSessions _ _ :=
    emits_mapped (emits_updateSessions (by simp) (fun _ => ⟨rfl, rfl, rfl⟩))
  assignJob _ _ _ _ _ :=
    emits_mapped (emits_referencing
      (emits_updateJob (by simp) (fun _ => ⟨rfl, rfl, rfl⟩)))
  assignSession _ _ _ _ _ :=
    emits_mapped (emits_referencing
      (emits_updateSession (by simp) (fun _ => ⟨rfl, rfl, rfl⟩)))
  listBlockedGpuResources :=
    emits_mapped (emits_updateAll (fun _ _ _ _ => trivial))
  listWorkers := emits_mapped emits_select
  listActiveJobs := emits_mapped emits_select
  listOccupyingSessions := emits_mapped emits_select
  listQueuedJobs := emits_mapped emits_select
  listRequestedSessions := emits_mapped emits_select
  reserveExecutionAttempt := postgres_reserve_elsewhere
  tryAcquireSchedulerLock _ := trivial

end Postgres

section Sqlite

open Database

theorem recoverJobs_elsewhere (now : Int) (offlineWorkerIds : List String)
    (jobs : List Job) :
    (recoverJobs now offlineWorkerIds jobs).Emits
      (EachWrite Write.Elsewhere) := by
  induction jobs with
  | nil => trivial
  | cons job rest induction =>
      refine Program.Emits.bind
        (emits_updateJob (by simp) (fun _ => ⟨rfl, rfl, rfl⟩)) ?_
      intro row
      refine Program.Emits.bind induction ?_
      intro recovered
      cases row <;> trivial

theorem recoverSessions_elsewhere (now : Int) (offlineWorkerIds : List String)
    (sessions : List Session) :
    (recoverSessions now offlineWorkerIds sessions).Emits
      (EachWrite Write.Elsewhere) := by
  induction sessions with
  | nil => trivial
  | cons session rest induction =>
      refine Program.Emits.bind
        (emits_updateSession (by simp) (fun _ => ⟨rfl, rfl, rfl⟩)) ?_
      intro row
      refine Program.Emits.bind induction ?_
      intro recovered
      cases row <;> trivial

theorem sqlite_reserve_elsewhere (claim : ExecutionClaim) :
    (reserveExecutionAttempt claim).Emits (EachWrite Write.Elsewhere) := by
  refine Program.Emits.bind emits_select (fun worker => ?_)
  refine Program.Emits.bind emits_select (fun workload => ?_)
  split
  · trivial
  · refine Program.Emits.bind emits_select (fun jobConflict => ?_)
    refine Program.Emits.bind emits_select (fun sessionConflict => ?_)
    split
    · trivial
    · refine Program.Emits.bind (emits_referencing
        (emits_upsert (fun _ => trivial) (fun _ _ _ => trivial))) ?_
      intro fence
      cases fence with
      | none => trivial
      | some fence => exact emits_mapped (emits_insert (fun _ => trivial))

theorem sqlite_elsewhere : sqlite.ActsElsewhere where
  setWorkerDrain := (postgres_elsewhere Collation.binary).setWorkerDrain
  getJob _ := emits_mapped emits_select
  startJob _ _ _ _ _ :=
    emits_mapped (emits_updateJob (by simp) (fun _ => ⟨rfl, rfl, rfl⟩))
  renewJob _ _ _ _ _ :=
    emits_mapped (emits_updateJob (by simp) (fun _ => ⟨rfl, rfl, rfl⟩))
  finishJob _ _ _ _ _ _ _ :=
    emits_mapped (emits_updateJob (by simp) (fun _ => ⟨rfl, rfl, rfl⟩))
  cancelJob _ _ :=
    emits_mapped (emits_updateJob (by simp) (fun _ => ⟨rfl, rfl, rfl⟩))
  recoverExpiredJobs now offlineWorkerIds :=
    Program.Emits.bind (emits_mapped emits_select)
      (fun _ => recoverJobs_elsewhere now offlineWorkerIds _)
  getSession _ := emits_mapped emits_select
  startSession _ _ _ _ _ :=
    emits_mapped (emits_updateSession (by simp) (fun _ => ⟨rfl, rfl, rfl⟩))
  activateSession _ _ _ _ _ :=
    emits_mapped (emits_updateSession (by simp) (fun _ => ⟨rfl, rfl, rfl⟩))
  renewSession _ _ _ _ _ :=
    emits_mapped (emits_updateSession (by simp) (fun _ => ⟨rfl, rfl, rfl⟩))
  closeSession _ _ :=
    emits_mapped (emits_updateSession (by simp) (fun _ => ⟨rfl, rfl, rfl⟩))
  recoverInterruptedSessions now offlineWorkerIds :=
    Program.Emits.bind (emits_mapped emits_select)
      (fun _ => recoverSessions_elsewhere now offlineWorkerIds _)
  assignJob _ _ _ _ _ :=
    emits_mapped (emits_referencing
      (emits_updateJob (by simp) (fun _ => ⟨rfl, rfl, rfl⟩)))
  assignSession _ _ _ _ _ :=
    emits_mapped (emits_referencing
      (emits_updateSession (by simp) (fun _ => ⟨rfl, rfl, rfl⟩)))
  listBlockedGpuResources := emits_mapped emits_select
  listWorkers := emits_mapped emits_select
  listActiveJobs := emits_mapped emits_select
  listOccupyingSessions := emits_mapped emits_select
  listQueuedJobs := emits_mapped emits_select
  listRequestedSessions := emits_mapped emits_select
  reserveExecutionAttempt := sqlite_reserve_elsewhere
  tryAcquireSchedulerLock := trivial

end Sqlite

/-! ## Events -/

/-- Both engines append an event before anything else happens to the events. -/
def Persistence.Appends (transaction : Persistence) : Prop :=
  ∀ type subjectId payload now, ∃ rest : EventRow → Tx Event,
    (∀ row, (rest row).Emits (EachWrite Write.Elsewhere)) ∧
      transaction.appendEvent type subjectId payload now =
        (query (insertEvent type subjectId payload now)).bind rest

theorem postgres_appends (text : Collation) : (postgres text).Appends := by
  intro type subjectId payload now
  refine ⟨_, ?_, rfl⟩
  intro row
  refine Program.Emits.bind (emits_pruneEvents (fun _ _ => trivial)) ?_
  intro _
  exact emits_mapped emits_select

theorem sqlite_appends : sqlite.Appends := by
  intro type subjectId payload now
  refine ⟨_, ?_, rfl⟩
  intro row
  exact emits_mapped (emits_pruneEvents (fun _ _ => trivial))

theorem Persistence.Appends.emits {transaction : Persistence}
    (appends : transaction.Appends) {property : Store → Write → Prop}
    (wider : ∀ view write, Write.Elsewhere view write → property view write)
    {type : String} {subjectId : Option String} {payload : Json} {now : Int}
    (holds : ∀ view sequence, property view
      ⟨.event ⟨sequence, type, subjectId, payload, now⟩, some .appended⟩) :
    (transaction.appendEvent type subjectId payload now).Emits
      (EachWrite property) := by
  obtain ⟨rest, elsewhere, same⟩ := appends type subjectId payload now
  rw [same]
  refine Program.Emits.bind (emits_query ?_) (fun row => ?_)
  · intro input answer effect accepted
    cases accepted
    exact each_single (holds _ _)
  · refine (elsewhere row).mono ?_
    intro input effect each write member
    exact wider _ _ (each write member)

/-! ## The engines -/

/-- What the two engines do in the same words: workers are registered, heard of
and marked offline by the same statements. -/
structure Persistence.Announces (transaction : Persistence) : Prop where
  elsewhere : transaction.ActsElsewhere
  inserts : transaction.Inserts
  appends : transaction.Appends
  upsertWorker : ∀ worker,
    transaction.upsertWorker worker = Database.upsertWorker worker
  updateWorkerHeartbeat : ∀ workerId heartbeat,
    transaction.updateWorkerHeartbeat workerId heartbeat =
      Database.updateWorkerHeartbeat workerId heartbeat
  markStaleWorkersOffline : ∀ staleBefore now,
    transaction.markStaleWorkersOffline staleBefore now =
      Database.markStaleWorkersOffline staleBefore now

theorem postgres_announces (text : Collation) :
    (postgres text).Announces where
  elsewhere := postgres_elsewhere text
  inserts := postgres_inserts text
  appends := postgres_appends text
  upsertWorker _ := rfl
  updateWorkerHeartbeat _ _ := rfl
  markStaleWorkersOffline _ _ := rfl

theorem sqlite_announces : sqlite.Announces where
  elsewhere := sqlite_elsewhere
  inserts := sqlite_inserts
  appends := sqlite_appends
  upsertWorker _ := rfl
  updateWorkerHeartbeat _ _ := rfl
  markStaleWorkersOffline _ _ := rfl

section Liveness

variable {transaction : Persistence} (announces : transaction.Announces)
  {property : Store → Write → Prop}

include announces

theorem upsertWorker_emits (worker : WorkerRegistration)
    (holds : ∀ view row, property view ⟨.worker row, some .registered⟩) :
    (transaction.upsertWorker worker).Emits (EachWrite property) := by
  rw [announces.upsertWorker]
  refine Program.Emits.bind
    (emits_upsert (fun view => holds view _) (fun view _ _ => holds view _)) ?_
  intro row
  cases row <;> trivial

theorem updateWorkerHeartbeat_emits (workerId : String)
    (heartbeat : Heartbeat)
    (holds : ∀ view row, property view ⟨.worker row, some .heartbeat⟩) :
    (transaction.updateWorkerHeartbeat workerId heartbeat).Emits
      (EachWrite property) := by
  rw [announces.updateWorkerHeartbeat]
  exact emits_mapped (emits_update (fun view _ _ => holds view _))

theorem markStaleWorkersOffline_emits (staleBefore now : Int)
    (holds : ∀ view row, property view ⟨.worker row, some .markedOffline⟩) :
    (transaction.markStaleWorkersOffline staleBefore now).Emits
      (EachWrite property) := by
  rw [announces.markStaleWorkersOffline]
  exact emits_mapped (emits_updateAll (fun view _ _ _ => holds view _))

end Liveness

/-! ## A pass -/

/-- What a pass does once it has told of the workers that it took offline. -/
def recoverAndPlace (transaction : Persistence) (settings : SchedulerSettings)
    (input : PassInput) (staleWorkerIds : List String) : Tx PassResult := do
  let recoveries ← transaction.recoverExpiredJobs input.now staleWorkerIds
  Scheduler.reportJobs transaction input.now recoveries
  let sessionRecoveries ← transaction.recoverInterruptedSessions input.now
    staleWorkerIds
  Scheduler.reportSessions transaction input.now sessionRecoveries
  let assigned ← Scheduler.place transaction settings input
  pure ⟨true, staleWorkerIds, recoveries.map (·.job), assigned⟩

theorem lockedPass_eq (transaction : Persistence)
    (settings : SchedulerSettings) (input : PassInput) :
    Scheduler.lockedPass transaction settings input =
      (transaction.markStaleWorkersOffline
        (input.now - settings.heartbeatTimeoutMs) input.now).bind (fun ids =>
          (Scheduler.reportStale transaction input.now ids).bind (fun _ =>
            recoverAndPlace transaction settings input ids)) :=
  rfl

/-- The types of the events that a pass appends, beside those of the workers
that it takes offline. -/
def recoveryEvents : List String :=
  ["job.requeued", "job.failed", "session.interrupted", "session.requeued",
    "job.leased", "session.allocated"]

section Pass

open Scheduler

theorem reportStale_emits {transaction : Persistence}
    {allowed : Input Store Scan → Effect Write → Prop}
    (append : ∀ subjectId payload now,
      (transaction.appendEvent "worker.offline" subjectId payload now).Emits
        allowed) (now : Int) (workerIds : List String) :
    (reportStale transaction now workerIds).Emits allowed := by
  induction workerIds with
  | nil => trivial
  | cons id rest induction =>
      exact Program.Emits.bind (append _ _ _) (fun _ => induction)

variable {transaction : Persistence} {settings : SchedulerSettings}
  {allowed : Input Store Scan → Effect Write → Prop}
  (elsewhere : transaction.ActsElsewhere)
  (wider : ∀ input effect, EachWrite Write.Elsewhere input effect →
    allowed input effect)
  (append : ∀ type ∈ recoveryEvents, ∀ subjectId payload now,
    (transaction.appendEvent type subjectId payload now).Emits allowed)

include append

theorem reportJobs_emits (now : Int) (recoveries : List RecoveredJob) :
    (reportJobs transaction now recoveries).Emits allowed := by
  induction recoveries with
  | nil => trivial
  | cons recovery rest induction =>
      refine Program.Emits.bind (append _ ?_ _ _ _) (fun _ => induction)
      split <;> simp [recoveryEvents]

theorem reportSessions_emits (now : Int)
    (recoveries : List RecoveredSession) :
    (reportSessions transaction now recoveries).Emits allowed := by
  induction recoveries with
  | nil => trivial
  | cons recovery rest induction =>
      simp only [Scheduler.reportSessions]
      refine Program.Emits.bind (append _ (by simp [recoveryEvents]) _ _ _)
        (fun _ => ?_)
      split
      · exact Program.Emits.bind (append _ (by simp [recoveryEvents]) _ _ _)
          (fun _ => induction)
      · exact induction

include elsewhere wider

theorem assignEntry_emits (now : Int) (leaseId : String)
    (placement : Placement) (entry : PendingEntry) :
    (assignEntry transaction settings now leaseId placement entry).Emits
      allowed := by
  cases entry with
  | job item =>
      refine Program.Emits.bind
        ((elsewhere.assignJob _ _ _ _ _).mono wider) ?_
      intro leasedJob
      cases leasedJob with
      | none => trivial
      | some leasedJob =>
          exact emits_mapped (append _ (by simp [recoveryEvents]) _ _ _)
  | session item =>
      refine Program.Emits.bind
        ((elsewhere.assignSession _ _ _ _ _).mono wider) ?_
      intro allocated
      cases allocated with
      | none => trivial
      | some allocated =>
          exact emits_mapped (append _ (by simp [recoveryEvents]) _ _ _)

theorem placePending_emits (input : PassInput) (workers : List Worker)
    (blocked : List BlockedGpu) (pending : List PendingEntry) (drawn : Nat)
    (occupied : List NonEmptyString) :
    (placePending transaction settings input workers blocked pending drawn
      occupied).Emits allowed := by
  induction pending generalizing drawn occupied with
  | nil => trivial
  | cons entry rest induction =>
      simp only [Scheduler.placePending]
      split
      · exact induction _ _
      · next placement _ =>
          refine Program.Emits.bind
            (assignEntry_emits elsewhere wider append _ _ placement entry) ?_
          rintro ⟨placed, job⟩
          cases placed with
          | true => exact emits_mapped (induction _ _)
          | false => exact induction _ _

theorem recoverAndPlace_emits (input : PassInput) (ids : List String) :
    (recoverAndPlace transaction settings input ids).Emits allowed := by
  have moves : ∀ {α : Type} {program : Tx α},
      program.Emits (EachWrite Write.Elsewhere) → program.Emits allowed :=
    fun emits => emits.mono wider
  refine Program.Emits.bind (moves (elsewhere.recoverExpiredJobs _ _))
    (fun _ => ?_)
  refine Program.Emits.bind (reportJobs_emits append _ _) (fun _ => ?_)
  refine Program.Emits.bind (moves (elsewhere.recoverInterruptedSessions _ _))
    (fun _ => ?_)
  refine Program.Emits.bind (reportSessions_emits append _ _) (fun _ => ?_)
  refine emits_mapped ?_
  refine Program.Emits.bind (moves elsewhere.listBlockedGpuResources)
    (fun _ => ?_)
  refine Program.Emits.bind (moves elsewhere.listWorkers) (fun _ => ?_)
  refine Program.Emits.bind (moves elsewhere.listActiveJobs) (fun _ => ?_)
  refine Program.Emits.bind (moves elsewhere.listOccupyingSessions)
    (fun _ => ?_)
  refine Program.Emits.bind (moves elsewhere.listQueuedJobs) (fun _ => ?_)
  refine Program.Emits.bind (moves elsewhere.listRequestedSessions)
    (fun _ => ?_)
  exact placePending_emits elsewhere wider append _ _ _ _ _ _

end Pass

end GpuLink
