import GpuLink.ControlPlane.Runs
import GpuLink.Library.Schedule
import GpuLink.Store.LeaseFencing

/-!
# Draining a worker

`setWorkerDrain` does not take the scheduler's lock, and a pass reads the worker
list once.  A pass that has read the list before the drain commits may still
place work on the worker; every other pass spares it.
-/

namespace GpuLink

open Transactional Sql Postgres Scheduler

/-! ## What a change gives to a worker -/

/-- The worker that a job or a session names. -/
def namedWorker : (key : RowKey) → Option key.Row → Option String
  | .job _, row => Option.bind row JobRow.assignedWorkerId
  | .session _, row => Option.bind row SessionRow.assignedWorkerId
  | _, _ => none

/-- The leases that were given out for the row. -/
def Kept.leases {ρ : Type} (kept : Kept ρ) : List String :=
  kept.calls.filterMap Call.leaseId

/-- What names the worker afterwards has named it before, under the same
lease. -/
def NotGiven (workerId : String) (key : RowKey)
    (before after : Kept key.Row) : Prop :=
  namedWorker key after.row = some workerId →
    namedWorker key before.row = some workerId ∧ after.leases = before.leases

/-- The worker is there and draining. -/
def Store.Draining (store : Store) (workerId : String) : Prop :=
  ∃ row, store.workers.find? workerId = some row ∧ row.drainMode

/-- Draining workers stay so. -/
def DrainStays (key : RowKey) (before after : Kept key.Row) : Prop :=
  match key, before, after with
  | .worker _, before, after => ∀ old, before.row = some old →
      WorkerRow.drainMode old →
      ∃ row, after.row = some row ∧ WorkerRow.drainMode row
  | _, _, _ => True

/-- Nothing is given to anybody. -/
def NothingGiven (key : RowKey) (before after : Kept key.Row) : Prop :=
  ∀ workerId, NotGiven workerId key before after

/-- Nothing is given to anybody, and draining workers stay so. -/
def Spared (key : RowKey) (before after : Kept key.Row) : Prop :=
  NothingGiven key before after ∧ DrainStays key before after

theorem notGiven_refl (workerId : String) (key : RowKey) (kept : Kept key.Row) :
    NotGiven workerId key kept kept :=
  fun named => ⟨named, rfl⟩

theorem notGiven_trans (workerId : String) (key : RowKey)
    {a b c : Kept key.Row} (first : NotGiven workerId key a b)
    (second : NotGiven workerId key b c) : NotGiven workerId key a c := by
  intro named
  obtain ⟨middle, later⟩ := second named
  obtain ⟨before, earlier⟩ := first middle
  exact ⟨before, later.trans earlier⟩

theorem nothingGiven_refl (key : RowKey) (kept : Kept key.Row) :
    NothingGiven key kept kept :=
  fun workerId => notGiven_refl workerId key kept

theorem nothingGiven_trans (key : RowKey) {a b c : Kept key.Row}
    (first : NothingGiven key a b) (second : NothingGiven key b c) :
    NothingGiven key a c :=
  fun workerId => notGiven_trans workerId key (first workerId) (second workerId)

theorem drainStays_refl (key : RowKey) (kept : Kept key.Row) :
    DrainStays key kept kept := by
  cases key with
  | worker id => exact fun old found draining => ⟨old, found, draining⟩
  | _ => trivial

theorem drainStays_trans (key : RowKey) {a b c : Kept key.Row}
    (first : DrainStays key a b) (second : DrainStays key b c) :
    DrainStays key a c := by
  cases key with
  | worker id =>
      intro old found draining
      obtain ⟨middle, middleFound, still⟩ := first old found draining
      exact second middle middleFound still
  | _ => trivial

theorem Store.Draining.after {earlier later : Store} {workerId : String}
    (stays : Rowwise DrainStays earlier later)
    (draining : earlier.Draining workerId) : later.Draining workerId := by
  obtain ⟨row, found, mode⟩ := draining
  exact stays (.worker workerId) row found mode

/-! ## The moves -/

/-- The call gives out no lease. -/
def Call.givesNothing (call : Call) : Prop :=
  call.leaseId = none

theorem JobMove.named {call : Call} {before after : Option JobRow}
    (move : JobMove call before after) (gives : call.givesNothing)
    {workerId : String}
    (named : after.bind JobRow.assignedWorkerId = some workerId) :
    before.bind JobRow.assignedWorkerId = some workerId := by
  cases move with
  | inserted _ unassigned => simp [unassigned] at named
  | assigned => cases gives
  | recovered => simp at named
  | _ => exact named

theorem SessionMove.named {call : Call} {before after : Option SessionRow}
    (move : SessionMove call before after) (gives : call.givesNothing)
    {workerId : String}
    (named : after.bind SessionRow.assignedWorkerId = some workerId) :
    before.bind SessionRow.assignedWorkerId = some workerId := by
  cases move with
  | inserted _ unassigned => simp [unassigned] at named
  | assigned => cases gives
  | closed => simp at named
  | recovered => simp at named
  | _ => exact named

theorem nothingGiven_of_move {key : RowKey} {before after : Kept key.Row}
    (moved : KeptMove Call.givesNothing key before after) :
    NothingGiven key before after := by
  intro workerId named
  rcases moved with rfl | ⟨call, gives, move, noted⟩
  · exact ⟨named, rfl⟩
  refine ⟨?_, ?_⟩
  · cases key with
    | job id => exact JobMove.named move gives named
    | session id => exact SessionMove.named move gives named
    | _ => cases named
  · have unchanged : call.leaseId = none := gives
    simp [Kept.leases, noted, List.filterMap_append, unchanged]

/-- The calls of a pass before its placements. -/
def Call.isRecovery : Call → Prop
  | .markedOffline | .recovered | .appended | .pruned => True
  | _ => False

theorem WorkerMove.keepsDrain {call : Call} {old : WorkerRow}
    {after : Option WorkerRow} (move : WorkerMove call (some old) after)
    (other : call ≠ .drainSet) (draining : old.drainMode) :
    ∃ row, after = some row ∧ row.drainMode := by
  cases move with
  | drainSet => exact (other rfl).elim
  | _ => exact ⟨_, rfl, draining⟩

theorem drainStays_of_move {allowed : Call → Prop}
    (others : ¬ allowed .drainSet) {key : RowKey} {before after : Kept key.Row}
    (moved : KeptMove allowed key before after) :
    DrainStays key before after := by
  rcases moved with rfl | ⟨call, permitted, move, _⟩
  · exact drainStays_refl key _
  cases key with
  | worker id =>
      intro old found draining
      obtain ⟨beforeRow, beforeCalls⟩ := before
      cases found
      exact WorkerMove.keepsDrain move (fun same => others (same ▸ permitted))
        draining
  | _ => trivial

theorem spared_of_moved {before after : Store}
    (moved : Moved Call.isRecovery before after) :
    Rowwise Spared before after := by
  intro key
  refine ⟨nothingGiven_of_move (moved.mono ?_ key),
    drainStays_of_move id (moved key)⟩
  intro call recovery
  cases call <;> first | rfl | cases recovery

/-! ## One transaction -/

/-- The code gives the worker nothing, unless it reads that the worker is not
draining and gives it something later. -/
def LooksFirst (workerId : String) {α : Type} : Tx α → Prop
  | .done _ => True
  | .exec run next => ∀ input answer effect, run input = .ok (answer, effect) →
      Rowwise (NotGiven workerId) input.view
          (applyAll input.view effect.writes) ∧
        (LooksFirst workerId (next answer) ∨
          (input.view.Draining workerId →
            (next answer).Steady (Rowwise (NotGiven workerId))))
  | .tryLock next => ∀ granted, LooksFirst workerId (next granted)

section Looking

variable {workerId : String}

theorem looksFirst_of_steady {α : Type} {code : Tx α}
    (steady : code.Steady (Rowwise (NotGiven workerId))) :
    LooksFirst workerId code := by
  induction code with
  | done outcome => trivial
  | exec run rest induction =>
      intro input answer effect accepted
      obtain ⟨moved, later⟩ := steady input answer effect accepted
      exact ⟨moved, Or.inl (induction answer later)⟩
  | tryLock rest induction =>
      exact fun granted => induction granted (steady granted)

theorem looksFirst_after {α β : Type} {first : Tx α} {next : α → Tx β}
    (spares : first.Steady (Rowwise Spared))
    (later : ∀ answer, LooksFirst workerId (next answer)) :
    LooksFirst workerId (first.bind next) := by
  induction first with
  | done outcome =>
      cases outcome with
      | error problem => trivial
      | ok result => exact later result
  | exec run rest induction =>
      intro input answer effect accepted
      obtain ⟨moved, steady⟩ := spares input answer effect accepted
      exact ⟨fun key => (moved key).1 workerId,
        Or.inl (induction answer steady)⟩
  | tryLock rest induction =>
      intro granted
      exact induction granted (spares granted)

/-- Code that gives nothing away may follow. -/
theorem LooksFirst.bind {α β : Type} {code : Tx α}
    (looks : LooksFirst workerId code) {next : α → Tx β}
    (later : ∀ answer, (next answer).Steady (Rowwise (NotGiven workerId))) :
    LooksFirst workerId (code.bind next) := by
  induction code with
  | done outcome =>
      cases outcome with
      | error problem => trivial
      | ok result => exact looksFirst_of_steady (later result)
  | exec run rest induction =>
      intro input answer effect accepted
      obtain ⟨moved, unread | spares⟩ := looks input answer effect accepted
      · exact ⟨moved, Or.inl (induction answer unread)⟩
      · refine ⟨moved, Or.inr (fun draining => ?_)⟩
        exact Program.Steady.bind (spares draining) later
  | tryLock rest induction =>
      intro granted
      exact induction granted (looks granted)

end Looking

section Pass

variable {text : Collation} {settings : SchedulerSettings} {input : PassInput}

/-- An assignment elsewhere. -/
theorem notGiven_write {workerId : String} {store : Store} {write : Write}
    (elsewhere : namedWorker write.key write.left ≠ some workerId) :
    Rowwise (NotGiven workerId) store (applyAll store [write]) := by
  apply rowwise_applyAll (notGiven_refl workerId)
  · exact List.nodup_singleton _
  · intro other member named
    cases List.mem_singleton.mp member
    exact (elsewhere named).elim

theorem assignJob_elsewhere {workerId : String} {placement : Placement}
    (elsewhere : placement.workerId ≠ workerId) (jobId leaseId : String)
    (leaseExpiresAt now : Int) :
    (postgresAssignJob jobId placement leaseId leaseExpiresAt now).Steady
      (Rowwise (NotGiven workerId)) := by
  refine Program.Steady.bind (steady_referencing (steady_query ?_))
    (fun _ => trivial)
  intro input answer effect accepted
  unfold update at accepted
  split at accepted
  · cases accepted
    exact fun key => notGiven_refl workerId key _
  · cases accepted
    apply notGiven_write
    exact fun named => elsewhere (Option.some.inj named)

theorem assignSession_elsewhere {workerId : String} {placement : Placement}
    (elsewhere : placement.workerId ≠ workerId) (sessionId leaseId : String)
    (leaseExpiresAt now : Int) :
    (postgresAssignSession sessionId placement leaseId leaseExpiresAt
      now).Steady (Rowwise (NotGiven workerId)) := by
  refine Program.Steady.bind (steady_referencing (steady_query ?_))
    (fun _ => trivial)
  intro input answer effect accepted
  unfold update at accepted
  split at accepted
  · cases accepted
    exact fun key => notGiven_refl workerId key _
  · cases accepted
    apply notGiven_write
    exact fun named => elsewhere (Option.some.inj named)

theorem appendEvent_spared (type : String) (subjectId : Option String)
    (payload : Json) (now : Int) :
    (postgresAppendEvent type subjectId payload now).Steady
      (Rowwise Spared) :=
  (@appendEvent_steady Call.isRecovery trivial trivial type subjectId payload
    now).mono spared_of_moved

theorem assignEntry_elsewhere {workerId : String} {placement : Placement}
    (elsewhere : placement.workerId ≠ workerId) (leaseId : String)
    (now : Int) (entry : PendingEntry) :
    (assignEntry (postgres text) settings now leaseId placement entry).Steady
      (Rowwise (NotGiven workerId)) := by
  have appended := fun type subjectId payload =>
    (appendEvent_spared type subjectId payload now).mono
      (fun spared key => (spared key).1 workerId)
  cases entry with
  | job item =>
      refine Program.Steady.bind (assignJob_elsewhere elsewhere _ _ _ _) ?_
      intro leasedJob
      cases leasedJob with
      | none => trivial
      | some leasedJob =>
          exact Program.Steady.bind (appended _ _ _) (fun _ => trivial)
  | session item =>
      refine Program.Steady.bind (assignSession_elsewhere elsewhere _ _ _ _) ?_
      intro allocated
      cases allocated with
      | none => trivial
      | some allocated =>
          exact Program.Steady.bind (appended _ _ _) (fun _ => trivial)

/-- The loop never places on a worker that the list shows as draining. -/
theorem placePending_elsewhere {workerId : String} {workers : List Worker}
    (draining : ∀ worker ∈ workers, worker.id = workerId → worker.drainMode)
    (blocked : List BlockedGpu) (pending : List PendingEntry) (drawn : Nat)
    (occupied : List NonEmptyString) :
    (placePending (postgres text) settings input workers blocked pending drawn
      occupied).Steady (Rowwise (NotGiven workerId)) := by
  induction pending generalizing drawn occupied with
  | nil => trivial
  | cons entry rest induction =>
      simp only [Scheduler.placePending]
      split
      · exact induction _ _
      · rename_i placement chosen
        obtain ⟨worker, listed, named, available, _⟩ :=
          choosePlacement_sound chosen
        have elsewhere : placement.workerId ≠ workerId := by
          intro same
          have drained := draining worker listed (named.trans same)
          simp [workerAvailable, drained] at available
        refine Program.Steady.bind (assignEntry_elsewhere elsewhere _ _ entry) ?_
        rintro ⟨placed, job⟩
        cases placed with
        | true => exact Program.Steady.bind (induction _ _) (fun _ => trivial)
        | false => exact induction _ _

/-- What follows the read of the worker list. -/
theorem looksFirst_listWorkers {α : Type} {workerId : String}
    {rest : List Worker → Tx α}
    (spares : ∀ workers,
      (∀ worker ∈ workers, worker.id = workerId → Worker.drainMode worker) →
      (rest workers).Steady (Rowwise (NotGiven workerId))) :
    LooksFirst workerId ((postgresListWorkers text).bind rest) := by
  intro input answer effect accepted
  cases accepted
  refine ⟨fun key => notGiven_refl workerId key _, Or.inr ?_⟩
  rintro ⟨row, found, mode⟩
  apply spares
  intro worker member named
  obtain ⟨listedRow, listed, rfl⟩ := List.mem_map.mp member
  have stored := (Store.mem_selectWorkers.mp (mem_orderBy.mp listed)).1
  have same : listedRow = row := by
    have looked := KeyedTable.mem_rows_iff.mp stored
    have atId : listedRow.id = workerId := named
    rw [atId, found] at looked
    exact (Option.some.inj looked).symm
  exact same ▸ mode

theorem moved_spared {α : Type} {code : Tx α}
    (steady : code.Steady (Moved Call.isRecovery)) :
    code.Steady (Rowwise Spared) :=
  steady.mono spared_of_moved

theorem place_looksFirst (workerId : String) :
    LooksFirst workerId (place (postgres text) settings input) := by
  refine looksFirst_after
    (moved_spared (listBlockedGpuResources_steady text)) ?_
  intro blocked
  apply looksFirst_listWorkers
  intro workers draining
  have read : ∀ {α β : Type} (answer : Store → Scan → α) (next : α → β),
      (Program.bind (query (select answer))
        (fun rows => .done (.ok (next rows)))).Steady
          (Rowwise (NotGiven workerId)) := by
    intro α β answer next
    refine Program.Steady.bind ?_ (fun _ => trivial)
    exact (moved_spared moved_select).mono
      (fun spared key => (spared key).1 workerId)
  refine Program.Steady.bind (read _ _) (fun activeJobs => ?_)
  refine Program.Steady.bind (read _ _) (fun occupyingSessions => ?_)
  refine Program.Steady.bind (read _ _) (fun queuedJobs => ?_)
  refine Program.Steady.bind (read _ _) (fun requestedSessions => ?_)
  exact placePending_elsewhere draining blocked _ 0 _

theorem pass_looksFirst (workerId : String) :
    LooksFirst workerId ((Service.Transaction.pass input).code (postgres text)
      settings) := by
  have appended := fun type subjectId payload now =>
    appendEvent_spared type subjectId payload now
  refine LooksFirst.bind ?_ (fun _ => trivial)
  intro granted
  cases granted with
  | false => trivial
  | true =>
      change LooksFirst workerId (lockedPass (postgres text) settings input)
      refine looksFirst_after
        (moved_spared (markStaleWorkersOffline_steady trivial _ _))
        (fun staleWorkerIds => ?_)
      refine looksFirst_after (@reportStale_related (.steady (Rowwise Spared))
        (postgres text) (postgres text) appended _ _) (fun _ => ?_)
      refine looksFirst_after
        (moved_spared (recoverExpiredJobs_steady trivial _ _))
        (fun recoveries => ?_)
      refine looksFirst_after (@reportJobs_related (.steady (Rowwise Spared))
        (postgres text) (postgres text) appended _ _) (fun _ => ?_)
      refine looksFirst_after
        (moved_spared (recoverInterruptedSessions_steady trivial _ _))
        (fun sessionRecoveries => ?_)
      refine looksFirst_after
        (@reportSessions_related (.steady (Rowwise Spared))
          (postgres text) (postgres text) appended _ _) (fun _ => ?_)
      exact LooksFirst.bind (place_looksFirst workerId) (fun _ => trivial)

/-- No call of a pass sets `drainMode`. -/
theorem pass_drainStays :
    ((Service.Transaction.pass input).code (postgres text) settings).Steady
      (Rowwise DrainStays) := by
  have steady : ((Service.Transaction.pass input).code (postgres text)
      settings).Steady (Moved Call.ByPass) :=
    Program.Steady.bind ((postgres_schedules text (fun _ => id)).runOnce
      settings input) (fun _ => trivial)
  exact steady.mono (fun moved key => drainStays_of_move id (moved key))

end Pass

/-! ## Requests -/

theorem request_nothingGiven (text : Collation) (leaseDurationMs : Int)
    (request : Service.Request) :
    (request.code (postgres text) leaseDurationMs).Steady
      (Rowwise NothingGiven) := by
  have gives : ∀ call : Call, call.ByRequest → call.givesNothing := by
    intro call byRequest
    cases call <;> first | rfl | cases byRequest
  exact Program.Steady.mono
    (fun moved key => nothingGiven_of_move (moved key))
    ((postgres_serves text gives).request leaseDurationMs request)

/-! ## What a commit does to a drained worker -/

/-- How often `setWorkerDrain` was called for the worker. -/
def Store.drainCalls (store : Store) (workerId : String) : Nat :=
  (store.calls (.worker workerId)).count .drainSet

/-- A draining worker is given no lease, and goes on draining unless
`setWorkerDrain` was called for it. -/
structure DrainRespected (before after : Store) (workerId : String) : Prop where
  spared : Rowwise (NotGiven workerId) before after
  stays : after.Draining workerId ∨
    before.drainCalls workerId < after.drainCalls workerId

/-- Only `setWorkerDrain` ends draining. -/
def DrainCounted (key : RowKey) (before after : Kept key.Row) : Prop :=
  before.calls.count .drainSet ≤ after.calls.count .drainSet ∧
    (before.calls.count .drainSet = after.calls.count .drainSet →
      DrainStays key before after)

theorem drainCounted_refl (key : RowKey) (kept : Kept key.Row) :
    DrainCounted key kept kept :=
  ⟨Nat.le_refl _, fun _ => drainStays_refl key kept⟩

theorem drainCounted_trans (key : RowKey) {a b c : Kept key.Row}
    (first : DrainCounted key a b) (second : DrainCounted key b c) :
    DrainCounted key a c := by
  refine ⟨Nat.le_trans first.1 second.1, fun same => ?_⟩
  have firstSame := Nat.le_antisymm first.1 (same ▸ second.1)
  have secondSame := Nat.le_antisymm second.1 (same ▸ first.1)
  exact drainStays_trans key (first.2 firstSame) (second.2 secondSame)

theorem drainCounted_of_move {key : RowKey} {before after : Kept key.Row}
    (moved : KeptMove (fun _ => True) key before after) :
    DrainCounted key before after := by
  rcases moved with rfl | ⟨call, permitted, move, noted⟩
  · exact drainCounted_refl key _
  by_cases drains : call = .drainSet
  · subst drains
    simp only [DrainCounted, noted, List.count_append, List.count_singleton_self]
    refine ⟨Nat.le_succ _, ?_⟩
    intro same
    omega
  · have kept : KeptMove (fun call => call ≠ .drainSet) key before after :=
      Or.inr ⟨call, drains, move, noted⟩
    refine ⟨?_, fun _ => drainStays_of_move (fun other => other rfl) kept⟩
    simp [noted, List.count_append]

theorem DrainRespected.of_spared {before after : Store} {workerId : String}
    (counted : Rowwise DrainCounted before after)
    (draining : before.Draining workerId)
    (spared : Rowwise (NotGiven workerId) before after) :
    DrainRespected before after workerId := by
  refine ⟨spared, ?_⟩
  obtain ⟨grows, stays⟩ := counted (.worker workerId)
  rcases Nat.lt_or_ge (before.drainCalls workerId)
    (after.drainCalls workerId) with fewer | same
  · exact Or.inr fewer
  · obtain ⟨row, found, mode⟩ := draining
    exact Or.inl (stays (Nat.le_antisymm grows same) row found mode)

/-! ## SQLite -/

/-- Code that looks first and lets draining workers drain gives a draining
worker nothing when it runs alone. -/
theorem LooksFirst.spared_of_runs {α : Type} {code : Tx α} {workerId : String}
    {s final : Store} {sequence last : Nat} {outcome : Except TxError α}
    (run : code.Runs s sequence outcome final last)
    (looks : LooksFirst workerId code)
    (stays : code.Steady (Rowwise DrainStays))
    (draining : s.Draining workerId) :
    Rowwise (NotGiven workerId) s final := by
  induction run with
  | done outcome s sequence => exact fun key => notGiven_refl workerId key _
  | exec order accepted later induction =>
      obtain ⟨moved, unread | spares⟩ := looks _ _ _ accepted
      · obtain ⟨keeps, staysLater⟩ := stays _ _ _ accepted
        exact fun key => notGiven_trans workerId key (moved key)
          (induction unread staysLater (draining.after keeps) key)
      · have rest := later.steady (fun s key => notGiven_refl workerId key _)
          (fun first second key =>
            notGiven_trans workerId key (first key) (second key))
          (spares draining)
        exact fun key => notGiven_trans workerId key (moved key) (rest key)
  | fails => exact fun key => notGiven_refl workerId key _
  | tryLock _ induction => exact induction (looks true) (stays true) draining

theorem serialStep_drainRespected {before after : Database.State}
    (step : SerialStep (Service.Begins sqlite) before after)
    {workerId : String} (draining : before.1.Draining workerId) :
    DrainRespected before.1 after.1 workerId := by
  obtain ⟨settings, work, run⟩ := serialStep_postgres step
  have counted : Rowwise DrainCounted before.1 after.1 := by
    refine run.steady (fun s key => drainCounted_refl key _)
      (fun first second key => drainCounted_trans key (first key) (second key))
      ((begins_steady ⟨settings, work, rfl⟩).mono
        (fun moved key => drainCounted_of_move (moved key)))
  refine .of_spared counted draining ?_
  cases work with
  | request request =>
      have nothing : Rowwise NothingGiven before.1 after.1 := by
        refine run.steady (fun s key => nothingGiven_refl key _)
          (fun first second key =>
            nothingGiven_trans key (first key) (second key))
          (request_nothingGiven Collation.binary _ request)
      exact fun key => nothing key workerId
  | pass input =>
      exact LooksFirst.spared_of_runs run (pass_looksFirst workerId)
        pass_drainStays draining

/-! ## PostgreSQL -/

/-- The transaction has given the worker nothing so far, and either has yet to
read the worker list or gives it nothing later. -/
def Harmless (committed : Store) (workerId : String)
    (opened : Open Store Scan Write TxError) : Prop :=
  Rowwise (NotGiven workerId) committed (applyAll committed opened.log) ∧
    (LooksFirst workerId opened.code ∨
      opened.code.Steady (Rowwise (NotGiven workerId)))

/-- Whoever starts to drain at this step has nothing to expect from the
transactions that stay open. -/
def DrainsInOrder (before after : Replicas) : Prop :=
  ∀ workerId, ¬ before.committed.Draining workerId →
    after.committed.Draining workerId →
    ∀ name opened, after.transactions name = some opened →
      Harmless before.committed workerId opened

/-- Runs in which every drain commits in order. -/
abbrev OrderlyRun (text : Collation) : Replicas → Replicas → Prop :=
  Relation.ReflTransGen (fun before after =>
    Cluster.Step (Service.Begins (postgres text)) before after ∧
      DrainsInOrder before after)

/-- A transaction that gives nothing away, or one that lets draining workers
drain and is harmless to them. -/
def Mindful (committed : Store) (opened : Open Store Scan Write TxError) :
    Prop :=
  (opened.code.Steady (Rowwise NothingGiven) ∧
    Rowwise NothingGiven committed (applyAll committed opened.log)) ∨
  (opened.code.Steady (Rowwise DrainStays) ∧
    Rowwise DrainStays committed (applyAll committed opened.log) ∧
    ∀ workerId, committed.Draining workerId →
      Harmless committed workerId opened)

structure AllMindful (replicas : Replicas) : Prop where
  disjoint : replicas.LogsDisjoint
  opened : ∀ name opened, replicas.transactions name = some opened →
    Mindful replicas.committed opened

theorem allMindful_initial : AllMindful (Cluster.initial Store.empty) where
  disjoint := by
    intro left right leftOpen rightOpen different leftFound
    simp [Cluster.initial] at leftFound
  opened := by
    intro name opened found
    simp [Cluster.initial] at found

theorem mindful_begins {text : Collation} {code : Tx Unit}
    (begins : Service.Begins (postgres text) code) (committed : Store) :
    Mindful committed ⟨code, []⟩ := by
  obtain ⟨settings, work, rfl⟩ := begins
  cases work with
  | request request =>
      exact Or.inl ⟨request_nothingGiven text _ request,
        fun key => nothingGiven_refl key _⟩
  | pass input =>
      refine Or.inr ⟨pass_drainStays, fun key => drainStays_refl key _, ?_⟩
      exact fun workerId _ => ⟨fun key => notGiven_refl workerId key _,
        Or.inl (pass_looksFirst workerId)⟩

/-- The next statement of a mindful transaction. -/
theorem Mindful.exec {committed : Store} {β : Type} {run : Statement β}
    {next : β → Tx Unit} {log : List Write} {sequence : Nat} {order : Scan}
    {answer : β} {effect : Effect Write}
    (mindful : Mindful committed ⟨.exec run next, log⟩)
    (accepted : run ⟨applyAll committed log, sequence, order⟩ =
      .ok (answer, effect)) :
    Mindful committed ⟨next answer, log ++ effect.writes⟩ := by
  simp only [Mindful, Harmless, applyAll_append]
  rcases mindful with ⟨steady, given⟩ | ⟨stays, drains, harmless⟩
  · obtain ⟨moved, rest⟩ := steady _ _ _ accepted
    exact Or.inl ⟨rest, fun key =>
      nothingGiven_trans key (given key) (moved key)⟩
  · obtain ⟨keeps, staysLater⟩ := stays _ _ _ accepted
    refine Or.inr ⟨staysLater, fun key =>
      drainStays_trans key (drains key) (keeps key), ?_⟩
    intro workerId draining
    obtain ⟨given, looks | spares⟩ := harmless workerId draining
    · obtain ⟨moved, unread | rest⟩ := looks _ _ _ accepted
      · exact ⟨fun key => notGiven_trans workerId key (given key) (moved key),
          Or.inl unread⟩
      · exact ⟨fun key => notGiven_trans workerId key (given key) (moved key),
          Or.inr (rest (draining.after drains))⟩
    · obtain ⟨moved, rest⟩ := spares _ _ _ accepted
      exact ⟨fun key => notGiven_trans workerId key (given key) (moved key),
        Or.inr rest⟩

/-- An answer to the request for the lock. -/
theorem Mindful.tryLock {committed : Store} {next : Bool → Tx Unit}
    {log : List Write} (mindful : Mindful committed ⟨.tryLock next, log⟩)
    (granted : Bool) : Mindful committed ⟨next granted, log⟩ := by
  rcases mindful with ⟨steady, given⟩ | ⟨stays, drains, harmless⟩
  · exact Or.inl ⟨steady granted, given⟩
  · refine Or.inr ⟨stays granted, drains, ?_⟩
    intro workerId draining
    obtain ⟨given, looks | spares⟩ := harmless workerId draining
    · exact ⟨given, Or.inl (looks granted)⟩
    · exact ⟨given, Or.inr (spares granted)⟩

/-- Another transaction commits. -/
theorem Mindful.after_commit {committed : Store}
    {opened : Open Store Scan Write TxError} {log : List Write}
    (mindful : Mindful committed opened)
    (apart : ∀ write ∈ log, ∀ other ∈ opened.log,
      RowStore.key Store write ≠ RowStore.key Store other)
    (orderly : ∀ workerId, ¬ committed.Draining workerId →
      (applyAll committed log).Draining workerId →
      Harmless committed workerId opened) :
    Mindful (applyAll committed log) opened := by
  rcases mindful with ⟨steady, given⟩ | ⟨stays, drains, harmless⟩
  · exact Or.inl ⟨steady,
      Cluster.rowwise_after_commit nothingGiven_refl apart given⟩
  · refine Or.inr ⟨stays,
      Cluster.rowwise_after_commit drainStays_refl apart drains, ?_⟩
    intro workerId draining
    have before : Harmless committed workerId opened := by
      by_cases drained : committed.Draining workerId
      · exact harmless workerId drained
      · exact orderly workerId drained draining
    exact ⟨Cluster.rowwise_after_commit (notGiven_refl workerId) apart before.1,
      before.2⟩

/-- What a mindful transaction commits. -/
theorem Mindful.commits {committed : Store}
    {opened : Open Store Scan Write TxError}
    (mindful : Mindful committed opened) {workerId : String}
    (draining : committed.Draining workerId) :
    Rowwise (NotGiven workerId) committed (applyAll committed opened.log) := by
  rcases mindful with ⟨_, given⟩ | ⟨_, _, harmless⟩
  · exact fun key => given key workerId
  · exact (harmless workerId draining).1

/-- Steps that are orderly keep every transaction mindful, and what they commit
respects draining workers. -/
theorem AllMindful.step {text : Collation} {before after : Replicas}
    (mindful : AllMindful before)
    (step : Cluster.Step (Service.Begins (postgres text)) before after)
    (orderly : DrainsInOrder before after) :
    AllMindful after ∧ ∀ workerId, before.committed.Draining workerId →
      Rowwise (NotGiven workerId) before.committed after.committed := by
  have nextDisjoint := step.logsDisjoint mindful.disjoint
  have unchanged : ∀ workerId, Rowwise (NotGiven workerId)
      before.committed before.committed :=
    fun workerId key => notGiven_refl workerId key _
  cases step with
  | begin name fresh begins =>
      refine ⟨⟨nextDisjoint, ?_⟩, fun workerId _ => unchanged workerId⟩
      intro other opened found
      rcases Cluster.transactions_set_cases found with ⟨_, ⟨⟩⟩ | ⟨_, old⟩
      · exact mindful_begins begins _
      · exact mindful.opened other opened old
  | exec name order here accepted unlocked =>
      refine ⟨⟨nextDisjoint, ?_⟩, fun workerId _ => unchanged workerId⟩
      intro other opened found
      rcases Cluster.transactions_set_cases found with ⟨rfl, ⟨⟩⟩ | ⟨_, old⟩
      · exact (mindful.opened other _ here).exec accepted
      · exact mindful.opened other opened old
  | lock name here granted =>
      refine ⟨⟨nextDisjoint, ?_⟩, fun workerId _ => unchanged workerId⟩
      intro other opened found
      rcases Cluster.transactions_set_cases found with ⟨rfl, ⟨⟩⟩ | ⟨_, old⟩
      · exact (mindful.opened other _ here).tryLock true
      · exact mindful.opened other opened old
  | busy name holder here held different =>
      refine ⟨⟨nextDisjoint, ?_⟩, fun workerId _ => unchanged workerId⟩
      intro other opened found
      rcases Cluster.transactions_set_cases found with ⟨rfl, ⟨⟩⟩ | ⟨_, old⟩
      · exact (mindful.opened other _ here).tryLock false
      · exact mindful.opened other opened old
  | @commit name log here =>
      refine ⟨⟨nextDisjoint, ?_⟩, fun workerId draining =>
        (mindful.opened name _ here).commits draining⟩
      intro other opened found
      rcases Cluster.transactions_set_cases found with
        ⟨_, ⟨⟩⟩ | ⟨different, old⟩
      exact (mindful.opened other opened old).after_commit
        (mindful.disjoint name other _ opened different.symm here old)
        (fun workerId idle drains =>
          orderly workerId idle drains other opened found)
  | abort name here =>
      refine ⟨⟨nextDisjoint, ?_⟩, fun workerId _ => unchanged workerId⟩
      intro other opened found
      rcases Cluster.transactions_set_cases found with ⟨_, ⟨⟩⟩ | ⟨_, old⟩
      exact mindful.opened other opened old

theorem OrderlyRun.allMindful {text : Collation} {first last : Replicas}
    (run : OrderlyRun text first last) (mindful : AllMindful first) :
    AllMindful last := by
  induction run with
  | refl => exact mindful
  | tail _ step induction => exact (induction.step step.1 step.2).1

theorem OrderlyRun.steps {text : Collation} {first last : Replicas}
    (run : OrderlyRun text first last) : ReplicatedRun text first last := by
  induction run with
  | refl => exact .refl
  | tail _ step induction => exact induction.tail step.1

/-- On SQLite every commit respects the workers that drain; on PostgreSQL it
does so in every run in which no worker starts to drain while a pass that has
read the worker list has put work on it or may still do so. -/
theorem drain_respected (workerId : String) :
    (∀ before after : Database.State,
      SerialStep (Service.Begins sqlite) before after →
      before.1.Draining workerId →
        DrainRespected before.1 after.1 workerId) ∧
    ∀ (text : Collation) (before after : Replicas),
      OrderlyRun text (Cluster.initial Store.empty) before →
      Cluster.Step (Service.Begins (postgres text)) before after →
      DrainsInOrder before after →
      before.committed.Draining workerId →
        DrainRespected before.committed after.committed workerId := by
  constructor
  · intro before after step draining
    exact serialStep_drainRespected step draining
  intro text before after run step orderly draining
  have start : ∀ code, Service.Begins (postgres text) code →
      code.Steady (Rowwise DrainCounted) := fun code begins =>
    (begins_steady begins).mono
      (fun moved key => drainCounted_of_move (moved key))
  have steady := (Cluster.steady start drainCounted_refl drainCounted_trans
    run.steps (Cluster.steady_initial Store.empty)).1
  have counted := (step.steady start drainCounted_refl drainCounted_trans
    steady).2
  exact .of_spared counted draining
    (((run.allMindful allMindful_initial).step step orderly).2 workerId draining)

/-- A step after which the same is committed, or nothing is open. -/
theorem drainsInOrder_of_quiet {earlier later : Replicas}
    (quiet : later.committed = earlier.committed ∨
      ∀ name, later.transactions name = none) :
    DrainsInOrder earlier later := by
  intro workerId rested draining name opened found
  rcases quiet with same | ended
  · exact (rested (same ▸ draining)).elim
  · rw [ended name] at found
    cases found

/-- Transactions one after the other are a run in which drains are in
order. -/
theorem orderlyRun_of_serial {before after : Database.State}
    (run : SerialRun before after) :
    OrderlyRun Collation.binary (Cluster.idle before.1 before.2)
      (Cluster.idle after.1 after.2) := by
  induction run with
  | refl => exact .refl
  | @tail middle after _ step induction =>
      obtain ⟨settings, work, transaction⟩ := serialStep_postgres step
      have start : Service.Begins (postgres Collation.binary)
          (work.code (postgres Collation.binary) settings) :=
        ⟨settings, work, rfl⟩
      exact induction.trans (Cluster.steps_of_runs
        (fun _ _ taken quiet => ⟨taken, drainsInOrder_of_quiet quiet⟩) start
          transaction)

/-- The last step of a transaction that runs alone is its commit. -/
theorem commit_of_serial {before after : Database.State}
    (step : SerialStep (Service.Begins sqlite) before after) :
    ∃ middle : Replicas, middle.committed = before.1 ∧
      OrderlyRun Collation.binary (Cluster.idle before.1 before.2) middle ∧
      Cluster.Step (Service.Begins (postgres Collation.binary)) middle
        (Cluster.idle after.1 after.2) ∧
      DrainsInOrder middle (Cluster.idle after.1 after.2) := by
  obtain ⟨settings, work, transaction⟩ := serialStep_postgres step
  have start : Service.Begins (postgres Collation.binary)
      (work.code (postgres Collation.binary) settings) :=
    ⟨settings, work, rfl⟩
  have quiet : ∀ earlier later : Replicas,
      Cluster.Step (Service.Begins (postgres Collation.binary)) earlier later →
        later.committed = earlier.committed ∨
          (∀ name, later.transactions name = none) →
            Cluster.Step (Service.Begins (postgres Collation.binary)) earlier
              later ∧ DrainsInOrder earlier later :=
    fun _ _ taken unchanged => ⟨taken, drainsInOrder_of_quiet unchanged⟩
  obtain ⟨middle, same, steps, commit, _, orderly⟩ :=
    Cluster.commits_of_runs quiet start transaction
  exact ⟨middle, same, steps, commit, orderly⟩

def otherWorker : WorkerRegistration :=
  { sampleWorker with
    id := "worker_2"
    name := "other"
    gpus := [{ sampleGpu with uuid := ⟨"GPU-2", by decide⟩ }]
    now := 1002 }

/-- Of two workers one is drained, while a job waits. -/
def sampleDrain : List Service.Transaction :=
  sampleSubmission ++ [.request (.registerWorker otherWorker),
    .request (.setWorkerDrain "worker_1" true 1003)]

def drainedState : Database.State := Database.State.after sampleDrain

/-- The pass gives the job to the other worker. -/
def passedState : Database.State :=
  Database.State.after (sampleDrain ++ [.pass samplePass])

theorem Store.draining_of_any {store : Store} {workerId : String}
    (drains : (store.workers.find? workerId).any WorkerRow.drainMode) :
    store.Draining workerId := by
  cases found : store.workers.find? workerId with
  | none => simp [found] at drains
  | some row => exact ⟨row, found, by simpa [found] using drains⟩

/-- The pass that the job is placed by commits on either engine. -/
theorem drain_respected_sample :
    (passedState.1.jobs.find? "job_1").bind JobRow.assignedWorkerId =
        some "worker_2" ∧
      DrainRespected drainedState.1 passedState.1 "worker_1" ∧
      ∃ before : Replicas, before.committed = drainedState.1 ∧
        OrderlyRun Collation.binary (Cluster.initial Store.empty) before ∧
        Cluster.Step (Service.Begins (postgres Collation.binary)) before
          (Cluster.idle passedState.1 passedState.2) ∧
        DrainRespected before.committed passedState.1 "worker_1" := by
  have draining : drainedState.1.Draining "worker_1" :=
    Store.draining_of_any (by decide +kernel)
  have run := orderlyRun_of_serial
    (serialRun_after (by decide +kernel : (sampleRun sampleDrain).isSome))
  have passed : SerialStep (Service.Begins sqlite) drainedState passedState :=
    serialStep_after (by decide +kernel)
  obtain ⟨before, same, steps, commit, orderly⟩ := commit_of_serial passed
  have whole := run.trans steps
  exact ⟨by decide +kernel, (drain_respected "worker_1").1 _ _ passed draining,
    before, same, whole, commit, (drain_respected "worker_1").2 _ _ _ whole
      commit orderly (same ▸ draining)⟩

/-! ## A drain inside a pass -/

/-- A transaction from its beginning, for so many turns. -/
def sampleTurns (name : Nat) (work : Service.Transaction) (count : Nat) :
    List (Turn Store Scan Write TxError) :=
  .begin name (work.code (postgres Collation.binary) sampleSettings) ::
    List.replicate count (.next name)

/-- A worker and a job. -/
def preparedTurns : List (Turn Store Scan Write TxError) :=
  sampleTurns 0 (.request (.registerWorker sampleWorker)) 5 ++
    sampleTurns 1 (.request (.submitJob (sampleJob "job_1" 1001))) 5

/-- The worker is drained between the pass's read and its assignment. -/
def overtakenTurns : List (Turn Store Scan Write TxError) :=
  preparedTurns ++ sampleTurns 2 (.pass samplePass) 7 ++
    sampleTurns 3 (.request (.setWorkerDrain "worker_1" true 1003)) 5 ++
    List.replicate 7 (.next 2)

/-- What the schedule leads to, from an empty schema. -/
def interleaved (turns : List (Turn Store Scan Write TxError)) :
    Option (Roster Store Scan Write TxError) :=
  Roster.play Scan.stored turns (Roster.initial Store.empty)

def rosterAfter (turns : List (Turn Store Scan Write TxError)) :
    Roster Store Scan Write TxError :=
  (interleaved turns).getD (Roster.initial Store.empty)

/-- The schedule opens transactions of the control plane only. -/
def OpensTransactions (turns : List (Turn Store Scan Write TxError)) : Prop :=
  ∀ name code, .begin name code ∈ turns →
    Service.Begins (postgres Collation.binary) code

theorem opens_sampleTurns (name : Nat) (work : Service.Transaction)
    (count : Nat) : OpensTransactions (sampleTurns name work count) := by
  intro other code member
  simp only [sampleTurns, List.mem_cons, List.mem_replicate, Turn.begin.injEq,
    reduceCtorEq, and_false, or_false] at member
  exact ⟨sampleSettings, work, member.2⟩

theorem opens_next (name count : Nat) :
    OpensTransactions (List.replicate count (.next name)) := by
  intro other code member
  simp [List.mem_replicate] at member

theorem OpensTransactions.append
    {first second : List (Turn Store Scan Write TxError)}
    (left : OpensTransactions first) (right : OpensTransactions second) :
    OpensTransactions (first ++ second) := by
  intro name code member
  rcases List.mem_append.mp member with earlier | later
  · exact left name code earlier
  · exact right name code later

theorem interleaved_run {turns : List (Turn Store Scan Write TxError)}
    (opens : OpensTransactions turns) (plays : (interleaved turns).isSome) :
    ReplicatedRun Collation.binary (Cluster.initial Store.empty)
      (rosterAfter turns).cluster := by
  obtain ⟨last, played⟩ := Option.isSome_iff_exists.mp plays
  rw [rosterAfter, played]
  exact Roster.steps_of_play opens played

/-- The drain commits, and then the pass that had read the list before leases a
job to the drained worker. -/
theorem drain_overtaken :
    ∃ before after : Replicas,
      ReplicatedRun Collation.binary (Cluster.initial Store.empty) before ∧
      Cluster.Step (Service.Begins (postgres Collation.binary)) before after ∧
      before.committed.Draining "worker_1" ∧
      ¬ Rowwise (NotGiven "worker_1") before.committed after.committed := by
  have opens : OpensTransactions overtakenTurns :=
    ((((opens_sampleTurns _ _ _).append (opens_sampleTurns _ _ _)).append
      (opens_sampleTurns _ _ _)).append (opens_sampleTurns _ _ _)).append
        (opens_next _ _)
  obtain ⟨last, turned⟩ : ∃ last,
      (rosterAfter overtakenTurns).turn Scan.stored 2 = some last :=
    Option.isSome_iff_exists.mp (by decide +kernel)
  refine ⟨_, last.cluster, interleaved_run opens (by decide +kernel),
    Roster.step_of_turn turned, Store.draining_of_any (by decide +kernel), ?_⟩
  intro spared
  have leased : ((rosterAfter overtakenTurns).turn Scan.stored 2).any
      (fun roster => namedWorker (.job "job_1")
        (roster.committed.row? (.job "job_1")) = some "worker_1") := by
    decide +kernel
  rw [turned] at leased
  have given : namedWorker (.job "job_1")
      (last.committed.row? (.job "job_1")) = some "worker_1" := by
    simpa using leased
  have named := (spared (.job "job_1") given).1
  revert named
  decide +kernel

end GpuLink
