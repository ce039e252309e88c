import GpuLink.Store.Postgres

/-!
# What a persistence call does to a row

`JobMove`, `SessionMove`, `WorkerMove` and their companions list every change
that a call can make to one row.  Each method of the PostgreSQL engine is shown
to make only its own moves, whatever the view of its statements is; every
row-local invariant is then read off the moves.
-/

namespace GpuLink

open Transactional Sql

/-! ## The moves -/

inductive WorkerMove : Call → Option WorkerRow → Option WorkerRow → Prop where
  | registered {row : WorkerRow} :
      row.status = .online →
      WorkerMove .registered none (some row)
  | registeredAgain (row : WorkerRow) (worker : WorkerRegistration) :
      row.name = worker.name →
      WorkerMove .registered (some row) (some { row with
        version := worker.version
        baseUrl := worker.baseUrl
        status := .online
        labels := worker.labels
        capabilities := worker.capabilities
        adapterManifests := worker.adapterManifests
        adapterHealth := worker.adapterHealth
        warmModels := worker.warmModels
        modelInventory := worker.modelInventory
        gpuInventory := worker.gpus
        lastSeenAt := worker.now
        updatedAt := worker.now })
  | heartbeat (row : WorkerRow) (heartbeat : Heartbeat) :
      WorkerMove .heartbeat (some row) (some { row with
        status := .online
        capabilities := heartbeat.capabilities
        adapterManifests := heartbeat.adapterManifests
        adapterHealth := heartbeat.adapterHealth
        warmModels := heartbeat.warmModels
        modelInventory := heartbeat.modelInventory
        gpuInventory := heartbeat.gpus
        lastSeenAt := heartbeat.now
        updatedAt := heartbeat.now })
  | drainSet (row : WorkerRow) (drainMode : Bool) (now : Int) :
      WorkerMove .drainSet (some row)
        (some { row with drainMode := drainMode, updatedAt := now })
  | markedOffline (row : WorkerRow) (now : Int) :
      row.status = .online →
      WorkerMove .markedOffline (some row)
        (some { row with status := .offline, updatedAt := now })

inductive JobMove : Call → Option JobRow → Option JobRow → Prop where
  | inserted {row : JobRow} :
      row.status = .queued → row.assignedWorkerId = none →
      row.assignedGpuUuid = none → row.leaseId = none →
      row.leaseExpiresAt = none → row.attempt = 0 → 1 ≤ row.maxAttempts →
      JobMove .inserted none (some row)
  | assigned (row : JobRow) (placement : Placement) (leaseId : String)
      (leaseExpiresAt now : Int) :
      row.status = .queued →
      JobMove (.assigned leaseId leaseExpiresAt) (some row) (some { row with
        status := .leased
        assignedWorkerId := some placement.workerId
        assignedGpuUuid := some placement.gpuUuid
        leaseId := some leaseId
        leaseExpiresAt := some leaseExpiresAt
        attempt := row.attempt + 1
        updatedAt := now })
  | started (row : JobRow) (workerId leaseId : String)
      (leaseExpiresAt now : Int) :
      row.status = .leased → jobLeaseHeld workerId leaseId now row →
      JobMove (.started leaseExpiresAt) (some row) (some { row with
        status := .running
        leaseExpiresAt := some leaseExpiresAt
        updatedAt := now })
  | renewed (row : JobRow) (workerId leaseId : String)
      (leaseExpiresAt now : Int) :
      row.status = .running → jobLeaseHeld workerId leaseId now row →
      JobMove (.renewed leaseExpiresAt) (some row) (some { row with
        leaseExpiresAt := some leaseExpiresAt
        updatedAt := now })
  | finished (row : JobRow) (workerId leaseId : String) (outcome : Outcome)
      (result error : Option Json) (now : Int) :
      row.isActive → jobLeaseHeld workerId leaseId now row →
      JobMove .finished (some row) (some { row with
        status := outcome.status
        result := result
        error := error
        leaseExpiresAt := none
        updatedAt := now })
  | cancelled (row : JobRow) (now : Int) :
      row.status = .queued || row.isActive →
      JobMove .cancelled (some row) (some { row with
        status := .cancelled
        leaseExpiresAt := none
        updatedAt := now })
  | recovered (row : JobRow) (error : Option Json) (now : Int) :
      row.isActive →
      JobMove .recovered (some row) (some { row with
        status := if row.maxAttempts ≤ row.attempt then .failed else .queued
        assignedWorkerId := none
        assignedGpuUuid := none
        leaseId := none
        leaseExpiresAt := none
        error := error
        updatedAt := now })

inductive SessionMove :
    Call → Option SessionRow → Option SessionRow → Prop where
  | inserted {row : SessionRow} :
      row.status = .requested → row.assignedWorkerId = none →
      row.assignedGpuUuid = none → row.leaseId = none →
      row.leaseExpiresAt = none → row.interruptionCount = 0 →
      SessionMove .inserted none (some row)
  | assigned (row : SessionRow) (placement : Placement) (leaseId : String)
      (leaseExpiresAt now : Int) :
      row.status = .requested →
      SessionMove (.assigned leaseId leaseExpiresAt) (some row) (some { row with
        status := .allocated
        assignedWorkerId := some placement.workerId
        assignedGpuUuid := some placement.gpuUuid
        leaseId := some leaseId
        leaseExpiresAt := some leaseExpiresAt
        updatedAt := now })
  | started (row : SessionRow) (workerId leaseId : String)
      (leaseExpiresAt now : Int) :
      row.status = .allocated → sessionLeaseHeld workerId leaseId now row →
      SessionMove (.started leaseExpiresAt) (some row) (some { row with
        status := .connecting
        leaseExpiresAt := some leaseExpiresAt
        updatedAt := now })
  | activated (row : SessionRow) (workerId leaseId : String)
      (leaseExpiresAt now : Int) :
      row.status = .connecting → sessionLeaseHeld workerId leaseId now row →
      SessionMove (.activated leaseExpiresAt) (some row) (some { row with
        status := .active
        leaseExpiresAt := some leaseExpiresAt
        updatedAt := now })
  | renewed (row : SessionRow) (workerId leaseId : String)
      (leaseExpiresAt now : Int) :
      row.isOccupying → sessionLeaseHeld workerId leaseId now row →
      SessionMove (.renewed leaseExpiresAt) (some row) (some { row with
        leaseExpiresAt := some leaseExpiresAt
        updatedAt := now })
  | closed (row : SessionRow) (now : Int) :
      row.status = .requested || row.isOccupying →
      SessionMove .closed (some row) (some { row with
        status := .closed
        assignedWorkerId := none
        assignedGpuUuid := none
        leaseId := none
        leaseExpiresAt := none
        updatedAt := now })
  | recovered (row : SessionRow) (now : Int) :
      row.isOccupying →
      SessionMove .recovered (some row) (some { row with
        status :=
          if row.interruptionCount + 1 ≤ row.maxInterruptions then .requested
          else .interrupted
        interruptionCount := row.interruptionCount + 1
        assignedWorkerId := none
        assignedGpuUuid := none
        leaseId := none
        leaseExpiresAt := none
        updatedAt := now })

inductive FenceMove : Call → Option FenceRow → Option FenceRow → Prop where
  | raised {row : FenceRow} :
      row.epoch = 1 → row.safetyState = .reserved →
      FenceMove .reserved none (some row)
  | reserved (row : FenceRow) (claim : ExecutionClaim) :
      row.safetyState = .clear →
      FenceMove .reserved (some row) (some { row with
        epoch := row.epoch + 1
        safetyState := .reserved
        subjectKind := some claim.subjectKind
        subjectId := some claim.subjectId
        leaseId := some claim.leaseId
        attemptId := some claim.attemptId
        updatedAt := claim.now })

inductive AttemptMove : Call → Option AttemptRow → Option AttemptRow → Prop where
  | inserted {row : AttemptRow} :
      row.status = .reserved →
      AttemptMove .reserved none (some row)

inductive EventMove : Call → Option EventRow → Option EventRow → Prop where
  | appended (before : Option EventRow) (row : EventRow) :
      EventMove .appended before (some row)
  | pruned (row : EventRow) :
      EventMove .pruned (some row) none

/-- A call changed the row at a key from one value to the other. -/
def RowMove : (key : RowKey) → Call → Option key.Row → Option key.Row → Prop
  | .worker _ => WorkerMove
  | .job _ => JobMove
  | .session _ => SessionMove
  | .fence _ _ => FenceMove
  | .attempt _ => AttemptMove
  | .event _ => EventMove

/-- Nothing happened at the key, or one of the allowed calls made one move and
was noted. -/
def KeptMove (allowed : Call → Prop) (key : RowKey)
    (before after : Kept key.Row) : Prop :=
  after = before ∨
    ∃ call, allowed call ∧ RowMove key call before.row after.row ∧
      after.calls = before.calls ++ [call]

/-- At every key at most one allowed move. -/
abbrev Moved (allowed : Call → Prop) : Store → Store → Prop :=
  Rowwise (KeptMove allowed)

theorem KeptMove.refl (allowed : Call → Prop) (key : RowKey)
    (kept : Kept key.Row) : KeptMove allowed key kept kept :=
  Or.inl rfl

theorem Moved.mono {allowed wider : Call → Prop}
    (implies : ∀ call, allowed call → wider call) {before after : Store}
    (moved : Moved allowed before after) : Moved wider before after := by
  intro key
  rcases moved key with same | ⟨call, permitted, move, noted⟩
  · exact Or.inl same
  · exact Or.inr ⟨call, implies call permitted, move, noted⟩

/-! ## One statement -/

theorem steady_query {β : Type} {env : Store → Store → Prop}
    {statement : Statement β}
    (moved : ∀ input answer effect, statement input = .ok (answer, effect) →
      env input.view (applyAll input.view effect.writes)) :
    (query statement).Steady env :=
  fun input answer effect accepted =>
    ⟨moved input answer effect accepted, trivial⟩

section Statements

variable {allowed : Call → Prop}

theorem Moved.refl (store : Store) : Moved allowed store store :=
  fun key => KeptMove.refl allowed key _

theorem moved_select {β : Type} {read : Store → Scan → β} :
    (query (select read)).Steady (Moved allowed) := by
  apply steady_query
  intro input answer effect accepted
  cases accepted
  exact Moved.refl _

/-- A single noted write is a move of its row. -/
theorem moved_write {store : Store} {row : RowWrite} {call : Call}
    (permitted : allowed call)
    (move : RowMove (Write.key ⟨row, some call⟩) call
      (store.row? (Write.key ⟨row, some call⟩))
      (Write.left ⟨row, some call⟩)) :
    Moved allowed store (applyAll store [⟨row, some call⟩]) := by
  apply rowwise_applyAll (KeptMove.refl allowed)
  · exact List.nodup_singleton _
  · intro write member
    cases List.mem_singleton.mp member
    exact Or.inr ⟨call, permitted, move, rfl⟩

/-- Moves of rows with distinct keys. -/
theorem moved_writes {ρ : Type} {wrap : ρ → RowWrite} {call : Call}
    {rows : List ρ} {set : ρ → ρ} {store : Store} (permitted : allowed call)
    (distinct : (rows.map (fun row =>
      Write.key ⟨wrap (set row), some call⟩)).Nodup)
    (move : ∀ row ∈ rows, RowMove (Write.key ⟨wrap (set row), some call⟩) call
      (store.row? (Write.key ⟨wrap (set row), some call⟩))
      (Write.left ⟨wrap (set row), some call⟩)) :
    Moved allowed store
      (applyAll store (rows.map (fun row => ⟨wrap (set row), some call⟩))) := by
  apply rowwise_applyAll (KeptMove.refl allowed)
  · simpa [List.map_map, Function.comp_def, RowStore.key] using distinct
  · intro write member
    obtain ⟨row, selected, rfl⟩ := List.mem_map.mp member
    exact Or.inr ⟨call, permitted, move row selected, rfl⟩

theorem steady_update {ρ : Type} {wrap : ρ → RowWrite} {call : Call}
    {found : Store → Option ρ} {set : ρ → ρ} (permitted : allowed call)
    (move : ∀ (store : Store) (row : ρ), found store = some row →
      RowMove (Write.key ⟨wrap (set row), some call⟩) call
        (store.row? (Write.key ⟨wrap (set row), some call⟩))
        (Write.left ⟨wrap (set row), some call⟩)) :
    (query (update wrap (some call) found set)).Steady (Moved allowed) := by
  apply steady_query
  intro input answer effect accepted
  unfold update at accepted
  split at accepted
  · cases accepted
    exact Moved.refl _
  · rename_i row selected
    cases accepted
    exact moved_write permitted (move input.view row selected)

theorem referencing_ok {β : Type} {workerId : String} {statement : Statement β}
    {input : Input Store Scan} {answer : β} {effect : Effect Write}
    (accepted : referencing workerId statement input = .ok (answer, effect)) :
    statement input = .ok (answer, effect) ∧
      (effect.writes = [] ∨ (input.view.workers.find? workerId).isSome) := by
  unfold referencing at accepted
  split at accepted
  · cases accepted
  · rename_i result written
    split at accepted
    · rename_i present
      cases accepted
      refine ⟨written, ?_⟩
      simpa [List.isEmpty_iff] using present
    · cases accepted

theorem steady_referencing {β : Type} {workerId : String}
    {statement : Statement β} {env : Store → Store → Prop}
    (steady : (query statement).Steady env) :
    (query (referencing workerId statement)).Steady env := by
  apply steady_query
  intro input answer effect accepted
  exact (steady input answer effect (referencing_ok accepted).1).1

/-- A `FOR UPDATE` lock leaves the store as it is. -/
theorem apply_lock {store : Store} {row : RowWrite}
    (same : store.row? (Write.key ⟨row, none⟩) = Write.left ⟨row, none⟩) :
    store.apply ⟨row, none⟩ = store := by
  cases row with
  | worker row =>
      simp [Store.apply, KeyedTable.put_of_mem (KeyedTable.mem_of_find? same)]
  | job row =>
      simp [Store.apply, KeyedTable.put_of_mem (KeyedTable.mem_of_find? same)]
  | session row =>
      simp [Store.apply, KeyedTable.put_of_mem (KeyedTable.mem_of_find? same)]
  | fence row =>
      have listed : row ∈ store.fences.rows :=
        @KeyedTable.mem_of_find? _ _ _ _ store.fences _ _ same
      simp [Store.apply, KeyedTable.put_of_mem listed]
  | attempt row =>
      simp [Store.apply, KeyedTable.put_of_mem (KeyedTable.mem_of_find? same)]
  | event row =>
      simp [Store.apply, KeyedTable.put_of_mem (KeyedTable.mem_of_find? same)]
  | deleteEvent sequence =>
      have absent : store.events.find? sequence = none := same
      simp [Store.apply, KeyedTable.erase_of_absent absent]

theorem applyAll_locks {ρ : Type} {wrap : ρ → RowWrite} {rows : List ρ}
    {store : Store}
    (same : ∀ row ∈ rows, store.row? (Write.key ⟨wrap row, none⟩) =
      Write.left ⟨wrap row, none⟩) :
    applyAll store (rows.map (fun row => (⟨wrap row, none⟩ : Write))) = store := by
  induction rows with
  | nil => rfl
  | cons row rows induction =>
      rw [List.map_cons, applyAll_cons]
      have unchanged : RowStore.apply store (⟨wrap row, none⟩ : Write) = store :=
        apply_lock (same row List.mem_cons_self)
      rw [unchanged]
      exact induction (fun other member =>
        same other (List.mem_cons_of_mem _ member))

theorem steady_upsert {ρ : Type} {wrap : ρ → RowWrite} {call : Call}
    {existing : Store → Option ρ} {taken : Store → Bool} {fresh : ρ}
    {guard : ρ → Bool} {set : ρ → ρ} (permitted : allowed call)
    (inserted : ∀ store : Store, existing store = none → taken store = false →
      RowMove (Write.key ⟨wrap fresh, some call⟩) call
        (store.row? (Write.key ⟨wrap fresh, some call⟩))
        (Write.left ⟨wrap fresh, some call⟩))
    (updated : ∀ (store : Store) (row : ρ), existing store = some row →
      guard row →
      RowMove (Write.key ⟨wrap (set row), some call⟩) call
        (store.row? (Write.key ⟨wrap (set row), some call⟩))
        (Write.left ⟨wrap (set row), some call⟩)) :
    (query (upsert wrap call existing taken fresh guard set)).Steady
      (Moved allowed) := by
  apply steady_query
  intro input answer effect accepted
  unfold upsert at accepted
  split at accepted
  · rename_i row found
    split at accepted
    · rename_i meets
      cases accepted
      exact moved_write permitted (updated input.view row found meets)
    · cases accepted
      exact Moved.refl _
  · rename_i absent
    split at accepted
    · cases accepted
    · rename_i untaken
      cases accepted
      exact moved_write permitted
        (inserted input.view absent (by simpa using untaken))

theorem steady_insert {ρ : Type} {wrap : ρ → RowWrite} {call : Call}
    {taken : Store → Bool} {row : ρ} (permitted : allowed call)
    (inserted : ∀ store : Store, taken store = false →
      RowMove (Write.key ⟨wrap row, some call⟩) call
        (store.row? (Write.key ⟨wrap row, some call⟩))
        (Write.left ⟨wrap row, some call⟩)) :
    (query (insert wrap call taken row)).Steady (Moved allowed) := by
  apply steady_query
  intro input answer effect accepted
  unfold Sql.insert at accepted
  split at accepted
  · cases accepted
  · rename_i untaken
    cases accepted
    exact moved_write permitted (inserted input.view (by simpa using untaken))

theorem steady_insertUnlessKeyTaken {ρ : Type} {wrap : ρ → RowWrite}
    {keyTaken idTaken : Store → Bool} {row : ρ} (permitted : allowed .inserted)
    (inserted : ∀ store : Store, idTaken store = false →
      RowMove (Write.key ⟨wrap row, some .inserted⟩) .inserted
        (store.row? (Write.key ⟨wrap row, some .inserted⟩))
        (Write.left ⟨wrap row, some .inserted⟩)) :
    (query (Postgres.insertUnlessKeyTaken wrap keyTaken idTaken row)).Steady
      (Moved allowed) := by
  apply steady_query
  intro input answer effect accepted
  unfold Postgres.insertUnlessKeyTaken at accepted
  split at accepted
  · cases accepted
    exact Moved.refl _
  · split at accepted
    · cases accepted
    · rename_i untaken
      cases accepted
      exact moved_write permitted (inserted input.view (by simpa using untaken))

end Statements

/-! ## Selected rows have distinct keys -/

theorem selectWorkers_ids_nodup (store : Store) (scan : Scan)
    (guard : WorkerRow → Bool) :
    ((store.selectWorkers scan guard).map WorkerRow.id).Nodup :=
  (List.filter_sublist.map _).nodup
    (((scan.workersPerm _).map _).nodup_iff.mpr store.workers.distinct)

theorem selectJobs_ids_nodup (store : Store) (scan : Scan)
    (guard : JobRow → Bool) :
    ((store.selectJobs scan guard).map JobRow.id).Nodup :=
  (List.filter_sublist.map _).nodup
    (((scan.jobsPerm _).map _).nodup_iff.mpr store.jobs.distinct)

theorem selectSessions_ids_nodup (store : Store) (scan : Scan)
    (guard : SessionRow → Bool) :
    ((store.selectSessions scan guard).map SessionRow.id).Nodup :=
  (List.filter_sublist.map _).nodup
    (((scan.sessionsPerm _).map _).nodup_iff.mpr store.sessions.distinct)

theorem selectWorkers_keys_nodup (store : Store) (scan : Scan)
    (guard : WorkerRow → Bool) :
    ((store.selectWorkers scan guard).map
      (fun row => RowKey.worker row.id)).Nodup := by
  simpa [List.map_map, Function.comp_def] using
    (selectWorkers_ids_nodup store scan guard).map
      (fun _ _ same => RowKey.worker.inj same)

theorem selectJobs_keys_nodup (store : Store) (scan : Scan)
    (guard : JobRow → Bool) :
    ((store.selectJobs scan guard).map
      (fun row => RowKey.job row.id)).Nodup := by
  simpa [List.map_map, Function.comp_def] using
    (selectJobs_ids_nodup store scan guard).map
      (fun _ _ same => RowKey.job.inj same)

theorem selectSessions_keys_nodup (store : Store) (scan : Scan)
    (guard : SessionRow → Bool) :
    ((store.selectSessions scan guard).map
      (fun row => RowKey.session row.id)).Nodup := by
  simpa [List.map_map, Function.comp_def] using
    (selectSessions_ids_nodup store scan guard).map
      (fun _ _ same => RowKey.session.inj same)

/-! ## The rows that an `UPDATE` leaves behind -/

theorem row?_writes_mem {ρ : Type} {wrap : ρ → RowWrite} {call : Option Call}
    {rows : List ρ}
    (distinct : (rows.map (fun row => Write.key ⟨wrap row, call⟩)).Nodup)
    {row : ρ} (member : row ∈ rows) (store : Store) :
    (applyAll store (rows.map (fun row => ⟨wrap row, call⟩))).row?
      (Write.key ⟨wrap row, call⟩) = Write.left ⟨wrap row, call⟩ := by
  have apart : ((rows.map (fun row => (⟨wrap row, call⟩ : Write))).map
      (RowStore.key Store)).Nodup := by
    simpa [List.map_map, Function.comp_def, RowStore.key] using distinct
  exact congrArg Kept.row
    (get_applyAll_mem apart (List.mem_map_of_mem member) store)

theorem row?_writes_other {ρ : Type} {wrap : ρ → RowWrite}
    {call : Option Call} {rows : List ρ} {key : RowKey}
    (untouched : ∀ row ∈ rows, key ≠ Write.key ⟨wrap row, call⟩)
    (store : Store) :
    (applyAll store (rows.map (fun row => ⟨wrap row, call⟩))).row? key =
      store.row? key := by
  refine congrArg Kept.row (get_applyAll_other ?_ store)
  intro write member
  obtain ⟨row, selected, rfl⟩ := List.mem_map.mp member
  exact untouched row selected

theorem workers_updateAll {store : Store} {scan : Scan}
    {guard : WorkerRow → Bool} {set : WorkerRow → WorkerRow} {call : Option Call}
    (keepsId : ∀ row, (set row).id = row.id) (id : String) :
    (applyAll store ((store.selectWorkers scan guard).map
      (fun row => (⟨.worker (set row), call⟩ : Write)))).workers.find? id =
      (store.workers.find? id).map
        (fun row => if guard row then set row else row) := by
  by_cases chosen : ∃ row ∈ store.selectWorkers scan guard, row.id = id
  · obtain ⟨row, selected, rfl⟩ := chosen
    obtain ⟨listed, meets⟩ := Store.mem_selectWorkers.mp selected
    have distinct : ((store.selectWorkers scan guard).map
        (fun row => Write.key ⟨.worker (set row), call⟩)).Nodup := by
      simpa [Write.key, keepsId] using selectWorkers_keys_nodup store scan guard
    have written : Store.row? _ (.worker (set row).id) = some (set row) :=
      row?_writes_mem distinct selected store
    rw [keepsId] at written
    rw [KeyedTable.mem_rows_iff.mp listed, Option.map_some, if_pos meets]
    exact written
  · have untouched : Store.row? _ (.worker id) = store.row? (.worker id) :=
      @row?_writes_other _ (fun row => .worker (set row)) call
        (store.selectWorkers scan guard) (.worker id) (by
          intro row selected same
          have atId : id = (set row).id := RowKey.worker.inj same
          exact chosen ⟨row, selected, (keepsId row).symm.trans atId.symm⟩)
        store
    refine Eq.trans untouched ?_
    cases found : store.workers.find? id with
    | none => simp [Store.row?, found]
    | some row =>
        have spared : ¬ guard row := fun meets => chosen
          ⟨row, Store.mem_selectWorkers.mpr ⟨KeyedTable.mem_of_find? found, meets⟩,
            KeyedTable.key_of_find? found⟩
        simp [Store.row?, found, spared]

theorem jobs_updateAll {store : Store} {scan : Scan}
    {guard : JobRow → Bool} {set : JobRow → JobRow} {call : Option Call}
    (keepsId : ∀ row, (set row).id = row.id) (id : String) :
    (applyAll store ((store.selectJobs scan guard).map
      (fun row => (⟨.job (set row), call⟩ : Write)))).jobs.find? id =
      (store.jobs.find? id).map
        (fun row => if guard row then set row else row) := by
  by_cases chosen : ∃ row ∈ store.selectJobs scan guard, row.id = id
  · obtain ⟨row, selected, rfl⟩ := chosen
    obtain ⟨listed, meets⟩ := Store.mem_selectJobs.mp selected
    have distinct : ((store.selectJobs scan guard).map
        (fun row => Write.key ⟨.job (set row), call⟩)).Nodup := by
      simpa [Write.key, keepsId] using selectJobs_keys_nodup store scan guard
    have written : Store.row? _ (.job (set row).id) = some (set row) :=
      row?_writes_mem distinct selected store
    rw [keepsId] at written
    rw [KeyedTable.mem_rows_iff.mp listed, Option.map_some, if_pos meets]
    exact written
  · have untouched : Store.row? _ (.job id) = store.row? (.job id) :=
      @row?_writes_other _ (fun row => .job (set row)) call
        (store.selectJobs scan guard) (.job id) (by
          intro row selected same
          have atId : id = (set row).id := RowKey.job.inj same
          exact chosen ⟨row, selected, (keepsId row).symm.trans atId.symm⟩)
        store
    refine Eq.trans untouched ?_
    cases found : store.jobs.find? id with
    | none => simp [Store.row?, found]
    | some row =>
        have spared : ¬ guard row := fun meets => chosen
          ⟨row, Store.mem_selectJobs.mpr ⟨KeyedTable.mem_of_find? found, meets⟩,
            KeyedTable.key_of_find? found⟩
        simp [Store.row?, found, spared]

theorem sessions_updateAll {store : Store} {scan : Scan}
    {guard : SessionRow → Bool} {set : SessionRow → SessionRow} {call : Option Call}
    (keepsId : ∀ row, (set row).id = row.id) (id : String) :
    (applyAll store ((store.selectSessions scan guard).map
      (fun row => (⟨.session (set row), call⟩ : Write)))).sessions.find? id =
      (store.sessions.find? id).map
        (fun row => if guard row then set row else row) := by
  by_cases chosen : ∃ row ∈ store.selectSessions scan guard, row.id = id
  · obtain ⟨row, selected, rfl⟩ := chosen
    obtain ⟨listed, meets⟩ := Store.mem_selectSessions.mp selected
    have distinct : ((store.selectSessions scan guard).map
        (fun row => Write.key ⟨.session (set row), call⟩)).Nodup := by
      simpa [Write.key, keepsId] using selectSessions_keys_nodup store scan guard
    have written : Store.row? _ (.session (set row).id) = some (set row) :=
      row?_writes_mem distinct selected store
    rw [keepsId] at written
    rw [KeyedTable.mem_rows_iff.mp listed, Option.map_some, if_pos meets]
    exact written
  · have untouched : Store.row? _ (.session id) = store.row? (.session id) :=
      @row?_writes_other _ (fun row => .session (set row)) call
        (store.selectSessions scan guard) (.session id) (by
          intro row selected same
          have atId : id = (set row).id := RowKey.session.inj same
          exact chosen ⟨row, selected, (keepsId row).symm.trans atId.symm⟩)
        store
    refine Eq.trans untouched ?_
    cases found : store.sessions.find? id with
    | none => simp [Store.row?, found]
    | some row =>
        have spared : ¬ guard row := fun meets => chosen
          ⟨row, Store.mem_selectSessions.mpr ⟨KeyedTable.mem_of_find? found, meets⟩,
            KeyedTable.key_of_find? found⟩
        simp [Store.row?, found, spared]

/-! ## Weakest preconditions of the statements -/

section Preconditions

variable {env : Store → Store → Prop} {β γ : Type} {post : γ → Store → Prop}
  {s : Store}

theorem wp_select {read : Store → Scan → β} {answer : β → γ}
    (held : ∀ view scan, env s view → ∀ final, env view final →
      post (answer (read view scan)) final) :
    (query (select read) >>= fun rows => pure (answer rows)).wp env post s := by
  rintro view moved ⟨_, _, scan⟩ rfl _ _ ⟨⟩ final later
  exact held _ scan moved final later

theorem wp_updateAll {ρ : Type} {wrap : ρ → RowWrite} {call : Option Call}
    {found : Store → Scan → List ρ} {set : ρ → ρ}
    {answer : List (ρ × ρ) → γ}
    (held : ∀ view scan, env s view → ∀ final,
      env (applyAll view ((found view scan).map
        (fun row => (⟨wrap (set row), call⟩ : Write)))) final →
      post (answer ((found view scan).map (fun row => (row, set row)))) final) :
    (query (updateAll wrap call found set) >>=
      fun rows => pure (answer rows)).wp env post s := by
  rintro view moved ⟨_, _, scan⟩ rfl _ _ ⟨⟩ final later
  exact held _ scan moved final later

theorem wp_update {ρ : Type} {wrap : ρ → RowWrite} {call : Option Call}
    {found : Store → Option ρ} {set : ρ → ρ} {answer : Option ρ → γ}
    (missing : ∀ view, env s view → ∀ final, env view final →
      post (answer none) final)
    (updated : ∀ view row, env s view → found view = some row →
      ∀ final, env (view.apply ⟨wrap (set row), call⟩) final →
      post (answer (some (set row))) final) :
    (query (update wrap call found set) >>=
      fun row => pure (answer row)).wp env post s := by
  rintro view moved ⟨_, _, scan⟩ rfl result effect accepted final later
  unfold update at accepted
  split at accepted
  · cases accepted
    exact missing _ moved final later
  · rename_i row selected
    cases accepted
    exact updated _ row moved selected final later

theorem wp_referencing {workerId : String} {statement : Statement β}
    {next : β → Tx γ}
    (held : (query statement >>= next).wp env post s) :
    (query (referencing workerId statement) >>= next).wp env post s :=
  fun view moved input seen answer effect accepted =>
    held view moved input seen answer effect (referencing_ok accepted).1

end Preconditions

end GpuLink
