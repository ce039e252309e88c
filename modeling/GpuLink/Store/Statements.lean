import GpuLink.Store.Contract
import Mathlib.Data.List.Sort
import Mathlib.Order.Basic
import Mathlib.Data.String.Basic

/-!
# SQL statements over the tables

The forms of statement that the two engines use: a read of the view, an insert,
an update of the rows that meet a condition.  Every effect on the store goes
through the writes these return.
-/

namespace GpuLink

open Transactional

/-- A total order on text. -/
structure Collation where
  le : String → String → Bool
  total : ∀ left right, le left right ∨ le right left
  trans : ∀ {first second third}, le first second → le second third →
    le first third
  antisymm : ∀ {left right}, le left right → le right left → left = right

/-- Text compared code point by code point, which is the order of its bytes. -/
def Collation.binary : Collation where
  le left right := decide (left ≤ right)
  total left right := by simpa using String.le_total left right
  trans first second := by
    simp only [decide_eq_true_eq] at first second ⊢
    exact String.le_trans first second
  antisymm forward backward := by
    simp only [decide_eq_true_eq] at forward backward
    exact String.le_antisymm forward backward

namespace Sql

/-- `ORDER BY`: rows that compare equal stay as the scan met them. -/
def orderBy {ρ : Type} (le : ρ → ρ → Bool) (rows : List ρ) : List ρ :=
  rows.insertionSort (fun left right => le left right)

theorem mem_orderBy {ρ : Type} {le : ρ → ρ → Bool} {rows : List ρ} {row : ρ} :
    row ∈ orderBy le rows ↔ row ∈ rows :=
  List.mem_insertionSort _

theorem orderBy_perm {ρ : Type} (le : ρ → ρ → Bool) (rows : List ρ) :
    (orderBy le rows).Perm rows :=
  List.perm_insertionSort _ rows

/-- `priority DESC, created_at ASC, id ASC` -/
def queueOrder (text : Collation)
    (left right : Int × Int × String) : Bool :=
  right.1 < left.1 ||
    (left.1 = right.1 &&
      (left.2.1 < right.2.1 ||
        (left.2.1 = right.2.1 && text.le left.2.2 right.2.2)))

/-- A statement that writes nothing. -/
def select {β : Type} (read : Store → Scan → β) : Statement β :=
  fun input => .ok (read input.view input.order, ⟨[], 0⟩)

/-- `INSERT` of a row, refused when a unique index has it already. -/
def insert {ρ : Type} (wrap : ρ → RowWrite) (call : Call)
    (taken : Store → Bool) (row : ρ) : Statement ρ :=
  fun input =>
    if taken input.view then .error .uniqueConstraint
    else .ok (row, ⟨[⟨wrap row, some call⟩], 0⟩)

/-- `INSERT … ON CONFLICT … DO UPDATE SET … WHERE … RETURNING *`: the row that
`existing` finds is updated when it meets `guard` and otherwise left alone. -/
def upsert {ρ : Type} (wrap : ρ → RowWrite) (call : Call)
    (existing : Store → Option ρ) (taken : Store → Bool) (fresh : ρ)
    (guard : ρ → Bool) (set : ρ → ρ) : Statement (Option ρ) :=
  fun input =>
    match existing input.view with
    | some row =>
        if guard row then
          .ok (some (set row), ⟨[⟨wrap (set row), some call⟩], 0⟩)
        else .ok (none, ⟨[], 0⟩)
    | none =>
        if taken input.view then .error .uniqueConstraint
        else .ok (some fresh, ⟨[⟨wrap fresh, some call⟩], 0⟩)

/-- `UPDATE … SET … WHERE … RETURNING *` of the at most one row that `found`
selects. -/
def update {ρ : Type} (wrap : ρ → RowWrite) (call : Option Call)
    (found : Store → Option ρ) (set : ρ → ρ) : Statement (Option ρ) :=
  fun input =>
    match found input.view with
    | none => .ok (none, ⟨[], 0⟩)
    | some row => .ok (some (set row), ⟨[⟨wrap (set row), call⟩], 0⟩)

/-- `UPDATE … SET … WHERE … RETURNING` of any number of rows, answering each
row as it was and as it is now. -/
def updateAll {ρ : Type} (wrap : ρ → RowWrite) (call : Option Call)
    (found : Store → Scan → List ρ) (set : ρ → ρ) : Statement (List (ρ × ρ)) :=
  fun input =>
    let rows := found input.view input.order
    .ok (rows.map (fun row => (row, set row)),
      ⟨rows.map (fun row => ⟨wrap (set row), call⟩), 0⟩)

/-- The foreign key on `workers(id)`: a statement that writes is refused when
the worker it names is not there. -/
def referencing {β : Type} (workerId : String) (statement : Statement β) :
    Statement β :=
  fun input =>
    match statement input with
    | .error problem => .error problem
    | .ok (answer, effect) =>
        if effect.writes.isEmpty || (input.view.workers.find? workerId).isSome
        then .ok (answer, effect)
        else .error .foreignKey

/-- A statement whose uniqueness error the caller catches; a statement that
fails has no effect. -/
def attempt {β : Type} (statement : Statement β) :
    Statement (Option β) :=
  fun input =>
    match statement input with
    | .ok (answer, effect) => .ok (some answer, effect)
    | .error .uniqueConstraint => .ok (none, ⟨[], 0⟩)
    | .error problem => .error problem

/-- Run one statement. -/
def query {β : Type} (statement : Statement β) : Tx β :=
  Program.statement statement

/-- Roll the transaction back. -/
def throw {β : Type} (problem : TxError) : Tx β :=
  .done (.error problem)

end Sql

/-- The row with this id, if it meets the condition. -/
def Store.jobWhere (store : Store) (id : String) (guard : JobRow → Bool) :
    Option JobRow :=
  (store.jobs.find? id).filter guard

def Store.sessionWhere (store : Store) (id : String)
    (guard : SessionRow → Bool) : Option SessionRow :=
  (store.sessions.find? id).filter guard

/-- `project_id = ? AND idempotency_key = ?` -/
def Store.jobByKey (store : Store) (projectId : String)
    (key : NonEmptyString) : Option JobRow :=
  store.jobs.rows.find?
    (fun row => row.projectId = projectId && row.idempotencyKey = some key)

def Store.sessionByKey (store : Store) (projectId : String)
    (key : NonEmptyString) : Option SessionRow :=
  store.sessions.rows.find?
    (fun row => row.projectId = projectId && row.idempotencyKey = some key)

/-- The unique index on `(project_id, idempotency_key)` has the pair; a null key
never clashes. -/
def Store.jobKeyTaken (store : Store) (projectId : String) :
    Option NonEmptyString → Bool
  | none => false
  | some key => (store.jobByKey projectId key).isSome

def Store.sessionKeyTaken (store : Store) (projectId : String) :
    Option NonEmptyString → Bool
  | none => false
  | some key => (store.sessionByKey projectId key).isSome

/-- `name = ?` -/
def Store.workerByName (store : Store) (name : String) : Option WorkerRow :=
  store.workers.rows.find? (fun row => row.name = name)

/-- The jobs a statement selects, in the order of its scan. -/
def Store.selectJobs (store : Store) (scan : Scan) (guard : JobRow → Bool) :
    List JobRow :=
  (scan.jobs store.jobs.rows).filter guard

def Store.selectSessions (store : Store) (scan : Scan)
    (guard : SessionRow → Bool) : List SessionRow :=
  (scan.sessions store.sessions.rows).filter guard

def Store.selectWorkers (store : Store) (scan : Scan)
    (guard : WorkerRow → Bool) : List WorkerRow :=
  (scan.workers store.workers.rows).filter guard

theorem Store.mem_selectJobs {store : Store} {scan : Scan}
    {guard : JobRow → Bool} {row : JobRow} :
    row ∈ store.selectJobs scan guard ↔ row ∈ store.jobs.rows ∧ guard row := by
  rw [selectJobs, List.mem_filter, (scan.jobsPerm _).mem_iff]

theorem Store.mem_selectSessions {store : Store} {scan : Scan}
    {guard : SessionRow → Bool} {row : SessionRow} :
    row ∈ store.selectSessions scan guard ↔
      row ∈ store.sessions.rows ∧ guard row := by
  rw [selectSessions, List.mem_filter, (scan.sessionsPerm _).mem_iff]

theorem Store.mem_selectWorkers {store : Store} {scan : Scan}
    {guard : WorkerRow → Bool} {row : WorkerRow} :
    row ∈ store.selectWorkers scan guard ↔
      row ∈ store.workers.rows ∧ guard row := by
  rw [selectWorkers, List.mem_filter, (scan.workersPerm _).mem_iff]

theorem Store.jobWhere_eq_some {store : Store} {id : String}
    {guard : JobRow → Bool} {row : JobRow} :
    store.jobWhere id guard = some row ↔
      store.jobs.find? id = some row ∧ guard row := by
  simp [jobWhere, Option.filter_eq_some_iff]

theorem Store.sessionWhere_eq_some {store : Store} {id : String}
    {guard : SessionRow → Bool} {row : SessionRow} :
    store.sessionWhere id guard = some row ↔
      store.sessions.find? id = some row ∧ guard row := by
  simp [sessionWhere, Option.filter_eq_some_iff]

/-! ## Conditions and orders that both engines write in the same words -/

namespace Sql

/-- `WHERE status = ? AND assigned_worker_id = ?`, each only when given. -/
def jobFilter (options : ListOptions JobStatus) (row : JobRow) : Bool :=
  (match options.status with
    | none => true
    | some status => row.status = status) &&
  (match options.workerId with
    | none => true
    | some workerId => row.assignedWorkerId = some workerId)

/-- `WHERE status = ? AND assigned_worker_id = ?`, each only when given. -/
def sessionFilter (options : ListOptions SessionStatus)
    (row : SessionRow) : Bool :=
  (match options.status with
    | none => true
    | some status => row.status = status) &&
  (match options.workerId with
    | none => true
    | some workerId => row.assignedWorkerId = some workerId)

/-- `created_at DESC, id ASC` -/
def newestFirst (text : Collation) (left right : SessionRow) : Bool :=
  decide (right.createdAt < left.createdAt) ||
    (decide (left.createdAt = right.createdAt) && text.le left.id right.id)

/-- `created_at ASC, id ASC` -/
def oldestFirst (text : Collation) (left right : SessionRow) : Bool :=
  decide (left.createdAt < right.createdAt) ||
    (decide (left.createdAt = right.createdAt) && text.le left.id right.id)

/-- `assigned_worker_id = ? AND lease_id = ? AND lease_expires_at > ?` -/
def jobLeaseHeld (workerId leaseId : String) (now : Int) (row : JobRow) : Bool :=
  row.assignedWorkerId = some workerId && row.leaseId = some leaseId &&
    (match row.leaseExpiresAt with
    | none => false
    | some expires => now < expires)

/-- `assigned_worker_id = ? AND lease_id = ? AND lease_expires_at > ?` -/
def sessionLeaseHeld (workerId leaseId : String) (now : Int)
    (row : SessionRow) : Bool :=
  row.assignedWorkerId = some workerId && row.leaseId = some leaseId &&
    (match row.leaseExpiresAt with
    | none => false
    | some expires => now < expires)

/-- `ORDER BY worker_id, gpu_uuid` -/
def fenceOrder (text : Collation) (left right : FenceRow) : Bool :=
  if left.workerId = right.workerId then
    text.le left.gpuUuid.val right.gpuUuid.val
  else text.le left.workerId right.workerId

/-- The condition of `observeExecutionAttempt`. -/
def matchingAttempt (input : AttemptQuery) (row : AttemptRow) : Bool :=
  row.attemptId = input.attemptId && row.workerId = input.workerId &&
    row.projectId = input.projectId && row.subjectKind = input.subjectKind &&
    row.subjectId = input.subjectId && row.leaseId = input.leaseId

/-- `SELECT status, COUNT(*) … GROUP BY status` over the given statuses. -/
def countBy {σ : Type} [DecidableEq σ] (statuses : List σ)
    (rows : List σ) : List (σ × Nat) :=
  (statuses.map (fun status => (status, rows.count status))).filter
    (fun entry => entry.2 ≠ 0)

/-- `INSERT INTO events`: the sequence column is drawn from the identity
sequence. -/
def insertEvent (type : String) (subjectId : Option String) (payload : Json)
    (now : Int) : Statement EventRow :=
  fun input =>
    let row : EventRow :=
      { sequence := input.sequence + 1
        type := type
        subjectId := subjectId
        payload := payload
        createdAt := now }
    .ok (row, ⟨[⟨.event row, some .appended⟩], 1⟩)

/-- `COALESCE((SELECT MAX(sequence) - 10000 FROM events), 0)` -/
def retentionBound (store : Store) : Int :=
  match (store.events.rows.map EventRow.sequence).max? with
  | none => 0
  | some last => (last : Int) - 10000

/-- `DELETE FROM events WHERE sequence <= …` -/
def pruneEvents : Statement Unit :=
  fun input =>
    let stale := input.view.events.rows.filter
      (fun row => decide ((row.sequence : Int) ≤ retentionBound input.view))
    .ok ((), ⟨stale.map (fun row => ⟨.deleteEvent row.sequence, some .pruned⟩), 0⟩)

/-- The error stored with a job whose attempts are used up. -/
def leaseExhausted : Json :=
  .object [("code", .string "lease_exhausted"),
    ("message", .string "Job exhausted its execution attempts")]

end Sql

end GpuLink
