import GpuLink.Store.PassEffects
import GpuLink.ControlPlane.Placement

/-!
# Who occupies which GPU

Active jobs and occupying sessions hold the GPU and the worker in their row.
Everybody but the scheduler is calm: other transactions may end work, but never
put a workload on a GPU and never take a worker offline.
-/

namespace GpuLink

open Transactional Sql

/-! ## Occupancy -/

/-- The worker and the GPU of an active job or an occupying session. -/
def occupancyOf : (key : RowKey) → Option key.Row →
    Option (Option String × Option NonEmptyString)
  | .job _, row => (Option.filter JobRow.isActive row).map
      (fun row => (row.assignedWorkerId, row.assignedGpuUuid))
  | .session _, row => (Option.filter SessionRow.isOccupying row).map
      (fun row => (row.assignedWorkerId, row.assignedGpuUuid))
  | _, _ => none

theorem occupancyOf_job {id : String} {row : JobRow} (active : row.isActive) :
    occupancyOf (.job id) (some row) =
      some (row.assignedWorkerId, row.assignedGpuUuid) := by
  simp [occupancyOf, Option.filter, active]

theorem occupancyOf_session {id : String} {row : SessionRow}
    (occupying : row.isOccupying) :
    occupancyOf (.session id) (some row) =
      some (row.assignedWorkerId, row.assignedGpuUuid) := by
  simp [occupancyOf, Option.filter, occupying]

/-- The workload at `key` occupies this worker and this GPU. -/
def Store.Occupies (store : Store) (key : RowKey) (workerId : Option String)
    (gpuUuid : Option NonEmptyString) : Prop :=
  occupancyOf key (store.row? key) = some (workerId, gpuUuid)

theorem Store.occupies_job {store : Store} {id : String}
    {workerId : Option String} {gpuUuid : Option NonEmptyString} :
    store.Occupies (.job id) workerId gpuUuid ↔
      ∃ row, store.jobs.find? id = some row ∧ row.isActive ∧
        row.assignedWorkerId = workerId ∧ row.assignedGpuUuid = gpuUuid := by
  simp only [Occupies, occupancyOf, row?, Option.map_eq_some_iff,
    Option.filter_eq_some_iff, Prod.mk.injEq]
  constructor
  · rintro ⟨row, ⟨found, active⟩, worker, gpu⟩
    exact ⟨row, found, active, worker, gpu⟩
  · rintro ⟨row, found, active, worker, gpu⟩
    exact ⟨row, ⟨found, active⟩, worker, gpu⟩

theorem Store.occupies_session {store : Store} {id : String}
    {workerId : Option String} {gpuUuid : Option NonEmptyString} :
    store.Occupies (.session id) workerId gpuUuid ↔
      ∃ row, store.sessions.find? id = some row ∧ row.isOccupying ∧
        row.assignedWorkerId = workerId ∧ row.assignedGpuUuid = gpuUuid := by
  simp only [Occupies, occupancyOf, row?, Option.map_eq_some_iff,
    Option.filter_eq_some_iff, Prod.mk.injEq]
  constructor
  · rintro ⟨row, ⟨found, active⟩, worker, gpu⟩
    exact ⟨row, found, active, worker, gpu⟩
  · rintro ⟨row, found, active, worker, gpu⟩
    exact ⟨row, ⟨found, active⟩, worker, gpu⟩

/-- Only jobs and sessions occupy anything. -/
theorem Store.Occupies.cases {store : Store} {key : RowKey}
    {workerId : Option String} {gpuUuid : Option NonEmptyString}
    (occupies : store.Occupies key workerId gpuUuid) :
    (∃ id, key = .job id) ∨ ∃ id, key = .session id := by
  cases key with
  | job id => exact Or.inl ⟨id, rfl⟩
  | session id => exact Or.inr ⟨id, rfl⟩
  | _ => cases occupies

/-- The worker is there and online. -/
def Store.Online (store : Store) (workerId : String) : Prop :=
  ∃ row, store.workers.find? workerId = some row ∧ row.status = .online

/-- No two workloads occupy one GPU. -/
def Store.Exclusive (store : Store) : Prop :=
  ∀ key other workerId otherWorkerId gpuUuid,
    store.Occupies key workerId (some gpuUuid) →
    store.Occupies other otherWorkerId (some gpuUuid) → key = other

/-- Every workload that occupies something names a worker that is online. -/
def Store.Attended (store : Store) : Prop :=
  ∀ key workerId gpuUuid, store.Occupies key workerId gpuUuid →
    ∃ id, workerId = some id ∧ store.Online id

theorem Store.Exclusive.of_fewer {left right : Store}
    (fewer : ∀ key workerId gpuUuid, right.Occupies key workerId gpuUuid →
      left.Occupies key workerId gpuUuid)
    (exclusive : left.Exclusive) : right.Exclusive :=
  fun key other workerId otherWorkerId gpuUuid first second =>
    exclusive key other workerId otherWorkerId gpuUuid (fewer _ _ _ first)
      (fewer _ _ _ second)

/-! ## Calm changes -/

/-- Occupancy only ends, and an online worker stays online. -/
def Calm (key : RowKey) (before after : Kept key.Row) : Prop :=
  (∀ held, occupancyOf key after.row = some held →
    occupancyOf key before.row = some held) ∧
  match key, before, after with
  | .worker _, before, after => ∀ old, before.row = some old →
      ∃ row : WorkerRow, after.row = some row ∧
        (WorkerRow.status old = .online → row.status = .online)
  | _, _, _ => True

theorem calm_refl (key : RowKey) (kept : Kept key.Row) : Calm key kept kept := by
  refine ⟨fun held => id, ?_⟩
  cases key with
  | worker id => exact fun old found => ⟨old, found, fun online => online⟩
  | _ => trivial

theorem calm_trans (key : RowKey) {a b c : Kept key.Row}
    (first : Calm key a b) (second : Calm key b c) : Calm key a c := by
  refine ⟨fun held later => first.1 held (second.1 held later), ?_⟩
  cases key with
  | worker id =>
      intro old found
      obtain ⟨middle, middleFound, stays⟩ := first.2 old found
      obtain ⟨last, lastFound, remains⟩ := second.2 middle middleFound
      exact ⟨last, lastFound, fun online => remains (stays online)⟩
  | _ => trivial

section CalmStores

variable {earlier later : Store} (calm : Rowwise Calm earlier later)

include calm

theorem Store.Occupies.before {key : RowKey} {workerId : Option String}
    {gpuUuid : Option NonEmptyString}
    (occupies : later.Occupies key workerId gpuUuid) :
    earlier.Occupies key workerId gpuUuid :=
  (calm key).1 _ occupies

theorem Store.Online.after {workerId : String}
    (online : earlier.Online workerId) : later.Online workerId := by
  obtain ⟨old, found, status⟩ := online
  obtain ⟨row, present, stays⟩ := (calm (.worker workerId)).2 old found
  exact ⟨row, present, stays status⟩

theorem Store.Exclusive.after (exclusive : earlier.Exclusive) :
    later.Exclusive :=
  exclusive.of_fewer (fun _ _ _ occupies => occupies.before calm)

theorem Store.Attended.after (attended : earlier.Attended) :
    later.Attended := by
  intro key workerId gpuUuid occupies
  obtain ⟨id, named, online⟩ :=
    attended key workerId gpuUuid (occupies.before calm)
  exact ⟨id, named, online.after calm⟩

end CalmStores

/-- The calls that only a pass makes, and that are not calm. -/
def Call.isCalm : Call → Bool
  | .assigned _ _ => false
  | .markedOffline => false
  | _ => true

theorem JobMove.occupancy {call : Call} {before after : Option JobRow}
    (move : JobMove call before after) (calm : call.isCalm) (id : String)
    (held : Option String × Option NonEmptyString)
    (occupies : occupancyOf (.job id) after = some held) :
    occupancyOf (.job id) before = some held := by
  cases move with
  | inserted queued =>
      simp [occupancyOf, JobRow.isActive, queued] at occupies
  | assigned => cases calm
  | started row _ _ _ _ leased _ =>
      simpa [occupancyOf, JobRow.isActive, leased] using occupies
  | renewed row _ _ _ _ running _ =>
      simpa [occupancyOf, JobRow.isActive, running] using occupies
  | finished row _ _ outcome =>
      cases outcome <;>
        simp [occupancyOf, JobRow.isActive, Outcome.status] at occupies
  | cancelled => simp [occupancyOf, JobRow.isActive] at occupies
  | recovered row =>
      by_cases exhausted : row.maxAttempts ≤ row.attempt <;>
        simp [occupancyOf, JobRow.isActive, exhausted] at occupies

theorem SessionMove.occupancy {call : Call} {before after : Option SessionRow}
    (move : SessionMove call before after) (calm : call.isCalm) (id : String)
    (held : Option String × Option NonEmptyString)
    (occupies : occupancyOf (.session id) after = some held) :
    occupancyOf (.session id) before = some held := by
  cases move with
  | inserted requested =>
      simp [occupancyOf, SessionRow.isOccupying, requested] at occupies
  | assigned => cases calm
  | started row _ _ _ _ allocated _ =>
      simpa [occupancyOf, SessionRow.isOccupying, allocated] using occupies
  | activated row _ _ _ _ connecting _ =>
      simpa [occupancyOf, SessionRow.isOccupying, connecting] using occupies
  | renewed row _ _ _ _ occupying _ =>
      simpa [occupancyOf, SessionRow.isOccupying] using occupies
  | closed => simp [occupancyOf, SessionRow.isOccupying] at occupies
  | recovered row =>
      by_cases allowed : row.interruptionCount + 1 ≤ row.maxInterruptions <;>
        simp [occupancyOf, SessionRow.isOccupying, allowed] at occupies

theorem WorkerMove.stays {call : Call} {old : WorkerRow}
    {after : Option WorkerRow} (move : WorkerMove call (some old) after)
    (calm : call.isCalm) :
    ∃ row, after = some row ∧ (old.status = .online → row.status = .online) := by
  cases move with
  | registeredAgain => exact ⟨_, rfl, fun _ => rfl⟩
  | heartbeat => exact ⟨_, rfl, fun _ => rfl⟩
  | drainSet => exact ⟨_, rfl, fun online => online⟩
  | markedOffline => cases calm

theorem calm_of_move {key : RowKey} {before after : Kept key.Row}
    (moved : KeptMove (fun call => call.isCalm) key before after) :
    Calm key before after := by
  rcases moved with rfl | ⟨call, calm, move, _⟩
  · exact calm_refl key _
  cases key with
  | worker id =>
      refine ⟨fun _ occupies => occupies, ?_⟩
      intro old found
      obtain ⟨beforeRow, beforeCalls⟩ := before
      cases found
      exact WorkerMove.stays move calm
  | job id => exact ⟨JobMove.occupancy move calm id, trivial⟩
  | session id => exact ⟨SessionMove.occupancy move calm id, trivial⟩
  | _ => exact ⟨fun _ occupies => occupies, trivial⟩

theorem calmly {α : Type} {code : Tx α}
    (steady : code.Steady (Moved (fun call => call.isCalm))) :
    code.Steady (Rowwise Calm) :=
  steady.mono (fun moved key => calm_of_move (moved key))

/-! ## One write -/

/-- Who occupies something after a write: the row written, or somebody who did
before. -/
theorem Store.Occupies.apply_cases {store : Store} {write : Write} {key : RowKey}
    {workerId : Option String} {gpuUuid : Option NonEmptyString}
    (occupies : (store.apply write).Occupies key workerId gpuUuid) :
    (key = write.key ∧
      occupancyOf write.key write.left = some (workerId, gpuUuid)) ∨
    (key ≠ write.key ∧ store.Occupies key workerId gpuUuid) := by
  by_cases written : key = write.key
  · subst written
    rw [Store.Occupies, Store.row?_apply_self] at occupies
    exact Or.inl ⟨rfl, occupies⟩
  · rw [Store.Occupies, Store.row?_apply_other _ written] at occupies
    exact Or.inr ⟨written, occupies⟩

/-! ## The stages of a pass -/

/-- Every workload that occupies something names a worker that is online,
unless it is excused. -/
def Store.AttendedExcept (store : Store) (excused : RowKey → String → Prop) :
    Prop :=
  ∀ key workerId gpuUuid, store.Occupies key workerId gpuUuid →
    ∃ id, workerId = some id ∧ (store.Online id ∨ excused key id)

theorem Store.AttendedExcept.after {earlier later : Store}
    {excused : RowKey → String → Prop} (calm : Rowwise Calm earlier later)
    (attended : earlier.AttendedExcept excused) :
    later.AttendedExcept excused := by
  intro key workerId gpuUuid occupies
  obtain ⟨id, named, covered⟩ :=
    attended key workerId gpuUuid (occupies.before calm)
  exact ⟨id, named, covered.imp_left (fun online => online.after calm)⟩

/-- Every GPU that the workloads with these keys occupy is in the list. -/
def Store.CoveredBy (store : Store) (among : RowKey → Prop)
    (gpus : List NonEmptyString) : Prop :=
  ∀ key workerId gpuUuid, among key →
    store.Occupies key workerId (some gpuUuid) → gpuUuid ∈ gpus

theorem Store.CoveredBy.after {earlier later : Store}
    {among : RowKey → Prop} {gpus : List NonEmptyString}
    (calm : Rowwise Calm earlier later)
    (covered : earlier.CoveredBy among gpus) : later.CoveredBy among gpus :=
  fun key workerId gpuUuid included occupies =>
    covered key workerId gpuUuid included (occupies.before calm)

/-- The workers that a pass has read as online still are. -/
def Store.StillOnline (store : Store) (workers : List Worker) : Prop :=
  ∀ worker ∈ workers, worker.status = .online → store.Online worker.id

theorem Store.StillOnline.after {earlier later : Store} {workers : List Worker}
    (calm : Rowwise Calm earlier later)
    (online : earlier.StillOnline workers) : later.StillOnline workers :=
  fun worker listed status => (online worker listed status).after calm

/-- What is known of a store in the placement loop of a pass. -/
structure Store.Placing (store : Store) (workers : List Worker)
    (occupied : List NonEmptyString) : Prop where
  exclusive : store.Exclusive
  attended : store.Attended
  online : store.StillOnline workers
  covered : store.CoveredBy (fun _ => True) occupied

theorem Store.Placing.after {earlier later : Store} {workers : List Worker}
    {occupied : List NonEmptyString} (calm : Rowwise Calm earlier later)
    (placing : earlier.Placing workers occupied) :
    later.Placing workers occupied :=
  ⟨placing.exclusive.after calm, placing.attended.after calm,
    placing.online.after calm, placing.covered.after calm⟩

/-- A workload that is put on a free GPU of an online worker. -/
theorem Store.Placing.place {store : Store} {workers : List Worker}
    {occupied : List NonEmptyString} {placement : Placement} {write : Write}
    (placing : store.Placing workers occupied)
    (free : placement.gpuUuid ∉ occupied)
    (online : store.Online placement.workerId)
    (placed : occupancyOf write.key write.left =
      some (some placement.workerId, some placement.gpuUuid))
    (stays : ∀ id, store.Online id → (store.apply write).Online id) :
    (store.apply write).Placing workers (placement.gpuUuid :: occupied) := by
  have elsewhere : ∀ key workerId gpuUuid,
      store.Occupies key workerId (some gpuUuid) →
      gpuUuid ≠ placement.gpuUuid := by
    intro key workerId gpuUuid occupies same
    exact free (same ▸ placing.covered key workerId gpuUuid trivial occupies)
  refine ⟨?_, ?_, ?_, ?_⟩
  · intro key other workerId otherWorkerId gpuUuid first second
    rcases first.apply_cases with ⟨rfl, mine⟩ | ⟨_, before⟩ <;>
      rcases second.apply_cases with ⟨rfl, theirs⟩ | ⟨_, otherBefore⟩
    · rfl
    · rw [placed] at mine
      cases mine
      exact (elsewhere _ _ _ otherBefore rfl).elim
    · rw [placed] at theirs
      cases theirs
      exact (elsewhere _ _ _ before rfl).elim
    · exact placing.exclusive _ _ _ _ _ before otherBefore
  · intro key workerId gpuUuid occupies
    rcases occupies.apply_cases with ⟨rfl, mine⟩ | ⟨_, before⟩
    · rw [placed] at mine
      cases mine
      exact ⟨placement.workerId, rfl, stays _ online⟩
    · obtain ⟨id, named, there⟩ := placing.attended _ _ _ before
      exact ⟨id, named, stays id there⟩
  · exact fun worker listed status =>
      stays worker.id (placing.online worker listed status)
  · intro key workerId gpuUuid _ occupies
    rcases occupies.apply_cases with ⟨rfl, mine⟩ | ⟨_, before⟩
    · rw [placed] at mine
      cases mine
      exact List.mem_cons_self
    · exact List.mem_cons_of_mem _ (placing.covered _ _ _ trivial before)

theorem Store.online_apply {store : Store} {write : Write}
    (elsewhere : ∀ id, write.key ≠ .worker id) (id : String)
    (online : store.Online id) : (store.apply write).Online id := by
  obtain ⟨row, found, status⟩ := online
  refine ⟨row, ?_, status⟩
  exact (Store.row?_apply_other store (elsewhere id).symm).trans found

theorem Store.occupies_congr {left right : Store} {key : RowKey}
    (same : left.row? key = right.row? key) {workerId : Option String}
    {gpuUuid : Option NonEmptyString}
    (occupies : left.Occupies key workerId gpuUuid) :
    right.Occupies key workerId gpuUuid := by
  rwa [Store.Occupies, ← same]

theorem Store.online_congr {left right : Store} {id : String}
    (same : left.row? (.worker id) = right.row? (.worker id))
    (online : left.Online id) : right.Online id := by
  obtain ⟨row, found, status⟩ := online
  exact ⟨row, same.symm.trans found, status⟩

end GpuLink
