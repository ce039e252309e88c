import GpuLink.ControlPlane.GuardedPass

/-!
# One workload per GPU

On either engine no GPU is ever carried by two workloads, and every workload
that carries one names a worker that is online.
-/

namespace GpuLink

open Transactional Sql

/-- The workloads that carry a GPU: jobs that are leased or running, sessions
that are allocated, connecting or active. -/
def Store.carriers (store : Store) (gpuUuid : NonEmptyString) : List RowKey :=
  (store.jobs.rows.filter (fun row =>
      row.isActive && row.assignedGpuUuid = some gpuUuid)).map
    (fun row => .job row.id) ++
  (store.sessions.rows.filter (fun row =>
      row.isOccupying && row.assignedGpuUuid = some gpuUuid)).map
    (fun row => .session row.id)

theorem Store.mem_carriers {store : Store} {gpuUuid : NonEmptyString}
    {key : RowKey} :
    key ∈ store.carriers gpuUuid ↔
      ∃ workerId, store.Occupies key workerId (some gpuUuid) := by
  simp only [carriers, List.mem_append, List.mem_map, List.mem_filter,
    Bool.and_eq_true, decide_eq_true_eq]
  constructor
  · rintro (⟨row, ⟨listed, active, gpu⟩, rfl⟩ | ⟨row, ⟨listed, active, gpu⟩, rfl⟩)
    · exact ⟨_, Store.occupies_job.mpr
        ⟨row, KeyedTable.mem_rows_iff.mp listed, active, rfl, gpu⟩⟩
    · exact ⟨_, Store.occupies_session.mpr
        ⟨row, KeyedTable.mem_rows_iff.mp listed, active, rfl, gpu⟩⟩
  · rintro ⟨workerId, occupies⟩
    rcases occupies.cases with ⟨id, rfl⟩ | ⟨id, rfl⟩
    · obtain ⟨row, found, active, _, gpu⟩ := Store.occupies_job.mp occupies
      exact Or.inl ⟨row, ⟨KeyedTable.mem_of_find? found, active, gpu⟩,
        congrArg RowKey.job (KeyedTable.key_of_find? found)⟩
    · obtain ⟨row, found, active, _, gpu⟩ := Store.occupies_session.mp occupies
      exact Or.inr ⟨row, ⟨KeyedTable.mem_of_find? found, active, gpu⟩,
        congrArg RowKey.session (KeyedTable.key_of_find? found)⟩

theorem Store.carriers_nodup (store : Store) (gpuUuid : NonEmptyString) :
    (store.carriers gpuUuid).Nodup := by
  have jobs : ((store.jobs.rows.filter (fun row =>
      row.isActive && row.assignedGpuUuid = some gpuUuid)).map
        JobRow.id).Nodup :=
    (List.filter_sublist.map _).nodup store.jobs.distinct
  have sessions : ((store.sessions.rows.filter (fun row =>
      row.isOccupying && row.assignedGpuUuid = some gpuUuid)).map
        SessionRow.id).Nodup :=
    (List.filter_sublist.map _).nodup store.sessions.distinct
  refine List.nodup_append.mpr ⟨?_, ?_, ?_⟩
  · simpa [List.map_map, Function.comp_def] using
      jobs.map (fun _ _ same => RowKey.job.inj same)
  · simpa [List.map_map, Function.comp_def] using
      sessions.map (fun _ _ same => RowKey.session.inj same)
  · intro key job other session same
    obtain ⟨row, _, rfl⟩ := List.mem_map.mp job
    obtain ⟨otherRow, _, rfl⟩ := List.mem_map.mp session
    cases same

theorem Store.Exclusive.carriers_length {store : Store}
    (exclusive : store.Exclusive) (gpuUuid : NonEmptyString) :
    (store.carriers gpuUuid).length ≤ 1 := by
  match listed : store.carriers gpuUuid with
  | [] => exact Nat.zero_le 1
  | [key] => exact Nat.le_refl 1
  | key :: other :: rest =>
      have distinct := store.carriers_nodup gpuUuid
      obtain ⟨workerId, first⟩ : ∃ workerId,
          store.Occupies key workerId (some gpuUuid) :=
        Store.mem_carriers.mp (by simp [listed])
      obtain ⟨otherWorkerId, second⟩ : ∃ workerId,
          store.Occupies other workerId (some gpuUuid) :=
        Store.mem_carriers.mp (by simp [listed])
      have same := exclusive key other workerId otherWorkerId gpuUuid first second
      simp [listed, same] at distinct

/-! ## Every transaction is disciplined -/

theorem request_disciplined (text : Collation) (leaseDurationMs : Int)
    (request : Service.Request) :
    (request.code (postgres text) leaseDurationMs).Disciplined (Rowwise Calm)
      (fun s => s.Exclusive ∧ s.Attended) := by
  have calm : ∀ call : Call, call.ByRequest → call.isCalm := by
    intro call byRequest
    cases call <;> first | rfl | cases byRequest
  exact (calmly ((postgres_serves text calm).request leaseDurationMs
    request)).disciplined (fun later held =>
      ⟨held.1.after later, held.2.after later⟩)

theorem pass_disciplined (text : Collation) (settings : SchedulerSettings)
    (input : PassInput) :
    ((Service.Transaction.pass input).code (postgres text)
      settings).Disciplined (Rowwise Calm)
      (fun s => s.Exclusive ∧ s.Attended) := by
  refine ⟨trivial, ?_⟩
  intro s held
  refine Program.wp_bind (fun s key => calm_refl key _) ?_
  refine Program.wp_mono ?_ ((guardedPass text settings input).lockedPass held)
  rintro result s ⟨workers, occupied, placing⟩ s' later
  exact ⟨placing.exclusive.after later, placing.attended.after later⟩

theorem transaction_disciplined (text : Collation) (code : Tx Unit)
    (begins : Service.Begins (postgres text) code) :
    code.Disciplined (Rowwise Calm) (fun s => s.Exclusive ∧ s.Attended) := by
  obtain ⟨settings, work, rfl⟩ := begins
  cases work with
  | request request => exact request_disciplined text _ request
  | pass input => exact pass_disciplined text settings input

theorem vacant_empty : Store.empty.Exclusive ∧ Store.empty.Attended := by
  have vacant : ∀ key workerId gpuUuid,
      ¬ Store.empty.Occupies key workerId gpuUuid := by
    intro key workerId gpuUuid occupies
    cases key <;> cases occupies
  exact ⟨fun key _ workerId _ gpuUuid first => (vacant _ _ _ first).elim,
    fun key workerId gpuUuid occupies => (vacant _ _ _ occupies).elim⟩

theorem Committed.exclusive_attended {text : Collation} {store : Store}
    (committed : Committed text store) : store.Exclusive ∧ store.Attended :=
  committed.disciplined calm_refl calm_trans
    (fun calm held => ⟨held.1.after calm, held.2.after calm⟩)
    transaction_disciplined vacant_empty

/-- No committed store has a GPU with two carriers. -/
theorem gpu_exclusive {text : Collation} {store : Store}
    (committed : Committed text store) (gpuUuid : NonEmptyString) :
    (store.carriers gpuUuid).length ≤ 1 :=
  committed.exclusive_attended.1.carriers_length gpuUuid

theorem gpu_exclusive_sample :
    (Database.State.after samplePlacement).1.carriers sampleGpu.uuid =
        [.job "job_1"] ∧
      ((Database.State.after samplePlacement).1.carriers
        sampleGpu.uuid).length ≤ 1 :=
  ⟨by decide +kernel, gpu_exclusive
    (.serial (serialRun_after (by decide +kernel)) :
      Committed Collation.binary _) sampleGpu.uuid⟩

end GpuLink
