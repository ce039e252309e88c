import GpuLink.ControlPlane.PassRecovery

/-!
# The order of a pass

A pass places one queue of jobs and sessions greedily.  What it leaves pending
finds no GPU in the end, and every GPU that it could have had at the start went
to an entry before it.  GPUs are told apart by their UUID, as in the set of
occupied GPUs that the pass keeps.
-/

namespace GpuLink

open Transactional Sql Scheduler Postgres

/-- The worker of the store has this GPU, and it is free and feasible for the
entry. -/
structure Store.Offers (store : Store) (settings : SchedulerSettings)
    (input : PassInput) (entry : PendingEntry) (worker : Worker) (gpu : Gpu) :
    Prop where
  registered : ∃ row, store.workers.find? worker.id = some row ∧
    mapPostgresWorker row = worker
  present : gpu ∈ worker.gpus
  feasible : Feasible entry.demand store.occupiedGpus
    (input.options settings store.blockedGpus) worker gpu

theorem Store.blockedGpus_congr {before after : Store}
    (fences : ∀ key, after.fences.find? key = before.fences.find? key)
    (gpu : BlockedGpu) :
    gpu ∈ after.blockedGpus ↔ gpu ∈ before.blockedGpus := by
  rw [Store.mem_blockedGpus, Store.mem_blockedGpus, fences]

/-- What a worker offers at the start of a pass it offers when the queue is
read. -/
theorem PassRecovery.offers {settings : SchedulerSettings} {input : PassInput}
    {start recovered : Store}
    (recovery : PassRecovery (input.now - settings.heartbeatTimeoutMs) start
      recovered) {entry : PendingEntry} {worker : Worker} {gpu : Gpu}
    (offers : start.Offers settings input entry worker gpu) :
    recovered.Offers settings input entry worker gpu := by
  obtain ⟨⟨row, found, same⟩, present, feasible⟩ := offers
  have seen : input.now - worker.lastSeenAt ≤ settings.heartbeatTimeoutMs :=
    feasible.fresh
  rw [← same] at seen
  have recent : input.now - settings.heartbeatTimeoutMs ≤ row.lastSeenAt := by
    change input.now - row.lastSeenAt ≤ _ at seen
    omega
  refine ⟨⟨row, recovery.fresh _ row found recent, same⟩, present,
    feasible.among ?_ ?_⟩
  · intro occupied
    obtain ⟨key, workerId, occupies⟩ := Store.mem_occupiedGpus.mp occupied
    exact feasible.unoccupied (Store.mem_occupiedGpus.mpr
      ⟨key, workerId, recovery.frees _ _ _ occupies⟩)
  · intro blocked
    exact feasible.unfenced
      ((Store.blockedGpus_congr recovery.fences _).mp blocked)

/-- A pass on the snapshot `start`, which it leaves as `final`: after its
recovery it decides on the entries of one queue, one after the other. -/
structure PriorityPass (settings : SchedulerSettings) (input : PassInput)
    (start recovered final : Store) (workers : List Worker)
    (decisions : List PassDecision) : Prop where
  recovery : PassRecovery (input.now - settings.heartbeatTimeoutMs) start
    recovered
  queue : PendingQueue settings.locale recovered (decisions.map Prod.fst)
  registered : workers.Perm (recovered.workers.rows.map mapPostgresWorker)
  /-- Every entry gets what `choosePlacement` chooses under the GPUs that are
  occupied before it. -/
  chosen : ∀ earlier entry choice later,
    decisions = earlier ++ (entry, choice) :: later →
    choice = placementFor settings input workers recovered.blockedGpus entry
      (Greedy.used Placement.gpuUuid earlier ++ recovered.occupiedGpus)
  carriedOut : CarriedOut recovered final decisions
  /-- What is left pending waits on, and no GPU is left that is free and
  feasible for it. -/
  maximal : ∀ entry, (entry, none) ∈ decisions → final.Waiting entry ∧
    ∀ worker gpu, ¬ final.Offers settings input entry worker gpu
  /-- Every GPU that was free and feasible for it went to an entry before it. -/
  fair : ∀ earlier entry later,
    decisions = earlier ++ (entry, none) :: later →
    ∀ worker gpu, start.Offers settings input entry worker gpu ∨
      recovered.Offers settings input entry worker gpu →
    ∃ other placement, (other, some placement) ∈ earlier ∧
      placement.gpuUuid = gpu.uuid

/-- The rows that a placement does not write. -/
theorem CarriedOut.other {before after : Store} {decisions : List PassDecision}
    (carried : CarriedOut before after decisions) (key : RowKey)
    (nonEvent : ∀ sequence, key ≠ .event sequence)
    (jobless : ∀ id, key ≠ .job id) (sessionless : ∀ id, key ≠ .session id) :
    after.row? key = before.row? key := by
  refine carried.kept key nonEvent (fun entry _ _ => ?_)
  cases entry with
  | job item => exact jobless item.id
  | session item => exact sessionless item.id

theorem CarriedOut.worker {before after : Store} {decisions : List PassDecision}
    (carried : CarriedOut before after decisions) (id : String) :
    after.workers.find? id = before.workers.find? id :=
  carried.other (.worker id) (by simp) (by simp) (by simp)

theorem CarriedOut.fenced {before after : Store} {decisions : List PassDecision}
    (carried : CarriedOut before after decisions) (gpu : BlockedGpu) :
    gpu ∈ after.blockedGpus ↔ gpu ∈ before.blockedGpus :=
  Store.blockedGpus_congr (fun key =>
    carried.other (.fence key.1 key.2) (by simp) (by simp) (by simp)) gpu

theorem Store.Gives.occupies {store : Store} {entry : PendingEntry}
    {placement : Placement} (given : store.Gives placement entry) :
    store.Occupies entry.key (some placement.workerId)
      (some placement.gpuUuid) := by
  cases entry with
  | job item =>
      obtain ⟨row, found, leased, columns⟩ := given
      exact Store.occupies_job.mpr
        ⟨row, found, by simp [JobRow.isActive, leased], columns⟩
  | session item =>
      obtain ⟨row, found, allocated, columns⟩ := given
      exact Store.occupies_session.mpr
        ⟨row, found, by simp [SessionRow.isOccupying, allocated], columns⟩

/-- What is occupied while the queue is read and what is placed then are
occupied in the end. -/
theorem CarriedOut.occupied {before after : Store} {decisions : List PassDecision}
    (carried : CarriedOut before after decisions)
    (waiting : ∀ decision ∈ decisions, before.Waiting decision.1)
    {gpuUuid : NonEmptyString}
    (occupied : gpuUuid ∈ Greedy.used Placement.gpuUuid decisions ∨
      gpuUuid ∈ before.occupiedGpus) : gpuUuid ∈ after.occupiedGpus := by
  rcases occupied with placed | held
  · obtain ⟨entry, placement, member, rfl⟩ := (Greedy.mem_used _).mp placed
    exact Store.mem_occupiedGpus.mpr
      ⟨_, _, (carried.given entry placement member).occupies⟩
  · obtain ⟨key, workerId, occupies⟩ := Store.mem_occupiedGpus.mp held
    refine Store.mem_occupiedGpus.mpr ⟨key, workerId,
      Store.occupies_congr (carried.kept key ?_ ?_).symm occupies⟩
    · rcases occupies.cases with ⟨id, rfl⟩ | ⟨id, rfl⟩ <;> exact nofun
    · rintro entry placement member rfl
      exact (waiting _ member).idle occupies

/-- The plan of a pass and its effect make a pass in the order of priority. -/
theorem priorityPass_of_plan {settings : SchedulerSettings}
    {input : PassInput} {start recovered final : Store}
    {workers : List Worker} {blocked : List BlockedGpu}
    {occupied : List NonEmptyString} {entries : List PendingEntry}
    (recovery : PassRecovery (input.now - settings.heartbeatTimeoutMs) start
      recovered)
    (registered : workers.Perm (recovered.workers.rows.map mapPostgresWorker))
    (fenced : ∀ gpu, gpu ∈ blocked ↔ gpu ∈ recovered.blockedGpus)
    (held : ∀ gpuUuid, gpuUuid ∈ occupied ↔ gpuUuid ∈ recovered.occupiedGpus)
    (queue : PendingQueue settings.locale recovered entries)
    (carried : CarriedOut recovered final (Greedy.plan
      (placementFor settings input workers blocked) Placement.gpuUuid occupied
      entries)) :
    PriorityPass settings input start recovered final workers (Greedy.plan
      (placementFor settings input workers blocked) Placement.gpuUuid occupied
      entries) := by
  have items := Greedy.plan_items (placementFor settings input workers blocked)
    Placement.gpuUuid occupied entries
  generalize planned : Greedy.plan (placementFor settings input workers
    blocked) Placement.gpuUuid occupied entries = decisions at carried items ⊢
  have chosen : ∀ earlier entry choice later,
      decisions = earlier ++ (entry, choice) :: later →
      choice = placementFor settings input workers recovered.blockedGpus entry
        (Greedy.used Placement.gpuUuid earlier ++ recovered.occupiedGpus) := by
    intro earlier entry choice later split
    obtain ⟨before, rfl, members⟩ :=
      Greedy.plan_choice _ _ (planned.trans split)
    refine choosePlacement_congr (fun gpuUuid => ?_) fenced
    rw [members, List.mem_append, held]
  have waiting : ∀ decision ∈ decisions, recovered.Waiting decision.1 :=
    fun decision member => (queue.waiting _).mp
      (items ▸ List.mem_map_of_mem member)
  have listed : ∀ worker : Worker, (∃ row,
      recovered.workers.find? worker.id = some row ∧
        mapPostgresWorker row = worker) → worker ∈ workers := by
    rintro worker ⟨row, found, same⟩
    exact registered.mem_iff.mpr
      (List.mem_map.mpr ⟨row, KeyedTable.mem_of_find? found, same⟩)
  have refused : ∀ earlier entry later,
      decisions = earlier ++ (entry, none) :: later →
      ∀ worker ∈ workers, ∀ gpu ∈ worker.gpus, ¬ Feasible entry.demand
        (Greedy.used Placement.gpuUuid earlier ++ recovered.occupiedGpus)
        (input.options settings recovered.blockedGpus) worker gpu :=
    fun earlier entry later split =>
      choosePlacement_eq_none.mp (chosen earlier entry none later split).symm
  refine ⟨recovery, items.symm ▸ queue, registered, chosen, carried, ?_, ?_⟩
  · intro entry member
    have distinct := queue.distinct
    rw [← items, List.map_map] at distinct
    have apart : ∀ other placement, (other, some placement) ∈ decisions →
        entry.key ≠ other.key := by
      intro other placement placed same
      cases List.inj_on_of_nodup_map distinct member placed same
    refine ⟨(waiting _ member).congr
      (carried.kept _ entry.key_ne_event apart), ?_⟩
    rintro worker gpu ⟨⟨row, found, same⟩, present, feasible⟩
    obtain ⟨earlier, later, split⟩ := List.append_of_mem member
    refine refused earlier entry later split worker
      (listed worker ⟨row, (carried.worker _).symm.trans found, same⟩) gpu
      present (feasible.among ?_ ?_)
    · intro occupied
      refine feasible.unoccupied (carried.occupied waiting ?_)
      refine (List.mem_append.mp occupied).imp_left (fun placed => ?_)
      rw [split, Greedy.used, List.filterMap_append]
      exact List.mem_append_left _ placed
    · exact fun blocked => feasible.unfenced ((carried.fenced _).mpr blocked)
  · intro earlier entry later split worker gpu offered
    have offers : recovered.Offers settings input entry worker gpu :=
      offered.elim recovery.offers id
    by_contra untaken
    refine refused earlier entry later split worker (listed worker
      offers.registered) gpu offers.present
      (offers.feasible.among ?_ offers.feasible.unfenced)
    intro occupied
    rcases List.mem_append.mp occupied with placed | before
    · exact untaken ((Greedy.mem_used _).mp placed)
    · exact offers.feasible.unoccupied before

/-- A pass that holds the lock is maximal and in the order of priority, on both
engines and whatever snapshot it begins with. -/
theorem pass_priority {transaction : Persistence}
    (engine : transaction = sqlite ∨ ∃ text, transaction = postgres text)
    {settings : SchedulerSettings} {input : PassInput} {start final : Store}
    {sequence last : Nat} {result : PassResult}
    (run : (runOnce transaction settings input).Runs start sequence
      (.ok result) final last) :
    result.acquired = true ∧ ∃ recovered workers decisions,
      PriorityPass settings input start recovered final workers decisions := by
  have asPostgres : ∃ text, (runOnce (postgres text) settings input).Runs start
      sequence (.ok result) final last := by
    rcases engine with rfl | ⟨text, rfl⟩
    · exact ⟨_, (sqlite_schedules.runOnce settings input) _ _ _ _ _ run⟩
    · exact ⟨text, run⟩
  obtain ⟨text, run⟩ := asPostgres
  obtain ⟨acquired, _, _, lock, locked⟩ := Program.Runs.of_bind run
  cases lock with
  | tryLock granted =>
      cases granted
      obtain ⟨recovered, between, recovery, placed, held⟩ :=
        lockedPass_runs locked
      obtain ⟨workers, blocked, occupied, entries, registered, fenced, same,
        queue, carried⟩ := place_runs placed
      exact ⟨held, recovered, workers, _, priorityPass_of_plan recovery
        registered fenced same queue carried⟩

theorem pass_priority_sample :
    ∃ result final last,
      (runOnce sqlite sampleSettings samplePass).Runs
        (Database.State.after sampleSubmission).1
        (Database.State.after sampleSubmission).2 (.ok result) final last ∧
      result.acquired = true ∧ ∃ recovered workers decisions,
        PriorityPass sampleSettings samplePass
          (Database.State.after sampleSubmission).1 recovered final workers
          decisions := by
  have run := Program.runs_runAlone Scan.stored
    (runOnce sqlite sampleSettings samplePass)
    (Database.State.after sampleSubmission).1
    (Database.State.after sampleSubmission).2
  have succeeds : ((runOnce sqlite sampleSettings samplePass).runAlone
      Scan.stored (Database.State.after sampleSubmission).1
      (Database.State.after sampleSubmission).2).1.isOk = true := by
    decide +kernel
  cases outcome : ((runOnce sqlite sampleSettings samplePass).runAlone
      Scan.stored (Database.State.after sampleSubmission).1
      (Database.State.after sampleSubmission).2).1 with
  | error problem =>
      rw [outcome] at succeeds
      cases succeeds
  | ok result =>
      rw [outcome] at run
      exact ⟨result, _, _, run, pass_priority (Or.inl rfl) run⟩

end GpuLink
