import GpuLink.ControlPlane.Occupancy
import GpuLink.ControlPlane.PassOutline
import GpuLink.ControlPlane.PlacementOrder
import GpuLink.Library.Greedy
import GpuLink.Store.Engines

/-!
# The queue of a pass

What a pass reads of the store, the order of its queue, and what its placement
loop leaves: the greedy plan over the queue, carried out.
-/

namespace GpuLink

open Transactional Sql Scheduler Postgres

/-! ## Feasibility under more or less that is occupied -/

/-- Only the occupied and the blocked GPUs change in a pass. -/
theorem Feasible.among {demand : Demand} {occupied others : List NonEmptyString}
    {options : PlacementOptions} {blocked : List BlockedGpu} {worker : Worker}
    {gpu : Gpu} (feasible : Feasible demand occupied options worker gpu)
    (unoccupied : gpu.uuid ∉ others)
    (unfenced : (⟨worker.id, gpu.uuid⟩ : BlockedGpu) ∉ blocked) :
    Feasible demand others { options with blockedGpuResources := blocked }
      worker gpu where
  online := feasible.online
  serving := feasible.serving
  fresh := feasible.fresh
  capable := feasible.capable
  pinned := feasible.pinned
  unoccupied := unoccupied
  unfenced := unfenced
  roomy := feasible.roomy

/-- The choice depends on what is occupied and blocked, not on its order. -/
theorem choosePlacement_congr {locale : Locale} {demand : Demand}
    {workers : List Worker} {left right : List NonEmptyString}
    {options : PlacementOptions} {blocked : List BlockedGpu}
    (occupied : ∀ gpuUuid, gpuUuid ∈ left ↔ gpuUuid ∈ right)
    (fenced : ∀ gpu, gpu ∈ options.blockedGpuResources ↔ gpu ∈ blocked) :
    choosePlacement locale demand workers left options =
      choosePlacement locale demand workers right
        { options with blockedGpuResources := blocked } := by
  unfold choosePlacement candidates
  have eligible : gpuEligible demand left options =
      gpuEligible demand right
        { options with blockedGpuResources := blocked } := by
    funext worker gpu
    simp only [gpuEligible, occupied, fenced]
    rfl
  rw [eligible]
  rfl

/-! ## The queue -/

instance (locale : Locale) : Std.TransCmp (comparePendingWork locale) :=
  have : Std.TransCmp (fun left right : PendingEntry =>
      compare right.priority left.priority) :=
    @Std.TransCmp.opposite _ (compareOn PendingEntry.priority) _
  have := @transCmp_comap _ _ locale.compare _ PendingEntry.id
  have := @transCmp_comap _ _ locale.compare _ PendingEntry.kind
  inferInstanceAs (Std.TransCmp <|
    compareLex (fun left right => compare right.priority left.priority) <|
    compareLex (compareOn PendingEntry.createdAt) <|
    compareLex (fun left right => locale.compare left.id right.id)
      (fun left right => locale.compare left.kind right.kind))

theorem pairwise_sortBy {α : Type} {comparator : α → α → Ordering}
    [Std.TransCmp comparator] (items : List α) :
    (sortBy comparator items).Pairwise
      (fun left right => comparator left right ≠ .gt) := by
  have : Std.Total (fun left right : α =>
      decide (comparator left right ≠ .gt) = true) := ⟨by
    intro left right
    have swap : comparator right left = (comparator left right).swap :=
      Std.OrientedCmp.eq_swap
    rw [swap]
    cases comparator left right <;> simp⟩
  have : IsTrans α (fun left right : α =>
      decide (comparator left right ≠ .gt) = true) := ⟨by
    intro left middle right
    simp only [decide_eq_true_eq, ← Ordering.isLE_iff_ne_gt]
    exact Std.TransCmp.isLE_trans⟩
  have sorted := List.pairwise_insertionSort (fun left right : α =>
    decide (comparator left right ≠ .gt) = true) items
  exact sorted.imp (fun le => of_decide_eq_true le)

/-- Higher priority first, then the older entry, then by identifier and by
kind. -/
def PendingEntry.Precedes (locale : Locale) (left right : PendingEntry) :
    Prop :=
  right.priority < left.priority ∨ left.priority = right.priority ∧
    (left.createdAt < right.createdAt ∨ left.createdAt = right.createdAt ∧
      (locale.compare left.id right.id = .lt ∨
        locale.compare left.id right.id = .eq ∧
          locale.compare left.kind right.kind ≠ .gt))

theorem comparePendingWork_ne_gt {locale : Locale}
    {left right : PendingEntry} :
    comparePendingWork locale left right ≠ .gt ↔
      left.Precedes locale right := by
  unfold comparePendingWork PendingEntry.Precedes
  rcases lt_trichotomy right.priority left.priority with before | same | after
  · simp [Int.compare_eq_lt.mpr before, before]
  · rcases lt_trichotomy left.createdAt right.createdAt with old | tied | new
    · simp [same, Int.compare_eq_lt.mpr old, old]
    · cases locale.compare left.id right.id <;> simp [same, tied]
    · simp [same, Int.compare_eq_gt.mpr new, new.ne', new.not_gt]
  · simp [Int.compare_eq_gt.mpr after, after.not_gt, after.ne]

/-- The row that a pending entry was read from. -/
def PendingEntry.key : PendingEntry → RowKey
  | .job item => .job item.id
  | .session item => .session item.id

/-- The entry is what is read of a queued job or of a requested session. -/
def Store.Waiting (store : Store) : PendingEntry → Prop
  | .job item => ∃ row, store.jobs.find? item.id = some row ∧
      row.status = .queued ∧ mapPostgresJob row = item
  | .session item => ∃ row, store.sessions.find? item.id = some row ∧
      row.status = .requested ∧ mapPostgresSession row = item

/-- The entry has been given the GPU of the placement. -/
def Store.Gives (store : Store) (placement : Placement) : PendingEntry → Prop
  | .job item => ∃ row, store.jobs.find? item.id = some row ∧
      row.status = .leased ∧
      row.assignedWorkerId = some placement.workerId ∧
      row.assignedGpuUuid = some placement.gpuUuid
  | .session item => ∃ row, store.sessions.find? item.id = some row ∧
      row.status = .allocated ∧
      row.assignedWorkerId = some placement.workerId ∧
      row.assignedGpuUuid = some placement.gpuUuid

theorem PendingEntry.key_ne_event (entry : PendingEntry) (sequence : Nat) :
    entry.key ≠ .event sequence := by
  cases entry <;> exact nofun

theorem Store.Waiting.congr {before after : Store} {entry : PendingEntry}
    (same : after.row? entry.key = before.row? entry.key)
    (waiting : before.Waiting entry) : after.Waiting entry := by
  cases entry with
  | job item =>
      obtain ⟨row, found, rest⟩ := waiting
      exact ⟨row, same.trans found, rest⟩
  | session item =>
      obtain ⟨row, found, rest⟩ := waiting
      exact ⟨row, same.trans found, rest⟩

theorem Store.Gives.congr {before after : Store} {entry : PendingEntry}
    {placement : Placement}
    (same : after.row? entry.key = before.row? entry.key)
    (given : before.Gives placement entry) : after.Gives placement entry := by
  cases entry with
  | job item =>
      obtain ⟨row, found, rest⟩ := given
      exact ⟨row, same.trans found, rest⟩
  | session item =>
      obtain ⟨row, found, rest⟩ := given
      exact ⟨row, same.trans found, rest⟩

/-! ## Runs of the placement loop -/

/-- Only the events may have changed. -/
def Store.Eventful (before after : Store) : Prop :=
  ∀ key, (∀ sequence, key ≠ .event sequence) →
    after.row? key = before.row? key

theorem eventful_of_moved {before after : Store}
    (moved : Moved Call.isEvent before after) : before.Eventful after := by
  intro key other
  rcases moved key with same | ⟨call, event, move, _⟩
  · exact congrArg Kept.row same
  · change RowMove key call (before.row? key) (after.row? key) at move
    generalize before.row? key = old at move ⊢
    generalize after.row? key = new at move ⊢
    cases key with
    | event sequence => exact (other sequence rfl).elim
    | worker id => cases (move : WorkerMove call old new) <;> cases event
    | job id => cases (move : JobMove call old new) <;> cases event
    | session id => cases (move : SessionMove call old new) <;> cases event
    | fence workerId gpuUuid =>
        cases (move : FenceMove call old new) <;> cases event
    | attempt id => cases (move : AttemptMove call old new); cases event

theorem eventful_runs {α : Type} {code : Tx α} {s final : Store}
    {sequence last : Nat} {outcome : Except TxError α}
    (steady : code.Steady Store.Eventful)
    (run : code.Runs s sequence outcome final last) : s.Eventful final :=
  run.steady (fun _ _ _ => rfl)
    (fun first second key other =>
      (second key other).trans (first key other)) steady

theorem appendEvent_eventful (type : String) (subjectId : Option String)
    (payload : Json) (now : Int) :
    (postgresAppendEvent type subjectId payload now).Steady Store.Eventful :=
  (@appendEvent_steady Call.isEvent trivial trivial type subjectId payload
    now).mono eventful_of_moved

/-- An assignment whose row is there writes it. -/
theorem assign_runs {ρ γ : Type} {wrap : ρ → RowWrite} {call : Option Call}
    {found : Store → Option ρ} {set : ρ → ρ} {answer : Option ρ → γ}
    {workerId : String} {s final : Store} {sequence last : Nat} {result : γ}
    {row : ρ} (present : found s = some row)
    (run : (query (referencing workerId (update wrap call found set)) >>=
      fun row => pure (answer row)).Runs s sequence (.ok result) final last) :
    result = answer (some (set row)) ∧
      final = s.apply ⟨wrap (set row), call⟩ := by
  obtain ⟨rows, middle, between, first, ending⟩ := Program.Runs.of_bind run
  obtain ⟨scan, effect, accepted, rfl, rfl⟩ := Program.Runs.of_statement first
  cases ending
  have written := (referencing_ok accepted).1
  simp only [update, present] at written
  cases written
  exact ⟨rfl, rfl⟩

/-- What still waits is assigned, and nothing else is touched. -/
theorem assignEntry_runs {text : Collation} {settings : SchedulerSettings}
    {now : Int} {leaseId : String} {placement : Placement}
    {entry : PendingEntry} {s final : Store} {sequence last : Nat}
    {answer : Bool × Option Job} (waiting : s.Waiting entry)
    (run : (assignEntry (postgres text) settings now leaseId placement
      entry).Runs s sequence (.ok answer) final last) :
    answer.1 = true ∧ final.Gives placement entry ∧
      ∀ key, (∀ sequence, key ≠ .event sequence) → key ≠ entry.key →
        final.row? key = s.row? key := by
  cases entry with
  | job item =>
      obtain ⟨row, found, queued, rfl⟩ := waiting
      obtain ⟨leased, middle, between, first, rest⟩ := Program.Runs.of_bind run
      have present : s.jobWhere (mapPostgresJob row).id
          (fun row => row.status = .queued) = some row :=
        Store.jobWhere_eq_some.mpr ⟨found, decide_eq_true queued⟩
      obtain ⟨rfl, rfl⟩ := assign_runs present first
      obtain ⟨event, after, next, appended, ending⟩ :=
        Program.Runs.of_bind rest
      cases ending
      have events := eventful_runs (appendEvent_eventful _ _ _ _) appended
      refine ⟨rfl, ?_, fun key other different => ?_⟩
      · refine Store.Gives.congr (events _ (PendingEntry.key_ne_event _)) ?_
        exact ⟨_, KeyedTable.find?_put_self s.jobs _, rfl, rfl, rfl⟩
      · exact (events key other).trans (Store.row?_apply_other s different)
  | session item =>
      obtain ⟨row, found, requested, rfl⟩ := waiting
      obtain ⟨allocated, middle, between, first, rest⟩ :=
        Program.Runs.of_bind run
      have present : s.sessionWhere (mapPostgresSession row).id
          (fun row => row.status = .requested) = some row :=
        Store.sessionWhere_eq_some.mpr ⟨found, decide_eq_true requested⟩
      obtain ⟨rfl, rfl⟩ := assign_runs present first
      obtain ⟨event, after, next, appended, ending⟩ :=
        Program.Runs.of_bind rest
      cases ending
      have events := eventful_runs (appendEvent_eventful _ _ _ _) appended
      refine ⟨rfl, ?_, fun key other different => ?_⟩
      · refine Store.Gives.congr (events _ (PendingEntry.key_ne_event _)) ?_
        exact ⟨_, KeyedTable.find?_put_self s.sessions _, rfl, rfl, rfl⟩
      · exact (events key other).trans (Store.row?_apply_other s different)

/-- What a pass decides about the entries of the queue. -/
abbrev PassDecision := PendingEntry × Option Placement

/-- The store after the decisions: what they place is given its GPU, nothing
else is touched. -/
structure CarriedOut (before after : Store) (decisions : List PassDecision) :
    Prop where
  given : ∀ entry placement, (entry, some placement) ∈ decisions →
    after.Gives placement entry
  kept : ∀ key, (∀ sequence, key ≠ .event sequence) →
    (∀ entry placement, (entry, some placement) ∈ decisions →
      key ≠ entry.key) →
    after.row? key = before.row? key

/-- The choice for an entry when these GPUs are occupied. -/
def placementFor (settings : SchedulerSettings) (input : PassInput)
    (workers : List Worker) (blocked : List BlockedGpu) (entry : PendingEntry)
    (occupied : List NonEmptyString) : Option Placement :=
  choosePlacement settings.locale entry.demand workers occupied
    (input.options settings blocked)

theorem CarriedOut.skip {before after : Store} {decisions : List PassDecision}
    (carried : CarriedOut before after decisions) (entry : PendingEntry) :
    CarriedOut before after ((entry, none) :: decisions) where
  given other placement member := carried.given other placement (by
    simpa using member)
  kept key nonEvent apart := carried.kept key nonEvent
    (fun other placement member =>
      apart other placement (List.mem_cons_of_mem _ member))

/-- One more placement in front of others. -/
theorem CarriedOut.place {before middle after : Store}
    {decisions : List PassDecision} {entry : PendingEntry} {placement : Placement}
    (given : middle.Gives placement entry)
    (kept : ∀ key, (∀ sequence, key ≠ .event sequence) → key ≠ entry.key →
      middle.row? key = before.row? key)
    (apart : ∀ other choice, (other, choice) ∈ decisions →
      entry.key ≠ other.key)
    (carried : CarriedOut middle after decisions) :
    CarriedOut before after ((entry, some placement) :: decisions) where
  given other choice member := by
    rcases List.mem_cons.mp member with same | later
    · cases same
      exact given.congr (carried.kept _ entry.key_ne_event
        (fun other choice member => apart other _ member))
    · exact carried.given other choice later
  kept key nonEvent untouched := by
    have first := kept key nonEvent
      (untouched entry placement List.mem_cons_self)
    exact (carried.kept key nonEvent (fun other choice member =>
      untouched other choice (List.mem_cons_of_mem _ member))).trans first

/-- The placement loop carries out the plan, by induction on the entries. -/
theorem placePending_runs {text : Collation} {settings : SchedulerSettings}
    {input : PassInput} {workers : List Worker} {blocked : List BlockedGpu}
    {pending : List PendingEntry} {drawn : Nat}
    {occupied : List NonEmptyString} {s final : Store} {sequence last : Nat}
    {jobs : List Job}
    (waiting : ∀ entry ∈ pending, s.Waiting entry)
    (distinct : (pending.map PendingEntry.key).Nodup)
    (run : (placePending (postgres text) settings input workers blocked pending
      drawn occupied).Runs s sequence (.ok jobs) final last) :
    CarriedOut s final (Greedy.plan
      (placementFor settings input workers blocked) Placement.gpuUuid occupied
      pending) := by
  induction pending generalizing drawn occupied s sequence jobs with
  | nil =>
      cases run
      exact ⟨by simp [Greedy.plan], fun _ _ _ => rfl⟩
  | cons entry rest induction =>
      rw [List.map_cons, List.nodup_cons] at distinct
      obtain ⟨here, later⟩ := List.forall_mem_cons.mp waiting
      rw [Greedy.plan]
      unfold placePending at run
      split at run
      · rename_i none
        have chosen : placementFor settings input workers blocked entry
            occupied = Option.none := none
        rw [chosen]
        exact (induction later distinct.2 run).skip entry
      · rename_i placement some
        have chosen : placementFor settings input workers blocked entry
            occupied = Option.some placement := some
        rw [chosen]
        obtain ⟨⟨placed, job⟩, middle, between, assigned, run⟩ :=
          Program.Runs.of_bind run
        obtain ⟨rfl, given, kept⟩ := assignEntry_runs here assigned
        obtain ⟨others, after, next, run, ending⟩ := Program.Runs.of_bind run
        cases ending
        have apart : ∀ other ∈ rest, entry.key ≠ other.key :=
          fun other member same => distinct.1
            (same ▸ List.mem_map_of_mem member)
        refine (induction (fun other member => ?_) distinct.2 run).place given
          kept ?_
        · exact (later other member).congr
            (kept _ other.key_ne_event (apart other member).symm)
        · intro other choice member
          have listed := List.mem_map_of_mem (f := Prod.fst) member
          rw [Greedy.plan_items] at listed
          exact apart other listed

/-! ## What a pass reads -/

/-- The GPUs that active jobs and occupying sessions hold. -/
def Store.occupiedGpus (store : Store) : List NonEmptyString :=
  Scheduler.occupiedGpus
    ((store.jobs.rows.filter JobRow.isActive).map mapPostgresJob)
    ((store.sessions.rows.filter SessionRow.isOccupying).map
      mapPostgresSession)

/-- The GPUs with a fence that is not clear. -/
def Store.blockedGpus (store : Store) : List BlockedGpu :=
  (store.fences.rows.filter (fun row => row.safetyState ≠ .clear)).map
    (fun row => ⟨row.workerId, row.gpuUuid⟩)

theorem Store.mem_occupiedGpus {store : Store} {gpuUuid : NonEmptyString} :
    gpuUuid ∈ store.occupiedGpus ↔
      ∃ key workerId, store.Occupies key workerId (some gpuUuid) := by
  simp only [Store.occupiedGpus, Scheduler.occupiedGpus, List.mem_append,
    List.mem_filterMap, List.mem_map, List.mem_filter, exists_exists_and_eq_and]
  constructor
  · rintro (⟨row, ⟨listed, active⟩, gpu⟩ | ⟨row, ⟨listed, occupying⟩, gpu⟩)
    · exact ⟨.job row.id, row.assignedWorkerId, Store.occupies_job.mpr
        ⟨row, KeyedTable.mem_rows_iff.mp listed, active, rfl, gpu⟩⟩
    · exact ⟨.session row.id, row.assignedWorkerId, Store.occupies_session.mpr
        ⟨row, KeyedTable.mem_rows_iff.mp listed, occupying, rfl, gpu⟩⟩
  · rintro ⟨key, workerId, occupies⟩
    rcases occupies.cases with ⟨id, rfl⟩ | ⟨id, rfl⟩
    · obtain ⟨row, found, active, _, gpu⟩ := Store.occupies_job.mp occupies
      exact Or.inl ⟨row, ⟨KeyedTable.mem_of_find? found, active⟩, gpu⟩
    · obtain ⟨row, found, occupying, _, gpu⟩ :=
        Store.occupies_session.mp occupies
      exact Or.inr ⟨row, ⟨KeyedTable.mem_of_find? found, occupying⟩, gpu⟩

theorem Store.mem_blockedGpus {store : Store} {gpu : BlockedGpu} :
    gpu ∈ store.blockedGpus ↔ ∃ row,
      store.fences.find? (gpu.workerId, gpu.gpuUuid) = some row ∧
        row.safetyState ≠ .clear := by
  simp only [Store.blockedGpus, List.mem_map, List.mem_filter,
    decide_eq_true_eq]
  constructor
  · rintro ⟨row, ⟨listed, blocked⟩, rfl⟩
    exact ⟨row, KeyedTable.mem_rows_iff.mp listed, blocked⟩
  · rintro ⟨row, found, blocked⟩
    have key := KeyedTable.key_of_find? found
    obtain ⟨worker, uuid⟩ := Prod.mk.inj key
    exact ⟨row, ⟨KeyedTable.mem_of_find? found, blocked⟩, by
      rw [worker, uuid]⟩

theorem select_runs {β γ : Type} {read : Store → Scan → β} {answer : β → γ}
    {s final : Store} {sequence last : Nat} {result : γ}
    (run : (query (select read) >>= fun rows => pure (answer rows)).Runs s
      sequence (.ok result) final last) :
    ∃ scan, result = answer (read s scan) ∧ final = s := by
  obtain ⟨rows, middle, between, first, ending⟩ := Program.Runs.of_bind run
  obtain ⟨scan, rfl, rfl, rfl⟩ := runs_select first
  cases ending
  exact ⟨scan, rfl, rfl⟩

theorem updateAll_runs {ρ γ : Type} {wrap : ρ → RowWrite} {call : Option Call}
    {found : Store → Scan → List ρ} {set : ρ → ρ} {answer : List (ρ × ρ) → γ}
    {s final : Store} {sequence last : Nat} {result : γ}
    (run : (query (updateAll wrap call found set) >>=
      fun rows => pure (answer rows)).Runs s sequence (.ok result) final last) :
    ∃ scan, result = answer ((found s scan).map fun row => (row, set row)) ∧
      final = applyAll s
        ((found s scan).map fun row => (⟨wrap (set row), call⟩ : Write)) := by
  obtain ⟨rows, middle, between, first, ending⟩ := Program.Runs.of_bind run
  obtain ⟨scan, effect, accepted, rfl, rfl⟩ := Program.Runs.of_statement first
  cases accepted
  cases ending
  exact ⟨scan, rfl, rfl⟩

theorem listBlocked_runs {text : Collation} {s final : Store}
    {sequence last : Nat} {blocked : List BlockedGpu}
    (run : (postgresListBlockedGpuResources text).Runs s sequence (.ok blocked)
      final last) :
    (∀ gpu, gpu ∈ blocked ↔ gpu ∈ s.blockedGpus) ∧ final = s := by
  obtain ⟨scan, rfl, rfl⟩ := updateAll_runs run
  constructor
  · intro gpu
    simp only [id_eq, List.map_map, List.mem_map, Function.comp_apply,
      mem_orderBy, Store.blockedGpus]
  · exact @applyAll_locks FenceRow .fence _ s (fun row member =>
      KeyedTable.mem_rows_iff.mp
        (List.mem_of_mem_filter (mem_orderBy.mp member)))

theorem listWorkers_runs {text : Collation} {s final : Store}
    {sequence last : Nat} {workers : List Worker}
    (run : (postgresListWorkers text).Runs s sequence (.ok workers) final
      last) :
    workers.Perm (s.workers.rows.map mapPostgresWorker) ∧ final = s := by
  obtain ⟨scan, rfl, rfl⟩ := select_runs run
  refine ⟨((orderBy_perm _ _).trans ?_).map mapPostgresWorker, rfl⟩
  rw [Store.selectWorkers, List.filter_eq_self.mpr (fun _ _ => rfl)]
  exact scan.workersPerm _

theorem listActiveJobs_runs {s final : Store} {sequence last : Nat}
    {jobs : List Job}
    (run : postgresListActiveJobs.Runs s sequence (.ok jobs) final last) :
    (∀ job, job ∈ jobs ↔
      job ∈ (s.jobs.rows.filter JobRow.isActive).map mapPostgresJob) ∧
      final = s := by
  obtain ⟨scan, rfl, rfl⟩ := select_runs run
  refine ⟨fun job => ?_, rfl⟩
  simp only [List.mem_map, Store.mem_selectJobs, List.mem_filter]

theorem listActiveSessions_runs {text : Collation} {s final : Store}
    {sequence last : Nat} {sessions : List Session}
    (run : (postgresListActiveSessions text).Runs s sequence (.ok sessions)
      final last) :
    (∀ session, session ∈ sessions ↔ session ∈
      (s.sessions.rows.filter SessionRow.isOccupying).map
        mapPostgresSession) ∧ final = s := by
  obtain ⟨scan, rfl, rfl⟩ := select_runs run
  refine ⟨fun session => ?_, rfl⟩
  simp only [List.mem_map, mem_orderBy, Store.mem_selectSessions,
    List.mem_filter]

/-- The queued jobs are listed, each of them once. -/
theorem listQueuedJobs_runs {text : Collation} {s final : Store}
    {sequence last : Nat} {jobs : List Job}
    (run : (postgresListQueuedJobs text).Runs s sequence (.ok jobs) final
      last) :
    (jobs.map Job.id).Nodup ∧
      (∀ item, item ∈ jobs ↔ s.Waiting (.job item)) ∧ final = s := by
  obtain ⟨scan, rfl, same⟩ := select_runs run
  refine ⟨?_, fun item => ?_, same⟩
  · rw [List.map_map]
    refine ((orderBy_perm _ _).map JobRow.id).nodup_iff.mpr ?_
    exact (List.filter_sublist.map JobRow.id).nodup
      (((scan.jobsPerm _).map JobRow.id).nodup_iff.mpr s.jobs.distinct)
  · simp only [List.mem_map, mem_orderBy, Store.mem_selectJobs,
      decide_eq_true_eq]
    constructor
    · rintro ⟨row, ⟨listed, queued⟩, rfl⟩
      exact ⟨row, KeyedTable.mem_rows_iff.mp listed, queued, rfl⟩
    · rintro ⟨row, found, queued, same⟩
      exact ⟨row, ⟨KeyedTable.mem_of_find? found, queued⟩, same⟩

/-- The requested sessions are listed, each of them once. -/
theorem listRequestedSessions_runs {text : Collation} {s final : Store}
    {sequence last : Nat} {sessions : List Session}
    (run : (postgresListRequestedSessions text).Runs s sequence (.ok sessions)
      final last) :
    (sessions.map Session.id).Nodup ∧
      (∀ item, item ∈ sessions ↔ s.Waiting (.session item)) ∧
      final = s := by
  obtain ⟨scan, rfl, same⟩ := select_runs run
  refine ⟨?_, fun item => ?_, same⟩
  · rw [List.map_map]
    refine ((orderBy_perm _ _).map SessionRow.id).nodup_iff.mpr ?_
    exact (List.filter_sublist.map SessionRow.id).nodup
      (((scan.sessionsPerm _).map SessionRow.id).nodup_iff.mpr
        s.sessions.distinct)
  · simp only [List.mem_map, mem_orderBy, Store.mem_selectSessions,
      decide_eq_true_eq]
    constructor
    · rintro ⟨row, ⟨listed, requested⟩, rfl⟩
      exact ⟨row, KeyedTable.mem_rows_iff.mp listed, requested, rfl⟩
    · rintro ⟨row, found, requested, same⟩
      exact ⟨row, ⟨KeyedTable.mem_of_find? found, requested⟩, same⟩

/-- The entries in the order in which they are placed. -/
structure PendingQueue (locale : Locale) (store : Store)
    (entries : List PendingEntry) : Prop where
  distinct : (entries.map PendingEntry.key).Nodup
  waiting : ∀ entry, entry ∈ entries ↔ store.Waiting entry
  ordered : entries.Pairwise (PendingEntry.Precedes locale)

theorem queue_of_lists {locale : Locale} {store : Store} {jobs : List Job}
    {sessions : List Session} (jobsOnce : (jobs.map Job.id).Nodup)
    (sessionsOnce : (sessions.map Session.id).Nodup)
    (queued : ∀ item, item ∈ jobs ↔ store.Waiting (.job item))
    (requested : ∀ item, item ∈ sessions ↔ store.Waiting (.session item)) :
    PendingQueue locale store (sortBy (comparePendingWork locale)
      (jobs.map .job ++ sessions.map .session)) where
  distinct := by
    refine ((orderBy_perm _ _).map PendingEntry.key).nodup_iff.mpr ?_
    rw [List.map_append, List.map_map, List.map_map]
    refine List.nodup_append.mpr ⟨?_, ?_, ?_⟩
    · have keys := jobsOnce.map (f := RowKey.job) (fun _ _ => RowKey.job.inj)
      rwa [List.map_map] at keys
    · have keys := sessionsOnce.map (f := RowKey.session)
        (fun _ _ => RowKey.session.inj)
      rwa [List.map_map] at keys
    · intro first firstListed second secondListed
      obtain ⟨job, _, rfl⟩ := List.mem_map.mp firstListed
      obtain ⟨session, _, rfl⟩ := List.mem_map.mp secondListed
      exact nofun
  waiting entry := by
    refine mem_orderBy.trans ?_
    cases entry with
    | job item => simp [queued]
    | session item => simp [requested]
  ordered := (pairwise_sortBy _).imp comparePendingWork_ne_gt.mp

/-- A pass reads one queue and carries its plan out. -/
theorem place_runs {text : Collation} {settings : SchedulerSettings}
    {input : PassInput} {s final : Store} {sequence last : Nat}
    {jobs : List Job}
    (run : (place (postgres text) settings input).Runs s sequence (.ok jobs)
      final last) :
    ∃ workers blocked occupied entries,
      workers.Perm (s.workers.rows.map mapPostgresWorker) ∧
      (∀ gpu, gpu ∈ blocked ↔ gpu ∈ s.blockedGpus) ∧
      (∀ gpuUuid, gpuUuid ∈ occupied ↔ gpuUuid ∈ s.occupiedGpus) ∧
      PendingQueue settings.locale s entries ∧
      CarriedOut s final (Greedy.plan
        (placementFor settings input workers blocked) Placement.gpuUuid
        occupied entries) := by
  obtain ⟨blocked, _, _, blockedRun, afterBlocked⟩ := Program.Runs.of_bind run
  obtain ⟨fenced, rfl⟩ := listBlocked_runs blockedRun
  obtain ⟨workers, _, _, workersRun, afterWorkers⟩ :=
    Program.Runs.of_bind afterBlocked
  obtain ⟨listed, rfl⟩ := listWorkers_runs workersRun
  obtain ⟨activeJobs, _, _, jobsRun, afterJobs⟩ :=
    Program.Runs.of_bind afterWorkers
  obtain ⟨active, rfl⟩ := listActiveJobs_runs jobsRun
  obtain ⟨sessions, _, _, sessionsRun, afterSessions⟩ :=
    Program.Runs.of_bind afterJobs
  obtain ⟨occupying, rfl⟩ := listActiveSessions_runs sessionsRun
  obtain ⟨queuedJobs, _, _, queuedRun, afterQueued⟩ :=
    Program.Runs.of_bind afterSessions
  obtain ⟨jobsOnce, queued, rfl⟩ := listQueuedJobs_runs queuedRun
  obtain ⟨requestedSessions, _, _, requestedRun, placed⟩ :=
    Program.Runs.of_bind afterQueued
  obtain ⟨sessionsOnce, requested, rfl⟩ :=
    listRequestedSessions_runs requestedRun
  have queue := @queue_of_lists settings.locale _ _ _ jobsOnce sessionsOnce
    queued requested
  refine ⟨workers, blocked, _, _, listed, fenced, fun gpuUuid => ?_, queue,
    placePending_runs (fun entry => (queue.waiting entry).mp) queue.distinct
      placed⟩
  simp only [Store.occupiedGpus, Scheduler.occupiedGpus, List.mem_append,
    List.mem_filterMap, active, occupying]

end GpuLink
