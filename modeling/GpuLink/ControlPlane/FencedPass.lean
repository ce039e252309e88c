import GpuLink.ControlPlane.Allocation

/-!
# Fenced GPUs are not placed on

A pass lists the fenced GPUs after it has taken the lock and before it places
anything, and no fence can appear until it ends.
-/

namespace GpuLink

open Transactional Sql Postgres Scheduler

/-! ## The stages of a pass -/

/-- Fences are kept and no lease is given out. -/
def Ungranted (key : RowKey) (before after : Kept key.Row) : Prop :=
  FencesKept key before after ∧ after.leases = before.leases

/-- The workload is put on a GPU that is not blocked. -/
def PutOutside (blocked : List BlockedGpu) (key : RowKey)
    (after : Kept key.Row) : Prop :=
  ∃ workerId gpuUuid, occupancyOf key after.row =
      some (some workerId, some gpuUuid) ∧
    (⟨workerId, gpuUuid⟩ : BlockedGpu) ∉ blocked

/-- A workload with a new lease has been put on a GPU that is not blocked. -/
def Granted (blocked : List BlockedGpu) (key : RowKey)
    (before after : Kept key.Row) : Prop :=
  FencesKept key before after ∧
    (after.leases = before.leases ∨ PutOutside blocked key after)

/-- A statement leaves a workload where it is, or puts it on a GPU that is not
blocked. -/
def Grants (blocked : List BlockedGpu) (key : RowKey)
    (before after : Kept key.Row) : Prop :=
  FencesKept key before after ∧
    ((after.leases = before.leases ∧
        occupancyOf key after.row = occupancyOf key before.row) ∨
      PutOutside blocked key after)

theorem ungranted_refl (key : RowKey) (kept : Kept key.Row) :
    Ungranted key kept kept :=
  ⟨fencesKept_refl key kept, rfl⟩

theorem ungranted_trans (key : RowKey) {a b c : Kept key.Row}
    (first : Ungranted key a b) (second : Ungranted key b c) :
    Ungranted key a c :=
  ⟨fencesKept_trans key first.1 second.1, second.2.trans first.2⟩

theorem granted_refl (blocked : List BlockedGpu) (key : RowKey)
    (kept : Kept key.Row) : Granted blocked key kept kept :=
  ⟨fencesKept_refl key kept, Or.inl rfl⟩

theorem granted_extend (blocked : List BlockedGpu) (key : RowKey)
    {a b c : Kept key.Row} (first : Granted blocked key a b)
    (second : Grants blocked key b c) : Granted blocked key a c := by
  refine ⟨fencesKept_trans key first.1 second.1, ?_⟩
  rcases second.2 with ⟨leases, stays⟩ | put
  · rcases first.2 with same | ⟨workerId, gpuUuid, occupies, outside⟩
    · exact Or.inl (leases.trans same)
    · exact Or.inr ⟨workerId, gpuUuid, stays.trans occupies, outside⟩
  · exact Or.inr put

theorem ungranted_of_moved {before after : Store}
    (moved : Moved Call.isRecovery before after) :
    Rowwise Ungranted before after := by
  intro key
  refine ⟨fencesKept_of_move id (moved key), leases_of_move ?_ (moved key)⟩
  intro call recovery
  cases call <;> first | rfl | cases recovery

theorem grants_of_moved {blocked : List BlockedGpu} {before after : Store}
    (moved : Moved Call.isEvent before after) :
    Rowwise (Grants blocked) before after := by
  intro key
  refine ⟨fencesKept_of_move id (moved key), Or.inl ⟨leases_of_move ?_
    (moved key), ?_⟩⟩
  · intro call event
    cases call <;> first | rfl | cases event
  rcases moved key with same | ⟨call, event, move, _⟩
  · rw [same]
  · generalize (RowStore.get before key).row = old at move ⊢
    generalize (RowStore.get after key).row = new at move ⊢
    cases key with
    | job id =>
        cases (move : JobMove call old new) <;> cases event
    | session id =>
        cases (move : SessionMove call old new) <;> cases event
    | _ => rfl

section Pass

variable {text : Collation} {settings : SchedulerSettings} {input : PassInput}
  {blocked : List BlockedGpu}

theorem grants_write {store : Store} {write : Write}
    (put : ∀ calls, PutOutside blocked write.key ⟨write.left, calls⟩)
    (unfenced : FencesKept write.key (store.get write.key)
      ⟨write.left, (store.get write.key).calls ++ write.call.toList⟩) :
    Rowwise (Grants blocked) store (applyAll store [write]) := by
  apply rowwise_applyAll
  · exact fun key kept => ⟨fencesKept_refl key kept, Or.inl ⟨rfl, rfl⟩⟩
  · exact List.nodup_singleton _
  · intro other member
    cases List.mem_singleton.mp member
    exact ⟨unfenced, Or.inr (put _)⟩

theorem assignJob_grants {placement : Placement}
    (outside : (⟨placement.workerId, placement.gpuUuid⟩ : BlockedGpu) ∉ blocked)
    (jobId leaseId : String) (leaseExpiresAt now : Int) :
    (postgresAssignJob jobId placement leaseId leaseExpiresAt now).Steady
      (Rowwise (Grants blocked)) := by
  refine Program.Steady.bind (steady_referencing (steady_query ?_))
    (fun _ => trivial)
  intro input answer effect accepted
  unfold update at accepted
  split at accepted
  · cases accepted
    exact grants_of_moved (Moved.refl _)
  · cases accepted
    apply grants_write
    · intro calls
      exact ⟨placement.workerId, placement.gpuUuid,
        occupancyOf_job (by simp [JobRow.isActive]), outside⟩
    · trivial

theorem assignSession_grants {placement : Placement}
    (outside : (⟨placement.workerId, placement.gpuUuid⟩ : BlockedGpu) ∉ blocked)
    (sessionId leaseId : String) (leaseExpiresAt now : Int) :
    (postgresAssignSession sessionId placement leaseId leaseExpiresAt
      now).Steady (Rowwise (Grants blocked)) := by
  refine Program.Steady.bind (steady_referencing (steady_query ?_))
    (fun _ => trivial)
  intro input answer effect accepted
  unfold update at accepted
  split at accepted
  · cases accepted
    exact grants_of_moved (Moved.refl _)
  · cases accepted
    apply grants_write
    · intro calls
      exact ⟨placement.workerId, placement.gpuUuid,
        occupancyOf_session (by simp [SessionRow.isOccupying]), outside⟩
    · trivial

theorem appendEvent_grants (type : String) (subjectId : Option String)
    (payload : Json) (now : Int) :
    (postgresAppendEvent type subjectId payload now).Steady
      (Rowwise (Grants blocked)) :=
  (@appendEvent_steady Call.isEvent trivial trivial type subjectId payload
    now).mono grants_of_moved

theorem assignEntry_grants {placement : Placement}
    (outside : (⟨placement.workerId, placement.gpuUuid⟩ : BlockedGpu) ∉ blocked)
    (leaseId : String) (now : Int) (entry : PendingEntry) :
    (assignEntry (postgres text) settings now leaseId placement entry).Steady
      (Rowwise (Grants blocked)) := by
  cases entry with
  | job item =>
      refine Program.Steady.bind (assignJob_grants outside _ _ _ _) ?_
      intro leasedJob
      cases leasedJob with
      | none => trivial
      | some leasedJob =>
          exact Program.Steady.bind (appendEvent_grants _ _ _ _)
            (fun _ => trivial)
  | session item =>
      refine Program.Steady.bind (assignSession_grants outside _ _ _ _) ?_
      intro allocated
      cases allocated with
      | none => trivial
      | some allocated =>
          exact Program.Steady.bind (appendEvent_grants _ _ _ _)
            (fun _ => trivial)

/-- The loop never places on a blocked GPU. -/
theorem placePending_grants (workers : List Worker)
    (pending : List PendingEntry) (drawn : Nat)
    (occupied : List NonEmptyString) :
    (placePending (postgres text) settings input workers blocked pending drawn
      occupied).Steady (Rowwise (Grants blocked)) := by
  induction pending generalizing drawn occupied with
  | nil => trivial
  | cons entry rest induction =>
      simp only [Scheduler.placePending]
      split
      · exact induction _ _
      · rename_i placement chosen
        obtain ⟨_, _, _, _, _, outside⟩ := choosePlacement_sound chosen
        refine Program.Steady.bind (assignEntry_grants outside _ _ entry) ?_
        rintro ⟨placed, job⟩
        cases placed with
        | true => exact Program.Steady.bind (induction _ _) (fun _ => trivial)
        | false => exact induction _ _

/-! ## The pass -/

/-- Every GPU that is fenced off is in the list. -/
def Store.BlockedBy (store : Store) (blocked : List BlockedGpu) : Prop :=
  ∀ workerId gpuUuid fence,
    store.fences.find? (workerId, gpuUuid) = some fence →
    fence.safetyState ≠ .clear → ⟨workerId, gpuUuid⟩ ∈ blocked

/-- Whatever has a new lease afterwards stands on a GPU that is not fenced
off. -/
def SparesFenced (before after : Store) : Prop :=
  ∀ key, (after.get key).leases ≠ (before.get key).leases →
    ∃ workerId gpuUuid, after.Occupies key (some workerId) (some gpuUuid) ∧
      after.FenceClear workerId gpuUuid

/-- What the statements of a pass up to the list of blocked GPUs lead to. -/
theorem secures_recovery {α β : Type} {first : Tx α} {next : α → Tx β}
    {post : β → Bool → Store → List Write → Prop} {s : Store}
    {log : List Write} (steady : first.Steady (Moved Call.isRecovery))
    (related : Rowwise Ungranted s (applyAll s log))
    (later : ∀ answer s log, Rowwise Ungranted s (applyAll s log) →
      (next answer).secures allocation true post s log) :
    (first.bind next).secures allocation true post s log := by
  apply Program.secures_bind
  have kept : first.secures allocation true
      (fun _ _ s log => Rowwise Ungranted s (applyAll s log)) s log :=
    Program.Steady.secures ungranted_refl ungranted_trans
      (steady.mono ungranted_of_moved) related
  refine Program.secures_mono ?_
    (Program.secures_and kept first.secures_held)
  rintro answer held s log ⟨before, rfl⟩
  exact later answer s log before

theorem sparesFenced_of_granted {s after : Store}
    (granted : Rowwise (Granted blocked) s after)
    (covered : s.BlockedBy blocked) : SparesFenced s after := by
  intro key given
  rcases (granted key).2 with same | ⟨workerId, gpuUuid, occupies, outside⟩
  · exact (given same).elim
  · refine ⟨workerId, gpuUuid, occupies, ?_⟩
    intro fence found
    rw [Store.fence_of_kept (fun key => (granted key).1)] at found
    by_contra held
    exact outside (covered workerId gpuUuid fence found held)

theorem blockedBy_stable {s s' : Store}
    (moved : allocation.env true s s') (covered : s.BlockedBy blocked) :
    s'.BlockedBy blocked := by
  intro workerId gpuUuid fence found
  rw [Store.fence_of_kept (fun key => (moved rfl key).2.2)] at found
  exact covered workerId gpuUuid fence found

/-- What follows the list of blocked GPUs. -/
theorem placing_secures {α : Type} {rest : Tx α} {s : Store}
    {log : List Write} (steady : rest.Steady (Rowwise (Grants blocked)))
    (related : Rowwise Ungranted s (applyAll s log))
    (covered : s.BlockedBy blocked) :
    rest.secures allocation true
      (fun _ _ s log => Rowwise FencesKept s (applyAll s log) ∧
        SparesFenced s (applyAll s log)) s log := by
  have begun : Rowwise (Granted blocked) s (applyAll s log) :=
    fun key => ⟨(related key).1, Or.inl (related key).2⟩
  have granted : rest.secures allocation true (fun _ _ s log =>
      Rowwise (Granted blocked) s (applyAll s log)) s log :=
    Program.Steady.secures (granted_refl blocked) (granted_extend blocked)
      steady begun
  have stays : rest.secures allocation true
      (fun _ _ s _ => s.BlockedBy blocked) s log :=
    rest.secures_env blockedBy_stable covered
  refine Program.secures_mono ?_ (Program.secures_and granted stays)
  rintro answer held s log ⟨outside, blocks⟩
  exact ⟨fun key => (outside key).1, sparesFenced_of_granted outside blocks⟩

theorem read_grants {α β : Type} {answer : Store → Scan → α} {next : α → β} :
    (Program.bind (query (select answer))
      (fun rows => .done (.ok (next rows)))).Steady
        (Rowwise (Grants blocked)) :=
  Program.Steady.bind (moved_select.mono grants_of_moved) (fun _ => trivial)

theorem listBlocked_secures {s : Store} {log : List Write}
    (related : Rowwise Ungranted s (applyAll s log)) :
    (postgresListBlockedGpuResources text).secures allocation true
      (fun blocked held s log => held = true ∧
        Rowwise Ungranted s (applyAll s log) ∧ s.BlockedBy blocked) s log := by
  intro s₁ shift statement view answer effect accepted
  cases accepted
  intro s₂ further
  have before := related.shifted ungranted_refl shift.locks
  refine ⟨rfl, Rowwise.shifted ungranted_refl ?_ further.locks,
    blockedBy_stable further.env ?_⟩
  · -- the fences are locked and not changed
    rw [applyAll_append, ← view]
    simp only [id_eq]
    rw [applyAll_locks]
    · rw [view]
      exact before
    · intro row member
      have listed : row ∈ statement.view.fences.rows :=
        List.mem_of_mem_filter (mem_orderBy.mp member)
      exact KeyedTable.mem_rows_iff.mp listed
  · intro workerId gpuUuid fence found held
    rw [← view] at before
    have seen := (Store.fence_of_kept (fun key => (before key).1) workerId
      gpuUuid).trans found
    have atKey : (fence.workerId, fence.gpuUuid) = (workerId, gpuUuid) :=
      @KeyedTable.key_of_find? _ _ _ _ statement.view.fences _ _ seen
    obtain ⟨rfl, rfl⟩ := Prod.mk.inj atKey
    rw [List.map_map]
    exact List.mem_map_of_mem (mem_orderBy.mpr (List.mem_filter.mpr
      ⟨@KeyedTable.mem_of_find? _ _ _ _ statement.view.fences _ _ seen,
        by simpa using held⟩))

theorem place_secures {s : Store} {log : List Write}
    (related : Rowwise Ungranted s (applyAll s log)) :
    (place (postgres text) settings input).secures allocation true
      (fun _ _ s log => Rowwise FencesKept s (applyAll s log) ∧
        SparesFenced s (applyAll s log)) s log := by
  apply Program.secures_bind
  refine Program.secures_mono ?_ (listBlocked_secures related)
  rintro blocked held s log ⟨rfl, before, covered⟩
  refine placing_secures ?_ before covered
  refine Program.Steady.bind read_grants (fun workers => ?_)
  refine Program.Steady.bind read_grants (fun activeJobs => ?_)
  refine Program.Steady.bind read_grants (fun occupyingSessions => ?_)
  refine Program.Steady.bind read_grants (fun queuedJobs => ?_)
  refine Program.Steady.bind read_grants (fun requestedSessions => ?_)
  exact placePending_grants workers _ 0 _

theorem lockedPass_secures {s : Store} :
    (lockedPass (postgres text) settings input).secures allocation true
      (fun _ _ s log => Rowwise FencesKept s (applyAll s log) ∧
        SparesFenced s (applyAll s log)) s [] := by
  have begun : Rowwise Ungranted s (applyAll s ([] : List Write)) :=
    fun key => ungranted_refl key _
  have appended : ∀ type subjectId payload now,
      (postgresAppendEvent type subjectId payload now).Steady
        (Moved Call.isRecovery) :=
    fun type subjectId payload now =>
      appendEvent_steady trivial trivial type subjectId payload now
  refine secures_recovery (markStaleWorkersOffline_steady trivial _ _) begun
    (fun staleWorkerIds s log related => ?_)
  refine secures_recovery (@reportStale_related (.steady _) (postgres text)
    (postgres text) appended _ _) related (fun _ s log related => ?_)
  refine secures_recovery (recoverExpiredJobs_steady trivial _ _) related
    (fun recoveries s log related => ?_)
  refine secures_recovery (@reportJobs_related (.steady _) (postgres text)
    (postgres text) appended _ _) related (fun _ s log related => ?_)
  refine secures_recovery (recoverInterruptedSessions_steady trivial _ _)
    related (fun sessionRecoveries s log related => ?_)
  refine secures_recovery (@reportSessions_related (.steady _) (postgres text)
    (postgres text) appended _ _) related (fun _ s log related => ?_)
  exact Program.secures_map (place_secures related)

end Pass

/-! ## Every transaction -/

/-- The claims that a transaction may reserve; a broker's names the GPU that
the store has for the lease. -/
def Service.Transaction.Reserves :
    Service.Transaction → ExecutionClaim → Prop
  | .request (.reserveAttempt claim), reserved => reserved = claim
  | .request (.reserveBrokerAttempt principal input now maxHeartbeatAgeMs),
      reserved => ∃ gpuUuid, reserved =
        input.claim principal input.subjectId gpuUuid now maxHeartbeatAgeMs
  | _, _ => False

/-- The transaction is a reservation. -/
def Service.Transaction.isReservation : Service.Transaction → Bool
  | .request (.reserveAttempt _) => true
  | .request (.reserveBrokerAttempt _ _ _ _) => true
  | _ => false

/-- What a transaction has established when it commits. -/
structure Allocated (text : Collation) (code : Tx Unit) (held : Bool)
    (before after : Store) : Prop where
  free : held = false → Rowwise Unplaced before after
  spared : SparesFenced before after
  guarded : before.Guarded → after.Guarded
  reserved : ∀ settings (work : Service.Transaction), work.isReservation →
    code = work.code (postgres text) settings →
    ∃ claim, work.Reserves claim ∧ ReservedFor claim before after

theorem sparesFenced_of_ungranted {before after : Store}
    (kept : Rowwise Ungranted before after) : SparesFenced before after :=
  fun key given => (given (kept key).2).elim

theorem unreserved_code {text : Collation} {leaseDurationMs : Int}
    {request : Service.Request}
    (plain : (Service.Transaction.request request).isReservation = false) :
    request.code (postgres text) leaseDurationMs =
      request.code (postgres text).withoutReservations leaseDurationMs := by
  cases request <;> first | rfl | cases plain

/-- A request that reserves nothing places nothing either. -/
theorem request_unplaced (text : Collation) (leaseDurationMs : Int)
    {request : Service.Request}
    (plain : (Service.Transaction.request request).isReservation = false) :
    (request.code (postgres text) leaseDurationMs).Steady
      (Rowwise Unplaced) := by
  rw [unreserved_code plain]
  refine Program.Steady.mono unplaced_of_moved
    ((postgres_serves_unreserved text ?_).request leaseDurationMs request)
  intro call requested other
  refine ⟨?_, other⟩
  cases call <;> first | rfl | cases requested

theorem lookupSubject_secures (text : Collation) (input : BrokerRequest)
    (s : Store) :
    (lookupSubject (postgres text) input).secures allocation false
      (fun stored held _ log => held = false ∧ log = [] ∧
        ∀ row, stored = some row → row.id = input.subjectId) s [] := by
  unfold lookupSubject
  cases input.subjectKind with
  | job =>
      intro s₁ _ statement _ answer effect accepted
      cases accepted
      intro s₂ _
      refine ⟨rfl, rfl, ?_⟩
      intro row here
      obtain ⟨job, found, rfl⟩ := Option.map_eq_some_iff.mp here
      obtain ⟨jobRow, stored, rfl⟩ := Option.map_eq_some_iff.mp found
      have atId : jobRow.id = input.subjectId := KeyedTable.key_of_find? stored
      exact atId
  | session =>
      intro s₁ _ statement _ answer effect accepted
      cases accepted
      intro s₂ _
      refine ⟨rfl, rfl, ?_⟩
      intro row here
      obtain ⟨session, found, rfl⟩ := Option.map_eq_some_iff.mp here
      obtain ⟨sessionRow, stored, rfl⟩ := Option.map_eq_some_iff.mp found
      have atId : sessionRow.id = input.subjectId :=
        KeyedTable.key_of_find? stored
      exact atId

theorem validateExecutionClaim_ok {claim valid : ExecutionClaim}
    (validated : validateExecutionClaim claim = .ok valid) : valid = claim := by
  unfold validateExecutionClaim at validated
  split at validated
  · cases validated
    rfl
  · cases validated

/-- A broker's reservation is the reservation of its claim. -/
theorem reserveBroker_secures (principal : BrokerProfile)
    (input : BrokerRequest) (now maxHeartbeatAgeMs : Int) (text : Collation)
    (s : Store) :
    (reserveBrokerBoundAttempt (postgres text) principal input now
      maxHeartbeatAgeMs).secures allocation false
      (fun result held s log => held = true ∧ ∃ gpuUuid,
        ReservedFor (input.claim principal input.subjectId gpuUuid now
          maxHeartbeatAgeMs) s (applyAll s log) ∧
        result = ⟨input.attemptId, s.nextEpoch principal.workerId gpuUuid,
          false⟩) s [] := by
  apply Program.secures_bind
  refine Program.secures_mono ?_ (lookupSubject_secures text input s)
  rintro stored held s log ⟨rfl, rfl, atId⟩
  cases stored with
  | none => trivial
  | some stored =>
      have atId := atId stored rfl
      dsimp only
      split
      · cases stored.assignedGpuUuid with
        | none => trivial
        | some gpuUuid =>
            dsimp only
            split
            · trivial
            · rename_i claim validated
              have same := validateExecutionClaim_ok validated
              rw [atId] at same
              subst same
              have checked : ∀ result : ReservedAttempt,
                  (if result.canLaunch || result.attemptId ≠ input.attemptId ||
                      result.fenceEpoch < 1 ||
                      maxSafeInteger < result.fenceEpoch then
                    throw (.broker ⟨"broker_authority_unavailable", 503⟩)
                  else pure result : Tx ReservedAttempt) =
                  .done (if result.canLaunch ||
                      result.attemptId ≠ input.attemptId ||
                      result.fenceEpoch < 1 ||
                      maxSafeInteger < result.fenceEpoch then
                    .error (.broker ⟨"broker_authority_unavailable", 503⟩)
                  else .ok result) := by
                intro result
                split <;> rfl
              simp only [Program.bind_eq, checked]
              refine Program.secures_check (Program.secures_mono ?_
                (reserveExecutionAttempt_secures _ s))
              rintro result held s log ⟨holds, reserved, answer⟩ value valid
              split at valid
              · cases valid
              · cases valid
                exact ⟨holds, gpuUuid, reserved, answer⟩
      · trivial

/-! ## Soundness -/

theorem leases_apply {store : Store} {write : Write}
    (gives : write.call.toList.filterMap Call.leaseId = []) (key : RowKey) :
    ((store.apply write).get key).leases = (store.get key).leases := by
  by_cases here : key = write.key
  · subst here
    simp [Kept.leases, Store.get, Store.calls_apply_self, gives]
  · simp [Kept.leases, Store.get, Store.calls_apply_other _ here]

theorem ReservedFor.spares {claim : ExecutionClaim} {before after : Store}
    (reserved : ReservedFor claim before after) : SparesFenced before after := by
  intro key given
  obtain ⟨workload, _, _, rfl⟩ := reserved.owner
  unfold Store.reserve at given
  rw [leases_apply rfl, leases_apply rfl] at given
  exact (given rfl).elim

theorem allocated_of_reserved {text : Collation} {code : Tx Unit}
    {s after : Store}
    (reserved : ∀ settings (work : Service.Transaction), work.isReservation →
      code = work.code (postgres text) settings →
      ∃ claim, work.Reserves claim ∧ ReservedFor claim s after)
    {settings : SchedulerSettings} {work : Service.Transaction}
    (reserves : work.isReservation)
    (begins : code = work.code (postgres text) settings) :
    Allocated text code true s after := by
  obtain ⟨claim, _, done⟩ := reserved settings work reserves begins
  exact ⟨nofun, done.spares, done.guarded, reserved⟩

/-- The reservations of a code that is one. -/
theorem reservation_secures {text : Collation} {settings : SchedulerSettings}
    {work : Service.Transaction} (reserves : work.isReservation) (s : Store) :
    (work.code (postgres text) settings).secures allocation false
      (fun _ held s log => held = true ∧
        ∃ claim, work.Reserves claim ∧ ReservedFor claim s (applyAll s log))
      s [] := by
  cases work with
  | pass input => cases reserves
  | request request =>
      cases request with
      | reserveAttempt claim =>
          refine Program.secures_map (Program.secures_mono ?_
            (reserveExecutionAttempt_secures claim s))
          rintro result held s log ⟨holds, reserved, _⟩
          exact ⟨holds, claim, rfl, reserved⟩
      | reserveBrokerAttempt principal input now maxHeartbeatAgeMs =>
          refine Program.secures_map (Program.secures_mono ?_
            (reserveBroker_secures principal input now maxHeartbeatAgeMs text
              s))
          rintro result held s log ⟨holds, gpuUuid, reserved, _⟩
          exact ⟨holds, _, ⟨gpuUuid, rfl⟩, reserved⟩
      | _ => cases reserves

/-- A code that reserves secures every reservation that it is. -/
theorem reserving_secures {text : Collation} {code : Tx Unit}
    (reserves : ∃ (settings : SchedulerSettings) (work : Service.Transaction),
      work.isReservation ∧ code = work.code (postgres text) settings)
    (s : Store) :
    code.secures allocation false (fun _ held s log =>
      Allocated text code held s (applyAll s log)) s [] := by
  have each : ∀ reservation : { pair : SchedulerSettings × Service.Transaction //
      pair.2.isReservation ∧
        code = pair.2.code (postgres text) pair.1 },
      code.secures allocation false (fun _ held s log => held = true ∧
        ∃ claim, reservation.1.2.Reserves claim ∧
          ReservedFor claim s (applyAll s log)) s [] := by
    rintro ⟨⟨settings, work⟩, isReservation, begins⟩
    have same : code = work.code (postgres text) settings := begins
    have secured := @reservation_secures text settings work isReservation s
    rw [← same] at secured
    exact secured
  obtain ⟨settings, work, isReservation, begins⟩ := reserves
  refine Program.secures_mono ?_ (Program.secures_forall each)
  intro _ held s log all
  obtain ⟨rfl, _⟩ := all ⟨(settings, work), isReservation, begins⟩
  refine allocated_of_reserved ?_ isReservation begins
  intro otherSettings other otherReserves otherBegins
  exact (all ⟨(otherSettings, other), otherReserves, otherBegins⟩).2

theorem begins_secures {text : Collation} {code : Tx Unit}
    (begins : Service.Begins (postgres text) code) (s : Store) :
    code.secures allocation false (fun _ held s log =>
      Allocated text code held s (applyAll s log)) s [] := by
  by_cases reserves : ∃ (settings : SchedulerSettings)
      (work : Service.Transaction),
      work.isReservation ∧ code = work.code (postgres text) settings
  · exact reserving_secures reserves s
  have unreserved : ∀ before after settings (work : Service.Transaction),
      work.isReservation → code = work.code (postgres text) settings →
      ∃ claim, work.Reserves claim ∧ ReservedFor claim before after :=
    fun _ _ settings work isReservation same =>
      (reserves ⟨settings, work, isReservation, same⟩).elim
  have idle : ∀ held before after, Rowwise Unplaced before after →
      Allocated text code held before after := by
    intro held before after unplaced
    exact ⟨fun _ => unplaced,
      sparesFenced_of_ungranted (fun key =>
        ⟨(unplaced key).2.2, (unplaced key).2.1⟩),
      Store.Guarded.kept (fun key => (unplaced key).2.2),
      unreserved before after⟩
  have begun := begins
  obtain ⟨settings, work, same⟩ := begun
  cases work with
  | request request =>
      have plain : (Service.Transaction.request request).isReservation =
          false := by
        cases isReservation :
          (Service.Transaction.request request).isReservation with
        | false => rfl
        | true => exact (reserves ⟨settings, _, isReservation, same⟩).elim
      have steady : code.Steady (Rowwise Unplaced) := by
        rw [same]
        exact request_unplaced text settings.leaseDurationMs plain
      have related : Rowwise Unplaced s (applyAll s ([] : List Write)) :=
        fun key => unplaced_refl key _
      exact Program.secures_mono
        (fun _ held s log unplaced => idle held s _ unplaced)
        (Program.Steady.secures unplaced_refl unplaced_trans steady related)
  | pass input =>
      have passes : ((Service.Transaction.pass input).code (postgres text)
          settings).secures allocation false (fun _ held s log =>
            Allocated text code held s (applyAll s log)) s [] := by
        apply Program.secures_map
        intro s₁ _
        refine ⟨?_, fun _ s₂ _ => idle false s₂ s₂
          (fun key => unplaced_refl key _)⟩
        refine Program.secures_mono ?_ (Program.secures_and
          (@lockedPass_secures text settings input s₁) (Program.secures_held _))
        rintro result held s log ⟨⟨kept, spared⟩, rfl⟩
        exact ⟨nofun, spared, Store.Guarded.kept kept, unreserved s _⟩
      rw [← same] at passes
      exact passes

/-- The regime is sound for the transactions of the control plane. -/
theorem allocation_sound (text : Collation) :
    allocation.Sound (Service.Begins (postgres text))
      (fun code held s log => Allocated text code held s (applyAll s log)) where
  start _ begins s _ := begins_secures begins s
  keeps _ _ _ _ _ guarded allocated := allocated.guarded guarded
  moves _ _ _ _ _ _ allocated := ⟨nofun, fun free _ => allocated.free free⟩

theorem serialRun_guarded {state : Database.State}
    (run : SerialRun (Store.empty, 0) state) : state.1.Guarded := by
  induction run with
  | refl => exact Store.guarded_empty
  | tail _ step induction =>
      obtain ⟨settings, work, transaction⟩ := serialStep_postgres step
      exact ((allocation_sound Collation.binary).runs
        ⟨settings, work, rfl⟩ induction transaction).1

/-- What every commit of every run has established. -/
theorem CommitOf.allocated {text : Collation} {work : Service.Transaction}
    {earlier before after : Store}
    (commit : CommitOf text work earlier before after) :
    ∃ (collation : Collation) (settings : SchedulerSettings) (held : Bool),
      Allocated collation (work.code (postgres collation) settings) held
        before after ∧ before.Guarded := by
  cases commit with
  | @serial earlier before after settings first second run =>
      have guarded := serialRun_guarded (first.trans second)
      have refined := sqlite_refines_postgres settings work _ _ _ _ _ run
      obtain ⟨_, held, log, reached, allocated⟩ :=
        (allocation_sound Collation.binary).runs ⟨settings, work, rfl⟩ guarded
          refined
      rw [← reached] at allocated
      exact ⟨Collation.binary, settings, held, allocated, guarded⟩
  | @replicated earlier before after settings held log first second commits =>
      have secured := Traced.secured (allocation_sound text)
        (first.trans second) (Traced.secured_initial Store.guarded_empty)
      have allocated := (secured.commit commits).2
      obtain ⟨_, _, _, _, rfl⟩ := commits
      exact ⟨text, settings, held, allocated, secured.invariant⟩

/-! ## Fences stay -/

/-- A fence that is held is left alone. -/
def FenceStays (key : RowKey) (before after : Kept key.Row) : Prop :=
  match key, before, after with
  | .fence _ _, before, after => ∀ fence : FenceRow, before.row = some fence →
      fence.safetyState ≠ .clear → after.row = some fence
  | _, _, _ => True

theorem fenceStays_refl (key : RowKey) (kept : Kept key.Row) :
    FenceStays key kept kept := by
  cases key with
  | fence => exact fun fence found _ => found
  | _ => trivial

theorem fenceStays_trans (key : RowKey) {a b c : Kept key.Row}
    (first : FenceStays key a b) (second : FenceStays key b c) :
    FenceStays key a c := by
  cases key with
  | fence =>
      exact fun fence found held =>
        second fence (first fence found held) held
  | _ => trivial

theorem fenceStays_of_move {key : RowKey} {before after : Kept key.Row}
    (moved : KeptMove (fun _ => True) key before after) :
    FenceStays key before after := by
  rcases moved with rfl | ⟨call, _, move, _⟩
  · exact fenceStays_refl key _
  cases key with
  | fence workerId gpuUuid =>
      intro fence found held
      obtain ⟨beforeRow, beforeCalls⟩ := before
      cases found
      generalize after.row = left at move ⊢
      cases (move : FenceMove call (some fence) left) with
      | reserved _ claim clear => exact (held clear).elim
  | _ => trivial

theorem CommittedThen.fence_held {text : Collation} {store later : Store}
    (run : CommittedThen text store later) {workerId : String}
    {gpuUuid : NonEmptyString} (held : ¬ store.FenceClear workerId gpuUuid) :
    ¬ later.FenceClear workerId gpuUuid := by
  have stays := (run.rowwise fenceStays_refl fenceStays_trans
    (fun _ _ _ => fenceStays_of_move)).2
  simp only [Store.FenceClear, not_forall] at held
  obtain ⟨fence, found, notClear⟩ := held
  intro clear
  exact notClear (clear fence
    (stays (.fence workerId gpuUuid) fence found notClear))

/-! ## Observation -/

/-- One of the two engines. -/
def Persistence.IsEngine (transaction : Persistence) : Prop :=
  transaction = sqlite ∨ ∃ text, transaction = postgres text

/-- The stored fence belongs to the stored attempt, and the attempt is the one
the broker asked about. -/
def Store.Holds (store : Store) (principal : BrokerProfile)
    (input : BrokerRequest) : Prop :=
  ∃ attempt fence, store.attempts.find? input.attemptId = some attempt ∧
    store.fences.find? (attempt.workerId, attempt.gpuUuid) = some fence ∧
    (attempt.workerId = principal.workerId ∧
      attempt.projectId = principal.projectId ∧
      attempt.leaseId = input.leaseId ∧
      attempt.subjectKind = input.subjectKind ∧
      attempt.subjectId = input.subjectId) ∧
    fence.safetyState ≠ .clear ∧ fence.epoch = attempt.fenceEpoch ∧
    fence.attemptId = some attempt.attemptId ∧
    fence.leaseId = some attempt.leaseId ∧
    fence.subjectKind = some attempt.subjectKind ∧
    fence.subjectId = some attempt.subjectId

theorem Store.holds_of_fenceHolds (store : Store) {principal : BrokerProfile}
    {input : BrokerRequest} {attempt : AttemptRow}
    (found : store.attempts.rows.find? (matchingAttempt
      { attemptId := input.attemptId
        workerId := principal.workerId
        projectId := principal.projectId
        subjectKind := input.subjectKind
        subjectId := input.subjectId
        leaseId := input.leaseId }) = some attempt)
    (holds : fenceHolds ⟨attempt,
      store.fences.find? (attempt.workerId, attempt.gpuUuid)⟩) :
    store.Holds principal input := by
  have matched := List.find?_some found
  simp only [matchingAttempt, Bool.and_eq_true, decide_eq_true_eq] at matched
  obtain ⟨⟨⟨⟨⟨atId, worker⟩, project⟩, kind⟩, subject⟩, lease⟩ := matched
  have stored := KeyedTable.mem_rows_iff.mp (List.mem_of_find?_eq_some found)
  rw [atId] at stored
  unfold fenceHolds at holds
  cases fenced : store.fences.find? (attempt.workerId, attempt.gpuUuid) with
  | none => simp [fenced] at holds
  | some fence =>
      simp only [fenced, Bool.and_eq_true, decide_eq_true_eq] at holds
      obtain ⟨⟨⟨⟨⟨notClear, sameAttempt⟩, sameLease⟩, sameKind⟩, sameSubject⟩,
        sameEpoch⟩ := holds
      exact ⟨attempt, fence, stored, fenced,
        ⟨worker, project, lease, kind, subject⟩, notClear, sameEpoch,
        sameAttempt, sameLease, sameKind, sameSubject⟩

theorem observe_held {transaction : Persistence}
    (engine : transaction.IsEngine) {principal : BrokerProfile}
    {input : BrokerRequest} {store after : Store} {sequence last : Nat}
    {observation : BrokerObservation}
    (run : (observeBrokerBoundAttempt transaction principal input).Runs store
      sequence (.ok observation) after last)
    (held : observation.disposition = .held) :
    store.Holds principal input := by
  obtain ⟨row, middle, between, read, answered⟩ := Program.Runs.of_bind run
  have seen : row = (store.attempts.rows.find? (matchingAttempt
      { attemptId := input.attemptId
        workerId := principal.workerId
        projectId := principal.projectId
        subjectKind := input.subjectKind
        subjectId := input.subjectId
        leaseId := input.leaseId })).map (fun row =>
      ⟨row, store.fences.find? (row.workerId, row.gpuUuid)⟩) := by
    rcases engine with rfl | ⟨text, rfl⟩
    · obtain ⟨_, _, accepted, _⟩ := Program.Runs.of_statement read
      cases accepted
      rfl
    · obtain ⟨_, _, accepted, _⟩ := Program.Runs.of_statement read
      cases accepted
      rfl
  subst seen
  cases found : store.attempts.rows.find? (matchingAttempt
      { attemptId := input.attemptId
        workerId := principal.workerId
        projectId := principal.projectId
        subjectKind := input.subjectKind
        subjectId := input.subjectId
        leaseId := input.leaseId }) with
  | none =>
      rw [found] at answered
      cases answered
      cases held
  | some attempt =>
      rw [found] at answered
      simp only [Option.map_some] at answered
      split at answered
      · cases answered
      · cases answered
        simp only [ite_eq_left_iff, reduceCtorEq, imp_false, not_not] at held
        exact store.holds_of_fenceHolds found held

/-- No pass puts work on a GPU that is fenced off when it commits; a fence that
is held stays, so a GPU with an attempt is never leased again; and `held` is
answered only for the stored attempt whose fence is the stored one. -/
theorem fenced_gpus_spared {text : Collation} {work : Service.Transaction}
    {earlier before after : Store}
    (commit : CommitOf text work earlier before after) :
    SparesFenced before after ∧
    (∀ workerId gpuUuid, ¬ earlier.FenceClear workerId gpuUuid →
      ¬ after.FenceClear workerId gpuUuid ∧
      ∀ key, (after.get key).leases ≠ (before.get key).leases →
        ¬ after.Occupies key (some workerId) (some gpuUuid)) ∧
    (∀ id attempt, before.attempts.find? id = some attempt →
      ∀ key, (after.get key).leases ≠ (before.get key).leases →
        ¬ after.Occupies key (some attempt.workerId)
          (some attempt.gpuUuid)) ∧
    ∀ (transaction : Persistence) (principal : BrokerProfile)
      (input : BrokerRequest) (final : Store) (sequence last : Nat)
      (observation : BrokerObservation), transaction.IsEngine →
      (observeBrokerBoundAttempt transaction principal input).Runs after
        sequence (.ok observation) final last →
      observation.disposition = .held → after.Holds principal input := by
  obtain ⟨collation, settings, held, allocated, guarded⟩ := commit.allocated
  have elsewhere : ∀ workerId gpuUuid, ¬ after.FenceClear workerId gpuUuid →
      ∀ key, (after.get key).leases ≠ (before.get key).leases →
        ¬ after.Occupies key (some workerId) (some gpuUuid) := by
    intro workerId gpuUuid fenced key given occupies
    obtain ⟨_, _, placed, clear⟩ := allocated.spared key given
    have same := Option.some.inj (occupies.symm.trans placed)
    cases same
    exact fenced clear
  refine ⟨allocated.spared, ?_, ?_, ?_⟩
  · intro workerId gpuUuid fenced
    have still := commit.after.fence_held (commit.before.fence_held fenced)
    exact ⟨still, elsewhere workerId gpuUuid still⟩
  · intro id attempt found
    obtain ⟨fence, fenced, notClear, _⟩ := guarded.fenced id attempt found
    have before : ¬ before.FenceClear attempt.workerId attempt.gpuUuid :=
      fun clear => notClear (clear fence fenced)
    exact elsewhere _ _ (commit.after.fence_held before)
  · intro transaction principal input final sequence last observation engine
      run answer
    exact observe_held engine run answer

/-! ## A small run -/

def sampleClaim : ExecutionClaim where
  subjectKind := .job
  subjectId := "job_1"
  leaseId := "lease_1"
  workerId := "worker_1"
  gpuUuid := sampleGpu.uuid
  attemptId := "attempt_1"
  artifactDigest := "sha256:" ++ String.ofList (List.replicate 64 '0')
  adapterIdentity := "adapter"
  runtimePolicyRevision := "1"
  approvalRef := "approval"
  now := 1003
  maxHeartbeatAgeMs := 15000

/-- The job's attempt is reserved. -/
def sampleReservation : List Service.Transaction :=
  samplePlacement ++ [.request (.reserveAttempt sampleClaim)]

/-- The job is over and another one waits. -/
def sampleSuccessor : List Service.Transaction :=
  [.request (.cancelJob "job_1" 1004),
    .request (.submitJob (sampleJob "job_2" 1005))]

theorem Store.fenced_of_any {store : Store} {workerId : String}
    {gpuUuid : NonEmptyString}
    (held : (store.fences.find? (workerId, gpuUuid)).any
      (fun fence => fence.safetyState ≠ .clear)) :
    ¬ store.FenceClear workerId gpuUuid := by
  intro clear
  cases found : store.fences.find? (workerId, gpuUuid) with
  | none => simp [found] at held
  | some fence =>
      rw [found] at held
      have notClear : fence.safetyState ≠ .clear := by simpa using held
      exact notClear (clear fence found)

theorem fenced_gpus_spared_sample :
    SparesFenced
        (Database.State.after (sampleReservation ++ sampleSuccessor)).1
        (Database.State.after (sampleReservation ++ sampleSuccessor ++
          [.pass samplePass])).1 ∧
      ¬ (Database.State.after (sampleReservation ++ sampleSuccessor ++
        [.pass samplePass])).1.FenceClear "worker_1" sampleGpu.uuid := by
  have commit := @commitOf_after sampleReservation sampleSuccessor
    (.pass samplePass) Collation.binary (by decide +kernel) (by decide +kernel)
    (by decide +kernel)
  have fenced : ¬ (Database.State.after sampleReservation).1.FenceClear
      "worker_1" sampleGpu.uuid :=
    Store.fenced_of_any (by decide +kernel)
  have spared := fenced_gpus_spared commit
  exact ⟨spared.1, (spared.2.1 "worker_1" sampleGpu.uuid fenced).1⟩

end GpuLink
