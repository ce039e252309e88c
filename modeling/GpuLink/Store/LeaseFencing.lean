import GpuLink.Store.Operations

/-!
# Lease fencing

The calls that changed a job or a session tell who holds its lease and until
when.  A start, a renewal or a report is accepted only from the holder of the
latest assignment, before the expiry that was last written, and not after
anything has ended the lease.
-/

namespace GpuLink

open Transactional Sql

/-! ## The history of a lease -/

/-- The expiry that a call wrote. -/
def Call.expiry : Call → Option Int
  | .assigned _ leaseExpiresAt => some leaseExpiresAt
  | .started leaseExpiresAt => some leaseExpiresAt
  | .activated leaseExpiresAt => some leaseExpiresAt
  | .renewed leaseExpiresAt => some leaseExpiresAt
  | _ => none

/-- The lease identifier that an assignment wrote. -/
def Call.leaseId : Call → Option String
  | .assigned leaseId _ => some leaseId
  | _ => none

/-- The call keeps the lease and moves its expiry. -/
def Call.extends : Call → Bool
  | .started _ => true
  | .activated _ => true
  | .renewed _ => true
  | _ => false

/-- The call ends the lease, or gives out another one. -/
def Call.revokes : Call → Bool
  | .assigned _ _ => true
  | .recovered => true
  | .cancelled => true
  | .closed => true
  | .finished => true
  | _ => false

/-- The latest assignment gave out `leaseId`, nothing has revoked it, and
`expires` was the expiry last written. -/
def LeaseHeld (calls : List Call) (leaseId : String) (expires : Int) : Prop :=
  ∃ earlier assignedUntil later,
    calls = earlier ++ .assigned leaseId assignedUntil :: later ∧
      (∀ call ∈ later, call.extends) ∧
      (calls.filterMap Call.expiry).getLast? = some expires

theorem LeaseHeld.assigned (calls : List Call) (leaseId : String)
    (expires : Int) :
    LeaseHeld (calls ++ [.assigned leaseId expires]) leaseId expires := by
  refine ⟨calls, expires, [], rfl, ?_, ?_⟩
  · intro call member
    cases member
  · simp [List.filterMap_append, Call.expiry]

theorem LeaseHeld.extended {calls : List Call} {leaseId : String}
    {expires until' : Int} {call : Call} (held : LeaseHeld calls leaseId expires)
    (extended : call.extends) (written : call.expiry = some until') :
    LeaseHeld (calls ++ [call]) leaseId until' := by
  obtain ⟨earlier, assignedUntil, later, rfl, onlyExtended, _⟩ := held
  refine ⟨earlier, assignedUntil, later ++ [call], by simp, ?_, ?_⟩
  · intro other member
    rcases List.mem_append.mp member with old | new
    · exact onlyExtended other old
    · rw [List.mem_singleton.mp new]
      exact extended
  · rw [List.filterMap_append]
    simp [written]

/-- When no identifier was given out twice, a lease that was revoked is not
held. -/
theorem LeaseHeld.not_revoked {calls before after : List Call}
    {leaseId : String} {expires assignedUntil : Int} {call : Call}
    (held : LeaseHeld calls leaseId expires)
    (fresh : (calls.filterMap Call.leaseId).Nodup)
    (history : calls = before ++ .assigned leaseId assignedUntil :: after)
    (member : call ∈ after) : call.revokes = false := by
  obtain ⟨earlier, firstUntil, later, split, onlyExtended, _⟩ := held
  have distinct : ∀ {front back : List Call} {expiry : Int},
      calls = front ++ .assigned leaseId expiry :: back →
      leaseId ∉ front.filterMap Call.leaseId := by
    intro front back expiry here
    rw [here, List.filterMap_append] at fresh
    intro again
    exact (List.nodup_append.mp fresh).2.2 leaseId again leaseId
      (by simp [Call.leaseId]) rfl
  have same : after = later := by
    have mine := distinct history
    have theirs := distinct split
    rcases List.append_eq_append_iff.mp (history.symm.trans split) with
      ⟨gap, front, back⟩ | ⟨gap, front, back⟩
    · cases gap with
      | nil => exact (List.cons.inj back).2
      | cons head tail =>
          rw [List.cons_append] at back
          rw [front, ← (List.cons.inj back).1] at theirs
          simp [Call.leaseId] at theirs
    · cases gap with
      | nil => exact (List.cons.inj back).2.symm
      | cons head tail =>
          rw [List.cons_append] at back
          rw [front, ← (List.cons.inj back).1] at mine
          simp [Call.leaseId] at mine
  have extended := onlyExtended call (same ▸ member)
  cases call <;> first | rfl | cases extended

/-! ## One row -/

/-- The lease and the expiry in the row of an active job. -/
def jobLease (row : Option JobRow) : Option (Option String × Option Int) :=
  (row.filter JobRow.isActive).map
    (fun row => (row.leaseId, row.leaseExpiresAt))

/-- The lease and the expiry in the row of an occupying session. -/
def sessionLease (row : Option SessionRow) :
    Option (Option String × Option Int) :=
  (row.filter SessionRow.isOccupying).map
    (fun row => (row.leaseId, row.leaseExpiresAt))

def leaseOf : (key : RowKey) → Option key.Row →
    Option (Option String × Option Int)
  | .job _, row => jobLease row
  | .session _, row => sessionLease row
  | _, _ => none

theorem jobLease_some {row : JobRow} (active : row.isActive) :
    jobLease (some row) = some (row.leaseId, row.leaseExpiresAt) := by
  simp [jobLease, Option.filter, active]

theorem sessionLease_some {row : SessionRow} (occupying : row.isOccupying) :
    sessionLease (some row) = some (row.leaseId, row.leaseExpiresAt) := by
  simp [sessionLease, Option.filter, occupying]

def JobRow.isOpen (row : JobRow) : Bool :=
  row.status = .queued || row.isActive

/-- A job is reported at most once, and not before it is over. -/
def JobReported (row : Option JobRow) (calls : List Call) : Prop :=
  calls.count .finished ≤ 1 ∧
    ((∀ job, row = some job → job.isOpen) → calls.count .finished = 0)

def Reported : (key : RowKey) → Kept key.Row → Prop
  | .job _, kept => JobReported kept.row kept.calls
  | _, _ => True

/-- The row and the history at a key agree on who holds the lease. -/
structure Kept.Fenced (key : RowKey) (kept : Kept key.Row) : Prop where
  held : ∀ leaseId leaseExpiresAt,
    leaseOf key kept.row = some (leaseId, leaseExpiresAt) →
    ∃ lease expires, leaseId = some lease ∧ leaseExpiresAt = some expires ∧
      LeaseHeld kept.calls lease expires
  reported : Reported key kept

/-- An active job keeps its lease and moves its expiry, or takes a new lease;
otherwise it is not active. -/
theorem JobMove.lease {call : Call} {before after : Option JobRow}
    {calls : List Call} (move : JobMove call before after)
    (held : ∀ leaseId leaseExpiresAt,
      jobLease before = some (leaseId, leaseExpiresAt) →
      ∃ lease expires, leaseId = some lease ∧ leaseExpiresAt = some expires ∧
        LeaseHeld calls lease expires)
    (leaseId : Option String) (leaseExpiresAt : Option Int)
    (leased : jobLease after = some (leaseId, leaseExpiresAt)) :
    ∃ lease expires, leaseId = some lease ∧ leaseExpiresAt = some expires ∧
      LeaseHeld (calls ++ [call]) lease expires := by
  cases move with
  | inserted queued =>
      simp [jobLease, JobRow.isActive, queued] at leased
  | assigned row placement lease expires now queued =>
      rw [jobLease_some (by simp [JobRow.isActive])] at leased
      cases leased
      exact ⟨lease, expires, rfl, rfl, LeaseHeld.assigned calls lease expires⟩
  | started row workerId lease expires now status jobHeld =>
      rw [jobLease_some (by simp [JobRow.isActive])] at leased
      cases leased
      obtain ⟨old, _, oldLease, _, history⟩ := held _ _
        (jobLease_some (by simp [JobRow.isActive, status]))
      exact ⟨old, expires, oldLease, rfl, history.extended rfl rfl⟩
  | renewed row workerId lease expires now status jobHeld =>
      rw [jobLease_some (by simp [JobRow.isActive, status])] at leased
      cases leased
      obtain ⟨old, _, oldLease, _, history⟩ := held _ _
        (jobLease_some (by simp [JobRow.isActive, status]))
      exact ⟨old, expires, oldLease, rfl, history.extended rfl rfl⟩
  | finished row workerId lease outcome =>
      cases outcome <;>
        simp [jobLease, JobRow.isActive, Outcome.status] at leased
  | cancelled => simp [jobLease, JobRow.isActive] at leased
  | recovered row =>
      by_cases exhausted : row.maxAttempts ≤ row.attempt <;>
        simp [jobLease, JobRow.isActive, exhausted] at leased

theorem SessionMove.lease {call : Call} {before after : Option SessionRow}
    {calls : List Call} (move : SessionMove call before after)
    (held : ∀ leaseId leaseExpiresAt,
      sessionLease before = some (leaseId, leaseExpiresAt) →
      ∃ lease expires, leaseId = some lease ∧ leaseExpiresAt = some expires ∧
        LeaseHeld calls lease expires)
    (leaseId : Option String) (leaseExpiresAt : Option Int)
    (leased : sessionLease after = some (leaseId, leaseExpiresAt)) :
    ∃ lease expires, leaseId = some lease ∧ leaseExpiresAt = some expires ∧
      LeaseHeld (calls ++ [call]) lease expires := by
  cases move with
  | inserted requested =>
      simp [sessionLease, SessionRow.isOccupying, requested] at leased
  | assigned row placement lease expires now requested =>
      rw [sessionLease_some (by simp [SessionRow.isOccupying])] at leased
      cases leased
      exact ⟨lease, expires, rfl, rfl, LeaseHeld.assigned calls lease expires⟩
  | started row workerId lease expires now status sessionHeld =>
      rw [sessionLease_some (by simp [SessionRow.isOccupying])] at leased
      cases leased
      obtain ⟨old, _, oldLease, _, history⟩ := held _ _
        (sessionLease_some (by simp [SessionRow.isOccupying, status]))
      exact ⟨old, expires, oldLease, rfl, history.extended rfl rfl⟩
  | activated row workerId lease expires now status sessionHeld =>
      rw [sessionLease_some (by simp [SessionRow.isOccupying])] at leased
      cases leased
      obtain ⟨old, _, oldLease, _, history⟩ := held _ _
        (sessionLease_some (by simp [SessionRow.isOccupying, status]))
      exact ⟨old, expires, oldLease, rfl, history.extended rfl rfl⟩
  | renewed row workerId lease expires now occupying sessionHeld =>
      rw [sessionLease_some (by simpa [SessionRow.isOccupying] using occupying)]
        at leased
      cases leased
      obtain ⟨old, _, oldLease, _, history⟩ := held _ _
        (sessionLease_some occupying)
      exact ⟨old, expires, oldLease, rfl, history.extended rfl rfl⟩
  | closed => simp [sessionLease, SessionRow.isOccupying] at leased
  | recovered row =>
      by_cases allowed : row.interruptionCount + 1 ≤ row.maxInterruptions <;>
        simp [sessionLease, SessionRow.isOccupying, allowed] at leased

/-- Moves start from open jobs, and a report closes one. -/
theorem JobMove.reported {call : Call} {before after : Option JobRow}
    {calls : List Call} (move : JobMove call before after)
    (reported : JobReported before calls) :
    JobReported after (calls ++ [call]) := by
  have starts : ∀ job, before = some job → job.isOpen := by
    rintro job rfl
    cases move with
    | assigned _ _ _ _ _ queued => simp [JobRow.isOpen, queued]
    | started _ _ _ _ _ leased => simp [JobRow.isOpen, JobRow.isActive, leased]
    | renewed _ _ _ _ _ running =>
        simp [JobRow.isOpen, JobRow.isActive, running]
    | finished _ _ _ _ _ _ _ active => simp [JobRow.isOpen, active]
    | cancelled _ _ cancellable => simpa [JobRow.isOpen] using cancellable
    | recovered _ _ _ active => simp [JobRow.isOpen, active]
  have none := reported.2 starts
  by_cases finish : call = .finished
  · subst finish
    refine ⟨by simp [List.count_append, none], ?_⟩
    intro stillOpen
    cases move with
    | finished row workerId leaseId outcome =>
        have closed := stillOpen _ rfl
        cases outcome <;>
          simp [JobRow.isOpen, JobRow.isActive, Outcome.status] at closed
  · have count : (calls ++ [call]).count .finished = 0 := by
      simp [List.count_append, none, finish]
    exact ⟨by omega, fun _ => count⟩

theorem fenced_of_move {key : RowKey} {before after : Kept key.Row}
    (moved : KeptMove (fun _ => True) key before after)
    (fenced : before.Fenced key) : after.Fenced key := by
  rcases moved with rfl | ⟨call, _, move, noted⟩
  · exact fenced
  obtain ⟨beforeRow, beforeCalls⟩ := before
  obtain ⟨afterRow, afterCalls⟩ := after
  simp only at move noted
  subst noted
  cases key with
  | job id =>
      exact ⟨JobMove.lease move fenced.held,
        JobMove.reported move fenced.reported⟩
  | session id => exact ⟨SessionMove.lease move fenced.held, trivial⟩
  | _ =>
      refine ⟨?_, trivial⟩
      intro leaseId leaseExpiresAt leased
      cases leased

theorem fenced_empty (key : RowKey) : (Store.empty.get key).Fenced key := by
  cases key with
  | job id =>
      refine ⟨?_, ?_⟩
      · intro leaseId leaseExpiresAt leased
        cases leased
      · exact ⟨Nat.zero_le 1, fun _ => rfl⟩
  | _ =>
      refine ⟨?_, trivial⟩
      intro leaseId leaseExpiresAt leased
      cases leased

theorem Observed.fenced {text : Collation} {transaction : Persistence}
    {store : Store} (observed : Observed text transaction store)
    (key : RowKey) : (store.get key).Fenced key := by
  have moved := @Observed.rowwise
    (fun key before after => before.Fenced key → after.Fenced key)
    (fun _ _ fenced => fenced)
    (fun _ _ _ _ first second fenced => second (first fenced))
    (fun _ _ _ moved => fenced_of_move moved) text transaction store observed
  exact moved key (fenced_empty key)

/-! ## Calls of a lease holder -/

/-- The calls that a worker makes with its lease. -/
inductive LeaseCall where
  | startJob (leaseExpiresAt : Int)
  | renewJob (leaseExpiresAt : Int)
  | finishJob (outcome : Outcome) (result error : Json)
  | startSession (leaseExpiresAt : Int)
  | activateSession (leaseExpiresAt : Int)
  | renewSession (leaseExpiresAt : Int)

namespace LeaseCall

/-- The row that a call on `id` is about. -/
def subject (id : String) : LeaseCall → RowKey
  | startJob _ | renewJob _ | finishJob _ _ _ => .job id
  | startSession _ | activateSession _ | renewSession _ => .session id

/-- The call, and whether it was accepted. -/
def accepted (transaction : Persistence) (id workerId leaseId : String)
    (now : Int) : LeaseCall → Tx Bool
  | startJob leaseExpiresAt => do
      let job ← transaction.startJob id workerId leaseId leaseExpiresAt now
      pure job.isSome
  | renewJob leaseExpiresAt => do
      let job ← transaction.renewJob id workerId leaseId leaseExpiresAt now
      pure job.isSome
  | finishJob outcome result error => do
      let job ← transaction.finishJob id workerId leaseId outcome result error
        now
      pure job.isSome
  | startSession leaseExpiresAt => do
      let session ← transaction.startSession id workerId leaseId leaseExpiresAt
        now
      pure session.isSome
  | activateSession leaseExpiresAt => do
      let session ← transaction.activateSession id workerId leaseId
        leaseExpiresAt now
      pure session.isSome
  | renewSession leaseExpiresAt => do
      let session ← transaction.renewSession id workerId leaseId leaseExpiresAt
        now
      pure session.isSome

/-- The note that an accepted call leaves. -/
def noted : LeaseCall → Call
  | startJob leaseExpiresAt => .started leaseExpiresAt
  | renewJob leaseExpiresAt => .renewed leaseExpiresAt
  | finishJob _ _ _ => .finished
  | startSession leaseExpiresAt => .started leaseExpiresAt
  | activateSession leaseExpiresAt => .activated leaseExpiresAt
  | renewSession leaseExpiresAt => .renewed leaseExpiresAt

end LeaseCall

/-- An `UPDATE` that answers with a row has found one. -/
theorem accepted_update {ρ α : Type} {wrap : ρ → RowWrite} {call : Call}
    {found : Store → Option ρ} {set : ρ → ρ} {answer : ρ → α}
    {s final : Store} {sequence last : Nat}
    (run : ((query (update wrap (some call) found set) >>= fun row =>
      pure (row.map answer)) >>= fun result => pure result.isSome : Tx Bool).Runs
        s sequence (.ok true) final last) :
    ∃ row, found s = some row ∧
      final = s.apply ⟨wrap (set row), some call⟩ := by
  obtain ⟨result, middle, between, updated, answered⟩ := Program.Runs.of_bind run
  obtain ⟨row, _, _, statement, mapped⟩ := Program.Runs.of_bind updated
  obtain ⟨order, effect, accepted, rfl, rfl⟩ := statement.of_statement
  generalize present : (Except.ok true : Except TxError Bool) = outcome
    at answered
  cases mapped
  cases answered
  unfold update at accepted
  split at accepted
  · cases accepted
    simp at present
  · rename_i old selected
    cases accepted
    exact ⟨old, selected, rfl⟩

theorem jobLeaseHeld_lease {workerId leaseId : String} {now : Int}
    {row : JobRow} (held : jobLeaseHeld workerId leaseId now row) :
    row.leaseId = some leaseId ∧
      ∃ expires, row.leaseExpiresAt = some expires ∧ now < expires := by
  unfold jobLeaseHeld at held
  cases expiry : row.leaseExpiresAt with
  | none => simp [expiry] at held
  | some expires =>
      simp only [expiry, Bool.and_eq_true, decide_eq_true_eq] at held
      exact ⟨held.1.2, expires, rfl, held.2⟩

theorem sessionLeaseHeld_lease {workerId leaseId : String} {now : Int}
    {row : SessionRow} (held : sessionLeaseHeld workerId leaseId now row) :
    row.leaseId = some leaseId ∧
      ∃ expires, row.leaseExpiresAt = some expires ∧ now < expires := by
  unfold sessionLeaseHeld at held
  cases expiry : row.leaseExpiresAt with
  | none => simp [expiry] at held
  | some expires =>
      simp only [expiry, Bool.and_eq_true, decide_eq_true_eq] at held
      exact ⟨held.1.2, expires, rfl, held.2⟩

/-- What an accepted call has found and left: the lease in the row is the
caller's, runs on, and the call is noted. -/
structure Accepted (store after : Store) (key : RowKey) (leaseId : String)
    (now : Int) (call : Call) : Prop where
  lease : ∃ expires, leaseOf key (store.row? key) =
    some (some leaseId, some expires) ∧ now < expires
  noted : after.calls key = store.calls key ++ [call]

theorem accepted_job {store : Store} {id workerId leaseId : String} {now : Int}
    {guard : JobRow → Bool} {row left : JobRow} {call : Call}
    (found : store.jobWhere id guard = some row) (sameId : left.id = row.id)
    (active : row.isActive) (held : jobLeaseHeld workerId leaseId now row) :
    Accepted store (store.apply ⟨.job left, some call⟩) (.job id) leaseId now
      call := by
  obtain ⟨present, _⟩ := Store.jobWhere_eq_some.mp found
  obtain ⟨lease, expires, expiry, later⟩ := jobLeaseHeld_lease held
  have atId : left.id = id := sameId.trans (KeyedTable.key_of_find? present)
  constructor
  · refine ⟨expires, ?_, later⟩
    have leased := jobLease_some active
    rw [lease, expiry] at leased
    exact (congrArg jobLease present).trans leased
  · have here := store.calls_apply_self ⟨.job left, some call⟩
    simpa [Write.key, atId] using here

theorem accepted_session {store : Store} {id workerId leaseId : String}
    {now : Int} {guard : SessionRow → Bool} {row left : SessionRow}
    {call : Call} (found : store.sessionWhere id guard = some row)
    (sameId : left.id = row.id) (occupying : row.isOccupying)
    (held : sessionLeaseHeld workerId leaseId now row) :
    Accepted store (store.apply ⟨.session left, some call⟩) (.session id)
      leaseId now call := by
  obtain ⟨present, _⟩ := Store.sessionWhere_eq_some.mp found
  obtain ⟨lease, expires, expiry, later⟩ := sessionLeaseHeld_lease held
  have atId : left.id = id := sameId.trans (KeyedTable.key_of_find? present)
  constructor
  · refine ⟨expires, ?_, later⟩
    have leased := sessionLease_some occupying
    rw [lease, expiry] at leased
    exact (congrArg sessionLease present).trans leased
  · have here := store.calls_apply_self ⟨.session left, some call⟩
    simpa [Write.key, atId] using here

theorem LeaseCall.accepted_postgres {text : Collation} {call : LeaseCall}
    {id workerId leaseId : String} {now : Int} {store after : Store}
    {sequence last : Nat}
    (run : (call.accepted (postgres text) id workerId leaseId now).Runs store
      sequence (.ok true) after last) :
    Accepted store after (call.subject id) leaseId now call.noted := by
  cases call with
  | startJob leaseExpiresAt =>
      obtain ⟨row, found, rfl⟩ := accepted_update run
      have meets := (Store.jobWhere_eq_some.mp found).2
      simp only [Bool.and_eq_true, decide_eq_true_eq] at meets
      exact accepted_job found rfl (by simp [JobRow.isActive, meets.1]) meets.2
  | renewJob leaseExpiresAt =>
      obtain ⟨row, found, rfl⟩ := accepted_update run
      have meets := (Store.jobWhere_eq_some.mp found).2
      simp only [Bool.and_eq_true, decide_eq_true_eq] at meets
      exact accepted_job found rfl (by simp [JobRow.isActive, meets.1]) meets.2
  | finishJob outcome result error =>
      obtain ⟨row, found, rfl⟩ := accepted_update run
      have meets := (Store.jobWhere_eq_some.mp found).2
      simp only [Bool.and_eq_true] at meets
      exact accepted_job found rfl meets.1 meets.2
  | startSession leaseExpiresAt =>
      obtain ⟨row, found, rfl⟩ := accepted_update run
      have meets := (Store.sessionWhere_eq_some.mp found).2
      simp only [Bool.and_eq_true, decide_eq_true_eq] at meets
      exact accepted_session found rfl
        (by simp [SessionRow.isOccupying, meets.1]) meets.2
  | activateSession leaseExpiresAt =>
      obtain ⟨row, found, rfl⟩ := accepted_update run
      have meets := (Store.sessionWhere_eq_some.mp found).2
      simp only [Bool.and_eq_true, decide_eq_true_eq] at meets
      exact accepted_session found rfl
        (by simp [SessionRow.isOccupying, meets.1]) meets.2
  | renewSession leaseExpiresAt =>
      obtain ⟨row, found, rfl⟩ := accepted_update run
      have meets := (Store.sessionWhere_eq_some.mp found).2
      simp only [Bool.and_eq_true] at meets
      exact accepted_session found rfl meets.1 meets.2

theorem Observed.accepted {text : Collation} {transaction : Persistence}
    {store : Store} (observed : Observed text transaction store)
    {call : LeaseCall} {id workerId leaseId : String} {now : Int}
    {after : Store} {sequence last : Nat}
    (run : (call.accepted transaction id workerId leaseId now).Runs store
      sequence (.ok true) after last) :
    Accepted store after (call.subject id) leaseId now call.noted := by
  cases observed with
  | serial _ =>
      -- the two engines send the same statements
      have same : call.accepted sqlite id workerId leaseId now =
          call.accepted (postgres Collation.binary) id workerId leaseId now := by
        cases call <;> rfl
      exact LeaseCall.accepted_postgres (same ▸ run)
  | replicated _ _ => exact LeaseCall.accepted_postgres run

theorem Accepted.held {text : Collation} {transaction : Persistence}
    {store after : Store} (observed : Observed text transaction store)
    {key : RowKey} {leaseId : String} {now : Int} {call : Call}
    (accepted : Accepted store after key leaseId now call) :
    ∃ expires, LeaseHeld (store.calls key) leaseId expires ∧
      now < expires := by
  obtain ⟨expires, leased, later⟩ := accepted.lease
  obtain ⟨lease, until', sameLease, sameExpiry, history⟩ :=
    (observed.fenced key).held _ _ leased
  cases sameLease
  cases sameExpiry
  exact ⟨expires, history, later⟩

/-! ## Recovery -/

/-- A job that is recovered because its lease ended had an expiry that has
passed. -/
theorem recoverExpiredJobs_expired {text : Collation} {now : Int}
    {offlineWorkerIds : List String} {recoveries : List RecoveredJob}
    {store after : Store} {sequence last : Nat}
    (run : ((postgres text).recoverExpiredJobs now offlineWorkerIds).Runs store
      sequence (.ok recoveries) after last)
    {recovery : RecoveredJob} (member : recovery ∈ recoveries)
    (expired : recovery.reason = .leaseExpired) :
    ∃ row, store.jobs.find? recovery.job.id = some row ∧ row.isActive ∧
      Postgres.leaseExpired now row.leaseExpiresAt := by
  obtain ⟨rows, _, _, statement, mapped⟩ := Program.Runs.of_bind run
  obtain ⟨order, effect, accepted, rfl, rfl⟩ := statement.of_statement
  cases mapped
  cases accepted
  obtain ⟨pair, pairMember, rfl⟩ := List.mem_map.mp member
  obtain ⟨row, selected, rfl⟩ := List.mem_map.mp pairMember
  obtain ⟨listed, meets⟩ := Store.mem_selectJobs.mp selected
  simp only [Bool.and_eq_true, Bool.or_eq_true] at meets
  refine ⟨row, KeyedTable.mem_rows_iff.mp listed, meets.1, ?_⟩
  rcases meets.2 with ended | offline
  · exact ended
  · simp [Postgres.recoveryCase, offline] at expired

theorem recoverInterruptedSessions_expired {text : Collation} {now : Int}
    {offlineWorkerIds : List String} {recoveries : List RecoveredSession}
    {store after : Store} {sequence last : Nat}
    (run : ((postgres text).recoverInterruptedSessions now
      offlineWorkerIds).Runs store sequence (.ok recoveries) after last)
    {recovery : RecoveredSession} (member : recovery ∈ recoveries)
    (expired : recovery.reason = .leaseExpired) :
    ∃ row, store.sessions.find? recovery.session.id = some row ∧
      row.isOccupying ∧ Postgres.leaseExpired now row.leaseExpiresAt := by
  obtain ⟨rows, _, _, statement, mapped⟩ := Program.Runs.of_bind run
  obtain ⟨order, effect, accepted, rfl, rfl⟩ := statement.of_statement
  cases mapped
  cases accepted
  obtain ⟨pair, pairMember, rfl⟩ := List.mem_map.mp member
  obtain ⟨row, selected, rfl⟩ := List.mem_map.mp pairMember
  obtain ⟨listed, meets⟩ := Store.mem_selectSessions.mp selected
  simp only [Bool.and_eq_true, Bool.or_eq_true] at meets
  refine ⟨row, KeyedTable.mem_rows_iff.mp listed, meets.1, ?_⟩
  rcases meets.2 with ended | offline
  · exact ended
  · simp [Postgres.recoveryCase, offline] at expired

/-- The rows that expiry recovers, on the engine of a run. -/
theorem Observed.recovers_expired {text : Collation}
    {transaction : Persistence} {store : Store}
    (observed : Observed text transaction store) {now : Int}
    {offlineWorkerIds : List String} {after : Store} {sequence last : Nat} :
    (∀ recoveries, (transaction.recoverExpiredJobs now offlineWorkerIds).Runs
        store sequence (.ok recoveries) after last →
      ∀ recovery ∈ recoveries, recovery.reason = .leaseExpired →
        ∃ row, store.jobs.find? recovery.job.id = some row ∧ row.isActive ∧
          Postgres.leaseExpired now row.leaseExpiresAt) ∧
    (∀ recoveries,
      (transaction.recoverInterruptedSessions now offlineWorkerIds).Runs
        store sequence (.ok recoveries) after last →
      ∀ recovery ∈ recoveries, recovery.reason = .leaseExpired →
        ∃ row, store.sessions.find? recovery.session.id = some row ∧
          row.isOccupying ∧ Postgres.leaseExpired now row.leaseExpiresAt) := by
  cases observed with
  | serial _ =>
      constructor
      · intro recoveries run recovery member expired
        exact recoverExpiredJobs_expired
          (operation_refines (.recoverExpiredJobs now offlineWorkerIds)
            _ _ _ _ _ run) member expired
      · intro recoveries run recovery member expired
        exact recoverInterruptedSessions_expired
          (operation_refines (.recoverInterruptedSessions now offlineWorkerIds)
            _ _ _ _ _ run) member expired
  | replicated _ _ =>
      constructor
      · intro recoveries run recovery member expired
        exact recoverExpiredJobs_expired run member expired
      · intro recoveries run recovery member expired
        exact recoverInterruptedSessions_expired run member expired

/-! ## Fencing -/

/-- What the lease calls of an engine can do on a store. -/
structure Persistence.Fences (transaction : Persistence)
    (store : Store) : Prop where
  /-- An accepted call comes from the latest holder, in time, and is noted. -/
  current : ∀ (call : LeaseCall) (id workerId leaseId : String) (now : Int)
    (after : Store) (sequence last : Nat),
    (call.accepted transaction id workerId leaseId now).Runs store sequence
      (.ok true) after last →
    (∃ expires, LeaseHeld (store.calls (call.subject id)) leaseId expires ∧
      now < expires) ∧
    after.calls (call.subject id) =
      store.calls (call.subject id) ++ [call.noted]
  /-- Identifiers being fresh, an earlier holder is refused. -/
  refused : ∀ (call : LeaseCall) (id workerId leaseId : String) (now : Int)
    (after : Store) (sequence last : Nat) (before later : List Call)
    (expires : Int) (revoking : Call),
    ((store.calls (call.subject id)).filterMap Call.leaseId).Nodup →
    store.calls (call.subject id) =
      before ++ .assigned leaseId expires :: later →
    revoking ∈ later → revoking.revokes →
    ¬ (call.accepted transaction id workerId leaseId now).Runs store sequence
      (.ok true) after last
  /-- No job is reported twice. -/
  reportedOnce : ∀ id, (store.calls (.job id)).count .finished ≤ 1
  /-- What a holder may still call about does not expire at that instant. -/
  unexpired : ∀ (call : LeaseCall) (id workerId leaseId : String) (now : Int)
    (after : Store) (sequence last : Nat),
    (call.accepted transaction id workerId leaseId now).Runs store sequence
      (.ok true) after last →
    ∀ (offlineWorkerIds : List String) (left : Store) (start next : Nat),
      (∀ recoveries,
        (transaction.recoverExpiredJobs now offlineWorkerIds).Runs store
          start (.ok recoveries) left next →
        ∀ recovery ∈ recoveries, call.subject id = .job recovery.job.id →
          recovery.reason ≠ .leaseExpired) ∧
      (∀ recoveries,
        (transaction.recoverInterruptedSessions now offlineWorkerIds).Runs
          store start (.ok recoveries) left next →
        ∀ recovery ∈ recoveries,
          call.subject id = .session recovery.session.id →
          recovery.reason ≠ .leaseExpired)

theorem Accepted.not_expired {store after : Store} {key : RowKey}
    {leaseId : String} {now : Int} {call : Call} {lease : Option String}
    {leaseExpiresAt : Option Int}
    (accepted : Accepted store after key leaseId now call)
    (leased : leaseOf key (store.row? key) = some (lease, leaseExpiresAt)) :
    Postgres.leaseExpired now leaseExpiresAt = false := by
  obtain ⟨expires, held, later⟩ := accepted.lease
  rw [leased] at held
  cases held
  simpa [Postgres.leaseExpired] using later

/-- In every run of persistence calls, on either engine, leases fence. -/
theorem lease_fencing {text : Collation} {transaction : Persistence}
    {store : Store} (observed : Observed text transaction store) :
    transaction.Fences store where
  current call id workerId leaseId now after sequence last run := by
    have accepted := observed.accepted run
    exact ⟨accepted.held observed, accepted.noted⟩
  refused call id workerId leaseId now after sequence last before later expires
      revoking fresh history member revokes run := by
    obtain ⟨_, held, _⟩ := (observed.accepted run).held observed
    have spared := held.not_revoked fresh history member
    rw [revokes] at spared
    cases spared
  reportedOnce id := (observed.fenced (.job id)).reported.1
  unexpired call id workerId leaseId now after sequence last run
      offlineWorkerIds left start next := by
    have accepted := observed.accepted run
    have recovers := @Observed.recovers_expired text transaction store observed
      now offlineWorkerIds left start next
    constructor
    · intro recoveries recoverRun recovery member same expired
      obtain ⟨row, found, active, ended⟩ :=
        recovers.1 recoveries recoverRun recovery member expired
      rw [same] at accepted
      have running := accepted.not_expired
        ((congrArg jobLease found).trans (jobLease_some active))
      rw [running] at ended
      cases ended
    · intro recoveries recoverRun recovery member same expired
      obtain ⟨row, found, occupying, ended⟩ :=
        recovers.2 recoveries recoverRun recovery member expired
      rw [same] at accepted
      have running := accepted.not_expired
        ((congrArg sessionLease found).trans (sessionLease_some occupying))
      rw [running] at ended
      cases ended

theorem lease_fencing_sample :
    ∃ expires, LeaseHeld ((Database.State.called sampleOperations).1.calls
      (.job "job_1")) "lease_1" expires ∧ 1003 < expires := by
  have observed : Observed Collation.binary sqlite
      (Database.State.called sampleOperations).1 :=
    observed_called (by decide +kernel) _
  have run := Program.runs_runAlone Scan.stored
    ((LeaseCall.startJob 3000).accepted sqlite "job_1" "worker_1" "lease_1"
      1003) (Database.State.called sampleOperations).1 0
  exact ((lease_fencing observed).current (.startJob 3000) "job_1" "worker_1"
    "lease_1" 1003 _ 0 _ run).1

end GpuLink
