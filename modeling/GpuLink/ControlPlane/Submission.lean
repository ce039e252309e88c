import GpuLink.ControlPlane.Chronicle
import GpuLink.Library.Registry
import GpuLink.Store.Emissions

/-!
# Idempotent submission

`submitJob` and `submitSession` insert a row and its first event in one
transaction, or answer with the row that has the project and the key already.
However the calls and everything else overlap, one of the calls with a key
inserts, and all of them answer with its row.
-/

namespace GpuLink

open Transactional Sql

/-! ## Calls -/

/-- What a submitted row keeps for good. -/
structure Ticket where
  kind : SubjectKind
  projectId : String
  idempotencyKey : Option NonEmptyString
  deriving DecidableEq

/-- The row of a job or a session. -/
def SubjectKind.rowKey : SubjectKind → String → RowKey
  | .job, id => .job id
  | .session, id => .session id

/-- A validated call of `submitJob` or `submitSession`. -/
inductive Submission where
  | job (request : JobRequest)
  | session (request : SessionRequest)

namespace Submission

def ticket : Submission → Ticket
  | .job request => ⟨.job, request.projectId, request.idempotencyKey⟩
  | .session request => ⟨.session, request.projectId, request.idempotencyKey⟩

/-- The transaction of the call, with the id of the row and `duplicate`. -/
def code (transaction : Persistence) : Submission → Tx (String × Bool)
  | .job request => do
      let inserted ← Service.submitJob transaction request
      pure (inserted.job.id, inserted.duplicate)
  | .session request => do
      let inserted ← Service.submitSession transaction request
      pure (inserted.session.id, inserted.duplicate)

end Submission

/-- A call with what its transaction answers. -/
structure SubmitCall where
  submission : Submission
  id : String
  duplicate : Bool

namespace SubmitCall

def ticket (call : SubmitCall) : Ticket :=
  call.submission.ticket

def rowKey (call : SubmitCall) : RowKey :=
  call.ticket.kind.rowKey call.id

/-- The transaction of a call that is going to answer this; a transaction that
is going to answer something else is another one. -/
def code (transaction : Persistence) (call : SubmitCall) : Tx Unit :=
  (call.submission.code transaction).bind (fun answer => .done
    (if answer = (call.id, call.duplicate) then .ok () else .error .typeError))

/-- The id that the call returns when it reads the row again, after the pass
that it awaits. -/
def reread (store : Store) (call : SubmitCall) : Option String :=
  match call.ticket.kind with
  | .job => (store.jobs.find? call.id).map JobRow.id
  | .session => (store.sessions.find? call.id).map SessionRow.id

end SubmitCall

/-- Everything else that runs as a transaction. -/
def Service.Transaction.isSubmission : Service.Transaction → Bool
  | .request (.submitJob _) | .request (.submitSession _) => true
  | _ => false

def BeginsOther (transaction : Persistence) (code : Tx Unit) : Prop :=
  ∃ (settings : SchedulerSettings) (work : Service.Transaction),
    work.isSubmission = false ∧ code = work.code transaction settings

/-- The transactions of the control plane, those of calls with their answer. -/
def BeginsSubmitting (transaction : Persistence) (code : Tx Unit) : Prop :=
  BeginsOther transaction code ∨ ∃ call : SubmitCall, code = call.code transaction

/-! ## The registry of what is submitted -/

def JobRow.ticket (row : JobRow) : Ticket :=
  ⟨.job, row.projectId, row.idempotencyKey⟩

def SessionRow.ticket (row : SessionRow) : Ticket :=
  ⟨.session, row.projectId, row.idempotencyKey⟩

/-- The ticket of the row at a key. -/
def ticketAt : (key : RowKey) → Kept key.Row → Option Ticket
  | .job _, kept => kept.row.map JobRow.ticket
  | .session _, kept => kept.row.map SessionRow.ticket
  | _, _ => none

/-- The ticket of the job or session that a write inserts. -/
def Write.submits (write : Write) : Option Ticket :=
  if write.call = some .inserted then
    match write.row with
    | .job row => some row.ticket
    | .session row => some row.ticket
    | _ => none
  else none

/-- The row that a `job.queued` or `session.requested` event is about. -/
def Write.announces (write : Write) : Option RowKey :=
  match write.row with
  | .event row =>
      if row.type = "job.queued" then row.subjectId.map RowKey.job
      else if row.type = "session.requested" then
        row.subjectId.map RowKey.session
      else none
  | _ => none

/-- Submitted rows, and the unique indexes on `(project_id, idempotency_key)`. -/
def submissions : Registry Write RowKey (fun key => Kept key.Row) Ticket
    (SubjectKind × String × NonEmptyString) where
  label := ticketAt
  inserts := Write.submits
  entry ticket := ticket.idempotencyKey.map
    (fun key => (ticket.kind, ticket.projectId, key))

theorem submits_job {write : Write} {ticket : Ticket}
    (submits : write.submits = some ticket) :
    (∃ row, write = ⟨.job row, some .inserted⟩ ∧ row.ticket = ticket) ∨
      ∃ row, write = ⟨.session row, some .inserted⟩ ∧ row.ticket = ticket := by
  obtain ⟨row, call⟩ := write
  unfold Write.submits at submits
  split at submits
  · next inserted =>
      cases inserted
      cases row with
      | job row => exact Or.inl ⟨row, rfl, Option.some.inj submits⟩
      | session row => exact Or.inr ⟨row, rfl, Option.some.inj submits⟩
      | _ => cases submits
  · cases submits

/-- The unique indexes lock what they hold apart. -/
theorem submissions_locked : submissions.Locked Store := by
  intro write other l m c submits otherSubmits held alsoHeld
  obtain ⟨key, named, rfl⟩ := Option.map_eq_some_iff.mp held
  obtain ⟨otherKey, otherNamed, same⟩ := Option.map_eq_some_iff.mp alsoHeld
  simp only [Prod.mk.injEq] at same
  obtain ⟨kinds, projects, rfl⟩ := same
  rcases submits_job submits with ⟨row, rfl, rfl⟩ | ⟨row, rfl, rfl⟩ <;>
    rcases submits_job otherSubmits with ⟨third, rfl, rfl⟩ | ⟨third, rfl, rfl⟩
  · have keys : row.idempotencyKey = some otherKey := named
    have otherKeys : third.idempotencyKey = some otherKey := otherNamed
    exact Or.inr ⟨projects.symm, by rw [keys]; simp,
      keys.trans otherKeys.symm⟩
  · cases kinds
  · cases kinds
  · have keys : row.idempotencyKey = some otherKey := named
    have otherKeys : third.idempotencyKey = some otherKey := otherNamed
    exact Or.inr ⟨projects.symm, by rw [keys]; simp,
      keys.trans otherKeys.symm⟩

/-- The write leaves every submitted row, and announces nothing. -/
def Write.Aside (view : Store) (write : Write) : Prop :=
  submissions.Leaves view write ∧ write.announces = none

theorem Write.Elsewhere.aside {view : Store} {write : Write}
    (elsewhere : write.Elsewhere view) : write.Aside view := by
  obtain ⟨row, call⟩ := write
  cases row with
  | job row =>
      obtain ⟨other, old, found, projects, keys⟩ := elsewhere
      have stood : ticketAt (.job row.id) (view.get (.job row.id)) =
          some row.ticket := by
        show (view.jobs.find? row.id).map JobRow.ticket = _
        rw [found]
        simp [JobRow.ticket, projects, keys]
      exact ⟨⟨if_neg other, fun value same => (same.trans stood).symm⟩, rfl⟩
  | session row =>
      obtain ⟨other, old, found, projects, keys⟩ := elsewhere
      have stood : ticketAt (.session row.id) (view.get (.session row.id)) =
          some row.ticket := by
        show (view.sessions.find? row.id).map SessionRow.ticket = _
        rw [found]
        simp [SessionRow.ticket, projects, keys]
      exact ⟨⟨if_neg other, fun value same => (same.trans stood).symm⟩, rfl⟩
  | event row => exact elsewhere.elim
  | worker row => exact ⟨⟨by simp [submissions, Write.submits],
      fun _ _ => rfl⟩, rfl⟩
  | fence row => exact ⟨⟨by simp [submissions, Write.submits],
      fun _ _ => rfl⟩, rfl⟩
  | attempt row => exact ⟨⟨by simp [submissions, Write.submits],
      fun _ _ => rfl⟩, rfl⟩
  | deleteEvent sequence => exact ⟨⟨by simp [submissions, Write.submits],
      fun _ _ => rfl⟩, rfl⟩

theorem leaves_event (view : Store) (row : EventRow) (call : Option Call) :
    submissions.Leaves view ⟨.event row, call⟩ :=
  ⟨by simp [submissions, Write.submits], fun _ _ => rfl⟩

theorem leaves_worker (view : Store) (row : WorkerRow) (call : Option Call) :
    submissions.Leaves view ⟨.worker row, call⟩ :=
  ⟨by simp [submissions, Write.submits], fun _ _ => rfl⟩

theorem worker_aside (view : Store) (row : WorkerRow) (call : Option Call) :
    Write.Aside view ⟨.worker row, call⟩ :=
  ⟨leaves_worker view row call, rfl⟩

theorem EachWrite.respects {input : Input Store Scan} {effect : Effect Write}
    (each : EachWrite (fun view write => submissions.Leaves view write) input
      effect) : submissions.Respects input effect :=
  Or.inl each

theorem respects_nothing (input : Input Store Scan) :
    submissions.Respects input ⟨[], 0⟩ :=
  Or.inl (fun _ member => absurd member List.not_mem_nil)

theorem Store.AdmitsJob.respects {input : Input Store Scan} {row : JobRow}
    (admits : input.view.AdmitsJob row) :
    submissions.Respects input ⟨[⟨.job row, some .inserted⟩], 0⟩ := by
  refine Or.inr ⟨_, row.ticket, rfl, rfl, ?_, fun _ => rfl, ?_⟩
  · show (input.view.jobs.find? row.id).map JobRow.ticket = none
    rw [admits.1]
    rfl
  · intro c held k other stands alsoHeld
    obtain ⟨key, named, rfl⟩ := Option.map_eq_some_iff.mp held
    obtain ⟨otherKey, otherNamed, same⟩ := Option.map_eq_some_iff.mp alsoHeld
    simp only [Prod.mk.injEq] at same
    obtain ⟨kinds, projects, rfl⟩ := same
    cases k with
    | job id =>
        obtain ⟨third, found, rfl⟩ := Option.map_eq_some_iff.mp stands
        have free := admits.2
        have keyed : row.idempotencyKey = some otherKey := named
        rw [keyed] at free
        have absent : input.view.jobByKey row.projectId otherKey = none := by
          simpa [Store.jobKeyTaken] using free
        have listed : third ∈ input.view.jobs.rows :=
          KeyedTable.mem_of_find? found
        have never := List.find?_eq_none.mp absent third listed
        have thirdKey : third.idempotencyKey = some otherKey := otherNamed
        have thirdProject : third.projectId = row.projectId := projects
        simp [thirdKey, thirdProject] at never
    | session id =>
        obtain ⟨third, _, rfl⟩ := Option.map_eq_some_iff.mp stands
        cases kinds
    | _ => cases stands

theorem Store.AdmitsSession.respects {input : Input Store Scan}
    {row : SessionRow} (admits : input.view.AdmitsSession row) :
    submissions.Respects input ⟨[⟨.session row, some .inserted⟩], 0⟩ := by
  refine Or.inr ⟨_, row.ticket, rfl, rfl, ?_, fun _ => rfl, ?_⟩
  · show (input.view.sessions.find? row.id).map SessionRow.ticket = none
    rw [admits.1]
    rfl
  · intro c held k other stands alsoHeld
    obtain ⟨key, named, rfl⟩ := Option.map_eq_some_iff.mp held
    obtain ⟨otherKey, otherNamed, same⟩ := Option.map_eq_some_iff.mp alsoHeld
    simp only [Prod.mk.injEq] at same
    obtain ⟨kinds, projects, rfl⟩ := same
    cases k with
    | job id =>
        obtain ⟨third, _, rfl⟩ := Option.map_eq_some_iff.mp stands
        cases kinds
    | session id =>
        obtain ⟨third, found, rfl⟩ := Option.map_eq_some_iff.mp stands
        have free := admits.2
        have keyed : row.idempotencyKey = some otherKey := named
        rw [keyed] at free
        have absent : input.view.sessionByKey row.projectId otherKey = none := by
          simpa [Store.sessionKeyTaken] using free
        have listed : third ∈ input.view.sessions.rows :=
          KeyedTable.mem_of_find? found
        have never := List.find?_eq_none.mp absent third listed
        have thirdKey : third.idempotencyKey = some otherKey := otherNamed
        have thirdProject : third.projectId = row.projectId := projects
        simp [thirdKey, thirdProject] at never
    | _ => cases stands

/-! ## What the transactions write -/

section Emitted

variable {transaction : Persistence} (announces : transaction.Announces)

/-- The engine without the methods that a submission needs. -/
def Persistence.withoutSubmission (transaction : Persistence) : Persistence :=
  transaction.replacing transaction.upsertWorker
    transaction.updateWorkerHeartbeat (fun _ => throw .typeError)
    (fun _ => throw .typeError)
    (fun type subjectId payload now =>
      if type = "job.queued" ∨ type = "session.requested" then
        throw .typeError
      else transaction.appendEvent type subjectId payload now)

theorem code_withoutSubmission {leaseDurationMs : Int}
    {request : Service.Request}
    (other : Service.Transaction.isSubmission (.request request) = false) :
    request.code transaction leaseDurationMs =
      request.code transaction.withoutSubmission leaseDurationMs := by
  cases request with
  | submitJob job => cases other
  | submitSession session => cases other
  | setWorkerDrain workerId drain now => cases drain <;> rfl
  | finishJob jobId lease outcome result error now => cases outcome <;> rfl
  | _ => rfl

theorem announces_of_type {type : String}
    (other : ¬ (type = "job.queued" ∨ type = "session.requested"))
    (subjectId : Option String) (payload : Json) (now : Int) (sequence : Nat)
    (call : Option Call) :
    (⟨.event ⟨sequence, type, subjectId, payload, now⟩, call⟩ :
      Write).announces = none := by
  simp only [not_or] at other
  simp [Write.announces, other.1, other.2]

include announces

theorem appendEvent_aside {type : String} {subjectId : Option String}
    {payload : Json} {now : Int}
    (other : ¬ (type = "job.queued" ∨ type = "session.requested")) :
    (transaction.appendEvent type subjectId payload now).Emits
      (EachWrite Write.Aside) :=
  announces.appends.emits (fun _ _ elsewhere => elsewhere.aside)
    (fun view _ =>
      ⟨leaves_event view _ _, announces_of_type other _ _ _ _ _⟩)

/-- Whatever is no submission leaves what is submitted alone. -/
theorem other_aside {code : Tx Unit} (begins : BeginsOther transaction code) :
    code.Emits (EachWrite Write.Aside) := by
  obtain ⟨settings, work, other, rfl⟩ := begins
  have wider : ∀ input effect, EachWrite Write.Elsewhere input effect →
      EachWrite Write.Aside input effect :=
    fun _ _ each write member => (each write member).aside
  cases work with
  | request request =>
      have serves : transaction.withoutSubmission.Serves
          (.emits (EachWrite Write.Aside)) transaction.withoutSubmission := by
        refine announces.elsewhere.serves wider ?_ ?_ ?_ ?_ ?_ _
        · exact fun worker => upsertWorker_emits announces worker
            (fun view row => worker_aside view row _)
        · exact fun workerId heartbeat => updateWorkerHeartbeat_emits announces
            workerId heartbeat (fun view row => worker_aside view row _)
        · exact fun _ => trivial
        · exact fun _ => trivial
        · intro type subjectId payload now
          split
          · trivial
          · next other => exact appendEvent_aside announces other
      show (request.code transaction settings.leaseDurationMs).Emits _
      rw [code_withoutSubmission other]
      exact serves.request settings.leaseDurationMs request
  | pass input =>
      refine Program.Emits.bind (Program.Emits.bind ?_ ?_) (fun _ => trivial)
      · exact announces.elsewhere.tryAcquireSchedulerLock.mono wider
      · intro acquired
        cases acquired with
        | false => trivial
        | true =>
            show (Scheduler.lockedPass transaction settings input).Emits _
            rw [lockedPass_eq]
            refine Program.Emits.bind (markStaleWorkersOffline_emits announces
              _ _ (fun view row => worker_aside view row _)) ?_
            intro ids
            refine Program.Emits.bind ?_ (fun _ => ?_)
            · apply reportStale_emits
              intro subjectId payload now
              exact appendEvent_aside announces (by decide)
            · apply recoverAndPlace_emits announces.elsewhere wider
              intro type recovery subjectId payload now
              apply appendEvent_aside announces
              rintro (rfl | rfl) <;> simp [recoveryEvents] at recovery

/-- Whatever a call's transaction does, it inserts as the registry asks. -/
theorem submitting_respects {code : Tx Unit}
    (begins : BeginsSubmitting transaction code) :
    code.Emits submissions.Respects := by
  rcases begins with other | ⟨call, rfl⟩
  · refine (other_aside announces other).mono ?_
    intro input effect each
    exact Or.inl (fun write member => (each write member).1)
  have wider : ∀ view write, Write.Elsewhere view write →
      submissions.Leaves view write :=
    fun _ _ elsewhere => elsewhere.aside.1
  have append : ∀ type subjectId payload now,
      (transaction.appendEvent type subjectId payload now).Emits
        submissions.Respects := by
    intro type subjectId payload now
    refine (announces.appends.emits wider ?_).mono
      (fun _ _ each => EachWrite.respects each)
    exact fun view _ => leaves_event view _ _
  refine Program.Emits.bind ?_ (fun _ => trivial)
  cases call.submission with
  | job request =>
      refine emits_mapped (Program.Emits.bind ?_ ?_)
      · exact announces.inserts.job_emits respects_nothing request
          (fun _ _ admits => admits.respects)
      · intro result
        split
        · trivial
        · exact emits_mapped (append _ _ _ _)
  | session request =>
      refine emits_mapped (Program.Emits.bind ?_ ?_)
      · exact announces.inserts.session_emits respects_nothing request
          (fun _ _ admits => admits.respects)
      · intro result
        split
        · trivial
        · exact emits_mapped (append _ _ _ _)

end Emitted

/-! ## What a call has done when it commits -/

/-- The row that a write submits. -/
def Write.submitted (write : Write) : Option (RowKey × Ticket) :=
  write.submits.map (fun ticket => (write.key, ticket))

theorem submitted_of_submits {write : Write} {ticket : Ticket}
    (submits : write.submits = some ticket) :
    write.submitted = some (write.key, ticket) := by
  unfold Write.submitted
  rw [submits]
  rfl

/-- What is submitted stands, and is announced by another write. -/
theorem submitted_stands {write : Write} {ticket : Ticket}
    (submits : write.submits = some ticket) (s : Store) :
    ticketAt write.key ((s.apply write).get write.key) = some ticket ∧
      write.announces = none := by
  have left := Store.row?_apply_self s write
  rcases submits_job submits with ⟨row, rfl, rfl⟩ | ⟨row, rfl, rfl⟩
  · refine ⟨?_, rfl⟩
    show ((s.apply ⟨.job row, some .inserted⟩).row? (.job row.id)).map
      JobRow.ticket = _
    exact congrArg (Option.map JobRow.ticket) left
  · refine ⟨?_, rfl⟩
    show ((s.apply ⟨.session row, some .inserted⟩).row? (.session row.id)).map
      SessionRow.ticket = _
    exact congrArg (Option.map SessionRow.ticket) left

theorem Write.Aside.submitted {view : Store} {write : Write}
    (aside : write.Aside view) : write.submitted = none := by
  have never : write.submits = none := aside.1.1
  unfold Write.submitted
  rw [never]
  rfl

/-- Writes beside a submission submit and announce nothing. -/
theorem aside_none {view : Store} {writes : List Write}
    (each : ∀ write ∈ writes, write.Aside view) :
    writes.filterMap Write.submitted = [] ∧
      writes.filterMap Write.announces = [] := by
  constructor
  · exact List.filterMap_eq_nil_iff.mpr
      (fun write member => (each write member).submitted)
  · exact List.filterMap_eq_nil_iff.mpr
      (fun write member => (each write member).2)

namespace SubmitCall

/-- The row of the call stands; it and its event have been written, unless the
call is a duplicate. -/
structure Settled (call : SubmitCall) (s : Store) (log : List Write) :
    Prop where
  stands : ticketAt call.rowKey ((applyAll s log).get call.rowKey) =
    some call.ticket
  named : call.duplicate = true → call.ticket.idempotencyKey ≠ none
  submitted : log.filterMap Write.submitted =
    if call.duplicate then [] else [(call.rowKey, call.ticket)]
  announced : log.filterMap Write.announces =
    if call.duplicate then [] else [call.rowKey]

/-- The transaction of the call holds the row. -/
structure Holds (call : SubmitCall) (s : Store) (log : List Write) :
    Prop where
  settled : call.Settled s log
  held : ∃ write ∈ log, write.key = call.rowKey

theorem Holds.shift {call : SubmitCall} {s s' : Store} {log : List Write}
    (holds : call.Holds s log) (kept : LocksKept log s s') :
    call.Holds s' log := by
  refine ⟨{ holds.settled with stands := ?_ }, holds.held⟩
  have same : RowStore.get (applyAll s' log) call.rowKey =
      RowStore.get (applyAll s log) call.rowKey :=
    get_applyAll_congr (kept.row holds.held) log
  have stands : ticketAt call.rowKey
      (RowStore.get (applyAll s log) call.rowKey) = some call.ticket :=
    holds.settled.stands
  rw [← same] at stands
  exact stands

theorem Holds.aside {call : SubmitCall} {s : Store} {log writes : List Write}
    (holds : call.Holds s log)
    (each : ∀ write ∈ writes, write.Aside (applyAll s log)) :
    call.Holds s (log ++ writes) := by
  obtain ⟨submitted, announced⟩ := aside_none each
  obtain ⟨write, member, here⟩ := holds.held
  refine ⟨⟨?_, holds.settled.named, ?_, ?_⟩,
    write, List.mem_append_left _ member, here⟩
  · have same := Registry.labels_of_leaves
      (fun write member => (each write member).1) (fun _ => rfl) call.rowKey
    rw [← applyAll_append] at same
    exact same.trans holds.settled.stands
  · rw [List.filterMap_append, submitted, List.append_nil]
    exact holds.settled.submitted
  · rw [List.filterMap_append, announced, List.append_nil]
    exact holds.settled.announced

end SubmitCall

/-- An insert, by what it inserts and by what it finds. -/
theorem insertOnce_secures {ρ ι : Type} {wrap : ρ → RowWrite} {row : ρ}
    {admits : Store → Prop} {statement : Statement (Option ρ)}
    {key : Option NonEmptyString}
    {byKey : Store → NonEmptyString → Option ρ} {missing lost : TxError}
    {answer : ρ → Bool → ι} (inserts : InsertsRow wrap row admits statement)
    {post : ι → Bool → Store → List Write → Prop}
    (fresh : ∀ held s,
      post (answer row false) held s [⟨wrap row, some .inserted⟩])
    (found : ∀ held s s' k other, key = some k → byKey s k = some other →
      Rowwise submissions.Stays s s' → post (answer other true) held s' [])
    {held : Bool} {s : Store} :
    (insertOnce statement key byKey missing lost answer).secures
      (submissions.regime Store) held post s [] := by
  apply Program.secures_bind
  apply Program.secures_statement
  intro before shift input view answered effect accepted after further
  rcases inserts input answered effect accepted with
    ⟨rfl, rfl⟩ | ⟨rfl, rfl, _⟩
  · cases key with
    | none => trivial
    | some key =>
        apply Program.secures_bind
        apply Program.secures_statement
        intro middle _ input view answered effect accepted last later
        cases accepted
        have sees : input.view = middle := view
        cases existing : byKey input.view key with
        | none =>
            simp only [existing]
            trivial
        | some other =>
            simp only [existing]
            intro final ending
            rw [sees] at existing
            exact found held middle final key other rfl existing
              (later.trans ending).env
  · exact fun final _ => fresh held final

/-- The row with the key stands already. -/
theorem duplicate_settles {call : SubmitCall} {s s' : Store}
    {key : NonEmptyString} (duplicate : call.duplicate = true)
    (keyed : call.ticket.idempotencyKey = some key)
    (stands : ticketAt call.rowKey (s.get call.rowKey) = some call.ticket)
    (stays : Rowwise submissions.Stays s s') : call.Settled s' [] := by
  refine ⟨stays call.rowKey call.ticket stands, ?_, ?_, ?_⟩
  · intro _ unnamed
    rw [keyed] at unnamed
    cases unnamed
  · rw [duplicate]
    rfl
  · rw [duplicate]
    rfl

section Settles

variable {transaction : Persistence} (announces : transaction.Announces)

include announces

/-- The row has been inserted, and its event follows. -/
theorem event_settles {call : SubmitCall} {write : Write} {type : String}
    {payload : Json} {now : Int} (fresh : call.duplicate = false)
    (here : write.key = call.rowKey)
    (submits : write.submits = some call.ticket)
    (announcing : ∀ sequence,
      (⟨.event ⟨sequence, type, some call.id, payload, now⟩, some .appended⟩ :
        Write).announces = some call.rowKey)
    {held : Bool} (s : Store) :
    (transaction.appendEvent type (some call.id) payload now).secures
      (submissions.regime Store) held (fun _ _ s log => call.Settled s log) s
      [write] := by
  obtain ⟨rest, elsewhere, same⟩ :=
    announces.appends type (some call.id) payload now
  rw [same]
  apply Program.secures_bind
  apply Program.secures_statement
  intro before shift input view answer effect accepted after further
  cases accepted
  have event := announcing (input.sequence + 1)
  have holds : call.Holds after ([write] ++ [⟨.event ⟨input.sequence + 1, type,
      some call.id, payload, now⟩, some .appended⟩]) := by
    obtain ⟨stands, silent⟩ := submitted_stands submits after
    rw [here] at stands
    refine ⟨⟨?_, ?_, ?_, ?_⟩, write, by simp, here⟩
    · have leaves : ∀ other ∈ [(⟨.event ⟨input.sequence + 1, type,
          some call.id, payload, now⟩, some .appended⟩ : Write)],
          submissions.Leaves (after.apply write) other := by
        intro other member
        rw [List.mem_singleton.mp member]
        exact leaves_event _ _ _
      have same := Registry.labels_of_leaves leaves (fun _ => rfl) call.rowKey
      exact same.trans stands
    · rw [fresh]
      intro duplicate
      cases duplicate
    · have first := submitted_of_submits submits
      rw [here] at first
      have second : Write.submitted ⟨.event ⟨input.sequence + 1, type,
          some call.id, payload, now⟩, some .appended⟩ = none := by
        simp [Write.submitted, Write.submits]
      rw [fresh, List.filterMap_append, List.filterMap_cons, first]
      simp [second]
    · rw [fresh, List.filterMap_append, List.filterMap_cons, silent]
      simp [event]
  refine Program.secures_mono (fun _ _ _ _ holds => holds.settled)
    (Program.Emits.secures ?_ ?_ (elsewhere _) holds)
  · exact fun _ _ _ kept holds => holds.shift kept
  · intro input effect s log view each holds
    apply holds.aside
    rw [← view]
    exact fun write member => (each write member).aside

theorem submission_settles (submission : Submission) {held : Bool}
    (s : Store) :
    (submission.code transaction).secures (submissions.regime Store) held
      (fun answer _ s log =>
        SubmitCall.Settled ⟨submission, answer.1, answer.2⟩ s log) s [] := by
  cases submission with
  | job request =>
      obtain ⟨statement, missing, lost, answer, same, inserts, answers⟩ :=
        announces.inserts.insertJob request
      apply Program.secures_map
      apply Program.secures_bind
      rw [same]
      refine insertOnce_secures inserts ?_ ?_
      · intro held s
        obtain ⟨named, fresh⟩ := answers request.row false
        simp only [fresh, Bool.false_eq_true, if_false]
        apply Program.secures_map
        simp only [named]
        exact @event_settles transaction announces
          ⟨.job request, request.row.id, (answer request.row false).duplicate⟩
          ⟨.job request.row, some .inserted⟩ _ _ _ fresh rfl rfl (fun _ => rfl)
          held s
      · intro held s s' key row keyed existing stays
        obtain ⟨named, duplicate⟩ := answers row true
        simp only [duplicate, if_true]
        intro final shift
        have listed : row ∈ s.jobs.rows := List.mem_of_find?_eq_some existing
        have chosen := List.find?_some existing
        simp only [Bool.and_eq_true, decide_eq_true_eq] at chosen
        rw [named]
        refine duplicate_settles duplicate keyed ?_
          (fun k => Registry.stays_trans k (stays k) (shift.env k))
        show (s.jobs.find? row.id).map JobRow.ticket =
          some ⟨.job, request.projectId, request.idempotencyKey⟩
        rw [KeyedTable.mem_rows_iff.mp listed, keyed]
        simp [JobRow.ticket, chosen]
  | session request =>
      obtain ⟨statement, missing, lost, answer, same, inserts, answers⟩ :=
        announces.inserts.insertSession request
      apply Program.secures_map
      apply Program.secures_bind
      rw [same]
      refine insertOnce_secures inserts ?_ ?_
      · intro held s
        obtain ⟨named, fresh⟩ := answers request.row false
        simp only [fresh, Bool.false_eq_true, if_false]
        apply Program.secures_map
        simp only [named]
        exact @event_settles transaction announces
          ⟨.session request, request.row.id, (answer request.row false).duplicate⟩
          ⟨.session request.row, some .inserted⟩ _ _ _ fresh rfl rfl (fun _ => rfl)
          held s
      · intro held s s' key row keyed existing stays
        obtain ⟨named, duplicate⟩ := answers row true
        simp only [duplicate, if_true]
        intro final shift
        have listed : row ∈ s.sessions.rows :=
          List.mem_of_find?_eq_some existing
        have chosen := List.find?_some existing
        simp only [Bool.and_eq_true, decide_eq_true_eq] at chosen
        rw [named]
        refine duplicate_settles duplicate keyed ?_
          (fun k => Registry.stays_trans k (stays k) (shift.env k))
        show (s.sessions.find? row.id).map SessionRow.ticket =
          some ⟨.session, request.projectId, request.idempotencyKey⟩
        rw [KeyedTable.mem_rows_iff.mp listed, keyed]
        simp [SessionRow.ticket, chosen]

end Settles

/-! ## Runs -/

/-- What a transaction of the control plane has done when it commits. -/
structure SubmissionSettled (transaction : Persistence) (code : Tx Unit)
    (s : Store) (log : List Write) : Prop where
  stays : Rowwise submissions.Stays s (applyAll s log)
  other : BeginsOther transaction code →
    log.filterMap Write.submitted = [] ∧ log.filterMap Write.announces = []
  call : ∀ call : SubmitCall, code = call.code transaction →
    call.Settled s log

section Sound

variable {transaction : Persistence} (announces : transaction.Announces)

include announces

theorem other_secures {code : Tx Unit} (begins : BeginsOther transaction code)
    (s : Store) :
    code.secures (submissions.regime Store) false
      (fun _ _ _ log => log.filterMap Write.submitted = [] ∧
        log.filterMap Write.announces = []) s [] := by
  refine Program.Emits.secures (fun _ _ _ _ kept => kept) ?_
    (other_aside announces begins) ⟨rfl, rfl⟩
  intro input effect s log view each none
  obtain ⟨submitted, announced⟩ := aside_none each
  rw [List.filterMap_append, List.filterMap_append, none.1, none.2, submitted,
    announced]
  exact ⟨rfl, rfl⟩

theorem call_secures (call : SubmitCall) (s : Store) :
    (call.code transaction).secures (submissions.regime Store) false
      (fun _ _ s log => call.Settled s log) s [] := by
  apply Program.secures_check
  refine Program.secures_mono ?_
    (submission_settles announces call.submission s)
  intro answer held s log settled value sent
  split at sent
  · next same =>
      rw [same] at settled
      exact settled
  · cases sent

theorem submitting_secures {code : Tx Unit}
    (begins : BeginsSubmitting transaction code) (s : Store) :
    code.secures (submissions.regime Store) false
      (fun _ _ s log => SubmissionSettled transaction code s log) s [] := by
  have stays := Registry.stays_secures (submitting_respects announces begins) s
  have others : code.secures (submissions.regime Store) false
      (fun _ _ _ log => ∀ _ : BeginsOther transaction code,
        log.filterMap Write.submitted = [] ∧
          log.filterMap Write.announces = []) s [] :=
    Program.secures_forall (fun begins => other_secures announces begins s)
  have calls : code.secures (submissions.regime Store) false
      (fun _ _ s log => ∀ made : { call : SubmitCall //
        code = call.code transaction }, made.1.Settled s log) s [] := by
    apply Program.secures_forall
    rintro ⟨call, rfl⟩
    exact call_secures announces call s
  refine Program.secures_mono ?_
    (Program.secures_and stays (Program.secures_and others calls))
  intro _ held s log established
  obtain ⟨stays, others, calls⟩ := established
  exact ⟨stays, others, fun call same => calls ⟨call, same⟩⟩

theorem submissions_sound :
    (submissions.regime Store).Sound (BeginsSubmitting transaction)
      (fun code _ s log => SubmissionSettled transaction code s log) where
  start _ begins s _ := submitting_secures announces begins s
  keeps _ _ _ _ _ _ _ := trivial
  moves _ _ _ _ _ _ settled := ⟨settled.stays, fun _ => settled.stays⟩

end Sound

/-- Transactions on SQLite one after the other, and the calls among them in the
order in which they commit. -/
inductive SerialSubmission :
    (Database.State × List Write) × List SubmitCall →
    (Database.State × List Write) × List SubmitCall → Prop where
  | answered {state : Database.State} {last : Nat} {history log : List Write}
      {calls : List SubmitCall} {call : SubmitCall} :
      (call.code sqlite).Records state.1 state.2 (.ok ()) log last →
      SerialSubmission ((state, history), calls)
        (((applyAll state.1 log, last), history ++ log), calls ++ [call])
  | other {before after : Database.State × List Write}
      {calls : List SubmitCall} :
      SerialRecord (BeginsOther sqlite) (fun _ _ => True) before after →
      SerialSubmission (before, calls) (after, calls)

/-- Steps of any number of replicas on one PostgreSQL database, and the calls
in the order in which they commit. -/
inductive ReplicatedSubmission (text : Collation) :
    Recorded Store Scan Write TxError × List SubmitCall →
    Recorded Store Scan Write TxError × List SubmitCall → Prop where
  | answered {before : Recorded Store Scan Write TxError} {after : Replicas}
      {calls : List SubmitCall} {call : SubmitCall} {held : Bool}
      {log : List Write} :
      Traced.Commits (call.code (postgres text)) held log before.traced after →
      ReplicatedSubmission text (before, calls)
        (⟨⟨after, before.traced.originAfter after⟩, before.history ++ log⟩,
          calls ++ [call])
  | other {before after : Recorded Store Scan Write TxError}
      {calls : List SubmitCall} :
      Recorded.Step (BeginsSubmitting (postgres text))
        (fun code _ => BeginsOther (postgres text) code) before after →
      ReplicatedSubmission text (before, calls) (after, calls)

/-- What runs from an empty schema come to on either engine: the tables, every
write that has been committed, and the calls whose transaction has. -/
inductive Submissions (text : Collation) :
    Store → List Write → List SubmitCall → Prop where
  | serial {state : Database.State} {history : List Write}
      {calls : List SubmitCall} :
      Relation.ReflTransGen SerialSubmission (((Store.empty, 0), []), [])
        ((state, history), calls) →
      Submissions text state.1 history calls
  | replicated {recorded : Recorded Store Scan Write TxError}
      {calls : List SubmitCall} :
      Relation.ReflTransGen (ReplicatedSubmission text)
        (Recorded.initial Store.empty, []) (recorded, calls) →
      Submissions text recorded.traced.cluster.committed recorded.history calls

/-! ## The ledger -/

/-- The calls that are no duplicates are what has been submitted and announced,
in this order; the row of every call stands. -/
structure Ledger (store : Store) (history : List Write)
    (calls : List SubmitCall) : Prop where
  keeps : submissions.Keeps store history
  submitted : history.filterMap Write.submitted =
    (calls.filter (fun call => !call.duplicate)).map
      (fun call => (call.rowKey, call.ticket))
  announced : history.filterMap Write.announces =
    (calls.filter (fun call => !call.duplicate)).map SubmitCall.rowKey
  stands : ∀ call ∈ calls,
    ticketAt call.rowKey (store.get call.rowKey) = some call.ticket
  named : ∀ call ∈ calls, call.duplicate = true →
    call.ticket.idempotencyKey ≠ none

theorem ledger_empty : Ledger Store.empty [] [] where
  keeps := by
    apply Registry.keeps_initial
    intro k
    cases k <;> rfl
  submitted := rfl
  announced := rfl
  stands call member := by cases member
  named call member := by cases member

section Step

variable {transaction : Persistence} {store : Store} {history log : List Write}
  {calls : List SubmitCall} {code : Tx Unit}

theorem Ledger.other (ledger : Ledger store history calls)
    (begins : BeginsOther transaction code)
    (keeps : submissions.Keeps (applyAll store log) (history ++ log))
    (settled : SubmissionSettled transaction code store log) :
    Ledger (applyAll store log) (history ++ log) calls := by
  obtain ⟨submitted, announced⟩ := settled.other begins
  refine ⟨keeps, ?_, ?_, ?_, ledger.named⟩
  · rw [List.filterMap_append, submitted, List.append_nil]
    exact ledger.submitted
  · rw [List.filterMap_append, announced, List.append_nil]
    exact ledger.announced
  · intro call member
    exact settled.stays call.rowKey call.ticket (ledger.stands call member)

theorem Ledger.answered {call : SubmitCall}
    (ledger : Ledger store history calls)
    (keeps : submissions.Keeps (applyAll store log) (history ++ log))
    (settled : SubmissionSettled transaction (call.code transaction) store
      log) :
    Ledger (applyAll store log) (history ++ log) (calls ++ [call]) := by
  have mine := settled.call call rfl
  refine ⟨keeps, ?_, ?_, ?_, ?_⟩
  · rw [List.filterMap_append, ledger.submitted, mine.submitted]
    cases fresh : call.duplicate <;> simp [fresh]
  · rw [List.filterMap_append, ledger.announced, mine.announced]
    cases fresh : call.duplicate <;> simp [fresh]
  · intro other member
    rcases List.mem_append.mp member with earlier | last
    · exact settled.stays other.rowKey other.ticket
        (ledger.stands other earlier)
    · rw [List.mem_singleton.mp last]
      exact mine.stands
  · intro other member
    rcases List.mem_append.mp member with earlier | last
    · exact ledger.named other earlier
    · rw [List.mem_singleton.mp last]
      exact mine.named

end Step

theorem ledger_serial {last : (Database.State × List Write) × List SubmitCall}
    (run : Relation.ReflTransGen SerialSubmission (((Store.empty, 0), []), [])
      last) : Ledger last.1.1.1 last.1.2 last.2 := by
  have commits : ∀ {code : Tx Unit} {s : Store} {sequence final : Nat}
      {history log : List Write}, BeginsSubmitting sqlite code →
      code.Records s sequence (.ok ()) log final →
      submissions.Keeps s history →
      submissions.Keeps (applyAll s log) (history ++ log) ∧
        SubmissionSettled sqlite code s log := by
    intro code s sequence final history log begins records keeps
    obtain ⟨_, settled⟩ := records.secured rfl rfl trivial
      (submitting_secures sqlite_announces begins s)
    exact ⟨Registry.keeps_records records
      (submitting_respects sqlite_announces begins) keeps, settled⟩
  induction run with
  | refl => exact ledger_empty
  | tail _ step ledger =>
      cases step with
      | @answered state _ _ _ _ call records =>
          obtain ⟨keeps, settled⟩ :=
            commits (Or.inr ⟨call, rfl⟩) records ledger.keeps
          exact ledger.answered keeps settled
      | other step =>
          cases step with
          | commit begins _ records =>
              obtain ⟨keeps, settled⟩ :=
                commits (Or.inl begins) records ledger.keeps
              exact ledger.other begins keeps settled

theorem ledger_replicated {text : Collation}
    {last : Recorded Store Scan Write TxError × List SubmitCall}
    (run : Relation.ReflTransGen (ReplicatedSubmission text)
      (Recorded.initial Store.empty, []) last) :
    Ledger last.1.traced.cluster.committed last.1.history last.2 := by
  have announces := postgres_announces text
  have invariant : Ledger last.1.traced.cluster.committed last.1.history
        last.2 ∧ submissions.Registered last.1 ∧
      Traced.Secured (submissions.regime Store)
        (BeginsSubmitting (postgres text))
        (fun code _ s log => SubmissionSettled (postgres text) code s log)
        last.1.traced := by
    induction run with
    | refl =>
        refine ⟨ledger_empty, Registry.registered_initial ?_,
          Traced.secured_initial trivial⟩
        intro k
        cases k <;> rfl
    | @tail middle next _ step induction =>
        obtain ⟨ledger, registered, secured⟩ := induction
        have recorded : ∃ allowed : Tx Unit → Store → Prop,
            Recorded.Step (BeginsSubmitting (postgres text)) allowed middle.1
              next.1 := by
          cases step with
          | answered commits =>
              exact ⟨fun _ _ => True, .commit trivial commits⟩
          | other step => exact ⟨_, step⟩
        obtain ⟨allowed, recorded⟩ := recorded
        have nextRegistered := Registry.registered_step submissions_locked
          (fun code begins => submitting_respects announces begins) recorded
          registered
        refine ⟨?_, nextRegistered,
          recorded.traced.secured (submissions_sound announces) secured⟩
        cases step with
        | answered commits =>
            have settled := (secured.commit commits).2
            have keeps := nextRegistered.keeps
            obtain ⟨name, _, _, _, rfl⟩ := commits
            exact ledger.answered keeps settled
        | other step =>
            cases step with
            | commit begins commits =>
                have settled := (secured.commit commits).2
                have keeps := nextRegistered.keeps
                obtain ⟨name, _, _, _, rfl⟩ := commits
                exact ledger.other begins keeps settled
            | other step silent =>
                have same := step.committed silent
                show Ledger _ _ _
                rw [same]
                exact ledger
  exact invariant.1

theorem Submissions.ledger {text : Collation} {store : Store}
    {history : List Write} {calls : List SubmitCall}
    (run : Submissions text store history calls) :
    Ledger store history calls := by
  cases run with
  | serial run => exact ledger_serial run
  | replicated run => exact ledger_replicated run

/-! ## One submission for each key -/

theorem SubjectKind.rowKey_inj {kind : SubjectKind} {id other : String}
    (same : kind.rowKey id = kind.rowKey other) : id = other := by
  cases kind <;> cases same <;> rfl

/-- Two submissions that are not of one row and not of one key. -/
def SubmittedApart (first second : RowKey × Ticket) : Prop :=
  first.1 ≠ second.1 ∧
    ∀ c, submissions.entry first.2 = some c → submissions.entry second.2 ≠ some c

theorem entry_of_key {ticket : Ticket} (named : ticket.idempotencyKey ≠ none) :
    ∃ c, submissions.entry ticket = some c := by
  obtain ⟨key, keyed⟩ := Option.ne_none_iff_exists'.mp named
  exact ⟨(ticket.kind, ticket.projectId, key), by
    show ticket.idempotencyKey.map _ = _
    rw [keyed]
    rfl⟩

namespace Ledger

variable {store : Store} {history : List Write} {calls : List SubmitCall}

theorem apart (ledger : Ledger store history calls) :
    (history.filterMap Write.submitted).Pairwise SubmittedApart := by
  apply List.pairwise_filterMap.mpr
  refine ledger.keeps.once.imp ?_
  intro first second apart submitted inserted other otherInserted
  obtain ⟨ticket, submits, rfl⟩ := Option.map_eq_some_iff.mp inserted
  obtain ⟨otherTicket, otherSubmits, rfl⟩ :=
    Option.map_eq_some_iff.mp otherInserted
  exact apart ticket otherTicket submits otherSubmits

/-- What stands with a ticket has been submitted. -/
theorem submitted_of_stands (ledger : Ledger store history calls)
    {k : RowKey} {ticket : Ticket}
    (stands : ticketAt k (store.get k) = some ticket) :
    (k, ticket) ∈ history.filterMap Write.submitted := by
  obtain ⟨write, member, submits, rfl⟩ := ledger.keeps.known k ticket stands
  exact List.mem_filterMap.mpr ⟨write, member, submitted_of_submits submits⟩

/-- The call that has submitted it. -/
theorem winner (ledger : Ledger store history calls) {k : RowKey}
    {ticket : Ticket}
    (submitted : (k, ticket) ∈ history.filterMap Write.submitted) :
    ∃ call ∈ calls, call.duplicate = false ∧ call.rowKey = k ∧
      call.ticket = ticket := by
  rw [ledger.submitted] at submitted
  obtain ⟨call, member, same⟩ := List.mem_map.mp submitted
  obtain ⟨listed, fresh⟩ := List.mem_filter.mp member
  cases same
  exact ⟨call, listed, by simpa using fresh, rfl, rfl⟩

/-- Calls that are no duplicates are apart. -/
theorem winners_apart (ledger : Ledger store history calls) :
    calls.Pairwise (fun first second => first.duplicate = false →
      second.duplicate = false →
      SubmittedApart (first.rowKey, first.ticket)
        (second.rowKey, second.ticket)) := by
  have apart := ledger.apart
  rw [ledger.submitted, List.pairwise_map, List.pairwise_filter] at apart
  refine apart.imp ?_
  intro first second apart fresh otherFresh
  exact apart (by simp [fresh]) (by simp [otherFresh])

end Ledger

/-- Exactly one element of the list has the property. -/
theorem countP_eq_one {α : Type} {l : List α} {p : α → Bool}
    {R : α → α → Prop} (pairwise : l.Pairwise R)
    (never : ∀ a b, p a = true → p b = true → ¬ R a b)
    (exists_one : ∃ a ∈ l, p a = true) : l.countP p = 1 := by
  induction l with
  | nil =>
      obtain ⟨a, member, _⟩ := exists_one
      cases member
  | cons head tail induction =>
      obtain ⟨first, rest⟩ := List.pairwise_cons.mp pairwise
      by_cases here : p head = true
      · have none : tail.countP p = 0 := by
          apply List.countP_eq_zero.mpr
          intro other member holds
          exact never head other here holds (first other member)
        rw [List.countP_cons_of_pos here, none]
      · rw [List.countP_cons_of_neg here]
        apply induction rest
        obtain ⟨a, member, holds⟩ := exists_one
        rcases List.mem_cons.mp member with rfl | later
        · exact absurd holds here
        · exact ⟨a, later, holds⟩

/-- What became of the calls with one ticket: all of them answer with one row,
which one of them inserted, with the only event of its kind. -/
structure SubmittedOnce (store : Store) (history : List Write)
    (calls : List SubmitCall) (ticket : Ticket) (id : String) : Prop where
  answers : ∀ call ∈ calls, call.ticket = ticket →
    call.id = id ∧ call.reread store = some id
  winner : calls.countP
    (fun call => call.ticket = ticket && !call.duplicate) = 1
  inserted : (history.filterMap Write.submitted).countP
    (fun submitted => submitted.2 = ticket) = 1
  row : ∀ other, ticketAt (ticket.kind.rowKey other)
    (store.get (ticket.kind.rowKey other)) = some ticket ↔ other = id
  announced : (history.filterMap Write.announces).count
    (ticket.kind.rowKey id) = 1

theorem SubmitCall.reread_of_stands {store : Store} {call : SubmitCall}
    (stands : ticketAt call.rowKey (store.get call.rowKey) =
      some call.ticket) : call.reread store = some call.id := by
  obtain ⟨submission, id, duplicate⟩ := call
  cases submission with
  | job request =>
      obtain ⟨row, found, _⟩ := Option.map_eq_some_iff.mp stands
      have stored : store.jobs.find? id = some row := found
      show (store.jobs.find? id).map JobRow.id = some id
      rw [stored]
      exact congrArg some (KeyedTable.key_of_find? stored)
  | session request =>
      obtain ⟨row, found, _⟩ := Option.map_eq_some_iff.mp stands
      have stored : store.sessions.find? id = some row := found
      show (store.sessions.find? id).map SessionRow.id = some id
      rw [stored]
      exact congrArg some (KeyedTable.key_of_find? stored)

theorem Ledger.submittedOnce {store : Store} {history : List Write}
    {calls : List SubmitCall} (ledger : Ledger store history calls)
    {call : SubmitCall} (member : call ∈ calls)
    (named : call.ticket.idempotencyKey ≠ none) :
    SubmittedOnce store history calls call.ticket call.id := by
  obtain ⟨c, entry⟩ := entry_of_key named
  have submitted := ledger.submitted_of_stands (ledger.stands call member)
  obtain ⟨winner, winnerMember, fresh, winnerKey, winnerTicket⟩ :=
    ledger.winner submitted
  have never : ∀ first second : RowKey × Ticket, first.2 = call.ticket →
      second.2 = call.ticket → ¬ SubmittedApart first second := by
    intro first second firstSame secondSame apart
    rw [SubmittedApart, firstSame, secondSame] at apart
    exact apart.2 c entry entry
  have only : ∀ k, ticketAt k (store.get k) = some call.ticket →
      k = call.rowKey := by
    intro k stands
    obtain ⟨write, inHistory, submits, rfl⟩ :=
      ledger.keeps.known k call.ticket stands
    obtain ⟨mine, mineInHistory, mineSubmits, sameKey⟩ :=
      ledger.keeps.known call.rowKey call.ticket (ledger.stands call member)
    have same := ledger.keeps.unique inHistory mineInHistory submits
      mineSubmits (Or.inr ⟨c, entry, entry⟩)
    rw [same]
    exact sameKey
  refine ⟨?_, ?_, ?_, ?_, ?_⟩
  · intro other otherMember same
    have stands := ledger.stands other otherMember
    have reread := SubmitCall.reread_of_stands stands
    rw [same] at stands
    have keys : other.ticket.kind.rowKey other.id =
        call.ticket.kind.rowKey call.id := only _ stands
    rw [same] at keys
    have ids := SubjectKind.rowKey_inj keys
    rw [ids] at reread
    exact ⟨ids, reread⟩
  · refine countP_eq_one ledger.winners_apart ?_
      ⟨winner, winnerMember, by simp [winnerTicket, fresh]⟩
    intro first second holds otherHolds apart
    simp only [Bool.and_eq_true, decide_eq_true_eq, Bool.not_eq_true']
      at holds otherHolds
    exact never _ _ holds.1 otherHolds.1 (apart holds.2 otherHolds.2)
  · refine countP_eq_one ledger.apart ?_ ⟨_, submitted, by simp⟩
    intro first second holds otherHolds
    exact never _ _ (by simpa using holds) (by simpa using otherHolds)
  · intro other
    constructor
    · intro stands
      exact SubjectKind.rowKey_inj (only _ stands)
    · rintro rfl
      exact ledger.stands call member
  · have keys : (history.filterMap Write.announces).Pairwise (· ≠ ·) := by
      have apart := ledger.apart
      rw [ledger.submitted, List.pairwise_map] at apart
      rw [ledger.announced, List.pairwise_map]
      exact apart.imp (fun apart => apart.1)
    have announced : call.rowKey ∈ history.filterMap Write.announces := by
      rw [ledger.announced]
      refine List.mem_map.mpr ⟨winner, ?_, winnerKey⟩
      exact List.mem_filter.mpr ⟨winnerMember, by simp [fresh]⟩
    exact List.count_eq_one_of_mem keys announced

/-- Calls that answer with the same row have the same project and key. -/
theorem Ledger.merged {store : Store} {history : List Write}
    {calls : List SubmitCall} (ledger : Ledger store history calls) :
    calls.Pairwise (fun first second => first.rowKey = second.rowKey →
      first.ticket = second.ticket ∧ first.ticket.idempotencyKey ≠ none) := by
  refine ledger.winners_apart.imp_of_mem ?_
  intro first second firstMember secondMember apart same
  have stands := ledger.stands first firstMember
  have otherStands := ledger.stands second secondMember
  rw [same, otherStands] at stands
  have tickets := (Option.some.inj stands).symm
  refine ⟨tickets, ?_⟩
  cases fresh : first.duplicate with
  | true => exact ledger.named first firstMember fresh
  | false =>
      cases otherFresh : second.duplicate with
      | true =>
          rw [tickets]
          exact ledger.named second secondMember otherFresh
      | false => exact absurd same (apart fresh otherFresh).1

/-- However submissions and everything else overlap on either engine, the calls
with one project and key come to one row, and no other calls to the same. -/
theorem idempotent_submission (text : Collation) {store : Store}
    {history : List Write} {calls : List SubmitCall}
    (run : Submissions text store history calls) :
    (∀ call ∈ calls, call.ticket.idempotencyKey ≠ none →
      SubmittedOnce store history calls call.ticket call.id) ∧
    calls.Pairwise (fun first second => first.rowKey = second.rowKey →
      first.ticket = second.ticket ∧
        first.ticket.idempotencyKey ≠ none) :=
  ⟨fun _ member named => run.ledger.submittedOnce member named,
    run.ledger.merged⟩

def sampleKeyedJob (id : String) : Submission :=
  .job { sampleJob id 1000 with idempotencyKey := some ⟨"key", by decide⟩ }

/-- Two calls with one key. -/
def sampleCalls : List SubmitCall :=
  [⟨sampleKeyedJob "job_1", "job_1", false⟩,
    ⟨sampleKeyedJob "job_2", "job_1", true⟩]

def sampleSubmissions : Database.State × List Write :=
  sampleCalls.foldl
    (fun state call => (call.code sqlite).recorded Scan.stored state)
    ((Store.empty, 0), [])

theorem submissions_sample (text : Collation) :
    Submissions text sampleSubmissions.1.1 sampleSubmissions.2 sampleCalls := by
  have step : ∀ (state : Database.State × List Write)
      (calls : List SubmitCall) (call : SubmitCall),
      ((call.code sqlite).recordAlone Scan.stored state.1.1 state.1.2).1 =
        .ok () →
      SerialSubmission (state, calls)
        ((call.code sqlite).recorded Scan.stored state, calls ++ [call]) := by
    rintro ⟨⟨s, sequence⟩, history⟩ calls call commits
    have records :=
      (call.code sqlite).records_recordAlone Scan.stored s sequence
    rw [commits] at records
    exact .answered records
  have first := step ((Store.empty, 0), []) []
    ⟨sampleKeyedJob "job_1", "job_1", false⟩ rfl
  exact .serial ((Relation.ReflTransGen.single first).tail (step _ _
    ⟨sampleKeyedJob "job_2", "job_1", true⟩ rfl))

theorem idempotent_submission_sample :
    (∀ call ∈ sampleCalls, call.ticket.idempotencyKey ≠ none →
      SubmittedOnce sampleSubmissions.1.1 sampleSubmissions.2 sampleCalls
        call.ticket call.id) ∧
    sampleCalls.Pairwise (fun first second => first.rowKey = second.rowKey →
      first.ticket = second.ticket ∧
        first.ticket.idempotencyKey ≠ none) :=
  idempotent_submission Collation.binary (submissions_sample Collation.binary)

end GpuLink
