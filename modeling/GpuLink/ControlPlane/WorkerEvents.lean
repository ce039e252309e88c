import GpuLink.ControlPlane.Chronicle
import GpuLink.Store.Emissions

/-!
# Worker events project the state of the workers

A registration tells that its worker is online and a pass which workers it
takes offline.  While a transaction tells of a worker it holds the worker's
row, so what is told of one worker is numbered in the order of the commits, and
the last event has the status that is stored.  A heartbeat tells nothing: it
has to find its worker online.
-/

namespace GpuLink

open Transactional Sql

/-! ## Liveness events -/

/-- The worker that a `worker.online` or `worker.offline` event is about, and
the status that it tells. -/
def EventRow.liveness (row : EventRow) : Option (String × WorkerStatus) :=
  match row.subjectId with
  | none => none
  | some id =>
      if row.type = "worker.online" then some (id, .online)
      else if row.type = "worker.offline" then some (id, .offline)
      else none

/-- The event that a write appends. -/
def Write.event? (write : Write) : Option EventRow :=
  match write.row with
  | .event row => some row
  | _ => none

def Write.liveness (write : Write) : Option (String × WorkerStatus) :=
  write.event?.bind EventRow.liveness

/-- Whoever tells of a worker holds its row. -/
def livenessReports : Reporting Write String RowKey where
  about write := write.liveness.map Prod.fst
  number write := (write.event?.map EventRow.sequence).getD 0
  guard := .worker

theorem livenessReports_about {write : Write} {id : String}
    {status : WorkerStatus} (tells : write.liveness = some (id, status)) :
    livenessReports.about write = some id := by
  show write.liveness.map Prod.fst = some id
  rw [tells]
  rfl

/-- The write tells of no worker. -/
def Write.Silent (write : Write) : Prop :=
  livenessReports.about write = none

/-- The write tells of no worker, and a worker row that it writes has the
status it had. -/
def Write.Quiet (view : Store) (write : Write) : Prop :=
  match write.row with
  | .worker row => ∃ old, view.workers.find? row.id = some old ∧
      old.status = row.status
  | .event row => row.liveness = none
  | _ => True

theorem Write.Elsewhere.quiet {view : Store} {write : Write}
    (elsewhere : write.Elsewhere view) : write.Quiet view := by
  obtain ⟨row, call⟩ := write
  cases row with
  | worker row => exact elsewhere
  | event row => exact elsewhere.elim
  | _ => trivial

theorem Write.Quiet.silent {view : Store} {write : Write}
    (quiet : write.Quiet view) : write.Silent := by
  obtain ⟨row, call⟩ := write
  cases row with
  | event row =>
      have untold : row.liveness = none := quiet
      show Option.map Prod.fst row.liveness = none
      rw [untold]
      rfl
  | _ => rfl

/-- Whatever worker the write tells of is one of these. -/
def Write.TellsOf (ids : List String) (write : Write) : Prop :=
  ∀ id, livenessReports.about write = some id → id ∈ ids

theorem Write.Silent.tellsOf {write : Write} (silent : write.Silent)
    (ids : List String) : write.TellsOf ids := by
  intro id about
  rw [silent] at about
  cases about

/-- An event of liveness is about its subject. -/
theorem liveness_subject {row : EventRow} {call : Option Call} {id : String}
    (about : livenessReports.about ⟨.event row, call⟩ = some id) :
    row.subjectId = some id := by
  have told : row.liveness.map Prod.fst = some id := about
  obtain ⟨⟨worker, status⟩, tells, rfl⟩ := Option.map_eq_some_iff.mp told
  unfold EventRow.liveness at tells
  split at tells
  · cases tells
  · next subject named =>
      rw [named]
      split at tells
      · cases tells
        rfl
      · split at tells
        · cases tells
          rfl
        · cases tells

theorem EachWrite.elsewhere_quiet {input : Input Store Scan}
    {effect : Effect Write} (each : EachWrite Write.Elsewhere input effect) :
    EachWrite Write.Quiet input effect :=
  fun write member => (each write member).quiet

/-- Quiet writes leave every worker the status it had. -/
theorem quiet_status {view s : Store} {writes : List Write}
    (each : ∀ write ∈ writes, write.Quiet view)
    (kept : ∀ id row, s.workers.find? id = some row →
      ∃ old, view.workers.find? id = some old ∧ old.status = row.status)
    {id : String} {row : WorkerRow}
    (found : (applyAll s writes).workers.find? id = some row) :
    ∃ old, view.workers.find? id = some old ∧ old.status = row.status := by
  induction writes generalizing s with
  | nil => exact kept id row found
  | cons write writes induction =>
      refine induction (fun other member =>
        each other (List.mem_cons_of_mem _ member)) ?_ found
      intro other left stored
      have quiet := each write List.mem_cons_self
      by_cases here : RowKey.worker other = write.key
      · obtain ⟨written, call⟩ := write
        cases written with
        | worker fresh =>
            cases RowKey.worker.inj here
            have left_here : (s.apply ⟨.worker fresh, call⟩).workers.find?
                fresh.id = some fresh :=
              Store.row?_apply_self s ⟨.worker fresh, call⟩
            have same : left = fresh :=
              Option.some.inj (stored.symm.trans left_here)
            rw [same]
            exact quiet
        | _ => cases here
      · have same : (s.apply write).row? (.worker other) =
            s.row? (.worker other) := Store.row?_apply_other s here
        exact kept other left (same.symm.trans stored)

/-! ## What is left to tell -/

theorem worker_of_get {left right : Store} {id : String}
    (same : RowStore.get left (RowKey.worker id) =
      RowStore.get right (RowKey.worker id)) :
    left.workers.find? id = right.workers.find? id :=
  congrArg Kept.row same

/-- The worker is left with the status that was told last; if nothing was told,
with the status it had. -/
def Settled (s : Store) (log : List Write) (id : String) : Prop :=
  ∀ row, (applyAll s log).workers.find? id = some row →
    (∃ write, livenessReports.Last log id write ∧
      write.liveness = some (id, row.status)) ∨
    ((∀ write ∈ log, livenessReports.about write ≠ some id) ∧
      ∃ old, s.workers.find? id = some old ∧ old.status = row.status)

/-- The transaction has given these workers the status and has to tell of them
yet; of all others it has told what there is. -/
structure Owes (status : WorkerStatus) (ids : List String) (s : Store)
    (log : List Write) : Prop where
  guarded : livenessReports.Guarded Store log
  owed : ∀ id ∈ ids,
    (∃ write ∈ log, RowStore.key Store write = RowKey.worker id) ∧
      ∀ row, (applyAll s log).workers.find? id = some row →
        row.status = status
  settled : ∀ id, id ∉ ids → Settled s log id

variable {status : WorkerStatus} {ids rest : List String} {s s' : Store}
  {log : List Write}

theorem owes_nothing : Owes status [] s [] where
  guarded := Reporting.guarded_nil
  owed := by
    intro id member
    cases member
  settled := by
    intro id _ row found
    refine Or.inr ⟨?_, row, found, rfl⟩
    intro write member
    cases member

/-- While the rows that the transaction has written are locked. -/
theorem Owes.shift (owes : Owes status ids s log)
    (kept : LocksKept log s s') : Owes status ids s' log := by
  have locked : ∀ id,
      (∃ write ∈ log, RowStore.key Store write = RowKey.worker id) →
      (applyAll s' log).workers.find? id = (applyAll s log).workers.find? id ∧
        s'.workers.find? id = s.workers.find? id := by
    intro id held
    have same := kept.row held
    exact ⟨worker_of_get (get_applyAll_congr same log), worker_of_get same⟩
  refine ⟨owes.guarded, ?_, ?_⟩
  · intro id member
    obtain ⟨held, told⟩ := owes.owed id member
    refine ⟨held, ?_⟩
    rw [(locked id held).1]
    exact told
  · intro id other row found
    by_cases held :
        ∃ write ∈ log, RowStore.key Store write = RowKey.worker id
    · rw [(locked id held).1] at found
      rw [(locked id held).2]
      exact owes.settled id other row found
    · -- nothing was told, for that would take the row
      refine Or.inr ⟨?_, row, ?_, rfl⟩
      · intro write member about
        exact held (owes.guarded write member id about)
      · have untouched : (applyAll s' log).workers.find? id =
            s'.workers.find? id := by
          apply worker_of_get
          apply get_applyAll_other
          exact fun write member same => held ⟨write, member, same.symm⟩
        rw [← untouched]
        exact found

theorem Owes.quiet {writes : List Write} (owes : Owes status ids s log)
    (each : ∀ write ∈ writes, write.Quiet (applyAll s log)) :
    Owes status ids s (log ++ writes) := by
  have silent : ∀ write ∈ writes, livenessReports.about write = none :=
    fun write member => (each write member).silent
  have untold : ∀ id, ∀ write ∈ writes,
      livenessReports.about write ≠ some id := by
    intro id write member about
    rw [silent write member] at about
    cases about
  have same : ∀ id row,
      (applyAll s (log ++ writes)).workers.find? id = some row →
      ∃ old, (applyAll s log).workers.find? id = some old ∧
        old.status = row.status := by
    intro id row found
    rw [applyAll_append] at found
    exact quiet_status each (fun _ row stored => ⟨row, stored, rfl⟩) found
  refine ⟨owes.guarded.append_silent silent, ?_, ?_⟩
  · intro id member
    obtain ⟨⟨write, held, locks⟩, told⟩ := owes.owed id member
    refine ⟨⟨write, List.mem_append_left _ held, locks⟩, ?_⟩
    intro row found
    obtain ⟨old, stored, unchanged⟩ := same id row found
    rw [← unchanged]
    exact told old stored
  · intro id other row found
    obtain ⟨old, stored, unchanged⟩ := same id row found
    rw [← unchanged]
    rcases owes.settled id other old stored with
      ⟨write, last, tells⟩ | ⟨none, before, had⟩
    · exact Or.inl ⟨write, last.append_silent (untold id), tells⟩
    · refine Or.inr ⟨?_, before, had⟩
      intro write member
      rcases List.mem_append.mp member with inLog | inWrites
      · exact none write inLog
      · exact untold id write inWrites

/-- Workers are given the status. -/
theorem Owes.write {rows : List WorkerRow} {call : Call}
    (owes : Owes status [] s log)
    (distinct : (rows.map WorkerRow.id).Nodup)
    (given : ∀ row ∈ rows, row.status = status) :
    Owes status (rows.map WorkerRow.id) s
      (log ++ rows.map (fun row => ⟨.worker row, some call⟩)) := by
  have silent : ∀ write ∈ rows.map
      (fun row => (⟨.worker row, some call⟩ : Write)), write.Silent := by
    intro write member
    obtain ⟨row, _, rfl⟩ := List.mem_map.mp member
    rfl
  have keys : (rows.map (fun row =>
      Write.key ⟨.worker row, some call⟩)).Nodup := by
    have mapped := distinct.map (fun _ _ same => RowKey.worker.inj same)
    rwa [List.map_map] at mapped
  refine ⟨owes.guarded.append_silent silent, ?_, ?_⟩
  · intro id member
    obtain ⟨row, listed, rfl⟩ := List.mem_map.mp member
    refine ⟨⟨_, List.mem_append_right _ (List.mem_map_of_mem listed), rfl⟩, ?_⟩
    intro stored found
    rw [applyAll_append] at found
    have written : Store.row? _ (.worker row.id) = some row :=
      row?_writes_mem keys listed (applyAll s log)
    rw [Option.some.inj (found.symm.trans written)]
    exact given row listed
  · intro id outside row found
    have untouched : Store.row? _ (.worker id) =
        (applyAll s log).row? (.worker id) :=
      @row?_writes_other _ RowWrite.worker (some call) rows (.worker id) (by
        intro other listed same
        exact outside (List.mem_map.mpr
          ⟨other, listed, (RowKey.worker.inj same).symm⟩)) (applyAll s log)
    rw [applyAll_append] at found
    have before : (applyAll s log).workers.find? id = some row :=
      untouched.symm.trans found
    rcases owes.settled id (List.not_mem_nil) row before with
      ⟨write, last, tells⟩ | ⟨none, old, had⟩
    · refine Or.inl ⟨write, last.append_silent ?_, tells⟩
      intro later member about
      rw [silent later member] at about
      cases about
    · refine Or.inr ⟨?_, old, had⟩
      intro write member
      rcases List.mem_append.mp member with inLog | inRows
      · exact none write inLog
      · intro about
        rw [silent write inRows] at about
        cases about

/-- One of the workers is told of. -/
theorem Owes.tell {id : String} {event : EventRow}
    (owes : Owes status (id :: rest) s log)
    (tells : event.liveness = some (id, status)) :
    Owes status rest s (log ++ [⟨.event event, some .appended⟩]) := by
  have about : livenessReports.about
      (⟨.event event, some .appended⟩ : Write) = some id :=
    livenessReports_about tells
  have same : ∀ other,
      (applyAll s (log ++ [(⟨.event event, some .appended⟩ : Write)])
        ).workers.find? other = (applyAll s log).workers.find? other := by
    intro other
    rw [applyAll_append]
    rfl
  refine ⟨?_, ?_, ?_⟩
  · apply owes.guarded.append_held
    intro write member subject reported
    rw [List.mem_singleton.mp member, about] at reported
    cases reported
    exact (owes.owed id List.mem_cons_self).1
  · intro other member
    obtain ⟨⟨write, held, locks⟩, told⟩ :=
      owes.owed other (List.mem_cons_of_mem _ member)
    refine ⟨⟨write, List.mem_append_left _ held, locks⟩, ?_⟩
    rw [same]
    exact told
  · intro other fresh row found
    rw [same] at found
    by_cases here : other = id
    · subst here
      refine Or.inl ⟨_, Reporting.last_append_report about, ?_⟩
      rw [(owes.owed other List.mem_cons_self).2 row found]
      exact tells
    · have outside : other ∉ id :: rest := by
        intro member
        rcases List.mem_cons.mp member with same | later
        · exact here same
        · exact fresh later
      have apart : ∀ write ∈ [(⟨.event event, some .appended⟩ : Write)],
          livenessReports.about write ≠ some other := by
        intro write member reported
        rw [List.mem_singleton.mp member, about] at reported
        exact here (Option.some.inj reported).symm
      rcases owes.settled other outside row found with
        ⟨write, last, told⟩ | ⟨none, before, had⟩
      · exact Or.inl ⟨write, last.append_silent apart, told⟩
      · refine Or.inr ⟨?_, before, had⟩
        intro write member
        rcases List.mem_append.mp member with inLog | inEvent
        · exact none write inLog
        · exact apart write inEvent

theorem quiet_secures {α : Type} {program : Tx α}
    (emits : program.Emits (EachWrite Write.Quiet)) {held : Bool}
    (owes : Owes status ids s log) :
    program.secures (Regime.free Store) held
      (fun _ _ s log => Owes status ids s log) s log := by
  refine Program.Emits.secures ?_ ?_ emits owes
  · intro before after log kept owes
    exact owes.shift kept
  · intro input effect before log view each owes
    apply owes.quiet
    rw [← view]
    exact each

/-! ## The methods that concern liveness -/

section Methods

/-- Silent statements have nothing to number. -/
theorem EachWrite.numbered {input : Input Store Scan} {effect : Effect Write}
    (each : EachWrite (fun _ => Write.Silent) input effect) :
    livenessReports.Numbered input effect :=
  Reporting.numbered_of_silent each

theorem EachWrite.elsewhere_numbered {input : Input Store Scan}
    {effect : Effect Write} (each : EachWrite Write.Elsewhere input effect) :
    livenessReports.Numbered input effect :=
  Reporting.numbered_of_silent
    (fun write member => (each write member).quiet.silent)

/-- An event takes the next number. -/
theorem insertEvent_numbered (type : String) (subjectId : Option String)
    (payload : Json) (now : Int) :
    (query (insertEvent type subjectId payload now)).Emits
      livenessReports.Numbered := by
  apply emits_query
  intro input answer effect accepted
  cases accepted
  refine ⟨List.pairwise_singleton _ _, ?_, ?_⟩
  · intro write member subject about
    rw [List.mem_singleton.mp member]
    exact Nat.le_refl _
  · intro write member subject about
    rw [List.mem_singleton.mp member]
    exact Nat.lt_succ_self _

variable {transaction : Persistence} (announces : transaction.Announces)

include announces

theorem appendEvent_numbered (type : String) (subjectId : Option String)
    (payload : Json) (now : Int) :
    (transaction.appendEvent type subjectId payload now).Emits
      livenessReports.Numbered := by
  obtain ⟨rest, elsewhere, same⟩ :=
    announces.appends type subjectId payload now
  rw [same]
  refine Program.Emits.bind (insertEvent_numbered _ _ _ _) (fun row => ?_)
  exact (elsewhere row).mono (fun _ _ each => each.elsewhere_numbered)

theorem appendEvent_quiet {type : String} {subjectId : Option String}
    {payload : Json} {now : Int}
    (untold : ∀ sequence,
      (⟨sequence, type, subjectId, payload, now⟩ : EventRow).liveness = none) :
    (transaction.appendEvent type subjectId payload now).Emits
      (EachWrite Write.Quiet) :=
  announces.appends.emits (fun _ _ elsewhere => elsewhere.quiet)
    (fun _ sequence => untold sequence)

/-- The event of a worker that has to be told of. -/
theorem appendEvent_tells {type id : String} {payload : Json} {now : Int}
    (tells : ∀ sequence,
      (⟨sequence, type, some id, payload, now⟩ : EventRow).liveness =
        some (id, status)) {held : Bool}
    (owes : Owes status (id :: rest) s log) :
    (transaction.appendEvent type (some id) payload now).secures
      (Regime.free Store) held
      (fun _ _ s log => Owes status rest s log) s log := by
  obtain ⟨after, elsewhere, same⟩ :=
    announces.appends type (some id) payload now
  rw [same]
  apply Program.secures_bind
  apply Program.secures_statement
  intro before shift input view answer effect accepted later further
  cases accepted
  have told := ((owes.shift shift.locks).tell (tells _)).shift further.locks
  exact quiet_secures
    ((elsewhere _).mono (fun _ _ each => each.elsewhere_quiet)) told

theorem appendEvent_tellsOf {type id : String} {payload : Json} {now : Int}
    (listed : id ∈ ids) :
    (transaction.appendEvent type (some id) payload now).Emits
      (EachWrite (fun _ => Write.TellsOf ids)) := by
  apply announces.appends.emits
  · exact fun _ _ elsewhere => elsewhere.quiet.silent.tellsOf ids
  · intro view sequence other about
    cases liveness_subject about
    exact listed

end Methods

/-! ## The transactions -/

/-- The engine without the methods that concern liveness. -/
def Persistence.withoutLiveness (transaction : Persistence) : Persistence :=
  transaction.replacing (fun _ => throw .typeError)
    (fun _ _ => throw .typeError) transaction.insertJob
    transaction.insertSession
    (fun type subjectId payload now =>
      if type = "worker.online" ∨ type = "worker.offline" then
        throw .typeError
      else transaction.appendEvent type subjectId payload now)

/-- Registrations and heartbeats. -/
def Service.Request.concernsLiveness : Service.Request → Bool
  | .registerWorker _ | .heartbeatWorker _ _ => true
  | _ => false

theorem code_withoutLiveness {transaction : Persistence}
    {leaseDurationMs : Int} {request : Service.Request}
    (other : request.concernsLiveness = false) :
    request.code transaction leaseDurationMs =
      request.code transaction.withoutLiveness leaseDurationMs := by
  cases request with
  | registerWorker worker => cases other
  | heartbeatWorker workerId heartbeat => cases other
  | setWorkerDrain workerId drain now => cases drain <;> rfl
  | finishJob jobId lease outcome result error now => cases outcome <;> rfl
  | _ => rfl

theorem untold_of_type {type : String}
    (other : ¬ (type = "worker.online" ∨ type = "worker.offline"))
    (subjectId : Option String) (payload : Json) (now : Int)
    (sequence : Nat) :
    (⟨sequence, type, subjectId, payload, now⟩ : EventRow).liveness = none := by
  simp only [not_or] at other
  cases subjectId with
  | none => rfl
  | some id => simp [EventRow.liveness, other.1, other.2]

section Transactions

open Scheduler

variable {transaction : Persistence} (announces : transaction.Announces)
  (settings : SchedulerSettings)

section Quiet

include announces

/-- Every other request leaves the workers the status they have, and tells of
none. -/
theorem request_quiet {leaseDurationMs : Int} {request : Service.Request}
    (other : request.concernsLiveness = false) :
    (request.code transaction leaseDurationMs).Emits
      (EachWrite Write.Quiet) := by
  have serves : transaction.withoutLiveness.Serves
      (.emits (EachWrite Write.Quiet)) transaction.withoutLiveness := by
    refine announces.elsewhere.serves ?_ ?_ ?_ ?_ ?_ ?_ _
    · exact fun _ _ each => each.elsewhere_quiet
    · exact fun _ => trivial
    · exact fun _ _ => trivial
    · exact fun job => announces.inserts.job_emits (fun _ => each_nothing)
        job (fun _ _ _ => each_single trivial)
    · exact fun session => announces.inserts.session_emits
        (fun _ => each_nothing) session (fun _ _ _ => each_single trivial)
    · intro type subjectId payload now
      split
      · trivial
      · next other =>
          exact appendEvent_quiet announces (untold_of_type other _ _ _)
  rw [code_withoutLiveness other]
  exact serves.request leaseDurationMs request

end Quiet

section Numbered

include announces

theorem recoverAndPlace_quiet (input : PassInput) (ids : List String) :
    (recoverAndPlace transaction settings input ids).Emits
      (EachWrite Write.Quiet) := by
  apply recoverAndPlace_emits announces.elsewhere
  · exact fun _ _ each => each.elsewhere_quiet
  · intro type recovery subjectId payload now
    apply appendEvent_quiet announces
    apply untold_of_type
    rintro (rfl | rfl) <;> simp [recoveryEvents] at recovery

/-- Every transaction numbers what it tells with what it draws. -/
theorem code_numbered (work : Service.Transaction) :
    (work.code transaction settings).Emits livenessReports.Numbered := by
  have wider : ∀ input effect, EachWrite Write.Elsewhere input effect →
      livenessReports.Numbered input effect :=
    fun _ _ each => each.elsewhere_numbered
  have silent : ∀ {α : Type} {program : Tx α},
      program.Emits (EachWrite (fun _ => Write.Silent)) →
      program.Emits livenessReports.Numbered :=
    fun emits => emits.mono (fun _ _ each => each.numbered)
  have serves : transaction.Serves (.emits livenessReports.Numbered)
      transaction := by
    refine announces.elsewhere.serves wider ?_ ?_ ?_ ?_ ?_ _
    · exact fun worker =>
        silent (upsertWorker_emits announces worker (fun _ _ => rfl))
    · exact fun workerId heartbeat => silent
        (updateWorkerHeartbeat_emits announces workerId heartbeat
          (fun _ _ => rfl))
    · exact fun job => silent (announces.inserts.job_emits
        (fun _ => each_nothing) job (fun _ _ _ => each_single rfl))
    · exact fun session => silent (announces.inserts.session_emits
        (fun _ => each_nothing) session (fun _ _ _ => each_single rfl))
    · exact appendEvent_numbered announces
  have schedules : transaction.Schedules (.emits livenessReports.Numbered)
      transaction := by
    refine announces.elsewhere.schedules wider ?_ ?_ _
    · exact fun staleBefore now => silent
        (markStaleWorkersOffline_emits announces staleBefore now
          (fun _ _ => rfl))
    · exact appendEvent_numbered announces
  exact Persistence.transaction_related serves schedules settings work

end Numbered

/-! ### What is settled when a transaction commits -/

/-- The worker is put online, and has to be told of. -/
theorem upsertWorker_owes (worker : WorkerRegistration) {held : Bool} :
    (Database.upsertWorker worker).secures (Regime.free Store) held
      (fun result _ s log => Owes .online [result.id] s log) s [] := by
  have online : ∀ (row : WorkerRow) (s : Store), row.status = .online →
      Owes .online [row.id] s ([] ++ [⟨.worker row, some .registered⟩]) := by
    intro row s status
    have written := @Owes.write .online s [] [row] .registered owes_nothing
      (List.nodup_singleton _) (by
        intro other member
        rw [List.mem_singleton.mp member]
        exact status)
    exact written
  apply Program.secures_bind
  apply Program.secures_statement
  intro before shift input view answer effect accepted later further
  unfold upsert at accepted
  split at accepted
  · next old present =>
      cases accepted
      intro last final
      exact ((online _ before rfl).shift further.locks).shift final.locks
  · split at accepted
    · cases accepted
    · cases accepted
      intro last final
      exact ((online _ before rfl).shift further.locks).shift final.locks

/-- A worker that was online stays online. -/
theorem updateWorkerHeartbeat_settles (workerId : String)
    (heartbeat : Heartbeat) {held : Bool} :
    (Database.updateWorkerHeartbeat workerId heartbeat).secures
      (Regime.free Store) held
      (fun _ _ s log => (∀ row, s.workers.find? workerId = some row →
        row.status = .online) → Owes .online [] s log) s [] := by
  apply Program.secures_map
  apply Program.secures_statement
  intro before shift input view answer effect accepted later further online
  unfold update at accepted
  split at accepted
  · cases accepted
    exact owes_nothing
  · next old found =>
      cases accepted
      have atId : old.id = workerId := KeyedTable.key_of_find? found
      have there : before.workers.find? old.id = some old := by
        rw [view] at found
        rw [atId]
        exact found
      have locked : later.workers.find? old.id = before.workers.find? old.id :=
        worker_of_get (further.locks _ (List.mem_singleton_self _))
      have still : later.workers.find? old.id = some old :=
        locked.trans there
      apply owes_nothing.quiet
      intro write member
      rw [List.mem_singleton.mp member]
      refine ⟨old, still, ?_⟩
      rw [← atId] at online
      exact online old still

theorem markStaleWorkersOffline_owes {staleBefore now : Int} {held : Bool}
    (owes : Owes .offline [] s log) :
    (Database.markStaleWorkersOffline staleBefore now).secures
      (Regime.free Store) held
      (fun ids _ s log => Owes .offline ids s log) s log := by
  apply Program.secures_map
  apply Program.secures_statement
  intro before shift input view answer effect accepted later further
  cases accepted
  have stale : ∀ rows : List WorkerRow, (rows.map WorkerRow.id).Nodup →
      Owes .offline (rows.map WorkerRow.id) before (log ++
        rows.map (fun row => ⟨.worker { row with
          status := .offline, updatedAt := now }, some .markedOffline⟩)) := by
    intro rows distinct
    have written := @Owes.write .offline before log
      (rows.map (fun row => { row with status := .offline, updatedAt := now }))
      .markedOffline (owes.shift shift.locks) (by
        rw [List.map_map]
        exact distinct) (by
        intro row member
        obtain ⟨old, _, rfl⟩ := List.mem_map.mp member
        rfl)
    rw [List.map_map, List.map_map] at written
    exact written
  have marked := (stale _
    (selectWorkers_ids_nodup input.view input.order _)).shift further.locks
  rw [List.map_map]
  exact marked

section Settles

include announces

theorem registerWorker_settles (worker : WorkerRegistration) (s : Store) :
    (Service.registerWorker transaction worker).secures (Regime.free Store)
      false (fun _ _ s log => Owes .online [] s log) s [] := by
  apply Program.secures_bind
  rw [announces.upsertWorker]
  refine Program.secures_mono ?_ (upsertWorker_owes worker)
  intro result held s log owes
  apply Program.secures_map
  apply appendEvent_tells announces _ owes
  intro sequence
  rfl

theorem heartbeatWorker_settles (workerId : String) (heartbeat : Heartbeat)
    (s : Store) :
    (Service.heartbeatWorker transaction workerId heartbeat).secures
      (Regime.free Store) false
      (fun _ _ s log => (∀ row, s.workers.find? workerId = some row →
        row.status = .online) → Owes .online [] s log) s [] := by
  apply Program.secures_bind
  rw [announces.updateWorkerHeartbeat]
  refine Program.secures_mono ?_
    (Program.secures_stably (updateWorkerHeartbeat_settles workerId heartbeat))
  intro worker held s log settles
  cases worker with
  | none => trivial
  | some worker => exact settles

theorem reportStale_settles (now : Int) (ids : List String) {held : Bool}
    (owes : Owes .offline ids s log) :
    (reportStale transaction now ids).secures (Regime.free Store) held
      (fun _ _ s log => Owes .offline [] s log) s log := by
  induction ids generalizing held s log with
  | nil => exact fun _ shift => owes.shift shift.locks
  | cons id rest induction =>
      apply Program.secures_bind
      refine Program.secures_mono ?_ (appendEvent_tells announces ?_ owes)
      · intro _ held s log fewer
        exact induction fewer
      · intro sequence
        rfl

theorem runOnce_settles (input : PassInput) (s : Store) :
    (runOnce transaction settings input).secures (Regime.free Store) false
      (fun _ _ s log => Owes .offline [] s log) s [] := by
  apply Program.secures_bind
  have quiet : transaction.tryAcquireSchedulerLock.secures
      (Regime.free Store) false (fun _ _ s log => Owes .offline [] s log)
      s [] :=
    quiet_secures (announces.elsewhere.tryAcquireSchedulerLock.mono
      (fun _ _ each => each.elsewhere_quiet)) owes_nothing
  refine Program.secures_mono ?_ quiet
  intro acquired held s log owes
  cases acquired with
  | false => exact fun _ shift => owes.shift shift.locks
  | true =>
      show (lockedPass transaction settings input).secures _ _ _ _ _
      rw [lockedPass_eq, announces.markStaleWorkersOffline]
      apply Program.secures_bind
      refine Program.secures_mono ?_ (markStaleWorkersOffline_owes owes)
      intro ids held s log owes
      apply Program.secures_bind
      refine Program.secures_mono ?_
        (reportStale_settles announces input.now ids owes)
      intro _ held s log settled
      exact quiet_secures (recoverAndPlace_quiet announces settings input ids)
        settled

end Settles

/-! ### Whose row is held while a worker is told of -/

/-- The rows of these workers are written, and of every worker told of. -/
def Covers (ids : List String) (log : List Write) : Prop :=
  livenessReports.Guarded Store log ∧
    ∀ id ∈ ids, ∃ write ∈ log, RowStore.key Store write = RowKey.worker id

theorem covers_nothing : Covers [] [] :=
  ⟨Reporting.guarded_nil, fun _ member => absurd member List.not_mem_nil⟩

/-- Code that tells of covered workers only. -/
theorem covered_logs {α : Type} {program : Tx α}
    (emits : program.Emits (EachWrite (fun _ => Write.TellsOf ids)))
    (covers : Covers ids log) :
    program.Logs (livenessReports.Guarded Store)
      (fun _ log => Covers ids log) log := by
  refine Program.Logs.mono (fun _ kept => kept.1) (fun _ _ kept => kept)
    (Program.Emits.logs ?_ emits covers)
  intro input effect log each covers
  refine ⟨covers.1.append_held ?_, ?_⟩
  · intro write member id about
    exact covers.2 id (each write member id about)
  · intro id listed
    obtain ⟨write, member, locks⟩ := covers.2 id listed
    exact ⟨write, List.mem_append_left _ member, locks⟩

theorem EachWrite.silent_tellsOf {input : Input Store Scan}
    {effect : Effect Write} (each : EachWrite (fun _ => Write.Silent) input effect)
    (ids : List String) : EachWrite (fun _ => Write.TellsOf ids) input effect :=
  fun write member => (each write member).tellsOf ids

theorem EachWrite.quiet_tellsOf {input : Input Store Scan}
    {effect : Effect Write} (each : EachWrite Write.Quiet input effect)
    (ids : List String) : EachWrite (fun _ => Write.TellsOf ids) input effect :=
  fun write member => (each write member).silent.tellsOf ids

theorem upsertWorker_covers (worker : WorkerRegistration) :
    (Database.upsertWorker worker).Logs (livenessReports.Guarded Store)
      (fun result log => Covers [result.id] log) [] := by
  have covers : ∀ row : WorkerRow,
      Covers [row.id] ([] ++ [⟨.worker row, some .registered⟩]) := by
    intro row
    refine ⟨Reporting.guarded_nil.append_silent ?_, ?_⟩
    · intro write member
      rw [List.mem_singleton.mp member]
      rfl
    · intro id member
      rw [List.mem_singleton.mp member]
      exact ⟨_, List.mem_singleton_self _, rfl⟩
  refine ⟨Reporting.guarded_nil, ?_⟩
  intro input answer effect accepted
  unfold upsert at accepted
  split at accepted
  · next old present =>
      cases accepted
      exact ⟨(covers _).1, covers _⟩
  · split at accepted
    · cases accepted
    · cases accepted
      exact ⟨(covers _).1, covers _⟩

theorem markStaleWorkersOffline_covers {staleBefore now : Int}
    (guarded : livenessReports.Guarded Store log) :
    (Database.markStaleWorkersOffline staleBefore now).Logs
      (livenessReports.Guarded Store) (fun ids log => Covers ids log) log := by
  refine ⟨guarded, ?_⟩
  intro input answer effect accepted
  cases accepted
  have covers : ∀ rows : List WorkerRow,
      Covers ((rows.map (fun row => (row, { row with
          status := WorkerStatus.offline, updatedAt := now }))).map
            (fun row => row.2.id))
        (log ++ rows.map (fun row => ⟨.worker { row with
          status := .offline, updatedAt := now }, some .markedOffline⟩)) := by
    intro rows
    refine ⟨guarded.append_silent ?_, ?_⟩
    · intro write member
      obtain ⟨row, _, rfl⟩ := List.mem_map.mp member
      rfl
    · intro id member
      rw [List.map_map] at member
      obtain ⟨row, listed, rfl⟩ := List.mem_map.mp member
      exact ⟨_, List.mem_append_right _ (List.mem_map_of_mem listed), rfl⟩
  exact ⟨(covers _).1, covers _⟩

section Logs

include announces

theorem reportStale_tellsOf (now : Int) (workerIds : List String)
    (listed : ∀ id ∈ workerIds, id ∈ ids) :
    (reportStale transaction now workerIds).Emits
      (EachWrite (fun _ => Write.TellsOf ids)) := by
  induction workerIds with
  | nil => trivial
  | cons id rest induction =>
      refine Program.Emits.bind
        (appendEvent_tellsOf announces (listed id List.mem_cons_self)) ?_
      intro _
      exact induction (fun other member =>
        listed other (List.mem_cons_of_mem _ member))

theorem registerWorker_logs (worker : WorkerRegistration) :
    (Service.registerWorker transaction worker).Logs
      (livenessReports.Guarded Store)
      (fun _ log => livenessReports.Guarded Store log) [] := by
  apply Program.Logs.bind
  rw [announces.upsertWorker]
  refine Program.Logs.mono (fun _ kept => kept) ?_ (upsertWorker_covers worker)
  intro result log covers
  refine Program.Logs.mono (fun _ kept => kept) (fun _ _ kept => kept.1)
    (covered_logs ?_ covers)
  exact emits_mapped (appendEvent_tellsOf announces List.mem_cons_self)

theorem runOnce_logs (input : PassInput) :
    (runOnce transaction settings input).Logs (livenessReports.Guarded Store)
      (fun _ log => livenessReports.Guarded Store log) [] := by
  apply Program.Logs.bind
  have locks : transaction.tryAcquireSchedulerLock.Logs
      (livenessReports.Guarded Store) (fun _ log => Covers [] log) [] :=
    covered_logs (announces.elsewhere.tryAcquireSchedulerLock.mono
      (fun _ _ each => each.elsewhere_quiet.quiet_tellsOf [])) covers_nothing
  refine Program.Logs.mono (fun _ kept => kept) ?_ locks
  intro acquired log covers
  cases acquired with
  | false => exact ⟨covers.1, covers.1⟩
  | true =>
      show (lockedPass transaction settings input).Logs _ _ _
      rw [lockedPass_eq, announces.markStaleWorkersOffline]
      apply Program.Logs.bind
      refine Program.Logs.mono (fun _ kept => kept) ?_
        (markStaleWorkersOffline_covers covers.1)
      intro ids log covers
      refine Program.Logs.mono (fun _ kept => kept) (fun _ _ kept => kept.1)
        (covered_logs ?_ covers)
      refine Program.Emits.bind
        (reportStale_tellsOf announces input.now ids (fun _ member => member))
        ?_
      intro _
      exact (recoverAndPlace_quiet announces settings input ids).mono
        (fun _ _ each => each.quiet_tellsOf ids)

theorem code_logs (work : Service.Transaction) :
    (work.code transaction settings).Logs (livenessReports.Guarded Store)
      (fun _ _ => True) [] := by
  have silent : ∀ {program : Tx Unit},
      program.Emits (EachWrite (fun _ => Write.TellsOf [])) →
      program.Logs (livenessReports.Guarded Store) (fun _ _ => True) [] :=
    fun emits => Program.Logs.mono (fun _ kept => kept) (fun _ _ _ => trivial)
      (covered_logs emits covers_nothing)
  cases work with
  | pass input =>
      apply Program.Logs.bind
      refine Program.Logs.mono (fun _ kept => kept) ?_
        (runOnce_logs announces settings input)
      intro _ log guarded
      exact ⟨guarded, trivial⟩
  | request request =>
      by_cases concerns : request.concernsLiveness
      · cases request with
        | registerWorker worker =>
            apply Program.Logs.bind
            refine Program.Logs.mono (fun _ kept => kept) ?_
              (registerWorker_logs announces worker)
            intro _ log guarded
            exact ⟨guarded, trivial⟩
        | heartbeatWorker workerId heartbeat =>
            apply silent
            refine Program.Emits.bind (Program.Emits.bind ?_ ?_)
              (fun _ => trivial)
            · have silent : (transaction.updateWorkerHeartbeat workerId
                    heartbeat).Emits (EachWrite (fun _ => Write.Silent)) :=
                updateWorkerHeartbeat_emits announces workerId heartbeat
                  (fun _ _ => rfl)
              exact silent.mono (fun _ _ each => each.silent_tellsOf [])
            · intro worker
              cases worker <;> trivial
        | _ => cases concerns
      · apply silent
        have other : request.concernsLiveness = false := by
          simpa using concerns
        exact (request_quiet announces other).mono
          (fun _ _ each => each.quiet_tellsOf [])

end Logs

end Transactions

/-! ## Runs -/

/-- A heartbeat finds its worker online. -/
def HeartbeatFindsOnline (work : Service.Transaction) (store : Store) : Prop :=
  match work with
  | .request (.heartbeatWorker workerId _) =>
      ∀ row, store.workers.find? workerId = some row → row.status = .online
  | _ => True

/-- What a transaction has settled when it commits. -/
def Settles (transaction : Persistence) (code : Tx Unit) (s : Store)
    (log : List Write) : Prop :=
  Permitted transaction HeartbeatFindsOnline code s → ∀ id, Settled s log id

theorem Owes.settles (owes : Owes status [] s log) (id : String) :
    Settled s log id :=
  owes.settled id List.not_mem_nil

theorem code_settles {transaction : Persistence}
    (announces : transaction.Announces) (settings : SchedulerSettings)
    (work : Service.Transaction) (s : Store) :
    (work.code transaction settings).secures (Regime.free Store) false
      (fun _ _ s log => HeartbeatFindsOnline work s →
        ∀ id, Settled s log id) s [] := by
  cases work with
  | pass input =>
      apply Program.secures_map
      refine Program.secures_mono ?_
        (runOnce_settles announces settings input s)
      exact fun _ _ _ _ owes _ => owes.settles
  | request request =>
      by_cases concerns : request.concernsLiveness
      · cases request with
        | registerWorker worker =>
            apply Program.secures_map
            refine Program.secures_mono ?_
              (registerWorker_settles announces worker s)
            exact fun _ _ _ _ owes _ => owes.settles
        | heartbeatWorker workerId heartbeat =>
            apply Program.secures_map
            refine Program.secures_mono ?_
              (heartbeatWorker_settles announces workerId heartbeat s)
            exact fun _ _ _ _ owes online => (owes online).settles
        | _ => cases concerns
      · have other : request.concernsLiveness = false := by
          simpa using concerns
        have owes : Owes .online [] s [] := owes_nothing
        refine Program.secures_mono ?_
          (quiet_secures (request_quiet announces other) owes)
        exact fun _ _ _ _ owes _ => owes.settles

theorem begins_settles {transaction : Persistence}
    (announces : transaction.Announces) {code : Tx Unit} (s : Store) :
    code.secures (Regime.free Store) false
      (fun _ _ s log => Settles transaction code s log) s [] := by
  by_cases begins : Service.Begins transaction code
  · have each : ∀ made : { made : SchedulerSettings × Service.Transaction //
          code = made.2.code transaction made.1 },
        code.secures (Regime.free Store) false
          (fun _ _ s log => HeartbeatFindsOnline made.1.2 s →
            ∀ id, Settled s log id) s [] := by
      intro ⟨⟨settings, work⟩, same⟩
      have settles := code_settles announces settings work s
      have same : code = work.code transaction settings := same
      rw [← same] at settles
      exact settles
    refine Program.secures_mono ?_ (Program.secures_forall each)
    intro _ held s log settled permitted
    obtain ⟨settings, work, same, online⟩ := permitted
    exact settled ⟨(settings, work), same⟩ online
  · refine Program.secures_mono ?_ (code.secures_trivial false s [])
    intro _ held s log _ permitted
    obtain ⟨settings, work, same, _⟩ := permitted
    exact (begins ⟨settings, work, same⟩).elim

/-- Of every worker the last thing told is the status that is stored. -/
def Told (store : Store) (history : List Write) : Prop :=
  ∀ id row, store.workers.find? id = some row →
    ∃ write, livenessReports.Last history id write ∧
      write.liveness = some (id, row.status)

theorem Told.commit {history : List Write} (told : Told s history)
    (settled : ∀ id, Settled s log id) :
    Told (applyAll s log) (history ++ log) := by
  intro id row found
  rcases settled id row found with ⟨write, last, tells⟩ | ⟨none, old, had, same⟩
  · exact ⟨write, last.prepend history, tells⟩
  · obtain ⟨write, last, tells⟩ := told id old had
    rw [← same]
    exact ⟨write, last.append_silent none, tells⟩

theorem told_empty : Told Store.empty [] := by
  intro id row found
  cases found

theorem begins_orderly {transaction : Persistence}
    (announces : transaction.Announces) :
    livenessReports.Orderly (S := Store) (Service.Begins transaction) := by
  rintro code ⟨settings, work, rfl⟩
  exact ⟨code_numbered announces settings work,
    code_logs announces settings work⟩

theorem told_serial {last : Database.State × List Write}
    (run : SerialChronicle HeartbeatFindsOnline ((Store.empty, 0), []) last) :
    Told last.1.1 last.2 ∧ livenessReports.Ascending last.2 ∧
      livenessReports.UpTo last.1.2 last.2 := by
  induction run with
  | refl => exact ⟨told_empty, Reporting.ascending_nil, Reporting.upTo_nil _⟩
  | tail _ step induction =>
      obtain ⟨told, ascending, bounded⟩ := induction
      cases step with
      | commit begins permitted records =>
          obtain ⟨settings, work, rfl⟩ := begins
          obtain ⟨_, settled⟩ := records.secured rfl rfl trivial
            (begins_settles sqlite_announces _)
          exact ⟨told.commit (settled permitted),
            records.ascending (code_numbered sqlite_announces settings work)
              ascending bounded⟩

theorem told_replicated {text : Collation}
    {last : Recorded Store Scan Write TxError}
    (run : ReplicatedChronicle text HeartbeatFindsOnline
      (Recorded.initial Store.empty) last) :
    Told last.traced.cluster.committed last.history := by
  induction run with
  | refl => exact told_empty
  | tail run step induction =>
      have secured := Traced.secured
        (Regime.sound_free (fun code _ s =>
          begins_settles (postgres_announces text) s))
        (Recorded.Steps.traced run) (Traced.secured_initial trivial)
      cases step with
      | commit permitted commits =>
          have settles := (secured.commit commits).2
          obtain ⟨name, _, _, _, rfl⟩ := commits
          exact induction.commit (settles permitted)
      | other step silent =>
          have same := step.committed silent
          show Told _ _
          rw [same]
          exact induction

/-- The last liveness event of every worker tells the status that is stored. -/
def LivenessProjected (store : Store) (history : List Write) : Prop :=
  ∀ worker ∈ store.workers.rows,
    ∃ event ∈ history.filterMap Write.event?,
      event.liveness = some (worker.id, worker.status) ∧
      ∀ other ∈ history.filterMap Write.event?, ∀ status,
        other.liveness = some (worker.id, status) →
        other = event ∨ other.sequence < event.sequence

theorem Told.projected {store : Store} {history : List Write}
    (told : Told store history)
    (ascending : livenessReports.Ascending history) :
    LivenessProjected store history := by
  intro worker listed
  obtain ⟨write, last, tells⟩ :=
    told worker.id worker (KeyedTable.mem_rows_iff.mp listed)
  have appends : ∃ event, write.event? = some event ∧
      event.liveness = some (worker.id, worker.status) :=
    Option.bind_eq_some_iff.mp tells
  obtain ⟨event, appended, eventTells⟩ := appends
  refine ⟨event, List.mem_filterMap.mpr ⟨write, last.mem, appended⟩,
    eventTells, ?_⟩
  intro other member status otherTells
  obtain ⟨otherWrite, otherMember, otherAppended⟩ :=
    List.mem_filterMap.mp member
  have about : livenessReports.about otherWrite = some worker.id := by
    apply livenessReports_about
    show otherWrite.event?.bind EventRow.liveness = some (worker.id, status)
    rw [otherAppended]
    exact otherTells
  rcases last.greatest ascending otherMember about with rfl | before
  · left
    rw [otherAppended] at appended
    exact Option.some.inj appended
  · right
    simpa [livenessReports, otherAppended, appended] using before

/-- In every run in which each heartbeat that commits finds its worker online,
the worker events project the stored status. -/
theorem liveness_projected (text : Collation) {store : Store}
    {history : List Write}
    (run : Chronicle text HeartbeatFindsOnline store history) :
    LivenessProjected store history := by
  cases run with
  | serial run =>
      obtain ⟨told, ascending, _⟩ := told_serial run
      exact told.projected ascending
  | replicated run =>
      have ordered := Recorded.ordered
        (begins_orderly (postgres_announces text)) run
        (Recorded.ordered_initial Store.empty)
      exact (told_replicated run).projected ordered.ascending

def sampleHeartbeat (now : Int) : Heartbeat where
  capabilities := ["cuda"]
  adapterManifests := []
  adapterHealth := []
  warmModels := []
  modelInventory := []
  gpus := [sampleGpu]
  now := now

theorem liveness_projected_sample :
    LivenessProjected
      (sampleRecord [.request (.registerWorker sampleWorker),
        .request (.heartbeatWorker "worker_1" (sampleHeartbeat 2000))]).1.1
      (sampleRecord [.request (.registerWorker sampleWorker),
        .request (.heartbeatWorker "worker_1" (sampleHeartbeat 2000))]).2 := by
  apply liveness_projected Collation.binary
  apply Chronicle.serial
  have registered : SerialChronicle HeartbeatFindsOnline ((Store.empty, 0), [])
      (sampleRecord [.request (.registerWorker sampleWorker)]) :=
    .single (serialRecord_sample _ trivial rfl)
  refine registered.tail (serialRecord_sample
    (.request (.heartbeatWorker "worker_1" (sampleHeartbeat 2000))) ?_ rfl)
  intro row found
  cases found
  rfl

/-- The pass that finds the worker stale. -/
def stalePass : PassInput where
  now := 20000
  leaseIds _ := "lease_1"

/-- The worker registers, goes stale and is heard of again. -/
def sampleReturn : List Service.Transaction :=
  [.request (.registerWorker sampleWorker), .pass stalePass,
    .request (.heartbeatWorker "worker_1" (sampleHeartbeat 20001))]

theorem chronicle_sampleReturn (text : Collation) :
    Chronicle text (fun _ _ => True) (sampleRecord sampleReturn).1.1
      (sampleRecord sampleReturn).2 := by
  have registered : SerialChronicle (fun _ _ => True) ((Store.empty, 0), [])
      (sampleRecord [.request (.registerWorker sampleWorker)]) :=
    .single (serialRecord_sample _ trivial rfl)
  have stale := registered.tail
    (serialRecord_sample (.pass stalePass) trivial rfl)
  exact .serial (stale.tail (serialRecord_sample
    (.request (.heartbeatWorker "worker_1" (sampleHeartbeat 20001))) trivial
    rfl))

/-- A heartbeat brings the worker back online and tells nobody. -/
theorem liveness_not_projected :
    ¬ ∀ (text : Collation) (store : Store) (history : List Write),
      Chronicle text (fun _ _ => True) store history →
      LivenessProjected store history := by
  intro projected
  have final := projected Collation.binary _ _
    (chronicle_sampleReturn Collation.binary)
  have listed : ∃ worker ∈ (sampleRecord sampleReturn).1.1.workers.rows,
      worker.id = "worker_1" ∧ worker.status = .online :=
    ⟨_, List.mem_singleton_self _, rfl, rfl⟩
  obtain ⟨worker, member, named, online⟩ := listed
  obtain ⟨event, appended, tells, greatest⟩ := final worker member
  rw [named, online] at tells
  rw [named] at greatest
  have events : ∃ first second : EventRow,
      (sampleRecord sampleReturn).2.filterMap Write.event? = [first, second] ∧
      first.sequence = 1 ∧ second.sequence = 2 ∧
      second.liveness = some ("worker_1", .offline) :=
    ⟨_, _, rfl, rfl, rfl, rfl⟩
  obtain ⟨first, second, all, one, two, offline⟩ := events
  rw [all] at appended greatest
  rcases List.mem_cons.mp appended with rfl | later
  · rcases greatest second (by simp) .offline offline with same | before
    · rw [same, one] at two
      cases two
    · rw [one, two] at before
      omega
  · rw [List.mem_singleton.mp later, offline] at tells
    cases tells

end GpuLink
