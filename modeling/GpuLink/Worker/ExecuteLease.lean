import GpuLink.ControlPlane.Runs

/-!
# Reporting the result of a job

`#executeLease` starts a job, executes it and reports how that ended.  The
report of a result is awaited inside the block whose handler reports a failure.
-/

namespace GpuLink

namespace ExecuteLease

/-- What a promise is rejected with; `statusCode` when the control plane has
answered. -/
structure Failure where
  statusCode : Option Nat
  /-- A text, or the number of a `DOMException`. -/
  code : Option Json
  message : String

inductive Reply where
  | fulfilled
  | rejected (failure : Failure)

/-- The body of a call of `finishJob`. -/
structure Report where
  outcome : Outcome
  result : Option Json
  error : Option Json

/-- The calls of the client, with the lease of the job. -/
inductive ClientCall where
  | startJob
  | renewJob
  | finishJob (report : Report)

inductive Phase where
  | starting
  | reportingUninstalled
  | executing
  | reportingResult (report : Report)
  | reportingFailure
  | settled (outcome : Except Failure Unit)

end ExecuteLease

open ExecuteLease

/-- One call of `#executeLease`. -/
structure ExecuteLease where
  jobId : String
  type : String
  lease : LeaseAction
  phase : Phase
  /-- The renewal timer is set. -/
  renewing : Bool
  calls : List ClientCall
  /-- What the report of a result has come back with. -/
  replies : List (Report × Reply)
  /-- What the adapter has come back with. -/
  executed : Option (Except Failure Json)

namespace ExecuteLease

def initial (jobId type : String) (lease : LeaseAction) : ExecuteLease where
  jobId := jobId
  type := type
  lease := lease
  phase := .starting
  renewing := false
  calls := [.startJob]
  replies := []
  executed := none

def call (execution : ExecuteLease) (call : ClientCall) : ExecuteLease :=
  { execution with calls := execution.calls ++ [call] }

def errorJson (code : Json) (message : String) : Json :=
  .object [("code", code), ("message", .string message)]

def uninstalled (type : String) : Report where
  outcome := .failed
  result := none
  error := some (errorJson (.string "adapter_not_installed")
    ("No adapter installed for " ++ type))

def succeeded (result : Json) : Report where
  outcome := .succeeded
  result := some result
  error := none

/-- What `||` does not pass over. -/
def truthy : Json → Bool
  | .null => false
  | .bool value => value
  | .number value => value ≠ 0
  | .string text => text ≠ ""
  | .array _ => true
  | .object _ => true

/-- `error.code || "adapter_failed"` -/
def failedCode (failure : Failure) : Json :=
  (failure.code.filter truthy).getD (.string "adapter_failed")

def failed (failure : Failure) : Report where
  outcome := .failed
  result := none
  error := some (errorJson (failedCode failure) failure.message)

/-- After the call to start the job. -/
def started (hasAdapter : String → Bool) (execution : ExecuteLease) :
    ExecuteLease :=
  if hasAdapter execution.type then
    { execution with phase := .executing, renewing := true }
  else
    { execution.call (.finishJob (uninstalled execution.type)) with
      phase := .reportingUninstalled }

/-- The `catch`. -/
def reportFailure (execution : ExecuteLease) (failure : Failure) :
    ExecuteLease :=
  { execution.call (.finishJob (failed failure)) with
    phase := .reportingFailure }

/-- The adapter comes back. -/
def executes (execution : ExecuteLease) (outcome : Except Failure Json) :
    ExecuteLease :=
  let execution := { execution with executed := some outcome }
  match outcome with
  | .ok result =>
      { execution.call (.finishJob (succeeded result)) with
        phase := .reportingResult (succeeded result) }
  | .error failure => execution.reportFailure failure

/-- The `finally`. -/
def settle (execution : ExecuteLease) (outcome : Except Failure Unit) :
    ExecuteLease :=
  { execution with phase := .settled outcome, renewing := false }

/-- A call that is awaited comes back. -/
def answered (hasAdapter : String → Bool) (execution : ExecuteLease)
    (reply : Reply) : Option ExecuteLease :=
  match execution.phase, reply with
  | .starting, .fulfilled => some (execution.started hasAdapter)
  | .starting, .rejected failure => some (execution.settle (.error failure))
  | .reportingUninstalled, .fulfilled => some (execution.settle (.ok ()))
  | .reportingUninstalled, .rejected failure =>
      some (execution.settle (.error failure))
  | .reportingResult report, reply =>
      let execution := { execution with
        replies := execution.replies ++ [(report, reply)] }
      match reply with
      | .fulfilled => some (execution.settle (.ok ()))
      | .rejected failure => some (execution.reportFailure failure)
  | .reportingFailure, .fulfilled => some (execution.settle (.ok ()))
  | .reportingFailure, .rejected failure =>
      -- A conflict is swallowed.
      if failure.statusCode = some 409 then some (execution.settle (.ok ()))
      else some (execution.settle (.error failure))
  | .executing, _ => none
  | .settled _, _ => none

end ExecuteLease

/-- An execution, and the reports that the control plane has taken up, whether
or not its answer comes back. -/
structure ReportedLease where
  execution : ExecuteLease
  taken : List Report

namespace ReportedLease

inductive Step (hasAdapter : String → Bool) :
    ReportedLease → ReportedLease → Prop where
  | answered {system : ReportedLease} (reply : Reply) {after : ExecuteLease}
      (handled : system.execution.answered hasAdapter reply = some after) :
      Step hasAdapter system { system with execution := after }
  | executed {system : ReportedLease} (outcome : Except Failure Json)
      (executing : system.execution.phase = .executing) :
      Step hasAdapter system
        { system with execution := system.execution.executes outcome }
  /-- The outcome of a renewal is logged only. -/
  | renewed {system : ReportedLease}
      (renewing : system.execution.renewing = true) :
      Step hasAdapter system
        { system with execution := system.execution.call .renewJob }
  | taken {system : ReportedLease} {report : Report}
      (sent : .finishJob report ∈ system.execution.calls) :
      Step hasAdapter system
        { system with taken := system.taken ++ [report] }

inductive Reached (hasAdapter : String → Bool) : ReportedLease → Prop where
  | start (jobId type : String) (lease : LeaseAction) :
      Reached hasAdapter ⟨.initial jobId type lease, []⟩
  | next {system after : ReportedLease} : Reached hasAdapter system →
      Step hasAdapter system after → Reached hasAdapter after

/-- The adapter has returned a result. -/
def Returned (system : ReportedLease) : Prop :=
  ∃ result, system.execution.executed = some (.ok result)

/-- A report of failure has been sent. -/
def FailureSent (system : ReportedLease) : Prop :=
  ∃ report, .finishJob report ∈ system.execution.calls ∧
    report.outcome = .failed

/-- The call that reports the result has been rejected. -/
def ReportRejected (system : ReportedLease) : Prop :=
  ∃ report failure,
    (report, Reply.rejected failure) ∈ system.execution.replies

/-- No failure is reported, and none reaches the control plane. -/
structure NeverFailed (system : ReportedLease) : Prop where
  unsent : ¬system.FailureSent
  untaken : ∀ report ∈ system.taken, report.outcome ≠ .failed

/-! ## What each phase knows -/

/-- What holds of the calls and the replies in each phase. -/
def Known (system : ReportedLease) : Prop :=
  match system.execution.phase with
  | .starting => system.execution.executed = none ∧ ¬system.FailureSent ∧
      system.execution.replies = []
  | .reportingUninstalled => system.execution.executed = none
  | .executing => system.execution.executed = none ∧ ¬system.FailureSent ∧
      system.execution.replies = []
  | .reportingResult _ => ¬system.FailureSent ∧ ¬system.ReportRejected
  | .reportingFailure =>
      system.Returned → (system.FailureSent ↔ system.ReportRejected)
  | .settled _ =>
      system.Returned → (system.FailureSent ↔ system.ReportRejected)

theorem not_returned {system : ReportedLease}
    (unexecuted : system.execution.executed = none) : ¬system.Returned := by
  rintro ⟨result, returned⟩
  rw [unexecuted] at returned
  cases returned

theorem failureSent_call {system : ReportedLease} {report : Report}
    {calls : List ClientCall} (same : calls = system.execution.calls ++
      [.finishJob report]) :
    (∃ other, .finishJob other ∈ calls ∧ other.outcome = .failed) ↔
      system.FailureSent ∨ report.outcome = .failed := by
  simp only [FailureSent, same, List.mem_append, List.mem_singleton,
    ClientCall.finishJob.injEq]
  constructor
  · rintro ⟨other, sent | rfl, fails⟩
    · exact Or.inl ⟨other, sent, fails⟩
    · exact Or.inr fails
  · rintro (⟨other, sent, fails⟩ | fails)
    · exact ⟨other, Or.inl sent, fails⟩
    · exact ⟨report, Or.inr rfl, fails⟩

theorem known_answered {hasAdapter : String → Bool} {system : ReportedLease}
    (known : system.Known) {reply : Reply} {after : ExecuteLease}
    (handled : system.execution.answered hasAdapter reply = some after) :
    Known { system with execution := after } := by
  unfold Known at known
  unfold answered at handled
  split at handled
  · rename_i phase
    rw [phase] at known
    cases handled
    unfold started
    split
    · exact known
    · exact known.1
  · rename_i failure phase
    rw [phase] at known
    cases handled
    intro returned
    exact (not_returned known.1 returned).elim
  · rename_i phase
    rw [phase] at known
    cases handled
    intro returned
    exact (not_returned known returned).elim
  · rename_i failure phase
    rw [phase] at known
    cases handled
    intro returned
    exact (not_returned known returned).elim
  · rename_i report phase
    rw [phase] at known
    obtain ⟨unsent, unrejected⟩ := known
    split at handled
    · cases handled
      intro _
      constructor
      · intro sent
        exact (unsent sent).elim
      · rintro ⟨other, failure, rejected⟩
        rcases List.mem_append.mp rejected with earlier | last
        · exact (unrejected ⟨other, failure, earlier⟩).elim
        · cases List.mem_singleton.mp last
    · rename_i failure
      cases handled
      intro _
      constructor
      · intro _
        exact ⟨report, failure, List.mem_append_right _
          (List.mem_singleton.mpr rfl)⟩
      · intro _
        exact ⟨failed failure, List.mem_append_right _
          (List.mem_singleton.mpr rfl), rfl⟩
  · rename_i phase
    rw [phase] at known
    cases handled
    exact known
  · rename_i failure phase
    rw [phase] at known
    split at handled
    · cases handled
      exact known
    · cases handled
      exact known
  · cases handled
  · cases handled

theorem known_executes {system : ReportedLease} (known : system.Known)
    (executing : system.execution.phase = .executing)
    (outcome : Except Failure Json) :
    Known { system with execution := system.execution.executes outcome } := by
  unfold Known at known
  rw [executing] at known
  obtain ⟨_, unsent, unreplied⟩ := known
  cases outcome with
  | ok result =>
      constructor
      · intro sent
        rcases (failureSent_call rfl).mp sent with earlier | fails
        · exact unsent earlier
        · cases fails
      · rintro ⟨report, failure, rejected⟩
        have rejected : (report, Reply.rejected failure) ∈
            system.execution.replies := rejected
        rw [unreplied] at rejected
        cases rejected
  | error failure =>
      rintro ⟨result, returned⟩
      cases returned

theorem known_renewed {system : ReportedLease} (known : system.Known) :
    Known { system with execution := system.execution.call .renewJob } := by
  have sent : FailureSent
      { system with execution := system.execution.call .renewJob } ↔
        system.FailureSent := by
    simp [FailureSent, call]
  unfold Known at known ⊢
  simp only [sent]
  exact known

theorem known_of_reached {hasAdapter : String → Bool} {system : ReportedLease}
    (reached : Reached hasAdapter system) : system.Known := by
  induction reached with
  | start jobId type lease =>
      refine ⟨rfl, ?_, rfl⟩
      rintro ⟨report, sent, _⟩
      cases List.mem_singleton.mp sent
  | next _ step induction =>
      cases step with
      | answered reply handled => exact known_answered induction handled
      | executed outcome executing =>
          exact known_executes induction executing outcome
      | renewed => exact known_renewed induction
      | taken => exact induction

/-- A call that has been made is not taken back. -/
theorem calls_answered {hasAdapter : String → Bool}
    {execution after : ExecuteLease} {reply : Reply}
    (handled : execution.answered hasAdapter reply = some after)
    {made : ClientCall} (member : made ∈ execution.calls) :
    made ∈ after.calls := by
  unfold answered at handled
  split at handled
  · cases handled
    unfold started
    split
    · exact member
    · exact List.mem_append_left _ member
  · cases handled
    exact member
  · cases handled
    exact member
  · cases handled
    exact member
  · split at handled
    · cases handled
      exact member
    · cases handled
      exact List.mem_append_left _ member
  · cases handled
    exact member
  · split at handled
    · cases handled
      exact member
    · cases handled
      exact member
  · cases handled
  · cases handled

/-- The control plane takes up what has been sent. -/
theorem sent_of_taken {hasAdapter : String → Bool} {system : ReportedLease}
    (reached : Reached hasAdapter system) :
    ∀ report ∈ system.taken, .finishJob report ∈ system.execution.calls := by
  induction reached with
  | start =>
      intro report member
      cases member
  | next reached step induction =>
      cases step with
      | answered reply handled =>
          intro report member
          exact calls_answered handled (induction report member)
      | executed outcome =>
          intro report member
          have sent := induction report member
          cases outcome with
          | ok result => exact List.mem_append_left _ sent
          | error failure => exact List.mem_append_left _ sent
      | renewed =>
          intro report member
          exact List.mem_append_left _ (induction report member)
      | taken sent =>
          intro other member
          rcases List.mem_append.mp member with earlier | last
          · exact induction other earlier
          · rw [List.mem_singleton.mp last]
            exact sent

/-- A job whose execution has returned a result is never reported as failed
exactly when the call that reports the result is not rejected. -/
theorem neverFailed_iff {hasAdapter : String → Bool} {system : ReportedLease}
    (reached : Reached hasAdapter system) (returned : system.Returned) :
    system.NeverFailed ↔ ¬system.ReportRejected := by
  have sent : system.FailureSent ↔ system.ReportRejected := by
    have known := known_of_reached reached
    unfold Known at known
    split at known
    · exact (not_returned known.1 returned).elim
    · exact (not_returned known returned).elim
    · exact (not_returned known.1 returned).elim
    · exact iff_of_false known.1 known.2
    · exact known returned
    · exact known returned
  rw [← sent]
  constructor
  · intro never
    exact never.unsent
  · intro unsent
    refine ⟨unsent, ?_⟩
    intro report member fails
    exact unsent ⟨report, sent_of_taken reached report member, fails⟩

/-! ## A lost report -/

def sampleLease : LeaseAction := ⟨"worker_1", "lease_1"⟩

/-- The result is known, and the call that reports it times out, with the
`code` of a `TimeoutError`. -/
def timedOut : Failure where
  statusCode := none
  code := some (.number 23)
  message := "The operation was aborted due to timeout"

def executedLease : ReportedLease where
  execution :=
    { ExecuteLease.initial "job_1" "cuda" sampleLease with
      phase := .reportingResult (succeeded (.object []))
      renewing := true
      calls := [.startJob, .finishJob (succeeded (.object []))]
      executed := some (.ok (.object [])) }
  taken := []

theorem executedLease_reached : Reached (fun _ => true) executedLease :=
  ((Reached.start "job_1" "cuda" sampleLease).next
    (.answered .fulfilled rfl)).next (.executed (.ok (.object [])) rfl)

/-- The report comes back, and no failure is reported. -/
theorem neverFailed_sample :
    NeverFailed { executedLease with execution :=
      { executedLease.execution with
        phase := .settled (.ok ())
        renewing := false
        replies := [(succeeded (.object []), .fulfilled)] } } := by
  apply (neverFailed_iff
    (executedLease_reached.next (.answered .fulfilled rfl)) ⟨_, rfl⟩).mpr
  rintro ⟨report, failure, rejected⟩
  cases List.mem_singleton.mp rejected

/-- The report of the result is lost on its way. -/
def misreportedLease : ReportedLease where
  execution :=
    { executedLease.execution with
      phase := .reportingFailure
      calls := [.startJob, .finishJob (succeeded (.object [])),
        .finishJob (failed timedOut)]
      replies := [(succeeded (.object []), .rejected timedOut)] }
  taken := [failed timedOut]

theorem misreportedLease_reached :
    Reached (fun _ => true) misreportedLease :=
  (executedLease_reached.next (.answered (.rejected timedOut) rfl)).next
    (.taken (List.mem_of_getLast? rfl))

/-- The transactions of the control plane when it takes up that report. -/
def misreported : List Service.Transaction :=
  samplePlacement ++
    [.request (.startJob "job_1" sampleLease 1003),
      .request (.finishJob "job_1" sampleLease (failed timedOut).outcome .null
        ((failed timedOut).error.getD .null) 1004)]

/-- A job whose execution has returned a result is reported as failed, and
stored so. -/
theorem result_reported_failed :
    ¬(∀ system, Reached (fun _ => true) system → system.Returned →
      system.NeverFailed) ∧
    ((Database.State.after misreported).1.jobs.find? "job_1").map
      JobRow.status = some .failed := by
  constructor
  · intro never
    have never := never misreportedLease misreportedLease_reached ⟨_, rfl⟩
    exact never.untaken (failed timedOut) (List.mem_singleton.mpr rfl) rfl
  · decide +kernel

end ReportedLease

end GpuLink
