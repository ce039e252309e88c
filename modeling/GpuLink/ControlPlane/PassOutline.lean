import GpuLink.ControlPlane.Runs

/-!
# A proof outline for the scheduler pass

One assertion for each stage of a pass, and what each method has to do to lead
from one stage to the next.  Whoever fills in the outline knows what every pass
establishes, with the statements of other transactions running in between.
-/

namespace GpuLink

open Transactional Sql Scheduler

def PassInput.options (input : PassInput) (settings : SchedulerSettings)
    (blocked : List BlockedGpu) : PlacementOptions where
  now := input.now
  heartbeatTimeoutMs := settings.heartbeatTimeoutMs
  vramSafetyMiB := settings.vramSafetyMiB
  blockedGpuResources := blocked

/-- The placement is on an available worker of the list and on a GPU outside
`occupiedGpus`. -/
def Placement.SoundFor (placement : Placement) (options : PlacementOptions)
    (workers : List Worker) (occupiedGpus : List NonEmptyString) : Prop :=
  ∃ worker ∈ workers, worker.id = placement.workerId ∧
    workerAvailable options worker ∧ placement.gpuUuid ∉ occupiedGpus

/-- Assertions for the stages of a pass.  The pass itself may be interrupted
along `env`; `quiet` covers `env`, the events and the plain reads. -/
structure PassOutline (transaction : Persistence)
    (settings : SchedulerSettings) (input : PassInput)
    (env : Store → Store → Prop) where
  quiet : Store → Store → Prop
  begun : Store → Prop
  marked : List String → Store → Prop
  jobsRecovered : List String → Store → Prop
  recovered : Store → Prop
  workersRead : List Worker → Store → Prop
  jobsRead : List Worker → List Job → Store → Prop
  placing : List Worker → List NonEmptyString → Store → Prop
  env_refl : ∀ s, env s s
  quiet_of_env : ∀ {s s'}, env s s' → quiet s s'
  marked_quiet : ∀ {ids s s'}, quiet s s' → marked ids s → marked ids s'
  jobsRecovered_quiet : ∀ {ids s s'}, quiet s s' →
    jobsRecovered ids s → jobsRecovered ids s'
  recovered_quiet : ∀ {s s'}, quiet s s' → recovered s → recovered s'
  placing_quiet : ∀ {workers occupied s s'}, quiet s s' →
    placing workers occupied s → placing workers occupied s'
  append : ∀ type subjectId payload now,
    (transaction.appendEvent type subjectId payload now).Steady quiet
  listBlocked : transaction.listBlockedGpuResources.Steady quiet
  listQueued : transaction.listQueuedJobs.Steady quiet
  listRequested : transaction.listRequestedSessions.Steady quiet
  mark : ∀ s, begun s →
    (transaction.markStaleWorkersOffline
      (input.now - settings.heartbeatTimeoutMs) input.now).wp env marked s
  recoverJobs : ∀ ids s, marked ids s →
    (transaction.recoverExpiredJobs input.now ids).wp env
      (fun _ => jobsRecovered ids) s
  recoverSessions : ∀ ids s, jobsRecovered ids s →
    (transaction.recoverInterruptedSessions input.now ids).wp env
      (fun _ => recovered) s
  readWorkers : ∀ s, recovered s →
    transaction.listWorkers.wp env workersRead s
  readJobs : ∀ workers s, workersRead workers s →
    transaction.listActiveJobs.wp env (jobsRead workers) s
  readSessions : ∀ workers jobs s, jobsRead workers jobs s →
    transaction.listOccupyingSessions.wp env
      (fun sessions => placing workers (occupiedGpus jobs sessions)) s
  assignJob : ∀ workers occupied blocked jobId placement leaseId s,
    placement.SoundFor (input.options settings blocked) workers occupied →
    placing workers occupied s →
    (transaction.assignJob jobId placement leaseId
      (input.now + settings.leaseDurationMs) input.now).wp env
      (fun job => placing workers
        (if job.isSome then placement.gpuUuid :: occupied else occupied)) s
  assignSession : ∀ workers occupied blocked sessionId placement leaseId s,
    placement.SoundFor (input.options settings blocked) workers occupied →
    placing workers occupied s →
    (transaction.assignSession sessionId placement leaseId
      (input.now + settings.leaseDurationMs) input.now).wp env
      (fun session => placing workers
        (if session.isSome then placement.gpuUuid :: occupied else occupied)) s

namespace PassOutline

variable {transaction : Persistence} {settings : SchedulerSettings}
  {input : PassInput} {env : Store → Store → Prop}

/-- A quiet method keeps every assertion that is stable. -/
theorem keeps (outline : PassOutline transaction settings input env)
    {α : Type} {program : Tx α} (steady : program.Steady outline.quiet)
    {held : Store → Prop}
    (stable : ∀ {s s'}, outline.quiet s s' → held s → held s') {s : Store}
    (here : held s) : program.wp env (fun _ => held) s :=
  Program.wp_env_mono outline.quiet_of_env (steady.wp stable here)

theorem reportStale (outline : PassOutline transaction settings input env)
    (workerIds : List String) :
    (reportStale transaction input.now workerIds).Steady outline.quiet :=
  @reportStale_related (.steady outline.quiet) transaction transaction
    outline.append input.now workerIds

theorem reportJobs (outline : PassOutline transaction settings input env)
    (recoveries : List RecoveredJob) :
    (reportJobs transaction input.now recoveries).Steady outline.quiet :=
  @reportJobs_related (.steady outline.quiet) transaction transaction
    outline.append input.now recoveries

theorem reportSessions (outline : PassOutline transaction settings input env)
    (recoveries : List RecoveredSession) :
    (reportSessions transaction input.now recoveries).Steady
      outline.quiet :=
  @reportSessions_related (.steady outline.quiet) transaction transaction
    outline.append input.now recoveries

/-- One placement: the GPU joins the occupied ones if the entry was still
pending. -/
theorem assignEntry (outline : PassOutline transaction settings input env)
    {workers : List Worker} {occupied : List NonEmptyString}
    {blocked : List BlockedGpu} {placement : Placement}
    (sound : placement.SoundFor (input.options settings blocked) workers
      occupied)
    (leaseId : String) (entry : PendingEntry) {s : Store}
    (held : outline.placing workers occupied s) :
    (assignEntry transaction settings input.now leaseId placement entry).wp env
      (fun answer => outline.placing workers
        (if answer.1 then placement.gpuUuid :: occupied else occupied)) s := by
  cases entry with
  | job item =>
      refine Program.wp_bind outline.env_refl (Program.wp_mono ?_
        (outline.assignJob workers occupied blocked item.id placement leaseId s
          sound held))
      intro leasedJob s placed
      cases leasedJob with
      | none =>
          exact fun s' moved =>
            outline.placing_quiet (outline.quiet_of_env moved) placed
      | some leasedJob =>
          refine Program.wp_bind outline.env_refl (Program.wp_mono ?_
            (outline.keeps (outline.append _ _ _ _) outline.placing_quiet
              placed))
          exact fun _ s placed s' moved =>
            outline.placing_quiet (outline.quiet_of_env moved) placed
  | session item =>
      refine Program.wp_bind outline.env_refl (Program.wp_mono ?_
        (outline.assignSession workers occupied blocked item.id placement
          leaseId s sound held))
      intro allocated s placed
      cases allocated with
      | none =>
          exact fun s' moved =>
            outline.placing_quiet (outline.quiet_of_env moved) placed
      | some allocated =>
          refine Program.wp_bind outline.env_refl (Program.wp_mono ?_
            (outline.keeps (outline.append _ _ _ _) outline.placing_quiet
              placed))
          exact fun _ s placed s' moved =>
            outline.placing_quiet (outline.quiet_of_env moved) placed

/-- The placement loop, by induction on the pending entries. -/
theorem placePending (outline : PassOutline transaction settings input env)
    (workers : List Worker) (blocked : List BlockedGpu)
    (pending : List PendingEntry) (drawn : Nat)
    (occupied : List NonEmptyString) {s : Store}
    (held : outline.placing workers occupied s) :
    (placePending transaction settings input workers blocked pending drawn
      occupied).wp env
      (fun _ s => ∃ occupied, outline.placing workers occupied s) s := by
  induction pending generalizing drawn occupied s with
  | nil =>
      exact fun s' moved =>
        ⟨occupied, outline.placing_quiet (outline.quiet_of_env moved) held⟩
  | cons entry rest induction =>
      simp only [Scheduler.placePending]
      split
      · exact induction _ _ held
      · rename_i placement chosen
        obtain ⟨worker, listed, named, available, free, _⟩ :=
          choosePlacement_sound chosen
        have sound : placement.SoundFor (input.options settings blocked)
            workers occupied := ⟨worker, listed, named, available, free⟩
        refine Program.wp_bind outline.env_refl (Program.wp_mono ?_
          (outline.assignEntry sound _ entry held))
        rintro ⟨placed, job⟩ s after
        cases placed with
        | true =>
            refine Program.wp_bind outline.env_refl (Program.wp_mono ?_
              (induction _ _ after))
            rintro _ s ⟨occupied, later⟩ s' moved
            exact ⟨occupied,
              outline.placing_quiet (outline.quiet_of_env moved) later⟩
        | false => exact induction _ _ after

/-- A pass that begins in `begun` ends its placements in `placing`. -/
theorem lockedPass (outline : PassOutline transaction settings input env)
    {s : Store} (begun : outline.begun s) :
    (lockedPass transaction settings input).wp env
      (fun _ s => ∃ workers occupied, outline.placing workers occupied s)
      s := by
  have refl := outline.env_refl
  refine Program.wp_bind refl (Program.wp_mono ?_ (outline.mark s begun))
  intro staleWorkerIds s marked
  refine Program.wp_bind refl (Program.wp_mono ?_
    (outline.keeps (outline.reportStale _) outline.marked_quiet marked))
  intro _ s marked
  refine Program.wp_bind refl (Program.wp_mono ?_
    (outline.recoverJobs staleWorkerIds s marked))
  intro recoveries s recovered
  refine Program.wp_bind refl (Program.wp_mono ?_
    (outline.keeps (outline.reportJobs _) outline.jobsRecovered_quiet
      recovered))
  intro _ s recovered
  refine Program.wp_bind refl (Program.wp_mono ?_
    (outline.recoverSessions staleWorkerIds s recovered))
  intro sessionRecoveries s recovered
  refine Program.wp_bind refl (Program.wp_mono ?_
    (outline.keeps (outline.reportSessions _) outline.recovered_quiet
      recovered))
  intro _ s recovered
  refine Program.wp_bind refl (Program.wp_mono ?_ (?_ :
    (place transaction settings input).wp env
      (fun _ s => ∃ workers occupied, outline.placing workers occupied s) s))
  · rintro _ s ⟨workers, occupied, placing⟩ s' moved
    exact ⟨workers, occupied,
      outline.placing_quiet (outline.quiet_of_env moved) placing⟩
  refine Program.wp_bind refl (Program.wp_mono ?_
    (outline.keeps outline.listBlocked outline.recovered_quiet recovered))
  intro blocked s recovered
  refine Program.wp_bind refl (Program.wp_mono ?_
    (outline.readWorkers s recovered))
  intro workers s read
  refine Program.wp_bind refl (Program.wp_mono ?_
    (outline.readJobs workers s read))
  intro activeJobs s read
  refine Program.wp_bind refl (Program.wp_mono ?_
    (outline.readSessions workers activeJobs s read))
  intro occupyingSessions s placing
  refine Program.wp_bind refl (Program.wp_mono ?_
    (outline.keeps outline.listQueued outline.placing_quiet placing))
  intro queuedJobs s placing
  refine Program.wp_bind refl (Program.wp_mono ?_
    (outline.keeps outline.listRequested outline.placing_quiet placing))
  intro requestedSessions s placing
  refine Program.wp_mono ?_
    (outline.placePending workers blocked _ 0 _ placing)
  rintro _ s ⟨occupied, placing⟩
  exact ⟨workers, occupied, placing⟩

end PassOutline

end GpuLink
