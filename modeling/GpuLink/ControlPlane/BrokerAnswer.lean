import GpuLink.ControlPlane.Reservation

/-!
# What the control plane answers a broker

The answer to a broker is sent when its transaction has committed.  Whatever
else runs on either engine, the attempt that the answer speaks of is stored by
then, and stays.
-/

namespace GpuLink

open Transactional Sql Postgres

/-- The stored attempt is the one that was asked for, and has this epoch. -/
def Store.Attempted (store : Store) (input : BrokerRequest)
    (fenceEpoch : Nat) : Prop :=
  ∃ attempt, store.attempts.find? input.attemptId = some attempt ∧
    attempt.subjectKind = input.subjectKind ∧
    attempt.subjectId = input.subjectId ∧ attempt.leaseId = input.leaseId ∧
    attempt.fenceEpoch = fenceEpoch

theorem ReservedFor.attempted {principal : BrokerProfile}
    {input : BrokerRequest} {gpuUuid : NonEmptyString}
    {now maxHeartbeatAgeMs : Int} {before after : Store}
    (reserved : ReservedFor (input.claim principal input.subjectId gpuUuid now
      maxHeartbeatAgeMs) before after) :
    after.Attempted input (before.nextEpoch principal.workerId gpuUuid) := by
  obtain ⟨workload, _, _, rfl⟩ := reserved.owner
  exact ⟨_, Store.reserve_attempt _ _ _, rfl, rfl, rfl, rfl⟩

/-! ## Transactions that answer -/

/-- The transaction of a reservation that will answer `answer`.  Interleaved
with others it commits like any transaction, and only then is the answer
sent; a transaction that is going to answer something else is another one. -/
def answering (transaction : Persistence) (principal : BrokerProfile)
    (input : BrokerRequest) (now maxHeartbeatAgeMs : Int)
    (answer : ReservedAttempt) : Tx Unit :=
  (reserveBrokerBoundAttempt transaction principal input now
    maxHeartbeatAgeMs).bind (fun result => .done
      (if result = answer then .ok ()
      else .error (.broker ⟨"broker_authority_unavailable", 503⟩)))

/-- The transactions of the control plane, those that answer among them. -/
def BeginsAnswering (text : Collation) (code : Tx Unit) : Prop :=
  Service.Begins (postgres text) code ∨
    ∃ principal input now maxHeartbeatAgeMs answer,
      code = answering (postgres text) principal input now maxHeartbeatAgeMs
        answer

theorem beginsAnswering_steady {text : Collation} {code : Tx Unit}
    (begins : BeginsAnswering text code) :
    code.Steady (Moved (fun _ => True)) := by
  rcases begins with plain | ⟨principal, input, now, age, answer, rfl⟩
  · exact begins_steady plain
  · have reserves := (postgres_serves text
      (fun _ _ => trivial)).reserveBrokerBoundAttempt principal input now age
    exact Program.Steady.bind reserves (fun _ => trivial)

/-- What a transaction has established when it commits. -/
structure Answered (text : Collation) (code : Tx Unit) (held : Bool)
    (before after : Store) : Prop where
  free : held = false → Rowwise Unplaced before after
  guarded : before.Guarded → after.Guarded
  attempted : ∀ principal input now maxHeartbeatAgeMs answer,
    code = answering (postgres text) principal input now maxHeartbeatAgeMs
      answer →
    after.Attempted input answer.fenceEpoch

theorem answering_secures (text : Collation) (principal : BrokerProfile)
    (input : BrokerRequest) (now maxHeartbeatAgeMs : Int)
    (answer : ReservedAttempt) (s : Store) :
    (answering (postgres text) principal input now maxHeartbeatAgeMs
      answer).secures allocation false
      (fun _ held s log => held = true ∧
        (s.Guarded → (applyAll s log).Guarded) ∧
        (applyAll s log).Attempted input answer.fenceEpoch) s [] := by
  apply Program.secures_check
  refine Program.secures_mono ?_ (reserveBroker_secures principal input now
    maxHeartbeatAgeMs text s)
  intro result held s log established value sent
  obtain ⟨holds, gpuUuid, reserved, returned⟩ := established
  refine ⟨holds, reserved.guarded, ?_⟩
  split at sent
  · next same =>
      rw [← same, returned]
      exact reserved.attempted
  · cases sent

/-- A code that answers secures every answer that it is. -/
theorem answered_of_answering {text : Collation} {code : Tx Unit}
    (answers : ∃ principal input now maxHeartbeatAgeMs answer,
      code = answering (postgres text) principal input now maxHeartbeatAgeMs
        answer) (s : Store) :
    code.secures allocation false (fun _ held s log =>
      Answered text code held s (applyAll s log)) s [] := by
  have each : ∀ made : { made : BrokerProfile × BrokerRequest × Int × Int ×
        ReservedAttempt //
      code = answering (postgres text) made.1 made.2.1 made.2.2.1 made.2.2.2.1
        made.2.2.2.2 },
      code.secures allocation false (fun _ held s log => held = true ∧
        (s.Guarded → (applyAll s log).Guarded) ∧
        (applyAll s log).Attempted made.1.2.1 made.1.2.2.2.2.fenceEpoch)
        s [] := by
    intro ⟨⟨principal, input, now, age, answer⟩, same⟩
    have same : code = answering (postgres text) principal input now age
      answer := same
    have secured := answering_secures text principal input now age answer s
    rw [← same] at secured
    exact secured
  obtain ⟨principal, input, now, age, answer, same⟩ := answers
  refine Program.secures_mono ?_ (Program.secures_forall each)
  intro _ held s log all
  obtain ⟨holds, guarded, _⟩ := all ⟨(principal, input, now, age, answer), same⟩
  refine ⟨?_, guarded, ?_⟩
  · intro free
    rw [holds] at free
    cases free
  · intro principal input now age answer same
    exact (all ⟨(principal, input, now, age, answer), same⟩).2.2

theorem answering_sound (text : Collation) :
    allocation.Sound (BeginsAnswering text)
      (fun code held s log => Answered text code held s (applyAll s log)) where
  start code begins s _ := by
    by_cases answers : ∃ principal input now maxHeartbeatAgeMs answer,
        code = answering (postgres text) principal input now maxHeartbeatAgeMs
          answer
    · exact answered_of_answering answers s
    · rcases begins with plain | answer
      · refine Program.secures_mono ?_ (begins_secures plain s)
        intro _ held s log allocated
        refine ⟨allocated.free, allocated.guarded, ?_⟩
        intro principal input now age answer same
        exact (answers ⟨principal, input, now, age, answer, same⟩).elim
      · exact (answers answer).elim
  keeps _ _ _ _ _ guarded answered := answered.guarded guarded
  moves _ _ _ _ _ _ answered := ⟨nofun, fun free _ => answered.free free⟩

/-! ## The two engines -/

/-- A control plane on one of the engines. -/
inductive ControlPlane where
  | sqlite (state : Database.State)
  | postgres (text : Collation) (traced : Traced Store Scan Write TxError)

namespace ControlPlane

/-- What its tables hold. -/
def store : ControlPlane → Store
  | sqlite state => state.1
  | postgres _ traced => traced.cluster.committed

/-- A step of the control plane; the label is a broker's profile and request
with the answer, when the step commits a reservation that is answered. -/
inductive Step : ControlPlane →
    Option (BrokerProfile × BrokerRequest × ReservedAttempt) →
    ControlPlane → Prop where
  | serial {before after : Database.State} :
      SerialStep (Service.Begins GpuLink.sqlite) before after →
      Step (.sqlite before) none (.sqlite after)
  | reserved {before after : Database.State} {principal : BrokerProfile}
      {input : BrokerRequest} {now maxHeartbeatAgeMs : Int}
      {answer : ReservedAttempt} :
      (reserveBrokerBoundAttempt GpuLink.sqlite principal input now
        maxHeartbeatAgeMs).Runs before.1 before.2 (.ok answer) after.1
          after.2 →
      Step (.sqlite before) (some (principal, input, answer)) (.sqlite after)
  | interleaved {text : Collation}
      {before after : Traced Store Scan Write TxError} :
      Traced.Step (BeginsAnswering text) before after →
      Step (.postgres text before) none (.postgres text after)
  | answered {text : Collation} {before : Traced Store Scan Write TxError}
      {after : Replicas} {principal : BrokerProfile} {input : BrokerRequest}
      {now maxHeartbeatAgeMs : Int} {answer : ReservedAttempt} {held : Bool}
      {log : List Write} :
      Traced.Commits (answering (GpuLink.postgres text) principal input now
        maxHeartbeatAgeMs answer) held log before after →
      Step (.postgres text before) (some (principal, input, answer))
        (.postgres text ⟨after, before.originAfter after⟩)

/-- What is known of a control plane that started with empty tables. -/
inductive Sound : ControlPlane → Prop where
  | sqlite {state : Database.State} :
      state.1.Guarded → Sound (.sqlite state)
  | postgres {text : Collation} {traced : Traced Store Scan Write TxError} :
      Traced.Steps (BeginsAnswering text) (Traced.initial Store.empty)
        traced →
      Sound (.postgres text traced)

/-- A run alone leaves every attempt as it is. -/
theorem attempts_of_runs {α : Type} {code : Tx α} {before after : Store}
    {sequence last : Nat} {outcome : Except TxError α}
    (steady : code.Steady (Moved (fun _ => True)))
    (run : code.Runs before sequence outcome after last) :
    Rowwise AttemptStays before after :=
  Program.Runs.steady (fun _ key => attemptStays_refl key _)
    (fun first second key => attemptStays_trans key (first key) (second key))
    run (steady.mono (fun moved key => attemptStays_of_move (moved key)))

theorem reserveBroker_refines (principal : BrokerProfile)
    (input : BrokerRequest) (now maxHeartbeatAgeMs : Int) :
    (reserveBrokerBoundAttempt GpuLink.sqlite principal input now
      maxHeartbeatAgeMs).Refines
      (reserveBrokerBoundAttempt (GpuLink.postgres Collation.binary) principal
        input now maxHeartbeatAgeMs) :=
  sqlite_serves.reserveBrokerBoundAttempt principal input now maxHeartbeatAgeMs

theorem Step.sound {before after : ControlPlane}
    {label : Option (BrokerProfile × BrokerRequest × ReservedAttempt)}
    (step : Step before label after) (sound : Sound before) : Sound after := by
  cases step with
  | serial step =>
      cases sound with
      | sqlite guarded =>
          obtain ⟨settings, work, run⟩ := serialStep_postgres step
          exact .sqlite ((allocation_sound Collation.binary).runs
            ⟨settings, work, rfl⟩ guarded run).1
  | reserved run =>
      cases sound with
      | sqlite guarded =>
          have refined := reserveBroker_refines _ _ _ _ _ _ _ _ _ run
          obtain ⟨held, log, reached, _, gpuUuid, reserved, _⟩ :=
            refined.secured rfl rfl guarded (reserveBroker_secures _ _ _ _ _ _)
          rw [← reached] at reserved
          exact .sqlite (reserved.guarded guarded)
  | interleaved step =>
      cases sound with
      | postgres run => exact .postgres (run.tail step)
  | answered commits =>
      cases sound with
      | postgres run => exact .postgres (run.tail ⟨commits.step⟩)

/-- Attempts stay as they were inserted. -/
theorem Step.attempts {before after : ControlPlane}
    {label : Option (BrokerProfile × BrokerRequest × ReservedAttempt)}
    (step : Step before label after) (sound : Sound before) :
    Rowwise AttemptStays before.store after.store := by
  have replicated : ∀ {text : Collation}
      {traced : Traced Store Scan Write TxError} {next : Replicas},
      Traced.Steps (BeginsAnswering text) (Traced.initial Store.empty) traced →
      Cluster.Step (BeginsAnswering text) traced.cluster next →
      Rowwise AttemptStays traced.cluster.committed next.committed := by
    intro text traced next run step
    have start : ∀ code, BeginsAnswering text code →
        code.Steady (Rowwise AttemptStays) := fun code begins =>
      (beginsAnswering_steady begins).mono
        (fun moved key => attemptStays_of_move (moved key))
    have steady := (Cluster.steady start attemptStays_refl attemptStays_trans
      (Traced.cluster_steps run) (Cluster.steady_initial Store.empty)).1
    exact (step.steady start attemptStays_refl attemptStays_trans steady).2
  cases step with
  | serial step =>
      obtain ⟨settings, work, run⟩ := serialStep_postgres step
      exact attempts_of_runs (begins_steady ⟨settings, work, rfl⟩) run
  | @reserved _ _ principal input now age _ run =>
      have steady := (postgres_serves Collation.binary
        (fun _ _ => trivial)).reserveBrokerBoundAttempt principal input now age
      exact attempts_of_runs steady (reserveBroker_refines _ _ _ _ _ _ _ _ _ run)
  | interleaved step =>
      obtain ⟨step⟩ := step
      cases sound with
      | postgres run => exact replicated run step
  | answered commits =>
      cases sound with
      | postgres run => exact replicated run commits.step

/-- Whoever is answered has the attempt. -/
theorem Step.attempted {before after : ControlPlane}
    {principal : BrokerProfile} {input : BrokerRequest}
    {answer : ReservedAttempt}
    (step : Step before (some (principal, input, answer)) after)
    (sound : Sound before) :
    after.store.Attempted input answer.fenceEpoch := by
  cases step with
  | reserved run =>
      cases sound with
      | sqlite guarded =>
          have refined := reserveBroker_refines _ _ _ _ _ _ _ _ _ run
          obtain ⟨held, log, reached, _, gpuUuid, reserved, returned⟩ :=
            refined.secured rfl rfl guarded (reserveBroker_secures _ _ _ _ _ _)
          rw [← reached] at reserved
          rw [returned]
          exact reserved.attempted
  | @answered text before after _ _ now age _ held log commits =>
      cases sound with
      | postgres run =>
          have secured := Traced.secured (answering_sound text) run
            (Traced.secured_initial Store.guarded_empty)
          have answered := (secured.commit commits).2
          obtain ⟨_, _, _, _, rfl⟩ := commits
          exact answered.attempted _ _ _ _ _ rfl

theorem attempted_stays {before after : Store} {input : BrokerRequest}
    {fenceEpoch : Nat} (stays : Rowwise AttemptStays before after)
    (attempted : before.Attempted input fenceEpoch) :
    after.Attempted input fenceEpoch := by
  obtain ⟨attempt, found, same⟩ := attempted
  exact ⟨attempt, stays (.attempt input.attemptId) attempt found, same⟩

end ControlPlane

end GpuLink
