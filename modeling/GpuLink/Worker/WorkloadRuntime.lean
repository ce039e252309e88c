import GpuLink.Library.Machine
import GpuLink.Worker.WorkloadSelection

/-!
# Workload runtimes

A runtime takes a selection once, and what it holds of an attempt goes from
prepared to disposed.
-/

namespace GpuLink

namespace WorkloadRuntime

/-! ## Runtimes -/

inductive AttemptState where
  | prepared
  | running
  | exited
  | terminated
  | disposed
  deriving DecidableEq, Repr

structure Exit where
  exitCode : Option Int
  signal : Option String
  deriving DecidableEq, Repr

/-- What a runtime holds of an attempt. -/
structure Attempt where
  attemptId : String
  leaseId : String
  state : AttemptState
  cleaned : Bool
  done : Bool
  exit : Option Exit
  /-- The calls of `finish`; the promise keeps the first. -/
  finished : List Exit
  /-- There is a handle. -/
  started : Bool
  deriving DecidableEq, Repr

/-- `createFakeWorkloadRuntime` -/
structure Runtime where
  report : RuntimeReport
  failPrepare : Bool
  failStart : Bool
  seen : List String
  attempts : List Attempt

namespace Attempt

def fresh (selection : Selection) : Attempt :=
  ⟨selection.attemptId, selection.leaseId, .prepared, false, false, none, [],
    false⟩

/-- The end of a workload that has not ended. -/
def finish (attempt : Attempt) (exit : Exit) : Attempt :=
  if attempt.done then attempt
  else { attempt with
    done := true
    exit := some exit
    finished := attempt.finished ++ [exit] }

def clean (attempt : Attempt) (exit : Exit) : Attempt :=
  if attempt.cleaned then attempt
  else { attempt.finish exit with state := .disposed, cleaned := true }

/-- `dispose` of what has been prepared. -/
def dispose (attempt : Attempt) : Attempt :=
  attempt.clean ⟨none, some (if attempt.state = .prepared then
    "PREPARED_DISPOSED" else "TERMINATED")⟩

/-- `dispose` of the handle. -/
def disposeHandle (attempt : Attempt) : Attempt :=
  attempt.clean ⟨none, some "TERMINATED"⟩

def terminate (attempt : Attempt) : Attempt :=
  if attempt.done then attempt
  else { attempt.finish ⟨none, some "TERMINATED"⟩ with state := .terminated }

/-- What `start` does to a workload that may be started; one that fails is
disposed of at once, and then it is not prepared any more. -/
def start (failStart : Bool) (attempt : Attempt) : Attempt :=
  if failStart then attempt.disposeHandle
  else { attempt with state := .running, started := true }

def startable (attempt : Attempt) : Bool :=
  attempt.state = .prepared && !attempt.cleaned

def exits (code : Int) (attempt : Attempt) : Attempt :=
  { attempt.finish ⟨some code, none⟩ with state := .exited }

def exitable (attempt : Attempt) : Bool :=
  attempt.state = .running && !attempt.done

def reconcile (active : List String) (attempt : Attempt) : Attempt :=
  if attempt.attemptId ∈ active then attempt
  else attempt.clean ⟨none, some "RECONCILED"⟩

end Attempt

namespace Runtime

def create (report : Json) (failPrepare failStart : Bool) :
    Except String Runtime := do
  let report ← validateRuntimeReport report
  if report.verification = .simulated then
    return ⟨report, failPrepare, failStart, [], []⟩
  else .error "fake_must_be_simulated"

/-- `prepare`, and what is left when it fails. -/
def prepare (runtime : Runtime) (admission : Option Selection) :
    Runtime × Option String :=
  match admission with
  | none => (runtime, some "invalid_runtime_admission")
  | some selection =>
      if selection.runtimeId = runtime.report.runtimeId then
        if runtime.report.available then
          if selection.attemptId ∈ runtime.seen then
            (runtime, some "duplicate_attempt")
          else
            let seen := runtime.seen ++ [selection.attemptId]
            if runtime.failPrepare then
              ({ runtime with seen := seen }, some "fake_prepare_failed")
            else
              ({ runtime with
                seen := seen
                attempts := runtime.attempts ++ [.fresh selection] }, none)
        else (runtime, some "runtime_unavailable")
      else (runtime, some "invalid_runtime_admission")

/-- A token is that of one attempt. -/
def change (runtime : Runtime) (token : Nat) (changed : Attempt → Attempt) :
    Runtime :=
  { runtime with attempts := runtime.attempts.modify token changed }

def start (runtime : Runtime) (token : Option Nat) : Runtime × Option String :=
  match token.bind fun token => (runtime.attempts[token]?).map (token, ·) with
  | some (token, attempt) =>
      if attempt.startable then
        (runtime.change token (Attempt.start runtime.failStart),
          if runtime.failStart then some "fake_start_failed" else none)
      else (runtime, some "invalid_prepared_workload")
  | none => (runtime, some "invalid_prepared_workload")

/-- `exit` of the controller; the code has been given as an integer or not. -/
def exit (runtime : Runtime) (attemptId : String) (code : Option Int) :
    Runtime × Option String :=
  match runtime.attempts.findIdx? (fun attempt => attempt.attemptId = attemptId),
      code with
  | some place, some code =>
      if runtime.attempts[place]?.any Attempt.exitable then
        (runtime.change place (Attempt.exits code), none)
      else (runtime, some "invalid_fake_exit")
  | _, _ => (runtime, some "invalid_fake_exit")

/-- `reconcile`; `none` is not a set of names. -/
def reconcile (runtime : Runtime) (active : Option (List String)) :
    Runtime × Option String :=
  match active with
  | none => (runtime, some "invalid_active_attempts")
  | some active =>
      ({ runtime with
        attempts := runtime.attempts.map (Attempt.reconcile active) }, none)

end Runtime

/-! ## Runs -/

/-- A selection, and what it was made from. -/
structure Decision where
  selection : Selection
  request : Json
  policy : Json
  reports : Json

structure State where
  /-- The selections that are in `selectionBrand`. -/
  decisions : List Decision
  runtimes : List Runtime

inductive Event where
  | select (request policy reports : Json)
  | create (report : Json) (failPrepare failStart : Bool)
  /-- `none` is no selection that was made here. -/
  | prepare (runtime : Nat) (admission : Option Nat)
  | start (runtime : Nat) (token : Option Nat)
  | dispose (runtime token : Nat)
  | disposeHandle (runtime token : Nat)
  | terminate (runtime token : Nat)
  | exit (runtime : Nat) (attemptId : String) (code : Option Int)
  | reconcile (runtime : Nat) (active : Option (List String))

namespace State

def initial : State := ⟨[], []⟩

def at_ (state : State) (place : Nat) (call : Runtime → Option Runtime) :
    Option State := do
  let runtime ← state.runtimes[place]?
  let changed ← call runtime
  return { state with runtimes := state.runtimes.set place changed }

/-- A handle is there once `start` has returned it. -/
def withHandle (changed : Attempt → Attempt) (token : Nat) (runtime : Runtime) :
    Option Runtime :=
  if runtime.attempts[token]?.any Attempt.started then
    some (runtime.change token changed)
  else none

def step (localeCompare : String → String → Int) (state : State) :
    Event → Option State
  | .select request policy reports =>
      match selectWorkloadRuntime localeCompare request policy reports with
      | .ok selection => some { state with decisions :=
          state.decisions ++ [⟨selection, request, policy, reports⟩] }
      | .error _ => some state
  | .create report failPrepare failStart =>
      match Runtime.create report failPrepare failStart with
      | .ok runtime => some { state with
          runtimes := state.runtimes ++ [runtime] }
      | .error _ => some state
  | .prepare place admission => state.at_ place fun runtime =>
      some (runtime.prepare (admission.bind fun index =>
        state.decisions[index]?.map Decision.selection)).1
  | .start place token => state.at_ place fun runtime =>
      some (runtime.start token).1
  | .dispose place token => state.at_ place fun runtime =>
      if token < runtime.attempts.length then
        some (runtime.change token Attempt.dispose)
      else none
  | .disposeHandle place token =>
      state.at_ place (withHandle Attempt.disposeHandle token)
  | .terminate place token =>
      state.at_ place (withHandle Attempt.terminate token)
  | .exit place attemptId code => state.at_ place fun runtime =>
      some (runtime.exit attemptId code).1
  | .reconcile place active => state.at_ place fun runtime =>
      some (runtime.reconcile active).1

def machine (localeCompare : String → String → Int) : Machine State Event :=
  ⟨initial, step localeCompare⟩

end State

/-! ## What a call does to an attempt -/

/-- The ways in which an attempt changes. -/
inductive Attempt.Moves : Attempt → Attempt → Prop where
  | same (attempt : Attempt) : Moves attempt attempt
  | clean (attempt : Attempt) (exit : Exit) : Moves attempt (attempt.clean exit)
  | terminate (attempt : Attempt) (started : attempt.started = true) :
      Moves attempt attempt.terminate
  | start (attempt : Attempt) (startable : attempt.startable = true) :
      Moves attempt { attempt with state := .running, started := true }
  | exits (attempt : Attempt) (code : Int)
      (exitable : attempt.exitable = true) :
      Moves attempt (attempt.exits code)

/-- What is known of an attempt: `done` and `finish` go together, the promise
is settled at most once, and what has been disposed of has ended. -/
structure Attempt.Sound (attempt : Attempt) : Prop where
  finished : attempt.finished = attempt.exit.toList
  done : attempt.done = attempt.exit.isSome
  cleaned : attempt.cleaned = true ↔ attempt.state = .disposed
  prepared : attempt.state = .prepared →
    attempt.done = false ∧ attempt.started = false
  running : attempt.state = .running →
    attempt.done = false ∧ attempt.started = true
  ended : attempt.state ≠ .prepared → attempt.state ≠ .running →
    attempt.done = true

theorem sound_fresh (selection : Selection) :
    (Attempt.fresh selection).Sound := by
  refine ⟨rfl, rfl, ?_, fun _ => ⟨rfl, rfl⟩, ?_, ?_⟩
  · exact ⟨fun cleaned => absurd cleaned Bool.false_ne_true, by
      intro disposed
      cases disposed⟩
  · intro running
    cases running
  · exact fun unprepared => absurd rfl unprepared

theorem finish_done (attempt : Attempt) (exit : Exit) :
    (attempt.finish exit).done = true := by
  unfold Attempt.finish
  split
  · next done => exact done
  · rfl

theorem finish_settled {attempt : Attempt} (sound : attempt.Sound)
    (exit : Exit) :
    (attempt.finish exit).finished = (attempt.finish exit).exit.toList ∧
      (attempt.finish exit).done = (attempt.finish exit).exit.isSome := by
  unfold Attempt.finish
  split
  · exact ⟨sound.finished, sound.done⟩
  · next undone =>
      have none : attempt.exit = none := by
        have same := sound.done
        cases exit : attempt.exit with
        | none => rfl
        | some value =>
            rw [exit] at same
            exact absurd same undone
      refine ⟨?_, rfl⟩
      change attempt.finished ++ [exit] = _
      rw [sound.finished, none]
      rfl

/-- An attempt that has ended in this state. -/
theorem sound_ended {attempt : Attempt} (sound : attempt.Sound) (exit : Exit)
    {state : AttemptState} {cleaned : Bool}
    (ended : state ≠ .prepared ∧ state ≠ .running)
    (same : cleaned = true ↔ state = .disposed) :
    ({ attempt.finish exit with
      state := state, cleaned := cleaned } : Attempt).Sound := by
  obtain ⟨finished, done⟩ := finish_settled sound exit
  exact ⟨finished, done, same, fun prepared => absurd prepared ended.1,
    fun running => absurd running ended.2, fun _ _ => finish_done attempt exit⟩

theorem finish_cleaned (attempt : Attempt) (exit : Exit) :
    (attempt.finish exit).cleaned = attempt.cleaned := by
  unfold Attempt.finish
  split <;> rfl

theorem Attempt.Moves.sound {attempt other : Attempt}
    (moves : attempt.Moves other) (sound : attempt.Sound) : other.Sound := by
  cases moves with
  | same => exact sound
  | clean exit =>
      unfold Attempt.clean
      split
      · exact sound
      · exact sound_ended sound exit (by decide) (by decide)
  | terminate started =>
      unfold Attempt.terminate
      split
      · exact sound
      · next undone =>
          have uncleaned : attempt.cleaned = true ↔
              AttemptState.terminated = .disposed := by
            refine ⟨fun cleaned => ?_, fun same => by cases same⟩
            have disposed := sound.cleaned.mp cleaned
            have done := sound.ended (by rw [disposed]; decide)
              (by rw [disposed]; decide)
            exact absurd done undone
          rw [← finish_cleaned] at uncleaned
          exact sound_ended sound _ (by decide) uncleaned
  | start startable =>
      obtain ⟨prepared, uncleaned⟩ := Bool.and_eq_true_iff.mp startable
      have undone := (sound.prepared (of_decide_eq_true prepared)).1
      refine ⟨sound.finished, sound.done, ?_, ?_, fun _ => ⟨undone, rfl⟩, ?_⟩
      · change attempt.cleaned = true ↔ AttemptState.running = .disposed
        rw [Bool.not_eq_true'] at uncleaned
        rw [uncleaned]
        decide
      · intro prepared
        cases prepared
      · exact fun _ stopped => absurd rfl stopped
  | exits code exitable =>
      obtain ⟨running, _⟩ := Bool.and_eq_true_iff.mp exitable
      have uncleaned : attempt.cleaned = true ↔
          AttemptState.exited = .disposed := by
        rw [sound.cleaned, of_decide_eq_true running]
        decide
      rw [← finish_cleaned] at uncleaned
      exact sound_ended sound _ (by decide) uncleaned

/-- How far an attempt has come. -/
def AttemptState.rank : AttemptState → Nat
  | prepared => 0
  | running => 1
  | exited => 2
  | terminated => 2
  | disposed => 3

/-- What an attempt may be later: it never goes back, and its exit is final. -/
structure Attempt.Later (attempt later : Attempt) : Prop where
  attemptId : later.attemptId = attempt.attemptId
  leaseId : later.leaseId = attempt.leaseId
  rank : attempt.state.rank ≤ later.state.rank
  exit : ∀ exit, attempt.exit = some exit → later.exit = some exit
  cleaned : attempt.cleaned = true → later.cleaned = true

theorem Attempt.Later.refl (attempt : Attempt) : attempt.Later attempt :=
  ⟨rfl, rfl, le_rfl, fun _ same => same, fun same => same⟩

theorem Attempt.Later.trans {attempt later last : Attempt}
    (first : attempt.Later later) (second : later.Later last) :
    attempt.Later last :=
  ⟨second.attemptId.trans first.attemptId, second.leaseId.trans first.leaseId,
    first.rank.trans second.rank,
    fun exit settled => second.exit exit (first.exit exit settled),
    fun cleaned => second.cleaned (first.cleaned cleaned)⟩

/-- Ending an attempt, and saying so, keeps the exit that it had. -/
theorem later_finish {attempt : Attempt} (sound : attempt.Sound) (exit : Exit)
    {state : AttemptState} {cleaned : Bool}
    (rank : attempt.state.rank ≤ state.rank)
    (kept : attempt.cleaned = true → cleaned = true) :
    attempt.Later { attempt.finish exit with
      state := state, cleaned := cleaned } := by
  have same : (attempt.finish exit).attemptId = attempt.attemptId ∧
      (attempt.finish exit).leaseId = attempt.leaseId ∧
        ∀ value, attempt.exit = some value →
          (attempt.finish exit).exit = some value := by
    unfold Attempt.finish
    split
    · exact ⟨rfl, rfl, fun _ settled => settled⟩
    · next undone =>
        refine ⟨rfl, rfl, fun value settled => ?_⟩
        have done := sound.done
        rw [settled] at done
        exact absurd done undone
  exact ⟨same.1, same.2.1, rank, same.2.2, kept⟩

theorem Attempt.Moves.later {attempt other : Attempt}
    (moves : attempt.Moves other) (sound : attempt.Sound) :
    attempt.Later other := by
  have top : ∀ state : AttemptState, state.rank ≤ AttemptState.disposed.rank := by
    intro state
    cases state <;> decide
  cases moves with
  | same => exact .refl attempt
  | clean exit =>
      unfold Attempt.clean
      split
      · exact .refl attempt
      · exact later_finish sound exit (top _) (fun _ => rfl)
  | terminate started =>
      unfold Attempt.terminate
      split
      · exact .refl attempt
      · next undone =>
          have below : attempt.state.rank ≤ AttemptState.terminated.rank := by
            cases state : attempt.state with
            | disposed =>
                have done := sound.ended (by rw [state]; decide)
                  (by rw [state]; decide)
                exact absurd done undone
            | _ => decide
          have later := later_finish sound
            ⟨none, some "TERMINATED"⟩ below (fun cleaned => cleaned)
          rw [← finish_cleaned attempt ⟨none, some "TERMINATED"⟩] at later
          exact later
  | start startable =>
      obtain ⟨prepared, _⟩ := Bool.and_eq_true_iff.mp startable
      refine ⟨rfl, rfl, ?_, fun _ same => same, fun same => same⟩
      rw [of_decide_eq_true prepared]
      exact Nat.zero_le _
  | exits code exitable =>
      obtain ⟨running, _⟩ := Bool.and_eq_true_iff.mp exitable
      have below : attempt.state.rank ≤ AttemptState.exited.rank := by
        rw [of_decide_eq_true running]
        decide
      have later := later_finish sound ⟨some code, none⟩ below
        (fun cleaned => cleaned)
      rw [← finish_cleaned attempt ⟨some code, none⟩] at later
      exact later

/-! ## What a call does to a runtime -/

/-- The ways in which a runtime changes. -/
inductive Runtime.Moves (selections : List Selection) (runtime : Runtime) :
    Runtime → Prop where
  | changed {attempts : List Attempt}
      (moves : List.Forall₂ Attempt.Moves runtime.attempts attempts) :
      Moves selections runtime { runtime with attempts := attempts }
  | failed {attemptId : String} (unseen : attemptId ∉ runtime.seen) :
      Moves selections runtime { runtime with
        seen := runtime.seen ++ [attemptId] }
  | prepared {selection : Selection} (made : selection ∈ selections)
      (owned : selection.runtimeId = runtime.report.runtimeId)
      (unseen : selection.attemptId ∉ runtime.seen) :
      Moves selections runtime { runtime with
        seen := runtime.seen ++ [selection.attemptId]
        attempts := runtime.attempts ++ [.fresh selection] }

theorem forall₂_same (attempts : List Attempt) :
    List.Forall₂ Attempt.Moves attempts attempts :=
  List.forall₂_same.mpr fun attempt _ => .same attempt

theorem moves_same (selections : List Selection) (runtime : Runtime) :
    Runtime.Moves selections runtime runtime :=
  .changed (forall₂_same runtime.attempts)

theorem forall₂_modify {attempts : List Attempt} {token : Nat}
    {changed : Attempt → Attempt}
    (moves : ∀ attempt ∈ attempts[token]?, attempt.Moves (changed attempt)) :
    List.Forall₂ Attempt.Moves attempts (attempts.modify token changed) := by
  induction attempts generalizing token with
  | nil =>
      rw [List.modify_nil]
      exact .nil
  | cons attempt rest induction =>
      cases token with
      | zero => exact .cons (moves attempt rfl) (forall₂_same rest)
      | succ token => exact .cons (.same attempt) (induction moves)

theorem moves_change {selections : List Selection} {runtime : Runtime}
    {token : Nat} {changed : Attempt → Attempt}
    (moves : ∀ attempt ∈ runtime.attempts[token]?,
      attempt.Moves (changed attempt)) :
    Runtime.Moves selections runtime (runtime.change token changed) :=
  .changed (forall₂_modify moves)

theorem moves_prepare {selections : List Selection} (runtime : Runtime)
    {admission : Option Selection} (made : ∀ selection ∈ admission,
      selection ∈ selections) :
    Runtime.Moves selections runtime (runtime.prepare admission).1 := by
  unfold Runtime.prepare
  split
  · exact moves_same selections runtime
  · next selection =>
      split
      · next owned =>
          split
          · split
            · exact moves_same selections runtime
            · next unseen =>
                dsimp only
                split
                · exact .failed unseen
                · exact .prepared (made selection rfl) owned unseen
          · exact moves_same selections runtime
      · exact moves_same selections runtime

theorem moves_start (selections : List Selection) (runtime : Runtime)
    (token : Option Nat) :
    Runtime.Moves selections runtime (runtime.start token).1 := by
  unfold Runtime.start
  split
  · next place attempt found =>
      split
      · next startable =>
          obtain ⟨index, _, found⟩ := Option.bind_eq_some_iff.mp found
          obtain ⟨other, found, same⟩ := Option.map_eq_some_iff.mp found
          cases same
          apply moves_change
          intro changed at_
          rw [Option.mem_def, found] at at_
          cases at_
          unfold Attempt.start
          split
          · exact .clean attempt _
          · exact .start attempt startable
      · exact moves_same selections runtime
  · exact moves_same selections runtime

theorem moves_exit (selections : List Selection) (runtime : Runtime)
    (attemptId : String) (code : Option Int) :
    Runtime.Moves selections runtime (runtime.exit attemptId code).1 := by
  unfold Runtime.exit
  split
  · split
    · next exitable =>
        apply moves_change
        intro attempt found
        rw [Option.mem_def] at found
        rw [found] at exitable
        exact .exits attempt _ exitable
    · exact moves_same selections runtime
  · exact moves_same selections runtime

theorem moves_reconcile (selections : List Selection) (runtime : Runtime)
    (active : Option (List String)) :
    Runtime.Moves selections runtime (runtime.reconcile active).1 := by
  unfold Runtime.reconcile
  split
  · exact moves_same selections runtime
  · refine .changed (List.forall₂_map_right_iff.mpr ?_)
    refine List.forall₂_same.mpr fun attempt _ => ?_
    unfold Attempt.reconcile
    split
    · exact .same attempt
    · exact .clean attempt _

/-! ## Whole runs -/

def State.selections (state : State) : List Selection :=
  state.decisions.map Decision.selection

/-- What a step does: it makes a selection, or a runtime, or changes one. -/
inductive State.Moves (localeCompare : String → String → Int) (state : State) :
    State → Prop where
  | same : Moves localeCompare state state
  | selected {decision : Decision}
      (made : selectWorkloadRuntime localeCompare decision.request
        decision.policy decision.reports = .ok decision.selection) :
      Moves localeCompare state { state with
        decisions := state.decisions ++ [decision] }
  | created {runtime : Runtime}
      (simulated : runtime.report.verification = .simulated)
      (seen : runtime.seen = []) (attempts : runtime.attempts = []) :
      Moves localeCompare state { state with
        runtimes := state.runtimes ++ [runtime] }
  | changed {place : Nat} {runtime other : Runtime}
      (found : state.runtimes[place]? = some runtime)
      (moves : runtime.Moves state.selections other) :
      Moves localeCompare state { state with
        runtimes := state.runtimes.set place other }

variable {localeCompare : String → String → Int}

theorem State.moves_at {state after : State} {place : Nat}
    {call : Runtime → Option Runtime}
    (moves : ∀ runtime other, call runtime = some other →
      runtime.Moves state.selections other)
    (taken : state.at_ place call = some after) :
    State.Moves localeCompare state after := by
  obtain ⟨runtime, found, taken⟩ := Option.bind_eq_some_iff.mp taken
  obtain ⟨other, called, taken⟩ := Option.bind_eq_some_iff.mp taken
  cases taken
  exact .changed found (moves runtime other called)

theorem moves_withHandle {selections : List Selection} {runtime other : Runtime}
    {changed : Attempt → Attempt} {token : Nat}
    (moves : ∀ attempt : Attempt, attempt.started = true →
      attempt.Moves (changed attempt))
    (called : State.withHandle changed token runtime = some other) :
    runtime.Moves selections other := by
  unfold State.withHandle at called
  split at called
  · next handle =>
      cases called
      apply moves_change
      intro attempt found
      rw [Option.mem_def] at found
      rw [found] at handle
      exact moves attempt handle
  · cases called

theorem State.moves_of_step {state after : State} {event : Event}
    (taken : state.step localeCompare event = some after) :
    State.Moves localeCompare state after := by
  cases event with
  | select request policy reports =>
      dsimp only [step] at taken
      split at taken
      · next selection made =>
          cases taken
          exact .selected made
      · cases taken
        exact .same
  | create report failPrepare failStart =>
      dsimp only [step] at taken
      split at taken
      · next runtime created =>
          cases taken
          obtain ⟨valid, _, created⟩ := Failures.ok_of_bind created
          split at created
          · next simulated =>
              cases created
              exact .created simulated rfl rfl
          · cases created
      · cases taken
        exact .same
  | prepare place admission =>
      refine State.moves_at (fun runtime other called => ?_) taken
      cases called
      refine moves_prepare runtime fun selection found => ?_
      obtain ⟨index, _, found⟩ := Option.bind_eq_some_iff.mp found
      obtain ⟨decision, at_, same⟩ := Option.map_eq_some_iff.mp found
      exact List.mem_map.mpr ⟨decision, List.mem_of_getElem? at_, same⟩
  | start place token =>
      refine State.moves_at (fun runtime other called => ?_) taken
      cases called
      exact moves_start _ runtime token
  | dispose place token =>
      refine State.moves_at (fun runtime other called => ?_) taken
      split at called
      · cases called
        exact moves_change fun attempt _ => .clean attempt _
      · cases called
  | disposeHandle place token =>
      exact State.moves_at (fun runtime other called =>
        moves_withHandle (fun attempt _ => .clean attempt _) called) taken
  | terminate place token =>
      exact State.moves_at (fun runtime other called =>
        moves_withHandle .terminate called) taken
  | exit place attemptId code =>
      refine State.moves_at (fun runtime other called => ?_) taken
      cases called
      exact moves_exit _ runtime attemptId code
  | reconcile place active =>
      refine State.moves_at (fun runtime other called => ?_) taken
      cases called
      exact moves_reconcile _ runtime active

/-- What a runtime holds, in every run. -/
structure Runtime.Sound (selections : List Selection) (runtime : Runtime) :
    Prop where
  simulated : runtime.report.verification = .simulated
  seen : runtime.seen.Nodup
  attempts : (runtime.attempts.map Attempt.attemptId).Sublist runtime.seen
  sound : ∀ attempt ∈ runtime.attempts, attempt.Sound
  admitted : ∀ attempt ∈ runtime.attempts, ∃ selection ∈ selections,
    selection.runtimeId = runtime.report.runtimeId ∧
      selection.attemptId = attempt.attemptId ∧
      selection.leaseId = attempt.leaseId

theorem Attempt.Moves.names {attempt other : Attempt}
    (moves : attempt.Moves other) :
    other.attemptId = attempt.attemptId ∧ other.leaseId = attempt.leaseId := by
  have finish : ∀ exit, (attempt.finish exit).attemptId = attempt.attemptId ∧
      (attempt.finish exit).leaseId = attempt.leaseId := by
    intro exit
    unfold Attempt.finish
    split <;> exact ⟨rfl, rfl⟩
  cases moves with
  | same => exact ⟨rfl, rfl⟩
  | clean exit =>
      unfold Attempt.clean
      split
      · exact ⟨rfl, rfl⟩
      · exact finish exit
  | terminate started =>
      unfold Attempt.terminate
      split
      · exact ⟨rfl, rfl⟩
      · exact finish _
  | start startable => exact ⟨rfl, rfl⟩
  | exits code exitable => exact finish _

/-- What holds of every attempt and is kept when one changes holds of those
that they have become. -/
theorem forall_of_moves {attempts others : List Attempt} {P : Attempt → Prop}
    (moves : List.Forall₂ Attempt.Moves attempts others)
    (holds : ∀ attempt ∈ attempts, P attempt)
    (kept : ∀ attempt other, attempt.Moves other → P attempt → P other) :
    ∀ other ∈ others, P other := by
  induction moves with
  | nil => exact List.forall_mem_nil _
  | cons first rest induction =>
      obtain ⟨head, tail⟩ := List.forall_mem_cons.mp holds
      exact List.forall_mem_cons.mpr ⟨kept _ _ first head, induction tail⟩

theorem nodup_snoc {names : List String} {name : String} (nodup : names.Nodup)
    (fresh : name ∉ names) : (names ++ [name]).Nodup := by
  rw [List.nodup_append]
  refine ⟨nodup, List.nodup_singleton name, ?_⟩
  intro old before new last same
  rw [List.mem_singleton.mp last] at same
  exact fresh (same ▸ before)

theorem Runtime.Moves.sound {selections : List Selection}
    {runtime other : Runtime} (moves : runtime.Moves selections other)
    (sound : runtime.Sound selections) : other.Sound selections := by
  cases moves with
  | changed moves =>
      refine ⟨sound.simulated, sound.seen, ?_, ?_, ?_⟩
      · have names : List.Forall₂ (fun attempt other : Attempt =>
            attempt.attemptId = other.attemptId) runtime.attempts _ :=
          moves.imp fun _ _ moves => moves.names.1.symm
        have same := List.forall₂_map_left_iff.mpr
          (List.forall₂_map_right_iff.mpr names)
        rw [List.forall₂_eq_eq_eq] at same
        rw [← same]
        exact sound.attempts
      · exact forall_of_moves moves sound.sound
          (fun _ _ moves sound => moves.sound sound)
      · refine forall_of_moves moves sound.admitted ?_
        rintro attempt other moves ⟨selection, member, owned, same⟩
        obtain ⟨attemptId, leaseId⟩ := moves.names
        exact ⟨selection, member, owned, same.1.trans attemptId.symm,
          same.2.trans leaseId.symm⟩
  | failed unseen =>
      exact ⟨sound.simulated, nodup_snoc sound.seen unseen,
        sound.attempts.trans (List.sublist_append_left _ _), sound.sound,
        sound.admitted⟩
  | @prepared selection made owned unseen =>
      refine ⟨sound.simulated, nodup_snoc sound.seen unseen, ?_, ?_, ?_⟩
      · rw [List.map_append]
        exact sound.attempts.append (List.Sublist.refl _)
      · rw [List.forall_mem_append, List.forall_mem_singleton]
        exact ⟨sound.sound, sound_fresh selection⟩
      · rw [List.forall_mem_append, List.forall_mem_singleton]
        exact ⟨sound.admitted, selection, made, owned, rfl, rfl⟩

/-- The selections are decisions of the policy, and the runtimes are sound. -/
structure State.Sound (localeCompare : String → String → Int) (state : State) :
    Prop where
  decided : ∀ decision ∈ state.decisions,
    selectWorkloadRuntime localeCompare decision.request decision.policy
      decision.reports = .ok decision.selection
  runtimes : ∀ runtime ∈ state.runtimes, runtime.Sound state.selections

theorem Runtime.Sound.mono {selections more : List Selection}
    {runtime : Runtime} (sound : runtime.Sound selections)
    (within : ∀ selection ∈ selections, selection ∈ more) :
    runtime.Sound more := by
  refine ⟨sound.simulated, sound.seen, sound.attempts, sound.sound, ?_⟩
  intro attempt member
  obtain ⟨selection, made, owned⟩ := sound.admitted attempt member
  exact ⟨selection, within selection made, owned⟩

theorem State.Moves.sound {state after : State}
    (moves : State.Moves localeCompare state after)
    (sound : state.Sound localeCompare) : after.Sound localeCompare := by
  cases moves with
  | same => exact sound
  | selected made =>
      constructor
      · rw [List.forall_mem_append, List.forall_mem_singleton]
        exact ⟨sound.decided, made⟩
      · intro runtime member
        apply (sound.runtimes runtime member).mono
        intro selection earlier
        rw [selections, List.map_append]
        exact List.mem_append_left _ earlier
  | created simulated seen attempts =>
      refine ⟨sound.decided, ?_⟩
      rw [List.forall_mem_append, List.forall_mem_singleton]
      refine ⟨sound.runtimes, simulated, ?_, ?_, ?_, ?_⟩
      · rw [seen]
        exact List.nodup_nil
      · rw [attempts]
        exact List.nil_sublist _
      · rw [attempts]
        exact List.forall_mem_nil _
      · rw [attempts]
        exact List.forall_mem_nil _
  | changed found moves =>
      refine ⟨sound.decided, ?_⟩
      intro other member
      rcases List.mem_or_eq_of_mem_set member with old | rfl
      · exact sound.runtimes other old
      · exact moves.sound (sound.runtimes _ (List.mem_of_getElem? found))

theorem sound_of_reaches {history : List Event} {state : State}
    (run : (State.machine localeCompare).Reaches history state) :
    state.Sound localeCompare := by
  have first : State.initial.Sound localeCompare :=
    ⟨List.forall_mem_nil _, List.forall_mem_nil _⟩
  refine run.invariant (fun _ state => state.Sound localeCompare) first ?_
  intro _ _ _ _ _ sound _ taken
  exact (State.moves_of_step taken).sound sound

/-- In every run a runtime holds an attempt once, under a selection for this
runtime that the policy of the operator has granted, and the promise of an
attempt is settled at most once, by the end of its workload. -/
theorem workload_runs (collates : Collates localeCompare)
    {history : List Event} {state : State}
    (run : (State.machine localeCompare).Reaches history state) :
    ∀ runtime ∈ state.runtimes,
      (runtime.attempts.map Attempt.attemptId).Nodup ∧
      ∀ attempt ∈ runtime.attempts, attempt.Sound ∧
        ∃ decision ∈ state.decisions,
          Granted localeCompare decision.request decision.policy
            decision.reports decision.selection ∧
          decision.selection.runtimeId = runtime.report.runtimeId ∧
          decision.selection.attemptId = attempt.attemptId ∧
          decision.selection.leaseId = attempt.leaseId := by
  have sound := sound_of_reaches run
  intro runtime member
  have kept := sound.runtimes runtime member
  refine ⟨kept.seen.sublist kept.attempts, ?_⟩
  intro attempt held
  obtain ⟨selection, made, owned⟩ := kept.admitted attempt held
  obtain ⟨decision, decided, rfl⟩ := List.mem_map.mp made
  exact ⟨kept.sound attempt held, decision, decided,
    (select_iff collates).mp (sound.decided decision decided), owned⟩

/-- An attempt keeps its token, and is only ever further on. -/
theorem later_of_step {state after : State} {event : Event}
    (sound : state.Sound localeCompare)
    (taken : state.step localeCompare event = some after) {place token : Nat}
    {runtime : Runtime} {attempt : Attempt}
    (found : state.runtimes[place]? = some runtime)
    (held : runtime.attempts[token]? = some attempt) :
    ∃ other later, after.runtimes[place]? = some other ∧
      other.attempts[token]? = some later ∧ attempt.Later later := by
  have same : ∃ other later, some runtime = some other ∧
      other.attempts[token]? = some later ∧ attempt.Later later :=
    ⟨runtime, attempt, rfl, held, .refl attempt⟩
  cases State.moves_of_step taken with
  | same => exact found ▸ same
  | selected made => exact found ▸ same
  | created simulated seen attempts =>
      obtain ⟨below, _⟩ := List.getElem?_eq_some_iff.mp found
      dsimp only
      rw [List.getElem?_append_left below, found]
      exact same
  | @changed changedPlace before other at_ moves =>
      obtain ⟨below, _⟩ := List.getElem?_eq_some_iff.mp at_
      dsimp only
      by_cases here : changedPlace = place
      · subst here
        rw [List.getElem?_set_self below]
        cases found.symm.trans at_
        have sound := (sound.runtimes runtime (List.mem_of_getElem? found)).sound
          attempt (List.mem_of_getElem? held)
        cases moves with
        | @changed attempts moves =>
            obtain ⟨inside, same⟩ := List.getElem?_eq_some_iff.mp held
            have step := moves.get inside (moves.length_eq ▸ inside)
            rw [List.get_eq_getElem, same] at step
            exact ⟨_, _, rfl, List.getElem?_eq_getElem _, step.later sound⟩
        | failed unseen => exact ⟨_, attempt, rfl, held, .refl attempt⟩
        | prepared made owned unseen =>
            obtain ⟨inside, _⟩ := List.getElem?_eq_some_iff.mp held
            refine ⟨_, attempt, rfl, ?_, .refl attempt⟩
            rw [List.getElem?_append_left inside]
            exact held
      · rw [List.getElem?_set_ne here, found]
        exact same

/-- A reconciliation disposes of what is not active. -/
theorem reconciled {state after : State} {place token : Nat}
    {active : List String}
    (taken : state.step localeCompare (.reconcile place (some active)) =
      some after) {runtime other : Runtime} {attempt later : Attempt}
    (found : state.runtimes[place]? = some runtime)
    (held : runtime.attempts[token]? = some attempt)
    (foundLater : after.runtimes[place]? = some other)
    (heldLater : other.attempts[token]? = some later)
    (inactive : attempt.attemptId ∉ active) : later.cleaned = true := by
  obtain ⟨before, at_, taken⟩ := Option.bind_eq_some_iff.mp taken
  cases found.symm.trans at_
  cases taken
  obtain ⟨below, _⟩ := List.getElem?_eq_some_iff.mp found
  dsimp only at foundLater
  rw [List.getElem?_set_self below] at foundLater
  cases foundLater
  change (runtime.attempts.map (Attempt.reconcile active))[token]? = _
    at heldLater
  rw [List.getElem?_map, held] at heldLater
  cases heldLater
  rw [Attempt.reconcile, if_neg inactive, Attempt.clean]
  split
  · next cleaned => exact cleaned
  · rfl

/-- Whatever is called, an attempt keeps its token and never goes back: its exit
is final, what has been disposed of stays so, and a reconciliation disposes of
it if it is not active. -/
theorem workload_fates {history events : List Event} {state last : State}
    (run : (State.machine localeCompare).Reaches history state)
    (played : (State.machine localeCompare).playFrom state events = some last)
    {place token : Nat} {runtime : Runtime} {attempt : Attempt}
    (found : state.runtimes[place]? = some runtime)
    (held : runtime.attempts[token]? = some attempt) :
    ∃ other later, last.runtimes[place]? = some other ∧
      other.attempts[token]? = some later ∧ attempt.Later later ∧
      ∀ active, Event.reconcile place (some active) ∈ events →
        attempt.attemptId ∉ active → later.cleaned = true := by
  have sound := sound_of_reaches run
  clear run
  induction events generalizing state runtime attempt with
  | nil =>
      cases played
      refine ⟨runtime, attempt, found, held, .refl attempt, ?_⟩
      intro active none
      cases none
  | cons event rest induction =>
      obtain ⟨between, taken, played⟩ := Option.bind_eq_some_iff.mp played
      replace taken : state.step localeCompare event = some between := taken
      obtain ⟨middle, next, at_, holds, onward⟩ :=
        later_of_step sound taken found held
      obtain ⟨other, later, atLast, holdsLast, further, cleans⟩ :=
        induction played at_ holds ((State.moves_of_step taken).sound sound)
      refine ⟨other, later, atLast, holdsLast, onward.trans further, ?_⟩
      intro active member inactive
      rcases List.mem_cons.mp member with rfl | member
      · exact further.cleaned
          (reconciled taken found held at_ holds inactive)
      · exact cleans active member (onward.attemptId ▸ inactive)

/-- A workload is admitted, prepared and started. -/
def sampleAdmission : List Event :=
  [.select sampleRequest samplePolicy (.array [sampleReport]),
    .create sampleReport false false, .prepare 0 (some 0), .start 0 (some 0)]

/-- It ends, and then it is disposed of. -/
def sampleEnd : List Event := [.exit 0 "attempt" (some 7), .reconcile 0 (some [])]

def runningState : State :=
  ((State.machine compareUnits).play sampleAdmission).getD .initial

theorem running_reaches :
    (State.machine compareUnits).Reaches sampleAdmission runningState := by
  have some : (State.machine compareUnits).play sampleAdmission ≠ none :=
    Option.isSome_iff_ne_none.mp (by decide +kernel)
  exact Machine.reaches_of_play (Option.getD_of_ne_none some _).symm

theorem running_attempt : runningState.runtimes[0]?.bind (·.attempts[0]?) =
    some ⟨"attempt", "lease", .running, false, false, none, [], true⟩ := by
  decide +kernel

theorem workload_runs_sample : ∃ runtime ∈ runningState.runtimes,
    ∃ attempt ∈ runtime.attempts, attempt.Sound ∧
      attempt.state = .running := by
  obtain ⟨runtime, found, held⟩ :=
    Option.bind_eq_some_iff.mp running_attempt
  have sound := workload_runs collates_units running_reaches runtime
    (List.mem_of_getElem? found)
  have member := List.mem_of_getElem? held
  exact ⟨runtime, List.mem_of_getElem? found, _, member,
    (sound.2 _ member).1, rfl⟩

theorem workload_fates_sample : ∃ last other later,
    (State.machine compareUnits).playFrom runningState sampleEnd = some last ∧
      last.runtimes[0]? = some other ∧ other.attempts[0]? = some later ∧
      later.cleaned = true := by
  obtain ⟨runtime, found, held⟩ :=
    Option.bind_eq_some_iff.mp running_attempt
  have ends : ((State.machine compareUnits).playFrom runningState
      sampleEnd).isSome := by decide +kernel
  obtain ⟨last, played⟩ := Option.isSome_iff_exists.mp ends
  obtain ⟨other, later, at_, holds, _, cleans⟩ :=
    workload_fates running_reaches played found held
  exact ⟨last, other, later, played, at_, holds,
    cleans [] (List.mem_cons_of_mem _ List.mem_cons_self) List.not_mem_nil⟩

end WorkloadRuntime

end GpuLink
