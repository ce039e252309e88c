import Mathlib.Data.Nat.Find
import Mathlib.Logic.Function.Basic

/-!
# The scheduler runner

Triggers share one drain, which runs passes as long as a trigger is pending.
A handler is what runs between two awaits; a behaviour takes one handler after
the other, in any order in which they are due.
-/

namespace GpuLink

namespace SchedulerRunner

/-- A call of `stop`: the drain that it awaits, or how it has settled. -/
inductive StopCall (E : Type) where
  | waiting (drain : Nat)
  | settled (outcome : Except E Unit)

end SchedulerRunner

open SchedulerRunner

/-- Drains are numbered.  The drain in progress has its pass under way, or the
outcome of a pass that has ended and that it has not yet gone on from. -/
structure SchedulerRunner (R E : Type) where
  pending : Bool
  drainPromise : Option (Nat × Option (Except E R))
  stopping : Bool
  drains : Nat
  /-- The drains that have settled. -/
  outcomes : Nat → Option (Except E (Option R))
  stops : Nat → Option (StopCall E)
  /-- The calls of the scheduler's `runOnce`, and those that have ended. -/
  started : Nat
  ended : Nat

namespace SchedulerRunner

variable {R E : Type}

def initial : SchedulerRunner R E where
  pending := false
  drainPromise := none
  stopping := false
  drains := 0
  outcomes _ := none
  stops _ := none
  started := 0
  ended := 0

/-- The `finally` of `#drain`. -/
def finish (runner : SchedulerRunner R E) (drain : Nat)
    (outcome : Except E (Option R)) : SchedulerRunner R E :=
  { runner with
    drainPromise := none
    outcomes := Function.update runner.outcomes drain (some outcome) }

/-- The loop of `#drain` up to its next await, or its end. -/
def loop (runner : SchedulerRunner R E) (drain : Nat) (result : Option R) :
    SchedulerRunner R E :=
  if runner.pending ∧ ¬runner.stopping then
    { runner with
      pending := false
      drainPromise := some (drain, none)
      started := runner.started + 1 }
  else runner.finish drain (.ok result)

/-- `trigger`; the promise is that of a drain. -/
def trigger (runner : SchedulerRunner R E) :
    SchedulerRunner R E × Except String Nat :=
  if runner.stopping then (runner, .error "SchedulerRunner is stopping")
  else
    let runner := { runner with pending := true }
    match runner.drainPromise with
    | some (drain, _) => (runner, .ok drain)
    | none =>
        ({ runner with drains := runner.drains + 1 }.loop runner.drains none,
          .ok runner.drains)

/-- The pass of the drain ends. -/
def passEnds (runner : SchedulerRunner R E) (outcome : Except E R) :
    Option (SchedulerRunner R E) :=
  match runner.drainPromise with
  | some (drain, none) =>
      some { runner with
        drainPromise := some (drain, some outcome)
        ended := runner.ended + 1 }
  | _ => none

/-- The drain goes on after its await. -/
def resume (runner : SchedulerRunner R E) : Option (SchedulerRunner R E) :=
  match runner.drainPromise with
  | some (drain, some (.ok result)) => some (runner.loop drain (some result))
  | some (drain, some (.error error)) =>
      some (runner.finish drain (.error error))
  | _ => none

/-- `stop` up to its await. -/
def stop (runner : SchedulerRunner R E) (call : Nat) : SchedulerRunner R E :=
  { runner with
    stopping := true
    pending := false
    stops := Function.update runner.stops call (some
      (match runner.drainPromise with
      | some (drain, _) => .waiting drain
      | none => .settled (.ok ()))) }

/-- A call of `stop` goes on when the drain has settled. -/
def stopSettles (runner : SchedulerRunner R E) (call : Nat) :
    Option (SchedulerRunner R E) :=
  match runner.stops call with
  | some (.waiting drain) =>
      (runner.outcomes drain).map (fun outcome =>
        { runner with
          stops := Function.update runner.stops call
            (some (.settled (outcome.map (fun _ => ())))) })
  | _ => none

inductive Action (R E : Type) where
  | trigger
  | passEnds (outcome : Except E R)
  | resume
  | stop (call : Nat)
  | stopSettles (call : Nat)

def act (runner : SchedulerRunner R E) :
    Action R E → Option (SchedulerRunner R E)
  | .trigger => some runner.trigger.1
  | .passEnds outcome => runner.passEnds outcome
  | .resume => runner.resume
  | .stop call =>
      if runner.stops call = none then some (runner.stop call) else none
  | .stopSettles call => runner.stopSettles call

/-! ## What a trigger and a drain do -/

theorem trigger_cases (runner : SchedulerRunner R E) :
    (runner.stopping = true ∧ runner.trigger.1 = runner) ∨
      (runner.stopping = false ∧ runner.drainPromise ≠ none ∧
        runner.trigger.1 = { runner with pending := true }) ∨
      (runner.stopping = false ∧ runner.drainPromise = none ∧
        runner.trigger.1 =
          { runner with
            pending := false
            drainPromise := some (runner.drains, none)
            drains := runner.drains + 1
            started := runner.started + 1 }) := by
  cases stopping : runner.stopping with
  | true => exact Or.inl ⟨rfl, by simp [trigger, stopping]⟩
  | false =>
      right
      cases current : runner.drainPromise with
      | none => exact Or.inr ⟨rfl, rfl, by simp [trigger, loop, stopping, current]⟩
      | some drain =>
          exact Or.inl ⟨rfl, Option.some_ne_none _,
            by simp [trigger, stopping, current]⟩

/-! ## What a handler keeps -/

/-- How many passes the runner has under way. -/
def underway (runner : SchedulerRunner R E) : Nat :=
  match runner.drainPromise with
  | some (_, none) => 1
  | _ => 0

structure Consistent (runner : SchedulerRunner R E) : Prop where
  counted : runner.started = runner.ended + runner.underway
  ceased : runner.stopping = true → runner.pending = false
  unsettled : ∀ drain pass, runner.drainPromise = some (drain, pass) →
    drain < runner.drains ∧ runner.outcomes drain = none
  fresh : ∀ drain, runner.drains ≤ drain → runner.outcomes drain = none
  waits : ∀ call drain, runner.stops call = some (.waiting drain) →
    runner.stopping = true ∧
      (runner.outcomes drain ≠ none → runner.drainPromise = none)
  stopped : ∀ call outcome, runner.stops call = some (.settled outcome) →
    runner.stopping = true ∧ runner.drainPromise = none

theorem consistent_initial : Consistent (initial : SchedulerRunner R E) := by
  constructor <;> simp [initial, underway]

/-- A drain that ends settles as the only one in progress. -/
theorem Consistent.finish {runner : SchedulerRunner R E} {drain : Nat}
    (consistent : Consistent runner) (last : drain < runner.drains)
    (rested : runner.started = runner.ended) (outcome : Except E (Option R)) :
    Consistent (runner.finish drain outcome) where
  counted := rested
  ceased := consistent.ceased
  unsettled := by
    intro other pass current
    cases current
  fresh := by
    intro other above
    have different : other ≠ drain := by
      intro same
      have above : runner.drains ≤ other := above
      omega
    simp only [SchedulerRunner.finish, Function.update_of_ne different]
    exact consistent.fresh other above
  waits := by
    intro call other waiting
    exact ⟨(consistent.waits call other waiting).1, fun _ => rfl⟩
  stopped := by
    intro call other settled
    exact ⟨(consistent.stopped call other settled).1, rfl⟩

theorem Consistent.trigger {runner : SchedulerRunner R E}
    (consistent : Consistent runner) : Consistent runner.trigger.1 := by
  rcases trigger_cases runner with ⟨_, same⟩ | ⟨going, _, same⟩ |
    ⟨going, idle, same⟩
  · rw [same]
    exact consistent
  · rw [same]
    constructor
    · exact consistent.counted
    · intro stopping
      have stopping : runner.stopping = true := stopping
      rw [going] at stopping
      cases stopping
    · exact consistent.unsettled
    · exact consistent.fresh
    · exact consistent.waits
    · exact consistent.stopped
  · have counted := consistent.counted
    simp only [underway, idle] at counted
    rw [same]
    constructor
    · simp only [underway]
      omega
    · intro stopping
      rfl
    · intro drain pass current
      cases current
      exact ⟨Nat.lt_succ_self _, consistent.fresh _ (Nat.le_refl _)⟩
    · intro drain above
      exact consistent.fresh drain (Nat.le_of_succ_le above)
    · intro call drain waiting
      have stopping := (consistent.waits call drain waiting).1
      rw [going] at stopping
      cases stopping
    · intro call outcome settled
      have stopping := (consistent.stopped call outcome settled).1
      rw [going] at stopping
      cases stopping

theorem Consistent.passEnds {runner after : SchedulerRunner R E}
    {outcome : Except E R} (consistent : Consistent runner)
    (run : runner.passEnds outcome = some after) : Consistent after := by
  unfold SchedulerRunner.passEnds at run
  split at run
  · rename_i drain current
    cases run
    have counted := consistent.counted
    simp only [underway, current] at counted
    constructor
    · simp only [underway]
      omega
    · exact consistent.ceased
    · intro other pass same
      cases same
      exact consistent.unsettled drain none current
    · exact consistent.fresh
    · intro call other waiting
      obtain ⟨stopping, idle⟩ := consistent.waits call other waiting
      refine ⟨stopping, fun settled => ?_⟩
      have idle := idle settled
      rw [current] at idle
      cases idle
    · intro call other settled
      have idle := (consistent.stopped call other settled).2
      rw [current] at idle
      cases idle
  · cases run

theorem Consistent.resume {runner after : SchedulerRunner R E}
    (consistent : Consistent runner) (run : runner.resume = some after) :
    Consistent after := by
  unfold SchedulerRunner.resume at run
  split at run
  · rename_i drain result current
    cases run
    have counted := consistent.counted
    simp only [underway, current] at counted
    have last := (consistent.unsettled _ _ current).1
    unfold loop
    split
    · rename_i wanted
      have going : runner.stopping = false := by simpa using wanted.2
      constructor
      · simp only [underway]
        omega
      · intro stopping
        rfl
      · intro other pass same
        cases same
        exact consistent.unsettled _ _ current
      · exact consistent.fresh
      · intro call other waiting
        have stopping := (consistent.waits call other waiting).1
        rw [going] at stopping
        cases stopping
      · intro call other settled
        have stopping := (consistent.stopped call other settled).1
        rw [going] at stopping
        cases stopping
    · exact consistent.finish last counted _
  · rename_i drain error current
    cases run
    have counted := consistent.counted
    simp only [underway, current] at counted
    exact consistent.finish (consistent.unsettled _ _ current).1 counted _
  · cases run

theorem Consistent.stop {runner : SchedulerRunner R E} {call : Nat}
    (consistent : Consistent runner) : Consistent (runner.stop call) where
  counted := consistent.counted
  ceased _ := rfl
  unsettled := consistent.unsettled
  fresh := consistent.fresh
  waits := by
    intro other drain waiting
    refine ⟨rfl, ?_⟩
    simp only [SchedulerRunner.stop, Function.update_apply] at waiting ⊢
    split at waiting
    · split at waiting
      · rename_i current pass found
        cases waiting
        intro settled
        exact (settled (consistent.unsettled _ _ found).2).elim
      · cases waiting
    · exact (consistent.waits other drain waiting).2
  stopped := by
    intro other outcome settled
    refine ⟨rfl, ?_⟩
    simp only [SchedulerRunner.stop, Function.update_apply] at settled ⊢
    split at settled
    · split at settled
      · cases settled
      · rename_i idle
        exact idle
    · exact (consistent.stopped other outcome settled).2

theorem Consistent.stopSettles {runner after : SchedulerRunner R E}
    {call : Nat} (consistent : Consistent runner)
    (run : runner.stopSettles call = some after) : Consistent after := by
  unfold SchedulerRunner.stopSettles at run
  split at run
  · rename_i drain waiting
    obtain ⟨outcome, found, rfl⟩ := Option.map_eq_some_iff.mp run
    obtain ⟨stopping, idle⟩ := consistent.waits call drain waiting
    constructor
    · exact consistent.counted
    · exact consistent.ceased
    · exact consistent.unsettled
    · exact consistent.fresh
    · intro other drain waiting
      simp only [Function.update_apply] at waiting
      split at waiting
      · cases waiting
      · exact consistent.waits other drain waiting
    · intro other settled found'
      simp only [Function.update_apply] at found'
      split at found'
      · refine ⟨stopping, idle ?_⟩
        rw [found]
        exact Option.some_ne_none _
      · exact consistent.stopped other settled found'
  · cases run

theorem Consistent.act {runner after : SchedulerRunner R E}
    {action : Action R E} (consistent : Consistent runner)
    (run : runner.act action = some after) : Consistent after := by
  cases action with
  | trigger =>
      cases run
      exact consistent.trigger
  | passEnds outcome => exact consistent.passEnds run
  | resume => exact consistent.resume run
  | stop call =>
      simp only [SchedulerRunner.act] at run
      split at run
      · cases run
        exact consistent.stop
      · cases run
  | stopSettles call => exact consistent.stopSettles run

/-! ## Behaviours -/

/-- A runner from its construction on; at a moment without an action nothing
happens to it.  Passes end, and what follows an await is run. -/
structure Behaviour (R E : Type) where
  state : Nat → SchedulerRunner R E
  action : Nat → Option (Action R E)
  begins : state 0 = initial
  follows : ∀ moment,
    match action moment with
    | none => state (moment + 1) = state moment
    | some action => (state moment).act action = some (state (moment + 1))
  goesOn : ∀ moment, (state moment).drainPromise ≠ none →
    ∃ later, moment ≤ later ∧ action later = some .resume

namespace Behaviour

/-- A pass starts. -/
def Starts (behaviour : Behaviour R E) (moment : Nat) : Prop :=
  (behaviour.state moment).started < (behaviour.state (moment + 1)).started

/-- `stop` is called. -/
def Stops (behaviour : Behaviour R E) (moment : Nat) : Prop :=
  ∃ call, behaviour.action moment = some (.stop call)

/-- A trigger is not refused. -/
def Accepts (behaviour : Behaviour R E) (moment : Nat) : Prop :=
  behaviour.action moment = some .trigger ∧
    (behaviour.state moment).stopping = false

/-- A drain goes on from a failed pass although a trigger is pending. -/
def FailsPending (behaviour : Behaviour R E) (moment : Nat) : Prop :=
  behaviour.action moment = some .resume ∧
    (behaviour.state moment).pending = true ∧
    ∃ drain error, (behaviour.state moment).drainPromise =
      some (drain, some (.error error))

/-- No trigger is lost, and the runner stops in order. -/
structure LosesNoTrigger (behaviour : Behaviour R E) : Prop where
  apart : ∀ moment, (behaviour.state moment).started ≤
    (behaviour.state moment).ended + 1
  followed : ∀ moment, behaviour.Accepts moment →
    ∃ later, moment ≤ later ∧ (behaviour.Starts later ∨ behaviour.Stops later)
  ceased : ∀ moment later, behaviour.Stops moment → moment ≤ later →
    ¬behaviour.Starts later
  stopped : ∀ moment call outcome,
    (behaviour.state moment).stops call = some (.settled outcome) →
    (behaviour.state moment).started = (behaviour.state moment).ended

/-- After a pass that fails while a trigger is pending comes another trigger, or
the runner is stopped. -/
def TriggeredAgain (behaviour : Behaviour R E) : Prop :=
  ∀ moment, behaviour.FailsPending moment → ∃ later, moment < later ∧
    (behaviour.action later = some .trigger ∨ behaviour.Stops later)

theorem consistent (behaviour : Behaviour R E) (moment : Nat) :
    Consistent (behaviour.state moment) := by
  induction moment with
  | zero =>
      rw [behaviour.begins]
      exact consistent_initial
  | succ moment induction =>
      have follows := behaviour.follows moment
      split at follows
      · rw [follows]
        exact induction
      · exact induction.act follows

/-! ## Stopping -/

theorem stopping_act {runner after : SchedulerRunner R E} {action : Action R E}
    (stopping : runner.stopping = true)
    (run : runner.act action = some after) :
    after.stopping = true ∧ after.started = runner.started := by
  cases action with
  | trigger =>
      cases run
      simp [SchedulerRunner.trigger, stopping]
  | passEnds outcome =>
      simp only [act, passEnds] at run
      split at run
      · cases run
        exact ⟨stopping, rfl⟩
      · cases run
  | resume =>
      simp only [act, resume] at run
      split at run
      · cases run
        simp [loop, finish, stopping]
      · cases run
        exact ⟨stopping, rfl⟩
      · cases run
  | stop call =>
      simp only [act] at run
      split at run
      · cases run
        exact ⟨rfl, rfl⟩
      · cases run
  | stopSettles call =>
      simp only [act, stopSettles] at run
      split at run
      · obtain ⟨outcome, _, rfl⟩ := Option.map_eq_some_iff.mp run
        exact ⟨stopping, rfl⟩
      · cases run

theorem stopping_next (behaviour : Behaviour R E) {moment : Nat}
    (stopping : (behaviour.state moment).stopping = true) :
    (behaviour.state (moment + 1)).stopping = true ∧
      ¬behaviour.Starts moment := by
  have follows := behaviour.follows moment
  unfold Starts
  split at follows
  · rw [follows]
    exact ⟨stopping, Nat.lt_irrefl _⟩
  · have kept := stopping_act stopping follows
    refine ⟨kept.1, ?_⟩
    rw [kept.2]
    exact Nat.lt_irrefl _

theorem stopping_of_stops (behaviour : Behaviour R E) {moment later : Nat}
    (stops : behaviour.Stops moment) (after : moment < later) :
    (behaviour.state later).stopping = true := by
  induction later with
  | zero => omega
  | succ later induction =>
      by_cases same : moment = later
      · subst same
        obtain ⟨call, action⟩ := stops
        have follows := behaviour.follows moment
        rw [action] at follows
        simp only [act] at follows
        split at follows
        · rw [← Option.some.inj follows]
          rfl
        · cases follows
      · exact (behaviour.stopping_next (induction (by omega))).1

theorem ceased (behaviour : Behaviour R E) {moment later : Nat}
    (stops : behaviour.Stops moment) (after : moment ≤ later) :
    ¬behaviour.Starts later := by
  by_cases same : moment = later
  · subst same
    obtain ⟨call, action⟩ := stops
    have follows := behaviour.follows moment
    rw [action] at follows
    simp only [act] at follows
    unfold Starts
    split at follows
    · rw [← Option.some.inj follows]
      exact Nat.lt_irrefl _
    · cases follows
  · exact (behaviour.stopping_next
      (behaviour.stopping_of_stops stops (by omega))).2

/-! ## A pending trigger -/

/-- A trigger waits for the pass under way. -/
def Waiting (runner : SchedulerRunner R E) : Prop :=
  runner.pending = true ∧ runner.stopping = false ∧ runner.drainPromise ≠ none

theorem waiting_of_trigger {runner : SchedulerRunner R E}
    (going : runner.stopping = false) :
    runner.started < runner.trigger.1.started ∨ Waiting runner.trigger.1 := by
  rcases trigger_cases runner with ⟨stopping, _⟩ | ⟨_, busy, same⟩ |
    ⟨_, _, same⟩
  · rw [going] at stopping
    cases stopping
  · right
    rw [same]
    exact ⟨rfl, going, busy⟩
  · left
    rw [same]
    exact Nat.lt_succ_self _

/-- What may become of a trigger that waits. -/
theorem waiting_act {runner after : SchedulerRunner R E} {action : Action R E}
    (waiting : Waiting runner) (run : runner.act action = some after) :
    (Waiting after ∧ action ≠ .resume) ∨ runner.started < after.started ∨
      (∃ call, action = .stop call) ∨
        (action = .resume ∧ after.stopping = false ∧
          after.drainPromise = none ∧
          ∃ drain error, runner.drainPromise =
            some (drain, some (.error error))) := by
  obtain ⟨pending, going, busy⟩ := waiting
  cases action with
  | trigger =>
      cases run
      rcases waiting_of_trigger going with starts | waits
      · exact Or.inr (Or.inl starts)
      · exact Or.inl ⟨waits, by simp⟩
  | passEnds outcome =>
      left
      simp only [act, passEnds] at run
      split at run
      · cases run
        exact ⟨⟨pending, going, Option.some_ne_none _⟩, by simp⟩
      · cases run
  | resume =>
      right
      simp only [act, resume] at run
      split at run
      · left
        cases run
        simp [loop, pending, going]
      · rename_i drain error current
        right
        right
        cases run
        exact ⟨rfl, going, rfl, drain, error, current⟩
      · cases run
  | stop call => exact Or.inr (Or.inr (Or.inl ⟨call, rfl⟩))
  | stopSettles call =>
      left
      simp only [act, stopSettles] at run
      split at run
      · obtain ⟨outcome, _, rfl⟩ := Option.map_eq_some_iff.mp run
        exact ⟨⟨pending, going, busy⟩, by simp⟩
      · cases run

theorem idle_act {runner after : SchedulerRunner R E} {action : Action R E}
    (idle : runner.drainPromise = none) (other : action ≠ .trigger)
    (run : runner.act action = some after) :
    after.drainPromise = none ∧ after.started = runner.started ∧
      (after.stopping = runner.stopping ∨ ∃ call, action = .stop call) := by
  cases action with
  | trigger => exact (other rfl).elim
  | passEnds outcome => simp [act, passEnds, idle] at run
  | resume => simp [act, resume, idle] at run
  | stop call =>
      simp only [act] at run
      split at run
      · cases run
        exact ⟨idle, rfl, Or.inr ⟨call, rfl⟩⟩
      · cases run
  | stopSettles call =>
      simp only [act, stopSettles] at run
      split at run
      · obtain ⟨outcome, _, rfl⟩ := Option.map_eq_some_iff.mp run
        exact ⟨idle, rfl, Or.inl rfl⟩
      · cases run

/-- Without a trigger an idle runner stays idle. -/
theorem idle_next (behaviour : Behaviour R E) {moment : Nat}
    (idle : (behaviour.state moment).drainPromise = none)
    (other : behaviour.action moment ≠ some .trigger) :
    (behaviour.state (moment + 1)).drainPromise = none ∧
      ¬behaviour.Starts moment ∧
      ((behaviour.state (moment + 1)).stopping =
        (behaviour.state moment).stopping ∨ behaviour.Stops moment) := by
  have follows := behaviour.follows moment
  unfold Starts
  split at follows
  · rw [follows]
    exact ⟨idle, Nat.lt_irrefl _, Or.inl rfl⟩
  · rename_i action taken
    have kept := idle_act idle (fun same => other (same ▸ taken)) follows
    refine ⟨kept.1, ?_, ?_⟩
    · rw [kept.2.1]
      exact Nat.lt_irrefl _
    · rcases kept.2.2 with same | ⟨call, rfl⟩
      · exact Or.inl same
      · exact Or.inr ⟨call, taken⟩

/-- A trigger that finds the runner idle starts a pass. -/
theorem starts_of_trigger (behaviour : Behaviour R E) {moment : Nat}
    (idle : (behaviour.state moment).drainPromise = none)
    (accepts : behaviour.Accepts moment) : behaviour.Starts moment := by
  obtain ⟨triggered, going⟩ := accepts
  have follows := behaviour.follows moment
  rw [triggered] at follows
  unfold Starts
  rw [← Option.some.inj follows]
  rcases trigger_cases (behaviour.state moment) with ⟨stopping, _⟩ |
    ⟨_, busy, _⟩ | ⟨_, _, same⟩
  · rw [going] at stopping
    cases stopping
  · exact (busy idle).elim
  · rw [same]
    exact Nat.lt_succ_self _

/-- The first trigger that an idle runner gets starts a pass. -/
theorem idle_followed (behaviour : Behaviour R E) (distance : Nat) :
    ∀ moment, (behaviour.state moment).drainPromise = none →
      (behaviour.state moment).stopping = false →
      (behaviour.action (moment + distance) = some .trigger ∨
        behaviour.Stops (moment + distance)) →
      ∃ later, moment ≤ later ∧
        (behaviour.Starts later ∨ behaviour.Stops later) := by
  induction distance with
  | zero =>
      intro moment idle going event
      refine ⟨moment, Nat.le_refl _, ?_⟩
      rcases event with triggered | stops
      · exact Or.inl (behaviour.starts_of_trigger idle ⟨triggered, going⟩)
      · exact Or.inr stops
  | succ distance induction =>
      intro moment idle going event
      by_cases triggered : behaviour.action moment = some .trigger
      · exact ⟨moment, Nat.le_refl _,
          Or.inl (behaviour.starts_of_trigger idle ⟨triggered, going⟩)⟩
      · obtain ⟨idle', _, kept⟩ := behaviour.idle_next idle triggered
        rcases kept with same | stops
        · rw [going] at same
          have event' : behaviour.action (moment + 1 + distance) =
              some .trigger ∨ behaviour.Stops (moment + 1 + distance) := by
            rw [show moment + 1 + distance = moment + (distance + 1) by omega]
            exact event
          obtain ⟨later, after, happens⟩ :=
            induction (moment + 1) idle' same event'
          exact ⟨later, by omega, happens⟩
        · exact ⟨moment, Nat.le_refl _, Or.inr stops⟩

theorem failed_followed (behaviour : Behaviour R E)
    (again : behaviour.TriggeredAgain) {moment : Nat}
    (fails : behaviour.FailsPending moment)
    (going : (behaviour.state (moment + 1)).stopping = false)
    (idle : (behaviour.state (moment + 1)).drainPromise = none) :
    ∃ later, moment ≤ later ∧
      (behaviour.Starts later ∨ behaviour.Stops later) := by
  obtain ⟨later, after, event⟩ := again moment fails
  obtain ⟨distance, rfl⟩ := Nat.exists_eq_add_of_lt after
  rw [show moment + distance + 1 = moment + 1 + distance by omega] at event
  obtain ⟨last, above, happens⟩ :=
    behaviour.idle_followed distance (moment + 1) idle going event
  exact ⟨last, by omega, happens⟩

/-- A trigger that waits is followed by a pass when the drain goes on, unless
the pass under way fails. -/
theorem waiting_followed (behaviour : Behaviour R E)
    (again : behaviour.TriggeredAgain) (distance : Nat) :
    ∀ moment, Waiting (behaviour.state moment) →
      behaviour.action (moment + distance) = some .resume →
      ∃ later, moment ≤ later ∧
        (behaviour.Starts later ∨ behaviour.Stops later) := by
  induction distance with
  | zero =>
      intro moment waiting resumed
      have follows := behaviour.follows moment
      simp only [Nat.add_zero] at resumed
      rw [resumed] at follows
      rcases waiting_act waiting follows with ⟨_, other⟩ | starts |
        ⟨call, stops⟩ | ⟨_, going, idle, failed⟩
      · exact (other rfl).elim
      · exact ⟨moment, Nat.le_refl _, Or.inl starts⟩
      · cases stops
      · exact behaviour.failed_followed again ⟨resumed, waiting.1, failed⟩
          going idle
  | succ distance induction =>
      intro moment waiting resumed
      have follows := behaviour.follows moment
      rw [show moment + (distance + 1) = moment + 1 + distance by omega]
        at resumed
      split at follows
      · rw [← follows] at waiting
        obtain ⟨later, after, happens⟩ := induction (moment + 1) waiting resumed
        exact ⟨later, by omega, happens⟩
      · rename_i action taken
        rcases waiting_act waiting follows with ⟨waits, _⟩ | starts |
          ⟨call, stops⟩ | ⟨resumes, going, idle, failed⟩
        · obtain ⟨later, after, happens⟩ := induction (moment + 1) waits resumed
          exact ⟨later, by omega, happens⟩
        · exact ⟨moment, Nat.le_refl _, Or.inl starts⟩
        · exact ⟨moment, Nat.le_refl _, Or.inr ⟨call, stops ▸ taken⟩⟩
        · exact behaviour.failed_followed again
            ⟨resumes ▸ taken, waiting.1, failed⟩ going idle

/-- A pending trigger was accepted, and no pass has started since. -/
theorem accepted_of_pending (behaviour : Behaviour R E) (moment : Nat)
    (pending : (behaviour.state moment).pending = true) :
    ∃ earlier, earlier < moment ∧ behaviour.Accepts earlier ∧
      ∀ between, earlier ≤ between → between < moment →
        ¬behaviour.Starts between ∧ ¬behaviour.Stops between := by
  induction moment with
  | zero =>
      rw [behaviour.begins] at pending
      cases pending
  | succ moment induction =>
      have follows := behaviour.follows moment
      have extend : (behaviour.state moment).pending = true →
          ¬behaviour.Starts moment → ¬behaviour.Stops moment →
          ∃ earlier, earlier < moment + 1 ∧ behaviour.Accepts earlier ∧
            ∀ between, earlier ≤ between → between < moment + 1 →
              ¬behaviour.Starts between ∧ ¬behaviour.Stops between := by
        intro before starts stops
        obtain ⟨earlier, below, accepts, quiet⟩ := induction before
        refine ⟨earlier, by omega, accepts, ?_⟩
        intro between above below'
        by_cases same : between = moment
        · subst same
          exact ⟨starts, stops⟩
        · exact quiet between above (by omega)
      split at follows
      · rename_i taken
        rw [follows] at pending
        apply extend pending
        · unfold Starts
          rw [follows]
          exact Nat.lt_irrefl _
        · rintro ⟨call, stops⟩
          rw [taken] at stops
          cases stops
      · rename_i action taken
        have unstopped : (∀ call, action ≠ .stop call) →
            ¬behaviour.Stops moment := by
          rintro other ⟨call, stops⟩
          rw [taken] at stops
          exact other call (Option.some.inj stops)
        have still : (behaviour.state (moment + 1)).started =
            (behaviour.state moment).started → ¬behaviour.Starts moment := by
          intro same starts
          unfold Starts at starts
          omega
        cases action with
        | trigger =>
            have after := Option.some.inj follows
            rcases trigger_cases (behaviour.state moment) with
              ⟨_, same⟩ | ⟨going, _, same⟩ | ⟨_, _, same⟩
            · rw [same] at after
              rw [← after] at pending
              exact extend pending (still (by rw [← after]))
                (unstopped (by simp))
            · rw [same] at after
              refine ⟨moment, Nat.lt_succ_self _, ⟨taken, going⟩, ?_⟩
              intro between above below
              have same : between = moment := by omega
              subst same
              exact ⟨still (by rw [← after]), unstopped (by simp)⟩
            · rw [same] at after
              rw [← after] at pending
              cases pending
        | passEnds outcome =>
            simp only [act, passEnds] at follows
            split at follows
            · have after := Option.some.inj follows
              rw [← after] at pending
              exact extend pending (still (by rw [← after]))
                (unstopped (by simp))
            · cases follows
        | resume =>
            simp only [act, resume] at follows
            split at follows
            · have after := Option.some.inj follows
              rw [← after] at pending
              unfold loop at pending after
              split at pending
              · cases pending
              · rename_i later
                rw [if_neg later] at after
                exact extend pending (still (by rw [← after]; rfl))
                  (unstopped (by simp))
            · have after := Option.some.inj follows
              rw [← after] at pending
              exact extend pending (still (by rw [← after]; rfl))
                (unstopped (by simp))
            · cases follows
        | stop call =>
            simp only [act] at follows
            split at follows
            · rw [← Option.some.inj follows] at pending
              cases pending
            · cases follows
        | stopSettles call =>
            simp only [act, stopSettles] at follows
            split at follows
            · obtain ⟨outcome, _, after⟩ := Option.map_eq_some_iff.mp follows
              rw [← after] at pending
              exact extend pending (still (by rw [← after]))
                (unstopped (by simp))
            · cases follows

/-- An idle runner starts a pass at a trigger only. -/
theorem triggered_of_starts (behaviour : Behaviour R E) (distance : Nat) :
    ∀ moment, (behaviour.state moment).drainPromise = none →
      behaviour.Starts (moment + distance) →
      ∃ later, moment ≤ later ∧ behaviour.action later = some .trigger := by
  induction distance with
  | zero =>
      intro moment idle starts
      refine ⟨moment, Nat.le_refl _, ?_⟩
      by_contra other
      exact (behaviour.idle_next idle other).2.1 starts
  | succ distance induction =>
      intro moment idle starts
      by_cases triggered : behaviour.action moment = some .trigger
      · exact ⟨moment, Nat.le_refl _, triggered⟩
      · have starts : behaviour.Starts (moment + 1 + distance) := by
          rw [show moment + 1 + distance = moment + (distance + 1) by omega]
          exact starts
        obtain ⟨later, above, triggered⟩ := induction (moment + 1)
          (behaviour.idle_next idle triggered).1 starts
        exact ⟨later, by omega, triggered⟩

theorem failsPending_next (behaviour : Behaviour R E) {moment : Nat}
    (fails : behaviour.FailsPending moment) :
    (behaviour.state (moment + 1)).drainPromise = none ∧
      ¬behaviour.Starts moment ∧ ¬behaviour.Stops moment := by
  obtain ⟨resumed, _, drain, error, current⟩ := fails
  have follows := behaviour.follows moment
  rw [resumed] at follows
  simp only [act, resume, current] at follows
  have after := Option.some.inj follows
  unfold Starts Stops
  rw [← after, resumed]
  refine ⟨rfl, Nat.lt_irrefl _, ?_⟩
  rintro ⟨call, stops⟩
  cases stops

end Behaviour

open Behaviour

/-- The runner loses no trigger exactly when a pass that fails while a trigger
is pending is always followed by another trigger, or by `stop`. -/
theorem losesNoTrigger_iff (behaviour : Behaviour R E) :
    behaviour.LosesNoTrigger ↔ behaviour.TriggeredAgain := by
  constructor
  · intro lossless moment fails
    obtain ⟨idle, quiet, unstopped⟩ := behaviour.failsPending_next fails
    obtain ⟨earlier, before, accepts, between⟩ :=
      behaviour.accepted_of_pending moment fails.2.1
    obtain ⟨later, above, happens⟩ := lossless.followed earlier accepts
    have after : moment < later := by
      by_contra early
      by_cases same : later = moment
      · subst same
        rcases happens with starts | stops
        · exact quiet starts
        · exact unstopped stops
      · obtain ⟨quiet, unstopped⟩ := between later above (by omega)
        rcases happens with starts | stops
        · exact quiet starts
        · exact unstopped stops
    rcases happens with starts | stops
    · obtain ⟨distance, rfl⟩ := Nat.exists_eq_add_of_lt after
      rw [show moment + distance + 1 = moment + 1 + distance by omega]
        at starts
      obtain ⟨trigger, above, triggered⟩ :=
        behaviour.triggered_of_starts distance (moment + 1) idle starts
      exact ⟨trigger, by omega, Or.inl triggered⟩
    · exact ⟨later, after, Or.inr stops⟩
  · intro again
    constructor
    · intro moment
      have counted := (behaviour.consistent moment).counted
      unfold underway at counted
      split at counted <;> omega
    · rintro moment ⟨triggered, going⟩
      have follows := behaviour.follows moment
      rw [triggered] at follows
      have after := Option.some.inj follows
      rcases waiting_of_trigger going with starts | waiting
      · rw [after] at starts
        exact ⟨moment, Nat.le_refl _, Or.inl starts⟩
      · rw [after] at waiting
        obtain ⟨later, above, resumed⟩ :=
          behaviour.goesOn (moment + 1) waiting.2.2
        obtain ⟨distance, rfl⟩ := Nat.exists_eq_add_of_le above
        obtain ⟨last, above, happens⟩ :=
          behaviour.waiting_followed again distance (moment + 1) waiting resumed
        exact ⟨last, by omega, happens⟩
    · intro moment later stops after
      exact behaviour.ceased stops after
    · intro moment call outcome settled
      have counted := (behaviour.consistent moment).counted
      have idle :=
        ((behaviour.consistent moment).stopped call outcome settled).2
      simp only [underway, idle] at counted
      exact counted

/-- Two triggers, of which the second comes while the first pass runs; then the
pass fails. -/
def failedPass : Nat → Option (Action Unit Unit)
  | 0 => some .trigger
  | 1 => some .trigger
  | 2 => some (.passEnds (.error ()))
  | 3 => some .resume
  | _ => none

def failedPassState : Nat → SchedulerRunner Unit Unit
  | 0 => initial
  | moment + 1 =>
      match failedPass moment with
      | none => failedPassState moment
      | some action =>
          ((failedPassState moment).act action).getD (failedPassState moment)

theorem failedPassState_rest (moment : Nat) :
    failedPassState (moment + 4) = failedPassState 4 := by
  induction moment with
  | zero => rfl
  | succ moment induction => exact induction

def failedPassBehaviour : Behaviour Unit Unit where
  state := failedPassState
  action := failedPass
  begins := rfl
  follows moment := by
    match moment with
    | 0 => rfl
    | 1 => rfl
    | 2 => rfl
    | 3 => rfl
    | _ + 4 => rfl
  goesOn moment busy := by
    match moment with
    | 0 => exact ⟨3, by omega, rfl⟩
    | 1 => exact ⟨3, by omega, rfl⟩
    | 2 => exact ⟨3, by omega, rfl⟩
    | 3 => exact ⟨3, by omega, rfl⟩
    | rest + 4 =>
        rw [failedPassState_rest] at busy
        exact (busy rfl).elim

theorem failedPassState_started (moment : Nat) :
    (failedPassState (moment + 1)).started = 1 := by
  match moment with
  | 0 => rfl
  | 1 => rfl
  | 2 => rfl
  | rest + 3 =>
      rw [show rest + 3 + 1 = rest + 4 from rfl, failedPassState_rest]
      rfl

/-- The second trigger of `failedPass` is accepted and never followed by a
pass. -/
theorem trigger_lost : ¬failedPassBehaviour.LosesNoTrigger := by
  intro lossless
  obtain ⟨later, above, happens⟩ := lossless.followed 1 ⟨rfl, rfl⟩
  obtain ⟨rest, rfl⟩ := Nat.exists_eq_add_of_le' above
  rcases happens with starts | ⟨call, stops⟩
  · have same : (failedPassState (rest + 1)).started <
        (failedPassState (rest + 1 + 1)).started := starts
    rw [failedPassState_started, failedPassState_started] at same
    exact Nat.lt_irrefl _ same
  · have stops : failedPass (rest + 1) = some (.stop call) := stops
    match rest with
    | 0 => cases stops
    | 1 => cases stops
    | 2 => cases stops
    | _ + 3 => cases stops

end SchedulerRunner

end GpuLink
