import Mathlib.Data.List.Basic

/-!
# Machines that take events

A program that runs to the end of a handler before it takes the next event is a
partial step function on states.  Runs are recorded with their events, and may
be restricted to events that are allowed in the state that meets them.
-/

/-- A state machine; `none` is an event that cannot come in that state. -/
structure Machine (S E : Type) where
  initial : S
  step : S → E → Option S

namespace Machine

variable {S E : Type} (machine : Machine S E)

/-- A run whose events were all allowed, oldest first. -/
inductive Runs (allowed : S → E → Prop) : List E → S → Prop where
  | initial : Runs allowed [] machine.initial
  | next {events : List E} {before after : S} {event : E}
      (earlier : Runs allowed events before) (meets : allowed before event)
      (taken : machine.step before event = some after) :
      Runs allowed (events ++ [event]) after

/-- Every event is allowed. -/
def Reaches : List E → S → Prop :=
  machine.Runs (fun _ _ => True)

variable {machine}

/-- What holds at first and is preserved by every allowed event holds at the
end of every run. -/
theorem Runs.invariant {allowed : S → E → Prop} (Inv : List E → S → Prop)
    (first : Inv [] machine.initial)
    (preserved : ∀ {events before event after},
      machine.Runs allowed events before → Inv events before →
        allowed before event → machine.step before event = some after →
          Inv (events ++ [event]) after)
    {events : List E} {state : S} (run : machine.Runs allowed events state) :
    Inv events state := by
  induction run with
  | initial => exact first
  | next earlier meets taken induction =>
      exact preserved earlier induction meets taken

theorem Runs.mono {allowed wider : S → E → Prop}
    (implies : ∀ state event, allowed state event → wider state event)
    {events : List E} {state : S} (run : machine.Runs allowed events state) :
    machine.Runs wider events state := by
  induction run with
  | initial => exact .initial
  | next _ meets taken induction =>
      exact .next induction (implies _ _ meets) taken

theorem Runs.reaches {allowed : S → E → Prop} {events : List E} {state : S}
    (run : machine.Runs allowed events state) : machine.Reaches events state :=
  run.mono (fun _ _ _ => trivial)

variable (machine)

/-- The state after these events, from a given one. -/
def playFrom (state : S) : List E → Option S
  | [] => some state
  | event :: rest => (machine.step state event).bind (fun after =>
      playFrom after rest)

def play (events : List E) : Option S :=
  machine.playFrom machine.initial events

theorem play_get (events : List E) (played : (machine.play events).isSome) :
    machine.play events = some ((machine.play events).get played) :=
  (Option.some_get played).symm

variable {machine}

/-- Each event is allowed in the state that those before it lead to. -/
def Meets (machine : Machine S E) (allowed : S → E → Prop) (state : S) :
    List E → Prop
  | [] => True
  | event :: rest => allowed state event ∧
      ∀ after, machine.step state event = some after →
        machine.Meets allowed after rest

/-- What is asked of the rest after an event can be decided when the event
can be taken or not. -/
def decidableNext (machine : Machine S E) (state : S) (event : E)
    (P : S → Prop) (decidable : ∀ after, Decidable (P after)) :
    Decidable (∀ after, machine.step state event = some after → P after) :=
  match machine.step state event with
  | none => isTrue (fun after some => absurd some (Option.some_ne_none after).symm)
  | some next =>
      have := decidable next
      decidable_of_iff (P next) ⟨fun holds _ same => Option.some.inj same ▸ holds,
        fun all => all next rfl⟩

instance decidableMeets (allowed : S → E → Prop)
    [∀ state event, Decidable (allowed state event)] (state : S) :
    ∀ events, Decidable (machine.Meets allowed state events)
  | [] => isTrue trivial
  | event :: rest =>
      have := machine.decidableNext state event
        (fun after => machine.Meets allowed after rest)
        (fun after => decidableMeets allowed after rest)
      inferInstanceAs (Decidable (_ ∧ _))

theorem runs_of_playFrom {allowed : S → E → Prop} {earlier events : List E}
    {state after : S} (reached : machine.Runs allowed earlier state)
    (meets : machine.Meets allowed state events)
    (played : machine.playFrom state events = some after) :
    machine.Runs allowed (earlier ++ events) after := by
  induction events generalizing earlier state with
  | nil =>
      cases played
      rw [List.append_nil]
      exact reached
  | cons event rest induction =>
      obtain ⟨between, taken, played⟩ := Option.bind_eq_some_iff.mp played
      obtain ⟨first, later⟩ := meets
      have more := induction (.next reached first taken) (later between taken)
        played
      rw [List.append_assoc] at more
      exact more

theorem runs_of_play {allowed : S → E → Prop} {events : List E} {state : S}
    (meets : machine.Meets allowed machine.initial events)
    (played : machine.play events = some state) :
    machine.Runs allowed events state :=
  runs_of_playFrom .initial meets played

theorem Meets.mono {allowed wider : S → E → Prop} {events : List E} {state : S}
    (implies : ∀ state event, allowed state event → wider state event)
    (meets : machine.Meets allowed state events) :
    machine.Meets wider state events := by
  induction events generalizing state with
  | nil => trivial
  | cons event rest induction =>
      refine ⟨implies state event meets.1, ?_⟩
      intro after taken
      exact induction (meets.2 after taken)

/-- Events that are allowed in every state may come at any time. -/
theorem meets_of_forall {allowed : S → E → Prop} {events : List E}
    (always : ∀ event ∈ events, ∀ state, allowed state event) (state : S) :
    machine.Meets allowed state events := by
  induction events generalizing state with
  | nil => trivial
  | cons event rest induction =>
      refine ⟨always event List.mem_cons_self state, ?_⟩
      intro after _
      exact induction (fun other member =>
        always other (List.mem_cons_of_mem _ member)) after

theorem meets_append {allowed : S → E → Prop} {first second : List E}
    {state : S} (earlier : machine.Meets allowed state first)
    (later : ∀ after, machine.playFrom state first = some after →
      machine.Meets allowed after second) :
    machine.Meets allowed state (first ++ second) := by
  induction first generalizing state with
  | nil => exact later state rfl
  | cons event rest induction =>
      refine ⟨earlier.1, ?_⟩
      intro after taken
      refine induction (earlier.2 after taken) ?_
      intro last played
      apply later
      rw [playFrom, taken]
      exact played

theorem reaches_of_play {events : List E} {state : S}
    (played : machine.play events = some state) :
    machine.Reaches events state :=
  runs_of_play (meets_of_forall (fun _ _ _ => trivial) machine.initial) played

end Machine

/-! ## Logs -/

/-- Every entry of the log was allowed after those before it. -/
def Chronological {α : Type} (allowed : List α → α → Prop) (log : List α) :
    Prop :=
  ∀ before entry after, log = before ++ entry :: after → allowed before entry

section Chronological

variable {α : Type} {allowed : List α → α → Prop}

theorem chronological_nil : Chronological allowed [] := by
  intro before entry after split
  simp at split

theorem Chronological.snoc {log : List α} {entry : α}
    (earlier : Chronological allowed log) (last : allowed log entry) :
    Chronological allowed (log ++ [entry]) := by
  intro before other after split
  rcases List.eq_nil_or_concat after with rfl | ⟨middle, final, rfl⟩
  · obtain ⟨rfl, same⟩ := List.append_inj' split rfl
    cases same
    exact last
  · rw [List.concat_eq_append, ← List.cons_append, ← List.append_assoc] at split
    obtain ⟨same, _⟩ := List.append_inj' split rfl
    exact earlier before other middle same

/-- Entries may follow that are allowed from here on. -/
theorem Chronological.append {log more : List α}
    (earlier : Chronological allowed log)
    (later : ∀ entry ∈ more, ∀ middle, allowed (log ++ middle) entry) :
    Chronological allowed (log ++ more) := by
  induction more generalizing log with
  | nil =>
      rw [List.append_nil]
      exact earlier
  | cons entry rest induction =>
      have first := later entry List.mem_cons_self []
      rw [List.append_nil] at first
      have longer := induction (earlier.snoc first) (by
        intro other member middle
        rw [List.append_assoc]
        exact later other (List.mem_cons_of_mem _ member) _)
      rw [List.append_assoc] at longer
      exact longer

end Chronological
