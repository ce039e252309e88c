import Mathlib.Logic.Basic
import Mathlib.Data.List.Basic

/-!
# Computations that leave a trace

A fallible computation with the actions that it has taken, oldest first.  What
holds of every action of two computations holds of every action of the one
after the other.
-/

/-- The actions of a computation, and what has come of it. -/
structure Traced (E ε α : Type) where
  trace : List E
  result : Except ε α

namespace Traced

variable {E ε α β : Type}

/-- An action. -/
def act (action : E) : Traced E ε Unit := ⟨[action], .ok ()⟩

/-- What has been computed without one. -/
def lift (result : Except ε α) : Traced E ε α := ⟨[], result⟩

def bind (first : Traced E ε α) (next : α → Traced E ε β) : Traced E ε β :=
  match first.result with
  | .ok value => ⟨first.trace ++ (next value).trace, (next value).result⟩
  | .error failure => ⟨first.trace, .error failure⟩

instance : Monad (Traced E ε) where
  pure value := ⟨[], .ok value⟩
  bind := bind

theorem bind_ok {first : Traced E ε α} {next : α → Traced E ε β} {value : α}
    (done : first.result = .ok value) :
    first >>= next =
      ⟨first.trace ++ (next value).trace, (next value).result⟩ := by
  change bind first next = _
  unfold bind
  rw [done]

theorem bind_error {first : Traced E ε α} {next : α → Traced E ε β}
    {failure : ε} (failed : first.result = .error failure) :
    first >>= next = ⟨first.trace, .error failure⟩ := by
  change bind first next = _
  unfold bind
  rw [failed]

/-! ## Actions -/

/-- Every action is one of these. -/
def Emits (allowed : E → Prop) (run : Traced E ε α) : Prop :=
  ∀ action ∈ run.trace, allowed action

theorem Emits.pure {allowed : E → Prop} (value : α) :
    Emits allowed (Pure.pure value : Traced E ε α) :=
  List.forall_mem_nil _

theorem Emits.lift {allowed : E → Prop} (result : Except ε α) :
    Emits allowed (Traced.lift result : Traced E ε α) :=
  List.forall_mem_nil _

theorem Emits.bind {allowed : E → Prop} {first : Traced E ε α}
    {next : α → Traced E ε β} (emits : Emits allowed first)
    (later : ∀ value, first.result = .ok value → Emits allowed (next value)) :
    Emits allowed (first >>= next) := by
  cases done : first.result with
  | ok value =>
      rw [bind_ok done]
      intro action member
      rcases List.mem_append.mp member with here | there
      · exact emits action here
      · exact later value done action there
  | error failure =>
      rw [bind_error done]
      exact emits

/-! ## Failures and what must follow -/

/-- An action that fails is the last one, and its failure is the result. -/
def Halts (fails : E → ε → Prop) (run : Traced E ε α) : Prop :=
  ∀ earlier action later failure, run.trace = earlier ++ action :: later →
    fails action failure → later = [] ∧ run.result = .error failure

theorem Halts.of_nil {fails : E → ε → Prop} {run : Traced E ε α}
    (nothing : run.trace = []) : Halts fails run := by
  intro earlier action later failure split
  rw [nothing] at split
  exact absurd split.symm (List.append_ne_nil_of_right_ne_nil _
    (List.cons_ne_nil _ _))

/-- An action of two traces, one after the other, is one of the first or one of
the second. -/
theorem split_append {first second earlier later : List E} {action : E}
    (split : first ++ second = earlier ++ action :: later) :
    (∃ rest, first = earlier ++ action :: rest ∧ later = rest ++ second) ∨
      ∃ front, earlier = first ++ front ∧ second = front ++ action :: later := by
  rcases List.append_eq_append_iff.mp split with
    ⟨front, before, after⟩ | ⟨front, before, after⟩
  · exact Or.inr ⟨front, before, after⟩
  · cases front with
    | nil =>
        rw [List.append_nil] at before
        refine Or.inr ⟨[], ?_, after.symm⟩
        rw [before, List.append_nil]
    | cons head rest =>
        obtain ⟨rfl, rfl⟩ := List.cons.inj after
        exact Or.inl ⟨rest, before, rfl⟩

/-- The place of an action among two. -/
theorem split_pair {first second action : E} {earlier later : List E}
    (split : [first, second] = earlier ++ action :: later) :
    (earlier = [] ∧ action = first ∧ later = [second]) ∨
      (earlier = [first] ∧ action = second ∧ later = []) := by
  cases earlier with
  | nil =>
      obtain ⟨rfl, rfl⟩ := List.cons.inj split
      exact Or.inl ⟨rfl, rfl, rfl⟩
  | cons head rest =>
      obtain ⟨rfl, tail⟩ := List.cons.inj split
      obtain ⟨rfl, same⟩ | ⟨more, rfl, never⟩ :=
        List.cons_eq_append_iff.mp tail
      · obtain ⟨rfl, rfl⟩ := List.cons.inj same
        exact Or.inr ⟨rfl, rfl, rfl⟩
      · exact absurd never.symm (List.append_ne_nil_of_right_ne_nil _
          (List.cons_ne_nil _ _))

theorem Halts.bind {fails : E → ε → Prop} {first : Traced E ε α}
    {next : α → Traced E ε β} (halts : Halts fails first)
    (later : ∀ value, first.result = .ok value → Halts fails (next value)) :
    Halts fails (first >>= next) := by
  cases done : first.result with
  | error failure =>
      rw [bind_error done]
      intro earlier action rest other split failed
      obtain ⟨last, result⟩ := halts earlier action rest other split failed
      rw [done] at result
      exact ⟨last, congrArg _ (Except.error.inj result)⟩
  | ok value =>
      rw [bind_ok done]
      intro earlier action rest failure split failed
      rcases split_append split with ⟨after, before, _⟩ | ⟨front, _, there⟩
      · have result := (halts earlier action after failure before failed).2
        rw [done] at result
        cases result
      · exact later value done front action rest failure there failed

/-- Where an action makes another one due, that is the next. -/
def Leads (due : E → E → Prop) (run : Traced E ε α) : Prop :=
  ∀ earlier action later next, run.trace = earlier ++ action :: later →
    due action next → ∃ rest, later = next :: rest

theorem Leads.of_none {due : E → E → Prop} {run : Traced E ε α}
    (none : ∀ action ∈ run.trace, ∀ next, ¬due action next) :
    Leads due run := by
  intro earlier action later next split owed
  refine absurd owed (none action ?_ next)
  rw [split]
  exact List.mem_append_right _ List.mem_cons_self

theorem Leads.bind {due : E → E → Prop} {first : Traced E ε α}
    {next : α → Traced E ε β} (leads : Leads due first)
    (later : ∀ value, first.result = .ok value → Leads due (next value)) :
    Leads due (first >>= next) := by
  cases done : first.result with
  | error failure =>
      rw [bind_error done]
      exact leads
  | ok value =>
      rw [bind_ok done]
      intro earlier action rest after split owed
      rcases split_append split with ⟨middle, before, rfl⟩ | ⟨front, _, there⟩
      · obtain ⟨more, rfl⟩ := leads earlier action middle after before owed
        exact ⟨_, List.cons_append⟩
      · exact later value done front action rest after there owed

/-- An action of this kind comes right after one that has made it due. -/
def Trails (kind : E → Prop) (due : E → E → Prop) (run : Traced E ε α) : Prop :=
  ∀ earlier action later, run.trace = earlier ++ action :: later →
    kind action → ∃ before cause, earlier = before ++ [cause] ∧ due cause action

theorem Trails.of_none {kind : E → Prop} {due : E → E → Prop}
    {run : Traced E ε α} (none : ∀ action ∈ run.trace, ¬kind action) :
    Trails kind due run := by
  intro earlier action later split isKind
  refine absurd isKind (none action ?_)
  rw [split]
  exact List.mem_append_right _ List.mem_cons_self

theorem Trails.bind {kind : E → Prop} {due : E → E → Prop}
    {first : Traced E ε α} {next : α → Traced E ε β}
    (trails : Trails kind due first)
    (later : ∀ value, first.result = .ok value →
      Trails kind due (next value)) :
    Trails kind due (first >>= next) := by
  cases done : first.result with
  | error failure =>
      rw [bind_error done]
      exact trails
  | ok value =>
      rw [bind_ok done]
      intro earlier action rest split isKind
      rcases split_append split with ⟨middle, before, _⟩ | ⟨front, rfl, there⟩
      · exact trails earlier action middle before isKind
      · obtain ⟨before, cause, rfl, owed⟩ :=
          later value done front action rest there isKind
        exact ⟨first.trace ++ before, cause, (List.append_assoc _ _ _).symm,
          owed⟩

/-! ## Results -/

/-- What holds of a result, if there is one. -/
def Gives (holds : α → Prop) (run : Traced E ε α) : Prop :=
  ∀ value, run.result = .ok value → holds value

theorem Gives.pure {holds : α → Prop} {value : α} (good : holds value) :
    Gives holds (Pure.pure value : Traced E ε α) := by
  intro other same
  cases same
  exact good

theorem Gives.bind {holds : β → Prop} {first : Traced E ε α}
    {next : α → Traced E ε β}
    (later : ∀ value, first.result = .ok value → Gives holds (next value)) :
    Gives holds (first >>= next) := by
  intro result done
  cases ran : first.result with
  | ok value =>
      rw [bind_ok ran] at done
      exact later value ran result done
  | error failure =>
      rw [bind_error ran] at done
      cases done

end Traced
