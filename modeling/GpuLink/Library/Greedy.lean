import Mathlib.Tactic.Common

/-!
# One choice after the other

Items choose in their order, each under what the earlier ones have taken, and
no choice is taken back.  `plan` is the list of these decisions; what was taken
before each of them is told by the decisions in front of it (`plan_choice`).
-/

namespace Greedy

variable {ι ρ γ : Type} (choose : ι → List γ → Option ρ) (uses : ρ → γ)

/-- What the choices that were made use. -/
def used (decisions : List (ι × Option ρ)) : List γ :=
  decisions.filterMap fun decision => decision.2.map uses

/-- The decisions on the items in their order, each under what is taken by
then. -/
def plan : List γ → List ι → List (ι × Option ρ)
  | _, [] => []
  | taken, item :: rest =>
      (item, choose item taken) ::
        plan (((choose item taken).map uses).toList ++ taken) rest

theorem mem_used {decisions : List (ι × Option ρ)} {resource : γ} :
    resource ∈ used uses decisions ↔
      ∃ item choice, (item, some choice) ∈ decisions ∧
        uses choice = resource := by
  simp only [used, List.mem_filterMap, Option.map_eq_some_iff]
  constructor
  · rintro ⟨⟨item, _⟩, member, choice, rfl, same⟩
    exact ⟨item, choice, member, same⟩
  · rintro ⟨item, choice, member, same⟩
    exact ⟨_, member, choice, rfl, same⟩

theorem plan_items (taken : List γ) (items : List ι) :
    (plan choose uses taken items).map Prod.fst = items := by
  induction items generalizing taken with
  | nil => rfl
  | cons item rest induction =>
      exact congrArg (item :: ·) (induction _)

/-- Every decision is the choice under what was taken before it. -/
theorem plan_choice {taken : List γ} {items : List ι}
    {earlier later : List (ι × Option ρ)} {item : ι} {choice : Option ρ}
    (split : plan choose uses taken items =
      earlier ++ (item, choice) :: later) :
    ∃ before, choice = choose item before ∧
      ∀ resource, resource ∈ before ↔
        resource ∈ used uses earlier ∨ resource ∈ taken := by
  induction items generalizing taken earlier with
  | nil =>
      rw [plan] at split
      exact absurd split.symm (by simp)
  | cons head rest induction =>
      rw [plan] at split
      cases earlier with
      | nil =>
          cases split
          exact ⟨taken, rfl, fun resource => by simp [used]⟩
      | cons first earlier =>
          obtain ⟨same, behind⟩ := List.cons.inj split
          subst same
          obtain ⟨before, chosen, members⟩ := induction behind
          refine ⟨before, chosen, fun resource => ?_⟩
          rw [members, List.mem_append]
          cases choose head taken with
          | none => simp [used]
          | some choice => simp [used, or_assoc, or_left_comm]

end Greedy
