import Mathlib.Data.List.Perm.Basic
import Mathlib.Logic.Basic

/-!
# Computations that may fail

A chain of fallible steps has a result exactly if every step has, and its
failure is that of the first step that fails.
-/

namespace Failures

variable {ε α β : Type}

theorem ok_of_bind {first : Except ε α} {next : α → Except ε β} {result : β}
    (done : first >>= next = .ok result) :
    ∃ value, first = .ok value ∧ next value = .ok result := by
  cases first with
  | error failure => cases done
  | ok value => exact ⟨value, rfl, done⟩

theorem bind_eq_ok {first : Except ε α} {next : α → Except ε β} {result : β} :
    first >>= next = .ok result ↔
      ∃ value, first = .ok value ∧ next value = .ok result := by
  constructor
  · exact ok_of_bind
  · rintro ⟨value, rfl, done⟩
    exact done

theorem error_of_bind {first : Except ε α} {next : α → Except ε β}
    {failure : ε} (failed : first >>= next = .error failure) :
    first = .error failure ∨
      ∃ value, first = .ok value ∧ next value = .error failure := by
  cases first with
  | error other =>
      cases failed
      exact Or.inl rfl
  | ok value => exact Or.inr ⟨value, rfl, failed⟩

/-- What is said of the failure of a computation. -/
def Fails (about : ε → Prop) (computed : Except ε α) : Prop :=
  ∀ failure, computed = .error failure → about failure

theorem Fails.ok {about : ε → Prop} (value : α) :
    Fails about (.ok value : Except ε α) := by
  intro failure failed
  cases failed

theorem Fails.error {about : ε → Prop} {failure : ε} (said : about failure) :
    Fails about (.error failure : Except ε α) := by
  intro other failed
  cases failed
  exact said

theorem Fails.bind {about : ε → Prop} {first : Except ε α}
    {next : α → Except ε β} (fails : Fails about first)
    (later : ∀ value, Fails about (next value)) :
    Fails about (first >>= next) := by
  intro failure failed
  rcases error_of_bind failed with here | ⟨value, _, there⟩
  · exact fails failure here
  · exact later value failure there

theorem toOption_ok {result : Except ε α} {value : α}
    (done : result.toOption = some value) : result = .ok value := by
  cases result with
  | error failure => cases done
  | ok other =>
      cases done
      rfl

/-! ## Lists -/

theorem mapM_ok {read : α → Except ε β} {items : List α} {results : List β} :
    items.mapM read = .ok results ↔
      List.Forall₂ (fun item result => read item = .ok result) items
        results := by
  induction items generalizing results with
  | nil =>
      rw [List.mapM_nil, List.forall₂_nil_left_iff]
      constructor
      · intro done
        cases done
        rfl
      · rintro rfl
        rfl
  | cons item items induction =>
      rw [List.mapM_cons, List.forall₂_cons_left_iff]
      constructor
      · intro done
        obtain ⟨first, here, done⟩ := ok_of_bind done
        obtain ⟨rest, later, done⟩ := ok_of_bind done
        cases done
        exact ⟨first, rest, here, induction.mp later, rfl⟩
      · rintro ⟨first, rest, here, later, rfl⟩
        rw [here, induction.mpr later]
        rfl

/-- Every result is that of an item. -/
theorem mem_of_mapM {read : α → Except ε β} {items : List α} {results : List β}
    (done : items.mapM read = .ok results) {result : β}
    (member : result ∈ results) : ∃ item ∈ items, read item = .ok result := by
  have pairs := mapM_ok.mp done
  induction pairs with
  | nil => cases member
  | @cons item first items rest here later induction =>
      rcases List.mem_cons.mp member with rfl | member
      · exact ⟨item, List.mem_cons_self, here⟩
      · obtain ⟨other, inItems, reads⟩ := induction (mapM_ok.mpr later) member
        exact ⟨other, List.mem_cons_of_mem _ inItems, reads⟩

/-- A list fails as one of its items does. -/
theorem mapM_error {read : α → Except ε β} {items : List α} {failure : ε}
    (failed : items.mapM read = .error failure) :
    ∃ item ∈ items, read item = .error failure := by
  induction items with
  | nil => cases failed
  | cons item items induction =>
      rw [List.mapM_cons] at failed
      rcases error_of_bind failed with here | ⟨first, _, failed⟩
      · exact ⟨item, List.mem_cons_self, here⟩
      · rcases error_of_bind failed with later | ⟨rest, _, failed⟩
        · obtain ⟨other, member, fails⟩ := induction later
          exact ⟨other, List.mem_cons_of_mem _ member, fails⟩
        · cases failed

/-- With one kind of failure the order of the items is that of the results. -/
theorem mapM_perm {read : α → Except ε β} {items others : List α} {only : ε}
    (single : ∀ item failure, read item = .error failure → failure = only)
    (perm : items.Perm others) :
    (∃ results permuted, items.mapM read = .ok results ∧
      others.mapM read = .ok permuted ∧ results.Perm permuted) ∨
      items.mapM read = .error only ∧ others.mapM read = .error only := by
  cases first : items.mapM read with
  | ok results =>
      obtain ⟨permuted, done, same⟩ :=
        List.perm_comp_forall₂ perm.symm (mapM_ok.mp first)
      exact Or.inl ⟨results, permuted, rfl, mapM_ok.mpr done, same.symm⟩
  | error failure =>
      right
      obtain ⟨_, _, fails⟩ := mapM_error first
      rw [single _ _ fails]
      refine ⟨rfl, ?_⟩
      cases second : others.mapM read with
      | ok permuted =>
          obtain ⟨results, done, _⟩ :=
            List.perm_comp_forall₂ perm (mapM_ok.mp second)
          rw [mapM_ok.mpr done] at first
          cases first
      | error other =>
          obtain ⟨_, _, fails⟩ := mapM_error second
          rw [single _ _ fails]

end Failures
