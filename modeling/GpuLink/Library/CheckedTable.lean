import Mathlib.Data.List.Nodup

/-!
# Tables that only grow

A table has a primary key, a second unique key that a row may lack, and a check
on each row.  Rows are never changed or removed, and an insertion that would
break a constraint fails.
-/

/-- Rows in insertion order, with the proof that they meet the constraints. -/
structure CheckedTable {ρ κ μ : Type} (key : ρ → κ) (second : ρ → Option μ)
    (check : ρ → Prop) where
  rows : List ρ
  keyed : (rows.map key).Nodup
  apart : (rows.filterMap second).Nodup
  checked : ∀ row ∈ rows, check row

namespace CheckedTable

variable {ρ κ μ : Type} {key : ρ → κ} {second : ρ → Option μ}
  {check : ρ → Prop}

def empty : CheckedTable key second check where
  rows := []
  keyed := List.nodup_nil
  apart := List.nodup_nil
  checked := fun _ none => nomatch none

/-- What an insertion must meet. -/
structure Admits (table : CheckedTable key second check) (row : ρ) : Prop where
  key : key row ∉ table.rows.map key
  second : ∀ other ∈ second row, other ∉ table.rows.filterMap second
  check : check row

/-- The table with one more row. -/
def append (table : CheckedTable key second check) (row : ρ)
    (admits : table.Admits row) : CheckedTable key second check where
  rows := table.rows ++ [row]
  keyed := by
    rw [List.map_append, List.nodup_append]
    refine ⟨table.keyed, List.nodup_singleton _, ?_⟩
    intro first old last new same
    rw [List.mem_singleton.mp new] at same
    exact admits.key (same ▸ old)
  apart := by
    rw [List.filterMap_append, List.nodup_append]
    cases given : second row with
    | none =>
        rw [List.filterMap_cons_none given]
        exact ⟨table.apart, List.nodup_nil, fun _ _ _ none => nomatch none⟩
    | some other =>
        rw [List.filterMap_cons_some given]
        refine ⟨table.apart, List.nodup_singleton _, ?_⟩
        intro first old last new same
        rw [List.mem_singleton.mp new] at same
        exact admits.second other given (same ▸ old)
  checked := by
    intro other member
    rcases List.mem_append.mp member with old | new
    · exact table.checked other old
    · exact List.mem_singleton.mp new ▸ admits.check

theorem eq_of_key {table : CheckedTable key second check} {left right : ρ}
    (leftMember : left ∈ table.rows) (rightMember : right ∈ table.rows)
    (same : key left = key right) : left = right :=
  List.inj_on_of_nodup_map table.keyed leftMember rightMember same

variable [DecidableEq κ] [DecidableEq μ] [DecidablePred check]

instance (table : CheckedTable key second check) (row : ρ) :
    Decidable (table.Admits row) :=
  decidable_of_iff (key row ∉ table.rows.map key ∧
      (∀ other ∈ second row, other ∉ table.rows.filterMap second) ∧ check row)
    ⟨fun meets => ⟨meets.1, meets.2.1, meets.2.2⟩,
      fun meets => ⟨meets.key, meets.second, meets.check⟩⟩

/-- `none` when a constraint fails. -/
def insert (table : CheckedTable key second check) (row : ρ) :
    Option (CheckedTable key second check) :=
  if admits : table.Admits row then some (table.append row admits) else none

theorem insert_eq {table later : CheckedTable key second check} {row : ρ}
    (inserted : table.insert row = some later) :
    table.Admits row ∧ later.rows = table.rows ++ [row] := by
  unfold insert at inserted
  split at inserted
  · next admits =>
      cases inserted
      exact ⟨admits, rfl⟩
  · cases inserted

end CheckedTable
