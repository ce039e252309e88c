import Mathlib.Data.List.Nodup
import Mathlib.Data.List.Perm.Basic

/-!
# Tables whose rows have distinct keys

A table keeps its rows in insertion order together with the proof that no two
of them share a key.  Replacing a row happens in place, a new key is appended,
so a look-up after a write only depends on the look-up before it.
-/

/-- Rows with pairwise distinct keys, in insertion order. -/
structure KeyedTable {ρ κ : Type} (key : ρ → κ) where
  rows : List ρ
  distinct : (rows.map key).Nodup

namespace KeyedTable

variable {ρ κ : Type} {key : ρ → κ}

def empty : KeyedTable key where
  rows := []
  distinct := List.nodup_nil

@[ext] theorem ext {left right : KeyedTable key}
    (rows : left.rows = right.rows) : left = right := by
  cases left
  cases right
  cases rows
  rfl

theorem eq_of_mem_of_key {table : KeyedTable key} {left right : ρ}
    (leftMember : left ∈ table.rows) (rightMember : right ∈ table.rows)
    (sameKey : key left = key right) : left = right :=
  List.inj_on_of_nodup_map table.distinct leftMember rightMember sameKey

variable [DecidableEq κ]

/-- Replace the row with the same key, or append when there is none. -/
def putRows (key : ρ → κ) : List ρ → ρ → List ρ
  | [], row => [row]
  | head :: tail, row =>
      if key head = key row then row :: tail
      else head :: putRows key tail row

theorem mem_putRows {rows : List ρ} {row other : ρ}
    (member : other ∈ putRows key rows row) :
    other = row ∨ other ∈ rows := by
  induction rows with
  | nil => simpa [putRows] using member
  | cons head tail induction =>
      by_cases same : key head = key row
      · simp only [putRows, if_pos same, List.mem_cons] at member
        rcases member with rfl | inTail
        · exact Or.inl rfl
        · exact Or.inr (List.mem_cons_of_mem _ inTail)
      · simp only [putRows, if_neg same, List.mem_cons] at member
        rcases member with rfl | inTail
        · exact Or.inr List.mem_cons_self
        · rcases induction inTail with rfl | older
          · exact Or.inl rfl
          · exact Or.inr (List.mem_cons_of_mem _ older)

theorem keys_putRows_nodup {rows : List ρ} (row : ρ)
    (distinct : (rows.map key).Nodup) :
    ((putRows key rows row).map key).Nodup := by
  induction rows with
  | nil => simp [putRows]
  | cons head tail induction =>
      simp only [List.map_cons, List.nodup_cons] at distinct
      by_cases same : key head = key row
      · simp only [putRows, if_pos same, List.map_cons, List.nodup_cons]
        exact ⟨same ▸ distinct.1, distinct.2⟩
      · simp only [putRows, if_neg same, List.map_cons, List.nodup_cons]
        refine ⟨?_, induction distinct.2⟩
        intro repeated
        obtain ⟨other, member, equality⟩ := List.mem_map.mp repeated
        rcases mem_putRows member with rfl | older
        · exact same equality.symm
        · exact distinct.1 (List.mem_map.mpr ⟨other, older, equality⟩)

theorem find?_putRows (rows : List ρ) (row : ρ) (k : κ) :
    (putRows key rows row).find? (fun r => key r = k) =
      if k = key row then some row
      else rows.find? (fun r => key r = k) := by
  induction rows with
  | nil =>
      by_cases asked : k = key row
      · simp [putRows, asked]
      · simp [putRows, asked, Ne.symm asked]
  | cons head tail induction =>
      by_cases same : key head = key row
      · by_cases asked : k = key row
        · simp [putRows, same, asked]
        · simp [putRows, same, asked, Ne.symm asked]
      · by_cases asked : k = key row
        · simp [putRows, asked, same] at induction ⊢
          exact induction
        · by_cases atHead : key head = k
          · subst atHead
            simp [putRows, asked]
          · simp [putRows, same, asked, atHead, induction]

/-- Rows that precede in the table stay in front of what a put changes. -/
theorem putRows_append {rows : List ρ} {row : ρ}
    (absent : ∀ other ∈ rows, key other ≠ key row)
    (rest : List ρ) :
    putRows key (rows ++ rest) row =
      rows ++ putRows key rest row := by
  induction rows with
  | nil => rfl
  | cons head tail induction =>
      rw [List.cons_append, putRows,
        if_neg (absent head List.mem_cons_self),
        induction (fun other member =>
          absent other (List.mem_cons_of_mem _ member))]
      rfl

theorem find?_append_last {rows : List ρ} {row : ρ}
    (absent : ∀ other ∈ rows, key other ≠ key row) :
    (rows ++ [row]).find? (fun other => key other = key row) = some row := by
  rw [List.find?_append, List.find?_eq_none.mpr (by simpa using absent)]
  simp

def find? (table : KeyedTable key) (k : κ) : Option ρ :=
  table.rows.find? (fun row => key row = k)

def put (table : KeyedTable key) (row : ρ) : KeyedTable key where
  rows := putRows key table.rows row
  distinct := keys_putRows_nodup row table.distinct

def erase (table : KeyedTable key) (k : κ) : KeyedTable key where
  rows := table.rows.filter (fun row => key row ≠ k)
  distinct := (List.filter_sublist.map key).nodup table.distinct

theorem find?_put (table : KeyedTable key) (row : ρ) (k : κ) :
    (table.put row).find? k =
      if k = key row then some row else table.find? k :=
  find?_putRows table.rows row k

@[simp] theorem find?_put_self (table : KeyedTable key) (row : ρ) :
    (table.put row).find? (key row) = some row := by
  simp [find?_put]

theorem find?_put_other (table : KeyedTable key) {row : ρ} {k : κ}
    (different : k ≠ key row) :
    (table.put row).find? k = table.find? k := by
  simp [find?_put, different]

@[simp] theorem find?_erase_self (table : KeyedTable key) (k : κ) :
    (table.erase k).find? k = none := by
  simp [find?, erase, List.find?_eq_none]

theorem find?_erase_other (table : KeyedTable key) {gone k : κ}
    (different : k ≠ gone) :
    (table.erase gone).find? k = table.find? k := by
  unfold find? erase
  rw [List.find?_filter]
  congr 1
  funext row
  by_cases asked : key row = k
  · simp [asked, different]
  · simp [asked]

theorem key_of_find? {table : KeyedTable key} {k : κ} {row : ρ}
    (found : table.find? k = some row) : key row = k := by
  simpa using List.find?_some found

theorem mem_of_find? {table : KeyedTable key} {k : κ} {row : ρ}
    (found : table.find? k = some row) : row ∈ table.rows :=
  List.mem_of_find?_eq_some found

/-- A row of the table is exactly what its key looks up. -/
theorem mem_rows_iff {table : KeyedTable key} {row : ρ} :
    row ∈ table.rows ↔ table.find? (key row) = some row := by
  constructor
  · intro member
    cases found : table.find? (key row) with
    | none =>
        have absent := List.find?_eq_none.mp found row member
        simp at absent
    | some other =>
        have sameKey : key other = key row := key_of_find? found
        exact congrArg some (List.inj_on_of_nodup_map table.distinct
          (mem_of_find? found) member sameKey)
  · exact mem_of_find?

/-- Writing a row back as it is changes nothing. -/
theorem put_of_mem {table : KeyedTable key} {row : ρ}
    (member : row ∈ table.rows) : table.put row = table := by
  have unchanged : ∀ rows : List ρ, (rows.map key).Nodup → row ∈ rows →
      putRows key rows row = rows := by
    intro rows distinct member
    induction rows with
    | nil => cases member
    | cons head tail induction =>
        simp only [List.map_cons, List.nodup_cons] at distinct
        by_cases same : key head = key row
        · have equal : head = row := by
            rcases List.mem_cons.mp member with rfl | inTail
            · rfl
            · exact (distinct.1 (same ▸ List.mem_map_of_mem inTail)).elim
          simp [putRows, equal]
        · have inTail : row ∈ tail := by
            rcases List.mem_cons.mp member with rfl | inTail
            · exact (same rfl).elim
            · exact inTail
          simp [putRows, same, induction distinct.2 inTail]
  exact ext (unchanged table.rows table.distinct member)

theorem erase_of_absent {table : KeyedTable key} {k : κ}
    (absent : table.find? k = none) : table.erase k = table := by
  apply ext
  apply List.filter_eq_self.mpr
  intro row member
  have missing := List.find?_eq_none.mp absent row member
  simpa using missing

theorem mem_put_iff {table : KeyedTable key} {row other : ρ} :
    other ∈ (table.put row).rows ↔
      other = row ∨ (key other ≠ key row ∧ other ∈ table.rows) := by
  rw [mem_rows_iff, find?_put]
  by_cases sameKey : key other = key row
  · simp [sameKey, eq_comm]
  · have different : other ≠ row := fun equality => sameKey (equality ▸ rfl)
    simp [sameKey, different, mem_rows_iff]

/-- Change rows in place; a change that keeps every key keeps them distinct. -/
def modify (table : KeyedTable key) (change : ρ → ρ)
    (keeps : ∀ row, key (change row) = key row) : KeyedTable key where
  rows := table.rows.map change
  distinct := by
    have same : key ∘ change = key := funext keeps
    rw [List.map_map, same]
    exact table.distinct

theorem find?_modify (table : KeyedTable key) {change : ρ → ρ}
    (keeps : ∀ row, key (change row) = key row) (k : κ) :
    (table.modify change keeps).find? k = (table.find? k).map change := by
  simp only [find?, modify, List.find?_map]
  congr 2
  funext row
  simp [keeps]

end KeyedTable
