import Mathlib.Data.List.Sort
import Mathlib.Data.List.Nodup
import Mathlib.Data.List.Perm.Subperm

/-!
# What a limit keeps of sorted rows

Rows are sorted by a preorder and cut to a limit.  Where the preorder leaves
rows tied, the order in which they are met decides; a row is kept whatever that
order is exactly when fewer rows than the limit may come before it.
-/

namespace OrderLimit

variable {ρ κ : Type} [DecidableEq κ]

/-- The rows with another key that may come before `row`. -/
def ahead (le : ρ → ρ → Bool) (key : ρ → κ) (rows : List ρ) (row : ρ) :
    List ρ :=
  rows.filter (fun other => key other ≠ key row && le other row)

variable {le : ρ → ρ → Bool} {key : ρ → κ} {rows : List ρ} {row : ρ}

theorem mem_ahead {other : ρ} :
    other ∈ ahead le key rows row ↔
      other ∈ rows ∧ key other ≠ key row ∧ le other row := by
  simp [ahead]

/-- The sorted rows in front of one of them may come before it. -/
theorem front_subset_ahead (total : ∀ a b, le a b ∨ le b a)
    (trans : ∀ a b c, le a b → le b c → le a c)
    (distinct : (rows.map key).Nodup) {front back : List ρ}
    (sorted : rows.insertionSort (fun a b => le a b) = front ++ row :: back) :
    ∀ other ∈ front, other ∈ ahead le key rows row := by
  intro other member
  have perm := List.perm_insertionSort (fun a b => le a b = true) rows
  rw [sorted] at perm
  have keys : ((front ++ row :: back).map key).Nodup :=
    (perm.map key).nodup_iff.mpr distinct
  have ordered : (front ++ row :: back).Pairwise (fun a b => le a b = true) := by
    have : Std.Total (fun a b => le a b = true) := ⟨total⟩
    have : IsTrans ρ (fun a b => le a b = true) := ⟨trans⟩
    rw [← sorted]
    exact List.pairwise_insertionSort _ rows
  refine mem_ahead.mpr ⟨perm.mem_iff.mp (List.mem_append_left _ member), ?_, ?_⟩
  · rw [List.map_append, List.map_cons] at keys
    exact (List.nodup_append.mp keys).2.2 _ (List.mem_map_of_mem member) _
      List.mem_cons_self
  · exact (List.pairwise_append.mp ordered).2.2 other member row
      List.mem_cons_self

omit [DecidableEq κ] in
/-- The rows around one of the sorted rows are other rows. -/
theorem nodup_around (distinct : (rows.map key).Nodup) {front back : List ρ}
    (sorted : rows.insertionSort (fun a b => le a b) = front ++ row :: back) :
    front.Nodup ∧ row ∉ back := by
  have perm := List.perm_insertionSort (fun a b => le a b = true) rows
  rw [sorted] at perm
  have nodup : (front ++ row :: back).Nodup :=
    perm.nodup_iff.mpr (List.Nodup.of_map key distinct)
  have parts := List.nodup_append.mp nodup
  exact ⟨parts.1, (List.nodup_cons.mp parts.2.1).1⟩

/-- With fewer rows ahead than the limit, the row is kept. -/
theorem mem_take_of_ahead (total : ∀ a b, le a b ∨ le b a)
    (trans : ∀ a b c, le a b → le b c → le a c)
    (distinct : (rows.map key).Nodup) (member : row ∈ rows) {limit : Nat}
    (few : (ahead le key rows row).length < limit) :
    row ∈ (rows.insertionSort (fun a b => le a b)).take limit := by
  obtain ⟨front, back, sorted⟩ :=
    List.append_of_mem ((List.mem_insertionSort (fun a b => le a b)).mpr member)
  have short : front.length ≤ (ahead le key rows row).length :=
    (List.subperm_of_subset (nodup_around distinct sorted).1
      (front_subset_ahead total trans distinct sorted)).length_le
  rw [sorted, List.mem_take_iff_getElem]
  refine ⟨front.length, ?_, by simp⟩
  simp only [List.length_append, List.length_cons]
  omega

/-- The rows, met in an order that comes to `row` last. -/
def lastMet (key : ρ → κ) (rows : List ρ) (row : ρ) : List ρ :=
  rows.filter (fun other => key other ≠ key row) ++
    rows.filter (fun other => key other = key row)

theorem lastMet_perm (key : ρ → κ) (rows : List ρ) (row : ρ) :
    (lastMet key rows row).Perm rows := by
  have parts := List.filter_append_perm
    (fun other => decide (key other ≠ key row)) rows
  simpa [lastMet] using parts

theorem split_of_mem_take {kept : List ρ} {limit : Nat}
    (member : row ∈ kept.take limit) :
    ∃ front back, kept = front ++ row :: back ∧ front.length < limit := by
  obtain ⟨front, back, split⟩ := List.append_of_mem member
  refine ⟨front, back ++ kept.drop limit, ?_, ?_⟩
  · have whole := List.take_append_drop limit kept
    rw [split] at whole
    simpa using whole.symm
  · have bound := List.length_take_le limit kept
    rw [split] at bound
    simp only [List.length_append, List.length_cons] at bound
    omega

/-- What stands before a row that occurs once stands in front of it. -/
theorem mem_front_of_pair {other : ρ} {front back : List ρ}
    (pair : List.Sublist [other, row] (front ++ row :: back))
    (different : other ≠ row) (once : row ∉ back) : other ∈ front := by
  obtain ⟨left, right, split, inFront, inBack⟩ :=
    List.sublist_append_iff.mp pair
  cases left with
  | nil =>
      rw [List.nil_append] at split
      rw [← split] at inBack
      cases inBack with
      | cons _ later =>
          exact (once (later.subset (by simp))).elim
      | cons_cons => exact (different rfl).elim
  | cons head tail =>
      obtain ⟨rfl, _⟩ := List.cons.inj split
      exact inFront.subset List.mem_cons_self

/-- With as many rows ahead as the limit, the row is cut when it is met
last. -/
theorem not_mem_take_of_ahead (distinct : (rows.map key).Nodup) {limit : Nat}
    (many : limit ≤ (ahead le key rows row).length) :
    row ∉ ((lastMet key rows row).insertionSort
      (fun a b => le a b)).take limit := by
  intro kept
  obtain ⟨front, back, sorted, short⟩ := split_of_mem_take kept
  have perm := lastMet_perm key rows row
  have present : row ∈ rows := by
    have member := List.mem_of_mem_take kept
    rw [List.mem_insertionSort] at member
    exact perm.mem_iff.mp member
  have once := (nodup_around ((perm.map key).nodup_iff.mpr distinct) sorted).2
  have inFront : ahead le key rows row ⊆ front := by
    intro other member
    obtain ⟨listed, different, before⟩ := mem_ahead.mp member
    have pair : List.Sublist [other, row] (lastMet key rows row) := by
      apply List.Sublist.append (_ : List.Sublist [other] _)
      · exact List.singleton_sublist.mpr (by simp [present])
      · exact List.singleton_sublist.mpr (by simp [listed, different])
    have ordered : List.Sublist [other, row]
        ((lastMet key rows row).insertionSort (fun a b => le a b)) :=
      List.pair_sublist_insertionSort (r := fun a b => le a b = true) before
        pair
    rw [sorted] at ordered
    exact mem_front_of_pair ordered
      (fun same => different (congrArg key same)) once
  have bounded := (List.subperm_of_subset
    ((List.Nodup.of_map key distinct).filter _) inFront).length_le
  exact absurd many (Nat.not_le.mpr (Nat.lt_of_le_of_lt bounded short))

/-! ## The first of the sorted rows -/

omit [DecidableEq κ] in
theorem head?_insertionSort_eq_none :
    (rows.insertionSort (fun a b => le a b)).head? = none ↔ rows = [] := by
  rw [List.head?_eq_none_iff, ← List.length_eq_zero_iff,
    List.length_insertionSort, List.length_eq_zero_iff]

end OrderLimit
