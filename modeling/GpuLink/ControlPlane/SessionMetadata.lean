import GpuLink.Library.Failures
import GpuLink.Shared.Validation
import GpuLink.Store.CanonicalJson

/-!
# Metadata of a session request

A session may carry metadata of its application.  The control plane bounds them
and keeps them with trimmed keys in a fixed order.
-/

namespace GpuLink

namespace SessionMetadata

open JsonText Migration Validation Failures

def sessionMaxMetadataBytes : Nat := 8192

/-- `Object.fromEntries`: the last of several equal names counts. -/
def objectOf (entries : List (String × Json)) : Json :=
  .object (enumerated (entries.foldl assign []))

section Normalize

-- The collation of the runtime.
variable (localeCompare : String → String → Int)

/-- The order that `sort` is given. -/
def KeyOrder (first second : String × Json) : Prop :=
  localeCompare first.1 second.1 ≤ 0

instance : DecidableRel (KeyOrder localeCompare) :=
  fun first second => inferInstanceAs
    (Decidable (localeCompare first.1 second.1 ≤ 0))

def sortEntries (entries : List (String × Json)) : List (String × Json) :=
  entries.insertionSort (KeyOrder localeCompare)

/-- What comes before everything else at each depth. -/
def within (name : String) (depth : Nat) (result : Except String Json) :
    Except String Json :=
  if depth > 4 then .error (name ++ " exceeds maximum nesting depth")
  else result

mutual

def normalizeMetadataValue (name : String) (depth : Nat) :
    Json → Except String Json
  | .null => within name depth (.ok .null)
  | .bool value => within name depth (.ok (.bool value))
  | .string value => within name depth
      (if utf16Length value > 1000 then
        .error (name ++ " strings must contain at most 1000 characters")
      else .ok (.string value))
  | .number value => within name depth (.ok (.number value))
  | .array items => within name depth
      (if items.length > 64 then
        .error (name ++ " arrays must contain at most 64 items")
      else (normalizeItems name depth 0 items).map .array)
  | .object entries => within name depth
      (if entries.length > 64 then
        .error (name ++ " objects must contain at most 64 fields")
      else (normalizeEntries name depth entries).map (fun normalized =>
        objectOf (sortEntries localeCompare normalized)))

/-- The items of an array from an index on. -/
def normalizeItems (name : String) (depth index : Nat) :
    List Json → Except String (List Json)
  | [] => .ok []
  | item :: items => do
      let first ← normalizeMetadataValue
        (name ++ "[" ++ toString index ++ "]") (depth + 1) item
      let others ← normalizeItems name depth (index + 1) items
      return first :: others

def normalizeEntries (name : String) (depth : Nat) :
    List (String × Json) → Except String (List (String × Json))
  | [] => .ok []
  | (key, item) :: entries => do
      let normalizedKey ← requireString (some (.string key)) (name ++ " key")
        100
      let first ← normalizeMetadataValue (name ++ "." ++ normalizedKey)
        (depth + 1) item
      let others ← normalizeEntries name depth entries
      return (normalizedKey, first) :: others

end

def validateMetadata (value : Json) : Except String Json := do
  let normalized ← normalizeMetadataValue localeCompare "session.metadata" 0
    value
  if byteLength (String.ofList (print normalized)) > sessionMaxMetadataBytes then
    throw ("session.metadata must encode to at most " ++
      toString sessionMaxMetadataBytes ++ " bytes")
  return normalized

/-- The metadata of a session request. -/
def requestMetadata (metadata : Option Json) : Except String Json :=
  match metadata with
  | none => validateMetadata localeCompare (.object [])
  | some value => do
      let object ← requireObject (some value) "session.metadata"
      validateMetadata localeCompare object

end Normalize

/-- What the documentation of `localeCompare` promises. -/
structure Collation (localeCompare : String → String → Int) : Prop where
  total : ∀ first second,
    localeCompare first second ≤ 0 ∨ localeCompare second first ≤ 0
  trans : ∀ first second third, localeCompare first second ≤ 0 →
    localeCompare second third ≤ 0 → localeCompare first third ≤ 0

/-! ## Normal values -/

/-- Values as they come out, with the entries of an object in their order. -/
inductive Normal (localeCompare : String → String → Int) :
    Nat → Json → Prop where
  | null {depth : Nat} (shallow : depth ≤ 4) : Normal localeCompare depth .null
  | bool {depth : Nat} (shallow : depth ≤ 4) (value : Bool) :
      Normal localeCompare depth (.bool value)
  | number {depth : Nat} (shallow : depth ≤ 4) (value : Rat) :
      Normal localeCompare depth (.number value)
  | string {depth : Nat} (shallow : depth ≤ 4) {value : String}
      (short : utf16Length value ≤ 1000) :
      Normal localeCompare depth (.string value)
  | array {depth : Nat} (shallow : depth ≤ 4) {items : List Json}
      (few : items.length ≤ 64)
      (normal : ∀ item ∈ items, Normal localeCompare (depth + 1) item) :
      Normal localeCompare depth (.array items)
  | object {depth : Nat} (shallow : depth ≤ 4)
      {entries : List (String × Json)} (few : entries.length ≤ 64)
      (names : ∀ entry ∈ entries, BoundedText 100 entry.1)
      (nodup : (entries.map Prod.fst).Nodup)
      (order : entries.Pairwise (KeyOrder localeCompare))
      (normal : ∀ entry ∈ entries,
        Normal localeCompare (depth + 1) entry.2) :
      Normal localeCompare depth (.object (enumerated entries))

theorem within_ok {name : String} {depth : Nat} {result : Except String Json}
    {value : Json} : within name depth result = .ok value ↔
      depth ≤ 4 ∧ result = .ok value := by
  unfold within
  split
  · next deep => exact ⟨nofun, fun both => absurd both.1 (not_le.mpr deep)⟩
  · next shallow => exact ⟨fun done => ⟨not_lt.mp shallow, done⟩, And.right⟩

/-! ## Order of entries -/

/-- Two indices of one number are one name. -/
theorem arrayIndex_injective {first second : String} {index : Nat}
    (one : arrayIndex? first = some index)
    (other : arrayIndex? second = some index) : first = second := by
  unfold arrayIndex? at one other
  dsimp only at one other
  split_ifs at one other with here there
  rw [Option.some.injEq] at one other
  apply String.toList_inj.mp
  rw [← here.1, ← there.1, one, other]

theorem sortEntries_perm (localeCompare : String → String → Int)
    (entries : List (String × Json)) :
    (sortEntries localeCompare entries).Perm entries :=
  List.perm_insertionSort (KeyOrder localeCompare) entries

theorem sortEntries_pairwise {localeCompare : String → String → Int}
    (collation : Collation localeCompare) (entries : List (String × Json)) :
    (sortEntries localeCompare entries).Pairwise (KeyOrder localeCompare) := by
  have total : Std.Total (KeyOrder localeCompare) :=
    ⟨fun first second => collation.total first.1 second.1⟩
  have trans : IsTrans (String × Json) (KeyOrder localeCompare) :=
    ⟨fun first second third => collation.trans first.1 second.1 third.1⟩
  exact List.pairwise_insertionSort (KeyOrder localeCompare) entries

/-- The order of the indices does not depend on how they came. -/
theorem sort_indices {entries others : List (String × Json)}
    (nodup : (entries.map Prod.fst).Nodup) (perm : others.Perm entries) :
    (others.filter fun entry =>
        (arrayIndex? entry.1).isSome).insertionSort IndexOrder =
      (entries.filter fun entry =>
        (arrayIndex? entry.1).isSome).insertionSort IndexOrder := by
  have sorted := List.perm_insertionSort IndexOrder (others.filter fun entry =>
    (arrayIndex? entry.1).isSome)
  have sorted' := List.perm_insertionSort IndexOrder (entries.filter
    fun entry => (arrayIndex? entry.1).isSome)
  refine List.Perm.eq_of_pairwise ?_
    (List.pairwise_insertionSort IndexOrder _)
    (List.pairwise_insertionSort IndexOrder _)
    (sorted.trans ((perm.filter _).trans sorted'.symm))
  intro entry other member member' below above
  obtain ⟨inOthers, here⟩ := List.mem_filter.mp (sorted.mem_iff.mp member)
  obtain ⟨inEntries, there⟩ := List.mem_filter.mp (sorted'.mem_iff.mp member')
  obtain ⟨index, isIndex⟩ := Option.isSome_iff_exists.mp here
  obtain ⟨index', isIndex'⟩ := Option.isSome_iff_exists.mp there
  have same : index = index' := by
    unfold IndexOrder at below above
    rw [isIndex, isIndex'] at below above
    exact le_antisymm below above
  exact List.inj_on_of_nodup_map nodup (perm.mem_iff.mp inOthers) inEntries
    (arrayIndex_injective isIndex (same ▸ isIndex'))

/-- Sorting what has been enumerated and enumerating it again is the identity:
the sort is stable, and the indices have one order only. -/
theorem enumerated_sort {localeCompare : String → String → Int}
    {entries : List (String × Json)}
    (nodup : (entries.map Prod.fst).Nodup)
    (order : entries.Pairwise (KeyOrder localeCompare)) :
    enumerated (sortEntries localeCompare (enumerated entries)) =
      enumerated entries := by
  have perm : (sortEntries localeCompare (enumerated entries)).Perm entries :=
    (sortEntries_perm localeCompare _).trans (enumerated_perm entries)
  have rest : (sortEntries localeCompare (enumerated entries)).filter
      (fun entry => !(arrayIndex? entry.1).isSome) =
        entries.filter fun entry => !(arrayIndex? entry.1).isSome := by
    have sub : List.Sublist
        (entries.filter fun entry => !(arrayIndex? entry.1).isSome)
        (sortEntries localeCompare (enumerated entries)) :=
      List.sublist_insertionSort (order.filter _)
        (List.sublist_append_right _ _)
    have kept := sub.filter fun entry => !(arrayIndex? entry.1).isSome
    rw [List.filter_filter] at kept
    simp only [Bool.and_self] at kept
    exact (kept.eq_of_length ((perm.filter _).length_eq.symm)).symm
  rw [enumerated, rest, sort_indices nodup perm]
  rfl

/-! ## Equal names -/

theorem mem_assign {fields : List (String × Json)} {entry other : String × Json}
    (member : other ∈ assign fields entry) :
    other = entry ∨ other ∈ fields := by
  unfold assign at member
  split at member
  · obtain ⟨field, inFields, rfl⟩ := List.mem_map.mp member
    split
    · exact Or.inl rfl
    · exact Or.inr inFields
  · rcases List.mem_append.mp member with inFields | last
    · exact Or.inr inFields
    · exact Or.inl (List.mem_singleton.mp last)

/-- A name that is taken stays where it is. -/
theorem names_assign (fields : List (String × Json)) (entry : String × Json) :
    (assign fields entry).map Prod.fst = fields.map Prod.fst ∨
      entry.1 ∉ fields.map Prod.fst ∧
        assign fields entry = fields ++ [entry] := by
  by_cases used : entry.1 ∈ fields.map Prod.fst
  · left
    obtain ⟨field, member, same⟩ := List.mem_map.mp used
    have taken : fields.any (fun field => field.1 = entry.1) = true :=
      List.any_eq_true.mpr ⟨field, member, by simpa using same⟩
    rw [assign, if_pos taken, List.map_map]
    apply List.map_congr_left
    intro other _
    dsimp only [Function.comp]
    split
    · next equal => exact equal.symm
    · rfl
  · exact Or.inr ⟨used, assign_new used⟩

/-- What is left of a list when of equal names only the last counts. -/
structure Merged (entries merged : List (String × Json)) : Prop where
  nodup : (merged.map Prod.fst).Nodup
  mem : ∀ entry ∈ merged, entry ∈ entries
  names : List.Sublist (merged.map Prod.fst) (entries.map Prod.fst)

theorem merged_assign {earlier entries fields : List (String × Json)}
    (merged : Merged earlier fields) :
    Merged (earlier ++ entries) (entries.foldl assign fields) := by
  induction entries generalizing earlier fields with
  | nil =>
      rw [List.append_nil]
      exact merged
  | cons entry entries induction =>
      have next : Merged (earlier ++ [entry]) (assign fields entry) := by
        have members : ∀ other ∈ assign fields entry,
            other ∈ earlier ++ [entry] := by
          intro other member
          rcases mem_assign member with rfl | old
          · exact List.mem_append_right _ List.mem_cons_self
          · exact List.mem_append_left _ (merged.mem other old)
        rcases names_assign fields entry with same | ⟨unused, appended⟩
        · refine ⟨same ▸ merged.nodup, members, ?_⟩
          rw [same, List.map_append]
          exact merged.names.trans (List.sublist_append_left _ _)
        · refine ⟨?_, members, ?_⟩
          · rw [appended, List.map_append, List.nodup_append]
            refine ⟨merged.nodup, List.nodup_singleton _, ?_⟩
            intro name old other last same
            rw [List.map_singleton, List.mem_singleton] at last
            exact unused (last ▸ same ▸ old)
          · rw [appended, List.map_append, List.map_append]
            exact merged.names.append (List.Sublist.refl _)
      have rest := induction next
      rw [List.append_assoc] at rest
      exact rest

theorem merged_objectOf (entries : List (String × Json)) :
    Merged entries (entries.foldl assign []) := by
  have nothing : Merged [] [] :=
    ⟨List.nodup_nil, List.forall_mem_nil _, List.Sublist.refl _⟩
  exact merged_assign nothing

theorem Merged.length_le {entries merged : List (String × Json)}
    (whole : Merged entries merged) : merged.length ≤ entries.length := by
  have names := whole.names.length_le
  rw [List.length_map, List.length_map] at names
  exact names

theorem Merged.pairwise {localeCompare : String → String → Int}
    {entries merged : List (String × Json)} (whole : Merged entries merged)
    (order : entries.Pairwise (KeyOrder localeCompare)) :
    merged.Pairwise (KeyOrder localeCompare) := by
  have names : (entries.map Prod.fst).Pairwise (fun first second =>
      localeCompare first second ≤ 0) := List.pairwise_map.mpr order
  have kept := names.sublist whole.names
  rw [List.pairwise_map] at kept
  exact kept

/-! ## What normalisation does -/

theorem forall₂_mem_right {α β : Type} {R : α → β → Prop} {items : List α}
    {others : List β} (pairs : List.Forall₂ R items others) {other : β}
    (member : other ∈ others) : ∃ item ∈ items, R item other := by
  induction pairs with
  | nil => cases member
  | cons here rest induction =>
      rcases List.mem_cons.mp member with rfl | later
      · exact ⟨_, List.mem_cons_self, here⟩
      · obtain ⟨item, inItems, related⟩ := induction later
        exact ⟨item, List.mem_cons_of_mem _ inItems, related⟩

section

variable {localeCompare : String → String → Int}

theorem forall₂_imp_mem {α β : Type} {R S : α → β → Prop} {items : List α}
    {others : List β} (pairs : List.Forall₂ R items others)
    (implies : ∀ item ∈ items, ∀ other, R item other → S item other) :
    List.Forall₂ S items others := by
  induction pairs with
  | nil => exact .nil
  | cons here rest induction =>
      exact .cons (implies _ List.mem_cons_self _ here) (induction
        fun item member => implies item (List.mem_cons_of_mem _ member))

theorem normalizeItems_ok {name : String} {depth index : Nat}
    {items normalized : List Json}
    (done : normalizeItems localeCompare name depth index items =
      .ok normalized) :
    List.Forall₂ (fun item result => ∃ name,
      normalizeMetadataValue localeCompare name (depth + 1) item = .ok result)
      items normalized := by
  induction items generalizing index normalized with
  | nil =>
      rw [normalizeItems] at done
      cases done
      exact .nil
  | cons item items induction =>
      rw [normalizeItems] at done
      obtain ⟨first, here, done⟩ := ok_of_bind done
      obtain ⟨others, rest, done⟩ := ok_of_bind done
      cases done
      exact .cons ⟨_, here⟩ (induction rest)

theorem normalizeItems_self {name : String} {depth index : Nat}
    {items : List Json} (each : ∀ item ∈ items, ∀ name,
      normalizeMetadataValue localeCompare name (depth + 1) item = .ok item) :
    normalizeItems localeCompare name depth index items = .ok items := by
  induction items generalizing index with
  | nil => rw [normalizeItems]
  | cons item items induction =>
      rw [normalizeItems, each item List.mem_cons_self, induction
        (fun other member => each other (List.mem_cons_of_mem _ member))]
      rfl

/-- What becomes of an entry of an object. -/
structure Entry (localeCompare : String → String → Int) (depth : Nat)
    (entry result : String × Json) : Prop where
  key : result.1 = trimText entry.1
  bounded : BoundedText 100 result.1
  value : ∃ name,
    normalizeMetadataValue localeCompare name (depth + 1) entry.2 =
      .ok result.2

theorem normalizeEntries_ok {name : String} {depth : Nat}
    {entries normalized : List (String × Json)}
    (done : normalizeEntries localeCompare name depth entries =
      .ok normalized) :
    List.Forall₂ (Entry localeCompare depth) entries normalized := by
  induction entries generalizing normalized with
  | nil =>
      rw [normalizeEntries] at done
      cases done
      exact .nil
  | cons entry entries induction =>
      obtain ⟨key, item⟩ := entry
      rw [normalizeEntries] at done
      obtain ⟨normalizedKey, read, done⟩ := ok_of_bind done
      obtain ⟨first, here, done⟩ := ok_of_bind done
      obtain ⟨others, rest, done⟩ := ok_of_bind done
      cases done
      exact .cons ⟨requireString_string_ok read, requireString_ok read, _, here⟩
        (induction rest)

theorem normalizeEntries_self {name : String} {depth : Nat}
    {entries : List (String × Json)}
    (names : ∀ entry ∈ entries, BoundedText 100 entry.1)
    (each : ∀ entry ∈ entries, ∀ name,
      normalizeMetadataValue localeCompare name (depth + 1) entry.2 =
        .ok entry.2) :
    normalizeEntries localeCompare name depth entries = .ok entries := by
  induction entries with
  | nil => rw [normalizeEntries]
  | cons entry entries induction =>
      obtain ⟨key, item⟩ := entry
      have read := @requireString_of (name ++ " key") _ _
        (names (key, item) List.mem_cons_self)
      have here := each (key, item) List.mem_cons_self
      have rest := induction
        (fun other member => names other (List.mem_cons_of_mem _ member))
        (fun other member => each other (List.mem_cons_of_mem _ member))
      rw [normalizeEntries]
      simp only [read, here, rest, bind, Except.bind]
      rfl

theorem map_ok {α β : Type} {result : Except String α} {change : α → β}
    {value : β} (done : result.map change = .ok value) :
    ∃ before, result = .ok before ∧ change before = value := by
  cases result with
  | error message => cases done
  | ok before => exact ⟨before, rfl, Except.ok.inj done⟩

/-- The entries of an object before they are enumerated. -/
def entriesOf (localeCompare : String → String → Int)
    (normalized : List (String × Json)) : List (String × Json) :=
  (sortEntries localeCompare normalized).foldl assign []

theorem merged_entriesOf (normalized : List (String × Json)) :
    Merged (sortEntries localeCompare normalized)
      (entriesOf localeCompare normalized) :=
  merged_objectOf _

theorem normalize_normal (collation : Collation localeCompare)
    (value : Json) : ∀ {name : String} {depth : Nat} {normalized : Json},
      normalizeMetadataValue localeCompare name depth value = .ok normalized →
        Normal localeCompare depth normalized := by
  induction value using Json.induction with
  | null =>
      intro name depth normalized done
      rw [normalizeMetadataValue, within_ok] at done
      obtain ⟨shallow, done⟩ := done
      cases done
      exact .null shallow
  | bool value =>
      intro name depth normalized done
      rw [normalizeMetadataValue, within_ok] at done
      obtain ⟨shallow, done⟩ := done
      cases done
      exact .bool shallow value
  | number value =>
      intro name depth normalized done
      rw [normalizeMetadataValue, within_ok] at done
      obtain ⟨shallow, done⟩ := done
      cases done
      exact .number shallow value
  | string value =>
      intro name depth normalized done
      rw [normalizeMetadataValue, within_ok] at done
      obtain ⟨shallow, done⟩ := done
      split_ifs at done with long
      cases done
      exact .string shallow (not_lt.mp long)
  | array items each =>
      intro name depth normalized done
      rw [normalizeMetadataValue, within_ok] at done
      obtain ⟨shallow, done⟩ := done
      split_ifs at done with many
      obtain ⟨results, ran, rfl⟩ := map_ok done
      have pairs := normalizeItems_ok ran
      refine .array shallow (pairs.length_eq ▸ not_lt.mp many) ?_
      intro result member
      obtain ⟨item, inItems, name, here⟩ := forall₂_mem_right pairs member
      exact each item inItems here
  | object entries each =>
      intro name depth normalized done
      rw [normalizeMetadataValue, within_ok] at done
      obtain ⟨shallow, done⟩ := done
      split_ifs at done with many
      obtain ⟨results, ran, rfl⟩ := map_ok done
      have pairs := normalizeEntries_ok ran
      have merged := @merged_entriesOf localeCompare results
      have perm := sortEntries_perm localeCompare results
      refine .object shallow ?_ ?_ merged.nodup
        (merged.pairwise (sortEntries_pairwise collation results)) ?_
      · have shorter := merged.length_le
        rw [perm.length_eq, ← pairs.length_eq] at shorter
        exact shorter.trans (not_lt.mp many)
      · intro result member
        obtain ⟨entry, _, kept⟩ := forall₂_mem_right pairs
          (perm.mem_iff.mp (merged.mem result member))
        exact kept.bounded
      · intro result member
        obtain ⟨entry, inEntries, kept⟩ := forall₂_mem_right pairs
          (perm.mem_iff.mp (merged.mem result member))
        obtain ⟨name, here⟩ := kept.value
        exact each entry inEntries here

/-- What comes out is taken as it is. -/
theorem normalize_of_normal {depth : Nat} {value : Json}
    (normal : Normal localeCompare depth value) (name : String) :
    normalizeMetadataValue localeCompare name depth value = .ok value := by
  induction normal generalizing name with
  | null shallow =>
      rw [normalizeMetadataValue, within_ok]
      exact ⟨shallow, rfl⟩
  | bool shallow value =>
      rw [normalizeMetadataValue, within_ok]
      exact ⟨shallow, rfl⟩
  | number shallow value =>
      rw [normalizeMetadataValue, within_ok]
      exact ⟨shallow, rfl⟩
  | string shallow short =>
      rw [normalizeMetadataValue, within_ok, if_neg (not_lt.mpr short)]
      exact ⟨shallow, rfl⟩
  | array shallow few normal each =>
      rw [normalizeMetadataValue, within_ok, if_neg (not_lt.mpr few),
        normalizeItems_self each]
      exact ⟨shallow, rfl⟩
  | @object depth shallow entries few names nodup order normal each =>
      have perm := enumerated_perm entries
      have same : normalizeEntries localeCompare name depth
          (enumerated entries) = .ok (enumerated entries) := by
        apply normalizeEntries_self
        · intro entry member
          exact names entry (perm.mem_iff.mp member)
        · intro entry member
          exact each entry (perm.mem_iff.mp member)
      have distinct : (([] ++ sortEntries localeCompare
          (enumerated entries)).map Prod.fst).Nodup := by
        have sorted := (sortEntries_perm localeCompare _).trans perm
        exact (sorted.map Prod.fst).nodup_iff.mpr nodup
      rw [normalizeMetadataValue, within_ok,
        if_neg (not_lt.mpr (perm.length_eq ▸ few)), same]
      refine ⟨shallow, ?_⟩
      change Except.ok (objectOf (sortEntries localeCompare
        (enumerated entries))) = _
      rw [objectOf, foldl_assign distinct, List.nil_append,
        enumerated_sort nodup order]

end

/-! ## Losses -/

/-- The same members at every depth, with trimmed names in any order. -/
inductive Lossless : Json → Json → Prop where
  | null : Lossless .null .null
  | bool (value : Bool) : Lossless (.bool value) (.bool value)
  | number (value : Rat) : Lossless (.number value) (.number value)
  | string (value : String) : Lossless (.string value) (.string value)
  | array {items others : List Json}
      (each : List.Forall₂ Lossless items others) :
      Lossless (.array items) (.array others)
  | object {entries middle others : List (String × Json)}
      (names : entries.map (fun entry => trimText entry.1) =
        middle.map Prod.fst)
      (values : List.Forall₂ Lossless (entries.map Prod.snd)
        (middle.map Prod.snd))
      (perm : middle.Perm others) (nodup : (others.map Prod.fst).Nodup) :
      Lossless (.object entries) (.object others)

/-- No object has two names that are equal when they are trimmed. -/
inductive Unmerged : Json → Prop where
  | null : Unmerged .null
  | bool (value : Bool) : Unmerged (.bool value)
  | number (value : Rat) : Unmerged (.number value)
  | string (value : String) : Unmerged (.string value)
  | array {items : List Json} (each : ∀ item ∈ items, Unmerged item) :
      Unmerged (.array items)
  | object {entries : List (String × Json)}
      (nodup : (entries.map fun entry => trimText entry.1).Nodup)
      (each : ∀ entry ∈ entries, Unmerged entry.2) :
      Unmerged (.object entries)

theorem unmerged_of_lossless (value : Json) : ∀ {normalized : Json},
    Lossless value normalized → Unmerged value := by
  induction value using Json.induction with
  | null => exact fun _ => .null
  | bool value => exact fun _ => .bool value
  | number value => exact fun _ => .number value
  | string value => exact fun _ => .string value
  | array items each =>
      intro normalized lossless
      cases lossless with
      | array pairs =>
          refine .array fun item member => ?_
          obtain ⟨other, _, here⟩ := forall₂_mem_right pairs.flip member
          exact each item member here
  | object entries each =>
      intro normalized lossless
      cases lossless with
      | object names values perm nodup =>
          refine .object ?_ fun entry member => ?_
          · rw [names]
            exact (perm.map Prod.fst).nodup_iff.mpr nodup
          · obtain ⟨other, _, here⟩ := forall₂_mem_right values.flip
              (List.mem_map_of_mem member)
            exact each entry member here

theorem lossless_of_unmerged {localeCompare : String → String → Int}
    (value : Json) : ∀ {name : String} {depth : Nat} {normalized : Json},
      normalizeMetadataValue localeCompare name depth value = .ok normalized →
        Unmerged value → Lossless value normalized := by
  induction value using Json.induction with
  | null =>
      intro name depth normalized done _
      rw [normalizeMetadataValue, within_ok] at done
      cases done.2
      exact .null
  | bool value =>
      intro name depth normalized done _
      rw [normalizeMetadataValue, within_ok] at done
      cases done.2
      exact .bool value
  | number value =>
      intro name depth normalized done _
      rw [normalizeMetadataValue, within_ok] at done
      cases done.2
      exact .number value
  | string value =>
      intro name depth normalized done _
      rw [normalizeMetadataValue, within_ok] at done
      obtain ⟨_, done⟩ := done
      split_ifs at done
      cases done
      exact .string value
  | array items each =>
      intro name depth normalized done unmerged
      rw [normalizeMetadataValue, within_ok] at done
      obtain ⟨_, done⟩ := done
      split_ifs at done
      obtain ⟨results, ran, rfl⟩ := map_ok done
      cases unmerged with
      | array apart =>
          refine .array (forall₂_imp_mem (normalizeItems_ok ran) ?_)
          rintro item member result ⟨_, here⟩
          exact each item member here (apart item member)
  | object entries each =>
      intro name depth normalized done unmerged
      rw [normalizeMetadataValue, within_ok] at done
      obtain ⟨_, done⟩ := done
      split_ifs at done
      obtain ⟨results, ran, rfl⟩ := map_ok done
      cases unmerged with
      | object apart deeper =>
          have pairs := normalizeEntries_ok ran
          have names : entries.map (fun entry => trimText entry.1) =
              results.map Prod.fst := by
            apply List.forall₂_eq_eq_eq ▸ List.forall₂_map_left_iff.mpr
              (List.forall₂_map_right_iff.mpr ?_)
            exact forall₂_imp_mem pairs fun _ _ _ kept => kept.key.symm
          have values : List.Forall₂ Lossless (entries.map Prod.snd)
              (results.map Prod.snd) := by
            apply List.forall₂_map_left_iff.mpr
            apply List.forall₂_map_right_iff.mpr
            refine forall₂_imp_mem pairs fun entry member result kept => ?_
            obtain ⟨_, here⟩ := kept.value
            exact each entry member here (deeper entry member)
          have perm := sortEntries_perm localeCompare results
          have distinct : (([] ++ sortEntries localeCompare results).map
              Prod.fst).Nodup := by
            rw [List.nil_append, (perm.map Prod.fst).nodup_iff, ← names]
            exact apart
          rw [objectOf, foldl_assign distinct, List.nil_append]
          have whole := (enumerated_perm _).trans perm
          refine .object names values whole.symm ?_
          rw [(whole.map Prod.fst).nodup_iff, ← names]
          exact apart

/-! ## Requests -/

section

variable {localeCompare : String → String → Int} {value normalized : Json}

theorem validateMetadata_ok :
    validateMetadata localeCompare value = .ok normalized ↔
      normalizeMetadataValue localeCompare "session.metadata" 0 value =
        .ok normalized ∧
      byteLength (String.ofList (print normalized)) ≤
        sessionMaxMetadataBytes := by
  constructor
  · intro accepted
    obtain ⟨result, ran, accepted⟩ := ok_of_bind accepted
    split at accepted
    · cases accepted
    · next fits =>
        cases accepted
        exact ⟨ran, not_lt.mp fits⟩
  · rintro ⟨ran, fits⟩
    unfold validateMetadata
    rw [ran]
    change (if _ then _ else _) = _
    rw [if_neg (not_lt.mpr fits)]
    rfl

theorem requestMetadata_ok :
    requestMetadata localeCompare (some value) = .ok normalized ↔
      (∃ entries, value = .object entries) ∧
        validateMetadata localeCompare value = .ok normalized := by
  unfold requestMetadata requireObject
  cases value with
  | object entries => exact ⟨fun ran => ⟨⟨entries, rfl⟩, ran⟩, And.right⟩
  | _ => exact ⟨nofun, fun both => by cases both.1.choose_spec⟩

/-- A value that comes out of validation is validated as it is. -/
theorem requestMetadata_again (collation : Collation localeCompare)
    (accepted : requestMetadata localeCompare (some value) = .ok normalized) :
    requestMetadata localeCompare (some normalized) = .ok normalized := by
  obtain ⟨⟨entries, rfl⟩, validated⟩ := requestMetadata_ok.mp accepted
  obtain ⟨ran, fits⟩ := validateMetadata_ok.mp validated
  have normal := normalize_normal collation _ ran
  refine requestMetadata_ok.mpr ⟨?_, validateMetadata_ok.mpr
    ⟨normalize_of_normal normal _, fits⟩⟩
  rw [normalizeMetadataValue, within_ok] at ran
  obtain ⟨_, ran⟩ := ran
  split_ifs at ran
  obtain ⟨results, _, rfl⟩ := map_ok ran
  exact ⟨_, rfl⟩

/-- Nothing is lost, and nothing changes the second time, exactly if no object
has two names that trimming makes equal. -/
theorem metadata_lossless (collation : Collation localeCompare)
    (accepted : requestMetadata localeCompare (some value) = .ok normalized) :
    (Lossless value normalized ∧
      requestMetadata localeCompare (some normalized) = .ok normalized) ↔
        Unmerged value := by
  constructor
  · intro both
    exact unmerged_of_lossless value both.1
  · intro unmerged
    have validated := (requestMetadata_ok.mp accepted).2
    exact ⟨lossless_of_unmerged value (validateMetadata_ok.mp validated).1
      unmerged, requestMetadata_again collation accepted⟩

end

/-- The order of the code units. -/
def unitsCompare (first second : String) : Int :=
  if units first ≤ units second then 0 else 1

theorem unitsCompare_le {first second : String} :
    unitsCompare first second ≤ 0 ↔ units first ≤ units second := by
  unfold unitsCompare
  split
  · next order => exact iff_of_true le_rfl order
  · next order => exact iff_of_false (by decide) order

theorem unitsCompare_collation : Collation unitsCompare where
  total := by
    intro first second
    rw [unitsCompare_le, unitsCompare_le]
    exact le_total _ _
  trans := by
    intro first second third
    rw [unitsCompare_le, unitsCompare_le, unitsCompare_le]
    exact le_trans

def sampleMetadata : Json :=
  .object [(" b", .bool true), ("a", .array [.null])]

def sampleNormalized : Json :=
  .object [("a", .array [.null]), ("b", .bool true)]

theorem requireString_sample {text key name : String}
    (trimmed : trimText text = key) (bounded : BoundedText 100 key) :
    requireString (some (.string text)) name 100 = .ok key := by
  have read := @requireString_string_of text name 100 (trimmed.symm ▸ bounded)
  rw [trimmed] at read
  exact read

def mergedMetadata : Json :=
  .object [("a", .bool true), (" a", .bool false)]

/-- What the two samples are made of. -/
theorem sample_texts :
    (trimText "a" = "a" ∧ trimText " a" = "a" ∧ trimText "b" = "b" ∧
      trimText " b" = "b") ∧
    (utf16Length "a" ≤ 100 ∧ utf16Length "b" ≤ 100) ∧
    (¬units "b" ≤ units "a" ∧ arrayIndex? "a" = none ∧
      arrayIndex? "b" = none) ∧
    byteLength (String.ofList (print sampleNormalized)) ≤
      sessionMaxMetadataBytes ∧
    byteLength (String.ofList (print (.object [("a", .bool false)]))) ≤
      sessionMaxMetadataBytes := by
  decide +kernel

theorem bounded_a : BoundedText 100 "a" :=
  ⟨sample_texts.1.1, by decide, sample_texts.2.1.1⟩

theorem bounded_b : BoundedText 100 "b" :=
  ⟨sample_texts.1.2.2.1, by decide, sample_texts.2.1.2⟩

/-- The sorted entries keep their order when they are enumerated. -/
theorem objectOf_sample (first second : Json) :
    objectOf (sortEntries unitsCompare [("b", first), ("a", second)]) =
      .object [("a", second), ("b", first)] := by
  obtain ⟨order, noA, noB⟩ := sample_texts.2.2.1
  simp [objectOf, sortEntries, KeyOrder, unitsCompare, order, enumerated,
    assign, noA, noB]

theorem sample_accepted : requestMetadata unitsCompare (some sampleMetadata) =
    .ok sampleNormalized := by
  refine requestMetadata_ok.mpr ⟨⟨_, rfl⟩, validateMetadata_ok.mpr
    ⟨?_, sample_texts.2.2.2.1⟩⟩
  have readA := fun name => @requireString_sample "a" "a" name
    bounded_a.trimmed bounded_a
  have readB := fun name => @requireString_sample " b" "b" name
    sample_texts.1.2.2.2 bounded_b
  simp only [sampleMetadata, normalizeMetadataValue, normalizeEntries,
    normalizeItems, readA, readB, within, bind, Except.bind]
  simp only [pure, Except.pure, Except.map]
  simp [objectOf_sample, sampleNormalized]

theorem metadata_lossless_sample :
    Lossless sampleMetadata sampleNormalized ∧
      requestMetadata unitsCompare (some sampleNormalized) =
        .ok sampleNormalized := by
  apply (metadata_lossless unitsCompare_collation sample_accepted).mpr
  refine .object ?_ ?_
  · simp only [List.map_cons, List.map_nil, sample_texts.1.1,
      sample_texts.1.2.2.2]
    decide
  · intro entry member
    simp only [List.mem_cons, List.not_mem_nil, or_false] at member
    rcases member with rfl | rfl
    · exact .bool true
    · refine .array fun item member => ?_
      rw [List.mem_singleton.mp member]
      exact .null

/-! ## Two members that become one -/

theorem mergedMetadata_accepted :
    requestMetadata unitsCompare (some mergedMetadata) =
      .ok (.object [("a", .bool false)]) := by
  refine requestMetadata_ok.mpr ⟨⟨_, rfl⟩, validateMetadata_ok.mpr
    ⟨?_, sample_texts.2.2.2.2⟩⟩
  have read := fun name => @requireString_sample "a" "a" name
    bounded_a.trimmed bounded_a
  have readAgain := fun name => @requireString_sample " a" "a" name
    sample_texts.1.2.1 bounded_a
  have noIndex : arrayIndex? "a" = none := sample_texts.2.2.1.2.1
  simp only [mergedMetadata, normalizeMetadataValue, normalizeEntries, read,
    readAgain, within, bind, Except.bind]
  simp only [pure, Except.pure, Except.map]
  simp [objectOf, sortEntries, KeyOrder, unitsCompare, enumerated, assign,
    noIndex]

/-- The first member is gone, and the request is accepted. -/
theorem metadata_merged : ∃ normalized,
    requestMetadata unitsCompare (some mergedMetadata) = .ok normalized ∧
      ¬Lossless mergedMetadata normalized := by
  refine ⟨_, mergedMetadata_accepted, ?_⟩
  intro lossless
  cases unmerged_of_lossless _ lossless with
  | object nodup _ =>
      have repeated : trimText "a" = trimText " a" :=
        sample_texts.1.1.trans sample_texts.1.2.1.symm
      apply (List.nodup_cons.mp nodup).1
      exact List.mem_singleton.mpr repeated

end SessionMetadata

end GpuLink
