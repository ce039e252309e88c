import GpuLink.Shared.JsonPrint
import Mathlib.Data.List.Sort

/-!
# Canonical JSON

The form in which the migration compares values: properties in the order of
their names, at every depth.  Two values have one canonical text if they are
equal up to the order of properties.
-/

namespace GpuLink

namespace Migration

open JsonText

/-! ## Orders of properties -/

/-- The UTF-16 code units of a character. -/
def charUnits (c : Char) : List Nat :=
  if c.toNat < 0x10000 then [c.toNat]
  else [0xd800 + (c.toNat - 0x10000) / 1024,
    0xdc00 + (c.toNat - 0x10000) % 1024]

def units (text : String) : List Nat :=
  text.toList.flatMap charUnits

/-- The order in which `sort` puts names. -/
def NameOrder {α : Type} (first second : String × α) : Prop :=
  units first.1 ≤ units second.1

instance {α : Type} : DecidableRel (@NameOrder α) :=
  fun first second => inferInstanceAs
    (Decidable (units first.1 ≤ units second.1))

/-- The number that a name writes, if it is an array index. -/
def arrayIndex? (name : String) : Option Nat :=
  let index := Nat.ofDigitChars 10 name.toList 0
  if Nat.toDigits 10 index = name.toList ∧ index < 4294967295 then some index
  else none

def IndexOrder {α : Type} (first second : String × α) : Prop :=
  (arrayIndex? first.1).getD 0 ≤ (arrayIndex? second.1).getD 0

instance {α : Type} : DecidableRel (@IndexOrder α) :=
  fun first second => inferInstanceAs (Decidable
    ((arrayIndex? first.1).getD 0 ≤ (arrayIndex? second.1).getD 0))

/-- Array indices come first, in ascending order. -/
def enumerated {α : Type} (entries : List (String × α)) : List (String × α) :=
  (entries.filter fun entry => (arrayIndex? entry.1).isSome).insertionSort
      IndexOrder ++
    entries.filter fun entry => !(arrayIndex? entry.1).isSome

def fromEntries (entries : List (String × Json)) : Json :=
  .object (enumerated entries)

mutual

def canonicalize : Json → Json
  | .array items => .array (canonicalizeItems items)
  | .object fields =>
      fromEntries ((canonicalizeFields fields).insertionSort NameOrder)
  | json => json

def canonicalizeItems : List Json → List Json
  | [] => []
  | item :: items => canonicalize item :: canonicalizeItems items

def canonicalizeFields : List (String × Json) → List (String × Json)
  | [] => []
  | (name, value) :: fields =>
      (name, canonicalize value) :: canonicalizeFields fields

end

def stableStringify (json : Json) : String :=
  String.ofList (print (canonicalize json))

/-- Equal up to the order of properties. -/
inductive Same : Json → Json → Prop where
  | null : Same .null .null
  | bool (value : Bool) : Same (.bool value) (.bool value)
  | number (value : Rat) : Same (.number value) (.number value)
  | string (value : String) : Same (.string value) (.string value)
  | array {items others : List Json} (same : List.Forall₂ Same items others) :
      Same (.array items) (.array others)
  | object {fields middle others : List (String × Json)}
      (perm : fields.Perm middle)
      (names : middle.map Prod.fst = others.map Prod.fst)
      (same : List.Forall₂ Same (middle.map Prod.snd) (others.map Prod.snd)) :
      Same (.object fields) (.object others)

/-! ## Sorting names -/

theorem canonicalizeItems_eq (items : List Json) :
    canonicalizeItems items = items.map canonicalize := by
  induction items with
  | nil => rfl
  | cons item items induction => rw [canonicalizeItems, induction, List.map_cons]

theorem canonicalizeFields_eq (fields : List (String × Json)) :
    canonicalizeFields fields =
      fields.map (Prod.map id canonicalize) := by
  induction fields with
  | nil => rfl
  | cons field fields induction =>
      rw [canonicalizeFields, induction, List.map_cons]
      rfl

theorem charUnits_ne_nil (c : Char) : charUnits c ≠ [] := by
  unfold charUnits
  split <;> exact List.cons_ne_nil _ _

theorem charUnits_append {c d : Char} {rest others : List Nat}
    (same : charUnits c ++ rest = charUnits d ++ others) :
    c = d ∧ rest = others := by
  have validC : c.toNat < 0xd800 ∨ 0xdfff < c.toNat ∧ c.toNat < 0x110000 :=
    c.valid
  have validD : d.toNat < 0xd800 ∨ 0xdfff < d.toNat ∧ d.toNat < 0x110000 :=
    d.valid
  have chars : c.toNat = d.toNat → c = d := fun same =>
    Char.ext (UInt32.toNat_inj.mp same)
  unfold charUnits at same
  split_ifs at same with small other other
  · obtain ⟨first, rest⟩ := List.cons.inj same
    exact ⟨chars first, rest⟩
  · have first := (List.cons.inj same).1
    omega
  · have first := (List.cons.inj same).1
    omega
  · obtain ⟨first, rest⟩ := List.cons.inj same
    obtain ⟨second, rest⟩ := List.cons.inj rest
    exact ⟨chars (by omega), rest⟩

theorem units_injective {first second : String}
    (same : units first = units second) : first = second := by
  have lists : ∀ xs ys : List Char, xs.flatMap charUnits = ys.flatMap charUnits →
      xs = ys := by
    intro xs
    induction xs with
    | nil =>
        intro ys same
        cases ys with
        | nil => rfl
        | cons d ys =>
            have empty := List.append_eq_nil_iff.mp same.symm
            exact absurd empty.1 (charUnits_ne_nil d)
    | cons c xs induction =>
        intro ys same
        cases ys with
        | nil =>
            have empty := List.append_eq_nil_iff.mp same
            exact absurd empty.1 (charUnits_ne_nil c)
        | cons d ys =>
            obtain ⟨rfl, rest⟩ := charUnits_append same
            rw [induction ys rest]
  exact String.toList_inj.mp (lists _ _ same)

instance {α : Type} : Std.Total (@NameOrder α) :=
  ⟨fun first second => le_total (units first.1) (units second.1)⟩

instance {α : Type} : IsTrans (String × α) NameOrder :=
  ⟨fun _ _ _ one other => le_trans one other⟩

/-- The order of distinct names does not depend on how they came. -/
theorem sort_eq_of_perm {fields others : List (String × Json)}
    (nodup : (fields.map Prod.fst).Nodup) (perm : fields.Perm others) :
    fields.insertionSort NameOrder = others.insertionSort NameOrder := by
  have sorted := List.perm_insertionSort NameOrder fields
  have sorted' := List.perm_insertionSort NameOrder others
  refine List.Perm.eq_of_pairwise ?_ (List.pairwise_insertionSort NameOrder _)
    (List.pairwise_insertionSort NameOrder _)
    (sorted.trans (perm.trans sorted'.symm))
  intro field other member member' below above
  have name : field.1 = other.1 := units_injective (le_antisymm below above)
  exact List.inj_on_of_nodup_map nodup (sorted.mem_iff.mp member)
    (perm.mem_iff.mpr (sorted'.mem_iff.mp member')) name

theorem enumerated_perm {α : Type} (entries : List (String × α)) :
    (enumerated entries).Perm entries :=
  ((List.perm_insertionSort IndexOrder _).append_right _).trans
    (List.filter_append_perm _ entries)

instance {α : Type} : Std.Total (@IndexOrder α) :=
  ⟨fun first second => le_total ((arrayIndex? first.1).getD 0)
    ((arrayIndex? second.1).getD 0)⟩

instance {α : Type} : IsTrans (String × α) IndexOrder :=
  ⟨fun _ _ _ one other => le_trans one other⟩

/-- The order is one of the names alone. -/
theorem map_enumerated {α β : Type} (change : α → β)
    (entries : List (String × α)) :
    enumerated (entries.map (Prod.map id change)) =
      (enumerated entries).map (Prod.map id change) := by
  have indices : ∀ list : List (String × α),
      (list.map (Prod.map id change)).insertionSort IndexOrder =
        (list.insertionSort IndexOrder).map (Prod.map id change) :=
    fun list => (List.map_insertionSort IndexOrder IndexOrder
      (Prod.map id change) list fun _ _ _ _ => Iff.rfl).symm
  rw [enumerated, enumerated, List.map_append, List.filter_map,
    List.filter_map, indices]
  rfl

theorem enumerated_idem {α : Type} (entries : List (String × α)) :
    enumerated (enumerated entries) = enumerated entries := by
  have indices : ∀ entry ∈ (entries.filter fun entry =>
      (arrayIndex? entry.1).isSome).insertionSort IndexOrder,
      (arrayIndex? entry.1).isSome = true := by
    intro entry member
    rw [List.mem_insertionSort, List.mem_filter] at member
    exact member.2
  have sorted := List.pairwise_insertionSort IndexOrder
    (entries.filter fun entry => (arrayIndex? entry.1).isSome)
  have first : (enumerated entries).filter
      (fun entry => (arrayIndex? entry.1).isSome) =
        (entries.filter fun entry =>
          (arrayIndex? entry.1).isSome).insertionSort IndexOrder := by
    have none : (entries.filter fun entry =>
        !(arrayIndex? entry.1).isSome).filter
          (fun entry => (arrayIndex? entry.1).isSome) = [] := by
      apply List.filter_eq_nil_iff.mpr
      intro entry member index
      have named := (List.mem_filter.mp member).2
      rw [index] at named
      cases named
    rw [enumerated, List.filter_append, List.filter_eq_self.mpr indices, none,
      List.append_nil]
  have last : (enumerated entries).filter
      (fun entry => !(arrayIndex? entry.1).isSome) =
        entries.filter fun entry => !(arrayIndex? entry.1).isSome := by
    have none : ((entries.filter fun entry =>
        (arrayIndex? entry.1).isSome).insertionSort IndexOrder).filter
          (fun entry => !(arrayIndex? entry.1).isSome) = [] := by
      apply List.filter_eq_nil_iff.mpr
      intro entry member
      rw [indices entry member]
      exact Bool.false_ne_true
    rw [enumerated, List.filter_append, none, List.nil_append,
      List.filter_filter]
    simp
  rw [enumerated, first, last, sorted.insertionSort_eq]
  rfl

/-! ## Canonical forms -/

/-- What becomes of the properties of an object. -/
def canonicalFields (fields : List (String × Json)) : List (String × Json) :=
  enumerated ((fields.map (Prod.map id canonicalize)).insertionSort NameOrder)

theorem canonicalize_object (fields : List (String × Json)) :
    canonicalize (.object fields) = .object (canonicalFields fields) := by
  rw [canonicalize, canonicalizeFields_eq]
  rfl

theorem canonicalize_array (items : List Json) :
    canonicalize (.array items) = .array (items.map canonicalize) := by
  rw [canonicalize, canonicalizeItems_eq]

theorem canonicalFields_perm (fields : List (String × Json)) :
    (canonicalFields fields).Perm (fields.map (Prod.map id canonicalize)) :=
  (enumerated_perm _).trans (List.perm_insertionSort NameOrder _)

theorem map_fst_canonical (fields : List (String × Json)) :
    (fields.map (Prod.map id canonicalize)).map Prod.fst =
      fields.map Prod.fst := by
  rw [List.map_map]
  rfl

/-- The form of an object depends on its properties only. -/
theorem canonicalFields_eq {fields others : List (String × Json)}
    (nodup : (fields.map Prod.fst).Nodup)
    (perm : (fields.map (Prod.map id canonicalize)).Perm
      (others.map (Prod.map id canonicalize))) :
    canonicalFields fields = canonicalFields others := by
  rw [← map_fst_canonical] at nodup
  rw [canonicalFields, canonicalFields, sort_eq_of_perm nodup perm]

theorem proper_canonicalize {json : Json} (proper : Proper json) :
    Proper (canonicalize json) := by
  induction proper with
  | null => exact .null
  | bool flag => exact .bool flag
  | number double => exact .number double
  | string text => exact .string text
  | array proper each =>
      rw [canonicalize_array]
      refine .array fun item member => ?_
      obtain ⟨source, among, rfl⟩ := List.mem_map.mp member
      exact each source among
  | @object fields nodup proper each =>
      rw [canonicalize_object]
      have perm := canonicalFields_perm fields
      refine .object ?_ ?_
      · rw [← map_fst_canonical] at nodup
        exact (perm.map Prod.fst).nodup_iff.mpr nodup
      · intro field member
        obtain ⟨source, among, rfl⟩ :=
          List.mem_map.mp (perm.mem_iff.mp member)
        exact each source among

theorem canonicalize_idem {json : Json} (proper : Proper json) :
    canonicalize (canonicalize json) = canonicalize json := by
  induction proper with
  | null => rfl
  | bool flag => rfl
  | number double => rfl
  | string text => rfl
  | array proper each =>
      rw [canonicalize_array, canonicalize_array, List.map_map]
      exact congrArg _ (List.map_congr_left each)
  | @object fields nodup proper each =>
      rw [canonicalize_object, canonicalize_object]
      have perm := canonicalFields_perm fields
      have fixed : ∀ field ∈ canonicalFields fields,
          Prod.map id canonicalize field = field := by
        intro field member
        obtain ⟨source, among, rfl⟩ :=
          List.mem_map.mp (perm.mem_iff.mp member)
        exact Prod.ext rfl (each source among)
      have again : (canonicalFields fields).map (Prod.map id canonicalize) =
          canonicalFields fields :=
        (List.map_congr_left fixed).trans (List.map_id _)
      rw [← map_fst_canonical] at nodup
      have distinct := (perm.map Prod.fst).nodup_iff.mpr nodup
      rw [canonicalFields_eq distinct (again.symm ▸ perm)]

/-! ## Equality up to order -/

theorem map_eq_of_forall₂ {items others : List Json}
    (same : List.Forall₂ Same items others)
    (each : ∀ item ∈ items, ∀ other, Same item other →
      canonicalize item = canonicalize other) :
    items.map canonicalize = others.map canonicalize := by
  induction same with
  | nil => rfl
  | cons first rest induction =>
      rw [List.map_cons, List.map_cons, each _ List.mem_cons_self _ first,
        induction fun item member => each item (List.mem_cons_of_mem _ member)]

theorem Same.canonical {json other : Json} (proper : Proper json)
    (same : Same json other) : canonicalize json = canonicalize other := by
  induction proper generalizing other with
  | null =>
      cases same
      rfl
  | bool flag =>
      cases same
      rfl
  | number double =>
      cases same
      rfl
  | string text =>
      cases same
      rfl
  | array proper each =>
      cases same with
      | array same =>
          rw [canonicalize_array, canonicalize_array,
            map_eq_of_forall₂ same fun item member other =>
              each item member]
  | @object fields nodup proper each =>
      cases same with
      | @object _ middle others perm names same =>
          have values := map_eq_of_forall₂ same (by
            intro value member other
            obtain ⟨field, among, rfl⟩ := List.mem_map.mp member
            exact each field (perm.mem_iff.mpr among))
          have pairs : middle.map (Prod.map id canonicalize) =
              others.map (Prod.map id canonicalize) := by
            rw [List.map_map, List.map_map] at values
            have split : ∀ list : List (String × Json),
                list = (list.map Prod.fst).zip (list.map Prod.snd) :=
              fun list => List.zip_of_prod rfl rfl
            rw [split (middle.map _), split (others.map _), map_fst_canonical,
              map_fst_canonical, names, List.map_map, List.map_map]
            exact congrArg _ values
          rw [canonicalize_object, canonicalize_object,
            canonicalFields_eq nodup (pairs ▸ perm.map _)]

theorem forall₂_of_map_eq {items others : List Json}
    (each : ∀ item ∈ items, ∀ other,
      canonicalize item = canonicalize other → Same item other)
    (same : items.map canonicalize = others.map canonicalize) :
    List.Forall₂ Same items others := by
  induction items generalizing others with
  | nil =>
      rw [List.map_nil, eq_comm, List.map_eq_nil_iff] at same
      rw [same]
      exact .nil
  | cons item items induction =>
      cases others with
      | nil => cases same
      | cons other others =>
          obtain ⟨first, rest⟩ := List.cons.inj same
          exact .cons (each _ List.mem_cons_self _ first) (induction
            (fun item member => each item (List.mem_cons_of_mem _ member))
              rest)

/-- Properties that have the same forms are the same in some order. -/
theorem perm_of_map_perm {fields others : List (String × Json)}
    (perm : (fields.map (Prod.map id canonicalize)).Perm
      (others.map (Prod.map id canonicalize))) :
    ∃ middle, fields.Perm middle ∧
      middle.map (Prod.map id canonicalize) =
        others.map (Prod.map id canonicalize) := by
  have mapped : List.Forall₂ (fun field other =>
      Prod.map id canonicalize field = other) fields
        (fields.map (Prod.map id canonicalize)) := by
    rw [List.forall₂_map_right_iff, List.forall₂_same]
    intro field _
    rfl
  have both : (Relation.Comp (List.Forall₂ fun field other =>
      Prod.map id canonicalize field = other) List.Perm) fields
        (others.map (Prod.map id canonicalize)) :=
    ⟨_, mapped, perm⟩
  rw [List.forall₂_comp_perm_eq_perm_comp_forall₂] at both
  obtain ⟨middle, among, same⟩ := both
  refine ⟨middle, among, ?_⟩
  rwa [← List.forall₂_eq_eq_eq, List.forall₂_map_left_iff]

theorem same_of_canonical {json other : Json}
    (same : canonicalize json = canonicalize other) : Same json other := by
  induction json using Json.induction generalizing other with
  | null =>
      cases other with
      | null => exact .null
      | _ => simp [canonicalize, fromEntries] at same
  | bool flag =>
      cases other with
      | bool _ =>
          cases same
          exact .bool flag
      | _ => simp [canonicalize, fromEntries] at same
  | number value =>
      cases other with
      | number _ =>
          cases same
          exact .number value
      | _ => simp [canonicalize, fromEntries] at same
  | string text =>
      cases other with
      | string _ =>
          cases same
          exact .string text
      | _ => simp [canonicalize, fromEntries] at same
  | array items each =>
      cases other with
      | array others =>
          rw [canonicalize_array, canonicalize_array] at same
          exact .array (forall₂_of_map_eq
            (fun item member other => each item member)
              (Json.array.inj same))
      | _ => simp [canonicalize, fromEntries] at same
  | object fields each =>
      cases other with
      | object others =>
          rw [canonicalize_object, canonicalize_object] at same
          have equal := Json.object.inj same
          have perm := (canonicalFields_perm fields).symm.trans
            (equal ▸ canonicalFields_perm others)
          obtain ⟨middle, among, pairs⟩ := perm_of_map_perm perm
          refine .object among ?_ ?_
          · rw [← map_fst_canonical middle, pairs, map_fst_canonical]
          · apply forall₂_of_map_eq
            · intro value member other
              obtain ⟨field, inMiddle, rfl⟩ := List.mem_map.mp member
              exact each field (among.mem_iff.mpr inMiddle)
            · have values := congrArg (List.map Prod.snd) pairs
              rw [List.map_map, List.map_map] at values
              rw [List.map_map, List.map_map]
              exact values
      | _ => simp [canonicalize, fromEntries] at same

theorem canonicalize_eq_iff {json other : Json} (proper : Proper json) :
    canonicalize json = canonicalize other ↔ Same json other :=
  ⟨same_of_canonical, fun same => same.canonical proper⟩

/-- The canonical text tells values apart that differ in more than the order of
properties. -/
theorem stableStringify_eq_iff {json other : Json} (proper : Proper json)
    (proper' : Proper other) :
    stableStringify json = stableStringify other ↔ Same json other := by
  rw [← canonicalize_eq_iff proper]
  constructor
  · intro same
    exact print_injective (proper_canonicalize proper)
      (proper_canonicalize proper') (String.ofList_injective same)
  · intro same
    rw [stableStringify, same]
    rfl

end Migration

end GpuLink
