import GpuLink.DataPlane.Contract
import GpuLink.Shared.JsonText
import GpuLink.Store.Statements
import Mathlib.Data.List.Dedup
import Mathlib.Data.List.DropRight

/-!
# Request validation

The checks that requests and advertisements are read with.  A `ValidationError`
is its message.
-/

namespace GpuLink

/-- `String.prototype.trim` -/
def trimText (text : String) : String :=
  String.ofList (DataPlane.trim text.toList)

/-- The UTF-16 code units of a string. -/
def utf16Units (text : String) : List Nat :=
  text.toList.flatMap (fun c =>
    if c.toNat ≤ 0xffff then [c.toNat]
    else [0xd800 + (c.toNat - 0x10000) / 0x400,
      0xdc00 + (c.toNat - 0x10000) % 0x400])

/-- `Array.prototype.sort` without a comparator. -/
def sortText (texts : List String) : List String :=
  Sql.orderBy
    (fun left right => (compare (utf16Units left) (utf16Units right)).isLE)
    texts

theorem sortText_perm (texts : List String) : (sortText texts).Perm texts :=
  Sql.orderBy_perm _ texts

/-! ## Trimming -/

theorem dropWhile_trim (text : List Char) :
    (DataPlane.trim text).dropWhile DataPlane.isTrimmed =
      DataPlane.trim text := by
  cases shape : DataPlane.trim text with
  | nil => rfl
  | cons first rest =>
      rw [List.dropWhile_cons_of_neg]
      have start : DataPlane.trim text <+:
          text.dropWhile DataPlane.isTrimmed := by
        rw [← List.reverse_suffix]
        unfold DataPlane.trim
        rw [List.reverse_reverse]
        exact List.dropWhile_suffix _
      rw [shape] at start
      obtain ⟨after, same⟩ := start
      have nonempty : text.dropWhile DataPlane.isTrimmed ≠ [] := by
        rw [← same]
        exact List.cons_ne_nil _ _
      have kept := List.head_dropWhile_not DataPlane.isTrimmed nonempty
      have head : (text.dropWhile DataPlane.isTrimmed).head nonempty = first := by
        simp only [← same, List.cons_append, List.head_cons]
      rw [head] at kept
      simp [kept]

theorem trim_trim (text : List Char) :
    DataPlane.trim (DataPlane.trim text) = DataPlane.trim text := by
  have front := dropWhile_trim text
  calc DataPlane.trim (DataPlane.trim text)
      = ((DataPlane.trim text).reverse.dropWhile
          DataPlane.isTrimmed).reverse := by
        rw [DataPlane.trim, front]
    _ = DataPlane.trim text := by
        unfold DataPlane.trim
        rw [List.reverse_reverse, List.dropWhile_idempotent]

theorem trimText_trimText (text : String) :
    trimText (trimText text) = trimText text := by
  unfold trimText
  rw [String.toList_ofList, trim_trim]

/-- What `requireString` lets through. -/
structure BoundedText (maximum : Nat) (text : String) : Prop where
  trimmed : trimText text = text
  nonempty : text ≠ ""
  short : utf16Length text ≤ maximum

namespace Validation

def requireObject (value : Option Json) (name : String) :
    Except String Json :=
  match value with
  | some (.object fields) => .ok (.object fields)
  | _ => .error (name ++ " must be an object")

def requireString (value : Option Json) (name : String) (maximum : Nat) :
    Except String String :=
  match value with
  | some (.string text) =>
      if trimText text = "" then
        .error (name ++ " must be a non-empty string")
      else if utf16Length (trimText text) > maximum then
        .error (name ++ " must contain at most " ++ toString maximum ++
          " characters")
      else .ok (trimText text)
  | _ => .error (name ++ " must be a non-empty string")

def boundedInteger (value : Option Json) (name : String)
    (minimum maximum : Int) : Except String Int :=
  let refused := name ++ " must be an integer between " ++ toString minimum ++
    " and " ++ toString maximum
  match value with
  | some (.number q) =>
      if q.den = 1 ∧ q.num.natAbs ≤ JsonText.maxSafeInteger ∧ minimum ≤ q.num ∧
          q.num ≤ maximum then .ok q.num
      else .error refused
  | _ => .error refused

/-- The strings of an array, each trimmed, without repetitions and sorted. -/
def stringArray (value : Option Json) (name : String)
    (maximumItems : Nat := 64) : Except String (List String) :=
  let refused := name ++ " must be an array with at most " ++
    toString maximumItems ++ " items"
  match value with
  | some (.array items) =>
      if items.length > maximumItems then .error refused
      else do
        let texts ← items.zipIdx.mapM (fun (item, index) =>
          requireString (some item) (name ++ "[" ++ toString index ++ "]") 100)
        return sortText texts.dedup
  | _ => .error refused

def rejectUnknownFields (object : Json) (name : String)
    (allowedFields : List String) : Except String Unit :=
  let unknown := match object with
    | .object fields =>
        (fields.map (·.1)).filter (fun field => field ∉ allowedFields)
    | _ => []
  match sortText unknown with
  | [] => .ok ()
  | first :: _ =>
      .error (name ++ " contains unexpected field " ++ first)

theorem requireString_ok {value : Option Json} {name text : String}
    {maximum : Nat} (read : requireString value name maximum = .ok text) :
    BoundedText maximum text := by
  unfold requireString at read
  split at read
  · split_ifs at read with blank long
    cases read
    exact ⟨trimText_trimText _, blank, not_lt.mp long⟩
  · cases read

theorem requireString_of {name text : String} {maximum : Nat}
    (bounded : BoundedText maximum text) :
    requireString (some (.string text)) name maximum = .ok text := by
  unfold requireString
  simp only [bounded.trimmed]
  rw [if_neg bounded.nonempty, if_neg (not_lt.mpr bounded.short)]

theorem requireString_string_ok {text read name : String} {maximum : Nat}
    (ran : requireString (some (.string text)) name maximum = .ok read) :
    read = trimText text := by
  unfold requireString at ran
  simp only at ran
  split_ifs at ran
  cases ran
  rfl

theorem requireString_string_of {text name : String} {maximum : Nat}
    (bounded : BoundedText maximum (trimText text)) :
    requireString (some (.string text)) name maximum =
      .ok (trimText text) := by
  unfold requireString
  simp only
  rw [if_neg bounded.nonempty, if_neg (not_lt.mpr bounded.short)]

theorem stringArray_of {texts : List String} {name : String}
    (bounded : ∀ text ∈ texts, BoundedText 100 text)
    (few : texts.length ≤ 64) :
    stringArray (some (.array (texts.map .string))) name =
      .ok (sortText texts.dedup) := by
  have each : ∀ (start : Nat) (texts : List String),
      (∀ text ∈ texts, BoundedText 100 text) →
        ((texts.map Json.string).zipIdx start).mapM
          (fun (item, index) => requireString (some item)
            (name ++ "[" ++ toString index ++ "]") 100) = .ok texts := by
    intro start texts bounded
    induction texts generalizing start with
    | nil => rfl
    | cons text texts induction =>
        rw [List.map_cons, List.zipIdx_cons, List.mapM_cons,
          induction (start + 1) (fun other member =>
            bounded other (List.mem_cons_of_mem _ member))]
        simp only [requireString_of (bounded text List.mem_cons_self)]
        rfl
  unfold stringArray
  simp only [List.length_map]
  rw [if_neg (not_lt.mpr few), each 0 texts bounded]
  rfl

theorem stringArray_length {items : List Json} {name : String}
    {texts : List String}
    (ran : stringArray (some (.array items)) name = .ok texts) :
    items.length ≤ 64 := by
  unfold stringArray at ran
  simp only at ran
  split_ifs at ran with long
  exact not_lt.mp long

end Validation

end GpuLink
