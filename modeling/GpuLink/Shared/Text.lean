import Mathlib.Data.String.Basic

/-!
# Text and bytes

The few operations on strings that the runtime counts in UTF-16 code units or
carries out on UTF-8 bytes.
-/

namespace GpuLink

/-- The `length` of a string, in UTF-16 code units. -/
def utf16Length (text : String) : Nat :=
  text.length + text.toList.countP (fun c => decide (c.val > 0xffff))

/-- `Buffer.from(text, "utf8")` -/
def utf8Bytes (text : String) : List UInt8 :=
  text.toList.flatMap String.utf8EncodeChar

/-- `Buffer.byteLength(text, "utf8")` -/
def byteLength (text : String) : Nat :=
  (utf8Bytes text).length

def isContinuation (byte : UInt8) : Bool :=
  0x80 ≤ byte && byte ≤ 0xbf

/-- How many continuation bytes a lead byte asks for, and the range of the
first of them. -/
def expectedAfter (lead : UInt8) : Nat × UInt8 × UInt8 :=
  if 0xc2 ≤ lead ∧ lead ≤ 0xdf then (1, 0x80, 0xbf)
  else if lead = 0xe0 then (2, 0xa0, 0xbf)
  else if lead = 0xed then (2, 0x80, 0x9f)
  else if 0xe1 ≤ lead ∧ lead ≤ 0xef then (2, 0x80, 0xbf)
  else if lead = 0xf0 then (3, 0x90, 0xbf)
  else if lead = 0xf4 then (3, 0x80, 0x8f)
  else if 0xf1 ≤ lead ∧ lead ≤ 0xf3 then (3, 0x80, 0xbf)
  else (0, 0, 0)

/-- The length of the longest beginning that could start a character. -/
def maximalSubpart : List UInt8 → Nat
  | lead :: second :: rest =>
      let (more, low, high) := expectedAfter lead
      if 0 < more ∧ low ≤ second ∧ second ≤ high then
        2 + ((rest.take (more - 1)).takeWhile isContinuation).length
      else 1
  | _ => 1

/-- Decoding with U+FFFD in the place of each ill-formed part; every round
consumes a byte. -/
def replaceIllFormed : Nat → List UInt8 → List Char
  | 0, _ => []
  | _, [] => []
  | rounds + 1, bytes =>
      match bytes.toByteArray.utf8DecodeChar? 0 with
      | some c => c :: replaceIllFormed rounds (bytes.drop c.utf8Size)
      | none => '\ufffd' ::
          replaceIllFormed rounds (bytes.drop (maximalSubpart bytes))

/-- `buffer.toString("utf8")` -/
def utf8Text (bytes : List UInt8) : String :=
  match String.fromUTF8? bytes.toByteArray with
  | some text => text
  | none => String.ofList (replaceIllFormed bytes.length bytes)

theorem utf8Text_utf8Bytes (text : String) :
    utf8Text (utf8Bytes text) = text := by
  have bytes : (utf8Bytes text).toByteArray = text.toByteArray := by
    rw [← String.utf8Encode_toList]
    rfl
  have valid : (utf8Bytes text).toByteArray.IsValidUTF8 := by
    rw [bytes]
    exact text.isValidUTF8
  unfold utf8Text String.fromUTF8?
  rw [dif_pos valid]
  apply String.toByteArray_inj.mp
  exact bytes

theorem utf8Bytes_inj {left right : String}
    (same : utf8Bytes left = utf8Bytes right) : left = right := by
  rw [← utf8Text_utf8Bytes left, same, utf8Text_utf8Bytes]

theorem byteLength_append (left right : String) :
    byteLength (left ++ right) = byteLength left + byteLength right := by
  simp only [byteLength, utf8Bytes, String.toList_append, List.flatMap_append,
    List.length_append]

/-- A text in ASCII has a byte for each character. -/
theorem byteLength_ofList_ascii {text : List Char}
    (ascii : ∀ c ∈ text, c.toNat < 128) :
    byteLength (String.ofList text) = text.length := by
  unfold byteLength utf8Bytes
  rw [String.toList_ofList]
  induction text with
  | nil => rfl
  | cons c text induction =>
      have one : c.utf8Size = 1 := by
        have small := ascii c List.mem_cons_self
        unfold Char.utf8Size
        rw [if_pos]
        exact UInt32.le_iff_toNat_le.mpr (Nat.le_of_lt_succ small)
      rw [List.flatMap_cons, List.length_append, String.length_utf8EncodeChar,
        one, induction fun other member =>
          ascii other (List.mem_cons_of_mem _ member), List.length_cons]
      exact Nat.add_comm _ _

/-- A character takes as many bytes as code units, or more. -/
theorem utf16Length_le_byteLength (text : String) :
    utf16Length text ≤ byteLength text := by
  unfold utf16Length byteLength utf8Bytes
  rw [← String.length_toList]
  induction text.toList with
  | nil => exact Nat.le.refl
  | cons c chars induction =>
      rw [List.flatMap_cons, List.length_append,
        String.length_utf8EncodeChar, List.length_cons, List.countP_cons]
      have one := c.utf8Size_pos
      by_cases astral : c.val > 0xffff
      · have four : c.utf8Size = 4 := by
          unfold Char.utf8Size
          have above : ∀ n : UInt32, n ≤ 0xffff → ¬c.val ≤ n := by
            intro n small below
            exact absurd (UInt32.le_trans below small) (UInt32.not_le.mpr astral)
          rw [if_neg (above _ (by decide)), if_neg (above _ (by decide)),
            if_neg (above _ (by decide))]
        simp only [astral, decide_true, if_true]
        omega
      · simp only [astral, decide_false, Bool.false_eq_true, if_false]
        omega

end GpuLink
