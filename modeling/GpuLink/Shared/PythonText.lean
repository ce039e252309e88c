import Mathlib.Data.List.Basic
import Mathlib.Data.String.Basic

/-!
# Text as Python reads it

The broker is a Python program.  Its white space, line ends and decimal digits
are those of Unicode, and `int` takes a sign and single underscores.
-/

namespace GpuLink

namespace PythonText

/-- `str.isspace` of one character -/
def isSpace (c : Char) : Bool :=
  let code := c.toNat
  (9 ≤ code && code ≤ 13) || (28 ≤ code && code ≤ 32) ||
    (8192 ≤ code && code ≤ 8202) ||
    [133, 160, 5760, 8232, 8233, 8239, 8287, 12288].contains code

/-- `str.strip` -/
def strip (text : List Char) : List Char :=
  ((text.dropWhile isSpace).reverse.dropWhile isSpace).reverse

/-- `str.split` without a separator -/
def words (text : List Char) : List (List Char) :=
  (text.splitOnP isSpace).filter (fun word => word ≠ [])

/-- What `str.splitlines` breaks at. -/
def isLineBreak (c : Char) : Bool :=
  [10, 11, 12, 13, 28, 29, 30, 133, 8232, 8233].contains c.toNat

/-- A character in front of the first line. -/
def consLine (c : Char) : List (List Char) → List (List Char)
  | [] => [[c]]
  | first :: others => (c :: first) :: others

/-- `str.splitlines` -/
def lines : List Char → List (List Char)
  | [] => []
  | '\r' :: '\n' :: rest => [] :: lines rest
  | c :: rest =>
      if isLineBreak c then [] :: lines rest else consLine c (lines rest)

/-- `str.rpartition`, `none` when the separator does not occur. -/
def rpartition (separator : Char) (text : List Char) :
    Option (List Char × List Char) :=
  match text.reverse.dropWhile (fun c => c ≠ separator) with
  | [] => none
  | _ :: before => some (before.reverse,
      (text.reverse.takeWhile (fun c => c ≠ separator)).reverse)

/-- The zeros of the decimal digits of Unicode 15.1; each begins a block of
ten. -/
def decimalZeros : List Nat :=
  [0x30, 0x660, 0x6f0, 0x7c0, 0x966, 0x9e6, 0xa66, 0xae6, 0xb66, 0xbe6, 0xc66,
    0xce6, 0xd66, 0xde6, 0xe50, 0xed0, 0xf20, 0x1040, 0x1090, 0x17e0, 0x1810,
    0x1946, 0x19d0, 0x1a80, 0x1a90, 0x1b50, 0x1bb0, 0x1c40, 0x1c50, 0xa620,
    0xa8d0, 0xa900, 0xa9d0, 0xa9f0, 0xaa50, 0xabf0, 0xff10, 0x104a0, 0x10d30,
    0x11066, 0x110f0, 0x11136, 0x111d0, 0x112f0, 0x11450, 0x114d0, 0x11650,
    0x116c0, 0x11730, 0x118e0, 0x11950, 0x11c50, 0x11d50, 0x11da0, 0x11f50,
    0x16a60, 0x16ac0, 0x16b50, 0x1d7ce, 0x1d7d8, 0x1d7e2, 0x1d7ec, 0x1d7f6,
    0x1e140, 0x1e2f0, 0x1e4f0, 0x1e950, 0x1fbf0]

/-- The value of a decimal digit. -/
def decimal? (c : Char) : Option Nat :=
  (decimalZeros.find? (fun first => first ≤ c.toNat && c.toNat < first + 10)).map
    (fun first => c.toNat - first)

/-- `\d` -/
def isDecimal (c : Char) : Bool :=
  (decimal? c).isSome

/-- Digits with single underscores between them; `last` says whether a digit
came last. -/
def digits? (total : Nat) (last : Bool) : List Char → Option Nat
  | [] => if last then some total else none
  | c :: rest =>
      if c = '_' then if last then digits? total false rest else none
      else
        match decimal? c with
        | some digit => digits? (10 * total + digit) true rest
        | none => none

/-- `int` of a text, `none` for a `ValueError`. -/
def integer? (text : List Char) : Option Int :=
  match strip text with
  | '-' :: rest => (digits? 0 false rest).map (fun total => -(total : Int))
  | '+' :: rest => (digits? 0 false rest).map (fun total => (total : Int))
  | rest => (digits? 0 false rest).map (fun total => (total : Int))

/-! ## Lines -/

theorem mem_consLine {c : Char} {rest : List (List Char)} {line : List Char}
    (member : line ∈ consLine c rest) :
    line ∈ rest ∨ line = [c] ∨ ∃ first ∈ rest, line = c :: first := by
  cases rest with
  | nil => exact Or.inr (Or.inl (List.mem_singleton.mp member))
  | cons first others =>
      rcases List.mem_cons.mp member with rfl | inOthers
      · exact Or.inr (Or.inr ⟨first, List.mem_cons_self, rfl⟩)
      · exact Or.inl (List.mem_cons_of_mem _ inOthers)

/-- No line has a line break in it. -/
theorem lines_unbroken (text : List Char) :
    ∀ line ∈ lines text, ∀ c ∈ line, isLineBreak c = false := by
  induction text using lines.induct with
  | case1 =>
      intro line member
      cases member
  | case2 rest induction =>
      intro line member
      rw [lines] at member
      rcases List.mem_cons.mp member with rfl | inRest
      · intro c none
        cases none
      · exact induction line inRest
  | case3 c rest notPair breaks induction =>
      intro line member
      rw [lines, if_pos breaks] at member
      · rcases List.mem_cons.mp member with rfl | inRest
        · intro c none
          cases none
        · exact induction line inRest
      · exact notPair
  | case4 c rest notPair unbroken induction =>
      intro line member
      rw [lines, if_neg unbroken] at member
      · rcases mem_consLine member with inRest | rfl | ⟨first, inRest, rfl⟩
        · exact induction line inRest
        · intro other only
          rw [List.mem_singleton.mp only]
          exact Bool.eq_false_iff.mpr unbroken
        · intro other inLine
          rcases List.mem_cons.mp inLine with rfl | inFirst
          · exact Bool.eq_false_iff.mpr unbroken
          · exact induction first inRest other inFirst
      · exact notPair

/-- A text without line breaks is one line. -/
theorem lines_single {text : List Char} (nonempty : text ≠ [])
    (unbroken : ∀ c ∈ text, isLineBreak c = false) : lines text = [text] := by
  induction text using lines.induct with
  | case1 => exact (nonempty rfl).elim
  | case2 rest induction =>
      have breaks := unbroken '\r' List.mem_cons_self
      cases breaks
  | case3 c rest notPair breaks induction =>
      rw [unbroken c List.mem_cons_self] at breaks
      cases breaks
  | case4 c rest notPair whole induction =>
      rw [lines, if_neg whole]
      · cases rest with
        | nil => rfl
        | cons next more =>
            rw [induction (List.cons_ne_nil _ _) (fun other member =>
              unbroken other (List.mem_cons_of_mem _ member))]
            rfl
      · exact notPair

end PythonText

end GpuLink
