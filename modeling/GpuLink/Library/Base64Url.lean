import Mathlib.Tactic.Common

/-!
# Base64url text

Bytes as text over 64 letters that are safe in a URL, without padding.  Three
bytes are four letters; one or two bytes at the end are two or three letters.
-/

namespace Base64Url

/-- The letter for a number below 64. -/
def letter (n : Nat) : Char :=
  if n < 26 then Char.ofNat (65 + n)
  else if n < 52 then Char.ofNat (71 + n)
  else if n < 62 then Char.ofNat (n - 4)
  else if n = 62 then '-' else '_'

/-- The number a letter stands for. -/
def value (c : Char) : Nat :=
  if c.isUpper then c.toNat - 65
  else if c.isLower then c.toNat - 71
  else if c.isDigit then c.toNat + 4
  else if c = '-' then 62 else 63

/-- `[A-Za-z0-9_-]` -/
def isLetter (c : Char) : Bool :=
  c.isAlphanum || c = '_' || c = '-'

theorem value_letter : ∀ n < 64, value (letter n) = n := by
  decide

theorem letter_eq_last {n : Nat} (large : 63 ≤ n) : letter n = '_' := by
  unfold letter
  rw [if_neg (by omega), if_neg (by omega), if_neg (by omega),
    if_neg (by omega)]

theorem isLetter_letter (n : Nat) : isLetter (letter n) := by
  by_cases small : n < 63
  · have checked : ∀ n < 63, isLetter (letter n) := by decide
    exact checked n small
  · have last : letter n = '_' := letter_eq_last (Nat.le_of_not_lt small)
    rw [last]
    decide

def encode : List UInt8 → List Char
  | [] => []
  | [a] => [letter (a.toNat / 4), letter (a.toNat % 4 * 16)]
  | [a, b] =>
      [letter (a.toNat / 4), letter (a.toNat % 4 * 16 + b.toNat / 16),
        letter (b.toNat % 16 * 4)]
  | a :: b :: c :: rest =>
      letter (a.toNat / 4) :: letter (a.toNat % 4 * 16 + b.toNat / 16) ::
        letter (b.toNat % 16 * 4 + c.toNat / 64) :: letter (c.toNat % 64) ::
          encode rest

/-- The bytes of a text over the alphabet; bits that do not fill a byte are
dropped. -/
def decode : List Char → List UInt8
  | a :: b :: c :: d :: rest =>
      UInt8.ofNat (value a * 4 + value b / 16) ::
        UInt8.ofNat (value b % 16 * 16 + value c / 4) ::
          UInt8.ofNat (value c % 4 * 64 + value d) :: decode rest
  | [a, b, c] =>
      [UInt8.ofNat (value a * 4 + value b / 16),
        UInt8.ofNat (value b % 16 * 16 + value c / 4)]
  | [a, b] => [UInt8.ofNat (value a * 4 + value b / 16)]
  | _ => []

/-- A byte comes back from its six high bits and its two low bits. -/
theorem byte_eq (byte : UInt8) {n : Nat} (same : n = byte.toNat) :
    UInt8.ofNat n = byte := by
  rw [same]
  exact UInt8.ofNat_toNat

theorem decode_encode (bytes : List UInt8) : decode (encode bytes) = bytes := by
  fun_induction encode bytes with
  | case1 => rfl
  | case2 a =>
      have boundA := a.toNat_lt
      have first := value_letter (a.toNat / 4) (by omega)
      have second := value_letter (a.toNat % 4 * 16) (by omega)
      simp only [decode, first, second]
      rw [byte_eq a (by omega)]
  | case3 a b =>
      have boundA := a.toNat_lt
      have boundB := b.toNat_lt
      have first := value_letter (a.toNat / 4) (by omega)
      have second := value_letter (a.toNat % 4 * 16 + b.toNat / 16) (by omega)
      have third := value_letter (b.toNat % 16 * 4) (by omega)
      simp only [decode, first, second, third]
      rw [byte_eq a (by omega), byte_eq b (by omega)]
  | case4 a b c rest induction =>
      have boundA := a.toNat_lt
      have boundB := b.toNat_lt
      have boundC := c.toNat_lt
      have first := value_letter (a.toNat / 4) (by omega)
      have second := value_letter (a.toNat % 4 * 16 + b.toNat / 16) (by omega)
      have third := value_letter (b.toNat % 16 * 4 + c.toNat / 64) (by omega)
      have fourth := value_letter (c.toNat % 64) (by omega)
      simp only [decode, first, second, third, fourth, induction]
      rw [byte_eq a (by omega), byte_eq b (by omega),
        byte_eq c (by omega)]

theorem letter_of_mem_encode {bytes : List UInt8} {c : Char}
    (member : c ∈ encode bytes) : ∃ n, c = letter n := by
  fun_induction encode bytes with
  | case1 => cases member
  | case2 a =>
      simp only [List.mem_cons, List.not_mem_nil, or_false] at member
      rcases member with same | same <;> exact ⟨_, same⟩
  | case3 a b =>
      simp only [List.mem_cons, List.not_mem_nil, or_false] at member
      rcases member with same | same | same <;> exact ⟨_, same⟩
  | case4 a b c rest induction =>
      simp only [List.mem_cons] at member
      rcases member with same | same | same | same | member
      · exact ⟨_, same⟩
      · exact ⟨_, same⟩
      · exact ⟨_, same⟩
      · exact ⟨_, same⟩
      · exact induction member

theorem encode_letters {bytes : List UInt8} {c : Char}
    (member : c ∈ encode bytes) : isLetter c := by
  obtain ⟨n, rfl⟩ := letter_of_mem_encode member
  exact isLetter_letter n

/-- The letters are in ASCII. -/
theorem encode_ascii {bytes : List UInt8} {c : Char}
    (member : c ∈ encode bytes) : c.toNat < 128 := by
  obtain ⟨n, rfl⟩ := letter_of_mem_encode member
  by_cases small : n < 63
  · have checked : ∀ n < 63, (letter n).toNat < 128 := by decide
    exact checked n small
  · rw [letter_eq_last (Nat.le_of_not_lt small)]
    decide

theorem encode_ne_nil {bytes : List UInt8} (nonempty : bytes ≠ []) :
    encode bytes ≠ [] := by
  fun_cases encode bytes with
  | case1 => exact (nonempty rfl).elim
  | case2 | case3 | case4 => simp

/-- Four letters for three bytes. -/
theorem length_encode_le (bytes : List UInt8) :
    3 * (encode bytes).length ≤ 4 * bytes.length + 2 := by
  fun_induction encode bytes with
  | case1 | case2 | case3 => simp
  | case4 a b c rest induction =>
      simp only [List.length_cons]
      omega

theorem length_encode_ge (bytes : List UInt8) :
    4 * bytes.length ≤ 3 * (encode bytes).length := by
  fun_induction encode bytes with
  | case1 | case2 | case3 => simp
  | case4 a b c rest induction =>
      simp only [List.length_cons]
      omega

end Base64Url
