import GpuLink.Shared.Json
import Mathlib.Data.Int.Log
import Mathlib.Data.Rat.Floor
import Mathlib.Tactic.FieldSimp

/-!
# JSON text

`JSON.parse`, and `JSON.stringify` for objects whose fields are strings and
integers.  The strings here are well formed: a surrogate that an escape leaves
without its partner reads as U+FFFD.
-/

namespace GpuLink

namespace JsonText

/-! ## Numbers -/

/-- `Number.MAX_SAFE_INTEGER` -/
def maxSafeInteger : Nat := 9007199254740991

/-- To the nearest integer, a tie going to the even one. -/
def roundEven (q : Rat) : Int :=
  if q - ⌊q⌋ < 1 / 2 then ⌊q⌋
  else if 1 / 2 < q - ⌊q⌋ then ⌊q⌋ + 1
  else if ⌊q⌋ % 2 = 0 then ⌊q⌋ else ⌊q⌋ + 1

/-- The power of two beyond the largest double stands for infinity. -/
def infinity : Rat := 2 ^ 1024

/-- The double next to a number: 53 significant bits, none below 2^-1074. -/
def toDouble (q : Rat) : Rat :=
  let scale : Rat := 2 ^ max (Int.log 2 |q| - 52) (-1074)
  max (min (roundEven (q / scale) * scale) infinity) (-infinity)

theorem roundEven_int (n : Int) : roundEven n = n := by
  simp [roundEven]

theorem safe_below_infinity : (maxSafeInteger : Rat) ≤ infinity := by
  have power : (2 : Rat) ^ 53 ≤ 2 ^ 1024 :=
    pow_le_pow_right₀ (by norm_num) (by decide)
  refine le_trans ?_ power
  norm_num [maxSafeInteger]

/-- Safe integers are doubles. -/
theorem toDouble_nat {n : Nat} (safe : n ≤ maxSafeInteger) :
    toDouble n = n := by
  have bound : (Nat.log 2 n : Int) ≤ 52 := by
    have small : n < 2 ^ 53 := by
      unfold maxSafeInteger at safe
      omega
    have log := Nat.log_lt_of_lt_pow' (by decide) small
    omega
  obtain ⟨k, shift⟩ : ∃ k : Nat,
      max (Int.log 2 |(n : Rat)| - 52) (-1074) = -(k : Int) := by
    rw [Nat.abs_cast, Int.log_natCast]
    refine ⟨52 - Nat.log 2 n, ?_⟩
    omega
  have scaled : (n : Rat) / 2 ^ (-(k : Int)) = ((n * 2 ^ k : Nat) : Int) := by
    rw [zpow_neg, zpow_natCast]
    push_cast
    field_simp
  have upper : (n : Rat) ≤ infinity := by
    have small : (n : Rat) ≤ maxSafeInteger := Nat.cast_le.mpr safe
    exact small.trans safe_below_infinity
  have lower : -infinity ≤ (n : Rat) := by
    have natural : (0 : Rat) ≤ n := Nat.cast_nonneg n
    have positive : 0 ≤ infinity := by
      unfold infinity
      positivity
    linarith
  simp only [toDouble, shift, scaled, roundEven_int]
  have back : (((n * 2 ^ k : Nat) : Int) : Rat) * 2 ^ (-(k : Int)) = n := by
    rw [zpow_neg, zpow_natCast]
    push_cast
    field_simp
  rw [back, min_eq_left upper, max_eq_left lower]

/-- `.` and digits, if there is a point. -/
def fractionPart (text : List Char) : Option (List Char × List Char) :=
  match text with
  | '.' :: rest =>
      let (digits, rest) := rest.span Char.isDigit
      if digits = [] then none else some (digits, rest)
  | _ => some ([], text)

/-- `e` or `E`, a sign and digits, if there is an exponent. -/
def exponentPart (text : List Char) : Option (Int × List Char) :=
  match text with
  | [] => some (0, [])
  | mark :: rest =>
      if mark = 'e' ∨ mark = 'E' then
        let (sign, rest) : Int × List Char :=
          match rest with
          | '-' :: rest => (-1, rest)
          | '+' :: rest => (1, rest)
          | _ => (1, rest)
        let (digits, rest) := rest.span Char.isDigit
        if digits = [] then none
        else some (sign * (Nat.ofDigitChars 10 digits 0 : Int), rest)
      else some (0, text)

/-- A number without its sign. -/
def magnitude (text : List Char) : Option (Rat × List Char) := do
  let (whole, rest) := text.span Char.isDigit
  if whole = [] ∨ (whole.head? = some '0' ∧ whole.length ≠ 1) then none
  let (fraction, rest) ← fractionPart rest
  let (exponent, rest) ← exponentPart rest
  return ((Nat.ofDigitChars 10 (whole ++ fraction) 0 : Rat) *
    10 ^ (exponent - fraction.length), rest)

def number (text : List Char) : Option (Rat × List Char) :=
  match text with
  | '-' :: rest => (magnitude rest).map (fun (q, rest) => (toDouble (-q), rest))
  | _ => (magnitude text).map (fun (q, rest) => (toDouble q, rest))

/-! ## Strings -/

def hexDigit? (c : Char) : Option Nat :=
  if c.isDigit then some (c.toNat - 48)
  else if 'a' ≤ c ∧ c ≤ 'f' then some (c.toNat - 87)
  else if 'A' ≤ c ∧ c ≤ 'F' then some (c.toNat - 55)
  else none

/-- The escapes of one letter. -/
def escaped? (c : Char) : Option Nat :=
  if c = '"' ∨ c = '\\' ∨ c = '/' then some c.toNat
  else if c = 'b' then some 8
  else if c = 't' then some 9
  else if c = 'n' then some 10
  else if c = 'f' then some 12
  else if c = 'r' then some 13
  else none

/-- The code points up to the closing quote, surrogates among them. -/
def stringCodes : List Char → Option (List Nat × List Char)
  | [] => none
  | '"' :: rest => some ([], rest)
  | '\\' :: 'u' :: a :: b :: c :: d :: rest => do
      let a ← hexDigit? a
      let b ← hexDigit? b
      let c ← hexDigit? c
      let d ← hexDigit? d
      let (codes, rest) ← stringCodes rest
      return ((((a * 16 + b) * 16 + c) * 16 + d) :: codes, rest)
  | '\\' :: c :: rest => do
      let code ← escaped? c
      let (codes, rest) ← stringCodes rest
      return (code :: codes, rest)
  | c :: rest =>
      if c.toNat < 32 ∨ c = '\\' then none
      else do
        let (codes, rest) ← stringCodes rest
        return (c.toNat :: codes, rest)

def ofCode (code : Nat) : Char :=
  if code.isValidChar then Char.ofNat code else '\ufffd'

/-- A high and a low surrogate are one character. -/
def joinSurrogates : List Nat → List Char
  | [] => []
  | [code] => [ofCode code]
  | high :: low :: rest =>
      if 0xd800 ≤ high ∧ high < 0xdc00 ∧ 0xdc00 ≤ low ∧ low < 0xe000 then
        Char.ofNat (0x10000 + (high - 0xd800) * 1024 + (low - 0xdc00)) ::
          joinSurrogates rest
      else ofCode high :: joinSurrogates (low :: rest)

def string (text : List Char) : Option (String × List Char) :=
  (stringCodes text).map (fun (codes, rest) =>
    (String.ofList (joinSurrogates codes), rest))

/-! ## Values -/

def isSpace (c : Char) : Bool :=
  c = ' ' || c = '\t' || c = '\n' || c = '\r'

def skip (text : List Char) : List Char :=
  text.dropWhile isSpace

/-- A property that occurs again keeps its place and takes the new value. -/
def assign (fields : List (String × Json)) (entry : String × Json) :
    List (String × Json) :=
  if fields.any (fun field => field.1 = entry.1) then
    fields.map (fun field => if field.1 = entry.1 then entry else field)
  else fields ++ [entry]

mutual

def value : Nat → List Char → Option (Json × List Char)
  | 0, _ => none
  | fuel + 1, text =>
      match skip text with
      | '"' :: rest =>
          (string rest).map (fun (text, rest) => (.string text, rest))
      | '{' :: rest =>
          match skip rest with
          | '}' :: rest => some (.object [], rest)
          | rest => (members fuel rest).map (fun (entries, rest) =>
              (.object (entries.foldl assign []), rest))
      | '[' :: rest =>
          match skip rest with
          | ']' :: rest => some (.array [], rest)
          | rest => (items fuel rest).map (fun (items, rest) =>
              (.array items, rest))
      | 'n' :: 'u' :: 'l' :: 'l' :: rest => some (.null, rest)
      | 't' :: 'r' :: 'u' :: 'e' :: rest => some (.bool true, rest)
      | 'f' :: 'a' :: 'l' :: 's' :: 'e' :: rest => some (.bool false, rest)
      | text => (number text).map (fun (q, rest) => (.number q, rest))

/-- The items of an array that is not empty. -/
def items : Nat → List Char → Option (List Json × List Char)
  | 0, _ => none
  | fuel + 1, text => do
      let (first, rest) ← value fuel text
      match skip rest with
      | ',' :: rest => do
          let (others, rest) ← items fuel rest
          return (first :: others, rest)
      | ']' :: rest => return ([first], rest)
      | _ => none

/-- The members of an object that is not empty. -/
def members : Nat → List Char → Option (List (String × Json) × List Char)
  | 0, _ => none
  | fuel + 1, text =>
      match skip text with
      | '"' :: rest => do
          let (name, rest) ← string rest
          match skip rest with
          | ':' :: rest => do
              let (first, rest) ← value fuel rest
              match skip rest with
              | ',' :: rest => do
                  let (others, rest) ← members fuel rest
                  return ((name, first) :: others, rest)
              | '}' :: rest => return ([(name, first)], rest)
              | _ => none
          | _ => none
      | _ => none

end

/-- `JSON.parse`; every level of nesting has a character of its own. -/
def parse (text : String) : Option Json := do
  let (json, rest) ← value (text.length + 1) text.toList
  if skip rest = [] then some json else none

/-! ## Text of objects -/

/-- A field that is a string or an integer. -/
inductive Scalar where
  | text (value : String)
  | number (value : Nat)
  deriving DecidableEq, Repr

def Scalar.json : Scalar → Json
  | text value => .string value
  | number value => .number value

def escape (c : Char) : List Char :=
  if c = '"' ∨ c = '\\' then ['\\', c]
  else if c.toNat = 8 then ['\\', 'b']
  else if c.toNat = 9 then ['\\', 't']
  else if c.toNat = 10 then ['\\', 'n']
  else if c.toNat = 12 then ['\\', 'f']
  else if c.toNat = 13 then ['\\', 'r']
  else if c.toNat < 32 then
    ['\\', 'u', '0', '0', Nat.digitChar (c.toNat / 16),
      Nat.digitChar (c.toNat % 16)]
  else [c]

def quote (text : String) : List Char :=
  '"' :: text.toList.flatMap escape ++ ['"']

def Scalar.chars : Scalar → List Char
  | text value => quote value
  | number value => Nat.toDigits 10 value

def fieldsText : List (String × Scalar) → List Char
  | [] => []
  | [(name, field)] => quote name ++ ':' :: field.chars
  | (name, field) :: rest =>
      quote name ++ ':' :: (field.chars ++ ',' :: fieldsText rest)

/-- `JSON.stringify` -/
def stringify (fields : List (String × Scalar)) : String :=
  String.ofList ('{' :: fieldsText fields ++ ['}'])

theorem hexDigit_digitChar : ∀ n < 16, hexDigit? (Nat.digitChar n) = some n := by
  decide

theorem stringCodes_escaped {c : Char} {code : Nat} {rest : List Char}
    (known : escaped? c = some code) (letter : c ≠ 'u') :
    stringCodes ('\\' :: c :: rest) = (stringCodes rest).map
      (fun (codes, rest) => (code :: codes, rest)) := by
  rw [stringCodes.eq_def]
  split
  case h_4 other tail _ same =>
    obtain ⟨rfl, rfl⟩ : c = other ∧ rest = tail := by simpa using same
    rw [known]
    cases stringCodes rest <;> rfl
  case h_5 other tail _ _ escaped same =>
    obtain ⟨rfl, rfl⟩ : '\\' = other ∧ c :: rest = tail := by simpa using same
    exact (escaped c rest rfl rfl).elim
  all_goals simp_all

theorem stringCodes_plain {c : Char} {rest : List Char} (unquoted : c ≠ '"')
    (unescaped : c ≠ '\\') (printed : 32 ≤ c.toNat) :
    stringCodes (c :: rest) = (stringCodes rest).map
      (fun (codes, rest) => (c.toNat :: codes, rest)) := by
  have plain : ¬(c.toNat < 32 ∨ c = '\\') := by
    rw [not_or]
    exact ⟨Nat.not_lt.mpr printed, unescaped⟩
  rw [stringCodes.eq_def]
  split
  case h_5 other tail _ _ _ same =>
    obtain ⟨rfl, rfl⟩ : c = other ∧ rest = tail := by simpa using same
    rw [if_neg plain]
    cases stringCodes rest <;> rfl
  all_goals simp_all

theorem stringCodes_escape (c : Char) (rest : List Char) :
    stringCodes (escape c ++ rest) = (stringCodes rest).map
      (fun (codes, rest) => (c.toNat :: codes, rest)) := by
  have named : ∀ {n : Nat}, c.toNat = n → c = Char.ofNat n := by
    intro n same
    rw [← same, Char.ofNat_toNat]
  unfold escape
  split
  · next quoted =>
      rcases quoted with rfl | rfl <;> exact stringCodes_escaped rfl (by decide)
  split
  · next code =>
      rw [named code]
      exact stringCodes_escaped rfl (by decide)
  split
  · next code =>
      rw [named code]
      exact stringCodes_escaped rfl (by decide)
  split
  · next code =>
      rw [named code]
      exact stringCodes_escaped rfl (by decide)
  split
  · next code =>
      rw [named code]
      exact stringCodes_escaped rfl (by decide)
  split
  · next code =>
      rw [named code]
      exact stringCodes_escaped rfl (by decide)
  split
  · next control =>
      have high := hexDigit_digitChar (c.toNat / 16) (by omega)
      have low := hexDigit_digitChar (c.toNat % 16) (by omega)
      have zero : hexDigit? '0' = some 0 := by decide
      have code : c.toNat / 16 * 16 + c.toNat % 16 = c.toNat := by omega
      simp only [List.cons_append, List.nil_append, stringCodes, high, low,
        zero]
      cases stringCodes rest with
      | none => rfl
      | some parsed => simp [code]
  · next unquoted _ _ _ _ _ printed =>
      rw [not_or] at unquoted
      exact stringCodes_plain unquoted.1 unquoted.2 (Nat.not_lt.mp printed)

theorem stringCodes_flatMap (text rest : List Char) :
    stringCodes (text.flatMap escape ++ '"' :: rest) =
      some (text.map Char.toNat, rest) := by
  induction text with
  | nil => rfl
  | cons c text induction =>
      rw [List.flatMap_cons, List.append_assoc, stringCodes_escape, induction]
      rfl

theorem ofCode_toNat (c : Char) : ofCode c.toNat = c := by
  have valid : c.toNat.isValidChar := c.valid
  rw [ofCode, if_pos valid, Char.ofNat_toNat]

theorem joinSurrogates_toNat (text : List Char) :
    joinSurrogates (text.map Char.toNat) = text := by
  induction text with
  | nil => rfl
  | cons c text induction =>
      cases text with
      | nil => simp [joinSurrogates, ofCode_toNat]
      | cons next text =>
          have single : ¬(0xd800 ≤ c.toNat ∧ c.toNat < 0xdc00 ∧
              0xdc00 ≤ next.toNat ∧ next.toNat < 0xe000) := by
            have valid := c.valid
            change c.toNat < 0xd800 ∨ 0xdfff < c.toNat ∧ _ at valid
            omega
          simp only [List.map_cons, joinSurrogates, if_neg single,
            ofCode_toNat]
          rw [← List.map_cons, induction]

theorem string_quote (text : String) (rest : List Char) :
    string (text.toList.flatMap escape ++ '"' :: rest) = some (text, rest) := by
  unfold string
  rw [stringCodes_flatMap]
  simp [joinSurrogates_toNat]

theorem toDigits_head {n : Nat} (positive : 0 < n) :
    (Nat.toDigits 10 n).head? ≠ some '0' := by
  induction n using Nat.strongRecOn with
  | ind n induction =>
      rw [Nat.toDigits_eq_if (by decide)]
      split
      · next small =>
          have digits : ∀ n < 10, 0 < n → Nat.digitChar n ≠ '0' := by decide
          intro zero
          exact digits n small positive (Option.some.inj zero)
      · next large =>
          have higher := induction (n / 10) (by omega) (by omega)
          rw [List.head?_append_of_ne_nil _ Nat.toDigits_ne_nil]
          exact higher

theorem toDigits_isDigit {n : Nat} {c : Char} (member : c ∈ Nat.toDigits 10 n) :
    c.isDigit :=
  Nat.isDigit_of_mem_toDigits (by decide) (by decide) member

/-- What may follow a field. -/
def Delimiter (c : Char) : Prop :=
  c = ',' ∨ c = '}'

theorem span_toDigits (n : Nat) {c : Char} (delimiter : Delimiter c)
    (rest : List Char) :
    (Nat.toDigits 10 n ++ c :: rest).span Char.isDigit =
      (Nat.toDigits 10 n, c :: rest) := by
  have ends : c.isDigit = false := by
    rcases delimiter with rfl | rfl <;> rfl
  rw [List.span_eq_takeWhile_dropWhile,
    List.takeWhile_append_of_pos (fun _ member => toDigits_isDigit member),
    List.dropWhile_append_of_pos (fun _ member => toDigits_isDigit member),
    List.takeWhile_cons_of_neg (by simp [ends]),
    List.dropWhile_cons_of_neg (by simp [ends]), List.append_nil]

theorem magnitude_toDigits (n : Nat) {c : Char} (delimiter : Delimiter c)
    (rest : List Char) :
    magnitude (Nat.toDigits 10 n ++ c :: rest) = some ((n : Rat), c :: rest) := by
  have wellFormed : ¬(Nat.toDigits 10 n = [] ∨
      ((Nat.toDigits 10 n).head? = some '0' ∧
        (Nat.toDigits 10 n).length ≠ 1)) := by
    rw [not_or]
    refine ⟨Nat.toDigits_ne_nil, ?_⟩
    rcases Nat.eq_zero_or_pos n with rfl | positive
    · decide
    · intro leading
      exact toDigits_head positive leading.1
  have noFraction : fractionPart (c :: rest) = some ([], c :: rest) := by
    rcases delimiter with rfl | rfl <;> rfl
  have noExponent : exponentPart (c :: rest) = some (0, c :: rest) := by
    rcases delimiter with rfl | rfl <;> rfl
  unfold magnitude
  rw [span_toDigits n delimiter]
  simp only [if_neg wellFormed, noFraction, noExponent, Option.pure_def,
    Option.bind_eq_bind, Option.bind_some, List.append_nil,
    Nat.ofDigitChars_ten_toDigits]
  simp

theorem number_toDigits {n : Nat} (safe : n ≤ maxSafeInteger) {c : Char}
    (delimiter : Delimiter c) (rest : List Char) :
    number (Nat.toDigits 10 n ++ c :: rest) = some ((n : Rat), c :: rest) := by
  have magnitude := magnitude_toDigits n delimiter rest
  unfold number
  split
  · next tail same =>
      have minus : '-' ∈ Nat.toDigits 10 n := by
        cases digits : Nat.toDigits 10 n with
        | nil => exact (Nat.toDigits_ne_nil digits).elim
        | cons first others =>
            rw [digits] at same
            rw [(List.cons.inj same).1]
            exact List.mem_cons_self
      have digit := toDigits_isDigit minus
      cases digit
  · rw [magnitude]
    simp [toDouble_nat safe]

/-- An integer that a double holds with all its digits. -/
def Scalar.Safe : Scalar → Prop
  | text _ => True
  | number value => value ≤ maxSafeInteger

theorem value_number {fuel : Nat} {first : Char} {others : List Char}
    (digit : first.isDigit) :
    value (fuel + 1) (first :: others) =
      (number (first :: others)).map (fun (q, rest) => (.number q, rest)) := by
  have other : ∀ c : Char, c.isDigit = false → first ≠ c := by
    intro c notDigit same
    rw [same, notDigit] at digit
    cases digit
  have shown : skip (first :: others) = first :: others := by
    refine List.dropWhile_cons_of_neg ?_
    simp [isSpace, other ' ' rfl, other '\t' rfl, other '\n' rfl,
      other '\r' rfl]
  rw [value.eq_def]
  simp only [shown]
  split
  · next same => exact (other _ rfl (List.cons.inj same).1).elim
  · next same => exact (other _ rfl (List.cons.inj same).1).elim
  · next same => exact (other _ rfl (List.cons.inj same).1).elim
  · next same => exact (other _ rfl (List.cons.inj same).1).elim
  · next same => exact (other _ rfl (List.cons.inj same).1).elim
  · next same => exact (other _ rfl (List.cons.inj same).1).elim
  · rfl

theorem value_chars (fuel : Nat) {field : Scalar} (safe : field.Safe) {c : Char}
    (delimiter : Delimiter c) (rest : List Char) :
    value (fuel + 1) (field.chars ++ c :: rest) =
      some (field.json, c :: rest) := by
  cases field with
  | text text =>
      have parsed := string_quote text (c :: rest)
      have shown : Scalar.chars (.text text) ++ c :: rest =
          '"' :: (text.toList.flatMap escape ++ '"' :: c :: rest) := by
        simp [Scalar.chars, quote]
      rw [shown, value.eq_def]
      simp [skip, isSpace, parsed, Scalar.json]
  | number n =>
      have parsed := number_toDigits safe delimiter rest
      change value (fuel + 1) (Nat.toDigits 10 n ++ c :: rest) = _
      cases digits : Nat.toDigits 10 n with
      | nil => exact (Nat.toDigits_ne_nil digits).elim
      | cons first others =>
          rw [digits] at parsed
          have digit : first.isDigit :=
            toDigits_isDigit (digits ▸ List.mem_cons_self)
          rw [List.cons_append] at parsed ⊢
          rw [value_number digit, parsed]
          rfl

/-- One member of an object: the name, the value, and what follows. -/
theorem members_cons (fuel : Nat) (name : String) {field : Scalar}
    (safe : field.Safe) {c : Char} (delimiter : Delimiter c)
    (rest : List Char) :
    members (fuel + 2) (quote name ++ ':' :: (field.chars ++ c :: rest)) =
      if c = ',' then (members (fuel + 1) rest).map (fun (others, rest) =>
        ((name, field.json) :: others, rest))
      else some ([(name, field.json)], rest) := by
  have named := string_quote name (':' :: (field.chars ++ c :: rest))
  have valued := value_chars fuel safe delimiter rest
  have shown : quote name ++ ':' :: (field.chars ++ c :: rest) =
      '"' :: (name.toList.flatMap escape ++
        '"' :: ':' :: (field.chars ++ c :: rest)) := by
    simp [quote]
  rw [shown, members.eq_def]
  rcases delimiter with rfl | rfl
  · simp [skip, isSpace, named, valued, Option.map_eq_bind]
  · simp [skip, isSpace, named, valued]

theorem members_fieldsText {fields : List (String × Scalar)}
    (nonempty : fields ≠ []) (safe : ∀ entry ∈ fields, entry.2.Safe)
    (fuel : Nat) (enough : fields.length < fuel) (rest : List Char) :
    members fuel (fieldsText fields ++ '}' :: rest) =
      some (fields.map (fun entry => (entry.1, entry.2.json)), rest) := by
  induction fields generalizing fuel with
  | nil => exact (nonempty rfl).elim
  | cons entry fields induction =>
      obtain ⟨name, field⟩ := entry
      obtain ⟨spare, rfl⟩ : ∃ spare, fuel = spare + 2 := by
        rw [List.length_cons] at enough
        exact ⟨fuel - 2, by omega⟩
      have first := safe _ List.mem_cons_self
      cases fields with
      | nil =>
          have read := members_cons spare name first
            (.inr rfl) rest
          simpa [fieldsText] using read
      | cons next fields =>
          have others := induction (by simp)
            (fun entry member => safe entry (List.mem_cons_of_mem _ member))
            (spare + 1) (by
              simp only [List.length_cons] at enough ⊢
              omega)
          have read := members_cons spare name first
            (.inl rfl) (fieldsText (next :: fields) ++ '}' :: rest)
          rw [others] at read
          simpa [fieldsText] using read

theorem assign_new {fields : List (String × Json)} {entry : String × Json}
    (unused : entry.1 ∉ fields.map Prod.fst) :
    assign fields entry = fields ++ [entry] := by
  have none : fields.any (fun field => field.1 = entry.1) = false := by
    rw [List.any_eq_false]
    intro field member same
    have same := of_decide_eq_true same
    exact unused (same ▸ List.mem_map_of_mem member)
  simp [assign, none]

/-- Names that occur once stay in order. -/
theorem foldl_assign {fields entries : List (String × Json)}
    (nodup : ((fields ++ entries).map Prod.fst).Nodup) :
    entries.foldl assign fields = fields ++ entries := by
  induction entries generalizing fields with
  | nil => simp
  | cons entry entries induction =>
      have unused : entry.1 ∉ fields.map Prod.fst := by
        rw [List.map_append, List.map_cons] at nodup
        intro member
        have apart := (List.nodup_append.mp nodup).2.2
        exact apart _ member _ List.mem_cons_self rfl
      rw [List.foldl_cons, assign_new unused, induction]
      · simp
      · simpa using nodup

theorem length_fieldsText (fields : List (String × Scalar)) :
    fields.length ≤ (fieldsText fields).length := by
  induction fields with
  | nil => exact Nat.zero_le _
  | cons entry fields induction =>
      cases fields with
      | nil => simp [fieldsText, quote]
      | cons next fields =>
          simp only [fieldsText, List.length_cons, List.length_append] at *
          omega

/-- What `JSON.stringify` writes of such an object, `JSON.parse` reads back. -/
theorem parse_stringify {fields : List (String × Scalar)}
    (nonempty : fields ≠ []) (safe : ∀ entry ∈ fields, entry.2.Safe)
    (nodup : (fields.map Prod.fst).Nodup) :
    parse (stringify fields) =
      some (.object (fields.map (fun entry => (entry.1, entry.2.json)))) := by
  have enough : fields.length < (stringify fields).length := by
    have bound := length_fieldsText fields
    simp only [stringify, String.length_ofList, List.length_cons,
      List.length_append]
    omega
  have read := members_fieldsText nonempty safe _ enough []
  have open_quote : ∃ tail, fieldsText fields = '"' :: tail := by
    cases fields with
    | nil => exact (nonempty rfl).elim
    | cons entry fields => cases fields <;> exact ⟨_, rfl⟩
  obtain ⟨tail, starts⟩ := open_quote
  have names : (([] : List (String × Json)) ++
      fields.map (fun entry => (entry.1, entry.2.json))).map Prod.fst =
        fields.map Prod.fst := by
    simp
  have kept := foldl_assign (names ▸ nodup)
  have brace : value ((stringify fields).length + 1)
      ('{' :: (fieldsText fields ++ ['}'])) = some (.object (fields.map
        (fun entry => (entry.1, entry.2.json))), []) := by
    rw [starts] at read ⊢
    rw [List.nil_append] at kept
    rw [List.cons_append] at read ⊢
    rw [value.eq_def]
    simp [skip, isSpace, read, kept]
  unfold parse
  have shown : (stringify fields).toList =
      '{' :: (fieldsText fields ++ ['}']) := by
    simp [stringify]
  rw [shown, brace]
  rfl

end JsonText

end GpuLink
