import GpuLink.Shared.JsonText

/-!
# Text of numbers

`Number.prototype.toString`: the fewest digits that read back as the same
double, and the nearest such decimal.
-/

namespace GpuLink

namespace JsonText

/-- A finite double, held exactly. -/
structure IsDouble (x : Rat) : Prop where
  exact : toDouble x = x
  below : x < infinity
  above : -infinity < x

/-- `digits * 10 ^ exponent` -/
structure Decimal where
  digits : Nat
  exponent : Int
  deriving DecidableEq, Repr

def Decimal.value (decimal : Decimal) : Rat :=
  decimal.digits * 10 ^ decimal.exponent

/-- The exponent at which a number has `count` digits. -/
def exponentFor (x : Rat) (count : Nat) : Int :=
  Int.log 10 x + 1 - count

/-- The decimals of `count` digits on both sides of a number. -/
def decimalBelow (x : Rat) (count : Nat) : Decimal where
  digits := ⌊x / 10 ^ exponentFor x count⌋.toNat
  exponent := exponentFor x count

def decimalAbove (x : Rat) (count : Nat) : Decimal :=
  let digits := (decimalBelow x count).digits + 1
  if digits = 10 ^ count then
    ⟨10 ^ (count - 1), exponentFor x count + 1⟩
  else ⟨digits, exponentFor x count⟩

/-- The one that reads back; of two, the nearer, then the even one. -/
def nearest (x : Rat) (count : Nat) : Option Decimal :=
  let low := decimalBelow x count
  let high := decimalAbove x count
  if toDouble low.value = x then
    if toDouble high.value ≠ x ∨ x - low.value < high.value - x ∨
        (x - low.value = high.value - x ∧ low.digits % 2 = 0) then some low
    else some high
  else if toDouble high.value = x then some high
  else none

def shortest (x : Rat) : Nat → Nat → Option Decimal
  | 0, _ => none
  | fuel + 1, count => (nearest x count).or (shortest x fuel (count + 1))

/-- With so many digits every double of this size is exact. -/
def exactCount (x : Rat) : Nat :=
  (Int.log 10 x + 1075).toNat

/-- The digits with a point, zeros or an exponent; `point` digits stand before
the point. -/
def layout (digits : List Char) (point : Int) : List Char :=
  if digits.length ≤ point ∧ point ≤ 21 then
    digits ++ List.replicate (point - digits.length).toNat '0'
  else if 0 < point ∧ point ≤ 21 then
    digits.take point.toNat ++ '.' :: digits.drop point.toNat
  else if -6 < point ∧ point ≤ 0 then
    '0' :: '.' :: (List.replicate (-point).toNat '0' ++ digits)
  else
    let sign := if 0 < point then '+' else '-'
    let exponent := sign :: Nat.toDigits 10 (point - 1).natAbs
    match digits with
    | [digit] => digit :: 'e' :: exponent
    | _ => digits.take 1 ++ '.' :: (digits.drop 1 ++ 'e' :: exponent)

def Decimal.text (decimal : Decimal) : List Char :=
  let digits := Nat.toDigits 10 decimal.digits
  layout digits (decimal.exponent + digits.length)

def positiveText (x : Rat) : List Char :=
  match shortest x (exactCount x) 1 with
  | some decimal => decimal.text
  | none => []

/-- `Number.prototype.toString` of a finite number. -/
def numberText (x : Rat) : List Char :=
  if x = 0 then ['0']
  else if x < 0 then '-' :: positiveText (-x)
  else positiveText x

/-! ## Reading the layout -/

/-- What follows a number does not go on with it. -/
def Ends (rest : List Char) : Prop :=
  ∀ c ∈ rest.head?, c.isDigit = false ∧ c ≠ '.' ∧ c ≠ 'e' ∧ c ≠ 'E'

theorem span_digits {digits rest : List Char} (all : ∀ c ∈ digits, c.isDigit)
    (ends : ∀ c ∈ rest.head?, c.isDigit = false) :
    (digits ++ rest).span Char.isDigit = (digits, rest) := by
  rw [List.span_eq_takeWhile_dropWhile, List.takeWhile_append_of_pos all,
    List.dropWhile_append_of_pos all]
  cases rest with
  | nil => simp
  | cons c rest =>
      have other := ends c rfl
      rw [List.takeWhile_cons_of_neg (by simp [other]),
        List.dropWhile_cons_of_neg (by simp [other]), List.append_nil]

theorem magnitude_eq {whole fraction rest middle after : List Char}
    {exponent : Int} (all : ∀ c ∈ whole, c.isDigit) (nonempty : whole ≠ [])
    (leading : whole.head? = some '0' → whole.length = 1)
    (stops : ∀ c ∈ rest.head?, c.isDigit = false)
    (point : fractionPart rest = some (fraction, middle))
    (mark : exponentPart middle = some (exponent, after)) :
    magnitude (whole ++ rest) =
      some ((Nat.ofDigitChars 10 (whole ++ fraction) 0 : Rat) *
        10 ^ (exponent - fraction.length), after) := by
  have wellFormed : ¬(whole = [] ∨
      (whole.head? = some '0' ∧ whole.length ≠ 1)) := by
    rintro (empty | ⟨zero, long⟩)
    · exact nonempty empty
    · exact long (leading zero)
  unfold magnitude
  rw [span_digits all stops]
  simp only [if_neg wellFormed, point, mark, Option.pure_def,
    Option.bind_eq_bind, Option.bind_some]

theorem fractionPart_point {digits rest : List Char} (nonempty : digits ≠ [])
    (all : ∀ c ∈ digits, c.isDigit)
    (stops : ∀ c ∈ rest.head?, c.isDigit = false) :
    fractionPart ('.' :: (digits ++ rest)) = some (digits, rest) := by
  simp only [fractionPart, span_digits all stops, if_neg nonempty]

theorem fractionPart_none {rest : List Char}
    (other : ∀ c ∈ rest.head?, c ≠ '.') :
    fractionPart rest = some ([], rest) := by
  cases rest with
  | nil => rfl
  | cons c rest =>
      have other := other c rfl
      unfold fractionPart
      split
      · rename_i same
        exact absurd (List.cons.inj same).1 other
      · rfl

theorem exponentPart_none {rest : List Char}
    (other : ∀ c ∈ rest.head?, c ≠ 'e' ∧ c ≠ 'E') :
    exponentPart rest = some (0, rest) := by
  cases rest with
  | nil => rfl
  | cons c rest =>
      have other := other c rfl
      simp [exponentPart, other]

theorem exponentPart_sign (point : Int) {rest : List Char}
    (stops : ∀ c ∈ rest.head?, c.isDigit = false) :
    exponentPart ('e' :: (if 0 < point then '+' else '-') ::
        (Nat.toDigits 10 (point - 1).natAbs ++ rest)) =
      some (point - 1, rest) := by
  have digits : ∀ c ∈ Nat.toDigits 10 (point - 1).natAbs, c.isDigit :=
    fun _ member => toDigits_isDigit member
  have read := span_digits digits stops
  by_cases positive : 0 < point
  · have value : ((point - 1).natAbs : Int) = point - 1 := by omega
    simp only [exponentPart, if_pos positive, true_or, if_true, read,
      if_neg Nat.toDigits_ne_nil, Nat.ofDigitChars_ten_toDigits, one_mul,
      value]
  · have value : -((point - 1).natAbs : Int) = point - 1 := by omega
    simp only [exponentPart, if_neg positive, true_or, if_true, read,
      if_neg Nat.toDigits_ne_nil, Nat.ofDigitChars_ten_toDigits, neg_one_mul,
      value]

theorem magnitude_layout {digits rest : List Char} {point : Int}
    (nonempty : digits ≠ []) (all : ∀ c ∈ digits, c.isDigit)
    (leading : digits.head? ≠ some '0') (ends : Ends rest) :
    magnitude (layout digits point ++ rest) =
      some ((Nat.ofDigitChars 10 digits 0 : Rat) *
        10 ^ (point - digits.length), rest) := by
  have stops : ∀ c ∈ rest.head?, c.isDigit = false :=
    fun c member => (ends c member).1
  have pointless : fractionPart rest = some ([], rest) :=
    fractionPart_none fun c member => (ends c member).2.1
  have unmarked : exponentPart rest = some (0, rest) :=
    exponentPart_none fun c member => (ends c member).2.2
  have positive := List.length_pos_iff.mpr nonempty
  have zero : ('0' : Char).isDigit := rfl
  have ten : (10 : Rat) ≠ 0 := by norm_num
  unfold layout
  split
  · rename_i long
    have zeros : point - digits.length =
        ((point - digits.length).toNat : Int) := by omega
    generalize (point - digits.length).toNat = count at zeros ⊢
    have read : magnitude (digits ++ List.replicate count '0' ++ rest) =
        some ((Nat.ofDigitChars 10 (digits ++ List.replicate count '0' ++ [])
          0 : Rat) * 10 ^ (0 - (([] : List Char).length : Int)), rest) := by
      refine magnitude_eq ?_ (by simp [nonempty]) ?_ stops pointless unmarked
      · intro c member
        rcases List.mem_append.mp member with here | there
        · exact all c here
        · rw [List.eq_of_mem_replicate there]
          exact zero
      · intro found
        rw [List.head?_append_of_ne_nil _ nonempty] at found
        exact absurd found leading
    rw [read, List.append_nil, Nat.ofDigitChars_append,
      Nat.ofDigitChars_replicate_zero, zeros, zpow_natCast]
    simp [mul_comm]
  split
  · rename_i short within
    obtain ⟨count, rfl⟩ : ∃ count : Nat, point = count :=
      ⟨point.toNat, by omega⟩
    rw [Int.toNat_natCast]
    have few : count < digits.length := by omega
    have read : magnitude (digits.take count ++
        '.' :: (digits.drop count ++ rest)) =
          some ((Nat.ofDigitChars 10 (digits.take count ++ digits.drop count)
            0 : Rat) * 10 ^ (0 - ((digits.drop count).length : Int)), rest) := by
      refine magnitude_eq ?_ ?_ ?_ ?_ (fractionPart_point ?_ ?_ stops) unmarked
      · intro c member
        exact all c (List.mem_of_mem_take member)
      · rw [← List.length_pos_iff, List.length_take]
        omega
      · intro found
        rw [List.head?_take, if_neg (by omega)] at found
        exact absurd found leading
      · intro c member
        cases member
        rfl
      · rw [← List.length_pos_iff, List.length_drop]
        omega
      · intro c member
        exact all c (List.mem_of_mem_drop member)
    rw [List.append_assoc, List.cons_append, read, List.take_append_drop,
      List.length_drop]
    have shift : (0 : Int) - ((digits.length - count : Nat) : Int) =
        count - digits.length := by omega
    rw [shift]
  split
  · rename_i small
    obtain ⟨count, zeros⟩ : ∃ count : Nat, point = -count :=
      ⟨(-point).toNat, by omega⟩
    subst zeros
    rw [neg_neg, Int.toNat_natCast]
    have read : magnitude (['0'] ++
        '.' :: (List.replicate count '0' ++ digits ++ rest)) =
          some ((Nat.ofDigitChars 10 (['0'] ++
            (List.replicate count '0' ++ digits)) 0 : Rat) *
              10 ^ (0 - ((List.replicate count '0' ++ digits).length : Int)),
            rest) := by
      refine magnitude_eq ?_ (List.cons_ne_nil _ _) (fun _ => rfl) ?_
        (fractionPart_point (by simp [nonempty]) ?_ stops) unmarked
      · intro c member
        rw [List.mem_singleton.mp member]
        exact zero
      · intro c member
        cases member
        rfl
      · intro c member
        rcases List.mem_append.mp member with here | there
        · rw [List.eq_of_mem_replicate here]
          exact zero
        · exact all c there
    have value : Nat.ofDigitChars 10 (['0'] ++
        (List.replicate count '0' ++ digits)) 0 =
          Nat.ofDigitChars 10 digits 0 := by
      rw [Nat.ofDigitChars_append, Nat.ofDigitChars_append]
      simp [Nat.ofDigitChars_cons]
    rw [value] at read
    have shift : (0 : Int) - ((List.replicate count '0' ++ digits).length :
        Int) = -count - digits.length := by
      rw [List.length_append, List.length_replicate]
      omega
    rw [shift] at read
    exact read
  · have marked := exponentPart_sign point stops
    have noDigit : ∀ c ∈ ('e' :: (if 0 < point then '+' else '-') ::
        (Nat.toDigits 10 (point - 1).natAbs ++ rest)).head?,
        c.isDigit = false := by
      intro c member
      cases member
      rfl
    cases digits with
    | nil => exact absurd rfl nonempty
    | cons first others =>
        have digit : ∀ c ∈ [first], c.isDigit := by
          intro c member
          exact all c (List.mem_singleton.mp member ▸ List.mem_cons_self)
        cases others with
        | nil =>
            have read := magnitude_eq digit (List.cons_ne_nil _ _)
              (fun _ => rfl) noDigit (fractionPart_none (by
                intro c member
                cases member
                decide)) marked
            simpa using read
        | cons second others =>
            have read := magnitude_eq digit (List.cons_ne_nil _ _)
              (fun _ => rfl) (by
                intro c member
                cases member
                rfl) (fractionPart_point (List.cons_ne_nil second others) (by
                  intro c member
                  exact all c (List.mem_cons_of_mem _ member)) noDigit) marked
            have shift : point - 1 - ((second :: others).length : Int) =
                point - (first :: second :: others).length := by
              simp only [List.length_cons]
              omega
            rw [shift] at read
            simpa using read

theorem magnitude_text {decimal : Decimal} (positive : 0 < decimal.digits)
    {rest : List Char} (ends : Ends rest) :
    magnitude (decimal.text ++ rest) = some (decimal.value, rest) := by
  have digits : ∀ c ∈ Nat.toDigits 10 decimal.digits, c.isDigit :=
    fun _ member => toDigits_isDigit member
  rw [Decimal.text, magnitude_layout Nat.toDigits_ne_nil digits
    (toDigits_head positive) ends, add_sub_cancel_right,
    Nat.ofDigitChars_ten_toDigits]
  rfl

theorem number_of_magnitude {text rest : List Char} {q : Rat}
    (read : magnitude text = some (q, rest)) :
    number text = some (toDouble q, rest) := by
  unfold number
  split
  · -- A sign is no digit.
    cases read
  · rw [read]
    rfl

/-! ## The digits that read back -/

theorem nearest_reads {x : Rat} {count : Nat} {decimal : Decimal}
    (found : nearest x count = some decimal) : toDouble decimal.value = x := by
  unfold nearest at found
  dsimp only at found
  split_ifs at found with low side high
  · cases found
    exact low
  · cases found
    by_contra differs
    exact side (.inl differs)
  · cases found
    exact high

theorem shortest_reads {x : Rat} {fuel count : Nat} {decimal : Decimal}
    (found : shortest x fuel count = some decimal) :
    toDouble decimal.value = x := by
  induction fuel generalizing count with
  | zero => cases found
  | succ fuel induction =>
      rw [shortest] at found
      cases near : nearest x count with
      | none =>
          rw [near, Option.none_or] at found
          exact induction found
      | some other =>
          rw [near, Option.some_or] at found
          cases found
          exact nearest_reads near

theorem shortest_isSome {x : Rat} {fuel count last : Nat}
    (near : (nearest x last).isSome) (start : count ≤ last)
    (reach : last < count + fuel) : (shortest x fuel count).isSome := by
  induction fuel generalizing count with
  | zero => omega
  | succ fuel induction =>
      rw [shortest, Option.isSome_or]
      rcases Nat.eq_or_lt_of_le start with rfl | later
      · rw [near, Bool.true_or]
      · rw [induction later (by omega), Bool.or_true]

theorem toDouble_zero : toDouble 0 = 0 := by
  have zero := toDouble_nat (Nat.zero_le maxSafeInteger)
  rwa [Nat.cast_zero] at zero

/-- A double is a multiple of the least one. -/
theorem IsDouble.multiple {x : Rat} (double : IsDouble x) :
    ∃ n : Int, x * 2 ^ 1074 = n := by
  have exact := double.exact
  have below := double.below
  have above := double.above
  obtain ⟨shift, power⟩ : ∃ shift : Nat,
      max (Int.log 2 |x| - 52) (-1074) = -1074 + (shift : Int) :=
    ⟨(max (Int.log 2 |x| - 52) (-1074) + 1074).toNat, by omega⟩
  unfold toDouble at exact
  rw [power] at exact
  dsimp only at exact
  generalize roundEven (x / 2 ^ (-1074 + (shift : Int))) = n at exact
  have value : (n : Rat) * 2 ^ (-1074 + (shift : Int)) = x := by
    rcases le_total infinity ((n : Rat) * 2 ^ (-1074 + (shift : Int))) with
      high | low
    · rw [min_eq_right high] at exact
      rcases max_choice infinity (-infinity) with same | same <;>
        rw [same] at exact <;> linarith
    · rw [min_eq_left low] at exact
      rcases max_choice ((n : Rat) * 2 ^ (-1074 + (shift : Int)))
        (-infinity) with same | same <;> rw [same] at exact
      · exact exact
      · linarith
  refine ⟨n * 2 ^ shift, ?_⟩
  rw [← value, mul_assoc, ← zpow_natCast, ← zpow_add₀ (by norm_num)]
  have power : -1074 + (shift : Int) + ((1074 : Nat) : Int) = shift := by
    push_cast
    ring
  rw [power, zpow_natCast]
  push_cast
  rfl

section Multiple

variable {x : Rat} {places : Nat} {n : Int} (multiple : x * 2 ^ places = n)
  (positive : 0 < x)

include multiple positive

theorem log_of_multiple : -(places : Int) ≤ Int.log 10 x := by
  have some : 1 ≤ n := by
    have power : (0 : Rat) < x * 2 ^ places := by positivity
    rw [multiple] at power
    exact Int.cast_pos.mp power
  have least : (1 : Rat) ≤ x * 2 ^ places := by
    rw [multiple]
    exact_mod_cast some
  have powers : (2 : Rat) ^ places ≤ 10 ^ places :=
    pow_le_pow_left₀ (by norm_num) (by norm_num) _
  have bound : (1 : Rat) ≤ 10 ^ places * x := by
    rw [mul_comm]
    exact least.trans (mul_le_mul_of_nonneg_left powers positive.le)
  rw [← Int.zpow_le_iff_le_log (by norm_num) positive, zpow_neg,
    zpow_natCast, Nat.cast_ofNat]
  exact inv_le_of_inv_le₀ positive ((inv_le_iff_one_le_mul₀ positive).mpr bound)

/-- With as many decimal places the number is exact. -/
theorem digits_of_multiple :
    ((⌊x / 10 ^ (-(places : Int))⌋.toNat : Nat) : Rat) *
      10 ^ (-(places : Int)) = x := by
  have tens : (10 : Rat) ^ places = 2 ^ places * 5 ^ places := by
    rw [← mul_pow]
    norm_num
  have scaled : x / 10 ^ (-(places : Int)) = ((n * 5 ^ places : Int) : Rat) := by
    rw [zpow_neg, div_inv_eq_mul, zpow_natCast, tens, ← mul_assoc, multiple]
    push_cast
    rfl
  have natural : 0 ≤ n * 5 ^ places := by
    have above : (0 : Rat) ≤ x / 10 ^ (-(places : Int)) :=
      div_nonneg positive.le (zpow_nonneg (by norm_num) _)
    rw [scaled] at above
    exact Int.cast_nonneg_iff.mp above
  have back : (((n * 5 ^ places).toNat : Nat) : Rat) =
      ((n * 5 ^ places : Int) : Rat) := by
    rw [← Int.cast_natCast, Int.toNat_of_nonneg natural]
  have power : (10 : Rat) ^ (-(places : Int)) ≠ 0 :=
    zpow_ne_zero _ (by norm_num)
  rw [scaled, Int.floor_intCast, back, ← scaled, div_mul_cancel₀ _ power]

end Multiple

theorem IsDouble.log_ge {x : Rat} (double : IsDouble x) (positive : 0 < x) :
    -1074 ≤ Int.log 10 x := by
  obtain ⟨n, multiple⟩ := double.multiple
  exact log_of_multiple multiple positive

theorem decimalBelow_exact {x : Rat} (double : IsDouble x)
    (positive : 0 < x) : (decimalBelow x (exactCount x)).value = x := by
  have log := double.log_ge positive
  obtain ⟨n, multiple⟩ := double.multiple
  have exponent : exponentFor x (exactCount x) = -((1074 : Nat) : Int) := by
    unfold exponentFor exactCount
    omega
  unfold Decimal.value decimalBelow
  rw [exponent]
  exact digits_of_multiple multiple positive

/-- Every double has such a decimal. -/
theorem shortest_double {x : Rat} (double : IsDouble x) (positive : 0 < x) :
    ∃ decimal, shortest x (exactCount x) 1 = some decimal ∧
      toDouble decimal.value = x ∧ 0 < decimal.digits := by
  have log := double.log_ge positive
  have exact := decimalBelow_exact double positive
  have near : (nearest x (exactCount x)).isSome := by
    unfold nearest
    simp only [exact, double.exact, if_true]
    split <;> rfl
  have count : 1 ≤ exactCount x := by
    unfold exactCount
    omega
  obtain ⟨decimal, found⟩ := Option.isSome_iff_exists.mp
    (shortest_isSome near count (show exactCount x < 1 + exactCount x by omega))
  have reads := shortest_reads found
  refine ⟨decimal, found, reads, ?_⟩
  by_contra none
  have zero : decimal.digits = 0 := by omega
  rw [Decimal.value, zero, Nat.cast_zero, zero_mul, toDouble_zero] at reads
  exact absurd reads positive.ne

/-! ## Signs -/

theorem roundEven_neg (q : Rat) : roundEven (-q) = -roundEven q := by
  by_cases whole : q = ⌊q⌋
  · rw [whole, roundEven_int, ← Int.cast_neg, roundEven_int]
  · have low : (⌊q⌋ : Rat) < q :=
      lt_of_le_of_ne (Int.floor_le q) (Ne.symm whole)
    have high : q < ⌊q⌋ + 1 := Int.lt_floor_add_one q
    have floor : ⌊-q⌋ = -⌊q⌋ - 1 := by
      rw [Int.floor_eq_iff]
      push_cast
      constructor <;> linarith
    unfold roundEven
    rw [floor]
    push_cast
    rcases lt_trichotomy (q - ⌊q⌋) (1 / 2) with less | half | more
    · rw [if_neg (by linarith), if_pos (by linarith), if_pos less]
      ring
    · rw [if_neg (by linarith), if_neg (by linarith), if_neg half.not_lt,
        if_neg half.not_gt]
      split_ifs <;> omega
    · rw [if_pos (by linarith), if_neg more.not_gt, if_pos more]
      ring

theorem toDouble_neg (q : Rat) : toDouble (-q) = -toDouble q := by
  unfold toDouble
  simp only [abs_neg, neg_div, roundEven_neg, Int.cast_neg, neg_mul]
  generalize (roundEven (q / 2 ^ max (Int.log 2 |q| - 52) (-1074)) : Rat) *
    2 ^ max (Int.log 2 |q| - 52) (-1074) = rounded
  have positive : 0 < infinity := by
    unfold infinity
    positivity
  rw [max_def, max_def, min_def, min_def]
  split_ifs <;> linarith

theorem IsDouble.neg {x : Rat} (double : IsDouble x) : IsDouble (-x) where
  exact := by rw [toDouble_neg, double.exact]
  below := by linarith [double.above]
  above := by linarith [double.below]

/-- What is written reads back. -/
theorem number_numberText {x : Rat} (double : IsDouble x) {rest : List Char}
    (ends : Ends rest) : number (numberText x ++ rest) = some (x, rest) := by
  have stops : ∀ c ∈ rest.head?, c.isDigit = false :=
    fun c member => (ends c member).1
  unfold numberText
  split_ifs with zero negative
  · subst zero
    have read : magnitude (['0'] ++ rest) = some (0, rest) := by
      have digit : ∀ c ∈ ['0'], c.isDigit := by
        intro c member
        rw [List.mem_singleton.mp member]
        rfl
      have read := magnitude_eq digit (List.cons_ne_nil _ _) (fun _ => rfl)
        stops (fractionPart_none fun c member => (ends c member).2.1)
        (exponentPart_none fun c member => (ends c member).2.2)
      have value : Nat.ofDigitChars 10 ['0'] 0 = 0 := rfl
      simpa [value] using read
    rw [number_of_magnitude read, toDouble_zero]
  · obtain ⟨decimal, found, reads, digits⟩ :=
      shortest_double double.neg (by linarith)
    have text : positiveText (-x) = decimal.text := by
      rw [positiveText, found]
    rw [text, List.cons_append, number, magnitude_text digits ends]
    simp [toDouble_neg, reads]
  · have positive : 0 < x := lt_of_le_of_ne (not_lt.mp negative) (Ne.symm zero)
    obtain ⟨decimal, found, reads, digits⟩ := shortest_double double positive
    have text : positiveText x = decimal.text := by
      rw [positiveText, found]
    rw [text, number_of_magnitude (magnitude_text digits ends), reads]

example : numberText (toDouble (1 / 10)) = "0.1".toList := by decide +kernel

end JsonText

end GpuLink
