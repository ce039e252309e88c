import GpuLink.Shared.JsonText
import Mathlib.Data.List.TakeWhile

/-!
# Duplicate names

`rejectDuplicateJsonKeys` scans a text that `JSON.parse` has accepted.  It is
compared with the tree of the text, in which an object keeps all its members.
Names are compared as the runtime does it, by UTF-16 code units.
-/

namespace GpuLink

namespace Asr

/-- Past the closing quote of a string that has been opened. -/
def stringToken : List Char → List Char × List Char
  | [] => ([], [])
  | '\\' :: c :: rest =>
      let (token, rest) := stringToken rest
      ('\\' :: c :: token, rest)
  | '"' :: rest => (['"'], rest)
  | c :: rest =>
      let (token, rest) := stringToken rest
      (c :: token, rest)

namespace DuplicateKeys

/-! ## The scan -/

/-- `/\s/u` -/
def isRegExpSpace (c : Char) : Bool :=
  c = ' ' || (9 ≤ c.toNat && c.toNat ≤ 13) || c.toNat = 0xa0 ||
    c.toNat = 0x1680 || (0x2000 ≤ c.toNat && c.toNat ≤ 0x200a) ||
    c.toNat = 0x2028 || c.toNat = 0x2029 || c.toNat = 0x202f ||
    c.toNat = 0x205f || c.toNat = 0x3000 || c.toNat = 0xfeff

/-- The code units that escapes and characters stand for. -/
def codeUnits (codes : List Nat) : List Nat :=
  codes.flatMap fun code =>
    if code < 0x10000 then [code]
    else [0xd800 + (code - 0x10000) / 1024, 0xdc00 + (code - 0x10000) % 1024]

/-- `JSON.parse` of a string without its opening quote. -/
def parseKey (token : List Char) : Option (List Nat) :=
  match JsonText.stringCodes token with
  | some (codes, []) => some (codeUnits codes)
  | _ => none

/-- The names of the objects around, and nothing for an array. -/
abbrev Stack := List (Option (List (List Nat)))

inductive Round where
  | goes (text : List Char) (stack : Stack)
  | throws

/-- Once through the `for` loop, at a character. -/
def round (c : Char) (rest : List Char) (stack : Stack) : Round :=
  if c = '"' then
    let (token, rest) := stringToken rest
    let rest := rest.dropWhile isRegExpSpace
    if rest.head? = some ':' then
      match stack with
      | some keys :: outer =>
          match parseKey token with
          | some key =>
              if key ∈ keys then .throws
              else .goes rest (some (key :: keys) :: outer)
          | none => .throws
      | _ => .throws
    else .goes rest stack
  else if c = '{' then .goes rest (some [] :: stack)
  else if c = '[' then .goes rest (none :: stack)
  else if c = '}' ∨ c = ']' then .goes rest stack.tail
  else .goes rest stack

/-- Whether the scan throws, if it ends within so many rounds. -/
def scan : Nat → List Char → Stack → Option Bool
  | _, [], _ => some false
  | 0, _ :: _, _ => none
  | rounds + 1, c :: rest, stack =>
      match round c rest stack with
      | .goes text stack => scan rounds text stack
      | .throws => some true

/-- `rejectDuplicateJsonKeys`, within so many rounds. -/
def rejectDuplicateJsonKeys (rounds : Nat) (raw : String) : Option Bool :=
  scan rounds raw.toList []

theorem stringToken_length (text : List Char) :
    (stringToken text).2.length ≤ text.length := by
  fun_induction stringToken text with
  | case1 => exact Nat.le_refl _
  | case2 c rest token after same induction =>
      rw [same] at induction
      have shorter : after.length ≤ rest.length := induction
      simp only [List.length_cons]
      omega
  | case3 rest => simp
  | case4 c rest _ _ token after same induction =>
      rw [same] at induction
      have shorter : after.length ≤ rest.length := induction
      simp only [List.length_cons]
      omega

/-- A round reads at least one character. -/
theorem round_shorter {c : Char} {rest text : List Char} {stack next : Stack}
    (goes : round c rest stack = .goes text next) :
    text.length ≤ rest.length := by
  have token := stringToken_length rest
  have spaces := (List.dropWhile_sublist isRegExpSpace
    (l := (stringToken rest).2)).length_le
  unfold round at goes
  split at goes
  · dsimp only at goes
    split at goes
    · split at goes
      · split at goes
        · split at goes
          · cases goes
          · cases goes
            omega
        · cases goes
      · cases goes
    · cases goes
      omega
  · split_ifs at goes <;> cases goes <;> exact Nat.le_refl _

theorem scan_total {rounds : Nat} {text : List Char}
    (enough : text.length ≤ rounds) (stack : Stack) :
    ∃ throws, scan rounds text stack = some throws := by
  induction rounds generalizing text stack with
  | zero =>
      cases text with
      | nil => exact ⟨false, by rw [scan]⟩
      | cons c rest => cases enough
  | succ rounds induction =>
      cases text with
      | nil => exact ⟨false, by rw [scan]⟩
      | cons c rest =>
          rw [scan]
          cases step : round c rest stack with
          | throws => exact ⟨true, rfl⟩
          | goes text next =>
              have shorter := round_shorter step
              rw [List.length_cons] at enough
              exact induction (by omega) next

/-! ## Trees -/

/-- A JSON text with all the members of its objects; names and strings are
given by the code points of their characters and escapes. -/
inductive Tree where
  | leaf (json : Json)
  | text (codes : List Nat)
  | array (items : List Tree)
  | object (members : List (List Nat × Tree))

/-- Some object has two members of one name. -/
inductive Tree.Duplicated : Tree → Prop where
  | item {items : List Tree} {item : Tree} (member : item ∈ items)
      (duplicated : item.Duplicated) : (array items).Duplicated
  | value {members : List (List Nat × Tree)} {name : List Nat} {value : Tree}
      (member : (name, value) ∈ members) (duplicated : value.Duplicated) :
      (object members).Duplicated
  | names {members : List (List Nat × Tree)}
      (twice : ¬(members.map fun member => codeUnits member.1).Nodup) :
      (object members).Duplicated

mutual

/-- The value that `JSON.parse` makes of the tree. -/
def Tree.json : Tree → Json
  | .leaf json => json
  | .text codes => .string (String.ofList (JsonText.joinSurrogates codes))
  | .array items => .array (jsonItems items)
  | .object members => .object ((jsonMembers members).foldl JsonText.assign [])

def jsonItems : List Tree → List Json
  | [] => []
  | item :: items => item.json :: jsonItems items

def jsonMembers : List (List Nat × Tree) → List (String × Json)
  | [] => []
  | (name, value) :: members =>
      (String.ofList (JsonText.joinSurrogates name), value.json) ::
        jsonMembers members

end

abbrev Items := List Tree
abbrev Members := List (List Nat × Tree)

/-- An object after its brace and the space that follows. -/
def objectOf (members : List Char → Option (Members × List Char)) :
    List Char → Option (Tree × List Char)
  | '}' :: rest => some (.object [], rest)
  | rest => (members rest).map fun (members, rest) => (.object members, rest)

/-- An array after its bracket and the space that follows. -/
def arrayOf (items : List Char → Option (Items × List Char)) :
    List Char → Option (Tree × List Char)
  | ']' :: rest => some (.array [], rest)
  | rest => (items rest).map fun (items, rest) => (.array items, rest)

/-- A value that begins with the first character. -/
def valueOf (items : List Char → Option (Items × List Char))
    (members : List Char → Option (Members × List Char)) :
    List Char → Option (Tree × List Char)
  | '"' :: rest => (JsonText.stringCodes rest).map fun (codes, rest) =>
      (.text codes, rest)
  | '{' :: rest => objectOf members (JsonText.skip rest)
  | '[' :: rest => arrayOf items (JsonText.skip rest)
  | 'n' :: 'u' :: 'l' :: 'l' :: rest => some (.leaf .null, rest)
  | 't' :: 'r' :: 'u' :: 'e' :: rest => some (.leaf (.bool true), rest)
  | 'f' :: 'a' :: 'l' :: 's' :: 'e' :: rest => some (.leaf (.bool false), rest)
  | text => (JsonText.number text).map fun (q, rest) => (.leaf (.number q), rest)

/-- An item has been read: the others, if there are more. -/
def itemsOf (items : List Char → Option (Items × List Char)) (first : Tree) :
    List Char → Option (Items × List Char)
  | ',' :: rest => (items rest).map fun (others, rest) =>
      (first :: others, rest)
  | ']' :: rest => some ([first], rest)
  | _ => none

/-- A member has been read: the others, if there are more. -/
def membersOf (members : List Char → Option (Members × List Char))
    (first : List Nat × Tree) : List Char → Option (Members × List Char)
  | ',' :: rest => (members rest).map fun (others, rest) =>
      (first :: others, rest)
  | '}' :: rest => some ([first], rest)
  | _ => none

/-- The text of the value of a name. -/
def colonOf (name : List Nat) : List Char → Option (List Nat × List Char)
  | ':' :: rest => some (name, rest)
  | _ => none

/-- A name, and the text of its value. -/
def nameOf : List Char → Option (List Nat × List Char)
  | '"' :: rest =>
      (JsonText.stringCodes rest).bind fun (name, rest) =>
        colonOf name (JsonText.skip rest)
  | _ => none

mutual

/-- The grammar of `JSON.parse`, keeping all members. -/
def readValue : Nat → List Char → Option (Tree × List Char)
  | 0, _ => none
  | fuel + 1, text =>
      valueOf (readItems fuel) (readMembers fuel) (JsonText.skip text)

def readItems : Nat → List Char → Option (Items × List Char)
  | 0, _ => none
  | fuel + 1, text =>
      (readValue fuel text).bind fun (first, rest) =>
        itemsOf (readItems fuel) first (JsonText.skip rest)

def readMembers : Nat → List Char → Option (Members × List Char)
  | 0, _ => none
  | fuel + 1, text =>
      (nameOf (JsonText.skip text)).bind fun (name, rest) =>
        (readValue fuel rest).bind fun (first, rest) =>
          membersOf (readMembers fuel) (name, first) (JsonText.skip rest)

end

/-- The tree of a text that is a JSON text. -/
def readTree (raw : String) : Option Tree := do
  let (tree, rest) ← readValue (raw.length + 1) raw.toList
  if JsonText.skip rest = [] then some tree else none

/-- `JSON.parse` reads the same texts to the same ends. -/
theorem read_json (fuel : Nat) : ∀ text,
    JsonText.value fuel text =
        (readValue fuel text).map (fun (tree, rest) => (tree.json, rest)) ∧
      JsonText.items fuel text =
        (readItems fuel text).map (fun (items, rest) =>
          (jsonItems items, rest)) ∧
      JsonText.members fuel text =
        (readMembers fuel text).map (fun (members, rest) =>
          (jsonMembers members, rest)) := by
  induction fuel with
  | zero =>
      intro text
      rw [JsonText.value.eq_def, JsonText.items.eq_def, JsonText.members.eq_def,
        readValue, readItems, readMembers]
      exact ⟨rfl, rfl, rfl⟩
  | succ fuel induction =>
      intro text
      refine ⟨?_, ?_, ?_⟩
      · rw [JsonText.value.eq_def, readValue]
        simp only
        generalize JsonText.skip text = shown
        split
        · rename_i rest
          rw [valueOf, JsonText.string, Option.map_map, Option.map_map]
          rfl
        · rename_i rest
          rw [valueOf]
          generalize JsonText.skip rest = inner
          split
          · rfl
          · rename_i continues
            rw [(induction _).2.2, objectOf.eq_2 _ _ continues,
              Option.map_map, Option.map_map]
            rfl
        · rename_i rest
          rw [valueOf]
          generalize JsonText.skip rest = inner
          split
          · rfl
          · rename_i continues
            rw [(induction _).2.1, arrayOf.eq_2 _ _ continues,
              Option.map_map, Option.map_map]
            rfl
        · rfl
        · rfl
        · rfl
        · rename_i quote brace bracket null yes no
          rw [valueOf.eq_7 _ _ _ quote brace bracket null yes no,
            Option.map_map]
          rfl
      · rw [JsonText.items.eq_def, readItems]
        simp only
        rw [(induction text).1]
        cases readValue fuel text with
        | none => rfl
        | some first =>
            obtain ⟨first, rest⟩ := first
            simp only [Option.map_some, Option.bind_eq_bind, Option.bind_some]
            generalize JsonText.skip rest = shown
            split
            · rename_i after
              rw [(induction after).2.1, itemsOf]
              cases readItems fuel after with
              | none => rfl
              | some others => rfl
            · rfl
            · rename_i comma bracket
              rw [itemsOf.eq_3 _ _ _ comma bracket]
              rfl
      · rw [JsonText.members.eq_def, readMembers]
        simp only
        generalize JsonText.skip text = shown
        split
        · rename_i rest
          rw [JsonText.string, nameOf]
          cases JsonText.stringCodes rest with
          | none => rfl
          | some name =>
              obtain ⟨name, rest⟩ := name
              simp only [Option.map_some, Option.bind_eq_bind,
                Option.bind_some]
              generalize JsonText.skip rest = shown
              split
              · rename_i rest
                rw [(induction rest).1, colonOf]
                simp only [Option.bind_some]
                cases readValue fuel rest with
                | none => rfl
                | some first =>
                    obtain ⟨first, rest⟩ := first
                    simp only [Option.map_some, Option.bind_some]
                    generalize JsonText.skip rest = shown
                    split
                    · rename_i after
                      rw [(induction after).2.2, membersOf]
                      cases readMembers fuel after with
                      | none => rfl
                      | some others => rfl
                    · rfl
                    · rename_i comma brace
                      rw [membersOf.eq_3 _ _ _ comma brace]
                      rfl
              · rename_i colon
                rw [colonOf.eq_2 _ _ colon]
                rfl
        · rename_i quote
          rw [nameOf.eq_2 _ quote]
          rfl

/-! ## Steps of the scan -/

/-- More rounds than characters make no difference. -/
theorem scan_enough {rounds others : Nat} {text : List Char}
    (enough : text.length ≤ rounds) (spare : text.length ≤ others)
    (stack : Stack) : scan rounds text stack = scan others text stack := by
  induction rounds generalizing others text stack with
  | zero =>
      cases text with
      | nil => rw [scan, scan]
      | cons c rest => cases enough
  | succ rounds induction =>
      cases text with
      | nil => rw [scan, scan]
      | cons c rest =>
          rw [List.length_cons] at enough spare
          obtain ⟨others, rfl⟩ : ∃ less, others = less + 1 :=
            ⟨others - 1, by omega⟩
          rw [scan, scan]
          cases step : round c rest stack with
          | throws => rfl
          | goes text next =>
              have shorter := round_shorter step
              exact induction (by omega) (by omega) next

/-- The scan of the text throws. -/
def Throws (text : List Char) (stack : Stack) : Prop :=
  scan text.length text stack = some true

theorem throws_nil (stack : Stack) : ¬Throws [] stack := by
  intro throws
  cases throws

theorem throws_goes {c : Char} {rest text : List Char} {stack next : Stack}
    (step : round c rest stack = .goes text next) :
    Throws (c :: rest) stack ↔ Throws text next := by
  have shorter := round_shorter step
  have same := scan_enough shorter (Nat.le_refl _) next
  unfold Throws
  rw [List.length_cons, scan, step, ← same]

theorem throws_now {c : Char} {rest : List Char} {stack : Stack}
    (step : round c rest stack = .throws) : Throws (c :: rest) stack := by
  unfold Throws
  rw [List.length_cons, scan, step]

/-- The scan takes no notice of the character. -/
def Plain (c : Char) : Prop :=
  c ∉ ['"', '{', '[', '}', ']']

theorem throws_plain (before : List Char) (plain : ∀ c ∈ before, Plain c)
    (rest : List Char) (stack : Stack) :
    Throws (before ++ rest) stack ↔ Throws rest stack := by
  induction before with
  | nil => rfl
  | cons c before induction =>
      have others := induction fun other member =>
        plain other (List.mem_cons_of_mem c member)
      have first : Plain c := plain c List.mem_cons_self
      have step : round c (before ++ rest) stack =
          .goes (before ++ rest) stack := by
        simp only [Plain, List.mem_cons, List.not_mem_nil, or_false,
          not_or] at first
        simp [round, first]
      exact (throws_goes step).trans others

theorem plain_space {c : Char} (space : JsonText.isSpace c = true) :
    Plain c := by
  simp only [JsonText.isSpace, Bool.or_eq_true, decide_eq_true_eq] at space
  rcases space with ((rfl | rfl) | rfl) | rfl <;> simp [Plain]

theorem throws_skip (text : List Char) (stack : Stack) :
    Throws (JsonText.skip text) stack ↔ Throws text stack := by
  have spaces := throws_plain (text.takeWhile JsonText.isSpace)
    (fun c member => plain_space (List.mem_takeWhile_imp member))
    (JsonText.skip text) stack
  rw [JsonText.skip, List.takeWhile_append_dropWhile] at spaces
  exact spaces.symm

/-! ## Numbers -/

def OfNumber (c : Char) : Prop :=
  c.isDigit ∨ c ∈ ['.', 'e', 'E', '+', '-']

theorem OfNumber.plain {c : Char} (part : OfNumber c) : Plain c := by
  intro member
  simp only [List.mem_cons, List.not_mem_nil, or_false] at member
  rcases member with rfl | rfl | rfl | rfl | rfl <;>
    rcases part with digit | mark <;> simp at *

/-- The characters before the rest are characters of a number. -/
def Numeric (text rest : List Char) : Prop :=
  ∃ before, text = before ++ rest ∧ ∀ c ∈ before, OfNumber c

theorem Numeric.refl (text : List Char) : Numeric text text :=
  ⟨[], rfl, by simp⟩

theorem Numeric.trans {text middle rest : List Char}
    (first : Numeric text middle) (second : Numeric middle rest) :
    Numeric text rest := by
  obtain ⟨before, rfl, early⟩ := first
  obtain ⟨after, rfl, late⟩ := second
  refine ⟨before ++ after, (List.append_assoc _ _ _).symm, ?_⟩
  intro c member
  rcases List.mem_append.mp member with member | member
  · exact early c member
  · exact late c member

theorem Numeric.cons {c : Char} {text rest : List Char} (part : OfNumber c)
    (numeric : Numeric text rest) : Numeric (c :: text) rest := by
  obtain ⟨before, rfl, parts⟩ := numeric
  exact ⟨c :: before, rfl, List.forall_mem_cons.mpr ⟨part, parts⟩⟩

theorem numeric_digits (text : List Char) :
    Numeric text (text.dropWhile Char.isDigit) :=
  ⟨text.takeWhile Char.isDigit, List.takeWhile_append_dropWhile.symm,
    fun _ member => .inl (List.mem_takeWhile_imp member)⟩

theorem numeric_fraction {text rest digits : List Char}
    (read : JsonText.fractionPart text = some (digits, rest)) :
    Numeric text rest := by
  unfold JsonText.fractionPart at read
  split at read
  · rename_i after
    rw [List.span_eq_takeWhile_dropWhile] at read
    dsimp only at read
    split_ifs at read
    cases read
    exact .cons (.inr (by simp)) (numeric_digits after)
  · cases read
    exact .refl text

theorem numeric_sign (text : List Char) : ∀ {sign : Int} {rest : List Char},
    (match text with
      | '-' :: rest => (-1, rest)
      | '+' :: rest => (1, rest)
      | _ => ((1 : Int), text)) = (sign, rest) → Numeric text rest := by
  intro sign rest same
  split at same
  · cases same
    exact .cons (.inr (by simp)) (.refl rest)
  · cases same
    exact .cons (.inr (by simp)) (.refl rest)
  · cases same
    exact .refl text

theorem numeric_exponent {text rest : List Char} {exponent : Int}
    (read : JsonText.exponentPart text = some (exponent, rest)) :
    Numeric text rest := by
  unfold JsonText.exponentPart at read
  split at read
  · cases read
    exact .refl []
  · rename_i mark after
    split_ifs at read with marked
    · have part : OfNumber mark := by
        rcases marked with rfl | rfl
        · exact .inr (by simp)
        · exact .inr (by simp)
      apply Numeric.cons part
      split at read
      rename_i sign unsigned same
      have signed := numeric_sign after same
      rw [List.span_eq_takeWhile_dropWhile] at read
      dsimp only at read
      split_ifs at read
      cases read
      exact signed.trans (numeric_digits unsigned)
    · cases read
      exact .refl _

theorem numeric_magnitude {text rest : List Char} {q : Rat}
    (read : JsonText.magnitude text = some (q, rest)) : Numeric text rest := by
  unfold JsonText.magnitude at read
  rw [List.span_eq_takeWhile_dropWhile] at read
  dsimp only at read
  split_ifs at read
  · cases read
  · obtain ⟨⟨fraction, middle⟩, first, read⟩ := Option.bind_eq_some_iff.mp read
    obtain ⟨⟨exponent, last⟩, second, same⟩ := Option.bind_eq_some_iff.mp read
    obtain rfl : last = rest := (Prod.mk.inj (Option.some.inj same)).2
    have whole := numeric_digits text
    exact (whole.trans (numeric_fraction first)).trans
      (numeric_exponent second)

theorem numeric_number {text rest : List Char} {q : Rat}
    (read : JsonText.number text = some (q, rest)) : Numeric text rest := by
  unfold JsonText.number at read
  split at read
  · rename_i after
    obtain ⟨⟨size, last⟩, found, same⟩ := Option.map_eq_some_iff.mp read
    obtain rfl : last = rest := (Prod.mk.inj same).2
    exact .cons (.inr (by simp)) (numeric_magnitude found)
  · obtain ⟨⟨size, last⟩, found, same⟩ := Option.map_eq_some_iff.mp read
    obtain rfl : last = rest := (Prod.mk.inj same).2
    exact numeric_magnitude found

theorem throws_number {text rest : List Char} {q : Rat}
    (read : JsonText.number text = some (q, rest)) (stack : Stack) :
    Throws text stack ↔ Throws rest stack := by
  obtain ⟨before, rfl, parts⟩ := numeric_number read
  exact throws_plain before (fun c member => (parts c member).plain) rest
    stack

/-! ## Strings -/

theorem stringToken_plain {c : Char} {rest token after : List Char}
    (unquoted : c ≠ '"') (unescaped : c ≠ '\\')
    (read : stringToken rest = (token, after)) :
    stringToken (c :: rest) = (c :: token, after) := by
  rw [stringToken.eq_4 c rest (fun _ _ same _ => unescaped same) unquoted, read]

theorem hexDigit_plain {c : Char} {n : Nat}
    (digit : JsonText.hexDigit? c = some n) : c ≠ '"' ∧ c ≠ '\\' := by
  constructor <;> rintro rfl <;> cases digit

/-- The scan finds the end of a string where `JSON.parse` does. -/
theorem stringToken_codes {text rest : List Char} {codes : List Nat}
    (read : JsonText.stringCodes text = some (codes, rest)) :
    ∃ token, stringToken text = (token, rest) ∧
      JsonText.stringCodes token = some (codes, []) := by
  fun_induction JsonText.stringCodes text generalizing codes with
  | case1 => cases read
  | case2 =>
      cases read
      exact ⟨['"'], rfl, rfl⟩
  | case3 a b c d text induction =>
      obtain ⟨first, hexA, read⟩ := Option.bind_eq_some_iff.mp read
      obtain ⟨second, hexB, read⟩ := Option.bind_eq_some_iff.mp read
      obtain ⟨third, hexC, read⟩ := Option.bind_eq_some_iff.mp read
      obtain ⟨fourth, hexD, read⟩ := Option.bind_eq_some_iff.mp read
      obtain ⟨⟨others, after⟩, found, same⟩ := Option.bind_eq_some_iff.mp read
      cases same
      obtain ⟨token, scanned, inner⟩ := induction found
      have atD := stringToken_plain (hexDigit_plain hexD).1
        (hexDigit_plain hexD).2 scanned
      have atC := stringToken_plain (hexDigit_plain hexC).1
        (hexDigit_plain hexC).2 atD
      have atB := stringToken_plain (hexDigit_plain hexB).1
        (hexDigit_plain hexB).2 atC
      have atA := stringToken_plain (hexDigit_plain hexA).1
        (hexDigit_plain hexA).2 atB
      refine ⟨'\\' :: 'u' :: a :: b :: c :: d :: token, ?_, ?_⟩
      · rw [stringToken, atA]
      · rw [JsonText.stringCodes, hexA, hexB, hexC, hexD, inner]
        rfl
  | case4 c text _ induction =>
      obtain ⟨code, known, read⟩ := Option.bind_eq_some_iff.mp read
      obtain ⟨⟨others, after⟩, found, same⟩ := Option.bind_eq_some_iff.mp read
      cases same
      obtain ⟨token, scanned, inner⟩ := induction found
      have letter : c ≠ 'u' := by
        rintro rfl
        cases known
      refine ⟨'\\' :: c :: token, ?_, ?_⟩
      · rw [stringToken, scanned]
      · rw [JsonText.stringCodes_escaped known letter, inner]
        rfl
  | case5 => cases read
  | case6 c text unquoted _ _ printed induction =>
      rw [not_or, not_lt] at printed
      obtain ⟨⟨others, after⟩, found, same⟩ := Option.bind_eq_some_iff.mp read
      cases same
      obtain ⟨token, scanned, inner⟩ := induction found
      refine ⟨c :: token, stringToken_plain unquoted printed.2 scanned, ?_⟩
      rw [JsonText.stringCodes_plain unquoted printed.2 printed.1, inner]
      rfl

/-! ## White space -/

theorem space_regExp {c : Char} (space : JsonText.isSpace c = true) :
    isRegExpSpace c = true := by
  simp only [JsonText.isSpace, Bool.or_eq_true, decide_eq_true_eq] at space
  rcases space with ((rfl | rfl) | rfl) | rfl <;> decide

/-- What is left begins with such a character, or nothing is left. -/
def Follows (marks : List Char) (rest : List Char) : Prop :=
  ∀ c ∈ (JsonText.skip rest).head?, c ∈ marks

theorem follows_mark {marks rest after : List Char} {c : Char}
    (mark : c ∈ marks) (same : JsonText.skip rest = c :: after) :
    Follows marks rest := by
  intro other member
  rw [same] at member
  cases member
  exact mark

/-- The scan skips as many spaces as the grammar allows. -/
theorem spaces_skip {rest : List Char}
    (follows : Follows [',', ']', '}', ':'] rest) :
    rest.dropWhile isRegExpSpace = JsonText.skip rest := by
  have spaces : ∀ c ∈ rest.takeWhile JsonText.isSpace,
      isRegExpSpace c = true := fun c member =>
    space_regExp (List.mem_takeWhile_imp member)
  have parts := List.takeWhile_append_dropWhile (p := JsonText.isSpace)
    (l := rest)
  have dropped : (rest.takeWhile JsonText.isSpace ++
      JsonText.skip rest).dropWhile isRegExpSpace =
        (JsonText.skip rest).dropWhile isRegExpSpace :=
    List.dropWhile_append_of_pos spaces
  rw [JsonText.skip, parts] at dropped
  rw [dropped]
  change (JsonText.skip rest).dropWhile isRegExpSpace = JsonText.skip rest
  unfold Follows at follows
  cases shown : JsonText.skip rest with
  | nil => rfl
  | cons c after =>
      have mark : c ∈ [',', ']', '}', ':'] := follows c (by rw [shown]; rfl)
      have other : isRegExpSpace c = false := by
        simp only [List.mem_cons, List.not_mem_nil, or_false] at mark
        rcases mark with rfl | rfl | rfl | rfl <;> decide
      rw [List.dropWhile_cons_of_neg (by simp [other])]

/-! ## The scan of a value -/

/-- A string that is not a name. -/
theorem throws_string {text rest : List Char} {codes : List Nat}
    (read : JsonText.stringCodes text = some (codes, rest))
    (follows : Follows [',', ']', '}'] rest) (stack : Stack) :
    Throws ('"' :: text) stack ↔ Throws rest stack := by
  obtain ⟨token, scanned, _⟩ := stringToken_codes read
  have spaces : rest.dropWhile isRegExpSpace = JsonText.skip rest := by
    apply spaces_skip
    intro c member
    have mark := follows c member
    simp only [List.mem_cons, List.not_mem_nil, or_false] at mark ⊢
    tauto
  have value : (JsonText.skip rest).head? ≠ some ':' := by
    intro colon
    have mark := follows ':' colon
    simp at mark
  have step : round '"' text stack = .goes (JsonText.skip rest) stack := by
    simp [round, scanned, spaces, value]
  rw [throws_goes step, throws_skip]

/-- A name whose value follows. -/
theorem throws_name {text rest after : List Char} {name : List Nat}
    (read : JsonText.stringCodes text = some (name, rest))
    (colon : JsonText.skip rest = ':' :: after) (keys : List (List Nat))
    (outer : Stack) :
    Throws ('"' :: text) (some keys :: outer) ↔
      codeUnits name ∈ keys ∨
        Throws after (some (codeUnits name :: keys) :: outer) := by
  obtain ⟨token, scanned, inner⟩ := stringToken_codes read
  have spaces : rest.dropWhile isRegExpSpace = ':' :: after := by
    rw [spaces_skip (follows_mark (by simp) colon), colon]
  have key : parseKey token = some (codeUnits name) := by
    rw [parseKey, inner]
  by_cases known : codeUnits name ∈ keys
  · have step : round '"' text (some keys :: outer) = .throws := by
      simp [round, scanned, spaces, key, known]
    exact ⟨fun _ => .inl known, fun _ => throws_now step⟩
  · have step : round '"' text (some keys :: outer) =
        .goes (':' :: after) (some (codeUnits name :: keys) :: outer) := by
      simp [round, scanned, spaces, key, known]
    have plain := throws_plain [':'] (by simp [Plain]) after
      (some (codeUnits name :: keys) :: outer)
    rw [throws_goes step, ← List.singleton_append, plain, or_iff_right known]

theorem duplicated_text (codes : List Nat) : ¬(Tree.text codes).Duplicated := by
  intro duplicated
  cases duplicated

theorem duplicated_leaf (json : Json) : ¬(Tree.leaf json).Duplicated := by
  intro duplicated
  cases duplicated

theorem duplicated_array (items : List Tree) :
    (Tree.array items).Duplicated ↔ ∃ item ∈ items, item.Duplicated := by
  constructor
  · intro duplicated
    cases duplicated with
    | item member duplicated => exact ⟨_, member, duplicated⟩
  · rintro ⟨item, member, duplicated⟩
    exact .item member duplicated

/-- The names of the members, as the runtime compares them. -/
def names (members : Members) : List (List Nat) :=
  members.map fun member => codeUnits member.1

theorem duplicated_object (members : Members) :
    (Tree.object members).Duplicated ↔
      ¬(names members).Nodup ∨ ∃ member ∈ members, member.2.Duplicated := by
  constructor
  · intro duplicated
    cases duplicated with
    | value member duplicated => exact .inr ⟨_, member, duplicated⟩
    | names twice => exact .inl twice
  · rintro (twice | ⟨⟨name, value⟩, member, duplicated⟩)
    · exact .names twice
    · exact .value member duplicated

/-- Some name is used again, or some value has a name twice. -/
def Clashes (keys : List (List Nat)) (members : Members) : Prop :=
  ¬((names members).Nodup ∧ ∀ name ∈ names members, name ∉ keys) ∨
    ∃ member ∈ members, member.2.Duplicated

theorem clashes_nil (keys : List (List Nat)) : ¬Clashes keys [] := by
  simp [Clashes, names]

theorem clashes_cons (keys : List (List Nat)) (name : List Nat) (value : Tree)
    (members : Members) :
    Clashes keys ((name, value) :: members) ↔
      codeUnits name ∈ keys ∨ value.Duplicated ∨
        Clashes (codeUnits name :: keys) members := by
  have nodup : (names ((name, value) :: members)).Nodup ↔
      codeUnits name ∉ names members ∧ (names members).Nodup :=
    List.nodup_cons
  have unused : (∀ other ∈ names ((name, value) :: members), other ∉ keys) ↔
      codeUnits name ∉ keys ∧ ∀ other ∈ names members, other ∉ keys :=
    List.forall_mem_cons
  have values : (∃ member ∈ (name, value) :: members, member.2.Duplicated) ↔
      value.Duplicated ∨ ∃ member ∈ members, member.2.Duplicated := by
    simp only [List.mem_cons, exists_eq_or_imp]
  have apart : (∀ other ∈ names members, other ∉ codeUnits name :: keys) ↔
      codeUnits name ∉ names members ∧
        ∀ other ∈ names members, other ∉ keys := by
    constructor
    · intro each
      constructor
      · intro member
        exact each _ member List.mem_cons_self
      · intro other member known
        exact each other member (List.mem_cons_of_mem _ known)
    · rintro ⟨first, each⟩ other member known
      rcases List.mem_cons.mp known with rfl | known
      · exact first member
      · exact each other member known
  rw [Clashes, Clashes, nodup, unused, values, apart]
  by_cases known : codeUnits name ∈ keys
  · simp only [known, not_true_eq_false, false_and, and_false,
      not_false_eq_true, true_or]
  · have order : ((codeUnits name ∉ names members ∧ (names members).Nodup) ∧
        ∀ other ∈ names members, other ∉ keys) ↔
        (names members).Nodup ∧ codeUnits name ∉ names members ∧
          ∀ other ∈ names members, other ∉ keys := by
      rw [and_assoc, and_left_comm]
    simp only [known, not_false_eq_true, true_and, false_or, order]
    rw [or_left_comm]

def ValueScanned (value : List Char → Option (Tree × List Char)) : Prop :=
  ∀ text tree rest stack, value text = some (tree, rest) →
    Follows [',', ']', '}'] rest →
    (Throws text stack ↔ tree.Duplicated ∨ Throws rest stack)

def ItemsScanned (items : List Char → Option (Items × List Char)) : Prop :=
  ∀ text list rest stack, items text = some (list, rest) →
    (Throws text (none :: stack) ↔
      (∃ item ∈ list, item.Duplicated) ∨ Throws rest stack)

def MembersScanned (members : List Char → Option (Members × List Char)) :
    Prop :=
  ∀ text list rest keys stack, members text = some (list, rest) →
    (Throws text (some keys :: stack) ↔
      Clashes keys list ∨ Throws rest stack)

theorem throws_closed (c : Char) (closes : c = '}' ∨ c = ']')
    (rest : List Char) (object : Option (List (List Nat))) (stack : Stack) :
    Throws (c :: rest) (object :: stack) ↔ Throws rest stack := by
  apply throws_goes
  rcases closes with rfl | rfl <;> rfl

theorem throws_comma (rest : List Char) (stack : Stack) :
    Throws (',' :: rest) stack ↔ Throws rest stack :=
  throws_plain [','] (by simp [Plain]) rest stack

theorem scanned_object {members : List Char → Option (Members × List Char)}
    (scanned : MembersScanned members) {text rest : List Char} {tree : Tree}
    (read : objectOf members (JsonText.skip text) = some (tree, rest)) (stack : Stack) :
    Throws ('{' :: text) stack ↔ tree.Duplicated ∨ Throws rest stack := by
  have opened : round '{' text stack = .goes text (some [] :: stack) := rfl
  rw [throws_goes opened, ← throws_skip text]
  generalize JsonText.skip text = shown at read ⊢
  unfold objectOf at read
  split at read
  · rename_i after
    cases read
    have single := duplicated_object []
    rw [throws_closed _ (.inl rfl), single]
    simp [names]
  · obtain ⟨⟨list, last⟩, found, same⟩ := Option.map_eq_some_iff.mp read
    cases same
    rw [scanned _ _ _ _ _ found, duplicated_object]
    simp [Clashes]

theorem scanned_array {items : List Char → Option (Items × List Char)}
    (scanned : ItemsScanned items) {text rest : List Char} {tree : Tree}
    (read : arrayOf items (JsonText.skip text) = some (tree, rest)) (stack : Stack) :
    Throws ('[' :: text) stack ↔ tree.Duplicated ∨ Throws rest stack := by
  have opened : round '[' text stack = .goes text (none :: stack) := rfl
  rw [throws_goes opened, ← throws_skip text]
  generalize JsonText.skip text = shown at read ⊢
  unfold arrayOf at read
  split at read
  · cases read
    rw [throws_closed _ (.inr rfl), duplicated_array]
    simp
  · obtain ⟨⟨list, last⟩, found, same⟩ := Option.map_eq_some_iff.mp read
    cases same
    rw [scanned _ _ _ _ found, duplicated_array]

theorem scanned_leaf (before : List Char) {rest : List Char} (json : Json)
    (plain : ∀ c ∈ before, Plain c) (stack : Stack) :
    Throws (before ++ rest) stack ↔
      (Tree.leaf json).Duplicated ∨ Throws rest stack := by
  rw [throws_plain before plain, or_iff_right (duplicated_leaf json)]

theorem scanned_value {items : List Char → Option (Items × List Char)}
    {members : List Char → Option (Members × List Char)}
    (atItems : ItemsScanned items) (atMembers : MembersScanned members) :
    ValueScanned (valueOf items members) := by
  intro text tree rest stack read follows
  unfold valueOf at read
  split at read
  · obtain ⟨⟨codes, last⟩, found, same⟩ := Option.map_eq_some_iff.mp read
    cases same
    rw [throws_string found follows, or_iff_right (duplicated_text _)]
  · exact scanned_object atMembers read stack
  · exact scanned_array atItems read stack
  · cases read
    exact scanned_leaf ['n', 'u', 'l', 'l'] .null
      (by simp [Plain]) stack
  · cases read
    exact scanned_leaf ['t', 'r', 'u', 'e'] (.bool true)
      (by simp [Plain]) stack
  · cases read
    exact scanned_leaf ['f', 'a', 'l', 's', 'e'] (.bool false)
      (by simp [Plain]) stack
  · obtain ⟨⟨q, last⟩, found, same⟩ := Option.map_eq_some_iff.mp read
    obtain rfl : Tree.leaf (.number q) = tree := (Prod.mk.inj same).1
    obtain rfl : last = rest := (Prod.mk.inj same).2
    rw [throws_number found, or_iff_right (duplicated_leaf _)]

theorem scanned_items {value : List Char → Option (Tree × List Char)}
    {items : List Char → Option (Items × List Char)}
    (atValue : ValueScanned value) (atItems : ItemsScanned items)
    {text after rest : List Char} {first : Tree} {list : Items}
    (found : value text = some (first, after))
    (read : itemsOf items first (JsonText.skip after) = some (list, rest))
    (stack : Stack) :
    Throws text (none :: stack) ↔
      (∃ item ∈ list, item.Duplicated) ∨ Throws rest stack := by
  have valued := atValue text first after (none :: stack) found
  rw [← throws_skip after] at valued
  unfold Follows at valued
  generalize JsonText.skip after = shown at valued read
  unfold itemsOf at read
  split at read
  · rename_i next
    obtain ⟨⟨others, ending⟩, later, same⟩ := Option.map_eq_some_iff.mp read
    cases same
    have continues := atItems next others rest stack later
    rw [valued (by simp), throws_comma, continues]
    simp only [List.mem_cons, exists_eq_or_imp, or_assoc]
  · rename_i next
    cases read
    rw [valued (by simp), throws_closed _ (.inr rfl)]
    simp
  · cases read

theorem scanned_members {value : List Char → Option (Tree × List Char)}
    {members : List Char → Option (Members × List Char)}
    (atValue : ValueScanned value) (atMembers : MembersScanned members)
    {text start after rest : List Char} {name : List Nat} {first : Tree}
    {list : Members} (named : nameOf text = some (name, start))
    (found : value start = some (first, after))
    (read : membersOf members (name, first) (JsonText.skip after) =
      some (list, rest)) (keys : List (List Nat)) (stack : Stack) :
    Throws text (some keys :: stack) ↔ Clashes keys list ∨ Throws rest stack := by
  have atName : Throws text (some keys :: stack) ↔ codeUnits name ∈ keys ∨
      Throws start (some (codeUnits name :: keys) :: stack) := by
    unfold nameOf at named
    split at named
    · obtain ⟨⟨codes, last⟩, inner, named⟩ := Option.bind_eq_some_iff.mp named
      dsimp only at named
      unfold colonOf at named
      split at named
      · rename_i colon
        cases named
        exact throws_name inner colon keys stack
      · cases named
    · cases named
  have valued := atValue start first after
    (some (codeUnits name :: keys) :: stack) found
  rw [← throws_skip after] at valued
  unfold Follows at valued
  rw [atName]
  generalize JsonText.skip after = shown at valued read
  unfold membersOf at read
  split at read
  · rename_i next
    obtain ⟨⟨others, ending⟩, later, same⟩ := Option.map_eq_some_iff.mp read
    cases same
    have continues := atMembers next others rest
      (codeUnits name :: keys) stack later
    rw [valued (by simp), throws_comma, continues, clashes_cons]
    simp only [or_assoc]
  · rename_i next
    cases read
    rw [valued (by simp), throws_closed _ (.inl rfl), clashes_cons,
      or_iff_left (clashes_nil _), or_assoc]
  · cases read

/-- Of a value, of the items of an array and of the members of an object. -/
theorem scan_read (fuel : Nat) :
    ValueScanned (readValue fuel) ∧ ItemsScanned (readItems fuel) ∧
      MembersScanned (readMembers fuel) := by
  induction fuel with
  | zero =>
      refine ⟨?_, ?_, ?_⟩
      · intro text tree rest stack read
        cases read
      · intro text list rest stack read
        cases read
      · intro text list rest keys stack read
        cases read
  | succ fuel induction =>
      obtain ⟨atValue, atItems, atMembers⟩ := induction
      refine ⟨?_, ?_, ?_⟩
      · intro text tree rest stack read follows
        rw [readValue] at read
        rw [← throws_skip text]
        exact scanned_value atItems atMembers _ tree rest stack read follows
      · intro text list rest stack read
        rw [readItems] at read
        obtain ⟨⟨first, after⟩, found, read⟩ := Option.bind_eq_some_iff.mp read
        exact scanned_items atValue atItems found read stack
      · intro text list rest keys stack read
        rw [readMembers] at read
        rw [← throws_skip text]
        obtain ⟨⟨name, start⟩, named, read⟩ := Option.bind_eq_some_iff.mp read
        obtain ⟨⟨first, after⟩, found, read⟩ := Option.bind_eq_some_iff.mp read
        exact scanned_members atValue atMembers named found read keys stack

theorem readTree_parse (raw : String) :
    JsonText.parse raw = (readTree raw).map Tree.json := by
  unfold JsonText.parse readTree
  rw [(read_json _ _).1]
  cases readValue (raw.length + 1) raw.toList with
  | none => rfl
  | some found =>
      obtain ⟨tree, rest⟩ := found
      simp only [Option.map_some, Option.bind_eq_bind, Option.bind_some]
      split_ifs <;> rfl

/-- The scan ends; of a text that `JSON.parse` accepts, it throws when an
object of the text has a name twice, and not otherwise. -/
theorem duplicates_rejected (raw : String) :
    (∃ throws, rejectDuplicateJsonKeys raw.length raw = some throws) ∧
      ∀ json, JsonText.parse raw = some json →
        ∃ tree, readTree raw = some tree ∧ tree.json = json ∧
          (rejectDuplicateJsonKeys raw.length raw = some true ↔
            tree.Duplicated) := by
  constructor
  · exact scan_total (by rw [String.length_toList]) []
  · intro json parsed
    rw [readTree_parse] at parsed
    obtain ⟨tree, read, same⟩ := Option.map_eq_some_iff.mp parsed
    refine ⟨tree, read, same, ?_⟩
    obtain ⟨⟨root, rest⟩, found, ends⟩ := Option.bind_eq_some_iff.mp read
    dsimp only at ends
    split_ifs at ends with ended
    cases ends
    have follows : Follows [',', ']', '}'] rest := by
      intro c member
      rw [ended] at member
      cases member
    have scanned := (scan_read (raw.length + 1)).1 raw.toList tree rest []
      found follows
    rw [← throws_skip rest, ended, or_iff_left (throws_nil [])] at scanned
    rw [Throws, String.length_toList] at scanned
    exact scanned

/-- One name is written with an escape. -/
def sampleText : List Char :=
  ['[', '{', '"', 'a', '"', ':', 'n', 'u', 'l', 'l', ',', '"', '\\', 'u',
    '0', '0', '6', '1', '"', ':', 't', 'r', 'u', 'e', '}', ']']

def sampleTree : Tree :=
  .array [.object [([97], .leaf .null), ([97], .leaf (.bool true))]]

theorem sample_read : readTree (String.ofList sampleText) = some sampleTree := by
  have read : readValue 27 sampleText = some (sampleTree, []) := by rfl
  have length : sampleText.length = 26 := by rfl
  unfold readTree
  rw [String.length_ofList, String.toList_ofList, length, read]
  rfl

theorem sample_duplicated : sampleTree.Duplicated := by
  apply Tree.Duplicated.item List.mem_cons_self
  apply Tree.Duplicated.names
  decide

theorem duplicates_rejected_sample :
    rejectDuplicateJsonKeys (String.ofList sampleText).length
      (String.ofList sampleText) = some true := by
  have parsed : JsonText.parse (String.ofList sampleText) =
      some sampleTree.json := by
    rw [readTree_parse, sample_read]
    rfl
  obtain ⟨tree, read, _, exactly⟩ := (duplicates_rejected _).2 _ parsed
  obtain rfl : sampleTree = tree := Option.some.inj (sample_read.symm.trans read)
  exact exactly.mpr sample_duplicated

end DuplicateKeys

end Asr

end GpuLink
