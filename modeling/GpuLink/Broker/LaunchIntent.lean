import GpuLink.Broker.HostProcess
import GpuLink.Library.Failures
import GpuLink.Shared.PythonText
import GpuLink.Store.CanonicalJson
import Mathlib.Data.List.TakeWhile

/-!
# Launch intents

A launch intent is read twice: by the worker's client, in JavaScript, before it
sends it, and by the broker, in Python, when it has come.  The two readings of
a version differ in what `\d` is and in what may be matched at all.
-/

namespace GpuLink

namespace LaunchIntent

open JsonText

/-! ## Patterns -/

/-- `(0|[1-9]\d*)`: what comes after it.  No digit can follow a numeral that
has ended, so nothing is lost by taking all of them. -/
def numeral (digit : Char → Bool) : List Char → Option (List Char)
  | [] => none
  | c :: rest =>
      if c = '0' then some rest
      else if c.isDigit then some (rest.dropWhile digit)
      else none

/-- `\.(0|[1-9]\d*)` -/
def dotNumeral (digit : Char → Bool) : List Char → Option (List Char)
  | '.' :: rest => numeral digit rest
  | _ => none

/-- `[0-9A-Za-z.-]` -/
def isTagChar (c : Char) : Bool :=
  c.isAlphanum || c = '.' || c = '-'

/-- `(?:-[0-9A-Za-z.-]+)?` and `(?:\+[0-9A-Za-z.-]+)?` -/
def tag (mark : Char) : List Char → Option (List Char)
  | [] => some []
  | c :: rest =>
      if c = mark then
        if rest.head?.any isTagChar then some (rest.dropWhile isTagChar)
        else none
      else some (c :: rest)

/-- `VERSION` without its end, for what the engine takes `\d` to be. -/
def version (digit : Char → Bool) (text : List Char) : Option (List Char) := do
  let first ← numeral digit text
  let second ← dotNumeral digit first
  let third ← dotNumeral digit second
  let release ← tag '-' third
  tag '+' release

/-- `VERSION` -/
def isVersion (digit : Char → Bool) (text : List Char) : Bool :=
  version digit text = some []

/-- `SHA` and `HEX`: `^[a-f0-9]{64}$` -/
def isSha (text : String) : Bool :=
  text.toList.length = 64 && text.toList.all HostProcess.isLowerHex

/-! ## The client -/

mutual

/-- `String` of a value, where it throws nothing. -/
def toText : Json → List Char
  | .null => "null".toList
  | .bool true => "true".toList
  | .bool false => "false".toList
  | .number value => numberText value
  | .string text => text.toList
  | .array items => commas (elementTexts items)
  | .object _ => "[object Object]".toList

/-- What `join` makes of the elements: `null` is empty. -/
def elementTexts : List Json → List (List Char)
  | [] => []
  | .null :: items => [] :: elementTexts items
  | item :: items => toText item :: elementTexts items

end

mutual

/-- `String` throws at an object with a `toString` of its own: in JSON that is
no function, and `valueOf` gives the object itself. -/
def throwsText : Json → Bool
  | .array items => elementsThrow items
  | .object fields => fields.any fun field => field.1 = "toString"
  | _ => false

def elementsThrow : List Json → Bool
  | [] => false
  | item :: items => throwsText item || elementsThrow items

end

/-- The order of `sort`. -/
def NameLe (first second : String) : Prop :=
  Migration.units first ≤ Migration.units second

instance : DecidableRel NameLe :=
  fun first second => inferInstanceAs
    (Decidable (Migration.units first ≤ Migration.units second))

/-- `names.sort().join('\0')` -/
def joinNames (names : List String) : List Char :=
  List.intercalate ['\x00'] ((names.insertionSort NameLe).map String.toList)

/-- The keys of an object are these. -/
def exact (value : Json) (keys : List String) : Bool :=
  match value with
  | .object fields => joinNames (fields.map Prod.fst) = joinNames keys
  | _ => false

def id (value : Option Json) : Bool :=
  match value with
  | some (.string text) => isBrokerId text
  | _ => false

/-- `Number.isSafeInteger(value) && value > 0` -/
def positive (value : Option Json) : Bool :=
  match value with
  | some (.number value) =>
      value.den = 1 && decide (0 < value.num) &&
        decide (value.num ≤ maxSafeInteger)
  | _ => false

def artifactKeys : List String := ["adapterId", "version", "sha256"]

/-- What `VERSION.test` makes a text of. -/
def versionText : Option Json → List Char
  | some value => toText value
  | none => "undefined".toList

/-- A `TypeError` is no error of the client's own. -/
def testVersion (value : Option Json) : Except String Bool :=
  if value.any throwsText then .error "TypeError"
  else .ok (isVersion Char.isDigit (versionText value))

def testSha (value : Option Json) : Bool :=
  match value with
  | some (.string text) => isSha text
  | _ => false

def artifact (value : Option Json) : Except String Json :=
  match value with
  | some value =>
      if exact value artifactKeys && id (value.field? "adapterId") then do
        let versioned ← testVersion (value.field? "version")
        if versioned && testSha (value.field? "sha256") then .ok value
        else .error "broker_invalid_artifact"
      else .error "broker_invalid_artifact"
  | none => .error "broker_invalid_artifact"

def intentKeys : List String :=
  ["schemaVersion", "attemptId", "sessionId", "leaseId", "leaseGeneration",
    "runtimeId", "reservationId", "artifact", "requiredIpcVersion"]

def idKeys : List String :=
  ["attemptId", "sessionId", "leaseId", "runtimeId", "reservationId"]

/-- `value === 1` -/
def isOne (value : Option Json) : Bool :=
  match value with
  | some (.number value) => value = 1
  | _ => false

/-- `!(value > 255)`, of a number. -/
def atMost255 (value : Option Json) : Bool :=
  match value with
  | some (.number value) => value ≤ 255
  | _ => true

def validateBrokerLaunchIntent (raw : Json) : Except String Json := do
  if exact raw intentKeys && isOne (raw.field? "schemaVersion") &&
      idKeys.all (fun key => id (raw.field? key)) &&
      positive (raw.field? "leaseGeneration") &&
      positive (raw.field? "requiredIpcVersion") &&
      atMost255 (raw.field? "requiredIpcVersion") then
    let _ ← artifact (raw.field? "artifact")
    .ok raw
  else .error "broker_invalid_intent"

/-! ## The broker -/

/-- What `json.loads` makes of a text. -/
inductive Value where
  | none
  | bool (value : Bool)
  | int (value : Int)
  | float (value : Rat)
  | str (text : String)
  | list (items : List Value)
  | dict (items : List (String × Value))

mutual

/-- An integral number below 10^21 is written without a point or an exponent,
and then read as an `int`. -/
def Value.ofJson : Json → Value
  | .null => .none
  | .bool value => .bool value
  | .number value =>
      if value.den = 1 ∧ value.num.natAbs < 10 ^ 21 then .int value.num
      else .float value
  | .string text => .str text
  | .array items => .list (ofItems items)
  | .object fields => .dict (ofFields fields)

def Value.ofItems : List Json → List Value
  | [] => []
  | item :: items => .ofJson item :: ofItems items

def Value.ofFields : List (String × Json) → List (String × Value)
  | [] => []
  | (name, value) :: fields => (name, .ofJson value) :: ofFields fields

end

mutual

/-- How deep arrays and objects are nested. -/
def depth : Json → Nat
  | .array items => depthItems items + 1
  | .object fields => depthFields fields + 1
  | _ => 0

def depthItems : List Json → Nat
  | [] => 0
  | item :: items => max (depth item) (depthItems items)

def depthFields : List (String × Json) → Nat
  | [] => 0
  | (_, value) :: fields => max (depth value) (depthFields fields)

end

/-- `strict_json` of a text that `JSON.stringify` has written, under a limit
on the recursion. -/
def strictJson (limit : Nat) (text : String) : Except String Value :=
  match parse text with
  | some json =>
      if depth json ≤ limit then .ok (.ofJson json)
      else .error "broker_invalid_message"
  | none => .error "broker_invalid_message"

namespace Value

def get? : Value → String → Option Value
  | dict items, name => (items.find? fun item => item.1 = name).map Prod.snd
  | _, _ => Option.none

def isId : Option Value → Bool
  | some (str text) => isBrokerId text
  | _ => false

def positive : Option Value → Bool
  | some (int value) => decide (0 < value) && decide (value ≤ 2 ^ 53 - 1)
  | _ => false

/-- `set(o) == set(keys)`, of a dictionary. -/
def shape (value : Value) (keys : List String) : Bool :=
  match value with
  | dict items =>
      items.all (fun item => item.1 ∈ keys) &&
        keys.all (fun key => items.any fun item => item.1 = key)
  | _ => false

def versionOk : Option Value → Bool
  | some (str text) => isVersion PythonText.isDecimal text.toList
  | _ => false

def shaOk : Option Value → Bool
  | some (str text) => isSha text
  | _ => false

def artifactOk : Option Value → Bool
  | some value =>
      value.shape artifactKeys && isId (value.get? "adapterId") &&
        versionOk (value.get? "version") && shaOk (value.get? "sha256")
  | Option.none => false

def isOne : Option Value → Bool
  | some (int value) => value = 1
  | _ => false

def atMost255 : Option Value → Bool
  | some (int value) => value ≤ 255
  | _ => false

end Value

def parseIntent (intent : Value) : Except String Value :=
  if intent.shape intentKeys && Value.isOne (intent.get? "schemaVersion") &&
      idKeys.all (fun key => Value.isId (intent.get? key)) &&
      Value.positive (intent.get? "leaseGeneration") &&
      Value.positive (intent.get? "requiredIpcVersion") &&
      Value.atMost255 (intent.get? "requiredIpcVersion") &&
      Value.artifactOk (intent.get? "artifact") then .ok intent
  else .error "broker_invalid_intent"

/-! ## Keys -/

instance : Std.Total NameLe :=
  ⟨fun first second =>
    le_total (Migration.units first) (Migration.units second)⟩

instance : IsTrans String NameLe :=
  ⟨fun _ _ _ one other => le_trans one other⟩

theorem joinNames_perm {names others : List String}
    (perm : names.Perm others) : joinNames names = joinNames others := by
  have sorted := List.perm_insertionSort NameLe names
  have sorted' := List.perm_insertionSort NameLe others
  have same : names.insertionSort NameLe = others.insertionSort NameLe := by
    refine List.Perm.eq_of_pairwise ?_ (List.pairwise_insertionSort NameLe _)
      (List.pairwise_insertionSort NameLe _)
      (sorted.trans (perm.trans sorted'.symm))
    intro first second _ _ below above
    exact Migration.units_injective (le_antisymm below above)
  rw [joinNames, joinNames, same]

/-- Each name with the separator after it. -/
def weight (names : List String) : Nat :=
  (names.map fun name => name.toList.length + 1).sum

theorem length_intercalate {names : List String} (some_ : names ≠ []) :
    (List.intercalate ['\x00'] (names.map String.toList)).length + 1 =
      weight names := by
  induction names with
  | nil => exact absurd rfl some_
  | cons name rest induction =>
      cases rest with
      | nil =>
          rw [List.map_cons, List.map_nil, List.intercalate_singleton]
          rfl
      | cons second others =>
          have longer := induction (List.cons_ne_nil _ _)
          rw [List.map_cons] at longer ⊢
          rw [List.map_cons, List.intercalate_cons_cons]
          rw [weight, List.map_cons, List.sum_cons, ← weight, ← longer]
          simp only [List.length_append, List.length_singleton]
          omega

theorem length_joinNames {names : List String} (some_ : names ≠ []) :
    (joinNames names).length + 1 = weight names := by
  have perm := List.perm_insertionSort NameLe names
  have sorted : names.insertionSort NameLe ≠ [] := by
    intro empty
    rw [empty] at perm
    exact some_ perm.nil_eq.symm
  rw [joinNames, length_intercalate sorted]
  exact (perm.map _).sum_eq

/-- No other keys are joined to the text of the names, if the names are among
them. -/
theorem keys_perm {keys names : List String} (distinct : names.Nodup)
    (some_ : names ≠ []) (present : ∀ name ∈ names, name ∈ keys)
    (same : joinNames keys = joinNames names) : keys.Perm names := by
  obtain ⟨front, matched, within⟩ := List.subperm_of_subset distinct present
  obtain ⟨others, split⟩ := within.exists_perm_append
  have perm := split.trans (matched.append_right others)
  have more : keys ≠ [] := by
    intro empty
    obtain ⟨name, rest, shape⟩ := List.exists_cons_of_ne_nil some_
    have member := present name (shape ▸ List.mem_cons_self)
    rw [empty] at member
    cases member
  have weights : weight keys = weight names + weight others := by
    rw [weight, (perm.map _).sum_eq, List.map_append, List.sum_append]
    rfl
  have lengths := congrArg List.length same
  have first := length_joinNames more
  have second := length_joinNames some_
  have none : weight others = 0 := by omega
  cases others with
  | nil =>
      rw [List.append_nil] at perm
      exact perm
  | cons name rest =>
      rw [weight, List.map_cons, List.sum_cons] at none
      omega

/-! ## Two readings of one value -/

theorem get_ofJson (json : Json) (name : String) :
    (Value.ofJson json).get? name = (json.field? name).map Value.ofJson := by
  cases json with
  | object fields =>
      rw [Value.ofJson, Value.get?, Json.field?, Option.map_map]
      induction fields with
      | nil => rfl
      | cons field rest induction =>
          rw [Value.ofFields, List.find?_cons, List.find?_cons]
          by_cases here : field.1 = name
          · rw [decide_eq_true here]
            rfl
          · rw [decide_eq_false here]
            exact induction
  | number value =>
      rw [Value.ofJson]
      split <;> rfl
  | _ => rfl

theorem isId_ofJson (value : Option Json) :
    Value.isId (value.map Value.ofJson) = id value := by
  cases value with
  | none => rfl
  | some json =>
      rw [Option.map_some]
      cases json with
      | number value =>
          rw [Value.ofJson]
          split <;> rfl
      | _ => rfl

theorem isOne_ofJson (value : Option Json) :
    Value.isOne (value.map Value.ofJson) = isOne value := by
  cases value with
  | none => rfl
  | some json =>
      rw [Option.map_some]
      cases json with
      | number value =>
          rw [Value.ofJson]
          split
          · next integral =>
              rw [Value.isOne, isOne]
              congr 1
              rw [eq_iff_iff]
              constructor
              · intro one
                rw [← Rat.num_div_den value, one, integral.1]
                norm_num
              · intro one
                rw [one]
                rfl
          · next fraction =>
              change false = decide (value = 1)
              symm
              rw [decide_eq_false_iff_not]
              rintro rfl
              exact fraction (by decide)
      | _ => rfl

theorem positive_ofJson (value : Option Json) :
    Value.positive (value.map Value.ofJson) = positive value := by
  cases value with
  | none => rfl
  | some json =>
      rw [Option.map_some]
      cases json with
      | number value =>
          rw [Value.ofJson]
          split
          · next integral =>
              rw [Value.positive, positive, decide_eq_true integral.1,
                Bool.true_and]
              rfl
          · next fraction =>
              change false = positive (some (.number value))
              symm
              rw [Bool.eq_false_iff]
              intro holds
              simp only [positive, Bool.and_eq_true, decide_eq_true_eq] at holds
              obtain ⟨⟨integral, above⟩, below⟩ := holds
              apply fraction
              refine ⟨integral, ?_⟩
              have bound : maxSafeInteger < 10 ^ 21 := by decide
              omega
      | _ => rfl

/-- What is positive and small is a number on both sides. -/
theorem atMost255_ofJson (value : Option Json)
    (number : positive value = true) :
    Value.atMost255 (value.map Value.ofJson) = atMost255 value := by
  cases value with
  | none => cases number
  | some json =>
      rw [Option.map_some]
      cases json with
      | number value =>
          simp only [positive, Bool.and_eq_true, decide_eq_true_eq] at number
          obtain ⟨⟨integral, above⟩, below⟩ := number
          have bound : maxSafeInteger < 10 ^ 21 := by decide
          have small : value.num.natAbs < 10 ^ 21 := by omega
          rw [Value.ofJson, if_pos ⟨integral, small⟩]
          rw [Value.atMost255, atMost255]
          congr 1
          rw [eq_iff_iff]
          have whole : value = (value.num : Rat) := by
            rw [← Rat.num_div_den value, integral]
            norm_num
          rw [whole, Rat.num_intCast]
          norm_cast
      | _ => cases number

theorem mem_ofFields {fields : List (String × Json)} {name : String} :
    (∃ item ∈ Value.ofFields fields, item.1 = name) ↔
      name ∈ fields.map Prod.fst := by
  induction fields with
  | nil => simp [Value.ofFields]
  | cons field rest induction =>
      rw [Value.ofFields, List.map_cons, List.mem_cons, ← induction]
      simp only [List.mem_cons, exists_eq_or_imp, eq_comm]

/-- `shape` compares keys as sets. -/
theorem shape_ofJson {json : Json} {keys : List String} :
    (Value.ofJson json).shape keys = true ↔
      ∃ fields, json = .object fields ∧
        ∀ name, name ∈ fields.map Prod.fst ↔ name ∈ keys := by
  cases json with
  | object fields =>
      simp only [Value.ofJson, Value.shape, Bool.and_eq_true, List.all_eq_true,
        List.any_eq_true, decide_eq_true_eq, Json.object.injEq,
        exists_eq_left']
      constructor
      · rintro ⟨within, all⟩ name
        constructor
        · intro member
          obtain ⟨item, inFields, rfl⟩ := mem_ofFields.mpr member
          exact within item inFields
        · intro member
          exact mem_ofFields.mp (all name member)
      · intro same
        constructor
        · intro item member
          exact (same item.1).mp (mem_ofFields.mp ⟨item, member, rfl⟩)
        · intro name member
          exact mem_ofFields.mpr ((same name).mpr member)
  | number value =>
      rw [Value.ofJson]
      split <;> simp [Value.shape]
  | null => simp [Value.ofJson, Value.shape]
  | bool value => simp [Value.ofJson, Value.shape]
  | string text => simp [Value.ofJson, Value.shape]
  | array items => simp [Value.ofJson, Value.shape]

/-! ## Characters of a version -/

/-- The characters that versions are made of. -/
def isVersionChar (c : Char) : Bool :=
  isTagChar c || c = '+'

theorem isVersionChar_of_isTagChar {c : Char} (tag : isTagChar c = true) :
    isVersionChar c = true := by
  rw [isVersionChar, tag]
  rfl

theorem isVersionChar_of_isDigit {c : Char} (digit : c.isDigit = true) :
    isVersionChar c = true := by
  apply isVersionChar_of_isTagChar
  rw [isTagChar, Char.isAlphanum, digit, Bool.or_true]
  rfl

/-- What has been taken from the front of a text. -/
def TakenFrom (rest text : List Char) : Prop :=
  ∃ front, text = front ++ rest ∧ ∀ c ∈ front, isVersionChar c = true

theorem TakenFrom.trans {first second third : List Char}
    (one : TakenFrom first second) (other : TakenFrom second third) :
    TakenFrom first third := by
  obtain ⟨front, rfl, chars⟩ := one
  obtain ⟨before, rfl, chars'⟩ := other
  refine ⟨before ++ front, (List.append_assoc _ _ _).symm, ?_⟩
  intro c member
  rcases List.mem_append.mp member with early | late
  · exact chars' c early
  · exact chars c late

theorem takenFrom_dropWhile {p : Char → Bool}
    (chars : ∀ c, p c = true → isVersionChar c = true) {c : Char}
    (first : isVersionChar c = true) (rest : List Char) :
    TakenFrom (rest.dropWhile p) (c :: rest) := by
  refine ⟨c :: rest.takeWhile p, ?_, ?_⟩
  · rw [List.cons_append, List.takeWhile_append_dropWhile]
  · intro other member
    rcases List.mem_cons.mp member with rfl | later
    · exact first
    · exact chars other (List.mem_takeWhile_imp later)

theorem takenFrom_numeral {text rest : List Char}
    (taken : numeral Char.isDigit text = some rest) : TakenFrom rest text := by
  cases text with
  | nil => cases taken
  | cons c text =>
      rw [numeral] at taken
      split at taken
      · next zero =>
          cases taken
          refine ⟨[c], rfl, ?_⟩
          intro other member
          rw [List.mem_singleton.mp member, zero]
          decide
      · split at taken
        · next digit =>
            cases taken
            exact takenFrom_dropWhile (fun _ => isVersionChar_of_isDigit)
              (isVersionChar_of_isDigit digit) text
        · cases taken

theorem takenFrom_dotNumeral {text rest : List Char}
    (taken : dotNumeral Char.isDigit text = some rest) :
    TakenFrom rest text := by
  unfold dotNumeral at taken
  split at taken
  · next text =>
      apply (takenFrom_numeral taken).trans
      refine ⟨['.'], rfl, ?_⟩
      intro c member
      rw [List.mem_singleton.mp member]
      decide
  · cases taken

theorem takenFrom_tag {mark : Char} (known : isVersionChar mark = true)
    {text rest : List Char} (taken : tag mark text = some rest) :
    TakenFrom rest text := by
  cases text with
  | nil =>
      cases taken
      exact ⟨[], rfl, List.forall_mem_nil _⟩
  | cons c text =>
      rw [tag] at taken
      split at taken
      · next marked =>
          split at taken
          · cases taken
            exact takenFrom_dropWhile (fun _ => isVersionChar_of_isTagChar)
              (marked ▸ known) text
          · cases taken
      · cases taken
        exact ⟨[], rfl, List.forall_mem_nil _⟩

theorem chars_of_isVersion {text : List Char}
    (version : isVersion Char.isDigit text = true) :
    ∀ c ∈ text, isVersionChar c = true := by
  rw [isVersion, decide_eq_true_eq] at version
  obtain ⟨first, major, version⟩ := Option.bind_eq_some_iff.mp version
  obtain ⟨second, minor, version⟩ := Option.bind_eq_some_iff.mp version
  obtain ⟨third, patch, version⟩ := Option.bind_eq_some_iff.mp version
  obtain ⟨release, before, after⟩ := Option.bind_eq_some_iff.mp version
  have whole := (takenFrom_tag (by decide) after).trans
    ((takenFrom_tag (by decide) before).trans ((takenFrom_dotNumeral patch).trans
      ((takenFrom_dotNumeral minor).trans (takenFrom_numeral major))))
  obtain ⟨front, shape, chars⟩ := whole
  rw [List.append_nil] at shape
  exact shape ▸ chars

/-! ## Texts that cannot be made -/

theorem mem_commas {c : Char} {text : List Char} {texts : List (List Char)}
    (member : text ∈ texts) (among : c ∈ text) : c ∈ commas texts := by
  induction texts with
  | nil => cases member
  | cons first rest induction =>
      have later : text ∈ rest → c ∈ commas (first :: rest) := by
        intro inRest
        cases rest with
        | nil => cases inRest
        | cons second others =>
            rw [commas, List.intercalate_cons_cons]
            exact List.mem_append_right _ (induction inRest)
      rcases List.mem_cons.mp member with rfl | inRest
      · cases rest with
        | nil => simpa [commas] using among
        | cons second others =>
            rw [commas, List.intercalate_cons_cons]
            exact List.mem_append_left _ (List.mem_append_left _ among)
      · exact later inRest

theorem bracket_of_elements {items : List Json}
    (each : ∀ item ∈ items, throwsText item = true → '[' ∈ toText item)
    (throws : elementsThrow items = true) :
    ∃ text ∈ elementTexts items, '[' ∈ text := by
  induction items with
  | nil => cases throws
  | cons item items induction =>
      rw [elementsThrow, Bool.or_eq_true] at throws
      rcases throws with here | later
      · have bracket := each item List.mem_cons_self here
        cases item with
        | null => cases here
        | _ => exact ⟨_, List.mem_cons_self, bracket⟩
      · obtain ⟨text, member, bracket⟩ := induction
          (fun other among => each other (List.mem_cons_of_mem _ among)) later
        refine ⟨text, ?_, bracket⟩
        cases item <;> exact List.mem_cons_of_mem _ member

/-- Where `String` throws, the text would have a bracket. -/
theorem bracket_of_throws {json : Json} (proper : Proper json)
    (throws : throwsText json = true) : '[' ∈ toText json := by
  induction proper with
  | null => cases throws
  | bool flag => cases throws
  | number double => cases throws
  | string text => cases throws
  | array proper each =>
      obtain ⟨text, member, bracket⟩ := bracket_of_elements each throws
      exact mem_commas member bracket
  | object nodup proper each =>
      exact (by decide : '[' ∈ "[object Object]".toList)

/-- No version is found where `String` throws. -/
theorem testVersion_ok {version : Json} (proper : Proper version) :
    testVersion (some version) = .ok true ↔
      isVersion Char.isDigit (toText version) = true := by
  rw [testVersion, Option.any_some]
  split
  · next throws =>
      constructor
      · intro error
        cases error
      · intro taken
        have bracket := chars_of_isVersion taken '['
          (bracket_of_throws proper throws)
        exact absurd bracket (by decide)
  · rw [Except.ok.injEq]
    exact Iff.rfl

/-! ## Well-formed intents -/

/-- The value is an object with these keys. -/
def HasKeys (value : Json) (keys : List String) : Prop :=
  ∃ fields, value = .object fields ∧
    ∀ name, name ∈ fields.map Prod.fst ↔ name ∈ keys

/-- Everything but the version of the artifact is as both sides want it. -/
structure WellFormed (raw version : Json) : Prop where
  keys : HasKeys raw intentKeys
  schemaVersion : isOne (raw.field? "schemaVersion") = true
  ids : ∀ key ∈ idKeys, id (raw.field? key) = true
  leaseGeneration : positive (raw.field? "leaseGeneration") = true
  requiredIpcVersion : positive (raw.field? "requiredIpcVersion") = true
  small : atMost255 (raw.field? "requiredIpcVersion") = true
  artifact : ∃ value, raw.field? "artifact" = some value ∧
    HasKeys value artifactKeys ∧ id (value.field? "adapterId") = true ∧
    value.field? "version" = some version ∧
    testSha (value.field? "sha256") = true

theorem mem_of_field {fields : List (String × Json)} {name : String}
    (found : (Json.object fields).field? name ≠ none) :
    name ∈ fields.map Prod.fst := by
  obtain ⟨value, found⟩ := Option.ne_none_iff_exists'.mp found
  obtain ⟨field, found, _⟩ := Option.map_eq_some_iff.mp found
  have same := List.find?_some found
  have member := List.mem_of_find?_eq_some found
  exact List.mem_map.mpr ⟨field, member, of_decide_eq_true same⟩

/-- The text of the keys says which they are when the names are there. -/
theorem exact_iff {value : Json} {names : List String}
    (proper : Proper value) (distinct : names.Nodup) (some_ : names ≠ [])
    (present : ∀ name ∈ names, value.field? name ≠ none) :
    exact value names = true ↔ HasKeys value names := by
  cases proper with
  | object nodup proper =>
      rw [exact, decide_eq_true_iff]
      constructor
      · intro same
        have perm := keys_perm distinct some_
          (fun name member => mem_of_field (present name member)) same
        exact ⟨_, rfl, fun name => perm.mem_iff⟩
      · rintro ⟨_, shape, same⟩
        cases shape
        exact joinNames_perm
          ((List.perm_ext_iff_of_nodup nodup distinct).mpr same)
  | null => simp [exact, HasKeys]
  | bool value => simp [exact, HasKeys]
  | number double => simp [exact, HasKeys]
  | string value => simp [exact, HasKeys]
  | array proper => simp [exact, HasKeys]

theorem proper_field {value field : Json} {name : String}
    (proper : Proper value) (found : value.field? name = some field) :
    Proper field := by
  cases proper with
  | object nodup proper =>
      obtain ⟨entry, first, rfl⟩ := Option.map_eq_some_iff.mp found
      exact proper entry (List.mem_of_find?_eq_some first)
  | _ => cases found

theorem some_of_id {value : Option Json} (holds : id value = true) :
    value ≠ none := by
  rintro rfl
  cases holds

theorem some_of_positive {value : Option Json} (holds : positive value = true) :
    value ≠ none := by
  rintro rfl
  cases holds

/-- The properties that are looked at are all of them. -/
theorem present_intent {raw : Json}
    (schemaVersion : isOne (raw.field? "schemaVersion") = true)
    (ids : ∀ key ∈ idKeys, id (raw.field? key) = true)
    (leaseGeneration : positive (raw.field? "leaseGeneration") = true)
    (requiredIpcVersion : positive (raw.field? "requiredIpcVersion") = true)
    (artifact : raw.field? "artifact" ≠ none) :
    ∀ name ∈ intentKeys, raw.field? name ≠ none := by
  have version : raw.field? "schemaVersion" ≠ none := by
    intro none
    rw [none] at schemaVersion
    cases schemaVersion
  have identified : ∀ name ∈ idKeys, raw.field? name ≠ none :=
    fun name member => some_of_id (ids name member)
  simp only [idKeys, List.forall_mem_cons] at identified
  obtain ⟨attemptId, sessionId, leaseId, runtimeId, reservationId, _⟩ :=
    identified
  simp only [intentKeys, List.forall_mem_cons]
  exact ⟨version, attemptId, sessionId, leaseId,
    some_of_positive leaseGeneration, runtimeId, reservationId, artifact,
    some_of_positive requiredIpcVersion, List.forall_mem_nil _⟩

theorem present_artifact {value version : Json}
    (adapterId : id (value.field? "adapterId") = true)
    (found : value.field? "version" = some version)
    (sha256 : testSha (value.field? "sha256") = true) :
    ∀ name ∈ artifactKeys, value.field? name ≠ none := by
  have sha : value.field? "sha256" ≠ none := by
    intro none
    rw [none] at sha256
    cases sha256
  simp only [artifactKeys, List.forall_mem_cons]
  exact ⟨some_of_id adapterId, found ▸ Option.some_ne_none _, sha,
    List.forall_mem_nil _⟩

theorem undefined_unversioned : testVersion none = .ok false := by
  decide

theorem artifact_iff {value : Option Json}
    (proper : ∀ json ∈ value, Proper json) :
    (∃ taken, artifact value = .ok taken) ↔
      ∃ json version, value = some json ∧ HasKeys json artifactKeys ∧
        id (json.field? "adapterId") = true ∧
        json.field? "version" = some version ∧
        testSha (json.field? "sha256") = true ∧
        isVersion Char.isDigit (toText version) = true := by
  cases value with
  | none =>
      constructor
      · rintro ⟨taken, error⟩
        cases error
      · rintro ⟨json, version, none, _⟩
        cases none
  | some json =>
      have whole := proper json rfl
      constructor
      · rintro ⟨taken, accepted⟩
        rw [artifact] at accepted
        split at accepted
        · next checked =>
            rw [Bool.and_eq_true] at checked
            obtain ⟨keys, adapterId⟩ := checked
            obtain ⟨versioned, tested, accepted⟩ :=
              Failures.ok_of_bind accepted
            split at accepted
            · next passed =>
                rw [Bool.and_eq_true] at passed
                obtain ⟨rfl, sha256⟩ := passed
                cases found : json.field? "version" with
                | none =>
                    rw [found, undefined_unversioned] at tested
                    cases tested
                | some version =>
                    rw [found, testVersion_ok (proper_field whole found)]
                      at tested
                    have present := present_artifact adapterId found sha256
                    exact ⟨json, version, rfl,
                      (exact_iff whole (by decide) (by decide) present).mp keys,
                      adapterId, found, sha256, tested⟩
            · cases accepted
        · cases accepted
      · rintro ⟨other, version, same, keys, adapterId, found, sha256, tested⟩
        cases same
        have present := present_artifact adapterId found sha256
        have versioned : testVersion (json.field? "version") = .ok true := by
          rw [found]
          exact (testVersion_ok (proper_field whole found)).mpr tested
        refine ⟨json, ?_⟩
        rw [artifact, (exact_iff whole (by decide) (by decide) present).mpr keys,
          adapterId, versioned, sha256]
        rfl

/-- What the client takes. -/
theorem validate_iff {raw : Json} (proper : Proper raw) :
    (∃ intent, validateBrokerLaunchIntent raw = .ok intent) ↔
      ∃ version, WellFormed raw version ∧
        isVersion Char.isDigit (toText version) = true := by
  have parts := @artifact_iff (raw.field? "artifact")
    fun json found => proper_field proper found
  constructor
  · rintro ⟨intent, accepted⟩
    unfold validateBrokerLaunchIntent at accepted
    split at accepted
    · next checked =>
        simp only [Bool.and_eq_true, List.all_eq_true] at checked
        obtain ⟨⟨⟨⟨⟨keys, schemaVersion⟩, ids⟩, leaseGeneration⟩,
          requiredIpcVersion⟩, small⟩ := checked
        cases read : artifact (raw.field? "artifact") with
        | error code =>
            rw [read] at accepted
            cases accepted
        | ok taken =>
            obtain ⟨json, version, found, inner, adapterId, versioned, sha256,
              tested⟩ := parts.mp ⟨taken, read⟩
            have present := present_intent schemaVersion ids leaseGeneration
              requiredIpcVersion (found ▸ Option.some_ne_none _)
            refine ⟨version, ⟨?_, schemaVersion, ids, leaseGeneration,
              requiredIpcVersion, small, json, found, inner, adapterId,
              versioned, sha256⟩, tested⟩
            exact (exact_iff proper (by decide) (by decide) present).mp keys
    · cases accepted
  · rintro ⟨version, formed, tested⟩
    obtain ⟨json, found, inner, adapterId, versioned, sha256⟩ := formed.artifact
    obtain ⟨taken, read⟩ := parts.mpr
      ⟨json, version, found, inner, adapterId, versioned, sha256, tested⟩
    have present := present_intent formed.schemaVersion formed.ids
      formed.leaseGeneration formed.requiredIpcVersion
      (found ▸ Option.some_ne_none _)
    refine ⟨raw, ?_⟩
    rw [validateBrokerLaunchIntent, if_pos]
    · rw [read]
      rfl
    · rw [(exact_iff proper (by decide) (by decide) present).mpr formed.keys,
        formed.schemaVersion, List.all_eq_true.mpr formed.ids,
        formed.leaseGeneration, formed.requiredIpcVersion, formed.small]
      rfl

/-! ## What the broker takes -/

theorem versionOk_ofJson (value : Option Json) :
    Value.versionOk (value.map Value.ofJson) = true ↔
      ∃ text, value = some (.string text) ∧
        isVersion PythonText.isDecimal text.toList = true := by
  cases value with
  | none => simp [Value.versionOk]
  | some json =>
      rw [Option.map_some]
      cases json with
      | string text => simp [Value.ofJson, Value.versionOk]
      | number value =>
          rw [Value.ofJson]
          split <;> simp [Value.versionOk]
      | _ => simp [Value.ofJson, Value.versionOk]

theorem shaOk_ofJson (value : Option Json) :
    Value.shaOk (value.map Value.ofJson) = testSha value := by
  cases value with
  | none => rfl
  | some json =>
      rw [Option.map_some]
      cases json with
      | number value =>
          rw [Value.ofJson]
          split <;> rfl
      | _ => rfl

theorem artifactOk_iff {value : Option Json} :
    Value.artifactOk (value.map Value.ofJson) = true ↔
      ∃ json text, value = some json ∧ HasKeys json artifactKeys ∧
        id (json.field? "adapterId") = true ∧
        json.field? "version" = some (.string text) ∧
        testSha (json.field? "sha256") = true ∧
        isVersion PythonText.isDecimal text.toList = true := by
  cases value with
  | none =>
      constructor
      · intro none
        cases none
      · rintro ⟨json, text, none, _⟩
        cases none
  | some json =>
      rw [Option.map_some, Value.artifactOk]
      simp only [Bool.and_eq_true, get_ofJson, isId_ofJson, shape_ofJson,
        versionOk_ofJson, shaOk_ofJson]
      constructor
      · rintro ⟨⟨⟨keys, adapterId⟩, text, found, tested⟩, sha256⟩
        exact ⟨json, text, rfl, keys, adapterId, found, sha256, tested⟩
      · rintro ⟨_, text, same, keys, adapterId, found, sha256, tested⟩
        cases same
        exact ⟨⟨⟨keys, adapterId⟩, text, found, tested⟩, sha256⟩

/-- What the broker takes, when it has read the value. -/
theorem parseIntent_iff {raw : Json} :
    (∃ intent, parseIntent (.ofJson raw) = .ok intent) ↔
      ∃ text, WellFormed raw (.string text) ∧
        isVersion PythonText.isDecimal text.toList = true := by
  have checked : ∀ value : Option Json, positive value = true →
      (Value.atMost255 (value.map Value.ofJson) = true ↔
        atMost255 value = true) := by
    intro value number
    rw [atMost255_ofJson value number]
  constructor
  · rintro ⟨intent, accepted⟩
    unfold parseIntent at accepted
    split at accepted
    · next all =>
        simp only [Bool.and_eq_true, List.all_eq_true, get_ofJson, isId_ofJson,
          isOne_ofJson, positive_ofJson, shape_ofJson, artifactOk_iff] at all
        obtain ⟨⟨⟨⟨⟨⟨keys, schemaVersion⟩, ids⟩, leaseGeneration⟩,
          requiredIpcVersion⟩, small⟩, json, text, found, inner, adapterId,
          versioned, sha256, tested⟩ := all
        exact ⟨text, ⟨keys, schemaVersion, ids, leaseGeneration,
          requiredIpcVersion, (checked _ requiredIpcVersion).mp small, json,
          found, inner, adapterId, versioned, sha256⟩, tested⟩
    · cases accepted
  · rintro ⟨text, formed, tested⟩
    obtain ⟨json, found, inner, adapterId, versioned, sha256⟩ := formed.artifact
    refine ⟨.ofJson raw, ?_⟩
    rw [parseIntent, if_pos]
    simp only [Bool.and_eq_true, List.all_eq_true, get_ofJson, isId_ofJson,
      isOne_ofJson, positive_ofJson, shape_ofJson, artifactOk_iff]
    exact ⟨⟨⟨⟨⟨⟨formed.keys, formed.schemaVersion⟩, formed.ids⟩,
      formed.leaseGeneration⟩, formed.requiredIpcVersion⟩,
      (checked _ formed.requiredIpcVersion).mpr formed.small⟩, json, text,
      found, inner, adapterId, versioned, sha256, tested⟩

/-! ## Nesting -/

theorem depthFields_le {fields : List (String × Json)} {bound : Nat}
    (within : ∀ field ∈ fields, depth field.2 ≤ bound) :
    depthFields fields ≤ bound := by
  induction fields with
  | nil => exact Nat.zero_le _
  | cons field rest induction =>
      rw [depthFields]
      exact max_le (within field List.mem_cons_self)
        (induction fun other member =>
          within other (List.mem_cons_of_mem _ member))

/-- A property that is the only one of its name is what is found. -/
theorem field_of_mem {fields : List (String × Json)}
    (nodup : (fields.map Prod.fst).Nodup) {field : String × Json}
    (member : field ∈ fields) :
    (Json.object fields).field? field.1 = some field.2 := by
  rw [Json.field?]
  have found : fields.find? (fun entry => entry.1 = field.1) = some field := by
    cases first : fields.find? (fun entry => entry.1 = field.1) with
    | none =>
        have missed := List.find?_eq_none.mp first field member
        exact absurd (decide_eq_true rfl) missed
    | some entry =>
        have same := List.find?_some first
        rw [List.inj_on_of_nodup_map nodup (List.mem_of_find?_eq_some first)
          member (of_decide_eq_true same)]
  rw [found, Option.map_some]

/-- The depth of an object, by its keys. -/
theorem depth_le {value : Json} {keys : List String} {bound : Nat}
    (proper : Proper value) (hasKeys : HasKeys value keys)
    (within : ∀ key ∈ keys, ∀ field ∈ value.field? key, depth field ≤ bound) :
    depth value ≤ bound + 1 := by
  obtain ⟨fields, rfl, same⟩ := hasKeys
  cases proper with
  | object nodup proper =>
      rw [depth]
      apply Nat.succ_le_succ
      apply depthFields_le
      intro field member
      apply within field.1
      · exact (same field.1).mp (List.mem_map_of_mem member)
      · exact field_of_mem nodup member

theorem depth_of_id {value : Option Json} (holds : id value = true) :
    ∀ field ∈ value, depth field = 0 := by
  intro field found
  cases found
  cases field with
  | string text => rfl
  | _ => cases holds

theorem depth_of_positive {value : Option Json}
    (holds : positive value = true) : ∀ field ∈ value, depth field = 0 := by
  intro field found
  cases found
  cases field with
  | number value => rfl
  | _ => cases holds

theorem depth_of_isOne {value : Option Json} (holds : isOne value = true) :
    ∀ field ∈ value, depth field = 0 := by
  intro field found
  cases found
  cases field with
  | number value => rfl
  | _ => cases holds

theorem depth_of_testSha {value : Option Json} (holds : testSha value = true) :
    ∀ field ∈ value, depth field = 0 := by
  intro field found
  cases found
  cases field with
  | string value => rfl
  | _ => cases holds

theorem WellFormed.depth_le {raw : Json} {text : String}
    (proper : Proper raw) (formed : WellFormed raw (.string text)) :
    depth raw ≤ 2 := by
  obtain ⟨json, found, inner, adapterId, versioned, sha256⟩ := formed.artifact
  have artifact : depth json ≤ 1 := by
    apply LaunchIntent.depth_le (proper_field proper found) inner
    simp only [artifactKeys, List.forall_mem_cons]
    refine ⟨?_, ?_, ?_, List.forall_mem_nil _⟩
    · exact fun field member => (depth_of_id adapterId field member).le
    · intro field member
      rw [versioned] at member
      cases member
      exact Nat.zero_le _
    · exact fun field member => (depth_of_testSha sha256 field member).le
  have ids : ∀ key ∈ idKeys, ∀ field ∈ raw.field? key, depth field ≤ 1 :=
    fun key member field found => Nat.le_succ_of_le
      (depth_of_id (formed.ids key member) field found).le
  simp only [idKeys, List.forall_mem_cons] at ids
  obtain ⟨attemptId, sessionId, leaseId, runtimeId, reservationId, _⟩ := ids
  apply LaunchIntent.depth_le proper formed.keys
  simp only [intentKeys, List.forall_mem_cons]
  refine ⟨?_, attemptId, sessionId, leaseId, ?_, runtimeId, reservationId, ?_,
    ?_, List.forall_mem_nil _⟩
  · exact fun field member => Nat.le_succ_of_le
      (depth_of_isOne formed.schemaVersion field member).le
  · exact fun field member => Nat.le_succ_of_le
      (depth_of_positive formed.leaseGeneration field member).le
  · intro field member
    rw [found] at member
    cases member
    exact artifact
  · exact fun field member => Nat.le_succ_of_le
      (depth_of_positive formed.requiredIpcVersion field member).le

/-! ## Digits outside ASCII -/

theorem ascii_decimal {c : Char} (ascii : c.toNat < 128) :
    PythonText.isDecimal c = c.isDigit := by
  have all : ∀ n < 128,
      PythonText.isDecimal (Char.ofNat n) = (Char.ofNat n).isDigit := by
    decide
  have same := all c.toNat ascii
  rw [Char.ofNat_toNat] at same
  exact same

theorem ascii_of_le {c bound : Char} (below : c.val ≤ bound.val)
    (small : bound.val.toNat < 128) : c.toNat < 128 :=
  (UInt32.le_iff_toNat_le.mp below).trans_lt small

theorem ascii_of_isDigit {c : Char} (digit : c.isDigit = true) :
    c.toNat < 128 := by
  have bounds : (decide (c.val ≥ '0'.val) && decide (c.val ≤ '9'.val)) = true :=
    digit
  rw [Bool.and_eq_true] at bounds
  exact ascii_of_le (of_decide_eq_true bounds.2) (by decide)

theorem ascii_of_isAlpha {c : Char} (letter : c.isAlpha = true) :
    c.toNat < 128 := by
  have cases : (decide (c.val ≥ 'A'.val ∧ c.val ≤ 'Z'.val) ||
      (decide (c.val ≥ 'a'.val) && decide (c.val ≤ 'z'.val))) = true := letter
  rw [Bool.or_eq_true, Bool.and_eq_true] at cases
  rcases cases with upper | lower
  · exact ascii_of_le (of_decide_eq_true upper).2 (by decide)
  · exact ascii_of_le (of_decide_eq_true lower.2) (by decide)

theorem ascii_of_isTagChar {c : Char} (tag : isTagChar c = true) :
    c.toNat < 128 := by
  have cases : (((c.isAlpha || c.isDigit) || decide (c = '.')) ||
      decide (c = '-')) = true := tag
  rw [Bool.or_eq_true, Bool.or_eq_true, Bool.or_eq_true] at cases
  rcases cases with ((letter | digit) | dot) | dash
  · exact ascii_of_isAlpha letter
  · exact ascii_of_isDigit digit
  · rw [of_decide_eq_true dot]
    decide
  · rw [of_decide_eq_true dash]
    decide

theorem ascii_of_isVersionChar {c : Char} (known : isVersionChar c = true) :
    c.toNat < 128 := by
  rw [isVersionChar, Bool.or_eq_true] at known
  rcases known with tag | plus
  · exact ascii_of_isTagChar tag
  · rw [of_decide_eq_true plus]
    decide

/-- What the client takes for a version is ASCII. -/
theorem ascii_of_isVersion {text : List Char}
    (version : isVersion Char.isDigit text = true) :
    ∀ c ∈ text, c.toNat < 128 :=
  fun c member => ascii_of_isVersionChar (chars_of_isVersion version c member)

section Agreement

variable {digit other : Char → Bool}

theorem dropWhile_congr {text : List Char}
    (same : ∀ c ∈ text, digit c = other c) :
    text.dropWhile digit = text.dropWhile other := by
  induction text with
  | nil => rfl
  | cons c rest induction =>
      rw [List.dropWhile_cons, List.dropWhile_cons, same c List.mem_cons_self,
        induction fun next member => same next (List.mem_cons_of_mem _ member)]

theorem numeral_congr {text : List Char}
    (same : ∀ c ∈ text, digit c = other c) :
    numeral digit text = numeral other text := by
  cases text with
  | nil => rfl
  | cons c rest =>
      rw [numeral, numeral, dropWhile_congr fun next member =>
        same next (List.mem_cons_of_mem _ member)]

theorem dotNumeral_congr {text : List Char}
    (same : ∀ c ∈ text, digit c = other c) :
    dotNumeral digit text = dotNumeral other text := by
  unfold dotNumeral
  split
  · exact numeral_congr fun next member =>
      same next (List.mem_cons_of_mem _ member)
  · rfl

theorem numeral_suffix {text rest : List Char}
    (taken : numeral digit text = some rest) : rest <:+ text := by
  cases text with
  | nil => cases taken
  | cons c text =>
      rw [numeral] at taken
      split at taken
      · cases taken
        exact List.suffix_cons _ _
      · split at taken
        · cases taken
          exact (List.dropWhile_suffix _).trans (List.suffix_cons _ _)
        · cases taken

theorem dotNumeral_suffix {text rest : List Char}
    (taken : dotNumeral digit text = some rest) : rest <:+ text := by
  unfold dotNumeral at taken
  split at taken
  · exact (numeral_suffix taken).trans (List.suffix_cons _ _)
  · cases taken

/-- Only the characters of a text decide whether it is a version. -/
theorem isVersion_congr {text : List Char}
    (same : ∀ c ∈ text, digit c = other c) :
    isVersion digit text = isVersion other text := by
  have whole : version digit text = version other text := by
    rw [version, version, ← numeral_congr same]
    cases major : numeral digit text with
    | none => rfl
    | some first =>
        have agree : ∀ c ∈ first, digit c = other c :=
          fun c member => same c ((numeral_suffix major).subset member)
        rw [Option.bind_eq_bind, Option.bind_some, Option.bind_some,
          ← dotNumeral_congr agree]
        cases minor : dotNumeral digit first with
        | none => rfl
        | some second =>
            rw [Option.bind_some, Option.bind_some,
              dotNumeral_congr fun c member =>
                agree c ((dotNumeral_suffix minor).subset member)]
  rw [isVersion, isVersion, whole]

end Agreement

/-- What the client takes for a version the broker takes for one. -/
theorem isVersion_decimal {text : List Char}
    (version : isVersion Char.isDigit text = true) :
    isVersion PythonText.isDecimal text = true := by
  rw [isVersion_congr fun c member =>
    ascii_decimal (ascii_of_isVersion version c member)]
  exact version

/-! ## Agreement -/

/-- The condition on the version of an intent that is well-formed otherwise: a
text that the broker takes for a version has no decimal digits outside ASCII,
and what is not a text does not read as a version. -/
def Plain : Json → Prop
  | .string text => isVersion PythonText.isDecimal text.toList = true →
      ∀ c ∈ text.toList, PythonText.isDecimal c = true → c.isDigit = true
  | version => isVersion Char.isDigit (toText version) = false

theorem isVersion_of_plain {text : String} (plain : Plain (.string text))
    (version : isVersion PythonText.isDecimal text.toList = true) :
    isVersion Char.isDigit text.toList = true := by
  have same : ∀ c ∈ text.toList, c.isDigit = PythonText.isDecimal c := by
    intro c member
    by_cases decimal : PythonText.isDecimal c = true
    · rw [decimal]
      exact plain version c member decimal
    · have digit : c.isDigit = false := by
        by_contra digit
        rw [Bool.not_eq_false] at digit
        rw [ascii_decimal (ascii_of_isDigit digit)] at decimal
        exact decimal digit
      rw [digit]
      exact (Bool.not_eq_true _ ▸ decimal).symm
  rw [isVersion_congr same]
  exact version

theorem version_unique {raw version other : Json}
    (formed : WellFormed raw version) (formed' : WellFormed raw other) :
    version = other := by
  obtain ⟨json, found, _, _, versioned, _⟩ := formed.artifact
  obtain ⟨json', found', _, _, versioned', _⟩ := formed'.artifact
  rw [found] at found'
  cases found'
  rw [versioned] at versioned'
  exact Option.some.inj versioned'

theorem strictJson_print {raw : Json} (proper : Proper raw) (limit : Nat) :
    strictJson limit (String.ofList (print raw)) =
      if depth raw ≤ limit then .ok (.ofJson raw)
      else .error "broker_invalid_message" := by
  rw [strictJson, parse_print proper]

/-- What the broker takes of a text that the client has written. -/
theorem strictJson_iff {raw : Json} (proper : Proper raw) {limit : Nat}
    (room : 2 ≤ limit) :
    (∃ intent, (strictJson limit (String.ofList (print raw)) >>= parseIntent) =
      .ok intent) ↔ ∃ intent, parseIntent (.ofJson raw) = .ok intent := by
  rw [strictJson_print proper]
  by_cases shallow : depth raw ≤ limit
  · rw [if_pos shallow]
    rfl
  · rw [if_neg shallow]
    constructor
    · rintro ⟨intent, error⟩
      cases error
    · intro accepted
      obtain ⟨text, formed, _⟩ := parseIntent_iff.mp accepted
      exact absurd ((formed.depth_le proper).trans room) shallow

/-- Client and broker agree on a launch intent exactly when its version is
plain, or something else is wrong with it. -/
theorem launch_intent {raw : Json} (proper : Proper raw) {limit : Nat}
    (room : 2 ≤ limit) :
    ((∃ intent, validateBrokerLaunchIntent raw = .ok intent) ↔
      ∃ intent, (strictJson limit (String.ofList (print raw)) >>=
        parseIntent) = .ok intent) ↔
      ∀ version, WellFormed raw version → Plain version := by
  rw [validate_iff proper, strictJson_iff proper room, parseIntent_iff]
  constructor
  · intro agree version formed
    cases version with
    | string text =>
        intro tested c member decimal
        obtain ⟨other, formed', taken⟩ := agree.mpr ⟨text, formed, tested⟩
        rw [← version_unique formed formed'] at taken
        rw [← ascii_decimal (ascii_of_isVersion taken c member)]
        exact decimal
    | _ =>
        change isVersion Char.isDigit (toText _) = false
        rw [Bool.eq_false_iff]
        intro taken
        obtain ⟨text, formed', _⟩ := agree.mp ⟨_, formed, taken⟩
        cases version_unique formed formed'
  · intro plain
    constructor
    · rintro ⟨version, formed, tested⟩
      have settled := plain version formed
      cases version with
      | string text => exact ⟨text, formed, isVersion_decimal tested⟩
      | _ =>
          change isVersion Char.isDigit (toText _) = false at settled
          rw [tested] at settled
          cases settled
    · rintro ⟨text, formed, tested⟩
      exact ⟨.string text, formed, isVersion_of_plain (plain _ formed) tested⟩

def sampleArtifact (version : Json) : Json :=
  .object [("adapterId", .string "echo"), ("version", version),
    ("sha256", .string (String.ofList (List.replicate 64 'a')))]

def sampleIntent (version : Json) : Json :=
  .object [("schemaVersion", .number 1), ("attemptId", .string "attempt"),
    ("sessionId", .string "session"), ("leaseId", .string "lease"),
    ("leaseGeneration", .number 1), ("runtimeId", .string "runtime"),
    ("reservationId", .string "reservation"),
    ("artifact", sampleArtifact version), ("requiredIpcVersion", .number 1)]

theorem wellFormed_sample (version : Json) :
    WellFormed (sampleIntent version) version := by
  refine ⟨⟨_, rfl, fun _ => Iff.rfl⟩, rfl, ?_, rfl, rfl, rfl, _, rfl,
    ⟨_, rfl, fun _ => Iff.rfl⟩, rfl, rfl, rfl⟩
  simp only [idKeys, List.forall_mem_cons]
  exact ⟨rfl, rfl, rfl, rfl, rfl, List.forall_mem_nil _⟩

theorem one_double : IsDouble 1 := by
  have safe : 1 ≤ JsonText.maxSafeInteger := by decide
  have exact := toDouble_nat safe
  rw [Nat.cast_one] at exact
  have below : (1 : Rat) < infinity := by
    rw [infinity]
    exact one_lt_pow₀ (by norm_num) (by decide)
  exact ⟨exact, below, by linarith⟩

theorem proper_sample {version : Json} (proper : Proper version) :
    Proper (sampleIntent version) := by
  have artifact : Proper (sampleArtifact version) := by
    refine .object (by simp) ?_
    simp only [List.forall_mem_cons]
    exact ⟨.string _, proper, .string _, List.forall_mem_nil _⟩
  refine .object (by simp) ?_
  simp only [List.forall_mem_cons]
  exact ⟨.number one_double, .string _, .string _, .string _,
    .number one_double, .string _, .string _, artifact, .number one_double,
    List.forall_mem_nil _⟩

theorem launch_intent_sample :
    (∃ intent, validateBrokerLaunchIntent (sampleIntent (.string "1.0.0-rc.1")) =
      .ok intent) ↔
      ∃ intent, (strictJson 2 (String.ofList
        (print (sampleIntent (.string "1.0.0-rc.1")))) >>= parseIntent) =
          .ok intent := by
  apply (launch_intent (proper_sample (.string _)) (by decide)).mpr
  intro version formed
  rw [← version_unique (wellFormed_sample _) formed]
  have ascii : ∀ c ∈ "1.0.0-rc.1".toList, c.toNat < 128 := by simp
  intro _ c member decimal
  rw [ascii_decimal (ascii c member)] at decimal
  exact decimal

/-- A list of one text reads as that text. -/
theorem listed_version_differs : ¬ ∀ (raw : Json) (limit : Nat), Proper raw →
    2 ≤ limit →
      ((∃ intent, validateBrokerLaunchIntent raw = .ok intent) ↔
        ∃ intent, (strictJson limit (String.ofList (print raw)) >>=
          parseIntent) = .ok intent) := by
  intro agree
  have proper : Proper (sampleIntent (.array [.string "1.0.0"])) := by
    apply proper_sample
    apply Proper.array
    intro item member
    rw [List.mem_singleton.mp member]
    exact .string _
  have client := (validate_iff proper).mpr ⟨_, wellFormed_sample _, by decide⟩
  obtain ⟨text, formed, _⟩ := parseIntent_iff.mp
    ((strictJson_iff proper (by decide)).mp
      ((agree _ 2 proper (by decide)).mp client))
  cases version_unique formed (wellFormed_sample _)

end LaunchIntent

end GpuLink
