import GpuLink.Shared.NumberText

/-!
# Text of JSON values

`JSON.stringify`.  An object lists its properties in the order in which the
runtime enumerates them.  `JSON.parse` reads a text back as the value of which
it was written.
-/

namespace GpuLink

namespace Json

/-- Induction over items and properties. -/
theorem induction {motive : Json → Prop} (null : motive .null)
    (bool : ∀ value, motive (.bool value))
    (number : ∀ value, motive (.number value))
    (string : ∀ value, motive (.string value))
    (array : ∀ items, (∀ item ∈ items, motive item) → motive (.array items))
    (object : ∀ fields : List (String × Json),
      (∀ field ∈ fields, motive field.2) → motive (.object fields)) :
    ∀ json, motive json
  | .null => null
  | .bool value => bool value
  | .number value => number value
  | .string value => string value
  | .array items => array items fun item _ =>
      induction null bool number string array object item
  | .object fields => object fields fun (_, value) _ =>
      induction null bool number string array object value
  termination_by json => json
  decreasing_by
    · rename_i member
      have smaller := List.sizeOf_lt_of_mem member
      simp only [Json.array.sizeOf_spec]
      omega
    · rename_i member
      have smaller := List.sizeOf_lt_of_mem member
      simp only [Prod.mk.sizeOf_spec] at smaller
      simp only [Json.object.sizeOf_spec]
      omega

end Json

namespace JsonText

def commas (texts : List (List Char)) : List Char :=
  List.intercalate [','] texts

mutual

/-- `JSON.stringify` -/
def print : Json → List Char
  | .null => "null".toList
  | .bool true => "true".toList
  | .bool false => "false".toList
  | .number value => numberText value
  | .string value => quote value
  | .array items => '[' :: (commas (printItems items) ++ [']'])
  | .object fields => '{' :: (commas (printFields fields) ++ ['}'])

def printItems : List Json → List (List Char)
  | [] => []
  | item :: items => print item :: printItems items

def printFields : List (String × Json) → List (List Char)
  | [] => []
  | (name, value) :: fields =>
      (quote name ++ ':' :: print value) :: printFields fields

end

/-- Numbers are doubles, and an object has a property once. -/
inductive Proper : Json → Prop where
  | null : Proper .null
  | bool (value : Bool) : Proper (.bool value)
  | number {value : Rat} (double : IsDouble value) : Proper (.number value)
  | string (value : String) : Proper (.string value)
  | array {items : List Json} (proper : ∀ item ∈ items, Proper item) :
      Proper (.array items)
  | object {fields : List (String × Json)}
      (nodup : (fields.map Prod.fst).Nodup)
      (proper : ∀ field ∈ fields, Proper field.2) : Proper (.object fields)

theorem commas_one (text : List Char) : commas [text] = text := by
  simp [commas, List.intercalate]

theorem commas_cons (first second : List Char) (texts : List (List Char)) :
    commas (first :: second :: texts) =
      first ++ ',' :: commas (second :: texts) := by
  simp [commas, List.intercalate]

theorem commas_head (c : Char) (tail : List Char) (texts : List (List Char)) :
    ∃ more, commas ((c :: tail) :: texts) = c :: more := by
  cases texts with
  | nil => exact ⟨tail, commas_one _⟩
  | cons second texts =>
      rw [commas_cons, List.cons_append]
      exact ⟨_, rfl⟩

/-- The text of a value begins with such a character. -/
def Starts (c : Char) : Prop :=
  c.isDigit ∨ c ∈ ['"', '{', '[', 'n', 't', 'f', '-']

theorem Starts.ne {c other : Char} (starts : Starts c)
    (noDigit : other.isDigit = false)
    (apart : other ∉ ['"', '{', '[', 'n', 't', 'f', '-']) : c ≠ other := by
  rintro rfl
  rcases starts with digit | member
  · rw [noDigit] at digit
    cases digit
  · exact apart member

theorem Starts.skip {c : Char} (starts : Starts c) (rest : List Char) :
    skip (c :: rest) = c :: rest := by
  refine List.dropWhile_cons_of_neg ?_
  have space : c ≠ ' ' := starts.ne rfl (by decide)
  have tab : c ≠ '\t' := starts.ne rfl (by decide)
  have line : c ≠ '\n' := starts.ne rfl (by decide)
  have feed : c ≠ '\r' := starts.ne rfl (by decide)
  simp [isSpace, space, tab, line, feed]

/-- What may stand after a value. -/
theorem ends_of {c : Char} (rest : List Char)
    (closes : c = ',' ∨ c = ']' ∨ c = '}') : Ends (c :: rest) := by
  intro other member
  cases member
  rcases closes with rfl | rfl | rfl <;> decide

theorem digit_of_magnitude {text rest : List Char} {q : Rat}
    (read : magnitude text = some (q, rest)) :
    ∃ c tail, text = c :: tail ∧ c.isDigit := by
  cases text with
  | nil => cases read
  | cons c tail =>
      refine ⟨c, tail, rfl, ?_⟩
      by_contra noDigit
      have digitless : c.isDigit = false := by simpa using noDigit
      have whole : (c :: tail).span Char.isDigit = ([], c :: tail) := by
        rw [List.span_eq_takeWhile_dropWhile,
          List.takeWhile_cons_of_neg (by simp [digitless]),
          List.dropWhile_cons_of_neg (by simp [digitless])]
      unfold magnitude at read
      rw [whole] at read
      cases read

theorem positiveText_digit {x : Rat} (double : IsDouble x) (positive : 0 < x) :
    ∃ c tail, positiveText x = c :: tail ∧ c.isDigit := by
  obtain ⟨decimal, found, _, digits⟩ := shortest_double double positive
  have text : positiveText x = decimal.text := by
    rw [positiveText, found]
  have ends : Ends [] := by
    intro c member
    cases member
  have read := magnitude_text digits ends
  rw [List.append_nil, ← text] at read
  exact digit_of_magnitude read

theorem numberText_starts {x : Rat} (double : IsDouble x) :
    ∃ c tail, numberText x = c :: tail ∧ (c.isDigit ∨ c = '-') := by
  unfold numberText
  split_ifs with zero negative
  · exact ⟨'0', [], rfl, .inl rfl⟩
  · exact ⟨'-', _, rfl, .inr rfl⟩
  · have positive : 0 < x := lt_of_le_of_ne (not_lt.mp negative) (Ne.symm zero)
    obtain ⟨c, tail, same, digit⟩ := positiveText_digit double positive
    exact ⟨c, tail, same, .inl digit⟩

theorem print_starts {json : Json} (proper : Proper json) :
    ∃ c tail, print json = c :: tail ∧ Starts c := by
  cases proper with
  | null => exact ⟨'n', _, rfl, .inr (by decide)⟩
  | bool value =>
      cases value with
      | true => exact ⟨'t', _, rfl, .inr (by decide)⟩
      | false => exact ⟨'f', _, rfl, .inr (by decide)⟩
  | number double =>
      obtain ⟨c, tail, same, starts⟩ := numberText_starts double
      refine ⟨c, tail, by rw [print, same], ?_⟩
      rcases starts with digit | rfl
      · exact .inl digit
      · exact .inr (by decide)
  | string value => exact ⟨'"', _, rfl, .inr (by decide)⟩
  | array proper => exact ⟨'[', _, rfl, .inr (by decide)⟩
  | object nodup proper => exact ⟨'{', _, rfl, .inr (by decide)⟩

/-! ## Reading back -/

/-- The text of the value is read as the value. -/
def ReadsBack (json : Json) : Prop :=
  ∀ fuel rest, (print json).length < fuel → Ends rest →
    value fuel (print json ++ rest) = some (json, rest)

theorem value_number_of {fuel : Nat} {c : Char} {tail : List Char}
    (starts : c.isDigit ∨ c = '-') :
    value (fuel + 1) (c :: tail) =
      (number (c :: tail)).map (fun (q, rest) => (.number q, rest)) := by
  rcases starts with digit | rfl
  · exact value_number digit
  · rw [value.eq_def]
    rfl

theorem readsBack_number {x : Rat} (double : IsDouble x) :
    ReadsBack (.number x) := by
  intro fuel rest enough ends
  obtain ⟨fuel, rfl⟩ : ∃ less, fuel = less + 1 := ⟨fuel - 1, by omega⟩
  have read := number_numberText double ends
  obtain ⟨c, tail, same, starts⟩ := numberText_starts double
  rw [print]
  rw [same, List.cons_append] at read ⊢
  rw [value_number_of starts, read]
  rfl

theorem readsBack_string (text : String) : ReadsBack (.string text) := by
  intro fuel rest enough ends
  obtain ⟨fuel, rfl⟩ : ∃ less, fuel = less + 1 := ⟨fuel - 1, by omega⟩
  have read := string_quote text rest
  have shown : print (.string text) ++ rest =
      '"' :: (text.toList.flatMap escape ++ '"' :: rest) := by
    simp [print, quote]
  rw [shown, value.eq_def]
  simp [skip, isSpace, read]

/-- The items of an array, up to its end. -/
theorem items_print {list : List Json} (nonempty : list ≠ [])
    (each : ∀ item ∈ list, ReadsBack item) (fuel : Nat)
    (enough : (commas (printItems list)).length + 1 < fuel)
    (rest : List Char) :
    items fuel (commas (printItems list) ++ ']' :: rest) =
      some (list, rest) := by
  induction list generalizing fuel with
  | nil => exact absurd rfl nonempty
  | cons item list induction =>
      obtain ⟨fuel, rfl⟩ : ∃ less, fuel = less + 1 := ⟨fuel - 1, by omega⟩
      have first := each item List.mem_cons_self
      cases list with
      | nil =>
          rw [printItems, printItems, commas_one] at enough ⊢
          have read := first fuel (']' :: rest) (by omega)
            (ends_of rest (.inr (.inl rfl)))
          rw [items.eq_def]
          simp [read, skip, isSpace]
      | cons next list =>
          have others : ∀ fuel, (commas (print next ::
              printItems list)).length + 1 < fuel →
              items fuel (commas (print next :: printItems list) ++
                ']' :: rest) = some (next :: list, rest) :=
            induction (List.cons_ne_nil _ _) fun item member =>
              each item (List.mem_cons_of_mem _ member)
          rw [printItems, printItems] at enough ⊢
          rw [commas_cons] at enough ⊢
          rw [List.length_append, List.length_cons] at enough
          rw [List.append_assoc, List.cons_append]
          have read := first fuel (',' :: (commas (print next ::
            printItems list) ++ ']' :: rest)) (by omega)
              (ends_of _ (.inl rfl))
          have later := others fuel (by omega)
          rw [items.eq_def]
          simp [read, later, skip, isSpace]

/-- The members of an object, up to its end. -/
theorem members_print {fields : List (String × Json)} (nonempty : fields ≠ [])
    (each : ∀ field ∈ fields, ReadsBack field.2) (fuel : Nat)
    (enough : (commas (printFields fields)).length + 1 < fuel)
    (rest : List Char) :
    members fuel (commas (printFields fields) ++ '}' :: rest) =
      some (fields, rest) := by
  induction fields generalizing fuel with
  | nil => exact absurd rfl nonempty
  | cons field fields induction =>
      obtain ⟨name, json⟩ := field
      obtain ⟨fuel, rfl⟩ : ∃ less, fuel = less + 1 := ⟨fuel - 1, by omega⟩
      have first : ReadsBack json := each _ List.mem_cons_self
      have shown : ∀ after, quote name ++ ':' :: print json ++ after =
          '"' :: (name.toList.flatMap escape ++
            '"' :: ':' :: (print json ++ after)) := by
        intro after
        simp [quote]
      have length : (quote name ++ ':' :: print json).length =
          (quote name).length + 1 + (print json).length := by
        rw [List.length_append, List.length_cons]
        omega
      cases fields with
      | nil =>
          rw [printFields, printFields, commas_one, length] at enough
          rw [printFields, printFields, commas_one]
          have read := first fuel ('}' :: rest) (by omega)
            (ends_of rest (.inr (.inr rfl)))
          have named := string_quote name (':' :: (print json ++ '}' :: rest))
          rw [shown, members.eq_def]
          simp [read, named, skip, isSpace]
      | cons next fields =>
          obtain ⟨second, other⟩ := next
          have others : ∀ fuel, (commas ((quote second ++ ':' :: print other) ::
              printFields fields)).length + 1 < fuel →
              members fuel (commas ((quote second ++ ':' :: print other) ::
                printFields fields) ++ '}' :: rest) =
                  some ((second, other) :: fields, rest) :=
            induction (List.cons_ne_nil _ _) fun field member =>
              each field (List.mem_cons_of_mem _ member)
          rw [printFields, printFields, commas_cons, List.length_append,
            List.length_cons, length] at enough
          rw [printFields, printFields, commas_cons, List.append_assoc,
            List.cons_append]
          have read := first fuel (',' :: (commas ((quote second ++
            ':' :: print other) :: printFields fields) ++ '}' :: rest))
              (by omega) (ends_of _ (.inl rfl))
          have named := string_quote name (':' :: (print json ++
            ',' :: (commas ((quote second ++ ':' :: print other) ::
              printFields fields) ++ '}' :: rest)))
          have later := others fuel (by omega)
          rw [shown, members.eq_def]
          simp [read, named, later, skip, isSpace]

theorem readsBack_array {list : List Json}
    (proper : ∀ item ∈ list, Proper item)
    (each : ∀ item ∈ list, ReadsBack item) : ReadsBack (.array list) := by
  intro fuel rest enough ends
  obtain ⟨fuel, rfl⟩ : ∃ less, fuel = less + 1 := ⟨fuel - 1, by omega⟩
  cases list with
  | nil =>
      rw [value.eq_def]
      simp [print, printItems, commas, skip, isSpace]
  | cons item list =>
      rw [print, List.length_cons, List.length_append] at enough
      have read := items_print (List.cons_ne_nil item list) each fuel
        (by simp at enough; omega) rest
      obtain ⟨c, tail, same, starts⟩ :=
        print_starts (proper item List.mem_cons_self)
      obtain ⟨more, begins⟩ := commas_head c tail (printItems list)
      rw [← same] at begins
      rw [printItems, begins, List.cons_append] at read
      have shown : print (.array (item :: list)) ++ rest =
          '[' :: c :: (more ++ ']' :: rest) := by
        rw [print, printItems, begins]
        simp
      have bracket : c ≠ ']' := starts.ne rfl (by decide)
      have opens : skip ('[' :: c :: (more ++ ']' :: rest)) =
          '[' :: c :: (more ++ ']' :: rest) := rfl
      rw [shown, value.eq_def]
      simp only [opens, starts.skip]
      split
      · rename_i closed
        exact absurd (List.cons.inj closed).1 bracket
      · rw [read]
        rfl

theorem readsBack_object {fields : List (String × Json)}
    (nodup : (fields.map Prod.fst).Nodup)
    (each : ∀ field ∈ fields, ReadsBack field.2) :
    ReadsBack (.object fields) := by
  intro fuel rest enough ends
  obtain ⟨fuel, rfl⟩ : ∃ less, fuel = less + 1 := ⟨fuel - 1, by omega⟩
  have kept : fields.foldl assign [] = [] ++ fields :=
    foldl_assign (by rwa [List.nil_append])
  cases fields with
  | nil =>
      rw [value.eq_def]
      simp [print, printFields, commas, skip, isSpace]
  | cons field fields =>
      obtain ⟨name, json⟩ := field
      rw [print, List.length_cons, List.length_append] at enough
      have read := members_print (List.cons_ne_nil (name, json) fields) each
        fuel (by simp at enough; omega) rest
      obtain ⟨more, begins⟩ := commas_head '"'
        (name.toList.flatMap escape ++ '"' :: ':' :: print json)
          (printFields fields)
      have named : quote name ++ ':' :: print json =
          '"' :: (name.toList.flatMap escape ++ '"' :: ':' :: print json) := by
        simp [quote]
      rw [← named] at begins
      rw [printFields, begins, List.cons_append] at read
      have shown : print (.object ((name, json) :: fields)) ++ rest =
          '{' :: '"' :: (more ++ '}' :: rest) := by
        rw [print, printFields, begins]
        simp
      rw [shown, value.eq_def]
      simp [skip, isSpace, read, kept]

/-- `JSON.parse` reads what `JSON.stringify` has written. -/
theorem readsBack {json : Json} (proper : Proper json) : ReadsBack json := by
  induction proper with
  | null =>
      intro fuel rest enough ends
      obtain ⟨fuel, rfl⟩ : ∃ less, fuel = less + 1 := ⟨fuel - 1, by omega⟩
      rw [value.eq_def]
      rfl
  | bool flag =>
      intro fuel rest enough ends
      obtain ⟨fuel, rfl⟩ : ∃ less, fuel = less + 1 := ⟨fuel - 1, by omega⟩
      rw [value.eq_def]
      cases flag <;> rfl
  | number double => exact readsBack_number double
  | string text => exact readsBack_string text
  | array proper each => exact readsBack_array proper each
  | object nodup proper each => exact readsBack_object nodup each

theorem parse_print {json : Json} (proper : Proper json) :
    parse (String.ofList (print json)) = some json := by
  have ends : Ends [] := by
    intro c member
    cases member
  have read := readsBack proper ((print json).length + 1) [] (by omega) ends
  rw [List.append_nil] at read
  unfold parse
  rw [String.length_ofList, String.toList_ofList, read]
  rfl

/-- A text is written of one value. -/
theorem print_injective {first second : Json} (proper : Proper first)
    (other : Proper second) (same : print first = print second) :
    first = second := by
  have read := parse_print proper
  rw [same, parse_print other] at read
  exact (Option.some.inj read).symm

end JsonText

end GpuLink
