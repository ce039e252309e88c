import GpuLink.ControlPlane.HttpServer
import GpuLink.Library.Failures

/-!
# Routes

At most one route takes a request, and the paths that the clients of the
control plane build lead to the operation that they name, with the identifier
that they were built from.
-/

namespace GpuLink

namespace HttpServer

/-! ## Components of a URL -/

/-- The characters that `encodeURIComponent` leaves as they are. -/
def isUnreserved (c : Char) : Bool :=
  c.isAlphanum ||
    ['-', '_', '.', '!', '~', '*', '\'', '(', ')'].contains c

def upperDigit (n : Nat) : Char :=
  Char.ofNat (if n < 10 then 48 + n else 55 + n)

def escapeByte (byte : UInt8) : List Char :=
  ['%', upperDigit (byte.toNat / 16), upperDigit (byte.toNat % 16)]

def encodeCharacter (c : Char) : List Char :=
  if isUnreserved c then [c] else (String.utf8EncodeChar c).flatMap escapeByte

def encodeURIComponent (text : String) : List Char :=
  text.toList.flatMap encodeCharacter

theorem hexDigit_upperDigit :
    ∀ n < 16, JsonText.hexDigit? (upperDigit n) = some n := by
  decide

theorem componentBytes_escape (bytes : List UInt8) (rest : List Char) :
    componentBytes (bytes.flatMap escapeByte ++ rest) =
      (componentBytes rest).map (bytes ++ ·) := by
  induction bytes with
  | nil => simp
  | cons byte bytes induction =>
      have small := byte.toNat_lt
      have high := hexDigit_upperDigit (byte.toNat / 16) (by omega)
      have low := hexDigit_upperDigit (byte.toNat % 16) (by omega)
      have joined : byte.toNat / 16 * 16 + byte.toNat % 16 = byte.toNat := by
        omega
      rw [List.flatMap_cons, List.append_assoc, escapeByte, List.cons_append,
        List.cons_append, List.cons_append, List.nil_append, componentBytes,
        high, low, induction]
      cases componentBytes rest with
      | none => rfl
      | some others =>
          change some (UInt8.ofNat (byte.toNat / 16 * 16 + byte.toNat % 16) ::
            (bytes ++ others)) = _
          rw [joined, UInt8.ofNat_toNat]
          rfl

theorem plain_of_unreserved {c : Char} (unreserved : isUnreserved c = true) :
    c ≠ '%' ∧ c ≠ '/' ∧ c ≠ ':' := by
  refine ⟨?_, ?_, ?_⟩ <;>
    · rintro rfl
      exact absurd unreserved (by decide)

theorem componentBytes_plain {c : Char} (plain : c ≠ '%') (rest : List Char) :
    componentBytes (c :: rest) =
      (componentBytes rest).map (String.utf8EncodeChar c ++ ·) := by
  rw [componentBytes]
  · rintro high low rest' rfl
    exact absurd rfl plain
  · rintro rfl
    exact absurd rfl plain

theorem componentBytes_encode (text : List Char) :
    componentBytes (text.flatMap encodeCharacter) =
      some (text.flatMap String.utf8EncodeChar) := by
  induction text with
  | nil => rfl
  | cons c rest induction =>
      rw [List.flatMap_cons, List.flatMap_cons, encodeCharacter]
      split_ifs with unreserved
      · rw [List.singleton_append,
          componentBytes_plain (plain_of_unreserved unreserved).1, induction]
        rfl
      · rw [componentBytes_escape, induction]
        rfl

theorem fromUTF8_utf8Bytes (text : String) :
    String.fromUTF8? (utf8Bytes text).toByteArray = some text := by
  have bytes : (utf8Bytes text).toByteArray = text.toByteArray := by
    rw [← String.utf8Encode_toList]
    rfl
  have valid : (utf8Bytes text).toByteArray.IsValidUTF8 := by
    rw [bytes]
    exact text.isValidUTF8
  unfold String.fromUTF8?
  rw [dif_pos valid]
  exact congrArg some (String.toByteArray_inj.mp bytes)

/-- A component is read back. -/
theorem decode_encode (text : String) :
    decodeURIComponent (encodeURIComponent text) = .ok text := by
  have read : (componentBytes (encodeURIComponent text)).bind
      (fun bytes => String.fromUTF8? bytes.toByteArray) = some text := by
    rw [encodeURIComponent, componentBytes_encode, Option.bind_some]
    exact fromUTF8_utf8Bytes text
  unfold decodeURIComponent
  rw [read]

/-! ## Matching -/

def uriError : Thrown := ⟨"URIError", none, none, "URI malformed"⟩

/-- Every segment of a path is that of some component. -/
def Decodable (path : List (List Char)) : Prop :=
  ∀ segment ∈ path, ∃ value, decodeURIComponent segment = .ok value

def isParameter : List Char → Bool
  | ':' :: _ => true
  | _ => false

/-- What a segment of a pattern takes. -/
def Takes (expected actual : List Char) : Prop :=
  if isParameter expected then ∃ value, decodeURIComponent actual = .ok value
  else expected = actual

theorem decode_error {text : List Char} {thrown : Thrown}
    (failed : decodeURIComponent text = .error thrown) : thrown = uriError := by
  unfold decodeURIComponent at failed
  split at failed
  · cases failed
  · cases failed
    rfl

theorem matchSegments_parameter (name actual : List Char)
    (pattern path : List (List Char)) :
    matchSegments ((':' :: name) :: pattern) (actual :: path) = (do
      let value ← decodeURIComponent actual
      let values ← matchSegments pattern path
      return values.map ((name, value) :: ·)) := rfl

theorem matchSegments_literal {expected : List Char}
    (literal : isParameter expected = false) (actual : List Char)
    (pattern path : List (List Char)) :
    matchSegments (expected :: pattern) (actual :: path) =
      if expected = actual then matchSegments pattern path else .ok none := by
  rw [matchSegments]
  rintro name rfl
  cases literal

/-- A parameter, or a literal. -/
theorem parameter_or_literal (expected : List Char) :
    (∃ name, expected = ':' :: name) ∨ isParameter expected = false := by
  unfold isParameter
  split
  · exact .inl ⟨_, rfl⟩
  · exact .inr rfl

theorem matchSegments_taken :
    ∀ {pattern path : List (List Char)} {values},
      pattern.length = path.length →
        matchSegments pattern path = .ok (some values) →
          List.Forall₂ Takes pattern path
  | [], [], _, _, _ => .nil
  | [], _ :: _, _, same, _ => by cases same
  | _ :: _, [], _, same, _ => by cases same
  | expected :: pattern, actual :: path, values, same, matched => by
      have rest := Nat.succ.inj same
      rcases parameter_or_literal expected with ⟨name, rfl⟩ | literal
      · rw [matchSegments_parameter] at matched
        obtain ⟨value, decoded, matched⟩ := Failures.ok_of_bind matched
        obtain ⟨others, matched, present⟩ := Failures.ok_of_bind matched
        cases others with
        | none => cases present
        | some others =>
            exact .cons ⟨value, decoded⟩ (matchSegments_taken rest matched)
      · rw [matchSegments_literal literal] at matched
        split at matched
        next equal =>
          refine .cons ?_ (matchSegments_taken rest matched)
          rw [Takes, if_neg (by simp [literal])]
          exact equal
        next => cases matched

/-- Matching fails only at a segment that cannot be decoded. -/
theorem matchSegments_decodable :
    ∀ (pattern : List (List Char)) {path : List (List Char)},
      Decodable path → ∃ values, matchSegments pattern path = .ok values
  | [], _, _ => ⟨_, rfl⟩
  | _ :: _, [], _ => by
      rw [matchSegments]
      · exact ⟨_, rfl⟩
      · intro _ _ _ _ _ empty
        cases empty
  | expected :: pattern, actual :: path, decodable => by
      obtain ⟨values, matched⟩ := matchSegments_decodable pattern
        fun segment mem => decodable segment (List.mem_cons_of_mem _ mem)
      rcases parameter_or_literal expected with ⟨name, rfl⟩ | literal
      · obtain ⟨value, decoded⟩ := decodable actual List.mem_cons_self
        rw [matchSegments_parameter, decoded, matched]
        exact ⟨_, rfl⟩
      · rw [matchSegments_literal literal]
        split
        · exact ⟨values, matched⟩
        · exact ⟨none, rfl⟩

theorem matchSegments_error :
    ∀ {pattern path : List (List Char)} {thrown : Thrown},
      matchSegments pattern path = .error thrown → thrown = uriError
  | [], _, _, failed => by cases failed
  | _ :: _, [], _, failed => by
      rw [matchSegments] at failed
      · cases failed
      · intro _ _ _ _ _ empty
        cases empty
  | expected :: pattern, actual :: path, thrown, failed => by
      rcases parameter_or_literal expected with ⟨name, rfl⟩ | literal
      · rw [matchSegments_parameter] at failed
        cases decoded : decodeURIComponent actual with
        | error other =>
            rw [decoded] at failed
            cases failed
            exact decode_error decoded
        | ok value =>
            rw [decoded] at failed
            cases matched : matchSegments pattern path with
            | error other =>
                rw [matched] at failed
                cases failed
                exact matchSegments_error matched
            | ok values =>
                rw [matched] at failed
                cases failed
      · rw [matchSegments_literal literal] at failed
        split at failed
        · exact matchSegments_error failed
        · cases failed

/-! ## Paths of routes -/

def isPlain (segment : List Char) : Bool := segment.all isUnreserved

def Path.text : Path → List Char
  | .exact pathname => pathname.toList
  | .pattern template => template.toList

/-- Only patterns have parameters, and the rest needs no escapes. -/
def Path.plain : Path → Bool
  | .exact pathname => (segments pathname.toList).all isPlain
  | .pattern template =>
      (segments template.toList).all fun segment =>
        isParameter segment || isPlain segment

def Path.Matches (path : Path) (pathname id : String) : Prop :=
  path.parameter pathname = .ok (some id)

theorem encode_plain {segment : List Char} (plain : isPlain segment = true) :
    segment.flatMap encodeCharacter = segment := by
  induction segment with
  | nil => rfl
  | cons c rest induction =>
      unfold isPlain at plain
      rw [List.all_cons, Bool.and_eq_true] at plain
      rw [List.flatMap_cons, encodeCharacter, if_pos plain.1, induction plain.2]
      rfl

theorem decode_plain {segment : List Char} (plain : isPlain segment = true) :
    ∃ value, decodeURIComponent segment = .ok value := by
  refine ⟨String.ofList segment, ?_⟩
  have decoded := decode_encode (String.ofList segment)
  rw [encodeURIComponent, String.toList_ofList, encode_plain plain] at decoded
  exact decoded

theorem takes_plain {segment : List Char} (plain : isPlain segment = true) :
    Takes segment segment := by
  unfold Takes
  split
  · exact decode_plain plain
  · rfl

theorem Path.taken {path : Path} (plain : path.plain = true)
    {pathname id : String} (matched : path.Matches pathname id) :
    List.Forall₂ Takes (segments path.text) (segments pathname.toList) := by
  cases path with
  | exact expected =>
      change Except.ok (if pathname = expected then some "" else none) = _
        at matched
      split_ifs at matched with equal
      · rw [equal, Path.text, List.forall₂_same]
        exact fun segment mem => takes_plain (List.all_eq_true.mp plain _ mem)
      · cases matched
  | pattern template =>
      obtain ⟨values, matched, found⟩ := Failures.ok_of_bind matched
      change (if (segments pathname.toList).length ≠
          (segments template.toList).length then Except.ok none
        else matchSegments (segments template.toList)
          (segments pathname.toList)) = _ at matched
      split_ifs at matched with different
      · cases matched
        cases found
      · cases values with
        | none => cases found
        | some values =>
            exact matchSegments_taken (not_not.mp different).symm matched

theorem Path.segments_plain {path : Path} (plain : path.plain = true) :
    ∀ segment ∈ segments path.text,
      isParameter segment = true ∨ isPlain segment = true := by
  intro segment mem
  cases path with
  | exact pathname => exact .inr (List.all_eq_true.mp plain _ mem)
  | pattern template =>
      exact Bool.or_eq_true _ _ |>.mp (List.all_eq_true.mp plain _ mem)

/-- Nothing is left that could not be decoded, once some pattern takes it. -/
theorem decodable_of_taken {pattern path : List (List Char)}
    (plain : ∀ segment ∈ pattern,
      isParameter segment = true ∨ isPlain segment = true)
    (taken : List.Forall₂ Takes pattern path) : Decodable path := by
  induction taken with
  | nil => exact fun _ mem => absurd mem List.not_mem_nil
  | cons takes _ induction =>
      rw [List.forall_mem_cons] at plain
      refine List.forall_mem_cons.mpr ⟨?_, induction plain.2⟩
      unfold Takes at takes
      split at takes
      next => exact takes
      next literal =>
        rw [← takes]
        exact decode_plain (plain.1.resolve_left literal)

/-- A path that some route takes leads no pattern astray. -/
theorem Path.decodable {path : Path} (plain : path.plain = true)
    {pathname id : String} (matched : path.Matches pathname id) :
    Decodable (segments pathname.toList) :=
  decodable_of_taken (path.segments_plain plain) (path.taken plain matched)

theorem Path.parameter_decodable (path : Path) {pathname : String}
    (decodable : Decodable (segments pathname.toList)) :
    ∃ result, path.parameter pathname = .ok result := by
  cases path with
  | exact expected => exact ⟨_, rfl⟩
  | pattern template =>
      obtain ⟨values, matched⟩ :=
        matchSegments_decodable (segments template.toList) decodable
      unfold Path.parameter matchPath
      simp only [matched]
      split
      · exact ⟨_, rfl⟩
      · exact ⟨_, rfl⟩

theorem Path.parameter_error {path : Path} {pathname : String}
    {thrown : Thrown} (failed : path.parameter pathname = .error thrown) :
    thrown = uriError := by
  cases path with
  | exact expected => cases failed
  | pattern template =>
      unfold Path.parameter matchPath at failed
      by_cases same : (segments pathname.toList).length =
          (segments template.toList).length
      · cases matched : matchSegments (segments template.toList)
            (segments pathname.toList) with
        | error other =>
            simp only [same, ne_eq, not_true_eq_false, if_false, matched]
              at failed
            cases failed
            exact matchSegments_error matched
        | ok values =>
            simp only [same, ne_eq, not_true_eq_false, if_false, matched]
              at failed
            cases failed
      · simp only [same, ne_eq, not_false_eq_true, if_true] at failed
        cases failed

/-! ## Routes that stand apart -/

/-- Whether two patterns can take the same path. -/
def compatible : List (List Char) → List (List Char) → Bool
  | [], [] => true
  | left :: lefts, right :: rights =>
      (isParameter left || isParameter right || left = right) &&
        compatible lefts rights
  | _, _ => false

theorem compatible_of_taken {left right path : List (List Char)}
    (first : List.Forall₂ Takes left path)
    (second : List.Forall₂ Takes right path) :
    compatible left right = true := by
  induction first generalizing right with
  | nil =>
      cases second
      rfl
  | cons takes _ induction =>
      cases second with
      | cons others rest =>
          rw [compatible, Bool.and_eq_true]
          refine ⟨?_, induction rest⟩
          unfold Takes at takes others
          split at takes
          next isParameter => simp [isParameter]
          next =>
            split at others
            next isParameter => simp [isParameter]
            next => simp [takes, others]

/-- Requests of one method are told apart by their paths. -/
def Route.Apart (left right : Route) : Prop :=
  left.method = right.method →
    compatible (segments left.path.text) (segments right.path.text) = false

theorem routes_apart : routes.Pairwise Route.Apart := by
  have apart : (routes.map fun route =>
      (route.method, segments route.path.text)).Pairwise
        fun left right => left.1 = right.1 →
          compatible left.2 right.2 = false := by
    decide +kernel
  rw [List.pairwise_map] at apart
  exact apart

theorem routes_plain : ∀ route ∈ routes, route.path.plain = true := by
  have plain : ((routes.map Route.path).all Path.plain) = true := by
    decide +kernel
  intro route mem
  exact List.all_eq_true.mp plain _ (List.mem_map_of_mem mem)

/-! ## The order of routes -/

section Order

variable (method pathname : String)

/-- The first of two routes that are tried may be either. -/
structure Independent (left right : Route) : Prop where
  first_alone : ∀ {first second},
    left.path.Matches pathname first → right.path.Matches pathname second →
      left.method = method → right.method ≠ method
  left_fails : ∀ {thrown id},
    left.path.parameter pathname = .error thrown →
      ¬ right.path.Matches pathname id
  right_fails : ∀ {thrown id},
    right.path.parameter pathname = .error thrown →
      ¬ left.path.Matches pathname id

variable {method pathname}

theorem Independent.symm {left right : Route}
    (independent : Independent method pathname left right) :
    Independent method pathname right left where
  first_alone first second same other :=
    independent.first_alone second first other same
  left_fails := independent.right_fails
  right_fails := independent.left_fails

theorem choose_error {route : Route} {rest : List Route} {thrown : Thrown}
    (failed : route.path.parameter pathname = .error thrown) :
    choose method pathname (route :: rest) = .error uriError := by
  rw [choose, failed, Path.parameter_error failed]
  rfl

theorem choose_miss {route : Route} {rest : List Route}
    (missed : route.path.parameter pathname = .ok none) :
    choose method pathname (route :: rest) = choose method pathname rest := by
  rw [choose, missed]
  rfl

theorem choose_hit {route : Route} {rest : List Route} {id : String}
    (matched : route.path.Matches pathname id) :
    choose method pathname (route :: rest) =
      if method = route.method then .ok (some (route, id))
      else choose method pathname rest := by
  unfold Path.Matches at matched
  rw [choose, matched]
  rfl

theorem choose_swap {left right : Route} (rest : List Route)
    (independent : Independent method pathname left right) :
    choose method pathname (left :: right :: rest) =
      choose method pathname (right :: left :: rest) := by
  cases first : left.path.parameter pathname with
  | error thrown =>
      rw [choose_error first]
      cases second : right.path.parameter pathname with
      | error other => rw [choose_error second]
      | ok result =>
          cases result with
          | none => rw [choose_miss second, choose_error first]
          | some id => exact absurd second (independent.left_fails first)
  | ok result =>
      cases result with
      | none =>
          rw [choose_miss first]
          cases second : right.path.parameter pathname with
          | error other => rw [choose_error second, choose_error second]
          | ok result =>
              cases result with
              | none =>
                  rw [choose_miss second, choose_miss second, choose_miss first]
              | some id =>
                  rw [choose_hit second, choose_hit second, choose_miss first]
      | some one =>
          rw [choose_hit first]
          cases second : right.path.parameter pathname with
          | error other => exact absurd first (independent.right_fails second)
          | ok result =>
              cases result with
              | none =>
                  rw [choose_miss second, choose_miss second, choose_hit first]
              | some other =>
                  have alone := independent.first_alone first second
                  rw [choose_hit second, choose_hit second, choose_hit first]
                  by_cases mine : left.method = method
                  · rw [if_pos mine.symm, if_neg (alone mine).symm,
                      if_pos mine.symm]
                  · rw [if_neg (Ne.symm mine), if_neg (Ne.symm mine)]

/-- Routes that stand apart are tried in any order. -/
theorem choose_perm {left right : List Route} (order : left.Perm right)
    (independent : left.Pairwise (Independent method pathname)) :
    choose method pathname left = choose method pathname right := by
  induction order with
  | nil => rfl
  | cons route _ induction =>
      rw [choose, choose, induction independent.of_cons]
  | swap first second rest =>
      exact choose_swap rest (List.rel_of_pairwise_cons independent
        List.mem_cons_self)
  | trans before _ former latter =>
      rw [former independent, latter]
      exact (before.pairwise_iff Independent.symm).mp independent

end Order

theorem routes_independent (method pathname : String) :
    routes.Pairwise (Independent method pathname) := by
  refine List.Pairwise.imp_of_mem ?_ routes_apart
  intro left right leftMem rightMem apart
  have leftPlain := routes_plain left leftMem
  have rightPlain := routes_plain right rightMem
  constructor
  · intro first second leftMatched rightMatched mine other
    have clash := compatible_of_taken (left.path.taken leftPlain leftMatched)
      (right.path.taken rightPlain rightMatched)
    rw [apart (mine.trans other.symm)] at clash
    cases clash
  · intro thrown id failed matched
    obtain ⟨result, done⟩ := left.path.parameter_decodable
      (right.path.decodable rightPlain matched)
    rw [done] at failed
    cases failed
  · intro thrown id failed matched
    obtain ⟨result, done⟩ := right.path.parameter_decodable
      (left.path.decodable leftPlain matched)
    rw [done] at failed
    cases failed

/-- No route shadows another: in whatever order they were tried, every request
would be taken by the route, and with the identifier, that it is taken by. -/
theorem route_order {table : List Route} (order : table.Perm routes)
    (method pathname : String) :
    choose method pathname table = choose method pathname routes :=
  (choose_perm order.symm (routes_independent method pathname)).symm

theorem route_order_reversed :
    choose "GET" "/v1/jobs/7" routes.reverse =
      choose "GET" "/v1/jobs/7" routes :=
  route_order routes.reverse_perm "GET" "/v1/jobs/7"

end HttpServer

end GpuLink
