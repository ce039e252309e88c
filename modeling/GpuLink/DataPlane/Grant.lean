import GpuLink.Library.Base64Url
import GpuLink.Shared.JsonText
import GpuLink.Shared.Text

/-!
# Data-plane grants

The token that admits one role of a session to the relay: a prefix, the claims
as JSON in base64url, and an HMAC over both.
-/

namespace GpuLink

namespace DataPlane

def grantSchemaVersion : Nat := 1
def grantAudience : String := "gpulink-data-plane"
def grantMaxTtlMs : Nat := 60000
def grantMaxTokenBytes : Nat := 4096
def tokenPrefix : String := "gdp1"

/-- `DATA_PLANE_GRANT_ROLES` -/
inductive Role where
  | client
  | worker
  deriving DecidableEq, Repr

def Role.text : Role → String
  | client => "client"
  | worker => "worker"

def claimFields : List String :=
  ["schemaVersion", "audience", "role", "sessionId", "workerId", "leaseId",
    "issuedAt", "expiresAt", "nonce"]

/-- A string that is not empty and has at most `maximum` UTF-16 code units. -/
abbrev BoundedString (maximum : Nat) : Type :=
  { text : String // text ≠ "" ∧ utf16Length text ≤ maximum }

abbrev Timestamp : Type :=
  { ms : Nat // ms ≤ JsonText.maxSafeInteger }

/-- Claims that the validator has returned. -/
structure Claims where
  role : Role
  sessionId : BoundedString 200
  workerId : BoundedString 200
  leaseId : BoundedString 200
  issuedAt : Timestamp
  expiresAt : Timestamp
  nonce : BoundedString 100
  ordered : issuedAt.1 < expiresAt.1
  bounded : expiresAt.1 - issuedAt.1 ≤ grantMaxTtlMs
  deriving DecidableEq, Repr

/-! ## The validator -/

def boundedString (value : Option Json) (name : String) (maximum : Nat) :
    Except String (BoundedString maximum) :=
  match value with
  | some (.string text) =>
      if fits : text ≠ "" ∧ utf16Length text ≤ maximum then .ok ⟨text, fits⟩
      else .error s!"{name} must be a non-empty string no longer than {maximum} characters"
  | _ => .error s!"{name} must be a non-empty string no longer than {maximum} characters"

def timestamp (value : Option Json) (name : String) : Except String Timestamp :=
  match value with
  | some (.number q) =>
      if safe : q.isInt ∧ 0 ≤ q ∧ q.num.toNat ≤ JsonText.maxSafeInteger then
        .ok ⟨q.num.toNat, safe.2.2⟩
      else .error s!"{name} must be a non-negative safe integer"
  | _ => .error s!"{name} must be a non-negative safe integer"

def isNumber (value : Option Json) (expected : Nat) : Bool :=
  match value with
  | some (.number q) => q = expected
  | _ => false

def isString (value : Option Json) (expected : String) : Bool :=
  match value with
  | some (.string text) => text = expected
  | _ => false

def readRole (value : Option Json) : Except String Role :=
  if isString value Role.client.text then .ok .client
  else if isString value Role.worker.text then .ok .worker
  else .error "data-plane grant role must be client or worker"

/-- The first property that is no claim. -/
def unexpectedField (fields : List (String × Json)) : Option String :=
  (fields.map Prod.fst).find? (fun name => name ∉ claimFields)

/-- The checks on the object itself, the version and the audience. -/
def requireGrantObject (value : Json) : Except String Unit :=
  match value with
  | .object fields =>
      match unexpectedField fields with
      | some name =>
          .error s!"data-plane grant claims contain unexpected field {name}"
      | none =>
          if ¬isNumber (value.field? "schemaVersion") grantSchemaVersion then
            .error "data-plane grant schemaVersion must be 1"
          else if ¬isString (value.field? "audience") grantAudience then
            .error "data-plane grant audience is invalid"
          else .ok ()
  | _ => .error "data-plane grant claims must be an object"

def validateDataPlaneGrantClaims (value : Json) : Except String Claims := do
  requireGrantObject value
  let role ← readRole (value.field? "role")
  let sessionId ← boundedString (value.field? "sessionId")
    "data-plane grant sessionId" 200
  let workerId ← boundedString (value.field? "workerId")
    "data-plane grant workerId" 200
  let leaseId ← boundedString (value.field? "leaseId")
    "data-plane grant leaseId" 200
  let nonce ← boundedString (value.field? "nonce") "data-plane grant nonce" 100
  let issuedAt ← timestamp (value.field? "issuedAt")
    "data-plane grant issuedAt"
  let expiresAt ← timestamp (value.field? "expiresAt")
    "data-plane grant expiresAt"
  if ordered : issuedAt.1 < expiresAt.1 then
    if bounded : expiresAt.1 - issuedAt.1 ≤ grantMaxTtlMs then
      return ⟨role, sessionId, workerId, leaseId, issuedAt, expiresAt, nonce,
        ordered, bounded⟩
    else throw "data-plane grant lifetime exceeds 60 seconds"
  else throw "data-plane grant expiresAt must be after issuedAt"

/-- The properties of validated claims, in order. -/
def Claims.fields (claims : Claims) : List (String × JsonText.Scalar) :=
  [("schemaVersion", .number grantSchemaVersion),
    ("audience", .text grantAudience), ("role", .text claims.role.text),
    ("sessionId", .text claims.sessionId.1),
    ("workerId", .text claims.workerId.1),
    ("leaseId", .text claims.leaseId.1),
    ("issuedAt", .number claims.issuedAt.1),
    ("expiresAt", .number claims.expiresAt.1), ("nonce", .text claims.nonce.1)]

def Claims.json (claims : Claims) : Json :=
  .object (claims.fields.map (fun field => (field.1, field.2.json)))

theorem boundedString_text {maximum : Nat} (text : BoundedString maximum)
    (name : String) :
    boundedString (some (.string text.1)) name maximum = .ok text := by
  simp [boundedString, text.2]

theorem timestamp_number (ms : Timestamp) (name : String) :
    timestamp (some (.number (ms.1 : Rat))) name = .ok ms := by
  have safe := ms.2
  simp [timestamp, Rat.isInt, safe]

theorem readRole_text (role : Role) :
    readRole (some (.string role.text)) = .ok role := by
  cases role <;> rfl

/-- Validating the claims again changes nothing. -/
theorem validate_json (claims : Claims) :
    validateDataPlaneGrantClaims claims.json = .ok claims := by
  have expected : requireGrantObject claims.json = .ok () := rfl
  have role : readRole (claims.json.field? "role") = .ok claims.role :=
    readRole_text claims.role
  have sessionId : ∀ name, boundedString (claims.json.field? "sessionId") name
      200 = .ok claims.sessionId := boundedString_text claims.sessionId
  have workerId : ∀ name, boundedString (claims.json.field? "workerId") name
      200 = .ok claims.workerId := boundedString_text claims.workerId
  have leaseId : ∀ name, boundedString (claims.json.field? "leaseId") name
      200 = .ok claims.leaseId := boundedString_text claims.leaseId
  have nonce : ∀ name, boundedString (claims.json.field? "nonce") name 100 =
      .ok claims.nonce := boundedString_text claims.nonce
  have issuedAt : ∀ name, timestamp (claims.json.field? "issuedAt") name =
      .ok claims.issuedAt := timestamp_number claims.issuedAt
  have expiresAt : ∀ name, timestamp (claims.json.field? "expiresAt") name =
      .ok claims.expiresAt := timestamp_number claims.expiresAt
  unfold validateDataPlaneGrantClaims
  simp only [expected, role, sessionId, workerId, leaseId, nonce, issuedAt,
    expiresAt]
  simp [bind, Except.bind, pure, Except.pure, claims.ordered, claims.bounded]

/-- What the validator has read. -/
structure Claims.ReadFrom (claims : Claims) (value : Json) : Prop where
  role : readRole (value.field? "role") = .ok claims.role
  sessionId : boundedString (value.field? "sessionId")
    "data-plane grant sessionId" 200 = .ok claims.sessionId
  workerId : boundedString (value.field? "workerId")
    "data-plane grant workerId" 200 = .ok claims.workerId
  leaseId : boundedString (value.field? "leaseId")
    "data-plane grant leaseId" 200 = .ok claims.leaseId
  issuedAt : timestamp (value.field? "issuedAt") "data-plane grant issuedAt" =
    .ok claims.issuedAt
  expiresAt : timestamp (value.field? "expiresAt")
    "data-plane grant expiresAt" = .ok claims.expiresAt

theorem ok_of_bind {α β : Type} {first : Except String α}
    {next : α → Except String β} {result : β}
    (ok : (first >>= next) = .ok result) :
    ∃ middle, first = .ok middle ∧ next middle = .ok result := by
  cases first with
  | error message => cases ok
  | ok middle => exact ⟨middle, rfl, ok⟩

theorem readFrom_of_validate {value : Json} {claims : Claims}
    (validated : validateDataPlaneGrantClaims value = .ok claims) :
    claims.ReadFrom value := by
  unfold validateDataPlaneGrantClaims at validated
  obtain ⟨_, _, validated⟩ := ok_of_bind validated
  obtain ⟨role, readRole, validated⟩ := ok_of_bind validated
  obtain ⟨sessionId, readSession, validated⟩ := ok_of_bind validated
  obtain ⟨workerId, readWorker, validated⟩ := ok_of_bind validated
  obtain ⟨leaseId, readLease, validated⟩ := ok_of_bind validated
  obtain ⟨nonce, readNonce, validated⟩ := ok_of_bind validated
  obtain ⟨issuedAt, readIssued, validated⟩ := ok_of_bind validated
  obtain ⟨expiresAt, readExpires, validated⟩ := ok_of_bind validated
  split at validated
  · split at validated
    · cases validated
      exact ⟨readRole, readSession, readWorker, readLease, readIssued,
        readExpires⟩
    · cases validated
  · cases validated

theorem text_of_boundedString {text name : String} {maximum : Nat}
    {bounded : BoundedString maximum}
    (read : boundedString (some (.string text)) name maximum = .ok bounded) :
    bounded.1 = text := by
  unfold boundedString at read
  dsimp only at read
  split at read
  · cases read
    rfl
  · cases read

theorem number_of_timestamp {q : Rat} {name : String} {ms : Timestamp}
    (read : timestamp (some (.number q)) name = .ok ms) : q = ms.1 := by
  unfold timestamp at read
  dsimp only at read
  split at read
  · next safe =>
      cases read
      have whole := Rat.eq_num_of_isInt safe.1
      have natural := Int.toNat_of_nonneg (Rat.num_nonneg.mpr safe.2.1)
      calc q = ((q.num : Int) : Rat) := whole
        _ = ((q.num.toNat : Int) : Rat) := by rw [natural]
        _ = (q.num.toNat : Rat) := Int.cast_natCast _
  · cases read

/-! ## Tokens -/

/-- `createHmac("sha256", key).update(text).digest()` -/
structure Hmac where
  digest : List UInt8 → List UInt8 → List UInt8
  digest_ne_nil : ∀ key text, digest key text ≠ []

def validateSigningKey (value : String) : Except String (List UInt8) :=
  if byteLength value < 32 then
    .error "data-plane signing key must contain at least 32 bytes"
  else .ok (utf8Bytes value)

/-- The text that the HMAC is taken over. -/
def signedText (payload : String) : String :=
  tokenPrefix ++ "." ++ payload

def signature (hmac : Hmac) (key : List UInt8) (payload : String) : String :=
  String.ofList (Base64Url.encode (hmac.digest key
    (utf8Bytes (signedText payload))))

def payloadOf (claims : Claims) : String :=
  String.ofList (Base64Url.encode (utf8Bytes (JsonText.stringify claims.fields)))

def tokenOf (hmac : Hmac) (key : List UInt8) (claims : Claims) : String :=
  signedText (payloadOf claims) ++ "." ++ signature hmac key (payloadOf claims)

def signDataPlaneGrant (hmac : Hmac) (value : Json) (signingKey : String) :
    Except String String := do
  let claims ← validateDataPlaneGrantClaims value
  let key ← validateSigningKey signingKey
  let token := tokenOf hmac key claims
  if byteLength token > grantMaxTokenBytes then
    throw "data-plane grant exceeds maximum token size"
  return token

/-- `/^[A-Za-z0-9_-]+$/u` -/
def isBase64Url (text : List Char) : Bool :=
  !text.isEmpty && text.all Base64Url.isLetter

/-- The payload of a token with the prefix and a signature that agrees, byte
for byte. -/
def signedPayload (hmac : Hmac) (key : List UInt8) (token : String) :
    Option String :=
  match token.toList.splitOn '.' with
  | [tag, payload, supplied] =>
      if tag = tokenPrefix.toList ∧ isBase64Url payload ∧ isBase64Url supplied ∧
          utf8Bytes (String.ofList supplied) =
            utf8Bytes (signature hmac key (String.ofList payload)) then
        some (String.ofList payload)
      else none
  | _ => none

def readPayload (payload : String) : Option Claims := do
  let parsed ← JsonText.parse (utf8Text (Base64Url.decode payload.toList))
  (validateDataPlaneGrantClaims parsed).toOption

def verifyDataPlaneGrant (hmac : Hmac) (token signingKey : String)
    (now : Int) : Except String (Option Claims) := do
  let key ← validateSigningKey signingKey
  if token = "" ∨ byteLength token > grantMaxTokenBytes then
    return none
  if now < 0 ∨ now > JsonText.maxSafeInteger then
    throw "data-plane grant verification time must be a non-negative safe integer"
  match (signedPayload hmac key token).bind readPayload with
  | none => return none
  | some claims =>
      if claims.issuedAt.1 > now ∨ claims.expiresAt.1 ≤ now then return none
      else return some claims

theorem readPayload_payloadOf (claims : Claims) :
    readPayload (payloadOf claims) = some claims := by
  have safe : ∀ entry ∈ claims.fields, entry.2.Safe := by
    simp [Claims.fields, JsonText.Scalar.Safe, grantSchemaVersion,
      JsonText.maxSafeInteger]
    exact ⟨claims.issuedAt.2, claims.expiresAt.2⟩
  have nonempty : claims.fields ≠ [] := List.cons_ne_nil _ _
  have names : (claims.fields.map Prod.fst).Nodup := by
    change claimFields.Nodup
    decide
  have parsed := JsonText.parse_stringify nonempty safe names
  unfold readPayload payloadOf
  rw [String.toList_ofList, Base64Url.decode_encode, utf8Text_utf8Bytes, parsed]
  change (validateDataPlaneGrantClaims claims.json).toOption = some claims
  rw [validate_json]
  rfl

theorem isBase64Url_encode {bytes : List UInt8} (nonempty : bytes ≠ []) :
    isBase64Url (Base64Url.encode bytes) := by
  unfold isBase64Url
  rw [Bool.and_eq_true, List.all_eq_true]
  constructor
  · simp [Base64Url.encode_ne_nil nonempty]
  · exact fun _ member => Base64Url.encode_letters member

/-- No letter of the alphabet separates the parts. -/
theorem dot_not_mem {text : List Char} (letters : isBase64Url text) :
    '.' ∉ text := by
  unfold isBase64Url at letters
  rw [Bool.and_eq_true, List.all_eq_true] at letters
  intro member
  have letter := letters.2 _ member
  revert letter
  decide

theorem split_token {payload supplied : String}
    (letters : isBase64Url payload.toList)
    (others : isBase64Url supplied.toList) :
    (signedText payload ++ "." ++ supplied).toList.splitOn '.' =
      [tokenPrefix.toList, payload.toList, supplied.toList] := by
  have shown : (signedText payload ++ "." ++ supplied).toList =
      tokenPrefix.toList ++ '.' :: (payload.toList ++ '.' :: supplied.toList) := by
    simp [signedText]
  rw [shown, List.splitOn_append_cons_self_of_not_mem (by decide),
    List.splitOn_append_cons_self_of_not_mem (dot_not_mem letters),
    List.splitOn_eq_singleton (dot_not_mem others)]

theorem payloadOf_letters (claims : Claims) :
    isBase64Url (payloadOf claims).toList := by
  rw [payloadOf, String.toList_ofList]
  apply isBase64Url_encode
  have brace : ∃ rest, (JsonText.stringify claims.fields).toList = '{' :: rest :=
    ⟨_, String.toList_ofList⟩
  obtain ⟨rest, starts⟩ := brace
  rw [utf8Bytes, starts, List.flatMap_cons]
  exact List.append_ne_nil_of_left_ne_nil String.utf8EncodeChar_ne_nil _

theorem signature_letters (hmac : Hmac) (key : List UInt8) (payload : String) :
    isBase64Url (signature hmac key payload).toList := by
  rw [signature, String.toList_ofList]
  exact isBase64Url_encode (hmac.digest_ne_nil _ _)

theorem signedPayload_tokenOf (hmac : Hmac) (key : List UInt8)
    (claims : Claims) :
    signedPayload hmac key (tokenOf hmac key claims) =
      some (payloadOf claims) := by
  have payload := payloadOf_letters claims
  have supplied := signature_letters hmac key (payloadOf claims)
  unfold signedPayload tokenOf
  rw [split_token payload supplied]
  simp [payload, supplied]

/-- A payload that is read was signed with the key. -/
theorem signedPayload_some {hmac : Hmac} {key : List UInt8}
    {token payload : String}
    (accepted : signedPayload hmac key token = some payload) :
    token = signedText payload ++ "." ++ signature hmac key payload ∧
      isBase64Url payload.toList := by
  unfold signedPayload at accepted
  split at accepted
  · next tag text supplied parts =>
      split at accepted
      · next agreed =>
          obtain ⟨rfl, letters, _, same⟩ := agreed
          cases accepted
          have same := utf8Bytes_inj same
          have joined : ['.'].intercalate (token.toList.splitOn '.') =
              token.toList := List.intercalate_splitOn '.'
          rw [parts] at joined
          refine ⟨?_, by simpa using letters⟩
          apply String.toList_inj.mp
          rw [← joined, ← same]
          simp [signedText, List.intercalate_cons_cons]
      · cases accepted
  · cases accepted

/-- A token is issued exactly for valid claims, a key that is long enough, and
a length that the limit allows. -/
theorem sign_ok_iff {hmac : Hmac} {value : Json} {signingKey token : String} :
    signDataPlaneGrant hmac value signingKey = .ok token ↔
      ∃ claims, validateDataPlaneGrantClaims value = .ok claims ∧
        32 ≤ byteLength signingKey ∧
        token = tokenOf hmac (utf8Bytes signingKey) claims ∧
        byteLength token ≤ grantMaxTokenBytes := by
  unfold signDataPlaneGrant validateSigningKey
  simp only [bind, Except.bind, pure, Except.pure, throw, throwThe,
    MonadExceptOf.throw]
  constructor
  · intro signed
    split at signed
    · cases signed
    · next claims validated =>
        split at signed
        · cases signed
        · next key long =>
            split at long
            · cases long
            · next enough =>
                cases long
                split at signed
                · cases signed
                · next fits =>
                    cases signed
                    exact ⟨claims, validated, Nat.not_lt.mp enough, rfl,
                      Nat.not_lt.mp fits⟩
  · rintro ⟨claims, validated, enough, rfl, fits⟩
    rw [validated]
    simp only [if_neg (Nat.not_lt.mpr enough)]
    rw [if_neg (Nat.not_lt.mpr fits)]

theorem tokenOf_ne_empty (hmac : Hmac) (key : List UInt8) (claims : Claims) :
    tokenOf hmac key claims ≠ "" := by
  intro empty
  have chars := congrArg String.toList empty
  simp [tokenOf, signedText, tokenPrefix] at chars

/-- A token yields the claims it was signed for, and only within its time. -/
theorem verify_tokenOf {hmac : Hmac} {signingKey : String} {claims : Claims}
    (enough : 32 ≤ byteLength signingKey)
    (fits : byteLength (tokenOf hmac (utf8Bytes signingKey) claims) ≤
      grantMaxTokenBytes) {now : Int} {read : Claims} :
    verifyDataPlaneGrant hmac (tokenOf hmac (utf8Bytes signingKey) claims)
      signingKey now = .ok (some read) ↔
        read = claims ∧ claims.issuedAt.1 ≤ now ∧ now < claims.expiresAt.1 := by
  have sized : ¬(tokenOf hmac (utf8Bytes signingKey) claims = "" ∨
      byteLength (tokenOf hmac (utf8Bytes signingKey) claims) >
        grantMaxTokenBytes) := by
    rw [not_or]
    exact ⟨tokenOf_ne_empty _ _ _, Nat.not_lt.mpr fits⟩
  unfold verifyDataPlaneGrant validateSigningKey
  simp only [if_neg (Nat.not_lt.mpr enough), bind, Except.bind, pure,
    Except.pure, if_neg sized, signedPayload_tokenOf, Option.bind_some,
    readPayload_payloadOf]
  by_cases timed : now < 0 ∨ now > JsonText.maxSafeInteger
  · rw [if_pos timed]
    constructor
    · exact fun thrown => nomatch thrown
    · rintro ⟨_, started, running⟩
      have bound := claims.expiresAt.2
      omega
  · rw [if_neg timed]
    by_cases current : claims.issuedAt.1 > now ∨ claims.expiresAt.1 ≤ now
    · rw [if_pos current]
      constructor
      · exact fun refused => nomatch refused
      · rintro ⟨_, started, running⟩
        omega
    · rw [if_neg current]
      constructor
      · intro yielded
        cases yielded
        exact ⟨rfl, by omega, by omega⟩
      · rintro ⟨rfl, _, _⟩
        rfl

/-- What verification accepts has the right form, the right signature, and
claims that are current. -/
theorem verify_some {hmac : Hmac} {token signingKey : String} {now : Int}
    {claims : Claims}
    (accepted : verifyDataPlaneGrant hmac token signingKey now =
      .ok (some claims)) :
    ∃ payload, token = signedText payload ++ "." ++
        signature hmac (utf8Bytes signingKey) payload ∧
      isBase64Url payload.toList ∧ readPayload payload = some claims ∧
      claims.issuedAt.1 ≤ now ∧ now < claims.expiresAt.1 := by
  unfold verifyDataPlaneGrant validateSigningKey at accepted
  simp only [bind, Except.bind, pure, Except.pure, throw, throwThe,
    MonadExceptOf.throw] at accepted
  split at accepted
  · cases accepted
  · next key long =>
      split at long
      · cases long
      · cases long
        split at accepted
        · cases accepted
        · split at accepted
          · cases accepted
          · split at accepted
            · cases accepted
            · next read =>
                split at accepted
                · cases accepted
                · next current =>
                    cases accepted
                    rw [Option.bind_eq_some_iff] at read
                    obtain ⟨payload, signed, read⟩ := read
                    have form := signedPayload_some signed
                    exact ⟨payload, form.1, form.2, read, by omega, by omega⟩

end DataPlane

end GpuLink
