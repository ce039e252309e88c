import GpuLink.DataPlane.Admission
import GpuLink.Store.LeaseFencing

/-!
# What a grant is worth

A token says what was signed, and it opens the relay only while the allocation
that it was issued for lasts.
-/

namespace GpuLink

open Transactional Sql DataPlane

/-- The calls that changed the session since `store`. -/
def Store.sessionCallsSince (later store : Store) (sessionId : String) :
    List Call :=
  (later.calls (.session sessionId)).drop
    (store.calls (.session sessionId)).length

/-- No lease identifier was given to the session twice. -/
def Store.LeasesDistinct (store : Store) (sessionId : String) : Prop :=
  ((store.calls (.session sessionId)).filterMap Call.leaseId).Nodup

/-- In a run the history of a row only grows, and leases stay fenced. -/
theorem CommittedThen.histories {text : Collation} {store later : Store}
    (run : CommittedThen text store later) (key : RowKey) :
    (store.get key).Fenced key ∧ (later.get key).Fenced key ∧
      ∃ recent, later.calls key = store.calls key ++ recent := by
  have moved := @CommittedThen.rowwise
    (fun key before after => (before.Fenced key → after.Fenced key) ∧
      ∃ recent, after.calls = before.calls ++ recent)
    (fun _ _ => ⟨id, [], (List.append_nil _).symm⟩)
    (fun _ _ _ _ first second => by
      obtain ⟨fenced, recent, grown⟩ := first
      obtain ⟨fenced', recent', grown'⟩ := second
      refine ⟨fun before => fenced' (fenced before), recent ++ recent', ?_⟩
      rw [grown', grown, List.append_assoc])
    (fun _ _ _ moved => by
      refine ⟨fenced_of_move moved, ?_⟩
      rcases moved with rfl | ⟨call, _, _, noted⟩
      · exact ⟨[], (List.append_nil _).symm⟩
      · exact ⟨[call], noted⟩) _ _ _ run
  have first := (moved.1 key).1 (fenced_empty key)
  exact ⟨first, (moved.2 key).1 first, (moved.2 key).2⟩

/-- An allocated session has the lease that its history says. -/
theorem leaseHeld_of_row {store : Store} {sessionId leaseId : String}
    {row : SessionRow}
    (fenced : (store.get (.session sessionId)).Fenced (.session sessionId))
    (found : store.sessions.find? sessionId = some row)
    (occupying : row.isOccupying) (lease : row.leaseId = some leaseId) :
    ∃ expires, LeaseHeld (store.calls (.session sessionId)) leaseId expires := by
  have leased : leaseOf (.session sessionId)
      (store.get (.session sessionId)).row =
        some (some leaseId, row.leaseExpiresAt) := by
    change sessionLease (store.sessions.find? sessionId) = _
    rw [found, sessionLease_some occupying, lease]
  obtain ⟨held, expires, same, _, history⟩ := fenced.held _ _ leased
  cases same
  exact ⟨expires, history⟩

/-- A session that was closed, recovered or given out again since then has lost
the allocation for good. -/
theorem allocation_lost {text : Collation} {store later : Store}
    (run : CommittedThen text store later) {row : SessionRow} {claims : Claims}
    (found : store.sessions.find? claims.sessionId.1 = some row)
    (occupying : row.isOccupying)
    (lease : row.leaseId = some claims.leaseId.1)
    (distinct : later.LeasesDistinct claims.sessionId.1) {call : Call}
    (since : call ∈ later.sessionCallsSince store claims.sessionId.1)
    (revokes : call.revokes) (now : Int) :
    ¬Service.Allocated later claims now := by
  rintro ⟨laterRow, laterFound, laterOccupying, _, laterLease, _⟩
  obtain ⟨fenced, laterFenced, recent, grown⟩ :=
    run.histories (.session claims.sessionId.1)
  obtain ⟨_, earlier, assignedUntil, after, history, _⟩ :=
    leaseHeld_of_row fenced found occupying lease
  obtain ⟨_, held⟩ :=
    leaseHeld_of_row laterFenced laterFound laterOccupying laterLease
  have whole : later.calls (.session claims.sessionId.1) = earlier ++
      .assigned claims.leaseId.1 assignedUntil :: (after ++ recent) := by
    rw [grown, history]
    simp
  have member : call ∈ recent := by
    rw [Store.sessionCallsSince, grown, List.drop_left] at since
    exact since
  have spared := held.not_revoked distinct whole
    (List.mem_append_right _ member)
  rw [revokes] at spared
  cases spared

/-! ## The property -/

/-- The keyed hash tells keys and texts apart. -/
def DataPlane.Hmac.Injective (hmac : Hmac) : Prop :=
  ∀ key text otherKey otherText,
    hmac.digest key text = hmac.digest otherKey otherText →
      key = otherKey ∧ text = otherText

theorem token_keyed {hmac : Hmac} (injective : hmac.Injective)
    {token signingKey otherKey : String} {now later : Int}
    {claims others : Claims}
    (first : verifyDataPlaneGrant hmac token signingKey now = .ok (some claims))
    (second : verifyDataPlaneGrant hmac token otherKey later =
      .ok (some others)) : signingKey = otherKey := by
  obtain ⟨payload, form, letters, _⟩ := verify_some first
  obtain ⟨otherPayload, otherForm, otherLetters, _⟩ := verify_some second
  have parts := split_token letters
    (signature_letters hmac (utf8Bytes signingKey) payload)
  have otherParts := split_token otherLetters
    (signature_letters hmac (utf8Bytes otherKey) otherPayload)
  rw [← form] at parts
  rw [← otherForm, parts] at otherParts
  simp only [List.cons.injEq, and_true, true_and] at otherParts
  have agreed := otherParts.2
  simp only [signature, String.toList_ofList] at agreed
  have digests := congrArg Base64Url.decode agreed
  rw [Base64Url.decode_encode, Base64Url.decode_encode] at digests
  exact utf8Bytes_inj (injective _ _ _ _ digests).1

theorem create_tokenOf {hmac : Hmac} {key : List UInt8} {claims : Claims}
    (fits : byteLength (tokenOf hmac key claims) ≤ grantMaxTokenBytes) :
    createDataPlaneProtocols (tokenOf hmac key claims) =
      .ok [Subprotocol.v1.text,
        grantSubprotocolPrefix ++ tokenOf hmac key claims] := by
  have short := (utf16Length_le_byteLength _).trans fits
  have letters := payloadOf_letters claims
  have signed := signature_letters hmac key (payloadOf claims)
  have token : isGrantToken (tokenOf hmac key claims).toList := by
    unfold isGrantToken tokenOf
    rw [split_token letters signed]
    simp [letters, signed]
  have valid : ¬(tokenOf hmac key claims = "" ∨
      utf16Length (tokenOf hmac key claims) > 4096 ∨
      ¬isGrantToken (tokenOf hmac key claims).toList) := by
    rw [not_or, not_or, not_not]
    exact ⟨tokenOf_ne_empty _ _ _, Nat.not_lt.mpr short, token⟩
  unfold createDataPlaneProtocols requireGrant
  rw [if_neg valid]
  rfl

/-- The token opens the relay at these times and for this allocation. -/
theorem Service.Issued.authorized_iff {text : Collation}
    {database : Persistence} (engine : Engine text database)
    {settings : Service.GrantSettings} {store later : Store}
    {sessionId : String} {requester : Service.Requester} {now : Int}
    {grant : Service.IssuedGrant} {row : SessionRow} {claims : Claims}
    (issued : Service.Issued settings store sessionId requester now grant row
      claims) {role : Role} {time : Int} {start : Nat} :
    (∃ authorization, (Service.authorizeDataPlaneGrant database settings
        grant.token role time time).Runs later start (.ok (some authorization))
          later start) ↔
      role = requester.role ∧ now ≤ time ∧ time < grant.expiresAt ∧
        ∃ current, later.sessions.find? sessionId = some current ∧
          current.isOccupying ∧
          current.assignedWorkerId = row.assignedWorkerId ∧
          current.leaseId = row.leaseId ∧
          (Database.mapSession current).leaseCurrent time := by
  have runs := fun authorization =>
    @Service.authorizeDataPlaneGrant_runs text database engine settings claims
      role time time later later start start authorization issued.keyed
      (issued.token ▸ issued.sized)
  have allocated := @Service.authorization?_isSome_iff later claims role time
  rw [issued.token]
  rw [issued.worker, issued.lease, ← issued.session, ← issued.issuedAt,
    ← issued.expiresAt, ← issued.role]
  constructor
  · rintro ⟨authorization, run⟩
    obtain ⟨window, answered, _⟩ := (runs authorization).mp run
    rw [← answered] at allocated
    obtain ⟨same, row, found, current⟩ := allocated.mp rfl
    exact ⟨same.symm, window.1, window.2, row, found, current⟩
  · rintro ⟨rfl, started, running, current⟩
    obtain ⟨authorization, answered⟩ :=
      Option.isSome_iff_exists.mp (allocated.mpr ⟨rfl, current⟩)
    exact ⟨authorization, (runs authorization).mpr
      ⟨⟨started, running⟩, answered.symm, rfl, rfl⟩⟩

/-- Grants are sound for a service with these settings on this database. -/
structure GrantsSound (text : Collation) (database : Persistence)
    (settings : Service.GrantSettings) : Prop where
  /-- Valid claims are signed when the key and the token have the right size. -/
  signs : ∀ value claims signingKey,
    validateDataPlaneGrantClaims value = .ok claims →
    32 ≤ byteLength signingKey →
    byteLength (tokenOf settings.hmac (utf8Bytes signingKey) claims) ≤
      grantMaxTokenBytes →
    ∃ token, signDataPlaneGrant settings.hmac value signingKey = .ok token
  /-- The token yields the claims, and only within its time. -/
  yields : ∀ value claims signingKey token now read,
    validateDataPlaneGrantClaims value = .ok claims →
    signDataPlaneGrant settings.hmac value signingKey = .ok token →
    (verifyDataPlaneGrant settings.hmac token signingKey now =
        .ok (some read) ↔
      read = claims ∧ claims.issuedAt.1 ≤ now ∧ now < claims.expiresAt.1)
  /-- What is accepted has the form, the signature and claims that are valid. -/
  accepted : ∀ token signingKey now claims,
    verifyDataPlaneGrant settings.hmac token signingKey now =
      .ok (some claims) →
    ∃ payload, token = tokenPrefix ++ "." ++ payload ++ "." ++
        String.ofList (Base64Url.encode (settings.hmac.digest
          (utf8Bytes signingKey) (utf8Bytes (tokenPrefix ++ "." ++ payload)))) ∧
      ∃ parsed, JsonText.parse (utf8Text (Base64Url.decode payload.toList)) =
          some parsed ∧
        validateDataPlaneGrantClaims parsed = .ok claims
  /-- A token is accepted under one key. -/
  keyed : settings.hmac.Injective →
    ∀ token signingKey otherKey now later claims others,
      verifyDataPlaneGrant settings.hmac token signingKey now =
        .ok (some claims) →
      verifyDataPlaneGrant settings.hmac token otherKey later =
        .ok (some others) →
      signingKey = otherKey
  /-- The protocols carry the token through the header. -/
  carried : ∀ value signingKey token separator,
    signDataPlaneGrant settings.hmac value signingKey = .ok token →
    Separator separator →
    ∃ protocols, createDataPlaneProtocols token = .ok protocols ∧
      parseDataPlaneProtocols (separator.intercalate protocols) =
        some ⟨.v1, token⟩
  /-- An issued token opens the relay exactly for its role, within its time,
  while the session has the allocation that it had; its time ends with the
  lease at the latest. -/
  authorized : ∀ store later sessionId requester nonce now issued sequence,
    CommittedThen text store later →
    (Service.issueDataPlaneGrant database settings sessionId requester nonce
      now).Runs store sequence (.ok issued) store sequence →
    ∃ row expires, store.sessions.find? sessionId = some row ∧
      row.isOccupying ∧ row.leaseExpiresAt = some expires ∧
      issued.expiresAt ≤ expires ∧
      (∀ role time start, (∃ authorization,
          (Service.authorizeDataPlaneGrant database settings issued.token role
            time time).Runs later start (.ok (some authorization)) later
              start) ↔
        role = requester.role ∧ now ≤ time ∧ time < issued.expiresAt ∧
          ∃ current, later.sessions.find? sessionId = some current ∧
            current.isOccupying ∧
            current.assignedWorkerId = row.assignedWorkerId ∧
            current.leaseId = row.leaseId ∧
            (Database.mapSession current).leaseCurrent time) ∧
      (later.LeasesDistinct sessionId →
        ∀ call ∈ later.sessionCallsSince store sessionId, call.revokes →
        ∀ role time start authorization,
          ¬(Service.authorizeDataPlaneGrant database settings issued.token role
            time time).Runs later start (.ok (some authorization)) later start)

theorem grants_sound {text : Collation} {database : Persistence}
    (engine : Engine text database) (settings : Service.GrantSettings) :
    GrantsSound text database settings where
  signs value claims signingKey validated long fits :=
    ⟨_, sign_ok_iff.mpr ⟨claims, validated, long, rfl, fits⟩⟩
  yields value claims signingKey token now read validated signed := by
    obtain ⟨signedClaims, same, long, rfl, fits⟩ := sign_ok_iff.mp signed
    rw [validated] at same
    cases same
    exact verify_tokenOf long fits
  accepted token signingKey now claims accepted := by
    obtain ⟨payload, form, _, read, _⟩ := verify_some accepted
    obtain ⟨parsed, decoded, validated⟩ := Option.bind_eq_some_iff.mp read
    refine ⟨payload, form, parsed, decoded, ?_⟩
    cases result : validateDataPlaneGrantClaims parsed with
    | error message =>
        rw [result] at validated
        cases validated
    | ok others =>
        rw [result] at validated
        cases validated
        rfl
  keyed injective token signingKey otherKey now later claims others first
      second :=
    token_keyed injective first second
  carried value signingKey token separator signed joined := by
    obtain ⟨claims, _, _, rfl, fits⟩ := sign_ok_iff.mp signed
    have created := create_tokenOf fits
    exact ⟨_, created, parse_create created joined⟩
  authorized store later sessionId requester nonce now issued sequence run
      issuing := by
    obtain ⟨row, claims, issued⟩ := Service.issued_of_runs engine issuing
    obtain ⟨expires, expiry, bounded, _⟩ := issued.withinLease
    refine ⟨row, expires, issued.found, issued.occupying, expiry, bounded,
      fun role time start => issued.authorized_iff engine, ?_⟩
    intro distinct call since revokes role time start authorization opened
    rw [← issued.session] at distinct since
    have found := issued.found
    rw [← issued.session] at found
    have lost := allocation_lost run found issued.occupying issued.lease
      distinct since revokes time
    rw [issued.token] at opened
    obtain ⟨_, answered, _⟩ := (Service.authorizeDataPlaneGrant_runs engine
      issued.keyed (issued.token ▸ issued.sized)).mp opened
    have some := congrArg Option.isSome answered
    have allocated := (Service.authorization?_isSome_iff.mp some.symm).2
    exact lost allocated

/-! ## Small cases -/

/-- A keyed hash that writes down key and text. -/
def sampleHmac : Hmac where
  digest key text := key.flatMap (fun byte => [1, byte]) ++ 0 :: text
  digest_ne_nil key text := by simp

def sampleClaims : Claims where
  role := .client
  sessionId := ⟨"session_1", by decide⟩
  workerId := ⟨"worker_1", by decide⟩
  leaseId := ⟨"lease_1", by decide⟩
  issuedAt := ⟨1000, by decide⟩
  expiresAt := ⟨2000, by decide⟩
  nonce := ⟨"grant_1", by decide⟩
  ordered := by decide
  bounded := by decide

def sampleGrantSettings : Service.GrantSettings where
  hmac := sampleHmac
  dataPlaneSigningKey := "a signing key with thirty-two bytes"
  dataPlaneGrantTtlMs := 15000

theorem sampleKey_long :
    32 ≤ byteLength "a signing key with thirty-two bytes" := by
  decide +kernel

theorem byteLength_encode (bytes : List UInt8) :
    3 * byteLength (String.ofList (Base64Url.encode bytes)) ≤
      4 * bytes.length + 2 := by
  rw [byteLength_ofList_ascii fun c member => Base64Url.encode_ascii member]
  exact Base64Url.length_encode_le bytes

theorem byteLength_payloadOf (claims : Claims) :
    3 * byteLength (payloadOf claims) ≤
      4 * byteLength (JsonText.stringify claims.fields) + 2 :=
  byteLength_encode _

theorem byteLength_signature (hmac : Hmac) (key : List UInt8)
    (payload : String) :
    3 * byteLength (signature hmac key payload) ≤
      4 * (hmac.digest key (utf8Bytes (signedText payload))).length + 2 :=
  byteLength_encode _

theorem sampleFields_short :
    byteLength (JsonText.stringify sampleClaims.fields) ≤ 300 := by
  simp only [byteLength, utf8Bytes, JsonText.stringify, String.toList_ofList]
  decide +kernel

theorem length_sampleHmac (key text : List UInt8) :
    (sampleHmac.digest key text).length = 2 * key.length + 1 + text.length := by
  simp [sampleHmac, List.length_flatMap]
  omega

/-- The token of a short key and short claims is short. -/
theorem byteLength_tokenOf (key : List UInt8) (claims : Claims)
    (short : key.length ≤ 100)
    (fields : byteLength (JsonText.stringify claims.fields) ≤ 300) :
    byteLength (tokenOf sampleHmac key claims) ≤ grantMaxTokenBytes := by
  have payload := byteLength_payloadOf claims
  have signed := byteLength_signature sampleHmac key (payloadOf claims)
  have dot : byteLength "." = 1 := by decide
  have start : byteLength tokenPrefix = 4 := by decide
  have text : byteLength (signedText (payloadOf claims)) =
      5 + byteLength (payloadOf claims) := by
    rw [signedText, byteLength_append, byteLength_append, start, dot]
  rw [length_sampleHmac, show (utf8Bytes _).length = byteLength _ from rfl,
    text] at signed
  rw [tokenOf, byteLength_append, byteLength_append, dot, text]
  unfold grantMaxTokenBytes
  omega

theorem sampleToken_fits : byteLength (tokenOf sampleHmac
    (utf8Bytes "a signing key with thirty-two bytes") sampleClaims) ≤
      grantMaxTokenBytes := by
  have key : (utf8Bytes "a signing key with thirty-two bytes").length ≤ 100 := by
    decide +kernel
  exact byteLength_tokenOf _ _ key sampleFields_short

theorem grants_sound_sample :
    ∃ token, signDataPlaneGrant sampleHmac sampleClaims.json
        "a signing key with thirty-two bytes" = .ok token ∧
      verifyDataPlaneGrant sampleHmac token
        "a signing key with thirty-two bytes" 1500 = .ok (some sampleClaims) ∧
      verifyDataPlaneGrant sampleHmac token
        "a signing key with thirty-two bytes" 2000 ≠ .ok (some sampleClaims) := by
  have sound := grants_sound .onSqlite sampleGrantSettings
  have validated := validate_json sampleClaims
  have signs : ∃ token, signDataPlaneGrant sampleHmac sampleClaims.json
      "a signing key with thirty-two bytes" = .ok token :=
    sound.signs _ sampleClaims _ validated sampleKey_long sampleToken_fits
  obtain ⟨token, signed⟩ := signs
  have yields := fun now =>
    sound.yields _ sampleClaims _ token now sampleClaims validated signed
  have issued : sampleClaims.issuedAt.1 = 1000 := rfl
  have expires : sampleClaims.expiresAt.1 = 2000 := rfl
  rw [issued, expires] at yields
  have early := (yields 1500).mpr ⟨rfl, by omega, by omega⟩
  refine ⟨token, signed, early, ?_⟩
  intro late
  have running := (yields 2000).mp late
  omega

theorem length_le_byteLength (text : String) : text.length ≤ byteLength text :=
  (Nat.le_add_right _ _).trans (utf16Length_le_byteLength text)

/-- A control character over and over, which JSON escapes in six characters. -/
def controls (n : Nat) : String :=
  String.ofList (List.replicate n '\x01')

theorem controls_bounded {n : Nat} (positive : 0 < n) :
    controls n ≠ "" ∧ utf16Length (controls n) ≤ n := by
  constructor
  · intro empty
    have chars := congrArg String.length empty
    simp [controls] at chars
    omega
  · simp [controls, utf16Length, List.countP_replicate]

theorem quote_controls (n : Nat) :
    (JsonText.quote (controls n)).length = 6 * n + 2 := by
  have six : (JsonText.escape '\x01').length = 6 := by decide
  simp [JsonText.quote, controls, List.length_flatMap, six]
  omega

def escapedId : BoundedString 200 :=
  ⟨controls 200, controls_bounded (by decide)⟩

/-- Valid claims whose token would be too long. -/
def escapedClaims : Claims :=
  { sampleClaims with
    sessionId := escapedId
    workerId := escapedId
    leaseId := escapedId }

/-- Fields of which three values are long. -/
theorem fieldsText_long (claims : Claims) {n : Nat}
    (session : n ≤ (JsonText.quote claims.sessionId.1).length)
    (worker : n ≤ (JsonText.quote claims.workerId.1).length)
    (lease : n ≤ (JsonText.quote claims.leaseId.1).length) :
    3 * n ≤ (JsonText.fieldsText claims.fields).length := by
  simp only [Claims.fields, JsonText.fieldsText, JsonText.Scalar.chars,
    List.length_append, List.length_cons]
  omega

theorem token_long (hmac : Hmac) (key : List UInt8) (claims : Claims) :
    4 * (JsonText.fieldsText claims.fields).length <
      3 * byteLength (tokenOf hmac key claims) := by
  have json : (JsonText.fieldsText claims.fields).length <
      byteLength (JsonText.stringify claims.fields) := by
    refine lt_of_lt_of_le ?_ (length_le_byteLength _)
    simp only [JsonText.stringify, String.length_ofList, List.length_cons,
      List.length_append]
    omega
  have payload : (payloadOf claims).length ≤
      byteLength (tokenOf hmac key claims) := by
    refine le_trans ?_ (length_le_byteLength _)
    simp only [tokenOf, signedText, String.length_append]
    omega
  have letters := Base64Url.length_encode_ge
    (utf8Bytes (JsonText.stringify claims.fields))
  simp only [payloadOf, String.length_ofList] at payload
  unfold byteLength at json
  omega

theorem escapedToken_long (hmac : Hmac) (key : List UInt8) :
    grantMaxTokenBytes < byteLength (tokenOf hmac key escapedClaims) := by
  have quoted : 1202 ≤ (JsonText.quote (controls 200)).length :=
    (quote_controls 200).ge
  have fields := fieldsText_long escapedClaims quoted quoted quoted
  have token := token_long hmac key escapedClaims
  generalize (JsonText.fieldsText escapedClaims.fields).length = length at *
  unfold grantMaxTokenBytes
  omega

/-- No token comes of these claims, valid as they are, at a time that they
cover, with a key that is long enough. -/
theorem oversized_refused :
    validateDataPlaneGrantClaims escapedClaims.json = .ok escapedClaims ∧
      32 ≤ byteLength "a signing key with thirty-two bytes" ∧
      escapedClaims.issuedAt.1 ≤ 1500 ∧ 1500 < escapedClaims.expiresAt.1 ∧
      (signDataPlaneGrant sampleHmac escapedClaims.json
          "a signing key with thirty-two bytes" >>= fun token =>
        verifyDataPlaneGrant sampleHmac token
          "a signing key with thirty-two bytes" 1500) ≠
        .ok (some escapedClaims) := by
  refine ⟨validate_json _, sampleKey_long, Nat.le_add_right 1000 500,
    Nat.lt_add_of_pos_right (show 0 < 500 by decide), ?_⟩
  intro yielded
  obtain ⟨token, signed, _⟩ := ok_of_bind yielded
  obtain ⟨claims, validated, _, rfl, fits⟩ := sign_ok_iff.mp signed
  rw [validate_json] at validated
  cases validated
  have long := escapedToken_long sampleHmac
    (utf8Bytes "a signing key with thirty-two bytes")
  omega

end GpuLink
