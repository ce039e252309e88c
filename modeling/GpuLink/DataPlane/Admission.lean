import GpuLink.ControlPlane.LeaseDiscovery
import GpuLink.DataPlane.Contract

/-!
# Admission to the data plane

The service issues a grant for the allocation that a session has, and later
authorizes it against the allocation that the session has by then.
-/

namespace GpuLink

open Transactional Sql DataPlane

/-- The lease is a safe integer and later than now. -/
def Session.leaseCurrent (session : Session) (now : Int) : Bool :=
  match session.leaseExpiresAt with
  | some expires => expires.natAbs ≤ JsonText.maxSafeInteger && now < expires
  | none => false

namespace Service

/-- Who asks for a grant; a worker presents its lease. -/
inductive Requester where
  | client
  | worker (lease : LeaseAction)

def Requester.role : Requester → Role
  | client => .client
  | worker _ => .worker

/-- A worker whose lease is another one. -/
def Requester.isStranger (requester : Requester) (workerId leaseId : String) :
    Bool :=
  match requester with
  | client => false
  | worker lease => lease.workerId ≠ workerId || lease.leaseId ≠ leaseId

structure GrantSettings where
  hmac : Hmac
  dataPlaneSigningKey : String
  dataPlaneGrantTtlMs : Int

structure IssuedGrant where
  token : String
  expiresAt : Int
  deriving DecidableEq, Repr

/-- The claims that `issueDataPlaneGrant` signs. -/
def grantClaims (role : Role) (sessionId workerId leaseId : String)
    (issuedAt expiresAt : Int) (nonce : String) : Json :=
  .object
    [("schemaVersion", .number grantSchemaVersion),
      ("audience", .string grantAudience), ("role", .string role.text),
      ("sessionId", .string sessionId), ("workerId", .string workerId),
      ("leaseId", .string leaseId), ("issuedAt", .number issuedAt),
      ("expiresAt", .number expiresAt), ("nonce", .string nonce)]

def issueDataPlaneGrant (database : Persistence) (settings : GrantSettings)
    (sessionId : String) (requester : Requester) (nonce : String) (now : Int) :
    Tx IssuedGrant := do
  let session ← database.getSession sessionId
  match session with
  | none => throw (.notFound "session not found")
  | some session =>
      if ¬session.isHeld then
        throw (.conflict "session does not own an active allocation")
      else
        match session.assignedWorkerId, session.leaseId,
          session.leaseExpiresAt with
        | some workerId, some leaseId, some leaseExpiresAt =>
            if workerId = "" ∨ leaseId = "" ∨ ¬session.leaseCurrent now then
              throw (.conflict "session lease is not currently valid")
            else if requester.isStranger workerId leaseId then
              throw (.conflict "session lease is not valid for this worker")
            else if settings.dataPlaneGrantTtlMs ≤ 0 ∨
                settings.dataPlaneGrantTtlMs > JsonText.maxSafeInteger then
              throw .typeError
            else
              let expiresAt :=
                min (now + settings.dataPlaneGrantTtlMs) leaseExpiresAt
              if expiresAt ≤ now then
                throw (.conflict "session lease is not currently valid")
              else
                match signDataPlaneGrant settings.hmac
                  (grantClaims requester.role session.id workerId leaseId now
                    expiresAt nonce) settings.dataPlaneSigningKey with
                | .ok token => pure ⟨token, expiresAt⟩
                | .error _ => throw .typeError
        | _, _, _ => throw (.conflict "session lease is not currently valid")

structure Authorization where
  claims : Claims
  session : Session

def authorizeDataPlaneAllocation (database : Persistence) (claims : Json)
    (expectedRole : Role) (now : Int) : Tx (Option Authorization) :=
  match validateDataPlaneGrantClaims claims with
  | .error _ => pure none
  | .ok claims =>
      if claims.role ≠ expectedRole then pure none
      else do
        let session ← database.getSession claims.sessionId.1
        match session with
        | none => pure none
        | some session =>
            if session.isHeld ∧
                session.assignedWorkerId = some claims.workerId.1 ∧
                session.leaseId = some claims.leaseId.1 ∧
                session.leaseCurrent now then
              pure (some ⟨claims, session⟩)
            else pure none

/-- The clock is read for the token, and again for the lease. -/
def authorizeDataPlaneGrant (database : Persistence) (settings : GrantSettings)
    (token : String) (expectedRole : Role) (verifiedAt now : Int) :
    Tx (Option Authorization) :=
  match verifyDataPlaneGrant settings.hmac token settings.dataPlaneSigningKey
    verifiedAt with
  | .error _ => throw .typeError
  | .ok none => pure none
  | .ok (some claims) =>
      authorizeDataPlaneAllocation database claims.json expectedRole now

theorem runs_getSession {text : Collation} {database : Persistence}
    (engine : Engine text database) {sessionId : String} {store final : Store}
    {sequence last : Nat} {session : Option Session}
    (run : (database.getSession sessionId).Runs store sequence (.ok session)
      final last) :
    session = (store.sessions.find? sessionId).map Database.mapSession ∧
      final = store ∧ last = sequence := by
  have run : (Database.getSession sessionId).Runs store sequence (.ok session)
      final last := by
    cases engine <;> exact run
  obtain ⟨row, middle, between, selected, mapped⟩ := Program.Runs.of_bind run
  obtain ⟨_, rfl, rfl, rfl⟩ := runs_select selected
  cases mapped
  exact ⟨rfl, rfl, rfl⟩

theorem getSession_runs {text : Collation} {database : Persistence}
    (engine : Engine text database) (sessionId : String) (store : Store)
    (sequence : Nat) :
    (database.getSession sessionId).Runs store sequence
      (.ok ((store.sessions.find? sessionId).map Database.mapSession)) store
        sequence := by
  have run : (Database.getSession sessionId).Runs store sequence
      (.ok ((store.sessions.find? sessionId).map Database.mapSession)) store
        sequence :=
    Program.Runs.bind (Program.Runs.statement Scan.stored rfl) (.done _ _ _)
  cases engine <;> exact run

/-! ## Issued grants -/

/-- A grant that was issued at this store, from this row. -/
structure Issued (settings : GrantSettings) (store : Store) (sessionId : String)
    (requester : Requester) (now : Int) (issued : IssuedGrant)
    (row : SessionRow) (claims : Claims) : Prop where
  found : store.sessions.find? sessionId = some row
  occupying : row.isOccupying
  token : issued.token = tokenOf settings.hmac
    (utf8Bytes settings.dataPlaneSigningKey) claims
  keyed : 32 ≤ byteLength settings.dataPlaneSigningKey
  sized : byteLength issued.token ≤ grantMaxTokenBytes
  role : claims.role = requester.role
  session : claims.sessionId.1 = sessionId
  worker : row.assignedWorkerId = some claims.workerId.1
  lease : row.leaseId = some claims.leaseId.1
  issuedAt : (claims.issuedAt.1 : Int) = now
  expiresAt : (claims.expiresAt.1 : Int) = issued.expiresAt
  withinLease : ∃ expires, row.leaseExpiresAt = some expires ∧
    issued.expiresAt ≤ expires ∧ now < expires

theorem claims_of_sign {settings : GrantSettings} {role : Role}
    {sessionId workerId leaseId nonce token : String} {issuedAt expiresAt : Int}
    (signed : signDataPlaneGrant settings.hmac
      (grantClaims role sessionId workerId leaseId issuedAt expiresAt nonce)
      settings.dataPlaneSigningKey = .ok token) :
    ∃ claims : Claims, claims.role = role ∧ claims.sessionId.1 = sessionId ∧
      claims.workerId.1 = workerId ∧ claims.leaseId.1 = leaseId ∧
      (claims.issuedAt.1 : Int) = issuedAt ∧
      (claims.expiresAt.1 : Int) = expiresAt ∧
      32 ≤ byteLength settings.dataPlaneSigningKey ∧
      token = tokenOf settings.hmac (utf8Bytes settings.dataPlaneSigningKey)
        claims ∧
      byteLength token ≤ grantMaxTokenBytes := by
  obtain ⟨claims, validated, keyed, rfl, sized⟩ := sign_ok_iff.mp signed
  have read := readFrom_of_validate validated
  have sameRole : readRole (some (.string role.text)) = .ok claims.role :=
    read.role
  rw [readRole_text] at sameRole
  refine ⟨claims, (Except.ok.inj sameRole).symm,
    text_of_boundedString read.sessionId, text_of_boundedString read.workerId,
    text_of_boundedString read.leaseId, ?_, ?_, keyed, rfl, sized⟩
  · have number : (issuedAt : Rat) = (claims.issuedAt.1 : Rat) :=
      number_of_timestamp read.issuedAt
    exact_mod_cast number.symm
  · have number : (expiresAt : Rat) = (claims.expiresAt.1 : Rat) :=
      number_of_timestamp read.expiresAt
    exact_mod_cast number.symm

theorem issued_of_runs {text : Collation} {database : Persistence}
    (engine : Engine text database) {settings : GrantSettings}
    {sessionId nonce : String} {requester : Requester} {now : Int}
    {issued : IssuedGrant} {store final : Store} {sequence last : Nat}
    (run : (issueDataPlaneGrant database settings sessionId requester nonce
      now).Runs store sequence (.ok issued) final last) :
    ∃ row claims, Issued settings store sessionId requester now issued row
      claims := by
  obtain ⟨session, middle, between, asked, rest⟩ := Program.Runs.of_bind run
  obtain ⟨rfl, rfl, rfl⟩ := runs_getSession engine asked
  cases found : middle.sessions.find? sessionId with
  | none =>
      simp only [found, Option.map_none] at rest
      cases rest
  | some row =>
      have named : row.id = sessionId := KeyedTable.key_of_find? found
      simp only [found, Option.map_some] at rest
      split at rest
      · cases rest
      · next held =>
          rw [not_not] at held
          split at rest
          · next workerId leaseId leaseExpiresAt worker lease expiry =>
              split at rest
              · cases rest
              · next current =>
                  split at rest
                  · cases rest
                  · split at rest
                    · cases rest
                    · split at rest
                      · cases rest
                      · next later =>
                          split at rest
                          · next token signed =>
                              cases rest
                              obtain ⟨claims, role, session, sameWorker,
                                sameLease, issuedAt, expiresAt, keyed, token,
                                sized⟩ := claims_of_sign signed
                              subst sameWorker sameLease
                              exact ⟨row, claims, {
                                found := found
                                occupying := held
                                token := token
                                keyed := keyed
                                sized := sized
                                role := role
                                session := session.trans named
                                worker := worker
                                lease := lease
                                issuedAt := issuedAt
                                expiresAt := expiresAt
                                withinLease := ⟨_, expiry, min_le_right _ _,
                                  by omega⟩ }⟩
                          · cases rest
          · cases rest

/-! ## Authorization -/

/-- The session of the claims has the allocation that they name, and its lease
has not run out. -/
def Allocated (store : Store) (claims : Claims) (now : Int) : Prop :=
  ∃ row, store.sessions.find? claims.sessionId.1 = some row ∧
    row.isOccupying ∧ row.assignedWorkerId = some claims.workerId.1 ∧
    row.leaseId = some claims.leaseId.1 ∧
    (Database.mapSession row).leaseCurrent now

/-- What the authorization of validated claims comes to. -/
def authorization? (store : Store) (claims : Claims) (expectedRole : Role)
    (now : Int) : Option Authorization :=
  if claims.role ≠ expectedRole then none
  else
    match (store.sessions.find? claims.sessionId.1).map Database.mapSession with
    | none => none
    | some session =>
        if session.isHeld ∧ session.assignedWorkerId = some claims.workerId.1 ∧
            session.leaseId = some claims.leaseId.1 ∧
            session.leaseCurrent now then
          some ⟨claims, session⟩
        else none

theorem authorization?_isSome_iff {store : Store} {claims : Claims}
    {expectedRole : Role} {now : Int} :
    (authorization? store claims expectedRole now).isSome ↔
      claims.role = expectedRole ∧ Allocated store claims now := by
  unfold authorization? Allocated
  by_cases role : claims.role = expectedRole
  · rw [if_neg (not_not.mpr role)]
    cases found : store.sessions.find? claims.sessionId.1 with
    | none => simp
    | some row =>
        simp only [Option.map_some, role, true_and, Option.some.injEq]
        split
        · next current =>
            simp only [Option.isSome_some, true_iff]
            exact ⟨row, rfl, current⟩
        · next stale =>
            simp only [Option.isSome_none, Bool.false_eq_true, false_iff]
            rintro ⟨_, rfl, current⟩
            exact stale current
  · simp [role]

theorem authorizeDataPlaneAllocation_runs {text : Collation}
    {database : Persistence} (engine : Engine text database) {claims : Claims}
    {expectedRole : Role} {now : Int} {store final : Store}
    {sequence last : Nat} {answer : Option Authorization} :
    (authorizeDataPlaneAllocation database claims.json expectedRole now).Runs
      store sequence (.ok answer) final last ↔
        answer = authorization? store claims expectedRole now ∧
          final = store ∧ last = sequence := by
  unfold authorizeDataPlaneAllocation authorization?
  simp only [validate_json]
  by_cases role : claims.role ≠ expectedRole
  · rw [if_pos role, if_pos role]
    constructor
    · intro run
      cases run
      exact ⟨rfl, rfl, rfl⟩
    · rintro ⟨rfl, rfl, rfl⟩
      exact .done _ _ _
  · rw [if_neg role, if_neg role]
    constructor
    · intro run
      obtain ⟨session, middle, between, asked, rest⟩ := Program.Runs.of_bind run
      obtain ⟨rfl, rfl, rfl⟩ := runs_getSession engine asked
      generalize (middle.sessions.find? claims.sessionId.1).map
        Database.mapSession = session at rest
      cases session with
      | none =>
          cases rest
          exact ⟨rfl, rfl, rfl⟩
      | some session =>
          dsimp only at rest ⊢
          split at rest
          · next current =>
              cases rest
              rw [if_pos current]
              exact ⟨rfl, rfl, rfl⟩
          · next stale =>
              cases rest
              rw [if_neg stale]
              exact ⟨rfl, rfl, rfl⟩
    · rintro ⟨rfl, rfl, rfl⟩
      refine Program.Runs.bind (getSession_runs engine _ _ _) ?_
      generalize (final.sessions.find? claims.sessionId.1).map
        Database.mapSession = session
      cases session with
      | none => exact .done _ _ _
      | some session =>
          dsimp only
          split <;> exact .done _ _ _

/-- A token that was issued is authorized for its role, within its time, as
long as the allocation lasts. -/
theorem authorizeDataPlaneGrant_runs {text : Collation}
    {database : Persistence} (engine : Engine text database)
    {settings : GrantSettings} {claims : Claims} {expectedRole : Role}
    {verifiedAt now : Int} {store final : Store} {sequence last : Nat}
    {authorization : Authorization}
    (keyed : 32 ≤ byteLength settings.dataPlaneSigningKey)
    (sized : byteLength (tokenOf settings.hmac
      (utf8Bytes settings.dataPlaneSigningKey) claims) ≤ grantMaxTokenBytes) :
    (authorizeDataPlaneGrant database settings (tokenOf settings.hmac
      (utf8Bytes settings.dataPlaneSigningKey) claims) expectedRole verifiedAt
        now).Runs store sequence (.ok (some authorization)) final last ↔
      (claims.issuedAt.1 ≤ verifiedAt ∧ verifiedAt < claims.expiresAt.1) ∧
        some authorization = authorization? store claims expectedRole now ∧
          final = store ∧ last = sequence := by
  have verified := fun read =>
    @verify_tokenOf settings.hmac _ claims keyed sized verifiedAt read
  unfold authorizeDataPlaneGrant
  constructor
  · intro run
    split at run
    · cases run
    · cases run
    · next read accepted =>
        obtain ⟨rfl, window⟩ := (verified read).mp accepted
        exact ⟨window, (authorizeDataPlaneAllocation_runs engine).mp run⟩
  · rintro ⟨window, answered⟩
    rw [(verified claims).mpr ⟨rfl, window⟩]
    exact (authorizeDataPlaneAllocation_runs engine).mpr answered

end Service

end GpuLink
