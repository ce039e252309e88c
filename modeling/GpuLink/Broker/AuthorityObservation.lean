import GpuLink.Broker.AuthorityBridge

/-!
# Observations of the authority

The bridge may ask the control plane whether an attempt still holds its fence.
The journal says which lease the question is about, and no answer changes it.
-/

namespace GpuLink

namespace AuthorityBridge

inductive Disposition where
  | held
  | unconfirmed
  | notFound
  deriving DecidableEq, Repr

def Disposition.text : Disposition → String
  | .held => "held"
  | .unconfirmed => "unconfirmed"
  | .notFound => "not_found"

def Disposition.ofText? (text : String) : Option Disposition :=
  [.held, .unconfirmed, .notFound].find? (fun known => known.text = text)

/-- What an answer says: the epoch is missing exactly if nothing was found. -/
structure Observed where
  disposition : Disposition
  fenceEpoch : Option Nat
  consistent : disposition = .notFound ↔ fenceEpoch = none
  positive : ∀ epoch ∈ fenceEpoch, 0 < epoch ∧ epoch ≤ maxSafeInteger

/-- `fenceEpoch` of an answer: null, or positive and safe. -/
def epochField? (value : Json) (name : String) : Option (Option Nat) :=
  match value.field? name with
  | some .null => some none
  | _ => (integerField? value name).bind (fun epoch =>
      if 0 < epoch ∧ epoch ≤ maxSafeInteger then some (some epoch.toNat)
      else none)

theorem epochField?_positive {value : Json} {name : String}
    {fenceEpoch : Option Nat}
    (read : epochField? value name = some fenceEpoch) :
    ∀ epoch ∈ fenceEpoch, 0 < epoch ∧ epoch ≤ maxSafeInteger := by
  intro epoch given
  unfold epochField? at read
  split at read
  · cases read
    cases given
  · obtain ⟨number, found, kept⟩ := Option.bind_eq_some_iff.mp read
    split at kept
    · next bounds =>
        cases kept
        cases given
        omega
    · cases kept

def observedFields : List String :=
  ["schemaVersion", "attemptId", "disposition", "fenceEpoch", "canLaunch",
    "canRelease", "evidenceVerified"]

/-- The checks of `_observe_cp` on the answer. -/
def acceptObserved (attemptId : String) (value : Json) : Option Observed :=
  match integerField? value "schemaVersion", textField? value "attemptId",
    (textField? value "disposition").bind Disposition.ofText?,
    flagField? value "canLaunch", flagField? value "canRelease",
    flagField? value "evidenceVerified" with
  | some schemaVersion, some answered, some disposition, some canLaunch,
    some canRelease, some evidenceVerified =>
      if schemaVersion = 1 ∧ answered = attemptId ∧ canLaunch = false ∧
          canRelease = false ∧ evidenceVerified = false then
        match read : epochField? value "fenceEpoch" with
        | none => none
        | some fenceEpoch =>
            if consistent : disposition = .notFound ↔ fenceEpoch = none then
              some ⟨disposition, fenceEpoch, consistent,
                epochField?_positive read⟩
            else none
      else none
  | _, _, _, _, _, _ => none

/-- The answer to the POST of `_observe_cp`. -/
def acceptObserve (attemptId : String) (response : HttpResponse) :
    Option Observed :=
  if response.status ≠ 200 ∨ response.length > maxRemoteBody then none
  else
    match response.body with
    | none => none
    | some document =>
        if document.hasFields ["result"] then
          match document.field? "result" with
          | some value =>
              if value.hasFields observedFields then
                acceptObserved attemptId value
              else none
          | none => none
        else none

/-- The one field of a request about an attempt. -/
def readAttempt (request : Json) : Except String String :=
  if request.hasFields ["attemptId"] then
    match request.idField? "attemptId" with
    | some attemptId => .ok attemptId
    | none => .error "broker_invalid_message"
  else .error "broker_invalid_message"

/-- The columns of `remote_claims` that say what a local record belongs to. -/
structure LocalClaim where
  leaseId : String
  workerId : String
  fenceEpoch : Option Nat
  status : ClaimStatus
  deriving DecidableEq, Repr

def RemoteClaim.localClaim (row : RemoteClaim) : LocalClaim where
  leaseId := row.leaseId
  workerId := row.workerId
  fenceEpoch := row.fenceEpoch
  status := row.status

/-- `_claim` -/
def Journal.claim? (journal : Journal) (attemptId : String) :
    Option LocalClaim :=
  (journal.find? attemptId).map RemoteClaim.localClaim

/-- The peer is the bridge's worker, and the attempt is one of its own. -/
def authorized (config : Config) (journal : Journal) (peerUid : Nat)
    (attemptId : String) : Except String LocalClaim := do
  let workerId ← principal config peerUid
  if workerId ≠ config.workerId then throw "broker_unauthorized_peer"
  match journal.claim? attemptId with
  | none => throw "broker_attempt_unknown"
  | some claim =>
      if claim.workerId ≠ config.workerId then throw "broker_attempt_unknown"
      else return claim

/-- `observe`; `none` is a connection that failed. -/
def observe (config : Config) (journal : Journal) (peerUid : Nat)
    (request : Json) (response : Option HttpResponse) :
    Except String (String × Observed) := do
  let attemptId ← readAttempt request
  let claim ← authorized config journal peerUid attemptId
  match response.bind (acceptObserve attemptId) with
  | none => throw "broker_authority_uncertain"
  | some observed =>
      if claim.fenceEpoch ≠ none ∧ observed.fenceEpoch ≠ claim.fenceEpoch then
        throw "broker_authority_uncertain"
      else return (attemptId, observed)

theorem readAttempt_id {request : Json} {attemptId : String}
    (read : readAttempt request = .ok attemptId) : isBrokerId attemptId := by
  unfold readAttempt at read
  split at read
  · split at read
    · next found =>
        cases read
        exact idField?_eq found
    · cases read
  · cases read

theorem authorized_claim {config : Config} {journal : Journal} {peerUid : Nat}
    {attemptId : String} {claim : LocalClaim}
    (granted : authorized config journal peerUid attemptId = .ok claim) :
    journal.claim? attemptId = some claim ∧
      claim.workerId = config.workerId := by
  unfold authorized at granted
  cases known : principal config peerUid with
  | error code =>
      rw [known] at granted
      cases granted
  | ok workerId =>
      rw [known] at granted
      change (if workerId ≠ config.workerId then _ else _) = _ at granted
      split at granted
      · cases granted
      · change (match journal.claim? attemptId with
          | none => _ | some claim => _) = _ at granted
        split at granted
        · cases granted
        · next found =>
            split at granted
            · cases granted
            · next own =>
                cases granted
                exact ⟨found, not_not.mp own⟩

end AuthorityBridge

end GpuLink
