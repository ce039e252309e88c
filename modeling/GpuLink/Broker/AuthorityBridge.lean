import GpuLink.ControlPlane.BrokerClaim

/-!
# The broker's authority bridge

The bridge asks the control plane for a reservation on behalf of a local peer.
Its journal has a row for an attempt before anything is sent, and an answer
that is lost leaves the row as it is: nothing is sent twice.
-/

namespace GpuLink

namespace AuthorityBridge

def maxRemoteBody : Nat := 4096

/-- `FIELDS` -/
def peerFields : List String :=
  ["subjectKind", "subjectId", "leaseId", "attemptId"]

/-- The operator's configuration, and the principals of the broker's fixture
as pairs of a user and a worker. -/
structure Config where
  workerId : String
  token : String
  principals : List (Nat × String)

inductive ClaimStatus where
  | pending
  | reserved
  | quarantined
  deriving DecidableEq, Repr

/-- A row of `remote_claims`. -/
structure RemoteClaim where
  attemptId : String
  subjectKind : SubjectKind
  subjectId : String
  leaseId : String
  workerId : String
  status : ClaimStatus
  fenceEpoch : Option Nat
  createdMs : Int
  deriving DecidableEq, Repr

/-- The request that the row was made for. -/
def RemoteClaim.request (row : RemoteClaim) : BrokerRequest where
  subjectKind := row.subjectKind
  subjectId := row.subjectId
  leaseId := row.leaseId
  attemptId := row.attemptId

abbrev Journal := KeyedTable RemoteClaim.attemptId

/-! ## Requests of peers -/

/-- `_valid_request` -/
def validRequest (payload : Json) : Except String BrokerRequest :=
  if payload.hasFields peerFields then
    match payload.subjectKind?, payload.idField? "subjectId",
      payload.idField? "leaseId", payload.idField? "attemptId" with
    | some subjectKind, some subjectId, some leaseId, some attemptId =>
        .ok ⟨subjectKind, subjectId, leaseId, attemptId⟩
    | _, _, _, _ => .error "broker_invalid_message"
  else .error "broker_invalid_message"

/-- The worker of the one principal that is this user. -/
def principal (config : Config) (peerUid : Nat) : Except String String :=
  match config.principals.filter (fun entry => entry.1 = peerUid) with
  | [entry] => .ok entry.2
  | _ => .error "broker_unauthorized_peer"

/-! ## The journal -/

def RemoteClaim.quarantine (row : RemoteClaim) : RemoteClaim :=
  if row.status = .pending ∨ row.status = .reserved then
    { row with status := .quarantined }
  else row

@[simp] theorem attemptId_quarantine (row : RemoteClaim) :
    row.quarantine.attemptId = row.attemptId := by
  unfold RemoteClaim.quarantine
  split <;> rfl

/-- At every start: whatever was not quarantined yet. -/
def Journal.quarantine (journal : Journal) : Journal where
  rows := journal.rows.map RemoteClaim.quarantine
  distinct := by
    have same : RemoteClaim.attemptId ∘ RemoteClaim.quarantine =
        RemoteClaim.attemptId := funext attemptId_quarantine
    rw [List.map_map, same]
    exact journal.distinct

/-- The insertion that comes before the call; `none` when the attempt has a row
already. -/
def Journal.insertPending (journal : Journal) (request : BrokerRequest)
    (workerId : String) (createdMs : Int) : Option Journal :=
  match journal.find? request.attemptId with
  | some _ => none
  | none => some (journal.put
      { attemptId := request.attemptId
        subjectKind := request.subjectKind
        subjectId := request.subjectId
        leaseId := request.leaseId
        workerId := workerId
        status := .pending
        fenceEpoch := none
        createdMs := createdMs })

/-- The update that comes after it; `none` when it does not hit a row. -/
def Journal.acknowledge (journal : Journal) (attemptId : String)
    (fenceEpoch : Nat) : Option Journal :=
  match journal.find? attemptId with
  | some row =>
      if row.status = .pending then
        some (journal.put
          { row with status := .reserved, fenceEpoch := some fenceEpoch })
      else none
  | none => none

/-- `reserve`, up to the call of the control plane. -/
def beginReserve (config : Config) (journal : Journal) (peerUid : Nat)
    (payload : Json) (createdMs : Int) :
    Except String (BrokerRequest × Journal) := do
  let request ← validRequest payload
  let workerId ← principal config peerUid
  if workerId ≠ config.workerId then throw "broker_unauthorized_peer"
  match journal.insertPending request config.workerId createdMs with
  | none => throw "broker_attempt_replay"
  | some later => return (request, later)

/-! ## The call of the control plane -/

def subjectKindText : SubjectKind → String
  | .job => "job"
  | .session => "session"

/-- The body of the POST. -/
def reserveBody (request : BrokerRequest) : Json :=
  .object [("schemaVersion", .number 1),
    ("subjectKind", .string (subjectKindText request.subjectKind)),
    ("subjectId", .string request.subjectId),
    ("leaseId", .string request.leaseId),
    ("attemptId", .string request.attemptId)]

/-- What comes back: the status, the length of the body, and its value if it is
JSON without repeated names. -/
structure HttpResponse where
  status : Nat
  length : Nat
  body : Option Json

def integerField? (value : Json) (name : String) : Option Int :=
  match value.field? name with
  | some (.number number) => if number.den = 1 then some number.num else none
  | _ => none

def textField? (value : Json) (name : String) : Option String :=
  match value.field? name with
  | some (.string text) => some text
  | _ => none

def flagField? (value : Json) (name : String) : Option Bool :=
  match value.field? name with
  | some (.bool flag) => some flag
  | _ => none

def resultFields : List String :=
  ["schemaVersion", "attemptId", "fenceEpoch", "status", "canLaunch"]

/-- The checks of `_reserve_cp` on the answer. -/
def acceptResult (request : BrokerRequest) (value : Json) : Option Nat :=
  match integerField? value "schemaVersion", textField? value "attemptId",
    integerField? value "fenceEpoch", textField? value "status",
    flagField? value "canLaunch" with
  | some schemaVersion, some attemptId, some fenceEpoch, some status,
    some canLaunch =>
      if schemaVersion = 1 ∧ attemptId = request.attemptId ∧
          0 < fenceEpoch ∧ fenceEpoch ≤ maxSafeInteger ∧
          status = "reserved-not-launchable" ∧ canLaunch = false then
        some fenceEpoch.toNat
      else none
  | _, _, _, _, _ => none

def acceptReserve (request : BrokerRequest) (response : HttpResponse) :
    Option Nat :=
  if response.status ≠ 201 ∨ response.length > maxRemoteBody then none
  else
    match response.body with
    | none => none
    | some document =>
        if document.hasFields ["result"] then
          match document.field? "result" with
          | some value =>
              if value.hasFields resultFields then acceptResult request value
              else none
          | none => none
        else none

/-- The body that the control plane answers a reservation with. -/
def reservedBody (answer : ReservedAttempt) : Json :=
  .object [("result", .object [("schemaVersion", .number 1),
    ("attemptId", .string answer.attemptId),
    ("fenceEpoch", .number answer.fenceEpoch),
    ("status", .string "reserved-not-launchable"),
    ("canLaunch", .bool false)])]

/-! ## What the functions do -/

theorem idField?_eq {raw : Json} {name text : String}
    (found : raw.idField? name = some text) : isBrokerId text := by
  unfold Json.idField? at found
  split at found
  · split at found
    · next valid =>
        cases found
        exact valid
    · cases found
  · cases found

/-- The identifiers have passed the bridge's check. -/
def Identified (request : BrokerRequest) : Prop :=
  isBrokerId request.subjectId ∧ isBrokerId request.leaseId ∧
    isBrokerId request.attemptId

theorem validRequest_identified {payload : Json} {request : BrokerRequest}
    (valid : validRequest payload = .ok request) : Identified request := by
  unfold validRequest at valid
  split at valid
  · split at valid
    · next subject lease attempt =>
        cases valid
        exact ⟨idField?_eq subject, idField?_eq lease, idField?_eq attempt⟩
    · cases valid
  · cases valid

/-- The control plane reads the request that the bridge has posted. -/
theorem validate_reserveBody {request : BrokerRequest}
    (identified : Identified request) :
    validateBrokerClaimRequest (reserveBody request) = .ok request := by
  obtain ⟨kind, subjectId, leaseId, attemptId⟩ := request
  obtain ⟨subject, lease, attempt⟩ := identified
  have named : (reserveBody ⟨kind, subjectId, leaseId, attemptId⟩).hasFields
      requestFields := by
    simp [reserveBody, requestFields, Json.hasFields]
  cases kind <;>
    simp_all [validateBrokerClaimRequest, reserveBody, Json.field?,
      Json.subjectKind?, Json.idField?, subjectKindText]

/-- The bridge reads the epoch that the control plane has answered. -/
theorem accept_reservedBody {request : BrokerRequest}
    {answer : ReservedAttempt} {length fenceEpoch : Nat}
    (accepted : acceptReserve request
      ⟨201, length, some (reservedBody answer)⟩ = some fenceEpoch) :
    fenceEpoch = answer.fenceEpoch := by
  unfold acceptReserve at accepted
  split at accepted
  · cases accepted
  · simp only [reservedBody, Json.hasFields, Json.field?] at accepted
    simp only [acceptResult, integerField?, textField?, flagField?,
      Json.field?, resultFields] at accepted
    simp at accepted
    exact accepted.2.symm

theorem find?_quarantine (journal : Journal) (attemptId : String) :
    journal.quarantine.find? attemptId =
      (journal.find? attemptId).map RemoteClaim.quarantine := by
  have same : (fun row : RemoteClaim => decide (row.attemptId = attemptId)) ∘
      RemoteClaim.quarantine = fun row => decide (row.attemptId = attemptId) :=
    funext (fun row => by simp)
  rw [KeyedTable.find?, KeyedTable.find?, Journal.quarantine, List.find?_map,
    same]

theorem insertPending_eq {journal later : Journal} {request : BrokerRequest}
    {workerId : String} {createdMs : Int}
    (inserted : journal.insertPending request workerId createdMs =
      some later) :
    journal.find? request.attemptId = none ∧
      ∃ row : RemoteClaim, row.request = request ∧ row.status = .pending ∧
        row.fenceEpoch = none ∧ later = journal.put row := by
  unfold Journal.insertPending at inserted
  split at inserted
  · cases inserted
  · next absent =>
      cases inserted
      exact ⟨absent, _, rfl, rfl, rfl, rfl⟩

theorem acknowledge_eq {journal later : Journal} {attemptId : String}
    {fenceEpoch : Nat}
    (acknowledged : journal.acknowledge attemptId fenceEpoch = some later) :
    ∃ row, journal.find? attemptId = some row ∧ row.status = .pending ∧
      later = journal.put
        { row with status := .reserved, fenceEpoch := some fenceEpoch } := by
  unfold Journal.acknowledge at acknowledged
  split at acknowledged
  · next row found =>
      split at acknowledged
      · next pending =>
          cases acknowledged
          exact ⟨row, found, pending, rfl⟩
      · cases acknowledged
  · cases acknowledged

theorem beginReserve_eq {config : Config} {journal later : Journal}
    {peerUid : Nat} {payload : Json} {createdMs : Int}
    {request : BrokerRequest}
    (begun : beginReserve config journal peerUid payload createdMs =
      .ok (request, later)) :
    validRequest payload = .ok request ∧
      journal.insertPending request config.workerId createdMs = some later := by
  unfold beginReserve at begun
  cases valid : validRequest payload with
  | error code =>
      rw [valid] at begun
      cases begun
  | ok read =>
      rw [valid] at begun
      cases known : principal config peerUid with
      | error code =>
          rw [known] at begun
          cases begun
      | ok workerId =>
          rw [known] at begun
          change (if workerId ≠ config.workerId then _ else _) = _ at begun
          split at begun
          · cases begun
          · change (match journal.insertPending read config.workerId createdMs
              with | none => _ | some later => _) = _ at begun
            split at begun
            · cases begun
            · next inserted =>
                cases begun
                exact ⟨rfl, inserted⟩

end AuthorityBridge

end GpuLink
