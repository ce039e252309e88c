import GpuLink.Broker.HostJournals
import GpuLink.Broker.LaunchIntent
import GpuLink.Library.Machine

/-!
# The broker's ledger

The attempts of the test broker are rows of a table that outlives it.  A claim
inserts a row under the authority of the operator's fixture; no claim is made
twice, and a start quarantines what an earlier broker had reserved.
-/

namespace GpuLink

open LaunchIntent HostJournals

/-! ## Values -/

namespace LaunchIntent.Value

/-- What `==` compares of a number; `True` is one. -/
def numeric? : Value → Option Rat
  | bool true => some 1
  | bool false => some 0
  | int value => some value
  | float value => some value
  | _ => Option.none

mutual

/-- `==` -/
def same : Value → Value → Bool
  | none, none => true
  | str text, str other => text = other
  | list items, list others => sameItems items others
  | dict items, dict others =>
      items.length = others.length && sameFields items others
  | first, second =>
      match numeric? first, numeric? second with
      | some one, some other => one = other
      | _, _ => false

def sameItems : List Value → List Value → Bool
  | [], [] => true
  | item :: items, other :: others => same item other && sameItems items others
  | _, _ => false

def sameFields : List (String × Value) → List (String × Value) → Bool
  | [], _ => true
  | (name, value) :: items, others =>
      (match others.find? (fun item => item.1 = name) with
        | some item => same value item.2
        | Option.none => false) && sameFields items others

end

def isDict : Value → Bool
  | dict _ => true
  | _ => false

def hashable : Value → Bool
  | list _ => false
  | dict _ => false
  | _ => true

/-- `value.get(name) == other` -/
def has (value : Value) (name : String) (other : Value) : Bool :=
  same ((value.get? name).getD none) other

/-- A text among the properties that have been checked. -/
def text (value : Value) (name : String) : String :=
  match value.get? name with
  | some (str text) => text
  | _ => ""

/-- A number among them. -/
def number (value : Value) (name : String) : Int :=
  match value.get? name with
  | some (int value) => value
  | _ => 0

/-- `type(value) is int and value > now` -/
def expiresAfter (value : Value) (now : Int) : Bool :=
  match value.get? "expiresAtMs" with
  | some (int moment) => now < moment
  | _ => false

end LaunchIntent.Value

namespace BrokerLedger

/-! ## The fixture -/

structure Principal where
  uid : Int
  workerId : String
  runtimeIds : List String
  deriving DecidableEq

/-- What `_validate_fixture` lets through. -/
structure Fixture where
  principals : List Principal
  leases : List Value
  reservations : List Value
  approvals : List Value
  runtimes : List Value
  distinct : (principals.map Principal.uid).Nodup

/-- A list of distinct ids. -/
def ids : List Value → Option (List String)
  | [] => some []
  | .str text :: rest =>
      if isBrokerId text then (ids rest).map (text :: ·) else none
  | _ :: _ => none

def readPrincipal (value : Value) : Option Principal :=
  if value.shape ["uid", "workerId", "runtimeIds"] then
    match value.get? "uid", value.get? "workerId", value.get? "runtimeIds" with
    | some (.int uid), some (.str workerId), some (.list items) =>
        match ids items with
        | some runtimeIds =>
            if 0 ≤ uid ∧ isBrokerId workerId ∧ runtimeIds ≠ [] ∧
                runtimeIds.Nodup then
              some ⟨uid, workerId, runtimeIds⟩
            else none
        | none => none
    | _, _, _ => none
  else none

def readList (value : Value) (name : String) : Option (List Value) :=
  match value.get? name with
  | some (.list items) => some items
  | _ => none

/-- `_validate_fixture`; without a fixture the broker does not start. -/
def validateFixture (value : Value) : Option Fixture := do
  if value.shape ["principals", "leases", "reservations", "approvals",
      "runtimes"] then
    let principals ← (← readList value "principals").mapM readPrincipal
    let leases ← readList value "leases"
    let reservations ← readList value "reservations"
    let approvals ← readList value "approvals"
    let runtimes ← readList value "runtimes"
    if distinct : (principals.map Principal.uid).Nodup then
      some ⟨principals, leases, reservations, approvals, runtimes, distinct⟩
    else none
  else none

/-! ## Authority -/

/-- Why an operation has no result. -/
inductive Fault where
  | caught (failure : Failure)
  /-- `AttributeError`, which ends the server. -/
  | uncaught
  deriving DecidableEq

def refuse {α : Type} (code : String) : Except Fault α :=
  .error (.caught (.denied code))

/-- The operation goes on only if this holds. -/
def ensure (holds : Bool) (code : String) : Except Fault Unit :=
  if holds then .ok () else refuse code

/-- `_principal` -/
def principal (fixture : Fixture) (peerUid : Int) : Except Fault Principal :=
  match fixture.principals.filter fun entry => entry.uid = peerUid with
  | [entry] => .ok entry
  | _ => refuse "broker_unauthorized_peer"

/-- `unique_record`; a record that is not a dictionary has no `get`. -/
def uniqueRecord (records : List Value) (predicate : Value → Bool) :
    Except Fault Value :=
  if records.all Value.isDict then
    match records.filter predicate with
    | [record] => .ok record
    | _ => refuse "broker_missing_authority"
  else .error .uncaught

/-- `set(items)` -/
def setOf (items : List Value) : Except Fault (List Value) :=
  if items.all Value.hashable then .ok items else .error (.caught .refused)

/-- `CONTROLS` -/
def requiredControls : List String :=
  ["process", "filesystem", "network", "identity", "resource-limits",
    "gpu-device"]

def covers (items : List Value) : Bool :=
  requiredControls.all fun control =>
    items.any fun item => item.same (.str control)

def leaseOk (lease intent : Value) (owner : Principal) (now : Int) : Bool :=
  lease.has "leaseId" (.str (intent.text "leaseId")) &&
    lease.has "generation" (.int (intent.number "leaseGeneration")) &&
    lease.has "workerId" (.str owner.workerId) &&
    lease.has "status" (.str "active") && lease.expiresAfter now

def reservationOk (reservation intent : Value) (now : Int) : Bool :=
  reservation.has "attemptId" (.str (intent.text "attemptId")) &&
    reservation.has "leaseId" (.str (intent.text "leaseId")) &&
    reservation.has "status" (.str "held") && reservation.expiresAfter now &&
    (match reservation.get? "deviceIds" with
      | some (.list items) =>
          decide (0 < items.length ∧ items.length ≤ 8) &&
            (ids items).any fun deviceIds => decide deviceIds.Nodup
      | _ => false)

/-- `DIGEST` -/
def isDigest (text : String) : Bool :=
  text.toList.take 7 = "sha256:".toList &&
    isSha (String.ofList (text.toList.drop 7))

def approvalOk (approval intent : Value) : Except Fault Bool :=
  if approval.has "artifact" ((intent.get? "artifact").getD .none) &&
      approval.has "runtimeId" (.str (intent.text "runtimeId")) &&
      approval.has "trustClass" (.str "operator-trusted") &&
      isDigest (approval.text "imageDigest") &&
      Value.isId (approval.get? "profileId") then
    match approval.get? "requiredControls" with
    | some (.list items) => do
        let controls ← setOf items
        return controls.all (fun item => requiredControls.any fun control =>
          item.same (.str control)) && covers controls &&
            items.length = requiredControls.length
    | _ => .ok false
  else .ok false

def runtimeOk (runtime intent : Value) : Except Fault Bool :=
  match runtime.get? "available", runtime.get? "supportedIpcVersions",
    runtime.get? "verifiedControls" with
  | some (.bool true), some (.list versions), some (.list items) =>
      if versions.any fun version =>
          version.same (.int (intent.number "requiredIpcVersion")) then do
        let controls ← setOf items
        return covers controls
      else .ok false
  | _, _, _ => .ok false

/-- The adapter that a record's artifact is of. -/
def adapterOf (record : Value) (adapterId : String) : Bool :=
  match record.get? "artifact" with
  | some (.dict items) => (Value.dict items).has "adapterId" (.str adapterId)
  | _ => false

/-- `_check_authority` -/
def checkAuthority (fixture : Fixture) (intent : Value) (owner : Principal)
    (now : Int) : Except Fault Unit := do
  ensure (intent.text "runtimeId" ∈ owner.runtimeIds)
    "broker_unauthorized_peer"
  let lease ← uniqueRecord fixture.leases fun record =>
    record.has "sessionId" (.str (intent.text "sessionId"))
  ensure (leaseOk lease intent owner now) "broker_stale_lease"
  let reservation ← uniqueRecord fixture.reservations fun record =>
    record.has "reservationId" (.str (intent.text "reservationId"))
  ensure (reservationOk reservation intent now) "broker_reservation_mismatch"
  let artifact := (intent.get? "artifact").getD .none
  let approval ← uniqueRecord fixture.approvals fun record =>
    adapterOf record (artifact.text "adapterId")
  let approved ← approvalOk approval intent
  ensure approved "broker_artifact_not_approved"
  let runtime ← uniqueRecord fixture.runtimes fun record =>
    record.has "runtimeId" (.str (intent.text "runtimeId"))
  let verified ← runtimeOk runtime intent
  ensure verified "broker_runtime_not_verified"

/-! ## The table -/

inductive AttemptState where
  | reserved
  | cancelled
  | quarantined
  deriving DecidableEq, Repr

def AttemptState.name : AttemptState → String
  | reserved => "reserved"
  | cancelled => "cancelled"
  | quarantined => "quarantined"

/-- A row of `attempts`. -/
structure Attempt where
  attemptId : String
  sessionId : String
  leaseId : String
  generation : Int
  reservationId : String
  workerId : String
  state : AttemptState
  createdMs : Int
  deriving DecidableEq, Repr

/-- `attempts`, with its primary key and its unique column. -/
structure Table where
  rows : List Attempt
  keyed : (rows.map Attempt.attemptId).Nodup
  apart : (rows.map Attempt.reservationId).Nodup

def Table.empty : Table := ⟨[], List.nodup_nil, List.nodup_nil⟩

/-- `INSERT`; `none` for an `IntegrityError`. -/
def Table.insert (table : Table) (row : Attempt) : Option Table :=
  if fresh : row.attemptId ∉ table.rows.map Attempt.attemptId ∧
      row.reservationId ∉ table.rows.map Attempt.reservationId then
    some ⟨table.rows ++ [row], by
      rw [List.map_append, List.map_singleton, List.nodup_append]
      refine ⟨table.keyed, List.nodup_singleton _, ?_⟩
      intro old before new last same
      rw [List.mem_singleton.mp last] at same
      exact fresh.1 (same ▸ before), by
      rw [List.map_append, List.map_singleton, List.nodup_append]
      refine ⟨table.apart, List.nodup_singleton _, ?_⟩
      intro old before new last same
      rw [List.mem_singleton.mp last] at same
      exact fresh.2 (same ▸ before)⟩
  else none

/-- `UPDATE attempts SET state=?` of the reserved rows that are chosen. -/
def Attempt.move (chosen : Attempt → Bool) (state : AttemptState)
    (row : Attempt) : Attempt :=
  if chosen row && row.state = .reserved then { row with state := state }
  else row

theorem attemptId_move (chosen : Attempt → Bool) (state : AttemptState)
    (row : Attempt) : (row.move chosen state).attemptId = row.attemptId := by
  unfold Attempt.move
  split <;> rfl

theorem reservationId_move (chosen : Attempt → Bool) (state : AttemptState)
    (row : Attempt) :
    (row.move chosen state).reservationId = row.reservationId := by
  unfold Attempt.move
  split <;> rfl

def Table.move (table : Table) (chosen : Attempt → Bool)
    (state : AttemptState) : Table where
  rows := table.rows.map (Attempt.move chosen state)
  keyed := by
    have same : Attempt.attemptId ∘ Attempt.move chosen state =
        Attempt.attemptId := funext (attemptId_move chosen state)
    rw [List.map_map, same]
    exact table.keyed
  apart := by
    have same : Attempt.reservationId ∘ Attempt.move chosen state =
        Attempt.reservationId := funext (reservationId_move chosen state)
    rw [List.map_map, same]
    exact table.apart

/-- What a start does to the rows that an earlier broker left. -/
def Table.quarantine (table : Table) : Table :=
  table.move (fun _ => true) .quarantined

/-! ## Operations -/

/-- The row of a claim. -/
def attemptOf (intent : Value) (owner : Principal) (createdMs : Int) :
    Attempt where
  attemptId := intent.text "attemptId"
  sessionId := intent.text "sessionId"
  leaseId := intent.text "leaseId"
  generation := intent.number "leaseGeneration"
  reservationId := intent.text "reservationId"
  workerId := owner.workerId
  state := .reserved
  createdMs := createdMs

def claimed (attemptId : String) : Json :=
  .object [("schemaVersion", .number 1),
    ("status", .string "reserved-test-only"), ("canLaunch", .bool false),
    ("attemptId", .string attemptId), ("advisoryOnly", .bool true)]

/-- `claim`; the clock is read for the check and again for the row. -/
def claim (fixture : Fixture) (table : Table) (peerUid : Int) (raw : Value)
    (now createdMs : Int) : Except Fault (Table × Json) :=
  match parseIntent raw with
  | .error code => refuse code
  | .ok intent => do
      let owner ← principal fixture peerUid
      checkAuthority fixture intent owner now
      if bindable createdMs then
        match table.insert (attemptOf intent owner createdMs) with
        | none => refuse "broker_attempt_replay"
        | some later => return (later, claimed (intent.text "attemptId"))
      else .error (.caught .refused)

def stateOf (attemptId : String) (state : AttemptState) : Json :=
  .object [("schemaVersion", .number 1), ("attemptId", .string attemptId),
    ("state", .string state.name), ("canLaunch", .bool false)]

/-- An attempt that belongs to the worker of a peer. -/
def Attempt.owned (attemptId : String) (owner : Principal) (row : Attempt) :
    Bool :=
  row.attemptId = attemptId && row.workerId = owner.workerId

def inspect (fixture : Fixture) (table : Table) (peerUid : Int)
    (attemptId : Option Value) : Except Fault Json :=
  match attemptId with
  | some (.str attemptId) => do
      ensure (isBrokerId attemptId) "broker_invalid_message"
      let owner ← principal fixture peerUid
      match table.rows.find? (fun row => row.attemptId = attemptId) with
      | some row =>
          if row.workerId = owner.workerId then
            return stateOf attemptId row.state
          else refuse "broker_attempt_not_found"
      | none => refuse "broker_attempt_not_found"
  | _ => refuse "broker_invalid_message"

def cancel (fixture : Fixture) (table : Table) (peerUid : Int)
    (attemptId : Option Value) : Except Fault (Table × Json) :=
  match attemptId with
  | some (.str attemptId) => do
      ensure (isBrokerId attemptId) "broker_invalid_message"
      let owner ← principal fixture peerUid
      let later := table.move (Attempt.owned attemptId owner) .cancelled
      match later.rows.find? (Attempt.owned attemptId owner) with
      | some row => return (later, stateOf attemptId row.state)
      | none => refuse "broker_attempt_not_found"
  | _ => refuse "broker_invalid_message"

/-! ## Runs -/

/-- What a successful claim was, and how many brokers had started by then. -/
structure Grant where
  fixture : Fixture
  peerUid : Int
  intent : Value
  now : Int
  createdMs : Int
  broker : Nat

/-- The file, the broker that holds its lock, and the claims that have
succeeded. -/
structure State where
  table : Table
  running : Option Fixture
  starts : Nat
  grants : List Grant

inductive Event where
  | start (fixture : Value)
  | claim (peerUid : Int) (intent : Value) (now createdMs : Int)
  | inspect (peerUid : Int) (attemptId : Option Value)
  | cancel (peerUid : Int) (attemptId : Option Value)
  /-- `close`, or the end of the process. -/
  | stop

namespace State

def initial : State := ⟨.empty, none, 0, []⟩

/-- `BrokerLedger`; the lock is refused while another broker has it. -/
def start (state : State) (value : Value) : State :=
  match state.running, validateFixture value with
  | none, some fixture => { state with
      table := state.table.quarantine
      running := some fixture
      starts := state.starts + 1 }
  | _, _ => state

/-- An error that the server does not catch is its end. -/
def fails (state : State) : Fault → State
  | .caught _ => state
  | .uncaught => { state with running := none }

def claim (state : State) (fixture : Fixture) (peerUid : Int) (intent : Value)
    (now createdMs : Int) : State :=
  match BrokerLedger.claim fixture state.table peerUid intent now createdMs with
  | .ok (later, _) => { state with
      table := later
      grants := state.grants ++
        [⟨fixture, peerUid, intent, now, createdMs, state.starts⟩] }
  | .error fault => state.fails fault

def cancel (state : State) (fixture : Fixture) (peerUid : Int)
    (attemptId : Option Value) : State :=
  match BrokerLedger.cancel fixture state.table peerUid attemptId with
  | .ok (later, _) => { state with table := later }
  | .error fault => state.fails fault

def step (state : State) : Event → Option State
  | .start value => some (state.start value)
  | .claim peerUid intent now createdMs => state.running.map fun fixture =>
      state.claim fixture peerUid intent now createdMs
  | .inspect peerUid attemptId => state.running.map fun fixture =>
      match inspect fixture state.table peerUid attemptId with
      | .ok _ => state
      | .error fault => state.fails fault
  | .cancel peerUid attemptId => state.running.map fun fixture =>
      state.cancel fixture peerUid attemptId
  | .stop => some { state with running := none }

def machine : Machine State Event := ⟨initial, step⟩

end State

/-! ## What an operation has done -/

/-- Who may claim, and what the claim inserts. -/
structure Admitted (fixture : Fixture) (peerUid : Int) (intent : Value)
    (now : Int) (owner : Principal) : Prop where
  parsed : ∃ taken, parseIntent intent = .ok taken
  owned : principal fixture peerUid = .ok owner
  authority : checkAuthority fixture intent owner now = .ok ()

theorem parseIntent_eq {raw intent : Value}
    (parsed : parseIntent raw = .ok intent) : intent = raw := by
  unfold parseIntent at parsed
  split at parsed
  · cases parsed
    rfl
  · cases parsed

theorem insert_rows {table later : Table} {row : Attempt}
    (inserted : table.insert row = some later) :
    later.rows = table.rows ++ [row] := by
  unfold Table.insert at inserted
  split at inserted
  · cases inserted
    rfl
  · cases inserted

theorem claim_ok {fixture : Fixture} {table later : Table} {peerUid : Int}
    {raw : Value} {now createdMs : Int} {result : Json}
    (succeeds : claim fixture table peerUid raw now createdMs =
      .ok (later, result)) :
    ∃ owner, Admitted fixture peerUid raw now owner ∧
      later.rows = table.rows ++ [attemptOf raw owner createdMs] ∧
      result = claimed (raw.text "attemptId") := by
  unfold claim at succeeds
  cases parsed : parseIntent raw with
  | error code =>
      rw [parsed] at succeeds
      cases succeeds
  | ok intent =>
      rw [parsed] at succeeds
      obtain rfl := parseIntent_eq parsed
      obtain ⟨owner, owned, succeeds⟩ := Failures.ok_of_bind succeeds
      obtain ⟨_, authority, succeeds⟩ := Failures.ok_of_bind succeeds
      split at succeeds
      · split at succeeds
        · cases succeeds
        · next other inserted =>
            cases succeeds
            exact ⟨owner, ⟨⟨intent, parsed⟩, owned, authority⟩,
              insert_rows inserted, rfl⟩
      · cases succeeds

theorem cancel_ok {fixture : Fixture} {table later : Table} {peerUid : Int}
    {attemptId : Option Value} {result : Json}
    (succeeds : cancel fixture table peerUid attemptId = .ok (later, result)) :
    ∃ owner text row, principal fixture peerUid = .ok owner ∧
      attemptId = some (.str text) ∧
      later = table.move (Attempt.owned text owner) .cancelled ∧
      row ∈ later.rows ∧ row.owned text owner = true ∧
      result = stateOf text row.state := by
  unfold cancel at succeeds
  split at succeeds
  · next text =>
      obtain ⟨_, _, succeeds⟩ := Failures.ok_of_bind succeeds
      obtain ⟨owner, owned, succeeds⟩ := Failures.ok_of_bind succeeds
      dsimp only at succeeds
      split at succeeds
      · next row found =>
          cases succeeds
          exact ⟨owner, text, row, owned, rfl, rfl,
            List.mem_of_find?_eq_some found, List.find?_some found, rfl⟩
      · cases succeeds
  · cases succeeds

/-! ## Claims and rows -/

/-- The row is what the claim has inserted.  It is still reserved only if the
claim was made since the last start, under the fixture of that broker. -/
structure Backs (state : State) (grant : Grant) (row : Attempt) : Prop where
  admitted : ∃ owner,
    Admitted grant.fixture grant.peerUid grant.intent grant.now owner ∧
      { row with state := .reserved } =
        attemptOf grant.intent owner grant.createdMs
  earlier : grant.broker ≤ state.starts
  current : row.state = .reserved → grant.broker = state.starts
  fixture : ∀ fixture ∈ state.running, grant.broker = state.starts →
    grant.fixture = fixture

theorem move_reserved (chosen : Attempt → Bool) (state : AttemptState)
    (row : Attempt) :
    { row.move chosen state with state := .reserved } =
      { row with state := .reserved } := by
  unfold Attempt.move
  split <;> rfl

theorem Backs.move {state : State} {grant : Grant} {row : Attempt}
    (backs : Backs state grant row) (chosen : Attempt → Bool)
    {moved : AttemptState} (other : moved ≠ .reserved) :
    Backs state grant (row.move chosen moved) := by
  refine ⟨?_, backs.earlier, ?_, backs.fixture⟩
  · rw [move_reserved]
    exact backs.admitted
  · intro reserved
    unfold Attempt.move at reserved
    split at reserved
    · exact absurd reserved other
    · exact backs.current reserved

/-- A start leaves nothing reserved. -/
theorem state_quarantine (row : Attempt) :
    (row.move (fun _ => true) .quarantined).state ≠ .reserved := by
  unfold Attempt.move
  split
  · intro same
    cases same
  · next unmoved =>
      intro reserved
      rw [reserved] at unmoved
      exact unmoved rfl

theorem Backs.stop {state : State} {grant : Grant} {row : Attempt}
    (backs : Backs state grant row) :
    Backs { state with running := none } grant row := by
  refine ⟨backs.admitted, backs.earlier, backs.current, ?_⟩
  intro fixture none
  cases none

def Backed (state : State) : Prop :=
  List.Forall₂ (Backs state) state.grants state.table.rows

theorem Backed.stop {state : State} (backed : Backed state) :
    Backed { state with running := none } :=
  List.Forall₂.imp (fun _ _ => Backs.stop) backed

theorem Backed.fails {state : State} (backed : Backed state) (fault : Fault) :
    Backed (state.fails fault) := by
  cases fault with
  | caught failure => exact backed
  | uncaught => exact backed.stop

theorem Backed.start {state : State} (backed : Backed state) (value : Value) :
    Backed (state.start value) := by
  unfold State.start
  split
  · next fixture _ valid =>
      apply List.forall₂_map_right_iff.mpr
      refine List.Forall₂.imp ?_ backed
      intro grant row backs
      refine ⟨?_, Nat.le_succ_of_le backs.earlier, ?_, ?_⟩
      · rw [move_reserved]
        exact backs.admitted
      · exact fun reserved => absurd reserved (state_quarantine row)
      · intro _ _ current
        have earlier := backs.earlier
        rw [current] at earlier
        exact absurd earlier (Nat.not_succ_le_self _)
  · exact backed

theorem Backed.claim {state : State} (backed : Backed state)
    {fixture : Fixture} (running : state.running = some fixture) (peerUid : Int)
    (intent : Value) (now createdMs : Int) :
    Backed (state.claim fixture peerUid intent now createdMs) := by
  unfold State.claim
  split
  · next later result succeeds =>
      obtain ⟨owner, admitted, rows, _⟩ := claim_ok succeeds
      change List.Forall₂ _ _ later.rows
      rw [rows]
      refine List.rel_append ?_ ?_
      · refine List.Forall₂.imp ?_ backed
        intro grant row backs
        exact ⟨backs.admitted, backs.earlier, backs.current, backs.fixture⟩
      · refine .cons ⟨⟨owner, admitted, rfl⟩, le_rfl, fun _ => rfl, ?_⟩ .nil
        intro other same _
        rw [Option.mem_def, running] at same
        exact Option.some.inj same
  · exact backed.fails _

theorem Backed.cancel {state : State} (backed : Backed state)
    (fixture : Fixture) (peerUid : Int) (attemptId : Option Value) :
    Backed (state.cancel fixture peerUid attemptId) := by
  unfold State.cancel
  split
  · next later result succeeds =>
      obtain ⟨owner, text, row, _, _, rfl, _⟩ := cancel_ok succeeds
      apply List.forall₂_map_right_iff.mpr
      refine List.Forall₂.imp ?_ backed
      intro grant row backs
      have cancelled : AttemptState.cancelled ≠ .reserved := by decide
      have moved := backs.move (Attempt.owned text owner) cancelled
      exact ⟨moved.admitted, moved.earlier, moved.current, moved.fixture⟩
  · exact backed.fails _

theorem Backed.step {state after : State} {event : Event}
    (backed : Backed state) (taken : state.step event = some after) :
    Backed after := by
  cases event with
  | start value => exact Option.some.inj taken ▸ backed.start value
  | claim peerUid intent now createdMs =>
      obtain ⟨fixture, running, rfl⟩ := Option.map_eq_some_iff.mp taken
      exact backed.claim running peerUid intent now createdMs
  | inspect peerUid attemptId =>
      obtain ⟨fixture, running, rfl⟩ := Option.map_eq_some_iff.mp taken
      split
      · exact backed
      · exact backed.fails _
  | cancel peerUid attemptId =>
      obtain ⟨fixture, running, rfl⟩ := Option.map_eq_some_iff.mp taken
      exact backed.cancel fixture peerUid attemptId
  | stop => exact Option.some.inj taken ▸ backed.stop

/-- Keys that claims and rows have in common. -/
theorem keys_of_backed {α : Type} {state : State} (backed : Backed state)
    (ofGrant : Grant → α) (ofRow : Attempt → α)
    (same : ∀ grant row, Backs state grant row → ofGrant grant = ofRow row) :
    state.grants.map ofGrant = state.table.rows.map ofRow := by
  have pairs : List.Forall₂ (fun grant row => ofGrant grant = ofRow row)
      state.grants state.table.rows := List.Forall₂.imp same backed
  rw [← List.forall₂_eq_eq_eq]
  exact List.forall₂_map_left_iff.mpr (List.forall₂_map_right_iff.mpr pairs)

theorem backed_of_reaches {events : List Event} {state : State}
    (run : State.machine.Reaches events state) : Backed state := by
  have first : Backed State.initial := List.Forall₂.nil
  refine run.invariant (fun _ state => Backed state) first ?_
  intro _ _ _ _ _ backed _ taken
  exact backed.step taken

/-- In every run of brokers, one after the other, the rows of the table are the
claims that have succeeded, each made under the authority of the fixture of its
broker; no attempt and no reservation is claimed twice, whatever has restarted
in between, and a reserved row belongs to the last broker that has started. -/
theorem ledger_claims {events : List Event} {state : State}
    (run : State.machine.Reaches events state) :
    List.Forall₂ (Backs state) state.grants state.table.rows ∧
      (state.grants.map fun grant => grant.intent.text "attemptId").Nodup ∧
      (state.grants.map fun grant =>
        grant.intent.text "reservationId").Nodup := by
  have backed := backed_of_reaches run
  have attempts := keys_of_backed backed
    (fun grant => grant.intent.text "attemptId") Attempt.attemptId (by
      intro grant row backs
      obtain ⟨owner, _, inserted⟩ := backs.admitted
      exact (congrArg Attempt.attemptId inserted).symm)
  have reservations := keys_of_backed backed
    (fun grant => grant.intent.text "reservationId") Attempt.reservationId (by
      intro grant row backs
      obtain ⟨owner, _, inserted⟩ := backs.admitted
      exact (congrArg Attempt.reservationId inserted).symm)
  exact ⟨backed, attempts ▸ state.table.keyed, reservations ▸ state.table.apart⟩

def brokerArtifact : Value := .dict [("adapterId", .str "echo"),
  ("version", .str "1.0.0"),
  ("sha256", .str (String.ofList (List.replicate 64 'a')))]

def brokerControls : Value := .list (requiredControls.map Value.str)

/-- One worker may run one runtime for one session. -/
def sampleFixture : Value := .dict [
  ("principals", .list [.dict [("uid", .int 1000), ("workerId", .str "worker"),
    ("runtimeIds", .list [.str "runtime"])]]),
  ("leases", .list [.dict [("sessionId", .str "session"),
    ("leaseId", .str "lease"), ("generation", .int 1),
    ("workerId", .str "worker"), ("status", .str "active"),
    ("expiresAtMs", .int 9000)]]),
  ("reservations", .list [.dict [("reservationId", .str "reservation"),
    ("attemptId", .str "attempt"), ("leaseId", .str "lease"),
    ("status", .str "held"), ("expiresAtMs", .int 9000),
    ("deviceIds", .list [.str "gpu-0"])]]),
  ("approvals", .list [.dict [("artifact", brokerArtifact),
    ("runtimeId", .str "runtime"), ("trustClass", .str "operator-trusted"),
    ("imageDigest", .str ("sha256:" ++ String.ofList (List.replicate 64 'b'))),
    ("profileId", .str "profile"), ("requiredControls", brokerControls)]]),
  ("runtimes", .list [.dict [("runtimeId", .str "runtime"),
    ("available", .bool true), ("supportedIpcVersions", .list [.int 1]),
    ("verifiedControls", brokerControls)]])]

def sampleRequest : Value := .dict [("schemaVersion", .int 1),
  ("attemptId", .str "attempt"), ("sessionId", .str "session"),
  ("leaseId", .str "lease"), ("leaseGeneration", .int 1),
  ("runtimeId", .str "runtime"), ("reservationId", .str "reservation"),
  ("artifact", brokerArtifact), ("requiredIpcVersion", .int 1)]

/-- A claim and its replay. -/
def sampleClaims : List Event :=
  [.start sampleFixture, .claim 1000 sampleRequest 5 5,
    .claim 1000 sampleRequest 6 6]

/-- Another broker, and the claim once more. -/
def sampleRestart : List Event :=
  [.stop, .start sampleFixture, .claim 1000 sampleRequest 7 7]

theorem ledger_claims_sample : ∃ state,
    State.machine.Reaches (sampleClaims ++ sampleRestart) state ∧
      state.grants.map Grant.now = [5] ∧
      List.Forall₂ (Backs state) state.grants state.table.rows := by
  have played := State.machine.play_get (sampleClaims ++ sampleRestart)
    (by decide +kernel)
  have run := Machine.reaches_of_play played
  exact ⟨_, run, by decide +kernel, (ledger_claims run).1⟩

/-! ## What becomes of a row -/

/-- What an event makes of a reserved row: a start quarantines it, and a peer
that speaks for its worker cancels it. -/
def Attempt.ended (row : Attempt) (state : State) : Event → Option AttemptState
  | .start value =>
      match state.running, validateFixture value with
      | none, some _ => some .quarantined
      | _, _ => none
  | .cancel peerUid (some (.str attemptId)) =>
      match state.running with
      | some fixture =>
          match principal fixture peerUid with
          | .ok owner =>
              if isBrokerId attemptId && row.owned attemptId owner then
                some .cancelled
              else none
          | .error _ => none
      | none => none
  | _ => none

/-- None of these events ends the row. -/
def Unended (row : Attempt) (state : State) (events : List Event) : Prop :=
  State.machine.Meets (fun state event => row.ended state event = none) state
    events

/-- The state that a row is in after events: that of the first one that ends
it. -/
inductive Outcome (row : Attempt) (state : State) (events : List Event) :
    AttemptState → Prop where
  | past (ended : row.state ≠ .reserved) : Outcome row state events row.state
  | kept (reserved : row.state = .reserved)
      (unended : Unended row state events) : Outcome row state events .reserved
  | ended {before after : List Event} {between : State} {event : Event}
      {outcome : AttemptState} (reserved : row.state = .reserved)
      (split : events = before ++ event :: after)
      (unended : Unended row state before)
      (played : State.machine.playFrom state before = some between)
      (ends : row.ended between event = some outcome) :
      Outcome row state events outcome

/-- The row that an event leaves in place of this one. -/
def Attempt.after (row : Attempt) (state : State) (event : Event) : Attempt :=
  match row.ended state event with
  | some outcome => row.move (fun _ => true) outcome
  | none => row

theorem move_of_not {chosen : Attempt → Bool} {row : Attempt}
    (unchosen : chosen row = false) (state : AttemptState) :
    row.move chosen state = row := by
  rw [Attempt.move, unchosen, Bool.false_and]
  exact if_neg Bool.false_ne_true

theorem move_of_chosen {chosen : Attempt → Bool} {row : Attempt}
    (isChosen : chosen row = true) (state : AttemptState) :
    row.move chosen state = row.move (fun _ => true) state := by
  rw [Attempt.move, Attempt.move, isChosen]

theorem map_after {state : State} {event : Event}
    (unended : ∀ row, Attempt.ended row state event = none) (rows : List Attempt) :
    rows.map (Attempt.after · state event) = rows := by
  refine (List.map_congr_left fun row _ => ?_).trans (List.map_id rows)
  rw [Attempt.after, unended]
  rfl

theorem table_fails (state : State) (fault : Fault) :
    (state.fails fault).table = state.table := by
  cases fault <;> rfl

theorem cancel_iff {fixture : Fixture} {table : Table} {peerUid : Int}
    {text : String} {owner : Principal}
    (owned : principal fixture peerUid = .ok owner) :
    cancel fixture table peerUid (some (.str text)) =
      if isBrokerId text then
        match (table.move (Attempt.owned text owner) .cancelled).rows.find?
            (Attempt.owned text owner) with
        | some row => .ok (table.move (Attempt.owned text owner) .cancelled,
            stateOf text row.state)
        | none => refuse "broker_attempt_not_found"
      else refuse "broker_invalid_message" := by
  simp only [cancel, ensure, owned]
  cases isBrokerId text with
  | false => rfl
  | true =>
      simp only [if_true, bind, Except.bind]
      cases (table.move (Attempt.owned text owner) .cancelled).rows.find?
        (Attempt.owned text owner) <;> rfl

theorem owned_move (chosen : Attempt → Bool) (state : AttemptState)
    (text : String) (owner : Principal) (row : Attempt) :
    (row.move chosen state).owned text owner = row.owned text owner := by
  unfold Attempt.move
  split <;> rfl

/-- A cancel that finds no row of the worker would have changed none. -/
theorem unowned_of_refused {table : Table} {text : String} {owner : Principal}
    {state : AttemptState}
    (none : (table.move (Attempt.owned text owner) state).rows.find?
      (Attempt.owned text owner) = none) :
    ∀ row ∈ table.rows, row.owned text owner = false := by
  intro row member
  have unowned := List.find?_eq_none.mp none _ (List.mem_map_of_mem member)
  rw [owned_move] at unowned
  exact eq_false_of_ne_true unowned

theorem cancel_rows {state : State} {fixture : Fixture}
    (running : state.running = some fixture) (peerUid : Int)
    (attemptId : Option Value) :
    (state.cancel fixture peerUid attemptId).table.rows =
      state.table.rows.map
        (Attempt.after · state (.cancel peerUid attemptId)) := by
  have refused : (∀ row ∈ state.table.rows,
      row.ended state (.cancel peerUid attemptId) = none) →
      state.table.rows.map
        (Attempt.after · state (.cancel peerUid attemptId)) =
          state.table.rows := by
    intro unended
    refine (List.map_congr_left ?_).trans (List.map_id _)
    intro row member
    rw [Attempt.after, unended row member]
    rfl
  rcases attemptId with _ | value
  · rw [refused (fun _ _ => rfl), State.cancel]
    exact congrArg Table.rows (table_fails _ _)
  cases value with
  | str text =>
      cases owned : principal fixture peerUid with
      | error fault =>
          rw [refused ?_, State.cancel]
          · split
            · next succeeds =>
                obtain ⟨owner, _, _, found, _⟩ := cancel_ok succeeds
                rw [owned] at found
                cases found
            · exact congrArg Table.rows (table_fails _ _)
          · intro row _
            simp only [Attempt.ended, running, owned]
      | ok owner =>
          rw [State.cancel, cancel_iff owned]
          cases valid : isBrokerId text with
          | false =>
              rw [refused]
              · exact congrArg Table.rows (table_fails _ _)
              · intro row _
                simp only [Attempt.ended, running, owned, valid, Bool.false_and]
                rfl
          | true =>
              have ended : ∀ row, Attempt.ended row state
                  (.cancel peerUid (some (.str text))) =
                    if row.owned text owner then some .cancelled else none := by
                intro row
                simp only [Attempt.ended, running, owned, valid, Bool.true_and]
              rw [if_pos rfl]
              split
              · next later result succeeds =>
                  split at succeeds
                  · cases succeeds
                    refine List.map_congr_left fun row _ => ?_
                    rw [Attempt.after, ended]
                    cases mine : row.owned text owner with
                    | true => exact move_of_chosen mine _
                    | false => exact move_of_not mine _
                  · cases succeeds
              · next fault fails =>
                  rw [refused]
                  · exact congrArg Table.rows (table_fails _ _)
                  · intro row member
                    split at fails
                    · cases fails
                    · next none =>
                        rw [ended, unowned_of_refused none row member]
                        rfl
  | _ =>
      rw [refused (fun _ _ => rfl), State.cancel]
      exact congrArg Table.rows (table_fails _ _)

/-- An event leaves every row in its place, and may add rows. -/
theorem rows_step {state after : State} {event : Event}
    (taken : state.step event = some after) :
    ∃ added, after.table.rows =
      state.table.rows.map (Attempt.after · state event) ++ added := by
  cases event with
  | start value =>
      refine ⟨[], ?_⟩
      rw [List.append_nil, ← Option.some.inj taken, State.start]
      split
      · next fixture running valid =>
          refine List.map_congr_left fun row _ => ?_
          simp only [Attempt.after, Attempt.ended, running, valid]
      · next other =>
          rw [map_after]
          intro row
          rw [Attempt.ended]
          split
          · next fixture running valid => exact absurd valid (other _ running)
          · rfl
  | claim peerUid intent now createdMs =>
      obtain ⟨fixture, _, rfl⟩ := Option.map_eq_some_iff.mp taken
      rw [map_after (fun _ => rfl), State.claim]
      split
      · next succeeds =>
          obtain ⟨owner, _, rows, _⟩ := claim_ok succeeds
          exact ⟨_, rows⟩
      · exact ⟨[], by rw [table_fails, List.append_nil]⟩
  | inspect peerUid attemptId =>
      obtain ⟨fixture, _, rfl⟩ := Option.map_eq_some_iff.mp taken
      rw [map_after (fun _ => rfl)]
      refine ⟨[], ?_⟩
      rw [List.append_nil]
      split
      · rfl
      · rw [table_fails]
  | cancel peerUid attemptId =>
      obtain ⟨fixture, running, rfl⟩ := Option.map_eq_some_iff.mp taken
      refine ⟨[], ?_⟩
      rw [List.append_nil]
      exact cancel_rows running peerUid attemptId
  | stop =>
      rw [map_after (fun _ => rfl)]
      exact ⟨[], by rw [← Option.some.inj taken, List.append_nil]⟩

theorem get_step {state after : State} {event : Event} {index : Nat}
    {row : Attempt} (taken : state.step event = some after)
    (found : state.table.rows[index]? = some row) :
    after.table.rows[index]? = some (row.after state event) := by
  obtain ⟨added, rows⟩ := rows_step taken
  have mapped : (state.table.rows.map (Attempt.after · state event))[index]? =
      some (row.after state event) := by
    rw [List.getElem?_map, found]
    rfl
  obtain ⟨below, _⟩ := List.getElem?_eq_some_iff.mp mapped
  rw [rows, List.getElem?_append_left below, mapped]

theorem after_of_past {row : Attempt} (past : row.state ≠ .reserved)
    (state : State) (event : Event) : row.after state event = row := by
  unfold Attempt.after Attempt.move
  split
  · exact if_neg fun reserved => past (of_decide_eq_true reserved)
  · rfl

theorem after_of_ended {row : Attempt} {state : State} {event : Event}
    {outcome : AttemptState} (reserved : row.state = .reserved)
    (ends : row.ended state event = some outcome) :
    row.after state event = { row with state := outcome } := by
  unfold Attempt.after Attempt.move
  rw [ends]
  exact if_pos (decide_eq_true reserved)

theorem after_of_unended {row : Attempt} {state : State} {event : Event}
    (unended : row.ended state event = none) : row.after state event = row := by
  rw [Attempt.after, unended]

theorem unended_cons {row : Attempt} {state between : State} {event : Event}
    {events : List Event} (taken : state.step event = some between)
    (first : row.ended state event = none)
    (rest : Unended row between events) :
    Unended row state (event :: events) := by
  refine ⟨first, fun other again => ?_⟩
  cases taken.symm.trans again
  exact rest

/-- An event that has not ended the row is before what comes of it. -/
theorem Outcome.cons {row : Attempt} {state between : State} {event : Event}
    {events : List Event} {outcome : AttemptState}
    (rest : Outcome row between events outcome)
    (taken : state.step event = some between)
    (first : row.ended state event = none) :
    Outcome row state (event :: events) outcome := by
  cases rest with
  | past ended => exact .past ended
  | kept reserved unended =>
      exact .kept reserved (unended_cons taken first unended)
  | @ended before after last end_ _ reserved split unended played ends =>
      have longer : event :: events = (event :: before) ++ end_ :: after := by
        rw [split, List.cons_append]
      refine .ended reserved longer (unended_cons taken first unended) ?_ ends
      exact Option.bind_eq_some_iff.mpr ⟨between, taken, played⟩

theorem ended_ne {row : Attempt} {state : State} {event : Event}
    {outcome : AttemptState} (ends : row.ended state event = some outcome) :
    outcome ≠ .reserved := by
  rintro rfl
  unfold Attempt.ended at ends
  repeat' split at ends
  all_goals cases ends

/-- The row of an attempt stays in its place in the table.  It is reserved until
a broker starts or somebody who speaks for its worker cancels it, and what ends
it first is its state for good. -/
theorem ledger_rows {state later : State} {events : List Event} {index : Nat}
    {row : Attempt}
    (played : State.machine.playFrom state events = some later)
    (found : state.table.rows[index]? = some row) :
    ∃ outcome, later.table.rows[index]? = some { row with state := outcome } ∧
      Outcome row state events outcome := by
  induction events generalizing state row with
  | nil =>
      cases played
      refine ⟨row.state, found, ?_⟩
      by_cases reserved : row.state = .reserved
      · exact reserved ▸ .kept reserved trivial
      · exact .past reserved
  | cons event others induction =>
      obtain ⟨between, taken, played⟩ := Option.bind_eq_some_iff.mp played
      have next := get_step taken found
      by_cases reserved : row.state = .reserved
      · cases ends : row.ended state event with
        | none =>
            rw [after_of_unended ends] at next
            obtain ⟨outcome, last, rest⟩ := induction played next
            exact ⟨outcome, last, rest.cons taken ends⟩
        | some first =>
            rw [after_of_ended reserved ends] at next
            obtain ⟨outcome, last, rest⟩ := induction played next
            have final := ended_ne ends
            cases rest with
            | past =>
                have split : event :: others = [] ++ event :: others := rfl
                exact ⟨first, last, .ended reserved split trivial rfl ends⟩
            | kept again => exact absurd again final
            | ended again => exact absurd again final
      · rw [after_of_past reserved] at next
        obtain ⟨outcome, last, rest⟩ := induction played next
        cases rest with
        | past ended => exact ⟨row.state, last, .past ended⟩
        | kept again => exact absurd again reserved
        | ended again => exact absurd again reserved

def claimedState : State := (State.machine.play sampleClaims).getD .initial

def restartedState : State :=
  (State.machine.playFrom claimedState sampleRestart).getD .initial

theorem ledger_rows_sample : ∃ outcome,
    restartedState.table.rows.map Attempt.state = [.quarantined] ∧
      Outcome (attemptOf sampleRequest ⟨1000, "worker", ["runtime"]⟩ 5)
        claimedState sampleRestart outcome := by
  have some : State.machine.playFrom claimedState sampleRestart ≠ none :=
    Option.isSome_iff_ne_none.mp (by decide +kernel)
  have played : State.machine.playFrom claimedState sampleRestart =
      .some restartedState := (Option.getD_of_ne_none some _).symm
  obtain ⟨outcome, _, fate⟩ := @ledger_rows _ _ _ 0
    (attemptOf sampleRequest ⟨1000, "worker", ["runtime"]⟩ 5) played
    (by decide +kernel)
  exact ⟨outcome, by decide +kernel, fate⟩

end BrokerLedger

end GpuLink
