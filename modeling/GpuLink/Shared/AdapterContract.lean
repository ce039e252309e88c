import GpuLink.ControlPlane.Placement
import GpuLink.Shared.Validation

/-!
# Adapter manifests and adapter health

What a worker says of its adapters.  A version 1 entry is identified by its type
and a version 2 entry by its own identifier; a list of them is read entry by
entry and sorted.
-/

namespace GpuLink

def ExecutionMode.text : ExecutionMode → String
  | .inProcess => "in-process"
  | .boundedProcess => "bounded-process"
  | .streamingGateway => "streaming-gateway"

def HealthState.text : HealthState → String
  | .ready => "ready"
  | .unavailable => "unavailable"
  | .notInstalled => "not-installed"

namespace AdapterContract

open Validation

/-- `ADAPTER_EXECUTION_MODES` -/
def executionModes : List ExecutionMode :=
  [.inProcess, .boundedProcess, .streamingGateway]

/-- `ADAPTER_HEALTH_STATES` -/
def healthStates : List HealthState := [.ready, .unavailable, .notInstalled]

def stateCode : HealthState → String
  | .ready => "ready"
  | .unavailable => "readiness_probe_failed"
  | .notInstalled => "adapter_not_installed"

def isDigit (c : Char) : Bool := '0' ≤ c && c ≤ '9'

def isAlphanumeric (c : Char) : Bool :=
  isDigit c || ('A' ≤ c && c ≤ 'Z') || ('a' ≤ c && c ≤ 'z')

/-- A letter or a digit, and then also dots, slashes and lines. -/
def isAdapterId (text : String) : Bool :=
  match text.toList with
  | [] => false
  | first :: rest =>
      isAlphanumeric first &&
        rest.all (fun c => isAlphanumeric c || ['.', '_', '/', '-'].contains c)

/-- What follows `0|[1-9]\d*`. -/
def afterNumber (text : List Char) : Option (List Char) :=
  match text.takeWhile isDigit with
  | [] => none
  | ['0'] => some (text.drop 1)
  | digits =>
      if digits.head? = some '0' then none else some (text.drop digits.length)

/-- What follows the given character. -/
def after (expected : Char) : List Char → Option (List Char)
  | [] => none
  | c :: rest => if c = expected then some rest else none

def isLabelChar (c : Char) : Bool :=
  isAlphanumeric c || c = '.' || c = '-'

/-- The end, or `+` and a label. -/
def isBuild : List Char → Bool
  | [] => true
  | '+' :: label => label ≠ [] && label.all isLabelChar
  | _ => false

/-- The pattern of semantic versions. -/
def isSemanticVersion (text : String) : Bool :=
  let numbers := do
    let rest ← after '.' (← afterNumber text.toList)
    let rest ← after '.' (← afterNumber rest)
    afterNumber rest
  match numbers with
  | none => false
  | some ('-' :: rest) =>
      rest.takeWhile isLabelChar ≠ [] && isBuild (rest.dropWhile isLabelChar)
  | some rest => isBuild rest

/-- `if (!condition) throw new ValidationError(message)` -/
def ensure (condition : Bool) (message : String) : Except String Unit :=
  if condition then .ok () else .error message

/-- The member of a list that is written as the given text. -/
def named {α : Type} (text : α → String) (members : List α)
    (given message : String) : Except String α :=
  match members.find? (fun member => text member = given) with
  | some member => .ok member
  | none => .error (message ++ ", ".intercalate (members.map text))

def validateAdapterManifest (value : Option Json) (name : String) :
    Except String AdapterManifest := do
  let manifest ← requireObject value name
  let schemaVersion ← boundedInteger (manifest.field? "schemaVersion")
    (name ++ ".schemaVersion") 1 2
  rejectUnknownFields manifest name
    (["schemaVersion", "type", "version", "executionMode"] ++
      if schemaVersion = 2 then ["adapterId"] else [])
  let type ← requireString (manifest.field? "type") (name ++ ".type") 100
  let version ← requireString (manifest.field? "version")
    (name ++ ".version") 100
  ensure (isSemanticVersion version)
    (name ++ ".version must be a semantic version")
  let executionMode ← requireString (manifest.field? "executionMode")
    (name ++ ".executionMode") 50
  let executionMode ← named ExecutionMode.text executionModes executionMode
    (name ++ ".executionMode must be one of ")
  if schemaVersion = 1 then
    return ⟨1, type, none, version, executionMode⟩
  else do
    let adapterId ← requireString (manifest.field? "adapterId")
      (name ++ ".adapterId") 200
    ensure (isAdapterId adapterId)
      (name ++ ".adapterId contains unsupported characters")
    return ⟨2, type, some adapterId, version, executionMode⟩

def validateAdapterHealthReport (value : Option Json) (name : String) :
    Except String AdapterHealth := do
  let report ← requireObject value name
  let schemaVersion ← boundedInteger (report.field? "schemaVersion")
    (name ++ ".schemaVersion") 1 2
  rejectUnknownFields report name
    (["schemaVersion", "type", "state", "code", "checkedAt"] ++
      if schemaVersion = 2 then ["adapterId"] else [])
  let type ← requireString (report.field? "type") (name ++ ".type") 100
  let state ← requireString (report.field? "state") (name ++ ".state") 50
  let state ← named HealthState.text healthStates state
    (name ++ ".state must be one of ")
  let code ← requireString (report.field? "code") (name ++ ".code") 100
  ensure (code = stateCode state)
    (name ++ ".code must be " ++ stateCode state ++ " for state " ++ state.text)
  let checkedAt ← boundedInteger (report.field? "checkedAt")
    (name ++ ".checkedAt") 0 JsonText.maxSafeInteger
  if schemaVersion = 1 then
    return ⟨1, type, none, state, code, checkedAt⟩
  else do
    let adapterId ← requireString (report.field? "adapterId")
      (name ++ ".adapterId") 200
    ensure (isAdapterId adapterId)
      (name ++ ".adapterId contains unsupported characters")
    return ⟨2, type, some adapterId, state, code, checkedAt⟩

/-! ## Lists of entries -/

/-- What identifies an entry: the schema version, the type and the adapter. -/
abbrev Identity := Nat × String × Option String

/-- The sets that a list is read with. -/
structure Seen where
  v1Types : List String
  v2Types : List String
  adapterIds : List String

def Seen.add (seen : Seen) (name : String) : Identity → Except String Seen
  | (schemaVersion, type, adapterId) =>
      if schemaVersion = 1 then
        if type ∈ seen.v1Types then
          .error (name ++ " contains duplicate type " ++ type)
        else .ok { seen with v1Types := seen.v1Types ++ [type] }
      else if adapterId.getD "" ∈ seen.adapterIds then
        .error (name ++ " contains duplicate adapterId " ++ adapterId.getD "")
      else .ok { seen with
        adapterIds := seen.adapterIds ++ [adapterId.getD ""]
        v2Types := seen.v2Types ++ [type] }

section Entries

variable {α : Type} (read : Option Json → String → Except String α)
  (identityOf : α → Identity)

def readEach (name : String) :
    Nat → Seen → List Json → Except String (List α × Seen)
  | _, seen, [] => .ok ([], seen)
  | index, seen, item :: items => do
      let entry ← read (some item) (name ++ "[" ++ toString index ++ "]")
      let seen ← seen.add name (identityOf entry)
      let (entries, seen) ← readEach name (index + 1) seen items
      return (entry :: entries, seen)

/-- By type, then by adapter. -/
def compareIdentities (locale : Locale) (left right : Identity) : Ordering :=
  (locale.compare left.2.1 right.2.1).then
    (locale.compare (left.2.2.getD "") (right.2.2.getD ""))

def validateEntries (locale : Locale) (value : Option Json) (name : String) :
    Except String (List α) :=
  let refused := name ++ " must be an array with at most 64 items"
  match value with
  | some (.array items) =>
      if items.length > 64 then .error refused
      else do
        let (entries, seen) ← readEach read identityOf name 0 ⟨[], [], []⟩ items
        match seen.v1Types.find? (fun type => type ∈ seen.v2Types) with
        | some type =>
            .error (name ++ " cannot mix v1 and v2 for type " ++ type)
        | none => return sortBy (fun left right =>
            compareIdentities locale (identityOf left) (identityOf right)) entries
  | _ => .error refused

end Entries

theorem bind_ok {β γ : Type} {first : Except String β}
    {next : β → Except String γ} {result : γ} :
    (first >>= next) = .ok result ↔
      ∃ value, first = .ok value ∧ next value = .ok result := by
  cases first with
  | error message => simp [bind, Except.bind]
  | ok value => simp [bind, Except.bind]

theorem ensure_ok {condition : Bool} {message : String} {result : Unit} :
    ensure condition message = .ok result ↔ condition = true := by
  unfold ensure
  cases condition <;> simp

theorem named_of {β : Type} {text : β → String} {members : List β}
    {message : String} (distinct : (members.map text).Nodup) {member : β}
    (listed : member ∈ members) :
    named text members (text member) message = .ok member := by
  have first : members.find? (fun other => text other = text member) =
      some member := by
    induction members with
    | nil => cases listed
    | cons head rest induction =>
        rw [List.map_cons, List.nodup_cons] at distinct
        rcases List.mem_cons.mp listed with same | later
        · rw [same, List.find?_cons_of_pos (by simp)]
        · rw [List.find?_cons_of_neg, induction distinct.2 later]
          intro equal
          apply distinct.1
          rw [of_decide_eq_true equal]
          exact List.mem_map_of_mem later
  rw [named, first]

/-! ## Reading back what was written -/

/-- The schema version and the adapter of an entry go together. -/
def WellIdentified : Identity → Prop
  | (schemaVersion, type, adapterId) =>
      BoundedText 100 type ∧
        ((schemaVersion = 1 ∧ adapterId = none) ∨
          (schemaVersion = 2 ∧ ∃ id, adapterId = some id ∧
            BoundedText 200 id ∧ isAdapterId id = true))

end AdapterContract

open AdapterContract

def AdapterManifest.identity (manifest : AdapterManifest) : Identity :=
  (manifest.schemaVersion, manifest.type, manifest.adapterId)

def AdapterHealth.identity (health : AdapterHealth) : Identity :=
  (health.schemaVersion, health.type, health.adapterId)

def validateAdapterManifests (locale : Locale) (value : Option Json)
    (name : String) : Except String (List AdapterManifest) :=
  validateEntries validateAdapterManifest AdapterManifest.identity locale value
    name

def validateAdapterHealth (locale : Locale) (value : Option Json)
    (name : String) : Except String (List AdapterHealth) :=
  validateEntries validateAdapterHealthReport AdapterHealth.identity locale value
    name

/-- The manifest as it is sent. -/
def AdapterManifest.toJson (manifest : AdapterManifest) : Json :=
  .object ([("schemaVersion", .number manifest.schemaVersion),
      ("type", .string manifest.type)] ++
    (manifest.adapterId.map (fun id => ("adapterId", Json.string id))).toList ++
    [("version", .string manifest.version),
      ("executionMode", .string manifest.executionMode.text)])

/-- The report as it is sent. -/
def AdapterHealth.toJson (health : AdapterHealth) : Json :=
  .object ([("schemaVersion", .number health.schemaVersion),
      ("type", .string health.type)] ++
    (health.adapterId.map (fun id => ("adapterId", Json.string id))).toList ++
    [("state", .string health.state.text), ("code", .string health.code),
      ("checkedAt", .number health.checkedAt)])

structure AdapterManifest.WellFormed (manifest : AdapterManifest) : Prop where
  identified : WellIdentified manifest.identity
  version : BoundedText 100 manifest.version
  semantic : isSemanticVersion manifest.version = true

structure AdapterHealth.WellFormed (health : AdapterHealth) : Prop where
  identified : WellIdentified health.identity
  code : health.code = stateCode health.state
  checkedAt : 0 ≤ health.checkedAt ∧ health.checkedAt ≤ JsonText.maxSafeInteger

theorem executionModes_text (mode : ExecutionMode) :
    BoundedText 50 mode.text ∧ ∀ message,
      named ExecutionMode.text executionModes mode.text message = .ok mode := by
  constructor
  · cases mode <;> exact ⟨by decide, by decide, by decide⟩
  · intro message
    exact named_of (by decide) (by cases mode <;> decide)

theorem healthStates_text (state : HealthState) :
    BoundedText 50 state.text ∧ BoundedText 100 (stateCode state) ∧
      ∀ message,
        named HealthState.text healthStates state.text message = .ok state := by
  refine ⟨?_, ?_, fun message => named_of (by decide) (by cases state <;> decide)⟩
  · cases state <;> exact ⟨by decide, by decide, by decide⟩
  · cases state <;> exact ⟨by decide, by decide, by decide⟩

theorem boundedInteger_of (number : Int) {name : String}
    {minimum maximum : Int}
    (above : minimum ≤ number) (below : number ≤ maximum)
    (safe : number.natAbs ≤ JsonText.maxSafeInteger) :
    Validation.boundedInteger (some (.number number)) name minimum maximum =
      .ok number := by
  unfold Validation.boundedInteger
  simp only [Rat.den_intCast, Rat.num_intCast]
  rw [if_pos ⟨trivial, safe, above, below⟩]

theorem rejectUnknownFields_of (name : String) (allowed : List String)
    (fields : List (String × Json)) (known : ∀ field ∈ fields, field.1 ∈ allowed) :
    Validation.rejectUnknownFields (.object fields) name allowed = .ok () := by
  have none : (fields.map (·.1)).filter (fun field => field ∉ allowed) = [] := by
    apply List.filter_eq_nil_iff.mpr
    intro field member unknown
    obtain ⟨entry, listed, rfl⟩ := List.mem_map.mp member
    exact of_decide_eq_true unknown (known entry listed)
  unfold Validation.rejectUnknownFields
  simp only [none]
  rfl

theorem ensure_of {condition : Bool} {message : String}
    (holds : condition = true) : ensure condition message = .ok () :=
  ensure_ok.mpr holds

theorem schemaVersion_one {name : String} :
    Validation.boundedInteger (some (.number 1)) name 1 2 = .ok 1 :=
  boundedInteger_of 1 (by decide) (by decide) (by decide)

theorem schemaVersion_two {name : String} :
    Validation.boundedInteger (some (.number 2)) name 1 2 = .ok 2 :=
  boundedInteger_of 2 (by decide) (by decide) (by decide)

theorem validateAdapterManifest_toJson {manifest : AdapterManifest}
    (wellFormed : manifest.WellFormed) (name : String) :
    validateAdapterManifest (some manifest.toJson) name = .ok manifest := by
  obtain ⟨schemaVersion, type, adapterId, version, executionMode⟩ := manifest
  obtain ⟨⟨typed, identified⟩, versioned, semantic⟩ := wellFormed
  have mode := executionModes_text executionMode
  rcases identified with ⟨rfl, rfl⟩ | ⟨rfl, id, rfl, bounded, pattern⟩
  · have known := rejectUnknownFields_of name
      ["schemaVersion", "type", "version", "executionMode"]
      [("schemaVersion", .number 1),
        ("type", .string type), ("version", .string version),
        ("executionMode", .string executionMode.text)] (by simp)
    simp [validateAdapterManifest, AdapterManifest.toJson,
      Validation.requireObject, Json.field?, schemaVersion_one,
      Validation.requireString_of typed, Validation.requireString_of versioned,
      Validation.requireString_of mode.1, ensure_of semantic, mode.2, known,
      bind, Except.bind, pure, Except.pure]
  · have known := rejectUnknownFields_of name
      ["schemaVersion", "type", "version", "executionMode",
        "adapterId"]
      [("schemaVersion", .number 2),
        ("type", .string type), ("adapterId", .string id),
        ("version", .string version),
        ("executionMode", .string executionMode.text)] (by simp)
    simp [validateAdapterManifest, AdapterManifest.toJson,
      Validation.requireObject, Json.field?, schemaVersion_two,
      Validation.requireString_of typed, Validation.requireString_of versioned,
      Validation.requireString_of mode.1, Validation.requireString_of bounded,
      ensure_of semantic, ensure_of pattern, mode.2, known,
      bind, Except.bind, pure, Except.pure]

/-- What is left to check of a report that the worker has put together. -/
theorem validateAdapterHealthReport_v1 (type : String) (state : HealthState)
    (checkedAt : Int) (name : String) :
    validateAdapterHealthReport (some (AdapterHealth.toJson
        ⟨1, type, none, state, stateCode state, checkedAt⟩)) name = (do
      let type ← Validation.requireString (some (.string type))
        (name ++ ".type") 100
      let checkedAt ← Validation.boundedInteger (some (.number checkedAt))
        (name ++ ".checkedAt") 0 JsonText.maxSafeInteger
      return ⟨1, type, none, state, stateCode state, checkedAt⟩) := by
  obtain ⟨written, codeWritten, known⟩ := healthStates_text state
  have fields := rejectUnknownFields_of name
    ["schemaVersion", "type", "state", "code", "checkedAt"]
    [("schemaVersion", .number 1), ("type", .string type),
      ("state", .string state.text), ("code", .string (stateCode state)),
      ("checkedAt", .number checkedAt)] (by simp)
  simp [validateAdapterHealthReport, AdapterHealth.toJson,
    Validation.requireObject, Json.field?, schemaVersion_one,
    Validation.requireString_of written,
    Validation.requireString_of codeWritten, known, fields, ensure,
    bind, Except.bind, pure, Except.pure]

theorem validateAdapterHealthReport_v2 (type id : String) (state : HealthState)
    (checkedAt : Int) (name : String) :
    validateAdapterHealthReport (some (AdapterHealth.toJson
        ⟨2, type, some id, state, stateCode state, checkedAt⟩)) name = (do
      let type ← Validation.requireString (some (.string type))
        (name ++ ".type") 100
      let checkedAt ← Validation.boundedInteger (some (.number checkedAt))
        (name ++ ".checkedAt") 0 JsonText.maxSafeInteger
      let id ← Validation.requireString (some (.string id))
        (name ++ ".adapterId") 200
      ensure (isAdapterId id)
        (name ++ ".adapterId contains unsupported characters")
      return ⟨2, type, some id, state, stateCode state, checkedAt⟩) := by
  obtain ⟨written, codeWritten, known⟩ := healthStates_text state
  have fields := rejectUnknownFields_of name
    ["schemaVersion", "type", "state", "code", "checkedAt", "adapterId"]
    [("schemaVersion", .number 2), ("type", .string type),
      ("adapterId", .string id), ("state", .string state.text),
      ("code", .string (stateCode state)), ("checkedAt", .number checkedAt)]
    (by simp)
  simp [validateAdapterHealthReport, AdapterHealth.toJson,
    Validation.requireObject, Json.field?, schemaVersion_two,
    Validation.requireString_of written,
    Validation.requireString_of codeWritten, known, fields, ensure,
    bind, Except.bind, pure, Except.pure]

theorem validateAdapterHealthReport_toJson {health : AdapterHealth}
    (wellFormed : health.WellFormed) (name : String) :
    validateAdapterHealthReport (some health.toJson) name = .ok health := by
  obtain ⟨schemaVersion, type, adapterId, state, code, checkedAt⟩ := health
  obtain ⟨⟨typed, identified⟩, coded, early, late⟩ := wellFormed
  simp only at coded early late
  subst coded
  have time : Validation.boundedInteger (some (.number checkedAt))
      (name ++ ".checkedAt") 0 JsonText.maxSafeInteger = .ok checkedAt :=
    boundedInteger_of _ early late (by omega)
  rcases identified with ⟨rfl, rfl⟩ | ⟨rfl, id, rfl, bounded, pattern⟩
  · rw [validateAdapterHealthReport_v1, Validation.requireString_of typed, time]
    rfl
  · rw [validateAdapterHealthReport_v2, Validation.requireString_of typed, time,
      Validation.requireString_of bounded]
    simp only [bind, Except.bind, ensure_of pattern]
    rfl

/-! ## What is read is well formed -/

theorem boundedInteger_ok {number read : Int} {name : String}
    {minimum maximum : Int}
    (ran : Validation.boundedInteger (some (.number number)) name minimum
      maximum = .ok read) :
    read = number ∧ minimum ≤ number ∧ number ≤ maximum := by
  unfold Validation.boundedInteger at ran
  simp only [Rat.den_intCast, Rat.num_intCast] at ran
  split_ifs at ran with fits
  cases ran
  exact ⟨rfl, fits.2.2⟩

theorem validateAdapterManifest_wellFormed {value : Option Json} {name : String}
    {manifest : AdapterManifest}
    (read : validateAdapterManifest value name = .ok manifest) :
    manifest.WellFormed := by
  unfold validateAdapterManifest at read
  obtain ⟨object, _, read⟩ := bind_ok.mp read
  obtain ⟨schemaVersion, _, read⟩ := bind_ok.mp read
  obtain ⟨_, _, read⟩ := bind_ok.mp read
  obtain ⟨type, typed, read⟩ := bind_ok.mp read
  obtain ⟨version, versioned, read⟩ := bind_ok.mp read
  obtain ⟨_, semantic, read⟩ := bind_ok.mp read
  obtain ⟨_, _, read⟩ := bind_ok.mp read
  obtain ⟨mode, _, read⟩ := bind_ok.mp read
  have typed := Validation.requireString_ok typed
  have versioned := Validation.requireString_ok versioned
  have semantic := ensure_ok.mp semantic
  split_ifs at read with first
  · cases read
    exact ⟨⟨typed, .inl ⟨rfl, rfl⟩⟩, versioned, semantic⟩
  · obtain ⟨id, identified, read⟩ := bind_ok.mp read
    obtain ⟨_, pattern, read⟩ := bind_ok.mp read
    cases read
    have identified := Validation.requireString_ok identified
    have pattern := ensure_ok.mp pattern
    exact ⟨⟨typed, .inr ⟨rfl, id, rfl, identified, pattern⟩⟩, versioned,
      semantic⟩

theorem boundedInteger_bounds {value : Option Json} {name : String}
    {minimum maximum read : Int}
    (ran : Validation.boundedInteger value name minimum maximum = .ok read) :
    minimum ≤ read ∧ read ≤ maximum := by
  unfold Validation.boundedInteger at ran
  simp only at ran
  split at ran
  · split_ifs at ran with fits
    cases ran
    exact fits.2.2
  · cases ran

theorem validateAdapterHealthReport_wellFormed {value : Option Json}
    {name : String} {health : AdapterHealth}
    (read : validateAdapterHealthReport value name = .ok health) :
    health.WellFormed := by
  unfold validateAdapterHealthReport at read
  obtain ⟨object, _, read⟩ := bind_ok.mp read
  obtain ⟨schemaVersion, _, read⟩ := bind_ok.mp read
  obtain ⟨_, _, read⟩ := bind_ok.mp read
  obtain ⟨type, typed, read⟩ := bind_ok.mp read
  obtain ⟨_, _, read⟩ := bind_ok.mp read
  obtain ⟨state, _, read⟩ := bind_ok.mp read
  obtain ⟨code, _, read⟩ := bind_ok.mp read
  obtain ⟨_, coded, read⟩ := bind_ok.mp read
  obtain ⟨checkedAt, timed, read⟩ := bind_ok.mp read
  have typed := Validation.requireString_ok typed
  have coded : code = stateCode state := of_decide_eq_true (ensure_ok.mp coded)
  have timed := boundedInteger_bounds timed
  split_ifs at read with first
  · cases read
    exact ⟨⟨typed, .inl ⟨rfl, rfl⟩⟩, coded, timed⟩
  · obtain ⟨id, identified, read⟩ := bind_ok.mp read
    obtain ⟨_, pattern, read⟩ := bind_ok.mp read
    cases read
    have identified := Validation.requireString_ok identified
    have pattern := ensure_ok.mp pattern
    exact ⟨⟨typed, .inr ⟨rfl, id, rfl, identified, pattern⟩⟩, coded, timed⟩

/-! ## Reading a list -/

namespace AdapterContract

theorem mapM_ok {β γ : Type} {action : β → Except String γ} {value : β → γ}
    {items : List β} {results : List γ}
    (valued : ∀ item ∈ items, ∀ result,
      action item = .ok result → result = value item)
    (ran : items.mapM action = .ok results) :
    results = items.map value ∧
      ∀ item ∈ items, action item = .ok (value item) := by
  induction items generalizing results with
  | nil =>
      rw [List.mapM_nil] at ran
      cases ran
      exact ⟨rfl, fun item member => by cases member⟩
  | cons item items induction =>
      rw [List.mapM_cons] at ran
      obtain ⟨first, here, ran⟩ := bind_ok.mp ran
      obtain ⟨rest, later, ran⟩ := bind_ok.mp ran
      cases ran
      have same := valued item List.mem_cons_self first here
      obtain ⟨rest, each⟩ := induction (fun other member =>
        valued other (List.mem_cons_of_mem _ member)) later
      rw [same, rest]
      refine ⟨rfl, ?_⟩
      intro other member
      rcases List.mem_cons.mp member with rfl | member
      · rw [here, same]
      · exact each other member

theorem mapM_of {β γ : Type} {action : β → Except String γ} {value : β → γ}
    {items : List β} (each : ∀ item ∈ items, action item = .ok (value item)) :
    items.mapM action = .ok (items.map value) := by
  induction items with
  | nil => rfl
  | cons item items induction =>
      rw [List.mapM_cons, each item List.mem_cons_self,
        induction (fun other member => each other (List.mem_cons_of_mem _ member))]
      rfl

section Lists

variable {α : Type} {read : Option Json → String → Except String α}
  {identityOf : α → Identity} {toJson : α → Json}

/-- The types of the version 1 entries. -/
def v1Types (identities : List Identity) : List String :=
  (identities.filter (fun identity => identity.1 = 1)).map (·.2.1)

/-- The types of the other entries. -/
def v2Types (identities : List Identity) : List String :=
  (identities.filter (fun identity => identity.1 ≠ 1)).map (·.2.1)

/-- The adapters of the other entries. -/
def adapterIds (identities : List Identity) : List String :=
  (identities.filter (fun identity => identity.1 ≠ 1)).map (·.2.2.getD "")

/-- No type and no adapter occurs twice, and no type is of both versions. -/
structure Distinct (identities : List Identity) : Prop where
  types : (v1Types identities).Nodup
  adapters : (adapterIds identities).Nodup
  unmixed : ∀ type ∈ v1Types identities, type ∉ v2Types identities

/-- Entries of the first version, and then entries of the second. -/
theorem distinct_append {first second : List Identity}
    (isFirst : ∀ identity ∈ first, identity.1 = 1)
    (isSecond : ∀ identity ∈ second, identity.1 ≠ 1) :
    Distinct (first ++ second) ↔
      (first.map (·.2.1)).Nodup ∧ (second.map (·.2.2.getD "")).Nodup ∧
        ∀ type ∈ first.map (·.2.1), type ∉ second.map (·.2.1) := by
  have keepFirst : first.filter (fun identity => identity.1 = 1) = first :=
    List.filter_eq_self.mpr (fun identity member =>
      decide_eq_true (isFirst identity member))
  have dropFirst : first.filter (fun identity => identity.1 ≠ 1) = [] :=
    List.filter_eq_nil_iff.mpr (fun identity member other =>
      of_decide_eq_true other (isFirst identity member))
  have keepSecond : second.filter (fun identity => identity.1 ≠ 1) = second :=
    List.filter_eq_self.mpr (fun identity member =>
      decide_eq_true (isSecond identity member))
  have dropSecond : second.filter (fun identity => identity.1 = 1) = [] :=
    List.filter_eq_nil_iff.mpr (fun identity member other =>
      isSecond identity member (of_decide_eq_true other))
  have types : v1Types (first ++ second) = first.map (·.2.1) := by
    rw [v1Types, List.filter_append, keepFirst, dropSecond, List.append_nil]
  have others : v2Types (first ++ second) = second.map (·.2.1) := by
    rw [v2Types, List.filter_append, dropFirst, keepSecond, List.nil_append]
  have ids : adapterIds (first ++ second) = second.map (·.2.2.getD "") := by
    rw [adapterIds, List.filter_append, dropFirst, keepSecond, List.nil_append]
  constructor
  · intro distinct
    rw [← types, ← ids, ← others]
    exact ⟨distinct.types, distinct.adapters, distinct.unmixed⟩
  · intro facts
    rw [← types, ← ids, ← others] at facts
    exact ⟨facts.1, facts.2.1, facts.2.2⟩

/-- The sets once these entries have been added. -/
def seenAfter (seen : Seen) (identities : List Identity) : Seen where
  v1Types := seen.v1Types ++ v1Types identities
  v2Types := seen.v2Types ++ v2Types identities
  adapterIds := seen.adapterIds ++ adapterIds identities

theorem add_ok {seen next : Seen} {name : String} {identity : Identity} :
    seen.add name identity = .ok next ↔
      (∀ type ∈ v1Types [identity], type ∉ seen.v1Types) ∧
        (∀ id ∈ adapterIds [identity], id ∉ seen.adapterIds) ∧
        next = seenAfter seen [identity] := by
  obtain ⟨schemaVersion, type, adapterId⟩ := identity
  by_cases first : schemaVersion = 1
  · by_cases known : type ∈ seen.v1Types
    · simp [Seen.add, v1Types, first, known]
    · simp [Seen.add, v1Types, v2Types, adapterIds, first, known, seenAfter,
        eq_comm]
  · by_cases known : adapterId.getD "" ∈ seen.adapterIds
    · simp [Seen.add, adapterIds, first, known]
    · simp [Seen.add, v1Types, v2Types, adapterIds, first, known, seenAfter,
        eq_comm]

theorem v1Types_cons (identity : Identity) (rest : List Identity) :
    v1Types (identity :: rest) = v1Types [identity] ++ v1Types rest := by
  rw [← List.singleton_append]
  simp only [v1Types, List.filter_append, List.map_append]

theorem v2Types_cons (identity : Identity) (rest : List Identity) :
    v2Types (identity :: rest) = v2Types [identity] ++ v2Types rest := by
  rw [← List.singleton_append]
  simp only [v2Types, List.filter_append, List.map_append]

theorem adapterIds_cons (identity : Identity) (rest : List Identity) :
    adapterIds (identity :: rest) = adapterIds [identity] ++ adapterIds rest := by
  rw [← List.singleton_append]
  simp only [adapterIds, List.filter_append, List.map_append]

theorem seenAfter_cons (seen : Seen) (identity : Identity)
    (rest : List Identity) :
    seenAfter seen (identity :: rest) =
      seenAfter (seenAfter seen [identity]) rest := by
  simp only [seenAfter, Seen.mk.injEq, List.append_assoc]
  exact ⟨by rw [v1Types_cons], by rw [v2Types_cons], by rw [adapterIds_cons]⟩

theorem nodup_append_singleton {known added : List String}
    (short : added.length ≤ 1) (distinct : known.Nodup) :
    (known ++ added).Nodup ↔ ∀ text ∈ added, text ∉ known := by
  rw [List.nodup_append']
  constructor
  · intro joined text member listed
    exact joined.2.2 listed member
  · intro fresh
    refine ⟨distinct, ?_, ?_⟩
    · match added, short with
      | [], _ => exact List.nodup_nil
      | [_], _ => exact List.nodup_singleton _
    · intro text listed member
      exact fresh text member listed

theorem v1Types_singleton_length (identity : Identity) :
    (v1Types [identity]).length ≤ 1 := by
  rw [v1Types, List.length_map]
  exact List.length_filter_le _ _

theorem adapterIds_singleton_length (identity : Identity) :
    (adapterIds [identity]).length ≤ 1 := by
  rw [adapterIds, List.length_map]
  exact List.length_filter_le _ _

theorem readEach_ok {name : String} {index : Nat} {seen next : Seen}
    {entries result : List α}
    (readBack : ∀ entry ∈ entries, ∀ name,
      read (some (toJson entry)) name = .ok entry)
    (types : seen.v1Types.Nodup) (adapters : seen.adapterIds.Nodup) :
    readEach read identityOf name index seen (entries.map toJson) =
        .ok (result, next) ↔
      (result = entries ∧ next = seenAfter seen (entries.map identityOf) ∧
        next.v1Types.Nodup ∧ next.adapterIds.Nodup) := by
  induction entries generalizing index seen result with
  | nil =>
      simp only [List.map_nil, readEach, Except.ok.injEq, Prod.mk.injEq]
      constructor
      · rintro ⟨rfl, rfl⟩
        refine ⟨rfl, ?_, types, adapters⟩
        simp [seenAfter, v1Types, v2Types, adapterIds]
      · rintro ⟨rfl, rfl, _⟩
        refine ⟨rfl, ?_⟩
        simp [seenAfter, v1Types, v2Types, adapterIds]
  | cons entry rest induction =>
      have here := readBack entry List.mem_cons_self
      have later : ∀ other ∈ rest, ∀ name,
          read (some (toJson other)) name = .ok other :=
        fun other member => readBack other (List.mem_cons_of_mem _ member)
      have oneType := nodup_append_singleton
        (v1Types_singleton_length (identityOf entry)) types
      have oneId := nodup_append_singleton
        (adapterIds_singleton_length (identityOf entry)) adapters
      rw [List.map_cons, readEach, here, List.map_cons, seenAfter_cons]
      constructor
      · intro ran
        obtain ⟨_, same, ran⟩ := bind_ok.mp ran
        cases same
        obtain ⟨added, add, ran⟩ := bind_ok.mp ran
        obtain ⟨freshType, freshId, rfl⟩ := add_ok.mp add
        obtain ⟨⟨entries, after⟩, tail, ran⟩ := bind_ok.mp ran
        cases ran
        obtain ⟨rfl, rest⟩ := (induction later (oneType.mpr freshType)
          (oneId.mpr freshId)).mp tail
        exact ⟨rfl, rest⟩
      · intro facts
        obtain ⟨rfl, rfl, typesAfter, idsAfter⟩ := facts
        have typesHere : (seenAfter seen [identityOf entry]).v1Types.Nodup :=
          typesAfter.of_append_left
        have idsHere : (seenAfter seen [identityOf entry]).adapterIds.Nodup :=
          idsAfter.of_append_left
        have add : seen.add name (identityOf entry) =
            .ok (seenAfter seen [identityOf entry]) :=
          add_ok.mpr ⟨oneType.mp typesHere, oneId.mp idsHere, rfl⟩
        have tail : readEach read identityOf name (index + 1) _
            (rest.map toJson) = .ok (rest, _) :=
          (induction later typesHere idsHere).mpr
            ⟨rfl, rfl, typesAfter, idsAfter⟩
        refine bind_ok.mpr ⟨entry, rfl, bind_ok.mpr ⟨_, add, ?_⟩⟩
        exact bind_ok.mpr ⟨_, tail, rfl⟩

/-- A list that was written out is read back, sorted, exactly when it is short
and its entries are distinct. -/
theorem validateEntries_ok {locale : Locale} {name : String}
    {entries result : List α}
    (readBack : ∀ entry ∈ entries, ∀ name,
      read (some (toJson entry)) name = .ok entry) :
    validateEntries read identityOf locale
        (some (.array (entries.map toJson))) name = .ok result ↔
      (entries.length ≤ 64 ∧ Distinct (entries.map identityOf) ∧
        result = sortBy (fun left right => compareIdentities locale
          (identityOf left) (identityOf right)) entries) := by
  unfold validateEntries
  simp only [List.length_map]
  split_ifs with long
  · constructor
    · intro refused
      cases refused
    · intro facts
      omega
  · have reading : ∀ {result : List α} {next : Seen},
        readEach read identityOf name 0 ⟨[], [], []⟩ (entries.map toJson) =
          .ok (result, next) ↔ _ :=
      readEach_ok readBack List.nodup_nil List.nodup_nil
    constructor
    · intro ran
      obtain ⟨⟨read, seen⟩, items, ran⟩ := bind_ok.mp ran
      obtain ⟨rfl, rfl, types, adapters⟩ := reading.mp items
      split at ran
      · cases ran
      · rename_i unmixed
        cases ran
        refine ⟨not_lt.mp long, ⟨types, adapters, ?_⟩, rfl⟩
        intro type first second
        exact List.find?_eq_none.mp unmixed type first (decide_eq_true second)
    · intro facts
      obtain ⟨_, distinct, rfl⟩ := facts
      refine bind_ok.mpr ⟨_, reading.mpr
        ⟨rfl, rfl, distinct.types, distinct.adapters⟩, ?_⟩
      have unmixed : (seenAfter ⟨[], [], []⟩
          (entries.map identityOf)).v1Types.find? (fun type =>
            type ∈ (seenAfter ⟨[], [], []⟩
              (entries.map identityOf)).v2Types) = none :=
        List.find?_eq_none.mpr (fun type first second =>
          distinct.unmixed type first (of_decide_eq_true second))
      simp only [unmixed]
      rfl

end Lists

end AdapterContract

end GpuLink
