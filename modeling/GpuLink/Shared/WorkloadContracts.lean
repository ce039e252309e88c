import GpuLink.Shared.AdapterContract

/-!
# Payloads and models

What a job may carry for the workloads that the repository knows, and what a
worker may say of the models it holds.  Both are read to a normal form.
-/

namespace GpuLink

open AdapterContract Validation

namespace Validation

/-- `boundedInteger` with a fallback. -/
def integerOr (value : Option Json) (name : String)
    (minimum maximum fallback : Int) : Except String Int :=
  match value with
  | none => .ok fallback
  | some value => boundedInteger (some value) name minimum maximum

/-- `optionalObject` -/
def optionalObject (value : Option Json) (name : String) :
    Except String Json :=
  match value with
  | none => .ok (.object [])
  | some value => requireObject (some value) name

/-- `optionalString` -/
def optionalString (value : Option Json) (name : String)
    (fallback : Option String) (maximum : Nat) :
    Except String (Option String) :=
  match value with
  | none => .ok fallback
  | some .null => .ok fallback
  | some (.string "") => .ok fallback
  | some value => (requireString (some value) name maximum).map some

end Validation

def ModelEntry.toJson (entry : ModelEntry) : Json :=
  .object [("schemaVersion", .number (entry.schemaVersion : Int)),
    ("modelId", .string entry.modelId), ("revision", .string entry.revision),
    ("adapterType", .string entry.adapterType)]

namespace WorkloadContracts

/-! ## Benchmarks -/

/-- `BENCHMARK_TYPE` -/
def benchmarkType : String := "benchmark.gpu"

/-- `BENCHMARK_MATRIX_SIZES` -/
def benchmarkMatrixSizes : List Int := [1024, 2048, 4096, 8192]

structure BenchmarkPayload where
  schemaVersion : Int
  matrixSize : Int
  warmupIterations : Int
  measuredIterations : Int
  deriving DecidableEq, Repr

/-- `BENCHMARK_DEFAULTS` -/
def benchmarkDefaults : BenchmarkPayload := ⟨1, 4096, 3, 10⟩

def BenchmarkPayload.toJson (payload : BenchmarkPayload) : Json :=
  .object [("schemaVersion", .number payload.schemaVersion),
    ("matrixSize", .number payload.matrixSize),
    ("warmupIterations", .number payload.warmupIterations),
    ("measuredIterations", .number payload.measuredIterations)]

def validateBenchmarkPayload (value : Option Json) :
    Except String BenchmarkPayload := do
  let payload ← requireObject value "payload"
  rejectUnknownFields payload "payload"
    ["schemaVersion", "matrixSize", "warmupIterations", "measuredIterations"]
  let schemaVersion ← integerOr (payload.field? "schemaVersion")
    "payload.schemaVersion" 1 1 benchmarkDefaults.schemaVersion
  let matrixSize ← integerOr (payload.field? "matrixSize")
    "payload.matrixSize" 1024 8192 benchmarkDefaults.matrixSize
  ensure (matrixSize ∈ benchmarkMatrixSizes)
    "payload.matrixSize must be one of 1024, 2048, 4096, 8192"
  let warmupIterations ← integerOr (payload.field? "warmupIterations")
    "payload.warmupIterations" 1 10 benchmarkDefaults.warmupIterations
  let measuredIterations ← integerOr (payload.field? "measuredIterations")
    "payload.measuredIterations" 1 25 benchmarkDefaults.measuredIterations
  return ⟨schemaVersion, matrixSize, warmupIterations, measuredIterations⟩

/-! ## Transcriptions -/

/-- `TRANSCRIPTION_TYPE` -/
def transcriptionType : String := "speech.streaming"

/-- `TRANSGO_PROTOCOL` -/
def transgoProtocol : String := "transgo-v1"

structure AudioContract where
  encoding : String
  sampleRateHz : Int
  channels : Int
  frameDurationMs : Int
  deriving DecidableEq, Repr

/-- `TRANSCRIPTION_AUDIO_CONTRACT` -/
def transcriptionAudio : AudioContract := ⟨"pcm-s16le", 16000, 1, 100⟩

structure TranscriptionPayload where
  schemaVersion : Int
  protocol : String
  audio : AudioContract
  interimResults : Bool
  deriving DecidableEq, Repr

def AudioContract.toJson (audio : AudioContract) : Json :=
  .object [("encoding", .string audio.encoding),
    ("sampleRateHz", .number audio.sampleRateHz),
    ("channels", .number audio.channels),
    ("frameDurationMs", .number audio.frameDurationMs)]

def TranscriptionPayload.toJson (payload : TranscriptionPayload) : Json :=
  .object [("schemaVersion", .number payload.schemaVersion),
    ("protocol", .string payload.protocol), ("audio", payload.audio.toJson),
    ("interimResults", .bool payload.interimResults)]

/-- A text that has one value, which is also what is taken for no text. -/
def exactString (value : Option Json) (name expected : String) :
    Except String String := do
  let text ← optionalString value name (some expected) 50
  ensure (text = some expected) (name ++ " must be " ++ expected)
  return expected

def exactInteger (value : Option Json) (name : String) (expected : Int) :
    Except String Int :=
  integerOr value name expected expected expected

def validateAudioContract (value : Json) : Except String AudioContract := do
  rejectUnknownFields value "payload.audio"
    ["encoding", "sampleRateHz", "channels", "frameDurationMs"]
  let encoding ← exactString (value.field? "encoding") "payload.audio.encoding"
    transcriptionAudio.encoding
  let sampleRateHz ← exactInteger (value.field? "sampleRateHz")
    "payload.audio.sampleRateHz" transcriptionAudio.sampleRateHz
  let channels ← exactInteger (value.field? "channels")
    "payload.audio.channels" transcriptionAudio.channels
  let frameDurationMs ← exactInteger (value.field? "frameDurationMs")
    "payload.audio.frameDurationMs" transcriptionAudio.frameDurationMs
  return ⟨encoding, sampleRateHz, channels, frameDurationMs⟩

/-- `payload.interimResults ?? true` -/
def readInterimResults : Option Json → Except String Bool
  | none => .ok true
  | some .null => .ok true
  | some (.bool value) => .ok value
  | some _ => .error "payload.interimResults must be a boolean"

def validateTranscriptionPayload (value : Option Json) :
    Except String TranscriptionPayload := do
  let payload ← requireObject value "payload"
  rejectUnknownFields payload "payload"
    ["schemaVersion", "protocol", "audio", "interimResults"]
  let schemaVersion ← exactInteger (payload.field? "schemaVersion")
    "payload.schemaVersion" 1
  let protocol ← exactString (payload.field? "protocol") "payload.protocol"
    transgoProtocol
  let audio ← optionalObject (payload.field? "audio") "payload.audio"
  let audio ← validateAudioContract audio
  let interimResults ← readInterimResults (payload.field? "interimResults")
  return ⟨schemaVersion, protocol, audio, interimResults⟩

/-- Payloads of other types are taken as they are. -/
def validateWorkloadPayload (type : String) (payload : Json) :
    Except String Json :=
  if type = benchmarkType then
    (validateBenchmarkPayload (some payload)).map BenchmarkPayload.toJson
  else if type = transcriptionType then
    (validateTranscriptionPayload (some payload)).map
      TranscriptionPayload.toJson
  else .ok payload

/-! ## Models -/

/-- `[A-Za-z0-9]`, then what may follow it. -/
def isIdentifier (mayFollow : Char → Bool) (text : String) : Bool :=
  match text.toList with
  | [] => false
  | first :: rest => isAlphanumeric first && rest.all mayFollow

/-- `[A-Za-z0-9._-]` -/
def isRevisionChar (c : Char) : Bool :=
  isAlphanumeric c || c = '.' || c = '_' || c = '-'

/-- As in a revision, and slashes. -/
def isModelIdChar (c : Char) : Bool :=
  isRevisionChar c || c = '/'

def requireIdentifier (value : Option Json) (name : String) (maximum : Nat)
    (mayFollow : Char → Bool) : Except String String := do
  let result ← requireString value name maximum
  ensure (isIdentifier mayFollow result)
    (name ++ " contains unsupported characters")
  return result

def validateModelInventoryEntry (value : Option Json) (name : String) :
    Except String ModelEntry := do
  let entry ← requireObject value name
  rejectUnknownFields entry name
    ["schemaVersion", "modelId", "revision", "adapterType"]
  let schemaVersion ← boundedInteger (entry.field? "schemaVersion")
    (name ++ ".schemaVersion") 1 1
  let modelId ← requireIdentifier (entry.field? "modelId") (name ++ ".modelId")
    300 isModelIdChar
  let revision ← requireIdentifier (entry.field? "revision")
    (name ++ ".revision") 200 isRevisionChar
  let adapterType ← requireIdentifier (entry.field? "adapterType")
    (name ++ ".adapterType") 100 isModelIdChar
  return ⟨schemaVersion.toNat, modelId, revision, adapterType⟩

def readInventory (name : String) :
    Nat → List String → List Json → Except String (List ModelEntry)
  | _, _, [] => .ok []
  | index, modelIds, item :: items => do
      let entry ← validateModelInventoryEntry (some item)
        (name ++ "[" ++ toString index ++ "]")
      if entry.modelId ∈ modelIds then
        .error (name ++ " contains duplicate modelId " ++ entry.modelId)
      else
        let rest ← readInventory name (index + 1) (entry.modelId :: modelIds)
          items
        return entry :: rest

def validateModelInventory (locale : Locale) (value : Option Json)
    (name : String := "modelInventory") :
    Except String (List ModelEntry) :=
  let refused := name ++ " must be an array with at most 64 items"
  match value with
  | some (.array items) =>
      if items.length > 64 then .error refused
      else do
        let inventory ← readInventory name 0 [] items
        return sortBy (fun left right =>
          locale.compare left.modelId right.modelId) inventory
  | _ => .error refused

/-! ## Reading the normal form -/

theorem integerOr_bounds {value : Option Json} {name : String}
    {minimum maximum fallback read : Int}
    (fits : minimum ≤ fallback ∧ fallback ≤ maximum)
    (ran : integerOr value name minimum maximum fallback = .ok read) :
    minimum ≤ read ∧ read ≤ maximum := by
  cases value with
  | none =>
      cases ran
      exact fits
  | some value => exact boundedInteger_bounds ran

theorem integerOr_of (number : Int) {name : String}
    {minimum maximum fallback : Int} (above : minimum ≤ number)
    (below : number ≤ maximum)
    (safe : number.natAbs ≤ JsonText.maxSafeInteger) :
    integerOr (some (.number number)) name minimum maximum fallback =
      .ok number :=
  boundedInteger_of number above below safe

structure BenchmarkPayload.WellFormed (payload : BenchmarkPayload) : Prop where
  schemaVersion : payload.schemaVersion = 1
  matrixSize : payload.matrixSize ∈ benchmarkMatrixSizes
  warmup : 1 ≤ payload.warmupIterations ∧ payload.warmupIterations ≤ 10
  measured : 1 ≤ payload.measuredIterations ∧ payload.measuredIterations ≤ 25

theorem validateBenchmarkPayload_wellFormed {value : Option Json}
    {payload : BenchmarkPayload}
    (read : validateBenchmarkPayload value = .ok payload) :
    payload.WellFormed := by
  unfold validateBenchmarkPayload at read
  obtain ⟨object, _, read⟩ := bind_ok.mp read
  obtain ⟨_, _, read⟩ := bind_ok.mp read
  obtain ⟨schemaVersion, versioned, read⟩ := bind_ok.mp read
  obtain ⟨matrixSize, _, read⟩ := bind_ok.mp read
  obtain ⟨_, sized, read⟩ := bind_ok.mp read
  obtain ⟨warmup, warmed, read⟩ := bind_ok.mp read
  obtain ⟨measured, timed, read⟩ := bind_ok.mp read
  cases read
  have version := integerOr_bounds (by decide) versioned
  exact ⟨le_antisymm version.2 version.1,
    of_decide_eq_true (ensure_ok.mp sized),
    integerOr_bounds (by decide) warmed, integerOr_bounds (by decide) timed⟩

theorem natAbs_small {number : Int} (above : 1 ≤ number)
    (below : number ≤ 1000000) : number.natAbs ≤ JsonText.maxSafeInteger := by
  unfold JsonText.maxSafeInteger
  omega

theorem validateBenchmarkPayload_toJson {payload : BenchmarkPayload}
    (wellFormed : payload.WellFormed) :
    validateBenchmarkPayload (some payload.toJson) = .ok payload := by
  obtain ⟨schemaVersion, matrixSize, warmup, measured⟩ := payload
  obtain ⟨rfl, sized, ⟨warmAbove, warmBelow⟩, above, below⟩ := wellFormed
  dsimp only at sized warmAbove warmBelow above below
  have known := rejectUnknownFields_of "payload"
    ["schemaVersion", "matrixSize", "warmupIterations", "measuredIterations"]
    [("schemaVersion", .number ((1 : Int) : Rat)),
      ("matrixSize", .number matrixSize), ("warmupIterations", .number warmup),
      ("measuredIterations", .number measured)] (by simp)
  have size : 1024 ≤ matrixSize ∧ matrixSize ≤ 8192 := by
    simp only [benchmarkMatrixSizes, List.mem_cons, List.not_mem_nil,
      or_false] at sized
    omega
  have version : ∀ {name fallback}, integerOr (some (.number (1 : Int))) name
      1 1 fallback = .ok 1 :=
    integerOr_of 1 le_rfl le_rfl (natAbs_small le_rfl (by decide))
  have matrix : ∀ {name fallback}, integerOr (some (.number matrixSize)) name
      1024 8192 fallback = .ok matrixSize :=
    integerOr_of matrixSize size.1 size.2 (natAbs_small (by omega) (by omega))
  have first : ∀ {name fallback}, integerOr (some (.number warmup)) name 1 10
      fallback = .ok warmup :=
    integerOr_of warmup warmAbove warmBelow (natAbs_small warmAbove (by omega))
  have second : ∀ {name fallback}, integerOr (some (.number measured)) name 1
      25 fallback = .ok measured :=
    integerOr_of measured above below (natAbs_small above (by omega))
  exact bind_ok.mpr ⟨_, rfl, bind_ok.mpr ⟨(), known, bind_ok.mpr ⟨1, version,
    bind_ok.mpr ⟨matrixSize, matrix, bind_ok.mpr ⟨(),
      ensure_of (decide_eq_true sized), bind_ok.mpr ⟨warmup, first,
        bind_ok.mpr ⟨measured, second, rfl⟩⟩⟩⟩⟩⟩⟩

theorem exactString_eq {value : Option Json} {name expected read : String}
    (ran : exactString value name expected = .ok read) : read = expected := by
  obtain ⟨_, _, ran⟩ := bind_ok.mp ran
  obtain ⟨_, _, ran⟩ := bind_ok.mp ran
  cases ran
  rfl

theorem exactString_of {name expected : String}
    (bounded : BoundedText 50 expected) :
    exactString (some (.string expected)) name expected = .ok expected := by
  have read : optionalString (some (.string expected)) name (some expected) 50 =
      .ok (some expected) := by
    unfold optionalString
    split
    · rfl
    · rfl
    · rfl
    · next same =>
        cases same
        rw [requireString_of bounded]
        rfl
  exact bind_ok.mpr ⟨_, read, bind_ok.mpr ⟨(), ensure_of (decide_eq_true rfl),
    rfl⟩⟩

theorem exactInteger_eq {value : Option Json} {name : String}
    {expected read : Int} (ran : exactInteger value name expected = .ok read) :
    read = expected := by
  have bounds := integerOr_bounds ⟨le_rfl, le_rfl⟩ ran
  exact le_antisymm bounds.2 bounds.1

theorem exactInteger_of {expected : Int} {name : String} (above : 1 ≤ expected)
    (below : expected ≤ 1000000) :
    exactInteger (some (.number expected)) name expected = .ok expected :=
  integerOr_of expected le_rfl le_rfl (natAbs_small above below)

/-- The only thing that a transcription may choose. -/
def transcription (interimResults : Bool) : TranscriptionPayload :=
  ⟨1, transgoProtocol, transcriptionAudio, interimResults⟩

theorem validateAudioContract_eq {value : Json} {audio : AudioContract}
    (ran : validateAudioContract value = .ok audio) :
    audio = transcriptionAudio := by
  obtain ⟨_, _, ran⟩ := bind_ok.mp ran
  obtain ⟨encoding, encoded, ran⟩ := bind_ok.mp ran
  obtain ⟨rate, sampled, ran⟩ := bind_ok.mp ran
  obtain ⟨channels, mixed, ran⟩ := bind_ok.mp ran
  obtain ⟨frame, framed, ran⟩ := bind_ok.mp ran
  cases ran
  rw [exactString_eq encoded, exactInteger_eq sampled, exactInteger_eq mixed,
    exactInteger_eq framed]

theorem validateTranscriptionPayload_eq {value : Option Json}
    {payload : TranscriptionPayload}
    (ran : validateTranscriptionPayload value = .ok payload) :
    ∃ interimResults, payload = transcription interimResults := by
  unfold validateTranscriptionPayload at ran
  obtain ⟨_, _, ran⟩ := bind_ok.mp ran
  obtain ⟨_, _, ran⟩ := bind_ok.mp ran
  obtain ⟨version, versioned, ran⟩ := bind_ok.mp ran
  obtain ⟨protocol, spoken, ran⟩ := bind_ok.mp ran
  obtain ⟨_, _, ran⟩ := bind_ok.mp ran
  obtain ⟨audio, heard, ran⟩ := bind_ok.mp ran
  obtain ⟨interimResults, _, ran⟩ := bind_ok.mp ran
  cases ran
  rw [exactInteger_eq versioned, exactString_eq spoken,
    validateAudioContract_eq heard]
  exact ⟨interimResults, rfl⟩

theorem validateAudioContract_toJson :
    validateAudioContract transcriptionAudio.toJson = .ok transcriptionAudio := by
  have known := rejectUnknownFields_of "payload.audio"
    ["encoding", "sampleRateHz", "channels", "frameDurationMs"]
    [("encoding", .string "pcm-s16le"), ("sampleRateHz", .number (16000 : Int)),
      ("channels", .number (1 : Int)), ("frameDurationMs", .number (100 : Int))]
    (by simp)
  have encoding : ∀ {name}, exactString (some (.string "pcm-s16le")) name
      "pcm-s16le" = .ok "pcm-s16le" :=
    exactString_of ⟨by decide, by decide, by decide⟩
  have integer : ∀ {name} (expected : Int), 1 ≤ expected →
      expected ≤ 1000000 → exactInteger (some (.number expected)) name
        expected = .ok expected := fun _ above below =>
    exactInteger_of above below
  exact bind_ok.mpr ⟨(), known, bind_ok.mpr ⟨_, encoding,
    bind_ok.mpr ⟨_, integer 16000 (by decide) (by decide),
      bind_ok.mpr ⟨_, integer 1 (by decide) (by decide),
        bind_ok.mpr ⟨_, integer 100 (by decide) (by decide), rfl⟩⟩⟩⟩⟩

theorem validateTranscriptionPayload_toJson (interimResults : Bool) :
    validateTranscriptionPayload (some (transcription interimResults).toJson) =
      .ok (transcription interimResults) := by
  have known := rejectUnknownFields_of "payload"
    ["schemaVersion", "protocol", "audio", "interimResults"]
    [("schemaVersion", .number (1 : Int)), ("protocol", .string "transgo-v1"),
      ("audio", transcriptionAudio.toJson),
      ("interimResults", .bool interimResults)] (by simp)
  have version : ∀ {name}, exactInteger (some (.number (1 : Int))) name 1 =
      .ok 1 := exactInteger_of (by decide) (by decide)
  have protocol : ∀ {name}, exactString (some (.string "transgo-v1")) name
      "transgo-v1" = .ok "transgo-v1" :=
    exactString_of ⟨by decide, by decide, by decide⟩
  exact bind_ok.mpr ⟨_, rfl, bind_ok.mpr ⟨(), known, bind_ok.mpr ⟨_, version,
    bind_ok.mpr ⟨_, protocol, bind_ok.mpr ⟨_, rfl, bind_ok.mpr ⟨_,
      validateAudioContract_toJson, bind_ok.mpr ⟨interimResults, rfl,
        rfl⟩⟩⟩⟩⟩⟩⟩

theorem map_ok {β γ : Type} {first : Except String β} {change : β → γ}
    {result : γ} : first.map change = .ok result ↔
      ∃ value, first = .ok value ∧ change value = result := by
  cases first with
  | error message =>
      constructor
      · intro none
        cases none
      · rintro ⟨_, none, _⟩
        cases none
  | ok value =>
      constructor
      · intro done
        cases done
        exact ⟨value, rfl, rfl⟩
      · rintro ⟨other, same, rfl⟩
        cases same
        rfl

/-- What has been read is in normal form. -/
theorem validateWorkloadPayload_normal {type : String} {payload result : Json}
    (ran : validateWorkloadPayload type payload = .ok result) :
    validateWorkloadPayload type result = .ok result := by
  unfold validateWorkloadPayload at ran ⊢
  split_ifs at ran ⊢ with benchmark transcribes
  · obtain ⟨read, valid, rfl⟩ := map_ok.mp ran
    exact map_ok.mpr ⟨read, validateBenchmarkPayload_toJson
      (validateBenchmarkPayload_wellFormed valid), rfl⟩
  · obtain ⟨read, valid, rfl⟩ := map_ok.mp ran
    obtain ⟨interimResults, rfl⟩ := validateTranscriptionPayload_eq valid
    exact map_ok.mpr ⟨_, validateTranscriptionPayload_toJson interimResults, rfl⟩
  · rfl

/-! ## Reading an inventory again -/

theorem requireIdentifier_ok {value : Option Json} {name result : String}
    {maximum : Nat} {mayFollow : Char → Bool}
    (ran : requireIdentifier value name maximum mayFollow = .ok result) :
    BoundedText maximum result ∧ isIdentifier mayFollow result = true := by
  obtain ⟨text, read, ran⟩ := bind_ok.mp ran
  obtain ⟨_, pattern, ran⟩ := bind_ok.mp ran
  cases ran
  exact ⟨requireString_ok read, ensure_ok.mp pattern⟩

theorem requireIdentifier_of {name text : String} {maximum : Nat}
    {mayFollow : Char → Bool} (bounded : BoundedText maximum text)
    (pattern : isIdentifier mayFollow text = true) :
    requireIdentifier (some (.string text)) name maximum mayFollow =
      .ok text :=
  bind_ok.mpr ⟨text, requireString_of bounded, bind_ok.mpr ⟨(),
    ensure_of pattern, rfl⟩⟩

structure EntryWellFormed (entry : ModelEntry) :
    Prop where
  schemaVersion : entry.schemaVersion = 1
  modelId : BoundedText 300 entry.modelId ∧
    isIdentifier isModelIdChar entry.modelId = true
  revision : BoundedText 200 entry.revision ∧
    isIdentifier isRevisionChar entry.revision = true
  adapterType : BoundedText 100 entry.adapterType ∧
    isIdentifier isModelIdChar entry.adapterType = true

theorem validateModelInventoryEntry_wellFormed {value : Option Json}
    {name : String} {entry : ModelEntry}
    (ran : validateModelInventoryEntry value name = .ok entry) :
    EntryWellFormed entry := by
  unfold validateModelInventoryEntry at ran
  obtain ⟨_, _, ran⟩ := bind_ok.mp ran
  obtain ⟨_, _, ran⟩ := bind_ok.mp ran
  obtain ⟨version, versioned, ran⟩ := bind_ok.mp ran
  obtain ⟨modelId, named, ran⟩ := bind_ok.mp ran
  obtain ⟨revision, revised, ran⟩ := bind_ok.mp ran
  obtain ⟨adapterType, typed, ran⟩ := bind_ok.mp ran
  cases ran
  have bounds := boundedInteger_bounds versioned
  have one : version = 1 := le_antisymm bounds.2 bounds.1
  exact ⟨by rw [one]; rfl, requireIdentifier_ok named,
    requireIdentifier_ok revised, requireIdentifier_ok typed⟩

theorem validateModelInventoryEntry_toJson {entry : ModelEntry}
    (wellFormed : EntryWellFormed entry) (name : String) :
    validateModelInventoryEntry (some entry.toJson) name = .ok entry := by
  obtain ⟨version, modelId, revision, adapterType⟩ := entry
  obtain ⟨rfl, named, revised, typed⟩ := wellFormed
  have known := rejectUnknownFields_of name
    ["schemaVersion", "modelId", "revision", "adapterType"]
    [("schemaVersion", .number ((1 : Nat) : Int)), ("modelId", .string modelId),
      ("revision", .string revision), ("adapterType", .string adapterType)]
    (by simp)
  have version : ∀ {name}, boundedInteger (some (.number ((1 : Nat) : Int)))
      name 1 1 = .ok 1 := boundedInteger_of 1 le_rfl le_rfl (by decide)
  exact bind_ok.mpr ⟨_, rfl, bind_ok.mpr ⟨(), known, bind_ok.mpr ⟨_, version,
    bind_ok.mpr ⟨_, requireIdentifier_of named.1 named.2,
      bind_ok.mpr ⟨_, requireIdentifier_of revised.1 revised.2,
        bind_ok.mpr ⟨_, requireIdentifier_of typed.1 typed.2, rfl⟩⟩⟩⟩⟩⟩

/-- Entries of models that are apart from each other and from those seen. -/
structure Apart (modelIds : List String) (entries : List ModelEntry) :
    Prop where
  wellFormed : ∀ entry ∈ entries, EntryWellFormed entry
  distinct : (entries.map ModelEntry.modelId).Nodup
  unseen : ∀ entry ∈ entries, entry.modelId ∉ modelIds

theorem readInventory_ok {name : String} {index : Nat} {modelIds : List String}
    {items : List Json} {entries : List ModelEntry}
    (ran : readInventory name index modelIds items = .ok entries) :
    Apart modelIds entries ∧ entries.length = items.length := by
  induction items generalizing index modelIds entries with
  | nil =>
      cases ran
      exact ⟨⟨List.forall_mem_nil _, List.nodup_nil, List.forall_mem_nil _⟩, rfl⟩
  | cons item items induction =>
      unfold readInventory at ran
      obtain ⟨entry, read, ran⟩ := bind_ok.mp ran
      split_ifs at ran with again
      obtain ⟨rest, later, ran⟩ := bind_ok.mp ran
      cases ran
      obtain ⟨apart, counted⟩ := induction later
      refine ⟨⟨?_, ?_, ?_⟩, congrArg Nat.succ counted⟩
      · exact List.forall_mem_cons.mpr
          ⟨validateModelInventoryEntry_wellFormed read, apart.wellFormed⟩
      · rw [List.map_cons, List.nodup_cons]
        refine ⟨fun member => ?_, apart.distinct⟩
        obtain ⟨other, inRest, same⟩ := List.mem_map.mp member
        exact apart.unseen other inRest (same ▸ List.mem_cons_self)
      · refine List.forall_mem_cons.mpr ⟨again, fun other inRest seen => ?_⟩
        exact apart.unseen other inRest (List.mem_cons_of_mem _ seen)

theorem readInventory_of {name : String} {index : Nat} {modelIds : List String}
    {entries : List ModelEntry} (apart : Apart modelIds entries) :
    readInventory name index modelIds
      (entries.map ModelEntry.toJson) = .ok entries := by
  induction entries generalizing index modelIds with
  | nil => rfl
  | cons entry entries induction =>
      obtain ⟨wellFormed, distinct, unseen⟩ := apart
      rw [List.map_cons, List.nodup_cons] at distinct
      have fresh : Apart (entry.modelId :: modelIds) entries := by
        refine ⟨(List.forall_mem_cons.mp wellFormed).2, distinct.2, ?_⟩
        intro other member seen
        rcases List.mem_cons.mp seen with same | seen
        · exact distinct.1 (same ▸ List.mem_map_of_mem member)
        · exact unseen other (List.mem_cons_of_mem _ member) seen
      rw [List.map_cons, readInventory, validateModelInventoryEntry_toJson
        (wellFormed entry List.mem_cons_self)]
      change (if _ then _ else _) = _
      rw [if_neg (unseen entry List.mem_cons_self), induction fresh]
      rfl

/-- A list that has been sorted is not changed by sorting it again. -/
theorem sortBy_sortBy {α : Type} {comparator : α → α → Ordering}
    (total : ∀ left right, comparator left right ≠ .gt ∨
      comparator right left ≠ .gt)
    (trans : ∀ first second third, comparator first second ≠ .gt →
      comparator second third ≠ .gt → comparator first third ≠ .gt)
    (items : List α) :
    sortBy comparator (sortBy comparator items) = sortBy comparator items := by
  have : Std.Total fun left right : α =>
      decide (comparator left right ≠ .gt) = true := by
    refine ⟨fun left right => ?_⟩
    rw [decide_eq_true_eq, decide_eq_true_eq]
    exact total left right
  have : IsTrans α fun left right =>
      decide (comparator left right ≠ .gt) = true := by
    refine ⟨fun first second third before after => ?_⟩
    rw [decide_eq_true_eq] at before after ⊢
    exact trans first second third before after
  exact (List.pairwise_insertionSort _ items).insertionSort_eq

theorem locale_total (locale : Locale) (left right : String) :
    locale.compare left right ≠ .gt ∨ locale.compare right left ≠ .gt := by
  rw [locale.swap left right]
  cases locale.compare left right <;> decide

theorem Apart.perm {modelIds : List String}
    {entries permuted : List ModelEntry} (apart : Apart modelIds entries)
    (perm : permuted.Perm entries) : Apart modelIds permuted where
  wellFormed entry member := apart.wellFormed entry (perm.mem_iff.mp member)
  distinct := (perm.map _).nodup_iff.mpr apart.distinct
  unseen entry member := apart.unseen entry (perm.mem_iff.mp member)

/-- An inventory that has been read has no model twice, and is read again as
it is. -/
theorem validateModelInventory_normal {locale : Locale} {value : Option Json}
    {name : String} {inventory : List ModelEntry}
    (ran : validateModelInventory locale value name = .ok inventory) :
    Apart [] inventory ∧ inventory.length ≤ 64 ∧
      validateModelInventory locale
        (some (.array (inventory.map ModelEntry.toJson))) name =
          .ok inventory := by
  unfold validateModelInventory at ran
  split at ran
  · next items =>
      dsimp only at ran
      split_ifs at ran with long
      obtain ⟨entries, read, ran⟩ := bind_ok.mp ran
      cases ran
      obtain ⟨apart, counted⟩ := readInventory_ok read
      have perm : (sortBy (fun left right : ModelEntry =>
          locale.compare left.modelId right.modelId) entries).Perm entries :=
        Sql.orderBy_perm _ entries
      have sorted := apart.perm perm
      have short := perm.length_eq.trans counted
      refine ⟨sorted, by omega, ?_⟩
      unfold validateModelInventory
      dsimp only
      rw [List.length_map, if_neg (by omega), readInventory_of sorted]
      have again := sortBy_sortBy (fun left right : ModelEntry =>
        locale_total locale left.modelId right.modelId)
        (fun _ _ _ => locale.trans) entries
      exact congrArg Except.ok again
  · cases ran

end WorkloadContracts

end GpuLink
