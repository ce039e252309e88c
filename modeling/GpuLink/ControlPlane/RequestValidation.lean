import GpuLink.ControlPlane.AdvertisedAdapters
import GpuLink.Library.Failures
import GpuLink.Shared.WorkloadContracts
import GpuLink.Store.CanonicalJson

/-!
# Submissions, registrations and heartbeats

The control plane reads the body of a request to a value in normal form.  What
it has read, written out again, is read as the same.
-/

namespace GpuLink

open AdapterContract Validation WorkloadContracts
open Migration (enumerated enumerated_idem enumerated_perm map_enumerated)

/-! ## Texts -/

/-- `requireString` -/
def requireText (value : Option Json) (name : String) (maximum : Nat) :
    Except String NonEmptyString :=
  match read : requireString value name maximum with
  | .ok text => .ok ⟨text, (requireString_ok read).nonempty⟩
  | .error message => .error message

/-- `optionalString` without a fallback. -/
def optionalText (value : Option Json) (name : String) (maximum : Nat) :
    Except String (Option NonEmptyString) :=
  match value with
  | none => .ok none
  | some .null => .ok none
  | some (.string "") => .ok none
  | some value => (requireText (some value) name maximum).map some

/-- `Number.isFinite(value) ? value : null` -/
def finiteOrNull : Option Json → Option Rat
  | some (.number value) => some value
  | _ => none

/-! ## GPUs -/

/-- What a GPU is, once its UUID is known to be a new one. -/
def readGpu (object : Json) (name : String) (uuid : NonEmptyString) :
    Except String Gpu := do
  let index ← boundedInteger (object.field? "index") (name ++ ".index") 0 128
  let title ← requireString (object.field? "name") (name ++ ".name") 200
  let memoryTotalMiB ← boundedInteger (object.field? "memoryTotalMiB")
    (name ++ ".memoryTotalMiB") 1 JsonText.maxSafeInteger
  let memoryUsedMiB ← boundedInteger (object.field? "memoryUsedMiB")
    (name ++ ".memoryUsedMiB") 0 JsonText.maxSafeInteger
  let utilizationPercent ← boundedInteger (object.field? "utilizationPercent")
    (name ++ ".utilizationPercent") 0 100
  let temperatureC ← boundedInteger (object.field? "temperatureC")
    (name ++ ".temperatureC") 0 200
  return ⟨uuid, index, title, memoryTotalMiB, memoryUsedMiB,
    utilizationPercent, temperatureC,
    finiteOrNull (object.field? "powerDrawWatts")⟩

def readGpus : Nat → List NonEmptyString → List Json → Except String (List Gpu)
  | _, _, [] => .ok []
  | index, uuids, item :: items => do
      let name := "gpus[" ++ toString index ++ "]"
      let object ← requireObject (some item) name
      let uuid ← requireText (object.field? "uuid") (name ++ ".uuid") 100
      ensure (uuid ∉ uuids) ("duplicate GPU UUID " ++ uuid.1)
      let gpu ← readGpu object name uuid
      let rest ← readGpus (index + 1) (uuid :: uuids) items
      return gpu :: rest

def validateGpus (value : Option Json) : Except String (List Gpu) :=
  let refused := "gpus must be an array containing at most 16 GPUs"
  match value with
  | some (.array items) =>
      if items.length > 16 then .error refused else readGpus 0 [] items
  | _ => .error refused

/-! ## Labels -/

/-- A property of an object that is put together; one of that name before it
keeps its place. -/
def putLabel (labels : List (String × String)) (label : String × String) :
    List (String × String) :=
  if label.1 ∈ labels.map Prod.fst then
    labels.map fun other => if other.1 = label.1 then label else other
  else labels ++ [label]

/-- `Object.fromEntries` -/
def fromEntries (entries : List (String × String)) : List (String × String) :=
  enumerated (entries.foldl putLabel [])

def readLabel (entry : String × Json) : Except String (String × String) := do
  let key ← requireString (some (.string entry.1)) "label key" 100
  let value ← requireString (some entry.2) ("label " ++ entry.1) 200
  return (key, value)

/-- The entries are those of `Object.entries`. -/
def validateLabels (labels : Json) : Except String (List (String × String)) :=
  match labels with
  | .object entries =>
      if entries.length > 64 then
        .error "labels may contain at most 64 entries"
      else ((enumerated entries).mapM readLabel).map fromEntries
  | _ => .ok []

/-! ## Workers -/

/-- What registrations and heartbeats end with. -/
def readHeld (locale : Locale) (input : Json) :
    Except String (List String × List ModelEntry × List Gpu) := do
  let warmModels ← stringArray (orEmpty (input.field? "warmModels"))
    "warmModels"
  let inventory ← validateModelInventory locale
    (orEmpty (input.field? "modelInventory"))
  let gpus ← validateGpus (input.field? "gpus")
  return (warmModels, inventory, gpus)

def validateHeartbeat (locale : Locale) (input : Json) (now : Int) :
    Except String Heartbeat := do
  let (capabilities, adapters) ← validateHeartbeatAdapters locale input
  let (warmModels, inventory, gpus) ← readHeld locale input
  return ⟨capabilities, adapters.manifests, adapters.health, warmModels,
    inventory, gpus, now⟩

/-- `validateWorker`; the id is a new one if the worker has given none. -/
def validateWorker (locale : Locale) (fresh : String) (input : Json)
    (now : Int) : Except String WorkerRegistration := do
  let (capabilities, adapters) ← validateWorkerAdapters locale input
  let id ← optionalText (input.field? "id") "id" 100
  let name ← requireString (input.field? "name") "name" 100
  let version ← requireString (input.field? "version") "version" 50
  let baseUrl ← optionalText (input.field? "baseUrl") "baseUrl" 500
  let labels ← optionalObject (input.field? "labels") "labels"
  let labels ← validateLabels labels
  let (warmModels, inventory, gpus) ← readHeld locale input
  return ⟨(id.map Subtype.val).getD fresh, name, version,
    baseUrl.map Subtype.val, labels, capabilities, adapters.manifests,
    adapters.health, warmModels, inventory, gpus, now⟩

/-! ## Jobs -/

def readMaxAttempts (value : Option Json) :
    Except String { attempts : Nat // 1 ≤ attempts ∧ attempts ≤ 20 } :=
  match read : integerOr value "maxAttempts" 1 20 3 with
  | .ok attempts => .ok ⟨attempts.toNat, by
      have bounds := integerOr_bounds (by decide) read
      omega⟩
  | .error message => .error message

/-- `constraints.capabilities ?? [object.type]` -/
def capabilitiesOr (value type : Option Json) : Option Json :=
  match value with
  | none => some (.array [type.getD .null])
  | some .null => some (.array [type.getD .null])
  | some value => some value

/-- `idempotencyHeader ?? object.idempotencyKey` -/
def headerOr (header : Option String) (value : Option Json) : Option Json :=
  (header.map Json.string).or value

/-- `validateJob`, with the id that `createId` has made. -/
def validateJob (id : String) (now : Int) (input : Json)
    (idempotencyHeader : Option String) : Except String JobRequest := do
  let object ← requireObject (some input) "job"
  let constraints ← optionalObject (object.field? "constraints") "constraints"
  let type ← requireString (object.field? "type") "type" 100
  let gpuCount ← integerOr (constraints.field? "gpuCount")
    "constraints.gpuCount" 1 1 1
  let projectId ← requireString (object.field? "projectId") "projectId" 100
  let priority ← integerOr (object.field? "priority") "priority" (-1000) 1000 0
  let minVramMiB ← integerOr (constraints.field? "minVramMiB")
    "constraints.minVramMiB" 1 1000000 1
  let requiredCapabilities ← stringArray
    (capabilitiesOr (constraints.field? "capabilities") (object.field? "type"))
    "constraints.capabilities"
  let requestedModel ← optionalText (constraints.field? "model")
    "constraints.model" 300
  let payload ← optionalObject (object.field? "payload") "payload"
  let payload ← validateWorkloadPayload type payload
  let maxAttempts ← readMaxAttempts (object.field? "maxAttempts")
  let idempotencyKey ← optionalText
    (headerOr idempotencyHeader (object.field? "idempotencyKey"))
    "idempotencyKey" 200
  return ⟨id, projectId, type, priority, gpuCount, minVramMiB,
    requiredCapabilities, requestedModel.map Subtype.val, payload,
    maxAttempts.1, maxAttempts.2, idempotencyKey, now⟩

/-! ## Reading texts again -/

theorem requireText_ok {value : Option Json} {name : String} {maximum : Nat}
    {text : NonEmptyString}
    (ran : requireText value name maximum = .ok text) :
    BoundedText maximum text.1 := by
  unfold requireText at ran
  split at ran
  · next read =>
      cases ran
      exact requireString_ok read
  · cases ran

theorem requireText_of {name : String} {maximum : Nat} {text : NonEmptyString}
    (bounded : BoundedText maximum text.1) :
    requireText (some (.string text.1)) name maximum = .ok text := by
  have again : requireString (some (.string text.1)) name maximum =
      .ok text.1 := requireString_of bounded
  unfold requireText
  split
  · next read =>
      cases again.symm.trans read
      rfl
  · next read => cases again.symm.trans read

/-- A text, or `null`. -/
def textOrNull (text : Option NonEmptyString) : Json :=
  (text.map fun text => Json.string text.1).getD .null

theorem optionalText_ok {value : Option Json} {name : String} {maximum : Nat}
    {text : Option NonEmptyString}
    (ran : optionalText value name maximum = .ok text) :
    ∀ given ∈ text, BoundedText maximum given.1 := by
  unfold optionalText at ran
  split at ran
  · cases ran
    exact fun _ none => by cases none
  · cases ran
    exact fun _ none => by cases none
  · cases ran
    exact fun _ none => by cases none
  · obtain ⟨read, required, rfl⟩ := map_ok.mp ran
    rintro _ ⟨⟩
    exact requireText_ok required

theorem optionalText_of {name : String} {maximum : Nat}
    {text : Option NonEmptyString}
    (bounded : ∀ given ∈ text, BoundedText maximum given.1) :
    optionalText (some (textOrNull text)) name maximum = .ok text := by
  cases text with
  | none => rfl
  | some given =>
      change optionalText (some (.string given.1)) name maximum = _
      have again : requireText (some (.string given.1)) name maximum =
          .ok given := requireText_of (bounded given rfl)
      unfold optionalText
      split
      · next none => cases none
      · next null => cases null
      · next empty =>
          cases given with
          | mk text nonempty =>
              cases empty
              exact absurd rfl nonempty
      · next same =>
          cases same
          rw [again]
          rfl

/-- What `stringArray` makes of an array. -/
structure Texts (texts : List String) : Prop where
  bounded : ∀ text ∈ texts, BoundedText 100 text
  few : texts.length ≤ 64
  distinct : texts.Nodup
  sorted : sortText texts = texts

theorem sortText_sortText (texts : List String) :
    sortText (sortText texts) = sortText texts := by
  have : Std.Total fun left right : String =>
      (compare (utf16Units left) (utf16Units right)).isLE = true := by
    refine ⟨fun left right => ?_⟩
    have swap : compare (utf16Units right) (utf16Units left) =
        (compare (utf16Units left) (utf16Units right)).swap :=
      Std.OrientedCmp.eq_swap
    rw [swap]
    cases compare (utf16Units left) (utf16Units right) <;> decide
  have : IsTrans String fun left right =>
      (compare (utf16Units left) (utf16Units right)).isLE = true :=
    ⟨fun _ _ _ before after => Std.TransCmp.isLE_trans before after⟩
  exact (List.pairwise_insertionSort _ texts).insertionSort_eq

theorem stringArray_ok {value : Option Json} {name : String}
    {texts : List String} (ran : stringArray value name = .ok texts) :
    Texts texts := by
  unfold stringArray at ran
  split at ran
  · next items =>
      dsimp only at ran
      split_ifs at ran with long
      obtain ⟨read, each, ran⟩ := bind_ok.mp ran
      cases ran
      have perm := sortText_perm read.dedup
      refine ⟨?_, ?_, perm.nodup_iff.mpr (List.nodup_dedup read),
        sortText_sortText _⟩
      · intro text member
        have inRead := List.mem_dedup.mp (perm.mem_iff.mp member)
        obtain ⟨item, _, required⟩ := Failures.mem_of_mapM each inRead
        exact requireString_ok required
      · have counted := (Failures.mapM_ok.mp each).length_eq
        rw [List.length_zipIdx] at counted
        have shorter := (List.dedup_sublist read).length_le
        rw [perm.length_eq]
        omega
  · cases ran

theorem stringArray_again {texts : List String} {name : String}
    (valid : Texts texts) :
    stringArray (some (.array (texts.map .string))) name = .ok texts := by
  rw [stringArray_of valid.bounded valid.few, valid.distinct.dedup,
    valid.sorted]

theorem optionalObject_ok {value : Option Json} {name : String} {object : Json}
    (ran : optionalObject value name = .ok object) :
    ∃ fields, object = .object fields := by
  cases value with
  | none =>
      cases ran
      exact ⟨[], rfl⟩
  | some value =>
      cases value with
      | object fields =>
          cases ran
          exact ⟨fields, rfl⟩
      | _ => cases ran

/-! ## Reading a job again -/

structure JobRequest.WellFormed (request : JobRequest) : Prop where
  projectId : BoundedText 100 request.projectId
  type : BoundedText 100 request.type
  priority : -1000 ≤ request.priority ∧ request.priority ≤ 1000
  gpuCount : request.gpuCount = 1
  minVramMiB : 1 ≤ request.minVramMiB ∧ request.minVramMiB ≤ 1000000
  capabilities : Texts request.requiredCapabilities
  model : ∀ model ∈ request.requestedModel,
    BoundedText 300 model
  payload : ∃ fields, request.payload = .object fields
  normal : validateWorkloadPayload request.type request.payload =
    .ok request.payload
  key : ∀ key ∈ request.idempotencyKey, BoundedText 200 key.1

/-- The submission that a request stands for. -/
def JobRequest.body (request : JobRequest) : Json :=
  .object [("projectId", .string request.projectId),
    ("type", .string request.type), ("priority", .number request.priority),
    ("constraints", .object [("gpuCount", .number request.gpuCount),
      ("minVramMiB", .number request.minVramMiB),
      ("capabilities", .array (request.requiredCapabilities.map .string)),
      ("model", .ofOption request.requestedModel)]),
    ("payload", request.payload),
    ("maxAttempts", .number (request.maxAttempts : Int)),
    ("idempotencyKey", textOrNull request.idempotencyKey)]

theorem validateWorkloadPayload_object {type : String}
    {payload result : Json} (given : ∃ fields, payload = .object fields)
    (ran : validateWorkloadPayload type payload = .ok result) :
    ∃ fields, result = .object fields := by
  unfold validateWorkloadPayload at ran
  split_ifs at ran
  · obtain ⟨read, _, rfl⟩ := map_ok.mp ran
    exact ⟨_, rfl⟩
  · obtain ⟨read, _, rfl⟩ := map_ok.mp ran
    exact ⟨_, rfl⟩
  · cases ran
    exact given

theorem validateJob_wellFormed {id : String} {now : Int} {input : Json}
    {header : Option String} {request : JobRequest}
    (ran : validateJob id now input header = .ok request) :
    request.WellFormed ∧ request.id = id ∧ request.now = now := by
  unfold validateJob at ran
  obtain ⟨object, _, ran⟩ := bind_ok.mp ran
  obtain ⟨constraints, _, ran⟩ := bind_ok.mp ran
  obtain ⟨type, typed, ran⟩ := bind_ok.mp ran
  obtain ⟨gpuCount, counted, ran⟩ := bind_ok.mp ran
  obtain ⟨projectId, owned, ran⟩ := bind_ok.mp ran
  obtain ⟨priority, ranked, ran⟩ := bind_ok.mp ran
  obtain ⟨minVramMiB, sized, ran⟩ := bind_ok.mp ran
  obtain ⟨capabilities, capable, ran⟩ := bind_ok.mp ran
  obtain ⟨model, modelled, ran⟩ := bind_ok.mp ran
  obtain ⟨given, carried, ran⟩ := bind_ok.mp ran
  obtain ⟨payload, valid, ran⟩ := bind_ok.mp ran
  obtain ⟨attempts, _, ran⟩ := bind_ok.mp ran
  obtain ⟨key, keyed, ran⟩ := bind_ok.mp ran
  cases ran
  have one := integerOr_bounds (by decide) counted
  refine ⟨⟨requireString_ok owned, requireString_ok typed,
    integerOr_bounds (by decide) ranked, le_antisymm one.2 one.1,
    integerOr_bounds (by decide) sized, stringArray_ok capable, ?_,
    validateWorkloadPayload_object (optionalObject_ok carried) valid,
    validateWorkloadPayload_normal valid, optionalText_ok keyed⟩, rfl, rfl⟩
  intro text asked
  obtain ⟨given, same, rfl⟩ := Option.map_eq_some_iff.mp asked
  exact optionalText_ok modelled given same

theorem readMaxAttempts_of {attempts : Nat}
    (bounds : 1 ≤ attempts ∧ attempts ≤ 20) :
    readMaxAttempts (some (.number (attempts : Int))) =
      .ok ⟨attempts, bounds⟩ := by
  have again : integerOr (some (.number (attempts : Int))) "maxAttempts" 1 20
      3 = .ok (attempts : Int) :=
    integerOr_of attempts (by omega) (by omega)
      (natAbs_small (by omega) (by omega))
  unfold readMaxAttempts
  split
  · next read =>
      cases again.symm.trans read
      rfl
  · next read => cases again.symm.trans read

theorem model_of {model : Option String} {name : String} {maximum : Nat}
    (bounded : ∀ text ∈ model, BoundedText maximum text) :
    ∃ read, optionalText (some (.ofOption model)) name maximum = .ok read ∧
      read.map Subtype.val = model := by
  cases model with
  | none => exact ⟨none, rfl, rfl⟩
  | some text =>
      have valid := bounded text rfl
      have each : ∀ given ∈ some (⟨text, valid.nonempty⟩ : NonEmptyString),
          BoundedText maximum given.1 := by
        rintro _ ⟨⟩
        exact valid
      exact ⟨_, optionalText_of each, rfl⟩

theorem validateJob_body {request : JobRequest}
    (wellFormed : request.WellFormed) :
    validateJob request.id request.now request.body none = .ok request := by
  obtain ⟨id, projectId, type, priority, gpuCount, minVramMiB, capabilities,
    model, payload, attempts, bounds, key, now⟩ := request
  obtain ⟨owned, typed, ⟨low, high⟩, one, ⟨small, large⟩, capable, modelled,
    ⟨fields, carried⟩, normal, keyed⟩ := wellFormed
  dsimp only at owned typed low high one small large capable modelled
  dsimp only at carried normal keyed
  subst one carried
  have safe : ∀ number : Int, -1000 ≤ number → number ≤ 1000000 →
      number.natAbs ≤ JsonText.maxSafeInteger := by
    intro number above below
    unfold JsonText.maxSafeInteger
    omega
  have ranked : integerOr (some (.number priority)) "priority" (-1000) 1000 0 =
      .ok priority := integerOr_of priority low high (safe _ low (by omega))
  have sized : integerOr (some (.number minVramMiB)) "constraints.minVramMiB" 1
      1000000 1 = .ok minVramMiB :=
    integerOr_of minVramMiB small large (safe _ (by omega) large)
  have counted : integerOr (some (.number (1 : Int))) "constraints.gpuCount" 1
      1 1 = .ok 1 := integerOr_of 1 le_rfl le_rfl (by decide)
  have named : ∃ read, optionalText (some (.ofOption model))
      "constraints.model" 300 = .ok read ∧ read.map Subtype.val = model :=
    model_of modelled
  obtain ⟨asked, read, same⟩ := named
  subst same
  exact bind_ok.mpr ⟨_, rfl, bind_ok.mpr ⟨_, rfl,
    bind_ok.mpr ⟨type, requireString_of typed, bind_ok.mpr ⟨1, counted,
      bind_ok.mpr ⟨projectId, requireString_of owned,
        bind_ok.mpr ⟨priority, ranked, bind_ok.mpr ⟨minVramMiB, sized,
          bind_ok.mpr ⟨capabilities, stringArray_again capable,
            bind_ok.mpr ⟨asked, read, bind_ok.mpr ⟨_, rfl,
              bind_ok.mpr ⟨_, normal, bind_ok.mpr ⟨⟨attempts, bounds⟩,
                readMaxAttempts_of bounds, bind_ok.mpr ⟨key,
                  optionalText_of keyed, rfl⟩⟩⟩⟩⟩⟩⟩⟩⟩⟩⟩⟩⟩

/-- A job that has been accepted is in normal form: what it stands for is
accepted as the same job.  If it is a benchmark, a worker reads from it the
payload that the control plane has. -/
theorem job_request {id : String} {now : Int} {input : Json}
    {header : Option String} {request : JobRequest}
    (accepted : validateJob id now input header = .ok request) :
    request.WellFormed ∧
      validateJob id now request.body none = .ok request ∧
      (request.type = benchmarkType → ∃ payload : BenchmarkPayload,
        request.payload = payload.toJson ∧
          validateBenchmarkPayload (some request.payload) = .ok payload) := by
  obtain ⟨wellFormed, sameId, sameNow⟩ := validateJob_wellFormed accepted
  subst sameId sameNow
  refine ⟨wellFormed, validateJob_body wellFormed, ?_⟩
  intro benchmark
  have normal := wellFormed.normal
  unfold validateWorkloadPayload at normal
  rw [if_pos benchmark] at normal
  obtain ⟨payload, valid, same⟩ := map_ok.mp normal
  exact ⟨payload, same.symm, valid⟩

def benchmarkSubmission : Json := .object [("projectId", .string " demo "),
  ("type", .string "benchmark.gpu"), ("constraints", .object
    [("capabilities", .array [.string "cuda", .string "benchmark.gpu"])]),
  ("payload", .object [("matrixSize", .number 2048)])]

theorem job_request_sample : ∃ request,
    validateJob "job_1" 5 benchmarkSubmission none = .ok request ∧
      validateJob "job_1" 5 request.body none = .ok request := by
  have ok : (validateJob "job_1" 5 benchmarkSubmission none).isOk = true := by
    decide +kernel
  cases accepted : validateJob "job_1" 5 benchmarkSubmission none with
  | error message =>
      rw [accepted] at ok
      cases ok
  | ok request => exact ⟨request, rfl, (job_request accepted).2.1⟩

/-! ## Reading adapters again -/

section Entries

variable {α : Type} {read : Option Json → String → Except String α}
  {identityOf : α → Identity}

/-- Every entry has been read from an item, and they are distinct from what has
been seen and from each other. -/
theorem readEach_sound {name : String} {index : Nat} {seen next : Seen}
    {items : List Json} {entries : List α} (types : seen.v1Types.Nodup)
    (adapters : seen.adapterIds.Nodup)
    (ran : readEach read identityOf name index seen items =
      .ok (entries, next)) :
    next = seenAfter seen (entries.map identityOf) ∧ next.v1Types.Nodup ∧
      next.adapterIds.Nodup ∧ entries.length = items.length ∧
      ∀ entry ∈ entries, ∃ item name, read item name = .ok entry := by
  induction items generalizing index seen entries with
  | nil =>
      cases ran
      refine ⟨?_, types, adapters, rfl, List.forall_mem_nil _⟩
      simp [seenAfter, v1Types, v2Types, adapterIds]
  | cons item items induction =>
      rw [readEach] at ran
      obtain ⟨entry, here, ran⟩ := bind_ok.mp ran
      obtain ⟨added, add, ran⟩ := bind_ok.mp ran
      obtain ⟨freshType, freshId, rfl⟩ := add_ok.mp add
      obtain ⟨⟨rest, after⟩, later, ran⟩ := bind_ok.mp ran
      cases ran
      obtain ⟨rfl, typesAfter, idsAfter, counted, each⟩ := induction
        ((nodup_append_singleton (v1Types_singleton_length _) types).mpr
          freshType)
        ((nodup_append_singleton (adapterIds_singleton_length _)
          adapters).mpr freshId) later
      rw [List.map_cons, seenAfter_cons seen (identityOf entry)
        (rest.map identityOf)]
      exact ⟨rfl, typesAfter, idsAfter, congrArg Nat.succ counted,
        List.forall_mem_cons.mpr ⟨⟨_, _, here⟩, each⟩⟩

theorem distinct_perm {identities permuted : List Identity}
    (distinct : Distinct identities) (perm : identities.Perm permuted) :
    Distinct permuted := by
  have first := (perm.filter fun identity => identity.1 = 1).map
    fun identity : Identity => identity.2.1
  have second := (perm.filter fun identity => identity.1 ≠ 1).map
    fun identity : Identity => identity.2.1
  have ids := (perm.filter fun identity => identity.1 ≠ 1).map
    fun identity : Identity => identity.2.2.getD ""
  refine ⟨first.nodup_iff.mp distinct.types, ids.nodup_iff.mp distinct.adapters,
    ?_⟩
  intro type member again
  exact distinct.unmixed type (first.mem_iff.mpr member)
    (second.mem_iff.mpr again)

theorem locale_lt_of_lt_of_le {locale : Locale} {first second third : String}
    (before : locale.compare first second = .lt)
    (after : locale.compare second third ≠ .gt) :
    locale.compare first third = .lt := by
  cases order : locale.compare first third with
  | lt => rfl
  | gt =>
      have le : locale.compare first second ≠ .gt := by
        rw [before]
        decide
      exact absurd order (locale.trans le after)
  | eq =>
      have back : locale.compare third first ≠ .gt := by
        rw [locale.swap first third, order]
        decide
      have above := locale.trans after back
      rw [locale.swap first second, before] at above
      exact absurd rfl above

theorem locale_lt_of_le_of_lt {locale : Locale} {first second third : String}
    (before : locale.compare first second ≠ .gt)
    (after : locale.compare second third = .lt) :
    locale.compare first third = .lt := by
  cases order : locale.compare first third with
  | lt => rfl
  | gt =>
      have le : locale.compare second third ≠ .gt := by
        rw [after]
        decide
      exact absurd order (locale.trans before le)
  | eq =>
      have back : locale.compare third first ≠ .gt := by
        rw [locale.swap first third, order]
        decide
      have above := locale.trans back before
      rw [locale.swap second third, after] at above
      exact absurd rfl above

theorem compareIdentities_le {locale : Locale} {left right : Identity} :
    compareIdentities locale left right ≠ .gt ↔
      locale.compare left.2.1 right.2.1 = .lt ∨
        locale.compare left.2.1 right.2.1 ≠ .gt ∧
          locale.compare (left.2.2.getD "") (right.2.2.getD "") ≠ .gt := by
  unfold compareIdentities
  cases locale.compare left.2.1 right.2.1 <;>
    cases locale.compare (left.2.2.getD "") (right.2.2.getD "") <;> decide

theorem compareIdentities_total (locale : Locale) (left right : Identity) :
    compareIdentities locale left right ≠ .gt ∨
      compareIdentities locale right left ≠ .gt := by
  unfold compareIdentities
  rw [locale.swap left.2.1, locale.swap (left.2.2.getD "")]
  cases locale.compare left.2.1 right.2.1 <;>
    cases locale.compare (left.2.2.getD "") (right.2.2.getD "") <;> decide

theorem compareIdentities_trans (locale : Locale)
    (first second third : Identity)
    (before : compareIdentities locale first second ≠ .gt)
    (after : compareIdentities locale second third ≠ .gt) :
    compareIdentities locale first third ≠ .gt := by
  have le_of_lt : ∀ {left right : String},
      locale.compare left right = .lt → locale.compare left right ≠ .gt := by
    intro left right less
    rw [less]
    decide
  rw [compareIdentities_le] at before after ⊢
  rcases before with less | ⟨le, ids⟩
  · rcases after with next | ⟨next, _⟩
    · exact Or.inl (locale_lt_of_lt_of_le less (le_of_lt next))
    · exact Or.inl (locale_lt_of_lt_of_le less next)
  · rcases after with next | ⟨next, others⟩
    · exact Or.inl (locale_lt_of_le_of_lt le next)
    · exact Or.inr ⟨locale.trans le next, locale.trans ids others⟩

/-- A list that has been read is read again as it is. -/
theorem validateEntries_normal {toJson : α → Json} {locale : Locale}
    {value : Option Json} {name : String} {entries : List α}
    (readBack : ∀ entry item name, read item name = .ok entry →
      ∀ name, read (some (toJson entry)) name = .ok entry)
    (ran : validateEntries read identityOf locale value name = .ok entries) :
    validateEntries read identityOf locale
      (some (.array (entries.map toJson))) name = .ok entries := by
  unfold validateEntries at ran
  split at ran
  · next items =>
      dsimp only at ran
      split_ifs at ran with long
      obtain ⟨⟨list, seen⟩, each, ran⟩ := bind_ok.mp ran
      obtain ⟨rfl, types, adapters, counted, sources⟩ :=
        readEach_sound List.nodup_nil List.nodup_nil each
      split at ran
      · cases ran
      · next unmixed =>
          cases ran
          dsimp only
          have distinct : Distinct (list.map identityOf) := by
            refine ⟨types, adapters, ?_⟩
            intro type first second
            exact List.find?_eq_none.mp unmixed type first
              (decide_eq_true second)
          have perm : (sortBy (fun left right => compareIdentities locale
              (identityOf left) (identityOf right)) list).Perm list :=
            Sql.orderBy_perm _ list
          refine (validateEntries_ok ?_).mpr ⟨?_, ?_, ?_⟩
          · intro entry member
            obtain ⟨item, name, here⟩ := sources entry (perm.mem_iff.mp member)
            exact readBack entry item name here
          · have short := perm.length_eq
            omega
          · exact distinct_perm distinct (perm.map identityOf).symm
          · have again := sortBy_sortBy (fun left right : α =>
              compareIdentities_total locale (identityOf left)
                (identityOf right))
              (fun _ _ _ => compareIdentities_trans locale _ _ _) list
            exact again.symm
  · cases ran

end Entries

/-- What `validateAdvertisedAdapterState` has let through passes again. -/
theorem validateAdvertisedAdapterState_normal {locale : Locale}
    {object again : Json} {capabilities : List String} {state : AdapterState}
    (ran : validateAdvertisedAdapterState locale object capabilities =
      .ok state)
    (manifestsSent : again.field? "adapterManifests" =
      some (.array (state.manifests.map (·.toJson))))
    (healthSent : again.field? "adapterHealth" =
      some (.array (state.health.map (·.toJson)))) :
    validateAdvertisedAdapterState locale again capabilities = .ok state := by
  unfold validateAdvertisedAdapterState at ran ⊢
  obtain ⟨manifests, readManifests, ran⟩ := bind_ok.mp ran
  obtain ⟨health, readHealth, ran⟩ := bind_ok.mp ran
  obtain rfl := checkAgreement_ok ran
  rw [manifestsSent, healthSent]
  exact bind_ok.mpr ⟨manifests, validateEntries_normal
    (fun _ _ _ read => validateAdapterManifest_toJson
      (validateAdapterManifest_wellFormed read)) readManifests,
    bind_ok.mpr ⟨health, validateEntries_normal
      (fun _ _ _ read => validateAdapterHealthReport_toJson
        (validateAdapterHealthReport_wellFormed read)) readHealth, ran⟩⟩

theorem readAdapters_normal {locale : Locale} {input : Json} {name : String}
    {capabilities : List String} {state : AdapterState}
    {fields : List (String × Json)}
    (ran : readAdapters locale input name = .ok (capabilities, state))
    (capabilitiesSent : (Json.object fields).field? "capabilities" =
      some (.array (capabilities.map .string)))
    (manifestsSent : (Json.object fields).field? "adapterManifests" =
      some (.array (state.manifests.map (·.toJson))))
    (healthSent : (Json.object fields).field? "adapterHealth" =
      some (.array (state.health.map (·.toJson)))) :
    readAdapters locale (.object fields) name = .ok (capabilities, state) := by
  unfold readAdapters at ran ⊢
  obtain ⟨object, _, ran⟩ := bind_ok.mp ran
  obtain ⟨texts, read, ran⟩ := bind_ok.mp ran
  obtain ⟨checked, valid, ran⟩ := bind_ok.mp ran
  cases ran
  have again : stringArray (orEmpty ((Json.object fields).field?
      "capabilities")) "capabilities" = .ok capabilities := by
    rw [capabilitiesSent]
    exact stringArray_again (stringArray_ok read)
  exact bind_ok.mpr ⟨_, rfl, bind_ok.mpr ⟨_, again, bind_ok.mpr ⟨_,
    validateAdvertisedAdapterState_normal valid manifestsSent healthSent,
      rfl⟩⟩⟩

/-! ## Reading GPUs again -/

def Gpu.toJson (gpu : Gpu) : Json :=
  .object [("uuid", .string gpu.uuid.1), ("index", .number gpu.index),
    ("name", .string gpu.name), ("memoryTotalMiB", .number gpu.memoryTotalMiB),
    ("memoryUsedMiB", .number gpu.memoryUsedMiB),
    ("utilizationPercent", .number gpu.utilizationPercent),
    ("temperatureC", .number gpu.temperatureC),
    ("powerDrawWatts", (gpu.powerDrawWatts.map Json.number).getD .null)]

structure Gpu.WellFormed (gpu : Gpu) : Prop where
  uuid : BoundedText 100 gpu.uuid.1
  index : 0 ≤ gpu.index ∧ gpu.index ≤ 128
  name : BoundedText 200 gpu.name
  total : 1 ≤ gpu.memoryTotalMiB ∧ gpu.memoryTotalMiB ≤ JsonText.maxSafeInteger
  used : 0 ≤ gpu.memoryUsedMiB ∧ gpu.memoryUsedMiB ≤ JsonText.maxSafeInteger
  utilization : 0 ≤ gpu.utilizationPercent ∧ gpu.utilizationPercent ≤ 100
  temperature : 0 ≤ gpu.temperatureC ∧ gpu.temperatureC ≤ 200

theorem readGpu_ok {object : Json} {name : String} {uuid : NonEmptyString}
    {gpu : Gpu} (bounded : BoundedText 100 uuid.1)
    (ran : readGpu object name uuid = .ok gpu) :
    gpu.WellFormed ∧ gpu.uuid = uuid := by
  unfold readGpu at ran
  obtain ⟨index, indexed, ran⟩ := bind_ok.mp ran
  obtain ⟨title, titled, ran⟩ := bind_ok.mp ran
  obtain ⟨total, sized, ran⟩ := bind_ok.mp ran
  obtain ⟨used, taken, ran⟩ := bind_ok.mp ran
  obtain ⟨utilization, busy, ran⟩ := bind_ok.mp ran
  obtain ⟨temperature, warm, ran⟩ := bind_ok.mp ran
  cases ran
  exact ⟨⟨bounded, boundedInteger_bounds indexed, requireString_ok titled,
    boundedInteger_bounds sized, boundedInteger_bounds taken,
    boundedInteger_bounds busy, boundedInteger_bounds warm⟩, rfl⟩

theorem boundedInteger_again {number : Int} {name : String}
    {minimum maximum : Int} (positive : 0 ≤ minimum)
    (safe : maximum ≤ JsonText.maxSafeInteger)
    (bounds : minimum ≤ number ∧ number ≤ maximum) :
    boundedInteger (some (.number number)) name minimum maximum =
      .ok number :=
  boundedInteger_of number bounds.1 bounds.2 (by omega)

theorem finiteOrNull_of (value : Option Rat) :
    finiteOrNull (some ((value.map Json.number).getD .null)) = value := by
  cases value <;> rfl

theorem readGpu_of {gpu : Gpu} (wellFormed : gpu.WellFormed) (name : String) :
    readGpu gpu.toJson name gpu.uuid = .ok gpu := by
  obtain ⟨uuid, index, title, total, used, utilization, temperature, power⟩ :=
    gpu
  obtain ⟨_, indexed, titled, sized, taken, busy, warm⟩ := wellFormed
  have small : ((200 : Nat) : Int) ≤ JsonText.maxSafeInteger := by decide
  refine bind_ok.mpr ⟨index, boundedInteger_again le_rfl (by omega) indexed,
    bind_ok.mpr ⟨title, requireString_of titled,
      bind_ok.mpr ⟨total, boundedInteger_again (by decide) le_rfl sized,
        bind_ok.mpr ⟨used, boundedInteger_again le_rfl le_rfl taken,
          bind_ok.mpr ⟨utilization,
            boundedInteger_again le_rfl (by omega) busy,
              bind_ok.mpr ⟨temperature,
                boundedInteger_again le_rfl (by omega) warm, ?_⟩⟩⟩⟩⟩⟩
  have watts := finiteOrNull_of power
  change Except.ok (Gpu.mk uuid index title total used utilization temperature
    (finiteOrNull (some ((power.map Json.number).getD .null)))) = _
  rw [watts]

/-- GPUs that are apart from each other and from those seen. -/
structure GpusApart (uuids : List NonEmptyString) (gpus : List Gpu) :
    Prop where
  wellFormed : ∀ gpu ∈ gpus, gpu.WellFormed
  distinct : (gpus.map Gpu.uuid).Nodup
  unseen : ∀ gpu ∈ gpus, gpu.uuid ∉ uuids

theorem readGpus_ok {index : Nat} {uuids : List NonEmptyString}
    {items : List Json} {gpus : List Gpu}
    (ran : readGpus index uuids items = .ok gpus) :
    GpusApart uuids gpus ∧ gpus.length = items.length := by
  induction items generalizing index uuids gpus with
  | nil =>
      cases ran
      exact ⟨⟨List.forall_mem_nil _, List.nodup_nil, List.forall_mem_nil _⟩, rfl⟩
  | cons item items induction =>
      obtain ⟨object, _, ran⟩ := bind_ok.mp ran
      obtain ⟨uuid, named, ran⟩ := bind_ok.mp ran
      obtain ⟨_, fresh, ran⟩ := bind_ok.mp ran
      obtain ⟨gpu, read, ran⟩ := bind_ok.mp ran
      obtain ⟨rest, later, ran⟩ := bind_ok.mp ran
      cases ran
      obtain ⟨apart, counted⟩ := induction later
      obtain ⟨wellFormed, same⟩ := readGpu_ok (requireText_ok named) read
      have unseen := of_decide_eq_true (ensure_ok.mp fresh)
      rw [← same] at unseen
      refine ⟨⟨List.forall_mem_cons.mpr ⟨wellFormed, apart.wellFormed⟩, ?_, ?_⟩,
        congrArg Nat.succ counted⟩
      · rw [List.map_cons, List.nodup_cons]
        refine ⟨fun member => ?_, apart.distinct⟩
        obtain ⟨other, inRest, alike⟩ := List.mem_map.mp member
        exact apart.unseen other inRest (by
          rw [alike, same]
          exact List.mem_cons_self)
      · refine List.forall_mem_cons.mpr ⟨unseen, fun other inRest seen => ?_⟩
        exact apart.unseen other inRest (List.mem_cons_of_mem _ seen)

theorem readGpus_of {index : Nat} {uuids : List NonEmptyString}
    {gpus : List Gpu} (apart : GpusApart uuids gpus) :
    readGpus index uuids (gpus.map Gpu.toJson) = .ok gpus := by
  induction gpus generalizing index uuids with
  | nil => rfl
  | cons gpu gpus induction =>
      obtain ⟨wellFormed, distinct, unseen⟩ := apart
      rw [List.map_cons, List.nodup_cons] at distinct
      have here := wellFormed gpu List.mem_cons_self
      have fresh : GpusApart (gpu.uuid :: uuids) gpus := by
        refine ⟨(List.forall_mem_cons.mp wellFormed).2, distinct.2, ?_⟩
        intro other member seen
        rcases List.mem_cons.mp seen with same | seen
        · exact distinct.1 (same ▸ List.mem_map_of_mem member)
        · exact unseen other (List.mem_cons_of_mem _ member) seen
      rw [List.map_cons]
      exact bind_ok.mpr ⟨_, rfl, bind_ok.mpr ⟨gpu.uuid,
        requireText_of here.uuid, bind_ok.mpr ⟨(), ensure_of
          (decide_eq_true (unseen gpu List.mem_cons_self)),
            bind_ok.mpr ⟨gpu, readGpu_of here _,
              bind_ok.mpr ⟨gpus, induction fresh, rfl⟩⟩⟩⟩⟩

theorem validateGpus_normal {value : Option Json} {gpus : List Gpu}
    (ran : validateGpus value = .ok gpus) :
    GpusApart [] gpus ∧ gpus.length ≤ 16 ∧
      validateGpus (some (.array (gpus.map Gpu.toJson))) = .ok gpus := by
  unfold validateGpus at ran
  split at ran
  · dsimp only at ran
    split_ifs at ran with many
    obtain ⟨apart, counted⟩ := readGpus_ok ran
    refine ⟨apart, by omega, ?_⟩
    unfold validateGpus
    dsimp only
    rw [List.length_map, if_neg (by omega), readGpus_of apart]
  · cases ran

/-! ## Reading labels again -/

/-- Labels with names of their own. -/
structure Labelled (labels : List (String × String)) : Prop where
  few : labels.length ≤ 64
  distinct : (labels.map Prod.fst).Nodup
  names : ∀ label ∈ labels, BoundedText 100 label.1
  values : ∀ label ∈ labels, BoundedText 200 label.2

theorem names_putLabel (labels : List (String × String))
    (label : String × String) :
    (putLabel labels label).map Prod.fst =
      if label.1 ∈ labels.map Prod.fst then labels.map Prod.fst
      else labels.map Prod.fst ++ [label.1] := by
  unfold putLabel
  split_ifs
  · rw [List.map_map]
    refine List.map_congr_left fun other _ => ?_
    dsimp only [Function.comp]
    split_ifs with same
    · exact same.symm
    · rfl
  · rw [List.map_append]
    rfl

theorem mem_putLabel {labels : List (String × String)}
    {label other : String × String} (member : other ∈ putLabel labels label) :
    other ∈ labels ∨ other = label := by
  unfold putLabel at member
  split_ifs at member
  · obtain ⟨old, inLabels, rfl⟩ := List.mem_map.mp member
    split_ifs
    · exact Or.inr rfl
    · exact Or.inl inLabels
  · rcases List.mem_append.mp member with old | new
    · exact Or.inl old
    · exact Or.inr (List.mem_singleton.mp new)

/-- What holds of all properties that are put holds of those of the object. -/
theorem fold_putLabel {entries labels : List (String × String)}
    (distinct : (labels.map Prod.fst).Nodup) :
    ((entries.foldl putLabel labels).map Prod.fst).Nodup ∧
      (∀ label ∈ entries.foldl putLabel labels,
        label ∈ labels ∨ label ∈ entries) ∧
      (entries.foldl putLabel labels).length ≤
        labels.length + entries.length := by
  induction entries generalizing labels with
  | nil => exact ⟨distinct, fun _ member => Or.inl member, by simp⟩
  | cons entry entries induction =>
      have kept : ((putLabel labels entry).map Prod.fst).Nodup := by
        rw [names_putLabel]
        split_ifs with known
        · exact distinct
        · rw [List.nodup_append']
          exact ⟨distinct, List.nodup_singleton _, fun _ old new =>
            known (List.mem_singleton.mp new ▸ old)⟩
      have longer : (putLabel labels entry).length ≤ labels.length + 1 := by
        unfold putLabel
        split_ifs <;> simp
      obtain ⟨apart, sources, counted⟩ := induction kept
      refine ⟨apart, ?_, ?_⟩
      · intro label member
        rcases sources label member with old | new
        · rcases mem_putLabel old with older | rfl
          · exact Or.inl older
          · exact Or.inr List.mem_cons_self
        · exact Or.inr (List.mem_cons_of_mem _ new)
      · rw [List.foldl_cons, List.length_cons]
        omega

/-- Properties with names of their own are put one after the other. -/
theorem fold_putLabel_of {entries labels : List (String × String)}
    (distinct : ((labels ++ entries).map Prod.fst).Nodup) :
    entries.foldl putLabel labels = labels ++ entries := by
  induction entries generalizing labels with
  | nil => rw [List.foldl_nil, List.append_nil]
  | cons entry entries induction =>
      have fresh : entry.1 ∉ labels.map Prod.fst := by
        rw [List.map_append, List.nodup_append'] at distinct
        exact fun known => distinct.2.2 known List.mem_cons_self
      have put : putLabel labels entry = labels ++ [entry] := if_neg fresh
      rw [List.foldl_cons, put, induction]
      · rw [List.append_assoc]
        rfl
      · rw [List.append_assoc]
        exact distinct

theorem readLabel_ok {entry : String × Json} {label : String × String}
    (ran : readLabel entry = .ok label) :
    BoundedText 100 label.1 ∧ BoundedText 200 label.2 := by
  obtain ⟨key, named, ran⟩ := bind_ok.mp ran
  obtain ⟨value, read, ran⟩ := bind_ok.mp ran
  cases ran
  exact ⟨requireString_ok named, requireString_ok read⟩

/-- The labels as they are sent. -/
def labelsJson (labels : List (String × String)) : Json :=
  .object (labels.map fun label => (label.1, .string label.2))

theorem labelled_of_read {given : Json} {labels : List (String × String)}
    (ran : validateLabels given = .ok labels) :
    Labelled labels ∧ enumerated labels = labels := by
  unfold validateLabels at ran
  split at ran
  · split_ifs at ran with many
    obtain ⟨entries, each, rfl⟩ := map_ok.mp ran
    obtain ⟨apart, sources, counted⟩ :=
      @fold_putLabel entries [] List.nodup_nil
    have perm : (fromEntries entries).Perm (entries.foldl putLabel []) :=
      enumerated_perm _
    have read : ∀ label ∈ fromEntries entries,
        BoundedText 100 label.1 ∧ BoundedText 200 label.2 := by
      intro label member
      have among := (sources label (perm.mem_iff.mp member)).resolve_left
        List.not_mem_nil
      obtain ⟨item, _, reads⟩ := Failures.mem_of_mapM each among
      exact readLabel_ok reads
    have few := (Failures.mapM_ok.mp each).length_eq
    rw [(enumerated_perm _).length_eq] at few
    rw [List.length_nil] at counted
    refine ⟨⟨?_, (perm.map Prod.fst).nodup_iff.mpr apart,
      fun label member => (read label member).1,
      fun label member => (read label member).2⟩, enumerated_idem _⟩
    rw [perm.length_eq]
    omega
  · cases ran
    exact ⟨⟨Nat.zero_le _, List.nodup_nil, List.forall_mem_nil _,
      List.forall_mem_nil _⟩, rfl⟩

theorem validateLabels_normal {given : Json} {labels : List (String × String)}
    (ran : validateLabels given = .ok labels) :
    Labelled labels ∧ validateLabels (labelsJson labels) = .ok labels := by
  obtain ⟨labelled, ordered⟩ := labelled_of_read ran
  refine ⟨labelled, ?_⟩
  have entries : enumerated
      (labels.map fun label => (label.1, Json.string label.2)) =
        labels.map fun label => (label.1, Json.string label.2) := by
    have mapped := map_enumerated Json.string labels
    rw [ordered] at mapped
    exact mapped
  have each : (labels.map fun label => (label.1, Json.string label.2)).mapM
      readLabel = .ok labels := by
    apply Failures.mapM_ok.mpr
    apply List.forall₂_map_left_iff.mpr
    refine List.forall₂_same.mpr fun label member => ?_
    exact bind_ok.mpr ⟨label.1, requireString_of (labelled.names label member),
      bind_ok.mpr ⟨label.2, requireString_of (labelled.values label member),
        rfl⟩⟩
  have put : labels.foldl putLabel [] = [] ++ labels :=
    fold_putLabel_of labelled.distinct
  have made : fromEntries labels = labels := by
    rw [fromEntries, put, List.nil_append, ordered]
  unfold validateLabels labelsJson
  dsimp only
  rw [List.length_map, if_neg (not_lt.mpr labelled.few), entries, each]
  exact congrArg Except.ok made

/-! ## Reading a worker again -/

/-- The fields that registrations and heartbeats share. -/
def heldFields (warmModels : List String) (inventory : List ModelEntry)
    (gpus : List Gpu) : List (String × Json) :=
  [("warmModels", .array (warmModels.map .string)),
    ("modelInventory", .array (inventory.map ModelEntry.toJson)),
    ("gpus", .array (gpus.map Gpu.toJson))]

def adapterFields (capabilities : List String)
    (manifests : List AdapterManifest) (health : List AdapterHealth) :
    List (String × Json) :=
  [("capabilities", .array (capabilities.map .string)),
    ("adapterManifests", .array (manifests.map (·.toJson))),
    ("adapterHealth", .array (health.map (·.toJson)))]

def Heartbeat.body (heartbeat : Heartbeat) : Json :=
  .object (adapterFields heartbeat.capabilities heartbeat.adapterManifests
    heartbeat.adapterHealth ++ heldFields heartbeat.warmModels
      heartbeat.modelInventory heartbeat.gpus)

def WorkerRegistration.body (worker : WorkerRegistration) : Json :=
  .object ([("id", .string worker.id), ("name", .string worker.name),
    ("version", .string worker.version), ("baseUrl", .ofOption worker.baseUrl),
    ("labels", labelsJson worker.labels)] ++
      adapterFields worker.capabilities worker.adapterManifests
        worker.adapterHealth ++ heldFields worker.warmModels
          worker.modelInventory worker.gpus)

theorem readHeld_normal {locale : Locale} {input again : Json}
    {warmModels : List String} {inventory : List ModelEntry} {gpus : List Gpu}
    (ran : readHeld locale input = .ok (warmModels, inventory, gpus))
    (modelsSent : again.field? "warmModels" =
      some (.array (warmModels.map .string)))
    (inventorySent : again.field? "modelInventory" =
      some (.array (inventory.map ModelEntry.toJson)))
    (gpusSent : again.field? "gpus" = some (.array (gpus.map Gpu.toJson))) :
    readHeld locale again = .ok (warmModels, inventory, gpus) := by
  obtain ⟨models, warmed, ran⟩ := bind_ok.mp ran
  obtain ⟨entries, held, ran⟩ := bind_ok.mp ran
  obtain ⟨devices, listed, ran⟩ := bind_ok.mp ran
  cases ran
  unfold readHeld
  rw [modelsSent, inventorySent, gpusSent]
  exact bind_ok.mpr ⟨_, stringArray_again (stringArray_ok warmed),
    bind_ok.mpr ⟨_, (validateModelInventory_normal held).2.2,
      bind_ok.mpr ⟨_, (validateGpus_normal listed).2.2, rfl⟩⟩⟩

theorem readHeld_apart {locale : Locale} {input : Json}
    {warmModels : List String} {inventory : List ModelEntry} {gpus : List Gpu}
    (ran : readHeld locale input = .ok (warmModels, inventory, gpus)) :
    GpusApart [] gpus ∧ Apart [] inventory := by
  obtain ⟨_, _, ran⟩ := bind_ok.mp ran
  obtain ⟨entries, stocked, ran⟩ := bind_ok.mp ran
  obtain ⟨devices, listed, ran⟩ := bind_ok.mp ran
  cases ran
  exact ⟨(validateGpus_normal listed).1,
    (validateModelInventory_normal stocked).1⟩

/-- What has been read of a heartbeat is read again as it is, and it has no GPU
and no model twice. -/
theorem heartbeat_request {locale : Locale} {input : Json} {now : Int}
    {heartbeat : Heartbeat}
    (accepted : validateHeartbeat locale input now = .ok heartbeat) :
    validateHeartbeat locale heartbeat.body now = .ok heartbeat ∧
      GpusApart [] heartbeat.gpus ∧ Apart [] heartbeat.modelInventory := by
  unfold validateHeartbeat at accepted
  obtain ⟨⟨capabilities, adapters⟩, read, accepted⟩ := bind_ok.mp accepted
  obtain ⟨⟨warmModels, inventory, gpus⟩, held, accepted⟩ :=
    bind_ok.mp accepted
  cases accepted
  refine ⟨bind_ok.mpr ⟨(capabilities, adapters),
    readAdapters_normal read rfl rfl rfl, bind_ok.mpr
      ⟨(warmModels, inventory, gpus), readHeld_normal held rfl rfl rfl, rfl⟩⟩,
    readHeld_apart held⟩

/-- What has been read of a registration is read again as it is, whatever the
new id would be: registering again makes no other worker. -/
theorem worker_request {locale : Locale} {fresh : String} {input : Json}
    {now : Int} {worker : WorkerRegistration}
    (made : BoundedText 100 fresh)
    (accepted : validateWorker locale fresh input now = .ok worker) :
    (∀ other, validateWorker locale other worker.body now = .ok worker) ∧
      GpusApart [] worker.gpus ∧ Apart [] worker.modelInventory ∧
        Labelled worker.labels := by
  unfold validateWorker at accepted
  obtain ⟨⟨capabilities, adapters⟩, read, accepted⟩ := bind_ok.mp accepted
  obtain ⟨id, identified, accepted⟩ := bind_ok.mp accepted
  obtain ⟨name, named, accepted⟩ := bind_ok.mp accepted
  obtain ⟨version, versioned, accepted⟩ := bind_ok.mp accepted
  obtain ⟨baseUrl, based, accepted⟩ := bind_ok.mp accepted
  obtain ⟨object, _, accepted⟩ := bind_ok.mp accepted
  obtain ⟨labels, labelled, accepted⟩ := bind_ok.mp accepted
  obtain ⟨⟨warmModels, inventory, gpus⟩, held, accepted⟩ :=
    bind_ok.mp accepted
  cases accepted
  constructor
  · intro other
    have bounded : BoundedText 100 ((id.map Subtype.val).getD fresh) := by
      cases id with
      | none => exact made
      | some given => exact optionalText_ok identified given rfl
    have each : ∀ given ∈ some (⟨_, bounded.nonempty⟩ : NonEmptyString),
        BoundedText 100 given.1 := by
      rintro _ ⟨⟩
      exact bounded
    have idAgain : optionalText (some (.string ((id.map Subtype.val).getD
        fresh))) "id" 100 = .ok (some ⟨_, bounded.nonempty⟩) :=
      optionalText_of each
    have url : ∃ read, optionalText (some (.ofOption (baseUrl.map
        Subtype.val))) "baseUrl" 500 = .ok read ∧
          read.map Subtype.val = baseUrl.map Subtype.val := by
      apply model_of
      intro text given
      obtain ⟨base, same, rfl⟩ := Option.map_eq_some_iff.mp given
      exact optionalText_ok based base same
    obtain ⟨read_, urlAgain, sameUrl⟩ := url
    refine bind_ok.mpr ⟨(capabilities, adapters),
      readAdapters_normal read rfl rfl rfl, bind_ok.mpr ⟨_, idAgain,
        bind_ok.mpr ⟨name, requireString_of (requireString_ok named),
          bind_ok.mpr ⟨version, requireString_of (requireString_ok versioned),
            bind_ok.mpr ⟨_, urlAgain, bind_ok.mpr ⟨_, rfl,
              bind_ok.mpr ⟨labels, (validateLabels_normal labelled).2,
                bind_ok.mpr ⟨(warmModels, inventory, gpus),
                  readHeld_normal held rfl rfl rfl, ?_⟩⟩⟩⟩⟩⟩⟩⟩
    dsimp only
    rw [sameUrl]
    rfl
  · obtain ⟨gpusApart, modelsApart⟩ := readHeld_apart held
    exact ⟨gpusApart, modelsApart, (validateLabels_normal labelled).1⟩

def reportedGpu : Json := .object [("uuid", .string "GPU-0"),
  ("index", .number 0), ("name", .string "A"), ("memoryTotalMiB", .number 8),
  ("memoryUsedMiB", .number 1), ("utilizationPercent", .number 0),
  ("temperatureC", .number 40), ("powerDrawWatts", .string "N/A")]

def reportedWorker : Json := .object [("name", .string "worker"),
  ("version", .string "1.0.0"), ("capabilities", .array [.string " cuda "]),
  ("labels", .object [("zone", .string "a"), (" zone", .string "b"),
    ("2", .string "c")]),
  ("gpus", .array [reportedGpu])]

theorem heartbeat_request_sample : ∃ heartbeat,
    validateHeartbeat .codePoints reportedWorker 5 = .ok heartbeat ∧
      validateHeartbeat .codePoints heartbeat.body 5 = .ok heartbeat := by
  have ok : (validateHeartbeat .codePoints reportedWorker 5).isOk =
      true := by decide +kernel
  cases accepted : validateHeartbeat .codePoints reportedWorker 5 with
  | error message =>
      rw [accepted] at ok
      cases ok
  | ok heartbeat => exact ⟨heartbeat, rfl, (heartbeat_request accepted).1⟩

theorem worker_request_sample : ∃ worker,
    validateWorker .codePoints "worker_1" reportedWorker 5 = .ok worker ∧
      validateWorker .codePoints "worker_2" worker.body 5 = .ok worker := by
  have ok : (validateWorker .codePoints "worker_1" reportedWorker 5).isOk =
      true := by decide +kernel
  have made : BoundedText 100 "worker_1" :=
    ⟨by decide, by decide, by decide⟩
  cases accepted : validateWorker .codePoints "worker_1" reportedWorker 5
    with
  | error message =>
      rw [accepted] at ok
      cases ok
  | ok worker =>
      exact ⟨worker, rfl, (worker_request made accepted).1 "worker_2"⟩

end GpuLink
