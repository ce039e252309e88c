import GpuLink.Shared.WorkloadContracts
import GpuLink.Worker.BoundedProcess

/-!
# Benchmarks of a GPU

The benchmark of a job is run by a script in a bounded process, and what the
script writes is the result of the job if it is one JSON object that answers
what was asked.
-/

namespace GpuLink

namespace GpuBenchmark

open AdapterContract WorkloadContracts BoundedProcess

/-! ## Requests -/

structure Job where
  payload : Option Json
  assignedGpuUuid : Option String

/-- What is used of a GPU of the inventory. -/
structure Device where
  uuid : String
  name : String
  deriving DecidableEq, Repr

/-- `config.benchmark`, with what `loadWorkerConfig` has checked of it. -/
structure Runtime where
  pythonPath : String
  timeoutMs : Nat
  absolute : isAbsolute pythonPath = true
  timed : 1 ≤ timeoutMs ∧ timeoutMs ≤ 120000

inductive Access where
  | execute
  | read
  deriving DecidableEq, Repr

/-- The machine that the worker runs on. -/
structure Host where
  /-- `benchmarkScriptPath` -/
  script : String
  fileAccess : String → Access → Bool
  /-- What `JSON.parse` says of a text that it refuses. -/
  syntaxError : String → List Nat

/-- What `runProcess` throws; an error of the runtime may have no code. -/
structure Thrown where
  code : Option String
  message : List Nat
  deriving DecidableEq, Repr

def benchmarkEnvironment (gpuUuid : String) : List (String × String) :=
  [("PATH", "/opt/gpulink/runtime:/usr/lib/wsl/lib:/usr/local/sbin:" ++
      "/usr/local/bin:/usr/sbin:/usr/bin:/bin"),
    ("LD_LIBRARY_PATH", "/usr/lib/wsl/lib"), ("HOME", "/var/lib/gpulink"),
    ("XDG_CACHE_HOME", "/var/lib/gpulink/cache"),
    ("CUDA_VISIBLE_DEVICES", gpuUuid), ("PYTHONUNBUFFERED", "1")]

/-- Both files that are run are there. -/
def installed (host : Host) (runtime : Runtime) : Bool :=
  host.fileAccess runtime.pythonPath .execute &&
    host.fileAccess host.script .read

def benchmarkArguments (host : Host) (payload : BenchmarkPayload) :
    List String :=
  [host.script, "--matrix-size", toString payload.matrixSize,
    "--warmup-iterations", toString payload.warmupIterations,
    "--measured-iterations", toString payload.measuredIterations]

/-- What `runProcess` is called with. -/
def benchmarkInvocation (host : Host) (payload : BenchmarkPayload)
    (gpu : Device) (runtime : Runtime) : Invocation where
  command := runtime.pythonPath
  arguments := benchmarkArguments host payload
  timeoutMs := runtime.timeoutMs
  maxOutputBytes := 65536
  env := benchmarkEnvironment gpu.uuid
  absolute := runtime.absolute
  few := by simp [benchmarkArguments]
  timed := ⟨runtime.timed.1, runtime.timed.2.trans (by decide)⟩
  bounded := by decide

/-- It is what the checks of `runBoundedProcess` make of the arguments, none of
which is an output limit. -/
theorem validateInvocation_benchmark (host : Host) (payload : BenchmarkPayload)
    (gpu : Device) (runtime : Runtime) :
    validateInvocation (.string runtime.pythonPath)
      (.array ((benchmarkArguments host payload).map .string))
      (some (.number runtime.timeoutMs)) none
      (some (.object ((benchmarkEnvironment gpu.uuid).map fun entry =>
        (entry.1, .string entry.2)))) =
      .ok (benchmarkInvocation host payload gpu runtime) :=
  validateInvocation_again (benchmarkInvocation host payload gpu runtime) rfl

/-- What has been settled before the process is run. -/
structure Prepared where
  payload : BenchmarkPayload
  gpu : Device
  runtime : Runtime

def readPayload (job : Job) : Except Failure BenchmarkPayload :=
  match validateBenchmarkPayload job.payload with
  | .ok payload => .ok payload
  | .error message => .error (processError "benchmark_payload_invalid" message)

def assigned (job : Job) (gpu : Option Device) : Except Failure Device :=
  match gpu with
  | some gpu =>
      if some gpu.uuid = job.assignedGpuUuid then .ok gpu
      else .error (processError "benchmark_gpu_assignment_invalid"
        "Assigned GPU inventory is unavailable")
  | none => .error (processError "benchmark_gpu_assignment_invalid"
      "Assigned GPU inventory is unavailable")

def configured (host : Host) (runtime : Option Runtime) :
    Except Failure Runtime :=
  match runtime with
  | some runtime =>
      if installed host runtime then .ok runtime
      else .error (processError "benchmark_runtime_unavailable"
        "Benchmark runtime is not installed")
  | none => .error (processError "benchmark_runtime_unavailable"
      "Benchmark runtime is not configured")

def prepare (host : Host) (job : Job) (gpu : Option Device)
    (runtime : Option Runtime) : Except Failure Prepared := do
  let payload ← readPayload job
  let gpu ← assigned job gpu
  let runtime ← configured host runtime
  return ⟨payload, gpu, runtime⟩

def Prepared.invocation (host : Host) (prepared : Prepared) : Invocation :=
  benchmarkInvocation host prepared.payload prepared.gpu prepared.runtime

/-- `normalizeProcessError` -/
def normalizeProcessError (thrown : Thrown) : Failure :=
  match thrown.code with
  | some "process_timeout" =>
      processError "benchmark_timeout" "Benchmark runner exceeded its time limit"
  | some "process_output_limit" =>
      processError "benchmark_output_limit"
        "Benchmark runner exceeded its output limit"
  | some "job_aborted" =>
      processError "job_aborted" "Benchmark job was aborted"
  | some "benchmark_timeout" => ⟨"benchmark_timeout", thrown.message⟩
  | some "benchmark_output_limit" => ⟨"benchmark_output_limit", thrown.message⟩
  | _ => ⟨"benchmark_runner_failed", thrown.message⟩

/-! ## Results -/

/-- `expectedRunnerFields` -/
def expectedRunnerFields : List String :=
  ["schemaVersion", "backend", "backendVersion", "cudaRuntimeVersion",
    "matrixSize", "dtype", "warmupIterations", "measuredIterations",
    "medianIterationMs", "p95IterationMs", "estimatedTflops",
    "peakAllocatedMiB"]

def invalid (message : String) : Failure :=
  processError "benchmark_result_invalid" message

/-- An error of `parseBenchmarkResult` unless it holds. -/
def demand (holds : Bool) (message : String) : Except Failure Unit :=
  if holds then .ok () else .error (invalid message)

/-- `parseSingleJsonObject` -/
def parseSingleJsonObject (host : Host) (stdout name : String) :
    Except Failure (List (String × Json)) := do
  demand (byteLength stdout ≤ 65536) (name ++ " output is invalid")
  let line := trimText stdout
  demand (line ≠ "" ∧ '\n' ∉ line.toList)
    (name ++ " must contain one JSON object")
  match JsonText.parse line with
  | some (.object fields) => .ok fields
  | some _ => .error (invalid (name ++ " must be a JSON object"))
  | none => .error ⟨"benchmark_result_invalid", host.syntaxError line⟩

def isNumber (value : Option Json) (number : Rat) : Bool :=
  match value with
  | some (.number q) => q = number
  | _ => false

def isString (value : Option Json) (text : String) : Bool :=
  match value with
  | some (.string other) => other = text
  | _ => false

def requireBoundedString (value : Option Json) (name : String) (maximum : Nat) :
    Except Failure String :=
  match value with
  | some (.string text) =>
      if text ≠ "" ∧ utf16Length text ≤ maximum then .ok text
      else .error (invalid ("benchmark runner returned invalid " ++ name))
  | _ => .error (invalid ("benchmark runner returned invalid " ++ name))

def requireFiniteNumber (value : Option Json) (name : String) (minimum : Rat) :
    Except Failure Rat :=
  match value with
  | some (.number q) =>
      if minimum ≤ q ∧ q ≤ 1000000 then .ok q
      else .error (invalid ("benchmark runner returned invalid " ++ name))
  | _ => .error (invalid ("benchmark runner returned invalid " ++ name))

/-- `0.000_001` -/
def smallest : Rat := JsonText.toDouble (1 / 1000000)

/-- What the runner has measured. -/
structure Measurement where
  backendVersion : String
  cudaRuntimeVersion : String
  medianIterationMs : Rat
  p95IterationMs : Rat
  estimatedTflops : Rat
  peakAllocatedMiB : Rat
  deriving DecidableEq, Repr

structure BenchmarkResult where
  payload : BenchmarkPayload
  gpu : Device
  measured : Measurement
  startedAt : Int
  completedAt : Int
  deriving DecidableEq, Repr

def isSafe (time : Int) : Bool :=
  time.natAbs ≤ JsonText.maxSafeInteger

/-- `parseBenchmarkResult` -/
def parseBenchmarkResult (host : Host) (stdout : String)
    (payload : BenchmarkPayload) (gpu : Device) (startedAt completedAt : Int) :
    Except Failure BenchmarkResult := do
  let fields ← parseSingleJsonObject host stdout "benchmark result"
  let names := fields.map (·.1)
  demand ((∀ name ∈ names, name ∈ expectedRunnerFields) ∧
      ∀ name ∈ expectedRunnerFields, name ∈ names)
    "benchmark runner returned an unexpected result schema"
  let field := (Json.object fields).field?
  demand (isNumber (field "schemaVersion") 1 &&
      isString (field "backend") "pytorch-cuda" &&
      isString (field "dtype") "float32" &&
      isNumber (field "matrixSize") payload.matrixSize &&
      isNumber (field "warmupIterations") payload.warmupIterations &&
      isNumber (field "measuredIterations") payload.measuredIterations)
    "benchmark runner result does not match the requested workload"
  let backendVersion ←
    requireBoundedString (field "backendVersion") "backendVersion" 100
  let cudaRuntimeVersion ←
    requireBoundedString (field "cudaRuntimeVersion") "cudaRuntimeVersion" 100
  let medianIterationMs ←
    requireFiniteNumber (field "medianIterationMs") "medianIterationMs" smallest
  let p95IterationMs ← requireFiniteNumber (field "p95IterationMs")
    "p95IterationMs" medianIterationMs
  let estimatedTflops ←
    requireFiniteNumber (field "estimatedTflops") "estimatedTflops" smallest
  let peakAllocatedMiB ←
    requireFiniteNumber (field "peakAllocatedMiB") "peakAllocatedMiB" 0
  demand (isSafe startedAt && isSafe completedAt && startedAt ≤ completedAt)
    "benchmark timestamps are invalid"
  return ⟨payload, gpu, ⟨backendVersion, cudaRuntimeVersion, medianIterationMs,
    p95IterationMs, estimatedTflops, peakAllocatedMiB⟩, startedAt, completedAt⟩

/-- `runGpuBenchmark`, with what its process is settled with and the readings
of its clock. -/
def runGpuBenchmark (host : Host) (job : Job) (gpu : Option Device)
    (runtime : Option Runtime) (runProcess : Invocation → Except Thrown Output)
    (startedAt completedAt : Int) : Except Failure BenchmarkResult := do
  let prepared ← prepare host job gpu runtime
  match runProcess (prepared.invocation host) with
  | .error thrown => .error (normalizeProcessError thrown)
  | .ok output =>
      parseBenchmarkResult host output.stdout prepared.payload prepared.gpu
        startedAt completedAt

/-! ## What is reported -/

/-- The twelve fields of a runner's object. -/
def runnerFields (payload : BenchmarkPayload) (measured : Measurement) :
    List (String × Json) :=
  [("schemaVersion", .number 1), ("backend", .string "pytorch-cuda"),
    ("dtype", .string "float32"), ("matrixSize", .number payload.matrixSize),
    ("warmupIterations", .number payload.warmupIterations),
    ("measuredIterations", .number payload.measuredIterations),
    ("backendVersion", .string measured.backendVersion),
    ("cudaRuntimeVersion", .string measured.cudaRuntimeVersion),
    ("medianIterationMs", .number measured.medianIterationMs),
    ("p95IterationMs", .number measured.p95IterationMs),
    ("estimatedTflops", .number measured.estimatedTflops),
    ("peakAllocatedMiB", .number measured.peakAllocatedMiB)]

/-- A text of one line, an object with these fields and no others, in any
order. -/
structure Answers (stdout : String) (payload : BenchmarkPayload)
    (measured : Measurement) : Prop where
  small : byteLength stdout ≤ 65536
  line : '\n' ∉ (trimText stdout).toList
  fields : ∃ fields, JsonText.parse (trimText stdout) = some (.object fields) ∧
    (∀ field ∈ fields, field.1 ∈ expectedRunnerFields) ∧
    ∀ field ∈ runnerFields payload measured,
      (Json.object fields).field? field.1 = some field.2

def Named (text : String) : Prop :=
  text ≠ "" ∧ utf16Length text ≤ 100

structure Measurement.Within (measured : Measurement) : Prop where
  backend : Named measured.backendVersion
  cuda : Named measured.cudaRuntimeVersion
  median : smallest ≤ measured.medianIterationMs
  p95 : measured.medianIterationMs ≤ measured.p95IterationMs
  slow : measured.p95IterationMs ≤ 1000000
  tflops : smallest ≤ measured.estimatedTflops ∧
    measured.estimatedTflops ≤ 1000000
  memory : 0 ≤ measured.peakAllocatedMiB ∧ measured.peakAllocatedMiB ≤ 1000000

/-- The readings of the clock around the process. -/
structure Timed (startedAt completedAt : Int) : Prop where
  started : isSafe startedAt = true
  completed : isSafe completedAt = true
  forward : startedAt ≤ completedAt

theorem demand_ok {holds : Bool} {message : String} {done : Unit} :
    demand holds message = .ok done ↔ holds = true := by
  unfold demand
  cases holds <;> simp

theorem isNumber_iff {value : Option Json} {number : Rat} :
    isNumber value number = true ↔ value = some (.number number) := by
  unfold isNumber
  split
  · rw [decide_eq_true_eq, Option.some_inj, Json.number.injEq]
  · next other =>
      constructor
      · intro never
        cases never
      · intro same
        exact absurd same (other number)

theorem isString_iff {value : Option Json} {text : String} :
    isString value text = true ↔ value = some (.string text) := by
  unfold isString
  split
  · rw [decide_eq_true_eq, Option.some_inj, Json.string.injEq]
  · next other =>
      constructor
      · intro never
        cases never
      · intro same
        exact absurd same (other text)

theorem requireBoundedString_ok {value : Option Json} {name text : String} :
    requireBoundedString value name 100 = .ok text ↔
      value = some (.string text) ∧ Named text := by
  unfold requireBoundedString
  split
  · next other =>
      split_ifs with named
      · constructor
        · intro same
          cases same
          exact ⟨rfl, named⟩
        · rintro ⟨same, _⟩
          cases same
          rfl
      · constructor
        · intro same
          cases same
        · rintro ⟨same, short⟩
          cases same
          exact absurd short named
  · next other =>
      constructor
      · intro same
        cases same
      · rintro ⟨same, _⟩
        exact absurd same (other text)

theorem requireFiniteNumber_ok {value : Option Json} {name : String}
    {minimum number : Rat} :
    requireFiniteNumber value name minimum = .ok number ↔
      value = some (.number number) ∧ minimum ≤ number ∧ number ≤ 1000000 := by
  unfold requireFiniteNumber
  split
  · next other =>
      split_ifs with within
      · constructor
        · intro same
          cases same
          exact ⟨rfl, within⟩
        · rintro ⟨same, _⟩
          cases same
          rfl
      · constructor
        · intro same
          cases same
        · rintro ⟨same, between⟩
          cases same
          exact absurd between within
  · next other =>
      constructor
      · intro same
        cases same
      · rintro ⟨same, _⟩
        exact absurd same (other number)

theorem parseSingleJsonObject_ok {host : Host} {stdout name : String}
    {fields : List (String × Json)} :
    parseSingleJsonObject host stdout name = .ok fields ↔
      byteLength stdout ≤ 65536 ∧ '\n' ∉ (trimText stdout).toList ∧
        JsonText.parse (trimText stdout) = some (.object fields) := by
  have blank : JsonText.parse "" = none := by
    decide
  unfold parseSingleJsonObject
  simp only [Failures.bind_eq_ok, demand_ok, decide_eq_true_eq, exists_const]
  constructor
  · rintro ⟨small, ⟨_, line⟩, done⟩
    refine ⟨small, line, ?_⟩
    split at done
    · next found =>
        cases done
        exact found
    · cases done
    · cases done
  · rintro ⟨small, line, found⟩
    refine ⟨small, ⟨?_, line⟩, ?_⟩
    · intro empty
      rw [empty, blank] at found
      cases found
    · rw [found]

/-- An object has the names of the fields that are found. -/
theorem name_of_field? {fields : List (String × Json)} {name : String}
    {value : Json} (found : (Json.object fields).field? name = some value) :
    name ∈ fields.map (·.1) := by
  rw [Json.field?, Option.map_eq_some_iff] at found
  obtain ⟨entry, first, _⟩ := found
  have named := of_decide_eq_true (List.find?_some
    (p := fun entry : String × Json => decide (entry.1 = name)) first)
  rw [← named]
  exact List.mem_map_of_mem (List.mem_of_find?_eq_some first)

theorem parseBenchmarkResult_ok {host : Host} {stdout : String}
    {payload : BenchmarkPayload} {gpu : Device} {startedAt completedAt : Int}
    {result : BenchmarkResult} :
    parseBenchmarkResult host stdout payload gpu startedAt completedAt =
        .ok result ↔
      ∃ measured, Answers stdout payload measured ∧ measured.Within ∧
        Timed startedAt completedAt ∧
          result = ⟨payload, gpu, measured, startedAt, completedAt⟩ := by
  unfold parseBenchmarkResult
  simp only [Failures.bind_eq_ok, demand_ok, decide_eq_true_eq,
    Bool.and_eq_true, isNumber_iff, isString_iff, requireBoundedString_ok,
    requireFiniteNumber_ok, parseSingleJsonObject_ok, exists_const]
  constructor
  · rintro ⟨fields, ⟨small, line, found⟩, ⟨known, _⟩,
      ⟨⟨⟨⟨⟨schema, backend⟩, dtype⟩, matrix⟩, warmup⟩, measuredIterations⟩,
      backendVersion, ⟨version, named⟩, cudaRuntimeVersion, ⟨cuda, runtime⟩,
      median, ⟨middle, above, _⟩, p95, ⟨late, later, slow⟩, tflops,
      ⟨fast, some, few⟩, peak, ⟨memory, least, most⟩,
      ⟨⟨started, completed⟩, forward⟩, done⟩
    cases done
    refine ⟨⟨backendVersion, cudaRuntimeVersion, median, p95, tflops, peak⟩,
      ⟨small, line, fields, found, ?_, ?_⟩, ⟨named, runtime, above, later, slow,
        ⟨some, few⟩, least, most⟩, ⟨started, completed, forward⟩, rfl⟩
    · intro field member
      exact known field.1 (List.mem_map_of_mem member)
    · intro field member
      simp only [runnerFields, List.mem_cons, List.not_mem_nil, or_false]
        at member
      rcases member with rfl | rfl | rfl | rfl | rfl | rfl | rfl | rfl | rfl |
        rfl | rfl | rfl <;> assumption
  · rintro ⟨measured, ⟨small, line, fields, found, known, asked⟩, within,
      ⟨started, completed, forward⟩, rfl⟩
    have here : ∀ name ∈ expectedRunnerFields, name ∈ fields.map (·.1) := by
      intro name expected
      have listed : ∃ value, (name, value) ∈
          runnerFields payload measured := by
        simp only [expectedRunnerFields, List.mem_cons, List.not_mem_nil,
          or_false] at expected
        rcases expected with rfl | rfl | rfl | rfl | rfl | rfl | rfl | rfl |
          rfl | rfl | rfl | rfl <;> simp [runnerFields]
      obtain ⟨value, member⟩ := listed
      exact name_of_field? (asked (name, value) member)
    have names : ∀ name ∈ fields.map (·.1), name ∈ expectedRunnerFields := by
      intro name member
      obtain ⟨field, inside, rfl⟩ := List.mem_map.mp member
      exact known field inside
    simp only [runnerFields, List.forall_mem_cons] at asked
    obtain ⟨schema, backend, dtype, matrix, warmup, iterations, version, cuda,
      median, p95, tflops, peak, _⟩ := asked
    exact ⟨fields, ⟨small, line, found⟩, ⟨names, here⟩,
      ⟨⟨⟨⟨⟨schema, backend⟩, dtype⟩, matrix⟩, warmup⟩, iterations⟩,
      _, ⟨version, within.backend⟩, _, ⟨cuda, within.cuda⟩,
      _, ⟨median, within.median, within.p95.trans within.slow⟩,
      _, ⟨p95, within.p95, within.slow⟩, _, ⟨tflops, within.tflops⟩,
      _, ⟨peak, within.memory⟩, ⟨⟨started, completed⟩, forward⟩, rfl⟩

/-! ## What is reported of a failure -/

def Invalid (failure : Failure) : Prop :=
  failure.code = "benchmark_result_invalid"

theorem demand_fails (holds : Bool) (message : String) :
    Failures.Fails Invalid (demand holds message) := by
  cases holds with
  | true => exact .ok ()
  | false => exact .error rfl

theorem requireBoundedString_fails (value : Option Json) (name : String)
    (maximum : Nat) :
    Failures.Fails Invalid (requireBoundedString value name maximum) := by
  unfold requireBoundedString
  split
  · split_ifs
    · exact .ok _
    · exact .error rfl
  · exact .error rfl

theorem requireFiniteNumber_fails (value : Option Json) (name : String)
    (minimum : Rat) :
    Failures.Fails Invalid (requireFiniteNumber value name minimum) := by
  unfold requireFiniteNumber
  split
  · split_ifs
    · exact .ok _
    · exact .error rfl
  · exact .error rfl

theorem parseSingleJsonObject_fails (host : Host) (stdout name : String) :
    Failures.Fails Invalid (parseSingleJsonObject host stdout name) := by
  refine (demand_fails _ _).bind fun _ => ?_
  refine (demand_fails _ _).bind fun _ => ?_
  split
  · exact .ok _
  · exact .error rfl
  · exact .error rfl

/-- Whatever is wrong with what a runner has written, it is the result that is
invalid. -/
theorem parseBenchmarkResult_fails (host : Host) (stdout : String)
    (payload : BenchmarkPayload) (gpu : Device) (startedAt completedAt : Int) :
    Failures.Fails Invalid
      (parseBenchmarkResult host stdout payload gpu startedAt completedAt) := by
  refine (parseSingleJsonObject_fails host stdout _).bind fun fields => ?_
  refine (demand_fails _ _).bind fun _ => ?_
  refine (demand_fails _ _).bind fun _ => ?_
  refine (requireBoundedString_fails _ _ _).bind fun _ => ?_
  refine (requireBoundedString_fails _ _ _).bind fun _ => ?_
  refine (requireFiniteNumber_fails _ _ _).bind fun _ => ?_
  refine (requireFiniteNumber_fails _ _ _).bind fun _ => ?_
  refine (requireFiniteNumber_fails _ _ _).bind fun _ => ?_
  refine (requireFiniteNumber_fails _ _ _).bind fun _ => ?_
  refine (demand_fails _ _).bind fun _ => ?_
  exact .ok _

/-- What the promise of a process is rejected with has a code. -/
def thrown (failure : Failure) : Thrown :=
  ⟨some failure.code, failure.message⟩

/-- The code that a benchmark fails with when its process does. -/
def reportedCode (failure : Failure) : String :=
  if failure.code = "process_timeout" then "benchmark_timeout"
  else if failure.code = "process_output_limit" then "benchmark_output_limit"
  else if failure.code = "job_aborted" then "job_aborted"
  else "benchmark_runner_failed"

theorem prepare_ok {host : Host} {job : Job} {gpu : Option Device}
    {runtime : Option Runtime} {prepared : Prepared}
    (ready : prepare host job gpu runtime = .ok prepared) :
    validateBenchmarkPayload job.payload = .ok prepared.payload ∧
      gpu = some prepared.gpu ∧ job.assignedGpuUuid = some prepared.gpu.uuid ∧
        runtime = some prepared.runtime ∧
          installed host prepared.runtime = true := by
  obtain ⟨payload, read, ready⟩ := Failures.ok_of_bind ready
  obtain ⟨device, given, ready⟩ := Failures.ok_of_bind ready
  obtain ⟨machine, present, ready⟩ := Failures.ok_of_bind ready
  cases ready
  unfold readPayload at read
  unfold assigned at given
  unfold configured at present
  split at read
  · next valid =>
      cases read
      split at given
      · split_ifs at given with same
        cases given
        split at present
        · split_ifs at present with there
          cases present
          exact ⟨valid, rfl, same.symm, rfl, there⟩
        · cases present
      · cases given
  · cases read

/-- The codes of a bounded process. -/
def Known (failure : Failure) : Prop :=
  failure = timedOut ∨ failure = outputLimit ∨ failure = aborted ∨
    failure.code = "process_runner_failed"

theorem firstCause_known {maxOutputBytes : Nat} {earlier events : List BoundedProcess.Event}
    {failure : Failure}
    (found : firstCause maxOutputBytes earlier events = some failure) :
    Known failure := by
  induction events generalizing earlier with
  | nil => cases found
  | cons event rest induction =>
      rcases Option.or_eq_some_iff.mp found with here | ⟨_, later⟩
      · cases event with
        | data stream chunk =>
            rw [cause] at here
            split_ifs at here
            cases here
            exact Or.inr (Or.inl rfl)
        | timeout =>
            cases here
            exact Or.inl rfl
        | abort =>
            cases here
            exact Or.inr (Or.inr (Or.inl rfl))
        | error message =>
            cases here
            exact Or.inr (Or.inr (Or.inr rfl))
        | elapse ms | killTimer | close exitCode exitSignal => cases here
      · exact induction later

theorem failureOf_known {spawn : Spawn} {events : List BoundedProcess.Event}
    {failure : Failure} (found : failureOf spawn events = some failure) :
    Known failure := by
  unfold failureOf at found
  split_ifs at found
  · cases found
    exact Or.inr (Or.inr (Or.inl rfl))
  · exact firstCause_known found

theorem normalizeProcessError_known {failure : Failure}
    (known : Known failure) :
    (normalizeProcessError (thrown failure)).code = reportedCode failure := by
  rcases known with rfl | rfl | rfl | coded
  · rfl
  · rfl
  · rfl
  · unfold normalizeProcessError reportedCode thrown
    simp [coded]

/-- What a benchmark fails with, when its process has closed. -/
def failedCode (spawn : Spawn) (closed : Closing) : String :=
  match failureOf spawn closed.before with
  | some failure => reportedCode failure
  | none =>
      if closed.exitCode = some 0 then "benchmark_result_invalid"
      else "benchmark_runner_failed"

theorem report_of_ready {host : Host} {job : Job} {gpu : Option Device}
    {runtime : Option Runtime} {prepared : Prepared}
    (ready : prepare host job gpu runtime = .ok prepared)
    (runProcess : Invocation → Except Thrown Output)
    (startedAt completedAt : Int) :
    runGpuBenchmark host job gpu runtime runProcess startedAt completedAt =
      match runProcess (prepared.invocation host) with
      | .error thrown => .error (normalizeProcessError thrown)
      | .ok output =>
          parseBenchmarkResult host output.stdout prepared.payload prepared.gpu
            startedAt completedAt := by
  unfold runGpuBenchmark
  rw [ready]
  rfl

theorem reportedCode_timeout {failure : Failure} (known : Known failure)
    (timeout : reportedCode failure = "benchmark_timeout") :
    failure = timedOut := by
  rcases known with rfl | rfl | rfl | coded
  · rfl
  · exact absurd timeout (by decide)
  · exact absurd timeout (by decide)
  · rw [reportedCode, coded] at timeout
    exact absurd timeout (by decide)

theorem exitFailure_known (stderr : String) (exitCode : Option Int)
    (exitSignal : Option String) :
    Known (exitFailure stderr exitCode exitSignal) :=
  Or.inr (Or.inr (Or.inr rfl))

/-- The process of a benchmark runs until it closes.  Its result is reported
exactly if it passed no limit, exited with zero and wrote one object that
answers the request; the result then is that object with the request's own
payload and the GPU that the job was given.  What it fails with otherwise is
what went wrong first, and the time limit only when it was reached. -/
theorem gpu_benchmark {host : Host} {job : Job} {gpu : Option Device}
    {runtime : Option Runtime} {prepared : Prepared} {spawn : Spawn}
    {events : List BoundedProcess.Event} {child : Child} {closed : Closing}
    {outcome : Except Failure Output}
    {runProcess : Invocation → Except Thrown Output}
    {startedAt completedAt : Int}
    (ready : prepare host job gpu runtime = .ok prepared)
    (invoked : spawn.invocation = prepared.invocation host)
    (run : (runBoundedProcess spawn).Reaches events child)
    (ended : closing [] events = some closed)
    (settled : child.settled = some outcome)
    (answered : runProcess spawn.invocation = outcome.mapError thrown) :
    (validateBenchmarkPayload job.payload = .ok prepared.payload ∧
      gpu = some prepared.gpu ∧
        job.assignedGpuUuid = some prepared.gpu.uuid) ∧
    (∀ result, runGpuBenchmark host job gpu runtime runProcess startedAt
        completedAt = .ok result ↔
      failureOf spawn closed.before = none ∧ closed.exitCode = some 0 ∧
      Timed startedAt completedAt ∧ ∃ measured,
        Answers (utf8Text (written .stdout closed.before)) prepared.payload
          measured ∧ measured.Within ∧ result =
            ⟨prepared.payload, prepared.gpu, measured, startedAt,
              completedAt⟩) ∧
    (∀ failure, runGpuBenchmark host job gpu runtime runProcess startedAt
        completedAt = .error failure →
      failure.code = failedCode spawn closed ∧
        (failure.code = "benchmark_timeout" →
          prepared.runtime.timeoutMs ≤ child.now)) := by
  have follows := follows run
  have orderly := orderly run
  have decided := follows.settled
  rw [settled, ended, Option.map_some, Option.some_inj, verdict] at decided
  rw [invoked] at answered
  rw [report_of_ready ready, answered]
  obtain ⟨valid, given, same, _⟩ := prepare_ok ready
  refine ⟨⟨valid, given, same⟩, ?_⟩
  cases failed : failureOf spawn closed.before with
  | some cause =>
      rw [failed] at decided
      subst decided
      have known := failureOf_known failed
      have code := normalizeProcessError_known known
      constructor
      · intro result
        constructor
        · intro reported
          cases reported
        · rintro ⟨never, _⟩
          cases never
      · intro failure reported
        cases reported
        refine ⟨?_, ?_⟩
        · rw [code, failedCode, failed]
        · intro timeout
          rw [code] at timeout
          have first := follows.failure
          rw [lifetime_of_closed ended, failed,
            reportedCode_timeout known timeout] at first
          have late := orderly.late first
          rw [invoked] at late
          exact late
  | none =>
      rw [failed] at decided
      dsimp only at decided
      by_cases zero : closed.exitCode = some 0
      · rw [if_pos zero] at decided
        subst decided
        constructor
        · intro result
          refine parseBenchmarkResult_ok.trans ?_
          constructor
          · rintro ⟨measured, answers, within, timed, same⟩
            exact ⟨rfl, zero, timed, measured, answers, within, same⟩
          · rintro ⟨_, _, timed, measured, answers, within, same⟩
            exact ⟨measured, answers, within, timed, same⟩
        · intro failure reported
          have code := parseBenchmarkResult_fails _ _ _ _ _ _ failure reported
          rw [Invalid] at code
          refine ⟨?_, ?_⟩
          · rw [code, failedCode, failed, if_pos zero]
          · rw [code]
            intro timeout
            exact absurd timeout (by decide)
      · rw [if_neg zero] at decided
        subst decided
        have known := exitFailure_known
          (utf8Text (written .stderr closed.before)) closed.exitCode
          closed.exitSignal
        have code := normalizeProcessError_known known
        have failing : reportedCode (exitFailure
            (utf8Text (written .stderr closed.before)) closed.exitCode
            closed.exitSignal) = "benchmark_runner_failed" := rfl
        rw [failing] at code
        constructor
        · intro result
          constructor
          · intro reported
            cases reported
          · rintro ⟨_, exited, _⟩
            exact absurd exited zero
        · intro failure reported
          cases reported
          refine ⟨?_, ?_⟩
          · rw [code, failedCode, failed, if_neg zero]
          · rw [code]
            intro timeout
            exact absurd timeout (by decide)

def sampleHost : Host :=
  ⟨"/opt/runner.py", fun _ _ => true, fun _ => []⟩

def sampleJob : Job := ⟨some (.object []), some "GPU-1"⟩

def sampleRuntime : Runtime := ⟨"/bin/python", 60000, rfl, by decide⟩

def samplePrepared : Prepared :=
  ⟨benchmarkDefaults, ⟨"GPU-1", "L4"⟩, sampleRuntime⟩

def sampleMeasurement : Measurement := ⟨"2", "12", 2, 3, 10, 100⟩

def sampleScalars : List (String × JsonText.Scalar) :=
  [("schemaVersion", .number 1), ("backend", .text "pytorch-cuda"),
    ("backendVersion", .text "2"), ("cudaRuntimeVersion", .text "12"),
    ("matrixSize", .number 4096), ("dtype", .text "float32"),
    ("warmupIterations", .number 3), ("measuredIterations", .number 10),
    ("medianIterationMs", .number 2), ("p95IterationMs", .number 3),
    ("estimatedTflops", .number 10), ("peakAllocatedMiB", .number 100)]

def sampleChars : List Char :=
  '{' :: JsonText.fieldsText sampleScalars ++ ['}']

def sampleText : String := String.ofList sampleChars

theorem sample_chars : ∀ c ∈ sampleChars, c.toNat < 128 ∧ c ≠ '\n' := by
  have all : sampleChars.all (fun c => c.toNat < 128 && c ≠ '\n') = true := by
    decide +kernel
  intro c member
  have plain := List.all_eq_true.mp all c member
  rw [Bool.and_eq_true, decide_eq_true_eq, decide_eq_true_eq] at plain
  exact plain

theorem sample_small : byteLength sampleText ≤ 65536 := by
  have short : (sampleChars.drop 300).isEmpty = true := by
    decide +kernel
  have length := List.drop_eq_nil_iff.mp (List.isEmpty_iff.mp short)
  rw [sampleText, byteLength_ofList_ascii fun c member =>
    (sample_chars c member).1]
  omega

theorem sample_answers :
    Answers sampleText benchmarkDefaults sampleMeasurement := by
  have trimmed : trimText sampleText = sampleText := by
    have same : DataPlane.trim sampleChars = sampleChars := by
      simp [sampleChars, DataPlane.trim, DataPlane.isTrimmed]
    rw [trimText, sampleText, String.toList_ofList, same]
  have line : '\n' ∉ sampleChars := by
    intro member
    exact (sample_chars _ member).2 rfl
  have safe : ∀ entry ∈ sampleScalars, entry.2.Safe := by
    simp [sampleScalars, JsonText.Scalar.Safe, JsonText.maxSafeInteger]
  have read := JsonText.parse_stringify (List.cons_ne_nil _ _) safe (by decide)
  refine ⟨sample_small, ?_, _, by rw [trimmed]; exact read, ?_, ?_⟩
  · rw [trimmed, sampleText, String.toList_ofList]
    exact line
  · decide
  · simp only [runnerFields, List.forall_mem_cons]
    exact ⟨rfl, rfl, rfl, rfl, rfl, rfl, rfl, rfl, rfl, rfl, rfl, rfl,
      List.forall_mem_nil _⟩

/-- The runner writes its text in two parts. -/
def sampleOutput (text : String) : List BoundedProcess.Event :=
  [.data .stdout ((utf8Bytes text).take 9),
    .data .stdout ((utf8Bytes text).drop 9)]

def sampleSpawn : Spawn :=
  ⟨samplePrepared.invocation sampleHost, true, some 7, none⟩

theorem sample_ready : prepare sampleHost sampleJob (some ⟨"GPU-1", "L4"⟩)
    (some sampleRuntime) = .ok samplePrepared := by
  rfl

theorem sample_within : sampleMeasurement.Within := by
  have small : smallest ≤ 1 := by
    decide +kernel
  have median : sampleMeasurement.medianIterationMs = 2 := rfl
  have p95 : sampleMeasurement.p95IterationMs = 3 := rfl
  have tflops : sampleMeasurement.estimatedTflops = 10 := rfl
  have peak : sampleMeasurement.peakAllocatedMiB = 100 := rfl
  refine ⟨⟨by decide, by decide⟩, ⟨by decide, by decide⟩, ?_, ?_, ?_, ?_, ?_⟩
  · rw [median]
    exact small.trans (by norm_num)
  · rw [median, p95]
    norm_num
  · rw [p95]
    norm_num
  · rw [tflops]
    exact ⟨small.trans (by norm_num), by norm_num⟩
  · rw [peak]
    norm_num

theorem sample_written (text : String) :
    written .stdout (sampleOutput text) = utf8Bytes text := by
  simp [written, sampleOutput, chunkOf]

theorem sample_fits {text : String} (small : byteLength text ≤ 65536) :
    failureOf sampleSpawn (sampleOutput text) = none := by
  unfold byteLength at small
  have limit : sampleSpawn.invocation.maxOutputBytes = 65536 := rfl
  have fits : ∀ earlier stream chunk, received (earlier ++ [.data stream chunk]) ≤
      65536 → cause 65536 earlier (.data stream chunk) = none := by
    intro earlier stream chunk few
    rw [cause, if_neg (not_lt.mpr few)]
  have first : ((utf8Bytes text).take 9).length ≤ (utf8Bytes text).length :=
    List.length_take_le' _ _
  have both : ((utf8Bytes text).take 9).length +
      ((utf8Bytes text).drop 9).length = (utf8Bytes text).length := by
    rw [← List.length_append, List.take_append_drop]
  have none : received [] = 0 := rfl
  rw [failureOf, if_neg (by decide), limit, sampleOutput, firstCause, firstCause,
    firstCause, fits, fits]
  · rfl
  · rw [received_data, received_data, none]
    omega
  · rw [received_data, none]
    omega

theorem sample_run (text : String) :
    ∃ child, (runBoundedProcess sampleSpawn).Reaches
      (sampleOutput text ++ [.close (some 0) none]) child := by
  have takes : ∀ {events child event},
      (runBoundedProcess sampleSpawn).Reaches events child →
        closing [] events = none →
          (∀ child : Child, child.settled = none →
            (child.step sampleSpawn event).isSome) →
            ∃ after, (runBoundedProcess sampleSpawn).Reaches (events ++ [event])
              after := by
    intro events child event run open_ possible
    have unsettled : child.settled = none := by
      rw [(follows run).settled, open_]
      rfl
    exact ⟨_, .next run trivial (Option.some_get (possible child unsettled)).symm⟩
  have data : ∀ {chunk} (child : Child), child.settled = none →
      (child.step sampleSpawn (.data .stdout chunk)).isSome := by
    intro chunk child unsettled
    rw [Child.step, unsettled]
    rfl
  obtain ⟨first, run⟩ := takes .initial rfl data
  obtain ⟨second, run⟩ := takes run rfl data
  refine takes run rfl ?_
  intro child unsettled
  rw [Child.step, unsettled]
  rfl

theorem gpu_benchmark_sample : ∃ runProcess result,
    runGpuBenchmark sampleHost sampleJob (some ⟨"GPU-1", "L4"⟩)
      (some sampleRuntime) runProcess 1000 1250 = .ok result ∧
      result.measured = sampleMeasurement := by
  obtain ⟨child, run⟩ := sample_run sampleText
  have ended : closing [] (sampleOutput sampleText ++ [.close (some 0) none]) =
      some ⟨sampleOutput sampleText, some 0, none⟩ := rfl
  have answers := sample_answers
  rw [← utf8Text_utf8Bytes sampleText, ← sample_written] at answers
  have settled := (follows run).settled
  rw [ended, Option.map_some] at settled
  obtain ⟨outcome, same⟩ : ∃ outcome, outcome =
      verdict sampleSpawn ⟨sampleOutput sampleText, some 0, none⟩ := ⟨_, rfl⟩
  rw [← same] at settled
  obtain ⟨_, reported, _⟩ := @gpu_benchmark _ _ _ _ _ _ _ _ _ outcome
    (fun _ => outcome.mapError thrown) 1000 1250 sample_ready rfl run ended
    settled rfl
  exact ⟨_, _, (reported _).mpr ⟨sample_fits sample_small, rfl, ⟨by decide,
    by decide, by decide⟩, _, answers, sample_within, rfl⟩, rfl⟩

end GpuBenchmark

end GpuLink
