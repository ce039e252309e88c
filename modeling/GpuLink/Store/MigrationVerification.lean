import GpuLink.Store.CanonicalJson

/-!
# Verification of a migration

Before it commits, the migration from SQLite to PostgreSQL compares what it has
read on both sides: counts, statuses, the last event and fingerprints of all
rows.
-/

namespace GpuLink

namespace Migration

open JsonText

/-- A worker or a job as it is read; its status is a text. -/
structure StatusRow where
  json : Json
  status : String
  proper : Proper json
  hasStatus : json.field? "status" = some (.string status)

/-- An event as it is read; its sequence is a number. -/
structure EventRow where
  json : Json
  sequence : Rat
  proper : Proper json
  hasSequence : json.field? "sequence" = some (.number sequence)

structure Data where
  workers : List StatusRow
  jobs : List StatusRow
  events : List EventRow

/-- The rows of a table as one value. -/
def workerRows (data : Data) : Json :=
  .array (data.workers.map StatusRow.json)

def jobRows (data : Data) : Json :=
  .array (data.jobs.map StatusRow.json)

def eventRows (data : Data) : Json :=
  .array (data.events.map EventRow.json)

/-- `counts.set(value, (counts.get(value) ?? 0) + 1)` -/
def increment (counts : List (String × Nat)) (value : String) :
    List (String × Nat) :=
  if counts.any (fun entry => entry.1 = value) then
    counts.map (fun entry =>
      if entry.1 = value then (entry.1, entry.2 + 1) else entry)
  else counts ++ [(value, 1)]

structure Summary where
  counts : Json
  workerStatuses : Json
  jobStatuses : Json
  maxEventSequence : Json
  fingerprints : Json

section Summary

-- The collation of the runtime, and the hexadecimal digest.
variable (localeCompare : String → String → Int) (sha256 : ByteArray → String)

def countBy (rows : List StatusRow) : Json :=
  let counts := (rows.map StatusRow.status).foldl increment []
  fromEntries ((counts.insertionSort fun left right =>
    localeCompare left.1 right.1 ≤ 0).map fun entry =>
      (entry.1, .number entry.2))

def fingerprint (rows : Json) : Json :=
  .string (sha256 (stableStringify rows).toUTF8)

def summarizeData (data : Data) : Summary where
  counts := .object [("workers", .number data.workers.length),
    ("jobs", .number data.jobs.length),
    ("events", .number data.events.length)]
  workerStatuses := countBy localeCompare data.workers
  jobStatuses := countBy localeCompare data.jobs
  maxEventSequence :=
    match data.events.map EventRow.sequence with
    | [] => .null
    | first :: rest => .number (rest.foldl max first)
  fingerprints := .object [("workers", fingerprint sha256 (workerRows data)),
    ("jobs", fingerprint sha256 (jobRows data)),
    ("events", fingerprint sha256 (eventRows data))]

end Summary

/-- The fields, in the order in which they are compared. -/
def Summary.fields : List (String × (Summary → Json)) :=
  [("counts", counts), ("workerStatuses", workerStatuses),
    ("jobStatuses", jobStatuses), ("maxEventSequence", maxEventSequence),
    ("fingerprints", fingerprints)]

/-- The body of the loop of `verifyMigration`. -/
def compareField (source target : Summary)
    (field : String × (Summary → Json)) : Except String Unit :=
  if stableStringify (field.2 source) ≠ stableStringify (field.2 target) then
    .error ("Migration verification failed for " ++ field.1)
  else .ok ()

def verifyMigration (source target : Summary) : Except String Unit :=
  forM Summary.fields (compareField source target)

/-! ## Properties of equal values -/

/-- A property of one value is a property of the other. -/
theorem Same.property {fields others : List (String × Json)}
    (same : Same (.object fields) (.object others)) {name : String}
    {value : Json} (member : (name, value) ∈ fields) :
    ∃ other, (name, other) ∈ others ∧ Same value other := by
  cases same with
  | @object _ middle _ perm names same =>
      have inMiddle := perm.mem_iff.mp member
      clear perm member
      induction middle generalizing others with
      | nil => cases inMiddle
      | cons field middle induction =>
          cases others with
          | nil => cases names
          | cons other others =>
              obtain ⟨first, later⟩ := List.cons.inj names
              cases same with
              | cons here rest =>
                  rcases List.mem_cons.mp inMiddle with rfl | among
                  · have first : name = other.1 := first
                    refine ⟨other.2, ?_, here⟩
                    rw [first]
                    exact List.mem_cons_self
                  · obtain ⟨found, member, equal⟩ := induction later rest among
                    exact ⟨found, List.mem_cons_of_mem _ member, equal⟩

theorem mem_of_field {json value : Json} {name : String}
    (found : json.field? name = some value) :
    ∃ fields, json = .object fields ∧ (name, value) ∈ fields := by
  cases json with
  | object fields =>
      obtain ⟨entry, first, rfl⟩ := Option.map_eq_some_iff.mp found
      have named := List.find?_some first
      have member := List.mem_of_find?_eq_some first
      refine ⟨fields, rfl, ?_⟩
      rw [← of_decide_eq_true named]
      exact member
  | _ => cases found

/-- So a field has the same value on both sides. -/
theorem Same.field {json other value found : Json} {name : String}
    (same : Same json other) (proper : Proper other)
    (has : json.field? name = some value)
    (hasOther : other.field? name = some found) : Same value found := by
  obtain ⟨fields, rfl, member⟩ := mem_of_field has
  obtain ⟨others, rfl, memberOther⟩ := mem_of_field hasOther
  obtain ⟨equal, among, alike⟩ := same.property member
  cases proper with
  | object nodup =>
      have pair := List.inj_on_of_nodup_map nodup among memberOther rfl
      cases pair
      exact alike

/-! ## Equal summaries -/

theorem statuses_eq {rows others : List StatusRow}
    (same : List.Forall₂ Same (rows.map StatusRow.json)
      (others.map StatusRow.json)) :
    rows.map StatusRow.status = others.map StatusRow.status := by
  induction rows generalizing others with
  | nil =>
      cases others with
      | nil => rfl
      | cons other others => cases same
  | cons row rows induction =>
      cases others with
      | nil => cases same
      | cons other others =>
          cases same with
          | cons first rest =>
              have status := first.field other.proper row.hasStatus
                other.hasStatus
              rw [List.map_cons, List.map_cons, induction rest]
              generalize row.status = left at status ⊢
              generalize other.status = right at status ⊢
              cases status
              rfl

theorem sequences_eq {rows others : List EventRow}
    (same : List.Forall₂ Same (rows.map EventRow.json)
      (others.map EventRow.json)) :
    rows.map EventRow.sequence = others.map EventRow.sequence := by
  induction rows generalizing others with
  | nil =>
      cases others with
      | nil => rfl
      | cons other others => cases same
  | cons row rows induction =>
      cases others with
      | nil => cases same
      | cons other others =>
          cases same with
          | cons first rest =>
              have sequence := first.field other.proper row.hasSequence
                other.hasSequence
              rw [List.map_cons, List.map_cons, induction rest]
              generalize row.sequence = left at sequence ⊢
              generalize other.sequence = right at sequence ⊢
              cases sequence
              rfl

/-- All rows are equal up to the order of properties. -/
structure Equal (source target : Data) : Prop where
  workers : List.Forall₂ Same (source.workers.map StatusRow.json)
    (target.workers.map StatusRow.json)
  jobs : List.Forall₂ Same (source.jobs.map StatusRow.json)
    (target.jobs.map StatusRow.json)
  events : List.Forall₂ Same (source.events.map EventRow.json)
    (target.events.map EventRow.json)

theorem proper_workerRows (data : Data) : Proper (workerRows data) := by
  refine .array fun item member => ?_
  obtain ⟨row, _, rfl⟩ := List.mem_map.mp member
  exact row.proper

theorem proper_jobRows (data : Data) : Proper (jobRows data) := by
  refine .array fun item member => ?_
  obtain ⟨row, _, rfl⟩ := List.mem_map.mp member
  exact row.proper

theorem proper_eventRows (data : Data) : Proper (eventRows data) := by
  refine .array fun item member => ?_
  obtain ⟨row, _, rfl⟩ := List.mem_map.mp member
  exact row.proper

variable {localeCompare : String → String → Int} {sha256 : ByteArray → String}

theorem summarizeData_eq {source target : Data} (equal : Equal source target) :
    summarizeData localeCompare sha256 source =
      summarizeData localeCompare sha256 target := by
  obtain ⟨workers, jobs, events⟩ := equal
  have countWorkers := workers.length_eq
  have countJobs := jobs.length_eq
  have countEvents := events.length_eq
  simp only [List.length_map] at countWorkers countJobs countEvents
  have workerText : stableStringify (workerRows source) =
      stableStringify (workerRows target) :=
    (stableStringify_eq_iff (proper_workerRows _) (proper_workerRows _)).mpr
      (.array workers)
  have jobText : stableStringify (jobRows source) =
      stableStringify (jobRows target) :=
    (stableStringify_eq_iff (proper_jobRows _) (proper_jobRows _)).mpr
      (.array jobs)
  have eventText : stableStringify (eventRows source) =
      stableStringify (eventRows target) :=
    (stableStringify_eq_iff (proper_eventRows _) (proper_eventRows _)).mpr
      (.array events)
  simp only [summarizeData, countBy, fingerprint, countWorkers, countJobs,
    countEvents, statuses_eq workers, statuses_eq jobs, sequences_eq events,
    workerText, jobText, eventText]

/-! ## What verification accepts -/

/-- The digest does not collide on the canonical texts of these rows. -/
def Distinguishes (sha256 : ByteArray → String) (source target : Data) : Prop :=
  Set.InjOn sha256 {bytes | ∃ rows ∈ [workerRows source, jobRows source,
    eventRows source, workerRows target, jobRows target, eventRows target],
      bytes = (stableStringify rows).toUTF8}

theorem verifyMigration_ok {source target : Summary} :
    verifyMigration source target = .ok () ↔ ∀ field ∈ Summary.fields,
      stableStringify (field.2 source) = stableStringify (field.2 target) := by
  unfold verifyMigration
  induction Summary.fields with
  | nil => simp [pure, Except.pure]
  | cons field fields induction =>
      rw [List.forM_cons, List.forall_mem_cons, ← induction]
      by_cases same : stableStringify (field.2 source) =
          stableStringify (field.2 target)
      · rw [compareField, if_neg (not_not.mpr same)]
        exact (and_iff_right same).symm
      · rw [compareField, if_pos same]
        exact iff_of_false (fun done => by cases done)
          (fun both => same both.1)

theorem proper_fingerprints (localeCompare : String → String → Int)
    (sha256 : ByteArray → String) (data : Data) :
    Proper (summarizeData localeCompare sha256 data).fingerprints := by
  refine .object ?_ ?_
  · change ["workers", "jobs", "events"].Nodup
    decide
  · intro field member
    simp only [List.mem_cons, List.not_mem_nil, or_false] at member
    rcases member with rfl | rfl | rfl
    · exact .string _
    · exact .string _
    · exact .string _

/-- Rows with one fingerprint are equal up to the order of properties. -/
theorem same_of_fingerprint {rows others : Json} (proper : Proper rows)
    (proper' : Proper others)
    (same : Same (fingerprint sha256 rows) (fingerprint sha256 others))
    {texts : Set ByteArray} (injective : Set.InjOn sha256 texts)
    (member : (stableStringify rows).toUTF8 ∈ texts)
    (member' : (stableStringify others).toUTF8 ∈ texts) : Same rows others := by
  rw [← stableStringify_eq_iff proper proper']
  apply String.toByteArray_inj.mp
  apply injective member member'
  unfold fingerprint at same
  generalize sha256 (stableStringify rows).toUTF8 = left at same ⊢
  generalize sha256 (stableStringify others).toUTF8 = right at same ⊢
  cases same
  rfl

theorem equal_of_verified {source target : Data}
    (distinguishes : Distinguishes sha256 source target)
    (verified : verifyMigration (summarizeData localeCompare sha256 source)
      (summarizeData localeCompare sha256 target) = .ok ()) :
    Equal source target := by
  have texts := verifyMigration_ok.mp verified
    ("fingerprints", Summary.fingerprints) (by simp [Summary.fields])
  have proper := proper_fingerprints localeCompare sha256 target
  have same : Same _ _ := (stableStringify_eq_iff
    (proper_fingerprints localeCompare sha256 source) proper).mp texts
  have has : ∀ data : Data,
      let prints := (summarizeData localeCompare sha256 data).fingerprints
      prints.field? "workers" = some (fingerprint sha256 (workerRows data)) ∧
        prints.field? "jobs" = some (fingerprint sha256 (jobRows data)) ∧
        prints.field? "events" = some (fingerprint sha256 (eventRows data)) :=
    fun _ => ⟨rfl, rfl, rfl⟩
  obtain ⟨hasWorkers, hasJobs, hasEvents⟩ := has source
  obtain ⟨hasWorkers', hasJobs', hasEvents'⟩ := has target
  have workers := same.field proper hasWorkers hasWorkers'
  have jobs := same.field proper hasJobs hasJobs'
  have events := same.field proper hasEvents hasEvents'
  refine ⟨?_, ?_, ?_⟩
  · have rows := same_of_fingerprint (proper_workerRows source)
      (proper_workerRows target) workers distinguishes
      ⟨_, by simp, rfl⟩ ⟨_, by simp, rfl⟩
    cases rows with
    | array same => exact same
  · have rows := same_of_fingerprint (proper_jobRows source)
      (proper_jobRows target) jobs distinguishes
      ⟨_, by simp, rfl⟩ ⟨_, by simp, rfl⟩
    cases rows with
    | array same => exact same
  · have rows := same_of_fingerprint (proper_eventRows source)
      (proper_eventRows target) events distinguishes
      ⟨_, by simp, rfl⟩ ⟨_, by simp, rfl⟩
    cases rows with
    | array same => exact same

/-- The canonical text is exact, the canonical form is stable, and verification
accepts the rows that are equal up to the order of properties. -/
theorem migration_verified (localeCompare : String → String → Int)
    (sha256 : ByteArray → String) {source target : Data}
    (distinguishes : Distinguishes sha256 source target) :
    (verifyMigration (summarizeData localeCompare sha256 source)
        (summarizeData localeCompare sha256 target) = .ok () ↔
      Equal source target) ∧
    (∀ json other, Proper json → Proper other →
      (stableStringify json = stableStringify other ↔ Same json other)) ∧
    ∀ json, Proper json → canonicalize (canonicalize json) =
      canonicalize json := by
  refine ⟨⟨equal_of_verified distinguishes, ?_⟩, ?_, ?_⟩
  · intro equal
    rw [summarizeData_eq equal, verifyMigration_ok]
    intro field _
    rfl
  · intro json other proper proper'
    exact stableStringify_eq_iff proper proper'
  · intro json proper
    exact canonicalize_idem proper

/-! ## One worker, written in two orders -/

def sqliteWorker : StatusRow where
  json := .object [("status", .string "ready"), ("id", .string "w1")]
  status := "ready"
  proper := .object (by decide) (by
    intro field member
    simp only [List.mem_cons, List.not_mem_nil, or_false] at member
    rcases member with rfl | rfl
    · exact .string _
    · exact .string _)
  hasStatus := rfl

def postgresWorker : StatusRow where
  json := .object [("id", .string "w1"), ("status", .string "ready")]
  status := "ready"
  proper := .object (by decide) (by
    intro field member
    simp only [List.mem_cons, List.not_mem_nil, or_false] at member
    rcases member with rfl | rfl
    · exact .string _
    · exact .string _)
  hasStatus := rfl

/-- SHA-256 of the two texts that these rows make. -/
def knownDigest (bytes : ByteArray) : String :=
  if bytes.size = 2 then
    "4f53cda18c2baa0c0354bb5f9a3ecbe5ed12ab4d8e11ba873c2f11161202b945"
  else "4e551143c9ad09e2bdea9686d293abc9af626e56b329e85a9c24adbb64bebe66"

theorem migration_verified_sample :
    verifyMigration
      (summarizeData (fun _ _ => 0) knownDigest ⟨[sqliteWorker], [], []⟩)
      (summarizeData (fun _ _ => 0) knownDigest ⟨[postgresWorker], [], []⟩) =
        .ok () := by
  have worker : stableStringify (.array [sqliteWorker.json]) =
      "[\x7b\"id\":\"w1\",\"status\":\"ready\"\x7d]" := by decide +kernel
  have worker' : stableStringify (.array [postgresWorker.json]) =
      "[\x7b\"id\":\"w1\",\"status\":\"ready\"\x7d]" := by decide +kernel
  have empty : stableStringify (.array []) = "[]" := by decide +kernel
  refine (migration_verified (fun _ _ => 0) knownDigest ?_).1.mpr ?_
  · have texts : ∀ bytes, (∃ rows ∈ [Json.array [sqliteWorker.json],
        .array [], .array [], .array [postgresWorker.json], .array [],
        .array []], bytes = (stableStringify rows).toUTF8) →
        bytes = "[]".toUTF8 ∨ bytes =
          "[\x7b\"id\":\"w1\",\"status\":\"ready\"\x7d]".toUTF8 := by
      rintro bytes ⟨rows, member, rfl⟩
      simp only [List.mem_cons, List.not_mem_nil, or_false] at member
      rcases member with rfl | rfl | rfl | rfl | rfl | rfl <;>
        simp only [worker, worker', empty, true_or, or_true]
    have apart : knownDigest "[]".toUTF8 ≠ knownDigest
        "[\x7b\"id\":\"w1\",\"status\":\"ready\"\x7d]".toUTF8 := by
      decide +kernel
    intro bytes member others member' same
    rcases texts bytes member with rfl | rfl <;>
      rcases texts others member' with rfl | rfl
    · rfl
    · exact absurd same apart
    · exact absurd same.symm apart
    · rfl
  · refine ⟨.cons ?_ .nil, .nil, .nil⟩
    exact .object (List.Perm.swap _ _ _) rfl
      (.cons (.string _) (.cons (.string _) .nil))

end Migration

end GpuLink
