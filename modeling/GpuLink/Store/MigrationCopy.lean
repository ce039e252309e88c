import GpuLink.Store.MigrationRows
import Mathlib.Data.List.Forall2
import Mathlib.Data.List.Pairwise
import Mathlib.Data.Prod.Lex

/-!
# Copies of a migration

What PostgreSQL gives back is what it has been given, up to the order of
properties.  The rows come back in the order of its collation, and the
fingerprints are those of lists.
-/

namespace GpuLink

namespace Migration

open JsonText

/-! ## Two orders of texts -/

/-- Both put these texts in one order. -/
def Collation.Agrees (first second : Collation) (texts : List String) : Prop :=
  ∀ left ∈ texts, ∀ right ∈ texts, first.le left right ↔ second.le left right

theorem Collation.refl (collation : Collation) (text : String) :
    collation.le text text := by
  rcases collation.total text text with below | below <;> exact below

theorem Collation.Agrees.pairwise {first second : Collation}
    {texts : List String} (agrees : first.Agrees second texts)
    (sorted : texts.Pairwise first.le) : texts.Pairwise second.le := by
  apply List.Pairwise.imp_of_mem _ sorted
  intro left right member member' below
  exact (agrees left member right member').mp below

/-- Both put one text before the other. -/
def Collation.Together (first second : Collation) (left right : String) : Prop :=
  first.le left right ∧ second.le left right ∨
    first.le right left ∧ second.le right left

/-- In a list that is sorted by both, they agree. -/
theorem Collation.agrees_of_pairwise {first second : Collation}
    {texts : List String} (sorted : texts.Pairwise first.le)
    (sorted' : texts.Pairwise second.le) : first.Agrees second texts := by
  have : Std.Symm (first.Together second) := ⟨fun _ _ => Or.symm⟩
  have both : texts.Pairwise (first.Together second) :=
    (sorted.and sorted').imp Or.inl
  have alike : ∀ text ∈ texts, first.Together second text text :=
    fun text _ => Or.inl ⟨first.refl text, second.refl text⟩
  intro left member right member'
  rcases both.forall_of_forall alike member member' with
    ⟨here, there⟩ | ⟨here, there⟩
  · exact iff_of_true here there
  · constructor
    · intro below
      rw [first.antisymm below here]
      exact second.refl right
    · intro below
      rw [second.antisymm below there]
      exact first.refl right

section OrderedBy

variable {α : Type} (collation : Collation) (id : α → String) (rows : List α)

theorem perm_orderedBy : (orderedBy collation id rows).Perm rows :=
  List.perm_insertionSort _ rows

theorem pairwise_orderedBy :
    ((orderedBy collation id rows).map id).Pairwise collation.le := by
  have : Std.Total fun first second : α =>
      collation.le (id first) (id second) := ⟨fun _ _ => collation.total _ _⟩
  have : IsTrans α fun first second => collation.le (id first) (id second) :=
    ⟨fun _ _ _ => collation.trans⟩
  exact List.pairwise_map.mpr (List.pairwise_insertionSort _ rows)

variable {collation id rows}

theorem orderedBy_eq (sorted : (rows.map id).Pairwise collation.le) :
    orderedBy collation id rows = rows :=
  (List.pairwise_map.mp sorted).insertionSort_eq

end OrderedBy

/-! ## A table that is copied -/

theorem forall₂_of_mapM {α β : Type} {insert : α → Option β} {rows : List α}
    {stored : List β} (done : rows.mapM insert = some stored) :
    List.Forall₂ (fun row other => insert row = some other) rows stored := by
  induction rows generalizing stored with
  | nil =>
      cases done
      exact .nil
  | cons row rows induction =>
      rw [List.mapM_cons] at done
      obtain ⟨first, here, done⟩ := Option.bind_eq_some_iff.mp done
      obtain ⟨later, rest, done⟩ := Option.bind_eq_some_iff.mp done
      cases done
      exact .cons here (induction rest)

/-- A table whose rows are copied one by one in one order, and read in another:
the rows are the same, one by one, if the orders agree on their ids. -/
theorem same_rows_iff {α β : Type} {collation : Collation} {id : α → String}
    {id' : β → String} {json : α → Json} {json' : β → Json} {rows : List α}
    {stored : List β}
    (copied : List.Forall₂ (fun row other =>
      id row = id' other ∧ Same (json row) (json' other))
        (orderedBy binary id rows) stored)
    (ids : ∀ row other, Same (json row) (json' other) → id row = id' other) :
    List.Forall₂ Same ((orderedBy binary id rows).map json)
        ((orderedBy collation id' stored).map json') ↔
      binary.Agrees collation (rows.map id) := by
  have sorted := pairwise_orderedBy binary id rows
  have perm := (perm_orderedBy binary id rows).map id
  constructor
  · intro same
    have equal : (orderedBy binary id rows).map id =
        (orderedBy collation id' stored).map id' := by
      rw [List.forall₂_map_left_iff, List.forall₂_map_right_iff] at same
      rw [← List.forall₂_eq_eq_eq, List.forall₂_map_left_iff,
        List.forall₂_map_right_iff]
      exact same.imp (fun row other => ids row other)
    have sorted' := pairwise_orderedBy collation id' stored
    rw [← equal] at sorted'
    intro left member right member'
    exact Collation.agrees_of_pairwise sorted sorted' left
      (perm.mem_iff.mpr member) right (perm.mem_iff.mpr member')
  · intro agrees
    have equal : (orderedBy binary id rows).map id = stored.map id' := by
      rw [← List.forall₂_eq_eq_eq, List.forall₂_map_left_iff,
        List.forall₂_map_right_iff]
      exact copied.imp (fun _ _ both => both.1)
    have among : binary.Agrees collation ((orderedBy binary id rows).map id) :=
      fun left member right member' => agrees left (perm.mem_iff.mp member)
        right (perm.mem_iff.mp member')
    have sorted' := among.pairwise sorted
    rw [equal] at sorted'
    rw [orderedBy_eq sorted', List.forall₂_map_left_iff,
      List.forall₂_map_right_iff]
    exact copied.imp (fun _ _ both => both.2)

/-! ## Rows that are copied -/

/-- What a `jsonb` column gives back is the value, up to the order of
properties. -/
def Faithful (jsonb : Value → Option Value) : Prop :=
  ∀ value read, jsonb value = some read → Same value.json read.json

theorem same_refl (value : Value) : Same value.json value.json :=
  (stableStringify_eq_iff value.proper value.proper).mp rfl

theorem orElse_of_ne {value : Value} (some : value.json ≠ .null)
    (fallback : Value) : value.orElse fallback = value := by
  unfold Value.orElse
  split
  · next null => exact absurd null some
  · rfl

theorem orElse_null (value : Value) : (value.orElse .null).json = value.json := by
  unfold Value.orElse
  split
  · next null => exact null.symm
  · rfl

theorem Same.null_iff {json other : Json} (same : Same json other) :
    json = .null ↔ other = .null := by
  cases same <;> simp

/-- Properties of one name with equal values. -/
def SameProperty (property other : String × Value) : Prop :=
  property.1 = other.1 ∧ Same property.2.json other.2.json

theorem SameProperty.rfl {property : String × Value} :
    SameProperty property property :=
  ⟨Eq.refl _, same_refl _⟩

theorem same_objectOf {properties others : List (String × Value)}
    (same : List.Forall₂ SameProperty properties others) :
    Same (objectOf properties) (objectOf others) := by
  refine .object (List.Perm.refl _) ?_ ?_
  · rw [← List.forall₂_eq_eq_eq]
    simp only [List.map_map, List.forall₂_map_left_iff,
      List.forall₂_map_right_iff]
    exact same.imp (fun _ _ both => both.1)
  · simp only [List.map_map, List.forall₂_map_left_iff,
      List.forall₂_map_right_iff]
    exact same.imp (fun _ _ both => both.2)

section Copies

variable {jsonb : Value → Option Value}

/-- A column that is never null does not come back as its fallback. -/
theorem same_column (faithful : Faithful jsonb) {column : Column}
    {read fallback : Value} (taken : jsonb column.toValue = some read) :
    Same column.json (read.orElse fallback).json := by
  have same := faithful _ _ taken
  rw [orElse_of_ne (fun null => column.notNull (same.null_iff.mpr null))]
  exact same

theorem same_nullable (faithful : Faithful jsonb) {value : Value}
    {stored : Option Value} (taken : nullable jsonb value = some stored) :
    Same value.json ((stored.getD .null).orElse .null).json := by
  rw [orElse_null]
  unfold nullable at taken
  split at taken
  · next null =>
      cases taken
      rw [null]
      exact .null
  · obtain ⟨read, here, rfl⟩ := Option.map_eq_some_iff.mp taken
    exact faithful _ _ here

theorem worker_copied (faithful : Faithful jsonb) {row : SqliteWorker}
    {stored : PostgresWorker}
    (inserted : insertWorker jsonb (mapSqliteWorker row) = some stored) :
    row.id = stored.id ∧ Same (objectOf (mapSqliteWorker row).properties)
      (objectOf (mapPostgresWorker stored).properties) := by
  obtain ⟨labels, takenLabels, inserted⟩ := Option.bind_eq_some_iff.mp inserted
  obtain ⟨capabilities, takenCapabilities, inserted⟩ :=
    Option.bind_eq_some_iff.mp inserted
  obtain ⟨manifests, takenManifests, inserted⟩ :=
    Option.bind_eq_some_iff.mp inserted
  obtain ⟨health, takenHealth, inserted⟩ := Option.bind_eq_some_iff.mp inserted
  obtain ⟨models, takenModels, inserted⟩ := Option.bind_eq_some_iff.mp inserted
  obtain ⟨inventory, takenInventory, inserted⟩ :=
    Option.bind_eq_some_iff.mp inserted
  obtain ⟨gpus, takenGpus, inserted⟩ := Option.bind_eq_some_iff.mp inserted
  cases inserted
  refine ⟨rfl, same_objectOf ?_⟩
  refine .cons .rfl (.cons .rfl (.cons .rfl (.cons .rfl (.cons .rfl
    (.cons .rfl ?_)))))
  refine .cons ⟨rfl, same_column faithful takenLabels⟩ ?_
  refine .cons ⟨rfl, same_column faithful takenCapabilities⟩ ?_
  refine .cons ⟨rfl, same_column faithful takenManifests⟩ ?_
  refine .cons ⟨rfl, same_column faithful takenHealth⟩ ?_
  refine .cons ⟨rfl, same_column faithful takenModels⟩ ?_
  refine .cons ⟨rfl, same_column faithful takenInventory⟩ ?_
  refine .cons ⟨rfl, same_column faithful takenGpus⟩ ?_
  exact .cons .rfl (.cons .rfl (.cons .rfl .nil))

theorem job_copied (faithful : Faithful jsonb) {row : SqliteJob}
    {stored : PostgresJob}
    (inserted : insertJob jsonb (mapSqliteJob row) = some stored) :
    row.id = stored.id ∧ Same (objectOf (mapSqliteJob row).properties)
      (objectOf (mapPostgresJob stored).properties) := by
  obtain ⟨capabilities, takenCapabilities, inserted⟩ :=
    Option.bind_eq_some_iff.mp inserted
  obtain ⟨payload, takenPayload, inserted⟩ :=
    Option.bind_eq_some_iff.mp inserted
  obtain ⟨result, takenResult, inserted⟩ := Option.bind_eq_some_iff.mp inserted
  obtain ⟨error, takenError, inserted⟩ := Option.bind_eq_some_iff.mp inserted
  cases inserted
  refine ⟨rfl, same_objectOf ?_⟩
  refine .cons .rfl (.cons .rfl (.cons .rfl (.cons .rfl (.cons .rfl
    (.cons .rfl (.cons .rfl ?_))))))
  refine .cons ⟨rfl, same_column faithful takenCapabilities⟩ (.cons .rfl ?_)
  refine .cons ⟨rfl, same_column faithful takenPayload⟩ ?_
  refine .cons ⟨rfl, same_nullable faithful takenResult⟩ ?_
  refine .cons ⟨rfl, same_nullable faithful takenError⟩ ?_
  exact .cons .rfl (.cons .rfl (.cons .rfl (.cons .rfl (.cons .rfl
    (.cons .rfl (.cons .rfl (.cons .rfl (.cons .rfl .nil))))))))

theorem event_copied (faithful : Faithful jsonb) {row : SqliteEvent}
    {stored : PostgresEvent}
    (inserted : insertEvent jsonb (mapSqliteEvent row) = some stored) :
    row.sequence = stored.sequence ∧
      Same (objectOf (mapSqliteEvent row).properties)
        (objectOf (mapPostgresEvent stored).properties) := by
  obtain ⟨payload, takenPayload, inserted⟩ :=
    Option.bind_eq_some_iff.mp inserted
  cases inserted
  refine ⟨rfl, same_objectOf ?_⟩
  refine .cons .rfl (.cons .rfl (.cons .rfl ?_))
  exact .cons ⟨rfl, same_column faithful takenPayload⟩ (.cons .rfl .nil)

end Copies

/-! ## The verdict -/

/-- The collation of the target orders the ids of each table as bytes do. -/
def OrdersAgree (collation : Collation) (store : SqliteStore) : Prop :=
  binary.Agrees collation (store.workers.map SqliteWorker.id) ∧
    binary.Agrees collation (store.jobs.map SqliteJob.id)

theorem same_string {json other : Json} {first second : String}
    (same : Same json other) (proper : Proper other)
    (has : json.field? "id" = some (.string first))
    (hasOther : other.field? "id" = some (.string second)) : first = second := by
  cases same.field proper has hasOther
  rfl

theorem workers_copied {jsonb : Value → Option Value} (faithful : Faithful jsonb)
    {rows : List SqliteWorker} {stored : List PostgresWorker}
    (inserted : (rows.map mapSqliteWorker).mapM (insertWorker jsonb) =
      some stored) :
    List.Forall₂ (fun row other => row.id = other.id ∧
      Same (objectOf (mapSqliteWorker row).properties)
        (objectOf (mapPostgresWorker other).properties)) rows stored := by
  have each := forall₂_of_mapM inserted
  rw [List.forall₂_map_left_iff] at each
  exact each.imp (fun _ _ here => worker_copied faithful here)

theorem jobs_copied {jsonb : Value → Option Value} (faithful : Faithful jsonb)
    {rows : List SqliteJob} {stored : List PostgresJob}
    (inserted : (rows.map mapSqliteJob).mapM (insertJob jsonb) = some stored) :
    List.Forall₂ (fun row other => row.id = other.id ∧
      Same (objectOf (mapSqliteJob row).properties)
        (objectOf (mapPostgresJob other).properties)) rows stored := by
  have each := forall₂_of_mapM inserted
  rw [List.forall₂_map_left_iff] at each
  exact each.imp (fun _ _ here => job_copied faithful here)

/-- Events come back in the order in which they were read. -/
theorem events_copied {jsonb : Value → Option Value} (faithful : Faithful jsonb)
    {rows : List SqliteEvent} {stored : List PostgresEvent}
    (inserted : ((orderedBySequence SqliteEvent.sequence rows).map
      mapSqliteEvent).mapM (insertEvent jsonb) = some stored) :
    List.Forall₂ Same
      ((orderedBySequence SqliteEvent.sequence rows).map fun row =>
        objectOf (mapSqliteEvent row).properties)
      ((orderedBySequence PostgresEvent.sequence stored).map fun row =>
        objectOf (mapPostgresEvent row).properties) := by
  have each := forall₂_of_mapM inserted
  rw [List.forall₂_map_left_iff] at each
  have copied := each.imp (fun _ _ here => event_copied faithful here)
  have sequences : (orderedBySequence SqliteEvent.sequence rows).map
      SqliteEvent.sequence = stored.map PostgresEvent.sequence := by
    rw [← List.forall₂_eq_eq_eq, List.forall₂_map_left_iff,
      List.forall₂_map_right_iff]
    exact copied.imp (fun _ _ both => both.1)
  have sorted : ((orderedBySequence SqliteEvent.sequence rows).map
      SqliteEvent.sequence).Pairwise fun first second =>
        first.number ≤ second.number := by
    have : Std.Total fun first second : SqliteEvent =>
        first.sequence.number ≤ second.sequence.number :=
      ⟨fun _ _ => le_total _ _⟩
    have : IsTrans SqliteEvent fun first second =>
        first.sequence.number ≤ second.sequence.number :=
      ⟨fun _ _ _ => le_trans⟩
    exact List.pairwise_map.mpr (List.pairwise_insertionSort _ rows)
  rw [sequences] at sorted
  have kept : orderedBySequence PostgresEvent.sequence stored = stored :=
    (List.pairwise_map.mp sorted).insertionSort_eq
  rw [kept, List.forall₂_map_left_iff, List.forall₂_map_right_iff]
  exact copied.imp (fun _ _ both => both.2)

/-- The rows that are read back are those of the source, one by one, exactly if
the orders agree. -/
theorem equal_iff {collation : Collation} {jsonb : Value → Option Value}
    (faithful : Faithful jsonb) {store : SqliteStore} {target : PostgresStore}
    (inserted : insertAll jsonb (readSqliteData store) = some target) :
    Equal (readSqliteData store).data (readPostgresData collation target).data ↔
      OrdersAgree collation store := by
  obtain ⟨workers, insertedWorkers, inserted⟩ :=
    Option.bind_eq_some_iff.mp inserted
  obtain ⟨jobs, insertedJobs, inserted⟩ := Option.bind_eq_some_iff.mp inserted
  obtain ⟨events, insertedEvents, inserted⟩ :=
    Option.bind_eq_some_iff.mp inserted
  cases inserted
  have sameWorkers := @same_rows_iff _ _ collation _ _ _ _ _ _
    (workers_copied faithful insertedWorkers) (fun row other same =>
      same_string same (proper_objectOf (Worker.nodup _)) rfl rfl)
  have sameJobs := @same_rows_iff _ _ collation _ _ _ _ _ _
    (jobs_copied faithful insertedJobs) (fun row other same =>
      same_string same (proper_objectOf (Job.nodup _)) rfl rfl)
  have sameEvents := events_copied faithful insertedEvents
  constructor
  · rintro ⟨equalWorkers, equalJobs, _⟩
    simp only [Records.data, readSqliteData, readPostgresData, List.map_map]
      at equalWorkers equalJobs
    exact ⟨sameWorkers.mp equalWorkers, sameJobs.mp equalJobs⟩
  · rintro ⟨workersAgree, jobsAgree⟩
    refine ⟨?_, ?_, ?_⟩
    · simp only [Records.data, readSqliteData, readPostgresData, List.map_map]
      exact sameWorkers.mpr workersAgree
    · simp only [Records.data, readSqliteData, readPostgresData, List.map_map]
      exact sameJobs.mpr jobsAgree
    · simp only [Records.data, readSqliteData, readPostgresData, List.map_map]
      exact sameEvents

/-- A copy is accepted exactly if the target orders the ids as bytes do; so are
the summaries equal. -/
theorem copy_accepted (localeCompare : String → String → Int)
    (sha256 : ByteArray → String) {collation : Collation}
    {jsonb : Value → Option Value} {store : SqliteStore} {target : PostgresStore}
    (faithful : Faithful jsonb)
    (inserted : insertAll jsonb (readSqliteData store) = some target)
    (distinguishes : Distinguishes sha256 (readSqliteData store).data
      (readPostgresData collation target).data) :
    (verifyMigration
        (summarizeData localeCompare sha256 (readSqliteData store).data)
        (summarizeData localeCompare sha256
          (readPostgresData collation target).data) = .ok () ↔
      OrdersAgree collation store) ∧
    (summarizeData localeCompare sha256 (readSqliteData store).data =
        summarizeData localeCompare sha256
          (readPostgresData collation target).data ↔
      OrdersAgree collation store) := by
  have agree := @equal_iff collation _ faithful _ _ inserted
  have verified : verifyMigration
      (summarizeData localeCompare sha256 (readSqliteData store).data)
      (summarizeData localeCompare sha256
        (readPostgresData collation target).data) = .ok () →
      OrdersAgree collation store := fun accepted =>
    agree.mp (equal_of_verified distinguishes accepted)
  have summaries : OrdersAgree collation store →
      summarizeData localeCompare sha256 (readSqliteData store).data =
        summarizeData localeCompare sha256
          (readPostgresData collation target).data := fun orders =>
    summarizeData_eq (agree.mpr orders)
  have accepted : ∀ summary, verifyMigration summary summary = .ok () := by
    intro summary
    rw [verifyMigration_ok]
    intro field _
    rfl
  refine ⟨⟨verified, ?_⟩, ⟨?_, summaries⟩⟩
  · intro orders
    rw [summaries orders]
    exact accepted _
  · intro same
    apply verified
    rw [same]
    exact accepted _

/-! ## Two workers -/

theorem zero_double : IsDouble 0 := by
  have zero := toDouble_nat (Nat.zero_le maxSafeInteger)
  rw [Nat.cast_zero] at zero
  refine ⟨zero, ?_, ?_⟩ <;>
    norm_num [infinity]

def emptyList : Column := { Value.emptyArray with notNull := nofun }

def sampleWorker (id : String) : SqliteWorker where
  id := id
  name := id
  version := "1"
  baseUrl := none
  status := "online"
  drainMode := 0
  labelsJson := { Value.emptyObject with notNull := nofun }
  capabilitiesJson := emptyList
  adapterManifestsJson := emptyList
  adapterHealthJson := emptyList
  warmModelsJson := emptyList
  modelInventoryJson := emptyList
  gpuInventoryJson := emptyList
  lastSeenAt := ⟨0, zero_double⟩
  createdAt := ⟨0, zero_double⟩
  updatedAt := ⟨0, zero_double⟩

def storeOf (first second : String) (apart : first ≠ second) : SqliteStore where
  workers := [sampleWorker first, sampleWorker second]
  jobs := []
  events := []
  workerIds := by
    simpa [sampleWorker] using apart
  jobIds := List.nodup_nil
  sequences := List.nodup_nil

/-- A collation that looks at case only where the letters are the same. -/
def caseless : Collation :=
  .ofKey (fun text => toLex (textBytes text.toLower, textBytes text))
    fun _ _ same => textBytes_injective (congrArg Prod.snd (toLex.injective same))

theorem faithful_some : Faithful some := by
  intro value read taken
  cases taken
  exact same_refl value

theorem size_toUTF8 (text : String) : text.length ≤ text.toUTF8.size := by
  have bytes : (utf8Bytes text).toByteArray = text.toUTF8 := by
    rw [utf8Bytes, ← List.utf8Encode, String.utf8Encode_toList]
    rfl
  have length := utf16Length_le_byteLength text
  rw [← bytes, List.size_toByteArray]
  exact (Nat.le_add_right _ _).trans length

/-- SHA-256 of no rows and of the rows of workers `a` and `b`. -/
def workersDigest (bytes : ByteArray) : String :=
  if bytes.size = 2 then
    "4f53cda18c2baa0c0354bb5f9a3ecbe5ed12ab4d8e11ba873c2f11161202b945"
  else "ae9ad080e19ad2ca5642cac184dcfc5f1c5df35424b332d45f96484fd2a54b89"

theorem workersDigest_apart {text : String} (long : 2 < text.length) :
    workersDigest "[]".toUTF8 ≠ workersDigest text.toUTF8 := by
  have size := size_toUTF8 text
  have short : "[]".toUTF8.size = 2 := by decide
  unfold workersDigest
  rw [if_pos short, if_neg (by omega)]
  decide

/-- Equal rows have one text in each table. -/
theorem texts_of_equal {source target : Data} (equal : Equal source target) :
    stableStringify (workerRows target) = stableStringify (workerRows source) ∧
      stableStringify (jobRows target) = stableStringify (jobRows source) ∧
      stableStringify (eventRows target) = stableStringify (eventRows source) := by
  refine ⟨?_, ?_, ?_⟩
  · exact ((stableStringify_eq_iff (proper_workerRows _)
      (proper_workerRows _)).mpr (.array equal.workers)).symm
  · exact ((stableStringify_eq_iff (proper_jobRows _)
      (proper_jobRows _)).mpr (.array equal.jobs)).symm
  · exact ((stableStringify_eq_iff (proper_eventRows _)
      (proper_eventRows _)).mpr (.array equal.events)).symm

/-- A digest that tells the workers from no rows is enough where there are
only workers. -/
theorem distinguishes_workers {sha256 : ByteArray → String}
    {source target : Data} (equal : Equal source target)
    (jobs : source.jobs = []) (events : source.events = [])
    (apart : sha256 "[]".toUTF8 ≠
      sha256 (stableStringify (workerRows source)).toUTF8) :
    Distinguishes sha256 source target := by
  obtain ⟨workersText, jobsText, eventsText⟩ := texts_of_equal equal
  have empty : stableStringify (.array []) = "[]" := by decide +kernel
  have noJobs : stableStringify (jobRows source) = "[]" := by
    rw [jobRows, jobs]
    exact empty
  have noEvents : stableStringify (eventRows source) = "[]" := by
    rw [eventRows, events]
    exact empty
  have texts : ∀ bytes, (∃ rows ∈ [workerRows source, jobRows source,
      eventRows source, workerRows target, jobRows target, eventRows target],
        bytes = (stableStringify rows).toUTF8) → bytes = "[]".toUTF8 ∨
          bytes = (stableStringify (workerRows source)).toUTF8 := by
    rintro bytes ⟨rows, member, rfl⟩
    simp only [List.mem_cons, List.not_mem_nil, or_false] at member
    rcases member with rfl | rfl | rfl | rfl | rfl | rfl <;>
      simp only [workersText, jobsText, eventsText, noJobs, noEvents, true_or,
        or_true]
  intro bytes member others member' same
  rcases texts bytes member with rfl | rfl <;>
    rcases texts others member' with rfl | rfl
  · rfl
  · exact absurd same apart
  · exact absurd same.symm apart
  · rfl

/-- Workers `a` and `b` are accepted, in whichever case letters are
compared. -/
theorem copy_accepted_sample : ∃ target,
    insertAll some (readSqliteData (storeOf "a" "b" (by decide))) =
        some target ∧
      verifyMigration
        (summarizeData (fun _ _ => 0) workersDigest
          (readSqliteData (storeOf "a" "b" (by decide))).data)
        (summarizeData (fun _ _ => 0) workersDigest
          (readPostgresData caseless target).data) = .ok () := by
  have agree : OrdersAgree caseless (storeOf "a" "b" (by decide)) := by
    refine ⟨?_, nofun⟩
    change ∀ left ∈ ["a", "b"], ∀ right ∈ ["a", "b"],
      binary.le left right ↔ caseless.le left right
    decide +kernel
  obtain ⟨target, inserted⟩ : ∃ target,
      insertAll some (readSqliteData (storeOf "a" "b" (by decide))) =
        some target := ⟨_, rfl⟩
  have equal := (@equal_iff caseless _ faithful_some _ _ inserted).mpr
    agree
  have long : 2 < (stableStringify (workerRows
      (readSqliteData (storeOf "a" "b" (by decide))).data)).length := by
    rw [stableStringify, String.length_ofList]
    decide +kernel
  have distinguishes := distinguishes_workers equal rfl rfl
    (workersDigest_apart long)
  exact ⟨target, inserted, (copy_accepted (fun _ _ => 0) workersDigest
    faithful_some inserted distinguishes).1.mpr agree⟩

/-- Bytes put `B` before `a`, and the collation does not: the copy is refused
whatever digest tells its rows apart. -/
theorem copy_rejected : ∃ target,
    insertAll some (readSqliteData (storeOf "B" "a" (by decide))) =
        some target ∧ Faithful some ∧
      ∀ localeCompare sha256, Distinguishes sha256
        (readSqliteData (storeOf "B" "a" (by decide))).data
        (readPostgresData caseless target).data →
      verifyMigration
        (summarizeData localeCompare sha256
          (readSqliteData (storeOf "B" "a" (by decide))).data)
        (summarizeData localeCompare sha256
          (readPostgresData caseless target).data) ≠ .ok () := by
  obtain ⟨target, inserted⟩ : ∃ target,
      insertAll some (readSqliteData (storeOf "B" "a" (by decide))) =
        some target := ⟨_, rfl⟩
  refine ⟨target, inserted, faithful_some, ?_⟩
  intro localeCompare sha256 distinguishes accepted
  have agree := (equal_iff faithful_some inserted).mp
    (equal_of_verified distinguishes accepted)
  have below : binary.le "B" "a" := by decide +kernel
  have above : ¬caseless.le "B" "a" := by decide +kernel
  exact above ((agree.1 "B" List.mem_cons_self "a"
    (List.mem_cons_of_mem _ List.mem_cons_self)).mp below)

end Migration

end GpuLink
