import GpuLink.Library.Regime
import GpuLink.Store.Operations

/-!
# Runs of the control plane

A control plane on SQLite runs its transactions one after the other; replicas
on one PostgreSQL database interleave theirs.  Two rules lift what is known of
a single transaction to every state that such runs commit.
-/

namespace GpuLink

open Transactional Sql

/-- Transactions on SQLite, one after the other. -/
abbrev SerialRun : Database.State → Database.State → Prop :=
  Relation.ReflTransGen (SerialStep (Service.Begins sqlite))

/-- Transactions of any number of replicas on one PostgreSQL database. -/
abbrev ReplicatedRun (text : Collation) : Replicas → Replicas → Prop :=
  Cluster.Steps (Service.Begins (postgres text))

theorem begins_steady {text : Collation} {code : Tx Unit}
    (begins : Service.Begins (postgres text) code) :
    code.Steady (Moved (fun _ => True)) := by
  obtain ⟨settings, work, rfl⟩ := begins
  exact Persistence.transaction_related
    (postgres_serves text (fun _ _ => trivial))
    (postgres_schedules text (fun _ _ => trivial)) settings work

/-- What the tables hold after a run from an empty schema, on either engine. -/
inductive Committed (text : Collation) : Store → Prop where
  | serial {state : Database.State} :
      SerialRun (Store.empty, 0) state → Committed text state.1
  | replicated {replicas : Replicas} :
      ReplicatedRun text (Cluster.initial Store.empty) replicas →
      Committed text replicas.committed

/-- What the tables hold at one point of a run, and later in the same run. -/
inductive CommittedThen (text : Collation) : Store → Store → Prop where
  | serial {state later : Database.State} :
      SerialRun (Store.empty, 0) state → SerialRun state later →
      CommittedThen text state.1 later.1
  | replicated {replicas later : Replicas} :
      ReplicatedRun text (Cluster.initial Store.empty) replicas →
      ReplicatedRun text replicas later →
      CommittedThen text replicas.committed later.committed

/-- A transaction that commits on SQLite runs as the same transaction on
PostgreSQL. -/
theorem serialStep_postgres {before after : Database.State}
    (step : SerialStep (Service.Begins sqlite) before after) :
    ∃ (settings : SchedulerSettings) (work : Service.Transaction),
      (work.code (postgres Collation.binary) settings).Runs before.1 before.2
        (.ok ()) after.1 after.2 := by
  cases step with
  | commit begins run =>
      obtain ⟨settings, work, rfl⟩ := begins
      exact ⟨settings, work,
        sqlite_refines_postgres settings work _ _ _ _ _ run⟩

/-- Transactions of any number of replicas on one PostgreSQL database, with the
code that each began with. -/
abbrev TracedRun (text : Collation) :
    Traced Store Scan Write TxError → Traced Store Scan Write TxError → Prop :=
  Traced.Steps (Service.Begins (postgres text))

/-- In a run from an empty schema, on either engine, a transaction takes the
tables from one content to the next; the first content is an earlier one. -/
inductive CommitOf (text : Collation) (work : Service.Transaction) :
    Store → Store → Store → Prop where
  | serial {earlier before after : Database.State}
      {settings : SchedulerSettings} :
      SerialRun (Store.empty, 0) earlier → SerialRun earlier before →
      (work.code sqlite settings).Runs before.1 before.2 (.ok ()) after.1
        after.2 →
      CommitOf text work earlier.1 before.1 after.1
  | replicated {earlier before : Traced Store Scan Write TxError}
      {after : Replicas} {settings : SchedulerSettings} {held : Bool}
      {log : List Write} :
      TracedRun text (Traced.initial Store.empty) earlier →
      TracedRun text earlier before →
      Traced.Commits (work.code (postgres text) settings) held log before
        after →
      CommitOf text work earlier.cluster.committed before.cluster.committed
        after.committed

theorem CommitOf.before {text : Collation} {work : Service.Transaction}
    {earlier before after : Store}
    (commit : CommitOf text work earlier before after) :
    CommittedThen text earlier before := by
  cases commit with
  | serial first second run => exact .serial first second
  | replicated first second commits =>
      exact .replicated (Traced.cluster_steps first)
        (Traced.cluster_steps second)

theorem CommitOf.after {text : Collation} {work : Service.Transaction}
    {earlier before after : Store}
    (commit : CommitOf text work earlier before after) :
    CommittedThen text before after := by
  cases commit with
  | @serial earlier before after settings first second run =>
      have step : SerialStep (Service.Begins sqlite) before after :=
        .commit ⟨settings, work, rfl⟩ run
      exact .serial (first.trans second) (.single step)
  | replicated first second commits =>
      exact .replicated
        ((Traced.cluster_steps first).trans (Traced.cluster_steps second))
        (.single commits.step)

theorem CommittedThen.last {text : Collation} {store later : Store}
    (run : CommittedThen text store later) : Committed text later := by
  cases run with
  | serial first second => exact .serial (first.trans second)
  | replicated first second => exact .replicated (first.trans second)

section Rowwise

variable {rel : (key : RowKey) → Kept key.Row → Kept key.Row → Prop}

/-- What every move does to a row, every run does to the committed rows. -/
theorem rowwise_serial (refl : ∀ key kept, rel key kept kept)
    (trans : ∀ key {a b c}, rel key a b → rel key b c → rel key a c)
    (moves : ∀ key {before after},
      KeptMove (fun _ => True) key before after → rel key before after)
    {before after : Database.State} (run : SerialRun before after) :
    Rowwise rel before.1 after.1 := by
  induction run with
  | refl => exact fun key => refl key _
  | tail _ step induction =>
      obtain ⟨settings, work, transaction⟩ := serialStep_postgres step
      have moved : Rowwise rel _ _ := Program.Runs.steady
        (fun s key => refl key _)
        (fun first second key => trans key (first key) (second key))
        transaction
        ((begins_steady ⟨settings, work, rfl⟩).mono
          (fun moved key => moves key (moved key)))
      exact fun key => trans key (induction key) (moved key)

theorem rowwise_replicated (refl : ∀ key kept, rel key kept kept)
    (trans : ∀ key {a b c}, rel key a b → rel key b c → rel key a c)
    (moves : ∀ key {before after},
      KeptMove (fun _ => True) key before after → rel key before after)
    {text : Collation} {s : Store} {middle last : Replicas}
    (earlier : ReplicatedRun text (Cluster.initial s) middle)
    (later : ReplicatedRun text middle last) :
    Rowwise rel s middle.committed ∧
      Rowwise rel middle.committed last.committed := by
  have start : ∀ code, Service.Begins (postgres text) code →
      code.Steady (Rowwise rel) := fun code begins =>
    (begins_steady begins).mono (fun moved key => moves key (moved key))
  obtain ⟨steady, first⟩ := Cluster.steady start refl trans earlier
    (Cluster.steady_initial s)
  exact ⟨first, (Cluster.steady start refl trans later steady).2⟩

theorem CommittedThen.rowwise (refl : ∀ key kept, rel key kept kept)
    (trans : ∀ key {a b c}, rel key a b → rel key b c → rel key a c)
    (moves : ∀ key {before after},
      KeptMove (fun _ => True) key before after → rel key before after)
    {text : Collation} {store later : Store}
    (run : CommittedThen text store later) :
    Rowwise rel Store.empty store ∧ Rowwise rel store later := by
  cases run with
  | serial first second =>
      exact ⟨rowwise_serial refl trans moves first,
        rowwise_serial refl trans moves second⟩
  | replicated first second =>
      exact rowwise_replicated refl trans moves first second

/-- An invariant that every transaction observes, as long as the others only
make the changes it allows them, holds of all that is committed. -/
theorem Committed.disciplined {Inv : Store → Prop}
    (refl : ∀ key kept, rel key kept kept)
    (trans : ∀ key {a b c}, rel key a b → rel key b c → rel key a c)
    (carried : ∀ {s s'}, Rowwise rel s s' → Inv s → Inv s')
    (start : ∀ text code, Service.Begins (postgres text) code →
      code.Disciplined (Rowwise rel) Inv)
    (empty : Inv Store.empty) {text : Collation} {store : Store}
    (committed : Committed text store) : Inv store := by
  cases committed with
  | serial run =>
      induction run with
      | refl => exact empty
      | tail _ step induction =>
          obtain ⟨settings, work, transaction⟩ := serialStep_postgres step
          have disciplined := start Collation.binary _ ⟨settings, work, rfl⟩
          have kept := transaction.disciplined (fun s key => refl key _)
            @carried disciplined induction
          exact kept
  | replicated run =>
      exact (Cluster.disciplined (start text) refl trans carried run
        (Cluster.governed_initial empty)).invariant

end Rowwise

/-! ## A small run -/

def sampleSettings : SchedulerSettings where
  heartbeatTimeoutMs := 15000
  leaseDurationMs := 30000
  vramSafetyMiB := 512
  heartbeatPositive := by decide
  leasePositive := by decide
  locale := .codePoints

def samplePass : PassInput where
  now := 1002
  leaseIds _ := "lease_1"

/-- Registration and a job. -/
def sampleSubmission : List Service.Transaction :=
  [.request (.registerWorker sampleWorker),
    .request (.submitJob (sampleJob "job_1" 1001))]

/-- The job is placed. -/
def samplePlacement : List Service.Transaction :=
  sampleSubmission ++ [.pass samplePass]

/-- The job is started and reported. -/
def sampleCompletion : List Service.Transaction :=
  samplePlacement ++
    [.request (.startJob "job_1" ⟨"worker_1", "lease_1"⟩ 1003),
      .request (.finishJob "job_1" ⟨"worker_1", "lease_1"⟩ .succeeded
        (.object []) .null 1004)]

/-- The given transactions on SQLite, from an empty schema. -/
def sampleRun (works : List Service.Transaction) : Option Database.State :=
  playAll Scan.stored (works.map (·.code sqlite sampleSettings))
    (Store.empty, 0)

def Database.State.after (works : List Service.Transaction) : Database.State :=
  (sampleRun works).getD (Store.empty, 0)

theorem begins_sample (works : List Service.Transaction) :
    ∀ code ∈ works.map (·.code sqlite sampleSettings),
      Service.Begins sqlite code := by
  intro code member
  obtain ⟨work, _, rfl⟩ := List.mem_map.mp member
  exact ⟨sampleSettings, work, rfl⟩

theorem serialRun_after {works : List Service.Transaction}
    (commits : (sampleRun works).isSome) :
    SerialRun (Store.empty, 0) (Database.State.after works) := by
  obtain ⟨final, played⟩ := Option.isSome_iff_exists.mp commits
  rw [Database.State.after, played]
  exact serial_of_playAll (begins_sample works) played

theorem played_after {works more : List Service.Transaction}
    (commits : (sampleRun (works ++ more)).isSome) :
    playAll Scan.stored (more.map (·.code sqlite sampleSettings))
      (Database.State.after works) =
      some (Database.State.after (works ++ more)) := by
  obtain ⟨final, played⟩ := Option.isSome_iff_exists.mp commits
  have split := played
  rw [sampleRun, List.map_append, playAll_append] at split
  obtain ⟨middle, first, second⟩ := Option.bind_eq_some_iff.mp split
  have before : Database.State.after works = middle := by
    simp [Database.State.after, sampleRun, first]
  rw [before, second, Database.State.after, played]
  rfl

theorem serialStep_after {works : List Service.Transaction}
    {work : Service.Transaction}
    (commits : (sampleRun (works ++ [work])).isSome) :
    SerialStep (Service.Begins sqlite) (Database.State.after works)
      (Database.State.after (works ++ [work])) := by
  have run := runs_of_playAll (played_after commits)
  revert run
  generalize Database.State.after works = before
  generalize Database.State.after (works ++ [work]) = after
  intro run
  exact .commit ⟨sampleSettings, work, rfl⟩ run

theorem serialRun_after_append {works more : List Service.Transaction}
    (commits : (sampleRun (works ++ more)).isSome) :
    SerialRun (Database.State.after works)
      (Database.State.after (works ++ more)) :=
  serial_of_playAll (begins_sample more) (played_after commits)

theorem commitOf_after {works more : List Service.Transaction}
    {work : Service.Transaction} (text : Collation)
    (commits : (sampleRun (works ++ more ++ [work])).isSome)
    (before : (sampleRun (works ++ more)).isSome)
    (earlier : (sampleRun works).isSome) :
    CommitOf text work (Database.State.after works).1
      (Database.State.after (works ++ more)).1
      (Database.State.after (works ++ more ++ [work])).1 := by
  have first := serialRun_after earlier
  have second := serialRun_after_append before
  have run := runs_of_playAll (played_after commits)
  revert first second run
  generalize Database.State.after works = start
  generalize Database.State.after (works ++ more) = middle
  generalize Database.State.after (works ++ more ++ [work]) = last
  intro first second run
  exact .serial first second run

end GpuLink
