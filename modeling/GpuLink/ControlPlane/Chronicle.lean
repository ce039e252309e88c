import GpuLink.Library.Chronicle
import GpuLink.ControlPlane.Runs

/-!
# Recorded runs of the control plane

Runs on either engine with every write that they have committed.  The tables
forget an event once it is pruned; the record does not.
-/

namespace GpuLink

open Transactional Sql

/-- The code is that of a transaction that is allowed to commit on the tables
as they are. -/
def Permitted (transaction : Persistence)
    (allowed : Service.Transaction → Store → Prop) (code : Tx Unit)
    (store : Store) : Prop :=
  ∃ (settings : SchedulerSettings) (work : Service.Transaction),
    code = work.code transaction settings ∧ allowed work store

/-- Transactions on SQLite, with what they have written. -/
abbrev SerialChronicle (allowed : Service.Transaction → Store → Prop) :
    Database.State × List Write → Database.State × List Write → Prop :=
  Relation.ReflTransGen
    (SerialRecord (Service.Begins sqlite) (Permitted sqlite allowed))

/-- Transactions of any number of replicas on one PostgreSQL database, with
what they have committed. -/
abbrev ReplicatedChronicle (text : Collation)
    (allowed : Service.Transaction → Store → Prop) :
    Recorded Store Scan Write TxError → Recorded Store Scan Write TxError →
      Prop :=
  Recorded.Steps (Service.Begins (postgres text))
    (Permitted (postgres text) allowed)

/-- What a run from an empty schema has committed on either engine: the tables,
and every write, oldest first.  `allowed` is asked of each transaction and of
the tables that it commits on. -/
inductive Chronicle (text : Collation)
    (allowed : Service.Transaction → Store → Prop) :
    Store → List Write → Prop where
  | serial {state : Database.State} {history : List Write} :
      SerialChronicle allowed ((Store.empty, 0), []) (state, history) →
      Chronicle text allowed state.1 history
  | replicated {recorded : Recorded Store Scan Write TxError} :
      ReplicatedChronicle text allowed (Recorded.initial Store.empty)
        recorded →
      Chronicle text allowed recorded.traced.cluster.committed
        recorded.history

theorem permitted_of_begins {transaction : Persistence} {code : Tx Unit}
    (begins : Service.Begins transaction code) (store : Store) :
    Permitted transaction (fun _ _ => True) code store := by
  obtain ⟨settings, work, same⟩ := begins
  exact ⟨settings, work, same, trivial⟩

/-- What is committed is what has a record. -/
theorem committed_iff_chronicle {text : Collation} {store : Store} :
    Committed text store ↔
      ∃ history, Chronicle text (fun _ _ => True) store history := by
  constructor
  · intro committed
    cases committed with
    | serial run =>
        obtain ⟨history, recorded⟩ := SerialRecord.of_steps
          (fun _ store begins => permitted_of_begins begins store) run []
        exact ⟨[] ++ history, .serial recorded⟩
    | replicated run =>
        obtain ⟨recorded, rfl, steps⟩ := Recorded.of_steps
          (fun _ store begins => permitted_of_begins begins store) run
        exact ⟨recorded.history, .replicated steps⟩
  · rintro ⟨history, chronicle⟩
    cases chronicle with
    | serial recorded => exact .serial (SerialRecord.steps recorded)
    | replicated steps =>
        exact .replicated (Traced.cluster_steps (Recorded.Steps.traced steps))

/-! ## A small run -/

/-- The given transactions on SQLite, with what they write. -/
def sampleRecord (works : List Service.Transaction) :
    Database.State × List Write :=
  works.foldl
    (fun state work => (work.code sqlite sampleSettings).recorded Scan.stored
      state) ((Store.empty, 0), [])

theorem serialRecord_sample {allowed : Service.Transaction → Store → Prop}
    {state : Database.State × List Write} (work : Service.Transaction)
    (permitted : allowed work state.1.1)
    (commits : ((work.code sqlite sampleSettings).recordAlone Scan.stored
      state.1.1 state.1.2).1 = .ok ()) :
    SerialRecord (Service.Begins sqlite) (Permitted sqlite allowed) state
      ((work.code sqlite sampleSettings).recorded Scan.stored state) :=
  .of_recordAlone Scan.stored ⟨sampleSettings, work, rfl⟩
    ⟨sampleSettings, work, rfl, permitted⟩ commits

end GpuLink
