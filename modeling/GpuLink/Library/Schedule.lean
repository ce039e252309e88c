import GpuLink.Library.ReadCommitted

/-!
# Running a schedule of transactions

A cluster whose open transactions are listed can be run turn by turn.  Every
schedule that plays through is a run of the cluster.
-/

namespace Transactional

/-- A cluster with a list of its open transactions. -/
structure Roster (S O W E : Type) where
  committed : S
  sequence : Nat
  holder : Option Nat
  opened : List (Nat × Open S O W E)

/-- What a schedule does next: it opens a transaction, or lets an open one run
its next statement or end. -/
inductive Turn (S O W E : Type) where
  | begin (name : Nat) (code : Program S O W E Unit)
  | next (name : Nat)

namespace Roster

variable {S W K O E : Type} {V : K → Type} [RowStore S W K V]

def initial (s : S) : Roster S O W E := ⟨s, 0, none, []⟩

def find (roster : Roster S O W E) (name : Nat) : Option (Open S O W E) :=
  (roster.opened.find? (fun entry => entry.1 = name)).map Prod.snd

def cluster (roster : Roster S O W E) : Cluster S O W E where
  committed := roster.committed
  sequence := roster.sequence
  holder := roster.holder
  transactions := roster.find

def set (roster : Roster S O W E) (name : Nat)
    (opened : Option (Open S O W E)) : Roster S O W E :=
  { roster with
    opened := opened.toList.map (name, ·) ++
      roster.opened.filter (fun entry => entry.1 ≠ name) }

theorem find_set (roster : Roster S O W E) (name other : Nat)
    (opened : Option (Open S O W E)) :
    (roster.set name opened).find other =
      if other = name then opened else roster.find other := by
  have kept : (roster.opened.filter (fun entry => entry.1 ≠ name)).find?
      (fun entry => entry.1 = other) =
        if other = name then none
        else roster.opened.find? (fun entry => entry.1 = other) := by
    rw [List.find?_filter]
    by_cases same : other = name
    · rw [if_pos same, List.find?_eq_none]
      intro entry _
      simp [same]
    · rw [if_neg same]
      congr 1
      funext entry
      by_cases asked : entry.1 = other
      · simp [asked, same]
      · simp [asked]
  cases opened with
  | none =>
      simp only [find, set, Option.toList_none, List.map_nil, List.nil_append,
        kept]
      split <;> rfl
  | some opened =>
      by_cases same : other = name
      · simp [find, set, same]
      · rw [if_neg same] at kept ⊢
        simp only [find, set, Option.toList_some, List.map_cons, List.map_nil,
          List.cons_append, List.nil_append]
        rw [List.find?_cons_of_neg (by simpa using Ne.symm same), kept]

theorem cluster_set (roster : Roster S O W E) (name : Nat)
    (opened : Option (Open S O W E)) :
    (roster.set name opened).cluster = roster.cluster.set name opened := by
  have same : (roster.set name opened).find =
      Function.update roster.find name opened := by
    funext other
    rw [find_set, Function.update_apply]
  simp only [cluster, Cluster.set, same]
  rfl

section Turns

variable [RowLocks S] [DecidableRel (RowLocks.Clash S)]

/-- No other listed transaction has written a clashing row. -/
def unlocked (roster : Roster S O W E) (name : Nat) (writes : List W) : Bool :=
  roster.opened.all (fun entry => entry.1 = name ||
    writes.all (fun write => entry.2.log.all (fun earlier =>
      !decide (RowLocks.Clash S write earlier))))

theorem unlocked_cluster {roster : Roster S O W E} {name : Nat}
    {writes : List W} (free : roster.unlocked name writes) :
    roster.cluster.Unlocked name writes := by
  intro other opened different found write member earlier earlierMember
  obtain ⟨entry, present, rfl⟩ := Option.map_eq_some_iff.mp found
  have listed := List.mem_of_find?_eq_some present
  have named : entry.1 = other := by simpa using List.find?_some present
  have apart := List.all_eq_true.mp free entry listed
  simp only [named, decide_eq_false different, Bool.false_or] at apart
  simpa using List.all_eq_true.mp (List.all_eq_true.mp apart write member)
    earlier earlierMember

/-- The next statement of the transaction, or its end.  A statement that fails
ends it; one that has to wait is not played. -/
def turn (order : O) (roster : Roster S O W E) (name : Nat) :
    Option (Roster S O W E) :=
  let free := if roster.holder = some name then none else roster.holder
  match roster.find name with
  | none => none
  | some ⟨.done (.ok ()), log⟩ =>
      some ({ roster with
        committed := applyAll roster.committed log
        holder := free }.set name none)
  | some ⟨.done (.error _), _⟩ =>
      some ({ roster with holder := free }.set name none)
  | some ⟨.exec run next, log⟩ =>
      match run ⟨applyAll roster.committed log, roster.sequence, order⟩ with
      | .error _ => some ({ roster with holder := free }.set name none)
      | .ok (answer, effect) =>
          if roster.unlocked name effect.writes then
            some ({ roster with
              sequence := roster.sequence + effect.draws }.set name
                (some ⟨next answer, log ++ effect.writes⟩))
          else none
  | some ⟨.tryLock next, log⟩ =>
      match roster.holder with
      | none =>
          some ({ roster with holder := some name }.set name
            (some ⟨next true, log⟩))
      | some other =>
          if other = name then
            some ({ roster with holder := some name }.set name
              (some ⟨next true, log⟩))
          else some (roster.set name (some ⟨next false, log⟩))

def play (order : O) : List (Turn S O W E) → Roster S O W E →
    Option (Roster S O W E)
  | [], roster => some roster
  | .begin name code :: rest, roster =>
      match roster.find name with
      | some _ => none
      | none => play order rest (roster.set name (some ⟨code, []⟩))
  | .next name :: rest, roster =>
      match roster.turn order name with
      | none => none
      | some later => play order rest later

theorem step_of_turn {Start : Program S O W E Unit → Prop} {order : O}
    {roster later : Roster S O W E} {name : Nat}
    (turned : roster.turn order name = some later) :
    Cluster.Step Start roster.cluster later.cluster := by
  unfold turn at turned
  cases found : roster.find name with
  | none => simp [found] at turned
  | some opened =>
      have here : roster.cluster.transactions name = some opened := found
      obtain ⟨code, log⟩ := opened
      cases code with
      | done outcome =>
          cases outcome with
          | ok result =>
              simp only [found, Option.some.injEq] at turned
              rw [← turned, cluster_set]
              exact .commit name here
          | error problem =>
              simp only [found, Option.some.injEq] at turned
              rw [← turned, cluster_set]
              exact .abort name here
      | exec run next =>
          simp only [found] at turned
          cases ran : run ⟨applyAll roster.committed log, roster.sequence,
              order⟩ with
          | error problem =>
              simp only [ran, Option.some.injEq] at turned
              rw [← turned, cluster_set]
              exact .abort name here
          | ok result =>
              obtain ⟨answer, effect⟩ := result
              simp only [ran] at turned
              split at turned
              · rename_i free
                rw [← Option.some.inj turned, cluster_set]
                exact .exec name order here ran (unlocked_cluster free)
              · cases turned
      | tryLock next =>
          simp only [found] at turned
          cases held : roster.holder with
          | none =>
              simp only [held, Option.some.injEq] at turned
              rw [← turned, cluster_set]
              refine .lock name here ?_
              intro other holding
              have contradiction := held.symm.trans holding
              cases contradiction
          | some other =>
              simp only [held] at turned
              split at turned
              · rename_i same
                rw [← Option.some.inj turned, cluster_set]
                refine .lock name here ?_
                intro third holding
                exact (Option.some.inj (holding.symm.trans held)).trans same
              · rename_i different
                rw [← Option.some.inj turned, cluster_set]
                exact .busy name other here held different

/-- What plays through is a run. -/
theorem steps_of_play {Start : Program S O W E Unit → Prop} {order : O}
    {turns : List (Turn S O W E)}
    (start : ∀ name code, .begin name code ∈ turns → Start code)
    {roster last : Roster S O W E} (played : play order turns roster = some last) :
    Cluster.Steps Start roster.cluster last.cluster := by
  induction turns generalizing roster with
  | nil =>
      cases played
      exact .refl
  | cons head rest induction =>
      have later : ∀ name code, .begin name code ∈ rest → Start code :=
        fun name code member => start name code (List.mem_cons_of_mem _ member)
      cases head with
      | begin name code =>
          cases found : roster.find name with
          | some opened => simp [play, found] at played
          | none =>
              simp only [play, found] at played
              have step : Cluster.Step Start roster.cluster
                  (roster.set name (some ⟨code, []⟩)).cluster := by
                rw [cluster_set]
                exact .begin name found (start name code List.mem_cons_self)
              exact Relation.ReflTransGen.head step (induction later played)
      | next name =>
          cases turned : roster.turn order name with
          | none => simp [play, turned] at played
          | some middle =>
              simp only [play, turned] at played
              exact Relation.ReflTransGen.head (step_of_turn turned)
                (induction later played)

end Turns

end Roster

end Transactional
