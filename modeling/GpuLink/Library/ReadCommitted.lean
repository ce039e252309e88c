import GpuLink.Library.Transaction
import Mathlib.Logic.Function.Basic
import Mathlib.Logic.Relation

/-!
# Interleaved transactions under READ COMMITTED

Any number of transactions are open at once.  A statement of a transaction
sees the committed store with the transaction's own writes on top of it, and
waits while another open transaction has written a clashing row; writes reach
the committed store when their transaction commits, all at once.  One advisory
lock is held from its grant to the end of the holder's transaction.

Two rules carry a property of single transactions over to every interleaving:
`Cluster.steady` for a relation that every statement respects row by row, and
`Cluster.disciplined` for an invariant that only the lock holder may break on
the way and has to restore before it commits.
-/

namespace Transactional

/-- Which writes of two transactions exclude one another.  Writes of one row
always do; a unique index adds further pairs. -/
class RowLocks (S : Type) {W K : outParam Type} {V : outParam (K → Type)}
    [RowStore S W K V] where
  Clash : W → W → Prop
  clash_of_key : ∀ left right : W,
    RowStore.key S left = RowStore.key S right → Clash left right

/-- An open transaction: the code still to run and what it wrote so far. -/
structure Open (S O W E : Type) where
  code : Program S O W E Unit
  log : List W

structure Cluster (S O W E : Type) where
  committed : S
  sequence : Nat
  holder : Option Nat
  transactions : Nat → Option (Open S O W E)

namespace Cluster

variable {S W K O E : Type} {V : K → Type} [RowStore S W K V]

/-- What the statements of one open transaction read. -/
def view (cluster : Cluster S O W E) (opened : Open S O W E) : S :=
  applyAll cluster.committed opened.log

def set (cluster : Cluster S O W E) (name : Nat)
    (opened : Option (Open S O W E)) : Cluster S O W E :=
  { cluster with
    transactions := Function.update cluster.transactions name opened }

/-- The advisory lock falls free when its holder ends. -/
def release (cluster : Cluster S O W E) (name : Nat) : Option Nat :=
  if cluster.holder = some name then none else cluster.holder

def initial (s : S) : Cluster S O W E where
  committed := s
  sequence := 0
  holder := none
  transactions := fun _ => none

@[simp] theorem set_committed (cluster : Cluster S O W E) (name : Nat)
    (opened : Option (Open S O W E)) :
    (cluster.set name opened).committed = cluster.committed := rfl

@[simp] theorem set_holder (cluster : Cluster S O W E) (name : Nat)
    (opened : Option (Open S O W E)) :
    (cluster.set name opened).holder = cluster.holder := rfl

@[simp] theorem set_transactions_self (cluster : Cluster S O W E) (name : Nat)
    (opened : Option (Open S O W E)) :
    (cluster.set name opened).transactions name = opened := by
  simp [set]

theorem set_transactions_other (cluster : Cluster S O W E)
    {name other : Nat} (different : other ≠ name)
    (opened : Option (Open S O W E)) :
    (cluster.set name opened).transactions other =
      cluster.transactions other := by
  simp [set, different]

theorem release_of_ne {cluster : Cluster S O W E} {name other : Nat}
    (different : other ≠ name) :
    cluster.release name = some other ↔ cluster.holder = some other := by
  unfold release
  split
  · rename_i held
    simp [held, different.symm]
  · rfl

/-- Two open transactions never write the same row. -/
def LogsDisjoint (cluster : Cluster S O W E) : Prop :=
  ∀ left right leftOpen rightOpen, left ≠ right →
    cluster.transactions left = some leftOpen →
    cluster.transactions right = some rightOpen →
    ∀ write ∈ leftOpen.log, ∀ other ∈ rightOpen.log,
      RowStore.key S write ≠ RowStore.key S other

theorem transactions_set_cases {cluster : Cluster S O W E} {name other : Nat}
    {opened found : Option (Open S O W E)}
    (here : (cluster.set name opened).transactions other = found) :
    (other = name ∧ opened = found) ∨
      (other ≠ name ∧ cluster.transactions other = found) := by
  by_cases same : other = name
  · subst same
    exact Or.inl ⟨rfl, by simpa using here⟩
  · exact Or.inr ⟨same, by rwa [set_transactions_other _ same] at here⟩

theorem LogsDisjoint.set {cluster : Cluster S O W E} {name : Nat}
    {opened : Option (Open S O W E)} (disjoint : cluster.LogsDisjoint)
    (apart : ∀ mine, opened = some mine → ∀ other theirs, other ≠ name →
      cluster.transactions other = some theirs →
      ∀ write ∈ mine.log, ∀ earlier ∈ theirs.log,
        RowStore.key S write ≠ RowStore.key S earlier) :
    (cluster.set name opened).LogsDisjoint := by
  intro left right leftOpen rightOpen different leftFound rightFound
    write leftMember other rightMember
  rcases transactions_set_cases leftFound with
    ⟨leftName, leftNew⟩ | ⟨leftOther, leftOld⟩
  · rcases transactions_set_cases rightFound with
      ⟨rightName, _⟩ | ⟨rightOther, rightOld⟩
    · exact (different (leftName.trans rightName.symm)).elim
    · exact apart leftOpen leftNew right rightOpen rightOther rightOld
        write leftMember other rightMember
  · rcases transactions_set_cases rightFound with
      ⟨_, rightNew⟩ | ⟨_, rightOld⟩
    · exact (apart rightOpen rightNew left leftOpen leftOther leftOld
        other rightMember write leftMember).symm
    · exact disjoint left right leftOpen rightOpen different leftOld rightOld
        write leftMember other rightMember

section Steps

variable [RowLocks S]

/-- No other open transaction has written a row that clashes with `writes`. -/
def Unlocked (cluster : Cluster S O W E) (name : Nat) (writes : List W) : Prop :=
  ∀ other opened, other ≠ name →
    cluster.transactions other = some opened →
    ∀ write ∈ writes, ∀ earlier ∈ opened.log,
      ¬ RowLocks.Clash (S := S) write earlier

/-- One step of the cluster.  `Start` says which programs may be begun. -/
inductive Step (Start : Program S O W E Unit → Prop) :
    Cluster S O W E → Cluster S O W E → Prop where
  | begin {cluster : Cluster S O W E} (name : Nat)
      {code : Program S O W E Unit} :
      cluster.transactions name = none →
      Start code →
      Step Start cluster (cluster.set name (some ⟨code, []⟩))
  | exec {cluster : Cluster S O W E} (name : Nat) {β : Type}
      {run : Input S O → Except E (β × Effect W)}
      {next : β → Program S O W E Unit} {log : List W} (order : O)
      {answer : β} {effect : Effect W} :
      cluster.transactions name = some ⟨.exec run next, log⟩ →
      run ⟨applyAll cluster.committed log, cluster.sequence, order⟩ =
        .ok (answer, effect) →
      cluster.Unlocked name effect.writes →
      Step Start cluster
        ({ cluster with sequence := cluster.sequence + effect.draws }.set name
          (some ⟨next answer, log ++ effect.writes⟩))
  | lock {cluster : Cluster S O W E} (name : Nat)
      {next : Bool → Program S O W E Unit} {log : List W} :
      cluster.transactions name = some ⟨.tryLock next, log⟩ →
      (∀ other, cluster.holder = some other → other = name) →
      Step Start cluster
        ({ cluster with holder := some name }.set name
          (some ⟨next true, log⟩))
  | busy {cluster : Cluster S O W E} (name other : Nat)
      {next : Bool → Program S O W E Unit} {log : List W} :
      cluster.transactions name = some ⟨.tryLock next, log⟩ →
      cluster.holder = some other →
      other ≠ name →
      Step Start cluster (cluster.set name (some ⟨next false, log⟩))
  | commit {cluster : Cluster S O W E} (name : Nat) {log : List W} :
      cluster.transactions name = some ⟨.done (.ok ()), log⟩ →
      Step Start cluster
        ({ cluster with
            committed := applyAll cluster.committed log
            holder := cluster.release name }.set name none)
  | abort {cluster : Cluster S O W E} (name : Nat) {opened : Open S O W E} :
      cluster.transactions name = some opened →
      Step Start cluster
        ({ cluster with holder := cluster.release name }.set name none)

/-- Every step from `first` to `last`, in any order. -/
abbrev Steps (Start : Program S O W E Unit → Prop) :
    Cluster S O W E → Cluster S O W E → Prop :=
  Relation.ReflTransGen (Step Start)

/-- The transaction commits these writes. -/
def Commits (name : Nat) (log : List W) (before after : Cluster S O W E) :
    Prop :=
  before.transactions name = some ⟨.done (.ok ()), log⟩ ∧
    after = ({ before with
      committed := applyAll before.committed log
      holder := before.release name }.set name none)

theorem Step.logsDisjoint {Start : Program S O W E Unit → Prop}
    {before after : Cluster S O W E} (step : Step Start before after)
    (disjoint : before.LogsDisjoint) : after.LogsDisjoint := by
  cases step with
  | begin name fresh start =>
      apply disjoint.set
      rintro mine ⟨⟩ other theirs _ _ write member
      exact absurd member List.not_mem_nil
  | exec name order found accepted unlocked =>
      apply LogsDisjoint.set disjoint
      rintro mine ⟨⟩ other theirs different theirsFound write member
        earlier earlierMember same
      rcases List.mem_append.mp member with old | new
      · exact disjoint name other _ theirs different.symm found theirsFound
          write old earlier earlierMember same
      · exact unlocked other theirs different theirsFound write new
          earlier earlierMember (RowLocks.clash_of_key write earlier same)
  | lock name found granted =>
      apply LogsDisjoint.set disjoint
      rintro mine ⟨⟩ other theirs different theirsFound
      exact disjoint name other ⟨.tryLock _, _⟩ theirs different.symm found
        theirsFound
  | busy name other found held different =>
      apply disjoint.set
      rintro mine ⟨⟩ third theirs distinct theirsFound
      exact disjoint name third ⟨.tryLock _, _⟩ theirs distinct.symm found
        theirsFound
  | commit name found =>
      apply LogsDisjoint.set disjoint
      rintro mine ⟨⟩
  | abort name found =>
      apply LogsDisjoint.set disjoint
      rintro mine ⟨⟩

/-- Nobody is at work. -/
def idle (s : S) (sequence : Nat) : Cluster S O W E where
  committed := s
  sequence := sequence
  holder := none
  transactions := fun _ => none

/-- One open transaction, which alone can hold the lock. -/
def alone (s : S) (sequence : Nat) (locked : Bool) (opened : Open S O W E) :
    Cluster S O W E where
  committed := s
  sequence := sequence
  holder := if locked then some 0 else none
  transactions := Function.update (fun _ => none) 0 (some opened)

theorem alone_commit (s : S) (sequence : Nat) (locked : Bool)
    (opened : Open S O W E) (final : S) :
    ({ alone s sequence locked opened with
      committed := final
      holder := (alone s sequence locked opened).release 0 }.set 0 none) =
        idle final sequence := by
  cases locked <;> simp [alone, set, idle, release]

theorem step_alone_exec {Start : Program S O W E Unit → Prop} {s : S}
    {sequence : Nat} {locked : Bool} {β : Type}
    {run : Input S O → Except E (β × Effect W)}
    {next : β → Program S O W E Unit} {log : List W} {order : O} {answer : β}
    {effect : Effect W}
    (accepted : run ⟨applyAll s log, sequence, order⟩ = .ok (answer, effect)) :
    Step Start (alone s sequence locked ⟨.exec run next, log⟩)
      (alone s (sequence + effect.draws) locked
        ⟨next answer, log ++ effect.writes⟩) := by
  have free : (alone s sequence locked ⟨.exec run next, log⟩).Unlocked 0
      effect.writes := by
    intro other opened different found
    simp [alone, different] at found
  have step := @Step.exec S W K O E V _ _ Start
    (alone s sequence locked ⟨.exec run next, log⟩) 0 β run next log order
    answer effect (by simp [alone]) accepted free
  simpa [alone, set] using step

theorem step_alone_lock {Start : Program S O W E Unit → Prop} {s : S}
    {sequence : Nat} {locked : Bool} {next : Bool → Program S O W E Unit}
    {log : List W} :
    Step Start (alone s sequence locked ⟨.tryLock next, log⟩)
      (alone s sequence true ⟨next true, log⟩) := by
  have granted : ∀ other,
      (alone s sequence locked ⟨.tryLock next, log⟩).holder = some other →
        other = 0 := by
    intro other holding
    cases locked with
    | false => simp [alone] at holding
    | true => simpa [alone, eq_comm] using holding
  have step := @Step.lock S W K O E V _ _ Start
    (alone s sequence locked ⟨.tryLock next, log⟩) 0 next log
    (by simp [alone]) granted
  simpa [alone, set] using step

/-- A run alone is a run of the cluster, in which only the last step changes
what is committed. -/
theorem commits_of_runs {Start : Program S O W E Unit → Prop}
    {R : Cluster S O W E → Cluster S O W E → Prop}
    (quiet : ∀ before after, Step Start before after →
      after.committed = before.committed ∨
        (∀ name, after.transactions name = none) → R before after)
    {code : Program S O W E Unit} {s final : S} {sequence last : Nat}
    (start : Start code)
    (run : code.Runs s sequence (.ok ()) final last) :
    ∃ before, before.committed = s ∧
      Relation.ReflTransGen R (idle s sequence) before ∧
        Step Start before (idle final last) ∧ R before (idle final last) := by
  have rest : ∀ (base : S) (log : List W) (locked : Bool),
      applyAll base log = s →
      ∃ before, before.committed = base ∧
        Relation.ReflTransGen R (alone base sequence locked ⟨code, log⟩)
          before ∧
        Step Start before (idle final last) ∧ R before (idle final last) := by
    intro base log locked view
    generalize success : (Except.ok () : Except E Unit) = outcome at run
    clear start
    induction run generalizing log locked with
    | done outcome s sequence =>
        subst success view
        have step := @Step.commit S W K O E V _ _ Start
          (alone base sequence locked ⟨.done (.ok ()), log⟩) 0 log
          (by simp [alone])
        have ended := alone_commit base sequence locked
          (⟨.done (.ok ()), log⟩ : Open S O W E) (applyAll base log)
        have committed : (alone base sequence locked
          (⟨.done (.ok ()), log⟩ : Open S O W E)).committed = base := rfl
        rw [committed, ended] at step
        exact ⟨_, committed, .refl, step,
          quiet _ _ step (Or.inr (fun _ => rfl))⟩
    | exec order accepted later induction =>
        subst view
        obtain ⟨before, same, steps, commit⟩ :=
          induction _ _ (applyAll_append _ _ _) success
        exact ⟨before, same, .head
          (quiet _ _ (step_alone_exec accepted) (Or.inl rfl)) steps, commit⟩
    | fails => cases success
    | tryLock later induction =>
        obtain ⟨before, same, steps, commit⟩ := induction _ _ view success
        exact ⟨before, same, .head (quiet _ _ step_alone_lock (Or.inl rfl))
          steps, commit⟩
  have begun : Step Start (idle s sequence : Cluster S O W E)
      (alone s sequence false ⟨code, []⟩) :=
    .begin 0 rfl start
  obtain ⟨before, same, steps, commit⟩ := rest s [] false rfl
  exact ⟨before, same, .head (quiet _ _ begun (Or.inl rfl)) steps, commit⟩

theorem steps_of_runs {Start : Program S O W E Unit → Prop}
    {R : Cluster S O W E → Cluster S O W E → Prop}
    (quiet : ∀ before after, Step Start before after →
      after.committed = before.committed ∨
        (∀ name, after.transactions name = none) → R before after)
    {code : Program S O W E Unit} {s final : S} {sequence last : Nat}
    (start : Start code)
    (run : code.Runs s sequence (.ok ()) final last) :
    Relation.ReflTransGen R (idle s sequence) (idle final last) := by
  obtain ⟨before, _, steps, _, commit⟩ := commits_of_runs quiet start run
  exact steps.tail commit

end Steps

/-! ## What a commit does to the other views -/

section Commits

variable {rel : (k : K) → V k → V k → Prop}

/-- A transaction stays related to the committed store when another one, with
other rows, commits. -/
theorem rowwise_after_commit (refl : ∀ k value, rel k value value)
    {s : S} {mine theirs : List W}
    (apart : ∀ write ∈ mine, ∀ other ∈ theirs,
      RowStore.key S write ≠ RowStore.key S other)
    (related : Rowwise rel s (applyAll s theirs)) :
    Rowwise rel (applyAll s mine) (applyAll (applyAll s mine) theirs) := by
  intro k
  by_cases written : ∃ other ∈ theirs, k = RowStore.key S other
  · obtain ⟨other, member, rfl⟩ := written
    have same : RowStore.get (applyAll s mine) (RowStore.key S other) =
        RowStore.get s (RowStore.key S other) :=
      get_applyAll_other
        (fun write writeMember => (apart write writeMember other member).symm) s
    rw [get_applyAll_congr same theirs, same]
    exact related _
  · rw [get_applyAll_other (fun other member equality =>
      written ⟨other, member, equality⟩)]
    exact refl k _

/-- What another transaction's commit does to a view is what it did to the
committed store. -/
theorem rowwise_view_after_commit (refl : ∀ k value, rel k value value)
    {s : S} {mine theirs : List W}
    (apart : ∀ write ∈ mine, ∀ other ∈ theirs,
      RowStore.key S write ≠ RowStore.key S other)
    (related : Rowwise rel s (applyAll s mine)) :
    Rowwise rel (applyAll s theirs) (applyAll (applyAll s mine) theirs) := by
  intro k
  by_cases written : ∃ other ∈ theirs, k = RowStore.key S other
  · obtain ⟨other, member, rfl⟩ := written
    have same : RowStore.get (applyAll s mine) (RowStore.key S other) =
        RowStore.get s (RowStore.key S other) :=
      get_applyAll_other
        (fun write writeMember => (apart write writeMember other member).symm) s
    rw [get_applyAll_congr same theirs]
    exact refl _ _
  · have untouched : ∀ other ∈ theirs, k ≠ RowStore.key S other :=
      fun other member equality => written ⟨other, member, equality⟩
    rw [get_applyAll_other untouched, get_applyAll_other untouched]
    exact related k

end Commits

end Cluster

/-! ## Relations that every statement respects -/

section Steady

variable {S W K O E α : Type} {V : K → Type} [RowStore S W K V]

/-- Whatever the answers are and whether or not the lock is granted, each
statement moves the view along `env`. -/
def Program.Steady (env : S → S → Prop) : Program S O W E α → Prop
  | .done _ => True
  | .exec run next => ∀ input answer effect, run input = .ok (answer, effect) →
      env input.view (applyAll input.view effect.writes) ∧
        (next answer).Steady env
  | .tryLock next => ∀ granted, (next granted).Steady env

theorem Program.Steady.bind {env : S → S → Prop} {β : Type}
    {program : Program S O W E α} {next : α → Program S O W E β}
    (first : program.Steady env) (second : ∀ result, (next result).Steady env) :
    (program.bind next).Steady env := by
  induction program with
  | done outcome =>
      cases outcome with
      | error problem => trivial
      | ok result => exact second result
  | exec run rest induction =>
      intro input answer effect accepted
      obtain ⟨moved, later⟩ := first input answer effect accepted
      exact ⟨moved, induction answer later⟩
  | tryLock rest induction =>
      intro granted
      exact induction granted (first granted)

theorem Program.Steady.mono {env wider : S → S → Prop}
    (implies : ∀ {s s'}, env s s' → wider s s')
    {program : Program S O W E α} (steady : program.Steady env) :
    program.Steady wider := by
  induction program with
  | done outcome => trivial
  | exec run next induction =>
      intro input answer effect accepted
      obtain ⟨moved, later⟩ := steady input answer effect accepted
      exact ⟨implies moved, induction answer later⟩
  | tryLock next induction =>
      exact fun granted => induction granted (steady granted)

/-- The run of steady code alone moves the store along `env`. -/
theorem Program.Runs.steady {env : S → S → Prop} (refl : ∀ s, env s s)
    (trans : ∀ {a b c}, env a b → env b c → env a c)
    {program : Program S O W E α} {s final : S} {sequence last : Nat}
    {outcome : Except E α}
    (run : program.Runs s sequence outcome final last)
    (steady : program.Steady env) : env s final := by
  induction run with
  | done outcome s sequence => exact refl s
  | exec order accepted _ induction =>
      obtain ⟨moved, later⟩ := steady _ _ _ accepted
      exact trans moved (induction later)
  | fails => exact refl _
  | tryLock _ induction => exact induction (steady true)

/-- Steady code keeps every property that `env` carries along. -/
theorem Program.Steady.wp {env : S → S → Prop} {program : Program S O W E α}
    (steady : program.Steady env) {Inv : S → Prop}
    (carried : ∀ {s s'}, env s s' → Inv s → Inv s') {s : S} (held : Inv s) :
    program.wp env (fun _ => Inv) s := by
  induction program generalizing s with
  | done outcome =>
      cases outcome with
      | error problem => trivial
      | ok result => exact fun s' moved => carried moved held
  | exec run next induction =>
      rintro s' moved input rfl answer effect accepted
      obtain ⟨within, later⟩ := steady input answer effect accepted
      exact induction answer later (carried within (carried moved held))
  | tryLock next induction =>
      intro s' moved
      exact induction true (steady true) (carried moved held)

variable {rel : (k : K) → V k → V k → Prop}

/-- Every open transaction is steady and its view is reached from the
committed store along `rel`. -/
structure Cluster.Steady (rel : (k : K) → V k → V k → Prop)
    (cluster : Cluster S O W E) : Prop where
  disjoint : cluster.LogsDisjoint
  opened : ∀ name opened, cluster.transactions name = some opened →
    opened.code.Steady (Rowwise rel) ∧
      Rowwise rel cluster.committed (cluster.view opened)

theorem Cluster.steady_initial (s : S) :
    (Cluster.initial s : Cluster S O W E).Steady rel where
  disjoint := by
    intro left right leftOpen rightOpen different leftFound
    simp [Cluster.initial] at leftFound
  opened := by
    intro name opened found
    simp [Cluster.initial] at found

variable [RowLocks S]

theorem Cluster.Step.steady {Start : Program S O W E Unit → Prop}
    (start : ∀ code, Start code → code.Steady (Rowwise rel))
    (refl : ∀ k value, rel k value value)
    (trans : ∀ k {a b c}, rel k a b → rel k b c → rel k a c)
    {before after : Cluster S O W E} (step : Cluster.Step Start before after)
    (steady : before.Steady rel) :
    after.Steady rel ∧ Rowwise rel before.committed after.committed := by
  have nextDisjoint := step.logsDisjoint steady.disjoint
  have self : ∀ s : S, Rowwise rel s s := fun s k => refl k _
  cases step with
  | begin name fresh started =>
      refine ⟨⟨nextDisjoint, ?_⟩, self _⟩
      intro other opened found
      rcases Cluster.transactions_set_cases found with ⟨_, ⟨⟩⟩ | ⟨_, old⟩
      · exact ⟨start _ started, self _⟩
      · exact steady.opened other opened old
  | exec name order found accepted unlocked =>
      obtain ⟨code, related⟩ := steady.opened name _ found
      obtain ⟨moved, later⟩ := code _ _ _ accepted
      refine ⟨⟨nextDisjoint, ?_⟩, self _⟩
      intro other opened otherFound
      rcases Cluster.transactions_set_cases otherFound with ⟨_, ⟨⟩⟩ | ⟨_, old⟩
      · refine ⟨later, ?_⟩
        intro k
        have joined := trans k (related k) (moved k)
        simpa [Cluster.view, applyAll_append] using joined
      · exact steady.opened other opened old
  | lock name found granted =>
      refine ⟨⟨nextDisjoint, ?_⟩, self _⟩
      intro other opened otherFound
      rcases Cluster.transactions_set_cases otherFound with ⟨_, ⟨⟩⟩ | ⟨_, old⟩
      · obtain ⟨code, related⟩ := steady.opened name _ found
        exact ⟨code true, related⟩
      · exact steady.opened other opened old
  | busy name holder found held different =>
      refine ⟨⟨nextDisjoint, ?_⟩, self _⟩
      intro other opened otherFound
      rcases Cluster.transactions_set_cases otherFound with ⟨_, ⟨⟩⟩ | ⟨_, old⟩
      · obtain ⟨code, related⟩ := steady.opened name _ found
        exact ⟨code false, related⟩
      · exact steady.opened other opened old
  | @commit name log found =>
      obtain ⟨_, related⟩ := steady.opened name _ found
      refine ⟨⟨nextDisjoint, ?_⟩, related⟩
      intro other opened otherFound
      rcases Cluster.transactions_set_cases otherFound with
        ⟨_, ⟨⟩⟩ | ⟨different, old⟩
      obtain ⟨code, otherRelated⟩ := steady.opened other opened old
      refine ⟨code, ?_⟩
      exact Cluster.rowwise_after_commit refl
        (steady.disjoint name other _ opened different.symm found old)
        otherRelated
  | abort name found =>
      refine ⟨⟨nextDisjoint, ?_⟩, self _⟩
      intro other opened otherFound
      rcases Cluster.transactions_set_cases otherFound with ⟨_, ⟨⟩⟩ | ⟨_, old⟩
      exact steady.opened other opened old

/-- In every interleaving of steady transactions the committed store moves
along `rel`. -/
theorem Cluster.steady {Start : Program S O W E Unit → Prop}
    (start : ∀ code, Start code → code.Steady (Rowwise rel))
    (refl : ∀ k value, rel k value value)
    (trans : ∀ k {a b c}, rel k a b → rel k b c → rel k a c)
    {before after : Cluster S O W E} (steps : Cluster.Steps Start before after)
    (steady : before.Steady rel) :
    after.Steady rel ∧ Rowwise rel before.committed after.committed := by
  induction steps with
  | refl => exact ⟨steady, fun k => refl k _⟩
  | tail _ step induction =>
      obtain ⟨middleSteady, earlier⟩ := induction
      obtain ⟨lastSteady, later⟩ := step.steady start refl trans middleSteady
      exact ⟨lastSteady, fun k => trans k (earlier k) (later k)⟩

end Steady

/-! ## An invariant that the lock holder restores -/

section Disciplined

variable {S W K O E : Type} {V : K → Type} [RowStore S W K V]

/-- Without the lock the code moves the view along `calm` only.  Once it holds
the lock it may leave `Inv`, but has to end in it, whatever moves along `calm`
the others make meanwhile. -/
def Program.Disciplined (calm : S → S → Prop) (Inv : S → Prop) :
    Program S O W E Unit → Prop
  | .done _ => True
  | .exec run next => ∀ input answer effect, run input = .ok (answer, effect) →
      calm input.view (applyAll input.view effect.writes) ∧
        (next answer).Disciplined calm Inv
  | .tryLock next =>
      (next false).Disciplined calm Inv ∧
        ∀ s, Inv s → (next true).wp calm (fun _ => Inv) s

theorem Program.Steady.disciplined {calm : S → S → Prop} {Inv : S → Prop}
    (carried : ∀ {s s'}, calm s s' → Inv s → Inv s')
    {code : Program S O W E Unit} (steady : code.Steady calm) :
    code.Disciplined calm Inv := by
  induction code with
  | done outcome => trivial
  | exec run next induction =>
      intro input answer effect accepted
      obtain ⟨moved, later⟩ := steady input answer effect accepted
      exact ⟨moved, induction answer later⟩
  | tryLock next induction =>
      exact ⟨induction false (steady false),
        fun s held => (steady true).wp carried held⟩

/-- The run of disciplined code alone keeps the invariant when it succeeds. -/
theorem Program.Runs.disciplined {calm : S → S → Prop} {Inv : S → Prop}
    (refl : ∀ s, calm s s)
    (carried : ∀ {s s'}, calm s s' → Inv s → Inv s')
    {code : Program S O W E Unit} {s final : S} {sequence last : Nat}
    (run : code.Runs s sequence (.ok ()) final last)
    (disciplined : code.Disciplined calm Inv) (held : Inv s) :
    Inv final := by
  generalize success : (Except.ok () : Except E Unit) = outcome at run
  induction run with
  | done => exact held
  | exec order accepted _ induction =>
      obtain ⟨moved, later⟩ := disciplined _ _ _ accepted
      exact induction later (carried moved held) success
  | fails => cases success
  | tryLock later =>
      exact later.post refl (disciplined.2 _ held) success.symm

variable {rel : (k : K) → V k → V k → Prop} {Inv : S → Prop}

/-- The invariant holds of the committed store; a transaction without the lock
is disciplined and its view is reached along `rel`; the holder is on its way
back to the invariant. -/
structure Cluster.Governed (rel : (k : K) → V k → V k → Prop) (Inv : S → Prop)
    (cluster : Cluster S O W E) : Prop where
  disjoint : cluster.LogsDisjoint
  invariant : Inv cluster.committed
  held : ∀ name, cluster.holder = some name →
    ∃ opened, cluster.transactions name = some opened
  waiting : ∀ name opened, cluster.transactions name = some opened →
    cluster.holder ≠ some name →
    opened.code.Disciplined (Rowwise rel) Inv ∧
      Rowwise rel cluster.committed (cluster.view opened)
  holding : ∀ name opened, cluster.transactions name = some opened →
    cluster.holder = some name →
    opened.code.wp (Rowwise rel) (fun _ => Inv) (cluster.view opened)

theorem Cluster.governed_initial {s : S} (invariant : Inv s) :
    (Cluster.initial s : Cluster S O W E).Governed rel Inv where
  disjoint := by
    intro left right leftOpen rightOpen different leftFound
    simp [Cluster.initial] at leftFound
  invariant := invariant
  held := by
    intro name holding
    simp [Cluster.initial] at holding
  waiting := by
    intro name opened found
    simp [Cluster.initial] at found
  holding := by
    intro name opened found
    simp [Cluster.initial] at found

theorem Cluster.release_self (cluster : Cluster S O W E) (name : Nat) :
    cluster.release name ≠ some name := by
  unfold Cluster.release
  split
  · simp
  · assumption

/-- A transaction that ends leaves the lock with another open transaction or
with nobody. -/
theorem Cluster.Governed.held_after {cluster : Cluster S O W E}
    (governed : cluster.Governed rel Inv) {name other : Nat}
    (holding : cluster.release name = some other) :
    other ≠ name ∧ cluster.holder = some other ∧
      ∃ opened, cluster.transactions other = some opened := by
  have different : other ≠ name := by
    rintro rfl
    exact cluster.release_self other holding
  have before := (Cluster.release_of_ne different).mp holding
  exact ⟨different, before, governed.held other before⟩

theorem Cluster.Governed.begin {cluster : Cluster S O W E} {name : Nat}
    {code : Program S O W E Unit} (governed : cluster.Governed rel Inv)
    (refl : ∀ k value, rel k value value)
    (nextDisjoint : (cluster.set name (some ⟨code, []⟩)).LogsDisjoint)
    (fresh : cluster.transactions name = none)
    (disciplined : code.Disciplined (Rowwise rel) Inv) :
    (cluster.set name (some ⟨code, []⟩)).Governed rel Inv := by
  have free : cluster.holder ≠ some name := by
    intro holding
    obtain ⟨opened, found⟩ := governed.held name holding
    rw [fresh] at found
    cases found
  refine ⟨nextDisjoint, governed.invariant, ?_, ?_, ?_⟩
  · intro other holding
    have different : other ≠ name := by
      rintro rfl
      exact free holding
    obtain ⟨opened, found⟩ := governed.held other holding
    exact ⟨opened, by rwa [Cluster.set_transactions_other _ different]⟩
  · intro other opened found waits
    rcases Cluster.transactions_set_cases found with ⟨_, ⟨⟩⟩ | ⟨_, old⟩
    · exact ⟨disciplined, fun k => refl k _⟩
    · exact governed.waiting other opened old waits
  · intro other opened found holding
    rcases Cluster.transactions_set_cases found with ⟨rfl, _⟩ | ⟨_, old⟩
    · exact (free holding).elim
    · exact governed.holding other opened old holding

theorem Cluster.Governed.exec {cluster : Cluster S O W E} {name : Nat}
    {β : Type} {run : Input S O → Except E (β × Effect W)}
    {next : β → Program S O W E Unit} {log : List W} {order : O} {answer : β}
    {effect : Effect W} {sequence : Nat}
    (governed : cluster.Governed rel Inv)
    (refl : ∀ k value, rel k value value)
    (trans : ∀ k {a b c}, rel k a b → rel k b c → rel k a c)
    (found : cluster.transactions name = some ⟨.exec run next, log⟩)
    (accepted : run ⟨applyAll cluster.committed log, cluster.sequence, order⟩ =
      .ok (answer, effect))
    (nextDisjoint : ({ cluster with sequence := sequence }.set name
      (some ⟨next answer, log ++ effect.writes⟩)).LogsDisjoint) :
    ({ cluster with sequence := sequence }.set name
      (some ⟨next answer, log ++ effect.writes⟩)).Governed rel Inv := by
  refine ⟨nextDisjoint, governed.invariant, ?_, ?_, ?_⟩
  · intro other holding
    by_cases same : other = name
    · subst same
      exact ⟨_, Cluster.set_transactions_self _ _ _⟩
    · obtain ⟨opened, old⟩ := governed.held other holding
      exact ⟨opened, by rwa [Cluster.set_transactions_other _ same]⟩
  · intro other opened otherFound waits
    rcases Cluster.transactions_set_cases otherFound with ⟨rfl, ⟨⟩⟩ | ⟨_, old⟩
    · obtain ⟨code, related⟩ := governed.waiting other _ found waits
      obtain ⟨moved, later⟩ := code _ _ _ accepted
      refine ⟨later, ?_⟩
      intro k
      have joined := trans k (related k) (moved k)
      simpa [Cluster.view, applyAll_append] using joined
    · exact governed.waiting other opened old waits
  · intro other opened otherFound holding
    rcases Cluster.transactions_set_cases otherFound with ⟨rfl, ⟨⟩⟩ | ⟨_, old⟩
    · have later := governed.holding other _ found holding _
        (fun k => refl k _) _ rfl answer effect accepted
      simpa [Cluster.view, applyAll_append] using later
    · exact governed.holding other opened old holding

theorem Cluster.Governed.lock {cluster : Cluster S O W E} {name : Nat}
    {next : Bool → Program S O W E Unit} {log : List W}
    (governed : cluster.Governed rel Inv)
    (refl : ∀ k value, rel k value value)
    (carried : ∀ {s s'}, Rowwise rel s s' → Inv s → Inv s')
    (found : cluster.transactions name = some ⟨.tryLock next, log⟩)
    (granted : ∀ other, cluster.holder = some other → other = name)
    (nextDisjoint : ({ cluster with holder := some name }.set name
      (some ⟨next true, log⟩)).LogsDisjoint) :
    ({ cluster with holder := some name }.set name
      (some ⟨next true, log⟩)).Governed rel Inv := by
  refine ⟨nextDisjoint, governed.invariant, ?_, ?_, ?_⟩
  · rintro other ⟨⟩
    exact ⟨_, Cluster.set_transactions_self _ _ _⟩
  · intro other opened otherFound waits
    rcases Cluster.transactions_set_cases otherFound with ⟨rfl, _⟩ | ⟨different, old⟩
    · exact (waits rfl).elim
    · exact governed.waiting other opened old
        (fun holding => different (granted other holding))
  · intro other opened otherFound holding
    rcases Cluster.transactions_set_cases otherFound with ⟨rfl, ⟨⟩⟩ | ⟨different, _⟩
    · by_cases already : cluster.holder = some other
      · exact governed.holding other _ found already _ (fun k => refl k _)
      · obtain ⟨code, related⟩ := governed.waiting other _ found already
        exact code.2 _ (carried related governed.invariant)
    · exact (different (Option.some.inj holding).symm).elim

theorem Cluster.Governed.busy {cluster : Cluster S O W E} {name holder : Nat}
    {next : Bool → Program S O W E Unit} {log : List W}
    (governed : cluster.Governed rel Inv)
    (found : cluster.transactions name = some ⟨.tryLock next, log⟩)
    (held : cluster.holder = some holder) (different : holder ≠ name)
    (nextDisjoint : (cluster.set name
      (some ⟨next false, log⟩)).LogsDisjoint) :
    (cluster.set name (some ⟨next false, log⟩)).Governed rel Inv := by
  have free : cluster.holder ≠ some name := by
    rw [held]
    exact fun same => different (Option.some.inj same)
  refine ⟨nextDisjoint, governed.invariant, ?_, ?_, ?_⟩
  · intro other holding
    have apart : other ≠ name := by
      rintro rfl
      exact free holding
    obtain ⟨opened, old⟩ := governed.held other holding
    exact ⟨opened, by rwa [Cluster.set_transactions_other _ apart]⟩
  · intro other opened otherFound waits
    rcases Cluster.transactions_set_cases otherFound with ⟨rfl, ⟨⟩⟩ | ⟨_, old⟩
    · obtain ⟨code, related⟩ := governed.waiting other _ found waits
      exact ⟨code.1, related⟩
    · exact governed.waiting other opened old waits
  · intro other opened otherFound holding
    rcases Cluster.transactions_set_cases otherFound with ⟨rfl, _⟩ | ⟨_, old⟩
    · exact (free holding).elim
    · exact governed.holding other opened old holding

theorem Cluster.Governed.commit {cluster : Cluster S O W E} {name : Nat}
    {log : List W} (governed : cluster.Governed rel Inv)
    (refl : ∀ k value, rel k value value)
    (trans : ∀ k {a b c}, rel k a b → rel k b c → rel k a c)
    (carried : ∀ {s s'}, Rowwise rel s s' → Inv s → Inv s')
    (found : cluster.transactions name = some ⟨.done (.ok ()), log⟩)
    (nextDisjoint : ({ cluster with
        committed := applyAll cluster.committed log
        holder := cluster.release name }.set name none).LogsDisjoint) :
    ({ cluster with
        committed := applyAll cluster.committed log
        holder := cluster.release name }.set name none).Governed rel Inv := by
  have apart : ∀ other opened, other ≠ name →
      cluster.transactions other = some opened →
      ∀ write ∈ log, ∀ earlier ∈ opened.log,
        RowStore.key S write ≠ RowStore.key S earlier :=
    fun other opened different old =>
      governed.disjoint name other _ opened different.symm found old
  refine ⟨nextDisjoint, ?_, ?_, ?_, ?_⟩
  · by_cases mine : cluster.holder = some name
    · exact governed.holding name _ found mine _ (fun k => refl k _)
    · exact carried (governed.waiting name _ found mine).2 governed.invariant
  · intro other holding
    obtain ⟨different, _, opened, old⟩ := governed.held_after holding
    exact ⟨opened, by rwa [Cluster.set_transactions_other _ different]⟩
  · intro other opened otherFound waits
    rcases Cluster.transactions_set_cases otherFound with
      ⟨_, ⟨⟩⟩ | ⟨different, old⟩
    have waited : cluster.holder ≠ some other := fun holding =>
      waits ((Cluster.release_of_ne different).mpr holding)
    obtain ⟨code, related⟩ := governed.waiting other opened old waited
    exact ⟨code, Cluster.rowwise_after_commit refl
      (apart other opened different old) related⟩
  · intro other opened otherFound holding
    rcases Cluster.transactions_set_cases otherFound with
      ⟨_, ⟨⟩⟩ | ⟨different, old⟩
    obtain ⟨_, holds, _⟩ := governed.held_after holding
    -- the lock is elsewhere, so the commit moved the store along `rel`
    have notMine : cluster.holder ≠ some name := by
      rw [holds]
      exact fun same => different (Option.some.inj same)
    have related := (governed.waiting name _ found notMine).2
    exact Program.wp_stable
      (fun first second k => trans k (first k) (second k))
      (governed.holding other opened old holds)
      (Cluster.rowwise_view_after_commit refl
        (apart other opened different old) related)

theorem Cluster.Governed.abort {cluster : Cluster S O W E} {name : Nat}
    (governed : cluster.Governed rel Inv)
    (nextDisjoint : ({ cluster with
        holder := cluster.release name }.set name none).LogsDisjoint) :
    ({ cluster with
        holder := cluster.release name }.set name none).Governed rel Inv := by
  refine ⟨nextDisjoint, governed.invariant, ?_, ?_, ?_⟩
  · intro other holding
    obtain ⟨different, _, opened, old⟩ := governed.held_after holding
    exact ⟨opened, by rwa [Cluster.set_transactions_other _ different]⟩
  · intro other opened otherFound waits
    rcases Cluster.transactions_set_cases otherFound with
      ⟨_, ⟨⟩⟩ | ⟨different, old⟩
    exact governed.waiting other opened old (fun holding =>
      waits ((Cluster.release_of_ne different).mpr holding))
  · intro other opened otherFound holding
    rcases Cluster.transactions_set_cases otherFound with
      ⟨_, ⟨⟩⟩ | ⟨_, old⟩
    exact governed.holding other opened old (governed.held_after holding).2.1

section Steps

variable [RowLocks S]

theorem Cluster.Step.governed {Start : Program S O W E Unit → Prop}
    (start : ∀ code, Start code → code.Disciplined (Rowwise rel) Inv)
    (refl : ∀ k value, rel k value value)
    (trans : ∀ k {a b c}, rel k a b → rel k b c → rel k a c)
    (carried : ∀ {s s'}, Rowwise rel s s' → Inv s → Inv s')
    {before after : Cluster S O W E} (step : Cluster.Step Start before after)
    (governed : before.Governed rel Inv) : after.Governed rel Inv := by
  have nextDisjoint := step.logsDisjoint governed.disjoint
  cases step with
  | begin name fresh started =>
      exact governed.begin refl nextDisjoint fresh (start _ started)
  | exec name order found accepted _ =>
      exact governed.exec refl trans found accepted nextDisjoint
  | lock name found granted =>
      exact governed.lock refl carried found granted nextDisjoint
  | busy name holder found held different =>
      exact governed.busy found held different nextDisjoint
  | commit name found =>
      exact governed.commit refl trans carried found nextDisjoint
  | abort name found =>
      exact governed.abort nextDisjoint

/-- In every interleaving of disciplined transactions every committed store
has the invariant. -/
theorem Cluster.disciplined {Start : Program S O W E Unit → Prop}
    (start : ∀ code, Start code → code.Disciplined (Rowwise rel) Inv)
    (refl : ∀ k value, rel k value value)
    (trans : ∀ k {a b c}, rel k a b → rel k b c → rel k a c)
    (carried : ∀ {s s'}, Rowwise rel s s' → Inv s → Inv s')
    {before after : Cluster S O W E} (steps : Cluster.Steps Start before after)
    (governed : before.Governed rel Inv) : after.Governed rel Inv := by
  induction steps with
  | refl => exact governed
  | tail _ step induction => exact step.governed start refl trans carried induction

end Steps

end Disciplined

end Transactional
