import GpuLink.Library.ReadCommitted

/-!
# What a transaction has written when it commits

Between two statements of a transaction the committed store may change, but not
in the rows the transaction has written: it holds their locks.  A regime says
what the others may do meanwhile, with and without the advisory lock in the
transaction's hand.  `Program.secures` is the weakest precondition over the
committed store and the log; the rule `Traced.secured` gives what every commit
of every interleaving establishes, for the program that the transaction began
with.
-/

namespace Transactional

/-- What happens to the committed store while a transaction is open, and what
every committed store satisfies.  The flag tells whether the transaction holds
the advisory lock. -/
structure Regime (S : Type) where
  env : Bool → S → S → Prop
  Inv : S → Prop
  refl : ∀ held s, env held s s
  trans : ∀ {held a b c}, env held a b → env held b c → env held a c

section Secures

variable {S W K O E α β : Type} {V : K → Type} [RowStore S W K V]

open RowStore

/-- The rows of the log are as they were. -/
def LocksKept (log : List W) (s s' : S) : Prop :=
  ∀ write ∈ log, get s' (key S write) = get s (key S write)

theorem locksKept_refl (log : List W) (s : S) : LocksKept log s s :=
  fun _ _ => rfl

theorem LocksKept.trans {log : List W} {a b c : S}
    (first : LocksKept log a b) (second : LocksKept log b c) :
    LocksKept log a c :=
  fun write member => (second write member).trans (first write member)

theorem LocksKept.of_append {first second : List W} {a b : S}
    (kept : LocksKept (first ++ second) a b) : LocksKept first a b :=
  fun write member => kept write (List.mem_append_left _ member)

theorem LocksKept.row {log : List W} {a b : S} (kept : LocksKept log a b)
    {k : K} (locked : ∃ write ∈ log, key S write = k) : get b k = get a k := by
  obtain ⟨write, member, rfl⟩ := locked
  exact kept write member

/-- The committed store moves while the transaction is open. -/
structure Regime.Shift (regime : Regime S) (held : Bool) (log : List W)
    (s s' : S) : Prop where
  env : regime.env held s s'
  locks : LocksKept log s s'
  invariant : regime.Inv s'

variable {regime : Regime S}

theorem Regime.shift_refl {held : Bool} {log : List W} {s : S}
    (invariant : regime.Inv s) : regime.Shift held log s s :=
  ⟨regime.refl held s, locksKept_refl log s, invariant⟩

theorem Regime.Shift.trans {held : Bool} {log : List W} {a b c : S}
    (first : regime.Shift held log a b) (second : regime.Shift held log b c) :
    regime.Shift held log a c :=
  ⟨regime.trans first.env second.env, first.locks.trans second.locks,
    second.invariant⟩

/-- Weakest precondition over the committed store and the log. -/
def Program.secures (regime : Regime S) :
    Program S O W E α → Bool → (α → Bool → S → List W → Prop) → S → List W →
      Prop
  | .done (.ok result), held, post, s, log =>
      ∀ s', regime.Shift held log s s' → post result held s' log
  | .done (.error _), _, _, _, _ => True
  | .exec run next, held, post, s, log =>
      ∀ s', regime.Shift held log s s' → ∀ (input : Input S O),
        input.view = applyAll s' log →
        ∀ answer effect, run input = .ok (answer, effect) →
          (next answer).secures regime held post s' (log ++ effect.writes)
  | .tryLock next, held, post, s, log =>
      ∀ s', regime.Shift held log s s' →
        (next true).secures regime true post s' log ∧
          (held = false → (next false).secures regime false post s' log)

theorem Program.secures_mono {program : Program S O W E α} {held : Bool}
    {post weaker : α → Bool → S → List W → Prop}
    (implies : ∀ result held s log, post result held s log →
      weaker result held s log) {s : S} {log : List W}
    (secured : program.secures regime held post s log) :
    program.secures regime held weaker s log := by
  induction program generalizing held s log with
  | done outcome =>
      cases outcome with
      | error problem => trivial
      | ok result => exact fun s' shift => implies _ _ _ _ (secured s' shift)
  | exec run next induction =>
      intro s' shift input view answer effect accepted
      exact induction answer (secured s' shift input view answer effect accepted)
  | tryLock next induction =>
      intro s' shift
      obtain ⟨granted, refused⟩ := secured s' shift
      exact ⟨induction true granted, fun free => induction false (refused free)⟩

/-- A precondition that holds of every store that may come next. -/
theorem Program.secures_of_shifted {program : Program S O W E α} {held : Bool}
    {post : α → Bool → S → List W → Prop} {s : S} {log : List W}
    (later : ∀ s', regime.Shift held log s s' →
      program.secures regime held post s' log) :
    program.secures regime held post s log := by
  cases program with
  | done outcome =>
      cases outcome with
      | error problem => trivial
      | ok result =>
          intro s' shift
          exact later s' shift s' (regime.shift_refl shift.invariant)
  | exec run next =>
      intro s' shift
      exact later s' shift s' (regime.shift_refl shift.invariant)
  | tryLock next =>
      intro s' shift
      exact later s' shift s' (regime.shift_refl shift.invariant)

/-- It survives what the others do. -/
theorem Program.secures_stable {program : Program S O W E α} {held : Bool}
    {post : α → Bool → S → List W → Prop} {s s' : S} {log : List W}
    (secured : program.secures regime held post s log)
    (shift : regime.Shift held log s s') :
    program.secures regime held post s' log := by
  cases program with
  | done outcome =>
      cases outcome with
      | error problem => trivial
      | ok result => exact fun s'' further => secured s'' (shift.trans further)
  | exec run next => exact fun s'' further => secured s'' (shift.trans further)
  | tryLock next => exact fun s'' further => secured s'' (shift.trans further)

theorem Program.secures_bind {program : Program S O W E α}
    {next : α → Program S O W E β} {held : Bool}
    {post : β → Bool → S → List W → Prop} {s : S} {log : List W}
    (secured : program.secures regime held (fun result held s log =>
      (next result).secures regime held post s log) s log) :
    (program.bind next).secures regime held post s log := by
  induction program generalizing held s log with
  | done outcome =>
      cases outcome with
      | error problem => trivial
      | ok result => exact Program.secures_of_shifted secured
  | exec run rest induction =>
      intro s' shift input view answer effect accepted
      exact induction answer (secured s' shift input view answer effect accepted)
  | tryLock rest induction =>
      intro s' shift
      obtain ⟨granted, refused⟩ := secured s' shift
      exact ⟨induction true granted, fun free => induction false (refused free)⟩

/-- A single statement. -/
theorem Program.secures_statement
    {run : Input S O → Except E (α × Effect W)} {held : Bool}
    {post : α → Bool → S → List W → Prop} {s : S} {log : List W}
    (secured : ∀ s', regime.Shift held log s s' → ∀ (input : Input S O),
      input.view = applyAll s' log →
      ∀ answer effect, run input = .ok (answer, effect) →
        ∀ s'', regime.Shift held (log ++ effect.writes) s' s'' →
          post answer held s'' (log ++ effect.writes)) :
    (Program.statement run).secures regime held post s log :=
  fun s' shift input view answer effect accepted s'' further =>
    secured s' shift input view answer effect accepted s'' further

/-- A relation to the view survives a shift of the committed store. -/
theorem Rowwise.shifted {rel : (k : K) → V k → V k → Prop}
    (refl : ∀ k value, rel k value value) {log : List W} {s s' : S}
    (related : Rowwise rel s (applyAll s log)) (kept : LocksKept log s s') :
    Rowwise rel s' (applyAll s' log) := by
  intro k
  by_cases written : ∃ write ∈ log, k = key S write
  · obtain ⟨write, member, rfl⟩ := written
    have same := kept write member
    rw [get_applyAll_congr same log, same]
    exact related _
  · rw [get_applyAll_other (fun write member same =>
      written ⟨write, member, same⟩)]
    exact refl k _

/-- Steady code keeps the view related to the committed store. -/
theorem Program.Steady.secures {rel moves : (k : K) → V k → V k → Prop}
    (refl : ∀ k value, rel k value value)
    (extend : ∀ k {a b c}, rel k a b → moves k b c → rel k a c)
    {program : Program S O W E α} (steady : program.Steady (Rowwise moves))
    {held : Bool} {s : S} {log : List W}
    (related : Rowwise rel s (applyAll s log)) :
    program.secures regime held
      (fun _ _ s log => Rowwise rel s (applyAll s log)) s log := by
  induction program generalizing held s log with
  | done outcome =>
      cases outcome with
      | error problem => trivial
      | ok result => exact fun s' shift => related.shifted refl shift.locks
  | exec run next induction =>
      intro s' shift input view answer effect accepted
      obtain ⟨moved, later⟩ := steady input answer effect accepted
      apply induction answer later
      have before := related.shifted refl shift.locks
      intro k
      rw [applyAll_append]
      rw [view] at moved
      exact extend k (before k) (moved k)
  | tryLock next induction =>
      intro s' shift
      have before := related.shifted refl shift.locks
      exact ⟨induction true (steady true) before,
        fun _ => induction false (steady false) before⟩

/-- What the others leave alone while the lock is held. -/
theorem Program.secures_env {kept : S → Prop}
    (stable : ∀ {s s'}, regime.env true s s' → kept s → kept s')
    (program : Program S O W E α) {s : S} {log : List W} (here : kept s) :
    program.secures regime true (fun _ _ s _ => kept s) s log := by
  induction program generalizing s log with
  | done outcome =>
      cases outcome with
      | error problem => trivial
      | ok result => exact fun s' shift => stable shift.env here
  | exec run next induction =>
      intro s' shift input view answer effect accepted
      exact induction answer (stable shift.env here)
  | tryLock next induction =>
      intro s' shift
      exact ⟨induction true (stable shift.env here), fun free => nomatch free⟩

/-- The lock is kept until the end. -/
theorem Program.secures_held (program : Program S O W E α) {s : S}
    {log : List W} :
    program.secures regime true (fun _ held _ _ => held = true) s log := by
  induction program generalizing s log with
  | done outcome =>
      cases outcome with
      | error problem => trivial
      | ok result => exact fun _ _ => rfl
  | exec run next induction =>
      intro s' shift input view answer effect accepted
      exact induction answer
  | tryLock next induction =>
      intro s' shift
      exact ⟨induction true, fun free => nomatch free⟩

theorem Program.secures_and {program : Program S O W E α} {held : Bool}
    {first second : α → Bool → S → List W → Prop} {s : S} {log : List W}
    (left : program.secures regime held first s log)
    (right : program.secures regime held second s log) :
    program.secures regime held (fun result held s log =>
      first result held s log ∧ second result held s log) s log := by
  induction program generalizing held s log with
  | done outcome =>
      cases outcome with
      | error problem => trivial
      | ok result => exact fun s' shift => ⟨left s' shift, right s' shift⟩
  | exec run next induction =>
      intro s' shift input view answer effect accepted
      exact induction answer (left s' shift input view answer effect accepted)
        (right s' shift input view answer effect accepted)
  | tryLock next induction =>
      intro s' shift
      obtain ⟨granted, refused⟩ := left s' shift
      obtain ⟨alsoGranted, alsoRefused⟩ := right s' shift
      exact ⟨induction true granted alsoGranted,
        fun free => induction false (refused free) (alsoRefused free)⟩

theorem Program.secures_forall {ι : Sort*} {program : Program S O W E α}
    {held : Bool} {post : ι → α → Bool → S → List W → Prop} {s : S}
    {log : List W}
    (each : ∀ i, program.secures regime held (post i) s log) :
    program.secures regime held (fun result held s log =>
      ∀ i, post i result held s log) s log := by
  induction program generalizing held s log with
  | done outcome =>
      cases outcome with
      | error problem => trivial
      | ok result => exact fun s' shift i => each i s' shift
  | exec run next induction =>
      intro s' shift input view answer effect accepted
      exact induction answer
        (fun i => each i s' shift input view answer effect accepted)
  | tryLock next induction =>
      intro s' shift
      exact ⟨induction true (fun i => (each i s' shift).1),
        fun free => induction false (fun i => (each i s' shift).2 free)⟩

/-- Checking the result changes nothing. -/
theorem Program.secures_check {program : Program S O W E α}
    {answer : α → Except E β} {held : Bool}
    {post : β → Bool → S → List W → Prop} {s : S} {log : List W}
    (secured : program.secures regime held (fun result held s log =>
      ∀ value, answer result = .ok value → post value held s log) s log) :
    (program.bind (fun result => .done (answer result))).secures regime held
      post s log := by
  induction program generalizing held s log with
  | done outcome =>
      cases outcome with
      | error problem => trivial
      | ok result =>
          simp only [Program.bind]
          cases checked : answer result with
          | error problem => trivial
          | ok value => exact fun s' shift => secured s' shift value checked
  | exec run next induction =>
      intro s' shift input view result effect accepted
      exact induction result (secured s' shift input view result effect accepted)
  | tryLock next induction =>
      intro s' shift
      obtain ⟨granted, refused⟩ := secured s' shift
      exact ⟨induction true granted, fun free => induction false (refused free)⟩

/-- Computing an answer from the result changes nothing. -/
theorem Program.secures_map {program : Program S O W E α} {answer : α → β}
    {held : Bool} {post : β → Bool → S → List W → Prop} {s : S} {log : List W}
    (secured : program.secures regime held
      (fun result => post (answer result)) s log) :
    (program.bind (fun result => .done (.ok (answer result)))).secures regime
      held post s log := by
  refine Program.secures_check (Program.secures_mono ?_ secured)
  rintro result held s log established value ⟨⟩
  exact established

end Secures

/-! ## Clusters that remember how transactions began -/

/-- A cluster, and the code that each open transaction began with. -/
structure Traced (S O W E : Type) where
  cluster : Cluster S O W E
  origin : Nat → Option (Program S O W E Unit)

section Traced

variable {S W K O E : Type} {V : K → Type} [RowStore S W K V]

namespace Traced

def initial (s : S) : Traced S O W E where
  cluster := Cluster.initial s
  origin _ := none

/-- The code under each name after a step. -/
def originAfter (traced : Traced S O W E) (after : Cluster S O W E)
    (name : Nat) : Option (Program S O W E Unit) :=
  match traced.cluster.transactions name with
  | none => (after.transactions name).map Open.code
  | some _ => traced.origin name

inductive Step [RowLocks S] (Start : Program S O W E Unit → Prop) :
    Traced S O W E → Traced S O W E → Prop where
  | step {traced : Traced S O W E} {after : Cluster S O W E} :
      Cluster.Step Start traced.cluster after →
      Step Start traced ⟨after, traced.originAfter after⟩

abbrev Steps [RowLocks S] (Start : Program S O W E Unit → Prop) :
    Traced S O W E → Traced S O W E → Prop :=
  Relation.ReflTransGen (Step Start)

/-- The transaction that began with this code commits these writes. -/
def Commits (code : Program S O W E Unit) (held : Bool) (log : List W)
    (before : Traced S O W E) (after : Cluster S O W E) : Prop :=
  ∃ name, before.origin name = some code ∧
    held = decide (before.cluster.holder = some name) ∧
    Cluster.Commits name log before.cluster after

end Traced

variable {regime : Regime S}
  {Post : Program S O W E Unit → Bool → S → List W → Prop}

/-- What is asked of a regime: the programs secure their postcondition, and a
commit with that postcondition keeps the invariant and is one of the moves that
the others are prepared for. -/
structure Regime.Sound (regime : Regime S)
    (Start : Program S O W E Unit → Prop)
    (Post : Program S O W E Unit → Bool → S → List W → Prop) : Prop where
  start : ∀ code, Start code → ∀ s, regime.Inv s →
    code.secures regime false (fun _ => Post code) s []
  keeps : ∀ code, Start code → ∀ held s log, regime.Inv s →
    Post code held s log → regime.Inv (applyAll s log)
  moves : ∀ code, Start code → ∀ held s log, regime.Inv s →
    Post code held s log → regime.env false s (applyAll s log) ∧
      (held = false → regime.env true s (applyAll s log))

/-- Every open transaction is on its way to its postcondition. -/
structure Traced.Secured (regime : Regime S)
    (Start : Program S O W E Unit → Prop)
    (Post : Program S O W E Unit → Bool → S → List W → Prop)
    (traced : Traced S O W E) : Prop where
  disjoint : traced.cluster.LogsDisjoint
  invariant : regime.Inv traced.cluster.committed
  held : ∀ name, traced.cluster.holder = some name →
    ∃ opened, traced.cluster.transactions name = some opened
  opened : ∀ name opened, traced.cluster.transactions name = some opened →
    ∃ code, traced.origin name = some code ∧ Start code ∧
      opened.code.secures regime (decide (traced.cluster.holder = some name))
        (fun _ => Post code) traced.cluster.committed opened.log

variable {Start : Program S O W E Unit → Prop}

theorem Traced.secured_initial {s : S} (invariant : regime.Inv s) :
    (Traced.initial s : Traced S O W E).Secured regime Start Post where
  disjoint := by
    intro left right leftOpen rightOpen different leftFound
    simp [Traced.initial, Cluster.initial] at leftFound
  invariant := invariant
  held := by
    intro name holding
    simp [Traced.initial, Cluster.initial] at holding
  opened := by
    intro name opened found
    simp [Traced.initial, Cluster.initial] at found

/-- Whether a transaction holds the lock does not depend on another's end. -/
theorem Cluster.decide_release {cluster : Cluster S O W E} {name other : Nat}
    (different : other ≠ name) :
    decide (cluster.release name = some other) =
      decide (cluster.holder = some other) := by
  by_cases holding : cluster.holder = some other
  · have released := (Cluster.release_of_ne different).mpr holding
    simp [holding, released]
  · have released : cluster.release name ≠ some other := fun same =>
      holding ((Cluster.release_of_ne different).mp same)
    simp [holding, released]

/-- An open transaction keeps the code it is known to have begun with. -/
theorem Traced.originAfter_open {traced : Traced S O W E}
    {after : Cluster S O W E} {name : Nat} {opened : Open S O W E}
    (found : traced.cluster.transactions name = some opened) :
    traced.originAfter after name = traced.origin name := by
  simp [Traced.originAfter, found]

/-- What a commit has established. -/
theorem Traced.Secured.commit {before : Traced S O W E}
    {after : Cluster S O W E} {code : Program S O W E Unit} {held : Bool}
    {log : List W} (secured : before.Secured regime Start Post)
    (commits : Traced.Commits code held log before after) :
    Start code ∧ Post code held before.cluster.committed log := by
  obtain ⟨name, origin, rfl, found, _⟩ := commits
  obtain ⟨begun, known, start, done⟩ := secured.opened name _ found
  rw [origin] at known
  cases known
  exact ⟨start, done _ (regime.shift_refl secured.invariant)⟩

/-- A transaction that ends without a commit. -/
theorem Traced.Secured.held_after {traced : Traced S O W E}
    (secured : traced.Secured regime Start Post) {name other : Nat}
    (holding : traced.cluster.release name = some other) :
    other ≠ name ∧
      ∃ opened, traced.cluster.transactions other = some opened := by
  have different : other ≠ name := by
    rintro rfl
    exact traced.cluster.release_self other holding
  exact ⟨different,
    secured.held other ((Cluster.release_of_ne different).mp holding)⟩

theorem Traced.Secured.begin {traced : Traced S O W E} {name : Nat}
    {code : Program S O W E Unit} (sound : regime.Sound Start Post)
    (secured : traced.Secured regime Start Post)
    (nextDisjoint : (traced.cluster.set name (some ⟨code, []⟩)).LogsDisjoint)
    (fresh : traced.cluster.transactions name = none) (start : Start code) :
    Traced.Secured regime Start Post ⟨traced.cluster.set name (some ⟨code, []⟩),
      traced.originAfter (traced.cluster.set name (some ⟨code, []⟩))⟩ := by
  have free : traced.cluster.holder ≠ some name := by
    intro holding
    obtain ⟨opened, found⟩ := secured.held name holding
    rw [fresh] at found
    cases found
  refine ⟨nextDisjoint, secured.invariant, ?_, ?_⟩
  · intro other holding
    have different : other ≠ name := by
      rintro rfl
      exact free holding
    obtain ⟨opened, found⟩ := secured.held other holding
    exact ⟨opened, by rwa [Cluster.set_transactions_other _ different]⟩
  · intro other opened found
    rcases Cluster.transactions_set_cases found with ⟨rfl, ⟨⟩⟩ | ⟨_, old⟩
    · refine ⟨code, by simp [Traced.originAfter, fresh], start, ?_⟩
      have waits : decide (traced.cluster.holder = some other) = false := by
        simpa using free
      show code.secures regime (decide (traced.cluster.holder = some other)) _
        traced.cluster.committed []
      rw [waits]
      exact sound.start code start _ secured.invariant
    · obtain ⟨begun, known, rest⟩ := secured.opened other opened old
      exact ⟨begun, (Traced.originAfter_open old).trans known, rest⟩

theorem Traced.Secured.exec {traced : Traced S O W E} {name : Nat} {β : Type}
    {run : Input S O → Except E (β × Effect W)}
    {next : β → Program S O W E Unit} {log : List W} {order : O} {answer : β}
    {effect : Effect W} {sequence : Nat} {after : Cluster S O W E}
    (secured : traced.Secured regime Start Post)
    (found : traced.cluster.transactions name = some ⟨.exec run next, log⟩)
    (accepted : run ⟨applyAll traced.cluster.committed log,
      traced.cluster.sequence, order⟩ = .ok (answer, effect))
    (same : after = { traced.cluster with sequence := sequence }.set name
      (some ⟨next answer, log ++ effect.writes⟩))
    (nextDisjoint : after.LogsDisjoint) :
    Traced.Secured regime Start Post ⟨after, traced.originAfter after⟩ := by
  subst same
  refine ⟨nextDisjoint, secured.invariant, ?_, ?_⟩
  · intro other holding
    by_cases mine : other = name
    · subst mine
      exact ⟨_, Cluster.set_transactions_self _ _ _⟩
    · obtain ⟨opened, old⟩ := secured.held other holding
      exact ⟨opened, by rwa [Cluster.set_transactions_other _ mine]⟩
  · intro other opened otherFound
    rcases Cluster.transactions_set_cases otherFound with ⟨rfl, ⟨⟩⟩ | ⟨_, old⟩
    · obtain ⟨begun, known, start, later⟩ := secured.opened other _ found
      exact ⟨begun, (Traced.originAfter_open found).trans known, start,
        later _ (regime.shift_refl secured.invariant) _ rfl answer effect
          accepted⟩
    · obtain ⟨begun, known, rest⟩ := secured.opened other opened old
      exact ⟨begun, (Traced.originAfter_open old).trans known, rest⟩

theorem Traced.Secured.lock {traced : Traced S O W E} {name : Nat}
    {next : Bool → Program S O W E Unit} {log : List W}
    {after : Cluster S O W E} (secured : traced.Secured regime Start Post)
    (found : traced.cluster.transactions name = some ⟨.tryLock next, log⟩)
    (granted : ∀ other, traced.cluster.holder = some other → other = name)
    (same : after = { traced.cluster with holder := some name }.set name
      (some ⟨next true, log⟩))
    (nextDisjoint : after.LogsDisjoint) :
    Traced.Secured regime Start Post ⟨after, traced.originAfter after⟩ := by
  subst same
  refine ⟨nextDisjoint, secured.invariant, ?_, ?_⟩
  · rintro other ⟨⟩
    exact ⟨_, Cluster.set_transactions_self _ _ _⟩
  · intro other opened otherFound
    rcases Cluster.transactions_set_cases otherFound with
      ⟨rfl, ⟨⟩⟩ | ⟨different, old⟩
    · obtain ⟨begun, known, start, later⟩ := secured.opened other _ found
      refine ⟨begun, (Traced.originAfter_open found).trans known, start, ?_⟩
      have holds : decide
          (({ traced.cluster with holder := some other }.set other
            (some (⟨next true, log⟩ : Open S O W E))).holder = some other) =
          true := by
        simp
      rw [holds]
      exact (later _ (regime.shift_refl secured.invariant)).1
    · obtain ⟨begun, known, start, rest⟩ := secured.opened other opened old
      refine ⟨begun, (Traced.originAfter_open old).trans known, start, ?_⟩
      have before : decide (traced.cluster.holder = some other) = false := by
        simp only [decide_eq_false_iff_not]
        exact fun holding => different (granted other holding)
      have now : decide
          (({ traced.cluster with holder := some name }.set name
            (some (⟨next true, log⟩ : Open S O W E))).holder = some other) =
          false := by
        simp [different.symm]
      rw [now]
      rwa [before] at rest

theorem Traced.Secured.busy {traced : Traced S O W E} {name holder : Nat}
    {next : Bool → Program S O W E Unit} {log : List W}
    {after : Cluster S O W E} (secured : traced.Secured regime Start Post)
    (found : traced.cluster.transactions name = some ⟨.tryLock next, log⟩)
    (holding : traced.cluster.holder = some holder) (different : holder ≠ name)
    (same : after = traced.cluster.set name (some ⟨next false, log⟩))
    (nextDisjoint : after.LogsDisjoint) :
    Traced.Secured regime Start Post ⟨after, traced.originAfter after⟩ := by
  subst same
  have waits : decide (traced.cluster.holder = some name) = false := by
    simp [holding, different]
  refine ⟨nextDisjoint, secured.invariant, ?_, ?_⟩
  · intro other held
    by_cases mine : other = name
    · subst mine
      exact ⟨_, Cluster.set_transactions_self _ _ _⟩
    · obtain ⟨opened, old⟩ := secured.held other held
      exact ⟨opened, by rwa [Cluster.set_transactions_other _ mine]⟩
  · intro other opened otherFound
    rcases Cluster.transactions_set_cases otherFound with ⟨rfl, ⟨⟩⟩ | ⟨_, old⟩
    · obtain ⟨begun, known, start, later⟩ := secured.opened other _ found
      refine ⟨begun, (Traced.originAfter_open found).trans known, start, ?_⟩
      rw [waits] at later
      show (next false).secures regime
        (decide (traced.cluster.holder = some other)) _ _ _
      rw [waits]
      exact (later _ (regime.shift_refl secured.invariant)).2 rfl
    · obtain ⟨begun, known, rest⟩ := secured.opened other opened old
      exact ⟨begun, (Traced.originAfter_open old).trans known, rest⟩

theorem Traced.Secured.commits {traced : Traced S O W E} {name : Nat}
    {log : List W} {after : Cluster S O W E} (sound : regime.Sound Start Post)
    (secured : traced.Secured regime Start Post)
    (commits : Cluster.Commits name log traced.cluster after)
    (nextDisjoint : after.LogsDisjoint) :
    Traced.Secured regime Start Post ⟨after, traced.originAfter after⟩ := by
  obtain ⟨found, rfl⟩ := commits
  obtain ⟨code, known, start, done⟩ := secured.opened name _ found
  have established := done _ (regime.shift_refl secured.invariant)
  have invariant :=
    sound.keeps code start _ _ _ secured.invariant established
  have moves := sound.moves code start _ _ _ secured.invariant established
  refine ⟨nextDisjoint, invariant, ?_, ?_⟩
  · intro other holding
    obtain ⟨different, opened, old⟩ := secured.held_after holding
    exact ⟨opened, by rwa [Cluster.set_transactions_other _ different]⟩
  · intro other opened otherFound
    rcases Cluster.transactions_set_cases otherFound with
      ⟨_, ⟨⟩⟩ | ⟨different, old⟩
    obtain ⟨begun, origin, begins, rest⟩ := secured.opened other opened old
    refine ⟨begun, (Traced.originAfter_open old).trans origin, begins, ?_⟩
    show opened.code.secures regime
      (decide (traced.cluster.release name = some other)) _ _ _
    rw [Cluster.decide_release different]
    have locks : LocksKept opened.log traced.cluster.committed
        (applyAll traced.cluster.committed log) := by
      intro write member
      exact get_applyAll_other (fun mine mineMember same =>
        secured.disjoint other name opened _ different old found write member
          mine mineMember same) _
    refine Program.secures_stable rest ⟨?_, locks, invariant⟩
    by_cases holding : traced.cluster.holder = some other
    · have free : decide (traced.cluster.holder = some name) = false := by
        simp [holding, different]
      rw [decide_eq_true holding]
      exact moves.2 free
    · rw [decide_eq_false holding]
      exact moves.1

theorem Traced.Secured.abort {traced : Traced S O W E} {name : Nat}
    {after : Cluster S O W E} (secured : traced.Secured regime Start Post)
    (same : after = { traced.cluster with
      holder := traced.cluster.release name }.set name none)
    (nextDisjoint : after.LogsDisjoint) :
    Traced.Secured regime Start Post ⟨after, traced.originAfter after⟩ := by
  subst same
  refine ⟨nextDisjoint, secured.invariant, ?_, ?_⟩
  · intro other holding
    obtain ⟨different, opened, old⟩ := secured.held_after holding
    exact ⟨opened, by rwa [Cluster.set_transactions_other _ different]⟩
  · intro other opened otherFound
    rcases Cluster.transactions_set_cases otherFound with
      ⟨_, ⟨⟩⟩ | ⟨different, old⟩
    obtain ⟨begun, origin, begins, rest⟩ := secured.opened other opened old
    refine ⟨begun, (Traced.originAfter_open old).trans origin, begins, ?_⟩
    show opened.code.secures regime
      (decide (traced.cluster.release name = some other)) _ _ _
    rw [Cluster.decide_release different]
    exact rest

theorem Traced.Step.secured [RowLocks S] {before after : Traced S O W E}
    (sound : regime.Sound Start Post) (step : Traced.Step Start before after)
    (secured : before.Secured regime Start Post) :
    after.Secured regime Start Post := by
  obtain ⟨step⟩ := step
  have nextDisjoint := step.logsDisjoint secured.disjoint
  cases step with
  | begin name fresh start =>
      exact secured.begin sound nextDisjoint fresh start
  | exec name order found accepted _ =>
      exact secured.exec found accepted rfl nextDisjoint
  | lock name found granted =>
      exact secured.lock found granted rfl nextDisjoint
  | busy name holder found holding different =>
      exact secured.busy found holding different rfl nextDisjoint
  | commit name found =>
      exact secured.commits sound ⟨found, rfl⟩ nextDisjoint
  | abort name found =>
      exact secured.abort rfl nextDisjoint

/-- In every interleaving every open transaction is on its way to its
postcondition, and by `Traced.Secured.commit` every commit has reached it. -/
theorem Traced.secured [RowLocks S] {before after : Traced S O W E}
    (sound : regime.Sound Start Post) (steps : Traced.Steps Start before after)
    (secured : before.Secured regime Start Post) :
    after.Secured regime Start Post := by
  induction steps with
  | refl => exact secured
  | tail _ step induction => exact step.secured sound induction

/-- Every run of the cluster is one that remembers. -/
theorem Traced.of_steps [RowLocks S] {s : S} {last : Cluster S O W E}
    (steps : Cluster.Steps Start (Cluster.initial s) last) :
    ∃ origin, Traced.Steps Start (Traced.initial s) ⟨last, origin⟩ := by
  induction steps with
  | refl => exact ⟨_, .refl⟩
  | tail _ step induction =>
      obtain ⟨origin, steps⟩ := induction
      exact ⟨_, steps.tail (@Traced.Step.step _ _ _ _ _ _ _ _ _
        ⟨_, origin⟩ _ step)⟩

/-- What is remembered does not matter to the cluster. -/
theorem Traced.cluster_steps [RowLocks S] {first last : Traced S O W E}
    (steps : Traced.Steps Start first last) :
    Cluster.Steps Start first.cluster last.cluster := by
  induction steps with
  | refl => exact .refl
  | tail _ step induction =>
      obtain ⟨step⟩ := step
      exact induction.tail step

/-- A commit is a step. -/
theorem Traced.Commits.step [RowLocks S] {code : Program S O W E Unit}
    {held : Bool} {log : List W} {before : Traced S O W E}
    {after : Cluster S O W E} (commits : Traced.Commits code held log before after) :
    Cluster.Step Start before.cluster after := by
  obtain ⟨name, _, _, found, rfl⟩ := commits
  exact .commit name found

/-- A run alone establishes the postcondition too. -/
theorem Program.Runs.secured {α : Type} {code : Program S O W E α}
    {post : α → Bool → S → List W → Prop} {s view final : S} {log : List W}
    {held : Bool} {sequence last : Nat} {outcome : Except E α} {result : α}
    (run : code.Runs view sequence outcome final last)
    (success : outcome = .ok result) (same : view = applyAll s log)
    (invariant : regime.Inv s)
    (secured : code.secures regime held post s log) :
    ∃ held log, final = applyAll s log ∧ post result held s log := by
  have shift := fun held log => @Regime.shift_refl S W K V _ regime held log s
    invariant
  induction run generalizing held log with
  | done outcome view sequence =>
      subst success
      exact ⟨held, log, same, secured s (shift held log)⟩
  | exec order accepted _ induction =>
      subst same
      exact induction success (applyAll_append _ _ _).symm
        (secured s (shift held log) _ rfl _ _ accepted)
  | fails => cases success
  | tryLock _ induction =>
      exact induction success same (secured s (shift held log)).1

/-- A transaction that runs alone. -/
theorem Regime.Sound.runs (sound : regime.Sound Start Post)
    {code : Program S O W E Unit} (start : Start code) {s final : S}
    {sequence last : Nat} (invariant : regime.Inv s)
    (run : code.Runs s sequence (.ok ()) final last) :
    regime.Inv final ∧
      ∃ held log, final = applyAll s log ∧ Post code held s log := by
  obtain ⟨held, log, reached, established⟩ :=
    run.secured rfl rfl invariant (sound.start code start s invariant)
  refine ⟨?_, held, log, reached, established⟩
  rw [reached]
  exact sound.keeps code start held s log invariant established

end Traced

end Transactional
