import Mathlib.Logic.Relation
import Mathlib.Tactic.Common

/-!
# Transaction programs over a keyed store

A transaction is a program of statements.  Each statement runs atomically on
the transaction's current view of the store and answers with a result and the
keyed writes it made; the program then continues with the result.  `wp` is the
weakest precondition of a program whose view may change between any two of its
statements along an environment relation, `Runs` is its run alone.
-/

namespace Transactional

/-- A store that holds one value at each row key and is changed by writes that
act on the value at a single key. -/
class RowStore (S : Type) (W K : outParam Type) (V : outParam (K → Type)) where
  get : S → (k : K) → V k
  key : W → K
  act : (write : W) → V (key write) → V (key write)
  apply : S → W → S
  get_apply_self : ∀ (s : S) (write : W),
    get (apply s write) (key write) = act write (get s (key write))
  get_apply_other : ∀ (s : S) (write : W) (k : K), k ≠ key write →
    get (apply s write) k = get s k

section Writes

variable {S W K : Type} {V : K → Type} [RowStore S W K V]

open RowStore

/-- A redo log, applied from its oldest write on. -/
def applyAll (s : S) (log : List W) : S :=
  log.foldl apply s

@[simp] theorem applyAll_nil (s : S) : applyAll s ([] : List W) = s := rfl

@[simp] theorem applyAll_cons (s : S) (write : W) (log : List W) :
    applyAll s (write :: log) = applyAll (apply s write) log := rfl

theorem applyAll_append (s : S) (first second : List W) :
    applyAll s (first ++ second) = applyAll (applyAll s first) second := by
  simp [applyAll, List.foldl_append]

/-- A log leaves the keys it does not write alone. -/
theorem get_applyAll_other {log : List W} {k : K}
    (untouched : ∀ write ∈ log, k ≠ key S write) (s : S) :
    get (applyAll s log) k = get s k := by
  induction log generalizing s with
  | nil => rfl
  | cons write log induction =>
      rw [applyAll_cons, induction (fun other member =>
        untouched other (List.mem_cons_of_mem _ member))]
      exact get_apply_other s write k (untouched write List.mem_cons_self)

/-- What a log leaves at a key depends only on what was there before. -/
theorem get_applyAll_congr {left right : S} {k : K}
    (same : get left k = get right k) (log : List W) :
    get (applyAll left log) k = get (applyAll right log) k := by
  induction log generalizing left right with
  | nil => exact same
  | cons write log induction =>
      rw [applyAll_cons, applyAll_cons]
      apply induction
      by_cases atKey : k = key S write
      · subst atKey
        rw [get_apply_self, get_apply_self, same]
      · rw [get_apply_other _ _ _ atKey, get_apply_other _ _ _ atKey, same]

/-- A log with distinct keys acts once on each of them. -/
theorem get_applyAll_mem {log : List W}
    (distinct : (log.map (key S)).Nodup) {write : W} (member : write ∈ log)
    (s : S) :
    get (applyAll s log) (key S write) = act write (get s (key S write)) := by
  induction log generalizing s with
  | nil => cases member
  | cons head tail induction =>
      simp only [List.map_cons, List.nodup_cons, List.mem_map] at distinct
      rw [applyAll_cons]
      rcases List.mem_cons.mp member with rfl | inTail
      · rw [get_applyAll_other (fun other otherMember same =>
          distinct.1 ⟨other, otherMember, same.symm⟩), get_apply_self]
      · have different : key S write ≠ key S head :=
          fun same => distinct.1 ⟨write, inTail, same⟩
        rw [induction distinct.2 inTail, get_apply_other _ _ _ different]

/-- `Rowwise rel s s'`: at every key the value of `s'` is related to the value
of `s`. -/
def Rowwise (rel : (k : K) → V k → V k → Prop) (s s' : S) : Prop :=
  ∀ k, rel k (get s k) (get s' k)

/-- Writes at distinct keys, each of them related to the value it replaces,
are related as a whole. -/
theorem rowwise_applyAll {rel : (k : K) → V k → V k → Prop}
    (refl : ∀ k value, rel k value value) {s : S} {log : List W}
    (distinct : (log.map (key S)).Nodup)
    (each : ∀ write ∈ log,
      rel (key S write) (get s (key S write)) (act write (get s (key S write)))) :
    Rowwise rel s (applyAll s log) := by
  induction log generalizing s with
  | nil =>
      intro k
      exact refl k _
  | cons write log induction =>
      simp only [List.map_cons, List.nodup_cons, List.mem_map] at distinct
      have headOther : ∀ other ∈ log, key S other ≠ key S write :=
        fun other member equality => distinct.1 ⟨other, member, equality⟩
      have tail : Rowwise rel (apply s write) (applyAll (apply s write) log) := by
        apply induction distinct.2
        intro other member
        rw [get_apply_other s write _ (headOther other member)]
        exact each other (List.mem_cons_of_mem _ member)
      intro k
      rw [applyAll_cons]
      by_cases atHead : k = key S write
      · subst atHead
        rw [get_applyAll_other (fun other member =>
          (headOther other member).symm), get_apply_self]
        exact each write List.mem_cons_self
      · have related := tail k
        rwa [get_apply_other s write k atHead] at related

end Writes

/-- What a statement sees: the view of its transaction, the identity sequence
of the store, and the order in which it happens to visit rows. -/
structure Input (S O : Type) where
  view : S
  sequence : Nat
  order : O

/-- What an accepted statement did besides answering. -/
structure Effect (W : Type) where
  writes : List W
  draws : Nat

/-- A transaction's remaining code.  `tryLock` asks for the one advisory lock
that its holder keeps until the transaction ends. -/
inductive Program (S O W E α : Type) : Type 1 where
  | done (outcome : Except E α) : Program S O W E α
  | exec {β : Type}
      (statement : Input S O → Except E (β × Effect W))
      (next : β → Program S O W E α) : Program S O W E α
  | tryLock (next : Bool → Program S O W E α) : Program S O W E α

namespace Program

variable {S O W E α β γ : Type}

def bind : Program S O W E α → (α → Program S O W E β) → Program S O W E β
  | .done (.ok result), next => next result
  | .done (.error problem), _ => .done (.error problem)
  | .exec statement rest, next =>
      .exec statement (fun answer => (rest answer).bind next)
  | .tryLock rest, next => .tryLock (fun granted => (rest granted).bind next)

instance : Monad (Program S O W E) where
  pure result := .done (.ok result)
  bind := Program.bind

@[simp] theorem pure_eq (result : α) :
    (pure result : Program S O W E α) = .done (.ok result) := rfl

@[simp] theorem bind_eq (program : Program S O W E α)
    (next : α → Program S O W E β) :
    (program >>= next) = program.bind next := rfl

/-- A program that is one statement. -/
def statement (run : Input S O → Except E (α × Effect W)) :
    Program S O W E α :=
  .exec run (fun answer => .done (.ok answer))

end Program

section Logic

variable {S W K O E α : Type} {V : K → Type} [RowStore S W K V]

/-- Weakest precondition when the view may move along `env` before each
statement and before the end. -/
def Program.wp (env : S → S → Prop) :
    Program S O W E α → (α → S → Prop) → S → Prop
  | .done (.ok result), post, s => ∀ s', env s s' → post result s'
  | .done (.error _), _, _ => True
  | .exec run next, post, s =>
      ∀ s', env s s' → ∀ (input : Input S O), input.view = s' →
        ∀ answer effect, run input = .ok (answer, effect) →
          (next answer).wp env post (applyAll s' effect.writes)
  | .tryLock next, post, s => ∀ s', env s s' → (next true).wp env post s'

variable {env : S → S → Prop}

theorem Program.wp_mono {program : Program S O W E α}
    {post weaker : α → S → Prop}
    (implies : ∀ result s, post result s → weaker result s)
    {s : S} (held : program.wp env post s) : program.wp env weaker s := by
  induction program generalizing s with
  | done outcome =>
      cases outcome with
      | error problem => trivial
      | ok result => exact fun s' moved => implies result s' (held s' moved)
  | exec run next induction =>
      intro s' moved input view answer effect accepted
      exact induction answer (held s' moved input view answer effect accepted)
  | tryLock next induction =>
      intro s' moved
      exact induction true (held s' moved)

/-- Less interference, weaker demands. -/
theorem Program.wp_env_mono {wider : S → S → Prop}
    (implies : ∀ {s s'}, env s s' → wider s s')
    {program : Program S O W E α} {post : α → S → Prop} {s : S}
    (held : program.wp wider post s) : program.wp env post s := by
  induction program generalizing s with
  | done outcome =>
      cases outcome with
      | error problem => trivial
      | ok result => exact fun s' moved => held s' (implies moved)
  | exec run next induction =>
      intro s' moved input view answer effect accepted
      exact induction answer
        (held s' (implies moved) input view answer effect accepted)
  | tryLock next induction =>
      intro s' moved
      exact induction true (held s' (implies moved))

/-- A weakest precondition survives what the environment does. -/
theorem Program.wp_stable (trans : ∀ {a b c}, env a b → env b c → env a c)
    {program : Program S O W E α} {post : α → S → Prop} {s s' : S}
    (held : program.wp env post s) (moved : env s s') :
    program.wp env post s' := by
  cases program with
  | done outcome =>
      cases outcome with
      | error problem => trivial
      | ok result => exact fun s'' further => held s'' (trans moved further)
  | exec run next => exact fun s'' further => held s'' (trans moved further)
  | tryLock next => exact fun s'' further => held s'' (trans moved further)

theorem Program.wp_bind {β : Type} (refl : ∀ s, env s s)
    {program : Program S O W E α} {next : α → Program S O W E β}
    {post : β → S → Prop} {s : S}
    (held : program.wp env (fun result s' => (next result).wp env post s') s) :
    (program.bind next).wp env post s := by
  induction program generalizing s with
  | done outcome =>
      cases outcome with
      | error problem => trivial
      | ok result => exact held s (refl s)
  | exec run rest induction =>
      intro s' moved input view answer effect accepted
      exact induction answer (held s' moved input view answer effect accepted)
  | tryLock rest induction =>
      intro s' moved
      exact induction true (held s' moved)

/-- The run of a program with nobody else at work, the lock being free. -/
inductive Program.Runs :
    Program S O W E α → S → Nat → Except E α → S → Nat → Prop where
  | done (outcome : Except E α) (s : S) (sequence : Nat) :
      Runs (.done outcome) s sequence outcome s sequence
  | exec {β : Type} {run : Input S O → Except E (β × Effect W)}
      {next : β → Program S O W E α} {s final : S} {sequence last : Nat}
      {outcome : Except E α} (order : O) {answer : β} {effect : Effect W} :
      run ⟨s, sequence, order⟩ = .ok (answer, effect) →
      Runs (next answer) (applyAll s effect.writes) (sequence + effect.draws)
        outcome final last →
      Runs (.exec run next) s sequence outcome final last
  | fails {β : Type} {run : Input S O → Except E (β × Effect W)}
      {next : β → Program S O W E α} {s : S} {sequence : Nat}
      (order : O) {problem : E} :
      run ⟨s, sequence, order⟩ = .error problem →
      Runs (.exec run next) s sequence (.error problem) s sequence
  | tryLock {next : Bool → Program S O W E α} {s final : S}
      {sequence last : Nat} {outcome : Except E α} :
      Runs (next true) s sequence outcome final last →
      Runs (.tryLock next) s sequence outcome final last

/-- A run alone ends in the postcondition. -/
theorem Program.Runs.post {program : Program S O W E α} {s final : S}
    {sequence last : Nat} {outcome : Except E α}
    (run : program.Runs s sequence outcome final last)
    (refl : ∀ s, env s s) {post : α → S → Prop}
    (held : program.wp env post s) {result : α} (success : outcome = .ok result) :
    post result final := by
  induction run with
  | done outcome s sequence =>
      subst success
      exact held s (refl s)
  | exec order accepted _ induction =>
      exact induction (held _ (refl _) ⟨_, _, order⟩ rfl _ _ accepted) success
  | fails => cases success
  | tryLock _ induction => exact induction (held _ (refl _)) success

/-- The run of a sequence of two programs. -/
theorem Program.Runs.bind {β : Type} {program : Program S O W E α}
    {next : α → Program S O W E β} {s middle final : S}
    {sequence between last : Nat} {result : α} {outcome : Except E β}
    (first : program.Runs s sequence (.ok result) middle between)
    (second : (next result).Runs middle between outcome final last) :
    (program.bind next).Runs s sequence outcome final last := by
  generalize success : (Except.ok result : Except E α) = firstOutcome at first
  induction first with
  | done outcome s sequence =>
      subst success
      exact second
  | exec order accepted _ induction =>
      exact .exec order accepted (induction second success)
  | fails => cases success
  | tryLock _ induction => exact .tryLock (induction second success)

/-- A run of a sequence that succeeds is a run of its two parts. -/
theorem Program.Runs.of_bind {β : Type} {program : Program S O W E α}
    {next : α → Program S O W E β} {s final : S} {sequence last : Nat}
    {outcome : β}
    (run : (program.bind next).Runs s sequence (.ok outcome) final last) :
    ∃ result middle between,
      program.Runs s sequence (.ok result) middle between ∧
        (next result).Runs middle between (.ok outcome) final last := by
  induction program generalizing s sequence with
  | done first =>
      cases first with
      | error problem => cases run
      | ok result => exact ⟨result, s, sequence, .done _ _ _, run⟩
  | exec statement rest induction =>
      cases run with
      | exec order accepted later =>
          obtain ⟨result, middle, between, first, second⟩ := induction _ later
          exact ⟨result, middle, between, .exec order accepted first, second⟩
  | tryLock rest induction =>
      cases run with
      | tryLock later =>
          obtain ⟨result, middle, between, first, second⟩ := induction _ later
          exact ⟨result, middle, between, .tryLock first, second⟩

theorem Program.Runs.of_statement {run : Input S O → Except E (α × Effect W)}
    {s final : S} {sequence last : Nat} {answer : α}
    (runs : (Program.statement run).Runs s sequence (.ok answer) final last) :
    ∃ order effect, run ⟨s, sequence, order⟩ = .ok (answer, effect) ∧
      final = applyAll s effect.writes ∧ last = sequence + effect.draws := by
  cases runs with
  | exec order accepted later =>
      cases later
      exact ⟨order, _, accepted, rfl, rfl⟩

theorem Program.Runs.statement {run : Input S O → Except E (α × Effect W)}
    {s : S} {sequence : Nat} {answer : α} {effect : Effect W} (order : O)
    (accepted : run ⟨s, sequence, order⟩ = .ok (answer, effect)) :
    (Program.statement run).Runs s sequence (.ok answer)
      (applyAll s effect.writes) (sequence + effect.draws) :=
  .exec order accepted (.done _ _ _)

/-- Every run of the left program that succeeds is one of the right. -/
def Program.Refines (left right : Program S O W E α) : Prop :=
  ∀ s sequence result final last,
    left.Runs s sequence (.ok result) final last →
    right.Runs s sequence (.ok result) final last

theorem Program.Refines.refl (program : Program S O W E α) :
    program.Refines program :=
  fun _ _ _ _ _ run => run

theorem Program.Refines.bind {β : Type} {left right : Program S O W E α}
    {leftNext rightNext : α → Program S O W E β} (first : left.Refines right)
    (second : ∀ result, (leftNext result).Refines (rightNext result)) :
    (left.bind leftNext).Refines (right.bind rightNext) := by
  intro s sequence outcome final last run
  obtain ⟨result, middle, between, firstRun, secondRun⟩ := run.of_bind
  exact (first _ _ _ _ _ firstRun).bind (second _ _ _ _ _ _ secondRun)

/-- Transactions one after the other; one that fails leaves no trace. -/
inductive SerialStep (Start : Program S O W E Unit → Prop) :
    S × Nat → S × Nat → Prop where
  | commit {code : Program S O W E Unit} {s final : S} {sequence last : Nat} :
      Start code →
      code.Runs s sequence (.ok ()) final last →
      SerialStep Start (s, sequence) (final, last)

/-- The run of a program alone, every statement with the same order of rows. -/
def Program.runAlone (order : O) :
    Program S O W E α → S → Nat → Except E α × S × Nat
  | .done outcome, s, sequence => (outcome, s, sequence)
  | .exec run next, s, sequence =>
      match run ⟨s, sequence, order⟩ with
      | .error problem => (.error problem, s, sequence)
      | .ok (answer, effect) =>
          (next answer).runAlone order (applyAll s effect.writes)
            (sequence + effect.draws)
  | .tryLock next, s, sequence => (next true).runAlone order s sequence

theorem Program.runs_runAlone (order : O) (program : Program S O W E α)
    (s : S) (sequence : Nat) :
    program.Runs s sequence (program.runAlone order s sequence).1
      (program.runAlone order s sequence).2.1
      (program.runAlone order s sequence).2.2 := by
  induction program generalizing s sequence with
  | done outcome => exact .done _ _ _
  | exec run next induction =>
      simp only [runAlone]
      split
      · rename_i problem failed
        exact .fails order failed
      · rename_i answer effect accepted
        exact .exec order accepted (induction answer _ _)
  | tryLock next induction => exact .tryLock (induction true s sequence)

/-- Transactions one after the other, if all of them commit. -/
def playAll (order : O) :
    List (Program S O W E Unit) → S × Nat → Option (S × Nat)
  | [], state => some state
  | code :: rest, state =>
      match code.runAlone order state.1 state.2 with
      | (.error _, _) => none
      | (.ok (), after) => playAll order rest after

theorem playAll_append (order : O) (first second : List (Program S O W E Unit))
    (state : S × Nat) :
    playAll order (first ++ second) state =
      (playAll order first state).bind (playAll order second) := by
  induction first generalizing state with
  | nil => rfl
  | cons code rest induction =>
      simp only [List.cons_append, playAll]
      split
      · rfl
      · exact induction _

theorem runs_of_playAll {order : O} {code : Program S O W E Unit}
    {state final : S × Nat} (played : playAll order [code] state = some final) :
    code.Runs state.1 state.2 (.ok ()) final.1 final.2 := by
  rw [playAll] at played
  split at played
  · cases played
  · rename_i after alone
    have run := Program.runs_runAlone order code state.1 state.2
    rw [alone] at run
    cases played
    exact run

/-- What is played is a serial run. -/
theorem serial_of_playAll {Start : Program S O W E Unit → Prop} {order : O}
    {codes : List (Program S O W E Unit)} {state final : S × Nat}
    (start : ∀ code ∈ codes, Start code)
    (played : playAll order codes state = some final) :
    Relation.ReflTransGen (SerialStep Start) state final := by
  induction codes generalizing state with
  | nil =>
      cases played
      exact .refl
  | cons code rest induction =>
      rw [playAll] at played
      split at played
      · cases played
      · rename_i after alone
        have run := Program.runs_runAlone order code state.1 state.2
        rw [alone] at run
        exact Relation.ReflTransGen.head
          (.commit (start code List.mem_cons_self) run)
          (induction (fun other member =>
            start other (List.mem_cons_of_mem _ member)) played)

end Logic

end Transactional
