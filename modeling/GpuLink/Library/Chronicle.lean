import GpuLink.Library.Regime

/-!
# Everything that a run has written

A store keeps the last value of each row; what was written on the way is lost.
A recorded run keeps the writes of all commits, oldest first.  Some of them are
reports: each is about a subject and draws its number from the sequence of the
store.  When whoever writes a report holds a row of the subject, the reports
about one subject are numbered in the order in which they are committed
(`Recorded.ordered`), although transactions overlap and the numbers of
different subjects do not have that order.
-/

namespace Transactional

/-! ## Effects of single statements -/

section Effects

variable {S W O E α β : Type}

/-- Every statement, whatever it sees, has an allowed effect. -/
def Program.Emits (allowed : Input S O → Effect W → Prop) :
    Program S O W E α → Prop
  | .done _ => True
  | .exec run next => ∀ input answer effect,
      run input = .ok (answer, effect) →
        allowed input effect ∧ (next answer).Emits allowed
  | .tryLock next => ∀ granted, (next granted).Emits allowed

variable {allowed wider : Input S O → Effect W → Prop}

theorem Program.Emits.bind {program : Program S O W E α}
    {next : α → Program S O W E β} (first : program.Emits allowed)
    (second : ∀ result, (next result).Emits allowed) :
    (program.bind next).Emits allowed := by
  induction program with
  | done outcome =>
      cases outcome with
      | error problem => trivial
      | ok result => exact second result
  | exec run rest induction =>
      intro input answer effect accepted
      obtain ⟨here, later⟩ := first input answer effect accepted
      exact ⟨here, induction answer later⟩
  | tryLock rest induction =>
      intro granted
      exact induction granted (first granted)

theorem Program.Emits.mono
    (implies : ∀ input effect, allowed input effect → wider input effect)
    {program : Program S O W E α} (emits : program.Emits allowed) :
    program.Emits wider := by
  induction program with
  | done outcome => trivial
  | exec run next induction =>
      intro input answer effect accepted
      obtain ⟨here, later⟩ := emits input answer effect accepted
      exact ⟨implies input effect here, induction answer later⟩
  | tryLock next induction =>
      exact fun granted => induction granted (emits granted)

theorem Program.emits_statement
    {run : Input S O → Except E (α × Effect W)}
    (each : ∀ input answer effect, run input = .ok (answer, effect) →
      allowed input effect) :
    (Program.statement run).Emits allowed :=
  fun input answer effect accepted =>
    ⟨each input answer effect accepted, trivial⟩

/-- Whatever the statements see, the log has the property all the way, and at
the end the postcondition holds of it. -/
def Program.Logs (kept : List W → Prop) :
    Program S O W E α → (α → List W → Prop) → List W → Prop
  | .done (.ok result), post, log => kept log ∧ post result log
  | .done (.error _), _, log => kept log
  | .exec run next, post, log => kept log ∧
      ∀ input answer effect, run input = .ok (answer, effect) →
        (next answer).Logs kept post (log ++ effect.writes)
  | .tryLock next, post, log => kept log ∧
      ∀ granted, (next granted).Logs kept post log

variable {kept : List W → Prop}

theorem Program.Logs.here {program : Program S O W E α}
    {post : α → List W → Prop} {log : List W}
    (logs : program.Logs kept post log) : kept log := by
  cases program with
  | done outcome =>
      cases outcome with
      | error problem => exact logs
      | ok result => exact logs.1
  | exec run next => exact logs.1
  | tryLock next => exact logs.1

theorem Program.Logs.bind {program : Program S O W E α}
    {next : α → Program S O W E β} {post : β → List W → Prop} {log : List W}
    (logs : program.Logs kept
      (fun result log => (next result).Logs kept post log) log) :
    (program.bind next).Logs kept post log := by
  induction program generalizing log with
  | done outcome =>
      cases outcome with
      | error problem => exact logs
      | ok result => exact logs.2
  | exec run rest induction =>
      refine ⟨logs.1, ?_⟩
      intro input answer effect accepted
      exact induction answer (logs.2 input answer effect accepted)
  | tryLock rest induction =>
      exact ⟨logs.1, fun granted => induction granted (logs.2 granted)⟩

/-- A property of logs that no allowed effect ends. -/
theorem Program.Emits.logs
    (grows : ∀ input effect log, allowed input effect → kept log →
      kept (log ++ effect.writes))
    {program : Program S O W E α} (emits : program.Emits allowed)
    {log : List W} (here : kept log) :
    program.Logs kept (fun _ => kept) log := by
  induction program generalizing log with
  | done outcome =>
      cases outcome with
      | error problem => exact here
      | ok result => exact ⟨here, here⟩
  | exec run next induction =>
      refine ⟨here, ?_⟩
      intro input answer effect accepted
      obtain ⟨single, later⟩ := emits input answer effect accepted
      exact induction answer later (grows input effect log single here)
  | tryLock next induction =>
      exact ⟨here, fun granted => induction granted (emits granted) here⟩

theorem Program.Logs.mono {program : Program S O W E α}
    {kept less : List W → Prop} {post weaker : α → List W → Prop}
    (keeps : ∀ log, kept log → less log)
    (implies : ∀ result log, post result log → weaker result log)
    {log : List W} (logs : program.Logs kept post log) :
    program.Logs less weaker log := by
  induction program generalizing log with
  | done outcome =>
      cases outcome with
      | error problem => exact keeps log logs
      | ok result => exact ⟨keeps log logs.1, implies _ _ logs.2⟩
  | exec run next induction =>
      refine ⟨keeps log logs.1, ?_⟩
      intro input answer effect accepted
      exact induction answer (logs.2 input answer effect accepted)
  | tryLock next induction =>
      exact ⟨keeps log logs.1,
        fun granted => induction granted (logs.2 granted)⟩

end Effects

/-! ## Reports -/

/-- Which writes are reports: the subject of a report, its number, and the row
that whoever reports on the subject holds. -/
structure Reporting (W κ K : Type) where
  about : W → Option κ
  number : W → Nat
  guard : κ → K

namespace Reporting

variable {S W K O κ : Type} {V : K → Type}

section Logs

variable (reporting : Reporting W κ K)

/-- Of two reports about one subject the later one has the larger number. -/
def Ascending (log : List W) : Prop :=
  log.Pairwise (fun earlier later => ∀ subject,
    reporting.about earlier = some subject →
    reporting.about later = some subject →
    reporting.number earlier < reporting.number later)

/-- No report has a larger number. -/
def UpTo (sequence : Nat) (log : List W) : Prop :=
  ∀ write ∈ log, ∀ subject, reporting.about write = some subject →
    reporting.number write ≤ sequence

/-- A statement numbers its reports with what it draws. -/
def Numbered (input : Input S O) (effect : Effect W) : Prop :=
  reporting.Ascending effect.writes ∧
    reporting.UpTo (input.sequence + effect.draws) effect.writes ∧
    ∀ write ∈ effect.writes, ∀ subject, reporting.about write = some subject →
      input.sequence < reporting.number write

/-- Beside every report stands a write of the row that guards its subject. -/
def Guarded (S : Type) [RowStore S W K V] (log : List W) : Prop :=
  ∀ write ∈ log, ∀ subject, reporting.about write = some subject →
    ∃ lock ∈ log, RowStore.key S lock = reporting.guard subject

end Logs

variable {reporting : Reporting W κ K}

theorem ascending_nil : reporting.Ascending [] :=
  List.Pairwise.nil

theorem upTo_nil (sequence : Nat) : reporting.UpTo sequence [] := by
  intro write member
  cases member

theorem UpTo.mono {first second : Nat} {log : List W} (before : first ≤ second)
    (bounded : reporting.UpTo first log) : reporting.UpTo second log :=
  fun write member subject about =>
    Nat.le_trans (bounded write member subject about) before

theorem UpTo.append {sequence : Nat} {first second : List W}
    (left : reporting.UpTo sequence first)
    (right : reporting.UpTo sequence second) :
    reporting.UpTo sequence (first ++ second) := by
  intro write member
  rcases List.mem_append.mp member with inFirst | inSecond
  · exact left write inFirst
  · exact right write inSecond

/-- The last report of the log on the subject. -/
def Last (reporting : Reporting W κ K) (log : List W) (subject : κ)
    (write : W) : Prop :=
  reporting.about write = some subject ∧ ∃ front back,
    log = front ++ write :: back ∧
      ∀ later ∈ back, reporting.about later ≠ some subject

theorem Last.mem {log : List W} {subject : κ} {write : W}
    (last : reporting.Last log subject write) : write ∈ log := by
  obtain ⟨_, front, back, rfl, _⟩ := last
  exact List.mem_append_right _ List.mem_cons_self

/-- It stays the last one when nothing is reported on the subject. -/
theorem Last.append_silent {log more : List W} {subject : κ} {write : W}
    (last : reporting.Last log subject write)
    (silent : ∀ later ∈ more, reporting.about later ≠ some subject) :
    reporting.Last (log ++ more) subject write := by
  obtain ⟨about, front, back, rfl, none⟩ := last
  refine ⟨about, front, back ++ more, by simp, ?_⟩
  intro later member
  rcases List.mem_append.mp member with inBack | inMore
  · exact none later inBack
  · exact silent later inMore

theorem Last.prepend {log : List W} {subject : κ} {write : W}
    (last : reporting.Last log subject write) (before : List W) :
    reporting.Last (before ++ log) subject write := by
  obtain ⟨about, front, back, rfl, none⟩ := last
  exact ⟨about, before ++ front, back, by simp, none⟩

theorem last_append_report {log : List W} {subject : κ} {write : W}
    (about : reporting.about write = some subject) :
    reporting.Last (log ++ [write]) subject write :=
  ⟨about, log, [], rfl, fun _ member => absurd member List.not_mem_nil⟩

/-- In an ascending log the last report has the largest number. -/
theorem Last.greatest {log : List W} {subject : κ} {write : W}
    (last : reporting.Last log subject write)
    (ascending : reporting.Ascending log) {other : W} (member : other ∈ log)
    (about : reporting.about other = some subject) :
    other = write ∨ reporting.number other < reporting.number write := by
  obtain ⟨lastAbout, front, back, rfl, none⟩ := last
  rcases List.mem_append.mp member with inFront | inRest
  · have ordered := (List.pairwise_append.mp ascending).2.2
    exact Or.inr (ordered other inFront write List.mem_cons_self subject about
      lastAbout)
  · rcases List.mem_cons.mp inRest with same | inBack
    · exact Or.inl same
    · exact absurd about (none other inBack)

/-- A statement's reports come after all that are numbered already. -/
theorem Numbered.ascending {input : Input S O} {effect : Effect W}
    {log : List W} (numbered : reporting.Numbered input effect)
    (ascending : reporting.Ascending log)
    (bounded : reporting.UpTo input.sequence log) :
    reporting.Ascending (log ++ effect.writes) := by
  refine List.pairwise_append.mpr ⟨ascending, numbered.1, ?_⟩
  intro earlier inLog later inEffect subject aboutEarlier aboutLater
  have before := bounded earlier inLog subject aboutEarlier
  have after := numbered.2.2 later inEffect subject aboutLater
  exact Nat.lt_of_le_of_lt before after

theorem Numbered.upTo {input : Input S O} {effect : Effect W} {log : List W}
    (numbered : reporting.Numbered input effect)
    (bounded : reporting.UpTo input.sequence log) :
    reporting.UpTo (input.sequence + effect.draws) (log ++ effect.writes) :=
  (bounded.mono (Nat.le_add_right _ _)).append numbered.2.1

/-- A statement without reports. -/
theorem numbered_of_silent {input : Input S O} {effect : Effect W}
    (silent : ∀ write ∈ effect.writes, reporting.about write = none) :
    reporting.Numbered input effect := by
  have never : ∀ write ∈ effect.writes, ∀ subject,
      reporting.about write ≠ some subject := by
    intro write member subject about
    rw [silent write member] at about
    cases about
  refine ⟨?_, ?_, ?_⟩
  · apply List.pairwise_of_forall_mem_list
    intro earlier member later _ subject about
    exact absurd about (never earlier member subject)
  · intro write member subject about
    exact absurd about (never write member subject)
  · intro write member subject about
    exact absurd about (never write member subject)

theorem guarded_nil [RowStore S W K V] : reporting.Guarded S [] := by
  intro write member
  cases member

theorem Guarded.append_silent [RowStore S W K V] {log writes : List W}
    (guarded : reporting.Guarded S log)
    (silent : ∀ write ∈ writes, reporting.about write = none) :
    reporting.Guarded S (log ++ writes) := by
  intro write member subject about
  rcases List.mem_append.mp member with inLog | inWrites
  · obtain ⟨lock, lockMember, locks⟩ := guarded write inLog subject about
    exact ⟨lock, List.mem_append_left _ lockMember, locks⟩
  · rw [silent write inWrites] at about
    cases about

/-- A report on a subject whose row is held. -/
theorem Guarded.append_held [RowStore S W K V] {log writes : List W}
    (guarded : reporting.Guarded S log)
    (held : ∀ write ∈ writes, ∀ subject, reporting.about write = some subject →
      ∃ lock ∈ log, RowStore.key S lock = reporting.guard subject) :
    reporting.Guarded S (log ++ writes) := by
  intro write member subject about
  have locked : ∃ lock ∈ log, RowStore.key S lock = reporting.guard subject := by
    rcases List.mem_append.mp member with inLog | inWrites
    · exact guarded write inLog subject about
    · exact held write inWrites subject about
  obtain ⟨lock, lockMember, locks⟩ := locked
  exact ⟨lock, List.mem_append_left _ lockMember, locks⟩

/-- Two guarded logs that share no row have no subject in common. -/
theorem Guarded.apart [RowStore S W K V] {left right : List W}
    (leftGuarded : reporting.Guarded S left)
    (rightGuarded : reporting.Guarded S right)
    (disjoint : ∀ write ∈ left, ∀ other ∈ right,
      RowStore.key S write ≠ RowStore.key S other)
    {write other : W} (member : write ∈ left) (otherMember : other ∈ right)
    {subject : κ} (about : reporting.about write = some subject) :
    reporting.about other ≠ some subject := by
  intro same
  obtain ⟨lock, held, locks⟩ := leftGuarded write member subject about
  obtain ⟨otherLock, otherHeld, otherLocks⟩ :=
    rightGuarded other otherMember subject same
  exact disjoint lock held otherLock otherHeld (locks.trans otherLocks.symm)

end Reporting

/-! ## One transaction after the other -/

section Serial

variable {S W K O E α : Type} {V : K → Type} [RowStore S W K V]

/-- The run of a program with nobody else at work, and what it wrote. -/
inductive Program.Records :
    Program S O W E α → S → Nat → Except E α → List W → Nat → Prop where
  | done (outcome : Except E α) (s : S) (sequence : Nat) :
      Records (.done outcome) s sequence outcome [] sequence
  | exec {β : Type} {run : Input S O → Except E (β × Effect W)}
      {next : β → Program S O W E α} {s : S} {sequence last : Nat}
      {outcome : Except E α} (order : O) {answer : β} {effect : Effect W}
      {log : List W} :
      run ⟨s, sequence, order⟩ = .ok (answer, effect) →
      Records (next answer) (applyAll s effect.writes)
        (sequence + effect.draws) outcome log last →
      Records (.exec run next) s sequence outcome (effect.writes ++ log) last
  | fails {β : Type} {run : Input S O → Except E (β × Effect W)}
      {next : β → Program S O W E α} {s : S} {sequence : Nat}
      (order : O) {problem : E} :
      run ⟨s, sequence, order⟩ = .error problem →
      Records (.exec run next) s sequence (.error problem) [] sequence
  | tryLock {next : Bool → Program S O W E α} {s : S} {sequence last : Nat}
      {outcome : Except E α} {log : List W} :
      Records (next true) s sequence outcome log last →
      Records (.tryLock next) s sequence outcome log last

/-- Every run alone has written something. -/
theorem Program.Runs.records {program : Program S O W E α} {s final : S}
    {sequence last : Nat} {outcome : Except E α}
    (run : program.Runs s sequence outcome final last) :
    ∃ log, final = applyAll s log ∧
      program.Records s sequence outcome log last := by
  induction run with
  | done outcome s sequence => exact ⟨[], rfl, .done outcome s sequence⟩
  | exec order accepted _ induction =>
      obtain ⟨log, reached, records⟩ := induction
      refine ⟨_, ?_, .exec order accepted records⟩
      rw [reached, applyAll_append]
  | fails order refused => exact ⟨[], rfl, .fails order refused⟩
  | tryLock _ induction =>
      obtain ⟨log, reached, records⟩ := induction
      exact ⟨log, reached, .tryLock records⟩

theorem Program.Records.runs {program : Program S O W E α} {s : S}
    {sequence last : Nat} {outcome : Except E α} {log : List W}
    (records : program.Records s sequence outcome log last) :
    program.Runs s sequence outcome (applyAll s log) last := by
  induction records with
  | done outcome s sequence => exact .done outcome s sequence
  | exec order accepted _ induction =>
      rw [applyAll_append]
      exact .exec order accepted induction
  | fails order refused => exact .fails order refused
  | tryLock _ induction => exact .tryLock induction

/-- What a run alone has written satisfies the postcondition. -/
theorem Program.Records.secured {regime : Regime S}
    {code : Program S O W E α} {post : α → Bool → S → List W → Prop}
    {s view : S} {before log : List W} {held : Bool} {sequence last : Nat}
    {outcome : Except E α} {result : α}
    (records : code.Records view sequence outcome log last)
    (success : outcome = .ok result) (same : view = applyAll s before)
    (invariant : regime.Inv s)
    (secured : code.secures regime held post s before) :
    ∃ held, post result held s (before ++ log) := by
  have shift := fun held log => @Regime.shift_refl S W K V _ regime held log s
    invariant
  induction records generalizing held before with
  | done outcome view sequence =>
      subst success
      rw [List.append_nil]
      exact ⟨held, secured s (shift held before)⟩
  | exec order accepted _ induction =>
      subst same
      rw [← List.append_assoc]
      exact induction success (applyAll_append _ _ _).symm
        (secured s (shift held before) _ rfl _ _ accepted)
  | fails => cases success
  | tryLock _ induction =>
      exact induction success same (secured s (shift held before)).1

variable {κ : Type} {reporting : Reporting W κ K}

/-- A run alone numbers its reports after all earlier ones. -/
theorem Program.Records.ascending {program : Program S O W E α} {s : S}
    {sequence last : Nat} {outcome : Except E α} {log : List W}
    (records : program.Records s sequence outcome log last)
    (emits : program.Emits reporting.Numbered) {before : List W}
    (ascending : reporting.Ascending before)
    (bounded : reporting.UpTo sequence before) :
    reporting.Ascending (before ++ log) ∧
      reporting.UpTo last (before ++ log) := by
  induction records generalizing before with
  | done outcome s sequence =>
      rw [List.append_nil]
      exact ⟨ascending, bounded⟩
  | exec order accepted _ induction =>
      obtain ⟨numbered, later⟩ := emits _ _ _ accepted
      rw [← List.append_assoc]
      exact induction later (numbered.ascending ascending bounded)
        (numbered.upTo bounded)
  | fails order refused =>
      rw [List.append_nil]
      exact ⟨ascending, bounded⟩
  | tryLock _ induction => exact induction (emits true) ascending bounded

/-- One transaction after the other; `allowed` is asked of each of them and of
the store it begins on. -/
inductive SerialRecord (Start : Program S O W E Unit → Prop)
    (allowed : Program S O W E Unit → S → Prop) :
    (S × Nat) × List W → (S × Nat) × List W → Prop where
  | commit {code : Program S O W E Unit} {s : S} {sequence last : Nat}
      {history log : List W} :
      Start code → allowed code s →
      code.Records s sequence (.ok ()) log last →
      SerialRecord Start allowed ((s, sequence), history)
        ((applyAll s log, last), history ++ log)

/-- Every serial run is one that is recorded. -/
theorem SerialRecord.of_steps {Start : Program S O W E Unit → Prop}
    {allowed : Program S O W E Unit → S → Prop}
    (permits : ∀ code s, Start code → allowed code s) {first last : S × Nat}
    (steps : Relation.ReflTransGen (SerialStep Start) first last)
    (history : List W) :
    ∃ more, Relation.ReflTransGen (SerialRecord Start allowed)
      (first, history) (last, history ++ more) := by
  induction steps with
  | refl => exact ⟨[], by rw [List.append_nil]⟩
  | tail _ step induction =>
      obtain ⟨more, recorded⟩ := induction
      cases step with
      | commit start run =>
          obtain ⟨log, rfl, records⟩ := run.records
          refine ⟨more ++ log, recorded.tail ?_⟩
          rw [← List.append_assoc]
          exact .commit start (permits _ _ start) records

/-- What is recorded is a serial run. -/
theorem SerialRecord.steps {Start : Program S O W E Unit → Prop}
    {allowed : Program S O W E Unit → S → Prop}
    {first last : (S × Nat) × List W}
    (recorded : Relation.ReflTransGen (SerialRecord Start allowed) first last) :
    Relation.ReflTransGen (SerialStep Start) first.1 last.1 := by
  induction recorded with
  | refl => exact .refl
  | tail _ step induction =>
      cases step with
      | commit start _ records => exact induction.tail (.commit start records.runs)

/-- What a program writes alone, every statement with the same order of rows. -/
def Program.recordAlone (order : O) :
    Program S O W E α → S → Nat → Except E α × List W × Nat
  | .done outcome, _, sequence => (outcome, [], sequence)
  | .exec run next, s, sequence =>
      match run ⟨s, sequence, order⟩ with
      | .error problem => (.error problem, [], sequence)
      | .ok (answer, effect) =>
          let rest := (next answer).recordAlone order
            (applyAll s effect.writes) (sequence + effect.draws)
          (rest.1, effect.writes ++ rest.2.1, rest.2.2)
  | .tryLock next, s, sequence => (next true).recordAlone order s sequence

theorem Program.records_recordAlone (order : O) (program : Program S O W E α)
    (s : S) (sequence : Nat) :
    program.Records s sequence (program.recordAlone order s sequence).1
      (program.recordAlone order s sequence).2.1
      (program.recordAlone order s sequence).2.2 := by
  induction program generalizing s sequence with
  | done outcome => exact .done _ _ _
  | exec run next induction =>
      simp only [recordAlone]
      split
      · next problem failed => exact .fails order failed
      · next answer effect accepted =>
          exact .exec order accepted (induction answer _ _)
  | tryLock next induction => exact .tryLock (induction true s sequence)

/-- The state after a transaction that runs next, alone. -/
def Program.recorded (order : O) (code : Program S O W E Unit)
    (state : (S × Nat) × List W) : (S × Nat) × List W :=
  let result := code.recordAlone order state.1.1 state.1.2
  ((applyAll state.1.1 result.2.1, result.2.2), state.2 ++ result.2.1)

theorem SerialRecord.of_recordAlone {Start : Program S O W E Unit → Prop}
    {allowed : Program S O W E Unit → S → Prop} (order : O)
    {code : Program S O W E Unit} {state : (S × Nat) × List W}
    (start : Start code) (permitted : allowed code state.1.1)
    (commits : (code.recordAlone order state.1.1 state.1.2).1 = .ok ()) :
    SerialRecord Start allowed state (code.recorded order state) := by
  obtain ⟨⟨s, sequence⟩, history⟩ := state
  have records := code.records_recordAlone order s sequence
  rw [commits] at records
  exact .commit start permitted records

end Serial

/-! ## Interleaved transactions -/

/-- A cluster that remembers how its transactions began, and everything it has
committed. -/
structure Recorded (S O W E : Type) where
  traced : Traced S O W E
  history : List W

namespace Recorded

variable {S W K O E : Type} {V : K → Type} [RowStore S W K V]

def initial (s : S) : Recorded S O W E :=
  ⟨Traced.initial s, []⟩

/-- One step; `allowed` is asked of each commit and of the store it finds. -/
inductive Step [RowLocks S] (Start : Program S O W E Unit → Prop)
    (allowed : Program S O W E Unit → S → Prop) :
    Recorded S O W E → Recorded S O W E → Prop where
  | commit {recorded : Recorded S O W E} {code : Program S O W E Unit}
      {held : Bool} {log : List W} {after : Cluster S O W E} :
      allowed code recorded.traced.cluster.committed →
      Traced.Commits code held log recorded.traced after →
      Step Start allowed recorded
        ⟨⟨after, recorded.traced.originAfter after⟩, recorded.history ++ log⟩
  | other {recorded : Recorded S O W E} {after : Cluster S O W E} :
      Cluster.Step Start recorded.traced.cluster after →
      (∀ name log, ¬ Cluster.Commits name log recorded.traced.cluster after) →
      Step Start allowed recorded
        ⟨⟨after, recorded.traced.originAfter after⟩, recorded.history⟩

abbrev Steps [RowLocks S] (Start : Program S O W E Unit → Prop)
    (allowed : Program S O W E Unit → S → Prop) :
    Recorded S O W E → Recorded S O W E → Prop :=
  Relation.ReflTransGen (Step Start allowed)

variable {Start : Program S O W E Unit → Prop}
  {allowed : Program S O W E Unit → S → Prop}

theorem Step.traced [RowLocks S] {before after : Recorded S O W E}
    (step : Step Start allowed before after) :
    Traced.Step Start before.traced after.traced := by
  cases step with
  | commit permitted commits => exact .step commits.step
  | other step silent => exact .step step

theorem Steps.traced [RowLocks S] {first last : Recorded S O W E}
    (steps : Steps Start allowed first last) :
    Traced.Steps Start first.traced last.traced := by
  induction steps with
  | refl => exact .refl
  | tail _ step induction => exact induction.tail step.traced

end Recorded

section Covered

variable {S W K O E : Type} {V : K → Type} [RowStore S W K V]
  {Start : Program S O W E Unit → Prop}

/-- Nothing is known of what happens while a transaction is open, beside that
its rows are locked. -/
def Regime.free (S : Type) : Regime S where
  env _ _ _ := True
  Inv _ := True
  refl _ _ := trivial
  trans _ _ := trivial

theorem Regime.sound_free
    {Post : Program S O W E Unit → Bool → S → List W → Prop}
    (secured : ∀ code, Start code → ∀ s,
      code.secures (Regime.free S) false (fun _ => Post code) s []) :
    (Regime.free S).Sound Start Post where
  start code start s _ := secured code start s
  keeps _ _ _ _ _ _ _ := trivial
  moves _ _ _ _ _ _ _ := ⟨trivial, fun _ => trivial⟩

theorem Program.secures_trivial {α : Type} {regime : Regime S}
    (program : Program S O W E α) (held : Bool) (s : S) (log : List W) :
    program.secures regime held (fun _ _ _ _ => True) s log := by
  induction program generalizing held s log with
  | done outcome =>
      cases outcome with
      | error problem => trivial
      | ok result => exact fun _ _ => trivial
  | exec run next induction =>
      intro s' shift input view answer effect accepted
      exact induction answer held s' _
  | tryLock next induction =>
      intro s' shift
      exact ⟨induction true true s' log, fun _ => induction false false s' log⟩

/-- What is established at the end stays established. -/
theorem Program.secures_stably {α : Type} {regime : Regime S}
    {program : Program S O W E α} {held : Bool}
    {post : α → Bool → S → List W → Prop} {s : S} {log : List W}
    (secured : program.secures regime held post s log) :
    program.secures regime held (fun result held s log =>
      ∀ s', regime.Shift held log s s' → post result held s' log) s log := by
  induction program generalizing held s log with
  | done outcome =>
      cases outcome with
      | error problem => trivial
      | ok result =>
          exact fun s' shift s'' further => secured s'' (shift.trans further)
  | exec run next induction =>
      intro s' shift input view answer effect accepted
      exact induction answer
        (secured s' shift input view answer effect accepted)
  | tryLock next induction =>
      intro s' shift
      obtain ⟨granted, refused⟩ := secured s' shift
      exact ⟨induction true granted, fun free => induction false (refused free)⟩

/-- An assertion about the committed store and the log that neither the others
nor an allowed effect ends. -/
theorem Program.Emits.secures {α : Type} {regime : Regime S}
    {allowed : Input S O → Effect W → Prop} {assertion : S → List W → Prop}
    (stable : ∀ s s' log, LocksKept log s s' → assertion s log →
      assertion s' log)
    (grows : ∀ input effect s log, input.view = applyAll s log →
      allowed input effect → assertion s log →
      assertion s (log ++ effect.writes))
    {program : Program S O W E α} (emits : program.Emits allowed)
    {held : Bool} {s : S} {log : List W} (here : assertion s log) :
    program.secures regime held (fun _ _ => assertion) s log := by
  induction program generalizing held s log with
  | done outcome =>
      cases outcome with
      | error problem => trivial
      | ok result => exact fun s' shift => stable s s' log shift.locks here
  | exec run next induction =>
      intro s' shift input view answer effect accepted
      obtain ⟨single, later⟩ := emits input answer effect accepted
      exact induction answer later (grows input effect s' log view single
        (stable s s' log shift.locks here))
  | tryLock next induction =>
      intro s' shift
      have there := stable s s' log shift.locks here
      exact ⟨induction true (emits true) there,
        fun _ => induction false (emits false) there⟩

/-- Every run is one that is recorded. -/
theorem Recorded.of_steps [RowLocks S]
    {allowed : Program S O W E Unit → S → Prop}
    (permits : ∀ code s, Start code → allowed code s) {s : S}
    {last : Cluster S O W E}
    (steps : Cluster.Steps Start (Cluster.initial s) last) :
    ∃ recorded : Recorded S O W E, recorded.traced.cluster = last ∧
      Recorded.Steps Start allowed (Recorded.initial s) recorded := by
  induction steps with
  | refl => exact ⟨Recorded.initial s, rfl, .refl⟩
  | @tail _ last _ step induction =>
      obtain ⟨recorded, rfl, run⟩ := induction
      by_cases committed : ∃ name log,
          Cluster.Commits name log recorded.traced.cluster last
      · obtain ⟨name, log, commits⟩ := committed
        have known := Traced.secured
          (Regime.sound_free (fun code _ s => code.secures_trivial false s []))
          run.traced (Traced.secured_initial trivial)
        obtain ⟨code, origin, start, _⟩ := known.opened name _ commits.1
        exact ⟨_, rfl, run.tail
          (.commit (permits _ _ start) ⟨name, origin, rfl, commits⟩)⟩
      · refine ⟨_, rfl, run.tail (.other step ?_)⟩
        exact fun name log commits => committed ⟨name, log, commits⟩

end Covered

/-- Only commits change what is committed. -/
theorem Cluster.Step.committed {S W K O E : Type} {V : K → Type}
    [RowStore S W K V] [RowLocks S] {Start : Program S O W E Unit → Prop}
    {before after : Cluster S O W E} (step : Cluster.Step Start before after)
    (silent : ∀ name log, ¬ Cluster.Commits name log before after) :
    after.committed = before.committed := by
  cases step with
  | commit name found => exact absurd ⟨found, rfl⟩ (silent name _)
  | _ => rfl

section Ordered

variable {S W K O E κ : Type} {V : K → Type} [RowStore S W K V]
  {reporting : Reporting W κ K} {Start : Program S O W E Unit → Prop}
  {allowed : Program S O W E Unit → S → Prop}

/-- What has been committed is in order, and still is if one of the open
transactions commits next. -/
structure Recorded.Ordered (reporting : Reporting W κ K)
    (recorded : Recorded S O W E) : Prop where
  disjoint : recorded.traced.cluster.LogsDisjoint
  ascending : reporting.Ascending recorded.history
  bounded : reporting.UpTo recorded.traced.cluster.sequence recorded.history
  opened : ∀ name opened,
    recorded.traced.cluster.transactions name = some opened →
    opened.code.Emits reporting.Numbered ∧
      opened.code.Logs (reporting.Guarded S) (fun _ _ => True) opened.log ∧
      reporting.Ascending (recorded.history ++ opened.log) ∧
      reporting.UpTo recorded.traced.cluster.sequence opened.log

theorem Recorded.ordered_initial (s : S) :
    (Recorded.initial s : Recorded S O W E).Ordered reporting where
  disjoint := by
    intro left right leftOpen rightOpen different leftFound
    cases leftFound
  ascending := Reporting.ascending_nil
  bounded := Reporting.upTo_nil _
  opened := by
    intro name opened found
    cases found

/-- What is asked of the programs. -/
def Reporting.Orderly (reporting : Reporting W κ K)
    (Start : Program S O W E Unit → Prop) : Prop :=
  ∀ code, Start code → code.Emits reporting.Numbered ∧
    code.Logs (reporting.Guarded S) (fun _ _ => True) []

theorem Recorded.Ordered.commit {recorded : Recorded S O W E} {name : Nat}
    {log : List W} {after : Cluster S O W E}
    (ordered : recorded.Ordered reporting)
    (commits : Cluster.Commits name log recorded.traced.cluster after)
    (nextDisjoint : after.LogsDisjoint) :
    Recorded.Ordered reporting
      ⟨⟨after, recorded.traced.originAfter after⟩, recorded.history ++ log⟩ := by
  obtain ⟨found, rfl⟩ := commits
  obtain ⟨_, logs, ascending, bounded⟩ := ordered.opened name _ found
  refine ⟨nextDisjoint, ascending, ordered.bounded.append bounded, ?_⟩
  intro other opened otherFound
  rcases Cluster.transactions_set_cases otherFound with
    ⟨_, ⟨⟩⟩ | ⟨different, old⟩
  obtain ⟨emits, otherLogs, otherAscending, otherBounded⟩ :=
    ordered.opened other opened old
  refine ⟨emits, otherLogs, ?_, otherBounded⟩
  obtain ⟨_, inLog, across⟩ := List.pairwise_append.mp otherAscending
  refine List.pairwise_append.mpr ⟨ascending, inLog, ?_⟩
  intro earlier member later laterMember subject aboutEarlier aboutLater
  rcases List.mem_append.mp member with inHistory | inCommitted
  · exact across earlier inHistory later laterMember subject aboutEarlier
      aboutLater
  · -- the two transactions would have to hold the same row
    exact absurd aboutLater (logs.here.apart otherLogs.here
      (ordered.disjoint name other _ opened different.symm found old)
      inCommitted laterMember aboutEarlier)

/-- A step by which only one open transaction changes, if any. -/
theorem Recorded.Ordered.other {recorded : Recorded S O W E}
    {after : Cluster S O W E} (ordered : recorded.Ordered reporting)
    (nextDisjoint : after.LogsDisjoint)
    (later : recorded.traced.cluster.sequence ≤ after.sequence)
    (opened : ∀ name opened, after.transactions name = some opened →
      recorded.traced.cluster.transactions name = some opened ∨
      (opened.code.Emits reporting.Numbered ∧
        opened.code.Logs (reporting.Guarded S) (fun _ _ => True) opened.log ∧
        reporting.Ascending (recorded.history ++ opened.log) ∧
        reporting.UpTo after.sequence opened.log)) :
    Recorded.Ordered reporting
      ⟨⟨after, recorded.traced.originAfter after⟩, recorded.history⟩ := by
  refine ⟨nextDisjoint, ordered.ascending, ordered.bounded.mono later, ?_⟩
  intro name transaction found
  rcases opened name transaction found with old | new
  · obtain ⟨emits, logs, ascending, bounded⟩ :=
      ordered.opened name transaction old
    exact ⟨emits, logs, ascending, bounded.mono later⟩
  · exact new

theorem Recorded.Step.ordered [RowLocks S]
    (orderly : reporting.Orderly Start) {before after : Recorded S O W E}
    (step : Recorded.Step Start allowed before after)
    (ordered : before.Ordered reporting) : after.Ordered reporting := by
  cases step with
  | commit permitted commits =>
      have nextDisjoint :=
        (@Traced.Commits.step S W K O E V _ Start _ _ _ _ _ _
          commits).logsDisjoint ordered.disjoint
      obtain ⟨name, _, _, commits⟩ := commits
      exact ordered.commit commits nextDisjoint
  | other step silent =>
      have nextDisjoint := step.logsDisjoint ordered.disjoint
      cases step with
      | begin name fresh start =>
          obtain ⟨emits, logs⟩ := orderly _ start
          refine ordered.other nextDisjoint (Nat.le_refl _) ?_
          intro other opened found
          rcases Cluster.transactions_set_cases found with ⟨_, ⟨⟩⟩ | ⟨_, old⟩
          · refine Or.inr ⟨emits, logs, ?_, Reporting.upTo_nil _⟩
            rw [List.append_nil]
            exact ordered.ascending
          · exact Or.inl old
      | exec name order found accepted _ =>
          obtain ⟨emits, logs, ascending, bounded⟩ := ordered.opened name _ found
          obtain ⟨numbered, later⟩ := emits _ _ _ accepted
          refine ordered.other nextDisjoint (Nat.le_add_right _ _) ?_
          intro other opened otherFound
          rcases Cluster.transactions_set_cases otherFound with
            ⟨_, ⟨⟩⟩ | ⟨_, old⟩
          · refine Or.inr ⟨later, logs.2 _ _ _ accepted, ?_,
              numbered.upTo bounded⟩
            rw [← List.append_assoc]
            exact numbered.ascending ascending (ordered.bounded.append bounded)
          · exact Or.inl old
      | lock name found granted =>
          obtain ⟨emits, logs, ascending, bounded⟩ := ordered.opened name _ found
          refine ordered.other nextDisjoint (Nat.le_refl _) ?_
          intro other opened otherFound
          rcases Cluster.transactions_set_cases otherFound with
            ⟨_, ⟨⟩⟩ | ⟨_, old⟩
          · exact Or.inr ⟨emits true, logs.2 true, ascending, bounded⟩
          · exact Or.inl old
      | busy name holder found held different =>
          obtain ⟨emits, logs, ascending, bounded⟩ := ordered.opened name _ found
          refine ordered.other nextDisjoint (Nat.le_refl _) ?_
          intro other opened otherFound
          rcases Cluster.transactions_set_cases otherFound with
            ⟨_, ⟨⟩⟩ | ⟨_, old⟩
          · exact Or.inr ⟨emits false, logs.2 false, ascending, bounded⟩
          · exact Or.inl old
      | commit name found => exact absurd ⟨found, rfl⟩ (silent name _)
      | abort name found =>
          refine ordered.other nextDisjoint (Nat.le_refl _) ?_
          intro other opened otherFound
          rcases Cluster.transactions_set_cases otherFound with
            ⟨_, ⟨⟩⟩ | ⟨_, old⟩
          exact Or.inl old

/-- However transactions overlap, the reports about one subject are numbered in
the order in which they are committed. -/
theorem Recorded.ordered [RowLocks S] (orderly : reporting.Orderly Start)
    {first last : Recorded S O W E}
    (steps : Recorded.Steps Start allowed first last)
    (ordered : first.Ordered reporting) : last.Ordered reporting := by
  induction steps with
  | refl => exact ordered
  | tail _ step induction => exact step.ordered orderly induction

end Ordered

end Transactional
