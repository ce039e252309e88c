import GpuLink.Library.Chronicle
import Mathlib.Data.List.Pairwise

/-!
# Rows that are inserted once

Some rows are inserted and never taken out, and keep the label that they were
inserted with; a unique index holds their entries apart.  A statement can see
only committed rows and those of its own transaction.  What two transactions
insert at the same time is held apart by the locks of the index.  So however
transactions overlap, every key and every entry is inserted once, and the rows
that stand are those that were inserted (`Registry.registered_step`).
-/

namespace Transactional

/-- The label of the row at a key, the label of the row that a write inserts,
and the entry of a label in the unique index. -/
structure Registry (W K : Type) (V : K → Type) (L κ : Type) where
  label : (k : K) → V k → Option L
  inserts : W → Option L
  entry : L → Option κ

namespace Registry

variable {S W K O L κ : Type} {V : K → Type} [RowStore S W K V]

open RowStore

section Rules

variable (registry : Registry W K V L κ)

/-- The write inserts nothing and leaves the label of its row. -/
def Leaves (view : S) (write : W) : Prop :=
  registry.inserts write = none ∧ ∀ value,
    registry.label (key S write) value =
      registry.label (key S write) (get view (key S write)) →
    registry.label (key S write) (act write value) =
      registry.label (key S write) value

/-- The write inserts a row where none is, and no row has its entry. -/
structure Admits (view : S) (write : W) (l : L) : Prop where
  inserts : registry.inserts write = some l
  vacant : registry.label (key S write) (get view (key S write)) = none
  labels : ∀ value, registry.label (key S write) (act write value) = some l
  free : ∀ c, registry.entry l = some c → ∀ k other,
    registry.label k (get view k) = some other →
    registry.entry other ≠ some c

/-- A statement inserts at most one row, and changes no other label. -/
def Respects (input : Input S O) (effect : Effect W) : Prop :=
  (∀ write ∈ effect.writes, registry.Leaves input.view write) ∨
    ∃ write l, effect.writes = [write] ∧ registry.Admits input.view write l

/-- Two insertions that are not of the same row and not of the same entry. -/
def Apart (S : Type) [RowStore S W K V] (first second : W) : Prop :=
  ∀ l other, registry.inserts first = some l →
    registry.inserts second = some other →
    key S first ≠ key S second ∧
      ∀ c, registry.entry l = some c → registry.entry other ≠ some c

/-- The rows that stand are those that the history has inserted, each of them
once. -/
structure Keeps (s : S) (history : List W) : Prop where
  known : ∀ k l, registry.label k (get s k) = some l →
    ∃ write ∈ history, registry.inserts write = some l ∧ key S write = k
  stands : ∀ write ∈ history, ∀ l, registry.inserts write = some l →
    registry.label (key S write) (get s (key S write)) = some l
  once : history.Pairwise (registry.Apart S)

/-- Rows stay, with their label. -/
def Stays (k : K) (before after : V k) : Prop :=
  ∀ l, registry.label k before = some l → registry.label k after = some l

end Rules

variable {registry : Registry W K V L κ}

theorem stays_refl (k : K) (value : V k) : registry.Stays k value value :=
  fun _ stands => stands

theorem stays_trans (k : K) {a b c : V k} (first : registry.Stays k a b)
    (second : registry.Stays k b c) : registry.Stays k a c :=
  fun l stands => second l (first l stands)

theorem Apart.symm {first second : W} (apart : registry.Apart S first second) :
    registry.Apart S second first := by
  intro l other inserted otherInserted
  obtain ⟨keys, entries⟩ := apart other l otherInserted inserted
  refine ⟨keys.symm, ?_⟩
  intro c held alsoHeld
  exact entries c alsoHeld held

/-- Statements that insert nothing leave every label. -/
theorem labels_of_leaves {view s : S} {writes : List W}
    (leaves : ∀ write ∈ writes, registry.Leaves view write)
    (same : ∀ k, registry.label k (get s k) = registry.label k (get view k))
    (k : K) :
    registry.label k (get (applyAll s writes) k) =
      registry.label k (get view k) := by
  induction writes generalizing s with
  | nil => exact same k
  | cons write writes induction =>
      refine induction (fun other member =>
        leaves other (List.mem_cons_of_mem _ member)) ?_
      intro k
      by_cases here : k = key S write
      · subst here
        rw [get_apply_self]
        exact ((leaves write List.mem_cons_self).2 _ (same _)).trans (same _)
      · rw [get_apply_other _ _ _ here]
        exact same k

theorem Admits.here {view : S} {write : W} {l : L}
    (admits : registry.Admits view write l) :
    registry.label (key S write) (get (applyAll view [write]) (key S write)) =
      some l := by
  rw [applyAll_cons, applyAll_nil, get_apply_self]
  exact admits.labels _

theorem Admits.elsewhere {view : S} {write : W} {k : K}
    (different : k ≠ key S write) :
    registry.label k (get (applyAll view [write]) k) =
      registry.label k (get view k) := by
  rw [applyAll_cons, applyAll_nil, get_apply_other _ _ _ different]

theorem Respects.stays {input : Input S O} {effect : Effect W}
    (respects : registry.Respects input effect) (k : K) :
    registry.Stays k (get input.view k)
      (get (applyAll input.view effect.writes) k) := by
  intro l stands
  rcases respects with leaves | ⟨write, fresh, single, admits⟩
  · rw [labels_of_leaves leaves (fun _ => rfl)]
    exact stands
  · rw [single]
    have different : k ≠ key S write := by
      rintro rfl
      rw [admits.vacant] at stands
      cases stands
    rw [Admits.elsewhere different]
    exact stands

/-- One more statement. -/
theorem Keeps.statement {input : Input S O} {effect : Effect W}
    {history : List W} (keeps : registry.Keeps input.view history)
    (respects : registry.Respects input effect) :
    registry.Keeps (applyAll input.view effect.writes)
      (history ++ effect.writes) := by
  have stays := respects.stays
  rcases respects with leaves | ⟨write, fresh, single, admits⟩
  · have same := labels_of_leaves leaves (fun _ => rfl)
    refine ⟨?_, ?_, ?_⟩
    · intro k l stands
      rw [same] at stands
      obtain ⟨write, member, inserted⟩ := keeps.known k l stands
      exact ⟨write, List.mem_append_left _ member, inserted⟩
    · intro write member l inserted
      rcases List.mem_append.mp member with old | new
      · rw [same]
        exact keeps.stands write old l inserted
      · rw [(leaves write new).1] at inserted
        cases inserted
    · refine List.pairwise_append.mpr ⟨keeps.once, ?_, ?_⟩
      · apply List.pairwise_of_forall_mem_list
        intro first member second _ l other inserted
        rw [(leaves first member).1] at inserted
        cases inserted
      · intro first _ second member l other _ inserted
        rw [(leaves second member).1] at inserted
        cases inserted
  · rw [single] at stays ⊢
    refine ⟨?_, ?_, ?_⟩
    · intro k l stands
      by_cases here : k = key S write
      · subst here
        rw [admits.here] at stands
        cases stands
        exact ⟨write, by simp, admits.inserts, rfl⟩
      · rw [Admits.elsewhere here] at stands
        obtain ⟨old, member, inserted⟩ := keeps.known k l stands
        exact ⟨old, List.mem_append_left _ member, inserted⟩
    · intro other member l inserted
      rcases List.mem_append.mp member with old | new
      · exact stays _ l (keeps.stands other old l inserted)
      · rw [List.mem_singleton.mp new] at inserted ⊢
        rw [admits.inserts] at inserted
        cases inserted
        exact admits.here
    · refine List.pairwise_append.mpr
        ⟨keeps.once, List.pairwise_singleton _ _, ?_⟩
      intro old member new newMember l other inserted newInserted
      rw [List.mem_singleton.mp newMember] at newInserted ⊢
      rw [admits.inserts] at newInserted
      cases newInserted
      have stands := keeps.stands old member l inserted
      refine ⟨?_, fun c held alsoHeld =>
        admits.free c alsoHeld _ l stands held⟩
      intro same
      rw [same, admits.vacant] at stands
      cases stands

theorem keeps_initial {s : S} (empty : ∀ k, registry.label k (get s k) = none) :
    registry.Keeps s [] where
  known k l stands := by
    rw [empty k] at stands
    cases stands
  stands write member := by cases member
  once := .nil

/-- The insertion of an entry is the only one. -/
theorem Keeps.unique {s : S} {history : List W}
    (keeps : registry.Keeps s history) {first second : W}
    (firstMember : first ∈ history) (secondMember : second ∈ history)
    {l other : L} (inserted : registry.inserts first = some l)
    (otherInserted : registry.inserts second = some other)
    (same : key S first = key S second ∨
      ∃ c, registry.entry l = some c ∧ registry.entry other = some c) :
    first = second := by
  by_contra different
  have symmetric : Std.Symm (registry.Apart S) :=
    ⟨fun _ _ apart => apart.symm⟩
  obtain ⟨keys, entries⟩ := keeps.once.forall firstMember secondMember
    different l other inserted otherInserted
  rcases same with same | ⟨c, held, alsoHeld⟩
  · exact keys same
  · exact entries c held alsoHeld

/-- What the others may do while a transaction is open: they let rows stay. -/
def regime (registry : Registry W K V L κ) (S : Type) [RowStore S W K V] :
    Regime S where
  env _ s s' := Rowwise registry.Stays s s'
  Inv _ := True
  refl _ _ k := stays_refl k _
  trans first second k := stays_trans k (first k) (second k)

/-- Whoever respects the registry lets the rows stay. -/
theorem stays_secures {E α : Type} {program : Program S O W E α}
    (emits : program.Emits registry.Respects) (s : S) :
    program.secures (registry.regime S) false
      (fun _ _ s log => Rowwise registry.Stays s (applyAll s log)) s [] := by
  refine Program.Emits.secures ?_ ?_ emits (fun k => stays_refl k _)
  · intro before after log kept stays
    exact stays.shifted stays_refl kept
  · intro input effect before log view respects stays k
    rw [applyAll_append, ← view]
    refine stays_trans k (stays k) ?_
    rw [← view]
    exact respects.stays k

/-! ## Runs -/

/-- A run alone inserts as it should. -/
theorem keeps_records {E α : Type}
    {program : Program S O W E α} {s : S} {sequence last : Nat}
    {outcome : Except E α} {log : List W}
    (records : program.Records s sequence outcome log last)
    (emits : program.Emits registry.Respects) {before : List W}
    (keeps : registry.Keeps s before) :
    registry.Keeps (applyAll s log) (before ++ log) := by
  induction records generalizing before with
  | done outcome s sequence =>
      rw [List.append_nil]
      exact keeps
  | exec order accepted _ induction =>
      obtain ⟨respects, later⟩ := emits _ _ _ accepted
      rw [← List.append_assoc, applyAll_append]
      exact induction later (Keeps.statement keeps respects)
  | fails order refused =>
      rw [List.append_nil]
      exact keeps
  | tryLock _ induction => exact induction (emits true) keeps

/-! ## Interleaved transactions -/

section Cluster

variable {E : Type} {Start : Program S O W E Unit → Prop}

/-- What two open transactions insert does not have the same entry. -/
def EntriesApart (registry : Registry W K V L κ) (cluster : Cluster S O W E) :
    Prop :=
  ∀ left right leftOpen rightOpen, left ≠ right →
    cluster.transactions left = some leftOpen →
    cluster.transactions right = some rightOpen →
    ∀ write ∈ leftOpen.log, ∀ other ∈ rightOpen.log, ∀ l m,
      registry.inserts write = some l → registry.inserts other = some m →
      ∀ c, registry.entry l = some c → registry.entry m ≠ some c

/-- The unique index locks the entries that are inserted. -/
def Locked (registry : Registry W K V L κ) (S : Type) [RowStore S W K V]
    [RowLocks S] : Prop :=
  ∀ write other l m c, registry.inserts write = some l →
    registry.inserts other = some m → registry.entry l = some c →
    registry.entry m = some c → RowLocks.Clash (S := S) write other

omit [RowStore S W K V] in
/-- Only one of the open transactions changes, if any. -/
theorem EntriesApart.set {cluster : Cluster S O W E} {name : Nat}
    {opened : Option (Open S O W E)} (apart : registry.EntriesApart cluster)
    (mine : ∀ new, opened = some new → ∀ other theirs, other ≠ name →
      cluster.transactions other = some theirs →
      ∀ write ∈ new.log, ∀ earlier ∈ theirs.log, ∀ l m,
        registry.inserts write = some l → registry.inserts earlier = some m →
        ∀ c, registry.entry l = some c → registry.entry m ≠ some c) :
    registry.EntriesApart (cluster.set name opened) := by
  intro left right leftOpen rightOpen different leftFound rightFound
    write leftMember other rightMember l m inserted otherInserted c held
    alsoHeld
  rcases Cluster.transactions_set_cases leftFound with
    ⟨leftName, leftNew⟩ | ⟨leftOther, leftOld⟩
  · rcases Cluster.transactions_set_cases rightFound with
      ⟨rightName, _⟩ | ⟨rightOther, rightOld⟩
    · exact different (leftName.trans rightName.symm)
    · exact mine leftOpen leftNew right rightOpen rightOther rightOld write
        leftMember other rightMember l m inserted otherInserted c held alsoHeld
  · rcases Cluster.transactions_set_cases rightFound with
      ⟨_, rightNew⟩ | ⟨_, rightOld⟩
    · exact mine rightOpen rightNew left leftOpen leftOther leftOld other
        rightMember write leftMember m l otherInserted inserted c alsoHeld held
    · exact apart left right leftOpen rightOpen different leftOld rightOld
        write leftMember other rightMember l m inserted otherInserted c held
        alsoHeld

theorem entriesApart_step [RowLocks S] (locked : registry.Locked S)
    {before after : Cluster S O W E} (step : Cluster.Step Start before after)
    (apart : registry.EntriesApart before) : registry.EntriesApart after := by
  cases step with
  | begin name fresh start =>
      apply EntriesApart.set apart
      rintro mine ⟨⟩ other theirs _ _ write member
      exact absurd member List.not_mem_nil
  | exec name order found accepted unlocked =>
      apply EntriesApart.set apart
      rintro mine ⟨⟩ other theirs different theirsFound write member
        earlier earlierMember l m inserted otherInserted c held alsoHeld
      rcases List.mem_append.mp member with old | new
      · exact apart name other _ theirs different.symm found theirsFound
          write old earlier earlierMember l m inserted otherInserted c held
          alsoHeld
      · exact unlocked other theirs different theirsFound write new earlier
          earlierMember
          (locked write earlier l m c inserted otherInserted held alsoHeld)
  | lock name found granted =>
      apply EntriesApart.set apart
      rintro mine ⟨⟩ other theirs different theirsFound
      exact apart name other ⟨.tryLock _, _⟩ theirs different.symm found
        theirsFound
  | busy name other found held different =>
      apply EntriesApart.set apart
      rintro mine ⟨⟩ third theirs distinct theirsFound
      exact apart name third ⟨.tryLock _, _⟩ theirs distinct.symm found
        theirsFound
  | commit name found =>
      apply EntriesApart.set apart
      rintro mine ⟨⟩
  | abort name found =>
      apply EntriesApart.set apart
      rintro mine ⟨⟩

/-- Two transactions that write different rows and insert different entries can
both be committed. -/
theorem Keeps.merge {s : S} {history log other : List W}
    (first : registry.Keeps (applyAll s log) (history ++ log))
    (second : registry.Keeps (applyAll s other) (history ++ other))
    (disjoint : ∀ write ∈ log, ∀ theirs ∈ other,
      key S write ≠ key S theirs)
    (apart : ∀ write ∈ log, ∀ theirs ∈ other, registry.Apart S write theirs) :
    registry.Keeps (applyAll (applyAll s log) other)
      ((history ++ log) ++ other) := by
  -- every row is as one of the two transactions alone would leave it
  have theirs : ∀ k, (∃ write ∈ other, key S write = k) →
      get (applyAll (applyAll s log) other) k = get (applyAll s other) k := by
    rintro k ⟨write, member, rfl⟩
    apply get_applyAll_congr
    apply get_applyAll_other
    exact fun mine mineMember same =>
      disjoint mine mineMember write member same.symm
  have mine : ∀ k, (¬ ∃ write ∈ other, key S write = k) →
      get (applyAll (applyAll s log) other) k = get (applyAll s log) k := by
    intro k untouched
    apply get_applyAll_other
    exact fun write member same => untouched ⟨write, member, same.symm⟩
  have inFirst : ∀ {write}, write ∈ history ++ log →
      write ∈ (history ++ log) ++ other := List.mem_append_left _
  refine ⟨?_, ?_, ?_⟩
  · intro k l stands
    by_cases touched : ∃ write ∈ other, key S write = k
    · rw [theirs k touched] at stands
      obtain ⟨write, member, inserted⟩ := second.known k l stands
      refine ⟨write, ?_, inserted⟩
      rcases List.mem_append.mp member with old | new
      · exact inFirst (List.mem_append_left _ old)
      · exact List.mem_append_right _ new
    · rw [mine k touched] at stands
      obtain ⟨write, member, inserted⟩ := first.known k l stands
      exact ⟨write, inFirst member, inserted⟩
  · intro write member l inserted
    by_cases touched : ∃ theirs ∈ other, key S theirs = key S write
    · rw [theirs _ touched]
      apply second.stands write _ l inserted
      rcases List.mem_append.mp member with old | new
      · rcases List.mem_append.mp old with inHistory | inLog
        · exact List.mem_append_left _ inHistory
        · obtain ⟨later, laterMember, same⟩ := touched
          exact absurd same.symm (disjoint write inLog later laterMember)
      · exact List.mem_append_right _ new
    · rw [mine _ touched]
      rcases List.mem_append.mp member with old | new
      · exact first.stands write old l inserted
      · exact absurd ⟨write, new, rfl⟩ touched
  · refine List.pairwise_append.mpr
      ⟨first.once, (List.pairwise_append.mp second.once).2.1, ?_⟩
    intro earlier member later laterMember
    rcases List.mem_append.mp member with inHistory | inLog
    · exact (List.pairwise_append.mp second.once).2.2 earlier inHistory later
        laterMember
    · exact apart earlier inLog later laterMember

/-- What has been committed is registered, and still is if one of the open
transactions commits next. -/
structure Registered (registry : Registry W K V L κ)
    (recorded : Recorded S O W E) : Prop where
  disjoint : recorded.traced.cluster.LogsDisjoint
  apart : registry.EntriesApart recorded.traced.cluster
  keeps : registry.Keeps recorded.traced.cluster.committed recorded.history
  opened : ∀ name opened,
    recorded.traced.cluster.transactions name = some opened →
    opened.code.Emits registry.Respects ∧
      registry.Keeps (applyAll recorded.traced.cluster.committed opened.log)
        (recorded.history ++ opened.log)

theorem registered_initial {s : S}
    (empty : ∀ k, registry.label k (get s k) = none) :
    registry.Registered (Recorded.initial s : Recorded S O W E) where
  disjoint := by
    intro left right leftOpen rightOpen different leftFound
    cases leftFound
  apart := by
    intro left right leftOpen rightOpen different leftFound
    cases leftFound
  keeps := keeps_initial empty
  opened := by
    intro name opened found
    cases found

theorem Registered.commit {recorded : Recorded S O W E} {name : Nat}
    {log : List W} {after : Cluster S O W E}
    (registered : registry.Registered recorded)
    (commits : Cluster.Commits name log recorded.traced.cluster after)
    (nextDisjoint : after.LogsDisjoint)
    (nextApart : registry.EntriesApart after) :
    registry.Registered
      ⟨⟨after, recorded.traced.originAfter after⟩, recorded.history ++ log⟩ := by
  obtain ⟨found, rfl⟩ := commits
  obtain ⟨_, committed⟩ := registered.opened name _ found
  refine ⟨nextDisjoint, nextApart, committed, ?_⟩
  intro other opened otherFound
  rcases Cluster.transactions_set_cases otherFound with
    ⟨_, ⟨⟩⟩ | ⟨different, old⟩
  obtain ⟨emits, alone⟩ := registered.opened other opened old
  refine ⟨emits, committed.merge alone ?_ ?_⟩
  · exact registered.disjoint name other _ opened different.symm found old
  · intro write member theirs theirsMember l m inserted otherInserted
    exact ⟨registered.disjoint name other _ opened different.symm found old
        write member theirs theirsMember,
      registered.apart name other _ opened different.symm found old write
        member theirs theirsMember l m inserted otherInserted⟩

/-- A step by which only one open transaction changes, if any. -/
theorem Registered.other {recorded : Recorded S O W E}
    {after : Cluster S O W E} (registered : registry.Registered recorded)
    (nextDisjoint : after.LogsDisjoint)
    (nextApart : registry.EntriesApart after)
    (same : after.committed = recorded.traced.cluster.committed)
    (opened : ∀ name opened, after.transactions name = some opened →
      recorded.traced.cluster.transactions name = some opened ∨
      (opened.code.Emits registry.Respects ∧
        registry.Keeps (applyAll recorded.traced.cluster.committed opened.log)
          (recorded.history ++ opened.log))) :
    registry.Registered
      ⟨⟨after, recorded.traced.originAfter after⟩, recorded.history⟩ := by
  refine ⟨nextDisjoint, nextApart, ?_, ?_⟩
  · rw [same]
    exact registered.keeps
  · intro name transaction found
    rw [same]
    rcases opened name transaction found with old | new
    · exact registered.opened name transaction old
    · exact new

theorem registered_step [RowLocks S]
    {allowed : Program S O W E Unit → S → Prop} (locked : registry.Locked S)
    (emits : ∀ code, Start code → code.Emits registry.Respects)
    {before after : Recorded S O W E}
    (step : Recorded.Step Start allowed before after)
    (registered : registry.Registered before) : registry.Registered after := by
  cases step with
  | commit permitted commits =>
      have stepped := @Traced.Commits.step S W K O E V _ Start _ _ _ _ _ _
        commits
      have nextDisjoint := stepped.logsDisjoint registered.disjoint
      have nextApart := entriesApart_step locked stepped registered.apart
      obtain ⟨name, _, _, commits⟩ := commits
      exact registered.commit commits nextDisjoint nextApart
  | other step silent =>
      have nextDisjoint := step.logsDisjoint registered.disjoint
      have nextApart := entriesApart_step locked step registered.apart
      have same := step.committed silent
      cases step with
      | begin name fresh start =>
          refine registered.other nextDisjoint nextApart same ?_
          intro other opened found
          rcases Cluster.transactions_set_cases found with ⟨_, ⟨⟩⟩ | ⟨_, old⟩
          · refine Or.inr ⟨emits _ start, ?_⟩
            rw [List.append_nil]
            exact registered.keeps
          · exact Or.inl old
      | exec name order found accepted _ =>
          obtain ⟨emits, keeps⟩ := registered.opened name _ found
          obtain ⟨respects, later⟩ := emits _ _ _ accepted
          refine registered.other nextDisjoint nextApart same ?_
          intro other opened otherFound
          rcases Cluster.transactions_set_cases otherFound with
            ⟨_, ⟨⟩⟩ | ⟨_, old⟩
          · refine Or.inr ⟨later, ?_⟩
            rw [← List.append_assoc, applyAll_append]
            exact Keeps.statement keeps respects
          · exact Or.inl old
      | lock name found granted =>
          obtain ⟨emits, keeps⟩ := registered.opened name _ found
          refine registered.other nextDisjoint nextApart same ?_
          intro other opened otherFound
          rcases Cluster.transactions_set_cases otherFound with
            ⟨_, ⟨⟩⟩ | ⟨_, old⟩
          · exact Or.inr ⟨emits true, keeps⟩
          · exact Or.inl old
      | busy name holder found held different =>
          obtain ⟨emits, keeps⟩ := registered.opened name _ found
          refine registered.other nextDisjoint nextApart same ?_
          intro other opened otherFound
          rcases Cluster.transactions_set_cases otherFound with
            ⟨_, ⟨⟩⟩ | ⟨_, old⟩
          · exact Or.inr ⟨emits false, keeps⟩
          · exact Or.inl old
      | commit name found => exact absurd ⟨found, rfl⟩ (silent name _)
      | abort name found =>
          refine registered.other nextDisjoint nextApart same ?_
          intro other opened otherFound
          rcases Cluster.transactions_set_cases otherFound with
            ⟨_, ⟨⟩⟩ | ⟨_, old⟩
          exact Or.inl old

end Cluster

end Registry

end Transactional
