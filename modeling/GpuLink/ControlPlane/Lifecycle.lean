import GpuLink.ControlPlane.Runs

/-!
# The lifecycle of jobs and sessions

Which columns of a job or session row are set in which status, and which
statuses are final.  Both are read off the moves of a row, and so hold of every
state that a control plane commits.
-/

namespace GpuLink

open Transactional Sql

/-! ## Well-formed rows -/

structure JobRow.Unassigned (row : JobRow) : Prop where
  worker : row.assignedWorkerId = none
  gpu : row.assignedGpuUuid = none
  lease : row.leaseId = none
  expiry : row.leaseExpiresAt = none

structure JobRow.Assigned (row : JobRow) : Prop where
  worker : row.assignedWorkerId.isSome
  gpu : row.assignedGpuUuid.isSome
  lease : row.leaseId.isSome
  expiry : row.leaseExpiresAt.isSome

structure SessionRow.Unassigned (row : SessionRow) : Prop where
  worker : row.assignedWorkerId = none
  gpu : row.assignedGpuUuid = none
  lease : row.leaseId = none
  expiry : row.leaseExpiresAt = none

structure SessionRow.Assigned (row : SessionRow) : Prop where
  worker : row.assignedWorkerId.isSome
  gpu : row.assignedGpuUuid.isSome
  lease : row.leaseId.isSome
  expiry : row.leaseExpiresAt.isSome

/-- The job was reported, cancelled, or ran out of attempts. -/
def JobRow.isTerminal (row : JobRow) : Bool :=
  row.status = .succeeded || row.status = .failed || row.status = .cancelled

def SessionRow.isTerminal (row : SessionRow) : Bool :=
  row.status = .closed || row.status = .interrupted

def Call.isAssignment : Call → Bool
  | .assigned _ _ => true
  | _ => false

/-- How many assignments were applied to what is kept at a key. -/
def Kept.assignments {ρ : Type} (kept : Kept ρ) : Nat :=
  kept.calls.countP Call.isAssignment

/-- How many `assignJob` calls were applied to a job. -/
def Store.assignments (store : Store) (jobId : String) : Nat :=
  (store.calls (.job jobId)).countP Call.isAssignment

structure JobRow.WellFormed (row : JobRow) (assignments : Nat) : Prop where
  queued : row.status = .queued →
    row.Unassigned ∧ row.attempt < row.maxAttempts
  active : row.isActive →
    row.Assigned ∧ 1 ≤ row.attempt ∧ row.attempt ≤ row.maxAttempts
  counted : row.attempt = assignments

structure SessionRow.WellFormed (row : SessionRow) : Prop where
  free : row.status = .requested || row.isTerminal → row.Unassigned
  occupying : row.isOccupying → row.Assigned
  interrupted : row.status = .interrupted →
    row.interruptionCount = row.maxInterruptions + 1
  bounded : row.status ≠ .interrupted →
    row.interruptionCount ≤ row.maxInterruptions

/-- Every job and every session of the store is well formed. -/
structure Store.WellFormed (store : Store) : Prop where
  jobs : ∀ row ∈ store.jobs.rows, row.WellFormed (store.assignments row.id)
  sessions : ∀ row ∈ store.sessions.rows, row.WellFormed

/-! ## One move -/

/-- Well-formedness of what is kept at a key; an absent job was never
assigned. -/
def Kept.Sound : (key : RowKey) → Kept key.Row → Prop
  | .job _, kept => match kept.row with
      | none => kept.assignments = 0
      | some row => JobRow.WellFormed row kept.assignments
  | .session _, kept => ∀ row, kept.row = some row → SessionRow.WellFormed row
  | _, _ => True

/-- A final row stays as it is. -/
def Kept.Settled : (key : RowKey) → Kept key.Row → Kept key.Row → Prop
  | .job _, before, after => ∀ row, before.row = some row →
      JobRow.isTerminal row → after.row = some row
  | .session _, before, after => ∀ row, before.row = some row →
      SessionRow.isTerminal row → after.row = some row
  | _, _, _ => True

/-- What a move may do to a row. -/
def Lawful (key : RowKey) (before after : Kept key.Row) : Prop :=
  (Kept.Sound key before → Kept.Sound key after) ∧
    Kept.Settled key before after

theorem lawful_refl (key : RowKey) (kept : Kept key.Row) :
    Lawful key kept kept := by
  refine ⟨id, ?_⟩
  cases key <;> simp only [Kept.Settled] <;> intros <;> assumption

theorem lawful_trans (key : RowKey) {a b c : Kept key.Row}
    (first : Lawful key a b) (second : Lawful key b c) : Lawful key a c := by
  refine ⟨fun sound => second.1 (first.1 sound), ?_⟩
  cases key with
  | job id =>
      intro row found terminal
      exact second.2 row (first.2 row found terminal) terminal
  | session id =>
      intro row found terminal
      exact second.2 row (first.2 row found terminal) terminal
  | _ => trivial

/-- Every move of a job leaves a well-formed row and counts its assignments. -/
theorem JobMove.sound {call : Call} {before after : Option JobRow} {count : Nat}
    (move : JobMove call before after)
    (absent : before = none → count = 0)
    (sound : ∀ row, before = some row → row.WellFormed count) :
    ∃ row, after = some row ∧
      row.WellFormed (count + if call.isAssignment then 1 else 0) := by
  cases move with
  | @inserted row queued worker gpu lease expiry attempt bounded =>
      refine ⟨row, rfl, ?_, ?_, ?_⟩
      · exact fun _ => ⟨⟨worker, gpu, lease, expiry⟩, by omega⟩
      · simp [JobRow.isActive, queued]
      · simp [Call.isAssignment, attempt, absent rfl]
  | assigned row placement leaseId leaseExpiresAt now queued =>
      have old := sound row rfl
      obtain ⟨_, room⟩ := old.queued queued
      refine ⟨_, rfl, ?_, ?_, ?_⟩
      · simp
      · exact fun _ => ⟨⟨rfl, rfl, rfl, rfl⟩, by simp,
          Nat.succ_le_of_lt room⟩
      · simp [Call.isAssignment, old.counted]
  | started row workerId leaseId leaseExpiresAt now leased held =>
      have old := sound row rfl
      obtain ⟨assigned, bounds⟩ := old.active (by simp [JobRow.isActive, leased])
      refine ⟨_, rfl, ?_, ?_, ?_⟩
      · simp
      · exact fun _ => ⟨⟨assigned.worker, assigned.gpu, assigned.lease, rfl⟩,
          bounds⟩
      · simpa [Call.isAssignment] using old.counted
  | renewed row workerId leaseId leaseExpiresAt now running held =>
      have old := sound row rfl
      obtain ⟨assigned, bounds⟩ :=
        old.active (by simp [JobRow.isActive, running])
      refine ⟨_, rfl, ?_, ?_, ?_⟩
      · simp [running]
      · exact fun _ => ⟨⟨assigned.worker, assigned.gpu, assigned.lease, rfl⟩,
          bounds⟩
      · simpa [Call.isAssignment] using old.counted
  | finished row workerId leaseId outcome result error now active held =>
      refine ⟨_, rfl, ?_, ?_, ?_⟩
      · cases outcome <;> simp [Outcome.status]
      · cases outcome <;> simp [Outcome.status, JobRow.isActive]
      · simpa [Call.isAssignment] using (sound row rfl).counted
  | cancelled row now cancellable =>
      refine ⟨_, rfl, ?_, ?_, ?_⟩
      · simp
      · simp [JobRow.isActive]
      · simpa [Call.isAssignment] using (sound row rfl).counted
  | recovered row error now active =>
      refine ⟨_, rfl, ?_, ?_, ?_⟩
      · intro queued
        have room : ¬ row.maxAttempts ≤ row.attempt := by
          intro exhausted
          simp [exhausted] at queued
        exact ⟨⟨rfl, rfl, rfl, rfl⟩, Nat.lt_of_not_le room⟩
      · by_cases exhausted : row.maxAttempts ≤ row.attempt <;>
          simp [JobRow.isActive, exhausted]
      · simpa [Call.isAssignment] using (sound row rfl).counted

/-- No move starts from a final job. -/
theorem JobMove.not_terminal {call : Call} {row : JobRow}
    {after : Option JobRow} (move : JobMove call (some row) after) :
    ¬ row.isTerminal := by
  cases move with
  | assigned _ _ _ _ _ queued => simp [JobRow.isTerminal, queued]
  | started _ _ _ _ _ leased _ => simp [JobRow.isTerminal, leased]
  | renewed _ _ _ _ _ running _ => simp [JobRow.isTerminal, running]
  | finished _ _ _ _ _ _ _ active _ =>
      cases status : row.status <;>
        simp [JobRow.isActive, JobRow.isTerminal, status] at active ⊢
  | cancelled _ _ cancellable =>
      cases status : row.status <;>
        simp [JobRow.isActive, JobRow.isTerminal, status] at cancellable ⊢
  | recovered _ _ _ active =>
      cases status : row.status <;>
        simp [JobRow.isActive, JobRow.isTerminal, status] at active ⊢

/-- Every move of a session leaves a well-formed row. -/
theorem SessionMove.sound {call : Call} {before after : Option SessionRow}
    (move : SessionMove call before after)
    (sound : ∀ row, before = some row → row.WellFormed) :
    ∃ row, after = some row ∧ row.WellFormed := by
  cases move with
  | @inserted row requested worker gpu lease expiry count =>
      refine ⟨row, rfl, ?_, ?_, ?_, ?_⟩
      · exact fun _ => ⟨worker, gpu, lease, expiry⟩
      · simp [SessionRow.isOccupying, requested]
      · simp [requested]
      · intro _
        omega
  | assigned row placement leaseId leaseExpiresAt now requested =>
      have old := sound row rfl
      refine ⟨_, rfl, ?_, ?_, ?_, ?_⟩
      · simp [SessionRow.isTerminal]
      · exact fun _ => ⟨rfl, rfl, rfl, rfl⟩
      · simp
      · exact fun _ => old.bounded (by simp [requested])
  | started row workerId leaseId leaseExpiresAt now allocated held =>
      have old := sound row rfl
      have assigned := old.occupying (by simp [SessionRow.isOccupying, allocated])
      refine ⟨_, rfl, ?_, ?_, ?_, ?_⟩
      · simp [SessionRow.isTerminal]
      · exact fun _ => ⟨assigned.worker, assigned.gpu, assigned.lease, rfl⟩
      · simp
      · exact fun _ => old.bounded (by simp [allocated])
  | activated row workerId leaseId leaseExpiresAt now connecting held =>
      have old := sound row rfl
      have assigned :=
        old.occupying (by simp [SessionRow.isOccupying, connecting])
      refine ⟨_, rfl, ?_, ?_, ?_, ?_⟩
      · simp [SessionRow.isTerminal]
      · exact fun _ => ⟨assigned.worker, assigned.gpu, assigned.lease, rfl⟩
      · simp
      · exact fun _ => old.bounded (by simp [connecting])
  | renewed row workerId leaseId leaseExpiresAt now occupying held =>
      have old := sound row rfl
      have assigned := old.occupying occupying
      refine ⟨_, rfl, ?_, ?_, old.interrupted, old.bounded⟩
      · intro free
        cases status : row.status <;>
          simp [SessionRow.isOccupying, SessionRow.isTerminal, status]
            at occupying free
      · exact fun _ => ⟨assigned.worker, assigned.gpu, assigned.lease, rfl⟩
  | closed row now closable =>
      have old := sound row rfl
      refine ⟨_, rfl, ?_, ?_, ?_, ?_⟩
      · exact fun _ => ⟨rfl, rfl, rfl, rfl⟩
      · simp [SessionRow.isOccupying]
      · simp
      · intro _
        apply old.bounded
        intro interrupted
        simp [SessionRow.isOccupying, interrupted] at closable
  | recovered row now occupying =>
      have old := sound row rfl
      have count : row.interruptionCount ≤ row.maxInterruptions := by
        apply old.bounded
        intro interrupted
        simp [SessionRow.isOccupying, interrupted] at occupying
      refine ⟨_, rfl, ?_, ?_, ?_, ?_⟩
      · exact fun _ => ⟨rfl, rfl, rfl, rfl⟩
      · by_cases allowed : row.interruptionCount + 1 ≤ row.maxInterruptions <;>
          simp [SessionRow.isOccupying, allowed]
      · by_cases allowed : row.interruptionCount + 1 ≤ row.maxInterruptions
        · simp [allowed]
        · intro _
          show row.interruptionCount + 1 = row.maxInterruptions + 1
          omega
      · by_cases allowed : row.interruptionCount + 1 ≤ row.maxInterruptions
        · exact fun _ => allowed
        · simp [allowed]

/-- No move starts from a final session. -/
theorem SessionMove.not_terminal {call : Call} {row : SessionRow}
    {after : Option SessionRow} (move : SessionMove call (some row) after) :
    ¬ row.isTerminal := by
  cases move with
  | assigned _ _ _ _ _ requested => simp [SessionRow.isTerminal, requested]
  | started _ _ _ _ _ allocated _ => simp [SessionRow.isTerminal, allocated]
  | activated _ _ _ _ _ connecting _ =>
      simp [SessionRow.isTerminal, connecting]
  | renewed _ _ _ _ _ occupying _ =>
      cases status : row.status <;>
        simp [SessionRow.isOccupying, SessionRow.isTerminal, status]
          at occupying ⊢
  | closed _ _ closable =>
      cases status : row.status <;>
        simp [SessionRow.isOccupying, SessionRow.isTerminal, status]
          at closable ⊢
  | recovered _ _ occupying =>
      cases status : row.status <;>
        simp [SessionRow.isOccupying, SessionRow.isTerminal, status]
          at occupying ⊢

theorem lawful_of_move {key : RowKey} {before after : Kept key.Row}
    (moved : KeptMove (fun _ => True) key before after) :
    Lawful key before after := by
  rcases moved with rfl | ⟨call, _, move, noted⟩
  · exact lawful_refl key _
  obtain ⟨beforeRow, beforeCalls⟩ := before
  obtain ⟨afterRow, afterCalls⟩ := after
  simp only at move noted
  subst noted
  cases key with
  | job id =>
      constructor
      · intro sound
        obtain ⟨row, rfl, formed⟩ := @JobMove.sound call _ _
          (beforeCalls.countP Call.isAssignment) move
          (by rintro rfl; exact sound) (by rintro row rfl; exact sound)
        simpa [Kept.Sound, Kept.assignments, List.countP_append,
          List.countP_cons] using formed
      · rintro row rfl terminal
        exact (JobMove.not_terminal move terminal).elim
  | session id =>
      constructor
      · intro sound
        obtain ⟨row, rfl, formed⟩ := SessionMove.sound move sound
        rintro other ⟨⟩
        exact formed
      · rintro row rfl terminal
        exact (SessionMove.not_terminal move terminal).elim
  | _ => exact ⟨fun _ => trivial, trivial⟩

/-! ## Runs -/

theorem wellFormed_of_sound {store : Store}
    (sound : ∀ key, Kept.Sound key (store.get key)) : store.WellFormed where
  jobs row member := by
    have found : store.jobs.find? row.id = some row :=
      KeyedTable.mem_rows_iff.mp member
    have here := sound (.job row.id)
    simp only [Kept.Sound, Store.get, Store.row?, found] at here
    exact here
  sessions row member :=
    sound (.session row.id) row (KeyedTable.mem_rows_iff.mp member)

theorem sound_empty (key : RowKey) : Kept.Sound key (Store.empty.get key) := by
  cases key with
  | job id => rfl
  | session id =>
      intro row found
      cases found
  | _ => trivial

/-- Final rows of the first store are rows of the second. -/
def Store.Settles (before after : Store) : Prop :=
  (∀ row ∈ before.jobs.rows, row.isTerminal → row ∈ after.jobs.rows) ∧
    ∀ row ∈ before.sessions.rows, row.isTerminal → row ∈ after.sessions.rows

theorem settles_of_lawful {before after : Store}
    (lawful : Rowwise Lawful before after) : before.Settles after := by
  constructor
  · intro row member terminal
    exact KeyedTable.mem_of_find?
      ((lawful (.job row.id)).2 row (KeyedTable.mem_rows_iff.mp member) terminal)
  · intro row member terminal
    exact KeyedTable.mem_of_find?
      ((lawful (.session row.id)).2 row (KeyedTable.mem_rows_iff.mp member)
        terminal)

/-- In every state that a control plane commits, jobs and sessions are well
formed, and the final ones are found unchanged in every state committed
later. -/
theorem lifecycle_wellFormed {text : Collation} {store later : Store}
    (run : CommittedThen text store later) :
    store.WellFormed ∧ store.Settles later := by
  obtain ⟨first, second⟩ :=
    run.rowwise lawful_refl lawful_trans (fun _ => lawful_of_move)
  exact ⟨wellFormed_of_sound (fun key => (first key).1 (sound_empty key)),
    settles_of_lawful second⟩

theorem lifecycle_wellFormed_sample :
    (Database.State.after samplePlacement).1.WellFormed ∧
      (Database.State.after samplePlacement).1.Settles
        (Database.State.after sampleCompletion).1 :=
  lifecycle_wellFormed (.serial
    (serialRun_after (by decide +kernel))
    (serialRun_after_append (by decide +kernel)) :
    CommittedThen Collation.binary _ _)

end GpuLink
