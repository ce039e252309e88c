import GpuLink.Broker.AuthorityBridge
import GpuLink.ControlPlane.BrokerAnswer

/-!
# The broker and the control plane together

The broker may crash and start again at any point, and answers of the control
plane may be lost, late or failures.  Nothing is posted twice for one attempt,
and an epoch that the broker has is the epoch of a stored attempt.
-/

namespace GpuLink

open Transactional

namespace AuthorityBridge

/-- Where the broker's one thread is. -/
inductive Process where
  | down
  | serving
  /-- The row is durable, and nothing has been sent. -/
  | inserted (request : BrokerRequest)
  | posted (request : BrokerRequest)
  /-- A valid answer has come. -/
  | answered (request : BrokerRequest) (fenceEpoch : Nat)

/-- The broker, the control plane, and what is between them. -/
structure System where
  plane : ControlPlane
  journal : Journal
  process : Process
  /-- Every POST of `_reserve_cp` so far. -/
  posts : List BrokerRequest
  /-- What the control plane has answered to which POST. -/
  responses : List (BrokerRequest × HttpResponse)
  /-- What `reserve` has returned to peers. -/
  granted : List (BrokerRequest × Nat)

/-- One step of either side. -/
inductive Step (config : Config) : System → System → Prop where
  /-- Anything that the control plane does on its own. -/
  | plane {system : System} {after : ControlPlane} :
      ControlPlane.Step system.plane none after →
      Step config system { system with plane := after }
  /-- The control plane commits a posted reservation and answers it.  A POST
  may come to it late, and a proxy may deliver it again. -/
  | respond {system : System} {after : ControlPlane} {request : BrokerRequest}
      {profiles : List BrokerProfile} {profile : BrokerProfile}
      {input : BrokerRequest} {answer : ReservedAttempt} (length : Nat) :
      request ∈ system.posts →
      admitBroker profiles (some ("Bearer " ++ config.token))
        (reserveBody request) = .ok (profile, input) →
      ControlPlane.Step system.plane (some (profile, input, answer)) after →
      Step config system { system with
        plane := after
        responses := system.responses ++
          [(request, ⟨201, length, some (reservedBody answer)⟩)] }
  /-- It is refused, or fails on the way. -/
  | refuse {system : System} {request : BrokerRequest}
      (response : HttpResponse) :
      request ∈ system.posts → response.status ≠ 201 →
      Step config system { system with
        responses := system.responses ++ [(request, response)] }
  | start {system : System} :
      system.process = .down →
      Step config system { system with
        journal := system.journal.quarantine
        process := .serving }
  /-- A peer's request that is denied before anything is sent. -/
  | deny {system : System} {peerUid : Nat} {payload : Json} {createdMs : Int}
      {code : String} :
      system.process = .serving →
      beginReserve config system.journal peerUid payload createdMs =
        .error code →
      Step config system system
  | insert {system : System} {peerUid : Nat} {payload : Json}
      {createdMs : Int} {request : BrokerRequest} {later : Journal} :
      system.process = .serving →
      beginReserve config system.journal peerUid payload createdMs =
        .ok (request, later) →
      Step config system { system with
        journal := later
        process := .inserted request }
  /-- The insertion raises; what it says of its commit cannot be relied on. -/
  | insertFails {system : System} {peerUid : Nat} {payload : Json}
      {createdMs : Int} {request : BrokerRequest} {later left : Journal} :
      system.process = .serving →
      beginReserve config system.journal peerUid payload createdMs =
        .ok (request, later) →
      left = system.journal ∨ left = later →
      Step config system { system with journal := left }
  | post {system : System} {request : BrokerRequest} :
      system.process = .inserted request →
      Step config system { system with
        posts := system.posts ++ [request]
        process := .posted request }
  | receive {system : System} {request : BrokerRequest}
      {response : HttpResponse} {fenceEpoch : Nat} :
      system.process = .posted request →
      (request, response) ∈ system.responses →
      acceptReserve request response = some fenceEpoch →
      Step config system { system with
        process := .answered request fenceEpoch }
  | acknowledge {system : System} {request : BrokerRequest}
      {fenceEpoch : Nat} {later : Journal} :
      system.process = .answered request fenceEpoch →
      system.journal.acknowledge request.attemptId fenceEpoch = some later →
      Step config system { system with
        journal := later
        process := .serving
        granted := system.granted ++ [(request, fenceEpoch)] }
  /-- `broker_authority_uncertain`: the connection, the answer or the update
  has failed. -/
  | uncertain {system : System} {left : Journal} :
      left = system.journal ∨
        (∃ request fenceEpoch, system.process = .answered request fenceEpoch ∧
          system.journal.acknowledge request.attemptId fenceEpoch =
            some left) →
      system.process ≠ .down →
      Step config system { system with
        journal := left
        process := .serving }
  | crash {system : System} :
      Step config system { system with process := .down }

abbrev Run (config : Config) : System → System → Prop :=
  Relation.ReflTransGen (Step config)

/-- The broker has never run, and the control plane's tables are empty. -/
structure System.Initial (system : System) : Prop where
  plane : system.plane = .sqlite (Store.empty, 0) ∨
    ∃ text, system.plane = .postgres text (Traced.initial Store.empty)
  journal : system.journal = KeyedTable.empty
  process : system.process = .down
  posts : system.posts = []
  responses : system.responses = []
  granted : system.granted = []

/-! ## Histories of the journal -/

/-- How the status of a row may change. -/
inductive ClaimStatus.Moves : ClaimStatus → ClaimStatus → Prop where
  | stays (status : ClaimStatus) : Moves status status
  | acknowledged : Moves .pending .reserved
  | quarantined : Moves .reserved .quarantined
  | abandoned : Moves .pending .quarantined

/-- Rows stay and keep what they were made for, and a new row is pending. -/
structure JournalMoves (before after : Journal) : Prop where
  kept : ∀ attemptId row, before.find? attemptId = some row →
    ∃ later, after.find? attemptId = some later ∧
      later.request = row.request ∧ row.status.Moves later.status
  fresh : ∀ attemptId row, before.find? attemptId = none →
    after.find? attemptId = some row → row.status = .pending

theorem journalMoves_refl (journal : Journal) :
    JournalMoves journal journal := by
  constructor
  · intro attemptId row found
    exact ⟨row, found, rfl, .stays _⟩
  · intro attemptId row absent found
    rw [absent] at found
    cases found

theorem quarantine_moves (journal : Journal) :
    JournalMoves journal journal.quarantine := by
  constructor
  · intro attemptId row found
    refine ⟨row.quarantine, by simp [find?_quarantine, found], ?_, ?_⟩
    · unfold RemoteClaim.quarantine
      split <;> rfl
    · unfold RemoteClaim.quarantine
      cases status : row.status with
      | pending =>
          rw [if_pos (Or.inl rfl)]
          exact .abandoned
      | reserved =>
          rw [if_pos (Or.inr rfl)]
          exact .quarantined
      | quarantined =>
          rw [if_neg (by simp), status]
          exact .stays _
  · intro attemptId row absent found
    simp [find?_quarantine, absent] at found

theorem insertPending_moves {journal later : Journal}
    {request : BrokerRequest} {workerId : String} {createdMs : Int}
    (inserted : journal.insertPending request workerId createdMs =
      some later) : JournalMoves journal later := by
  obtain ⟨absent, row, same, pending, _, rfl⟩ := insertPending_eq inserted
  have atId : row.attemptId = request.attemptId :=
    congrArg BrokerRequest.attemptId same
  constructor
  · intro attemptId old found
    refine ⟨old, ?_, rfl, .stays _⟩
    rw [KeyedTable.find?_put, if_neg]
    · exact found
    · intro equal
      rw [equal, atId, absent] at found
      cases found
  · intro attemptId new missing found
    rw [KeyedTable.find?_put] at found
    split at found
    · cases found
      exact pending
    · rw [missing] at found
      cases found

theorem acknowledge_moves {journal later : Journal} {attemptId : String}
    {fenceEpoch : Nat}
    (acknowledged : journal.acknowledge attemptId fenceEpoch = some later) :
    JournalMoves journal later := by
  obtain ⟨row, here, pending, rfl⟩ := acknowledge_eq acknowledged
  have atId : row.attemptId = attemptId := KeyedTable.key_of_find? here
  constructor
  · intro other old found
    rw [KeyedTable.find?_put]
    split
    · next equal =>
        rw [equal, atId, here] at found
        cases found
        refine ⟨_, rfl, rfl, ?_⟩
        rw [pending]
        exact .acknowledged
    · exact ⟨old, found, rfl, .stays _⟩
  · intro other new missing found
    rw [KeyedTable.find?_put] at found
    split at found
    · next equal =>
        rw [equal, atId, here] at missing
        cases missing
    · rw [missing] at found
      cases found

/-- The thread takes rows through the journal's three statements only. -/
theorem Step.journal {config : Config} {before after : System}
    (step : Step config before after) :
    JournalMoves before.journal after.journal := by
  cases step with
  | start => exact quarantine_moves _
  | insert _ begun => exact insertPending_moves (beginReserve_eq begun).2
  | insertFails _ begun left =>
      rcases left with rfl | rfl
      · exact journalMoves_refl _
      · exact insertPending_moves (beginReserve_eq begun).2
  | acknowledge _ acknowledged => exact acknowledge_moves acknowledged
  | uncertain left =>
      rcases left with rfl | ⟨request, fenceEpoch, _, acknowledged⟩
      · exact journalMoves_refl _
      · exact acknowledge_moves acknowledged
  | _ => exact journalMoves_refl _

/-! ## The invariant -/

/-- The request has its row. -/
def Journaled (journal : Journal) (request : BrokerRequest) : Prop :=
  ∃ row, journal.find? request.attemptId = some row ∧ row.request = request

theorem JournalMoves.journaled {before after : Journal}
    (moves : JournalMoves before after) {request : BrokerRequest}
    (journaled : Journaled before request) : Journaled after request := by
  obtain ⟨row, found, same⟩ := journaled
  obtain ⟨later, kept, unchanged, _⟩ := moves.kept _ row found
  exact ⟨later, kept, unchanged.trans same⟩

/-- What the thread knows at each place. -/
def System.Knows (system : System) : Prop :=
  match system.process with
  | .down | .serving => True
  | .inserted request =>
      Identified request ∧ Journaled system.journal request ∧
        ∀ posted ∈ system.posts, posted.attemptId ≠ request.attemptId
  | .posted request => Journaled system.journal request
  | .answered request fenceEpoch =>
      Journaled system.journal request ∧
        system.plane.store.Attempted request fenceEpoch

/-- Everything that was posted has a row, and every epoch is one of a stored
attempt. -/
structure Coherent (system : System) : Prop where
  plane : system.plane.Sound
  once : (system.posts.map BrokerRequest.attemptId).Nodup
  posted : ∀ request ∈ system.posts,
    Identified request ∧ Journaled system.journal request
  answered : ∀ request response fenceEpoch,
    (request, response) ∈ system.responses →
    acceptReserve request response = some fenceEpoch →
    system.plane.store.Attempted request fenceEpoch
  rows : ∀ attemptId row fenceEpoch,
    system.journal.find? attemptId = some row →
    row.fenceEpoch = some fenceEpoch →
    system.plane.store.Attempted row.request fenceEpoch
  granted : ∀ request fenceEpoch, (request, fenceEpoch) ∈ system.granted →
    system.plane.store.Attempted request fenceEpoch
  knows : system.Knows

theorem System.Initial.coherent {system : System} (initial : system.Initial) :
    Coherent system := by
  obtain ⟨plane, journal, process, posts, responses, granted⟩ := system
  obtain ⟨empty, rfl, rfl, rfl, rfl, rfl⟩ := initial
  refine ⟨?_, List.nodup_nil, by simp, by simp, ?_, by simp, trivial⟩
  · rcases empty with rfl | ⟨text, rfl⟩
    · exact .sqlite Store.guarded_empty
    · exact .postgres .refl
  · intro attemptId row fenceEpoch found
    cases found

section

variable {config : Config} {system : System}

theorem Coherent.planeMoves (coherent : Coherent system)
    {label : Option (BrokerProfile × BrokerRequest × ReservedAttempt)}
    {after : ControlPlane}
    (step : ControlPlane.Step system.plane label after) :
    Coherent { system with plane := after } := by
  have stays := step.attempts coherent.plane
  have later : ∀ request fenceEpoch,
      system.plane.store.Attempted request fenceEpoch →
      after.store.Attempted request fenceEpoch :=
    fun _ _ => ControlPlane.attempted_stays stays
  refine ⟨step.sound coherent.plane, coherent.once, coherent.posted, ?_, ?_,
    ?_, ?_⟩
  · intro request response fenceEpoch sent accepted
    exact later _ _ (coherent.answered _ _ _ sent accepted)
  · intro attemptId row fenceEpoch found known
    exact later _ _ (coherent.rows _ _ _ found known)
  · intro request fenceEpoch returned
    exact later _ _ (coherent.granted _ _ returned)
  · have knows := coherent.knows
    unfold System.Knows at knows ⊢
    dsimp only
    split at knows
    · trivial
    · trivial
    · exact knows
    · exact knows
    · exact ⟨knows.1, later _ _ knows.2⟩

/-- The journal changes, the thread stays where it is. -/
theorem Coherent.journalMoves (coherent : Coherent system) {left : Journal}
    (moves : JournalMoves system.journal left)
    (rows : ∀ attemptId row fenceEpoch,
      left.find? attemptId = some row → row.fenceEpoch = some fenceEpoch →
      system.plane.store.Attempted row.request fenceEpoch) :
    Coherent { system with journal := left } := by
  refine ⟨coherent.plane, coherent.once, ?_, coherent.answered, rows,
    coherent.granted, ?_⟩
  · intro request posted
    obtain ⟨identified, journaled⟩ := coherent.posted request posted
    exact ⟨identified, moves.journaled journaled⟩
  · have knows := coherent.knows
    unfold System.Knows at knows ⊢
    dsimp only
    split at knows
    · trivial
    · trivial
    · exact ⟨knows.1, moves.journaled knows.2.1, knows.2.2⟩
    · exact moves.journaled knows
    · exact ⟨moves.journaled knows.1, knows.2⟩

theorem Coherent.at (coherent : Coherent system) {process : Process}
    (knows : System.Knows { system with process := process }) :
    Coherent { system with process := process } :=
  ⟨coherent.plane, coherent.once, coherent.posted, coherent.answered,
    coherent.rows, coherent.granted, knows⟩

theorem Coherent.insert (coherent : Coherent system)
    {request : BrokerRequest} {workerId : String} {createdMs : Int}
    {later : Journal}
    (inserted : system.journal.insertPending request workerId createdMs =
      some later) :
    Coherent { system with journal := later } ∧ Journaled later request ∧
      ∀ posted ∈ system.posts, posted.attemptId ≠ request.attemptId := by
  have moves := insertPending_moves inserted
  obtain ⟨absent, row, same, pending, unacknowledged, rfl⟩ :=
    insertPending_eq inserted
  have atId : row.attemptId = request.attemptId :=
    congrArg BrokerRequest.attemptId same
  refine ⟨coherent.journalMoves moves ?_, ?_, ?_⟩
  · intro attemptId other fenceEpoch found known
    rw [KeyedTable.find?_put] at found
    split at found
    · cases found
      rw [unacknowledged] at known
      cases known
    · exact coherent.rows _ _ _ found known
  · refine ⟨row, ?_, same⟩
    rw [KeyedTable.find?_put, if_pos atId.symm]
  · intro posted member equal
    obtain ⟨_, old, found, _⟩ := coherent.posted posted member
    rw [equal, absent] at found
    cases found

theorem Coherent.acknowledge (coherent : Coherent system)
    {request : BrokerRequest} {fenceEpoch : Nat} {later : Journal}
    (place : system.process = .answered request fenceEpoch)
    (acknowledged : system.journal.acknowledge request.attemptId fenceEpoch =
      some later) :
    Coherent { system with journal := later } ∧
      system.plane.store.Attempted request fenceEpoch := by
  have moves := acknowledge_moves acknowledged
  have knows := coherent.knows
  rw [System.Knows, place] at knows
  obtain ⟨⟨journaledRow, journaled, made⟩, attempted⟩ := knows
  obtain ⟨row, here, _, rfl⟩ := acknowledge_eq acknowledged
  rw [here] at journaled
  cases journaled
  refine ⟨coherent.journalMoves moves ?_, attempted⟩
  intro attemptId other epoch found known
  rw [KeyedTable.find?_put] at found
  split at found
  · cases found
    cases known
    rw [← made] at attempted
    exact attempted
  · exact coherent.rows _ _ _ found known

theorem Coherent.respond (coherent : Coherent system) {after : ControlPlane}
    {request input : BrokerRequest} {profiles : List BrokerProfile}
    {profile : BrokerProfile} {answer : ReservedAttempt} (length : Nat)
    (posted : request ∈ system.posts)
    (admitted : admitBroker profiles (some ("Bearer " ++ config.token))
      (reserveBody request) = .ok (profile, input))
    (step : ControlPlane.Step system.plane (some (profile, input, answer))
      after) :
    Coherent { system with
      plane := after
      responses := system.responses ++
        [(request, ⟨201, length, some (reservedBody answer)⟩)] } := by
  have moved := coherent.planeMoves step
  have attempted := step.attempted coherent.plane
  have read := validate_reserveBody (coherent.posted request posted).1
  have same : input = request := by
    unfold admitBroker at admitted
    split at admitted
    · cases admitted
    · split at admitted
      · cases admitted
      · rw [read] at admitted
        cases admitted
        rfl
  refine ⟨moved.plane, moved.once, moved.posted, ?_, moved.rows,
    moved.granted, moved.knows⟩
  intro other response fenceEpoch sent accepted
  rcases List.mem_append.mp sent with earlier | new
  · exact moved.answered _ _ _ earlier accepted
  · cases List.mem_singleton.mp new
    rw [accept_reservedBody accepted, ← same]
    exact attempted

theorem Step.coherent {after : System} (step : Step config system after)
    (coherent : Coherent system) : Coherent after := by
  cases step with
  | plane step => exact coherent.planeMoves step
  | respond length posted admitted step =>
      exact coherent.respond length posted admitted step
  | refuse response posted refused =>
      refine ⟨coherent.plane, coherent.once, coherent.posted, ?_,
        coherent.rows, coherent.granted, coherent.knows⟩
      intro other answer fenceEpoch sent accepted
      rcases List.mem_append.mp sent with earlier | new
      · exact coherent.answered _ _ _ earlier accepted
      · cases List.mem_singleton.mp new
        unfold acceptReserve at accepted
        rw [if_pos (Or.inl refused)] at accepted
        cases accepted
  | start =>
      have moved := coherent.journalMoves (quarantine_moves _) (by
        intro attemptId row fenceEpoch found known
        rw [find?_quarantine] at found
        obtain ⟨old, here, rfl⟩ := Option.map_eq_some_iff.mp found
        have same : old.quarantine.request = old.request ∧
            old.quarantine.fenceEpoch = old.fenceEpoch := by
          unfold RemoteClaim.quarantine
          split <;> exact ⟨rfl, rfl⟩
        rw [same.2] at known
        rw [same.1]
        exact coherent.rows _ _ _ here known)
      exact moved.at trivial
  | deny => exact coherent
  | insert _ begun =>
      obtain ⟨valid, inserted⟩ := beginReserve_eq begun
      obtain ⟨moved, journaled, unposted⟩ := coherent.insert inserted
      exact moved.at ⟨validRequest_identified valid, journaled, unposted⟩
  | insertFails _ begun left =>
      rcases left with rfl | rfl
      · exact coherent
      · exact (coherent.insert (beginReserve_eq begun).2).1
  | @post request place =>
      have knows := coherent.knows
      rw [System.Knows, place] at knows
      obtain ⟨identified, journaled, unposted⟩ := knows
      refine ⟨coherent.plane, ?_, ?_, coherent.answered, coherent.rows,
        coherent.granted, journaled⟩
      · rw [List.map_append, List.nodup_append]
        refine ⟨coherent.once, List.nodup_singleton _, ?_⟩
        intro attemptId before other last equal
        obtain ⟨earlier, member, rfl⟩ := List.mem_map.mp before
        rw [List.mem_singleton.mp last] at equal
        exact unposted earlier member equal
      · intro posted member
        rcases List.mem_append.mp member with earlier | new
        · exact coherent.posted posted earlier
        · rw [List.mem_singleton.mp new]
          exact ⟨identified, journaled⟩
  | receive place sent accepted =>
      have knows := coherent.knows
      rw [System.Knows, place] at knows
      exact coherent.at ⟨knows, coherent.answered _ _ _ sent accepted⟩
  | acknowledge place acknowledged =>
      obtain ⟨moved, attempted⟩ := coherent.acknowledge place acknowledged
      refine ⟨moved.plane, moved.once, moved.posted, moved.answered,
        moved.rows, ?_, trivial⟩
      intro request fenceEpoch returned
      rcases List.mem_append.mp returned with earlier | new
      · exact moved.granted _ _ earlier
      · cases List.mem_singleton.mp new
        exact attempted
  | uncertain left =>
      rcases left with rfl | ⟨request, fenceEpoch, place, acknowledged⟩
      · exact coherent.at trivial
      · exact (coherent.acknowledge place acknowledged).1.at trivial
  | crash => exact coherent.at trivial

end

/-! ## Every run -/

theorem Run.coherent {config : Config} {first last : System}
    (run : Run config first last) (initial : first.Initial) :
    Coherent last := by
  induction run with
  | refl => exact initial.coherent
  | tail _ step induction => exact step.coherent induction

/-- In every run of the broker and the control plane: no attempt is posted
twice, an epoch in the journal or in an answer to a peer is that of the stored
attempt for the same subject and lease, and a row changes its status only along
`ClaimStatus.Moves`. -/
theorem broker_bridge {config : Config} {first system : System}
    (initial : first.Initial) (run : Run config first system) :
    (system.posts.map BrokerRequest.attemptId).Nodup ∧
    (∀ attemptId row fenceEpoch,
      system.journal.find? attemptId = some row →
      row.fenceEpoch = some fenceEpoch →
      system.plane.store.Attempted row.request fenceEpoch) ∧
    (∀ request fenceEpoch, (request, fenceEpoch) ∈ system.granted →
      system.plane.store.Attempted request fenceEpoch) ∧
    ∀ later, Step config system later →
      JournalMoves system.journal later.journal := by
  have coherent := run.coherent initial
  exact ⟨coherent.once, coherent.rows, coherent.granted,
    fun _ step => step.journal⟩

/-! ## A reservation -/

def sampleConfig : Config where
  workerId := "worker_1"
  token := "token-of-the-broker-of-worker-one"
  principals := [(1000, "worker_1")]

def sampleProfile : BrokerProfile where
  brokerId := "broker_1"
  workerId := "worker_1"
  projectId := "project"
  token := "token-of-the-broker-of-worker-one"
  artifactDigest := sampleClaim.artifactDigest
  adapterIdentity := "adapter"
  runtimePolicyRevision := "1"
  approvalRef := "approval"

def sampleRequest : BrokerRequest :=
  ⟨.job, "job_1", "lease_1", "attempt_1"⟩

def samplePayload : Json :=
  .object [("subjectKind", .string "job"), ("subjectId", .string "job_1"),
    ("leaseId", .string "lease_1"), ("attemptId", .string "attempt_1")]

def sampleAnswer : ReservedAttempt :=
  ⟨"attempt_1", 1, false⟩

def sampleRow : RemoteClaim :=
  ⟨"attempt_1", .job, "job_1", "lease_1", "worker_1", .pending, none, 1003⟩

/-- The control plane has placed the job, the broker has never run. -/
def sampleSystem (state : Database.State) : System where
  plane := .sqlite state
  journal := KeyedTable.empty
  process := .down
  posts := []
  responses := []
  granted := []

/-- The tables when the reservation has been committed. -/
def sampleReserved : Database.State :=
  ((reserveBrokerBoundAttempt sqlite sampleProfile sampleRequest 1003
    15000).runAlone Scan.stored (Database.State.after samplePlacement).1
      (Database.State.after samplePlacement).2).2

theorem sampleReserved_runs :
    (reserveBrokerBoundAttempt sqlite sampleProfile sampleRequest 1003
      15000).Runs (Database.State.after samplePlacement).1
      (Database.State.after samplePlacement).2 (.ok sampleAnswer)
      sampleReserved.1 sampleReserved.2 := by
  have outcome : ((reserveBrokerBoundAttempt sqlite sampleProfile sampleRequest
      1003 15000).runAlone Scan.stored
        (Database.State.after samplePlacement).1
        (Database.State.after samplePlacement).2).1 = .ok sampleAnswer := by
    decide +kernel
  have run := Program.runs_runAlone Scan.stored
    (reserveBrokerBoundAttempt sqlite sampleProfile sampleRequest 1003 15000)
    (Database.State.after samplePlacement).1
    (Database.State.after samplePlacement).2
  rw [outcome] at run
  exact run

/-- The job is submitted and placed. -/
theorem sample_placed :
    Run sampleConfig (sampleSystem (Store.empty, 0))
      (sampleSystem (Database.State.after samplePlacement)) := by
  have placed := serialRun_after
    (by decide +kernel : (sampleRun samplePlacement).isSome)
  generalize Database.State.after samplePlacement = placement at placed ⊢
  induction placed with
  | refl => exact .refl
  | tail _ step induction => exact induction.tail (.plane (.serial step))

/-- The request is journaled and posted. -/
def samplePosted (state : Database.State) : System :=
  { sampleSystem state with
    journal := KeyedTable.empty.put sampleRow
    process := .posted sampleRequest
    posts := [sampleRequest] }

theorem sample_posted :
    Run sampleConfig (sampleSystem (Database.State.after samplePlacement))
      (samplePosted (Database.State.after samplePlacement)) := by
  have begun : beginReserve sampleConfig
      (Journal.quarantine KeyedTable.empty) 1000 samplePayload 1003 =
        .ok (sampleRequest, KeyedTable.empty.put sampleRow) := by
    rfl
  generalize Database.State.after samplePlacement = placement
  have started : Run sampleConfig (sampleSystem placement) _ :=
    .single (.start rfl)
  have inserted := started.tail (.insert rfl begun)
  exact inserted.tail (.post rfl)

theorem sample_admitted :
    admitBroker [sampleProfile] (some ("Bearer " ++ sampleConfig.token))
      (reserveBody sampleRequest) = .ok (sampleProfile, sampleRequest) := by
  have identified : Identified sampleRequest := by
    unfold Identified
    decide
  have starts : ("Bearer " ++ sampleConfig.token).startsWith "Bearer " := by
    rw [String.startsWith_string_iff]
    exact ⟨_, rfl⟩
  unfold admitBroker authenticateBroker
  rw [validate_reserveBody identified]
  simp only [starts]
  rfl

/-- The control plane commits and answers, and the answer is written down. -/
theorem sample_granted :
    Run sampleConfig (samplePosted (Database.State.after samplePlacement))
      { sampleSystem sampleReserved with
        journal := (KeyedTable.empty.put sampleRow).put
          { sampleRow with status := .reserved, fenceEpoch := some 1 }
        process := .serving
        posts := [sampleRequest]
        responses :=
          [(sampleRequest, ⟨201, 200, some (reservedBody sampleAnswer)⟩)]
        granted := [(sampleRequest, 1)] } := by
  have run := sampleReserved_runs
  generalize Database.State.after samplePlacement = placement at run ⊢
  generalize sampleReserved = reserved at run ⊢
  have reserves : ControlPlane.Step (samplePosted placement).plane
      (some (sampleProfile, sampleRequest, sampleAnswer)) (.sqlite reserved) :=
    .reserved run
  have answered : Run sampleConfig (samplePosted placement) _ :=
    .single (.respond 200 (List.mem_singleton_self sampleRequest)
      sample_admitted reserves)
  have received := answered.tail (.receive rfl
    (List.mem_singleton_self _) (show acceptReserve sampleRequest
      ⟨201, 200, some (reservedBody sampleAnswer)⟩ = some 1 from rfl))
  exact received.tail (.acknowledge rfl rfl)

theorem broker_bridge_sample :
    ∃ system, Run sampleConfig (sampleSystem (Store.empty, 0)) system ∧
      system.granted = [(sampleRequest, 1)] ∧
      system.plane.store.Attempted sampleRequest 1 := by
  have run := sample_placed.trans (sample_posted.trans sample_granted)
  have initial : (sampleSystem (Store.empty, 0)).Initial :=
    ⟨Or.inl rfl, rfl, rfl, rfl, rfl, rfl⟩
  exact ⟨_, run, rfl,
    (broker_bridge initial run).2.2.1 _ _ (List.mem_singleton_self _)⟩

end AuthorityBridge

end GpuLink
