import GpuLink.Broker.AuthorityObservation
import GpuLink.Library.Failures
import GpuLink.Shared.PythonText

/-!
# Observations of host processes

Linux tells the broker through procfs when the host was started, when a process
was started and in which cgroup it is.  A witness file of the operator says
which process an attempt may belong to.
-/

namespace GpuLink

namespace HostProcess

open PythonText

/-! ## Identities -/

def isLowerHex (c : Char) : Bool :=
  c.isDigit || ('a' ≤ c && c ≤ 'f')

/-- `BOOT_ID` -/
def isBootId (text : String) : Bool :=
  text.length = 36 && text.toList.zipIdx.all (fun entry =>
    if [8, 13, 18, 23].contains entry.2 then entry.1 = '-'
    else isLowerHex entry.1)

/-- `positive` -/
def positive (value : Int) : Bool :=
  0 < value && value ≤ maxSafeInteger

/-- What a process is known by. -/
structure HostIdentity where
  bootId : String
  pid : Int
  startTicks : Int
  cgroupV2 : String
  deriving DecidableEq, Repr

/-- The bounds of a cgroup path in a witness or in a journal. -/
def cgroupOk (path : String) : Bool :=
  path.toList.head? = some '/' && path.length ≤ 1024 &&
    !path.toList.contains '\x00' && !path.toList.contains '\n'

/-- The checks that a witness and the rows of both journals share. -/
def HostIdentity.valid (identity : HostIdentity) : Bool :=
  isBootId identity.bootId && 1 ≤ identity.pid && identity.pid ≤ 4194304 &&
    positive identity.startTicks && cgroupOk identity.cgroupV2

/-! ## Witnesses -/

structure Witness where
  attemptId : String
  workerId : String
  leaseId : String
  fenceEpoch : Nat
  identity : HostIdentity
  valid : identity.valid = true

/-- `FIELDS` of a witness -/
def witnessFields : List String :=
  ["attemptId", "workerId", "leaseId", "fenceEpoch", "bootId", "pid",
    "startTicks", "cgroupV2"]

open AuthorityBridge in
def readWitness (entry : Json) : Option Witness :=
  if entry.hasFields witnessFields then
    match entry.idField? "attemptId", entry.idField? "workerId",
      entry.idField? "leaseId", integerField? entry "fenceEpoch",
      textField? entry "bootId", integerField? entry "pid",
      integerField? entry "startTicks", textField? entry "cgroupV2" with
    | some attemptId, some workerId, some leaseId, some fenceEpoch, some bootId,
      some pid, some startTicks, some cgroupV2 =>
        let identity : HostIdentity := ⟨bootId, pid, startTicks, cgroupV2⟩
        if valid : positive fenceEpoch ∧ identity.valid then
          some ⟨attemptId, workerId, leaseId, fenceEpoch.toNat, identity,
            valid.2⟩
        else none
    | _, _, _, _, _, _, _, _ => none
  else none

/-- Entries that are valid and about different attempts. -/
def readWitnesses : List Witness → List Json → Except String (List Witness)
  | earlier, [] => .ok earlier
  | earlier, entry :: rest =>
      match readWitness entry with
      | none => .error "broker_invalid_host_witness"
      | some witness =>
          if earlier.any (fun other => other.attemptId = witness.attemptId) then
            .error "broker_invalid_host_witness"
          else readWitnesses (earlier ++ [witness]) rest

open AuthorityBridge in
/-- `_witnesses`; the file is missing, cannot be read, or holds a value. -/
def witnesses : Option (Except String Json) → Except String (List Witness)
  | none => .ok []
  | some (.error code) => .error code
  | some (.ok data) =>
      if data.hasFields ["schemaVersion", "witnesses"] ∧
          integerField? data "schemaVersion" = some 1 then
        match data.field? "witnesses" with
        | some (.array entries) =>
            if entries.length > 64 then .error "broker_invalid_host_witness"
            else readWitnesses [] entries
        | _ => .error "broker_invalid_host_witness"
      else .error "broker_invalid_host_witness"

/-- `witnesses.get` -/
def witnessOf (all : List Witness) (attemptId : String) : Option Witness :=
  all.find? (fun witness => witness.attemptId = attemptId)

/-! ## Readings of procfs -/

/-- What `read_text` gives. -/
inductive Reading where
  | text (content : String)
  | notFound
  | unreadable

/-- The files at one moment; every reading of the broker has its own. -/
structure Procfs where
  bootId : Reading
  stat : Int → Reading
  cgroup : Int → Reading

/-- `FileNotFoundError`, or another of the errors that are caught. -/
inductive ProcError where
  | notFound
  | failed
  deriving DecidableEq, Repr

def Reading.content : Reading → Except ProcError (List Char)
  | .text content => .ok content.toList
  | .notFound => .error .notFound
  | .unreadable => .error .failed

/-- `_boot_id` -/
def bootId (moment : Procfs) : Except ProcError String := do
  let raw ← moment.bootId.content
  return String.ofList (strip raw)

def deadStates : List (List Char) := [['Z'], ['X'], ['x']]

/-- The start time in the fields that follow the command of `stat`. -/
def startTime (fields : List (List Char)) : Except ProcError Int :=
  match fields with
  | [] => .error .failed
  | state :: _ =>
      if deadStates.contains state then .error .failed
      else
        match fields[19]? with
        | none => .error .failed
        | some field =>
            match integer? field with
            | none => .error .failed
            | some ticks => .ok ticks

/-- `_proc_identity` -/
def procIdentity (moment : Procfs) (pid : Int) : Except ProcError Int := do
  let raw ← (moment.stat pid).content
  match rpartition ')' raw with
  | none => throw .failed
  | some (before, tail) =>
      if (toString pid ++ " (").toList.isPrefixOf before then
        let fields := words (strip tail)
        if fields.length < 20 then throw .failed else startTime fields
      else throw .failed

/-- The paths of the unified hierarchy. -/
def unifiedPaths (raw : List Char) : List (List Char) :=
  ((lines raw).filter (fun line => ['0', ':', ':'].isPrefixOf line)).map
    (fun line => line.drop 3)

/-- `_cgroup_v2` -/
def cgroupV2 (moment : Procfs) (pid : Int) : Except ProcError String := do
  let raw ← (moment.cgroup pid).content
  match unifiedPaths raw with
  | [path] =>
      if path.head? = some '/' then return String.ofList path
      else throw .failed
  | _ => throw .failed

/-! ## Observations -/

inductive Observation where
  | present
  | absent
  | unknown
  deriving DecidableEq, Repr

def Observation.text : Observation → String
  | .present => "present"
  | .absent => "absent"
  | .unknown => "unknown"

/-- `source` of every observation -/
def Observation.source (observation : Observation) : String :=
  if observation ≠ .unknown then "linux-procfs-v1" else "none"

inductive Reason where
  | identityPresent
  | identityNotPresent
  | bootMismatch
  | identityChangedOrMoved
  | hostUnobservable
  | epochUnconfirmed
  | noBrokerVerifiedBinding
  | witnessIdentityMismatch
  | noDurableBinding
  | noProvenanceIntent
  | birthNotCommitted
  deriving DecidableEq, Repr

def Reason.text : Reason → String
  | .identityPresent => "identity_present"
  | .identityNotPresent => "identity_not_present"
  | .bootMismatch => "boot_mismatch"
  | .identityChangedOrMoved => "identity_changed_or_moved"
  | .hostUnobservable => "host_unobservable"
  | .epochUnconfirmed => "epoch_unconfirmed"
  | .noBrokerVerifiedBinding => "no_broker_verified_binding"
  | .witnessIdentityMismatch => "witness_identity_mismatch"
  | .noDurableBinding => "no_durable_binding"
  | .noProvenanceIntent => "no_provenance_intent"
  | .birthNotCommitted => "birth_not_committed"

/-- The process is gone, if the host has not been started again meanwhile. -/
def notPresent (moment : Procfs) (before : String) :
    Except ProcError (Observation × Reason) := do
  let again ← bootId moment
  if again = before then return (.absent, .identityNotPresent)
  else return (.unknown, .bootMismatch)

/-- The body of `inspect_procfs`, a moment for each reading. -/
def inspection (moments : Nat → Procfs) (identity : HostIdentity) :
    Except ProcError (Observation × Reason) := do
  let before ← bootId (moments 0)
  if isBootId before = false ∨ before ≠ identity.bootId then
    return (.unknown, .bootMismatch)
  match procIdentity (moments 1) identity.pid with
  | .error .notFound => notPresent (moments 2) before
  | .error .failed => throw .failed
  | .ok initial =>
      if initial ≠ identity.startTicks then notPresent (moments 2) before
      else
        let cgroup ← cgroupV2 (moments 2) identity.pid
        let final ← procIdentity (moments 3) identity.pid
        let finalCgroup ← cgroupV2 (moments 4) identity.pid
        let after ← bootId (moments 5)
        if before ≠ after ∨ final ≠ initial ∨ cgroup ≠ finalCgroup ∨
            cgroup ≠ identity.cgroupV2 then
          return (.unknown, .identityChangedOrMoved)
        else return (.present, .identityPresent)

/-- `inspect_procfs` -/
def inspectProcfs (moments : Nat → Procfs) (identity : HostIdentity) :
    Observation × Reason :=
  match inspection moments identity with
  | .ok seen => seen
  | .error _ => (.unknown, .hostUnobservable)

/-! ## What the observations say -/

open Failures

/-- A path begins with a slash and stays in one line. -/
theorem cgroupV2_ok {moment : Procfs} {pid : Int} {path : String}
    (read : cgroupV2 moment pid = .ok path) :
    path.toList.head? = some '/' ∧ '\n' ∉ path.toList := by
  obtain ⟨raw, _, parsed⟩ := ok_of_bind read
  split at parsed
  · next only single =>
      split at parsed
      · next slash =>
          cases parsed
          rw [String.toList_ofList]
          refine ⟨slash, ?_⟩
          intro broken
          have member : only ∈ unifiedPaths raw := by
            rw [single]
            exact List.mem_singleton_self only
          obtain ⟨line, kept, rfl⟩ := List.mem_map.mp member
          have inLine := List.mem_of_mem_drop broken
          have whole := lines_unbroken raw line (List.mem_filter.mp kept).1
            '\n' inLine
          cases whole
      · cases parsed
  · cases parsed

/-- What `notPresent` says, unless the reading fails. -/
theorem notPresent_ok {moment : Procfs} {before : String}
    {seen : Observation × Reason}
    (inspected : notPresent moment before = .ok seen) :
    seen = (.absent, .identityNotPresent) ∨
      seen = (.unknown, .bootMismatch) := by
  obtain ⟨again, _, more⟩ := ok_of_bind inspected
  split at more
  · exact Or.inl (Except.ok.inj more).symm
  · exact Or.inr (Except.ok.inj more).symm

/-- What an inspection says, unless a reading fails.  A process that is present
has the identity that was asked about. -/
theorem inspection_ok {moments : Nat → Procfs} {identity : HostIdentity}
    {seen : Observation × Reason}
    (inspected : inspection moments identity = .ok seen) :
    seen = (.absent, .identityNotPresent) ∨ seen = (.unknown, .bootMismatch) ∨
      seen = (.unknown, .identityChangedOrMoved) ∨
      seen = (.present, .identityPresent) ∧ isBootId identity.bootId ∧
        procIdentity (moments 1) identity.pid = .ok identity.startTicks ∧
        cgroupV2 (moments 2) identity.pid = .ok identity.cgroupV2 := by
  obtain ⟨before, _, more⟩ := ok_of_bind inspected
  split at more
  · exact Or.inr (Or.inl (Except.ok.inj more).symm)
  · next matching =>
      split at more
      · exact (notPresent_ok more).imp_right Or.inl
      · cases more
      · next initial stat =>
          split at more
          · exact (notPresent_ok more).imp_right Or.inl
          · next born =>
              obtain ⟨cgroup, placed, more⟩ := ok_of_bind more
              obtain ⟨final, _, more⟩ := ok_of_bind more
              obtain ⟨finalCgroup, _, more⟩ := ok_of_bind more
              obtain ⟨after, _, last⟩ := ok_of_bind more
              split at last
              · exact Or.inr (Or.inr (Or.inl (Except.ok.inj last).symm))
              · next unmoved =>
                  simp only [not_or, Bool.not_eq_false, not_not]
                    at matching born unmoved
                  obtain ⟨wellFormed, rfl⟩ := matching
                  obtain ⟨_, _, _, same⟩ := unmoved
                  exact Or.inr (Or.inr (Or.inr ⟨(Except.ok.inj last).symm,
                    wellFormed, born ▸ stat, same ▸ placed⟩))

theorem inspectProcfs_present {moments : Nat → Procfs}
    {identity : HostIdentity}
    (present : (inspectProcfs moments identity).1 = .present) :
    isBootId identity.bootId ∧
      procIdentity (moments 1) identity.pid = .ok identity.startTicks ∧
        cgroupV2 (moments 2) identity.pid = .ok identity.cgroupV2 := by
  unfold inspectProcfs at present
  split at present
  · next seen inspected =>
      rcases inspection_ok inspected with rfl | rfl | rfl | ⟨_, identified⟩
      · cases present
      · cases present
      · cases present
      · exact identified
  · cases present

end HostProcess

end GpuLink
