import GpuLink.ControlPlane.HttpServer
import GpuLink.Library.Failures

/-!
# What is done for a request

Nothing is read or called for a request without the credentials that its route
asks for.  A call that fails is the last, and every change is announced before
it is answered.
-/

namespace GpuLink

namespace HttpServer

/-! ## Rules -/

inductive Access where
  | anyone
  | bearer (scope : Scope)
  | broker
  deriving DecidableEq, Repr

/-- Who may have what called.  The clients of the event stream are told for
whoever passes the route. -/
def Operation.access (asked : Access) : Operation → Access
  | .counts => .anyone
  | .openEventStream | .listWorkers | .setWorkerDrain _ _ | .runOnce =>
      .bearer .admin
  | .reserveBrokerAttempt _ | .observeBrokerAttempt _ => .broker
  | .registerWorker _ | .heartbeatWorker _ _ | .getWorker _
  | .listWorkerJobs _ | .listWorkerSessions _ | .startJob _ _ | .renewJob _ _
  | .finishJob _ _ | .startSession _ _ | .activateSession _ _
  | .renewSession _ _ | .issueDataPlaneGrant _ .worker _ => .bearer .worker
  | .submitJob _ _ | .listJobs _ _ | .getJob _ | .cancelJob _
  | .submitSession _ _ | .listSessions _ _ | .getSession _
  | .issueDataPlaneGrant _ .client _ | .closeSession _ => .bearer .client
  | .broadcastNewEvents => asked

/-- The body that is passed on. -/
def Operation.body? : Operation → Option Json
  | .reserveBrokerAttempt body | .observeBrokerAttempt body
  | .registerWorker body | .heartbeatWorker _ body | .setWorkerDrain _ body
  | .submitJob body _ | .startJob _ body | .renewJob _ body
  | .finishJob _ body | .submitSession body _ | .startSession _ body
  | .activateSession _ body | .renewSession _ body => some body
  | .issueDataPlaneGrant _ _ body => body
  | _ => none

/-- What the clients of the event stream are told of at once. -/
def Operation.announced : Operation → Bool
  | .registerWorker _ | .heartbeatWorker _ _ | .setWorkerDrain _ _
  | .submitJob _ _ | .startJob _ _ | .finishJob _ _ | .cancelJob _
  | .submitSession _ _ | .startSession _ _ | .activateSession _ _
  | .closeSession _ | .runOnce => true
  | _ => false

/-- One that tells the clients of nothing. -/
def Operation.silent : Operation → Bool
  | .broadcastNewEvents => false
  | operation => !operation.announced

/-- What a route asks for before it reads; only the routes of a broker do so
without `authorize`. -/
def Route.credential (route : Route) : Access :=
  match route.scope with
  | some scope => .bearer scope
  | none => .broker

variable (service : Service) (request : Request)

def Permits : Access → Prop
  | .anyone => True
  | .bearer scope =>
      service.authenticate request.authorization scope = true
  | .broker => service.brokerProfiles ≠ [] ∧
      service.authenticateBroker request.authorization = true

/-- A call that the request may have made.  What is handed a body asks for the
credential that the body has been read under. -/
structure MayCall (asked : Access) (operation : Operation) : Prop where
  permitted : Permits service request (operation.access asked)
  credential : ∀ body ∈ operation.body?, operation.access asked = asked
  body : ∀ body ∈ operation.body?, decodeBody request = .ok body

def Allowed (asked : Access) : Action → Prop
  | .read => Permits service request asked
  | .call operation => MayCall service request asked operation

/-- An event stream that fails has been answered before. -/
def Breaks : Action → Thrown → Prop
  | .read, thrown => decodeBody request = .error thrown
  | .call operation, thrown => operation ≠ .openEventStream ∧
      service.perform operation = .error thrown

def Announces : Action → Action → Prop
  | .call operation, next => operation.announced = true ∧
      (∃ result, service.perform operation = .ok result) ∧
        next = .call .broadcastNewEvents
  | .read, _ => False

/-- How a part of a handler behaves. -/
structure Conducts {α : Type} (asked : Access) (run : Handler α) : Prop where
  allowed : run.Emits (Allowed service request asked)
  halts : run.Halts (Breaks service request)
  leads : run.Leads (Announces service)
  trails : run.Trails (· = .call .broadcastNewEvents) (Announces service)

variable {service request} {asked : Access}

theorem Conducts.pure {α : Type} (value : α) :
    Conducts service request asked (Pure.pure value : Handler α) :=
  ⟨.pure value, .of_nil rfl, .of_none (List.forall_mem_nil _),
    .of_none (List.forall_mem_nil _)⟩

theorem Conducts.lift {α : Type} (result : Except Thrown α) :
    Conducts service request asked (Traced.lift result : Handler α) :=
  ⟨.lift result, .of_nil rfl, .of_none (List.forall_mem_nil _),
    .of_none (List.forall_mem_nil _)⟩

theorem Conducts.bind {α β : Type} {first : Handler α} {next : α → Handler β}
    (conducts : Conducts service request asked first)
    (later : ∀ value, first.result = .ok value →
      Conducts service request asked (next value)) :
    Conducts service request asked (first >>= next) :=
  ⟨conducts.allowed.bind fun value done => (later value done).allowed,
    conducts.halts.bind fun value done => (later value done).halts,
    conducts.leads.bind fun value done => (later value done).leads,
    conducts.trails.bind fun value done => (later value done).trails⟩

theorem readJson_eq : readJson request = ⟨[.read], decodeBody request⟩ := by
  cases read : decodeBody request <;>
    simp [readJson, read, Traced.act, Traced.lift, Traced.bind_ok]

theorem call_eq (operation : Operation) : service.call operation =
    ⟨[.call operation], service.perform operation⟩ := by
  cases ran : service.perform operation <;>
    simp [Service.call, ran, Traced.act, Traced.lift, Traced.bind_ok]

theorem emits_single {α : Type} {action : Action} {result : Except Thrown α}
    (may : Allowed service request asked action) :
    (⟨[action], result⟩ : Handler α).Emits (Allowed service request asked) := by
  intro other member
  rw [List.mem_singleton.mp member]
  exact may

theorem halts_single {α : Type} {action : Action} {result : Except Thrown α}
    (breaks : ∀ thrown, Breaks service request action thrown →
      result = .error thrown) :
    (⟨[action], result⟩ : Handler α).Halts (Breaks service request) := by
  intro earlier other later thrown split broken
  obtain ⟨rfl, same⟩ | ⟨rest, rfl, never⟩ := List.cons_eq_append_iff.mp split
  · obtain ⟨rfl, rfl⟩ := List.cons.inj same
    exact ⟨rfl, breaks thrown broken⟩
  · exact absurd never.symm (List.append_ne_nil_of_right_ne_nil _
      (List.cons_ne_nil _ _))

/-- A call that the body has no part in. -/
theorem MayCall.bare {operation : Operation}
    (permitted : Permits service request (operation.access asked))
    (bare : operation.body? = none) :
    MayCall service request asked operation := by
  refine ⟨permitted, ?_, ?_⟩ <;>
    · rw [bare]
      intro body never
      cases never

theorem emits_call {operation : Operation}
    (may : MayCall service request asked operation) :
    (⟨[.call operation], service.perform operation⟩ : Handler Json).Emits
      (Allowed service request asked) := by
  intro other member
  rw [List.mem_singleton.mp member]
  exact may

theorem halts_call (operation : Operation) :
    (⟨[.call operation], service.perform operation⟩ : Handler Json).Halts
      (Breaks service request) :=
  halts_single fun _ broken => broken.2

theorem leads_single {α : Type} {action : Action} {result : Except Thrown α}
    (quiet : ∀ next, ¬Announces service action next) :
    (⟨[action], result⟩ : Handler α).Leads (Announces service) := by
  apply Traced.Leads.of_none
  intro other member
  rw [List.mem_singleton.mp member]
  exact quiet

theorem trails_single {α : Type} {action : Action} {result : Except Thrown α}
    (other : action ≠ .call .broadcastNewEvents) :
    (⟨[action], result⟩ : Handler α).Trails (· = .call .broadcastNewEvents)
      (Announces service) := by
  apply Traced.Trails.of_none
  intro action member
  rw [List.mem_singleton.mp member]
  exact other

theorem conducts_readJson (credited : Permits service request asked) :
    Conducts service request asked (readJson request) := by
  rw [readJson_eq]
  refine ⟨emits_single credited, halts_single fun _ broken => broken,
    leads_single fun _ => id, trails_single ?_⟩
  intro never
  cases never

theorem quiet_of_unannounced {operation : Operation}
    (quiet : operation.announced = false) (next : Action) :
    ¬Announces service (.call operation) next := by
  rintro ⟨loud, _⟩
  rw [quiet] at loud
  cases loud

theorem Operation.unannounced_of_silent {operation : Operation}
    (silent : operation.silent = true) : operation.announced = false := by
  cases operation <;> first | rfl | cases silent

theorem Operation.ne_broadcast_of_silent {operation : Operation}
    (silent : operation.silent = true) :
    Action.call operation ≠ .call .broadcastNewEvents := by
  rintro same
  cases same
  cases silent

theorem conducts_call {operation : Operation}
    (may : MayCall service request asked operation)
    (silent : operation.silent = true) :
    Conducts service request asked (service.call operation) := by
  rw [call_eq]
  exact ⟨emits_call may, halts_call operation,
    leads_single (quiet_of_unannounced
      (Operation.unannounced_of_silent silent)),
    trails_single (Operation.ne_broadcast_of_silent silent)⟩

/-- A change that fails is not announced. -/
theorem announce_error {operation : Operation} {thrown : Thrown}
    (ran : service.perform operation = .error thrown) :
    service.announce operation = ⟨[.call operation], .error thrown⟩ := by
  unfold Service.announce
  rw [call_eq, Traced.bind_error ran]

theorem announce_ok {operation : Operation} {result : Json}
    (ran : service.perform operation = .ok result) :
    ∃ answer, service.announce operation =
      ⟨[.call operation, .call .broadcastNewEvents], answer⟩ := by
  unfold Service.announce
  rw [call_eq, Traced.bind_ok ran, call_eq]
  cases told : service.perform .broadcastNewEvents with
  | ok _ => exact ⟨_, by rw [Traced.bind_ok rfl]; rfl⟩
  | error _ => exact ⟨_, by rw [Traced.bind_error rfl]; rfl⟩

theorem leads_announce (operation : Operation) :
    (service.announce operation).Leads (Announces service) := by
  cases ran : service.perform operation with
  | error thrown =>
      rw [announce_error ran]
      apply leads_single
      rintro next ⟨_, ⟨result, done⟩, _⟩
      rw [ran] at done
      cases done
  | ok result =>
      obtain ⟨answer, same⟩ := announce_ok ran
      rw [same]
      intro earlier action later next split due
      obtain ⟨rfl, rfl, rfl⟩ | ⟨_, rfl, _⟩ := Traced.split_pair split
      · exact ⟨[], by rw [due.2.2]⟩
      · exact absurd due (quiet_of_unannounced rfl next)

/-- The clients are told of the change that has been made. -/
theorem trails_announce {operation : Operation}
    (loud : operation.announced = true) :
    (service.announce operation).Trails (· = .call .broadcastNewEvents)
      (Announces service) := by
  have other : Action.call operation ≠ .call .broadcastNewEvents := by
    intro same
    cases same
    cases loud
  cases ran : service.perform operation with
  | error thrown =>
      rw [announce_error ran]
      exact trails_single other
  | ok result =>
      obtain ⟨answer, same⟩ := announce_ok ran
      rw [same]
      intro earlier action later split isTold
      obtain ⟨_, rfl, _⟩ | ⟨rfl, _, _⟩ := Traced.split_pair split
      · exact absurd isTold other
      · exact ⟨[], _, rfl, loud, ⟨result, ran⟩, isTold⟩

/-- A change that has been made is announced. -/
theorem conducts_announce {operation : Operation}
    (may : MayCall service request asked operation)
    (credited : Permits service request asked)
    (loud : operation.announced = true) :
    Conducts service request asked (service.announce operation) := by
  have told : MayCall service request asked .broadcastNewEvents :=
    .bare credited rfl
  refine ⟨?_, ?_, leads_announce operation, trails_announce loud⟩
  · unfold Service.announce
    rw [call_eq, call_eq]
    refine (emits_call may).bind fun result _ => ?_
    exact (emits_call told).bind fun _ _ => .pure result
  · unfold Service.announce
    rw [call_eq, call_eq]
    refine (halts_call operation).bind fun result _ => ?_
    exact (halts_call _).bind fun _ _ => .of_nil rfl

/-! ## Answers -/

/-- What is handed on of a body is what has been read. -/
theorem conducts_change {operation : Json → Operation}
    {respond : Json → Response} (credited : Permits service request asked)
    (may : ∀ body, decodeBody request = .ok body →
      MayCall service request asked (operation body))
    (loud : ∀ body, (operation body).announced = true) :
    Conducts service request asked
      (service.change request operation respond) := by
  refine (conducts_readJson credited).bind fun body read => ?_
  rw [readJson_eq] at read
  refine (conducts_announce (may body read) credited (loud body)).bind
    fun result _ => ?_
  exact .pure _

theorem conducts_changeQuietly {operation : Json → Operation}
    {respond : Json → Response} (credited : Permits service request asked)
    (may : ∀ body, decodeBody request = .ok body →
      MayCall service request asked (operation body))
    (silent : ∀ body, (operation body).silent = true) :
    Conducts service request asked
      (service.changeQuietly request operation respond) := by
  refine (conducts_readJson credited).bind fun body read => ?_
  rw [readJson_eq] at read
  refine (conducts_call (may body read) (silent body)).bind fun result _ => ?_
  exact .pure _

theorem conducts_trigger {operation : Operation} {respond : Json → Response}
    (credited : Permits service request asked)
    (may : MayCall service request asked operation)
    (loud : operation.announced = true) :
    Conducts service request asked (service.trigger operation respond) :=
  (conducts_announce may credited loud).bind fun _ _ => .pure _

theorem conducts_look {operation : Operation} {respond : Json → Response}
    (may : MayCall service request asked operation)
    (silent : operation.silent = true) :
    Conducts service request asked (service.look operation respond) :=
  (conducts_call may silent).bind fun _ _ => .pure _

theorem conducts_list {url : Url} {operation : Option String → Int → Operation}
    {name : String}
    (may : ∀ status limit, MayCall service request asked
      (operation status limit))
    (silent : ∀ status limit, (operation status limit).silent = true) :
    Conducts service request asked (service.list url operation name) :=
  (Conducts.lift _).bind fun limit _ =>
    conducts_look (may _ limit) (silent _ limit)

/-- A call without a body. -/
theorem mayCall_of_permits {operation : Operation}
    (granted : Permits service request asked)
    (access : operation.access asked = asked)
    (bare : operation.body? = none) :
    MayCall service request asked operation := by
  refine .bare ?_ bare
  rw [access]
  exact granted

/-- One that the body is passed to. -/
theorem mayCall_of_body {operation : Operation} {body : Json}
    (granted : Permits service request asked)
    (read : decodeBody request = .ok body)
    (access : operation.access asked = asked)
    (passed : operation.body? = some body) :
    MayCall service request asked operation := by
  refine ⟨?_, fun _ _ => access, ?_⟩
  · rw [access]
    exact granted
  · rw [passed]
    intro other same
    rw [← Option.some.inj same]
    exact read

theorem conducts_workerLeases (id : String)
    (granted : Permits service request (.bearer .worker)) :
    Conducts service request (.bearer .worker) (service.workerLeases id) := by
  have may : ∀ operation : Operation,
      operation.access (.bearer .worker) = .bearer .worker →
        operation.body? = none →
          MayCall service request (.bearer .worker) operation :=
    fun _ access bare => mayCall_of_permits granted access bare
  refine (conducts_call (may (.getWorker id) rfl rfl) rfl).bind
    fun worker _ => ?_
  split_ifs
  · exact .pure _
  · refine (conducts_call (may (.listWorkerJobs id) rfl rfl) rfl).bind
      fun jobs _ => ?_
    refine (conducts_call (may (.listWorkerSessions id) rfl rfl) rfl).bind
      fun sessions _ => ?_
    exact .pure _

theorem conducts_brokerRoute {operation : Json → Operation} {status : Nat}
    (access : ∀ body, (operation body).access .broker = .broker)
    (passed : ∀ body, (operation body).body? = some body)
    (silent : ∀ body, (operation body).silent = true) :
    Conducts service request .broker
      (service.brokerRoute request operation status) := by
  unfold Service.brokerRoute
  split_ifs with off granted
  · exact .pure _
  · have credited : Permits service request .broker :=
      ⟨fun none => off (List.isEmpty_iff.mpr none), granted⟩
    exact conducts_changeQuietly credited (fun body read =>
      mayCall_of_body credited read (access body) (passed body)) silent
  · exact .pure _

theorem conducts_eventStream
    (granted : Permits service request (.bearer .admin)) :
    Conducts service request (.bearer .admin) Service.eventStream := by
  have one : Conducts service request (.bearer .admin)
      (Traced.act (.call .openEventStream) : Handler Unit) := by
    refine ⟨emits_single (mayCall_of_permits granted rfl rfl),
      halts_single fun _ broken => absurd rfl broken.1,
      leads_single (quiet_of_unannounced rfl),
      trails_single (Operation.ne_broadcast_of_silent rfl)⟩
  exact one.bind fun _ _ => .pure _

/-! ## Routes -/

/-- What a route does for a request that has passed `authorize`. -/
def Passes (route : Route) : Prop :=
  ∀ (service : Service) (request : Request) (url : Url) (id : String),
    (∀ scope ∈ route.scope,
      service.authenticate request.authorization scope = true) →
      Conducts service request route.credential
        (route.answer service request url id)

theorem passes_change {method : String} {path : Path} {scope : Scope}
    {operation : Request → String → Json → Operation}
    {respond : Json → Response}
    (access : ∀ request id body,
      (operation request id body).access (.bearer scope) = .bearer scope)
    (passed : ∀ request id body,
      (operation request id body).body? = some body)
    (loud : ∀ request id body,
      (operation request id body).announced = true) :
    Passes ⟨method, path, some scope, fun service request _ id =>
      service.change request (operation request id) respond⟩ := by
  intro service request url id granted
  have credited : Permits service request (.bearer scope) := granted scope rfl
  exact conducts_change credited (fun body read =>
    mayCall_of_body credited read (access request id body)
      (passed request id body)) (loud request id)

theorem passes_changeQuietly {method : String} {path : Path} {scope : Scope}
    {operation : String → Json → Operation} {respond : Json → Response}
    (access : ∀ id body,
      (operation id body).access (.bearer scope) = .bearer scope)
    (passed : ∀ id body, (operation id body).body? = some body)
    (silent : ∀ id body, (operation id body).silent = true) :
    Passes ⟨method, path, some scope, fun service request _ id =>
      service.changeQuietly request (operation id) respond⟩ := by
  intro service request url id granted
  have credited : Permits service request (.bearer scope) := granted scope rfl
  exact conducts_changeQuietly credited (fun body read =>
    mayCall_of_body credited read (access id body) (passed id body)) (silent id)

theorem passes_trigger {method : String} {path : Path} {scope : Scope}
    {operation : String → Operation} {respond : Json → Response}
    (access : ∀ id, (operation id).access (.bearer scope) = .bearer scope)
    (bare : ∀ id, (operation id).body? = none)
    (loud : ∀ id, (operation id).announced = true) :
    Passes ⟨method, path, some scope, fun service _ _ id =>
      service.trigger (operation id) respond⟩ := by
  intro service request url id granted
  have credited : Permits service request (.bearer scope) := granted scope rfl
  exact conducts_trigger credited
    (mayCall_of_permits credited (access id) (bare id)) (loud id)

theorem passes_look {method : String} {path : Path} {scope : Scope}
    {operation : String → Operation} {respond : Json → Response}
    (access : ∀ id, (operation id).access (.bearer scope) = .bearer scope)
    (bare : ∀ id, (operation id).body? = none)
    (silent : ∀ id, (operation id).silent = true) :
    Passes ⟨method, path, some scope, fun service _ _ id =>
      service.look (operation id) respond⟩ := by
  intro service request url id granted
  have credited : Permits service request (.bearer scope) := granted scope rfl
  exact conducts_look (mayCall_of_permits credited (access id) (bare id))
    (silent id)

theorem passes_list {method : String} {path : Path} {scope : Scope}
    {operation : Option String → Int → Operation} {name : String}
    (access : ∀ status limit,
      (operation status limit).access (.bearer scope) = .bearer scope)
    (bare : ∀ status limit, (operation status limit).body? = none)
    (silent : ∀ status limit, (operation status limit).silent = true) :
    Passes ⟨method, path, some scope, fun service _ url _ =>
      service.list url operation name⟩ := by
  intro service request url id granted
  have credited : Permits service request (.bearer scope) := granted scope rfl
  exact conducts_list (fun status limit => mayCall_of_permits credited
    (access status limit) (bare status limit)) silent

theorem passes_counts {method : String} {path : Path} {scope : Option Scope}
    {respond : Json → Response} :
    Passes ⟨method, path, scope, fun service _ _ _ =>
      service.look .counts respond⟩ := by
  intro service request url id _
  exact conducts_look (.bare trivial rfl) rfl

theorem passes_routes : ∀ route ∈ routes, Passes route := by
  simp only [routes, List.forall_mem_cons]
  refine ⟨?healthz, passes_counts, passes_counts, ?events, ?reserve, ?observe,
    ?register, ?workers, ?heartbeat, ?drain, ?leases, ?submitJob, ?listJobs,
    ?job, ?startJob, ?renewJob, ?finishJob, ?cancelJob, ?submitSession,
    ?listSessions, ?session, ?startSession, ?activateSession, ?renewSession,
    ?clientGrant, ?workerGrant, ?closeSession, ?run, List.forall_mem_nil _⟩
  case healthz =>
    intro service request url id _
    exact .pure _
  case events =>
    intro service request url id granted
    exact conducts_eventStream (granted .admin rfl)
  case reserve | observe =>
    intro service request url id _
    exact conducts_brokerRoute (fun _ => rfl) (fun _ => rfl) (fun _ => rfl)
  case leases =>
    intro service request url id granted
    exact conducts_workerLeases id (granted .worker rfl)
  case register | heartbeat | drain | submitJob | startJob | finishJob |
      submitSession | startSession | activateSession =>
    exact passes_change (fun _ _ _ => rfl) (fun _ _ _ => rfl)
      (fun _ _ _ => rfl)
  case renewJob | renewSession | workerGrant =>
    exact passes_changeQuietly (fun _ _ => rfl) (fun _ _ => rfl)
      (fun _ _ => rfl)
  case cancelJob | closeSession | run =>
    exact passes_trigger (fun _ => rfl) (fun _ => rfl) (fun _ => rfl)
  case workers | job | session | clientGrant =>
    exact passes_look (fun _ => rfl) (fun _ => rfl) (fun _ => rfl)
  case listJobs | listSessions =>
    exact passes_list (fun _ _ => rfl) (fun _ _ => rfl) (fun _ _ => rfl)

/-! ## Responses -/

/-- An answer that is not one to an unexpected error. -/
def Expected (response : Response) : Prop :=
  response.status ≠ 500

theorem expected_of {status : Nat} (other : status ≠ 500) (body : Body)
    (challenge : Bool) : Expected ⟨status, body, challenge⟩ := other

theorem expected_named (name : String) (value : Json) :
    Expected (named name value) :=
  expected_of (by decide) _ _

theorem expected_found (name : String) (value : Json) :
    Expected (found name value) := by
  unfold found
  split_ifs
  · exact expected_of (by decide) _ _
  · exact expected_named name value

theorem expected_submitted (result : Json) : Expected (submitted result) := by
  unfold submitted
  split
  · exact expected_of (by decide) _ _
  · exact expected_of (by decide) _ _

theorem gives_change {change : Json → Operation} {respond : Json → Response}
    (expected : ∀ result, Expected (respond result)) :
    (service.change request change respond).Gives Expected :=
  .bind fun _ _ => .bind fun result _ => .pure (expected result)

theorem gives_changeQuietly {change : Json → Operation}
    {respond : Json → Response}
    (expected : ∀ result, Expected (respond result)) :
    (service.changeQuietly request change respond).Gives Expected :=
  .bind fun _ _ => .bind fun result _ => .pure (expected result)

theorem gives_trigger {operation : Operation} {respond : Json → Response}
    (expected : ∀ result, Expected (respond result)) :
    (service.trigger operation respond).Gives Expected :=
  .bind fun result _ => .pure (expected result)

theorem gives_look {operation : Operation} {respond : Json → Response}
    (expected : ∀ result, Expected (respond result)) :
    (service.look operation respond).Gives Expected :=
  .bind fun result _ => .pure (expected result)

theorem gives_workerLeases (id : String) :
    (service.workerLeases id).Gives Expected := by
  refine .bind fun worker _ => ?_
  split_ifs
  · exact .pure (expected_of (by decide) _ _)
  · refine .bind fun jobs _ => .bind fun sessions _ => .pure ?_
    exact expected_of (by decide) _ _

theorem gives_brokerRoute {change : Json → Operation} {status : Nat}
    (expected : status ≠ 500) :
    (service.brokerRoute request change status).Gives Expected := by
  unfold Service.brokerRoute
  split_ifs
  · exact .pure (expected_of (by decide) _ _)
  · exact gives_changeQuietly fun _ => expected
  · exact .pure (expected_of (by decide) _ _)

theorem gives_routes : ∀ route ∈ routes, ∀ (service : Service)
    (request : Request) (url : Url) (id : String),
      (route.answer service request url id).Gives Expected := by
  have ok : ∀ body, Expected (sendJson 200 body) :=
    fun _ => expected_of (by decide) _ _
  simp only [routes, List.forall_mem_cons]
  refine ⟨?healthz, ?readyz, ?metrics, ?events, ?reserve, ?observe,
    ?register, ?workers, ?heartbeat, ?drain, ?leases, ?submitJob, ?listJobs,
    ?job, ?startJob, ?renewJob, ?finishJob, ?cancelJob, ?submitSession,
    ?listSessions, ?session, ?startSession, ?activateSession, ?renewSession,
    ?clientGrant, ?workerGrant, ?closeSession, ?run, List.forall_mem_nil _⟩ <;>
    intro service request url id
  case healthz => exact .pure (ok _)
  case readyz => exact gives_look fun _ => ok _
  case metrics => exact gives_look fun _ => expected_of (by decide) _ _
  case events => exact .bind fun _ _ => .pure (expected_of (by decide) _ _)
  case reserve | observe => exact gives_brokerRoute (by decide)
  case leases => exact gives_workerLeases id
  case submitJob | submitSession => exact gives_change expected_submitted
  case register | heartbeat | drain | startJob | finishJob | startSession |
      activateSession =>
    exact gives_change (expected_named _)
  case renewJob | renewSession | workerGrant =>
    exact gives_changeQuietly (expected_named _)
  case cancelJob | closeSession => exact gives_trigger (expected_named _)
  case run => exact gives_trigger ok
  case workers | clientGrant => exact gives_look (expected_named _)
  case job | session => exact gives_look (expected_found _)
  case listJobs | listSessions =>
    exact .bind fun _ _ => gives_look (expected_named _)

/-! ## Requests -/

theorem mem_of_choose {method pathname id : String} {route : Route}
    {among : List Route}
    (chosen : choose method pathname among = .ok (some (route, id))) :
    route ∈ among := by
  induction among with
  | nil => cases chosen
  | cons first rest induction =>
      rw [choose] at chosen
      obtain ⟨parameter, _, chosen⟩ := Failures.ok_of_bind chosen
      cases parameter with
      | none => exact List.mem_cons_of_mem _ (induction chosen)
      | some other =>
          dsimp only at chosen
          split_ifs at chosen
          · cases chosen
            exact List.mem_cons_self
          · exact List.mem_cons_of_mem _ (induction chosen)

theorem conducts_serve {route : Route} (passes : Passes route) (url : Url)
    (id : String) :
    Conducts service request route.credential
      (route.serve service request url id) := by
  unfold Route.serve
  split
  · next scope =>
      refine passes service request url id ?_
      intro asked member
      rw [scope] at member
      cases member
  · next asked scope =>
      split_ifs with granted
      · refine passes service request url id ?_
        intro other member
        rw [scope] at member
        rw [← Option.some.inj member]
        exact granted
      · exact .pure _

theorem gives_serve {route : Route} (member : route ∈ routes) (url : Url)
    (id : String) :
    (route.serve service request url id).Gives Expected := by
  unfold Route.serve
  split
  · exact gives_routes route member service request url id
  · split_ifs
    · exact gives_routes route member service request url id
    · exact .pure (expected_of (by decide) _ _)

/-- The route that a request takes. -/
def Routed (request : Request) (route : Route) : Prop :=
  ∃ url id, request.url = .ok url ∧
    choose request.method url.pathname routes = .ok (some (route, id))

/-- A request that takes no route does nothing. -/
theorem respond_cases (service : Service) (request : Request) :
    (∃ route, Routed request route ∧
      Conducts service request route.credential (respond service request)) ∨
    ∃ result, respond service request = Traced.lift result := by
  unfold respond
  cases parsed : request.url with
  | error thrown => exact Or.inr ⟨_, rfl⟩
  | ok url =>
      have atUrl : (Traced.lift (.ok url) : Handler Url).result = .ok url := rfl
      rw [Traced.bind_ok atUrl]
      cases chosen : choose request.method url.pathname routes with
      | error thrown => exact Or.inr ⟨_, rfl⟩
      | ok entry =>
          cases entry with
          | none => exact Or.inr ⟨_, rfl⟩
          | some entry =>
              obtain ⟨route, id⟩ := entry
              refine Or.inl ⟨route, ⟨url, id, parsed, chosen⟩, ?_⟩
              exact conducts_serve
                (passes_routes route (mem_of_choose chosen)) url id

theorem gives_respond : (respond service request).Gives Expected := by
  refine .bind fun url _ => .bind fun chosen found => ?_
  cases chosen with
  | none => exact .pure (expected_of (by decide) _ _)
  | some entry =>
      obtain ⟨route, id⟩ := entry
      exact gives_serve (mem_of_choose found) url id

/-- Nothing is read or called for a request without the credential that its
route and the operation ask for, and what is handed on of its body is what has
been read.  What fails is done last and decides the answer, a change that has
been made is announced next and nothing else is, and of an unexpected error
nothing is told. -/
theorem http_request (service : Service) (request : Request) :
    (∀ action ∈ (handle service request).1, ∃ route, Routed request route ∧
      Allowed service request route.credential action) ∧
    (∀ earlier action later thrown,
      (handle service request).1 = earlier ++ action :: later →
        Breaks service request action thrown →
          later = [] ∧ (handle service request).2 = errorResponse thrown) ∧
    (∀ earlier action later next,
      (handle service request).1 = earlier ++ action :: later →
        Announces service action next → ∃ rest, later = next :: rest) ∧
    (∀ earlier later, (handle service request).1 =
        earlier ++ .call .broadcastNewEvents :: later →
      ∃ before change, earlier = before ++ [change] ∧
        Announces service change (.call .broadcastNewEvents)) ∧
    ((handle service request).2.status = 500 → (handle service request).2 =
      sendJson 500 (errorBody "internal_error" "internal server error")) := by
  have unexpected : (handle service request).2.status = 500 →
      (handle service request).2 =
        sendJson 500 (errorBody "internal_error" "internal server error") := by
    rw [handle]
    cases ran : (respond service request).result with
    | ok response =>
        intro unexpected
        exact absurd unexpected (gives_respond response ran)
    | error thrown =>
        unfold errorResponse
        dsimp only
        split_ifs with internal
        · exact fun _ => rfl
        · intro same
          exact absurd same internal
  rcases respond_cases service request with ⟨route, routed, conducts⟩ | none
  · refine ⟨fun action member => ⟨route, routed, conducts.allowed action member⟩,
      ?_, conducts.leads, ?_, unexpected⟩
    · intro earlier action later thrown split broken
      obtain ⟨last, result⟩ := conducts.halts earlier action later thrown split
        broken
      refine ⟨last, ?_⟩
      rw [handle]
      simp only [result]
    · intro earlier later split
      exact conducts.trails earlier _ later split rfl
  · have idle : (handle service request).1 = [] := by
      obtain ⟨result, same⟩ := none
      rw [handle, same]
      rfl
    have nowhere : ∀ earlier action later,
        (handle service request).1 ≠ earlier ++ action :: later := by
      intro earlier action later split
      rw [idle] at split
      exact absurd split.symm (List.append_ne_nil_of_right_ne_nil _
        (List.cons_ne_nil _ _))
    refine ⟨?_, ?_, ?_, ?_, unexpected⟩
    · intro action member
      rw [idle] at member
      cases member
    · exact fun earlier action later _ split =>
        absurd split (nowhere earlier action later)
    · exact fun earlier action later _ split =>
        absurd split (nowhere earlier action later)
    · exact fun earlier later split => absurd split (nowhere earlier _ later)

end HttpServer

end GpuLink
