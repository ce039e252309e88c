import GpuLink.ControlPlane.BrokerClaim
import GpuLink.Library.Traced
import GpuLink.Shared.Text
import GpuLink.Shared.Validation

/-!
# The HTTP server

What a request is answered with, and what is done for it on the way.  The
service, the store and the scheduler are called through one function, whose
calls are the actions of a request.
-/

namespace GpuLink

namespace HttpServer

/-! ## Requests -/

inductive Scope where
  | client
  | worker
  | admin
  deriving DecidableEq, Repr

structure Url where
  pathname : String
  searchParams : List (String × String)

/-- An error with the properties that are read of it. -/
structure Thrown where
  name : String
  code : Option String
  statusCode : Option Nat
  message : String
  deriving DecidableEq, Repr

def validationError (message : String) : Thrown :=
  ⟨"ValidationError", none, some 400, message⟩

structure Request where
  method : String
  /-- `new URL(request.url, "http://control-plane.local")` -/
  url : Except Thrown Url
  authorization : Option String
  idempotencyKey : Option String
  /-- The chunks of the body that arrive. -/
  chunks : List (List UInt8)
  /-- What breaks the body off after them. -/
  broken : Option Thrown

inductive Role where
  | client
  | worker
  deriving DecidableEq, Repr

/-- What is called for a request. -/
inductive Operation where
  | counts
  | openEventStream
  | reserveBrokerAttempt (body : Json)
  | observeBrokerAttempt (body : Json)
  | registerWorker (body : Json)
  | listWorkers
  | heartbeatWorker (id : String) (body : Json)
  | setWorkerDrain (id : String) (body : Json)
  | getWorker (id : String)
  | listWorkerJobs (workerId : String)
  | listWorkerSessions (workerId : String)
  | submitJob (body : Json) (idempotencyKey : Option String)
  | listJobs (status : Option String) (limit : Int)
  | getJob (id : String)
  | startJob (id : String) (body : Json)
  | renewJob (id : String) (body : Json)
  | finishJob (id : String) (body : Json)
  | cancelJob (id : String)
  | submitSession (body : Json) (idempotencyKey : Option String)
  | listSessions (status : Option String) (limit : Int)
  | getSession (id : String)
  | startSession (id : String) (body : Json)
  | activateSession (id : String) (body : Json)
  | renewSession (id : String) (body : Json)
  | issueDataPlaneGrant (id : String) (role : Role) (body : Option Json)
  | closeSession (id : String)
  | runOnce
  | broadcastNewEvents

/-- The configuration, and what each call comes to; a record that has not been
found is `null`. -/
structure Service where
  tokens : Scope → Option String
  brokerProfiles : List BrokerProfile
  perform : Operation → Except Thrown Json

inductive Action where
  | read
  | call (operation : Operation)

inductive Body where
  | json (body : Json)
  | metrics (counts : Json)
  | events

structure Response where
  status : Nat
  body : Body
  /-- `WWW-Authenticate: Bearer` -/
  challenge : Bool

abbrev Handler := Traced Action Thrown

def sendJson (status : Nat) (body : Json) : Response :=
  ⟨status, .json body, false⟩

def errorBody (code message : String) : Json :=
  .object [("error", .object [("code", .string code),
    ("message", .string message)])]

/-! ## Credentials -/

/-- `[...new Set([...allowedScopes, "admin"])]`, for one allowed scope. -/
def scopesFor (allowed : Scope) : List Scope :=
  if allowed = .admin then [.admin] else [allowed, .admin]

/-- `authenticate` -/
def Service.authenticate (service : Service) (authorization : Option String)
    (allowed : Scope) : Bool :=
  match authorization with
  | none => false
  | some header =>
      header.startsWith "Bearer " && (scopesFor allowed).any (fun scope =>
        match service.tokens scope with
        | none => false
        | some token =>
            token ≠ "" && utf8Bytes (String.ofList (header.toList.drop 7)) =
              utf8Bytes token)

/-- `authenticateBroker` -/
def Service.authenticateBroker (service : Service)
    (authorization : Option String) : Bool :=
  (GpuLink.authenticateBroker service.brokerProfiles authorization).isSome

def unauthorized : Response :=
  ⟨401, .json (errorBody "unauthorized" "valid bearer token required"), true⟩

/-! ## Bodies -/

/-- `MAX_BODY_BYTES` -/
def maxBodyBytes : Nat := 1048576

/-- Whether some chunk takes the body past its limit. -/
def exceeds (total : Nat) : List (List UInt8) → Bool
  | [] => false
  | chunk :: rest =>
      maxBodyBytes < total + chunk.length || exceeds (total + chunk.length) rest

def decodeBody (request : Request) : Except Thrown Json :=
  if exceeds 0 request.chunks then
    .error { validationError "request body exceeds 1 MiB" with
      statusCode := some 413 }
  else
    match request.broken with
    | some thrown => .error thrown
    | none =>
        if request.chunks = [] then .ok (.object [])
        else
          match JsonText.parse (utf8Text request.chunks.flatten) with
          | some body => .ok body
          | none =>
              .error (validationError "request body must contain valid JSON")

/-- `readJson` -/
def readJson (request : Request) : Handler Json := do
  Traced.act .read
  Traced.lift (decodeBody request)

/-! ## Calls -/

namespace Service

variable (service : Service)

def call (operation : Operation) : Handler Json := do
  Traced.act (.call operation)
  Traced.lift (service.perform operation)

/-- A call, and `broadcastNewEvents` after it. -/
def announce (operation : Operation) : Handler Json := do
  let result ← service.call operation
  let _ ← service.call .broadcastNewEvents
  return result

/-- A change that a body asks for. -/
def change (request : Request) (operation : Json → Operation)
    (respond : Json → Response) : Handler Response := do
  let body ← readJson request
  let result ← service.announce (operation body)
  return respond result

/-- One that no event tells of. -/
def changeQuietly (request : Request) (operation : Json → Operation)
    (respond : Json → Response) : Handler Response := do
  let body ← readJson request
  let result ← service.call (operation body)
  return respond result

/-- A change without a body. -/
def trigger (operation : Operation) (respond : Json → Response) :
    Handler Response := do
  let result ← service.announce operation
  return respond result

def look (operation : Operation) (respond : Json → Response) :
    Handler Response := do
  let result ← service.call operation
  return respond result

end Service

/-! ## Answers -/

def named (name : String) (value : Json) : Response :=
  sendJson 200 (.object [(name, value)])

/-- A job or session that is there, or not. -/
def found (name : String) (value : Json) : Response :=
  if value.isNull then
    sendJson 404 (errorBody "not_found" (name ++ " not found"))
  else named name value

/-- `result.duplicate ? 200 : 201` -/
def submitted (result : Json) : Response :=
  match result.field? "duplicate" with
  | some (.bool true) => sendJson 200 result
  | _ => sendJson 201 result

/-- The statuses of work that a worker holds. -/
def heldJob (job : Json) : Bool :=
  match job.field? "status" with
  | some (.string status) => status = "leased" || status = "running"
  | _ => false

def heldSession (session : Json) : Bool :=
  match session.field? "status" with
  | some (.string status) =>
      status = "allocated" || status = "connecting" || status = "active"
  | _ => false

def keep (held : Json → Bool) : Json → Json
  | .array items => .array (items.filter held)
  | other => other

namespace Service

variable (service : Service)

def workerLeases (id : String) : Handler Response := do
  let worker ← service.call (.getWorker id)
  if worker.isNull then
    return sendJson 404 (errorBody "not_found" "worker not found")
  else
    let jobs ← service.call (.listWorkerJobs id)
    let sessions ← service.call (.listWorkerSessions id)
    return sendJson 200 (.object [("jobs", keep heldJob jobs),
      ("sessions", keep heldSession sessions)])

def brokerUnauthorized : Response :=
  ⟨401, .json (errorBody "broker_unauthorized" "broker credential required"),
    true⟩

def notFound : Response :=
  sendJson 404 (errorBody "not_found" "route not found")

/-- The routes of a broker are off when no broker is configured. -/
def brokerRoute (request : Request) (operation : Json → Operation)
    (status : Nat) : Handler Response :=
  if service.brokerProfiles.isEmpty then return notFound
  else if service.authenticateBroker request.authorization then
    service.changeQuietly request operation
      (fun result => sendJson status (.object [("result", result)]))
  else return brokerUnauthorized

/-- `openEventStream`; once its headers are sent, an error answers nothing. -/
def eventStream : Handler Response := do
  Traced.act (.call .openEventStream)
  return ⟨200, .events, false⟩

end Service

/-! ## Limits -/

/-- The value of the digits of a base, if there are any and no others. -/
def digitsOf (base : Nat) (text : List Char) : Option Rat :=
  let value (c : Char) : Option Nat :=
    match JsonText.hexDigit? c with
    | some digit => if digit < base then some digit else none
    | none => none
  match text.mapM value with
  | some [] => none
  | some digits =>
      some (digits.foldl (fun total digit => total * base + digit) 0 : Nat)
  | none => none

/-- A decimal literal, which may have leading zeros and lack digits on one side
of its point. -/
def decimalLiteral (text : List Char) : Option Rat :=
  let (whole, rest) := text.span Char.isDigit
  let (fraction, rest) := match rest with
    | '.' :: rest => rest.span Char.isDigit
    | _ => ([], rest)
  if whole ++ fraction = [] then none
  else
    match JsonText.exponentPart rest with
    | some (exponent, []) =>
        some ((Nat.ofDigitChars 10 (whole ++ fraction) 0 : Rat) *
          10 ^ (exponent - fraction.length))
    | _ => none

/-- `Number(text)`, for numbers that are finite. -/
def toNumber (text : String) : Option Rat :=
  match (trimText text).toList with
  | [] => some 0
  | '0' :: 'x' :: digits | '0' :: 'X' :: digits => digitsOf 16 digits
  | '0' :: 'o' :: digits | '0' :: 'O' :: digits => digitsOf 8 digits
  | '0' :: 'b' :: digits | '0' :: 'B' :: digits => digitsOf 2 digits
  | '+' :: literal => (decimalLiteral literal).map JsonText.toDouble
  | '-' :: literal =>
      (decimalLiteral literal).map fun q => JsonText.toDouble (-q)
  | literal => (decimalLiteral literal).map JsonText.toDouble

def Url.param (url : Url) (name : String) : Option String :=
  (url.searchParams.find? fun entry => entry.1 = name).map (·.2)

def parseLimit (value : Option String) : Except Thrown Int :=
  let refused := validationError "limit must be an integer from 1 through 500"
  match value with
  | none => .ok 100
  | some text =>
      match toNumber text with
      | some q =>
          if q.den = 1 ∧ 1 ≤ q.num ∧ q.num ≤ 500 then .ok q.num
          else .error refused
      | none => .error refused

/-- `listJobs` and `listSessions` with the parameters of the URL. -/
def Service.list (service : Service) (url : Url)
    (operation : Option String → Int → Operation) (name : String) :
    Handler Response := do
  let limit ← Traced.lift (parseLimit (url.param "limit"))
  service.look (operation (url.param "status") limit) (named name)

/-! ## Paths -/

/-- The bytes of a component, whose escapes stand for one each. -/
def componentBytes : List Char → Option (List UInt8)
  | [] => some []
  | '%' :: high :: low :: rest => do
      let high ← JsonText.hexDigit? high
      let low ← JsonText.hexDigit? low
      let bytes ← componentBytes rest
      return UInt8.ofNat (high * 16 + low) :: bytes
  | '%' :: _ => none
  | c :: rest =>
      (componentBytes rest).map fun bytes => String.utf8EncodeChar c ++ bytes

def decodeURIComponent (text : List Char) : Except Thrown String :=
  match (componentBytes text).bind fun bytes =>
      String.fromUTF8? bytes.toByteArray with
  | some decoded => .ok decoded
  | none => .error ⟨"URIError", none, none, "URI malformed"⟩

/-- `path.split("/").filter(Boolean)` -/
def segments (path : List Char) : List (List Char) :=
  (path.splitOn '/').filter fun segment => segment ≠ []

/-- The loop of `matchPath`. -/
def matchSegments : List (List Char) → List (List Char) →
    Except Thrown (Option (List (List Char × String)))
  | expected :: pattern, actual :: path =>
      match expected with
      | ':' :: name => do
          let value ← decodeURIComponent actual
          let values ← matchSegments pattern path
          return values.map ((name, value) :: ·)
      | _ =>
          if expected = actual then matchSegments pattern path else .ok none
  | _, _ => .ok (some [])

def matchPath (actualPath pattern : String) :
    Except Thrown (Option (List (List Char × String))) :=
  let actual := segments actualPath.toList
  let expected := segments pattern.toList
  if actual.length ≠ expected.length then .ok none
  else matchSegments expected actual

/-- A path is compared as it is, or with a pattern. -/
inductive Path where
  | exact (pathname : String)
  | pattern (template : String)
  deriving DecidableEq, Repr

/-- The parameter `id`, if the path is matched. -/
def Path.parameter (path : Path) (pathname : String) :
    Except Thrown (Option String) :=
  match path with
  | .exact expected => .ok (if pathname = expected then some "" else none)
  | .pattern template => do
      let values ← matchPath pathname template
      return values.map fun values =>
        match values with
        | [(_, value)] => value
        | _ => ""

/-! ## Routes -/

structure Route where
  method : String
  path : Path
  /-- The scope that `authorize` is called with. -/
  scope : Option Scope
  answer : Service → Request → Url → String → Handler Response

def open_ (method pathname : String)
    (answer : Service → Request → Handler Response) : Route :=
  ⟨method, .exact pathname, none, fun service request _ _ =>
    answer service request⟩

def exactly (method pathname : String) (scope : Scope)
    (answer : Service → Request → Url → Handler Response) : Route :=
  ⟨method, .exact pathname, some scope, fun service request url _ =>
    answer service request url⟩

def matching (method pattern : String) (scope : Scope)
    (answer : Service → Request → String → Handler Response) : Route :=
  ⟨method, .pattern pattern, some scope, fun service request _ id =>
    answer service request id⟩

/-- The routes in the order in which they are tried. -/
def routes : List Route :=
  [open_ "GET" "/healthz" fun _ _ =>
      return sendJson 200 (.object [("status", .string "ok")]),
    open_ "GET" "/readyz" fun service _ => service.look .counts
      fun _ => sendJson 200 (.object [("status", .string "ready")]),
    exactly "GET" "/metrics" .admin fun service _ _ => service.look .counts
      fun counts => ⟨200, .metrics counts, false⟩,
    exactly "GET" "/v1/events" .admin fun _ _ _ => Service.eventStream,
    open_ "POST" "/v1/broker/attempts/reserve" fun service request =>
      service.brokerRoute request .reserveBrokerAttempt 201,
    open_ "POST" "/v1/broker/attempts/observe" fun service request =>
      service.brokerRoute request .observeBrokerAttempt 200,
    exactly "POST" "/v1/workers/register" .worker fun service request _ =>
      service.change request .registerWorker (named "worker"),
    exactly "GET" "/v1/workers" .admin fun service _ _ =>
      service.look .listWorkers (named "workers"),
    matching "POST" "/v1/workers/:id/heartbeat" .worker
      fun service request id =>
        service.change request (.heartbeatWorker id) (named "worker"),
    matching "POST" "/v1/workers/:id/drain" .admin fun service request id =>
      service.change request (.setWorkerDrain id) (named "worker"),
    matching "GET" "/v1/workers/:id/leases" .worker fun service _ id =>
      service.workerLeases id,
    exactly "POST" "/v1/jobs" .client fun service request _ =>
      service.change request (.submitJob · request.idempotencyKey) submitted,
    exactly "GET" "/v1/jobs" .client fun service _ url =>
      service.list url .listJobs "jobs",
    matching "GET" "/v1/jobs/:id" .client fun service _ id =>
      service.look (.getJob id) (found "job"),
    matching "POST" "/v1/jobs/:id/start" .worker fun service request id =>
      service.change request (.startJob id) (named "job"),
    matching "POST" "/v1/jobs/:id/renew" .worker fun service request id =>
      service.changeQuietly request (.renewJob id) (named "job"),
    matching "POST" "/v1/jobs/:id/finish" .worker fun service request id =>
      service.change request (.finishJob id) (named "job"),
    matching "POST" "/v1/jobs/:id/cancel" .client fun service _ id =>
      service.trigger (.cancelJob id) (named "job"),
    exactly "POST" "/v1/sessions" .client fun service request _ =>
      service.change request (.submitSession · request.idempotencyKey)
        submitted,
    exactly "GET" "/v1/sessions" .client fun service _ url =>
      service.list url .listSessions "sessions",
    matching "GET" "/v1/sessions/:id" .client fun service _ id =>
      service.look (.getSession id) (found "session"),
    matching "POST" "/v1/sessions/:id/start" .worker fun service request id =>
      service.change request (.startSession id) (named "session"),
    matching "POST" "/v1/sessions/:id/activate" .worker
      fun service request id =>
        service.change request (.activateSession id) (named "session"),
    matching "POST" "/v1/sessions/:id/renew" .worker fun service request id =>
      service.changeQuietly request (.renewSession id) (named "session"),
    matching "POST" "/v1/sessions/:id/data-plane/client-grant" .client
      fun service _ id =>
        service.look (.issueDataPlaneGrant id .client none) (named "grant"),
    matching "POST" "/v1/sessions/:id/data-plane/worker-grant" .worker
      fun service request id => service.changeQuietly request
        (fun body => .issueDataPlaneGrant id .worker (some body))
        (named "grant"),
    matching "POST" "/v1/sessions/:id/close" .client fun service _ id =>
      service.trigger (.closeSession id) (named "session"),
    exactly "POST" "/v1/scheduler/run" .admin fun service _ _ =>
      service.trigger .runOnce (sendJson 200)]

/-- `authorize`, and what is done for a request that passes it. -/
def Route.serve (route : Route) (service : Service) (request : Request)
    (url : Url) (id : String) : Handler Response :=
  match route.scope with
  | none => route.answer service request url id
  | some scope =>
      if service.authenticate request.authorization scope then
        route.answer service request url id
      else return unauthorized

/-- The first route of the method whose path matches.  Every pattern is matched
before the method is looked at. -/
def choose (method pathname : String) :
    List Route → Except Thrown (Option (Route × String))
  | [] => .ok none
  | route :: rest => do
      match ← route.path.parameter pathname with
      | some id =>
          if method = route.method then return some (route, id)
          else choose method pathname rest
      | none => choose method pathname rest

def respond (service : Service) (request : Request) : Handler Response := do
  let url ← Traced.lift request.url
  match ← Traced.lift (choose request.method url.pathname routes) with
  | some (route, id) => route.serve service request url id
  | none => return Service.notFound

/-- `error.name` without its end, in snake case. -/
def codeOfName (name : String) : String :=
  let stem := if "Error".toList <:+ name.toList then
    name.toList.take (name.toList.length - 5) else name.toList
  let snake := stem.flatMap fun c =>
    if 'A' ≤ c ∧ c ≤ 'Z' then ['_', c.toLower] else [c]
  String.ofList (match snake with
    | '_' :: rest => rest
    | other => other)

def errorResponse (thrown : Thrown) : Response :=
  let statusCode := thrown.statusCode.getD 500
  if statusCode = 500 then
    sendJson 500 (errorBody "internal_error" "internal server error")
  else
    sendJson statusCode (errorBody
      (thrown.code.getD (codeOfName thrown.name)) thrown.message)

/-- What a request is answered with in the end. -/
def handle (service : Service) (request : Request) : List Action × Response :=
  let run := respond service request
  (run.trace, match run.result with
    | .ok response => response
    | .error thrown => errorResponse thrown)

end HttpServer

end GpuLink
