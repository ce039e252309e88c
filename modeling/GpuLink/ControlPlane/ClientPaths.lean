import GpuLink.ControlPlane.HttpRoutes

/-!
# Paths of the clients

The paths that the worker, the SDK and the command line build around an
identifier lead to the operation that they name, with that identifier.
-/

namespace GpuLink

namespace HttpServer

/-! ## The path of a URL -/

def dots : List (List Char) := [['.'], ['%', '2', 'e'], ['%', '2', 'E']]

/-- A segment that stands for nothing. -/
def isSingleDot (segment : List Char) : Bool := dots.contains segment

/-- A segment that takes the one before it away. -/
def isDoubleDot (segment : List Char) : Bool :=
  (dots.flatMap fun dot => dots.map (dot ++ ·)).contains segment

/-- The path state of a URL parser, whose path so far comes first. -/
def pathState (path : List (List Char)) :
    List (List Char) → List (List Char)
  | [] => path
  | segment :: rest =>
      let last := if rest.isEmpty then [[]] else []
      if isDoubleDot segment then pathState (path.dropLast ++ last) rest
      else if isSingleDot segment then pathState (path ++ last) rest
      else pathState (path ++ [segment]) rest

/-- The pathname of `new URL` for a path without characters that are escaped,
which begins with a slash. -/
def urlPathname (path : List Char) : String :=
  String.ofList
    ('/' :: ['/'].intercalate (pathState [] ((path.drop 1).splitOn '/')))

/-! ## Requests of the clients -/

/-- A request whose path is a template with an identifier in it. -/
structure ClientRequest where
  method : String
  before : String
  after : String

def ClientRequest.path (request : ClientRequest) (id : String) : List Char :=
  request.before.toList ++ encodeURIComponent id ++ request.after.toList

namespace ControlPlaneClient

def heartbeat : ClientRequest := ⟨"POST", "/v1/workers/", "/heartbeat"⟩

def leases : ClientRequest := ⟨"GET", "/v1/workers/", "/leases"⟩

def startJob : ClientRequest := ⟨"POST", "/v1/jobs/", "/start"⟩

def renewJob : ClientRequest := ⟨"POST", "/v1/jobs/", "/renew"⟩

def finishJob : ClientRequest := ⟨"POST", "/v1/jobs/", "/finish"⟩

def startSession : ClientRequest := ⟨"POST", "/v1/sessions/", "/start"⟩

def renewSession : ClientRequest := ⟨"POST", "/v1/sessions/", "/renew"⟩

def workerDataPlaneGrant : ClientRequest :=
  ⟨"POST", "/v1/sessions/", "/data-plane/worker-grant"⟩

end ControlPlaneClient

namespace GPULinkClient

def getJob : ClientRequest := ⟨"GET", "/v1/jobs/", ""⟩

def cancelJob : ClientRequest := ⟨"POST", "/v1/jobs/", "/cancel"⟩

def getSession : ClientRequest := ⟨"GET", "/v1/sessions/", ""⟩

def closeSession : ClientRequest := ⟨"POST", "/v1/sessions/", "/close"⟩

def requestClientGrant : ClientRequest :=
  ⟨"POST", "/v1/sessions/", "/data-plane/client-grant"⟩

end GPULinkClient

/-- The request of `drain` and of `resume`. -/
def setDrain : ClientRequest := ⟨"POST", "/v1/workers/", "/drain"⟩

def clientRequests : List ClientRequest :=
  [ControlPlaneClient.heartbeat, ControlPlaneClient.leases,
    ControlPlaneClient.startJob, ControlPlaneClient.renewJob,
    ControlPlaneClient.finishJob, ControlPlaneClient.startSession,
    ControlPlaneClient.renewSession, ControlPlaneClient.workerDataPlaneGrant,
    GPULinkClient.getJob, GPULinkClient.cancelJob, GPULinkClient.getSession,
    GPULinkClient.closeSession, GPULinkClient.requestClientGrant, setDrain]

/-! ## Segments around an identifier -/

theorem encode_slash_free (text : String) :
    '/' ∉ encodeURIComponent text := by
  have digit : ∀ n < 16, upperDigit n ≠ '/' := by
    decide
  intro mem
  obtain ⟨c, _, mem⟩ := List.mem_flatMap.mp mem
  unfold encodeCharacter at mem
  split_ifs at mem with unreserved
  · rw [List.mem_singleton] at mem
    exact (plain_of_unreserved unreserved).2.1 mem.symm
  · obtain ⟨byte, _, mem⟩ := List.mem_flatMap.mp mem
    have small := byte.toNat_lt
    simp only [escapeByte, List.mem_cons, List.not_mem_nil, or_false] at mem
    rcases mem with mem | mem | mem
    · cases mem
    · exact digit _ (by omega) mem.symm
    · exact digit _ (by omega) mem.symm

theorem encode_ne_nil {text : String} (present : text ≠ "") :
    encodeURIComponent text ≠ [] := by
  intro empty
  have decoded := decode_encode text
  rw [empty] at decoded
  exact present (Except.ok.inj (decoded.symm.trans (decode_encode "")))

theorem segments_append (front back : List Char) :
    segments (front ++ '/' :: back) = segments front ++ segments back := by
  unfold segments
  rw [List.splitOn_append_cons_self, List.filter_append]

theorem segments_single {segment : List Char} (slashFree : '/' ∉ segment)
    (present : segment ≠ []) : segments segment = [segment] := by
  unfold segments
  rw [List.splitOn_eq_singleton slashFree]
  simp [present]

theorem segments_rooted (rest : List Char) :
    segments ('/' :: rest) = segments rest :=
  segments_append [] rest

theorem segments_slash (front : List Char) :
    segments (front ++ ['/']) = segments front := by
  rw [segments_append]
  exact List.append_nil _

/-- A segment stands between what is before and after it. -/
theorem segments_around {front middle back : List Char}
    (slashFree : '/' ∉ middle) (present : middle ≠ [])
    (open_ : front.getLast? = some '/')
    (closed : back = [] ∨ back.head? = some '/') :
    segments (front ++ middle ++ back) =
      segments front ++ middle :: segments back := by
  obtain ⟨first, rfl⟩ := List.getLast?_eq_some_iff.mp open_
  rw [segments_slash]
  rcases closed with rfl | closed
  · rw [List.append_nil, List.append_assoc, List.singleton_append,
      segments_append, segments_single slashFree present]
    rfl
  · obtain ⟨rest, rfl⟩ := List.head?_eq_some_iff.mp closed
    rw [List.append_assoc, List.append_assoc, List.singleton_append,
      segments_append, segments_append, segments_rooted,
      segments_single slashFree present]
    rfl

/-! ## Segments that a URL keeps -/

theorem pathState_kept (path : List (List Char)) {rest : List (List Char)}
    (kept : ∀ segment ∈ rest,
      isSingleDot segment = false ∧ isDoubleDot segment = false) :
    pathState path rest = path ++ rest := by
  induction rest generalizing path with
  | nil => exact (List.append_nil path).symm
  | cons segment rest induction =>
      rw [List.forall_mem_cons] at kept
      rw [pathState, kept.1.1, kept.1.2]
      simp only [Bool.false_eq_true, if_false]
      rw [induction _ kept.2, List.append_assoc]
      rfl

theorem urlPathname_kept {path : List Char} (rooted : path.head? = some '/')
    (kept : ∀ segment ∈ segments path,
      isSingleDot segment = false ∧ isDoubleDot segment = false) :
    urlPathname path = String.ofList path := by
  obtain ⟨rest, rfl⟩ := List.head?_eq_some_iff.mp rooted
  rw [segments_rooted] at kept
  unfold urlPathname
  rw [List.drop_one, List.tail_cons, pathState_kept, List.nil_append,
    List.intercalate_splitOn]
  intro segment mem
  by_cases empty : segment = []
  · rw [empty]
    exact ⟨rfl, rfl⟩
  · exact kept segment (List.mem_filter.mpr ⟨mem, decide_eq_true empty⟩)

theorem decode_congr {left right : List Char}
    (same : componentBytes left = componentBytes right) :
    decodeURIComponent left = decodeURIComponent right := by
  unfold decodeURIComponent
  rw [same]

theorem decode_dots : ∀ first ∈ dots,
    decodeURIComponent first = .ok "." ∧
      ∀ second ∈ dots, decodeURIComponent (first ++ second) = .ok ".." := by
  have single := decode_encode "."
  have double := decode_encode ".."
  have one : ∀ first ∈ dots, componentBytes first =
      componentBytes (encodeURIComponent ".") := by
    decide
  have two : ∀ first ∈ dots, ∀ second ∈ dots,
      componentBytes (first ++ second) =
        componentBytes (encodeURIComponent "..") := by
    decide
  intro first known
  refine ⟨(decode_congr (one first known)).trans single, ?_⟩
  intro second other
  exact (decode_congr (two first known second other)).trans double

theorem encode_kept {id : String} (single : id ≠ ".") (double : id ≠ "..") :
    isSingleDot (encodeURIComponent id) = false ∧
      isDoubleDot (encodeURIComponent id) = false := by
  constructor
  · refine Bool.eq_false_iff.mpr fun dot => single ?_
    have decoded := (decode_dots _ (List.contains_iff_mem.mp dot)).1
    exact Except.ok.inj ((decode_encode id).symm.trans decoded)
  · refine Bool.eq_false_iff.mpr fun dot => double ?_
    obtain ⟨first, known, mem⟩ :=
      List.mem_flatMap.mp (List.contains_iff_mem.mp dot)
    obtain ⟨second, other, joined⟩ := List.mem_map.mp mem
    have decoded := (decode_dots first known).2 second other
    rw [joined] at decoded
    exact Except.ok.inj ((decode_encode id).symm.trans decoded)

/-! ## Requests and their routes -/

/-- A segment that is compared and kept as it is. -/
def isLiteral (segment : List Char) : Bool :=
  isPlain segment && !isSingleDot segment && !isDoubleDot segment

/-- The template of a request. -/
def ClientRequest.template (request : ClientRequest) : String :=
  request.before ++ ":id" ++ request.after

/-- What is used of the texts around an identifier. -/
structure ClientRequest.Framed (request : ClientRequest) : Prop where
  rooted : request.before.toList.head? = some '/'
  opened : request.before.toList.getLast? = some '/'
  closed : request.after.toList = [] ∨ request.after.toList.head? = some '/'
  before : ∀ segment ∈ segments request.before.toList, isLiteral segment = true
  after : ∀ segment ∈ segments request.after.toList, isLiteral segment = true
  routed : (request.method, Path.pattern request.template) ∈
    routes.map fun route => (route.method, route.path)

theorem clientRequests_framed :
    ∀ request ∈ clientRequests, request.Framed := by
  have framed : ∀ request ∈ clientRequests,
      request.before.toList.head? = some '/' ∧
        request.before.toList.getLast? = some '/' ∧
        (request.after.toList = [] ∨
          request.after.toList.head? = some '/') ∧
        (∀ segment ∈ segments request.before.toList,
          isLiteral segment = true) ∧
        (∀ segment ∈ segments request.after.toList,
          isLiteral segment = true) ∧
        (request.method, Path.pattern request.template) ∈
          routes.map fun route => (route.method, route.path) := by
    decide +kernel
  intro request mem
  obtain ⟨rooted, opened, closed, before, after, routed⟩ := framed request mem
  exact ⟨rooted, opened, closed, before, after, routed⟩

theorem isLiteral_kept {segment : List Char}
    (literal : isLiteral segment = true) :
    isParameter segment = false ∧
      isSingleDot segment = false ∧ isDoubleDot segment = false := by
  unfold isLiteral at literal
  simp only [Bool.and_eq_true, Bool.not_eq_true'] at literal
  refine ⟨?_, literal.1.2, literal.2⟩
  unfold isParameter
  split
  · have plain := literal.1.1
    unfold isPlain at plain
    rw [List.all_cons, Bool.and_eq_true] at plain
    exact absurd rfl (plain_of_unreserved plain.1).2.2
  · rfl

theorem matchSegments_same {front : List (List Char)}
    (literal : ∀ segment ∈ front, isParameter segment = false)
    (pattern path : List (List Char)) :
    matchSegments (front ++ pattern) (front ++ path) =
      matchSegments pattern path := by
  induction front with
  | nil => rfl
  | cons segment front induction =>
      rw [List.forall_mem_cons] at literal
      rw [List.cons_append, List.cons_append, matchSegments_literal literal.1,
        if_pos rfl, induction literal.2]

theorem matchSegments_self {path : List (List Char)}
    (literal : ∀ segment ∈ path, isParameter segment = false) :
    matchSegments path path = .ok (some []) := by
  have same := matchSegments_same literal [] []
  rw [List.append_nil] at same
  exact same

namespace ClientRequest

variable {request : ClientRequest}

theorem Framed.segments (framed : request.Framed) {middle : List Char}
    (slashFree : '/' ∉ middle) (present : middle ≠ []) :
    segments (request.before.toList ++ middle ++ request.after.toList) =
      HttpServer.segments request.before.toList ++
        middle :: HttpServer.segments request.after.toList :=
  segments_around slashFree present framed.opened framed.closed

theorem Framed.pathname (framed : request.Framed) {id : String}
    (present : id ≠ "") (single : id ≠ ".") (double : id ≠ "..") :
    urlPathname (request.path id) = String.ofList (request.path id) := by
  apply urlPathname_kept
  · unfold ClientRequest.path
    rw [List.append_assoc, List.head?_append, framed.rooted]
    rfl
  · intro segment mem
    unfold ClientRequest.path at mem
    rw [framed.segments (encode_slash_free id) (encode_ne_nil present),
      List.mem_append, List.mem_cons] at mem
    rcases mem with mem | rfl | mem
    · exact (isLiteral_kept (framed.before segment mem)).2
    · exact encode_kept single double
    · exact (isLiteral_kept (framed.after segment mem)).2

/-- The template of a request takes its path, and reads the identifier. -/
theorem Framed.matches (framed : request.Framed) {id : String}
    (present : id ≠ "") :
    (Path.pattern request.template).Matches
      (String.ofList (request.path id)) id := by
  have template : HttpServer.segments request.template.toList =
      HttpServer.segments request.before.toList ++
        [':', 'i', 'd'] :: HttpServer.segments request.after.toList := by
    unfold ClientRequest.template
    rw [String.toList_append, String.toList_append]
    exact framed.segments (by decide) (by decide)
  have path : HttpServer.segments (String.ofList (request.path id)).toList =
      HttpServer.segments request.before.toList ++
        encodeURIComponent id :: HttpServer.segments request.after.toList := by
    rw [String.toList_ofList]
    exact framed.segments (encode_slash_free id) (encode_ne_nil present)
  have before : ∀ segment ∈ HttpServer.segments request.before.toList,
      isParameter segment = false :=
    fun segment mem => (isLiteral_kept (framed.before segment mem)).1
  have after : ∀ segment ∈ HttpServer.segments request.after.toList,
      isParameter segment = false :=
    fun segment mem => (isLiteral_kept (framed.after segment mem)).1
  unfold Path.Matches Path.parameter matchPath
  simp only [template, path]
  rw [if_neg (by simp), matchSegments_same before, matchSegments_parameter,
    decode_encode, matchSegments_self after]
  rfl

end ClientRequest

/-- The route that takes a request, wherever it stands among the others. -/
theorem choose_of_mem {route : Route} (known : route ∈ routes)
    {pathname id : String} (matched : route.path.Matches pathname id) :
    choose route.method pathname routes = .ok (some (route, id)) := by
  obtain ⟨front, back, split⟩ := List.append_of_mem known
  have independent := routes_independent route.method pathname
  rw [split] at independent ⊢
  rw [choose_perm List.perm_middle independent, choose_hit matched, if_pos rfl]

/-- A request that no route takes. -/
def misses (method pathname : String) : Bool :=
  match choose method pathname routes with
  | .ok none => true
  | _ => false

theorem choose_of_misses {method pathname : String}
    (missed : misses method pathname = true) :
    choose method pathname routes = .ok none := by
  unfold misses at missed
  split at missed
  · assumption
  · cases missed

theorem clientRequests_miss :
    ∀ request ∈ clientRequests, ∀ id ∈ ["", ".", ".."],
      misses request.method (urlPathname (request.path id)) = true := by
  decide +kernel

/-- What the worker, the SDK and the command line ask for about an identifier
reaches the route of that request with the same identifier, whatever characters
it has.  An empty one, and the two that a URL parser resolves, reach no route at
all. -/
theorem client_paths {request : ClientRequest}
    (known : request ∈ clientRequests) (id : String) :
    if id = "" ∨ id = "." ∨ id = ".." then
      choose request.method (urlPathname (request.path id)) routes = .ok none
    else
      ∃ route ∈ routes, route.method = request.method ∧
        route.path = .pattern request.template ∧
        choose request.method (urlPathname (request.path id)) routes =
          .ok (some (route, id)) := by
  split_ifs with lost
  · exact choose_of_misses (clientRequests_miss request known id
      (by simpa using lost))
  · rw [not_or, not_or] at lost
    obtain ⟨present, single, double⟩ := lost
    have framed := clientRequests_framed request known
    obtain ⟨route, mem, routed⟩ := List.mem_map.mp framed.routed
    obtain ⟨method, path⟩ := Prod.mk.inj routed
    refine ⟨route, mem, method, path, ?_⟩
    rw [framed.pathname present single double, ← method]
    apply choose_of_mem mem
    rw [path]
    exact framed.matches present

theorem client_paths_space :
    if "a b" = "" ∨ "a b" = "." ∨ "a b" = ".." then
      choose "POST" (urlPathname (setDrain.path "a b")) routes = .ok none
    else
      ∃ route ∈ routes, route.method = "POST" ∧
        route.path = .pattern setDrain.template ∧
        choose "POST" (urlPathname (setDrain.path "a b")) routes =
          .ok (some (route, "a b")) :=
  @client_paths setDrain (by
    unfold clientRequests
    simp only [List.mem_cons, true_or, or_true]) "a b"

end HttpServer

end GpuLink
