import GpuLink.DataPlane.Grant

/-!
# The data-plane contract

The subprotocols that carry a grant in the WebSocket handshake, and the limits
on frames and buffers.
-/

namespace GpuLink

namespace DataPlane

/-- The relay subprotocols; the second one announces readiness. -/
inductive Subprotocol where
  | v1
  | v2
  deriving DecidableEq, Repr

def Subprotocol.text : Subprotocol → String
  | v1 => "gpulink.data-plane.v1"
  | v2 => "gpulink.data-plane.v2"

/-- `DATA_PLANE_RELAY_READY_V2` -/
def relayReadyV2 : String := "gpulink.relay.ready.v2"

def grantSubprotocolPrefix : String := "gpulink.grant."
def maxFrameBytes : Nat := 1048576
def maxBufferedBytes : Nat := 4194304

/-- `DATA_PLANE_CLOSE_CODES` -/
inductive CloseCode where
  | NORMAL
  | PROTOCOL_ERROR
  | MESSAGE_TOO_BIG
  | INTERNAL_ERROR
  | TRY_AGAIN_LATER
  | UNAUTHORIZED
  | PEER_TIMEOUT
  | DUPLICATE_ROLE
  | LEASE_INVALIDATED
  deriving DecidableEq, Repr

def validateDataPlaneFrameSize (byteLength : Nat) : Bool :=
  byteLength ≤ maxFrameBytes

def isDataPlaneBackpressured (bufferedAmount : Nat) : Bool :=
  bufferedAmount > maxBufferedBytes

/-! ## The protocols header -/

/-- `/^gdp1\.[A-Za-z0-9_-]+\.[A-Za-z0-9_-]+$/u` -/
def isGrantToken (text : List Char) : Bool :=
  match text.splitOn '.' with
  | [tag, payload, supplied] =>
      tag = tokenPrefix.toList && isBase64Url payload && isBase64Url supplied
  | _ => false

def requireGrant (grant : String) : Except String String :=
  if grant = "" ∨ utf16Length grant > 4096 ∨ ¬isGrantToken grant.toList then
    .error "data-plane grant token is invalid"
  else .ok grant

def createDataPlaneProtocols (grant : String) : Except String (List String) := do
  let normalizedGrant ← requireGrant grant
  return [Subprotocol.v1.text, grantSubprotocolPrefix ++ normalizedGrant]

/-- White space and line ends, as `trim` takes them off. -/
def isTrimmed (c : Char) : Bool :=
  [0x9, 0xa, 0xb, 0xc, 0xd, 0x20, 0xa0, 0x1680, 0x2000, 0x2001, 0x2002, 0x2003,
    0x2004, 0x2005, 0x2006, 0x2007, 0x2008, 0x2009, 0x200a, 0x2028, 0x2029,
    0x202f, 0x205f, 0x3000, 0xfeff].contains c.toNat

def trim (text : List Char) : List Char :=
  ((text.dropWhile isTrimmed).reverse.dropWhile isTrimmed).reverse

/-- The values between commas that are not blank. -/
def protocolValues (header : String) : List (List Char) :=
  ((header.toList.splitOn ',').map trim).filter (fun value => value ≠ [])

def subprotocol? (value : List Char) : Option Subprotocol :=
  if value = Subprotocol.v1.text.toList then some .v1
  else if value = Subprotocol.v2.text.toList then some .v2
  else none

structure ProtocolOffer where
  protocol : Subprotocol
  grant : String
  deriving DecidableEq, Repr

def parseDataPlaneProtocols (header : String) : Option ProtocolOffer := do
  if header = "" ∨ utf16Length header > 8192 then none
  let values := protocolValues header
  let protocol ← values.findSome? subprotocol?
  if values.length ≠ 2 ∨ ¬values.Nodup then none
  let grantProtocol ← values.find? (fun value =>
    grantSubprotocolPrefix.toList.isPrefixOf value)
  let grant := String.ofList
    (grantProtocol.drop grantSubprotocolPrefix.toList.length)
  (requireGrant grant).toOption.map (fun grant => ⟨protocol, grant⟩)

/-- Every character of a grant token is a letter of base64url or a dot. -/
theorem isGrantToken_chars {text : List Char} (token : isGrantToken text)
    {c : Char} (member : c ∈ text) : Base64Url.isLetter c ∨ c = '.' := by
  have joined : ['.'].intercalate (text.splitOn '.') = text :=
    List.intercalate_splitOn '.'
  unfold isGrantToken at token
  split at token
  · next tag payload supplied parts =>
      simp only [Bool.and_eq_true, decide_eq_true_eq, isBase64Url,
        List.all_eq_true] at token
      rw [parts] at joined
      rw [← joined] at member
      simp only [List.intercalate_cons_cons, List.intercalate_singleton,
        List.mem_append, List.mem_singleton] at member
      have tags : tokenPrefix.toList.all Base64Url.isLetter := by decide
      have tags := List.all_eq_true.mp tags
      rcases member with (tagged | dot) | (payload | dot) | supplied
      · exact .inl (tags c (token.1.1 ▸ tagged))
      · exact .inr dot
      · exact .inl (token.1.2.2 _ payload)
      · exact .inr dot
      · exact .inl (token.2.2 _ supplied)
  · cases token

theorem letter_of_code {c : Char} (letter : Base64Url.isLetter c ∨ c = '.')
    {code : Nat} (same : c.toNat = code) :
    Base64Url.isLetter (Char.ofNat code) ∨ Char.ofNat code = '.' := by
  rw [← same, Char.ofNat_toNat]
  exact letter

theorem plain_of_letter {c : Char}
    (letter : Base64Url.isLetter c ∨ c = '.') :
    isTrimmed c = false ∧ c ≠ ',' := by
  constructor
  · by_contra trimmed
    rw [Bool.not_eq_false, isTrimmed, List.contains_iff_mem] at trimmed
    have none : ∀ code ∈ [0x9, 0xa, 0xb, 0xc, 0xd, 0x20, 0xa0, 0x1680, 0x2000,
        0x2001, 0x2002, 0x2003, 0x2004, 0x2005, 0x2006, 0x2007, 0x2008, 0x2009,
        0x200a, 0x2028, 0x2029, 0x202f, 0x205f, 0x3000, 0xfeff],
        ¬(Base64Url.isLetter (Char.ofNat code) ∨ Char.ofNat code = '.') := by
      decide
    exact none _ trimmed (letter_of_code letter rfl)
  · rintro rfl
    revert letter
    decide

theorem plain_of_all {text : List Char}
    (checked : text.all (fun c => !isTrimmed c && c != ',')) :
    ∀ c ∈ text, isTrimmed c = false ∧ c ≠ ',' := by
  intro c member
  have plain := List.all_eq_true.mp checked c member
  rw [Bool.and_eq_true] at plain
  exact ⟨by simpa using plain.1, by simpa using plain.2⟩

/-- Blanks in front of a value are taken off. -/
theorem trim_append {blanks text : List Char}
    (blank : ∀ c ∈ blanks, isTrimmed c) (plain : ∀ c ∈ text, isTrimmed c = false) :
    trim (blanks ++ text) = text := by
  have kept : ∀ text : List Char, (∀ c ∈ text, isTrimmed c = false) →
      text.dropWhile isTrimmed = text := by
    intro text plain
    cases text with
    | nil => rfl
    | cons c text =>
        apply List.dropWhile_cons_of_neg
        simp [plain c List.mem_cons_self]
  have reversed := kept text.reverse
    (fun c member => plain c (List.mem_reverse.mp member))
  unfold trim
  rw [List.dropWhile_append_of_pos blank, kept text plain, reversed,
    List.reverse_reverse]

theorem utf16Length_append (left right : String) :
    utf16Length (left ++ right) = utf16Length left + utf16Length right := by
  simp only [utf16Length, String.length_append, String.toList_append,
    List.countP_append]
  omega

theorem requireGrant_ok {grant normalized : String}
    (accepted : requireGrant grant = .ok normalized) :
    normalized = grant ∧ utf16Length grant ≤ 4096 ∧
      isGrantToken grant.toList := by
  unfold requireGrant at accepted
  split at accepted
  · cases accepted
  · next valid =>
      cases accepted
      rw [not_or, not_or, not_not] at valid
      exact ⟨rfl, Nat.not_lt.mp valid.2.1, valid.2.2⟩

/-- Two values around a comma, blanks before the second. -/
theorem protocolValues_pair {header : String} {first blanks second : List Char}
    (shown : header.toList = first ++ ',' :: (blanks ++ second))
    (plainFirst : ∀ c ∈ first, isTrimmed c = false ∧ c ≠ ',')
    (plainSecond : ∀ c ∈ second, isTrimmed c = false ∧ c ≠ ',')
    (blank : ∀ c ∈ blanks, isTrimmed c ∧ c ≠ ',')
    (nonemptyFirst : first ≠ []) (nonemptySecond : second ≠ []) :
    protocolValues header = [first, second] := by
  have left : ',' ∉ first := fun member => (plainFirst _ member).2 rfl
  have right : ',' ∉ blanks ++ second := by
    intro member
    rcases List.mem_append.mp member with member | member
    · exact (blank _ member).2 rfl
    · exact (plainSecond _ member).2 rfl
  have trimFirst : trim first = first :=
    @trim_append [] first (by simp) (fun c member => (plainFirst c member).1)
  have trimSecond : trim (blanks ++ second) = second :=
    trim_append (fun c member => (blank c member).1)
      (fun c member => (plainSecond c member).1)
  unfold protocolValues
  rw [shown, List.splitOn_append_cons_self_of_not_mem left,
    List.splitOn_eq_singleton right]
  simp [trimFirst, trimSecond, nonemptyFirst, nonemptySecond]

/-- How clients join the protocols in the header. -/
def Separator (separator : String) : Prop :=
  separator = "," ∨ separator = ", "

/-- The grant that the protocols carry is read off the header. -/
theorem parse_create {grant separator : String} {protocols : List String}
    (created : createDataPlaneProtocols grant = .ok protocols)
    (joined : Separator separator) :
    parseDataPlaneProtocols (separator.intercalate protocols) =
      some ⟨.v1, grant⟩ := by
  obtain ⟨accepted, rfl⟩ : requireGrant grant = .ok grant ∧
      protocols = [Subprotocol.v1.text, grantSubprotocolPrefix ++ grant] := by
    unfold createDataPlaneProtocols at created
    cases required : requireGrant grant with
    | error message =>
        rw [required] at created
        cases created
    | ok normalized =>
        rw [required] at created
        cases created
        rw [(requireGrant_ok required).1]
        exact ⟨rfl, rfl⟩
  obtain ⟨_, sized, token⟩ := requireGrant_ok accepted
  have plainFirst := @plain_of_all Subprotocol.v1.text.toList (by decide)
  have plainSecond : ∀ c ∈ (grantSubprotocolPrefix ++ grant).toList,
      isTrimmed c = false ∧ c ≠ ',' := by
    intro c member
    have prefixed := @plain_of_all grantSubprotocolPrefix.toList (by decide)
    rw [String.toList_append, List.mem_append] at member
    rcases member with member | member
    · exact prefixed c member
    · exact plain_of_letter (isGrantToken_chars token member)
  obtain ⟨blanks, blank, shown, short⟩ : ∃ blanks : List Char,
      (∀ c ∈ blanks, isTrimmed c ∧ c ≠ ',') ∧
      separator.toList = ',' :: blanks ∧ utf16Length separator ≤ 2 := by
    rcases joined with rfl | rfl
    · exact ⟨[], by simp, rfl, by decide⟩
    · exact ⟨[' '], by simp [isTrimmed], rfl, by decide⟩
  have header : separator.intercalate
      [Subprotocol.v1.text, grantSubprotocolPrefix ++ grant] =
        Subprotocol.v1.text ++ separator ++ (grantSubprotocolPrefix ++ grant) := by
    simp [String.intercalate_cons_cons]
  rw [header]
  have whole : (Subprotocol.v1.text ++ separator ++
      (grantSubprotocolPrefix ++ grant)).toList = Subprotocol.v1.text.toList ++
        ',' :: (blanks ++ (grantSubprotocolPrefix ++ grant).toList) := by
    simp [shown]
  have values := protocolValues_pair whole plainFirst plainSecond blank
    (by decide) (by simp [grantSubprotocolPrefix])
  have bounded : ¬(Subprotocol.v1.text ++ separator ++
      (grantSubprotocolPrefix ++ grant) = "" ∨
      utf16Length (Subprotocol.v1.text ++ separator ++
        (grantSubprotocolPrefix ++ grant)) > 8192) := by
    have first : utf16Length Subprotocol.v1.text = 21 := by decide
    have middle : utf16Length grantSubprotocolPrefix = 14 := by decide
    rw [not_or]
    constructor
    · intro empty
      have chars := congrArg String.toList empty
      simp [Subprotocol.text] at chars
    · simp only [utf16Length_append]
      omega
  have offered : [Subprotocol.v1.text.toList,
      (grantSubprotocolPrefix ++ grant).toList].findSome? subprotocol? =
        some .v1 := rfl
  have distinct : [Subprotocol.v1.text.toList,
      (grantSubprotocolPrefix ++ grant).toList].Nodup := by
    simp [Subprotocol.text, grantSubprotocolPrefix]
  have carried : [Subprotocol.v1.text.toList,
      (grantSubprotocolPrefix ++ grant).toList].find? (fun value =>
        grantSubprotocolPrefix.toList.isPrefixOf value) =
          some (grantSubprotocolPrefix ++ grant).toList := by
    rw [List.find?_cons_of_neg (by decide), List.find?_cons_of_pos]
    simp [List.isPrefixOf_iff_prefix]
  unfold parseDataPlaneProtocols
  rw [if_neg bounded, values]
  simp only [offered, carried, distinct]
  simp [accepted, Except.toOption]

end DataPlane

end GpuLink
