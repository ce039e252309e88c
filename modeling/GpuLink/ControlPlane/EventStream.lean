import GpuLink.Library.Machine
import GpuLink.Store.Rows
import Mathlib.Data.List.Sort
import Mathlib.Logic.Function.Basic

/-!
# Streams of events

Transactions append events to a table; a sequence is drawn when a row is
inserted, and the row is seen when its transaction commits.  A client of
`GET /v1/events` has a cursor; a flush sends it a page of what comes after the
cursor, and the flushes of a client run one after the other.
-/

namespace GpuLink

namespace EventStream

/-! ## The table -/

/-- What a transaction has done to the table. -/
structure Transaction where
  rows : List EventRow
  /-- The sequences that the retention has deleted. -/
  deleted : List Nat

def Transaction.empty : Transaction := ⟨[], []⟩

/-- `SELECT MAX(sequence)`, zero where there is no row. -/
def newest (rows : List EventRow) : Nat :=
  (rows.map EventRow.sequence).foldl max 0

/-- The default limit of `listEventsAfter`. -/
def pageLimit : Nat := 500

/-- `listEventsAfter` of a table in the order of its sequences. -/
def listEventsAfter (events : List EventRow) (sequence : Int) : List EventRow :=
  (events.filter fun row => sequence < row.sequence).take pageLimit

def insertInOrder (events rows : List EventRow) : List EventRow :=
  (events ++ rows).insertionSort fun first second =>
    first.sequence ≤ second.sequence

/-! ## Clients -/

/-- A flush that has not settled; the page is there when the query has been
answered. -/
structure Flush where
  opening : Bool
  page : Option (List EventRow)

/-- A request for the stream. -/
structure Client where
  /-- The cursor at first. -/
  start : Int
  sequence : Int
  /-- What `flushTail` waits for, in the order of queueing. -/
  flushes : List Flush
  /-- How many flushes have settled. -/
  settled : Nat
  written : List EventRow
  /-- What has been written after the request closed. -/
  late : List EventRow
  /-- The listener for the close of the request is there. -/
  registered : Bool
  /-- The client is one of `eventClients`. -/
  member : Bool
  /-- The keep-alive timer runs. -/
  timer : Bool
  closed : Bool

namespace Client

/-- `queueClientFlush` -/
def queueFlush (client : Client) (opening : Bool) : Client :=
  { client with flushes := client.flushes ++ [⟨opening, none⟩] }

/-- `openEventStream` up to its first flush.  `lastEventId` is what `Number`
makes of the header, none for what is not finite. -/
def connect (lastEventId : Option Rat) : Client :=
  let start : Int := match lastEventId with
    | some number =>
        if number.den = 1 ∧ number.num.natAbs ≤ 9007199254740991 then number.num
        else 0
    | none => 0
  { start := start, sequence := start, flushes := [], settled := 0
    written := [], late := [], registered := false, member := true
    timer := false, closed := false : Client }.queueFlush true

/-- The query of the first flush is answered. -/
def answer (events : List EventRow) (client : Client) : Option Client :=
  match client.flushes with
  | ⟨opening, none⟩ :: rest => some { client with
      flushes :=
        ⟨opening, some (listEventsAfter events client.sequence)⟩ :: rest }
  | _ => none

/-- The loop of `flushClient`. -/
def write (client : Client) (page : List EventRow) : Client :=
  { client with
    written := client.written ++ page
    late := if client.closed then client.late ++ page else client.late
    sequence := (page.map fun row => (row.sequence : Int)).getLastD
      client.sequence }

/-- The page is written.  After the opening flush the timer starts and the
close of the request is listened for. -/
def resume (client : Client) : Option Client :=
  match client.flushes with
  | ⟨opening, some page⟩ :: rest =>
      let after := { client.write page with
        flushes := rest, settled := client.settled + 1 }
      some (if opening then { after with registered := true, timer := true }
        else after)
  | _ => none

/-- The query of the first flush fails. -/
def reject (client : Client) : Option Client :=
  match client.flushes with
  | ⟨_, none⟩ :: rest => some { client with
      flushes := rest, settled := client.settled + 1 }
  | _ => none

/-- The request closes. -/
def close (client : Client) : Option Client :=
  if client.closed then none
  else if client.registered then
    some { client with closed := true, timer := false, member := false }
  else some { client with closed := true }

end Client

/-! ## The server -/

structure Server where
  /-- The last sequence that has been drawn. -/
  drawn : Nat
  transactions : Nat → Transaction
  /-- The rows that are seen, in the order of their sequences. -/
  events : List EventRow
  clients : List Client

inductive Event where
  /-- `appendEvent` in a transaction -/
  | insert (transaction : Nat) (type : String) (subjectId : Option String)
      (payload : Json) (createdAt : Int)
  | commit (transaction : Nat)
  | rollback (transaction : Nat)
  | connect (lastEventId : Option Rat)
  /-- `broadcastNewEvents` -/
  | broadcast
  | answer (client : Nat)
  | resume (client : Nat)
  | reject (client : Nat)
  | close (client : Nat)
  | closeEventStreams

namespace Server

def initial : Server := ⟨0, fun _ => .empty, [], []⟩

def insert (server : Server) (transaction : Nat) (type : String)
    (subjectId : Option String) (payload : Json) (createdAt : Int) : Server :=
  let old := server.transactions transaction
  let rows := old.rows ++ [⟨server.drawn + 1, type, subjectId, payload,
    createdAt⟩]
  let bound := newest (server.events ++ rows) - 10000
  let deleted := (server.events.map EventRow.sequence).filter (· ≤ bound)
  { server with
    drawn := server.drawn + 1
    transactions := Function.update server.transactions transaction
      ⟨rows.filter fun row => bound < row.sequence, old.deleted ++ deleted⟩ }

def commit (server : Server) (transaction : Nat) : Server :=
  let done := server.transactions transaction
  { server with
    transactions := Function.update server.transactions transaction .empty
    events := insertInOrder
      (server.events.filter fun row => row.sequence ∉ done.deleted) done.rows }

def rollback (server : Server) (transaction : Nat) : Server :=
  { server with
    transactions := Function.update server.transactions transaction .empty }

/-- One client changes. -/
def change (server : Server) (id : Nat) (step : Client → Option Client) :
    Option Server := do
  let client ← server.clients[id]?
  let changed ← step client
  some { server with clients := server.clients.set id changed }

def step (server : Server) : Event → Option Server
  | .insert transaction type subjectId payload createdAt =>
      some (server.insert transaction type subjectId payload createdAt)
  | .commit transaction => some (server.commit transaction)
  | .rollback transaction => some (server.rollback transaction)
  | .connect lastEventId => some { server with
      clients := server.clients ++ [.connect lastEventId] }
  | .broadcast => some { server with
      clients := server.clients.map fun client =>
        if client.member then client.queueFlush false else client }
  | .answer id => server.change id (Client.answer server.events)
  | .resume id => server.change id Client.resume
  | .reject id => server.change id Client.reject
  | .close id => server.change id Client.close
  | .closeEventStreams => some { server with
      clients := server.clients.map fun client =>
        { client with member := false } }

def machine : Machine Server Event := ⟨initial, step⟩

theorem change_cases {server after : Server} {id : Nat}
    {step : Client → Option Client} (changes : server.change id step = some after) :
    ∃ client changed, server.clients[id]? = some client ∧
      step client = some changed ∧
      after = { server with clients := server.clients.set id changed } := by
  obtain ⟨client, found, changes⟩ := Option.bind_eq_some_iff.mp changes
  obtain ⟨changed, stepped, changes⟩ := Option.bind_eq_some_iff.mp changes
  cases changes
  exact ⟨client, changed, found, stepped, rfl⟩

/-- What all clients have, and the changed one keeps, all have afterwards. -/
theorem forall_change {server after : Server} {id : Nat}
    {step : Client → Option Client} {P : Client → Prop}
    (changes : server.change id step = some after)
    (all : ∀ client ∈ server.clients, P client)
    (keeps : ∀ client changed, server.clients[id]? = some client →
      P client → step client = some changed → P changed) :
    ∀ client ∈ after.clients, P client := by
  obtain ⟨client, changed, found, stepped, rfl⟩ := change_cases changes
  intro other member
  rcases List.mem_or_eq_of_mem_set member with old | rfl
  · exact all other old
  · exact keeps client other found (all client (List.mem_of_getElem? found))
      stepped

end Server

end EventStream

end GpuLink
