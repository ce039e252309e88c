import GpuLink.ControlPlane.EventStream

/-!
# The clients of the event stream

A client is one of `eventClients` from before its opening flush.  The timer and
the listener for the close of its request come after that flush, and a flush
does not ask whether the request has closed.
-/

namespace GpuLink

namespace EventStream

/-! ## What is asked of the set -/

/-- No opening flush is in progress. -/
def NoneOpening (server : Server) : Prop :=
  ∀ client ∈ server.clients, ∀ flush ∈ client.flushes, flush.opening = false

/-- The client is in the set only while its request is open, and has a timer
exactly while it is in the set. -/
def Client.Tracked (client : Client) : Prop :=
  (client.member = true → client.closed = false) ∧
    client.timer = client.member

/-- A flush of the client is queued, or its query has not been answered. -/
def Client.Awaits (client : Client) : Prop :=
  ∃ flush ∈ client.flushes, flush.page = none

/-- The client has been sent all of these events. -/
def Client.CaughtUp (client : Client) (events : List EventRow) : Prop :=
  ∀ row ∈ events, (row.sequence : Int) ≤ client.sequence

/-- No page with an event has been read for the client and waits to be
written. -/
def Client.Unread (client : Client) : Prop :=
  ∀ flush ∈ client.flushes, ∀ page ∈ flush.page, page = []

/-- The condition on the close of a request, on commits while flushes of closed
requests are under way, on opening queries and on a shutdown. -/
def Orderly (server : Server) : Event → Prop
  | .close id => ∀ client ∈ server.clients[id]?,
      client.registered = true ∧ client.Unread ∧
        (client.Awaits → client.CaughtUp server.events)
  | .commit transaction => ∀ client ∈ server.clients, client.closed = true →
      client.Awaits → client.CaughtUp (server.transactions transaction).rows
  | .reject id => ∀ client ∈ server.clients[id]?,
      ∀ flush ∈ client.flushes.head?, flush.opening = false
  | .closeEventStreams => ∀ client ∈ server.clients, client.member = false
  | _ => True

instance (client : Client) : Decidable client.Awaits :=
  inferInstanceAs (Decidable (∃ flush ∈ client.flushes, flush.page = none))

instance (client : Client) (events : List EventRow) :
    Decidable (client.CaughtUp events) :=
  inferInstanceAs (Decidable
    (∀ row ∈ events, (row.sequence : Int) ≤ client.sequence))

instance (client : Client) : Decidable client.Unread :=
  inferInstanceAs (Decidable
    (∀ flush ∈ client.flushes, ∀ page ∈ flush.page, page = []))

instance (server : Server) : ∀ event, Decidable (Orderly server event)
  | .close id => inferInstanceAs (Decidable
      (∀ client ∈ server.clients[id]?, client.registered = true ∧
        client.Unread ∧ (client.Awaits → client.CaughtUp server.events)))
  | .commit transaction => inferInstanceAs (Decidable
      (∀ client ∈ server.clients, client.closed = true →
        client.Awaits → client.CaughtUp (server.transactions transaction).rows))
  | .reject id => inferInstanceAs (Decidable
      (∀ client ∈ server.clients[id]?, ∀ flush ∈ client.flushes.head?,
        flush.opening = false))
  | .closeEventStreams => inferInstanceAs (Decidable
      (∀ client ∈ server.clients, client.member = false))
  | .insert .. | .rollback _ | .connect _ | .broadcast | .answer _
  | .resume _ => isTrue trivial

/-! ## One client -/

/-- Only the opening flush has been queued first. -/
structure Client.Opening (client : Client) : Prop where
  flushes : ∃ page rest, client.flushes = ⟨true, page⟩ :: rest ∧
    ∀ flush ∈ rest, flush.opening = false
  member : client.member = true
  timer : client.timer = false
  closed : client.closed = false
  unregistered : client.registered = false

structure Client.Opened (client : Client) : Prop where
  flushes : ∀ flush ∈ client.flushes, flush.opening = false
  tracked : client.Tracked
  registered : client.registered = true

/-- A closed request has nothing to come. -/
def Client.Spent (client : Client) (events : List EventRow) : Prop :=
  client.closed = true →
    client.Unread ∧ (client.Awaits → client.CaughtUp events)

/-- Where a client is, if everything has been orderly. -/
structure Client.Placed (events : List EventRow) (client : Client) : Prop where
  late : client.late = []
  spent : client.Spent events
  place : client.Opening ∨ client.Opened

theorem Client.spent_of_open {client : Client} {events : List EventRow}
    (isOpen : client.closed = false) : client.Spent events := by
  intro closed
  rw [isOpen] at closed
  cases closed

theorem Client.Opening.spent {client : Client} {events : List EventRow}
    (opening : client.Opening) : client.Spent events :=
  spent_of_open opening.closed

section Steps

variable {client changed : Client} {events : List EventRow}

theorem placed_connect (lastEventId : Option Rat) :
    (Client.connect lastEventId).Placed events := by
  have opening : (Client.connect lastEventId).Opening := by
    refine ⟨⟨none, [], rfl, ?_⟩, rfl, rfl, rfl, rfl⟩
    intro flush none
    cases none
  exact ⟨rfl, opening.spent, Or.inl opening⟩

/-- Only a client of the set is told of a broadcast, and that is open. -/
theorem Client.Placed.queueFlush (placed : client.Placed events)
    (member : client.member = true) :
    (client.queueFlush false).Placed events := by
  have queued : ∀ {flush : Flush} {flushes : List Flush},
      (∀ flush ∈ flushes, flush.opening = false) →
        flush ∈ flushes ++ [⟨false, none⟩] → flush.opening = false := by
    intro flush flushes plain member
    rcases List.mem_append.mp member with old | new
    · exact plain flush old
    · rw [List.mem_singleton.mp new]
  rcases placed.place with opening | opened
  · obtain ⟨page, rest, shape, plain⟩ := opening.flushes
    have opening : (client.queueFlush false).Opening := by
      refine ⟨⟨page, rest ++ [⟨false, none⟩], ?_, fun flush => queued plain⟩,
        opening.member, opening.timer, opening.closed, opening.unregistered⟩
      change client.flushes ++ _ = _
      rw [shape]
      rfl
    exact ⟨placed.late, opening.spent, Or.inl opening⟩
  · refine ⟨placed.late, spent_of_open (opened.tracked.1 member), Or.inr ?_⟩
    exact ⟨fun flush => queued opened.flushes, opened.tracked,
      opened.registered⟩

/-- The page of a closed request is empty. -/
theorem Client.Placed.answer (placed : client.Placed events)
    (answered : client.answer events = some changed) :
    changed.Placed events := by
  rw [Client.answer] at answered
  split at answered
  · next opening rest shape =>
      cases answered
      refine ⟨placed.late, ?_, ?_⟩
      · intro closed
        obtain ⟨unread, caughtUp⟩ := placed.spent closed
        have sent := caughtUp ⟨⟨opening, none⟩,
          by rw [shape]; exact List.mem_cons_self, rfl⟩
        refine ⟨?_, fun _ => sent⟩
        intro flush member page read
        rcases List.mem_cons.mp member with rfl | later
        · rw [← Option.some.inj read, listEventsAfter,
            List.filter_eq_nil_iff.mpr]
          · rfl
          · intro row stored
            have behind := sent row stored
            simp only [decide_eq_true_eq]
            omega
        · exact unread flush (by rw [shape]; exact List.mem_cons_of_mem _ later)
            page read
      · rcases placed.place with opens | opened
        · obtain ⟨page, others, first, plain⟩ := opens.flushes
          rw [shape] at first
          obtain ⟨head, rfl⟩ := List.cons.inj first
          cases head
          exact Or.inl ⟨⟨_, rest, rfl, plain⟩, opens.member, opens.timer,
            opens.closed, opens.unregistered⟩
        · refine Or.inr ⟨?_, opened.tracked, opened.registered⟩
          have plain := opened.flushes
          rw [shape] at plain
          intro flush member
          rcases List.mem_cons.mp member with rfl | later
          · exact plain ⟨opening, none⟩ List.mem_cons_self
          · exact plain flush (List.mem_cons_of_mem _ later)
  · cases answered

/-- What is left of the flushes of a closed request. -/
theorem Client.Spent.later {flush : Flush} {rest : List Flush}
    (spent : client.Spent events) (shape : client.flushes = flush :: rest)
    (flushes : changed.flushes = rest) (closed : changed.closed = client.closed)
    (sequence : client.closed = true → changed.sequence = client.sequence) :
    changed.Spent events := by
  intro shut
  rw [closed] at shut
  obtain ⟨unread, caughtUp⟩ := spent shut
  have kept : ∀ other ∈ changed.flushes, other ∈ client.flushes := by
    intro other member
    rw [flushes] at member
    rw [shape]
    exact List.mem_cons_of_mem _ member
  refine ⟨fun other member => unread other (kept other member), ?_⟩
  rintro ⟨other, member, waits⟩ row stored
  rw [sequence shut]
  exact caughtUp ⟨other, kept other member, waits⟩ row stored

/-- What is written for a closed request is nothing. -/
theorem Client.Placed.resume (placed : client.Placed events)
    (resumed : client.resume = some changed) : changed.Placed events := by
  rw [Client.resume] at resumed
  split at resumed
  · next opening page rest shape =>
      have empty : client.closed = true → page = [] := by
        intro closed
        refine (placed.spent closed).1 ⟨opening, some page⟩ ?_ page rfl
        rw [shape]
        exact List.mem_cons_self
      have noLate : (client.write page).late = [] := by
        change (if client.closed then client.late ++ page else client.late) = []
        rw [placed.late]
        split
        · next closed => exact empty closed
        · rfl
      have sequence : client.closed = true →
          (client.write page).sequence = client.sequence := by
        intro closed
        rw [empty closed]
        rfl
      rcases placed.place with opens | opened
      · -- The opening flush is over.
        obtain ⟨other, others, first, plain⟩ := opens.flushes
        rw [shape] at first
        obtain ⟨head, rfl⟩ := List.cons.inj first
        cases head
        cases resumed
        refine ⟨noLate, spent_of_open opens.closed,
          Or.inr ⟨plain, ⟨fun _ => opens.closed, ?_⟩, rfl⟩⟩
        exact opens.member.symm
      · have plain := opened.flushes
        rw [shape] at plain
        have notOpening : opening = false :=
          plain ⟨opening, some page⟩ List.mem_cons_self
        subst notOpening
        cases resumed
        refine ⟨noLate, placed.spent.later shape rfl rfl sequence,
          Or.inr ⟨?_, opened.tracked, opened.registered⟩⟩
        exact fun flush later => plain flush (List.mem_cons_of_mem _ later)
  · cases resumed

theorem Client.Placed.reject (placed : client.Placed events)
    (notOpening : ∀ flush ∈ client.flushes.head?, flush.opening = false)
    (rejected : client.reject = some changed) : changed.Placed events := by
  rw [Client.reject] at rejected
  split at rejected
  · next opening rest shape =>
      have head := notOpening ⟨opening, none⟩ (by rw [shape]; exact rfl)
      cases rejected
      refine ⟨placed.late, placed.spent.later shape rfl rfl fun _ => rfl,
        Or.inr ?_⟩
      rcases placed.place with opens | opened
      · obtain ⟨page, others, first, _⟩ := opens.flushes
        rw [shape] at first
        cases (List.cons.inj first).1
        cases head
      · refine ⟨?_, opened.tracked, opened.registered⟩
        have plain := opened.flushes
        rw [shape] at plain
        exact fun flush later => plain flush (List.mem_cons_of_mem _ later)
  · cases rejected

theorem Client.Placed.close (placed : client.Placed events)
    (registered : client.registered = true) (unread : client.Unread)
    (caughtUp : client.Awaits → client.CaughtUp events)
    (closes : client.close = some changed) : changed.Placed events := by
  rw [Client.close, if_pos registered] at closes
  split at closes
  · cases closes
  · cases closes
    refine ⟨placed.late, fun _ => ⟨unread, caughtUp⟩, Or.inr ?_⟩
    rcases placed.place with opens | opened
    · rw [opens.unregistered] at registered
      cases registered
    · refine ⟨opened.flushes, ⟨?_, rfl⟩, registered⟩
      intro none
      cases none

theorem Client.Placed.leave (placed : client.Placed events)
    (absent : client.member = false) :
    ({ client with member := false } : Client).Placed events := by
  rw [show ({ client with member := false } : Client) = client from by
    rw [← absent]]
  exact placed

/-- What is committed has been sent, or no query will read it. -/
theorem Client.Placed.commit {rows : List EventRow} {deleted : List Nat}
    (placed : client.Placed events)
    (caughtUp : client.closed = true → client.Awaits → client.CaughtUp rows) :
    client.Placed (insertInOrder
      (events.filter fun row => row.sequence ∉ deleted) rows) := by
  refine ⟨placed.late, ?_, placed.place⟩
  intro closed
  obtain ⟨unread, sent⟩ := placed.spent closed
  refine ⟨unread, fun awaits row stored => ?_⟩
  rcases List.mem_append.mp ((List.mem_insertionSort _).mp stored) with
    old | new
  · exact sent awaits row (List.mem_of_mem_filter old)
  · exact caughtUp closed awaits row new

end Steps

/-! ## All clients -/

def Placed (server : Server) : Prop :=
  ∀ client ∈ server.clients, client.Placed server.events

theorem Server.change_events {server after : Server} {id : Nat}
    {step : Client → Option Client}
    (changes : server.change id step = some after) :
    after.events = server.events := by
  obtain ⟨_, _, _, _, rfl⟩ := change_cases changes
  rfl

/-- A client that changes stays placed. -/
theorem Placed.change {server after : Server} {id : Nat}
    {step : Client → Option Client} (placed : Placed server)
    (changes : server.change id step = some after)
    (keeps : ∀ client changed, server.clients[id]? = some client →
      client.Placed server.events → step client = some changed →
        changed.Placed server.events) : Placed after := by
  intro client member
  rw [Server.change_events changes]
  exact Server.forall_change changes placed keeps client member

theorem Placed.step {server after : Server} {event : Event}
    (placed : Placed server) (orderly : Orderly server event)
    (taken : server.step event = some after) : Placed after := by
  cases event with
  | insert => exact Option.some.inj taken ▸ placed
  | commit =>
      rw [← Option.some.inj taken]
      intro client member
      exact (placed client member).commit (orderly client member)
  | rollback => exact Option.some.inj taken ▸ placed
  | connect lastEventId =>
      rw [← Option.some.inj taken]
      intro client member
      rcases List.mem_append.mp member with old | new
      · exact placed client old
      · rw [List.mem_singleton.mp new]
        exact placed_connect lastEventId
  | broadcast =>
      rw [← Option.some.inj taken]
      intro client member
      obtain ⟨other, old, rfl⟩ := List.mem_map.mp member
      split
      · next inSet => exact (placed other old).queueFlush inSet
      · exact placed other old
  | answer id =>
      exact placed.change taken (fun _ _ _ place stepped =>
        place.answer stepped)
  | resume id =>
      exact placed.change taken (fun _ _ _ place stepped =>
        place.resume stepped)
  | reject id =>
      exact placed.change taken (fun client _ found place stepped =>
        place.reject (orderly client found) stepped)
  | close id =>
      refine placed.change taken (fun client _ found place stepped => ?_)
      obtain ⟨registered, unread, caughtUp⟩ := orderly client found
      exact place.close registered unread caughtUp stepped
  | closeEventStreams =>
      rw [← Option.some.inj taken]
      intro client member
      obtain ⟨other, old, rfl⟩ := List.mem_map.mp member
      exact (placed other old).leave (orderly other old)

/-- When no opening flush is in progress, the set is that of the open requests
that have a timer, and nothing is written to a request that has closed. -/
theorem stream_clients {events : List Event} {server : Server}
    (run : Server.machine.Runs Orderly events server) :
    (NoneOpening server → ∀ client ∈ server.clients, client.Tracked) ∧
      ∀ client ∈ server.clients, client.late = [] := by
  have placed : Placed server := by
    refine run.invariant (fun _ state => Placed state) ?_ ?_
    · intro client none
      cases none
    · intro _ _ _ _ _ kept orderly taken
      exact kept.step orderly taken
  refine ⟨?_, fun client member => (placed client member).late⟩
  intro noneOpening client member
  rcases (placed client member).place with opening | opened
  · obtain ⟨page, rest, shape, _⟩ := opening.flushes
    have plain := noneOpening client member ⟨true, page⟩
      (by rw [shape]; exact List.mem_cons_self)
    cases plain
  · exact opened.tracked

/-- A client is sent an event and leaves while another flush is queued; an
event is committed once that has run. -/
def sampleStream : List Event :=
  [.connect none, .answer 0, .resume 0, .insert 0 "job.queued" none .null 0,
    .commit 0, .broadcast, .answer 0, .resume 0, .broadcast, .close 0,
    .answer 0, .insert 1 "job.cancelled" none .null 0, .commit 1, .resume 0]

theorem stream_clients_sample : ∃ server,
    Server.machine.Runs Orderly sampleStream server ∧
      (server.clients.map fun client => (client.member, client.timer,
        client.closed, client.written.map EventRow.sequence)) =
          [(false, false, true, [1])] ∧
      ∀ client ∈ server.clients, client.late = [] := by
  have played := Server.machine.play_get sampleStream (by decide)
  have run := Machine.runs_of_play
    (by decide : Server.machine.Meets Orderly Server.initial sampleStream)
    played
  exact ⟨_, run, by decide, (stream_clients run).2⟩

/-- A request that closes during its opening flush stays in the set. -/
def leavingStream : List Event :=
  [.connect none, .close 0, .answer 0, .resume 0]

theorem closed_client_stays : ¬ ∀ events server,
    Server.machine.Reaches events server →
      (NoneOpening server → ∀ client ∈ server.clients, client.Tracked) ∧
        ∀ client ∈ server.clients, client.late = [] := by
  intro all
  have played := Server.machine.play_get leavingStream (by decide)
  obtain ⟨tracked, _⟩ := all _ _ (Machine.reaches_of_play played)
  have stays := tracked ?_ _ List.mem_cons_self
  · have isOpen := stays.1 rfl
    cases isOpen
  · intro client member flush waiting
    cases List.mem_singleton.mp member
    cases waiting

end EventStream

end GpuLink
