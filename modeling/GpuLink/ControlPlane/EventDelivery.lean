import GpuLink.ControlPlane.EventStream

/-!
# What a stream delivers

A flush sends the first page after the cursor of its client.  An event that is
seen only after the cursor has passed it is not sent any more, and one flush
sends one page.
-/

namespace GpuLink

namespace EventStream

/-- In the order of their sequences, none twice. -/
def Ascending (rows : List EventRow) : Prop :=
  rows.Pairwise fun first second => first.sequence < second.sequence

/-! ## The table -/

/-- Sequences are drawn once. -/
structure Drawn (server : Server) : Prop where
  ascending : Ascending server.events
  events : ∀ row ∈ server.events, row.sequence ≤ server.drawn
  rows : ∀ transaction, Ascending (server.transactions transaction).rows ∧
    ∀ row ∈ (server.transactions transaction).rows, row.sequence ≤ server.drawn
  unseen : ∀ transaction, ∀ row ∈ (server.transactions transaction).rows,
    ∀ other ∈ server.events, row.sequence ≠ other.sequence
  apart : ∀ first second, first ≠ second →
    ∀ row ∈ (server.transactions first).rows,
      ∀ other ∈ (server.transactions second).rows,
        row.sequence ≠ other.sequence

theorem mem_insertInOrder {events rows : List EventRow} {row : EventRow} :
    row ∈ insertInOrder events rows ↔ row ∈ events ∨ row ∈ rows := by
  rw [insertInOrder, List.mem_insertionSort, List.mem_append]

theorem ascending_insertInOrder {events rows : List EventRow}
    (events_ : Ascending events) (rows_ : Ascending rows)
    (apart : ∀ row ∈ rows, ∀ other ∈ events, row.sequence ≠ other.sequence) :
    Ascending (insertInOrder events rows) := by
  have : Std.Total fun first second : EventRow =>
      first.sequence ≤ second.sequence := ⟨fun _ _ => le_total _ _⟩
  have : IsTrans EventRow fun first second =>
      first.sequence ≤ second.sequence := ⟨fun _ _ _ => le_trans⟩
  have sorted := List.pairwise_insertionSort (fun first second : EventRow =>
    first.sequence ≤ second.sequence) (events ++ rows)
  have distinct : (events ++ rows).Pairwise fun first second =>
      first.sequence ≠ second.sequence := by
    apply List.pairwise_append.mpr
    refine ⟨events_.imp (fun less => less.ne), rows_.imp (fun less => less.ne),
      ?_⟩
    intro other member row inRows
    exact (apart row inRows other member).symm
  have differ : (insertInOrder events rows).Pairwise fun first second =>
      first.sequence ≠ second.sequence :=
    (List.perm_insertionSort _ _).symm.pairwise distinct
      (fun apart => apart.symm)
  exact (sorted.and differ).imp fun both => lt_of_le_of_ne both.1 both.2

theorem drawn_initial : Drawn Server.initial := by
  refine ⟨List.Pairwise.nil, ?_, fun _ => ⟨List.Pairwise.nil, ?_⟩, ?_, ?_⟩
  · intro row none
    cases none
  · intro row none
    cases none
  · intro _ row none
    cases none
  · intro _ _ _ row none
    cases none

/-- The rows of a transaction after an insert: an old one, or the new one. -/
theorem mem_rows_insert {server : Server} {transaction : Nat} {type : String}
    {subjectId : Option String} {payload : Json} {createdAt : Int}
    {other : Nat} {row : EventRow}
    (member : row ∈ ((server.insert transaction type subjectId payload
      createdAt).transactions other).rows) :
    row ∈ (server.transactions other).rows ∨
      other = transaction ∧ row.sequence = server.drawn + 1 := by
  by_cases same : other = transaction
  · subst same
    rw [Server.insert] at member
    simp only [Function.update_self] at member
    rcases List.mem_append.mp (List.mem_filter.mp member).1 with old | new
    · exact Or.inl old
    · rw [List.mem_singleton.mp new]
      exact Or.inr ⟨rfl, rfl⟩
  · rw [Server.insert] at member
    simp only [Function.update_of_ne same] at member
    exact Or.inl member

theorem Drawn.insert {server : Server} (drawn : Drawn server)
    (transaction : Nat) (type : String) (subjectId : Option String)
    (payload : Json) (createdAt : Int) :
    Drawn (server.insert transaction type subjectId payload createdAt) := by
  refine ⟨drawn.ascending, ?_, ?_, ?_, ?_⟩
  · intro row member
    exact Nat.le_succ_of_le (drawn.events row member)
  · intro other
    constructor
    · by_cases same : other = transaction
      · subst same
        rw [Server.insert]
        simp only [Function.update_self]
        apply List.Pairwise.filter
        apply List.pairwise_append.mpr
        refine ⟨(drawn.rows other).1, List.pairwise_singleton _ _, ?_⟩
        intro row member new last
        rw [List.mem_singleton.mp last]
        exact Nat.lt_succ_of_le ((drawn.rows other).2 row member)
      · rw [Server.insert]
        simp only [Function.update_of_ne same]
        exact (drawn.rows other).1
    · intro row member
      rcases mem_rows_insert member with old | ⟨_, new⟩
      · exact Nat.le_succ_of_le ((drawn.rows other).2 row old)
      · exact new.le
  · intro other row member seen inEvents
    rcases mem_rows_insert member with old | ⟨_, new⟩
    · exact drawn.unseen other row old seen inEvents
    · have early := drawn.events seen inEvents
      omega
  · intro first second apart row member other inSecond
    rcases mem_rows_insert member with old | ⟨same, new⟩
    · rcases mem_rows_insert inSecond with older | ⟨_, newer⟩
      · exact drawn.apart first second apart row old other older
      · have early := (drawn.rows first).2 row old
        omega
    · rcases mem_rows_insert inSecond with older | ⟨alike, _⟩
      · have early := (drawn.rows second).2 other older
        omega
      · exact absurd (same.trans alike.symm) apart

/-- No rows, or those of another transaction, are left of transactions. -/
theorem rows_update {transactions : Nat → Transaction} {ended other : Nat}
    {row : EventRow}
    (member : row ∈ (Function.update transactions ended .empty other).rows) :
    other ≠ ended ∧ row ∈ (transactions other).rows := by
  by_cases same : other = ended
  · subst same
    rw [Function.update_self] at member
    cases member
  · rw [Function.update_of_ne same] at member
    exact ⟨same, member⟩

/-- A transaction ends, and the table has its rows or not. -/
theorem Drawn.ends {server : Server} (drawn : Drawn server) (ended : Nat)
    {events : List EventRow} (ascending : Ascending events)
    (from_ : ∀ row ∈ events, row ∈ server.events ∨
      row ∈ (server.transactions ended).rows) :
    Drawn { server with
      transactions := Function.update server.transactions ended .empty
      events := events } := by
  refine ⟨ascending, ?_, ?_, ?_, ?_⟩
  · intro row member
    rcases from_ row member with old | new
    · exact drawn.events row old
    · exact (drawn.rows ended).2 row new
  · intro other
    constructor
    · by_cases same : other = ended
      · subst same
        simp only [Function.update_self]
        exact List.Pairwise.nil
      · simp only [Function.update_of_ne same]
        exact (drawn.rows other).1
    · intro row member
      exact (drawn.rows other).2 row (rows_update member).2
  · intro other row member seen inEvents
    obtain ⟨apart, old⟩ := rows_update member
    rcases from_ seen inEvents with before | new
    · exact drawn.unseen other row old seen before
    · exact drawn.apart other ended apart row old seen new
  · intro first second apart row member other inSecond
    exact drawn.apart first second apart row (rows_update member).2 other
      (rows_update inSecond).2

theorem Drawn.step {server after : Server} {event : Event}
    (drawn : Drawn server) (taken : server.step event = some after) :
    Drawn after := by
  have clients : ∀ clients, Drawn { server with clients := clients } :=
    fun _ => ⟨drawn.ascending, drawn.events, drawn.rows, drawn.unseen,
      drawn.apart⟩
  have changes : ∀ id step, server.change id step = some after →
      Drawn after := by
    intro id step changed
    obtain ⟨_, _, _, _, rfl⟩ := Server.change_cases changed
    exact clients _
  cases event with
  | insert transaction type subjectId payload createdAt =>
      exact Option.some.inj taken ▸ drawn.insert _ _ _ _ _
  | commit transaction =>
      rw [← Option.some.inj taken]
      have kept : Ascending (server.events.filter fun row =>
          row.sequence ∉ (server.transactions transaction).deleted) :=
        drawn.ascending.filter _
      apply drawn.ends
      · apply ascending_insertInOrder kept (drawn.rows transaction).1
        intro row member other inEvents
        exact drawn.unseen transaction row member other
          (List.mem_filter.mp inEvents).1
      · intro row member
        rcases mem_insertInOrder.mp member with old | new
        · exact Or.inl (List.mem_filter.mp old).1
        · exact Or.inr new
  | rollback transaction =>
      rw [← Option.some.inj taken]
      exact drawn.ends transaction drawn.ascending (fun _ => Or.inl)
  | connect lastEventId => exact Option.some.inj taken ▸ clients _
  | broadcast => exact Option.some.inj taken ▸ clients _
  | answer id => exact changes id _ taken
  | resume id => exact changes id _ taken
  | reject id => exact changes id _ taken
  | close id => exact changes id _ taken
  | closeEventStreams => exact Option.some.inj taken ▸ clients _

/-! ## Pages -/

/-- The page that is written next. -/
def Client.page (client : Client) : List EventRow :=
  match client.flushes with
  | ⟨_, some page⟩ :: _ => page
  | _ => []

theorem ascending_listEventsAfter {events : List EventRow}
    (ascending : Ascending events) (sequence : Int) :
    Ascending (listEventsAfter events sequence) :=
  (ascending.filter _).sublist (List.take_sublist _ _)

theorem mem_listEventsAfter {events : List EventRow} {sequence : Int}
    {row : EventRow} (member : row ∈ listEventsAfter events sequence) :
    row ∈ events ∧ sequence < row.sequence := by
  obtain ⟨inEvents, after⟩ := List.mem_filter.mp (List.mem_of_mem_take member)
  exact ⟨inEvents, of_decide_eq_true after⟩

/-- What comes after the cursor and is not in the page comes after the page,
which is full. -/
theorem listEventsAfter_rest {events : List EventRow} {sequence : Int}
    (ascending : Ascending events) {row : EventRow} (member : row ∈ events)
    (after : sequence < row.sequence)
    (missing : row ∉ listEventsAfter events sequence) :
    (listEventsAfter events sequence).length = pageLimit ∧
      ∀ other ∈ listEventsAfter events sequence,
        other.sequence < row.sequence := by
  have behind : row ∈ events.filter fun row => sequence < row.sequence :=
    List.mem_filter.mpr ⟨member, decide_eq_true after⟩
  have split := List.take_append_drop pageLimit
    (events.filter fun row => sequence < row.sequence)
  have dropped : row ∈ (events.filter fun row =>
      sequence < row.sequence).drop pageLimit := by
    rw [← split] at behind
    rcases List.mem_append.mp behind with inPage | rest
    · exact absurd inPage missing
    · exact rest
  constructor
  · have long := List.length_pos_of_mem dropped
    rw [List.length_drop] at long
    rw [listEventsAfter, List.length_take]
    omega
  · intro other inPage
    have ordered := ascending.filter fun row => decide (sequence < row.sequence)
    rw [← split] at ordered
    exact (List.pairwise_append.mp ordered).2.2 other inPage row dropped

theorem nil_or_last (page : List EventRow) :
    page = [] ∨ ∃ front last, page = front ++ [last] := by
  rcases List.eq_nil_or_concat page with none | ⟨front, last, shape⟩
  · exact Or.inl none
  · exact Or.inr ⟨front, last, by rw [shape, List.concat_eq_append]⟩

/-- Where the cursor is after a page. -/
structure Passed (client : Client) (page : List EventRow) : Prop where
  grows : client.sequence ≤ (client.write page).sequence
  covers : ∀ row ∈ page, row.sequence ≤ (client.write page).sequence
  last : page ≠ [] → ∃ row ∈ page, row.sequence = (client.write page).sequence

theorem passed_write {client : Client} {page : List EventRow}
    (ascending : Ascending page)
    (after : ∀ row ∈ page, client.sequence < row.sequence) :
    Passed client page := by
  rcases nil_or_last page with rfl | ⟨front, last, rfl⟩
  · refine ⟨le_rfl, ?_, fun some => absurd rfl some⟩
    intro row none
    cases none
  · have cursor : (client.write (front ++ [last])).sequence = last.sequence := by
      simp [Client.write]
    have inPage : last ∈ front ++ [last] :=
      List.mem_append_right _ List.mem_cons_self
    refine ⟨?_, ?_, fun _ => ⟨last, inPage, cursor.symm⟩⟩
    · rw [cursor]
      exact (after last inPage).le
    · intro row member
      rw [cursor]
      rcases List.mem_append.mp member with early | same
      · have less := (List.pairwise_append.mp ascending).2.2 row early last
          List.mem_cons_self
        exact_mod_cast less.le
      · rw [List.mem_singleton.mp same]

theorem write_nil (client : Client) : (client.write []).sequence =
    client.sequence := rfl

/-! ## What has been sent -/

/-- What holds of a client in every run. -/
structure Client.Sent (client : Client) : Prop where
  cursor : client.start ≤ client.sequence
  ascending : Ascending client.written
  range : ∀ row ∈ client.written,
    client.start < row.sequence ∧ row.sequence ≤ client.sequence
  page : Ascending client.page
  after : ∀ row ∈ client.page, client.sequence < row.sequence
  waiting : ∀ flush ∈ client.flushes.tail, flush.page = none

theorem sent_connect (lastEventId : Option Rat) :
    (Client.connect lastEventId).Sent := by
  refine ⟨le_rfl, List.Pairwise.nil, ?_, List.Pairwise.nil, ?_, ?_⟩
  · intro row none
    cases none
  · intro row none
    cases none
  · intro flush none
    cases none

/-- A flush that is queued is behind the page that is there. -/
theorem page_queueFlush (client : Client) (opening : Bool) :
    (client.queueFlush opening).page = client.page := by
  unfold Client.page Client.queueFlush
  rcases client.flushes with _ | ⟨⟨first, _ | page⟩, rest⟩ <;> rfl

theorem waiting_append {flushes : List Flush} (opening : Bool)
    (waiting : ∀ flush ∈ flushes.tail, flush.page = none) :
    ∀ flush ∈ (flushes ++ [Flush.mk opening none]).tail, flush.page = none := by
  intro flush member
  cases flushes with
  | nil => cases member
  | cons first rest =>
      rcases List.mem_append.mp member with old | new
      · exact waiting flush old
      · rw [List.mem_singleton.mp new]

theorem Client.Sent.queueFlush {client : Client} (sent : client.Sent)
    (opening : Bool) : (client.queueFlush opening).Sent := by
  refine ⟨sent.cursor, sent.ascending, sent.range, ?_, ?_, ?_⟩
  · rw [page_queueFlush]
    exact sent.page
  · rw [page_queueFlush]
    exact sent.after
  · exact waiting_append opening sent.waiting

/-- Without its first flush a client has no page. -/
theorem page_of_waiting {client : Client} {flush : Flush} {rest : List Flush}
    (shape : client.flushes = flush :: rest)
    (waiting : ∀ flush ∈ client.flushes.tail, flush.page = none)
    (other : Client) (same : other.flushes = rest) : other.page = [] := by
  rw [shape] at waiting
  unfold Client.page
  rw [same]
  rcases rest with _ | ⟨⟨opening, _ | page⟩, rest⟩
  · rfl
  · rfl
  · have none := waiting ⟨opening, some page⟩ List.mem_cons_self
    cases none

theorem waiting_of_cons {client : Client} {flush : Flush} {rest : List Flush}
    (shape : client.flushes = flush :: rest)
    (waiting : ∀ flush ∈ client.flushes.tail, flush.page = none) :
    ∀ flush ∈ rest.tail, flush.page = none := by
  rw [shape] at waiting
  intro other member
  exact waiting other (List.mem_of_mem_tail member)

theorem Client.Sent.write {client : Client} {page : List EventRow}
    (sent : client.Sent) (ascending : Ascending page)
    (after : ∀ row ∈ page, client.sequence < row.sequence) :
    client.start ≤ (client.write page).sequence ∧
      Ascending (client.write page).written ∧
      ∀ row ∈ (client.write page).written, client.start < row.sequence ∧
        row.sequence ≤ (client.write page).sequence := by
  have passed := passed_write ascending after
  refine ⟨sent.cursor.trans passed.grows, ?_, ?_⟩
  · apply List.pairwise_append.mpr
    refine ⟨sent.ascending, ascending, ?_⟩
    intro old written new inPage
    have early := (sent.range old written).2
    have late := after new inPage
    omega
  · intro row member
    rcases List.mem_append.mp member with old | new
    · exact ⟨(sent.range row old).1, (sent.range row old).2.trans passed.grows⟩
    · exact ⟨sent.cursor.trans_lt (after row new), passed.covers row new⟩

/-! ## Steps of a client -/

/-- The client is one of `eventClients` and its request is open. -/
def Client.Connected (client : Client) : Prop :=
  client.member = true ∧ client.closed = false

/-- What a step does to a client, when the table is this. -/
inductive Client.Moved (events : List EventRow) (client : Client) :
    Client → Prop where
  | flags {other : Client} (start : other.start = client.start)
      (sequence : other.sequence = client.sequence)
      (flushes : other.flushes = client.flushes)
      (settled : other.settled = client.settled)
      (written : other.written = client.written)
      (connected : other.Connected → client.Connected) :
      client.Moved events other
  | queued (opening : Bool) : client.Moved events (client.queueFlush opening)
  | answered {opening : Bool} {rest : List Flush}
      (shape : client.flushes = ⟨opening, none⟩ :: rest) :
      client.Moved events { client with
        flushes :=
          ⟨opening, some (listEventsAfter events client.sequence)⟩ :: rest }
  | resumed {opening : Bool} {page : List EventRow} {rest : List Flush}
      {other : Client} (shape : client.flushes = ⟨opening, some page⟩ :: rest)
      (start : other.start = client.start)
      (sequence : other.sequence = (client.write page).sequence)
      (flushes : other.flushes = rest)
      (settled : other.settled = client.settled + 1)
      (written : other.written = client.written ++ page)
      (connected : other.Connected → client.Connected) :
      client.Moved events other
  | rejected {opening : Bool} {rest : List Flush}
      (shape : client.flushes = ⟨opening, none⟩ :: rest) :
      client.Moved events { client with
        flushes := rest, settled := client.settled + 1 }

theorem Client.Moved.refl (events : List EventRow) (client : Client) :
    client.Moved events client :=
  .flags rfl rfl rfl rfl rfl id

theorem Client.moved_answer {events : List EventRow} {client changed : Client}
    (stepped : client.answer events = some changed) :
    client.Moved events changed := by
  unfold Client.answer at stepped
  split at stepped
  · next shape => exact Option.some.inj stepped ▸ .answered shape
  · cases stepped

theorem Client.moved_resume {events : List EventRow} {client changed : Client}
    (stepped : client.resume = some changed) : client.Moved events changed := by
  unfold Client.resume at stepped
  split at stepped
  · next opening page rest shape =>
      rw [← Option.some.inj stepped]
      cases opening with
      | true => exact .resumed shape rfl rfl rfl rfl rfl id
      | false => exact .resumed shape rfl rfl rfl rfl rfl id
  · cases stepped

theorem Client.moved_reject {events : List EventRow} {client changed : Client}
    (stepped : client.reject = some changed) : client.Moved events changed := by
  unfold Client.reject at stepped
  split at stepped
  · next shape => exact Option.some.inj stepped ▸ .rejected shape
  · cases stepped

theorem Client.moved_close {events : List EventRow} {client changed : Client}
    (stepped : client.close = some changed) : client.Moved events changed := by
  have apart : ∀ closed : Client, closed.closed = true → closed.Connected →
      client.Connected := by
    intro closed shut connected
    rw [connected.2] at shut
    cases shut
  unfold Client.close at stepped
  split at stepped
  · cases stepped
  · split at stepped
    · rw [← Option.some.inj stepped]
      exact .flags rfl rfl rfl rfl rfl (apart _ rfl)
    · rw [← Option.some.inj stepped]
      exact .flags rfl rfl rfl rfl rfl (apart _ rfl)

/-- A client after a step is a new one, or an old one that has moved. -/
theorem moved_of_step {server after : Server} {event : Event}
    (taken : server.step event = some after) {id : Nat} {client : Client}
    (place : after.clients[id]? = some client) :
    (server.clients[id]? = none ∧ ∃ lastEventId, client = .connect lastEventId) ∨
      ∃ old, server.clients[id]? = some old ∧
        old.Moved server.events client := by
  have same : after.clients = server.clients → ∃ old,
      server.clients[id]? = some old ∧ old.Moved server.events client := by
    intro same
    rw [same] at place
    exact ⟨client, place, .refl _ _⟩
  have changes : ∀ other (step : Client → Option Client),
      server.change other step = some after →
      (∀ before changed, step before = some changed →
        before.Moved server.events changed) →
      ∃ old, server.clients[id]? = some old ∧
        old.Moved server.events client := by
    intro other step changed moves
    obtain ⟨before, now, found, stepped, rfl⟩ := Server.change_cases changed
    by_cases here : other = id
    · subst here
      obtain ⟨short, _⟩ := List.getElem?_eq_some_iff.mp found
      rw [List.getElem?_set_self short] at place
      exact ⟨before, found, Option.some.inj place ▸ moves _ _ stepped⟩
    · rw [List.getElem?_set_ne here] at place
      exact ⟨client, place, .refl _ _⟩
  cases event with
  | insert transaction type subjectId payload createdAt =>
      exact Or.inr (same (Option.some.inj taken ▸ rfl))
  | commit transaction => exact Or.inr (same (Option.some.inj taken ▸ rfl))
  | rollback transaction => exact Or.inr (same (Option.some.inj taken ▸ rfl))
  | connect lastEventId =>
      rw [← Option.some.inj taken] at place
      rw [List.getElem?_append] at place
      split at place
      · exact Or.inr ⟨client, place, .refl _ _⟩
      · next long =>
          have last := List.mem_of_getElem? place
          exact Or.inl ⟨List.getElem?_eq_none (not_lt.mp long), lastEventId,
            List.mem_singleton.mp last⟩
  | broadcast =>
      rw [← Option.some.inj taken, List.getElem?_map] at place
      obtain ⟨old, found, rfl⟩ := Option.map_eq_some_iff.mp place
      refine Or.inr ⟨old, found, ?_⟩
      split
      · exact .queued false
      · exact .refl _ _
  | answer other =>
      exact Or.inr (changes other _ taken fun _ _ => Client.moved_answer)
  | resume other =>
      exact Or.inr (changes other _ taken fun _ _ => Client.moved_resume)
  | reject other =>
      exact Or.inr (changes other _ taken fun _ _ => Client.moved_reject)
  | close other =>
      exact Or.inr (changes other _ taken fun _ _ => Client.moved_close)
  | closeEventStreams =>
      rw [← Option.some.inj taken, List.getElem?_map] at place
      obtain ⟨old, found, rfl⟩ := Option.map_eq_some_iff.mp place
      refine Or.inr ⟨old, found, .flags rfl rfl rfl rfl rfl ?_⟩
      intro connected
      cases connected.1

/-- No client is forgotten. -/
theorem length_clients {server after : Server} {event : Event}
    (taken : server.step event = some after) :
    server.clients.length ≤ after.clients.length := by
  have changes : ∀ id (step : Client → Option Client),
      server.change id step = some after →
        server.clients.length ≤ after.clients.length := by
    intro id step changed
    obtain ⟨_, _, _, _, rfl⟩ := Server.change_cases changed
    exact List.length_set.ge
  cases event with
  | insert transaction type subjectId payload createdAt =>
      exact Option.some.inj taken ▸ le_rfl
  | commit transaction => exact Option.some.inj taken ▸ le_rfl
  | rollback transaction => exact Option.some.inj taken ▸ le_rfl
  | connect lastEventId =>
      rw [← Option.some.inj taken, List.length_append]
      exact Nat.le_add_right _ _
  | broadcast =>
      rw [← Option.some.inj taken, List.length_map]
  | answer id => exact changes id _ taken
  | resume id => exact changes id _ taken
  | reject id => exact changes id _ taken
  | close id => exact changes id _ taken
  | closeEventStreams =>
      rw [← Option.some.inj taken, List.length_map]

theorem moves_of_step {server after : Server} {event : Event}
    (taken : server.step event = some after) {id : Nat} {old : Client}
    (found : server.clients[id]? = some old) :
    ∃ client, after.clients[id]? = some client ∧
      old.Moved server.events client := by
  obtain ⟨short, _⟩ := List.getElem?_eq_some_iff.mp found
  have place := List.getElem?_eq_getElem
    (short.trans_le (length_clients taken))
  refine ⟨_, place, ?_⟩
  rcases moved_of_step taken place with ⟨none, _⟩ | ⟨same, first, moved⟩
  · rw [found] at none
    cases none
  · rw [found] at first
    cases first
    exact moved

theorem page_cons {client : Client} {opening : Bool}
    {page : Option (List EventRow)} {rest : List Flush}
    (shape : client.flushes = ⟨opening, page⟩ :: rest) :
    client.page = page.getD [] := by
  unfold Client.page
  rw [shape]
  cases page <;> rfl

theorem page_congr {client other : Client}
    (same : other.flushes = client.flushes) : other.page = client.page := by
  unfold Client.page
  rw [same]

theorem Client.Moved.sent {events : List EventRow} {client other : Client}
    (moved : client.Moved events other) (ascending : Ascending events)
    (sent : client.Sent) : other.Sent := by
  cases moved with
  | flags start sequence flushes settled written connected =>
      refine ⟨?_, ?_, ?_, ?_, ?_, ?_⟩
      · rw [start, sequence]
        exact sent.cursor
      · rw [written]
        exact sent.ascending
      · rw [written, start, sequence]
        exact sent.range
      · rw [page_congr flushes]
        exact sent.page
      · rw [page_congr flushes, sequence]
        exact sent.after
      · rw [flushes]
        exact sent.waiting
  | queued opening => exact sent.queueFlush opening
  | answered shape =>
      refine ⟨sent.cursor, sent.ascending, sent.range, ?_, ?_, ?_⟩
      · rw [page_cons rfl]
        exact ascending_listEventsAfter ascending _
      · rw [page_cons rfl]
        intro row member
        exact (mem_listEventsAfter member).2
      · have waiting := sent.waiting
        rw [shape] at waiting
        exact waiting
  | @resumed opening page rest _ shape start sequence flushes settled written =>
      have current : client.page = page := page_cons shape
      have ordered := sent.page
      have after := sent.after
      rw [current] at ordered after
      obtain ⟨cursor, increasing, range⟩ := sent.write ordered after
      have none := page_of_waiting shape sent.waiting other flushes
      refine ⟨?_, ?_, ?_, ?_, ?_, ?_⟩
      · rw [start, sequence]
        exact cursor
      · rw [written]
        exact increasing
      · rw [written, start, sequence]
        exact range
      · rw [none]
        exact List.Pairwise.nil
      · rw [none]
        exact List.forall_mem_nil _
      · rw [flushes]
        exact waiting_of_cons shape sent.waiting
  | rejected shape =>
      have none := page_of_waiting shape sent.waiting
        { client with flushes := _, settled := client.settled + 1 } rfl
      refine ⟨sent.cursor, sent.ascending, sent.range, ?_, ?_, ?_⟩
      · rw [none]
        exact List.Pairwise.nil
      · rw [none]
        exact List.forall_mem_nil _
      · exact waiting_of_cons shape sent.waiting

/-- In every run sequences are drawn once, and what a client has been sent is
in the order of the sequences. -/
theorem sent_of_reaches {history : List Event} {server : Server}
    (run : Server.machine.Reaches history server) :
    Drawn server ∧ ∀ client ∈ server.clients, client.Sent := by
  apply run.invariant fun _ server =>
    Drawn server ∧ ∀ client ∈ server.clients, client.Sent
  · exact ⟨drawn_initial, List.forall_mem_nil _⟩
  · intro _ before event after _ ⟨drawn, sent⟩ _ taken
    refine ⟨drawn.step taken, ?_⟩
    intro client member
    obtain ⟨id, place⟩ := List.mem_iff_getElem?.mp member
    rcases moved_of_step taken place with ⟨_, lastEventId, rfl⟩ |
      ⟨old, found, moved⟩
    · exact sent_connect lastEventId
    · exact moved.sent drawn.ascending (sent old (List.mem_of_getElem? found))

/-! ## Where it comes from -/

/-- The row has been committed, and was there at some time. -/
def Published (history : List Event) (row : EventRow) : Prop :=
  ∃ earlier later server, history = earlier ++ later ∧
    Server.machine.Reaches earlier server ∧ row ∈ server.events

theorem Published.snoc {history : List Event} {row : EventRow}
    (published : Published history row) (event : Event) :
    Published (history ++ [event]) row := by
  obtain ⟨earlier, later, server, split, run, seen⟩ := published
  refine ⟨earlier, later ++ [event], server, ?_, run, seen⟩
  rw [split, List.append_assoc]

/-- A client has been sent, and is sent next, what has been published. -/
def Client.Informed (history : List Event) (client : Client) : Prop :=
  ∀ row, row ∈ client.written ∨ row ∈ client.page → Published history row

theorem Client.Moved.informed {history : List Event} {event : Event}
    {events : List EventRow} {client other : Client}
    (moved : client.Moved events other) (sent : client.Sent)
    (informed : client.Informed history)
    (published : ∀ row ∈ events, Published history row) :
    other.Informed (history ++ [event]) := by
  cases moved with
  | flags start sequence flushes settled written connected =>
      intro row known
      rw [written, page_congr flushes] at known
      exact (informed row known).snoc event
  | queued opening =>
      intro row known
      rw [page_queueFlush] at known
      exact (informed row known).snoc event
  | answered shape =>
      intro row known
      rcases known with written | inPage
      · exact (informed row (Or.inl written)).snoc event
      · rw [page_cons rfl] at inPage
        exact (published row (mem_listEventsAfter inPage).1).snoc event
  | @resumed opening page rest _ shape start sequence flushes settled written =>
      intro row known
      have none := page_of_waiting shape sent.waiting other flushes
      have current : client.page = page := page_cons shape
      rw [written, none, List.mem_append] at known
      rcases known with (old | new) | inPage
      · exact (informed row (Or.inl old)).snoc event
      · exact (informed row (Or.inr (current ▸ new))).snoc event
      · cases inPage
  | rejected shape =>
      intro row known
      rw [page_of_waiting shape sent.waiting
        { client with flushes := _, settled := client.settled + 1 } rfl]
        at known
      rcases known with written | inPage
      · exact (informed row (Or.inl written)).snoc event
      · cases inPage

theorem informed_of_reaches {history : List Event} {server : Server}
    (run : Server.machine.Reaches history server) :
    ∀ client ∈ server.clients, client.Informed history := by
  refine run.invariant (fun history server =>
    ∀ client ∈ server.clients, client.Informed history)
    (List.forall_mem_nil _) ?_
  intro history before event after reached informed _ taken client member
  obtain ⟨id, place⟩ := List.mem_iff_getElem?.mp member
  rcases moved_of_step taken place with ⟨_, lastEventId, rfl⟩ |
    ⟨old, found, moved⟩
  · rintro row (none | none)
    · cases none
    · cases none
  · have inClients := List.mem_of_getElem? found
    refine moved.informed ((sent_of_reaches reached).2 old inClients)
      (informed old inClients) fun row seen => ?_
    exact ⟨history, [], before, (List.append_nil history).symm, reached, seen⟩

/-- Whatever the transactions, the flushes and the other clients do, a client is
sent published events only, in the order of their sequences, none twice, and
all of them after the cursor it has asked for. -/
theorem stream_order {history : List Event} {server : Server}
    (run : Server.machine.Reaches history server) :
    ∀ client ∈ server.clients,
      (client.written.map EventRow.sequence).Pairwise (· < ·) ∧
      ∀ row ∈ client.written, client.start < row.sequence ∧
        row.sequence ≤ client.sequence ∧ Published history row := by
  intro client member
  have sent := (sent_of_reaches run).2 client member
  have informed := informed_of_reaches run client member
  refine ⟨List.pairwise_map.mpr sent.ascending, ?_⟩
  intro row written
  exact ⟨(sent.range row written).1, (sent.range row written).2,
    informed row (Or.inl written)⟩

/-- Two transactions commit in the other order than they have inserted. -/
def swappedCommits : List Event :=
  [.insert 0 "job.queued" none .null 0, .insert 1 "job.started" none .null 0,
    .commit 1, .commit 0, .connect none, .answer 0, .resume 0]

theorem stream_order_sample : ∃ server,
    Server.machine.Reaches swappedCommits server ∧
      (server.clients.map fun client =>
        client.written.map EventRow.sequence) = [[1, 2]] ∧
      ∀ client ∈ server.clients,
        (client.written.map EventRow.sequence).Pairwise (· < ·) := by
  have played := Server.machine.play_get swappedCommits (by decide)
  have run := Machine.reaches_of_play played
  exact ⟨_, run, by decide, fun client member =>
    (stream_order run client member).1⟩

end EventStream

end GpuLink
