import GpuLink.ControlPlane.EventDelivery

/-!
# Events that a cursor passes

Sequences are drawn before their transactions commit, so a row can be seen after
later ones have been.  A client misses it when its cursor has passed it by then.
-/

namespace GpuLink

namespace EventStream

/-- The condition on a commit: what it brings comes after the cursor and the
page of every connected client, or before what the client asked for. -/
def Timely (server : Server) : Event → Prop
  | .commit transaction => ∀ client ∈ server.clients, client.Connected →
      ∀ row ∈ (server.transactions transaction).rows,
        row.sequence ≤ client.start ∨
          (client.sequence < row.sequence ∧
            ∀ sent ∈ client.page, sent.sequence < row.sequence)
  | _ => True

instance (client : Client) : Decidable client.Connected :=
  inferInstanceAs (Decidable (_ ∧ _))

instance (server : Server) : ∀ event, Decidable (Timely server event)
  | .commit transaction => inferInstanceAs (Decidable
      (∀ client ∈ server.clients, client.Connected →
        ∀ row ∈ (server.transactions transaction).rows,
          row.sequence ≤ client.start ∨
            (client.sequence < row.sequence ∧
              ∀ sent ∈ client.page, sent.sequence < row.sequence)))
  | .insert .. | .rollback _ | .connect _ | .broadcast | .answer _ | .resume _
  | .reject _ | .close _ | .closeEventStreams => isTrue trivial

/-- The row comes after the cursor, and no page leaves it out. -/
def Client.Ahead (client : Client) (row : EventRow) : Prop :=
  client.sequence < row.sequence ∧
    (row ∈ client.page ∨ ∀ sent ∈ client.page, sent.sequence < row.sequence)

def Client.Covers (client : Client) (row : EventRow) : Prop :=
  row ∈ client.written ∨ client.Ahead row

theorem Client.Moved.connected {events : List EventRow}
    {client other : Client} (moved : client.Moved events other)
    (connected : other.Connected) : client.Connected := by
  cases moved with
  | flags _ _ _ _ _ earlier => exact earlier connected
  | queued opening => exact connected
  | answered shape => exact connected
  | resumed _ _ _ _ _ _ earlier => exact earlier connected
  | rejected shape => exact connected

/-- A row that is seen and covered stays so. -/
theorem Client.Moved.covers {events : List EventRow} {client other : Client}
    (moved : client.Moved events other) (ascending : Ascending events)
    (sent : client.Sent) {row : EventRow} (seen : row ∈ events)
    (covers : client.Covers row) : other.Covers row := by
  rcases covers with written | ⟨after, place⟩
  · left
    cases moved with
    | flags _ _ _ _ same _ => exact same ▸ written
    | queued opening => exact written
    | answered shape => exact written
    | resumed _ _ _ _ _ more _ =>
        rw [more]
        exact List.mem_append_left _ written
    | rejected shape => exact written
  cases moved with
  | flags start sequence flushes settled written connected =>
      right
      rw [Client.Ahead, sequence, page_congr flushes]
      exact ⟨after, place⟩
  | queued opening =>
      right
      rw [Client.Ahead, page_queueFlush]
      exact ⟨after, place⟩
  | answered shape =>
      right
      refine ⟨after, ?_⟩
      rw [page_cons rfl]
      by_cases inPage : row ∈ listEventsAfter events client.sequence
      · exact Or.inl inPage
      · exact Or.inr (listEventsAfter_rest ascending seen after inPage).2
  | @resumed opening page rest _ shape start sequence flushes settled written =>
      have current : client.page = page := page_cons shape
      have ordered := sent.page
      have later := sent.after
      rw [current] at place ordered later
      rcases place with inPage | behind
      · left
        rw [written]
        exact List.mem_append_right _ inPage
      · right
        have none := page_of_waiting shape sent.waiting other flushes
        refine ⟨?_, Or.inr ?_⟩
        · rw [sequence]
          by_cases empty : page = []
          · rw [empty]
            exact after
          · obtain ⟨last, inPage, cursor⟩ :=
              (passed_write ordered later).last empty
            rw [← cursor]
            exact_mod_cast behind last inPage
        · rw [none]
          exact List.forall_mem_nil _
  | rejected shape =>
      right
      have none := page_of_waiting shape sent.waiting
        { client with flushes := _, settled := client.settled + 1 } rfl
      refine ⟨after, Or.inr ?_⟩
      rw [none]
      exact List.forall_mem_nil _

theorem Client.Moved.start {events : List EventRow} {client other : Client}
    (moved : client.Moved events other) : other.start = client.start := by
  cases moved with
  | flags start _ _ _ _ _ => exact start
  | queued opening => rfl
  | answered shape => rfl
  | resumed _ start _ _ _ _ _ => exact start
  | rejected shape => rfl

/-- What is seen has been written to the connected clients that asked for it,
or comes after their cursors. -/
def Gapless (server : Server) : Prop :=
  ∀ client ∈ server.clients, client.Connected →
    ∀ row ∈ server.events, client.start < row.sequence → client.Covers row

/-- Only a commit changes the table. -/
theorem events_of_step {server after : Server} {event : Event}
    (taken : server.step event = some after) :
    after.events = server.events ∨
      ∃ transaction, event = .commit transaction ∧
        after = server.commit transaction := by
  have changes : ∀ id (step : Client → Option Client),
      server.change id step = some after → after.events = server.events := by
    intro id step changed
    obtain ⟨_, _, _, _, rfl⟩ := Server.change_cases changed
    rfl
  cases event with
  | insert transaction type subjectId payload createdAt =>
      exact Or.inl (Option.some.inj taken ▸ rfl)
  | commit transaction =>
      exact Or.inr ⟨transaction, rfl, (Option.some.inj taken).symm⟩
  | rollback transaction => exact Or.inl (Option.some.inj taken ▸ rfl)
  | connect lastEventId => exact Or.inl (Option.some.inj taken ▸ rfl)
  | broadcast => exact Or.inl (Option.some.inj taken ▸ rfl)
  | answer id => exact Or.inl (changes id _ taken)
  | resume id => exact Or.inl (changes id _ taken)
  | reject id => exact Or.inl (changes id _ taken)
  | close id => exact Or.inl (changes id _ taken)
  | closeEventStreams => exact Or.inl (Option.some.inj taken ▸ rfl)

/-- What is seen after a step was seen before, or a commit brings it. -/
theorem seen_of_step {server after : Server} {event : Event}
    (taken : server.step event = some after) {row : EventRow}
    (seen : row ∈ after.events) :
    row ∈ server.events ∨ ∃ transaction, event = .commit transaction ∧
      row ∈ (server.transactions transaction).rows ∧
      after.clients = server.clients := by
  rcases events_of_step taken with same | ⟨transaction, rfl, rfl⟩
  · exact Or.inl (same ▸ seen)
  · rcases mem_insertInOrder.mp seen with old | new
    · exact Or.inl (List.mem_filter.mp old).1
    · exact Or.inr ⟨transaction, rfl, new, rfl⟩

theorem Gapless.step {server after : Server} {event : Event}
    (gapless : Gapless server) (drawn : Drawn server)
    (sent : ∀ client ∈ server.clients, client.Sent)
    (timely : Timely server event) (taken : server.step event = some after) :
    Gapless after := by
  intro client member connected row seen asked
  obtain ⟨id, place⟩ := List.mem_iff_getElem?.mp member
  rcases seen_of_step taken seen with old | ⟨transaction, rfl, new, same⟩
  · rcases moved_of_step taken place with ⟨_, lastEventId, rfl⟩ |
      ⟨before, found, moved⟩
    · exact Or.inr ⟨asked, Or.inr (List.forall_mem_nil _)⟩
    · have present := List.mem_of_getElem? found
      apply moved.covers drawn.ascending (sent before present) old
      rw [moved.start] at asked
      exact gapless before present (moved.connected connected) row old asked
  · rw [same] at member
    rcases timely client member connected row new with early | ⟨later, behind⟩
    · exact absurd early (not_le.mpr asked)
    · exact Or.inr ⟨later, Or.inr behind⟩

theorem gapless_of_runs {history : List Event} {server : Server}
    (run : Server.machine.Runs Timely history server) : Gapless server := by
  apply run.invariant fun _ server => Gapless server
  · exact List.forall_mem_nil _
  · intro _ _ _ _ earlier gapless timely taken
    obtain ⟨drawn, sent⟩ := sent_of_reaches earlier.reaches
    exact gapless.step drawn sent timely taken

/-! ## Later flushes -/

/-- A flush of this client has come to its end. -/
def Event.flushes (id : Nat) : Event → Bool
  | .resume other => other == id
  | _ => false

/-- No page in progress is empty. -/
def Client.Loaded (client : Client) : Prop :=
  ∀ flush ∈ client.flushes, flush.page ≠ some []

/-- The row has been written, or each flush since the cursor was at the base
has moved the cursor on, except one that had been answered before. -/
def Client.Nearing (client : Client) (base : Int) (row : EventRow)
    (count : Nat) : Prop :=
  row ∈ client.written ∨
    base ≤ client.sequence ∧
      (count = 0 ∨ base + count ≤ client.sequence + 1 ∧ client.Loaded)

theorem Client.Moved.written {events : List EventRow} {client other : Client}
    (moved : client.Moved events other) {row : EventRow}
    (written : row ∈ client.written) : row ∈ other.written := by
  cases moved with
  | flags _ _ _ _ same _ => exact same ▸ written
  | queued opening => exact written
  | answered shape => exact written
  | resumed _ _ _ _ _ more _ =>
      rw [more]
      exact List.mem_append_left _ written
  | rejected shape => exact written

theorem Client.Moved.sequence {events : List EventRow} {client other : Client}
    (moved : client.Moved events other) (sent : client.Sent) :
    client.sequence ≤ other.sequence := by
  cases moved with
  | flags _ same _ _ _ _ => exact same.ge
  | queued opening => exact le_rfl
  | answered shape => exact le_rfl
  | @resumed opening page _ _ shape start sequence _ _ _ _ =>
      have current : client.page = page := page_cons shape
      have ordered := sent.page
      have later := sent.after
      rw [current] at ordered later
      rw [sequence]
      exact (passed_write ordered later).grows
  | rejected shape => exact le_rfl

/-- Nothing is in progress behind the first flush. -/
theorem loaded_of_rest {client other : Client} {first : Flush}
    {rest : List Flush} (sent : client.Sent)
    (shape : client.flushes = first :: rest) (same : other.flushes = rest) :
    other.Loaded := by
  intro flush member
  rw [same] at member
  have waiting := sent.waiting
  rw [shape] at waiting
  rw [waiting flush member]
  exact (Option.some_ne_none []).symm

/-- A page that is answered while a row is ahead is not empty. -/
theorem listEventsAfter_ne_nil {events : List EventRow} {sequence : Int}
    {row : EventRow} (seen : row ∈ events) (after : sequence < row.sequence) :
    listEventsAfter events sequence ≠ [] := by
  have behind : row ∈ events.filter fun row => sequence < row.sequence :=
    List.mem_filter.mpr ⟨seen, decide_eq_true after⟩
  intro empty
  rcases List.take_eq_nil_iff.mp empty with zero | none
  · cases zero
  · rw [none] at behind
    cases behind

theorem Client.Moved.loaded {events : List EventRow} {client other : Client}
    (moved : client.Moved events other) (sent : client.Sent)
    {row : EventRow} (seen : row ∈ events)
    (after : client.sequence < row.sequence) (loaded : client.Loaded) :
    other.Loaded := by
  cases moved with
  | flags _ _ same _ _ _ =>
      intro flush member
      exact loaded flush (same ▸ member)
  | queued opening =>
      intro flush member
      rcases List.mem_append.mp member with old | new
      · exact loaded flush old
      · rw [List.mem_singleton.mp new]
        exact (Option.some_ne_none []).symm
  | answered shape =>
      intro flush member
      rcases List.mem_cons.mp member with rfl | rest
      · intro empty
        exact listEventsAfter_ne_nil seen after (Option.some.inj empty)
      · apply loaded flush
        rw [shape]
        exact List.mem_cons_of_mem _ rest
  | resumed shape _ _ flushes _ _ _ => exact loaded_of_rest sent shape flushes
  | rejected shape => exact loaded_of_rest sent shape rfl

theorem Client.Moved.nearing {events : List EventRow} {client other : Client}
    (moved : client.Moved events other) (sent : client.Sent)
    {row : EventRow} (seen : row ∈ events) (covers : client.Covers row)
    {base : Int} {count : Nat} (nearing : client.Nearing base row count) :
    other.Nearing base row count := by
  rcases covers with written | ⟨after, _⟩
  · exact Or.inl (moved.written written)
  rcases nearing with written | ⟨begun, progress⟩
  · exact Or.inl (moved.written written)
  · have grows := moved.sequence sent
    refine Or.inr ⟨begun.trans grows, progress.imp_right ?_⟩
    intro ⟨moves, loaded⟩
    exact ⟨by omega, moved.loaded sent seen after loaded⟩

/-- The end of a flush takes the cursor on. -/
theorem Client.Nearing.resume {client other : Client} (sent : client.Sent)
    {row : EventRow} {base : Int} {count : Nat}
    (nearing : client.Nearing base row count)
    (stepped : client.resume = some other) :
    other.Nearing base row (count + 1) := by
  have moved : client.Moved [] other := Client.moved_resume stepped
  rcases nearing with written | ⟨begun, progress⟩
  · exact Or.inl (moved.written written)
  have grows := moved.sequence sent
  right
  refine ⟨begun.trans grows, Or.inr ?_⟩
  unfold Client.resume at stepped
  split at stepped
  · next opening page rest shape =>
      have sequence : other.sequence = (client.write page).sequence ∧
          other.flushes = rest := by
        rw [← Option.some.inj stepped]
        cases opening <;> exact ⟨rfl, rfl⟩
      refine ⟨?_, loaded_of_rest sent shape sequence.2⟩
      rcases progress with rfl | ⟨moves, loaded⟩
      · push_cast
        omega
      · have full : page ≠ [] := by
          intro empty
          apply loaded ⟨opening, some page⟩
          · rw [shape]
            exact List.mem_cons_self
          · rw [empty]
        have current : client.page = page := page_cons shape
        have ordered := sent.page
        have later := sent.after
        rw [current] at ordered later
        obtain ⟨last, inPage, cursor⟩ := (passed_write ordered later).last full
        have beyond := later last inPage
        rw [sequence.1, ← cursor]
        push_cast
        omega
  · cases stepped

/-- The row is in the table and the client connected. -/
def Awaited (id : Nat) (row : EventRow) (server : Server) : Prop :=
  row ∈ server.events ∧
    ∀ client, server.clients[id]? = some client → client.Connected

/-- The condition on commits, while the row is awaited. -/
def Awaiting (id : Nat) (row : EventRow) (server : Server) (event : Event) :
    Prop :=
  Timely server event ∧ Awaited id row server

theorem nearing_of_playFrom {history later : List Event}
    {server after : Server} {id : Nat} {row : EventRow} {base : Int}
    {count : Nat} {client : Client}
    (run : Server.machine.Runs Timely history server)
    (place : server.clients[id]? = some client)
    (asked : client.start < row.sequence)
    (nearing : client.Nearing base row count)
    (meets : Server.machine.Meets (Awaiting id row) server later)
    (played : Server.machine.playFrom server later = some after) :
    ∃ sent, after.clients[id]? = some sent ∧ sent.start = client.start ∧
      sent.Nearing base row (count + later.countP (Event.flushes id)) := by
  induction later generalizing history server count client with
  | nil =>
      cases played
      exact ⟨client, place, rfl, nearing⟩
  | cons event rest induction =>
      obtain ⟨between, taken, played⟩ := Option.bind_eq_some_iff.mp played
      obtain ⟨⟨timely, seen, connected⟩, later⟩ := meets
      obtain ⟨drawn, sent⟩ := sent_of_reaches run.reaches
      have present := List.mem_of_getElem? place
      have covers := gapless_of_runs run client present
        (connected client place) row seen asked
      obtain ⟨next, found, moved⟩ := moves_of_step taken place
      have stepped : next.Nearing base row
          (count + [event].countP (Event.flushes id)) := by
        by_cases flushes : event.flushes id = true
        · have same : event = .resume id := by
            cases event with
            | resume other => rw [LawfulBEq.eq_of_beq flushes]
            | _ => cases flushes
          subst same
          obtain ⟨before, changed, first, ends, rfl⟩ :=
            Server.change_cases taken
          rw [place] at first
          cases first
          obtain ⟨short, _⟩ := List.getElem?_eq_some_iff.mp place
          rw [List.getElem?_set_self short] at found
          cases found
          rw [List.countP_singleton, if_pos flushes]
          exact nearing.resume (sent client present) ends
        · rw [List.countP_singleton, if_neg flushes]
          exact moved.nearing (sent client present) seen covers nearing
      obtain ⟨last, lastFound, start, near⟩ := induction
        (.next run timely taken) found (moved.start ▸ asked) stepped
        (later between taken) played
      refine ⟨last, lastFound, start.trans moved.start, ?_⟩
      rw [List.countP_cons, add_comm (List.countP _ rest), ← add_assoc]
      rw [List.countP_singleton] at near
      exact near

/-- When what a commit brings comes after the cursors, a connected client is
sent what it asked for in the order of the sequences, and its cursor passes
nothing; a row that stays is sent before more flushes have ended than there are
sequences from the cursor to the row. -/
theorem event_stream {history : List Event} {server : Server}
    (run : Server.machine.Runs Timely history server) {id : Nat}
    {client : Client} (place : server.clients[id]? = some client)
    (connected : client.Connected) :
    Ascending client.written ∧
      ∀ row ∈ server.events, client.start < row.sequence →
        (row ∈ client.written ∨ client.sequence < row.sequence) ∧
          ∀ later after,
            Server.machine.Meets (Awaiting id row) server later →
            Server.machine.playFrom server later = some after →
            Awaited id row after →
              ∃ sent, after.clients[id]? = some sent ∧
                (row ∈ sent.written ∨
                  (later.countP (Event.flushes id) : Int) ≤
                    row.sequence - client.sequence) := by
  have present := List.mem_of_getElem? place
  have sent := (sent_of_reaches run.reaches).2 client present
  refine ⟨sent.ascending, ?_⟩
  intro row seen asked
  have covers := gapless_of_runs run client present connected row seen asked
  refine ⟨covers.imp_right And.left, ?_⟩
  intro later after meets played awaited
  have begun : client.Nearing client.sequence row 0 :=
    Or.inr ⟨le_rfl, Or.inl rfl⟩
  obtain ⟨last, found, start, nearing⟩ :=
    nearing_of_playFrom run place asked begun meets played
  have whole := Machine.runs_of_playFrom run
    (meets.mono fun _ _ both => both.1) played
  have still := gapless_of_runs whole last (List.mem_of_getElem? found)
    (awaited.2 last found) row awaited.1 (start ▸ asked)
  refine ⟨last, found, ?_⟩
  rcases still with written | ⟨behind, _⟩
  · exact Or.inl written
  rcases nearing with written | ⟨grown, none | ⟨moves, _⟩⟩
  · exact Or.inl written
  · right
    omega
  · right
    omega

/-- Two transactions overlap, and commit in the order of their sequences. -/
def sampleOverlap : List Event :=
  [.connect none, .insert 0 "job.queued" none .null 0,
    .insert 1 "job.leased" none .null 0, .commit 0, .commit 1, .broadcast]

def sampleFlushes : List Event :=
  [.answer 0, .resume 0, .answer 0, .resume 0]

theorem event_stream_sample : ∃ server after client row,
    Server.machine.Runs Timely sampleOverlap server ∧
      Server.machine.playFrom server sampleFlushes = some after ∧
      after.clients[0]? = some client ∧ row ∈ server.events ∧
      row.sequence = 1 ∧ row ∈ client.written := by
  have played := Server.machine.play_get sampleOverlap (by decide)
  have run := Machine.runs_of_play
    (by decide : Server.machine.Meets Timely Server.initial sampleOverlap)
    played
  have awaited : ∀ {row : EventRow} {rest : List EventRow} {client : Client}
      {server : Server}, server.events = row :: rest →
        server.clients = [client] → client.Connected →
          Awaited 0 row server := by
    intro row rest client server events only connected
    refine ⟨events ▸ List.mem_cons_self, ?_⟩
    intro other found
    rw [only] at found
    cases found
    exact connected
  obtain ⟨after, flushed⟩ : ∃ after, Server.machine.playFrom
      ((Server.machine.play sampleOverlap).get (by decide)) sampleFlushes =
        some after := ⟨_, rfl⟩
  have sent := @event_stream _ _ run 0 _ rfl ⟨rfl, rfl⟩
  have passed := (sent.2 _ List.mem_cons_self (by decide)).2 sampleFlushes _
    ?_ flushed ?_
  · obtain ⟨client, found, written⟩ := passed
    refine ⟨_, after, client, _, run, flushed, found, List.mem_cons_self, rfl,
      ?_⟩
    exact written.resolve_right (by decide)
  · refine ⟨⟨trivial, awaited rfl rfl ⟨rfl, rfl⟩⟩, fun _ first =>
      ⟨⟨trivial, ?_⟩, fun _ second => ⟨⟨trivial, ?_⟩, fun _ third =>
        ⟨⟨trivial, ?_⟩, fun _ _ => trivial⟩⟩⟩⟩
    · cases first
      exact awaited rfl rfl ⟨rfl, rfl⟩
    · cases first
      cases second
      exact awaited rfl rfl ⟨rfl, rfl⟩
    · cases first
      cases second
      cases third
      exact awaited rfl rfl ⟨rfl, rfl⟩
  · cases flushed
    exact awaited rfl rfl ⟨rfl, rfl⟩

/-- The transaction that drew first commits last. -/
def lateCommit : List Event :=
  [.connect none, .insert 0 "job.queued" none .null 0,
    .insert 1 "job.leased" none .null 0, .commit 1, .answer 0, .resume 0,
    .commit 0]

theorem late_commit_passed : ¬ ∀ history server,
    Server.machine.Reaches history server →
      ∀ client ∈ server.clients, client.Connected →
        Ascending client.written ∧
          ∀ row ∈ server.events, client.start < row.sequence →
            row ∈ client.written ∨ client.sequence < row.sequence := by
  intro all
  have played := Server.machine.play_get lateCommit (by decide)
  rcases (all _ _ (Machine.reaches_of_play played) _ List.mem_cons_self
    ⟨rfl, rfl⟩).2 _ List.mem_cons_self (by decide) with written | behind
  · have sequence : ∀ row ∈ [(⟨2, "job.leased", none, .null, 0⟩ : EventRow)],
        row.sequence = 2 := by
      intro row only
      rw [List.mem_singleton.mp only]
    have second := sequence _ written
    cases second
  · exact absurd behind (by decide)

end EventStream

end GpuLink
