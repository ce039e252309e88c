import GpuLink.ControlPlane.EventGaps
import Mathlib.Order.Bounds.Basic

/-!
# What one flush sends

While a flush waits and runs the table may stay as it is.  It sends the page
after the cursor at its own query, so the backlog is gone only if it was no
longer than a page.
-/

namespace GpuLink

namespace EventStream

/-- The event does not change the table. -/
def Event.quiet : Event → Bool
  | .commit _ => false
  | _ => true

/-- A run during which the table stays as it is. -/
def Server.Quietly (server after : Server) : Prop :=
  ∃ events : List Event, (∀ event ∈ events, event.quiet = true) ∧
    Server.machine.playFrom server events = some after

/-- The last flush that is queued for a client, from the call to the end, with
nothing appended in between: its query is answered after `reading`. -/
structure Server.Flushing (id : Nat) (called reading after : Server)
    (client reader done : Client) : Prop where
  place : called.clients[id]? = some client
  queued : ∃ ahead opening, client.flushes = ahead ++ [⟨opening, none⟩] ∧
    reader.settled = client.settled + ahead.length
  begins : called.Quietly reading
  reads : reading.clients[id]? = some reader
  answers : ∃ answered resuming resumer,
    reading.step (.answer id) = some answered ∧ answered.Quietly resuming ∧
      resuming.clients[id]? = some resumer ∧
      resumer.settled = reader.settled ∧
      resuming.step (.resume id) = some after
  ends : after.clients[id]? = some done

/-- Since then a client has been sent what came after its cursor, and its cursor
is at the end of the table. -/
structure Client.Drained (events : List EventRow) (client done : Client) :
    Prop where
  sent : ∃ rows, done.written = client.written ++ rows ∧ Ascending rows ∧
    ∀ row ∈ events, client.sequence < row.sequence → row ∈ rows
  cursor : events ≠ [] → IsGreatest
    {sequence : Int | ∃ row ∈ events, (row.sequence : Int) = sequence}
    done.sequence

/-! ## Quiet runs -/

theorem quiet_step {server after : Server} {event : Event}
    (quiet : event.quiet = true) (taken : server.step event = some after) :
    after.events = server.events := by
  rcases events_of_step taken with same | ⟨transaction, rfl, _⟩
  · exact same
  · cases quiet

/-- What every move of a client keeps, a quiet run keeps. -/
theorem Server.Quietly.keeps {history : List Event} {server after : Server}
    (run : Server.machine.Reaches history server)
    (quietly : server.Quietly after) {id : Nat} {client : Client}
    (place : server.clients[id]? = some client) {P : Client → Prop}
    (keeps : ∀ before changed : Client, before.Sent →
      before.Moved server.events changed → P before → P changed)
    (holds : P client) :
    ∃ more, Server.machine.Reaches more after ∧
      after.events = server.events ∧
      ∃ other, after.clients[id]? = some other ∧ P other := by
  obtain ⟨events, quiet, played⟩ := quietly
  induction events generalizing history server client with
  | nil =>
      cases played
      exact ⟨history, run, rfl, client, place, holds⟩
  | cons event rest induction =>
      obtain ⟨between, taken, played⟩ := Option.bind_eq_some_iff.mp played
      have same := quiet_step (quiet event List.mem_cons_self) taken
      obtain ⟨next, found, moved⟩ := moves_of_step taken place
      have sent := (sent_of_reaches run).2 client (List.mem_of_getElem? place)
      obtain ⟨more, reached, events, last⟩ := induction
        (.next run trivial taken) found (same ▸ keeps)
        (keeps client next sent moved holds)
        (fun other member => quiet other (List.mem_cons_of_mem _ member)) played
      exact ⟨more, reached, events.trans same, last⟩

/-- The cursor has passed the row, which is not sent any more. -/
def Client.Missed (row : EventRow) (client : Client) : Prop :=
  row ∉ client.written ∧ row.sequence ≤ client.sequence

theorem Client.Moved.missed {events : List EventRow} {client other : Client}
    (moved : client.Moved events other) (sent : client.Sent) {row : EventRow}
    (missed : client.Missed row) : other.Missed row := by
  refine ⟨?_, missed.2.trans (moved.sequence sent)⟩
  cases moved with
  | flags _ _ _ _ same _ => exact same ▸ missed.1
  | queued opening => exact missed.1
  | answered shape => exact missed.1
  | @resumed opening page _ _ shape _ _ _ _ more _ =>
      have current : client.page = page := page_cons shape
      have later := sent.after
      rw [current] at later
      rw [more]
      intro written
      rcases List.mem_append.mp written with old | new
      · exact missed.1 old
      · exact absurd (later row new) (not_lt.mpr missed.2)
  | rejected shape => exact missed.1

theorem Client.Moved.written_prefix {events : List EventRow}
    {client other : Client} (moved : client.Moved events other) :
    client.written <+: other.written := by
  cases moved with
  | flags _ _ _ _ same _ => exact same ▸ List.prefix_rfl
  | queued opening => exact List.prefix_rfl
  | answered shape => exact List.prefix_rfl
  | resumed _ _ _ _ _ more _ => exact more ▸ List.prefix_append _ _
  | rejected shape => exact List.prefix_rfl

theorem Client.Moved.settled {events : List EventRow} {client other : Client}
    (moved : client.Moved events other) : client.settled ≤ other.settled := by
  cases moved with
  | flags _ _ _ same _ _ => exact same.ge
  | queued opening => exact le_rfl
  | answered shape => exact le_rfl
  | resumed _ _ _ _ same _ _ => exact same ▸ Nat.le_succ _
  | rejected shape => exact Nat.le_succ _

/-- The first flush of the client has this page. -/
def Client.Holds (page : List EventRow) (client : Client) : Prop :=
  ∃ opening rest, client.flushes = ⟨opening, some page⟩ :: rest

/-- A page is held until it is written. -/
theorem Client.Moved.holds {events page : List EventRow}
    {client other : Client} (moved : client.Moved events other)
    (holds : client.Holds page) :
    (other.Holds page ∧ other.sequence = client.sequence ∧
      other.written = client.written ∧ other.settled = client.settled) ∨
    (other.sequence = (client.write page).sequence ∧
      other.written = client.written ++ page ∧
      other.settled = client.settled + 1) := by
  obtain ⟨opening, rest, first⟩ := holds
  cases moved with
  | flags start sequence flushes settled written connected =>
      exact Or.inl ⟨⟨opening, rest, flushes.trans first⟩, sequence, written,
        settled⟩
  | queued last =>
      refine Or.inl ⟨⟨opening, rest ++ [⟨last, none⟩], ?_⟩, rfl, rfl, rfl⟩
      rw [Client.queueFlush, first, List.cons_append]
  | answered shape =>
      rw [first] at shape
      cases shape
  | resumed shape start sequence flushes settled written connected =>
      rw [first] at shape
      cases shape
      exact Or.inr ⟨sequence, written, settled⟩
  | rejected shape =>
      rw [first] at shape
      cases shape

/-! ## The page of the flush -/

/-- What the flush that ends has done. -/
structure Ended (events : List EventRow) (client reader done : Client) :
    Prop where
  ascending : Ascending events
  first : client.Sent
  start : reader.Sent
  last : done.Sent
  grows : client.sequence ≤ reader.sequence
  extends_ : client.written <+: reader.written
  waiting : reader.page = []
  sequence : done.sequence =
    (reader.write (listEventsAfter events reader.sequence)).sequence
  written : done.written =
    reader.written ++ listEventsAfter events reader.sequence
  covers : ∀ row ∈ events, client.Covers row → reader.Covers row
  /-- A page in progress when the flush was queued has been written. -/
  passed : ∀ row : EventRow, client.sequence < row.sequence →
    row ∉ client.page → (∃ sent ∈ client.page, row.sequence ≤ sent.sequence) →
      reader.Missed row

theorem answer_cases {events : List EventRow} {client changed : Client}
    (stepped : client.answer events = some changed) :
    client.page = [] ∧
      changed.Holds (listEventsAfter events client.sequence) ∧
      changed.sequence = client.sequence ∧ changed.written = client.written ∧
      changed.settled = client.settled ∧
      ∃ opening rest, client.flushes = ⟨opening, none⟩ :: rest := by
  unfold Client.answer at stepped
  split at stepped
  · next opening rest shape =>
      rw [← Option.some.inj stepped]
      exact ⟨page_cons shape, ⟨opening, rest, rfl⟩, rfl, rfl, rfl, opening,
        rest, shape⟩
  · cases stepped

/-- The page in progress is still held, or what it passed has been missed. -/
def Client.PageThen (before : Client) (row : EventRow) (client : Client) :
    Prop :=
  (client.Holds before.page ∧ client.sequence = before.sequence ∧
    client.written = before.written) ∨ client.Missed row

theorem Client.Moved.pageThen {events : List EventRow}
    {before client other : Client} {row : EventRow}
    (moved : client.Moved events other) (start : before.Sent)
    (sent : client.Sent) (behind : before.sequence < row.sequence)
    (left : row ∉ before.page)
    (passes : ∃ other ∈ before.page, row.sequence ≤ other.sequence)
    (earlier : before.PageThen row client) : before.PageThen row other := by
  rcases earlier with ⟨holds, sequence, written⟩ | missed
  · rcases moved.holds holds with ⟨still, same, kept, _⟩ | ⟨cursor, more, _⟩
    · exact Or.inl ⟨still, same.trans sequence, kept.trans written⟩
    · right
      obtain ⟨past, inPage, beyond⟩ := passes
      have ordered := start.page
      have later := start.after
      rw [← sequence] at later
      constructor
      · rw [more, written]
        intro member
        rcases List.mem_append.mp member with old | new
        · have early := (start.range row old).2
          omega
        · exact left new
      · rw [cursor]
        have covered := (passed_write ordered later).covers past inPage
        omega
  · exact Or.inr (moved.missed sent missed)

theorem Client.holds_page {client : Client} (some_ : client.page ≠ []) :
    client.Holds client.page := by
  rcases shape : client.flushes with _ | ⟨⟨opening, _ | page⟩, rest⟩
  · exact absurd (by unfold Client.page; rw [shape]) some_
  · exact absurd (page_cons shape) some_
  · rw [page_cons shape]
    exact ⟨opening, rest, shape⟩

/-- A client that changes is the one at its place. -/
theorem changed_client {server after : Server} {id : Nat}
    {step : Client → Option Client} {client : Client}
    (place : server.clients[id]? = some client)
    (changes : server.change id step = some after) :
    ∃ changed, step client = some changed ∧ after.events = server.events ∧
      after.clients[id]? = some changed := by
  obtain ⟨before, changed, first, stepped, rfl⟩ := Server.change_cases changes
  rw [place] at first
  cases first
  obtain ⟨short, _⟩ := List.getElem?_eq_some_iff.mp place
  exact ⟨changed, stepped, rfl, List.getElem?_set_self short⟩

theorem resume_holds {client changed : Client} {page : List EventRow}
    (holds : client.Holds page) (stepped : client.resume = some changed) :
    changed.sequence = (client.write page).sequence ∧
      changed.written = client.written ++ page := by
  obtain ⟨opening, rest, shape⟩ := holds
  rw [Client.resume, shape] at stepped
  rw [← Option.some.inj stepped]
  cases opening <;> exact ⟨rfl, rfl⟩

theorem Server.Flushing.ended {history : List Event}
    {called reading after : Server} {id : Nat} {client reader done : Client}
    (run : Server.machine.Reaches history called)
    (flushing : Server.Flushing id called reading after client reader done) :
    Ended called.events client reader done := by
  obtain ⟨drawn, allSent⟩ := sent_of_reaches run
  have first := allSent client (List.mem_of_getElem? flushing.place)
  obtain ⟨more, reached, same, other, found, start, grows, extends_, covers,
    pageThen⟩ := flushing.begins.keeps run flushing.place
      (P := fun other => other.Sent ∧ client.sequence ≤ other.sequence ∧
        client.written <+: other.written ∧
        (∀ row ∈ called.events, client.Covers row → other.Covers row) ∧
        ∀ row : EventRow, client.sequence < row.sequence →
          row ∉ client.page →
          (∃ sent ∈ client.page, row.sequence ≤ sent.sequence) →
            client.PageThen row other)
      (by
        intro before changed sent moved ⟨_, grows, extends_, covers, pageThen⟩
        refine ⟨moved.sent drawn.ascending sent,
          grows.trans (moved.sequence sent),
          extends_.trans moved.written_prefix, ?_, ?_⟩
        · intro row seen covered
          exact moved.covers drawn.ascending sent seen (covers row seen covered)
        · intro row behind left passes
          exact moved.pageThen first sent behind left passes
            (pageThen row behind left passes))
      (by
        refine ⟨first, le_rfl, List.prefix_rfl, fun _ _ covered => covered, ?_⟩
        intro row _ _ ⟨sent, inPage, _⟩
        exact Or.inl ⟨Client.holds_page (List.ne_nil_of_mem inPage), rfl, rfl⟩)
  rw [flushing.reads] at found
  cases found
  obtain ⟨answered, resuming, resumer, answers, quietly, place, settled,
    resumes⟩ := flushing.answers
  obtain ⟨changed, stepped, table, atAnswer⟩ :=
    changed_client flushing.reads answers
  obtain ⟨waiting, holds, sequence, written, count, opening, rest, shape⟩ :=
    answer_cases stepped
  have answeredRun : Server.machine.Reaches (more ++ [.answer id]) answered :=
    .next reached trivial answers
  -- the page is held while the count of the client's flushes is the same
  obtain ⟨later, resumedRun, _, other, found, held⟩ := quietly.keeps
    answeredRun atAnswer
    (P := fun other => reader.settled ≤ other.settled ∧
      (other.settled = reader.settled →
        other.Holds (listEventsAfter called.events reader.sequence) ∧
          other.sequence = reader.sequence ∧ other.written = reader.written))
    (by
      intro before changed sent moved ⟨begun, held⟩
      refine ⟨begun.trans moved.settled, ?_⟩
      intro unsettled
      have same := (unsettled ▸ moved.settled).antisymm begun
      obtain ⟨holds, sequence, written⟩ := held same
      rcases moved.holds holds with ⟨still, cursor, rows, _⟩ | ⟨_, _, ended⟩
      · exact ⟨still, cursor.trans sequence, rows.trans written⟩
      · omega)
    ⟨count.ge, fun _ => ⟨same ▸ holds, sequence, written⟩⟩
  rw [place] at found
  cases found
  obtain ⟨kept, sameSequence, sameWritten⟩ := held.2 settled
  obtain ⟨last, ends, _, atEnd⟩ := changed_client place resumes
  rw [flushing.ends] at atEnd
  cases atEnd
  obtain ⟨cursor, sentRows⟩ := resume_holds kept ends
  have endRun : Server.machine.Reaches (later ++ [.resume id]) after :=
    .next resumedRun trivial resumes
  refine ⟨drawn.ascending, first, start, ?_, grows, extends_, waiting, ?_, ?_,
    covers, ?_⟩
  · exact (sent_of_reaches endRun).2 done
      (List.mem_of_getElem? flushing.ends)
  · rw [cursor, Client.write, Client.write, sameSequence]
  · rw [sentRows, sameWritten]
  · intro row behind left passes
    rcases pageThen row behind left passes with ⟨⟨_, _, held⟩, _⟩ | missed
    · rw [shape] at held
      cases held
    · exact missed

/-- A page has all that comes after a cursor if that is not more than a page. -/
theorem listEventsAfter_all {events : List EventRow} (sequence : Int)
    (ascending : Ascending events) :
    (∀ row ∈ events, sequence < row.sequence →
      row ∈ listEventsAfter events sequence) ↔
      (events.filter fun row => sequence < row.sequence).length ≤ pageLimit := by
  constructor
  · intro all
    have nodup : (events.filter fun row =>
        decide (sequence < row.sequence)).Nodup :=
      (ascending.filter _).imp fun less same =>
        absurd (congrArg EventRow.sequence same) less.ne
    have within : events.filter (fun row => decide (sequence < row.sequence)) ⊆
        listEventsAfter events sequence := by
      intro row member
      obtain ⟨seen, after⟩ := List.mem_filter.mp member
      exact all row seen (of_decide_eq_true after)
    exact (List.subperm_of_subset nodup within).length_le.trans
      (List.length_take_le _ _)
  · intro short row seen after
    rw [listEventsAfter, List.take_of_length_le short]
    exact List.mem_filter.mpr ⟨seen, decide_eq_true after⟩

/-- The condition on a flush: no page in progress at the call leaves a retained
event behind, its own page has room for what comes after the cursor at its
query, and the cursor is not beyond the table. -/
structure Room (events : List EventRow) (client reader : Client) : Prop where
  ahead : ∀ row ∈ events, client.sequence < row.sequence → client.Ahead row
  page : (events.filter fun row => reader.sequence < row.sequence).length ≤
    pageLimit
  within : events ≠ [] → ∃ row ∈ events, reader.sequence ≤ row.sequence

theorem Ended.room {events : List EventRow} {client reader done : Client}
    (ended : Ended events client reader done)
    (drained : client.Drained events done) : Room events client reader := by
  obtain ⟨rows, appended, _, all⟩ := drained.sent
  have fresh : ∀ row ∈ events, client.sequence < row.sequence →
      row ∈ done.written := by
    intro row seen behind
    rw [appended]
    exact List.mem_append_right _ (all row seen behind)
  refine ⟨?_, ?_, ?_⟩
  · intro row seen behind
    refine ⟨behind, ?_⟩
    by_contra leaves
    rw [not_or] at leaves
    obtain ⟨left, passes⟩ := leaves
    push Not at passes
    obtain ⟨absent, passed⟩ := ended.passed row behind left passes
    have written := fresh row seen behind
    rw [ended.written] at written
    rcases List.mem_append.mp written with old | new
    · exact absent old
    · exact absurd (mem_listEventsAfter new).2 (not_lt.mpr passed)
  · rw [← listEventsAfter_all _ ended.ascending]
    intro row seen behind
    have written := fresh row seen (ended.grows.trans_lt behind)
    rw [ended.written] at written
    rcases List.mem_append.mp written with old | new
    · exact absurd (ended.start.range row old).2 (not_le.mpr behind)
    · exact new
  · intro some_
    obtain ⟨⟨row, seen, cursor⟩, _⟩ := drained.cursor some_
    refine ⟨row, seen, ?_⟩
    rw [cursor, ended.sequence]
    exact (passed_write (ascending_listEventsAfter ended.ascending _)
      (fun row member => (mem_listEventsAfter member).2)).grows

theorem Ended.drained {events : List EventRow} {client reader done : Client}
    (ended : Ended events client reader done)
    (room : Room events client reader) : client.Drained events done := by
  have all := (listEventsAfter_all _ ended.ascending).mpr room.page
  have passed := passed_write
    (ascending_listEventsAfter ended.ascending reader.sequence)
    (fun row member => (mem_listEventsAfter member).2)
  have grows := ended.sequence ▸ passed.grows
  have covers := ended.sequence ▸ passed.covers
  have written : ∀ row ∈ events, reader.sequence < row.sequence →
      row ∈ done.written := by
    intro row seen behind
    rw [ended.written]
    exact List.mem_append_right _ (all row seen behind)
  refine ⟨?_, ?_⟩
  · obtain ⟨rows, appended⟩ : client.written <+: done.written := by
      rw [ended.written]
      exact ended.extends_.trans (List.prefix_append _ _)
    have ordered := ended.last.ascending
    rw [← appended] at ordered
    refine ⟨rows, appended.symm, (List.pairwise_append.mp ordered).2.1, ?_⟩
    intro row seen behind
    have sent : row ∈ done.written := by
      rcases ended.covers row seen (Or.inr (room.ahead row seen behind)) with
        early | ⟨later, _⟩
      · rw [ended.written]
        exact List.mem_append_left _ early
      · exact written row seen later
    rw [← appended] at sent
    rcases List.mem_append.mp sent with old | new
    · exact absurd (ended.first.range row old).2 (not_le.mpr behind)
    · exact new
  · intro some_
    have bounded : ∀ row ∈ events, (row.sequence : Int) ≤ done.sequence := by
      intro row seen
      rcases le_or_gt (row.sequence : Int) reader.sequence with early | late
      · exact early.trans grows
      · exact covers row (all row seen late)
    have reached : ∃ row ∈ events, (row.sequence : Int) = done.sequence := by
      by_cases empty : listEventsAfter events reader.sequence = []
      · obtain ⟨row, seen, within⟩ := room.within some_
        have still : done.sequence = reader.sequence := by
          rw [ended.sequence, empty, write_nil]
        exact ⟨row, seen, le_antisymm (bounded row seen) (still ▸ within)⟩
      · obtain ⟨row, inPage, cursor⟩ := passed.last empty
        exact ⟨row, (mem_listEventsAfter inPage).1,
          cursor.trans ended.sequence.symm⟩
    refine ⟨reached, ?_⟩
    rintro _ ⟨row, seen, rfl⟩
    exact bounded row seen

/-- A flush during which nothing is appended has sent everything that is
retained after the cursor, and left the cursor at the end of the table, exactly
when its page had room for it. -/
theorem event_backlog {history : List Event} {called reading after : Server}
    {id : Nat} {client reader done : Client}
    (run : Server.machine.Reaches history called)
    (flushing : Server.Flushing id called reading after client reader done) :
    client.Drained called.events done ↔ Room called.events client reader := by
  have ended := flushing.ended run
  exact ⟨ended.room, ended.drained⟩

/-- The only client has just connected. -/
def Server.greet (server : Server) : Server :=
  { server with clients := [.connect none] }

theorem events_greet (server : Server) : server.greet.events = server.events :=
  rfl

/-- Its opening flush sends the first page. -/
theorem flushing_greet (server : Server) :
    ∃ after done, Server.Flushing 0 server.greet server.greet after
      (.connect none) (.connect none) done ∧
        done.written = listEventsAfter server.events 0 := by
  have still : ∀ server : Server, server.Quietly server :=
    fun _ => ⟨[], List.forall_mem_nil _, rfl⟩
  exact ⟨_, _, ⟨rfl, ⟨[], true, rfl, rfl⟩, still _, rfl,
    ⟨_, _, _, rfl, still _, rfl, rfl, rfl⟩, rfl⟩, rfl⟩

def sampleAppends : List Event :=
  [.insert 0 "job.queued" none .null 0, .insert 0 "job.leased" none .null 0,
    .commit 0, .connect none]

theorem event_backlog_sample : ∃ called reading after client reader done,
    Server.machine.Reaches sampleAppends called ∧
      Server.Flushing 0 called reading after client reader done ∧
      called.events.map EventRow.sequence = [1, 2] ∧
      client.Drained called.events done := by
  have played := Server.machine.play_get sampleAppends (by decide)
  have run := Machine.reaches_of_play played
  obtain ⟨after, done, flushing, _⟩ := flushing_greet
    ((Server.machine.play sampleAppends).get (by decide))
  refine ⟨_, _, after, _, _, done, run, flushing, by decide, ?_⟩
  apply (event_backlog run flushing).mpr
  refine ⟨?_, by decide, ?_⟩
  · intro row _ behind
    exact ⟨behind, Or.inr (List.forall_mem_nil _)⟩
  · intro _
    exact ⟨_, List.mem_cons_self, by decide⟩

/-! ## More than a page -/

def queuedRows (count : Nat) : List EventRow :=
  (List.range count).map fun index => ⟨index + 1, "job.queued", none, .null, 0⟩

/-- A transaction has appended so many events. -/
def appending (count : Nat) : Server :=
  ⟨count, Function.update (fun _ => .empty) 0 ⟨queuedRows count, []⟩, [], []⟩

theorem newest_le {rows : List EventRow} {bound : Nat}
    (within : ∀ row ∈ rows, row.sequence ≤ bound) : newest rows ≤ bound := by
  have folded : ∀ (rows : List EventRow) (start : Nat), start ≤ bound →
      (∀ row ∈ rows, row.sequence ≤ bound) →
        (rows.map EventRow.sequence).foldl max start ≤ bound := by
    intro rows
    induction rows with
    | nil => exact fun _ below _ => below
    | cons row rest induction =>
        intro start below within
        exact induction _ (max_le below (within row List.mem_cons_self))
          (fun other member => within other (List.mem_cons_of_mem _ member))
  exact folded rows 0 (Nat.zero_le _) within

theorem mem_queuedRows {count : Nat} {row : EventRow}
    (member : row ∈ queuedRows count) :
    0 < row.sequence ∧ row.sequence ≤ count := by
  obtain ⟨index, inRange, rfl⟩ := List.mem_map.mp member
  exact ⟨Nat.succ_pos _, List.mem_range.mp inRange⟩

theorem append_queued {count : Nat} (few : count < 10000) :
    (appending count).insert 0 "job.queued" none .null 0 =
      appending (count + 1) := by
  have rows : queuedRows count ++ [⟨count + 1, "job.queued", none, .null, 0⟩] =
      queuedRows (count + 1) := by
    rw [queuedRows, queuedRows, List.range_succ, List.map_append]
    rfl
  have bound : newest (queuedRows (count + 1)) - 10000 = 0 := by
    have small : newest (queuedRows (count + 1)) ≤ count + 1 :=
      newest_le fun _ member => (mem_queuedRows member).2
    omega
  have kept : (queuedRows (count + 1)).filter (fun row => 0 < row.sequence) =
      queuedRows (count + 1) :=
    List.filter_eq_self.mpr fun row member =>
      decide_eq_true (mem_queuedRows member).1
  rw [Server.insert, appending]
  simp only [Function.update_self, Function.update_idem, List.nil_append,
    rows, bound, kept]
  rfl

theorem reaches_appending {count : Nat} (few : count ≤ 10000) :
    Server.machine.Reaches
      (List.replicate count (.insert 0 "job.queued" none .null 0))
      (appending count) := by
  induction count with
  | zero =>
      have same : appending 0 = Server.initial := by
        rw [appending, Server.initial]
        congr 1
        exact Function.update_eq_self 0 _
      rw [same]
      exact .initial
  | succ count induction =>
      rw [List.replicate_succ']
      refine .next (induction (Nat.le_of_succ_le few)) trivial ?_
      exact congrArg some (append_queued few)

/-- What is seen once the transaction has committed. -/
def appended (count : Nat) : Server := (appending count).commit 0

theorem mem_appended {count : Nat} {row : EventRow} :
    row ∈ (appended count).events ↔ row ∈ queuedRows count := by
  rw [appended, Server.commit, appending]
  simp only [Function.update_self, mem_insertInOrder, List.filter_nil,
    List.not_mem_nil, false_or]

def queueing : List Event :=
  List.replicate 501 (.insert 0 "job.queued" none .null 0)

/-- One event more than a page, and a client that connects. -/
theorem long_backlog_left : ¬ ∀ history called reading after id client reader
    done, Server.machine.Reaches history called →
      Server.Flushing id called reading after client reader done →
        client.Drained called.events done := by
  intro all
  have committed : Server.machine.Reaches
      (queueing ++ [.commit 0]) (appended 501) :=
    .next (reaches_appending (by decide)) trivial rfl
  have connected : Server.machine.Reaches
      (queueing ++ [.commit 0] ++ [.connect none]) (appended 501).greet :=
    .next committed trivial rfl
  obtain ⟨after, done, flushing, written⟩ := flushing_greet (appended 501)
  obtain ⟨⟨rows, shape, _, sent⟩, _⟩ := all _ _ _ _ _ _ _ _ connected flushing
  have page : rows = listEventsAfter (appended 501).events 0 :=
    shape.symm.trans written
  have within : queuedRows 501 ⊆ rows := by
    intro row member
    have seen : row ∈ (appended 501).greet.events := by
      rw [events_greet]
      exact mem_appended.mpr member
    apply sent row seen
    have start : (Client.connect none).sequence = 0 := rfl
    rw [start]
    have positive := (mem_queuedRows member).1
    omega
  have nodup : (queuedRows 501).Nodup := by
    apply (List.nodup_map_iff ?_).mpr List.nodup_range
    intro first second same
    exact Nat.succ_injective (congrArg EventRow.sequence same)
  have long := (List.subperm_of_subset nodup within).length_le
  have short : rows.length ≤ 500 := page ▸ List.length_take_le _ _
  rw [queuedRows, List.length_map, List.length_range] at long
  omega

end EventStream

end GpuLink
