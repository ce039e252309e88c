import GpuLink.Sdk.Session

/-!
# Messages of a session

A message goes to whoever listens when it is delivered, in the order of
arrival.  What is taken from the queue for a delivery is not put back, so it
matters that somebody listens until the last of it.
-/

namespace GpuLink

namespace Sdk

namespace ClientSession

/-! ## What is asked of the queue -/

/-- In the order of arrival, and to no listener twice. -/
def InOrder (deliveries : List (Nat × Nat)) : Prop :=
  deliveries.Pairwise (fun first second =>
    first.1 < second.1 ∨ first.1 = second.1 ∧ first.2 ≠ second.2)

def Delivered (session : ClientSession) (number : Nat) : Prop :=
  ∃ listener, (number, listener) ∈ session.deliveries

/-- Every message has been delivered or waits. -/
def NoneDropped (session : ClientSession) : Prop :=
  ∀ number < session.arrivals,
    number ∈ session.pending.map Prod.fst ∨ session.Delivered number

/-- What waits is on its way as soon as somebody listens. -/
def Scheduled (session : ClientSession) : Prop :=
  session.messageListeners ≠ [] → session.pending ≠ [] →
    session.flushQueued = true

/-- Somebody listens whenever the loop comes to a message, or the session has
been closed. -/
def Attended (app : Application) (session : ClientSession) :
    List (Nat × Frame) → Prop
  | [] => True
  | message :: messages => session.closing = true ∨
      session.messageListeners ≠ [] ∧
        (session.deliver app message.1).Attended app messages

/-- The session when the loop of a flush begins. -/
def taken (session : ClientSession) : ClientSession :=
  { session with
    flushQueued := false, pending := [], pendingBytes := 0, draining := true }

/-- The condition on a flush that delivers anything. -/
def Attends (app : Application) (session : ClientSession) : Event → Prop
  | .flush => session.messageListeners ≠ [] →
      session.taken.Attended app session.pending
  | _ => True

/-! ## What callbacks change -/

/-- All but the calls of message listeners. -/
structure Steady (before after : ClientSession) : Prop where
  arrivals : after.arrivals = before.arrivals
  draining : after.draining = before.draining
  nodup : before.messageListeners.Nodup → after.messageListeners.Nodup
  pending : after.closing = before.closing ∧ after.pending = before.pending ∨
    after.closing = true ∧ after.pending = []
  scheduled : before.Scheduled → after.Scheduled

theorem Steady.refl (session : ClientSession) : Steady session session :=
  ⟨rfl, rfl, id, Or.inl ⟨rfl, rfl⟩, id⟩

theorem Steady.trans {first second third : ClientSession}
    (one : Steady first second) (other : Steady second third) :
    Steady first third := by
  refine ⟨other.arrivals.trans one.arrivals, other.draining.trans one.draining,
    other.nodup ∘ one.nodup, ?_, other.scheduled ∘ one.scheduled⟩
  rcases other.pending with ⟨alike, kept⟩ | gone
  · rcases one.pending with ⟨same, old⟩ | ⟨closing, empty⟩
    · exact Or.inl ⟨alike.trans same, kept.trans old⟩
    · exact Or.inr ⟨alike.trans closing, kept.trans empty⟩
  · exact Or.inr gone

/-- A session that is open afterwards has been open, and has kept what waits. -/
theorem Steady.of_open {before after : ClientSession}
    (steady : Steady before after) (isOpen : after.closing = false) :
    before.closing = false ∧ after.pending = before.pending := by
  rcases steady.pending with ⟨alike, kept⟩ | ⟨closing, _⟩
  · exact ⟨alike ▸ isOpen, kept⟩
  · rw [closing] at isOpen
    cases isOpen

/-- No message listener is called. -/
structure Quiet (before after : ClientSession) : Prop where
  steady : Steady before after
  deliveries : after.deliveries = before.deliveries

theorem Quiet.refl (session : ClientSession) : Quiet session session :=
  ⟨.refl session, rfl⟩

theorem Quiet.trans {first second third : ClientSession}
    (one : Quiet first second) (other : Quiet second third) :
    Quiet first third :=
  ⟨one.steady.trans other.steady, other.deliveries.trans one.deliveries⟩

theorem deliveries_note (session : ClientSession) (entry : Entry) :
    (session.note entry).deliveries =
      session.deliveries ++ entry.delivery?.toList := by
  unfold deliveries note
  rw [List.filterMap_append]
  cases entry <;> rfl

theorem quiet_note (session : ClientSession) {entry : Entry}
    (other : entry.delivery? = none) : Quiet session (session.note entry) := by
  refine ⟨⟨rfl, rfl, id, Or.inl ⟨rfl, rfl⟩, id⟩, ?_⟩
  rw [deliveries_note, other]
  exact List.append_nil _

theorem quiet_scheduleFlush (session : ClientSession) :
    Quiet session session.scheduleFlush := by
  unfold scheduleFlush
  split
  · exact .refl session
  · exact ⟨⟨rfl, rfl, id, Or.inl ⟨rfl, rfl⟩, fun _ _ _ => rfl⟩, rfl⟩

/-- After a flush has been scheduled, what waits is on its way. -/
theorem scheduled_scheduleFlush (session : ClientSession) :
    session.scheduleFlush.Scheduled := by
  unfold scheduleFlush Scheduled
  split
  · next settled =>
      intro listening waiting
      rcases settled with none | none | queued
      · exact (listening none).elim
      · exact (waiting none).elim
      · exact queued
  · intro _ _
    rfl

theorem quiet_subscribe (session : ClientSession) (listener : Nat) :
    Quiet session (session.subscribe listener) := by
  unfold subscribe
  split
  · exact .refl session
  · refine ⟨⟨?_, ?_, ?_, ?_, fun _ => scheduled_scheduleFlush _⟩, ?_⟩
    · exact (quiet_scheduleFlush _).steady.arrivals
    · exact (quiet_scheduleFlush _).steady.draining
    · intro nodup
      apply (quiet_scheduleFlush _).steady.nodup
      change (if _ then _ else _ : List Nat).Nodup
      split
      · exact nodup
      · next fresh =>
          rw [List.nodup_append]
          refine ⟨nodup, List.nodup_singleton _, ?_⟩
          intro first old other last same
          rw [List.mem_singleton.mp last] at same
          exact fresh (same ▸ old)
    · exact (quiet_scheduleFlush _).steady.pending
    · exact (quiet_scheduleFlush _).deliveries

theorem quiet_unsubscribe (session : ClientSession) (listener : Nat) :
    Quiet session (session.unsubscribe listener) := by
  refine ⟨⟨rfl, rfl, fun nodup => nodup.erase listener,
    Or.inl ⟨rfl, rfl⟩, ?_⟩, rfl⟩
  intro scheduled listening waiting
  apply scheduled _ waiting
  intro none
  exact listening (congrArg (fun listeners => listeners.erase listener) none)

theorem quiet_close (session : ClientSession) : Quiet session session.close := by
  have emptied : Quiet session { session with
      closing := true, pending := [], pendingBytes := 0 } :=
    ⟨⟨rfl, rfl, id, Or.inr ⟨rfl, rfl⟩,
      fun _ _ waiting => (waiting rfl).elim⟩, rfl⟩
  simp only [close]
  split
  · exact emptied.trans (quiet_note _ rfl)
  · have asked : Quiet _ { session with
        closing := true, pending := [], pendingBytes := 0
        closePromise := some session.releases.length
        releases := session.releases ++ [.queued] } :=
      emptied.trans ⟨⟨rfl, rfl, id, Or.inl ⟨rfl, rfl⟩, id⟩, rfl⟩
    exact asked.trans (quiet_note _ rfl)

theorem close_closing (session : ClientSession) : session.close.closing = true := by
  simp only [close]
  split <;> rfl

theorem close_pending (session : ClientSession) : session.close.pending = [] := by
  simp only [close]
  split <;> rfl

theorem quiet_perform (session : ClientSession) (action : Action) :
    Quiet session (session.perform action) := by
  cases action with
  | subscribe listener => exact quiet_subscribe session listener
  | unsubscribe listener => exact quiet_unsubscribe session listener
  | send frame =>
      simp only [perform, send]
      split
      · exact .refl session
      · exact quiet_note session rfl
  | close => exact quiet_close session

theorem quiet_performAll (session : ClientSession) (actions : List Action) :
    Quiet session (session.performAll actions) := by
  unfold performAll
  induction actions generalizing session with
  | nil => exact .refl session
  | cons action actions induction =>
      exact (quiet_perform session action).trans (induction _)

section

variable (app : Application)

theorem quiet_report (session : ClientSession) (code : SessionErrorCode) :
    Quiet session (session.report app code) := by
  have recorded : ∀ errors, Quiet session
      (({ session with errors := errors } : ClientSession).note
        (.reported code)) := by
    intro errors
    have same : Quiet session { session with errors := errors } :=
      ⟨⟨rfl, rfl, id, Or.inl ⟨rfl, rfl⟩, id⟩, rfl⟩
    exact same.trans (quiet_note _ rfl)
  exact (recorded _).trans (quiet_performAll _ _)

theorem quiet_react (session : ClientSession) (reaction : Reaction)
    (code : SessionErrorCode) :
    Quiet session (session.react app reaction code) := by
  simp only [react]
  split
  · exact (quiet_performAll session _).trans (quiet_report app _ code)
  · exact quiet_performAll session _

/-! ## Calling the listeners -/

/-- One message is delivered to some of the listeners, and to at least one
while the session is open. -/
structure Calls (before after : ClientSession) (number : Nat)
    (listeners called : List Nat) : Prop where
  steady : Steady before after
  deliveries : after.deliveries =
    before.deliveries ++ called.map (fun listener => (number, listener))
  sublist : called.Sublist listeners
  some : before.closing = false → listeners ≠ [] → called ≠ []

theorem calls_callListener (session : ClientSession) (number listener : Nat) :
    Calls session (session.callListener app number listener) number [listener]
      [listener] := by
  have noted : Steady session (session.note (.delivered number listener)) :=
    ⟨rfl, rfl, id, Or.inl ⟨rfl, rfl⟩, id⟩
  have reacted := quiet_react app (session.note (.delivered number listener))
    (app.onMessage (session.log ++ [.delivered number listener]))
    .messageListenerError
  refine ⟨noted.trans reacted.steady, ?_, List.Sublist.refl _, fun _ _ => nofun⟩
  exact reacted.deliveries.trans (deliveries_note _ _)

theorem calls_callListeners (session : ClientSession) (number : Nat)
    (listeners : List Nat) : ∃ called,
      Calls session (session.callListeners app number listeners) number
        listeners called := by
  induction listeners generalizing session with
  | nil =>
      exact ⟨[], .refl session, (List.append_nil _).symm, List.Sublist.refl _,
        fun _ some => (some rfl).elim⟩
  | cons listener listeners induction =>
      rw [callListeners]
      split
      · next closing =>
          refine ⟨[], .refl session, (List.append_nil _).symm,
            List.nil_sublist _, ?_⟩
          intro isOpen
          rw [closing] at isOpen
          cases isOpen
      · have first := calls_callListener app session number listener
        obtain ⟨called, later⟩ := induction
          (session.callListener app number listener)
        refine ⟨listener :: called, first.steady.trans later.steady, ?_,
          later.sublist.cons_cons listener, fun _ _ => nofun⟩
        rw [later.deliveries, first.deliveries, List.append_assoc]
        rfl

theorem calls_deliver (session : ClientSession) (number : Nat) : ∃ called,
    Calls session (session.deliver app number) number session.messageListeners
      called :=
  calls_callListeners app session number _

/-- While the session is open, a message is delivered if somebody listens. -/
theorem delivered_deliver (session : ClientSession) (number : Nat)
    (isOpen : session.closing = false)
    (listening : session.messageListeners ≠ []) :
    (session.deliver app number).Delivered number := by
  obtain ⟨called, calls⟩ := calls_deliver app session number
  obtain ⟨listener, first⟩ :=
    List.exists_mem_of_ne_nil _ (calls.some isOpen listening)
  refine ⟨listener, ?_⟩
  rw [calls.deliveries]
  exact List.mem_append_right _ (List.mem_map.mpr ⟨listener, first, rfl⟩)

/-! ## The order -/

/-- What has been delivered is in order, and what is in the queue is later. -/
structure Ordered (session : ClientSession) (queue : List (Nat × Frame)) :
    Prop where
  inOrder : InOrder session.deliveries
  nodup : session.messageListeners.Nodup
  past : ∀ delivery ∈ session.deliveries, delivery.1 < session.arrivals
  increasing : queue.Pairwise (fun first second => first.1 < second.1)
  waiting : ∀ message ∈ queue, message.1 < session.arrivals ∧
    ∀ delivery ∈ session.deliveries, delivery.1 < message.1

theorem Ordered.quiet {before after : ClientSession}
    {queue : List (Nat × Frame)} (ordered : before.Ordered queue)
    (quiet : Quiet before after) : after.Ordered queue := by
  obtain ⟨steady, deliveries⟩ := quiet
  refine ⟨?_, steady.nodup ordered.nodup, ?_, ordered.increasing, ?_⟩
  · rw [deliveries]
    exact ordered.inOrder
  · rw [deliveries, steady.arrivals]
    exact ordered.past
  · rw [deliveries, steady.arrivals]
    exact ordered.waiting

theorem Ordered.nil {session : ClientSession} {queue : List (Nat × Frame)}
    (ordered : session.Ordered queue) : session.Ordered [] :=
  ⟨ordered.inOrder, ordered.nodup, ordered.past, List.Pairwise.nil, nofun⟩

/-- The first message of the queue may be delivered. -/
theorem Ordered.deliver {session : ClientSession} {message : Nat × Frame}
    {queue : List (Nat × Frame)} (ordered : session.Ordered (message :: queue)) :
    (session.deliver app message.1).Ordered queue := by
  obtain ⟨called, calls⟩ := calls_deliver app session message.1
  obtain ⟨later, increasing⟩ := List.pairwise_cons.mp ordered.increasing
  obtain ⟨arrived, first⟩ := ordered.waiting message List.mem_cons_self
  have distinct : called.Nodup := ordered.nodup.sublist calls.sublist
  refine ⟨?_, calls.steady.nodup ordered.nodup, ?_, increasing, ?_⟩
  · rw [calls.deliveries]
    apply List.pairwise_append.mpr
    refine ⟨ordered.inOrder, ?_, ?_⟩
    · rw [List.pairwise_map]
      exact distinct.imp (fun apart => Or.inr ⟨rfl, apart⟩)
    · intro old earlier new called
      obtain ⟨listener, _, rfl⟩ := List.mem_map.mp called
      exact Or.inl (first old earlier)
  · rw [calls.deliveries, calls.steady.arrivals]
    intro delivery member
    rcases List.mem_append.mp member with old | new
    · exact ordered.past delivery old
    · obtain ⟨listener, _, rfl⟩ := List.mem_map.mp new
      exact arrived
  · rw [calls.deliveries, calls.steady.arrivals]
    intro other queued
    have waits := ordered.waiting other (List.mem_cons_of_mem _ queued)
    refine ⟨waits.1, ?_⟩
    intro delivery member
    rcases List.mem_append.mp member with old | new
    · exact waits.2 delivery old
    · obtain ⟨listener, _, rfl⟩ := List.mem_map.mp new
      exact later other queued

/-! ## The loop of a flush -/

theorem Ordered.drain {session : ClientSession} {queue : List (Nat × Frame)}
    (ordered : session.Ordered queue) :
    (session.drain app queue).Ordered [] := by
  induction queue generalizing session with
  | nil => exact ordered
  | cons message queue induction =>
      rw [ClientSession.drain]
      split
      · exact ordered.nil
      · exact induction (ordered.deliver app)

/-- What the loop does to a session, and what it keeps. -/
theorem steady_drain (session : ClientSession) (queue : List (Nat × Frame)) :
    Steady session (session.drain app queue) ∧
      ∀ number, session.Delivered number →
        (session.drain app queue).Delivered number := by
  induction queue generalizing session with
  | nil => exact ⟨.refl session, fun _ => id⟩
  | cons message queue induction =>
      rw [drain]
      split
      · exact ⟨.refl session, fun _ => id⟩
      · obtain ⟨called, calls⟩ := calls_deliver app session message.1
        obtain ⟨steady, grows⟩ := induction (session.deliver app message.1)
        refine ⟨calls.steady.trans steady, ?_⟩
        intro number delivered
        apply grows
        obtain ⟨listener, member⟩ := delivered
        refine ⟨listener, ?_⟩
        rw [calls.deliveries]
        exact List.mem_append_left _ member

/-- A loop in which somebody always listens delivers all, unless the session
is closed in it. -/
theorem delivered_drain {session : ClientSession} {queue : List (Nat × Frame)}
    (attended : session.Attended app queue)
    (isOpen : (session.drain app queue).closing = false) :
    ∀ message ∈ queue, (session.drain app queue).Delivered message.1 := by
  induction queue generalizing session with
  | nil => exact nofun
  | cons message queue induction =>
      have before := ((steady_drain app session _).1.of_open isOpen).1
      rw [drain, if_neg (Bool.eq_false_iff.mp before)] at isOpen ⊢
      rcases attended with closing | ⟨listening, later⟩
      · rw [before] at closing
        cases closing
      · intro other member
        rcases List.mem_cons.mp member with rfl | queued
        · exact (steady_drain app _ queue).2 _
            (delivered_deliver app session other.1 before listening)
        · exact induction later isOpen other queued

/-! ## Events -/

/-- What holds of the queue between events. -/
structure Kept (session : ClientSession) : Prop where
  ordered : session.Ordered session.pending
  idle : session.draining = false
  scheduled : session.Scheduled
  closed : session.closing = true → session.pending = []
  none : session.closing = false → session.NoneDropped

theorem kept_initial : initial.Kept := by
  refine ⟨⟨List.Pairwise.nil, List.nodup_nil, nofun, List.Pairwise.nil, nofun⟩,
    rfl, ?_, fun _ => rfl, ?_⟩
  · intro listening
    exact (listening rfl).elim
  · intro _ number early
    exact absurd early (Nat.not_lt_zero number)

theorem Kept.quiet {before after : ClientSession} (kept : before.Kept)
    (quiet : Quiet before after) : after.Kept := by
  have ordered := kept.ordered.quiet quiet
  refine ⟨?_, quiet.steady.draining.trans kept.idle,
    quiet.steady.scheduled kept.scheduled, ?_, ?_⟩
  · rcases quiet.steady.pending with ⟨_, same⟩ | ⟨_, empty⟩
    · rw [same]
      exact ordered
    · rw [empty]
      exact ordered.nil
  · intro closing
    rcases quiet.steady.pending with ⟨alike, same⟩ | ⟨_, empty⟩
    · rw [same]
      exact kept.closed (alike ▸ closing)
    · exact empty
  · intro isOpen number early
    obtain ⟨wasOpen, same⟩ := quiet.steady.of_open isOpen
    rw [quiet.steady.arrivals] at early
    unfold Delivered
    rw [same, quiet.deliveries]
    exact kept.none wasOpen number early

/-- A message has been counted, and neither been delivered nor queued. -/
structure Awaiting (session : ClientSession) (message : Nat × Frame) : Prop where
  ordered : session.Ordered (session.pending ++ [message])
  idle : session.draining = false
  scheduled : session.Scheduled
  isOpen : session.closing = false
  others : ∀ number < session.arrivals, number = message.1 ∨
    number ∈ session.pending.map Prod.fst ∨ session.Delivered number

theorem Kept.arrive {session : ClientSession} (kept : session.Kept)
    (isOpen : session.closing = false) (frame : Frame) :
    ({ session with arrivals := session.arrivals + 1 } :
      ClientSession).Awaiting (session.arrivals, frame) := by
  refine ⟨⟨kept.ordered.inOrder, kept.ordered.nodup, ?_, ?_, ?_⟩, kept.idle,
    kept.scheduled, isOpen, ?_⟩
  · intro delivery member
    exact Nat.lt_succ_of_lt (kept.ordered.past delivery member)
  · apply List.pairwise_append.mpr
    refine ⟨kept.ordered.increasing, List.pairwise_singleton _ _, ?_⟩
    intro old queued new last
    rw [List.mem_singleton.mp last]
    exact (kept.ordered.waiting old queued).1
  · intro message member
    rcases List.mem_append.mp member with old | new
    · have waits := kept.ordered.waiting message old
      exact ⟨Nat.lt_succ_of_lt waits.1, waits.2⟩
    · rw [List.mem_singleton.mp new]
      exact ⟨Nat.lt_succ_self _, kept.ordered.past⟩
  · intro number early
    rcases Nat.lt_succ_iff_lt_or_eq.mp early with old | last
    · exact Or.inr (kept.none isOpen number old)
    · exact Or.inl last

/-- Nothing waits, and the message goes to those who listen. -/
theorem Awaiting.deliver {session : ClientSession} {message : Nat × Frame}
    (awaiting : session.Awaiting message) (empty : session.pending = [])
    (listening : session.messageListeners ≠ []) :
    (session.deliver app message.1).Kept := by
  obtain ⟨called, calls⟩ := calls_deliver app session message.1
  have nothing : (session.deliver app message.1).pending = [] := by
    rcases calls.steady.pending with ⟨_, same⟩ | ⟨_, none⟩
    · exact same.trans empty
    · exact none
  have head := awaiting.ordered
  rw [empty] at head
  refine ⟨?_, calls.steady.draining.trans awaiting.idle,
    calls.steady.scheduled awaiting.scheduled, fun _ => nothing, ?_⟩
  · rw [nothing]
    exact head.deliver app
  · intro _ number early
    rw [calls.steady.arrivals] at early
    rcases awaiting.others number early with rfl | waits | ⟨listener, past⟩
    · exact Or.inr (delivered_deliver app session message.1 awaiting.isOpen
        listening)
    · rw [empty] at waits
      cases waits
    · refine Or.inr ⟨listener, ?_⟩
      rw [calls.deliveries]
      exact List.mem_append_left _ past

/-- There is no room for the message, and the session closes. -/
theorem Awaiting.overflow {session : ClientSession} {message : Nat × Frame}
    (awaiting : session.Awaiting message) :
    (session.report app .earlyBufferOverflow).close.Kept := by
  have quiet := (quiet_report app session .earlyBufferOverflow).trans
    (quiet_close _)
  have empty := close_pending (session.report app .earlyBufferOverflow)
  refine ⟨?_, quiet.steady.draining.trans awaiting.idle,
    quiet.steady.scheduled awaiting.scheduled, fun _ => empty, ?_⟩
  · rw [empty]
    exact awaiting.ordered.nil.quiet quiet
  · intro isOpen
    rw [close_closing] at isOpen
    cases isOpen

theorem pending_scheduleFlush (session : ClientSession) :
    session.scheduleFlush.pending = session.pending := by
  unfold scheduleFlush
  split <;> rfl

/-- The message waits with the others. -/
theorem Awaiting.queue {session : ClientSession} {message : Nat × Frame}
    (awaiting : session.Awaiting message) (bytes : Nat) :
    ({ session with
      pending := session.pending ++ [message], pendingBytes := bytes } :
        ClientSession).scheduleFlush.Kept := by
  have quiet := quiet_scheduleFlush { session with
    pending := session.pending ++ [message], pendingBytes := bytes }
  have queued : ({ session with
      pending := session.pending ++ [message], pendingBytes := bytes } :
        ClientSession).Ordered (session.pending ++ [message]) :=
    ⟨awaiting.ordered.inOrder, awaiting.ordered.nodup, awaiting.ordered.past,
      awaiting.ordered.increasing, awaiting.ordered.waiting⟩
  have isOpen : ({ session with
      pending := session.pending ++ [message], pendingBytes := bytes } :
        ClientSession).scheduleFlush.closing = false := by
    unfold scheduleFlush
    split <;> exact awaiting.isOpen
  refine ⟨?_, quiet.steady.draining.trans awaiting.idle,
    scheduled_scheduleFlush _, ?_, ?_⟩
  · rw [pending_scheduleFlush]
    exact queued.quiet quiet
  · intro closing
    rw [isOpen] at closing
    cases closing
  · intro _ number early
    rw [quiet.steady.arrivals] at early
    unfold Delivered
    rw [pending_scheduleFlush, quiet.deliveries, List.map_append]
    rcases awaiting.others number early with rfl | waits | delivered
    · exact Or.inl (List.mem_append_right _ List.mem_cons_self)
    · exact Or.inl (List.mem_append_left _ waits)
    · exact Or.inr delivered

theorem Kept.message {session : ClientSession} (kept : session.Kept)
    (frame : Frame) : (session.message app frame).Kept := by
  simp only [ClientSession.message]
  split
  · exact kept
  · next closing =>
      have awaiting := kept.arrive (Bool.eq_false_iff.mpr closing) frame
      split
      · next direct =>
          exact awaiting.deliver app direct.2.2.2 direct.1
      · split
        · exact awaiting.overflow app
        · exact awaiting.queue _

theorem Kept.flush {session : ClientSession} (kept : session.Kept)
    (attends : session.Attends app .flush) : (session.flush app).Kept := by
  simp only [ClientSession.flush]
  split
  · next nobody =>
      refine ⟨⟨kept.ordered.inOrder, kept.ordered.nodup, kept.ordered.past,
        kept.ordered.increasing, kept.ordered.waiting⟩, kept.idle, ?_,
        kept.closed, kept.none⟩
      intro listening waiting
      rcases nobody with none | closing
      · exact (listening none).elim
      · exact (waiting (kept.closed closing)).elim
  · next somebody =>
      obtain ⟨listening, closing⟩ := not_or.mp somebody
      have begun : session.taken.Ordered session.pending :=
        ⟨kept.ordered.inOrder, kept.ordered.nodup, kept.ordered.past,
          kept.ordered.increasing, kept.ordered.waiting⟩
      have ordered := begun.drain app
      obtain ⟨steady, grows⟩ := steady_drain app session.taken session.pending
      have empty : (session.taken.drain app session.pending).pending = [] := by
        rcases steady.pending with ⟨_, same⟩ | ⟨_, none⟩
        · exact same
        · exact none
      have ended : ({ session.taken.drain app session.pending with
          draining := false } : ClientSession).Kept := by
        refine ⟨?_, rfl, fun _ waiting => (waiting empty).elim,
          fun _ => empty, ?_⟩
        · rw [show (_ : ClientSession).pending = [] from empty]
          exact ⟨ordered.inOrder, ordered.nodup, ordered.past,
            ordered.increasing, nofun⟩
        · intro isOpen number early
          have all := delivered_drain app (attends listening) isOpen
          rw [show _ = session.arrivals from steady.arrivals] at early
          rcases kept.none (Bool.eq_false_iff.mpr closing) number early with
            waits | delivered
          · obtain ⟨message, queued, rfl⟩ := List.mem_map.mp waits
            exact Or.inr (all message queued)
          · exact Or.inr (grows number delivered)
      exact ended.quiet (quiet_scheduleFlush _)

theorem Kept.step {session after : ClientSession} {event : Event}
    (kept : session.Kept) (attends : session.Attends app event)
    (taken : step app session event = some after) : after.Kept := by
  cases event with
  | message frame => exact Option.some.inj taken ▸ kept.message app frame
  | act action =>
      exact Option.some.inj taken ▸ kept.quiet (quiet_perform session action)
  | flush =>
      rw [ClientSession.step] at taken
      split at taken
      · exact Option.some.inj taken ▸ kept.flush app attends
      · cases taken
  | socketClosed =>
      rw [ClientSession.step] at taken
      rw [← Option.some.inj taken]
      simp only [ClientSession.socketClosed]
      split
      · exact kept.quiet (quiet_react app session _ _)
      · exact kept.quiet ((quiet_close session).trans (quiet_react app _ _ _))
  | callRemote release =>
      rw [ClientSession.step] at taken
      split at taken
      · rw [← Option.some.inj taken]
        have started : Quiet session { session with
            releases := session.releases.set release .running } :=
          ⟨⟨rfl, rfl, id, Or.inl ⟨rfl, rfl⟩, id⟩, rfl⟩
        exact kept.quiet (started.trans (quiet_note _ rfl))
      · cases taken
  | remoteSettles release success =>
      rw [ClientSession.step] at taken
      split at taken
      · rw [← Option.some.inj taken]
        have settled : Quiet session { session with
            releases := session.releases.set release (.settled success) } :=
          ⟨⟨rfl, rfl, id, Or.inl ⟨rfl, rfl⟩, id⟩, rfl⟩
        exact kept.quiet (settled.trans (quiet_note _ rfl))
      · cases taken
  | settle release =>
      rw [ClientSession.step] at taken
      split at taken
      · next success _ =>
          rw [← Option.some.inj taken]
          have done : Quiet session { session with
              releases := session.releases.set release (.done success) } :=
            ⟨⟨rfl, rfl, id, Or.inl ⟨rfl, rfl⟩, id⟩, rfl⟩
          simp only [ClientSession.settle]
          split
          · exact kept.quiet done
          · have given : Quiet session { session with
                releases := session.releases.set release (.done success)
                closePromise := Option.none } :=
              ⟨⟨rfl, rfl, id, Or.inl ⟨rfl, rfl⟩, id⟩, rfl⟩
            exact kept.quiet (given.trans (quiet_report app _ _))
      · cases taken

end

theorem kept_of_runs {app : Application} {events : List Event}
    {session : ClientSession}
    (run : (machine app).Runs (Attends app) events session) : session.Kept := by
  refine run.invariant (fun _ state => state.Kept) kept_initial ?_
  intro _ _ _ _ _ kept attends taken
  exact kept.step app attends taken

/-- Messages are delivered in their order, none twice to one listener; until
the session closes none is dropped, and what waits is on its way as soon as
somebody listens. -/
theorem session_queue {app : Application} {events : List Event}
    {session : ClientSession}
    (run : (machine app).Runs (Attends app) events session) :
    InOrder session.deliveries ∧
      (session.closing = false → session.NoneDropped ∧ session.Scheduled) := by
  have kept := kept_of_runs run
  exact ⟨kept.ordered.inOrder, fun isOpen =>
    ⟨kept.none isOpen, kept.scheduled⟩⟩

/-- Two messages come before anybody listens. -/
def earlyMessages : List Event :=
  [.message (.text "a"), .message (.text "b"), .act (.subscribe 0)]

theorem session_queue_sample : ∃ session,
    (machine (answering [.send (.text "ok")])).Runs
        (Attends (answering [.send (.text "ok")])) (earlyMessages ++ [.flush])
        session ∧
      session.deliveries = [(0, 0), (1, 0)] ∧ session.closing = false ∧
      session.NoneDropped := by
  have played := (machine (answering [.send (.text "ok")])).play_get
    (earlyMessages ++ [.flush]) (by decide)
  have meets : (machine (answering [.send (.text "ok")])).Meets
      (Attends (answering [.send (.text "ok")])) initial
        (earlyMessages ++ [.flush]) := by
    refine ⟨trivial, fun _ one => ⟨trivial, fun _ two => ⟨trivial,
      fun _ three => ⟨?_, fun _ _ => trivial⟩⟩⟩⟩
    cases one
    cases two
    cases three
    intro _
    exact Or.inr ⟨nofun, Or.inr ⟨nofun, trivial⟩⟩
  have run := Machine.runs_of_play meets played
  exact ⟨_, run, rfl, rfl, ((session_queue run).2 rfl).1⟩

/-- The listener takes itself off at the first of two messages that wait: the
second is gone. -/
theorem message_dropped : ¬ ∀ app events session,
    (machine app).Reaches events session → InOrder session.deliveries ∧
      (session.closing = false → session.NoneDropped ∧ session.Scheduled) := by
  intro all
  have played := (machine (answering [.unsubscribe 0])).play_get
    (earlyMessages ++ [.flush]) (by decide)
  have dropped := ((all _ _ _ (Machine.reaches_of_play played)).2 rfl).1 1
    (by decide)
  rcases dropped with waits | ⟨listener, delivered⟩
  · cases waits
  · rcases List.mem_singleton.mp delivered
end ClientSession

end Sdk

end GpuLink
