import GpuLink.Store.EventListener

/-!
# Liveness of the listener

While no stored connection breaks and no stop meets a start, subscribers have a
listener: whoever waits for one has a call under way, and a client is only taken
when nobody is left.
-/

namespace GpuLink

namespace PostgresPersistence

variable (persistence : PostgresPersistence)

/-! ## Runs without disturbance -/

/-- The stored connection does not break, and the subscribers do not run out
while a start is under way, nor, by a call that failed, while a listener is
kept. -/
structure Undisturbed (event : Event) : Prop where
  kept : ∀ {client}, event = .lost client →
    persistence.eventListenerClient ≠ some client
  unsubscribed : ∀ {call listener}, event = .unsubscribe call →
    persistence.calls call = some (.subscribed listener) →
      persistence.closed = false →
        (persistence.deleteSubscriber listener).eventSubscribers = [] →
          persistence.eventListenerPromise = none
  refused : ∀ {call listener}, event = .proceeded call →
    persistence.calls call = some (.refused listener) →
      persistence.closed = false →
        (persistence.deleteSubscriber listener).eventSubscribers = [] →
          persistence.eventListenerClient = none ∧
            persistence.eventListenerPromise = none

/-- The start of the client has not settled. -/
def Pending (client : Nat) : Prop :=
  ∃ state, persistence.clients client = some state ∧
    state.start.isSettled = false

def Fulfilled (client : Nat) : Prop :=
  ∃ state, persistence.clients client = some state ∧ state.start = .fulfilled

def Rejected (client : Nat) : Prop :=
  ∃ state, persistence.clients client = some state ∧ state.start = .rejected

/-- A call of `subscribeToEvents` is under way for the listener. -/
inductive Awaits (listener : Nat) : Prop where
  | starts {id client : Nat}
      (call : persistence.calls id = some (.starts listener client))
  | joins {id client : Nat}
      (call : persistence.calls id = some (.joins listener client))
      (shared : persistence.eventListenerPromise = some client ∨
        persistence.Rejected client)
  | refused {id : Nat} (call : persistence.calls id = some (.refused listener))

/-- The client is being stopped. -/
def Unlistens (client : Nat) : Prop :=
  (∃ id, persistence.calls id = some (.stops (.unlisten client))) ∨
    persistence.closePromise = some (.stops (.unlisten client))

/-- The invariant of the listener. -/
structure Kept : Prop where
  stored : ∀ {client}, persistence.eventListenerClient = some client →
    persistence.clients client = some ⟨.fulfilled, .listens⟩
  shared : ∀ {client}, persistence.eventListenerPromise = some client →
    (persistence.clients client).isSome
  pending : ∀ {client}, persistence.Pending client →
    persistence.eventListenerPromise = some client
  started : ∀ {id listener client},
    persistence.calls id = some (.starts listener client) →
      persistence.eventListenerPromise = some client
  single : ∀ {id other listener second client},
    persistence.calls id = some (.starts listener client) →
      persistence.calls other = some (.starts second client) → id = other
  taken : ∀ {client}, persistence.Unlistens client →
    persistence.Fulfilled client ∧ persistence.eventListenerClient ≠ some client

/-- The invariant while the persistence is open. -/
structure Open : Prop where
  fulfilled : ∀ {client}, persistence.eventListenerPromise = some client →
    persistence.Fulfilled client →
      persistence.eventListenerClient = some client
  awaited : persistence.eventListenerClient = none →
    ∀ listener ∈ persistence.eventSubscribers, persistence.Awaits listener
  unused : persistence.eventSubscribers = [] →
    persistence.eventListenerClient = none ∧
      persistence.eventListenerPromise = none
  unstopped : ∀ {id client},
    persistence.calls id ≠ some (.stops (.start client))
  closing : persistence.closePromise = none

/-- The invariant from `close` on. -/
structure Closes : Prop where
  stored : persistence.eventListenerClient.isSome →
    persistence.closePromise = some .initialization ∨
      ∃ client, persistence.closePromise = some (.stops (.start client))
  pending : ∀ {client}, persistence.Pending client →
    persistence.closePromise = some .initialization ∨
      persistence.closePromise = some (.stops (.start client))

structure Consistent : Prop where
  kept : persistence.Kept
  isOpen : persistence.closed = false → persistence.Open
  closes : persistence.closed = true → persistence.Closes

variable {persistence}

/-! ### A client whose state changes -/

theorem setClient_cases {client other : Nat} {state last : ListenerClient}
    (found : (persistence.setClient client state).clients other = some last) :
    (other = client ∧ last = state) ∨
      (other ≠ client ∧ persistence.clients other = some last) := by
  by_cases same : other = client
  · subst same
    exact .inl ⟨rfl, Option.some.inj (found.symm.trans setClient_self)⟩
  · exact .inr ⟨same, (setClient_of_ne same).symm.trans found⟩

section SetClient

variable {client : Nat} {before after : ListenerClient}

theorem setClient_pending (found : persistence.clients client = some before)
    (settled : after.start.isSettled = false → before.start.isSettled = false)
    {other : Nat} (pending : (persistence.setClient client after).Pending other) :
    persistence.Pending other := by
  obtain ⟨last, now, unsettled⟩ := pending
  rcases setClient_cases now with ⟨rfl, rfl⟩ | ⟨_, was⟩
  · exact ⟨before, found, settled unsettled⟩
  · exact ⟨last, was, unsettled⟩

theorem setClient_start (found : persistence.clients client = some before)
    {start : Start} (kept : before.start = start → after.start = start)
    {other : Nat} (was : ∃ state, persistence.clients other = some state ∧
      state.start = start) :
    ∃ state, (persistence.setClient client after).clients other = some state ∧
      state.start = start := by
  obtain ⟨state, was, isStart⟩ := was
  by_cases same : other = client
  · subst same
    cases found.symm.trans was
    exact ⟨after, setClient_self, kept isStart⟩
  · exact ⟨state, (setClient_of_ne same).trans was, isStart⟩

theorem Kept.setClient (kept : persistence.Kept)
    (found : persistence.clients client = some before)
    (settled : after.start.isSettled = false → before.start.isSettled = false)
    (fulfilled : before.start = .fulfilled → after.start = .fulfilled)
    (stored : persistence.eventListenerClient = some client →
      after = ⟨.fulfilled, .listens⟩) :
    (persistence.setClient client after).Kept where
  stored {other} now := by
    by_cases same : other = client
    · subst same
      rw [stored now]
      exact setClient_self
    · exact (setClient_of_ne same).trans (kept.stored now)
  shared {other} now := by
    by_cases same : other = client
    · subst same
      rw [setClient_self]
      rfl
    · rw [setClient_of_ne same]
      exact kept.shared now
  pending pending := kept.pending (setClient_pending found settled pending)
  started := kept.started
  single := kept.single
  taken unlistens := by
    obtain ⟨was, apart⟩ := kept.taken unlistens
    exact ⟨setClient_start found fulfilled was, apart⟩

/-- The state of a client changes, but does not become `fulfilled`. -/
theorem Consistent.setClient (consistent : persistence.Consistent)
    (found : persistence.clients client = some before)
    (settled : after.start.isSettled = false → before.start.isSettled = false)
    (fulfilled : before.start = .fulfilled ↔ after.start = .fulfilled)
    (rejected : before.start = .rejected → after.start = .rejected)
    (stored : persistence.eventListenerClient = some client →
      after = ⟨.fulfilled, .listens⟩) :
    (persistence.setClient client after).Consistent where
  kept := consistent.kept.setClient found settled fulfilled.mp stored
  isOpen isOpen := by
    have opened := consistent.isOpen isOpen
    refine ⟨?_, ?_, opened.unused, opened.unstopped, opened.closing⟩
    · intro other shared now
      apply opened.fulfilled shared
      obtain ⟨last, now, isFulfilled⟩ := now
      rcases setClient_cases now with ⟨rfl, rfl⟩ | ⟨_, was⟩
      · exact ⟨before, found, fulfilled.mpr isFulfilled⟩
      · exact ⟨last, was, isFulfilled⟩
    · intro none listener member
      cases opened.awaited none listener member with
      | starts call => exact .starts call
      | joins call shared =>
          refine .joins call ?_
          rcases shared with shared | was
          · exact .inl shared
          · exact .inr (setClient_start found rejected was)
      | refused call => exact .refused call
  closes closed := by
    have closes := consistent.closes closed
    refine ⟨closes.stored, ?_⟩
    intro other pending
    exact closes.pending (setClient_pending found settled pending)

end SetClient

/-! ### A call whose state changes -/

section SetCall

variable {id : Nat} {now : Option Call}

theorem setCall_cases {other : Nat} {call : Call}
    (found : (persistence.setCall id now).calls other = some call) :
    (other = id ∧ now = some call) ∨
      (other ≠ id ∧ persistence.calls other = some call) := by
  by_cases same : other = id
  · subst same
    exact .inl ⟨rfl, setCall_self.symm.trans found⟩
  · exact .inr ⟨same, (setCall_of_ne same).symm.trans found⟩

theorem Kept.setCall (kept : persistence.Kept)
    (starts : ∀ listener client, now ≠ some (.starts listener client))
    (unlistens : ∀ {client}, now = some (.stops (.unlisten client)) →
      persistence.Fulfilled client ∧
        persistence.eventListenerClient ≠ some client) :
    (persistence.setCall id now).Kept where
  stored := kept.stored
  shared := kept.shared
  pending := kept.pending
  started call := by
    rcases setCall_cases call with ⟨_, is⟩ | ⟨_, was⟩
    · exact absurd is (starts _ _)
    · exact kept.started was
  single first second := by
    rcases setCall_cases first with ⟨_, is⟩ | ⟨_, first⟩
    · exact absurd is (starts _ _)
    · rcases setCall_cases second with ⟨_, is⟩ | ⟨_, second⟩
      · exact absurd is (starts _ _)
      · exact kept.single first second
  taken now := by
    rcases now with ⟨other, now⟩ | now
    · rcases setCall_cases now with ⟨_, is⟩ | ⟨_, was⟩
      · exact unlistens is
      · exact kept.taken (.inl ⟨other, was⟩)
    · exact kept.taken (.inr now)

/-- Calls that have got their listener count for nothing. -/
theorem Awaits.setCall {listener : Nat} (awaits : persistence.Awaits listener)
    (idle : ∀ {call}, persistence.calls id = some call →
      call.isStarting = false) : (persistence.setCall id now).Awaits listener := by
  have apart : ∀ {other call}, persistence.calls other = some call →
      call.isStarting = true →
        (persistence.setCall id now).calls other = some call := by
    intro other call found starting
    refine (setCall_of_ne ?_).trans found
    intro same
    subst same
    rw [idle found] at starting
    cases starting
  cases awaits with
  | starts call => exact .starts (apart call rfl)
  | joins call shared => exact .joins (apart call rfl) shared
  | refused call => exact .refused (apart call rfl)

theorem Open.setCall (opened : persistence.Open)
    (idle : ∀ {call}, persistence.calls id = some call →
      call.isStarting = false)
    (unstopped : ∀ client, now ≠ some (.stops (.start client))) :
    (persistence.setCall id now).Open where
  fulfilled := opened.fulfilled
  awaited none listener member := (opened.awaited none listener member).setCall
    idle
  unused := opened.unused
  unstopped call := by
    rcases setCall_cases call with ⟨_, is⟩ | ⟨_, was⟩
    · exact unstopped _ is
    · exact opened.unstopped was
  closing := opened.closing

theorem Closes.setCall (closes : persistence.Closes) :
    (persistence.setCall id now).Closes :=
  ⟨closes.stored, closes.pending⟩

/-- A call goes on that has got its listener, or stops one that has been
taken. -/
theorem Consistent.setCall (consistent : persistence.Consistent)
    (idle : ∀ {call}, persistence.calls id = some call →
      call.isStarting = false)
    (starts : ∀ {call}, now = some call → call.isStarting = false)
    (stops : ∀ {stop}, now = some (.stops stop) → ∃ client failed,
      stop = .ending client failed) :
    (persistence.setCall id now).Consistent where
  kept := by
    apply consistent.kept.setCall
    · intro listener client is
      cases starts is
    · intro client is
      obtain ⟨_, _, same⟩ := stops is
      cases same
  isOpen isOpen := by
    apply (consistent.isOpen isOpen).setCall idle
    intro client is
    obtain ⟨_, _, same⟩ := stops is
    cases same
  closes closed := (consistent.closes closed).setCall

end SetCall

/-! ### The start -/

theorem Fulfilled.settled {client : Nat} (fulfilled : persistence.Fulfilled client) :
    ¬persistence.Pending client := by
  rintro ⟨state, found, unsettled⟩
  obtain ⟨other, same, isFulfilled⟩ := fulfilled
  cases found.symm.trans same
  rw [isFulfilled] at unsettled
  cases unsettled

theorem not_pending_of_isSettled {client : Nat}
    (settled : persistence.isSettled client = true) :
    ¬persistence.Pending client := by
  rintro ⟨state, found, unsettled⟩
  rw [isSettled, found] at settled
  exact Bool.false_ne_true (unsettled.symm.trans settled)

/-- A start that has settled is fulfilled, or its waiters are refused. -/
theorem outcome_cases {client : Nat} (settled : persistence.isSettled client = true)
    (listener : Nat) :
    (persistence.outcome client listener = .ensured listener ∧
        persistence.Fulfilled client) ∨
      (persistence.outcome client listener = .refused listener ∧
        persistence.Rejected client) := by
  cases found : persistence.clients client with
  | none =>
      rw [isSettled, found] at settled
      cases settled
  | some state =>
      rw [isSettled, found] at settled
      rw [outcome, found]
      obtain ⟨start, connection⟩ := state
      cases start with
      | fulfilled => exact .inl ⟨rfl, ⟨_, found, rfl⟩⟩
      | rejected => exact .inr ⟨rfl, ⟨_, found, rfl⟩⟩
      | connecting | listening | ending => cases settled

theorem Rejected.not_fulfilled {client : Nat}
    (rejected : persistence.Rejected client) : ¬persistence.Fulfilled client := by
  rintro ⟨state, found, fulfilled⟩
  obtain ⟨other, same, isRejected⟩ := rejected
  cases found.symm.trans same
  rw [isRejected] at fulfilled
  cases fulfilled

theorem outcome_isStopping (client listener : Nat) :
    (persistence.outcome client listener).isStopping = false := by
  unfold outcome
  split_ifs
  · rfl
  · rfl

theorem outcome_starts (client listener : Nat) (other second : Nat) :
    persistence.outcome client listener ≠ .starts other second := by
  unfold outcome
  split_ifs
  · intro same
    cases same
  · intro same
    cases same

theorem Kept.outcome (kept : persistence.Kept) (id client listener : Nat) :
    (persistence.setCall id
      (some (persistence.outcome client listener))).Kept := by
  apply kept.setCall
  · intro other second same
    exact outcome_starts _ _ _ _ (Option.some.inj same)
  · intro other same
    have stopping := @outcome_isStopping persistence client listener
    rw [Option.some.inj same] at stopping
    cases stopping

/-- A call that shares the start goes on. -/
theorem Consistent.joined {id listener client : Nat}
    (consistent : persistence.Consistent)
    (call : persistence.calls id = some (.joins listener client))
    (settled : persistence.isSettled client = true) :
    (persistence.setCall id
      (some (persistence.outcome client listener))).Consistent where
  kept := consistent.kept.outcome id client listener
  isOpen isOpen := by
    have opened := consistent.isOpen isOpen
    refine ⟨opened.fulfilled, ?_, opened.unused, ?_, opened.closing⟩
    · intro none other member
      rcases opened.awaited none other member with
        @⟨other', _, was⟩ | @⟨other', second, was, shared⟩ | @⟨other', was⟩
      · have apart : other' ≠ id := by
          rintro rfl
          cases call.symm.trans was
        exact .starts ((setCall_of_ne apart).trans was)
      · by_cases same : other' = id
        · subst same
          cases call.symm.trans was
          rcases outcome_cases settled listener with
            ⟨_, fulfilled⟩ | ⟨refused, _⟩
          · rcases shared with shared | rejected
            · cases none.symm.trans (opened.fulfilled shared fulfilled)
            · exact absurd fulfilled rejected.not_fulfilled
          · exact .refused (setCall_self.trans (congrArg some refused))
        · exact .joins ((setCall_of_ne same).trans was) shared
      · have apart : other' ≠ id := by
          rintro rfl
          cases call.symm.trans was
        exact .refused ((setCall_of_ne apart).trans was)
    · intro other second now
      rcases setCall_cases now with ⟨_, is⟩ | ⟨_, was⟩
      · have stopping := @outcome_isStopping persistence client
          listener
        rw [Option.some.inj is] at stopping
        cases stopping
      · exact opened.unstopped was
  closes closed := (consistent.closes closed).setCall

/-- The start is no longer shared. -/
theorem Kept.unshared (kept : persistence.Kept) {client : Nat}
    (shared : persistence.eventListenerPromise = some client)
    (settled : ¬persistence.Pending client) {id listener : Nat}
    (call : persistence.calls id = some (.starts listener client))
    {now : Call} (starts : ∀ other second, now ≠ .starts other second)
    (stopping : now.isStopping = false) :
    ({ persistence with eventListenerPromise := none }.setCall id
      (some now)).Kept where
  stored := kept.stored
  shared none := by cases none
  pending {other} pending := by
    cases shared.symm.trans (kept.pending pending)
    exact absurd pending settled
  started {other second third} found := by
    rcases setCall_cases found with ⟨_, is⟩ | ⟨apart, was⟩
    · exact absurd (Option.some.inj is) (starts _ _)
    · cases shared.symm.trans (kept.started was)
      exact absurd (kept.single was call) apart
  single first second := by
    rcases setCall_cases first with ⟨_, is⟩ | ⟨_, first⟩
    · exact absurd (Option.some.inj is) (starts _ _)
    · rcases setCall_cases second with ⟨_, is⟩ | ⟨_, second⟩
      · exact absurd (Option.some.inj is) (starts _ _)
      · exact kept.single first second
  taken now := by
    rcases now with ⟨other, found⟩ | closing
    · rcases setCall_cases found with ⟨_, is⟩ | ⟨_, was⟩
      · rw [Option.some.inj is] at stopping
        cases stopping
      · exact kept.taken (.inl ⟨other, was⟩)
    · exact kept.taken (.inr closing)

/-- The call that has made the start goes on. -/
theorem Consistent.started {id listener client : Nat}
    (consistent : persistence.Consistent)
    (call : persistence.calls id = some (.starts listener client))
    (settled : persistence.isSettled client = true) :
    ({ persistence with eventListenerPromise := none }.setCall id
      (some (persistence.outcome client listener))).Consistent where
  kept := consistent.kept.unshared (consistent.kept.started call)
    (not_pending_of_isSettled settled) call (outcome_starts _ _)
    (outcome_isStopping _ _)
  isOpen isOpen := by
    have opened := consistent.isOpen isOpen
    have shared := consistent.kept.started call
    refine ⟨(fun none => by cases none), ?_, ?_, ?_, opened.closing⟩
    · intro none other member
      rcases outcome_cases settled listener with
        ⟨_, fulfilled⟩ | ⟨refused, rejected⟩
      · cases none.symm.trans (opened.fulfilled shared fulfilled)
      rcases opened.awaited none other member with
        @⟨other', second, was⟩ | @⟨other', second, was, isShared⟩ |
          @⟨other', was⟩
      · cases shared.symm.trans (consistent.kept.started was)
        cases consistent.kept.single was call
        cases call.symm.trans was
        exact .refused (setCall_self.trans (congrArg some refused))
      · have apart : other' ≠ id := by
          rintro rfl
          cases call.symm.trans was
        refine .joins ((setCall_of_ne apart).trans was) (.inr ?_)
        rcases isShared with isShared | already
        · cases shared.symm.trans isShared
          exact rejected
        · exact already
      · have apart : other' ≠ id := by
          rintro rfl
          cases call.symm.trans was
        exact .refused ((setCall_of_ne apart).trans was)
    · intro empty
      cases shared.symm.trans (opened.unused empty).2
    · intro other second now
      rcases setCall_cases now with ⟨_, is⟩ | ⟨_, was⟩
      · have stopping := @outcome_isStopping persistence client
          listener
        rw [Option.some.inj is] at stopping
        cases stopping
      · exact opened.unstopped was
  closes closed :=
    ⟨(consistent.closes closed).stored, (consistent.closes closed).pending⟩

/-- `LISTEN` has been executed, and the client is stored. -/
theorem Consistent.listens {client : Nat} (consistent : persistence.Consistent)
    (pending : persistence.Pending client) :
    ({ persistence.setClient client ⟨.fulfilled, .listens⟩ with
      eventListenerClient := some client }).Consistent := by
  have shared := consistent.kept.pending pending
  obtain ⟨state, found, unsettled⟩ := pending
  have was : ∀ {other}, (persistence.setClient client
      ⟨.fulfilled, .listens⟩).Pending other → other ≠ client ∧
        persistence.Pending other := by
    rintro other ⟨last, now, unsettled⟩
    rcases setClient_cases now with ⟨_, rfl⟩ | ⟨apart, was⟩
    · cases unsettled
    · exact ⟨apart, ⟨last, was, unsettled⟩⟩
  have none_left : ∀ {other}, ¬(persistence.setClient client
      ⟨.fulfilled, .listens⟩).Pending other := by
    intro other pending
    obtain ⟨apart, pending⟩ := was pending
    cases shared.symm.trans (consistent.kept.pending pending)
    exact apart rfl
  refine ⟨⟨?_, ?_, ?_, consistent.kept.started, consistent.kept.single, ?_⟩,
    ?_, ?_⟩
  · intro other now
    cases now
    exact setClient_self
  · intro other now
    cases shared.symm.trans now
    exact Option.isSome_iff_exists.mpr ⟨_, setClient_self⟩
  · intro other pending
    exact absurd pending none_left
  · intro other unlistens
    have earlier := (consistent.kept.taken unlistens).1
    refine ⟨setClient_start found (fun _ => rfl) earlier, ?_⟩
    intro same
    cases same
    exact earlier.settled ⟨state, found, unsettled⟩
  · intro isOpen
    have opened := consistent.isOpen isOpen
    refine ⟨?_, (fun none => by cases none), ?_, opened.unstopped,
      opened.closing⟩
    · intro other now _
      cases shared.symm.trans now
      rfl
    · intro empty
      cases shared.symm.trans (opened.unused empty).2
  · intro closed
    refine ⟨?_, (fun pending => absurd pending none_left)⟩
    intro _
    rcases (consistent.closes closed).pending ⟨state, found, unsettled⟩ with
      early | stops
    · exact .inl early
    · exact .inr ⟨client, stops⟩

/-! ### The subscribers -/

theorem awaits_subscribers {subscribers : List Nat} {listener : Nat}
    (awaits : persistence.Awaits listener) :
    ({ persistence with eventSubscribers := subscribers }).Awaits listener := by
  cases awaits with
  | starts call => exact .starts call
  | joins call shared => exact .joins call shared
  | refused call => exact .refused call

theorem addSubscriber_eq (listener : Nat) : ∃ subscribers,
    persistence.addSubscriber listener =
      { persistence with eventSubscribers := subscribers } ∧
    subscribers ≠ [] ∧
    ∀ other ∈ subscribers, other = listener ∨
      other ∈ persistence.eventSubscribers := by
  unfold addSubscriber
  split_ifs with member
  · exact ⟨_, rfl, List.ne_nil_of_mem member, fun _ member => .inr member⟩
  · refine ⟨_, rfl, List.append_ne_nil_of_right_ne_nil _ (List.cons_ne_nil _ _),
      ?_⟩
    intro other member
    rcases List.mem_append.mp member with was | new
    · exact .inr was
    · exact .inl (List.mem_singleton.mp new)

/-- A call of `subscribeToEvents` begins. -/
theorem Consistent.subscribeToEvents {call listener client : Nat}
    (consistent : persistence.Consistent)
    (free : persistence.calls call = none)
    (fresh : persistence.clients client = none) :
    (persistence.subscribeToEvents call listener client).Consistent := by
  unfold PostgresPersistence.subscribeToEvents
  split_ifs with ready
  swap
  · exact consistent
  have isOpen : persistence.closed = false := by
    rw [assertReady, Bool.and_eq_true, Bool.not_eq_true'] at ready
    exact ready.1
  have kept := consistent.kept
  have opened := consistent.isOpen isOpen
  obtain ⟨subscribers, same, nonempty, members⟩ :=
    @addSubscriber_eq persistence listener
  have idle : ∀ {other}, persistence.calls call = some other →
      other.isStarting = false := by
    intro other found
    cases free.symm.trans found
  have busy : ∀ {id other}, persistence.calls id = some other → id ≠ call := by
    rintro id other found rfl
    cases free.symm.trans found
  have shut : ∀ {state : PostgresPersistence},
      state.closed = persistence.closed → state.closed = true →
        state.Closes := by
    intro state equal closed
    cases isOpen.symm.trans (equal.symm.trans closed)
  rw [same]
  have added : ({ persistence with
      eventSubscribers := subscribers }).Kept :=
    ⟨kept.stored, kept.shared, kept.pending, kept.started, kept.single,
      kept.taken⟩
  unfold ensureEventListener
  split_ifs with isStored
  · refine ⟨?_, (fun _ => ?_), shut rfl⟩
    · apply added.setCall
      · intro other second now
        cases now
      · intro other now
        cases now
    · refine ⟨opened.fulfilled, ?_, (fun empty => absurd empty nonempty), ?_,
        opened.closing⟩
      · intro absent
        rw [show persistence.eventListenerClient = none from absent] at isStored
        cases isStored
      · intro other second now
        rcases setCall_cases now with ⟨_, is⟩ | ⟨_, was⟩
        · cases is
        · exact opened.unstopped was
  have unstored : persistence.eventListenerClient = none :=
    Option.not_isSome_iff_eq_none.mp isStored
  split
  · rename_i first shared
    refine ⟨?_, (fun _ => ?_), shut rfl⟩
    · apply added.setCall
      · intro other second now
        cases now
      · intro other now
        cases now
    · refine ⟨opened.fulfilled, ?_, (fun empty => absurd empty nonempty), ?_,
        opened.closing⟩
      · intro _ other member
        rcases members other member with rfl | was
        · exact .joins setCall_self (.inl shared)
        · exact (awaits_subscribers (opened.awaited unstored other was)).setCall
            idle
      · intro other second now
        rcases setCall_cases now with ⟨_, is⟩ | ⟨_, was⟩
        · cases is
        · exact opened.unstopped was
  · rename_i shared
    have unshared : persistence.eventListenerPromise = none := shared
    have none_starts : ∀ {other listener second},
        persistence.calls other ≠ some (.starts listener second) := by
      intro other listener second found
      cases unshared.symm.trans (kept.started found)
    have none_pending : ∀ {other}, ¬persistence.Pending other := by
      intro other pending
      cases unshared.symm.trans (kept.pending pending)
    have apart : ∀ {other state}, persistence.clients other = some state →
        other ≠ client := by
      rintro other state found rfl
      cases fresh.symm.trans found
    have kept_start : ∀ {other start}, (∃ state,
        persistence.clients other = some state ∧ state.start = start) →
          ∃ state, (persistence.setClient client
            ⟨.connecting, .opening⟩).clients other = some state ∧
              state.start = start := by
      rintro other start ⟨state, found, is⟩
      exact ⟨state, (setClient_of_ne (apart found)).trans found, is⟩
    refine ⟨⟨?_, ?_, ?_, ?_, ?_, ?_⟩, (fun _ => ?_), shut rfl⟩
    · intro other now
      cases unstored.symm.trans now
    · intro other now
      cases now
      exact Option.isSome_iff_exists.mpr ⟨_, setClient_self⟩
    · rintro other ⟨state, found, unsettled⟩
      rcases setClient_cases found with ⟨rfl, _⟩ | ⟨_, was⟩
      · rfl
      · exact absurd ⟨state, was, unsettled⟩ none_pending
    · intro other second third found
      rcases setCall_cases found with ⟨_, is⟩ | ⟨_, was⟩
      · cases is
        rfl
      · exact absurd was none_starts
    · intro other second third fourth fifth first later
      rcases setCall_cases first with ⟨rfl, _⟩ | ⟨_, was⟩
      · rcases setCall_cases later with ⟨rfl, _⟩ | ⟨_, was⟩
        · rfl
        · exact absurd was none_starts
      · exact absurd was none_starts
    · intro other unlistens
      have earlier : persistence.Unlistens other := by
        rcases unlistens with ⟨id, found⟩ | closing
        · rcases setCall_cases found with ⟨_, is⟩ | ⟨_, was⟩
          · cases is
          · exact .inl ⟨id, was⟩
        · exact .inr closing
      refine ⟨kept_start (kept.taken earlier).1, ?_⟩
      intro now
      cases unstored.symm.trans now
    · refine ⟨?_, ?_, (fun empty => absurd empty nonempty), ?_,
        opened.closing⟩
      · intro other now fulfilled
        cases now
        obtain ⟨state, found, is⟩ := fulfilled
        cases setClient_self.symm.trans found
        cases is
      · intro _ other member
        rcases members other member with rfl | was
        · exact .starts setCall_self
        · cases opened.awaited unstored other was with
          | starts found => exact absurd found none_starts
          | joins found isShared =>
              refine .joins ((setCall_of_ne (busy found)).trans found) (.inr ?_)
              rcases isShared with isShared | rejected
              · cases unshared.symm.trans isShared
              · exact kept_start rejected
          | refused found =>
              exact .refused ((setCall_of_ne (busy found)).trans found)
      · intro other second now
        rcases setCall_cases now with ⟨_, is⟩ | ⟨_, was⟩
        · cases is
        · exact opened.unstopped was

/-- `subscribeToEvents` throws, and its listener is deleted. -/
theorem Consistent.refused {call listener : Nat}
    (consistent : persistence.Consistent)
    (found : persistence.calls call = some (.refused listener))
    (last : persistence.closed = false →
      (persistence.deleteSubscriber listener).eventSubscribers = [] →
        persistence.eventListenerClient = none ∧
          persistence.eventListenerPromise = none) :
    ((persistence.deleteSubscriber listener).setCall call none).Consistent where
  kept := by
    have deleted : (persistence.deleteSubscriber listener).Kept :=
      ⟨consistent.kept.stored, consistent.kept.shared, consistent.kept.pending,
        consistent.kept.started, consistent.kept.single, consistent.kept.taken⟩
    apply deleted.setCall
    · intro other second now
      cases now
    · intro other now
      cases now
  isOpen isOpen := by
    have opened := consistent.isOpen isOpen
    refine ⟨opened.fulfilled, ?_, last isOpen, ?_, opened.closing⟩
    · intro absent other member
      obtain ⟨was, different⟩ := List.mem_filter.mp member
      have apart : ∀ {id state}, persistence.calls id = some state →
          state ≠ .refused listener →
            ((persistence.deleteSubscriber listener).setCall call none).calls
              id = some state := by
        intro id state held changed
        refine (setCall_of_ne ?_).trans held
        rintro rfl
        exact changed (Option.some.inj (held.symm.trans found))
      cases opened.awaited absent other was with
      | starts held => exact .starts (apart held (by simp))
      | joins held shared => exact .joins (apart held (by simp)) shared
      | refused held =>
          refine .refused (apart held ?_)
          intro same
          cases same
          exact (of_decide_eq_true different) rfl
    · intro other second now
      rcases setCall_cases now with ⟨_, is⟩ | ⟨_, was⟩
      · cases is
      · exact opened.unstopped was
  closes closed :=
    ⟨(consistent.closes closed).stored, (consistent.closes closed).pending⟩

/-! ### Stopping the listener -/

/-- What a stop leaves behind: it awaits the start, or it has taken the client. -/
inductive Stopping (before after : PostgresPersistence) (stop : Option Stop) :
    Prop where
  | awaits {client : Nat} (same : after = before)
      (shared : before.eventListenerPromise = some client)
      (stop : stop = some (.start client))
  | takes (same : after = { before with eventListenerClient := none })
      (stop : stop = before.eventListenerClient.map .unlisten)

theorem stopEventListener_stopping :
    Stopping persistence persistence.stopEventListener.1
      persistence.stopEventListener.2 := by
  unfold stopEventListener
  split
  · rename_i client shared
    exact .awaits rfl shared rfl
  · exact .takes rfl rfl

theorem Stopping.unlistens {before after : PostgresPersistence}
    {stop : Option Stop} (stopping : Stopping before after stop)
    (kept : before.Kept) {client : Nat}
    (unlistens : stop = some (.unlisten client)) :
    after.Fulfilled client ∧ after.eventListenerClient ≠ some client := by
  cases stopping with
  | awaits _ _ is =>
      rw [is] at unlistens
      cases unlistens
  | takes same is =>
      rw [is] at unlistens
      obtain ⟨stored, was, now⟩ := Option.map_eq_some_iff.mp unlistens
      cases now
      rw [same]
      exact ⟨⟨_, kept.stored was, rfl⟩, by simp⟩

theorem Stopping.kept {before after : PostgresPersistence} {stop : Option Stop}
    (stopping : Stopping before after stop) (kept : before.Kept) :
    after.Kept := by
  cases stopping with
  | awaits same => rwa [same]
  | takes same =>
      rw [same]
      refine ⟨(fun now => by cases now), kept.shared, kept.pending,
        kept.started, kept.single, ?_⟩
      intro client unlistens
      exact ⟨(kept.taken unlistens).1, by simp⟩

/-- The stop goes into the record of its call. -/
theorem Stopping.setCall {before after : PostgresPersistence}
    {stop : Option Stop} (stopping : Stopping before after stop)
    (kept : before.Kept) (call : Nat) :
    (after.setCall call (stop.map .stops)).Kept := by
  apply (stopping.kept kept).setCall
  · intro listener client now
    obtain ⟨stop, _, is⟩ := Option.map_eq_some_iff.mp now
    cases is
  · intro client now
    obtain ⟨stop, is, same⟩ := Option.map_eq_some_iff.mp now
    cases same
    exact stopping.unlistens kept is

theorem Consistent.unsubscribe {call listener : Nat}
    (consistent : persistence.Consistent)
    (found : persistence.calls call = some (.subscribed listener))
    (last : persistence.closed = false →
      (persistence.deleteSubscriber listener).eventSubscribers = [] →
        persistence.eventListenerPromise = none) :
    (persistence.unsubscribe call listener).Consistent := by
  have kept := consistent.kept
  have deleted : (persistence.deleteSubscriber listener).Kept :=
    ⟨kept.stored, kept.shared, kept.pending, kept.started, kept.single,
      kept.taken⟩
  have idle : ∀ {other}, persistence.calls call = some other →
      other.isStarting = false := by
    intro other held
    cases found.symm.trans held
    rfl
  unfold PostgresPersistence.unsubscribe
  simp only
  split_ifs with empty
  · have stopping := @stopEventListener_stopping
      (persistence.deleteSubscriber listener)
    refine ⟨stopping.setCall deleted call, ?_, ?_⟩
    · intro isOpen
      have wasOpen : persistence.closed = false := by
        cases stopping with
        | awaits same => rwa [same] at isOpen
        | takes same => rwa [same] at isOpen
      have opened := consistent.isOpen wasOpen
      have unshared := last wasOpen empty
      cases stopping with
      | awaits _ shared => cases unshared.symm.trans shared
      | takes same is =>
          rw [is, same]
          refine ⟨?_, ?_, (fun _ => ⟨rfl, unshared⟩), ?_, opened.closing⟩
          · intro client shared
            cases unshared.symm.trans shared
          · intro _ other member
            rw [show (persistence.deleteSubscriber listener).eventSubscribers =
              [] from empty] at member
            cases member
          · intro id client now
            rcases setCall_cases now with ⟨_, now⟩ | ⟨_, was⟩
            · obtain ⟨stop, now, equal⟩ := Option.map_eq_some_iff.mp now
              cases equal
              obtain ⟨_, _, now⟩ := Option.map_eq_some_iff.mp now
              cases now
            · exact opened.unstopped was
    · intro closed
      cases stopping with
      | awaits same =>
          rw [same] at closed ⊢
          have closes := consistent.closes closed
          exact ⟨closes.stored, closes.pending⟩
      | takes same =>
          rw [same] at closed ⊢
          have closes := consistent.closes closed
          exact ⟨(fun now => by cases now), closes.pending⟩
  · refine ⟨?_, ?_, ?_⟩
    · apply deleted.setCall
      · intro other second now
        cases now
      · intro other now
        cases now
    · intro isOpen
      have opened := consistent.isOpen isOpen
      refine ⟨opened.fulfilled, ?_, (fun none => absurd none empty), ?_,
        opened.closing⟩
      · intro absent other member
        have was := (List.mem_filter.mp member).1
        exact (awaits_subscribers (opened.awaited absent other was)).setCall idle
      · intro other second now
        rcases setCall_cases now with ⟨_, is⟩ | ⟨_, was⟩
        · cases is
        · exact opened.unstopped was
    · intro closed
      exact ⟨(consistent.closes closed).stored,
        (consistent.closes closed).pending⟩

/-- A client whose start has settled is taken, after `close`. -/
theorem Kept.takes (kept : persistence.Kept)
    (closed : persistence.closed = true)
    (pending : ∀ {client}, persistence.Pending client →
      persistence.closePromise = some .initialization ∨
        persistence.closePromise = some (.stops (.start client))) :
    persistence.takeEventListener.1.Consistent where
  kept := (Stopping.takes rfl rfl).kept kept
  isOpen isOpen := by
    cases closed.symm.trans isOpen
  closes _ := ⟨(fun now => by cases now), pending⟩

theorem isSettled_of_resumeStop {client : Nat} {succeeded : Bool}
    {result : PostgresPersistence × Option Stop × Bool}
    (resumed : persistence.resumeStop (.start client) succeeded = some result) :
    persistence.isSettled client = true ∧
      result = (persistence.takeEventListener.1,
        persistence.takeEventListener.2, false) := by
  rw [resumeStop, Option.ite_none_right_eq_some] at resumed
  obtain ⟨settled, same⟩ := resumed
  exact ⟨settled, (Option.some.inj same).symm⟩

/-- The client that has been taken is ended. -/
theorem Consistent.ends {client : Nat} {state : ListenerClient}
    (consistent : persistence.Consistent)
    (unlistens : persistence.Unlistens client)
    (found : persistence.clients client = some state) :
    (persistence.setClient client { state with
      connection := .ended }).Consistent := by
  have apart := (consistent.kept.taken unlistens).2
  exact consistent.setClient found (fun unsettled => unsettled) Iff.rfl
    (fun rejected => rejected) (fun stored => absurd stored apart)

theorem Consistent.stopSettled {call : Nat} {stop : Stop} {succeeded : Bool}
    {result : PostgresPersistence × Option Stop × Bool}
    (consistent : persistence.Consistent)
    (found : persistence.calls call = some (.stops stop))
    (resumed : persistence.resumeStop stop succeeded = some result) :
    (result.1.setCall call (result.2.1.map .stops)).Consistent := by
  cases stop with
  | start client =>
      obtain ⟨settled, rfl⟩ := isSettled_of_resumeStop resumed
      have closed : persistence.closed = true := by
        by_contra isOpen
        exact (consistent.isOpen (eq_false_of_ne_true isOpen)).unstopped
          found
      have taken := consistent.kept.takes closed
        (consistent.closes closed).pending
      refine ⟨?_, ?_, ?_⟩
      · exact (Stopping.takes rfl rfl).setCall consistent.kept call
      · intro isOpen
        cases closed.symm.trans isOpen
      · intro _
        exact (taken.closes closed).setCall
  | unlisten client =>
      obtain ⟨state, known, resumed⟩ := Option.bind_eq_some_iff.mp resumed
      rw [Option.ite_none_left_eq_some] at resumed
      obtain ⟨_, same⟩ := resumed
      cases same
      apply (consistent.ends (.inl ⟨call, found⟩) known).setCall
      · intro other held
        cases found.symm.trans held
        rfl
      · intro other now
        cases now
        rfl
      · intro stop now
        cases now
        exact ⟨_, _, rfl⟩
  | ending client failed =>
      cases resumed
      apply consistent.setCall
      · intro other held
        cases found.symm.trans held
        rfl
      · intro other now
        cases now
      · intro stop now
        cases now

/-! ### Closing -/

theorem Kept.closing (kept : persistence.Kept) {closing : Closing}
    (unlistens : ∀ {client}, closing = .stops (.unlisten client) →
      persistence.Fulfilled client ∧
        persistence.eventListenerClient ≠ some client) :
    ({ persistence with closePromise := some closing }).Kept where
  stored := kept.stored
  shared := kept.shared
  pending := kept.pending
  started := kept.started
  single := kept.single
  taken now := by
    rcases now with call | now
    · exact kept.taken (.inl call)
    · exact unlistens (Option.some.inj now)

theorem closing_unlisten {stop : Option Stop} {failed : Bool} {client : Nat}
    (same : closing stop failed = .stops (.unlisten client)) :
    stop = some (.unlisten client) := by
  unfold closing at same
  split at same
  · cases same
    rfl
  · split_ifs at same

/-- After the listener has been taken `close` goes on. -/
theorem Consistent.closing (consistent : persistence.Consistent)
    {was now : Closing} (marked : persistence.closePromise = some was)
    (early : was ≠ .initialization)
    (stopping : ∀ client, was ≠ .stops (.start client))
    (unlistens : ∀ client, now ≠ .stops (.unlisten client)) :
    ({ persistence with closePromise := some now }).Consistent := by
  have closed : persistence.closed = true := by
    by_contra isOpen
    have none := (consistent.isOpen (eq_false_of_ne_true isOpen)).closing
    cases none.symm.trans marked
  have closes := consistent.closes closed
  refine ⟨?_, ?_, ?_⟩
  · apply consistent.kept.closing
    intro client same
    exact absurd same (unlistens client)
  · intro isOpen
    cases closed.symm.trans isOpen
  · intro _
    constructor
    · intro stored
      rcases closes.stored stored with first | ⟨client, first⟩
      · exact absurd (Option.some.inj (marked.symm.trans first)) early
      · exact absurd (Option.some.inj (marked.symm.trans first)) (stopping _)
    · intro client pending
      rcases closes.pending pending with first | first
      · exact absurd (Option.some.inj (marked.symm.trans first)) early
      · exact absurd (Option.some.inj (marked.symm.trans first)) (stopping _)

theorem Consistent.closeStopSettled {stop : Stop} {succeeded : Bool}
    {result : PostgresPersistence × Option Stop × Bool}
    (consistent : persistence.Consistent)
    (found : persistence.closePromise = some (.stops stop))
    (resumed : persistence.resumeStop stop succeeded = some result) :
    ({ result.1 with
      closePromise := some (PostgresPersistence.closing result.2.1
        result.2.2) }).Consistent := by
  have closed : persistence.closed = true := by
    by_contra isOpen
    have none := (consistent.isOpen (eq_false_of_ne_true isOpen)).closing
    cases none.symm.trans found
  have closes := consistent.closes closed
  cases stop with
  | start client =>
      obtain ⟨settled, rfl⟩ := isSettled_of_resumeStop resumed
      have takes : Stopping persistence persistence.takeEventListener.1
        persistence.takeEventListener.2 := .takes rfl rfl
      refine ⟨?_, ?_, ?_⟩
      · apply (takes.kept consistent.kept).closing
        intro other same
        exact takes.unlistens consistent.kept (closing_unlisten same)
      · intro isOpen
        cases closed.symm.trans isOpen
      · intro _
        refine ⟨(fun now => by cases now), ?_⟩
        intro other pending
        exfalso
        rcases closes.pending pending with first | first
        · cases found.symm.trans first
        · cases found.symm.trans first
          exact not_pending_of_isSettled settled pending
  | unlisten client =>
      obtain ⟨state, known, resumed⟩ := Option.bind_eq_some_iff.mp resumed
      rw [Option.ite_none_left_eq_some] at resumed
      obtain ⟨_, same⟩ := resumed
      cases same
      have ended := consistent.ends (.inr found) known
      apply ended.closing found
      · simp
      · simp
      · simp [PostgresPersistence.closing]
  | ending client failed =>
      cases resumed
      apply consistent.closing found
      · simp
      · simp
      · intro other
        unfold PostgresPersistence.closing
        split
        · rename_i now
          cases now
        · split_ifs
          · simp
          · simp

theorem Kept.closeSubscribers (kept : persistence.Kept)
    (closed : persistence.closed = true) :
    persistence.closeSubscribers.Consistent := by
  have cleared : ({ persistence with eventSubscribers := [] }).Kept :=
    ⟨kept.stored, kept.shared, kept.pending, kept.started, kept.single,
      kept.taken⟩
  have stopping := @stopEventListener_stopping
    { persistence with eventSubscribers := [] }
  refine ⟨?_, ?_, ?_⟩
  · apply (stopping.kept cleared).closing
    intro client same
    exact stopping.unlistens cleared (closing_unlisten same)
  · intro isOpen
    unfold PostgresPersistence.closeSubscribers at isOpen
    cases stopping with
    | awaits same =>
        simp only [same] at isOpen
        cases closed.symm.trans isOpen
    | takes same =>
        simp only [same] at isOpen
        cases closed.symm.trans isOpen
  · intro _
    unfold PostgresPersistence.closeSubscribers stopEventListener
    simp only
    split
    · rename_i client shared
      refine ⟨(fun _ => .inr ⟨client, rfl⟩), ?_⟩
      intro other pending
      cases shared.symm.trans (kept.pending pending)
      exact .inr rfl
    · rename_i shared
      refine ⟨(fun now => by cases now), ?_⟩
      intro other pending
      cases shared.symm.trans (kept.pending pending)

theorem Consistent.close (consistent : persistence.Consistent) :
    persistence.close.Consistent := by
  unfold PostgresPersistence.close
  split_ifs with marked
  · exact consistent
  have closed : ({ persistence with closed := true }).Kept :=
    ⟨consistent.kept.stored, consistent.kept.shared, consistent.kept.pending,
      consistent.kept.started, consistent.kept.single, consistent.kept.taken⟩
  simp only
  split_ifs with awaits
  · refine ⟨?_, (fun isOpen => by cases isOpen), ?_⟩
    · apply closed.closing
      intro client same
      cases same
    · intro _
      exact ⟨(fun _ => .inl rfl), (fun _ => .inl rfl)⟩
  · exact closed.closeSubscribers rfl

/-! ### Runs -/

theorem consistent_initial : initial.Consistent where
  kept :=
    { stored := fun now => by cases now
      shared := fun now => by cases now
      pending := fun pending => by
        obtain ⟨_, now, _⟩ := pending
        cases now
      started := fun now => by cases now
      single := fun now => by cases now
      taken := fun now => by
        rcases now with ⟨_, now⟩ | now
        · cases now
        · cases now }
  isOpen _ :=
    { fulfilled := fun now => by cases now
      awaited := fun _ _ member => by cases member
      unused := fun _ => ⟨rfl, rfl⟩
      unstopped := fun now => by cases now
      closing := rfl }
  closes now := by cases now

theorem Consistent.of_eq {after : PostgresPersistence}
    (consistent : persistence.Consistent)
    (subscribers : after.eventSubscribers = persistence.eventSubscribers)
    (stored : after.eventListenerClient = persistence.eventListenerClient)
    (shared : after.eventListenerPromise = persistence.eventListenerPromise)
    (closed : after.closed = persistence.closed)
    (closing : after.closePromise = persistence.closePromise)
    (clients : after.clients = persistence.clients)
    (calls : after.calls = persistence.calls) : after.Consistent := by
  cases persistence
  cases after
  cases subscribers
  cases stored
  cases shared
  cases closed
  cases closing
  cases clients
  cases calls
  obtain ⟨kept, isOpen, closes⟩ := consistent
  refine ⟨⟨kept.stored, kept.shared, kept.pending, kept.started, kept.single,
    kept.taken⟩, ?_, ?_⟩
  · intro now
    have opened := isOpen now
    refine ⟨opened.fulfilled, ?_, opened.unused, opened.unstopped,
      opened.closing⟩
    intro absent listener member
    cases opened.awaited absent listener member with
    | starts call => exact .starts call
    | joins call shared => exact .joins call shared
    | refused call => exact .refused call
  · intro now
    exact ⟨(closes now).stored, (closes now).pending⟩

theorem Consistent.advance {client : Nat} {expected : Start}
    {change : ListenerClient → Option ListenerClient}
    {after : PostgresPersistence} (consistent : persistence.Consistent)
    (advanced : persistence.advance client expected change = some after)
    (unsettled : expected.isSettled = false)
    (unfulfilled : ∀ {before last}, change before = some last →
      last.start ≠ .fulfilled) : after.Consistent := by
  obtain ⟨state, found, going⟩ := Option.bind_eq_some_iff.mp advanced
  rw [Option.ite_none_right_eq_some] at going
  obtain ⟨rfl, going⟩ := going
  obtain ⟨last, changed, rfl⟩ := Option.map_eq_some_iff.mp going
  have settled : ∀ {start : Start}, start.isSettled = true →
      state.start ≠ start := by
    rintro start settled rfl
    cases unsettled.symm.trans settled
  apply consistent.setClient found (fun _ => unsettled)
  · exact ⟨fun was => absurd was (settled rfl),
      fun now => absurd now (unfulfilled changed)⟩
  · intro was
    exact absurd was (settled rfl)
  · intro stored
    have same := found.symm.trans (consistent.kept.stored stored)
    cases same
    cases unsettled

theorem Consistent.step {event : Event} {after : PostgresPersistence}
    (consistent : persistence.Consistent)
    (undisturbed : persistence.Undisturbed event)
    (taken : persistence.step event = some after) : after.Consistent := by
  cases event with
  | initializing =>
      cases taken
      unfold beginInitialize
      split_ifs
      · exact consistent
      · exact consistent.of_eq rfl rfl rfl rfl rfl rfl rfl
  | initializeSettled succeeded =>
      rw [PostgresPersistence.step, Option.ite_none_right_eq_some] at taken
      obtain ⟨_, taken⟩ := taken
      split_ifs at taken
      · cases taken
        exact consistent.of_eq rfl rfl rfl rfl rfl rfl rfl
      · cases taken
        exact consistent.of_eq rfl rfl rfl rfl rfl rfl rfl
  | subscribe call listener client =>
      rw [PostgresPersistence.step, Option.ite_none_right_eq_some] at taken
      obtain ⟨⟨free, fresh⟩, taken⟩ := taken
      cases taken
      exact consistent.subscribeToEvents (Option.isNone_iff_eq_none.mp free)
        (Option.isNone_iff_eq_none.mp fresh)
  | connectSettled client succeeded =>
      apply consistent.advance taken rfl
      intro before last changed
      unfold connectSettled at changed
      split_ifs at changed
      · cases changed
        simp
      · cases changed
        simp
  | listenSettled client succeeded =>
      obtain ⟨middle, advanced, rfl⟩ := Option.map_eq_some_iff.mp taken
      cases succeeded with
      | false =>
          apply consistent.advance advanced rfl
          intro before last changed
          cases changed
          simp
      | true =>
          obtain ⟨state, found, advanced⟩ := Option.bind_eq_some_iff.mp advanced
          rw [Option.ite_none_right_eq_some] at advanced
          obtain ⟨isListening, advanced⟩ := advanced
          obtain ⟨last, changed, rfl⟩ := Option.map_eq_some_iff.mp advanced
          rw [listenSettled, if_pos rfl, Option.ite_none_right_eq_some] at changed
          obtain ⟨_, changed⟩ := changed
          cases changed
          apply consistent.listens
          exact ⟨state, found, by rw [isListening]; rfl⟩
  | endSettled client =>
      apply consistent.advance taken rfl
      intro before last changed
      cases changed
      simp
  | started call =>
      rw [PostgresPersistence.step] at taken
      split at taken
      · rename_i listener client found
        rw [Option.ite_none_right_eq_some] at taken
        obtain ⟨settled, taken⟩ := taken
        cases taken
        exact consistent.started found settled
      · cases taken
  | joined call =>
      rw [PostgresPersistence.step] at taken
      split at taken
      · rename_i listener client found
        rw [Option.ite_none_right_eq_some] at taken
        obtain ⟨settled, taken⟩ := taken
        cases taken
        exact consistent.joined found settled
      · cases taken
  | proceeded call =>
      rw [PostgresPersistence.step] at taken
      split at taken
      · rename_i listener found
        cases taken
        apply consistent.setCall
        · intro other held
          cases found.symm.trans held
          rfl
        · intro other now
          cases now
          rfl
        · intro stop now
          cases now
      · rename_i listener found
        cases taken
        exact consistent.refused found (undisturbed.refused rfl found)
      · cases taken
  | unsubscribe call =>
      rw [PostgresPersistence.step] at taken
      split at taken
      · rename_i listener found
        cases taken
        exact consistent.unsubscribe found (undisturbed.unsubscribed rfl found)
      · cases taken
  | stopSettled call succeeded =>
      cases call with
      | some call =>
          rw [PostgresPersistence.step] at taken
          split at taken
          · rename_i stop found
            obtain ⟨result, resumed, rfl⟩ := Option.map_eq_some_iff.mp taken
            exact consistent.stopSettled found resumed
          · cases taken
      | none =>
          rw [PostgresPersistence.step] at taken
          split at taken
          · rename_i stop found
            obtain ⟨result, resumed, rfl⟩ := Option.map_eq_some_iff.mp taken
            exact consistent.closeStopSettled found resumed
          · cases taken
  | close =>
      cases taken
      exact consistent.close
  | closeProceeded =>
      rw [PostgresPersistence.step, Option.ite_none_right_eq_some] at taken
      obtain ⟨⟨marked, _⟩, taken⟩ := taken
      cases taken
      apply consistent.kept.closeSubscribers
      by_contra isOpen
      have unmarked :=
        (consistent.isOpen (eq_false_of_ne_true isOpen)).closing
      cases unmarked.symm.trans marked
  | poolEnded succeeded =>
      rw [PostgresPersistence.step, Option.ite_none_right_eq_some] at taken
      obtain ⟨marked, taken⟩ := taken
      have done : ∀ closing : Closing,
          (∀ client, closing ≠ .stops (.unlisten client)) →
            ({ persistence with closePromise := some closing }).Consistent :=
        fun closing unlistens => consistent.closing marked (by simp) (by simp)
          unlistens
      split_ifs at taken
      · cases taken
        exact (done .closed (by simp)).of_eq rfl rfl rfl rfl rfl rfl rfl
      · cases taken
        exact done .failed (by simp)
  | lost client =>
      obtain ⟨state, found, taken⟩ := Option.bind_eq_some_iff.mp taken
      rw [Option.ite_none_left_eq_some] at taken
      obtain ⟨_, taken⟩ := taken
      cases taken
      exact consistent.setClient found (fun unsettled => unsettled) Iff.rfl
        (fun rejected => rejected)
        (fun stored => absurd stored (undisturbed.kept rfl))

theorem Consistent.live (consistent : persistence.Consistent) :
    persistence.Live where
  served subscribed isOpen steady := by
    have opened := consistent.isOpen isOpen
    cases stored : persistence.eventListenerClient with
    | some client =>
        exact ⟨client, _, stored, consistent.kept.stored stored, rfl⟩
    | none =>
        obtain ⟨listener, member⟩ := List.exists_mem_of_ne_nil _ subscribed
        cases opened.awaited stored listener member with
        | starts call => cases (steady.calls call).1
        | joins call => cases (steady.calls call).1
        | refused call => cases (steady.calls call).1
  unused empty steady settled := by
    cases closed : persistence.closed with
    | false => exact ((consistent.isOpen closed).unused empty).1
    | true =>
        by_contra stored
        rcases (consistent.closes closed).stored
          (Option.isSome_iff_ne_none.mpr stored) with early | ⟨client, stops⟩
        · cases settled early
        · cases settled stops

/-- Without a disturbance the listener lives as long as it has subscribers. -/
theorem listener_live {events : List Event} {persistence : PostgresPersistence}
    (run : machine.Runs Undisturbed events persistence) : persistence.Live := by
  have consistent : persistence.Consistent :=
    run.invariant (fun _ state => state.Consistent) consistent_initial
      (fun _ consistent undisturbed taken => consistent.step undisturbed taken)
  exact consistent.live

/-! ### Small runs -/

/-- The first subscriber, up to where its listener is stored. -/
def servedRun : List Event :=
  [.initializing, .initializeSettled true, .subscribe 0 7 0,
    .connectSettled 0 true, .listenSettled 0 true, .started 0]

def lostRun : List Event :=
  servedRun ++ [.proceeded 0, .lost 0]

/-- One listener is subscribed by two calls.  The function of the second runs
while a third start is under way, and its stop takes the client of a listener
that shares this start. -/
def takenRun : List Event :=
  [.initializing, .initializeSettled true, .subscribe 0 7 0, .subscribe 1 7 1,
    .connectSettled 0 true, .listenSettled 0 true, .started 0, .joined 1,
    .proceeded 0, .proceeded 1, .unsubscribe 0, .stopSettled (some 0) true,
    .stopSettled (some 0) true, .subscribe 2 7 1, .unsubscribe 1,
    .subscribe 3 8 2, .connectSettled 1 true, .listenSettled 1 true,
    .started 2, .joined 3, .proceeded 2, .proceeded 3,
    .stopSettled (some 1) true, .stopSettled (some 1) true,
    .stopSettled (some 1) true]

/-- The calls of these runs have the first names. -/
theorem steady_of_calls (promise : persistence.eventListenerPromise = none)
    (closing : persistence.closePromise = none)
    (calls : ∀ id, persistence.calls id = none ∨
      ∃ listener, persistence.calls id = some (.ensured listener) ∨
        persistence.calls id = some (.subscribed listener)) :
    persistence.Steady where
  promise := promise
  calls {id call} found := by
    rcases calls id with absent | ⟨listener, ensured | subscribed⟩
    · cases absent.symm.trans found
    · cases ensured.symm.trans found
      exact ⟨rfl, rfl⟩
    · cases subscribed.symm.trans found
      exact ⟨rfl, rfl⟩
  closing now := by cases closing.symm.trans now

/-- The event can disturb no listener. -/
def Event.isPlain : Event → Bool
  | .proceeded _ | .unsubscribe _ | .lost _ => false
  | _ => true

theorem undisturbed_plain {event : Event} (plain : event.isPlain = true)
    (persistence : PostgresPersistence) : persistence.Undisturbed event where
  kept same := by
    rw [same] at plain
    cases plain
  unsubscribed same := by
    rw [same] at plain
    cases plain
  refused same := by
    rw [same] at plain
    cases plain

theorem listener_live_sample : ∃ persistence,
    machine.Runs Undisturbed servedRun persistence ∧
      persistence.Listens := by
  have played := machine.play_get servedRun (by decide)
  have plain : ∀ event ∈ servedRun, event.isPlain = true := by decide
  have run := Machine.runs_of_play (Machine.meets_of_forall
    (fun event member => undisturbed_plain (plain event member)) _) played
  refine ⟨_, run, (listener_live run).served (by decide) (by decide) ?_⟩
  apply steady_of_calls rfl rfl
  intro id
  cases id with
  | zero => exact .inr ⟨7, .inl rfl⟩
  | succ id => exact .inl rfl

/-- A broken connection stays stored, and a stop that has awaited a start takes
the client from those who subscribed meanwhile. -/
theorem listener_dies :
    (∃ persistence, machine.Reaches lostRun persistence ∧ ¬persistence.Live) ∧
      ∃ persistence, machine.Reaches takenRun persistence ∧
        ¬persistence.Live := by
  constructor
  · refine ⟨_, Machine.reaches_of_play (machine.play_get lostRun (by decide)), ?_⟩
    intro live
    obtain ⟨client, state, stored, found, listens⟩ := live.served (by decide)
      (by decide) (steady_of_calls rfl rfl (by
        intro id
        cases id with
        | zero => exact .inr ⟨7, .inr rfl⟩
        | succ id => exact .inl rfl))
    cases stored
    cases found
    cases listens
  · refine ⟨_, Machine.reaches_of_play (machine.play_get takenRun (by decide)),
      ?_⟩
    intro live
    obtain ⟨client, _, stored, _⟩ := live.served (by decide) (by decide)
      (steady_of_calls rfl rfl (by
        intro id
        rcases id with _ | _ | _ | _ | id
        · exact .inl rfl
        · exact .inl rfl
        · exact .inr ⟨7, .inr rfl⟩
        · exact .inr ⟨8, .inr rfl⟩
        · exact .inl rfl))
    cases stored

end PostgresPersistence

end GpuLink
