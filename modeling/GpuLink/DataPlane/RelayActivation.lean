import GpuLink.DataPlane.RelayProgress

/-!
# What a session is activated for

Between the calls that authorize a pair and the call that activates its session
the entry may close.  Where no socket of it is disturbed meanwhile, the session
is activated for a pair that is there.
-/

namespace GpuLink

open DataPlane Service

namespace Relay

/-! ## What a revalidation looks at -/

/-- The entry whose calls are under way, and those after it. -/
def Revalidation.ids (pass : Revalidation) : List Nat :=
  (pass.current.map Prod.fst).toList ++ pass.rest

/-- The entries of a pass are active, or have been. -/
def Watching (relay : Relay) : Prop :=
  ∀ pass, relay.revalidation = some pass → ∀ id ∈ pass.ids,
    ∃ entry, relay.entries id = some entry ∧ entry.active = true

theorem nextEntry_ids {relay : Relay} {rest : List Nat} {pass : Revalidation}
    (now : (relay.nextEntry rest).revalidation = some pass) :
    ∀ id ∈ pass.ids, id ∈ rest := by
  unfold nextEntry at now
  split at now
  · cases now
    simp [Revalidation.ids]
  · split at now
    · cases now
      intro id member
      exact member
    · cases now
      simp [Revalidation.ids]

theorem activeEntries_active {relay : Relay} {id : Nat}
    (member : id ∈ relay.activeEntries) :
    ∃ entry, relay.entries id = some entry ∧ entry.active = true ∧
      entry.closed = false := by
  have kept := (List.mem_filter.mp member).2
  cases found : relay.entries id with
  | none =>
      rw [found] at kept
      cases kept
  | some entry =>
      simp only [found, Option.any_some, Bool.and_eq_true,
        Bool.not_eq_true'] at kept
      exact ⟨entry, rfl, kept⟩

section Step

variable {before after : Relay}

theorem Watching.scheduled (watching : Watching before) :
    Watching before.scheduleRevalidation := by
  intro pass now
  rw [(scheduleRevalidation_samePairs before).entries]
  unfold scheduleRevalidation at now
  split_ifs at now
  · exact watching pass now
  · exact watching pass now
  · intro id member
    obtain ⟨entry, found, active, _⟩ :=
      activeEntries_active (nextEntry_ids now id member)
    exact ⟨entry, found, active⟩

theorem Watching.step {event : Event} (watching : Watching before)
    (sound : Sound before) (taken : before.step event = some after) :
    Watching after := by
  -- Active entries stay active, whatever the event.
  have stays : ∀ {id}, (∃ entry, before.entries id = some entry ∧
      entry.active = true) → ∃ entry, after.entries id = some entry ∧
        entry.active = true := by
    intro id was
    obtain ⟨entry, found, active⟩ := was
    obtain ⟨last, now, grows, _⟩ := (sound.step_changes taken).entries found
    exact ⟨last, now, grows.active active⟩
  have fewer : (∀ pass, after.revalidation = some pass → ∀ id ∈ pass.ids,
      ∃ earlier, before.revalidation = some earlier ∧ id ∈ earlier.ids) →
        Watching after := by
    intro earlier pass now id member
    obtain ⟨other, was, listed⟩ := earlier pass now id member
    exact stays (watching other was id listed)
  cases notRevalidation : event.isRevalidation with
  | false =>
      apply fewer
      rw [sound.step_revalidation taken notRevalidation]
      intro pass now id member
      exact ⟨pass, now, member⟩
  | true =>
      cases event with
      | notified =>
          cases taken
          exact watching.scheduled
      | looked role reply =>
          rw [Relay.step] at taken
          split at taken
          · rename_i id first second rest was
            obtain ⟨answers, _, rfl⟩ := Option.map_eq_some_iff.mp taken
            apply fewer
            intro pass now id member
            cases now
            exact ⟨_, was, member⟩
          · cases taken
      | revalidated =>
          rw [Relay.step, stepRevalidation] at taken
          split at taken
          · rename_i id first second rest was
            split at taken
            · cases taken
            · cases taken
              apply fewer
              intro pass now id member
              cases now
              simp [Revalidation.ids] at member
            · cases taken
              apply fewer
              intro pass now other member
              refine ⟨_, was, ?_⟩
              unfold Relay.resumeRevalidation at now
              split at now
              · rw [was] at now
                cases now
                exact member
              · apply List.mem_append_right
                split_ifs at now
                · exact nextEntry_ids now other member
                · exact nextEntry_ids now other member
          · cases taken
      | settled =>
          rw [Relay.step] at taken
          split at taken
          · cases taken
            unfold Relay.settleRevalidation
            simp only
            split_ifs
            · apply Watching.scheduled
              intro pass now
              cases now
            · intro pass now
              cases now
          · cases taken
      | upgrade | upgraded | granted | authorized | activated | proceeded
      | message | alive | sendFailed | closing | errored | close | peerTimeout
      | idleTimeout | stop | shutDown | terminate => cases notRevalidation

end Step

/-! ## The call of `activateSession` -/

/-- `tryPair` calls `activateSession` for the entry. -/
def CallsActivation (before after : Relay) (id : Nat) : Prop :=
  ∃ client worker first second clientAuthorization workerAuthorization,
    before.pairings id = some ⟨client, worker, .authorizing first second⟩ ∧
      after.pairings id = some ⟨client, worker,
        .activating clientAuthorization workerAuthorization none⟩

/-- The entry is not closed, and both its sockets are registered and open. -/
def LivePair (relay : Relay) (id : Nat) : Prop :=
  ∃ entry client worker, relay.entries id = some entry ∧
    entry.closed = false ∧ entry.client = some client ∧
    entry.worker = some worker ∧ relay.readyStates client = some .OPEN ∧
    relay.readyStates worker = some .OPEN

/-- The event is about a socket of the entry, or shuts the relay down. -/
def Event.disturbs (relay : Relay) (id : Nat) : Event → Prop
  | .message socket _ _ | .sendFailed socket _ | .closing socket
  | .errored socket | .close socket | .peerTimeout socket
  | .idleTimeout socket => relay.IsEntryOf socket id
  | .shutDown | .terminate => True
  | _ => False

/-- While the grants of a pair are being authorized, nothing happens to its
sockets; and a connection that completes a pair finds the other socket open. -/
structure Steady (relay : Relay) (event : Event) : Prop where
  undisturbed : ∀ id client worker first second,
    relay.pairings id = some ⟨client, worker, .authorizing first second⟩ →
      ¬event.disturbs relay id
  completed : ∀ socket client worker destroyed authorization id entry other,
    event = .upgraded socket client worker destroyed →
      authorizeGrant client worker = some authorization →
        relay.pairs.lookup (pairingKey authorization.claims) = some id →
          relay.entries id = some entry →
            entry.slot (otherRole authorization.claims.role) = some other →
              relay.readyStates other = some .OPEN

/-- The pairs whose grants are being authorized are there. -/
def Poised (relay : Relay) : Prop :=
  ∀ id client worker first second,
    relay.pairings id = some ⟨client, worker, .authorizing first second⟩ →
      relay.LivePair id

section Step

variable {before after : Relay}

theorem LivePair.untouched {touched gone : Nat → Prop} {id : Nat}
    (live : LivePair before id) (sound : Sound before)
    (changes : Changes before after touched gone) (outside : ¬touched id) :
    LivePair after id := by
  obtain ⟨entry, client, worker, found, isOpen, inClient, inWorker, clientOpen,
    workerOpen⟩ := live
  obtain ⟨last, now, _, same⟩ := changes.entries found
  rw [same outside] at now
  have still : ∀ {role socket}, entry.slot role = some socket →
      after.readyStates socket = before.readyStates socket := by
    intro role socket held
    obtain ⟨state, known, isEntry, _⟩ := sound.slots found held
    obtain ⟨_, _, _, same⟩ := changes.states known
    rw [isEntry] at same
    exact (same outside).2
  refine ⟨entry, client, worker, now, isOpen, inClient, inWorker, ?_, ?_⟩
  · rw [still (show entry.slot .client = some client from inClient)]
    exact clientOpen
  · rw [still (show entry.slot .worker = some worker from inWorker)]
    exact workerOpen

/-- A pairing that a connection has begun is of two open sockets, when the
other one of them was open. -/
theorem acceptConnection_began (sound : Sound before) {socket : Nat}
    (isOpen : before.readyStates socket = some .OPEN)
    (unmade : before.entries socket = none) (offer : ProtocolOffer)
    (authorization : Authorization)
    (waiting : ∀ {id entry other},
      before.pairs.lookup (pairingKey authorization.claims) = some id →
        before.entries id = some entry →
          entry.slot (otherRole authorization.claims.role) = some other →
            before.readyStates other = some .OPEN)
    {id : Nat} {pairing : Pairing}
    (began : (before.acceptConnection socket offer authorization).pairings id =
      some pairing) :
    before.pairings id = some pairing ∨
      LivePair (before.acceptConnection socket offer authorization) id := by
  obtain ⟨sameReady, sameCore, _, samePairings, _⟩ :=
    before.entryFor_frame socket authorization.claims
  have isKnown : (before.readyStates socket).isSome := by
    rw [isOpen]
    rfl
  obtain ⟨made, entry, found, entryOpen, _⟩ :=
    sound.entryFor isKnown unmade authorization.claims
  -- The other slot of the entry is filled only if the entry was there before.
  have otherOpen : ∀ {other},
      entry.slot (otherRole authorization.claims.role) = some other →
        before.readyStates other = some .OPEN := by
    intro other held
    unfold entryFor at found
    cases search : before.pairs.lookup (pairingKey authorization.claims) with
    | some id =>
        rw [search] at found
        exact waiting search found held
    | none =>
        rw [search] at found
        simp only [Function.update_self, Option.some.injEq] at found
        rw [← found] at held
        cases role : authorization.claims.role <;> rw [role] at held <;>
          cases held
  unfold acceptConnection at began ⊢
  simp only [found] at began ⊢
  cases inSlot : entry.slot authorization.claims.role with
  | some existing =>
      left
      simp only [inSlot, if_pos (made.occupied found entryOpen inSlot)] at began
      rw [(closeSocket_shuts _ _ _ _).pairings, samePairings] at began
      exact began
  | none =>
      simp only [inSlot] at began ⊢
      rcases tryPair_cases ((before.entryFor socket
          authorization.claims).1.occupySlot
            (before.entryFor socket authorization.claims).2 entry socket offer
              authorization.claims)
          (before.entryFor socket authorization.claims).2 with same |
        ⟨now, client, worker, known, stillOpen, _, _, inClient, inWorker, begun⟩
      · left
        rw [same] at began
        exact (congrFun samePairings id).symm.trans began
      · rw [begun] at began ⊢
        by_cases here : id = (before.entryFor socket authorization.claims).2
        · right
          subst here
          have isNow : now =
              entry.setSlot authorization.claims.role (some socket) := by
            have atId : ((before.entryFor socket
                authorization.claims).1.occupySlot
                  (before.entryFor socket authorization.claims).2 entry socket
                    offer authorization.claims).entries
                      (before.entryFor socket authorization.claims).2 =
                some (entry.setSlot authorization.claims.role
                  (some socket)) :=
              Function.update_self _ _ _
            rw [atId] at known
            exact (Option.some.inj known).symm
          have eachOpen : ∀ {role other}, now.slot role = some other →
              before.readyStates other = some .OPEN := by
            intro role other held
            rw [isNow] at held
            rcases eq_or_otherRole authorization.claims.role role with
              same | different
            · rw [same, Entry.slot_setSlot_same] at held
              cases held
              exact isOpen
            · rw [different, Entry.slot_setSlot_other _ (otherRole_ne _)]
                at held
              exact otherOpen held
          refine ⟨{ now with activating := true }, client, worker,
            Function.update_self _ _ _, stillOpen, inClient, inWorker, ?_, ?_⟩
          · have clientOpen :=
              eachOpen (show now.slot .client = some client from inClient)
            rw [← sameReady] at clientOpen
            exact clientOpen
          · have workerOpen :=
              eachOpen (show now.slot .worker = some worker from inWorker)
            rw [← sameReady] at workerOpen
            exact workerOpen
        · left
          simp only [Function.update_of_ne here] at began
          exact (congrFun samePairings id).symm.trans began

theorem Poised.step {event : Event} (poised : Poised before)
    (sound : Sound before) (watching : Watching before)
    (steady : Steady before event) (taken : before.step event = some after) :
    Poised after := by
  intro id client worker first second now
  have changes := sound.step_changes taken
  have elsewhere (outside : ¬event.touches before id) : LivePair after id := by
    rw [changes.pairings outside] at now
    exact (poised id client worker first second now).untouched sound changes
      outside
  cases event with
  | message | sendFailed | closing | errored | close | peerTimeout | idleTimeout
  | shutDown | terminate =>
      rw [sound.step_pairings taken rfl] at now
      exact elsewhere (steady.undisturbed id client worker first second now)
  | upgrade | alive | notified | looked | settled | stop =>
      exact elsewhere (fun touched => touched)
  | revalidated =>
      rw [sound.step_pairings taken rfl] at now
      apply elsewhere
      -- The entries of a pass are active, those of a pairing are not.
      rintro ⟨one, two, rest, pass⟩
      obtain ⟨entry, found, active⟩ :=
        watching _ pass id (List.mem_cons_self)
      obtain ⟨other, known, _, inactive, _⟩ := sound.pairing now
      rw [found] at known
      cases known
      rw [active] at inactive
      cases inactive
  | upgraded socket one two destroyed =>
      have was (known : before.pairings id =
          some ⟨client, worker, .authorizing first second⟩) :
          LivePair after id := by
        apply elsewhere
        intro vacant
        obtain ⟨entry, _, _, found, _, inClient, inWorker, _⟩ :=
          poised id client worker first second known
        obtain ⟨role, empty⟩ := vacant entry found
        cases role with
        | client =>
            rw [show entry.slot .client = entry.client from rfl, inClient]
              at empty
            cases empty
        | worker =>
            rw [show entry.slot .worker = entry.worker from rfl, inWorker]
              at empty
            cases empty
      rw [Relay.step, Option.map_eq_some_iff] at taken
      obtain ⟨offer, known, rfl⟩ := taken
      cases granted : authorizeGrant one two with
      | none =>
          rw [granted] at now was
          exact was now
      | some authorization =>
          rw [granted] at now was
          unfold completeUpgrade at now was ⊢
          simp only at now was ⊢
          split_ifs at now was ⊢
          · exact was now
          · have fresh := sound.upgrading known
            rcases acceptConnection_began (sound.opened fresh)
                (Function.update_self socket _ before.readyStates)
                (sound.unmade fresh) offer authorization
                (fun listed found held => by
                  rename_i other
                  by_cases same : other = socket
                  · rw [same]
                    exact Function.update_self socket _ before.readyStates
                  · exact (Function.update_of_ne same _ _).trans
                      (steady.completed socket one two destroyed authorization
                        _ _ other rfl granted listed found held)) now with
              earlier | live
            · exact was earlier
            · exact live
  | granted other role reply =>
      rw [Relay.step] at taken
      split at taken
      · rename_i oneSocket otherSocket one two was
        obtain ⟨answers, _, rfl⟩ := Option.map_eq_some_iff.mp taken
        by_cases here : id = other
        · rw [here]
          exact poised other oneSocket otherSocket one two was
        · exact elsewhere (fun touched => here touched.symm)
      · cases taken
  | authorized other =>
      by_cases here : id = other
      · subst here
        rw [Relay.step, stepPairing] at taken
        split at taken
        · rename_i entry pairing found was
          split at taken
          · split at taken
            · cases taken
            · cases taken
              rw [refusePairing_pairings] at now
              cases now
            · cases taken
              rename_i one two _
              rcases resumePairing_pairings found pairing one two with
                finished | ⟨_, _, _, _, _, _, called⟩
              · rw [finished] at now
                cases now
              · rw [called] at now
                cases now
          · cases taken
        · cases taken
      · exact elsewhere (fun touched => here touched.symm)
  | activated other accepted =>
      by_cases here : id = other
      · subst here
        rw [Relay.step] at taken
        split at taken
        · cases taken
          simp [setPairing] at now
        · cases taken
      · exact elsewhere (fun touched => here touched.symm)
  | proceeded other =>
      by_cases here : id = other
      · subst here
        rw [Relay.step, stepActivation] at taken
        split at taken
        · rename_i called
          split_ifs at taken
          · cases taken
            obtain ⟨entry, found, _⟩ := sound.pairing called
            rw [activate_pairings found] at now
            cases now
          · cases taken
            rw [refusePairing_pairings] at now
            cases now
        · cases taken
      · exact elsewhere (fun touched => here touched.symm)

end Step

theorem Runs.poised {events : List Event} {relay : Relay}
    (run : machine.Runs Steady events relay) : Poised relay := by
  have all := run.invariant
    (fun _ relay => Sound relay ∧ Watching relay ∧ Poised relay)
    ⟨sound_initial, (fun _ now => by cases now),
      (fun _ _ _ _ _ now => by cases now)⟩
    (fun _ facts steady taken => ⟨facts.1.step taken,
      facts.2.1.step facts.1 taken,
      facts.2.2.step facts.1 facts.2.1 steady taken⟩)
  exact all.2.2

/-- In a run where no pair is disturbed while its grants are authorized, a
session is activated only for a pair that is there. -/
theorem activation_live {events : List Event} {before after : Relay}
    {event : Event} {id : Nat}
    (run : machine.Runs Steady events before)
    (_ : before.step event = some after)
    (calls : CallsActivation before after id) : LivePair before id := by
  obtain ⟨client, worker, first, second, _, _, was, _⟩ := calls
  exact Runs.poised run id client worker first second was

/-- A pair of which one socket may close before the grants are authorized. -/
def pairedRun (between : List Event) : List Event :=
  connectPair 0 1 .v1 sampleId .connecting ++ between ++
    grantPair 0 sampleId .connecting

theorem calls_of_play {events : List Event} {before : Relay}
    {client worker : Nat} {first second : Option Answer}
    {clientAuthorization workerAuthorization : Authorization}
    (played : machine.play events = some before)
    (was : before.pairings 0 = some ⟨client, worker, .authorizing first second⟩)
    (now : (before.step (.authorized 0)).bind (fun after => after.pairings 0) =
      some ⟨client, worker,
        .activating clientAuthorization workerAuthorization none⟩) :
    ∃ after, machine.Reaches events before ∧
      before.step (.authorized 0) = some after ∧
        CallsActivation before after 0 := by
  obtain ⟨after, taken, called⟩ := Option.bind_eq_some_iff.mp now
  exact ⟨after, Machine.reaches_of_play played, taken, client, worker, first, second,
    clientAuthorization, workerAuthorization, was, called⟩

theorem steady_upgraded {relay : Relay} {socket : Nat}
    {client worker : Answer} {destroyed : Bool} {authorization : Authorization}
    (granted : authorizeGrant client worker = some authorization)
    (completed : ((relay.pairs.lookup
      (pairingKey authorization.claims)).bind relay.entries).all (fun entry =>
        (entry.slot (otherRole authorization.claims.role)).all (fun other =>
          relay.readyStates other = some .OPEN)) = true) :
    Steady relay (.upgraded socket client worker destroyed) where
  undisturbed _ _ _ _ _ _ disturbed := disturbed
  completed _ _ _ _ other id entry peer same given listed found held := by
    cases same
    rw [granted] at given
    cases given
    rw [listed, Option.bind_some, found, Option.all_some, held,
      Option.all_some] at completed
    exact of_decide_eq_true completed

/-- A run in which both stay, and the session is activated. -/
theorem activation_live_sample :
    ∃ before, machine.Runs Steady (pairedRun []) before ∧ LivePair before 0 := by
  have played := machine.play_get (pairedRun []) (by decide +kernel)
  obtain ⟨after, _, taken, calls⟩ := calls_of_play played rfl rfl
  have calm : ∀ relay event, (∀ id, ¬Event.disturbs relay id event) →
      (∀ socket client worker destroyed,
        event ≠ .upgraded socket client worker destroyed) →
          Steady relay event := by
    intro relay event undisturbed other
    constructor
    · intro id _ _ _ _ _
      exact undisturbed id
    · intro _ _ _ _ _ _ _ _ same
      cases other _ _ _ _ same
  have meets : machine.Meets Steady initial (pairedRun []) := by
    refine ⟨calm _ _ (fun _ disturbed => disturbed) (by simp), fun _ one =>
      ⟨steady_upgraded rfl ?_, fun _ two =>
        ⟨calm _ _ (fun _ disturbed => disturbed) (by simp), fun _ three =>
          ⟨steady_upgraded rfl ?_, fun _ _ =>
            ⟨calm _ _ (fun _ disturbed => disturbed) (by simp), fun _ _ =>
              ⟨calm _ _ (fun _ disturbed => disturbed) (by simp), fun _ _ =>
                trivial⟩⟩⟩⟩⟩⟩
    · cases one
      rfl
    · cases one
      cases two
      cases three
      rfl
  have run := Machine.runs_of_play meets played
  exact ⟨_, run, activation_live run taken calls⟩

/-- The client has left; its session is activated all the same. -/
theorem activation_after_close :
    ¬ ∀ events before after event id, machine.Reaches events before →
      before.step event = some after → CallsActivation before after id →
        LivePair before id := by
  intro all
  have played := machine.play_get (pairedRun [.close 0]) (by decide +kernel)
  obtain ⟨after, reached, taken, calls⟩ := calls_of_play played rfl rfl
  obtain ⟨entry, _, _, found, isOpen, _⟩ :=
    all _ _ after _ 0 reached taken calls
  have closed : ((machine.play (pairedRun [.close 0])).bind (fun relay =>
      (relay.entries 0).map Entry.closed)) = some true := by decide +kernel
  rw [played, Option.bind_some, found, Option.map_some, isOpen] at closed
  cases closed


end Relay

end GpuLink
