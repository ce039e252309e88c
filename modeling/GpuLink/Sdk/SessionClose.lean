import GpuLink.Sdk.Session

/-!
# Closing a session

However closes, socket events and the outcomes of releases come about, one
release at most is under way, none follows one that has succeeded, and nothing
is delivered or sent after the first close.
-/

namespace GpuLink

namespace Sdk

def Entry.isSettled : Entry → Bool
  | .settled _ => true
  | _ => false

/-- Entries that say nothing of releases. -/
def Entry.Plain : Entry → Prop
  | .delivered _ _ => True
  | .sent _ => True
  | .reported code => code ≠ .remoteReleaseFailed
  | _ => False

namespace ClientSession

/-! ## The log -/

/-- What may be written after an earlier log. -/
def Allowed (earlier : List Entry) : Entry → Prop
  | .delivered _ _ => ∀ starts, .closed starts ∉ earlier
  | .sent _ => ∀ starts, .closed starts ∉ earlier
  -- A close starts a release unless one is under way or has succeeded.
  | .closed starts => starts = true ↔ earlier.count (.closed true) =
      earlier.count (.reported .remoteReleaseFailed)
  | .called => .settled true ∉ earlier ∧
      earlier.count .called = earlier.countP Entry.isSettled
  | .settled _ => True
  | .reported _ => True

/-! ## The ledger of releases -/

/-- How often the release has been asked for. -/
def calls : Option Release → Nat
  | none => 0
  | some .queued => 0
  | some _ => 1

/-- How often the control plane has answered. -/
def answers : Option Release → Nat
  | some (.settled _) => 1
  | some (.done _) => 1
  | _ => 0

/-- All releases but the last have failed, and the log agrees. -/
structure Ledger (session : ClientSession) (failed : Nat)
    (last : Option Release) : Prop where
  releases : session.releases =
    List.replicate failed (.done false) ++ last.toList
  promise : session.closePromise = last.map (fun _ => failed)
  open_ : last ≠ some (.done false)
  starts : session.log.count (.closed true) = failed + last.toList.length
  called : session.log.count .called = failed + calls last
  settled : session.log.countP Entry.isSettled = failed + answers last
  reported : session.log.count (.reported .remoteReleaseFailed) = failed
  success : .settled true ∈ session.log →
    last = some (.settled true) ∨ last = some (.done true)
  closing : session.closing = true ↔ ∃ starts, .closed starts ∈ session.log
  allowed : Chronological Allowed session.log

def Sound (session : ClientSession) : Prop :=
  ∃ failed last, session.Ledger failed last

theorem sound_initial : initial.Sound := by
  refine ⟨0, none, rfl, rfl, nofun, rfl, rfl, rfl, rfl, nofun, ?_,
    chronological_nil⟩
  exact ⟨nofun, fun some => by obtain ⟨_, none⟩ := some; cases none⟩

/-- The parts of a session that the ledger is about. -/
structure SameBooks (session other : ClientSession) : Prop where
  releases : other.releases = session.releases
  promise : other.closePromise = session.closePromise
  closing : other.closing = session.closing
  log : other.log = session.log

theorem Ledger.same {session other : ClientSession} {failed : Nat}
    {last : Option Release} (ledger : session.Ledger failed last)
    (same : SameBooks session other) : other.Ledger failed last := by
  obtain ⟨releases, promise, closing, log⟩ := same
  exact ⟨releases ▸ ledger.releases, promise ▸ ledger.promise, ledger.open_,
    log ▸ ledger.starts, log ▸ ledger.called, log ▸ ledger.settled,
    log ▸ ledger.reported, log ▸ ledger.success, by
      rw [closing, log]
      exact ledger.closing, log ▸ ledger.allowed⟩

theorem Sound.same {session other : ClientSession} (sound : session.Sound)
    (same : SameBooks session other) : other.Sound := by
  obtain ⟨failed, last, ledger⟩ := sound
  exact ⟨failed, last, ledger.same same⟩

theorem sameBooks_scheduleFlush (session : ClientSession) :
    SameBooks session session.scheduleFlush := by
  unfold scheduleFlush
  split <;> exact ⟨rfl, rfl, rfl, rfl⟩

theorem Sound.scheduleFlush {session other : ClientSession}
    (sound : session.Sound) (same : SameBooks session other) :
    other.scheduleFlush.Sound :=
  (sound.same same).same (sameBooks_scheduleFlush other)

/-- A plain entry leaves the ledger as it is. -/
theorem Sound.note {session : ClientSession} {entry : Entry}
    (sound : session.Sound) (plain : entry.Plain)
    (allowed : Allowed session.log entry) : (session.note entry).Sound := by
  obtain ⟨failed, last, ledger⟩ := sound
  have others : entry ≠ .closed true ∧ entry ≠ .called ∧
      entry ≠ .reported .remoteReleaseFailed ∧ entry ≠ .settled true ∧
      Entry.isSettled entry = false ∧ ∀ starts, entry ≠ .closed starts := by
    cases entry with
    | reported code =>
        refine ⟨nofun, nofun, ?_, nofun, rfl, nofun⟩
        intro same
        cases same
        exact plain rfl
    | delivered => exact ⟨nofun, nofun, nofun, nofun, rfl, nofun⟩
    | sent => exact ⟨nofun, nofun, nofun, nofun, rfl, nofun⟩
    | _ => cases plain
  obtain ⟨notStart, notCalled, notReported, notSuccess, notSettled,
    notClosed⟩ := others
  refine ⟨failed, last, ledger.releases, ledger.promise, ledger.open_, ?_, ?_,
    ?_, ?_, ?_, ?_, ledger.allowed.snoc allowed⟩
  · change (session.log ++ [entry]).count _ = _
    rw [List.count_append, List.count_singleton, ledger.starts]
    simp [notStart]
  · change (session.log ++ [entry]).count _ = _
    rw [List.count_append, List.count_singleton, ledger.called]
    simp [notCalled]
  · change (session.log ++ [entry]).countP _ = _
    rw [List.countP_append, List.countP_singleton, ledger.settled]
    simp [notSettled]
  · change (session.log ++ [entry]).count _ = _
    rw [List.count_append, List.count_singleton, ledger.reported]
    simp [notReported]
  · intro member
    rcases List.mem_append.mp member with old | new
    · exact ledger.success old
    · exact (notSuccess (List.mem_singleton.mp new).symm).elim
  · rw [show (session.note entry).closing = session.closing from rfl,
      ledger.closing]
    constructor
    · rintro ⟨starts, old⟩
      exact ⟨starts, List.mem_append_left _ old⟩
    · rintro ⟨starts, member⟩
      rcases List.mem_append.mp member with old | new
      · exact ⟨starts, old⟩
      · exact (notClosed starts (List.mem_singleton.mp new).symm).elim

/-! ## Closes and callbacks -/

/-- A close is written, and a release is asked for unless there is one. -/
theorem Sound.close {session : ClientSession} (sound : session.Sound) :
    session.close.Sound := by
  obtain ⟨failed, last, ledger⟩ := sound
  have success : ∀ starts, .settled true ∈ session.log ++ [.closed starts] →
      .settled true ∈ session.log := by
    intro starts member
    rcases List.mem_append.mp member with old | new
    · exact old
    · cases List.mem_singleton.mp new
  cases last with
  | some release =>
      have promise : session.closePromise = some failed := ledger.promise
      have shape : session.close = ({ session with
          closing := true, pending := [], pendingBytes := 0 } :
            ClientSession).note (.closed false) := by
        simp only [ClientSession.close, promise]
      rw [shape]
      refine ⟨failed, some release, ledger.releases, ledger.promise,
        ledger.open_, ?_, ?_, ?_, ?_, fun member =>
          ledger.success (success false member),
        iff_of_true rfl ⟨false, List.mem_append_right _ List.mem_cons_self⟩,
        ledger.allowed.snoc ?_⟩
      · change (session.log ++ [_]).count _ = _
        rw [List.count_append, ledger.starts]
        rfl
      · change (session.log ++ [_]).count _ = _
        rw [List.count_append, ledger.called]
        rfl
      · change (session.log ++ [_]).countP _ = _
        rw [List.countP_append, ledger.settled]
        rfl
      · change (session.log ++ [_]).count _ = _
        rw [List.count_append, ledger.reported]
        rfl
      · -- The release is still open, so not every one has failed.
        refine iff_of_false nofun ?_
        rw [ledger.starts, ledger.reported]
        simp
  | none =>
      have promise : session.closePromise = none := ledger.promise
      have shape : session.close = ({ session with
          closing := true, pending := [], pendingBytes := 0
          closePromise := some session.releases.length
          releases := session.releases ++ [.queued] } : ClientSession).note
            (.closed true) := by
        simp only [ClientSession.close, promise]
      have length : session.releases.length = failed := by
        rw [ledger.releases]
        simp
      rw [shape]
      refine ⟨failed, some .queued, ?_, congrArg some length, nofun, ?_, ?_, ?_,
        ?_, ?_, iff_of_true rfl ⟨true, List.mem_append_right _ List.mem_cons_self⟩,
        ledger.allowed.snoc ?_⟩
      · change session.releases ++ [.queued] = _
        rw [ledger.releases]
        simp
      · change (session.log ++ [_]).count _ = _
        rw [List.count_append, ledger.starts]
        rfl
      · change (session.log ++ [_]).count _ = _
        rw [List.count_append, ledger.called]
        rfl
      · change (session.log ++ [_]).countP _ = _
        rw [List.countP_append, ledger.settled]
        rfl
      · change (session.log ++ [_]).count _ = _
        rw [List.count_append, ledger.reported]
        rfl
      · intro member
        rcases ledger.success (success true member) with none | none <;>
          cases none
      · refine iff_of_true rfl ?_
        rw [ledger.starts, ledger.reported]
        rfl

theorem not_closed {session : ClientSession} (sound : session.Sound)
    (isOpen : session.closing = false) (starts : Bool) :
    .closed starts ∉ session.log := by
  obtain ⟨failed, last, ledger⟩ := sound
  intro member
  have closing := ledger.closing.mpr ⟨starts, member⟩
  rw [isOpen] at closing
  cases closing

theorem Sound.perform {session : ClientSession} (sound : session.Sound)
    (action : Action) : (session.perform action).Sound := by
  cases action with
  | subscribe listener =>
      simp only [ClientSession.perform, subscribe]
      split
      · exact sound
      · have added : SameBooks session { session with
            messageListeners :=
              if listener ∈ session.messageListeners then
                session.messageListeners
              else session.messageListeners ++ [listener] } :=
          ⟨rfl, rfl, rfl, rfl⟩
        exact sound.scheduleFlush added
  | unsubscribe listener => exact sound.same ⟨rfl, rfl, rfl, rfl⟩
  | send frame =>
      simp only [ClientSession.perform, send]
      split
      · exact sound
      · next isOpen =>
          exact sound.note trivial
            (not_closed sound (Bool.eq_false_iff.mpr isOpen))
  | close => exact sound.close

theorem Sound.performAll {session : ClientSession} (sound : session.Sound)
    (actions : List Action) : (session.performAll actions).Sound := by
  unfold ClientSession.performAll
  induction actions generalizing session with
  | nil => exact sound
  | cons action actions induction => exact induction (sound.perform action)

section

variable {app : Application}

theorem Sound.report {session : ClientSession} (sound : session.Sound)
    {code : SessionErrorCode} (other : code ≠ .remoteReleaseFailed) :
    (session.report app code).Sound := by
  apply Sound.performAll
  apply Sound.note
  · exact sound.same ⟨rfl, rfl, rfl, rfl⟩
  · exact other
  · trivial

theorem Sound.react {session : ClientSession} (sound : session.Sound)
    (reaction : Reaction) {code : SessionErrorCode}
    (other : code ≠ .remoteReleaseFailed) :
    (session.react app reaction code).Sound := by
  simp only [ClientSession.react]
  split
  · exact (sound.performAll _).report other
  · exact sound.performAll _

theorem Sound.callListeners {session : ClientSession} (sound : session.Sound)
    (number : Nat) (listeners : List Nat) :
    (session.callListeners app number listeners).Sound := by
  induction listeners generalizing session with
  | nil => exact sound
  | cons listener listeners induction =>
      rw [ClientSession.callListeners]
      split
      · exact sound
      · next isOpen =>
          have noted := @Sound.note session (.delivered number listener)
            sound trivial (not_closed sound (Bool.eq_false_iff.mpr isOpen))
          exact induction (noted.react _ nofun)

theorem Sound.drain {session : ClientSession} (sound : session.Sound)
    (messages : List (Nat × Frame)) : (session.drain app messages).Sound := by
  induction messages generalizing session with
  | nil => exact sound
  | cons message messages induction =>
      rw [ClientSession.drain]
      split
      · exact sound
      · exact induction (sound.callListeners message.1 _)

/-! ## Events -/

theorem Sound.message {session : ClientSession} (sound : session.Sound)
    (frame : Frame) : (session.message app frame).Sound := by
  have arrived : SameBooks session
      { session with arrivals := session.arrivals + 1 } :=
    ⟨rfl, rfl, rfl, rfl⟩
  have later := sound.same arrived
  simp only [ClientSession.message]
  split
  · exact sound
  · split
    · exact later.callListeners _ _
    · split
      · have other : SessionErrorCode.earlyBufferOverflow ≠
            .remoteReleaseFailed := nofun
        exact (later.report other).close
      · exact later.scheduleFlush ⟨rfl, rfl, rfl, rfl⟩

theorem Sound.flush {session : ClientSession} (sound : session.Sound) :
    (session.flush app).Sound := by
  simp only [ClientSession.flush]
  split
  · exact sound.same ⟨rfl, rfl, rfl, rfl⟩
  · have begun : SameBooks session { session with
        flushQueued := false, pending := [], pendingBytes := 0
        draining := true } := ⟨rfl, rfl, rfl, rfl⟩
    have drained := @Sound.drain app _ (sound.same begun) session.pending
    exact drained.scheduleFlush ⟨rfl, rfl, rfl, rfl⟩

theorem Sound.socketClosed {session : ClientSession} (sound : session.Sound) :
    (session.socketClosed app).Sound := by
  simp only [ClientSession.socketClosed]
  split
  · exact sound.react _ nofun
  · exact sound.close.react _ nofun

/-- A release that has not failed is the last one. -/
theorem Ledger.last_eq {session : ClientSession} {failed : Nat}
    {last : Option Release} (ledger : session.Ledger failed last)
    {index : Nat} {release : Release}
    (found : session.releases[index]? = some release)
    (notFailed : release ≠ .done false) :
    index = failed ∧ last = some release := by
  rw [ledger.releases] at found
  by_cases early : index < failed
  · rw [List.getElem?_append_left (by simpa using early),
      List.getElem?_replicate, if_pos early] at found
    exact (notFailed (Option.some.inj found).symm).elim
  · rw [List.getElem?_append_right (by simpa using early),
      List.length_replicate] at found
    cases last with
    | none => cases found
    | some other =>
        have here := List.getElem?_eq_some_iff.mp found
        obtain ⟨bound, same⟩ := here
        have first : index - failed = 0 := by
          simp only [Option.toList_some, List.length_singleton] at bound
          omega
        simp only [Option.toList_some, List.getElem_singleton] at same
        exact ⟨by omega, congrArg some same⟩

theorem Ledger.set {session : ClientSession} {failed : Nat} {old : Release}
    (ledger : session.Ledger failed (some old)) (release : Release) :
    session.releases.set failed release =
      List.replicate failed (.done false) ++ [release] := by
  rw [ledger.releases, List.set_append_right _ _ (by simp)]
  simp

theorem Sound.callRemote {session : ClientSession} (sound : session.Sound)
    {index : Nat} (queued : session.releases[index]? = some .queued) :
    (({ session with releases := session.releases.set index .running } :
      ClientSession).note .called).Sound := by
  obtain ⟨failed, last, ledger⟩ := sound
  obtain ⟨rfl, rfl⟩ := ledger.last_eq queued nofun
  have noSuccess : .settled true ∉ session.log := by
    intro member
    rcases ledger.success member with none | none <;> cases none
  refine ⟨index, some .running, ledger.set .running, ledger.promise, nofun, ?_,
    ?_, ?_, ?_, ?_, ?_, ledger.allowed.snoc ⟨noSuccess, ?_⟩⟩
  · change (session.log ++ [_]).count _ = _
    rw [List.count_append, ledger.starts]
    rfl
  · change (session.log ++ [_]).count _ = _
    rw [List.count_append, ledger.called]
    rfl
  · change (session.log ++ [_]).countP _ = _
    rw [List.countP_append, ledger.settled]
    rfl
  · change (session.log ++ [_]).count _ = _
    rw [List.count_append, ledger.reported]
    rfl
  · intro member
    rcases List.mem_append.mp member with old | new
    · exact (noSuccess old).elim
    · cases List.mem_singleton.mp new
  · change session.closing = true ↔ ∃ starts, _ ∈ session.log ++ [_]
    rw [ledger.closing]
    simp
  · rw [ledger.called, ledger.settled]
    rfl

theorem Sound.remoteSettles {session : ClientSession} (sound : session.Sound)
    {index : Nat} (running : session.releases[index]? = some .running)
    (success : Bool) :
    (({ session with
      releases := session.releases.set index (.settled success) } :
        ClientSession).note (.settled success)).Sound := by
  obtain ⟨failed, last, ledger⟩ := sound
  obtain ⟨rfl, rfl⟩ := ledger.last_eq running nofun
  refine ⟨index, some (.settled success), ledger.set _, ledger.promise, nofun,
    ?_, ?_, ?_, ?_, ?_, ?_, ledger.allowed.snoc trivial⟩
  · change (session.log ++ [_]).count _ = _
    rw [List.count_append, ledger.starts]
    cases success <;> rfl
  · change (session.log ++ [_]).count _ = _
    rw [List.count_append, ledger.called]
    cases success <;> rfl
  · change (session.log ++ [_]).countP _ = _
    rw [List.countP_append, ledger.settled]
    rfl
  · change (session.log ++ [_]).count _ = _
    rw [List.count_append, ledger.reported]
    cases success <;> rfl
  · intro member
    rcases List.mem_append.mp member with old | new
    · rcases ledger.success old with none | none <;> cases none
    · cases List.mem_singleton.mp new
      exact Or.inl rfl
  · change session.closing = true ↔ ∃ starts, _ ∈ session.log ++ [_]
    rw [ledger.closing]
    simp

/-- A release that has failed is reported, and its promise is given up. -/
theorem Sound.settle {session : ClientSession} (sound : session.Sound)
    {index : Nat} {success : Bool}
    (settled : session.releases[index]? = some (.settled success)) :
    (session.settle app index success).Sound := by
  obtain ⟨failed, last, ledger⟩ := sound
  obtain ⟨rfl, rfl⟩ := ledger.last_eq settled nofun
  cases success with
  | true =>
      refine ⟨index, some (.done true), ledger.set _, ledger.promise, nofun,
        ledger.starts, ledger.called, ledger.settled, ledger.reported,
        fun _ => Or.inr rfl, ledger.closing, ledger.allowed⟩
  | false =>
      apply Sound.performAll
      have noSuccess : .settled true ∉ session.log := by
        intro member
        rcases ledger.success member with none | none <;> cases none
      refine ⟨index + 1, none, ?_, rfl, nofun, ?_, ?_, ?_, ?_, ?_, ?_,
        ledger.allowed.snoc trivial⟩
      · change session.releases.set index (.done false) = _
        rw [ledger.set, List.replicate_succ']
        simp
      · change (session.log ++ [_]).count _ = _
        rw [List.count_append, ledger.starts]
        rfl
      · change (session.log ++ [_]).count _ = _
        rw [List.count_append, ledger.called]
        rfl
      · change (session.log ++ [_]).countP _ = _
        rw [List.countP_append, ledger.settled]
        rfl
      · change (session.log ++ [_]).count _ = _
        rw [List.count_append, ledger.reported]
        rfl
      · intro member
        rcases List.mem_append.mp member with old | new
        · exact (noSuccess old).elim
        · cases List.mem_singleton.mp new
      · change session.closing = true ↔ ∃ starts, _ ∈ session.log ++ [_]
        rw [ledger.closing]
        simp

theorem Sound.step {session after : ClientSession} (sound : session.Sound)
    {event : Event} (taken : step app session event = some after) :
    after.Sound := by
  cases event with
  | message frame => exact Option.some.inj taken ▸ sound.message frame
  | act action => exact Option.some.inj taken ▸ sound.perform action
  | flush =>
      rw [ClientSession.step] at taken
      split at taken
      · exact Option.some.inj taken ▸ sound.flush
      · cases taken
  | socketClosed => exact Option.some.inj taken ▸ sound.socketClosed
  | callRemote release =>
      rw [ClientSession.step] at taken
      split at taken
      · next queued => exact Option.some.inj taken ▸ sound.callRemote queued
      · cases taken
  | remoteSettles release success =>
      rw [ClientSession.step] at taken
      split at taken
      · next running =>
          exact Option.some.inj taken ▸ sound.remoteSettles running success
      · cases taken
  | settle release =>
      rw [ClientSession.step] at taken
      split at taken
      · next settled => exact Option.some.inj taken ▸ sound.settle settled
      · cases taken

theorem sound_of_reaches {events : List Event} {session : ClientSession}
    (run : (machine app).Reaches events session) : session.Sound := by
  refine run.invariant (fun _ state => state.Sound) sound_initial ?_
  intro _ _ _ _ _ sound _ taken
  exact sound.step taken

end

/-- A close that starts a release is answered with a call of the control plane,
or the microtask that makes the call is queued. -/
theorem Sound.started {session : ClientSession} (sound : session.Sound) :
    session.log.count (.closed true) =
      session.log.count .called + session.releases.count .queued := by
  obtain ⟨failed, last, ledger⟩ := sound
  have queued : session.releases.count .queued = last.toList.count .queued := by
    rw [ledger.releases, List.count_append, List.count_replicate]
    simp
  rw [queued, ledger.starts, ledger.called]
  cases last with
  | none => rfl
  | some release => cases release <;> simp [calls]

/-- One release at most is under way, none follows one that has succeeded, a
close starts one exactly if all before have failed, and nothing is delivered or
sent after the first close. -/
theorem session_close {app : Application} {events : List Event}
    {session : ClientSession} (run : (machine app).Reaches events session) :
    Chronological Allowed session.log ∧
      session.log.count .called ≤ session.log.countP Entry.isSettled + 1 ∧
      session.log.count (.closed true) =
        session.log.count .called + session.releases.count .queued ∧
      ∀ release, session.releases[release]? = some .queued →
        ((machine app).step session (.callRemote release)).isSome := by
  have sound := sound_of_reaches run
  refine ⟨?_, ?_, sound.started, ?_⟩
  · obtain ⟨_, _, ledger⟩ := sound
    exact ledger.allowed
  · obtain ⟨failed, last, ledger⟩ := sound
    rw [ledger.called, ledger.settled]
    rcases last with _ | _ | _ | _ | _ <;> simp only [calls, answers] <;> omega
  · intro release queued
    simp only [machine, step, if_pos queued, Option.isSome_some]

/-- A message is answered; then nobody listens, until one more message has come
than is kept. -/
def sampleOverflow : List Event :=
  [.act (.subscribe 0), .message (.text "a"), .act (.unsubscribe 0)] ++
    List.replicate 257 (.message (.text "b"))

/-- Nothing is delivered or sent any more; a release fails, one succeeds, and a
close comes after it. -/
def sampleCloses : List Event :=
  [.act (.subscribe 0), .message (.text "c"), .act (.send (.text "late")),
    .callRemote 0, .remoteSettles 0 false, .settle 0, .socketClosed,
    .act .close, .callRemote 1, .remoteSettles 1 true, .settle 1, .act .close]

def sampleLog : List Entry :=
  [.delivered 0 0, .sent (.text "ok"), .reported .earlyBufferOverflow,
    .closed true, .called, .settled false, .reported .remoteReleaseFailed,
    .closed true, .called, .settled true, .closed false]

theorem session_close_sample : ∃ session,
    (machine (answering [.send (.text "ok")])).Reaches
        (sampleOverflow ++ sampleCloses) session ∧
      session.log = sampleLog ∧ Chronological Allowed session.log := by
  have played : ((machine (answering [.send (.text "ok")])).play
      (sampleOverflow ++ sampleCloses)).map ClientSession.log =
        some sampleLog := by decide +kernel
  obtain ⟨session, played, logged⟩ := Option.map_eq_some_iff.mp played
  have run := Machine.reaches_of_play played
  exact ⟨session, run, logged, (session_close run).1⟩

end ClientSession

end Sdk

end GpuLink
