import IosAncs.Client.Moves
import IosAncs.Foundation.Sequential

/-!
The state's name and readiness, over every sequence of calls that each run to their end. The
name agrees with readiness as long as every session is completed out of the state that the
subscription of the Notification Source is named by.
-/
open Runs Sections Client

def AncsClientState.ofLink : AncsClientState → Bool
  | .connected | .encrypting | .bonded | .discoveringAncs | .subscribingDataSource
  | .subscribingNotificationSource | .ancsReady => true
  | .boot | .advertising | .disconnected | .recovering => false

namespace ClientContext

/-- A ready client is named so, and one that is not connected is not named after a link. -/
def NamesAgree (s : ClientContext) : Prop :=
  (s.ready = true → s.state = .ancsReady) ∧ (s.connected = false → s.state.ofLink = false)

instance (s : ClientContext) : Decidable s.NamesAgree :=
  inferInstanceAs (Decidable ((_ → _) ∧ (_ → _)))

/-- What the flags and handles of a session say of one another between two calls. -/
structure SessionSound (s : ClientContext) : Prop where
  searching : s.discoveryInProgress = true → s.ready = false ∧
    s.notificationSourceCccdHandle = invalidHandle ∧ s.notificationSourceHandle = invalidHandle
  pending : s.pendingNotifyHandle ≠ invalidHandle →
    s.pendingNotifyHandle = s.notificationSourceHandle →
    s.notificationSourceHandle ≠ s.dataSourceHandle → s.dataSourceSubscribed = true
  subscribing : s.notificationSourceCccdHandle ≠ invalidHandle →
    s.dataSourceSubscribed = true ∧ s.notificationSourceHandle ≠ s.dataSourceHandle ∧
      (s.pendingNotifyHandle = invalidHandle ∨ s.pendingNotifyHandle = s.notificationSourceHandle) ∧
      (s.notificationSourceCccdHandle ≠ s.dataSourceCccdHandle → s.pendingNotifyHandle = invalidHandle)
  ready : s.ready = true → s.connected = true ∧ s.sessionAuthenticated = true ∧
    s.dataSourceSubscribed = true ∧ s.notificationSourceSubscribed = true ∧
    s.notificationSourceCccdHandle ≠ invalidHandle ∧
    s.notificationSourceCccdHandle ≠ s.dataSourceCccdHandle

structure Preparing (s : ClientContext) : Prop where
  sound : s.SessionSound
  unready : s.ready = false
  connected : s.connected = true

theorem Preparing.agrees {s : ClientContext} (preparing : s.Preparing) : s.NamesAgree :=
  ⟨fun ready => absurd ready (by simp [preparing.unready]),
    fun apart => absurd apart (by simp [preparing.connected])⟩

end ClientContext

namespace ClientMove
variable {label : ClientSection} {env : ClientEnv} {s s' : ClientContext} {move : ClientMove}

/-- The updates that neither name the state, open or end a link, nor make its session ready. -/
def Calm : ClientMove → Prop
  | .named | .connected _ _ | .disconnected | .initFailed | .handlesFound | .subscribing _
  | .cccdFound | .notificationSubscribed => False
  | _ => True

structure SameSession (s s' : ClientContext) : Prop where
  connected : s'.connected = s.connected
  ready : s'.ready = true → s.ready = true
  sound : s.SessionSound → s'.SessionSound

theorem sameSession_trans {s'' : ClientContext} (first : SameSession s s')
    (second : SameSession s' s'') : SameSession s s'' :=
  ⟨second.connected.trans first.connected, fun ready => first.ready (second.ready ready),
    fun sound => second.sound (first.sound sound)⟩

theorem sameSession_of_core {t : ClientContext} (same : core s' = core t) (session : SameSession s t) :
    SameSession s s' where
  connected := (congrArg ClientContext.connected same).trans session.connected
  ready := fun ready => session.ready ((congrArg ClientContext.ready same).symm.trans ready)
  sound := by
    intro sound
    have sound := session.sound sound
    have core_ : (core t).SessionSound := ⟨sound.searching, sound.pending, sound.subscribing, sound.ready⟩
    rw [← same] at core_
    exact ⟨core_.searching, core_.pending, core_.subscribing, core_.ready⟩

theorem invalidated_sound (s : ClientContext) : s.invalidateAncsHandlesLocked.SessionSound where
  searching searching := absurd searching Bool.false_ne_true
  pending pending := absurd rfl pending
  subscribing cccd := absurd rfl cccd
  ready ready := absurd ready Bool.false_ne_true

theorem deadlineChecked_sameSession (s : ClientContext) (now : Int) :
    SameSession s (s.deadlineChecked now).2.2 := by
  unfold ClientContext.deadlineChecked
  extract_lets expired closed requestClose
  have same : SameSession s closed := by
    simp only [closed]
    split
    · exact ⟨rfl, fun ready => absurd ready Bool.false_ne_true, fun sound => ⟨fun searching =>
        ⟨rfl, (sound.searching searching).2⟩, sound.pending, sound.subscribing,
        fun ready => absurd ready Bool.false_ne_true⟩⟩
    · exact ⟨rfl, id, id⟩
  dsimp only
  split
  · exact ⟨same.connected, same.ready, fun sound => ⟨(same.sound sound).searching,
      (same.sound sound).pending, (same.sound sound).subscribing, (same.sound sound).ready⟩⟩
  · exact same

theorem takes_sameSession (takes : move.Takes label env s s') (calm : move.Calm) : SameSession s s' := by
  cases move with
  | keep | windowClosed | guardCleared | reopenTaken | retryTaken | mtuReady =>
    cases takes
    exact ⟨rfl, id, fun sound => ⟨sound.searching, sound.pending, sound.subscribing, sound.ready⟩⟩
  | reopenSet | enrollInit | replaceSet | replaceReported =>
    obtain ⟨_, rfl⟩ := takes
    exact ⟨rfl, id, fun sound => ⟨sound.searching, sound.pending, sound.subscribing, sound.ready⟩⟩
  | «opened» | serviceFound | windowOpened | queued =>
    obtain ⟨_, _, rfl⟩ := takes
    exact ⟨rfl, id, fun sound => ⟨sound.searching, sound.pending, sound.subscribing, sound.ready⟩⟩
  | retryScheduled =>
    obtain ⟨_, _, _, _, _, rfl⟩ := takes
    exact ⟨rfl, id, fun sound => ⟨sound.searching, sound.pending, sound.subscribing, sound.ready⟩⟩
  | aside =>
    exact sameSession_of_core takes
      ⟨rfl, id, fun sound => ⟨sound.searching, sound.pending, sound.subscribing, sound.ready⟩⟩
  | bondsRead =>
    rcases takes with same | ⟨first, same⟩
    · exact sameSession_of_core same
        ⟨rfl, id, fun sound => ⟨sound.searching, sound.pending, sound.subscribing, sound.ready⟩⟩
    · exact sameSession_of_core same
        ⟨rfl, id, fun sound => ⟨sound.searching, sound.pending, sound.subscribing, sound.ready⟩⟩
  | authFailed failReason failureAtMs missing =>
    cases takes
    unfold ClientContext.authFailed ClientContext.recordAuthFailureLocked
    extract_lets first before count counted
    split
    · exact ⟨rfl, id, fun sound => ⟨sound.searching, sound.pending, sound.subscribing, sound.ready⟩⟩
    · exact ⟨rfl, id, fun sound => ⟨sound.searching, sound.pending, sound.subscribing, sound.ready⟩⟩
  | authenticated peer =>
    cases takes
    exact ⟨rfl, id, fun sound => ⟨sound.searching, sound.pending, sound.subscribing,
      fun ready => ⟨(sound.ready ready).1, rfl, (sound.ready ready).2.2⟩⟩⟩
  | closing | readyLost =>
    cases takes
    exact ⟨rfl, fun ready => absurd ready (by simp), fun sound => ⟨fun searching =>
      ⟨rfl, (sound.searching searching).2⟩, sound.pending, sound.subscribing,
      fun ready => absurd ready (by simp)⟩⟩
  | discoveryStopped =>
    cases takes
    exact ⟨rfl, id, fun sound => ⟨fun searching => absurd searching (by simp), sound.pending,
      sound.subscribing, sound.ready⟩⟩
  | registered =>
    cases takes
    exact ⟨rfl, id, fun sound => ⟨sound.searching, fun pending => absurd rfl pending,
      fun cccd => ⟨(sound.subscribing cccd).1, (sound.subscribing cccd).2.1, .inl rfl, fun _ => rfl⟩,
      sound.ready⟩⟩
  | dataSubscribed =>
    cases takes
    exact ⟨rfl, id, fun sound => ⟨sound.searching, fun _ _ _ => rfl,
      fun cccd => ⟨rfl, (sound.subscribing cccd).2⟩,
      fun ready => ⟨(sound.ready ready).1, (sound.ready ready).2.1, rfl, (sound.ready ready).2.2.2⟩⟩⟩
  | handlesInvalidated =>
    cases takes
    exact ⟨rfl, fun ready => absurd ready Bool.false_ne_true, fun _ => invalidated_sound s⟩
  | serviceChanged =>
    obtain ⟨_, _, rfl⟩ := takes
    exact ⟨rfl, fun ready => absurd ready Bool.false_ne_true, fun _ => invalidated_sound _⟩
  | discoveryStarted =>
    obtain ⟨_, _, _, _, rfl⟩ := takes
    exact ⟨rfl, fun ready => absurd ready Bool.false_ne_true, fun _ =>
      ⟨fun _ => ⟨rfl, rfl, rfl⟩, fun pending same => absurd same pending, fun cccd => absurd rfl cccd,
        fun ready => absurd ready Bool.false_ne_true⟩⟩
  | deadlineChecked now =>
    cases takes
    exact deadlineChecked_sameSession s now
  | _ => exact absurd calm id

theorem takes_named (takes : ClientMove.named.Takes label env s s') : SameSession s s' := by
  obtain ⟨_, rfl⟩ := takes
  exact ⟨rfl, id, fun sound => ⟨sound.searching, sound.pending, sound.subscribing, sound.ready⟩⟩

theorem state_of_core {t : ClientContext} (same : core s' = core t) : s'.state = t.state :=
  (congrArg ClientContext.state same : (core s').state = (core t).state)

theorem takes_state (takes : move.Takes label env s s') (calm : move.Calm) : s'.state = s.state := by
  cases move with
  | keep | windowClosed | guardCleared | reopenTaken | retryTaken | mtuReady | authenticated _
  | closing | readyLost | discoveryStopped | registered | dataSubscribed | handlesInvalidated =>
    cases takes
    rfl
  | reopenSet | enrollInit | replaceSet | replaceReported => obtain ⟨_, rfl⟩ := takes; rfl
  | «opened» | serviceFound | windowOpened | serviceChanged | queued =>
    obtain ⟨_, _, rfl⟩ := takes
    rfl
  | discoveryStarted => obtain ⟨_, _, _, _, rfl⟩ := takes; rfl
  | retryScheduled => obtain ⟨_, _, _, _, _, rfl⟩ := takes; rfl
  | aside => exact state_of_core takes
  | bondsRead =>
    rcases takes with same | ⟨first, same⟩
    · exact (state_of_core same).trans rfl
    · exact (state_of_core same).trans rfl
  | authFailed failReason failureAtMs missing =>
    cases takes
    unfold ClientContext.authFailed ClientContext.recordAuthFailureLocked
    extract_lets first before count counted
    split <;> rfl
  | deadlineChecked now =>
    cases takes
    unfold ClientContext.deadlineChecked
    dsimp only
    split <;> split <;> rfl
  | _ => exact absurd calm id

end ClientMove

namespace Client
variable {α β : Type}

/-- The session is sound and the names agree: what every call starts from. -/
structure Agreed (s : ClientContext) : Prop where
  sound : s.SessionSound
  names : s.NamesAgree

theorem agreed_of_preparing {s : ClientContext} (preparing : s.Preparing) : Agreed s :=
  ⟨preparing.sound, preparing.agrees⟩

theorem agreed_same {s s' : ClientContext} (agreed : Agreed s) (session : ClientMove.SameSession s s')
    (state : s'.state = s.state) : Agreed s' := by
  refine ⟨session.sound agreed.sound, ?_, ?_⟩
  · exact fun ready => state.trans (agreed.names.1 (session.ready ready))
  · intro apart
    rw [state]
    exact agreed.names.2 (session.connected.symm.trans apart)

theorem preparing_same {s s' : ClientContext} (preparing : s.Preparing)
    (session : ClientMove.SameSession s s') : s'.Preparing := by
  refine ⟨session.sound preparing.sound, ?_, session.connected.trans preparing.connected⟩
  cases ready : s'.ready with
  | false => rfl
  | true => exact absurd (session.ready ready) (by simp [preparing.unready])

def Busy (move : ClientMove) : Prop := move.Calm ∨ move = .named

theorem calm_plain (move : ClientMove) (plain : move.Plain) : move.Calm := by
  cases move with
  | named | connected _ _ | disconnected | initFailed | handlesFound | subscribing _ | cccdFound
  | notificationSubscribed => exact plain
  | _ => trivial

theorem calm_replaces (move : ClientMove) (replaces : move.Replaces) : move.Calm := by
  cases move with
  | replaceSet | replaceReported | reopenTaken => trivial
  | _ => exact replaces.elim

theorem busy_plain (move : ClientMove) (plain : move.Plain) : Busy move := .inl (calm_plain move plain)

abbrev Answer (_ : ClientEnv) : Prop := True

theorem leads_agreed {program : Client α} (h : Makes ClientMove.Calm program) {s : ClientContext}
    (agreed : Agreed s) : Leads Answer (fun _ s' => Agreed s') program s := by
  refine leads_mono (leads_of_always (R := fun s s' : ClientContext => Agreed s → Agreed s')
    (fun _ => id) (fun first second agreed => second (first agreed)) ?_ s) fun _ _ later => later agreed
  apply always_mono _ h
  rintro _ env s s' ⟨move, calm, takes, _⟩ _ agreed
  exact agreed_same agreed (move.takes_sameSession takes calm) (move.takes_state takes calm)

theorem leads_preparing {program : Client α} (h : Makes Busy program) {s : ClientContext}
    (preparing : s.Preparing) : Leads Answer (fun _ s' => s'.Preparing) program s := by
  refine leads_mono (leads_of_always (R := fun s s' : ClientContext => s.Preparing → s'.Preparing)
    (fun _ => id) (fun first second preparing => second (first preparing)) ?_ s) fun _ _ later =>
      later preparing
  apply always_mono _ h
  rintro _ env s s' ⟨move, calm | rfl, takes, _⟩ _ preparing
  · exact preparing_same preparing (move.takes_sameSession takes calm)
  · exact preparing_same preparing (ClientMove.takes_named takes)

section Programs
variable {s : ClientContext}

theorem leads_setState (state : AncsClientState) (sound : s.SessionSound)
    (names : ClientContext.NamesAgree { s with state }) :
    Leads Answer (fun _ s' => Agreed s') (setState state) s := by
  apply leads_then (leads_atomic (Q := fun _ s' => Agreed s') ?_)
  · intro changed s' agreed
    exact leads_agreed (makes_when (makes_query calm_plain _)) agreed
  · exact fun _ _ => ⟨⟨sound.searching, sound.pending, sound.subscribing, sound.ready⟩, names⟩

theorem leads_transition (signal : AncsClientSignal) (sound : s.SessionSound)
    (names : ClientContext.NamesAgree { s with state := s.state.after signal }) :
    Leads Answer (fun _ s' => Agreed s') (transition signal) s := by
  apply leads_then (leads_atomic (Q := fun _ s' => Agreed s') ?_)
  · intro changed s' agreed
    exact leads_agreed (makes_when (makes_query calm_plain _)) agreed
  · exact fun _ _ => ⟨⟨sound.searching, sound.pending, sound.subscribing, sound.ready⟩, names⟩

theorem after_ready {signal : AncsClientSignal} (changes : signal ≠ .serviceChanged)
    (ends : signal ≠ .disconnected) : AncsClientState.ancsReady.after signal = .ancsReady := by
  cases signal with
  | serviceChanged => exact absurd rfl changes
  | disconnected => exact absurd rfl ends
  | _ => rfl

theorem leads_transition_connected {signal : AncsClientSignal} (changes : signal ≠ .serviceChanged)
    (ends : signal ≠ .disconnected) (agreed : Agreed s) (connected : s.connected = true) :
    Leads Answer (fun _ s' => Agreed s') (transition signal) s := by
  apply leads_transition signal agreed.sound
  refine ⟨?_, fun apart => absurd apart (by simp [connected])⟩
  intro ready
  have named := agreed.names.1 ready
  simp only [named]
  exact after_ready changes ends

theorem leads_busy {program : Client α} (h : Makes Busy program) (preparing : s.Preparing) :
    Leads Answer (fun _ s' => Agreed s') program s :=
  leads_mono (leads_preparing h preparing) fun _ _ => agreed_of_preparing

theorem leads_startDiscovery (agreed : Agreed s) :
    Leads Answer (fun _ s' => Agreed s') startDiscovery s := by
  apply leads_then (leads_atomic (Q := fun started s' =>
    (started = true → s'.Preparing) ∧ (started = false → Agreed s')) ?_)
  · rintro started s' ⟨starts, stays⟩
    cases started with
    | false => exact stays rfl
    | true =>
      apply leads_busy _ (starts rfl)
      apply always_bind (makes_transition busy_plain (.inr rfl) _)
      intro _
      apply always_bind (makes_query busy_plain _)
      intro error
      apply makes_when
      apply always_bind (makes_move .discoveryStopped (.inl trivial) fun _ _ => by rfl)
      intro _
      exact makes_recoverDiscovery busy_plain (.inr rfl)
  · intro env _
    split
    · exact ⟨fun no => absurd no (by simp), fun _ => agreed⟩
    · next free =>
      simp only [Bool.or_eq_true, Bool.not_eq_true', not_or, Bool.not_eq_false] at free
      refine ⟨fun _ => ?_, fun no => absurd no (by simp)⟩
      refine ⟨?_, rfl, free.1.1.1.1.1.1.1⟩
      exact ⟨fun _ => ⟨rfl, rfl, rfl⟩, fun pending same => absurd same pending,
        fun cccd => absurd rfl cccd, fun ready => absurd ready Bool.false_ne_true⟩

theorem names_apart {state : AncsClientState} (sound : s.SessionSound) (apart : s.connected = false)
    (name : state.ofLink = false) : ClientContext.NamesAgree { s with state } :=
  ⟨fun ready => absurd (sound.ready ready).1 (by simp [apart]), fun _ => name⟩

theorem leads_advStartComplete (success : Bool) (agreed : Agreed s) :
    Leads Answer (fun _ s' => Agreed s') (gapEventHandler (.advStartComplete success)) s := by
  apply leads_then (leads_atomic (Q := fun read s' =>
    read.1 = s'.connected ∧ Agreed s') ?_)
  · rintro ⟨connected, stopDisallowed⟩ s' ⟨rfl, agreed⟩
    dsimp only
    split
    · split
      · exact agreed
      · next free =>
        have apart : s'.connected = false := by
          simp only [Bool.or_eq_true, not_or, Bool.not_eq_true] at free
          exact free.1
        apply leads_then (leads_atomic (Q := fun state s'' => state = s'.state ∧ s'' = s')
          fun _ _ => ⟨rfl, rfl⟩)
        rintro state s'' ⟨rfl, rfl⟩
        split
        · next boot =>
          apply leads_transition .bootComplete agreed.sound
          rw [boot]
          exact names_apart agreed.sound apart rfl
        · exact leads_setState .advertising agreed.sound (names_apart agreed.sound apart rfl)
    · exact leads_agreed (makes_scheduleAdvertisingRetry trivial) agreed
  · intro env _
    dsimp only
    have sound := agreed.sound
    split
    · exact ⟨rfl, ⟨sound.searching, sound.pending, sound.subscribing, sound.ready⟩, agreed.names⟩
    · exact ⟨rfl, ⟨sound.searching, sound.pending, sound.subscribing, sound.ready⟩, agreed.names⟩

theorem leads_guarded {read : ClientContext → Bool} {program : Client Unit}
    {Q : Unit → ClientContext → Prop} (refused : read s = false → Q () s)
    (allowed : read s = true → Leads Answer Q program s) :
    Leads Answer Q (query (fun _ s => read s) >>= fun holds => if holds then program else pure ()) s := by
  apply leads_then (leads_atomic (Q := fun holds s' => holds = read s ∧ s' = s) fun _ _ => ⟨rfl, rfl⟩)
  rintro holds s' ⟨rfl, rfl⟩
  split
  · next holds => exact allowed holds
  · next fails => exact refused (by simpa using fails)

theorem leads_authCmpl (peer : BdAddr) (success : Bool) (failReason : Int) (agreed : Agreed s) :
    Leads Answer (fun _ s' => Agreed s') (gapEventHandler (.authCmpl peer success failReason)) s := by
  cases matched : s.connected && !s.closing && !s.sessionAuthenticated && s.remoteBda == peer with
  | false => exact leads_guarded (fun _ => agreed) fun holds => absurd holds (by simp [matched])
  | true =>
    simp only [Bool.and_eq_true, Bool.not_eq_true'] at matched
    have unready : s.ready = false := by
      cases ready : s.ready with
      | false => rfl
      | true => exact absurd (agreed.sound.ready ready).2.1 (by simp [matched.1.2])
    exact leads_busy (makes_authCmpl busy_plain (.inr rfl) peer success failReason
      fun _ => .inl trivial) ⟨agreed.sound, unready, matched.1.1.1⟩

theorem leads_gapEventHandler (event : GapEvent) (agreed : Agreed s) :
    Leads Answer (fun _ s' => Agreed s') (gapEventHandler event) s := by
  cases event with
  | advStartComplete success => exact leads_advStartComplete success agreed
  | authCmpl peer success failReason => exact leads_authCmpl peer success failReason agreed
  | removeBondDevComplete success =>
    apply leads_agreed _ agreed
    apply makes_gapEventHandler calm_plain calm_replaces _ False.elim
    cases success with
    | false => trivial
    | true => exact ⟨fun _ => trivial, trivial⟩
  | _ =>
    refine leads_agreed (makes_gapEventHandler calm_plain calm_replaces _ False.elim ?_) agreed
    trivial

theorem leads_connectEvt (peer : BdAddr) (connId : UInt16) (agreed : Agreed s) :
    Leads Answer (fun _ s' => Agreed s') (connectEvt peer connId) s := by
  apply leads_then (leads_agreed (makes_connectionPeerAllowed calm_plain peer) agreed)
  intro allowed s₁ agreed
  split
  · apply leads_then (leads_atomic (Q := fun connects s' =>
      (connects = true → s'.Preparing) ∧ (connects = false → Agreed s')) ?_)
    · rintro connects s' ⟨begins, stays⟩
      cases connects with
      | false => exact stays rfl
      | true => exact leads_busy (makes_transition busy_plain (.inr rfl) _) (begins rfl)
    · intro env _
      split
      · exact ⟨fun no => absurd no (by simp), fun _ => agreed⟩
      · refine ⟨fun _ => ⟨?_, rfl, rfl⟩, fun no => absurd no (by simp)⟩
        exact ⟨fun searching => absurd searching Bool.false_ne_true, fun pending => absurd rfl pending,
          fun cccd => absurd rfl cccd, fun ready => absurd ready Bool.false_ne_true⟩
  · exact agreed

theorem leads_openEvt (connId : UInt16) (peer : BdAddr) (success : Bool) (agreed : Agreed s) :
    Leads Answer (fun _ s' => Agreed s') (openEvt connId peer success) s := by
  apply leads_then (leads_atomic (Q := fun matched s' => s' = s ∧
    (matched = true → s.connected = true)) ?_)
  · rintro matched s' ⟨rfl, matches_⟩
    split
    · next both =>
      simp only [Bool.and_eq_true] at both
      have connected := matches_ both.1
      apply leads_then (leads_atomic (Q := fun _ s₁ => Agreed s₁ ∧ s₁.connected = true) ?_)
      · rintro _ s₁ ⟨agreed, connected⟩
        exact leads_transition_connected (by simp) (by simp) agreed connected
      · have sound := agreed.sound
        exact fun _ _ => ⟨⟨⟨sound.searching, sound.pending, sound.subscribing, sound.ready⟩,
          agreed.names⟩, connected⟩
    · exact agreed
  · intro env _
    simp only [Bool.and_eq_true, true_and]
    exact fun matches_ => matches_.1.1

theorem leads_cfgMtuEvt (connId : UInt16) (agreed : Agreed s) :
    Leads Answer (fun _ s' => Agreed s') (cfgMtuEvt connId) s := by
  apply leads_then (leads_agreed (makes_query calm_plain _) agreed)
  intro matched s₁ agreed
  split
  · apply leads_then (leads_agreed (makes_move .mtuReady trivial fun _ _ => by rfl) agreed)
    intro _ s₂ agreed
    exact leads_startDiscovery agreed
  · exact agreed

theorem leads_beginSubscription {handle : ClientContext → UInt16} {started : Client Unit}
    (h : Makes Busy started) (unready : s.ready = false) (connected : s.connected = true)
    (refused : s.closing = true ∨ s.sessionAuthenticated = false → Agreed s)
    (sound : ∀ stageDeadlineMs, ClientContext.SessionSound { s with
      stageDeadlineMs, pendingNotifyHandle := handle s, pendingNotifyGeneration := s.generation }) :
    Leads Answer (fun _ s' => Agreed s') (beginSubscription handle started) s := by
  apply leads_then (leads_atomic (Q := fun valid s' =>
    (valid = true → s'.Preparing) ∧ (valid = false → Agreed s')) ?_)
  · rintro valid s' ⟨begins, stays⟩
    cases valid with
    | false => exact stays rfl
    | true =>
      apply leads_busy _ (begins rfl)
      apply always_bind h
      intro _
      apply always_bind (makes_query busy_plain _)
      intro error
      exact makes_when (makes_recoverDiscovery busy_plain (.inr rfl))
  · intro env _
    split
    · next closed =>
      refine ⟨fun no => absurd no (by simp), fun _ => refused ?_⟩
      simpa [connected] using closed
    · exact ⟨fun _ => ⟨sound _, unready, connected⟩, fun no => absurd no (by simp)⟩

structure Found (s : ClientContext) : Prop where
  unready : s.ready = false
  connected : s.connected = true
  closing : s.closing = false
  authenticated : s.sessionAuthenticated = true
  idle : s.discoveryInProgress = false
  fresh : s.notificationSourceCccdHandle = invalidHandle

theorem leads_beginDataSourceSubscription (found : Found s) :
    Leads Answer (fun _ s' => Agreed s') beginDataSourceSubscription s := by
  apply leads_beginSubscription (makes_transition busy_plain (.inr rfl) _) found.unready found.connected
  · rintro (closing | unauthenticated)
    · exact absurd closing (by simp [found.closing])
    · exact absurd unauthenticated (by simp [found.authenticated])
  · intro stageDeadlineMs
    exact ⟨fun searching => absurd searching (by simp [found.idle]),
      fun _ same differ => absurd same.symm differ, fun cccd => absurd found.fresh cccd,
      fun ready => absurd ready (by simp [found.unready])⟩

theorem leads_discoverCharacteristics (preparing : s.Preparing)
    (idle : s.discoveryInProgress = false)
    (fresh : s.notificationSourceCccdHandle = invalidHandle) :
    Leads Answer (fun _ s' => Agreed s') discoverCharacteristics s := by
  apply leads_then (leads_atomic (Q := fun read s' => s' = s ∧
    (read.1 = true → s.closing = false ∧ s.sessionAuthenticated = true)) ?_)
  · rintro ⟨valid, generation, serviceStart, serviceEnd⟩ s' ⟨rfl, open_⟩
    dsimp only
    split
    · next valid_ =>
      obtain ⟨closing, authenticated⟩ := open_ valid_
      apply leads_then (leads_atomic (Q := fun _ s'' => s'' = s') fun _ _ => rfl)
      rintro answer s'' rfl
      cases answer with
      | none => exact leads_busy (makes_recoverDiscovery busy_plain (.inr rfl)) preparing
      | some characteristics =>
        dsimp only
        split
        · apply leads_busy _ preparing
          apply always_bind (makes_move .handlesInvalidated (.inl trivial) fun _ _ => by rfl)
          intro _
          exact makes_recoverDiscovery busy_plain (.inr rfl)
        · apply leads_then (leads_atomic (Q := fun stillValid s₁ =>
            (stillValid = false → s₁ = s'') ∧ (stillValid = true → Found s₁)) ?_)
          · rintro stillValid s₁ ⟨stays, found⟩
            cases stillValid with
            | false =>
              rw [stays rfl]
              exact agreed_of_preparing preparing
            | true => exact leads_beginDataSourceSubscription (found rfl)
          · intro env _
            dsimp only
            refine ⟨fun stale => by simp [stale], fun valid => ?_⟩
            simp only [valid, if_true]
            exact ⟨preparing.unready, preparing.connected, closing, authenticated, idle, fresh⟩
    · exact agreed_of_preparing preparing
  · intro env _
    simp only [Bool.and_eq_true, Bool.not_eq_true', true_and]
    exact fun valid => ⟨valid.1.1.1.2, valid.1.1.2⟩

theorem leads_searchCmplEvt (connId : UInt16) (success : Bool) (agreed : Agreed s) :
    Leads Answer (fun _ s' => Agreed s') (searchCmplEvt connId success) s := by
  apply leads_guarded (fun _ => agreed)
  intro searching
  obtain ⟨unready, fresh, _⟩ := agreed.sound.searching searching
  apply leads_guarded (fun _ => agreed)
  intro matched
  simp only [Bool.and_eq_true, Bool.not_eq_true'] at matched
  have preparing : s.Preparing := ⟨agreed.sound, unready, matched.1.1⟩
  apply leads_then (leads_atomic (Q := fun _ s' => s'.Preparing ∧ s'.discoveryInProgress = false ∧
    s'.notificationSourceCccdHandle = invalidHandle) ?_)
  · rintro serviceFound s' ⟨preparing, idle, fresh⟩
    split
    · exact leads_busy (makes_recoverDiscovery busy_plain (.inr rfl)) preparing
    · exact leads_discoverCharacteristics preparing idle fresh
  · intro env _
    have sound := agreed.sound
    exact ⟨⟨⟨fun no => absurd no Bool.false_ne_true, sound.pending, sound.subscribing, sound.ready⟩,
      unready, matched.1.1⟩, rfl, fresh⟩

structure Registered (handle : UInt16) (s : ClientContext) : Prop where
  preparing : s.Preparing
  taken : s.pendingNotifyHandle = invalidHandle
  data : handle = s.dataSourceHandle → s.notificationSourceCccdHandle = invalidHandle
  notification : handle = s.notificationSourceHandle → handle ≠ s.dataSourceHandle →
    s.dataSourceSubscribed = true ∧ s.discoveryInProgress = false

theorem registered_of_expected {handle : UInt16} (sound : s.SessionSound)
    (connected : s.connected = true) (awaited : s.pendingNotifyHandle ≠ invalidHandle)
    (same : s.pendingNotifyHandle = handle) :
    Registered handle { s with pendingNotifyHandle := invalidHandle } := by
  have unready : s.ready = false := by
    cases ready : s.ready with
    | false => rfl
    | true =>
      obtain ⟨_, _, _, _, cccd, differ⟩ := sound.ready ready
      exact absurd ((sound.subscribing cccd).2.2.2 differ) awaited
  refine ⟨⟨?_, unready, connected⟩, rfl, ?_, ?_⟩
  · exact ⟨sound.searching, fun pending => absurd rfl pending,
      fun cccd => ⟨(sound.subscribing cccd).1, (sound.subscribing cccd).2.1, .inl rfl, fun _ => rfl⟩,
      sound.ready⟩
  · intro data
    by_contra cccd
    obtain ⟨_, differ, pending, _⟩ := sound.subscribing cccd
    rcases pending with none_ | notification
    · exact awaited none_
    · exact differ (notification.symm.trans (same.trans data))
  · intro notification other
    constructor
    · exact sound.pending awaited (same.trans notification) fun data => other (notification.trans data)
    · cases searching : s.discoveryInProgress with
      | false => rfl
      | true =>
        have invalid := (sound.searching searching).2.2
        exact absurd (same.trans (notification.trans invalid)) awaited

theorem leads_regForNotifyEvt (handle : UInt16) (success : Bool) (agreed : Agreed s) :
    Leads Answer (fun _ s' => Agreed s') (regForNotifyEvt handle success) s := by
  apply leads_then (leads_atomic (Q := fun expected s' =>
    (expected = true → Registered handle s') ∧ (expected = false → Agreed s')) ?_)
  · rintro expected s' ⟨awaited, stays⟩
    cases expected with
    | false => exact stays rfl
    | true =>
      have registered := awaited rfl
      have recovers : Leads Answer (fun _ s'' => Agreed s'') recoverDiscovery s' :=
        leads_busy (makes_recoverDiscovery busy_plain (.inr rfl)) registered.preparing
      simp only [if_true]
      split
      · exact recovers
      apply leads_then (leads_atomic (Q := fun read s'' =>
        read = (s'.dataSourceHandle, s'.notificationSourceHandle) ∧ s'' = s') fun _ _ => ⟨rfl, rfl⟩)
      rintro _ s'' ⟨rfl, rfl⟩
      dsimp only
      split
      · next data =>
        apply leads_then (leads_atomic (Q := fun _ s₁ => s₁ = s'') fun _ _ => rfl)
        rintro ⟨error, cccd⟩ s₁ rfl
        dsimp only
        split
        · exact recovers
        · apply leads_atomic
          intro env _
          simp only [if_true]
          obtain ⟨sound, unready, connected⟩ := registered.preparing
          exact agreed_of_preparing ⟨⟨sound.searching, sound.pending,
            fun cccd => absurd (registered.data data) cccd,
            fun ready => absurd ready (by simp [unready])⟩, unready, connected⟩
      · next other =>
        split
        · next notification =>
          apply leads_then (leads_atomic (Q := fun _ s₁ => s₁ = s'') fun _ _ => rfl)
          rintro ⟨error, cccd⟩ s₁ rfl
          dsimp only
          split
          · exact recovers
          · apply leads_atomic
            intro env _
            simp only [if_true]
            obtain ⟨sound, unready, connected⟩ := registered.preparing
            obtain ⟨subscribed, idle⟩ := registered.notification notification other
            exact agreed_of_preparing ⟨⟨fun searching => absurd searching (by simp [idle]),
              sound.pending, fun _ => ⟨subscribed, notification ▸ other, .inl registered.taken,
                fun _ => registered.taken⟩, fun ready => absurd ready (by simp [unready])⟩,
              unready, connected⟩
        · exact agreed_of_preparing registered.preparing
  · intro env _
    dsimp only
    refine ⟨fun expected => ?_, fun refused => ?_⟩
    · simp only [expected, if_true]
      simp only [Bool.and_eq_true, Bool.not_eq_true', bne_iff_ne, beq_iff_eq] at expected
      obtain ⟨⟨⟨⟨⟨connected, _⟩, _⟩, _⟩, awaited⟩, same⟩ := expected
      exact registered_of_expected agreed.sound connected awaited same
    · simp only [refused]
      exact agreed

def completesWrite (s : ClientContext) (connId handle : UInt16) (success : Bool) : Bool :=
  success && s.connected && !s.closing && s.connId == connId && s.sessionAuthenticated &&
    handle != invalidHandle && handle == s.notificationSourceCccdHandle &&
    handle != s.dataSourceCccdHandle && s.dataSourceSubscribed && !s.notificationSourceSubscribed &&
    s.linkEncrypted && s.serviceFound

/-- The session stays sound; the names agree afterwards, unless the session is completed out of
    a state whose name the completion does not change. -/
def Judged (completes : Bool) (s s' : ClientContext) : Prop :=
  s'.SessionSound ∧
    (s'.NamesAgree ↔ (completes = true → s.state.after .notificationSubscribed = .ancsReady))

theorem judged_of_agreed {completes : Bool} {s s' : ClientContext} (agreed : Agreed s')
    (other : completes = false) : Judged completes s s' :=
  ⟨agreed.sound, iff_of_true agreed.names fun completes => absurd completes (by simp [other])⟩

theorem completesWrite_gates {connId handle : UInt16} {success : Bool}
    (completes : completesWrite s connId handle success = true) :
    success = true ∧ (s.connected && !s.closing && s.connId == connId) = true ∧
      (s.sessionAuthenticated &&
        ((handle != invalidHandle && handle == s.dataSourceCccdHandle && !s.dataSourceSubscribed) ||
          (handle != invalidHandle && handle == s.notificationSourceCccdHandle &&
            s.dataSourceSubscribed && !s.notificationSourceSubscribed))) = true ∧
      handle ≠ s.dataSourceCccdHandle ∧ handle = s.notificationSourceCccdHandle ∧
      (subscribeNotificationSource s).ready = true := by
  simp only [completesWrite, Bool.and_eq_true, Bool.not_eq_true', beq_iff_eq, bne_iff_ne] at completes
  obtain ⟨⟨⟨⟨⟨⟨⟨⟨⟨⟨⟨success, connected⟩, closing⟩, conn⟩, authenticated⟩, valid⟩, notification⟩,
    other⟩, data⟩, unsubscribed⟩, encrypted⟩, found⟩ := completes
  refine ⟨success, by simp [connected, closing, conn], ?_, other, notification, ?_⟩
  · subst notification
    simp [authenticated, valid, data, unsubscribed]
  · simp [subscribeNotificationSource, connected, authenticated, encrypted, found, data]

structure HalfSubscribed (s : ClientContext) : Prop where
  sound : s.SessionSound
  unready : s.ready = false
  connected : s.connected = true
  closing : s.closing = false
  authenticated : s.sessionAuthenticated = true
  subscribed : s.dataSourceSubscribed = true
  same : s.notificationSourceCccdHandle ≠ invalidHandle →
    s.notificationSourceCccdHandle = s.dataSourceCccdHandle

theorem leads_renamed (half : HalfSubscribed s) (signal : AncsClientSignal) :
    Leads Answer (fun _ s' => HalfSubscribed s') (transition signal) s := by
  obtain ⟨sound, unready, connected, closing, authenticated, subscribed, same⟩ := half
  apply leads_then (leads_atomic (Q := fun _ s' => HalfSubscribed s') fun _ _ =>
    ⟨⟨sound.searching, sound.pending, sound.subscribing, sound.ready⟩, unready, connected, closing,
      authenticated, subscribed, same⟩)
  intro changed s' half
  split
  · exact fun _ _ => half
  · exact half

theorem leads_halfSubscribed (half : HalfSubscribed s) :
    Leads Answer (fun _ s' => Agreed s') beginNotificationSourceSubscription s := by
  obtain ⟨sound, unready, connected, closing, authenticated, subscribed, same⟩ := half
  apply leads_beginSubscription (always_pure ()) unready connected
  · rintro (closing_ | unauthenticated)
    · exact absurd closing_ (by simp [closing])
    · exact absurd unauthenticated (by simp [authenticated])
  · intro stageDeadlineMs
    exact ⟨sound.searching, fun _ _ _ => subscribed, fun cccd => ⟨subscribed,
      (sound.subscribing cccd).2.1, .inr rfl, fun differ => absurd (same cccd) differ⟩,
      fun ready => absurd ready (by simp [unready])⟩

theorem subscribed_sound (sound : s.SessionSound) (connected : s.connected = true)
    (authenticated : s.sessionAuthenticated = true)
    (valid : s.notificationSourceCccdHandle ≠ invalidHandle)
    (other : s.notificationSourceCccdHandle ≠ s.dataSourceCccdHandle) :
    (subscribeNotificationSource s).SessionSound where
  searching searching := absurd (sound.searching searching).2.1 valid
  pending := sound.pending
  subscribing := sound.subscribing
  ready _ := ⟨connected, authenticated, (sound.subscribing valid).1, rfl, valid, other⟩

theorem leads_completed {s₁ : ClientContext} (sound : s₁.SessionSound) (connected : s₁.connected = true)
    (ready : s₁.ready = true) (state : s₁.state = s.state) :
    Leads Answer (fun _ s' => Judged true s s') (transition .notificationSubscribed) s₁ := by
  apply leads_then (leads_atomic (Q := fun _ s' => Judged true s s') ?_)
  · intro changed s' judged
    split
    · exact fun _ _ => judged
    · exact judged
  · intro _ _
    refine ⟨⟨sound.searching, sound.pending, sound.subscribing, sound.ready⟩, ?_⟩
    constructor
    · intro names _
      have named := names.1 ready
      rw [← state]
      exact named
    · intro named
      refine ⟨fun _ => ?_, fun apart => absurd apart (by simp [connected])⟩
      exact (congrArg (AncsClientState.after · .notificationSubscribed) state).trans (named rfl)

theorem leads_writeDescrEvt (connId handle : UInt16) (success : Bool) (agreed : Agreed s) :
    Leads Answer (fun _ s' => Judged (completesWrite s connId handle success) s s')
      (writeDescrEvt connId handle success) s := by
  have sound := agreed.sound
  have incomplete {s' : ClientContext} (agreed : Agreed s')
      (other : completesWrite s connId handle success = true → False) :
      Judged (completesWrite s connId handle success) s s' :=
    judged_of_agreed agreed (by simpa using other)
  apply leads_guarded
  · exact fun mismatch => incomplete agreed fun completes =>
      absurd (completesWrite_gates completes).2.1 (by simp [mismatch])
  intro matched
  simp only [Bool.and_eq_true, Bool.not_eq_true'] at matched
  apply leads_guarded
  · exact fun unexpected => incomplete agreed fun completes =>
      absurd (completesWrite_gates completes).2.2.1 (by simp [unexpected])
  intro expected
  have unready : s.ready = false := by
    cases ready : s.ready with
    | false => rfl
    | true =>
      obtain ⟨_, _, data, notification, _⟩ := sound.ready ready
      exact absurd expected (by simp [data, notification])
  simp only [Bool.and_eq_true, Bool.or_eq_true, bne_iff_ne, beq_iff_eq, Bool.not_eq_true'] at expected
  have preparing : s.Preparing := ⟨sound, unready, matched.1.1⟩
  split
  · next failed =>
    apply leads_mono (leads_busy (makes_recoverDiscovery busy_plain (.inr rfl)) preparing)
    exact fun _ s' agreed => incomplete agreed fun completes =>
      absurd (completesWrite_gates completes).1 (by simpa using failed)
  · next succeeded =>
    apply leads_then (leads_atomic (Q := fun read s' =>
      read = (s.dataSourceCccdHandle, s.notificationSourceCccdHandle) ∧ s' = s) fun _ _ => ⟨rfl, rfl⟩)
    rintro _ s' ⟨rfl, rfl⟩
    dsimp only
    split
    · next data =>
      have same : s'.notificationSourceCccdHandle ≠ invalidHandle →
          s'.notificationSourceCccdHandle = s'.dataSourceCccdHandle := by
        intro cccd
        rcases expected.2 with ⟨_, unsubscribed⟩ | ⟨⟨⟨_, notification⟩, _⟩, _⟩
        · exact absurd (sound.subscribing cccd).1 (by simp [unsubscribed])
        · exact notification.symm.trans data
      apply leads_then (leads_atomic (Q := fun _ s₁ => HalfSubscribed s₁) ?_)
      · intro _ s₁ half
        apply leads_then (leads_renamed half .dataSubscribed)
        intro _ s₂ half
        exact leads_mono (leads_halfSubscribed half) fun _ _ agreed => incomplete agreed
          fun completes => (completesWrite_gates completes).2.2.2.1 data
      · exact fun _ _ => ⟨⟨sound.searching, fun _ _ _ => rfl,
          fun cccd => ⟨rfl, (sound.subscribing cccd).2⟩,
          fun ready => absurd ready (by simp [unready])⟩, unready, matched.1.1, matched.1.2,
          expected.1, rfl, same⟩
    · next other =>
      split
      · next notification =>
        obtain ⟨⟨⟨valid, _⟩, data⟩, unsubscribed⟩ := expected.2.resolve_left fun first => other first.1.2
        have subscribed := subscribed_sound sound matched.1.1 expected.1 (notification ▸ valid)
          (notification ▸ other)
        apply leads_then (leads_atomic (Q := fun ready s₁ =>
          ready = (subscribeNotificationSource s').ready ∧ s₁ = subscribeNotificationSource s')
          fun _ _ => ⟨rfl, rfl⟩)
        rintro _ s₁ ⟨rfl, rfl⟩
        cases ready : (subscribeNotificationSource s').ready with
        | true =>
          have completes : completesWrite s' connId handle success = true := by
            simp only [subscribeNotificationSource, Bool.and_eq_true] at ready
            subst notification
            simp only [completesWrite, Bool.and_eq_true, Bool.not_eq_true', beq_iff_eq, bne_iff_ne]
            exact ⟨⟨⟨⟨⟨⟨⟨⟨⟨⟨⟨by simpa using succeeded, matched.1.1⟩, matched.1.2⟩,
              by simpa using matched.2⟩, expected.1⟩, valid⟩, trivial⟩, other⟩, data⟩, unsubscribed⟩,
              ready.1.1.2⟩, ready.1.2⟩
          rw [completes]
          apply leads_then (leads_completed subscribed matched.1.1 ready rfl)
          exact fun _ _ judged => judged
        | false =>
          have preparing : (subscribeNotificationSource s').Preparing :=
            ⟨subscribed, ready, matched.1.1⟩
          refine leads_mono (leads_busy ?_ preparing) fun _ s'' agreed => incomplete agreed
            fun completes => absurd (completesWrite_gates completes).2.2.2.2.2 (by simp [ready])
          apply always_bind (makes_transition busy_plain (.inr rfl) _)
          intro _
          exact makes_setState busy_plain (.inr rfl) _
      · next neither =>
        exact incomplete agreed fun completes => neither (completesWrite_gates completes).2.2.2.2.1

theorem leads_handleServiceChanged (agreed : Agreed s) :
    Leads Answer (fun _ s' => Agreed s') handleServiceChanged s := by
  apply leads_then (leads_atomic (Q := fun changed s' =>
    (changed = none → Agreed s') ∧ (changed ≠ none → s'.Preparing)) ?_)
  · rintro changed s' ⟨stays, begins⟩
    cases changed with
    | none => exact stays rfl
    | some generation =>
      apply leads_busy _ (begins (by simp))
      apply always_bind (makes_discard (makes_enqueueWork (.inl trivial) _))
      intro _
      apply always_bind (makes_transition busy_plain (.inr rfl) _)
      intro _
      exact makes_startDiscovery busy_plain (.inr rfl)
  · intro env _
    split
    · exact ⟨fun _ => agreed, fun no => absurd rfl no⟩
    · next free =>
      simp only [Bool.or_eq_true, Bool.not_eq_true', not_or, Bool.not_eq_false] at free
      exact ⟨fun no => absurd no (by simp), fun _ => ⟨ClientMove.invalidated_sound _, rfl, free.1⟩⟩

theorem leads_apart {program : Client α} (h : Makes ClientMove.Calm program) (sound : s.SessionSound)
    (apart : s.connected = false) :
    Leads Answer (fun _ s' => s'.SessionSound ∧ s'.connected = false) program s := by
  refine leads_mono (leads_of_always (R := ClientMove.SameSession)
    (fun _ => ⟨rfl, id, id⟩) ClientMove.sameSession_trans ?_ s) fun _ s' session =>
      ⟨session.sound sound, session.connected.trans apart⟩
  apply always_mono _ h
  rintro _ env s s' ⟨move, calm, takes, _⟩ _
  exact move.takes_sameSession takes calm

theorem leads_agreed_disconnectEvt (connId : UInt16) (peer : BdAddr) (reason : Int) (agreed : Agreed s) :
    Leads Answer (fun _ s' => Agreed s') (disconnectEvt connId peer reason) s := by
  apply leads_guarded (fun _ => agreed)
  intro matched
  apply leads_then (leads_agreed (makes_move .aside trivial fun _ _ => by rfl) agreed)
  intro _ s₁ _
  have reset : Leads Answer (fun _ s₂ => s₂.SessionSound ∧ s₂.connected = false)
      resetConnectionSession s₁ := by
    apply leads_then (leads_atomic (Q := fun _ s₂ => s₂.SessionSound ∧ s₂.connected = false)
      fun _ _ => ⟨ClientMove.invalidated_sound _, rfl⟩)
    rintro generation s₂ ⟨sound, apart⟩
    exact leads_apart (makes_discard (makes_enqueueWork trivial _)) sound apart
  apply leads_then reset
  rintro _ s₂ ⟨sound, apart⟩
  apply leads_then (leads_transition .disconnected sound (names_apart sound apart rfl))
  intro _ s₃ agreed
  apply leads_agreed _ agreed
  exact makes_reopen calm_plain calm_replaces fun _ => trivial

theorem leads_initFailed (agreed : Agreed s) :
    Leads Answer (fun _ s' => Agreed s') initFailed s := by
  apply leads_then (leads_agreed (makes_move .queued trivial fun _ _ => by exact ⟨_, _, rfl⟩) agreed)
  intro _ s₁ _
  apply leads_then (leads_atomic (Q := fun _ s₂ => s₂.SessionSound ∧ s₂.connected = false) ?_)
  · rintro _ s₂ ⟨sound, apart⟩
    apply leads_then (leads_setState .recovering sound (names_apart sound apart rfl))
    intro _ s₃ agreed
    exact leads_agreed (makes_query calm_plain _) agreed
  · exact fun _ _ => ⟨ClientMove.invalidated_sound _, rfl⟩

theorem leads_init (config : BleEnrollConfig) (workQueueLength : Nat) (agreed : Agreed s) :
    Leads Answer (fun _ s' => Agreed s') (init config workQueueLength) s := by
  apply leads_then (leads_agreed (makes_query calm_plain _) agreed)
  intro _ s₁ agreed
  apply leads_then (leads_agreed (makes_move .enrollInit trivial fun _ _ => by exact ⟨_, rfl⟩) agreed)
  intro _ s₂ agreed
  apply leads_then (leads_agreed (makes_query calm_plain _) agreed)
  intro nvsError s₃ agreed
  split
  · apply leads_then (leads_agreed (makes_move .aside trivial fun _ _ => by rfl) agreed)
    intro _ s₄ agreed
    exact leads_initFailed agreed
  · apply leads_then (leads_agreed (makes_query calm_plain _) agreed)
    intro before s₄ agreed
    split
    · exact leads_initFailed agreed
    · apply leads_then (leads_agreed (makes_move .queued trivial fun _ _ => by exact ⟨_, _, rfl⟩) agreed)
      intro _ s₅ agreed
      apply leads_then (leads_agreed (makes_loadExistingBleBond calm_plain) agreed)
      intro _ s₆ agreed
      apply leads_then (leads_agreed (makes_query calm_plain _) agreed)
      intro after s₇ agreed
      split
      · exact leads_initFailed agreed
      · exact leads_agreed (makes_move .aside trivial fun _ _ => by rfl) agreed

theorem leads_checkConnectionDeadline (agreed : Agreed s) :
    Leads Answer (fun _ s' => Agreed s') checkConnectionDeadline s := by
  apply leads_then (leads_agreed (makes_query calm_plain _) agreed)
  intro now s₁ agreed
  apply leads_then (leads_atomic (Q := fun read s' =>
    (read.1 = true → s'.Preparing) ∧ (read.1 = false → Agreed s')) ?_)
  · rintro ⟨expired, requestClose, generation⟩ s' ⟨expires, stays⟩
    dsimp only
    cases expired with
    | false => exact leads_agreed (makes_requestClose calm_plain requestClose generation) (stays rfl)
    | true =>
      apply leads_busy _ (expires rfl)
      exact always_bind (makes_setState busy_plain (.inr rfl) _) fun _ =>
        makes_requestClose busy_plain requestClose generation
  · intro env _
    have session := ClientMove.deadlineChecked_sameSession s₁ now
    have takes : (ClientMove.deadlineChecked now).Takes .update env s₁ (s₁.deadlineChecked now).2.2 := rfl
    have state := ClientMove.takes_state takes trivial
    refine ⟨fun expired => ?_, fun _ => agreed_same agreed session state⟩
    simp only [Bool.and_eq_true, Bool.not_eq_true'] at expired
    exact preparing_same ⟨agreed.sound, expired.1.1.2, expired.1.1.1⟩ session

theorem leads_recoverDataStream (agreed : Agreed s) :
    Leads Answer (fun _ s' => Agreed s') recoverDataStream s := by
  have sound := agreed.sound
  apply leads_then (leads_atomic (Q := fun _ s' => s'.SessionSound ∧ s'.ready = false) ?_)
  · rintro _ s' ⟨sound, unready⟩
    apply leads_setState .recovering sound
    exact ⟨fun ready => absurd ready (by simp [unready]), fun _ => rfl⟩
  · exact fun _ _ => ⟨⟨fun searching => ⟨rfl, (sound.searching searching).2⟩, sound.pending,
      sound.subscribing, fun ready => absurd ready Bool.false_ne_true⟩, rfl⟩

theorem leads_recoverTimes (times : Nat) (agreed : Agreed s) :
    Leads Answer (fun _ s' => Agreed s') (recoverTimes times) s := by
  induction times generalizing s with
  | zero => exact agreed
  | succ times ih => exact leads_then (leads_recoverDataStream agreed) fun _ _ agreed => ih agreed

theorem leads_workerTurn (recoveries : Nat) (agreed : Agreed s) :
    Leads Answer (fun _ s' => Agreed s') (workerTurn recoveries) s := by
  apply leads_then (leads_checkConnectionDeadline agreed)
  intro _ s₁ agreed
  apply leads_then (leads_agreed (makes_enrollTimeoutCallback calm_plain) agreed)
  intro _ s₂ agreed
  apply leads_then (leads_agreed (makes_discard (makes_query calm_plain _)) agreed)
  intro _ s₃ agreed
  apply leads_then
  · apply leads_agreed _ agreed
    apply makes_section
    intro _ s
    refine ⟨.queued, trivial, ?_⟩
    split <;> exact ⟨_, _, rfl⟩
  intro _ s₄ agreed
  apply leads_then (leads_agreed (makes_discard (makes_query calm_plain _)) agreed)
  intro _ s₅ agreed
  exact leads_recoverTimes recoveries agreed

theorem leads_discoveryRetryCallback (agreed : Agreed s) :
    Leads Answer (fun _ s' => Agreed s') discoveryRetryCallback s := by
  apply leads_then (leads_agreed (makes_query calm_plain _) agreed)
  intro now s₁ agreed
  apply leads_then
  · apply leads_agreed _ agreed
    apply makes_section
    intro _ s
    dsimp only
    split
    · exact ⟨.retryTaken, trivial, rfl⟩
    · exact ⟨.keep, trivial, rfl⟩
  intro current s₂ agreed
  split
  · exact leads_startDiscovery agreed
  · exact agreed

def completesSession (s : ClientContext) : ClientCall → Bool
  | .gattc gattcIf (.writeDescr connId handle success) =>
    (gattcIf == none || gattcIf == s.gattcIf) && completesWrite s connId handle success
  | _ => false

theorem leads_gattcEvent (maxFragmentSize : Nat) (gattcIf : Option Nat) (event : GattcEvent)
    (agreed : Agreed s) (other : ∀ connId handle success, event ≠ .writeDescr connId handle success) :
    Leads Answer (fun _ s' => Agreed s') (handleGattcEvent maxFragmentSize gattcIf event) s := by
  cases event with
  | reg success => exact leads_agreed (makes_move .aside trivial fun _ _ => by rfl) agreed
  | connect peer connId => exact leads_connectEvt peer connId agreed
  | «open» connId peer success => exact leads_openEvt connId peer success agreed
  | cfgMtu connId => exact leads_cfgMtuEvt connId agreed
  | searchRes connId ancs startHandle endHandle =>
    exact leads_agreed (makes_searchResEvt calm_plain connId ancs startHandle endHandle) agreed
  | searchCmpl connId success => exact leads_searchCmplEvt connId success agreed
  | regForNotify handle success => exact leads_regForNotifyEvt handle success agreed
  | writeDescr connId handle success => exact absurd rfl (other connId handle success)
  | notify connId handle value =>
    exact leads_agreed (makes_notifyEvt calm_plain trivial maxFragmentSize connId handle value) agreed
  | writeChar connId handle status =>
    exact leads_agreed (makes_writeCharEvt calm_plain trivial connId handle status) agreed
  | srvcChg peer =>
    apply leads_then (leads_agreed (makes_query calm_plain _) agreed)
    intro remote s₁ agreed
    split
    · exact leads_handleServiceChanged agreed
    · exact agreed
  | disconnect connId peer reason => exact leads_agreed_disconnectEvt connId peer reason agreed
  | other => exact agreed

theorem leads_otherEvent (maxFragmentSize : Nat) (gattcIf : Option Nat) (event : GattcEvent)
    (agreed : Agreed s) (other : ∀ connId handle success, event ≠ .writeDescr connId handle success) :
    Leads Answer (fun _ s' => Agreed s') (gattcCallback maxFragmentSize gattcIf event) s := by
  unfold gattcCallback
  apply leads_when agreed (leads_agreed (makes_move .aside trivial fun _ _ => by rfl) agreed)
  intro s₁ agreed
  split
  · apply leads_then (leads_agreed (makes_query calm_plain _) agreed)
    intro registered s₂ agreed
    split
    · exact leads_gattcEvent maxFragmentSize gattcIf event agreed other
    · exact agreed
  · exact agreed

theorem leads_writeDescr (maxFragmentSize : Nat) (gattcIf : Option Nat) (connId handle : UInt16)
    (success : Bool) (agreed : Agreed s) :
    Leads Answer (fun _ s' =>
      Judged (completesSession s (.gattc gattcIf (.writeDescr connId handle success))) s s')
      (gattcCallback maxFragmentSize gattcIf (.writeDescr connId handle success)) s := by
  rw [gattcCallback, if_neg (by simp), if_pos (by simp)]
  apply leads_then (leads_atomic (Q := fun registered s' => registered = s.gattcIf ∧ s' = s)
    fun _ _ => ⟨rfl, rfl⟩)
  rintro _ s' ⟨rfl, rfl⟩
  split
  · next own =>
    have gate : (gattcIf == none || gattcIf == s'.gattcIf) = true := by simpa using own
    rw [completesSession, gate, Bool.true_and]
    exact leads_writeDescrEvt connId handle success agreed
  · next foreign =>
    have gate : (gattcIf == none || gattcIf == s'.gattcIf) = false :=
      Bool.eq_false_iff.mpr fun gate => foreign (by simpa using gate)
    exact judged_of_agreed agreed (by rw [completesSession, gate, Bool.false_and])

theorem leads_call (config : ClientConfig) (call : ClientCall) (agreed : Agreed s) :
    Leads Answer (fun _ s' => Judged (completesSession s call) s s') (call.body config) s := by
  have judged (leads : Leads Answer (fun _ s' => Agreed s') (call.body config) s)
      (other : completesSession s call = false) :
      Leads Answer (fun _ s' => Judged (completesSession s call) s s') (call.body config) s :=
    leads_mono leads fun _ _ agreed => judged_of_agreed agreed other
  cases call with
  | init => exact judged (leads_init config.enroll config.workQueueLength agreed) rfl
  | gap event => exact judged (leads_gapEventHandler event agreed) rfl
  | gattc gattcIf event =>
    by_cases write : ∃ connId handle success, event = .writeDescr connId handle success
    · obtain ⟨connId, handle, success, rfl⟩ := write
      exact leads_writeDescr config.maxFragmentSize gattcIf connId handle success agreed
    · have stays : completesSession s (.gattc gattcIf event) = false := by
        cases event with
        | writeDescr connId handle success => exact absurd ⟨connId, handle, success, rfl⟩ write
        | _ => rfl
      exact judged (leads_otherEvent config.maxFragmentSize gattcIf event agreed
        fun connId handle success same => write ⟨connId, handle, success, same⟩) stays
  | workerTurn recoveries => exact judged (leads_workerTurn recoveries agreed) rfl
  | advertisingRetry => exact judged (leads_agreed (makes_startAdvertising trivial trivial) agreed) rfl
  | enrollTimeout => exact judged (leads_agreed (makes_enrollTimeoutCallback calm_plain) agreed) rfl
  | enrollButton =>
    exact judged (leads_agreed (makes_enrollButtonCallback calm_plain fun _ => trivial) agreed) rfl
  | discoveryRetry => exact judged (leads_discoveryRetryCallback agreed) rfl
  | requestEnroll =>
    exact judged (leads_agreed (makes_discard (makes_requestEnroll calm_plain fun _ => trivial))
      agreed) rfl
  | replaceEnrollment confirmed =>
    exact judged (leads_agreed (makes_discard (makes_replaceEnrollment calm_plain calm_replaces confirmed
      (fun _ _ => trivial) (fun _ => trivial) (fun _ => trivial) fun _ => trivial)) agreed) rfl
  | setPairingAllowed allowed =>
    exact judged (leads_agreed (makes_setPairingAllowed calm_plain allowed fun _ _ => trivial)
      agreed) rfl
  | startAdvertising =>
    exact judged (leads_agreed (makes_discard (makes_startAdvertisingCall calm_plain)) agreed) rfl
  | stopAdvertising => exact judged (leads_agreed (makes_stopAdvertising trivial) agreed) rfl

end Programs

abbrev ClientTurn := ClientCall × (Nat → ClientEnv)

def NamedOnCompletion (s : ClientContext) (turn : ClientTurn) : Prop :=
  completesSession s turn.1 = true → s.state.after .notificationSubscribed = .ancsReady

theorem boot_sound (config : BleEnrollConfig) : (ClientContext.boot config).SessionSound where
  searching searching := absurd searching Bool.false_ne_true
  pending pending := absurd rfl pending
  subscribing cccd := absurd rfl cccd
  ready ready := absurd ready Bool.false_ne_true

theorem boot_agrees (config : BleEnrollConfig) : (ClientContext.boot config).NamesAgree :=
  ⟨fun ready => absurd ready Bool.false_ne_true, fun _ => rfl⟩

/-- The names agree after every call exactly as long as every session is completed out of the
    state that its last subscription is named by. -/
theorem names_agree_iff (config : ClientConfig) (turns : List ClientTurn) :
    AllStates (runAlone (ClientCall.body config)) ClientContext.NamesAgree
        (ClientContext.boot config.enroll) turns ↔
      AllSteps (runAlone (ClientCall.body config)) NamedOnCompletion
        (ClientContext.boot config.enroll) turns := by
  have judged {s : ClientContext} (sound : s.SessionSound) (names : s.NamesAgree)
      (turn : ClientTurn) : Judged (completesSession s turn.1) s
        (runAlone (ClientCall.body config) s turn) :=
    leads_finish (leads_call config turn.1 ⟨sound, names⟩) fun _ => trivial
  apply all_states_iff_all_steps (J := ClientContext.SessionSound)
  · exact fun s turn sound names _ => (judged sound names turn).1
  · exact fun s turn sound names => (judged sound names turn).2
  · exact boot_sound config.enroll
  · exact boot_agrees config.enroll

/-- A bonded phone connects before the start of the advertising is reported, and its session is
    prepared to the end. -/
def earlyConnect : List ClientTurn :=
  let bonded (cccdHandle : UInt16) : Nat → ClientEnv := fun _ =>
    { bondCount := 1, bondList := some [5], cccdHandle
      characteristics := some [⟨.notificationSource, true, false, 2⟩, ⟨.dataSource, true, false, 3⟩,
        ⟨.controlPoint, false, true, 4⟩] }
  [(.init, bonded 0), (.gattc (some 3) (.reg true), bonded 0), (.gap .setLocalPrivacyComplete, bonded 0),
    (.gap .advDataSetComplete, bonded 0), (.gap .scanRspDataSetComplete, bonded 0),
    (.gattc (some 3) (.connect 5 1), bonded 0), (.gap (.advStartComplete true), bonded 0),
    (.gattc (some 3) (.open 1 5 true), bonded 0), (.gap (.authCmpl 5 true 0), bonded 0),
    (.gattc (some 3) (.cfgMtu 1), bonded 0), (.gattc (some 3) (.searchRes 1 true 1 9), bonded 0),
    (.gattc (some 3) (.searchCmpl 1 true), bonded 0), (.gattc (some 3) (.regForNotify 3 true), bonded 6),
    (.gattc (some 3) (.writeDescr 1 6 true), bonded 0), (.gattc (some 3) (.regForNotify 2 true), bonded 7),
    (.gattc (some 3) (.writeDescr 1 7 true), bonded 0)]

def earlyConnectConfig : ClientConfig where
  enroll := { windowMs := 0, bootHoldMs := 0, buttonDebounceMs := 0 }
  workQueueLength := 16
  maxFragmentSize := 512

theorem ready_under_boot_name :
    (run (runAlone (ClientCall.body earlyConnectConfig)) (ClientContext.boot earlyConnectConfig.enroll)
        earlyConnect).state = .boot ∧
      ¬ AllStates (runAlone (ClientCall.body earlyConnectConfig)) ClientContext.NamesAgree
        (ClientContext.boot earlyConnectConfig.enroll) earlyConnect := by
  have last : (run (runAlone (ClientCall.body earlyConnectConfig))
      (ClientContext.boot earlyConnectConfig.enroll) earlyConnect).state = .boot ∧
      (run (runAlone (ClientCall.body earlyConnectConfig))
        (ClientContext.boot earlyConnectConfig.enroll) earlyConnect).ready = true := by
    decide +kernel
  refine ⟨last.1, fun all => ?_⟩
  have named := (all_states_last all).1 last.2
  exact absurd (last.1.symm.trans named) (by decide)

end Client
