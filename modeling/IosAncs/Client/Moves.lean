import IosAncs.Client.Callbacks

/-!
Every update that some section of the client makes to the shared context, with what the
section has checked before. An invariant of the context is shown for the updates, once;
which call makes which updates is shown here.
-/
open Sections Client ClientContext

def ClientContext.connectedTo (s : ClientContext) (peer : BdAddr) (connId : UInt16) (nowMs : Int) :
    ClientContext :=
  { invalidateAncsHandlesLocked { s with
      generation := s.generation + 1
      sessionAuthenticated := false
      linkEncrypted := false
      closing := false
      closeAttempts := 0
      closeRetryDueMs := 0
      mtuReady := false
      discoveryAttempt := 0
      discoveryRetryDueMs := 0
      lastStageError := 0
      prepareDeadlineMs := nowMs + prepareTimeoutMs
      stageDeadlineMs := nowMs + authTimeoutMs } with
    remoteBda := peer
    connId
    connected := true
    advertising := false
    advertisingStarting := false }

def ClientContext.sessionReset (s : ClientContext) : ClientContext :=
  invalidateAncsHandlesLocked { s with
    connected := false
    bonded := false
    sessionAuthenticated := false
    linkEncrypted := false
    closing := false
    closeAttempts := 0
    closeRetryDueMs := 0
    mtuReady := false
    stageDeadlineMs := 0
    prepareDeadlineMs := 0
    discoveryRetryDueMs := 0
    discoveryAttempt := 0
    generation := s.generation + 1 }

def ClientContext.serviceChanged (s : ClientContext) (nowMs : Int) : ClientContext :=
  invalidateAncsHandlesLocked { s with
    prepareDeadlineMs := nowMs + prepareTimeoutMs
    discoveryRetryDueMs := 0
    discoveryAttempt := 0
    generation := s.generation + 1 }

def ClientContext.discoveryStarted (s : ClientContext) (nowMs : Int) : ClientContext :=
  { s with
    ready := false
    dataSourceSubscribed := false
    notificationSourceSubscribed := false
    notificationSourceHandle := invalidHandle
    dataSourceHandle := invalidHandle
    controlPointHandle := invalidHandle
    dataSourceCccdHandle := invalidHandle
    notificationSourceCccdHandle := invalidHandle
    serviceFound := false
    discoveryInProgress := true
    discoveryRetryDueMs := 0
    stageDeadlineMs := nowMs + discoveryTimeoutMs }

/-- The section of `check_connection_deadline`: whether it closes the connection, whether it
    asks for the disconnect, and the context. -/
def ClientContext.deadlineChecked (s : ClientContext) (now : Int) : Bool × Bool × ClientContext :=
  let expired := s.connected && !s.ready && !s.closing &&
    ((s.stageDeadlineMs != 0 && decide (s.stageDeadlineMs ≤ now)) ||
      (s.prepareDeadlineMs != 0 && decide (s.prepareDeadlineMs ≤ now)))
  let closed := if expired then
    { s with
      closing := true
      ready := false
      lastStageError := espErrTimeout
      discoveryRetryDueMs := 0 }
    else s
  let requestClose := closed.connected && closed.closing && decide (closed.closeAttempts < 3) &&
    decide (closed.closeRetryDueMs ≤ now)
  (expired, requestClose, if requestClose then
    { closed with closeAttempts := closed.closeAttempts + 1, closeRetryDueMs := now + 3000 }
    else closed)

def ClientContext.authenticatedBy (s : ClientContext) (peer : BdAddr) (nowMs : Int) : ClientContext :=
  let cleared := clearAuthFailureGuardLocked { s with
    bonded := true
    sessionAuthenticated := true
    linkEncrypted := true
    stageDeadlineMs := nowMs + discoveryTimeoutMs }
  { cleared with enroll := cleared.enroll.noteBonded peer }

def ClientContext.authFailed (s : ClientContext) (failReason failureAtMs : Int) (missing : Bool) :
    ClientContext :=
  recordAuthFailureLocked
    { s with
      authError := failReason
      lastAuthError := failReason
      lastAuthErrorAtMs := failureAtMs }
    failureAtMs missing

/-- The updates. Those in one group are of fields that nothing else depends on. -/
inductive ClientMove where
  | keep
  /-- the state's name -/
  | named
  /-- advertising, the button, the interface and the reports -/
  | aside
  /-- the queue, and the timer that comes with it -/
  | queued
  | windowClosed
  | windowOpened (now : Int)
  | guardCleared
  | bondsRead
  | replaceSet (pending : Bool)
  | replaceReported
  | reopenSet
  | reopenTaken
  | enrollInit
  | connected (peer : BdAddr) (connId : UInt16)
  | opened
  | disconnected
  | serviceChanged
  | authenticated (peer : BdAddr)
  | authFailed (failReason failureAtMs : Int) (missing : Bool)
  | closing
  | deadlineChecked (now : Int)
  | retryScheduled
  | retryTaken
  | discoveryStarted
  | discoveryStopped
  | handlesInvalidated
  | handlesFound
  | serviceFound
  | subscribing (handle : UInt16)
  | registered
  | cccdFound
  | mtuReady
  | dataSubscribed
  | notificationSubscribed
  | readyLost
  | initFailed

namespace ClientMove

/-- The fields that the updates aside are of do not show in this. -/
def core (s : ClientContext) : ClientContext :=
  { s with
    initialized := false
    gattcIf := none
    bootBondCount := 0
    bondStoreError := 0
    lastStageError := 0
    lastDisconnectReason := 0
    advertising := false
    advertisingStarting := false
    advertisingAttempt := 0
    advDataPending := false
    scanResponsePending := false
    enrollTimer := false
    enrollButton := BleEnrollButton.init s.enroll.config }

def Takes (label : ClientSection) (env : ClientEnv) (s s' : ClientContext) : ClientMove → Prop
  | .keep => s' = s
  | .named => ∃ state, s' = { s with state }
  | .aside => core s' = core s
  | .queued => ∃ workQueue enrollTimer, s' = { s with workQueue, enrollTimer }
  | .windowClosed => s' = { s with enroll := s.enroll.closeWindow }
  | .windowOpened now =>
    s.connected = false ∧ s.replacePending = false ∧
      s' = { s.clearAuthFailureGuardLocked with
        enroll := (s.clearAuthFailureGuardLocked.enroll.openWindow now).1 }
  | .guardCleared => s' = s.clearAuthFailureGuardLocked
  | .bondsRead => core s' = core { s with enroll := s.enroll.clearBond, bonded := false } ∨
      ∃ first, core s' = core { s with enroll := s.enroll.noteBonded first, bonded := true }
  | .replaceSet pending =>
    ∃ error, s' = { s with replacePending := pending, lastReplaceError := error }
  | .replaceReported => ∃ error, s' = { s with lastReplaceError := error }
  | .reopenSet => s.connected = true ∧ s' = { s with reopenAfterDisconnect := true }
  | .reopenTaken => s' = { s with reopenAfterDisconnect := false }
  | .enrollInit => ∃ config, s' = { s with
      enroll := BleEnrollState.init config, enrollButton := BleEnrollButton.init config }
  | .connected peer connId => s.connected = false ∧ s' = s.connectedTo peer connId env.nowMs
  | .opened => ∃ connId peer, s' = { s with connId, remoteBda := peer }
  | .disconnected => s' = s.sessionReset
  | .serviceChanged => s.connected = true ∧ s.closing = false ∧ s' = s.serviceChanged env.nowMs
  | .authenticated peer => s' = s.authenticatedBy peer env.nowMs
  | .authFailed failReason failureAtMs missing => s' = s.authFailed failReason failureAtMs missing
  | .closing => s' = { s with
      closing := true, sessionAuthenticated := false, linkEncrypted := false, ready := false
      discoveryRetryDueMs := 0 }
  | .deadlineChecked now => s' = (s.deadlineChecked now).2.2
  | .retryScheduled =>
    ∃ error stageDeadlineMs discoveryAttempt discoveryRetryGeneration discoveryRetryDueMs,
      s' = { s with
        lastStageError := error, stageDeadlineMs, discoveryAttempt, discoveryRetryGeneration
        discoveryRetryDueMs }
  | .retryTaken => s' = { s with discoveryRetryDueMs := 0 }
  | .discoveryStarted =>
    s.connected = true ∧ s.closing = false ∧ s.sessionAuthenticated = true ∧ s.ready = false ∧
      s' = s.discoveryStarted env.nowMs
  | .discoveryStopped => s' = { s with discoveryInProgress := false }
  | .handlesInvalidated => s' = s.invalidateAncsHandlesLocked
  | .handlesFound => ∃ notificationSource dataSource controlPoint, s' = { s with
      notificationSourceHandle := notificationSource
      dataSourceHandle := dataSource
      controlPointHandle := controlPoint
      discoveryAttempt := 0 }
  | .serviceFound => ∃ startHandle endHandle, s' = { s with
      serviceFound := true, serviceStartHandle := startHandle, serviceEndHandle := endHandle }
  | .subscribing handle =>
    s.connected = true ∧ s.closing = false ∧ s.sessionAuthenticated = true ∧ s' = { s with
      stageDeadlineMs := env.nowMs + subscribeTimeoutMs
      pendingNotifyHandle := handle
      pendingNotifyGeneration := s.generation }
  | .registered => s' = { s with pendingNotifyHandle := invalidHandle }
  | .cccdFound => ∃ data notification, s' = { s with
      dataSourceCccdHandle := data, notificationSourceCccdHandle := notification }
  | .mtuReady => s' = { s with mtuReady := true }
  | .dataSubscribed => s' = { s with dataSourceSubscribed := true }
  | .notificationSubscribed =>
    label = .notificationSubscribed ∧ s' = subscribeNotificationSource s
  | .readyLost => s' = { s with ready := false }
  | .initFailed => core s' = core (invalidateAncsHandlesLocked
      { s with connected := false, bonded := false })

/-- The updates that neither name the state nor send to the queue, that no enrollment or
    replacement is about, that neither a connection nor its deadline begins or ends with, and
    that no session gets ready by. -/
def Plain : ClientMove → Prop
  | .named | .queued | .windowOpened _ | .guardCleared | .replaceSet _ | .replaceReported
  | .reopenSet | .reopenTaken | .connected _ _ | .authenticated _ | .disconnected
  | .serviceChanged | .deadlineChecked _ | .handlesFound | .subscribing _ | .cccdFound
  | .notificationSubscribed | .initFailed => False
  | _ => True

def Subscribes : ClientMove → Prop
  | .handlesFound | .subscribing _ | .cccdFound | .notificationSubscribed => True
  | _ => False

def Replaces : ClientMove → Prop
  | .replaceSet false | .replaceReported | .reopenTaken => True
  | _ => False

def Common (move : ClientMove) : Prop :=
  move.Plain ∨ move.Subscribes ∨ move.Replaces ∨ move = .named ∨ move = .queued ∨ move = .initFailed

end ClientMove

namespace Client
variable {α β : Type} {K L : ClientMove → Prop}

/-- Every section of the program makes one of these updates, and the one that takes the
    Notification Source for subscribed makes its own. -/
abbrev Makes (K : ClientMove → Prop) (program : Client α) : Prop :=
  Always (fun label env s s' => ∃ move, K move ∧ move.Takes label env s s' ∧
    (label = .notificationSubscribed → move = .notificationSubscribed)) program

theorem makes_read (still : K .keep) (read : ClientEnv → ClientContext → α) :
    Makes K (query read) :=
  always_atomic fun _ _ => ⟨.keep, still, rfl, nofun⟩

theorem makes_query (plain : ∀ move, move.Plain → K move) (read : ClientEnv → ClientContext → α) :
    Makes K (query read) :=
  makes_read (plain _ trivial) read

theorem makes_section {body : ClientEnv → ClientContext → α × ClientContext}
    (h : ∀ env s, ∃ move, K move ∧ move.Takes .update env s (body env s).2) :
    Makes K (section_ body) := by
  apply always_atomic
  intro env s
  obtain ⟨move, allowed, takes⟩ := h env s
  exact ⟨move, allowed, takes, nofun⟩

theorem makes_update {write : ClientEnv → ClientContext → ClientContext}
    (h : ∀ env s, ∃ move, K move ∧ move.Takes .update env s (write env s)) :
    Makes K (update write) :=
  makes_section h

theorem makes_move {write : ClientEnv → ClientContext → ClientContext} (move : ClientMove)
    (allowed : K move) (h : ∀ env s, move.Takes .update env s (write env s)) :
    Makes K (update write) :=
  makes_update fun env s => ⟨move, allowed, h env s⟩

theorem makes_discard {program : Client α} (h : Makes K program) :
    Makes K (discard program : Client Unit) :=
  always_bind h fun _ => trivial

theorem makes_when {condition : Prop} [Decidable condition] {program : Client Unit}
    (h : Makes K program) : Makes K (if condition then program else pure ()) := by
  split
  · exact h
  · trivial

theorem makes_enqueueWork (queues : K .queued) (item : WorkItem) : Makes K (enqueueWork item) := by
  apply makes_section
  intro env s
  refine ⟨.queued, queues, ?_⟩
  split
  · exact ⟨_, _, rfl⟩
  · split <;> exact ⟨_, _, rfl⟩

theorem makes_scheduleAdvertisingRetry (aside : K .aside) : Makes K scheduleAdvertisingRetry := by
  apply makes_update
  intro env s
  refine ⟨.aside, aside, ?_⟩
  dsimp only [ClientMove.Takes]
  split
  · rfl
  · split <;> rfl

theorem makes_startAdvertising (still : K .keep) (aside : K .aside) : Makes K startAdvertising := by
  apply always_bind
  · apply makes_section
    intro env s
    refine ⟨.aside, aside, ?_⟩
    dsimp only [ClientMove.Takes]
    split
    · rfl
    · split <;> rfl
  · intro start
    cases start with
    | refused => trivial
    | retry => exact makes_scheduleAdvertisingRetry aside
    | starting =>
      apply always_bind (makes_read still _)
      intro error
      apply makes_when
      apply always_bind (makes_move .aside aside fun _ _ => by rfl)
      intro _
      exact makes_scheduleAdvertisingRetry aside

theorem makes_stopAdvertising (aside : K .aside) : Makes K stopAdvertising :=
  makes_move .aside aside fun _ _ => rfl

theorem makes_resetConnectionSession (queues : K .queued) (resets : K .disconnected) :
    Makes K resetConnectionSession := by
  apply always_bind
  · exact makes_section fun _ _ => ⟨.disconnected, resets, rfl⟩
  · intro generation
    exact makes_discard (makes_enqueueWork queues _)

section Plain
variable (plain : ∀ move, move.Plain → K move)
include plain

theorem makes_setState (names : K .named) (state : AncsClientState) : Makes K (setState state) := by
  apply always_bind
  · exact makes_section fun _ _ => ⟨.named, names, _, rfl⟩
  · exact fun _ => makes_when (makes_query plain _)

theorem makes_transition (names : K .named) (signal : AncsClientSignal) :
    Makes K (transition signal) := by
  apply always_bind
  · exact makes_section fun _ _ => ⟨.named, names, _, rfl⟩
  · exact fun _ => makes_when (makes_query plain _)

theorem makes_enrollWindowActiveNow : Makes K enrollWindowActiveNow :=
  always_bind (makes_query plain _) fun _ => makes_query plain _

theorem makes_enrollShouldAdvertiseNow : Makes K enrollShouldAdvertiseNow := by
  apply always_bind (makes_query plain _)
  intro now
  apply makes_section
  intro env s
  dsimp only
  split
  · exact ⟨.windowClosed, plain _ trivial, rfl⟩
  · exact ⟨.keep, plain _ trivial, rfl⟩

theorem makes_bondListContainsPeer (peer : BdAddr) : Makes K (bondListContainsPeer peer) := by
  apply always_bind (makes_query plain _)
  intro bondCount
  split
  · trivial
  · exact makes_query plain _

theorem makes_connectionPeerAllowed (peer : BdAddr) : Makes K (connectionPeerAllowed peer) := by
  apply always_bind (makes_query plain _)
  intro count
  split
  · trivial
  · split
    · exact makes_bondListContainsPeer plain peer
    · exact makes_enrollWindowActiveNow plain

theorem makes_scheduleDiscoveryRetry : Makes K scheduleDiscoveryRetry := by
  apply makes_update
  intro env s
  split
  · exact ⟨.keep, plain _ trivial, rfl⟩
  · refine ⟨.retryScheduled, plain _ trivial, ?_⟩
    dsimp only
    split
    · exact ⟨_, _, _, _, _, rfl⟩
    · exact ⟨_, _, _, _, _, rfl⟩

theorem makes_recoverDiscovery (names : K .named) : Makes K recoverDiscovery :=
  always_bind (makes_setState plain names _) fun _ => makes_scheduleDiscoveryRetry plain

theorem makes_startDiscovery (names : K .named) : Makes K startDiscovery := by
  apply always_bind
  · apply makes_section
    intro env s
    split
    · exact ⟨.keep, plain _ trivial, rfl⟩
    · next free =>
      refine ⟨.discoveryStarted, plain _ trivial, ?_⟩
      simp only [Bool.or_eq_true, Bool.not_eq_true', not_or, Bool.not_eq_false] at free
      exact ⟨by simp_all, by simp_all, by simp_all, by simp_all, rfl⟩
  · intro started
    apply makes_when
    apply always_bind (makes_transition plain names _)
    intro _
    apply always_bind (makes_query plain _)
    intro error
    apply makes_when
    apply always_bind (makes_move .discoveryStopped (plain _ trivial) fun _ _ => by rfl)
    intro _
    exact makes_recoverDiscovery plain names

theorem makes_beginSubscription (names : K .named)
    (session : ∀ move, move.Subscribes → K move) (handle : ClientContext → UInt16)
    {started : Client Unit} (h : Makes K started) : Makes K (beginSubscription handle started) := by
  apply always_bind
  · apply makes_section
    intro env s
    split
    · exact ⟨.keep, plain _ trivial, rfl⟩
    · next free =>
      refine ⟨.subscribing (handle s), session _ trivial, ?_⟩
      simp only [Bool.or_eq_true, Bool.not_eq_true', not_or, Bool.not_eq_false] at free
      exact ⟨by simp_all, by simp_all, by simp_all, rfl⟩
  · intro valid
    apply makes_when
    apply always_bind h
    intro _
    apply always_bind (makes_query plain _)
    intro error
    exact makes_when (makes_recoverDiscovery plain names)

theorem makes_discoverCharacteristics (names : K .named)
    (session : ∀ move, move.Subscribes → K move) : Makes K discoverCharacteristics := by
  apply always_bind (makes_query plain _)
  rintro ⟨valid, generation, serviceStart, serviceEnd⟩
  apply makes_when
  apply always_bind (makes_query plain _)
  intro answer
  cases answer with
  | none => exact makes_recoverDiscovery plain names
  | some characteristics =>
    dsimp only
    split
    · apply always_bind (makes_move .handlesInvalidated (plain _ trivial) fun _ _ => by rfl)
      intro _
      exact makes_recoverDiscovery plain names
    · apply always_bind
      · apply makes_section
        intro _ s
        dsimp only
        split
        · exact ⟨.handlesFound, session _ trivial, _, _, _, rfl⟩
        · exact ⟨.keep, plain _ trivial, rfl⟩
      · intro stillValid
        exact makes_when (makes_beginSubscription plain names session _ (makes_transition plain names _))

theorem makes_handleServiceChanged (names : K .named) (queues : K .queued)
    (changes : K .serviceChanged) :
    Makes K handleServiceChanged := by
  apply always_bind
  · apply makes_section
    intro env s
    split
    · exact ⟨.keep, plain _ trivial, rfl⟩
    · next free =>
      refine ⟨.serviceChanged, changes, ?_⟩
      simp only [Bool.or_eq_true, Bool.not_eq_true', not_or, Bool.not_eq_false] at free
      exact ⟨by simp_all, by simp_all, rfl⟩
  · intro changed
    cases changed with
    | none => trivial
    | some generation =>
      apply always_bind (makes_discard (makes_enqueueWork queues _))
      intro _
      apply always_bind (makes_transition plain names _)
      intro _
      exact makes_startDiscovery plain names

theorem makes_syncExistingBleBond : Makes K syncExistingBleBond := by
  apply always_bind (makes_query plain _)
  intro bondCount
  apply makes_section
  intro env s
  dsimp only
  split
  · exact ⟨.aside, plain _ trivial, rfl⟩
  · exact ⟨.bondsRead, plain _ trivial, .inl rfl⟩
  · exact ⟨.bondsRead, plain _ trivial, .inr ⟨_, rfl⟩⟩

theorem makes_loadExistingBleBond : Makes K loadExistingBleBond := by
  apply always_bind (makes_syncExistingBleBond plain)
  intro count
  apply makes_update
  intro _ s
  split
  · exact ⟨.keep, plain _ trivial, rfl⟩
  · exact ⟨.aside, plain _ trivial, rfl⟩

theorem makes_removeAllBleBonds : Makes K removeAllBleBonds := by
  apply always_bind (makes_query plain _)
  intro bondCount
  split
  · trivial
  · split
    · apply always_bind (makes_move .bondsRead (plain _ trivial) fun _ _ => by exact .inl rfl)
      exact fun _ => trivial
    · exact makes_query plain _

theorem makes_requestEnroll (opens : ∀ now, K (.windowOpened now)) : Makes K requestEnroll := by
  apply always_bind (makes_query plain _)
  intro refused
  split
  · trivial
  · apply always_bind (makes_syncExistingBleBond plain)
    intro count
    split
    · trivial
    · split
      · apply always_bind (makes_move .windowClosed (plain _ trivial) fun _ _ => by rfl)
        intro _
        exact always_bind (makes_startAdvertising (plain _ trivial) (plain _ trivial)) fun _ => trivial
      · apply always_bind (makes_query plain _)
        intro now
        apply always_bind
        · apply makes_section
          intro _ s
          split
          · exact ⟨.keep, plain _ trivial, rfl⟩
          · next free =>
            refine ⟨.windowOpened now, opens now, ?_⟩
            simp only [Bool.or_eq_true, not_or, Bool.not_eq_true] at free
            exact ⟨free.1, free.2, rfl⟩
        · intro opened
          split
          · trivial
          · apply always_bind (makes_query plain _)
            intro error
            split
            · apply always_bind
              · apply makes_update
                intro _ s
                split
                · exact ⟨.windowClosed, plain _ trivial, rfl⟩
                · exact ⟨.keep, plain _ trivial, rfl⟩
              · intro _
                trivial
            · exact always_bind (makes_startAdvertising (plain _ trivial) (plain _ trivial)) fun _ => trivial

theorem makes_openReplacementWindow (opens : ∀ now, K (.windowOpened now)) (reopens : K .reopenSet) :
    Makes K openReplacementWindow := by
  apply always_bind
  · apply makes_section
    intro _ s
    dsimp only
    split
    · next connected => exact ⟨.reopenSet, reopens, connected, rfl⟩
    · exact ⟨.keep, plain _ trivial, rfl⟩
  · intro connected
    split
    · trivial
    · exact makes_requestEnroll plain opens

theorem makes_replaceEnrollment (replaces : ∀ move, move.Replaces → K move) (confirmed : Bool)
    (opens : confirmed = true → ∀ now, K (.windowOpened now))
    (reopens : confirmed = true → K .reopenSet) (clears : confirmed = true → K .guardCleared)
    (pends : confirmed = true → K (.replaceSet true)) : Makes K (replaceEnrollment confirmed) := by
  apply always_bind (makes_query plain _)
  intro initialized
  split
  · trivial
  · split
    · apply always_bind (makes_move .replaceReported (replaces _ trivial) fun _ _ => by exact ⟨_, rfl⟩)
      exact fun _ => trivial
    · next confirmed_ =>
      have confirmed_ : confirmed = true := by simpa using confirmed_
      apply always_bind (makes_move .guardCleared (clears confirmed_) fun _ _ => by rfl)
      intro _
      apply always_bind (makes_query plain _)
      intro bondCount
      apply always_bind (makes_move .replaceReported (replaces _ trivial) fun _ _ => by exact ⟨_, rfl⟩)
      intro _
      split
      · trivial
      · apply always_bind
        · apply makes_update
          intro _ s
          cases decide (0 < bondCount) with
          | true => exact ⟨.replaceSet true, pends confirmed_, _, rfl⟩
          | false => exact ⟨.replaceSet false, replaces _ trivial, _, rfl⟩
        intro _
        apply always_bind (makes_stopAdvertising (plain _ trivial))
        intro _
        apply always_bind (makes_removeAllBleBonds plain)
        intro error
        split
        · apply always_bind (makes_move (.replaceSet false) (replaces _ trivial) fun _ _ => by exact ⟨_, rfl⟩)
          intro _
          apply always_bind (makes_syncExistingBleBond plain)
          intro remaining
          exact always_when (makes_startAdvertising (plain _ trivial) (plain _ trivial)) trivial
        · apply always_bind (makes_query plain _)
          intro left
          split
          · apply always_bind (makes_move (.replaceSet false) (replaces _ trivial) fun _ _ => by exact ⟨_, rfl⟩)
            intro _
            apply always_bind (makes_openReplacementWindow plain (opens confirmed_) (reopens confirmed_))
            intro enrollError
            exact always_bind (makes_move .replaceReported (replaces _ trivial) fun _ _ => by exact ⟨_, rfl⟩) fun _ => trivial
          · trivial

theorem makes_setPairingAllowed (allowed : Bool) (opens : allowed = true → ∀ now, K (.windowOpened now)) :
    Makes K (setPairingAllowed allowed) := by
  unfold setPairingAllowed
  split
  · next allowed_ => exact makes_discard (makes_requestEnroll plain (opens allowed_))
  · apply always_bind (makes_section fun _ _ => ⟨.windowClosed, plain _ trivial, by rfl⟩)
    intro hasBond
    exact makes_when (makes_stopAdvertising (plain _ trivial))

theorem makes_startAdvertisingCall : Makes K startAdvertisingCall := by
  apply always_bind (makes_enrollShouldAdvertiseNow plain)
  intro allowed
  split
  · trivial
  · exact always_bind (makes_startAdvertising (plain _ trivial) (plain _ trivial)) fun _ => trivial

theorem makes_enrollTimeoutCallback : Makes K enrollTimeoutCallback := by
  apply always_bind (makes_query plain _)
  intro now
  apply always_bind
  · apply makes_section
    intro _ s
    dsimp only
    split
    · exact ⟨.windowClosed, plain _ trivial, rfl⟩
    · exact ⟨.keep, plain _ trivial, rfl⟩
  · rintro ⟨expired, hasBond⟩
    exact makes_when (makes_stopAdvertising (plain _ trivial))

theorem makes_enrollButtonCallback (opens : ∀ now, K (.windowOpened now)) :
    Makes K enrollButtonCallback := by
  apply always_bind (makes_query plain _)
  intro pressed
  apply always_bind (makes_section fun _ _ => ⟨.aside, plain _ trivial, by rfl⟩)
  intro shouldOpen
  exact makes_when (makes_discard (makes_requestEnroll plain opens))

theorem makes_discoveryRetryCallback (names : K .named) : Makes K discoveryRetryCallback := by
  apply always_bind (makes_query plain _)
  intro now
  apply always_bind
  · apply makes_section
    intro _ s
    dsimp only
    split
    · exact ⟨.retryTaken, plain _ trivial, rfl⟩
    · exact ⟨.keep, plain _ trivial, rfl⟩
  · intro current
    exact makes_when (makes_startDiscovery plain names)

theorem makes_requestClose (requestClose : Bool) (generation : UInt32) : Makes K (do
    if requestClose then do
      let error ← call
      if error ≠ espOk then
        update fun _ s =>
          if s.generation = generation then { s with lastStageError := error } else s) := by
  apply makes_when
  apply always_bind (makes_query plain _)
  intro error
  apply makes_when
  apply makes_update
  intro _ s
  split
  · exact ⟨.aside, plain _ trivial, rfl⟩
  · exact ⟨.keep, plain _ trivial, rfl⟩

theorem makes_checkConnectionDeadline (names : K .named) (checks : ∀ now, K (.deadlineChecked now)) :
    Makes K checkConnectionDeadline := by
  apply always_bind (makes_query plain _)
  intro now
  apply always_bind
  · exact makes_section fun _ _ => ⟨.deadlineChecked now, checks now, rfl⟩
  · rintro ⟨expired, requestClose, generation⟩
    dsimp only
    apply always_when (makes_setState plain names _)
    exact makes_requestClose plain requestClose generation

theorem makes_recoverDataStream (names : K .named) : Makes K recoverDataStream :=
  always_bind (makes_move .readyLost (plain _ trivial) fun _ _ => by rfl) fun _ =>
    makes_setState plain names _

theorem makes_recoverTimes (names : K .named) (times : Nat) : Makes K (recoverTimes times) := by
  induction times with
  | zero => trivial
  | succ times ih => exact always_bind (makes_recoverDataStream plain names) fun _ => ih

theorem makes_workerTurn (names : K .named) (queues : K .queued) (recoveries : Nat)
    (checks : ∀ now, K (.deadlineChecked now)) : Makes K (workerTurn recoveries) := by
  apply always_bind (makes_checkConnectionDeadline plain names checks)
  intro _
  apply always_bind (makes_enrollTimeoutCallback plain)
  intro _
  apply always_bind (makes_discard (makes_query plain _))
  intro _
  apply always_bind
  · apply makes_section
    intro _ s
    refine ⟨.queued, queues, ?_⟩
    split <;> exact ⟨_, _, rfl⟩
  · intro _
    apply always_bind (makes_discard (makes_query plain _))
    intro _
    exact makes_recoverTimes plain names recoveries

theorem makes_authCmpl (names : K .named) (peer : BdAddr) (success : Bool) (failReason : Int)
    (authenticates : success = true → K (.authenticated peer)) :
    Makes K (gapEventHandler (.authCmpl peer success failReason)) := by
  apply always_bind (makes_query plain _)
  intro matched
  apply makes_when
  split
  · next success_ =>
    apply always_bind (makes_move (.authenticated peer) (authenticates success_) fun _ _ => by rfl)
    intro _
    apply always_bind (makes_stopAdvertising (plain _ trivial))
    intro _
    apply always_bind (makes_transition plain names _)
    intro _
    exact makes_startDiscovery plain names
  · apply always_bind (makes_query plain _)
    intro failureAtMs
    apply always_bind (makes_query plain _)
    intro bondCount
    apply always_bind
    · exact makes_section fun _ _ => ⟨.authFailed failReason failureAtMs (decide (bondCount = 0)),
        plain _ trivial, rfl⟩
    intro repairRequired
    apply always_bind (makes_move .closing (plain _ trivial) fun _ _ => by rfl)
    intro _
    apply always_bind (makes_setState plain names _)
    intro _
    apply always_bind (makes_query plain _)
    intro _
    split
    · exact makes_stopAdvertising (plain _ trivial)
    · exact makes_scheduleAdvertisingRetry (plain _ trivial)

theorem makes_removeBondDevComplete (replaces : ∀ move, move.Replaces → K move) (success : Bool)
    (opens : success = true → ∀ now, K (.windowOpened now))
    (reopens : success = true → K .reopenSet) :
    Makes K (gapEventHandler (.removeBondDevComplete success)) := by
  simp only [gapEventHandler]
  split
  · apply always_bind (makes_move (.replaceSet false) (replaces _ trivial) fun _ _ => by exact ⟨_, rfl⟩)
    intro _
    apply always_bind (makes_syncExistingBleBond plain)
    intro remaining
    exact makes_when (makes_startAdvertising (plain _ trivial) (plain _ trivial))
  · next success_ =>
    have success_ : success = true := by simpa using success_
    apply always_bind (makes_syncExistingBleBond plain)
    intro remaining
    apply always_bind
    · apply makes_section
      intro _ s
      split
      · exact ⟨.replaceSet false, replaces _ trivial, _, rfl⟩
      · exact ⟨.keep, plain _ trivial, rfl⟩
    · intro shouldOpen
      apply makes_when
      apply always_bind (makes_openReplacementWindow plain (opens success_) (reopens success_))
      intro enrollError
      exact makes_when (makes_move .replaceReported (replaces _ trivial) fun _ _ => ⟨_, rfl⟩)

def Gap (K : ClientMove → Prop) : GapEvent → Prop
  | .authCmpl peer true _ => K (.authenticated peer)
  | .removeBondDevComplete true => (∀ now, K (.windowOpened now)) ∧ K .reopenSet
  | _ => True

def NamesState : GapEvent → Prop
  | .advStartComplete _ | .authCmpl _ _ _ => True
  | _ => False

theorem makes_gapEventHandler (replaces : ∀ move, move.Replaces → K move) (event : GapEvent)
    (names : NamesState event → K .named)
    (more : Gap K event) : Makes K (gapEventHandler event) := by
  cases event with
  | setLocalPrivacyComplete =>
    apply always_bind (makes_move .aside (plain _ trivial) fun _ _ => by rfl)
    intro _
    apply always_bind (makes_query plain _)
    intro dataError
    dsimp only
    apply always_when
    · exact makes_move .aside (plain _ trivial) fun _ _ => rfl
    · apply always_bind (makes_query plain _)
      intro responseError
      apply always_when
      · exact makes_move .aside (plain _ trivial) fun _ _ => rfl
      · exact makes_startAdvertising (plain _ trivial) (plain _ trivial)
  | advDataSetComplete | scanRspDataSetComplete =>
    apply always_bind (makes_move .aside (plain _ trivial) fun _ _ => by rfl)
    intro _
    exact makes_startAdvertising (plain _ trivial) (plain _ trivial)
  | advStartComplete success =>
    apply always_bind
    · apply makes_section
      intro env s
      refine ⟨.aside, plain _ trivial, ?_⟩
      dsimp only [ClientMove.Takes]
      split <;> rfl
    · rintro ⟨connected, stopDisallowed⟩
      dsimp only
      split
      · split
        · trivial
        · apply always_bind (makes_query plain _)
          intro state
          split
          · exact makes_transition plain (names trivial) _
          · exact makes_setState plain (names trivial) _
      · exact makes_scheduleAdvertisingRetry (plain _ trivial)
  | secReq peer =>
    apply always_bind (makes_enrollWindowActiveNow plain)
    intro active
    exact makes_when (makes_discard (makes_bondListContainsPeer plain peer))
  | authCmpl peer success failReason =>
    cases success with
    | false => exact makes_authCmpl plain (names trivial) peer false failReason fun no => absurd no (by simp)
    | true => exact makes_authCmpl plain (names trivial) peer true failReason fun _ => more
  | removeBondDevComplete success =>
    cases success with
    | false =>
      exact makes_removeBondDevComplete plain replaces false (fun no => absurd no (by simp))
        fun no => absurd no (by simp)
    | true => exact makes_removeBondDevComplete plain replaces true (fun _ => more.1) fun _ => more.2
  | other => trivial

theorem makes_connectEvt (names : K .named) (peer : BdAddr) (connId : UInt16)
    (connects : K (.connected peer connId)) : Makes K (connectEvt peer connId) := by
  apply always_bind (makes_connectionPeerAllowed plain peer)
  intro allowed
  apply makes_when
  apply always_bind
  · apply makes_section
    intro env s
    split
    · exact ⟨.keep, plain _ trivial, rfl⟩
    · next free => exact ⟨.connected peer connId, connects, by simpa using free, rfl⟩
  · intro connected
    exact makes_when (makes_transition plain names _)

theorem makes_openEvt (names : K .named) (connId : UInt16) (peer : BdAddr) (success : Bool) :
    Makes K (openEvt connId peer success) := by
  apply always_bind (makes_query plain _)
  intro matched
  apply makes_when
  apply always_bind (makes_move .opened (plain _ trivial) fun _ _ => by exact ⟨_, _, rfl⟩)
  intro _
  exact makes_transition plain names _

theorem makes_cfgMtuEvt (names : K .named) (connId : UInt16) : Makes K (cfgMtuEvt connId) := by
  apply always_bind (makes_query plain _)
  intro matched
  apply makes_when
  apply always_bind (makes_move .mtuReady (plain _ trivial) fun _ _ => by rfl)
  intro _
  exact makes_startDiscovery plain names

theorem makes_searchResEvt (connId : UInt16) (ancs : Bool) (startHandle endHandle : UInt16) :
    Makes K (searchResEvt connId ancs startHandle endHandle) := by
  apply always_bind (makes_query plain _)
  intro searching
  apply makes_when
  apply always_bind (makes_query plain _)
  intro matched
  exact makes_when (makes_move .serviceFound (plain _ trivial) fun _ _ => ⟨_, _, rfl⟩)

theorem makes_searchCmplEvt (names : K .named)
    (session : ∀ move, move.Subscribes → K move) (connId : UInt16) (success : Bool) :
    Makes K (searchCmplEvt connId success) := by
  apply always_bind (makes_query plain _)
  intro searching
  apply makes_when
  apply always_bind (makes_query plain _)
  intro matched
  apply makes_when
  apply always_bind (makes_section fun _ _ => ⟨.discoveryStopped, plain _ trivial, by rfl⟩)
  intro serviceFound
  split
  · exact makes_recoverDiscovery plain names
  · exact makes_discoverCharacteristics plain names session

theorem makes_regForNotifyEvt (names : K .named)
    (session : ∀ move, move.Subscribes → K move) (handle : UInt16) (success : Bool) :
    Makes K (regForNotifyEvt handle success) := by
  apply always_bind
  · apply makes_section
    intro _ s
    dsimp only
    split
    · exact ⟨.registered, plain _ trivial, rfl⟩
    · exact ⟨.keep, plain _ trivial, rfl⟩
  intro expected
  apply makes_when
  split
  · exact makes_recoverDiscovery plain names
  apply always_bind (makes_query plain _)
  rintro ⟨dataSource, notificationSource⟩
  dsimp only
  split
  · apply always_bind (makes_query plain _)
    rintro ⟨error, cccd⟩
    dsimp only
    split
    · exact makes_recoverDiscovery plain names
    · apply makes_update
      intro _ s
      split
      · exact ⟨.cccdFound, session _ trivial, _, _, rfl⟩
      · exact ⟨.keep, plain _ trivial, rfl⟩
  · apply makes_when
    apply always_bind (makes_query plain _)
    rintro ⟨error, cccd⟩
    dsimp only
    split
    · exact makes_recoverDiscovery plain names
    · apply makes_update
      intro _ s
      split
      · exact ⟨.cccdFound, session _ trivial, _, _, rfl⟩
      · exact ⟨.keep, plain _ trivial, rfl⟩

theorem makes_writeDescrEvt (names : K .named)
    (session : ∀ move, move.Subscribes → K move) (connId handle : UInt16) (success : Bool) :
    Makes K (writeDescrEvt connId handle success) := by
  apply always_bind (makes_query plain _)
  intro matched
  apply makes_when
  apply always_bind (makes_query plain _)
  intro expected
  apply makes_when
  split
  · exact makes_recoverDiscovery plain names
  apply always_bind (makes_query plain _)
  rintro ⟨dataSourceCccd, notificationSourceCccd⟩
  dsimp only
  split
  · apply always_bind (makes_move .dataSubscribed (plain _ trivial) fun _ _ => by rfl)
    intro _
    apply always_bind (makes_transition plain names _)
    intro _
    exact makes_beginSubscription plain names session _ trivial
  · apply makes_when
    apply always_bind
    · exact always_atomic fun _ _ => ⟨.notificationSubscribed, session _ trivial, ⟨rfl, rfl⟩, fun _ => rfl⟩
    intro ready
    apply always_bind (makes_transition plain names _)
    intro _
    exact makes_when (makes_setState plain names _)

theorem makes_notifyEvt (queues : K .queued) (maxFragmentSize : Nat) (connId handle : UInt16) (value : List UInt8) :
    Makes K (notifyEvt maxFragmentSize connId handle value) := by
  apply always_bind (makes_query plain _)
  intro matched
  apply makes_when
  apply always_bind (makes_query plain _)
  rintro ⟨notificationSource, dataSource⟩
  dsimp only
  split
  · split
    · trivial
    · apply always_bind (makes_query plain _)
      intro generation
      exact makes_discard (makes_enqueueWork queues _)
  · apply makes_when
    apply always_bind (makes_query plain _)
    intro memory
    apply makes_when
    apply always_bind (makes_query plain _)
    intro generation
    exact makes_discard (makes_enqueueWork queues _)

theorem makes_writeCharEvt (queues : K .queued) (connId handle : UInt16) (status : Int) :
    Makes K (writeCharEvt connId handle status) := by
  apply always_bind (makes_query plain _)
  intro matched
  apply makes_when
  apply always_bind (makes_query plain _)
  intro controlPoint
  apply makes_when
  apply always_bind (makes_query plain _)
  intro generation
  exact makes_discard (makes_enqueueWork queues _)

theorem makes_reopen (replaces : ∀ move, move.Replaces → K move)
    (opens : ∀ now, K (.windowOpened now)) : Makes K (do
      let reopen ← section_ fun _ s =>
        (s.reopenAfterDisconnect, { s with reopenAfterDisconnect := false })
      if reopen then do
        let error ← requestEnroll
        update fun _ s => { s with lastReplaceError := error }
      else scheduleAdvertisingRetry) := by
  apply always_bind (makes_section fun _ _ => ⟨.reopenTaken, replaces _ trivial, by rfl⟩)
  intro reopen
  split
  · apply always_bind (makes_requestEnroll plain opens)
    intro error
    exact makes_move .replaceReported (replaces _ trivial) fun _ _ => ⟨_, rfl⟩
  · exact makes_scheduleAdvertisingRetry (plain _ trivial)

theorem makes_disconnectEvt (names : K .named) (queues : K .queued)
    (replaces : ∀ move, move.Replaces → K move) (connId : UInt16) (peer : BdAddr) (reason : Int)
    (opens : ∀ now, K (.windowOpened now)) (resets : K .disconnected) :
    Makes K (disconnectEvt connId peer reason) := by
  apply always_bind (makes_query plain _)
  intro matched
  apply makes_when
  apply always_bind (makes_move .aside (plain _ trivial) fun _ _ => by rfl)
  intro _
  apply always_bind (makes_resetConnectionSession queues resets)
  intro _
  apply always_bind (makes_transition plain names _)
  intro _
  exact makes_reopen plain replaces opens

def Gattc (K : ClientMove → Prop) : GattcEvent → Prop
  | .connect peer connId => K (.connected peer connId)
  | .disconnect _ _ _ => (∀ now, K (.windowOpened now)) ∧ K .disconnected
  | .srvcChg _ => K .serviceChanged
  | _ => True

theorem makes_initFailed (names : K .named) (queues : K .queued) (fails : K .initFailed) :
    Makes K initFailed := by
  apply always_bind (makes_move .queued queues fun _ _ => by exact ⟨_, _, rfl⟩)
  intro _
  apply always_bind (makes_move .initFailed fails fun _ _ => by rfl)
  intro _
  apply always_bind (makes_setState plain names _)
  intro _
  exact makes_query plain _

theorem makes_init (names : K .named) (queues : K .queued) (fails : K .initFailed)
    (config : BleEnrollConfig) (workQueueLength : Nat) :
    Makes K (init config workQueueLength) := by
  apply always_bind (makes_query plain _)
  intro _
  apply always_bind (makes_move .enrollInit (plain _ trivial) fun _ _ => by exact ⟨_, rfl⟩)
  intro _
  apply always_bind (makes_query plain _)
  intro nvsError
  split
  · apply always_bind (makes_move .aside (plain _ trivial) fun _ _ => by rfl)
    intro _
    exact makes_initFailed plain names queues fails
  · apply always_bind (makes_query plain _)
    intro before
    split
    · exact makes_initFailed plain names queues fails
    · apply always_bind (makes_move .queued queues fun _ _ => by exact ⟨_, _, rfl⟩)
      intro _
      apply always_bind (makes_loadExistingBleBond plain)
      intro _
      apply always_bind (makes_query plain _)
      intro after
      split
      · exact makes_initFailed plain names queues fails
      · exact makes_move .aside (plain _ trivial) fun _ _ => rfl

end Plain

theorem makes_handleGattcEvent (common : ∀ move, move.Common → K move) (maxFragmentSize : Nat)
    (gattcIf : Option Nat) (event : GattcEvent) (more : Gattc K event) :
    Makes K (handleGattcEvent maxFragmentSize gattcIf event) := by
  have plain (move : ClientMove) (plain : move.Plain) : K move := common move (.inl plain)
  have session (move : ClientMove) (subscribes : move.Subscribes) : K move :=
    common move (.inr (.inl subscribes))
  have replaces (move : ClientMove) (replaces : move.Replaces) : K move :=
    common move (.inr (.inr (.inl replaces)))
  have names : K .named := common _ (by simp [ClientMove.Common])
  have queues : K .queued := common _ (by simp [ClientMove.Common])
  cases event with
  | reg success => exact makes_move .aside (plain _ trivial) fun _ _ => rfl
  | connect peer connId => exact makes_connectEvt plain names peer connId more
  | «open» connId peer success => exact makes_openEvt plain names connId peer success
  | cfgMtu connId => exact makes_cfgMtuEvt plain names connId
  | searchRes connId ancs startHandle endHandle =>
    exact makes_searchResEvt plain connId ancs startHandle endHandle
  | searchCmpl connId success => exact makes_searchCmplEvt plain names session connId success
  | regForNotify handle success => exact makes_regForNotifyEvt plain names session handle success
  | writeDescr connId handle success => exact makes_writeDescrEvt plain names session connId handle success
  | notify connId handle value => exact makes_notifyEvt plain queues maxFragmentSize connId handle value
  | writeChar connId handle status => exact makes_writeCharEvt plain queues connId handle status
  | srvcChg peer =>
    apply always_bind (makes_query plain _)
    intro remote
    exact makes_when (makes_handleServiceChanged plain names queues more)
  | disconnect connId peer reason =>
    exact makes_disconnectEvt plain names queues replaces connId peer reason more.1 more.2
  | other => trivial

theorem makes_gattcCallback (common : ∀ move, move.Common → K move) (maxFragmentSize : Nat)
    (gattcIf : Option Nat) (event : GattcEvent) (more : Gattc K event) :
    Makes K (gattcCallback maxFragmentSize gattcIf event) := by
  unfold gattcCallback
  apply always_when
  · exact makes_move .aside (common _ (.inl trivial)) fun _ _ => rfl
  · apply makes_when
    apply always_bind (makes_read (common _ (.inl trivial)) _)
    intro registered
    exact makes_when (makes_handleGattcEvent common maxFragmentSize gattcIf event more)

def Special (K : ClientMove → Prop) : ClientCall → Prop
  | .gap event => Gap K event
  | .gattc _ event => Gattc K event
  | .workerTurn _ => ∀ now, K (.deadlineChecked now)
  | .enrollButton | .requestEnroll | .setPairingAllowed true => ∀ now, K (.windowOpened now)
  | .replaceEnrollment true =>
    (∀ now, K (.windowOpened now)) ∧ K .reopenSet ∧ K .guardCleared ∧ K (.replaceSet true)
  | _ => True

theorem makes_body (common : ∀ move, move.Common → K move) (config : ClientConfig)
    (call : ClientCall) (more : Special K call) : Makes K (call.body config) := by
  have plain (move : ClientMove) (plain : move.Plain) : K move := common move (.inl plain)
  have replaces (move : ClientMove) (replaces : move.Replaces) : K move :=
    common move (.inr (.inr (.inl replaces)))
  have names : K .named := common _ (by simp [ClientMove.Common])
  have queues : K .queued := common _ (by simp [ClientMove.Common])
  have fails : K .initFailed := common _ (by simp [ClientMove.Common])
  cases call with
  | init => exact makes_init plain names queues fails config.enroll config.workQueueLength
  | gap event => exact makes_gapEventHandler plain replaces event (fun _ => names) more
  | gattc gattcIf event => exact makes_gattcCallback common config.maxFragmentSize gattcIf event more
  | workerTurn recoveries => exact makes_workerTurn plain names queues recoveries more
  | advertisingRetry => exact makes_startAdvertising (plain _ trivial) (plain _ trivial)
  | enrollTimeout => exact makes_enrollTimeoutCallback plain
  | enrollButton => exact makes_enrollButtonCallback plain more
  | discoveryRetry => exact makes_discoveryRetryCallback plain names
  | requestEnroll => exact makes_discard (makes_requestEnroll plain more)
  | replaceEnrollment confirmed =>
    cases confirmed with
    | false =>
      exact makes_discard (makes_replaceEnrollment plain replaces false (fun no => absurd no (by simp))
        (fun no => absurd no (by simp)) (fun no => absurd no (by simp)) fun no => absurd no (by simp))
    | true =>
      exact makes_discard (makes_replaceEnrollment plain replaces true (fun _ => more.1)
        (fun _ => more.2.1) (fun _ => more.2.2.1) fun _ => more.2.2.2)
  | setPairingAllowed allowed =>
    cases allowed with
    | false => exact makes_setPairingAllowed plain false fun no => absurd no (by simp)
    | true => exact makes_setPairingAllowed plain true fun _ => more
  | startAdvertising => exact makes_discard (makes_startAdvertisingCall plain)
  | stopAdvertising => exact makes_stopAdvertising (plain _ trivial)

theorem special_of_forall (all : ∀ move, K move) (call : ClientCall) : Special K call := by
  cases call with
  | gap event =>
    cases event with
    | authCmpl _ success _ => cases success with
      | false => trivial
      | true => exact all _
    | removeBondDevComplete success => cases success with
      | false => trivial
      | true => exact ⟨fun _ => all _, all _⟩
    | _ => trivial
  | gattc _ event =>
    cases event with
    | connect => exact all _
    | disconnect => exact ⟨fun _ => all _, all _⟩
    | srvcChg => exact all _
    | _ => trivial
  | workerTurn | enrollButton | requestEnroll => exact fun _ => all _
  | replaceEnrollment confirmed => cases confirmed with
    | false => trivial
    | true => exact ⟨fun _ => all _, all _, all _, all _⟩
  | setPairingAllowed allowed => cases allowed with
    | false => trivial
    | true => exact fun _ => all _
  | _ => trivial

theorem makes_some (config : ClientConfig) (call : ClientCall) :
    Makes (fun _ => True) (call.body config) :=
  makes_body (fun _ _ => trivial) config call (special_of_forall (fun _ => trivial) call)

end Client
