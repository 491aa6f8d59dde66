import IosAncs.Client.Moves

/-!
Readiness of the session. Each section of each call either keeps the readiness
invariant, or is the one that takes the Notification Source for subscribed; that
one looks at the link again, but not at whether it is being closed.
-/
open Runs Sections Client ClientContext

namespace Readiness

def SessionReady (s : ClientContext) : Prop :=
  s.ready = true →
    s.connected = true ∧ s.closing = false ∧ s.sessionAuthenticated = true ∧
      s.linkEncrypted = true ∧ s.serviceFound = true ∧ s.dataSourceSubscribed = true ∧
      s.notificationSourceSubscribed = true

/-- The Notification Source is not taken for subscribed on a link that is complete
    but already being closed. -/
def SubscribesOpenLink (label : ClientSection) (_ : ClientEnv) (s : ClientContext) : Prop :=
  label = .notificationSubscribed → s.connected = true → s.sessionAuthenticated = true →
    s.linkEncrypted = true → s.serviceFound = true → s.dataSourceSubscribed = true →
    s.closing = false

theorem not_ready {s : ClientContext} (off : s.ready = false) : SessionReady s := by
  intro on
  rw [off] at on
  cases on

theorem ready_of_core {s t : ClientContext} (same : ClientMove.core s = ClientMove.core t)
    (ready : SessionReady t) : SessionReady s := by
  have core_ : SessionReady (ClientMove.core t) := ready
  rw [← same] at core_
  exact core_

theorem ready_deadlineChecked {s : ClientContext} (ready : SessionReady s) (now : Int) :
    SessionReady (s.deadlineChecked now).2.2 := by
  unfold deadlineChecked
  dsimp only
  split
  · split <;> exact not_ready rfl
  · split <;> exact ready

/-- A successful authentication, the service that is found and the data that are subscribed
    only add to what `ready` promises; every update that takes something away clears it. -/
theorem takes_ready {label : ClientSection} {env : ClientEnv} {s s' : ClientContext}
    {move : ClientMove} (takes : move.Takes label env s s')
    (other : label ≠ .notificationSubscribed) (ready : SessionReady s) : SessionReady s' := by
  cases move with
  | keep | windowClosed | guardCleared | reopenTaken | retryTaken | discoveryStopped | registered
  | mtuReady => cases takes; exact ready
  | named | reopenSet | enrollInit | replaceSet | replaceReported =>
    obtain ⟨_, rfl⟩ := takes
    exact ready
  | queued | «opened» | cccdFound | windowOpened => obtain ⟨_, _, rfl⟩ := takes; exact ready
  | handlesFound | subscribing => obtain ⟨_, _, _, rfl⟩ := takes; exact ready
  | retryScheduled => obtain ⟨_, _, _, _, _, rfl⟩ := takes; exact ready
  | aside => exact ready_of_core takes ready
  | bondsRead =>
    rcases takes with same | ⟨first, same⟩
    · exact ready_of_core same ready
    · exact ready_of_core same ready
  | connected => obtain ⟨_, rfl⟩ := takes; exact not_ready rfl
  | serviceChanged => obtain ⟨_, _, rfl⟩ := takes; exact not_ready rfl
  | discoveryStarted => obtain ⟨_, _, _, _, rfl⟩ := takes; exact not_ready rfl
  | disconnected | closing | handlesInvalidated | readyLost => cases takes; exact not_ready rfl
  | initFailed => exact ready_of_core takes (not_ready rfl)
  | deadlineChecked now => cases takes; exact ready_deadlineChecked ready now
  | authFailed failReason failureAtMs missing =>
    cases takes
    unfold ClientContext.authFailed recordAuthFailureLocked
    extract_lets first before count counted
    split <;> exact ready
  | authenticated peer =>
    cases takes
    intro on
    obtain ⟨connected, closing, _, _, found, data, notification⟩ := ready on
    exact ⟨connected, closing, rfl, rfl, found, data, notification⟩
  | serviceFound =>
    obtain ⟨_, _, rfl⟩ := takes
    intro on
    obtain ⟨connected, closing, authenticated, encrypted, _, data, notification⟩ := ready on
    exact ⟨connected, closing, authenticated, encrypted, rfl, data, notification⟩
  | dataSubscribed =>
    cases takes
    intro on
    obtain ⟨connected, closing, authenticated, encrypted, found, _, notification⟩ := ready on
    exact ⟨connected, closing, authenticated, encrypted, found, rfl, notification⟩
  | notificationSubscribed => exact absurd takes.1 other

theorem subscribe_exact (env : ClientEnv) (s : ClientContext) :
    SessionReady (subscribeNotificationSource s) ↔
      SubscribesOpenLink .notificationSubscribed env s := by
  simp only [SessionReady, SubscribesOpenLink, subscribeNotificationSource, Bool.and_eq_true,
    true_implies]
  constructor
  · intro ready connected authenticated encrypted found data
    exact (ready ⟨⟨⟨⟨connected, authenticated⟩, encrypted⟩, found⟩, data⟩).2.1
  · intro opens complete
    obtain ⟨⟨⟨⟨connected, authenticated⟩, encrypted⟩, found⟩, data⟩ := complete
    have closing := opens connected authenticated encrypted found data
    exact ⟨connected, closing, authenticated, encrypted, found, data, trivial⟩

theorem body_ready (config : ClientConfig) (call : ClientCall) :
    Always (fun label env s s' =>
      SessionReady s → (SessionReady s' ↔ SubscribesOpenLink label env s)) (call.body config) := by
  apply always_mono _ (makes_some config call)
  rintro label env s s' ⟨move, _, takes, only⟩ ready
  by_cases subscribes : label = .notificationSubscribed
  · subst subscribes
    obtain rfl := only rfl
    obtain ⟨_, rfl⟩ := takes
    exact subscribe_exact env s
  · exact iff_of_true (takes_ready takes subscribes ready) fun is => absurd is subscribes

/-- In every interleaving of callbacks, timers, worker turns and public calls, the
    readiness invariant holds in every state if and only if no section takes the
    Notification Source for subscribed on a complete link that is being closed. -/
theorem session_ready_iff_open_link (config : ClientConfig)
    (actions : List (ThreadAction ClientCall ClientEnv)) :
    AllStates (step (ClientCall.body config)) (fun t => SessionReady t.state)
        (initially (boot config.enroll)) actions ↔
      AllSteps (step (ClientCall.body config)) (SectionMeets SubscribesOpenLink)
        (initially (boot config.enroll)) actions :=
  all_states_iff_sections (body_ready config) (not_ready rfl) actions

/-- The calls of a phone that is bonded, connects, and is taken through the discovery
    of its services, with the number of sections each of them runs. -/
def subscribingCalls : List (ClientCall × Nat) :=
  [(.init, 10), (.gattc (some 3) (.reg true), 3), (.gap .setLocalPrivacyComplete, 4),
    (.gap .advDataSetComplete, 2), (.gap .scanRspDataSetComplete, 3),
    (.gap (.advStartComplete true), 4), (.gattc (some 3) (.connect 1 1), 7),
    (.gattc (some 3) (.open 1 1 true), 5), (.gap (.authCmpl 1 true 0), 6),
    (.gattc (some 3) (.cfgMtu 1), 7), (.gattc (some 3) (.searchRes 1 true 1 9), 4),
    (.gattc (some 3) (.searchCmpl 1 true), 11), (.gattc (some 3) (.regForNotify 7 true), 5),
    (.gattc (some 3) (.writeDescr 1 8 true), 9), (.gattc (some 3) (.regForNotify 2 true), 5)]

def setupEnv (thread : Nat) : ClientEnv where
  bondCount := 1
  bondList := some [1]
  cccdHandle := if thread < 14 then 8 else 3
  characteristics := some
    [{ uuid := .notificationSource, notify := true, write := false, handle := 2 },
      { uuid := .controlPoint, notify := false, write := true, handle := 5 },
      { uuid := .dataSource, notify := true, write := false, handle := 7 }]

/-- After these calls the stage's deadline of ten seconds passes: the worker closes
    the link between the checks of the handler and the section it ends with. -/
def closedWhileSubscribing : List (ThreadAction ClientCall ClientEnv) :=
  subscribingCalls.zipIdx.flatMap (fun ((call, sections), thread) =>
    .start call :: List.replicate sections (.run thread (setupEnv thread))) ++
  [.start (.gattc (some 3) (.writeDescr 1 3 true)), .start (.workerTurn 0),
    .run 15 {}, .run 15 {}, .run 15 {}, .run 15 {},
    .run 16 { nowMs := 10000 }, .run 16 { nowMs := 10000 }, .run 15 { nowMs := 10000 }]

def defaultConfig : ClientConfig where
  enroll := { windowMs := 120000, bootHoldMs := 3000, buttonDebounceMs := 20 }
  workQueueLength := 24
  maxFragmentSize := 512

theorem ready_while_closing :
    ¬ AllStates (step (ClientCall.body defaultConfig)) (fun t => SessionReady t.state)
      (initially (boot defaultConfig.enroll)) closedWhileSubscribing := by
  intro all
  have closing := (all_states_last all (by decide +kernel)).2.1
  exact absurd closing (by decide +kernel)

end Readiness
