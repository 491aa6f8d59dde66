import IosAncs.Provisioning.WifiSafety

/-!
From the sections that raise an event to the callback that is given it. The queue has room for
eight; what is raised meanwhile is sent once, and is lost if it finds them waiting.
-/
open Runs Sections Mutex WifiStation

def WifiMark.message? : WifiMark → Option ProvisioningRuntimeEvent
  | .raised event generation _ => some ⟨event, generation⟩
  | _ => none

/-- What the events go through, and what was raised, newest first. -/
structure EventPath where
  raised : List ProvisioningRuntimeEvent
  queue : List ProvisioningRuntimeEvent
  delivered : List ProvisioningRuntimeEvent
  lost : List ProvisioningRuntimeEvent
  overflowCount : UInt32

def WifiRuntime.eventPath (s : WifiRuntime) : EventPath where
  raised := s.station.history.marks.filterMap WifiMark.message?
  queue := s.eventQueue
  delivered := s.delivered
  lost := s.lost
  overflowCount := s.eventOverflowCount

/-- Only the link's events are raised by a section of the station. -/
def ProvisioningRuntimeEvent.OfLink (message : ProvisioningRuntimeEvent) : Prop :=
  message.event = .wifiConnected ∨ message.event = .wifiDisconnected

instance (message : ProvisioningRuntimeEvent) : Decidable message.OfLink :=
  inferInstanceAs (Decidable (_ ∨ _))

/-- What a task is about to do: send an event that it has raised, or count one that was lost. -/
inductive Handing where
  | idle
  | owing (message : ProvisioningRuntimeEvent)
  | losing
deriving DecidableEq

namespace Wifi

inductive PathStep (path : EventPath) : Handing → EventPath → Handing → Prop where
  | kept (phase : Handing) : PathStep path phase path phase
  | raised (message : ProvisioningRuntimeEvent) (link : message.OfLink) :
      PathStep path .idle { path with raised := message :: path.raised } (.owing message)
  | sent (message : ProvisioningRuntimeEvent) {phase : Handing}
      (owed : phase = .owing message ∨ phase = .idle ∧ ¬ message.OfLink)
      (room : path.queue.length < eventQueueLen) :
      PathStep path phase { path with queue := path.queue ++ [message] } .idle
  | lost (message : ProvisioningRuntimeEvent) {phase : Handing}
      (owed : phase = .owing message ∨ phase = .idle ∧ ¬ message.OfLink)
      (full : ¬ path.queue.length < eventQueueLen) :
      PathStep path phase { path with lost := path.lost ++ [message] } .losing
  | counted : PathStep path .losing { path with overflowCount := path.overflowCount + 1 } .idle
  | given (phase : Handing) (message : ProvisioningRuntimeEvent)
      (rest : List ProvisioningRuntimeEvent) (waits : path.queue = message :: rest) :
      PathStep path phase
        { path with queue := rest, delivered := path.delivered ++ [message] } phase

def Turn (phase : Handing) (s s' : WifiRuntime) (phase' : Handing) : Prop :=
  PathStep s.eventPath phase s'.eventPath phase'

abbrev Hands {α : Type} (phase : Handing) (program : Wifi α) (Ends : α → Handing → Prop) : Prop :=
  Follows (fun _ _ => True) Turn Ends phase program

abbrev Aside {α : Type} (program : Wifi α) : Prop :=
  Always (fun _ _ s s' => s'.eventPath = s.eventPath) program

section Rules
variable {α β : Type} {phase : Handing}

theorem hands_aside {program : Wifi α} (aside : Aside program) :
    Hands phase program fun _ phase' => phase' = phase := by
  refine follows_of_always ?_ aside fun _ => rfl
  intro label env s s' _ same
  unfold Turn
  rw [same]
  exact .kept phase

theorem hands_atomic {label : WifiSection} {body : WifiEnv → WifiRuntime → α × WifiRuntime}
    {Ends : α → Handing → Prop}
    (h : ∀ env s, ∃ phase', Turn phase s (body env s).2 phase' ∧ Ends (body env s).1 phase') :
    Hands phase (atomic label body) Ends :=
  follows_atomic fun env s _ => h env s

theorem aside_section {body : WifiEnv → WifiStation → α × WifiStation}
    (same : ∀ env st, (body env st).2.history.marks.filterMap WifiMark.message? =
      st.history.marks.filterMap WifiMark.message?) : Aside (section_ body) := by
  apply always_atomic
  intro env s
  simp only [WifiRuntime.eventPath, same]

theorem aside_query (read : WifiStation → α) : Aside (query read) := aside_section fun _ _ => rfl

theorem aside_update {write : WifiStation → WifiStation}
    (same : ∀ st, (write st).history.marks.filterMap WifiMark.message? =
      st.history.marks.filterMap WifiMark.message?) : Aside (update write) :=
  aside_section fun _ st => same st

theorem aside_call : Aside call := aside_section fun _ _ => rfl

theorem aside_if {condition : Prop} [Decidable condition] {first second : Wifi α}
    (h : Aside first) (h' : Aside second) : Aside (if condition then first else second) := by
  split
  · exact h
  · exact h'

theorem aside_calls (count : Nat) : Aside (calls count) := by
  induction count with
  | zero => exact always_pure _
  | succ rest ih => exact always_bind aside_call fun err => aside_if (always_pure _) ih

theorem aside_tryWifiMode (mode : WifiMode) (attempts : Nat) (err : Int) :
    Aside (tryWifiMode mode attempts err) := by
  induction attempts generalizing err with
  | zero => exact always_pure _
  | succ rest ih =>
    exact always_bind (aside_section fun _ _ => rfl) fun err => aside_if (always_pure _) (ih err)

theorem aside_applyWifiMode : Aside applyWifiModeUnlocked :=
  always_bind (aside_query _) fun mode => aside_tryWifiMode mode _ _

theorem aside_ensureWifiStarted : Aside ensureWifiStartedUnlocked := by
  apply always_bind (aside_query _)
  intro started
  apply aside_if (always_pure _)
  apply always_bind (aside_section fun _ _ => rfl)
  intro err
  apply aside_if (always_pure _)
  apply always_bind aside_call
  intro err
  apply aside_if (always_pure _)
  exact always_bind (aside_update fun _ => rfl) fun _ => always_pure _

theorem hasIp_message (st : WifiStation) (env : WifiEnv) :
    (st.hasIp env).2.history.marks.filterMap WifiMark.message? =
      st.history.marks.filterMap WifiMark.message? := by
  unfold hasIp
  split
  · rfl
  · split
    · split
      · rfl
      · split <;> rfl
    · rfl

theorem aside_hasIpIf (asked : Bool) : Aside (hasIpIf asked) := by
  unfold hasIpIf
  exact aside_if (aside_section fun env st => hasIp_message st env) (always_pure _)

theorem aside_callIf (asked : Bool) : Aside (callIf asked) := by
  unfold callIf
  exact aside_if aside_call (always_pure _)

theorem connectAnswered_message (st : WifiStation) (err : Int) (nowMs : Nat) (random : UInt32) :
    (st.connectAnswered err nowMs random).history.marks.filterMap WifiMark.message? =
      st.history.marks.filterMap WifiMark.message? := by
  unfold connectAnswered
  dsimp only
  split <;> rfl

theorem aside_connectIf (asked : Bool) (generation : UInt32) (nowMs : Nat) (random : UInt32) :
    Aside (connectIf asked generation nowMs random) := by
  unfold connectIf
  apply aside_if _ (always_pure _)
  apply always_bind (always_atomic fun _ _ => rfl)
  exact fun err => aside_update fun st => connectAnswered_message st err nowMs random

theorem aside_openAp : Aside openAp := by
  have configures : Aside configureApIpAndDhcp :=
    always_bind aside_call fun _ => aside_calls 5
  exact always_bind configures fun err => aside_if (always_pure _) aside_call

theorem aside_locked {body : Nat → UInt32 → Wifi α}
    (h : ∀ nowMs random, Aside (body nowMs random)) : Aside (locked body) := by
  apply always_bind (always_atomic fun _ _ => rfl)
  intro now
  apply always_bind (h now.1 now.2)
  intro result
  exact always_bind (always_atomic fun _ _ => rfl) fun _ => always_pure _

theorem hands_locked {body : Nat → UInt32 → Wifi α} {Ends : α → Handing → Prop}
    (h : ∀ nowMs random, Hands phase (body nowMs random) Ends) :
    Hands phase (locked body) Ends := by
  have locks : Aside lockWifiOperation := always_atomic fun _ _ => rfl
  have unlocks : Aside unlockWifiOperation := always_atomic fun _ _ => rfl
  apply follows_bind _ (hands_aside locks)
  rintro now _ rfl
  apply follows_bind _ (h now.1 now.2)
  intro result phase' ends
  apply follows_bind _ (hands_aside unlocks)
  rintro _ _ rfl
  exact ends

end Rules

theorem hands_dispatch {phase : Handing} (event : ProvisioningEvent) (generation : UInt32)
    (owed : phase = .owing ⟨event, generation⟩ ∨
      phase = .idle ∧ ¬ ProvisioningRuntimeEvent.OfLink ⟨event, generation⟩) :
    Hands phase (dispatchEventWithGeneration event generation) fun _ phase' => phase' = .idle := by
  apply follows_bind fun sent phase' => phase' = if sent then .idle else .losing
  · apply hands_atomic
    intro env s
    by_cases room : s.eventQueue.length < eventQueueLen
    · refine ⟨.idle, ?_, by simp [room]⟩
      simp only [room, ↓reduceIte]
      exact .sent ⟨event, generation⟩ owed room
    · refine ⟨.losing, ?_, by simp [room]⟩
      simp only [room, ↓reduceIte]
      exact .lost ⟨event, generation⟩ owed room
  · rintro sent _ rfl
    cases sent with
    | true => exact rfl
    | false =>
      apply hands_atomic
      intro env s
      exact ⟨.idle, .counted, rfl⟩

theorem hands_dispatchEvent (event : ProvisioningEvent)
    (other : event ≠ .wifiConnected ∧ event ≠ .wifiDisconnected) :
    Hands .idle (dispatchEvent event) fun _ phase => phase = .idle :=
  hands_dispatch event 0 (.inr ⟨rfl, not_or.mpr other⟩)

theorem hands_wifiTimeoutTurn :
    Hands .idle wifiTimeoutTurn fun _ phase => phase = .idle := by
  apply follows_bind fun _ phase => phase = .idle
  · apply hands_locked
    intro nowMs random
    have polls : Aside (section_ fun _ st =>
        (((st.poll nowMs random).1, st.activeStaAttemptGeneration),
          (st.poll nowMs random).2)) := by
      apply aside_section
      intro _ st
      dsimp only
      unfold poll
      split <;> rfl
    apply follows_bind _ (hands_aside polls)
    rintro acts _ rfl
    apply follows_bind _ (hands_aside (aside_hasIpIf _))
    rintro live _ rfl
    cases live with
    | true =>
      apply follows_bind fun _ phase => phase = .owing ⟨.wifiConnected, acts.2⟩
      · apply hands_atomic
        intro env s
        exact ⟨_, .raised ⟨.wifiConnected, acts.2⟩ (.inl rfl), rfl⟩
      · rintro _ _ rfl
        apply follows_bind _ (hands_dispatch .wifiConnected acts.2 (.inl rfl))
        rintro _ _ rfl
        exact rfl
    | false =>
      apply follows_bind _ (hands_aside (aside_callIf _))
      rintro _ _ rfl
      apply follows_bind _ (hands_aside (aside_connectIf _ _ _ _))
      rintro _ _ rfl
      exact rfl
  · rintro acts _ rfl
    dsimp only
    split
    · have other : ¬ ProvisioningRuntimeEvent.OfLink ⟨.wifiTimeout, acts.2⟩ := by
        simp [ProvisioningRuntimeEvent.OfLink]
      exact hands_dispatch .wifiTimeout acts.2 (.inr ⟨rfl, other⟩)
    · exact rfl

def Returns (notify : Option ProvisioningRuntimeEvent) (phase : Handing) : Prop :=
  phase = (notify.map Handing.owing).getD .idle

theorem turn_disconnected (s : WifiRuntime) (nowMs : Nat) (info : Option (UInt32 × Int))
    (liveIp : Bool) : ∃ phase,
      Turn .idle s { s with station := (s.station.disconnected nowMs info liveIp).2 } phase ∧
        Returns (s.station.disconnected nowMs info liveIp).1 phase := by
  unfold disconnected
  dsimp only
  split
  · split
    · exact ⟨_, .raised ⟨.wifiDisconnected, _⟩ (.inr rfl), rfl⟩
    · exact ⟨.idle, .kept _, rfl⟩
  · exact ⟨.idle, .kept _, rfl⟩

theorem turn_gotIp (s : WifiRuntime) (nowMs : Nat) (liveIp : Bool) : ∃ phase,
    Turn .idle s { s with station := (s.station.gotIp nowMs liveIp).2 } phase ∧
      Returns (s.station.gotIp nowMs liveIp).1 phase := by
  unfold gotIp
  split
  · exact ⟨_, .raised ⟨.wifiConnected, _⟩ (.inl rfl), rfl⟩
  · exact ⟨.idle, .kept _, rfl⟩

theorem hands_wifiEventHandler (event : WifiEvent) :
    Hands .idle (wifiEventHandler event) fun _ phase => phase = .idle := by
  apply follows_bind Returns
  · apply hands_locked
    intro nowMs _
    cases event with
    | staStart =>
      apply follows_bind _ (hands_aside (aside_update fun _ => rfl))
      rintro _ _ rfl
      exact rfl
    | staStop =>
      apply follows_bind _ (hands_aside (aside_update fun _ => rfl))
      rintro _ _ rfl
      exact rfl
    | staDisconnected info =>
      apply follows_bind _ (hands_aside (aside_hasIpIf true))
      rintro liveIp _ rfl
      exact hands_atomic fun env s => turn_disconnected s nowMs info liveIp
    | staGotIp ofStation =>
      apply follows_bind _ (hands_aside (aside_hasIpIf ofStation))
      rintro liveIp _ rfl
      exact hands_atomic fun env s => turn_gotIp s nowMs liveIp
    | other => exact rfl
  · rintro notify _ rfl
    cases notify with
    | none => exact rfl
    | some message => exact hands_dispatch _ _ (.inl rfl)

theorem hands_eventCallbackTurn :
    Hands .idle eventCallbackTurn fun _ phase => phase = .idle := by
  apply hands_atomic
  intro env s
  cases waits : s.eventQueue with
  | nil => exact ⟨.idle, .kept _, rfl⟩
  | cons message rest => exact ⟨.idle, .given _ message rest waits, rfl⟩

theorem aside_startAp : Aside startAp := by
  apply aside_locked
  intro _ _
  apply always_bind aside_ensureWifiStarted
  intro err
  apply aside_if (always_pure _)
  apply always_bind (aside_query _)
  intro apStarted
  apply aside_if (always_pure _)
  apply always_bind (aside_update fun _ => rfl)
  intro _
  apply always_bind aside_applyWifiMode
  intro err
  apply aside_if
  · exact always_bind (aside_update fun _ => rfl) fun _ => always_pure _
  · apply always_bind aside_openAp
    intro err
    apply aside_if _ (always_pure _)
    apply always_bind (aside_update fun _ => rfl)
    exact fun _ => always_bind aside_applyWifiMode fun _ => always_pure _

theorem aside_stopAp : Aside stopAp := by
  apply aside_locked
  intro _ _
  apply always_bind (aside_query _)
  intro apStarted
  apply aside_if (always_pure _)
  apply always_bind aside_call
  intro err
  apply aside_if (always_pure _)
  exact always_bind (always_atomic fun _ _ => rfl) fun _ => aside_applyWifiMode

theorem aside_startSta (config : ProvisionConfig) : Aside (startSta config) := by
  have configures : Aside (configureSta config) := by
    apply always_bind aside_applyWifiMode
    intro err
    apply aside_if (always_pure _)
    apply always_bind (aside_calls 3)
    exact fun err => aside_if (always_pure _) (aside_section fun _ _ => rfl)
  unfold startSta
  apply aside_if (always_pure _)
  apply aside_locked
  intro _ _
  apply always_bind aside_ensureWifiStarted
  intro err
  apply aside_if (always_pure _)
  apply always_bind (aside_query _)
  intro alreadyStarted
  apply aside_if (always_pure _)
  apply always_bind (aside_section fun _ _ => rfl)
  intro _
  apply always_bind configures
  intro err
  apply aside_if _ (always_pure _)
  apply always_bind (aside_update fun _ => rfl)
  exact fun _ => always_bind aside_applyWifiMode fun _ => always_pure _

theorem aside_stopSta : Aside stopSta := by
  apply aside_locked
  intro _ _
  apply always_bind (aside_section fun _ _ => rfl)
  intro staStarted
  apply aside_if (always_pure _)
  apply always_bind aside_call
  exact fun _ => always_bind aside_applyWifiMode fun _ => always_pure _

theorem aside_pauseRetries : Aside pauseRetries := by
  apply aside_locked
  intro _ _
  apply always_bind (aside_section fun _ _ => rfl)
  exact fun connecting => always_bind (aside_callIf connecting) fun _ => always_pure _

theorem aside_enterStableRecovery : Aside enterStableRecovery := by
  apply always_bind aside_startAp
  intro err
  apply aside_if _ (always_pure _)
  exact always_bind (always_atomic fun _ _ => rfl) fun _ => always_pure _

theorem aside_scan (count : Nat) : Aside (scan count) := by
  have records : Aside (scanRecords count) := by
    apply always_bind aside_call
    intro err
    apply aside_if (always_pure _)
    apply always_bind (aside_section fun _ _ => rfl)
    intro answer
    apply aside_if (always_pure _)
    apply aside_if (always_pure _)
    apply always_bind (aside_section fun _ _ => rfl)
    exact fun answer => aside_if (always_pure _) (always_pure _)
  have adds (asked : Bool) : Aside (addStaIf asked) := by
    unfold addStaIf
    exact aside_if (aside_section fun _ _ => rfl) (always_pure _)
  have restores (restore : Bool) (err : Int) : Aside (finishScanRestoreIfNeeded restore err) := by
    unfold finishScanRestoreIfNeeded
    exact aside_if (always_pure _) (always_bind aside_applyWifiMode fun _ => always_pure _)
  unfold scan
  apply aside_if (always_pure _)
  apply aside_locked
  intro _ _
  apply always_bind aside_ensureWifiStarted
  intro err
  apply aside_if (always_pure _)
  apply always_bind (aside_query _)
  intro staConnecting
  apply aside_if (always_pure _)
  apply always_bind (aside_section fun _ _ => rfl)
  intro answer
  apply aside_if (always_pure _)
  apply always_bind (adds _)
  intro err
  apply aside_if (always_pure _)
  apply always_bind records
  exact fun found => always_bind (restores _ _) fun _ => always_pure _

theorem hands_init (config : Option ProvisionConfig) :
    Hands .idle (init config) fun _ phase => phase = .idle := by
  have boots (program : Wifi Int) (event : ProvisioningEvent) (aside : Aside program)
      (other : event ≠ .wifiConnected ∧ event ≠ .wifiDisconnected) :
      Hands .idle (do
        let err ← program
        if err ≠ espOk then pure err
        else do
          dispatchEvent event
          pure espOk) fun _ phase => phase = .idle := by
    apply follows_bind _ (hands_aside aside)
    rintro err _ rfl
    split
    · exact rfl
    · apply follows_bind _ (hands_dispatchEvent event other)
      rintro _ _ rfl
      exact rfl
  unfold init
  split
  · exact boots _ .bootValidConfig (aside_startSta _) (by decide)
  · exact boots _ .bootNoConfig aside_startAp (by decide)

theorem hands_body (call : WifiCall) : Hands .idle (body call) fun _ phase => phase = .idle := by
  have silent {α : Type} {program : Wifi α} (aside : Aside program) :
      Hands .idle (ignored program) fun _ phase => phase = .idle :=
    hands_aside (always_bind aside fun _ => always_pure _)
  cases call with
  | wifiTimeoutTurn => exact hands_wifiTimeoutTurn
  | wifiEvent event => exact hands_wifiEventHandler event
  | eventCallbackTurn => exact hands_eventCallbackTurn
  | init config =>
    apply follows_bind _ (hands_init config)
    rintro _ _ rfl
    exact rfl
  | startAp => exact silent aside_startAp
  | stopAp => exact silent aside_stopAp
  | startSta config => exact silent (aside_startSta config)
  | stopSta => exact silent aside_stopSta
  | pauseRetries => exact silent aside_pauseRetries
  | enterStableRecovery => exact silent aside_enterStableRecovery
  | scan count => exact silent (aside_scan count)
  | notifyMqttFailed => exact hands_dispatchEvent .mqttFailed (by decide)
  | notifyMqttConnected => exact hands_dispatchEvent .mqttConnected (by decide)

/-- Every event that was raised was delivered, waits, was lost, or is about to be sent; every lost
    one was counted or is about to be. -/
structure HandedOver (path : EventPath) (phases : List Handing) : Prop where
  room : path.queue.length ≤ eventQueueLen
  sent : ∀ message : ProvisioningRuntimeEvent, message.OfLink → path.raised.count message =
    (path.delivered ++ path.queue ++ path.lost).count message + phases.count (.owing message)
  counted : (path.overflowCount.toNat + phases.count .losing) % 2 ^ 32 = path.lost.length % 2 ^ 32

theorem count_at (before after : List Handing) (phase other : Handing) :
    (before ++ phase :: after).count other =
      (before ++ after).count other + [phase].count other := by
  rw [List.count_append, List.count_cons, List.count_append, List.count_singleton]
  omega

theorem count_owed {message : ProvisioningRuntimeEvent} {phase : Handing}
    (owed : phase = .owing message ∨ phase = .idle ∧ ¬ message.OfLink) :
    [phase].count .losing = 0 ∧ ∀ other : ProvisioningRuntimeEvent, other.OfLink →
      [phase].count (.owing other) = [message].count other := by
  rcases owed with rfl | ⟨rfl, other_⟩
  · refine ⟨rfl, fun other _ => ?_⟩
    simp [List.count_singleton]
  · refine ⟨rfl, fun other link => ?_⟩
    have apart : message ≠ other := fun same => other_ (same ▸ link)
    simp [apart]

theorem handedOver_turn {path path' : EventPath} {before after : List Handing}
    {phase phase' : Handing} (handed : HandedOver path (before ++ phase :: after))
    (step : PathStep path phase path' phase') : HandedOver path' (before ++ phase' :: after) := by
  have counts := handed.sent
  have losses := handed.counted
  simp only [count_at] at counts losses
  cases step with
  | kept => exact handed
  | raised message link =>
    refine ⟨handed.room, fun other link' => ?_, ?_⟩
    · have now := counts other link'
      have owes : [Handing.owing message].count (.owing other) = [message].count other := by
        simp [List.count_singleton]
      have idle : [Handing.idle].count (.owing other) = 0 := rfl
      rw [idle] at now
      rw [count_at, owes]
      dsimp only
      rw [List.count_cons, ← List.count_singleton]
      omega
    · rw [count_at]
      exact losses
  | sent message owed room =>
    obtain ⟨counted, leaves⟩ := count_owed owed
    refine ⟨?_, fun other link => ?_, ?_⟩
    · simp only [List.length_append, List.length_singleton]
      omega
    · have now := counts other link
      have idle : [Handing.idle].count (.owing other) = 0 := rfl
      rw [leaves other link] at now
      rw [count_at, idle]
      simp only [List.count_append] at now ⊢
      omega
    · have idle : [Handing.idle].count .losing = 0 := rfl
      rw [count_at, idle]
      rw [counted] at losses
      exact losses
  | lost message owed full =>
    obtain ⟨counted, leaves⟩ := count_owed owed
    refine ⟨handed.room, fun other link => ?_, ?_⟩
    · have now := counts other link
      have losing : [Handing.losing].count (.owing other) = 0 := rfl
      rw [leaves other link] at now
      rw [count_at, losing]
      simp only [List.count_append] at now ⊢
      omega
    · have losing : [Handing.losing].count .losing = 1 := rfl
      simp only [count_at, losing, List.length_append, List.length_singleton]
      omega
  | counted =>
    refine ⟨handed.room, fun other link => ?_, ?_⟩
    · rw [count_at]
      exact counts other link
    · have losing : [Handing.losing].count .losing = 1 := rfl
      have idle : [Handing.idle].count .losing = 0 := rfl
      have one : (path.overflowCount + 1).toNat = (path.overflowCount.toNat + 1) % 2 ^ 32 :=
        UInt32.toNat_add _ _
      rw [losing] at losses
      rw [count_at, idle]
      dsimp only
      omega
  | given _ message rest waits =>
    refine ⟨?_, fun other link => ?_, ?_⟩
    · have room := handed.room
      rw [waits, List.length_cons] at room
      exact Nat.le_of_succ_le room
    · have now := counts other link
      simp only [waits, List.count_append, List.count_cons, List.count_nil] at now ⊢
      omega
    · rw [count_at]
      exact losses

theorem handedOver_started {path : EventPath} {phases : List Handing}
    (handed : HandedOver path phases) : HandedOver path (phases ++ [.idle]) where
  room := handed.room
  sent message link := by
    have same : (phases ++ [Handing.idle]).count (.owing message) =
        phases.count (.owing message) := List.count_append
    rw [same]
    exact handed.sent message link
  counted := by
    rw [List.count_append]
    exact handed.counted

/-- What becomes of the runtime's events in every interleaving: the queue never holds more than
    eight; a raised event is sent at most once, and once all calls have returned every one of them
    was delivered, waits, or was lost, with every lost one counted. A step puts a message behind
    those that wait, or loses it where eight do, or gives the callback the one that waits
    longest. -/
theorem raised_events_are_handed_over (actions : List (ThreadAction WifiCall WifiEnv)) :
    AllStates tasksStep (fun k =>
      let path := k.threads.state.eventPath
      path.queue.length ≤ eventQueueLen ∧
      (∀ message : ProvisioningRuntimeEvent, message.OfLink →
        (path.delivered ++ path.queue ++ path.lost).count message ≤ path.raised.count message) ∧
      ((∀ program ∈ k.threads.threads, program = .done ()) →
        (∀ message : ProvisioningRuntimeEvent, message.OfLink →
          (path.delivered ++ path.queue ++ path.lost).count message =
            path.raised.count message) ∧
        path.overflowCount.toNat = path.lost.length % 2 ^ 32)) boot actions ∧
      AllSteps tasksStep (fun k action => ∃ phase phase', PathStep k.threads.state.eventPath phase
        (tasksStep k action).threads.state.eventPath phase') boot actions := by
  obtain ⟨states, steps⟩ := all_states_phased (m := operationMutex False)
    (I := fun s phases => HandedOver s.eventPath phases) hands_body
    (fun _ _ handed => handedOver_started handed) (fun _ _ _ _ _ _ => handedOver_turn)
    (s := WifiRuntime.ready) ⟨Nat.zero_le _, fun _ _ => rfl, rfl⟩ actions
  refine ⟨all_states_mono ?_ states, all_steps_mono ?_ steps⟩
  · rintro k ⟨phases, phased, handed⟩
    refine ⟨handed.room, fun message link => ?_, fun returned => ?_⟩
    · rw [handed.sent message link]
      exact Nat.le_add_right _ _
    · have idle := phased_done phased returned
      have none_ (phase : Handing) (busy : phase ≠ .idle) : phases.count phase = 0 :=
        List.count_eq_zero.mpr fun member => busy (idle phase member)
      refine ⟨fun message link => ?_, ?_⟩
      · rw [handed.sent message link, none_ _ (by simp), Nat.add_zero]
      · have counted := handed.counted
        have small := k.threads.state.eventPath.overflowCount.toNat_lt
        rw [none_ _ (by simp)] at counted
        omega
  · rintro k action (same | turn)
    · refine ⟨.idle, .idle, ?_⟩
      rw [tasksStep, same]
      exact .kept _
    · exact turn

end Wifi
