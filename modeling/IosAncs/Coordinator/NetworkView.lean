import IosAncs.Coordinator.VerifiedMarker
import IosAncs.Provisioning.WifiSafety

/-!
The coordinator's view of the network. Its queue may drop the runtime's events and handle them
late; a bond poll brings the view back to what the runtime says, and no message that follows
takes it away again while the runtime says the same.
-/
open Runs Sections AppContext

namespace Coordinator

def seen (status : WifiStatus) : ProvisioningRuntimeStatus where
  staStarted := status.staStarted
  staHasIp := status.staHasIp
  retryPaused := status.retryPaused
  staAttemptGeneration := status.staAttemptGeneration
  automaticRecoveryDue := status.automaticRecoveryDue
  automaticRecoveryAp := status.automaticRecoveryAp

abbrev view (s : AppContext) : Bool := s.app.state.wifiConnected

def SameView (s s' : AppContext) : Prop := view s' = view s

instance : Frame SameView where
  unmoved unmoved := congrArg ProvisioningState.wifiConnected unmoved.2
  trans first second := Eq.trans second first

theorem view_interrupted (s : AppContext) (others : List OtherTask) :
    view (s.interrupted others) = view s := by
  rw [view, (interrupted_app s others).1]

abbrev KeepsView {α : Type} (program : Coordinator α) : Prop := Keeps SameView program

section Kept
variable {α : Type}

theorem view_section {body : AppEnv → AppContext → α × AppContext}
    (h : ∀ env s, view (body env s).2 = view s) : KeepsView (section_ body) := keeps_section h

theorem view_updateRelay (write : AppEnv → AppRelay → AppRelay) : KeepsView (updateRelay write) := by
  unfold updateRelay update
  exact view_section fun _ _ => rfl

theorem view_updateApp {write : AppEnv → AppCoordinatorState → AppCoordinatorState}
    (h : ∀ env app, (write env app).state.wifiConnected = app.state.wifiConnected) :
    KeepsView (updateApp write) := by
  unfold updateApp update
  exact view_section fun env s => h env s.app

theorem view_relayDeinit : KeepsView relayDeinit :=
  keeps_bind keeps_relayStop fun _ => view_updateRelay _

theorem view_connectNewClient : KeepsView connectNewClient := by
  apply keeps_bind
  · apply view_section
    intro env s
    dsimp only
    split <;> rfl
  · intro made
    split
    · exact keeps_pure false
    · apply keeps_bind (view_section fun _ _ => rfl)
      intro generation
      apply keeps_bind (view_updateRelay _)
      intro _
      apply keeps_bind (keeps_query _)
      intro refreshed
      split
      · exact keeps_pure false
      · exact keeps_bind (view_updateRelay _) fun _ => keeps_relayConnect false

theorem view_startOrReconnectMqtt : KeepsView startOrReconnectMqtt := by
  apply keeps_bind (keeps_query _)
  rintro ⟨ready, initialized, started⟩
  apply keeps_bind (keeps_query _)
  intro runtime
  split
  · exact keeps_pure false
  · apply keeps_bind (keeps_query _)
    intro up
    split
    · exact keeps_pure true
    · split
      · apply keeps_bind view_connectNewClient
        intro connected
        split
        · exact keeps_bind (view_updateApp fun _ _ => rfl) fun _ => keeps_pure true
        · apply keeps_bind view_relayDeinit
          intro _
          exact keeps_bind keeps_scheduleMqttRetry fun _ => keeps_pure false
      · apply keeps_bind (view_updateRelay _)
        intro _
        apply keeps_bind (keeps_relayConnect started)
        intro connected
        split
        · exact keeps_bind (view_updateApp fun _ _ => rfl) fun _ => keeps_pure true
        · exact keeps_bind keeps_scheduleMqttRetry fun _ => keeps_pure false

theorem view_rememberVerifiedMqttSettings : KeepsView rememberVerifiedMqttSettings := by
  apply keeps_bind (keeps_query _)
  intro fingerprint
  apply keeps_bind (keeps_query _)
  intro known
  apply keeps_if
  apply keeps_bind (view_section fun _ _ => rfl)
  intro saved
  exact keeps_if (view_updateApp fun _ _ => rfl)

end Kept

def viewAfter (before : Bool) : ProvisioningEvent → Bool
  | .wifiConnected => true
  | .wifiDisconnected | .wifiTimeout | .bootNoConfig | .bootValidConfig => false
  | _ => before

theorem reduce_wifiConnected (state : ProvisioningState) (event : ProvisioningEvent)
    (nowMs : UInt64) :
    (state.reduce event nowMs).wifiConnected = viewAfter state.wifiConnected event := by
  cases event with
  | mqttConnected =>
    simp only [ProvisioningState.reduce, ProvisioningState.reconcileRequirements,
      ProvisioningState.handle]
    split <;> rfl
  | mqttFailed =>
    simp only [ProvisioningState.reduce, ProvisioningState.reconcileRequirements,
      ProvisioningState.handle, ProvisioningState.mqttFailed]
    repeat' split
    all_goals rfl
  | mqttRejected =>
    simp only [ProvisioningState.reduce, ProvisioningState.reconcileRequirements,
      ProvisioningState.handle, ProvisioningState.mqttRejected]
    repeat' split
    all_goals rfl
  | portalIdleTimeout =>
    simp only [ProvisioningState.reduce, ProvisioningState.reconcileRequirements,
      ProvisioningState.handle]
    split <;> rfl
  | _ => rfl

section Led
variable {α : Type} {A : AppEnv → Prop}

theorem leads_view {program : Coordinator α} (keeps : KeepsView program) (s : AppContext) :
    Leads A (fun _ s' => view s' = view s) program s :=
  leads_answers (fun _ _ => trivial) (keeps s)

theorem view_stopMqtt : KeepsView stopMqtt := by
  apply keeps_bind keeps_cancelMqttRetry
  intro _
  apply keeps_bind (view_section fun _ _ => rfl)
  intro initialized
  apply keeps_if
  exact keeps_bind (view_updateRelay _) fun _ => view_relayDeinit

theorem view_actOnProvisioningEvent (event : ProvisioningEvent) :
    KeepsView (actOnProvisioningEvent event) := by
  cases event with
  | bootNoConfig => exact keeps_bind view_stopMqtt fun _ => view_updateApp fun _ _ => rfl
  | wifiConnected =>
    apply keeps_bind (view_updateRelay _)
    exact fun _ => keeps_bind view_startOrReconnectMqtt fun _ => keeps_pure ()
  | wifiDisconnected | wifiTimeout => exact keeps_suspendMqttForWifi
  | mqttConnected =>
    exact keeps_bind keeps_cancelMqttRetry fun _ => view_updateApp fun _ _ => rfl
  | mqttFailed | mqttRejected => exact keeps_scheduleMqttRetry
  | bootValidConfig | bondPresent | bondRemoved | bootHeld3s | portalIdleTimeout
  | mqttSettingsVerified => exact keeps_pure ()

theorem leads_reduceAppState (event : ProvisioningEvent) (s : AppContext) :
    Leads A (fun _ s' => view s' = viewAfter (view s) event) (reduceAppState event) s := by
  unfold reduceAppState updateApp update section_
  apply leads_atomic
  intro env _
  refine (reduce_wifiConnected _ event env.nowMs).trans ?_
  rw [← view_interrupted s env.others]

theorem view_reduceAppState {event : ProvisioningEvent}
    (other : ∀ before, viewAfter before event = before) : KeepsView (reduceAppState event) := by
  apply view_updateApp
  intro env app
  exact (reduce_wifiConnected app.state event env.nowMs).trans (other _)

theorem leads_reduceProvisioningEvent (event : ProvisioningEvent) (s : AppContext) :
    Leads A (fun _ s' => view s' = viewAfter (view s) event) (reduceProvisioningEvent event) s := by
  apply leads_then (leads_reduceAppState event s)
  intro _ s' reduced
  rw [← reduced]
  apply leads_view
  split
  · apply keeps_bind (keeps_query _)
    intro verified
    dsimp only
    split
    · apply keeps_bind (view_reduceAppState fun _ => rfl)
      exact fun _ => view_actOnProvisioningEvent event
    · exact view_actOnProvisioningEvent event
  · exact view_actOnProvisioningEvent event

theorem view_reduceProvisioningEvent {event : ProvisioningEvent}
    (other : ∀ before, viewAfter before event = before) :
    KeepsView (reduceProvisioningEvent event) := by
  apply keeps_bind (view_reduceAppState other)
  intro _
  split
  · apply keeps_bind (keeps_query _)
    intro verified
    dsimp only
    split
    · apply keeps_bind (view_reduceAppState fun _ => rfl)
      exact fun _ => view_actOnProvisioningEvent event
    · exact view_actOnProvisioningEvent event
  · exact view_actOnProvisioningEvent event

end Led

/-- A station that is wanted and whose retries are not paused, told by a consistent status. -/
structure Retrying (status : WifiStatus) : Prop where
  consistent : Wifi.Consistent status
  wanted : status.staStarted = true
  unpaused : status.retryPaused = false

def Says (status : WifiStatus) (env : AppEnv) : Prop := env.runtime = some (seen status)

section Retrying
variable {status : WifiStatus}

theorem superseded_iff (retrying : Retrying status) (event : ProvisioningEvent)
    (generation : UInt32) :
    supersededWifiEvent event generation (some (seen status)) = false ↔
      generation = status.staAttemptGeneration ∧
        decide (event = .wifiConnected) = status.staHasIp := by
  have nonzero : status.staAttemptGeneration ≠ 0 := by
    have active := retrying.consistent.generation.symm.trans retrying.wanted
    simpa using active
  simp only [supersededWifiEvent, seen, retrying.unpaused, Bool.or_false, Bool.or_eq_false_iff]
  constructor
  · rintro ⟨⟨_, same⟩, link⟩
    exact ⟨by simpa using same, by simpa using link⟩
  · rintro ⟨rfl, link⟩
    exact ⟨⟨by simpa using nonzero, by simp⟩, by simpa using link⟩

/-- An event of the network that was not superseded agrees with the runtime. -/
theorem viewAfter_link {event : ProvisioningEvent} {before : Bool}
    (wifi : event = .wifiTimeout ∨ event = .wifiConnected ∨ event = .wifiDisconnected)
    (link : decide (event = .wifiConnected) = status.staHasIp) :
    viewAfter before event = status.staHasIp := by
  rcases wifi with rfl | rfl | rfl <;> exact link

theorem leads_accepted {event : ProvisioningEvent}
    (wifi : event = .wifiTimeout ∨ event = .wifiConnected ∨ event = .wifiDisconnected)
    (link : decide (event = .wifiConnected) = status.staHasIp) (generation : UInt32)
    (s : AppContext) :
    Leads (Says status) (fun _ s' => view s' = status.staHasIp) (do
      updateApp fun _ app => { app with activeStaAttemptGeneration := generation }
      reduceProvisioningEvent event) s := by
  have stamps : KeepsView (updateApp fun _ app =>
      { app with activeStaAttemptGeneration := generation }) := view_updateApp fun _ _ => rfl
  apply leads_then (leads_view stamps s)
  intro _ s' _
  apply leads_mono (leads_reduceProvisioningEvent event s')
  intro _ s'' after
  exact after.trans (viewAfter_link wifi link)

theorem leads_handleProvisioningEvent (retrying : Retrying status) {event : ProvisioningEvent}
    (kept : event ≠ .bootNoConfig ∧ event ≠ .bootValidConfig) (generation : UInt32)
    (s : AppContext) :
    Leads (Says status) (fun _ s' => view s' = view s ∨ view s' = status.staHasIp)
      (handleProvisioningEvent event generation) s := by
  unfold handleProvisioningEvent
  split
  · next wifi =>
    unfold query section_
    apply leads_bind
    apply leads_atomic
    intro env told
    dsimp only
    rw [told]
    split
    · next passes =>
      have link := ((superseded_iff retrying event generation).mp (by simpa using passes)).2
      exact leads_mono (leads_accepted wifi link generation _) fun _ _ => .inr
    · exact leads_pure (.inl (view_interrupted s env.others))
  · next other =>
    have quiet : ∀ before, viewAfter before event = before := by
      intro before
      cases event <;> simp_all [viewAfter]
    exact leads_mono (leads_view (view_reduceProvisioningEvent quiet) s)
      fun _ _ same => .inl same

theorem leads_reconciledEvent (retrying : Retrying status) (s : AppContext) :
    Leads (Says status) (fun _ s' => view s' = status.staHasIp)
      (handleProvisioningEvent (if status.staHasIp then .wifiConnected else .wifiDisconnected)
        status.staAttemptGeneration) s := by
  have link : decide ((if status.staHasIp then ProvisioningEvent.wifiConnected
      else .wifiDisconnected) = .wifiConnected) = status.staHasIp := by
    cases status.staHasIp <;> rfl
  generalize wifi_ : (if status.staHasIp then ProvisioningEvent.wifiConnected
      else .wifiDisconnected) = event at link
  have wifi : event = .wifiTimeout ∨ event = .wifiConnected ∨ event = .wifiDisconnected := by
    rw [← wifi_]
    split
    · exact .inr (.inl rfl)
    · exact .inr (.inr rfl)
  unfold handleProvisioningEvent
  rw [if_pos wifi]
  unfold query section_
  apply leads_bind
  apply leads_atomic
  intro env told
  dsimp only
  rw [told, (superseded_iff retrying event _).mpr ⟨rfl, link⟩]
  exact leads_accepted wifi link _ _

theorem view_handleMqttEvent (event : MqttRelayEvent) : KeepsView (handleMqttEvent event) := by
  have reports : ∀ {result : ProvisioningEvent}, result = .mqttConnected ∨ result = .mqttRejected ∨
      result = .mqttFailed → KeepsView (handleProvisioningEvent result 0) := by
    intro result which
    rcases which with rfl | rfl | rfl <;> exact view_reduceProvisioningEvent fun _ => rfl
  cases event with
  | restartRequest | enrollRequest =>
    exact keeps_bind (keeps_query _) fun _ => keeps_pure ()
  | connected | disconnected | failed =>
    unfold handleMqttEvent
    apply keeps_bind (keeps_query _)
    rintro ⟨connected, error⟩
    apply keeps_bind (keeps_query _)
    intro runtime
    apply keeps_if
    split
    · apply keeps_bind (reports (.inl rfl))
      exact fun _ => view_rememberVerifiedMqttSettings
    · apply reports
      split
      · exact .inr (.inl rfl)
      · exact .inr (.inr rfl)

theorem view_reconcileMqtt (wasConnected : Bool) : KeepsView (reconcileMqtt wasConnected) := by
  apply keeps_bind (keeps_query _)
  rintro ⟨connected, connecting⟩
  dsimp only
  split
  · exact view_handleMqttEvent _
  · apply keeps_if
    apply keeps_bind (keeps_query _)
    rintro ⟨dueMs, due⟩
    dsimp only
    split
    · apply keeps_bind keeps_cancelMqttRetry
      exact fun _ => keeps_bind view_startOrReconnectMqtt fun _ => keeps_pure ()
    · exact keeps_if keeps_scheduleMqttRetry

/-- The poll brings the view to what the runtime says, from any state. -/
theorem leads_reconcileNetworkState (retrying : Retrying status) (s : AppContext) :
    Leads (Says status) (fun _ s' => view s' = status.staHasIp) reconcileNetworkState s := by
  unfold reconcileNetworkState runtimeStatus
  apply leads_bind
  apply leads_atomic
  intro env told
  dsimp only
  rw [told]
  have goes : ((seen status).staStarted && !(seen status).retryPaused) = true := by
    simp [seen, retrying.wanted, retrying.unpaused]
  simp only [goes, if_true]
  apply leads_bind
  apply leads_atomic
  intro env' _
  generalize (s.interrupted env.others).interrupted env'.others = s₁
  dsimp only
  -- the view is right once the first event was handled, and every later one leaves it so
  have rest : ∀ s', view s' = status.staHasIp → Leads (Says status)
      (fun _ s'' => view s'' = status.staHasIp)
      (do
        if (seen status).automaticRecoveryDue && !(seen status).automaticRecoveryAp then
          handleProvisioningEvent .wifiTimeout (seen status).staAttemptGeneration
        if (seen status).staHasIp then reconcileMqtt s₁.app.state.mqttConnected) s' := by
    intro s' right
    apply leads_when (R := fun s' => view s' = status.staHasIp) right
    · apply leads_mono (leads_handleProvisioningEvent retrying (by decide) _ s')
      intro _ s'' either
      rcases either with same | told'
      · exact same.trans right
      · exact told'
    · intro s'' right'
      apply leads_mono (leads_view (keeps_if (view_reconcileMqtt _)) s'')
      intro _ s₂ same
      exact same.trans right'
  split
  · apply leads_then (leads_reconciledEvent retrying s₁)
    intro _ s' right
    exact rest s' right
  · next same =>
    have same : status.staHasIp = view s₁ := by simpa [seen] using same
    exact rest s₁ same.symm

def keepsConfig : AppEventMsg → Bool
  | .configChanged _ | .resetProvisioning => false
  | .provisioning event _ => decide (event ≠ .bootNoConfig ∧ event ≠ .bootValidConfig)
  | _ => true

theorem leads_handleBondPoll (retrying : Retrying status) (s : AppContext) :
    Leads (Says status) (fun _ s' => view s' = status.staHasIp) handleBondPoll s := by
  apply leads_then (leads_reconcileNetworkState retrying s)
  intro _ s' right
  have bonds : KeepsView (do
      let hasBond ← query fun env _ => env.hasBond
      let hadBond ← query fun _ s => s.app.state.hasBond
      if hasBond != hadBond then
        handleProvisioningEvent (if hasBond then .bondPresent else .bondRemoved) 0) := by
    apply keeps_bind (keeps_query _)
    intro hasBond
    apply keeps_bind (keeps_query _)
    intro hadBond
    apply keeps_if
    cases hasBond <;> exact view_reduceProvisioningEvent fun _ => rfl
  exact leads_mono (leads_view bonds s') fun _ _ same => same.trans right

theorem leads_handleMessage (retrying : Retrying status) {message : AppEventMsg}
    (kept : keepsConfig message = true) (s : AppContext) :
    Leads (Says status) (fun _ s' => view s' = view s ∨ view s' = status.staHasIp)
      (handleMessage message) s := by
  have quiet : ∀ {program : Coordinator Unit}, KeepsView program → Leads (Says status)
      (fun _ s' => view s' = view s ∨ view s' = status.staHasIp) program s :=
    fun keeps => leads_mono (leads_view keeps s) fun _ _ => .inl
  have connects : KeepsView (do
      cancelMqttRetry
      discard startOrReconnectMqtt) := by
    apply keeps_bind keeps_cancelMqttRetry
    exact fun _ => keeps_bind view_startOrReconnectMqtt fun _ => keeps_pure ()
  cases message with
  | provisioning event generation =>
    exact leads_handleProvisioningEvent retrying (by simpa [keepsConfig] using kept) generation s
  | mqtt event generation =>
    apply quiet
    apply keeps_bind (keeps_query _)
    exact fun _ => keeps_if (view_handleMqttEvent event)
  | configChanged config => exact absurd kept Bool.false_ne_true
  | mqttRetry generation dueMs =>
    apply quiet
    apply keeps_bind (keeps_query _)
    exact fun _ => keeps_if connects
  | bondPoll => exact leads_mono (leads_handleBondPoll retrying s) fun _ _ => .inr
  | wifiStatusRefresh => exact quiet (keeps_bind (keeps_query _) fun _ => keeps_pure ())
  | resetProvisioning => exact absurd kept Bool.false_ne_true
  | mqttConnectNow => exact quiet connects

end Retrying

def taken (s : AppContext) (answers : Nat → AppEnv) : Option AppEventMsg :=
  (s.interrupted (answers 0).others).queue.head?

/-- The runtime says the same throughout the turn, and what the turn takes up does not change
    the configuration. -/
def Undisturbed (status : WifiStatus) (s : AppContext) (answers : Nat → AppEnv) : Prop :=
  (∀ k, Says status (answers k)) ∧ ∀ message, taken s answers = some message → keepsConfig message

/-- After a bond poll, whatever the coordinator had missed or mixed up before, its view of the
    network is what the runtime says, and it stays so while the runtime says it. -/
theorem view_converges {status : WifiStatus} (retrying : Retrying status) (s : AppContext)
    (turns : List (Nat → AppEnv)) (undisturbed : AllSteps step (Undisturbed status) s turns)
    (polled : SomeStep step (fun s answers => taken s answers = some .bondPoll) s turns) :
    view (run step s turns) = status.staHasIp := by
  have received_view : ∀ (s : AppContext) (answers : Nat → AppEnv),
      view (received s (answers 0)) = view s :=
    fun s answers => view_interrupted s (answers 0).others
  apply run_reaches_under (P := fun s => view s = status.staHasIp) _ _ undisturbed polled
  · rintro s answers ⟨told, kept⟩ right
    rw [step_eq]
    split
    · exact (received_view s answers).trans right
    · next message took =>
      have later : ∀ k, Says status (answers (k + 1)) := fun k => told (k + 1)
      have either := leads_finish (leads_handleMessage retrying (kept message took)
        (received s (answers 0))) later
      rcases either with same | told'
      · exact same.trans ((received_view s answers).trans right)
      · exact told'
  · rintro s answers ⟨told, _⟩ took
    rw [step_eq, show (s.interrupted (answers 0).others).queue.head? = some .bondPoll from took]
    exact leads_finish (leads_handleBondPoll retrying (received s (answers 0)))
      fun k => told (k + 1)

theorem booted_view_converges :
    let status : WifiStatus := {
      initialized := true, apStarted := false, staStarted := true, staConnecting := false
      staHasIp := true, retryPaused := false, automaticRecoveryAp := false
      automaticRecoveryDue := false, retryAttempts := 0, retryInMs := 0
      lastWifiConnectError := 0, lastWifiDisconnectReason := 0, lastWifiDisconnectRssi := 0
      eventOverflowCount := 0, staAttemptGeneration := 1 }
    let answer (others : List OtherTask) : AppEnv := {
      others, nowMs := 5, ok := true, written := false, runtime := some (seen status)
      timerActive := true, hasBond := true }
    view (run step (boot ProvisionApp.zeroConfig false 0 none)
      [fun k => answer (if k = 0 then [.bondPollTimer] else [])]) = true := by
  intro status answer
  have retrying : Retrying status := {
    consistent := {
      connecting := fun connecting => absurd connecting Bool.false_ne_true
      address := fun _ => rfl
      generation := rfl
      waits := fun waits => absurd rfl waits
      due := fun due => absurd due Bool.false_ne_true
      ap := fun ap => absurd ap Bool.false_ne_true }
    wanted := rfl
    unpaused := rfl }
  apply view_converges retrying
  · refine ⟨⟨fun _ => rfl, ?_⟩, trivial⟩
    intro message took
    cases took
    rfl
  · exact .inl rfl

end Coordinator
