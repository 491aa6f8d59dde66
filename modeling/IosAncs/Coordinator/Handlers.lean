import IosAncs.Coordinator.Context

/-!
The coordinator's functions, section by section, and the loop of its task. A call of another
component stands here where its answer is used. The source is `app_main.c`.
-/
open ProvisionConfig Sections AppContext

namespace Coordinator

def section_ {α : Type} (body : AppEnv → AppContext → α × AppContext) : Coordinator α :=
  atomic () fun env s => body env (s.interrupted env.others)

def query {α : Type} (read : AppEnv → AppContext → α) : Coordinator α :=
  section_ fun env s => (read env s, s)

def update (write : AppEnv → AppContext → AppContext) : Coordinator Unit :=
  section_ fun env s => ((), write env s)

def updateApp (write : AppEnv → AppCoordinatorState → AppCoordinatorState) : Coordinator Unit :=
  update fun env s => { s with app := write env s.app }

def updateRelay (write : AppEnv → AppRelay → AppRelay) : Coordinator Unit :=
  update fun env s => { s with relay := write env s.relay }

def call : Coordinator Bool := query fun env _ => env.ok

/-- `provisioning_runtime_get_status` -/
def runtimeStatus : Coordinator (Option ProvisioningRuntimeStatus) := query fun env _ => env.runtime

def hasNetwork (runtime : ProvisioningRuntimeStatus) : Bool := runtime.staHasIp && !runtime.retryPaused

def relaySetWifiConnected (connected : Bool) : Coordinator Unit :=
  updateRelay fun _ relay => { relay with ctx := { relay.ctx with wifiConnected := connected } }

/-- `mqtt_relay_init`, for the settings of the coordinator -/
def relayInit : Coordinator Bool :=
  section_ fun env s =>
    if s.relay.ctx.client.isSome || s.relay.ctx.queue.isSome || !env.ok then (false, s)
    else
      (true, { s with relay := { s.relay with
        config := s.app.config
        ctx := { s.relay.ctx.prepareLocked with
          client := some 0
          acceptingObservers := true
          publishAllowed := true } } })

/-- `mqtt_relay_start` and `mqtt_relay_reconnect` -/
def relayConnect (reconnect : Bool) : Coordinator Bool := do
  let worker ← section_ fun env s =>
    (s.relay.ctx.client.isSome && env.ok, s)
  if !worker then return false
  else do
    updateRelay fun _ relay =>
      { relay with ctx := { relay.ctx with publishAllowed := true, mqttConnecting := true } }
    section_ fun env s =>
      if env.ok then (true, { s with relay := { s.relay with running := s.relay.running || !reconnect } })
      else
        (false, { s with relay := { s.relay with
          ctx := RelayContext.noteLocalErrorLocked { s.relay.ctx with mqttConnecting := false } (-1)
            env.nowMs } })

def relayStop : Coordinator Unit := do
  updateRelay fun _ relay => { relay with ctx := RelayContext.handleDisconnectLocked relay.ctx }
  updateRelay fun _ relay => { relay with ctx := { relay.ctx with publishAllowed := false } }
  updateRelay fun _ relay => { relay with running := false }

/-- `mqtt_relay_deinit`: its stop, which ends the client's task, and the rest. -/
def relayDeinit : Coordinator Unit := do
  relayStop
  updateRelay fun _ relay => { zeroRelay with ctx := relay.ctx.leaveLocked }

def cancelMqttRetry : Coordinator Unit :=
  updateApp fun _ app => { app with mqttRetryDueMs := 0, mqttRetryDelayMs := 0 }

def stopMqtt : Coordinator Unit := do
  cancelMqttRetry
  let initialized ← section_ fun _ s =>
    (s.app.mqttInitialized, { s with
      app := { s.app with
        mqttGeneration := s.app.mqttGeneration + 1
        mqttStarted := false
        mqttInitialized := false }
      history := { s.history with stopped := s.relay.callback.toList ++ s.history.stopped } })
  if initialized then do
    relaySetWifiConnected false
    relayDeinit

def mqttRetryDelayForAttempt : Nat → UInt64
  | 0 => 5000
  | 1 => 15000
  | 2 => 30000
  | _ => 60000

def resetMqttRetryBackoff : Coordinator Unit :=
  updateApp fun _ app => { app with mqttRetryAttempt := 0, mqttRetryDelayMs := 0 }

def scheduleMqttRetry : Coordinator Unit := do
  let idle ← query fun env _ => match env.runtime with
    | none => false
    | some runtime => hasNetwork runtime && !env.timerActive
  if idle then
    updateApp fun env app =>
      let delayMs := mqttRetryDelayForAttempt app.mqttRetryAttempt
      { app with
        mqttRetryAttempt := if app.mqttRetryAttempt < 3 then app.mqttRetryAttempt + 1
          else app.mqttRetryAttempt
        mqttRetryDelayMs := delayMs
        mqttRetryDueMs := env.nowMs + delayMs }

/-- The chain of `start_or_reconnect_mqtt` for a client that is still to be made. -/
def connectNewClient : Coordinator Bool := do
  let made ← relayInit
  if !made then return false
  else do
    let generation ← section_ fun _ s =>
      (s.app.mqttGeneration + 1,
        { s with app := { s.app with mqttGeneration := s.app.mqttGeneration + 1 } })
    updateRelay fun _ relay => { relay with callback := some generation }
    let refreshed ← call
    if !refreshed then return false
    else do
      relaySetWifiConnected true
      relayConnect false

def startOrReconnectMqtt : Coordinator Bool := do
  let (ready, initialized, started) ← query fun _ s =>
    (s.app.configValid && s.app.state.wifiConnected, s.app.mqttInitialized, s.app.mqttStarted)
  let runtime ← runtimeStatus
  if !ready || !(runtime.map hasNetwork).getD false then return false
  else do
    let up ← query fun _ s => s.relay.ctx.mqttConnected || s.relay.ctx.mqttConnecting
    if up then return true
    else if !initialized then do
      let connected ← connectNewClient
      if connected then do
        updateApp fun _ app => { app with mqttInitialized := true, mqttStarted := true }
        return true
      else do
        relayDeinit
        scheduleMqttRetry
        return false
    else do
      relaySetWifiConnected true
      let connected ← relayConnect started
      if connected then do
        updateApp fun _ app => { app with mqttStarted := true }
        return true
      else do
        scheduleMqttRetry
        return false

def reduceAppState (event : ProvisioningEvent) : Coordinator Unit :=
  updateApp fun env app => { app with state := app.state.reduce event env.nowMs }

def storedMqttSettingsVerified : Coordinator Bool :=
  query fun _ s => s.app.mqttVerifiedFingerprint != 0 &&
    s.app.mqttVerifiedFingerprint == mqttFingerprint s.app.config

def saveMqttVerified (fingerprint : UInt32) : Coordinator Bool :=
  section_ fun env s =>
    (env.ok, { s with
      marker := if env.ok || env.written then some fingerprint else s.marker
      history := { s.history with
        saved := { fingerprint, config := s.app.config, reported := s.history.reported } ::
          s.history.saved } })

def rememberVerifiedMqttSettings : Coordinator Unit := do
  let fingerprint ← query fun _ s => mqttFingerprint s.app.config
  let known ← query fun _ s => fingerprint == s.app.mqttVerifiedFingerprint
  if !known then do
    let saved ← saveMqttVerified fingerprint
    if saved then updateApp fun _ app => { app with mqttVerifiedFingerprint := fingerprint }

def suspendMqttForWifi : Coordinator Unit := do
  cancelMqttRetry
  relaySetWifiConnected false
  let started ← section_ fun _ s =>
    (s.app.mqttStarted, { s with app := { s.app with mqttStarted := false } })
  if started then relayStop

/-- The first check of `handle_provisioning_event`: a Wi-Fi event of a cancelled attempt, or
    one that another has superseded. -/
def supersededWifiEvent (event : ProvisioningEvent) (staAttemptGeneration : UInt32)
    (runtime : Option ProvisioningRuntimeStatus) : Bool :=
  match runtime with
  | none => true
  | some runtime =>
    staAttemptGeneration == 0 || staAttemptGeneration != runtime.staAttemptGeneration ||
      runtime.retryPaused || decide (event = .wifiConnected) != runtime.staHasIp

def actOnProvisioningEvent (event : ProvisioningEvent) : Coordinator Unit :=
  match event with
  | .bootNoConfig => do
    stopMqtt
    updateApp fun _ app => { app with activeStaAttemptGeneration := 0 }
  | .wifiConnected => do
    relaySetWifiConnected true
    discard startOrReconnectMqtt
  | .wifiDisconnected | .wifiTimeout => suspendMqttForWifi
  | .mqttConnected => do
    cancelMqttRetry
    resetMqttRetryBackoff
  | .mqttFailed | .mqttRejected => scheduleMqttRetry
  | .bootValidConfig | .bondPresent | .bondRemoved | .bootHeld3s | .portalIdleTimeout
  | .mqttSettingsVerified => return

/-- `handle_provisioning_event` after its first check -/
def reduceProvisioningEvent (event : ProvisioningEvent) : Coordinator Unit := do
  reduceAppState event
  if event = .bootValidConfig then do
    let verified ← storedMqttSettingsVerified
    if verified then reduceAppState .mqttSettingsVerified
  actOnProvisioningEvent event

def handleProvisioningEvent (event : ProvisioningEvent) (staAttemptGeneration : UInt32) :
    Coordinator Unit :=
  if event = .wifiTimeout ∨ event = .wifiConnected ∨ event = .wifiDisconnected then do
    let superseded ← query fun env _ => supersededWifiEvent event staAttemptGeneration env.runtime
    if !superseded then do
      updateApp fun _ app => { app with activeStaAttemptGeneration := staAttemptGeneration }
      reduceProvisioningEvent event
  else reduceProvisioningEvent event

def errorTypeConnectionRefused : Int := 2
def connectionAccepted : Int := 0
def refuseServerUnavailable : Int := 3

def mqttSettingsRejected (error : MqttErrorFields) : Bool :=
  error.errorType == errorTypeConnectionRefused && error.connectReturnCode != connectionAccepted &&
    error.connectReturnCode != refuseServerUnavailable

def handleMqttEvent (event : MqttRelayEvent) : Coordinator Unit :=
  match event with
  | .restartRequest | .enrollRequest => discard call
  | .connected | .disconnected | .failed => do
    let (connected, error) ← query fun _ s => (s.relay.ctx.mqttConnected, s.relay.ctx.mqttError)
    let runtime ← runtimeStatus
    if (runtime.map hasNetwork).getD false && decide (event = .connected) == connected then
      if event = .connected then do
        handleProvisioningEvent .mqttConnected 0
        rememberVerifiedMqttSettings
      else
        handleProvisioningEvent
          (if event = .failed ∧ mqttSettingsRejected error then .mqttRejected else .mqttFailed) 0

def handleConfigChanged (config : ProvisionConfig) : Coordinator Unit := do
  cancelMqttRetry
  stopMqtt
  resetMqttRetryBackoff
  updateApp fun _ app => { app with config, configValid := true, activeStaAttemptGeneration := 0 }
  reduceAppState .bootValidConfig
  let verified ← storedMqttSettingsVerified
  if verified then reduceAppState .mqttSettingsVerified
  let started ← call
  if !started then do
    reduceAppState .wifiTimeout
    suspendMqttForWifi
  else do
    let runtime ← runtimeStatus
    updateApp fun _ app => match runtime with
      | none => app
      | some runtime => { app with activeStaAttemptGeneration := runtime.staAttemptGeneration }
    handleProvisioningEvent .bootHeld3s 0

/-- `provision_store_reset`; one that fails may have erased the key all the same. -/
def storeReset : Coordinator Bool :=
  section_ fun env s => (env.ok, if env.ok || env.written then { s with marker := none } else s)

def handleResetProvisioning : Coordinator Unit := do
  let erased ← storeReset
  if erased then do
    stopMqtt
    updateApp fun _ app => { app with
      config := ProvisionApp.zeroConfig
      configValid := false
      activeStaAttemptGeneration := 0
      mqttVerifiedFingerprint := 0 }
    handleProvisioningEvent .bootNoConfig 0

/-- The last part of `reconcile_network_state`, for a station that has an address. -/
def reconcileMqtt (wasConnected : Bool) : Coordinator Unit := do
  let (connected, connecting) ← query fun _ s =>
    (s.relay.ctx.mqttConnected, s.relay.ctx.mqttConnecting)
  if connected != wasConnected then handleMqttEvent (if connected then .connected else .failed)
  else if !connected && !connecting then do
    let (dueMs, due) ← query fun env s =>
      (s.app.mqttRetryDueMs, decide (s.app.mqttRetryDueMs ≤ env.nowMs))
    if dueMs != 0 && due then do
      cancelMqttRetry
      discard startOrReconnectMqtt
    else if dueMs = 0 then scheduleMqttRetry

def reconcileNetworkState : Coordinator Unit := do
  let status ← runtimeStatus
  match status with
  | none => return
  | some runtime =>
    if runtime.staStarted && !runtime.retryPaused then do
      let (wifiConnected, mqttConnected) ← query fun _ s =>
        (s.app.state.wifiConnected, s.app.state.mqttConnected)
      if runtime.staHasIp != wifiConnected then
        handleProvisioningEvent (if runtime.staHasIp then .wifiConnected else .wifiDisconnected)
          runtime.staAttemptGeneration
      if runtime.automaticRecoveryDue && !runtime.automaticRecoveryAp then
        handleProvisioningEvent .wifiTimeout runtime.staAttemptGeneration
      if runtime.staHasIp then reconcileMqtt mqttConnected

def handleBondPoll : Coordinator Unit := do
  reconcileNetworkState
  let hasBond ← query fun env _ => env.hasBond
  let hadBond ← query fun _ s => s.app.state.hasBond
  if hasBond != hadBond then
    handleProvisioningEvent (if hasBond then .bondPresent else .bondRemoved) 0

def sameGeneration (first second : Nat) : Bool := first % 2 ^ 32 == second % 2 ^ 32

def handleMessage : AppEventMsg → Coordinator Unit
  | .provisioning event staAttemptGeneration => handleProvisioningEvent event staAttemptGeneration
  | .mqtt event mqttGeneration => do
    let currentClient ← query fun _ s => sameGeneration mqttGeneration s.app.mqttGeneration
    if currentClient then handleMqttEvent event
  | .configChanged config => handleConfigChanged config
  | .mqttRetry mqttGeneration retryDueMs => do
    let currentRetry ← query fun env s => sameGeneration mqttGeneration s.app.mqttGeneration &&
      retryDueMs != 0 && retryDueMs == s.app.mqttRetryDueMs && decide (retryDueMs ≤ env.nowMs)
    if currentRetry then do
      cancelMqttRetry
      discard startOrReconnectMqtt
  | .bondPoll => handleBondPoll
  | .wifiStatusRefresh => discard call
  | .resetProvisioning => handleResetProvisioning
  | .mqttConnectNow => do
    cancelMqttRetry
    discard startOrReconnectMqtt

def receive : Coordinator (Option AppEventMsg) :=
  section_ fun _ s => (s.queue.head?, { s with queue := s.queue.tail })

def turn : Coordinator Unit := do
  let received ← receive
  match received with
  | none => return
  | some message => handleMessage message

end Coordinator
