import IosAncs.Foundation.Mutex
import IosAncs.Provision.Config
import IosAncs.Provisioning.Retry
import IosAncs.Provisioning.State

/-!
The Wi-Fi runtime from the end of its initialization on: the flags that the operation mutex
protects, the retry policy, the driver that is told what to do, and the queue of events to the
coordinator. Every section of the state lock and every call of the driver is one section; the
driver answers through the environment. The source is `provisioning_runtime.c`.
-/
open CString Sections ProvisioningRetry

inductive WifiMode where
  | null
  | sta
  | ap
  | apSta
deriving DecidableEq, Repr

/-- `wifi_sta_config_t`, its SSID and its password. -/
structure StaProfile where
  ssid : CharArray 31
  password : CharArray 63
deriving DecidableEq, Repr

/-- What the driver was told: the mode and the station profile that it has accepted, and whether
    it accepted the last mode it was given. -/
structure WifiDriver where
  mode : WifiMode
  settled : Bool
  profile : Option StaProfile
deriving DecidableEq, Repr

/-- What has happened, for nothing to read. A raised event is noted with the SSID that the
    runtime expects, a report of the driver with the profile that the driver has. -/
inductive WifiMark where
  | staStarted (generation : UInt32)
  | rolledBack
  | toreDown
  | interfaceStarted
  | interfaceStopped
  | connect (generation : UInt32)
  | reported (ssid : List UInt8) (profile : Option StaProfile)
  | raised (event : ProvisioningEvent) (generation : UInt32) (expected : List UInt8)
deriving DecidableEq, Repr

/-- The latest time that was read, the calls of the retry policy in their order, and what has
    happened, newest first. -/
structure WifiHistory where
  clockMs : Nat
  calls : List RetryCall
  marks : List WifiMark
deriving DecidableEq, Repr

/-- The static memory that the operation mutex protects. -/
structure WifiStation where
  wifiStarted : Bool
  apStarted : Bool
  staStarted : Bool
  staConnecting : Bool
  staHasIp : Bool
  staInterfaceReady : Bool
  staStopPending : Bool
  retry : ProvisioningRetry
  expectedSsid : CharArray 32
  lastWifiConnectError : Int
  lastWifiDisconnectReason : UInt32
  lastWifiDisconnectRssi : Int
  nextStaAttemptGeneration : UInt32
  activeStaAttemptGeneration : UInt32
  driver : WifiDriver
  history : WifiHistory
deriving DecidableEq, Repr

/-- `provisioning_runtime_event_t` -/
structure ProvisioningRuntimeEvent where
  event : ProvisioningEvent
  staAttemptGeneration : UInt32
deriving DecidableEq, Repr

structure WifiRuntime where
  station : WifiStation
  automaticRecoveryAp : Bool
  eventQueue : List ProvisioningRuntimeEvent
  eventOverflowCount : UInt32
  /-- what the callback was given, and what found the queue full, each the oldest first -/
  delivered : List ProvisioningRuntimeEvent
  lost : List ProvisioningRuntimeEvent
deriving DecidableEq, Repr

/-- `wifi_event_handler`'s events: a loss of the link with its reason and signal, where the event
    has data, and an address with whether it is one of the station's interface. -/
inductive WifiEvent where
  | staStart
  | staStop
  | staDisconnected (info : Option (UInt32 × Int))
  | staGotIp (ofStation : Bool)
  | other
deriving DecidableEq, Repr

/-- What a section gets from outside: the time, a random number, the answer of the call that it
    stands for, and what the driver says about the station's network and address. -/
structure WifiEnv where
  nowMs : Nat
  random : UInt32
  error : Int
  apInfo : Option (CharArray 32)
  ipAddr : Option UInt32
  apCount : UInt16
deriving DecidableEq, Repr

/-- The sections told apart by the mutex, and the call that starts an attempt. -/
inductive WifiSection where
  | lock
  | unlock
  | connect
  | plain
deriving DecidableEq, Repr

abbrev Wifi := Sections WifiSection WifiEnv WifiRuntime

namespace WifiStation

def call (st : WifiStation) (call : RetryCall) : WifiStation :=
  { st with
    retry := call.effect st.retry
    history := { st.history with calls := st.history.calls ++ [call] } }

def mark (st : WifiStation) (mark : WifiMark) : WifiStation :=
  { st with history := { st.history with marks := mark :: st.history.marks } }

/-- An event that goes out once the mutex is given back. -/
def raise (st : WifiStation) (event : ProvisioningEvent) (generation : UInt32) : WifiStation :=
  st.mark (.raised event generation (text st.expectedSsid))

def at_ (st : WifiStation) (nowMs : Nat) : WifiStation :=
  { st with history := { st.history with clockMs := nowMs } }

/-- `next_sta_attempt_generation` -/
def nextGeneration (st : WifiStation) : UInt32 :=
  if st.nextStaAttemptGeneration + 1 = 0 then st.nextStaAttemptGeneration + 2
  else st.nextStaAttemptGeneration + 1

/-- The poll of `wifi_timeout_task`. -/
def poll (st : WifiStation) (nowMs : Nat) (randomValue : UInt32) : RetryActions × WifiStation :=
  if st.staStarted && st.staInterfaceReady && !st.staStopPending then
    let polled := st.call (.poll nowMs randomValue)
    ((st.retry.poll nowMs randomValue).2, { polled with staConnecting := polled.retry.inFlight })
  else (quiet, st)

/-- The attempt that was about to be aborted has an address after all. -/
def reconciled (st : WifiStation) (nowMs : Nat) (generation : UInt32) : WifiStation :=
  WifiStation.raise { st.call (.connected nowMs) with staHasIp := true, staConnecting := false }
    .wifiConnected generation

def errWifiConn : Int := 0x3007

def connectAnswered (st : WifiStation) (err : Int) (nowMs : Nat) (randomValue : UInt32) :
    WifiStation :=
  let st := { st with lastWifiConnectError := err }
  if err ≠ 0 ∧ err ≠ errWifiConn then
    let failed := st.call (.failed nowMs false randomValue)
    { failed with staConnecting := failed.retry.inFlight }
  else st

/-- The reasons of a refused password: `AUTH_FAIL`, `4WAY_HANDSHAKE_TIMEOUT` and
    `HANDSHAKE_TIMEOUT`. -/
def authFailure (reason : UInt32) : Bool := reason == 202 || reason == 15 || reason == 204

/-- The handler's section for a lost link; the event is raised for a link that had an address. -/
def disconnected (st : WifiStation) (nowMs : Nat) (info : Option (UInt32 × Int)) (liveIp : Bool) :
    Option ProvisioningRuntimeEvent × WifiStation :=
  let reason := (info.map Prod.fst).getD 0
  if st.staStarted && !st.staStopPending && !liveIp && (st.retry.inFlight || st.retry.online) then
    let failed := WifiStation.call
      { st with
        staHasIp := false
        lastWifiDisconnectReason := reason
        lastWifiDisconnectRssi := (info.map Prod.snd).getD 0 }
      (.failed nowMs (authFailure reason) 0)
    let failed := { failed with staConnecting := failed.retry.inFlight }
    if st.staHasIp then
      (some ⟨.wifiDisconnected, st.activeStaAttemptGeneration⟩,
        failed.raise .wifiDisconnected st.activeStaAttemptGeneration)
    else (none, failed)
  else (none, st)

def gotIp (st : WifiStation) (nowMs : Nat) (liveIp : Bool) :
    Option ProvisioningRuntimeEvent × WifiStation :=
  if st.staStarted && st.staInterfaceReady && !st.staStopPending &&
      st.retry.matches_ st.activeStaAttemptGeneration && liveIp then
    (some ⟨.wifiConnected, st.activeStaAttemptGeneration⟩,
      WifiStation.raise
        { st.call (.connected nowMs) with
          staConnecting := false
          staHasIp := true
          lastWifiConnectError := 0 }
        .wifiConnected st.activeStaAttemptGeneration)
  else (none, st)

def interfaceStarted (st : WifiStation) : WifiStation :=
  WifiStation.mark { st with staInterfaceReady := !st.staStopPending } .interfaceStarted

def interfaceStopped (st : WifiStation) : WifiStation :=
  WifiStation.mark { st with staInterfaceReady := false, staStopPending := false } .interfaceStopped

/-- The section in which `provisioning_runtime_start_sta` takes the station for started. -/
def start (st : WifiStation) (config : ProvisionConfig) (nowMs : Nat) : WifiStation :=
  let generation := st.nextGeneration
  WifiStation.mark
    { (st.at_ nowMs).call (.start generation nowMs) with
      nextStaAttemptGeneration := generation
      staStarted := true
      staConnecting := false
      staHasIp := false
      activeStaAttemptGeneration := generation
      expectedSsid := strlcpy st.expectedSsid config.wifiSsid
      lastWifiDisconnectReason := 0
      lastWifiDisconnectRssi := 0 }
    (.staStarted generation)

def rollBack (st : WifiStation) : WifiStation :=
  WifiStation.mark
    { st.call .stop with
      staStarted := false
      staConnecting := false
      staHasIp := false
      activeStaAttemptGeneration := 0 }
    .rolledBack

/-- The section in which `provisioning_runtime_stop_sta` takes the station for stopped. -/
def tearDown (st : WifiStation) : WifiStation :=
  WifiStation.mark
    { st.call .stop with
      staStarted := false
      staConnecting := false
      staHasIp := false
      activeStaAttemptGeneration := 0
      staInterfaceReady := false
      staStopPending := st.staStarted || st.staStopPending }
    .toreDown

/-- The section of `provisioning_runtime_pause_retries`. -/
def pause (st : WifiStation) : WifiStation :=
  let paused := st.call .pause
  { paused with retry := { paused.retry with inFlight := false }, staConnecting := false }

def selectWifiModeFromFlags (st : WifiStation) : WifiMode :=
  match st.apStarted, st.staStarted with
  | true, true => .apSta
  | true, false => .ap
  | false, true => .sta
  | false, false => .null

/-- `current_station_has_ip`; what the driver says is noted where it counts. -/
def hasIp (st : WifiStation) (env : WifiEnv) : Bool × WifiStation :=
  match env.apInfo with
  | none => (false, st)
  | some ap =>
    if text ap = text st.expectedSsid then
      match env.ipAddr with
      | none => (false, st)
      | some addr =>
        if addr = 0 then (false, st)
        else (true, st.mark (.reported (text ap) st.driver.profile))
    else (false, st)

/-- The profile that `provisioning_runtime_start_sta` makes of a configuration: `strlcpy` into
    the driver's arrays, which were zeroed. -/
def profileOf (config : ProvisionConfig) : StaProfile where
  ssid := ofText 31 ((text config.wifiSsid).take 31)
  password := ofText 63 ((text config.wifiPassword).take 63)

def ready : WifiStation where
  wifiStarted := false
  apStarted := false
  staStarted := false
  staConnecting := false
  staHasIp := false
  staInterfaceReady := false
  staStopPending := false
  retry := ProvisioningRetry.stop
  expectedSsid := zeroed
  lastWifiConnectError := 0
  lastWifiDisconnectReason := 0
  lastWifiDisconnectRssi := 0
  nextStaAttemptGeneration := 0
  activeStaAttemptGeneration := 0
  driver := { mode := .null, settled := true, profile := none }
  history := { clockMs := 0, calls := [], marks := [] }

end WifiStation

def WifiRuntime.ready : WifiRuntime where
  station := WifiStation.ready
  automaticRecoveryAp := false
  eventQueue := []
  eventOverflowCount := 0
  delivered := []
  lost := []

namespace Wifi

def espOk : Int := 0
def espErrInvalidArg : Int := 0x102
def espErrInvalidState : Int := 0x103
def espErrWifiNotConnect : Int := 0x300F
def espErrWifiStopState : Int := 0x3014

def eventQueueLen : Nat := 8
def wifiModeRetryCount : Nat := 6
def scanMaxAps : Nat := 20

def section_ {α : Type} (body : WifiEnv → WifiStation → α × WifiStation) : Wifi α :=
  atomic .plain fun env s =>
    ((body env s.station).1, { s with station := (body env s.station).2 })

def query {α : Type} (read : WifiStation → α) : Wifi α := section_ fun _ st => (read st, st)

def update (write : WifiStation → WifiStation) : Wifi Unit := section_ fun _ st => ((), write st)

def call : Wifi Int := section_ fun env st => (env.error, st)

def calls : Nat → Wifi Int
  | 0 => pure espOk
  | rest + 1 => do
    let err ← call
    if err ≠ espOk then pure err else calls rest

/-- `lock_wifi_operation`, with the time and the random number that are read next. -/
def lockWifiOperation : Wifi (Nat × UInt32) :=
  atomic .lock fun env s =>
    ((env.nowMs, env.random), { s with station := s.station.at_ env.nowMs })

def unlockWifiOperation : Wifi Unit := atomic .unlock fun _ s => ((), s)

/-- A function that takes the mutex first and gives it back on every way out. -/
def locked {α : Type} (body : Nat → UInt32 → Wifi α) : Wifi α := do
  let (nowMs, randomValue) ← lockWifiOperation
  let result ← body nowMs randomValue
  unlockWifiOperation
  pure result

def dispatchEventWithGeneration (event : ProvisioningEvent) (generation : UInt32) : Wifi Unit := do
  let sent ← atomic .plain fun _ s =>
    if s.eventQueue.length < eventQueueLen then
      (true, { s with eventQueue := s.eventQueue ++ [⟨event, generation⟩] })
    else (false, { s with lost := s.lost ++ [⟨event, generation⟩] })
  if !sent then
    atomic .plain fun _ s => ((), { s with eventOverflowCount := s.eventOverflowCount + 1 })

def dispatchEvent (event : ProvisioningEvent) : Wifi Unit := dispatchEventWithGeneration event 0

/-- One round of `event_callback_task`, with the callback that `app_main` registers. -/
def eventCallbackTurn : Wifi Unit :=
  atomic .plain fun _ s => match s.eventQueue with
    | [] => ((), s)
    | message :: rest =>
      ((), { s with eventQueue := rest, delivered := s.delivered ++ [message] })

def currentStationHasIp : Wifi Bool := section_ fun env st => st.hasIp env

/-- `asked && current_station_has_ip()` -/
def hasIpIf (asked : Bool) : Wifi Bool := if asked then currentStationHasIp else pure false

def callIf (asked : Bool) : Wifi Int := if asked then call else pure espOk

def setMode (mode : WifiMode) : Wifi Int :=
  section_ fun env st =>
    (env.error, { st with driver :=
      if env.error = espOk then { st.driver with mode, settled := true }
      else { st.driver with settled := false } })

/-- `esp_wifi_set_config` for the station. -/
def setStaConfig (profile : StaProfile) : Wifi Int :=
  section_ fun env st =>
    (env.error, { st with driver :=
      if env.error = espOk then { st.driver with profile := some profile } else st.driver })

/-- The attempts of `set_wifi_mode_with_retry` that are left, after one that answered `err`. -/
def tryWifiMode (mode : WifiMode) : Nat → Int → Wifi Int
  | 0, err => pure err
  | rest + 1, _ => do
    let err ← setMode mode
    if err ≠ espErrWifiStopState then pure err else tryWifiMode mode rest err

def setWifiModeWithRetry (mode : WifiMode) : Wifi Int := tryWifiMode mode wifiModeRetryCount espOk

def applyWifiModeUnlocked : Wifi Int := do
  let mode ← query WifiStation.selectWifiModeFromFlags
  setWifiModeWithRetry mode

def ensureWifiStartedUnlocked : Wifi Int := do
  let started ← query WifiStation.wifiStarted
  if started then pure espOk
  else do
    let err ← setMode .null
    if err ≠ espOk then pure err
    else do
      let err ← call
      if err ≠ espOk then pure err
      else do
        update fun st => { st with wifiStarted := true }
        pure espOk

/-- The only call that starts an attempt. -/
def connectIf (asked : Bool) (generation : UInt32) (nowMs : Nat) (randomValue : UInt32) :
    Wifi Unit :=
  if asked then do
    let err ← atomic .connect fun env s =>
      (env.error, { s with station := s.station.mark (.connect generation) })
    update fun st => st.connectAnswered err nowMs randomValue
  else pure ()

/-- One round of `wifi_timeout_task`. -/
def wifiTimeoutTurn : Wifi Unit := do
  let (actions, generation) ← locked fun nowMs randomValue => do
    let (actions, generation) ← section_ fun _ st =>
      (((st.poll nowMs randomValue).1, st.activeStaAttemptGeneration),
        (st.poll nowMs randomValue).2)
    let live ← hasIpIf actions.abort
    if live then do
      update fun st => st.reconciled nowMs generation
      dispatchEventWithGeneration .wifiConnected generation
      pure (quiet, generation)
    else do
      -- the answer of `esp_wifi_disconnect` is only logged
      let _ ← callIf actions.abort
      connectIf actions.connect generation nowMs randomValue
      pure (actions, generation)
  if actions.openAp then dispatchEventWithGeneration .wifiTimeout generation

def wifiEventHandler (event : WifiEvent) : Wifi Unit := do
  let notify ← locked fun nowMs _ => match event with
    | .staStart => do
      update WifiStation.interfaceStarted
      pure none
    | .staStop => do
      update WifiStation.interfaceStopped
      pure none
    | .staDisconnected info => do
      let liveIp ← currentStationHasIp
      section_ fun _ st => st.disconnected nowMs info liveIp
    | .staGotIp ofStation => do
      let liveIp ← hasIpIf ofStation
      section_ fun _ st => st.gotIp nowMs liveIp
    | .other => pure none
  match notify with
  | some message => dispatchEventWithGeneration message.event message.staAttemptGeneration
  | none => pure ()

/-- `configure_ap_ip_and_dhcp`; the answer of its first call is only logged. -/
def configureApIpAndDhcp : Wifi Int := do
  let _ ← call
  calls 5

/-- The address of the AP, and `provisioning_captive_dns_start`. -/
def openAp : Wifi Int := do
  let err ← configureApIpAndDhcp
  if err ≠ espOk then pure err else call

def startAp : Wifi Int :=
  locked fun _ _ => do
    let err ← ensureWifiStartedUnlocked
    if err ≠ espOk then pure err
    else do
      let apStarted ← query WifiStation.apStarted
      if apStarted then pure espOk
      else do
        update fun st => { st with apStarted := true }
        let err ← applyWifiModeUnlocked
        if err ≠ espOk then do
          update fun st => { st with apStarted := false }
          pure err
        else do
          let err ← openAp
          if err ≠ espOk then do
            update fun st => { st with apStarted := false }
            let _ ← applyWifiModeUnlocked
            pure err
          else pure espOk

def stopAp : Wifi Int :=
  locked fun _ _ => do
    let apStarted ← query WifiStation.apStarted
    if !apStarted then pure espOk
    else do
      let err ← call
      if err ≠ espOk then pure err
      else do
        atomic .plain fun _ s => ((), { s with
          station := { s.station with apStarted := false }
          automaticRecoveryAp := false })
        applyWifiModeUnlocked

/-- The calls of `provisioning_runtime_start_sta` that follow its section. -/
def configureSta (config : ProvisionConfig) : Wifi Int := do
  let err ← applyWifiModeUnlocked
  if err ≠ espOk then pure err
  else do
    -- power save, protocols, bandwidth
    let err ← calls 3
    if err ≠ espOk then pure err else setStaConfig (WifiStation.profileOf config)

def startSta (config : ProvisionConfig) : Wifi Int := do
  if ProvisionConfig.validate config ≠ .ok then pure espErrInvalidArg
  else
    locked fun _ _ => do
      let err ← ensureWifiStartedUnlocked
      if err ≠ espOk then pure err
      else do
        let alreadyStarted ← query WifiStation.staStarted
        if alreadyStarted then pure espErrInvalidState
        else do
          section_ fun env st => ((), st.start config env.nowMs)
          let err ← configureSta config
          if err ≠ espOk then do
            update WifiStation.rollBack
            let _ ← applyWifiModeUnlocked
            pure err
          else pure espOk

def stopSta : Wifi Int :=
  locked fun _ _ => do
    let staStarted ← section_ fun _ st => (st.staStarted, st.tearDown)
    if !staStarted then pure espOk
    else do
      let answer ← call
      let err := if answer = espErrWifiNotConnect then espOk else answer
      let modeErr ← applyWifiModeUnlocked
      pure (if err = espOk then modeErr else err)

def pauseRetries : Wifi Int :=
  locked fun _ _ => do
    let connecting ← section_ fun _ st => (st.retry.inFlight, st.pause)
    let _ ← callIf connecting
    pure espOk

def enterStableRecovery : Wifi Int := do
  let err ← startAp
  if err = espOk then do
    atomic .plain fun _ s => ((), { s with automaticRecoveryAp := true })
    pure err
  else pure err

def finishScanRestoreIfNeeded (restoreApOnly : Bool) (primaryErr : Int) : Wifi Int := do
  if !restoreApOnly then pure primaryErr
  else do
    let restoreErr ← applyWifiModeUnlocked
    pure (if primaryErr ≠ espOk then primaryErr else restoreErr)

/-- How many records `provisioning_runtime_scan` asks the driver for. -/
def scanRequest (count : Nat) (apCount : UInt16) : Nat :=
  min (min (min count 65535) scanMaxAps) apCount.toNat

/-- The driver's part of a scan: the error, and the count that the caller is given. -/
def scanRecords (count : Nat) : Wifi (Int × Nat) := do
  let err ← call
  if err ≠ espOk then pure (err, count)
  else do
    let (err, apCount) ← section_ fun env st => ((env.error, env.apCount), st)
    if err ≠ espOk then pure (err, count)
    else if scanRequest count apCount = 0 then pure (espOk, 0)
    else do
      -- the driver may have fewer records than it has said
      let (err, found) ← section_ fun env st => ((env.error, env.apCount), st)
      if err ≠ espOk then pure (err, count)
      else pure (espOk, min (scanRequest count apCount) found.toNat)

/-- A scan needs the station's interface beside the AP's. -/
def addStaIf (asked : Bool) : Wifi Int := if asked then setMode .apSta else pure espOk

/-- `provisioning_runtime_scan`, with the size of the caller's array and then the count. -/
def scan (count : Nat) : Wifi (Int × Nat) := do
  if count = 0 then pure (espErrInvalidArg, count)
  else
    locked fun _ _ => do
      let err ← ensureWifiStartedUnlocked
      if err ≠ espOk then pure (err, count)
      else do
        let staConnecting ← query WifiStation.staConnecting
        if staConnecting then pure (espErrInvalidState, count)
        else do
          let (err, originalMode) ← section_ fun env st => ((env.error, st.driver.mode), st)
          if err ≠ espOk then pure (err, count)
          else do
            let restoreApOnly := decide (originalMode = .ap)
            let err ← addStaIf restoreApOnly
            if err ≠ espOk then pure (err, count)
            else do
              let (err, found) ← scanRecords count
              let err ← finishScanRestoreIfNeeded restoreApOnly err
              pure (err, found)

/-- `provisioning_runtime_init` of a runtime that is ready. -/
def init (config : Option ProvisionConfig) : Wifi Int := do
  match config.filter fun config => ProvisionConfig.validate config = .ok with
  | some config => do
    let err ← startSta config
    if err ≠ espOk then pure err
    else do
      dispatchEvent .bootValidConfig
      pure espOk
  | none => do
    let err ← startAp
    if err ≠ espOk then pure err
    else do
      dispatchEvent .bootNoConfig
      pure espOk

end Wifi

inductive WifiCall where
  | wifiTimeoutTurn
  | wifiEvent (event : WifiEvent)
  | eventCallbackTurn
  | init (config : Option ProvisionConfig)
  | startAp
  | stopAp
  | startSta (config : ProvisionConfig)
  | stopSta
  | pauseRetries
  | enterStableRecovery
  | scan (count : Nat)
  | notifyMqttFailed
  | notifyMqttConnected

namespace Wifi

def ignored {α : Type} (program : Wifi α) : Wifi Unit := do
  let _ ← program

def body : WifiCall → Wifi Unit
  | .wifiTimeoutTurn => wifiTimeoutTurn
  | .wifiEvent event => wifiEventHandler event
  | .eventCallbackTurn => eventCallbackTurn
  | .init config => ignored (init config)
  | .startAp => ignored startAp
  | .stopAp => ignored stopAp
  | .startSta config => ignored (startSta config)
  | .stopSta => ignored stopSta
  | .pauseRetries => ignored pauseRetries
  | .enterStableRecovery => ignored enterStableRecovery
  | .scan count => ignored (scan count)
  | .notifyMqttFailed => dispatchEvent .mqttFailed
  | .notifyMqttConnected => dispatchEvent .mqttConnected

end Wifi

/-- `provisioning_runtime_status_t`, without the name of the AP. -/
structure WifiStatus where
  initialized : Bool
  apStarted : Bool
  staStarted : Bool
  staConnecting : Bool
  staHasIp : Bool
  retryPaused : Bool
  automaticRecoveryAp : Bool
  automaticRecoveryDue : Bool
  retryAttempts : Nat
  retryInMs : Nat
  lastWifiConnectError : Int
  lastWifiDisconnectReason : UInt32
  lastWifiDisconnectRssi : Int
  eventOverflowCount : UInt32
  staAttemptGeneration : UInt32
deriving DecidableEq, Repr

/-- `provisioning_runtime_get_status` of a runtime that is ready: one section of the state lock,
    which does not wait for the mutex. -/
def WifiRuntime.getStatus (s : WifiRuntime) (nowMs : Nat) : WifiStatus where
  initialized := true
  apStarted := s.station.apStarted
  staStarted := s.station.staStarted
  staConnecting := s.station.staConnecting
  staHasIp := s.station.staHasIp
  retryPaused := s.station.retry.paused
  automaticRecoveryAp := s.automaticRecoveryAp && s.station.apStarted
  automaticRecoveryDue := s.station.retry.enabled && !s.station.retry.paused &&
    !s.station.retry.online && s.station.retry.recoveryAnnounced
  retryAttempts := s.station.retry.attempts
  retryInMs := s.station.retry.remainingMs nowMs
  lastWifiConnectError := s.station.lastWifiConnectError
  lastWifiDisconnectReason := s.station.lastWifiDisconnectReason
  lastWifiDisconnectRssi := s.station.lastWifiDisconnectRssi
  eventOverflowCount := s.eventOverflowCount
  staAttemptGeneration := s.station.activeStaAttemptGeneration
