import IosAncs.Foundation.Runs
import IosAncs.Relay.Context
import IosAncs.Relay.Topics

/-!
The retained state: the worker publishes one after it announced the relay, the
coordinator one after every change of the status. Both copy the context in one section,
read the clock after it, and give the client what they built from that later on.
The source is `mqtt_relay.c`.
-/
open CString ProvisionConfig RelayContext

/-- `mqtt_relay_wifi_status_t` -/
structure MqttRelayWifiStatus where
  connected : Bool
  ssid : CharArray 32
  ip : CharArray 15
  rssi : Int
deriving DecidableEq

/-- `mqtt_relay_diagnostics_t`, which is compared and copied as a whole. -/
structure MqttRelayDiagnostics where
  firmwareElfSha256 : CharArray 64
  /-- the bytes of the other fields -/
  fields : List UInt8
deriving DecidableEq

/-- `mqtt_relay_runtime_status_t` -/
structure MqttRelayRuntimeStatus where
  wifi : MqttRelayWifiStatus
  mqttConnected : Bool
  bleConnected : Bool
  bleBonded : Bool
  uptimeSeconds : Nat
  lastNotificationUptimeMs : UInt64
  diagnostics : MqttRelayDiagnostics

/-- The fields of the context that only a state reads. -/
structure RelayStatus where
  wifiStatus : MqttRelayWifiStatus
  bleConnected : Bool
  bleBonded : Bool
  diagnostics : MqttRelayDiagnostics
  deviceInfo : MqttRelayDeviceInfo
  stateTopic : List UInt8

/-- What a publisher copied, and the number of steps that were taken before. -/
structure StateSample where
  counters : RelayCounters
  runtime : MqttRelayRuntimeStatus
  deviceInfo : MqttRelayDeviceInfo
  stateTopic : List UInt8
  takenAt : Nat

/-- A state that the client took, and the number of steps before that. -/
structure StateMessage where
  topic : List UInt8
  payload : List UInt8
  sample : StateSample
  enqueuedAt : Nat

namespace RelayStatus

def wifiStatusIsValid (status : MqttRelayWifiStatus) : Bool :=
  if !status.connected then true else fieldPresent status.ssid && fieldPresent status.ip

/-- The section that both publishers copy the context in. -/
def sampleLocked (ctx : RelayContext) (status : RelayStatus) (takenAt : Nat) : StateSample where
  counters := ctx.counters
  runtime :=
    { wifi := status.wifiStatus
      mqttConnected := ctx.mqttConnected
      bleConnected := status.bleConnected
      bleBonded := status.bleBonded
      uptimeSeconds := 0
      lastNotificationUptimeMs := ctx.lastNotificationUptimeMs
      diagnostics := status.diagnostics }
  deviceInfo := status.deviceInfo
  stateTopic := status.stateTopic
  takenAt

end RelayStatus

namespace StateSample

def uptime (sample : StateSample) : Nat := sample.runtime.uptimeSeconds

def readClock (sample : StateSample) (uptimeUs : Nat) : StateSample :=
  { sample with runtime := { sample.runtime with uptimeSeconds := uptimeUs / 1000000 } }

end StateSample

/-- Where a call of `mqtt_relay_enqueue_raw` stands. -/
inductive EnqueueRaw where
  | entering
  | calling
  | leaving (result : Int)
deriving DecidableEq, Repr

/-- One step of `mqtt_relay_enqueue_raw`, and its result at the end. -/
def EnqueueRaw.step (ctx : RelayContext) (answer : Int) : EnqueueRaw → RelayContext × (EnqueueRaw ⊕ Int)
  | .entering =>
    match enqueueRawEnter ctx with
    | none => (ctx, .inr (-1))
    | some entered => (entered, .inl .calling)
  | .calling => (ctx, .inl (.leaving answer))
  | .leaving result => (rawLeave ctx, .inr result)

def discoveryDrainTimeoutMs : Nat := 30000
def discoveryDrainPollMs : Nat := 10

/-- Where a call of `mqtt_relay_publish_retained_once` stands; retained messages have
    quality of service 0. -/
inductive RetainedOnce where
  | enqueueing (stage : EnqueueRaw)
  /-- in `mqtt_relay_wait_outbox_empty` -/
  | draining (elapsedMs : Nat)
deriving DecidableEq, Repr

def RetainedOnce.step (ctx : RelayContext) (answer : Int) (outboxSize : Nat) :
    RetainedOnce → RelayContext × (RetainedOnce ⊕ Bool)
  | .enqueueing stage =>
    match stage.step ctx answer with
    | (ctx, .inl next) => (ctx, .inl (.enqueueing next))
    | (ctx, .inr result) => (ctx, if 0 ≤ result then .inl (.draining 0) else .inr false)
  | .draining elapsedMs =>
    if ctx.client = none || !(ctx.mqttConnected && ctx.publishAllowed) then (ctx, .inr false)
    else if outboxSize = 0 then (ctx, .inr true)
    else if elapsedMs + discoveryDrainPollMs < discoveryDrainTimeoutMs then
      (ctx, .inl (.draining (elapsedMs + discoveryDrainPollMs)))
    else (ctx, .inr false)

/-- Where the worker stands in `mqtt_relay_publish_retained_status`. -/
inductive RetainedWorker where
  | waiting
  | starting
  | timing (sample : StateSample)
  | announcing (sample : StateSample) (once : RetainedOnce)
  | building (sample : StateSample)
  | stating (sample : StateSample) (payload : List UInt8) (once : RetainedOnce)
  /-- the discovery messages, which go to other topics -/
  | discovering
  | finishing

/-- Where the coordinator stands in `mqtt_relay_publish_state_snapshot`. -/
inductive StateCoordinator where
  | idle
  | sampling
  | timing (sample : StateSample)
  | building (sample : StateSample)
  | enqueueing (sample : StateSample) (payload : List UInt8) (stage : EnqueueRaw)

/-- The coordinator's calls that publish a state. -/
inductive StateCall where
  | updateWifiStatus (status : MqttRelayWifiStatus)
  | updateBleStatus (connected bonded : Bool)
  | updateDiagnostics (status : MqttRelayDiagnostics)
  | refreshState

structure StateRun where
  ctx : RelayContext
  status : RelayStatus
  uptimeUs : Nat
  worker : RetainedWorker
  coordinator : StateCoordinator
  /-- the number of steps, and the states that the client took, the newest first -/
  time : Nat
  published : List StateMessage

inductive StateAction where
  /-- any other section of the relay -/
  | other (ctx : RelayContext) (status : RelayStatus)
  | tick (elapsedUs : Nat)
  /-- the worker, with its memory, the payload where it was built, what the client's call
      returns and the size of its outbox -/
  | worker (memory : Bool) (payload : Option (List UInt8)) (answer : Int) (outboxSize : Nat)
  | call (call : StateCall)
  | coordinator (payload : Option (List UInt8)) (answer : Int)

namespace StateRun
open RelayStatus

def enqueued (run : StateRun) (sample : StateSample) (payload : List UInt8) (stage : EnqueueRaw)
    (answer : Int) : List StateMessage :=
  if stage = .calling ∧ 0 ≤ answer then
    { topic := sample.stateTopic, payload, sample, enqueuedAt := run.time } :: run.published
  else run.published

def workerStep (run : StateRun) (memory : Bool) (payload : Option (List UInt8)) (answer : Int)
    (outboxSize : Nat) : StateRun :=
  match run.worker with
  | .waiting =>
    if run.ctx.workerRunning && run.ctx.retainedRefreshPending && run.ctx.mqttConnected then
      { run with
        ctx := { run.ctx with retainedRefreshPending := false, workerBusy := true }
        worker := .starting }
    else run
  | .starting =>
    { run with
      worker := if memory then .timing (sampleLocked run.ctx run.status run.time) else .finishing }
  | .timing sample =>
    { run with worker := .announcing (sample.readClock run.uptimeUs) (.enqueueing .entering) }
  | .announcing sample once =>
    match once.step run.ctx answer outboxSize with
    | (ctx, .inl next) => { run with ctx, worker := .announcing sample next }
    | (ctx, .inr sent) => { run with ctx, worker := if sent then .building sample else .finishing }
  | .building sample =>
    match payload with
    | some payload => { run with worker := .stating sample payload (.enqueueing .entering) }
    | none => { run with worker := .discovering }
  | .stating sample payload once =>
    let published :=
      match once with
      | .enqueueing stage => run.enqueued sample payload stage answer
      | .draining _ => run.published
    match once.step run.ctx answer outboxSize with
    | (ctx, .inl next) => { run with ctx, published, worker := .stating sample payload next }
    | (ctx, .inr sent) =>
      { run with ctx, published, worker := if sent then .discovering else .finishing }
  | .discovering => { run with worker := .finishing }
  | .finishing => { run with ctx := { run.ctx with workerBusy := false }, worker := .waiting }

/-- The first section of the call; a status that changes nothing is not published. -/
def call (run : StateRun) : StateCall → StateRun
  | .updateWifiStatus status =>
    if wifiStatusIsValid status then
      { run with status := { run.status with wifiStatus := status }, coordinator := .sampling }
    else run
  | .updateBleStatus connected bonded =>
    let changed := run.status.bleConnected ≠ connected || run.status.bleBonded ≠ bonded
    { run with
      status := { run.status with bleConnected := connected, bleBonded := bonded }
      coordinator := if changed then .sampling else .idle }
  | .updateDiagnostics status =>
    if fieldValid status.firmwareElfSha256 then
      { run with
        status := { run.status with diagnostics := status }
        coordinator := if run.status.diagnostics ≠ status then .sampling else .idle }
    else run
  | .refreshState => { run with coordinator := .sampling }

def coordinatorStep (run : StateRun) (payload : Option (List UInt8)) (answer : Int) : StateRun :=
  match run.coordinator with
  | .idle => run
  | .sampling => { run with coordinator := .timing (sampleLocked run.ctx run.status run.time) }
  | .timing sample =>
    { run with
      coordinator :=
        if sample.runtime.mqttConnected then .building (sample.readClock run.uptimeUs) else .idle }
  | .building sample =>
    match payload with
    | some payload => { run with coordinator := .enqueueing sample payload .entering }
    | none => { run with coordinator := .idle }
  | .enqueueing sample payload stage =>
    let published := run.enqueued sample payload stage answer
    match stage.step run.ctx answer with
    | (ctx, .inl next) => { run with ctx, published, coordinator := .enqueueing sample payload next }
    | (ctx, .inr _) => { run with ctx, published, coordinator := .idle }

def act (run : StateRun) : StateAction → StateRun
  | .other ctx status => { run with ctx, status }
  | .tick elapsedUs => { run with uptimeUs := run.uptimeUs + elapsedUs }
  | .worker memory payload answer outboxSize => run.workerStep memory payload answer outboxSize
  | .call request =>
    match run.coordinator with
    | .idle => run.call request
    | _ => run
  | .coordinator payload answer => run.coordinatorStep payload answer

def step (run : StateRun) (action : StateAction) : StateRun :=
  { run.act action with time := run.time + 1 }

end StateRun
