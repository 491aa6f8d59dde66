import IosAncs.Foundation.Sequential
import IosAncs.Provision.VerifiedPassword
import IosAncs.Provisioning.State
import IosAncs.Relay.System

/-!
The coordinator's context: its own state, the relay it starts and stops, and its queue. The
coordinator handles one message after another, section by section; what the other tasks have
done since its last section comes with the answers that the section gets.
The source is `app_main.c`.
-/
open ProvisionConfig Sections

inductive MqttRelayEvent where
  | connected
  | disconnected
  | failed
  | enrollRequest
  | restartRequest
deriving DecidableEq, Repr

/-- `app_event_msg_t`. The generation of a client is counted on without end here; the code
    keeps its low 32 bits. -/
inductive AppEventMsg where
  | provisioning (event : ProvisioningEvent) (staAttemptGeneration : UInt32)
  | mqtt (event : MqttRelayEvent) (mqttGeneration : Nat)
  | configChanged (config : ProvisionConfig)
  | mqttRetry (mqttGeneration : Nat) (retryDueMs : UInt64)
  | bondPoll
  | wifiStatusRefresh
  | resetProvisioning
  | mqttConnectNow

structure AppCoordinatorState where
  state : ProvisioningState
  config : ProvisionConfig
  configValid : Bool
  mqttInitialized : Bool
  mqttStarted : Bool
  activeStaAttemptGeneration : UInt32
  mqttRetryAttempt : Nat
  mqttRetryDelayMs : UInt64
  mqttGeneration : Nat
  mqttRetryDueMs : UInt64
  mqttVerifiedFingerprint : UInt32

/-- The relay, the settings that it was made with, and the generation that its event callback
    was registered for. The task of its client runs from a start to a stop. -/
structure AppRelay where
  ctx : RelayContext
  config : ProvisionConfig
  callback : Option Nat
  running : Bool

/-- A call of `provision_store_save_mqtt_verified`, the settings that the coordinator had then,
    and those of the clients that had reported a connection before it. -/
structure MarkerSave where
  fingerprint : UInt32
  config : ProvisionConfig
  reported : List ProvisionConfig

/-- What nothing reads: the settings of the clients that have reported a connection, the
    generations of those that `stop_mqtt` has stopped, and the saves of the marker. -/
structure AppHistory where
  reported : List ProvisionConfig
  stopped : List Nat
  saved : List MarkerSave

structure AppContext where
  app : AppCoordinatorState
  relay : AppRelay
  queue : List AppEventMsg
  /-- the key `mqtt_ok` of the partition -/
  marker : Option UInt32
  history : AppHistory

/-- What another task does: a timer, the portal, the Wi-Fi runtime, or the task of the MQTT
    client, which calls the relay's event handler. -/
inductive OtherTask where
  | provisioning (event : ProvisioningEvent) (staAttemptGeneration : UInt32)
  | reconnect (config : ProvisionConfig)
  | mqttRetryTimer
  | bondPollTimer
  | wifiStatusTimer
  | resetProvisioning
  | mqttTest
  /-- the section in which the handler acts on the client's event -/
  | clientEvent (eventId : MqttEventId) (nowMs : UInt64)
  | subscribeFailed
  /-- `mqtt_relay_emit_event` -/
  | emit (event : MqttRelayEvent)

/-- `provisioning_runtime_status_t`, as far as the coordinator reads it -/
structure ProvisioningRuntimeStatus where
  staStarted : Bool
  staHasIp : Bool
  retryPaused : Bool
  staAttemptGeneration : UInt32
  automaticRecoveryDue : Bool
  automaticRecoveryAp : Bool
deriving DecidableEq, Repr

/-- What a section gets from outside. -/
structure AppEnv where
  /-- what the other tasks have done since the last section -/
  others : List OtherTask
  nowMs : UInt64
  /-- the call that the section stands for returns `ESP_OK` -/
  ok : Bool
  /-- a save that fails may have written the key all the same -/
  written : Bool
  /-- `none` when the status cannot be read -/
  runtime : Option ProvisioningRuntimeStatus
  /-- the retry timer runs, or there is none -/
  timerActive : Bool
  hasBond : Bool

namespace AppContext

def eventQueueLength : Nat := 16

def post (s : AppContext) (message : AppEventMsg) : AppContext :=
  if s.queue.length < eventQueueLength then { s with queue := s.queue ++ [message] } else s

def clientActs (s : AppContext) (eventId : MqttEventId) (nowMs : UInt64) : AppContext :=
  let reported := if eventId = .connected then s.relay.config :: s.history.reported
    else s.history.reported
  { s with
    relay := { s.relay with ctx := RelayHandler.act s.relay.ctx eventId nowMs }
    history := { s.history with reported } }

def interrupt (s : AppContext) : OtherTask → AppContext
  | .provisioning event staAttemptGeneration => s.post (.provisioning event staAttemptGeneration)
  | .reconnect config => s.post (.configChanged config)
  | .mqttRetryTimer => s.post (.mqttRetry s.app.mqttGeneration s.app.mqttRetryDueMs)
  | .bondPollTimer => s.post .bondPoll
  | .wifiStatusTimer => s.post .wifiStatusRefresh
  | .resetProvisioning => s.post .resetProvisioning
  | .mqttTest => s.post .mqttConnectNow
  | .clientEvent eventId nowMs => if s.relay.running then s.clientActs eventId nowMs else s
  | .subscribeFailed =>
    if s.relay.running then
      { s with relay := { s.relay with ctx := { s.relay.ctx with mqttConnected := false } } }
    else s
  | .emit event =>
    match s.relay.running, s.relay.callback with
    | true, some generation => s.post (.mqtt event generation)
    | _, _ => s

def interrupted (s : AppContext) (others : List OtherTask) : AppContext := others.foldl interrupt s

def zeroRelay : AppRelay where
  ctx := RelayContext.zero
  config := ProvisionApp.zeroConfig
  callback := none
  running := false

def boot (config : ProvisionConfig) (configValid : Bool) (verified : UInt32) (marker : Option UInt32) :
    AppContext where
  app := {
    state := ProvisioningState.initial
    config
    configValid
    mqttInitialized := false
    mqttStarted := false
    activeStaAttemptGeneration := 0
    mqttRetryAttempt := 0
    mqttRetryDelayMs := 0
    mqttGeneration := 0
    mqttRetryDueMs := 0
    mqttVerifiedFingerprint := verified }
  relay := zeroRelay
  queue := []
  marker
  history := { reported := [], stopped := [], saved := [] }

end AppContext

abbrev Coordinator := Sections Unit AppEnv AppContext
