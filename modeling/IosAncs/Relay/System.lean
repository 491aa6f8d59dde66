import IosAncs.Relay.Policy
import IosAncs.Relay.Stop
import IosAncs.Relay.Topics

/-!
The relay as a whole: observers between their sections, the worker, the client's
event handler, and the calls that stop the relay, give it another configuration, or
take it down and set it up again. What happened to every item is written down beside it.
The source is `mqtt_relay.c`.
-/
open Runs RelayContext RelayPolicy

/-- A configuration that the context was given, numbered in turn. -/
structure RelaySetup where
  number : Nat
  config : ProvisionConfig
  topics : RelayTopics
deriving DecidableEq

/-- What an observer decided and copied in its first section, and under which setup. -/
structure RelaySighting (limits : AncsLimits) where
  notification : AncsNotification limits
  relayId : List UInt8
  topic : List UInt8
  bootNonce : UInt32
  setup : RelaySetup
  relayable : Relayable notification
  built : relayId = buildId notification bootNonce
  copied : topic = setup.topics.notification

/-- A call of `mqtt_relay_observe_notification` between two of its sections. -/
inductive RelayObserver (limits : AncsLimits) where
  | decided (sighting : RelaySighting limits)
  | holding (sighting : RelaySighting limits) (address : Nat) (payload : List UInt8)

/-- Where a call of reconfigure, deinit or init stands; `mqtt_relay_stop_unlocked` and
    `mqtt_relay_start_unlocked` run inside the first two. -/
inductive RelayStage where
  | ready
  | replacing (config : ProvisionConfig) (topics : RelayTopics) (shouldStart : Bool)
  | closing (config : ProvisionConfig) (topics : RelayTopics) (shouldStart : Bool)
  | swapping (config : ProvisionConfig) (topics : RelayTopics) (shouldStart : Bool)
  | creating (shouldStart : Bool)
  | starting
  | restarting
  | undoing
  | undoingStop
  /-- in `mqtt_relay_terminal_reconfigure_failure_cleanup` -/
  | failed
  | failedQuiet
  | failedWorker
  | failedQueue
  | leaving
  | leavingStop
  | leavingFence
  | leavingWorker
  | leavingContext
  | preparing
  | opening
deriving DecidableEq

/-- How an accepted item left the relay. -/
inductive RelayFate where
  | acknowledged
  /-- freed in the queue -/
  | flushed
  /-- freed after the client took it -/
  | abandoned
  /-- freed because the client did not take it -/
  | refused
deriving DecidableEq, Repr

inductive RelayMark where
  | reset
  | accepted (address : Nat) (relayId : List UInt8)
deriving DecidableEq, Repr

/-- An item that was given to a client, and the setup that the client was made from. -/
structure RelayHandover where
  item : PayloadItem
  client : RelaySetup
deriving DecidableEq

structure RelaySystem (limits : AncsLimits) where
  run : StopRun
  bootNonce : UInt32
  setup : RelaySetup
  clientSetup : RelaySetup
  stage : RelayStage
  observers : List (RelayObserver limits)
  /-- what every allocated item was made from, by its address -/
  sightings : List (RelaySighting limits)
  /-- the items counted in `accepted`, and those of them that are gone -/
  accepted : List Nat
  settled : List (Nat × RelayFate)
  /-- the recent cache's history, newest first -/
  marks : List RelayMark
  /-- the notifications that were let go of without having been handed to a client -/
  lost : List Nat
  handed : List RelayHandover

inductive RelayCall where
  | reconfigure (config : ProvisionConfig)
  | deinit
  | init (config : ProvisionConfig) (device : MqttRelayDeviceInfo) (memory : Bool)
      (bootNonce : UInt32)

inductive RelayAction (limits : AncsLimits) where
  /-- stop, start, reconnect and their sections, the client's events, the worker -/
  | inner (action : StopAction)
  | setWifiConnected (connected : Bool)
  | observe (notification : AncsNotification limits)
  /-- the payload and the item, where there is memory for them -/
  | allocate (index : Nat) (payload : Option (List UInt8))
  | finish (index : Nat) (nowMs : UInt64)
  | call (call : RelayCall)
  /-- the next section of the call; a new client where one was asked for and made -/
  | outer (created : Option Nat)

namespace RelayContext

/-- The flush of `mqtt_relay_handle_disconnect_locked`, as other sections do it too. -/
def flushLocked (ctx : RelayContext) : RelayContext := freePendingLocked (freeQueueLocked ctx)

/-- The first section of `mqtt_relay_reconfigure`. -/
def fenceLocked (ctx : RelayContext) : RelayContext :=
  { ctx with acceptingObservers := false, publishAllowed := false }

/-- The section of `mqtt_relay_reconfigure` that installs the new topics. -/
def swapLocked (ctx : RelayContext) : RelayContext :=
  let flushed := flushLocked { ctx with client := none, mqttConnected := false }
  clearErrorLocked { flushed with discoveryAttemptedThisBoot := false, mqttConnecting := false }

/-- The section of `mqtt_relay_reconfigure` that installs the new client. -/
def reopenLocked (ctx : RelayContext) (client : Nat) : RelayContext :=
  { ctx with
    client := some client
    recent := .init
    acceptingObservers := true
    publishAllowed := true }

/-- The first section of `mqtt_relay_terminal_reconfigure_failure_cleanup`. -/
def terminalLocked (ctx : RelayContext) : RelayContext :=
  flushLocked { ctx with
    client := none
    acceptingObservers := false
    publishAllowed := false
    mqttConnected := false
    mqttConnecting := false }

/-- The last section of `mqtt_relay_deinit`, and the `memset` after it. -/
def leaveLocked (ctx : RelayContext) : RelayContext := { zero with freed := (flushLocked ctx).freed }

/-- What `mqtt_relay_prepare_context` sets up besides the texts. -/
def prepareLocked (ctx : RelayContext) : RelayContext :=
  { ctx with queue := some [], recent := .init }

def cleanupRuntimeLocked (ctx : RelayContext) : RelayContext := { flushLocked ctx with queue := none }

def online (ctx : RelayContext) : Bool :=
  ctx.acceptingObservers && ctx.wifiConnected && ctx.mqttConnected

variable {limits : AncsLimits}

def connectivity (ctx : RelayContext) (bootNonce : UInt32) : RelayConnectivity :=
  { wifiConnected := ctx.wifiConnected, mqttConnected := ctx.mqttConnected, bootNonce }

def decides (ctx : RelayContext) (bootNonce : UInt32) (notification : AncsNotification limits) :
    RelayDecision :=
  policyDecide notification (ctx.connectivity bootNonce) ctx.recent

/-- The first section of `mqtt_relay_observe_notification`, with what it copies. -/
def observeBegin (ctx : RelayContext) (bootNonce : UInt32) (setup : RelaySetup)
    (notification : AncsNotification limits) : RelayContext × Option (RelaySighting limits) :=
  let counters := ctx.counters
  if !ctx.online then
    ({ ctx with counters := { counters with droppedOffline := counters.droppedOffline + 1 } }, none)
  else if publishes : ctx.decides bootNonce notification = .publish then
    (ctx, some {
      notification, bootNonce, setup
      relayId := buildId notification bootNonce
      topic := setup.topics.notification
      relayable := ((policyDecide_publish_iff _ _ _).mp publishes).1.1
      built := rfl
      copied := rfl })
  else
    ({ ctx with counters := { counters with droppedPolicy := counters.droppedPolicy + 1 } }, none)

def isLive (notification : AncsNotification limits) : Bool :=
  notification.complete && notification.sessionId ≠ 0 && notification.eventId ≤ 1 &&
    notification.eventFlags &&& eventFlagPreExisting == 0

/-- The last section of `mqtt_relay_observe_notification`. Without a queue
    `xQueueSend` asserts, and nothing goes on. -/
def observeFinish (ctx : RelayContext) (bootNonce : UInt32) (sighting : RelaySighting limits)
    (address : Nat) (payload : List UInt8) (nowMs : UInt64) : RelayContext :=
  let item : PayloadItem := { address, topic := sighting.topic, payload, msgId := 0 }
  let counters := ctx.counters
  if !ctx.online then
    freeItem { ctx with counters := { counters with droppedOffline := counters.droppedOffline + 1 } }
      item
  else if ctx.decides bootNonce sighting.notification ≠ .publish then
    freeItem { ctx with counters := { counters with droppedPolicy := counters.droppedPolicy + 1 } }
      item
  else match ctx.queue with
    | some items =>
      if items.length < queueCapacity then
        { ctx with
          queue := some (items ++ [item])
          recent := ctx.recent.markRecent sighting.relayId
          counters := { counters with accepted := counters.accepted + 1 }
          lastNotificationUptimeMs :=
            if isLive sighting.notification then nowMs else ctx.lastNotificationUptimeMs }
      else
        freeItem
          { ctx with counters := { counters with droppedEnqueue := counters.droppedEnqueue + 1 } }
          item
    | none => ctx

end RelayContext

inductive FinishOutcome where
  | refused
  | accepted
  | overflow
  | asserted
deriving DecidableEq, Repr

def RelayContext.finishOutcome {limits : AncsLimits} (ctx : RelayContext) (bootNonce : UInt32)
    (notification : AncsNotification limits) : FinishOutcome :=
  if !ctx.online || ctx.decides bootNonce notification ≠ .publish then .refused
  else match ctx.queue with
    | some items => if items.length < queueCapacity then .accepted else .overflow
    | none => .asserted

def RelayContext.flushes (ctx : RelayContext) : List (Nat × RelayFate) :=
  (ctx.queue.getD []).map (fun item => (item.address, .flushed)) ++
    ctx.pending.map fun item => (item.address, .abandoned)

namespace StopRun

def settles (run : StopRun) : StopAction → List (Nat × RelayFate)
  | .stop =>
    match run.lifecycle with
    | .idle | .stopped => run.ctx.flushes
    | _ => []
  | .handler _ _ =>
    match run.handler with
    | .checked event =>
      match event.eventId with
      | .published msgId =>
        ((takeById msgId run.ctx.pending).1.map fun item => (item.address, .acknowledged)).toList
      | .disconnected | .error _ => run.ctx.flushes
      | _ => []
    | _ => []
  | .worker _ _ =>
    match run.worker with
    | .handed item msgId =>
      if msgId ≤ 0 then [(item.address, .refused)]
      else if !run.ctx.mqttConnected then [(item.address, .abandoned)]
      else []
    | _ => []
  | _ => []

def hands (run : StopRun) : StopAction → Option PayloadItem
  | .worker _ _ =>
    match run.worker with
    | .taken item => if (enqueueRawEnter run.ctx).isSome then some item else none
    | _ => none
  | _ => none

end StopRun

def RelayFate.unsent : RelayFate → Bool
  | .flushed | .refused => true
  | .acknowledged | .abandoned => false

namespace RelaySystem
variable {limits : AncsLimits}

/-- The relay's lifecycle calls are taken one at a time. -/
def resting (sys : RelaySystem limits) : Bool :=
  sys.stage = .ready && (sys.run.lifecycle = .idle || sys.run.lifecycle = .stopped)

def withCtx (sys : RelaySystem limits) (ctx : RelayContext) : RelaySystem limits :=
  { sys with run := { sys.run with ctx } }

def settle (sys : RelaySystem limits) (gone : List (Nat × RelayFate)) : RelaySystem limits :=
  { sys with
    settled := gone ++ sys.settled
    lost := (gone.filter fun entry => entry.2.unsent).map Prod.fst ++ sys.lost }

/-- One section of the calls, tasks and handlers of `StopRun`. -/
def takeInner (sys : RelaySystem limits) (action : StopAction) : RelaySystem limits :=
  let handed := (sys.run.hands action).toList.map fun item => { item, client := sys.clientSetup }
  { sys.settle (sys.run.settles action) with
    run := sys.run.step action
    handed := handed ++ sys.handed }

def afterStart (lifecycle : RelayLifecycle) (error : Int) : RelayStage :=
  match lifecycle with
  | .startCalling _ => if error = 0 then .ready else .restarting
  | .creatingWorker _ => if error = 0 then .restarting else .undoing
  | .startFailed _ => .undoing
  | _ => .restarting

def inner (sys : RelaySystem limits) (action : StopAction) : RelaySystem limits :=
  match action with
  | .observe _ _ => sys
  | .stop | .start _ => if sys.stage = .ready then sys.takeInner action else sys
  | .lifecycle error _ =>
    match sys.stage with
    | .ready | .closing _ _ _ | .undoingStop | .leavingStop => sys.takeInner action
    | .restarting => { sys.takeInner action with stage := afterStart sys.run.lifecycle error }
    | _ => sys
  | .event _ | .handler _ _ | .worker _ _ => sys.takeInner action

def observe (sys : RelaySystem limits) (notification : AncsNotification limits) :
    RelaySystem limits :=
  match sys.run.ctx.observeBegin sys.bootNonce sys.setup notification with
  | (ctx, none) => sys.withCtx ctx
  | (_, some sighting) => { sys with observers := sys.observers ++ [.decided sighting] }

def countDroppedEnqueue (ctx : RelayContext) : RelayContext :=
  { ctx with
    counters := { ctx.counters with droppedEnqueue := ctx.counters.droppedEnqueue + 1 } }

def allocate (sys : RelaySystem limits) (index : Nat) (payload : Option (List UInt8)) :
    RelaySystem limits :=
  match sys.observers[index]?, payload with
  | some (.decided _), none =>
    { sys.withCtx (countDroppedEnqueue sys.run.ctx) with observers := sys.observers.eraseIdx index }
  | some (.decided sighting), some payload =>
    { sys with
      sightings := sys.sightings ++ [sighting]
      observers := sys.observers.eraseIdx index ++
        [.holding sighting sys.sightings.length payload] }
  | _, _ => sys

def finish (sys : RelaySystem limits) (index : Nat) (nowMs : UInt64) : RelaySystem limits :=
  match sys.observers[index]? with
  | some (.holding sighting address payload) =>
    let ctx := sys.run.ctx.observeFinish sys.bootNonce sighting address payload nowMs
    let next := { sys.withCtx ctx with observers := sys.observers.eraseIdx index }
    match sys.run.ctx.finishOutcome sys.bootNonce sighting.notification with
    | .refused => next
    | .accepted =>
      { next with
        accepted := address :: sys.accepted
        marks := .accepted address sighting.relayId :: sys.marks }
    | .overflow => { next with lost := address :: sys.lost }
    | .asserted => sys
  | _ => sys

def flushing (sys : RelaySystem limits) (section_ : RelayContext → RelayContext)
    (stage : RelayStage) : RelaySystem limits :=
  { (sys.settle sys.run.ctx.flushes).withCtx (section_ sys.run.ctx) with stage }

/-- `mqtt_relay_stop_unlocked` up to the end of its first section. -/
def stopping (sys : RelaySystem limits) (stage : RelayStage) : RelaySystem limits :=
  { sys.settle sys.run.ctx.flushes with run := sys.run.stop, stage }

/-- The stop under way has returned, and `mqtt_relay_wait_publish_idle` as well. -/
def stopped (sys : RelaySystem limits) : Bool :=
  sys.run.lifecycle = .stopped && sys.run.ctx.publishInFlight = 0

def swap (sys : RelaySystem limits) (config : ProvisionConfig) (topics : RelayTopics)
    (shouldStart : Bool) : RelaySystem limits :=
  { sys.flushing swapLocked (.creating shouldStart) with
    setup := { number := sys.setup.number + 1, config, topics } }

/-- `mqtt_relay_build_client_config` and the creation of a client. -/
def newClient (sys : RelaySystem limits) (created : Option Nat) : Option Nat :=
  match MqttRelay.buildClientConfig sys.setup.config sys.setup.topics.availability with
  | .ok _ => created
  | .error _ => none

def workerStopped (sys : RelaySystem limits) : Bool :=
  !sys.run.ctx.workerTask && !sys.run.ctx.workerBusy

def noTopics : RelayTopics where
  notification := []
  availability := []
  state := []
  discovery := []
  enrollCommand := []
  enrollDiscovery := []
  restartCommand := []
  restartDiscovery := []

def noConfig : ProvisionConfig where
  schemaVersion := 0
  wifiSsid := CString.zeroed
  wifiPassword := CString.zeroed
  mqttHost := CString.zeroed
  mqttPort := 0
  mqttUsername := CString.zeroed
  mqttPassword := CString.zeroed
  mqttTls := false
  mqttCa := CString.zeroed
  mqttClientId := CString.zeroed
  mqttBaseTopic := CString.zeroed

/-- The end of `mqtt_relay_deinit`: the counters start again at zero. -/
def leave (sys : RelaySystem limits) : RelaySystem limits :=
  { sys.flushing leaveLocked .ready with
    bootNonce := 0
    setup := { number := sys.setup.number + 1, config := noConfig, topics := noTopics }
    accepted := []
    settled := []
    marks := .reset :: sys.marks }

def call (sys : RelaySystem limits) (call : RelayCall) : RelaySystem limits :=
  if !sys.resting then sys
  else match call with
    | .reconfigure config =>
      match MqttRelay.buildAllTopics config with
      | .error _ => sys
      | .ok topics =>
        match MqttRelay.buildClientConfig config topics.availability with
        | .error _ => sys
        | .ok _ =>
          { sys.withCtx sys.run.ctx.fenceLocked with
            stage := .replacing config topics sys.run.ctx.wifiConnected }
    | .deinit => { sys with stage := .leaving }
    | .init config device memory bootNonce =>
      if sys.run.ctx.client ≠ none || sys.run.ctx.queue ≠ none then sys
      else match MqttRelay.prepareContext config device memory with
        | .error _ => sys
        | .ok topics =>
          { sys.withCtx sys.run.ctx.prepareLocked with
            bootNonce
            setup := { number := sys.setup.number + 1, config, topics }
            marks := .reset :: sys.marks
            stage := .preparing }

def outer (sys : RelaySystem limits) (created : Option Nat) : RelaySystem limits :=
  match sys.stage with
  | .ready | .restarting => sys
  | .replacing config topics shouldStart =>
    if sys.run.ctx.client = none then sys.swap config topics shouldStart
    else sys.stopping (.closing config topics shouldStart)
  | .closing config topics shouldStart =>
    if sys.stopped then { sys with stage := .swapping config topics shouldStart } else sys
  | .swapping config topics shouldStart => sys.swap config topics shouldStart
  | .creating shouldStart =>
    match sys.newClient created with
    | none => sys.flushing terminalLocked .failedQuiet
    | some client =>
      { sys.withCtx (sys.run.ctx.reopenLocked client) with
        clientSetup := sys.setup
        marks := .reset :: sys.marks
        stage := if shouldStart then .starting else .ready }
  | .starting => { sys with run := sys.run.startCall false, stage := .restarting }
  | .undoing => sys.stopping .undoingStop
  | .undoingStop => if sys.stopped then { sys with stage := .failed } else sys
  | .failed => sys.flushing terminalLocked .failedQuiet
  | .failedQuiet =>
    if 0 < sys.run.ctx.publishInFlight then sys
    else { sys.withCtx { sys.run.ctx with workerRunning := false } with stage := .failedWorker }
  | .failedWorker => if sys.workerStopped then { sys with stage := .failedQueue } else sys
  | .failedQueue => { sys.withCtx { sys.run.ctx with queue := none } with stage := .ready }
  | .leaving =>
    if sys.run.ctx.client = none then { sys with stage := .leavingFence }
    else sys.stopping .leavingStop
  | .leavingStop => if sys.stopped then { sys with stage := .leavingFence } else sys
  | .leavingFence =>
    { sys.withCtx { sys.run.ctx with workerRunning := false } with stage := .leavingWorker }
  | .leavingWorker => if sys.workerStopped then { sys with stage := .leavingContext } else sys
  | .leavingContext => sys.leave
  | .preparing =>
    match sys.newClient created with
    | none => sys.flushing cleanupRuntimeLocked .ready
    | some client =>
      { sys.withCtx { sys.run.ctx with client := some client } with
        clientSetup := sys.setup
        stage := .opening }
  | .opening =>
    { sys.withCtx { sys.run.ctx with acceptingObservers := true, publishAllowed := true } with
      stage := .ready }

def step (sys : RelaySystem limits) : RelayAction limits → RelaySystem limits
  | .inner action => sys.inner action
  | .setWifiConnected connected => sys.withCtx { sys.run.ctx with wifiConnected := connected }
  | .observe notification => sys.observe notification
  | .allocate index payload => sys.allocate index payload
  | .finish index nowMs => sys.finish index nowMs
  | .call request => sys.call request
  | .outer created => sys.outer created

/-- The relay before its first `mqtt_relay_init`. -/
def boot : RelaySystem limits where
  run :=
    { ctx := zero, worker := .deleted, handler := .idle, lifecycle := .idle, clientRunning := false
      sinceStop := [] }
  bootNonce := 0
  setup := { number := 0, config := noConfig, topics := noTopics }
  clientSetup := { number := 0, config := noConfig, topics := noTopics }
  stage := .ready
  observers := []
  sightings := []
  accepted := []
  settled := []
  marks := []
  lost := []
  handed := []

end RelaySystem
