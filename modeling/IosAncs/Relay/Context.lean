import Mathlib.Data.List.Basic

/-!
The relay's shared context, the sections that its lock guards, and the two
threads that run them besides the callers of the API: the worker task and the
event handler, which the MQTT client calls from its own task. One step of a
thread is one locked section, or one call of the client.
The source is `mqtt_relay.c` and `relay_policy.c`.
-/

structure RelayCounters where
  accepted : UInt32
  publishedAck : UInt32
  droppedOffline : UInt32
  droppedEnqueue : UInt32
  droppedPolicy : UInt32
  freed : UInt32
deriving DecidableEq, Repr

/-- The error fields of the context, once for the current and once for the last error. -/
structure MqttErrorFields where
  errorType : Int
  espError : Int
  tlsError : Int
  socketErrno : Int
  connectReturnCode : Int
  atMs : UInt64
deriving DecidableEq, Repr

/-- An allocated item. Its address stands for the pointer, its payload carries
    `payload_length`. -/
structure PayloadItem where
  address : Nat
  topic : List UInt8
  payload : List UInt8
  msgId : Int
deriving DecidableEq, Repr

/-- `relay_recent_cache_t` -/
structure RelayRecentCache where
  relayIds : Vector (List UInt8) 8
  nextIndex : Nat
  count : Nat
deriving DecidableEq, Repr

namespace RelayRecentCache

def recentCapacity : Nat := 8

def init : RelayRecentCache := { relayIds := Vector.replicate 8 [], nextIndex := 0, count := 0 }

def contains (cache : RelayRecentCache) (relayId : List UInt8) : Bool :=
  (cache.relayIds.toList.take cache.count).contains relayId

def markRecent (cache : RelayRecentCache) (relayId : List UInt8) : RelayRecentCache :=
  let index := cache.nextIndex % recentCapacity
  { relayIds := cache.relayIds.setIfInBounds index relayId
    nextIndex := (index + 1) % recentCapacity
    count := if cache.count < recentCapacity then cache.count + 1 else cache.count }

end RelayRecentCache

/-- What an observer brings to its last section. The policy admits the notification
    by every check but the one for duplicates; a live one is complete, added or
    modified in a session, and not there before it. -/
structure RelayObservation where
  topic : List UInt8
  payload : List UInt8
  relayId : List UInt8
  admissible : Bool
  live : Bool
  nowMs : UInt64
deriving DecidableEq, Repr

/-- `freed` stands for the heap: the addresses that were given to `free`. -/
structure RelayContext where
  client : Option Nat
  queue : Option (List PayloadItem)
  workerTask : Bool
  workerRunning : Bool
  workerBusy : Bool
  acceptingObservers : Bool
  publishAllowed : Bool
  publishInFlight : Nat
  retainedRefreshPending : Bool
  discoveryAttemptedThisBoot : Bool
  retainedWaiting : Bool
  retainedAckReceived : Bool
  retainedMsgId : Int
  retainedEarlyAckIds : List Int
  wifiConnected : Bool
  mqttConnected : Bool
  mqttConnecting : Bool
  mqttError : MqttErrorFields
  lastMqttError : MqttErrorFields
  recent : RelayRecentCache
  lastNotificationUptimeMs : UInt64
  counters : RelayCounters
  pending : List PayloadItem
  freed : List Nat
deriving DecidableEq, Repr

namespace RelayContext

def queueCapacity : Nat := 8
def earlyPubackCapacity : Nat := 4

def noError : MqttErrorFields where
  errorType := 0
  espError := 0
  tlsError := 0
  socketErrno := 0
  connectReturnCode := 0
  atMs := 0

def zero : RelayContext where
  client := none
  queue := none
  workerTask := false
  workerRunning := false
  workerBusy := false
  acceptingObservers := false
  publishAllowed := false
  publishInFlight := 0
  retainedRefreshPending := false
  discoveryAttemptedThisBoot := false
  retainedWaiting := false
  retainedAckReceived := false
  retainedMsgId := 0
  retainedEarlyAckIds := []
  wifiConnected := false
  mqttConnected := false
  mqttConnecting := false
  mqttError := noError
  lastMqttError := noError
  recent := RelayRecentCache.init
  lastNotificationUptimeMs := 0
  counters :=
    { accepted := 0, publishedAck := 0, droppedOffline := 0, droppedEnqueue := 0
      droppedPolicy := 0, freed := 0 }
  pending := []
  freed := []

def freeItem (ctx : RelayContext) (item : PayloadItem) : RelayContext :=
  { ctx with
    freed := item.address :: ctx.freed
    counters := { ctx.counters with freed := ctx.counters.freed + 1 } }

def freePendingLocked (ctx : RelayContext) : RelayContext :=
  ctx.pending.foldl freeItem { ctx with pending := [] }

def freeQueueLocked (ctx : RelayContext) : RelayContext :=
  match ctx.queue with
  | none => ctx
  | some items => items.foldl freeItem { ctx with queue := some [] }

def trackPendingLocked (ctx : RelayContext) (item : PayloadItem) (msgId : Int) : RelayContext :=
  { ctx with pending := { item with msgId } :: ctx.pending }

/-- The walk of `mqtt_relay_take_pending_locked` along the list. -/
def takeById (msgId : Int) : List PayloadItem → Option PayloadItem × List PayloadItem
  | [] => (none, [])
  | item :: next =>
    if item.msgId = msgId then (some item, next)
    else ((takeById msgId next).1, item :: (takeById msgId next).2)

def clearRetainedWaitLocked (ctx : RelayContext) : RelayContext :=
  { ctx with
    retainedWaiting := false
    retainedAckReceived := false
    retainedMsgId := -1
    retainedEarlyAckIds := [] }

/-- The part of `mqtt_relay_handle_published_locked` for a retained publication. -/
def noteRetainedAck (ctx : RelayContext) (msgId : Int) : RelayContext :=
  if !ctx.retainedWaiting then ctx
  else if 0 < ctx.retainedMsgId then
    if ctx.retainedMsgId = msgId then { ctx with retainedAckReceived := true } else ctx
  else if msgId ∈ ctx.retainedEarlyAckIds then ctx
  else if ctx.retainedEarlyAckIds.length < earlyPubackCapacity then
    { ctx with retainedEarlyAckIds := ctx.retainedEarlyAckIds ++ [msgId] }
  else ctx

def handlePublishedLocked (ctx : RelayContext) (msgId : Int) : RelayContext :=
  match takeById msgId ctx.pending with
  | (none, _) => noteRetainedAck ctx msgId
  | (some item, rest) =>
    let counted := { ctx with
      pending := rest
      counters := { ctx.counters with publishedAck := ctx.counters.publishedAck + 1 } }
    noteRetainedAck (freeItem counted item) msgId

def handleDisconnectLocked (ctx : RelayContext) : RelayContext :=
  let down := { ctx with
    mqttConnected := false
    mqttConnecting := false
    retainedRefreshPending := false }
  freePendingLocked (freeQueueLocked (clearRetainedWaitLocked down))

def clearErrorLocked (ctx : RelayContext) : RelayContext := { ctx with mqttError := noError }

def noteLocalErrorLocked (ctx : RelayContext) (error : Int) (nowMs : UInt64) : RelayContext :=
  let noted := { noError with errorType := -1, espError := error, atMs := nowMs }
  { ctx with mqttError := noted, lastMqttError := noted }

/-- `mqtt_relay_capture_error_locked`; a missing handle is noted as `ESP_FAIL`. -/
def captureErrorLocked (ctx : RelayContext) (error : Option MqttErrorFields) (nowMs : UInt64) :
    RelayContext :=
  match error with
  | none => noteLocalErrorLocked ctx (-1) nowMs
  | some codes =>
    let noted := { codes with atMs := nowMs }
    { ctx with mqttError := noted, lastMqttError := noted }

/-- The first section of `mqtt_relay_publish_raw`; `none` when it returns -1. -/
def publishRawEnter (ctx : RelayContext) : Option RelayContext :=
  if ctx.client = none || !ctx.publishAllowed then none
  else some { ctx with publishInFlight := ctx.publishInFlight + 1 }

/-- The first section of `mqtt_relay_enqueue_raw`; `none` when it returns -1. -/
def enqueueRawEnter (ctx : RelayContext) : Option RelayContext :=
  if ctx.client = none || !ctx.publishAllowed || !ctx.mqttConnected then none
  else some { ctx with publishInFlight := ctx.publishInFlight + 1 }

/-- The last section of both, after the client's call. -/
def rawLeave (ctx : RelayContext) : RelayContext :=
  if 0 < ctx.publishInFlight then { ctx with publishInFlight := ctx.publishInFlight - 1 } else ctx

def drainTake (ctx : RelayContext) : Option (PayloadItem × RelayContext) :=
  match ctx.mqttConnected, ctx.queue with
  | true, some (item :: rest) => some (item, { ctx with queue := some rest, workerBusy := true })
  | _, _ => none

/-- The last section of `mqtt_relay_drain_queue`. -/
def drainSettle (ctx : RelayContext) (item : PayloadItem) (msgId : Int) : RelayContext :=
  let free := { ctx with workerBusy := false }
  if msgId ≤ 0 || !ctx.mqttConnected then freeItem free item
  else trackPendingLocked free item msgId

/-- The last section of `mqtt_relay_observe_notification`, with the item that it
    allocated at the address. -/
def observeSend (ctx : RelayContext) (address : Nat) (seen : RelayObservation) : RelayContext :=
  let item : PayloadItem := { address, topic := seen.topic, payload := seen.payload, msgId := 0 }
  let counters := ctx.counters
  if !ctx.acceptingObservers || !ctx.wifiConnected || !ctx.mqttConnected then
    freeItem { ctx with counters := { counters with droppedOffline := counters.droppedOffline + 1 } }
      item
  else if !seen.admissible || ctx.recent.contains seen.relayId then
    freeItem { ctx with counters := { counters with droppedPolicy := counters.droppedPolicy + 1 } }
      item
  else match ctx.queue with
    | some items =>
      if items.length < queueCapacity then
        { ctx with
          queue := some (items ++ [item])
          recent := ctx.recent.markRecent seen.relayId
          counters := { counters with accepted := counters.accepted + 1 }
          lastNotificationUptimeMs :=
            if seen.live then seen.nowMs else ctx.lastNotificationUptimeMs }
      else
        freeItem
          { ctx with counters := { counters with droppedEnqueue := counters.droppedEnqueue + 1 } }
          item
    | none => ctx

end RelayContext

/-- Where `mqtt_relay_worker` stands between two of its sections. -/
inductive RelayWorker where
  | waiting
  | deleted
  /-- in `mqtt_relay_publish_retained_status` -/
  | retaining
  | retainedCall
  | retained
  /-- at the head of the loop in `mqtt_relay_drain_queue` -/
  | draining
  | taken (item : PayloadItem)
  | calling (item : PayloadItem)
  | called (item : PayloadItem) (msgId : Int)
  | handed (item : PayloadItem) (msgId : Int)
deriving DecidableEq, Repr

/-- What `mqtt_relay_publish_retained_status` does next; the messages themselves
    are left out, so it may publish any number of them. -/
inductive RetainedMove where
  | publish
  | discoveryDone
  | cleanup
deriving DecidableEq, Repr

namespace RelayWorker
open RelayContext

/-- One section of the worker. The answer is what the client's call returns. -/
def step (ctx : RelayContext) (worker : RelayWorker) (move : RetainedMove) (answer : Int) :
    RelayContext × RelayWorker :=
  match worker with
  | .waiting =>
    if !ctx.workerRunning then ({ ctx with workerTask := false }, .deleted)
    else if ctx.retainedRefreshPending && ctx.mqttConnected then
      ({ ctx with retainedRefreshPending := false, workerBusy := true }, .retaining)
    else (ctx, .draining)
  | .deleted => (ctx, .deleted)
  | .retaining =>
    match move with
    | .publish =>
      match enqueueRawEnter ctx with
      | none => (ctx, .retained)
      | some entered => (entered, .retainedCall)
    | .discoveryDone => ({ ctx with discoveryAttemptedThisBoot := true }, .retaining)
    | .cleanup => (ctx, .retained)
  | .retainedCall => (rawLeave ctx, .retaining)
  | .retained => ({ ctx with workerBusy := false }, .draining)
  | .draining =>
    match drainTake ctx with
    | none => (ctx, .waiting)
    | some (item, took) => (took, .taken item)
  | .taken item =>
    match enqueueRawEnter ctx with
    | none => (ctx, .handed item (-1))
    | some entered => (entered, .calling item)
  | .calling item => (ctx, .called item answer)
  | .called item msgId => (rawLeave ctx, .handed item msgId)
  | .handed item msgId => (drainSettle ctx item msgId, .draining)

def hand : RelayWorker → List PayloadItem
  | .taken item | .calling item | .called item _ | .handed item _ => [item]
  | .waiting | .deleted | .retaining | .retainedCall | .retained | .draining => []

end RelayWorker

/-- `esp_mqtt_event_id_t`, with the data the handler reads; a command in
    `MQTT_EVENT_DATA` is only passed on to the coordinator. -/
inductive MqttEventId where
  | beforeConnect
  | connected
  | data
  | published (msgId : Int)
  | disconnected
  | error (codes : Option MqttErrorFields)
  | other
deriving DecidableEq, Repr

structure MqttEvent where
  client : Nat
  eventId : MqttEventId
deriving DecidableEq, Repr

/-- Where a call of `mqtt_relay_event_handler` stands between two of its sections. -/
inductive RelayHandler where
  | idle
  | entered (event : MqttEvent)
  | checked (event : MqttEvent)
  | subscribing (restart : Bool)
  | subscribeFailed
deriving DecidableEq, Repr

namespace RelayHandler
open RelayContext

def eventIsCurrent (ctx : RelayContext) (event : MqttEvent) : Bool :=
  decide (ctx.client = some event.client) &&
    match event.eventId with
    | .beforeConnect | .connected | .data | .published _ =>
      ctx.acceptingObservers && ctx.publishAllowed
    | .disconnected | .error _ => ctx.acceptingObservers
    | .other => true

def act (ctx : RelayContext) (eventId : MqttEventId) (nowMs : UInt64) : RelayContext :=
  match eventId with
  | .beforeConnect => { ctx with mqttConnecting := true }
  | .connected =>
    { clearErrorLocked { ctx with mqttConnected := true, mqttConnecting := false } with
      retainedRefreshPending := true }
  | .data | .other => ctx
  | .published msgId => handlePublishedLocked ctx msgId
  | .disconnected => handleDisconnectLocked ctx
  | .error codes => handleDisconnectLocked (captureErrorLocked ctx codes nowMs)

/-- One section of a call. After `MQTT_EVENT_CONNECTED` it subscribes twice; the
    subscription is what the client's call returns. -/
def step (ctx : RelayContext) (handler : RelayHandler) (subscription : Int) (nowMs : UInt64) :
    RelayContext × RelayHandler :=
  match handler with
  | .idle => (ctx, .idle)
  | .entered event => (ctx, if eventIsCurrent ctx event then .checked event else .idle)
  | .checked event =>
    (act ctx event.eventId nowMs,
      if event.eventId = .connected then .subscribing false else .idle)
  | .subscribing restart =>
    (ctx, if subscription < 0 then .subscribeFailed
      else if restart then .idle else .subscribing true)
  | .subscribeFailed => ({ ctx with mqttConnected := false }, .idle)

end RelayHandler
