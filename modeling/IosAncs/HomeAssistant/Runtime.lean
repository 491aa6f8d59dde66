import IosAncs.HomeAssistant.Notification
import Mathlib.Data.List.DropRight

/-!
The two runtimes of the integration, as far as notifications go. Each callback runs to
its end before the next one, and a listener does nothing to the runtime. The record
beside the state is read by nothing: what arrived, who registered and what was given
to whom. The source is `runtime.py`.
-/
open PayloadValue

structure ArrivedNotification where
  serial : Nat
  notification : Mapping

structure Arrival (Listener : Type) where
  arrived : ArrivedNotification
  listeners : List Listener
  replayListeners : List Listener

/-- One call of a listener; `replayed` where it came from the queue. -/
structure Delivery (Listener : Type) where
  listener : Listener
  arrived : ArrivedNotification
  replayed : Bool

/-- What `AncsMqttRuntime` and `AncsSourceRuntime` keep of notifications. -/
structure AncsRuntime (Listener : Type) where
  seen : RelayIdWindow
  notificationListeners : List Listener
  notificationReplayListeners : List Listener
  pendingNotifications : List ArrivedNotification
  available : Option Bool
  latestNotification : Option Mapping
  arrivals : List (Arrival Listener)
  /-- whoever registered, and how many notifications had arrived before a replay
      listener did -/
  registered : List Listener
  replays : List (Listener × Nat)
  deliveries : List (Delivery Listener)

namespace AncsRuntime
variable {Listener : Type} [DecidableEq Listener]

def init : AncsRuntime Listener where
  seen := RelayIdWindow.init defaultRelayIdWindowSize (by decide)
  notificationListeners := []
  notificationReplayListeners := []
  pendingNotifications := []
  available := none
  latestNotification := none
  arrivals := []
  registered := []
  replays := []
  deliveries := []

/-- `deque.append` with its `maxlen`: the oldest one goes where there is no room. -/
def queueNotification (pending : List ArrivedNotification) (arrived : ArrivedNotification) :
    List ArrivedNotification :=
  (pending ++ [arrived]).rtake defaultRelayIdWindowSize

def addNotificationListener (r : AncsRuntime Listener) (listener : Listener)
    (replayPending : Bool) : AncsRuntime Listener :=
  let added := { r with
    notificationListeners := r.notificationListeners ++ [listener]
    registered := r.registered ++ [listener] }
  if replayPending then
    { added with
      notificationReplayListeners := r.notificationReplayListeners ++ [listener]
      pendingNotifications := []
      replays := r.replays ++ [(listener, r.arrivals.length)]
      deliveries := r.deliveries ++ r.pendingNotifications.map fun arrived =>
        { listener, arrived, replayed := true } }
  else added

/-- The `remove_listener` that a registration returns. -/
def removeListener (r : AncsRuntime Listener) (listener : Listener) : AncsRuntime Listener :=
  { r with
    notificationListeners := r.notificationListeners.erase listener
    notificationReplayListeners := r.notificationReplayListeners.erase listener }

/-- The end of both handlers: the notification is queued for want of a replay listener,
    and given to every listener. -/
def dispatch (r : AncsRuntime Listener) (notification : Mapping) : AncsRuntime Listener :=
  let arrived := { serial := r.arrivals.length, notification }
  { r with
    latestNotification := some notification
    pendingNotifications :=
      if r.notificationReplayListeners = [] then queueNotification r.pendingNotifications arrived
      else r.pendingNotifications
    arrivals := r.arrivals ++ [{
      arrived
      listeners := r.notificationListeners
      replayListeners := r.notificationReplayListeners }]
    deliveries := r.deliveries ++ r.notificationListeners.map fun listener =>
      { listener, arrived, replayed := false } }

def restoreNotification (r : AncsRuntime Listener) (notification : Option PayloadValue) :
    AncsRuntime Listener :=
  match notification with
  | none => r
  | some data =>
    match parseNotificationData data r.seen with
    | (seen, none) => { r with seen }
    | (seen, some restored) => { r with seen, latestNotification := some restored }

end AncsRuntime

namespace AncsMqttRuntime
variable {Listener : Type} [DecidableEq Listener]

/-- `_handle_notification`, with what decoding the payload returns. -/
def handleNotification (r : AncsRuntime Listener) (payload : Option PayloadValue) (retain : Bool) :
    AncsRuntime Listener :=
  match parseNotification payload r.seen with
  | (seen, none) => { r with seen }
  | (seen, some notification) =>
    if retain then
      { r with
        seen
        latestNotification :=
          if r.latestNotification.isNone then some notification else r.latestNotification }
    else { r with seen }.dispatch notification

def availabilityFromPayload (payload : String) : Option Bool :=
  if payload = "online" then some true
  else if payload = "offline" then some false
  else none

def handleAvailability (r : AncsRuntime Listener) (payload : String) : AncsRuntime Listener :=
  match availabilityFromPayload payload with
  | none => r
  | some available => { r with available := some available }

inductive Input (Listener : Type) where
  | notification (payload : Option PayloadValue) (retain : Bool)
  | availability (payload : String)
  | restore (notification : Option PayloadValue)
  | register (listener : Listener) (replayPending : Bool)
  | remove (listener : Listener)

def step (r : AncsRuntime Listener) : Input Listener → AncsRuntime Listener
  | .notification payload retain => handleNotification r payload retain
  | .availability payload => handleAvailability r payload
  | .restore notification => r.restoreNotification notification
  | .register listener replayPending => r.addNotificationListener listener replayPending
  | .remove listener => r.removeListener listener

end AncsMqttRuntime

structure SourceState where
  state : String
  attributes : Mapping

namespace AncsSourceRuntime
variable {Listener : Type} [DecidableEq Listener]

def stateUnavailable : String := "unavailable"
def stateUnknown : String := "unknown"
def attrFriendlyName : String := "friendly_name"

def notificationDataFromState (state : SourceState) : Mapping :=
  let data := pop state.attributes attrFriendlyName
  match relayId data with
  | some _ => data
  | none => put data "relay_id" (.text state.state)

def handleSourceStateChange (r : AncsRuntime Listener) (newState : Option SourceState) :
    AncsRuntime Listener :=
  match newState with
  | none => { r with available := some false }
  | some state =>
    if state.state = stateUnavailable then { r with available := some false }
    else if state.state = stateUnknown then { r with available := some true }
    else
      match parseNotificationData (.object (notificationDataFromState state)) r.seen with
      | (seen, none) => { r with seen, available := some true }
      | (seen, some notification) =>
        { r with seen, available := some true }.dispatch notification

/-- The part of `async_start` that looks at the current state. -/
def start (r : AncsRuntime Listener) (currentState : Option SourceState) : AncsRuntime Listener :=
  match currentState with
  | none => { r with available := some false }
  | some state =>
    if state.state = stateUnavailable then { r with available := some false }
    else if state.state = stateUnknown then { r with available := some true }
    else
      match parseNotificationData (.object (notificationDataFromState state)) r.seen with
      | (seen, none) => { r with seen, available := some true }
      | (seen, some seed) =>
        { r with seen, available := some true, latestNotification := some seed }

inductive Input (Listener : Type) where
  | start (currentState : Option SourceState)
  | stateChange (newState : Option SourceState)
  | restore (notification : Option PayloadValue)
  | register (listener : Listener) (replayPending : Bool)
  | remove (listener : Listener)

def step (r : AncsRuntime Listener) : Input Listener → AncsRuntime Listener
  | .start currentState => start r currentState
  | .stateChange newState => handleSourceStateChange r newState
  | .restore notification => r.restoreNotification notification
  | .register listener replayPending => r.addNotificationListener listener replayPending
  | .remove listener => r.removeListener listener

end AncsSourceRuntime
