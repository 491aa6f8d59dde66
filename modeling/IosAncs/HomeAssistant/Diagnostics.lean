import Mathlib.Data.NNRat.Defs
import IosAncs.Foundation.Association
import IosAncs.HomeAssistant.Runtime

/-!
The connection diagnostics of the source runtime: what it keeps of a status, for how long
it takes the status to be current, and the BLE connection that it derives from it.
The source is `runtime.py` and `connection.py`.
-/

/-- An attribute of the status entity; `other` is what the handlers take for nothing. -/
inductive StatusValue where
  | null
  | boolean (b : Bool)
  | int (n : Int)
  | float (x : ℚ)
  | text (s : String)
  | other
  deriving DecidableEq

namespace StatusValue

abbrev Attributes := List (String × StatusValue)

def get (data : Attributes) (key : String) : Option StatusValue := data.lookup key

/-- `data[key] = value` -/
def put (data : Attributes) (key : String) (value : StatusValue) : Attributes :=
  (key, value) :: data.filter fun entry => entry.1 != key

/-- `type(value) is int`, which a bool is not. -/
def int? : Option StatusValue → Option Int
  | some (.int n) => some n
  | _ => none

def bool? : Option StatusValue → Option Bool
  | some (.boolean b) => some b
  | _ => none

/-- `value == 1`, as Python compares numbers. -/
def isOne : Option StatusValue → Bool
  | some (.boolean b) => b
  | some (.int n) => n == 1
  | some (.float x) => x == 1
  | _ => false

end StatusValue

open StatusValue

namespace Diagnostics

def statusTtlSeconds : ℚ := 180

def boolFields : List String :=
  ["wifi_connected", "mqtt_connected", "ble_connected", "ble_bonded", "automatic_recovery_ap",
    "wifi_retry_paused", "bond_store_known", "session_authenticated", "link_encrypted",
    "ancs_service_found", "data_source_subscribed", "notification_source_subscribed", "ancs_ready",
    "notification_ready", "enrollment_active", "authentication_protection"]

def intFields : List String :=
  ["diagnostics_version", "uptime_seconds", "wifi_retry_attempts", "wifi_retry_in_ms",
    "wifi_generation", "wifi_disconnect_reason", "wifi_connect_error", "stored_peer_count",
    "bond_store_error", "boot_peer_count", "enrollment_remaining_seconds", "auth_failure_count",
    "auth_error", "ble_stage_error", "ble_disconnect_reason", "ble_generation", "mqtt_error_type",
    "mqtt_esp_error", "mqtt_tls_error", "mqtt_socket_errno", "mqtt_connect_return_code",
    "mqtt_retry_in_ms", "reset_reason", "last_notification_uptime_ms", "accepted", "published_ack",
    "dropped_offline", "dropped_enqueue", "dropped_policy", "last_mqtt_error_type",
    "last_mqtt_esp_error", "last_mqtt_error_at_ms", "last_mqtt_tls_error",
    "last_mqtt_socket_errno", "last_mqtt_connect_return_code", "last_auth_error",
    "last_auth_error_at_ms"]

def boolField (data : Attributes) (key : String) : Option (String × StatusValue) :=
  (bool? (get data key)).map fun value => (key, .boolean value)

def intField (data : Attributes) (key : String) : Option (String × StatusValue) :=
  match int? (get data key) with
  | some value => if -(2 ^ 63) ≤ value ∧ value < 2 ^ 64 then some (key, .int value) else none
  | none => none

def isHexDigit (c : Char) : Bool := "0123456789abcdefABCDEF".toList.contains c

def digestField (data : Attributes) : Option (String × StatusValue) :=
  match get data "firmware_elf_sha256" with
  | some (.text digest) =>
    if digest.length = 64 ∧ digest.toList.all isHexDigit = true then
      some ("firmware_elf_sha256", .text (String.ofList (digest.toList.map Char.toLower)))
    else none
  | _ => none

/-- `parse_diagnostics` of a mapping. -/
def parseDiagnostics (data : Attributes) : Attributes :=
  let result := boolFields.filterMap (boolField data) ++ intFields.filterMap (intField data) ++
    (digestField data).toList
  let peers := (int? (get result "stored_peer_count")).getD (-1)
  let result :=
    if get result "bond_store_known" ≠ some (.boolean true) ∨ peers < 0 then
      put result "stored_peer_count" .null
    else result
  match int? (get result "boot_peer_count") with
  | some bootPeers => if bootPeers < 0 then put result "boot_peer_count" .null else result
  | none => result

theorem get_fields {field : String → Option (String × StatusValue)}
    (own : ∀ key entry, field key = some entry → entry.1 = key) (keys : List String) (key : String) :
    get (keys.filterMap field) key = if key ∈ keys then (field key).map Prod.snd else none := by
  unfold StatusValue.get
  induction keys with
  | nil => rfl
  | cons first rest ih =>
    rw [List.filterMap_cons]
    cases kept : field first with
    | none =>
      by_cases same : key = first
      · subst same
        simp [ih, kept]
      · simp [ih, same]
    | some entry =>
      obtain ⟨name, value⟩ := entry
      obtain rfl : name = first := own first _ kept
      by_cases same : key = name
      · subst same
        simp [kept]
      · have away : (key == name) = false := beq_eq_false_iff_ne.mpr same
        simp [List.lookup_cons, away, ih, same]

theorem own_boolField (data : Attributes) (key : String) (entry : String × StatusValue)
    (kept : boolField data key = some entry) : entry.1 = key := by
  obtain ⟨_, _, rfl⟩ := Option.map_eq_some_iff.mp kept
  rfl

theorem own_intField (data : Attributes) (key : String) (entry : String × StatusValue)
    (kept : intField data key = some entry) : entry.1 = key := by
  unfold intField at kept
  split at kept
  · split at kept
    · cases kept
      rfl
    · cases kept
  · cases kept

theorem get_put_of_ne {data : Attributes} {key other : String} (value : StatusValue)
    (differ : other ≠ key) : get (put data key value) other = get data other :=
  Association.lookup_of_others (by simp [put]) differ

theorem get_parse_version {data : Attributes} (version : get data "diagnostics_version" = some (.int 1)) :
    get (parseDiagnostics data) "diagnostics_version" = some (.int 1) := by
  have kept : intField data "diagnostics_version" = some ("diagnostics_version", .int 1) := by
    simp [intField, version, int?]
  have bools : get (boolFields.filterMap (boolField data)) "diagnostics_version" = none := by
    rw [get_fields (own_boolField data), if_neg (by decide)]
  have ints : get (intFields.filterMap (intField data)) "diagnostics_version" = some (.int 1) := by
    rw [get_fields (own_intField data), if_pos (by decide), kept]
    rfl
  have fields : get (boolFields.filterMap (boolField data) ++ intFields.filterMap (intField data) ++
      (digestField data).toList) "diagnostics_version" = some (.int 1) := by
    unfold StatusValue.get at *
    rw [List.lookup_append, List.lookup_append, bools, ints]
    rfl
  unfold parseDiagnostics
  generalize boolFields.filterMap (boolField data) ++ intFields.filterMap (intField data) ++
    (digestField data).toList = result at fields
  have counted : ∀ result : Attributes, get result "diagnostics_version" = some (.int 1) →
      get (put result "stored_peer_count" .null) "diagnostics_version" = some (.int 1) :=
    fun _ fields => (get_put_of_ne _ (by decide)).trans fields
  have booted : ∀ result : Attributes, get result "diagnostics_version" = some (.int 1) →
      get (put result "boot_peer_count" .null) "diagnostics_version" = some (.int 1) :=
    fun _ fields => (get_put_of_ne _ (by decide)).trans fields
  dsimp only
  split
  · split
    · split
      · exact booted _ (counted _ fields)
      · exact booted _ fields
    · split
      · exact counted _ fields
      · exact fields
  · split
    · exact counted _ fields
    · exact fields

end Diagnostics

open Diagnostics

structure StatusState where
  state : String
  attributes : Attributes

/-- What the runtime keeps of the status, its availability and its two subscriptions. Times
    are seconds of the monotonic clock; `timer` is the generation that the pending expiry was
    scheduled with. -/
structure DiagnosticsRuntime where
  diagnostics : Attributes
  timer : Option Nat
  receivedAt : Option ℚ
  sourceUptime : Option Int
  generation : Nat
  bleConnected : Option Bool
  available : Option Bool
  subscribed : Bool
  statusSubscribed : Bool

namespace DiagnosticsRuntime
open AncsSourceRuntime

/-- `_init_diagnostics` and the fields that `__init__` sets beside it. -/
def init : DiagnosticsRuntime :=
  { diagnostics := [], timer := none, receivedAt := none, sourceUptime := none, generation := 0,
    bleConnected := none, available := none, subscribed := false, statusSubscribed := false }

/-- `diagnostics_fresh`, where `monotonic` returns `now`. -/
def fresh (r : DiagnosticsRuntime) (now : ℚ) : Bool :=
  match r.receivedAt with
  | some receivedAt => now - receivedAt < statusTtlSeconds
  | none => false

/-- `_expire_diagnostics`; a timer passes the generation it was scheduled with. -/
def expire (r : DiagnosticsRuntime) (generation : Option Nat) : DiagnosticsRuntime :=
  if generation.any (· != r.generation) then r
  else
    { r with
      timer := none
      generation := r.generation + 1
      receivedAt := none
      bleConnected := none }

/-- `_update_diagnostics`, and the generation that a new timer is scheduled with. -/
def update (r : DiagnosticsRuntime) (data : Attributes) (live preserveFresh : Bool) (now : ℚ) :
    DiagnosticsRuntime × Option Nat :=
  let r := { r with diagnostics := parseDiagnostics data }
  if preserveFresh && r.fresh now then (r, none)
  else
    let generation := r.generation + 1
    let timer := if live then some generation else none
    ({ r with timer, generation, receivedAt := if live then some now else none }, timer)

def stopDiagnostics (r : DiagnosticsRuntime) : DiagnosticsRuntime :=
  { r with
    generation := r.generation + 1
    timer := none
    receivedAt := none
    sourceUptime := none
    diagnostics := [] }

def bleConnectedFromState (state : Option StatusState) : Option Bool :=
  match state with
  | none => none
  | some state =>
    if state.state = stateUnknown ∨ state.state = stateUnavailable then none
    else bool? (get state.attributes "ble_connected")

def setAvailable (r : DiagnosticsRuntime) (available : Bool) : DiagnosticsRuntime :=
  if r.available = some available then r
  else
    let r := { r with available := some available }
    if available then r else r.expire none

def sourceAvailable : Option String → Bool
  | none => false
  | some state => state ≠ stateUnavailable

/-- `_handle_source_state_change`, as far as the status is concerned. -/
def handleSourceStateChange (r : DiagnosticsRuntime) (newState : Option String) :
    DiagnosticsRuntime := r.setAvailable (sourceAvailable newState)

def missing (state : StatusState) : Bool :=
  state.state = stateUnknown || state.state = stateUnavailable

def isLive (data : Attributes) (previous : Option Int) : Bool :=
  let legacy := !isOne (get data "diagnostics_version")
  legacy || match int? (get data "uptime_seconds"), previous with
    | some uptime, some previous => previous < uptime
    | _, _ => false

/-- `_handle_status_state_change`. The clock is read once in `_update_diagnostics` and once
    more, no earlier, for the connection. -/
def handleStatusStateChange (r : DiagnosticsRuntime) (newState : Option StatusState)
    (now later : ℚ) : DiagnosticsRuntime × Option Nat :=
  match newState with
  | none => ({ (r.update [] false false now).1 with bleConnected := none }, none)
  | some state =>
    if missing state then ({ (r.update [] false false now).1 with bleConnected := none }, none)
    else
      let uptime := int? (get state.attributes "uptime_seconds")
      let previous := r.sourceUptime
      let live := isLive state.attributes previous
      let preserve := !live && uptime.isSome && uptime == previous
      let r := { r with sourceUptime := uptime.or previous }
      let (r, timer) := r.update state.attributes live preserve now
      ({ r with
        bleConnected := if r.fresh later then bleConnectedFromState (some state) else none }, timer)

/-- What `async_start` does once the status entity is resolved, with its state if it has one. -/
def startStatus (r : DiagnosticsRuntime) (initialStatus : Option StatusState) (now : ℚ) :
    DiagnosticsRuntime :=
  let r := match initialStatus with
    | none => r
    | some status =>
      { (r.update status.attributes false false now).1 with
        sourceUptime := int? (get status.attributes "uptime_seconds") }
  { r with
    bleConnected :=
      if isOne (get r.diagnostics "diagnostics_version") then none
      else bleConnectedFromState initialStatus
    statusSubscribed := true }

/-- `async_start` with a registered source entity, its state, and the status entity if it is
    resolved. -/
def start (r : DiagnosticsRuntime) (currentState : Option String)
    (status : Option (Option StatusState)) (now : ℚ) : DiagnosticsRuntime :=
  if r.subscribed then r
  else
    let r := { r.setAvailable (sourceAvailable currentState) with subscribed := true }
    match status with
    | none => r
    | some initialStatus => r.startStatus initialStatus now

def stop (r : DiagnosticsRuntime) : DiagnosticsRuntime :=
  { r.stopDiagnostics with subscribed := false, statusSubscribed := false, bleConnected := none }

theorem available_handleSourceStateChange {Listener : Type} (r : AncsRuntime Listener)
    (newState : Option SourceState) :
    (AncsSourceRuntime.handleSourceStateChange r newState).available =
      some (sourceAvailable (newState.map SourceState.state)) := by
  unfold AncsSourceRuntime.handleSourceStateChange
  cases newState with
  | none => rfl
  | some state =>
    dsimp only [Option.map_some, sourceAvailable]
    split
    · next missing => simp [missing]
    split
    · next present unknown => simp [present]
    · next present known =>
      split <;> simp [present, AncsRuntime.dispatch]

end DiagnosticsRuntime
