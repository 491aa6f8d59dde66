import IosAncs.Provision.VerifiedPassword
import IosAncs.Provisioning.WifiRuntime
import IosAncs.Relay.NotificationJson

/-!
The setup portal as the HTTP server runs it: the check that a request came in at the access
point, the loop that reads its body, the handlers and their routes. A request is served over
the provisioning partition while the coordinator goes on with its own turns.
The source is `portal_http.c`.
-/
open Runs CString ProvisionConfig ProvisionStore Portal

/-- The local address of a socket as `getsockname` fills it in, in network order. -/
inductive LocalAddress where
  | ipv4 (length : Nat) (address : Vector UInt8 4)
  | ipv6 (length : Nat) (address : Vector UInt8 16)
  | other (family : Nat)
deriving DecidableEq

inductive RequestSocket where
  | unavailable
  | unnamed
  | named (address : LocalAddress)
deriving DecidableEq

inductive HttpMethod where
  | get
  | post
  | other
deriving DecidableEq, Repr

/-- A request as the server hands it over: each receive gives some bytes, or none where it
    fails. -/
structure HttpRequest where
  method : HttpMethod
  path : String
  socket : RequestSocket
  contentLen : Nat
  receives : List (List UInt8)

inductive JsonItem where
  | object (json : JsonObject)
  | other

/-- `cJSON_ParseWithLengthOpts`: the item and where it ends. -/
abbrev JsonParser := List UInt8 → Option (JsonItem × Nat)

/-- `portal_http_handlers_t`: what the application offers. -/
structure PortalHandlers where
  status : Bool
  mqttTest : Bool
  testNotification : Bool
  reconnect : Bool
  bleEnroll : Bool
  bleReplace : Bool
  restart : Bool
  resetProvisioning : Bool
  resetAllData : Bool
deriving DecidableEq, Repr

/-- `portal_http_system_status_t` -/
structure PortalSystemStatus where
  mqttConnected : Bool
  mqttConnecting : Bool
  mqttRetryAttempt : UInt8
  mqttRetryDelayMs : UInt32
  mqttErrorType : Int
  mqttLastEspError : Int
  mqttLastTlsError : Int
  mqttLastSocketErrno : Int
  mqttConnectReturnCode : Int
  mqttLastErrorAtMs : UInt64
  bleBonded : Bool
  bleConnected : Bool
  bondStoreKnown : Bool
  storedPeerCount : Int
  bondStoreError : Int
  sessionAuthenticated : Bool
  linkEncrypted : Bool
  ancsServiceFound : Bool
  dataSourceSubscribed : Bool
  notificationSourceSubscribed : Bool
  ancsReady : Bool
  enrollmentRemainingSeconds : UInt32
  enrollWindowOpen : Bool
  blePasskey : UInt32
  blePairingRepairRequired : Bool
  bleAuthFailureCount : UInt8
  bleAuthError : Int
  replacePending : Bool
  replaceFailed : Bool
  replaceErrorCode : Int
  notificationsPublished : UInt32
  notificationsDropped : UInt32
  notificationsDroppedOffline : UInt32
  notificationsDroppedEnqueue : UInt32
  notificationsDroppedPolicy : UInt32
deriving DecidableEq, Repr, Inhabited

/-- `wifi_ap_record_t`, as far as the scan's reply reads it. -/
structure WifiApRecord where
  ssid : CharArray 32
  rssi : Int
  authmode : Int

inductive SlotLeft where
  | kept
  | gone
  | damaged
deriving DecidableEq, Repr

/-- What is left of each key when the erase of the partition has failed. -/
structure EraseLeft where
  slot : SlotName → SlotLeft
  active : Bool
  mqttVerified : Bool

/-- What `provision_store_reset` comes to. -/
inductive StoreErase where
  | erased
  | deinitFailed
  | eraseFailed (left : EraseLeft)

/-- What a request gets from the rest of the device; an answer of `none` is `ESP_OK`. -/
structure PortalEnv where
  answer : Option EspErr
  runtime : WifiStatus
  apSsid : List UInt8
  system : PortalSystemStatus
  scan : Except EspErr (List WifiApRecord)
  erase : StoreErase

inductive PortalJson where
  | string (bytes : List UInt8)
  | bool (value : Bool)
  | number (value : Int)
  | array (items : List PortalJson)
  | object (members : List (String × PortalJson))

inductive PortalResponse where
  | error (status message : String)
  | ok (members : List (String × Bool))
  | json (root : PortalJson)
  | asset (file contentType : String)
  | redirect
  | noContent
  | methodNotAllowed

inductive PortalCall where
  /-- `provisioning_runtime_scan`, for at most this many records -/
  | wifiScan (count : Nat)
  | mqttTest
  | testNotification
  | reconnect (config : ProvisionConfig)
  | bleEnroll
  | bleReplace
  | restart
  | resetProvisioning
  | resetAllData

def IdfTarget.deviceFamily : IdfTarget → String
  | .esp32 => "ESP32"
  | .esp32c2 => "C2"
  | .esp32c3 => "C3"
  | .esp32c5 => "C5"
  | .esp32c6 => "C6"
  | .esp32c61 => "C61"
  | .esp32s3 => "S3"

namespace PortalServer

def apHost : Vector UInt8 4 := #v[192, 168, 4, 1]

def sockaddrInSize : Nat := 16
def sockaddrIn6Size : Nat := 28

def maxPostBody : Nat := 8192

def scanLimit : Nat := Wifi.scanMaxAps

def v4MappedPrefix : List UInt8 := List.replicate 10 0 ++ [0xFF, 0xFF]

def requireApLocalRequest : RequestSocket → Option EspErr
  | .unavailable => some .fail
  | .unnamed => some .fail
  | .named (.ipv4 length address) =>
    if length < sockaddrInSize then some .invalidState
    else if address ≠ apHost then some .invalidState
    else none
  | .named (.ipv6 length address) =>
    if length < sockaddrIn6Size then some .invalidState
    else if address.toList.take 12 ≠ v4MappedPrefix then some .invalidState
    else if address.toList.drop 12 ≠ apHost.toList then some .invalidState
    else none
  | .named (.other _) => some .invalidState

def sendApGuardError : EspErr → PortalResponse
  | .invalidState => .error "403 Forbidden" "AP interface required"
  | _ => .error "500 Internal Server Error" "AP interface check failed"

/-- The receive loop of `read_json_body`, with what has been received so far. -/
def receiveBody (contentLen : Nat) (received : List UInt8) : List (List UInt8) → Option (List UInt8)
  | [] => if received.length < contentLen then none else some received
  | chunk :: rest =>
    if received.length < contentLen then
      -- a receive gives no more than it is asked for
      let read := chunk.take (contentLen - received.length)
      if read = [] then none else receiveBody contentLen (received ++ read) rest
    else some received

def isSpace (byte : UInt8) : Bool := byte == 32 || byte == 9 || byte == 13 || byte == 10

/-- `read_json_body`; its callers do not look at the error. -/
def readJsonBody (parser : JsonParser) (request : HttpRequest) : Option JsonObject :=
  if request.contentLen > maxPostBody then none
  else match receiveBody request.contentLen [] request.receives with
    | none => none
    | some body =>
      match parser body with
      | some (.object json, parseEnd) =>
        if (body.drop parseEnd).dropWhile isSpace = [] then some json else none
      | _ => none

def stringIs (json : JsonObject) (name literal : String) : Bool :=
  match json name with
  | some (.string bytes) => decide (bytes.takeWhile (· != 0) = ascii literal)
  | _ => false

def confirmationMatches (json : JsonObject) (literal : String) : Bool :=
  stringIs json "confirmation" literal

def scopeIsAll (json : JsonObject) : Bool := stringIs json "scope" "all"

/-- `provision_config_status_t` -/
structure ConfigStatus where
  wifiSsid : CharArray 32
  wifiPasswordConfigured : Bool
  mqttHost : CharArray 128
  mqttPort : UInt16
  mqttUsername : CharArray 128
  mqttPasswordConfigured : Bool
  mqttTls : Bool
  mqttCaConfigured : Bool
  mqttClientId : CharArray 64
  mqttBaseTopic : CharArray 128

def redactStatus (config : ProvisionConfig) : ConfigStatus where
  wifiSsid := strlcpy zeroed config.wifiSsid
  wifiPasswordConfigured := !isBlank config.wifiPassword
  mqttHost := strlcpy zeroed config.mqttHost
  mqttPort := config.mqttPort
  mqttUsername := strlcpy zeroed config.mqttUsername
  mqttPasswordConfigured := !isBlank config.mqttPassword
  mqttTls := config.mqttTls
  mqttCaConfigured := !isBlank config.mqttCa
  mqttClientId := strlcpy zeroed config.mqttClientId
  mqttBaseTopic := strlcpy zeroed config.mqttBaseTopic

def configMembers (redacted : ConfigStatus) : List (String × PortalJson) := [
  ("wifi_ssid", .string (text redacted.wifiSsid)),
  ("wifi_password_configured", .bool redacted.wifiPasswordConfigured),
  ("mqtt_host", .string (text redacted.mqttHost)),
  ("mqtt_port", .number redacted.mqttPort.toNat),
  ("mqtt_username", .string (text redacted.mqttUsername)),
  ("mqtt_password_configured", .bool redacted.mqttPasswordConfigured),
  ("mqtt_tls", .bool redacted.mqttTls),
  ("mqtt_ca_configured", .bool redacted.mqttCaConfigured),
  ("mqtt_client_id", .string (text redacted.mqttClientId)),
  ("mqtt_base_topic", .string (text redacted.mqttBaseTopic))]

def runtimeMembers (runtime : WifiStatus) (apSsid : List UInt8) : List (String × PortalJson) := [
  ("ap_started", .bool runtime.apStarted),
  ("sta_started", .bool runtime.staStarted),
  ("sta_connecting", .bool runtime.staConnecting),
  ("sta_has_ip", .bool runtime.staHasIp),
  ("retry_paused", .bool runtime.retryPaused),
  ("retry_attempts", .number runtime.retryAttempts),
  ("retry_in_ms", .number runtime.retryInMs),
  ("automatic_recovery_ap", .bool runtime.automaticRecoveryAp),
  ("last_wifi_disconnect_reason", .number runtime.lastWifiDisconnectReason.toNat),
  ("last_wifi_disconnect_rssi", .number runtime.lastWifiDisconnectRssi),
  ("ap_ssid", .string apSsid)]

def systemMembers (system : PortalSystemStatus) : List (String × PortalJson) := [
  ("mqtt_connected", .bool system.mqttConnected),
  ("mqtt_connecting", .bool system.mqttConnecting),
  ("mqtt_retry_attempt", .number system.mqttRetryAttempt.toNat),
  ("mqtt_retry_delay_ms", .number system.mqttRetryDelayMs.toNat),
  ("mqtt_error_type", .number system.mqttErrorType),
  ("mqtt_last_esp_error", .number system.mqttLastEspError),
  ("mqtt_last_tls_error", .number system.mqttLastTlsError),
  ("mqtt_last_socket_errno", .number system.mqttLastSocketErrno),
  ("mqtt_connect_return_code", .number system.mqttConnectReturnCode),
  ("mqtt_last_error_at_ms", .number system.mqttLastErrorAtMs.toNat),
  ("ble_bonded", .bool system.bleBonded),
  ("ble_connected", .bool system.bleConnected),
  ("bond_store_known", .bool system.bondStoreKnown),
  ("stored_peer_count", .number system.storedPeerCount),
  ("bond_store_error", .number system.bondStoreError),
  ("session_authenticated", .bool system.sessionAuthenticated),
  ("link_encrypted", .bool system.linkEncrypted),
  ("ancs_service_found", .bool system.ancsServiceFound),
  ("data_source_subscribed", .bool system.dataSourceSubscribed),
  ("notification_source_subscribed", .bool system.notificationSourceSubscribed),
  ("ancs_ready", .bool system.ancsReady),
  ("enrollment_remaining_seconds", .number system.enrollmentRemainingSeconds.toNat),
  ("enroll_window_open", .bool system.enrollWindowOpen),
  ("ble_passkey", .number system.blePasskey.toNat),
  ("ble_pairing_repair_required", .bool system.blePairingRepairRequired),
  ("ble_auth_failure_count", .number system.bleAuthFailureCount.toNat),
  ("ble_auth_error", .number system.bleAuthError),
  ("replace_pending", .bool system.replacePending),
  ("replace_failed", .bool system.replaceFailed),
  ("replace_error_code", .number system.replaceErrorCode),
  ("notifications_published", .number system.notificationsPublished.toNat),
  ("notifications_dropped", .number system.notificationsDropped.toNat),
  ("notifications_dropped_offline", .number system.notificationsDroppedOffline.toNat),
  ("notifications_dropped_enqueue", .number system.notificationsDroppedEnqueue.toNat),
  ("notifications_dropped_policy", .number system.notificationsDroppedPolicy.toNat)]

section Handlers
variable (parser : JsonParser) (target : IdfTarget) (handlers : PortalHandlers)
  (partition : ProvisionPartition) (request : HttpRequest) (env : PortalEnv)

def buildStatusResponse : PortalJson :=
  let redacted := match partition.store.load with
    | .ok config => some (redactStatus config)
    | .error _ => none
  let system := if handlers.status then env.system else default
  .object [
    ("target", .string (ascii (String.ofList target.id))),
    ("device_family", .string (ascii target.deviceFamily)),
    ("configured", .bool redacted.isSome),
    ("config", .object ((redacted.map configMembers).getD [])),
    ("runtime", .object (runtimeMembers env.runtime env.apSsid)),
    ("system", .object (systemMembers system))]

/-- The scan starts Wi-Fi where it is not started, and adds the station's interface for its time. -/
def handleWifiScanGet : PortalResponse × Option PortalCall :=
  let response : PortalResponse := match env.scan with
    | .error _ => .error "400 Bad Request" "scan unavailable"
    | .ok records =>
      .json (.object [("aps", .array (records.map fun record => .object [
        ("ssid", .string (text record.ssid)),
        ("rssi", .number record.rssi),
        ("authmode", .number record.authmode)]))])
  (response, some (.wifiScan scanLimit))

/-- The request as `handleConfigPost` takes it. -/
def configRequest : ConfigRequest where
  guard := requireApLocalRequest request.socket
  reconnectAvailable := handlers.reconnect
  json := readJsonBody parser request
  messageTaken := env.answer.isNone

def configResponse : PortalReply → PortalResponse
  | .error status message => .error status message
  | .saved reconnect => .ok [("ok", true), ("saved", true), ("reconnect", reconnect)]

end Handlers

/-- A request that only makes a call: its texts, and the literal that it has to repeat. -/
structure PortalAction where
  call : PortalCall
  unavailable : String
  confirmation : Option String
  conflict : Option String
  failed : String
  done : List (String × Bool)

/-- The reply to a call's answer; the text of a conflict is for `ESP_ERR_INVALID_STATE`. -/
def actionResponse (action : PortalAction) : Option EspErr → PortalResponse
  | none => .ok action.done
  | some .invalidState =>
    match action.conflict with
    | some message => .error "409 Conflict" message
    | none => .error "500 Internal Server Error" action.failed
  | some _ => .error "500 Internal Server Error" action.failed

def handleAction (parser : JsonParser) (available : Bool) (action : PortalAction)
    (request : HttpRequest) (answer : Option EspErr) : PortalResponse × Option PortalCall :=
  match requireApLocalRequest request.socket with
  | some err => (sendApGuardError err, none)
  | none =>
    if !available then (.error "503 Service Unavailable" action.unavailable, none)
    else match readJsonBody parser request with
      | none => (.error "400 Bad Request" "invalid JSON", none)
      | some json =>
        if action.confirmation.all (confirmationMatches json) then
          (actionResponse action answer, some action.call)
        else (.error "400 Bad Request" "confirmation required", none)

def mqttTestAction : PortalAction where
  call := .mqttTest
  unavailable := "mqtt test unavailable"
  confirmation := none
  conflict := none
  failed := "mqtt test failed"
  done := [("ok", true)]

def testNotificationAction : PortalAction where
  call := .testNotification
  unavailable := "test notification unavailable"
  confirmation := none
  conflict := some "mqtt broker is not connected"
  failed := "test notification failed"
  done := [("ok", true), ("queued", true)]

def bleEnrollAction : PortalAction where
  call := .bleEnroll
  unavailable := "enrollment unavailable"
  confirmation := none
  conflict := some "enrollment is not ready"
  failed := "enrollment failed"
  done := [("ok", true), ("enroll_started", true)]

def bleReplaceAction : PortalAction where
  call := .bleReplace
  unavailable := "replace unavailable"
  confirmation := some "REPLACE ENROLLMENT"
  conflict := none
  failed := "replace failed"
  done := [("ok", true), ("replace_requested", true)]

def restartAction : PortalAction where
  call := .restart
  unavailable := "restart unavailable"
  confirmation := none
  conflict := none
  failed := "restart failed"
  done := [("ok", true)]

def leftSlot (slot : Slot) : SlotLeft → Slot
  | .kept => slot
  | .gone => .absent
  | .damaged => .corrupt

def storeReset (partition : ProvisionPartition) : StoreErase → ProvisionPartition × Option EspErr
  | .erased => ({ store := empty, mqttVerified := none }, none)
  | .deinitFailed => (partition, some .fail)
  | .eraseFailed left =>
    ({ store := {
        slots := fun name => leftSlot (partition.store.slots name) (left.slot name)
        active := if left.active then partition.store.active else none }
       mqttVerified := if left.mqttVerified then partition.mqttVerified else none },
      some .fail)

def resetResponse : Option EspErr → PortalResponse
  | none => .ok [("ok", true), ("reset_requested", true)]
  | some _ => .error "500 Internal Server Error" "reset failed"

def handleResetPost (parser : JsonParser) (handlers : PortalHandlers)
    (partition : ProvisionPartition) (request : HttpRequest) (env : PortalEnv) :
    ProvisionPartition × PortalResponse × Option PortalCall :=
  match requireApLocalRequest request.socket with
  | some err => (partition, sendApGuardError err, none)
  | none =>
    match readJsonBody parser request with
    | none => (partition, .error "400 Bad Request" "invalid JSON", none)
    | some json =>
      let wantsAll := scopeIsAll json
      if !confirmationMatches json
          (if wantsAll then "RESET ALL DATA" else "RESET PROVISIONING") then
        (partition, .error "400 Bad Request" "confirmation required", none)
      else if wantsAll then
        if !handlers.resetAllData then
          (partition, .error "400 Bad Request" "all-data reset unavailable", none)
        else (partition, resetResponse env.answer, some .resetAllData)
      else if handlers.resetProvisioning then
        (partition, resetResponse env.answer, some .resetProvisioning)
      else
        ((storeReset partition env.erase).1, resetResponse (storeReset partition env.erase).2, none)

inductive PortalRoute where
  | index
  | css
  | js
  | favicon
  | status
  | wifiScan
  | config
  | mqttTest
  | notificationTest
  | bleEnroll
  | bleReplace
  | restart
  | reset
  | probe
deriving DecidableEq, Repr

def routes : List (String × HttpMethod × PortalRoute) := [
  ("/", .get, .index),
  ("/portal.css", .get, .css),
  ("/portal.js", .get, .js),
  ("/favicon.ico", .get, .favicon),
  ("/api/status", .get, .status),
  ("/api/wifi/scan", .get, .wifiScan),
  ("/api/config", .post, .config),
  ("/api/mqtt/test", .post, .mqttTest),
  ("/api/notification/test", .post, .notificationTest),
  ("/api/ble/enroll", .post, .bleEnroll),
  ("/api/ble/replace", .post, .bleReplace),
  ("/api/restart", .post, .restart),
  ("/api/reset", .post, .reset),
  ("/hotspot-detect.html", .get, .probe),
  ("/library/test/success.html", .get, .probe),
  ("/ncsi.txt", .get, .probe),
  ("/connecttest.txt", .get, .probe),
  ("/generate_204", .get, .probe),
  ("/gen_204", .get, .probe)]

def findRoute (request : HttpRequest) : Option PortalRoute :=
  (routes.find? fun entry => entry.1 == request.path && entry.2.1 == request.method).map (·.2.2)

/-- The server's lookup of a request and the handler that it calls. -/
def handle (parser : JsonParser) (target : IdfTarget) (handlers : PortalHandlers)
    (partition : ProvisionPartition) (request : HttpRequest) (env : PortalEnv) :
    ProvisionPartition × PortalResponse × Option PortalCall :=
  let act (available : Bool) (action : PortalAction) :=
    (partition, handleAction parser available action request env.answer)
  match findRoute request with
  | none =>
    if routes.any (·.1 == request.path) then (partition, .methodNotAllowed, none)
    else (partition, .redirect, none)
  | some .index => (partition, .asset "portal.html" "text/html; charset=utf-8", none)
  | some .css => (partition, .asset "portal.css" "text/css; charset=utf-8", none)
  | some .js => (partition, .asset "portal.js" "application/javascript; charset=utf-8", none)
  | some .favicon => (partition, .noContent, none)
  | some .status => (partition, .json (buildStatusResponse target handlers partition env), none)
  | some .wifiScan => (partition, handleWifiScanGet env)
  | some .config =>
    let result := handleConfigPost partition (configRequest parser handlers request env)
    (result.1, configResponse result.2.1, result.2.2.map .reconnect)
  | some .mqttTest => act handlers.mqttTest mqttTestAction
  | some .notificationTest => act handlers.testNotification testNotificationAction
  | some .bleEnroll => act handlers.bleEnroll bleEnrollAction
  | some .bleReplace => act handlers.bleReplace bleReplaceAction
  | some .restart => act handlers.restart restartAction
  | some .reset => handleResetPost parser handlers partition request env
  | some .probe => (partition, .redirect, none)

/-- What happens to the device, as far as its partition is concerned. -/
inductive PortalEvent where
  | request (request : HttpRequest) (env : PortalEnv)
  | configChanged
  | mqttConnected (markerSaved : Bool)
  | mqttFailed
  | resetProvisioning (erase : StoreErase)
  | reboot

section Runs
variable (parser : JsonParser) (target : IdfTarget) (handlers : PortalHandlers)

/-- `handle_reset_provisioning` of the coordinator, on what the portal shares with it -/
def handleResetProvisioning (app : ProvisionApp) (erase : StoreErase) : ProvisionApp :=
  match storeReset app.partition erase with
  | (partition, some _) => { app with partition }
  | (partition, none) =>
    { app with partition, config := ProvisionApp.zeroConfig, mqttVerifiedFingerprint := 0 }

def reconnectMessage : Option PortalCall → List ProvisionConfig
  | some (.reconnect config) => [config]
  | _ => []

def step (app : ProvisionApp) : PortalEvent → ProvisionApp
  | .request request env =>
    let result := handle parser target handlers app.partition request env
    { app with partition := result.1, messages := app.messages ++ reconnectMessage result.2.2 }
  | .configChanged => app.step .configChanged
  | .mqttConnected markerSaved => app.step (.mqttConnected markerSaved)
  | .mqttFailed => app.step .mqttFailed
  | .resetProvisioning erase => handleResetProvisioning app erase
  | .reboot => app.step .reboot

def replied (app : ProvisionApp) : PortalEvent → Option PortalResponse
  | .request request env => some (handle parser target handlers app.partition request env).2.1
  | _ => none

def called (app : ProvisionApp) : PortalEvent → Option PortalCall
  | .request request env => (handle parser target handlers app.partition request env).2.2
  | _ => none

end Runs

/-! What a request may do. -/

/-- The request's socket has the address of the access point, also where it is mapped. -/
inductive AtAccessPoint : RequestSocket → Prop where
  | ipv4 {length : Nat} (whole : 16 ≤ length) :
    AtAccessPoint (.named (.ipv4 length #v[192, 168, 4, 1]))
  | ipv6 {length : Nat} (whole : 28 ≤ length) :
    AtAccessPoint (.named (.ipv6 length
      #v[0, 0, 0, 0, 0, 0, 0, 0, 0, 0, 255, 255, 192, 168, 4, 1]))

theorem guard_none_iff (socket : RequestSocket) :
    requireApLocalRequest socket = none ↔ AtAccessPoint socket := by
  constructor
  · intro passed
    cases socket with
    | unavailable | unnamed => cases passed
    | named address =>
      cases address with
      | other family => cases passed
      | ipv4 length address =>
        simp only [requireApLocalRequest] at passed
        split at passed
        · cases passed
        · split at passed
          · cases passed
          · next long same =>
            rw [not_not] at same
            subst same
            exact .ipv4 (Nat.not_lt.mp long)
      | ipv6 length address =>
        simp only [requireApLocalRequest] at passed
        split at passed
        · cases passed
        · split at passed
          · cases passed
          · split at passed
            · cases passed
            · next long mapped host =>
              rw [not_not] at mapped host
              have whole : address =
                  #v[0, 0, 0, 0, 0, 0, 0, 0, 0, 0, 255, 255, 192, 168, 4, 1] := by
                rw [← Vector.toList_inj, ← List.take_append_drop 12 address.toList, mapped, host]
                rfl
              subst whole
              exact .ipv6 (Nat.not_lt.mp long)
  · intro at_ap
    cases at_ap with
    | ipv4 whole => simp [requireApLocalRequest, sockaddrInSize, Nat.not_lt.mpr whole, apHost]
    | ipv6 whole =>
      simp [requireApLocalRequest, sockaddrIn6Size, Nat.not_lt.mpr whole, apHost, v4MappedPrefix]

theorem receiveBody_spec {contentLen : Nat} {received body : List UInt8}
    {receives : List (List UInt8)} (short : received.length ≤ contentLen)
    (done : receiveBody contentLen received receives = some body) :
    body.length = contentLen ∧ ∃ taken, body = received ++ taken ∧ taken <+: receives.flatten := by
  induction receives generalizing received with
  | nil =>
    rw [receiveBody] at done
    split at done
    · cases done
    · next whole =>
      obtain rfl := Option.some.inj done
      exact ⟨by omega, [], by simp, List.nil_prefix⟩
  | cons chunk rest ih =>
    rw [receiveBody] at done
    split at done
    · simp only at done
      split at done
      · cases done
      · have room : (chunk.take (contentLen - received.length)).length ≤
            contentLen - received.length := by
          rw [List.length_take]
          omega
        obtain ⟨length, taken, rfl, starts⟩ := ih (by rw [List.length_append]; omega) done
        refine ⟨length, chunk.take (contentLen - received.length) ++ taken,
          by rw [List.append_assoc], ?_⟩
        by_cases cut : chunk.length ≤ contentLen - received.length
        · rw [List.take_of_length_le cut, List.flatten_cons]
          exact (List.prefix_append_right_inj chunk).mpr starts
        · -- a receive that is cut short is the last one
          have full : (chunk.take (contentLen - received.length)).length =
              contentLen - received.length := by
            rw [List.length_take]
            omega
          have none_ : taken = [] := by
            apply List.eq_nil_of_length_eq_zero
            simp only [List.length_append] at length
            omega
          rw [none_, List.append_nil, List.flatten_cons]
          exact (List.take_prefix _ chunk).trans (List.prefix_append _ _)
    · obtain rfl := Option.some.inj done
      exact ⟨by omega, [], by simp, List.nil_prefix⟩

/-- The request's body is one object, with nothing but blank space behind it. -/
structure Carries (parser : JsonParser) (request : HttpRequest) (json : JsonObject)
    (body : List UInt8) (parseEnd : Nat) : Prop where
  whole : body.length = request.contentLen
  small : body.length ≤ 8192
  received : body <+: request.receives.flatten
  parsed : parser body = some (.object json, parseEnd)
  ends : ∀ byte ∈ body.drop parseEnd, isSpace byte = true

theorem readJsonBody_some {parser : JsonParser} {request : HttpRequest} {json : JsonObject}
    (read : readJsonBody parser request = some json) :
    ∃ body parseEnd, Carries parser request json body parseEnd := by
  unfold readJsonBody at read
  split at read
  · cases read
  · next small =>
    split at read
    · cases read
    · next body received =>
      split at read
      · next object parseEnd parsed =>
        split at read
        · next ends =>
          obtain rfl := Option.some.inj read
          obtain ⟨whole, taken, rfl, starts⟩ := receiveBody_spec (Nat.zero_le _) received
          refine ⟨_, parseEnd, whole, ?_, starts, parsed, List.dropWhile_eq_nil_iff.mp ends⟩
          rw [whole]
          exact Nat.not_lt.mp small
        · cases read
      · cases read

def actionPaths : List String :=
  ["/api/config", "/api/mqtt/test", "/api/notification/test", "/api/ble/enroll",
    "/api/ble/replace", "/api/restart", "/api/reset"]

/-- What an object has to say before the phone is replaced or the device is reset. -/
structure Confirms (path : String) (json : JsonObject) : Prop where
  replace : path = "/api/ble/replace" → stringIs json "confirmation" "REPLACE ENROLLMENT" = true
  reset : path = "/api/reset" → stringIs json "confirmation"
    (if stringIs json "scope" "all" then "RESET ALL DATA" else "RESET PROVISIONING") = true

/-- A request that may act: it has come in at the access point, for one of the actions, and it
    carries one object, with the confirmation that the action asks for. -/
structure Authorised (parser : JsonParser) (request : HttpRequest) : Prop where
  at_ap : AtAccessPoint request.socket
  post : request.method = .post
  action : request.path ∈ actionPaths
  body : ∃ json body parseEnd, Carries parser request json body parseEnd ∧
    Confirms request.path json

theorem findRoute_some {request : HttpRequest} {route : PortalRoute}
    (found : findRoute request = some route) : (request.path, request.method, route) ∈ routes := by
  unfold findRoute at found
  obtain ⟨entry, first, rfl⟩ := Option.map_eq_some_iff.mp found
  have matches_ := List.find?_some first
  rw [Bool.and_eq_true, beq_iff_eq, beq_iff_eq] at matches_
  rw [← matches_.1, ← matches_.2]
  exact List.mem_of_find?_eq_some first

theorem action_route {request : HttpRequest} {route : PortalRoute} (path : String)
    (found : findRoute request = some route)
    (only : ∀ entry ∈ routes, entry.2.2 = route → entry.1 = path ∧ entry.2.1 = .post) :
    request.path = path ∧ request.method = .post :=
  only _ (findRoute_some found) rfl

/-- A request for a scan, which has no guard. -/
structure Scans (request : HttpRequest) : Prop where
  path : request.path = "/api/wifi/scan"
  get : request.method = .get

theorem scans_of_route {request : HttpRequest} (found : findRoute request = some .wifiScan) :
    Scans request := by
  have only : ∀ entry ∈ routes, entry.2.2 = .wifiScan →
      entry.1 = "/api/wifi/scan" ∧ entry.2.1 = .get := by decide
  obtain ⟨path, get⟩ := only _ (findRoute_some found) rfl
  exact ⟨path, get⟩

section Unauthorised
variable {parser : JsonParser} {request : HttpRequest} (handlers : PortalHandlers)
  (partition : ProvisionPartition)

theorem authorised_of_read {json : JsonObject} (at_ap : requireApLocalRequest request.socket = none)
    (read : readJsonBody parser request = some json) (post : request.method = .post)
    (action : request.path ∈ actionPaths) (confirms : Confirms request.path json) :
    Authorised parser request where
  at_ap := (guard_none_iff _).mp at_ap
  post := post
  action := action
  body := by
    obtain ⟨body, parseEnd, carries⟩ := readJsonBody_some read
    exact ⟨json, body, parseEnd, carries, confirms⟩

theorem handleAction_idle {available : Bool} {action : PortalAction} {answer : Option EspErr}
    {path : String} (route : request.path = path ∧ request.method = .post)
    (listed : path ∈ actionPaths) (not_reset : path ≠ "/api/reset")
    (literal : path = "/api/ble/replace" → action.confirmation = some "REPLACE ENROLLMENT")
    (refused : ¬ Authorised parser request) :
    (handleAction parser available action request answer).2 = none := by
  obtain ⟨rfl, post⟩ := route
  unfold handleAction
  cases guarded : requireApLocalRequest request.socket with
  | some err => rfl
  | none =>
    cases available with
    | false => rfl
    | true =>
      cases read : readJsonBody parser request with
      | none => rfl
      | some json =>
        by_cases confirmed : action.confirmation.all (confirmationMatches json) = true
        · exfalso
          apply refused
          apply authorised_of_read guarded read post listed
          constructor
          · intro replace
            rw [literal replace] at confirmed
            simpa [confirmationMatches] using confirmed
          · intro reset
            exact absurd reset not_reset
        · simp [confirmed]

theorem handleResetPost_idle {env : PortalEnv} (post : request.method = .post)
    (path : request.path = "/api/reset") (refused : ¬ Authorised parser request) :
    (handleResetPost parser handlers partition request env).1 = partition ∧
      (handleResetPost parser handlers partition request env).2.2 = none := by
  unfold handleResetPost
  cases guarded : requireApLocalRequest request.socket with
  | some err => exact ⟨rfl, rfl⟩
  | none =>
    cases read : readJsonBody parser request with
    | none => exact ⟨rfl, rfl⟩
    | some json =>
      cases confirmed : confirmationMatches json
          (if scopeIsAll json then "RESET ALL DATA" else "RESET PROVISIONING") with
      | false => simp [confirmed]
      | true =>
        exfalso
        apply refused
        apply authorised_of_read guarded read post (by rw [path]; decide)
        constructor
        · intro replace
          rw [path] at replace
          exact absurd replace (by decide)
        · intro _
          exact confirmed

theorem handleConfigPost_idle (env : PortalEnv) (post : request.method = .post)
    (path : request.path = "/api/config") (refused : ¬ Authorised parser request) :
    (handleConfigPost partition (configRequest parser handlers request env)).1 = partition ∧
      (handleConfigPost partition (configRequest parser handlers request env)).2.2 = none := by
  unfold handleConfigPost configRequest
  cases guarded : requireApLocalRequest request.socket with
  | some err => cases err <;> exact ⟨rfl, rfl⟩
  | none =>
    cases handlers.reconnect with
    | false => exact ⟨rfl, rfl⟩
    | true =>
      cases read : readJsonBody parser request with
      | none => exact ⟨rfl, rfl⟩
      | some json =>
        exfalso
        apply refused
        apply authorised_of_read guarded read post (by rw [path]; decide)
        constructor <;> intro other <;> rw [path] at other <;> exact absurd other (by decide)

/-- A request without the authority leaves the partition, and calls nothing, unless it is for a
    scan. -/
theorem handle_idle (target : IdfTarget) (env : PortalEnv) (refused : ¬ Authorised parser request)
    (other : ¬ Scans request) :
    (handle parser target handlers partition request env).1 = partition ∧
      (handle parser target handlers partition request env).2.2 = none := by
  unfold handle
  cases found : findRoute request with
  | none =>
    dsimp only
    split <;> exact ⟨rfl, rfl⟩
  | some route =>
    cases route with
    | index | css | js | favicon | status | probe => exact ⟨rfl, rfl⟩
    | wifiScan => exact absurd (scans_of_route found) other
    | config =>
      obtain ⟨path, post⟩ := action_route "/api/config" found (by decide)
      obtain ⟨same, quiet⟩ := handleConfigPost_idle handlers partition env post path refused
      exact ⟨same, congrArg (Option.map PortalCall.reconnect) quiet⟩
    | reset =>
      obtain ⟨path, post⟩ := action_route "/api/reset" found (by decide)
      exact handleResetPost_idle handlers partition post path refused
    | mqttTest =>
      have route := action_route "/api/mqtt/test" found (by decide)
      exact ⟨rfl, handleAction_idle route (by decide) (by decide) (absurd · (by decide)) refused⟩
    | notificationTest =>
      have route := action_route "/api/notification/test" found (by decide)
      exact ⟨rfl, handleAction_idle route (by decide) (by decide) (absurd · (by decide)) refused⟩
    | bleEnroll =>
      have route := action_route "/api/ble/enroll" found (by decide)
      exact ⟨rfl, handleAction_idle route (by decide) (by decide) (absurd · (by decide)) refused⟩
    | bleReplace =>
      have route := action_route "/api/ble/replace" found (by decide)
      exact ⟨rfl, handleAction_idle route (by decide) (by decide) (fun _ => rfl) refused⟩
    | restart =>
      have route := action_route "/api/restart" found (by decide)
      exact ⟨rfl, handleAction_idle route (by decide) (by decide) (absurd · (by decide)) refused⟩

end Unauthorised

/-- The events that are not a request without the authority, but for scans. -/
def MayAct (parser : JsonParser) : PortalEvent → Prop
  | .request request _ => Authorised parser request ∨ Scans request
  | _ => True

open Classical in
/-- Requests without the authority that ask for no scan might as well not have come: the device
    ends in the same state and makes the same calls. -/
theorem unauthorised_requests_change_nothing (parser : JsonParser) (target : IdfTarget)
    (handlers : PortalHandlers) (app : ProvisionApp) (events : List PortalEvent) :
    run (step parser target handlers) app (events.filter fun e => decide (MayAct parser e)) =
        run (step parser target handlers) app events ∧
      (trace (step parser target handlers) (called parser target handlers) app
          (events.filter fun e => decide (MayAct parser e))).reduceOption =
        (trace (step parser target handlers) (called parser target handlers) app
          events).reduceOption := by
  have idle : ∀ (app : ProvisionApp) (event : PortalEvent), decide (MayAct parser event) = false →
      step parser target handlers app event = app ∧
        called parser target handlers app event = none := by
    intro app event refused
    rw [decide_eq_false_iff_not] at refused
    cases event with
    | request request env =>
      obtain ⟨unauthorised, other⟩ := not_or.mp refused
      obtain ⟨same, quiet⟩ := handle_idle handlers app.partition target env unauthorised other
      refine ⟨?_, quiet⟩
      have silent : reconnectMessage none = [] := rfl
      rw [step, same, quiet, silent, List.append_nil]
    | configChanged | mqttConnected | mqttFailed | resetProvisioning | reboot =>
      exact absurd trivial refused
  exact ⟨run_filter (fun s i refused => (idle s i refused).1) app events,
    trace_filter (fun s i refused => (idle s i refused).1)
      (fun s i refused => (idle s i refused).2) app events⟩

end PortalServer
