import IosAncs.Foundation.Decimal
import IosAncs.Relay.JsonWriters
import IosAncs.Relay.StatePublication

/-!
The retained state as the relay prints it, and the buffer of its callers. What a call prints
is bounded by its texts and the widths of its numbers; the bounds of all calls add up to
less than the buffer. The source is `mqtt_relay.c`.
-/
open CString JsonWriters RelayStatus MqttRelay

/-- The fields of `mqtt_relay_diagnostics_t` besides the digest, with their types. -/
structure DiagnosticsFields where
  valid : Bool
  wifiRetryAttempts : UInt32
  wifiRetryInMs : UInt32
  wifiGeneration : UInt32
  wifiDisconnectReason : Int32
  wifiConnectError : Int32
  automaticRecoveryAp : Bool
  wifiRetryPaused : Bool
  bondStoreKnown : Bool
  storedPeerCount : Int32
  bondStoreError : Int32
  bootPeerCount : Int32
  sessionAuthenticated : Bool
  linkEncrypted : Bool
  ancsServiceFound : Bool
  dataSourceSubscribed : Bool
  notificationSourceSubscribed : Bool
  ancsReady : Bool
  enrollmentActive : Bool
  enrollmentRemainingSeconds : UInt32
  authenticationProtection : Bool
  authFailureCount : UInt32
  authError : Int32
  lastAuthError : Int32
  lastAuthErrorAtMs : UInt64
  bleStageError : Int32
  bleDisconnectReason : Int32
  bleGeneration : UInt32
  mqttErrorType : Int32
  mqttEspError : Int32
  mqttTlsError : Int32
  mqttSocketErrno : Int32
  mqttConnectReturnCode : Int32
  lastMqttErrorType : Int32
  lastMqttEspError : Int32
  lastMqttTlsError : Int32
  lastMqttSocketErrno : Int32
  lastMqttConnectReturnCode : Int32
  lastMqttErrorAtMs : UInt64
  mqttRetryInMs : UInt32
  resetReason : Int32
deriving Inhabited

namespace StatePayload

def statePayloadMax : Nat := 3072

/-- A call of the builder that prints at the cursor. -/
inductive PrintCall where
  /-- `snprintf` -/
  | print (bytes : List UInt8)
  /-- `json_write_literal` -/
  | literal (bytes : List UInt8)
  /-- `json_write_string` -/
  | string (text : CText)

namespace PrintCall

def run (cursor : JsonCursor) : PrintCall → Except JsonError JsonCursor
  | print bytes => cursor.put bytes
  | literal bytes => if cursor.remaining = 0 then .error .invalidArg else cursor.put bytes
  | string text => jsonWriteString cursor text

def bytes : PrintCall → List UInt8
  | print bytes => bytes
  | literal bytes => bytes
  | string text => quote ++ text.bytes.flatMap jsonEscape ++ quote

end PrintCall

def number (n : Nat) : List UInt8 := Decimal.bytes (Decimal.digits n)

def flag (value : Bool) : List UInt8 := if value then ascii "true" else ascii "false"

/-- The text of `mqtt_relay_format_uptime`. -/
def uptimeChars (seconds : Nat) : List Char :=
  let days := seconds / 86400
  let hours := seconds % 86400 / 3600
  let minutes := seconds % 3600 / 60
  let remaining := seconds % 60
  if 0 < days then
    Decimal.digits days ++ "일 ".toList ++ Decimal.digits hours ++ "시간 ".toList ++
      Decimal.digits minutes ++ "분 ".toList ++ Decimal.digits remaining ++ "초".toList
  else if 0 < hours then
    Decimal.digits hours ++ "시간 ".toList ++ Decimal.digits minutes ++ "분 ".toList ++
      Decimal.digits remaining ++ "초".toList
  else if 0 < minutes then
    Decimal.digits minutes ++ "분 ".toList ++ Decimal.digits remaining ++ "초".toList
  else Decimal.digits remaining ++ "초".toList

theorem nonzero_digits (n : Nat) : Char.ofNat 0 ∉ Decimal.digits n := by
  intro member
  have digit := Nat.isDigit_of_mem_toDigits (by decide) (by decide) member
  exact absurd digit (by decide)

theorem nonzero_uptime (seconds : Nat) : (0 : UInt8) ∉ Utf8.encode (uptimeChars seconds) := by
  intro zero
  have member := Utf8.zero_of_encode zero
  unfold uptimeChars at member
  simp only at member
  split at member
  · simp [nonzero_digits] at member
  · split at member
    · simp [nonzero_digits] at member
    · split at member
      · simp [nonzero_digits] at member
      · simp [nonzero_digits] at member

def uptimeText (seconds : Nat) : CText :=
  { bytes := Utf8.encode (uptimeChars seconds), nonzero := nonzero_uptime seconds }

def formatUptime (seconds outSize : Nat) : Except JsonError CText :=
  if outSize = 0 then .error .invalidArg
  else if outSize ≤ (uptimeText seconds).bytes.length then .error .invalidSize
  else .ok (uptimeText seconds)

/-- What `DIAG_BOOL` and `DIAG_INT` print, which casts to `int64_t`. -/
inductive Diagnostic where
  | bool (value : Bool)
  | int (value : Int64)

namespace Diagnostic

def bytes : Diagnostic → List UInt8
  | bool value => flag value
  | int value => Decimal.bytes (Decimal.integer value.toInt)

def word (value : UInt32) : Diagnostic := int value.toUInt64.toInt64
def longWord (value : UInt64) : Diagnostic := int value.toInt64
def signed (value : Int32) : Diagnostic := int value.toInt64

end Diagnostic

open Diagnostic in
def diagnostics (runtime : MqttRelayRuntimeStatus) (d : DiagnosticsFields) :
    List (String × Diagnostic) :=
  [("wifi_retry_attempts", word d.wifiRetryAttempts),
    ("wifi_retry_in_ms", word d.wifiRetryInMs),
    ("wifi_generation", word d.wifiGeneration),
    ("wifi_disconnect_reason", signed d.wifiDisconnectReason),
    ("wifi_connect_error", signed d.wifiConnectError),
    ("automatic_recovery_ap", bool d.automaticRecoveryAp),
    ("wifi_retry_paused", bool d.wifiRetryPaused),
    ("bond_store_known", bool d.bondStoreKnown),
    ("stored_peer_count", signed d.storedPeerCount),
    ("bond_store_error", signed d.bondStoreError),
    ("boot_peer_count", signed d.bootPeerCount),
    ("session_authenticated", bool d.sessionAuthenticated),
    ("link_encrypted", bool d.linkEncrypted),
    ("ancs_service_found", bool d.ancsServiceFound),
    ("data_source_subscribed", bool d.dataSourceSubscribed),
    ("notification_source_subscribed", bool d.notificationSourceSubscribed),
    ("ancs_ready", bool d.ancsReady),
    ("enrollment_active", bool d.enrollmentActive),
    ("enrollment_remaining_seconds", word d.enrollmentRemainingSeconds),
    ("authentication_protection", bool d.authenticationProtection),
    ("auth_failure_count", word d.authFailureCount),
    ("auth_error", signed d.authError),
    ("last_auth_error", signed d.lastAuthError),
    ("last_auth_error_at_ms", longWord d.lastAuthErrorAtMs),
    ("ble_stage_error", signed d.bleStageError),
    ("ble_disconnect_reason", signed d.bleDisconnectReason),
    ("ble_generation", word d.bleGeneration),
    ("mqtt_error_type", signed d.mqttErrorType),
    ("mqtt_esp_error", signed d.mqttEspError),
    ("mqtt_tls_error", signed d.mqttTlsError),
    ("mqtt_socket_errno", signed d.mqttSocketErrno),
    ("mqtt_connect_return_code", signed d.mqttConnectReturnCode),
    ("last_mqtt_error_type", signed d.lastMqttErrorType),
    ("last_mqtt_esp_error", signed d.lastMqttEspError),
    ("last_mqtt_tls_error", signed d.lastMqttTlsError),
    ("last_mqtt_socket_errno", signed d.lastMqttSocketErrno),
    ("last_mqtt_connect_return_code", signed d.lastMqttConnectReturnCode),
    ("last_mqtt_error_at_ms", longWord d.lastMqttErrorAtMs),
    ("mqtt_retry_in_ms", word d.mqttRetryInMs),
    ("reset_reason", signed d.resetReason),
    ("notification_ready", bool (runtime.wifi.connected && runtime.mqttConnected && d.ancsReady)),
    ("last_notification_uptime_ms", longWord runtime.lastNotificationUptimeMs)]

def diagnosticBytes (entry : String × Diagnostic) : List UInt8 :=
  ascii ",\"" ++ ascii entry.1 ++ ascii "\":" ++ entry.2.bytes

def diagnosticsCalls (runtime : MqttRelayRuntimeStatus) (d : DiagnosticsFields) : List PrintCall :=
  if d.valid then
    .print (ascii ",\"diagnostics_version\":1") ::
      (diagnostics runtime d).map (fun entry => .print (diagnosticBytes entry)) ++
      [.literal (ascii ",\"firmware_elf_sha256\":"),
        .string (fieldText runtime.diagnostics.firmwareElfSha256)]
  -- omitted means unknown
  else []

def ready (runtime : MqttRelayRuntimeStatus) : Bool :=
  runtime.wifi.connected && runtime.mqttConnected && runtime.bleConnected

def emptyText : CText := { bytes := [], nonzero := List.not_mem_nil }

def rssiBytes (wifi : MqttRelayWifiStatus) : List UInt8 :=
  if wifi.connected then ascii ",\"wifi_rssi\":" ++ Decimal.bytes (Decimal.integer wifi.rssi)
  else ascii ",\"wifi_rssi\":null"

def stateCalls (counters : RelayCounters) (runtime : MqttRelayRuntimeStatus) (d : DiagnosticsFields)
    (device : MqttRelayDeviceInfo) (uptime : CText) : List PrintCall :=
  [.print (ascii "\x7b\"ready\":" ++ flag (ready runtime) ++
      ascii ",\"connected\":" ++ flag runtime.mqttConnected ++
      ascii ",\"wifi_connected\":" ++ flag runtime.wifi.connected ++
      ascii ",\"mqtt_connected\":" ++ flag runtime.mqttConnected ++
      ascii ",\"ble_connected\":" ++ flag runtime.bleConnected ++
      ascii ",\"ble_bonded\":" ++ flag runtime.bleBonded ++
      ascii ",\"uptime_seconds\":" ++ number runtime.uptimeSeconds ++ ascii ",\"uptime\":"),
    .string uptime,
    .print (ascii ",\"accepted\":" ++ number counters.accepted.toNat ++
      ascii ",\"published_ack\":" ++ number counters.publishedAck.toNat ++
      ascii ",\"dropped_offline\":" ++ number counters.droppedOffline.toNat ++
      ascii ",\"dropped_enqueue\":" ++ number counters.droppedEnqueue.toNat ++
      ascii ",\"dropped_policy\":" ++ number counters.droppedPolicy.toNat ++
      ascii ",\"wifi_ssid\":"),
    .string (if runtime.wifi.connected then fieldText runtime.wifi.ssid else emptyText),
    .literal (ascii ",\"wifi_ip\":"),
    .string (if runtime.wifi.connected then fieldText runtime.wifi.ip else emptyText),
    .print (rssiBytes runtime.wifi),
    .literal (ascii ",\"manufacturer\":"),
    .string (fieldText device.manufacturer),
    .literal (ascii ",\"model\":"),
    .string (fieldText device.model),
    .literal (ascii ",\"sw_version\":"),
    .string (fieldText device.swVersion),
    .literal (ascii ",\"hw_version\":"),
    .string (fieldText device.hwVersion)] ++
  diagnosticsCalls runtime d ++ [.literal (ascii "\x7d")]

def buildStatePayload (counters : RelayCounters) (runtime : MqttRelayRuntimeStatus)
    (d : DiagnosticsFields) (device : MqttRelayDeviceInfo) (outSize : Nat) :
    Except JsonError (List UInt8) :=
  if !wifiStatusIsValid runtime.wifi || !deviceInfoIsValid device || outSize == 0 then
    .error .invalidArg
  else do
    let uptime ← formatUptime runtime.uptimeSeconds 64
    let cursor ← (stateCalls counters runtime d device uptime).foldlM PrintCall.run
      { written := [], remaining := outSize }
    .ok cursor.written

theorem put_fits (cursor : JsonCursor) (bytes : List UInt8) (room : bytes.length < cursor.remaining) :
    cursor.put bytes = .ok { written := cursor.written ++ bytes
                             remaining := cursor.remaining - bytes.length } :=
  if_neg (Nat.not_le.mpr room)

theorem loop_fits (cursor : JsonCursor) (bytes : List UInt8)
    (room : (bytes.flatMap jsonEscape).length < cursor.remaining) :
    bytes.foldlM (fun cursor byte => cursor.put (jsonEscape byte)) cursor =
      .ok { written := cursor.written ++ bytes.flatMap jsonEscape
            remaining := cursor.remaining - (bytes.flatMap jsonEscape).length } := by
  induction bytes generalizing cursor with
  | nil => simp [pure, Except.pure]
  | cons byte rest ih =>
    rw [List.flatMap_cons, List.length_append] at room
    have first := put_fits cursor (jsonEscape byte) (by omega)
    rw [List.foldlM_cons, first]
    have others := ih { written := cursor.written ++ jsonEscape byte
                        remaining := cursor.remaining - (jsonEscape byte).length }
      (by dsimp only; omega)
    rw [List.flatMap_cons, List.length_append, ← List.append_assoc, Nat.sub_add_eq]
    exact others

theorem string_fits {cursor : JsonCursor} {text : CText}
    (room : (PrintCall.string text).bytes.length < cursor.remaining) :
    jsonWriteString cursor text =
      .ok { written := cursor.written ++ (PrintCall.string text).bytes
            remaining := cursor.remaining - (PrintCall.string text).bytes.length } := by
  have parts : (PrintCall.string text).bytes = quote ++ text.bytes.flatMap jsonEscape ++ quote := rfl
  have some_ : ¬cursor.remaining = 0 := by omega
  rw [parts, List.length_append, List.length_append] at room
  have opened := put_fits cursor quote (by omega)
  have looped := loop_fits
    { written := cursor.written ++ quote, remaining := cursor.remaining - quote.length } text.bytes
    (by dsimp only; omega)
  have closed := put_fits
    { written := cursor.written ++ quote ++ text.bytes.flatMap jsonEscape
      remaining := cursor.remaining - quote.length - (text.bytes.flatMap jsonEscape).length } quote
    (by dsimp only; omega)
  calc jsonWriteString cursor text
      = (text.bytes.foldlM (fun (cursor : JsonCursor) byte => cursor.put (jsonEscape byte))
          { written := cursor.written ++ quote, remaining := cursor.remaining - quote.length }).bind
            (JsonCursor.put · quote) := by
        rw [jsonWriteString, if_neg some_, opened]
        rfl
    _ = JsonCursor.put
          { written := cursor.written ++ quote ++ text.bytes.flatMap jsonEscape
            remaining := cursor.remaining - quote.length - (text.bytes.flatMap jsonEscape).length }
          quote := by
        rw [looped]
        rfl
    _ = _ := by
        rw [closed, parts, List.length_append, List.length_append, Nat.sub_add_eq, Nat.sub_add_eq,
          ← List.append_assoc, ← List.append_assoc]

theorem run_fits (cursor : JsonCursor) (call : PrintCall) (room : call.bytes.length < cursor.remaining) :
    call.run cursor = .ok { written := cursor.written ++ call.bytes
                            remaining := cursor.remaining - call.bytes.length } := by
  cases call with
  | print bytes => exact put_fits cursor bytes room
  | literal bytes =>
    have some_ : ¬cursor.remaining = 0 := Nat.ne_of_gt (Nat.zero_lt_of_lt room)
    exact (if_neg some_).trans (put_fits cursor bytes room)
  | string text => exact string_fits room

theorem calls_fit (calls : List PrintCall) (cursor : JsonCursor)
    (room : (calls.flatMap PrintCall.bytes).length < cursor.remaining) :
    calls.foldlM PrintCall.run cursor =
      .ok { written := cursor.written ++ calls.flatMap PrintCall.bytes
            remaining := cursor.remaining - (calls.flatMap PrintCall.bytes).length } := by
  induction calls generalizing cursor with
  | nil => simp [pure, Except.pure]
  | cons call rest ih =>
    rw [List.flatMap_cons, List.length_append] at room
    have first := run_fits cursor call (by omega)
    have others := ih { written := cursor.written ++ call.bytes
                        remaining := cursor.remaining - call.bytes.length }
      (by dsimp only; omega)
    rw [List.foldlM_cons, first, List.flatMap_cons, List.length_append, ← List.append_assoc,
      Nat.sub_add_eq]
    exact others

theorem length_jsonEscape (byte : UInt8) : (jsonEscape byte).length ≤ 6 := by
  have all : ∀ n < 256, (jsonEscape (UInt8.ofNat n)).length ≤ 6 := by decide +kernel
  have each := all byte.toNat byte.toNat_lt
  rwa [UInt8.ofNat_toNat] at each

theorem length_escaped (bytes : List UInt8) :
    (bytes.flatMap jsonEscape).length ≤ 6 * bytes.length := by
  induction bytes with
  | nil => exact Nat.le_refl _
  | cons byte rest ih =>
    have first := length_jsonEscape byte
    rw [List.flatMap_cons, List.length_append, List.length_cons]
    omega

def Unescaped (bytes : List UInt8) : Prop := ∀ byte ∈ bytes, 0x20 ≤ byte ∧ byte ≠ 0x22 ∧ byte ≠ 0x5C

instance (bytes : List UInt8) : Decidable (Unescaped bytes) :=
  List.decidableBAll _ bytes

theorem jsonEscape_unescaped {byte : UInt8} (plain : 0x20 ≤ byte ∧ byte ≠ 0x22 ∧ byte ≠ 0x5C) :
    jsonEscape byte = [byte] := by
  have all : ∀ n < 256, 0x20 ≤ n → n ≠ 0x22 → n ≠ 0x5C →
      jsonEscape (UInt8.ofNat n) = [UInt8.ofNat n] := by decide +kernel
  have each := all byte.toNat byte.toNat_lt (UInt8.le_iff_toNat_le.mp plain.1)
    (mt (UInt8.toNat_inj (b := 0x22)).mp plain.2.1) (mt (UInt8.toNat_inj (b := 0x5C)).mp plain.2.2)
  rwa [UInt8.ofNat_toNat] at each

theorem escaped_unescaped {bytes : List UInt8} (plain : Unescaped bytes) :
    bytes.flatMap jsonEscape = bytes := by
  induction bytes with
  | nil => rfl
  | cons byte rest ih =>
    obtain ⟨first, later⟩ := List.forall_mem_cons.mp plain
    rw [List.flatMap_cons, jsonEscape_unescaped first, ih later, List.singleton_append]

theorem length_flag (value : Bool) : (flag value).length ≤ 5 := by
  cases value <;> decide

theorem length_diagnostic (value : Diagnostic) : value.bytes.length ≤ 20 := by
  cases value with
  | bool value => exact Nat.le_trans (length_flag value) (by decide)
  | int value =>
    have low := value.le_toInt
    have high := value.toInt_lt
    have digits := Decimal.length_integer (z := value.toInt) (k := 19) (by decide) (by omega)
    rwa [Diagnostic.bytes, Decimal.length_bytes]

theorem length_entries (entries : List (String × Diagnostic)) :
    (entries.flatMap diagnosticBytes).length ≤ (entries.map fun e => (ascii e.1).length + 24).sum := by
  have marks : (ascii ",\"").length = 2 ∧ (ascii "\":").length = 2 := by decide
  induction entries with
  | nil => exact Nat.le_refl _
  | cons entry rest ih =>
    have value := length_diagnostic entry.2
    rw [List.flatMap_cons, List.length_append, List.map_cons, List.sum_cons, diagnosticBytes,
      List.length_append, List.length_append, List.length_append, marks.1, marks.2]
    omega

theorem length_string (text : CText) :
    (PrintCall.string text).bytes.length ≤ 6 * text.bytes.length + 2 := by
  have quote_ : quote.length = 1 := by decide
  have escaped := length_escaped text.bytes
  rw [PrintCall.bytes, List.length_append, List.length_append, quote_]
  omega

theorem length_unescaped {text : CText} (plain : Unescaped text.bytes) :
    (PrintCall.string text).bytes.length = text.bytes.length + 2 := by
  have quote_ : quote.length = 1 := by decide
  rw [PrintCall.bytes, List.length_append, List.length_append, quote_, escaped_unescaped plain]
  omega

theorem length_diagnosticsCalls {runtime : MqttRelayRuntimeStatus} (d : DiagnosticsFields)
    (digest : fieldValid runtime.diagnostics.firmwareElfSha256 = true)
    (plain : Unescaped (text runtime.diagnostics.firmwareElfSha256)) :
    ((diagnosticsCalls runtime d).flatMap PrintCall.bytes).length ≤ 1899 := by
  have sha : (PrintCall.string (fieldText runtime.diagnostics.firmwareElfSha256)).bytes.length ≤ 66 := by
    rw [length_unescaped plain]
    exact Nat.succ_le_succ (Nat.succ_le_succ (of_decide_eq_true digest))
  have entries := length_entries (diagnostics runtime d)
  have keys : ((diagnostics runtime d).map fun e => (ascii e.1).length + 24).sum = 1786 := by
    simp [diagnostics, ascii]
  have heads : (ascii ",\"diagnostics_version\":1").length = 24 ∧
      (ascii ",\"firmware_elf_sha256\":").length = 23 := by decide
  have printed : ((diagnostics runtime d).map fun e => PrintCall.print (diagnosticBytes e)).flatMap
      PrintCall.bytes = (diagnostics runtime d).flatMap diagnosticBytes := by
    rw [List.flatMap_map]
    rfl
  unfold diagnosticsCalls
  split
  · rw [List.flatMap_append, List.flatMap_cons, printed]
    simp only [List.length_append, List.flatMap_cons, List.flatMap_nil, List.length_nil,
      PrintCall.bytes] at sha ⊢
    omega
  · exact Nat.zero_le _

theorem length_uptime {seconds : Nat} (small : seconds < 2 ^ 64) :
    (uptimeText seconds).bytes.length ≤ 39 := by
  have units : (Utf8.encode "일 ".toList).length = 4 ∧ (Utf8.encode "시간 ".toList).length = 7 ∧
      (Utf8.encode "분 ".toList).length = 4 ∧ (Utf8.encode "초".toList).length = 3 := by decide
  obtain ⟨day, hour, minute, second⟩ := units
  have days := Json.Written.small_natural (n := seconds / 86400) (k := 15) (by decide) (by omega)
  have hours := Json.Written.small_natural (n := seconds % 86400 / 3600) (k := 2) (by decide) (by omega)
  have minutes := Json.Written.small_natural (n := seconds % 3600 / 60) (k := 2) (by decide) (by omega)
  have seconds := Json.Written.small_natural (n := seconds % 60) (k := 2) (by decide) (by omega)
  unfold uptimeText uptimeChars
  dsimp only
  split
  · simp only [Utf8.encode_append, List.length_append, day, hour, minute, second]
    omega
  · split
    · simp only [Utf8.encode_append, List.length_append, hour, minute, second]
      omega
    · split
      · simp only [Utf8.encode_append, List.length_append, minute, second]
        omega
      · simp only [Utf8.encode_append, List.length_append, second]
        omega

/-- What the fields of a state hold: numbers of their types, texts of the device and a digest
    that need no escape. -/
structure Admissible (runtime : MqttRelayRuntimeStatus) (device : MqttRelayDeviceInfo) : Prop where
  uptime : runtime.uptimeSeconds < 2 ^ 64
  rssi : -2147483648 ≤ runtime.wifi.rssi ∧ runtime.wifi.rssi < 2147483648
  digest : fieldValid runtime.diagnostics.firmwareElfSha256 = true
  hexDigits : Unescaped (text runtime.diagnostics.firmwareElfSha256)
  manufacturer : Unescaped (text device.manufacturer)
  model : Unescaped (text device.model)
  swVersion : Unescaped (text device.swVersion)
  hwVersion : Unescaped (text device.hwVersion)

theorem length_required {max : Nat} {value : CharArray max} (present : boundedRequiredText value = true)
    (plain : Unescaped (text value)) : (PrintCall.string (fieldText value)).bytes.length ≤ max + 2 := by
  have bounded := of_decide_eq_true (Bool.and_eq_true_iff.mp present).2
  rw [length_unescaped plain]
  exact Nat.add_le_add_right (Nat.le_of_lt_succ bounded) 2

theorem length_device {runtime : MqttRelayRuntimeStatus} {device : MqttRelayDeviceInfo}
    (known : deviceInfoIsValid device = true) (admissible : Admissible runtime device) :
    (PrintCall.string (fieldText device.manufacturer)).bytes.length +
      (PrintCall.string (fieldText device.model)).bytes.length +
      (PrintCall.string (fieldText device.swVersion)).bytes.length +
      (PrintCall.string (fieldText device.hwVersion)).bytes.length ≤ 116 := by
  simp only [deviceInfoIsValid, Bool.and_eq_true] at known
  obtain ⟨⟨⟨manufacturer, model⟩, swVersion⟩, hwVersion⟩ := known
  have first := length_required manufacturer admissible.manufacturer
  have second := length_required model admissible.model
  have third := length_required swVersion admissible.swVersion
  have last := length_required hwVersion admissible.hwVersion
  omega

theorem length_wifi {wifi : MqttRelayWifiStatus} (valid : wifiStatusIsValid wifi = true) :
    (PrintCall.string (if wifi.connected then fieldText wifi.ssid else emptyText)).bytes.length ≤ 194 ∧
      (PrintCall.string (if wifi.connected then fieldText wifi.ip else emptyText)).bytes.length ≤ 92 := by
  unfold wifiStatusIsValid at valid
  cases connected : wifi.connected with
  | false =>
    have none_ : (PrintCall.string emptyText).bytes.length = 2 := by decide
    simp only [Bool.false_eq_true, ↓reduceIte, none_]
    decide
  | true =>
    rw [connected] at valid
    simp only [Bool.not_true, Bool.false_eq_true, ↓reduceIte, fieldPresent, Bool.and_eq_true] at valid ⊢
    obtain ⟨⟨ssid, _⟩, ip, _⟩ := valid
    have ssidLength : (text wifi.ssid).length ≤ 32 := of_decide_eq_true ssid
    have ipLength : (text wifi.ip).length ≤ 15 := of_decide_eq_true ip
    have first := length_string (fieldText wifi.ssid)
    have second := length_string (fieldText wifi.ip)
    simp only [fieldText] at first second ⊢
    omega

theorem length_rssi {wifi : MqttRelayWifiStatus}
    (range : -2147483648 ≤ wifi.rssi ∧ wifi.rssi < 2147483648) : (rssiBytes wifi).length ≤ 24 := by
  have head : (ascii ",\"wifi_rssi\":").length = 13 := by decide
  have digits := Decimal.length_integer (z := wifi.rssi) (k := 10) (by decide) (by omega)
  unfold rssiBytes
  split
  · rw [List.length_append, Decimal.length_bytes, head]
    omega
  · decide

theorem length_word (value : UInt32) : (number value.toNat).length ≤ 10 := by
  rw [number, Decimal.length_bytes]
  exact Decimal.length_digits (by decide) (Nat.lt_trans value.toNat_lt (by decide))

theorem length_calls (counters : RelayCounters) {runtime : MqttRelayRuntimeStatus}
    (d : DiagnosticsFields) {device : MqttRelayDeviceInfo} (admissible : Admissible runtime device)
    (valid : wifiStatusIsValid runtime.wifi = true) (known : deviceInfoIsValid device = true) :
    ((stateCalls counters runtime d device (uptimeText runtime.uptimeSeconds)).flatMap
      PrintCall.bytes).length < statePayloadMax := by
  have diagnostics := length_diagnosticsCalls d admissible.digest admissible.hexDigits
  have texts := length_device known admissible
  obtain ⟨ssid, ip⟩ := length_wifi valid
  have rssi := length_rssi admissible.rssi
  have uptime := length_string (uptimeText runtime.uptimeSeconds)
  have uptimeText := length_uptime admissible.uptime
  have seconds : (number runtime.uptimeSeconds).length ≤ 20 := by
    rw [number, Decimal.length_bytes]
    exact Decimal.length_digits (by decide) (Nat.lt_trans admissible.uptime (by decide))
  have accepted := length_word counters.accepted
  have acknowledged := length_word counters.publishedAck
  have offline := length_word counters.droppedOffline
  have enqueue := length_word counters.droppedEnqueue
  have policy := length_word counters.droppedPolicy
  have isReady := length_flag (ready runtime)
  have wifi := length_flag runtime.wifi.connected
  have mqtt := length_flag runtime.mqttConnected
  have ble := length_flag runtime.bleConnected
  have bonded := length_flag runtime.bleBonded
  rw [stateCalls, List.flatMap_append, List.flatMap_append, List.length_append, List.length_append]
  simp only [List.flatMap_cons, List.flatMap_nil, List.length_append, List.length_nil]
  have printed (bytes : List UInt8) : (PrintCall.print bytes).bytes = bytes := rfl
  have literal (bytes : List UInt8) : (PrintCall.literal bytes).bytes = bytes := rfl
  simp only [printed, literal, List.length_append]
  simp [ascii, statePayloadMax, -List.length_flatMap]
  omega

/-- A state of a connected relay and a known device is always built; any other is refused. -/
theorem state_payload_fits (counters : RelayCounters) {runtime : MqttRelayRuntimeStatus}
    (d : DiagnosticsFields) {device : MqttRelayDeviceInfo} (admissible : Admissible runtime device) :
    if wifiStatusIsValid runtime.wifi = true ∧ deviceInfoIsValid device = true then
      ∃ payload, buildStatePayload counters runtime d device statePayloadMax = .ok payload ∧
        payload.length < statePayloadMax
    else buildStatePayload counters runtime d device statePayloadMax = .error .invalidArg := by
  split
  · next checks =>
    obtain ⟨valid, known⟩ := checks
    have room := length_calls counters d admissible valid known
    have uptime : formatUptime runtime.uptimeSeconds 64 = .ok (uptimeText runtime.uptimeSeconds) := by
      have short := length_uptime admissible.uptime
      have fits : ¬64 ≤ (uptimeText runtime.uptimeSeconds).bytes.length := by omega
      simp [formatUptime, fits]
    have printed := calls_fit _ { written := [], remaining := statePayloadMax } room
    have passed : ¬(!wifiStatusIsValid runtime.wifi || !deviceInfoIsValid device ||
        statePayloadMax == 0) = true := by
      rw [valid, known]
      decide
    refine ⟨_, ?_, room⟩
    rw [buildStatePayload, if_neg passed, uptime]
    simp only [bind, Except.bind, printed, List.nil_append]
  · next refused =>
    have failed : (!wifiStatusIsValid runtime.wifi || !deviceInfoIsValid device ||
        statePayloadMax == 0) = true := by
      cases valid : wifiStatusIsValid runtime.wifi with
      | false => rfl
      | true =>
        cases known : deviceInfoIsValid device with
        | false => rfl
        | true => exact absurd ⟨valid, known⟩ refused
    rw [buildStatePayload, if_pos failed]

def strangeNetwork : MqttRelayWifiStatus where
  connected := true
  ssid := ofText 32 (List.replicate 32 1)
  ip := ofText 15 (ascii "192.168.100.100")
  rssi := -90

def namelessNetwork : MqttRelayWifiStatus := { strangeNetwork with ssid := zeroed }

def runtimeIn (wifi : MqttRelayWifiStatus) : MqttRelayRuntimeStatus where
  wifi
  mqttConnected := true
  bleConnected := true
  bleBonded := true
  uptimeSeconds := 18446744073709551615
  lastNotificationUptimeMs := 18446744073709551615
  diagnostics := { firmwareElfSha256 := ofText 64 (List.replicate 64 0x61), fields := [] }

def fullCounters : RelayCounters where
  accepted := 4294967295
  publishedAck := 4294967295
  droppedOffline := 4294967295
  droppedEnqueue := 4294967295
  droppedPolicy := 4294967295
  freed := 4294967295

theorem admissible_runtimeIn {wifi : MqttRelayWifiStatus}
    (range : -2147483648 ≤ wifi.rssi ∧ wifi.rssi < 2147483648) :
    Admissible (runtimeIn wifi) thisDevice where
  uptime := by
    show 18446744073709551615 < 2 ^ 64
    decide
  rssi := range
  digest := by
    show fieldValid (ofText 64 (List.replicate 64 0x61)) = true
    decide
  hexDigits := by
    show Unescaped (text (ofText 64 (List.replicate 64 0x61)))
    decide
  manufacturer := by decide
  model := by decide
  swVersion := by decide
  hwVersion := by decide

theorem state_payload_fits_strange : ∃ payload,
    buildStatePayload fullCounters (runtimeIn strangeNetwork) { (default : DiagnosticsFields) with
      valid := true } thisDevice statePayloadMax = .ok payload ∧ payload.length < statePayloadMax := by
  have fits := state_payload_fits fullCounters { (default : DiagnosticsFields) with valid := true }
    (admissible_runtimeIn (show -2147483648 ≤ strangeNetwork.rssi ∧ _ by decide))
  rwa [if_pos ⟨by decide, by decide⟩] at fits

/-- A connected network without a name is refused. -/
theorem nameless_network_is_refused : ¬ ∀ (counters : RelayCounters)
    (runtime : MqttRelayRuntimeStatus) (d : DiagnosticsFields) (device : MqttRelayDeviceInfo),
    Admissible runtime device →
      ∃ payload, buildStatePayload counters runtime d device statePayloadMax = .ok payload := by
  intro all
  obtain ⟨payload, answer⟩ := all fullCounters (runtimeIn namelessNetwork) default thisDevice
    (admissible_runtimeIn (by decide))
  have refused : (!wifiStatusIsValid (runtimeIn namelessNetwork).wifi || !deviceInfoIsValid thisDevice ||
      statePayloadMax == 0) = true := by decide
  rw [buildStatePayload, if_pos refused] at answer
  cases answer

end StatePayload
