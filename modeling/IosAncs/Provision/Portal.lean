import Mathlib.Data.Rat.Defs
import IosAncs.Provision.Store
import IosAncs.Provision.Policy

/-!
The configuration request of the setup portal: the fields it reads, the password
rule and the merge it applies, the save, and the reply for every way out.
The source is `portal_http.c`.
-/
open CString ProvisionConfig ProvisionStore

/-- A field of the posted object; a text counts up to its first zero byte. -/
inductive JsonValue where
  | string (bytes : List UInt8)
  | number (value : Rat)
  | bool (value : Bool)
  | other
deriving DecidableEq

/-- The first field of a name, as `cJSON_GetObjectItemCaseSensitive` finds it. -/
abbrev JsonObject := String → Option JsonValue

namespace JsonObject

def copyString (json : JsonObject) (name : String) (max : Nat) (required : Bool) :
    Option (CharArray max) :=
  match json name with
  | none => if required then none else some zeroed
  | some (.string bytes) =>
    let value := bytes.takeWhile (· != 0)
    if max < value.length ∨ (required ∧ value = []) then none else some (ofText max value)
  | some _ => none

def u16 (json : JsonObject) (name : String) : Option UInt16 :=
  match json name with
  | some (.number value) =>
    if 1 ≤ value ∧ value ≤ 65535 ∧ value.den = 1 then some value.num.toNat.toUInt16 else none
  | _ => none

def bool (json : JsonObject) (name : String) : Option Bool :=
  match json name with
  | some (.bool value) => some value
  | _ => none

def parseConfigUpdate (json : JsonObject) : Option ProvisionConfig := do
  let wifiSsid ← json.copyString "wifi_ssid" 32 true
  let wifiPassword ← json.copyString "wifi_password" 64 false
  let mqttHost ← json.copyString "mqtt_host" 128 true
  let mqttPort ← json.u16 "mqtt_port"
  let mqttUsername ← json.copyString "mqtt_username" 128 false
  let mqttPassword ← json.copyString "mqtt_password" 256 false
  let mqttTls ← json.bool "mqtt_tls"
  let mqttCa ← json.copyString "mqtt_ca" 4096 false
  let mqttClientId ← json.copyString "mqtt_client_id" 64 true
  let mqttBaseTopic ← json.copyString "mqtt_base_topic" 128 true
  return {
    schemaVersion := currentSchemaVersion
    wifiSsid, wifiPassword, mqttHost, mqttPort, mqttUsername, mqttPassword, mqttTls, mqttCa,
    mqttClientId, mqttBaseTopic }

end JsonObject

inductive PortalReply where
  | error (status message : String)
  | saved (reconnect : Bool)
deriving DecidableEq, Repr

/-- A request as it reaches `handle_config_post`: the result of the AP guard, the
    body where it is a JSON object, and whether the coordinator takes its message. -/
structure ConfigRequest where
  guard : Option EspErr
  reconnectAvailable : Bool
  json : Option JsonObject
  messageTaken : Bool

/-- The flash content: the two-slot store and the key `mqtt_ok`. -/
structure ProvisionPartition where
  store : ProvisionStore
  mqttVerified : Option UInt32

namespace Portal

def storedMqttSettingsVerified (partition : ProvisionPartition) (existing : ProvisionConfig) :
    Bool :=
  match partition.mqttVerified with
  | none => false
  | some marker => marker != 0 && marker == mqttFingerprint existing

/-- What is to be saved: the update merged into what is stored, as far as the
    password rule lets it. -/
def configToSave (partition : ProvisionPartition) (update : ProvisionConfig) :
    Except PortalReply ProvisionConfig :=
  match partition.store.load with
  | .ok existing =>
    let rule := mqttPasswordRule existing update (storedMqttSettingsVerified partition existing)
    if rule = .required then .error (.error "400 Bad Request" "mqtt_password_required")
    else match mergePreservingSecrets existing update with
      | .error _ => .error (.error "500 Internal Server Error" "save failed")
      | .ok merged => .ok (if rule = .drop then { merged with mqttPassword := zeroed } else merged)
  | .error _ =>
    if validate update = .ok then .ok update
    else .error (.error "500 Internal Server Error" "save failed")

/-- The save and the load that checks it. -/
def saveChecked (partition : ProvisionPartition) (config : ProvisionConfig) :
    ProvisionPartition × Bool :=
  match partition.store.saveNvsAtomic config .none with
  | (store, .ok) => ({ partition with store }, store.load == .ok config)
  | (store, _) => ({ partition with store }, false)

/-- `portal_reconnect`: the message for the coordinator. -/
def reconnect (request : ConfigRequest) (config : ProvisionConfig) : Option ProvisionConfig :=
  if validate config = .ok ∧ request.messageTaken then some config else none

def handleConfigPost (partition : ProvisionPartition) (request : ConfigRequest) :
    ProvisionPartition × PortalReply × Option ProvisionConfig :=
  match request.guard with
  | some .invalidState => (partition, .error "403 Forbidden" "AP interface required", none)
  | some _ => (partition, .error "500 Internal Server Error" "AP interface check failed", none)
  | none =>
    if !request.reconnectAvailable then
      (partition, .error "503 Service Unavailable" "reconnect unavailable", none)
    else match request.json with
      | none => (partition, .error "400 Bad Request" "invalid JSON", none)
      | some json =>
        match json.parseConfigUpdate with
        | none => (partition, .error "400 Bad Request" "invalid config", none)
        | some update =>
          match configToSave partition update with
          | .error reply => (partition, reply, none)
          | .ok config =>
            match saveChecked partition config with
            | (after, false) => (after, .error "500 Internal Server Error" "save failed", none)
            | (after, true) =>
              (after, .saved (reconnect request config).isSome, reconnect request config)

theorem parseConfigUpdate_schema {json : JsonObject} {update : ProvisionConfig}
    (parsed : json.parseConfigUpdate = some update) :
    update.schemaVersion = currentSchemaVersion := by
  simp only [JsonObject.parseConfigUpdate, bind, Option.bind_eq_some_iff, pure, Option.some.injEq]
    at parsed
  obtain ⟨_, _, _, _, _, _, _, _, _, _, _, _, _, _, _, _, _, _, _, _, rfl⟩ := parsed
  rfl

/-- The check after the save never fails: a save stores its configuration or nothing. -/
theorem saveChecked_spec (partition : ProvisionPartition) {config : ProvisionConfig}
    (valid : validate config = .ok) (schema : config.schemaVersion = currentSchemaVersion) :
    (saveChecked partition config).1.mqttVerified = partition.mqttVerified ∧
      (saveChecked partition config).2 = decide (liveGeneration partition.store ≠ some 0xFFFFFFFF) ∧
      (saveChecked partition config).1.store.load =
        if liveGeneration partition.store ≠ some 0xFFFFFFFF then .ok config
        else partition.store.load := by
  have same : withCurrentSchema config = config := by
    cases config
    cases schema
    rfl
  by_cases exhausted : liveGeneration partition.store = some 0xFFFFFFFF
  · simp [saveChecked, save_exhausted partition.store config .none exhausted, exhausted]
  · obtain ⟨saved, loads⟩ := save_without_fault partition.store valid exhausted
    rw [same] at loads
    unfold saveChecked
    generalize partition.store.saveNvsAtomic config .none = result at saved loads
    obtain ⟨store, outcome⟩ := result
    simp only at saved loads
    subst saved
    simp [loads, exhausted]

theorem merged_schema (existing : ProvisionConfig) {update : ProvisionConfig}
    (schema : update.schemaVersion = currentSchemaVersion) :
    (mergedSecrets existing update).schemaVersion = currentSchemaVersion := by
  simp [mergedSecrets, schema]

theorem merged_password {existing : ProvisionConfig} (update : ProvisionConfig)
    (held : fieldValid existing.mqttPassword) :
    password (mergedSecrets existing update) =
      if password update = [] then password existing else password update := by
  unfold mergedSecrets password
  simp only [isBlank_iff]
  split
  · exact text_strlcpy _ held
  · rfl

theorem validate_without_password {config : ProvisionConfig} (valid : validate config = .ok) :
    validate { config with mqttPassword := zeroed } = .ok := by
  rw [validate_ok_iff] at valid ⊢
  obtain ⟨schema, ssid, wifi, host, port, user, _, ca, tls, client, topic⟩ := valid
  refine ⟨schema, ssid, wifi, host, port, user, ?_, ca, tls, client, topic⟩
  simp [fieldValid, boundedStrlen, text_zeroed]

inductive PasswordSource (partition : ProvisionPartition) (existing update config : ProvisionConfig) :
    Prop where
  | typed (some : password update ≠ []) (same : password config = password update)
  | kept (blank : password update = []) (same : password config = password existing)
      (may_stay : ¬ (storedMqttSettingsVerified partition existing ∧ password existing ≠ [] ∧
        address existing ≠ address update))
  | dropped (none : password config = [])

theorem configToSave_valid {partition : ProvisionPartition} {update config : ProvisionConfig}
    (chosen : configToSave partition update = .ok config)
    (schema : update.schemaVersion = currentSchemaVersion) :
    validate config = .ok ∧ config.schemaVersion = currentSchemaVersion ∧
      address config = address update := by
  unfold configToSave at chosen
  split at chosen
  · next existing loaded =>
    simp only at chosen
    split at chosen
    · cases chosen
    · split at chosen
      · cases chosen
      · next merged merge =>
        obtain ⟨valid, rfl⟩ := (merge_ok_iff _ _ _).mp merge
        have result := Except.ok.inj chosen
        split at result
        · subst result
          exact ⟨validate_without_password valid, merged_schema existing schema, rfl⟩
        · subst result
          exact ⟨valid, merged_schema existing schema, rfl⟩
  · split at chosen
    · next valid =>
      cases chosen
      exact ⟨valid, schema, rfl⟩
    · cases chosen

theorem configToSave_password {partition : ProvisionPartition}
    {existing update config : ProvisionConfig} (loaded : partition.store.load = .ok existing)
    (chosen : configToSave partition update = .ok config) :
    PasswordSource partition existing update config := by
  have held := (validate_ok_iff existing).mp (load_valid loaded).1
  unfold configToSave at chosen
  simp only [loaded] at chosen
  split at chosen
  · cases chosen
  · next not_required =>
    split at chosen
    · cases chosen
    · next merged merge =>
      obtain ⟨_, rfl⟩ := (merge_ok_iff _ _ _).mp merge
      have secret := merged_password update held.mqttPassword
      have result := Except.ok.inj chosen
      cases rule : mqttPasswordRule existing update (storedMqttSettingsVerified partition existing) with
      | required => exact absurd rule not_required
      | drop =>
        rw [if_pos rule] at result
        apply PasswordSource.dropped
        rw [← result]
        exact text_zeroed
      | keep =>
        have other : mqttPasswordRule existing update
            (storedMqttSettingsVerified partition existing) ≠ .drop := by
          rw [rule]
          decide
        rw [if_neg other] at result
        subst result
        rw [mqttPasswordRule_keep_iff] at rule
        by_cases blank : password update = []
        · apply PasswordSource.kept blank
          · rw [secret, if_pos blank]
          · intro moves
            exact rule ⟨moves.1, blank, moves.2⟩
        · apply PasswordSource.typed blank
          rw [secret, if_neg blank]

end Portal
