import Mathlib.Data.List.Basic
import IosAncs.Foundation.CString

/-!
The provisioning configuration as the store, the portal and the relay read it:
its fields, the check every stored configuration passes, and the merge that
keeps secrets which a new configuration leaves blank.
The source is `provision_store.c`.
-/
open CString

/-- The error codes that the modelled functions return, `ESP_OK` left out. -/
inductive EspErr where
  | fail
  | invalidArg
  | invalidState
  | invalidCrc
  | invalidResponse
  | nvsNotFound
deriving DecidableEq, Repr

structure ProvisionConfig where
  schemaVersion : UInt32
  wifiSsid : CharArray 32
  wifiPassword : CharArray 64
  mqttHost : CharArray 128
  mqttPort : UInt16
  mqttUsername : CharArray 128
  mqttPassword : CharArray 256
  mqttTls : Bool
  mqttCa : CharArray 4096
  mqttClientId : CharArray 64
  mqttBaseTopic : CharArray 128
deriving DecidableEq

inductive ProvisionConfigResult where
  | ok
  | invalidArgument
  | unsupportedSchema
  | missingWifi
  | missingMqttHost
  | invalidMqttPort
  | missingMqttClientId
  | missingMqttBaseTopic
  | tlsCaRequired
deriving DecidableEq, Repr

namespace ProvisionConfig

/-- `PROVISION_CONFIG_SCHEMA_VERSION` -/
def currentSchemaVersion : UInt32 := 1

def validate (config : ProvisionConfig) : ProvisionConfigResult :=
  if config.schemaVersion ≠ 0 ∧ config.schemaVersion ≠ currentSchemaVersion then .unsupportedSchema
  else if !fieldPresent config.wifiSsid then .missingWifi
  else if !fieldValid config.wifiPassword || !fieldValid config.mqttUsername ||
      !fieldValid config.mqttPassword || !fieldValid config.mqttCa then .invalidArgument
  else if !fieldPresent config.mqttHost then .missingMqttHost
  else if config.mqttPort = 0 then .invalidMqttPort
  else if config.mqttTls && !fieldPresent config.mqttCa then .tlsCaRequired
  else if !fieldPresent config.mqttClientId then .missingMqttClientId
  else if !fieldPresent config.mqttBaseTopic then .missingMqttBaseTopic
  else .ok

def withCurrentSchema (config : ProvisionConfig) : ProvisionConfig :=
  { config with schemaVersion := currentSchemaVersion }

/-- The merge's result: the two secrets and the CA that `update` leaves blank are
    taken from `existing`. -/
def mergedSecrets (existing update : ProvisionConfig) : ProvisionConfig :=
  { update with
    schemaVersion :=
      if update.schemaVersion = 0 then currentSchemaVersion else update.schemaVersion
    wifiPassword :=
      if isBlank update.wifiPassword then strlcpy update.wifiPassword existing.wifiPassword
      else update.wifiPassword
    mqttPassword :=
      if isBlank update.mqttPassword then strlcpy update.mqttPassword existing.mqttPassword
      else update.mqttPassword
    mqttCa :=
      if isBlank update.mqttCa && !isBlank existing.mqttCa then
        strlcpy update.mqttCa existing.mqttCa
      else update.mqttCa }

def mergePreservingSecrets (existing update : ProvisionConfig) : Except EspErr ProvisionConfig :=
  if validate (mergedSecrets existing update) = .ok then .ok (mergedSecrets existing update)
  else .error .invalidArg

structure Valid (config : ProvisionConfig) : Prop where
  schema : config.schemaVersion = 0 ∨ config.schemaVersion = currentSchemaVersion
  wifiSsid : fieldPresent config.wifiSsid
  wifiPassword : fieldValid config.wifiPassword
  mqttHost : fieldPresent config.mqttHost
  mqttPort : config.mqttPort ≠ 0
  mqttUsername : fieldValid config.mqttUsername
  mqttPassword : fieldValid config.mqttPassword
  mqttCa : fieldValid config.mqttCa
  tlsCa : config.mqttTls → fieldPresent config.mqttCa
  mqttClientId : fieldPresent config.mqttClientId
  mqttBaseTopic : fieldPresent config.mqttBaseTopic

theorem validate_ok_iff (config : ProvisionConfig) : validate config = .ok ↔ Valid config := by
  constructor
  · intro accepted
    unfold validate at accepted
    constructor <;> grind
  · intro valid
    obtain ⟨schema, ssid, wifi, host, port, user, password, ca, tls, client, topic⟩ := valid
    unfold validate
    grind

theorem validate_withCurrentSchema {config : ProvisionConfig} (valid : validate config = .ok) :
    validate (withCurrentSchema config) = .ok := by
  rw [validate_ok_iff] at valid ⊢
  obtain ⟨_, ssid, wifi, host, port, user, password, ca, tls, client, topic⟩ := valid
  exact ⟨.inr rfl, ssid, wifi, host, port, user, password, ca, tls, client, topic⟩

/-- An SSID may take all of the 32 bytes that the array has before the terminator. -/
theorem validate_with_ssid {config : ProvisionConfig} (valid : validate config = .ok)
    {ssid : List UInt8} (some : ssid ≠ []) (room : ssid.length ≤ 32) (nonzero : 0 ∉ ssid) :
    validate { config with wifiSsid := ofText 32 ssid } = .ok := by
  rw [validate_ok_iff] at valid ⊢
  obtain ⟨schema, _, wifi, host, port, user, password, ca, tls, client, topic⟩ := valid
  exact ⟨schema, fieldPresent_ofText some room nonzero, wifi, host, port, user, password, ca, tls,
    client, topic⟩

theorem merge_ok_iff (existing update out : ProvisionConfig) :
    mergePreservingSecrets existing update = .ok out ↔
      validate out = .ok ∧ mergedSecrets existing update = out := by
  unfold mergePreservingSecrets
  split
  · next valid =>
    rw [Except.ok.injEq]
    constructor
    · intro same
      exact ⟨same ▸ valid, same⟩
    · intro merged
      exact merged.2
  · next invalid =>
    simp only [reduceCtorEq, false_iff, not_and]
    intro valid same
    exact invalid (same ▸ valid)

theorem merged_valid {existing update : ProvisionConfig} (held : Valid existing)
    (valid : Valid update) : Valid (mergedSecrets existing update) where
  schema := by
    unfold mergedSecrets
    rcases valid.schema with zero | current
    · simp [zero]
    · simp [current, currentSchemaVersion]
  wifiSsid := valid.wifiSsid
  wifiPassword := by
    rw [show (mergedSecrets existing update).wifiPassword =
      if isBlank update.wifiPassword then strlcpy update.wifiPassword existing.wifiPassword
      else update.wifiPassword from rfl]
    split
    · exact fieldValid_strlcpy _ held.wifiPassword
    · exact valid.wifiPassword
  mqttHost := valid.mqttHost
  mqttPort := valid.mqttPort
  mqttUsername := valid.mqttUsername
  mqttPassword := by
    rw [show (mergedSecrets existing update).mqttPassword =
      if isBlank update.mqttPassword then strlcpy update.mqttPassword existing.mqttPassword
      else update.mqttPassword from rfl]
    split
    · exact fieldValid_strlcpy _ held.mqttPassword
    · exact valid.mqttPassword
  mqttCa := by
    rw [show (mergedSecrets existing update).mqttCa =
      if isBlank update.mqttCa && !isBlank existing.mqttCa then
        strlcpy update.mqttCa existing.mqttCa
      else update.mqttCa from rfl]
    split
    · exact fieldValid_strlcpy _ held.mqttCa
    · exact valid.mqttCa
  tlsCa := by
    intro tls
    have present := valid.tlsCa tls
    have filled : isBlank update.mqttCa = false := by
      simp only [fieldPresent, Bool.and_eq_true, Bool.not_eq_true'] at present
      exact present.2
    rw [show (mergedSecrets existing update).mqttCa =
      if isBlank update.mqttCa && !isBlank existing.mqttCa then
        strlcpy update.mqttCa existing.mqttCa
      else update.mqttCa from rfl, filled]
    exact present
  mqttClientId := valid.mqttClientId
  mqttBaseTopic := valid.mqttBaseTopic

def sample (port : UInt16) : ProvisionConfig where
  schemaVersion := currentSchemaVersion
  wifiSsid := ofText 32 [119]
  wifiPassword := ofText 64 []
  mqttHost := ofText 128 [104]
  mqttPort := port
  mqttUsername := ofText 128 []
  mqttPassword := ofText 256 [112]
  mqttTls := false
  mqttCa := ofText 4096 []
  mqttClientId := ofText 64 [99]
  mqttBaseTopic := ofText 128 [116]

theorem sample_valid {port : UInt16} (nonzero : port ≠ 0) : validate (sample port) = .ok := by
  rw [validate_ok_iff]
  constructor
  case schema => exact .inr rfl
  case mqttPort => exact nonzero
  case tlsCa => exact fun tls => nomatch tls
  case wifiSsid | mqttHost | mqttClientId | mqttBaseTopic =>
    exact fieldPresent_ofText (by decide) (by decide) (by decide)
  case wifiPassword | mqttUsername | mqttPassword | mqttCa =>
    exact fieldValid_ofText (by decide) (by decide)

end ProvisionConfig
