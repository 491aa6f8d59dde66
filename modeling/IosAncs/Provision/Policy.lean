import IosAncs.Provision.Config

/-!
The policy for MQTT secrets: the fingerprint of the settings that decide whether
a broker accepts the device, and the rule for a password that is left blank.
The source is `provision_policy.c`.
-/
open CString

inductive MqttPasswordRule where
  | keep
  | required
  | drop
deriving DecidableEq, Repr

namespace ProvisionConfig

def fnv1aOffset : UInt32 := 2166136261
def fnv1aPrime : UInt32 := 16777619

def fnv1a (hash : UInt32) (bytes : List UInt8) : UInt32 :=
  bytes.foldl (fun hash byte => (hash ^^^ byte.toUInt32) * fnv1aPrime) hash

/-- The length prefix of `hash_text`, little endian. -/
def lengthPrefix (length : UInt32) : List UInt8 :=
  [length.toUInt8, (length >>> 8).toUInt8, (length >>> 16).toUInt8, (length >>> 24).toUInt8]

def hashBytes (hash : UInt32) (bytes : List UInt8) : UInt32 :=
  fnv1a (fnv1a hash (lengthPrefix bytes.length.toUInt32)) bytes

def hashText {max : Nat} (hash : UInt32) (value : CharArray max) : UInt32 :=
  hashBytes hash (text value)

/-- `provision_config_mqtt_fingerprint` of a config that is there. -/
def mqttFingerprint (config : ProvisionConfig) : UInt32 :=
  let port := [config.mqttPort.toUInt8, (config.mqttPort >>> 8).toUInt8]
  let tls := if config.mqttTls then 1 else 0
  let hash := hashText fnv1aOffset config.mqttHost
  let hash := fnv1a hash port
  let hash := fnv1a hash [tls]
  let hash := hashText hash config.mqttCa
  let hash := hashText hash config.mqttUsername
  let hash := hashText hash config.mqttPassword
  let hash := hashText hash config.mqttClientId
  if hash = 0 then 1 else hash

def mqttServerChanged (existing update : ProvisionConfig) : Bool :=
  existing.mqttPort != update.mqttPort || text existing.mqttHost != text update.mqttHost

def mqttPasswordRule (existing update : ProvisionConfig) (existingVerified : Bool) :
    MqttPasswordRule :=
  if !existingVerified || !isBlank update.mqttPassword || isBlank existing.mqttPassword ||
      !mqttServerChanged existing update then .keep
  else if !isBlank update.mqttUsername then .required
  else .drop

theorem mqttFingerprint_nonzero (config : ProvisionConfig) : mqttFingerprint config ≠ 0 := by
  simp only [mqttFingerprint]
  generalize hashText _ config.mqttClientId = hash
  by_cases zero : hash = 0
  · simp [zero]
  · simp [zero]

def address (config : ProvisionConfig) : List UInt8 × UInt16 :=
  (text config.mqttHost, config.mqttPort)

def password (config : ProvisionConfig) : List UInt8 := text config.mqttPassword

theorem mqttServerChanged_iff (existing update : ProvisionConfig) :
    mqttServerChanged existing update = true ↔ address existing ≠ address update := by
  unfold mqttServerChanged address
  rw [Bool.or_eq_true, bne_iff_ne, bne_iff_ne]
  simp only [ne_eq, Prod.mk.injEq]
  tauto

theorem mqttPasswordRule_keep_iff (existing update : ProvisionConfig) (verified : Bool) :
    mqttPasswordRule existing update verified = .keep ↔
      ¬ (verified ∧ password update = [] ∧ password existing ≠ [] ∧
        address existing ≠ address update) := by
  unfold mqttPasswordRule
  rw [← mqttServerChanged_iff, password, password, ← isBlank_iff]
  have blank := isBlank_iff existing.mqttPassword
  cases verified <;> cases isBlank update.mqttPassword <;>
    cases held : isBlank existing.mqttPassword <;>
    cases mqttServerChanged existing update <;>
    cases isBlank update.mqttUsername <;> simp_all

end ProvisionConfig
