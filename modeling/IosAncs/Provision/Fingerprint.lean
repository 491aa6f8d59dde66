import IosAncs.Foundation.LittleEndian
import IosAncs.Foundation.SelfDelimiting
import IosAncs.Provision.Policy

/-!
What the fingerprint of the MQTT settings is a hash of. Each text is hashed behind its
length, so that the settings are told from the bytes that go into the hash.
-/
open CString SelfDelimiting

def fnv1a32 (bytes : List UInt8) : Nat :=
  bytes.foldl (fun hash byte => (hash ^^^ byte.toNat) * 16777619 % 2 ^ 32) 2166136261

namespace ProvisionConfig

/-- The bytes that `hash_text` hashes -/
def textBytes {max : Nat} (value : CharArray max) : List UInt8 :=
  lengthPrefix (text value).length.toUInt32 ++ text value

/-- All bytes that `provision_config_mqtt_fingerprint` hashes -/
def fingerprintStream (config : ProvisionConfig) : List UInt8 :=
  textBytes config.mqttHost ++ [config.mqttPort.toUInt8, (config.mqttPort >>> 8).toUInt8] ++
    [if config.mqttTls then 1 else 0] ++ textBytes config.mqttCa ++ textBytes config.mqttUsername ++
    textBytes config.mqttPassword ++ textBytes config.mqttClientId

theorem fnv1a_append (hash : UInt32) (first second : List UInt8) :
    fnv1a (fnv1a hash first) second = fnv1a hash (first ++ second) := by
  simp [fnv1a]

theorem mqttFingerprint_eq (config : ProvisionConfig) : mqttFingerprint config =
    if fnv1a fnv1aOffset (fingerprintStream config) = 0 then 1
    else fnv1a fnv1aOffset (fingerprintStream config) := by
  simp only [mqttFingerprint, hashText, hashBytes, fingerprintStream, textBytes, fnv1a_append,
    List.append_assoc]

theorem toNat_fnv1a (hash : UInt32) (bytes : List UInt8) : (fnv1a hash bytes).toNat =
    bytes.foldl (fun hash byte => (hash ^^^ byte.toNat) * 16777619 % 2 ^ 32) hash.toNat := by
  unfold fnv1a
  induction bytes generalizing hash with
  | nil => rfl
  | cons byte rest ih =>
    have hashed : ((hash ^^^ byte.toUInt32) * fnv1aPrime).toNat =
        (hash.toNat ^^^ byte.toNat) * 16777619 % 2 ^ 32 := by
      rw [UInt32.toNat_mul, UInt32.toNat_xor, UInt8.toNat_toUInt32, show fnv1aPrime.toNat = 16777619 from rfl]
    rw [List.foldl_cons, List.foldl_cons, ih, hashed]

def header (length : Fin (2 ^ 32)) : List UInt8 := lengthPrefix length.val.toUInt32

theorem header_eq (length : Fin (2 ^ 32)) : header length = LittleEndian.bytes 4 length.val := by
  have small := length.isLt
  have word : length.val.toUInt32.toNat = length.val := Nat.mod_eq_of_lt small
  simp only [header, lengthPrefix, LittleEndian.bytes, List.cons.injEq, and_true, ← UInt8.toNat_inj,
    UInt32.toNat_toUInt8, UInt32.toNat_shiftRight, UInt8.toNat_ofNat', word, Nat.div_div_eq_div_mul]
  simp [Nat.shiftRight_eq_div_pow]

theorem header_delimits : Delimits header := by
  refine of_width 4 ?_ ?_
  · intro length
    rfl
  · intro first second same
    rw [header_eq, header_eq] at same
    exact Fin.ext (LittleEndian.bytes_inj first.isLt second.isLt same)

def portBytes (port : UInt16) : List UInt8 := [port.toUInt8, (port >>> 8).toUInt8]

theorem portBytes_delimits : Delimits portBytes := by
  refine of_width 2 (fun _ => rfl) ?_
  intro first second same
  have small := first.toNat_lt
  have small' := second.toNat_lt
  simp only [portBytes, List.cons.injEq, and_true, ← UInt8.toNat_inj, UInt16.toNat_toUInt8,
    UInt16.toNat_shiftRight] at same
  simp only [UInt16.reduceToNat, Nat.reduceMod, Nat.shiftRight_eq_div_pow, Nat.reducePow] at same
  rw [← UInt16.toNat_inj]
  omega

def flagByte (flag : Bool) : List UInt8 := [if flag then 1 else 0]

theorem flagByte_delimits : Delimits flagByte := by
  refine of_width 1 (fun _ => rfl) ?_
  intro first second same
  cases first <;> cases second <;> first | rfl | cases same

def boundedText {max : Nat} (value : CharArray max) (room : max + 1 < 2 ^ 32) :
    Bounded UInt8 (2 ^ 32) :=
  ⟨text value, Nat.lt_of_le_of_lt (length_text_le value) room⟩

abbrev ConnectionSettings :=
  Bounded UInt8 (2 ^ 32) × UInt16 × Bool × Bounded UInt8 (2 ^ 32) × Bounded UInt8 (2 ^ 32) ×
    Bounded UInt8 (2 ^ 32) × Bounded UInt8 (2 ^ 32)

def connectionSettings (config : ProvisionConfig) : ConnectionSettings :=
  (boundedText config.mqttHost (by decide), config.mqttPort, config.mqttTls,
    boundedText config.mqttCa (by decide), boundedText config.mqttUsername (by decide),
    boundedText config.mqttPassword (by decide), boundedText config.mqttClientId (by decide))

def settingsBytes (settings : ConnectionSettings) : List UInt8 :=
  framed header settings.1 ++ (portBytes settings.2.1 ++ (flagByte settings.2.2.1 ++
    (framed header settings.2.2.2.1 ++ (framed header settings.2.2.2.2.1 ++
      (framed header settings.2.2.2.2.2.1 ++ framed header settings.2.2.2.2.2.2)))))

theorem settingsBytes_delimits : Delimits settingsBytes := by
  have framed_ := framed_delimits header_delimits
  have secrets := append framed_ (append framed_ framed_)
  have broker := append portBytes_delimits (append flagByte_delimits (append framed_ secrets))
  exact append framed_ broker

theorem fingerprintStream_eq (config : ProvisionConfig) :
    fingerprintStream config = settingsBytes (connectionSettings config) := by
  simp only [fingerprintStream, settingsBytes, connectionSettings, textBytes, framed, header,
    boundedText, portBytes, flagByte, List.append_assoc]
  rfl

/-- The fingerprint is the hash of the connection settings, told apart from any others, and
    never zero. -/
theorem fingerprint_covers_settings :
    (∀ a b : ProvisionConfig, fingerprintStream a = fingerprintStream b ↔
      text a.mqttHost = text b.mqttHost ∧ a.mqttPort = b.mqttPort ∧ a.mqttTls = b.mqttTls ∧
        text a.mqttCa = text b.mqttCa ∧ text a.mqttUsername = text b.mqttUsername ∧
        text a.mqttPassword = text b.mqttPassword ∧ text a.mqttClientId = text b.mqttClientId) ∧
    ∀ config : ProvisionConfig, (mqttFingerprint config).toNat =
      if fnv1a32 (fingerprintStream config) = 0 then 1 else fnv1a32 (fingerprintStream config) := by
  constructor
  · intro a b
    rw [fingerprintStream_eq, fingerprintStream_eq, (injective settingsBytes_delimits).eq_iff]
    simp only [connectionSettings, boundedText, Prod.mk.injEq, Subtype.mk.injEq]
  · intro config
    have hash : (fnv1a fnv1aOffset (fingerprintStream config)).toNat = fnv1a32 (fingerprintStream config) :=
      toNat_fnv1a _ _
    rw [mqttFingerprint_eq, ← hash]
    by_cases zero : fnv1a fnv1aOffset (fingerprintStream config) = 0
    · rw [if_pos zero, if_pos (by rw [zero]; rfl)]
      rfl
    · have nonzero : ¬ (fnv1a fnv1aOffset (fingerprintStream config)).toNat = 0 := by
        intro none_
        exact zero (UInt32.toNat_inj.mp none_)
      rw [if_neg zero, if_neg nonzero]

end ProvisionConfig
