import IosAncs.Foundation.BitwiseCrc
import IosAncs.Provision.Store

/-!
The bytes of a slot: the header of the blob with its checksum and the configuration as the
compiler lays it out. A blob that was written is read back as it was, and one that a burst of
errors went over is not taken for a blob. The source is `provision_store.c`.
-/
open CString LittleEndian ProvisionConfig

namespace SlotCodec

/-- One turn of the inner loop -/
def crc32Bit (crc : UInt32) : UInt32 :=
  let mask : UInt32 := 0 - (crc &&& 1)
  (crc >>> 1) ^^^ (0xEDB88320 &&& mask)

def crc32Byte (crc : UInt32) (byte : UInt8) : UInt32 := crc32Bit^[8] (crc ^^^ byte.toUInt32)

def crc32Update (crc : UInt32) (data : List UInt8) : UInt32 := ~~~(data.foldl crc32Byte (~~~crc))

/-- `provision_config_t` in memory. The byte before the port is left by the alignment. -/
def configBytes (config : ProvisionConfig) (padding : UInt8) : List UInt8 :=
  bytes 4 config.schemaVersion.toNat ++ (config.wifiSsid.toList ++ (config.wifiPassword.toList ++
    (config.mqttHost.toList ++ ([padding] ++ (bytes 2 config.mqttPort.toNat ++
      (config.mqttUsername.toList ++ (config.mqttPassword.toList ++
        ([if config.mqttTls then 1 else 0] ++ (config.mqttCa.toList ++
          (config.mqttClientId.toList ++ config.mqttBaseTopic.toList))))))))))

/-- `provision_store_slot_blob_t` in memory -/
def blobBytes (schemaVersion generation crc32 : UInt32) (config : ProvisionConfig)
    (padding : UInt8) : List UInt8 :=
  bytes 4 schemaVersion.toNat ++ (bytes 4 generation.toNat ++ (bytes 4 crc32.toNat ++
    configBytes config padding))

/-- `sizeof(provision_store_slot_blob_t)` -/
def blobSize : Nat := 4924

/-- `encode_blob`. What the byte of the alignment holds is left open. -/
def encodeBlob (config : ProvisionConfig) (generation : UInt32) (padding : UInt8) :
    Except EspErr (List UInt8) :=
  if validate config ≠ .ok then .error .invalidArg
  else
    let current := withCurrentSchema config
    let crc := crc32Update 0 (blobBytes currentSchemaVersion generation 0 current padding)
    .ok (blobBytes currentSchemaVersion generation crc current padding)

def member (data : List UInt8) (offset width : Nat) : List UInt8 := (data.drop offset).take width

def wordAt (data : List UInt8) (offset : Nat) : UInt32 := (value (member data offset 4)).toUInt32

def shortAt (data : List UInt8) (offset : Nat) : UInt16 := (value (member data offset 2)).toUInt16

def arrayAt (max : Nat) (data : List UInt8) (offset : Nat) : CharArray max :=
  ofText max (member data offset (max + 1))

/-- The fields of `provision_config_t` at their offsets -/
def configAt (data : List UInt8) : ProvisionConfig where
  schemaVersion := wordAt data 0
  wifiSsid := arrayAt 32 data 4
  wifiPassword := arrayAt 64 data 37
  mqttHost := arrayAt 128 data 102
  mqttPort := shortAt data 232
  mqttUsername := arrayAt 128 data 234
  mqttPassword := arrayAt 256 data 363
  mqttTls := member data 620 1 != [0]
  mqttCa := arrayAt 4096 data 621
  mqttClientId := arrayAt 64 data 4718
  mqttBaseTopic := arrayAt 128 data 4783

inductive DecodeErr where
  | invalidArg
  | invalidCrc
  | invalidVersion
deriving DecidableEq, Repr

def withoutCrc (data : List UInt8) : List UInt8 := data.take 8 ++ ([0, 0, 0, 0] ++ data.drop 12)

/-- `provision_store_decode`: its error, and what it leaves in its two outputs. The second one
    may be left out by the caller. -/
def decode (data : List UInt8) (out : ProvisionConfig) (generationOut : Option UInt32) :
    Option DecodeErr × ProvisionConfig × Option UInt32 :=
  if data.length ≠ blobSize then (some .invalidArg, out, generationOut)
  else
    let expectedCrc := wordAt data 8
    let blob := withoutCrc data
    let actualCrc := crc32Update 0 blob
    if actualCrc ≠ expectedCrc then (some .invalidCrc, out, generationOut)
    else
      let config := configAt (blob.drop 12)
      if wordAt blob 0 ≠ currentSchemaVersion ∨ config.schemaVersion ≠ currentSchemaVersion then
        (some .invalidVersion, out, generationOut)
      else if validate config ≠ .ok then (some .invalidArg, out, generationOut)
      else (none, config, generationOut.map fun _ => wordAt blob 4)

/-- The bits of a slot, the lowest of each byte first -/
def slotBit (slot : List UInt8) (bit : Nat) : Bool := (slot.getD (bit / 8) 0).toNat.testBit (bit % 8)

/-- An error that changes at least one of at most 32 consecutive bits and none besides them. The
    checksum has the bits from 64 to 96, and the window lies among these or apart from them. -/
structure Burst (slot changed : List UInt8) : Prop where
  length : changed.length = slot.length
  differs : changed ≠ slot
  window : ∃ first count, count ≤ 32 ∧
    (∀ bit, slotBit changed bit ≠ slotBit slot bit → first ≤ bit ∧ bit < first + count) ∧
    (first + count ≤ 64 ∨ 96 ≤ first ∨ 64 ≤ first ∧ first + count ≤ 96)

section
variable {data field rest : List UInt8} {offset width : Nat}

theorem member_eq (here : data.drop offset = field ++ rest) (wide : field.length = width) :
    member data offset width = field := by
  rw [member, here, ← wide, List.take_left]

theorem drop_next (next : Nat) (here : data.drop offset = field ++ rest)
    (wide : field.length = width) (sum : next = offset + width) : data.drop next = rest := by
  rw [sum, ← List.drop_drop, here, ← wide, List.drop_left]

theorem wordAt_eq {word : UInt32} (here : data.drop offset = bytes 4 word.toNat ++ rest) :
    wordAt data offset = word := by
  rw [wordAt, member_eq here (length_bytes _ _), value_bytes word.toNat_lt]
  exact UInt32.ofNat_toNat

theorem shortAt_eq {short : UInt16} (here : data.drop offset = bytes 2 short.toNat ++ rest) :
    shortAt data offset = short := by
  rw [shortAt, member_eq here (length_bytes _ _), value_bytes short.toNat_lt]
  exact UInt16.ofNat_toNat

theorem arrayAt_eq {max : Nat} {array : CharArray max} (here : data.drop offset = array.toList ++ rest) :
    arrayAt max data offset = array := by
  rw [arrayAt, member_eq here Vector.length_toList]
  apply Vector.ext
  intro i inside
  have listed : i < array.toList.length := by rwa [Vector.length_toList]
  rw [ofText, Vector.getElem_ofFn, List.getD_eq_getElem _ _ listed, Vector.getElem_toList]

end

theorem configAt_configBytes (config : ProvisionConfig) (padding : UInt8) :
    configAt (configBytes config padding) = config := by
  have schema : (configBytes config padding).drop 0 = bytes 4 config.schemaVersion.toNat ++ _ := rfl
  have ssid := drop_next 4 schema (length_bytes _ _) rfl
  have wifi := drop_next 37 ssid Vector.length_toList rfl
  have host := drop_next 102 wifi Vector.length_toList rfl
  have gap := drop_next 231 host Vector.length_toList rfl
  have port := drop_next 232 gap List.length_singleton rfl
  have user := drop_next 234 port (length_bytes _ _) rfl
  have password := drop_next 363 user Vector.length_toList rfl
  have tls := drop_next 620 password Vector.length_toList rfl
  have ca := drop_next 621 tls List.length_singleton rfl
  have client := drop_next 4718 ca Vector.length_toList rfl
  have topic := drop_next 4783 client Vector.length_toList rfl
  rw [← List.append_nil config.mqttBaseTopic.toList] at topic
  have flag : (member (configBytes config padding) 620 1 != [0]) = config.mqttTls := by
    rw [member_eq tls List.length_singleton]
    cases config.mqttTls <;> rfl
  simp only [configAt, wordAt_eq schema, arrayAt_eq ssid, arrayAt_eq wifi, arrayAt_eq host,
    shortAt_eq port, arrayAt_eq user, arrayAt_eq password, flag, arrayAt_eq ca, arrayAt_eq client,
    arrayAt_eq topic]

theorem length_configBytes (config : ProvisionConfig) (padding : UInt8) :
    (configBytes config padding).length = 4912 := by
  simp only [configBytes, List.length_append, length_bytes, Vector.length_toList,
    List.length_singleton]

theorem length_blobBytes (schema generation crc : UInt32) (config : ProvisionConfig)
    (padding : UInt8) : (blobBytes schema generation crc config padding).length = blobSize := by
  simp only [blobBytes, List.length_append, length_bytes, length_configBytes, blobSize]

section
variable (schema generation crc : UInt32) (config : ProvisionConfig) (padding : UInt8)

theorem blobBytes_members :
    wordAt (blobBytes schema generation crc config padding) 0 = schema ∧
      wordAt (blobBytes schema generation crc config padding) 4 = generation ∧
      wordAt (blobBytes schema generation crc config padding) 8 = crc ∧
      (blobBytes schema generation crc config padding).drop 12 = configBytes config padding := by
  have schema_ : (blobBytes schema generation crc config padding).drop 0 =
      bytes 4 schema.toNat ++ _ := rfl
  have generation_ := drop_next 4 schema_ (length_bytes _ _) rfl
  have crc_ := drop_next 8 generation_ (length_bytes _ _) rfl
  have config_ := drop_next 12 crc_ (length_bytes _ _) rfl
  exact ⟨wordAt_eq schema_, wordAt_eq generation_, wordAt_eq crc_, config_⟩

theorem withoutCrc_blobBytes : withoutCrc (blobBytes schema generation crc config padding) =
    blobBytes schema generation 0 config padding := by
  have front : blobBytes schema generation crc config padding =
      (bytes 4 schema.toNat ++ bytes 4 generation.toNat) ++
        (bytes 4 crc.toNat ++ configBytes config padding) := by
    simp only [blobBytes, List.append_assoc]
  have wide : (bytes 4 schema.toNat ++ bytes 4 generation.toNat).length = 8 := by
    rw [List.length_append, length_bytes, length_bytes]
  rw [withoutCrc, (blobBytes_members schema generation crc config padding).2.2.2, front,
    List.take_left' wide, blobBytes, List.append_assoc]
  rfl

end

theorem toNat_crc32Bit (crc : UInt32) :
    (crc32Bit crc).toNat = BitwiseCrc.step 0xEDB88320 crc.toNat := by
  have low : (crc &&& 1).toNat = crc.toNat % 2 := by
    rw [UInt32.toNat_and]
    exact Nat.and_one_is_mod _
  have shifted : (crc >>> 1).toNat = crc.toNat / 2 := by
    rw [UInt32.toNat_shiftRight]
    exact Nat.shiftRight_eq_div_pow _ 1
  have masked : (0xEDB88320 &&& (0 - (crc &&& 1))).toNat = crc.toNat % 2 * 0xEDB88320 := by
    rcases Nat.mod_two_eq_zero_or_one crc.toNat with even | odd
    · have zero : crc &&& 1 = 0 := UInt32.toNat_inj.mp (low.trans even)
      rw [even, zero]
      rfl
    · have one : crc &&& 1 = 1 := UInt32.toNat_inj.mp (low.trans odd)
      rw [odd, one]
      rfl
  show ((crc >>> 1) ^^^ (0xEDB88320 &&& (0 - (crc &&& 1)))).toNat = _
  rw [UInt32.toNat_xor, shifted, masked, BitwiseCrc.step]

theorem toNat_crc32Byte (crc : UInt32) (byte : UInt8) :
    (crc32Byte crc byte).toNat = BitwiseCrc.feedByte 0xEDB88320 crc.toNat byte := by
  have turns : ∀ count crc, (crc32Bit^[count] crc).toNat =
      (BitwiseCrc.step 0xEDB88320)^[count] crc.toNat := by
    intro count
    induction count with
    | zero => intro crc; rfl
    | succ count ih =>
        intro crc
        rw [Function.iterate_succ_apply, Function.iterate_succ_apply, ih, toNat_crc32Bit]
  rw [crc32Byte, turns, UInt32.toNat_xor, UInt8.toNat_toUInt32, BitwiseCrc.feedByte]

theorem toNat_crc32Bytes (crc : UInt32) (data : List UInt8) :
    (data.foldl crc32Byte crc).toNat = BitwiseCrc.feed 0xEDB88320 crc.toNat data := by
  induction data generalizing crc with
  | nil => rfl
  | cons byte rest ih =>
      rw [List.foldl_cons, ih, toNat_crc32Byte]
      rfl

theorem poly_reversible : BitwiseCrc.Reversible 32 0xEDB88320 := ⟨by decide, by decide, by decide⟩

theorem crc32Update_ne {data data' : List UInt8} (length : data.length = data'.length)
    (differ : data ≠ data') {first count : Nat} (narrow : count ≤ 32)
    (window : ∀ bit, slotBit data bit ≠ slotBit data' bit → first ≤ bit ∧ bit < first + count)
    (crc : UInt32) : crc32Update crc data ≠ crc32Update crc data' := by
  have values : ∀ bit, (value data).testBit bit ≠ (value data').testBit bit →
      first ≤ bit ∧ bit < first + count := by
    intro bit
    rw [testBit_value, testBit_value]
    exact window bit
  have apart := BitwiseCrc.feed_ne poly_reversible length differ narrow values (~~~crc).toNat
  intro same
  rw [crc32Update, crc32Update, UInt32.not_inj] at same
  rw [← toNat_crc32Bytes, ← toNat_crc32Bytes, same] at apart
  exact apart rfl

theorem eq_of_getD {data data' : List UInt8} (length : data.length = data'.length)
    (same : ∀ index, data.getD index 0 = data'.getD index 0) : data = data' := by
  apply List.ext_getElem length
  intro index inside inside'
  have byte := same index
  rwa [List.getD_eq_getElem _ _ inside, List.getD_eq_getElem _ _ inside'] at byte

theorem getD_member (data : List UInt8) (offset width index : Nat) :
    (member data offset width).getD index 0 =
      if index < width then data.getD (offset + index) 0 else 0 := by
  simp only [member, List.getD_eq_getElem?_getD, List.getElem?_take, List.getElem?_drop]
  split <;> rfl

theorem getD_withoutCrc {data : List UInt8} (long : 12 ≤ data.length) (index : Nat) :
    (withoutCrc data).getD index 0 =
      if 8 ≤ index ∧ index < 12 then 0 else data.getD index 0 := by
  have front : (data.take 8).length = 8 := by
    rw [List.length_take]
    omega
  by_cases before : index < 8
  · rw [withoutCrc, List.getD_append _ _ _ _ (by omega), if_neg (by omega)]
    simp only [List.getD_eq_getElem?_getD, List.getElem?_take, if_pos before]
  · rw [withoutCrc, List.getD_append_right _ _ _ _ (by omega), front]
    by_cases inside : index < 12
    · rw [List.getD_append _ _ _ _ (by simp; omega), if_pos ⟨by omega, inside⟩]
      have four : index - 8 = 0 ∨ index - 8 = 1 ∨ index - 8 = 2 ∨ index - 8 = 3 := by omega
      rcases four with place | place | place | place <;> rw [place] <;> rfl
    · have place : 12 + (index - 8 - [(0 : UInt8), 0, 0, 0].length) = index := by
        simp only [List.length_cons, List.length_nil]
        omega
      rw [List.getD_append_right _ _ _ _ (by simp; omega), if_neg (by omega)]
      simp only [List.getD_eq_getElem?_getD, List.getElem?_drop, place]

theorem length_withoutCrc {data : List UInt8} (long : 12 ≤ data.length) :
    (withoutCrc data).length = data.length := by
  simp only [withoutCrc, List.length_append, List.length_take, List.length_drop, List.length_cons,
    List.length_nil]
  omega

theorem member_inj {data data' : List UInt8} {offset : Nat} (long : offset + 4 ≤ data.length)
    (long' : offset + 4 ≤ data'.length) (same : wordAt data offset = wordAt data' offset) :
    member data offset 4 = member data' offset 4 := by
  have width (data : List UInt8) (long : offset + 4 ≤ data.length) :
      (member data offset 4).length = 4 := by
    rw [member, List.length_take, List.length_drop]
    omega
  have word (data : List UInt8) (long : offset + 4 ≤ data.length) :
      (wordAt data offset).toNat = value (member data offset 4) := by
    have small := value_lt (member data offset 4)
    rw [width data long] at small
    exact Nat.mod_eq_of_lt small
  have values : value (member data offset 4) = value (member data' offset 4) := by
    rw [← word data long, ← word data' long', same]
  rw [← bytes_value (member data offset 4), ← bytes_value (member data' offset 4),
    width data long, width data' long', values]

theorem byte_same {slot changed : List UInt8} {index : Nat}
    (agree : ∀ bit, bit / 8 = index → slotBit changed bit = slotBit slot bit) :
    changed.getD index 0 = slot.getD index 0 := by
  rw [← UInt8.toNat_inj]
  apply Nat.eq_of_testBit_eq
  intro bit
  by_cases inside : bit < 8
  · have bits := agree (8 * index + bit) (by omega)
    have place : (8 * index + bit) / 8 = index := by omega
    have rest : (8 * index + bit) % 8 = bit := by omega
    rwa [slotBit, slotBit, place, rest] at bits
  · have above (byte : UInt8) : byte.toNat.testBit bit = false := Nat.testBit_lt_two_pow
      (Nat.lt_of_lt_of_le byte.toNat_lt (Nat.pow_le_pow_right (by decide) (by omega)))
    rw [above, above]

section
variable {slot changed : List UInt8}

theorem burst_inside (burst : Burst slot changed) (long : 12 ≤ slot.length)
    (inside : ∀ bit, slotBit changed bit ≠ slotBit slot bit → 64 ≤ bit ∧ bit < 96) :
    withoutCrc changed = withoutCrc slot ∧ wordAt changed 8 ≠ wordAt slot 8 := by
  have long' : 12 ≤ changed.length := by rw [burst.length]; exact long
  have outside : ∀ index, ¬ (8 ≤ index ∧ index < 12) → changed.getD index 0 = slot.getD index 0 := by
    intro index apart
    apply byte_same
    intro bit place
    by_contra differs
    have bits := inside bit differs
    omega
  constructor
  · apply eq_of_getD (by rw [length_withoutCrc long, length_withoutCrc long', burst.length])
    intro index
    rw [getD_withoutCrc long, getD_withoutCrc long']
    split
    · rfl
    · next apart => exact outside index apart
  · intro same
    have members := member_inj long' long same
    apply burst.differs
    apply eq_of_getD burst.length
    intro index
    by_cases crc : 8 ≤ index ∧ index < 12
    · have byte := congrArg (fun member => member.getD (index - 8) 0) members
      have place : 8 + (index - 8) = index := by omega
      simpa only [getD_member, place, if_pos (show index - 8 < 4 by omega)] using byte
    · exact outside index crc

theorem burst_outside (burst : Burst slot changed) (long : 12 ≤ slot.length) {first count : Nat}
    (narrow : count ≤ 32)
    (window : ∀ bit, slotBit changed bit ≠ slotBit slot bit → first ≤ bit ∧ bit < first + count)
    (apart : first + count ≤ 64 ∨ 96 ≤ first) :
    wordAt changed 8 = wordAt slot 8 ∧
      crc32Update 0 (withoutCrc changed) ≠ crc32Update 0 (withoutCrc slot) := by
  have long' : 12 ≤ changed.length := by rw [burst.length]; exact long
  have kept : ∀ index, 8 ≤ index ∧ index < 12 → changed.getD index 0 = slot.getD index 0 := by
    intro index inside
    apply byte_same
    intro bit place
    by_contra differs
    have bits := window bit differs
    omega
  have window' : ∀ bit, slotBit (withoutCrc changed) bit ≠ slotBit (withoutCrc slot) bit →
      first ≤ bit ∧ bit < first + count := by
    intro bit differs
    apply window
    rw [slotBit, slotBit, getD_withoutCrc long, getD_withoutCrc long'] at differs
    split at differs
    · exact absurd rfl differs
    · exact differs
  constructor
  · have members : member changed 8 4 = member slot 8 4 := by
      apply eq_of_getD
      · rw [member, member, List.length_take, List.length_drop, List.length_take,
          List.length_drop, burst.length]
      · intro index
        rw [getD_member, getD_member]
        split
        · exact kept _ (by omega)
        · rfl
    rw [wordAt, wordAt, members]
  · refine crc32Update_ne ?_ ?_ narrow window' 0
    · rw [length_withoutCrc long, length_withoutCrc long', burst.length]
    · intro same
      apply burst.differs
      apply eq_of_getD burst.length
      intro index
      by_cases crc : 8 ≤ index ∧ index < 12
      · exact kept index crc
      · have byte := congrArg (fun data => data.getD index 0) same
        simpa only [getD_withoutCrc long, getD_withoutCrc long', if_neg crc] using byte

end

theorem decode_burst {slot changed : List UInt8} (whole : slot.length = blobSize)
    (intact : crc32Update 0 (withoutCrc slot) = wordAt slot 8) (burst : Burst slot changed)
    (out : ProvisionConfig) (generationOut : Option UInt32) :
    decode changed out generationOut = (some .invalidCrc, out, generationOut) := by
  have long : 12 ≤ slot.length := by rw [whole]; decide
  have whole' : ¬ changed.length ≠ blobSize := by rw [burst.length]; exact not_not_intro whole
  have caught : crc32Update 0 (withoutCrc changed) ≠ wordAt changed 8 := by
    obtain ⟨first, count, narrow, window, place⟩ := burst.window
    by_cases apart : first + count ≤ 64 ∨ 96 ≤ first
    · obtain ⟨kept, differs⟩ := burst_outside burst long narrow window apart
      rw [kept, ← intact]
      exact differs
    · have inside : ∀ bit, slotBit changed bit ≠ slotBit slot bit → 64 ≤ bit ∧ bit < 96 := by
        intro bit differs
        have bits := window bit differs
        omega
      obtain ⟨same, differs⟩ := burst_inside burst long inside
      rw [same, intact]
      exact differs.symm
  rw [decode, if_neg whole']
  exact if_pos caught

section
variable (config : ProvisionConfig) (generation : UInt32) (padding : UInt8)

def encoded : List UInt8 :=
  blobBytes currentSchemaVersion generation
    (crc32Update 0 (blobBytes currentSchemaVersion generation 0 (withCurrentSchema config) padding))
    (withCurrentSchema config) padding

theorem encodeBlob_eq (valid : validate config = .ok) :
    encodeBlob config generation padding = .ok (encoded config generation padding) :=
  if_neg (not_not_intro valid)

theorem encoded_intact : crc32Update 0 (withoutCrc (encoded config generation padding)) =
    wordAt (encoded config generation padding) 8 := by
  rw [encoded, withoutCrc_blobBytes, (blobBytes_members _ _ _ _ _).2.2.1]

theorem decode_encoded (valid : validate config = .ok) (out : ProvisionConfig)
    (generationOut : Option UInt32) : decode (encoded config generation padding) out generationOut =
      (none, withCurrentSchema config, generationOut.map fun _ => generation) := by
  have whole : ¬ (encoded config generation padding).length ≠ blobSize :=
    not_not_intro (length_blobBytes _ _ _ _ _)
  have intact := encoded_intact config generation padding
  have plain : withoutCrc (encoded config generation padding) =
      blobBytes currentSchemaVersion generation 0 (withCurrentSchema config) padding :=
    withoutCrc_blobBytes _ _ _ _ _
  obtain ⟨schema, gen, -, fields⟩ :=
    blobBytes_members currentSchemaVersion generation 0 (withCurrentSchema config) padding
  have current : (withCurrentSchema config).schemaVersion = currentSchemaVersion := rfl
  rw [decode, if_neg whole]
  simp only [← intact, ne_eq, not_true_eq_false, if_false, plain, schema, gen, fields,
    configAt_configBytes, current, or_self, validate_withCurrentSchema valid]

end

/-- What the store keeps as an intact blob is what the bytes of the slot decode to. -/
theorem decode_stored {config : ProvisionConfig} {generation : UInt32} {blob : SlotBlob}
    (stored : ProvisionStore.encodeBlob config generation = .ok blob) (padding : UInt8)
    (out : ProvisionConfig) (generationOut : UInt32) :
    encodeBlob config generation padding = .ok (encoded config generation padding) ∧
      decode (encoded config generation padding) out (some generationOut) =
        (none, blob.config, some blob.generation) := by
  have valid : validate config = .ok := by
    by_contra invalid
    simp [ProvisionStore.encodeBlob, invalid] at stored
  obtain ⟨same, same'⟩ := ProvisionStore.encodeBlob_ok stored
  refine ⟨encodeBlob_eq config generation padding valid, ?_⟩
  rw [decode_encoded config generation padding valid, same, same']
  rfl

/-- A configuration that passes its check is read back with its generation, and no burst makes
    another one of it. -/
theorem slot_round_trip (config : ProvisionConfig) (generation : UInt32) (padding : UInt8)
    (valid : validate config = .ok) :
    ∃ slot, encodeBlob config generation padding = .ok slot ∧
      (∀ out generationOut, decode slot out generationOut =
        (none, withCurrentSchema config, generationOut.map fun _ => generation)) ∧
      ∀ changed, Burst slot changed → ∀ out generationOut,
        decode changed out generationOut = (some .invalidCrc, out, generationOut) := by
  refine ⟨encoded config generation padding, encodeBlob_eq config generation padding valid, ?_, ?_⟩
  · exact decode_encoded config generation padding valid
  · intro changed burst
    exact decode_burst (length_blobBytes _ _ _ _ _) (encoded_intact config generation padding) burst

theorem sample_round_trip : ∃ slot, encodeBlob (sample 1883) 7 0 = .ok slot ∧
    (∀ out generationOut, decode slot out generationOut =
      (none, withCurrentSchema (sample 1883), generationOut.map fun _ => 7)) ∧
    ∀ changed, Burst slot changed → ∀ out generationOut,
      decode changed out generationOut = (some .invalidCrc, out, generationOut) :=
  slot_round_trip (sample 1883) 7 0 (sample_valid (by decide))

end SlotCodec
