import IosAncs.Relay.StatePayload

/-!
The discovery messages as the relay prints them into one buffer of its worker. Each repeats the
client id and, escaped, the base topic; whether all of them fit is decided by the one that
repeats them most. The source is `mqtt_relay.c`.
-/
open CString JsonWriters MqttRelay StatePayload

/-- `mqtt_relay_discovery_field_t` -/
structure DiscoveryField where
  key : CText
  name : CText
  valueTemplate : CText

namespace DiscoveryPayloads

def discoveryPayloadMax : Nat := 1536

/-- The text that a pointer to these bytes is read as. -/
def pointed (bytes : List UInt8) : CText where
  bytes := bytes.takeWhile (· != 0)
  nonzero := by
    intro zero
    exact absurd (List.mem_takeWhile_imp zero) (by decide)

/-- The bytes of a literal of the source, which is in UTF-8. -/
@[irreducible] def sourceBytes (s : String) : List UInt8 := s.toByteArray.data.toList

def sourceText (s : String) : CText := pointed (sourceBytes s)

def focusedSensors : List DiscoveryField :=
  [{ key := sourceText "notification_title"
     name := sourceText "알림 제목"
     valueTemplate :=
      sourceText "\x7b\x7b (value_json.title | default('', true))[:255] \x7d\x7d" },
    { key := sourceText "notification_message"
      name := sourceText "알림 내용"
      valueTemplate :=
        sourceText "\x7b\x7b (value_json.message | default('', true))[:255] \x7d\x7d" },
    { key := sourceText "app_name"
      name := sourceText "앱 이름"
      valueTemplate := sourceText
        "\x7b\x7b (value_json.app_name | default(value_json.app_id, true))[:255] \x7d\x7d" }]

/-- `snprintf` of an id that is made of these texts. -/
def printId (parts : List CText) (outSize : Nat) : Except JsonError CText :=
  let id := pointed (parts.flatMap CText.bytes)
  if outSize ≤ id.bytes.length then .error .invalidSize else .ok id

/-- `snprintf` of a literal at the cursor -/
def print (s : String) : PrintCall := .print (sourceBytes s)

/-- `json_write_literal` -/
def write (s : String) : PrintCall := .literal (sourceBytes s)

/-- The calls of `append_device_json`. -/
def deviceCalls (config : ProvisionConfig) (device : MqttRelayDeviceInfo) : List PrintCall :=
  [write ",\"device\":\x7b\"identifiers\":[", .string (fieldText config.mqttClientId),
    write "],\"name\":", .string (fieldText config.mqttClientId),
    write ",\"manufacturer\":", .string (fieldText device.manufacturer),
    write ",\"model\":", .string (fieldText device.model),
    write ",\"sw_version\":", .string (fieldText device.swVersion),
    write ",\"hw_version\":", .string (fieldText device.hwVersion), write "\x7d"]

def appendDeviceJson (cursor : JsonCursor) (config : ProvisionConfig)
    (device : MqttRelayDeviceInfo) : Except JsonError JsonCursor :=
  if !discoveryIdIsSafe (text config.mqttClientId) || !deviceInfoIsValid device then
    .error .invalidArg
  else (deviceCalls config device).foldlM PrintCall.run cursor

/-- What the builders have in common: the checks of their arguments, the device behind the
    entity and the end of the message. -/
def buildEntity (config : ProvisionConfig) (device : MqttRelayDeviceInfo)
    (topic availabilityTopic : List UInt8) (outSize : Nat) (entity : Except JsonError (List PrintCall))
    (last : PrintCall) : Except JsonError (List UInt8) :=
  if !discoveryIdIsSafe (text config.mqttClientId) || !deviceInfoIsValid device ||
      topicHasPublishWildcard (pointed topic).bytes ||
      topicHasPublishWildcard (pointed availabilityTopic).bytes || outSize == 0 then
    .error .invalidArg
  else do
    let calls ← entity
    let cursor ← calls.foldlM PrintCall.run { written := [], remaining := outSize }
    let cursor ← appendDeviceJson cursor config device
    let cursor ← last.run cursor
    .ok cursor.written

section
variable (uniqueId topic availabilityTopic : CText)

def discoveryCalls : List PrintCall :=
  [print "\x7b\"name\":", .string (sourceText "최근 알림"),
    print ",\"unique_id\":", .string uniqueId, print ",\"object_id\":", .string uniqueId,
    print ",\"state_topic\":", .string topic,
    print (",\"value_template\":\"\x7b\x7b value_json.relay_id \x7d\x7d\"" ++
      ",\"json_attributes_topic\":"), .string topic,
    print ",\"availability_topic\":", .string availabilityTopic,
    print ",\"payload_available\":\"online\",\"payload_not_available\":\"offline\""]

def focusedCalls (field : DiscoveryField) : List PrintCall :=
  [print "\x7b\"name\":", .string field.name,
    print ",\"unique_id\":", .string uniqueId, print ",\"object_id\":", .string uniqueId,
    print ",\"state_topic\":", .string topic,
    print ",\"value_template\":", .string field.valueTemplate,
    print ",\"availability_topic\":", .string availabilityTopic,
    print ",\"payload_available\":\"online\",\"payload_not_available\":\"offline\""]

def statusCalls : List PrintCall :=
  [write "\x7b\"name\":", .string (sourceText "장치 상태"),
    write ",\"unique_id\":", .string uniqueId, write ",\"object_id\":", .string uniqueId,
    write ",\"state_topic\":", .string topic,
    write (",\"value_template\":\"\x7b\x7b 'ON' if value_json.ready else 'OFF' \x7d\x7d\"" ++
      ",\"json_attributes_topic\":"), .string topic,
    write ",\"availability_topic\":", .string availabilityTopic,
    write (",\"payload_available\":\"online\",\"payload_not_available\":\"offline\"" ++
      ",\"device_class\":\"connectivity\",\"entity_category\":\"diagnostic\"")]

/-- A button. The two of them differ in their texts, and in how they write what is no text. -/
def buttonCalls (literal : String → PrintCall) (name press appearance : String)
    (defaultEntityId : CText) : List PrintCall :=
  [literal "\x7b\"name\":", .string (sourceText name),
    literal ",\"unique_id\":", .string uniqueId,
    literal ",\"default_entity_id\":", .string defaultEntityId,
    literal ",\"command_topic\":", .string topic,
    literal press, .string availabilityTopic, literal appearance]

def enrollCalls : CText → List PrintCall :=
  buttonCalls uniqueId topic availabilityTopic print "iPhone 등록 시작"
    ",\"payload_press\":\"ENROLL\",\"availability_topic\":"
    (",\"payload_available\":\"online\",\"payload_not_available\":\"offline\"" ++
      ",\"qos\":1,\"retain\":false,\"entity_category\":\"config\"" ++
      ",\"icon\":\"mdi:bluetooth-connect\"")

def restartCalls : CText → List PrintCall :=
  buttonCalls uniqueId topic availabilityTopic write "장치 재시작"
    ",\"payload_press\":\"RESTART\",\"availability_topic\":"
    (",\"payload_available\":\"online\",\"payload_not_available\":\"offline\"" ++
      ",\"qos\":1,\"retain\":false,\"entity_category\":\"config\"" ++
      ",\"icon\":\"mdi:restart\"")

end

section
variable (config : ProvisionConfig) (device : MqttRelayDeviceInfo)
  (topic availabilityTopic : List UInt8) (outSize : Nat)

def buildDiscoveryPayload : Except JsonError (List UInt8) :=
  buildEntity config device topic availabilityTopic outSize (do
    let uniqueId ← printId [fieldText config.mqttClientId, sourceText "_last_notification"] (64 + 32)
    .ok (discoveryCalls uniqueId (pointed topic) (pointed availabilityTopic))) (print "\x7d")

def buildFocusedDiscoveryPayload (fieldIndex : Nat) : Except JsonError (List UInt8) :=
  match focusedSensors[fieldIndex]? with
  | none => .error .invalidArg
  | some field =>
    buildEntity config device topic availabilityTopic outSize (do
      let uniqueId ← printId [fieldText config.mqttClientId, sourceText "_", field.key] (64 + 32)
      .ok (focusedCalls uniqueId (pointed topic) (pointed availabilityTopic) field)) (print "\x7d")

def buildStatusDiscoveryPayload : Except JsonError (List UInt8) :=
  buildEntity config device topic availabilityTopic outSize (do
    let uniqueId ← printId [fieldText config.mqttClientId, sourceText "_device_status"] (64 + 32)
    .ok (statusCalls uniqueId (pointed topic) (pointed availabilityTopic))) (write "\x7d")

def buildEnrollDiscoveryPayload : Except JsonError (List UInt8) :=
  buildEntity config device topic availabilityTopic outSize (do
    let uniqueId ← printId [fieldText config.mqttClientId, sourceText "_enroll"] (64 + 16)
    let defaultEntityId ← printId [sourceText "button.", uniqueId] (64 + 24)
    .ok (enrollCalls uniqueId (pointed topic) (pointed availabilityTopic) defaultEntityId))
    (print "\x7d")

def buildRestartDiscoveryPayload : Except JsonError (List UInt8) :=
  buildEntity config device topic availabilityTopic outSize (do
    let uniqueId ← printId [fieldText config.mqttClientId, sourceText "_restart"] (64 + 16)
    let defaultEntityId ← printId [sourceText "button.", uniqueId] (64 + 24)
    .ok (restartCalls uniqueId (pointed topic) (pointed availabilityTopic) defaultEntityId))
    (write "\x7d")

end

/-- What the worker has built, in its order. -/
def discoveryPayloads (config : ProvisionConfig) (device : MqttRelayDeviceInfo)
    (topics : RelayTopics) : List (Except JsonError (List UInt8)) :=
  [buildDiscoveryPayload config device topics.notification topics.availability discoveryPayloadMax] ++
  (List.range focusedSensors.length).map (buildFocusedDiscoveryPayload config device
    topics.notification topics.availability discoveryPayloadMax) ++
  [buildStatusDiscoveryPayload config device topics.state topics.availability discoveryPayloadMax,
    buildEnrollDiscoveryPayload config device topics.enrollCommand topics.availability
      discoveryPayloadMax,
    buildRestartDiscoveryPayload config device topics.restartCommand topics.availability
      discoveryPayloadMax]

def DiscoveryFits (config : ProvisionConfig) (device : MqttRelayDeviceInfo) : Prop :=
  ∃ topics, buildAllTopics config = .ok topics ∧
    ∀ payload ∈ discoveryPayloads config device topics, ∃ bytes, payload = .ok bytes

def escapedSize (byte : UInt8) : Nat :=
  if byte ∈ [0x22, 0x5C, 0x08, 0x0C, 0x0A, 0x0D, 0x09] then 2 else if byte < 0x20 then 6 else 1

def escapedLength (bytes : List UInt8) : Nat := (bytes.map escapedSize).sum

def deviceLength (device : MqttRelayDeviceInfo) : Nat :=
  (text device.manufacturer).length + (text device.model).length +
    (text device.swVersion).length + (text device.hwVersion).length

structure PlainDevice (device : MqttRelayDeviceInfo) : Prop where
  manufacturer : Unescaped (text device.manufacturer)
  model : Unescaped (text device.model)
  swVersion : Unescaped (text device.swVersion)
  hwVersion : Unescaped (text device.hwVersion)

/-- What stands between two cursors, of which the second has room for the terminator. -/
structure Prints (cursor cursor' : JsonCursor) (bytes : List UInt8) : Prop where
  room : cursor.remaining = bytes.length + cursor'.remaining
  left : 0 < cursor'.remaining

theorem Prints.trans {first second third : JsonCursor} {bytes bytes' : List UInt8}
    (prints : Prints first second bytes) (prints' : Prints second third bytes') :
    Prints first third (bytes ++ bytes') where
  room := by rw [prints.room, prints'.room, List.length_append, Nat.add_assoc]
  left := prints'.left

theorem put_prints {cursor cursor' : JsonCursor} {bytes : List UInt8}
    (put : cursor.put bytes = .ok cursor') : Prints cursor cursor' bytes := by
  unfold JsonCursor.put at put
  split at put
  · cases put
  · next room =>
    cases put
    exact ⟨by dsimp only; omega, by dsimp only; omega⟩

theorem bind_ok {ε α β : Type} {action : Except ε α} {next : α → Except ε β} {result : β}
    (ok : action.bind next = .ok result) : ∃ middle, action = .ok middle ∧ next middle = .ok result := by
  cases action with
  | error e => cases ok
  | ok middle => exact ⟨middle, rfl, ok⟩

theorem foldlM_prints {α : Type} {run : JsonCursor → α → Except JsonError JsonCursor}
    {bytes : α → List UInt8}
    (each : ∀ {cursor cursor'} call, run cursor call = .ok cursor' → Prints cursor cursor' (bytes call))
    {calls : List α} {cursor cursor' : JsonCursor} (some_ : 0 < cursor.remaining)
    (ran : calls.foldlM run cursor = .ok cursor') : Prints cursor cursor' (calls.flatMap bytes) := by
  induction calls generalizing cursor with
  | nil =>
    cases ran
    exact ⟨by simp, some_⟩
  | cons call rest ih =>
    obtain ⟨middle, first, others⟩ := bind_ok ran
    have step := each call first
    rw [List.flatMap_cons]
    exact step.trans (ih step.left others)

theorem string_prints {cursor cursor' : JsonCursor} {text : CText}
    (ran : jsonWriteString cursor text = .ok cursor') :
    Prints cursor cursor' (PrintCall.string text).bytes := by
  unfold jsonWriteString at ran
  split at ran
  · cases ran
  · obtain ⟨opened, first, others⟩ := bind_ok ran
    obtain ⟨looped, second, closed⟩ := bind_ok others
    have head := put_prints first
    have each {cursor cursor' : JsonCursor} (byte : UInt8)
        (put : cursor.put (jsonEscape byte) = .ok cursor') :
        Prints cursor cursor' (jsonEscape byte) := put_prints put
    have body := foldlM_prints each head.left second
    exact (head.trans body).trans (put_prints closed)

theorem run_prints {cursor cursor' : JsonCursor} (call : PrintCall)
    (ran : call.run cursor = .ok cursor') : Prints cursor cursor' call.bytes := by
  cases call with
  | print bytes => exact put_prints ran
  | literal bytes =>
    by_cases empty : cursor.remaining = 0
    · rw [PrintCall.run, if_pos empty] at ran
      cases ran
    · rw [PrintCall.run, if_neg empty] at ran
      exact put_prints ran
  | string text => exact string_prints ran

/-- Calls succeed together if and only if what they print leaves room for the terminator. -/
theorem calls_ok_iff (calls : List PrintCall) {cursor : JsonCursor} (some_ : 0 < cursor.remaining) :
    (∃ cursor', calls.foldlM PrintCall.run cursor = .ok cursor') ↔
      (calls.flatMap PrintCall.bytes).length < cursor.remaining := by
  constructor
  · rintro ⟨cursor', ran⟩
    have prints := foldlM_prints run_prints some_ ran
    have left := prints.left
    rw [prints.room]
    omega
  · intro room
    exact ⟨_, calls_fit calls cursor room⟩

section
variable {config : ProvisionConfig} {device : MqttRelayDeviceInfo}

theorem appendDeviceJson_eq (safe : discoveryIdIsSafe (text config.mqttClientId) = true)
    (known : deviceInfoIsValid device = true) (cursor : JsonCursor) :
    appendDeviceJson cursor config device =
      (deviceCalls config device).foldlM PrintCall.run cursor := by
  rw [appendDeviceJson, safe, known]
  rfl

theorem buildEntity_ok_iff (safe : discoveryIdIsSafe (text config.mqttClientId) = true)
    (known : deviceInfoIsValid device = true) {topic availabilityTopic : List UInt8}
    (plain : topicHasPublishWildcard (pointed topic).bytes = false)
    (plain' : topicHasPublishWildcard (pointed availabilityTopic).bytes = false) {outSize : Nat}
    (some_ : 0 < outSize) (calls : List PrintCall) (last : PrintCall) :
    (∃ payload, buildEntity config device topic availabilityTopic outSize (.ok calls) last =
        .ok payload) ↔
      ((calls ++ (deviceCalls config device ++ [last])).flatMap
        PrintCall.bytes).length < outSize := by
  have checked : ¬ (!discoveryIdIsSafe (text config.mqttClientId) || !deviceInfoIsValid device ||
      topicHasPublishWildcard (pointed topic).bytes ||
      topicHasPublishWildcard (pointed availabilityTopic).bytes || outSize == 0) = true := by
    simp [safe, known, plain, plain', Nat.ne_of_gt some_]
  have printed : buildEntity config device topic availabilityTopic outSize (.ok calls) last =
      (calls ++ (deviceCalls config device ++ [last])).foldlM PrintCall.run
        { written := [], remaining := outSize } >>= fun cursor => .ok cursor.written := by
    rw [buildEntity, if_neg checked]
    simp only [List.foldlM_append, appendDeviceJson_eq safe known, List.foldlM_cons,
      List.foldlM_nil, bind_assoc]
    rfl
  rw [printed, ← calls_ok_iff _ (show 0 < JsonCursor.remaining ⟨[], outSize⟩ from some_)]
  constructor
  · rintro ⟨payload, ok⟩
    obtain ⟨cursor, ran, -⟩ := bind_ok ok
    exact ⟨cursor, ran⟩
  · rintro ⟨cursor, ran⟩
    exact ⟨cursor.written, by rw [ran]; rfl⟩

end

theorem length_escape (byte : UInt8) : (jsonEscape byte).length = escapedSize byte := by
  have all : ∀ n < 256, (jsonEscape (UInt8.ofNat n)).length = escapedSize (UInt8.ofNat n) := by
    decide +kernel
  have each := all byte.toNat byte.toNat_lt
  rwa [UInt8.ofNat_toNat] at each

theorem length_string_call (text : CText) :
    (PrintCall.string text).bytes.length = escapedLength text.bytes + 2 := by
  have quote_ : quote.length = 1 := by decide
  have escaped : (text.bytes.flatMap jsonEscape).length = escapedLength text.bytes := by
    rw [List.length_flatMap, escapedLength]
    simp only [length_escape]
  rw [PrintCall.bytes, List.length_append, List.length_append, quote_, escaped]
  omega

theorem escapedLength_append (first second : List UInt8) :
    escapedLength (first ++ second) = escapedLength first + escapedLength second := by
  rw [escapedLength, List.map_append, List.sum_append]
  rfl

theorem escapedLength_plain {bytes : List UInt8} (plain : Unescaped bytes) :
    escapedLength bytes = bytes.length := by
  induction bytes with
  | nil => rfl
  | cons byte rest ih =>
    obtain ⟨first, later⟩ := List.forall_mem_cons.mp plain
    have one : escapedSize byte = 1 := by
      rw [← length_escape, jsonEscape_unescaped first]
      rfl
    rw [escapedLength, List.map_cons, List.sum_cons, one, List.length_cons, Nat.add_comm]
    exact congrArg (· + 1) (ih later)

theorem pointed_eq {bytes : List UInt8} (nonzero : (0 : UInt8) ∉ bytes) :
    (pointed bytes).bytes = bytes := by
  apply List.takeWhile_eq_self_iff.mpr
  intro byte mem
  exact bne_iff_ne.mpr (ne_of_mem_of_not_mem mem nonzero)

theorem plain_id {id : List UInt8} (safe : discoveryIdIsSafe id = true) : Unescaped id := by
  intro byte mem
  simp only [discoveryIdIsSafe, Bool.and_eq_true] at safe
  have each := List.all_eq_true.mp safe.2 byte mem
  simp only [isalnum, Bool.or_eq_true, Bool.and_eq_true, decide_eq_true_eq, beq_iff_eq,
    UInt8.le_iff_toNat_le, ← UInt8.toNat_inj, UInt8.reduceToNat] at each
  simp only [ne_eq, UInt8.le_iff_toNat_le, ← UInt8.toNat_inj, UInt8.reduceToNat]
  omega

section
variable {config : ProvisionConfig}

theorem appendTopic_fits {base suffix : List UInt8} (some_ : base ≠ [])
    (plain : topicHasPublishWildcard base = false) (short : base.length ≤ 129)
    (room : suffix.length ≤ 15) : appendTopic base suffix topicMax = .ok (base ++ 47 :: suffix) := by
  rw [appendTopic, plain]
  simp only [some_, decide_false, Bool.or_false, Bool.false_eq_true, ↓reduceIte]
  apply printed_fits
  simp only [topicMax, List.length_append, List.length_cons]
  omega

theorem appendTopic_ok {base suffix topic : List UInt8} {outSize : Nat}
    (appended : appendTopic base suffix outSize = .ok topic) :
    base ≠ [] ∧ topicHasPublishWildcard base = false := by
  unfold appendTopic at appended
  split at appended
  · cases appended
  · next checked => simpa using checked

theorem topics_of_built {names : List UInt8 × List UInt8 × List UInt8 × List UInt8}
    (built : buildTopics config = .ok names) :
    buildAllTopics config = .ok (topicsOf config) ∧
      discoveryIdIsSafe (text config.mqttClientId) = true ∧
      topicHasPublishWildcard (text config.mqttBaseTopic) = false := by
  cases safe : discoveryIdIsSafe (text config.mqttClientId) with
  | false =>
    rw [buildTopics, safe] at built
    cases built
  | true =>
    have checks : text config.mqttBaseTopic ≠ [] ∧
        topicHasPublishWildcard (text config.mqttBaseTopic) = false := by
      cases first : appendTopic (text config.mqttBaseTopic) (ascii "notification") topicMax with
      | error e =>
        rw [buildTopics, safe, first] at built
        cases built
      | ok topic => exact appendTopic_ok first
    have idShort : (text config.mqttClientId).length ≤ 65 := length_text_le _
    have base (suffix : List UInt8) (room : suffix.length ≤ 15) :=
      appendTopic_fits checks.1 checks.2 (length_text_le config.mqttBaseTopic) room
    have button (suffix : List UInt8) (room : suffix.length ≤ 34) :
        discoveryTopic (ascii "button") (text config.mqttClientId) suffix =
          .ok (ascii "homeassistant/" ++ ascii "button" ++ 47 :: text config.mqttClientId ++
            47 :: suffix) := by
      have head : (ascii "homeassistant/").length = 14 ∧ (ascii "button").length = 6 := by decide
      rw [discoveryTopic, safe]
      apply printed_fits
      simp only [discoveryTopicMax, List.length_append, List.length_cons, head]
      omega
    have discovery : printed (ascii "homeassistant/sensor/" ++ text config.mqttClientId ++
        ascii "/last_notification/config") discoveryTopicMax =
          .ok (topicsOf config).discovery := by
      have head : (ascii "homeassistant/sensor/").length = 21 := by decide
      have tail : (ascii "/last_notification/config").length = 25 := by decide
      apply printed_fits
      simp only [discoveryTopicMax, List.length_append, head, tail]
      omega
    refine ⟨?_, rfl, checks.2⟩
    simp only [buildAllTopics, buildTopics, safe, Bool.not_true, Bool.false_eq_true, ↓reduceIte,
      base (ascii "notification") (by decide), base (ascii "availability") (by decide),
      base (ascii "state") (by decide), discovery, buildEnrollCommandTopic,
      buildEnrollDiscoveryTopic, buildRestartCommandTopic, buildRestartDiscoveryTopic,
      base (ascii "command/enroll") (by decide), base (ascii "command/restart") (by decide),
      button (ascii "enroll/config") (by decide), button (ascii "restart/config") (by decide)]
    rfl

end

def size (calls : List PrintCall) : Nat := (calls.flatMap PrintCall.bytes).length

def fixedSize : PrintCall → Nat
  | .print bytes => bytes.length
  | .literal bytes => bytes.length
  | .string _ => 2

def textSize : PrintCall → Nat
  | .string text => escapedLength text.bytes
  | _ => 0

@[simp] theorem textSize_print (s : String) : textSize (print s) = 0 := rfl
@[simp] theorem textSize_write (s : String) : textSize (write s) = 0 := rfl
@[simp] theorem textSize_string (text : CText) :
    textSize (.string text) = escapedLength text.bytes := rfl

theorem size_eq (calls : List PrintCall) :
    size calls = (calls.map fixedSize).sum + (calls.map textSize).sum := by
  induction calls with
  | nil => rfl
  | cons call rest ih =>
    have first : call.bytes.length = fixedSize call + textSize call := by
      cases call with
      | string text => exact (length_string_call text).trans (Nat.add_comm _ _)
      | _ => rfl
    rw [size, List.flatMap_cons, List.length_append, first, List.map_cons, List.map_cons,
      List.sum_cons, List.sum_cons]
    rw [size] at ih
    omega

theorem size_names : escapedLength (sourceText "최근 알림").bytes = 13 ∧
    escapedLength (sourceText "장치 상태").bytes = 13 ∧
    escapedLength (sourceText "iPhone 등록 시작").bytes = 20 ∧
    escapedLength (sourceText "장치 재시작").bytes = 16 := by decide +kernel

inductive DiscoveryBuilder where
  | discovery
  | focused (field : DiscoveryField)
  | status
  | enroll (defaultEntityId : CText)
  | restart (defaultEntityId : CText)

namespace DiscoveryBuilder

def calls (uniqueId topic availabilityTopic : CText) : DiscoveryBuilder → List PrintCall
  | .discovery => discoveryCalls uniqueId topic availabilityTopic
  | .focused field => focusedCalls uniqueId topic availabilityTopic field
  | .status => statusCalls uniqueId topic availabilityTopic
  | .enroll defaultEntityId => enrollCalls uniqueId topic availabilityTopic defaultEntityId
  | .restart defaultEntityId => restartCalls uniqueId topic availabilityTopic defaultEntityId

def fixed : DiscoveryBuilder → Nat
  | .discovery => 216
  | .focused _ => 164
  | .status => 293
  | .enroll _ => 260
  | .restart _ => 251

def own : DiscoveryBuilder → Nat
  | .discovery => 229
  | .focused field => 164 + escapedLength field.name.bytes + escapedLength field.valueTemplate.bytes
  | .status => 306
  | .enroll defaultEntityId => 280 + escapedLength defaultEntityId.bytes
  | .restart defaultEntityId => 267 + escapedLength defaultEntityId.bytes

def ids : DiscoveryBuilder → Nat
  | .discovery | .focused _ | .status => 2
  | .enroll _ | .restart _ => 1

def topics : DiscoveryBuilder → Nat
  | .discovery | .status => 2
  | .focused _ | .enroll _ | .restart _ => 1

end DiscoveryBuilder

theorem fixed_calls (uniqueId topic availabilityTopic : CText) (builder : DiscoveryBuilder) :
    ((builder.calls uniqueId topic availabilityTopic).map fixedSize).sum = builder.fixed := by
  -- no text counts, so that it is enough to look at empty ones
  have emptied : ∀ builder ∈ [.discovery, .focused ⟨emptyText, emptyText, emptyText⟩, .status,
      .enroll emptyText, .restart emptyText],
      ((DiscoveryBuilder.calls emptyText emptyText emptyText builder).map fixedSize).sum =
        builder.fixed := by
    decide +kernel
  cases builder with
  | discovery => exact emptied .discovery (by simp)
  | focused field => exact emptied (.focused ⟨emptyText, emptyText, emptyText⟩) (by simp)
  | status => exact emptied .status (by simp)
  | enroll defaultEntityId => exact emptied (.enroll emptyText) (by simp)
  | restart defaultEntityId => exact emptied (.restart emptyText) (by simp)

theorem length_closing : (print "\x7d").bytes.length = 1 ∧ (write "\x7d").bytes.length = 1 := by
  decide +kernel

def idTexts : List (String × Nat) :=
  [("_last_notification", 18), ("_device_status", 14), ("_enroll", 7), ("_restart", 8),
    ("button.", 7)]

theorem plain_idText {s : String} {length : Nat} (listed : (s, length) ∈ idTexts) :
    Unescaped (sourceText s).bytes ∧ (sourceText s).bytes.length = length := by
  have all : ∀ entry ∈ idTexts,
      Unescaped (sourceText entry.1).bytes ∧ (sourceText entry.1).bytes.length = entry.2 := by
    decide +kernel
  exact all (s, length) listed

def topicSuffixes : List (List UInt8 × Nat) :=
  [(ascii "notification", 13), (ascii "availability", 13), (ascii "state", 6),
    (ascii "command/enroll", 15), (ascii "command/restart", 16)]

theorem availability_listed : (ascii "availability", 13) ∈ topicSuffixes := by
  simp [topicSuffixes]

theorem plain_topicSuffix {suffix : List UInt8} {length : Nat}
    (listed : (suffix, length) ∈ topicSuffixes) :
    Unescaped (47 :: suffix) ∧ (0 : UInt8) ∉ 47 :: suffix ∧
      topicHasPublishWildcard (47 :: suffix) = false ∧ suffix.length + 1 = length := by
  have all : ∀ entry ∈ topicSuffixes, Unescaped (47 :: entry.1) ∧ (0 : UInt8) ∉ 47 :: entry.1 ∧
      topicHasPublishWildcard (47 :: entry.1) = false ∧ entry.1.length + 1 = entry.2 := by
    decide
  exact all (suffix, length) listed

theorem plain_focusedSensors : ∀ field ∈ focusedSensors,
    escapedLength field.name.bytes + escapedLength field.valueTemplate.bytes ≤ 78 ∧
      Unescaped ([sourceText "_", field.key].flatMap CText.bytes) ∧
      ([sourceText "_", field.key].flatMap CText.bytes).length ≤ 21 := by
  decide +kernel

open DiscoveryBuilder in
theorem size_calls (uniqueId topic availabilityTopic : CText) (builder : DiscoveryBuilder) :
    size (builder.calls uniqueId topic availabilityTopic) =
      builder.own + builder.ids * escapedLength uniqueId.bytes +
        builder.topics * escapedLength topic.bytes + escapedLength availabilityTopic.bytes := by
  rw [size_eq, fixed_calls]
  cases builder with
  | discovery =>
    simp only [calls, fixed, own, ids, topics, discoveryCalls, List.map_cons, List.map_nil,
      List.sum_cons, List.sum_nil, textSize_print, textSize_string, size_names]
    omega
  | focused field =>
    simp only [calls, fixed, own, ids, topics, focusedCalls, List.map_cons, List.map_nil,
      List.sum_cons, List.sum_nil, textSize_print, textSize_string]
    omega
  | status =>
    simp only [calls, fixed, own, ids, topics, statusCalls, List.map_cons, List.map_nil,
      List.sum_cons, List.sum_nil, textSize_write, textSize_string, size_names]
    omega
  | enroll defaultEntityId =>
    simp only [calls, fixed, own, ids, topics, enrollCalls, buttonCalls, List.map_cons,
      List.map_nil, List.sum_cons, List.sum_nil, textSize_print, textSize_string, size_names]
    omega
  | restart defaultEntityId =>
    simp only [calls, fixed, own, ids, topics, restartCalls, buttonCalls, List.map_cons,
      List.map_nil, List.sum_cons, List.sum_nil, textSize_write, textSize_string, size_names]
    omega

theorem printId_fits (parts : List CText) (outSize : Nat)
    (room : (parts.flatMap CText.bytes).length < outSize) :
    ∃ id, printId parts outSize = .ok id ∧ id.bytes = parts.flatMap CText.bytes := by
  have nonzero : (0 : UInt8) ∉ parts.flatMap CText.bytes := by
    intro zero
    obtain ⟨part, -, mem⟩ := List.mem_flatMap.mp zero
    exact part.nonzero mem
  have same := pointed_eq nonzero
  refine ⟨pointed (parts.flatMap CText.bytes), ?_, same⟩
  rw [printId]
  simp only [same]
  exact if_neg (Nat.not_le.mpr room)

section
variable {config : ProvisionConfig} {device : MqttRelayDeviceInfo}

theorem fixed_deviceCalls : ((deviceCalls config device).map fixedSize).sum = 101 := by
  have emptied : ([write ",\"device\":\x7b\"identifiers\":[", .string emptyText, write "],\"name\":",
      .string emptyText, write ",\"manufacturer\":", .string emptyText, write ",\"model\":",
      .string emptyText, write ",\"sw_version\":", .string emptyText, write ",\"hw_version\":",
      .string emptyText, write "\x7d"].map fixedSize).sum = 101 := by
    decide +kernel
  exact emptied

theorem size_deviceCalls (safe : discoveryIdIsSafe (text config.mqttClientId) = true)
    (plain : PlainDevice device) : size (deviceCalls config device) =
      101 + 2 * (text config.mqttClientId).length + deviceLength device := by
  have field {max : Nat} {value : CharArray max} (plain : Unescaped (text value)) :
      escapedLength (fieldText value).bytes = (text value).length := escapedLength_plain plain
  rw [size_eq, fixed_deviceCalls]
  simp only [deviceCalls, List.map_cons, List.map_nil, List.sum_cons, List.sum_nil,
    textSize_write, textSize_string, field (plain_id safe), field plain.manufacturer,
    field plain.model, field plain.swVersion, field plain.hwVersion, deviceLength]
  omega

theorem size_topic {base suffix : List UInt8} {length : Nat} (nonzero : (0 : UInt8) ∉ base)
    (plain : topicHasPublishWildcard base = false) (listed : (suffix, length) ∈ topicSuffixes) :
    topicHasPublishWildcard (pointed (base ++ 47 :: suffix)).bytes = false ∧
      escapedLength (pointed (base ++ 47 :: suffix)).bytes = escapedLength base + length := by
  obtain ⟨unescaped, nonzero', plain', taken⟩ := plain_topicSuffix listed
  have same : (pointed (base ++ 47 :: suffix)).bytes = base ++ 47 :: suffix := by
    apply pointed_eq
    rw [List.mem_append, not_or]
    exact ⟨nonzero, nonzero'⟩
  rw [same]
  constructor
  · rw [no_wildcard_iff] at plain plain' ⊢
    simp only [List.mem_append, not_or]
    exact ⟨⟨plain.1, plain'.1⟩, plain.2, plain'.2⟩
  · rw [escapedLength_append, escapedLength_plain unescaped, List.length_cons, taken]

theorem size_id (safe : discoveryIdIsSafe (text config.mqttClientId) = true) (parts : List CText)
    (outSize : Nat) (plain : Unescaped (parts.flatMap CText.bytes))
    (room : 65 + (parts.flatMap CText.bytes).length < outSize) :
    ∃ id, printId (fieldText config.mqttClientId :: parts) outSize = .ok id ∧
      escapedLength id.bytes =
        (text config.mqttClientId).length + (parts.flatMap CText.bytes).length := by
  have short : (text config.mqttClientId).length ≤ 65 := length_text_le _
  have all : (fieldText config.mqttClientId :: parts).flatMap CText.bytes =
      text config.mqttClientId ++ parts.flatMap CText.bytes := List.flatMap_cons
  have fits : ((fieldText config.mqttClientId :: parts).flatMap CText.bytes).length < outSize := by
    rw [all, List.length_append]
    omega
  obtain ⟨id, printed, same⟩ := printId_fits _ _ fits
  refine ⟨id, printed, ?_⟩
  rw [same, all, escapedLength_append, escapedLength_plain (plain_id safe), escapedLength_plain plain]

end

/-- A configuration and a device that pass the checks of every builder -/
structure Announced (config : ProvisionConfig) (device : MqttRelayDeviceInfo) : Prop where
  safe : discoveryIdIsSafe (text config.mqttClientId) = true
  base : topicHasPublishWildcard (text config.mqttBaseTopic) = false
  known : deviceInfoIsValid device = true
  plain : PlainDevice device

section
variable {config : ProvisionConfig} {device : MqttRelayDeviceInfo}

theorem entity_ok_iff (announced : Announced config device) {suffix : List UInt8} {length : Nat}
    (listed : (suffix, length) ∈ topicSuffixes) {last : PrintCall} (one : last.bytes.length = 1) (calls : List PrintCall) :
    (∃ payload, buildEntity config device (text config.mqttBaseTopic ++ 47 :: suffix)
        (topicsOf config).availability discoveryPayloadMax (.ok calls) last = .ok payload) ↔
      size calls + 2 * (text config.mqttClientId).length + deviceLength device ≤ 1433 := by
  have nonzero := text_nonzero config.mqttBaseTopic
  have topic := (size_topic nonzero announced.base listed).1
  have availability : topicHasPublishWildcard (pointed (topicsOf config).availability).bytes = false :=
    (size_topic nonzero announced.base availability_listed).1
  have device_ := size_deviceCalls announced.safe announced.plain
  rw [buildEntity_ok_iff announced.safe announced.known topic availability (by decide)]
  simp only [size, discoveryPayloadMax, List.flatMap_append, List.length_append, List.flatMap_cons,
    List.flatMap_nil, List.append_nil, one] at device_ ⊢
  omega

theorem size_suffix (announced : Announced config device) {suffix : List UInt8} {length : Nat}
    (listed : (suffix, length) ∈ topicSuffixes) :
    escapedLength (pointed (text config.mqttBaseTopic ++ 47 :: suffix)).bytes =
      escapedLength (text config.mqttBaseTopic) + length :=
  (size_topic (text_nonzero config.mqttBaseTopic) announced.base listed).2

theorem discovery_ok_iff (announced : Announced config device) :
    (∃ payload, buildDiscoveryPayload config device (topicsOf config).notification
        (topicsOf config).availability discoveryPayloadMax = .ok payload) ↔
      3 * escapedLength (text config.mqttBaseTopic) + 4 * (text config.mqttClientId).length +
        deviceLength device ≤ 1129 := by
  have suffix := plain_idText (by simp [idTexts] : ("_last_notification", 18) ∈ idTexts)
  rw [← List.flatMap_singleton CText.bytes] at suffix
  obtain ⟨id, printed, id_⟩ := size_id announced.safe [sourceText "_last_notification"] (64 + 32)
    suffix.1 (by rw [suffix.2]; decide)
  rw [suffix.2] at id_
  clear suffix
  have listed_ : (ascii "notification", 13) ∈ topicSuffixes := by simp [topicSuffixes]
  have topic : escapedLength (pointed (topicsOf config).notification).bytes = _ + 13 :=
    size_suffix announced listed_
  have availability : escapedLength (pointed (topicsOf config).availability).bytes = _ + 13 :=
    size_suffix announced availability_listed
  have calls := size_calls id (pointed (topicsOf config).notification)
    (pointed (topicsOf config).availability) .discovery
  simp only [DiscoveryBuilder.calls, DiscoveryBuilder.own, DiscoveryBuilder.ids,
    DiscoveryBuilder.topics] at calls
  rw [buildDiscoveryPayload, printed]
  refine (entity_ok_iff announced listed_ length_closing.1 _).trans ?_
  omega

theorem focused_ok (announced : Announced config device) {fieldIndex : Nat}
    (listed : fieldIndex < focusedSensors.length)
    (room : 2 * escapedLength (text config.mqttBaseTopic) + 4 * (text config.mqttClientId).length +
      deviceLength device ≤ 1123) :
    ∃ payload, buildFocusedDiscoveryPayload config device (topicsOf config).notification
      (topicsOf config).availability discoveryPayloadMax fieldIndex = .ok payload := by
  have member := List.getElem_mem listed
  have found := List.getElem?_eq_getElem listed
  generalize focusedSensors[fieldIndex] = field at member found
  obtain ⟨texts, plain, short⟩ := plain_focusedSensors field member
  obtain ⟨id, printed, id_⟩ := size_id announced.safe [sourceText "_", field.key] (64 + 32)
    plain (by omega)
  have listed_ : (ascii "notification", 13) ∈ topicSuffixes := by simp [topicSuffixes]
  have topic : escapedLength (pointed (topicsOf config).notification).bytes = _ + 13 :=
    size_suffix announced listed_
  have availability : escapedLength (pointed (topicsOf config).availability).bytes = _ + 13 :=
    size_suffix announced availability_listed
  have calls := size_calls id (pointed (topicsOf config).notification)
    (pointed (topicsOf config).availability) (.focused field)
  simp only [DiscoveryBuilder.calls, DiscoveryBuilder.own, DiscoveryBuilder.ids,
    DiscoveryBuilder.topics] at calls
  rw [buildFocusedDiscoveryPayload, found]
  simp only [printed]
  refine (entity_ok_iff announced listed_ length_closing.1 _).mpr ?_
  omega

theorem status_ok_iff (announced : Announced config device) :
    (∃ payload, buildStatusDiscoveryPayload config device (topicsOf config).state
        (topicsOf config).availability discoveryPayloadMax = .ok payload) ↔
      3 * escapedLength (text config.mqttBaseTopic) + 4 * (text config.mqttClientId).length +
        deviceLength device ≤ 1074 := by
  have suffix := plain_idText (by simp [idTexts] : ("_device_status", 14) ∈ idTexts)
  rw [← List.flatMap_singleton CText.bytes] at suffix
  obtain ⟨id, printed, id_⟩ := size_id announced.safe [sourceText "_device_status"] (64 + 32)
    suffix.1 (by rw [suffix.2]; decide)
  rw [suffix.2] at id_
  clear suffix
  have listed_ : (ascii "state", 6) ∈ topicSuffixes := by simp [topicSuffixes]
  have topic : escapedLength (pointed (topicsOf config).state).bytes = _ + 6 :=
    size_suffix announced listed_
  have availability : escapedLength (pointed (topicsOf config).availability).bytes = _ + 13 :=
    size_suffix announced availability_listed
  have calls := size_calls id (pointed (topicsOf config).state)
    (pointed (topicsOf config).availability) .status
  simp only [DiscoveryBuilder.calls, DiscoveryBuilder.own, DiscoveryBuilder.ids,
    DiscoveryBuilder.topics] at calls
  rw [buildStatusDiscoveryPayload, printed]
  refine (entity_ok_iff announced listed_ length_closing.2 _).trans ?_
  omega

theorem size_button (announced : Announced config device) (suffix : CText)
    (plain : Unescaped suffix.bytes) (short : suffix.bytes.length ≤ 8) :
    ∃ id entityId, printId [fieldText config.mqttClientId, suffix] (64 + 16) = .ok id ∧
      printId [sourceText "button.", id] (64 + 24) = .ok entityId ∧
      escapedLength id.bytes = (text config.mqttClientId).length + suffix.bytes.length ∧
      escapedLength entityId.bytes = (text config.mqttClientId).length + suffix.bytes.length + 7 := by
  have prefix_ := plain_idText (by simp [idTexts] : ("button.", 7) ∈ idTexts)
  have idShort : (text config.mqttClientId).length ≤ 65 := length_text_le _
  have parts (first second : CText) :
      [first, second].flatMap CText.bytes = first.bytes ++ second.bytes := by
    rw [List.flatMap_cons, List.flatMap_singleton]
  have room : ([fieldText config.mqttClientId, suffix].flatMap CText.bytes).length < 64 + 16 := by
    rw [parts, List.length_append]
    show (text config.mqttClientId).length + _ < _
    omega
  obtain ⟨id, printed, same⟩ := printId_fits _ _ room
  rw [parts] at same
  have length : id.bytes.length = (text config.mqttClientId).length + suffix.bytes.length := by
    rw [same, List.length_append]
    rfl
  have id_ : escapedLength id.bytes = (text config.mqttClientId).length + suffix.bytes.length := by
    rw [same, escapedLength_append, escapedLength_plain plain]
    exact congrArg (· + _) (escapedLength_plain (plain_id announced.safe))
  have room' : ([sourceText "button.", id].flatMap CText.bytes).length < 64 + 24 := by
    rw [parts, List.length_append, prefix_.2]
    omega
  obtain ⟨entityId, printed', same'⟩ := printId_fits _ _ room'
  refine ⟨id, entityId, printed, printed', id_, ?_⟩
  rw [same', parts, escapedLength_append, escapedLength_plain prefix_.1, prefix_.2, id_]
  omega

theorem enroll_ok (announced : Announced config device)
    (room : 2 * escapedLength (text config.mqttBaseTopic) + 4 * (text config.mqttClientId).length +
      deviceLength device ≤ 1104) :
    ∃ payload, buildEnrollDiscoveryPayload config device (topicsOf config).enrollCommand
      (topicsOf config).availability discoveryPayloadMax = .ok payload := by
  have suffix := plain_idText (by simp [idTexts] : ("_enroll", 7) ∈ idTexts)
  obtain ⟨id, entityId, printed, printed', id_, entityId_⟩ :=
    size_button announced (sourceText "_enroll") suffix.1 (by rw [suffix.2]; decide)
  rw [suffix.2] at id_ entityId_
  clear suffix
  have listed_ : (ascii "command/enroll", 15) ∈ topicSuffixes := by simp [topicSuffixes]
  have topic : escapedLength (pointed (topicsOf config).enrollCommand).bytes = _ + 15 :=
    size_suffix announced listed_
  have availability : escapedLength (pointed (topicsOf config).availability).bytes = _ + 13 :=
    size_suffix announced availability_listed
  have calls := size_calls id (pointed (topicsOf config).enrollCommand)
    (pointed (topicsOf config).availability) (.enroll entityId)
  simp only [DiscoveryBuilder.calls, DiscoveryBuilder.own, DiscoveryBuilder.ids,
    DiscoveryBuilder.topics] at calls
  rw [buildEnrollDiscoveryPayload, printed]
  simp only [bind, Except.bind, printed']
  refine (entity_ok_iff announced listed_ length_closing.1 _).mpr ?_
  omega

theorem restart_ok (announced : Announced config device)
    (room : 2 * escapedLength (text config.mqttBaseTopic) + 4 * (text config.mqttClientId).length +
      deviceLength device ≤ 1104) :
    ∃ payload, buildRestartDiscoveryPayload config device (topicsOf config).restartCommand
      (topicsOf config).availability discoveryPayloadMax = .ok payload := by
  have suffix := plain_idText (by simp [idTexts] : ("_restart", 8) ∈ idTexts)
  obtain ⟨id, entityId, printed, printed', id_, entityId_⟩ :=
    size_button announced (sourceText "_restart") suffix.1 (Nat.le_of_eq suffix.2)
  rw [suffix.2] at id_ entityId_
  clear suffix
  have listed_ : (ascii "command/restart", 16) ∈ topicSuffixes := by simp [topicSuffixes]
  have topic : escapedLength (pointed (topicsOf config).restartCommand).bytes = _ + 16 :=
    size_suffix announced listed_
  have availability : escapedLength (pointed (topicsOf config).availability).bytes = _ + 13 :=
    size_suffix announced availability_listed
  have calls := size_calls id (pointed (topicsOf config).restartCommand)
    (pointed (topicsOf config).availability) (.restart entityId)
  simp only [DiscoveryBuilder.calls, DiscoveryBuilder.own, DiscoveryBuilder.ids,
    DiscoveryBuilder.topics] at calls
  rw [buildRestartDiscoveryPayload, printed]
  simp only [bind, Except.bind, printed']
  refine (entity_ok_iff announced listed_ length_closing.2 _).mpr ?_
  omega

end

/-- All messages fit together with the one of the status, which is the longest. -/
theorem discoveryPayloads_ok_iff {config : ProvisionConfig} {device : MqttRelayDeviceInfo}
    (announced : Announced config device) :
    (∀ payload ∈ discoveryPayloads config device (topicsOf config), ∃ bytes, payload = .ok bytes) ↔
      3 * escapedLength (text config.mqttBaseTopic) + 4 * (text config.mqttClientId).length +
        deviceLength device ≤ 1074 := by
  constructor
  · intro built
    exact (status_ok_iff announced).mp (built _ (by simp [discoveryPayloads]))
  · intro room payload built
    simp only [discoveryPayloads, List.mem_append, List.mem_cons, List.mem_map, List.mem_range,
      List.not_mem_nil, or_false] at built
    rcases built with (rfl | ⟨fieldIndex, listed, rfl⟩) | rfl | rfl | rfl
    · exact (discovery_ok_iff announced).mpr (by omega)
    · exact focused_ok announced listed (by omega)
    · exact (status_ok_iff announced).mpr room
    · exact enroll_ok announced (by omega)
    · exact restart_ok announced (by omega)

/-- The buffer holds every message if and only if the base topic, escaped three times, leaves
    room for the client id and the device. -/
theorem discovery_fits_iff (config : ProvisionConfig) (device : MqttRelayDeviceInfo)
    {names : List UInt8 × List UInt8 × List UInt8 × List UInt8}
    (built : buildTopics config = .ok names) (known : deviceInfoIsValid device = true)
    (plain : PlainDevice device) :
    DiscoveryFits config device ↔
      3 * escapedLength (text config.mqttBaseTopic) + 4 * (text config.mqttClientId).length +
        deviceLength device ≤ 1074 := by
  obtain ⟨topics, safe, base⟩ := topics_of_built built
  rw [← discoveryPayloads_ok_iff ⟨safe, base, known, plain⟩]
  constructor
  · rintro ⟨topics', same, fits⟩
    rw [topics, Except.ok.injEq] at same
    rw [same]
    exact fits
  · intro fits
    exact ⟨_, topics, fits⟩

theorem plain_thisDevice : PlainDevice thisDevice :=
  ⟨by decide, by decide, by decide, by decide⟩

theorem sample_is_discovered : DiscoveryFits (ProvisionConfig.sample 1883) thisDevice := by
  have built : ∃ names, buildTopics (ProvisionConfig.sample 1883) = .ok names := ⟨_, rfl⟩
  obtain ⟨names, built⟩ := built
  exact (discovery_fits_iff _ _ built (by decide) plain_thisDevice).mpr (by decide)

/-- A base topic of control characters, which the relay publishes to -/
def controlTopic : ProvisionConfig :=
  { ProvisionConfig.sample 1883 with mqttBaseTopic := ofText 128 (List.replicate 128 1) }

theorem controlTopic_valid : ProvisionConfig.validate controlTopic = .ok := by
  obtain ⟨schema, ssid, wifi, host, port, user, password, ca, tls, client, -⟩ :=
    (ProvisionConfig.validate_ok_iff _).mp (ProvisionConfig.sample_valid (show (1883 : UInt16) ≠ 0 by decide))
  have topic : fieldPresent controlTopic.mqttBaseTopic = true :=
    fieldPresent_ofText (by simp) (by simp) (by simp)
  exact (ProvisionConfig.validate_ok_iff _).mpr
    ⟨schema, ssid, wifi, host, port, user, password, ca, tls, client, topic⟩

theorem control_topic_is_not_discovered : ProvisionConfig.validate controlTopic = .ok ∧
    ¬ ∀ (config : ProvisionConfig) (device : MqttRelayDeviceInfo)
      (names : List UInt8 × List UInt8 × List UInt8 × List UInt8),
      buildTopics config = .ok names → deviceInfoIsValid device = true → PlainDevice device →
        DiscoveryFits config device := by
  refine ⟨controlTopic_valid, ?_⟩
  intro fits
  have base : text controlTopic.mqttBaseTopic = List.replicate 128 1 :=
    text_ofText (by simp) (by simp)
  have id : text controlTopic.mqttClientId = [99] := text_ofText (by decide) (by decide)
  have accepts : RelayAccepts controlTopic := ⟨by simp [id, isalnum], by simp [base]⟩
  have built := buildTopics_accepts ((ProvisionConfig.validate_ok_iff _).mp controlTopic_valid) accepts
  obtain ⟨topics, safe, plain⟩ := topics_of_built built
  obtain ⟨topics', same, all⟩ := fits controlTopic thisDevice _ built (by decide)
    plain_thisDevice
  rw [topics, Except.ok.injEq] at same
  rw [← same, discoveryPayloads_ok_iff ⟨safe, plain, by decide, plain_thisDevice⟩, base] at all
  have long : escapedLength (List.replicate 128 1) = 768 := by
    rw [escapedLength, List.map_replicate, List.sum_replicate]
    rfl
  rw [long] at all
  omega

end DiscoveryPayloads
