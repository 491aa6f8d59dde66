import IosAncs.Provision.Portal

/-!
What the relay makes of a configuration when it starts: its topics, its discovery
topics and the client's settings. It has its own idea of a valid configuration,
which the save path does not share. The source is `mqtt_relay.c`.
-/
open CString ProvisionConfig

/-- The error codes of the relay's own checks. -/
inductive RelayErr where
  | invalidArg
  | invalidSize
  | invalidState
  | noMem
  | client (code : Int)
deriving DecidableEq, Repr

/-- `mqtt_relay_device_info_t` -/
structure MqttRelayDeviceInfo where
  manufacturer : CharArray 31
  model : CharArray 23
  swVersion : CharArray 31
  hwVersion : CharArray 23

structure RelayTopics where
  notification : List UInt8
  availability : List UInt8
  state : List UInt8
  discovery : List UInt8
  enrollCommand : List UInt8
  enrollDiscovery : List UInt8
  restartCommand : List UInt8
  restartDiscovery : List UInt8
deriving DecidableEq, Repr

inductive MqttTransport where
  | overTcp
  | overSsl
deriving DecidableEq, Repr

/-- The fields of `esp_mqtt_client_config_t` that the relay sets. -/
structure MqttClientConfig where
  hostname : List UInt8
  port : UInt16
  transport : MqttTransport
  username : List UInt8
  password : List UInt8
  clientId : List UInt8
  certificate : Option (List UInt8)
  disableAutoReconnect : Bool
  bufferSize : Nat
  bufferOutSize : Nat
  lastWillTopic : List UInt8
  lastWillMsg : List UInt8
  lastWillQos : Nat
  lastWillRetain : Bool
deriving DecidableEq, Repr

structure StartResources where
  /-- the queue and the two locks were created -/
  memory : Bool
  client : Bool
  registered : Option Int
deriving DecidableEq, Repr

namespace MqttRelay

def topicMax : Nat := 128 + 32

def discoveryTopicMax : Nat := 64 + 64

def mqttBufferSize : Nat := 2048

def topicHasPublishWildcard (topic : List UInt8) : Bool := topic.contains 43 || topic.contains 35

def isalnum (b : UInt8) : Bool :=
  (48 ≤ b && b ≤ 57) || (65 ≤ b && b ≤ 90) || (97 ≤ b && b ≤ 122)

def discoveryIdIsSafe (id : List UInt8) : Bool :=
  id ≠ [] && id.all fun b => isalnum b || b == 95 || b == 45

def boundedRequiredText {max : Nat} (value : CharArray max) : Bool :=
  !isBlank value && decide (boundedStrlen value < max + 1)

def deviceInfoIsValid (device : MqttRelayDeviceInfo) : Bool :=
  boundedRequiredText device.manufacturer && boundedRequiredText device.model &&
    boundedRequiredText device.swVersion && boundedRequiredText device.hwVersion

/-- What `snprintf` leaves in a buffer, where the whole text fits. -/
def printed (bytes : List UInt8) (outSize : Nat) : Except RelayErr (List UInt8) :=
  if outSize ≤ bytes.length then .error .invalidSize else .ok bytes

def appendTopic (base suffix : List UInt8) (outSize : Nat) : Except RelayErr (List UInt8) :=
  if base = [] || topicHasPublishWildcard base then .error .invalidArg
  else printed (base ++ 47 :: suffix) outSize

/-- A topic under the discovery prefix, made from the client id. -/
def discoveryTopic (component id suffix : List UInt8) : Except RelayErr (List UInt8) :=
  if !discoveryIdIsSafe id then .error .invalidArg
  else printed (ascii "homeassistant/" ++ component ++ 47 :: id ++ 47 :: suffix) discoveryTopicMax

def buildTopics (config : ProvisionConfig) :
    Except RelayErr (List UInt8 × List UInt8 × List UInt8 × List UInt8) := do
  let id := text config.mqttClientId
  let base := text config.mqttBaseTopic
  if !discoveryIdIsSafe id then throw .invalidArg
  let notification ← appendTopic base (ascii "notification") topicMax
  let availability ← appendTopic base (ascii "availability") topicMax
  let state ← appendTopic base (ascii "state") topicMax
  let discovery ← printed
    (ascii "homeassistant/sensor/" ++ id ++ ascii "/last_notification/config") discoveryTopicMax
  return (notification, availability, state, discovery)

def buildEnrollCommandTopic (config : ProvisionConfig) : Except RelayErr (List UInt8) :=
  appendTopic (text config.mqttBaseTopic) (ascii "command/enroll") topicMax

def buildEnrollDiscoveryTopic (config : ProvisionConfig) : Except RelayErr (List UInt8) :=
  discoveryTopic (ascii "button") (text config.mqttClientId) (ascii "enroll/config")

def buildRestartCommandTopic (config : ProvisionConfig) : Except RelayErr (List UInt8) :=
  appendTopic (text config.mqttBaseTopic) (ascii "command/restart") topicMax

def buildRestartDiscoveryTopic (config : ProvisionConfig) : Except RelayErr (List UInt8) :=
  discoveryTopic (ascii "button") (text config.mqttClientId) (ascii "restart/config")

/-- The topics of `mqtt_relay_prepare_context` and `mqtt_relay_reconfigure`. -/
def buildAllTopics (config : ProvisionConfig) : Except RelayErr RelayTopics := do
  let (notification, availability, state, discovery) ← buildTopics config
  let enrollCommand ← buildEnrollCommandTopic config
  let enrollDiscovery ← buildEnrollDiscoveryTopic config
  let restartCommand ← buildRestartCommandTopic config
  let restartDiscovery ← buildRestartDiscoveryTopic config
  return {
    notification, availability, state, discovery, enrollCommand, enrollDiscovery, restartCommand,
    restartDiscovery }

def prepareContext (config : ProvisionConfig) (device : MqttRelayDeviceInfo) (memory : Bool) :
    Except RelayErr RelayTopics := do
  if !deviceInfoIsValid device then throw .invalidArg
  let topics ← buildAllTopics config
  if !memory then throw .noMem
  return topics

def buildClientConfig (config : ProvisionConfig) (availabilityTopic : List UInt8) :
    Except RelayErr MqttClientConfig :=
  if validate config = .tlsCaRequired then .error .invalidArg
  else if validate config ≠ .ok || topicHasPublishWildcard availabilityTopic then .error .invalidArg
  else .ok {
    hostname := text config.mqttHost
    port := config.mqttPort
    transport := if config.mqttTls then .overSsl else .overTcp
    username := text config.mqttUsername
    password := text config.mqttPassword
    clientId := text config.mqttClientId
    certificate := if config.mqttTls then some (text config.mqttCa) else none
    disableAutoReconnect := true
    bufferSize := mqttBufferSize
    bufferOutSize := mqttBufferSize
    lastWillTopic := availabilityTopic
    lastWillMsg := ascii "offline"
    lastWillQos := 1
    lastWillRetain := true }

/-- `mqtt_relay_init` of a relay that has neither a client nor a queue. -/
def init (config : ProvisionConfig) (device : MqttRelayDeviceInfo) (resources : StartResources) :
    Except RelayErr (RelayTopics × MqttClientConfig) := do
  let topics ← prepareContext config device resources.memory
  let client ← buildClientConfig config topics.availability
  if !resources.client then throw .noMem
  match resources.registered with
  | some code => throw (.client code)
  | none => return (topics, client)

/-- The rules that only the relay has: the client id has to be one that Home Assistant's
    discovery topics can hold, the base topic one that can be published to. -/
structure RelayAccepts (config : ProvisionConfig) : Prop where
  clientId : ∀ b ∈ text config.mqttClientId, isalnum b ∨ b = 95 ∨ b = 45
  baseTopic : 43 ∉ text config.mqttBaseTopic ∧ 35 ∉ text config.mqttBaseTopic

variable {config : ProvisionConfig}

theorem text_of_present {max : Nat} {value : CharArray max} (present : fieldPresent value = true) :
    text value ≠ [] ∧ (text value).length ≤ max := by
  simp only [fieldPresent, fieldValid, boundedStrlen, Bool.and_eq_true, Bool.not_eq_true']
    at present
  constructor
  · intro empty
    rw [(isBlank_iff value).mpr empty] at present
    exact absurd present.2 (by decide)
  · exact of_decide_eq_true present.1

theorem discoveryIdIsSafe_iff (valid : Valid config) :
    discoveryIdIsSafe (text config.mqttClientId) = true ↔
      ∀ b ∈ text config.mqttClientId, isalnum b ∨ b = 95 ∨ b = 45 := by
  have present := (text_of_present valid.mqttClientId).1
  simp [discoveryIdIsSafe, present, or_assoc]

theorem no_wildcard_iff (topic : List UInt8) :
    topicHasPublishWildcard topic = false ↔ 43 ∉ topic ∧ 35 ∉ topic := by
  simp [topicHasPublishWildcard]

theorem printed_fits {bytes : List UInt8} {outSize : Nat} (room : bytes.length < outSize) :
    printed bytes outSize = .ok bytes := by
  unfold printed
  rw [if_neg (by omega)]

theorem appendTopic_accepts {base suffix : List UInt8} (some : base ≠ [])
    (plain : 43 ∉ base ∧ 35 ∉ base) (short : base.length ≤ 128) (room : suffix.length ≤ 15) :
    appendTopic base suffix topicMax = .ok (base ++ 47 :: suffix) := by
  unfold appendTopic
  rw [(no_wildcard_iff base).mpr plain]
  simp only [some, decide_false, Bool.or_false, Bool.false_eq_true, ↓reduceIte]
  apply printed_fits
  simp only [topicMax, List.length_append, List.length_cons]
  omega

theorem appendTopic_refuses {base : List UInt8} (suffix : List UInt8) (outSize : Nat)
    (wild : ¬ (43 ∉ base ∧ 35 ∉ base)) : appendTopic base suffix outSize = .error .invalidArg := by
  rw [← no_wildcard_iff, Bool.not_eq_false] at wild
  simp [appendTopic, wild]

theorem discoveryTopic_accepts {component id suffix : List UInt8}
    (safe : discoveryIdIsSafe id = true) (short : id.length ≤ 64)
    (room : component.length + suffix.length ≤ 40) :
    discoveryTopic component id suffix =
      .ok (ascii "homeassistant/" ++ component ++ 47 :: id ++ 47 :: suffix) := by
  have head : (ascii "homeassistant/").length = 14 := by decide
  simp only [discoveryTopic, safe, Bool.not_true, Bool.false_eq_true, ↓reduceIte]
  apply printed_fits
  simp only [discoveryTopicMax, List.length_append, List.length_cons, head]
  omega

def topicsOf (config : ProvisionConfig) : RelayTopics :=
  let id := text config.mqttClientId
  let base := text config.mqttBaseTopic
  { notification := base ++ 47 :: ascii "notification"
    availability := base ++ 47 :: ascii "availability"
    state := base ++ 47 :: ascii "state"
    discovery := ascii "homeassistant/sensor/" ++ id ++ ascii "/last_notification/config"
    enrollCommand := base ++ 47 :: ascii "command/enroll"
    enrollDiscovery :=
      ascii "homeassistant/" ++ ascii "button" ++ 47 :: id ++ 47 :: ascii "enroll/config"
    restartCommand := base ++ 47 :: ascii "command/restart"
    restartDiscovery :=
      ascii "homeassistant/" ++ ascii "button" ++ 47 :: id ++ 47 :: ascii "restart/config" }

theorem buildTopics_accepts (valid : Valid config) (accepts : RelayAccepts config) :
    buildTopics config = .ok ((topicsOf config).notification, (topicsOf config).availability,
      (topicsOf config).state, (topicsOf config).discovery) := by
  obtain ⟨some, short⟩ := text_of_present valid.mqttBaseTopic
  have idShort := (text_of_present valid.mqttClientId).2
  have safe := (discoveryIdIsSafe_iff valid).mpr accepts.clientId
  have base (suffix : List UInt8) (room : suffix.length ≤ 15) :=
    appendTopic_accepts some accepts.baseTopic short room
  have discovery : printed (ascii "homeassistant/sensor/" ++ text config.mqttClientId ++
      ascii "/last_notification/config") discoveryTopicMax = .ok (topicsOf config).discovery := by
    have head : (ascii "homeassistant/sensor/").length = 21 := by decide
    have tail : (ascii "/last_notification/config").length = 25 := by decide
    apply printed_fits
    simp only [discoveryTopicMax, List.length_append, head, tail]
    omega
  simp only [buildTopics, safe, Bool.not_true, Bool.false_eq_true, ↓reduceIte,
    base (ascii "notification") (by decide), base (ascii "availability") (by decide),
    base (ascii "state") (by decide), discovery]
  rfl

theorem buildAllTopics_accepts (valid : Valid config) (accepts : RelayAccepts config) :
    buildAllTopics config = .ok (topicsOf config) := by
  obtain ⟨some, short⟩ := text_of_present valid.mqttBaseTopic
  have idShort := (text_of_present valid.mqttClientId).2
  have safe := (discoveryIdIsSafe_iff valid).mpr accepts.clientId
  have base (suffix : List UInt8) (room : suffix.length ≤ 15) :=
    appendTopic_accepts some accepts.baseTopic short room
  have button (suffix : List UInt8) (room : (ascii "button").length + suffix.length ≤ 40) :=
    discoveryTopic_accepts safe idShort room
  simp only [buildAllTopics, buildTopics_accepts valid accepts, buildEnrollCommandTopic,
    buildEnrollDiscoveryTopic, buildRestartCommandTopic, buildRestartDiscoveryTopic,
    base (ascii "command/enroll") (by decide), base (ascii "command/restart") (by decide),
    button (ascii "enroll/config") (by decide), button (ascii "restart/config") (by decide)]
  rfl

theorem buildAllTopics_refuses (valid : Valid config) (refuses : ¬ RelayAccepts config) :
    buildAllTopics config = .error .invalidArg := by
  have failing : buildTopics config = .error .invalidArg := by
    by_cases safe : discoveryIdIsSafe (text config.mqttClientId) = true
    · have wild : ¬ (43 ∉ text config.mqttBaseTopic ∧ 35 ∉ text config.mqttBaseTopic) := by
        intro plain
        exact refuses ⟨(discoveryIdIsSafe_iff valid).mp safe, plain⟩
      simp only [buildTopics, safe, Bool.not_true, Bool.false_eq_true, ↓reduceIte,
        appendTopic_refuses (ascii "notification") topicMax wild]
      rfl
    · simp only [buildTopics, safe, Bool.not_false, ↓reduceIte]
      rfl
  simp only [buildAllTopics, failing]
  rfl

theorem buildClientConfig_accepts (valid : Valid config) {topic : List UInt8}
    (plain : topicHasPublishWildcard topic = false) :
    ∃ client, buildClientConfig config topic = .ok client := by
  have checked := (validate_ok_iff config).mpr valid
  unfold buildClientConfig
  simp [checked, plain]

theorem availability_plain (accepts : RelayAccepts config) :
    topicHasPublishWildcard (topicsOf config).availability = false := by
  have suffix : 43 ∉ 47 :: ascii "availability" ∧ 35 ∉ 47 :: ascii "availability" := by decide
  apply (no_wildcard_iff _).mpr
  unfold topicsOf
  simp only [List.mem_append, not_or]
  exact ⟨⟨accepts.baseTopic.1, suffix.1⟩, accepts.baseTopic.2, suffix.2⟩

/-- The relay accepts a configuration that passes the store's check exactly when it
    meets the relay's own rules; otherwise no start succeeds, whatever it is given. -/
theorem init_accepts_iff (valid : Valid config) {device : MqttRelayDeviceInfo}
    (known : deviceInfoIsValid device = true) :
    (∃ resources started, init config device resources = .ok started) ↔ RelayAccepts config := by
  constructor
  · intro starts
    by_contra refuses
    obtain ⟨resources, started, initialised⟩ := starts
    simp only [init, prepareContext, known, buildAllTopics_refuses valid refuses] at initialised
    cases initialised
  · intro accepts
    obtain ⟨client, built⟩ := buildClientConfig_accepts valid (availability_plain accepts)
    refine ⟨{ memory := true, client := true, registered := none }, (topicsOf config, client), ?_⟩
    simp only [init, prepareContext, known, buildAllTopics_accepts valid accepts]
    simp only [bind, Except.bind, pure, Except.pure, Bool.not_true, Bool.false_eq_true,
      ↓reduceIte, built]

/-- A configuration that the portal takes and saves can be started with exactly when
    the relay's own rules hold of it. -/
theorem stored_config_starts_iff {partition : ProvisionPartition} {json : JsonObject}
    {update config : ProvisionConfig} (parsed : json.parseConfigUpdate = some update)
    (chosen : Portal.configToSave partition update = .ok config) {device : MqttRelayDeviceInfo}
    (known : deviceInfoIsValid device = true) :
    (∃ resources started, init config device resources = .ok started) ↔ RelayAccepts config := by
  have schema := Portal.parseConfigUpdate_schema parsed
  have stored := (Portal.configToSave_valid chosen schema).1
  exact init_accepts_iff ((validate_ok_iff config).mp stored) known

section FirstSetup

def firstSetup (clientId : List UInt8) : JsonObject := fun name =>
  match name with
  | "wifi_ssid" => some (.string [119])
  | "mqtt_host" => some (.string [104])
  | "mqtt_port" => some (.number 1883)
  | "mqtt_tls" => some (.bool false)
  | "mqtt_client_id" => some (.string clientId)
  | "mqtt_base_topic" => some (.string [116])
  | _ => none

def firstConfig (clientId : List UInt8) : ProvisionConfig where
  schemaVersion := currentSchemaVersion
  wifiSsid := ofText 32 [119]
  wifiPassword := zeroed
  mqttHost := ofText 128 [104]
  mqttPort := 1883
  mqttUsername := zeroed
  mqttPassword := zeroed
  mqttTls := false
  mqttCa := zeroed
  mqttClientId := ofText 64 clientId
  mqttBaseTopic := ofText 128 [116]

def erased : ProvisionPartition := { store := .empty, mqttVerified := none }

def thisDevice : MqttRelayDeviceInfo where
  manufacturer := ofText 31 (ascii "Espressif Systems")
  model := ofText 23 (ascii "ESP32-C6")
  swVersion := ofText 31 (ascii "0.6.14")
  hwVersion := ofText 23 (ascii "rev 0.1")

theorem firstConfig_saved {clientId : List UInt8} (some : clientId ≠ []) (short : clientId.length ≤ 64)
    (nonzero : (0 : UInt8) ∉ clientId) :
    Portal.configToSave erased (firstConfig clientId) = .ok (firstConfig clientId) := by
  have blank {max : Nat} : fieldValid (zeroed : CharArray max) = true := by
    simp [fieldValid, boundedStrlen, text_zeroed]
  have valid : validate (firstConfig clientId) = .ok := by
    rw [validate_ok_iff]
    constructor
    case schema => exact .inr rfl
    case mqttPort => exact show (1883 : UInt16) ≠ 0 by decide
    case tlsCa => exact fun tls => absurd tls Bool.false_ne_true
    case mqttClientId => exact fieldPresent_ofText some short nonzero
    case wifiSsid | mqttHost | mqttBaseTopic =>
      exact fieldPresent_ofText (by decide) (by decide) (by decide)
    case wifiPassword | mqttUsername | mqttPassword | mqttCa => exact blank
  have nothing : erased.store.load = .error .nvsNotFound := ProvisionStore.load_nothing rfl
  simp [Portal.configToSave, nothing, valid]

/-- A client id with a space in it is saved, and no start succeeds after that. -/
theorem spaced_id_never_starts :
    (firstSetup (ascii "my phone")).parseConfigUpdate = some (firstConfig (ascii "my phone")) ∧
      Portal.configToSave erased (firstConfig (ascii "my phone")) =
        .ok (firstConfig (ascii "my phone")) ∧
      deviceInfoIsValid thisDevice = true ∧
      ¬ ∃ resources started,
        init (firstConfig (ascii "my phone")) thisDevice resources = .ok started := by
  have saved : Portal.configToSave erased (firstConfig (ascii "my phone")) =
      .ok (firstConfig (ascii "my phone")) := firstConfig_saved (by decide) (by decide) (by decide)
  have stored := (Portal.configToSave_valid saved rfl).1
  refine ⟨rfl, saved, by decide, ?_⟩
  rw [init_accepts_iff ((validate_ok_iff _).mp stored) (by decide)]
  intro accepts
  have spaced : (32 : UInt8) ∈ text (firstConfig (ascii "my phone")).mqttClientId := by
    rw [firstConfig, text_ofText (by decide) (by decide)]
    decide
  exact absurd (accepts.clientId 32 spaced) (by decide)

theorem stored_config_starts_iff_plain :
    (∃ resources started, init (firstConfig (ascii "phone")) thisDevice resources = .ok started) ↔
      RelayAccepts (firstConfig (ascii "phone")) :=
  have parsed : (firstSetup (ascii "phone")).parseConfigUpdate = some (firstConfig (ascii "phone")) :=
    rfl
  stored_config_starts_iff parsed (firstConfig_saved (by decide) (by decide) (by decide))
    (by decide)

end FirstSetup

end MqttRelay
