import IosAncs.Foundation.Json
import IosAncs.HomeAssistant.DiagnosticsDownload
import IosAncs.Relay.StatePayload

/-!
The retained state on its way to Home Assistant: the JSON that the relay prints, read back as
the attributes of the status entity, and what `parse_diagnostics` keeps of them.
-/
open CString JsonWriters RelayStatus MqttRelay

namespace StatePayload

theorem asciiChars_append (first last : List UInt8) :
    Utf8.asciiChars (first ++ last) = Utf8.asciiChars first ++ Utf8.asciiChars last :=
  List.map_append

theorem asciiChars_bytes {chars : List Char} (low : ∀ c ∈ chars, c.toNat ≤ 0x7F) :
    Utf8.asciiChars (Decimal.bytes chars) = chars := by
  induction chars with
  | nil => rfl
  | cons c rest ih =>
    obtain ⟨first, later⟩ := List.forall_mem_cons.mp low
    have same : Char.ofNat (UInt8.ofNat c.toNat).toNat = c := by
      rw [JsonWriters.toNat_ofNat (by omega), Char.ofNat_toNat]
    show Char.ofNat (UInt8.ofNat c.toNat).toNat :: Utf8.asciiChars (Decimal.bytes rest) = c :: rest
    rw [same, ih later]

def AsciiText (chars : List Char) : Prop := ∀ c ∈ chars, c.toNat ≤ 0x7F

instance (chars : List Char) : Decidable (AsciiText chars) := List.decidableBAll _ chars

theorem asciiChars_ascii {s : String} (low : AsciiText s.toList) :
    Utf8.asciiChars (ascii s) = s.toList := asciiChars_bytes low

theorem asciiChars_number (n : Nat) : Utf8.asciiChars (number n) = Decimal.digits n :=
  asciiChars_bytes Decimal.digits_ascii

theorem asciiChars_integer (z : Int) :
    Utf8.asciiChars (Decimal.bytes (Decimal.integer z)) = Decimal.integer z :=
  asciiChars_bytes Decimal.integer_ascii

theorem asciiChars_flag (value : Bool) :
    Utf8.asciiChars (flag value) = (Json.Written.bool value).text := by
  cases value <;> decide

def Low (bytes : List UInt8) : Prop := ∀ byte ∈ bytes, byte.toNat < 0x80

instance (bytes : List UInt8) : Decidable (Low bytes) := List.decidableBAll _ bytes

theorem low_append {first last : List UInt8} : Low (first ++ last) ↔ Low first ∧ Low last :=
  List.forall_mem_append

theorem low_bytes {chars : List Char} (low : ∀ c ∈ chars, c.toNat ≤ 0x7F) :
    Low (Decimal.bytes chars) := by
  intro byte member
  obtain ⟨c, among, rfl⟩ := List.mem_map.mp member
  have small := low c among
  rw [JsonWriters.toNat_ofNat (by omega)]
  omega

theorem low_ascii {s : String} (low : AsciiText s.toList) : Low (ascii s) :=
  low_bytes low

theorem low_number (n : Nat) : Low (number n) := low_bytes Decimal.digits_ascii

theorem low_flag (value : Bool) : Low (flag value) := by
  cases value <;> decide

def PrintCall.text? : PrintCall → Option CText
  | .string text => some text
  | _ => none

def PrintCall.chars : PrintCall → List Char
  | .print bytes => Utf8.asciiChars bytes
  | .literal bytes => Utf8.asciiChars bytes
  | .string text => '"' :: (Utf8.replaceInvalid text.bytes).flatMap (source lowerHex) ++ ['"']

def PrintCall.Ascii : PrintCall → Prop
  | .print bytes => Low bytes
  | .literal bytes => Low bytes
  | .string _ => True

theorem valid_ascii_append {bytes : List UInt8} (low : Low bytes) (rest : List UInt8) :
    Utf8.Valid (bytes ++ rest) ↔ Utf8.Valid rest := by
  rw [Utf8.valid_iff, Utf8.valid_iff, ← Utf8.encode_asciiChars low, pieces_encode_append,
    List.all_append]
  simp

theorem valid_string_append (text : CText) (rest : List UInt8) :
    Utf8.Valid ((PrintCall.string text).bytes ++ rest) ↔
      Utf8.Valid text.bytes ∧ Utf8.Valid rest := by
  have low : (0x22 : UInt8) < 0x80 := by decide
  have quoteLow : Low quote := by decide
  have cut : (PrintCall.string text).bytes ++ rest =
      quote ++ (text.bytes.flatMap jsonEscape ++ 0x22 :: rest) := by
    simp [PrintCall.bytes, quote, ascii]
  have quoteRest : Utf8.Valid (0x22 :: rest) ↔ Utf8.Valid rest := valid_ascii_append quoteLow rest
  have empty : Utf8.Valid ([0x22] : List UInt8) := ⟨['"'], by decide⟩
  have alone : Utf8.Valid (text.bytes.flatMap jsonEscape ++ [0x22]) ↔ Utf8.Valid text.bytes :=
    valid_written_iff text.bytes
  rw [Utf8.valid_append_low low] at alone
  rw [cut, valid_ascii_append quoteLow, Utf8.valid_append_low low, quoteRest]
  exact and_congr_left' ((and_iff_left empty).symm.trans alone)

/-- What the builder prints is UTF-8 exactly where all its texts are. -/
theorem valid_calls_iff {calls : List PrintCall} (low : ∀ call ∈ calls, call.Ascii) :
    Utf8.Valid (calls.flatMap PrintCall.bytes) ↔
      ∀ text ∈ calls.filterMap PrintCall.text?, Utf8.Valid text.bytes := by
  induction calls with
  | nil => exact iff_of_true ⟨[], rfl⟩ fun _ member => absurd member List.not_mem_nil
  | cons call rest ih =>
    obtain ⟨first, later⟩ := List.forall_mem_cons.mp low
    rw [List.flatMap_cons]
    cases call with
    | print bytes => exact (valid_ascii_append first _).trans (ih later)
    | literal bytes => exact (valid_ascii_append first _).trans (ih later)
    | string text =>
      have listed : (PrintCall.string text :: rest).filterMap PrintCall.text? =
          text :: rest.filterMap PrintCall.text? := rfl
      rw [valid_string_append, ih later, listed, List.forall_mem_cons]

theorem encode_calls {calls : List PrintCall} (low : ∀ call ∈ calls, call.Ascii)
    (texts : ∀ text ∈ calls.filterMap PrintCall.text?, Utf8.Valid text.bytes) :
    calls.flatMap PrintCall.bytes = Utf8.encode (calls.flatMap PrintCall.chars) := by
  induction calls with
  | nil => rfl
  | cons call rest ih =>
    obtain ⟨first, later⟩ := List.forall_mem_cons.mp low
    rw [List.flatMap_cons, List.flatMap_cons, Utf8.encode_append]
    cases call with
    | print bytes | literal bytes =>
      rw [ih later texts]
      exact congrArg (· ++ _) (Utf8.encode_asciiChars first).symm
    | string text =>
      obtain ⟨⟨chars, same⟩, others⟩ := List.forall_mem_cons.mp texts
      have quoted : Utf8.encode ['"'] = quote := by decide
      rw [ih later others, PrintCall.bytes, PrintCall.chars, ← same, Utf8.replaceInvalid_encode,
        flatMap_jsonEscape_encode, ← List.singleton_append, Utf8.encode_append, Utf8.encode_append,
        quoted]

def quotedText (text : CText) : Json.Written where
  text := '"' :: (Utf8.replaceInvalid text.bytes).flatMap (source lowerHex) ++ ['"']
  value := .string (Utf8.replaceInvalid text.bytes)
  size := _
  spells := by
    have spells := Json.spells_string (source lowerHex) id (reads_source hexValue_hex.1)
      (Utf8.replaceInvalid text.bytes)
    rwa [List.map_id] at spells
  small := Nat.le_refl _

def Diagnostic.written : Diagnostic → Json.Written
  | bool value => .bool value
  | int value => .number value.toInt

abbrev Entries := List (String × Json.Written)

def baseEntries (counters : RelayCounters) (runtime : MqttRelayRuntimeStatus)
    (device : MqttRelayDeviceInfo) (uptime : CText) : Entries :=
  [("ready", .bool (ready runtime)),
    ("connected", .bool runtime.mqttConnected),
    ("wifi_connected", .bool runtime.wifi.connected),
    ("mqtt_connected", .bool runtime.mqttConnected),
    ("ble_connected", .bool runtime.bleConnected),
    ("ble_bonded", .bool runtime.bleBonded),
    ("uptime_seconds", .number runtime.uptimeSeconds),
    ("uptime", quotedText uptime),
    ("accepted", .word counters.accepted),
    ("published_ack", .word counters.publishedAck),
    ("dropped_offline", .word counters.droppedOffline),
    ("dropped_enqueue", .word counters.droppedEnqueue),
    ("dropped_policy", .word counters.droppedPolicy),
    ("wifi_ssid", quotedText
      (if runtime.wifi.connected then fieldText runtime.wifi.ssid else emptyText)),
    ("wifi_ip", quotedText
      (if runtime.wifi.connected then fieldText runtime.wifi.ip else emptyText)),
    ("wifi_rssi", if runtime.wifi.connected then .number runtime.wifi.rssi else .null),
    ("manufacturer", quotedText (fieldText device.manufacturer)),
    ("model", quotedText (fieldText device.model)),
    ("sw_version", quotedText (fieldText device.swVersion)),
    ("hw_version", quotedText (fieldText device.hwVersion))]

def diagnosticEntries (runtime : MqttRelayRuntimeStatus) (d : DiagnosticsFields) : Entries :=
  if d.valid then
    ("diagnostics_version", .byte 1) ::
      (diagnostics runtime d).map (fun entry => (entry.1, entry.2.written)) ++
      [("firmware_elf_sha256", quotedText (fieldText runtime.diagnostics.firmwareElfSha256))]
  else []

def stateEntries (counters : RelayCounters) (runtime : MqttRelayRuntimeStatus)
    (d : DiagnosticsFields) (device : MqttRelayDeviceInfo) (uptime : CText) : Entries :=
  baseEntries counters runtime device uptime ++ diagnosticEntries runtime d

def Entries.member (entry : String × Json.Written) : Json.Member :=
  Json.Written.member (entry.1.toList, entry.2)

theorem named_diagnostics (runtime : MqttRelayRuntimeStatus) (d : DiagnosticsFields) :
    ∀ entry ∈ diagnostics runtime d, Json.Named entry.1.toList := by
  have names : ∀ name ∈ (diagnostics runtime d).map Prod.fst, Json.Named name.toList := by
    simp only [diagnostics, List.map_cons, List.map_nil]
    decide +kernel
  exact fun entry member => names entry.1 (List.mem_map_of_mem member)

theorem named_entries (counters : RelayCounters) (runtime : MqttRelayRuntimeStatus)
    (d : DiagnosticsFields) (device : MqttRelayDeviceInfo) (uptime : CText) :
    ∀ entry ∈ stateEntries counters runtime d device uptime, Json.Named entry.1.toList := by
  have names : ∀ name ∈ (baseEntries counters runtime device uptime).map Prod.fst,
      Json.Named name.toList := by
    simp only [baseEntries, List.map_cons, List.map_nil]
    decide +kernel
  intro entry member
  rcases List.mem_append.mp member with base | more
  · exact names entry.1 (List.mem_map_of_mem base)
  · unfold diagnosticEntries at more
    split at more
    · rcases List.mem_append.mp more with early | last
      · rcases List.mem_cons.mp early with rfl | listed
        · decide
        · obtain ⟨diagnostic, among, rfl⟩ := List.mem_map.mp listed
          exact named_diagnostics runtime d diagnostic among
      · obtain rfl := List.mem_singleton.mp last
        exact (by decide : Json.Named "firmware_elf_sha256".toList)
    · cases more

theorem chars_diagnostics (runtime : MqttRelayRuntimeStatus) (d : DiagnosticsFields) :
    (diagnosticsCalls runtime d).flatMap PrintCall.chars =
      (diagnosticEntries runtime d).flatMap fun entry => (Entries.member entry).later := by
  have one : Decimal.digits 1 = ['1'] := by decide
  have low : ∀ entry ∈ diagnostics runtime d, AsciiText entry.1.toList :=
    fun entry member => (named_diagnostics runtime d entry member).2
  have printed : ∀ entries : List (String × Diagnostic),
      (∀ entry ∈ entries, AsciiText entry.1.toList) →
      (entries.map fun entry => PrintCall.print (diagnosticBytes entry)).flatMap PrintCall.chars =
        (entries.map fun entry => (entry.1, entry.2.written)).flatMap
          fun entry => (Entries.member entry).later := by
    intro entries low
    induction entries with
    | nil => rfl
    | cons entry rest ih =>
      obtain ⟨first, later⟩ := List.forall_mem_cons.mp low
      have value : Utf8.asciiChars entry.2.bytes = entry.2.written.text := by
        cases entry.2 with
        | bool value => exact asciiChars_flag value
        | int value => exact asciiChars_integer value.toInt
      rw [List.map_cons, List.map_cons, List.flatMap_cons, List.flatMap_cons, ih later]
      simp (disch := decide) [PrintCall.chars, diagnosticBytes, asciiChars_append, asciiChars_ascii,
        asciiChars_ascii first, value, Entries.member, Json.Member.later, Json.Member.head,
        Json.Written.member]
  unfold diagnosticsCalls diagnosticEntries
  split
  · rw [List.flatMap_append, List.flatMap_cons, List.flatMap_append, List.flatMap_cons,
      printed _ low]
    simp (disch := decide) [PrintCall.chars, asciiChars_ascii, quotedText, Entries.member,
      Json.Member.later, Json.Member.head, Json.Written.member, Json.Written.byte, one]
  · rfl

theorem chars_rssi (wifi : MqttRelayWifiStatus) :
    Utf8.asciiChars (rssiBytes wifi) = ",\"wifi_rssi\":".toList ++
      (if wifi.connected then Json.Written.number wifi.rssi else .null).text := by
  unfold rssiBytes
  split
  · rw [asciiChars_append, asciiChars_integer, asciiChars_ascii (by decide)]
    rfl
  · decide

set_option maxRecDepth 4000 in
theorem chars_calls (counters : RelayCounters) (runtime : MqttRelayRuntimeStatus)
    (d : DiagnosticsFields) (device : MqttRelayDeviceInfo) (uptime : CText) :
    (stateCalls counters runtime d device uptime).flatMap PrintCall.chars =
      '{' :: Json.Member.joined
        ((stateEntries counters runtime d device uptime).map Entries.member) ++ ['}'] := by
  have some_ : (baseEntries counters runtime device uptime).map Entries.member ≠ [] :=
    List.cons_ne_nil _ _
  rw [stateCalls, List.flatMap_append, List.flatMap_append, chars_diagnostics, stateEntries,
    List.map_append, Json.Member.joined_later some_, List.flatMap_map]
  simp (disch := decide) [PrintCall.chars, asciiChars_append, asciiChars_ascii, asciiChars_number,
    asciiChars_flag, quotedText, Json.Written.number, Json.Written.word, Json.Written.member,
    Entries.member, Json.Member.joined, Json.Member.head, chars_rssi, baseEntries,
    Decimal.integer_natural]

def stateTexts (runtime : MqttRelayRuntimeStatus) (d : DiagnosticsFields)
    (device : MqttRelayDeviceInfo) : List (List UInt8) :=
  (if runtime.wifi.connected then [text runtime.wifi.ssid, text runtime.wifi.ip] else []) ++
    [text device.manufacturer, text device.model, text device.swVersion, text device.hwVersion] ++
    (if d.valid then [text runtime.diagnostics.firmwareElfSha256] else [])

theorem low_calls (counters : RelayCounters) (runtime : MqttRelayRuntimeStatus)
    (d : DiagnosticsFields) (device : MqttRelayDeviceInfo) (uptime : CText) :
    ∀ call ∈ stateCalls counters runtime d device uptime, call.Ascii := by
  have entries : ∀ call ∈ (diagnostics runtime d).map fun entry =>
      PrintCall.print (diagnosticBytes entry), call.Ascii := by
    intro call member
    obtain ⟨entry, among, rfl⟩ := List.mem_map.mp member
    have name : Low (ascii entry.1) := low_bytes (named_diagnostics runtime d entry among).2
    have value : Low entry.2.bytes := by
      cases entry.2 with
      | bool value => exact low_flag value
      | int value => exact low_bytes Decimal.integer_ascii
    have opening : Low (ascii ",\"") ∧ Low (ascii "\":") := by decide
    exact low_append.mpr ⟨low_append.mpr ⟨low_append.mpr ⟨opening.1, name⟩, opening.2⟩, value⟩
  have rssi : Low (rssiBytes runtime.wifi) := by
    unfold rssiBytes
    split
    · exact low_append.mpr ⟨by decide, low_bytes Decimal.integer_ascii⟩
    · decide
  have more : ∀ call ∈ diagnosticsCalls runtime d, call.Ascii := by
    unfold diagnosticsCalls
    split
    · simp only [List.forall_mem_append, List.forall_mem_cons, PrintCall.Ascii]
      refine ⟨⟨by decide, entries⟩, by decide, trivial, ?_⟩
      exact fun _ member => absurd member List.not_mem_nil
    · exact fun _ member => absurd member List.not_mem_nil
  rw [stateCalls]
  simp only [List.forall_mem_append, List.forall_mem_cons, PrintCall.Ascii, low_append, low_flag,
    low_number, rssi]
  simp (disch := decide) [low_ascii]
  exact more

theorem texts_diagnostics (runtime : MqttRelayRuntimeStatus) (d : DiagnosticsFields) :
    (diagnosticsCalls runtime d).filterMap PrintCall.text? =
      if d.valid then [fieldText runtime.diagnostics.firmwareElfSha256] else [] := by
  unfold diagnosticsCalls
  split
  · have printed : ((diagnostics runtime d).map fun entry =>
        PrintCall.print (diagnosticBytes entry)).filterMap PrintCall.text? = [] := by
      rw [List.filterMap_eq_nil_iff]
      exact List.forall_mem_map.mpr fun _ _ => rfl
    rw [List.filterMap_append, List.filterMap_cons_none rfl, printed]
    rfl
  · rfl

theorem valid_texts_iff (counters : RelayCounters) (runtime : MqttRelayRuntimeStatus)
    (d : DiagnosticsFields) (device : MqttRelayDeviceInfo) :
    (∀ text ∈ (stateCalls counters runtime d device
        (uptimeText runtime.uptimeSeconds)).filterMap PrintCall.text?, Utf8.Valid text.bytes) ↔
      ∀ bytes ∈ stateTexts runtime d device, Utf8.Valid bytes := by
  have uptime : Utf8.Valid (uptimeText runtime.uptimeSeconds).bytes := ⟨_, rfl⟩
  have empty : Utf8.Valid emptyText.bytes := ⟨[], rfl⟩
  rw [stateCalls, List.filterMap_append, List.filterMap_append, texts_diagnostics]
  show (∀ text ∈ [uptimeText runtime.uptimeSeconds,
      if runtime.wifi.connected then fieldText runtime.wifi.ssid else emptyText,
      if runtime.wifi.connected then fieldText runtime.wifi.ip else emptyText,
      fieldText device.manufacturer, fieldText device.model, fieldText device.swVersion,
      fieldText device.hwVersion] ++
      (if d.valid then [fieldText runtime.diagnostics.firmwareElfSha256] else []) ++ [],
      Utf8.Valid text.bytes) ↔ _
  simp only [stateTexts, List.forall_mem_append, List.forall_mem_cons, uptime, true_and]
  cases runtime.wifi.connected <;> cases d.valid <;> simp [empty, fieldText, and_assoc]

theorem run_written {cursor cursor' : JsonCursor} {call : PrintCall}
    (ran : call.run cursor = .ok cursor') : cursor'.written = cursor.written ++ call.bytes := by
  cases call with
  | print bytes => exact put_written ran
  | literal bytes =>
    by_cases empty : cursor.remaining = 0
    · rw [PrintCall.run, if_pos empty] at ran
      cases ran
    · rw [PrintCall.run, if_neg empty] at ran
      exact put_written ran
  | string text =>
    rw [jsonWriteString_written ran, PrintCall.bytes, List.append_assoc quote]

theorem calls_written {calls : List PrintCall} {cursor cursor' : JsonCursor}
    (ran : calls.foldlM PrintCall.run cursor = .ok cursor') :
    cursor'.written = cursor.written ++ calls.flatMap PrintCall.bytes := by
  induction calls generalizing cursor with
  | nil =>
    cases ran
    exact (List.append_nil _).symm
  | cons call rest ih =>
    rw [List.foldlM_cons] at ran
    cases first : call.run cursor with
    | error e =>
      rw [first] at ran
      cases ran
    | ok middle =>
      rw [first] at ran
      rw [ih ran, run_written first, List.flatMap_cons, List.append_assoc]

theorem built_written {counters : RelayCounters} {runtime : MqttRelayRuntimeStatus}
    {d : DiagnosticsFields} {device : MqttRelayDeviceInfo} {outSize : Nat} {payload : List UInt8}
    (built : buildStatePayload counters runtime d device outSize = .ok payload) :
    payload = (stateCalls counters runtime d device (uptimeText runtime.uptimeSeconds)).flatMap
      PrintCall.bytes := by
  unfold buildStatePayload at built
  split at built
  · cases built
  · cases uptime : formatUptime runtime.uptimeSeconds 64 with
    | error e =>
      rw [uptime] at built
      cases built
    | ok printed =>
      have same : printed = uptimeText runtime.uptimeSeconds := by
        unfold formatUptime at uptime
        split at uptime
        · cases uptime
        · split at uptime
          · cases uptime
          · cases uptime
            rfl
      subst same
      rw [uptime] at built
      cases ran : (stateCalls counters runtime d device
          (uptimeText runtime.uptimeSeconds)).foldlM PrintCall.run
          { written := [], remaining := outSize } with
      | error e =>
        have failed := congrArg (· >>= fun cursor : JsonCursor =>
          (.ok cursor.written : Except JsonError (List UInt8))) ran
        cases failed.symm.trans built
      | ok cursor =>
        have whole := congrArg (· >>= fun cursor : JsonCursor =>
          (.ok cursor.written : Except JsonError (List UInt8))) ran
        have same : cursor.written = payload := Except.ok.inj (whole.symm.trans built)
        rw [← same, calls_written ran, List.nil_append]

def stateMembers (counters : RelayCounters) (runtime : MqttRelayRuntimeStatus)
    (d : DiagnosticsFields) (device : MqttRelayDeviceInfo) : List (List Char × Json.Value) :=
  (stateEntries counters runtime d device (uptimeText runtime.uptimeSeconds)).map fun entry =>
    (entry.1.toList, entry.2.value)

/-- A state is read as its object where its texts are UTF-8, and not at all where one is not. -/
theorem decode_built {counters : RelayCounters} {runtime : MqttRelayRuntimeStatus}
    {d : DiagnosticsFields} {device : MqttRelayDeviceInfo} {outSize : Nat} {payload : List UInt8}
    (built : buildStatePayload counters runtime d device outSize = .ok payload) :
    ((∀ bytes ∈ stateTexts runtime d device, Utf8.Valid bytes) →
      Json.decode payload = some (.object (stateMembers counters runtime d device))) ∧
    ((Json.decode payload).isSome → ∀ bytes ∈ stateTexts runtime d device, Utf8.Valid bytes) := by
  have low := low_calls counters runtime d device (uptimeText runtime.uptimeSeconds)
  rw [built_written built]
  constructor
  · intro texts
    rw [encode_calls low ((valid_texts_iff counters runtime d device).mpr texts), chars_calls]
    have some_ : (stateEntries counters runtime d device (uptimeText runtime.uptimeSeconds)).map
        (fun entry => (entry.1.toList, entry.2)) ≠ [] := List.cons_ne_nil _ _
    have spells := Json.Written.spells_members some_
      (List.forall_mem_map.mpr (named_entries counters runtime d device _))
    rw [List.map_map, List.map_map] at spells
    exact Json.decode_of_spells spells
  · intro decoded
    rw [← valid_texts_iff counters runtime d device, ← valid_calls_iff low]
    obtain ⟨value, read⟩ := Option.isSome_iff_exists.mp decoded
    obtain ⟨chars, utf8, _⟩ := Option.bind_eq_some_iff.mp read
    exact ⟨chars, Utf8.decode_eq_some_iff.mp utf8⟩

theorem names_nodup (counters : RelayCounters) (runtime : MqttRelayRuntimeStatus)
    (d : DiagnosticsFields) (device : MqttRelayDeviceInfo) (uptime : CText) :
    ((stateEntries counters runtime d device uptime).map Prod.fst).Nodup := by
  rw [stateEntries, diagnosticEntries]
  cases d.valid with
  | false =>
    simp only [baseEntries, Bool.false_eq_true, ↓reduceIte, List.append_nil, List.map_cons,
      List.map_nil]
    decide +kernel
  | true =>
    simp only [baseEntries, diagnostics, ↓reduceIte, List.map_cons, List.map_nil, List.cons_append,
      List.nil_append]
    decide +kernel

end StatePayload

open StatusValue

namespace Diagnostics

theorem get_absent {list : Attributes} {key : String} (absent : key ∉ list.map Prod.fst) :
    get list key = none := by
  unfold StatusValue.get
  induction list with
  | nil => rfl
  | cons entry rest ih =>
    obtain ⟨differ, later⟩ := not_or.mp (mt List.mem_cons.mpr absent)
    rw [List.lookup_cons, beq_eq_false_iff_ne.mpr differ]
    exact ih later

theorem get_listed {list : Attributes} (nodup : (list.map Prod.fst).Nodup)
    {entry : String × StatusValue} (member : entry ∈ list) : get list entry.1 = some entry.2 := by
  unfold StatusValue.get
  induction list with
  | nil => cases member
  | cons first rest ih =>
    obtain ⟨once, others⟩ := List.nodup_cons.mp nodup
    rcases List.mem_cons.mp member with rfl | later
    · rw [List.lookup_cons, beq_self_eq_true]
    · have differ : entry.1 ≠ first.1 := by
        rintro same
        exact once (same ▸ List.mem_map_of_mem later)
      rw [List.lookup_cons, beq_eq_false_iff_ne.mpr differ]
      exact ih others later

section Parsed
variable {data : Attributes} {key : String}

theorem copied_bool {b : Bool} (field : key ∈ boolFields) (told : get data key = some (.boolean b)) :
    copied data key = some (.boolean b) := by
  rw [copied, if_pos field, boolField, told]
  rfl

theorem copied_int {n : Int} (field : key ∈ intFields) (noFlag : key ∉ boolFields)
    (told : get data key = some (.int n)) (range : -(2 ^ 63) ≤ n ∧ n < 2 ^ 64) :
    copied data key = some (.int n) := by
  have kept : intField data key = some (key, .int n) := by rw [intField, told]; exact if_pos range
  rw [copied, if_neg noFlag, if_pos field, kept]
  rfl

theorem copied_digest (data : Attributes) :
    copied data "firmware_elf_sha256" = (digestField data).map Prod.snd := by
  rw [copied, if_neg (by decide), if_neg (by decide), if_pos rfl]

theorem copied_none (noDigest : key ≠ "firmware_elf_sha256")
    (unread : (key ∉ boolFields ∧ key ∉ intFields) ∨ get data key = none) :
    copied data key = none := by
  rw [copied, if_neg noDigest]
  rcases unread with ⟨noFlag, noNumber⟩ | absent
  · rw [if_neg noFlag, if_neg noNumber]
  · have flag : boolField data key = none := by rw [boolField, absent]; rfl
    have number : intField data key = none := by rw [intField, absent]; rfl
    rw [flag, number]
    split
    · rfl
    · split <;> rfl

theorem get_parse_field (other : key ≠ "stored_peer_count") (another : key ≠ "boot_peer_count") :
    get (parseDiagnostics data) key = copied data key := by
  rw [get_parse, parsedValue, if_neg fun same => other same.1, if_neg fun same => another same.1]

theorem get_parse_stored (data : Attributes) : get (parseDiagnostics data) "stored_peer_count" =
    if PeersKnown data then copied data "stored_peer_count" else some .null := by
  rw [get_parse, parsedValue]
  by_cases known : PeersKnown data <;> simp [known]

theorem get_parse_boot {n : Int} (told : copied data "boot_peer_count" = some (.int n)) :
    get (parseDiagnostics data) "boot_peer_count" = some (if n < 0 then .null else .int n) := by
  rw [get_parse, parsedValue, if_neg (by simp), told]
  by_cases negative : n < 0 <;> simp [negative, int?]

theorem get_parse_boot_none (untold : copied data "boot_peer_count" = none) :
    get (parseDiagnostics data) "boot_peer_count" = none := by
  rw [get_parse, parsedValue, if_neg (by simp), untold]
  rfl

end Parsed

end Diagnostics

namespace StatePayload

open Diagnostics

/-- What an attribute has of a value. -/
def status : Json.Value → StatusValue
  | .null => .null
  | .bool b => .boolean b
  | .number n => .int n
  | .string chars => .text (String.ofList chars)
  | .object _ => .other

/-- The attributes of the status entity: the members of the state's object. -/
def attributes (members : List (List Char × Json.Value)) : Attributes :=
  members.map fun m => (String.ofList m.1, status m.2)

def Diagnostic.status : Diagnostic → StatusValue
  | bool value => .boolean value
  | int value => .int value.toInt

theorem status_written (value : Diagnostic) : status value.written.value = value.status := by
  cases value <;> rfl

def Diagnostic.isFlag : Diagnostic → Bool
  | bool _ => true
  | int _ => false

def baseTold (counters : RelayCounters) (runtime : MqttRelayRuntimeStatus) : Attributes :=
  [("wifi_connected", .boolean runtime.wifi.connected),
    ("mqtt_connected", .boolean runtime.mqttConnected),
    ("ble_connected", .boolean runtime.bleConnected),
    ("ble_bonded", .boolean runtime.bleBonded),
    ("uptime_seconds", .int runtime.uptimeSeconds),
    ("accepted", .int counters.accepted.toNat),
    ("published_ack", .int counters.publishedAck.toNat),
    ("dropped_offline", .int counters.droppedOffline.toNat),
    ("dropped_enqueue", .int counters.droppedEnqueue.toNat),
    ("dropped_policy", .int counters.droppedPolicy.toNat)]

def told (counters : RelayCounters) (runtime : MqttRelayRuntimeStatus) (d : DiagnosticsFields) :
    Attributes :=
  baseTold counters runtime ++ if d.valid then
    ("diagnostics_version", .int 1) ::
      (diagnostics runtime d).map fun entry => (entry.1, entry.2.status)
  else []

def toldDigest (runtime : MqttRelayRuntimeStatus) (d : DiagnosticsFields) : Option StatusValue :=
  let digest := Utf8.replaceInvalid (text runtime.diagnostics.firmwareElfSha256)
  if d.valid ∧ digest.length = 64 ∧ digest.all isHexDigit then
    some (.text (String.ofList (digest.map Char.toLower)))
  else none

/-- Home Assistant holds what the relay has told, and nothing else. -/
structure Holds (counters : RelayCounters) (runtime : MqttRelayRuntimeStatus)
    (d : DiagnosticsFields) (held : Attributes) : Prop where
  told : ∀ entry ∈ told counters runtime d,
    entry.1 ≠ "stored_peer_count" → entry.1 ≠ "boot_peer_count" → get held entry.1 = some entry.2
  storedPeers : get held "stored_peer_count" =
    some (if d.valid = true ∧ d.bondStoreKnown = true ∧ 0 ≤ d.storedPeerCount.toInt
      then .int d.storedPeerCount.toInt else .null)
  bootPeers : get held "boot_peer_count" =
    if d.valid then some (if d.bootPeerCount.toInt < 0 then .null else .int d.bootPeerCount.toInt)
    else none
  digest : get held "firmware_elf_sha256" = toldDigest runtime d
  others : ∀ key, key ∉ (StatePayload.told counters runtime d).map Prod.fst →
    key ≠ "stored_peer_count" → key ≠ "firmware_elf_sha256" → get held key = none

section Held
variable (counters : RelayCounters) (runtime : MqttRelayRuntimeStatus) (d : DiagnosticsFields)
  (device : MqttRelayDeviceInfo)

theorem attributes_entries : attributes (stateMembers counters runtime d device) =
    (stateEntries counters runtime d device (uptimeText runtime.uptimeSeconds)).map fun entry =>
      (entry.1, status entry.2.value) := by
  rw [attributes, stateMembers, List.map_map]
  simp only [Function.comp_def, String.ofList_toList]

theorem attributes_names : (attributes (stateMembers counters runtime d device)).map Prod.fst =
    (stateEntries counters runtime d device (uptimeText runtime.uptimeSeconds)).map Prod.fst := by
  rw [attributes_entries, List.map_map]
  rfl

theorem told_listed : ∀ entry ∈ told counters runtime d,
    entry ∈ attributes (stateMembers counters runtime d device) := by
  rw [attributes_entries, stateEntries, List.map_append, told]
  intro entry member
  rcases List.mem_append.mp member with base | more
  · apply List.mem_append_left
    have places : ∀ entry ∈ baseTold counters runtime,
        ∃ i : Nat, ((baseEntries counters runtime device
          (uptimeText runtime.uptimeSeconds)).map fun entry =>
            (entry.1, status entry.2.value))[i]? = some entry := by
      simp only [baseTold, List.forall_mem_cons]
      exact ⟨⟨2, rfl⟩, ⟨3, rfl⟩, ⟨4, rfl⟩, ⟨5, rfl⟩, ⟨6, rfl⟩, ⟨8, rfl⟩, ⟨9, rfl⟩, ⟨10, rfl⟩,
        ⟨11, rfl⟩, ⟨12, rfl⟩, fun _ none_ => absurd none_ List.not_mem_nil⟩
    obtain ⟨i, found⟩ := places entry base
    exact List.mem_of_getElem? found
  · apply List.mem_append_right
    unfold diagnosticEntries
    split at more
    · next valid =>
      rw [if_pos valid, List.map_append]
      apply List.mem_append_left
      rcases List.mem_cons.mp more with rfl | listed
      · exact List.mem_cons_self
      · obtain ⟨diagnostic, among, rfl⟩ := List.mem_map.mp listed
        apply List.mem_cons_of_mem
        rw [List.map_map]
        refine List.mem_map.mpr ⟨diagnostic, among, ?_⟩
        rw [← status_written]
        rfl
    · cases more

theorem told_kinds (small : runtime.uptimeSeconds < 2 ^ 64) :
    ∀ entry ∈ told counters runtime d, (∃ b, entry.2 = .boolean b ∧ entry.1 ∈ boolFields) ∨
      ∃ n, entry.2 = .int n ∧ entry.1 ∈ intFields ∧ entry.1 ∉ boolFields ∧
        -(2 ^ 63) ≤ n ∧ n < 2 ^ 64 := by
  have word (n : UInt32) : -(2 ^ 63) ≤ (n.toNat : Int) ∧ (n.toNat : Int) < 2 ^ 64 := by
    have below := n.toNat_lt
    omega
  have base : ∀ entry ∈ baseTold counters runtime,
      (∃ b, entry.2 = .boolean b ∧ entry.1 ∈ boolFields) ∨
      ∃ n, entry.2 = .int n ∧ entry.1 ∈ intFields ∧ entry.1 ∉ boolFields ∧
        -(2 ^ 63) ≤ n ∧ n < 2 ^ 64 := by
    simp only [baseTold, List.forall_mem_cons]
    refine ⟨.inl ⟨_, rfl, by decide⟩, .inl ⟨_, rfl, by decide⟩, .inl ⟨_, rfl, by decide⟩,
      .inl ⟨_, rfl, by decide⟩, .inr ⟨_, rfl, by decide, by decide, by omega⟩,
      .inr ⟨_, rfl, by decide, by decide, word _⟩, .inr ⟨_, rfl, by decide, by decide, word _⟩,
      .inr ⟨_, rfl, by decide, by decide, word _⟩, .inr ⟨_, rfl, by decide, by decide, word _⟩,
      .inr ⟨_, rfl, by decide, by decide, word _⟩, fun _ none_ => absurd none_ List.not_mem_nil⟩
  have kinds : ∀ kind ∈ (diagnostics runtime d).map fun entry => (entry.1, entry.2.isFlag),
      if kind.2 then kind.1 ∈ boolFields else kind.1 ∈ intFields ∧ kind.1 ∉ boolFields := by
    simp only [diagnostics, List.map_cons, List.map_nil, Diagnostic.isFlag, Diagnostic.word,
      Diagnostic.longWord, Diagnostic.signed]
    decide +kernel
  intro entry member
  rcases List.mem_append.mp member with early | more
  · exact base entry early
  · split at more
    · rcases List.mem_cons.mp more with rfl | listed
      · exact .inr ⟨1, rfl, by decide, by decide, by decide, by decide⟩
      · obtain ⟨diagnostic, among, rfl⟩ := List.mem_map.mp listed
        have kind := kinds _ (List.mem_map_of_mem among)
        cases value : diagnostic.2 with
        | bool b =>
          rw [value] at kind
          exact .inl ⟨b, rfl, kind⟩
        | int n =>
          rw [value] at kind
          have low := n.le_toInt
          have high := n.toInt_lt
          exact .inr ⟨n.toInt, rfl, kind.1, kind.2, by omega, by omega⟩
    · cases more

theorem get_attributes {entry : String × StatusValue}
    (listed : entry ∈ attributes (stateMembers counters runtime d device)) :
    get (attributes (stateMembers counters runtime d device)) entry.1 = some entry.2 := by
  apply get_listed _ listed
  rw [attributes_names]
  exact names_nodup counters runtime d device _

theorem copied_told (small : runtime.uptimeSeconds < 2 ^ 64) {entry : String × StatusValue}
    (member : entry ∈ told counters runtime d) :
    copied (attributes (stateMembers counters runtime d device)) entry.1 = some entry.2 := by
  have listed := told_listed counters runtime d device entry member
  have held := get_attributes counters runtime d device listed
  rcases told_kinds counters runtime d small entry member with
    ⟨b, flag, field⟩ | ⟨n, number, field, noFlag, range⟩
  · rw [flag] at held ⊢
    exact copied_bool field held
  · rw [number] at held ⊢
    exact copied_int field noFlag held range

theorem told_diagnostic (valid : d.valid = true) {name : String} {value : Diagnostic}
    (among : (name, value) ∈ diagnostics runtime d) :
    (name, value.status) ∈ told counters runtime d := by
  rw [told, if_pos valid]
  exact List.mem_append_right _ (List.mem_cons_of_mem _ (List.mem_map.mpr ⟨_, among, rfl⟩))

theorem unread_untold {key : String} (untold : key ∉ (told counters runtime d).map Prod.fst) :
    (key ∉ boolFields ∧ key ∉ intFields) ∨
      get (attributes (stateMembers counters runtime d device)) key = none := by
  have base : ∀ key ∈ boolFields ++ intFields,
      key ∈ (baseEntries counters runtime device (uptimeText runtime.uptimeSeconds)).map Prod.fst →
        key ∈ (baseTold counters runtime).map Prod.fst := by
    simp only [baseEntries, baseTold, List.map_cons, List.map_nil]
    decide +kernel
  by_cases field : key ∈ boolFields ++ intFields
  · right
    apply get_absent
    rw [attributes_names, stateEntries, List.map_append]
    intro listed
    apply untold
    rw [told, List.map_append]
    rcases List.mem_append.mp listed with early | more
    · exact List.mem_append_left _ (base key field early)
    · apply List.mem_append_right
      unfold diagnosticEntries at more
      split
      · next valid =>
        rw [if_pos valid, List.map_append, List.map_cons, List.map_map] at more
        rw [List.map_cons, List.map_map]
        rcases List.mem_append.mp more with same | digest
        · exact same
        · obtain rfl := List.mem_singleton.mp digest
          have unread : "firmware_elf_sha256" ∉ boolFields ++ intFields := by decide
          exact absurd field unread
      · next omitted =>
        rw [if_neg omitted] at more
        cases more
  · rw [List.mem_append, not_or] at field
    exact .inl field

theorem copied_omitted (omitted : d.valid = false) {key : String}
    (noDigest : key ≠ "firmware_elf_sha256")
    (untold : key ∉ (baseTold counters runtime).map Prod.fst) :
    copied (attributes (stateMembers counters runtime d device)) key = none := by
  apply copied_none noDigest
  apply unread_untold
  rw [told, omitted]
  simpa using untold

theorem holds_parsed (small : runtime.uptimeSeconds < 2 ^ 64) :
    Holds counters runtime d
      (parseDiagnostics (attributes (stateMembers counters runtime d device))) where
  told entry member noStored noBoot := by
    rw [get_parse_field noStored noBoot]
    exact copied_told counters runtime d device small member
  storedPeers := by
    rw [get_parse_stored]
    cases valid : d.valid with
    | false =>
      have untold : copied (attributes (stateMembers counters runtime d device))
          "bond_store_known" = none :=
        copied_omitted counters runtime d device valid (by decide)
          (by simp only [baseTold, List.map_cons, List.map_nil]; decide)
      have unknown : ¬ PeersKnown (attributes (stateMembers counters runtime d device)) := by
        intro known
        rw [PeersKnown, untold] at known
        cases known.1
      rw [if_neg unknown]
      simp
    | true =>
      have stored : ("bond_store_known", Diagnostic.bool d.bondStoreKnown) ∈
          diagnostics runtime d := List.mem_of_getElem? (i := 7) rfl
      have counted : ("stored_peer_count", Diagnostic.signed d.storedPeerCount) ∈
          diagnostics runtime d := List.mem_of_getElem? (i := 8) rfl
      have known := copied_told counters runtime d device small
        (told_diagnostic counters runtime d valid stored)
      have count := copied_told counters runtime d device small
        (told_diagnostic counters runtime d valid counted)
      simp only [Diagnostic.status, Diagnostic.signed, Int32.toInt_toInt64] at known count
      simp only [PeersKnown, known, count, int?, Option.getD_some]
      cases d.bondStoreKnown <;> by_cases sensible : 0 ≤ d.storedPeerCount.toInt <;>
        simp [sensible]
  bootPeers := by
    cases valid : d.valid with
    | false =>
      exact get_parse_boot_none (copied_omitted counters runtime d device valid (by decide)
        (by simp only [baseTold, List.map_cons, List.map_nil]; decide))
    | true =>
      have counted : ("boot_peer_count", Diagnostic.signed d.bootPeerCount) ∈
          diagnostics runtime d := List.mem_of_getElem? (i := 10) rfl
      have count := copied_told counters runtime d device small
        (told_diagnostic counters runtime d valid counted)
      simp only [Diagnostic.status, Diagnostic.signed, Int32.toInt_toInt64] at count
      exact get_parse_boot count
  digest := by
    rw [get_parse_field (by decide) (by decide), copied_digest, digestField, toldDigest]
    cases valid : d.valid with
    | false =>
      have untold : get (attributes (stateMembers counters runtime d device))
          "firmware_elf_sha256" = none := by
        apply get_absent
        rw [attributes_names, stateEntries, diagnosticEntries, valid]
        simp only [baseEntries, Bool.false_eq_true, ↓reduceIte, List.append_nil, List.map_cons,
          List.map_nil]
        decide
      simp [untold]
    | true =>
      have last : ("firmware_elf_sha256", StatusValue.text (String.ofList
          (Utf8.replaceInvalid (text runtime.diagnostics.firmwareElfSha256)))) ∈
          attributes (stateMembers counters runtime d device) := by
        rw [attributes_entries, stateEntries, diagnosticEntries, if_pos valid, List.map_append,
          List.map_append]
        exact List.mem_append_right _ (List.mem_append_right _ List.mem_cons_self)
      have told := get_attributes counters runtime d device last
      dsimp only at told
      simp only [told, String.length_ofList, String.toList_ofList, true_and]
      split <;> rfl
  others key untold noStored noDigest := by
    by_cases boot : key = "boot_peer_count"
    · subst boot
      have unread := unread_untold counters runtime d device untold
      exact get_parse_boot_none (copied_none noDigest unread)
    · rw [get_parse_field noStored boot]
      exact copied_none noDigest (unread_untold counters runtime d device untold)

end Held

/-- A state that the relay has built is read as JSON exactly where its texts are UTF-8, and then
    Home Assistant holds what the relay has told: every flag and number, the counts of the peers
    only where they are known, the digest, and nothing else. -/
theorem state_reads_back {counters : RelayCounters} {runtime : MqttRelayRuntimeStatus}
    {d : DiagnosticsFields} {device : MqttRelayDeviceInfo} {outSize : Nat} {payload : List UInt8}
    (small : runtime.uptimeSeconds < 2 ^ 64)
    (built : buildStatePayload counters runtime d device outSize = .ok payload) :
    ((Json.decode payload).isSome = true ↔
      ∀ bytes ∈ stateTexts runtime d device, Utf8.Valid bytes) ∧
    ∀ value, Json.decode payload = some value → ∃ members, value = .object members ∧
      (members.map Prod.fst).Nodup ∧
        Holds counters runtime d (parseDiagnostics (attributes members)) := by
  obtain ⟨reads, texts⟩ := decode_built built
  refine ⟨⟨texts, fun valid => by rw [reads valid]; rfl⟩, ?_⟩
  intro value decoded
  have valid := texts (Option.isSome_of_eq_some decoded)
  obtain rfl : value = .object (stateMembers counters runtime d device) :=
    Option.some.inj (decoded.symm.trans (reads valid))
  refine ⟨_, rfl, ?_, holds_parsed counters runtime d device small⟩
  have names := names_nodup counters runtime d device (uptimeText runtime.uptimeSeconds)
  rw [← attributes_names, attributes, List.map_map] at names
  have own : (stateMembers counters runtime d device).map (Prod.fst ∘ fun m =>
      (String.ofList m.1, status m.2)) =
      ((stateMembers counters runtime d device).map Prod.fst).map String.ofList := by
    rw [List.map_map]
    rfl
  rw [own] at names
  exact names.of_map String.ofList

/-- A network whose name is the Latin-1 byte of a small e with an acute accent. -/
def latinNetwork : MqttRelayWifiStatus := { strangeNetwork with ssid := ofText 32 [0xE9] }

theorem latin_network_is_not_read : ∃ payload,
    buildStatePayload fullCounters (runtimeIn latinNetwork) default thisDevice statePayloadMax =
        .ok payload ∧
      Json.decode payload = none := by
  have isOk : (buildStatePayload fullCounters (runtimeIn latinNetwork) default thisDevice
      statePayloadMax).toOption.isSome = true := by decide +kernel
  cases built : buildStatePayload fullCounters (runtimeIn latinNetwork) default thisDevice
      statePayloadMax with
  | error e =>
    rw [built] at isOk
    cases isOk
  | ok payload =>
    refine ⟨payload, rfl, ?_⟩
    have small : (runtimeIn latinNetwork).uptimeSeconds < 2 ^ 64 := by
      show 18446744073709551615 < 2 ^ 64
      decide
    have iff_ := (state_reads_back small built).1
    have invalid : ¬ ∀ bytes ∈ stateTexts (runtimeIn latinNetwork) default thisDevice,
        Utf8.Valid bytes := by
      intro all
      have name := all [0xE9] (by decide +kernel)
      rw [Utf8.valid_iff] at name
      exact absurd name (by decide)
    exact Option.isNone_iff_eq_none.mp (by simpa using mt iff_.mp invalid)

def utf8Network : MqttRelayWifiStatus := { strangeNetwork with ssid := ofText 32 [0xC3, 0xA9] }

theorem utf8_network_is_read : ∃ payload members,
    buildStatePayload fullCounters (runtimeIn utf8Network)
        { (default : DiagnosticsFields) with valid := true } thisDevice statePayloadMax =
      .ok payload ∧
    Json.decode payload = some (.object members) ∧
    get (parseDiagnostics (attributes members)) "firmware_elf_sha256" =
      some (.text (String.ofList (List.replicate 64 'a'))) := by
  have isOk : (buildStatePayload fullCounters (runtimeIn utf8Network)
      { (default : DiagnosticsFields) with valid := true } thisDevice
      statePayloadMax).toOption.isSome = true := by decide +kernel
  cases built : buildStatePayload fullCounters (runtimeIn utf8Network)
      { (default : DiagnosticsFields) with valid := true } thisDevice statePayloadMax with
  | error e =>
    rw [built] at isOk
    cases isOk
  | ok payload =>
    have valid : ∀ bytes ∈ stateTexts (runtimeIn utf8Network)
        { (default : DiagnosticsFields) with valid := true } thisDevice, Utf8.Valid bytes := by
      simp only [Utf8.valid_iff]
      decide +kernel
    refine ⟨payload, _, rfl, (decode_built built).1 valid, ?_⟩
    have small : (runtimeIn utf8Network).uptimeSeconds < 2 ^ 64 := by
      show 18446744073709551615 < 2 ^ 64
      decide
    rw [(holds_parsed _ _ _ _ small).digest]
    decide +kernel

end StatePayload
