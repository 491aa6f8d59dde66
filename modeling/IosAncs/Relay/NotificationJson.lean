import IosAncs.Foundation.Json
import IosAncs.Protocol.Notification
import IosAncs.Relay.JsonWriters

/-!
The JSON object that the sink writes for a notification, and the buffer that it asks for.
The source is `notification_sink_serial.c`.
-/
open CString AncsProtocol JsonWriters

/-- `CONFIG_IDF_TARGET`, of the targets that the firmware supports. -/
inductive IdfTarget where
  | esp32
  | esp32c2
  | esp32c3
  | esp32c5
  | esp32c6
  | esp32c61
  | esp32s3
  deriving DecidableEq

namespace IdfTarget

def id : IdfTarget → List Char
  | .esp32 => "esp32".toList
  | .esp32c2 => "esp32c2".toList
  | .esp32c3 => "esp32c3".toList
  | .esp32c5 => "esp32c5".toList
  | .esp32c6 => "esp32c6".toList
  | .esp32c61 => "esp32c61".toList
  | .esp32s3 => "esp32s3".toList

end IdfTarget

namespace NotificationSink

def eventNames : List CText :=
  [{ bytes := ascii "added", nonzero := by decide +kernel },
    { bytes := ascii "modified", nonzero := by decide +kernel },
    { bytes := ascii "removed", nonzero := by decide +kernel }]

def eventName (eventId : UInt8) : CText :=
  eventNames.getD eventId.toNat { bytes := ascii "unknown", nonzero := by decide +kernel }

def categoryNames : List CText :=
  [{ bytes := ascii "other", nonzero := by decide +kernel },
    { bytes := ascii "incoming_call", nonzero := by decide +kernel },
    { bytes := ascii "missed_call", nonzero := by decide +kernel },
    { bytes := ascii "voicemail", nonzero := by decide +kernel },
    { bytes := ascii "social", nonzero := by decide +kernel },
    { bytes := ascii "schedule", nonzero := by decide +kernel },
    { bytes := ascii "email", nonzero := by decide +kernel },
    { bytes := ascii "news", nonzero := by decide +kernel },
    { bytes := ascii "health_and_fitness", nonzero := by decide +kernel },
    { bytes := ascii "business_and_finance", nonzero := by decide +kernel },
    { bytes := ascii "location", nonzero := by decide +kernel },
    { bytes := ascii "entertainment", nonzero := by decide +kernel }]

def categoryName (categoryId : UInt8) : CText :=
  categoryNames.getD categoryId.toNat { bytes := ascii "reserved", nonzero := by decide +kernel }

def errCanceled : Int := -9

def errorNames : List (Int × CText) :=
  [(errArgument, { bytes := ascii "invalid_argument", nonzero := by decide +kernel }),
    (errLength, { bytes := ascii "invalid_length", nonzero := by decide +kernel }),
    (errEvent, { bytes := ascii "invalid_event", nonzero := by decide +kernel }),
    (errCommand, { bytes := ascii "invalid_command", nonzero := by decide +kernel }),
    (errUidMismatch, { bytes := ascii "uid_mismatch", nonzero := by decide +kernel }),
    (errAttribute, { bytes := ascii "invalid_attribute", nonzero := by decide +kernel }),
    (errOverflow, { bytes := ascii "overflow", nonzero := by decide +kernel }),
    (errSequence, { bytes := ascii "invalid_sequence", nonzero := by decide +kernel }),
    (errCanceled, { bytes := ascii "canceled", nonzero := by decide +kernel }),
    (errTimeout, { bytes := ascii "timeout", nonzero := by decide +kernel }),
    (0xA0, { bytes := ascii "unknown_command", nonzero := by decide +kernel }),
    (0xA1, { bytes := ascii "invalid_ancs_command", nonzero := by decide +kernel }),
    (0xA2, { bytes := ascii "invalid_parameter", nonzero := by decide +kernel }),
    (0xA3, { bytes := ascii "action_failed", nonzero := by decide +kernel })]

def errorName (errorCode : Int) : CText :=
  (errorNames.lookup errorCode).getD { bytes := ascii "unknown", nonzero := by decide +kernel }

def jsonBool (value : Bool) : List Char := if value then "true".toList else "false".toList

def eventFlagIsSet (flags flag : UInt8) : Bool := flags &&& flag != 0

def eventFlagSilent : UInt8 := 1
def eventFlagImportant : UInt8 := 2
def eventFlagPreExisting : UInt8 := 4
def eventFlagPositiveAction : UInt8 := 8
def eventFlagNegativeAction : UInt8 := 16

/-- A call of the writer. -/
inductive WriterCall where
  /-- `writer_raw` and `writer_format` -/
  | print (chars : List Char)
  /-- `writer_string` -/
  | string (text : CText)

namespace WriterCall

def run (writer : JsonWriter) : WriterCall → JsonWriter
  | print chars => writer.append (Utf8.encode chars)
  | string text => writerString writer text

end WriterCall

variable {limits : AncsLimits}

def errorCalls (n : AncsNotification limits) : List WriterCall :=
  if n.complete = true ∧ n.errorCode = 0 then [.print "null".toList]
  else [.print ("\x7b\"code\":".toList ++ Decimal.integer n.errorCode ++ ",\"name\":".toList),
    .string (errorName n.errorCode), .print "\x7d".toList]

def formatCalls (target : IdfTarget) (n : AncsNotification limits) (deviceName : CText) :
    List WriterCall :=
  [.print ("\x7b\"schema_version\":1,\"target\":\"".toList ++ target.id ++ "\",\"device_name\":".toList),
    .string deviceName,
    .print (",\"session_id\":".toList ++ Decimal.digits n.sessionId.toNat ++ ",\"event\":".toList),
    .string (eventName n.eventId),
    .print (",\"event_id\":".toList ++ Decimal.digits n.eventId.toNat ++
      ",\"uid\":".toList ++ Decimal.digits n.uid.toNat ++
      ",\"event_flags\":".toList ++ Decimal.digits n.eventFlags.toNat ++
      ",\"silent\":".toList ++ jsonBool (eventFlagIsSet n.eventFlags eventFlagSilent) ++
      ",\"important\":".toList ++ jsonBool (eventFlagIsSet n.eventFlags eventFlagImportant) ++
      ",\"pre_existing\":".toList ++ jsonBool (eventFlagIsSet n.eventFlags eventFlagPreExisting) ++
      ",\"positive_action_available\":".toList ++
      jsonBool (eventFlagIsSet n.eventFlags eventFlagPositiveAction) ++
      ",\"negative_action_available\":".toList ++
      jsonBool (eventFlagIsSet n.eventFlags eventFlagNegativeAction) ++
      ",\"category_id\":".toList ++ Decimal.digits n.categoryId.toNat ++ ",\"category\":".toList),
    .string (categoryName n.categoryId),
    .print (",\"category_count\":".toList ++ Decimal.digits n.categoryCount.toNat ++
      ",\"app_id\":".toList),
    .string (fieldText n.appId),
    .print ",\"app_name\":".toList,
    .string (fieldText n.appName),
    .print ",\"title\":".toList,
    .string (fieldText n.title),
    .print ",\"subtitle\":".toList,
    .string (fieldText n.subtitle),
    .print ",\"message\":".toList,
    .string (fieldText n.message),
    .print ",\"message_size\":".toList,
    .string (fieldText n.messageSizeRaw),
    .print ",\"date\":".toList,
    .string (fieldText n.dateRaw),
    .print (",\"complete\":".toList ++ jsonBool n.complete ++
      ",\"truncated\":\x7b\"app_id\":".toList ++ jsonBool n.appIdTruncated ++
      ",\"app_name\":".toList ++ jsonBool n.appNameTruncated ++
      ",\"title\":".toList ++ jsonBool n.titleTruncated ++
      ",\"subtitle\":".toList ++ jsonBool n.subtitleTruncated ++
      ",\"message\":".toList ++ jsonBool n.messageTruncated ++ "\x7d,\"error\":".toList)] ++
  errorCalls n ++
  [.print (",\"received_at_ms\":".toList ++ Decimal.integer n.receivedAtMs ++ "\x7d".toList)]

/-- `notification_sink_format_json`, with the text that it leaves in the buffer where it
    succeeds. -/
def formatJson (target : IdfTarget) (n : AncsNotification limits) (deviceName : CText)
    (capacity : Nat) : Int × List UInt8 :=
  if room : 0 < capacity then
    let writer := (formatCalls target n deviceName).foldl WriterCall.run
      { capacity, bytes := [], failed := false, room }
    if writer.failed then (-2, []) else (0, writer.bytes)
  else (-1, [])

/-- The bytes of the texts, as `notification_sink_publish` adds them up. -/
def textLength (n : AncsNotification limits) (deviceName : CText) : Nat :=
  (text n.appId).length + (text n.appName).length + (text n.title).length +
    (text n.subtitle).length + (text n.message).length + (text n.messageSizeRaw).length +
    (text n.dateRaw).length + deviceName.bytes.length

/-- `notification_sink_publish`: its answer and what it prints. The texts are in memory at
    once, so that the sum of their lengths does not wrap. -/
def publish (sizeMax : Nat) (allocated : Bool) (target : IdfTarget) (n : AncsNotification limits)
    (deviceName : CText) : Int × Option (List UInt8) :=
  let length := textLength n deviceName
  if (sizeMax - 2048) / 6 < length then (-1, none)
  else if allocated = false then (-1, none)
  else
    match formatJson target n deviceName (2048 + length * 6) with
    | (0, json) => (0, some (ascii "ANCS_NOTIFICATION_JSON " ++ json ++ ascii "\n"))
    | (error, _) => (error, none)

def WriterCall.chars : WriterCall → List Char
  | .print chars => chars
  | .string text => quoted text.bytes

theorem emits_calls (calls : List WriterCall) :
    Emits (calls.foldl WriterCall.run) (Utf8.encode (calls.flatMap WriterCall.chars)) := by
  induction calls with
  | nil => exact emits_nil
  | cons call rest ih =>
    rw [List.flatMap_cons, Utf8.encode_append]
    cases call with
    | print chars => exact emits_comp (emits_append _) ih
    | string text => exact emits_comp (emits_string text) ih

def writtenText (bytes : List UInt8) : Json.Written where
  text := quoted bytes
  value := .string (Utf8.replaceInvalid bytes)
  size := 6 * bytes.length + 2
  spells := spells_quoted bytes
  small := length_quoted bytes

def errorMembers (errorCode : Int) : List (List Char × Json.Written) :=
  [("code".toList, .number errorCode), ("name".toList, writtenText (errorName errorCode).bytes)]

def truncatedMembers (n : AncsNotification limits) : List (List Char × Json.Written) :=
  [("app_id".toList, .bool n.appIdTruncated), ("app_name".toList, .bool n.appNameTruncated),
    ("title".toList, .bool n.titleTruncated), ("subtitle".toList, .bool n.subtitleTruncated),
    ("message".toList, .bool n.messageTruncated)]

theorem named_error (errorCode : Int) : ∀ p ∈ errorMembers errorCode, Json.Named p.1 := by
  have names : ∀ name ∈ (errorMembers errorCode).map Prod.fst, Json.Named name := by
    simp only [errorMembers, List.map_cons, List.map_nil]
    decide
  exact List.forall_mem_map.mp names

theorem named_truncated (n : AncsNotification limits) :
    ∀ p ∈ truncatedMembers n, Json.Named p.1 := by
  have names : ∀ name ∈ (truncatedMembers n).map Prod.fst, Json.Named name := by
    simp only [truncatedMembers, List.map_cons, List.map_nil]
    decide
  exact List.forall_mem_map.mp names

theorem named_target (target : IdfTarget) : Json.Named target.id := by
  cases target <;> decide

def writtenError (n : AncsNotification limits) : Json.Written :=
  if n.complete = true ∧ n.errorCode = 0 then .null
  else .object (errorMembers n.errorCode) (List.cons_ne_nil _ _) (named_error n.errorCode)

def members (target : IdfTarget) (n : AncsNotification limits) (deviceName : CText) :
    List (List Char × Json.Written) :=
  [("schema_version".toList, .byte 1),
    ("target".toList, .plain target.id (named_target target)),
    ("device_name".toList, writtenText deviceName.bytes),
    ("session_id".toList, .word n.sessionId),
    ("event".toList, writtenText (eventName n.eventId).bytes),
    ("event_id".toList, .byte n.eventId),
    ("uid".toList, .word n.uid),
    ("event_flags".toList, .byte n.eventFlags),
    ("silent".toList, .bool (eventFlagIsSet n.eventFlags eventFlagSilent)),
    ("important".toList, .bool (eventFlagIsSet n.eventFlags eventFlagImportant)),
    ("pre_existing".toList, .bool (eventFlagIsSet n.eventFlags eventFlagPreExisting)),
    ("positive_action_available".toList, .bool (eventFlagIsSet n.eventFlags eventFlagPositiveAction)),
    ("negative_action_available".toList, .bool (eventFlagIsSet n.eventFlags eventFlagNegativeAction)),
    ("category_id".toList, .byte n.categoryId),
    ("category".toList, writtenText (categoryName n.categoryId).bytes),
    ("category_count".toList, .byte n.categoryCount),
    ("app_id".toList, writtenText (text n.appId)),
    ("app_name".toList, writtenText (text n.appName)),
    ("title".toList, writtenText (text n.title)),
    ("subtitle".toList, writtenText (text n.subtitle)),
    ("message".toList, writtenText (text n.message)),
    ("message_size".toList, writtenText (text n.messageSizeRaw)),
    ("date".toList, writtenText (text n.dateRaw)),
    ("complete".toList, .bool n.complete),
    ("truncated".toList, .object (truncatedMembers n) (List.cons_ne_nil _ _) (named_truncated n)),
    ("error".toList, writtenError n),
    ("received_at_ms".toList, .number n.receivedAtMs)]

theorem named_members (target : IdfTarget) (n : AncsNotification limits) (deviceName : CText) :
    ∀ p ∈ members target n deviceName, Json.Named p.1 := by
  have names : ∀ name ∈ (members target n deviceName).map Prod.fst, Json.Named name := by
    simp only [members, List.map_cons, List.map_nil]
    decide
  exact List.forall_mem_map.mp names

def jsonChars (target : IdfTarget) (n : AncsNotification limits) (deviceName : CText) : List Char :=
  '{' :: Json.Member.joined ((members target n deviceName).map Json.Written.member) ++ ['}']

theorem chars_error (n : AncsNotification limits) :
    (errorCalls n).flatMap WriterCall.chars = (writtenError n).text := by
  unfold errorCalls writtenError
  split
  · exact List.append_nil _
  · simp [WriterCall.chars, errorMembers, writtenText, Json.Written.object, Json.Written.number,
      Json.Written.member, Json.Member.joined, Json.Member.head]

set_option maxRecDepth 4000 in
theorem chars_calls (target : IdfTarget) (n : AncsNotification limits) (deviceName : CText) :
    (formatCalls target n deviceName).flatMap WriterCall.chars =
      jsonChars target n deviceName := by
  have one : Decimal.digits 1 = ['1'] := by decide
  rw [jsonChars, formatCalls, List.flatMap_append, List.flatMap_append, chars_error]
  simp [WriterCall.chars, members, truncatedMembers, writtenText, Json.Written.object,
    Json.Written.number, Json.Written.byte, Json.Written.word, Json.Written.bool,
    Json.Written.plain, Json.Written.member, Json.Member.joined, Json.Member.head, fieldText,
    jsonBool, one]

structure InRange (n : AncsNotification limits) : Prop where
  errorCode : -2147483648 ≤ n.errorCode ∧ n.errorCode < 2147483648
  receivedAtMs : -9223372036854775808 ≤ n.receivedAtMs ∧ n.receivedAtMs < 9223372036854775808

theorem length_eventName (eventId : UInt8) : (eventName eventId).bytes.length ≤ 8 := by
  have names : ∀ name ∈ eventNames, name.bytes.length ≤ 8 := by decide
  unfold eventName
  rw [List.getD_eq_getElem?_getD]
  cases found : eventNames[eventId.toNat]? with
  | none => exact Nat.le_of_ble_eq_true rfl
  | some name => exact names name (List.mem_of_getElem? found)

theorem length_categoryName (categoryId : UInt8) : (categoryName categoryId).bytes.length ≤ 20 := by
  have names : ∀ name ∈ categoryNames, name.bytes.length ≤ 20 := by decide
  unfold categoryName
  rw [List.getD_eq_getElem?_getD]
  cases found : categoryNames[categoryId.toNat]? with
  | none => exact Nat.le_of_ble_eq_true rfl
  | some name => exact names name (List.mem_of_getElem? found)

theorem length_errorName (errorCode : Int) : (errorName errorCode).bytes.length ≤ 20 := by
  have names : ∀ entry ∈ errorNames, entry.2.bytes.length ≤ 20 := by decide
  unfold errorName
  cases found : errorNames.lookup errorCode with
  | none => exact Nat.le_of_ble_eq_true rfl
  | some name =>
    obtain ⟨before, after, split, _⟩ := List.lookup_eq_some_iff.mp found
    exact names (errorCode, name) (by simp [split])

theorem size_error {n : AncsNotification limits} (range : InRange n) :
    (writtenError n).size ≤ 155 := by
  have code := Decimal.length_integer (z := n.errorCode) (k := 10) (by decide)
    (by have := range.errorCode; omega)
  have name := length_errorName n.errorCode
  unfold writtenError
  split
  · exact Nat.le_of_ble_eq_true rfl
  · simp [Json.Written.object, errorMembers, Json.Written.cost, Json.Written.number, writtenText]
    omega

theorem length_json (target : IdfTarget) {n : AncsNotification limits} (range : InRange n)
    (deviceName : CText) :
    (Utf8.encode (jsonChars target n deviceName)).length < 2048 + textLength n deviceName * 6 := by
  have whole := Json.Written.length_members (named_members target n deviceName)
  have event := length_eventName n.eventId
  have category := length_categoryName n.categoryId
  have error := size_error range
  have received := Decimal.length_integer (z := n.receivedAtMs) (k := 19) (by decide)
    (by have := range.receivedAtMs; omega)
  have chip : target.id.length ≤ 8 := by cases target <;> decide
  have cost : ((members target n deviceName).map Json.Written.cost).sum + 2 <
      2048 + textLength n deviceName * 6 := by
    simp [members, truncatedMembers, Json.Written.cost, Json.Written.byte, Json.Written.word,
      Json.Written.bool, Json.Written.plain, Json.Written.object, Json.Written.number, writtenText,
      textLength]
    omega
  exact Nat.lt_of_le_of_lt whole cost

def errorValue (n : AncsNotification limits) : Json.Value :=
  if n.complete = true ∧ n.errorCode = 0 then .null
  else .object [("code".toList, .number n.errorCode),
    ("name".toList, .string (Utf8.replaceInvalid (errorName n.errorCode).bytes))]

def jsonFields (target : IdfTarget) (n : AncsNotification limits) (deviceName : CText) :
    List (List Char × Json.Value) :=
  [("schema_version".toList, .number 1),
    ("target".toList, .string target.id),
    ("device_name".toList, .string (Utf8.replaceInvalid deviceName.bytes)),
    ("session_id".toList, .number n.sessionId.toNat),
    ("event".toList, .string (Utf8.replaceInvalid (eventName n.eventId).bytes)),
    ("event_id".toList, .number n.eventId.toNat),
    ("uid".toList, .number n.uid.toNat),
    ("event_flags".toList, .number n.eventFlags.toNat),
    ("silent".toList, .bool (eventFlagIsSet n.eventFlags eventFlagSilent)),
    ("important".toList, .bool (eventFlagIsSet n.eventFlags eventFlagImportant)),
    ("pre_existing".toList, .bool (eventFlagIsSet n.eventFlags eventFlagPreExisting)),
    ("positive_action_available".toList, .bool (eventFlagIsSet n.eventFlags eventFlagPositiveAction)),
    ("negative_action_available".toList, .bool (eventFlagIsSet n.eventFlags eventFlagNegativeAction)),
    ("category_id".toList, .number n.categoryId.toNat),
    ("category".toList, .string (Utf8.replaceInvalid (categoryName n.categoryId).bytes)),
    ("category_count".toList, .number n.categoryCount.toNat),
    ("app_id".toList, .string (Utf8.replaceInvalid (text n.appId))),
    ("app_name".toList, .string (Utf8.replaceInvalid (text n.appName))),
    ("title".toList, .string (Utf8.replaceInvalid (text n.title))),
    ("subtitle".toList, .string (Utf8.replaceInvalid (text n.subtitle))),
    ("message".toList, .string (Utf8.replaceInvalid (text n.message))),
    ("message_size".toList, .string (Utf8.replaceInvalid (text n.messageSizeRaw))),
    ("date".toList, .string (Utf8.replaceInvalid (text n.dateRaw))),
    ("complete".toList, .bool n.complete),
    ("truncated".toList, .object
      [("app_id".toList, .bool n.appIdTruncated), ("app_name".toList, .bool n.appNameTruncated),
        ("title".toList, .bool n.titleTruncated), ("subtitle".toList, .bool n.subtitleTruncated),
        ("message".toList, .bool n.messageTruncated)]),
    ("error".toList, errorValue n),
    ("received_at_ms".toList, .number n.receivedAtMs)]

theorem value_error (n : AncsNotification limits) : (writtenError n).value = errorValue n := by
  unfold writtenError errorValue
  split <;> rfl

theorem values_members (target : IdfTarget) (n : AncsNotification limits) (deviceName : CText) :
    (members target n deviceName).map (fun p => (p.1, p.2.value)) =
      jsonFields target n deviceName := by
  rw [jsonFields, ← value_error]
  rfl

theorem decode_json (target : IdfTarget) (n : AncsNotification limits) (deviceName : CText) :
    Json.decode (Utf8.encode (jsonChars target n deviceName)) =
      some (.object (jsonFields target n deviceName)) := by
  rw [← values_members]
  exact Json.decode_of_spells (Json.Written.spells_members (List.cons_ne_nil _ _)
    (named_members target n deviceName))

theorem emits_json (target : IdfTarget) (n : AncsNotification limits) (deviceName : CText) :
    Emits ((formatCalls target n deviceName).foldl WriterCall.run)
      (Utf8.encode (jsonChars target n deviceName)) := by
  rw [← chars_calls]
  exact emits_calls _

theorem formatJson_eq (target : IdfTarget) (n : AncsNotification limits) (deviceName : CText)
    {capacity : Nat} (room : 0 < capacity) :
    formatJson target n deviceName capacity =
      if (Utf8.encode (jsonChars target n deviceName)).length < capacity then
        (0, Utf8.encode (jsonChars target n deviceName))
      else (-2, []) := by
  have emits := emits_json target n deviceName
  unfold formatJson
  rw [dif_pos room]
  split
  · next fits =>
    obtain ⟨intact, written⟩ := emits.fits { capacity, bytes := [], failed := false, room } rfl
      (by simpa using fits)
    simp [intact, written]
  · next full =>
    have overflow := emits.overflows { capacity, bytes := [], failed := false, room } rfl
      (by simpa using full)
    simp [overflow]

theorem formatJson_publish (target : IdfTarget) {n : AncsNotification limits} (range : InRange n)
    (deviceName : CText) :
    formatJson target n deviceName (2048 + textLength n deviceName * 6) =
      (0, Utf8.encode (jsonChars target n deviceName)) := by
  rw [formatJson_eq target n deviceName (by omega), if_pos (length_json target range deviceName)]

/-- What `writer_string` promises of a text. -/
structure StringWritten (writer : JsonWriter) (text : CText) : Prop where
  inside : (writerString writer text).bytes.length < writer.capacity
  emitted : (writerString writer text).failed = false →
    ∃ json, (writerString writer text).bytes = writer.bytes ++ json ∧ Utf8.Valid json ∧
      JsonString.decode json = some (Utf8.replaceInvalid text.bytes)
  faithful : Utf8.Valid text.bytes → Utf8.encode (Utf8.replaceInvalid text.bytes) = text.bytes

theorem writes_string (writer : JsonWriter) (text : CText) : StringWritten writer text where
  inside := by
    rw [← (emits_string text).capacity]
    exact (writerString writer text).room
  emitted fits := by
    refine ⟨_, emits_written (emits_string text) fits, ⟨_, rfl⟩, ?_⟩
    rw [decode_encode]
    exact JsonString.read_quoted sinkSource (·.getD Utf8.replacement) reads_sinkSource _
  faithful valid := by
    obtain ⟨chars, encoded⟩ := valid
    rw [← encoded, Utf8.replaceInvalid_encode]

/-- One whole object within the buffer, or the overflow error. -/
def Formatted (target : IdfTarget) (n : AncsNotification limits) (deviceName : CText)
    (capacity : Nat) : Prop :=
  (∃ json, formatJson target n deviceName capacity = (0, json) ∧ json.length < capacity ∧
    Json.decode json = some (.object (jsonFields target n deviceName))) ∨
  formatJson target n deviceName capacity = (-2, [])

theorem formatted (target : IdfTarget) (n : AncsNotification limits) (deviceName : CText)
    {capacity : Nat} (room : 0 < capacity) : Formatted target n deviceName capacity := by
  unfold Formatted
  rw [formatJson_eq target n deviceName room]
  split
  · next fits => exact Or.inl ⟨_, rfl, fits, decode_json target n deviceName⟩
  · exact Or.inr rfl

/-- Every text becomes a JSON string, every notification one JSON object or the overflow
    error, and the buffer of `notification_sink_publish` is always large enough. -/
theorem json_valid_or_overflow (target : IdfTarget) (n : AncsNotification limits)
    (deviceName : CText) (range : InRange n) :
    (∀ writer text, StringWritten writer text) ∧
      (∀ capacity, if capacity = 0 then formatJson target n deviceName capacity = (-1, [])
        else Formatted target n deviceName capacity) ∧
      ∃ json, Json.decode json = some (.object (jsonFields target n deviceName)) ∧
        formatJson target n deviceName (2048 + textLength n deviceName * 6) = (0, json) ∧
        ∀ sizeMax, textLength n deviceName ≤ (sizeMax - 2048) / 6 →
          publish sizeMax true target n deviceName =
            (0, some (ascii "ANCS_NOTIFICATION_JSON " ++ json ++ ascii "\n")) := by
  have enough := formatJson_publish target range deviceName
  refine ⟨writes_string, ?_, _, decode_json target n deviceName, enough, ?_⟩
  · intro capacity
    split
    · next empty =>
      subst empty
      rfl
    · next some_ => exact formatted target n deviceName (Nat.pos_of_ne_zero some_)
  · intro sizeMax fits
    simp [publish, Nat.not_lt.mpr fits, enough]

def greeting : AncsNotification .default :=
  { AncsNotification.zero with
    complete := true
    title := ofText _ [0x48, 0xFF]
    message := ofText _ (ascii "\"Hi\"") }

def phone : CText := { bytes := ascii "iPhone", nonzero := by decide +kernel }

theorem json_valid_or_overflow_greeting : Formatted .esp32 greeting phone 2048 ∧
    formatJson .esp32 greeting phone 0 = (-1, []) := by
  have range : InRange greeting := { errorCode := by decide, receivedAtMs := by decide }
  have all := (json_valid_or_overflow .esp32 greeting phone range).2.1
  exact ⟨all 2048, all 0⟩

/-- A buffer of no bytes is refused as a bad argument. -/
theorem empty_buffer_is_no_overflow : ¬ ∀ (target : IdfTarget) (n : AncsNotification .default)
    (deviceName : CText) (capacity : Nat), Formatted target n deviceName capacity := by
  intro all
  rcases all .esp32 greeting phone 0 with ⟨_, answer, _⟩ | answer
  · cases answer
  · cases answer

end NotificationSink
