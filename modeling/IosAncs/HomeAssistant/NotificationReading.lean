import IosAncs.HomeAssistant.Notification
import IosAncs.Relay.NotificationPayload
import IosAncs.Relay.Policy

/-!
A notification on its way to Home Assistant: the payload that the relay builds of it, as
`parse_notification` reads it, and the checks that both sides make.
-/
open CString JsonWriters NotificationSink NotificationPayload RelayPolicy PayloadValue

namespace NotificationReading
variable {limits : AncsLimits}

mutual

def payloadValue : Json.Value → PayloadValue
  | .null => .null
  | .bool b => .boolean b
  | .number z => .number (String.ofList (Decimal.integer z))
  | .string chars => .text (String.ofList chars)
  | .object members => .object (mapping members)

def mapping : List (List Char × Json.Value) → Mapping
  | [] => []
  | member :: rest => entry member :: mapping rest

def entry : List Char × Json.Value → String × PayloadValue
  | (name, value) => (String.ofList name, payloadValue value)

end

def decoded (payload : List UInt8) : Option PayloadValue := (Json.decode payload).map payloadValue

def dataOf (target : IdfTarget) (n : AncsNotification limits) (deviceName relayId : CText)
    (uptimeMs : UInt64) : Mapping :=
  mapping (payloadFields target n deviceName relayId uptimeMs)

structure Admitted (n : AncsNotification limits) : Prop where
  complete : n.complete = true
  fresh : n.eventFlags &&& 4 = 0
  event : n.eventId ≠ 2
  foreign : text n.appId ≠ haAppId

theorem admitted_iff (n : AncsNotification limits) : Admitted n ↔
    n.complete = true ∧ n.eventFlags &&& 4 = 0 ∧ n.eventId ≠ 2 ∧ text n.appId ≠ haAppId :=
  ⟨fun h => ⟨h.complete, h.fresh, h.event, h.foreign⟩,
    fun ⟨complete, fresh, event, foreign⟩ => ⟨complete, fresh, event, foreign⟩⟩

instance (n : AncsNotification limits) : Decidable (Admitted n) :=
  decidable_of_iff' _ (admitted_iff n)

theorem ofList_eq_iff {chars : List Char} {s : String} :
    String.ofList chars = s ↔ chars = s.toList :=
  ⟨fun same => same ▸ String.toList_ofList.symm, fun same => same ▸ String.ofList_toList⟩

theorem encode_of_replaceInvalid {bytes : List UInt8} {chars : List Char}
    (same : Utf8.replaceInvalid bytes = chars) (kept : Utf8.replacement ∉ chars) :
    bytes = Utf8.encode chars := by
  have all : (Utf8.pieces bytes).all Option.isSome = true := by
    rw [List.all_eq_true]
    intro piece member
    cases piece with
    | some c => rfl
    | none =>
      have replaced : Utf8.replacement ∈ Utf8.replaceInvalid bytes :=
        List.mem_map.mpr ⟨none, member, rfl⟩
      rw [same] at replaced
      exact absurd replaced kept
  obtain ⟨whole, rfl⟩ := Utf8.valid_iff.mpr all
  rw [Utf8.replaceInvalid_encode] at same
  rw [same]

theorem echo_iff (bytes : List UInt8) :
    Utf8.replaceInvalid bytes = haEchoAppId.toList ↔ bytes = haAppId := by
  have encoded : Utf8.encode haEchoAppId.toList = haAppId := by decide +kernel
  constructor
  · intro same
    rw [← encoded]
    exact encode_of_replaceInvalid same (by decide)
  · rintro rfl
    rw [← encoded, Utf8.replaceInvalid_encode]

theorem removed_iff (eventId : UInt8) :
    Utf8.replaceInvalid (eventName eventId).bytes = "removed".toList ↔ eventId = 2 := by
  have names : ∀ name ∈ ["added", "modified", "removed", "unknown"],
      Utf8.replaceInvalid (ascii name) = name.toList := by decide +kernel
  by_cases small : eventId.toNat < 3
  · have known : ∀ n < 3, (Utf8.replaceInvalid (eventName (UInt8.ofNat n)).bytes =
        "removed".toList ↔ UInt8.ofNat n = 2) := by decide +kernel
    have same := known eventId.toNat small
    rwa [UInt8.ofNat_toNat] at same
  · have unknown : (eventName eventId).bytes = ascii "unknown" := by
      rw [eventName, List.getD_eq_getElem?_getD, List.getElem?_eq_none (Nat.le_of_not_lt small)]
      rfl
    have other : eventId ≠ 2 := by
      rintro rfl
      exact small (by decide)
    rw [unknown, names "unknown" (by decide)]
    simp [other]

section Data
variable (target : IdfTarget) (n : AncsNotification limits) (deviceName : CText) {relayId : CText}
  (uptimeMs : UInt64)

theorem get_dataOf (relayId : CText) :
    get (dataOf target n deviceName relayId uptimeMs) "complete" = some (.boolean n.complete) ∧
    get (dataOf target n deviceName relayId uptimeMs) "pre_existing" =
      some (.boolean (n.eventFlags &&& 4 != 0)) ∧
    get (dataOf target n deviceName relayId uptimeMs) "event" =
      some (.text (String.ofList (Utf8.replaceInvalid (eventName n.eventId).bytes))) ∧
    get (dataOf target n deviceName relayId uptimeMs) "app_id" =
      some (.text (String.ofList (Utf8.replaceInvalid (text n.appId)))) ∧
    get (dataOf target n deviceName relayId uptimeMs) "relay_id" =
      some (.text (String.ofList (Utf8.asciiChars relayId.bytes))) := by
  refine ⟨?_, ?_, ?_, ?_, ?_⟩ <;>
    simp [dataOf, payloadFields, jsonFields, mapping, entry, payloadValue, PayloadValue.get,
      List.lookup_cons, eventFlagIsSet, NotificationSink.eventFlagPreExisting]

def idOf (relayId : CText) : String := String.ofList (Utf8.asciiChars relayId.bytes)

theorem relayId_dataOf (digits : HexDigits relayId) (some_ : relayId.bytes ≠ []) :
    PayloadValue.relayId (dataOf target n deviceName relayId uptimeMs) = some (idOf relayId) := by
  obtain ⟨_, _, _, _, id⟩ := get_dataOf target n deviceName uptimeMs relayId
  have visible : PayloadValue.isBlank (idOf relayId) = false := by
    obtain ⟨byte, rest, bytes⟩ := List.exists_cons_of_ne_nil some_
    have plain : ∀ k < 0x80, (0x30 ≤ k ∧ k ≤ 0x39) ∨ (0x41 ≤ k ∧ k ≤ 0x46) ∨ (0x61 ≤ k ∧ k ≤ 0x66) →
        isSpace (Char.ofNat k) = false := by decide
    have member : byte ∈ relayId.bytes := by rw [bytes]; exact List.mem_cons_self
    have digit := digits byte member
    simp only [UInt8.le_iff_toNat_le] at digit
    have first := plain byte.toNat (ascii_hexDigits digits byte member) digit
    rw [PayloadValue.isBlank, idOf, String.toList_ofList, bytes]
    show (isSpace (Char.ofNat byte.toNat) && _) = false
    rw [first, Bool.false_and]
  rw [PayloadValue.relayId, id]
  show (if PayloadValue.isBlank (idOf relayId) = true then none else some (idOf relayId)) =
    some (idOf relayId)
  rw [visible]
  rfl

theorem isTrue_boolean (b : Bool) : PayloadValue.isTrue (some (.boolean b)) = b := by
  cases b <;> rfl

theorem admissible_dataOf (digits : HexDigits relayId) (some_ : relayId.bytes ≠ []) :
    admissible (dataOf target n deviceName relayId uptimeMs) =
      if Admitted n then some (idOf relayId) else none := by
  obtain ⟨complete, preExisting, event, appId, _⟩ :=
    get_dataOf target n deviceName uptimeMs relayId
  have removed : isText "removed" (get (dataOf target n deviceName relayId uptimeMs) "event") =
      decide (n.eventId = 2) := by
    rw [event, isText, Bool.eq_iff_iff, beq_iff_eq, decide_eq_true_iff, ← removed_iff,
      ofList_eq_iff]
  have echo : isText haEchoAppId (get (dataOf target n deviceName relayId uptimeMs) "app_id") =
      decide (text n.appId = haAppId) := by
    rw [appId, isText, Bool.eq_iff_iff, beq_iff_eq, decide_eq_true_iff, ← echo_iff, ofList_eq_iff]
  rw [admissible, relayId_dataOf target n deviceName uptimeMs digits some_, complete, preExisting,
    removed, echo]
  simp only [admitted_iff]
  cases n.complete <;> by_cases fresh : n.eventFlags &&& 4 = 0 <;>
    by_cases event : n.eventId = 2 <;> by_cases foreign : text n.appId = haAppId <;>
    simp [fresh, event, foreign, isTrue_boolean]

end Data

/-- A payload that was built is the whole object of the notification with its name filled in. -/
theorem built_written {sizeMax : Nat} {allocated : Bool} {target : IdfTarget}
    {n : AncsNotification limits} {deviceName relayId : CText} {uptimeMs : UInt64}
    {payload : List UInt8} (digits : HexDigits relayId)
    (built : buildNotification sizeMax allocated target n deviceName relayId uptimeMs =
      .ok payload) :
    (displayName n).length ≤ limits.appNameMax ∧
      payload = Utf8.encode (payloadChars target n deviceName digits uptimeMs) := by
  unfold buildNotification at built
  dsimp only at built
  split at built
  · cases built
  · split at built
    · cases built
    · split at built
      · cases built
      · next fits =>
        refine ⟨Nat.le_of_not_lt fits, ?_⟩
        obtain ⟨front, split_, whole⟩ := splice_payload target n deviceName digits uptimeMs
        have written := formatJson_eq target (enriched n) deviceName
          (show 0 < 2304 + payloadTextLength n deviceName relayId * 6 by omega)
        have length : strlen (front ++ [0x7D]) = front.length + 1 := by
          rw [← split_, strlen_json, split_, List.length_append, List.length_singleton]
        rw [split_] at written
        split at written
        · simp only [written, length] at built
          split at built
          · cases built
          · split at built
            · cases built
            · simpa [whole] using (Except.ok.inj built).symm
        · simp only [written] at built
          cases built

theorem hexDigits_buildId (n : AncsNotification limits) (bootNonce : UInt32) :
    ∀ byte ∈ buildId n bootNonce,
      (0x30 ≤ byte ∧ byte ≤ 0x39) ∨ (0x41 ≤ byte ∧ byte ≤ 0x46) ∨ (0x61 ≤ byte ∧ byte ≤ 0x66) := by
  have digit : ∀ k < 16, (0x30 ≤ hexDigit k ∧ hexDigit k ≤ 0x39) ∨
      (0x41 ≤ hexDigit k ∧ hexDigit k ≤ 0x46) ∨ (0x61 ≤ hexDigit k ∧ hexDigit k ≤ 0x66) := by decide
  intro byte member
  obtain ⟨whole, _, inside⟩ := List.mem_flatMap.mp member
  have small := whole.toNat_lt
  rcases List.mem_cons.mp inside with rfl | inside
  · exact digit _ (by omega)
  · obtain rfl := List.mem_singleton.mp inside
    exact digit _ (by omega)

def idText (n : AncsNotification limits) (bootNonce : UInt32) : CText where
  bytes := buildId n bootNonce
  nonzero := by
    intro zero
    rcases hexDigits_buildId n bootNonce 0 zero with ⟨low, _⟩ | ⟨low, _⟩ | ⟨low, _⟩ <;>
      exact absurd low (by decide)

theorem admitted_enriched (n : AncsNotification limits) : Admitted (enriched n) ↔ Admitted n := by
  rw [admitted_iff, admitted_iff]
  rfl

/-- What the relay publishes, Home Assistant admits. -/
theorem admitted_of_publish {n : AncsNotification limits} {connectivity : RelayConnectivity}
    {cache : RelayRecentCache} (publishes : policyDecide n connectivity cache = .publish) :
    Admitted n := by
  obtain ⟨⟨relayable, _⟩, _⟩ := (policyDecide_publish_iff n connectivity cache).mp publishes
  constructor
  · exact relayable.complete
  · exact relayable.fresh
  · rcases relayable.event with zero | one
    · rw [zero]
      decide
    · rw [one]
      decide
  · have foreign := relayable.foreign
    rw [isHomeAssistantNotification, beq_eq_false_iff_ne] at foreign
    exact foreign

/-- A payload that the relay has built is read as the whole notification, with its name filled in,
    and fires once, as long as its id is remembered, exactly where Home Assistant's checks pass;
    they do wherever the relay's do. -/
theorem relay_and_home_assistant_agree {sizeMax : Nat} {allocated : Bool} {target : IdfTarget}
    {n : AncsNotification limits} {bootNonce : UInt32} {deviceName : CText} {uptimeMs : UInt64}
    {payload : List UInt8}
    (built : buildNotification sizeMax allocated target n deviceName (idText n bootNonce) uptimeMs =
      .ok payload) :
    ∃ named : AncsNotification limits, named = { n with appName := named.appName } ∧
      CString.text named.appName = displayName n ∧
      (∀ seen, parseNotification (decoded payload) seen =
        if Admitted n ∧ idOf (idText n bootNonce) ∉ seen.ids then
          (seen.add (idOf (idText n bootNonce)),
            some (dataOf target named deviceName (idText n bootNonce) uptimeMs))
        else (seen, none)) ∧
      ∀ connectivity cache, policyDecide n connectivity cache = .publish → Admitted n := by
  have digits : HexDigits (idText n bootNonce) := hexDigits_buildId n bootNonce
  have some_ : (idText n bootNonce).bytes ≠ [] := by
    intro empty
    have length := length_buildId n bootNonce
    rw [show buildId n bootNonce = [] from empty] at length
    cases length
  obtain ⟨fits, rfl⟩ := built_written digits built
  have reads : decoded (Utf8.encode (payloadChars target n deviceName digits uptimeMs)) =
      some (.object (dataOf target (enriched n) deviceName (idText n bootNonce) uptimeMs)) := by
    rw [decoded, decode_payload]
    rfl
  refine ⟨enriched n, rfl, text_enriched n fits, ?_, fun _ _ => admitted_of_publish⟩
  intro seen
  rw [reads, parseNotification, parseNotificationData,
    admissible_dataOf target (enriched n) deviceName uptimeMs digits some_]
  simp only [admitted_enriched]
  by_cases admitted : Admitted n
  · by_cases known : idOf (idText n bootNonce) ∈ seen.ids <;> simp [admitted, known]
  · simp [admitted]

/-- A song's notification, without a name for its app, is read with the name filled in. -/
theorem relay_and_home_assistant_agree_listed : ∃ payload, ∃ named : AncsNotification shortNames,
    buildNotification 4294967295 true .esp32c6 (fromApp "COM.apple.Music") phone
        (idText (fromApp "COM.apple.Music") 0) 7 = .ok payload ∧
      CString.text named.appName = ascii "Apple Music" ∧
      ∀ seen, idOf (idText (fromApp "COM.apple.Music") 0) ∉ seen.ids →
        (parseNotification (decoded payload) seen).2 =
          some (dataOf .esp32c6 named phone (idText (fromApp "COM.apple.Music") 0) 7) := by
  have name : displayName (fromApp "COM.apple.Music") = ascii "Apple Music" := by decide
  have fits : (displayName (fromApp "COM.apple.Music")).length ≤ shortNames.appNameMax := by
    rw [name]
    decide
  have length : (idText (fromApp "COM.apple.Music") 0).bytes.length = 32 := length_buildId _ _
  have allocates : 2304 + payloadTextLength (fromApp "COM.apple.Music") phone
      (idText (fromApp "COM.apple.Music") 0) * 6 ≤ 4294967295 := by
    rw [payloadTextLength, name, length]
    decide
  have digits : HexDigits (idText (fromApp "COM.apple.Music") 0) := hexDigits_buildId _ _
  have range := inRange_fromApp "COM.apple.Music"
  have built := build_fits .esp32c6 range fits phone digits 7 allocates
  obtain ⟨named, _, named_, reads, _⟩ := relay_and_home_assistant_agree built
  refine ⟨_, named, built, named_.trans name, ?_⟩
  intro seen new
  have admitted : Admitted (fromApp "COM.apple.Music") := by decide
  rw [reads, if_pos ⟨admitted, new⟩]

end NotificationReading
