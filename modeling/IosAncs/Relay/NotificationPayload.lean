import IosAncs.Relay.NotificationJson

/-!
The MQTT payload of a notification: the object of the sink, with a name for the app looked
up where the phone has sent none, and with three members written over its end.
The source is `mqtt_payload.c` and `mqtt_app_name.c`.
-/
open CString AncsProtocol JsonWriters NotificationSink

namespace NotificationPayload

def appNames : List (String × String) :=
  [("com.apple.MobileSMS", "메시지"), ("com.apple.Maps", "지도"),
    ("com.apple.Music", "Apple Music"), ("com.iwilab.KakaoTalk", "카카오톡"),
    ("com.nhncorp.NaverSearch", "네이버"), ("com.nhncorp.NaverMap", "네이버 지도"),
    ("com.nhncorp.NaverWebtoon", "네이버 웹툰"), ("net.daum.maps", "카카오맵"),
    ("com.google.Gmail", "Gmail"), ("com.google.GoogleMobile", "Google"),
    ("com.google.Maps", "Google 지도"), ("com.google.ios.youtube", "YouTube"),
    ("com.google.ios.youtubemusic", "YouTube Music"), ("com.google.chrome.ios", "Chrome"),
    ("net.whatsapp.WhatsApp", "WhatsApp"), ("net.whatsapp.WhatsAppSMB", "WhatsApp Business"),
    ("com.facebook.Facebook", "Facebook"), ("com.facebook.Messenger", "Messenger"),
    ("com.burbn.instagram", "Instagram"), ("ph.telegra.Telegraph", "Telegram"),
    ("com.atebits.Tweetie2", "X"), ("com.spotify.client", "Spotify"),
    ("com.netflix.Netflix", "Netflix"), ("com.hammerandchisel.discord", "Discord"),
    ("com.microsoft.Office.Outlook", "Outlook"),
    ("com.microsoft.skype.teams", "Microsoft Teams"),
    ("com.microsoft.azureauthenticator", "Microsoft Authenticator"),
    ("com.tinyspeck.chatlyio", "Slack"), ("com.slack.slackintune", "Slack for Intune"),
    ("notion.id", "Notion"), ("com.cron.calendar", "Notion 캘린더"),
    ("com.openai.chat", "ChatGPT"), ("com.tving.iphone001", "TVING"),
    ("com.jawebs.baedal", "배달의민족"), ("com.coupang.Coupang", "쿠팡"),
    ("com.coupang.coupang-eats", "쿠팡이츠"), ("com.vivarepublica.cash", "토스"),
    ("com.kakaobank.channel", "카카오뱅크"), ("com.kakaopay.payapp.store", "카카오페이"),
    ("com.kbstar.kbbank", "KB스타뱅킹"), ("com.kbcard.cxh.appcard", "KB Pay"),
    ("com.shinhan.sbank", "신한 슈퍼SOL"), ("com.shinhan.sbank2015", "구 신한 SOL뱅크"),
    ("com.wooribank.smart.npib", "우리WON뱅킹"), ("com.wooricard.wcard", "우리WON카드"),
    ("com.hanabank.oqf", "하나원큐"), ("com.kebhana.hanapush", "구 하나원큐"),
    ("com.samsungCard.samsungCard", "모니모"), ("com.shinhancard.MobilePay", "신한 SOL페이"),
    ("com.hyundaicard.hcappcard", "현대카드"), ("com.nonghyup.card.NHAllonePay", "NH pay"),
    ("com.nonghyup.newsmartbanking", "NH스마트뱅킹"), ("com.naverfin.payapp", "네이버페이"),
    ("com.nhncorp.NaverShopping", "네이버플러스 스토어"), ("com.towneers.www", "당근"),
    ("net.quicket.app", "번개장터"), ("net.bucketplacet.ohouse", "오늘의집"), ("jp.naver.line", "LINE"),
    ("com.ss.iphone.ugc.Ame", "TikTok"), ("com.ss.iphone.ugc.tiktok.lite", "TikTok Lite"),
    ("us.zoom.videomeetings", "Zoom Workplace"),
    ("us.zoom.videomeetings4intune", "Zoom Workplace for Intune"),
    ("com.google.Drive", "Google 드라이브"), ("com.google.photos", "Google 포토"),
    ("com.google.calendar", "Google 캘린더"), ("com.microsoft.skydrive", "OneDrive"),
    ("com.microsoft.msedge", "Microsoft Edge"), ("com.getdropbox.Dropbox", "Dropbox"),
    ("com.reddit.Reddit", "Reddit"), ("com.linkedin.LinkedIn", "LinkedIn"),
    ("org.whispersystems.signal", "Signal"), ("com.tencent.xin", "WeChat"),
    ("com.alipay.iphoneclient", "Alipay"), ("com.ubercab.UberClient", "Uber"),
    ("com.ubercab.UberEats", "Uber Eats"), ("com.airbnb.app", "Airbnb"),
    ("kr.co.withweb.aboutyeogi", "여기어때"), ("kr.co.rememberapp", "리멤버"),
    ("com.github.stormbreaker.prod", "GitHub"), ("com.anthropic.claude", "Claude")]

/-- `tolower` in the C locale. -/
def lower (byte : UInt8) : UInt8 := if 0x41 ≤ byte ∧ byte ≤ 0x5A then byte + 0x20 else byte

/-- `strcasecmp` answers 0. -/
def sameIgnoringCase (first second : List UInt8) : Bool := first.map lower == second.map lower

def literal (s : String) : List UInt8 := s.toByteArray.data.toList

/-- The entry of the table for an app. -/
def appEntry (appId : List UInt8) : Option (String × String) :=
  appNames.find? fun entry => sameIgnoringCase appId (literal entry.1)

def appNameLookup (appId : List UInt8) : List UInt8 :=
  if appId = [] then []
  else
    match appEntry appId with
    | some entry => literal entry.2
    | none => appId

variable {limits : AncsLimits}

def displayName (n : AncsNotification limits) : List UInt8 :=
  if isBlank n.appName then appNameLookup (text n.appId) else text n.appName

/-- `memcpy` of a text and its terminator: the bytes after it stay. -/
def memcpyText {max : Nat} (target : CharArray max) (bytes : List UInt8) : CharArray max :=
  Vector.ofFn fun i =>
    if i < bytes.length then bytes.getD i 0 else if i = bytes.length then 0 else target.get i

def enriched (n : AncsNotification limits) : AncsNotification limits :=
  { n with appName := memcpyText n.appName (displayName n) }

inductive PayloadError where
  | noMem
  | invalidSize
  | invalidResponse
  deriving DecidableEq

def strlen (bytes : List UInt8) : Nat := (bytes.takeWhile (· != 0)).length

/-- What is written over the end of the object. -/
def extraMembers (target : IdfTarget) (relayId : CText) (uptimeMs : UInt64) : List UInt8 :=
  ascii ",\"relay_id\":\"" ++ relayId.bytes ++ ascii "\",\"source\":\"" ++ Utf8.encode target.id ++
    ascii "_ancs\",\"published_at_ms\":" ++ Decimal.bytes (Decimal.digits uptimeMs.toNat) ++
    ascii "\x7d"

/-- The bytes of the texts, as `mqtt_payload_build_notification` adds them up. -/
def payloadTextLength (n : AncsNotification limits) (deviceName relayId : CText) : Nat :=
  (text n.appId).length + (displayName n).length + (text n.title).length +
    (text n.subtitle).length + (text n.message).length + (text n.messageSizeRaw).length +
    (text n.dateRaw).length + deviceName.bytes.length + relayId.bytes.length

def buildNotification (sizeMax : Nat) (allocated : Bool) (target : IdfTarget)
    (n : AncsNotification limits) (deviceName relayId : CText) (uptimeMs : UInt64) :
    Except PayloadError (List UInt8) :=
  let textLength := payloadTextLength n deviceName relayId
  let capacity := 2304 + textLength * 6
  if (sizeMax - 2304) / 6 < textLength then .error .invalidSize
  else if allocated = false then .error .noMem
  else if limits.appNameMax < (displayName n).length then .error .invalidSize
  else
    match formatJson target (enriched n) deviceName capacity with
    | (0, json) =>
      let length := strlen json
      if length = 0 ∨ json.getD (length - 1) 0 ≠ 0x7D then .error .invalidResponse
      else
        let extra := extraMembers target relayId uptimeMs
        if capacity - length + 1 ≤ extra.length then .error .invalidSize
        else .ok (json.take (length - 1) ++ extra)
    | _ => .error .invalidSize

theorem nonzero_appEntry {appId : List UInt8} {entry : String × String}
    (found : appEntry appId = some entry) : (0 : UInt8) ∉ literal entry.2 ∧
      (literal entry.2).length ≤ 32 := by
  have all : ∀ entry ∈ appNames, (0 : UInt8) ∉ literal entry.2 ∧
      (literal entry.2).length ≤ 32 := by decide
  exact all entry (List.mem_of_find?_eq_some found)

theorem nonzero_displayName (n : AncsNotification limits) : (0 : UInt8) ∉ displayName n := by
  unfold displayName appNameLookup
  split
  · split
    · exact List.not_mem_nil
    · split
      · next entry found => exact (nonzero_appEntry found).1
      · exact text_nonzero n.appId
  · exact text_nonzero n.appName

theorem text_memcpyText {max : Nat} (target : CharArray max) {bytes : List UInt8}
    (room : bytes.length ≤ max) (nonzero : (0 : UInt8) ∉ bytes) :
    text (memcpyText target bytes) = bytes := by
  refine text_eq_of room nonzero ?_ ?_
  · intro i inside
    simp [memcpyText, inside]
  · simp [memcpyText]

/-- The app id takes the place of the name only where it fits as one. -/
def FallbackFits (n : AncsNotification limits) : Prop :=
  isBlank n.appName = true → appEntry (text n.appId) = none →
    (text n.appId).length ≤ limits.appNameMax

structure Terminated (n : AncsNotification limits) : Prop where
  appId : fieldValid n.appId = true
  appName : fieldValid n.appName = true
  title : fieldValid n.title = true
  subtitle : fieldValid n.subtitle = true
  message : fieldValid n.message = true
  messageSizeRaw : fieldValid n.messageSizeRaw = true
  dateRaw : fieldValid n.dateRaw = true

theorem length_displayName {n : AncsNotification limits} (terminated : Terminated n) :
    (displayName n).length ≤ limits.appNameMax ↔ FallbackFits n := by
  have own : (text n.appName).length ≤ limits.appNameMax := of_decide_eq_true terminated.appName
  have least := limits.appName_range.1
  unfold FallbackFits displayName appNameLookup
  split
  · next blank =>
    split
    · next empty => simp [empty]
    · split
      · next entry found =>
        have short := (nonzero_appEntry found).2
        simp only [found, reduceCtorEq, false_implies, implies_true, iff_true]
        omega
      · next missing => simp [blank, missing]
  · next named => simp [named, own]

theorem text_enriched (n : AncsNotification limits)
    (fits : (displayName n).length ≤ limits.appNameMax) : text (enriched n).appName = displayName n :=
  text_memcpyText n.appName fits (nonzero_displayName n)

def HexDigits (relayId : CText) : Prop :=
  ∀ byte ∈ relayId.bytes,
    (0x30 ≤ byte ∧ byte ≤ 0x39) ∨ (0x41 ≤ byte ∧ byte ≤ 0x46) ∨ (0x61 ≤ byte ∧ byte ≤ 0x66)

instance (relayId : CText) : Decidable (HexDigits relayId) :=
  List.decidableBAll _ relayId.bytes

theorem ascii_hexDigits {relayId : CText} (digits : HexDigits relayId) :
    ∀ byte ∈ relayId.bytes, byte.toNat < 0x80 := by
  intro byte member
  rcases digits byte member with ⟨_, top⟩ | ⟨_, top⟩ | ⟨_, top⟩
  · exact Nat.lt_of_le_of_lt (UInt8.le_iff_toNat_le.mp top) (by decide)
  · exact Nat.lt_of_le_of_lt (UInt8.le_iff_toNat_le.mp top) (by decide)
  · exact Nat.lt_of_le_of_lt (UInt8.le_iff_toNat_le.mp top) (by decide)

theorem named_hexDigits {relayId : CText} (digits : HexDigits relayId) :
    Json.Named (Utf8.asciiChars relayId.bytes) := by
  have plain : ∀ n < 0x80, (0x30 ≤ n ∧ n ≤ 0x39) ∨ (0x41 ≤ n ∧ n ≤ 0x46) ∨ (0x61 ≤ n ∧ n ≤ 0x66) →
      Json.Named [Char.ofNat n] := by decide
  have each : ∀ c ∈ Utf8.asciiChars relayId.bytes, Json.Named [c] := by
    intro c member
    obtain ⟨byte, inside, rfl⟩ := List.mem_map.mp member
    have digit := digits byte inside
    simp only [UInt8.le_iff_toNat_le] at digit
    exact plain byte.toNat (ascii_hexDigits digits byte inside) digit
  exact ⟨fun c member => (each c member).1 c List.mem_cons_self,
    fun c member => (each c member).2 c List.mem_cons_self⟩

theorem named_source (target : IdfTarget) : Json.Named (target.id ++ "_ancs".toList) := by
  cases target <;> decide

/-- The three members that the relay adds, as they are written. -/
def extra (target : IdfTarget) {relayId : CText} (digits : HexDigits relayId) (uptimeMs : UInt64) :
    List (List Char × Json.Written) :=
  [("relay_id".toList, .plain (Utf8.asciiChars relayId.bytes) (named_hexDigits digits)),
    ("source".toList, .plain (target.id ++ "_ancs".toList) (named_source target)),
    ("published_at_ms".toList, .longWord uptimeMs)]

theorem named_extra (target : IdfTarget) {relayId : CText} (digits : HexDigits relayId)
    (uptimeMs : UInt64) : ∀ p ∈ extra target digits uptimeMs, Json.Named p.1 := by
  have names : ∀ name ∈ (extra target digits uptimeMs).map Prod.fst, Json.Named name := by
    simp only [extra, List.map_cons, List.map_nil]
    decide
  exact List.forall_mem_map.mp names

theorem encode_extra (target : IdfTarget) {relayId : CText} (digits : HexDigits relayId)
    (uptimeMs : UInt64) : extraMembers target relayId uptimeMs =
      Utf8.encode (',' :: Json.Member.joined ((extra target digits uptimeMs).map Json.Written.member) ++
        ['}']) := by
  have relay := Utf8.encode_asciiChars (ascii_hexDigits digits)
  have first : ascii ",\"relay_id\":\"" = Utf8.encode ",\"relay_id\":\"".toList := by decide
  have second : ascii "\",\"source\":\"" = Utf8.encode "\",\"source\":\"".toList := by decide
  have third : ascii "_ancs\",\"published_at_ms\":" =
      Utf8.encode "_ancs\",\"published_at_ms\":".toList := by decide
  have last : ascii "\x7d" = Utf8.encode "\x7d".toList := by decide
  rw [extraMembers, first, second, third, last, Decimal.bytes_encode Decimal.digits_ascii]
  nth_rewrite 1 [← relay]
  rw [← Utf8.encode_append, ← Utf8.encode_append, ← Utf8.encode_append, ← Utf8.encode_append,
    ← Utf8.encode_append, ← Utf8.encode_append]
  congr 1
  simp [extra, Json.Written.plain, Json.Written.longWord, Json.Written.member, Json.Member.joined,
    Json.Member.head]

def payloadChars (target : IdfTarget) (n : AncsNotification limits) (deviceName : CText)
    {relayId : CText} (digits : HexDigits relayId) (uptimeMs : UInt64) : List Char :=
  '{' :: Json.Member.joined ((members target (enriched n) deviceName ++
    extra target digits uptimeMs).map Json.Written.member) ++ ['}']

theorem length_extra (target : IdfTarget) {relayId : CText} (digits : HexDigits relayId)
    (uptimeMs : UInt64) : (extraMembers target relayId uptimeMs).length ≤ relayId.bytes.length + 80 := by
  have inside := Json.Written.length_joined (named_extra target digits uptimeMs)
  have chip : target.id.length ≤ 8 := by cases target <;> decide
  have ends : (Utf8.encode [',']).length = 1 ∧ (Utf8.encode ['}']).length = 1 := by decide
  have cost : ((extra target digits uptimeMs).map Json.Written.cost).sum ≤ relayId.bytes.length + 78 := by
    simp [extra, Json.Written.cost, Json.Written.plain, Json.Written.longWord, Utf8.asciiChars]
    omega
  rw [encode_extra target digits, ← List.singleton_append, Utf8.encode_append, Utf8.encode_append,
    List.length_append, List.length_append, ends.1, ends.2]
  omega

theorem textLength_enriched (n : AncsNotification limits)
    (fits : (displayName n).length ≤ limits.appNameMax) (deviceName relayId : CText) :
    textLength (enriched n) deviceName + relayId.bytes.length =
      payloadTextLength n deviceName relayId := by
  have name := text_enriched n fits
  rw [textLength, payloadTextLength, name, enriched]

theorem strlen_json (target : IdfTarget) (n : AncsNotification limits) (deviceName : CText) :
    strlen (Utf8.encode (jsonChars target n deviceName)) =
      (Utf8.encode (jsonChars target n deviceName)).length := by
  have spells := Json.Written.spells_members (List.cons_ne_nil _ _)
    (named_members target n deviceName)
  have kept : ∀ byte ∈ Utf8.encode (jsonChars target n deviceName), (byte != 0) = true := by
    intro byte member
    rw [bne_iff_ne]
    rintro rfl
    exact Json.nonzero_of_spells spells (Utf8.zero_of_encode member)
  rw [strlen, List.takeWhile_eq_self_iff.mpr kept]

theorem splice_payload (target : IdfTarget) (n : AncsNotification limits) (deviceName : CText)
    {relayId : CText} (digits : HexDigits relayId) (uptimeMs : UInt64) :
    ∃ front, Utf8.encode (jsonChars target (enriched n) deviceName) = front ++ [0x7D] ∧
      front ++ extraMembers target relayId uptimeMs =
        Utf8.encode (payloadChars target n deviceName digits uptimeMs) := by
  have brace : Utf8.encode ['}'] = [0x7D] := by decide
  have some_ : (members target (enriched n) deviceName).map Json.Written.member ≠ [] :=
    List.cons_ne_nil _ _
  have more : (extra target digits uptimeMs).map Json.Written.member ≠ [] := List.cons_ne_nil _ _
  refine ⟨_, by rw [jsonChars, Utf8.encode_append, brace], ?_⟩
  rw [encode_extra target digits, ← Utf8.encode_append, payloadChars, List.map_append,
    Json.Member.joined_append some_ more]
  simp only [List.append_assoc, List.cons_append]

theorem build_fits {sizeMax : Nat} (target : IdfTarget) {n : AncsNotification limits}
    (range : InRange n) (fits : (displayName n).length ≤ limits.appNameMax) (deviceName : CText)
    {relayId : CText} (digits : HexDigits relayId) (uptimeMs : UInt64)
    (allocates : 2304 + payloadTextLength n deviceName relayId * 6 ≤ sizeMax) :
    buildNotification sizeMax true target n deviceName relayId uptimeMs =
      .ok (Utf8.encode (payloadChars target n deviceName digits uptimeMs)) := by
  have range' : InRange (enriched n) := { errorCode := range.errorCode, receivedAtMs := range.receivedAtMs }
  have json := length_json target range' deviceName
  have texts := textLength_enriched n fits deviceName relayId
  have added := length_extra target digits uptimeMs
  have written := formatJson_eq target (enriched n) deviceName
    (show 0 < 2304 + payloadTextLength n deviceName relayId * 6 by omega)
  rw [if_pos (by omega)] at written
  obtain ⟨front, split, whole⟩ := splice_payload target n deviceName digits uptimeMs
  have length : strlen (front ++ [0x7D]) = front.length + 1 := by
    rw [← split, strlen_json, split, List.length_append, List.length_singleton]
  have room : ¬2304 + payloadTextLength n deviceName relayId * 6 - (front.length + 1) + 1 ≤
      (extraMembers target relayId uptimeMs).length := by
    rw [split, List.length_append, List.length_singleton] at json
    omega
  have small : ¬(sizeMax - 2304) / 6 < payloadTextLength n deviceName relayId := by omega
  rw [split] at written
  simp [buildNotification, small, Nat.not_lt.mpr fits, written, length, room, whole]

/-- The payload as a value: what the notification says under its name, and what the relay adds. -/
def payloadFields (target : IdfTarget) (n : AncsNotification limits) (deviceName relayId : CText)
    (uptimeMs : UInt64) : List (List Char × Json.Value) :=
  jsonFields target n deviceName ++
    [("relay_id".toList, .string (Utf8.asciiChars relayId.bytes)),
      ("source".toList, .string (target.id ++ "_ancs".toList)),
      ("published_at_ms".toList, .number uptimeMs.toNat)]

theorem decode_payload (target : IdfTarget) (n : AncsNotification limits) (deviceName : CText)
    {relayId : CText} (digits : HexDigits relayId) (uptimeMs : UInt64) :
    Json.decode (Utf8.encode (payloadChars target n deviceName digits uptimeMs)) =
      some (.object (payloadFields target (enriched n) deviceName relayId uptimeMs)) := by
  have named : ∀ p ∈ members target (enriched n) deviceName ++ extra target digits uptimeMs,
      Json.Named p.1 :=
    List.forall_mem_append.mpr ⟨named_members target (enriched n) deviceName,
      named_extra target digits uptimeMs⟩
  have some_ : members target (enriched n) deviceName ++ extra target digits uptimeMs ≠ [] :=
    List.cons_ne_nil _ _
  have values : (members target (enriched n) deviceName ++ extra target digits uptimeMs).map
      (fun p => (p.1, p.2.value)) = payloadFields target (enriched n) deviceName relayId uptimeMs := by
    rw [List.map_append, values_members]
    rfl
  rw [← values]
  exact Json.decode_of_spells (Json.Written.spells_members some_ named)

theorem build_refused {sizeMax : Nat} {target : IdfTarget} {n : AncsNotification limits}
    {deviceName relayId : CText} {uptimeMs : UInt64} (long : limits.appNameMax < (displayName n).length)
    (allocates : 2304 + payloadTextLength n deviceName relayId * 6 ≤ sizeMax) :
    buildNotification sizeMax true target n deviceName relayId uptimeMs = .error .invalidSize := by
  have small : ¬(sizeMax - 2304) / 6 < payloadTextLength n deviceName relayId := by omega
  simp [buildNotification, small, long]

/-- The payload is built and says all of the notification, the name filled in where it was
    empty, and of the relay. -/
def Built (sizeMax : Nat) (target : IdfTarget) (n : AncsNotification limits)
    (deviceName relayId : CText) (uptimeMs : UInt64) : Prop :=
  ∃ payload named, buildNotification sizeMax true target n deviceName relayId uptimeMs = .ok payload ∧
    named = { n with appName := named.appName } ∧ text named.appName = displayName n ∧
    Json.decode payload = some (.object (payloadFields target named deviceName relayId uptimeMs))

/-- The builder fails exactly where the app id stands in for a name that it is too long for. -/
theorem built_iff_fallback_fits {sizeMax : Nat} (target : IdfTarget) {n : AncsNotification limits}
    (range : InRange n) (terminated : Terminated n) (deviceName : CText) {relayId : CText}
    (digits : HexDigits relayId) (uptimeMs : UInt64)
    (allocates : 2304 + payloadTextLength n deviceName relayId * 6 ≤ sizeMax) :
    Built sizeMax target n deviceName relayId uptimeMs ↔ FallbackFits n := by
  rw [← length_displayName terminated]
  constructor
  · rintro ⟨payload, named, answer, _⟩
    refine Nat.le_of_not_lt fun long => ?_
    rw [build_refused long allocates] at answer
    cases answer
  · intro fits
    exact ⟨_, enriched n, build_fits target range fits deviceName digits uptimeMs allocates, rfl,
      text_enriched n fits, decode_payload target n deviceName digits uptimeMs⟩

def shortNames : AncsLimits where
  appIdMax := 64
  appNameMax := 32
  titleMax := 32
  subtitleMax := 32
  messageMax := 128
  dateMax := 16
  appId_range := by decide
  appName_range := by decide
  title_range := by decide
  subtitle_range := by decide
  message_range := by decide
  date_range := by decide

def fromApp (appId : String) : AncsNotification shortNames :=
  { AncsNotification.zero with complete := true, appId := ofText _ (ascii appId) }

def relayDigits : CText := { bytes := ascii "0f", nonzero := by decide +kernel }

theorem hexDigits_relayDigits : HexDigits relayDigits := by decide

theorem inRange_fromApp (appId : String) : InRange (fromApp appId) where
  errorCode := by
    show -2147483648 ≤ (0 : Int) ∧ (0 : Int) < 2147483648
    decide
  receivedAtMs := by
    show -9223372036854775808 ≤ (0 : Int) ∧ (0 : Int) < 9223372036854775808
    decide

theorem terminated_fromApp {appId : String} (fits : fieldValid (fromApp appId).appId = true) :
    Terminated (fromApp appId) where
  appId := fits
  appName := by
    show fieldValid (zeroed : CharArray 32) = true
    decide
  title := by
    show fieldValid (zeroed : CharArray 32) = true
    decide
  subtitle := by
    show fieldValid (zeroed : CharArray 32) = true
    decide
  message := by
    show fieldValid (zeroed : CharArray 128) = true
    decide
  messageSizeRaw := by
    show fieldValid (zeroed : CharArray 23) = true
    decide
  dateRaw := by
    show fieldValid (zeroed : CharArray 16) = true
    decide

theorem built_iff_fallback_fits_listed :
    Built 4294967295 .esp32c6 (fromApp "COM.apple.Music") phone relayDigits 7 ↔
      FallbackFits (fromApp "COM.apple.Music") := by
  have name : displayName (fromApp "COM.apple.Music") = ascii "Apple Music" := by decide
  have allocates : 2304 + payloadTextLength (fromApp "COM.apple.Music") phone relayDigits * 6 ≤
      4294967295 := by
    rw [payloadTextLength, name]
    decide
  exact built_iff_fallback_fits .esp32c6 (inRange_fromApp _) (terminated_fromApp (by decide))
    phone hexDigits_relayDigits 7 allocates

/-- An app id of thirty-six bytes, in an array for sixty-four, is too long for a name. -/
theorem long_app_id_is_refused : ¬ ∀ (sizeMax : Nat) (target : IdfTarget)
    (n : AncsNotification shortNames) (deviceName relayId : CText) (uptimeMs : UInt64),
    InRange n → Terminated n → HexDigits relayId →
      2304 + payloadTextLength n deviceName relayId * 6 ≤ sizeMax →
        Built sizeMax target n deviceName relayId uptimeMs := by
  intro all
  have name : displayName (fromApp "com.example.a-rather-long-identifier") =
      ascii "com.example.a-rather-long-identifier" := by decide
  have long : shortNames.appNameMax <
      (displayName (fromApp "com.example.a-rather-long-identifier")).length := by
    rw [name]
    decide
  have allocates : 2304 + payloadTextLength (fromApp "com.example.a-rather-long-identifier") phone
      relayDigits * 6 ≤ 4294967295 := by
    rw [payloadTextLength, name]
    decide
  obtain ⟨_, _, answer, _⟩ := all 4294967295 .esp32c6 _ phone relayDigits 7 (inRange_fromApp _)
    (terminated_fromApp (by decide)) hexDigits_relayDigits allocates
  rw [build_refused long allocates] at answer
  cases answer

end NotificationPayload
