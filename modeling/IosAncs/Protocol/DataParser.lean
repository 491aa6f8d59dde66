import IosAncs.Protocol.Notification

/-!
The two parsers of the Data Source. Each takes the bytes of a response in any
cuts and writes into the notification it was started with; here a parser and
its notification are one value. The source is `ancs_protocol.c`.
-/
open CString AncsProtocol

inductive AncsParserResult where
  | more
  | complete
  | error
deriving DecidableEq, Repr

inductive ParserState where
  | command
  | uid
  | attributeId
  | attributeLength
  | attributeValue
  | complete
  | error
deriving DecidableEq, Repr

inductive AppParserState where
  | command
  | appId
  | attributeId
  | attributeLength
  | attributeValue
  | complete
  | error
deriving DecidableEq, Repr

/-- `ancs_data_parser_t` but for its notification. -/
structure AncsDataParser where
  expectedUid : UInt32
  expectedMask : UInt32
  receivedMask : UInt32
  responseUid : UInt32
  attributeLength : UInt16
  attributeRead : UInt16
  state : ParserState
  uidBytesRead : UInt8
  attributeId : UInt8
  lengthBytesRead : UInt8
  errorCode : Int
deriving DecidableEq, Repr

/-- `ancs_app_data_parser_t` but for its notification. -/
structure AncsAppDataParser where
  /-- `response_app_id` up to `response_app_id_read` -/
  responseAppId : List UInt8
  attributeLength : UInt16
  attributeRead : UInt16
  state : AppParserState
  attributeId : UInt8
  lengthBytesRead : UInt8
  errorCode : Int
deriving DecidableEq, Repr

namespace AncsProtocol

def attrMaskRequired : UInt32 := 63

/-- The parser after `memset`. -/
def dataParserZero : AncsDataParser where
  expectedUid := 0
  expectedMask := 0
  receivedMask := 0
  responseUid := 0
  attributeLength := 0
  attributeRead := 0
  state := .command
  uidBytesRead := 0
  attributeId := 0
  lengthBytesRead := 0
  errorCode := 0

def appDataParserZero : AncsAppDataParser where
  responseAppId := []
  attributeLength := 0
  attributeRead := 0
  state := .command
  attributeId := 0
  lengthBytesRead := 0
  errorCode := 0

end AncsProtocol

structure DataParsing (limits : AncsLimits) where
  parser : AncsDataParser
  notification : AncsNotification limits

/-- Where the value of an attribute goes; the index type keeps every write in its field. -/
structure AttributeTarget (limits : AncsLimits) where
  capacity : Nat
  write : AncsNotification limits → Fin (capacity + 1) → UInt8 → AncsNotification limits
  /-- `none` where a longer value is an error -/
  truncated : Option (AncsNotification limits → AncsNotification limits)

namespace DataParsing
variable {limits : AncsLimits}

def attributeTarget (limits : AncsLimits) (attributeId : UInt8) : Option (AttributeTarget limits) :=
  match attributeId with
  | 0 => some {
      capacity := limits.appIdMax
      write := fun n i byte => { n with appId := n.appId.set i byte i.isLt }
      truncated := some fun n => { n with appIdTruncated := true } }
  | 1 => some {
      capacity := limits.titleMax
      write := fun n i byte => { n with title := n.title.set i byte i.isLt }
      truncated := some fun n => { n with titleTruncated := true } }
  | 2 => some {
      capacity := limits.subtitleMax
      write := fun n i byte => { n with subtitle := n.subtitle.set i byte i.isLt }
      truncated := some fun n => { n with subtitleTruncated := true } }
  | 3 => some {
      capacity := limits.messageMax
      write := fun n i byte => { n with message := n.message.set i byte i.isLt }
      truncated := some fun n => { n with messageTruncated := true } }
  | 4 => some {
      capacity := 23
      write := fun n i byte => { n with messageSizeRaw := n.messageSizeRaw.set i byte i.isLt }
      truncated := none }
  | 5 => some {
      capacity := limits.dateMax
      write := fun n i byte => { n with dateRaw := n.dateRaw.set i byte i.isLt }
      truncated := none }
  | _ => none

def fail (d : DataParsing limits) (errorCode : Int) : DataParsing limits × AncsParserResult :=
  ({ parser := { d.parser with state := .error, errorCode }
     notification := { d.notification with complete := false, errorCode } }, .error)

/-- The place of the terminator: after the value, or at the end of the field. -/
def terminatorIndex (length capacity : Nat) : Fin (capacity + 1) :=
  ⟨if length < capacity then length else capacity, by split <;> omega⟩

/-- The end of `finish_attribute`: the attribute counts as received. -/
def received (d : DataParsing limits) : DataParsing limits × AncsParserResult :=
  let receivedMask := d.parser.receivedMask ||| 1 <<< d.parser.attributeId.toUInt32
  if receivedMask &&& d.parser.expectedMask = d.parser.expectedMask then
    ({ parser := { d.parser with receivedMask, state := .complete }
       notification := { d.notification with complete := true, errorCode := ok } }, .complete)
  else
    ({ d with parser := { d.parser with
        receivedMask
        state := .attributeId
        attributeLength := 0
        attributeRead := 0
        lengthBytesRead := 0 } }, .more)

def finishAttribute (d : DataParsing limits) : DataParsing limits × AncsParserResult :=
  match attributeTarget limits d.parser.attributeId with
  | none => d.fail errAttribute
  | some target =>
    let length := d.parser.attributeLength.toNat
    let terminated := { d with
      notification := target.write d.notification (terminatorIndex length target.capacity) 0 }
    if target.capacity < length then
      match target.truncated with
      | some mark => received { terminated with notification := mark terminated.notification }
      | none => terminated.fail errOverflow
    else terminated.received

def init (notification : AncsNotification limits) (expectedUid expectedMask : UInt32) :
    DataParsing limits :=
  let started : DataParsing limits :=
    { parser := { dataParserZero with
        expectedUid
        expectedMask := expectedMask &&& attrMaskRequired }
      notification }
  if started.parser.expectedMask = 0 then (started.fail errArgument).1 else started

def command (d : DataParsing limits) (byte : UInt8) : DataParsing limits × AncsParserResult :=
  if byte ≠ commandGetNotificationAttributes then d.fail errCommand
  else ({ d with parser := { d.parser with
    responseUid := 0, uidBytesRead := 0, state := .uid } }, .more)

def uid (d : DataParsing limits) (byte : UInt8) : DataParsing limits × AncsParserResult :=
  let responseUid := d.parser.responseUid ||| byte.toUInt32 <<< (8 * d.parser.uidBytesRead.toUInt32)
  let uidBytesRead := d.parser.uidBytesRead + 1
  let read := { d with parser := { d.parser with responseUid, uidBytesRead } }
  if uidBytesRead ≠ 4 then (read, .more)
  else if responseUid ≠ d.parser.expectedUid then read.fail errUidMismatch
  else ({ read with parser := { read.parser with state := .attributeId } }, .more)

def attributeId (d : DataParsing limits) (byte : UInt8) : DataParsing limits × AncsParserResult :=
  let bit := 1 <<< byte.toUInt32
  if 5 < byte then d.fail errAttribute
  else if d.parser.expectedMask &&& bit = 0 ∨ d.parser.receivedMask &&& bit ≠ 0 then
    d.fail errSequence
  else ({ d with parser := { d.parser with
    attributeId := byte
    attributeLength := 0
    attributeRead := 0
    lengthBytesRead := 0
    state := .attributeLength } }, .more)

def attributeLength (d : DataParsing limits) (byte : UInt8) :
    DataParsing limits × AncsParserResult :=
  let attributeLength :=
    d.parser.attributeLength ||| byte.toUInt16 <<< (8 * d.parser.lengthBytesRead.toUInt16)
  let lengthBytesRead := d.parser.lengthBytesRead + 1
  let read := { d with parser := { d.parser with attributeLength, lengthBytesRead } }
  if lengthBytesRead ≠ 2 then (read, .more)
  else if attributeLength = 0 then read.finishAttribute
  else ({ read with parser := { read.parser with state := .attributeValue } }, .more)

def attributeValue (d : DataParsing limits) (byte : UInt8) :
    DataParsing limits × AncsParserResult :=
  match attributeTarget limits d.parser.attributeId with
  | none => d.fail errAttribute
  | some target =>
    let written := if room : d.parser.attributeRead.toNat < target.capacity then
        target.write d.notification ⟨d.parser.attributeRead.toNat, Nat.lt_succ_of_lt room⟩ byte
      else d.notification
    let attributeRead := d.parser.attributeRead + 1
    let read : DataParsing limits :=
      { parser := { d.parser with attributeRead }, notification := written }
    if attributeRead = d.parser.attributeLength then read.finishAttribute else (read, .more)

/-- One turn of the loop of `ancs_data_parser_feed`; it goes on while the answer is
    `more`. -/
def feedByte (d : DataParsing limits) (byte : UInt8) : DataParsing limits × AncsParserResult :=
  match d.parser.state with
  | .command => d.command byte
  | .uid => d.uid byte
  | .attributeId => d.attributeId byte
  | .attributeLength => d.attributeLength byte
  | .attributeValue => d.attributeValue byte
  | .complete | .error => d.fail errSequence

def feedBytes (d : DataParsing limits) : List UInt8 → DataParsing limits × AncsParserResult
  | [] => (d, if d.parser.state = .complete then .complete else .more)
  | byte :: rest =>
    match d.feedByte byte with
    | (next, .more) => next.feedBytes rest
    -- a byte after the last attribute is one too many
    | (next, .complete) => if rest = [] then (next, .complete) else next.fail errSequence
    | (next, .error) => (next, .error)

def feed (d : DataParsing limits) (bytes : List UInt8) : DataParsing limits × AncsParserResult :=
  match d.parser.state with
  | .error => (d, .error)
  | .complete => if bytes = [] then (d, .complete) else d.fail errSequence
  | _ => d.feedBytes bytes

def WellEnded (d : DataParsing limits) : Prop :=
  (d.parser.state = .complete → d.notification.complete = true ∧ d.notification.errorCode = ok) ∧
    (d.parser.state = .error → d.parser.errorCode ≠ ok)

def Answers (answer : DataParsing limits × AncsParserResult) : Prop :=
  match answer.2 with
  | .more => answer.1.parser.state ≠ .complete ∧ answer.1.parser.state ≠ .error
  | .complete => answer.1.parser.state = .complete ∧ answer.1.notification.complete = true ∧
      answer.1.notification.errorCode = ok
  | .error => answer.1.parser.state = .error ∧ answer.1.parser.errorCode ≠ ok

theorem answers_fail (d : DataParsing limits) {errorCode : Int} (failed : errorCode ≠ ok) :
    Answers (d.fail errorCode) := ⟨rfl, failed⟩

theorem answers_more {d : DataParsing limits} {state : ParserState}
    (same : d.parser.state = state) (open_ : state ≠ .complete ∧ state ≠ .error) :
    Answers (d, .more) := by
  unfold Answers
  rw [same]
  exact open_

theorem answers_received (d : DataParsing limits) : Answers d.received := by
  unfold received
  dsimp only
  split
  · exact ⟨rfl, rfl, rfl⟩
  · exact ⟨nofun, nofun⟩

theorem answers_finishAttribute (d : DataParsing limits) : Answers d.finishAttribute := by
  unfold finishAttribute
  split
  · exact answers_fail d (by decide)
  · dsimp only
    split
    · split
      · exact answers_received _
      · exact answers_fail _ (by decide)
    · exact answers_received _

theorem answers_feedByte (d : DataParsing limits) (byte : UInt8)
    (open_ : d.parser.state ≠ .complete ∧ d.parser.state ≠ .error) :
    Answers (d.feedByte byte) := by
  unfold feedByte
  split
  · unfold command
    split
    · exact answers_fail d (by decide)
    · exact ⟨nofun, nofun⟩
  · next state =>
    unfold uid
    dsimp only
    split
    · exact answers_more state (by decide)
    · split
      · exact answers_fail _ (by decide)
      · exact ⟨nofun, nofun⟩
  · unfold attributeId
    dsimp only
    split
    · exact answers_fail d (by decide)
    · split
      · exact answers_fail d (by decide)
      · exact ⟨nofun, nofun⟩
  · next state =>
    unfold attributeLength
    dsimp only
    split
    · exact answers_more state (by decide)
    · split
      · exact answers_finishAttribute _
      · exact ⟨nofun, nofun⟩
  · next state =>
    unfold attributeValue
    split
    · exact answers_fail d (by decide)
    · dsimp only
      split
      · exact answers_finishAttribute _
      · exact answers_more state (by decide)
  · next state => exact absurd state open_.1
  · next state => exact absurd state open_.2

theorem answers_feedBytes (d : DataParsing limits) (bytes : List UInt8)
    (open_ : d.parser.state ≠ .complete ∧ d.parser.state ≠ .error) :
    Answers (d.feedBytes bytes) := by
  induction bytes generalizing d with
  | nil =>
    simp only [feedBytes, open_.1, ↓reduceIte]
    exact open_
  | cons byte rest ih =>
    have one := answers_feedByte d byte open_
    unfold feedBytes
    split
    · next next_ found =>
      rw [found] at one
      exact ih next_ one
    · next next_ found =>
      rw [found] at one
      split
      · exact one
      · exact answers_fail _ (by decide)
    · next next_ found =>
      rw [found] at one
      exact one

theorem answers_feed {d : DataParsing limits} (wellEnded : d.WellEnded) (bytes : List UInt8) :
    Answers (d.feed bytes) := by
  unfold feed
  split
  · next state => exact ⟨state, wellEnded.2 state⟩
  · next state =>
    split
    · exact ⟨state, wellEnded.1 state⟩
    · exact answers_fail _ (by decide)
  · next error complete => exact answers_feedBytes d bytes ⟨complete, error⟩

theorem wellEnded_of_answers {answer : DataParsing limits × AncsParserResult}
    (answers : Answers answer) : answer.1.WellEnded := by
  unfold Answers at answers
  split at answers
  · exact ⟨fun complete => absurd complete answers.1, fun error => absurd error answers.2⟩
  · exact ⟨fun _ => answers.2, fun error => absurd (answers.1.symm.trans error) (by decide)⟩
  · exact ⟨fun complete => absurd (answers.1.symm.trans complete) (by decide), fun _ => answers.2⟩

theorem wellEnded_feed {d : DataParsing limits} (wellEnded : d.WellEnded) (bytes : List UInt8) :
    (d.feed bytes).1.WellEnded := wellEnded_of_answers (answers_feed wellEnded bytes)

theorem wellEnded_init (notification : AncsNotification limits) (expectedUid expectedMask : UInt32) :
    (init notification expectedUid expectedMask).WellEnded := by
  unfold init
  dsimp only
  split
  · exact wellEnded_of_answers (answers_fail _ (by decide))
  · exact ⟨nofun, nofun⟩

end DataParsing

structure AppDataParsing (limits : AncsLimits) where
  parser : AncsAppDataParser
  notification : AncsNotification limits

namespace AppDataParsing
variable {limits : AncsLimits}

def clearName (notification : AncsNotification limits) : AncsNotification limits :=
  { notification with appName := notification.appName.set 0 0, appNameTruncated := false }

def fail (d : AppDataParsing limits) (errorCode : Int) : AppDataParsing limits × AncsParserResult :=
  ({ parser := { d.parser with state := .error, errorCode }
     notification := clearName d.notification }, .error)

def finishAppAttribute (d : AppDataParsing limits) : AppDataParsing limits × AncsParserResult :=
  if d.parser.attributeId ≠ appAttributeDisplayName then d.fail errAttribute
  else
    let length := d.parser.attributeLength.toNat
    let terminator := DataParsing.terminatorIndex length limits.appNameMax
    ({ parser := { d.parser with state := .complete, errorCode := ok }
       notification := { d.notification with
        appName := d.notification.appName.set terminator 0 terminator.isLt
        appNameTruncated := decide (limits.appNameMax < length) } }, .complete)

def init (notification : AncsNotification limits) : AppDataParsing limits :=
  let started : AppDataParsing limits := { parser := appDataParserZero, notification }
  if isBlank notification.appId then (started.fail errArgument).1
  else { started with notification := clearName notification }

def command (d : AppDataParsing limits) (byte : UInt8) :
    AppDataParsing limits × AncsParserResult :=
  if byte ≠ commandGetAppAttributes then d.fail errCommand
  else ({ d with parser := { d.parser with state := .appId } }, .more)

/-- A byte of the app id; `strcmp` compares up to the terminators. -/
def appId (d : AppDataParsing limits) (byte : UInt8) : AppDataParsing limits × AncsParserResult :=
  if byte = 0 then
    if d.parser.responseAppId ≠ text d.notification.appId then d.fail errAppIdMismatch
    else ({ d with parser := { d.parser with state := .attributeId } }, .more)
  else if limits.appIdMax ≤ d.parser.responseAppId.length then d.fail errOverflow
  else ({ d with parser := { d.parser with
    responseAppId := d.parser.responseAppId ++ [byte] } }, .more)

def attributeId (d : AppDataParsing limits) (byte : UInt8) :
    AppDataParsing limits × AncsParserResult :=
  if byte ≠ appAttributeDisplayName then d.fail errAttribute
  else ({ d with parser := { d.parser with
    attributeId := byte
    attributeLength := 0
    attributeRead := 0
    lengthBytesRead := 0
    state := .attributeLength } }, .more)

def attributeLength (d : AppDataParsing limits) (byte : UInt8) :
    AppDataParsing limits × AncsParserResult :=
  let attributeLength :=
    d.parser.attributeLength ||| byte.toUInt16 <<< (8 * d.parser.lengthBytesRead.toUInt16)
  let lengthBytesRead := d.parser.lengthBytesRead + 1
  let read := { d with parser := { d.parser with attributeLength, lengthBytesRead } }
  if lengthBytesRead ≠ 2 then (read, .more)
  else if attributeLength = 0 then read.finishAppAttribute
  else ({ read with parser := { read.parser with state := .attributeValue } }, .more)

def attributeValue (d : AppDataParsing limits) (byte : UInt8) :
    AppDataParsing limits × AncsParserResult :=
  let appName := if room : d.parser.attributeRead.toNat < limits.appNameMax then
      d.notification.appName.set d.parser.attributeRead.toNat byte (Nat.lt_succ_of_lt room)
    else d.notification.appName
  let attributeRead := d.parser.attributeRead + 1
  let read : AppDataParsing limits :=
    { parser := { d.parser with attributeRead }, notification := { d.notification with appName } }
  if attributeRead = d.parser.attributeLength then read.finishAppAttribute else (read, .more)

/-- One turn of the loop of `ancs_app_data_parser_feed`. -/
def feedByte (d : AppDataParsing limits) (byte : UInt8) :
    AppDataParsing limits × AncsParserResult :=
  match d.parser.state with
  | .command => d.command byte
  | .appId => d.appId byte
  | .attributeId => d.attributeId byte
  | .attributeLength => d.attributeLength byte
  | .attributeValue => d.attributeValue byte
  | .complete | .error => d.fail errSequence

def feedBytes (d : AppDataParsing limits) : List UInt8 → AppDataParsing limits × AncsParserResult
  | [] => (d, if d.parser.state = .complete then .complete else .more)
  | byte :: rest =>
    match d.feedByte byte with
    | (next, .more) => next.feedBytes rest
    | (next, .complete) => if rest = [] then (next, .complete) else next.fail errSequence
    | (next, .error) => (next, .error)

def feed (d : AppDataParsing limits) (bytes : List UInt8) :
    AppDataParsing limits × AncsParserResult :=
  match d.parser.state with
  | .error => (d, .error)
  | .complete => if bytes = [] then (d, .complete) else d.fail errSequence
  | _ => d.feedBytes bytes

end AppDataParsing

namespace AncsNotification
variable {limits : AncsLimits}

def SameButName (n m : AncsNotification limits) : Prop :=
  m = { n with appName := m.appName, appNameTruncated := m.appNameTruncated }

@[simp] theorem same_but_name_refl (n : AncsNotification limits) : n.SameButName n := rfl

theorem same_but_name_trans {n m k : AncsNotification limits} (first : n.SameButName m)
    (second : m.SameButName k) : n.SameButName k := by
  unfold SameButName at first second ⊢
  rw [second, first]

theorem same_but_name_named (n : AncsNotification limits) (appName : CharArray limits.appNameMax) :
    n.SameButName { n with appName } := rfl

theorem same_but_name_complete {n m : AncsNotification limits} (same : n.SameButName m) :
    m.complete = n.complete := by
  unfold SameButName at same
  rw [same]

theorem same_but_name_errorCode {n m : AncsNotification limits} (same : n.SameButName m) :
    m.errorCode = n.errorCode := by
  unfold SameButName at same
  rw [same]

end AncsNotification

namespace AppDataParsing
open AncsNotification
variable {limits : AncsLimits}

theorem same_fail (d : AppDataParsing limits) (errorCode : Int) :
    d.notification.SameButName (d.fail errorCode).1.notification := rfl

theorem same_finishAppAttribute (d : AppDataParsing limits) :
    d.notification.SameButName d.finishAppAttribute.1.notification := by
  unfold finishAppAttribute
  split
  · exact same_fail d _
  · rfl

theorem same_feedByte (d : AppDataParsing limits) (byte : UInt8) :
    d.notification.SameButName (d.feedByte byte).1.notification := by
  unfold feedByte
  split
  · unfold command
    split <;> rfl
  · unfold appId
    split
    · split <;> rfl
    · split <;> rfl
  · unfold attributeId
    split <;> rfl
  · unfold attributeLength
    dsimp only
    split
    · rfl
    · split
      · exact same_finishAppAttribute _
      · rfl
  · unfold attributeValue
    dsimp only
    split
    · exact same_but_name_trans (same_but_name_named _ _) (same_finishAppAttribute _)
    · rfl
  · exact same_fail d _
  · exact same_fail d _

theorem same_feedBytes (d : AppDataParsing limits) (bytes : List UInt8) :
    d.notification.SameButName (d.feedBytes bytes).1.notification := by
  induction bytes generalizing d with
  | nil => rfl
  | cons byte rest ih =>
    have one := same_feedByte d byte
    unfold feedBytes
    split
    · next next_ found =>
      rw [found] at one
      exact same_but_name_trans one (ih next_)
    · next next_ found =>
      rw [found] at one
      split
      · exact one
      · exact same_but_name_trans one (same_fail _ _)
    · next next_ found =>
      rw [found] at one
      exact one

theorem same_feed (d : AppDataParsing limits) (bytes : List UInt8) :
    d.notification.SameButName (d.feed bytes).1.notification := by
  unfold feed
  split
  · rfl
  · split
    · rfl
    · exact same_fail d _
  · exact same_feedBytes d bytes

theorem same_init (notification : AncsNotification limits) :
    notification.SameButName (init notification).notification := by
  unfold init
  dsimp only
  split <;> rfl

end AppDataParsing
