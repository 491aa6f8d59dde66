import IosAncs.Foundation.CString
import IosAncs.Protocol.RequestQueue

/-!
The notification record, the frames of the Notification Source and the requests
that the client writes to the Control Point. The source is `ancs_protocol.c`.
-/
open CString

/-- The text sizes that Kconfig sets, within the ranges it admits. -/
structure AncsLimits where
  appIdMax : Nat
  appNameMax : Nat
  titleMax : Nat
  subtitleMax : Nat
  messageMax : Nat
  dateMax : Nat
  appId_range : 32 ≤ appIdMax ∧ appIdMax ≤ 1024
  appName_range : 32 ≤ appNameMax ∧ appNameMax ≤ 1024
  title_range : 32 ≤ titleMax ∧ titleMax ≤ 4096
  subtitle_range : 32 ≤ subtitleMax ∧ subtitleMax ≤ 4096
  message_range : 128 ≤ messageMax ∧ messageMax ≤ 16384
  date_range : 16 ≤ dateMax ∧ dateMax ≤ 128

namespace AncsLimits

def default : AncsLimits where
  appIdMax := 256
  appNameMax := 256
  titleMax := 512
  subtitleMax := 512
  messageMax := 4096
  dateMax := 32
  appId_range := by decide
  appName_range := by decide
  title_range := by decide
  subtitle_range := by decide
  message_range := by decide
  date_range := by decide

end AncsLimits

namespace AncsProtocol

def ok : Int := 0
def errArgument : Int := -1
def errLength : Int := -2
def errEvent : Int := -3
def errCommand : Int := -4
def errUidMismatch : Int := -5
def errAttribute : Int := -6
def errOverflow : Int := -7
def errSequence : Int := -8
def errTimeout : Int := -10
def errAppIdMismatch : Int := -11

def commandGetNotificationAttributes : UInt8 := 0
def commandGetAppAttributes : UInt8 := 1
def appAttributeDisplayName : UInt8 := 0

def readU32Le (b0 b1 b2 b3 : UInt8) : UInt32 :=
  b0.toUInt32 ||| b1.toUInt32 <<< 8 ||| b2.toUInt32 <<< 16 ||| b3.toUInt32 <<< 24

def parseNotificationSource (frame : List UInt8) : Except Int AncsNotificationEvent :=
  match frame with
  | [eventId, eventFlags, categoryId, categoryCount, b0, b1, b2, b3] =>
    if 2 < eventId then .error errEvent
    else .ok { eventId, eventFlags, categoryId, categoryCount, uid := readU32Le b0 b1 b2 b3 }
  | _ => .error errLength

end AncsProtocol

/-- `ancs_notification_t` -/
structure AncsNotification (limits : AncsLimits) where
  sessionId : UInt32
  uid : UInt32
  eventId : UInt8
  eventFlags : UInt8
  categoryId : UInt8
  categoryCount : UInt8
  appId : CharArray limits.appIdMax
  appName : CharArray limits.appNameMax
  title : CharArray limits.titleMax
  subtitle : CharArray limits.subtitleMax
  message : CharArray limits.messageMax
  messageSizeRaw : CharArray 23
  dateRaw : CharArray limits.dateMax
  complete : Bool
  appIdTruncated : Bool
  appNameTruncated : Bool
  titleTruncated : Bool
  subtitleTruncated : Bool
  messageTruncated : Bool
  errorCode : Int
  receivedAtMs : Int

namespace AncsNotification
open AncsProtocol
variable {limits : AncsLimits}

def zero : AncsNotification limits where
  sessionId := 0
  uid := 0
  eventId := 0
  eventFlags := 0
  categoryId := 0
  categoryCount := 0
  appId := zeroed
  appName := zeroed
  title := zeroed
  subtitle := zeroed
  message := zeroed
  messageSizeRaw := zeroed
  dateRaw := zeroed
  complete := false
  appIdTruncated := false
  appNameTruncated := false
  titleTruncated := false
  subtitleTruncated := false
  messageTruncated := false
  errorCode := 0
  receivedAtMs := 0

def init (sessionId : UInt32) (event : AncsNotificationEvent) (receivedAtMs : Int) :
    AncsNotification limits :=
  { zero with
    sessionId
    receivedAtMs
    uid := event.uid
    eventId := event.eventId
    eventFlags := event.eventFlags
    categoryId := event.categoryId
    categoryCount := event.categoryCount }

end AncsNotification

namespace AncsProtocol

def lowByte (value : Nat) : UInt8 := UInt8.ofNat value
def highByte (value : Nat) : UInt8 := UInt8.ofNat (value / 256)

def buildGetNotificationAttributes (limits : AncsLimits) (uid : UInt32) (capacity : Nat) :
    Except Int (List UInt8) :=
  if capacity < 17 then .error errOverflow
  else .ok [commandGetNotificationAttributes,
    uid.toUInt8, (uid >>> 8).toUInt8, (uid >>> 16).toUInt8, (uid >>> 24).toUInt8,
    0,
    1, lowByte limits.titleMax, highByte limits.titleMax,
    2, lowByte limits.subtitleMax, highByte limits.subtitleMax,
    3, lowByte limits.messageMax, highByte limits.messageMax,
    4, 5]

def buildGetAppAttributes {limits : AncsLimits} (appId : CharArray limits.appIdMax)
    (capacity : Nat) : Except Int (List UInt8) :=
  let length := boundedStrlen appId
  if length = 0 then .error errArgument
  else if limits.appIdMax < length then .error errLength
  else if capacity < length + 3 then .error errLength
  else .ok (commandGetAppAttributes :: text appId ++ [0, appAttributeDisplayName])

def controlRequestMax (limits : AncsLimits) : Nat := limits.appIdMax + 3

end AncsProtocol
