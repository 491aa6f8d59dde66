import IosAncs.Protocol.Fragmentation

/-!
The fields of the notification that attributes are read into, and what a byte of a
response writes there.
-/
open CString AncsProtocol Fragments

namespace DataParsing

theorem terminator_eq (length capacity : Nat) :
    (terminatorIndex length capacity).val = min length capacity := by
  simp only [terminatorIndex]
  split <;> omega

end DataParsing

namespace AncsNotification
variable {limits : AncsLimits}

def field (n : AncsNotification limits) (id : UInt8) : List UInt8 :=
  match id with
  | 0 => n.appId.toList
  | 1 => n.title.toList
  | 2 => n.subtitle.toList
  | 3 => n.message.toList
  | 4 => n.messageSizeRaw.toList
  | 5 => n.dateRaw.toList
  | _ => []

/-- The flag of an attribute, for those that have one. -/
def fieldTruncated (n : AncsNotification limits) (id : UInt8) : Bool :=
  match id with
  | 0 => n.appIdTruncated
  | 1 => n.titleTruncated
  | 2 => n.subtitleTruncated
  | 3 => n.messageTruncated
  | _ => false

/-- `m` is `n` but for the fields and flags of these attributes, `complete` and `error_code`. -/
structure WritesOnly (written : UInt8 → Prop) (n m : AncsNotification limits) : Prop where
  field : ∀ id, ¬written id → m.field id = n.field id
  flag : ∀ id, ¬written id → m.fieldTruncated id = n.fieldTruncated id
  rest :
    (m.sessionId, m.uid, m.eventId, m.eventFlags, m.categoryId, m.categoryCount, m.receivedAtMs) =
      (n.sessionId, n.uid, n.eventId, n.eventFlags, n.categoryId, n.categoryCount, n.receivedAtMs)
  name : (m.appName, m.appNameTruncated) = (n.appName, n.appNameTruncated)

variable {written : UInt8 → Prop} {n m k : AncsNotification limits}

theorem writes_refl (n : AncsNotification limits) : WritesOnly written n n where
  field _ _ := rfl
  flag _ _ := rfl
  rest := rfl
  name := rfl

theorem writes_trans (first : WritesOnly written n m) (second : WritesOnly written m k) :
    WritesOnly written n k where
  field id other := (second.field id other).trans (first.field id other)
  flag id other := (second.flag id other).trans (first.flag id other)
  rest := second.rest.trans first.rest
  name := second.name.trans first.name

theorem writes_mono {wider : UInt8 → Prop} (h : WritesOnly written n m)
    (le : ∀ id, written id → wider id) : WritesOnly wider n m where
  field id other := h.field id fun inside => other (le id inside)
  flag id other := h.flag id fun inside => other (le id inside)
  rest := h.rest
  name := h.name

theorem writes_completed (n : AncsNotification limits) (complete : Bool) (errorCode : Int) :
    WritesOnly written n { n with complete, errorCode } where
  field id _ := by unfold field; rfl
  flag id _ := by unfold fieldTruncated; rfl
  rest := rfl
  name := rfl

end AncsNotification

namespace AncsLimits

/-- How many bytes of a value the field of an attribute holds. -/
def capacity (limits : AncsLimits) (id : UInt8) : Nat :=
  match id with
  | 0 => limits.appIdMax
  | 1 => limits.titleMax
  | 2 => limits.subtitleMax
  | 3 => limits.messageMax
  | 4 => 23
  | 5 => limits.dateMax
  | _ => 0

end AncsLimits

namespace AttributeTarget
open AncsNotification DataParsing
variable {limits : AncsLimits}

structure Writes (target : AttributeTarget limits) (id : UInt8) : Prop where
  capacity : target.capacity = limits.capacity id
  length : ∀ n : AncsNotification limits, (n.field id).length = target.capacity + 1
  writes : ∀ n i byte, WritesOnly (· = id) n (target.write n i byte)
  set : ∀ n i byte, (target.write n i byte).field id = (n.field id).set i byte
  flag : ∀ n i byte, (target.write n i byte).fieldTruncated id = n.fieldTruncated id
  marks : ∀ mark, target.truncated = some mark → ∀ n, WritesOnly (· = id) n (mark n) ∧
    (mark n).field id = n.field id ∧ (mark n).fieldTruncated id = true
  strict : target.truncated = none ↔ id = 4 ∨ id = 5

theorem writes_attributeTarget {id : UInt8} {target : AttributeTarget limits}
    (found : attributeTarget limits id = some target) : target.Writes id := by
  unfold attributeTarget at found
  split at found
  all_goals cases found
  -- one field after another; the others are told apart by their ids
  all_goals
    refine
      { capacity := rfl
        length := fun n => Vector.length_toList
        writes := fun n i byte =>
          { field := fun id other => ?_, flag := fun id other => ?_, rest := rfl, name := rfl }
        set := fun n i byte => Vector.toList_set (h := i.isLt)
        flag := fun n i byte => rfl
        marks := ?_
        strict := by simp }
    · unfold field
      split <;> first | rfl | exact absurd rfl other
    · unfold fieldTruncated
      split <;> rfl
    · intro mark marks n
      cases marks
      all_goals
        refine ⟨?_, rfl, rfl⟩
        refine { field := fun _ _ => rfl, flag := fun id other => ?_, rest := rfl, name := rfl }
        unfold fieldTruncated
        split <;> first | rfl | exact absurd rfl other

end AttributeTarget

namespace DataParsing
open AncsNotification AttributeTarget
variable {limits : AncsLimits}

def reading (d : DataParsing limits) : Option UInt8 :=
  match d.parser.state with
  | .attributeLength | .attributeValue => some d.parser.attributeId
  | .command | .uid | .attributeId | .complete | .error => none

variable {written : UInt8 → Prop} {n : AncsNotification limits}

theorem writes_fail {d : DataParsing limits} (before : WritesOnly written n d.notification)
    (errorCode : Int) : WritesOnly written n (d.fail errorCode).1.notification :=
  writes_trans before (writes_completed _ _ _)

theorem writes_received {d : DataParsing limits} (before : WritesOnly written n d.notification) :
    WritesOnly written n d.received.1.notification := by
  unfold received
  dsimp only
  split
  · exact writes_trans before (writes_completed _ _ _)
  · exact before

theorem writes_finishAttribute {d : DataParsing limits} {id : UInt8}
    (id_ : d.parser.attributeId = id) (before : WritesOnly (· = id) n d.notification) :
    WritesOnly (· = id) n d.finishAttribute.1.notification := by
  subst id_
  unfold finishAttribute
  split
  · exact writes_fail before _
  · next target found =>
    have target_ := writes_attributeTarget found
    have terminated := writes_trans before (target_.writes d.notification
      (terminatorIndex d.parser.attributeLength.toNat target.capacity) 0)
    dsimp only
    split
    · split
      · next mark marks =>
        exact writes_received (writes_trans terminated (target_.marks mark marks _).1)
      · exact writes_fail terminated _
    · exact writes_received terminated

theorem writes_attributeLength (d : DataParsing limits) (byte : UInt8) :
    WritesOnly (· = d.parser.attributeId) d.notification (d.attributeLength byte).1.notification := by
  unfold attributeLength
  dsimp only
  split
  · exact writes_refl _
  · split
    · exact writes_finishAttribute (by rfl) (writes_refl _)
    · exact writes_refl _

theorem writes_attributeValue (d : DataParsing limits) (byte : UInt8) :
    WritesOnly (· = d.parser.attributeId) d.notification (d.attributeValue byte).1.notification := by
  unfold attributeValue
  split
  · exact writes_fail (writes_refl _) _
  · next target found =>
    have target_ := writes_attributeTarget found
    have one : WritesOnly (· = d.parser.attributeId) d.notification
        (if room : d.parser.attributeRead.toNat < target.capacity then
          target.write d.notification ⟨d.parser.attributeRead.toNat, Nat.lt_succ_of_lt room⟩ byte
        else d.notification) := by
      split
      · exact target_.writes ..
      · exact writes_refl _
    dsimp only
    split
    · exact writes_finishAttribute (by rfl) one
    · exact one

/-- A byte writes the field of the attribute that is read, or none. -/
theorem writes_feedByte (d : DataParsing limits) (byte : UInt8) :
    WritesOnly (d.reading = some ·) d.notification (d.feedByte byte).1.notification := by
  have none_ (errorCode : Int) :
      WritesOnly (d.reading = some ·) d.notification (d.fail errorCode).1.notification :=
    writes_fail (writes_refl _) errorCode
  unfold feedByte
  split
  · unfold command
    split
    · exact none_ _
    · exact writes_refl _
  · unfold uid
    dsimp only
    split
    · exact writes_refl _
    · split
      · exact writes_fail (writes_refl _) _
      · exact writes_refl _
  · unfold attributeId
    dsimp only
    split
    · exact none_ _
    · split
      · exact none_ _
      · exact writes_refl _
  · next state =>
    refine writes_mono (writes_attributeLength d byte) ?_
    rintro id rfl
    simp only [reading, state]
  · next state =>
    refine writes_mono (writes_attributeValue d byte) ?_
    rintro id rfl
    simp only [reading, state]
  · exact none_ _
  · exact none_ _

theorem writes_feed (d : DataParsing limits) (byte : UInt8) :
    WritesOnly (d.reading = some ·) d.notification (d.feed [byte]).1.notification := by
  by_cases error : d.parser.state = .error
  · rw [feed_failed error]
    exact writes_refl _
  · by_cases complete : d.parser.state = .complete
    · rw [feed_completed complete, if_neg (List.cons_ne_nil _ _)]
      exact writes_fail (writes_refl _) _
    · rw [feed_open ⟨complete, error⟩]
      have one := writes_feedByte d byte
      unfold feedBytes
      split
      · next next_ answer =>
        rw [answer] at one
        exact one
      · next next_ answer =>
        rw [answer] at one
        exact one
      · next next_ answer =>
        rw [answer] at one
        exact one
end DataParsing
