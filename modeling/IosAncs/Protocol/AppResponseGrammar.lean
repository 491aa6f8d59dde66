import IosAncs.Foundation.LittleEndian
import IosAncs.Protocol.AttributeFields

/-!
The request for an app's name and the responses that its parser accepts.
-/
open CString AncsProtocol LittleEndian Fragments

namespace AncsNotification
variable {limits : AncsLimits}

/-- The app's name holds a value, cut to the room there is, and a terminator. -/
def Named (n : AncsNotification limits) (name : List UInt8) : Prop :=
  name.take limits.appNameMax ++ [0] <+: n.appName.toList ∧
    n.appNameTruncated = decide (limits.appNameMax < name.length)

def Nameless (n : AncsNotification limits) : Prop := n.appName.get ⟨0, Nat.succ_pos _⟩ = 0 ∧ n.appNameTruncated = false

end AncsNotification

namespace AppDataParsing
open AncsNotification
variable {limits : AncsLimits}

theorem nameless_clearName (n : AncsNotification limits) : (clearName n).Nameless :=
  ⟨Vector.getElem_set_self (Nat.succ_pos _), rfl⟩

def goOn (answer : AppDataParsing limits × AncsParserResult) (rest : List UInt8) :
    AppDataParsing limits × AncsParserResult :=
  match answer with
  | (next, .more) => next.feedBytes rest
  | (next, .complete) => if rest = [] then (next, .complete) else next.fail errSequence
  | (next, .error) => (next, .error)

theorem feedBytes_cons (d : AppDataParsing limits) (byte : UInt8) (rest : List UInt8) :
    d.feedBytes (byte :: rest) = goOn (d.feedByte byte) rest := rfl

theorem feedBytes_nil {d : AppDataParsing limits} (open_ : d.parser.state ≠ .complete) :
    d.feedBytes [] = (d, .more) := by
  simp [feedBytes, open_]

theorem feedByte_command {d : AppDataParsing limits} (state : d.parser.state = .command)
    (byte : UInt8) : d.feedByte byte = d.command byte := by
  unfold feedByte
  rw [state]

theorem feedByte_appId {d : AppDataParsing limits} (state : d.parser.state = .appId)
    (byte : UInt8) : d.feedByte byte = d.appId byte := by
  unfold feedByte
  rw [state]

theorem feedByte_attributeId {d : AppDataParsing limits} (state : d.parser.state = .attributeId)
    (byte : UInt8) : d.feedByte byte = d.attributeId byte := by
  unfold feedByte
  rw [state]

theorem feedByte_attributeLength {d : AppDataParsing limits}
    (state : d.parser.state = .attributeLength) (byte : UInt8) :
    d.feedByte byte = d.attributeLength byte := by
  unfold feedByte
  rw [state]

theorem feedByte_attributeValue {d : AppDataParsing limits}
    (state : d.parser.state = .attributeValue) (byte : UInt8) :
    d.feedByte byte = d.attributeValue byte := by
  unfold feedByte
  rw [state]

theorem fills_next {n : AncsNotification limits} {done : List UInt8}
    (filled : done.take limits.appNameMax <+: n.appName.toList) (byte : UInt8) {place : Nat}
    (place_ : place = done.length) :
    (done ++ [byte]).take limits.appNameMax <+:
      (if room : place < limits.appNameMax then
        n.appName.set place byte (Nat.lt_succ_of_lt room) else n.appName).toList := by
  subst place_
  split
  · next room =>
    rw [Vector.toList_set, List.take_of_length_le (by simpa using Nat.succ_le_of_lt room)]
    rw [List.take_of_length_le (Nat.le_of_lt room)] at filled
    exact prefix_set filled (by rw [Vector.length_toList]; omega) byte
  · next full =>
    rw [List.take_append_of_le_length (Nat.not_lt.mp full)]
    exact filled

theorem finish_name {d : AppDataParsing limits} {name : List UInt8}
    (id : d.parser.attributeId = appAttributeDisplayName)
    (length : d.parser.attributeLength.toNat = name.length)
    (filled : name.take limits.appNameMax <+: d.notification.appName.toList) :
    ∃ finished, d.finishAppAttribute = (finished, .complete) ∧ finished.notification.Named name := by
  unfold finishAppAttribute
  rw [if_neg (not_not.mpr id)]
  refine ⟨_, rfl, ?_, ?_⟩
  case refine_2 =>
    dsimp only
    rw [length]
  have place : (DataParsing.terminatorIndex d.parser.attributeLength.toNat limits.appNameMax).val =
      (name.take limits.appNameMax).length := by
    rw [DataParsing.terminator_eq, List.length_take, length, Nat.min_comm]
  dsimp only
  rw [Vector.toList_set, place]
  refine prefix_set filled ?_ 0
  rw [Vector.length_toList, List.length_take]
  omega

theorem feed_value {d : AppDataParsing limits} (state : d.parser.state = .attributeValue)
    (id : d.parser.attributeId = appAttributeDisplayName) {done : List UInt8}
    (read : d.parser.attributeRead.toNat = done.length)
    (short : done.length < d.parser.attributeLength.toNat)
    (filled : done.take limits.appNameMax <+: d.notification.appName.toList) (rest : List UInt8) :
    let left := d.parser.attributeLength.toNat - done.length
    rest.length < left ∧ (d.feedBytes rest).2 = .more ∨ left ≤ rest.length ∧ ∃ finished,
      d.feedBytes rest = goOn (finished, .complete) (rest.drop left) ∧
        finished.notification.Named (done ++ rest.take left) := by
  induction rest generalizing d done with
  | nil =>
    refine .inl ⟨?_, ?_⟩
    · rw [List.length_nil]
      omega
    · rw [feedBytes_nil (by rw [state]; decide)]
  | cons byte rest ih =>
    have filled' := fills_next filled byte read
    have small := d.parser.attributeLength.toNat_lt
    have next : (d.parser.attributeRead + 1).toNat = (done ++ [byte]).length := by
      rw [UInt16.toNat_add, read, List.length_append, List.length_singleton]
      simp only [UInt16.reduceToNat]
      omega
    rw [feedBytes_cons, feedByte_attributeValue state]
    unfold attributeValue
    dsimp only
    split
    · next last =>
      have length : d.parser.attributeLength.toNat = (done ++ [byte]).length := by
        rw [← last, next]
      have left : d.parser.attributeLength.toNat - done.length = 1 := by
        rw [length, List.length_append, List.length_singleton]
        omega
      obtain ⟨finished, finishes, named⟩ := finish_name (d := {
        parser := { d.parser with attributeRead := d.parser.attributeRead + 1 }
        notification := { d.notification with appName := _ } }) id length filled'
      rw [left]
      exact .inr ⟨by simp, finished, congrArg (goOn · rest) finishes, by simpa using named⟩
    · next more =>
      have short' : (done ++ [byte]).length < d.parser.attributeLength.toNat := by
        rw [← UInt16.toNat_inj, next] at more
        rw [List.length_append, List.length_singleton] at more ⊢
        omega
      have left : d.parser.attributeLength.toNat - done.length =
          d.parser.attributeLength.toNat - (done ++ [byte]).length + 1 := by
        rw [List.length_append, List.length_singleton] at short' ⊢
        omega
      rw [left, List.take_succ_cons, List.drop_succ_cons, List.length_cons, Nat.add_le_add_iff_right,
        Nat.add_lt_add_iff_right, List.append_cons done byte (rest.take _)]
      exact ih (d := {
        parser := { d.parser with attributeRead := d.parser.attributeRead + 1 }
        notification := { d.notification with appName := _ } }) state id next short' filled'

/-- What the parser takes for a name: its length in two bytes and then its bytes. -/
def Encodes (name bytes_ : List UInt8) : Prop :=
  name.length < 256 ^ 2 ∧ bytes_ = bytes 2 name.length ++ name

theorem goOn_complete {finished : AppDataParsing limits} (rest : List UInt8) :
    goOn (finished, .complete) rest =
      if rest = [] then (finished, .complete) else finished.fail errSequence := rfl

theorem feed_length {d : AppDataParsing limits} (state : d.parser.state = .attributeLength)
    (id : d.parser.attributeId = appAttributeDisplayName) (length : d.parser.attributeLength = 0)
    (lengthRead : d.parser.lengthBytesRead = 0) (read : d.parser.attributeRead = 0)
    (low high : UInt8) (tail : List UInt8) :
    (d.feedBytes (low :: high :: tail)).2 = .more ∧ tail.length < value [low, high] ∨
      value [low, high] ≤ tail.length ∧ ∃ finished,
        d.feedBytes (low :: high :: tail) = goOn (finished, .complete) (tail.drop (value [low, high])) ∧
        finished.notification.Named (tail.take (value [low, high])) := by
  have first : ((0 : UInt16) ||| low.toUInt16 <<< (8 * (0 : UInt8).toUInt16)).toNat = value [low] :=
    gather16 (show (0 : UInt16).toNat = value [] from rfl) rfl (by decide) low
  have both := gather16 first (show (8 * (1 : UInt8).toUInt16).toNat = 8 * [low].length from rfl)
    (by simp) high
  rw [List.singleton_append] at both
  generalize gathered_low :
    (0 : UInt16) ||| low.toUInt16 <<< (8 * (0 : UInt8).toUInt16) = some_ at both
  generalize gathered : some_ ||| high.toUInt16 <<< (8 * (1 : UInt8).toUInt16) = all at both
  have step₁ : d.feedByte low = ({ d with parser := { d.parser with
      attributeLength := some_, lengthBytesRead := 1 } }, .more) := by
    rw [feedByte_attributeLength state]
    unfold attributeLength
    simp only [length, lengthRead, gathered_low]
    rfl
  have step₂ : ({ d with parser := { d.parser with
      attributeLength := some_, lengthBytesRead := 1 } } : AppDataParsing limits).feedByte high =
      if all = 0 then finishAppAttribute { d with parser := { d.parser with
        attributeLength := all, lengthBytesRead := 2 } }
      else ({ d with parser := { d.parser with
        attributeLength := all, lengthBytesRead := 2, state := .attributeValue } }, .more) := by
    refine (feedByte_attributeLength (by exact state) high).trans ?_
    unfold attributeLength
    simp only [gathered]
    rfl
  rw [feedBytes_cons, step₁, goOn, feedBytes_cons, step₂]
  split
  · next none_ =>
    have zero : value [low, high] = 0 := by
      rw [← both, none_]
      rfl
    obtain ⟨finished, finishes, named⟩ := finish_name (d := { d with parser := { d.parser with
      attributeLength := all, lengthBytesRead := 2 } }) id
      (show all.toNat = ([] : List UInt8).length by rw [both, zero]; rfl) (by simp)
    rw [zero, finishes]
    exact .inr ⟨Nat.zero_le _, finished, rfl, named⟩
  · next some_value =>
    have positive : 0 < value [low, high] := by
      rw [← both]
      refine Nat.pos_of_ne_zero fun zero => some_value ?_
      rwa [← UInt16.toNat_inj]
    have values := feed_value (d := { d with parser := { d.parser with
      attributeLength := all, lengthBytesRead := 2, state := .attributeValue } }) rfl id
      (show _ = ([] : List UInt8).length by simp [read]) (by simpa [both] using positive)
      (by simp) tail
    simp only [both, List.length_nil, Nat.sub_zero, List.nil_append] at values
    rcases values with ⟨few, more⟩ | enough
    · exact .inl ⟨more, few⟩
    · exact .inr enough

def begun (d : AppDataParsing limits) : AppDataParsing limits :=
  { d with parser := { d.parser with
    attributeId := appAttributeDisplayName
    attributeLength := 0
    attributeRead := 0
    lengthBytesRead := 0
    state := .attributeLength } }

theorem encodes_iff {name tail : List UInt8} {low high : UInt8} :
    Encodes name (low :: high :: tail) ↔ name = tail ∧ value [low, high] = tail.length := by
  have small : value [low, high] < 256 ^ 2 := value_lt [low, high]
  constructor
  · rintro ⟨short, same⟩
    obtain ⟨length, rfl⟩ := List.append_inj (show [low, high] ++ tail = _ from same) (by simp)
    exact ⟨rfl, by rw [length, value_bytes short]⟩
  · rintro ⟨rfl, length⟩
    refine ⟨length ▸ small, ?_⟩
    rw [← length]
    exact congrArg (· ++ name) (bytes_value [low, high]).symm

theorem feed_name (d : AppDataParsing limits) (rest : List UInt8) :
    ((d.begun.feedBytes rest).2 = .complete ↔ ∃ name, Encodes name rest) ∧
      ∀ name, Encodes name rest → (d.begun.feedBytes rest).1.notification.Named name := by
  rcases rest with _ | ⟨low, _ | ⟨high, tail⟩⟩
  · have short (name : List UInt8) : ¬Encodes name [] := fun encodes => by
      simpa [bytes] using encodes.2
    refine ⟨iff_of_false (by simp [feedBytes, begun]) ?_,
      fun name encodes => absurd encodes (short name)⟩
    rintro ⟨name, encodes⟩
    exact short name encodes
  · have short (name : List UInt8) : ¬Encodes name [low] := fun encodes => by
      simpa [bytes] using encodes.2
    refine ⟨iff_of_false (by rintro ⟨⟩) ?_, fun name encodes => absurd encodes (short name)⟩
    rintro ⟨name, encodes⟩
    exact short name encodes
  · simp only [encodes_iff]
    rcases feed_length (d := d.begun) rfl rfl rfl rfl rfl low high tail with
      ⟨more, few⟩ | ⟨enough, finished, goes, named⟩
    · rw [more]
      refine ⟨iff_of_false (by simp) ?_, ?_⟩
      · rintro ⟨name, -, length⟩
        omega
      · rintro name ⟨-, length⟩
        omega
    · rw [goes, goOn_complete]
      split
      · next nothing =>
        have all : value [low, high] = tail.length := by
          have left := congrArg List.length nothing
          rw [List.length_drop, List.length_nil] at left
          omega
        rw [all, List.take_length] at named
        refine ⟨iff_of_true rfl ⟨tail, rfl, all⟩, ?_⟩
        rintro name ⟨rfl, -⟩
        exact named
      · next something =>
        have more_than : value [low, high] ≠ tail.length := by
          intro all
          rw [all, List.drop_length] at something
          exact something rfl
        refine ⟨iff_of_false (by simp [fail]) ?_, ?_⟩
        · rintro ⟨name, -, all⟩
          exact more_than all
        · rintro name ⟨-, all⟩
          exact absurd all more_than

theorem feed_appId {d : AppDataParsing limits} (state : d.parser.state = .appId) {done : List UInt8}
    (read : d.parser.responseAppId = done)
    (bounded : (text d.notification.appId).length ≤ limits.appIdMax) (rest : List UInt8) :
    (d.feedBytes rest).2 ≠ .complete ∧
        (∀ missing tail, done ++ missing = text d.notification.appId → rest ≠ missing ++ 0 :: tail) ∨
      ∃ missing tail, done ++ missing = text d.notification.appId ∧ rest = missing ++ 0 :: tail ∧
        ∃ d' : AppDataParsing limits, d.feedBytes rest = d'.feedBytes tail ∧
          d'.parser.state = .attributeId ∧ d'.notification = d.notification := by
  induction rest generalizing d done with
  | nil =>
    refine .inl ⟨?_, by simp⟩
    rw [feedBytes_nil (by rw [state]; decide)]
    simp
  | cons byte rest ih =>
    rw [feedBytes_cons, feedByte_appId state]
    unfold appId
    split
    · next ends =>
      subst ends
      split
      · next differs =>
        refine .inl ⟨by simp [goOn, fail], fun missing tail same begins => ?_⟩
        cases missing with
        | nil => exact differs (by rw [read, ← same, List.append_nil])
        | cons first missing =>
          obtain ⟨rfl, -⟩ := List.cons.inj begins
          exact text_nonzero d.notification.appId (same ▸ by simp)
      · next same =>
        rw [not_not, read] at same
        exact .inr ⟨[], rest, by simpa using same, rfl, _, rfl, rfl, rfl⟩
    · next inside =>
      have continues {missing tail : List UInt8} (begins : byte :: rest = missing ++ 0 :: tail) :
          ∃ later, missing = byte :: later ∧ rest = later ++ 0 :: tail := by
        cases missing with
        | nil => exact absurd (List.cons.inj begins).1 inside
        | cons first missing =>
          obtain ⟨rfl, rest_⟩ := List.cons.inj begins
          exact ⟨missing, rfl, rest_⟩
      split
      · next full =>
        refine .inl ⟨by simp [goOn, fail], fun missing tail same begins => ?_⟩
        obtain ⟨later, rfl, -⟩ := continues begins
        rw [← same, List.length_append, List.length_cons] at bounded
        rw [read] at full
        omega
      · next room =>
        rcases ih (d := { d with parser := { d.parser with
          responseAppId := d.parser.responseAppId ++ [byte] } }) state (congrArg (· ++ [byte]) read) bounded with
          ⟨fails, differs⟩ | ⟨missing, tail, same, rest_, next⟩
        · refine .inl ⟨fails, fun missing tail same begins => ?_⟩
          obtain ⟨later, rfl, rest_⟩ := continues begins
          exact differs later tail (by simpa using same) rest_
        · exact .inr ⟨byte :: missing, tail, by simpa using same, congrArg (byte :: ·) rest_, next⟩

/-- A response to the request for the name of an app: the command, the app's id with its
    terminator, and the name. -/
def Response (appId name response : List UInt8) : Prop :=
  ∃ tail, Encodes name tail ∧
    response = commandGetAppAttributes :: appId ++ 0 :: appAttributeDisplayName :: tail

theorem state_init {n : AncsNotification limits} (some_ : text n.appId ≠ []) :
    init n = { parser := appDataParserZero, notification := clearName n } := by
  unfold init
  exact if_neg fun blank => some_ ((isBlank_iff _).mp blank)

theorem feed_attributeId {d : AppDataParsing limits} (state : d.parser.state = .attributeId)
    (rest : List UInt8) :
    (d.feedBytes rest).2 ≠ .complete ∧ (∀ tail, rest ≠ appAttributeDisplayName :: tail) ∨
      ∃ tail, rest = appAttributeDisplayName :: tail ∧ d.feedBytes rest = d.begun.feedBytes tail := by
  cases rest with
  | nil =>
    refine .inl ⟨?_, by simp⟩
    rw [feedBytes_nil (by rw [state]; decide)]
    simp
  | cons id tail =>
    rw [feedBytes_cons, feedByte_attributeId state]
    unfold attributeId
    split
    · next other => exact .inl ⟨by simp [goOn, fail], fun tail same => other (List.cons.inj same).1⟩
    · next same =>
      obtain rfl := not_not.mp same
      exact .inr ⟨tail, rfl, rfl⟩

theorem feed_header {n : AncsNotification limits} (some_ : text n.appId ≠ [])
    (bounded : (text n.appId).length ≤ limits.appIdMax) (response : List UInt8) :
    let fed := (init n).feed response
    fed.2 ≠ .complete ∧ (∀ name, ¬Response (text n.appId) name response) ∨
      ∃ tail, ∃ d : AppDataParsing limits,
        response = commandGetAppAttributes :: text n.appId ++ 0 :: appAttributeDisplayName :: tail ∧
        fed = d.begun.feedBytes tail := by
  dsimp only
  rw [state_init some_, feed_open ⟨by simp [appDataParserZero], by simp [appDataParserZero]⟩]
  cases response with
  | nil => exact .inl ⟨by simp [feedBytes, appDataParserZero], by simp [Response]⟩
  | cons first rest =>
    rw [feedBytes_cons, feedByte_command rfl]
    unfold command
    split
    · next other =>
      refine .inl ⟨by simp [goOn, fail], ?_⟩
      rintro name ⟨tail, -, same⟩
      exact other (List.cons.inj same).1
    · next same =>
      obtain rfl := not_not.mp same
      rw [goOn]
      rcases feed_appId (d := {
        parser := { appDataParserZero with state := .appId }, notification := clearName n }) rfl rfl bounded rest with ⟨fails, differs⟩ | ⟨missing, later, whole, rfl, d, goes, state, -⟩
      · refine .inl ⟨fails, ?_⟩
        rintro name ⟨tail, -, same⟩
        exact differs _ _ (by rfl) (List.cons.inj same).2
      · obtain rfl : missing = text n.appId := whole
        rw [goes]
        rcases feed_attributeId state later with ⟨fails, differs⟩ | ⟨tail, rfl, goes'⟩
        · refine .inl ⟨fails, ?_⟩
          rintro name ⟨tail, -, same⟩
          have later_ := List.append_cancel_left (List.cons.inj same).2
          exact differs tail (List.cons.inj later_).2
        · exact .inr ⟨tail, d, rfl, goes'⟩

theorem feed_init {n : AncsNotification limits} (some_ : text n.appId ≠ [])
    (bounded : (text n.appId).length ≤ limits.appIdMax) (response : List UInt8) :
    (((init n).feed response).2 = .complete ↔ ∃ name, Response (text n.appId) name response) ∧
      ∀ name, Response (text n.appId) name response →
        ((init n).feed response).1.notification.Named name := by
  rcases feed_header some_ bounded response with ⟨fails, differs⟩ | ⟨tail, d, rfl, goes⟩
  · refine ⟨iff_of_false fails ?_, fun name answers => absurd answers (differs name)⟩
    exact fun ⟨name, answers⟩ => differs name answers
  · have answers_iff (name : List UInt8) : Response (text n.appId) name
        (commandGetAppAttributes :: text n.appId ++ 0 :: appAttributeDisplayName :: tail) ↔
          Encodes name tail := by
      constructor
      · rintro ⟨tail', encodes, same⟩
        have tail_ := List.append_cancel_left (List.cons.inj same).2
        rwa [(List.cons.inj (List.cons.inj tail_).2).2]
      · exact fun encodes => ⟨tail, encodes, rfl⟩
    simp only [answers_iff]
    rw [goes]
    exact feed_name d tail

def Cleared (d : AppDataParsing limits) : Prop := d.parser.state = .error → d.notification.Nameless

def Clears (answer : AppDataParsing limits × AncsParserResult) : Prop :=
  answer.2 = .error → answer.1.notification.Nameless

theorem clears_fail (d : AppDataParsing limits) (errorCode : Int) : Clears (d.fail errorCode) :=
  fun _ => nameless_clearName _

theorem clears_finishAppAttribute (d : AppDataParsing limits) : Clears d.finishAppAttribute := by
  unfold finishAppAttribute
  split
  · exact clears_fail d _
  · exact fun error => by cases error

theorem clears_feedByte (d : AppDataParsing limits) (byte : UInt8) : Clears (d.feedByte byte) := by
  have goes_on (next : AppDataParsing limits) : Clears (next, .more) := fun error => by cases error
  unfold feedByte
  split
  · unfold command
    split
    · exact clears_fail d _
    · exact goes_on _
  · unfold appId
    split
    · split
      · exact clears_fail d _
      · exact goes_on _
    · split
      · exact clears_fail d _
      · exact goes_on _
  · unfold attributeId
    split
    · exact clears_fail d _
    · exact goes_on _
  · unfold attributeLength
    dsimp only
    split
    · exact goes_on _
    · split
      · exact clears_finishAppAttribute _
      · exact goes_on _
  · unfold attributeValue
    dsimp only
    split
    · exact clears_finishAppAttribute _
    · exact goes_on _
  · exact clears_fail d _
  · exact clears_fail d _

theorem cleared_feed_one {d : AppDataParsing limits} (cleared : d.Cleared) (byte : UInt8) :
    (d.feed [byte]).1.Cleared := by
  by_cases error : d.parser.state = .error
  · rw [feed_failed error]
    exact cleared
  · by_cases complete : d.parser.state = .complete
    · rw [feed_completed complete, if_neg (List.cons_ne_nil _ _)]
      exact fun _ => nameless_clearName _
    · have told := tells_feedByte d byte ⟨complete, error⟩
      have clears := clears_feedByte d byte
      rw [feed_open ⟨complete, error⟩, feedBytes_cons]
      rcases found : d.feedByte byte with ⟨next, result⟩
      rw [found] at told clears
      cases result with
      | more => exact fun failed => absurd failed told.2
      | complete => exact fun failed => absurd (told.symm.trans failed) (by decide)
      | error => exact fun _ => clears rfl

theorem cleared_feed {d : AppDataParsing limits} (cleared : d.Cleared) (bytes : List UInt8) :
    (d.feed bytes).1.Cleared := by
  induction bytes generalizing d with
  | nil =>
    rw [element_wise.nil]
    exact cleared
  | cons byte rest ih =>
    rw [feed_cons]
    exact ih (cleared_feed_one cleared byte)

theorem cleared_init (n : AncsNotification limits) : (init n).Cleared := by
  unfold init
  dsimp only
  split
  · exact fun _ => nameless_clearName _
  · exact fun _ => nameless_clearName _

theorem tells_feedBytes {d : AppDataParsing limits}
    (open_ : d.parser.state ≠ .complete ∧ d.parser.state ≠ .error) (bytes : List UInt8) :
    Tells (d.feedBytes bytes) := by
  induction bytes generalizing d with
  | nil =>
    rw [feedBytes_nil open_.1]
    exact open_
  | cons byte rest ih =>
    have one := tells_feedByte d byte open_
    rw [feedBytes_cons]
    rcases found : d.feedByte byte with ⟨next, result⟩
    rw [found] at one
    cases result with
    | more => exact ih one
    | complete =>
      rw [goOn_complete]
      split
      · exact one
      · exact tells_fail _ _
    | error => exact one

theorem failed_of_feed {d : AppDataParsing limits} {bytes : List UInt8}
    (error : (d.feed bytes).2 = .error) : (d.feed bytes).1.parser.state = .error := by
  have tells : Tells (d.feed bytes) := by
    unfold feed
    split
    · next state => exact state
    · next state =>
      split
      · exact state
      · exact tells_fail _ _
    · next failed complete => exact tells_feedBytes ⟨complete, failed⟩ bytes
  unfold Tells at tells
  rwa [error] at tells

/-- The request for the name of an app fits its buffer, and the parser takes the responses to it
    and nothing else. Whatever is fed in whatever pieces, only the name changes, and an error
    leaves none. -/
theorem answers_request (n : AncsNotification limits) :
    (1 ≤ (text n.appId).length ∧ (text n.appId).length ≤ limits.appIdMax →
      (∃ request, buildGetAppAttributes n.appId (controlRequestMax limits) = .ok request ∧
        request = 1 :: text n.appId ++ [0, 0] ∧ request.length ≤ controlRequestMax limits) ∧
      ∀ response,
        (((init n).feed response).2 = .complete ↔ ∃ name, Response (text n.appId) name response) ∧
        ∀ name, Response (text n.appId) name response →
          ((init n).feed response).1.notification.Named name) ∧
    ∀ first rest,
      let answer := feedAll feed (init n) first rest
      n.SameButName answer.1.notification ∧
        (answer.2 = .error → answer.1.notification.Nameless) := by
  constructor
  · rintro ⟨some_, bounded⟩
    have blank : text n.appId ≠ [] := List.ne_nil_of_length_pos some_
    refine ⟨⟨_, ?_, rfl, ?_⟩, feed_init blank bounded⟩
    · have fits : ¬controlRequestMax limits < (text n.appId).length + 3 := by
        unfold controlRequestMax
        omega
      unfold buildGetAppAttributes
      dsimp only
      rw [boundedStrlen, if_neg (Nat.ne_of_gt some_), if_neg (Nat.not_lt.mpr bounded), if_neg fits]
      rfl
    · unfold controlRequestMax
      simpa using bounded
  · intro first rest
    dsimp only
    rw [feed_all element_wise]
    refine ⟨same_but_name_trans (same_init n) (same_feed _ _), fun error => ?_⟩
    exact cleared_feed (cleared_init n) _ (failed_of_feed error)

theorem answers_request_short :
    ∃ n : AncsNotification .default, text n.appId = [65] ∧
      buildGetAppAttributes n.appId (controlRequestMax .default) = .ok [1, 65, 0, 0] ∧
      ((init n).feed [1, 65, 0, 0, 2, 0, 66, 67]).2 = .complete := by
  let n : AncsNotification .default := { AncsNotification.zero with appId := ofText _ [65] }
  have appId : text n.appId = [65] := text_ofText (by decide) (by decide)
  obtain ⟨⟨request, built, same, -⟩, responses⟩ := (answers_request n).1 (by rw [appId]; decide)
  refine ⟨n, appId, ?_, (responses _).1.mpr ⟨[66, 67], ?_⟩⟩
  · rw [built, same, appId]
    rfl
  · exact ⟨[2, 0, 66, 67], ⟨by decide, by decide⟩, by rw [appId]; rfl⟩

end AppDataParsing
