import IosAncs.Foundation.BitMask
import IosAncs.Foundation.LittleEndian
import IosAncs.Protocol.AttributeFields

/-!
The responses that the parser of notification attributes accepts, and what it leaves of
them in the notification.
-/
open CString AncsProtocol LittleEndian BitMask Fragments

structure ResponseAttribute where
  id : UInt8
  value : List UInt8

namespace ResponseAttribute

def encode (a : ResponseAttribute) : List UInt8 := a.id :: bytes 2 a.value.length ++ a.value

end ResponseAttribute

namespace ResponseAttribute
open AncsNotification
variable {limits : AncsLimits}

/-- The attribute's field holds its value, cut to the room there is, and a terminator. -/
structure Decoded (a : ResponseAttribute) (n m : AncsNotification limits) : Prop where
  writes : WritesOnly (· = a.id) n m
  value : a.value.take (limits.capacity a.id) ++ [0] <+: m.field a.id
  flag : m.fieldTruncated a.id =
    (n.fieldTruncated a.id || decide (limits.capacity a.id < a.value.length))

structure DecodedAll (attributes : List ResponseAttribute) (n m : AncsNotification limits) : Prop where
  writes : WritesOnly (· ∈ attributes.map id) n m
  value : ∀ a ∈ attributes, a.value.take (limits.capacity a.id) ++ [0] <+: m.field a.id
  flag : ∀ a ∈ attributes, m.fieldTruncated a.id =
    (n.fieldTruncated a.id || decide (limits.capacity a.id < a.value.length))

theorem decodedAll_cons {a : ResponseAttribute} {rest : List ResponseAttribute}
    {n m k : AncsNotification limits} (first : a.Decoded n m) (later : DecodedAll rest m k)
    (new : a.id ∉ rest.map id) : DecodedAll (a :: rest) n k where
  writes := by
    refine writes_trans (writes_mono first.writes ?_) (writes_mono later.writes ?_)
    · rintro id rfl
      exact List.mem_cons_self
    · exact fun id member => List.mem_cons_of_mem _ member
  value b member := by
    rcases List.mem_cons.mp member with rfl | member
    · rw [later.writes.field _ new]
      exact first.value
    · exact later.value b member
  flag b member := by
    rcases List.mem_cons.mp member with rfl | member
    · rw [later.writes.flag _ new]
      exact first.flag
    · have other : b.id ≠ a.id := fun same => new (same ▸ List.mem_map_of_mem member)
      rw [later.flag b member, first.writes.flag _ other]

/-- The attributes of a response that the mask asks for, but for those seen before: each once, in
    any order, with lengths of two bytes and within the limits that have no flag. -/
structure Complete (limits : AncsLimits) (mask : UInt32) (seen : List UInt8)
    (attributes : List ResponseAttribute) : Prop where
  nodup : (attributes.map id).Nodup
  ids : ∀ i, i ∈ attributes.map id ↔ (i ≤ 5 ∧ Has mask i) ∧ i ∉ seen
  length : ∀ a ∈ attributes, a.value.length < 256 ^ 2
  bounded : ∀ a ∈ attributes, a.id = 4 ∨ a.id = 5 → a.value.length ≤ limits.capacity a.id

theorem complete_tail {mask : UInt32} {seen : List UInt8} {a : ResponseAttribute}
    {rest : List ResponseAttribute} (complete : Complete limits mask seen (a :: rest)) :
    Complete limits mask (a.id :: seen) rest := by
  obtain ⟨new, nodup⟩ := List.nodup_cons.mp complete.nodup
  refine ⟨nodup, fun i => ?_, fun b member => complete.length b (List.mem_cons_of_mem _ member),
    fun b member => complete.bounded b (List.mem_cons_of_mem _ member)⟩
  have ids := complete.ids i
  rw [List.map_cons, List.mem_cons] at ids
  rw [List.mem_cons, not_or]
  constructor
  · intro member
    obtain ⟨wanted, unseen⟩ := ids.mp (.inr member)
    exact ⟨wanted, fun same => new (same ▸ member), unseen⟩
  · rintro ⟨wanted, other, unseen⟩
    exact (ids.mpr ⟨wanted, unseen⟩).resolve_left other

theorem complete_cons {mask : UInt32} {seen : List UInt8} {a : ResponseAttribute}
    {rest : List ResponseAttribute} (wanted : (a.id ≤ 5 ∧ Has mask a.id) ∧ a.id ∉ seen)
    (length : a.value.length < 256 ^ 2)
    (bounded : a.id = 4 ∨ a.id = 5 → a.value.length ≤ limits.capacity a.id)
    (later : Complete limits mask (a.id :: seen) rest) : Complete limits mask seen (a :: rest) := by
  have new : a.id ∉ rest.map id := fun member => ((later.ids _).mp member).2 List.mem_cons_self
  refine ⟨List.nodup_cons.mpr ⟨new, later.nodup⟩, fun i => ?_, ?_, ?_⟩
  · rw [List.map_cons, List.mem_cons, later.ids, List.mem_cons, not_or]
    constructor
    · rintro (rfl | ⟨wanted, -, unseen⟩)
      · exact wanted
      · exact ⟨wanted, unseen⟩
    · rintro ⟨wanted, unseen⟩
      by_cases same : i = a.id
      · exact .inl same
      · exact .inr ⟨wanted, same, unseen⟩
  · exact List.forall_mem_cons.mpr ⟨length, later.length⟩
  · exact List.forall_mem_cons.mpr ⟨bounded, later.bounded⟩

end ResponseAttribute

namespace DataParsing
open AncsNotification AttributeTarget
variable {limits : AncsLimits}

def goOn (answer : DataParsing limits × AncsParserResult) (rest : List UInt8) :
    DataParsing limits × AncsParserResult :=
  match answer with
  | (next, .more) => next.feedBytes rest
  | (next, .complete) => if rest = [] then (next, .complete) else next.fail errSequence
  | (next, .error) => (next, .error)

theorem feedBytes_cons (d : DataParsing limits) (byte : UInt8) (rest : List UInt8) :
    d.feedBytes (byte :: rest) = goOn (d.feedByte byte) rest := rfl

theorem goOn_error {answer : DataParsing limits × AncsParserResult} (error : answer.2 = .error)
    (rest : List UInt8) : (goOn answer rest).2 = .error := by
  obtain ⟨next, result⟩ := answer
  subst error
  rfl

theorem feedBytes_nil {d : DataParsing limits} (open_ : d.parser.state ≠ .complete) :
    d.feedBytes [] = (d, .more) := by
  simp [feedBytes, open_]

theorem feedByte_command {d : DataParsing limits} (state : d.parser.state = .command)
    (byte : UInt8) : d.feedByte byte = d.command byte := by
  unfold feedByte
  rw [state]

theorem feedByte_uid {d : DataParsing limits} (state : d.parser.state = .uid) (byte : UInt8) :
    d.feedByte byte = d.uid byte := by
  unfold feedByte
  rw [state]

theorem feedByte_attributeId {d : DataParsing limits} (state : d.parser.state = .attributeId)
    (byte : UInt8) : d.feedByte byte = d.attributeId byte := by
  unfold feedByte
  rw [state]

theorem feedByte_attributeLength {d : DataParsing limits} (state : d.parser.state = .attributeLength)
    (byte : UInt8) : d.feedByte byte = d.attributeLength byte := by
  unfold feedByte
  rw [state]

theorem feedByte_attributeValue {d : DataParsing limits} (state : d.parser.state = .attributeValue)
    (byte : UInt8) : d.feedByte byte = d.attributeValue byte := by
  unfold feedByte
  rw [state]

theorem writes_next {target : AttributeTarget limits} {id : UInt8} (target_ : target.Writes id)
    {n : AncsNotification limits} {done : List UInt8}
    (filled : done.take target.capacity <+: n.field id) (byte : UInt8) {place : Nat} (place_ : place = done.length) :
    let written := if room : place < target.capacity then
        target.write n ⟨place, Nat.lt_succ_of_lt room⟩ byte else n
    WritesOnly (· = id) n written ∧ written.fieldTruncated id = n.fieldTruncated id ∧
      (done ++ [byte]).take target.capacity <+: written.field id := by
  subst place_
  dsimp only
  split
  · next room =>
    refine ⟨target_.writes .., target_.flag .., ?_⟩
    rw [target_.set, List.take_of_length_le (by simpa using Nat.succ_le_of_lt room)]
    rw [List.take_of_length_le (Nat.le_of_lt room)] at filled
    exact prefix_set filled (by rw [target_.length]; omega) byte
  · next full =>
    refine ⟨writes_refl n, rfl, ?_⟩
    rw [List.take_append_of_le_length (Nat.not_lt.mp full)]
    exact filled

theorem feed_value {d : DataParsing limits} {target : AttributeTarget limits}
    (state : d.parser.state = .attributeValue)
    (found : attributeTarget limits d.parser.attributeId = some target) {done : List UInt8}
    (read : d.parser.attributeRead.toNat = done.length)
    (short : done.length < d.parser.attributeLength.toNat)
    (filled : done.take target.capacity <+: d.notification.field d.parser.attributeId)
    (rest : List UInt8) :
    let left := d.parser.attributeLength.toNat - done.length
    rest.length < left ∧ (d.feedBytes rest).2 = .more ∨ left ≤ rest.length ∧ ∃ n,
      d.feedBytes rest = goOn (finishAttribute { parser := { d.parser with
        attributeRead := d.parser.attributeLength }, notification := n }) (rest.drop left) ∧
      WritesOnly (· = d.parser.attributeId) d.notification n ∧
      n.fieldTruncated d.parser.attributeId = d.notification.fieldTruncated d.parser.attributeId ∧
      (done ++ rest.take left).take target.capacity <+: n.field d.parser.attributeId := by
  induction rest generalizing d done with
  | nil =>
    refine .inl ⟨?_, ?_⟩
    · rw [List.length_nil]
      omega
    · rw [feedBytes_nil (by rw [state]; decide)]
  | cons byte rest ih =>
    obtain ⟨writes, flag, filled'⟩ := writes_next (writes_attributeTarget found) filled byte read
    have small := d.parser.attributeLength.toNat_lt
    have next : (d.parser.attributeRead + 1).toNat = done.length + 1 := by
      rw [UInt16.toNat_add, read]
      simp only [UInt16.reduceToNat]
      omega
    rw [feedBytes_cons, feedByte_attributeValue state]
    unfold attributeValue
    simp only [found]
    split
    · next last =>
      have left : d.parser.attributeLength.toNat - done.length = 1 := by
        rw [← last, next]
        omega
      refine .inr ⟨by rw [left]; simp, _, ?_, writes, flag, ?_⟩
      · rw [left, ← last]
        rfl
      · rw [left]
        simpa using filled'
    · next more =>
      have short' : (done ++ [byte]).length < d.parser.attributeLength.toNat := by
        rw [← UInt16.toNat_inj, next] at more
        rw [List.length_append, List.length_singleton]
        omega
      have next' : (d.parser.attributeRead + 1).toNat = (done ++ [byte]).length := by
        rw [next, List.length_append, List.length_singleton]
      obtain ⟨few, more_⟩ | ⟨enough, n, goes, writes', flag', filled''⟩ :=
        ih (d := {
          parser := { d.parser with attributeRead := d.parser.attributeRead + 1 }, notification := _ })
          state found next' short' filled'
      · refine .inl ⟨?_, more_⟩
        simp only [List.length_append, List.length_cons] at few ⊢
        omega
      · have left : d.parser.attributeLength.toNat - done.length =
            d.parser.attributeLength.toNat - (done ++ [byte]).length + 1 := by
          simp only [List.length_append, List.length_singleton] at short' ⊢
          omega
        rw [left]
        refine .inr ⟨by simpa using enough, n, goes, writes_trans writes writes',
          flag'.trans flag, ?_⟩
        simpa [List.append_assoc] using filled''

theorem finish_value {d : DataParsing limits} {target : AttributeTarget limits}
    {a : ResponseAttribute} (found : attributeTarget limits a.id = some target) (id : d.parser.attributeId = a.id)
    (length : d.parser.attributeLength.toNat = a.value.length)
    (filled : a.value.take target.capacity <+: d.notification.field a.id) :
    (a.id = 4 ∨ a.id = 5) ∧ limits.capacity a.id < a.value.length ∧ (d.finishAttribute).2 = .error ∨
      (a.id = 4 ∨ a.id = 5 → a.value.length ≤ limits.capacity a.id) ∧ ∃ n,
        d.finishAttribute = received { d with notification := n } ∧ a.Decoded d.notification n := by
  have target_ := writes_attributeTarget found
  have capacity := target_.capacity
  have starts : a.value.take target.capacity ++ [0] <+:
      (target.write d.notification (terminatorIndex a.value.length target.capacity) 0).field a.id := by
    have place : (terminatorIndex a.value.length target.capacity).val =
        (a.value.take target.capacity).length := by
      rw [terminator_eq, List.length_take, Nat.min_comm]
    rw [target_.set, place]
    refine prefix_set filled ?_ 0
    rw [target_.length, List.length_take]
    omega
  have writes := target_.writes d.notification (terminatorIndex a.value.length target.capacity) 0
  have flag := target_.flag d.notification (terminatorIndex a.value.length target.capacity) 0
  unfold finishAttribute
  simp only [id, found, length]
  split
  · next long =>
    split
    · next mark marks =>
      obtain ⟨marked, field_, flag_⟩ := target_.marks mark marks
        (target.write d.notification (terminatorIndex a.value.length target.capacity) 0)
      have lenient : ¬(a.id = 4 ∨ a.id = 5) := by
        rw [← target_.strict, marks]
        simp
      refine .inr ⟨fun strict => absurd strict lenient, _, rfl, writes_trans writes marked, ?_, ?_⟩
      · rw [field_, ← capacity]
        exact starts
      · rw [flag_, ← capacity]
        simp [long]
    · next strict =>
      exact .inl ⟨target_.strict.mp strict, capacity ▸ long, rfl⟩
  · next short =>
    refine .inr ⟨fun _ => by omega, _, rfl, writes, capacity ▸ starts, ?_⟩
    rw [flag, ← capacity]
    simp [short]

/-- The attribute may come next: it is wanted, it was not received, and its length can be told. -/
structure Next (d : DataParsing limits) (a : ResponseAttribute) : Prop where
  known : a.id ≤ 5
  wanted : Has d.parser.expectedMask a.id
  new : ¬Has d.parser.receivedMask a.id
  length : a.value.length < 256 ^ 2
  bounded : a.id = 4 ∨ a.id = 5 → a.value.length ≤ limits.capacity a.id

theorem target_found (limits : AncsLimits) {id : UInt8} (known : id ≤ 5) :
    ∃ target, attributeTarget limits id = some target := by
  have small : id.toNat ≤ 5 := UInt8.le_iff_toNat_le.mp known
  have cases_ : id = 0 ∨ id = 1 ∨ id = 2 ∨ id = 3 ∨ id = 4 ∨ id = 5 := by
    simp only [← UInt8.toNat_inj, UInt8.reduceToNat]
    omega
  rcases cases_ with rfl | rfl | rfl | rfl | rfl | rfl <;> exact ⟨_, rfl⟩

/-- The parser as it ends the value of an attribute, with what the attribute left in its field. -/
structure Ends (d d' : DataParsing limits) (a : ResponseAttribute) : Prop where
  id : d'.parser.attributeId = a.id
  expected : d'.parser.expectedMask = d.parser.expectedMask
  received : d'.parser.receivedMask = d.parser.receivedMask
  length : d'.parser.attributeLength.toNat = a.value.length
  writes : WritesOnly (· = a.id) d.notification d'.notification
  flag : d'.notification.fieldTruncated a.id = d.notification.fieldTruncated a.id
  filled : a.value.take (limits.capacity a.id) <+: d'.notification.field a.id

theorem feed_length {d : DataParsing limits} (state : d.parser.state = .attributeLength)
    (known : d.parser.attributeId ≤ 5) (length : d.parser.attributeLength = 0)
    (lengthRead : d.parser.lengthBytesRead = 0) (read : d.parser.attributeRead = 0)
    (low high : UInt8) (tail : List UInt8) :
    (d.feedBytes (low :: high :: tail)).2 = .more ∧ tail.length < value [low, high] ∨
      value [low, high] ≤ tail.length ∧ ∃ d', d.feedBytes (low :: high :: tail) =
          goOn d'.finishAttribute (tail.drop (value [low, high])) ∧
        Ends d d' { id := d.parser.attributeId, value := tail.take (value [low, high]) } := by
  obtain ⟨target, found⟩ := target_found limits known
  have target_ := writes_attributeTarget found
  have first : ((0 : UInt16) ||| low.toUInt16 <<< (8 * (0 : UInt8).toUInt16)).toNat = value [low] :=
    gather16 (show (0 : UInt16).toNat = value [] from rfl) rfl (by decide) low
  have both := gather16 first (show (8 * (1 : UInt8).toUInt16).toNat = 8 * [low].length from rfl)
    (by simp) high
  rw [List.singleton_append] at both
  generalize gathered_low :
    (0 : UInt16) ||| low.toUInt16 <<< (8 * (0 : UInt8).toUInt16) = some_ at both
  generalize gathered : some_ ||| high.toUInt16 <<< (8 * (1 : UInt8).toUInt16) = all at both
  have step₁ : d.feedByte low = ({ d with parser := { d.parser with
      attributeLength := some_, lengthBytesRead := 1 } }, .more) := by
    rw [feedByte_attributeLength state]
    unfold attributeLength
    simp only [length, lengthRead, gathered_low]
    rfl
  have step₂ : ({ d with parser := { d.parser with
      attributeLength := some_, lengthBytesRead := 1 } } : DataParsing limits).feedByte high =
      if all = 0 then finishAttribute { d with parser := { d.parser with
        attributeLength := all, lengthBytesRead := 2 } }
      else ({ d with parser := { d.parser with
        attributeLength := all, lengthBytesRead := 2, state := .attributeValue } }, .more) := by
    refine (feedByte_attributeLength (by exact state) high).trans ?_
    unfold attributeLength
    simp only [gathered]
    rfl
  rw [feedBytes_cons, step₁, goOn, feedBytes_cons, step₂]
  split
  · next none_ =>
    have zero : value [low, high] = 0 := by
      rw [← both, none_]
      rfl
    refine .inr ⟨by omega, { d with parser := { d.parser with
      attributeLength := all, lengthBytesRead := 2 } }, ?_, ?_⟩
    · rw [zero]
      rfl
    · refine { id := rfl, expected := rfl, received := rfl, length := ?_,
               writes := writes_refl _, flag := rfl, filled := ?_ }
      · simp [both, zero]
      · simp [zero]
  · next some_value =>
    have positive : 0 < value [low, high] := by
      rw [← both]
      refine Nat.pos_of_ne_zero fun zero => some_value ?_
      rwa [← UInt16.toNat_inj]
    have capacity := target_.capacity
    rcases feed_value (d := { d with parser := { d.parser with
      attributeLength := all, lengthBytesRead := 2, state := .attributeValue } }) rfl found
      (show _ = ([] : List UInt8).length by simp [read]) (by simpa [both] using positive)
      (by simp) tail with
      ⟨few, more⟩ | ⟨enough, n, goes, writes, flag, filled⟩
    · refine .inl ⟨more, ?_⟩
      simpa [both] using few
    · simp only [both, List.length_nil, Nat.sub_zero] at enough goes filled
      refine .inr ⟨enough, _, goes, { id := rfl, expected := rfl, received := rfl,
                                      length := ?_, writes, flag, filled := ?_ }⟩
      · rw [List.length_take]
        dsimp only
        omega
      · rw [← capacity]
        exact filled

def begun (d : DataParsing limits) (id : UInt8) : DataParsing limits :=
  { d with parser := { d.parser with
    attributeId := id
    attributeLength := 0
    attributeRead := 0
    lengthBytesRead := 0
    state := .attributeLength } }

theorem feed_id {d : DataParsing limits} (state : d.parser.state = .attributeId) (id : UInt8)
    (tail : List UInt8) :
    if id ≤ 5 ∧ Has d.parser.expectedMask id ∧ ¬Has d.parser.receivedMask id then
      d.feedBytes (id :: tail) = (d.begun id).feedBytes tail
    else (d.feedBytes (id :: tail)).2 = .error := by
  rw [feedBytes_cons, feedByte_attributeId state]
  unfold attributeId
  dsimp only
  split
  · next next_ =>
    obtain ⟨known, wanted, new⟩ := next_
    have allowed : ¬(d.parser.expectedMask &&& 1 <<< id.toUInt32 = 0 ∨
        d.parser.receivedMask &&& 1 <<< id.toUInt32 ≠ 0) := not_or.mpr ⟨wanted, new⟩
    rw [if_neg (UInt8.not_lt.mpr known), if_neg allowed]
    rfl
  · next refused =>
    split
    · rfl
    · next known =>
      rw [if_pos]
      · rfl
      · by_contra next_
        rw [not_or] at next_
        exact refused ⟨UInt8.not_lt.mp known, next_⟩

structure Takes (d d' : DataParsing limits) (a : ResponseAttribute) : Prop where
  id : d'.parser.attributeId = a.id
  expected : d'.parser.expectedMask = d.parser.expectedMask
  received : d'.parser.receivedMask = d.parser.receivedMask
  decoded : a.Decoded d.notification d'.notification

theorem takes_ends {d d' : DataParsing limits} {a : ResponseAttribute} (known : a.id ≤ 5)
    (ends : Ends d d' a) : (d'.finishAttribute).2 = .error ∧ (a.id = 4 ∨ a.id = 5) ∧
        limits.capacity a.id < a.value.length ∨
      (a.id = 4 ∨ a.id = 5 → a.value.length ≤ limits.capacity a.id) ∧
        ∃ taken, d'.finishAttribute = taken.received ∧ Takes d taken a := by
  obtain ⟨target, found⟩ := target_found limits known
  have capacity := (writes_attributeTarget found).capacity
  rcases finish_value found ends.id ends.length (capacity ▸ ends.filled) with
    ⟨strict, long, refused⟩ | ⟨bounded, n, finished, decoded⟩
  · exact .inl ⟨refused, strict, long⟩
  · refine .inr ⟨bounded, _, finished, ends.id, ends.expected, ends.received, ?_⟩
    exact { writes := writes_trans ends.writes decoded.writes, value := decoded.value,
            flag := by rw [decoded.flag, ends.flag] }

theorem feed_next {d : DataParsing limits} (state : d.parser.state = .attributeId)
    {a : ResponseAttribute} (next : Next d a) (rest : List UInt8) :
    ∃ taken, d.feedBytes (a.encode ++ rest) = goOn taken.received rest ∧ Takes d taken a := by
  obtain ⟨low, high, length⟩ : ∃ low high, bytes 2 a.value.length = [low, high] := ⟨_, _, rfl⟩
  have value_ : value [low, high] = a.value.length := by
    rw [← length]
    exact value_bytes next.length
  have encoded : a.encode ++ rest = a.id :: low :: high :: (a.value ++ rest) := by
    simp [ResponseAttribute.encode, length]
  have begins := feed_id state a.id (low :: high :: (a.value ++ rest))
  rw [if_pos ⟨next.known, next.wanted, next.new⟩] at begins
  rw [encoded, begins]
  rcases feed_length (d := d.begun a.id) rfl next.known rfl rfl rfl low high (a.value ++ rest) with
    ⟨-, few⟩ | ⟨-, d', goes, ends⟩
  · rw [value_, List.length_append] at few
    omega
  · rw [value_, List.take_left] at ends
    rw [value_, List.drop_left] at goes
    rcases takes_ends next.known ends with ⟨-, strict, long⟩ | ⟨-, taken, finished, takes⟩
    · exact absurd (next.bounded strict) (Nat.not_le.mpr long)
    · exact ⟨taken, goes.trans (finished ▸ rfl), takes.id, takes.expected, takes.received,
        takes.decoded⟩

theorem next_of_complete {d : DataParsing limits} (state : d.parser.state = .attributeId)
    {bytes_ : List UInt8} (complete : (d.feedBytes bytes_).2 = .complete) :
    ∃ a rest, Next d a ∧ bytes_ = a.encode ++ rest := by
  cases bytes_ with
  | nil =>
    rw [feedBytes_nil (by rw [state]; decide)] at complete
    cases complete
  | cons id tail =>
    have begins := feed_id state id tail
    split at begins
    · next next_ =>
      obtain ⟨known, wanted, new⟩ := next_
      rw [begins] at complete
      match tail with
      | [] =>
        rw [feedBytes_nil (by simp [begun])] at complete
        cases complete
      | [low] => cases complete
      | low :: high :: tail =>
        rcases feed_length (d := d.begun id) rfl known rfl rfl rfl low high tail with
          ⟨more, -⟩ | ⟨enough, d', goes, ends⟩
        · rw [more] at complete
          cases complete
        · rcases takes_ends known ends with ⟨refused, -, -⟩ | ⟨bounded, -⟩
          · rw [goes, goOn_error refused] at complete
            cases complete
          · have length : (tail.take (value [low, high])).length = value [low, high] := by
              rw [List.length_take]
              omega
            have small : value [low, high] < 256 ^ 2 := value_lt [low, high]
            have same : bytes 2 (value [low, high]) = [low, high] := bytes_value [low, high]
            refine ⟨{ id, value := tail.take (value [low, high]) }, tail.drop (value [low, high]),
              { known, wanted, new, length := length.symm ▸ small, bounded }, ?_⟩
            simp [ResponseAttribute.encode, length, same]
    · rw [begins] at complete
      cases complete

structure Pending (d : DataParsing limits) (seen : List UInt8) : Prop where
  state : d.parser.state = .attributeId
  expected : ∀ id : UInt8, id.toNat < 32 → Has d.parser.expectedMask id → id ≤ 5
  received : ∀ id : UInt8, id ≤ 5 → (Has d.parser.receivedMask id ↔ id ∈ seen)
  missing : ∃ id : UInt8, (id ≤ 5 ∧ Has d.parser.expectedMask id) ∧ id ∉ seen

theorem small_of_known {id : UInt8} (known : id ≤ 5) : id.toNat < 32 := by
  have small : id.toNat ≤ 5 := UInt8.le_iff_toNat_le.mp known
  omega

theorem next_iff {d : DataParsing limits} {seen : List UInt8} (pending : Pending d seen)
    (a : ResponseAttribute) : Next d a ↔ ((a.id ≤ 5 ∧ Has d.parser.expectedMask a.id) ∧ a.id ∉ seen) ∧
      a.value.length < 256 ^ 2 ∧ (a.id = 4 ∨ a.id = 5 → a.value.length ≤ limits.capacity a.id) := by
  constructor
  · intro next
    refine ⟨⟨⟨next.known, next.wanted⟩, ?_⟩, next.length, next.bounded⟩
    exact (pending.received a.id next.known).not.mp next.new
  · rintro ⟨⟨⟨known, wanted⟩, unseen⟩, length, bounded⟩
    exact ⟨known, wanted, (pending.received a.id known).not.mpr unseen, length, bounded⟩

theorem received_next {d taken : DataParsing limits} {seen : List UInt8} {a : ResponseAttribute}
    (pending : Pending d seen) (next : Next d a) (takes : Takes d taken a) :
    (∀ id : UInt8, id ≤ 5 → Has d.parser.expectedMask id → id ∈ a.id :: seen) ∧
        (∃ d', taken.received = (d', .complete) ∧
          d'.notification = { taken.notification with complete := true, errorCode := ok }) ∨
      ∃ d', taken.received = (d', .more) ∧ d'.notification = taken.notification ∧
        d'.parser.expectedMask = d.parser.expectedMask ∧ Pending d' (a.id :: seen) := by
  have has_or_ (id : UInt8) (known : id ≤ 5) :
      Has (d.parser.receivedMask ||| 1 <<< a.id.toUInt32) id ↔ id ∈ a.id :: seen := by
    rw [has_or (small_of_known known) (small_of_known next.known), pending.received id known,
      List.mem_cons, or_comm]
  unfold received
  rw [takes.id, takes.expected, takes.received]
  dsimp only
  split
  · next covers =>
    refine .inl ⟨fun id known wanted => ?_, _, rfl, rfl⟩
    exact (has_or_ id known).mp (covers_iff.mp covers id (small_of_known known) wanted)
  · next some_missing =>
    have expected := takes.expected
    refine .inr ⟨_, rfl, rfl, expected,
      { state := rfl, expected := ?_, received := has_or_, missing := ?_ }⟩
    · rw [expected]
      exact pending.expected
    · rw [covers_iff] at some_missing
      push Not at some_missing
      obtain ⟨id, small, wanted, missing⟩ := some_missing
      have known := pending.expected id small wanted
      rw [expected]
      exact ⟨id, ⟨known, wanted⟩, fun seen_ => missing ((has_or_ id known).mpr seen_)⟩

theorem feed_complete {attributes : List ResponseAttribute} {d : DataParsing limits}
    {seen : List UInt8} (pending : Pending d seen)
    (complete : ResponseAttribute.Complete limits d.parser.expectedMask seen attributes) :
    (d.feedBytes (attributes.flatMap ResponseAttribute.encode)).2 = .complete ∧
      ResponseAttribute.DecodedAll attributes d.notification
        (d.feedBytes (attributes.flatMap ResponseAttribute.encode)).1.notification := by
  induction attributes generalizing d seen with
  | nil =>
    obtain ⟨id, wanted⟩ := pending.missing
    exact absurd ((complete.ids id).mpr wanted) (by simp)
  | cons a rest ih =>
    have first := (complete.ids a.id).mp List.mem_cons_self
    have next : Next d a := (next_iff pending a).mpr
      ⟨first, complete.length a List.mem_cons_self, complete.bounded a List.mem_cons_self⟩
    have later := ResponseAttribute.complete_tail complete
    have new := (List.nodup_cons.mp complete.nodup).1
    rw [List.flatMap_cons]
    obtain ⟨taken, goes, takes⟩ := feed_next pending.state next (rest.flatMap ResponseAttribute.encode)
    rw [goes]
    rcases received_next pending next takes with
      ⟨covered, d', received_, notification⟩ | ⟨d', received_, notification, expected, pending'⟩
    · have none_ : rest = [] := by
        rw [List.eq_nil_iff_forall_not_mem]
        intro b member
        obtain ⟨⟨known, wanted⟩, unseen⟩ := (later.ids b.id).mp (List.mem_map_of_mem member)
        exact unseen (covered b.id known wanted)
      subst none_
      rw [received_]
      refine ⟨rfl, ResponseAttribute.decodedAll_cons takes.decoded ?_ new⟩
      exact { writes := notification ▸ writes_completed _ true ok, value := by simp, flag := by simp }
    · rw [received_]
      obtain ⟨completes, decoded⟩ := ih pending' (expected ▸ later)
      refine ⟨completes, ResponseAttribute.decodedAll_cons takes.decoded ?_ new⟩
      rw [notification] at decoded
      exact decoded

theorem complete_of_feed {d : DataParsing limits} {seen : List UInt8} (pending : Pending d seen)
    {bytes_ : List UInt8} (complete : (d.feedBytes bytes_).2 = .complete) :
    ∃ attributes, ResponseAttribute.Complete limits d.parser.expectedMask seen attributes ∧
      bytes_ = attributes.flatMap ResponseAttribute.encode := by
  -- each attribute is at least its id and its length, so the rest is shorter
  induction length : bytes_.length using Nat.strong_induction_on generalizing d seen bytes_ with
  | h size ih =>
    obtain ⟨a, rest, next, rfl⟩ := next_of_complete pending.state complete
    obtain ⟨wanted, length_, bounded⟩ := (next_iff pending a).mp next
    obtain ⟨taken, goes, takes⟩ := feed_next pending.state next rest
    rw [goes] at complete
    rcases received_next pending next takes with
      ⟨covered, d', received_, -⟩ | ⟨d', received_, -, expected, pending'⟩
    · rw [received_] at complete
      have none_ : rest = [] := by
        by_contra some_
        simp only [goOn, some_, ↓reduceIte] at complete
        cases complete
      subst none_
      have last : ResponseAttribute.Complete limits d.parser.expectedMask (a.id :: seen) [] := by
        refine ⟨List.nodup_nil, fun i => ?_, by simp, by simp⟩
        refine iff_of_false (by simp) ?_
        rintro ⟨⟨known, wanted⟩, unseen⟩
        exact unseen (covered i known wanted)
      exact ⟨[a], ResponseAttribute.complete_cons wanted length_ bounded last, by simp⟩
    · rw [received_] at complete
      have shorter : rest.length < size := by
        rw [← length, List.length_append]
        simp [ResponseAttribute.encode]
      obtain ⟨attributes, later, rfl⟩ := ih rest.length shorter pending' complete rfl
      rw [expected] at later
      exact ⟨a :: attributes, ResponseAttribute.complete_cons wanted length_ bounded later, rfl⟩

theorem feed_uid {d : DataParsing limits} (state : d.parser.state = .uid) {done : List UInt8}
    (gathered : d.parser.responseUid.toNat = value done)
    (read : d.parser.uidBytesRead.toNat = done.length) (short : done.length < 4) (rest : List UInt8) :
    (d.feedBytes rest).2 ≠ .complete ∧ (rest.length < 4 - done.length ∨
        value (done ++ rest.take (4 - done.length)) ≠ d.parser.expectedUid.toNat) ∨
      4 - done.length ≤ rest.length ∧
        value (done ++ rest.take (4 - done.length)) = d.parser.expectedUid.toNat ∧
        ∃ d' : DataParsing limits, d.feedBytes rest = d'.feedBytes (rest.drop (4 - done.length)) ∧
          d'.notification = d.notification ∧ d'.parser.state = .attributeId ∧
          d'.parser.expectedMask = d.parser.expectedMask ∧
          d'.parser.receivedMask = d.parser.receivedMask := by
  induction rest generalizing d done with
  | nil =>
    refine .inl ⟨?_, .inl ?_⟩
    · rw [feedBytes_nil (by rw [state]; decide)]
      simp
    · rw [List.length_nil]
      omega
  | cons byte rest ih =>
    have place : (8 * d.parser.uidBytesRead.toUInt32).toNat = 8 * done.length := by
      rw [UInt32.toNat_mul, UInt8.toNat_toUInt32, read]
      simp only [UInt32.reduceToNat]
      omega
    have gathered' := gather32 gathered place short byte
    have next : (d.parser.uidBytesRead + 1).toNat = done.length + 1 := by
      rw [UInt8.toNat_add, read]
      simp only [UInt8.reduceToNat]
      omega
    rw [feedBytes_cons, feedByte_uid state]
    unfold uid
    dsimp only
    split
    · next more =>
      have short' : (done ++ [byte]).length < 4 := by
        rw [ne_eq, ← UInt8.toNat_inj, next] at more
        simp only [UInt8.reduceToNat] at more
        rw [List.length_append, List.length_singleton]
        omega
      have next' : (d.parser.uidBytesRead + 1).toNat = (done ++ [byte]).length := by
        rw [next, List.length_append, List.length_singleton]
      have left : 4 - done.length = 4 - (done ++ [byte]).length + 1 := by
        rw [List.length_append, List.length_singleton] at short' ⊢
        omega
      rw [left, List.take_succ_cons, List.drop_succ_cons, List.length_cons, Nat.add_le_add_iff_right,
        Nat.add_lt_add_iff_right, List.append_cons done byte (rest.take _)]
      exact ih (d := { d with parser := { d.parser with
        responseUid := d.parser.responseUid ||| byte.toUInt32 <<< (8 * d.parser.uidBytesRead.toUInt32)
        uidBytesRead := d.parser.uidBytesRead + 1 } }) state gathered' next' short'
    · next last =>
      have left : 4 - done.length = 1 := by
        rw [not_not, ← UInt8.toNat_inj, next] at last
        simp only [UInt8.reduceToNat] at last
        omega
      rw [left, List.take_succ_cons, List.take_zero, ← gathered', UInt32.toNat_inj.ne]
      split
      · next differs => exact .inl ⟨by simp [goOn, fail], .inr differs⟩
      · next same =>
        refine .inr ⟨by simp, ?_, _, rfl, rfl, rfl, rfl, rfl⟩
        rw [not_not] at same
        rw [same]

theorem low_mask : attrMaskRequired.toNat = 2 ^ 6 - 1 := rfl

theorem pending_init {d : DataParsing limits} {mask : UInt32}
    (state : d.parser.state = .attributeId)
    (expected : d.parser.expectedMask = mask &&& attrMaskRequired)
    (received : d.parser.receivedMask = 0) (some_ : mask &&& attrMaskRequired ≠ 0) : Pending d [] where
  state := state
  expected id small has := by
    rw [expected, has_and_low low_mask small] at has
    rw [UInt8.le_iff_toNat_le]
    exact Nat.le_of_lt_succ has.2
  received id _ := by
    rw [received]
    exact iff_of_false (not_has_zero id) (by simp)
  missing := by
    obtain ⟨id, small, has⟩ := exists_has some_
    have low := (has_and_low low_mask small).mp has
    refine ⟨id, ⟨?_, expected ▸ has⟩, by simp⟩
    rw [UInt8.le_iff_toNat_le]
    exact Nat.le_of_lt_succ low.2

end DataParsing

namespace ResponseAttribute

/-- A response to the request for a uid: the command, the uid and each attribute asked for. -/
def Response (limits : AncsLimits) (uid mask : UInt32) (attributes : List ResponseAttribute)
    (response : List UInt8) : Prop :=
  Complete limits mask [] attributes ∧
    response = commandGetNotificationAttributes :: bytes 4 uid.toNat ++ attributes.flatMap encode

variable {limits : AncsLimits}

theorem complete_mask {mask : UInt32} {seen : List UInt8} {attributes : List ResponseAttribute} :
    Complete limits (mask &&& attrMaskRequired) seen attributes ↔
      Complete limits mask seen attributes := by
  have same (i : UInt8) : i ≤ 5 ∧ Has (mask &&& attrMaskRequired) i ↔ i ≤ 5 ∧ Has mask i := by
    refine and_congr_right fun known => ?_
    rw [has_and_low DataParsing.low_mask (DataParsing.small_of_known known), and_iff_left]
    exact Nat.lt_succ_of_le (UInt8.le_iff_toNat_le.mp known)
  constructor
  · exact fun h => { h with ids := fun i => (h.ids i).trans (and_congr_left' (same i)) }
  · exact fun h => { h with ids := fun i => (h.ids i).trans (and_congr_left' (same i).symm) }

end ResponseAttribute

namespace DataParsing
open AncsNotification ResponseAttribute
variable {limits : AncsLimits}

theorem state_init {n : AncsNotification limits} {uid_ mask : UInt32}
    (some_ : mask &&& attrMaskRequired ≠ 0) : init n uid_ mask = { parser := { dataParserZero with
      expectedUid := uid_, expectedMask := mask &&& attrMaskRequired }, notification := n } := by
  unfold init
  exact if_neg some_

theorem feed_header {n : AncsNotification limits} {uid_ mask : UInt32}
    (some_ : mask &&& attrMaskRequired ≠ 0) (response : List UInt8) :
    let fed := (init n uid_ mask).feed response
    fed.2 ≠ .complete ∧
        (∀ tail, response ≠ commandGetNotificationAttributes :: bytes 4 uid_.toNat ++ tail) ∨
      ∃ tail d, response = commandGetNotificationAttributes :: bytes 4 uid_.toNat ++ tail ∧
        fed = d.feedBytes tail ∧ d.notification = n ∧
        d.parser.expectedMask = mask &&& attrMaskRequired ∧ Pending d [] := by
  dsimp only
  rw [state_init some_, feed_open ⟨by simp [dataParserZero], by simp [dataParserZero]⟩]
  cases response with
  | nil => exact .inl ⟨by simp [feedBytes, dataParserZero], by simp⟩
  | cons first rest =>
    rw [feedBytes_cons]
    by_cases command_ : first = commandGetNotificationAttributes
    · subst command_
      have begins := feed_uid (d := {
        parser := { dataParserZero with
          expectedUid := uid_, expectedMask := mask &&& attrMaskRequired, state := .uid }
        notification := n }) rfl (show (0 : UInt32).toNat = value [] from rfl) rfl (by decide) rest
      simp only [List.length_nil, Nat.sub_zero, List.nil_append] at begins
      obtain ⟨fails, differs⟩ | ⟨enough, same, d, goes, notification, state, expected, received⟩ :=
        begins
      · refine .inl ⟨fails, fun tail same => ?_⟩
        have rest_ : rest = bytes 4 uid_.toNat ++ tail := (List.cons.inj same).2
        subst rest_
        rcases differs with few | differs
        · rw [List.length_append, length_bytes] at few
          omega
        · rw [List.take_left' (length_bytes 4 _)] at differs
          exact differs (value_bytes uid_.toNat_lt)
      · refine .inr ⟨rest.drop 4, d, ?_, goes, notification, expected,
          pending_init state expected received some_⟩
        have four : (rest.take 4).length = 4 := by
          rw [List.length_take]
          omega
        have uid_bytes := bytes_value (rest.take 4)
        rw [four, same] at uid_bytes
        rw [uid_bytes, List.cons_append, List.take_append_drop]
    · have refused (d : DataParsing limits) : d.command first = d.fail errCommand := if_pos command_
      refine .inl ⟨?_, fun tail same => command_ (List.cons.inj same).1⟩
      rw [feedByte_command rfl, refused]
      simp [goOn, fail]

theorem feed_init (n : AncsNotification limits) (uid_ mask : UInt32)
    (some_ : mask &&& attrMaskRequired ≠ 0) (response : List UInt8) :
    (((init n uid_ mask).feed response).2 = .complete ↔
        ∃ attributes, Response limits uid_ mask attributes response) ∧
      ∀ attributes, Response limits uid_ mask attributes response →
        DecodedAll attributes n ((init n uid_ mask).feed response).1.notification := by
  obtain ⟨fails, differs⟩ | ⟨tail, d, response_, goes, notification, expected, pending⟩ :=
    feed_header (n := n) some_ response
  · refine ⟨iff_of_false fails ?_, ?_⟩
    · rintro ⟨attributes, -, same⟩
      exact differs _ same
    · rintro attributes ⟨-, same⟩
      exact absurd same (differs _)
  · have whole (attributes : List ResponseAttribute)
        (asked : Response limits uid_ mask attributes response) :
        (d.feedBytes tail).2 = .complete ∧
          DecodedAll attributes n (d.feedBytes tail).1.notification := by
      obtain ⟨complete, same⟩ := asked
      have tail_ : tail = attributes.flatMap encode :=
        List.append_cancel_left (response_.symm.trans same)
      have feeds := feed_complete pending (expected ▸ complete_mask.mpr complete)
      rwa [← tail_, notification] at feeds
    rw [goes]
    refine ⟨⟨fun complete => ?_, ?_⟩, fun attributes asked => (whole attributes asked).2⟩
    · obtain ⟨attributes, asked, tail_⟩ := complete_of_feed pending complete
      rw [expected, complete_mask] at asked
      exact ⟨attributes, asked, tail_ ▸ response_⟩
    · rintro ⟨attributes, asked⟩
      exact (whole attributes asked).1

/-- A parser that was initialised for a request takes the responses to it and nothing else. A
    response fills the fields of its attributes and sets the flags of those that were cut; a byte
    of any string writes the field of the attribute that is read, or none. -/
theorem accepts_responses (n : AncsNotification limits) (uid_ mask : UInt32)
    (asked : mask &&& attrMaskRequired ≠ 0) (response : List UInt8) :
    (((init n uid_ mask).feed response).2 = .complete ↔
        ∃ attributes, Response limits uid_ mask attributes response) ∧
      (∀ attributes, Response limits uid_ mask attributes response →
        let m := ((init n uid_ mask).feed response).1.notification
        DecodedAll attributes n m ∧ m.complete = true ∧ m.errorCode = ok) ∧
      ∀ before byte after, response = before ++ byte :: after →
        let d := ((init n uid_ mask).feed before).1
        WritesOnly (d.reading = some ·) d.notification
          ((init n uid_ mask).feed (before ++ [byte])).1.notification := by
  obtain ⟨complete, decoded⟩ := feed_init n uid_ mask asked response
  refine ⟨complete, fun attributes answers => ⟨decoded attributes answers, ?_⟩, ?_⟩
  · have sound := answers_feed (wellEnded_init n uid_ mask) response
    unfold Answers at sound
    rw [complete.mpr ⟨attributes, answers⟩] at sound
    exact sound.2
  · intro before byte after _
    dsimp only
    rw [feed_append element_wise]
    exact writes_feed _ byte

theorem accepts_responses_title :
    ((init (.zero : AncsNotification .default) 7 2).feed
        [0, 7, 0, 0, 0, 1, 2, 0, 65, 66]).2 = .complete ∧
      ∃ attributes, Response .default 7 2 attributes [0, 7, 0, 0, 0, 1, 2, 0, 65, 66] := by
  have complete :
      ((init (.zero : AncsNotification .default) 7 2).feed
        [0, 7, 0, 0, 0, 1, 2, 0, 65, 66]).2 = .complete := by
    decide +kernel
  exact ⟨complete, (accepts_responses _ 7 2 (by decide) _).1.mp complete⟩

end DataParsing
