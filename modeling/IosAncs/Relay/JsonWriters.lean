import IosAncs.Foundation.CString
import IosAncs.Foundation.Json

/-!
The two writers of JSON strings: the one of the relay, for the state and the discovery, and
the one of the sink, for the notifications.
The source is `mqtt_relay.c` and `notification_sink_serial.c`.
-/
open CString

namespace JsonWriters

structure CText where
  bytes : List UInt8
  nonzero : (0 : UInt8) ∉ bytes

def fieldText {max : Nat} (value : CharArray max) : CText :=
  { bytes := text value, nonzero := text_nonzero value }

def quote : List UInt8 := ascii "\""

def lowerHex (digit : Nat) : Char := "0123456789abcdef".toList.getD digit '0'
def upperHex (digit : Nat) : Char := "0123456789ABCDEF".toList.getD digit '0'

/-- `\u%04x` or `\u%04X` of a control character. -/
def controlEscape (hex : Nat → Char) (byte : UInt8) : List UInt8 :=
  (['\\', 'u', '0', '0', hex (byte.toNat / 16), hex (byte.toNat % 16)]).map fun c =>
    UInt8.ofNat c.toNat

/-- The bytes that both writers escape: those that they switch on, and the control characters,
    which they write with different digits. -/
def escape (hex : Nat → Char) (byte : UInt8) : Option (List UInt8) :=
  if byte = 0x22 then some (ascii "\\\"")
  else if byte = 0x5C then some (ascii "\\\\")
  else if byte = 0x08 then some (ascii "\\b")
  else if byte = 0x0C then some (ascii "\\f")
  else if byte = 0x0A then some (ascii "\\n")
  else if byte = 0x0D then some (ascii "\\r")
  else if byte = 0x09 then some (ascii "\\t")
  else if byte < 0x20 then some (controlEscape hex byte)
  else none

inductive JsonError where
  | invalidArg
  | invalidSize
  deriving DecidableEq

/-- What `*cursor` has passed, and `*remaining`. -/
structure JsonCursor where
  written : List UInt8
  remaining : Nat
  deriving DecidableEq

/-- `snprintf` at the cursor, which has to fit with its terminator. -/
def JsonCursor.put (cursor : JsonCursor) (bytes : List UInt8) : Except JsonError JsonCursor :=
  if cursor.remaining ≤ bytes.length then .error .invalidSize
  else .ok { written := cursor.written ++ bytes, remaining := cursor.remaining - bytes.length }

/-- What `json_write_string` writes for a byte. -/
def jsonEscape (byte : UInt8) : List UInt8 := (escape lowerHex byte).getD [byte]

def jsonWriteString (cursor : JsonCursor) (value : CText) : Except JsonError JsonCursor :=
  if cursor.remaining = 0 then .error .invalidArg
  else do
    let cursor ← cursor.put quote
    let cursor ← value.bytes.foldlM (fun cursor byte => cursor.put (jsonEscape byte)) cursor
    cursor.put quote

/-- `json_writer_t` -/
structure JsonWriter where
  capacity : Nat
  bytes : List UInt8
  failed : Bool
  room : bytes.length < capacity

namespace JsonWriter

theorem room_append {writer : JsonWriter} {bytes : List UInt8}
    (fits : ¬ writer.capacity - writer.bytes.length ≤ bytes.length) :
    (writer.bytes ++ bytes).length < writer.capacity := by
  rw [List.length_append]
  omega

/-- `writer_raw`, `writer_bytes` and `writer_format`, with the bytes that they write. -/
def append (writer : JsonWriter) (bytes : List UInt8) : JsonWriter :=
  if writer.failed then writer
  else if fits : writer.capacity - writer.bytes.length ≤ bytes.length then
    { writer with failed := true }
  else { writer with bytes := writer.bytes ++ bytes, room := room_append fits }

end JsonWriter

def continuation (byte : UInt8) : Bool := byte &&& 0xC0 == 0x80

/-- `valid_utf8_sequence`, with the bytes from the index to the end of the text. -/
def validUtf8Sequence (bytes : List UInt8) : Nat :=
  let at_ (index : Nat) : UInt8 := bytes.getD index 0
  let first := at_ 0
  let remaining := bytes.length
  if first < 0x80 then 1
  else if first ≥ 0xC2 ∧ first ≤ 0xDF ∧ remaining ≥ 2 ∧ continuation (at_ 1) = true then 2
  else if (remaining ≥ 3 ∧ continuation (at_ 1) = true ∧ continuation (at_ 2) = true) ∧
      ((first = 0xE0 ∧ at_ 1 ≥ 0xA0 ∧ at_ 1 ≤ 0xBF) ∨
        ((first ≥ 0xE1 ∧ first ≤ 0xEC) ∨ (first ≥ 0xEE ∧ first ≤ 0xEF)) ∨
        (first = 0xED ∧ at_ 1 ≥ 0x80 ∧ at_ 1 ≤ 0x9F)) then 3
  else if (remaining ≥ 4 ∧ continuation (at_ 1) = true ∧ continuation (at_ 2) = true ∧
        continuation (at_ 3) = true) ∧
      ((first = 0xF0 ∧ at_ 1 ≥ 0x90 ∧ at_ 1 ≤ 0xBF) ∨ (first ≥ 0xF1 ∧ first ≤ 0xF3) ∨
        (first = 0xF4 ∧ at_ 1 ≥ 0x80 ∧ at_ 1 ≤ 0x8F)) then 4
  else 0

/-- One round of the loop: what is written, and how many bytes it is for. -/
def sinkRound (bytes : List UInt8) : List UInt8 × Nat :=
  match escape upperHex (bytes.getD 0 0) with
  | some escaped => (escaped, 1)
  | none =>
    let sequence := validUtf8Sequence bytes
    if sequence = 0 then (ascii "\\uFFFD", 1) else (bytes.take sequence, sequence)

/-- The loop of `writer_string`. A round takes at least one byte, so that there are no more
    rounds than bytes. -/
def sinkLoop : Nat → JsonWriter → List UInt8 → JsonWriter
  | 0, writer, _ => writer
  | _ + 1, writer, [] => writer
  | rounds + 1, writer, byte :: rest =>
    if writer.failed then writer
    else
      let (written, taken) := sinkRound (byte :: rest)
      sinkLoop rounds (writer.append written) ((byte :: rest).drop taken)

def writerString (writer : JsonWriter) (text : CText) : JsonWriter :=
  (sinkLoop text.bytes.length (writer.append quote) text.bytes).append quote

def source (hex : Nat → Char) (c : Char) : List Char :=
  if c = '"' then ['\\', '"']
  else if c = '\\' then ['\\', '\\']
  else if c = Char.ofNat 8 then ['\\', 'b']
  else if c = Char.ofNat 12 then ['\\', 'f']
  else if c = '\n' then ['\\', 'n']
  else if c = '\r' then ['\\', 'r']
  else if c = '\t' then ['\\', 't']
  else if c.toNat < 0x20 then ['\\', 'u', '0', '0', hex (c.toNat / 16), hex (c.toNat % 16)]
  else [c]

def sinkSource : Option Char → List Char
  | some c => source upperHex c
  | none => "\\uFFFD".toList

def quoted (bytes : List UInt8) : List Char :=
  ['"'] ++ (Utf8.pieces bytes).flatMap sinkSource ++ ['"']

section Escape
variable {hex : Nat → Char}

theorem hexValue_hex : (∀ digit < 16, JsonString.hexValue (lowerHex digit) = some digit) ∧
    ∀ digit < 16, JsonString.hexValue (upperHex digit) = some digit := by decide

theorem reads_source (value : ∀ digit < 16, JsonString.hexValue (hex digit) = some digit) (c : Char) :
    JsonString.Reads (source hex c) c := by
  unfold source
  split
  · next same =>
    subst same
    exact JsonString.reads_short (by decide) rfl
  split
  · next same =>
    subst same
    exact JsonString.reads_short (by decide) rfl
  split
  · next same =>
    subst same
    exact JsonString.reads_short (by decide) rfl
  split
  · next same =>
    subst same
    exact JsonString.reads_short (by decide) rfl
  split
  · next same =>
    subst same
    exact JsonString.reads_short (by decide) rfl
  split
  · next same =>
    subst same
    exact JsonString.reads_short (by decide) rfl
  split
  · next same =>
    subst same
    exact JsonString.reads_short (by decide) rfl
  split
  · next control =>
    have whole : ((0 * 16 + 0) * 16 + c.toNat / 16) * 16 + c.toNat % 16 = c.toNat := by omega
    have zero : JsonString.hexValue '0' = some 0 := by decide
    have reads : JsonString.Reads ['\\', 'u', '0', '0', hex (c.toNat / 16), hex (c.toNat % 16)]
        (Char.ofNat (((0 * 16 + 0) * 16 + c.toNat / 16) * 16 + c.toNat % 16)) :=
      JsonString.reads_unit ⟨zero, zero, value (c.toNat / 16) (by omega),
        value (c.toNat % 16) (by omega)⟩ (by omega)
    rw [whole] at reads
    simpa using reads
  · next quoted backslash _ _ _ _ _ plain => exact JsonString.reads_plain quoted backslash plain

theorem sinkSource_some (c : Char) : sinkSource (some c) = source upperHex c := rfl

theorem reads_sinkSource (piece : Option Char) :
    JsonString.Reads (sinkSource piece) (piece.getD Utf8.replacement) := by
  cases piece with
  | none =>
    have digits : JsonString.hexValue 'F' = some 15 ∧ JsonString.hexValue 'D' = some 13 := by decide
    exact JsonString.reads_unit ⟨digits.1, digits.1, digits.1, digits.2⟩ (by decide)
  | some c => exact reads_source hexValue_hex.2 c

/-- On ASCII both writers write the same characters, but for the case of the digits. -/
theorem escape_ascii {c : Char} (ascii : c.toNat < 0x80) :
    (escape lowerHex (UInt8.ofNat c.toNat)).getD [UInt8.ofNat c.toNat] =
        Utf8.encode (source lowerHex c) ∧
      (escape upperHex (UInt8.ofNat c.toNat)).getD [UInt8.ofNat c.toNat] =
        Utf8.encode (source upperHex c) := by
  have all : ∀ n < 0x80,
      (escape lowerHex (UInt8.ofNat n)).getD [UInt8.ofNat n] =
          Utf8.encode (source lowerHex (Char.ofNat n)) ∧
        (escape upperHex (UInt8.ofNat n)).getD [UInt8.ofNat n] =
          Utf8.encode (source upperHex (Char.ofNat n)) := by decide +kernel
  have same := all c.toNat ascii
  rwa [Char.ofNat_toNat] at same

theorem ne_of_high {byte small : UInt8} (high : 0x80 ≤ byte) (low : small < 0x80) : byte ≠ small := by
  rintro rfl
  exact absurd high (UInt8.not_le.mpr low)

theorem escape_high {byte : UInt8} (high : 0x80 ≤ byte) : escape hex byte = none := by
  have plain : ¬ byte < 0x20 := by
    rw [UInt8.lt_iff_toNat_lt]
    rw [UInt8.le_iff_toNat_le] at high
    exact Nat.not_lt.mpr (Nat.le_trans (by decide) high)
  unfold escape
  rw [if_neg (ne_of_high high (by decide)), if_neg (ne_of_high high (by decide)),
    if_neg (ne_of_high high (by decide)), if_neg (ne_of_high high (by decide)),
    if_neg (ne_of_high high (by decide)), if_neg (ne_of_high high (by decide)),
    if_neg (ne_of_high high (by decide)), if_neg plain]

theorem source_high {c : Char} (beyond : 0x7F < c.toNat) : source hex c = [c] := by
  have differs : ∀ n : Char, n.toNat ≤ 0x7F → c ≠ n := by
    rintro n small rfl
    exact absurd beyond (Nat.not_lt.mpr small)
  unfold source
  rw [if_neg (differs _ (by decide)), if_neg (differs _ (by decide)), if_neg (differs _ (by decide)),
    if_neg (differs _ (by decide)), if_neg (differs _ (by decide)), if_neg (differs _ (by decide)),
    if_neg (differs _ (by decide)), if_neg (by omega)]

end Escape

section Sequence
variable {byte : UInt8} {rest : List UInt8}

theorem continuation_iff (byte : UInt8) :
    continuation byte = true ↔ 0x80 ≤ byte.toNat ∧ byte.toNat ≤ 0xBF := by
  have all : ∀ n < 256, continuation (UInt8.ofNat n) = true ↔ 0x80 ≤ n ∧ n ≤ 0xBF := by
    decide +kernel
  have same := all byte.toNat byte.toNat_lt
  rwa [UInt8.ofNat_toNat] at same

theorem toNat_ofNat {n : Nat} (small : n < 256) : (UInt8.ofNat n).toNat = n := by
  rw [UInt8.toNat_ofNat', Nat.mod_eq_of_lt small]

/-- `valid_utf8_sequence` on the values of the first four bytes. -/
def sequenceOf (remaining a b c d : Nat) : Nat :=
  if a < 0x80 then 1
  else if 0xC2 ≤ a ∧ a ≤ 0xDF ∧ 2 ≤ remaining ∧ 0x80 ≤ b ∧ b ≤ 0xBF then 2
  else if (3 ≤ remaining ∧ (0x80 ≤ b ∧ b ≤ 0xBF) ∧ 0x80 ≤ c ∧ c ≤ 0xBF) ∧
      ((a = 0xE0 ∧ 0xA0 ≤ b ∧ b ≤ 0xBF) ∨
        ((0xE1 ≤ a ∧ a ≤ 0xEC) ∨ 0xEE ≤ a ∧ a ≤ 0xEF) ∨ a = 0xED ∧ 0x80 ≤ b ∧ b ≤ 0x9F) then 3
  else if (4 ≤ remaining ∧ (0x80 ≤ b ∧ b ≤ 0xBF) ∧ (0x80 ≤ c ∧ c ≤ 0xBF) ∧ 0x80 ≤ d ∧ d ≤ 0xBF) ∧
      ((a = 0xF0 ∧ 0x90 ≤ b ∧ b ≤ 0xBF) ∨ (0xF1 ≤ a ∧ a ≤ 0xF3) ∨
        a = 0xF4 ∧ 0x80 ≤ b ∧ b ≤ 0x8F) then 4
  else 0

theorem validUtf8Sequence_eq (bytes : List UInt8) :
    validUtf8Sequence bytes = sequenceOf bytes.length (bytes.getD 0 0).toNat (bytes.getD 1 0).toNat
      (bytes.getD 2 0).toNat (bytes.getD 3 0).toNat := by
  simp only [validUtf8Sequence, sequenceOf, UInt8.lt_iff_toNat_lt, UInt8.le_iff_toNat_le, ge_iff_le,
    ← UInt8.toNat_inj, continuation_iff, UInt8.reduceToNat]

theorem validUtf8Sequence_encode (c : Char) (rest : List UInt8) :
    validUtf8Sequence (String.utf8EncodeChar c ++ rest) = c.utf8Size := by
  rw [← String.length_utf8EncodeChar, validUtf8Sequence_eq]
  have scalar := c.valid
  simp only [UInt32.isValidChar, Nat.isValidChar] at scalar
  have value : c.val.toNat = c.toNat := rfl
  rw [value] at scalar
  rcases Utf8.encodeChar_cases c with ⟨small, bytes⟩ | ⟨beyond, small, bytes⟩ |
    ⟨beyond, small, bytes⟩ | ⟨beyond, bytes⟩
  all_goals
    rw [bytes]
    simp only [List.cons_append, List.nil_append, List.getD_cons_zero, List.getD_cons_succ,
      List.length_cons, List.length_nil]
  · rw [toNat_ofNat (by omega)]
    unfold sequenceOf
    rw [if_pos (by omega)]
  · rw [toNat_ofNat (by omega), toNat_ofNat (by omega)]
    unfold sequenceOf
    rw [if_neg (by omega), if_pos (by omega)]
  · rw [toNat_ofNat (by omega), toNat_ofNat (by omega), toNat_ofNat (by omega)]
    unfold sequenceOf
    rw [if_neg (by omega), if_neg (by omega), if_pos (by omega)]
  · rw [toNat_ofNat (by omega), toNat_ofNat (by omega), toNat_ofNat (by omega),
      toNat_ofNat (by omega)]
    unfold sequenceOf
    rw [if_neg (by omega), if_neg (by omega), if_neg (by omega), if_pos (by omega)]

theorem prefix_two {bytes : List UInt8} (length : 2 ≤ bytes.length) :
    [bytes.getD 0 0, bytes.getD 1 0] <+: bytes := by
  rcases bytes with _ | ⟨a, _ | ⟨b, rest⟩⟩
  · simp at length
  · simp at length
  · exact ⟨rest, rfl⟩

theorem prefix_three {bytes : List UInt8} (length : 3 ≤ bytes.length) :
    [bytes.getD 0 0, bytes.getD 1 0, bytes.getD 2 0] <+: bytes := by
  rcases bytes with _ | ⟨a, _ | ⟨b, _ | ⟨c, rest⟩⟩⟩
  · simp at length
  · simp at length
  · simp at length
  · exact ⟨rest, rfl⟩

theorem prefix_four {bytes : List UInt8} (length : 4 ≤ bytes.length) :
    [bytes.getD 0 0, bytes.getD 1 0, bytes.getD 2 0, bytes.getD 3 0] <+: bytes := by
  rcases bytes with _ | ⟨a, _ | ⟨b, _ | ⟨c, _ | ⟨d, rest⟩⟩⟩⟩
  · simp at length
  · simp at length
  · simp at length
  · simp at length
  · exact ⟨rest, rfl⟩

theorem exists_of_sequence (sequence : validUtf8Sequence (byte :: rest) ≠ 0) :
    ∃ c, String.utf8EncodeChar c <+: byte :: rest := by
  rw [validUtf8Sequence_eq] at sequence
  unfold sequenceOf at sequence
  split at sequence
  · next ascii =>
    obtain ⟨c, encoded⟩ := Utf8.exists_encodeChar_one ascii
    exact ⟨c, encoded ▸ ⟨rest, rfl⟩⟩
  split at sequence
  · next two =>
    obtain ⟨c, encoded⟩ := Utf8.exists_encodeChar_two ⟨two.1, two.2.1⟩ two.2.2.2
    exact ⟨c, encoded ▸ prefix_two two.2.2.1⟩
  split at sequence
  · next three =>
    obtain ⟨⟨length, second, third⟩, first⟩ := three
    obtain ⟨c, encoded⟩ := Utf8.exists_encodeChar_three (a := (byte :: rest).getD 0 0)
      (by omega) second third
    exact ⟨c, encoded ▸ prefix_three length⟩
  split at sequence
  · next four =>
    obtain ⟨⟨length, second, third, fourth⟩, first⟩ := four
    obtain ⟨c, encoded⟩ := Utf8.exists_encodeChar_four (a := (byte :: rest).getD 0 0)
      (by omega) second third fourth
    exact ⟨c, encoded ▸ prefix_four length⟩
  · exact absurd rfl sequence

theorem validUtf8Sequence_invalid (invalid : Utf8.firstChar (byte :: rest) = none) :
    validUtf8Sequence (byte :: rest) = 0 := by
  by_contra sequence
  obtain ⟨c, begins⟩ := exists_of_sequence sequence
  exact Utf8.firstChar_none_iff.mp invalid c begins

theorem high_of_invalid (invalid : Utf8.firstChar (byte :: rest) = none) : 0x80 ≤ byte := by
  by_contra low
  have ascii : byte.toNat < 0x80 := by
    rw [UInt8.le_iff_toNat_le] at low
    exact Nat.lt_of_not_le low
  obtain ⟨c, encoded⟩ := Utf8.exists_encodeChar_one ascii
  exact Utf8.firstChar_none_iff.mp invalid c (encoded ▸ ⟨rest, rfl⟩)

theorem sinkRound_encode (c : Char) (rest : List UInt8) :
    sinkRound (String.utf8EncodeChar c ++ rest) = (Utf8.encode (sinkSource (some c)), c.utf8Size) := by
  have sequence := validUtf8Sequence_encode c rest
  have whole : (String.utf8EncodeChar c ++ rest).take c.utf8Size = String.utf8EncodeChar c := by
    rw [← String.length_utf8EncodeChar]
    exact List.take_left
  have positive := c.utf8Size_pos.ne'
  unfold sinkRound
  by_cases ascii : c.toNat < 0x80
  · have encoded := Utf8.encodeChar_one (Nat.le_of_lt_succ ascii)
    have single : c.utf8Size = 1 := by rw [← String.length_utf8EncodeChar, encoded]; rfl
    have head : (String.utf8EncodeChar c ++ rest).getD 0 0 = UInt8.ofNat c.toNat := by
      rw [encoded]
      rfl
    rw [head]
    have written := (escape_ascii ascii).2
    cases escaped : escape upperHex (UInt8.ofNat c.toNat) with
    | some bytes =>
      rw [escaped] at written
      exact congrArg₂ Prod.mk written single.symm
    | none =>
      rw [escaped] at written
      simp only [sequence, positive, if_false, whole]
      exact congrArg₂ Prod.mk (encoded.trans written) rfl
  · have beyond : 0x7F < c.toNat := Nat.lt_of_not_le fun low => ascii (Nat.lt_succ_of_le low)
    obtain ⟨byte, last, encoded⟩ := Utf8.encodeChar_cons c
    have high : 0x80 ≤ byte := Utf8.high_encodeChar beyond byte (by simp [encoded])
    have head : (String.utf8EncodeChar c ++ rest).getD 0 0 = byte := by
      rw [encoded]
      rfl
    rw [head, escape_high high]
    simp only [sequence, positive, if_false, whole]
    refine congrArg₂ Prod.mk ?_ rfl
    simp [sinkSource_some, source_high beyond]

theorem sinkRound_invalid (invalid : Utf8.firstChar (byte :: rest) = none) :
    sinkRound (byte :: rest) = (Utf8.encode (sinkSource none), 1) := by
  have high := high_of_invalid invalid
  have replaced : ascii "\\uFFFD" = Utf8.encode (sinkSource none) := by decide
  simp only [sinkRound, List.getD_cons_zero, escape_high high, validUtf8Sequence_invalid invalid,
    if_true, replaced]

end Sequence

section Written

/-- A part of the output: a call writes these bytes where they fit, and fails where not. -/
structure Emits (write : JsonWriter → JsonWriter) (bytes : List UInt8) : Prop where
  capacity : ∀ w, (write w).capacity = w.capacity
  failed : ∀ w, w.failed = true → (write w).failed = true
  fits : ∀ w, w.failed = false → w.bytes.length + bytes.length < w.capacity →
    (write w).failed = false ∧ (write w).bytes = w.bytes ++ bytes
  overflows : ∀ w, w.failed = false → w.capacity ≤ w.bytes.length + bytes.length →
    (write w).failed = true

section Emits
variable {write write' : JsonWriter → JsonWriter} {bytes bytes' : List UInt8}

theorem emits_append (bytes : List UInt8) : Emits (·.append bytes) bytes where
  capacity w := by
    unfold JsonWriter.append
    split
    · rfl
    · split <;> rfl
  failed w failed := by simp [JsonWriter.append, failed]
  fits w intact room := by
    have fits : ¬w.capacity - w.bytes.length ≤ bytes.length := by omega
    simp [JsonWriter.append, intact, fits]
  overflows w intact full := by
    have overflows : w.capacity - w.bytes.length ≤ bytes.length := by omega
    simp [JsonWriter.append, intact, overflows]

theorem emits_written (emits : Emits write bytes) {w : JsonWriter} (kept : (write w).failed = false) :
    (write w).bytes = w.bytes ++ bytes := by
  have intact : w.failed = false := by
    cases state : w.failed with
    | false => rfl
    | true => exact absurd (kept.symm.trans (emits.failed w state)) (by simp)
  have room : w.bytes.length + bytes.length < w.capacity := by
    refine Nat.lt_of_not_le fun full => ?_
    exact absurd (kept.symm.trans (emits.overflows w intact full)) (by simp)
  exact (emits.fits w intact room).2

theorem emits_nil : Emits id [] where
  capacity _ := rfl
  failed _ failed := failed
  fits w intact _ := ⟨intact, (List.append_nil _).symm⟩
  overflows w _ full := by
    have room := w.room
    rw [List.length_nil] at full
    omega

theorem emits_comp (first : Emits write bytes) (second : Emits write' bytes') :
    Emits (fun w => write' (write w)) (bytes ++ bytes') where
  capacity w := by rw [second.capacity, first.capacity]
  failed w failed := second.failed _ (first.failed w failed)
  fits w intact room := by
    rw [List.length_append] at room
    obtain ⟨intact', written⟩ := first.fits w intact (by omega)
    obtain ⟨intact'', written'⟩ := second.fits _ intact'
      (by rw [written, first.capacity, List.length_append]; omega)
    exact ⟨intact'', by rw [written', written, List.append_assoc]⟩
  overflows w intact full := by
    rw [List.length_append] at full
    by_cases room : w.bytes.length + bytes.length < w.capacity
    · obtain ⟨intact', written⟩ := first.fits w intact room
      exact second.overflows _ intact' (by rw [written, first.capacity, List.length_append]; omega)
    · exact second.failed _ (first.overflows w intact (Nat.not_lt.mp room))

theorem emits_congr (emits : Emits write bytes) (failed : ∀ w, w.failed = true → write' w = w)
    (intact : ∀ w, w.failed = false → write' w = write w) : Emits write' bytes where
  capacity w := by
    cases state : w.failed with
    | true => rw [failed w state]
    | false => rw [intact w state, emits.capacity]
  failed w state := by rwa [failed w state]
  fits w state := by
    rw [intact w state]
    exact emits.fits w state
  overflows w state := by
    rw [intact w state]
    exact emits.overflows w state

end Emits

theorem sinkLoop_failed {writer : JsonWriter} (failed : writer.failed = true) (rounds : Nat)
    (bytes : List UInt8) : sinkLoop rounds writer bytes = writer := by
  cases rounds with
  | zero => rfl
  | succ rounds =>
    cases bytes with
    | nil => rfl
    | cons byte rest => simp [sinkLoop, failed]

theorem sinkLoop_round {writer : JsonWriter} {bytes written rest : List UInt8} {taken : Nat}
    (round : sinkRound bytes = (written, taken)) (rest_ : bytes.drop taken = rest)
    (more : bytes ≠ []) (intact : writer.failed = false) (rounds : Nat) :
    sinkLoop (rounds + 1) writer bytes = sinkLoop rounds (writer.append written) rest := by
  cases bytes with
  | nil => exact absurd rfl more
  | cons byte last => simp [sinkLoop, intact, round, rest_]

theorem emits_loop (bytes : List UInt8) : ∀ rounds, bytes.length ≤ rounds →
    Emits (sinkLoop rounds · bytes) (Utf8.encode ((Utf8.pieces bytes).flatMap sinkSource)) := by
  induction bytes using Utf8.pieces_induction with
  | nil =>
    intro rounds _
    have idle : (sinkLoop rounds · []) = id := by
      funext w
      cases rounds <;> rfl
    rw [idle]
    exact emits_nil
  | char c rest ih =>
    intro rounds enough
    have size := c.utf8Size_pos
    rw [List.length_append, String.length_utf8EncodeChar] at enough
    obtain ⟨rounds, rfl⟩ := Nat.exists_eq_succ_of_ne_zero (show rounds ≠ 0 by omega)
    have dropped : (String.utf8EncodeChar c ++ rest).drop c.utf8Size = rest := by
      rw [← String.length_utf8EncodeChar]
      exact List.drop_left
    have more : String.utf8EncodeChar c ++ rest ≠ [] :=
      List.append_ne_nil_of_left_ne_nil String.utf8EncodeChar_ne_nil rest
    rw [Utf8.pieces_encode, List.flatMap_cons, Utf8.encode_append]
    exact emits_congr (emits_comp (emits_append _) (ih rounds (by omega)))
      (fun w failed => sinkLoop_failed failed _ _)
      fun w intact => sinkLoop_round (sinkRound_encode c rest) dropped more intact rounds
  | invalid byte rest first ih =>
    intro rounds enough
    rw [List.length_cons] at enough
    obtain ⟨rounds, rfl⟩ := Nat.exists_eq_succ_of_ne_zero (show rounds ≠ 0 by omega)
    rw [Utf8.pieces_invalid first, List.flatMap_cons, Utf8.encode_append]
    exact emits_congr (emits_comp (emits_append _) (ih rounds (by omega)))
      (fun w failed => sinkLoop_failed failed _ _)
      fun w intact => sinkLoop_round (sinkRound_invalid first) rfl (List.cons_ne_nil _ _) intact rounds

theorem emits_string (text : CText) :
    Emits (writerString · text) (Utf8.encode (quoted text.bytes)) := by
  have quote_ : Utf8.encode ['"'] = quote := by decide
  rw [quoted, Utf8.encode_append, Utf8.encode_append, quote_]
  exact emits_comp (emits_comp (emits_append quote) (emits_loop _ _ (Nat.le_refl _)))
    (emits_append quote)

theorem spells_quoted (bytes : List UInt8) :
    Json.Spells (quoted bytes) (.string (Utf8.replaceInvalid bytes)) :=
  Json.spells_string sinkSource (·.getD Utf8.replacement) reads_sinkSource (Utf8.pieces bytes)

theorem source_cases (c : Char) : source upperHex c = [c] ∨
    (∀ escaped ∈ source upperHex c, escaped.toNat ≤ 0x7F) ∧ (source upperHex c).length ≤ 6 := by
  have digit : ∀ n < 16, (upperHex n).toNat ≤ 0x7F := by decide
  unfold source
  split_ifs with _ _ _ _ _ _ _ control
  iterate 7 exact .inr (by simp)
  · have high := digit (c.toNat / 16) (by omega)
    have low := digit (c.toNat % 16) (by omega)
    exact .inr ⟨by simp [high, low], Nat.le_refl 6⟩
  · exact .inl rfl

theorem length_source (c : Char) : (Utf8.encode (source upperHex c)).length ≤ 6 * c.utf8Size := by
  have size := c.utf8Size_pos
  obtain plain | ⟨ascii, short⟩ := source_cases c
  · have single : (Utf8.encode [c]).length = c.utf8Size := by simp
    rw [plain, single]
    omega
  · rw [Decimal.length_encode ascii]
    omega

theorem length_pieces (bytes : List UInt8) :
    (Utf8.encode ((Utf8.pieces bytes).flatMap sinkSource)).length ≤ 6 * bytes.length := by
  induction bytes using Utf8.pieces_induction with
  | nil => exact Nat.le_refl _
  | char c rest ih =>
    have first := length_source c
    rw [Utf8.pieces_encode, List.flatMap_cons, Utf8.encode_append, List.length_append,
      List.length_append, String.length_utf8EncodeChar, sinkSource_some]
    omega
  | invalid byte rest first ih =>
    have escape : (Utf8.encode (sinkSource none)).length = 6 := by decide
    rw [Utf8.pieces_invalid first, List.flatMap_cons, Utf8.encode_append, List.length_append,
      List.length_cons, escape]
    omega

theorem length_quoted (bytes : List UInt8) :
    (Utf8.encode (quoted bytes)).length ≤ 6 * bytes.length + 2 := by
  have quotes : (Utf8.encode ['"']).length = 1 := by decide
  have inside := length_pieces bytes
  rw [quoted, Utf8.encode_append, Utf8.encode_append, List.length_append, List.length_append, quotes]
  omega

theorem writerString_written {writer : JsonWriter} {text : CText}
    (fits : (writerString writer text).failed = false) :
    (writerString writer text).bytes = writer.bytes ++
      Utf8.encode (['"'] ++ (Utf8.pieces text.bytes).flatMap sinkSource ++ ['"']) :=
  emits_written (emits_string text) fits

theorem put_written {cursor cursor' : JsonCursor} {bytes : List UInt8}
    (fits : cursor.put bytes = .ok cursor') : cursor'.written = cursor.written ++ bytes := by
  unfold JsonCursor.put at fits
  split at fits
  · cases fits
  · cases fits
    rfl

theorem foldlM_put_written (f : UInt8 → List UInt8) (bytes : List UInt8) :
    ∀ {cursor cursor' : JsonCursor},
      bytes.foldlM (fun cursor byte => cursor.put (f byte)) cursor = .ok cursor' →
        cursor'.written = cursor.written ++ bytes.flatMap f := by
  induction bytes with
  | nil =>
    intro cursor cursor' fits
    cases fits
    exact (List.append_nil _).symm
  | cons byte rest ih =>
    intro cursor cursor' fits
    rw [List.foldlM_cons] at fits
    cases first : cursor.put (f byte) with
    | error e =>
      rw [first] at fits
      cases fits
    | ok middle =>
      rw [first] at fits
      rw [ih fits, put_written first, List.flatMap_cons, List.append_assoc]

theorem jsonWriteString_written {cursor cursor' : JsonCursor} {value : CText}
    (fits : jsonWriteString cursor value = .ok cursor') :
    cursor'.written = cursor.written ++ (quote ++ (value.bytes.flatMap jsonEscape ++ quote)) := by
  unfold jsonWriteString at fits
  split at fits
  · cases fits
  cases opened : cursor.put quote with
  | error e =>
    rw [opened] at fits
    cases fits
  | ok first =>
    rw [opened] at fits
    cases looped : value.bytes.foldlM (fun cursor byte => cursor.put (jsonEscape byte)) first with
    | error e =>
      have failed := congrArg (· >>= fun cursor : JsonCursor => cursor.put quote) looped
      cases failed.symm.trans fits
    | ok second =>
      have closed : second.put quote = .ok cursor' := by
        have same := congrArg (· >>= fun cursor : JsonCursor => cursor.put quote) looped
        exact same.symm.trans fits
      rw [put_written closed, foldlM_put_written jsonEscape value.bytes looped, put_written opened]
      simp only [List.append_assoc]

end Written

section Valid

theorem jsonEscape_high {byte : UInt8} (high : 0x80 ≤ byte) : jsonEscape byte = [byte] := by
  rw [jsonEscape, escape_high high]
  rfl

theorem flatMap_jsonEscape_high {bytes : List UInt8} (high : ∀ byte ∈ bytes, 0x80 ≤ byte) :
    bytes.flatMap jsonEscape = bytes := by
  induction bytes with
  | nil => rfl
  | cons byte rest ih =>
    rw [List.flatMap_cons, jsonEscape_high (high byte List.mem_cons_self),
      ih fun other member => high other (List.mem_cons_of_mem byte member)]
    rfl

theorem flatMap_jsonEscape_char (c : Char) :
    (String.utf8EncodeChar c).flatMap jsonEscape = Utf8.encode (source lowerHex c) := by
  by_cases ascii : c.toNat < 0x80
  · rw [Utf8.encodeChar_one (Nat.le_of_lt_succ ascii), List.flatMap_cons, List.flatMap_nil,
      List.append_nil]
    exact (escape_ascii ascii).1
  · have beyond : 0x7F < c.toNat := Nat.lt_of_not_le fun low => ascii (Nat.lt_succ_of_le low)
    rw [flatMap_jsonEscape_high (Utf8.high_encodeChar beyond), source_high beyond]
    exact (List.append_nil _).symm

theorem flatMap_jsonEscape_encode (chars : List Char) :
    (Utf8.encode chars).flatMap jsonEscape = Utf8.encode (chars.flatMap (source lowerHex)) := by
  induction chars with
  | nil => rfl
  | cons c chars ih =>
    rw [Utf8.encode_cons, List.flatMap_append, flatMap_jsonEscape_char, ih, List.flatMap_cons,
      Utf8.encode_append]

theorem jsonEscape_head (byte : UInt8) :
    (0x80 ≤ byte ∧ jsonEscape byte = [byte]) ∨
      ∃ first rest, jsonEscape byte = first :: rest ∧ ¬ 0x80 ≤ first := by
  by_cases high : 0x80 ≤ byte
  · exact .inl ⟨high, jsonEscape_high high⟩
  · right
    have all : ∀ n < 0x80, ∃ first ∈ (jsonEscape (UInt8.ofNat n)).head?, ¬ (0x80 : UInt8) ≤ first := by
      decide
    have low : byte.toNat < 0x80 := by
      rw [UInt8.le_iff_toNat_le] at high
      exact Nat.lt_of_not_le high
    obtain ⟨first, head, ascii⟩ := all byte.toNat low
    rw [UInt8.ofNat_toNat] at head
    obtain ⟨rest, escaped⟩ := List.head?_eq_some_iff.mp head
    exact ⟨first, rest, escaped, ascii⟩

/-- Bytes beyond ASCII at the beginning of what the relay writes are bytes of the text. -/
theorem prefix_of_written {high : List UInt8} : ∀ {bytes : List UInt8},
    (∀ byte ∈ high, 0x80 ≤ byte) → high <+: bytes.flatMap jsonEscape ++ quote → high <+: bytes := by
  induction high with
  | nil => exact fun _ _ => List.nil_prefix
  | cons first high ih =>
    intro bytes beyond written
    have above := beyond first List.mem_cons_self
    cases bytes with
    | nil =>
      obtain ⟨rfl, _⟩ := List.cons_prefix_cons.mp written
      exact absurd above (by decide)
    | cons byte rest =>
      rw [List.flatMap_cons, List.append_assoc] at written
      rcases jsonEscape_head byte with ⟨_, same⟩ | ⟨head, tail, escaped, ascii⟩
      · rw [same] at written
        obtain ⟨rfl, later⟩ := List.cons_prefix_cons.mp written
        have members : ∀ byte ∈ high, 0x80 ≤ byte :=
          fun other member => beyond other (List.mem_cons_of_mem first member)
        exact List.cons_prefix_cons.mpr ⟨rfl, ih members later⟩
      · rw [escaped] at written
        obtain ⟨rfl, _⟩ := List.cons_prefix_cons.mp written
        exact absurd above ascii

theorem pieces_encode_append (chars : List Char) (bytes : List UInt8) :
    Utf8.pieces (Utf8.encode chars ++ bytes) = chars.map some ++ Utf8.pieces bytes := by
  induction chars with
  | nil => rfl
  | cons c chars ih =>
    rw [Utf8.encode_cons, List.append_assoc, Utf8.pieces_encode, ih, List.map_cons, List.cons_append]

theorem low_ofNat {n : Nat} (small : n ≤ 0x7F) : ¬ 0x80 ≤ UInt8.ofNat n := by
  rw [UInt8.le_iff_toNat_le, toNat_ofNat (by omega)]
  exact Nat.not_le.mpr (Nat.lt_succ_of_le small)

/-- What the relay writes is UTF-8 exactly where the text is. -/
theorem valid_written_iff (bytes : List UInt8) :
    Utf8.Valid (bytes.flatMap jsonEscape ++ quote) ↔ Utf8.Valid bytes := by
  rw [Utf8.valid_iff, Utf8.valid_iff]
  suffices same : (Utf8.pieces (bytes.flatMap jsonEscape ++ quote)).all Option.isSome =
      (Utf8.pieces bytes).all Option.isSome by rw [same]
  induction bytes using Utf8.pieces_induction with
  | nil => decide
  | char c rest ih =>
    rw [List.flatMap_append, flatMap_jsonEscape_char, List.append_assoc, pieces_encode_append,
      List.all_append, ih, Utf8.pieces_encode]
    simp
  | invalid byte rest first ih =>
    have high := high_of_invalid first
    have still : Utf8.firstChar (byte :: (rest.flatMap jsonEscape ++ quote)) = none := by
      rw [Utf8.firstChar_none_iff] at first ⊢
      intro c begins
      have beyond : 0x7F < c.toNat := by
        by_contra low
        rw [Utf8.encodeChar_one (Nat.le_of_not_lt low)] at begins
        obtain ⟨rfl, _⟩ := List.cons_prefix_cons.mp begins
        exact absurd high (low_ofNat (Nat.le_of_not_lt low))
      have written : String.utf8EncodeChar c <+: (byte :: rest).flatMap jsonEscape ++ quote := by
        rw [List.flatMap_cons, jsonEscape_high high]
        exact begins
      exact first c (prefix_of_written (Utf8.high_encodeChar beyond) written)
    rw [List.flatMap_cons, jsonEscape_high high, List.append_assoc, List.singleton_append,
      Utf8.pieces_invalid still, Utf8.pieces_invalid first]
    rfl

end Valid

def Agree (text : CText) (json sink : List UInt8) : Prop :=
  JsonString.decode json = some (Utf8.replaceInvalid text.bytes) ∧
    JsonString.decode sink = some (Utf8.replaceInvalid text.bytes)

theorem decode_encode (chars : List Char) :
    JsonString.decode (Utf8.encode chars) = JsonString.read chars := by
  rw [JsonString.decode, Utf8.decode_encode]
  rfl

/-- Wherever both fit, the two writers emit JSON strings of the same text exactly where the
    text is UTF-8. -/
theorem writers_agree_iff_valid {text : CText} {cursor cursor' : JsonCursor} {writer : JsonWriter}
    (fits : jsonWriteString cursor text = .ok cursor')
    (sinkFits : (writerString writer text).failed = false) :
    Agree text (cursor'.written.drop cursor.written.length)
        ((writerString writer text).bytes.drop writer.bytes.length) ↔ Utf8.Valid text.bytes := by
  rw [jsonWriteString_written fits, writerString_written sinkFits, List.drop_left, List.drop_left]
  have sink : JsonString.decode (Utf8.encode
      (['"'] ++ (Utf8.pieces text.bytes).flatMap sinkSource ++ ['"'])) =
        some (Utf8.replaceInvalid text.bytes) := by
    rw [decode_encode]
    exact JsonString.read_quoted sinkSource (·.getD Utf8.replacement) reads_sinkSource _
  have quoted : Utf8.encode ['"'] = quote := by decide
  constructor
  · rintro ⟨json, _⟩
    obtain ⟨chars, decoded, _⟩ := Option.bind_eq_some_iff.mp json
    have whole : Utf8.Valid (quote ++ (text.bytes.flatMap jsonEscape ++ quote)) :=
      ⟨chars, Utf8.decode_eq_some_iff.mp decoded⟩
    rw [← valid_written_iff, Utf8.valid_iff]
    rw [Utf8.valid_iff] at whole
    nth_rewrite 1 [← quoted] at whole
    rw [pieces_encode_append, List.all_append] at whole
    exact (Bool.and_eq_true_iff.mp whole).2
  · rintro ⟨chars, encoded⟩
    refine ⟨?_, sink⟩
    rw [← encoded, flatMap_jsonEscape_encode, ← quoted, ← Utf8.encode_append, ← Utf8.encode_append,
      decode_encode, Utf8.replaceInvalid_encode]
    have read := JsonString.read_quoted (source lowerHex) id (reads_source hexValue_hex.1) chars
    rw [List.map_id, List.append_assoc] at read
    exact read

/-- A network whose name is the Latin-1 byte of a small e with an acute accent. -/
def latinName : CText := { bytes := [0xE9], nonzero := by decide }

def utf8Name : CText := { bytes := [0xC3, 0xA9], nonzero := by decide }

def emptyWriter : JsonWriter :=
  { capacity := 64, bytes := [], failed := false, room := by decide }

theorem writers_agree_iff_valid_accented :
    Agree utf8Name [0x22, 0xC3, 0xA9, 0x22] (writerString emptyWriter utf8Name).bytes ↔
      Utf8.Valid utf8Name.bytes := by
  have fits : jsonWriteString { written := [], remaining := 64 } utf8Name =
      .ok { written := [0x22, 0xC3, 0xA9, 0x22], remaining := 60 } := by decide
  have sinkFits : (writerString emptyWriter utf8Name).failed = false := by decide
  exact writers_agree_iff_valid fits sinkFits

theorem latin_name_is_not_json : ¬ ∀ (text : CText) (cursor cursor' : JsonCursor) (writer : JsonWriter),
    jsonWriteString cursor text = .ok cursor' → (writerString writer text).failed = false →
      Agree text (cursor'.written.drop cursor.written.length)
        ((writerString writer text).bytes.drop writer.bytes.length) := by
  intro all
  have agree := all latinName { written := [], remaining := 64 }
    { written := [0x22, 0xE9, 0x22], remaining := 61 } emptyWriter (by decide)
    (by decide)
  have undecoded : JsonString.decode [0x22, 0xE9, 0x22] = none := by decide
  exact absurd (undecoded.symm.trans agree.1) (by simp)

end JsonWriters
