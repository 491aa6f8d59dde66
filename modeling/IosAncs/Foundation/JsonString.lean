import IosAncs.Foundation.Utf8

/-!
The string syntax of JSON, read one character at a time, and the text that a string of
bytes stands for.
-/
namespace JsonString

/-- Where the reader stands: in the text, in an escape, or in the digits of a code unit. A high
    surrogate has to be followed by the escape of a low one. -/
inductive Phase where
  | before
  | text
  | escape
  | unit (digits value : Nat)
  | high (surrogate : Nat)
  | highEscape (surrogate : Nat)
  | low (surrogate digits value : Nat)
  | after
  deriving DecidableEq

structure Reader where
  phase : Phase
  chars : List Char
  deriving DecidableEq

def hexValue (c : Char) : Option Nat :=
  if '0' ≤ c ∧ c ≤ '9' then some (c.toNat - '0'.toNat)
  else if 'a' ≤ c ∧ c ≤ 'f' then some (c.toNat - 'a'.toNat + 10)
  else if 'A' ≤ c ∧ c ≤ 'F' then some (c.toNat - 'A'.toNat + 10)
  else none

def shortEscape (c : Char) : Option Char :=
  if c = '"' ∨ c = '\\' ∨ c = '/' then some c
  else if c = 'b' then some (Char.ofNat 8)
  else if c = 'f' then some (Char.ofNat 12)
  else if c = 'n' then some '\n'
  else if c = 'r' then some '\r'
  else if c = 't' then some '\t'
  else none

namespace Reader

def read (r : Reader) (c : Char) : Reader := { phase := .text, chars := r.chars ++ [c] }

def readUnit (r : Reader) (value : Nat) : Option Reader :=
  if 0xD800 ≤ value ∧ value < 0xDC00 then some { r with phase := .high value }
  else if 0xDC00 ≤ value ∧ value < 0xE000 then none
  else some (r.read (Char.ofNat value))

def readLow (r : Reader) (surrogate value : Nat) : Option Reader :=
  if 0xDC00 ≤ value ∧ value < 0xE000 then
    some (r.read (Char.ofNat (0x10000 + (surrogate - 0xD800) * 0x400 + (value - 0xDC00))))
  else none

def step (r : Reader) (c : Char) : Option Reader :=
  match r.phase with
  | .before => if c = '"' then some { r with phase := .text } else none
  | .text =>
    if c = '"' then some { r with phase := .after }
    else if c = '\\' then some { r with phase := .escape }
    else if c.toNat < 0x20 then none
    else some (r.read c)
  | .escape =>
    if c = 'u' then some { r with phase := .unit 0 0 } else (shortEscape c).map r.read
  | .unit digits value =>
    (hexValue c).bind fun digit =>
      if digits < 3 then some { r with phase := .unit (digits + 1) (value * 16 + digit) }
      else r.readUnit (value * 16 + digit)
  | .high surrogate => if c = '\\' then some { r with phase := .highEscape surrogate } else none
  | .highEscape surrogate => if c = 'u' then some { r with phase := .low surrogate 0 0 } else none
  | .low surrogate digits value =>
    (hexValue c).bind fun digit =>
      if digits < 3 then some { r with phase := .low surrogate (digits + 1) (value * 16 + digit) }
      else r.readLow surrogate (value * 16 + digit)
  | .after => none

end Reader

def read (chars : List Char) : Option (List Char) :=
  (chars.foldlM Reader.step { phase := .before, chars := [] }).bind fun r =>
    if r.phase = .after then some r.chars else none

/-- The text of the JSON string that the bytes are in UTF-8. -/
def decode (bytes : List UInt8) : Option (List Char) := (Utf8.decode bytes).bind read

theorem step_zero (r : Reader) : r.step (Char.ofNat 0) = none := by
  have digit : hexValue (Char.ofNat 0) = none := by decide
  have short : shortEscape (Char.ofNat 0) = none := by decide
  unfold Reader.step
  split <;> simp [digit, short]

def Reads (source : List Char) (c : Char) : Prop :=
  ∀ before, source.foldlM Reader.step { phase := .text, chars := before } =
    some { phase := .text, chars := before ++ [c] }

theorem reads_plain {c : Char} (quote : c ≠ '"') (backslash : c ≠ '\\') (plain : ¬ c.toNat < 0x20) :
    Reads [c] c := by
  intro before
  simp [Reader.step, Reader.read, quote, backslash, plain]

theorem reads_short {c : Char} {source : Char} (unit : source ≠ 'u')
    (short : shortEscape source = some c) : Reads ['\\', source] c := by
  intro before
  simp [Reader.step, Reader.read, unit, short]

theorem reads_unit {first second third fourth : Char} {a b c d : Nat}
    (digits : hexValue first = some a ∧ hexValue second = some b ∧ hexValue third = some c ∧
      hexValue fourth = some d)
    (plain : ¬ (0xD800 ≤ ((a * 16 + b) * 16 + c) * 16 + d ∧ ((a * 16 + b) * 16 + c) * 16 + d < 0xE000)) :
    Reads ['\\', 'u', first, second, third, fourth] (Char.ofNat (((a * 16 + b) * 16 + c) * 16 + d)) := by
  intro before
  obtain ⟨one, two, three, four⟩ := digits
  have notHigh : ¬ (0xD800 ≤ ((a * 16 + b) * 16 + c) * 16 + d ∧
      ((a * 16 + b) * 16 + c) * 16 + d < 0xDC00) := by omega
  have notLow : ¬ (0xDC00 ≤ ((a * 16 + b) * 16 + c) * 16 + d ∧
      ((a * 16 + b) * 16 + c) * 16 + d < 0xE000) := by omega
  simp [Reader.step, Reader.readUnit, Reader.read, one, two, three, four, notHigh, notLow]

theorem reads_parts {A : Type} (source : A → List Char) (char : A → Char)
    (reads : ∀ a, Reads (source a) (char a)) (parts : List A) (before : List Char) :
    (parts.flatMap source).foldlM Reader.step { phase := .text, chars := before } =
      some { phase := .text, chars := before ++ parts.map char } := by
  induction parts generalizing before with
  | nil => simp
  | cons a rest ih =>
    rw [List.flatMap_cons, List.foldlM_append, reads a before]
    simp [ih]

theorem read_quoted {A : Type} (source : A → List Char) (char : A → Char)
    (reads : ∀ a, Reads (source a) (char a)) (parts : List A) :
    read (['"'] ++ parts.flatMap source ++ ['"']) = some (parts.map char) := by
  have inside := reads_parts source char reads parts []
  simp [read, List.foldlM_append, Reader.step, inside]

end JsonString
