import IosAncs.Foundation.Decimal
import IosAncs.Foundation.JsonString

/-!
JSON read one character at a time. A text is one value and nothing else: one of the three words;
a whole number, with no zero before other digits; a string without control characters, its
surrogates escaped in pairs; or an object, whose members may repeat a name and are kept in their
order. Blank space, arrays, fractions and exponents are JSON too and are not read.
-/
namespace Json

inductive Value where
  | null
  | bool (value : Bool)
  | number (value : Int)
  | string (text : List Char)
  | object (members : List (List Char × Value))

structure Frame where
  members : List (List Char × Value)
  name : List Char

inductive Phase where
  | value
  | word (rest : List Char) (value : Value)
  | minus
  | digits (negative : Bool) (value : Nat)
  | text (inside : JsonString.Reader)
  | opened
  | comma
  | name (inside : JsonString.Reader)
  | colon
  | after (value : Value)

structure Reader where
  stack : List Frame
  phase : Phase

def digitValue (c : Char) : Option Nat :=
  if '0' ≤ c ∧ c ≤ '9' then some (c.toNat - '0'.toNat) else none

/-- The value that has been read; a number ends with the character after it. -/
def Phase.ended : Phase → Option Value
  | .after v => some v
  | .digits negative n => some (.number (if negative then -(n : Int) else n))
  | _ => none

namespace Reader

def next (stack : List Frame) (v : Value) (c : Char) : Option Reader :=
  match stack with
  | [] => none
  | frame :: rest =>
    let members := frame.members ++ [(frame.name, v)]
    if c = ',' then some { stack := { members, name := [] } :: rest, phase := .comma }
    else if c = '}' then some { stack := rest, phase := .after (.object members) }
    else none

def start (stack : List Frame) (c : Char) : Option Reader :=
  if c = '{' then some { stack := { members := [], name := [] } :: stack, phase := .opened }
  else if c = '"' then some { stack, phase := .text { phase := .text, chars := [] } }
  else if c = 't' then some { stack, phase := .word ['r', 'u', 'e'] (.bool true) }
  else if c = 'f' then some { stack, phase := .word ['a', 'l', 's', 'e'] (.bool false) }
  else if c = 'n' then some { stack, phase := .word ['u', 'l', 'l'] .null }
  else if c = '-' then some { stack, phase := .minus }
  else (digitValue c).map fun digit => { stack, phase := .digits false digit }

def step (r : Reader) (c : Char) : Option Reader :=
  match r.phase with
  | .value => start r.stack c
  | .word [] _ => none
  | .word (expected :: rest) v =>
    if c = expected then some { r with phase := if rest.isEmpty then .after v else .word rest v }
    else none
  | .minus => (digitValue c).map fun digit => { r with phase := .digits true digit }
  | .digits negative value =>
    match digitValue c with
    -- no digit follows a leading zero
    | some digit => if value = 0 then none
        else some { r with phase := .digits negative (10 * value + digit) }
    | none => next r.stack (.number (if negative then -(value : Int) else value)) c
  | .text inside =>
    (inside.step c).map fun inside =>
      { r with phase := if inside.phase = .after then .after (.string inside.chars) else .text inside }
  | .opened =>
    if c = '"' then some { r with phase := .name { phase := .text, chars := [] } }
    else if c = '}' then
      match r.stack with
      | [] => none
      | _ :: rest => some { stack := rest, phase := .after (.object []) }
    else none
  | .comma => if c = '"' then some { r with phase := .name { phase := .text, chars := [] } } else none
  | .name inside =>
    (inside.step c).bind fun inside =>
      match r.stack with
      | [] => none
      | frame :: rest =>
        if inside.phase = .after then
          some { stack := { frame with name := inside.chars } :: rest, phase := .colon }
        else some { r with phase := .name inside }
  | .colon => if c = ':' then some { r with phase := .value } else none
  | .after v => next r.stack v c

end Reader

/-- The value of a JSON text. -/
def read (chars : List Char) : Option Value :=
  (chars.foldlM Reader.step { stack := [], phase := .value }).bind fun r =>
    if r.stack = [] then r.phase.ended else none

/-- The value of the JSON text that the bytes are in UTF-8. -/
def decode (bytes : List UInt8) : Option Value := (Utf8.decode bytes).bind read

/-- Wherever a value may stand, these characters are read as it. -/
def Spells (text : List Char) (v : Value) : Prop :=
  ∀ stack, ∃ phase : Phase, text.foldlM Reader.step { stack, phase := .value } = some { stack, phase } ∧
    phase.ended = some v

theorem reads_append {r next : Reader} {first : List Char} (reads : first.foldlM Reader.step r = some next)
    (last : List Char) : (first ++ last).foldlM Reader.step r = last.foldlM Reader.step next := by
  rw [List.foldlM_append, reads]
  rfl

theorem reads_cons {r next : Reader} {c : Char} (step : r.step c = some next) (rest : List Char) :
    (c :: rest).foldlM Reader.step r = rest.foldlM Reader.step next := by
  rw [List.foldlM_cons, step]
  rfl

theorem decode_of_spells {text : List Char} {v : Value} (spells : Spells text v) :
    decode (Utf8.encode text) = some v := by
  obtain ⟨phase, reads, ended⟩ := spells []
  rw [decode, Utf8.decode_encode]
  simp [read, reads, ended]

theorem spells_null : Spells "null".toList .null := fun _ => ⟨_, rfl, rfl⟩

theorem spells_bool (value : Bool) :
    Spells (if value then "true".toList else "false".toList) (.bool value) := by
  cases value
  · exact fun _ => ⟨_, rfl, rfl⟩
  · exact fun _ => ⟨_, rfl, rfl⟩

theorem digitValue_digitChar {n : Nat} (small : n < 10) : digitValue n.digitChar = some n := by
  have all : ∀ n < 10, digitValue n.digitChar = some n := by decide
  exact all n small

def Numeric (phase : Phase) (negative : Bool) : Prop :=
  ∀ stack, ∀ n < 10, Reader.step { stack, phase } n.digitChar =
    some { stack, phase := .digits negative n }

theorem numeric_value : Numeric .value false := by
  intro stack n small
  have digit := digitValue_digitChar small
  have letter : n ≠ 15 := by omega
  simp [Reader.step, Reader.start, digit, letter]

theorem numeric_minus : Numeric .minus true := by
  intro stack n small
  simp [Reader.step, digitValue_digitChar small]

theorem reads_digits {phase : Phase} {negative : Bool} (numeric : Numeric phase negative)
    (stack : List Frame) (n : Nat) :
    (Decimal.digits n).foldlM Reader.step { stack, phase } =
      some { stack, phase := .digits negative n } := by
  induction n using Nat.strongRecOn with
  | ind n ih =>
    by_cases small : n < 10
    · rw [Decimal.digits_small small, List.foldlM_cons, numeric stack n small]
      rfl
    · have large := Nat.not_lt.mp small
      have before := ih (n / 10) (Nat.div_lt_self (by omega) (by decide))
      have digit := digitValue_digitChar (Nat.mod_lt n (show 0 < 10 by decide))
      have tens : ¬n / 10 = 0 := by omega
      have whole : 10 * (n / 10) + n % 10 = n := Nat.div_add_mod n 10
      rw [Decimal.digits_large large, List.foldlM_append, before]
      simp [Reader.step, digit, tens, whole]

theorem spells_number (z : Int) : Spells (Decimal.integer z) (.number z) := by
  intro stack
  unfold Decimal.integer
  split
  · next negative =>
    have minus : Reader.step { stack, phase := .value } '-' = some { stack, phase := .minus } := rfl
    have whole : -(z.natAbs : Int) = z := by omega
    rw [reads_cons minus]
    exact ⟨_, reads_digits numeric_minus stack z.natAbs, congrArg (some ∘ Value.number) whole⟩
  · next positive =>
    have whole : (z.natAbs : Int) = z := by omega
    exact ⟨_, reads_digits numeric_value stack z.natAbs, congrArg (some ∘ Value.number) whole⟩

theorem spells_natural (n : Nat) : Spells (Decimal.digits n) (.number n) :=
  fun stack => ⟨_, reads_digits numeric_value stack n, rfl⟩

theorem reads_inside {chars : List Char} {inside inside' : JsonString.Reader}
    (reads : chars.foldlM JsonString.Reader.step inside = some inside')
    (goes_on : inside'.phase ≠ .after) (stack : List Frame) :
    chars.foldlM Reader.step { stack, phase := .text inside } =
      some { stack, phase := .text inside' } := by
  induction chars generalizing inside with
  | nil =>
    cases reads
    rfl
  | cons c rest ih =>
    rw [List.foldlM_cons] at reads ⊢
    obtain ⟨next, first, others⟩ := Option.bind_eq_some_iff.mp reads
    have open_ : next.phase ≠ .after := by
      intro ended
      cases rest with
      | nil =>
        cases others
        exact goes_on ended
      | cons d rest => simp [JsonString.Reader.step, ended] at others
    have step : Reader.step { stack, phase := .text inside } c = some { stack, phase := .text next } := by
      simp [Reader.step, first, open_]
    rw [step]
    exact ih others

theorem spells_string {A : Type} (source : A → List Char) (char : A → Char)
    (reads : ∀ a, JsonString.Reads (source a) (char a)) (parts : List A) :
    Spells (['"'] ++ parts.flatMap source ++ ['"']) (.string (parts.map char)) := by
  intro stack
  have opened : Reader.step { stack, phase := .value } '"' =
      some { stack, phase := .text { phase := .text, chars := [] } } := rfl
  have inside := reads_inside (JsonString.reads_parts source char reads parts []) (by simp) stack
  refine ⟨.after (.string (parts.map char)), ?_, rfl⟩
  rw [List.singleton_append, List.cons_append, reads_cons opened, reads_append inside]
  rfl

def Plain (name : List Char) : Prop := ∀ c ∈ name, c ≠ '"' ∧ c ≠ '\\' ∧ ¬c.toNat < 0x20

instance (name : List Char) : Decidable (Plain name) :=
  List.decidableBAll _ name

theorem reads_plain {name : List Char} (plain : Plain name) (before : List Char) :
    name.foldlM JsonString.Reader.step { phase := .text, chars := before } =
      some { phase := .text, chars := before ++ name } := by
  induction name generalizing before with
  | nil => simp
  | cons c rest ih =>
    obtain ⟨⟨quote, backslash, control⟩, others⟩ := List.forall_mem_cons.mp plain
    have first := JsonString.reads_plain quote backslash control before
    rw [← List.singleton_append, List.foldlM_append, first]
    simpa using ih others (before ++ [c])

theorem spells_plain {text : List Char} (plain : Plain text) :
    Spells ('"' :: text ++ ['"']) (.string text) := by
  intro stack
  have opened : Reader.step { stack, phase := .value } '"' =
      some { stack, phase := .text { phase := .text, chars := [] } } := rfl
  have inside := reads_inside (reads_plain plain []) (by simp) stack
  refine ⟨.after (.string text), ?_, rfl⟩
  rw [List.cons_append, reads_cons opened, reads_append inside]
  rfl

structure Member where
  name : List Char
  text : List Char
  value : Value

namespace Member

def pair (m : Member) : List Char × Value := (m.name, m.value)

def head (name : List Char) : List Char := '"' :: name ++ ['"', ':']

structure Spelled (m : Member) : Prop where
  plain : Plain m.name
  spells : Spells m.text m.value

def joined : List Member → List Char
  | [] => []
  | [m] => head m.name ++ m.text
  | m :: rest => head m.name ++ m.text ++ ',' :: joined rest

theorem joined_append {first last : List Member} (some_ : first ≠ []) (more : last ≠ []) :
    joined (first ++ last) = joined first ++ ',' :: joined last := by
  induction first with
  | nil => exact absurd rfl some_
  | cons m rest ih =>
    cases rest with
    | nil =>
      obtain ⟨n, others, rfl⟩ := List.exists_cons_of_ne_nil more
      rfl
    | cons n others =>
      have whole : joined (m :: n :: others) = head m.name ++ m.text ++ ',' :: joined (n :: others) :=
        rfl
      calc joined (m :: n :: others ++ last)
          = head m.name ++ m.text ++ ',' :: joined (n :: others ++ last) := rfl
        _ = joined (m :: n :: others) ++ ',' :: joined last := by
          rw [ih (List.cons_ne_nil _ _), whole]
          simp only [List.append_assoc, List.cons_append]

def later (m : Member) : List Char := ',' :: (head m.name ++ m.text)

theorem joined_cons (m : Member) (rest : List Member) :
    joined (m :: rest) = head m.name ++ m.text ++ rest.flatMap later := by
  induction rest generalizing m with
  | nil => simp [joined]
  | cons n rest ih =>
    have whole : joined (m :: n :: rest) = head m.name ++ m.text ++ ',' :: joined (n :: rest) := rfl
    rw [whole, ih n, List.flatMap_cons, later, List.cons_append]

theorem joined_later {members : List Member} (some_ : members ≠ []) (more : List Member) :
    joined (members ++ more) = joined members ++ more.flatMap later := by
  cases members with
  | nil => exact absurd rfl some_
  | cons m rest =>
    rw [List.cons_append, joined_cons, joined_cons, List.flatMap_append]
    simp only [List.append_assoc]

end Member

def BeforeName (phase : Phase) : Prop :=
  ∀ stack, Reader.step { stack, phase } '"' =
    some { stack, phase := .name { phase := .text, chars := [] } }

theorem reads_name {chars : List Char} {inside inside' : JsonString.Reader}
    (reads : chars.foldlM JsonString.Reader.step inside = some inside')
    (goes_on : inside'.phase ≠ .after) (frame : Frame) (rest : List Frame) :
    chars.foldlM Reader.step { stack := frame :: rest, phase := .name inside } =
      some { stack := frame :: rest, phase := .name inside' } := by
  induction chars generalizing inside with
  | nil =>
    cases reads
    rfl
  | cons c chars ih =>
    rw [List.foldlM_cons] at reads ⊢
    obtain ⟨next, first, others⟩ := Option.bind_eq_some_iff.mp reads
    have open_ : next.phase ≠ .after := by
      intro ended
      cases chars with
      | nil =>
        cases others
        exact goes_on ended
      | cons d chars => simp [JsonString.Reader.step, ended] at others
    have step : Reader.step { stack := frame :: rest, phase := .name inside } c =
        some { stack := frame :: rest, phase := .name next } := by
      simp [Reader.step, first, open_]
    rw [step]
    exact ih others

theorem reads_head {phase : Phase} (before : BeforeName phase) {name : List Char} (plain : Plain name)
    (frame : Frame) (rest : List Frame) :
    (Member.head name).foldlM Reader.step { stack := frame :: rest, phase } =
      some { stack := { frame with name } :: rest, phase := .value } := by
  have inside := reads_name (reads_plain plain []) (by simp) frame rest
  rw [Member.head, List.cons_append, reads_cons (before _), reads_append inside]
  rfl

theorem step_ended {phase : Phase} {v : Value} (ended : phase.ended = some v) {c : Char}
    (no_digit : digitValue c = none) (stack : List Frame) :
    Reader.step { stack, phase } c = Reader.next stack v c := by
  unfold Phase.ended at ended
  split at ended
  · cases ended
    rfl
  · cases ended
    simp [Reader.step, no_digit]
  · cases ended

theorem reads_joined {members : List Member} (some_ : members ≠ [])
    (spelled : ∀ m ∈ members, m.Spelled) {phase : Phase} (before : BeforeName phase) (frame : Frame)
    (rest : List Frame) :
    (Member.joined members ++ ['}']).foldlM Reader.step { stack := frame :: rest, phase } =
      some { stack := rest, phase := .after (.object (frame.members ++ members.map Member.pair)) } := by
  induction members generalizing phase frame with
  | nil => exact absurd rfl some_
  | cons m others ih =>
    obtain ⟨first, later⟩ := List.forall_mem_cons.mp spelled
    obtain ⟨ended, reads, value⟩ := first.spells ({ frame with name := m.name } :: rest)
    have head := reads_head before first.plain frame rest
    cases others with
    | nil =>
      rw [Member.joined, List.append_assoc, reads_append head, reads_append reads]
      simp [step_ended value (show digitValue '}' = none by decide), Reader.next, Member.pair]
    | cons n others =>
      have comma : BeforeName .comma := fun _ => rfl
      have more := ih (List.cons_ne_nil _ _) later comma
        { members := frame.members ++ [(m.name, m.value)], name := [] }
      have separator : Reader.step { stack := { frame with name := m.name } :: rest, phase := ended } ',' =
          some { stack := { members := frame.members ++ [(m.name, m.value)], name := [] } :: rest
                 phase := .comma } := by
        rw [step_ended value (by decide)]
        rfl
      have cut : Member.joined (m :: n :: others) ++ ['}'] =
          Member.head m.name ++ (m.text ++ ',' :: (Member.joined (n :: others) ++ ['}'])) := by
        simp [Member.joined]
      rw [cut, reads_append head, reads_append reads, reads_cons separator, more]
      simp [Member.pair]

/-- An object is read as its members. -/
theorem spells_object {members : List Member} (some_ : members ≠ [])
    (spelled : ∀ m ∈ members, m.Spelled) :
    Spells ('{' :: Member.joined members ++ ['}']) (.object (members.map Member.pair)) := by
  intro stack
  have opened : BeforeName .opened := fun _ => rfl
  have start : Reader.step { stack, phase := .value } '{' =
      some { stack := { members := [], name := [] } :: stack, phase := .opened } := rfl
  have inside := reads_joined some_ spelled opened { members := [], name := [] } stack
  refine ⟨.after (.object (members.map Member.pair)), ?_, rfl⟩
  rw [List.cons_append, reads_cons start]
  exact inside

/-- The characters that a word still needs are no zeroes. -/
def Phase.Sane : Phase → Prop
  | .word rest _ => Char.ofNat 0 ∉ rest
  | _ => True

theorem sane_start {stack : List Frame} {c : Char} {r : Reader} (start : Reader.start stack c = some r) :
    r.phase.Sane := by
  unfold Reader.start at start
  repeat' split at start
  case isFalse =>
    obtain ⟨_, _, rfl⟩ := Option.map_eq_some_iff.mp start
    trivial
  all_goals
    cases start
    simp [Phase.Sane]

theorem sane_next {stack : List Frame} {v : Value} {c : Char} {r : Reader} (next : Reader.next stack v c = some r) :
    r.phase.Sane := by
  unfold Reader.next at next
  split at next
  · cases next
  · dsimp only at next
    split at next
    · cases next
      trivial
    · split at next
      · cases next
        trivial
      · cases next

theorem sane_step {stack : List Frame} {phase : Phase} {r : Reader} {c : Char} (sane : phase.Sane)
    (step : Reader.step { stack, phase } c = some r) : r.phase.Sane := by
  cases phase with
  | value => exact sane_start step
  | word rest v =>
    cases rest with
    | nil => cases step
    | cons expected rest =>
      simp only [Reader.step, Option.ite_none_right_eq_some, Option.some.injEq] at step
      obtain ⟨_, rfl⟩ := step
      dsimp only
      split
      · trivial
      · exact fun zero => sane (List.mem_cons_of_mem _ zero)
  | minus =>
    obtain ⟨_, _, rfl⟩ := Option.map_eq_some_iff.mp step
    trivial
  | digits negative n =>
    simp only [Reader.step] at step
    split at step
    · simp only [Option.ite_none_left_eq_some, Option.some.injEq] at step
      obtain ⟨_, rfl⟩ := step
      trivial
    · exact sane_next step
  | text inside =>
    obtain ⟨_, _, rfl⟩ := Option.map_eq_some_iff.mp step
    dsimp only
    split <;> trivial
  | opened =>
    simp only [Reader.step] at step
    split at step
    · cases step
      trivial
    · split at step
      · cases stack with
        | nil => cases step
        | cons frame rest =>
          cases step
          trivial
      · cases step
  | comma =>
    simp only [Reader.step, Option.ite_none_right_eq_some, Option.some.injEq] at step
    obtain ⟨_, rfl⟩ := step
    trivial
  | name inside =>
    obtain ⟨next, _, others⟩ := Option.bind_eq_some_iff.mp step
    cases stack with
    | nil => cases others
    | cons frame rest =>
      dsimp only at others
      split at others
      all_goals
        cases others
        trivial
  | colon =>
    simp only [Reader.step, Option.ite_none_right_eq_some, Option.some.injEq] at step
    obtain ⟨_, rfl⟩ := step
    trivial
  | after v => exact sane_next step

theorem step_zero {stack : List Frame} {phase : Phase} (sane : phase.Sane) :
    Reader.step { stack, phase } (Char.ofNat 0) = none := by
  have digit : digitValue (Char.ofNat 0) = none := by decide
  have next : ∀ stack v, Reader.next stack v (Char.ofNat 0) = none := by
    intro stack v
    cases stack <;> rfl
  cases phase with
  | word rest v =>
    cases rest with
    | nil => rfl
    | cons expected rest =>
      have differs : Char.ofNat 0 ≠ expected := fun same => sane (same ▸ List.mem_cons_self)
      simp [Reader.step, differs]
  | _ => simp [Reader.step, Reader.start, JsonString.step_zero, digit, next]

theorem nonzero_of_reads {chars : List Char} {r r' : Reader} (sane : r.phase.Sane)
    (reads : chars.foldlM Reader.step r = some r') : Char.ofNat 0 ∉ chars := by
  induction chars generalizing r with
  | nil => exact List.not_mem_nil
  | cons c rest ih =>
    rw [List.foldlM_cons] at reads
    obtain ⟨next, step, others⟩ := Option.bind_eq_some_iff.mp reads
    rw [List.mem_cons, not_or]
    refine ⟨?_, ih (sane_step sane step) others⟩
    rintro rfl
    rw [step_zero sane] at step
    cases step

theorem nonzero_of_spells {text : List Char} {v : Value} (spells : Spells text v) :
    Char.ofNat 0 ∉ text := by
  obtain ⟨_, reads, _⟩ := spells []
  have sane : Phase.value.Sane := trivial
  exact nonzero_of_reads sane reads

/-- A name that is written as it is, with a byte for each character. -/
def Named (name : List Char) : Prop := Plain name ∧ ∀ c ∈ name, c.toNat ≤ 0x7F

instance (name : List Char) : Decidable (Named name) :=
  @instDecidableAnd _ _ inferInstance (List.decidableBAll _ name)

structure Written where
  text : List Char
  value : Value
  size : Nat
  spells : Spells text value
  small : (Utf8.encode text).length ≤ size

namespace Written

def null : Written where
  text := "null".toList
  value := .null
  size := 4
  spells := spells_null
  small := by decide +kernel

def bool (value : Bool) : Written where
  text := if value then "true".toList else "false".toList
  value := .bool value
  size := 5
  spells := spells_bool value
  small := by cases value <;> decide +kernel

def number (z : Int) : Written where
  text := Decimal.integer z
  value := .number z
  size := (Decimal.integer z).length
  spells := spells_number z
  small := Nat.le_of_eq (Decimal.length_encode Decimal.integer_ascii)

theorem small_natural {n k : Nat} (some_ : 0 < k) (small : n < 10 ^ k) :
    (Utf8.encode (Decimal.digits n)).length ≤ k := by
  rw [Decimal.length_encode Decimal.digits_ascii]
  exact Decimal.length_digits some_ small

def byte (n : UInt8) : Written where
  text := Decimal.digits n.toNat
  value := .number n.toNat
  size := 3
  spells := spells_natural n.toNat
  small := small_natural (by decide) (Nat.lt_trans n.toNat_lt (by decide))

def word (n : UInt32) : Written where
  text := Decimal.digits n.toNat
  value := .number n.toNat
  size := 10
  spells := spells_natural n.toNat
  small := small_natural (by decide) (Nat.lt_trans n.toNat_lt (by decide))

def longWord (n : UInt64) : Written where
  text := Decimal.digits n.toNat
  value := .number n.toNat
  size := 20
  spells := spells_natural n.toNat
  small := small_natural (by decide) (Nat.lt_trans n.toNat_lt (by decide))

def plain (text : List Char) (named : Named text) : Written where
  text := '"' :: text ++ ['"']
  value := .string text
  size := text.length + 2
  spells := spells_plain named.1
  small := by
    have quoted : ∀ c ∈ '"' :: text ++ ['"'], c.toNat ≤ 0x7F := by
      simpa [or_imp, forall_and] using named.2
    rw [← Decimal.bytes_encode quoted]
    simp

def member (part : List Char × Written) : Member where
  name := part.1
  text := part.2.text
  value := part.2.value

def cost (part : List Char × Written) : Nat := part.1.length + 4 + part.2.size

theorem length_head {name : List Char} (named : Named name) :
    (Utf8.encode (Member.head name)).length = name.length + 3 := by
  have ascii : ∀ c ∈ Member.head name, c.toNat ≤ 0x7F := by
    simpa [Member.head, or_imp, forall_and] using named.2
  rw [← Decimal.bytes_encode ascii]
  simp [Member.head]

theorem length_joined {parts : List (List Char × Written)} (named : ∀ p ∈ parts, Named p.1) :
    (Utf8.encode (Member.joined (parts.map member))).length ≤ (parts.map cost).sum := by
  induction parts with
  | nil => exact Nat.le_refl _
  | cons part rest ih =>
    obtain ⟨first, later⟩ := List.forall_mem_cons.mp named
    have head := length_head first
    have small := part.2.small
    have others := ih later
    cases rest with
    | nil =>
      simp only [List.map_cons, List.map_nil, Member.joined, member, Utf8.encode_append,
        List.length_append, head, List.sum_cons, List.sum_nil, cost]
      omega
    | cons part' rest =>
      have comma : (Utf8.encode [',']).length = 1 := by decide
      have cut : Member.joined (List.map member (part :: part' :: rest)) =
          Member.head part.1 ++ part.2.text ++
            ([','] ++ Member.joined (List.map member (part' :: rest))) := rfl
      have sum : (List.map cost (part :: part' :: rest)).sum =
          part.1.length + 4 + part.2.size + (List.map cost (part' :: rest)).sum := List.sum_cons
      rw [cut, sum]
      simp only [Utf8.encode_append, List.length_append, head, comma]
      omega

theorem spells_members {parts : List (List Char × Written)} (some_ : parts ≠ [])
    (named : ∀ p ∈ parts, Named p.1) :
    Spells ('{' :: Member.joined (parts.map member) ++ ['}'])
      (.object (parts.map fun p => (p.1, p.2.value))) := by
  have spelled : ∀ m ∈ parts.map member, m.Spelled := by
    intro m among
    obtain ⟨part, some_, rfl⟩ := List.mem_map.mp among
    exact ⟨(named part some_).1, part.2.spells⟩
  have whole := spells_object (mt List.map_eq_nil_iff.mp some_) spelled
  rwa [List.map_map] at whole

theorem length_members {parts : List (List Char × Written)} (named : ∀ p ∈ parts, Named p.1) :
    (Utf8.encode ('{' :: Member.joined (parts.map member) ++ ['}'])).length ≤
      (parts.map cost).sum + 2 := by
  have braces : (Utf8.encode ['{']).length = 1 ∧ (Utf8.encode ['}']).length = 1 := by decide
  have inside := length_joined named
  rw [← List.singleton_append, Utf8.encode_append, Utf8.encode_append, List.length_append,
    List.length_append, braces.1, braces.2]
  omega

def object (parts : List (List Char × Written)) (some_ : parts ≠ [])
    (named : ∀ p ∈ parts, Named p.1) : Written where
  text := '{' :: Member.joined (parts.map member) ++ ['}']
  value := .object (parts.map fun p => (p.1, p.2.value))
  size := (parts.map cost).sum + 2
  spells := spells_members some_ named
  small := length_members named

end Written

end Json
