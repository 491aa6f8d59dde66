import Mathlib.Data.List.TakeWhile
import Mathlib.Data.Vector.Basic

/-!
Fixed character arrays that hold text up to a zero byte. The bytes after the
terminator stay in the array: two arrays may differ and hold the same text.
-/
namespace CString
variable {max : Nat}

/-- A C array `char[max + 1]`. -/
abbrev CharArray (max : Nat) := Vector UInt8 (max + 1)

def text (value : CharArray max) : List UInt8 := value.toList.takeWhile (· != 0)

/-- The number of bytes before the terminator, `max + 1` where there is none. -/
def boundedStrlen (value : CharArray max) : Nat := (text value).length

def fieldValid (value : CharArray max) : Bool := decide (boundedStrlen value ≤ max)

def isBlank (value : CharArray max) : Bool := value[0] == 0

def fieldPresent (value : CharArray max) : Bool := fieldValid value && !isBlank value

def ascii (s : String) : List UInt8 := s.toList.map fun c => UInt8.ofNat c.toNat

def zeroed : CharArray max := Vector.replicate (max + 1) 0

def ofText (max : Nat) (bytes : List UInt8) : CharArray max :=
  Vector.ofFn fun i => bytes.getD i 0

/-- `strlcpy` between arrays of one size: the bytes after the new terminator stay. -/
def strlcpy (target source : CharArray max) : CharArray max :=
  let length := min (boundedStrlen source) max
  Vector.ofFn fun i => if i < length then source[i] else if i = length then 0 else target[i]

theorem length_text_le (value : CharArray max) : (text value).length ≤ max + 1 := by
  have shorter := (List.takeWhile_sublist (l := value.toList) (· != 0)).length_le
  rwa [Vector.length_toList] at shorter

theorem text_eq_of {value : CharArray max} {bytes : List UInt8} (room : bytes.length ≤ max)
    (nonzero : (0 : UInt8) ∉ bytes)
    (same : ∀ i (h : i < bytes.length), value[i] = bytes[i])
    (stop : value[bytes.length] = 0) : text value = bytes := by
  have split : value.toList = bytes ++ 0 :: value.toList.drop (bytes.length + 1) := by
    apply List.ext_getElem
    · simp only [Vector.length_toList, List.length_append, List.length_cons, List.length_drop]
      omega
    · intro i hi hj
      rw [Vector.getElem_toList]
      rcases Nat.lt_trichotomy i bytes.length with before | at_end | after
      · rw [List.getElem_append_left before]
        exact same i before
      · subst i
        simpa using stop
      · rw [List.getElem_append_right (by omega), List.getElem_cons]
        have later : i - bytes.length ≠ 0 := by omega
        simp only [later, ↓reduceDIte, List.getElem_drop, Vector.getElem_toList]
        congr 1
        omega
  have all : ∀ b ∈ bytes, (b != 0) = true := by
    intro b member
    simp only [bne_iff_ne]
    intro zero
    exact nonzero (zero ▸ member)
  rw [text, split, List.takeWhile_append_of_pos all]
  simp

theorem text_nonzero (value : CharArray max) : (0 : UInt8) ∉ text value := by
  intro member
  have kept := List.mem_takeWhile_imp member
  simp at kept

theorem text_getElem (value : CharArray max) (i : Nat) (h : i < (text value).length)
    (inside : i < max + 1) : (text value)[i] = value[i] := by
  have starts := List.takeWhile_prefix (l := value.toList) (· != 0)
  have same := starts.getElem h
  rw [← Vector.getElem_toList]
  exact same

theorem text_terminated (value : CharArray max) (short : (text value).length < max + 1) :
    value[(text value).length] = 0 := by
  have split : text value ++ value.toList.dropWhile (· != 0) = value.toList :=
    List.takeWhile_append_dropWhile
  cases rest : value.toList.dropWhile (· != 0) with
  | nil =>
    have length := congrArg List.length split
    rw [rest, List.append_nil, Vector.length_toList] at length
    omega
  | cons b bytes =>
    have stops := List.head?_dropWhile_not (· != (0 : UInt8)) value.toList
    rw [rest] at stops split
    have placed : value.toList[(text value).length]? = some b := by
      rw [← split, List.getElem?_append_right (Nat.le_refl _)]
      simp
    have zero : b = 0 := by simpa using stops
    simpa [zero, short] using placed

theorem isBlank_iff (value : CharArray max) : isBlank value = true ↔ text value = [] := by
  have first : value.toList[0]? = some value[0] := by
    simp
  unfold isBlank text
  cases bytes : value.toList with
  | nil => simp [bytes] at first
  | cons b rest =>
    rw [bytes] at first
    simp only [List.getElem?_cons_zero, Option.some.injEq] at first
    rw [List.takeWhile_cons, ← first]
    by_cases zero : b = 0
    · simp [zero]
    · simp [zero]

theorem text_ofText {bytes : List UInt8} (room : bytes.length ≤ max)
    (nonzero : (0 : UInt8) ∉ bytes) : text (ofText max bytes) = bytes := by
  apply text_eq_of room nonzero
  · intro i h
    simp [ofText, h]
  · simp [ofText]

theorem text_zeroed : text (zeroed : CharArray max) = [] := by
  simp [text, zeroed]

theorem fieldValid_ofText {bytes : List UInt8} (room : bytes.length ≤ max)
    (nonzero : (0 : UInt8) ∉ bytes) : fieldValid (ofText max bytes) = true := by
  simpa [fieldValid, boundedStrlen, text_ofText room nonzero] using room

theorem fieldPresent_ofText {bytes : List UInt8} (some : bytes ≠ []) (room : bytes.length ≤ max)
    (nonzero : (0 : UInt8) ∉ bytes) : fieldPresent (ofText max bytes) = true := by
  have filled : isBlank (ofText max bytes) = false := by
    rw [Bool.eq_false_iff]
    intro empty
    rw [isBlank_iff, text_ofText room nonzero] at empty
    exact some empty
  simp [fieldPresent, fieldValid_ofText room nonzero, filled]

theorem text_strlcpy (target : CharArray max) {source : CharArray max} (valid : fieldValid source) :
    text (strlcpy target source) = text source := by
  have short : boundedStrlen source ≤ max := by simpa [fieldValid] using valid
  apply text_eq_of short (text_nonzero source)
  · intro i h
    rw [text_getElem source i h (by simp only [boundedStrlen] at short; omega)]
    simp only [strlcpy, Vector.getElem_ofFn]
    have below : i < min (boundedStrlen source) max := by
      simp only [boundedStrlen] at short ⊢
      omega
    simp [below]
  · have exact_length : min (boundedStrlen source) max = (text source).length := by
      simp only [boundedStrlen] at short ⊢
      omega
    simp [strlcpy, exact_length]

theorem fieldValid_strlcpy (target : CharArray max) {source : CharArray max}
    (valid : fieldValid source) : fieldValid (strlcpy target source) = true := by
  unfold fieldValid boundedStrlen
  rw [text_strlcpy target valid]
  exact valid

theorem terminated_inj {first second rest rest' : List UInt8} (clean : 0 ∉ first) (clean' : 0 ∉ second)
    (same : first ++ 0 :: rest = second ++ 0 :: rest') : first = second ∧ rest = rest' := by
  induction first generalizing second with
  | nil =>
    cases second with
    | nil => exact ⟨rfl, (List.cons.inj same).2⟩
    | cons b second =>
      obtain ⟨rfl, -⟩ := List.cons.inj same
      exact absurd List.mem_cons_self clean'
  | cons a first ih =>
    cases second with
    | nil =>
      obtain ⟨rfl, -⟩ := List.cons.inj same
      exact absurd List.mem_cons_self clean
    | cons b second =>
      obtain ⟨rfl, later⟩ := List.cons.inj same
      obtain ⟨rfl, rest_⟩ := ih (fun member => clean (List.mem_cons_of_mem _ member))
        (fun member => clean' (List.mem_cons_of_mem _ member)) later
      exact ⟨rfl, rest_⟩

theorem text_append_inj {v w : CharArray max} {rest rest' : List UInt8}
    (same : text v ++ 0 :: rest = text w ++ 0 :: rest') : text v = text w ∧ rest = rest' :=
  terminated_inj (text_nonzero v) (text_nonzero w) same

theorem prefix_set {α : Type} {done list : List α} (starts : done <+: list)
    (room : done.length < list.length) (next : α) :
    done ++ [next] <+: list.set done.length next := by
  obtain ⟨tail, rfl⟩ := starts
  cases tail with
  | nil => simp at room
  | cons first rest =>
    refine ⟨rest, ?_⟩
    rw [List.set_append_right _ _ (Nat.le_refl _), Nat.sub_self, List.set_cons_zero,
      List.append_assoc]
    rfl

end CString
