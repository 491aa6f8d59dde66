import IosAncs.Foundation.LittleEndian
import Mathlib.Logic.Function.Iterate

/-!
Cyclic redundancy checks that shift a register down, one bit of the message at a time. A
message is the number that its bytes make up, the lowest first: shifting that number down
instead gives the same register, and two messages are told apart by their difference.
-/
open LittleEndian

namespace BitwiseCrc

/-- One shift of the register -/
def step (poly register : Nat) : Nat := register / 2 ^^^ register % 2 * poly

/-- A byte goes over the low end of the register, and is shifted out. -/
def feedByte (poly register : Nat) (byte : UInt8) : Nat := (step poly)^[8] (register ^^^ byte.toNat)

def feed (poly register : Nat) (bytes : List UInt8) : Nat := bytes.foldl (feedByte poly) register

theorem add_eq_xor {low : Nat} (small : low < 2 ^ 8) (high : Nat) :
    low + 256 * high = low ^^^ 256 * high := by
  apply Nat.eq_of_testBit_eq
  intro bit
  rw [Nat.add_comm, show 256 = 2 ^ 8 from rfl, Nat.testBit_two_pow_mul_add high small,
    Nat.testBit_xor, Nat.testBit_two_pow_mul]
  split
  · next inside => simp [show ¬ 8 ≤ bit by omega]
  · next outside =>
      have above : low.testBit bit = false := Nat.testBit_lt_two_pow
        (Nat.lt_of_lt_of_le small (Nat.pow_le_pow_right (by decide) (by omega)))
      simp [above, show 8 ≤ bit by omega]

section
variable (poly : Nat)

@[simp] theorem step_zero : step poly 0 = 0 := by simp [step]

theorem step_double (register : Nat) : step poly (register * 2) = register := by simp [step]

theorem step_xor (first second : Nat) :
    step poly (first ^^^ second) = step poly first ^^^ step poly second := by
  have low : (first ^^^ second) % 2 * poly = first % 2 * poly ^^^ second % 2 * poly := by
    rw [Nat.xor_mod_two_eq]
    rcases Nat.mod_two_eq_zero_or_one first with even | odd <;>
      rcases Nat.mod_two_eq_zero_or_one second with even' | odd' <;>
        simp [Nat.add_mod, *]
  rw [step, Nat.xor_div_two, low, step, step]
  ac_rfl

theorem steps_xor (count first second : Nat) : (step poly)^[count] (first ^^^ second) =
    (step poly)^[count] first ^^^ (step poly)^[count] second := by
  induction count generalizing first second with
  | zero => rfl
  | succ count ih => rw [Function.iterate_succ_apply, step_xor, ih]; rfl

theorem steps_shifted (count register : Nat) :
    (step poly)^[count] (register * 2 ^ count) = register := by
  induction count generalizing register with
  | zero => simp
  | succ count ih =>
    rw [Function.iterate_succ_apply, pow_succ, ← Nat.mul_assoc, step_double, ih]

/-- A message is shifted through the register as if the register held all of it. -/
theorem feed_eq (register : Nat) (bytes : List UInt8) :
    feed poly register bytes = (step poly)^[8 * bytes.length] (register ^^^ value bytes) := by
  induction bytes generalizing register with
  | nil => simp [feed, value]
  | cons byte rest ih =>
    have split : register ^^^ value (byte :: rest) =
        (register ^^^ byte.toNat) ^^^ value rest * 2 ^ 8 := by
      rw [value, add_eq_xor byte.toNat_lt, Nat.xor_assoc, Nat.mul_comm 256]
      rfl
    show feed poly (feedByte poly register byte) rest = _
    rw [ih, List.length_cons, Nat.mul_add, Function.iterate_add_apply, split, steps_xor poly 8,
      steps_shifted, feedByte]

end

/-- The constant term of the polynomial is the highest bit of its word, so that a shift can be
    taken back. -/
structure Reversible (width poly : Nat) : Prop where
  small : poly < 2 ^ width
  top : poly.testBit (width - 1) = true
  wide : 0 < width

section
variable {width poly : Nat}

theorem step_lt (reversible : Reversible width poly) {register : Nat} (small : register < 2 ^ width) :
    step poly register < 2 ^ width := by
  refine Nat.xor_lt_two_pow (by omega) ?_
  rcases Nat.mod_two_eq_zero_or_one register with even | odd
  · simp [even]
  · simp [odd, reversible.small]

theorem step_pos (reversible : Reversible width poly) {register : Nat} (some_ : register ≠ 0)
    (small : register < 2 ^ width) : step poly register ≠ 0 := by
  rcases Nat.mod_two_eq_zero_or_one register with even | odd
  · simp only [step, even, Nat.zero_mul, Nat.xor_zero]
    omega
  · have double : 2 ^ width = 2 ^ (width - 1) * 2 := by
      rw [← pow_succ, Nat.sub_add_cancel reversible.wide]
    have below : (register / 2).testBit (width - 1) = false := Nat.testBit_lt_two_pow (by omega)
    intro zero
    have bit := congrArg (Nat.testBit · (width - 1)) zero
    simp [step, odd, Nat.testBit_xor, below, reversible.top] at bit

theorem steps_pos (reversible : Reversible width poly) (count : Nat) {register : Nat} (some_ : register ≠ 0)
    (small : register < 2 ^ width) : (step poly)^[count] register ≠ 0 := by
  induction count generalizing register with
  | zero => exact some_
  | succ count ih =>
    rw [Function.iterate_succ_apply]
    exact ih (step_pos reversible some_ small) (step_lt reversible small)

/-- A burst that is no wider than the register leaves something there, however much follows it. -/
theorem burst_pos (reversible : Reversible width poly) {burst : Nat} (some_ : burst ≠ 0)
    (small : burst < 2 ^ width) (place count : Nat) :
    (step poly)^[count] (burst * 2 ^ place) ≠ 0 := by
  rcases Nat.le_total place count with through | within
  · obtain ⟨later, rfl⟩ := Nat.exists_eq_add_of_le' through
    rw [Function.iterate_add_apply, steps_shifted]
    exact steps_pos reversible later some_ small
  · obtain ⟨left, rfl⟩ := Nat.exists_eq_add_of_le' within
    rw [pow_add, ← Nat.mul_assoc, steps_shifted]
    exact Nat.mul_ne_zero some_ (Nat.two_pow_pos left).ne'

theorem window_eq {difference first count : Nat}
    (window : ∀ bit, difference.testBit bit = true → first ≤ bit ∧ bit < first + count) :
    difference = difference / 2 ^ first * 2 ^ first ∧ difference / 2 ^ first < 2 ^ count := by
  constructor
  · apply Nat.eq_of_testBit_eq
    intro bit
    rw [Nat.testBit_mul_two_pow, Nat.testBit_div_two_pow]
    by_cases set_ : difference.testBit bit = true
    · have inside := (window bit set_).1
      simp [inside, Nat.sub_add_cancel inside]
    · by_cases inside : first ≤ bit
      · simp [inside, Nat.sub_add_cancel inside]
      · simpa [inside] using set_
  · apply Nat.lt_pow_two_of_testBit
    intro bit above
    rw [Nat.testBit_div_two_pow]
    by_contra set_
    have inside := (window _ (Bool.not_eq_false _ ▸ set_)).2
    omega

/-- Messages of one length that differ in a burst no wider than the register leave different
    registers behind. -/
theorem feed_ne (reversible : Reversible width poly) {bytes bytes' : List UInt8}
    (length : bytes.length = bytes'.length) (differ : bytes ≠ bytes') {first count : Nat}
    (narrow : count ≤ width)
    (window : ∀ bit, (value bytes).testBit bit ≠ (value bytes').testBit bit →
      first ≤ bit ∧ bit < first + count)
    (register : Nat) : feed poly register bytes ≠ feed poly register bytes' := by
  have different : value bytes ^^^ value bytes' ≠ 0 := by
    rw [ne_eq, Nat.xor_eq_zero_iff]
    intro same
    rw [← bytes_value bytes, ← bytes_value bytes', length, same] at differ
    exact differ rfl
  have inside : ∀ bit, (value bytes ^^^ value bytes').testBit bit = true →
      first ≤ bit ∧ bit < first + count := by
    intro bit set_
    rw [Nat.testBit_xor, bne_iff_ne] at set_
    exact window bit set_
  obtain ⟨shifted, small⟩ := window_eq inside
  generalize (value bytes ^^^ value bytes') / 2 ^ first = burst at shifted small
  have some_ : burst ≠ 0 := by
    rintro rfl
    exact different (by rw [shifted, Nat.zero_mul])
  have fits : burst < 2 ^ width :=
    Nat.lt_of_lt_of_le small (Nat.pow_le_pow_right (by decide) narrow)
  rw [feed_eq, feed_eq, ← length]
  intro same
  have nothing : (step poly)^[8 * bytes.length] (value bytes ^^^ value bytes') = 0 := by
    rw [steps_xor, steps_xor, Nat.xor_right_inj] at same
    rw [steps_xor, same, Nat.xor_self]
  rw [shifted] at nothing
  exact burst_pos reversible some_ fits first _ nothing

end

end BitwiseCrc
