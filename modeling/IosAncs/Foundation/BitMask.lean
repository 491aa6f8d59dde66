import Mathlib.Data.Nat.Bitwise

/-!
Masks of single bits: sets of small numbers.
-/
namespace BitMask

def Has (mask : UInt32) (bit : UInt8) : Prop := mask &&& 1 <<< bit.toUInt32 ≠ 0

instance (mask : UInt32) (bit : UInt8) : Decidable (Has mask bit) := inferInstanceAs (Decidable (_ ≠ _))

theorem toNat_bit {bit : UInt8} (small : bit.toNat < 32) :
    ((1 : UInt32) <<< bit.toUInt32).toNat = 2 ^ bit.toNat := by
  have power : 2 ^ bit.toNat < 2 ^ 32 := Nat.pow_lt_pow_right (by decide) small
  rw [UInt32.toNat_shiftLeft, UInt8.toNat_toUInt32, Nat.mod_eq_of_lt small]
  simpa [Nat.shiftLeft_eq] using Nat.mod_eq_of_lt power

theorem has_iff {mask : UInt32} {bit : UInt8} (small : bit.toNat < 32) :
    Has mask bit ↔ mask.toNat.testBit bit.toNat = true := by
  unfold Has
  rw [ne_eq, ← UInt32.toNat_inj, UInt32.toNat_and, toNat_bit small, Nat.and_two_pow]
  cases mask.toNat.testBit bit.toNat <;> simp

theorem has_or {mask : UInt32} {new bit : UInt8} (small : bit.toNat < 32) (small' : new.toNat < 32) :
    Has (mask ||| 1 <<< new.toUInt32) bit ↔ Has mask bit ∨ bit = new := by
  rw [has_iff small, has_iff small, UInt32.toNat_or, toNat_bit small', Nat.testBit_or, Bool.or_eq_true,
    Nat.testBit_two_pow, decide_eq_true_eq, UInt8.toNat_inj]
  exact or_congr Iff.rfl eq_comm

theorem covers_iff {mask wanted : UInt32} :
    mask &&& wanted = wanted ↔ ∀ bit : UInt8, bit.toNat < 32 → Has wanted bit → Has mask bit := by
  rw [← UInt32.toNat_inj, UInt32.toNat_and]
  constructor
  · intro same bit small wants
    rw [has_iff small] at wants ⊢
    rw [← same, Nat.testBit_and, Bool.and_eq_true] at wants
    exact wants.1
  · intro covers
    apply Nat.eq_of_testBit_eq
    intro place
    rw [Nat.testBit_and]
    cases wants : wanted.toNat.testBit place with
    | false => rw [Bool.and_false]
    | true =>
      have small : place < 32 := by
        by_contra large
        have power : 2 ^ 32 ≤ 2 ^ place := Nat.pow_le_pow_right (by decide) (Nat.not_lt.mp large)
        rw [Nat.testBit_lt_two_pow (Nat.lt_of_lt_of_le wanted.toNat_lt power)] at wants
        cases wants
      have place_ : (UInt8.ofNat place).toNat = place := by
        rw [UInt8.toNat_ofNat']
        omega
      have has := covers (UInt8.ofNat place) (by omega)
      rw [has_iff (by omega), has_iff (by omega), place_] at has
      rw [has wants, Bool.and_true]

theorem has_and_low {mask low : UInt32} {count : Nat} (low_ : low.toNat = 2 ^ count - 1) {bit : UInt8}
    (small : bit.toNat < 32) : Has (mask &&& low) bit ↔ Has mask bit ∧ bit.toNat < count := by
  rw [has_iff small, has_iff small, UInt32.toNat_and, low_, Nat.testBit_and, Nat.testBit_two_pow_sub_one,
    Bool.and_eq_true, decide_eq_true_eq]

theorem not_has_zero (bit : UInt8) : ¬Has 0 bit := by
  simp [Has]

theorem exists_has {mask : UInt32} (some_ : mask ≠ 0) : ∃ bit : UInt8, bit.toNat < 32 ∧ Has mask bit := by
  by_contra none_
  push Not at none_
  apply some_
  have covers : (0 : UInt32) &&& mask = mask :=
    covers_iff.mpr fun bit small has => absurd has (none_ bit small)
  rw [← covers, UInt32.zero_and]

end BitMask
