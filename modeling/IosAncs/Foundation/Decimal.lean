import IosAncs.Foundation.Utf8
import Mathlib.Algebra.GroupWithZero.Nat

/-!
Numbers in decimal digits, as the conversions of `printf` write them, and how many digits
they have.
-/
namespace Decimal

/-- `%u` and its wider forms -/
def digits (n : Nat) : List Char := Nat.toDigits 10 n

/-- `%d` and its wider forms -/
def integer (z : Int) : List Char := if z < 0 then '-' :: digits z.natAbs else digits z.natAbs

def bytes (chars : List Char) : List UInt8 := chars.map fun c => UInt8.ofNat c.toNat

theorem bytes_encode {chars : List Char} (ascii : ∀ c ∈ chars, c.toNat ≤ 0x7F) :
    bytes chars = Utf8.encode chars := by
  induction chars with
  | nil => rfl
  | cons c rest ih =>
    obtain ⟨first, others⟩ := List.forall_mem_cons.mp ascii
    rw [Utf8.encode_cons, Utf8.encodeChar_one first, ← ih others]
    rfl

@[simp] theorem length_bytes (chars : List Char) : (bytes chars).length = chars.length :=
  List.length_map ..

theorem length_encode {chars : List Char} (ascii : ∀ c ∈ chars, c.toNat ≤ 0x7F) :
    (Utf8.encode chars).length = chars.length := by
  rw [← bytes_encode ascii, length_bytes]

theorem digits_small {n : Nat} (small : n < 10) : digits n = [n.digitChar] :=
  Nat.toDigits_of_lt_base small

theorem digits_large {n : Nat} (large : 10 ≤ n) : digits n = digits (n / 10) ++ [(n % 10).digitChar] :=
  Nat.toDigits_of_base_le (by decide) large

theorem digits_ascii {n : Nat} : ∀ c ∈ digits n, c.toNat ≤ 0x7F := by
  intro c member
  have digit := Nat.isDigit_of_mem_toDigits (by decide) (by decide) member
  simp only [Char.isDigit, Bool.and_eq_true, decide_eq_true_eq] at digit
  exact Nat.le_trans (UInt32.le_iff_toNat_le.mp digit.2) (by decide)

theorem integer_ascii {z : Int} : ∀ c ∈ integer z, c.toNat ≤ 0x7F := by
  unfold integer
  split
  · exact List.forall_mem_cons.mpr ⟨by decide, digits_ascii⟩
  · exact digits_ascii

theorem integer_natural (n : Nat) : integer n = digits n :=
  if_neg (Int.not_lt.mpr (Int.natCast_nonneg n))

theorem length_digits {n k : Nat} (some_ : 0 < k) (small : n < 10 ^ k) : (digits n).length ≤ k :=
  (Nat.length_toDigits_le_iff (by decide) some_).mpr small

theorem length_integer {z : Int} {k : Nat} (some_ : 0 < k) (small : z.natAbs < 10 ^ k) :
    (integer z).length ≤ k + 1 := by
  have length := length_digits some_ small
  unfold integer
  split
  · exact Nat.succ_le_succ length
  · exact Nat.le_succ_of_le length

end Decimal
