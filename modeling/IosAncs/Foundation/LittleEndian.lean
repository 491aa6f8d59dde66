import Mathlib.Data.Nat.Bitwise
import Mathlib.Tactic.Ring

/-!
Numbers as bytes, the lowest first: what a loop gathers that shifts each byte to
its place.
-/
namespace LittleEndian

def bytes : Nat → Nat → List UInt8
  | 0, _ => []
  | count + 1, value => UInt8.ofNat value :: bytes count (value / 256)

def value : List UInt8 → Nat
  | [] => 0
  | byte :: rest => byte.toNat + 256 * value rest

@[simp] theorem length_bytes (count v : Nat) : (bytes count v).length = count := by
  induction count generalizing v with
  | zero => rfl
  | succ count ih => simp [bytes, ih]

theorem value_lt (list : List UInt8) : value list < 256 ^ list.length := by
  induction list with
  | nil => simp [value]
  | cons byte rest ih =>
    have small := byte.toNat_lt
    rw [value, List.length_cons, pow_succ]
    omega

theorem testBit_value (list : List UInt8) (bit : Nat) :
    (value list).testBit bit = (list.getD (bit / 8) 0).toNat.testBit (bit % 8) := by
  induction list generalizing bit with
  | nil => simp [value]
  | cons byte rest ih =>
    rw [value, show 256 = 2 ^ 8 from rfl, Nat.add_comm,
      Nat.testBit_two_pow_mul_add _ byte.toNat_lt]
    split
    · next low => rw [Nat.div_eq_of_lt low, Nat.mod_eq_of_lt low, List.getD_cons_zero]
    · next high =>
        have later : bit / 8 = (bit - 8) / 8 + 1 := by omega
        have same : bit % 8 = (bit - 8) % 8 := by omega
        rw [ih, later, same, List.getD_cons_succ]

theorem value_bytes {count v : Nat} (small : v < 256 ^ count) : value (bytes count v) = v := by
  induction count generalizing v with
  | zero => simp only [pow_zero] at small; simp only [bytes, value]; omega
  | succ count ih =>
    rw [pow_succ] at small
    have rest : v / 256 < 256 ^ count := Nat.div_lt_of_lt_mul (by omega)
    rw [bytes, value, ih rest, UInt8.toNat_ofNat']
    omega

theorem bytes_value (list : List UInt8) : bytes list.length (value list) = list := by
  induction list with
  | nil => rfl
  | cons byte rest ih =>
    have small := byte.toNat_lt
    have low : (byte.toNat + 256 * value rest) % 256 = byte.toNat := by omega
    have high : (byte.toNat + 256 * value rest) / 256 = value rest := by omega
    rw [List.length_cons, value, bytes, high, ih]
    congr 1
    rw [← UInt8.toNat_inj, UInt8.toNat_ofNat', low]

theorem bytes_inj {count v w : Nat} (small : v < 256 ^ count) (small' : w < 256 ^ count)
    (same : bytes count v = bytes count w) : v = w := by
  rw [← value_bytes small, same, value_bytes small']

theorem or_shiftLeft {gathered place : Nat} (below : gathered < 2 ^ place) (byte : Nat) :
    gathered ||| byte <<< place = gathered + byte * 2 ^ place := by
  rw [Nat.shiftLeft_eq, Nat.or_comm, Nat.mul_comm byte, ← Nat.two_pow_add_eq_or_of_lt below,
    Nat.add_comm]

theorem value_concat (list : List UInt8) (byte : UInt8) :
    value (list ++ [byte]) = value list + byte.toNat * 256 ^ list.length := by
  induction list with
  | nil => simp [value]
  | cons first rest ih =>
    rw [List.cons_append, value, ih, value, List.length_cons, pow_succ]
    ring

theorem shift_fits {list : List UInt8} {room : Nat} (fits : list.length < room) (byte : UInt8) :
    byte.toNat <<< (8 * list.length) = byte.toNat * 256 ^ list.length ∧
      byte.toNat * 256 ^ list.length < 256 ^ room := by
  constructor
  · rw [Nat.shiftLeft_eq, pow_mul]
    rfl
  · have small : byte.toNat * 256 ^ list.length < 256 * 256 ^ list.length :=
      Nat.mul_lt_mul_of_pos_right byte.toNat_lt (Nat.pow_pos (by decide))
    rw [← pow_succ'] at small
    exact Nat.lt_of_lt_of_le small (Nat.pow_le_pow_right (by decide) fits)

theorem or_shift_value (list : List UInt8) (byte : UInt8) :
    value list ||| byte.toNat <<< (8 * list.length) = value (list ++ [byte]) := by
  have below : value list < 2 ^ (8 * list.length) := by
    rw [pow_mul]
    exact value_lt list
  rw [or_shiftLeft below, value_concat, pow_mul]
  rfl

theorem gather32 {gathered place : UInt32} {list : List UInt8} (before : gathered.toNat = value list)
    (place_ : place.toNat = 8 * list.length) (room : list.length < 4) (byte : UInt8) :
    (gathered ||| byte.toUInt32 <<< place).toNat = value (list ++ [byte]) := by
  obtain ⟨shifted, small⟩ := shift_fits room byte
  have inside : 8 * list.length % 32 = 8 * list.length := by omega
  have fits : byte.toNat * 256 ^ list.length < 2 ^ 32 := small
  rw [UInt32.toNat_or, UInt32.toNat_shiftLeft, UInt8.toNat_toUInt32, place_, inside, shifted,
    Nat.mod_eq_of_lt fits, ← shifted, before, or_shift_value]

theorem gather16 {gathered place : UInt16} {list : List UInt8} (before : gathered.toNat = value list)
    (place_ : place.toNat = 8 * list.length) (room : list.length < 2) (byte : UInt8) :
    (gathered ||| byte.toUInt16 <<< place).toNat = value (list ++ [byte]) := by
  obtain ⟨shifted, small⟩ := shift_fits room byte
  have inside : 8 * list.length % 16 = 8 * list.length := by omega
  have fits : byte.toNat * 256 ^ list.length < 2 ^ 16 := small
  rw [UInt16.toNat_or, UInt16.toNat_shiftLeft, UInt8.toNat_toUInt16, place_, inside, shifted,
    Nat.mod_eq_of_lt fits, ← shifted, before, or_shift_value]

end LittleEndian
