import Mathlib.Data.Vector.Basic
import Mathlib.Data.List.TakeWhile
import Mathlib.Data.Nat.ModEq

/-!
A ring that is written in turn and remembers what was written last: after every
write it holds the newest elements, as many as there is room for.
-/
namespace RecentRing
variable {α : Type} {capacity : Nat}

/-- The ring was written with the elements of `written`, the newest first. -/
structure Remembers (slots : Vector α capacity) (next count : Nat) (written : List α) : Prop where
  next : next = written.length % capacity
  count : count = min capacity written.length
  slots : ∀ i, i < min capacity written.length →
    slots[(written.length - 1 - i) % capacity]? = written[i]?

theorem remembers_nothing (slots : Vector α capacity) : Remembers slots 0 0 [] where
  next := by simp
  count := by simp
  slots := by simp

theorem remembers_written {slots : Vector α capacity} {next count : Nat} {written : List α}
    (room : 0 < capacity) (held : Remembers slots next count written) (x : α) :
    Remembers (slots.setIfInBounds (next % capacity) x) ((next % capacity + 1) % capacity)
      (if count < capacity then count + 1 else count) (x :: written) where
  next := by
    rw [held.next, Nat.mod_mod, Nat.mod_add_mod, List.length_cons]
  count := by
    rw [held.count, List.length_cons]
    split <;> omega
  slots := by
    intro i recent
    have at_next : next % capacity = written.length % capacity := by
      rw [held.next, Nat.mod_mod]
    rw [List.length_cons] at recent ⊢
    rw [at_next]
    cases i with
    | zero =>
      have inside := Nat.mod_lt written.length room
      simp [inside]
    | succ i =>
      have older : i < min capacity written.length := by omega
      have other : (written.length - 1 - i) % capacity ≠ written.length % capacity := by
        intro same
        have apart := (Nat.modEq_iff_dvd' (by omega)).mp same
        have small := Nat.le_of_dvd (by omega) apart
        omega
      rw [show written.length + 1 - 1 - (i + 1) = written.length - 1 - i by omega]
      simp only [List.getElem?_cons_succ]
      rw [← held.slots i older]
      exact Vector.getElem?_setIfInBounds_ne other.symm

theorem mem_take_iff (l : List α) (n : Nat) (x : α) :
    x ∈ l.take n ↔ ∃ i < n, l[i]? = some x := by
  rw [List.mem_iff_getElem?]
  constructor
  · intro found
    obtain ⟨i, same⟩ := found
    rw [List.getElem?_take] at same
    split at same
    · next below => exact ⟨i, below, same⟩
    · cases same
  · intro found
    obtain ⟨i, below, same⟩ := found
    refine ⟨i, ?_⟩
    rw [List.getElem?_take, if_pos below]
    exact same

/-- What is found among the slots in use is what was written last. -/
theorem mem_taken_iff {slots : Vector α capacity} {next count : Nat} {written : List α}
    (held : Remembers slots next count written) (x : α) :
    x ∈ slots.toList.take count ↔ x ∈ written.take capacity := by
  simp only [mem_take_iff, Vector.getElem?_toList]
  constructor
  · intro found
    obtain ⟨j, below, same⟩ := found
    rw [held.count] at below
    -- slot j was written j places after a multiple of the capacity
    have age : (written.length - 1 - j) % capacity < min capacity written.length := by
      have inside : (written.length - 1 - j) % capacity < capacity := Nat.mod_lt _ (by omega)
      have small := Nat.mod_le (written.length - 1 - j) capacity
      omega
    have place : (written.length - 1 - (written.length - 1 - j) % capacity) % capacity = j := by
      have split := Nat.div_add_mod (written.length - 1 - j) capacity
      have back : written.length - 1 - (written.length - 1 - j) % capacity =
          j + capacity * ((written.length - 1 - j) / capacity) := by omega
      rw [back, Nat.add_mul_mod_self_left]
      exact Nat.mod_eq_of_lt (by omega)
    have stored := held.slots _ age
    rw [place, same] at stored
    exact ⟨_, by omega, stored.symm⟩
  · intro found
    obtain ⟨i, below, same⟩ := found
    have within : i < written.length := (List.getElem?_eq_some_iff.mp same).1
    have stored := held.slots i (by omega)
    refine ⟨(written.length - 1 - i) % capacity, ?_, stored.trans same⟩
    have inside : (written.length - 1 - i) % capacity < capacity := Nat.mod_lt _ (by omega)
    have small := Nat.mod_le (written.length - 1 - i) capacity
    rw [held.count]
    omega

end RecentRing
