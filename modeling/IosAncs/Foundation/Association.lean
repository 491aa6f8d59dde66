import Mathlib.Data.List.Basic

/-!
Lists of keys and values, read as mappings. Two of them that agree once a key is taken out agree
at every other key, however a value is stored under that one.
-/
namespace Association
variable {K V : Type} [BEq K] [LawfulBEq K]

theorem lookup_filter_ne (list : List (K × V)) {key other : K} (differ : other ≠ key) :
    (list.filter fun entry => entry.1 != key).lookup other = list.lookup other := by
  induction list with
  | nil => rfl
  | cons entry rest ih =>
    obtain ⟨name, value⟩ := entry
    by_cases same : name = key
    · have away : (other == name) = false := beq_eq_false_iff_ne.mpr (same ▸ differ)
      rw [List.filter_cons_of_neg (by simp [same]), ih, List.lookup_cons, away]
    · rw [List.filter_cons_of_pos (by simp [same]), List.lookup_cons, List.lookup_cons, ih]

theorem lookup_of_others {first second : List (K × V)} {key other : K}
    (same : (first.filter fun entry => entry.1 != key) = second.filter fun entry => entry.1 != key)
    (differ : other ≠ key) : first.lookup other = second.lookup other := by
  rw [← lookup_filter_ne first differ, same, lookup_filter_ne second differ]

theorem others_replace [DecidableEq K] (list : List (K × V)) (key : K) (value : V) :
    (list.map fun entry => if entry.1 = key then (key, value) else entry).filter
      (fun entry => entry.1 != key) = list.filter fun entry => entry.1 != key := by
  induction list with
  | nil => rfl
  | cons entry rest ih =>
    by_cases same : entry.1 = key
    · simp [same, ih]
    · simp [same, ih]

end Association
