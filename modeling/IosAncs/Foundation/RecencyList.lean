import Mathlib.Data.List.Dedup
import Mathlib.Data.List.DropRight

/-!
Lists that hold one value for a key, in the order in which the keys were used, and
what such a list says about the history of the uses.
-/
namespace RecencyList
variable {K V N : Type} [DecidableEq K]

section Keys
variable (key : V → K)

def lookup (list : List V) (k : K) : Option V := list.find? fun v => decide (key v = k)

def remove (list : List V) (k : K) : List V := list.filter fun v => decide (key v ≠ k)

/-- The value moves to the back, and the front goes if the key is new in a full list. -/
def store (capacity : Nat) (list : List V) (v : V) : List V :=
  if (lookup key list (key v)).isSome then remove key list (key v) ++ [v]
  else if list.length < capacity then list ++ [v]
  else list.tail ++ [v]

variable {key}

theorem lookup_eq_some {list : List V} (nodup : (list.map key).Nodup) {k : K} {v : V} :
    lookup key list k = some v ↔ v ∈ list ∧ key v = k := by
  constructor
  · intro found
    exact ⟨List.mem_of_find?_eq_some found, by simpa using List.find?_some found⟩
  · rintro ⟨member, rfl⟩
    cases found : lookup key list (key v) with
    | none =>
      have other := List.find?_eq_none.mp found v member
      simp at other
    | some w =>
      have same : key w = key v := by simpa using List.find?_some found
      rw [List.inj_on_of_nodup_map nodup (List.mem_of_find?_eq_some found) member same]

theorem lookup_eq_none {list : List V} {k : K} : lookup key list k = none ↔ k ∉ list.map key := by
  simp [lookup]

theorem lookup_isSome {list : List V} {k : K} :
    (lookup key list k).isSome = true ↔ k ∈ list.map key := by
  rw [← not_iff_not, ← lookup_eq_none, Bool.not_eq_true, Option.isSome_eq_false_iff,
    Option.isNone_iff_eq_none]

theorem remove_absent {list : List V} {k : K} (absent : k ∉ list.map key) :
    remove key list k = list := by
  apply List.filter_eq_self.mpr
  intro v member
  simp only [decide_eq_true_eq]
  exact fun same => absent (List.mem_map.mpr ⟨v, member, same⟩)

theorem remove_split {before after : List V} {v : V}
    (nodup : ((before ++ v :: after).map key).Nodup) :
    remove key (before ++ v :: after) (key v) = before ++ after := by
  have parts : (before.map key ++ key v :: after.map key).Nodup := by simpa using nodup
  have absent := (List.nodup_middle.mp parts)
  rw [List.nodup_cons, List.mem_append, not_or] at absent
  have first := remove_absent absent.1.1
  have last := remove_absent absent.1.2
  unfold remove at first last ⊢
  rw [List.filter_append, List.filter_cons, first, last]
  simp

theorem mem_store {capacity : Nat} {list : List V} {v w : V} (member : w ∈ store key capacity list v) :
    w = v ∨ w ∈ list ∧ key w ≠ key v := by
  have absent (new : ¬(lookup key list (key v)).isSome = true) (there : w ∈ list) : key w ≠ key v := by
    intro same
    exact new (lookup_isSome.mpr (List.mem_map.mpr ⟨w, there, same⟩))
  unfold store at member
  split_ifs at member with old room
  · rcases List.mem_append.mp member with kept | last
    · exact .inr (by simpa [remove] using kept)
    · exact .inl (List.mem_singleton.mp last)
  · rcases List.mem_append.mp member with kept | last
    · exact .inr ⟨kept, absent old kept⟩
    · exact .inl (List.mem_singleton.mp last)
  · rcases List.mem_append.mp member with kept | last
    · exact .inr ⟨List.mem_of_mem_tail kept, absent old (List.mem_of_mem_tail kept)⟩
    · exact .inl (List.mem_singleton.mp last)

theorem map_key_remove (list : List V) (k : K) :
    (remove key list k).map key = (list.map key).filter (decide <| · ≠ k) := by
  simp [remove, List.filter_map, Function.comp_def]

end Keys

inductive Use (K N : Type) where
  | stored (k : K) (n : N)
  | found (k : K)
deriving DecidableEq, Repr

namespace Use

def key : Use K N → K
  | .stored k _ => k
  | .found k => k

def gives (k : K) : Use K N → Option N
  | .stored k' n => if k' = k then some n else none
  | .found _ => none

end Use

/-- The keys that were used last, the latest at the end. -/
def recentKeys (capacity : Nat) (uses : List (Use K N)) : List K :=
  (uses.map Use.key).dedup.rtake capacity

def lastStored (uses : List (Use K N)) (k : K) : Option N := uses.reverse.findSome? (Use.gives k)

theorem dedup_concat (keys : List K) (k : K) :
    (keys ++ [k]).dedup = keys.dedup.filter (decide <| · ≠ k) ++ [k] := by
  induction keys with
  | nil => simp
  | cons first rest ih =>
    by_cases again : first ∈ rest
    · rw [List.cons_append, List.dedup_cons_of_mem (by simp [again]), ih,
        List.dedup_cons_of_mem again]
    · rw [List.dedup_cons_of_notMem again]
      by_cases same : first = k
      · rw [List.cons_append, List.dedup_cons_of_mem (by simp [same]), ih]
        simp [same]
      · rw [List.cons_append, List.dedup_cons_of_notMem (by simp [again, same]), ih]
        simp [same]

theorem lastStored_concat (uses : List (Use K N)) (use : Use K N) (k : K) :
    lastStored (uses ++ [use]) k = (use.gives k).or (lastStored uses k) := by
  simp only [lastStored, List.reverse_append, List.reverse_singleton, List.singleton_append,
    List.findSome?_cons]
  cases use.gives k <;> rfl

theorem filter_absent {keys : List K} {k : K} (absent : k ∉ keys) :
    keys.filter (decide <| · ≠ k) = keys := by
  apply List.filter_eq_self.mpr
  intro x member
  rw [decide_eq_true_eq]
  rintro rfl
  exact absent member

omit [DecidableEq K] in
theorem rtake_length {list before after : List K} {n : Nat} (split : list = before ++ after)
    (length : after.length = n) : list.rtake n = after := by
  rw [split, List.rtake, List.length_append, length, Nat.add_sub_cancel]
  exact List.drop_left

omit [DecidableEq K] in
theorem rtake_short {list : List K} {n : Nat} (short : list.length ≤ n) : list.rtake n = list := by
  rw [List.rtake, Nat.sub_eq_zero_of_le short, List.drop_zero]

/-- A key that is used goes to the end of the recent ones; one that was not among them takes the
    place of the first of them. -/
theorem recent_concat {n : Nat} {keys : List K} (nodup : keys.Nodup) (k : K) :
    (keys.filter (decide <| · ≠ k)).rtake n =
      if k ∈ keys.rtake (n + 1) then (keys.rtake (n + 1)).filter (decide <| · ≠ k)
      else if (keys.rtake (n + 1)).length < n + 1 then keys.rtake (n + 1)
      else (keys.rtake (n + 1)).tail := by
  obtain ⟨early, recent, split, taken, full⟩ : ∃ early recent, keys = early ++ recent ∧
      keys.rtake (n + 1) = recent ∧ (recent.length = n + 1 ∨ early = [] ∧ recent.length < n + 1) := by
    refine ⟨keys.take (keys.length - (n + 1)), keys.rtake (n + 1), ?_, rfl, ?_⟩
    · exact (List.take_append_drop _ _).symm
    · simp only [List.rtake, List.length_drop, List.take_eq_nil_iff]
      omega
  rw [taken, split, List.filter_append]
  rw [split] at nodup
  have recent_nodup := (List.nodup_append.mp nodup).2.1
  split_ifs with member room
  · have length : (recent.filter (decide <| · ≠ k)).length = recent.length - 1 := by
      rw [← List.length_erase_of_mem member, recent_nodup.erase_eq_filter]
      refine congrArg List.length (List.filter_congr fun x _ => ?_)
      by_cases same : x = k <;> simp [same]
    rcases full with full | ⟨rfl, short⟩
    · exact rtake_length rfl (by omega)
    · exact rtake_short (by simp only [List.filter_nil, List.nil_append]; omega)
  · obtain ⟨rfl, short⟩ := full.resolve_left (by omega)
    rw [filter_absent member]
    exact rtake_short (by simp only [List.filter_nil, List.nil_append]; omega)
  · have length := full.resolve_right (by omega)
    rw [filter_absent member]
    obtain ⟨first, rest, rfl⟩ := List.exists_cons_of_length_eq_add_one length
    have split : early.filter (decide <| · ≠ k) ++ first :: rest =
        (early.filter (decide <| · ≠ k) ++ [first]) ++ rest := by simp
    exact rtake_length split (by simpa using length)

/-- The list holds the recent keys in their order, each with the value stored last for it. -/
structure Tracks (capacity : Nat) (uses : List (Use K N)) (list : List (K × N)) : Prop where
  keys : list.map Prod.fst = recentKeys capacity uses
  values : ∀ entry ∈ list, lastStored uses entry.1 = some entry.2

theorem tracks_nil (capacity : Nat) : Tracks capacity ([] : List (Use K N)) [] where
  keys := by simp [recentKeys]
  values _ no := absurd no (by simp)

theorem tracks_nodup {capacity : Nat} {uses : List (Use K N)} {list : List (K × N)}
    (tracks : Tracks capacity uses list) : (list.map Prod.fst).Nodup := by
  rw [tracks.keys]
  exact (List.nodup_dedup _).sublist (List.drop_sublist _ _)

theorem tracks_use {capacity : Nat} (some_ : 0 < capacity) {uses : List (Use K N)}
    {list : List (K × N)} (tracks : Tracks capacity uses list) {use : Use K N} {n : N}
    (gives : lastStored (uses ++ [use]) use.key = some n) :
    Tracks capacity (uses ++ [use]) (store Prod.fst capacity list (use.key, n)) := by
  obtain ⟨size, rfl⟩ := Nat.exists_eq_succ_of_ne_zero (Nat.ne_of_gt some_)
  have nodup := List.nodup_dedup (uses.map Use.key)
  constructor
  · rw [recentKeys, List.map_append, List.map_singleton, dedup_concat, List.rtake_concat_succ,
      recent_concat nodup]
    unfold store
    simp only [lookup_isSome]
    have keys : list.map Prod.fst = ((uses.map Use.key).dedup).rtake (size + 1) := tracks.keys
    have length : list.length = (((uses.map Use.key).dedup).rtake (size + 1)).length := by
      rw [← keys, List.length_map]
    rw [keys, length]
    split_ifs
    · rw [List.map_append, map_key_remove, keys, List.map_singleton]
    · rw [List.map_append, keys, List.map_singleton]
    · rw [List.map_append, List.map_tail, keys, List.map_singleton]
  · have others : ∀ entry ∈ list, entry.1 ≠ use.key →
        lastStored (uses ++ [use]) entry.1 = some entry.2 := by
      intro entry member other
      rw [lastStored_concat, tracks.values entry member]
      cases use with
      | stored k n =>
        have differs : k ≠ entry.1 := Ne.symm other
        simp [Use.gives, differs]
      | found k => rfl
    intro entry member
    rcases mem_store member with rfl | ⟨old, other⟩
    · exact gives
    · exact others entry old other

end RecencyList
