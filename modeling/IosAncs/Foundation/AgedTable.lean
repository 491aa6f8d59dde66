import IosAncs.Foundation.RecencyList
import Mathlib.Data.Vector.Basic
import Mathlib.Data.List.FinRange

/-!
A table of entries with ages: the place that an entry is written to is the one that
already holds its key, else the first unused one, else the first of the oldest. The table
is a list of its used entries in the order of their ages.
-/
namespace AgedTable
variable {E : Type} {size : Nat}

def find (entries : Vector E size) (p : E → Bool) : Option (Fin size) :=
  (List.finRange size).find? fun index => p entries[index]

/-- The loop over the ages that starts at the entry `first`. -/
def oldest (age : E → UInt32) (entries : Vector E size) (first : Fin size) : Fin size :=
  (List.finRange size).foldl
    (fun target index => if age entries[index] < age entries[target] then index else target) first

def replacement (used : E → Bool) (age : E → UInt32) (same : E → Bool) (entries : Vector E size)
    (first : Fin size) : Fin size :=
  match find entries same with
  | some target => target
  | none =>
    match find entries fun entry => !used entry with
    | some unused => unused
    | none => oldest age entries first

theorem find_eq_some {entries : Vector E size} {p : E → Bool} {index : Fin size}
    (found : find entries p = some index) : p entries[index] = true := by
  simpa using List.find?_some found

theorem find_eq_none {entries : Vector E size} {p : E → Bool} :
    find entries p = none ↔ ∀ e ∈ entries.toList, p e = false := by
  simp only [find, List.find?_eq_none, List.mem_finRange, true_imp_iff, Bool.not_eq_true]
  constructor
  · intro none_ e member
    obtain ⟨i, inside, rfl⟩ := List.getElem_of_mem member
    exact none_ ⟨i, by simpa using inside⟩
  · exact fun none_ index => none_ _ (by simp)

theorem oldest_le (age : E → UInt32) (entries : Vector E size) (first index : Fin size) :
    age entries[oldest age entries first] ≤ age entries[index] := by
  have loop (indexes : List (Fin size)) (target : Fin size) :
      let last := indexes.foldl
        (fun target index => if age entries[index] < age entries[target] then index else target) target
      age entries[last] ≤ age entries[target] ∧ ∀ index ∈ indexes, age entries[last] ≤ age entries[index] := by
    induction indexes generalizing target with
    | nil => exact ⟨UInt32.le_refl _, by simp⟩
    | cons head rest ih =>
      obtain ⟨now, later⟩ := ih (if age entries[head] < age entries[target] then head else target)
      have both : age entries[if age entries[head] < age entries[target] then head else target] ≤
          age entries[target] ∧
          age entries[if age entries[head] < age entries[target] then head else target] ≤
          age entries[head] := by
        split
        · next younger => exact ⟨UInt32.le_of_lt younger, UInt32.le_refl _⟩
        · next older => exact ⟨UInt32.le_refl _, UInt32.not_lt.mp older⟩
      refine ⟨UInt32.le_trans now both.1, fun index member => ?_⟩
      rcases List.mem_cons.mp member with rfl | member
      · exact UInt32.le_trans now both.2
      · exact later index member
  exact (loop (List.finRange size) first).2 index (List.mem_finRange index)

section Lists
variable {V K : Type} {used : E → Bool} {age : E → UInt32} {content : E → V}
  {key : V → K}

/-- The used entries in the order of their ages. No two have one key. -/
structure Sorted (used : E → Bool) (age : E → UInt32) (content : E → V) (key : V → K)
    (entries : Vector E size) (counter : UInt32) (sorted : List E) : Prop where
  perm : sorted.Perm (entries.toList.filter used)
  ordered : sorted.Pairwise fun older newer => age older < age newer
  counted : ∀ e ∈ sorted, age e ≤ counter
  keys : ((sorted.map content).map key).Nodup

/-- The table has the list's values, the one used longest ago at the front. -/
def Lists (used : E → Bool) (age : E → UInt32) (content : E → V) (key : V → K)
    (entries : Vector E size) (counter : UInt32) (list : List V) : Prop :=
  ∃ sorted, Sorted used age content key entries counter sorted ∧ sorted.map content = list

theorem sorted_set {entries : Vector E size} {counter : UInt32} {kept : List E} {index : Fin size}
    {e : E} (perm : kept.Perm ((entries.toList.eraseIdx index).filter used))
    (ordered : kept.Pairwise fun older newer => age older < age newer)
    (counted : ∀ e ∈ kept, age e ≤ counter) (keys : ((kept.map content).map key).Nodup)
    (in_use : used e = true) (youngest : age e = counter + 1)
    (room : counter.toNat + 1 < 2 ^ 32) (new : key (content e) ∉ (kept.map content).map key) :
    Sorted used age content key (entries.set index e index.isLt) (counter + 1) (kept ++ [e]) where
  perm := by
    have placed : (entries.toList.set index e).Perm (e :: entries.toList.eraseIdx index) :=
      List.set_perm_cons_eraseIdx (by simp) e
    have filtered := placed.filter used
    rw [List.filter_cons_of_pos in_use] at filtered
    rw [Vector.toList_set]
    exact (List.perm_append_singleton e kept).trans ((perm.cons e).trans filtered.symm)
  ordered := by
    rw [List.pairwise_append]
    refine ⟨ordered, List.pairwise_singleton _ _, fun older member newer last => ?_⟩
    rw [List.mem_singleton.mp last, youngest]
    have before := counted older member
    rw [UInt32.le_iff_toNat_le] at before
    rw [UInt32.lt_iff_toNat_lt, UInt32.toNat_add]
    simp only [UInt32.reduceToNat]
    omega
  counted := by
    intro e' member
    rcases List.mem_append.mp member with old | last
    · have before := counted e' old
      rw [UInt32.le_iff_toNat_le] at before ⊢
      rw [UInt32.toNat_add]
      simp only [UInt32.reduceToNat]
      omega
    · rw [List.mem_singleton.mp last, youngest]
      exact UInt32.le_refl _
  keys := by
    rw [List.map_append, List.map_append, List.nodup_append]
    refine ⟨keys, by simp, ?_⟩
    intro k member k' last same
    simp only [List.map_cons, List.map_nil, List.mem_singleton] at last
    exact new (last ▸ same ▸ member)

variable {entries : Vector E size} {counter : UInt32} {list : List V} {sorted : List E}

theorem sorted_split (h : Sorted used age content key entries counter sorted) {index : Fin size}
    (in_use : used entries[index] = true) : ∃ before after, sorted = before ++ entries[index] :: after ∧
      (before ++ after).Perm ((entries.toList.eraseIdx index).filter used) := by
  have member : entries[index] ∈ sorted := by
    rw [h.perm.mem_iff, List.mem_filter]
    exact ⟨by simp, in_use⟩
  obtain ⟨before, after, split⟩ := List.append_of_mem member
  refine ⟨before, after, split, ?_⟩
  have all : (entries[index] :: entries.toList.eraseIdx index).Perm entries.toList := by
    simpa using List.getElem_cons_eraseIdx_perm (l := entries.toList) (n := index) (by simp)
  have filtered := all.filter used
  rw [List.filter_cons_of_pos in_use] at filtered
  have middle : (before ++ entries[index] :: after).Perm (entries[index] :: (before ++ after)) :=
    List.perm_middle
  exact ((middle.symm.trans (split ▸ h.perm)).trans filtered.symm).cons_inv

theorem mem_entries (h : Sorted used age content key entries counter sorted) {e : E} (member : e ∈ sorted) :
    used e = true ∧ ∃ index : Fin size, entries[index] = e := by
  rw [h.perm.mem_iff, List.mem_filter] at member
  obtain ⟨i, inside, found⟩ := List.getElem_of_mem member.1
  exact ⟨member.2, ⟨i, by simpa using inside⟩, by simpa using found⟩

theorem sorted_without (h : Sorted used age content key entries counter sorted) {before after : List E}
    {e : E} (split : sorted = before ++ e :: after) :
    (before ++ after).Pairwise (fun older newer => age older < age newer) ∧
      (∀ e ∈ before ++ after, age e ≤ counter) ∧
      key (content e) ∉ ((before ++ after).map content).map key ∧
      (((before ++ after).map content).map key).Nodup := by
  have inside : (before ++ after).Sublist sorted :=
    split ▸ (List.Sublist.refl before).append (List.sublist_cons_self e after)
  have keys : (before.map (key ∘ content) ++ key (content e) :: after.map (key ∘ content)).Nodup := by
    simpa [split] using h.keys
  have parts := List.nodup_cons.mp (List.nodup_middle.mp keys)
  refine ⟨h.ordered.sublist inside, fun e member => h.counted e (inside.subset member), ?_, ?_⟩
  · simpa using parts.1
  · simpa using parts.2

theorem lists_empty (unused : ∀ e ∈ entries.toList, used e = false) :
    Lists used age content key entries counter [] := by
  refine ⟨[], ⟨?_, List.Pairwise.nil, by simp, by simp⟩, rfl⟩
  rw [List.filter_eq_nil_iff.mpr fun e member => by simp [unused e member]]

theorem lists_distinct (h : Lists used age content key entries counter list) {i j : Fin size}
    (used_i : used entries[i] = true) (used_j : used entries[j] = true)
    (same : key (content entries[i]) = key (content entries[j])) : i = j := by
  obtain ⟨sorted, h, -⟩ := h
  have keys : (entries.toList.filter used).Pairwise fun e e' => key (content e) ≠ key (content e') := by
    have nodup := (h.perm.map (key ∘ content)).nodup_iff.mp (by simpa using h.keys)
    exact List.pairwise_map.mp nodup
  rw [List.pairwise_filter, List.pairwise_iff_getElem] at keys
  by_contra differ
  rcases Nat.lt_or_gt_of_ne (fun same => differ (Fin.ext same)) with less | greater
  · exact keys i j (by simp) (by simp) less (by simpa using used_i) (by simpa using used_j) (by simpa using same)
  · exact keys j i (by simp) (by simp) greater (by simpa using used_j) (by simpa using used_i)
      (by simpa using same.symm)

theorem lists_length (h : Lists used age content key entries counter list) : list.length ≤ size := by
  obtain ⟨sorted, h, rfl⟩ := h
  rw [List.length_map, h.perm.length_eq]
  simpa using List.length_filter_le used entries.toList

variable [DecidableEq K] {same : E → Bool} {k : K}

theorem remove_sorted (h : Sorted used age content key entries counter sorted) {before after : List E}
    {e : E} (split : sorted = before ++ e :: after) :
    RecencyList.remove key (sorted.map content) (key (content e)) = (before ++ after).map content := by
  have keys := h.keys
  rw [split, List.map_append, List.map_cons] at keys
  rw [split, List.map_append, List.map_cons, RecencyList.remove_split keys, List.map_append]

theorem lists_find (h : Lists used age content key entries counter list)
    (same_iff : ∀ e, same e = true ↔ used e = true ∧ key (content e) = k) :
    (find entries same).map (fun index => content entries[index]) = RecencyList.lookup key list k := by
  obtain ⟨sorted, h, rfl⟩ := h
  cases found : find entries same with
  | some index =>
    obtain ⟨in_use, key_⟩ := (same_iff _).mp (find_eq_some found)
    have member : entries[index] ∈ sorted := by
      rw [h.perm.mem_iff, List.mem_filter]
      exact ⟨by simp, in_use⟩
    refine ((RecencyList.lookup_eq_some h.keys).mpr ⟨?_, key_⟩).symm
    exact List.mem_map_of_mem member
  | none =>
    refine (RecencyList.lookup_eq_none.mpr ?_).symm
    intro listed
    obtain ⟨v, member, key_⟩ := List.mem_map.mp listed
    obtain ⟨e, there, rfl⟩ := List.mem_map.mp member
    obtain ⟨in_use, index, rfl⟩ := mem_entries h there
    have other := find_eq_none.mp found entries[index] (by simp)
    rw [(same_iff _).mpr ⟨in_use, key_⟩] at other
    cases other

theorem lists_remove (h : Lists used age content key entries counter list)
    (same_iff : ∀ e, same e = true ↔ used e = true ∧ key (content e) = k) {index : Fin size}
    (found : find entries same = some index) {e : E} (free : used e = false) :
    Lists used age content key (entries.set index e index.isLt) counter
      (RecencyList.remove key list k) := by
  obtain ⟨sorted, h, rfl⟩ := h
  obtain ⟨in_use, rfl⟩ := (same_iff _).mp (find_eq_some found)
  obtain ⟨before, after, split, perm⟩ := sorted_split h in_use
  obtain ⟨ordered, counted, -, keys⟩ := sorted_without h split
  refine ⟨before ++ after, ⟨?_, ordered, counted, keys⟩, ?_⟩
  · have placed : (entries.toList.set index e).Perm (e :: entries.toList.eraseIdx index) :=
      List.set_perm_cons_eraseIdx (by simp) e
    have filtered := placed.filter used
    rw [List.filter_cons_of_neg (by simp [free])] at filtered
    rw [Vector.toList_set]
    exact perm.trans filtered.symm
  · exact (remove_sorted h split).symm

/-- A value that is written where `replacement` says is stored in the list. -/
theorem lists_store (h : Lists used age content key entries counter list)
    (same_iff : ∀ e, same e = true ↔ used e = true ∧ key (content e) = k) (first : Fin size) {e : E}
    (in_use : used e = true) (youngest : age e = counter + 1) (holds : key (content e) = k)
    (room : counter.toNat + 1 < 2 ^ 32) :
    Lists used age content key (entries.set (replacement used age same entries first) e (Fin.isLt _))
      (counter + 1) (RecencyList.store key size list (content e)) := by
  have found_iff := lists_find h same_iff
  obtain ⟨sorted, h, rfl⟩ := h
  unfold RecencyList.store
  rw [holds, ← found_iff]
  unfold replacement
  split
  · next target found =>
    obtain ⟨target_used, target_key⟩ := (same_iff _).mp (find_eq_some found)
    obtain ⟨before, after, split, perm⟩ := sorted_split h target_used
    obtain ⟨ordered, counted, new, keys⟩ := sorted_without h split
    refine ⟨before ++ after ++ [e], sorted_set perm ordered counted keys in_use youngest room ?_, ?_⟩
    · rw [holds, ← target_key]
      exact new
    · rw [found, if_pos (by rfl), ← target_key, remove_sorted h split]
      simp
  · next absent =>
    have new : key (content e) ∉ (sorted.map content).map key := by
      rw [absent, Option.map_none] at found_iff
      exact holds ▸ RecencyList.lookup_eq_none.mp found_iff.symm
    rw [absent, if_neg (by simp), List.length_map, h.perm.length_eq]
    split
    · next unused found =>
      have free : used entries[unused] = false := by simpa using find_eq_some found
      have all : (entries[unused] :: entries.toList.eraseIdx unused).Perm entries.toList := by
        simpa using List.getElem_cons_eraseIdx_perm (l := entries.toList) (n := unused) (by simp)
      have filtered := all.filter used
      rw [List.filter_cons_of_neg (Bool.not_eq_true _ ▸ free)] at filtered
      have short : (entries.toList.filter used).length < size := by
        have fewer := List.length_filter_le used (entries.toList.eraseIdx unused)
        rw [filtered.length_eq, List.length_eraseIdx_of_lt (by simp), Vector.length_toList] at fewer
        have some_ := unused.isLt
        omega
      rw [if_pos short]
      refine ⟨sorted ++ [e], sorted_set (h.perm.trans filtered.symm) h.ordered h.counted h.keys in_use
        youngest room new, by simp⟩
    · next full =>
      have all_used : ∀ e ∈ entries.toList, used e = true := by simpa using find_eq_none.mp full
      have length : (entries.toList.filter used).length = size := by
        rw [List.filter_eq_self.mpr all_used, Vector.length_toList]
      rw [if_neg (by omega)]
      obtain ⟨before, after, split, perm⟩ := sorted_split h
        (all_used entries[oldest age entries first] (by simp))
      have front : before = [] := by
        rw [List.eq_nil_iff_forall_not_mem]
        intro older member
        obtain ⟨-, index, rfl⟩ := mem_entries h (split ▸ List.mem_append_left _ member)
        have ordered := h.ordered
        rw [split, List.pairwise_append] at ordered
        have younger := ordered.2.2 _ member _ List.mem_cons_self
        exact absurd (oldest_le age entries first index) (UInt32.not_le.mpr younger)
      obtain ⟨ordered, counted, -, keys⟩ := sorted_without h split
      subst front
      refine ⟨[] ++ after ++ [e], sorted_set perm ordered counted keys in_use youngest room ?_, ?_⟩
      · rw [split] at new
        exact fun member => new (by simp only [List.nil_append] at member ⊢; exact List.mem_cons_of_mem _ member)
      · simp [split]

end Lists

end AgedTable
