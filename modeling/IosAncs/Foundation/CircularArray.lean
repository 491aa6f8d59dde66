import Mathlib.Data.List.Basic
import Mathlib.Data.List.Range
import Mathlib.Data.Fin.Basic
import Mathlib.Algebra.GroupWithZero.Nat
import Mathlib.Logic.Function.Basic

/-!
A circular array read from a head slot, and its compaction in place: elements
are read in order and the kept ones are written from slot zero on. A read may
come after a write to the same slot. The result is stated exactly, for every
head, length and removal test.
-/
namespace CircularArray
variable {α : Type} {capacity : Nat} [NeZero capacity]

def slot (capacity : Nat) [NeZero capacity] (i : Nat) : Fin capacity := Fin.ofNat capacity i

theorem slot_val (i : Nat) : (slot capacity i).val = i % capacity := rfl

theorem slot_of_lt {i : Nat} (h : i < capacity) : (slot capacity i).val = i := by
  rw [slot_val, Nat.mod_eq_of_lt h]

theorem slot_ne {i j : Nat} (hi : i < capacity) (hj : j < capacity) (ne : i ≠ j) :
    slot capacity i ≠ slot capacity j := by
  intro same
  have values := congrArg Fin.val same
  rw [slot_of_lt hi, slot_of_lt hj] at values
  exact ne values

theorem slot_wrap {i : Nat} : slot capacity (capacity + i) = slot capacity i := by
  apply Fin.ext
  simp [slot_val]

/-- The elements read from `head` on, `count` of them, oldest first. -/
def contents (items : Fin capacity → α) (head count : Nat) : List α :=
  (List.range count).map fun i => items (slot capacity (head + i))

@[simp] theorem contents_zero (items : Fin capacity → α) (head : Nat) :
    contents items head 0 = [] := rfl

@[simp] theorem contents_length (items : Fin capacity → α) (head count : Nat) :
    (contents items head count).length = count := by
  simp [contents]

theorem contents_getElem (items : Fin capacity → α) (head count i : Nat)
    (h : i < (contents items head count).length) :
    (contents items head count)[i] = items (slot capacity (head + i)) := by
  simp [contents]

theorem contents_succ (items : Fin capacity → α) (head count : Nat) :
    contents items head (count + 1) =
      contents items head count ++ [items (slot capacity (head + count))] := by
  simp [contents, List.range_succ]

theorem contents_cons (items : Fin capacity → α) (head count : Nat) :
    contents items head (count + 1) =
      items (slot capacity head) :: contents items (head + 1) count := by
  apply List.ext_getElem
  · simp
  · intro i hi hj
    cases i with
    | zero => simp [contents]
    | succ i =>
      simp only [List.getElem_cons_succ, contents_getElem]
      congr 2
      omega

theorem contents_head_mod (items : Fin capacity → α) (head count : Nat) :
    contents items (head % capacity) count = contents items head count := by
  simp [contents, slot, Fin.ofNat, Nat.mod_add_mod]

theorem contents_congr {items other : Fin capacity → α} {head count : Nat}
    (same : ∀ i < count, items (slot capacity (head + i)) = other (slot capacity (head + i))) :
    contents items head count = contents other head count := by
  simp only [contents, List.map_inj_left, List.mem_range]
  exact same

theorem contents_take (items : Fin capacity → α) (head count n : Nat) (h : n ≤ count) :
    (contents items head count).take n = contents items head n := by
  apply List.ext_getElem
  · simp only [List.length_take, contents_length]
    omega
  · intro i hi hj
    simp [contents_getElem]

theorem contents_write_next (items : Fin capacity → α) (x : α) (head count : Nat)
    (room : count < capacity) :
    contents (Function.update items (slot capacity (head + count)) x) head (count + 1) =
      contents items head count ++ [x] := by
  rw [contents_succ, Function.update_self]
  congr 1
  apply contents_congr
  intro i hi
  apply Function.update_of_ne
  intro same
  have values := congrArg Fin.val same
  simp only [slot_val] at values
  have distance := Nat.sub_mod_eq_zero_of_mod_eq values.symm
  rw [show head + count - (head + i) = count - i by omega, Nat.mod_eq_of_lt (by omega)] at distance
  omega

/-- The list repeated from its start on, cut after `n` elements. -/
def cycle (xs : List α) (n : Nat) : List α :=
  (List.range n).filterMap fun i => xs[i % xs.length]?

@[simp] theorem cycle_zero (xs : List α) : cycle xs 0 = [] := rfl

theorem cycle_succ (xs : List α) (n : Nat) (h : n % xs.length < xs.length) :
    cycle xs (n + 1) = cycle xs n ++ [xs[n % xs.length]] := by
  simp [cycle, List.range_succ, List.getElem?_eq_getElem h]

theorem cycle_length {xs : List α} (nonempty : xs ≠ []) (n : Nat) : (cycle xs n).length = n := by
  induction n with
  | zero => rfl
  | succ n ih =>
    rw [cycle_succ xs n (Nat.mod_lt n (List.length_pos_iff.mpr nonempty))]
    simp [ih]

theorem cycle_getElem {xs : List α} (pos : 0 < xs.length) (n i : Nat)
    (h : i < (cycle xs n).length) :
    (cycle xs n)[i] = xs.get ⟨i % xs.length, Nat.mod_lt i pos⟩ := by
  have nonempty := List.length_pos_iff.mp pos
  induction n with
  | zero => simp at h
  | succ n ih =>
    rw [cycle_length nonempty] at h
    simp only [cycle_succ xs n (Nat.mod_lt n pos)]
    by_cases older : i < n
    · rw [List.getElem_append_left (by rw [cycle_length nonempty]; exact older)]
      exact ih (by rw [cycle_length nonempty]; exact older)
    · have last : i = n := by omega
      subst i
      rw [List.getElem_append_right (by rw [cycle_length nonempty])]
      simp

theorem cycle_once (xs : List α) : cycle xs xs.length = xs := by
  suffices prefixes : ∀ n ≤ xs.length, cycle xs n = xs.take n by
    simpa using prefixes xs.length (Nat.le_refl _)
  intro n bound
  induction n with
  | zero => simp
  | succ n ih =>
    have small : n % xs.length = n := Nat.mod_eq_of_lt (by omega)
    rw [cycle_succ xs n (by omega), ih (by omega), List.take_add_one]
    simp only [small, List.getElem?_eq_getElem (show n < xs.length by omega), Option.toList_some]

theorem cycle_add_period {xs : List α} (nonempty : xs ≠ []) (n : Nat) :
    cycle xs (xs.length + n) = xs ++ cycle xs n := by
  have pos := List.length_pos_iff.mpr nonempty
  induction n with
  | zero => simp [cycle_once]
  | succ n ih =>
    rw [← Nat.add_assoc, cycle_succ xs _ (Nat.mod_lt _ pos), ih, cycle_succ xs n (Nat.mod_lt _ pos)]
    simp

theorem mem_of_mem_cycle {xs : List α} {n : Nat} {x : α} (member : x ∈ cycle xs n) : x ∈ xs := by
  simp only [cycle, List.mem_filterMap] at member
  obtain ⟨i, _, found⟩ := member
  exact List.mem_of_getElem? found

structure Compaction (α : Type) (capacity : Nat) where
  items : Fin capacity → α
  write : Nat
  removed : Bool

def compactStep (drop : α → Bool) (head : Nat) (l : Compaction α capacity) (index : Nat) :
    Compaction α capacity :=
  let source := slot capacity (head + index)
  if drop (l.items source) then { l with removed := true }
  else { l with
    items := Function.update l.items (slot capacity l.write) (l.items source)
    write := l.write + 1 }

def compact (drop : α → Bool) (l : Compaction α capacity) (head count : Nat) :
    Compaction α capacity :=
  (List.range count).foldl (compactStep drop head) l

@[simp] theorem compact_zero (drop : α → Bool) (l : Compaction α capacity) (head : Nat) :
    compact drop l head 0 = l := rfl

theorem compact_succ (drop : α → Bool) (l : Compaction α capacity) (head count : Nat) :
    compact drop l head (count + 1) = compactStep drop head (compact drop l head count) count := by
  simp [compact, List.range_succ]

theorem compact_add (drop : α → Bool) (l : Compaction α capacity) (head m n : Nat) :
    compact drop l head (m + n) = compact drop (compact drop l head m) (head + m) n := by
  induction n with
  | zero => rfl
  | succ n ih =>
    rw [← Nat.add_assoc, compact_succ, ih, compact_succ]
    simp only [compactStep, Nat.add_assoc]

theorem compact_wrapped (drop : α → Bool) (l : Compaction α capacity) (count : Nat) :
    compact drop l capacity count = compact drop l 0 count := by
  induction count with
  | zero => rfl
  | succ n ih =>
    rw [compact_succ, compact_succ, ih]
    simp only [compactStep, slot_wrap, Nat.zero_add]

theorem compactStep_drop {drop : α → Bool} {head index : Nat} {l : Compaction α capacity} {x : α}
    (read : l.items (slot capacity (head + index)) = x) (gone : drop x = true) :
    compactStep drop head l index = { l with removed := true } := by
  simp [compactStep, read, gone]

theorem compactStep_keep {drop : α → Bool} {head index : Nat} {l : Compaction α capacity} {x : α}
    (read : l.items (slot capacity (head + index)) = x) (stays : drop x = false) :
    compactStep drop head l index =
      { l with items := Function.update l.items (slot capacity l.write) x, write := l.write + 1 } := by
  simp [compactStep, read, stays]

/-- What the loop has established while no read has followed a write to its slot. -/
structure Aligned (drop : α → Bool) (start : Compaction α capacity) (head count : Nat)
    (l : Compaction α capacity) : Prop where
  write : l.write = ((contents start.items head count).filter (! drop ·)).length
  kept : contents l.items 0 l.write = (contents start.items head count).filter (! drop ·)
  rest : ∀ i, l.write ≤ i → i < capacity → l.items (slot capacity i) = start.items (slot capacity i)
  removed : l.removed = (start.removed || (contents start.items head count).any drop)

theorem aligned_write_le {drop : α → Bool} {start l : Compaction α capacity} {head count : Nat}
    (h : Aligned drop start head count l) : l.write ≤ count := by
  have shorter := List.length_filter_le (! drop ·) (contents start.items head count)
  rw [contents_length] at shorter
  rw [h.write]
  exact shorter

theorem compact_aligned (drop : α → Bool) (start : Compaction α capacity) (head count : Nat)
    (empty : start.write = 0) (straight : head + count ≤ capacity) :
    Aligned drop start head count (compact drop start head count) := by
  induction count with
  | zero =>
    rw [compact_zero]
    exact ⟨by simpa using empty, by simp [empty], fun _ _ _ => rfl, by simp⟩
  | succ n ih =>
    have h := ih (by omega)
    have behind := aligned_write_le h
    have read := h.rest (head + n) (by omega) (by omega)
    rw [compact_succ]
    cases gone : drop (start.items (slot capacity (head + n))) with
    | true =>
      rw [compactStep_drop read gone]
      refine ⟨?_, ?_, h.rest, ?_⟩
      · simpa [contents_succ, List.filter_append, gone] using h.write
      · simpa [contents_succ, List.filter_append, gone] using h.kept
      · simp [contents_succ, gone]
    | false =>
      rw [compactStep_keep read gone]
      refine ⟨?_, ?_, ?_, ?_⟩
      · simp [contents_succ, List.filter_append, gone, h.write]
      · have appended := contents_write_next (compact drop start head n).items
          (start.items (slot capacity (head + n))) 0 (compact drop start head n).write (by omega)
        rw [Nat.zero_add] at appended
        rw [appended, h.kept]
        simp [contents_succ, List.filter_append, gone]
      · intro i above below
        simp only at above
        simp only [Function.update_of_ne (slot_ne below (show (compact drop start head n).write <
          capacity by omega) (by omega))]
        exact h.rest i (by omega) below
      · simp [contents_succ, gone, h.removed]

/-- Past the wrap, once something was kept, every read returns a kept element
    again: the array below `write` repeats `kept` from its start. -/
theorem compact_repeats (drop : α → Bool) (l : Compaction α capacity) (kept : List α) (count : Nat)
    (nonempty : kept ≠ []) (write : l.write = kept.length)
    (stored : contents l.items 0 kept.length = kept) (stays : ∀ x ∈ kept, drop x = false)
    (room : kept.length + count ≤ capacity) :
    (compact drop l 0 count).write = kept.length + count ∧
      (compact drop l 0 count).removed = l.removed ∧
      contents (compact drop l 0 count).items 0 (kept.length + count) =
        cycle kept (kept.length + count) := by
  have pos := List.length_pos_iff.mpr nonempty
  induction count with
  | zero => exact ⟨write, rfl, by simpa [cycle_once] using stored⟩
  | succ n ih =>
    obtain ⟨hw, hr, hc⟩ := ih (by omega)
    have small := Nat.mod_lt n pos
    have read : (compact drop l 0 n).items (slot capacity (0 + n)) = kept[n % kept.length] := by
      rw [← contents_getElem (compact drop l 0 n).items 0 (kept.length + n) n
        (by rw [contents_length]; omega)]
      simp only [hc]
      exact cycle_getElem pos _ n (by rw [cycle_length nonempty]; omega)
    rw [compact_succ, compactStep_keep read (stays _ (List.getElem_mem small))]
    refine ⟨by simp [hw, Nat.add_assoc], hr, ?_⟩
    have appended := contents_write_next (compact drop l 0 n).items kept[n % kept.length] 0
      (kept.length + n) (by omega)
    rw [Nat.zero_add] at appended
    rw [hw, ← Nat.add_assoc, appended, hc, cycle_succ kept (kept.length + n) (Nat.mod_lt _ pos)]
    simp

theorem contents_split (items : Fin capacity → α) (head m n : Nat) :
    contents items head (m + n) = contents items head m ++ contents items (head + m) n := by
  induction n with
  | zero => simp
  | succ n ih => rw [← Nat.add_assoc, contents_succ, ih, contents_succ, Nat.add_assoc,
      List.append_assoc]

theorem contents_wrapped (items : Fin capacity → α) (count : Nat) :
    contents items capacity count = contents items 0 count := by
  rw [← contents_head_mod items capacity, Nat.mod_self]

def keptBeforeWrap (capacity : Nat) (drop : α → Bool) (head : Nat) (xs : List α) : List α :=
  (xs.take (capacity - head)).filter (! drop ·)

/-- In-place compaction from slot zero loses nothing exactly in these cases. -/
def CompactsExactly (capacity : Nat) (drop : α → Bool) (head : Nat) (xs : List α) : Prop :=
  keptBeforeWrap capacity drop head xs = [] ∨
    xs.drop (capacity - head) = cycle (keptBeforeWrap capacity drop head xs)
      (xs.drop (capacity - head)).length

def fresh (items : Fin capacity → α) : Compaction α capacity :=
  { items := items, write := 0, removed := false }

def Exact (drop : α → Bool) (xs : List α) (r : Compaction α capacity) : Prop :=
  contents r.items 0 r.write = xs.filter (! drop ·) ∧ r.removed = xs.any drop

theorem exact_of_aligned {drop : α → Bool} {items : Fin capacity → α} {head count : Nat}
    {r : Compaction α capacity} (h : Aligned drop (fresh items) head count r) :
    Exact drop (contents items head count) r :=
  ⟨h.kept, by simpa [fresh] using h.removed⟩

theorem filter_eq_self_of_length {keep : α → Bool} {xs : List α}
    (same : (xs.filter keep).length = xs.length) : xs.filter keep = xs :=
  List.filter_sublist.eq_of_length same

section Wrapped
variable (drop : α → Bool) (items : Fin capacity → α) {head past : Nat}

theorem compact_past_wrap (start : head ≤ capacity) :
    compact drop (fresh items) head (capacity - head + past) =
      compact drop (compact drop (fresh items) head (capacity - head)) 0 past := by
  rw [compact_add, show head + (capacity - head) = capacity by omega, compact_wrapped]

theorem compact_wrapped_none_kept (start : head ≤ capacity) (room : past ≤ capacity)
    (none : (contents items head (capacity - head)).filter (! drop ·) = []) :
    Exact drop (contents items head (capacity - head + past))
      (compact drop (fresh items) head (capacity - head + past)) := by
  have first := compact_aligned drop (fresh items) head (capacity - head) rfl (by omega)
  have empty : (compact drop (fresh items) head (capacity - head)).write = 0 := by
    rw [first.write]
    simp only [fresh, none, List.length_nil]
  have second := compact_aligned drop _ 0 past empty (by omega)
  have untouched : contents (compact drop (fresh items) head (capacity - head)).items 0 past =
      contents items 0 past := by
    apply contents_congr
    intro i below
    exact first.rest (0 + i) (by omega) (by omega)
  rw [compact_past_wrap drop items start]
  rw [contents_split, show head + (capacity - head) = capacity by omega, contents_wrapped]
  refine ⟨?_, ?_⟩
  · rw [second.kept, untouched, List.filter_append, none, List.nil_append]
  · rw [second.removed, untouched, first.removed]
    simp [fresh]

theorem compact_wrapped_repeats (start : head ≤ capacity) (room : capacity - head + past ≤ capacity)
    (some : (contents items head (capacity - head)).filter (! drop ·) ≠ []) :
    let kept := (contents items head (capacity - head)).filter (! drop ·)
    let r := compact drop (fresh items) head (capacity - head + past)
    contents r.items 0 r.write = kept ++ cycle kept past ∧
      r.write = kept.length + past ∧
      r.removed = (contents items head (capacity - head)).any drop := by
  intro kept r
  have first := compact_aligned drop (fresh items) head (capacity - head) rfl (by omega)
  have behind := aligned_write_le first
  have filled : (compact drop (fresh items) head (capacity - head)).write = kept.length :=
    first.write
  have stored := first.kept
  rw [filled] at stored
  have stays : ∀ x ∈ kept, drop x = false := by
    intro x member
    simpa using (List.mem_filter.mp member).2
  obtain ⟨written, flag, repeats⟩ :=
    compact_repeats drop _ kept past some filled stored stays (by omega)
  rw [← compact_past_wrap drop items start] at written flag repeats
  refine ⟨?_, written, ?_⟩
  · rw [written, repeats, cycle_add_period some]
  · rw [flag, first.removed]
    simp [fresh]

end Wrapped

theorem contents_take_drop (items : Fin capacity → α) {head count : Nat}
    (start : head ≤ capacity) (past : capacity - head ≤ count) :
    (contents items head count).take (capacity - head) = contents items head (capacity - head) ∧
      (contents items head count).drop (capacity - head) =
        contents items 0 (count - (capacity - head)) := by
  refine ⟨contents_take items head count _ past, ?_⟩
  rw [show count = capacity - head + (count - (capacity - head)) by omega, contents_split,
    show head + (capacity - head) = capacity by omega, contents_wrapped,
    List.drop_left' (by rw [contents_length])]
  congr 1
  omega

theorem any_drop_cycle {drop : α → Bool} {first : List α} {n : Nat} :
    (cycle (first.filter (! drop ·)) n).any drop = false := by
  rw [List.any_eq_false]
  intro x member
  simpa using (List.mem_filter.mp (mem_of_mem_cycle member)).2

theorem filter_cycle {drop : α → Bool} {first : List α} {n : Nat} :
    (cycle (first.filter (! drop ·)) n).filter (! drop ·) = cycle (first.filter (! drop ·)) n := by
  rw [List.filter_eq_self]
  intro x member
  exact (List.mem_filter.mp (mem_of_mem_cycle member)).2

/-- Compaction from slot zero is exact unless a wrapped element is overwritten
    by an earlier one before it is read. -/
theorem compact_exact_iff (drop : α → Bool) (items : Fin capacity → α) {head count : Nat}
    (start : head ≤ capacity) (room : count ≤ capacity) :
    Exact drop (contents items head count) (compact drop (fresh items) head count) ↔
      CompactsExactly capacity drop head (contents items head count) := by
  by_cases straight : head + count ≤ capacity
  · have exact_run := exact_of_aligned (compact_aligned drop (fresh items) head count rfl straight)
    have no_wrap : (contents items head count).drop (capacity - head) = [] := by
      rw [List.drop_eq_nil_iff, contents_length]
      omega
    simp only [exact_run, CompactsExactly, no_wrap, List.length_nil, cycle_zero, or_true]
  · obtain ⟨past, total⟩ : ∃ past, count = capacity - head + past :=
      ⟨count - (capacity - head), by omega⟩
    subst total
    obtain ⟨first_part, second_part⟩ := contents_take_drop items start (Nat.le_add_right _ past)
    rw [Nat.add_sub_cancel_left] at second_part
    have split := List.take_append_drop (capacity - head)
      (contents items head (capacity - head + past))
    rw [first_part, second_part] at split
    simp only [CompactsExactly, keptBeforeWrap, first_part, second_part]
    by_cases none : (contents items head (capacity - head)).filter (! drop ·) = []
    · simp only [none, true_or, iff_true]
      exact compact_wrapped_none_kept drop items start (by omega) none
    · obtain ⟨read, written, flag⟩ := compact_wrapped_repeats drop items start room none
      simp only [Exact, read, flag, none, false_or, contents_length, ← split,
        List.filter_append, List.any_append, List.append_cancel_left_eq]
      constructor
      · rintro ⟨same, _⟩
        have full : ((contents items 0 past).filter (! drop ·)).length =
            (contents items 0 past).length := by
          rw [← same, cycle_length none, contents_length]
        rw [← filter_eq_self_of_length full]
        exact same.symm
      · intro repeats
        rw [repeats]
        simp [filter_cycle, any_drop_cycle]

/-- Whatever is lost, nothing dropped survives and nothing new appears. -/
theorem compact_members (drop : α → Bool) (items : Fin capacity → α) {head count : Nat}
    (start : head ≤ capacity) (room : count ≤ capacity) :
    ∀ x ∈ contents (compact drop (fresh items) head count).items 0
        (compact drop (fresh items) head count).write,
      x ∈ contents items head count ∧ drop x = false := by
  by_cases exact : CompactsExactly capacity drop head (contents items head count)
  · have kept := ((compact_exact_iff drop items start room).mpr exact).1
    intro x member
    rw [kept] at member
    simpa using List.mem_filter.mp member
  · have wraps : capacity - head ≤ count := by
      by_contra short
      apply exact
      right
      rw [List.drop_eq_nil_of_le (by rw [contents_length]; omega)]
      rfl
    have some : (contents items head (capacity - head)).filter (! drop ·) ≠ [] := by
      intro none
      apply exact
      left
      rw [keptBeforeWrap, contents_take items head count _ wraps, none]
    obtain ⟨past, total⟩ : ∃ past, count = capacity - head + past :=
      ⟨count - (capacity - head), by omega⟩
    subst total
    obtain ⟨read, _, _⟩ := compact_wrapped_repeats drop items start room some
    intro x member
    rw [read, List.mem_append] at member
    have kept : x ∈ (contents items head (capacity - head)).filter (! drop ·) :=
      member.elim id mem_of_mem_cycle
    obtain ⟨early, stays⟩ := List.mem_filter.mp kept
    exact ⟨by rw [contents_split]; exact List.mem_append_left _ early, by simpa using stays⟩

theorem compact_write_le (drop : α → Bool) (l : Compaction α capacity) (head count : Nat) :
    (compact drop l head count).write ≤ l.write + count := by
  induction count with
  | zero => simp
  | succ n ih =>
    rw [compact_succ, compactStep]
    split
    · exact Nat.le_succ_of_le ih
    · exact Nat.succ_le_succ ih

end CircularArray
