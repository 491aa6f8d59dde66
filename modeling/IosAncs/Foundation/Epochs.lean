import Mathlib.Data.List.Basic
import Mathlib.Data.List.Pairwise

/-!
Messages stamped with the epoch they are sent in. The sender may announce an epoch by a
marker ahead of its messages; the marker may be lost while other messages are on the
way. The receiver looks at the epoch before it takes a message, and enters an epoch at
such a look or at a marker.
-/
namespace Epochs

structure Stamp where
  epoch : Nat
  marker : Bool
deriving DecidableEq, Repr

/-- What may stand in front of what: a marker leads the messages of its epoch. -/
def Stamp.Before (first second : Stamp) : Prop :=
  first.epoch < second.epoch ∨ first.epoch = second.epoch ∧ second.marker = false

/-- The messages on the way stand with the oldest first, the one that the receiver has
    taken but not yet handled included. The receiver attends from a look until it has
    handled a message. -/
structure State where
  epoch : Nat
  /-- the epoch is one that a marker announces -/
  announced : Bool
  /-- its marker is still to be sent -/
  owed : Bool
  onTheWay : List Stamp
  looked : Nat
  entered : Nat
  attending : Bool
  /-- the epochs of the messages that were accepted, newest first -/
  accepted : List Nat

/-- The messages are in the order of their epochs, markers first. Where the receiver has
    missed an announced epoch, it first meets something older than the epoch's messages. -/
structure Ordered (s : State) : Prop where
  entered_le : s.entered ≤ s.looked
  looked_le : s.looked ≤ s.epoch
  sorted : s.onTheWay.Pairwise Stamp.Before
  begun : ∀ stamp ∈ s.onTheWay, stamp.epoch ≤ s.epoch
  unsent : s.owed = true → ∀ stamp ∈ s.onTheWay, stamp.epoch < s.epoch
  unaccepted : s.owed = true → ∀ epoch ∈ s.accepted, epoch < s.epoch
  warned : s.attending = true → s.announced = true → s.looked ≠ s.epoch → s.owed = false →
    ∃ stamp rest, s.onTheWay = stamp :: rest ∧ (stamp.epoch < s.epoch ∨ stamp.marker = true)
  accepted_le : ∀ epoch ∈ s.accepted, epoch ≤ s.entered
  accepted_lt : ∀ epoch ∈ s.accepted, ∀ stamp ∈ s.onTheWay, stamp.marker = true →
    epoch < stamp.epoch

theorem ordered_start (epoch : Nat) (announced attending : Bool) :
    Ordered { epoch, announced, owed := false, onTheWay := [], looked := epoch, entered := epoch
              attending, accepted := [] } where
  entered_le := Nat.le_refl epoch
  looked_le := Nat.le_refl epoch
  sorted := List.Pairwise.nil
  begun := by simp
  unsent := by simp
  unaccepted := by simp
  warned := fun _ _ missed => absurd rfl missed
  accepted_le := by simp
  accepted_lt := by simp

theorem Ordered.accepted_begun {s : State} (ordered : Ordered s) :
    ∀ epoch ∈ s.accepted, epoch ≤ s.epoch := by
  intro epoch accepted
  have looked := Nat.le_trans ordered.entered_le ordered.looked_le
  exact Nat.le_trans (ordered.accepted_le epoch accepted) looked

theorem ordered_begin {s : State} (ordered : Ordered s) (announced : Bool) :
    Ordered { s with epoch := s.epoch + 1, announced, owed := announced } where
  entered_le := ordered.entered_le
  looked_le := Nat.le_succ_of_le ordered.looked_le
  sorted := ordered.sorted
  begun := fun stamp member => Nat.le_succ_of_le (ordered.begun stamp member)
  unsent := fun _ stamp member => Nat.lt_succ_of_le (ordered.begun stamp member)
  unaccepted := fun _ epoch accepted => Nat.lt_succ_of_le (ordered.accepted_begun epoch accepted)
  warned := by
    intro _ announces _ paid
    exact absurd (announces.symm.trans paid) (by decide)
  accepted_le := ordered.accepted_le
  accepted_lt := ordered.accepted_lt

/-- Something of the present epoch is sent; before a marker nothing of the epoch was. -/
theorem ordered_sent {s : State} (ordered : Ordered s) (marker : Bool) (owed : s.owed = marker) :
    Ordered { s with onTheWay := s.onTheWay ++ [⟨s.epoch, marker⟩], owed := false } where
  entered_le := ordered.entered_le
  looked_le := ordered.looked_le
  sorted := by
    rw [List.pairwise_append]
    refine ⟨ordered.sorted, List.pairwise_singleton _ _, ?_⟩
    intro stamp member last same
    rw [List.mem_singleton.mp same]
    cases marker with
    | true => exact Or.inl (ordered.unsent owed stamp member)
    | false =>
      rcases Nat.lt_or_eq_of_le (ordered.begun stamp member) with older | present
      · exact Or.inl older
      · exact Or.inr ⟨present, rfl⟩
  begun := by
    intro stamp member
    rcases List.mem_append.mp member with old | new
    · exact ordered.begun stamp old
    · exact Nat.le_of_eq (congrArg Stamp.epoch (List.mem_singleton.mp new))
  unsent := by simp
  unaccepted := by simp
  warned := by
    intro attends announced missed _
    cases marker with
    | true =>
      cases same : s.onTheWay with
      | nil => exact ⟨⟨s.epoch, true⟩, [], rfl, Or.inr rfl⟩
      | cons stamp rest =>
        have older := ordered.unsent owed stamp (by simp [same])
        exact ⟨stamp, rest ++ [⟨s.epoch, true⟩], rfl, Or.inl older⟩
    | false =>
      obtain ⟨stamp, rest, same, warns⟩ := ordered.warned attends announced missed owed
      exact ⟨stamp, rest ++ [⟨s.epoch, false⟩], by simp [same], warns⟩
  accepted_le := ordered.accepted_le
  accepted_lt := by
    intro epoch accepted stamp member marks
    rcases List.mem_append.mp member with old | new
    · exact ordered.accepted_lt epoch accepted stamp old marks
    · rw [List.mem_singleton.mp new] at marks ⊢
      exact ordered.unaccepted (owed.trans marks) epoch accepted

theorem ordered_lost {s : State} (ordered : Ordered s) (owed : s.owed = true)
    (crowded : s.onTheWay ≠ []) : Ordered { s with owed := false } where
  entered_le := ordered.entered_le
  looked_le := ordered.looked_le
  sorted := ordered.sorted
  begun := ordered.begun
  unsent := by simp
  unaccepted := by simp
  warned := by
    intro _ _ _ _
    obtain ⟨stamp, rest, same⟩ := List.exists_cons_of_ne_nil crowded
    have older := ordered.unsent owed stamp (by simp [same])
    exact ⟨stamp, rest, same, Or.inl older⟩
  accepted_le := ordered.accepted_le
  accepted_lt := ordered.accepted_lt

theorem ordered_look {s : State} (ordered : Ordered s) (enters : Bool) :
    Ordered { s with
      looked := s.epoch
      entered := if enters then s.epoch else s.entered
      attending := true } := by
  have before := Nat.le_trans ordered.entered_le ordered.looked_le
  have later : s.entered ≤ if enters then s.epoch else s.entered := by
    cases enters with
    | true => exact before
    | false => exact Nat.le_refl _
  exact {
    entered_le := by
      cases enters with
      | true => exact Nat.le_refl _
      | false => exact before
    looked_le := Nat.le_refl _
    sorted := ordered.sorted
    begun := ordered.begun
    unsent := ordered.unsent
    unaccepted := ordered.unaccepted
    warned := fun _ _ missed => absurd rfl missed
    accepted_le := fun epoch accepted => Nat.le_trans (ordered.accepted_le epoch accepted) later
    accepted_lt := ordered.accepted_lt }

theorem ordered_idle {s : State} (ordered : Ordered s) : Ordered { s with attending := false } :=
  { ordered with warned := by simp }

/-- The receiver is done with the first of the messages, and may have entered the present
    epoch or accepted a message that has been entered. -/
theorem ordered_handled {s : State} (ordered : Ordered s) {stamp : Stamp} {rest : List Stamp}
    (next : s.onTheWay = stamp :: rest) : Ordered { s with onTheWay := rest, attending := false } := by
  have sorted := ordered.sorted
  have later : ∀ other ∈ rest, other ∈ s.onTheWay := by
    intro other member
    rw [next]
    exact List.mem_cons_of_mem stamp member
  rw [next] at sorted
  exact {
    entered_le := ordered.entered_le
    looked_le := ordered.looked_le
    sorted := (List.pairwise_cons.mp sorted).2
    begun := fun other member => ordered.begun other (later other member)
    unsent := fun owed other member => ordered.unsent owed other (later other member)
    unaccepted := ordered.unaccepted
    warned := by simp
    accepted_le := ordered.accepted_le
    accepted_lt := fun epoch accepted other member =>
      ordered.accepted_lt epoch accepted other (later other member) }

theorem ordered_accepted {s : State} (ordered : Ordered s) {stamp : Stamp} {rest : List Stamp}
    (next : s.onTheWay = stamp :: rest)
    (entered : stamp.epoch ≤ s.entered) :
    Ordered { s with
      onTheWay := rest
      attending := false
      accepted := stamp.epoch :: s.accepted } := by
  have handled := ordered_handled ordered next
  have sorted := ordered.sorted
  rw [next] at sorted
  exact { handled with
    unaccepted := by
      intro owed epoch member
      rcases List.mem_cons.mp member with rfl | old
      · exact ordered.unsent owed stamp (by simp [next])
      · exact ordered.unaccepted owed epoch old
    accepted_le := by
      intro epoch member
      rcases List.mem_cons.mp member with rfl | old
      · exact entered
      · exact ordered.accepted_le epoch old
    accepted_lt := by
      intro epoch member other behind marks
      rcases List.mem_cons.mp member with rfl | old
      · rcases (List.pairwise_cons.mp sorted).1 other behind with older | ⟨_, plain⟩
        · exact older
        · exact absurd (marks.symm.trans plain) (by decide)
      · exact handled.accepted_lt epoch old other behind marks }

theorem ordered_entered {s : State} (ordered : Ordered s) {stamp : Stamp} {rest : List Stamp}
    (next : s.onTheWay = stamp :: rest) :
    Ordered { s with
      onTheWay := rest
      attending := false
      looked := s.epoch
      entered := s.epoch } :=
  { ordered_handled ordered next with
    entered_le := Nat.le_refl _
    looked_le := Nat.le_refl _
    warned := by simp
    accepted_le := ordered.accepted_begun }

theorem looked_of_next {s : State} (ordered : Ordered s) (attends : s.attending = true)
    {stamp : Stamp} {rest : List Stamp} (next : s.onTheWay = stamp :: rest)
    (message : stamp.marker = false) (present : stamp.epoch = s.epoch)
    (announced : s.announced = false → s.looked = s.epoch) : s.looked = s.epoch := by
  by_contra missed
  have paid : s.owed = false := by
    cases owed : s.owed with
    | false => rfl
    | true =>
      have older := ordered.unsent owed stamp (by simp [next])
      exact absurd present (Nat.ne_of_lt older)
  have announces : s.announced = true := by
    cases on : s.announced with
    | false => exact absurd (announced on) missed
    | true => rfl
  obtain ⟨first, others, same, warns⟩ := ordered.warned attends announces missed paid
  have head : stamp = first := (List.cons.inj (next.symm.trans same)).1
  subst head
  rcases warns with older | marks
  · exact absurd present (Nat.ne_of_lt older)
  · exact absurd (message.symm.trans marks) (by decide)

theorem unaccepted_of_entering {s : State} (ordered : Ordered s) (entering : s.entered ≠ s.epoch) :
    s.epoch ∉ s.accepted := by
  intro accepted
  have entered := ordered.accepted_le s.epoch accepted
  have before := Nat.le_trans ordered.entered_le ordered.looked_le
  exact entering (Nat.le_antisymm before entered)

theorem unaccepted_of_marker {s : State} (ordered : Ordered s) {stamp : Stamp} {rest : List Stamp}
    (next : s.onTheWay = stamp :: rest) (marker : stamp.marker = true) : s.epoch ∉ s.accepted := by
  intro accepted
  have present : stamp ∈ s.onTheWay := by simp [next]
  have older := ordered.accepted_lt s.epoch accepted stamp present marker
  exact absurd (ordered.begun stamp present) (Nat.not_le_of_lt older)

end Epochs
