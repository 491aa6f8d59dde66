import Mathlib.Data.List.Basic
import Mathlib.Order.Basic

/-!
Parties that sample a state and a clock and publish the sample later. What is published
is in the order of the samples as long as no newer sample is published in between.
-/
namespace Sampling
variable {P V : Type}

/-- A sample under way: when it was taken, and what the clock showed when it was read. -/
structure Flight (V : Type) where
  taken : Nat
  read : Option V

structure Entry (V : Type) where
  taken : Nat
  value : V
  publishedAt : Nat

/-- The time counts the moves; what is published stands with the newest first. -/
structure State (P V : Type) where
  time : Nat
  clock : V
  flying : P → Option (Flight V)
  published : List (Entry V)

/-- Where a sample under way comes from: it was there, it was just taken, or its clock was
    just read. -/
def Origin (s : State P V) (p : P) (flight : Flight V) : Prop :=
  s.flying p = some flight ∨ flight = { taken := s.time, read := none } ∨
    ∃ old, s.flying p = some old ∧ flight = { old with read := some s.clock }

variable [Preorder V]

inductive Move (s : State P V) : State P V → Prop where
  | quiet (clock : V) (flying : P → Option (Flight V)) (forward : s.clock ≤ clock)
      (origin : ∀ p flight, flying p = some flight → Origin s p flight) :
      Move s { s with time := s.time + 1, clock, flying }
  | publish (p : P) (taken : Nat) (value : V) (flying : P → Option (Flight V))
      (ready : s.flying p = some { taken, read := some value })
      (origin : ∀ p flight, flying p = some flight → Origin s p flight) :
      Move s { s with
        time := s.time + 1
        flying
        published := { taken, value, publishedAt := s.time } :: s.published }

def Ordered (published : List (Entry V)) : Prop :=
  published.Pairwise fun newer older => older.taken ≤ newer.taken ∧ older.value ≤ newer.value

/-- Nothing newer was published since the sample was taken. -/
def InTime (published : List (Entry V)) (taken : Nat) (value : V) : Prop :=
  ∀ entry ∈ published, taken ≤ entry.publishedAt → entry.taken ≤ taken ∧ entry.value ≤ value

structure Timely (s : State P V) : Prop where
  entries : ∀ entry ∈ s.published,
    entry.taken < entry.publishedAt ∧ entry.publishedAt < s.time ∧ entry.value ≤ s.clock
  flights : ∀ p flight, s.flying p = some flight → flight.taken < s.time
  reads : ∀ p flight value, s.flying p = some flight → flight.read = some value →
    value ≤ s.clock ∧ ∀ entry ∈ s.published, entry.publishedAt < flight.taken → entry.value ≤ value

theorem origin_taken {s : State P V} (timely : Timely s) {p : P} {flight : Flight V}
    (origin : Origin s p flight) : flight.taken < s.time + 1 := by
  rcases origin with same | rfl | ⟨old, was, rfl⟩
  · have before := timely.flights p flight same
    omega
  · exact Nat.lt_succ_self s.time
  · have before := timely.flights p old was
    exact Nat.lt_succ_of_lt before

theorem origin_read {s : State P V} (timely : Timely s) {p : P} {flight : Flight V} {value : V}
    (origin : Origin s p flight) (read : flight.read = some value) :
    value ≤ s.clock ∧
      ∀ entry ∈ s.published, entry.publishedAt < flight.taken → entry.value ≤ value := by
  rcases origin with same | rfl | ⟨old, was, rfl⟩
  · exact timely.reads p flight value same read
  · cases read
  · cases read
    exact ⟨le_refl s.clock, fun entry member _ => (timely.entries entry member).2.2⟩

theorem timely_move {s s' : State P V} (timely : Timely s) (move : Move s s') : Timely s' := by
  cases move with
  | quiet clock flying forward origin =>
    constructor
    · intro entry member
      obtain ⟨taken, published, value⟩ := timely.entries entry member
      exact ⟨taken, Nat.lt_succ_of_lt published, le_trans value forward⟩
    · intro p flight at_
      exact origin_taken timely (origin p flight at_)
    · intro p flight value at_ read
      obtain ⟨now, earlier⟩ := origin_read timely (origin p flight at_) read
      exact ⟨le_trans now forward, earlier⟩
  | publish p taken value flying ready origin =>
    constructor
    · intro entry member
      rcases List.mem_cons.mp member with rfl | older
      · exact ⟨timely.flights p _ ready, Nat.lt_succ_self s.time,
          (timely.reads p _ value ready rfl).1⟩
      · obtain ⟨taken, published, value⟩ := timely.entries entry older
        exact ⟨taken, Nat.lt_succ_of_lt published, value⟩
    · intro q flight at_
      exact origin_taken timely (origin q flight at_)
    · intro q flight read at_ same
      obtain ⟨now, earlier⟩ := origin_read timely (origin q flight at_) same
      refine ⟨now, ?_⟩
      intro entry member before
      rcases List.mem_cons.mp member with rfl | older
      · -- the sample was taken before this publication
        have taken := origin_taken timely (origin q flight at_)
        dsimp only at before
        omega
      · exact earlier entry older before

theorem ordered_publish_iff {s : State P V} (timely : Timely s) (ordered : Ordered s.published)
    {p : P} {taken : Nat} {value : V} (ready : s.flying p = some { taken, read := some value }) :
    Ordered ({ taken, value, publishedAt := s.time } :: s.published) ↔
      InTime s.published taken value := by
  rw [Ordered, List.pairwise_cons]
  constructor
  · intro both entry member _
    exact both.1 entry member
  · intro inTime
    refine ⟨?_, ordered⟩
    intro entry member
    by_cases since : taken ≤ entry.publishedAt
    · exact inTime entry member since
    · have published := (timely.entries entry member).1
      have before : entry.publishedAt < taken := Nat.lt_of_not_le since
      constructor
      · exact Nat.le_of_lt (Nat.lt_trans published before)
      · exact (timely.reads p _ value ready rfl).2 entry member before

end Sampling
