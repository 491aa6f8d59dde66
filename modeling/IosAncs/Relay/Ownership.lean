import IosAncs.Relay.Simulation

/-!
Ownership of the items: every one is in one place from its allocation on, is freed
once and not used after that, and the counters agree with where the accepted ones are.
-/
open Runs RelayContext RelayPolicy RelayLedger

namespace RelayLedger
variable {limits : AncsLimits} {rules : RelayRules limits} {b b' : RelayLedger limits}

theorem flushed_freed (b : RelayLedger limits) : b.freed <:+ b.flushed.freed := by
  simp only [flushed, ← List.append_assoc]
  exact List.suffix_append _ _

theorem freed_move (move : Move rules b b') : b.freed <:+ b'.freed := by
  cases move with
  | link | allocate | accept | take | handOver | track | prepare | create | reopen =>
    exact List.suffix_refl _
  | refuse | overflow | refused | abandon | acknowledge => exact List.suffix_cons _ _
  | flush | close | swap | leave => exact flushed_freed b

theorem freed_nodup (balanced : Balanced b) : b.freed.Nodup := by
  have placed : b.places.Nodup := balanced.places.nodup_iff.mpr List.nodup_range
  exact (List.nodup_append.mp placed).2.1

theorem freed_unheld (balanced : Balanced b) {a : Nat} (freed : a ∈ b.freed) :
    a ∉ b.held.map Prod.snd ∧ a ∉ addressesOf b.queue ∧ a ∉ addressesOf b.hand ∧
      a ∉ addressesOf b.pending := by
  have placed : b.places.Nodup := balanced.places.nodup_iff.mpr List.nodup_range
  have once := (List.nodup_iff_count_le_one.mp placed) a
  have inFreed := List.count_pos_iff.mpr freed
  rw [count_places] at once
  refine ⟨?_, ?_, ?_, ?_⟩ <;>
  · rw [← List.count_eq_zero]
    omega

theorem accepted_length (balanced : Balanced b) :
    b.accepted.length = b.queue.length + b.hand.length + b.pending.length +
      (b.settled.countP fun entry => entry.2 = .acknowledged) +
      b.settled.countP fun entry => entry.2 ≠ .acknowledged := by
  have total := balanced.accounted.length_eq
  have split := List.length_eq_countP_add_countP (l := b.settled)
    fun entry : Nat × RelayFate => decide (entry.2 = .acknowledged)
  simp only [kept, addressesOf, List.length_append, List.length_map] at total
  simp only [decide_eq_true_eq] at split
  simp only [ne_eq]
  omega

end RelayLedger

namespace RelaySystem
variable {limits : AncsLimits} {sys : RelaySystem limits}

def observed (sys : RelaySystem limits) : List Nat :=
  (sys.observers.filterMap RelayObserver.held).map Prod.snd

def queued (sys : RelaySystem limits) : List PayloadItem := sys.run.ctx.queue.getD []

def dropped (sys : RelaySystem limits) : Nat :=
  sys.settled.countP fun entry => entry.2 ≠ .acknowledged

/-- The items that a section may read, write or free. -/
def uses (sys : RelaySystem limits) : RelayAction limits → List Nat
  | .finish index _ => ((sys.observers[index]?.bind RelayObserver.held).map Prod.snd).toList
  | .inner (.worker _ _) => addressesOf sys.queued ++ addressesOf sys.run.worker.hand
  | .inner _ | .outer _ => addressesOf sys.queued ++ addressesOf sys.run.ctx.pending
  | _ => []

structure ItemsConserved (sys : RelaySystem limits) : Prop where
  /-- the addresses of the allocated items, each in one place -/
  placed : (sys.observed ++ addressesOf sys.queued ++ addressesOf sys.run.worker.hand ++
    addressesOf sys.run.ctx.pending ++ sys.run.ctx.freed).Perm (List.range sys.sightings.length)
  freedOnce : sys.run.ctx.freed.Nodup
  accounted : sys.accepted.length < 2 ^ 32 →
    sys.run.ctx.counters.accepted.toNat = sys.run.ctx.counters.publishedAck.toNat +
      sys.queued.length + sys.run.worker.hand.length + sys.run.ctx.pending.length + sys.dropped
  bounded : sys.accepted.length < 2 ^ 32 →
    sys.run.ctx.counters.publishedAck ≤ sys.run.ctx.counters.accepted

structure LeavesFreed (sys : RelaySystem limits) (action : RelayAction limits) : Prop where
  unused : ∀ a ∈ sys.run.ctx.freed, a ∉ sys.uses action
  stays : sys.run.ctx.freed <:+ (sys.step action).run.ctx.freed

theorem conserved_of_balanced (balanced : Balanced sys.ledger) : ItemsConserved sys := by
  have total := accepted_length balanced
  have counted := balanced.counted
  have acknowledged := balanced.acknowledged
  simp only [ledger] at total counted acknowledged
  have accounted : sys.accepted.length < 2 ^ 32 →
      sys.run.ctx.counters.accepted.toNat = sys.run.ctx.counters.publishedAck.toNat +
        sys.queued.length + sys.run.worker.hand.length + sys.run.ctx.pending.length +
        sys.dropped := by
    intro unwrapped
    have fewer : (sys.settled.countP fun entry => entry.2 = .acknowledged) < 2 ^ 32 := by omega
    rw [counted, acknowledged, UInt32.toNat_ofNat_of_lt' unwrapped,
      UInt32.toNat_ofNat_of_lt' fewer]
    simp only [queued, dropped]
    omega
  refine ⟨balanced.places, freed_nodup balanced, accounted, ?_⟩
  intro unwrapped
  rw [UInt32.le_iff_toNat_le, accounted unwrapped]
  omega

theorem uses_held (sys : RelaySystem limits) (action : RelayAction limits) (a : Nat)
    (used : a ∈ sys.uses action) :
    a ∈ sys.observed ∨ a ∈ addressesOf sys.queued ∨ a ∈ addressesOf sys.run.worker.hand ∨
      a ∈ addressesOf sys.run.ctx.pending := by
  have flushing (either : a ∈ addressesOf sys.queued ++ addressesOf sys.run.ctx.pending) :
      a ∈ addressesOf sys.queued ∨ a ∈ addressesOf sys.run.worker.hand ∨
        a ∈ addressesOf sys.run.ctx.pending := by
    rcases List.mem_append.mp either with queued | pending
    · exact .inl queued
    · exact .inr (.inr pending)
  cases action with
  | finish index nowMs =>
    simp only [uses, Option.mem_toList, Option.map_eq_some_iff, Option.bind_eq_some_iff] at used
    obtain ⟨entry, ⟨observer, found, holds⟩, rfl⟩ := used
    left
    exact List.mem_map_of_mem (List.mem_filterMap.mpr ⟨observer, List.mem_of_getElem? found, holds⟩)
  | inner action =>
    cases action with
    | worker move answer =>
      rcases List.mem_append.mp used with queued | hand
      · exact .inr (.inl queued)
      · exact .inr (.inr (.inl hand))
    | _ => exact .inr (flushing used)
  | outer created => exact .inr (flushing used)
  | setWifiConnected connected => cases used
  | observe notification => cases used
  | allocate index payload => cases used
  | call request => cases used

def anyRules : RelayRules limits where
  connects := fun _ => True
  accepts := fun _ _ => True
  refuses := fun _ _ => True

theorem obeys_any (sys : RelaySystem limits) (action : RelayAction limits) :
    Obeys anyRules sys action :=
  ⟨fun _ => trivial, fun _ _ => trivial, fun _ _ _ => trivial⟩

theorem balanced_boot : Balanced (boot : RelaySystem limits).ledger :=
  ⟨.refl _, .refl _, rfl, rfl⟩

theorem leavesFreed_of_balanced (controlled : Controlled sys) (balanced : Balanced sys.ledger)
    (action : RelayAction limits) : LeavesFreed sys action := by
  constructor
  · intro a freed used
    obtain ⟨observed, queued, hand, pending⟩ := freed_unheld balanced freed
    rcases uses_held sys action a used with held | held | held | held
    · exact observed held
    · exact queued held
    · exact hand held
    · exact pending held
  · exact freed_move (step_moves controlled (obeys_any sys action))

/-- Every item is in one place, freed once and left alone after that; the counters add up. -/
theorem items_conserved (actions : List (RelayAction limits)) :
    AllStates step ItemsConserved boot actions ∧ AllSteps step LeavesFreed boot actions := by
  have kept (sys : RelaySystem limits) (action : RelayAction limits)
      (holds : Controlled sys ∧ Balanced sys.ledger) :
      Controlled (sys.step action) ∧ Balanced (sys.step action).ledger :=
    ⟨controlled_step holds.1 action,
      balanced_move holds.2 (step_moves holds.1 (obeys_any sys action))⟩
  have states := all_states_invariant kept ⟨controlled_boot, balanced_boot⟩ actions
  constructor
  · exact all_states_mono (fun _ holds => conserved_of_balanced holds.2) states
  · exact all_steps_of_states (fun _ holds action => leavesFreed_of_balanced holds.1 holds.2 action)
      states

end RelaySystem
