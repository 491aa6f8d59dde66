import IosAncs.Relay.Configuration
import IosAncs.Relay.Ownership

/-!
Notifications that were let go of without a client having been given them: one that is
seen again is accepted, unless the recent cache still remembers the item that was lost.
-/
open Runs RelayContext RelayPolicy RelayLedger RelayMark

namespace RelayLedger
variable {limits : AncsLimits} {rules : RelayRules limits} {b b' : RelayLedger limits}

def remembered (b : RelayLedger limits) : List (Nat × List UInt8) :=
  (sinceReset b.marks).take RelayRecentCache.recentCapacity

def passedOn (b : RelayLedger limits) (a : Nat) : Nat := b.kept.count a + b.freed.count a

theorem passedOn_eq (b : RelayLedger limits) (a : Nat) :
    b.passedOn a = (addressesOf b.queue).count a + (addressesOf b.hand).count a +
      (addressesOf b.pending).count a + b.freed.count a := by
  rw [passedOn, count_kept]

theorem passedOn_flushed (b : RelayLedger limits) (a : Nat) : b.flushed.passedOn a = b.passedOn a := by
  rw [passedOn_eq, passedOn_eq]
  simp only [flushed, addressesOf_nil, List.count_nil, List.count_append, List.count_reverse]
  omega

theorem passedOn_move (move : Move rules b b') (a : Nat) : b.passedOn a ≤ b'.passedOn a := by
  cases move with
  | link | allocate | handOver | prepare | create | reopen => exact Nat.le_refl _
  | refuse | overflow =>
    simp only [passedOn, kept, List.count_cons]
    omega
  | accept sighting item =>
    simp only [passedOn_eq, addressesOf_append, List.count_append]
    omega
  | take item rest queue idle =>
    simp only [passedOn_eq, queue, idle, addressesOf_cons, addressesOf_nil, List.count_cons,
      List.count_nil]
    omega
  | refused item hand =>
    simp only [passedOn_eq, freeHand, hand, addressesOf_cons, addressesOf_nil, List.count_cons,
      List.count_nil]
    omega
  | abandon item hand =>
    simp only [passedOn_eq, freeHand, hand, addressesOf_cons, addressesOf_nil, List.count_cons,
      List.count_nil]
    omega
  | track item msgId hand =>
    simp only [passedOn_eq, hand, addressesOf_cons, addressesOf_nil, List.count_cons, List.count_nil]
    omega
  | acknowledge item newer older pending =>
    simp only [passedOn_eq, pending, addressesOf_append, addressesOf_cons, List.count_append,
      List.count_cons]
    omega
  | flush | close | swap | leave => exact (passedOn_flushed b a).ge

theorem held_not_passedOn (balanced : Balanced b) {sighting : RelaySighting limits} {address : Nat}
    {held : List (RelaySighting limits × Nat)} (same : b.held.Perm ((sighting, address) :: held)) :
    b.passedOn address = 0 := by
  have placed : b.places.Nodup := balanced.places.nodup_iff.mpr List.nodup_range
  have once := (List.nodup_iff_count_le_one.mp placed) address
  rw [count_places, count_held same] at once
  simp only [List.count_cons_self] at once
  rw [passedOn_eq]
  omega

structure Forgotten (b : RelayLedger limits) : Prop where
  balanced : Balanced b
  marked : ∀ mark ∈ sinceReset b.marks, 0 < b.passedOn mark.1
  lost : ∀ a ∈ b.lost, a ∈ b.freed
  clean : b.online = true → ∀ mark ∈ b.remembered, mark.1 ∉ b.lost

theorem marked_kept (forgotten : Forgotten b) (move : Move rules b b')
    (marks : sinceReset b'.marks = sinceReset b.marks) :
    ∀ mark ∈ sinceReset b'.marks, 0 < b'.passedOn mark.1 := by
  intro mark member
  rw [marks] at member
  have before := forgotten.marked mark member
  have after := passedOn_move move mark.1
  omega

def forgetful : RelayRules limits where
  connects := fun b => ∀ mark ∈ b.remembered, mark.1 ∉ b.lost
  accepts := fun _ _ => True
  refuses := fun b item => ∀ mark ∈ b.remembered, mark.1 ≠ item.address

theorem remembered_accepted {marks : List RelayMark} {address : Nat} {relayId : List UInt8}
    {mark : Nat × List UInt8}
    (member : mark ∈ (sinceReset (.accepted address relayId :: marks)).take
      RelayRecentCache.recentCapacity) :
    mark = (address, relayId) ∨
      mark ∈ (sinceReset marks).take RelayRecentCache.recentCapacity := by
  simp only [sinceReset, RelayRecentCache.recentCapacity, List.take_succ_cons, List.mem_cons]
    at member
  rcases member with same | older
  · exact .inl same
  · exact .inr (List.take_subset_take_left _ (by decide) older)

theorem forgotten_move (forgotten : Forgotten b) (move : Move forgetful b b') : Forgotten b' := by
  have balanced := balanced_move forgotten.balanced move
  have marked := marked_kept forgotten move
  have lost : ∀ a ∈ b.lost, a ∈ b'.freed :=
    fun a member => (freed_move move).subset (forgotten.lost a member)
  have flushedLost : ∀ a ∈ b.flushed.lost, a ∈ b.flushed.freed := by
    intro a member
    simp only [flushed, List.mem_append, List.mem_reverse] at member ⊢
    rcases member with queued | older
    · exact .inr (.inl queued)
    · exact .inr (.inr (forgotten.lost a older))
  have offline (off : b'.online = false) :
      b'.online = true → ∀ mark ∈ b'.remembered, mark.1 ∉ b'.lost := by
    simp [off]
  have unmarked (none : sinceReset b'.marks = []) :
      ∀ mark ∈ sinceReset b'.marks, 0 < b'.passedOn mark.1 := by
    simp [none]
  have unremembered (none : sinceReset b'.marks = []) :
      ∀ mark ∈ b'.remembered, mark.1 ∉ b'.lost := by
    simp [remembered, none]
  cases move with
  | link online up =>
    refine ⟨balanced, marked rfl, lost, ?_⟩
    intro connected
    rcases up connected with already | allowed
    · exact forgotten.clean already
    · exact allowed
  | allocate | refuse | take | handOver | abandon | track | acknowledge | create =>
    exact ⟨balanced, marked rfl, lost, forgotten.clean⟩
  | overflow sighting address held same =>
    refine ⟨balanced, marked rfl, ?_, ?_⟩
    · intro a member
      rcases List.mem_cons.mp member with rfl | older
      · exact List.mem_cons_self
      · exact lost a older
    · intro online mark member dropped
      rcases List.mem_cons.mp dropped with newest | older
      · have passed := forgotten.marked mark (List.mem_of_mem_take member)
        rw [newest, held_not_passedOn forgotten.balanced same] at passed
        cases passed
      · exact forgotten.clean online mark member older
  | accept sighting item held same topic unknown allowed =>
    have fresh := held_not_passedOn forgotten.balanced same
    refine ⟨balanced, ?_, lost, ?_⟩
    · intro mark member
      simp only [passedOn_eq, addressesOf_append, List.count_append]
      rcases List.mem_cons.mp member with rfl | older
      · simp only [addressesOf_cons, addressesOf_nil, List.count_cons_self]
        omega
      · have passed := forgotten.marked mark older
        rw [passedOn_eq] at passed
        omega
    · intro online mark member dropped
      rcases remembered_accepted member with rfl | older
      · rw [passedOn] at fresh
        have freed := List.count_pos_iff.mpr (forgotten.lost item.address dropped)
        omega
      · exact forgotten.clean online mark older dropped
  | refused item hand allowed =>
    refine ⟨balanced, marked rfl, ?_, ?_⟩
    · intro a member
      rcases List.mem_cons.mp member with rfl | older
      · exact List.mem_cons_self
      · exact lost a older
    · intro online mark member dropped
      rcases List.mem_cons.mp dropped with newest | older
      · exact allowed online mark member newest
      · exact forgotten.clean online mark member older
  | flush => exact ⟨balanced, marked rfl, flushedLost, offline rfl⟩
  | close => exact ⟨balanced, marked rfl, flushedLost, offline rfl⟩
  | swap setup idle => exact ⟨balanced, marked rfl, flushedLost, offline rfl⟩
  | leave setup idle => exact ⟨balanced, unmarked rfl, flushedLost, offline rfl⟩
  | prepare bootNonce setup idle empty closed =>
    exact ⟨balanced, unmarked rfl, lost, fun _ => unremembered rfl⟩
  | reopen online built => exact ⟨balanced, unmarked rfl, lost, fun _ => unremembered rfl⟩

end RelayLedger

namespace RelaySystem
variable {limits : AncsLimits} {sys : RelaySystem limits}

def remembered (sys : RelaySystem limits) : List (Nat × List UInt8) :=
  (sinceReset sys.marks).take RelayRecentCache.recentCapacity

def AcceptedNow (sys : RelaySystem limits) (notification : AncsNotification limits) : Prop :=
  (sys.run.ctx.observeBegin sys.bootNonce sys.setup notification).2.isSome = true ∧
    sys.run.ctx.finishOutcome sys.bootNonce notification = .accepted

def RepeatsKept (sys : RelaySystem limits) (notification : AncsNotification limits) : Prop :=
  ∃ mark ∈ sys.remembered, mark.2 = buildId notification sys.bootNonce ∧ mark.1 ∉ sys.lost

/-- A lost notification that is seen again, online and with room in the queue, is accepted
    or a duplicate of one that was not lost. -/
def LostAcceptedAgain (sys : RelaySystem limits) : Prop :=
  ∀ a ∈ sys.lost, ∀ sighting, sys.sightings[a]? = some sighting → sys.run.ctx.online = true →
    (∃ items, sys.run.ctx.queue = some items ∧ items.length < queueCapacity) →
    sys.AcceptedNow sighting.notification ∨ sys.RepeatsKept sighting.notification

/-- The relay does not go online while the cache remembers a lost item, and no item that
    the cache remembers is refused by the client while the relay is online. -/
structure ForgetsLost (sys : RelaySystem limits) (action : RelayAction limits) : Prop where
  connects : sys.connects action = true → ∀ mark ∈ sys.remembered, mark.1 ∉ sys.lost
  refuses : ∀ item ∈ sys.refuses action, sys.run.ctx.online = true →
    ∀ mark ∈ sys.remembered, mark.1 ≠ item.address

instance (sys : RelaySystem limits) (action : RelayAction limits) :
    Decidable (ForgetsLost sys action) :=
  decidable_of_iff
    ((sys.connects action = true → ∀ mark ∈ sys.remembered, mark.1 ∉ sys.lost) ∧
      ∀ item ∈ sys.refuses action, sys.run.ctx.online = true →
        ∀ mark ∈ sys.remembered, mark.1 ≠ item.address)
    ⟨fun both => ⟨both.1, both.2⟩, fun forgets => ⟨forgets.connects, forgets.refuses⟩⟩

theorem obeys_forgetful {action : RelayAction limits} (forgets : ForgetsLost sys action) :
    Obeys forgetful sys action :=
  ⟨forgets.connects, fun _ _ => trivial, forgets.refuses⟩

theorem relayed_decides (sighting : RelaySighting limits) (online : sys.run.ctx.online = true)
    (cache : Remembered sys.ledger) :
    sys.run.ctx.decides sys.bootNonce sighting.notification = .publish ∨
      ∃ mark ∈ sys.remembered, mark.2 = buildId sighting.notification sys.bootNonce := by
  have passes : OtherChecksPass sighting.notification (sys.run.ctx.connectivity sys.bootNonce) := by
    simp only [RelayContext.online, Bool.and_eq_true] at online
    exact ⟨sighting.relayable, online.1.2, online.2⟩
  have marked : sys.run.ctx.recent.Marked (idsSinceReset sys.marks) := cache
  rcases policyDecide_cases sighting.notification (sys.run.ctx.connectivity sys.bootNonce)
      sys.run.ctx.recent with ⟨_, decides⟩ | refused
  · cases known : sys.run.ctx.recent.contains (buildId sighting.notification sys.bootNonce) with
    | false =>
      left
      rw [RelayContext.decides, decides]
      simp [RelayContext.connectivity, known]
    | true =>
      right
      rw [RelayRecentCache.contains_iff marked, idsSinceReset, ← List.map_take] at known
      obtain ⟨mark, member, same⟩ := List.mem_map.mp known
      exact ⟨mark, member, same⟩
  · exact absurd passes refused.1

theorem publish_accepted {notification : AncsNotification limits} {items : List PayloadItem}
    (online : sys.run.ctx.online = true)
    (publishes : sys.run.ctx.decides sys.bootNonce notification = .publish)
    (queue : sys.run.ctx.queue = some items) (room : items.length < queueCapacity) :
    sys.AcceptedNow notification := by
  constructor
  · simp [RelayContext.observeBegin, online, publishes]
  · simp [RelayContext.finishOutcome, online, publishes, queue, room]

theorem forgotten_accepted_again (forgotten : Forgotten sys.ledger)
    (cache : Remembered sys.ledger) : LostAcceptedAgain sys := by
  intro a _ sighting _ online room
  obtain ⟨items, queue, room⟩ := room
  rcases relayed_decides sighting online cache with publishes | ⟨mark, member, same⟩
  · exact .inl (publish_accepted online publishes queue room)
  · exact .inr ⟨mark, member, same, forgotten.clean online mark member⟩

/-- In a run that forgets what it lost, a lost notification that is seen again is not held
    to be a duplicate of the lost one. -/
theorem lost_accepted_again_of_forgets (actions : List (RelayAction limits))
    (forgets : AllSteps step ForgetsLost boot actions) :
    AllStates step LostAcceptedAgain boot actions := by
  have start : Forgotten (boot : RelaySystem limits).ledger ∧
      Remembered (boot : RelaySystem limits).ledger := by
    refine ⟨⟨balanced_boot, ?_, ?_, ?_⟩, RelayRecentCache.marked_init⟩
    · simp [ledger, boot, sinceReset]
    · simp [ledger, boot]
    · simp [ledger, boot]
  have obeys : AllSteps step (Obeys forgetful) boot actions :=
    all_steps_mono (fun _ _ forgets => obeys_forgetful forgets) forgets
  have kept (b b' : RelayLedger limits) (holds : Forgotten b ∧ Remembered b)
      (move : Move forgetful b b') : Forgotten b' ∧ Remembered b' :=
    ⟨forgotten_move holds.1 move, remembered_move holds.2 move⟩
  exact all_states_mono (fun _ holds => forgotten_accepted_again holds.1 holds.2)
    (all_ledgers start kept actions obeys)

section Disconnected
open CString MqttRelay

def reconnect {limits : AncsLimits} : List (RelayAction limits) :=
  [.inner (.event .disconnected), .inner (.handler 0 0), .inner (.handler 0 0),
    .inner (.start true), .inner (.lifecycle 0 0), .inner (.lifecycle 0 0),
    .inner (.event .connected), .inner (.handler 0 0), .inner (.handler 0 0), .inner (.handler 0 0),
    .inner (.handler 0 0)]

/-- The item is in the queue when the connection goes away. -/
def queuedThrough : List (RelayAction .default) :=
  bringUp (firstConfig (ascii "phone")) 1 ++
    [.observe chatMessage, .allocate 0 (some []), .finish 0 0] ++ reconnect

def heldBack (sys : RelaySystem limits) : Bool :=
  sys.run.ctx.online && sys.run.ctx.queue.any (fun items => decide (items.length < queueCapacity)) &&
    sys.remembered.all (fun mark => decide (mark.1 ∈ sys.lost)) &&
    sys.lost.any fun a => sys.sightings[a]?.any fun sighting =>
      decide (sys.run.ctx.finishOutcome sys.bootNonce sighting.notification ≠ .accepted)

theorem accepted_again_not_held_back (again : LostAcceptedAgain sys) : heldBack sys = false := by
  by_contra held
  simp only [heldBack, Bool.not_eq_false, Bool.and_eq_true, List.any_eq_true, List.all_eq_true,
    Option.any_eq_true, decide_eq_true_eq] at held
  obtain ⟨⟨⟨online, room⟩, lost⟩, a, dropped, sighting, seen, refused⟩ := held
  rcases again a dropped sighting seen online room with accepted | ⟨mark, member, _, kept⟩
  · exact refused accepted.2
  · exact kept (lost mark member)

/-- The notification that was lost is held to be a duplicate of itself. -/
theorem reconnected_relay_holds_back_a_lost_notification :
    ¬ AllStates step LostAcceptedAgain (boot : RelaySystem .default) queuedThrough := by
  intro all
  have held : heldBack (Runs.run step (boot : RelaySystem .default) queuedThrough) = true := by
    decide +kernel
  rw [accepted_again_not_held_back (all_states_last all)] at held
  cases held

/-- The configuration is changed with an item in the queue, which resets the cache. -/
def queuedAcross : List (RelayAction .default) :=
  bringUp (firstConfig (ascii "phone")) 1 ++
    [.observe chatMessage, .allocate 0 (some []), .finish 0 0] ++ changeConfig otherConfig

theorem lost_accepted_again_of_forgets_reset :
    AllStates step LostAcceptedAgain (boot : RelaySystem .default) queuedAcross :=
  lost_accepted_again_of_forgets queuedAcross (by decide +kernel)

end Disconnected

end RelaySystem
