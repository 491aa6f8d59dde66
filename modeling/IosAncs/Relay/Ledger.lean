import Mathlib.Data.List.Perm.Basic
import IosAncs.Relay.System

/-!
The relay seen as a ledger of its items: who holds each one, which are gone and how,
and which of them the recent cache remembers. A move is what one section may do to
the ledger; the rules say which of the moves a run is allowed.
-/
open RelayPolicy RelayRecentCache

structure RelayLedger (limits : AncsLimits) where
  held : List (RelaySighting limits × Nat)
  queue : List PayloadItem
  hand : List PayloadItem
  pending : List PayloadItem
  freed : List Nat
  /-- the counters `accepted` and `published_ack` -/
  counted : UInt32
  acknowledged : UInt32
  recent : RelayRecentCache
  bootNonce : UInt32
  setup : RelaySetup
  /-- what the client was made from, where there is one -/
  client : Option RelaySetup
  online : Bool
  sightings : List (RelaySighting limits)
  accepted : List Nat
  settled : List (Nat × RelayFate)
  marks : List RelayMark
  lost : List Nat
  handed : List RelayHandover

structure RelayRules (limits : AncsLimits) where
  connects : RelayLedger limits → Prop
  accepts : RelayLedger limits → RelaySighting limits → Prop
  refuses : RelayLedger limits → PayloadItem → Prop

namespace RelayLedger
variable {limits : AncsLimits}

def addressesOf (items : List PayloadItem) : List Nat := items.map PayloadItem.address

def places (b : RelayLedger limits) : List Nat :=
  b.held.map Prod.snd ++ addressesOf b.queue ++ addressesOf b.hand ++ addressesOf b.pending ++ b.freed

def kept (b : RelayLedger limits) : List Nat :=
  addressesOf b.queue ++ addressesOf b.hand ++ addressesOf b.pending

def flushed (b : RelayLedger limits) : RelayLedger limits :=
  { b with
    queue := []
    pending := []
    freed := (addressesOf b.pending).reverse ++ ((addressesOf b.queue).reverse ++ b.freed)
    settled := b.queue.map (fun item => (item.address, .flushed)) ++
      b.pending.map (fun item => (item.address, .abandoned)) ++ b.settled
    lost := addressesOf b.queue ++ b.lost
    online := false }

def freeHand (b : RelayLedger limits) (item : PayloadItem) (fate : RelayFate) :
    RelayLedger limits :=
  { b with
    hand := []
    freed := item.address :: b.freed
    settled := (item.address, fate) :: b.settled }

inductive Move (rules : RelayRules limits) (b : RelayLedger limits) : RelayLedger limits → Prop where
  | link (online : Bool) (up : online = true → b.online = true ∨ rules.connects b) :
      Move rules b { b with online }
  | allocate (sighting : RelaySighting limits) (held : List (RelaySighting limits × Nat))
      (same : held.Perm ((sighting, b.sightings.length) :: b.held)) :
      Move rules b { b with held, sightings := b.sightings ++ [sighting] }
  | refuse (sighting : RelaySighting limits) (address : Nat)
      (held : List (RelaySighting limits × Nat)) (same : b.held.Perm ((sighting, address) :: held)) :
      Move rules b { b with held, freed := address :: b.freed }
  | overflow (sighting : RelaySighting limits) (address : Nat)
      (held : List (RelaySighting limits × Nat)) (same : b.held.Perm ((sighting, address) :: held)) :
      Move rules b { b with held, freed := address :: b.freed, lost := address :: b.lost }
  | accept (sighting : RelaySighting limits) (item : PayloadItem)
      (held : List (RelaySighting limits × Nat))
      (same : b.held.Perm ((sighting, item.address) :: held)) (topic : item.topic = sighting.topic)
      (unknown : b.recent.contains (buildId sighting.notification b.bootNonce) = false)
      (allowed : rules.accepts b sighting) :
      Move rules b { b with
        held
        queue := b.queue ++ [item]
        counted := b.counted + 1
        recent := b.recent.markRecent sighting.relayId
        accepted := item.address :: b.accepted
        marks := .accepted item.address sighting.relayId :: b.marks }
  | take (item : PayloadItem) (rest : List PayloadItem) (queue : b.queue = item :: rest)
      (idle : b.hand = []) : Move rules b { b with queue := rest, hand := [item] }
  | handOver (item : PayloadItem) (client : RelaySetup) (hand : b.hand = [item])
      (made : b.client = some client) :
      Move rules b { b with handed := { item, client } :: b.handed }
  | refused (item : PayloadItem) (hand : b.hand = [item])
      (allowed : b.online = true → rules.refuses b item) :
      Move rules b { b.freeHand item .refused with lost := item.address :: b.lost }
  | abandon (item : PayloadItem) (hand : b.hand = [item]) :
      Move rules b (b.freeHand item .abandoned)
  | track (item : PayloadItem) (msgId : Int) (hand : b.hand = [item]) :
      Move rules b { b with hand := [], pending := { item with msgId } :: b.pending }
  | acknowledge (item : PayloadItem) (newer older : List PayloadItem)
      (pending : b.pending = newer ++ item :: older) :
      Move rules b { b with
        pending := newer ++ older
        freed := item.address :: b.freed
        settled := (item.address, .acknowledged) :: b.settled
        acknowledged := b.acknowledged + 1 }
  | flush : Move rules b b.flushed
  | close : Move rules b { b.flushed with client := none }
  | swap (setup : RelaySetup) (idle : b.hand = []) :
      Move rules b { b.flushed with setup, client := none }
  | prepare (bootNonce : UInt32) (setup : RelaySetup) (idle : b.hand = []) (empty : b.queue = [])
      (closed : b.client = none) :
      Move rules b { b with bootNonce, setup, recent := .init, marks := .reset :: b.marks }
  | create (built : MqttRelay.buildAllTopics b.setup.config = .ok b.setup.topics) :
      Move rules b { b with client := some b.setup }
  | reopen (online : Bool)
      (built : MqttRelay.buildAllTopics b.setup.config = .ok b.setup.topics) :
      Move rules b { b with
        client := some b.setup, recent := .init, marks := .reset :: b.marks, online }
  | leave (setup : RelaySetup) (idle : b.hand = []) :
      Move rules b { b.flushed with
        setup
        client := none
        counted := 0
        acknowledged := 0
        recent := .init
        bootNonce := 0
        accepted := []
        settled := []
        marks := .reset :: b.marks }

/-- Every allocated item is in one place, and the accepted ones are accounted for. -/
structure Balanced (b : RelayLedger limits) : Prop where
  places : b.places.Perm (List.range b.sightings.length)
  accounted : b.accepted.Perm (b.kept ++ b.settled.map Prod.fst)
  counted : b.counted = UInt32.ofNat b.accepted.length
  acknowledged : b.acknowledged =
    UInt32.ofNat (b.settled.countP fun entry => entry.2 = .acknowledged)

theorem count_places (b : RelayLedger limits) (a : Nat) :
    b.places.count a = (b.held.map Prod.snd).count a + (addressesOf b.queue).count a +
      (addressesOf b.hand).count a + (addressesOf b.pending).count a + b.freed.count a := by
  simp only [places, List.count_append]

theorem count_kept (b : RelayLedger limits) (a : Nat) :
    b.kept.count a = (addressesOf b.queue).count a + (addressesOf b.hand).count a +
      (addressesOf b.pending).count a := by
  simp only [kept, List.count_append]

theorem count_held {held rest : List (RelaySighting limits × Nat)}
    {entry : RelaySighting limits × Nat} (same : held.Perm (entry :: rest)) (a : Nat) :
    (held.map Prod.snd).count a = (rest.map Prod.snd).count a + [entry.2].count a := by
  rw [(same.map Prod.snd).count_eq, List.map_cons, List.count_cons, List.count_cons, List.count_nil]
  omega

@[simp] theorem addressesOf_nil : addressesOf [] = [] := rfl

@[simp] theorem addressesOf_cons (item : PayloadItem) (items : List PayloadItem) :
    addressesOf (item :: items) = item.address :: addressesOf items := rfl

@[simp] theorem addressesOf_append (first last : List PayloadItem) :
    addressesOf (first ++ last) = addressesOf first ++ addressesOf last := List.map_append

theorem places_moved {b b' : RelayLedger limits} (balanced : Balanced b)
    (sightings : b'.sightings = b.sightings)
    (moved : ∀ a, b'.places.count a = b.places.count a) :
    b'.places.Perm (List.range b'.sightings.length) := by
  rw [sightings]
  exact (List.perm_iff_count.mpr moved).trans balanced.places

theorem accounted_moved {b b' : RelayLedger limits} (balanced : Balanced b)
    (accepted : b'.accepted = b.accepted)
    (moved : ∀ a, b'.kept.count a + (b'.settled.map Prod.fst).count a =
      b.kept.count a + (b.settled.map Prod.fst).count a) :
    b'.accepted.Perm (b'.kept ++ b'.settled.map Prod.fst) := by
  rw [accepted]
  refine balanced.accounted.trans (List.perm_iff_count.mpr ?_)
  intro a
  rw [List.count_append, List.count_append, moved]

theorem flushed_places (b : RelayLedger limits) (a : Nat) :
    b.flushed.places.count a = b.places.count a := by
  rw [count_places, count_places]
  simp only [flushed, addressesOf_nil, List.count_nil, List.count_append, List.count_reverse]
  omega

theorem flushed_kept (b : RelayLedger limits) (a : Nat) :
    b.flushed.kept.count a + (b.flushed.settled.map Prod.fst).count a =
      b.kept.count a + (b.settled.map Prod.fst).count a := by
  have names (items : List PayloadItem) (fate : RelayFate) :
      (items.map fun item => (item.address, fate)).map Prod.fst = addressesOf items := by
    simp [addressesOf]
  rw [count_kept, count_kept]
  simp only [flushed, addressesOf_nil, List.count_nil, List.map_append, names, List.count_append]
  omega

theorem flushed_acknowledged (b : RelayLedger limits) :
    (b.flushed.settled.countP fun entry => entry.2 = .acknowledged) =
      b.settled.countP fun entry => entry.2 = .acknowledged := by
  simp [flushed, List.countP_append, List.countP_map, Function.comp_def]

theorem balanced_flushed {b : RelayLedger limits} (balanced : Balanced b) : Balanced b.flushed where
  places := places_moved balanced rfl (flushed_places b)
  accounted := accounted_moved balanced rfl (flushed_kept b)
  counted := balanced.counted
  acknowledged := by
    rw [flushed_acknowledged]
    exact balanced.acknowledged

theorem balanced_freeHand {b : RelayLedger limits} (balanced : Balanced b) {item : PayloadItem}
    (hand : b.hand = [item]) (fate : RelayFate) (unanswered : fate ≠ .acknowledged) :
    Balanced (b.freeHand item fate) where
  places := by
    refine places_moved balanced rfl ?_
    intro a
    rw [count_places, count_places, hand]
    simp only [freeHand, addressesOf_nil, addressesOf_cons, List.count_cons, List.count_nil]
    omega
  accounted := by
    refine accounted_moved balanced rfl ?_
    intro a
    rw [count_kept, count_kept, hand]
    simp only [freeHand, addressesOf_nil, addressesOf_cons, List.map_cons, List.count_cons,
      List.count_nil]
    omega
  counted := balanced.counted
  acknowledged := by
    simpa [freeHand, unanswered] using balanced.acknowledged

theorem ofNat_succ (n : Nat) : UInt32.ofNat (n + 1) = UInt32.ofNat n + 1 := by
  rw [UInt32.ofNat_add]
  rfl

theorem balanced_move {rules : RelayRules limits} {b b' : RelayLedger limits}
    (balanced : Balanced b) (move : Move rules b b') : Balanced b' := by
  cases move with
  | link online up => exact ⟨balanced.places, balanced.accounted, balanced.counted, balanced.acknowledged⟩
  | allocate sighting held same =>
    refine ⟨?_, balanced.accounted, balanced.counted, balanced.acknowledged⟩
    simp only [List.length_append, List.length_cons, List.length_nil, List.range_succ]
    refine List.Perm.trans ?_ (balanced.places.append_right [b.sightings.length])
    apply List.perm_iff_count.mpr
    intro a
    rw [count_places, List.count_append, count_places]
    simp only [count_held same]
    omega
  | refuse sighting address held same =>
    refine ⟨places_moved balanced rfl ?_, balanced.accounted, balanced.counted, balanced.acknowledged⟩
    intro a
    rw [count_places, count_places, count_held same]
    simp only [List.count_cons, List.count_nil]
    omega
  | overflow sighting address held same =>
    refine ⟨places_moved balanced rfl ?_, balanced.accounted, balanced.counted, balanced.acknowledged⟩
    intro a
    rw [count_places, count_places, count_held same]
    simp only [List.count_cons, List.count_nil]
    omega
  | accept sighting item held same topic unknown allowed =>
    refine ⟨places_moved balanced rfl ?_, ?_, ?_, balanced.acknowledged⟩
    · intro a
      rw [count_places, count_places, count_held same]
      simp only [addressesOf_append, addressesOf_cons, addressesOf_nil, List.count_append]
      omega
    · refine (balanced.accounted.cons item.address).trans (List.perm_iff_count.mpr ?_)
      intro a
      rw [List.count_cons, List.count_append, List.count_append, count_kept, count_kept]
      simp only [addressesOf_append, addressesOf_cons, addressesOf_nil, List.count_append,
        List.count_cons, List.count_nil]
      omega
    · simp only [List.length_cons, ofNat_succ, balanced.counted]
  | take item rest queue idle =>
    refine ⟨places_moved balanced rfl ?_, accounted_moved balanced rfl ?_, balanced.counted,
      balanced.acknowledged⟩
    · intro a
      rw [count_places, count_places, queue, idle]
      simp only [addressesOf_cons, addressesOf_nil, List.count_cons, List.count_nil]
      omega
    · intro a
      rw [count_kept, count_kept, queue, idle]
      simp only [addressesOf_cons, addressesOf_nil, List.count_cons, List.count_nil]
      omega
  | handOver item client hand made =>
    exact ⟨balanced.places, balanced.accounted, balanced.counted, balanced.acknowledged⟩
  | refused item hand allowed =>
    have put := balanced_freeHand balanced hand .refused nofun
    exact ⟨put.places, put.accounted, put.counted, put.acknowledged⟩
  | abandon item hand => exact balanced_freeHand balanced hand .abandoned nofun
  | track item msgId hand =>
    refine ⟨places_moved balanced rfl ?_, accounted_moved balanced rfl ?_, balanced.counted,
      balanced.acknowledged⟩
    · intro a
      rw [count_places, count_places, hand]
      simp only [addressesOf_cons, addressesOf_nil, List.count_cons, List.count_nil]
      omega
    · intro a
      rw [count_kept, count_kept, hand]
      simp only [addressesOf_cons, addressesOf_nil, List.count_cons, List.count_nil]
      omega
  | acknowledge item newer older pending =>
    refine ⟨places_moved balanced rfl ?_, accounted_moved balanced rfl ?_, balanced.counted, ?_⟩
    · intro a
      rw [count_places, count_places, pending]
      simp only [addressesOf_append, addressesOf_cons, List.count_append, List.count_cons]
      omega
    · intro a
      rw [count_kept, count_kept, pending]
      simp only [addressesOf_append, addressesOf_cons, List.count_append, List.count_cons,
        List.map_cons]
      omega
    · simp [ofNat_succ, balanced.acknowledged]
  | flush => exact balanced_flushed balanced
  | close =>
    have put := balanced_flushed balanced
    exact ⟨put.places, put.accounted, put.counted, put.acknowledged⟩
  | swap setup idle =>
    have put := balanced_flushed balanced
    exact ⟨put.places, put.accounted, put.counted, put.acknowledged⟩
  | prepare bootNonce setup idle empty closed =>
    exact ⟨balanced.places, balanced.accounted, balanced.counted, balanced.acknowledged⟩
  | create built => exact ⟨balanced.places, balanced.accounted, balanced.counted, balanced.acknowledged⟩
  | reopen online built =>
    exact ⟨balanced.places, balanced.accounted, balanced.counted, balanced.acknowledged⟩
  | leave setup idle =>
    have put := balanced_flushed balanced
    refine ⟨put.places, ?_, rfl, rfl⟩
    simp [kept, flushed, idle]

end RelayLedger
