import IosAncs.Relay.Simulation

/-!
Two acceptances of one relay id: between them lies a reset of the recent cache or as
many other acceptances as the cache has room for, unless an item is accepted whose id
is older than the boot nonce.
-/
open Runs RelayContext RelayPolicy RelayLedger

namespace RelayMark

def sinceReset : List RelayMark → List (Nat × List UInt8)
  | [] => []
  | .reset :: _ => []
  | .accepted address relayId :: older => (address, relayId) :: sinceReset older

def idsSinceReset (marks : List RelayMark) : List (List UInt8) := (sinceReset marks).map Prod.snd

def acceptances (marks : List RelayMark) : Nat := marks.countP fun mark => mark ≠ .reset

/-- A reset, or enough other acceptances, between any two acceptances of an id. -/
def Separated (marks : List RelayMark) : Prop :=
  ∀ newer between older second first relayId,
    marks = newer ++ .accepted second relayId :: (between ++ .accepted first relayId :: older) →
    .reset ∈ between ∨ RelayRecentCache.recentCapacity ≤ acceptances between

theorem acceptances_unreset {marks : List RelayMark} (unreset : .reset ∉ marks) :
    acceptances marks = marks.length := by
  rw [acceptances, List.countP_eq_length]
  intro mark member
  simp only [ne_eq, decide_not, Bool.not_eq_true', decide_eq_false_iff_not]
  intro same
  exact unreset (same ▸ member)

theorem mem_recent_iff (marks : List RelayMark) (n : Nat) (relayId : List UInt8) :
    relayId ∈ (idsSinceReset marks).take n ↔
      ∃ between first older, marks = between ++ .accepted first relayId :: older ∧
        .reset ∉ between ∧ between.length < n := by
  induction marks generalizing n with
  | nil => simp [idsSinceReset, sinceReset]
  | cons mark rest ih =>
    cases mark with
    | reset =>
      simp only [idsSinceReset, sinceReset, List.map_nil, List.take_nil, List.not_mem_nil, false_iff]
      intro found
      obtain ⟨between, first, older, split, unreset, _⟩ := found
      cases between with
      | nil => cases split
      | cons newest between =>
        cases split
        exact unreset List.mem_cons_self
    | accepted address markedId =>
      cases n with
      | zero => simp
      | succ n =>
        simp only [idsSinceReset, sinceReset, List.map_cons, List.take_succ_cons, List.mem_cons]
        rw [show relayId ∈ ((sinceReset rest).map Prod.snd).take n ↔ _ from ih n]
        constructor
        · intro either
          rcases either with same | ⟨between, first, older, split, unreset, short⟩
          · exact ⟨[], address, rest, by rw [same]; rfl, by simp, by simp⟩
          · refine ⟨.accepted address markedId :: between, first, older, by rw [split]; rfl, ?_, ?_⟩
            · simpa using unreset
            · simpa using short
        · intro found
          obtain ⟨between, first, older, split, unreset, short⟩ := found
          cases between with
          | nil =>
            cases split
            exact .inl rfl
          | cons newest between =>
            cases split
            right
            refine ⟨between, first, older, rfl, ?_, ?_⟩
            · exact fun reset => unreset (List.mem_cons_of_mem _ reset)
            · simpa using short

theorem separated_nil : Separated [] := by
  intro newer between older second first relayId split
  simp at split

theorem separated_reset_iff (marks : List RelayMark) :
    Separated (.reset :: marks) ↔ Separated marks := by
  constructor
  · intro apart newer between older second first relayId split
    exact apart (.reset :: newer) between older second first relayId (by rw [split]; rfl)
  · intro apart newer between older second first relayId split
    cases newer with
    | nil => cases split
    | cons newest newer =>
      cases split
      exact apart newer between older second first relayId rfl

theorem separated_accepted_iff (marks : List RelayMark) (address : Nat) (relayId : List UInt8) :
    Separated (.accepted address relayId :: marks) ↔
      Separated marks ∧ relayId ∉ (idsSinceReset marks).take RelayRecentCache.recentCapacity := by
  constructor
  · intro apart
    constructor
    · intro newer between older second first relayId split
      exact apart (_ :: newer) between older second first relayId (by rw [split]; rfl)
    · intro recent
      obtain ⟨between, first, older, split, unreset, short⟩ := (mem_recent_iff _ _ _).mp recent
      rcases apart [] between older address first relayId (by rw [split]; rfl) with reset | many
      · exact unreset reset
      · rw [acceptances_unreset unreset] at many
        omega
  · intro ⟨apart, unknown⟩ newer between older second first otherId split
    cases newer with
    | cons newest newer =>
      cases split
      exact apart newer between older second first otherId rfl
    | nil =>
      cases split
      by_cases reset : .reset ∈ between
      · exact .inl reset
      · right
        rw [acceptances_unreset reset]
        by_contra few
        exact unknown ((mem_recent_iff _ _ _).mpr ⟨between, first, older, rfl, reset, by omega⟩)

end RelayMark

open RelayMark

namespace RelayLedger
variable {limits : AncsLimits} {rules : RelayRules limits} {b b' : RelayLedger limits}

def Remembered (b : RelayLedger limits) : Prop := b.recent.Marked (idsSinceReset b.marks)

theorem remembered_move (remembered : Remembered b) (move : Move rules b b') : Remembered b' := by
  cases move with
  | accept sighting item held same topic unknown allowed =>
    exact RelayRecentCache.marked_markRecent remembered sighting.relayId
  | prepare | reopen | leave => exact RelayRecentCache.marked_init
  | _ => exact remembered

/-- An item may be accepted under the nonce of its id, or where the cache does not know it. -/
def fresh (b : RelayLedger limits) (sighting : RelaySighting limits) : Prop :=
  sighting.bootNonce = b.bootNonce ∨ b.recent.contains sighting.relayId = false

theorem fresh_unknown {sighting : RelaySighting limits} (freshness : b.fresh sighting)
    (unknown : b.recent.contains (buildId sighting.notification b.bootNonce) = false) :
    b.recent.contains sighting.relayId = false := by
  rcases freshness with same | absent
  · rw [sighting.built, same]
    exact unknown
  · exact absent

theorem separated_move (remembered : Remembered b) (apart : Separated b.marks)
    (allowed : rules.accepts = fresh) (move : Move rules b b') : Separated b'.marks := by
  cases move with
  | accept sighting item held same topic unknown accepts =>
    rw [allowed] at accepts
    rw [separated_accepted_iff]
    refine ⟨apart, ?_⟩
    rw [← RelayRecentCache.contains_iff remembered, fresh_unknown accepts unknown]
    exact Bool.false_ne_true
  | prepare | reopen | leave => exact (separated_reset_iff _).mpr apart
  | _ => exact apart

end RelayLedger

namespace RelaySystem
variable {limits : AncsLimits} {sys : RelaySystem limits}

/-- Acceptances of one id are apart, and a notification is a duplicate exactly when its id
    is among the last ones. -/
structure Deduplicated (sys : RelaySystem limits) : Prop where
  apart : Separated sys.marks
  decided : ∀ (notification : AncsNotification limits) (connectivity : RelayConnectivity),
    OtherChecksPass notification connectivity →
    (policyDecide notification connectivity sys.run.ctx.recent = .dropDuplicate ↔
      buildId notification connectivity.bootNonce ∈ (idsSinceReset sys.marks).take
        (min RelayRecentCache.recentCapacity (idsSinceReset sys.marks).length))

/-- An item whose id is from an earlier boot is not accepted while that id is in the cache. -/
def AcceptsFresh (sys : RelaySystem limits) (action : RelayAction limits) : Prop :=
  ∀ sighting, sys.accepts action = some sighting →
    sighting.bootNonce = sys.bootNonce ∨ sys.run.ctx.recent.contains sighting.relayId = false

def freshRules : RelayRules limits where
  connects := fun _ => True
  accepts := RelayLedger.fresh
  refuses := fun _ _ => True

theorem obeys_fresh {action : RelayAction limits} (accepts : AcceptsFresh sys action) :
    Obeys freshRules sys action :=
  ⟨fun _ => trivial, accepts, fun _ _ _ => trivial⟩

theorem accepted_marks {action : RelayAction limits} {sighting : RelaySighting limits}
    (accepted : sys.accepts action = some sighting) :
    ∃ address, (sys.step action).marks = .accepted address sighting.relayId :: sys.marks := by
  cases action with
  | finish index nowMs =>
    simp only [accepts] at accepted
    split at accepted
    · next found address payload at_ =>
      split at accepted
      · next outcome =>
        cases accepted
        exact ⟨address, by simp only [step, finish, at_, outcome]⟩
      · cases accepted
    · cases accepted
  | _ => cases accepted

theorem remembered_decides (remembered : Remembered sys.ledger) (apart : Separated sys.marks) :
    Deduplicated sys := by
  have marked : sys.run.ctx.recent.Marked (idsSinceReset sys.marks) := remembered
  refine ⟨apart, ?_⟩
  intro notification connectivity passes
  rw [policyDecide_duplicate_iff, RelayRecentCache.contains_iff marked, ← List.take_eq_take_min]
  exact ⟨fun duplicate => duplicate.2, fun recent => ⟨passes, recent⟩⟩

/-- In a run, acceptances of one id stay apart exactly when no item is accepted whose id
    is from an earlier boot and still in the cache. -/
theorem deduplicated_iff_accepts_fresh (actions : List (RelayAction limits)) :
    AllStates step Deduplicated boot actions ↔ AllSteps step AcceptsFresh boot actions := by
  have start : Separated (boot : RelaySystem limits).marks := separated_nil
  have cache : Remembered (boot : RelaySystem limits).ledger := RelayRecentCache.marked_init
  apply all_states_iff_all_steps (J := fun sys => Controlled sys ∧ Remembered sys.ledger)
  · intro sys action holds _ fresh
    have move := step_moves holds.1 (obeys_fresh fresh)
    exact ⟨controlled_step holds.1 action, remembered_move holds.2 move⟩
  · intro sys action holds good
    constructor
    · intro next sighting accepted
      obtain ⟨address, marks⟩ := accepted_marks accepted
      have marked : sys.run.ctx.recent.Marked (idsSinceReset sys.marks) := holds.2
      have apart := next.apart
      rw [marks, separated_accepted_iff, ← RelayRecentCache.contains_iff marked] at apart
      exact .inr (Bool.eq_false_iff.mpr apart.2)
    · intro fresh
      have move := step_moves holds.1 (obeys_fresh fresh)
      exact remembered_decides (remembered_move holds.2 move)
        (separated_move holds.2 good.apart rfl move)
  · exact ⟨controlled_boot, cache⟩
  · exact remembered_decides cache start

section Restart
open CString

/-- `mqtt_relay_init` and `mqtt_relay_start`, up to the connection. -/
def bringUp {limits : AncsLimits} (config : ProvisionConfig) (bootNonce : UInt32) :
    List (RelayAction limits) :=
  [.call (.init config MqttRelay.thisDevice true bootNonce), .outer (some 0), .outer none,
    .setWifiConnected true, .inner (.start false), .inner (.lifecycle 0 0), .inner (.lifecycle 0 0),
    .inner (.lifecycle 0 0), .inner (.event .connected), .inner (.handler 0 0), .inner (.handler 0 0),
    .inner (.handler 0 0), .inner (.handler 0 0)]

/-- `mqtt_relay_deinit`, with the worker idle. -/
def takeDown {limits : AncsLimits} : List (RelayAction limits) :=
  [.call .deinit, .outer none, .inner (.lifecycle 0 0), .inner (.lifecycle 0 0),
    .inner (.lifecycle 0 0), .inner (.lifecycle 0 0), .inner (.lifecycle 0 0),
    .inner (.lifecycle 0 0), .outer none, .outer none, .inner (.worker .cleanup 0), .outer none,
    .outer none]

def chatMessage : AncsNotification .default :=
  { AncsNotification.zero with
    sessionId := 1
    uid := 7
    appId := ofText 256 (ascii "net.chat")
    complete := true }

/-- Two observers of one notification wait for memory while the relay is taken down and
    set up again. -/
def observedAcross : List (RelayAction .default) :=
  bringUp (MqttRelay.firstConfig (ascii "phone")) 1 ++
    [.observe chatMessage, .observe chatMessage, .allocate 0 (some []), .allocate 0 (some [])] ++
    takeDown ++ bringUp (MqttRelay.firstConfig (ascii "phone")) 2 ++ [.finish 0 0, .finish 0 0]

theorem observedAcross_marks :
    (Runs.run step (boot : RelaySystem .default) observedAcross).marks =
      [.accepted 1 (buildId chatMessage 1), .accepted 0 (buildId chatMessage 1), .reset, .reset,
        .reset] := by
  decide +kernel

/-- Both items are accepted after the restart, under the id of the boot before it. -/
theorem restart_accepts_an_id_twice :
    ¬ AllStates step Deduplicated (boot : RelaySystem .default) observedAcross := by
  intro all
  have apart := (all_states_last all).apart
  rw [observedAcross_marks, separated_accepted_iff] at apart
  exact apart.2 List.mem_cons_self

end Restart

end RelaySystem
