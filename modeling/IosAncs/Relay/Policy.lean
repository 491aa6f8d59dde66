import IosAncs.Foundation.RecentRing
import IosAncs.Relay.Context
import IosAncs.Relay.RelayId

/-!
The relay's decision on a notification, and the ids of the last accepted ones in
which it looks for duplicates. The source is `relay_policy.c`.
-/
open CString

/-- `relay_decision_t` -/
inductive RelayDecision where
  | publish
  | dropPreExisting
  | dropOffline
  | dropEcho
  | dropDuplicate
  | dropIncomplete
  | dropInvalid
  | dropEvent
deriving DecidableEq, Repr

structure RelayConnectivity where
  wifiConnected : Bool
  mqttConnected : Bool
  bootNonce : UInt32
deriving DecidableEq, Repr

namespace RelayPolicy
variable {limits : AncsLimits}

def haAppId : List UInt8 := ascii "io.robbie.HomeAssistant"

def isHomeAssistantNotification (notification : AncsNotification limits) : Bool :=
  text notification.appId == haAppId

def eventFlagPreExisting : UInt8 := 4

/-- `relay_policy_decide`, given a cache. -/
def policyDecide (notification : AncsNotification limits) (connectivity : RelayConnectivity)
    (cache : RelayRecentCache) : RelayDecision :=
  if isBlank notification.appId then .dropInvalid
  else if notification.eventId ≠ 0 && notification.eventId ≠ 1 then .dropEvent
  else if !notification.complete then .dropIncomplete
  else if notification.eventFlags &&& eventFlagPreExisting ≠ 0 then .dropPreExisting
  else if !connectivity.wifiConnected || !connectivity.mqttConnected then .dropOffline
  else if isHomeAssistantNotification notification then .dropEcho
  else if cache.contains (buildId notification connectivity.bootNonce) then .dropDuplicate
  else .publish

structure Relayable (notification : AncsNotification limits) : Prop where
  named : isBlank notification.appId = false
  event : notification.eventId = 0 ∨ notification.eventId = 1
  complete : notification.complete = true
  fresh : notification.eventFlags &&& eventFlagPreExisting = 0
  foreign : isHomeAssistantNotification notification = false

def OtherChecksPass (notification : AncsNotification limits) (connectivity : RelayConnectivity) :
    Prop :=
  Relayable notification ∧ connectivity.wifiConnected = true ∧ connectivity.mqttConnected = true

/-- Once the other checks pass, the cache decides; until then no duplicate is reported. -/
theorem policyDecide_cases (notification : AncsNotification limits)
    (connectivity : RelayConnectivity) (cache : RelayRecentCache) :
    (OtherChecksPass notification connectivity ∧
      policyDecide notification connectivity cache =
        if cache.contains (buildId notification connectivity.bootNonce) then .dropDuplicate
        else .publish) ∨
    (¬ OtherChecksPass notification connectivity ∧
      policyDecide notification connectivity cache ≠ .dropDuplicate ∧
      policyDecide notification connectivity cache ≠ .publish) := by
  by_cases passes : OtherChecksPass notification connectivity
  · left
    obtain ⟨⟨named, event, complete, fresh, foreign⟩, wifi, mqtt⟩ := passes
    refine ⟨⟨⟨named, event, complete, fresh, foreign⟩, wifi, mqtt⟩, ?_⟩
    have known : (notification.eventId ≠ 0 && notification.eventId ≠ 1) = false := by
      rcases event with zero | one
      · simp [zero]
      · simp [one]
    unfold policyDecide
    simp only [named, known, complete, fresh, wifi, mqtt, foreign, Bool.false_eq_true, ↓reduceIte,
      Bool.not_true, Bool.or_false, ne_eq, not_true_eq_false]
  · right
    refine ⟨passes, ?_⟩
    unfold policyDecide
    split
    · exact ⟨nofun, nofun⟩
    · next named =>
      split
      · exact ⟨nofun, nofun⟩
      · next event =>
        split
        · exact ⟨nofun, nofun⟩
        · next complete =>
          split
          · exact ⟨nofun, nofun⟩
          · next fresh =>
            split
            · exact ⟨nofun, nofun⟩
            · next online =>
              split
              · exact ⟨nofun, nofun⟩
              · next foreign =>
                exfalso
                apply passes
                simp only [Bool.or_eq_true, Bool.not_eq_true', not_or, Bool.not_eq_false] at online
                constructor
                · constructor
                  · exact Bool.eq_false_iff.mpr named
                  · by_contra neither
                    apply event
                    simp only [not_or] at neither
                    simp [neither.1, neither.2]
                  · simpa using complete
                  · simpa using fresh
                  · exact Bool.eq_false_iff.mpr foreign
                · exact online

theorem policyDecide_publish_iff (notification : AncsNotification limits)
    (connectivity : RelayConnectivity) (cache : RelayRecentCache) :
    policyDecide notification connectivity cache = .publish ↔
      OtherChecksPass notification connectivity ∧
        cache.contains (buildId notification connectivity.bootNonce) = false := by
  rcases policyDecide_cases notification connectivity cache with ⟨passes, decides⟩ | refused
  · rw [decides]
    cases known : cache.contains (buildId notification connectivity.bootNonce) with
    | true => simp
    | false => simp [passes]
  · constructor
    · intro publishes
      exact absurd publishes refused.2.2
    · intro admitted
      exact absurd admitted.1 refused.1

theorem policyDecide_duplicate_iff (notification : AncsNotification limits)
    (connectivity : RelayConnectivity) (cache : RelayRecentCache) :
    policyDecide notification connectivity cache = .dropDuplicate ↔
      OtherChecksPass notification connectivity ∧
        cache.contains (buildId notification connectivity.bootNonce) = true := by
  rcases policyDecide_cases notification connectivity cache with ⟨passes, decides⟩ | refused
  · rw [decides]
    cases known : cache.contains (buildId notification connectivity.bootNonce) with
    | true => simp [passes]
    | false => simp
  · constructor
    · intro duplicate
      exact absurd duplicate refused.2.1
    · intro admitted
      exact absurd admitted.1 refused.1

end RelayPolicy

namespace RelayRecentCache
open RecentRing

def Marked (cache : RelayRecentCache) (ids : List (List UInt8)) : Prop :=
  Remembers cache.relayIds cache.nextIndex cache.count ids

theorem marked_init : Marked init [] := remembers_nothing _

theorem marked_markRecent {cache : RelayRecentCache} {ids : List (List UInt8)}
    (marked : Marked cache ids) (relayId : List UInt8) :
    Marked (cache.markRecent relayId) (relayId :: ids) :=
  remembers_written (by decide) marked relayId

theorem contains_iff {cache : RelayRecentCache} {ids : List (List UInt8)}
    (marked : Marked cache ids) (relayId : List UInt8) :
    cache.contains relayId = true ↔ relayId ∈ ids.take recentCapacity := by
  unfold contains
  rw [List.contains_iff_mem]
  exact mem_taken_iff marked relayId

end RelayRecentCache
