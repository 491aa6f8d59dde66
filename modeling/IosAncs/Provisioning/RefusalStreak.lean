import Mathlib.Data.List.Basic
import IosAncs.Foundation.Runs
import IosAncs.Provisioning.State

/-!
The refusal streak against the history it stands for. A run is recorded with
its entries; the recovery that ten minutes of refusals open is compared with
the refusals and the outages that the record holds.
-/
open Runs ProvisioningState

/-- One call of the reducer: the state it got, the event and the time. -/
structure ProvisioningEntry where
  before : ProvisioningState
  event : ProvisioningEvent
  nowMs : UInt64
deriving DecidableEq, Repr

structure ProvisioningRecord where
  state : ProvisioningState
  entries : List ProvisioningEntry
deriving DecidableEq, Repr

namespace ProvisioningRecord
open ProvisioningState

def start : ProvisioningRecord := { state := initial, entries := [] }

def step (record : ProvisioningRecord) (input : ProvisioningEvent × UInt64) : ProvisioningRecord :=
  { state := reduce record.state input.1 input.2
    entries := record.entries ++ [{ before := record.state, event := input.1, nowMs := input.2 }] }

def endsSeries (latest : UInt64) (entry : ProvisioningEntry) : Bool :=
  match entry.event with
  | .mqttConnected => entry.before.wifiConnected
  | .bootNoConfig | .bootValidConfig => true
  | .mqttFailed => decide (mqttRefusalPairMs < entry.nowMs - latest)
  | .wifiDisconnected | .wifiTimeout => true
  | _ => false

def latestRefusal : UInt64 → List ProvisioningEntry → UInt64
  | latest, [] => latest
  | latest, entry :: rest =>
    latestRefusal (if entry.event = .mqttRejected then entry.nowMs else latest) rest

def unbroken : UInt64 → List ProvisioningEntry → Bool
  | _, [] => true
  | latest, entry :: rest =>
    !endsSeries latest entry &&
      unbroken (if entry.event = .mqttRejected then entry.nowMs else latest) rest

def refused (entry : ProvisioningEntry) : Bool :=
  decide (entry.event = .mqttRejected) && entry.before.mqttSettingsVerified

def TenMinutesRefused (entries : List ProvisioningEntry) : Prop :=
  ∃ earlier first between last, entries = earlier ++ first :: (between ++ [last]) ∧
    refused first ∧ refused last ∧ first.nowMs ≤ last.nowMs ∧
    mqttRejectedRecoveryMs ≤ last.nowMs - first.nowMs ∧ unbroken first.nowMs between

def seriesFrom (first : ProvisioningEntry) (rest : List ProvisioningEntry) : Bool :=
  match rest.getLast? with
  | none => false
  | some last => refused first && refused last && decide (first.nowMs ≤ last.nowMs) &&
      decide (mqttRejectedRecoveryMs ≤ last.nowMs - first.nowMs) && unbroken first.nowMs rest.dropLast

theorem ten_minutes_cons (head : ProvisioningEntry) (rest : List ProvisioningEntry) :
    TenMinutesRefused (head :: rest) ↔ seriesFrom head rest ∨ TenMinutesRefused rest := by
  constructor
  · rintro ⟨earlier, first, between, last, split, series⟩
    cases earlier with
    | nil =>
      obtain ⟨rfl, rfl⟩ := List.cons.inj split
      left
      simpa [seriesFrom, and_assoc] using series
    | cons _ earlier =>
      obtain ⟨_, same⟩ := List.cons.inj split
      exact .inr ⟨earlier, first, between, last, same, series⟩
  · rintro (series | ⟨earlier, first, between, last, rfl, series⟩)
    · cases ends : rest.getLast? with
      | none => simp [seriesFrom, ends] at series
      | some last =>
        refine ⟨[], head, rest.dropLast, last, ?_, ?_⟩
        · rw [List.nil_append, List.dropLast_append_getLast? last ends]
        · simpa [seriesFrom, ends, and_assoc] using series
    · exact ⟨head :: earlier, first, between, last, rfl, series⟩

instance decidableTenMinutesRefused :
    (entries : List ProvisioningEntry) → Decidable (TenMinutesRefused entries)
  | [] => isFalse (by rintro ⟨earlier, _, _, _, split, _⟩; simp at split)
  | head :: rest =>
    have := decidableTenMinutesRefused rest
    decidable_of_iff _ (ten_minutes_cons head rest).symm

def raises (entry : ProvisioningEntry) : Bool :=
  !entry.before.mqttRefusalRecovery &&
    (reduce entry.before entry.event entry.nowMs).mqttRefusalRecovery

/-- The last call raised `mqtt_refusal_recovery` only after ten minutes of refusals. -/
def RaiseJustified (record : ProvisioningRecord) : Prop :=
  ∀ earlier last, record.entries = earlier ++ [last] → raises last →
    TenMinutesRefused record.entries

/-- An outage during a pending streak that the reducer does not count as one. -/
def outageOverlooked (record : ProvisioningRecord) (input : ProvisioningEvent × UInt64) : Bool :=
  streakPending record.state &&
    match input.1 with
    | .wifiDisconnected | .wifiTimeout => true
    | .mqttFailed => !record.state.wifiConnected && !endsRefusedAttempt record.state input.2
    | _ => false

def NondecreasingTimes (inputs : List (ProvisioningEvent × UInt64)) : Prop :=
  inputs.Pairwise fun a b => a.2 ≤ b.2

instance (inputs : List (ProvisioningEvent × UInt64)) : Decidable (NondecreasingTimes inputs) :=
  inferInstanceAs (Decidable (List.Pairwise _ _))

theorem latestRefusal_snoc (latest : UInt64) (entries : List ProvisioningEntry)
    (entry : ProvisioningEntry) :
    latestRefusal latest (entries ++ [entry]) =
      if entry.event = .mqttRejected then entry.nowMs else latestRefusal latest entries := by
  induction entries generalizing latest with
  | nil => rfl
  | cons head rest ih => exact ih _

theorem unbroken_snoc (latest : UInt64) (entries : List ProvisioningEntry)
    (entry : ProvisioningEntry) :
    unbroken latest (entries ++ [entry]) =
      (unbroken latest entries && !endsSeries (latestRefusal latest entries) entry) := by
  induction entries generalizing latest with
  | nil => simp [unbroken, latestRefusal]
  | cons head rest ih => simp only [List.cons_append, unbroken, latestRefusal, ih, Bool.and_assoc]

structure StreakRecorded (record : ProvisioningRecord) (earlier between : List ProvisioningEntry)
    (first : ProvisioningEntry) : Prop where
  entries : record.entries = earlier ++ first :: between
  refused : refused first
  since : first.nowMs = record.state.mqttRejectedSinceMs
  last : latestRefusal first.nowMs between = record.state.mqttLastRejectedMs
  unbroken : unbroken first.nowMs between

structure StreakInvariant (record : ProvisioningRecord) : Prop where
  verified : record.state.mqttRejecting → record.state.mqttSettingsVerified = false →
    record.state.validConfig = false
  recorded : streakPending record.state →
    ∃ earlier between first, StreakRecorded record earlier between first
  justified : RaiseJustified record

theorem not_ended_of_kept {record : ProvisioningRecord} {event : ProvisioningEvent}
    {nowMs : UInt64} (noticed : outageOverlooked record (event, nowMs) = false)
    (pending : streakPending record.state)
    (boots : event ≠ .bootNoConfig ∧ event ≠ .bootValidConfig)
    (connects : event = .mqttConnected → record.state.wifiConnected = false)
    (fails : event = .mqttFailed →
      record.state.wifiConnected = false ∨ endsRefusedAttempt record.state nowMs) :
    endsSeries record.state.mqttLastRejectedMs { before := record.state, event, nowMs } = false := by
  simp only [outageOverlooked, pending, Bool.true_and] at noticed
  cases event with
  | bootNoConfig => exact absurd rfl boots.1
  | bootValidConfig => exact absurd rfl boots.2
  | mqttConnected => exact connects rfl
  | wifiDisconnected | wifiTimeout => simp at noticed
  | mqttFailed =>
    have same : endsRefusedAttempt record.state nowMs := by
      rcases fails rfl with down | same
      · simpa [down] using noticed
      · exact same
    simp only [endsRefusedAttempt, Bool.and_eq_true, decide_eq_true_eq] at same
    simpa [endsSeries, UInt64.not_lt] using same.2
  | wifiConnected | bondPresent | bondRemoved | bootHeld3s | portalIdleTimeout | mqttRejected
  | mqttSettingsVerified => rfl

theorem streak_snoc {record : ProvisioningRecord} {input : ProvisioningEvent × UInt64}
    {earlier between : List ProvisioningEntry} {first : ProvisioningEntry}
    (h : StreakRecorded record earlier between first)
    (since : (step record input).state.mqttRejectedSinceMs = record.state.mqttRejectedSinceMs)
    (last : (step record input).state.mqttLastRejectedMs =
      if input.1 = .mqttRejected then input.2 else record.state.mqttLastRejectedMs)
    (goes_on : endsSeries record.state.mqttLastRejectedMs
      { before := record.state, event := input.1, nowMs := input.2 } = false) :
    ∃ between, StreakRecorded (step record input) earlier between first := by
  refine ⟨between ++ [{ before := record.state, event := input.1, nowMs := input.2 }], ?_⟩
  refine ⟨by simp [step, h.entries], h.refused, h.since.trans since.symm, ?_, ?_⟩
  · rw [latestRefusal_snoc, h.last, last]
  · rw [unbroken_snoc, h.unbroken, h.last, goes_on]
    rfl

theorem recorded_step {record : ProvisioningRecord} {input : ProvisioningEvent × UInt64}
    (inv : StreakInvariant record) (noticed : outageOverlooked record input = false)
    (pending : streakPending (step record input).state) :
    ∃ earlier between first, StreakRecorded (step record input) earlier between first := by
  obtain ⟨event, nowMs⟩ := input
  cases reduce_streak inv.verified pending with
  | started verified since last =>
    refine ⟨record.entries, [], { before := record.state, event := .mqttRejected, nowMs }, ?_⟩
    exact ⟨rfl, by simpa [refused] using verified, since.symm, last.symm, rfl⟩
  | continued before since last =>
    obtain ⟨earlier, between, first, h⟩ := inv.recorded before
    obtain ⟨longer, extended⟩ := streak_snoc h since last rfl
    exact ⟨earlier, longer, first, extended⟩
  | kept before since last other boots connects fails =>
    obtain ⟨earlier, between, first, h⟩ := inv.recorded before
    have goes_on := not_ended_of_kept noticed before boots connects fails
    obtain ⟨longer, extended⟩ := streak_snoc h since (last.trans (if_neg other).symm) goes_on
    exact ⟨earlier, longer, first, extended⟩

theorem raise_justified_step {record : ProvisioningRecord} {input : ProvisioningEvent × UInt64}
    (inv : StreakInvariant record) :
    RaiseJustified (step record input) := by
  obtain ⟨event, nowMs⟩ := input
  intro earlier last split raised
  obtain ⟨_, newest⟩ := List.append_inj' split rfl
  obtain rfl := List.singleton_inj.mp newest
  simp only [raises, Bool.and_eq_true, Bool.not_eq_true'] at raised
  obtain ⟨rfl, pending, ordered, enough⟩ := reduce_raises raised.1 raised.2
  obtain ⟨prior, between, first, h⟩ := inv.recorded pending
  refine ⟨prior, first, between,
    { before := record.state, event := .mqttRejected, nowMs }, ?_, h.refused, ?_, ?_, ?_, h.unbroken⟩
  · simp only [step, h.entries, List.append_assoc, List.cons_append]
  · simp only [streakPending, Bool.and_eq_true] at pending
    simp [refused, pending.1.2]
  · rw [h.since]
    exact ordered
  · rw [h.since]
    exact enough

theorem invariant_step (record : ProvisioningRecord) (input : ProvisioningEvent × UInt64)
    (inv : StreakInvariant record) (noticed : outageOverlooked record input = false) :
    StreakInvariant (step record input) where
  verified := reduce_verified inv.verified
  recorded := recorded_step inv noticed
  justified := raise_justified_step inv

theorem invariant_start : StreakInvariant start where
  verified := by simp [start, initial]
  recorded := by simp [start, initial, streakPending]
  justified := by
    intro earlier last split
    simp [start] at split

/-- In every run in which no outage during a pending streak is overlooked, the
    recovery is only raised by ten minutes of refusals. -/
theorem refusal_recovery_needs_ten_minutes (inputs : List (ProvisioningEvent × UInt64))
    (noticed : AllSteps step (fun record input => outageOverlooked record input = false)
      start inputs) :
    AllStates step RaiseJustified start inputs := by
  have invariants := all_states_of_steps invariant_step invariant_start noticed
  exact all_states_mono (fun _ inv => inv.justified) invariants

/-- A broker that refuses a verified login for ten minutes, each attempt closed by
    its own failure. -/
def refusedForTenMinutes : List (ProvisioningEvent × UInt64) :=
  [(.bootValidConfig, 0), (.wifiConnected, 1), (.mqttConnected, 2), (.mqttRejected, 10),
    (.mqttFailed, 11), (.mqttRejected, 300000), (.mqttFailed, 300001), (.mqttRejected, 600010)]

theorem refusal_recovery_needs_ten_minutes_refused :
    (run step start refusedForTenMinutes).state.mqttRefusalRecovery = true ∧
      AllStates step RaiseJustified start refusedForTenMinutes :=
  ⟨by decide, refusal_recovery_needs_ten_minutes refusedForTenMinutes (by decide)⟩

/-- Two refusals ten minutes apart, with Wi-Fi lost and found between them. -/
def refusedAroundOutage : List (ProvisioningEvent × UInt64) :=
  [(.bootValidConfig, 0), (.wifiConnected, 1), (.mqttConnected, 2), (.mqttRejected, 10),
    (.wifiDisconnected, 20), (.wifiConnected, 600000), (.mqttRejected, 600010)]

theorem outage_counts_as_refusals :
    NondecreasingTimes refusedAroundOutage ∧ ¬ RaiseJustified (run step start refusedAroundOutage) := by
  refine ⟨by decide, ?_⟩
  intro justified
  have justified := justified (run step start refusedAroundOutage.dropLast).entries
    { before := (run step start refusedAroundOutage.dropLast).state
      event := .mqttRejected
      nowMs := 600010 } (by decide) (by decide)
  exact absurd justified (by decide)

end ProvisioningRecord
