import Mathlib.Tactic.Common

/-!
The provisioning reducer. What it can do to the refusal streak, two flags and
two timestamps, is said once here, event by event.
The source is `provisioning_state.c`.
-/

inductive ProvisioningEvent where
  | bootNoConfig
  | bootValidConfig
  | wifiConnected
  | wifiTimeout
  | mqttConnected
  | mqttFailed
  | bondPresent
  | bondRemoved
  | bootHeld3s
  | portalIdleTimeout
  | wifiDisconnected
  | mqttRejected
  | mqttSettingsVerified
deriving DecidableEq, Repr

structure ProvisioningState where
  validConfig : Bool
  wifiConnected : Bool
  mqttConnected : Bool
  hasBond : Bool
  recoveryRequired : Bool
  recoveryWindow : Bool
  apRequired : Bool
  staRequired : Bool
  mqttSettingsVerified : Bool
  mqttRejecting : Bool
  mqttRefusalRecovery : Bool
  recoveryDeadlineMs : UInt64
  mqttRejectedSinceMs : UInt64
  mqttLastRejectedMs : UInt64
deriving DecidableEq, Repr

namespace ProvisioningState

def recoveryWindowMs : UInt64 := 600000
def mqttRejectedRecoveryMs : UInt64 := 600000
def mqttRefusalPairMs : UInt64 := 3000

def reconcileRequirements (state : ProvisioningState) : ProvisioningState :=
  { state with
    staRequired := state.validConfig
    apRequired := !state.validConfig || state.recoveryRequired || state.recoveryWindow }

def forgetMqttRefusal (state : ProvisioningState) : ProvisioningState :=
  { state with
    mqttRejecting := false
    mqttRefusalRecovery := false
    mqttRejectedSinceMs := 0
    mqttLastRejectedMs := 0 }

def forgetMqttSettings (state : ProvisioningState) : ProvisioningState :=
  forgetMqttRefusal { state with mqttSettingsVerified := false }

def endsRefusedAttempt (state : ProvisioningState) (nowMs : UInt64) : Bool :=
  state.mqttRejecting && decide (state.mqttLastRejectedMs ≤ nowMs) &&
    decide (nowMs - state.mqttLastRejectedMs ≤ mqttRefusalPairMs)

/-- `provisioning_initial`: all bytes zero. -/
def initial : ProvisioningState where
  validConfig := false
  wifiConnected := false
  mqttConnected := false
  hasBond := false
  recoveryRequired := false
  recoveryWindow := false
  apRequired := false
  staRequired := false
  mqttSettingsVerified := false
  mqttRejecting := false
  mqttRefusalRecovery := false
  recoveryDeadlineMs := 0
  mqttRejectedSinceMs := 0
  mqttLastRejectedMs := 0

def boot (current : ProvisioningState) (validConfig : Bool) : ProvisioningState :=
  forgetMqttSettings { current with
    validConfig
    wifiConnected := false
    mqttConnected := false
    recoveryRequired := false
    recoveryWindow := false
    recoveryDeadlineMs := 0 }

def mqttFailed (current : ProvisioningState) (nowMs : UInt64) : ProvisioningState :=
  let current := { current with mqttConnected := false }
  if !current.mqttSettingsVerified then { current with recoveryRequired := true }
  else if !current.wifiConnected || endsRefusedAttempt current nowMs then current
  else
    let current := if !current.mqttRefusalRecovery then forgetMqttRefusal current else current
    { current with recoveryRequired := current.mqttRefusalRecovery }

def mqttRejected (current : ProvisioningState) (nowMs : UInt64) : ProvisioningState :=
  let current := { current with mqttConnected := false }
  if !current.mqttSettingsVerified then { current with recoveryRequired := true }
  else
    let current := if !current.mqttRejecting then
        { current with mqttRejecting := true, mqttRejectedSinceMs := nowMs }
      else current
    let current := { current with mqttLastRejectedMs := nowMs }
    let current := if current.mqttRejectedSinceMs ≤ nowMs ∧
          mqttRejectedRecoveryMs ≤ nowMs - current.mqttRejectedSinceMs then
        { current with mqttRefusalRecovery := true }
      else current
    if current.wifiConnected then { current with recoveryRequired := current.mqttRefusalRecovery }
    else current

/-- The switch of `provisioning_reduce`, before the requirements are reconciled. -/
def handle (current : ProvisioningState) (event : ProvisioningEvent) (nowMs : UInt64) :
    ProvisioningState :=
  match event with
  | .bootNoConfig => boot current false
  | .bootValidConfig => boot current true
  | .wifiConnected => { current with wifiConnected := true }
  | .wifiDisconnected => { current with wifiConnected := false, mqttConnected := false }
  | .wifiTimeout =>
    { current with wifiConnected := false, mqttConnected := false, recoveryRequired := true }
  | .mqttConnected =>
    let current := { current with mqttConnected := current.wifiConnected }
    if current.mqttConnected then
      forgetMqttRefusal { current with recoveryRequired := false, mqttSettingsVerified := true }
    else current
  | .mqttFailed => mqttFailed current nowMs
  | .mqttRejected => mqttRejected current nowMs
  | .mqttSettingsVerified => { current with mqttSettingsVerified := current.validConfig }
  | .bondPresent => { current with hasBond := true }
  | .bondRemoved => { current with hasBond := false }
  | .bootHeld3s =>
    { current with
      recoveryWindow := true
      recoveryDeadlineMs :=
        if 0xFFFFFFFFFFFFFFFF - recoveryWindowMs < nowMs then 0xFFFFFFFFFFFFFFFF
        else nowMs + recoveryWindowMs }
  | .portalIdleTimeout =>
    if current.recoveryWindow ∧ current.recoveryDeadlineMs ≤ nowMs then
      { current with recoveryWindow := false, recoveryDeadlineMs := 0 }
    else current

def reduce (current : ProvisioningState) (event : ProvisioningEvent) (nowMs : UInt64) :
    ProvisioningState :=
  reconcileRequirements (handle current event nowMs)

/-- A streak that later refusals can still turn into a recovery. -/
def streakPending (state : ProvisioningState) : Bool :=
  state.mqttRejecting && state.mqttSettingsVerified && !state.mqttRefusalRecovery

inductive StreakStep (s : ProvisioningState) (nowMs : UInt64) (r : ProvisioningState) :
    ProvisioningEvent → Prop where
  | started (verified : s.mqttSettingsVerified) (since : r.mqttRejectedSinceMs = nowMs)
      (last : r.mqttLastRejectedMs = nowMs) : StreakStep s nowMs r .mqttRejected
  | continued (pending : streakPending s) (since : r.mqttRejectedSinceMs = s.mqttRejectedSinceMs)
      (last : r.mqttLastRejectedMs = nowMs) : StreakStep s nowMs r .mqttRejected
  | kept {event : ProvisioningEvent} (pending : streakPending s)
      (since : r.mqttRejectedSinceMs = s.mqttRejectedSinceMs)
      (last : r.mqttLastRejectedMs = s.mqttLastRejectedMs) (other : event ≠ .mqttRejected)
      (boots : event ≠ .bootNoConfig ∧ event ≠ .bootValidConfig)
      (connects : event = .mqttConnected → s.wifiConnected = false)
      (fails : event = .mqttFailed → s.wifiConnected = false ∨ endsRefusedAttempt s nowMs) :
      StreakStep s nowMs r event

theorem reconcile_streak (state : ProvisioningState) :
    streakPending (reconcileRequirements state) = streakPending state := rfl

theorem rejected_streak {s : ProvisioningState} {nowMs : UInt64}
    (pending : streakPending (reduce s .mqttRejected nowMs)) :
    StreakStep s nowMs (reduce s .mqttRejected nowMs) .mqttRejected := by
  rw [reduce, reconcile_streak] at pending
  by_cases verified : s.mqttSettingsVerified
  · by_cases rejecting : s.mqttRejecting
    · have recovers : s.mqttRefusalRecovery = false := by
        simp only [handle, mqttRejected, verified, rejecting, streakPending] at pending
        grind
      apply StreakStep.continued
      · simp [streakPending, verified, rejecting, recovers]
      all_goals
        simp only [reduce, reconcileRequirements, handle, mqttRejected, verified, rejecting]
        grind
    · apply StreakStep.started verified
      all_goals
        simp only [reduce, reconcileRequirements, handle, mqttRejected, verified, rejecting]
        grind
  · simp [handle, mqttRejected, verified, streakPending] at pending

theorem failed_streak {s : ProvisioningState} {nowMs : UInt64}
    (pending : streakPending (reduce s .mqttFailed nowMs)) :
    StreakStep s nowMs (reduce s .mqttFailed nowMs) .mqttFailed := by
  rw [reduce, reconcile_streak] at pending
  by_cases verified : s.mqttSettingsVerified
  · by_cases ignored : s.wifiConnected = false ∨ endsRefusedAttempt s nowMs
    · have same : handle s .mqttFailed nowMs = { s with mqttConnected := false } := by
        simp only [handle, mqttFailed, verified]
        simp_all [endsRefusedAttempt]
      rw [same] at pending
      have before : streakPending s := pending
      apply StreakStep.kept before
      all_goals simp [reduce, same, reconcileRequirements, ignored]
    · simp only [handle, mqttFailed, verified, streakPending] at pending
      simp only [endsRefusedAttempt] at ignored pending
      grind [forgetMqttRefusal]
  · simp [handle, mqttFailed, verified, streakPending] at pending

theorem reduce_streak {s : ProvisioningState} {event : ProvisioningEvent} {nowMs : UInt64}
    (verified : s.mqttRejecting → s.mqttSettingsVerified = false → s.validConfig = false)
    (pending : streakPending (reduce s event nowMs)) :
    StreakStep s nowMs (reduce s event nowMs) event := by
  cases event with
  | mqttRejected => exact rejected_streak pending
  | mqttFailed => exact failed_streak pending
  | bootNoConfig | bootValidConfig => cases pending
  | mqttConnected =>
    cases up : s.wifiConnected with
    | true =>
      rw [reduce, reconcile_streak] at pending
      simp [handle, up, streakPending, forgetMqttRefusal] at pending
    | false =>
      have before : streakPending s := by
        rw [reduce, reconcile_streak] at pending
        simpa [handle, up, streakPending] using pending
      apply StreakStep.kept before
      all_goals simp [reduce, reconcileRequirements, handle, up]
  | mqttSettingsVerified =>
    rw [reduce, reconcile_streak, handle] at pending
    have before : streakPending s := by
      simp only [streakPending] at pending ⊢
      grind
    apply StreakStep.kept before
    all_goals simp [reduce, reconcileRequirements, handle]
  | portalIdleTimeout =>
    rw [reduce, reconcile_streak, handle] at pending
    have before : streakPending s := by
      simp only [streakPending] at pending ⊢
      grind
    apply StreakStep.kept before
    · simp only [reduce, reconcileRequirements, handle]
      grind
    · simp only [reduce, reconcileRequirements, handle]
      grind
    all_goals simp
  | wifiConnected | wifiTimeout | bondPresent | bondRemoved | bootHeld3s | wifiDisconnected =>
    have before : streakPending s := pending
    apply StreakStep.kept before
    all_goals simp [reduce, reconcileRequirements, handle]

theorem reduce_raises {s : ProvisioningState} {event : ProvisioningEvent} {nowMs : UInt64}
    (low : s.mqttRefusalRecovery = false)
    (raised : (reduce s event nowMs).mqttRefusalRecovery) :
    event = .mqttRejected ∧ streakPending s ∧ s.mqttRejectedSinceMs ≤ nowMs ∧
      mqttRejectedRecoveryMs ≤ nowMs - s.mqttRejectedSinceMs := by
  cases event with
  | mqttRejected =>
    refine ⟨rfl, ?_⟩
    simp only [reduce, reconcileRequirements, handle, mqttRejected] at raised
    simp only [streakPending, low]
    grind [mqttRejectedRecoveryMs]
  | mqttFailed =>
    simp only [reduce, reconcileRequirements, handle, mqttFailed] at raised
    grind [forgetMqttRefusal]
  | mqttConnected =>
    simp only [reduce, reconcileRequirements, handle, forgetMqttRefusal] at raised
    grind
  | portalIdleTimeout =>
    simp only [reduce, reconcileRequirements, handle] at raised
    grind
  | bootNoConfig | bootValidConfig => cases raised
  | wifiConnected | wifiTimeout | bondPresent | bondRemoved | bootHeld3s | wifiDisconnected
  | mqttSettingsVerified => simp [reduce, reconcileRequirements, handle, low] at raised

theorem reduce_verified {s : ProvisioningState} {event : ProvisioningEvent} {nowMs : UInt64}
    (verified : s.mqttRejecting → s.mqttSettingsVerified = false → s.validConfig = false) :
    (reduce s event nowMs).mqttRejecting → (reduce s event nowMs).mqttSettingsVerified = false →
      (reduce s event nowMs).validConfig = false := by
  cases event <;> simp only [reduce, reconcileRequirements, handle, mqttRejected, mqttFailed, boot,
    forgetMqttSettings, forgetMqttRefusal] <;> grind

end ProvisioningState
