import IosAncs.Foundation.Runs
import IosAncs.Provisioning.State

/-!
The setup AP over whole runs of the reducer: which events open it, and that an AP
opened by refusals stays until the settings connect or the device boots.
-/
open Runs

namespace ProvisioningState

def step (s : ProvisioningState) (input : ProvisioningEvent × UInt64) : ProvisioningState :=
  reduce s input.1 input.2

/-- The requirement is what `reconcile_requirements` makes of the other flags; the
    initial state was not reconciled yet. -/
def Reconciled (s : ProvisioningState) : Prop :=
  s = initial ∨ s.apRequired = (!s.validConfig || s.recoveryRequired || s.recoveryWindow)

theorem reconciled_step (s : ProvisioningState) (input : ProvisioningEvent × UInt64) :
    Reconciled (step s input) := .inr rfl

def MqttOverWifi (s : ProvisioningState) : Prop := s.mqttConnected = true → s.wifiConnected = true

theorem mqtt_over_wifi_step {s : ProvisioningState} (input : ProvisioningEvent × UInt64)
    (wifi : MqttOverWifi s) : MqttOverWifi (step s input) := by
  obtain ⟨event, nowMs⟩ := input
  unfold MqttOverWifi at wifi ⊢
  cases event with
  | bootNoConfig | bootValidConfig | wifiDisconnected | wifiTimeout =>
    intro connected
    cases connected
  | wifiConnected => exact fun _ => rfl
  | bondPresent | bondRemoved | bootHeld3s | mqttSettingsVerified => exact wifi
  | mqttConnected =>
    cases up : s.wifiConnected with
    | true => simp [step, reduce, reconcileRequirements, handle, up, forgetMqttRefusal]
    | false => simp [step, reduce, reconcileRequirements, handle, up]
  | mqttFailed =>
    intro connected
    simp only [step, reduce, reconcileRequirements, handle, mqttFailed] at connected
    grind [forgetMqttRefusal]
  | mqttRejected =>
    intro connected
    simp only [step, reduce, reconcileRequirements, handle, mqttRejected] at connected
    grind
  | portalIdleTimeout =>
    simp only [step, reduce, reconcileRequirements, handle]
    grind

def OpeningCause (event : ProvisioningEvent) (after : ProvisioningState) : Prop :=
  match event with
  | .wifiTimeout | .bootHeld3s | .bootNoConfig => True
  | .mqttRejected | .mqttFailed => after.mqttRefusalRecovery = true
  | _ => False

def OpensForCause (s : ProvisioningState) (input : ProvisioningEvent × UInt64) : Prop :=
  s.mqttSettingsVerified = true → s.apRequired = false → (step s input).apRequired = true →
    OpeningCause input.1 (step s input)

theorem nothing_requires {s : ProvisioningState} (reconciled : Reconciled s)
    (verified : s.mqttSettingsVerified = true) (closed : s.apRequired = false) :
    s.validConfig = true ∧ s.recoveryRequired = false ∧ s.recoveryWindow = false := by
  rcases reconciled with first | formula
  · rw [first] at verified
    cases verified
  · rw [formula] at closed
    simpa [and_assoc] using closed

theorem broker_requires {s : ProvisioningState} {event : ProvisioningEvent} (nowMs : UInt64)
    (broker : event = .mqttFailed ∨ event = .mqttRejected)
    (verified : s.mqttSettingsVerified = true) (unrequired : s.recoveryRequired = false)
    (required : (handle s event nowMs).recoveryRequired = true) :
    (handle s event nowMs).mqttRefusalRecovery = true := by
  rcases broker with failed | rejected
  · subst failed
    simp only [handle, mqttFailed, verified] at required ⊢
    grind [forgetMqttRefusal]
  · subst rejected
    simp only [handle, mqttRejected, verified] at required ⊢
    grind

theorem broker_leaves (s : ProvisioningState) {event : ProvisioningEvent} (nowMs : UInt64)
    (broker : event = .mqttFailed ∨ event = .mqttRejected) :
    (handle s event nowMs).validConfig = s.validConfig ∧
      (handle s event nowMs).recoveryWindow = s.recoveryWindow := by
  rcases broker with failed | rejected
  · subst failed
    simp only [handle, mqttFailed]
    grind [forgetMqttRefusal]
  · subst rejected
    simp only [handle, mqttRejected]
    grind

theorem broker_opens_for_cause {s : ProvisioningState} {event : ProvisioningEvent} (nowMs : UInt64)
    (broker : event = .mqttFailed ∨ event = .mqttRejected)
    (verified : s.mqttSettingsVerified = true) (valid : s.validConfig = true)
    (unrequired : s.recoveryRequired = false) (window : s.recoveryWindow = false)
    (opened : (reduce s event nowMs).apRequired = true) :
    (reduce s event nowMs).mqttRefusalRecovery = true := by
  have leaves := broker_leaves s nowMs broker
  apply broker_requires nowMs broker verified unrequired
  simpa [reduce, reconcileRequirements, leaves.1, leaves.2, valid, window] using opened

theorem opens_for_cause {s : ProvisioningState} (reconciled : Reconciled s)
    (input : ProvisioningEvent × UInt64) : OpensForCause s input := by
  obtain ⟨event, nowMs⟩ := input
  intro verified closed opened
  obtain ⟨valid, unrequired, window⟩ := nothing_requires reconciled verified closed
  cases event with
  | bootNoConfig | wifiTimeout | bootHeld3s => trivial
  | mqttFailed => exact broker_opens_for_cause nowMs (.inl rfl) verified valid unrequired window opened
  | mqttRejected =>
    exact broker_opens_for_cause nowMs (.inr rfl) verified valid unrequired window opened
  | bootValidConfig | wifiConnected | wifiDisconnected | bondPresent | bondRemoved
  | mqttSettingsVerified =>
    simp [step, reduce, reconcileRequirements, handle, boot, forgetMqttSettings, forgetMqttRefusal,
      valid, unrequired, window] at opened
  | mqttConnected =>
    cases up : s.wifiConnected <;>
      simp [step, reduce, reconcileRequirements, handle, up, forgetMqttRefusal, valid, unrequired,
        window] at opened
  | portalIdleTimeout =>
    simp [step, reduce, reconcileRequirements, handle, valid, unrequired, window] at opened

def RefusalOpens (s : ProvisioningState) (input : ProvisioningEvent × UInt64) : Prop :=
  (input.1 = .mqttRejected ∨ input.1 = .mqttFailed) ∧ (step s input).mqttRefusalRecovery = true ∧
    (step s input).apRequired = true ∧
    (s.apRequired = false ∨ (step s input).recoveryRequired = true)

def Releases (s : ProvisioningState) (input : ProvisioningEvent × UInt64) : Prop :=
  (input.1 = .mqttConnected ∧ s.wifiConnected = true) ∨ input.1 = .bootNoConfig ∨
    input.1 = .bootValidConfig

def RefusalHolds (s : ProvisioningState) : Prop :=
  s.mqttRefusalRecovery = true ∧ s.recoveryRequired = true ∧ s.apRequired = true

def StaysOpen (s : ProvisioningState) (later : List (ProvisioningEvent × UInt64)) : Prop :=
  AllSteps step (fun s input => ¬ Releases s input) s later →
    AllStates step (fun s => s.apRequired = true) s later

theorem refusal_opens_holds {s : ProvisioningState} {input : ProvisioningEvent × UInt64}
    (reconciled : Reconciled s) (opens : RefusalOpens s input) : RefusalHolds (step s input) := by
  obtain ⟨event, nowMs⟩ := input
  obtain ⟨broker, recovery, opened, closed | required⟩ := opens
  · refine ⟨recovery, ?_, opened⟩
    have leaves := broker_leaves s nowMs broker.symm
    rcases reconciled with first | formula
    · -- no refusal was counted in the initial state
      rw [first] at recovery
      rcases broker with rejected | failed
      · subst rejected
        cases recovery
      · subst failed
        cases recovery
    · have before : s.validConfig = true ∧ s.recoveryWindow = false := by
        rw [formula] at closed
        simp only [Bool.or_eq_false_iff, Bool.not_eq_false'] at closed
        exact ⟨closed.1.1, closed.2⟩
      simpa [step, reduce, reconcileRequirements, leaves.1, leaves.2, before.1, before.2] using opened
  · exact ⟨recovery, required, opened⟩

theorem refusal_holds_step {s : ProvisioningState} {input : ProvisioningEvent × UInt64}
    (holds : RefusalHolds s) (stays : ¬ Releases s input) : RefusalHolds (step s input) := by
  obtain ⟨event, nowMs⟩ := input
  obtain ⟨recovery, required, -⟩ := holds
  have kept : (handle s event nowMs).mqttRefusalRecovery = true ∧
      (handle s event nowMs).recoveryRequired = true := by
    cases event with
    | bootNoConfig => exact absurd (.inr (.inl rfl)) stays
    | bootValidConfig => exact absurd (.inr (.inr rfl)) stays
    | mqttConnected =>
      have down : s.wifiConnected = false := by
        by_contra up
        exact stays (.inl ⟨rfl, by simpa using up⟩)
      simp [handle, down, recovery, required]
    | mqttFailed =>
      simp only [handle, mqttFailed]
      grind
    | mqttRejected =>
      simp only [handle, mqttRejected]
      grind
    | portalIdleTimeout =>
      simp only [handle]
      grind
    | wifiTimeout => exact ⟨recovery, rfl⟩
    | wifiConnected | wifiDisconnected | bondPresent | bondRemoved | bootHeld3s
    | mqttSettingsVerified => exact ⟨recovery, required⟩
  refine ⟨kept.1, kept.2, ?_⟩
  simp [step, reduce, reconcileRequirements, kept.2]

theorem stays_open {s : ProvisioningState} (holds : RefusalHolds s)
    (later : List (ProvisioningEvent × UInt64)) : StaysOpen s later := by
  intro unreleased
  have all : AllStates step RefusalHolds s later := by
    apply all_states_of_steps _ holds unreleased
    intro s input holds stays
    exact refusal_holds_step holds stays
  exact all_states_mono (fun _ holds => holds.2.2) all

def BrokerComesAndGoes (later : List (ProvisioningEvent × UInt64)) : Prop :=
  ∀ input ∈ later, input.1 = .mqttFailed ∨ input.1 = .mqttConnected

structure OnlyOutages (s : ProvisioningState) : Prop where
  reconciled : Reconciled s
  verified : s.mqttSettingsVerified = true
  closed : s.apRequired = false
  unrefused : s.mqttRefusalRecovery = false

theorem only_outages_step {s : ProvisioningState} {input : ProvisioningEvent × UInt64}
    (only : OnlyOutages s) (broker : input.1 = .mqttFailed ∨ input.1 = .mqttConnected) :
    OnlyOutages (step s input) := by
  have cause := opens_for_cause only.reconciled input only.verified only.closed
  obtain ⟨event, nowMs⟩ := input
  have verified := only.verified
  have unrefused := only.unrefused
  have kept : (step s (event, nowMs)).mqttSettingsVerified = true ∧
      (step s (event, nowMs)).mqttRefusalRecovery = false := by
    rcases broker with failed | connected
    · dsimp only at failed
      subst failed
      simp only [step, reduce, reconcileRequirements, handle, mqttFailed, verified, unrefused]
      grind [forgetMqttRefusal]
    · dsimp only at connected
      subst connected
      cases up : s.wifiConnected <;>
        simp [step, reduce, reconcileRequirements, handle, up, forgetMqttRefusal, verified, unrefused]
  refine ⟨reconciled_step s (event, nowMs), kept.1, ?_, kept.2⟩
  by_contra opened
  have opening := cause (by simpa using opened)
  rcases broker with failed | connected
  · dsimp only at failed
    subst failed
    cases kept.2.symm.trans opening
  · dsimp only at connected
    subst connected
    exact opening

def OutagesLeaveClosed (s : ProvisioningState) (later : List (ProvisioningEvent × UInt64)) : Prop :=
  s.mqttSettingsVerified = true → s.apRequired = false → s.mqttRefusalRecovery = false →
    BrokerComesAndGoes later → AllStates step (fun s => s.apRequired = false) s later

theorem outages_leave_closed {s : ProvisioningState} (reconciled : Reconciled s)
    (later : List (ProvisioningEvent × UInt64)) : OutagesLeaveClosed s later := by
  intro verified closed unrefused broker
  have only : OnlyOutages s := ⟨reconciled, verified, closed, unrefused⟩
  clear reconciled verified closed unrefused
  induction later generalizing s with
  | nil => exact only.closed
  | cons input rest ih =>
    refine ⟨only.closed, ih ?_ ?_⟩
    · intro other member
      exact broker other (List.mem_cons_of_mem _ member)
    · exact only_outages_step only (broker input List.mem_cons_self)

/-- In every run, MQTT is up only over Wi-Fi; with verified settings the AP opens for its
    causes only, and outages alone do not open it; and once refusals have opened it, it
    stays until the settings connect over Wi-Fi or the device boots. -/
theorem ap_opens_and_closes_for_cause (earlier later : List (ProvisioningEvent × UInt64)) :
    AllStates step MqttOverWifi initial earlier ∧
      AllSteps step OpensForCause initial earlier ∧
      OutagesLeaveClosed (run step initial earlier) later ∧
      ∀ opening, RefusalOpens (run step initial earlier) opening →
        StaysOpen (step (run step initial earlier) opening) later := by
  have reconciled : AllStates step Reconciled initial earlier :=
    all_states_invariant (fun s input _ => reconciled_step s input) (.inl rfl) earlier
  have last := all_states_last reconciled
  refine ⟨?_, ?_, outages_leave_closed last later, ?_⟩
  · apply all_states_invariant (fun _ input wifi => mqtt_over_wifi_step input wifi)
    intro connected
    cases connected
  · exact all_steps_of_states (fun _ reconciled => opens_for_cause reconciled) reconciled
  · intro opening opens
    exact stays_open (refusal_opens_holds last opens) later

/-- A second refusal ten minutes after the first one opens the AP. -/
example : RefusalOpens
    (run step initial [(.bootValidConfig, 0), (.wifiConnected, 1), (.mqttConnected, 2),
      (.mqttRejected, 1000)]) (.mqttRejected, 601000) := by
  unfold RefusalOpens
  decide

end ProvisioningState
