import IosAncs.Provisioning.WifiOperations

/-!
The Wi-Fi runtime under every interleaving of its tasks and its callers: what its status says,
when an attempt is started, which mode the driver has, what is told of the link, and that its
retries are those of the policy.
-/
open Runs Sections Mutex CString ProvisioningRetry WifiStation WifiMark

namespace Wifi

/-- The tasks of the device take turns, section by section; one that wants the operation mutex
    waits until it is free. -/
def tasksStep (k : Locked WifiSection WifiEnv WifiRuntime)
    (action : ThreadAction WifiCall WifiEnv) : Locked WifiSection WifiEnv WifiRuntime :=
  (operationMutex False).step body k action

def boot : Locked WifiSection WifiEnv WifiRuntime := Mutex.initially WifiRuntime.ready

abbrev station (k : Locked WifiSection WifiEnv WifiRuntime) : WifiStation := k.threads.state.station

def Punctual (k : Locked WifiSection WifiEnv WifiRuntime) : ThreadAction WifiCall WifiEnv → Prop
  | .start _ => True
  | .run _ env => (station k).history.clockMs ≤ env.nowMs ∧ env.nowMs + 305000 ≤ uint64Max

instance (k : Locked WifiSection WifiEnv WifiRuntime) :
    (action : ThreadAction WifiCall WifiEnv) → Decidable (Punctual k action)
  | .start _ => isTrue trivial
  | .run _ env => inferInstanceAs (Decidable (_ ∧ env.nowMs + 305000 ≤ uint64Max))

theorem stations_free (actions : List (ThreadAction WifiCall WifiEnv)) :
    AllStates tasksStep (fun k => (station k).Coherent False ∧
        (k.holder = none → (station k).Free False)) boot actions ∧
      AllSteps tasksStep ((operationMutex False).SectionMeets (operationMutex False).Meets) boot
        actions := by
  have free : (operationMutex False).Free ((operationMutex False).resource WifiRuntime.ready) :=
    free_ready
  apply keeps_mutex apart_body free
  apply all_steps_of_forall
  intro k action
  cases action with
  | start call => trivial
  | run thread env =>
    simp only [Mutex.SectionMeets]
    split
    · exact fun _ => False.elim
    · trivial

theorem stations_timed {actions : List (ThreadAction WifiCall WifiEnv)}
    (punctual : AllSteps tasksStep Punctual boot actions) :
    AllStates tasksStep (fun k => (station k).Coherent True) boot actions := by
  have free : (operationMutex True).Free ((operationMutex True).resource WifiRuntime.ready) :=
    free_ready
  have rely : AllSteps tasksStep ((operationMutex True).SectionMeets (operationMutex True).Rely)
      boot actions := by
    apply all_steps_mono _ punctual
    intro k action on_time
    cases action with
    | start call => trivial
    | run thread env =>
      simp only [Mutex.SectionMeets]
      split
      · exact fun _ _ => on_time
      · trivial
  exact all_states_mono (fun _ both => both.1) (keeps_mutex apart_body free rely).1

structure Consistent (status : WifiStatus) : Prop where
  connecting : status.staConnecting = true → status.staStarted = true ∧ status.staHasIp = false ∧
    status.retryPaused = false
  address : status.staHasIp = true → status.staStarted = true
  generation : status.staStarted = (status.staAttemptGeneration != 0)
  waits : status.retryInMs ≠ 0 → status.staStarted = true ∧ status.staConnecting = false ∧
    status.staHasIp = false ∧ status.retryPaused = false
  due : status.automaticRecoveryDue = true → status.staStarted = true ∧ status.staHasIp = false ∧
    status.retryPaused = false
  ap : status.automaticRecoveryAp = true → status.apStarted = true

theorem consistent_of_coherent {s : WifiRuntime} (coherent : s.station.Coherent False) (nowMs : Nat) :
    Consistent (s.getStatus nowMs) := by
  have linked := coherent.linked
  have offline : s.station.retry.online = false → s.station.staHasIp = false := by
    intro off
    rw [Bool.eq_false_iff]
    intro has
    exact absurd (off.symm.trans (linked.address has)) (by decide)
  refine ⟨?_, ?_, coherent.active, ?_, ?_, ?_⟩
  · intro connecting
    have flies : s.station.retry.inFlight = true := coherent.connecting.symm.trans connecting
    obtain ⟨enabled, unpaused⟩ := acting_iff.mp (linked.flies flies)
    have off : s.station.retry.online = false := by
      rw [Bool.eq_false_iff]
      intro on
      exact absurd (flies.symm.trans (linked.online on).2.1) (by decide)
    exact ⟨linked.enabled.symm.trans enabled, offline off, unpaused⟩
  · intro has
    have enabled := (linked.online (linked.address has)).1
    exact linked.enabled.symm.trans enabled
  · intro waits
    have due : s.station.retry.remainingMs nowMs ≠ 0 := waits
    unfold remainingMs at due
    split at due
    · exact absurd rfl due
    · next going =>
      simp only [Bool.or_eq_true, Bool.not_eq_true', not_or, Bool.not_eq_true, Bool.not_eq_false]
        at going
      obtain ⟨⟨⟨⟨enabled, unpaused⟩, off⟩, still⟩, _⟩ := going
      exact ⟨linked.enabled.symm.trans enabled, coherent.connecting.trans still, offline off,
        unpaused⟩
  · intro due
    simp only [WifiRuntime.getStatus, Bool.and_eq_true, Bool.not_eq_true'] at due
    obtain ⟨⟨⟨enabled, unpaused⟩, off⟩, _⟩ := due
    exact ⟨linked.enabled.symm.trans enabled, offline off, unpaused⟩
  · intro automatic
    simp only [WifiRuntime.getStatus, Bool.and_eq_true] at automatic
    exact automatic.2

/-- Whoever reads the status, at whatever point of whatever operation, reads a consistent one. -/
theorem status_is_consistent (actions : List (ThreadAction WifiCall WifiEnv)) :
    AllStates tasksStep (fun k => ∀ nowMs, Consistent (k.threads.state.getStatus nowMs)) boot
      actions :=
  all_states_mono (fun _ both nowMs => consistent_of_coherent both.1 nowMs) (stations_free actions).1

/-- Every attempt is started for the station that is wanted at that moment, while its interface
    has started since it last stopped and a station torn down before has stopped since. -/
theorem attempts_pass_the_gate (actions : List (ThreadAction WifiCall WifiEnv)) :
    AllSteps tasksStep ((operationMutex False).SectionMeets fun label _ s => label = .connect →
        s.station.staStarted = true ∧ s.station.staInterfaceReady = true ∧
          s.station.staStopPending = false ∧ s.station.retry.acting = true ∧
          s.station.retry.inFlight = true) boot actions ∧
      AllStates tasksStep (fun k => ∀ later generation earlier,
        (station k).history.marks = later ++ .connect generation :: earlier →
          gate earlier = .opened ∧ wanted earlier = some generation) boot actions := by
  obtain ⟨states, sections⟩ := stations_free actions
  refine ⟨sections, all_states_mono ?_ states⟩
  intro k both later generation earlier split
  exact lawful_at (split ▸ both.1.lawful)

/-- The driver has the mode of the flags and the SSID of the station that is wanted, as far as
    its array holds it, whenever nobody holds the mutex and it took the last mode it was given. -/
theorem driver_follows_flags (actions : List (ThreadAction WifiCall WifiEnv)) :
    AllStates tasksStep (fun k => k.holder = none →
      ((station k).driver.settled = true →
        (station k).driver.mode = (station k).selectWifiModeFromFlags) ∧
      ((station k).staStarted = true → ∃ profile, (station k).driver.profile = some profile ∧
        text profile.ssid = (text (station k).expectedSsid).take 31)) boot actions :=
  all_states_mono (fun _ both free => ⟨(both.2 free).mode, (both.2 free).profile⟩)
    (stations_free actions).1

/-- The flag for the address is at all times what was raised last since the station was started
    or stopped; a loss is raised only after a connection, both for the station that is wanted. -/
theorem link_is_raised_as_it_is (actions : List (ThreadAction WifiCall WifiEnv)) :
    AllStates tasksStep (fun k =>
      ((station k).staHasIp = true ↔
        lastRaised (sinceStation (station k).history.marks) = some .wifiConnected) ∧
      (∀ later generation expected earlier, (station k).history.marks =
          later ++ .raised .wifiDisconnected generation expected :: earlier →
        wanted earlier = some generation ∧
          lastRaised (sinceStation earlier) = some .wifiConnected) ∧
      ∀ later generation expected earlier, (station k).history.marks =
          later ++ .raised .wifiConnected generation expected :: earlier →
        wanted earlier = some generation) boot actions := by
  apply all_states_mono _ (stations_free actions).1
  intro k both
  refine ⟨?_, ?_, ?_⟩
  · rw [← both.1.link, raisedUp, beq_iff_eq]
  · intro later generation expected earlier split
    have follows : (WifiMark.raised .wifiDisconnected generation expected).MayFollow earlier :=
      lawful_at (split ▸ both.1.lawful)
    exact ⟨follows.1, beq_iff_eq.mp follows.2⟩
  · intro later generation expected earlier split
    have follows : (WifiMark.raised .wifiConnected generation expected).MayFollow earlier :=
      lawful_at (split ▸ both.1.lawful)
    exact follows.1

/-- A driver that reports the SSID of the profile it has is never taken to be connected to a
    network whose SSID takes 32 bytes, although the configuration may name one. -/
theorem longest_ssid_never_connects (actions : List (ThreadAction WifiCall WifiEnv)) :
    AllStates tasksStep (fun k =>
      (∀ ssid profile, .reported ssid (some profile) ∈ (station k).history.marks →
        ssid = text profile.ssid) →
      ∀ generation expected,
        .raised .wifiConnected generation expected ∈ (station k).history.marks →
          expected.length ≤ 31) boot actions := by
  apply all_states_mono _ (stations_free actions).1
  intro k both honest generation expected member
  obtain ⟨later, earlier, split⟩ := List.append_of_mem member
  have follows : (WifiMark.raised .wifiConnected generation expected).MayFollow earlier :=
    lawful_at (split ▸ both.1.lawful)
  obtain ⟨_, profile, reported, cut⟩ := follows
  have same : expected = text profile.ssid := by
    apply honest
    rw [split]
    exact List.mem_append_right later (List.mem_cons_of_mem _ reported)
  rw [same.trans cut, List.length_take]
  omega

def unanswered (nowMs : Nat) : WifiEnv :=
  { nowMs, random := 7, error := 0, apInfo := none, ipAddr := none, apCount := 0 }

def taken (thread : Nat) (call : WifiCall) (env : WifiEnv) : List (ThreadAction WifiCall WifiEnv) :=
  .start call :: List.replicate 24 (.run thread env)

def connectedRun (ssid : List UInt8) : List (ThreadAction WifiCall WifiEnv) :=
  let config : ProvisionConfig :=
    { ProvisionConfig.sample 1883 with wifiSsid := ofText 32 ssid, mqttCa := zeroed }
  taken 0 (.startSta config) (unanswered 1000) ++
    taken 1 (.wifiEvent .staStart) (unanswered 1000) ++
    taken 2 .wifiTimeoutTurn (unanswered 1250) ++
    taken 3 (.wifiEvent (.staGotIp true))
      { unanswered 2000 with apInfo := some (ofText 32 ssid), ipAddr := some 1 }

/-- A driver that is honest, and a network whose SSID takes 31 bytes. -/
theorem shorter_ssid_connects :
    let ssid : List UInt8 := List.replicate 31 119
    let k := run tasksStep boot (connectedRun ssid)
    (∀ told profile, .reported told (some profile) ∈ (station k).history.marks →
      told = text profile.ssid) ∧
    .raised .wifiConnected 1 ssid ∈ (station k).history.marks ∧ ssid.length ≤ 31 := by
  intro ssid
  have marks : (station (run tasksStep boot (connectedRun ssid))).history.marks =
      [.raised .wifiConnected 1 ssid,
        .reported ssid (some { ssid := ofText 31 ssid, password := zeroed }), .connect 1,
        .interfaceStarted, .staStarted 1] := by
    decide +kernel
  have last := all_states_last (longest_ssid_never_connects (connectedRun ssid))
  generalize run tasksStep boot (connectedRun ssid) = k at marks last ⊢
  have honest (told : List UInt8) (profile : StaProfile)
      (member : .reported told (some profile) ∈ (station k).history.marks) :
      told = text profile.ssid := by
    rw [marks] at member
    simp only [List.mem_cons, reduceCtorEq, reported.injEq, Option.some.injEq, List.not_mem_nil,
      or_false, false_or] at member
    rw [member.1, member.2]
    decide +kernel
  have raised : .raised .wifiConnected 1 ssid ∈ (station k).history.marks := by
    rw [marks]
    exact List.mem_cons_self
  exact ⟨honest, raised, last honest 1 ssid raised⟩

/-- At a clock that does not go back, the runtime's retry state is at all times that of a run of
    the policy: paced, with at most one recovery announced in an outage. -/
theorem runtime_runs_the_policy (actions : List (ThreadAction WifiCall WifiEnv))
    (punctual : AllSteps tasksStep Punctual boot actions) :
    AllStates tasksStep (fun k =>
      (station k).retry = (station k).policy.retry.grounded ∧
        AllSteps RetryRun.step RetryPacing.Timely RetryRun.init (station k).history.calls ∧
        AllStates RetryRun.step RetryPacing.Steady RetryRun.init (station k).history.calls ∧
        AllSteps RetryRun.step RetryPacing.SteadyCall RetryRun.init (station k).history.calls ∧
        AllSteps RetryRun.step RecoveryAnnouncement.AnnouncingCall RetryRun.init
          (station k).history.calls) boot actions := by
  apply all_states_mono _ (stations_timed punctual)
  intro k coherent
  have timely := coherent.tracks.timely trivial
  have paced : AllStates RetryRun.step RetryPacing.Paced RetryRun.init (station k).history.calls :=
    all_states_of_steps (P := RetryPacing.Paced)
      (fun _ _ paced now => RetryPacing.paced_step paced now) RetryPacing.paced_init timely
  have announced : AllStates RetryRun.step RecoveryAnnouncement.Announced RetryRun.init
      (station k).history.calls :=
    all_states_invariant (P := RecoveryAnnouncement.Announced)
      (fun _ call announced => RecoveryAnnouncement.announced_step announced call)
      RecoveryAnnouncement.announced_init _
  refine ⟨coherent.tracks.retry, timely,
    all_states_mono (fun _ paced => RetryPacing.steady_of_paced paced) paced, ?_, ?_⟩
  · exact all_steps_under (fun _ _ paced now => RetryPacing.steady_call paced now) paced timely
  · exact all_steps_of_states
      (fun _ announced call => RecoveryAnnouncement.announcing_call announced call) announced

/-- An outage long enough to be announced follows a connection; the retries are paused while a
    second attempt is in flight. -/
theorem outage_runs_the_policy :
    let actions := connectedRun [119] ++
      taken 4 (.wifiEvent (.staDisconnected (some (200, -80)))) (unanswered 5000) ++
      taken 5 .wifiTimeoutTurn (unanswered 30000) ++
      taken 6 .wifiTimeoutTurn (unanswered 700000) ++
      taken 7 .wifiTimeoutTurn (unanswered 800000) ++
      taken 8 .pauseRetries (unanswered 800100)
    (station (run tasksStep boot actions)).policy.retry.recoveryAnnounced = true ∧
    (station (run tasksStep boot actions)).policy.retry.inFlight = true ∧
    AllStates tasksStep (fun k =>
      (station k).retry = (station k).policy.retry.grounded ∧
        AllSteps RetryRun.step RetryPacing.Timely RetryRun.init (station k).history.calls ∧
        AllStates RetryRun.step RetryPacing.Steady RetryRun.init (station k).history.calls ∧
        AllSteps RetryRun.step RetryPacing.SteadyCall RetryRun.init (station k).history.calls ∧
        AllSteps RetryRun.step RecoveryAnnouncement.AnnouncingCall RetryRun.init
          (station k).history.calls) boot actions :=
  ⟨by decide +kernel, by decide +kernel, runtime_runs_the_policy _ (by decide +kernel)⟩

end Wifi
