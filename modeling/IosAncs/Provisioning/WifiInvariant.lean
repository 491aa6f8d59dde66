import IosAncs.Provisioning.RecoveryAnnouncement
import IosAncs.Provisioning.RetryPacing
import IosAncs.Provisioning.WifiRuntime

/-!
What every section of the Wi-Fi runtime keeps. The flags are compared with what the marks say
has happened, and the retry policy with a run of its calls.
-/
open Runs CString ProvisioningRetry RetryPacing

namespace WifiMark

/-- Whether the station's interface may start an attempt: it has started since it last stopped,
    and a station that was torn down has stopped since. -/
inductive Gate where
  | shut
  | draining
  | opened
deriving DecidableEq, Repr

def wanted : List WifiMark → Option UInt32
  | [] => none
  | .staStarted generation :: _ => some generation
  | .rolledBack :: _ | .toreDown :: _ => none
  | _ :: earlier => wanted earlier

def gate : List WifiMark → Gate
  | [] => .shut
  | .interfaceStarted :: earlier => if gate earlier = .draining then .draining else .opened
  | .interfaceStopped :: _ => .shut
  | .toreDown :: earlier =>
    if (wanted earlier).isSome ∨ gate earlier = .draining then .draining else .shut
  | _ :: earlier => gate earlier

def sinceStation : List WifiMark → List WifiMark
  | [] => []
  | .staStarted _ :: _ | .rolledBack :: _ | .toreDown :: _ => []
  | mark :: earlier => mark :: sinceStation earlier

def lastRaised : List WifiMark → Option ProvisioningEvent
  | [] => none
  | .raised event _ _ :: _ => some event
  | _ :: earlier => lastRaised earlier

/-- The event raised last for the station as it is says that its link is up. Starting and
    stopping a station raise nothing. -/
def raisedUp (marks : List WifiMark) : Bool :=
  lastRaised (sinceStation marks) == some .wifiConnected

/-- What must have happened before: a connect finds the gate open; a network that is told to be
    connected is the one expected, as the driver has reported it for a profile whose SSID is what
    31 bytes hold of it; a loss is raised for a link that was raised to be up. -/
def MayFollow (earlier : List WifiMark) : WifiMark → Prop
  | .connect generation => gate earlier = .opened ∧ wanted earlier = some generation
  | .raised .wifiConnected generation expected =>
    wanted earlier = some generation ∧
      ∃ profile, .reported expected (some profile) ∈ earlier ∧
        text profile.ssid = expected.take 31
  | .raised .wifiDisconnected generation _ =>
    wanted earlier = some generation ∧ raisedUp earlier = true
  | _ => True

def Lawful : List WifiMark → Prop
  | [] => True
  | mark :: earlier => mark.MayFollow earlier ∧ Lawful earlier

theorem lawful_at {later earlier : List WifiMark} {mark : WifiMark}
    (lawful : Lawful (later ++ mark :: earlier)) : mark.MayFollow earlier := by
  induction later with
  | nil => exact lawful.1
  | cons newest rest ih => exact ih lawful.2

end WifiMark

open WifiMark

namespace ProvisioningRetry

def grounded (retry : ProvisioningRetry) : ProvisioningRetry :=
  if retry.paused then { retry with inFlight := false } else retry

variable {retry : ProvisioningRetry} {nowMs : Nat} {random : UInt32}

theorem grounded_of_acting (acts : retry.paused = false) : retry.grounded = retry := by
  simp [grounded, acts]

theorem grounded_acting (retry : ProvisioningRetry) : retry.grounded.acting = retry.acting := by
  unfold grounded
  split <;> rfl

structure PolledLink (retry : ProvisioningRetry) (after : ProvisioningRetry × RetryActions) :
    Prop where
  generation : after.1.generation = retry.generation
  enabled : after.1.enabled = retry.enabled
  paused : after.1.paused = retry.paused
  online : after.1.online = retry.online
  flies : after.1.inFlight = true →
    retry.inFlight = true ∨ retry.acting = true ∧ retry.online = false
  aborts : after.2.abort = true → retry.acting = true ∧ retry.online = false
  connects : after.2.connect = true → retry.acting = true ∧ after.1.inFlight = true

variable (retry nowMs random) in
theorem polledLink : PolledLink retry (retry.poll nowMs random) := by
  have never : ∀ {p : Prop}, false = true → p := fun false_ => absurd false_ Bool.false_ne_true
  cases acts : retry.acting with
  | false =>
    rw [poll_of_idle nowMs random acts]
    exact ⟨rfl, rfl, rfl, rfl, .inl, never, never⟩
  | true =>
    cases on : retry.online with
    | true =>
      rw [poll_of_online nowMs random acts on]
      split <;> exact ⟨rfl, rfl, rfl, rfl, .inl, never, never⟩
    | false =>
      have announced : (retry.announce nowMs).generation = retry.generation ∧
          (retry.announce nowMs).enabled = retry.enabled ∧
          (retry.announce nowMs).paused = retry.paused := by
        unfold announce
        split <;> exact ⟨rfl, rfl, rfl⟩
      obtain ⟨generation, enabled, paused⟩ := announced
      have off := announce_online retry nowMs
      rcases poll_of_offline nowMs random acts on with
        ⟨_, _, polled⟩ | ⟨_, _, polled⟩ | ⟨_, _, polled⟩
      · rw [polled]
        exact ⟨generation, enabled, paused, off, fun _ => .inr ⟨acts, on⟩, never,
          fun _ => ⟨acts, rfl⟩⟩
      · rw [polled]
        exact ⟨generation, enabled, paused, off, fun _ => .inr ⟨acts, on⟩, never, never⟩
      · rw [polled]
        dsimp only
        split
        · exact ⟨generation, enabled, paused, off, fun _ => .inr ⟨acts, on⟩,
            fun _ => ⟨acts, on⟩, fun _ => ⟨acts, rfl⟩⟩
        · next later =>
          exact ⟨generation, enabled, paused, off, fun _ => .inr ⟨acts, on⟩,
            fun _ => ⟨acts, on⟩, fun connects => absurd connects (by simpa using later)⟩

/-- Every call of the policy but a pause does to the runtime's copy what it does to the policy's. -/
theorem effect_grounded (retry : ProvisioningRetry) (call : RetryCall) (other : call ≠ .pause) :
    call.effect retry.grounded = (call.effect retry).grounded := by
  cases paused : retry.paused with
  | false =>
    rw [grounded_of_acting paused]
    symm
    apply grounded_of_acting
    cases call with
    | start generation nowMs => rfl
    | stop => rfl
    | pause => exact absurd rfl other
    | connected nowMs =>
      simp only [RetryCall.effect, connected]
      split <;> exact paused
    | failed nowMs auth random =>
      simp only [RetryCall.effect, failed, linkLost, attemptFailed]
      split
      · exact paused
      · split <;> exact paused
    | poll nowMs random =>
      exact (polledLink retry nowMs random).paused.trans paused
  | true =>
    have idle : retry.acting = false := by simp [acting, paused]
    have idle' := (grounded_acting retry).trans idle
    have ground : retry.grounded.paused = true := by simp [grounded, paused]
    cases call with
    | start generation nowMs => rfl
    | stop => rfl
    | pause => exact absurd rfl other
    | connected nowMs =>
      simp only [RetryCall.effect, connected_of_idle idle, connected_of_idle idle']
    | failed nowMs auth random =>
      simp only [RetryCall.effect, failed_of_idle idle, failed_of_idle idle']
    | poll nowMs random =>
      simp only [RetryCall.effect, poll_of_idle nowMs random idle, poll_of_idle nowMs random idle']

/-- The policy's state beside the flags: an address belongs to an online link, an online link has
    one unless the retries were paused, and an attempt in flight is one of a policy that acts. -/
structure Linked (retry : ProvisioningRetry) (hasIp started : Bool) (generation : UInt32) :
    Prop where
  address : hasIp = true → retry.online = true
  online : retry.online = true → retry.enabled = true ∧ retry.inFlight = false ∧
    (hasIp = true ∨ retry.paused = true)
  flies : retry.inFlight = true → retry.acting = true
  enabled : retry.enabled = started
  generation : retry.generation = generation

section Linked
variable {hasIp started : Bool} {generation : UInt32}

theorem linked_poll (linked : retry.Linked hasIp started generation) :
    (retry.poll nowMs random).1.Linked hasIp started generation := by
  have polled := polledLink retry nowMs random
  have acts : (retry.poll nowMs random).1.acting = retry.acting := by
    simp only [acting, polled.enabled, polled.paused]
  refine ⟨fun has => polled.online.trans (linked.address has), ?_, ?_,
    polled.enabled.trans linked.enabled, polled.generation.trans linked.generation⟩
  · intro on
    have before := polled.online.symm.trans on
    obtain ⟨enabled, still, why⟩ := linked.online before
    refine ⟨polled.enabled.trans enabled, ?_, why.imp_right polled.paused.trans⟩
    rw [Bool.eq_false_iff]
    intro flies
    rcases polled.flies flies with flew | ⟨_, off⟩
    · exact absurd (flew.symm.trans still) (by decide)
    · exact absurd (off.symm.trans before) (by decide)
  · intro flies
    rw [acts]
    rcases polled.flies flies with flew | ⟨does, _⟩
    · exact linked.flies flew
    · exact does

theorem linked_connected (linked : retry.Linked hasIp started generation)
    (acts : retry.acting = true) : (retry.connected nowMs).Linked true started generation := by
  have enabled := (acting_iff.mp acts).1
  unfold connected
  rw [idle_iff, acts]
  exact ⟨fun _ => rfl, fun _ => ⟨enabled, rfl, .inl rfl⟩,
    fun flies => absurd flies Bool.false_ne_true, linked.enabled, linked.generation⟩

theorem linked_failed (linked : retry.Linked hasIp started generation) (auth : Bool) :
    (retry.failed nowMs auth random).Linked false started generation := by
  cases acts : retry.acting with
  | false =>
    rw [failed_of_idle acts]
    refine ⟨fun has => absurd has Bool.false_ne_true, ?_, linked.flies, linked.enabled,
      linked.generation⟩
    intro on
    obtain ⟨enabled, still, _⟩ := linked.online on
    refine ⟨enabled, still, .inr ?_⟩
    simpa [acting, enabled] using acts
  | true =>
    have same : (retry.failed nowMs auth random).enabled = retry.enabled ∧
        (retry.failed nowMs auth random).generation = retry.generation := by
      unfold failed linkLost attemptFailed
      split
      · exact ⟨rfl, rfl⟩
      · split <;> exact ⟨rfl, rfl⟩
    have down : (retry.failed nowMs auth random).online = false ∧
        (retry.failed nowMs auth random).inFlight = false := by
      cases on : retry.online with
      | true =>
        rw [failed_of_online nowMs random auth acts on]
        exact ⟨rfl, rfl⟩
      | false =>
        cases flies : retry.inFlight with
        | true =>
          rw [failed_of_flight acts on flies]
          exact ⟨on, rfl⟩
        | false =>
          rw [failed_of_waiting on flies]
          exact ⟨on, flies⟩
    exact ⟨fun has => absurd has Bool.false_ne_true,
      fun on => absurd (down.1.symm.trans on) Bool.false_ne_true,
      fun flies => absurd (down.2.symm.trans flies) Bool.false_ne_true,
      same.1.trans linked.enabled, same.2.trans linked.generation⟩

theorem linked_pause (linked : retry.Linked hasIp started generation) :
    { retry.pause with inFlight := false : ProvisioningRetry }.Linked hasIp started generation where
  address := linked.address
  online on := ⟨(linked.online on).1, rfl, .inr rfl⟩
  flies flies := absurd flies Bool.false_ne_true
  enabled := linked.enabled
  generation := linked.generation

theorem linked_start (nonzero : generation ≠ 0) (nowMs : Nat) :
    (start generation nowMs).Linked false true generation where
  address has := absurd has Bool.false_ne_true
  online on := absurd on Bool.false_ne_true
  flies flies := absurd flies Bool.false_ne_true
  enabled := by simp [start, nonzero]
  generation := rfl

theorem linked_stop : stop.Linked false false 0 := by
  constructor <;> decide

end Linked

end ProvisioningRetry

namespace WifiStation
variable {st : WifiStation} {nowMs : Nat} {timed : Prop}

def policy (st : WifiStation) : RetryRun := run RetryRun.step RetryRun.init st.history.calls

/-- The runtime's retry state is that of its calls. Where the clock is known never to go back,
    they were made at such times. -/
structure Tracks (timed : Prop) (st : WifiStation) : Prop where
  retry : st.retry = st.policy.retry.grounded
  timely : timed → AllSteps RetryRun.step Timely RetryRun.init st.history.calls
  clock : timed → st.policy.record.clockMs ≤ st.history.clockMs

structure Coherent (timed : Prop) (st : WifiStation) : Prop where
  connecting : st.staConnecting = st.retry.inFlight
  linked : st.retry.Linked st.staHasIp st.staStarted st.activeStaAttemptGeneration
  active : st.staStarted = (st.activeStaAttemptGeneration != 0)
  ready : st.staInterfaceReady = true → st.staStopPending = false
  wanted : wanted st.history.marks =
    if st.staStarted then some st.activeStaAttemptGeneration else none
  gate : gate st.history.marks =
    if st.staStopPending then .draining else if st.staInterfaceReady then .opened else .shut
  link : raisedUp st.history.marks = st.staHasIp
  lawful : Lawful st.history.marks
  tracks : st.Tracks timed

structure Free (timed : Prop) (st : WifiStation) : Prop where
  coherent : st.Coherent timed
  started : st.wifiStarted = false → st.apStarted = false ∧ st.staStarted = false
  mode : st.driver.settled = true → st.driver.mode = st.selectWifiModeFromFlags
  profile : st.staStarted = true → ∃ profile, st.driver.profile = some profile ∧
    text profile.ssid = (text st.expectedSsid).take 31

theorem free_ready : ready.Free timed where
  coherent := {
    connecting := rfl
    linked := linked_stop
    active := rfl
    ready := by decide
    wanted := rfl
    gate := rfl
    link := rfl
    lawful := trivial
    tracks := ⟨rfl, fun _ => trivial, fun _ => Nat.le_refl 0⟩ }
  started := fun _ => ⟨rfl, rfl⟩
  mode := fun _ => rfl
  profile := fun started => absurd started Bool.false_ne_true

/-- The time that was read last leaves room for every wait of the policy. -/
def Roomy (timed : Prop) (st : WifiStation) : Prop :=
  timed → st.history.clockMs + 305000 ≤ uint64Max

theorem tracks_call (tracks : st.Tracks timed) (call : RetryCall) (other : call ≠ .pause)
    (now : ∀ nowMs, call.nowMs? = some nowMs → nowMs = st.history.clockMs ∧ st.Roomy timed) :
    (st.call call).Tracks timed := by
  have after : (st.call call).policy = st.policy.step call := by
    simp [policy, WifiStation.call, run_append]
  refine ⟨?_, fun is => ?_, fun is => ?_⟩
  · rw [after]
    change call.effect st.retry = (call.effect st.policy.retry).grounded
    rw [tracks.retry]
    exact effect_grounded _ call other
  · simp only [WifiStation.call, all_steps_append]
    refine ⟨tracks.timely is, ?_, trivial⟩
    intro nowMs at_
    obtain ⟨rfl, room⟩ := now nowMs at_
    exact ⟨tracks.clock is, room is⟩
  · rw [after]
    change call.nowMs?.getD ((st.policy.record.note _).clockMs) ≤ st.history.clockMs
    cases at_ : call.nowMs? with
    | none =>
      have kept : (st.policy.record.note (call.incident st.policy.retry)).clockMs =
          st.policy.record.clockMs := by
        cases call.incident st.policy.retry <;> rfl
      simp only [Option.getD_none, kept]
      exact tracks.clock is
    | some nowMs => exact Nat.le_of_eq (now nowMs at_).1

theorem tracks_pause (tracks : st.Tracks timed) : st.pause.Tracks timed := by
  have after : st.pause.policy = st.policy.step .pause := by
    simp [policy, WifiStation.pause, WifiStation.call, run_append]
  refine ⟨?_, fun is => ?_, fun is => ?_⟩
  · rw [after]
    change { st.retry.pause with inFlight := false : ProvisioningRetry } =
      st.policy.retry.pause.grounded
    rw [tracks.retry]
    unfold grounded
    split <;> rfl
  · simp only [WifiStation.pause, WifiStation.call, all_steps_append]
    refine ⟨tracks.timely is, ?_, trivial⟩
    intro nowMs at_
    cases at_
  · rw [after]
    exact tracks.clock is

theorem tracks_same {st' : WifiStation} (tracks : st.Tracks timed) (retry : st'.retry = st.retry)
    (calls : st'.history.calls = st.history.calls)
    (later : timed → st.history.clockMs ≤ st'.history.clockMs) : st'.Tracks timed := by
  have same : st'.policy = st.policy := by rw [policy, policy, calls]
  refine ⟨by rw [retry, same]; exact tracks.retry, calls ▸ tracks.timely, fun is => ?_⟩
  rw [same]
  exact Nat.le_trans (tracks.clock is) (later is)

theorem coherent_beside (coherent : st.Coherent timed) (wifiStarted apStarted : Bool)
    (driver : WifiDriver) (err : Int) :
    Coherent timed { st with wifiStarted, apStarted, driver, lastWifiConnectError := err } :=
  ⟨coherent.connecting, coherent.linked, coherent.active, coherent.ready, coherent.wanted, coherent.gate,
    coherent.link, coherent.lawful, tracks_same coherent.tracks rfl rfl fun _ => Nat.le_refl _⟩

theorem coherent_at (coherent : st.Coherent timed) (later : timed → st.history.clockMs ≤ nowMs) :
    (st.at_ nowMs).Coherent timed :=
  ⟨coherent.connecting, coherent.linked, coherent.active, coherent.ready, coherent.wanted, coherent.gate,
    coherent.link, coherent.lawful, tracks_same coherent.tracks rfl rfl later⟩

theorem coherent_mark (coherent : st.Coherent timed) (mark : WifiMark)
    (may : mark.MayFollow st.history.marks)
    (wants : WifiMark.wanted (mark :: st.history.marks) = WifiMark.wanted st.history.marks)
    (gates : WifiMark.gate (mark :: st.history.marks) = WifiMark.gate st.history.marks)
    (links : raisedUp (mark :: st.history.marks) = raisedUp st.history.marks) :
    (st.mark mark).Coherent timed :=
  ⟨coherent.connecting, coherent.linked, coherent.active, coherent.ready, wants.trans coherent.wanted,
    gates.trans coherent.gate, links.trans coherent.link, ⟨may, coherent.lawful⟩,
    tracks_same coherent.tracks rfl rfl fun _ => Nat.le_refl _⟩

theorem coherent_poll (coherent : st.Coherent timed) (random : UInt32) (roomy : st.Roomy timed) :
    (st.poll st.history.clockMs random).2.Coherent timed := by
  unfold poll
  split
  · have tracks := tracks_call coherent.tracks (.poll st.history.clockMs random) (by simp)
      (by rintro nowMs at_; cases at_; exact ⟨rfl, roomy⟩)
    exact ⟨rfl, linked_poll coherent.linked, coherent.active, coherent.ready, coherent.wanted, coherent.gate,
      coherent.link, coherent.lawful, tracks_same tracks rfl rfl fun _ => Nat.le_refl _⟩
  · exact coherent

theorem poll_acts {random : UInt32} (wants : (st.poll nowMs random).1.abort = true ∨
    (st.poll nowMs random).1.connect = true) :
    st.staStarted = true ∧ st.staInterfaceReady = true ∧ st.staStopPending = false ∧
      st.retry.acting = true := by
  unfold poll at wants
  split at wants
  · next gated =>
    have polled := polledLink st.retry nowMs random
    simp only [Bool.and_eq_true, Bool.not_eq_true'] at gated
    refine ⟨gated.1.1, gated.1.2, gated.2, ?_⟩
    rcases wants with aborts | connects
    · exact (polled.aborts aborts).1
    · exact (polled.connects connects).1
  · rcases wants with aborts | connects
    · cases aborts
    · cases connects

theorem coherent_up (coherent : st.Coherent timed) (roomy : st.Roomy timed)
    (acts : st.retry.acting = true)
    (reported : ∃ profile, .reported (text st.expectedSsid) (some profile) ∈ st.history.marks ∧
      text profile.ssid = (text st.expectedSsid).take 31) (err : Int) :
    Coherent timed (WifiStation.raise { st.call (.connected st.history.clockMs) with
      staConnecting := false
      staHasIp := true
      lastWifiConnectError := err } .wifiConnected st.activeStaAttemptGeneration) := by
  have tracks := tracks_call coherent.tracks (.connected st.history.clockMs) (by simp)
    (by rintro nowMs at_; cases at_; exact ⟨rfl, roomy⟩)
  have started : st.staStarted = true := by
    rw [← coherent.linked.enabled]
    exact (acting_iff.mp acts).1
  have wants : WifiMark.wanted st.history.marks = some st.activeStaAttemptGeneration := by
    rw [coherent.wanted, started, if_pos rfl]
  have linked : (st.retry.connected st.history.clockMs).Linked true _ _ :=
    linked_connected coherent.linked acts
  have still : (st.retry.connected st.history.clockMs).inFlight = false :=
    (linked.online (linked.address rfl)).2.1
  exact ⟨still.symm, linked, coherent.active, coherent.ready, coherent.wanted, coherent.gate, rfl,
    ⟨⟨wants, reported⟩, coherent.lawful⟩, tracks_same tracks rfl rfl fun _ => Nat.le_refl _⟩

theorem coherent_failed (coherent : st.Coherent timed) (roomy : st.Roomy timed)
    (without : st.staHasIp = false) {has : Bool} (still : has = false) (auth : Bool)
    (random : UInt32) (err : Int) (reason : UInt32) (rssi : Int) :
    Coherent timed { st.call (.failed st.history.clockMs auth random) with
      staHasIp := has
      staConnecting := (st.retry.failed st.history.clockMs auth random).inFlight
      lastWifiConnectError := err
      lastWifiDisconnectReason := reason
      lastWifiDisconnectRssi := rssi } := by
  have tracks := tracks_call coherent.tracks (.failed st.history.clockMs auth random) (by simp)
    (by rintro nowMs at_; cases at_; exact ⟨rfl, roomy⟩)
  subst still
  exact ⟨rfl, linked_failed coherent.linked auth, coherent.active, coherent.ready, coherent.wanted,
    coherent.gate, coherent.link.trans without, coherent.lawful,
    tracks_same tracks rfl rfl fun _ => Nat.le_refl _⟩

theorem coherent_connectAnswered (coherent : st.Coherent timed) (roomy : st.Roomy timed)
    (flies : st.retry.inFlight = true) (err : Int) (random : UInt32) :
    (st.connectAnswered err st.history.clockMs random).Coherent timed := by
  have without : st.staHasIp = false := by
    rw [Bool.eq_false_iff]
    intro has
    have still := (coherent.linked.online (coherent.linked.address has)).2.1
    exact absurd (flies.symm.trans still) (by decide)
  unfold connectAnswered
  split
  · exact coherent_failed coherent roomy without without false random err
      st.lastWifiDisconnectReason st.lastWifiDisconnectRssi
  · exact coherent_beside coherent st.wifiStarted st.apStarted st.driver err

theorem coherent_disconnected (coherent : st.Coherent timed) (roomy : st.Roomy timed)
    (info : Option (UInt32 × Int)) (liveIp : Bool) :
    (st.disconnected st.history.clockMs info liveIp).2.Coherent timed := by
  unfold disconnected
  dsimp only
  split
  · next goes =>
    simp only [Bool.and_eq_true] at goes
    have started : st.staStarted = true := goes.1.1.1
    split
    · next has =>
      have tracks := tracks_call coherent.tracks
        (.failed st.history.clockMs (authFailure ((info.map Prod.fst).getD 0)) 0) (by simp)
        (by rintro nowMs at_; cases at_; exact ⟨rfl, roomy⟩)
      have wants : WifiMark.wanted st.history.marks = some st.activeStaAttemptGeneration := by
        rw [coherent.wanted, started, if_pos rfl]
      exact ⟨rfl, linked_failed coherent.linked _, coherent.active, coherent.ready, coherent.wanted,
        coherent.gate, rfl, ⟨⟨wants, coherent.link.trans has⟩, coherent.lawful⟩,
        tracks_same tracks rfl rfl fun _ => Nat.le_refl _⟩
    · next without =>
      exact coherent_failed coherent roomy (by simpa using without) rfl _ 0 st.lastWifiConnectError _ _
  · exact coherent

theorem coherent_gotIp (coherent : st.Coherent timed) (roomy : st.Roomy timed) (liveIp : Bool)
    (reported : liveIp = true → st.staStarted = true →
      ∃ profile, .reported (text st.expectedSsid) (some profile) ∈ st.history.marks ∧
        text profile.ssid = (text st.expectedSsid).take 31) :
    (st.gotIp st.history.clockMs liveIp).2.Coherent timed := by
  unfold gotIp
  split
  · next goes =>
    simp only [Bool.and_eq_true, matches_] at goes
    have acts : st.retry.acting = true := by
      rw [acting_iff]
      simpa using goes.1.2.1.1
    exact coherent_up coherent roomy acts (reported goes.2 goes.1.1.1.1) 0
  · exact coherent

theorem coherent_interfaceStarted (coherent : st.Coherent timed) : st.interfaceStarted.Coherent timed := by
  refine ⟨coherent.connecting, coherent.linked, coherent.active, ?_, coherent.wanted, ?_, coherent.link,
    ⟨trivial, coherent.lawful⟩, tracks_same coherent.tracks rfl rfl fun _ => Nat.le_refl _⟩
  · intro is
    simpa [interfaceStarted, WifiStation.mark] using is
  · simp only [interfaceStarted, WifiStation.mark, WifiMark.gate, coherent.gate]
    by_cases pending : st.staStopPending = true <;> by_cases ready : st.staInterfaceReady = true <;>
      simp [pending, ready]

theorem coherent_interfaceStopped (coherent : st.Coherent timed) : st.interfaceStopped.Coherent timed :=
  ⟨coherent.connecting, coherent.linked, coherent.active, fun _ => rfl, coherent.wanted, rfl, coherent.link,
    ⟨trivial, coherent.lawful⟩, tracks_same coherent.tracks rfl rfl fun _ => Nat.le_refl _⟩

theorem nextGeneration_ne (st : WifiStation) : st.nextGeneration ≠ 0 := by
  unfold nextGeneration
  split
  · next zero =>
    intro zero'
    rw [← UInt32.toNat_inj, UInt32.toNat_add] at zero zero'
    simp at zero zero'
    omega
  · next nonzero => exact nonzero

theorem coherent_start (coherent : st.Coherent timed) (config : ProvisionConfig)
    (later : timed → st.history.clockMs ≤ nowMs) (room : timed → nowMs + 305000 ≤ uint64Max) :
    (st.start config nowMs).Coherent timed := by
  have nonzero := nextGeneration_ne st
  have tracks := tracks_call (coherent_at coherent later).tracks (.start st.nextGeneration nowMs)
    (by simp) (by rintro now at_; cases at_; exact ⟨rfl, room⟩)
  have active : true = (st.nextGeneration != 0) := by simp [nonzero]
  exact ⟨rfl, linked_start nonzero nowMs, active, coherent.ready, rfl, coherent.gate, rfl,
    ⟨trivial, coherent.lawful⟩, tracks_same tracks rfl rfl fun _ => Nat.le_refl _⟩

theorem coherent_rollBack (coherent : st.Coherent timed) : st.rollBack.Coherent timed := by
  have tracks := tracks_call coherent.tracks .stop (by simp) (by simp [RetryCall.nowMs?])
  exact ⟨rfl, linked_stop, rfl, coherent.ready, rfl, coherent.gate, rfl, ⟨trivial, coherent.lawful⟩,
    tracks_same tracks rfl rfl fun _ => Nat.le_refl _⟩

theorem coherent_tearDown (coherent : st.Coherent timed) : st.tearDown.Coherent timed := by
  have tracks := tracks_call coherent.tracks .stop (by simp) (by simp [RetryCall.nowMs?])
  refine ⟨rfl, linked_stop, rfl, fun is => absurd is Bool.false_ne_true, rfl, ?_, rfl,
    ⟨trivial, coherent.lawful⟩, tracks_same tracks rfl rfl fun _ => Nat.le_refl _⟩
  simp only [tearDown, WifiStation.mark, WifiStation.call, WifiMark.gate, coherent.gate,
    coherent.wanted]
  by_cases started : st.staStarted = true <;> by_cases pending : st.staStopPending = true <;>
    by_cases ready : st.staInterfaceReady = true <;> simp [started, pending, ready]

theorem coherent_pause (coherent : st.Coherent timed) : st.pause.Coherent timed :=
  ⟨rfl, linked_pause coherent.linked, coherent.active, coherent.ready, coherent.wanted, coherent.gate,
    coherent.link, coherent.lawful, tracks_pause coherent.tracks⟩

end WifiStation
