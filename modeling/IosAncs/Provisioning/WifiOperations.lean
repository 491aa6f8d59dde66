import IosAncs.Provisioning.WifiInvariant

/-!
The functions of the Wi-Fi runtime keep to the operation mutex. Each is followed once, from the
station that it finds when it gets the mutex to the one that it leaves.
-/
open Runs Sections Mutex CString ProvisioningRetry WifiStation

namespace Wifi

/-- A section that starts an attempt finds the station wanted and its interface ready. What the
    policy's waits come to is asked for where the clock is known never to go back and to stay
    clear of its end. -/
def operationMutex (timed : Prop) : Mutex WifiSection WifiEnv WifiRuntime WifiStation where
  use
    | .lock => .take
    | .unlock => .give
    | .connect | .plain => .apart
  resource := WifiRuntime.station
  Free := Free timed
  Coherent := Coherent timed
  Rely _ env s := timed →
    s.station.history.clockMs ≤ env.nowMs ∧ env.nowMs + 305000 ≤ uint64Max
  Meets label _ s := label = .connect →
    s.station.staStarted = true ∧ s.station.staInterfaceReady = true ∧
      s.station.staStopPending = false ∧ s.station.retry.acting = true ∧
      s.station.retry.inFlight = true
  coherent_of_free _ free := free.coherent

section Rules
variable {α : Type} {t : WifiStation} {timed : Prop}

theorem meets_of {label : WifiSection} (other : label ≠ .connect) (env : WifiEnv)
    (s : WifiRuntime) : (operationMutex timed).Meets label env s :=
  fun connects => absurd connects other

theorem within_section {body : WifiEnv → WifiStation → α × WifiStation}
    {Post : α → WifiStation → Prop}
    (h : ∀ env : WifiEnv, (timed → t.history.clockMs ≤ env.nowMs) →
      (timed → env.nowMs + 305000 ≤ uint64Max) →
        (body env t).2.Coherent timed ∧ Post (body env t).1 (body env t).2) :
    (operationMutex timed).Within (section_ body) t Post := by
  apply within_atomic rfl
  rintro env s clocked rfl
  obtain ⟨coherent, post⟩ := h env (fun is => (clocked is).1) fun is => (clocked is).2
  exact ⟨meets_of (by decide) env s, coherent, post⟩

theorem within_update {write : WifiStation → WifiStation} {Post : Unit → WifiStation → Prop}
    (coherent : (write t).Coherent timed) (post : Post () (write t)) :
    (operationMutex timed).Within (update write) t Post :=
  within_section fun _ _ _ => ⟨coherent, post⟩

theorem within_query {read : WifiStation → α} {Post : α → WifiStation → Prop}
    (coherent : t.Coherent timed) (post : Post (read t) t) :
    (operationMutex timed).Within (query read) t Post :=
  within_section fun _ _ _ => ⟨coherent, post⟩

theorem within_call {Post : Int → WifiStation → Prop} (coherent : t.Coherent timed)
    (post : ∀ err, Post err t) : (operationMutex timed).Within call t Post :=
  within_section fun env _ _ => ⟨coherent, post env.error⟩

theorem within_calls {Post : Int → WifiStation → Prop} (coherent : t.Coherent timed)
    (post : ∀ err, Post err t) (count : Nat) :
    (operationMutex timed).Within (calls count) t Post := by
  induction count with
  | zero => exact within_pure (post espOk)
  | succ rest ih =>
    apply within_bind (fun _ t' => t = t') (within_call coherent fun _ => rfl)
    rintro err _ rfl
    split
    · exact within_pure (post err)
    · exact ih

theorem apart_locked {body : Nat → UInt32 → Wifi α}
    (h : ∀ t random, Free timed t → t.Roomy timed →
      (operationMutex timed).Within (body t.history.clockMs random) t fun _ t' => Free timed t') :
    (operationMutex timed).Apart (locked body) := by
  have between : (operationMutex timed).Apart (do
      let now ← lockWifiOperation
      let result ← body now.1 now.2
      unlockWifiOperation
      pure result) := by
    apply apart_between (m := operationMutex timed) (fun _ t' => Free timed t') rfl rfl
    · rintro env s clocked free
      have coherent := coherent_at free.coherent fun is => (clocked is).1
      refine ⟨meets_of (by decide) env s, coherent, ?_⟩
      exact h (s.station.at_ env.nowMs) env.random ⟨coherent, free.started, free.mode, free.profile⟩
        fun is => (clocked is).2
    · rintro env s _ ⟨_, free⟩
      exact ⟨meets_of (by decide) env s, free⟩
  exact between

theorem apart_outside {body : WifiEnv → WifiRuntime → α × WifiRuntime}
    (same : ∀ env s, (body env s).2.station = s.station) :
    (operationMutex timed).Apart (atomic .plain body) :=
  obeys_apart rfl fun env s _ => ⟨meets_of (by decide) env s, same env s, rfl⟩

theorem apart_pure (value : α) : (operationMutex timed).Apart (pure value : Wifi α) := rfl

theorem apart_bind {β : Type} {first : Wifi α} {rest : α → Wifi β}
    (h : (operationMutex timed).Apart first)
    (later : ∀ value, (operationMutex timed).Apart (rest value)) :
    (operationMutex timed).Apart (first >>= rest) := by
  apply obeys_bind _ h
  rintro value _ rfl
  exact later value

theorem within_outside {body : WifiEnv → WifiRuntime → α × WifiRuntime}
    {Post : α → WifiStation → Prop} (coherent : t.Coherent timed)
    (same : ∀ env s, (body env s).2.station = s.station)
    (post : ∀ value, Post value t) : (operationMutex timed).Within (atomic .plain body) t Post := by
  apply within_atomic rfl
  rintro env s _ rfl
  have kept : (operationMutex timed).resource (body env s).2 = s.station := same env s
  rw [kept]
  exact ⟨meets_of (by decide) env s, coherent, post _⟩

theorem apart_dispatch (event : ProvisioningEvent) (generation : UInt32) :
    (operationMutex timed).Apart (dispatchEventWithGeneration event generation) := by
  apply apart_bind
  · apply apart_outside
    intro env s
    split <;> rfl
  · intro sent
    split
    · exact apart_outside fun _ _ => rfl
    · exact apart_pure ()

theorem within_dispatch {Post : Unit → WifiStation → Prop} (coherent : t.Coherent timed)
    (post : Post () t) (event : ProvisioningEvent) (generation : UInt32) :
    (operationMutex timed).Within (dispatchEventWithGeneration event generation) t Post := by
  apply within_bind (fun _ t' => t = t')
  · apply within_outside coherent
    · intro env s
      split <;> rfl
    · exact fun _ => rfl
  · rintro sent _ rfl
    split
    · exact within_outside coherent (fun _ _ => rfl) fun _ => post
    · exact within_pure post

end Rules

structure Driven (t : WifiStation) (mode : WifiMode) (t' : WifiStation) : Prop where
  same : t' = { t with driver := t'.driver }
  profile : t'.driver.profile = t.driver.profile
  mode : t'.driver.settled = true → t'.driver.mode = mode

section Driver
variable {t t' t'' : WifiStation} {mode : WifiMode} {timed : Prop}

theorem driven_trans (first : Driven t mode t') (second : Driven t' mode t'') :
    Driven t mode t'' where
  same := by
    rw [second.same, first.same]
  profile := second.profile.trans first.profile
  mode := second.mode

theorem driven_coherent (coherent : t.Coherent timed) (driven : Driven t mode t') : t'.Coherent timed := by
  rw [driven.same]
  exact coherent_beside coherent t.wifiStarted t.apStarted t'.driver t.lastWifiConnectError

theorem free_driven (coherent : t.Coherent timed)
    (started : t.wifiStarted = false → t.apStarted = false ∧ t.staStarted = false)
    (profile : t.staStarted = true → ∃ profile, t.driver.profile = some profile ∧
      text profile.ssid = (text t.expectedSsid).take 31)
    (driven : Driven t t.selectWifiModeFromFlags t') : Free timed t' := by
  have coherent' := driven_coherent coherent driven
  obtain ⟨same, kept, told⟩ := driven
  rw [same] at coherent' ⊢
  exact ⟨coherent', started, told, fun wanted => by rw [← kept] at profile; exact profile wanted⟩

theorem within_setMode (coherent : t.Coherent timed) (mode : WifiMode) :
    (operationMutex timed).Within (setMode mode) t fun err t' =>
      Driven t mode t' ∧ (err ≠ espOk → t'.driver.settled = false) := by
  apply within_section
  intro env _ _
  refine ⟨coherent_beside coherent t.wifiStarted t.apStarted _ t.lastWifiConnectError, ?_⟩
  dsimp only
  split
  · next accepted => exact ⟨⟨rfl, rfl, fun _ => rfl⟩, fun refused => absurd accepted refused⟩
  · exact ⟨⟨rfl, rfl, fun settled => absurd settled Bool.false_ne_true⟩, fun _ => rfl⟩

theorem within_tryWifiMode (coherent : t.Coherent timed) (mode : WifiMode) (attempts : Nat) (err : Int)
    (refused : attempts = 0 → t.driver.settled = false) :
    (operationMutex timed).Within (tryWifiMode mode attempts err) t fun err t' =>
      Driven t mode t' ∧ (err ≠ espOk → t'.driver.settled = false) := by
  induction attempts generalizing t err with
  | zero =>
    have unsettled := refused rfl
    refine within_pure ⟨⟨rfl, rfl, fun settled => ?_⟩, fun _ => unsettled⟩
    exact absurd (unsettled.symm.trans settled) Bool.false_ne_true
  | succ rest ih =>
    apply within_bind _ (within_setMode coherent mode)
    rintro answer t' ⟨driven, fails⟩
    split
    · exact within_pure ⟨driven, fails⟩
    · next again =>
      have unsettled : t'.driver.settled = false := by
        apply fails
        simp only [Decidable.not_not] at again
        rw [again]
        decide
      apply within_mono _ (ih (driven_coherent coherent driven) answer fun _ => unsettled)
      rintro err t'' ⟨further, failed⟩
      exact ⟨driven_trans driven further, failed⟩

theorem within_applyWifiMode (coherent : t.Coherent timed) :
    (operationMutex timed).Within applyWifiModeUnlocked t fun err t' =>
      Driven t t.selectWifiModeFromFlags t' ∧ (err ≠ espOk → t'.driver.settled = false) := by
  apply within_bind (fun mode t' => mode = t.selectWifiModeFromFlags ∧ t = t')
    (within_query coherent ⟨rfl, rfl⟩)
  rintro _ _ ⟨rfl, rfl⟩
  exact within_tryWifiMode coherent _ wifiModeRetryCount espOk fun none_ => absurd none_ (by decide)

theorem within_restore (coherent : t.Coherent timed)
    (started : t.wifiStarted = false → t.apStarted = false ∧ t.staStarted = false)
    (profile : t.staStarted = true → ∃ profile, t.driver.profile = some profile ∧
      text profile.ssid = (text t.expectedSsid).take 31) :
    (operationMutex timed).Within applyWifiModeUnlocked t fun _ t' => Free timed t' :=
  within_mono (fun _ _ told => free_driven coherent started profile told.1)
    (within_applyWifiMode coherent)

theorem within_ensureWifiStarted (free : Free timed t) :
    (operationMutex timed).Within ensureWifiStartedUnlocked t fun err t' =>
      Free timed t' ∧ (err = espOk → t'.wifiStarted = true) := by
  apply within_bind (fun started t' => started = t.wifiStarted ∧ t = t')
    (within_query free.coherent ⟨rfl, rfl⟩)
  rintro _ _ ⟨rfl, rfl⟩
  split
  · next started => exact within_pure ⟨free, fun _ => started⟩
  · next stopped =>
    simp only [Bool.not_eq_true] at stopped
    obtain ⟨noAp, noSta⟩ := free.started stopped
    apply within_bind _ (within_setMode free.coherent .null)
    rintro err t' ⟨driven, _⟩
    have free' : Free timed t' := by
      apply free_driven free.coherent free.started free.profile
      have null : t.selectWifiModeFromFlags = .null := by
        simp only [selectWifiModeFromFlags, noAp, noSta]
      rw [null]
      exact driven
    split
    · next failed => exact within_pure ⟨free', fun ok => absurd ok failed⟩
    · apply within_bind (fun _ t'' => t' = t'') (within_call free'.coherent fun _ => rfl)
      rintro err _ rfl
      split
      · next failed => exact within_pure ⟨free', fun ok => absurd ok failed⟩
      · have coherent := coherent_beside free'.coherent true t'.apStarted t'.driver
          t'.lastWifiConnectError
        apply within_bind (fun _ t'' => { t' with wifiStarted := true } = t'')
          (within_update coherent rfl)
        rintro _ _ rfl
        exact within_pure ⟨⟨coherent, fun unstarted => absurd unstarted (by simp), free'.mode,
          free'.profile⟩, fun _ => rfl⟩

end Driver

section Operations
variable {t t' : WifiStation} {timed : Prop}

def outfit (t : WifiStation) : Bool × Bool × Bool × WifiDriver × CharArray 32 :=
  (t.wifiStarted, t.apStarted, t.staStarted, t.driver, t.expectedSsid)

theorem free_same (free : Free timed t) (coherent : t'.Coherent timed)
    (same : outfit t' = outfit t) : Free timed t' := by
  simp only [outfit, Prod.mk.injEq] at same
  obtain ⟨wifi, ap, sta, driver, ssid⟩ := same
  refine ⟨coherent, ?_, ?_, ?_⟩
  · rw [wifi, ap, sta]
    exact free.started
  · rw [driver, selectWifiModeFromFlags, ap, sta]
    exact free.mode
  · rw [driver, ssid, sta]
    exact free.profile

theorem within_hasIp (coherent : t.Coherent timed) :
    (operationMutex timed).Within currentStationHasIp t fun live t' =>
      live = false ∧ t = t' ∨
        live = true ∧ t.mark (.reported (text t.expectedSsid) t.driver.profile) = t' := by
  apply within_section
  intro env _ _
  unfold hasIp
  split
  · exact ⟨coherent, .inl ⟨rfl, rfl⟩⟩
  · next ap _ =>
    split
    · next expected =>
      split
      · exact ⟨coherent, .inl ⟨rfl, rfl⟩⟩
      · split
        · exact ⟨coherent, .inl ⟨rfl, rfl⟩⟩
        · rw [expected]
          exact ⟨coherent_mark coherent _ trivial rfl rfl rfl, .inr ⟨rfl, rfl⟩⟩
    · exact ⟨coherent, .inl ⟨rfl, rfl⟩⟩

theorem within_hasIpIf (coherent : t.Coherent timed) (asked : Bool) :
    (operationMutex timed).Within (hasIpIf asked) t fun live t' =>
      live = false ∧ t = t' ∨ live = true ∧ asked = true ∧
        t.mark (.reported (text t.expectedSsid) t.driver.profile) = t' := by
  unfold hasIpIf
  split
  · next is =>
    apply within_mono _ (within_hasIp coherent)
    rintro live t' (quiet | ⟨live, noted⟩)
    · exact .inl quiet
    · exact .inr ⟨live, is, noted⟩
  · exact within_pure (.inl ⟨rfl, rfl⟩)

theorem free_reported (free : Free timed t) :
    Free timed (t.mark (.reported (text t.expectedSsid) t.driver.profile)) :=
  free_same free (coherent_mark free.coherent _ trivial rfl rfl rfl) rfl

theorem expected_reported (free : Free timed t) (wanted : t.staStarted = true) :
    ∃ profile, .reported (text t.expectedSsid) (some profile) ∈
      (t.mark (.reported (text t.expectedSsid) t.driver.profile)).history.marks ∧
        text profile.ssid = (text t.expectedSsid).take 31 := by
  obtain ⟨profile, has, cut⟩ := free.profile wanted
  refine ⟨profile, ?_, cut⟩
  rw [has]
  exact List.mem_cons_self

theorem apart_wifiEventHandler (event : WifiEvent) :
    (operationMutex timed).Apart (wifiEventHandler event) := by
  apply apart_bind
  · apply apart_locked
    intro t random free roomy
    cases event with
    | staStart =>
      apply within_bind (fun _ t' => t.interfaceStarted = t')
        (within_update (coherent_interfaceStarted free.coherent) rfl)
      rintro _ _ rfl
      exact within_pure (free_same free (coherent_interfaceStarted free.coherent) rfl)
    | staStop =>
      apply within_bind (fun _ t' => t.interfaceStopped = t')
        (within_update (coherent_interfaceStopped free.coherent) rfl)
      rintro _ _ rfl
      exact within_pure (free_same free (coherent_interfaceStopped free.coherent) rfl)
    | staDisconnected info =>
      have same : ∀ (st : WifiStation) (nowMs : Nat) (liveIp : Bool),
          outfit (st.disconnected nowMs info liveIp).2 = outfit st := by
        intro st nowMs liveIp
        unfold WifiStation.disconnected
        dsimp only
        split
        · split <;> rfl
        · rfl
      apply within_bind _ (within_hasIp free.coherent)
      rintro liveIp t' (⟨_, rfl⟩ | ⟨_, rfl⟩)
      · apply within_section
        intro env _ _
        have coherent := coherent_disconnected free.coherent roomy info liveIp
        exact ⟨coherent, free_same free coherent (same t _ liveIp)⟩
      · apply within_section
        intro env _ _
        have coherent := coherent_disconnected (free_reported free).coherent roomy info liveIp
        exact ⟨coherent, free_same (free_reported free) coherent (same _ _ liveIp)⟩
    | staGotIp ofStation =>
      have same : ∀ (st : WifiStation) (nowMs : Nat) (liveIp : Bool),
          outfit (st.gotIp nowMs liveIp).2 = outfit st := by
        intro st nowMs liveIp
        unfold WifiStation.gotIp
        split <;> rfl
      apply within_bind _ (within_hasIpIf free.coherent ofStation)
      rintro _ _ (⟨rfl, rfl⟩ | ⟨rfl, _, rfl⟩)
      · apply within_section
        intro env _ _
        have coherent := coherent_gotIp free.coherent roomy false fun live =>
          absurd live Bool.false_ne_true
        exact ⟨coherent, free_same free coherent (same t _ false)⟩
      · apply within_section
        intro env _ _
        have coherent := coherent_gotIp (free_reported free).coherent roomy true fun _ wanted =>
          expected_reported free wanted
        exact ⟨coherent, free_same (free_reported free) coherent (same _ _ true)⟩
    | other => exact within_pure free
  · intro notify
    split
    · exact apart_dispatch _ _
    · exact apart_pure ()

theorem within_callIf {Post : Int → WifiStation → Prop} (coherent : t.Coherent timed)
    (post : ∀ err, Post err t) (asked : Bool) :
    (operationMutex timed).Within (callIf asked) t Post := by
  unfold callIf
  split
  · exact within_call coherent post
  · exact within_pure (post espOk)

theorem poll_outfit (st : WifiStation) (nowMs : Nat) (random : UInt32) :
    outfit (st.poll nowMs random).2 = outfit st := by
  unfold WifiStation.poll
  split <;> rfl

theorem within_connectIf (free : Free timed t) (roomy : t.Roomy timed) (asked : Bool)
    (random : UInt32) (behind : asked = true → t.staStarted = true ∧ t.staInterfaceReady = true ∧
      t.staStopPending = false ∧ t.retry.acting = true ∧ t.retry.inFlight = true) :
    (operationMutex timed).Within
      (connectIf asked t.activeStaAttemptGeneration t.history.clockMs random) t
      fun _ t' => Free timed t' := by
  unfold connectIf
  split
  · next is =>
    obtain ⟨started, ready, unpending, acts, flies⟩ := behind is
    have coherent : (t.mark (.connect t.activeStaAttemptGeneration)).Coherent timed := by
      apply coherent_mark free.coherent _ _ rfl rfl rfl
      refine ⟨?_, ?_⟩
      · rw [free.coherent.gate, unpending, ready]
        rfl
      · rw [free.coherent.wanted, started, if_pos rfl]
    apply within_bind fun _ t' => t.mark (.connect t.activeStaAttemptGeneration) = t'
    · apply within_atomic rfl
      rintro env s _ rfl
      exact ⟨fun _ => ⟨started, ready, unpending, acts, flies⟩, coherent, rfl⟩
    · rintro err _ rfl
      have same : outfit ((t.mark (.connect t.activeStaAttemptGeneration)).connectAnswered err
          t.history.clockMs random) = outfit t := by
        unfold WifiStation.connectAnswered
        dsimp only
        split <;> rfl
      have answered := coherent_connectAnswered coherent roomy flies err random
      exact within_update answered (free_same free answered same)
  · exact within_pure free

theorem poll_kept (st : WifiStation) (nowMs : Nat) (random : UInt32) :
    (st.poll nowMs random).2.activeStaAttemptGeneration = st.activeStaAttemptGeneration ∧
      (st.poll nowMs random).2.history.clockMs = st.history.clockMs ∧
      (st.poll nowMs random).2.staStarted = st.staStarted ∧
      (st.poll nowMs random).2.staInterfaceReady = st.staInterfaceReady ∧
      (st.poll nowMs random).2.staStopPending = st.staStopPending ∧
      (st.poll nowMs random).2.retry.acting = st.retry.acting ∧
      ((st.poll nowMs random).1.connect = true →
        (st.poll nowMs random).2.retry.inFlight = true) := by
  have link := polledLink st.retry nowMs random
  unfold WifiStation.poll
  split
  · have acts : (st.retry.poll nowMs random).1.acting = st.retry.acting := by
      simp only [acting, link.enabled, link.paused]
    exact ⟨rfl, rfl, rfl, rfl, rfl, acts, fun connects => (link.connects connects).2⟩
  · exact ⟨rfl, rfl, rfl, rfl, rfl, rfl, fun connects => absurd connects Bool.false_ne_true⟩

theorem apart_wifiTimeoutTurn : (operationMutex timed).Apart wifiTimeoutTurn := by
  apply apart_bind
  · apply apart_locked
    intro t random free roomy
    have polled := coherent_poll free.coherent random roomy
    have free' : Free timed (t.poll t.history.clockMs random).2 :=
      free_same free polled (poll_outfit t _ random)
    apply within_bind fun value t' => value = ((t.poll t.history.clockMs random).1,
        t.activeStaAttemptGeneration) ∧ (t.poll t.history.clockMs random).2 = t'
    · exact within_section fun env _ _ => ⟨polled, rfl, rfl⟩
    · rintro _ t' ⟨rfl, after⟩
      have kept := poll_kept t t.history.clockMs random
      rw [after] at free' kept
      obtain ⟨generation, clock, started, ready, pending, acts, flies⟩ := kept
      have roomy' : t'.Roomy timed := by
        rw [Roomy, clock]
        exact roomy
      apply within_bind _ (within_hasIpIf free'.coherent _)
      rintro _ _ (⟨rfl, rfl⟩ | ⟨rfl, aborts, rfl⟩)
      · apply within_bind (fun _ t'' => t' = t'') (within_callIf free'.coherent (fun _ => rfl) _)
        rintro _ _ rfl
        rw [← generation, ← clock]
        apply within_bind (fun _ t'' => Free timed t'')
        · apply within_connectIf free' roomy'
          intro connects
          rw [clock] at connects
          obtain ⟨wanted, up, unpending, does⟩ := poll_acts (.inr connects)
          exact ⟨started.trans wanted, ready.trans up, pending.trans unpending, acts.trans does,
            flies connects⟩
        · intro _ t'' free''
          exact within_pure free''
      · obtain ⟨wanted, _, _, does⟩ := poll_acts (.inl aborts)
        have up := coherent_up (free_reported free').coherent roomy' (acts.trans does)
          (expected_reported free' (started.trans wanted)) t'.lastWifiConnectError
        have reconciled : Free timed ((t'.mark (.reported (text t'.expectedSsid)
            t'.driver.profile)).reconciled t'.history.clockMs t'.activeStaAttemptGeneration) :=
          free_same (free_reported free') up rfl
        rw [← generation, ← clock]
        apply within_bind (fun _ t'' => Free timed t'') (within_update reconciled.coherent reconciled)
        intro _ t'' told
        apply within_bind (fun _ last => Free timed last) (within_dispatch told.coherent told _ _)
        intro _ last left
        exact within_pure left
  · rintro ⟨actions, generation⟩
    dsimp only
    split
    · exact apart_dispatch _ _
    · exact apart_pure ()

theorem apart_startAp : (operationMutex timed).Apart startAp := by
  apply apart_locked
  intro t random free _
  apply within_bind _ (within_ensureWifiStarted free)
  rintro err t₁ ⟨free₁, started⟩
  split
  · exact within_pure free₁
  · next ok =>
    have started : t₁.wifiStarted = true := started (by simpa using ok)
    apply within_bind (fun _ t' => t₁ = t') (within_query free₁.coherent rfl)
    rintro already _ rfl
    split
    · exact within_pure free₁
    · -- the mode that the driver is given is the one with the AP
      have opened := coherent_beside free₁.coherent t₁.wifiStarted true t₁.driver
        t₁.lastWifiConnectError
      have up : ∀ {p : Prop}, t₁.wifiStarted = false → p := fun unstarted =>
        absurd (started.symm.trans unstarted) (by decide)
      apply within_bind (fun _ t' => { t₁ with apStarted := true } = t') (within_update opened rfl)
      rintro _ _ rfl
      apply within_bind _ (within_applyWifiMode opened)
      rintro err t₂ ⟨driven, refused⟩
      have coherent₂ := driven_coherent opened driven
      have free₂ : Free timed t₂ := free_driven opened up free₁.profile driven
      have closed := coherent_beside coherent₂ t₂.wifiStarted false t₂.driver t₂.lastWifiConnectError
      have up₂ : ∀ {p : Prop}, t₂.wifiStarted = false → p := by
        rw [driven.same]
        exact up
      split
      · next failed =>
        apply within_bind (fun _ t' => Free timed t')
        · apply within_update closed
          exact ⟨closed, up₂, fun settled => absurd ((refused failed).symm.trans settled)
            (by decide), free₂.profile⟩
        · intro _ t' free'
          exact within_pure free'
      · apply within_bind (fun _ t' => t₂ = t')
        · apply within_bind (fun _ t' => t₂ = t')
          · apply within_bind (fun _ t' => t₂ = t') (within_call coherent₂ fun _ => rfl)
            rintro _ _ rfl
            exact within_calls coherent₂ (fun _ => rfl) 5
          · rintro err _ rfl
            split
            · exact within_pure rfl
            · exact within_call coherent₂ fun _ => rfl
        · rintro err _ rfl
          split
          · apply within_bind (fun _ t' => { t₂ with apStarted := false } = t')
              (within_update closed rfl)
            rintro _ _ rfl
            apply within_bind (fun _ t' => Free timed t') (within_restore closed up₂ free₂.profile)
            intro _ t' free'
            exact within_pure free'
          · exact within_pure free₂

theorem apart_stopAp : (operationMutex timed).Apart stopAp := by
  apply apart_locked
  intro t random free _
  apply within_bind (fun _ t' => t = t') (within_query free.coherent rfl)
  rintro open_ _ rfl
  split
  · exact within_pure free
  · apply within_bind (fun _ t' => t = t') (within_call free.coherent fun _ => rfl)
    rintro err _ rfl
    split
    · exact within_pure free
    · have closed := coherent_beside free.coherent t.wifiStarted false t.driver t.lastWifiConnectError
      apply within_bind fun _ t' => { t with apStarted := false } = t'
      · apply within_atomic rfl
        rintro env s _ rfl
        exact ⟨meets_of (by decide) env s, closed, rfl⟩
      · rintro _ _ rfl
        refine within_restore closed ?_ free.profile
        exact fun unstarted => ⟨rfl, (free.started unstarted).2⟩

theorem profile_ssid {config : ProvisionConfig} (valid : ProvisionConfig.validate config = .ok)
    (target : CharArray 32) : text (profileOf config).ssid =
      (text (strlcpy target config.wifiSsid)).take 31 := by
  have present := ((ProvisionConfig.validate_ok_iff config).mp valid).wifiSsid
  have fits : fieldValid config.wifiSsid = true := by
    simp only [fieldPresent, Bool.and_eq_true] at present
    exact present.1
  rw [text_strlcpy target fits]
  apply text_ofText
  · rw [List.length_take]
    omega
  · intro member
    exact text_nonzero _ (List.mem_of_mem_take member)

theorem within_configureSta (coherent : t.Coherent timed) (config : ProvisionConfig) :
    (operationMutex timed).Within (configureSta config) t fun err t' =>
      t' = { t with driver := t'.driver } ∧
        (t'.driver.settled = true → t'.driver.mode = t.selectWifiModeFromFlags) ∧
        (err = espOk → t'.driver.profile = some (profileOf config)) := by
  apply within_bind _ (within_applyWifiMode coherent)
  rintro err t₁ ⟨driven, _⟩
  have coherent₁ := driven_coherent coherent driven
  split
  · next failed => exact within_pure ⟨driven.same, driven.mode, fun ok => absurd ok failed⟩
  · apply within_bind (fun _ t' => t₁ = t') (within_calls coherent₁ (fun _ => rfl) 3)
    rintro err _ rfl
    split
    · next failed => exact within_pure ⟨driven.same, driven.mode, fun ok => absurd ok failed⟩
    · apply within_section
      intro env _ _
      refine ⟨coherent_beside coherent₁ t₁.wifiStarted t₁.apStarted _ t₁.lastWifiConnectError, ?_⟩
      dsimp only
      split
      · refine ⟨?_, driven.mode, fun _ => rfl⟩
        rw [driven.same]
      · next failed => exact ⟨driven.same, driven.mode, fun ok => absurd ok failed⟩

theorem apart_startSta (config : ProvisionConfig) :
    (operationMutex timed).Apart (startSta config) := by
  unfold startSta
  split
  · exact apart_pure _
  · next valid =>
    simp only [Decidable.not_not] at valid
    apply apart_locked
    intro t random free _
    apply within_bind _ (within_ensureWifiStarted free)
    rintro err t₁ ⟨free₁, started⟩
    split
    · exact within_pure free₁
    · next ok =>
      have started : t₁.wifiStarted = true := started (by simpa using ok)
      apply within_bind (fun _ t' => t₁ = t') (within_query free₁.coherent rfl)
      rintro already _ rfl
      split
      · exact within_pure free₁
      · apply within_bind fun _ t' => t'.Coherent timed ∧ ∃ nowMs, t₁.start config nowMs = t'
        · apply within_section
          intro env later room
          have coherent := coherent_start free₁.coherent config later room
          exact ⟨coherent, coherent, env.nowMs, rfl⟩
        · rintro _ _ ⟨coherent, nowMs, rfl⟩
          apply within_bind _ (within_configureSta coherent config)
          rintro err t₂ ⟨same, mode, profile⟩
          have up : ∀ {p : Prop}, t₂.wifiStarted = false → p := by
            rw [same]
            exact fun unstarted => absurd (started.symm.trans unstarted) (by decide)
          have coherent₂ : t₂.Coherent timed := by
            rw [same]
            exact coherent_beside coherent t₁.wifiStarted t₁.apStarted t₂.driver t₁.lastWifiConnectError
          split
          · have rolled := coherent_rollBack coherent₂
            apply within_bind (fun _ t' => t₂.rollBack = t') (within_update rolled rfl)
            rintro _ _ rfl
            apply within_bind (fun _ t' => Free timed t')
              (within_restore rolled up fun wanted => absurd wanted Bool.false_ne_true)
            intro _ t' free'
            exact within_pure free'
          · next accepted =>
            have has := profile (by simpa using accepted)
            refine within_pure ⟨coherent₂, up, ?_, fun _ => ⟨_, has, ?_⟩⟩
            · intro settled
              rw [mode settled, same]
              rfl
            · rw [same]
              exact profile_ssid valid t₁.expectedSsid

theorem apart_stopSta : (operationMutex timed).Apart stopSta := by
  apply apart_locked
  intro t random free _
  have torn := coherent_tearDown free.coherent
  have profile : ∀ {p : Prop}, t.tearDown.staStarted = true → p := fun wanted =>
    absurd wanted Bool.false_ne_true
  apply within_bind (fun value t' => value = t.staStarted ∧ t.tearDown = t')
    (within_section fun _ _ _ => ⟨torn, rfl, rfl⟩)
  rintro _ _ ⟨rfl, rfl⟩
  split
  · next unwanted =>
    refine within_pure ⟨torn, fun unstarted => ⟨(free.started unstarted).1, rfl⟩, ?_, profile⟩
    have unwanted : t.staStarted = false := by simpa using unwanted
    have same : t.tearDown.selectWifiModeFromFlags = t.selectWifiModeFromFlags := by
      rw [selectWifiModeFromFlags, selectWifiModeFromFlags, unwanted]
      rfl
    rw [same]
    exact free.mode
  · apply within_bind (fun _ t' => t.tearDown = t') (within_call torn fun _ => rfl)
    rintro answer _ rfl
    apply within_bind (fun _ t' => Free timed t')
      (within_restore torn (fun unstarted => ⟨(free.started unstarted).1, rfl⟩) profile)
    intro _ t' free'
    exact within_pure free'

theorem apart_pauseRetries : (operationMutex timed).Apart pauseRetries := by
  apply apart_locked
  intro t random free _
  have paused := coherent_pause free.coherent
  have free' : Free timed t.pause := free_same free paused rfl
  apply within_bind (fun _ t' => t.pause = t') (within_section fun _ _ _ => ⟨paused, rfl⟩)
  rintro connecting _ rfl
  apply within_bind (fun _ t' => t.pause = t') (within_callIf paused (fun _ => rfl) _)
  rintro _ _ rfl
  exact within_pure free'

theorem apart_enterStableRecovery : (operationMutex timed).Apart enterStableRecovery := by
  apply apart_bind apart_startAp
  intro err
  split
  · apply apart_bind (apart_outside fun _ _ => rfl)
    exact fun _ => apart_pure err
  · exact apart_pure err

theorem within_scanRecords (coherent : t.Coherent timed) (count : Nat) :
    (operationMutex timed).Within (scanRecords count) t fun _ t' => t = t' := by
  apply within_bind (fun _ t' => t = t') (within_call coherent fun _ => rfl)
  rintro err _ rfl
  split
  · exact within_pure rfl
  · apply within_bind (fun _ t' => t = t') (within_section fun _ _ _ => ⟨coherent, rfl⟩)
    rintro ⟨err, apCount⟩ _ rfl
    dsimp only
    split
    · exact within_pure rfl
    · split
      · exact within_pure rfl
      · apply within_bind (fun _ t' => t = t') (within_section fun _ _ _ => ⟨coherent, rfl⟩)
        rintro ⟨err, found⟩ _ rfl
        dsimp only
        split
        · exact within_pure rfl
        · exact within_pure rfl

theorem apart_scan (count : Nat) : (operationMutex timed).Apart (scan count) := by
  unfold scan
  split
  · exact apart_pure _
  · apply apart_locked
    intro t random free _
    apply within_bind _ (within_ensureWifiStarted free)
    rintro err t₁ ⟨free₁, _⟩
    split
    · exact within_pure free₁
    · apply within_bind (fun _ t' => t₁ = t') (within_query free₁.coherent rfl)
      rintro connecting _ rfl
      split
      · exact within_pure free₁
      · apply within_bind (fun _ t' => t₁ = t') (within_section fun _ _ _ => ⟨free₁.coherent, rfl⟩)
        rintro ⟨err, original⟩ _ rfl
        dsimp only
        split
        · exact within_pure free₁
        · apply within_bind fun err t' => (∃ mode, Driven t₁ mode t') ∧
            (decide (original = .ap) = false → t₁ = t') ∧
            (err ≠ espOk → decide (original = .ap) = true → t'.driver.settled = false)
          · unfold addStaIf
            split
            · next beside =>
              apply within_mono _ (within_setMode free₁.coherent .apSta)
              rintro err t' ⟨driven, refused⟩
              exact ⟨⟨_, driven⟩, fun other => absurd (beside.symm.trans other) (by decide),
                fun failed _ => refused failed⟩
            · next alone =>
              refine within_pure ⟨⟨t₁.driver.mode, rfl, rfl, fun _ => rfl⟩, fun _ => rfl, ?_⟩
              exact fun failed => absurd rfl failed
          · rintro err t₂ ⟨⟨mode, driven⟩, kept, refused⟩
            have coherent₂ := driven_coherent free₁.coherent driven
            have started : t₂.wifiStarted = false →
                t₂.apStarted = false ∧ t₂.staStarted = false := by
              rw [driven.same]
              exact free₁.started
            have profile : t₂.staStarted = true → ∃ profile, t₂.driver.profile = some profile ∧
                text profile.ssid = (text t₂.expectedSsid).take 31 := by
              rw [driven.profile, driven.same]
              exact free₁.profile
            cases beside : decide (original = .ap) with
            | false =>
              obtain rfl := kept beside
              split
              · exact within_pure free₁
              · apply within_bind _ (within_scanRecords coherent₂ count)
                rintro ⟨err, found⟩ _ rfl
                apply within_bind (fun _ t' => Free timed t') (within_pure free₁)
                intro _ t' free'
                exact within_pure free'
            | true =>
              split
              · next failed =>
                have unsettled := refused failed beside
                exact within_pure ⟨coherent₂, started,
                  fun settled => absurd (unsettled.symm.trans settled) (by decide), profile⟩
              · apply within_bind _ (within_scanRecords coherent₂ count)
                rintro ⟨err, found⟩ _ rfl
                apply within_bind fun _ t' => Free timed t'
                · apply within_bind _ (within_restore coherent₂ started profile)
                  intro _ t' free'
                  exact within_pure free'
                · intro _ t' free'
                  exact within_pure free'

theorem apart_init (config : Option ProvisionConfig) :
    (operationMutex timed).Apart (init config) := by
  unfold init
  split
  · apply apart_bind (apart_startSta _)
    intro err
    split
    · exact apart_pure _
    · exact apart_bind (apart_dispatch _ _) fun _ => apart_pure _
  · apply apart_bind apart_startAp
    intro err
    split
    · exact apart_pure _
    · exact apart_bind (apart_dispatch _ _) fun _ => apart_pure _

theorem apart_body (call : WifiCall) : (operationMutex timed).Apart (body call) := by
  have ignores : ∀ {α : Type} {program : Wifi α}, (operationMutex timed).Apart program →
      (operationMutex timed).Apart (ignored program) :=
    fun apart => apart_bind apart fun _ => apart_pure ()
  cases call with
  | wifiTimeoutTurn => exact apart_wifiTimeoutTurn
  | wifiEvent event => exact apart_wifiEventHandler event
  | eventCallbackTurn =>
    apply apart_outside
    intro env s
    split <;> rfl
  | init config => exact ignores (apart_init config)
  | startAp => exact ignores apart_startAp
  | stopAp => exact ignores apart_stopAp
  | startSta config => exact ignores (apart_startSta config)
  | stopSta => exact ignores apart_stopSta
  | pauseRetries => exact ignores apart_pauseRetries
  | enterStableRecovery => exact ignores apart_enterStableRecovery
  | scan count => exact ignores (apart_scan count)
  | notifyMqttFailed => exact apart_dispatch _ _
  | notifyMqttConnected => exact apart_dispatch _ _

end Operations

end Wifi
