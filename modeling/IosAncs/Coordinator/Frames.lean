import IosAncs.Coordinator.Handlers
import IosAncs.Relay.Stop

/-!
What the other tasks and most of the coordinator's functions leave as it is: the client with
its settings and its callback, and what the reducer holds.
-/
open Sections RelayContext

namespace AppContext

def Manned (s : AppContext) : Prop := s.relay.running = true ∨ s.relay.ctx.client ≠ none

/-- What the other tasks do, and the sections that leave the client as it is. A connection
    appears by a report of the client; what is posted for a client is stamped with the
    generation of its callback. -/
structure Same (s s' : AppContext) : Prop where
  config : s'.app.config = s.app.config
  initialized : s'.app.mqttInitialized = s.app.mqttInitialized
  generation : s'.app.mqttGeneration = s.app.mqttGeneration
  client : s'.relay.ctx.client = s.relay.ctx.client
  settings : s'.relay.config = s.relay.config
  callback : s'.relay.callback = s.relay.callback
  running : s'.relay.running = true → s.Manned
  connected : s'.relay.ctx.mqttConnected = true → s.relay.ctx.mqttConnected = true ∨
    s.Manned ∧ s.relay.config ∈ s'.history.reported
  reported : s.history.reported ⊆ s'.history.reported
  saved : s'.history.saved = s.history.saved
  stopped : s'.history.stopped = s.history.stopped
  queue : ∃ new, s'.queue = s.queue ++ new ∧
    ∀ event generation, .mqtt event generation ∈ new → s.relay.callback = some generation
  room : s.queue.length ≤ eventQueueLength → s'.queue.length ≤ eventQueueLength

theorem same_refl (s : AppContext) : Same s s where
  config := rfl
  initialized := rfl
  generation := rfl
  client := rfl
  settings := rfl
  callback := rfl
  running := .inl
  connected := .inl
  reported := List.Subset.refl _
  saved := rfl
  stopped := rfl
  queue := ⟨[], by simp, by simp⟩
  room := id

theorem manned_same {s s' : AppContext} (same : Same s s') (manned : s'.Manned) : s.Manned := by
  rcases manned with running | client
  · exact same.running running
  · exact .inr (same.client ▸ client)

theorem same_trans {s s' s'' : AppContext} (first : Same s s') (second : Same s' s'') :
    Same s s'' where
  config := second.config.trans first.config
  initialized := second.initialized.trans first.initialized
  generation := second.generation.trans first.generation
  client := second.client.trans first.client
  settings := second.settings.trans first.settings
  callback := second.callback.trans first.callback
  running running := manned_same first (second.running running)
  connected connected := by
    rcases second.connected connected with before | ⟨manned, reports⟩
    · refine (first.connected before).imp_right ?_
      exact fun ⟨manned, reports⟩ => ⟨manned, second.reported reports⟩
    · exact .inr ⟨manned_same first manned, first.settings ▸ reports⟩
  reported := fun _ member => second.reported (first.reported member)
  saved := second.saved.trans first.saved
  stopped := second.stopped.trans first.stopped
  queue := by
    obtain ⟨new, grown, stamped⟩ := first.queue
    obtain ⟨newer, grown', stamped'⟩ := second.queue
    refine ⟨new ++ newer, by rw [grown', grown, List.append_assoc], ?_⟩
    intro event generation member
    rcases List.mem_append.mp member with early | late
    · exact stamped event generation early
    · exact first.callback.symm.trans (stamped' event generation late)
  room := second.room ∘ first.room

theorem same_post (s : AppContext) {message : AppEventMsg}
    (stamped : ∀ event generation, message = .mqtt event generation →
      s.relay.callback = some generation) : Same s (s.post message) := by
  unfold post
  split
  · next room =>
    refine { same_refl s with queue := ⟨[message], rfl, ?_⟩, room := ?_ }
    · intro event generation member
      exact stamped event generation (List.mem_singleton.mp member).symm
    · intro _
      simpa using Nat.succ_le_of_lt room
  · exact same_refl s

theorem same_clientActs (s : AppContext) (running : s.relay.running = true) (eventId : MqttEventId)
    (nowMs : UInt64) : Same s (s.clientActs eventId nowMs) := by
  have client : (RelayHandler.act s.relay.ctx eventId nowMs).client = s.relay.ctx.client := by
    cases eventId with
    | published msgId => exact congrArg (·.1) (link_handlePublishedLocked s.relay.ctx msgId)
    | disconnected => exact congrArg (·.1) (link_handleDisconnectLocked s.relay.ctx)
    | error codes =>
      have freed := link_handleDisconnectLocked (captureErrorLocked s.relay.ctx codes nowMs)
      have captured := untouched_captureErrorLocked s.relay.ctx codes nowMs
      exact (congrArg (·.1) freed).trans captured.client
    | _ => rfl
  have connected : (RelayHandler.act s.relay.ctx eventId nowMs).mqttConnected = true →
      s.relay.ctx.mqttConnected = true ∨ eventId = .connected := by
    intro up
    cases eventId with
    | connected => exact .inr rfl
    | published msgId =>
      have kept := congrArg (·.2.1) (link_handlePublishedLocked s.relay.ctx msgId)
      exact .inl (kept.symm.trans up)
    | disconnected =>
      have down := congrArg (·.2.1) (link_handleDisconnectLocked s.relay.ctx)
      exact absurd (down.symm.trans up) (by simp)
    | error codes =>
      have down := congrArg (·.2.1)
        (link_handleDisconnectLocked (captureErrorLocked s.relay.ctx codes nowMs))
      exact absurd (down.symm.trans up) (by simp)
    | _ => exact .inl up
  refine { same_refl s with client, connected := ?_, reported := ?_ }
  · intro up
    refine (connected up).imp_right ?_
    rintro rfl
    exact ⟨.inl running, List.mem_cons_self⟩
  · simp only [clientActs]
    split
    · exact List.subset_cons_self _ _
    · exact List.Subset.refl _

theorem same_interrupt (s : AppContext) (other : OtherTask) : Same s (s.interrupt other) := by
  cases other with
  | clientEvent eventId nowMs =>
    simp only [interrupt]
    split
    · next running => exact same_clientActs s running eventId nowMs
    · exact same_refl s
  | subscribeFailed =>
    simp only [interrupt]
    split
    · exact { same_refl s with connected := fun no => absurd no (by simp) }
    · exact same_refl s
  | emit event =>
    simp only [interrupt]
    split
    · next generation _ callback =>
      apply same_post s
      rintro event' generation' stamped
      cases stamped
      exact callback
    · exact same_refl s
  | _ => exact same_post s fun _ _ no => absurd no (by simp)

theorem same_interrupted (s : AppContext) (others : List OtherTask) :
    Same s (s.interrupted others) := by
  induction others generalizing s with
  | nil => exact same_refl s
  | cons other rest ih => exact same_trans (same_interrupt s other) (ih _)

theorem interrupted_app (s : AppContext) (others : List OtherTask) :
    (s.interrupted others).app = s.app ∧ (s.interrupted others).marker = s.marker := by
  have posted (s : AppContext) (message : AppEventMsg) :
      (s.post message).app = s.app ∧ (s.post message).marker = s.marker := by
    unfold post
    split <;> exact ⟨rfl, rfl⟩
  induction others generalizing s with
  | nil => exact ⟨rfl, rfl⟩
  | cons other rest ih =>
    have first : (s.interrupt other).app = s.app ∧ (s.interrupt other).marker = s.marker := by
      cases other with
      | clientEvent eventId nowMs =>
        simp only [interrupt]
        split <;> exact ⟨rfl, rfl⟩
      | subscribeFailed =>
        simp only [interrupt]
        split <;> exact ⟨rfl, rfl⟩
      | emit event =>
        simp only [interrupt]
        split
        · exact posted s _
        · exact ⟨rfl, rfl⟩
      | _ => exact posted s _
    exact ⟨(ih _).1.trans first.1, (ih _).2.trans first.2⟩

def Unmoved (s s' : AppContext) : Prop := Same s s' ∧ s'.app.state = s.app.state

theorem unmoved_refl (s : AppContext) : Unmoved s s := ⟨same_refl s, rfl⟩

theorem unmoved_trans {s s' s'' : AppContext} (first : Unmoved s s') (second : Unmoved s' s'') :
    Unmoved s s'' :=
  ⟨same_trans first.1 second.1, second.2.trans first.2⟩

theorem unmoved_interrupted (s : AppContext) (others : List OtherTask) :
    Unmoved s (s.interrupted others) :=
  ⟨same_interrupted s others, congrArg AppCoordinatorState.state (interrupted_app s others).1⟩

/-- A relation between the contexts before and after a program, which holds
    wherever the client and the reducer's state are unmoved. -/
class Frame (R : AppContext → AppContext → Prop) : Prop where
  unmoved {s s' : AppContext} : Unmoved s s' → R s s'
  trans {s s' s'' : AppContext} : R s s' → R s' s'' → R s s''

instance : Frame Unmoved := ⟨id, unmoved_trans⟩

instance : Frame Same := ⟨And.left, same_trans⟩

end AppContext

namespace Coordinator
open AppContext
variable {α β : Type} {R : AppContext → AppContext → Prop}

def Keeps (R : AppContext → AppContext → Prop) (program : Coordinator α) : Prop :=
  ∀ s, Leads (fun _ => True) (fun _ s' => R s s') program s

abbrev KeepsLink (program : Coordinator α) : Prop := Keeps Same program

section Frame
variable [Frame R]

theorem keeps_of_unmoved {program : Coordinator α} (unmoved : Keeps Unmoved program) : Keeps R program :=
  fun s => leads_mono (unmoved s) fun _ _ => Frame.unmoved

theorem keeps_pure (value : α) : Keeps R (pure value : Coordinator α) :=
  fun s => leads_pure (Frame.unmoved (unmoved_refl s))

theorem keeps_bind {program : Coordinator α} {rest : α → Coordinator β}
    (keeps : Keeps R program) (later : ∀ value, Keeps R (rest value)) :
    Keeps R (program >>= rest) := by
  intro s
  refine leads_then (keeps s) fun value s' first => ?_
  exact leads_mono (later value s') fun _ _ => Frame.trans first

theorem keeps_when {condition : Prop} [Decidable condition] {program : Coordinator Unit}
    {rest : Coordinator β} (keeps : Keeps R program) (later : Keeps R rest) :
    Keeps R (if condition then (do let _ ← program; rest) else rest) := by
  split
  · exact keeps_bind keeps fun _ => later
  · exact later

theorem keeps_if {condition : Prop} [Decidable condition] {program : Coordinator Unit}
    (keeps : Keeps R program) : Keeps R (if condition then program else pure ()) := by
  split
  · exact keeps
  · exact keeps_pure ()

theorem keeps_section {body : AppEnv → AppContext → α × AppContext}
    (h : ∀ env s, R s (body env s).2) : Keeps R (section_ body) :=
  fun s => leads_atomic fun env _ => Frame.trans (Frame.unmoved (unmoved_interrupted s env.others)) (h env _)

theorem keeps_query (read : AppEnv → AppContext → α) : Keeps R (query read) :=
  keeps_section fun _ s => Frame.unmoved (unmoved_refl s)

theorem keeps_call : Keeps R call := keeps_query _

theorem keeps_runtimeStatus : Keeps R runtimeStatus := keeps_query _

theorem keeps_updateApp {write : AppEnv → AppCoordinatorState → AppCoordinatorState}
    (h : ∀ env app, (write env app).config = app.config ∧
      (write env app).mqttInitialized = app.mqttInitialized ∧
      (write env app).mqttGeneration = app.mqttGeneration ∧ (write env app).state = app.state) :
    Keeps R (updateApp write) := by
  unfold updateApp update
  refine keeps_section fun env s => Frame.unmoved ?_
  obtain ⟨config, initialized, generation, state⟩ := h env s.app
  exact ⟨{ same_refl s with config, initialized, generation }, state⟩

theorem keeps_updateRelay {write : AppEnv → AppRelay → AppRelay}
    (h : ∀ env s, Same s { s with relay := write env s.relay }) : Keeps R (updateRelay write) := by
  unfold updateRelay update
  exact keeps_section fun env s => Frame.unmoved ⟨h env s, rfl⟩

theorem keeps_relaySetWifiConnected (connected : Bool) : Keeps R (relaySetWifiConnected connected) :=
  keeps_updateRelay fun _ s => { same_refl s with client := rfl }

theorem keeps_relayStop : Keeps R relayStop := by
  refine keeps_bind ?_ fun _ => keeps_bind ?_ fun _ => ?_
  · refine keeps_updateRelay fun _ s => ?_
    have freed := link_handleDisconnectLocked s.relay.ctx
    refine { same_refl s with client := congrArg (·.1) freed, connected := fun up => ?_ }
    exact absurd ((congrArg (·.2.1) freed).symm.trans up) (by simp)
  · exact keeps_updateRelay fun _ s => { same_refl s with client := rfl }
  · exact keeps_updateRelay fun _ s => { same_refl s with running := fun no => absurd no (by simp) }

theorem keeps_relayConnect (reconnect : Bool) : Keeps R (relayConnect reconnect) := by
  apply keeps_of_unmoved
  intro s
  refine leads_bind (leads_atomic fun env _ => ?_)
  have first := unmoved_interrupted s env.others
  split
  · exact leads_pure first
  · next worker =>
    have client : (s.interrupted env.others).relay.ctx.client ≠ none := by
      rintro none_
      simp [none_] at worker
    have noted : Keeps Unmoved (updateRelay fun _ relay =>
        { relay with ctx := { relay.ctx with publishAllowed := true, mqttConnecting := true } }) :=
      keeps_updateRelay fun _ s => { same_refl s with client := rfl }
    refine leads_then (noted _) fun _ s' second => leads_atomic fun env' _ => ?_
    have third := unmoved_interrupted s' env'.others
    refine unmoved_trans (unmoved_trans (unmoved_trans first second) third) ?_
    dsimp only
    split
    · refine ⟨{ same_refl (s'.interrupted env'.others) with running := fun _ => .inr ?_ }, rfl⟩
      rw [third.1.client, second.1.client]
      exact client
    · exact ⟨{ same_refl (s'.interrupted env'.others) with client := rfl }, rfl⟩

theorem keeps_cancelMqttRetry : Keeps R cancelMqttRetry :=
  keeps_updateApp fun _ _ => ⟨rfl, rfl, rfl, rfl⟩

theorem keeps_resetMqttRetryBackoff : Keeps R resetMqttRetryBackoff :=
  keeps_updateApp fun _ _ => ⟨rfl, rfl, rfl, rfl⟩

theorem keeps_scheduleMqttRetry : Keeps R scheduleMqttRetry := by
  refine keeps_bind (keeps_query _) fun idle => ?_
  split
  · exact keeps_updateApp fun _ _ => ⟨rfl, rfl, rfl, rfl⟩
  · exact keeps_pure ()

theorem keeps_storedMqttSettingsVerified : Keeps R storedMqttSettingsVerified := keeps_query _

theorem keeps_suspendMqttForWifi : Keeps R suspendMqttForWifi := by
  refine keeps_bind keeps_cancelMqttRetry fun _ => ?_
  refine keeps_bind (keeps_relaySetWifiConnected false) fun _ => ?_
  refine keeps_bind ?_ fun started => ?_
  · exact keeps_section fun _ s => Frame.unmoved ⟨{ same_refl s with config := rfl }, rfl⟩
  · split
    · exact keeps_relayStop
    · exact keeps_pure ()

end Frame

theorem keeps_reduceAppState (event : ProvisioningEvent) : KeepsLink (reduceAppState event) := by
  unfold reduceAppState updateApp update
  exact keeps_section fun _ s => { same_refl s with config := rfl }

end Coordinator
