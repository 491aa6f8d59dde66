import IosAncs.Coordinator.Frames

/-!
The marker of verified settings. It is saved only for settings whose own client has reported
a connection, and the events of a client that was stopped are not handled any more.
-/
open Runs Sections ProvisionConfig RelayContext

namespace AppContext

/-- What holds between any two sections. A client has the coordinator's settings, and what the
    relay says about a connection was reported by the client that it has. -/
structure Linked (s : AppContext) : Prop where
  settings : s.relay.ctx.client ≠ none → s.relay.config = s.app.config
  connected : s.relay.ctx.mqttConnected = true →
    s.relay.ctx.client ≠ none ∧ s.relay.config ∈ s.history.reported
  running : s.relay.running = true → s.relay.ctx.client ≠ none
  registered : ∀ generation, s.relay.callback = some generation → s.relay.ctx.client ≠ none ∧
    generation ≤ s.app.mqttGeneration ∧ s.app.mqttGeneration ≤ generation + 1
  saved : ∀ save ∈ s.history.saved,
    save.fingerprint = mqttFingerprint save.config ∧ save.config ∈ save.reported
  stopped : ∀ generation ∈ s.history.stopped, generation < s.app.mqttGeneration

/-- What holds between two turns as well: there is no client outside of `g_app.mqtt_initialized`,
    and its callback is the current one. -/
structure Settled (s : AppContext) : Prop extends Linked s where
  closed : s.app.mqttInitialized = false → s.relay.ctx.client = none
  current : ∀ generation, s.relay.callback = some generation → generation = s.app.mqttGeneration

theorem linked_manned {s : AppContext} (linked : Linked s) (manned : s.Manned) :
    s.relay.ctx.client ≠ none := manned.elim linked.running id

theorem linked_same {s s' : AppContext} (linked : Linked s) (same : Same s s') : Linked s' where
  settings := by
    rw [same.client, same.settings, same.config]
    exact linked.settings
  connected up := by
    rw [same.client, same.settings]
    rcases same.connected up with before | ⟨manned, reports⟩
    · exact ⟨(linked.connected before).1, same.reported (linked.connected before).2⟩
    · exact ⟨linked_manned linked manned, reports⟩
  running running := same.client ▸ linked_manned linked (same.running running)
  registered := by
    rw [same.client, same.callback, same.generation]
    exact linked.registered
  saved := same.saved ▸ linked.saved
  stopped := by
    rw [same.stopped, same.generation]
    exact linked.stopped

theorem settled_same {s s' : AppContext} (settled : Settled s) (same : Same s s') : Settled s' where
  toLinked := linked_same settled.toLinked same
  closed := by
    rw [same.initialized, same.client]
    exact settled.closed
  current := by
    rw [same.callback, same.generation]
    exact settled.current

theorem settled_closed {s : AppContext} (linked : Linked s) (closed : s.relay.ctx.client = none) :
    Settled s where
  toLinked := linked
  closed _ := closed
  current generation callback := absurd closed (linked.registered generation callback).1

theorem settled_boot (config : ProvisionConfig) (configValid : Bool) (verified : UInt32)
    (marker : Option UInt32) : Settled (boot config configValid verified marker) where
  settings no := absurd rfl no
  connected no := absurd no (by simp [boot, zeroRelay, RelayContext.zero])
  running no := absurd no (by simp [boot, zeroRelay])
  registered _ no := absurd no (by simp [boot, zeroRelay])
  saved _ no := absurd no (by simp [boot])
  stopped _ no := absurd no (by simp [boot])
  closed _ := rfl
  current _ no := absurd no (by simp [boot, zeroRelay])

/-- The generation moves on by at most the number, and what is posted meanwhile for a client is
    at most one generation old. -/
structure Moved (number : Nat) (s s' : AppContext) : Prop where
  grows : s.app.mqttGeneration ≤ s'.app.mqttGeneration
  bounded : s'.app.mqttGeneration ≤ s.app.mqttGeneration + number
  queue : ∃ new, s'.queue = s.queue ++ new ∧
    ∀ event generation, .mqtt event generation ∈ new → s.app.mqttGeneration ≤ generation + 1
  room : s.queue.length ≤ eventQueueLength → s'.queue.length ≤ eventQueueLength

theorem moved_same {s s' : AppContext} (linked : Linked s) (same : Same s s') : Moved 0 s s' where
  grows := Nat.le_of_eq same.generation.symm
  bounded := Nat.le_of_eq same.generation
  queue := by
    obtain ⟨new, grown, stamped⟩ := same.queue
    refine ⟨new, grown, fun event generation member => ?_⟩
    exact (linked.registered generation (stamped event generation member)).2.2
  room := same.room

theorem moved_mono {few many : Nat} {s s' : AppContext} (moved : Moved few s s') (le : few ≤ many) :
    Moved many s s' :=
  { moved with bounded := Nat.le_trans moved.bounded (Nat.add_le_add_left le _) }

theorem moved_trans {first second : Nat} {s s' s'' : AppContext} (moved : Moved first s s')
    (moved' : Moved second s' s'') : Moved (first + second) s s'' where
  grows := Nat.le_trans moved.grows moved'.grows
  bounded := by
    have early := moved.bounded
    have late := moved'.bounded
    omega
  queue := by
    obtain ⟨new, grown, aged⟩ := moved.queue
    obtain ⟨newer, grown', aged'⟩ := moved'.queue
    refine ⟨new ++ newer, by rw [grown', grown, List.append_assoc], ?_⟩
    intro event generation member
    rcases List.mem_append.mp member with early | late
    · exact aged event generation early
    · exact Nat.le_trans moved.grows (aged' event generation late)
  room := moved'.room ∘ moved.room

end AppContext

namespace Coordinator
open AppContext

def Moves (number : Nat) {α : Type} (program : Coordinator α) : Prop :=
  ∀ s, Settled s →
    Leads (fun _ => True) (fun _ s' => Settled s' ∧ Moved number s s') program s

theorem moves_keeps {α : Type} {program : Coordinator α} (keeps : KeepsLink program) :
    Moves 0 program := by
  intro s settled
  refine leads_mono (keeps s) fun _ s' same => ?_
  exact ⟨settled_same settled same, moved_same settled.toLinked same⟩

theorem moves_mono {α : Type} {few many : Nat} {program : Coordinator α} (moves : Moves few program)
    (le : few ≤ many) : Moves many program :=
  fun s settled => leads_mono (moves s settled) fun _ _ h => ⟨h.1, moved_mono h.2 le⟩

theorem moves_pure {α : Type} (value : α) : Moves 0 (pure value : Coordinator α) :=
  moves_keeps (keeps_pure value)

theorem moves_bind {α β : Type} {first second : Nat} {program : Coordinator α}
    {rest : α → Coordinator β} (moves : Moves first program)
    (later : ∀ value, Moves second (rest value)) : Moves (first + second) (program >>= rest) := by
  intro s settled
  refine leads_then (moves s settled) fun value s' h => ?_
  refine leads_mono (later value s' h.1) fun _ s'' h' => ?_
  exact ⟨h'.1, moved_trans h.2 h'.2⟩

theorem moves_after {α β : Type} {number : Nat} {program : Coordinator α}
    {rest : α → Coordinator β} (keeps : KeepsLink program)
    (later : ∀ value, Moves number (rest value)) : Moves number (program >>= rest) :=
  moves_mono (moves_bind (moves_keeps keeps) later) (by omega)

theorem moves_when {β : Type} {first second : Nat} {condition : Prop} [Decidable condition]
    {program : Coordinator Unit} {rest : Coordinator β} (moves : Moves first program)
    (later : Moves second rest) :
    Moves (first + second) (if condition then (do let _ ← program; rest) else rest) := by
  split
  · exact moves_bind moves fun _ => later
  · exact moves_mono later (by omega)

theorem moves_if {number : Nat} {condition : Prop} [Decidable condition] {program : Coordinator Unit}
    (moves : Moves number program) : Moves number (if condition then program else pure ()) := by
  split
  · exact moves
  · exact moves_mono (moves_pure ()) (by omega)

def Reaches (number : Nat) {α : Type} (Q : α → AppContext → Prop) (program : Coordinator α)
    (s : AppContext) : Prop :=
  Leads (fun _ => True) (fun value s' => Linked s' ∧ Moved number s s' ∧ Q value s') program s

theorem reaches_then {α β : Type} (first second : Nat) {R : α → AppContext → Prop}
    {Q : β → AppContext → Prop} {program : Coordinator α} {rest : α → Coordinator β} {s : AppContext}
    (reaches : Reaches first R program s)
    (later : ∀ value s', Linked s' → R value s' → Reaches second Q (rest value) s') :
    Reaches (first + second) Q (program >>= rest) s := by
  refine leads_then reaches fun value s' ⟨linked, moved, holds⟩ => ?_
  refine leads_mono (later value s' linked holds) fun _ s'' ⟨linked', moved', ends⟩ => ?_
  exact ⟨linked', moved_trans moved moved', ends⟩

theorem reaches_mono {α : Type} {few many : Nat} {R Q : α → AppContext → Prop}
    {program : Coordinator α} {s : AppContext} (reaches : Reaches few R program s) (le : few ≤ many)
    (weaker : ∀ value s', R value s' → Q value s') : Reaches many Q program s :=
  leads_mono reaches fun value s' h => ⟨h.1, moved_mono h.2.1 le, weaker value s' h.2.2⟩

theorem reaches_keeps {α : Type} {program : Coordinator α} {s : AppContext} (linked : Linked s)
    (keeps : KeepsLink program) : Reaches 0 (fun _ s' => Same s s') program s :=
  leads_mono (keeps s) fun _ _ same => ⟨linked_same linked same, moved_same linked same, same⟩

theorem reaches_relayDeinit {s : AppContext} (linked : Linked s) :
    Reaches 0 (fun _ s' => s'.relay.ctx.client = none) relayDeinit s := by
  refine reaches_then 0 0 (reaches_keeps linked keeps_relayStop) fun _ s' linked' _ => ?_
  refine leads_atomic fun env _ => ?_
  have same := same_interrupted s' env.others
  have quiet := linked_same linked' same
  have moved := moved_same linked' same
  refine ⟨?_, { moved with }, rfl⟩
  exact {
    settings := fun no => absurd rfl no
    connected := fun no => absurd no (by simp [RelayContext.leaveLocked, RelayContext.zero])
    running := fun no => absurd no (by simp [zeroRelay])
    registered := fun _ no => absurd no (by simp [zeroRelay])
    saved := quiet.saved
    stopped := quiet.stopped }

theorem reaches_stopMqtt {s : AppContext} (settled : Settled s) :
    Reaches 1 (fun _ s' => s'.relay.ctx.client = none) stopMqtt s := by
  refine reaches_then 0 1
    (reaches_keeps settled.toLinked keeps_cancelMqttRetry) fun _ s₁ _ same => ?_
  refine reaches_then 1 0
    (R := fun initialized s' => initialized = false → s'.relay.ctx.client = none)
    (leads_atomic fun env _ => ?_) ?_
  · have quiet := settled_same (settled_same settled same) (same_interrupted s₁ env.others)
    have moved := moved_same (settled_same settled same).toLinked (same_interrupted s₁ env.others)
    refine ⟨{ quiet with registered := ?_, stopped := ?_ }, { moved with grows := ?_, bounded := ?_ },
      quiet.closed⟩
    · intro generation callback
      have current := quiet.current generation callback
      exact ⟨(quiet.registered generation callback).1, by dsimp only; omega⟩
    · intro generation member
      rcases List.mem_append.mp member with new | old
      · have current := quiet.current generation (Option.mem_toList.mp new)
        exact Nat.lt_succ_of_le (Nat.le_of_eq current)
      · exact Nat.lt_succ_of_lt (quiet.stopped generation old)
    · exact Nat.le_succ_of_le moved.grows
    · exact Nat.succ_le_succ moved.bounded
  · intro initialized s₂ linked closed
    split
    · refine reaches_then 0 0
        (reaches_keeps linked (keeps_relaySetWifiConnected false)) fun _ s₃ linked' _ => ?_
      exact reaches_relayDeinit linked'
    · next no =>
      have same := same_refl s₂
      exact leads_pure ⟨linked, moved_same linked same, closed (Bool.eq_false_of_not_eq_true no)⟩

theorem reaches_connectNewClient {s : AppContext} (linked : Linked s)
    (closed : s.relay.ctx.client = none) :
    Reaches 1 (fun _ s' => ∀ generation, s'.relay.callback = some generation →
      generation = s'.app.mqttGeneration) connectNewClient s := by
  have unregistered {s : AppContext} (linked : Linked s) (closed : s.relay.ctx.client = none) :
      s.relay.callback = none := by
    rw [Option.eq_none_iff_forall_ne_some]
    exact fun generation callback => (linked.registered generation callback).1 closed
  refine reaches_then 0 1
    (R := fun made s' => s'.relay.callback = none ∧ (made = true → s'.relay.ctx.client ≠ none))
    (leads_atomic fun env _ => ?_) ?_
  · have same := same_interrupted s env.others
    have quiet := linked_same linked same
    have none_ : (s.interrupted env.others).relay.ctx.client = none := same.client.trans closed
    have moved := moved_same linked same
    have unregistered_ := unregistered quiet none_
    dsimp only
    split
    · exact ⟨quiet, moved, unregistered_, by simp⟩
    · refine ⟨?_, { moved with }, unregistered_, fun _ => by simp⟩
      exact {
        settings := fun _ => rfl
        connected := fun up => absurd none_ (quiet.connected up).1
        running := fun _ => by simp
        registered := fun generation callback =>
          absurd none_ (quiet.registered generation callback).1
        saved := quiet.saved
        stopped := quiet.stopped }
  · rintro made s₁ linked₁ ⟨registered, client⟩
    split
    · refine leads_pure ⟨linked₁, moved_mono (moved_same linked₁ (same_refl s₁)) (by omega), ?_⟩
      exact fun generation callback => absurd (registered.symm.trans callback) (by simp)
    · next yes =>
      have made_ : made = true := by simpa using yes
      refine reaches_then 1 0
        (R := fun generation s' => s'.relay.ctx.client ≠ none ∧ generation = s'.app.mqttGeneration)
        (leads_atomic fun env _ => ?_) ?_
      · have same := same_interrupted s₁ env.others
        have quiet := linked_same linked₁ same
        have moved := moved_same linked₁ same
        have unregistered_ := same.callback.trans registered
        refine ⟨{ quiet with registered := ?_, stopped := ?_ },
          { moved with grows := ?_, bounded := ?_ }, ?_, rfl⟩
        · exact fun generation callback => absurd (unregistered_.symm.trans callback) (by simp)
        · exact fun generation member => Nat.lt_succ_of_lt (quiet.stopped generation member)
        · exact Nat.le_succ_of_le moved.grows
        · exact Nat.succ_le_succ moved.bounded
        · exact same.client ▸ client made_
      · rintro generation s₂ linked₂ ⟨client₂, current⟩
        refine reaches_then 0 0
          (R := fun _ s' => ∀ generation, s'.relay.callback = some generation →
            generation = s'.app.mqttGeneration)
          (leads_atomic fun env _ => ?_) ?_
        · have same := same_interrupted s₂ env.others
          have quiet := linked_same linked₂ same
          have moved := moved_same linked₂ same
          have now : generation = (s₂.interrupted env.others).app.mqttGeneration :=
            current.trans same.generation.symm
          have client₃ : (s₂.interrupted env.others).relay.ctx.client ≠ none := same.client ▸ client₂
          refine ⟨{ quiet with registered := ?_ }, { moved with }, ?_⟩
          · intro generation' callback
            cases callback
            exact ⟨client₃, Nat.le_of_eq now, Nat.le_succ_of_le (Nat.le_of_eq now.symm)⟩
          · intro generation' callback
            cases callback
            exact now
        · intro _ s₃ linked₃ current₃
          refine reaches_mono (reaches_keeps linked₃ ?_) (Nat.le_refl 0) ?_
          · refine keeps_bind keeps_call fun refreshed => ?_
            split
            · exact keeps_pure false
            · exact keeps_bind (keeps_relaySetWifiConnected true) fun _ => keeps_relayConnect false
          · intro _ s₄ same
            rw [same.callback, same.generation]
            exact current₃

theorem moves_of_closed {α : Type} {number : Nat} {program : Coordinator α} {s : AppContext}
    (reaches : Reaches number (fun _ s' => s'.relay.ctx.client = none) program s) :
    Leads (fun _ => True) (fun _ s' => Settled s' ∧ Moved number s s') program s :=
  leads_mono reaches fun _ _ ⟨linked, moved, closed⟩ => ⟨settled_closed linked closed, moved⟩

theorem moves_stopMqtt : Moves 1 stopMqtt := fun _ settled => moves_of_closed (reaches_stopMqtt settled)

theorem moves_startOrReconnectMqtt : Moves 1 startOrReconnectMqtt := by
  intro s settled
  refine leads_bind (leads_atomic fun env _ => ?_)
  have read := same_interrupted s env.others
  refine leads_then (keeps_runtimeStatus (R := Same) _) fun runtime s₁ same₁ => ?_
  have moves_rest {rest : Coordinator Bool} (keeps : KeepsLink rest) {s' : AppContext}
      (same : Same s s') :
      Leads (fun _ => True) (fun _ s'' => Settled s'' ∧ Moved 1 s s'') rest s' := by
    refine leads_mono (keeps s') fun _ s'' same' => ?_
    have all := same_trans same same'
    exact ⟨settled_same settled all, moved_mono (moved_same settled.toLinked all) (by omega)⟩
  have same₁ := same_trans read same₁
  split
  · exact moves_rest (keeps_pure false) same₁
  · refine leads_then (keeps_query (R := Same) _ s₁) fun up s₂ same₂ => ?_
    have same₂ := same_trans same₁ same₂
    have settled₂ := settled_same settled same₂
    split
    · exact moves_rest (keeps_pure true) same₂
    · split
      · next initialized =>
        have closed : s₂.relay.ctx.client = none := by
          apply settled₂.closed
          rw [same₂.initialized, ← read.initialized]
          simpa using initialized
        have before := moved_same settled.toLinked same₂
        refine leads_then (reaches_connectNewClient settled₂.toLinked closed) ?_
        rintro connected s₃ ⟨linked₃, moved₃, current₃⟩
        have moved₃ := moved_trans before moved₃
        split
        · refine leads_bind (leads_atomic fun env' _ => ?_)
          have same := same_interrupted s₃ env'.others
          have quiet := linked_same linked₃ same
          have moved := moved_trans moved₃ (moved_same linked₃ same)
          refine leads_pure ⟨{ quiet with closed := fun no => absurd no (by simp), current := ?_ },
            { moved with }⟩
          dsimp only
          rw [same.callback, same.generation]
          exact current₃
        · refine leads_then (reaches_relayDeinit linked₃) ?_
          rintro _ s₄ ⟨linked₄, moved₄, closed₄⟩
          have moved₄ := moved_trans moved₃ moved₄
          have settled₄ := settled_closed linked₄ closed₄
          have keeps : KeepsLink (scheduleMqttRetry >>= fun _ => pure false) :=
            keeps_bind keeps_scheduleMqttRetry fun _ => keeps_pure false
          refine leads_mono (moves_keeps keeps s₄ settled₄) fun _ s₅ ⟨settled₅, moved₅⟩ => ?_
          exact ⟨settled₅, moved_trans moved₄ moved₅⟩
      · apply moves_rest _ same₂
        refine keeps_bind (keeps_relaySetWifiConnected true) fun _ => ?_
        refine keeps_bind (keeps_relayConnect _) fun connected => ?_
        split
        · exact keeps_bind (keeps_updateApp fun _ _ => ⟨rfl, rfl, rfl, rfl⟩) fun _ => keeps_pure true
        · exact keeps_bind keeps_scheduleMqttRetry fun _ => keeps_pure false

theorem keeps_handleProvisioningEvent {event : ProvisioningEvent}
    (plain : event ≠ .bootNoConfig ∧ event ≠ .wifiConnected) (staAttemptGeneration : UInt32) :
    KeepsLink (handleProvisioningEvent event staAttemptGeneration) := by
  have acts : KeepsLink (actOnProvisioningEvent event) := by
    cases event with
    | bootNoConfig => exact absurd rfl plain.1
    | wifiConnected => exact absurd rfl plain.2
    | wifiDisconnected | wifiTimeout => exact keeps_suspendMqttForWifi
    | mqttConnected => exact keeps_bind keeps_cancelMqttRetry fun _ => keeps_resetMqttRetryBackoff
    | mqttFailed | mqttRejected => exact keeps_scheduleMqttRetry
    | _ => exact keeps_pure ()
  have reduces : KeepsLink (reduceProvisioningEvent event) := by
    refine keeps_bind (keeps_reduceAppState event) fun _ => ?_
    dsimp only
    split
    · exact keeps_bind keeps_storedMqttSettingsVerified fun _ => keeps_when (keeps_reduceAppState _) acts
    · exact acts
  unfold handleProvisioningEvent
  split
  · refine keeps_bind (keeps_query _) fun superseded => ?_
    exact keeps_if (keeps_bind (keeps_updateApp fun _ _ => ⟨rfl, rfl, rfl, rfl⟩) fun _ => reduces)
  · exact reduces

theorem moves_handleProvisioningEvent (event : ProvisioningEvent) (staAttemptGeneration : UInt32) :
    Moves 1 (handleProvisioningEvent event staAttemptGeneration) := by
  by_cases plain : event ≠ .bootNoConfig ∧ event ≠ .wifiConnected
  · exact moves_mono (moves_keeps (keeps_handleProvisioningEvent plain _)) (by omega)
  · have acts : Moves 1 (actOnProvisioningEvent event) := by
      cases event with
      | bootNoConfig =>
        have keeps : KeepsLink (updateApp fun _ app => { app with activeStaAttemptGeneration := 0 }) :=
          keeps_updateApp fun _ _ => ⟨rfl, rfl, rfl, rfl⟩
        exact moves_bind moves_stopMqtt fun _ => moves_keeps keeps
      | wifiConnected =>
        refine moves_after (keeps_relaySetWifiConnected true) fun _ => ?_
        exact moves_bind moves_startOrReconnectMqtt fun _ => moves_pure ()
      | _ => simp at plain
    have reduces : Moves 1 (reduceProvisioningEvent event) := by
      refine moves_after (keeps_reduceAppState event) fun _ => ?_
      dsimp only
      split
      · refine moves_after keeps_storedMqttSettingsVerified fun _ => ?_
        exact moves_mono (moves_when (moves_keeps (keeps_reduceAppState _)) acts) (by omega)
      · exact acts
    unfold handleProvisioningEvent
    split
    · refine moves_after (keeps_query _) fun superseded => ?_
      refine moves_if (moves_after (keeps_updateApp fun _ _ => ⟨rfl, rfl, rfl, rfl⟩) fun _ => reduces)
    · exact reduces

theorem moves_remember {s : AppContext} (settled : Settled s)
    (proven : s.app.config ∈ s.history.reported) :
    Leads (fun _ => True) (fun _ s' => Settled s' ∧ Moved 0 s s') rememberVerifiedMqttSettings s := by
  refine leads_bind (leads_atomic fun env _ => ?_)
  have same₁ := same_interrupted s env.others
  refine leads_then (keeps_query (R := Same) _ _) fun known s₂ same₂ => ?_
  have same₂ := same_trans same₁ same₂
  have settled₂ := settled_same settled same₂
  have moved₂ := moved_same settled.toLinked same₂
  split
  · refine leads_bind (leads_atomic fun env' _ => ?_)
    have same₃ := same_interrupted s₂ env'.others
    have quiet := settled_same settled₂ same₃
    have moved₃ := moved_trans moved₂ (moved_same settled₂.toLinked same₃)
    have same₃ := same_trans same₂ same₃
    have fingerprint := congrArg mqttFingerprint (same₁.config.trans same₃.config.symm)
    refine leads_mono (moves_keeps (keeps_if ?_) _ ?_) fun _ s₄ ⟨settled₄, moved₄⟩ => ?_
    · exact keeps_updateApp fun _ _ => ⟨rfl, rfl, rfl, rfl⟩
    · refine { quiet with saved := ?_ }
      rintro save (_ | ⟨_, old⟩)
      · exact ⟨fingerprint, same₃.config ▸ same₃.reported proven⟩
      · exact quiet.saved save old
    · refine ⟨settled₄, moved_mono (moved_trans ?_ moved₄) (Nat.le_refl 0)⟩
      exact { moved₃ with }
  · exact leads_pure ⟨settled₂, moved₂⟩

theorem moves_handleMqttEvent (event : MqttRelayEvent) : Moves 0 (handleMqttEvent event) := by
  cases event with
  | restartRequest | enrollRequest => exact moves_after keeps_call fun _ => moves_pure ()
  | disconnected | failed =>
    refine moves_after (keeps_query _) fun connection => moves_after keeps_runtimeStatus fun runtime => ?_
    refine moves_keeps (keeps_if ?_)
    split
    · next no => cases no
    · refine keeps_handleProvisioningEvent ?_ 0
      split <;> simp
  | connected =>
    intro s settled
    refine leads_bind (leads_atomic fun env _ => ?_)
    have same₁ := same_interrupted s env.others
    have settled₁ := settled_same settled same₁
    refine leads_then (keeps_runtimeStatus (R := Same) _) fun runtime s₂ same₂ => ?_
    have same := same_trans same₁ same₂
    have settled₂ := settled_same settled same
    have moved₂ := moved_same settled.toLinked same
    split
    · next allowed =>
      have up : (s.interrupted env.others).relay.ctx.mqttConnected = true := by
        simpa using (Bool.and_eq_true_iff.mp allowed).2
      obtain ⟨client, reported⟩ := settled₁.connected up
      have proven : (s.interrupted env.others).app.config ∈ s₂.history.reported :=
        same₂.reported (settled₁.settings client ▸ reported)
      refine leads_then (keeps_handleProvisioningEvent (by simp) 0 s₂) fun _ s₃ same₃ => ?_
      have proven₃ : s₃.app.config ∈ s₃.history.reported := by
        rw [same₃.config, same₂.config]
        exact same₃.reported proven
      have moved₃ := moved_trans moved₂ (moved_same settled₂.toLinked same₃)
      refine leads_mono (moves_remember (settled_same settled₂ same₃) proven₃) ?_
      exact fun _ s₄ ⟨settled₄, moved₄⟩ => ⟨settled₄, moved_trans moved₃ moved₄⟩
    · exact leads_pure ⟨settled₂, moved₂⟩

theorem moves_replaceSettings {α : Type} {number : Nat} {s : AppContext} {rest : Coordinator α}
    {write : AppEnv → AppCoordinatorState → AppCoordinatorState}
    (h : ∀ env app, (write env app).mqttGeneration = app.mqttGeneration) (linked : Linked s)
    (closed : s.relay.ctx.client = none) (later : Moves number rest) :
    Leads (fun _ => True) (fun _ s' => Settled s' ∧ Moved number s s')
      (updateApp write >>= fun _ => rest) s := by
  refine leads_bind (leads_atomic fun env _ => ?_)
  have same := same_interrupted s env.others
  have quiet := linked_same linked same
  have moved := moved_same linked same
  have none_ := same.client.trans closed
  have generation := h env (s.interrupted env.others).app
  refine leads_mono (later _ (settled_closed { quiet with
    settings := fun client => absurd none_ client, registered := ?_, stopped := ?_ } none_)) ?_
  · exact generation ▸ quiet.registered
  · exact generation ▸ quiet.stopped
  · rintro _ s' ⟨settled', moved'⟩
    refine ⟨settled', moved_mono (moved_trans ?_ moved') (Nat.le_of_eq (Nat.zero_add number))⟩
    exact { moved with grows := generation ▸ moved.grows, bounded := generation ▸ moved.bounded }

theorem moves_handleConfigChanged (config : ProvisionConfig) :
    Moves 1 (handleConfigChanged config) := by
  refine moves_after keeps_cancelMqttRetry fun _ s settled => ?_
  refine leads_then (reaches_stopMqtt settled) fun _ s₁ ⟨linked₁, moved₁, closed₁⟩ => ?_
  refine leads_then (keeps_resetMqttRetryBackoff (R := Same) s₁) fun _ s₂ same₂ => ?_
  have moved₂ := moved_trans moved₁ (moved_same linked₁ same₂)
  refine leads_mono (moves_replaceSettings ?_ (linked_same linked₁ same₂)
    (same₂.client.trans closed₁) (moves_keeps ?_)) ?_
  · exact fun _ _ => rfl
  · refine keeps_bind (keeps_reduceAppState _) fun _ => ?_
    refine keeps_bind keeps_storedMqttSettingsVerified fun verified => ?_
    refine keeps_when (keeps_reduceAppState _) (keeps_bind keeps_call fun started => ?_)
    split
    · exact keeps_bind (keeps_reduceAppState _) fun _ => keeps_suspendMqttForWifi
    · refine keeps_bind keeps_runtimeStatus fun runtime => ?_
      refine keeps_bind (keeps_updateApp fun _ _ => ?_) fun _ => ?_
      · cases runtime <;> exact ⟨rfl, rfl, rfl, rfl⟩
      · exact keeps_handleProvisioningEvent (by simp) 0
  · exact fun _ s₃ ⟨settled₃, moved₃⟩ => ⟨settled₃, moved_trans moved₂ moved₃⟩

theorem moves_handleResetProvisioning : Moves 2 handleResetProvisioning := by
  refine moves_after ?_ fun erased => moves_if fun s settled => ?_
  · refine keeps_section fun env s => ?_
    dsimp only
    split
    · exact { same_refl s with config := rfl }
    · exact same_refl s
  · refine leads_then (reaches_stopMqtt settled) fun _ s₁ ⟨linked₁, moved₁, closed₁⟩ => ?_
    refine leads_mono (moves_replaceSettings (fun _ _ => rfl) linked₁ closed₁
      (moves_handleProvisioningEvent .bootNoConfig 0)) ?_
    exact fun _ s₂ ⟨settled₂, moved₂⟩ => ⟨settled₂, moved_trans moved₁ moved₂⟩

theorem moves_reconcileMqtt (wasConnected : Bool) : Moves 1 (reconcileMqtt wasConnected) := by
  refine moves_after (keeps_query _) fun connection => ?_
  dsimp only
  split
  · exact moves_mono (moves_handleMqttEvent _) (by omega)
  · refine moves_if (moves_after (keeps_query _) fun dueMs => ?_)
    split
    · refine moves_after keeps_cancelMqttRetry fun _ => ?_
      exact moves_bind moves_startOrReconnectMqtt fun _ => moves_pure ()
    · exact moves_if (moves_mono (moves_keeps keeps_scheduleMqttRetry) (by omega))

theorem moves_reconcileNetworkState : Moves 3 reconcileNetworkState := by
  refine moves_after keeps_runtimeStatus fun status => ?_
  split
  · exact moves_mono (moves_pure ()) (by omega)
  · next runtime =>
    refine moves_if (moves_after (keeps_query _) fun connection => ?_)
    refine moves_mono (moves_when (moves_handleProvisioningEvent _ _) ?_) (Nat.le_refl (1 + 2))
    refine moves_mono (moves_when (moves_handleProvisioningEvent .wifiTimeout _) ?_)
      (Nat.le_refl (1 + 1))
    exact moves_if (moves_reconcileMqtt connection.2)

theorem moves_handleBondPoll : Moves 4 handleBondPoll := by
  refine moves_mono (moves_bind moves_reconcileNetworkState fun _ => ?_) (Nat.le_refl (3 + 1))
  refine moves_after (keeps_query _) fun hasBond => moves_after (keeps_query _) fun hadBond => ?_
  exact moves_if (moves_handleProvisioningEvent _ 0)

/-- A message moves the generation on by four at most. -/
theorem moves_handleMessage (message : AppEventMsg) : Moves 4 (handleMessage message) := by
  have starts : Moves 4 (cancelMqttRetry >>= fun _ => discard startOrReconnectMqtt) := by
    refine moves_mono (moves_after keeps_cancelMqttRetry fun _ => ?_) (by omega : 1 ≤ 4)
    exact moves_bind moves_startOrReconnectMqtt fun _ => moves_pure ()
  cases message with
  | provisioning event staAttemptGeneration =>
    exact moves_mono (moves_handleProvisioningEvent event staAttemptGeneration) (by omega)
  | mqtt event mqttGeneration =>
    refine moves_after (keeps_query _) fun currentClient => moves_if ?_
    exact moves_mono (moves_handleMqttEvent event) (by omega)
  | configChanged config => exact moves_mono (moves_handleConfigChanged config) (by omega)
  | mqttRetry mqttGeneration retryDueMs => exact moves_after (keeps_query _) fun _ => moves_if starts
  | bondPoll => exact moves_handleBondPoll
  | wifiStatusRefresh =>
    exact moves_mono (moves_after keeps_call fun _ => moves_pure ()) (by omega)
  | resetProvisioning => exact moves_mono moves_handleResetProvisioning (by omega)
  | mqttConnectNow => exact starts

def step (s : AppContext) (answers : Nat → AppEnv) : AppContext := (turn.finish answers s).2

/-- Every save of the marker is for the settings that the coordinator had, and they are those of
    a client that had reported a connection. -/
def Truthful (s : AppContext) : Prop :=
  ∀ save ∈ s.history.saved, save.fingerprint = mqttFingerprint save.config ∧
    save.config ∈ save.reported

/-- A turn that takes up an event of a stopped client leaves the coordinator's own state, which
    holds the reducer's, and the marker. -/
def LeavesStopped (s : AppContext) (answers : Nat → AppEnv) : Prop :=
  ∀ event generation, (s.interrupted (answers 0).others).queue.head? = some (.mqtt event generation) →
    generation ∈ s.history.stopped → (step s answers).app = s.app ∧ (step s answers).marker = s.marker

/-- No message in the queue is old enough for its generation to come round. Each of those ahead
    of it moves the generation on by four at most; the margin is what is left of that. -/
structure Fresh (margin : Nat) (s : AppContext) : Prop where
  room : s.queue.length ≤ eventQueueLength
  aged : ∀ i event generation, s.queue[i]? = some (.mqtt event generation) →
    s.app.mqttGeneration + 4 * i + margin ≤ generation + 65

theorem fresh_moved {number : Nat} {s s' : AppContext} (fresh : Fresh number s)
    (moved : Moved number s s') (small : number ≤ 4) : Fresh 0 s' where
  room := moved.room fresh.room
  aged i event generation found := by
    obtain ⟨new, grown, posted⟩ := moved.queue
    have bounded := moved.bounded
    have room : s'.queue.length ≤ 16 := moved.room fresh.room
    have inside : i < s'.queue.length := (List.getElem?_eq_some_iff.mp found).1
    rw [grown] at found
    by_cases old : i < s.queue.length
    · rw [List.getElem?_append_left old] at found
      have before := fresh.aged i event generation found
      omega
    · rw [List.getElem?_append_right (by omega)] at found
      have age := posted event generation (List.mem_of_getElem? found)
      omega

theorem fresh_tail {s : AppContext} (fresh : Fresh 0 s) :
    Fresh 4 { s with queue := s.queue.tail } where
  room := by
    have room := fresh.room
    simp only [List.length_tail]
    omega
  aged i event generation found := by
    rw [List.getElem?_tail] at found
    have age := fresh.aged (i + 1) event generation found
    dsimp only
    omega

def received (s : AppContext) (env : AppEnv) : AppContext :=
  { s.interrupted env.others with queue := (s.interrupted env.others).queue.tail }

theorem step_eq (s : AppContext) (answers : Nat → AppEnv) :
    step s answers = match (s.interrupted (answers 0).others).queue.head? with
      | none => received s (answers 0)
      | some message =>
        ((handleMessage message).finish (fun k => answers (k + 1)) (received s (answers 0))).2 := by
  unfold step turn receive section_
  rw [finish_atomic_bind]
  unfold received
  dsimp only
  cases (s.interrupted (answers 0).others).queue.head? <;> rfl

theorem settled_received {s : AppContext} (settled : Settled s) (fresh : Fresh 0 s) (env : AppEnv) :
    Settled (received s env) ∧ Fresh 4 (received s env) := by
  have same := same_interrupted s env.others
  have quiet := settled_same settled same
  have moved := moved_same settled.toLinked same
  exact ⟨{ quiet with }, fresh_tail (fresh_moved fresh moved (by omega))⟩

theorem fresh_margin {margin : Nat} {s : AppContext} (fresh : Fresh margin s) : Fresh 0 s where
  room := fresh.room
  aged i event generation found := by
    have age := fresh.aged i event generation found
    omega

theorem settled_step {s : AppContext} (settled : Settled s) (fresh : Fresh 0 s)
    (answers : Nat → AppEnv) : Settled (step s answers) ∧ Fresh 0 (step s answers) := by
  obtain ⟨settled₁, fresh₁⟩ := settled_received settled fresh (answers 0)
  rw [step_eq]
  split
  · exact ⟨settled₁, fresh_margin fresh₁⟩
  · next message _ =>
    have ends : Settled ((handleMessage message).finish (fun k => answers (k + 1)) _).2 ∧
        Moved 4 _ ((handleMessage message).finish (fun k => answers (k + 1)) _).2 :=
      leads_finish (moves_handleMessage message _ settled₁) fun _ => trivial
    exact ⟨ends.1, fresh_moved fresh₁ ends.2 (Nat.le_refl 4)⟩

/-- The generation of a client that was stopped is not the current one in 32 bits either. -/
theorem leaves_stopped {s : AppContext} (settled : Settled s) (fresh : Fresh 0 s)
    (answers : Nat → AppEnv) : LeavesStopped s answers := by
  intro event generation taken stopped
  have same := same_interrupted s (answers 0).others
  have fresh₁ := fresh_moved fresh (moved_same settled.toLinked same) (by omega)
  have age := fresh₁.aged 0 event generation (List.head?_eq_getElem? ▸ taken)
  have before := settled.stopped generation stopped
  rw [same.generation] at age
  obtain ⟨app, marker⟩ := interrupted_app s (answers 0).others
  obtain ⟨app', marker'⟩ := interrupted_app (received s (answers 0)) (answers 1).others
  have now : ((received s (answers 0)).interrupted (answers 1).others).app = s.app := app'.trans app
  have other : sameGeneration generation s.app.mqttGeneration = false := by
    unfold sameGeneration
    rw [beq_eq_false_iff_ne]
    omega
  have ends : step s answers = (received s (answers 0)).interrupted (answers 1).others := by
    rw [step_eq, taken]
    dsimp only [handleMessage]
    rw [query, section_, finish_atomic_bind]
    dsimp only
    rw [now, other]
    rfl
  rw [ends]
  exact ⟨now, marker'.trans marker⟩

/-- In any order of messages, the marker is saved only for settings whose client has reported a
    connection, and an event of a stopped client changes neither the reducer nor the marker. -/
theorem marker_truthful (config : ProvisionConfig) (configValid : Bool) (verified : UInt32)
    (marker : Option UInt32) (turns : List (Nat → AppEnv)) :
    AllStates step Truthful (boot config configValid verified marker) turns ∧
      AllSteps step LeavesStopped (boot config configValid verified marker) turns := by
  have start := settled_boot config configValid verified marker
  have fresh : Fresh 0 (boot config configValid verified marker) :=
    { room := by simp [boot], aged := fun _ _ _ no => by simp [boot] at no }
  have all : AllStates step (fun s => Settled s ∧ Fresh 0 s)
      (boot config configValid verified marker) turns :=
    all_states_invariant (fun s answers h => settled_step h.1 h.2 answers) ⟨start, fresh⟩ turns
  constructor
  · exact all_states_mono (fun s h => h.1.saved) all
  · exact all_steps_of_states (fun s h answers => leaves_stopped h.1 h.2 answers) all

/-- A coordinator with unproven settings gets a network, and the client that it starts connects. -/
def firstConnection : List (Nat → AppEnv) :=
  let answer (others : List OtherTask) : AppEnv := {
    others, nowMs := 5, ok := true, written := false
    runtime := some {
      staStarted := true, staHasIp := true, retryPaused := false, staAttemptGeneration := 1
      automaticRecoveryDue := false, automaticRecoveryAp := false }
    timerActive := true, hasBond := true }
  let turn (others : List OtherTask) (k : Nat) : AppEnv := answer (if k = 0 then others else [])
  [turn [.provisioning .wifiConnected 1], turn [.clientEvent .connected 9, .emit .connected]]

theorem first_connection_saves_marker :
    let config := PasswordHistory.posted [104] [117] [112]
    let s := run step (boot config true 0 none) firstConnection
    s.marker = some (mqttFingerprint config) ∧
      s.history.saved.map MarkerSave.fingerprint = [mqttFingerprint config] ∧
      s.history.saved.map (fun save => save.reported.length) = [1] := by
  decide +kernel

end Coordinator
