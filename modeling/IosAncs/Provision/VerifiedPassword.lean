import IosAncs.Provision.Portal

/-!
Portal saves, broker connections and reboots over one stored configuration. The
history keeps which passwords were stored with verified settings, for which
address, and whether the stored password was typed for the address it is at.
-/
open Runs CString ProvisionConfig ProvisionStore Portal

/-- The coordinator's view: its configuration, the marker it knows, and the
    configuration messages it has not taken yet. -/
structure ProvisionApp where
  partition : ProvisionPartition
  config : ProvisionConfig
  mqttVerifiedFingerprint : UInt32
  messages : List ProvisionConfig

inductive ProvisionAction where
  | configPost (request : ConfigRequest)
  | configChanged
  | mqttConnected (markerSaved : Bool)
  | mqttFailed
  | reboot

namespace ProvisionApp

def zeroConfig : ProvisionConfig where
  schemaVersion := 0
  wifiSsid := zeroed
  wifiPassword := zeroed
  mqttHost := zeroed
  mqttPort := 0
  mqttUsername := zeroed
  mqttPassword := zeroed
  mqttTls := false
  mqttCa := zeroed
  mqttClientId := zeroed
  mqttBaseTopic := zeroed

def rememberVerifiedMqttSettings (app : ProvisionApp) (markerSaved : Bool) : ProvisionApp :=
  let fingerprint := mqttFingerprint app.config
  if fingerprint = app.mqttVerifiedFingerprint then app
  else if !markerSaved then app
  else { app with
    partition := { app.partition with mqttVerified := some fingerprint }
    mqttVerifiedFingerprint := fingerprint }

/-- What `app_main` reads from the partition. -/
def boot (partition : ProvisionPartition) : ProvisionApp where
  partition
  config := match partition.store.load with
    | .ok config => config
    | .error _ => zeroConfig
  mqttVerifiedFingerprint := partition.mqttVerified.getD 0
  messages := []

def step (app : ProvisionApp) : ProvisionAction → ProvisionApp
  | .configPost request =>
    let (partition, _, message) := handleConfigPost app.partition request
    { app with partition, messages := app.messages ++ message.toList }
  | .configChanged =>
    match app.messages with
    | [] => app
    | config :: rest => { app with config, messages := rest }
  | .mqttConnected markerSaved => rememberVerifiedMqttSettings app markerSaved
  | .mqttFailed => app
  | .reboot => boot app.partition

end ProvisionApp

structure ProvenPassword where
  address : List UInt8 × UInt16
  password : List UInt8
deriving DecidableEq

structure PasswordHistory where
  app : ProvisionApp
  proven : List ProvenPassword
  typed : Bool

namespace PasswordHistory
open ProvisionApp

def provenNow (partition : ProvisionPartition) : List ProvenPassword :=
  match partition.store.load with
  | .ok config =>
    if storedMqttSettingsVerified partition config then
      [{ address := address config, password := password config }]
    else []
  | .error _ => []

/-- The settings that a connection leaves marked. They are the coordinator's; the portal may have
    stored others meanwhile. -/
def provenBy (app : ProvisionApp) : ProvisionAction → List ProvenPassword
  | .mqttConnected markerSaved =>
    if (rememberVerifiedMqttSettings app markerSaved).mqttVerifiedFingerprint =
        mqttFingerprint app.config then
      [{ address := address app.config, password := password app.config }]
    else []
  | _ => []

def submitted (request : ConfigRequest) : Option ProvisionConfig :=
  match request.guard, request.reconnectAvailable, request.json with
  | none, true, some json => json.parseConfigUpdate
  | _, _, _ => none

def typedAfter (partition : ProvisionPartition) (request : ConfigRequest) (typed : Bool) : Bool :=
  match submitted request with
  | none => typed
  | some update =>
    match configToSave partition update with
    | .error _ => typed
    | .ok _ =>
      if liveGeneration partition.store = some 0xFFFFFFFF then typed
      else if password update ≠ [] then true
      else match partition.store.load with
        | .ok existing => if address existing = address update then typed else false
        | .error _ => false

def step (h : PasswordHistory) (action : ProvisionAction) : PasswordHistory :=
  let app := h.app.step action
  { app
    proven := provenNow app.partition ++ provenBy h.app action ++ h.proven
    typed := match action with
      | .configPost request => typedAfter h.app.partition request h.typed
      | _ => h.typed }

def start : PasswordHistory where
  app := boot { store := empty, mqttVerified := none }
  proven := []
  typed := false

/-- A stored password that was proven for another address was typed for this one. -/
def PasswordStays (h : PasswordHistory) : Prop :=
  ∀ config, h.app.partition.store.load = .ok config → password config ≠ [] →
    ∀ p ∈ h.proven, p.password = password config → p.address ≠ address config → h.typed = true

/-- A blank password in an update for another address, over settings that are not
    verified as they stand but hold a password that was proven elsewhere. -/
def MovesProven (h : PasswordHistory) (request : ConfigRequest) : Prop :=
  ∃ existing update merged, h.app.partition.store.load = .ok existing ∧
    submitted request = some update ∧ password update = [] ∧
    address existing ≠ address update ∧
    storedMqttSettingsVerified h.app.partition existing = false ∧
    mergePreservingSecrets existing update = .ok merged ∧
    liveGeneration h.app.partition.store ≠ some 0xFFFFFFFF ∧
    password existing ≠ [] ∧
    ∃ p ∈ h.proven, p.password = password existing ∧ p.address ≠ address update

def Marks (app : ProvisionApp) (markerSaved : Bool) : Prop :=
  mqttFingerprint app.config = app.mqttVerifiedFingerprint ∨ markerSaved = true

/-- A connection that marks the coordinator's settings while their password is stored for another
    address, where nobody has typed it. -/
def MarksMoved (h : PasswordHistory) (markerSaved : Bool) : Prop :=
  Marks h.app markerSaved ∧ ∃ config, h.app.partition.store.load = .ok config ∧
    password config ≠ [] ∧ password h.app.config = password config ∧
    address h.app.config ≠ address config ∧ h.typed = false

def Keeps (h : PasswordHistory) : ProvisionAction → Prop
  | .configPost request => ¬ MovesProven h request
  | .mqttConnected markerSaved => ¬ MarksMoved h markerSaved
  | _ => True

inductive Posted (before : ProvisionPartition) (request : ConfigRequest) :
    ProvisionPartition → Prop where
  | refused (refuses : ∀ typed, typedAfter before request typed = typed)
      (quiet : ∀ update, submitted request = some update →
        liveGeneration before.store = some 0xFFFFFFFF ∨
          ∃ reply, configToSave before update = .error reply)
      {after : ProvisionPartition}
      (marker : after.mqttVerified = before.mqttVerified)
      (same : after.store.load = before.store.load) : Posted before request after
  | saved {update config : ProvisionConfig} (submits : submitted request = some update)
      (chosen : configToSave before update = .ok config)
      (schema : update.schemaVersion = currentSchemaVersion)
      (room : liveGeneration before.store ≠ some 0xFFFFFFFF)
      {after : ProvisionPartition}
      (marker : after.mqttVerified = before.mqttVerified)
      (loads : after.store.load = .ok config) : Posted before request after

theorem submitted_some {request : ConfigRequest} {update : ProvisionConfig}
    (submits : submitted request = some update) :
    request.guard = none ∧ request.reconnectAvailable = true ∧
      ∃ json, request.json = some json ∧ json.parseConfigUpdate = some update := by
  unfold submitted at submits
  split at submits
  · next json guard available body => exact ⟨guard, available, json, body, submits⟩
  · cases submits

theorem handleConfigPost_unsubmitted {before : ProvisionPartition} {request : ConfigRequest}
    (none : submitted request = none) : (handleConfigPost before request).1 = before := by
  unfold submitted at none
  unfold handleConfigPost
  grind

theorem handleConfigPost_submitted {before : ProvisionPartition} {request : ConfigRequest}
    {update : ProvisionConfig} (submits : submitted request = some update) :
    (handleConfigPost before request).1 =
      match configToSave before update with
      | .error _ => before
      | .ok config => (saveChecked before config).1 := by
  obtain ⟨guard, available, json, body, parsed⟩ := submitted_some submits
  unfold handleConfigPost
  simp only [guard, available, body, parsed, Bool.not_true, Bool.false_eq_true, ↓reduceIte]
  cases configToSave before update with
  | error reply => rfl
  | ok config =>
    simp only
    generalize saveChecked before config = result
    obtain ⟨after, stored⟩ := result
    cases stored <;> rfl

theorem handleConfigPost_posted (before : ProvisionPartition) (request : ConfigRequest) :
    Posted before request (handleConfigPost before request).1 := by
  cases submits : submitted request with
  | none =>
    rw [handleConfigPost_unsubmitted submits]
    exact .refused (by simp [typedAfter, submits]) (by simp [submits]) rfl rfl
  | some update =>
    obtain ⟨_, _, json, _, parsed⟩ := submitted_some submits
    have schema := parseConfigUpdate_schema parsed
    rw [handleConfigPost_submitted submits]
    cases chosen : configToSave before update with
    | error reply =>
      refine .refused ?_ ?_ rfl rfl
      · simp [typedAfter, submits, chosen]
      · intro other same
        obtain rfl := Option.some.inj (submits.symm.trans same)
        exact .inr ⟨reply, chosen⟩
    | ok config =>
      obtain ⟨valid, kept_schema, _⟩ := configToSave_valid chosen schema
      obtain ⟨marker, _, loads⟩ := saveChecked_spec before valid kept_schema
      by_cases exhausted : liveGeneration before.store = some 0xFFFFFFFF
      · refine .refused ?_ (fun _ _ => .inl exhausted) marker (by simpa [exhausted] using loads)
        simp [typedAfter, submits, chosen, exhausted]
      · exact .saved submits chosen schema exhausted marker (by simpa [exhausted] using loads)

theorem provenNow_of_load {partition : ProvisionPartition} {config : ProvisionConfig}
    (loads : partition.store.load = .ok config) :
    ∀ p ∈ provenNow partition, p.address = address config := by
  intro p member
  unfold provenNow at member
  simp only [loads] at member
  split at member
  · rw [List.mem_singleton.mp member]
  · cases member

theorem provenNow_of_verified {partition : ProvisionPartition} {config : ProvisionConfig}
    (loads : partition.store.load = .ok config)
    (verified : storedMqttSettingsVerified partition config = true) :
    { address := address config, password := password config } ∈ provenNow partition := by
  unfold provenNow
  simp [loads, verified]

theorem proven_elsewhere {h : PasswordHistory} {action : ProvisionAction} {config : ProvisionConfig}
    (loads : (h.step action).app.partition.store.load = .ok config) {p : ProvenPassword}
    (member : p ∈ (h.step action).proven) (apart : p.address ≠ address config) :
    p ∈ provenBy h.app action ∨ p ∈ h.proven := by
  rcases List.mem_append.mp member with new | old
  · rcases List.mem_append.mp new with now | marked
    · exact absurd (provenNow_of_load loads p now) apart
    · exact .inl marked
  · exact .inr old

theorem proven_before_post {h : PasswordHistory} {request : ConfigRequest} {config : ProvisionConfig}
    (loads : (h.step (.configPost request)).app.partition.store.load = .ok config)
    {p : ProvenPassword} (member : p ∈ (h.step (.configPost request)).proven)
    (apart : p.address ≠ address config) : p ∈ h.proven := by
  rcases proven_elsewhere loads member apart with marked | old
  · cases marked
  · exact old

theorem stays_of_same_load {h : PasswordHistory} {action : ProvisionAction}
    (same : (h.step action).app.partition.store.load = h.app.partition.store.load)
    (mark : (h.step action).typed = h.typed) (unmarked : provenBy h.app action = [])
    (stays : PasswordStays h) : PasswordStays (h.step action) := by
  intro config loads some p member secret apart
  rw [mark]
  rcases proven_elsewhere loads member apart with marked | old
  · rw [unmarked] at marked
    cases marked
  · exact stays config (same ▸ loads) some p old secret apart

theorem rememberVerified_store (app : ProvisionApp) (markerSaved : Bool) :
    (rememberVerifiedMqttSettings app markerSaved).partition.store = app.partition.store := by
  unfold rememberVerifiedMqttSettings
  grind

theorem configToSave_unverified {partition : ProvisionPartition}
    {existing update config : ProvisionConfig} (loaded : partition.store.load = .ok existing)
    (unverified : storedMqttSettingsVerified partition existing = false) :
    configToSave partition update = .ok config ↔
      mergePreservingSecrets existing update = .ok config := by
  have keeps : mqttPasswordRule existing update false = .keep := by
    rw [mqttPasswordRule_keep_iff]
    simp
  simp only [configToSave, loaded, unverified, keeps]
  cases mergePreservingSecrets existing update <;> simp

section Saved
variable {h : PasswordHistory} {request : ConfigRequest} {update config : ProvisionConfig}

theorem typed_mark (submits : submitted request = some update)
    (chosen : configToSave h.app.partition update = .ok config)
    (room : liveGeneration h.app.partition.store ≠ some 0xFFFFFFFF) (typed : Bool) :
    typedAfter h.app.partition request typed =
      if password update ≠ [] then true
      else match h.app.partition.store.load with
        | .ok existing => if address existing = address update then typed else false
        | .error _ => false := by
  simp only [typedAfter, submits, chosen, room, ↓reduceIte]

theorem not_moves_of_typed (submits : submitted request = some update)
    (some : password update ≠ []) : ¬ MovesProven h request := by
  rintro ⟨existing, other, merged, _, same, blank, _⟩
  obtain rfl := Option.some.inj (submits.symm.trans same)
  exact some blank

theorem not_moves_of_empty (submits : submitted request = some update)
    (chosen : configToSave h.app.partition update = .ok config) (empty : password config = []) :
    ¬ MovesProven h request := by
  rintro ⟨existing, other, merged, loaded, same, blank, apart, unverified, merge, _, held, _⟩
  obtain rfl := Option.some.inj (submits.symm.trans same)
  have merged_same := (configToSave_unverified loaded unverified).mpr merge
  obtain rfl := Except.ok.inj (chosen.symm.trans merged_same)
  cases configToSave_password loaded chosen with
  | typed some => exact some blank
  | kept _ kept => exact held (kept.symm.trans empty)
  | dropped none =>
    have valid := ((validate_ok_iff existing).mp (load_valid loaded).1).mqttPassword
    obtain ⟨_, rfl⟩ := (merge_ok_iff _ _ _).mp merge
    rw [merged_password update valid, if_pos blank] at empty
    exact held empty

theorem stays_iff_of_kept {existing : ProvisionConfig}
    (loaded : h.app.partition.store.load = .ok existing)
    (submits : submitted request = some update)
    (chosen : configToSave h.app.partition update = .ok config)
    (room : liveGeneration h.app.partition.store ≠ some 0xFFFFFFFF)
    (loads : (h.step (.configPost request)).app.partition.store.load = .ok config)
    (addressed : address config = address update)
    (blank : password update = []) (same : password config = password existing)
    (may_stay : ¬ (storedMqttSettingsVerified h.app.partition existing ∧ password existing ≠ [] ∧
      address existing ≠ address update))
    (moved : address existing ≠ address update) :
    PasswordStays (h.step (.configPost request)) ↔ ¬ MovesProven h request := by
  have mark : (h.step (.configPost request)).typed = false := by
    have computed := typed_mark submits chosen room h.typed
    simp only [blank, loaded, moved, ne_eq, not_true_eq_false, ↓reduceIte] at computed
    exact computed
  constructor
  · rintro stays ⟨other, seen, merged, found, again, _, _, _, _, _, held, p, member, secret, apart⟩
    obtain rfl := Except.ok.inj (loaded.symm.trans found)
    obtain rfl := Option.some.inj (submits.symm.trans again)
    have typed := stays config loads (same ▸ held) p (List.mem_append_right _ member)
      (secret.trans same.symm) (addressed ▸ apart)
    rw [mark] at typed
    cases typed
  · intro quiet other found some p member secret apart
    obtain rfl := Except.ok.inj (loads.symm.trans found)
    have old := proven_before_post loads member apart
    exfalso
    rw [same] at some secret
    have unverified : storedMqttSettingsVerified h.app.partition existing = false := by
      rw [Bool.eq_false_iff]
      intro verified
      exact may_stay ⟨verified, some, moved⟩
    exact quiet ⟨existing, update, config, loaded, submits, blank, moved, unverified,
      (configToSave_unverified loaded unverified).mp chosen, room, some, p, old, secret,
      addressed ▸ apart⟩

theorem stays_of_same_address {existing : ProvisionConfig} (stays : PasswordStays h)
    (loaded : h.app.partition.store.load = .ok existing)
    (submits : submitted request = some update)
    (chosen : configToSave h.app.partition update = .ok config)
    (room : liveGeneration h.app.partition.store ≠ some 0xFFFFFFFF)
    (loads : (h.step (.configPost request)).app.partition.store.load = .ok config)
    (addressed : address config = address update)
    (blank : password update = []) (same : password config = password existing)
    (kept : address existing = address update) :
    PasswordStays (h.step (.configPost request)) ∧ ¬ MovesProven h request := by
  have mark : (h.step (.configPost request)).typed = h.typed := by
    have computed := typed_mark submits chosen room h.typed
    simp only [blank, loaded, kept, ne_eq, not_true_eq_false, ↓reduceIte] at computed
    exact computed
  constructor
  · intro other found some p member secret apart
    obtain rfl := Except.ok.inj (loads.symm.trans found)
    have old := proven_before_post loads member apart
    rw [mark]
    rw [same] at some secret
    exact stays existing loaded some p old secret (kept.trans addressed.symm ▸ apart)
  · rintro ⟨other, seen, merged, found, again, _, apart, _⟩
    obtain rfl := Except.ok.inj (loaded.symm.trans found)
    obtain rfl := Option.some.inj (submits.symm.trans again)
    exact apart kept

end Saved

theorem post_exact {h : PasswordHistory} (request : ConfigRequest) (stays : PasswordStays h) :
    PasswordStays (h.step (.configPost request)) ↔ ¬ MovesProven h request := by
  have posted := handleConfigPost_posted h.app.partition request
  cases posted with
  | refused refuses quiet marker same =>
    have quiet_moves : ¬ MovesProven h request := by
      rintro ⟨existing, update, merged, loaded, submits, _, _, unverified, merge, room, _⟩
      rcases quiet update submits with exhausted | ⟨reply, error⟩
      · exact room exhausted
      · have chosen := (configToSave_unverified loaded unverified).mpr merge
        rw [chosen] at error
        cases error
    simp only [quiet_moves, not_false_eq_true, iff_true]
    exact stays_of_same_load same (refuses h.typed) rfl stays
  | @saved update config submits chosen schema room _ marker loads =>
    have addressed := (configToSave_valid chosen schema).2.2
    by_cases blank : password update = []
    · by_cases empty : password config = []
      · simp only [not_moves_of_empty submits chosen empty, not_false_eq_true, iff_true]
        intro other found some
        obtain rfl := Except.ok.inj (loads.symm.trans found)
        exact absurd empty some
      · cases loaded : h.app.partition.store.load with
        | error err =>
          simp only [configToSave, loaded] at chosen
          split at chosen
          · obtain rfl := Except.ok.inj chosen
            exact absurd blank empty
          · cases chosen
        | ok existing =>
          cases configToSave_password loaded chosen with
          | typed some => exact absurd blank some
          | dropped none => exact absurd none empty
          | kept _ same may_stay =>
            by_cases moved : address existing = address update
            · obtain ⟨stays_on, quiet⟩ := stays_of_same_address stays loaded submits chosen room
                loads addressed blank same moved
              simp only [stays_on, quiet, not_false_eq_true]
            · exact stays_iff_of_kept loaded submits chosen room loads addressed blank same may_stay
                moved
    · simp only [not_moves_of_typed submits blank, not_false_eq_true, iff_true]
      intro other found some p member secret apart
      have computed := typed_mark submits chosen room h.typed
      simp only [blank, ne_eq, not_false_eq_true, ↓reduceIte] at computed
      exact computed

theorem marks_iff (app : ProvisionApp) (markerSaved : Bool) :
    (rememberVerifiedMqttSettings app markerSaved).mqttVerifiedFingerprint =
      mqttFingerprint app.config ↔ Marks app markerSaved := by
  unfold rememberVerifiedMqttSettings Marks
  grind

theorem connected_exact {h : PasswordHistory} (markerSaved : Bool) (stays : PasswordStays h) :
    PasswordStays (h.step (.mqttConnected markerSaved)) ↔ ¬ MarksMoved h markerSaved := by
  have same : (h.step (.mqttConnected markerSaved)).app.partition.store.load =
      h.app.partition.store.load := congrArg load (rememberVerified_store h.app markerSaved)
  constructor
  · rintro stays' ⟨marked, config, loaded, held, secret, apart, untyped⟩
    have proven : { address := address h.app.config, password := password h.app.config } ∈
        (h.step (.mqttConnected markerSaved)).proven := by
      apply List.mem_append_left
      apply List.mem_append_right
      simp only [provenBy, (marks_iff _ _).mpr marked, ↓reduceIte, List.mem_singleton]
    have typed : h.typed = true := stays' config (same.trans loaded) held _ proven secret apart
    rw [untyped] at typed
    cases typed
  · intro quiet config loads some p member secret apart
    rcases proven_elsewhere loads member apart with new | old
    · simp only [provenBy] at new
      split at new
      · next marked =>
        obtain rfl := List.mem_singleton.mp new
        by_contra untyped
        exact quiet ⟨(marks_iff _ _).mp marked, config, same ▸ loads, some, secret, apart,
          Bool.eq_false_iff.mpr untyped⟩
      · cases new
    · exact stays config (same ▸ loads) some p old secret apart

theorem step_exact (h : PasswordHistory) (action : ProvisionAction) (stays : PasswordStays h) :
    PasswordStays (h.step action) ↔ Keeps h action := by
  cases action with
  | configPost request => exact post_exact request stays
  | configChanged =>
    have same : (h.step .configChanged).app.partition.store.load = h.app.partition.store.load := by
      unfold step ProvisionApp.step
      cases h.app.messages <;> rfl
    simp only [Keeps, iff_true]
    exact stays_of_same_load same rfl rfl stays
  | mqttConnected markerSaved => exact connected_exact markerSaved stays
  | mqttFailed =>
    simp only [Keeps, iff_true]
    exact stays_of_same_load rfl rfl rfl stays
  | reboot =>
    simp only [Keeps, iff_true]
    exact stays_of_same_load rfl rfl rfl stays

theorem start_stays : PasswordStays start := by
  intro config loaded
  have nothing : empty.load = .error .nvsNotFound := load_nothing rfl
  rw [show start.app.partition.store = empty from rfl, nothing] at loaded
  cases loaded

/-- In every run a proven password stays at its address exactly when no post moves one that the
    marker no longer vouches for, and no connection marks one that has already moved. -/
theorem password_stays_iff (actions : List ProvisionAction) :
    AllStates step PasswordStays start actions ↔ AllSteps step Keeps start actions :=
  all_states_iff_all_steps (J := fun _ => True) (fun _ _ _ _ _ => trivial)
    (fun h action _ stays => step_exact h action stays) trivial start_stays actions

theorem saveChecked_generations {partition : ProvisionPartition} {bound : Nat}
    (within : GenerationsAtMost partition.store bound) (small : bound < 2 ^ 32 - 1)
    (config : ProvisionConfig) :
    GenerationsAtMost (saveChecked partition config).1.store (bound + 1) := by
  have kept := generations_save within small config
  unfold saveChecked
  generalize partition.store.saveNvsAtomic config .none = result at kept
  obtain ⟨store, outcome⟩ := result
  cases outcome <;> exact kept

theorem post_saves {partition : ProvisionPartition} {request : ConfigRequest}
    {update config : ProvisionConfig} {bound : Nat} (submits : submitted request = some update)
    (chosen : configToSave partition update = .ok config)
    (within : GenerationsAtMost partition.store bound) (small : bound < 2 ^ 32 - 1) :
    (handleConfigPost partition request).1.store.load = .ok config ∧
      (handleConfigPost partition request).1.mqttVerified = partition.mqttVerified ∧
      GenerationsAtMost (handleConfigPost partition request).1.store (bound + 1) := by
  obtain ⟨_, _, json, _, parsed⟩ := submitted_some submits
  obtain ⟨valid, schema, _⟩ := configToSave_valid chosen (parseConfigUpdate_schema parsed)
  obtain ⟨marker, _, loads⟩ := saveChecked_spec partition valid schema
  rw [handleConfigPost_submitted submits, chosen]
  rw [if_pos (room_of_generations within small)] at loads
  exact ⟨loads, marker, saveChecked_generations within small config⟩

theorem configToSave_keep {partition : ProvisionPartition} {existing update : ProvisionConfig}
    (loaded : partition.store.load = .ok existing) (valid : Valid update)
    (keep : mqttPasswordRule existing update (storedMqttSettingsVerified partition existing) =
      .keep) :
    configToSave partition update = .ok (mergedSecrets existing update) := by
  have held := (validate_ok_iff existing).mp (load_valid loaded).1
  have merged := (validate_ok_iff _).mpr (merged_valid held valid)
  simp [configToSave, loaded, keep, mergePreservingSecrets, merged]

section MovedPassword

def post (host username password : List UInt8) : ConfigRequest where
  guard := none
  reconnectAvailable := true
  messageTaken := true
  json := some fun name =>
    match name with
    | "wifi_ssid" => some (.string [119])
    | "mqtt_host" => some (.string host)
    | "mqtt_port" => some (.number 1883)
    | "mqtt_username" => some (.string username)
    | "mqtt_password" => some (.string password)
    | "mqtt_tls" => some (.bool false)
    | "mqtt_client_id" => some (.string [99])
    | "mqtt_base_topic" => some (.string [116])
    | _ => none

def posted (host username password : List UInt8) : ProvisionConfig where
  schemaVersion := currentSchemaVersion
  wifiSsid := ofText 32 [119]
  wifiPassword := zeroed
  mqttHost := ofText 128 host
  mqttPort := 1883
  mqttUsername := ofText 128 username
  mqttPassword := ofText 256 password
  mqttTls := false
  mqttCa := zeroed
  mqttClientId := ofText 64 [99]
  mqttBaseTopic := ofText 128 [116]

theorem posted_valid {host username password : List UInt8} (some : host ≠ [])
    (short : host.length ≤ 128 ∧ username.length ≤ 128 ∧ password.length ≤ 256)
    (texts : (0 : UInt8) ∉ host ∧ (0 : UInt8) ∉ username ∧ (0 : UInt8) ∉ password) :
    Valid (posted host username password) := by
  have blank {max : Nat} : fieldValid (zeroed : CharArray max) = true := by
    simp [fieldValid, boundedStrlen, text_zeroed]
  constructor
  case schema => exact .inr rfl
  case mqttPort => exact show (1883 : UInt16) ≠ 0 by decide
  case tlsCa => exact fun tls => absurd tls Bool.false_ne_true
  case mqttHost => exact fieldPresent_ofText some short.1 texts.1
  case mqttUsername => exact fieldValid_ofText short.2.1 texts.2.1
  case mqttPassword => exact fieldValid_ofText short.2.2 texts.2.2
  case wifiSsid | mqttClientId | mqttBaseTopic =>
    exact fieldPresent_ofText (by decide) (by decide) (by decide)
  case wifiPassword | mqttCa => exact blank

/-- Typed once, verified, then kept under another username and moved to another host. -/
def passwordMove : List ProvisionAction :=
  [.configPost (post [104] [117] [112]), .reboot, .mqttConnected true,
    .configPost (post [104] [118] []), .configPost (post [103] [118] [])]

def typedConfig : ProvisionConfig := posted [104] [117] [112]
def renamedConfig : ProvisionConfig := mergedSecrets typedConfig (posted [104] [118] [])
def movedConfig : ProvisionConfig := mergedSecrets renamedConfig (posted [103] [118] [])

theorem typedConfig_valid : Valid typedConfig :=
  posted_valid (by decide) (by decide) (by decide)

theorem renamedConfig_valid : Valid renamedConfig :=
  merged_valid typedConfig_valid (posted_valid (by decide) (by decide) (by decide))

theorem password_typed : password typedConfig = [112] := text_ofText (by decide) (by decide)

theorem password_renamed : password renamedConfig = [112] := by
  rw [renamedConfig, merged_password _ typedConfig_valid.mqttPassword, password_typed]
  have blank : password (posted [104] [118] []) = [] := text_ofText (by decide) (by decide)
  rw [if_pos blank]

theorem password_moved : password movedConfig = [112] := by
  rw [movedConfig, merged_password _ renamedConfig_valid.mqttPassword, password_renamed]
  have blank : password (posted [103] [118] []) = [] := text_ofText (by decide) (by decide)
  rw [if_pos blank]

theorem fingerprints_differ : mqttFingerprint typedConfig ≠ mqttFingerprint renamedConfig := by
  have one (max : Nat) (byte : UInt8) (room : 1 ≤ max) (nonzero : byte ≠ 0) :
      text (ofText max [byte]) = [byte] :=
    text_ofText (by simpa using room) (by simpa [eq_comm] using nonzero)
  have typed_password : text typedConfig.mqttPassword = [112] := password_typed
  have renamed_password : text renamedConfig.mqttPassword = [112] := password_renamed
  have username : text renamedConfig.mqttUsername = [118] := one 128 118 (by decide) (by decide)
  have ca : text renamedConfig.mqttCa = [] := by
    have blank : isBlank (zeroed : CharArray 4096) = true := (isBlank_iff _).mpr text_zeroed
    have same : renamedConfig.mqttCa = zeroed := by
      simp [renamedConfig, mergedSecrets, typedConfig, posted, blank]
    rw [same, text_zeroed]
  have same_host : renamedConfig.mqttHost = ofText 128 [104] := rfl
  have same_client : renamedConfig.mqttClientId = ofText 64 [99] := rfl
  have same_port : renamedConfig.mqttPort = 1883 := rfl
  have same_tls : renamedConfig.mqttTls = false := rfl
  simp only [mqttFingerprint, hashText, typed_password, renamed_password, username, ca, same_host,
    same_client, same_port, same_tls]
  simp only [typedConfig, posted, text_zeroed, one 128 104 (by decide) (by decide),
    one 128 117 (by decide) (by decide), one 64 99 (by decide) (by decide)]
  decide

theorem proven_step {h : PasswordHistory} {p : ProvenPassword} (action : ProvisionAction)
    (member : p ∈ h.proven) : p ∈ (h.step action).proven := List.mem_append_right _ member

theorem step_post_partition (h : PasswordHistory) (request : ConfigRequest) :
    (h.step (.configPost request)).app.partition = (handleConfigPost h.app.partition request).1 :=
  rfl

theorem marked_after_reboot {h : PasswordHistory} {config : ProvisionConfig}
    (loads : h.app.partition.store.load = .ok config) (unmarked : h.app.partition.mqttVerified = none) :
    ((h.step .reboot).step (.mqttConnected true)).app.partition.store = h.app.partition.store ∧
      ((h.step .reboot).step (.mqttConnected true)).app.partition.mqttVerified =
        some (mqttFingerprint config) ∧
      { address := address config, password := password config } ∈
        ((h.step .reboot).step (.mqttConnected true)).proven := by
  have booted : (h.step .reboot).app = boot h.app.partition := rfl
  have connected : ((h.step .reboot).step (.mqttConnected true)).app =
      rememberVerifiedMqttSettings (boot h.app.partition) true := rfl
  have current : (boot h.app.partition).config = config := by
    simp [boot, loads]
  have fresh : (boot h.app.partition).mqttVerifiedFingerprint = 0 := by
    simp [boot, unmarked]
  have same_store : ((h.step .reboot).step (.mqttConnected true)).app.partition.store =
      h.app.partition.store := by
    rw [connected, rememberVerified_store]
    rfl
  have marker : ((h.step .reboot).step (.mqttConnected true)).app.partition.mqttVerified =
      some (mqttFingerprint config) := by
    rw [connected]
    simp [rememberVerifiedMqttSettings, current, fresh, mqttFingerprint_nonzero]
  refine ⟨same_store, marker, List.mem_append_left _ (List.mem_append_left _ ?_)⟩
  have stored : ((h.step .reboot).step (.mqttConnected true)).app.partition.store.load =
      .ok config := by
    rw [same_store, loads]
  apply provenNow_of_verified stored
  simp only [storedMqttSettingsVerified]
  rw [marker]
  simp [mqttFingerprint_nonzero]

theorem typed_stored :
    (start.step (.configPost (post [104] [117] [112]))).app.partition.store.load =
        .ok typedConfig ∧
      (start.step (.configPost (post [104] [117] [112]))).app.partition.mqttVerified = none ∧
      GenerationsAtMost (start.step (.configPost (post [104] [117] [112]))).app.partition.store 1 := by
  have within : GenerationsAtMost start.app.partition.store 0 := by
    intro name blob intact
    cases intact
  have nothing : start.app.partition.store.load = .error .nvsNotFound := load_nothing rfl
  have accepted := (validate_ok_iff typedConfig).mpr typedConfig_valid
  have chosen : configToSave start.app.partition typedConfig = .ok typedConfig := by
    simp [configToSave, nothing, accepted]
  have submits : submitted (post [104] [117] [112]) = some (posted [104] [117] [112]) := rfl
  rw [step_post_partition]
  exact post_saves submits chosen within (by decide)

theorem posted_address (host username password : List UInt8) :
    address (posted host username password) = (text (ofText 128 host), 1883) := rfl

theorem merged_address (existing update : ProvisionConfig) :
    address (mergedSecrets existing update) = address update := rfl

theorem text_host {byte : UInt8} (nonzero : byte ≠ 0) : text (ofText 128 [byte]) = [byte] :=
  text_ofText (by simp) (by simpa [eq_comm] using nonzero)

theorem renamed_stored {h : PasswordHistory} (loaded : h.app.partition.store.load = .ok typedConfig)
    (marker : h.app.partition.mqttVerified = some (mqttFingerprint typedConfig))
    (within : GenerationsAtMost h.app.partition.store 1) :
    (h.step (.configPost (post [104] [118] []))).app.partition.store.load = .ok renamedConfig ∧
      storedMqttSettingsVerified (h.step (.configPost (post [104] [118] []))).app.partition
        renamedConfig = false ∧
      GenerationsAtMost (h.step (.configPost (post [104] [118] []))).app.partition.store 2 := by
  have same_server (verified : Bool) :
      mqttPasswordRule typedConfig (posted [104] [118] []) verified = .keep := by
    rw [mqttPasswordRule_keep_iff]
    intro moves
    apply moves.2.2.2
    rw [typedConfig, posted_address, posted_address]
  have chosen := configToSave_keep loaded
    (posted_valid (by decide) (by decide) (by decide)) (same_server _)
  have submits : submitted (post [104] [118] []) = some (posted [104] [118] []) := rfl
  obtain ⟨loads, same, bound⟩ := post_saves submits chosen within (by decide)
  rw [step_post_partition]
  refine ⟨loads, ?_, bound⟩
  simp only [storedMqttSettingsVerified, same, marker]
  simp [fingerprints_differ]

theorem moved_stored {h : PasswordHistory} (loaded : h.app.partition.store.load = .ok renamedConfig)
    (unverified : storedMqttSettingsVerified h.app.partition renamedConfig = false)
    (within : GenerationsAtMost h.app.partition.store 2) :
    (h.step (.configPost (post [103] [118] []))).app.partition.store.load = .ok movedConfig ∧
      (h.step (.configPost (post [103] [118] []))).typed = false := by
  have keeps : mqttPasswordRule renamedConfig (posted [103] [118] []) false = .keep := by
    rw [mqttPasswordRule_keep_iff]
    simp
  have chosen := configToSave_keep loaded
    (posted_valid (by decide) (by decide) (by decide)) (unverified ▸ keeps)
  have submits : submitted (post [103] [118] []) = some (posted [103] [118] []) := rfl
  obtain ⟨loads, _, _⟩ := post_saves submits chosen within (by decide)
  refine ⟨loads, ?_⟩
  have blank : password (posted [103] [118] []) = [] := text_ofText (by decide) (by decide)
  have apart : address renamedConfig ≠ address (posted [103] [118] []) := by
    rw [renamedConfig, merged_address, posted_address, posted_address, text_host (by decide),
      text_host (by decide)]
    decide
  have computed := typed_mark submits chosen (room_of_generations within (by decide)) h.typed
  simp only [blank, loaded, apart, ne_eq, not_true_eq_false, ↓reduceIte] at computed
  exact computed

/-- The password reaches host 103 although it was proven for host 104 and never typed again. -/
theorem proven_password_moves : ¬ PasswordStays (run step start passwordMove) := by
  simp only [passwordMove, run_cons, run_nil]
  obtain ⟨first_loads, unmarked, first_bound⟩ := typed_stored
  generalize start.step (.configPost (post [104] [117] [112])) = h at *
  obtain ⟨same_store, marker, proven⟩ := marked_after_reboot first_loads unmarked
  rw [← same_store] at first_loads first_bound
  generalize (h.step .reboot).step (.mqttConnected true) = h at *
  obtain ⟨renamed, unverified, bound⟩ := renamed_stored first_loads marker first_bound
  obtain ⟨moved, untyped⟩ := moved_stored renamed unverified bound
  intro stays
  have still_proven := proven_step (.configPost (post [103] [118] []))
    (proven_step (.configPost (post [104] [118] [])) proven)
  have held : password movedConfig ≠ [] := by
    rw [password_moved]
    decide
  have apart : address typedConfig ≠ address movedConfig := by
    rw [movedConfig, merged_address, typedConfig, posted_address, posted_address,
      text_host (by decide), text_host (by decide)]
    decide
  have secret : password typedConfig = password movedConfig := by
    rw [password_typed, password_moved]
  have needs := stays movedConfig moved held _ still_proven
  simp only at needs
  have typed := needs secret apart
  rw [untyped] at typed
  cases typed

end MovedPassword

end PasswordHistory
