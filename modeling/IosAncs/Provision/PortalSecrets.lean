import IosAncs.Provision.PortalServer

/-!
Two devices whose stored configurations differ in the secrets alone. The portal tells them apart
by nothing but whether the stored settings are verified; that much it does tell, also of a
password that was guessed.
-/
open Runs CString ProvisionConfig ProvisionStore Portal PasswordHistory

namespace PortalServer

section Alike
variable {existing existing' config config' : ProvisionConfig}

theorem isBlank_strlcpy {max : Nat} (target : CharArray max) {source : CharArray max}
    (valid : fieldValid source) : isBlank (strlcpy target source) = isBlank source := by
  rw [Bool.eq_iff_iff, isBlank_iff, isBlank_iff, text_strlcpy target valid]

/-- What is told of a configuration, as far as the rules for an update depend on it. -/
structure SameTold (existing existing' : ProvisionConfig) : Prop where
  host : text existing.mqttHost = text existing'.mqttHost
  port : existing.mqttPort = existing'.mqttPort
  wifiPassword : isBlank existing.wifiPassword = isBlank existing'.wifiPassword
  mqttPassword : isBlank existing.mqttPassword = isBlank existing'.mqttPassword
  mqttCa : isBlank existing.mqttCa = isBlank existing'.mqttCa

theorem sameTold_of_redacted (held : Valid existing) (held' : Valid existing')
    (same : redactStatus existing = redactStatus existing') : SameTold existing existing' where
  host := by
    have host := congrArg (fun status => text status.mqttHost) same
    simp only [redactStatus] at host
    rwa [text_strlcpy _ (Bool.and_eq_true_iff.mp held.mqttHost).1,
      text_strlcpy _ (Bool.and_eq_true_iff.mp held'.mqttHost).1] at host
  port := congrArg ConfigStatus.mqttPort same
  wifiPassword := Bool.not_inj (congrArg ConfigStatus.wifiPasswordConfigured same)
  mqttPassword := Bool.not_inj (congrArg ConfigStatus.mqttPasswordConfigured same)
  mqttCa := Bool.not_inj (congrArg ConfigStatus.mqttCaConfigured same)

theorem rule_alike (told : SameTold existing existing') (update : ProvisionConfig)
    (verified : Bool) :
    mqttPasswordRule existing update verified = mqttPasswordRule existing' update verified := by
  unfold mqttPasswordRule mqttServerChanged
  rw [told.host, told.port, told.mqttPassword]

theorem merged_valid_alike (held' : Valid existing') (told : SameTold existing existing')
    {update : ProvisionConfig} (valid : Valid (mergedSecrets existing update)) :
    Valid (mergedSecrets existing' update) := by
  obtain ⟨schema, ssid, wifi, host, port, user, mqtt, ca, tlsCa, client, topic⟩ := valid
  simp only [mergedSecrets] at schema ssid wifi host port user mqtt ca tlsCa client topic
  rw [told.mqttCa] at ca tlsCa
  constructor <;> simp only [mergedSecrets]
  case schema => exact schema
  case wifiSsid => exact ssid
  case mqttHost => exact host
  case mqttPort => exact port
  case mqttUsername => exact user
  case mqttClientId => exact client
  case mqttBaseTopic => exact topic
  case wifiPassword =>
    split
    · exact fieldValid_strlcpy _ held'.wifiPassword
    · next filled => rwa [if_neg filled] at wifi
  case mqttPassword =>
    split
    · exact fieldValid_strlcpy _ held'.mqttPassword
    · next filled => rwa [if_neg filled] at mqtt
  case mqttCa =>
    split
    · exact fieldValid_strlcpy _ held'.mqttCa
    · next filled => rwa [if_neg filled] at ca
  case tlsCa =>
    intro tls
    have present := tlsCa tls
    split
    · next kept =>
      rw [Bool.and_eq_true] at kept
      rw [fieldPresent, fieldValid_strlcpy update.mqttCa held'.mqttCa,
        isBlank_strlcpy update.mqttCa held'.mqttCa, Bool.true_and]
      exact kept.2
    · next filled => rwa [if_neg filled] at present

theorem merged_alike (held : Valid existing) (held' : Valid existing')
    (told : SameTold existing existing') (update : ProvisionConfig) :
    redactStatus (mergedSecrets existing update) =
      redactStatus (mergedSecrets existing' update) := by
  have wifi := isBlank_strlcpy update.wifiPassword held.wifiPassword
  have wifi' := isBlank_strlcpy update.wifiPassword held'.wifiPassword
  have mqtt := isBlank_strlcpy update.mqttPassword held.mqttPassword
  have mqtt' := isBlank_strlcpy update.mqttPassword held'.mqttPassword
  have ca := isBlank_strlcpy update.mqttCa held.mqttCa
  have ca' := isBlank_strlcpy update.mqttCa held'.mqttCa
  simp only [redactStatus, mergedSecrets, apply_ite isBlank, wifi, wifi', mqtt, mqtt', ca, ca',
    told.wifiPassword, told.mqttPassword, told.mqttCa]

end Alike

/-! The store. -/

structure BlobAlike (blob blob' : SlotBlob) : Prop where
  generation : blob.generation = blob'.generation
  told : redactStatus blob.config = redactStatus blob'.config

inductive SlotAlike : Slot → Slot → Prop where
  | absent : SlotAlike .absent .absent
  | corrupt : SlotAlike .corrupt .corrupt
  | intact {blob blob' : SlotBlob} (same : BlobAlike blob blob') :
    SlotAlike (.intact blob) (.intact blob')

structure StoreAlike (store store' : ProvisionStore) : Prop where
  slots : ∀ name, SlotAlike (store.slots name) (store'.slots name)
  active : store.active = store'.active

abbrev FoundAlike : Option (SlotName × SlotBlob) → Option (SlotName × SlotBlob) → Prop :=
  Option.Rel fun found found' => found.1 = found'.1 ∧ BlobAlike found.2 found'.2

section Store
variable {store store' : ProvisionStore} {found found' : Option (SlotName × SlotBlob)}

theorem intactBlob_alike {slot slot' : Slot} (alike : SlotAlike slot slot') :
    Option.Rel BlobAlike (intactBlob slot) (intactBlob slot') := by
  cases alike with
  | absent | corrupt => exact .none
  | intact same => exact .some same

theorem bestIntact_alike (alike : StoreAlike store store') :
    FoundAlike (bestIntact store.slots) (bestIntact store'.slots) := by
  have first := intactBlob_alike (alike.slots .a)
  have second := intactBlob_alike (alike.slots .b)
  unfold bestIntact
  generalize intactBlob (store.slots .a) = a at first
  generalize intactBlob (store'.slots .a) = a' at first
  generalize intactBlob (store.slots .b) = b at second
  generalize intactBlob (store'.slots .b) = b' at second
  cases first with
  | none =>
    cases second with
    | none => exact .none
    | some y => exact .some ⟨rfl, y⟩
  | some x =>
    cases second with
    | none => exact .some ⟨rfl, x⟩
    | some y =>
      dsimp only
      rw [x.generation, y.generation]
      split
      · exact .some ⟨rfl, y⟩
      · exact .some ⟨rfl, x⟩

theorem active_alike (alike : StoreAlike store store') :
    Option.Rel BlobAlike (store.active.bind fun name => intactBlob (store.slots name))
      (store'.active.bind fun name => intactBlob (store'.slots name)) := by
  rw [← alike.active]
  cases store.active with
  | none => exact .none
  | some name => exact intactBlob_alike (alike.slots name)

theorem live_alike (alike : StoreAlike store store') : FoundAlike store.live store'.live := by
  have best := bestIntact_alike alike
  have active := active_alike alike
  unfold live selectLiveSlot
  rw [readBest_eq, readBest_eq, ← alike.active]
  rw [← alike.active] at active
  dsimp only
  generalize bestIntact store.slots = found at best
  generalize bestIntact store'.slots = found' at best
  cases best with
  | none => exact .none
  | some same =>
    cases name : store.active with
    | none => exact .some same
    | some name =>
      rw [name] at active
      dsimp only [Option.bind_some] at active ⊢
      generalize intactBlob (store.slots _) = blob at active
      generalize intactBlob (store'.slots _) = blob' at active
      cases active with
      | none => exact .some same
      | some held => exact .some ⟨rfl, held⟩

theorem promotion_alike (alike : StoreAlike store store') :
    FoundAlike (promotion store.readBestNvsSlot) (promotion store'.readBestNvsSlot) := by
  have best := bestIntact_alike alike
  have active := active_alike alike
  unfold promotion
  rw [readBest_eq, readBest_eq, ← alike.active]
  rw [← alike.active] at active
  dsimp only
  generalize bestIntact store.slots = found at best
  generalize bestIntact store'.slots = found' at best
  generalize (store.active.bind fun name => intactBlob (store.slots name)) = blob at active
  generalize (store.active.bind fun name => intactBlob (store'.slots name)) = blob' at active
  cases best with
  | none => exact .none
  | @some slot slot' same =>
    have none_iff : blob = none ↔ blob' = none := by cases active <;> simp
    simp only [same.1, none_iff]
    split
    · exact .some ⟨rfl, same.2⟩
    · exact .none

theorem next_alike (alike : FoundAlike found found') :
    inactiveSlot found = inactiveSlot found' ∧ nextGeneration found = nextGeneration found' := by
  cases alike with
  | none => exact ⟨rfl, rfl⟩
  | some same =>
    unfold inactiveSlot nextGeneration
    dsimp only
    rw [same.1, same.2.generation]
    exact ⟨rfl, rfl⟩

theorem liveGeneration_alike (alike : StoreAlike store store') :
    liveGeneration store = liveGeneration store' := by
  have found := live_alike alike
  unfold liveGeneration
  generalize store.live = live at found
  generalize store'.live = live' at found
  cases found with
  | none => rfl
  | some same => exact congrArg some same.2.generation

theorem setActive_alike (alike : StoreAlike store store') (name : SlotName) :
    StoreAlike (store.setActive name) (store'.setActive name) where
  slots := alike.slots
  active := rfl

theorem setSlot_alike (alike : StoreAlike store store') (name : SlotName) {slot slot' : Slot}
    (same : SlotAlike slot slot') :
    StoreAlike (store.setSlot name slot) (store'.setSlot name slot') where
  slots := by
    intro other
    by_cases at_ : other = name
    · subst at_
      rw [setSlot_same, setSlot_same]
      exact same
    · rw [setSlot_other store slot at_, setSlot_other store' slot' at_]
      exact alike.slots other
  active := alike.active

section Save
variable {config config' : ProvisionConfig}

theorem saveSlot_alike (alike : StoreAlike store store') (inUse : FoundAlike found found')
    (valid : validate config = .ok) (valid' : validate config' = .ok)
    (told : redactStatus config = redactStatus config') :
    StoreAlike (store.saveSlot found config .none).1 (store'.saveSlot found' config' .none).1 := by
  have saved := saveSlot_saved store found config .none
  have saved' := saveSlot_saved store' found' config' .none
  generalize store.saveSlot found config .none = result at saved
  generalize store'.saveSlot found' config' .none = result' at saved'
  obtain ⟨slot, generation⟩ := next_alike inUse
  cases saved with
  | refused invalid => exact absurd valid invalid
  | failed _ _ leaves => cases leaves
  | saved _ encoded _ _ =>
    cases saved' with
    | refused invalid => exact absurd valid' invalid
    | failed _ _ leaves => cases leaves
    | saved _ encoded' _ _ =>
      obtain ⟨holds, number⟩ := encodeBlob_ok encoded
      obtain ⟨holds', number'⟩ := encodeBlob_ok encoded'
      rw [← slot]
      apply setActive_alike
      apply setSlot_alike alike
      refine .intact ⟨by rw [number, number', generation], ?_⟩
      rw [holds, holds']
      exact told

theorem save_alike (alike : StoreAlike store store') (valid : validate config = .ok)
    (valid' : validate config' = .ok) (told : redactStatus config = redactStatus config') :
    StoreAlike (store.saveNvsAtomic config .none).1 (store'.saveNvsAtomic config' .none).1 := by
  have exhausted := liveGeneration_alike alike
  have live := live_alike alike
  have promoted := promotion_alike alike
  unfold liveGeneration at exhausted
  unfold ProvisionStore.live at exhausted live
  unfold saveNvsAtomic
  dsimp only
  rw [exhausted]
  split
  · exact alike
  · generalize promotion store.readBestNvsSlot = found at promoted
    generalize promotion store'.readBestNvsSlot = found' at promoted
    cases promoted with
    | none => exact saveSlot_alike alike live valid valid' told
    | some same =>
      simp only [reduceCtorEq, ↓reduceIte, same.1]
      exact saveSlot_alike (setActive_alike alike _) (.some same) valid valid' told

end Save

end Store

/-! The portal. -/

def verifiedNow (partition : ProvisionPartition) : Bool :=
  match partition.store.load with
  | .ok existing => storedMqttSettingsVerified partition existing
  | .error _ => false

inductive LoadAlike : Except EspErr ProvisionConfig → Except EspErr ProvisionConfig → Prop where
  | missing : LoadAlike (.error .nvsNotFound) (.error .nvsNotFound)
  | found {config config' : ProvisionConfig} (valid : Valid config) (valid' : Valid config')
      (told : redactStatus config = redactStatus config') : LoadAlike (.ok config) (.ok config')

theorem load_alike {store store' : ProvisionStore} (alike : StoreAlike store store') :
    LoadAlike store.load store'.load := by
  have found := live_alike alike
  unfold load
  generalize store.live = live at found
  generalize store'.live = live' at found
  cases found with
  | none => exact .missing
  | @some slot slot' same =>
    exact .found ((validate_ok_iff _).mp slot.2.valid) ((validate_ok_iff _).mp slot'.2.valid)
      same.2.told

inductive ChoiceAlike : Except PortalReply ProvisionConfig → Except PortalReply ProvisionConfig →
    Prop where
  | refused (reply : PortalReply) : ChoiceAlike (.error reply) (.error reply)
  | chosen {config config' : ProvisionConfig} (told : redactStatus config = redactStatus config') :
    ChoiceAlike (.ok config) (.ok config')

theorem dropped_alike {config config' : ProvisionConfig}
    (told : redactStatus config = redactStatus config') :
    redactStatus { config with mqttPassword := zeroed } =
      redactStatus { config' with mqttPassword := zeroed } := by
  simp only [redactStatus, ConfigStatus.mk.injEq] at told ⊢
  obtain ⟨ssid, wifi, host, port, user, _, tls, ca, client, topic⟩ := told
  exact ⟨ssid, wifi, host, port, user, trivial, tls, ca, client, topic⟩

section Portal
variable {partition partition' : ProvisionPartition}

theorem configToSave_alike (alike : StoreAlike partition.store partition'.store)
    (marked : verifiedNow partition = verifiedNow partition') (update : ProvisionConfig) :
    ChoiceAlike (configToSave partition update) (configToSave partition' update) := by
  have loads := load_alike alike
  unfold verifiedNow at marked
  unfold configToSave
  generalize partition.store.load = stored at loads marked
  generalize partition'.store.load = stored' at loads marked
  cases loads with
  | missing =>
    dsimp only
    split
    · exact .chosen rfl
    · exact .refused _
  | @found existing existing' held held' redacted =>
    have told := sameTold_of_redacted held held' redacted
    have told' := sameTold_of_redacted held' held redacted.symm
    have merged := merged_alike held held' told update
    dsimp only at marked ⊢
    rw [marked, rule_alike told]
    generalize mqttPasswordRule existing' update _ = rule
    split
    · exact .refused _
    · have accepted : validate (mergedSecrets existing update) = .ok ↔
          validate (mergedSecrets existing' update) = .ok := by
        rw [validate_ok_iff, validate_ok_iff]
        exact ⟨merged_valid_alike held' told, merged_valid_alike held told'⟩
      simp only [mergePreservingSecrets, accepted]
      by_cases valid : validate (mergedSecrets existing' update) = .ok
      · rw [if_pos valid, if_pos valid]
        dsimp only
        split
        · exact .chosen (dropped_alike merged)
        · exact .chosen merged
      · rw [if_neg valid, if_neg valid]
        exact .refused _

theorem saveChecked_store (partition : ProvisionPartition) (config : ProvisionConfig) :
    (saveChecked partition config).1.store = (partition.store.saveNvsAtomic config .none).1 := by
  unfold saveChecked
  generalize partition.store.saveNvsAtomic config .none = result
  obtain ⟨store, outcome⟩ := result
  cases outcome <;> rfl

theorem saveChecked_alike (alike : StoreAlike partition.store partition'.store)
    {config config' : ProvisionConfig} (valid : validate config = .ok)
    (valid' : validate config' = .ok) (schema : config.schemaVersion = currentSchemaVersion)
    (schema' : config'.schemaVersion = currentSchemaVersion)
    (told : redactStatus config = redactStatus config') :
    (saveChecked partition config).2 = (saveChecked partition' config').2 ∧
      StoreAlike (saveChecked partition config).1.store
        (saveChecked partition' config').1.store := by
  constructor
  · rw [(saveChecked_spec partition valid schema).2.1,
      (saveChecked_spec partition' valid' schema').2.1, liveGeneration_alike alike]
  · rw [saveChecked_store, saveChecked_store]
    exact save_alike alike valid valid' told

theorem handleConfigPost_early {request : ConfigRequest} (early : submitted request = none) :
    ∃ reply, ∀ before, handleConfigPost before request = (before, reply, none) := by
  unfold submitted at early
  unfold handleConfigPost
  cases guard : request.guard with
  | some err => cases err <;> exact ⟨_, fun _ => rfl⟩
  | none =>
    cases available : request.reconnectAvailable with
    | false => exact ⟨_, fun _ => rfl⟩
    | true =>
      cases read : request.json with
      | none => exact ⟨_, fun _ => rfl⟩
      | some json =>
        rw [guard, available, read] at early
        dsimp only at early ⊢
        rw [early]
        exact ⟨_, fun _ => rfl⟩

def savedReply (request : ConfigRequest) (config : ProvisionConfig) : Bool → PortalReply
  | true => .saved (reconnect request config).isSome
  | false => .error "500 Internal Server Error" "save failed"

theorem handleConfigPost_late {request : ConfigRequest} {update : ProvisionConfig}
    (submits : submitted request = some update) (before : ProvisionPartition) :
    (handleConfigPost before request).1 = (match configToSave before update with
        | .error _ => before
        | .ok config => (saveChecked before config).1) ∧
      (handleConfigPost before request).2.1 = match configToSave before update with
        | .error reply => reply
        | .ok config => savedReply request config (saveChecked before config).2 := by
  refine ⟨handleConfigPost_submitted submits, ?_⟩
  obtain ⟨guard, available, json, body, parsed⟩ := submitted_some submits
  unfold handleConfigPost
  simp only [guard, available, body, parsed, Bool.not_true, Bool.false_eq_true, ↓reduceIte]
  cases configToSave before update with
  | error reply => rfl
  | ok config =>
    dsimp only
    generalize saveChecked before config = result
    obtain ⟨after, stored⟩ := result
    cases stored <;> rfl

theorem handleConfigPost_alike (alike : StoreAlike partition.store partition'.store)
    (marked : verifiedNow partition = verifiedNow partition') (request : ConfigRequest) :
    (handleConfigPost partition request).2.1 = (handleConfigPost partition' request).2.1 ∧
      StoreAlike (handleConfigPost partition request).1.store
        (handleConfigPost partition' request).1.store := by
  cases submits : submitted request with
  | none =>
    obtain ⟨reply, early⟩ := handleConfigPost_early submits
    rw [early, early]
    exact ⟨rfl, alike⟩
  | some update =>
    obtain ⟨_, _, json, _, parsed⟩ := submitted_some submits
    have schema := parseConfigUpdate_schema parsed
    obtain ⟨state, reply⟩ := handleConfigPost_late submits partition
    obtain ⟨state', reply'⟩ := handleConfigPost_late submits partition'
    rw [state, state', reply, reply']
    have choice := configToSave_alike alike marked update
    cases chosen : configToSave partition update with
    | error refusal =>
      cases chosen' : configToSave partition' update with
      | error refusal' =>
        rw [chosen, chosen'] at choice
        cases choice
        exact ⟨rfl, alike⟩
      | ok config' =>
        rw [chosen, chosen'] at choice
        cases choice
    | ok config =>
      cases chosen' : configToSave partition' update with
      | error refusal' =>
        rw [chosen, chosen'] at choice
        cases choice
      | ok config' =>
        rw [chosen, chosen'] at choice
        cases choice with
        | chosen told =>
          obtain ⟨valid, current, _⟩ := configToSave_valid chosen schema
          obtain ⟨valid', current', _⟩ := configToSave_valid chosen' schema
          obtain ⟨stored, stores⟩ := saveChecked_alike alike valid valid' current current' told
          refine ⟨?_, stores⟩
          dsimp only
          rw [stored]
          cases (saveChecked partition' config').2 with
          | false => rfl
          | true =>
            simp only [savedReply, reconnect, valid, valid', true_and]
            split <;> rfl

theorem storeReset_alike (alike : StoreAlike partition.store partition'.store)
    (erase : StoreErase) :
    (storeReset partition erase).2 = (storeReset partition' erase).2 ∧
      StoreAlike (storeReset partition erase).1.store (storeReset partition' erase).1.store := by
  cases erase with
  | erased => exact ⟨rfl, fun _ => .absent, rfl⟩
  | deinitFailed => exact ⟨rfl, alike⟩
  | eraseFailed left =>
    refine ⟨rfl, ?_, ?_⟩
    · intro name
      show SlotAlike (leftSlot _ (left.slot name)) (leftSlot _ (left.slot name))
      cases left.slot name with
      | kept => exact alike.slots name
      | gone => exact .absent
      | damaged => exact .corrupt
    · show (if left.active then partition.store.active else none) =
        if left.active then partition'.store.active else none
      rw [alike.active]

theorem buildStatusResponse_alike (alike : StoreAlike partition.store partition'.store)
    (target : IdfTarget) (handlers : PortalHandlers) (env : PortalEnv) :
    buildStatusResponse target handlers partition env =
      buildStatusResponse target handlers partition' env := by
  have loads := load_alike alike
  unfold buildStatusResponse
  generalize partition.store.load = stored at loads
  generalize partition'.store.load = stored' at loads
  cases loads with
  | missing => rfl
  | found _ _ told =>
    dsimp only
    rw [told]

variable (parser : JsonParser) (target : IdfTarget) (handlers : PortalHandlers)

theorem handleResetPost_alike (alike : StoreAlike partition.store partition'.store)
    (request : HttpRequest) (env : PortalEnv) :
    (handleResetPost parser handlers partition request env).2.1 =
        (handleResetPost parser handlers partition' request env).2.1 ∧
      StoreAlike (handleResetPost parser handlers partition request env).1.store
        (handleResetPost parser handlers partition' request env).1.store := by
  obtain ⟨answer, erased⟩ := storeReset_alike alike env.erase
  unfold handleResetPost
  cases requireApLocalRequest request.socket with
  | some err => exact ⟨rfl, alike⟩
  | none =>
    cases readJsonBody parser request with
    | none => exact ⟨rfl, alike⟩
    | some json =>
      dsimp only
      cases confirmationMatches json (if scopeIsAll json then "RESET ALL DATA" else
          "RESET PROVISIONING") with
      | false => exact ⟨rfl, alike⟩
      | true =>
        cases scopeIsAll json with
        | true => cases handlers.resetAllData <;> exact ⟨rfl, alike⟩
        | false =>
          cases handlers.resetProvisioning with
          | true => exact ⟨rfl, alike⟩
          | false => exact ⟨congrArg resetResponse answer, erased⟩

theorem handle_alike (alike : StoreAlike partition.store partition'.store)
    (marked : verifiedNow partition = verifiedNow partition') (request : HttpRequest)
    (env : PortalEnv) :
    (handle parser target handlers partition request env).2.1 =
        (handle parser target handlers partition' request env).2.1 ∧
      StoreAlike (handle parser target handlers partition request env).1.store
        (handle parser target handlers partition' request env).1.store := by
  unfold handle
  cases findRoute request with
  | none =>
    dsimp only
    split <;> exact ⟨rfl, alike⟩
  | some route =>
    cases route with
    | index | css | js | favicon | wifiScan | probe => exact ⟨rfl, alike⟩
    | mqttTest | notificationTest | bleEnroll | bleReplace | restart => exact ⟨rfl, alike⟩
    | status => exact ⟨congrArg PortalResponse.json
        (buildStatusResponse_alike alike target handlers env), alike⟩
    | config =>
      obtain ⟨reply, stores⟩ := handleConfigPost_alike alike marked
        (configRequest parser handlers request env)
      exact ⟨congrArg configResponse reply, stores⟩
    | reset => exact handleResetPost_alike parser handlers alike request env

end Portal

theorem turn_store (app : ProvisionApp) (action : ProvisionAction)
    (no_post : ∀ request, action ≠ .configPost request) :
    (app.step action).partition.store = app.partition.store := by
  cases action with
  | configPost request => exact absurd rfl (no_post request)
  | configChanged =>
    unfold ProvisionApp.step
    cases app.messages <;> rfl
  | mqttConnected saved => exact rememberVerified_store app saved
  | mqttFailed | reboot => rfl

theorem handleResetProvisioning_store (app : ProvisionApp) (erase : StoreErase) :
    (handleResetProvisioning app erase).partition = (storeReset app.partition erase).1 := by
  unfold handleResetProvisioning
  generalize storeReset app.partition erase = result
  obtain ⟨partition, failed⟩ := result
  cases failed <;> rfl

/-- The portal's replies depend on what is stored by the redacted configuration alone, once it is
    known when the stored settings are the verified ones. -/
theorem replies_hide_secrets (parser : JsonParser) (target : IdfTarget) (handlers : PortalHandlers)
    {app app' : ProvisionApp} (alike : StoreAlike app.partition.store app'.partition.store)
    (events : List PortalEvent)
    (marked : trace (step parser target handlers) (fun app _ => verifiedNow app.partition) app
        events =
      trace (step parser target handlers) (fun app _ => verifiedNow app.partition) app' events) :
    trace (step parser target handlers) (replied parser target handlers) app events =
      trace (step parser target handlers) (replied parser target handlers) app' events := by
  refine traces_agree (R := fun app app' : ProvisionApp =>
    StoreAlike app.partition.store app'.partition.store) ?_ alike events marked
  intro app app' event alike marked
  cases event with
  | request request env =>
    obtain ⟨reply, stores⟩ := handle_alike parser target handlers alike marked request env
    exact ⟨congrArg some reply, stores⟩
  | configChanged =>
    refine ⟨rfl, ?_⟩
    simp only [step]
    rwa [turn_store app .configChanged (by simp), turn_store app' .configChanged (by simp)]
  | mqttConnected saved =>
    refine ⟨rfl, ?_⟩
    simp only [step]
    rwa [turn_store app (.mqttConnected saved) (by simp),
      turn_store app' (.mqttConnected saved) (by simp)]
  | mqttFailed => exact ⟨rfl, alike⟩
  | resetProvisioning erase =>
    refine ⟨rfl, ?_⟩
    simp only [step]
    rw [handleResetProvisioning_store, handleResetProvisioning_store]
    exact (storeReset_alike alike erase).2
  | reboot => exact ⟨rfl, alike⟩

section Unmarked
variable (parser : JsonParser) (target : IdfTarget) (handlers : PortalHandlers)

theorem storeReset_unmarked {partition : ProvisionPartition}
    (unmarked : partition.mqttVerified = none) (erase : StoreErase) :
    (storeReset partition erase).1.mqttVerified = none := by
  cases erase with
  | erased => rfl
  | deinitFailed => exact unmarked
  | eraseFailed left => simp [storeReset, unmarked]

theorem handle_unmarked {partition : ProvisionPartition} (unmarked : partition.mqttVerified = none)
    (request : HttpRequest) (env : PortalEnv) :
    (handle parser target handlers partition request env).1.mqttVerified = none := by
  unfold handle
  cases findRoute request with
  | none =>
    dsimp only
    split <;> exact unmarked
  | some route =>
    cases route with
    | index | css | js | favicon | status | wifiScan | probe => exact unmarked
    | mqttTest | notificationTest | bleEnroll | bleReplace | restart => exact unmarked
    | config =>
      have posted := handleConfigPost_posted partition (configRequest parser handlers request env)
      show (handleConfigPost partition
        (configRequest parser handlers request env)).1.mqttVerified = none
      cases posted with
      | refused _ _ marker _ => rw [marker, unmarked]
      | saved _ _ _ _ marker _ => rw [marker, unmarked]
    | reset =>
      dsimp only
      unfold handleResetPost
      cases requireApLocalRequest request.socket with
      | some err => exact unmarked
      | none =>
        cases readJsonBody parser request with
        | none => exact unmarked
        | some json =>
          dsimp only
          cases confirmationMatches json (if scopeIsAll json then "RESET ALL DATA" else
              "RESET PROVISIONING") with
          | false => exact unmarked
          | true =>
            cases scopeIsAll json with
            | true => cases handlers.resetAllData <;> exact unmarked
            | false =>
              cases handlers.resetProvisioning with
              | true => exact unmarked
              | false => exact storeReset_unmarked unmarked env.erase

theorem verifiedNow_unmarked {partition : ProvisionPartition}
    (unmarked : partition.mqttVerified = none) : verifiedNow partition = false := by
  unfold verifiedNow storedMqttSettingsVerified
  rw [unmarked]
  cases partition.store.load <;> rfl

theorem unmarked_run {app : ProvisionApp} (unmarked : app.partition.mqttVerified = none)
    {events : List PortalEvent} (never : ∀ event ∈ events, event ≠ .mqttConnected true) :
    trace (step parser target handlers) (fun app _ => verifiedNow app.partition) app events =
      events.map fun _ => false := by
  induction events generalizing app with
  | nil => rfl
  | cons event rest ih =>
    have after : (step parser target handlers app event).partition.mqttVerified = none := by
      cases event with
      | request request env => exact handle_unmarked parser target handlers unmarked request env
      | configChanged =>
        simp only [step, ProvisionApp.step]
        cases app.messages <;> exact unmarked
      | mqttConnected saved =>
        cases saved with
        | true => exact absurd rfl (never _ List.mem_cons_self)
        | false =>
          simp only [step, ProvisionApp.step, ProvisionApp.rememberVerifiedMqttSettings]
          split <;> exact unmarked
      | mqttFailed | reboot => exact unmarked
      | resetProvisioning erase =>
        simp only [step]
        rw [handleResetProvisioning_store]
        exact storeReset_unmarked unmarked erase
    rw [trace, verifiedNow_unmarked unmarked, List.map_cons,
      ih after fun event member => never event (List.mem_cons_of_mem _ member)]

end Unmarked

def storedOnce (config : ProvisionConfig) : ProvisionApp :=
  ProvisionApp.boot { store := save empty (config, .none), mqttVerified := none }

theorem storedOnce_store (config : ProvisionConfig) :
    (storedOnce config).partition.store = (empty.saveNvsAtomic config .none).1 := rfl

theorem storedOnce_load {config : ProvisionConfig} (valid : Valid config)
    (schema : config.schemaVersion = currentSchemaVersion) :
    (storedOnce config).partition.store.load = .ok config := by
  have room : liveGeneration empty ≠ some 0xFFFFFFFF := by
    simp [liveGeneration, live, readBest_eq, bestIntact, empty, intactBlob, selectLiveSlot]
  obtain ⟨_, loads⟩ := save_without_fault empty ((validate_ok_iff _).mpr valid) room
  have same : withCurrentSchema config = config := by
    cases config
    cases schema
    rfl
  rw [same] at loads
  exact loads

/-- Two devices with other passwords, whose portals cannot be told apart. -/
theorem replies_hide_password :
    (storedOnce (posted [104] [117] [112])).partition.store.load ≠
        (storedOnce (posted [104] [117] [113])).partition.store.load ∧
      ∀ (parser : JsonParser) (target : IdfTarget) (handlers : PortalHandlers)
        (events : List PortalEvent), (∀ event ∈ events, event ≠ .mqttConnected true) →
        trace (step parser target handlers) (replied parser target handlers)
            (storedOnce (posted [104] [117] [112])) events =
          trace (step parser target handlers) (replied parser target handlers)
            (storedOnce (posted [104] [117] [113])) events := by
  have valid (byte : UInt8) (nonzero : byte ≠ 0) : Valid (posted [104] [117] [byte]) :=
    posted_valid (by decide) ⟨by simp, by simp, by simp⟩
      ⟨by decide, by decide, by simpa [eq_comm] using nonzero⟩
  have told : redactStatus (posted [104] [117] [112]) =
      redactStatus (posted [104] [117] [113]) := by
    have filled (byte : UInt8) (nonzero : byte ≠ 0) : isBlank (ofText 256 [byte]) = false := by
      rw [Bool.eq_false_iff]
      intro blank
      rw [isBlank_iff, text_ofText (by simp) (by simpa [eq_comm] using nonzero)] at blank
      cases blank
    simp only [redactStatus, posted, filled 112 (by decide), filled 113 (by decide)]
  constructor
  · rw [storedOnce_load (valid 112 (by decide)) rfl, storedOnce_load (valid 113 (by decide)) rfl]
    intro same
    have passwords := congrArg password (Except.ok.inj same)
    simp only [password, posted] at passwords
    rw [text_ofText (by simp) (by decide), text_ofText (by simp) (by decide)] at passwords
    exact absurd passwords (by decide)
  · intro parser target handlers events never
    have alike : StoreAlike (storedOnce (posted [104] [117] [112])).partition.store
        (storedOnce (posted [104] [117] [113])).partition.store := by
      rw [storedOnce_store, storedOnce_store]
      exact save_alike ⟨fun _ => .absent, rfl⟩ ((validate_ok_iff _).mpr (valid 112 (by decide)))
        ((validate_ok_iff _).mpr (valid 113 (by decide))) told
    apply replies_hide_secrets parser target handlers alike
    rw [unmarked_run parser target handlers rfl never,
      unmarked_run parser target handlers rfl never]

/-! What the portal does tell. -/

section Guess
variable {partition : ProvisionPartition} {existing guess other : ProvisionConfig}
  {first second : ConfigRequest}

/-- The update repeats the broker's settings, but for the password; its CA may be left out. -/
structure Repeats (existing guess : ProvisionConfig) : Prop where
  host : text guess.mqttHost = text existing.mqttHost
  port : guess.mqttPort = existing.mqttPort
  tls : guess.mqttTls = existing.mqttTls
  ca : text guess.mqttCa = text existing.mqttCa ∨ text guess.mqttCa = []
  username : text guess.mqttUsername = text existing.mqttUsername
  clientId : text guess.mqttClientId = text existing.mqttClientId

theorem fingerprint_guessed (held : Valid existing) (repeats : Repeats existing guess)
    (typed : password guess ≠ []) :
    mqttFingerprint (mergedSecrets existing guess) =
      mqttFingerprint { existing with mqttPassword := guess.mqttPassword } := by
  have filled : isBlank guess.mqttPassword ≠ true := by
    rw [Ne, isBlank_iff]
    exact typed
  have ca : text (mergedSecrets existing guess).mqttCa = text existing.mqttCa := by
    simp only [mergedSecrets]
    split
    · exact text_strlcpy _ held.mqttCa
    · next kept =>
      rcases repeats.ca with same | left_out
      · exact same
      · rw [(isBlank_iff guess.mqttCa).mpr left_out] at kept
        have blank : isBlank existing.mqttCa = true := by simpa using kept
        rw [left_out, (isBlank_iff _).mp blank]
  have secret : (mergedSecrets existing guess).mqttPassword = guess.mqttPassword := if_neg filled
  unfold mqttFingerprint hashText
  rw [ca, secret]
  simp only [mergedSecrets, repeats.host, repeats.port, repeats.tls, repeats.username,
    repeats.clientId]

theorem fingerprint_same_password {secret : CharArray 256}
    (same : text secret = text existing.mqttPassword) :
    mqttFingerprint { existing with mqttPassword := secret } = mqttFingerprint existing := by
  unfold mqttFingerprint hashText
  dsimp only
  rw [same]

/-- A post for another broker, with a username but no password, is asked for the password exactly
    where the stored settings are the verified ones. -/
theorem password_required_iff (loaded : partition.store.load = .ok existing)
    (moves : submitted second = some other) (filled : password existing ≠ [])
    (blank : password other = []) (named : text other.mqttUsername ≠ [])
    (away : address existing ≠ address other) :
    (handleConfigPost partition second).2.1 =
        .error "400 Bad Request" "mqtt_password_required" ↔
      storedMqttSettingsVerified partition existing = true := by
  have changed := (mqttServerChanged_iff existing other).mpr away
  have blank_ : isBlank other.mqttPassword = true := (isBlank_iff _).mpr blank
  have filled_ : isBlank existing.mqttPassword = false := by
    rw [Bool.eq_false_iff, Ne, isBlank_iff]
    exact filled
  have named_ : isBlank other.mqttUsername = false := by
    rw [Bool.eq_false_iff, Ne, isBlank_iff]
    exact named
  rw [(handleConfigPost_late moves partition).2, configToSave, loaded]
  dsimp only
  cases verified : storedMqttSettingsVerified partition existing with
  | true =>
    have rule : mqttPasswordRule existing other true = .required := by
      simp [mqttPasswordRule, changed, blank_, filled_, named_]
    simp [rule]
  | false =>
    have rule : mqttPasswordRule existing other false = .keep := by simp [mqttPasswordRule]
    rw [rule]
    cases mergePreservingSecrets existing other with
    | error err => simp
    | ok merged =>
      simp only [reduceCtorEq, ↓reduceIte, Bool.false_eq_true, iff_false]
      cases (saveChecked partition merged).2 <;> simp [savedReply]

/-- After a post that repeats the verified settings with a guessed password, a post with no
    password for another broker is asked for one exactly where the guess has the fingerprint of
    the stored password, so always where it is that password. -/
theorem second_post_tells_guess (loaded : partition.store.load = .ok existing)
    (verified : storedMqttSettingsVerified partition existing = true)
    (room : liveGeneration partition.store ≠ some 0xFFFFFFFF)
    (posts : submitted first = some guess) (repeats : Repeats existing guess)
    (typed : password guess ≠ []) (accepted : Valid (mergedSecrets existing guess))
    (moves : submitted second = some other) (blank : password other = [])
    (named : text other.mqttUsername ≠ []) (away : address other ≠ address existing) :
    ((handleConfigPost (handleConfigPost partition first).1 second).2.1 =
        .error "400 Bad Request" "mqtt_password_required" ↔
      mqttFingerprint { existing with mqttPassword := guess.mqttPassword } =
        mqttFingerprint existing) ∧
    (password guess = password existing →
      (handleConfigPost (handleConfigPost partition first).1 second).2.1 =
        .error "400 Bad Request" "mqtt_password_required") := by
  have held := (validate_ok_iff existing).mp (load_valid loaded).1
  have valid := (validate_ok_iff _).mpr accepted
  obtain ⟨_, _, _, _, parsed⟩ := submitted_some posts
  have schema := merged_schema existing (parseConfigUpdate_schema parsed)
  -- a typed password is saved as it is
  have keep : mqttPasswordRule existing guess (storedMqttSettingsVerified partition existing) =
      .keep := by
    rw [mqttPasswordRule_keep_iff]
    exact fun rule => typed rule.2.1
  have chosen : configToSave partition guess = .ok (mergedSecrets existing guess) := by
    simp [configToSave, loaded, keep, mergePreservingSecrets, valid]
  obtain ⟨marker, _, loads⟩ := saveChecked_spec partition valid schema
  rw [if_pos room] at loads
  have state := (handleConfigPost_late posts partition).1
  rw [chosen] at state
  rw [state]
  have secret : password (mergedSecrets existing guess) = password guess := by
    rw [merged_password guess held.mqttPassword, if_neg typed]
  have host : address (mergedSecrets existing guess) = address existing := by
    show (text guess.mqttHost, guess.mqttPort) = _
    rw [repeats.host, repeats.port]
    rfl
  have marked : storedMqttSettingsVerified (saveChecked partition (mergedSecrets existing guess)).1
      (mergedSecrets existing guess) = true ↔
      mqttFingerprint { existing with mqttPassword := guess.mqttPassword } =
        mqttFingerprint existing := by
    rw [← fingerprint_guessed held repeats typed]
    unfold storedMqttSettingsVerified at verified ⊢
    rw [marker]
    cases saved : partition.mqttVerified with
    | none => simp [saved] at verified
    | some stored =>
      simp only [saved, Bool.and_eq_true, bne_iff_ne, beq_iff_eq] at verified ⊢
      rw [verified.2]
      constructor
      · exact fun same => same.2.symm
      · exact fun same => ⟨mqttFingerprint_nonzero _, same.symm⟩
  have told : (handleConfigPost (saveChecked partition
      (mergedSecrets existing guess)).1 second).2.1 =
      .error "400 Bad Request" "mqtt_password_required" ↔
      mqttFingerprint { existing with mqttPassword := guess.mqttPassword } =
        mqttFingerprint existing := by
    rw [← marked]
    exact password_required_iff loads moves (secret ▸ typed) blank named (host ▸ Ne.symm away)
  exact ⟨told, fun same => told.mpr (fingerprint_same_password same)⟩

def verifiedPartition : ProvisionPartition where
  store := (empty.saveNvsAtomic typedConfig .none).1
  mqttVerified := some (mqttFingerprint typedConfig)

/-- The password is found out among two guesses. -/
theorem second_post_tells_guess_of_two :
    (handleConfigPost (handleConfigPost verifiedPartition (post [104] [117] [112])).1
        (post [103] [118] [])).2.1 = .error "400 Bad Request" "mqtt_password_required" ∧
      (handleConfigPost (handleConfigPost verifiedPartition (post [104] [117] [113])).1
        (post [103] [118] [])).2.1 ≠ .error "400 Bad Request" "mqtt_password_required" := by
  have loaded : verifiedPartition.store.load = .ok typedConfig :=
    storedOnce_load typedConfig_valid rfl
  have verified : storedMqttSettingsVerified verifiedPartition typedConfig = true := by
    simp [storedMqttSettingsVerified, verifiedPartition, mqttFingerprint_nonzero]
  have room : liveGeneration verifiedPartition.store ≠ some 0xFFFFFFFF := by
    have within : GenerationsAtMost empty 0 := by
      intro name blob intact
      cases intact
    have saved := room_of_generations (generations_save within (by decide) typedConfig) (by decide)
    dsimp only [verifiedPartition]
    exact saved
  have texts (byte : UInt8) (nonzero : byte ≠ 0) : text (ofText 256 [byte]) = [byte] :=
    text_ofText (by simp) (by simpa [eq_comm] using nonzero)
  have tells (byte : UInt8) (nonzero : byte ≠ 0)
      (posts : submitted (post [104] [117] [byte]) = some (posted [104] [117] [byte])) := by
    have typed : password (posted [104] [117] [byte]) ≠ [] := by
      rw [password, posted, texts byte nonzero]
      exact List.cons_ne_nil _ _
    have accepted : Valid (mergedSecrets typedConfig (posted [104] [117] [byte])) :=
      merged_valid typedConfig_valid (posted_valid (by decide) ⟨by simp, by simp, by simp⟩
        ⟨by decide, by decide, by simpa [eq_comm] using nonzero⟩)
    have moves : submitted (post [103] [118] []) = some (posted [103] [118] []) := rfl
    have named : text (posted [103] [118] []).mqttUsername ≠ [] := by
      rw [posted, text_host (by decide)]
      exact List.cons_ne_nil _ _
    have away : address (posted [103] [118] []) ≠ address typedConfig := by
      rw [typedConfig, posted_address, posted_address, text_host (by decide), text_host (by decide)]
      decide
    exact second_post_tells_guess loaded verified room posts ⟨rfl, rfl, rfl, .inl rfl, rfl, rfl⟩
      typed accepted moves (text_ofText (by decide) (by decide)) named away
  constructor
  · exact (tells 112 (by decide) rfl).2 rfl
  · rw [Ne, (tells 113 (by decide) rfl).1]
    have client : text (ofText 64 [99]) = [99] := text_ofText (by decide) (by decide)
    simp only [mqttFingerprint, hashText, typedConfig, posted, text_zeroed, client,
      text_host (show (104 : UInt8) ≠ 0 by decide), text_host (show (117 : UInt8) ≠ 0 by decide),
      texts 112 (by decide), texts 113 (by decide)]
    decide

end Guess

end PortalServer
