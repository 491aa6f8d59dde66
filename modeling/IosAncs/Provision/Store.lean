import IosAncs.Foundation.Runs
import IosAncs.Provision.Config

/-!
The two-slot store of the provisioning configuration: slots with generations,
a separately committed active pointer, and a save that promotes the best slot
before it writes the other one. Every operation of the save may fail.
The source is `provision_store.c`.
-/
open Runs ProvisionConfig

inductive SlotName where
  | a
  | b
deriving DecidableEq, Repr

/-- A blob that decodes: its CRC and versions are right and its configuration passes. -/
structure SlotBlob where
  generation : UInt32
  config : ProvisionConfig
  valid : validate config = .ok
  schema : config.schemaVersion = currentSchemaVersion
deriving DecidableEq

inductive Slot where
  | absent
  | corrupt
  | intact (blob : SlotBlob)
deriving DecidableEq

structure ProvisionStore where
  slots : SlotName → Slot
  active : Option SlotName

/-- `provision_best_slot_t`: the active slot, its blob where it decodes, and the
    slot of the highest generation. -/
structure ProvisionBestSlot where
  activeSlot : Option SlotName
  active : Option SlotBlob
  best : Option (SlotName × SlotBlob)

namespace ProvisionStore

def empty : ProvisionStore := { slots := fun _ => .absent, active := none }

def setSlot (store : ProvisionStore) (name : SlotName) (slot : Slot) : ProvisionStore :=
  { store with slots := fun n => if n = name then slot else store.slots n }

def setActive (store : ProvisionStore) (name : SlotName) : ProvisionStore :=
  { store with active := some name }

@[simp] theorem setSlot_active (store : ProvisionStore) (name : SlotName) (slot : Slot) :
    (store.setSlot name slot).active = store.active := rfl

@[simp] theorem setSlot_same (store : ProvisionStore) (name : SlotName) (slot : Slot) :
    (store.setSlot name slot).slots name = slot := if_pos rfl

theorem setSlot_other (store : ProvisionStore) {name n : SlotName} (slot : Slot) (ne : n ≠ name) :
    (store.setSlot name slot).slots n = store.slots n := if_neg ne

@[simp] theorem setActive_slots (store : ProvisionStore) (name : SlotName) :
    (store.setActive name).slots = store.slots := rfl

@[simp] theorem setActive_active (store : ProvisionStore) (name : SlotName) :
    (store.setActive name).active = some name := rfl

def readSlot (store : ProvisionStore) (name : SlotName) : Except EspErr SlotBlob :=
  match store.slots name with
  | .absent => .error .nvsNotFound
  | .corrupt => .error .invalidCrc
  | .intact blob => .ok blob

def considerBestSlot (best : Option (SlotName × SlotBlob)) (name : SlotName) (blob : SlotBlob) :
    Option (SlotName × SlotBlob) :=
  match best with
  | none => some (name, blob)
  | some (_, held) => if held.generation ≤ blob.generation then some (name, blob) else best

/-- One slot's turn in `read_best_nvs_slot`. -/
def considerSlot (store : ProvisionStore) (best : ProvisionBestSlot) (name : SlotName) :
    ProvisionBestSlot :=
  match store.readSlot name with
  | .error _ => best
  | .ok blob =>
    { best with
      active := if best.activeSlot = some name then some blob else best.active
      best := considerBestSlot best.best name blob }

def readBestNvsSlot (store : ProvisionStore) : ProvisionBestSlot :=
  let best : ProvisionBestSlot := { activeSlot := store.active, active := none, best := none }
  store.considerSlot (store.considerSlot best .a) .b

/-- The slot in use: the active one where it decodes, else the best one. -/
def selectLiveSlot (best : ProvisionBestSlot) : Option (SlotName × SlotBlob) :=
  match best.best with
  | none => none
  | some found =>
    match best.activeSlot, best.active with
    | some name, some blob => some (name, blob)
    | _, _ => some found

def live (store : ProvisionStore) : Option (SlotName × SlotBlob) :=
  selectLiveSlot store.readBestNvsSlot

def load (store : ProvisionStore) : Except EspErr ProvisionConfig :=
  match store.live with
  | none => .error .nvsNotFound
  | some (_, blob) => .ok blob.config

def encodeBlob (config : ProvisionConfig) (generation : UInt32) : Except EspErr SlotBlob :=
  if valid : validate config = .ok then
    .ok {
      generation
      config := withCurrentSchema config
      valid := validate_withCurrentSchema valid
      schema := rfl }
  else .error .invalidArg

theorem encodeBlob_ok {config : ProvisionConfig} {generation : UInt32} {blob : SlotBlob}
    (encoded : encodeBlob config generation = .ok blob) :
    blob.config = withCurrentSchema config ∧ blob.generation = generation := by
  unfold encodeBlob at encoded
  split at encoded
  · cases encoded
    exact ⟨rfl, rfl⟩
  · cases encoded

theorem encodeBlob_valid {config : ProvisionConfig} (valid : validate config = .ok)
    (generation : UInt32) : ∃ blob, encodeBlob config generation = .ok blob := by
  simp [encodeBlob, valid]

/-- What a slot holds after its write or commit failed, or was found damaged. -/
inductive Left where
  | old
  | new
  | corrupt
deriving DecidableEq, Repr

/-- Where a save is cut short. A failed commit of the active pointer leaves it. -/
inductive SaveFault where
  | none
  | promotion
  | slotWrite (left : Left)
  | slotCommit (left : Left)
  | readback (left : Left)
  | activeCommit
  | powerAfterPromotion
  | powerAfterSlotCommit
deriving DecidableEq, Repr

inductive SaveOutcome where
  | ok
  | error (err : EspErr)
  | powerLost
deriving DecidableEq, Repr

/-- The best slot is made active when it is not the active slot in use. -/
def promotion (best : ProvisionBestSlot) : Option (SlotName × SlotBlob) :=
  match best.best with
  | none => none
  | some (name, blob) =>
    if best.activeSlot = none ∨ best.active = none ∨ best.activeSlot ≠ some name then
      some (name, blob)
    else none

def leave (store : ProvisionStore) (name : SlotName) (blob : SlotBlob) : Left → ProvisionStore
  | .old => store
  | .new => store.setSlot name (.intact blob)
  | .corrupt => store.setSlot name .corrupt

def inactiveSlot : Option (SlotName × SlotBlob) → SlotName
  | some (name, _) => if name = .b then .a else .b
  | none => .a

def nextGeneration : Option (SlotName × SlotBlob) → UInt32
  | some (_, blob) => blob.generation + 1
  | none => 1

/-- `save_nvs_atomic` from the choice of the inactive slot on. -/
def saveSlot (store : ProvisionStore) (inUse : Option (SlotName × SlotBlob))
    (config : ProvisionConfig) (fault : SaveFault) : ProvisionStore × SaveOutcome :=
  let inactive := inactiveSlot inUse
  match encodeBlob config (nextGeneration inUse) with
  | .error err => (store, .error err)
  | .ok blob =>
    match fault with
    | .slotWrite left => (store.leave inactive blob left, .error .fail)
    | .slotCommit left => (store.leave inactive blob left, .error .fail)
    | .readback left => (store.leave inactive blob left, .error .invalidCrc)
    | fault =>
      let written := store.setSlot inactive (.intact blob)
      if fault = .powerAfterSlotCommit then (written, .powerLost)
      else match written.readSlot inactive with
        | .error err => (written, .error err)
        | .ok readback =>
          if readback.generation ≠ nextGeneration inUse then (written, .error .invalidResponse)
          else if fault = .activeCommit then (written, .error .fail)
          else (written.setActive inactive, .ok)

def saveNvsAtomic (store : ProvisionStore) (config : ProvisionConfig) (fault : SaveFault) :
    ProvisionStore × SaveOutcome :=
  let best := store.readBestNvsSlot
  let inUse := selectLiveSlot best
  if (inUse.map fun found => found.2.generation) = some 0xFFFFFFFF then
    (store, .error .invalidState)
  else match promotion best with
    | none => store.saveSlot inUse config fault
    | some found =>
      if fault = .promotion then (store, .error .fail)
      else if fault = .powerAfterPromotion then (store.setActive found.1, .powerLost)
      else (store.setActive found.1).saveSlot (some found) config fault

def intactBlob : Slot → Option SlotBlob
  | .intact blob => some blob
  | _ => none

def bestIntact (slots : SlotName → Slot) : Option (SlotName × SlotBlob) :=
  match intactBlob (slots .a), intactBlob (slots .b) with
  | some x, some y => if x.generation ≤ y.generation then some (.b, y) else some (.a, x)
  | some x, none => some (.a, x)
  | none, some y => some (.b, y)
  | none, none => none

theorem readBest_eq (store : ProvisionStore) :
    store.readBestNvsSlot =
      { activeSlot := store.active
        active := store.active.bind fun name => intactBlob (store.slots name)
        best := bestIntact store.slots } := by
  unfold readBestNvsSlot considerSlot readSlot bestIntact considerBestSlot
  rcases store.active with _ | name
  · cases a : store.slots .a <;> cases b : store.slots .b <;> simp [intactBlob]
  · cases name <;> cases a : store.slots .a <;> cases b : store.slots .b <;> simp [intactBlob, a, b]

theorem bestIntact_slot {slots : SlotName → Slot} {name : SlotName} {blob : SlotBlob}
    (found : bestIntact slots = some (name, blob)) : slots name = .intact blob := by
  unfold bestIntact at found
  cases a : slots .a <;> cases b : slots .b <;> simp only [a, b, intactBlob] at found <;> grind

theorem bestIntact_some {slots : SlotName → Slot} {name : SlotName} {blob : SlotBlob}
    (intact : slots name = .intact blob) : bestIntact slots ≠ none := by
  unfold bestIntact
  intro nothing
  cases a : slots .a <;> cases b : slots .b <;> cases name <;>
    simp only [a, b, intactBlob] at nothing intact <;> grind

theorem live_of_active {store : ProvisionStore} {name : SlotName} {blob : SlotBlob}
    (active : store.active = some name) (intact : store.slots name = .intact blob) :
    store.live = some (name, blob) := by
  have some_best := bestIntact_some intact
  unfold live selectLiveSlot
  rw [readBest_eq]
  cases best : bestIntact store.slots with
  | none => exact absurd best some_best
  | some found => simp [active, intact, intactBlob]

theorem load_of_active {store : ProvisionStore} {name : SlotName} {blob : SlotBlob}
    (active : store.active = some name) (intact : store.slots name = .intact blob) :
    store.load = .ok blob.config := by
  simp only [load, live_of_active active intact]

theorem load_nothing {store : ProvisionStore} (nothing : bestIntact store.slots = none) :
    store.load = .error .nvsNotFound := by
  simp only [load, live, readBest_eq, selectLiveSlot, nothing]

theorem leave_active (store : ProvisionStore) (name : SlotName) (blob : SlotBlob) (left : Left) :
    (store.leave name blob left).active = store.active := by
  cases left <;> rfl

theorem leave_other (store : ProvisionStore) {name n : SlotName} (blob : SlotBlob) (left : Left)
    (ne : n ≠ name) : (store.leave name blob left).slots n = store.slots n := by
  cases left with
  | old => rfl
  | new => exact setSlot_other store _ ne
  | corrupt => exact setSlot_other store _ ne

def faultLeft : SaveFault → Option Left
  | .slotWrite left | .slotCommit left | .readback left => some left
  | .activeCommit => some .new
  | _ => none

inductive SlotSaved (store : ProvisionStore) (inUse : Option (SlotName × SlotBlob))
    (config : ProvisionConfig) : SaveFault → ProvisionStore × SaveOutcome → Prop where
  | refused {fault : SaveFault} (invalid : validate config ≠ .ok) :
      SlotSaved store inUse config fault (store, .error .invalidArg)
  | failed {fault : SaveFault} {blob : SlotBlob} {left : Left} {err : EspErr}
      (valid : validate config = .ok)
      (encoded : encodeBlob config (nextGeneration inUse) = .ok blob)
      (leaves : faultLeft fault = some left) :
      SlotSaved store inUse config fault (store.leave (inactiveSlot inUse) blob left, .error err)
  | powerLost {blob : SlotBlob} (valid : validate config = .ok)
      (encoded : encodeBlob config (nextGeneration inUse) = .ok blob) :
      SlotSaved store inUse config .powerAfterSlotCommit
        (store.setSlot (inactiveSlot inUse) (.intact blob), .powerLost)
  | saved {fault : SaveFault} {blob : SlotBlob} (valid : validate config = .ok)
      (encoded : encodeBlob config (nextGeneration inUse) = .ok blob)
      (works : faultLeft fault = none) (powered : fault ≠ .powerAfterSlotCommit) :
      SlotSaved store inUse config fault
        ((store.setSlot (inactiveSlot inUse) (.intact blob)).setActive (inactiveSlot inUse), .ok)

theorem saveSlot_saved (store : ProvisionStore) (inUse : Option (SlotName × SlotBlob))
    (config : ProvisionConfig) (fault : SaveFault) :
    SlotSaved store inUse config fault (store.saveSlot inUse config fault) := by
  unfold saveSlot
  cases encoded : encodeBlob config (nextGeneration inUse) with
  | error err =>
    have invalid : validate config ≠ .ok := by
      intro valid
      simp [encodeBlob, valid] at encoded
    have refusal : err = .invalidArg := by
      simpa [encodeBlob, invalid, eq_comm] using encoded
    subst refusal
    exact .refused invalid
  | ok blob =>
    have valid : validate config = .ok := by
      by_contra invalid
      simp [encodeBlob, invalid] at encoded
    have numbered := (encodeBlob_ok encoded).2
    cases fault with
    | slotWrite left => exact .failed valid encoded rfl
    | slotCommit left => exact .failed valid encoded rfl
    | readback left => exact .failed valid encoded rfl
    | powerAfterSlotCommit => exact .powerLost valid encoded
    | activeCommit =>
      simp only [readSlot, setSlot_same, numbered, reduceCtorEq, ne_eq, not_true_eq_false,
        ↓reduceIte]
      have landed : faultLeft .activeCommit = some .new := rfl
      exact .failed valid encoded landed
    | none | promotion | powerAfterPromotion =>
      simp only [readSlot, setSlot_same, numbered, reduceCtorEq, ne_eq, not_true_eq_false,
        ↓reduceIte]
      exact .saved valid encoded rfl (by decide)

theorem inactiveSlot_some (name : SlotName) (blob : SlotBlob) :
    inactiveSlot (some (name, blob)) ≠ name := by
  cases name <;> simp [inactiveSlot]

theorem load_slot_saved {store after : ProvisionStore} {name : SlotName} {blob : SlotBlob}
    {config : ProvisionConfig} {fault : SaveFault} {outcome : SaveOutcome}
    (active : store.active = some name) (intact : store.slots name = .intact blob)
    (saved : SlotSaved store (some (name, blob)) config fault (after, outcome)) :
    after.load = if outcome = .ok then .ok (withCurrentSchema config) else .ok blob.config := by
  have apart := inactiveSlot_some name blob
  cases saved with
  | refused invalid => exact load_of_active active intact
  | failed valid encoded leaves =>
    apply load_of_active
    · rw [leave_active, active]
    · rw [leave_other store _ _ apart.symm, intact]
  | @powerLost written valid encoded =>
    have kept : (store.setSlot (inactiveSlot (some (name, blob))) (.intact written)).slots name =
        .intact blob := by
      rw [setSlot_other store _ apart.symm, intact]
    exact load_of_active active kept
  | @saved _ written valid encoded works powered =>
    rw [← (encodeBlob_ok encoded).1]
    exact load_of_active rfl (setSlot_same store (inactiveSlot (some (name, blob))) (.intact written))

/-- What a save may leave to be loaded, `before` having been loaded so far. -/
def KeepsAfter (before : Except EspErr ProvisionConfig) (config : ProvisionConfig) :
    ProvisionStore × SaveOutcome → Prop
  | (after, .ok) => after.load = .ok (withCurrentSchema config)
  | (after, .error _) => after.load = before
  | (after, .powerLost) => after.load = before ∨ after.load = .ok (withCurrentSchema config)

def SaveKeeps (store : ProvisionStore) (config : ProvisionConfig) (fault : SaveFault) : Prop :=
  KeepsAfter store.load config (store.saveNvsAtomic config fault)

/-- Past the promotion, the fault or the refusal that leaves the promoted blob in use. -/
def ShowsPromoted (blob : SlotBlob) (config : ProvisionConfig) : SaveFault → Prop
  | .none => validate config ≠ .ok
  | .promotion => False
  | .powerAfterPromotion => blob.config ≠ withCurrentSchema config
  | .powerAfterSlotCommit => validate config ≠ .ok ∨ blob.config ≠ withCurrentSchema config
  | .slotWrite _ | .slotCommit _ | .readback _ | .activeCommit => True

/-- The first slot ever written can be loaded although its save failed. -/
def ShowsFirst (store : ProvisionStore) (config : ProvisionConfig) (fault : SaveFault) : Prop :=
  bestIntact store.slots = none ∧ validate config = .ok ∧ faultLeft fault = some .new

theorem load_first {store : ProvisionStore} {name : SlotName} (blob : SlotBlob)
    (nothing : bestIntact store.slots = none) :
    (store.setSlot name (.intact blob)).load = .ok blob.config := by
  cases best : bestIntact (store.setSlot name (.intact blob)).slots with
  | none => exact absurd best (bestIntact_some (setSlot_same store name _))
  | some found =>
    have only : ∀ n other, (store.setSlot name (.intact blob)).slots n = .intact other →
        other = blob := by
      intro n other intact
      by_cases same : n = name
      · subst n
        rw [setSlot_same] at intact
        exact (Slot.intact.inj intact).symm
      · rw [setSlot_other store _ same] at intact
        exact absurd nothing (bestIntact_some intact)
    have loaded := only found.1 found.2 (bestIntact_slot best)
    simp only [load, live, readBest_eq, selectLiveSlot, best, setSlot_active]
    cases active : store.active with
    | none => simp [loaded]
    | some n =>
      cases held : (store.setSlot name (.intact blob)).slots n with
      | absent => simp [held, intactBlob, loaded]
      | corrupt => simp [held, intactBlob, loaded]
      | intact other => simp [held, intactBlob, only n other held]

theorem load_corrupted {store : ProvisionStore} {name : SlotName}
    (nothing : bestIntact store.slots = none) :
    (store.setSlot name .corrupt).load = store.load := by
  rw [load_nothing nothing]
  apply load_nothing
  cases best : bestIntact (store.setSlot name .corrupt).slots with
  | none => rfl
  | some found =>
    have intact := bestIntact_slot best
    by_cases same : found.1 = name
    · rw [same, setSlot_same] at intact
      cases intact
    · rw [setSlot_other store _ same] at intact
      exact absurd nothing (bestIntact_some intact)

theorem keeps_first {store : ProvisionStore} (nothing : bestIntact store.slots = none)
    (config : ProvisionConfig) (fault : SaveFault) :
    KeepsAfter store.load config (store.saveSlot none config fault) ↔
      ¬ (validate config = .ok ∧ faultLeft fault = some .new) := by
  have saved := saveSlot_saved store none config fault
  generalize store.saveSlot none config fault = result at saved
  cases saved with
  | refused invalid => simp [KeepsAfter, invalid]
  | @failed _ blob left _ valid encoded leaves =>
    simp only [KeepsAfter, valid, leaves, true_and, Option.some.injEq]
    cases left with
    | old => simp [leave]
    | corrupt => simp [leave, load_corrupted nothing]
    | new => simp [leave, load_first blob nothing, load_nothing nothing]
  | @powerLost blob valid encoded =>
    simp [KeepsAfter, load_first blob nothing, (encodeBlob_ok encoded).1, faultLeft]
  | @saved _ blob valid encoded works powered =>
    have same := setSlot_same store (inactiveSlot none) (.intact blob)
    have loaded : ((store.setSlot (inactiveSlot none) (.intact blob)).setActive
        (inactiveSlot none)).load = .ok blob.config := load_of_active rfl same
    simp [KeepsAfter, loaded, (encodeBlob_ok encoded).1, works]

theorem keeps_in_use {store : ProvisionStore} {name : SlotName} {blob : SlotBlob}
    (active : store.active = some name) (intact : store.slots name = .intact blob)
    (before : Except EspErr ProvisionConfig) (config : ProvisionConfig) {fault : SaveFault}
    (past : fault ≠ .promotion ∧ fault ≠ .powerAfterPromotion ∨ before = .ok blob.config) :
    KeepsAfter before config (store.saveSlot (some (name, blob)) config fault) ↔
      before = .ok blob.config ∨ ¬ ShowsPromoted blob config fault := by
  have saved := saveSlot_saved store (some (name, blob)) config fault
  generalize store.saveSlot (some (name, blob)) config fault = result at saved
  have loaded := load_slot_saved active intact saved
  cases saved with
  | refused invalid =>
    simp only [reduceCtorEq, ↓reduceIte] at loaded
    simp only [KeepsAfter, loaded]
    cases fault <;> simp_all [ShowsPromoted, eq_comm]
  | failed valid encoded leaves =>
    simp only [reduceCtorEq, ↓reduceIte] at loaded
    simp only [KeepsAfter, loaded]
    cases fault <;> simp_all [ShowsPromoted, faultLeft, eq_comm]
  | powerLost valid encoded =>
    simp only [reduceCtorEq, ↓reduceIte] at loaded
    simp only [KeepsAfter, loaded, ShowsPromoted]
    simp [valid, eq_comm]
  | saved valid encoded works powered =>
    simp only [↓reduceIte] at loaded
    simp only [KeepsAfter, loaded]
    cases fault <;> simp_all [ShowsPromoted, faultLeft]

theorem promotion_none {store : ProvisionStore} {name : SlotName} {blob : SlotBlob}
    (best : bestIntact store.slots = some (name, blob))
    (none : promotion store.readBestNvsSlot = none) :
    store.active = some name ∧ store.slots name = .intact blob := by
  refine ⟨?_, bestIntact_slot best⟩
  simp only [promotion, readBest_eq, best] at none
  split at none
  · cases none
  · next in_use =>
    rw [not_or, not_or, not_not] at in_use
    exact in_use.2.2

theorem promotion_some {store : ProvisionStore} {name : SlotName} {blob : SlotBlob}
    (promoted : promotion store.readBestNvsSlot = some (name, blob)) :
    bestIntact store.slots = some (name, blob) := by
  simp only [promotion, readBest_eq] at promoted
  cases best : bestIntact store.slots with
  | none => simp [best] at promoted
  | some found =>
    simp only [best] at promoted
    split at promoted
    · simpa using promoted
    · cases promoted

def liveGeneration (store : ProvisionStore) : Option UInt32 :=
  store.live.map fun found => found.2.generation

def PromotesOver (store : ProvisionStore) (blob : SlotBlob) : Prop :=
  liveGeneration store ≠ some 0xFFFFFFFF ∧
    (∃ name, promotion store.readBestNvsSlot = some (name, blob)) ∧ store.load ≠ .ok blob.config

theorem not_promoting {store : ProvisionStore} (none : promotion store.readBestNvsSlot = none)
    (blob : SlotBlob) : ¬ PromotesOver store blob := by
  intro promotes
  obtain ⟨name, found⟩ := promotes.2.1
  rw [none] at found
  cases found

theorem keeps_without_promotion {store : ProvisionStore} (config : ProvisionConfig)
    (fault : SaveFault) (none : promotion store.readBestNvsSlot = none) :
    KeepsAfter store.load config
        (store.saveSlot (selectLiveSlot store.readBestNvsSlot) config fault) ↔
      ¬ ShowsFirst store config fault := by
  cases best : bestIntact store.slots with
  | none =>
    have unused : selectLiveSlot store.readBestNvsSlot = .none := by
      simp [readBest_eq, selectLiveSlot, best]
    simp only [unused, keeps_first best, ShowsFirst, best, true_and]
  | some found =>
    obtain ⟨name, blob⟩ := found
    obtain ⟨active, intact⟩ := promotion_none best none
    have in_use : selectLiveSlot store.readBestNvsSlot = some (name, blob) :=
      live_of_active active intact
    have loads := load_of_active active intact
    rw [in_use, keeps_in_use active intact store.load config (Or.inr loads)]
    simp [loads, ShowsFirst, best]

theorem keeps_with_promotion {store : ProvisionStore} {name : SlotName} {blob : SlotBlob}
    (config : ProvisionConfig) (fault : SaveFault)
    (promoted : promotion store.readBestNvsSlot = some (name, blob)) :
    KeepsAfter store.load config
        (if fault = .promotion then (store, .error .fail)
        else if fault = .powerAfterPromotion then (store.setActive name, .powerLost)
        else (store.setActive name).saveSlot (some (name, blob)) config fault) ↔
      store.load = .ok blob.config ∨ ¬ ShowsPromoted blob config fault := by
  have intact := bestIntact_slot (promotion_some promoted)
  have active := setActive_active store name
  by_cases stays : fault = .promotion
  · subst fault
    simp [KeepsAfter, ShowsPromoted]
  · by_cases dark : fault = .powerAfterPromotion
    · subst fault
      simp [KeepsAfter, ShowsPromoted, load_of_active active intact, eq_comm]
    · simp only [stays, dark, ↓reduceIte]
      exact keeps_in_use active intact store.load config (Or.inl ⟨stays, dark⟩)

theorem save_keeps_promoted {store : ProvisionStore} {name : SlotName} {blob : SlotBlob}
    (config : ProvisionConfig) (fault : SaveFault)
    (room : liveGeneration store ≠ some 0xFFFFFFFF)
    (promoted : promotion store.readBestNvsSlot = some (name, blob)) :
    SaveKeeps store config fault ↔
      store.load = .ok blob.config ∨ ¬ ShowsPromoted blob config fault := by
  unfold liveGeneration live at room
  unfold SaveKeeps saveNvsAtomic
  simp only [room, ↓reduceIte, promoted]
  exact keeps_with_promotion config fault promoted

theorem save_keeps_unpromoted {store : ProvisionStore} (config : ProvisionConfig)
    (fault : SaveFault) (room : liveGeneration store ≠ some 0xFFFFFFFF)
    (none : promotion store.readBestNvsSlot = none) :
    SaveKeeps store config fault ↔ ¬ ShowsFirst store config fault := by
  unfold liveGeneration live at room
  unfold SaveKeeps saveNvsAtomic
  simp only [room, ↓reduceIte, none]
  exact keeps_without_promotion config fault none

theorem save_exhausted (store : ProvisionStore) (config : ProvisionConfig) (fault : SaveFault)
    (exhausted : liveGeneration store = some 0xFFFFFFFF) :
    store.saveNvsAtomic config fault = (store, .error .invalidState) := by
  unfold liveGeneration live at exhausted
  unfold saveNvsAtomic
  simp only [exhausted, ↓reduceIte]

/-- A save keeps what is loaded unless it fails after a promotion that changes it,
    or fails with the first blob ever written left in its slot. -/
theorem save_keeps_iff (store : ProvisionStore) (config : ProvisionConfig) (fault : SaveFault) :
    SaveKeeps store config fault ↔
      ¬ ShowsFirst store config fault ∧
        ∀ blob, PromotesOver store blob → ¬ ShowsPromoted blob config fault := by
  by_cases exhausted : liveGeneration store = some 0xFFFFFFFF
  · have occupied : bestIntact store.slots ≠ none := by
      intro nothing
      simp [liveGeneration, live, readBest_eq, selectLiveSlot, nothing] at exhausted
    simp [SaveKeeps, save_exhausted store config fault exhausted, KeepsAfter, ShowsFirst, occupied,
      PromotesOver, exhausted]
  · cases promoted : promotion store.readBestNvsSlot with
    | none =>
      rw [save_keeps_unpromoted config fault exhausted promoted]
      simp [not_promoting promoted]
    | some found =>
      obtain ⟨name, blob⟩ := found
      have written : ¬ ShowsFirst store config fault := by
        intro first
        rw [ShowsFirst, promotion_some promoted] at first
        cases first.1
      have unique : ∀ other, PromotesOver store other ↔
          other = blob ∧ store.load ≠ .ok blob.config := by
        intro other
        simp only [PromotesOver, promoted]
        grind
      simp only [save_keeps_promoted config fault exhausted promoted, written, unique]
      grind

theorem load_valid {store : ProvisionStore} {config : ProvisionConfig}
    (loaded : store.load = .ok config) :
    validate config = .ok ∧ config.schemaVersion = currentSchemaVersion := by
  unfold load at loaded
  cases live : store.live with
  | none => simp [live] at loaded
  | some found =>
    simp only [live, Except.ok.injEq] at loaded
    subst loaded
    exact ⟨found.2.valid, found.2.schema⟩

theorem saveSlot_without_fault (store : ProvisionStore) (inUse : Option (SlotName × SlotBlob))
    {config : ProvisionConfig} (valid : validate config = .ok) :
    (store.saveSlot inUse config .none).2 = .ok ∧
      (store.saveSlot inUse config .none).1.load = .ok (withCurrentSchema config) := by
  have saved := saveSlot_saved store inUse config .none
  generalize store.saveSlot inUse config .none = result at saved
  cases saved with
  | refused invalid => exact absurd valid invalid
  | failed valid encoded leaves => cases leaves
  | @saved _ blob valid encoded works powered =>
    refine ⟨rfl, ?_⟩
    rw [← (encodeBlob_ok encoded).1]
    exact load_of_active rfl (setSlot_same store (inactiveSlot inUse) (.intact blob))

theorem save_without_fault (store : ProvisionStore) {config : ProvisionConfig}
    (valid : validate config = .ok) (room : liveGeneration store ≠ some 0xFFFFFFFF) :
    (store.saveNvsAtomic config .none).2 = .ok ∧
      (store.saveNvsAtomic config .none).1.load = .ok (withCurrentSchema config) := by
  unfold liveGeneration live at room
  unfold saveNvsAtomic
  simp only [room, ↓reduceIte]
  cases promotion store.readBestNvsSlot with
  | none => exact saveSlot_without_fault store _ valid
  | some found => exact saveSlot_without_fault (store.setActive found.1) (some found) valid

def GenerationsAtMost (store : ProvisionStore) (bound : Nat) : Prop :=
  ∀ name blob, store.slots name = .intact blob → blob.generation.toNat ≤ bound

theorem live_slot {store : ProvisionStore} {name : SlotName} {blob : SlotBlob}
    (live : store.live = some (name, blob)) : store.slots name = .intact blob := by
  unfold ProvisionStore.live selectLiveSlot at live
  simp only [readBest_eq] at live
  cases best : bestIntact store.slots with
  | none => simp [best] at live
  | some found =>
    cases active : store.active with
    | none =>
      simp only [best, active, Option.bind_none, Option.some.injEq] at live
      subst live
      exact bestIntact_slot best
    | some n =>
      cases slot : store.slots n with
      | absent | corrupt =>
        simp only [best, active, slot, intactBlob, Option.bind_some, Option.some.injEq] at live
        subst live
        exact bestIntact_slot best
      | intact held =>
        simp only [best, active, slot, intactBlob, Option.bind_some, Option.some.injEq,
          Prod.mk.injEq] at live
        obtain ⟨rfl, rfl⟩ := live
        exact slot

theorem room_of_generations {store : ProvisionStore} {bound : Nat}
    (within : GenerationsAtMost store bound) (small : bound < 2 ^ 32 - 1) :
    liveGeneration store ≠ some 0xFFFFFFFF := by
  intro exhausted
  unfold liveGeneration at exhausted
  cases live : store.live with
  | none => simp [live] at exhausted
  | some found =>
    simp only [live, Option.map_some, Option.some.injEq] at exhausted
    have limit := within found.1 found.2 (live_slot live)
    rw [exhausted] at limit
    have last : (0xFFFFFFFF : UInt32).toNat = 2 ^ 32 - 1 := rfl
    omega

theorem generations_saveSlot {store : ProvisionStore} {bound : Nat}
    {inUse : Option (SlotName × SlotBlob)} (within : GenerationsAtMost store bound)
    (held : ∀ name blob, inUse = some (name, blob) → store.slots name = .intact blob)
    (config : ProvisionConfig) :
    GenerationsAtMost (store.saveSlot inUse config .none).1 (bound + 1) := by
  have next : (nextGeneration inUse).toNat ≤ bound + 1 := by
    cases inUse with
    | none => exact Nat.succ_le_succ (Nat.zero_le _)
    | some found =>
      have limit := within found.1 found.2 (held found.1 found.2 rfl)
      simp only [nextGeneration, UInt32.toNat_add]
      exact Nat.le_trans (Nat.mod_le _ _) (Nat.succ_le_succ limit)
  have saved := saveSlot_saved store inUse config .none
  generalize store.saveSlot inUse config .none = result at saved
  intro name blob intact
  cases saved with
  | refused invalid => exact Nat.le_succ_of_le (within name blob intact)
  | failed valid encoded leaves => cases leaves
  | @saved _ written valid encoded works powered =>
    by_cases same : name = inactiveSlot inUse
    · subst same
      rw [setActive_slots, setSlot_same, Slot.intact.injEq] at intact
      rw [← intact, (encodeBlob_ok encoded).2]
      exact next
    · rw [setActive_slots, setSlot_other store _ same] at intact
      exact Nat.le_succ_of_le (within name blob intact)

theorem generations_save {store : ProvisionStore} {bound : Nat}
    (within : GenerationsAtMost store bound) (small : bound < 2 ^ 32 - 1)
    (config : ProvisionConfig) :
    GenerationsAtMost (store.saveNvsAtomic config .none).1 (bound + 1) := by
  have room := room_of_generations within small
  unfold liveGeneration live at room
  unfold saveNvsAtomic
  simp only [room, ↓reduceIte]
  cases promoted : promotion store.readBestNvsSlot with
  | none => exact generations_saveSlot within (fun _ _ found => live_slot found) config
  | some found =>
    have held : ∀ name blob, some found = some (name, blob) →
        (store.setActive found.1).slots name = .intact blob := by
      intro name blob same
      obtain rfl := Option.some.inj same
      have best : bestIntact store.slots = some (name, blob) := promotion_some promoted
      exact bestIntact_slot best
    have kept : GenerationsAtMost (store.setActive found.1) bound := within
    exact generations_saveSlot kept held config

section FailedSave

def save (store : ProvisionStore) (attempt : ProvisionConfig × SaveFault) : ProvisionStore :=
  (store.saveNvsAtomic attempt.1 attempt.2).1

theorem save_first {config : ProvisionConfig} {blob : SlotBlob}
    (encoded : encodeBlob config 1 = .ok blob) :
    save empty (config, .none) = (empty.setSlot .a (.intact blob)).setActive .a := by
  simp only [save, saveNvsAtomic, readBest_eq, bestIntact, empty, intactBlob, selectLiveSlot,
    promotion, saveSlot, inactiveSlot, nextGeneration, encoded, readSlot, setSlot_same]
  simp [(encodeBlob_ok encoded).2]

theorem save_second {store : ProvisionStore} {config : ProvisionConfig} {first second : SlotBlob}
    (active : store.active = some .a) (held : store.slots .a = .intact first)
    (free : store.slots .b = .absent) (room : first.generation ≠ 0xFFFFFFFF)
    (encoded : encodeBlob config (first.generation + 1) = .ok second) :
    save store (config, .activeCommit) = store.setSlot .b (.intact second) := by
  simp only [save, saveNvsAtomic, readBest_eq, bestIntact, active, held, free, intactBlob,
    selectLiveSlot, promotion, saveSlot, inactiveSlot, nextGeneration, readSlot, setSlot_same]
  simp [room, held, encoded, (encodeBlob_ok encoded).2]

/-- After a save whose active commit failed, a second failure brings back the
    configuration of the first one. -/
theorem failure_after_failure {c1 c2 c3 : ProvisionConfig} (valid1 : validate c1 = .ok)
    (valid2 : validate c2 = .ok) (differ : withCurrentSchema c1 ≠ withCurrentSchema c2) :
    ¬ SaveKeeps (run save empty [(c1, .none), (c2, .activeCommit)]) c3 .activeCommit := by
  obtain ⟨first, encoded1⟩ := encodeBlob_valid valid1 1
  obtain ⟨holds1, generation1⟩ := encodeBlob_ok encoded1
  obtain ⟨second, encoded2⟩ := encodeBlob_valid valid2 (first.generation + 1)
  obtain ⟨holds2, generation2⟩ := encodeBlob_ok encoded2
  have room : first.generation ≠ 0xFFFFFFFF := by
    rw [generation1]
    decide
  rw [run_cons, run_cons, run_nil, save_first encoded1]
  have free : ((empty.setSlot .a (.intact first)).setActive .a).slots .b = .absent := rfl
  rw [save_second rfl rfl free room encoded2]
  have newer : first.generation ≤ second.generation := by
    rw [generation2, generation1]
    decide
  have in_use : (((empty.setSlot .a (.intact first)).setActive .a).setSlot .b
      (.intact second)).live = some (.a, first) := live_of_active rfl rfl
  have promoted : promotion (((empty.setSlot .a (.intact first)).setActive .a).setSlot .b
      (.intact second)).readBestNvsSlot = some (.b, second) := by
    simp [promotion, readBest_eq, bestIntact, setSlot, setActive, intactBlob, newer]
  rw [save_keeps_promoted c3 .activeCommit (by simpa [liveGeneration, in_use] using room) promoted]
  intro keeps
  rcases keeps with same | quiet
  · simp only [load, in_use, holds1, holds2, Except.ok.injEq] at same
    exact differ same
  · exact quiet trivial

/-- Port 1 is saved, port 2 fails at its last commit; when port 3 fails there as
    well, port 2 is loaded from then on. -/
theorem failed_port_is_loaded :
    ¬ SaveKeeps (run save empty [(sample 1, .none), (sample 2, .activeCommit)]) (sample 3)
      .activeCommit := by
  apply failure_after_failure (sample_valid (by decide)) (sample_valid (by decide))
  intro same
  exact absurd (congrArg mqttPort same) (show (1 : UInt16) ≠ 2 by decide)

end FailedSave

end ProvisionStore
