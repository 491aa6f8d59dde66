import IosAncs.Foundation.Runs
import IosAncs.HomeAssistant.Runtime

/-!
The saved notification of an entry. A listener of the runtime saves what arrives live; the
setup saves once what the runtime shows after its start, unless a notification was restored.
The store writes what it was given last. The source is `__init__.py`.
-/
open PayloadValue Runs

/-- The listeners of an entry: `persist_notification`, and those of its entities. -/
inductive EntryListener where
  | persist
  | entity (index : Nat)
deriving DecidableEq

/-- A `Store`: the data of its file, and of the last save that has not been written yet. -/
structure SnapshotStore where
  file : Option PayloadValue
  scheduled : Option Mapping

namespace SnapshotStore

/-- `async_delay_save` and `async_save` -/
def schedule (store : SnapshotStore) (snapshot : Mapping) : SnapshotStore :=
  { store with scheduled := some snapshot }

def write (store : SnapshotStore) : SnapshotStore :=
  match store.scheduled with
  | some snapshot => { file := some (.object snapshot), scheduled := none }
  | none => store

end SnapshotStore

structure AncsEntry where
  runtime : AncsRuntime EntryListener
  store : SnapshotStore

namespace AncsEntry

/-- The notifications that `persist_notification` is called with in a step of the runtime. -/
def persisted (before after : AncsRuntime EntryListener) : List Mapping :=
  ((after.deliveries.drop before.deliveries.length).filter fun delivery =>
    delivery.listener = .persist).map fun delivery => delivery.arrived.notification

def moved (entry : AncsEntry) (runtime : AncsRuntime EntryListener) : AncsEntry where
  runtime
  store := (persisted entry.runtime runtime).foldl SnapshotStore.schedule entry.store

/-- What `restore_notification` answers in a new runtime. -/
def restores (stored : Option PayloadValue) : Bool :=
  match stored with
  | none => false
  | some data => (parseNotificationData data (AncsRuntime.init : AncsRuntime EntryListener).seen).2.isSome

/-- `async_setup_entry` up to the start of the runtime. -/
def load (stored : Option PayloadValue) : AncsEntry where
  runtime := (AncsRuntime.init.restoreNotification stored).addNotificationListener .persist false
  store := { file := stored, scheduled := none }

/-- The save of `async_setup_entry` after the start. -/
def saveCurrent (stored : Option PayloadValue) (entry : AncsEntry) : AncsEntry :=
  if restores stored then entry
  else
    match entry.runtime.latestNotification with
    | some current => { entry with store := entry.store.schedule current }
    | none => entry

inductive SourceInput where
  | stateChange (newState : Option SourceState)
  | register (index : Nat) (replayPending : Bool)
  | remove (index : Nat)
  | write

def sourceStep (entry : AncsEntry) : SourceInput → AncsEntry
  | .stateChange newState =>
    entry.moved (AncsSourceRuntime.handleSourceStateChange entry.runtime newState)
  | .register index replayPending =>
    entry.moved (entry.runtime.addNotificationListener (.entity index) replayPending)
  | .remove index => entry.moved (entry.runtime.removeListener (.entity index))
  | .write => { entry with store := entry.store.write }

/-- The setup of an entry of a source entity. Its runtime starts without waiting. -/
def sourceSetup (stored : Option PayloadValue) (currentState : Option SourceState) : AncsEntry :=
  let entry := load stored
  saveCurrent stored (entry.moved (AncsSourceRuntime.start entry.runtime currentState))

inductive MqttInput where
  | notification (payload : Option PayloadValue) (retain : Bool)
  | availability (payload : String)
  | register (index : Nat) (replayPending : Bool)
  | remove (index : Nat)
  | write

def mqttStep (entry : AncsEntry) : MqttInput → AncsEntry
  | .notification payload retain =>
    entry.moved (AncsMqttRuntime.handleNotification entry.runtime payload retain)
  | .availability payload => entry.moved (AncsMqttRuntime.handleAvailability entry.runtime payload)
  | .register index replayPending =>
    entry.moved (entry.runtime.addNotificationListener (.entity index) replayPending)
  | .remove index => entry.moved (entry.runtime.removeListener (.entity index))
  | .write => { entry with store := entry.store.write }

/-- The setup of an entry of a base topic, with what happens while it subscribes. -/
def mqttSetup (stored : Option PayloadValue) (during : List MqttInput) : AncsEntry :=
  saveCurrent stored (run mqttStep (load stored) during)

/-- What the file holds once the pending saves have been written. -/
def snapshot (entry : AncsEntry) : Option PayloadValue := entry.store.write.file

def Saved (entry : AncsEntry) : Prop :=
  entry.snapshot = entry.runtime.latestNotification.map .object

def Listens (entry : AncsEntry) : Prop := .persist ∈ entry.runtime.notificationListeners

structure Quiet (entry next : AncsEntry) : Prop where
  listens : Listens next
  latest : next.runtime.latestNotification = entry.runtime.latestNotification
  snapshot : next.snapshot = entry.snapshot

structure Live (next : AncsEntry) (notification : Mapping) : Prop where
  listens : Listens next
  latest : next.runtime.latestNotification = some notification
  snapshot : next.snapshot = some (.object notification)

structure Retained (entry next : AncsEntry) (notification : Mapping) : Prop where
  listens : Listens next
  before : entry.runtime.latestNotification = none
  latest : next.runtime.latestNotification = some notification
  snapshot : next.snapshot = entry.snapshot
  admitted : (admissible notification).isSome = true

theorem parse_refused {data : PayloadValue} {seen : RelayIdWindow}
    (refused : (parseNotificationData data seen).2 = none) :
    (parseNotificationData data seen).1 = seen := by
  unfold parseNotificationData at refused ⊢
  split at refused
  · next entries =>
    split at refused
    · simp
    · next id checked =>
      split at refused
      · next seen_ => simp [seen_]
      · cases refused
  · rfl

theorem parse_accepted {data : PayloadValue} {seen : RelayIdWindow} {notification : Mapping}
    (accepted : (parseNotificationData data seen).2 = some notification) :
    data = .object notification ∧ ∃ id, admissible notification = some id ∧ id ∉ seen.ids ∧
      (parseNotificationData data seen).1 = seen.add id := by
  unfold parseNotificationData at accepted ⊢
  split at accepted
  · next entries =>
    split at accepted
    · cases accepted
    · next id checked =>
      split at accepted
      · cases accepted
      · next new =>
        cases accepted
        exact ⟨rfl, id, checked, new, by simp [new]⟩
  · cases accepted

theorem admitted_of_parsed {payload : Option PayloadValue} {seen seen' : RelayIdWindow}
    {notification : Mapping} (parsed : parseNotification payload seen = (seen', some notification)) :
    (admissible notification).isSome = true := by
  cases payload with
  | none => cases parsed
  | some data =>
    obtain ⟨_, id, admitted, _⟩ := parse_accepted (congrArg Prod.snd parsed)
    exact Option.isSome_of_eq_some admitted

theorem snapshot_write (entry : AncsEntry) :
    snapshot { entry with store := entry.store.write } = entry.snapshot := by
  unfold snapshot SnapshotStore.write
  cases scheduled : entry.store.scheduled with
  | none => simp [scheduled]
  | some snapshot => rfl

theorem moved_undelivered {entry : AncsEntry} {runtime : AncsRuntime EntryListener}
    (same : runtime.deliveries = entry.runtime.deliveries) :
    entry.moved runtime = { runtime, store := entry.store } := by
  simp [moved, persisted, same]

theorem quiet_moved {entry : AncsEntry} {runtime : AncsRuntime EntryListener}
    (deliveries : runtime.deliveries = entry.runtime.deliveries)
    (latest : runtime.latestNotification = entry.runtime.latestNotification)
    (listens : .persist ∈ runtime.notificationListeners) : Quiet entry (entry.moved runtime) := by
  rw [moved_undelivered deliveries]
  exact ⟨listens, latest, rfl⟩

theorem retained_moved {entry : AncsEntry} {runtime : AncsRuntime EntryListener} {notification : Mapping}
    (deliveries : runtime.deliveries = entry.runtime.deliveries)
    (before : entry.runtime.latestNotification = none)
    (latest : runtime.latestNotification = some notification)
    (listens : .persist ∈ runtime.notificationListeners)
    (admitted : (admissible notification).isSome = true) :
    Retained entry (entry.moved runtime) notification := by
  rw [moved_undelivered deliveries]
  exact ⟨listens, before, latest, rfl, admitted⟩

theorem schedule_all (store : SnapshotStore) {notification : Mapping} {snapshots : List Mapping}
    (some_ : snapshots ≠ []) (same : ∀ snapshot ∈ snapshots, snapshot = notification) :
    snapshots.foldl SnapshotStore.schedule store = store.schedule notification := by
  induction snapshots generalizing store with
  | nil => exact absurd rfl some_
  | cons first rest ih =>
    obtain ⟨rfl, others⟩ := List.forall_mem_cons.mp same
    cases rest with
    | nil => rfl
    | cons second rest => exact ih _ (List.cons_ne_nil _ _) others

theorem live_dispatch {entry : AncsEntry} (listens : Listens entry)
    {r : AncsRuntime EntryListener} (listeners : r.notificationListeners = entry.runtime.notificationListeners)
    (deliveries : r.deliveries = entry.runtime.deliveries) (notification : Mapping) :
    Live (entry.moved (r.dispatch notification)) notification := by
  have calls : persisted entry.runtime (r.dispatch notification) =
      ((r.notificationListeners.filter fun listener => listener = .persist).map
        fun _ => notification) := by
    unfold persisted AncsRuntime.dispatch
    rw [deliveries, List.drop_left, List.filter_map, List.map_map]
    rfl
  have some_ : persisted entry.runtime (r.dispatch notification) ≠ [] := by
    rw [calls, listeners, ne_eq, List.map_eq_nil_iff]
    exact List.ne_nil_of_mem (List.mem_filter.mpr ⟨listens, by simp⟩)
  have same : ∀ snapshot ∈ persisted entry.runtime (r.dispatch notification), snapshot = notification := by
    rw [calls]
    intro snapshot member
    obtain ⟨_, _, rfl⟩ := List.mem_map.mp member
    rfl
  have store := schedule_all entry.store some_ same
  constructor
  · show .persist ∈ r.notificationListeners
    rw [listeners]
    exact listens
  · rfl
  · unfold snapshot moved
    rw [store]
    rfl

theorem quiet_register {entry : AncsEntry} (listens : Listens entry) (index : Nat) (replayPending : Bool) :
    Quiet entry (entry.moved (entry.runtime.addNotificationListener (.entity index) replayPending)) := by
  have calls : persisted entry.runtime
      (entry.runtime.addNotificationListener (.entity index) replayPending) = [] := by
    cases replayPending <;> simp [persisted, AncsRuntime.addNotificationListener]
  constructor
  · have kept := List.mem_append_left [EntryListener.entity index] listens
    cases replayPending <;> exact kept
  · cases replayPending <;> rfl
  · unfold snapshot moved
    rw [calls]
    rfl

theorem quiet_remove {entry : AncsEntry} (listens : Listens entry) (index : Nat) :
    Quiet entry (entry.moved (entry.runtime.removeListener (.entity index))) :=
  quiet_moved rfl rfl ((List.mem_erase_of_ne (by simp)).mpr listens)

theorem quiet_write {entry : AncsEntry} (listens : Listens entry) :
    Quiet entry { entry with store := entry.store.write } where
  listens := listens
  latest := rfl
  snapshot := snapshot_write entry

theorem Quiet.trans {first second third : AncsEntry} (before : Quiet first second)
    (after : Quiet second third) : Quiet first third where
  listens := after.listens
  latest := after.latest.trans before.latest
  snapshot := after.snapshot.trans before.snapshot

theorem Quiet.saved {entry next : AncsEntry} (quiet : Quiet entry next) : Saved next ↔ Saved entry := by
  rw [Saved, Saved, quiet.snapshot, quiet.latest]

theorem Live.saved {next : AncsEntry} {notification : Mapping} (live : Live next notification) :
    Saved next := by
  rw [Saved, live.snapshot, live.latest]
  rfl

section Load
variable {stored : Option PayloadValue}

theorem load_refused (refused : restores stored = false) :
    (load stored).runtime.latestNotification = none ∧
      (load stored).runtime.seen = (AncsRuntime.init : AncsRuntime EntryListener).seen := by
  unfold restores at refused
  unfold load AncsRuntime.restoreNotification
  split at refused
  · exact ⟨rfl, rfl⟩
  · next data =>
    have none_ := Option.not_isSome_iff_eq_none.mp (Bool.eq_false_iff.mp refused)
    have seen := parse_refused none_
    dsimp only
    split
    · next parsed =>
      rw [parsed] at seen
      exact ⟨rfl, seen⟩
    · next parsed =>
      rw [parsed] at none_
      cases none_

theorem load_restored (restored : restores stored = true) : ∃ notification id,
    stored = some (.object notification) ∧ admissible notification = some id ∧
      (load stored).runtime.latestNotification = some notification ∧
      id ∈ (load stored).runtime.seen.ids := by
  unfold restores at restored
  split at restored
  · cases restored
  · next data =>
    obtain ⟨notification, accepted⟩ := Option.isSome_iff_exists.mp restored
    obtain ⟨rfl, id, admitted, new, seen⟩ := parse_accepted accepted
    refine ⟨notification, id, rfl, admitted, ?_⟩
    unfold load AncsRuntime.restoreNotification
    dsimp only
    split
    · next parsed =>
      rw [parsed] at accepted
      cases accepted
    · next window restored parsed =>
      rw [parsed] at accepted seen
      cases accepted
      refine ⟨rfl, ?_⟩
      show id ∈ window.ids
      rw [show window = _ from seen]
      simp [RelayIdWindow.add, AncsRuntime.init, RelayIdWindow.init, defaultRelayIdWindowSize]

theorem restores_admissible {notification : Mapping}
    (admitted : (admissible notification).isSome = true) :
    restores (some (.object notification)) = true := by
  obtain ⟨id, admitted⟩ := Option.isSome_iff_exists.mp admitted
  simp [restores, parseNotificationData, admitted, AncsRuntime.init, RelayIdWindow.init]

theorem load_listens : Listens (load stored) := by
  unfold load AncsRuntime.restoreNotification Listens
  split
  · exact List.mem_cons_self
  · dsimp only
    split
    · exact List.mem_cons_self
    · exact List.mem_cons_self

theorem load_snapshot : (load stored).snapshot = stored := rfl

end Load

section Source

def shown (seen : RelayIdWindow) (state : Option SourceState) : Option Mapping :=
  match state with
  | none => none
  | some state =>
    if state.state = AncsSourceRuntime.stateUnavailable then none
    else if state.state = AncsSourceRuntime.stateUnknown then none
    else (parseNotificationData (.object (AncsSourceRuntime.notificationDataFromState state)) seen).2

def SourceArrival (entry : AncsEntry) : SourceInput → Prop
  | .stateChange newState => (shown entry.runtime.seen newState).isSome = true
  | _ => False

/-- The setup leaves a saved notification: one was restored and the source entity shows no
    other one, or none was, and one is shown or there is no file. -/
def SourceCovered (stored : Option PayloadValue) (currentState : Option SourceState) : Prop :=
  if restores stored then shown (load stored).runtime.seen currentState = none
  else stored = none ∨ (shown (load stored).runtime.seen currentState).isSome = true

theorem shown_admissible {seen : RelayIdWindow} {state : Option SourceState} {notification : Mapping}
    (shows : shown seen state = some notification) :
    ∃ id, admissible notification = some id ∧ id ∉ seen.ids := by
  unfold shown at shows
  split at shows
  · cases shows
  · split at shows
    · cases shows
    · split at shows
      · cases shows
      · obtain ⟨_, id, admitted, new, _⟩ := parse_accepted shows
        exact ⟨id, admitted, new⟩

theorem source_quiet {entry : AncsEntry} (listens : Listens entry) {input : SourceInput}
    (refused : ¬ SourceArrival entry input) : Quiet entry (sourceStep entry input) := by
  cases input with
  | stateChange newState =>
    unfold SourceArrival shown at refused
    unfold sourceStep AncsSourceRuntime.handleSourceStateChange
    cases newState with
    | none => exact quiet_moved rfl rfl listens
    | some state =>
      dsimp only at refused ⊢
      split
      · exact quiet_moved rfl rfl listens
      · next available =>
        split
        · exact quiet_moved rfl rfl listens
        · next known =>
          rw [if_neg available, if_neg known] at refused
          split
          · exact quiet_moved rfl rfl listens
          · next parsed =>
            rw [parsed] at refused
            exact absurd rfl refused
  | register index replayPending => exact quiet_register listens index replayPending
  | remove index => exact quiet_remove listens index
  | write => exact quiet_write listens

theorem source_live {entry : AncsEntry} (listens : Listens entry) {input : SourceInput}
    (arrives : SourceArrival entry input) :
    ∃ notification, Live (sourceStep entry input) notification := by
  cases input with
  | stateChange newState =>
    unfold SourceArrival shown at arrives
    unfold sourceStep AncsSourceRuntime.handleSourceStateChange
    cases newState with
    | none => cases arrives
    | some state =>
      dsimp only at arrives ⊢
      split at arrives
      · cases arrives
      · next available =>
        split at arrives
        · cases arrives
        · next known =>
          rw [if_neg available, if_neg known]
          split
          · next parsed =>
            rw [parsed] at arrives
            cases arrives
          · next seen notification parsed =>
            exact ⟨notification, live_dispatch
              (r := { entry.runtime with seen, available := some true }) listens rfl rfl notification⟩
  | register index replayPending => cases arrives
  | remove index => cases arrives
  | write => cases arrives

theorem source_listens {entry : AncsEntry} (listens : Listens entry) (input : SourceInput) :
    Listens (sourceStep entry input) := by
  by_cases arrives : SourceArrival entry input
  · obtain ⟨_, live⟩ := source_live listens arrives
    exact live.listens
  · exact (source_quiet listens arrives).listens

theorem source_saved {entry : AncsEntry} (listens : Listens entry) (saved : Saved entry)
    (input : SourceInput) : Saved (sourceStep entry input) := by
  by_cases arrives : SourceArrival entry input
  · obtain ⟨_, live⟩ := source_live listens arrives
    exact live.saved
  · exact (source_quiet listens arrives).saved.mpr saved

theorem start_source (stored : Option PayloadValue) (currentState : Option SourceState) :
    (AncsSourceRuntime.start (load stored).runtime currentState).latestNotification =
        (shown (load stored).runtime.seen currentState).or (load stored).runtime.latestNotification ∧
      (AncsSourceRuntime.start (load stored).runtime currentState).deliveries =
        (load stored).runtime.deliveries ∧
      (AncsSourceRuntime.start (load stored).runtime currentState).notificationListeners =
        (load stored).runtime.notificationListeners := by
  unfold AncsSourceRuntime.start shown
  cases currentState with
  | none => exact ⟨rfl, rfl, rfl⟩
  | some state =>
    dsimp only
    split
    · exact ⟨rfl, rfl, rfl⟩
    · split
      · exact ⟨rfl, rfl, rfl⟩
      · split
        · next parsed => simp [parsed]
        · next parsed => simp [parsed]

theorem listens_sourceSetup (stored : Option PayloadValue) (currentState : Option SourceState) :
    Listens (sourceSetup stored currentState) := by
  obtain ⟨_, _, listeners⟩ := start_source stored currentState
  have kept : (sourceSetup stored currentState).runtime =
      AncsSourceRuntime.start (load stored).runtime currentState := by
    unfold sourceSetup saveCurrent
    dsimp only
    split
    · rfl
    · split <;> rfl
  rw [Listens, kept, listeners]
  exact load_listens

theorem saved_sourceSetup (stored : Option PayloadValue) (currentState : Option SourceState) :
    Saved (sourceSetup stored currentState) ↔ SourceCovered stored currentState := by
  obtain ⟨latest, deliveries, _⟩ := start_source stored currentState
  unfold sourceSetup saveCurrent SourceCovered Saved
  dsimp only
  rw [moved_undelivered deliveries]
  generalize AncsSourceRuntime.start (load stored).runtime currentState = runtime at latest ⊢
  cases restored : restores stored with
  | true =>
    obtain ⟨notification, id, same, admitted, before, seen⟩ := load_restored restored
    rw [if_pos rfl, if_pos rfl]
    dsimp only
    rw [latest, before]
    cases shows : shown (load stored).runtime.seen currentState with
    | none =>
      rw [same]
      simp [snapshot, load, SnapshotStore.write]
    | some seed =>
      obtain ⟨other, admitted', new⟩ := shown_admissible shows
      simp only [reduceCtorEq, iff_false]
      intro saved
      have equal : some (PayloadValue.object notification) = some (.object seed) :=
        same.symm.trans saved
      cases equal
      cases admitted.symm.trans admitted'
      exact new seen
  | false =>
    obtain ⟨before, _⟩ := load_refused restored
    rw [if_neg Bool.false_ne_true, if_neg Bool.false_ne_true]
    rw [before, Option.or_none] at latest
    dsimp only
    cases shows : shown (load stored).runtime.seen currentState with
    | none =>
      rw [shows] at latest
      simp [latest, snapshot, load, SnapshotStore.write]
    | some seed =>
      rw [shows] at latest
      simp [latest, snapshot, SnapshotStore.schedule, SnapshotStore.write]

/-- The snapshot of a source entity is the latest notification once one has arrived live, and
    before that exactly where the setup left it so. -/
theorem saved_source_iff (stored : Option PayloadValue) (currentState : Option SourceState)
    (later : List SourceInput) :
    Saved (run sourceStep (sourceSetup stored currentState) later) ↔
      SomeStep sourceStep SourceArrival (sourceSetup stored currentState) later ∨
        SourceCovered stored currentState := by
  have listens := listens_sourceSetup stored currentState
  by_cases arrives : SomeStep sourceStep SourceArrival (sourceSetup stored currentState) later
  · have saved : Saved (run sourceStep (sourceSetup stored currentState) later) := by
      refine run_reaches (J := Listens) ?_ ?_ ?_ listens arrives
      · intro entry input listens
        exact source_listens listens input
      · intro entry input listens saved
        exact source_saved listens saved input
      · intro entry input listens arrives
        obtain ⟨_, live⟩ := source_live listens arrives
        exact live.saved
    simp [arrives, saved]
  · have states := all_states_of_steps (P := Quiet (sourceSetup stored currentState))
      (fun _ input quiet refused => quiet.trans (source_quiet quiet.listens refused))
      ⟨listens, rfl, rfl⟩ (all_steps_of_none arrives)
    rw [(all_states_last states).saved, saved_sourceSetup]
    simp [arrives]

end Source

section Mqtt

def Offers (input : MqttInput) : Prop := ∃ notification retain,
  input = .notification (some (.object notification)) retain ∧ (admissible notification).isSome = true

def MqttArrival (entry : AncsEntry) : MqttInput → Prop
  | .notification payload retain =>
    retain = false ∧ (parseNotification payload entry.runtime.seen).2.isSome = true
  | _ => False

/-- The setup leaves a saved notification, or nothing to save comes at all. -/
def MqttCovered (stored : Option PayloadValue) (during later : List MqttInput) : Prop :=
  restores stored = true ∨ (∃ input ∈ during, Offers input) ∨
    (stored = none ∧ ∀ input ∈ later, ¬ Offers input)

theorem quiet_availability {entry : AncsEntry} (listens : Listens entry) (payload : String) :
    Quiet entry (mqttStep entry (.availability payload)) ∧
      (mqttStep entry (.availability payload)).runtime.seen = entry.runtime.seen := by
  unfold mqttStep AncsMqttRuntime.handleAvailability
  dsimp only
  split
  · exact ⟨quiet_moved rfl rfl listens, rfl⟩
  · exact ⟨quiet_moved rfl rfl listens, rfl⟩

theorem mqtt_quiet {entry : AncsEntry} (listens : Listens entry) {input : MqttInput}
    (refused : ¬ MqttArrival entry input) : Quiet entry (mqttStep entry input) ∨
      ∃ notification, Retained entry (mqttStep entry input) notification := by
  cases input with
  | notification payload retain =>
    unfold MqttArrival at refused
    unfold mqttStep AncsMqttRuntime.handleNotification
    dsimp only at refused ⊢
    split
    · exact .inl (quiet_moved rfl rfl listens)
    · next seen notification parsed =>
      rw [parsed] at refused
      cases retain with
      | true =>
        cases latest : entry.runtime.latestNotification with
        | none =>
          exact .inr ⟨notification, retained_moved rfl latest rfl listens (admitted_of_parsed parsed)⟩
        | some before => exact .inl (quiet_moved rfl latest.symm listens)
      | false => exact absurd ⟨rfl, rfl⟩ refused
  | availability payload =>
    obtain ⟨quiet, _⟩ := quiet_availability listens payload
    exact .inl quiet
  | register index replayPending => exact .inl (quiet_register listens index replayPending)
  | remove index => exact .inl (quiet_remove listens index)
  | write => exact .inl (quiet_write listens)

theorem mqtt_live {entry : AncsEntry} (listens : Listens entry) {input : MqttInput}
    (arrives : MqttArrival entry input) :
    ∃ notification, Live (mqttStep entry input) notification := by
  cases input with
  | notification payload retain =>
    obtain ⟨rfl, accepted⟩ := arrives
    unfold mqttStep AncsMqttRuntime.handleNotification
    dsimp only
    split
    · next parsed =>
      rw [parsed] at accepted
      cases accepted
    · next seen notification parsed =>
      exact ⟨notification, live_dispatch (r := { entry.runtime with seen }) listens rfl rfl notification⟩
  | availability payload => cases arrives
  | register index replayPending => cases arrives
  | remove index => cases arrives
  | write => cases arrives

structure Held (entry : AncsEntry) : Prop where
  listens : Listens entry
  known : entry.runtime.latestNotification ≠ none
  saved : Saved entry

theorem mqtt_listens {entry : AncsEntry} (listens : Listens entry) (input : MqttInput) :
    Listens (mqttStep entry input) := by
  by_cases arrives : MqttArrival entry input
  · obtain ⟨_, live⟩ := mqtt_live listens arrives
    exact live.listens
  · rcases mqtt_quiet listens arrives with quiet | ⟨_, retained⟩
    · exact quiet.listens
    · exact retained.listens

theorem mqtt_known {entry : AncsEntry} (listens : Listens entry)
    (known : entry.runtime.latestNotification ≠ none) (input : MqttInput) :
    (mqttStep entry input).runtime.latestNotification ≠ none := by
  by_cases arrives : MqttArrival entry input
  · obtain ⟨_, live⟩ := mqtt_live listens arrives
    simp [live.latest]
  · rcases mqtt_quiet listens arrives with quiet | ⟨_, retained⟩
    · rw [quiet.latest]
      exact known
    · simp [retained.latest]

theorem held_of_live {next : AncsEntry} {notification : Mapping} (live : Live next notification) :
    Held next where
  listens := live.listens
  known := by simp [live.latest]
  saved := live.saved

theorem held_mqttStep {entry : AncsEntry} (held : Held entry) (input : MqttInput) :
    Held (mqttStep entry input) := by
  by_cases arrives : MqttArrival entry input
  · obtain ⟨_, live⟩ := mqtt_live held.listens arrives
    exact held_of_live live
  · rcases mqtt_quiet held.listens arrives with quiet | ⟨_, retained⟩
    · refine ⟨quiet.listens, ?_, quiet.saved.mpr held.saved⟩
      rw [quiet.latest]
      exact held.known
    · exact absurd retained.before held.known

structure Fresh (stored : Option PayloadValue) (entry : AncsEntry) : Prop where
  listens : Listens entry
  latest : entry.runtime.latestNotification = none
  unseen : entry.runtime.seen.ids = ∅
  snapshot : entry.snapshot = stored

theorem parse_unseen (payload : Option PayloadValue) {seen : RelayIdWindow} (unseen : seen.ids = ∅) :
    (∃ notification, payload = some (.object notification) ∧
        (admissible notification).isSome = true ∧
        (parseNotification payload seen).2 = some notification) ∨
      ((∀ notification, payload = some (.object notification) →
        (admissible notification).isSome = false) ∧ parseNotification payload seen = (seen, none)) := by
  unfold parseNotification parseNotificationData
  cases payload with
  | none => exact .inr ⟨by simp, rfl⟩
  | some data =>
    cases data with
    | object notification =>
      cases checked : admissible notification with
      | none => exact .inr ⟨by simp [checked], by simp [checked]⟩
      | some id =>
        refine .inl ⟨notification, rfl, by simp [checked], ?_⟩
        simp [checked, unseen]
    | _ => exact .inr ⟨by simp, rfl⟩

theorem fresh_mqttStep {stored : Option PayloadValue} {entry : AncsEntry} (fresh : Fresh stored entry)
    {input : MqttInput} (silent : ¬ Offers input) : Fresh stored (mqttStep entry input) := by
  have quiet_fresh : ∀ {next : AncsEntry}, Quiet entry next →
      next.runtime.seen = entry.runtime.seen → Fresh stored next := by
    intro next quiet same
    refine ⟨quiet.listens, quiet.latest.trans fresh.latest, ?_, quiet.snapshot.trans fresh.snapshot⟩
    rw [same]
    exact fresh.unseen
  cases input with
  | notification payload retain =>
    rcases parse_unseen payload fresh.unseen with
      ⟨notification, rfl, admitted, _⟩ | ⟨_, parsed⟩
    · exact absurd ⟨notification, retain, rfl, admitted⟩ silent
    · have same : mqttStep entry (.notification payload retain) = entry.moved entry.runtime := by
        simp [mqttStep, AncsMqttRuntime.handleNotification, parsed]
      rw [same]
      exact quiet_fresh (quiet_moved rfl rfl fresh.listens) rfl
  | availability payload =>
    obtain ⟨quiet, same⟩ := quiet_availability fresh.listens payload
    exact quiet_fresh quiet same
  | register index replayPending =>
    refine quiet_fresh (quiet_register fresh.listens index replayPending) ?_
    cases replayPending <;> rfl
  | remove index => exact quiet_fresh (quiet_remove fresh.listens index) rfl
  | write => exact quiet_fresh (quiet_write fresh.listens) rfl

theorem offered_mqttStep {stored : Option PayloadValue} {entry : AncsEntry} (fresh : Fresh stored entry)
    {input : MqttInput} (offers : Offers input) :
    (mqttStep entry input).runtime.latestNotification ≠ none := by
  obtain ⟨notification, retain, rfl, admitted⟩ := offers
  rcases parse_unseen (some (.object notification)) fresh.unseen with
    ⟨_, _, _, accepted⟩ | ⟨refused, _⟩
  · unfold mqttStep AncsMqttRuntime.handleNotification moved
    dsimp only
    split
    · next parsed =>
      rw [parsed] at accepted
      cases accepted
    · cases retain with
      | true => simp [fresh.latest]
      | false => simp [AncsRuntime.dispatch]
  · rw [refused notification rfl] at admitted
    cases admitted

theorem fresh_run {stored : Option PayloadValue} {entry : AncsEntry} (fresh : Fresh stored entry)
    (inputs : List MqttInput) :
    ((∀ input ∈ inputs, ¬ Offers input) ∧ Fresh stored (run mqttStep entry inputs)) ∨
      ((∃ input ∈ inputs, Offers input) ∧ Listens (run mqttStep entry inputs) ∧
        (run mqttStep entry inputs).runtime.latestNotification ≠ none) := by
  induction inputs generalizing entry with
  | nil => exact .inl ⟨by simp, fresh⟩
  | cons input rest ih =>
    by_cases offers : Offers input
    · have known := offered_mqttStep fresh offers
      have both := run_invariant
        (P := fun entry => Listens entry ∧ entry.runtime.latestNotification ≠ none)
        (fun _ input both => ⟨mqtt_listens both.1 input, mqtt_known both.1 both.2 input⟩)
        ⟨mqtt_listens fresh.listens input, known⟩ rest
      exact .inr ⟨⟨input, List.mem_cons_self, offers⟩, both⟩
    · rcases ih (fresh_mqttStep fresh offers) with ⟨none_, fresh⟩ | ⟨⟨later, member, offers⟩, both⟩
      · exact .inl ⟨List.forall_mem_cons.mpr ⟨offers, none_⟩, fresh⟩
      · exact .inr ⟨⟨later, List.mem_cons_of_mem input member, offers⟩, both⟩

theorem held_restored {stored : Option PayloadValue} (restored : restores stored = true) :
    Held (load stored) := by
  obtain ⟨notification, _, same, _, latest, _⟩ := load_restored restored
  refine ⟨load_listens, ?_, ?_⟩
  · simp [latest]
  · rw [Saved, load_snapshot, latest, same]
    rfl

theorem fresh_load {stored : Option PayloadValue} (refused : restores stored = false) :
    Fresh stored (load stored) := by
  obtain ⟨latest, seen⟩ := load_refused refused
  refine ⟨load_listens, latest, ?_, load_snapshot⟩
  rw [seen]
  rfl

theorem mqttSetup_refused {stored : Option PayloadValue} (refused : restores stored = false)
    (during : List MqttInput) :
    ((∀ input ∈ during, ¬ Offers input) ∧ Fresh stored (mqttSetup stored during)) ∨
      ((∃ input ∈ during, Offers input) ∧ Held (mqttSetup stored during)) := by
  have unrestored : ¬ restores stored = true := by simp [refused]
  unfold mqttSetup saveCurrent
  rw [if_neg unrestored]
  rcases fresh_run (fresh_load refused) during with ⟨none_, fresh⟩ | ⟨some_, listens, known⟩
  · rw [fresh.latest]
    exact .inl ⟨none_, fresh⟩
  · obtain ⟨current, latest⟩ := Option.ne_none_iff_exists'.mp known
    refine .inr ⟨some_, ?_⟩
    rw [latest]
    exact ⟨listens, by simp [latest], by simp [Saved, latest, snapshot, SnapshotStore.schedule,
      SnapshotStore.write]⟩

/-- As long as nothing arrives live the snapshot stays, while a retained message may be shown. -/
structure Unsaved (stored : Option PayloadValue) (entry : AncsEntry) : Prop where
  listens : Listens entry
  snapshot : entry.snapshot = stored
  admitted : ∀ notification, entry.runtime.latestNotification = some notification →
    (admissible notification).isSome = true

theorem unsaved_mqttStep {stored : Option PayloadValue} {entry : AncsEntry}
    (unsaved : Unsaved stored entry) {input : MqttInput} (refused : ¬ MqttArrival entry input) :
    Unsaved stored (mqttStep entry input) := by
  rcases mqtt_quiet unsaved.listens refused with quiet | ⟨notification, retained⟩
  · refine ⟨quiet.listens, quiet.snapshot.trans unsaved.snapshot, ?_⟩
    rw [quiet.latest]
    exact unsaved.admitted
  · refine ⟨retained.listens, retained.snapshot.trans unsaved.snapshot, ?_⟩
    intro other latest
    cases retained.latest.symm.trans latest
    exact retained.admitted

theorem saved_mqtt_iff (stored : Option PayloadValue) (during later : List MqttInput) :
    Saved (run mqttStep (mqttSetup stored during) later) ↔
      SomeStep mqttStep MqttArrival (mqttSetup stored during) later ∨
        MqttCovered stored during later := by
  have held_run : Held (mqttSetup stored during) →
      Saved (run mqttStep (mqttSetup stored during) later) := by
    intro held
    exact (run_invariant (P := Held) (fun _ input held => held_mqttStep held input) held later).saved
  cases restored : restores stored with
  | true =>
    have setup : mqttSetup stored during = run mqttStep (load stored) during := by
      simp [mqttSetup, saveCurrent, restored]
    have held : Held (mqttSetup stored during) := by
      rw [setup]
      exact run_invariant (P := Held) (fun _ input held => held_mqttStep held input)
        (held_restored restored) during
    simp [held_run held, MqttCovered, restored]
  | false =>
    rcases mqttSetup_refused restored during with ⟨none_, fresh⟩ | ⟨some_, held⟩
    · by_cases arrives : SomeStep mqttStep MqttArrival (mqttSetup stored during) later
      · have held : Held (run mqttStep (mqttSetup stored during) later) := by
          refine run_reaches (J := Listens) ?_ ?_ ?_ fresh.listens arrives
          · intro entry input listens
            exact mqtt_listens listens input
          · intro entry input _ held
            exact held_mqttStep held input
          · intro entry input listens arrives
            obtain ⟨_, live⟩ := mqtt_live listens arrives
            exact held_of_live live
        simp [arrives, held.saved]
      · have covered : MqttCovered stored during later ↔
            stored = none ∧ ∀ input ∈ later, ¬ Offers input := by
          unfold MqttCovered
          constructor
          · rintro (restored' | ⟨input, member, offers⟩ | absent)
            · rw [restored] at restored'
              cases restored'
            · exact absurd offers (none_ input member)
            · exact absent
          · intro absent
            exact .inr (.inr absent)
        rw [covered]
        simp only [arrives, false_or]
        rcases fresh_run fresh later with ⟨silent, still⟩ | ⟨⟨input, member, offers⟩, _, known⟩
        · rw [Saved, still.snapshot, still.latest]
          simpa using fun _ => silent
        · have start : Unsaved stored (mqttSetup stored during) :=
            ⟨fresh.listens, fresh.snapshot, by simp [fresh.latest]⟩
          have unsaved := all_states_last (all_states_of_steps (P := Unsaved stored)
            (fun _ input unsaved refused => unsaved_mqttStep unsaved refused) start
            (all_steps_of_none arrives))
          obtain ⟨notification, latest⟩ := Option.ne_none_iff_exists'.mp known
          constructor
          · intro saved
            -- a file that held the notification would have been restored
            have same : stored = some (.object notification) := by
              rw [← unsaved.snapshot, saved, latest]
              rfl
            have admitted := restores_admissible (unsaved.admitted notification latest)
            rw [← same, restored] at admitted
            cases admitted
          · rintro ⟨_, silent⟩
            exact absurd offers (silent input member)
    · simp [held_run held, MqttCovered, some_]

end Mqtt

/-- The snapshot is the latest notification exactly where one has arrived live since the
    setup, or the setup left none unsaved. -/
theorem saved_iff (stored : Option PayloadValue) :
    (∀ currentState later, Saved (run sourceStep (sourceSetup stored currentState) later) ↔
      SomeStep sourceStep SourceArrival (sourceSetup stored currentState) later ∨
        SourceCovered stored currentState) ∧
    ∀ during later, Saved (run mqttStep (mqttSetup stored during) later) ↔
      SomeStep mqttStep MqttArrival (mqttSetup stored during) later ∨
        MqttCovered stored during later :=
  ⟨saved_source_iff stored, saved_mqtt_iff stored⟩

def sample (id : String) : Mapping := [("relay_id", .text id), ("complete", .boolean true)]

/-- The source entity shows another notification than the restored one: the file keeps the old. -/
theorem restored_is_kept : ¬ ∀ stored currentState later,
    Saved (run sourceStep (sourceSetup stored currentState) later) := by
  intro all
  have saved := all (some (.object (sample "a"))) (some { state := "b", attributes := sample "b" }) []
  rw [run_nil, saved_sourceSetup] at saved
  have restored : restores (some (.object (sample "a"))) = true := by decide
  have shows : (shown (load (some (.object (sample "a")))).runtime.seen
      (some { state := "b", attributes := sample "b" })).isSome = true := by decide
  rw [SourceCovered, if_pos restored] at saved
  rw [saved] at shows
  cases shows

end AncsEntry
