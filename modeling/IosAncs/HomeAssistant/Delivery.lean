import IosAncs.Foundation.Runs
import IosAncs.HomeAssistant.Runtime

/-!
Delivery of notifications by the two runtimes. What a listener was given is the queue
that waited for it, and then all that arrived while it was registered.
-/
open PayloadValue Runs

namespace AncsRuntime
variable {Listener : Type}

/-- The first replay listener that registered after an arrival. -/
def firstReplay (r : AncsRuntime Listener) (serial : Nat) : Option Listener :=
  (r.replays.find? fun replay => serial < replay.2).map Prod.fst

structure Recorded (r : AncsRuntime Listener) : Prop where
  once : r.notificationListeners.Nodup
  numbered : ∀ arrival ∈ r.arrivals, arrival.arrived.serial < r.arrivals.length
  waiting : ∀ arrived ∈ r.pendingNotifications, arrived.serial < r.arrivals.length
  increasing : r.pendingNotifications.Pairwise fun a b => a.serial < b.serial
  replayed : ∀ replay ∈ r.replays, replay.2 ≤ r.arrivals.length
  delivered : ∀ delivery ∈ r.deliveries, delivery.arrived.serial < r.arrivals.length
  listening : ∀ listener ∈ r.notificationListeners, listener ∈ r.registered
  heard : ∀ arrival ∈ r.arrivals, ∀ listener ∈ arrival.listeners, listener ∈ r.registered
  replaying : ∀ replay ∈ r.replays, replay.1 ∈ r.registered
  served : ∀ delivery ∈ r.deliveries, delivery.listener ∈ r.registered

theorem recorded_init : Recorded (init : AncsRuntime Listener) where
  once := List.nodup_nil
  numbered _ member := by cases member
  waiting _ member := by cases member
  increasing := List.Pairwise.nil
  replayed _ member := by cases member
  delivered _ member := by cases member
  listening _ member := by cases member
  heard _ member := by cases member
  replaying _ member := by cases member
  served _ member := by cases member

theorem rtake_concat {α : Type} (bound : Nat) (l : List α) (x : α) :
    (l.rtake bound ++ [x]).rtake bound = (l ++ [x]).rtake bound := by
  cases bound with
  | zero => simp
  | succ bound =>
    rw [List.rtake_concat_succ, List.rtake_concat_succ]
    congr 1
    unfold List.rtake
    rw [List.drop_drop, List.length_drop]
    congr 1
    omega

theorem firstReplay_newest {r : AncsRuntime Listener} (recorded : Recorded r) :
    r.firstReplay r.arrivals.length = none := by
  unfold firstReplay
  rw [Option.map_eq_none_iff, List.find?_eq_none]
  intro replay member
  have earlier := recorded.replayed replay member
  simpa using earlier

theorem firstReplay_registered {r : AncsRuntime Listener} (recorded : Recorded r) {serial : Nat}
    {listener : Listener} (first : r.firstReplay serial = some listener) :
    listener ∈ r.registered := by
  obtain ⟨replay, found, same⟩ := Option.map_eq_some_iff.mp first
  rw [← same]
  exact recorded.replaying replay (List.mem_of_find?_eq_some found)

theorem firstReplay_register {r : AncsRuntime Listener} (listener : Listener) {serial : Nat}
    (before : serial < r.arrivals.length) :
    (r.addNotificationListener listener true).firstReplay serial =
      (r.firstReplay serial).or (some listener) := by
  unfold firstReplay addNotificationListener
  simp only [↓reduceIte, List.find?_append]
  cases r.replays.find? fun replay => serial < replay.2 with
  | none => simp [before]
  | some replay => rfl

theorem recorded_register {r : AncsRuntime Listener} (recorded : Recorded r) {listener : Listener}
    (new : listener ∉ r.registered) (replayPending : Bool) :
    Recorded (r.addNotificationListener listener replayPending) := by
  have once : (r.notificationListeners ++ [listener]).Nodup := by
    rw [List.nodup_append_comm]
    refine List.nodup_cons.mpr ⟨?_, recorded.once⟩
    intro listening
    exact new (recorded.listening listener listening)
  have listening : ∀ other ∈ r.notificationListeners ++ [listener],
      other ∈ r.registered ++ [listener] := by
    intro other member
    rcases List.mem_append.mp member with old | now
    · exact List.mem_append_left _ (recorded.listening other old)
    · exact List.mem_append_right _ now
  have heard : ∀ arrival ∈ r.arrivals, ∀ other ∈ arrival.listeners,
      other ∈ r.registered ++ [listener] := by
    intro arrival member other heard
    exact List.mem_append_left _ (recorded.heard arrival member other heard)
  cases replayPending with
  | false =>
    exact ⟨once, recorded.numbered, recorded.waiting, recorded.increasing, recorded.replayed,
      recorded.delivered, listening, heard,
      fun replay member => List.mem_append_left _ (recorded.replaying replay member),
      fun delivery member => List.mem_append_left _ (recorded.served delivery member)⟩
  | true =>
    refine ⟨once, recorded.numbered, ?_, List.Pairwise.nil, ?_, ?_, listening, heard, ?_, ?_⟩
    · intro _ member
      cases member
    · intro replay member
      rcases List.mem_append.mp member with old | now
      · exact recorded.replayed replay old
      · rw [List.mem_singleton.mp now]
        exact Nat.le_refl _
    · intro delivery member
      rcases List.mem_append.mp member with old | now
      · exact recorded.delivered delivery old
      · obtain ⟨arrived, waits, rfl⟩ := List.mem_map.mp now
        exact recorded.waiting arrived waits
    · intro replay member
      rcases List.mem_append.mp member with old | now
      · exact List.mem_append_left _ (recorded.replaying replay old)
      · rw [List.mem_singleton.mp now]
        exact List.mem_append_right _ List.mem_cons_self
    · intro delivery member
      rcases List.mem_append.mp member with old | now
      · exact List.mem_append_left _ (recorded.served delivery old)
      · obtain ⟨arrived, -, rfl⟩ := List.mem_map.mp now
        exact List.mem_append_right _ List.mem_cons_self

theorem recorded_dispatch {r : AncsRuntime Listener} (recorded : Recorded r)
    (notification : Mapping) : Recorded (r.dispatch notification) := by
  have longer : ∀ {n : Nat}, n < r.arrivals.length → n < (r.dispatch notification).arrivals.length := by
    intro n before
    simp only [dispatch, List.length_append, List.length_singleton]
    exact Nat.lt_succ_of_lt before
  have newest : r.arrivals.length < (r.dispatch notification).arrivals.length := by
    simp [dispatch]
  constructor
  · exact recorded.once
  · intro arrival member
    rcases List.mem_append.mp member with old | now
    · exact longer (recorded.numbered arrival old)
    · rw [List.mem_singleton.mp now]
      exact newest
  · intro arrived member
    simp only [dispatch] at member
    split at member
    · rcases List.mem_append.mp (List.mem_of_mem_drop member) with old | now
      · exact longer (recorded.waiting arrived old)
      · rw [List.mem_singleton.mp now]
        exact newest
    · exact longer (recorded.waiting arrived member)
  · simp only [dispatch]
    split
    · apply List.Pairwise.sublist (List.drop_sublist _ _)
      apply List.pairwise_append.mpr ⟨recorded.increasing, List.pairwise_singleton _ _, ?_⟩
      intro arrived member new now
      rw [List.mem_singleton.mp now]
      exact recorded.waiting arrived member
    · exact recorded.increasing
  · intro replay member
    exact Nat.le_trans (recorded.replayed replay member) newest.le
  · intro delivery member
    rcases List.mem_append.mp member with old | now
    · exact longer (recorded.delivered delivery old)
    · obtain ⟨listener, -, rfl⟩ := List.mem_map.mp now
      exact newest
  · exact recorded.listening
  · intro arrival member
    rcases List.mem_append.mp member with old | now
    · exact recorded.heard arrival old
    · rw [List.mem_singleton.mp now]
      exact recorded.listening
  · exact recorded.replaying
  · intro delivery member
    rcases List.mem_append.mp member with old | now
    · exact recorded.served delivery old
    · obtain ⟨listener, listening, rfl⟩ := List.mem_map.mp now
      exact recorded.listening listener listening

def nextArrival (r : AncsRuntime Listener) (notification : Mapping) : ArrivedNotification :=
  { serial := r.arrivals.length, notification }

/-- What a step adds to the record where it brings this notification, if any. -/
def arrivalOf (r : AncsRuntime Listener) (notification : Mapping) : Arrival Listener where
  arrived := r.nextArrival notification
  listeners := r.notificationListeners
  replayListeners := r.notificationReplayListeners

/-- A run records what its steps bring, each once and in order. -/
theorem notifications_of_steps {Input : Type}
    {step : AncsRuntime Listener → Input → AncsRuntime Listener}
    {brings : AncsRuntime Listener → Input → Option Mapping}
    (records : ∀ r input,
      (step r input).arrivals = r.arrivals ++ (brings r input).toList.map r.arrivalOf)
    (r : AncsRuntime Listener) (inputs : List Input) :
    (run step r inputs).arrivals.map (fun arrival => arrival.arrived.notification) =
      r.arrivals.map (fun arrival => arrival.arrived.notification) ++
        (trace step brings r inputs).reduceOption := by
  induction inputs generalizing r with
  | nil => exact (List.append_nil _).symm
  | cons input rest ih =>
    rw [run_cons, ih, records, trace]
    cases brings r input with
    | none => simp
    | some notification => simp [arrivalOf, nextArrival]

theorem restoreNotification_arrivals (r : AncsRuntime Listener) (notification : Option PayloadValue) :
    (r.restoreNotification notification).arrivals = r.arrivals := by
  unfold restoreNotification
  split
  · rfl
  · split <;> rfl

variable [DecidableEq Listener]

theorem recorded_remove {r : AncsRuntime Listener} (recorded : Recorded r) (listener : Listener) :
    Recorded (r.removeListener listener) :=
  { recorded with
    once := recorded.once.erase listener
    listening := fun other member => recorded.listening other (List.mem_of_mem_erase member) }

def received (r : AncsRuntime Listener) (listener : Listener) : List ArrivedNotification :=
  (r.deliveries.filter fun delivery => delivery.listener = listener).map Delivery.arrived

/-- What arrived while a listener was registered. -/
def present (r : AncsRuntime Listener) (listener : Listener) : List ArrivedNotification :=
  (r.arrivals.filter fun arrival => listener ∈ arrival.listeners).map Arrival.arrived

/-- What arrived while no replay listener was registered, and has `first` as the first
    one to register after it. -/
def awaiting (r : AncsRuntime Listener) (first : Option Listener) : List ArrivedNotification :=
  (r.arrivals.filter fun arrival =>
    arrival.replayListeners = [] ∧ r.firstReplay arrival.arrived.serial = first).map Arrival.arrived

/-- Delivery exactly once and in order. -/
structure DeliversOnce (r : AncsRuntime Listener) : Prop where
  /-- the newest ones up to the bound that waited for the listener, then all that arrived
      while it was registered -/
  received : ∀ listener, r.received listener =
    (r.awaiting (some listener)).rtake defaultRelayIdWindowSize ++ r.present listener
  /-- each at most once, in the order of arrival -/
  ordered : ∀ listener, (r.received listener).Pairwise fun a b => a.serial < b.serial
  pending : r.pendingNotifications = (r.awaiting none).rtake defaultRelayIdWindowSize
  /-- on arrival a notification is given to whoever is registered -/
  onArrival : ∀ delivery ∈ r.deliveries, delivery.replayed = false →
    ∃ arrival ∈ r.arrivals, arrival.arrived = delivery.arrived ∧
      delivery.listener ∈ arrival.listeners
  /-- and from the queue only where no replay listener was registered when it arrived -/
  neverBoth : ∀ delivery ∈ r.deliveries, delivery.replayed = true →
    ∃ arrival ∈ r.arrivals, arrival.arrived = delivery.arrived ∧ arrival.replayListeners = []
  window : r.seen.Sound

theorem delivers_init : DeliversOnce (init : AncsRuntime Listener) where
  received _ := by simp [AncsRuntime.received, awaiting, present, init]
  ordered _ := List.Pairwise.nil
  pending := by simp [awaiting, init]
  onArrival _ member := by cases member
  neverBoth _ member := by cases member
  window := RelayIdWindow.sound_init _ _

theorem received_unregistered {r : AncsRuntime Listener} (recorded : Recorded r)
    {listener : Listener} (new : listener ∉ r.registered) : r.received listener = [] := by
  unfold received
  rw [List.map_eq_nil_iff, List.filter_eq_nil_iff]
  intro delivery member same
  rw [decide_eq_true_eq] at same
  exact new (same ▸ recorded.served delivery member)

theorem present_unregistered {r : AncsRuntime Listener} (recorded : Recorded r)
    {listener : Listener} (new : listener ∉ r.registered) : r.present listener = [] := by
  unfold present
  rw [List.map_eq_nil_iff, List.filter_eq_nil_iff]
  intro arrival member heard
  rw [decide_eq_true_eq] at heard
  exact new (recorded.heard arrival member listener heard)

theorem awaiting_register {r : AncsRuntime Listener} (recorded : Recorded r) {listener : Listener}
    {first before : Option Listener}
    (same : ∀ waits : Option Listener, (∀ other, waits = some other → other ∈ r.registered) →
      (waits.or (some listener) = first ↔ waits = before)) :
    (r.addNotificationListener listener true).awaiting first = r.awaiting before := by
  unfold awaiting
  congr 1
  apply List.filter_congr
  intro arrival member
  rw [firstReplay_register listener (recorded.numbered arrival member),
    decide_eq_decide, same _ fun _ => firstReplay_registered recorded]

theorem awaiting_register_none {r : AncsRuntime Listener} (recorded : Recorded r)
    (listener : Listener) : (r.addNotificationListener listener true).awaiting none = [] := by
  unfold awaiting
  rw [List.map_eq_nil_iff, List.filter_eq_nil_iff]
  intro arrival member waits
  rw [decide_eq_true_eq, firstReplay_register listener (recorded.numbered arrival member)] at waits
  cases first : r.firstReplay arrival.arrived.serial <;> simp [first] at waits

theorem received_register (r : AncsRuntime Listener) (listener other : Listener) :
    (r.addNotificationListener listener true).received other =
      r.received other ++ if listener = other then r.pendingNotifications else [] := by
  unfold received addNotificationListener
  rw [if_pos rfl, List.filter_append, List.map_append, List.filter_map, List.map_map]
  by_cases same : listener = other
  · simp [same, Function.comp_def]
  · simp [same, Function.comp_def]

theorem delivers_register {r : AncsRuntime Listener} (delivers : DeliversOnce r)
    (recorded : Recorded r) {listener : Listener} (new : listener ∉ r.registered)
    (replayPending : Bool) : DeliversOnce (r.addNotificationListener listener replayPending) := by
  cases replayPending with
  | false =>
    exact ⟨delivers.received, delivers.ordered, delivers.pending, delivers.onArrival,
      delivers.neverBoth, delivers.window⟩
  | true =>
    have known : ∀ waits : Option Listener, (∀ other, waits = some other → other ∈ r.registered) →
        waits ≠ some listener := by
      intro waits among same
      exact new (among listener same)
    constructor
    · intro other
      rw [received_register]
      by_cases own : listener = other
      · subst own
        have waited : (r.addNotificationListener listener true).awaiting (some listener) =
            r.awaiting none := by
          apply awaiting_register recorded
          intro waits among
          have other := known waits among
          cases waits with
          | none => simp
          | some first => simpa using other
        rw [if_pos rfl, received_unregistered recorded new, waited, ← delivers.pending]
        have absent := present_unregistered recorded new
        unfold present at absent
        simp [present, addNotificationListener, absent]
      · have waited : (r.addNotificationListener listener true).awaiting (some other) =
            r.awaiting (some other) := by
          apply awaiting_register recorded
          intro waits _
          cases waits with
          | none => simpa using own
          | some first => simp
        rw [if_neg own, List.append_nil, waited]
        exact delivers.received other
    · intro other
      rw [received_register]
      by_cases own : listener = other
      · subst own
        rw [if_pos rfl, received_unregistered recorded new]
        exact recorded.increasing
      · rw [if_neg own, List.append_nil]
        exact delivers.ordered other
    · rw [awaiting_register_none recorded]
      rfl
    · intro delivery member arrived
      rcases List.mem_append.mp member with old | now
      · exact delivers.onArrival delivery old arrived
      · obtain ⟨_, -, rfl⟩ := List.mem_map.mp now
        cases arrived
    · intro delivery member replayed
      rcases List.mem_append.mp member with old | now
      · exact delivers.neverBoth delivery old replayed
      · obtain ⟨arrived, waits, rfl⟩ := List.mem_map.mp now
        rw [delivers.pending] at waits
        obtain ⟨arrival, kept, same⟩ := List.mem_map.mp (List.mem_of_mem_drop waits)
        obtain ⟨among, alone⟩ := List.mem_filter.mp kept
        rw [decide_eq_true_eq] at alone
        exact ⟨arrival, among, same, alone.1⟩
    · exact delivers.window

theorem delivers_remove {r : AncsRuntime Listener} (delivers : DeliversOnce r)
    (listener : Listener) : DeliversOnce (r.removeListener listener) :=
  ⟨delivers.received, delivers.ordered, delivers.pending, delivers.onArrival,
    delivers.neverBoth, delivers.window⟩

theorem given_once {listeners : List Listener} (once : listeners.Nodup) (listener : Listener)
    (arrived : ArrivedNotification) :
    ((listeners.map fun other => ({ listener := other, arrived, replayed := false } :
      Delivery Listener)).filter fun delivery => delivery.listener = listener).map Delivery.arrived =
      if listener ∈ listeners then [arrived] else [] := by
  induction listeners with
  | nil => rfl
  | cons head rest ih =>
    obtain ⟨absent, others⟩ := List.nodup_cons.mp once
    have tail := ih others
    by_cases same : head = listener
    · subst same
      rw [if_neg absent] at tail
      simp [tail]
    · simp [same, Ne.symm same, tail]

theorem received_dispatch {r : AncsRuntime Listener} (recorded : Recorded r)
    (notification : Mapping) (listener : Listener) :
    (r.dispatch notification).received listener = r.received listener ++
      if listener ∈ r.notificationListeners then [r.nextArrival notification] else [] := by
  unfold received dispatch
  rw [List.filter_append, List.map_append]
  congr 1
  exact given_once recorded.once listener _

theorem present_dispatch (r : AncsRuntime Listener) (notification : Mapping) (listener : Listener) :
    (r.dispatch notification).present listener = r.present listener ++
      if listener ∈ r.notificationListeners then [r.nextArrival notification] else [] := by
  unfold present dispatch
  rw [List.filter_append, List.map_append]
  congr 1
  by_cases listening : listener ∈ r.notificationListeners <;> simp [listening, nextArrival]

theorem awaiting_dispatch {r : AncsRuntime Listener} (recorded : Recorded r)
    (notification : Mapping) (first : Option Listener) :
    (r.dispatch notification).awaiting first = r.awaiting first ++
      if r.notificationReplayListeners = [] ∧ first = none then [r.nextArrival notification]
      else [] := by
  have newest := firstReplay_newest recorded
  unfold firstReplay at newest
  unfold awaiting dispatch
  rw [List.filter_append, List.map_append]
  congr 1
  by_cases alone : r.notificationReplayListeners = []
  · cases first with
    | none => simp [alone, firstReplay, newest, nextArrival]
    | some listener => simp [alone, firstReplay, newest]
  · simp [alone]

theorem delivers_dispatch {r : AncsRuntime Listener} (delivers : DeliversOnce r)
    (recorded : Recorded r) (notification : Mapping) : DeliversOnce (r.dispatch notification) := by
  constructor
  · intro listener
    rw [received_dispatch recorded, present_dispatch, awaiting_dispatch recorded,
      delivers.received listener]
    simp
  · intro listener
    rw [received_dispatch recorded]
    split
    · refine List.pairwise_append.mpr ⟨delivers.ordered listener, List.pairwise_singleton _ _, ?_⟩
      intro arrived member new now
      obtain ⟨delivery, among, same⟩ := List.mem_map.mp member
      rw [List.mem_singleton.mp now, ← same]
      exact recorded.delivered delivery (List.mem_filter.mp among).1
    · rw [List.append_nil]
      exact delivers.ordered listener
  · rw [awaiting_dispatch recorded]
    by_cases alone : r.notificationReplayListeners = []
    · simp only [dispatch, alone, ↓reduceIte, and_self]
      rw [delivers.pending, queueNotification, rtake_concat]
      rfl
    · simp only [dispatch, alone, ↓reduceIte, false_and, List.append_nil]
      exact delivers.pending
  · intro delivery member arrived
    rcases List.mem_append.mp member with old | now
    · obtain ⟨arrival, among, same⟩ := delivers.onArrival delivery old arrived
      exact ⟨arrival, List.mem_append_left _ among, same⟩
    · obtain ⟨listener, listening, rfl⟩ := List.mem_map.mp now
      exact ⟨_, List.mem_append_right _ List.mem_cons_self, rfl, listening⟩
  · intro delivery member replayed
    rcases List.mem_append.mp member with old | now
    · obtain ⟨arrival, among, same⟩ := delivers.neverBoth delivery old replayed
      exact ⟨arrival, List.mem_append_left _ among, same⟩
    · obtain ⟨_, -, rfl⟩ := List.mem_map.mp now
      cases replayed
  · exact delivers.window

structure Tracked (r : AncsRuntime Listener) : Prop where
  recorded : Recorded r
  delivers : DeliversOnce r

theorem tracked_silent {r : AncsRuntime Listener} (tracked : Tracked r) {seen : RelayIdWindow}
    (sound : seen.Sound) (available : Option Bool) (latestNotification : Option Mapping) :
    Tracked { r with seen, available, latestNotification } :=
  ⟨{ tracked.recorded with }, { tracked.delivers with window := sound }⟩

theorem tracked_dispatch {r : AncsRuntime Listener} (tracked : Tracked r) {seen : RelayIdWindow}
    (sound : seen.Sound) (available : Option Bool) (notification : Mapping) :
    Tracked ({ r with seen, available }.dispatch notification) := by
  have silent := tracked_silent tracked sound available r.latestNotification
  exact ⟨recorded_dispatch silent.recorded notification,
    delivers_dispatch silent.delivers silent.recorded notification⟩

theorem tracked_restore {r : AncsRuntime Listener} (tracked : Tracked r)
    (notification : Option PayloadValue) : Tracked (r.restoreNotification notification) := by
  unfold restoreNotification
  split
  · exact tracked
  · next data =>
    have sound := sound_parseNotificationData data tracked.delivers.window
    split
    · next seen found =>
      rw [found] at sound
      exact tracked_silent tracked sound r.available r.latestNotification
    · next seen restored found =>
      rw [found] at sound
      exact tracked_silent tracked sound r.available (some restored)

theorem tracked_register {r : AncsRuntime Listener} (tracked : Tracked r) {listener : Listener}
    (new : listener ∉ r.registered) (replayPending : Bool) :
    Tracked (r.addNotificationListener listener replayPending) :=
  ⟨recorded_register tracked.recorded new replayPending,
    delivers_register tracked.delivers tracked.recorded new replayPending⟩

theorem tracked_remove {r : AncsRuntime Listener} (tracked : Tracked r) (listener : Listener) :
    Tracked (r.removeListener listener) :=
  ⟨recorded_remove tracked.recorded listener, delivers_remove tracked.delivers listener⟩

end AncsRuntime

namespace AncsMqttRuntime
open AncsRuntime
variable {Listener : Type} [DecidableEq Listener]

def Distinct (r : AncsRuntime Listener) : Input Listener → Prop
  | .register listener _ => listener ∉ r.registered
  | _ => True

instance (r : AncsRuntime Listener) : (input : Input Listener) → Decidable (Distinct r input)
  | .register listener _ => inferInstanceAs (Decidable (listener ∉ r.registered))
  | .notification _ _ | .availability _ | .restore _ | .remove _ => inferInstanceAs (Decidable True)

def brings (r : AncsRuntime Listener) : Input Listener → Option Mapping
  | .notification payload false => (parseNotification payload r.seen).2
  | _ => none

theorem step_arrivals (r : AncsRuntime Listener) (input : Input Listener) :
    (step r input).arrivals = r.arrivals ++ (brings r input).toList.map r.arrivalOf := by
  cases input with
  | notification payload retain =>
    simp only [step, handleNotification]
    cases retain with
    | true => split <;> simp [brings]
    | false =>
      simp only [brings, Bool.false_eq_true, ↓reduceIte]
      split
      · next seen found => simp [found]
      · next seen notification found =>
        rw [found]
        rfl
  | availability payload =>
    simp only [step, handleAvailability, brings]
    split <;> simp
  | restore notification =>
    rw [step, restoreNotification_arrivals]
    exact (List.append_nil _).symm
  | register listener replayPending =>
    simp only [step, addNotificationListener, brings]
    split <;> simp
  | remove listener => exact (List.append_nil _).symm

/-- What arrives in a run is what is accepted and was not retained. -/
theorem arrivals_accepted (inputs : List (Input Listener)) :
    (run step (init : AncsRuntime Listener) inputs).arrivals.map
        (fun arrival => arrival.arrived.notification) =
      (trace step brings init inputs).reduceOption :=
  notifications_of_steps step_arrivals init inputs

theorem tracked_step {r : AncsRuntime Listener} (tracked : Tracked r) (input : Input Listener)
    (distinct : Distinct r input) : Tracked (step r input) := by
  cases input with
  | notification payload retain =>
    have sound := sound_parseNotification payload tracked.delivers.window
    simp only [step, handleNotification]
    split
    · next seen found =>
      rw [found] at sound
      exact tracked_silent tracked sound r.available r.latestNotification
    · next seen notification found =>
      rw [found] at sound
      split
      · exact tracked_silent tracked sound r.available _
      · exact tracked_dispatch tracked sound r.available notification
  | availability payload =>
    simp only [step, handleAvailability]
    split
    · exact tracked
    · exact tracked_silent tracked tracked.delivers.window _ r.latestNotification
  | restore notification => exact tracked_restore tracked notification
  | register listener replayPending => exact tracked_register tracked distinct replayPending
  | remove listener => exact tracked_remove tracked listener

end AncsMqttRuntime

namespace AncsSourceRuntime
open AncsRuntime
variable {Listener : Type} [DecidableEq Listener]

def Distinct (r : AncsRuntime Listener) : Input Listener → Prop
  | .register listener _ => listener ∉ r.registered
  | _ => True

instance (r : AncsRuntime Listener) : (input : Input Listener) → Decidable (Distinct r input)
  | .register listener _ => inferInstanceAs (Decidable (listener ∉ r.registered))
  | .start _ | .stateChange _ | .restore _ | .remove _ => inferInstanceAs (Decidable True)

theorem tracked_stateChange {r : AncsRuntime Listener} (tracked : Tracked r)
    (newState : Option SourceState) : Tracked (handleSourceStateChange r newState) := by
  have window := tracked.delivers.window
  unfold handleSourceStateChange
  split
  · exact tracked_silent tracked window _ r.latestNotification
  · next state =>
    split
    · exact tracked_silent tracked window _ r.latestNotification
    · split
      · exact tracked_silent tracked window _ r.latestNotification
      · have sound := sound_parseNotificationData (.object (notificationDataFromState state)) window
        split
        · next seen found =>
          rw [found] at sound
          exact tracked_silent tracked sound _ r.latestNotification
        · next seen notification found =>
          rw [found] at sound
          exact tracked_dispatch tracked sound _ notification

theorem tracked_start {r : AncsRuntime Listener} (tracked : Tracked r)
    (currentState : Option SourceState) : Tracked (start r currentState) := by
  have window := tracked.delivers.window
  unfold start
  split
  · exact tracked_silent tracked window _ r.latestNotification
  · next state =>
    split
    · exact tracked_silent tracked window _ r.latestNotification
    · split
      · exact tracked_silent tracked window _ r.latestNotification
      · have sound := sound_parseNotificationData (.object (notificationDataFromState state)) window
        split
        · next seen found =>
          rw [found] at sound
          exact tracked_silent tracked sound _ r.latestNotification
        · next seen seed found =>
          rw [found] at sound
          exact tracked_silent tracked sound _ (some seed)

def brings (r : AncsRuntime Listener) : Input Listener → Option Mapping
  | .stateChange (some state) =>
    if state.state = stateUnavailable ∨ state.state = stateUnknown then none
    else (parseNotificationData (.object (notificationDataFromState state)) r.seen).2
  | _ => none

theorem step_arrivals (r : AncsRuntime Listener) (input : Input Listener) :
    (step r input).arrivals = r.arrivals ++ (brings r input).toList.map r.arrivalOf := by
  cases input with
  | start currentState =>
    simp only [step, start, brings]
    split
    · simp
    · split
      · simp
      · split
        · simp
        · split <;> simp
  | stateChange newState =>
    simp only [step, handleSourceStateChange]
    split
    · simp [brings]
    · next state =>
      simp only [brings]
      split
      · next missing => simp [missing]
      · next shown =>
        split
        · next unknown => simp [unknown]
        · next known =>
          rw [if_neg (not_or.mpr ⟨shown, known⟩)]
          split
          · next seen found => simp [found]
          · next seen notification found =>
            rw [found]
            rfl
  | restore notification =>
    rw [step, restoreNotification_arrivals]
    exact (List.append_nil _).symm
  | register listener replayPending =>
    simp only [step, addNotificationListener, brings]
    split <;> simp
  | remove listener => exact (List.append_nil _).symm

/-- What arrives in a run is what the states bring that are accepted. -/
theorem arrivals_accepted (inputs : List (Input Listener)) :
    (run step (init : AncsRuntime Listener) inputs).arrivals.map
        (fun arrival => arrival.arrived.notification) =
      (trace step brings init inputs).reduceOption :=
  notifications_of_steps step_arrivals init inputs

theorem tracked_step {r : AncsRuntime Listener} (tracked : Tracked r) (input : Input Listener)
    (distinct : Distinct r input) : Tracked (step r input) := by
  cases input with
  | start currentState => exact tracked_start tracked currentState
  | stateChange newState => exact tracked_stateChange tracked newState
  | restore notification => exact tracked_restore tracked notification
  | register listener replayPending => exact tracked_register tracked distinct replayPending
  | remove listener => exact tracked_remove tracked listener

end AncsSourceRuntime

namespace AncsRuntime
variable {Listener : Type} [DecidableEq Listener]

/-- In every run of either runtime in which the listeners are distinct, each listener is
    given what waited for it, up to the bound of the queue, and all that arrives while it
    is registered, each once and in order. -/
theorem delivery_exactly_once {mqtt : List (AncsMqttRuntime.Input Listener)}
    {source : List (AncsSourceRuntime.Input Listener)}
    (mqttDistinct : AllSteps AncsMqttRuntime.step AncsMqttRuntime.Distinct init mqtt)
    (sourceDistinct : AllSteps AncsSourceRuntime.step AncsSourceRuntime.Distinct init source) :
    AllStates AncsMqttRuntime.step DeliversOnce init mqtt ∧
      AllStates AncsSourceRuntime.step DeliversOnce init source := by
  have start : Tracked (init : AncsRuntime Listener) := ⟨recorded_init, delivers_init⟩
  have mqttAll : AllStates AncsMqttRuntime.step Tracked init mqtt := by
    apply all_states_of_steps _ start mqttDistinct
    intro r input tracked distinct
    exact AncsMqttRuntime.tracked_step tracked input distinct
  have sourceAll : AllStates AncsSourceRuntime.step Tracked init source := by
    apply all_states_of_steps _ start sourceDistinct
    intro r input tracked distinct
    exact AncsSourceRuntime.tracked_step tracked input distinct
  exact ⟨all_states_mono (fun _ tracked => tracked.delivers) mqttAll,
    all_states_mono (fun _ tracked => tracked.delivers) sourceAll⟩

def accepted (relayId : String) : PayloadValue :=
  .object [("relay_id", .text relayId), ("complete", .boolean true), ("event", .text "added")]

def mqttRun : List (AncsMqttRuntime.Input Nat) :=
  [.register 0 false, .notification (some (accepted "a")) false, .register 1 true,
    .notification (some (accepted "b")) false]

def sourceRun : List (AncsSourceRuntime.Input Nat) :=
  [.register 0 false, .stateChange (some { state := "a", attributes := [("complete", .boolean true)] }),
    .register 1 true]

theorem delivery_exactly_once_replayed :
    AllStates AncsMqttRuntime.step DeliversOnce init mqttRun ∧
      AllStates AncsSourceRuntime.step DeliversOnce init sourceRun :=
  delivery_exactly_once (by decide +kernel) (by decide +kernel)

/-- The replay listener is given the queued notification before the newer one. -/
example : ((run AncsMqttRuntime.step init mqttRun).received 1).map (·.serial) = [0, 1] := by
  decide +kernel

end AncsRuntime
