import IosAncs.Foundation.Association
import IosAncs.Foundation.Runs
import IosAncs.HomeAssistant.Runtime
import IosAncs.Relay.RelayId

/-!
The two writes of a notification to the source sensor. The sensor takes the relay id for
its state and the payload for its attributes, one after the other, so that in between it
shows a half of each of two notifications.
-/
open PayloadValue Runs

namespace AncsSourceRuntime

/-- A notification as the firmware publishes it: the payload holds its own relay id, and a
    relay id is no name of a missing state. -/
structure SensorNotification where
  relayId : String
  attributes : Mapping
  own : PayloadValue.relayId (pop attributes attrFriendlyName) = some relayId
  shown : relayId ≠ stateUnavailable ∧ relayId ≠ stateUnknown

namespace SensorNotification

def data (n : SensorNotification) : Mapping := pop n.attributes attrFriendlyName

/-- `parse_notification_data` finds nothing to reject but a relay id that it has seen. -/
def Valid (n : SensorNotification) : Prop := admissible n.data = some n.relayId

def state (n : SensorNotification) : SourceState :=
  { state := n.relayId, attributes := n.attributes }

end SensorNotification

def relayIdText (digits : List UInt8) : String :=
  String.ofList (digits.map fun digit => Char.ofNat digit.toNat)

theorem relay_id_is_shown {limits : AncsLimits} (notification : AncsNotification limits)
    (bootNonce : UInt32) :
    relayIdText (RelayPolicy.buildId notification bootNonce) ≠ stateUnavailable ∧
      relayIdText (RelayPolicy.buildId notification bootNonce) ≠ stateUnknown := by
  have length : (relayIdText (RelayPolicy.buildId notification bootNonce)).length = 32 := by
    simp [relayIdText, RelayPolicy.length_buildId]
  constructor
  · intro same
    rw [same] at length
    exact absurd length (by decide)
  · intro same
    rw [same] at length
    exact absurd length (by decide)

/-- What happens to the sensor between two notifications: it goes missing, with its
    attributes or without, shows its last values again, or repeats what it shows. -/
inductive Transition where
  | unavailable (keeps : Bool)
  | unknown (keeps : Bool)
  | restored
  | again

/-- What the sensor shows, and the full state it showed last. -/
structure Sensor where
  shown : SourceState
  last : SourceState

def Sensor.after (sensor : Sensor) : Transition → SourceState
  | .unavailable keeps =>
    { state := stateUnavailable, attributes := if keeps then sensor.shown.attributes else [] }
  | .unknown keeps =>
    { state := stateUnknown, attributes := if keeps then sensor.shown.attributes else [] }
  | .restored => sensor.last
  | .again => sensor.shown

inductive SensorMove where
  | shift (transition : Transition)
  /-- the two writes; what the sensor shows in between may be repeated -/
  | notify (notification : SensorNotification) (stateFirst : Bool) (repeats : Nat)

def SensorMove.notification? : SensorMove → Option SensorNotification
  | .shift _ => none
  | .notify notification _ _ => some notification

def notifications (moves : List SensorMove) : List SensorNotification :=
  moves.filterMap SensorMove.notification?

structure Observed (Listener : Type) where
  runtime : AncsRuntime Listener
  sensor : Sensor

namespace Observed
variable {Listener : Type}

def show_ (o : Observed Listener) (state : SourceState) : Observed Listener where
  runtime := handleSourceStateChange o.runtime (some state)
  sensor := { o.sensor with shown := state }

def half (shown : SourceState) (n : SensorNotification) (stateFirst : Bool) : SourceState :=
  if stateFirst then { shown with state := n.relayId } else { shown with attributes := n.attributes }

def step (o : Observed Listener) : SensorMove → Observed Listener
  | .shift transition => o.show_ (o.sensor.after transition)
  | .notify n stateFirst repeats =>
    let written := (List.replicate (repeats + 1) (half o.sensor.shown n stateFirst)).foldl show_ o
    { written.show_ n.state with sensor := { shown := n.state, last := n.state } }

def firstShown (initial : Option SourceState) : SourceState :=
  initial.getD { state := stateUnavailable, attributes := [] }

def start (initial : Option SourceState) : Observed Listener where
  runtime := AncsSourceRuntime.start AncsRuntime.init initial
  sensor := { shown := firstShown initial, last := firstShown initial }

def accepted (o : Observed Listener) : List Mapping :=
  o.runtime.arrivals.map fun arrival => arrival.arrived.notification

end Observed

theorem get_put_of_ne {data : Mapping} {key other : String} (value : PayloadValue)
    (differ : other ≠ key) : get (put data key value) other = get data other := by
  refine Association.lookup_of_others ?_ differ
  unfold put
  split
  · exact Association.others_replace data key value
  · rw [List.filter_append]
    simp

/-- The attributes are a payload with its own relay id, or no notification at all. -/
def Labelled (attributes : Mapping) : Prop :=
  (PayloadValue.relayId (pop attributes attrFriendlyName)).isSome = true ∨
    isTrue (get (pop attributes attrFriendlyName) "complete") = false

def offers (attributes : Mapping) : Option String := admissible (pop attributes attrFriendlyName)

theorem admissible_labelled {attributes : Mapping} (labelled : Labelled attributes) (value : String) :
    (notificationDataFromState { state := value, attributes } = pop attributes attrFriendlyName) ∨
      (admissible (notificationDataFromState { state := value, attributes }) = none ∧
        offers attributes = none) := by
  cases own : PayloadValue.relayId (pop attributes attrFriendlyName) with
  | some relayId => exact .inl (by simp [notificationDataFromState, own])
  | none =>
    have incomplete : isTrue (get (pop attributes attrFriendlyName) "complete") = false := by
      rcases labelled with some_ | incomplete
      · rw [own] at some_
        cases some_
      · exact incomplete
    have filled : isTrue (get (put (pop attributes attrFriendlyName) "relay_id" (.text value))
        "complete") = false := by
      rw [get_put_of_ne _ (by decide), incomplete]
    refine .inr ⟨?_, ?_⟩
    · simp only [notificationDataFromState, own, admissible, filled]
      split <;> rfl
    · simp [offers, admissible, own]

end AncsSourceRuntime

namespace RelayIdWindow

theorem mem_add {window : RelayIdWindow} (sound : window.Sound) (relayId : String) :
    relayId ∈ (window.add relayId).ids := by
  unfold add
  split
  · next known => exact known
  · next new =>
    dsimp only
    split
    · next beyond =>
      split
      · next oldest queue split_ =>
        have once := (sound_longer sound new).2
        have room := window.limit_pos
        have last : relayId ∈ window.queue ++ [relayId] := by simp
        refine Finset.mem_erase.mpr ⟨?_, Finset.mem_insert_self relayId window.ids⟩
        rintro rfl
        cases older : window.queue with
        | nil =>
          rw [older] at beyond
          simp at beyond
          omega
        | cons head tail =>
          rw [older] at split_ once
          obtain ⟨rfl, _⟩ := List.cons.inj split_
          simp at once
      · next empty => simp at empty
    · exact Finset.mem_insert_self relayId window.ids

theorem mem_of_mem_add {window : RelayIdWindow} {relayId id : String}
    (member : id ∈ (window.add relayId).ids) : id = relayId ∨ id ∈ window.ids := by
  unfold add at member
  split at member
  · exact .inr member
  · dsimp only at member
    split at member
    · split at member
      · exact Finset.mem_insert.mp (Finset.mem_of_mem_erase member)
      · exact Finset.mem_insert.mp member
    · exact Finset.mem_insert.mp member

end RelayIdWindow

namespace AncsSourceRuntime
variable {Listener : Type}
open Observed

def Text (state : String) : Prop := state ≠ stateUnavailable ∧ state ≠ stateUnknown

structure Ignores (o o' : Observed Listener) : Prop where
  seen : o'.runtime.seen = o.runtime.seen
  accepted : accepted o' = accepted o

structure Takes (o o' : Observed Listener) (data : Mapping) (relayId : String) : Prop where
  new : relayId ∉ o.runtime.seen.ids
  own : PayloadValue.relayId data = some relayId
  seen : o'.runtime.seen = o.runtime.seen.add relayId
  accepted : accepted o' = accepted o ++ [data]

theorem relayId_of_admissible {data : Mapping} {relayId : String}
    (valid : admissible data = some relayId) : PayloadValue.relayId data = some relayId := by
  unfold admissible at valid
  split at valid
  · cases valid
  · next found =>
    repeat' split at valid
    all_goals cases valid
    exact found

theorem show_refused (o : Observed Listener) {state : SourceState} (text : Text state.state)
    {seen : RelayIdWindow} (refused : parseNotificationData
      (.object (notificationDataFromState state)) o.runtime.seen = (seen, none)) :
    (o.show_ state).runtime = { o.runtime with seen, available := some true } := by
  simp [show_, handleSourceStateChange, text.1, text.2, refused]

theorem show_taken (o : Observed Listener) {state : SourceState} (text : Text state.state)
    {seen : RelayIdWindow} {notification : Mapping} (taken : parseNotificationData
      (.object (notificationDataFromState state)) o.runtime.seen = (seen, some notification)) :
    (o.show_ state).runtime =
      { o.runtime with seen, available := some true }.dispatch notification := by
  simp [show_, handleSourceStateChange, text.1, text.2, taken]

theorem ignores_of_same {o : Observed Listener} {state : SourceState} (available : Option Bool)
    (same : (o.show_ state).runtime = { o.runtime with available }) :
    Ignores o (o.show_ state) where
  seen := by rw [same]
  accepted := by
    rw [accepted, same]
    rfl

theorem show_cases (o : Observed Listener) {state : SourceState}
    (labelled : Labelled state.attributes) :
    (Ignores o (o.show_ state) ∧
      (Text state.state → ∀ relayId, offers state.attributes = some relayId →
        relayId ∈ o.runtime.seen.ids)) ∨
    ∃ relayId, offers state.attributes = some relayId ∧ Text state.state ∧
      Takes o (o.show_ state) (pop state.attributes attrFriendlyName) relayId := by
  by_cases missing : state.state = stateUnavailable
  · refine .inl ⟨ignores_of_same (some false) ?_, fun text => absurd missing text.1⟩
    simp [show_, handleSourceStateChange, missing]
  by_cases unknown : state.state = stateUnknown
  · refine .inl ⟨ignores_of_same (some true) ?_, fun text => absurd unknown text.2⟩
    simp [show_, handleSourceStateChange, unknown]
    decide
  have text : Text state.state := ⟨missing, unknown⟩
  rcases admissible_labelled labelled state.state with own | ⟨refused, nothing⟩
  · cases valid : admissible (pop state.attributes attrFriendlyName) with
    | none =>
      have refused : parseNotificationData (.object (notificationDataFromState state))
          o.runtime.seen = (o.runtime.seen, none) := by
        simp only [parseNotificationData, own, valid]
      have handled := show_refused o text refused
      exact .inl ⟨ignores_of_same _ handled,
        fun _ relayId some_ => absurd (valid.symm.trans some_) (by simp)⟩
    | some relayId =>
      by_cases known : relayId ∈ o.runtime.seen.ids
      · have refused : parseNotificationData (.object (notificationDataFromState state))
            o.runtime.seen = (o.runtime.seen, none) := by
          simp only [parseNotificationData, own, valid, known, if_true]
        have handled := show_refused o text refused
        refine .inl ⟨ignores_of_same _ handled, ?_⟩
        intro _ id some_
        obtain rfl := Option.some.inj (valid.symm.trans some_)
        exact known
      · have taken : parseNotificationData (.object (notificationDataFromState state))
            o.runtime.seen = (o.runtime.seen.add relayId, some (pop state.attributes attrFriendlyName)) := by
          simp only [parseNotificationData, own, valid, known, if_false]
        have handled := show_taken o text taken
        refine .inr ⟨relayId, valid, text, known, relayId_of_admissible valid,
          congrArg AncsRuntime.seen handled, ?_⟩
        rw [accepted, handled]
        simp [AncsRuntime.dispatch, accepted]
  · have rejected : parseNotificationData (.object (notificationDataFromState state))
        o.runtime.seen = (o.runtime.seen, none) := by
      simp only [parseNotificationData, refused]
    have handled := show_refused o text rejected
    exact .inl ⟨ignores_of_same _ handled,
      fun _ relayId some_ => absurd (nothing.symm.trans some_) (by simp)⟩

theorem takes_of_ignores {o o' o'' : Observed Listener} (ignores : Ignores o o') {data : Mapping}
    {relayId : String} (takes : Takes o' o'' data relayId) : Takes o o'' data relayId where
  new := ignores.seen ▸ takes.new
  own := takes.own
  seen := takes.seen.trans (congrArg (RelayIdWindow.add · relayId) ignores.seen)
  accepted := takes.accepted.trans (congrArg (· ++ [data]) ignores.accepted)

theorem repeats_cases (o : Observed Listener) (sound : o.runtime.seen.Sound) {state : SourceState}
    (labelled : Labelled state.attributes) (repeats : Nat) :
    let o' := (List.replicate (repeats + 1) state).foldl show_ o
    (Ignores o o' ∧
      (Text state.state → ∀ relayId, offers state.attributes = some relayId →
        relayId ∈ o.runtime.seen.ids)) ∨
    ∃ relayId, offers state.attributes = some relayId ∧ Text state.state ∧
      Takes o o' (pop state.attributes attrFriendlyName) relayId := by
  induction repeats with
  | zero => exact show_cases o labelled
  | succ repeats ih =>
    rw [List.replicate_succ', List.foldl_append]
    generalize (List.replicate (repeats + 1) state).foldl show_ o = written at ih
    simp only [List.foldl_cons, List.foldl_nil]
    rcases ih with ⟨ignores, known⟩ | ⟨relayId, offered, text, takes⟩
    · rcases show_cases written labelled with ⟨again, _⟩ | ⟨relayId, offered, text, takes⟩
      · exact .inl ⟨⟨again.seen.trans ignores.seen, again.accepted.trans ignores.accepted⟩, known⟩
      · exact .inr ⟨relayId, offered, text, takes_of_ignores ignores takes⟩
    · rcases show_cases written labelled with ⟨again, _⟩ | ⟨other, offered', _, twice⟩
      · exact .inr ⟨relayId, offered, text, takes.new, takes.own, again.seen.trans takes.seen,
          again.accepted.trans takes.accepted⟩
      · obtain rfl := Option.some.inj (offered.symm.trans offered')
        have member := RelayIdWindow.mem_add sound relayId
        rw [← takes.seen] at member
        exact absurd member twice.new

def firstData (initial : Option SourceState) : Mapping :=
  pop (firstShown initial).attributes attrFriendlyName

def firstOffer (initial : Option SourceState) : Option String :=
  offers (firstShown initial).attributes

def seed (Listener : Type) (initial : Option SourceState) : List Mapping :=
  (Observed.start initial : Observed Listener).runtime.latestNotification.toList

def acceptedAs (o : Observed Listener) (relayId : String) : List Mapping :=
  (accepted o).filter fun data => PayloadValue.relayId data == some relayId

structure Traced (initial : Option SourceState) (written : List SensorNotification)
    (o : Observed Listener) : Prop where
  sound : o.runtime.seen.Sound
  known : ∀ id ∈ o.runtime.seen.ids,
    firstOffer initial = some id ∨ ∃ n ∈ written, n.relayId = id
  fields : ∀ data ∈ accepted o,
    (data = firstData initial ∧ PayloadValue.relayId data = firstOffer initial) ∨
      ∃ n ∈ written, data = n.data
  heard : ∀ id ∈ o.runtime.seen.ids,
    ∃ data ∈ seed Listener initial ++ accepted o, PayloadValue.relayId data = some id

/-- Every valid notification was accepted, and one that was not there at the start exactly once
    and with its own fields. -/
structure Accepts (initial : Option SourceState) (written : List SensorNotification)
    (o : Observed Listener) : Prop where
  once : ∀ n ∈ written, n.Valid → firstOffer initial ≠ some n.relayId →
    acceptedAs o n.relayId = [n.data]
  reached : ∀ n ∈ written, n.Valid →
    ∃ data ∈ seed Listener initial ++ accepted o, PayloadValue.relayId data = some n.relayId

section Written
variable {initial : Option SourceState} {written : List SensorNotification}
  {o o' : Observed Listener} {data : Mapping} {id : String}

theorem traced_ignores (traced : Traced initial written o) (ignores : Ignores o o') :
    Traced initial written o' where
  sound := ignores.seen ▸ traced.sound
  known := ignores.seen ▸ traced.known
  fields := ignores.accepted ▸ traced.fields
  heard := by
    rw [ignores.seen, ignores.accepted]
    exact traced.heard

theorem traced_takes (traced : Traced initial written o) (takes : Takes o o' data id)
    (origin : (data = firstData initial ∧ firstOffer initial = some id) ∨
      ∃ n ∈ written, data = n.data) : Traced initial written o' where
  sound := takes.seen ▸ RelayIdWindow.sound_add traced.sound id
  known := by
    intro other member
    rw [takes.seen] at member
    rcases RelayIdWindow.mem_of_mem_add member with rfl | old
    · rcases origin with ⟨_, first⟩ | ⟨n, member, rfl⟩
      · exact .inl first
      · exact .inr ⟨n, member, Option.some.inj (n.own.symm.trans takes.own)⟩
    · exact traced.known other old
  fields := by
    intro other member
    rw [takes.accepted] at member
    rcases List.mem_append.mp member with old | new
    · exact traced.fields other old
    · rw [List.mem_singleton.mp new]
      rcases origin with ⟨same, first⟩ | later
      · exact .inl ⟨same, takes.own.trans first.symm⟩
      · exact .inr later
  heard := by
    intro other member
    rw [takes.seen] at member
    rw [takes.accepted, ← List.append_assoc]
    rcases RelayIdWindow.mem_of_mem_add member with rfl | old
    · exact ⟨data, List.mem_append_right _ (List.mem_singleton_self data), takes.own⟩
    · obtain ⟨was, there, same⟩ := traced.heard other old
      exact ⟨was, List.mem_append_left _ there, same⟩

theorem traced_more (traced : Traced initial written o) (n : SensorNotification) :
    Traced initial (written ++ [n]) o where
  sound := traced.sound
  known := by
    intro id member
    rcases traced.known id member with first | ⟨m, member, same⟩
    · exact .inl first
    · exact .inr ⟨m, List.mem_append_left _ member, same⟩
  fields := by
    intro data member
    rcases traced.fields data member with first | ⟨m, member, same⟩
    · exact .inl first
    · exact .inr ⟨m, List.mem_append_left _ member, same⟩
  heard := traced.heard

theorem acceptedAs_takes (takes : Takes o o' data id) (other : String) :
    acceptedAs o' other = acceptedAs o other ++ if id = other then [data] else [] := by
  unfold acceptedAs
  rw [takes.accepted, List.filter_append]
  by_cases same : id = other <;> simp [takes.own, same]

theorem accepts_ignores (accepts : Accepts initial written o) (ignores : Ignores o o') :
    Accepts initial written o' where
  once := by
    unfold acceptedAs
    rw [ignores.accepted]
    exact accepts.once
  reached := by
    rw [ignores.accepted]
    exact accepts.reached

theorem accepts_takes (accepts : Accepts initial written o) (takes : Takes o o' data id)
    (other : ∀ n ∈ written, firstOffer initial ≠ some n.relayId → id ≠ n.relayId) :
    Accepts initial written o' where
  once := by
    intro n member valid new
    rw [acceptedAs_takes takes, if_neg (other n member new), List.append_nil]
    exact accepts.once n member valid new
  reached := by
    intro n member valid
    obtain ⟨was, there, same⟩ := accepts.reached n member valid
    rw [takes.accepted, ← List.append_assoc]
    exact ⟨was, List.mem_append_left _ there, same⟩

theorem acceptedAs_unwritten (traced : Traced initial written o)
    (unwritten : ∀ n ∈ written, n.relayId ≠ id) (new : firstOffer initial ≠ some id) :
    acceptedAs o id = [] := by
  unfold acceptedAs
  rw [List.filter_eq_nil_iff]
  intro data member same
  have same : PayloadValue.relayId data = some id := by simpa using same
  rcases traced.fields data member with ⟨_, first⟩ | ⟨n, there, rfl⟩
  · exact new (first.symm.trans same)
  · exact unwritten n there (Option.some.inj (n.own.symm.trans same))

end Written

def Stale (seen : RelayIdWindow) (attributes : Mapping) : Prop :=
  ∀ relayId, offers attributes = some relayId → relayId ∈ seen.ids

/-- At rest the sensor offers nothing new, but for what it showed at the start. -/
structure Calm (initial : Option SourceState) (o : Observed Listener) : Prop where
  labelled : Labelled o.sensor.shown.attributes ∧ Labelled o.sensor.last.attributes
  stale : (Stale o.runtime.seen o.sensor.shown.attributes ∧
      Stale o.runtime.seen o.sensor.last.attributes) ∨
    ∀ attributes, attributes = o.sensor.shown.attributes ∨ attributes = o.sensor.last.attributes →
      offers attributes = none ∨ attributes = (firstShown initial).attributes

theorem labelled_nil : Labelled [] := .inr rfl

theorem stale_nil (seen : RelayIdWindow) : Stale seen [] := by
  intro relayId offered
  cases offered

section Moves
variable {initial : Option SourceState} {written : List SensorNotification} {o : Observed Listener}

theorem calm_offers (calm : Calm initial o) {attributes : Mapping}
    (from_ : attributes = [] ∨ attributes = o.sensor.shown.attributes ∨
      attributes = o.sensor.last.attributes) {relayId : String}
    (offered : offers attributes = some relayId) (new : relayId ∉ o.runtime.seen.ids) :
    attributes = (firstShown initial).attributes ∧ firstOffer initial = some relayId ∧
      ∀ seen : RelayIdWindow, relayId ∈ seen.ids →
        Stale seen o.sensor.shown.attributes ∧ Stale seen o.sensor.last.attributes := by
  rcases from_ with rfl | shown
  · cases offered
  rcases calm.stale with ⟨old, older⟩ | first
  · rcases shown with rfl | rfl
    · exact absurd (old relayId offered) new
    · exact absurd (older relayId offered) new
  · have mine : attributes = (firstShown initial).attributes := by
      rcases first attributes shown with none_ | same
      · rw [none_] at offered
        cases offered
      · exact same
    have offer : firstOffer initial = some relayId := by
      rw [firstOffer, ← mine]
      exact offered
    refine ⟨mine, offer, fun seen member => ?_⟩
    have stale : ∀ other, other = o.sensor.shown.attributes ∨ other = o.sensor.last.attributes →
        Stale seen other := by
      intro other there id offered'
      rcases first other there with none_ | same
      · rw [none_] at offered'
        cases offered'
      · rw [same] at offered'
        obtain rfl := Option.some.inj (offer.symm.trans offered')
        exact member
    exact ⟨stale _ (.inl rfl), stale _ (.inr rfl)⟩

theorem labelled_shift (calm : Calm initial o) (transition : Transition) :
    ((o.sensor.after transition).attributes = [] ∨
      (o.sensor.after transition).attributes = o.sensor.shown.attributes ∨
      (o.sensor.after transition).attributes = o.sensor.last.attributes) ∧
    Labelled (o.sensor.after transition).attributes := by
  cases transition with
  | unavailable keeps =>
    cases keeps with
    | false => exact ⟨.inl rfl, labelled_nil⟩
    | true => exact ⟨.inr (.inl rfl), calm.labelled.1⟩
  | unknown keeps =>
    cases keeps with
    | false => exact ⟨.inl rfl, labelled_nil⟩
    | true => exact ⟨.inr (.inl rfl), calm.labelled.1⟩
  | restored => exact ⟨.inr (.inr rfl), calm.labelled.2⟩
  | again => exact ⟨.inr (.inl rfl), calm.labelled.1⟩

structure Paired (initial : Option SourceState) (written : List SensorNotification)
    (o : Observed Listener) : Prop where
  traced : Traced initial written o
  accepts : Accepts initial written o
  calm : Calm initial o

theorem paired_shift (paired : Paired initial written o) (transition : Transition) :
    Paired initial written (o.step (.shift transition)) := by
  obtain ⟨from_, labelled⟩ := labelled_shift paired.calm transition
  have shown : (o.step (.shift transition)).sensor =
      { o.sensor with shown := o.sensor.after transition } := rfl
  rcases show_cases o labelled with ⟨ignores, _⟩ | ⟨relayId, offered, _, takes⟩
  · refine ⟨traced_ignores paired.traced ignores, accepts_ignores paired.accepts ignores,
      ⟨labelled, paired.calm.labelled.2⟩, ?_⟩
    rcases paired.calm.stale with ⟨old, older⟩ | first
    · left
      have same : (o.step (.shift transition)).runtime.seen = o.runtime.seen := ignores.seen
      rw [same, shown]
      refine ⟨?_, older⟩
      rcases from_ with nothing | mine | last
      · dsimp only
        rw [nothing]
        exact stale_nil _
      · dsimp only
        rw [mine]
        exact old
      · dsimp only
        rw [last]
        exact older
    · right
      rw [shown]
      intro attributes there
      rcases there with rfl | rfl
      · rcases from_ with nothing | mine
        · dsimp only
          rw [nothing]
          exact .inl rfl
        · exact first _ mine
      · exact first _ (.inr rfl)
  · obtain ⟨mine, offer, stale⟩ := calm_offers paired.calm from_ offered takes.new
    have member : relayId ∈ (o.step (.shift transition)).runtime.seen.ids := by
      have seen : (o.step (.shift transition)).runtime.seen = o.runtime.seen.add relayId :=
        takes.seen
      rw [seen]
      exact RelayIdWindow.mem_add paired.traced.sound relayId
    obtain ⟨old, older⟩ := stale _ member
    refine ⟨traced_takes paired.traced takes (.inl ⟨congrArg (pop · attrFriendlyName) mine, offer⟩),
      accepts_takes paired.accepts takes ?_, ⟨labelled, paired.calm.labelled.2⟩, .inl ⟨?_, older⟩⟩
    · rintro n _ new rfl
      exact new offer
    · intro id offered'
      rw [shown] at offered'
      obtain rfl := Option.some.inj (offered.symm.trans offered')
      exact member

theorem offers_own {n : SensorNotification} {id : String} (offered : offers n.attributes = some id) :
    id = n.relayId :=
  Option.some.inj ((relayId_of_admissible offered).symm.trans n.own)

theorem labelled_own (n : SensorNotification) : Labelled n.attributes := by
  left
  rw [n.own]
  rfl

theorem labelled_own_state (n : SensorNotification) : Labelled n.state.attributes := labelled_own n

/-- What the first of the two writes may be taken for: nothing, the notification of the start,
    or already the new one. -/
theorem first_write (paired : Paired initial written o) (n : SensorNotification)
    (stateFirst : Bool) (repeats : Nat) :
    let o' := (List.replicate (repeats + 1) (half o.sensor.shown n stateFirst)).foldl show_ o
    (Traced initial written o' ∧ Accepts initial written o') ∨ Takes o o' n.data n.relayId := by
  have labelled : Labelled (half o.sensor.shown n stateFirst).attributes := by
    cases stateFirst with
    | false => exact labelled_own n
    | true => exact paired.calm.labelled.1
  rcases repeats_cases o paired.traced.sound labelled repeats with
    ⟨ignores, _⟩ | ⟨relayId, offered, _, takes⟩
  · exact .inl ⟨traced_ignores paired.traced ignores, accepts_ignores paired.accepts ignores⟩
  · cases stateFirst with
    | false =>
      obtain rfl := offers_own offered
      exact .inr takes
    | true =>
      obtain ⟨mine, offer, _⟩ := calm_offers paired.calm (.inr (.inl rfl)) offered takes.new
      refine .inl ⟨traced_takes paired.traced takes
        (.inl ⟨congrArg (pop · attrFriendlyName) mine, offer⟩), accepts_takes paired.accepts takes ?_⟩
      rintro m _ new rfl
      exact new offer

theorem text_own (n : SensorNotification) : Text n.state.state := n.shown

theorem paired_full {o' : Observed Listener} {n : SensorNotification}
    (traced : Traced initial (written ++ [n]) o') (accepts : Accepts initial (written ++ [n]) o')
    (known : ∀ id, offers n.attributes = some id → id ∈ o'.runtime.seen.ids) :
    Paired initial (written ++ [n]) { o' with sensor := { shown := n.state, last := n.state } } where
  traced := ⟨traced.sound, traced.known, traced.fields, traced.heard⟩
  accepts := ⟨accepts.once, accepts.reached⟩
  calm := ⟨⟨labelled_own n, labelled_own n⟩, .inl ⟨known, known⟩⟩

theorem accepts_more {o' : Observed Listener} {n : SensorNotification}
    (traced : Traced initial (written ++ [n]) o') (accepts : Accepts initial written o')
    (once : n.Valid → firstOffer initial ≠ some n.relayId → acceptedAs o' n.relayId = [n.data])
    (known : ∀ id, offers n.attributes = some id → id ∈ o'.runtime.seen.ids) :
    Accepts initial (written ++ [n]) o' where
  once := by
    intro m member valid new
    rcases List.mem_append.mp member with old | last
    · exact accepts.once m old valid new
    · obtain rfl := List.mem_singleton.mp last
      exact once valid new
  reached := by
    intro m member valid
    rcases List.mem_append.mp member with old | last
    · exact accepts.reached m old valid
    · obtain rfl := List.mem_singleton.mp last
      exact traced.heard m.relayId (known m.relayId valid)

theorem paired_notify (paired : Paired initial written o) (n : SensorNotification)
    (distinct : ∀ m ∈ written, m.relayId ≠ n.relayId) (stateFirst : Bool) (repeats : Nat) :
    Paired initial (written ++ [n]) (o.step (.notify n stateFirst repeats)) := by
  have mine : (∃ m ∈ written ++ [n], n.data = m.data) := ⟨n, by simp, rfl⟩
  have apart : ∀ m ∈ written, firstOffer initial ≠ some m.relayId → n.relayId ≠ m.relayId :=
    fun m member _ same => distinct m member same.symm
  have first := first_write paired n stateFirst repeats
  have moved : o.step (.notify n stateFirst repeats) =
      { ((List.replicate (repeats + 1) (half o.sensor.shown n stateFirst)).foldl show_ o).show_
          n.state with sensor := { shown := n.state, last := n.state } } := rfl
  rw [moved]
  generalize (List.replicate (repeats + 1) (half o.sensor.shown n stateFirst)).foldl show_ o = o₁
    at first
  have second := show_cases o₁ (labelled_own_state n)
  generalize o₁.show_ n.state = o₂ at second
  rcases first with ⟨traced, accepts⟩ | taken
  · have new : firstOffer initial ≠ some n.relayId →
        acceptedAs o₁ n.relayId = [] ∧ n.relayId ∉ o₁.runtime.seen.ids := by
      intro new
      refine ⟨acceptedAs_unwritten traced distinct new, fun member => ?_⟩
      rcases traced.known _ member with first | ⟨m, there, same⟩
      · exact new first
      · exact distinct m there same
    rcases second with ⟨ignores, known⟩ | ⟨relayId, offered, _, takes⟩
    · have known₂ : ∀ id, offers n.attributes = some id → id ∈ o₂.runtime.seen.ids := by
        rw [ignores.seen]
        exact known (text_own n)
      have traced₂ := traced_more (traced_ignores traced ignores) n
      refine paired_full traced₂ (accepts_more traced₂ (accepts_ignores accepts ignores) ?_ known₂)
        known₂
      intro valid notFirst
      exact absurd (known (text_own n) n.relayId valid) (new notFirst).2
    · obtain rfl := offers_own offered
      have known₂ : ∀ id, offers n.attributes = some id → id ∈ o₂.runtime.seen.ids := by
        intro id offered'
        rw [offers_own offered', takes.seen]
        exact RelayIdWindow.mem_add traced.sound n.relayId
      have traced₂ := traced_takes (traced_more traced n) takes (.inr mine)
      refine paired_full traced₂ (accepts_more traced₂ (accepts_takes accepts takes apart) ?_ known₂)
        known₂
      intro _ notFirst
      have unheard := (new notFirst).1
      rw [acceptedAs_takes takes, if_pos rfl, unheard]
      rfl
  · have member : n.relayId ∈ o₁.runtime.seen.ids := by
      rw [taken.seen]
      exact RelayIdWindow.mem_add paired.traced.sound n.relayId
    have traced₁ := traced_takes (traced_more paired.traced n) taken (.inr mine)
    have accepts₁ := accepts_takes paired.accepts taken apart
    rcases second with ⟨ignores, _⟩ | ⟨relayId, offered, _, twice⟩
    · have known₂ : ∀ id, offers n.attributes = some id → id ∈ o₂.runtime.seen.ids := by
        intro id offered'
        rw [offers_own offered', ignores.seen]
        exact member
      have traced₂ := traced_ignores traced₁ ignores
      refine paired_full traced₂ (accepts_more traced₂ (accepts_ignores accepts₁ ignores) ?_ known₂)
        known₂
      intro _ notFirst
      have unheard := acceptedAs_unwritten paired.traced distinct notFirst
      have heard : acceptedAs o₂ n.relayId = acceptedAs o₁ n.relayId := by
        unfold acceptedAs
        rw [ignores.accepted]
      rw [heard, acceptedAs_takes taken, if_pos rfl, unheard]
      rfl
    · obtain rfl := offers_own offered
      exact absurd member twice.new

end Moves

theorem sound_window (Listener : Type) : (AncsRuntime.init : AncsRuntime Listener).seen.Sound :=
  RelayIdWindow.sound_init defaultRelayIdWindowSize (by decide)

theorem traced_unseeded {initial : Option SourceState} {o : Observed Listener}
    (available : Option Bool) (started : o.runtime = { AncsRuntime.init with available }) :
    Traced initial [] o := by
  have seen : o.runtime.seen = (AncsRuntime.init : AncsRuntime Listener).seen := by
    rw [started]
  have none_ : accepted o = [] := by
    rw [accepted, started]
    rfl
  exact {
    sound := seen ▸ sound_window Listener
    known := by
      rw [seen]
      exact fun _ member => absurd member (Finset.notMem_empty _)
    fields := by
      rw [none_]
      exact fun _ member => absurd member List.not_mem_nil
    heard := by
      rw [seen]
      exact fun _ member => absurd member (Finset.notMem_empty _) }

theorem traced_start (initial : Option SourceState)
    (labelled : ∀ state, initial = some state → Labelled state.attributes) :
    Traced initial [] (Observed.start initial : Observed Listener) := by
  cases initial with
  | none => exact traced_unseeded (some false) rfl
  | some state =>
    by_cases missing : state.state = stateUnavailable
    · apply traced_unseeded (some false)
      simp [Observed.start, AncsSourceRuntime.start, missing]
    by_cases unknown : state.state = stateUnknown
    · have differ : stateUnknown ≠ stateUnavailable := by decide
      apply traced_unseeded (some true)
      simp [Observed.start, AncsSourceRuntime.start, unknown, differ]
    rcases admissible_labelled (labelled state rfl) state.state with own | ⟨refused, _⟩
    · cases valid : admissible (pop state.attributes attrFriendlyName) with
      | none =>
        apply traced_unseeded (some true)
        simp [Observed.start, AncsSourceRuntime.start, missing, unknown, parseNotificationData, own,
          valid]
      | some relayId =>
        have fresh : relayId ∉ (AncsRuntime.init : AncsRuntime Listener).seen.ids :=
          Finset.notMem_empty relayId
        have started : (Observed.start (some state) : Observed Listener).runtime =
            { (AncsRuntime.init : AncsRuntime Listener) with
              seen := (AncsRuntime.init : AncsRuntime Listener).seen.add relayId
              available := some true
              latestNotification := some (pop state.attributes attrFriendlyName) } := by
          simp [Observed.start, AncsSourceRuntime.start, missing, unknown, parseNotificationData,
            own, valid, fresh]
        have seen : (Observed.start (some state) : Observed Listener).runtime.seen =
            (AncsRuntime.init : AncsRuntime Listener).seen.add relayId := by
          rw [started]
        have seeded : seed Listener (some state) = [pop state.attributes attrFriendlyName] := by
          rw [seed, started]
          rfl
        have none_ : accepted (Observed.start (some state) : Observed Listener) = [] := by
          rw [accepted, started]
          rfl
        exact {
          sound := by
            rw [seen]
            exact RelayIdWindow.sound_add (sound_window Listener) relayId
          known := by
            intro id member
            rw [seen] at member
            rcases RelayIdWindow.mem_of_mem_add member with rfl | old
            · exact .inl valid
            · exact absurd old (Finset.notMem_empty _)
          fields := by
            rw [none_]
            exact fun _ member => absurd member List.not_mem_nil
          heard := by
            intro id member
            rw [seen] at member
            rw [seeded, none_]
            rcases RelayIdWindow.mem_of_mem_add member with rfl | old
            · exact ⟨_, List.mem_singleton_self _, relayId_of_admissible valid⟩
            · exact absurd old (Finset.notMem_empty _) }
    · apply traced_unseeded (some true)
      simp [Observed.start, AncsSourceRuntime.start, missing, unknown, parseNotificationData,
        refused]

theorem paired_start (initial : Option SourceState)
    (labelled : ∀ state, initial = some state → Labelled state.attributes) :
    Paired initial [] (Observed.start initial : Observed Listener) := by
  have first : Labelled (firstShown initial).attributes := by
    cases initial with
    | none => exact labelled_nil
    | some state => exact labelled state rfl
  have calm : Calm initial (Observed.start initial : Observed Listener) := by
    refine ⟨⟨first, first⟩, .inr ?_⟩
    intro attributes there
    exact .inr (there.elim id id)
  have accepts : Accepts initial [] (Observed.start initial : Observed Listener) :=
    ⟨fun _ member => absurd member List.not_mem_nil, fun _ member => absurd member List.not_mem_nil⟩
  exact ⟨traced_start initial labelled, accepts, calm⟩

theorem paired_run {initial : Option SourceState} {written : List SensorNotification}
    {o : Observed Listener} (paired : Paired initial written o) (moves : List SensorMove)
    (distinct : ((written ++ notifications moves).map SensorNotification.relayId).Nodup) :
    Paired initial (written ++ notifications moves) (run Observed.step o moves) := by
  induction moves generalizing written o with
  | nil =>
    have same : written ++ notifications [] = written := List.append_nil written
    rw [same]
    exact paired
  | cons move rest ih =>
    cases move with
    | shift transition => exact ih (paired_shift paired transition) distinct
    | notify n stateFirst repeats =>
      have split_ : written ++ notifications (.notify n stateFirst repeats :: rest) =
          (written ++ [n]) ++ notifications rest := by
        simp [notifications, SensorMove.notification?]
      rw [split_] at distinct ⊢
      refine ih (paired_notify paired n ?_ stateFirst repeats) distinct
      intro m member same
      rw [List.map_append, List.map_append] at distinct
      have apart := List.nodup_append.mp (List.nodup_append.mp distinct).1
      exact apart.2.2 _ (List.mem_map_of_mem member) _ (List.mem_singleton_self _) same

/-- From any state that the sensor shows first, and for notifications with relay ids of their
    own, each written in two halves in either order: every valid notification is accepted, one
    that the sensor did not show at the start exactly once and with its own fields, and nothing
    is accepted but a notification as it was published. -/
theorem writes_are_paired (initial : Option SourceState)
    (labelled : ∀ state, initial = some state → Labelled state.attributes)
    (moves : List SensorMove)
    (distinct : ((notifications moves).map SensorNotification.relayId).Nodup) :
    let o : Observed Listener := run Observed.step (Observed.start initial) moves
    (∀ n ∈ notifications moves, n.Valid →
      (firstOffer initial ≠ some n.relayId → acceptedAs o n.relayId = [n.data]) ∧
        ∃ data ∈ seed Listener initial ++ accepted o, PayloadValue.relayId data = some n.relayId) ∧
      ∀ data ∈ accepted o, data = firstData initial ∧ PayloadValue.relayId data = firstOffer initial ∨
        ∃ n ∈ notifications moves, data = n.data ∧ PayloadValue.relayId data = some n.relayId := by
  have paired : Paired initial ([] ++ notifications moves)
      (run Observed.step (Observed.start initial : Observed Listener) moves) :=
    paired_run (paired_start initial labelled) moves distinct
  refine ⟨fun n member valid => ⟨paired.accepts.once n member valid,
    paired.accepts.reached n member valid⟩, fun data member => ?_⟩
  rcases paired.traced.fields data member with first | ⟨n, there, rfl⟩
  · exact .inl first
  · exact .inr ⟨n, there, rfl, n.own⟩

def payload (relayId : String) : Mapping :=
  [("relay_id", .text relayId), ("complete", .boolean true), ("event", .text "added")]

def sent (relayId : String) (own : PayloadValue.relayId (pop (payload relayId) attrFriendlyName) =
    some relayId) (shown : relayId ≠ stateUnavailable ∧ relayId ≠ stateUnknown) :
    SensorNotification := { relayId, attributes := payload relayId, own, shown }

/-- A sensor that shows a notification already, then two more, one written from either end and
    the sensor missing in between. -/
def pairingRun : List SensorMove :=
  [.shift .again, .notify (sent "b" (by decide) (by decide)) true 1, .shift (.unavailable false),
    .shift .restored, .notify (sent "c" (by decide) (by decide)) false 0]

theorem writes_are_paired_restored :
    let initial := some { state := "a", attributes := payload "a" }
    let o : Observed Nat := run Observed.step (Observed.start initial) pairingRun
    (∀ n ∈ notifications pairingRun, n.Valid →
      (firstOffer initial ≠ some n.relayId → acceptedAs o n.relayId = [n.data]) ∧
        ∃ data ∈ seed Nat initial ++ accepted o, PayloadValue.relayId data = some n.relayId) ∧
      ∀ data ∈ accepted o, data = firstData initial ∧ PayloadValue.relayId data = firstOffer initial ∨
        ∃ n ∈ notifications pairingRun, data = n.data ∧ PayloadValue.relayId data = some n.relayId := by
  have labelled : ∀ state : SourceState, some { state := "a", attributes := payload "a" } = some state →
      Labelled state.attributes := by
    intro state same
    cases same
    left
    decide
  exact writes_are_paired _ labelled pairingRun (by decide)

end AncsSourceRuntime
