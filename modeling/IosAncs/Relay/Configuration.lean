import IosAncs.Relay.Duplicates

/-!
The topic of an item and the configuration of the client that is given it: they agree
unless an item is accepted after the configuration changed under its observer.
-/
open Runs RelayContext RelayPolicy RelayLedger

namespace RelayLedger
variable {limits : AncsLimits} {rules : RelayRules limits} {b b' : RelayLedger limits}

def Carries (sightings : List (RelaySighting limits)) (item : PayloadItem) (setup : RelaySetup) :
    Prop :=
  ∃ sighting, sightings[item.address]? = some sighting ∧ sighting.setup = setup ∧
    item.topic = setup.topics.notification

def TopicsBuilt (setup : RelaySetup) : Prop :=
  MqttRelay.buildAllTopics setup.config = .ok setup.topics

structure Topical (b : RelayLedger limits) : Prop where
  held : ∀ entry ∈ b.held, b.sightings[entry.2]? = some entry.1
  queue : ∀ item ∈ b.queue, Carries b.sightings item b.setup
  hand : ∀ item ∈ b.hand, Carries b.sightings item b.setup
  client : ∀ setup, b.client = some setup → setup = b.setup ∧ TopicsBuilt setup
  handed : ∀ handover ∈ b.handed,
    Carries b.sightings handover.item handover.client ∧ TopicsBuilt handover.client

theorem carries_grown {sightings : List (RelaySighting limits)} {item : PayloadItem}
    {setup : RelaySetup} (carries : Carries sightings item setup) (sighting : RelaySighting limits) :
    Carries (sightings ++ [sighting]) item setup := by
  obtain ⟨seen, found, same, topic⟩ := carries
  have inside : item.address < sightings.length := (List.getElem?_eq_some_iff.mp found).1
  exact ⟨seen, by rw [List.getElem?_append_left inside, found], same, topic⟩

theorem held_grown (topical : Topical b) {sighting : RelaySighting limits}
    {held : List (RelaySighting limits × Nat)}
    (same : held.Perm ((sighting, b.sightings.length) :: b.held)) :
    ∀ entry ∈ held, (b.sightings ++ [sighting])[entry.2]? = some entry.1 := by
  intro entry member
  rcases List.mem_cons.mp (same.mem_iff.mp member) with rfl | older
  · simp
  · have found := topical.held entry older
    have inside : entry.2 < b.sightings.length := (List.getElem?_eq_some_iff.mp found).1
    rw [List.getElem?_append_left inside, found]

theorem held_left (topical : Topical b) {sighting : RelaySighting limits} {address : Nat}
    {held : List (RelaySighting limits × Nat)} (same : b.held.Perm ((sighting, address) :: held)) :
    b.sightings[address]? = some sighting ∧ ∀ entry ∈ held, b.sightings[entry.2]? = some entry.1 := by
  constructor
  · exact topical.held (sighting, address) (same.mem_iff.mpr List.mem_cons_self)
  · intro entry member
    exact topical.held entry (same.mem_iff.mpr (List.mem_cons_of_mem _ member))

def current (b : RelayLedger limits) (sighting : RelaySighting limits) : Prop :=
  sighting.setup = b.setup

theorem topical_move (topical : Topical b) (allowed : rules.accepts = current)
    (move : Move rules b b') : Topical b' := by
  have queueEmpty (empty : b'.queue = []) :
      ∀ item ∈ b'.queue, Carries b'.sightings item b'.setup := by
    simp [empty]
  have handEmpty (empty : b'.hand = []) :
      ∀ item ∈ b'.hand, Carries b'.sightings item b'.setup := by
    simp [empty]
  have closed (none : b'.client = none) :
      ∀ setup, b'.client = some setup → setup = b'.setup ∧ TopicsBuilt setup := by
    simp [none]
  cases move with
  | link online up => exact ⟨topical.held, topical.queue, topical.hand, topical.client, topical.handed⟩
  | allocate sighting held same =>
    constructor
    · exact held_grown topical same
    · exact fun item member => carries_grown (topical.queue item member) sighting
    · exact fun item member => carries_grown (topical.hand item member) sighting
    · exact topical.client
    · intro handover member
      obtain ⟨carries, built⟩ := topical.handed handover member
      exact ⟨carries_grown carries sighting, built⟩
  | refuse sighting address held same =>
    exact ⟨(held_left topical same).2, topical.queue, topical.hand, topical.client, topical.handed⟩
  | overflow sighting address held same =>
    exact ⟨(held_left topical same).2, topical.queue, topical.hand, topical.client, topical.handed⟩
  | accept sighting item held same topic unknown accepts =>
    rw [allowed] at accepts
    obtain ⟨found, rest⟩ := held_left topical same
    refine ⟨rest, ?_, topical.hand, topical.client, topical.handed⟩
    intro queued member
    rcases List.mem_append.mp member with older | newest
    · exact topical.queue queued older
    · rw [List.mem_singleton.mp newest]
      exact ⟨sighting, found, accepts, by rw [topic, sighting.copied, accepts]⟩
  | take item rest queue idle =>
    refine ⟨topical.held, ?_, ?_, topical.client, topical.handed⟩
    · intro queued member
      apply topical.queue queued
      rw [queue]
      exact List.mem_cons_of_mem _ member
    · intro taken member
      apply topical.queue taken
      rw [queue, List.mem_singleton.mp member]
      exact List.mem_cons_self
  | handOver item client hand made =>
    refine ⟨topical.held, topical.queue, topical.hand, topical.client, ?_⟩
    intro handover member
    rcases List.mem_cons.mp member with rfl | older
    · obtain ⟨same, built⟩ := topical.client client made
      refine ⟨?_, built⟩
      rw [same]
      exact topical.hand item (by rw [hand]; exact List.mem_cons_self)
    · exact topical.handed handover older
  | refused item hand allowed =>
    exact ⟨topical.held, topical.queue, handEmpty rfl, topical.client, topical.handed⟩
  | abandon item hand =>
    exact ⟨topical.held, topical.queue, handEmpty rfl, topical.client, topical.handed⟩
  | track item msgId hand =>
    exact ⟨topical.held, topical.queue, handEmpty rfl, topical.client, topical.handed⟩
  | acknowledge item newer older pending =>
    exact ⟨topical.held, topical.queue, topical.hand, topical.client, topical.handed⟩
  | flush => exact ⟨topical.held, queueEmpty rfl, topical.hand, topical.client, topical.handed⟩
  | close => exact ⟨topical.held, queueEmpty rfl, topical.hand, closed rfl, topical.handed⟩
  | swap setup idle =>
    refine ⟨topical.held, queueEmpty rfl, ?_, closed rfl, topical.handed⟩
    simp [flushed, idle]
  | prepare bootNonce setup idle empty shut =>
    exact ⟨topical.held, queueEmpty empty, handEmpty idle, closed shut, topical.handed⟩
  | create built =>
    refine ⟨topical.held, topical.queue, topical.hand, ?_, topical.handed⟩
    intro setup same
    cases same
    exact ⟨rfl, built⟩
  | reopen online built =>
    refine ⟨topical.held, topical.queue, topical.hand, ?_, topical.handed⟩
    intro setup same
    cases same
    exact ⟨rfl, built⟩
  | leave setup idle =>
    refine ⟨topical.held, queueEmpty rfl, ?_, closed rfl, topical.handed⟩
    simp [flushed, idle]

end RelayLedger

namespace RelaySystem
variable {limits : AncsLimits} {sys : RelaySystem limits}

/-- What a client was given carries the topic of the client's configuration, and was
    copied from that configuration. -/
def TopicsCurrent (sys : RelaySystem limits) : Prop :=
  ∀ handover ∈ sys.handed,
    (∃ topics, MqttRelay.buildAllTopics handover.client.config = .ok topics ∧
      handover.item.topic = topics.notification) ∧
    ∃ sighting, sys.sightings[handover.item.address]? = some sighting ∧
      sighting.setup = handover.client

/-- No item is accepted under another setup than the one its topic was copied from. -/
def AcceptsCurrent (sys : RelaySystem limits) (action : RelayAction limits) : Prop :=
  ∀ sighting ∈ sys.accepts action, sighting.setup = sys.setup

instance (sys : RelaySystem limits) (action : RelayAction limits) :
    Decidable (AcceptsCurrent sys action) :=
  inferInstanceAs (Decidable (∀ sighting ∈ sys.accepts action, sighting.setup = sys.setup))

def currentRules : RelayRules limits where
  connects := fun _ => True
  accepts := RelayLedger.current
  refuses := fun _ _ => True

theorem obeys_current {action : RelayAction limits} (accepts : AcceptsCurrent sys action) :
    Obeys currentRules sys action :=
  ⟨fun _ => trivial, accepts, fun _ _ _ => trivial⟩

def finishes : RelayAction limits → Bool
  | .finish _ _ => true
  | _ => false

theorem unfinished_accepts (sys : RelaySystem limits) {action : RelayAction limits}
    (unfinished : finishes action = false) : AcceptsCurrent sys action := by
  cases action with
  | finish index nowMs => cases unfinished
  | _ => simp [AcceptsCurrent, accepts]

theorem unfinished_accepts_current (sys : RelaySystem limits) {actions : List (RelayAction limits)}
    (unfinished : actions.all (fun action => !finishes action) = true) :
    AllSteps step AcceptsCurrent sys actions := by
  induction actions generalizing sys with
  | nil => trivial
  | cons action rest ih =>
    simp only [List.all_cons, Bool.and_eq_true, Bool.not_eq_true'] at unfinished
    exact ⟨unfinished_accepts sys unfinished.1, ih _ unfinished.2⟩

theorem observed_setup {ctx : RelayContext} {bootNonce : UInt32} {setup : RelaySetup}
    {notification : AncsNotification limits} {sighting : RelaySighting limits}
    (begins : (ctx.observeBegin bootNonce setup notification).2 = some sighting) :
    sighting.setup = setup := by
  unfold RelayContext.observeBegin at begins
  dsimp only at begins
  split at begins
  · cases begins
  · split at begins
    · cases begins
      rfl
    · cases begins

/-- A call of observe that nothing comes between accepts under its own setup. -/
theorem accepts_current_at_once (alone : sys.observers = []) (notification : AncsNotification limits)
    (payload : List UInt8) (nowMs : UInt64) :
    AcceptsCurrent ((sys.observe notification).allocate 0 (some payload)) (.finish 0 nowMs) := by
  intro accepted admitted
  unfold observe at admitted ⊢
  split at admitted
  · simp [accepts, allocate, withCtx, alone] at admitted
  · next ctx sighting begins =>
    have setup := observed_setup (congrArg Prod.snd begins)
    simp only [accepts, allocate, alone, List.nil_append, List.getElem?_cons_zero,
      List.eraseIdx_zero, List.tail_cons] at admitted ⊢
    split at admitted
    · cases admitted
      exact setup
    · cases admitted

theorem at_once_accepts_current (alone : sys.observers = []) (notification : AncsNotification limits)
    (payload : List UInt8) (nowMs : UInt64) {rest : List (RelayAction limits)}
    (unfinished : rest.all (fun action => !finishes action) = true) :
    AllSteps step AcceptsCurrent sys
      (.observe notification :: .allocate 0 (some payload) :: .finish 0 nowMs :: rest) :=
  ⟨unfinished_accepts _ rfl, unfinished_accepts _ rfl,
    accepts_current_at_once alone notification payload nowMs, unfinished_accepts_current _ unfinished⟩

theorem topical_current (topical : Topical sys.ledger) : TopicsCurrent sys := by
  intro handover member
  obtain ⟨⟨sighting, found, same, topic⟩, built⟩ := topical.handed handover member
  exact ⟨⟨_, built, topic⟩, sighting, found, same⟩

/-- In a run that accepts items under their own setup, every client is given the topics of
    its own configuration. -/
theorem topics_current_of_accepts_current (actions : List (RelayAction limits))
    (accepts : AllSteps step AcceptsCurrent boot actions) :
    AllStates step TopicsCurrent boot actions := by
  have start : Topical (boot : RelaySystem limits).ledger := by
    constructor <;> simp [ledger, boot, zero, RelayWorker.hand]
  have obeys : AllSteps step (Obeys currentRules) boot actions :=
    all_steps_mono (fun _ _ accepts => obeys_current accepts) accepts
  have kept (b b' : RelayLedger limits) (topical : Topical b) (move : Move currentRules b b') :
      Topical b' := topical_move topical rfl move
  exact all_states_mono (fun _ topical => topical_current topical) (all_ledgers start kept actions obeys)

section Reconfigured
open CString MqttRelay

def otherConfig : ProvisionConfig :=
  { firstConfig (ascii "phone") with mqttBaseTopic := ofText 128 [117] }

/-- `mqtt_relay_reconfigure` with the worker idle, up to the connection. -/
def changeConfig {limits : AncsLimits} (config : ProvisionConfig) : List (RelayAction limits) :=
  [.call (.reconfigure config), .outer none, .inner (.lifecycle 0 0), .inner (.lifecycle 0 0),
    .inner (.lifecycle 0 0), .inner (.lifecycle 0 0), .inner (.lifecycle 0 0),
    .inner (.lifecycle 0 0), .outer none, .outer none, .outer (some 1), .outer none,
    .inner (.lifecycle 0 0), .inner (.lifecycle 0 0), .inner (.event .connected),
    .inner (.handler 0 0), .inner (.handler 0 0), .inner (.handler 0 0), .inner (.handler 0 0)]

def drainOne {limits : AncsLimits} : List (RelayAction limits) :=
  [.inner (.worker .cleanup 0), .inner (.worker .cleanup 0), .inner (.worker .cleanup 0),
    .inner (.worker .cleanup 0), .inner (.worker .cleanup 0), .inner (.worker .cleanup 0)]

/-- The item was copied under the first configuration and accepted under the second. -/
def observedThrough : List (RelayAction .default) :=
  bringUp (firstConfig (ascii "phone")) 1 ++ [.observe chatMessage, .allocate 0 (some [])] ++
    changeConfig otherConfig ++ [.finish 0 0] ++ drainOne

def ownTopics (handed : List RelayHandover) : Bool :=
  handed.all fun handover =>
    match buildAllTopics handover.client.config with
    | .ok topics => handover.item.topic = topics.notification
    | .error _ => false

theorem topics_current_own (current : TopicsCurrent sys) : ownTopics sys.handed = true := by
  rw [ownTopics, List.all_eq_true]
  intro handover member
  obtain ⟨⟨topics, built, topic⟩, _⟩ := current handover member
  simp [built, topic]

/-- The new client is given an item under the topic of the configuration before it. -/
theorem reconfigured_client_is_given_an_old_topic :
    ¬ AllStates step TopicsCurrent (boot : RelaySystem .default) observedThrough := by
  intro all
  have given : ownTopics (Runs.run step (boot : RelaySystem .default) observedThrough).handed = false := by
    decide +kernel
  rw [topics_current_own (all_states_last all)] at given
  cases given

def observedAtOnce : List (RelayAction .default) :=
  bringUp (firstConfig (ascii "phone")) 1 ++
    .observe chatMessage :: .allocate 0 (some []) :: .finish 0 0 :: drainOne

theorem topics_current_of_accepts_current_drained :
    AllStates step TopicsCurrent (boot : RelaySystem .default) observedAtOnce := by
  have alone : (Runs.run step (boot : RelaySystem .default)
      (bringUp (firstConfig (ascii "phone")) 1)).observers = [] := by
    rw [← List.isEmpty_iff]
    decide +kernel
  apply topics_current_of_accepts_current
  rw [observedAtOnce, all_steps_append]
  exact ⟨unfinished_accepts_current _ rfl, at_once_accepts_current alone chatMessage [] 0 rfl⟩

end Reconfigured

end RelaySystem
