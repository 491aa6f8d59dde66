import IosAncs.Foundation.Runs
import IosAncs.Relay.Frames

/-!
Stopping the relay while the client posts events and the worker goes on. The
lifecycle lock lets one call of start, reconnect and stop run at a time; what
the event handler did since a stop began is kept as the list of its sections
that write the connection flags. The source is `mqtt_relay.c`.
-/
open Runs RelayContext

/-- Where the lifecycle calls stand between two of their sections. -/
inductive RelayLifecycle where
  | idle
  /-- `mqtt_relay_stop` has returned, and nothing was started since -/
  | stopped
  | creatingWorker (reconnect : Bool)
  | starting (reconnect : Bool)
  | startCalling (reconnect : Bool)
  | startFailed (error : Int)
  /-- in `mqtt_relay_wait_worker_idle` -/
  | flushed (publishOffline : Bool)
  | announcing
  | announcingCall
  | barring
  /-- in `mqtt_relay_wait_publish_idle` -/
  | quieting
  | stoppingClient
deriving DecidableEq, Repr

/-- The sections of the event handler that write `mqtt_connected` or `mqtt_connecting`. -/
inductive FlagSection where
  | beforeConnect
  | connected
  | subscribeFailed
  | disconnected
deriving DecidableEq, Repr

structure StopRun where
  ctx : RelayContext
  worker : RelayWorker
  handler : RelayHandler
  lifecycle : RelayLifecycle
  clientRunning : Bool
  sinceStop : List FlagSection
deriving DecidableEq, Repr

inductive StopAction where
  | stop
  | start (reconnect : Bool)
  /-- the next section of the lifecycle call; the error is what its call returns -/
  | lifecycle (error : Int) (nowMs : UInt64)
  /-- an event that the client posts -/
  | event (eventId : MqttEventId)
  | handler (subscription : Int) (nowMs : UInt64)
  | worker (move : RetainedMove) (answer : Int)
  | observe (address : Nat) (seen : RelayObservation)
deriving DecidableEq, Repr

namespace RelayHandler

def flagSection : RelayHandler → Option FlagSection
  | .checked event =>
    match event.eventId with
    | .beforeConnect => some .beforeConnect
    | .connected => some .connected
    | .disconnected | .error _ => some .disconnected
    | .data | .published _ | .other => none
  | .subscribeFailed => some .subscribeFailed
  | .idle | .entered _ | .subscribing _ => none

end RelayHandler

namespace RelayContext

def link (ctx : RelayContext) : Option Nat × Bool × Bool :=
  (ctx.client, ctx.mqttConnected, ctx.mqttConnecting)

theorem link_freeItem (ctx : RelayContext) (item : PayloadItem) : (freeItem ctx item).link = ctx.link :=
  rfl

theorem link_freeItems (items : List PayloadItem) (ctx : RelayContext) :
    (items.foldl freeItem ctx).link = ctx.link := by
  induction items generalizing ctx with
  | nil => rfl
  | cons item rest ih => exact (ih (freeItem ctx item)).trans (link_freeItem ctx item)

theorem Untouched.link {before after : RelayContext} (untouched : Untouched before after) :
    after.link = before.link :=
  congrArg₂ Prod.mk untouched.client (congrArg₂ Prod.mk untouched.connected untouched.connecting)

theorem link_handlePublishedLocked (ctx : RelayContext) (msgId : Int) :
    (handlePublishedLocked ctx msgId).link = ctx.link := by
  unfold handlePublishedLocked
  split
  · exact (untouched_noteRetainedAck ctx msgId).link
  · exact (untouched_noteRetainedAck _ msgId).link

theorem link_handleDisconnectLocked (ctx : RelayContext) :
    (handleDisconnectLocked ctx).link = (ctx.client, false, false) := by
  unfold handleDisconnectLocked freePendingLocked
  rw [link_freeItems]
  unfold freeQueueLocked
  split
  · rfl
  · exact link_freeItems _ _

theorem link_observeSend (ctx : RelayContext) (address : Nat) (seen : RelayObservation) :
    (observeSend ctx address seen).link = ctx.link := by
  unfold observeSend
  split
  · rfl
  · split
    · rfl
    · split
      · split <;> rfl
      · rfl

theorem link_drainSettle (ctx : RelayContext) (item : PayloadItem) (msgId : Int) :
    (drainSettle ctx item msgId).link = ctx.link := by
  unfold drainSettle
  split <;> rfl

theorem link_worker (ctx : RelayContext) (worker : RelayWorker) (move : RetainedMove) (answer : Int) :
    (worker.step ctx move answer).1.link = ctx.link := by
  cases worker with
  | draining =>
    simp only [RelayWorker.step]
    split
    · rfl
    · next item took takes =>
      obtain ⟨_, _, _, rfl⟩ := drainTake_some takes
      rfl
  | handed item msgId => exact link_drainSettle ctx item msgId
  | waiting | deleted | retaining | retainedCall | retained | taken _ | calling _ | called _ _ =>
    exact (untouched_worker ctx _ move answer (by simp) (by simp)).1.link

end RelayContext

namespace StopRun

/-- `mqtt_relay_stop` up to the end of its first section. -/
def stop (run : StopRun) : StopRun :=
  { run with
    ctx := handleDisconnectLocked run.ctx
    lifecycle := .flushed run.ctx.mqttConnected
    sinceStop := [] }

/-- `mqtt_relay_start` and `mqtt_relay_reconnect` up to the end of the first section
    of `mqtt_relay_ensure_worker`. -/
def startCall (run : StopRun) (reconnect : Bool) : StopRun :=
  if run.ctx.client = none then run
  else { run with
    ctx := { run.ctx with workerRunning := true }
    lifecycle := if run.ctx.workerTask then .starting reconnect else .creatingWorker reconnect }

/-- One section of the lifecycle call under way. `esp_mqtt_client_stop` returns only
    when no call of the handler is under way. -/
def lifecycleStep (run : StopRun) (error : Int) (nowMs : UInt64) : StopRun :=
  match run.lifecycle with
  | .idle | .stopped => run
  | .creatingWorker reconnect =>
    if error = 0 then
      { run with
        ctx := { run.ctx with workerTask := true }
        worker := .waiting
        lifecycle := .starting reconnect }
    else { run with ctx := { run.ctx with workerRunning := false }, lifecycle := .idle }
  | .starting reconnect =>
    { run with
      ctx := { run.ctx with publishAllowed := true, mqttConnecting := true }
      lifecycle := .startCalling reconnect }
  | .startCalling reconnect =>
    if error = 0 then
      { run with clientRunning := run.clientRunning || !reconnect, lifecycle := .idle }
    else { run with lifecycle := .startFailed error }
  | .startFailed error =>
    { run with
      ctx := noteLocalErrorLocked { run.ctx with mqttConnecting := false } error nowMs
      lifecycle := .idle }
  | .flushed publishOffline =>
    if run.ctx.workerBusy || decide (0 < run.ctx.publishInFlight) then run
    else { run with lifecycle := if publishOffline then .announcing else .barring }
  | .announcing =>
    match publishRawEnter run.ctx with
    | none => { run with lifecycle := .barring }
    | some entered => { run with ctx := entered, lifecycle := .announcingCall }
  | .announcingCall => { run with ctx := rawLeave run.ctx, lifecycle := .barring }
  | .barring => { run with ctx := { run.ctx with publishAllowed := false }, lifecycle := .quieting }
  | .quieting =>
    if 0 < run.ctx.publishInFlight then run
    else { run with lifecycle := if run.ctx.client = none then .stopped else .stoppingClient }
  | .stoppingClient =>
    if run.handler = .idle then { run with clientRunning := false, lifecycle := .stopped } else run

/-- The client posts one event at a time, from its task, while it runs. -/
def event (run : StopRun) (eventId : MqttEventId) : StopRun :=
  match run.handler, run.ctx.client with
  | .idle, some client =>
    if run.clientRunning || run.lifecycle = .startCalling false then
      { run with handler := .entered { client, eventId } }
    else run
  | _, _ => run

def handlerStep (run : StopRun) (subscription : Int) (nowMs : UInt64) : StopRun :=
  let (ctx, handler) := run.handler.step run.ctx subscription nowMs
  { run with ctx, handler, sinceStop := run.sinceStop ++ run.handler.flagSection.toList }

def step (run : StopRun) : StopAction → StopRun
  | .stop =>
    match run.lifecycle with
    | .idle | .stopped => stop run
    | _ => run
  | .start reconnect =>
    match run.lifecycle with
    | .idle | .stopped => startCall run reconnect
    | _ => run
  | .lifecycle error nowMs => lifecycleStep run error nowMs
  | .event eventId => event run eventId
  | .handler subscription nowMs => handlerStep run subscription nowMs
  | .worker move answer =>
    let (ctx, worker) := run.worker.step run.ctx move answer
    { run with ctx, worker }
  | .observe address seen => { run with ctx := observeSend run.ctx address seen }

/-- The relay after `mqtt_relay_init`, which left the rest of the context as it was. -/
def init (ctx : RelayContext) (client : Nat) : StopRun where
  ctx := { ctx with
    client := some client
    queue := some []
    workerTask := false
    workerRunning := false
    workerBusy := false
    acceptingObservers := true
    publishAllowed := true
    publishInFlight := 0
    mqttConnected := false
    mqttConnecting := false
    pending := [] }
  worker := .deleted
  handler := .idle
  lifecycle := .idle
  clientRunning := false
  sinceStop := []

/-- The check by which `start_or_reconnect_mqtt` skips a start. -/
def skipsStart (run : StopRun) : Bool := run.ctx.mqttConnected || run.ctx.mqttConnecting

def DownWhenStopped (run : StopRun) : Prop :=
  run.lifecycle = .stopped → run.ctx.mqttConnected = false ∧ run.ctx.mqttConnecting = false

def ConnectedCleared (later : List FlagSection) : Prop :=
  ∃ s ∈ later, s = .subscribeFailed ∨ s = .disconnected

def ConnectingCleared (later : List FlagSection) : Prop :=
  ∃ s ∈ later, s = .connected ∨ s = .disconnected

def Undone (sections : List FlagSection) : Prop :=
  ∀ earlier set later, sections = earlier ++ set :: later →
    (set = .beforeConnect → ConnectingCleared later) ∧ (set = .connected → ConnectedCleared later)

def ReturnsUndone (run : StopRun) (action : StopAction) : Prop :=
  run.lifecycle ≠ .stopped → (run.step action).lifecycle = .stopped → Undone run.sinceStop

def writeFlags : Bool × Bool → FlagSection → Bool × Bool
  | (connected, _), .beforeConnect => (connected, true)
  | _, .connected => (true, false)
  | (_, connecting), .subscribeFailed => (false, connecting)
  | _, .disconnected => (false, false)

def flagsLeft (sections : List FlagSection) : Bool × Bool := sections.foldl writeFlags (false, false)

theorem connectedCleared_cons (s : FlagSection) (later : List FlagSection) :
    ConnectedCleared (s :: later) ↔
      (s = .subscribeFailed ∨ s = .disconnected) ∨ ConnectedCleared later := by
  simp [ConnectedCleared]

theorem connectingCleared_cons (s : FlagSection) (later : List FlagSection) :
    ConnectingCleared (s :: later) ↔ (s = .connected ∨ s = .disconnected) ∨ ConnectingCleared later := by
  simp [ConnectingCleared]

theorem undone_cons (set : FlagSection) (later : List FlagSection) :
    Undone (set :: later) ↔
      ((set = .beforeConnect → ConnectingCleared later) ∧
        (set = .connected → ConnectedCleared later)) ∧ Undone later := by
  constructor
  · intro undone
    constructor
    · exact undone [] set later rfl
    · intro earlier other rest split
      exact undone (set :: earlier) other rest (by rw [split, List.cons_append])
  · intro undone earlier other rest split
    cases earlier with
    | nil =>
      obtain ⟨rfl, rfl⟩ := List.cons.inj split
      exact undone.1
    | cons _ earlier =>
      obtain ⟨_, same⟩ := List.cons.inj split
      exact undone.2 earlier other rest same

theorem fold_clear (sections : List FlagSection) (connected connecting : Bool) :
    sections.foldl writeFlags (connected, connecting) = (false, false) ↔
      Undone sections ∧ (connected = true → ConnectedCleared sections) ∧
        (connecting = true → ConnectingCleared sections) := by
  induction sections generalizing connected connecting with
  | nil =>
    cases connected <;> cases connecting <;> simp [Undone, ConnectedCleared, ConnectingCleared]
  | cons set later ih =>
    rw [List.foldl_cons, undone_cons, connectedCleared_cons, connectingCleared_cons]
    cases set with
    | beforeConnect =>
      simp only [writeFlags, ih, reduceCtorEq, false_or, true_implies, false_implies, and_true]
      tauto
    | connected =>
      simp only [writeFlags, ih, reduceCtorEq, false_or, true_implies, false_implies, true_and,
        true_or, implies_true, and_true]
      tauto
    | subscribeFailed =>
      simp only [writeFlags, ih, reduceCtorEq, false_or, false_implies, true_and, true_or,
        implies_true, Bool.false_eq_true]
    | disconnected =>
      simp only [writeFlags, ih, reduceCtorEq, or_true, true_or, false_implies, true_and,
        implies_true, Bool.false_eq_true]

theorem flagsLeft_clear (sections : List FlagSection) :
    flagsLeft sections = (false, false) ↔ Undone sections := by
  unfold flagsLeft
  rw [fold_clear]
  simp

theorem link_handler (ctx : RelayContext) (handler : RelayHandler) (subscription : Int)
    (nowMs : UInt64) :
    (handler.step ctx subscription nowMs).1.link =
      (ctx.client,
        handler.flagSection.toList.foldl writeFlags (ctx.mqttConnected, ctx.mqttConnecting)) := by
  cases handler with
  | idle | entered event | subscribing restart | subscribeFailed => rfl
  | checked event =>
    obtain ⟨client, eventId⟩ := event
    cases eventId with
    | beforeConnect | connected | data | other => rfl
    | published msgId => exact link_handlePublishedLocked ctx msgId
    | disconnected => exact link_handleDisconnectLocked ctx
    | error codes =>
      have same := (untouched_captureErrorLocked ctx codes nowMs).client
      refine (link_handleDisconnectLocked (captureErrorLocked ctx codes nowMs)).trans ?_
      rw [same]
      rfl

def stopping : RelayLifecycle → Bool
  | .flushed _ | .announcing | .announcingCall | .barring | .quieting | .stoppingClient
  | .stopped => true
  | .idle | .creatingWorker _ | .starting _ | .startCalling _ | .startFailed _ => false

structure StopInvariant (run : StopRun) : Prop where
  client : run.ctx.client.isSome
  flags : stopping run.lifecycle →
    (run.ctx.mqttConnected, run.ctx.mqttConnecting) = flagsLeft run.sinceStop
  quiet : run.lifecycle = .stopped → run.handler = .idle ∧ run.clientRunning = false

theorem invariant_still {run : StopRun} {ctx : RelayContext} {worker : RelayWorker}
    {lifecycle : RelayLifecycle} (inv : StopInvariant run) (link : ctx.link = run.ctx.link)
    (later : stopping lifecycle → stopping run.lifecycle)
    (stopped : lifecycle = .stopped → run.lifecycle = .stopped) :
    StopInvariant { run with ctx, worker, lifecycle } := by
  obtain ⟨client, connected, connecting⟩ : ctx.client = run.ctx.client ∧
      ctx.mqttConnected = run.ctx.mqttConnected ∧ ctx.mqttConnecting = run.ctx.mqttConnecting := by
    simpa [RelayContext.link] using link
  constructor
  · rw [client]
    exact inv.client
  · intro active
    simp only [connected, connecting]
    exact inv.flags (later active)
  · intro now
    exact inv.quiet (stopped now)

theorem invariant_lifecycle {run : StopRun} (inv : StopInvariant run) (error : Int)
    (nowMs : UInt64) : StopInvariant (run.lifecycleStep error nowMs) := by
  cases at_ : run.lifecycle with
  | idle | stopped =>
    simp only [lifecycleStep, at_]
    exact inv
  | creatingWorker reconnect =>
    simp only [lifecycleStep, at_]
    split
    · exact invariant_still inv rfl nofun nofun
    · exact invariant_still inv rfl nofun nofun
  | starting reconnect =>
    simp only [lifecycleStep, at_]
    exact ⟨inv.client, nofun, nofun⟩
  | startCalling reconnect =>
    simp only [lifecycleStep, at_]
    split
    · exact ⟨inv.client, nofun, nofun⟩
    · exact ⟨inv.client, nofun, nofun⟩
  | startFailed failure =>
    simp only [lifecycleStep, at_]
    exact ⟨inv.client, nofun, nofun⟩
  | flushed publishOffline =>
    simp only [lifecycleStep, at_]
    split
    · exact inv
    · cases publishOffline with
      | true => exact invariant_still inv rfl (by simp [at_, stopping]) nofun
      | false => exact invariant_still inv rfl (by simp [at_, stopping]) nofun
  | announcing =>
    simp only [lifecycleStep, at_]
    split
    · exact invariant_still inv rfl (by simp [at_, stopping]) nofun
    · next entered enter =>
      exact invariant_still inv (untouched_publishRawEnter enter).link (by simp [at_, stopping]) nofun
  | announcingCall =>
    simp only [lifecycleStep, at_]
    exact invariant_still inv (untouched_rawLeave run.ctx).link (by simp [at_, stopping]) nofun
  | barring =>
    simp only [lifecycleStep, at_]
    exact invariant_still inv rfl (by simp [at_, stopping]) nofun
  | quieting =>
    have known : run.ctx.client ≠ none := Option.isSome_iff_ne_none.mp inv.client
    simp only [lifecycleStep, at_, known, ↓reduceIte]
    split
    · exact inv
    · exact invariant_still inv rfl (by simp [at_, stopping]) nofun
  | stoppingClient =>
    simp only [lifecycleStep, at_]
    split
    · next idle =>
      exact ⟨inv.client, fun _ => inv.flags (by simp [at_, stopping]), fun _ => ⟨idle, rfl⟩⟩
    · exact inv

theorem invariant_event {run : StopRun} (inv : StopInvariant run) (eventId : MqttEventId) :
    StopInvariant (run.event eventId) := by
  unfold event
  split
  · split
    · next posts =>
      constructor
      · exact inv.client
      · exact inv.flags
      · intro stopped
        have stopped : run.lifecycle = .stopped := stopped
        simp [stopped, (inv.quiet stopped).2] at posts
    · exact inv
  · exact inv

theorem invariant_handler {run : StopRun} (inv : StopInvariant run) (subscription : Int)
    (nowMs : UInt64) : StopInvariant (run.handlerStep subscription nowMs) := by
  have link := link_handler run.ctx run.handler subscription nowMs
  obtain ⟨client, flags⟩ := Prod.mk.inj link
  constructor
  · simp only [handlerStep, client]
    exact inv.client
  · intro active
    have before := inv.flags active
    simp only [handlerStep]
    rw [flags, before]
    simp only [flagsLeft, List.foldl_append]
  · intro stopped
    have before := inv.quiet stopped
    simp only [handlerStep, before.1, RelayHandler.step]
    exact ⟨trivial, before.2⟩

theorem invariant_step {run : StopRun} (inv : StopInvariant run) (action : StopAction) :
    StopInvariant (run.step action) := by
  cases action with
  | stop =>
    simp only [step]
    split
    all_goals try exact inv
    all_goals
      have link := link_handleDisconnectLocked run.ctx
      obtain ⟨client, flags⟩ := Prod.mk.inj link
      exact ⟨by simp only [stop, client]; exact inv.client, fun _ => flags, nofun⟩
  | start reconnect =>
    have known : run.ctx.client ≠ none := Option.isSome_iff_ne_none.mp inv.client
    simp only [step]
    split
    · simp only [startCall, known, ↓reduceIte]
      split <;> exact ⟨inv.client, nofun, nofun⟩
    · simp only [startCall, known, ↓reduceIte]
      split <;> exact ⟨inv.client, nofun, nofun⟩
    · exact inv
  | lifecycle error nowMs => exact invariant_lifecycle inv error nowMs
  | event eventId => exact invariant_event inv eventId
  | handler subscription nowMs => exact invariant_handler inv subscription nowMs
  | worker move answer =>
    exact invariant_still inv (link_worker run.ctx run.worker move answer) id id
  | observe address seen =>
    exact invariant_still inv (link_observeSend run.ctx address seen) id id

theorem invariant_init (ctx : RelayContext) (client : Nat) : StopInvariant (init ctx client) :=
  ⟨rfl, nofun, nofun⟩

/-- The flags of a stopped relay are those that the handler left since the stop began. -/
theorem down_iff_undone {run : StopRun} (inv : StopInvariant run) :
    DownWhenStopped run ↔ (run.lifecycle = .stopped → Undone run.sinceStop) := by
  unfold DownWhenStopped
  constructor
  · intro down stopped
    have flags := inv.flags (by simp [stopped, stopping])
    obtain ⟨connected, connecting⟩ := down stopped
    rw [connected, connecting] at flags
    exact (flagsLeft_clear run.sinceStop).mp flags.symm
  · intro undone stopped
    have flags := inv.flags (by simp [stopped, stopping])
    rw [(flagsLeft_clear run.sinceStop).mpr (undone stopped)] at flags
    exact Prod.mk.inj flags

theorem sinceStop_kept {run : StopRun} (inv : StopInvariant run) {action : StopAction}
    (stopped : (run.step action).lifecycle = .stopped) :
    (run.step action).sinceStop = run.sinceStop := by
  cases action with
  | stop =>
    simp only [step] at stopped ⊢
    split at stopped
    · cases stopped
    · cases stopped
    · rfl
  | start reconnect =>
    simp only [step, startCall]
    split
    · split <;> rfl
    · split <;> rfl
    · rfl
  | lifecycle error nowMs =>
    simp only [step, lifecycleStep]
    split <;> try rfl
    all_goals split <;> rfl
  | event eventId =>
    simp only [step, event]
    split
    · split <;> rfl
    · rfl
  | handler subscription nowMs =>
    have idle := (inv.quiet stopped).1
    simp [step, handlerStep, idle, RelayHandler.flagSection]
  | worker move answer => rfl
  | observe address seen => rfl

/-- In every run, a stopped relay is neither connected nor connecting, until the next
    start or reconnect, if and only if every stop returns after the sections of the
    handler that set a flag during it were undone. -/
theorem down_when_stopped_iff_undone (ctx : RelayContext) (client : Nat) (actions : List StopAction) :
    AllStates step DownWhenStopped (init ctx client) actions ↔
      AllSteps step ReturnsUndone (init ctx client) actions := by
  apply all_states_iff_all_steps (J := StopInvariant)
  · intro run action inv _ _
    exact invariant_step inv action
  · intro run action inv down
    rw [down_iff_undone (invariant_step inv action)]
    constructor
    · intro undone _ stopped
      have done := undone stopped
      rw [sinceStop_kept inv stopped] at done
      exact done
    · intro undone stopped
      rw [sinceStop_kept inv stopped]
      by_cases before : run.lifecycle = .stopped
      · exact (down_iff_undone inv).mp down before
      · exact undone before stopped
  · exact invariant_init ctx client
  · exact nofun

/-- The client is connecting when the relay is stopped, and connects between the
    first section of the stop and the one that forbids events. -/
def connectedDuringStop : List StopAction :=
  [.start false, .lifecycle 0 0, .lifecycle 0 0, .lifecycle 0 0,
    .event .beforeConnect, .handler 0 0, .handler 0 0,
    .stop, .event .connected, .handler 0 0, .handler 0 0, .handler 1 0, .handler 2 0,
    .lifecycle 0 0, .lifecycle 0 0, .lifecycle 0 0, .lifecycle 0 0]

theorem stopped_relay_stays_connected :
    let last := run step (init zero 1) connectedDuringStop
    last.lifecycle = .stopped ∧ last.handler = .idle ∧ last.clientRunning = false ∧
      last.skipsStart = true ∧ ¬ DownWhenStopped last := by
  refine ⟨by decide, by decide, by decide, by decide, ?_⟩
  intro down
  have connected := (down (by decide)).1
  exact absurd connected (by decide)

end StopRun
