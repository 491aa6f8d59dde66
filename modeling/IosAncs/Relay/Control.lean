import IosAncs.Relay.Moves

/-!
Where the calls and the worker stand while the relay's setup changes: the queue and
the worker's hand are empty when it does. With that, every step moves the ledger.
-/
open Runs RelayContext RelayPolicy RelayLedger

namespace StopRun

structure Attended (run : StopRun) : Prop where
  deleted : run.ctx.workerTask = false → run.worker = .deleted
  creating : ∀ reconnect, run.lifecycle = .creatingWorker reconnect → run.ctx.workerTask = false
  busy : run.worker.hand ≠ [] → run.ctx.workerBusy = true

structure Quieter (before after : StopRun) : Prop where
  client : after.ctx.client = before.ctx.client
  accepting : after.ctx.acceptingObservers = before.ctx.acceptingObservers
  closed : before.ctx.queue = none → after.ctx.queue = none
  empty : before.ctx.queue.getD [] = [] → after.ctx.queue.getD [] = []
  idle : before.ctx.queue.getD [] = [] → before.worker.hand = [] → after.worker.hand = []

theorem quieter_keptLink {before after : StopRun} (keptLink : KeptLink before.ctx after.ctx)
    (hand : after.worker.hand = before.worker.hand) : Quieter before after where
  client := keptLink.client
  accepting := keptLink.accepting
  closed := by
    rw [keptLink.queue]
    exact id
  empty := by
    rw [keptLink.queue]
    exact id
  idle := by
    rw [hand]
    exact fun _ idle => idle

theorem quieter_flushes {before after : StopRun} (flushes : Flushes before.ctx after.ctx)
    (client : after.ctx.client = before.ctx.client)
    (accepting : after.ctx.acceptingObservers = before.ctx.acceptingObservers)
    (hand : after.worker.hand = before.worker.hand) : Quieter before after where
  client := client
  accepting := accepting
  closed := flushes.closed
  empty := fun _ => flushes.queue
  idle := by
    rw [hand]
    exact fun _ idle => idle

end StopRun

namespace RelayContext

def tasks (ctx : RelayContext) : Bool × Bool := (ctx.workerTask, ctx.workerBusy)

theorem tasks_noteRetainedAck (ctx : RelayContext) (msgId : Int) :
    (noteRetainedAck ctx msgId).tasks = ctx.tasks := by
  obtain ⟨received, early, same⟩ := noteRetainedAck_fields ctx msgId
  rw [same]
  rfl

theorem tasks_flushLocked (ctx : RelayContext) : (flushLocked ctx).tasks = ctx.tasks := by
  have same := flushLocked_same ctx
  unfold tasks
  rw [same.2.2.2.2.1, same.2.2.2.2.2]

theorem tasks_handleDisconnectLocked (ctx : RelayContext) :
    (handleDisconnectLocked ctx).tasks = ctx.tasks :=
  tasks_flushLocked _

theorem tasks_handler (ctx : RelayContext) (handler : RelayHandler) (subscription : Int)
    (nowMs : UInt64) : (handler.step ctx subscription nowMs).1.tasks = ctx.tasks := by
  cases handler with
  | idle | entered event | subscribing restart | subscribeFailed => rfl
  | checked event =>
    obtain ⟨client, eventId⟩ := event
    cases eventId with
    | beforeConnect | connected | data | other => rfl
    | published msgId =>
      simp only [RelayHandler.step, RelayHandler.act, handlePublishedLocked]
      split
      · exact tasks_noteRetainedAck ctx msgId
      · exact tasks_noteRetainedAck _ msgId
    | disconnected => exact tasks_handleDisconnectLocked ctx
    | error codes =>
      refine (tasks_handleDisconnectLocked (captureErrorLocked ctx codes nowMs)).trans ?_
      cases codes <;> rfl

end RelayContext

namespace StopRun

theorem attended_same {before after : StopRun} (attended : Attended before)
    (tasks : after.ctx.tasks = before.ctx.tasks) (worker : after.worker = before.worker)
    (lifecycle : after.lifecycle = before.lifecycle ∨
      ∀ reconnect, after.lifecycle ≠ .creatingWorker reconnect) : Attended after := by
  obtain ⟨task, busy⟩ := Prod.mk.inj tasks
  constructor
  · rw [task, worker]
    exact attended.deleted
  · intro reconnect creates
    rw [task]
    rcases lifecycle with same | other
    · exact attended.creating reconnect (same ▸ creates)
    · exact absurd creates (other reconnect)
  · rw [busy, worker]
    exact attended.busy

theorem attended_lifecycle {run : StopRun} (attended : Attended run) (error : Int)
    (nowMs : UInt64) : Attended (run.lifecycleStep error nowMs) := by
  cases at_ : run.lifecycle with
  | idle | stopped =>
    simp only [lifecycleStep, at_]
    exact attended
  | creatingWorker reconnect =>
    simp only [lifecycleStep, at_]
    split
    · exact ⟨by simp, by simp, fun holds => absurd rfl holds⟩
    · exact attended_same attended rfl rfl (.inr (by simp))
  | starting reconnect | startFailed failure | barring =>
    simp only [lifecycleStep, at_]
    exact attended_same attended rfl rfl (.inr (by simp))
  | startCalling reconnect =>
    simp only [lifecycleStep, at_]
    split <;> exact attended_same attended rfl rfl (.inr (by simp))
  | flushed publishOffline =>
    simp only [lifecycleStep, at_]
    split
    · exact attended
    · cases publishOffline <;> exact attended_same attended rfl rfl (.inr (by simp))
  | announcing =>
    simp only [lifecycleStep, at_]
    split
    · exact attended_same attended rfl rfl (.inr (by simp))
    · next entered enter =>
      cases publishRawEnter_some enter
      exact attended_same attended rfl rfl (.inr (by simp))
  | announcingCall =>
    simp only [lifecycleStep, at_, rawLeave]
    split <;> exact attended_same attended rfl rfl (.inr (by simp))
  | quieting =>
    simp only [lifecycleStep, at_]
    split
    · exact attended
    · split <;> exact attended_same attended rfl rfl (.inr (by simp))
  | stoppingClient =>
    simp only [lifecycleStep, at_]
    split
    · exact attended_same attended rfl rfl (.inr (by simp))
    · exact attended

theorem attended_startCall {run : StopRun} (attended : Attended run) (reconnect : Bool) :
    Attended (run.startCall reconnect) := by
  unfold startCall
  split
  · exact attended
  · cases task : run.ctx.workerTask with
    | true =>
      constructor
      · simp [task]
      · simp
      · exact attended.busy
    | false =>
      constructor
      · exact attended.deleted
      · simp [task]
      · exact attended.busy

theorem attended_stop {run : StopRun} (attended : Attended run) : Attended run.stop :=
  attended_same attended (tasks_handleDisconnectLocked run.ctx) rfl (.inr nofun)

theorem attended_going {run : StopRun} (attended : Attended run) (going : run.worker ≠ .deleted)
    {ctx : RelayContext} {worker : RelayWorker} (task : ctx.workerTask = run.ctx.workerTask)
    (busy : worker.hand ≠ [] → ctx.workerBusy = true) : Attended { run with ctx, worker } := by
  have exists_ : run.ctx.workerTask = true := by
    cases absent : run.ctx.workerTask with
    | true => rfl
    | false => exact absurd (attended.deleted absent) going
  constructor
  · intro gone
    rw [task, exists_] at gone
    cases gone
  · intro reconnect creates
    have gone := attended.creating reconnect creates
    rw [exists_] at gone
    cases gone
  · exact busy

theorem attended_worker {run : StopRun} (attended : Attended run) (move : RetainedMove)
    (answer : Int) : Attended (run.step (.worker move answer)) := by
  rw [RelaySystem.step_worker]
  cases worker : run.worker with
  | deleted => exact attended_same attended rfl worker.symm (.inl rfl)
  | waiting =>
    have going : run.worker ≠ .deleted := by simp [worker]
    simp only [RelayWorker.step]
    split
    · exact ⟨fun _ => rfl, fun _ _ => rfl, fun holds => absurd rfl holds⟩
    · split <;> exact attended_going attended going rfl fun holds => absurd rfl holds
  | retaining =>
    have going : run.worker ≠ .deleted := by simp [worker]
    cases move with
    | publish =>
      simp only [RelayWorker.step]
      split
      · exact attended_going attended going rfl fun holds => absurd rfl holds
      · next entered enter =>
        cases enqueueRawEnter_some enter
        exact attended_going attended going rfl fun holds => absurd rfl holds
    | discoveryDone | cleanup => exact attended_going attended going rfl fun holds => absurd rfl holds
  | retainedCall =>
    have going : run.worker ≠ .deleted := by simp [worker]
    simp only [RelayWorker.step, rawLeave]
    split <;> exact attended_going attended going rfl fun holds => absurd rfl holds
  | retained => exact attended_going attended (by simp [worker]) rfl fun holds => absurd rfl holds
  | draining =>
    have going : run.worker ≠ .deleted := by simp [worker]
    simp only [RelayWorker.step]
    split
    · exact attended_going attended going rfl fun holds => absurd rfl holds
    · next item took takes =>
      obtain ⟨_, _, _, rfl⟩ := drainTake_some takes
      exact attended_going attended going rfl fun _ => rfl
  | taken item =>
    have going : run.worker ≠ .deleted := by simp [worker]
    have busy := attended.busy (by simp [worker, RelayWorker.hand])
    simp only [RelayWorker.step]
    split
    · exact attended_going attended going rfl fun _ => busy
    · next entered enter =>
      cases enqueueRawEnter_some enter
      exact attended_going attended going rfl fun _ => busy
  | calling item =>
    have busy := attended.busy (by simp [worker, RelayWorker.hand])
    exact attended_going attended (by simp [worker]) rfl fun _ => busy
  | called item msgId =>
    have going : run.worker ≠ .deleted := by simp [worker]
    have busy := attended.busy (by simp [worker, RelayWorker.hand])
    simp only [RelayWorker.step, rawLeave]
    split <;> exact attended_going attended going rfl fun _ => busy
  | handed item msgId =>
    have going : run.worker ≠ .deleted := by simp [worker]
    simp only [RelayWorker.step, drainSettle]
    split <;> exact attended_going attended going rfl fun holds => absurd rfl holds

theorem attended_step {run : StopRun} (attended : Attended run) (action : StopAction)
    (other : ∀ address seen, action ≠ .observe address seen) : Attended (run.step action) := by
  cases action with
  | stop =>
    simp only [step]
    split
    · exact attended_stop attended
    · exact attended_stop attended
    · exact attended
  | start reconnect =>
    simp only [step]
    split
    · exact attended_startCall attended reconnect
    · exact attended_startCall attended reconnect
    · exact attended
  | lifecycle error nowMs => exact attended_lifecycle attended error nowMs
  | event eventId =>
    obtain ⟨ctx, worker, lifecycle⟩ := event_same run eventId
    exact attended_same attended (congrArg tasks ctx) worker (.inl lifecycle)
  | handler subscription nowMs =>
    exact attended_same attended (tasks_handler run.ctx run.handler subscription nowMs) rfl (.inl rfl)
  | worker move answer => exact attended_worker attended move answer
  | observe address seen => exact absurd rfl (other address seen)

theorem quieter_handler (run : StopRun) (subscription : Int) (nowMs : UInt64) :
    Quieter run (run.step (.handler subscription nowMs)) := by
  rw [RelaySystem.step_handler]
  cases run.handler with
  | idle | entered event | subscribing restart => exact quieter_keptLink (KeptLink.refl run.ctx) rfl
  | subscribeFailed => exact ⟨rfl, rfl, id, id, fun _ idle => idle⟩
  | checked event =>
    obtain ⟨client, eventId⟩ := event
    cases eventId with
    | beforeConnect | connected | data | other => exact ⟨rfl, rfl, id, id, fun _ idle => idle⟩
    | published msgId =>
      have same : Kept { run.ctx with
            pending := (handlePublishedLocked run.ctx msgId).pending
            freed := (handlePublishedLocked run.ctx msgId).freed
            counters := (handlePublishedLocked run.ctx msgId).counters }
          (handlePublishedLocked run.ctx msgId) := by
        unfold handlePublishedLocked
        split
        · have keptLink := (untouched_noteRetainedAck run.ctx msgId).keptLink
          exact ⟨keptLink.client, keptLink.queue, keptLink.accepting, keptLink.wifi, keptLink.recent, rfl, rfl,
            rfl, rfl⟩
        · next item rest taken =>
          have keptLink := (untouched_noteRetainedAck (acknowledgedCtx run.ctx item rest) msgId).keptLink
          exact ⟨keptLink.client, keptLink.queue, keptLink.accepting, keptLink.wifi, keptLink.recent, rfl, rfl,
            rfl, rfl⟩
      simp only [RelayHandler.step, RelayHandler.act]
      constructor
      · exact same.client
      · exact same.accepting
      · simp only [same.queue]
        exact id
      · simp only [same.queue]
        exact id
      · exact fun _ idle => idle
    | disconnected =>
      obtain ⟨flushes, client, accepting, _⟩ := disconnect_flushes run.ctx
      exact quieter_flushes flushes client accepting rfl
    | error codes =>
      obtain ⟨flushes, client, accepting, _⟩ := error_flushes run.ctx codes nowMs
      exact quieter_flushes flushes client accepting rfl

theorem quieter_stop (run : StopRun) : Quieter run run.stop := by
  obtain ⟨flushes, client, accepting, _⟩ := disconnect_flushes run.ctx
  exact quieter_flushes flushes client accepting rfl

theorem quieter_worker (run : StopRun) (move : RetainedMove) (answer : Int) :
    Quieter run (run.step (.worker move answer)) := by
  rw [RelaySystem.step_worker]
  by_cases settling : ∃ item msgId, run.worker = .handed item msgId
  · obtain ⟨item, msgId, worker⟩ := settling
    simp only [worker, RelayWorker.step, drainSettle]
    split <;> exact ⟨rfl, rfl, id, id, fun _ _ => rfl⟩
  · have notSettling : ∀ item msgId, run.worker ≠ .handed item msgId := by
      intro item msgId worker
      exact settling ⟨item, msgId, worker⟩
    by_cases taking : run.worker = .draining ∧ drainTake run.ctx ≠ none
    · obtain ⟨item, took, takes⟩ : ∃ item took, drainTake run.ctx = some (item, took) := by
        cases takes : drainTake run.ctx with
        | none => exact absurd takes taking.2
        | some pair => exact ⟨pair.1, pair.2, rfl⟩
      simp only [taking.1, RelayWorker.step, takes]
      obtain ⟨rest, _, queue, rfl⟩ := drainTake_some takes
      constructor
      · rfl
      · rfl
      · simp [queue]
      · simp [queue]
      · simp [queue]
    · have quiet := untouched_worker run.ctx run.worker move answer
        (fun worker => not_not.mp fun takes => taking ⟨worker, takes⟩) notSettling
      exact quieter_keptLink quiet.1.keptLink quiet.2

theorem hand_lifecycleStep {run : StopRun} (attended : Attended run) (error : Int)
    (nowMs : UInt64) : (run.lifecycleStep error nowMs).worker.hand = run.worker.hand := by
  cases at_ : run.lifecycle with
  | creatingWorker reconnect =>
    have deleted := attended.deleted (attended.creating reconnect at_)
    simp only [lifecycleStep, at_, deleted]
    split <;> rfl
  | idle | stopped | starting _ | startFailed _ | barring | announcingCall =>
    simp only [lifecycleStep, at_]
  | startCalling _ | flushed _ | announcing | quieting | stoppingClient =>
    simp only [lifecycleStep, at_]
    split <;> rfl

theorem quieter_step {run : StopRun} (attended : Attended run) (action : StopAction)
    (other : ∀ address seen, action ≠ .observe address seen) : Quieter run (run.step action) := by
  cases action with
  | stop =>
    simp only [step]
    split
    · exact quieter_stop run
    · exact quieter_stop run
    · exact quieter_keptLink (KeptLink.refl run.ctx) rfl
  | start reconnect =>
    have starts : Quieter run (run.startCall reconnect) :=
      quieter_keptLink (keptLink_startCall run reconnect) (by rw [worker_startCall])
    simp only [step]
    split
    · exact starts
    · exact starts
    · exact quieter_keptLink (KeptLink.refl run.ctx) rfl
  | lifecycle error nowMs =>
    exact quieter_keptLink (keptLink_lifecycleStep run error nowMs)
      (hand_lifecycleStep attended error nowMs)
  | event eventId =>
    obtain ⟨ctx, worker, _⟩ := event_same run eventId
    exact quieter_keptLink (ctx ▸ KeptLink.refl run.ctx) (by simp only [step, worker])
  | handler subscription nowMs => exact quieter_handler run subscription nowMs
  | worker move answer => exact quieter_worker run move answer
  | observe address seen => exact absurd rfl (other address seen)

end StopRun

namespace RelaySystem
variable {limits : AncsLimits} {rules : RelayRules limits} {sys : RelaySystem limits}

def Drained (run : StopRun) : Prop := run.ctx.queue.getD [] = [] ∧ run.worker.hand = []

def Unopened (run : StopRun) : Prop :=
  run.ctx.client = none →
    run.ctx.queue = none ∧ run.worker.hand = [] ∧ run.ctx.acceptingObservers = false

def Built (setup : RelaySetup) : Prop :=
  MqttRelay.buildAllTopics setup.config = .ok setup.topics

end RelaySystem

open RelaySystem in
def RelayStage.Holds (run : StopRun) (setup : RelaySetup) : RelayStage → Prop
  | .ready => Unopened run
  | .replacing config topics _ =>
    MqttRelay.buildAllTopics config = .ok topics ∧ run.ctx.acceptingObservers = false ∧ Unopened run
  | .closing config topics _ =>
    MqttRelay.buildAllTopics config = .ok topics ∧ run.ctx.acceptingObservers = false ∧
      run.ctx.queue.getD [] = [] ∧
      ((∃ publishOffline, run.lifecycle = .flushed publishOffline) ∨ run.worker.hand = [])
  | .swapping config topics _ =>
    MqttRelay.buildAllTopics config = .ok topics ∧ run.ctx.acceptingObservers = false ∧ Drained run
  | .creating _ => Built setup ∧ run.ctx.acceptingObservers = false ∧ Drained run
  | .starting | .restarting | .undoing | .undoingStop | .failed | .opening => run.ctx.client.isSome
  | .failedQuiet | .failedWorker =>
    run.ctx.acceptingObservers = false ∧ run.ctx.queue.getD [] = []
  | .failedQueue => run.ctx.acceptingObservers = false ∧ Drained run
  | .leaving | .leavingStop | .leavingFence | .leavingWorker => True
  | .leavingContext => run.ctx.workerTask = false
  | .preparing =>
    Built setup ∧ run.ctx.acceptingObservers = false ∧ run.ctx.client = none ∧ Drained run

namespace RelaySystem
variable {limits : AncsLimits} {rules : RelayRules limits} {sys : RelaySystem limits}

structure Controlled (sys : RelaySystem limits) : Prop where
  attended : StopRun.Attended sys.run
  stage : sys.stage.Holds sys.run sys.setup

theorem move_stop : Move rules sys.ledger (sys.takeInner .stop).ledger := by
  have quiet (busy : sys.run.settles .stop = []) (same : sys.run.step .stop = sys.run) :
      Move rules sys.ledger (sys.takeInner .stop).ledger := by
    apply inner_keptLink busy rfl
    · rw [same]
      exact KeptLink.refl sys.run.ctx
    · rw [same]
  have flush (rest : sys.run.settles .stop = sys.run.ctx.flushes)
      (next : sys.run.step .stop = sys.run.stop) :
      Move rules sys.ledger (sys.takeInner .stop).ledger := by
    obtain ⟨flushes, client, _, down⟩ := disconnect_flushes sys.run.ctx
    unfold takeInner
    rw [rest, next]
    exact move_flush _ _ flushes client down rfl
  cases at_ : sys.run.lifecycle with
  | idle | stopped =>
    exact flush (by simp [StopRun.settles, at_]) (by simp [StopRun.step, at_])
  | _ => exact quiet (by simp [StopRun.settles, at_]) (by simp [StopRun.step, at_])

theorem move_start (reconnect : Bool) :
    Move rules sys.ledger (sys.takeInner (.start reconnect)).ledger := by
  apply inner_keptLink rfl rfl
  · simp only [StopRun.step]
    split
    · exact StopRun.keptLink_startCall sys.run reconnect
    · exact StopRun.keptLink_startCall sys.run reconnect
    · exact KeptLink.refl sys.run.ctx
  · simp only [StopRun.step]
    split
    · rw [StopRun.worker_startCall]
    · rw [StopRun.worker_startCall]
    · rfl

theorem move_inner (attended : StopRun.Attended sys.run) (action : StopAction)
    (other : ∀ address seen, action ≠ .observe address seen)
    (obeys : Obeys rules sys (.inner action)) :
    Move rules sys.ledger (sys.takeInner action).ledger := by
  cases action with
  | stop => exact move_stop
  | start reconnect => exact move_start reconnect
  | lifecycle error nowMs =>
    exact inner_keptLink rfl rfl (StopRun.keptLink_lifecycleStep sys.run error nowMs)
      (StopRun.hand_lifecycleStep attended error nowMs)
  | event eventId =>
    obtain ⟨ctx, worker, _⟩ := StopRun.event_same sys.run eventId
    apply inner_keptLink rfl rfl
    · simp only [StopRun.step, ctx]
      exact KeptLink.refl sys.run.ctx
    · simp only [StopRun.step, worker]
  | handler subscription nowMs => exact move_handler subscription nowMs obeys.connects
  | worker move answer => exact move_worker move answer obeys.refuses
  | observe address seen => exact absurd rfl (other address seen)

theorem move_same : Move rules sys.ledger sys.ledger :=
  move_kept _ _ _ (Kept.refl sys.run.ctx) rfl rfl fun up => .inl up

theorem move_keptLink (run : StopRun) (stage : RelayStage) (keptLink : KeptLink sys.run.ctx run.ctx)
    (hand : run.worker.hand = sys.run.worker.hand) :
    Move rules sys.ledger ({ sys with run, stage } : RelaySystem limits).ledger :=
  move_kept run stage sys.observers keptLink.toKept hand rfl fun up => .inl (keptLink.online ▸ up)

theorem swapLocked_flushes (ctx : RelayContext) :
    Flushes ctx (swapLocked ctx) ∧ (swapLocked ctx).client = none ∧
      (swapLocked ctx).acceptingObservers = ctx.acceptingObservers ∧
      (swapLocked ctx).online = false ∧ (swapLocked ctx).tasks = ctx.tasks := by
  have flushes : Flushes ctx (flushLocked { ctx with client := none, mqttConnected := false }) :=
    flushLocked_flushes rfl rfl rfl rfl rfl
  have same := flushLocked_same { ctx with client := none, mqttConnected := false }
  have down : (swapLocked ctx).mqttConnected = false := same.2.2.2.1
  refine ⟨⟨flushes.queue, flushes.closed, flushes.pending, flushes.freed, flushes.recent,
    flushes.counted, flushes.acks⟩, same.1, same.2.1, ?_, tasks_flushLocked _⟩
  simp [RelayContext.online, down]

theorem terminalLocked_flushes (ctx : RelayContext) :
    Flushes ctx (terminalLocked ctx) ∧ (terminalLocked ctx).client = none ∧
      (terminalLocked ctx).acceptingObservers = false ∧ (terminalLocked ctx).online = false ∧
      (terminalLocked ctx).tasks = ctx.tasks := by
  have same := flushLocked_same { ctx with
    client := none, acceptingObservers := false, publishAllowed := false
    mqttConnected := false, mqttConnecting := false }
  have down : (terminalLocked ctx).mqttConnected = false := same.2.2.2.1
  refine ⟨flushLocked_flushes rfl rfl rfl rfl rfl, same.1, same.2.1, ?_, tasks_flushLocked _⟩
  simp [RelayContext.online, down]

theorem cleanupRuntimeLocked_flushes (ctx : RelayContext) :
    Flushes ctx (cleanupRuntimeLocked ctx) ∧
      (cleanupRuntimeLocked ctx).client = ctx.client ∧
      (cleanupRuntimeLocked ctx).acceptingObservers = ctx.acceptingObservers ∧
      (cleanupRuntimeLocked ctx).tasks = ctx.tasks := by
  have flushes : Flushes ctx (flushLocked ctx) := flushLocked_flushes rfl rfl rfl rfl rfl
  have same := flushLocked_same ctx
  exact ⟨⟨rfl, fun _ => rfl, flushes.pending, flushes.freed, flushes.recent, flushes.counted,
    flushes.acks⟩, same.1, same.2.1, tasks_flushLocked ctx⟩

theorem move_swap {config : ProvisionConfig} {topics : RelayTopics} (shouldStart : Bool)
    (idle : sys.run.worker.hand = []) :
    Move rules sys.ledger (sys.swap config topics shouldStart).ledger := by
  obtain ⟨flushes, client, _, down, _⟩ := swapLocked_flushes sys.run.ctx
  have after := ledger_flushes { sys.run with ctx := swapLocked sys.run.ctx }
    (.creating shouldStart) flushes down rfl
  simp only [client, Option.map_none] at after
  have next : (sys.swap config topics shouldStart).ledger =
      { sys.ledger.flushed with
        setup := { number := sys.setup.number + 1, config, topics }, client := none } :=
    congrArg (fun b => { b with setup := { number := sys.setup.number + 1, config, topics } }) after
  rw [next]
  exact .swap _ idle

theorem move_terminal :
    Move rules sys.ledger (sys.flushing terminalLocked .failedQuiet).ledger := by
  obtain ⟨flushes, client, _, down, _⟩ := terminalLocked_flushes sys.run.ctx
  exact move_close { sys.run with ctx := terminalLocked sys.run.ctx } .failedQuiet flushes client
    down rfl

theorem move_stopping (stage : RelayStage) :
    Move rules sys.ledger (sys.stopping stage).ledger := by
  obtain ⟨flushes, client, _, down⟩ := disconnect_flushes sys.run.ctx
  exact move_flush sys.run.stop stage flushes client down rfl

theorem move_cleanup (closed : sys.run.ctx.acceptingObservers = false)
    (client : sys.run.ctx.client = none) :
    Move rules sys.ledger (sys.flushing cleanupRuntimeLocked .ready).ledger := by
  obtain ⟨flushes, same, accepting, _⟩ := cleanupRuntimeLocked_flushes sys.run.ctx
  have down : (cleanupRuntimeLocked sys.run.ctx).online = false := by
    simp [RelayContext.online, accepting, closed]
  exact move_close { sys.run with ctx := cleanupRuntimeLocked sys.run.ctx } .ready flushes
    (same.trans client) down rfl

theorem leaveLocked_freed (ctx : RelayContext) :
    (leaveLocked ctx).freed = (addressesOf ctx.pending).reverse ++
      ((addressesOf (ctx.queue.getD [])).reverse ++ ctx.freed) := by
  have flushes : Flushes ctx (flushLocked ctx) := flushLocked_flushes rfl rfl rfl rfl rfl
  exact flushes.freed

theorem move_leave (idle : sys.run.worker.hand = []) :
    Move rules sys.ledger sys.leave.ledger := by
  have next : sys.leave.ledger = { sys.ledger.flushed with
      setup := { number := sys.setup.number + 1, config := noConfig, topics := noTopics }
      client := none
      counted := 0
      acknowledged := 0
      recent := .init
      bootNonce := 0
      accepted := []
      settled := []
      marks := .reset :: sys.ledger.marks } := by
    simp only [ledger, leave, flushing, withCtx, settle, flushed, leaveLocked_freed, flushes_unsent]
    rfl
  rw [next]
  exact .leave _ idle

theorem move_prepare {config : ProvisionConfig} {topics : RelayTopics} (bootNonce : UInt32)
    (closed : sys.run.ctx.client = none) (empty : sys.run.ctx.queue = none)
    (idle : sys.run.worker.hand = []) :
    Move rules sys.ledger
      ({ sys.withCtx sys.run.ctx.prepareLocked with
        bootNonce
        setup := { number := sys.setup.number + 1, config, topics }
        marks := .reset :: sys.marks
        stage := .preparing } : RelaySystem limits).ledger := by
  have same : ({ sys.withCtx sys.run.ctx.prepareLocked with
        bootNonce
        setup := { number := sys.setup.number + 1, config, topics }
        marks := .reset :: sys.marks
        stage := .preparing } : RelaySystem limits).ledger =
      { sys.ledger with
        bootNonce
        setup := { number := sys.setup.number + 1, config, topics }
        recent := .init
        marks := .reset :: sys.ledger.marks } := by
    simp only [ledger, withCtx, prepareLocked, empty, Option.getD_some, Option.getD_none,
      RelayContext.online]
  rw [same]
  apply Move.prepare bootNonce _ idle
  · simp [ledger, empty]
  · simp [ledger, closed]

theorem move_create (client : Nat) (built : Built sys.setup) :
    Move rules sys.ledger
      ({ sys.withCtx { sys.run.ctx with client := some client } with
        clientSetup := sys.setup
        stage := .opening } : RelaySystem limits).ledger :=
  .create built

theorem move_reopen (client : Nat) (stage : RelayStage) (built : Built sys.setup) :
    Move rules sys.ledger
      ({ sys.withCtx (sys.run.ctx.reopenLocked client) with
        clientSetup := sys.setup
        marks := .reset :: sys.marks
        stage } : RelaySystem limits).ledger :=
  .reopen _ built

theorem move_outer (controlled : Controlled sys) (created : Option Nat)
    (allowed : sys.connects (.outer created) = true → rules.connects sys.ledger) :
    Move rules sys.ledger (sys.outer created).ledger := by
  have holds := controlled.stage
  unfold outer
  cases at_ : sys.stage with
  | ready | restarting => exact move_same
  | replacing config topics shouldStart =>
    rw [at_] at holds
    dsimp only
    split
    · next closed => exact move_swap shouldStart (holds.2.2 closed).2.1
    · exact move_stopping _
  | closing config topics shouldStart =>
    dsimp only
    split <;> exact move_same
  | swapping config topics shouldStart =>
    rw [at_] at holds
    exact move_swap shouldStart holds.2.2.2
  | creating shouldStart =>
    rw [at_] at holds
    dsimp only
    split
    · exact move_terminal
    · next client made => exact move_reopen client _ holds.1
  | starting =>
    exact move_keptLink _ _ (StopRun.keptLink_startCall sys.run false) (by rw [StopRun.worker_startCall])
  | undoing => exact move_stopping _
  | failed => exact move_terminal
  | undoingStop | failedWorker | leavingStop | leavingWorker =>
    dsimp only
    split <;> exact move_same
  | failedQuiet =>
    dsimp only
    split
    · exact move_same
    · exact move_keptLink { sys.run with ctx := { sys.run.ctx with workerRunning := false } } _
        ⟨by constructor <;> rfl, rfl⟩ rfl
  | failedQueue =>
    rw [at_] at holds
    have same : ({ sys.withCtx { sys.run.ctx with queue := none } with
        stage := .ready } : RelaySystem limits).ledger = sys.ledger := by
      have empty := holds.2.1
      simp only [ledger, withCtx, empty, Option.getD_none, RelayContext.online]
    dsimp only
    rw [same]
    exact move_same
  | leaving =>
    dsimp only
    split
    · exact move_same
    · exact move_stopping _
  | leavingFence =>
    exact move_keptLink { sys.run with ctx := { sys.run.ctx with workerRunning := false } } _
      ⟨by constructor <;> rfl, rfl⟩ rfl
  | leavingContext =>
    rw [at_] at holds
    have deleted := controlled.attended.deleted holds
    exact move_leave (by rw [deleted]; rfl)
  | preparing =>
    rw [at_] at holds
    dsimp only
    split
    · exact move_cleanup holds.2.1 holds.2.2.1
    · next client made => exact move_create client holds.1
  | opening =>
    have link : Move rules sys.ledger
        { sys.ledger with online := sys.run.ctx.wifiConnected && sys.run.ctx.mqttConnected } :=
      .link _ fun up => .inr (allowed (by simpa [connects, at_] using up))
    simpa [ledger, withCtx, RelayContext.online] using link

theorem unopened_quieter {before after : StopRun} (quieter : StopRun.Quieter before after)
    (unopened : Unopened before) : Unopened after := by
  intro closed
  rw [quieter.client] at closed
  obtain ⟨queue, hand, accepting⟩ := unopened closed
  exact ⟨quieter.closed queue, quieter.idle (by rw [queue]; rfl) hand,
    quieter.accepting.trans accepting⟩

theorem drained_quieter {before after : StopRun} (quieter : StopRun.Quieter before after)
    (drained : Drained before) : Drained after :=
  ⟨quieter.empty drained.1, quieter.idle drained.1 drained.2⟩

theorem holds_quieter {before after : StopRun} (quieter : StopRun.Quieter before after)
    (lifecycle : after.lifecycle = before.lifecycle)
    (task : before.ctx.workerTask = false → after.ctx.workerTask = false) {setup : RelaySetup}
    {stage : RelayStage} (holds : stage.Holds before setup) : stage.Holds after setup := by
  cases stage with
  | ready => exact unopened_quieter quieter holds
  | replacing config topics shouldStart =>
    exact ⟨holds.1, quieter.accepting.trans holds.2.1, unopened_quieter quieter holds.2.2⟩
  | closing config topics shouldStart =>
    obtain ⟨built, accepting, empty, idle⟩ := holds
    refine ⟨built, quieter.accepting.trans accepting, quieter.empty empty, ?_⟩
    rw [lifecycle]
    exact idle.imp_right (quieter.idle empty)
  | swapping config topics shouldStart =>
    exact ⟨holds.1, quieter.accepting.trans holds.2.1, drained_quieter quieter holds.2.2⟩
  | creating shouldStart =>
    exact ⟨holds.1, quieter.accepting.trans holds.2.1, drained_quieter quieter holds.2.2⟩
  | starting | restarting | undoing | undoingStop | failed | opening =>
    simp only [RelayStage.Holds, quieter.client]
    exact holds
  | failedQuiet | failedWorker =>
    exact ⟨quieter.accepting.trans holds.1, quieter.empty holds.2⟩
  | failedQueue => exact ⟨quieter.accepting.trans holds.1, drained_quieter quieter holds.2⟩
  | leaving | leavingStop | leavingFence | leavingWorker => trivial
  | leavingContext => exact task holds
  | preparing =>
    obtain ⟨built, accepting, closed, drained⟩ := holds
    exact ⟨built, quieter.accepting.trans accepting, quieter.client.trans closed,
      drained_quieter quieter drained⟩

theorem closing_lifecycle {run : StopRun} (attended : StopRun.Attended run) (error : Int)
    (nowMs : UInt64)
    (idle : (∃ publishOffline, run.lifecycle = .flushed publishOffline) ∨ run.worker.hand = []) :
    (∃ publishOffline, (run.lifecycleStep error nowMs).lifecycle = .flushed publishOffline) ∨
      (run.lifecycleStep error nowMs).worker.hand = [] := by
  rw [StopRun.hand_lifecycleStep attended]
  rcases idle with ⟨publishOffline, at_⟩ | idle
  · simp only [StopRun.lifecycleStep, at_]
    split
    · exact .inl ⟨publishOffline, at_⟩
    · next waited =>
      right
      by_contra holding
      rw [attended.busy holding] at waited
      exact waited rfl
  · exact .inr idle

theorem deleted_stays {run : StopRun} (attended : StopRun.Attended run) (move : RetainedMove)
    (answer : Int) (gone : run.ctx.workerTask = false) :
    (run.step (.worker move answer)).ctx.workerTask = false := by
  have deleted := attended.deleted gone
  rw [step_worker, deleted]
  exact gone

theorem controlled_takeInner (controlled : Controlled sys) (action : StopAction)
    (other : ∀ address seen, action ≠ .observe address seen)
    (holds : sys.stage.Holds (sys.run.step action) sys.setup) : Controlled (sys.takeInner action) :=
  ⟨StopRun.attended_step controlled.attended action other, holds⟩

theorem controlled_inner (controlled : Controlled sys) (action : StopAction) :
    Controlled (sys.inner action) := by
  have attended := controlled.attended
  have holds := controlled.stage
  cases action with
  | observe address seen => exact controlled
  | stop =>
    simp only [inner]
    split
    · next at_ =>
      apply controlled_takeInner controlled .stop (by simp)
      rw [at_] at holds ⊢
      exact unopened_quieter (StopRun.quieter_step attended .stop (by simp)) holds
    · exact controlled
  | start reconnect =>
    simp only [inner]
    split
    · next at_ =>
      apply controlled_takeInner controlled (.start reconnect) (by simp)
      rw [at_] at holds ⊢
      exact unopened_quieter (StopRun.quieter_step attended (.start reconnect) (by simp)) holds
    · exact controlled
  | event eventId =>
    obtain ⟨ctx, _, lifecycle⟩ := StopRun.event_same sys.run eventId
    apply controlled_takeInner controlled (.event eventId) (by simp)
    apply holds_quieter (StopRun.quieter_step attended (.event eventId) (by simp)) lifecycle _ holds
    intro gone
    simp only [StopRun.step, ctx]
    exact gone
  | handler subscription nowMs =>
    apply controlled_takeInner controlled (.handler subscription nowMs) (by simp)
    apply holds_quieter (StopRun.quieter_handler sys.run subscription nowMs) rfl _ holds
    intro gone
    have same := tasks_handler sys.run.ctx sys.run.handler subscription nowMs
    exact (Prod.mk.inj same).1.trans gone
  | worker move answer =>
    apply controlled_takeInner controlled (.worker move answer) (by simp)
    exact holds_quieter (StopRun.quieter_worker sys.run move answer) rfl
      (deleted_stays attended move answer) holds
  | lifecycle error nowMs =>
    have quieter := StopRun.quieter_step attended (.lifecycle error nowMs) (by simp)
    have next := StopRun.attended_step attended (.lifecycle error nowMs) (by simp)
    cases at_ : sys.stage with
    | ready =>
      simp only [inner, at_]
      apply controlled_takeInner controlled (.lifecycle error nowMs) (by simp)
      rw [at_] at holds ⊢
      exact unopened_quieter quieter holds
    | closing config topics shouldStart =>
      simp only [inner, at_]
      apply controlled_takeInner controlled (.lifecycle error nowMs) (by simp)
      rw [at_] at holds ⊢
      obtain ⟨built, accepting, empty, idle⟩ := holds
      exact ⟨built, quieter.accepting.trans accepting, quieter.empty empty,
        closing_lifecycle attended error nowMs idle⟩
    | undoingStop =>
      simp only [inner, at_]
      apply controlled_takeInner controlled (.lifecycle error nowMs) (by simp)
      rw [at_] at holds ⊢
      simp only [RelayStage.Holds, quieter.client]
      exact holds
    | leavingStop =>
      simp only [inner, at_]
      apply controlled_takeInner controlled (.lifecycle error nowMs) (by simp)
      rw [at_]
      trivial
    | restarting =>
      rw [at_] at holds
      have client : (sys.run.step (.lifecycle error nowMs)).ctx.client.isSome := by
        rw [quieter.client]
        exact holds
      have ready : Unopened (sys.run.step (.lifecycle error nowMs)) := by
        intro closed
        rw [closed] at client
        cases client
      simp only [inner, at_]
      refine ⟨next, ?_⟩
      simp only [afterStart]
      split
      · split
        · exact ready
        · exact client
      · split <;> exact client
      · exact client
      · exact client
    | _ =>
      simp only [inner, at_]
      exact controlled

end RelaySystem
