import IosAncs.Relay.Items
import IosAncs.Relay.Ledger

/-!
Every section of the relay moves its ledger: the simulation, and the invariant on
where the calls and the worker stand that it needs.
-/
open Runs RelayContext RelayPolicy RelayLedger

namespace RelayContext

structure Kept (before after : RelayContext) : Prop where
  client : after.client = before.client
  queue : after.queue = before.queue
  accepting : after.acceptingObservers = before.acceptingObservers
  wifi : after.wifiConnected = before.wifiConnected
  recent : after.recent = before.recent
  pending : after.pending = before.pending
  freed : after.freed = before.freed
  counted : after.counters.accepted = before.counters.accepted
  acks : after.counters.publishedAck = before.counters.publishedAck

structure KeptLink (before after : RelayContext) : Prop extends Kept before after where
  connected : after.mqttConnected = before.mqttConnected

structure Flushes (before after : RelayContext) : Prop where
  queue : after.queue.getD [] = []
  closed : before.queue = none → after.queue = none
  pending : after.pending = []
  freed : after.freed = (addressesOf before.pending).reverse ++
    ((addressesOf (before.queue.getD [])).reverse ++ before.freed)
  recent : after.recent = before.recent
  counted : after.counters.accepted = before.counters.accepted
  acks : after.counters.publishedAck = before.counters.publishedAck

theorem Kept.refl (ctx : RelayContext) : Kept ctx ctx := by constructor <;> rfl

theorem KeptLink.refl (ctx : RelayContext) : KeptLink ctx ctx := by constructor <;> first | rfl | exact Kept.refl ctx

theorem KeptLink.online {before after : RelayContext} (keptLink : KeptLink before after) :
    after.online = before.online := by
  unfold RelayContext.online
  rw [keptLink.accepting, keptLink.wifi, keptLink.connected]

theorem freeItems_eq (items : List PayloadItem) (ctx : RelayContext) :
    items.foldl freeItem ctx = { ctx with
      freed := (addressesOf items).reverse ++ ctx.freed
      counters := { ctx.counters with
        freed := ctx.counters.freed + UInt32.ofNat items.length } } := by
  induction items generalizing ctx with
  | nil =>
    cases ctx
    simp
  | cons item rest ih =>
    rw [List.foldl_cons, ih]
    simp [freeItem, UInt32.ofNat_add, UInt32.add_assoc, UInt32.add_comm]

theorem flushLocked_flushes {before ctx : RelayContext} (queue : ctx.queue = before.queue)
    (pending : ctx.pending = before.pending) (freed : ctx.freed = before.freed)
    (recent : ctx.recent = before.recent) (counters : ctx.counters = before.counters) :
    Flushes before (flushLocked ctx) := by
  unfold flushLocked freePendingLocked freeQueueLocked
  rw [queue]
  cases was : before.queue with
  | none =>
    simp only [freeItems_eq]
    constructor <;> simp_all
  | some items =>
    simp only [freeItems_eq]
    constructor <;> simp_all

theorem flushLocked_same (ctx : RelayContext) :
    (flushLocked ctx).client = ctx.client ∧
      (flushLocked ctx).acceptingObservers = ctx.acceptingObservers ∧
      (flushLocked ctx).wifiConnected = ctx.wifiConnected ∧
      (flushLocked ctx).mqttConnected = ctx.mqttConnected ∧
      (flushLocked ctx).workerTask = ctx.workerTask ∧
      (flushLocked ctx).workerBusy = ctx.workerBusy := by
  unfold flushLocked freePendingLocked freeQueueLocked
  cases ctx.queue <;> simp [freeItems_eq]

theorem Untouched.keptLink {before after : RelayContext} (untouched : Untouched before after) :
    KeptLink before after where
  client := untouched.client
  queue := untouched.queue
  accepting := untouched.accepting
  wifi := untouched.wifi
  recent := untouched.recent
  pending := untouched.pending
  freed := untouched.freed
  counted := untouched.counted
  acks := untouched.acks
  connected := untouched.connected

theorem disconnect_flushes (ctx : RelayContext) :
    Flushes ctx (handleDisconnectLocked ctx) ∧ (handleDisconnectLocked ctx).client = ctx.client ∧
      (handleDisconnectLocked ctx).acceptingObservers = ctx.acceptingObservers ∧
      (handleDisconnectLocked ctx).online = false := by
  have same := flushLocked_same (clearRetainedWaitLocked { ctx with
    mqttConnected := false, mqttConnecting := false, retainedRefreshPending := false })
  have down : (handleDisconnectLocked ctx).mqttConnected = false := same.2.2.2.1
  refine ⟨flushLocked_flushes rfl rfl rfl rfl rfl, same.1, same.2.1, ?_⟩
  simp [RelayContext.online, down]

theorem Flushes.of_keptLink {before ctx after : RelayContext} (keptLink : KeptLink before ctx)
    (flushes : Flushes ctx after) : Flushes before after where
  queue := flushes.queue
  closed := by
    rw [← keptLink.queue]
    exact flushes.closed
  pending := flushes.pending
  freed := by
    rw [flushes.freed, keptLink.pending, keptLink.queue, keptLink.freed]
  recent := flushes.recent.trans keptLink.recent
  counted := flushes.counted.trans keptLink.counted
  acks := flushes.acks.trans keptLink.acks

theorem error_flushes (ctx : RelayContext) (codes : Option MqttErrorFields) (nowMs : UInt64) :
    Flushes ctx (handleDisconnectLocked (captureErrorLocked ctx codes nowMs)) ∧
      (handleDisconnectLocked (captureErrorLocked ctx codes nowMs)).client = ctx.client ∧
      (handleDisconnectLocked (captureErrorLocked ctx codes nowMs)).acceptingObservers =
        ctx.acceptingObservers ∧
      (handleDisconnectLocked (captureErrorLocked ctx codes nowMs)).online = false := by
  have noted := (untouched_captureErrorLocked ctx codes nowMs).keptLink
  obtain ⟨flushes, client, accepting, down⟩ :=
    disconnect_flushes (captureErrorLocked ctx codes nowMs)
  exact ⟨.of_keptLink noted flushes, client.trans noted.client, accepting.trans noted.accepting, down⟩

def acknowledgedCtx (ctx : RelayContext) (item : PayloadItem) (rest : List PayloadItem) :
    RelayContext :=
  freeItem { ctx with
    pending := rest
    counters := { ctx.counters with publishedAck := ctx.counters.publishedAck + 1 } } item

end RelayContext

namespace StopRun

theorem keptLink_lifecycleStep (run : StopRun) (error : Int) (nowMs : UInt64) :
    KeptLink run.ctx (run.lifecycleStep error nowMs).ctx := by
  cases at_ : run.lifecycle with
  | idle | stopped =>
    simp only [lifecycleStep, at_]
    exact KeptLink.refl run.ctx
  | creatingWorker reconnect =>
    simp only [lifecycleStep, at_]
    split <;> exact ⟨by constructor <;> rfl, rfl⟩
  | starting reconnect | startFailed failure | barring =>
    simp only [lifecycleStep, at_]
    exact ⟨by constructor <;> rfl, rfl⟩
  | startCalling reconnect | flushed publishOffline | quieting | stoppingClient =>
    simp only [lifecycleStep, at_]
    split <;> exact KeptLink.refl run.ctx
  | announcing =>
    simp only [lifecycleStep, at_]
    split
    · exact KeptLink.refl run.ctx
    · next entered enter => exact (untouched_publishRawEnter enter).keptLink
  | announcingCall =>
    simp only [lifecycleStep, at_]
    exact (untouched_rawLeave run.ctx).keptLink

theorem keptLink_startCall (run : StopRun) (reconnect : Bool) :
    KeptLink run.ctx (run.startCall reconnect).ctx := by
  unfold startCall
  split <;> exact ⟨by constructor <;> rfl, rfl⟩

theorem worker_startCall (run : StopRun) (reconnect : Bool) :
    (run.startCall reconnect).worker = run.worker := by
  unfold startCall
  split <;> rfl

theorem event_same (run : StopRun) (eventId : MqttEventId) :
    (run.event eventId).ctx = run.ctx ∧ (run.event eventId).worker = run.worker ∧
      (run.event eventId).lifecycle = run.lifecycle := by
  unfold event
  split
  · split <;> exact ⟨rfl, rfl, rfl⟩
  · exact ⟨rfl, rfl, rfl⟩

end StopRun

def RelayObserver.held {limits : AncsLimits} :
    RelayObserver limits → Option (RelaySighting limits × Nat)
  | .decided _ => none
  | .holding sighting address _ => some (sighting, address)

namespace RelaySystem
variable {limits : AncsLimits}

def ledger (sys : RelaySystem limits) : RelayLedger limits where
  held := sys.observers.filterMap RelayObserver.held
  queue := sys.run.ctx.queue.getD []
  hand := sys.run.worker.hand
  pending := sys.run.ctx.pending
  freed := sys.run.ctx.freed
  counted := sys.run.ctx.counters.accepted
  acknowledged := sys.run.ctx.counters.publishedAck
  recent := sys.run.ctx.recent
  bootNonce := sys.bootNonce
  setup := sys.setup
  client := sys.run.ctx.client.map fun _ => sys.clientSetup
  online := sys.run.ctx.online
  sightings := sys.sightings
  accepted := sys.accepted
  settled := sys.settled
  marks := sys.marks
  lost := sys.lost
  handed := sys.handed

def connects (sys : RelaySystem limits) : RelayAction limits → Bool
  | .inner (.handler _ _) =>
    match sys.run.handler with
    | .checked event =>
      event.eventId = .connected && sys.run.ctx.acceptingObservers && sys.run.ctx.wifiConnected
    | _ => false
  | .setWifiConnected connected =>
    connected && sys.run.ctx.acceptingObservers && sys.run.ctx.mqttConnected
  | .outer _ => sys.stage = .opening && sys.run.ctx.wifiConnected && sys.run.ctx.mqttConnected
  | _ => false

def accepts (sys : RelaySystem limits) : RelayAction limits → Option (RelaySighting limits)
  | .finish index _ =>
    match sys.observers[index]? with
    | some (.holding sighting _ _) =>
      if sys.run.ctx.finishOutcome sys.bootNonce sighting.notification = .accepted then
        some sighting
      else none
    | _ => none
  | _ => none

def refuses (sys : RelaySystem limits) : RelayAction limits → Option PayloadItem
  | .inner (.worker _ _) =>
    match sys.run.worker with
    | .handed item msgId => if msgId ≤ 0 then some item else none
    | _ => none
  | _ => none

structure Obeys (rules : RelayRules limits) (sys : RelaySystem limits)
    (action : RelayAction limits) : Prop where
  connects : sys.connects action = true → rules.connects sys.ledger
  accepts : ∀ sighting, sys.accepts action = some sighting → rules.accepts sys.ledger sighting
  refuses : ∀ item, sys.refuses action = some item → sys.run.ctx.online = true →
    rules.refuses sys.ledger item

variable {rules : RelayRules limits} {sys : RelaySystem limits}

theorem move_kept (run : StopRun) (stage : RelayStage) (observers : List (RelayObserver limits))
    (kept : Kept sys.run.ctx run.ctx) (hand : run.worker.hand = sys.run.worker.hand)
    (held : observers.filterMap RelayObserver.held = sys.observers.filterMap RelayObserver.held)
    (up : run.ctx.online = true → sys.run.ctx.online = true ∨ rules.connects sys.ledger) :
    Move rules sys.ledger ({ sys with run, stage, observers } : RelaySystem limits).ledger := by
  have same : ({ sys with run, stage, observers } : RelaySystem limits).ledger =
      { sys.ledger with online := run.ctx.online } := by
    simp only [ledger, kept.client, kept.queue, kept.recent, kept.pending, kept.freed,
      kept.counted, kept.acks, hand, held]
  rw [same]
  exact .link _ up

theorem flushes_unsent (ctx : RelayContext) :
    (ctx.flushes.filter fun entry => entry.2.unsent).map Prod.fst =
      addressesOf (ctx.queue.getD []) := by
  simp [RelayContext.flushes, addressesOf, RelayFate.unsent, List.filter_map, Function.comp_def]

theorem ledger_flushes (run : StopRun) (stage : RelayStage) (flushes : Flushes sys.run.ctx run.ctx)
    (down : run.ctx.online = false) (hand : run.worker.hand = sys.run.worker.hand) :
    ({ sys.settle sys.run.ctx.flushes with run, stage } : RelaySystem limits).ledger =
      { sys.ledger.flushed with client := run.ctx.client.map fun _ => sys.clientSetup } := by
  simp only [ledger, flushed, settle, flushes.queue, flushes.pending, flushes.freed,
    flushes.recent, flushes.counted, flushes.acks, hand, down, flushes_unsent]
  rfl

theorem takeInner_quiet {action : StopAction} (settles : sys.run.settles action = [])
    (hands : sys.run.hands action = none) :
    sys.takeInner action = { sys with run := sys.run.step action } := by
  unfold takeInner
  rw [settles, hands]
  rfl

theorem inner_kept {action : StopAction} (settles : sys.run.settles action = [])
    (hands : sys.run.hands action = none) (kept : Kept sys.run.ctx (sys.run.step action).ctx)
    (hand : (sys.run.step action).worker.hand = sys.run.worker.hand)
    (up : (sys.run.step action).ctx.online = true →
      sys.run.ctx.online = true ∨ rules.connects sys.ledger) :
    Move rules sys.ledger (sys.takeInner action).ledger := by
  rw [takeInner_quiet settles hands]
  exact move_kept _ _ _ kept hand rfl up

theorem inner_keptLink {action : StopAction} (settles : sys.run.settles action = [])
    (hands : sys.run.hands action = none) (keptLink : KeptLink sys.run.ctx (sys.run.step action).ctx)
    (hand : (sys.run.step action).worker.hand = sys.run.worker.hand) :
    Move rules sys.ledger (sys.takeInner action).ledger :=
  inner_kept settles hands keptLink.toKept hand fun up => .inl (keptLink.online ▸ up)

theorem move_flush (run : StopRun) (stage : RelayStage) (flushes : Flushes sys.run.ctx run.ctx)
    (client : run.ctx.client = sys.run.ctx.client) (down : run.ctx.online = false)
    (hand : run.worker.hand = sys.run.worker.hand) :
    Move rules sys.ledger
      ({ sys.settle sys.run.ctx.flushes with run, stage } : RelaySystem limits).ledger := by
  rw [ledger_flushes run stage flushes down hand, client]
  exact .flush

theorem move_close (run : StopRun) (stage : RelayStage) (flushes : Flushes sys.run.ctx run.ctx)
    (client : run.ctx.client = none) (down : run.ctx.online = false)
    (hand : run.worker.hand = sys.run.worker.hand) :
    Move rules sys.ledger
      ({ sys.settle sys.run.ctx.flushes with run, stage } : RelaySystem limits).ledger := by
  rw [ledger_flushes run stage flushes down hand, client]
  exact .close

theorem step_worker (run : StopRun) (move : RetainedMove) (answer : Int) :
    run.step (.worker move answer) =
      { run with
        ctx := (run.worker.step run.ctx move answer).1
        worker := (run.worker.step run.ctx move answer).2 } := rfl

theorem move_worker_quiet (move : RetainedMove) (answer : Int)
    (notTaking : sys.run.worker = .draining → drainTake sys.run.ctx = none)
    (notEntering : ∀ item, sys.run.worker = .taken item → enqueueRawEnter sys.run.ctx = none)
    (notSettling : ∀ item msgId, sys.run.worker ≠ .handed item msgId) :
    Move rules sys.ledger (sys.takeInner (.worker move answer)).ledger := by
  have quiet := untouched_worker sys.run.ctx sys.run.worker move answer notTaking notSettling
  have settles : sys.run.settles (.worker move answer) = [] := by
    cases worker : sys.run.worker with
    | handed item msgId => exact absurd worker (notSettling item msgId)
    | _ => simp [StopRun.settles, worker]
  have hands : sys.run.hands (.worker move answer) = none := by
    cases worker : sys.run.worker with
    | taken item => simp [StopRun.hands, worker, notEntering item worker]
    | _ => simp [StopRun.hands, worker]
  exact inner_keptLink settles hands quiet.1.keptLink quiet.2

theorem move_drainTake (move : RetainedMove) (answer : Int) (worker : sys.run.worker = .draining)
    {item : PayloadItem} {took : RelayContext} (takes : drainTake sys.run.ctx = some (item, took)) :
    Move rules sys.ledger (sys.takeInner (.worker move answer)).ledger := by
  have settles : sys.run.settles (.worker move answer) = [] := by simp [StopRun.settles, worker]
  have hands : sys.run.hands (.worker move answer) = none := by simp [StopRun.hands, worker]
  rw [takeInner_quiet settles hands, step_worker, worker]
  simp only [RelayWorker.step, takes]
  obtain ⟨rest, _, queue, rfl⟩ := drainTake_some takes
  have first : sys.ledger.queue = item :: rest := by simp [ledger, queue]
  have idle : sys.ledger.hand = [] := by simp [ledger, worker, RelayWorker.hand]
  exact .take item rest first idle

theorem move_enter (move : RetainedMove) (answer : Int) {item : PayloadItem}
    (worker : sys.run.worker = .taken item) {entered : RelayContext}
    (enter : enqueueRawEnter sys.run.ctx = some entered) :
    Move rules sys.ledger (sys.takeInner (.worker move answer)).ledger := by
  have settles : sys.run.settles (.worker move answer) = [] := by simp [StopRun.settles, worker]
  have hands : sys.run.hands (.worker move answer) = some item := by
    simp [StopRun.hands, worker, enter]
  have keptLink := (untouched_enqueueRawEnter enter).keptLink
  have client : ∃ client, sys.run.ctx.client = some client := by
    rw [← Option.ne_none_iff_exists']
    intro absent
    simp [enqueueRawEnter, absent] at enter
  obtain ⟨client, made⟩ := client
  have next : (sys.takeInner (.worker move answer)).ledger =
      { sys.ledger with handed := { item, client := sys.clientSetup } :: sys.handed } := by
    unfold takeInner
    rw [settles, hands, step_worker, worker]
    simp only [RelayWorker.step, enter, ledger, settle, keptLink.client, keptLink.queue, keptLink.recent,
      keptLink.pending, keptLink.freed, keptLink.counted, keptLink.acks, keptLink.online, worker]
    rfl
  rw [next]
  have hand : sys.ledger.hand = [item] := by simp [ledger, worker, RelayWorker.hand]
  have setup : sys.ledger.client = some sys.clientSetup := by simp [ledger, made]
  exact .handOver item sys.clientSetup hand setup

theorem move_settle (move : RetainedMove) (answer : Int) {item : PayloadItem} {msgId : Int}
    (worker : sys.run.worker = .handed item msgId)
    (allowed : msgId ≤ 0 → sys.run.ctx.online = true → rules.refuses sys.ledger item) :
    Move rules sys.ledger (sys.takeInner (.worker move answer)).ledger := by
  have hands : sys.run.hands (.worker move answer) = none := by simp [StopRun.hands, worker]
  have hand : sys.ledger.hand = [item] := by simp [ledger, worker, RelayWorker.hand]
  unfold takeInner
  rw [hands, step_worker, worker]
  simp only [RelayWorker.step]
  by_cases rejected : msgId ≤ 0
  · have settles : sys.run.settles (.worker move answer) = [(item.address, .refused)] := by
      simp [StopRun.settles, worker, rejected]
    have frees : drainSettle sys.run.ctx item msgId =
        freeItem { sys.run.ctx with workerBusy := false } item := by simp [drainSettle, rejected]
    rw [settles, frees]
    exact .refused item hand (allowed rejected)
  · by_cases down : sys.run.ctx.mqttConnected = false
    · have settles : sys.run.settles (.worker move answer) = [(item.address, .abandoned)] := by
        simp [StopRun.settles, worker, rejected, down]
      have frees : drainSettle sys.run.ctx item msgId =
          freeItem { sys.run.ctx with workerBusy := false } item := by simp [drainSettle, down]
      rw [settles, frees]
      exact .abandon item hand
    · have settles : sys.run.settles (.worker move answer) = [] := by
        simp [StopRun.settles, worker, rejected, down]
      have tracks : drainSettle sys.run.ctx item msgId =
          trackPendingLocked { sys.run.ctx with workerBusy := false } item msgId := by
        simp [drainSettle, rejected, down]
      rw [settles, tracks]
      exact .track item msgId hand

theorem move_worker (move : RetainedMove) (answer : Int)
    (allowed : ∀ item, sys.refuses (.inner (.worker move answer)) = some item →
      sys.run.ctx.online = true → rules.refuses sys.ledger item) :
    Move rules sys.ledger (sys.takeInner (.worker move answer)).ledger := by
  cases worker : sys.run.worker with
  | draining =>
    cases takes : drainTake sys.run.ctx with
    | none => exact move_worker_quiet move answer (fun _ => takes) (by simp [worker]) (by simp [worker])
    | some took => exact move_drainTake move answer worker takes
  | taken item =>
    cases enter : enqueueRawEnter sys.run.ctx with
    | none => exact move_worker_quiet move answer (by simp [worker]) (fun _ _ => enter) (by simp [worker])
    | some entered => exact move_enter move answer worker enter
  | handed item msgId =>
    apply move_settle move answer worker
    intro rejected
    exact allowed item (by simp [refuses, worker, rejected])
  | waiting | deleted | retaining | retainedCall | retained | calling _ | called _ _ =>
    exact move_worker_quiet move answer (by simp [worker]) (by simp [worker]) (by simp [worker])

theorem step_handler (run : StopRun) (subscription : Int) (nowMs : UInt64) :
    run.step (.handler subscription nowMs) =
      { run with
        ctx := (run.handler.step run.ctx subscription nowMs).1
        handler := (run.handler.step run.ctx subscription nowMs).2
        sinceStop := run.sinceStop ++ run.handler.flagSection.toList } := rfl

theorem ledger_acknowledged (run : StopRun) {item : PayloadItem} {rest : List PayloadItem}
    (keptLink : KeptLink (acknowledgedCtx sys.run.ctx item rest) run.ctx)
    (hand : run.worker.hand = sys.run.worker.hand) :
    ({ sys.settle [(item.address, .acknowledged)] with run } : RelaySystem limits).ledger =
      { sys.ledger with
        pending := rest
        freed := item.address :: sys.ledger.freed
        settled := (item.address, .acknowledged) :: sys.ledger.settled
        acknowledged := sys.ledger.acknowledged + 1 } := by
  simp only [ledger, settle, keptLink.client, keptLink.queue, keptLink.recent, keptLink.pending,
    keptLink.freed, keptLink.counted, keptLink.acks, keptLink.online, hand]
  rfl

theorem move_published (subscription : Int) (nowMs : UInt64) {client : Nat} {msgId : Int}
    (handler : sys.run.handler = .checked { client, eventId := .published msgId }) :
    Move rules sys.ledger (sys.takeInner (.handler subscription nowMs)).ledger := by
  have hands : sys.run.hands (.handler subscription nowMs) = none := rfl
  have next : (sys.run.step (.handler subscription nowMs)).ctx =
      handlePublishedLocked sys.run.ctx msgId := by
    rw [step_handler, handler]
    rfl
  cases taken : takeById msgId sys.run.ctx.pending with
  | mk found rest =>
    cases found with
    | none =>
      have settles : sys.run.settles (.handler subscription nowMs) = [] := by
        simp [StopRun.settles, handler, taken]
      have missed : handlePublishedLocked sys.run.ctx msgId = noteRetainedAck sys.run.ctx msgId := by
        simp [handlePublishedLocked, taken]
      apply inner_keptLink settles hands
      · rw [next, missed]
        exact (untouched_noteRetainedAck sys.run.ctx msgId).keptLink
      · rfl
    | some item =>
      have settles : sys.run.settles (.handler subscription nowMs) =
          [(item.address, .acknowledged)] := by
        simp [StopRun.settles, handler, taken]
      obtain ⟨_, newer, older, split, left⟩ := takeById_some taken
      have keptLink : KeptLink (acknowledgedCtx sys.run.ctx item rest)
          (sys.run.step (.handler subscription nowMs)).ctx := by
        rw [next]
        simp only [handlePublishedLocked, taken]
        exact (untouched_noteRetainedAck _ msgId).keptLink
      unfold takeInner
      rw [settles, hands]
      have after := ledger_acknowledged (sys.run.step (.handler subscription nowMs)) keptLink rfl
      rw [left] at after
      exact after ▸ .acknowledge item newer older split

theorem move_handler (subscription : Int) (nowMs : UInt64)
    (allowed : sys.connects (.inner (.handler subscription nowMs)) = true →
      rules.connects sys.ledger) :
    Move rules sys.ledger (sys.takeInner (.handler subscription nowMs)).ledger := by
  have hands : sys.run.hands (.handler subscription nowMs) = none := rfl
  cases handler : sys.run.handler with
  | idle | entered event | subscribing restart =>
    have settles : sys.run.settles (.handler subscription nowMs) = [] := by
      simp [StopRun.settles, handler]
    apply inner_keptLink settles hands
    · rw [step_handler, handler]
      exact KeptLink.refl sys.run.ctx
    · rfl
  | subscribeFailed =>
    have settles : sys.run.settles (.handler subscription nowMs) = [] := by
      simp [StopRun.settles, handler]
    apply inner_kept settles hands
    · rw [step_handler, handler]
      constructor <;> rfl
    · rfl
    · rw [step_handler, handler]
      intro up
      simp [RelayHandler.step, RelayContext.online] at up
  | checked event =>
    obtain ⟨client, eventId⟩ := event
    cases eventId with
    | beforeConnect | data | other =>
      have settles : sys.run.settles (.handler subscription nowMs) = [] := by
        simp [StopRun.settles, handler]
      apply inner_keptLink settles hands
      · rw [step_handler, handler]
        exact ⟨by constructor <;> rfl, rfl⟩
      · rfl
    | connected =>
      have settles : sys.run.settles (.handler subscription nowMs) = [] := by
        simp [StopRun.settles, handler]
      apply inner_kept settles hands
      · rw [step_handler, handler]
        constructor <;> rfl
      · rfl
      · rw [step_handler, handler]
        intro up
        right
        apply allowed
        simp only [connects, handler]
        simpa [RelayHandler.step, RelayHandler.act, clearErrorLocked, RelayContext.online] using up
    | published msgId => exact move_published subscription nowMs handler
    | disconnected =>
      have settles : sys.run.settles (.handler subscription nowMs) = sys.run.ctx.flushes := by
        simp [StopRun.settles, handler]
      obtain ⟨flushes, client, _, down⟩ := disconnect_flushes sys.run.ctx
      unfold takeInner
      rw [settles, hands, step_handler, handler]
      exact move_flush _ _ flushes client down rfl
    | error codes =>
      have settles : sys.run.settles (.handler subscription nowMs) = sys.run.ctx.flushes := by
        simp [StopRun.settles, handler]
      obtain ⟨flushes, client, _, down⟩ := error_flushes sys.run.ctx codes nowMs
      unfold takeInner
      rw [settles, hands, step_handler, handler]
      exact move_flush _ _ flushes client down rfl

/-- The sighting as the sections of a single boot see it. -/
def sightingObservation (sighting : RelaySighting limits) (payload : List UInt8) (nowMs : UInt64) :
    RelayObservation where
  topic := sighting.topic
  payload
  relayId := sighting.relayId
  admissible := true
  live := isLive sighting.notification
  nowMs

/-- Within one boot, the last section decides on the id that the first one built. -/
theorem observeFinish_eq_observeSend (ctx : RelayContext) (sighting : RelaySighting limits)
    (address : Nat) (payload : List UInt8) (nowMs : UInt64) :
    ctx.observeFinish sighting.bootNonce sighting address payload nowMs =
      observeSend ctx address (sightingObservation sighting payload nowMs) := by
  unfold RelayContext.observeFinish observeSend
  cases online : ctx.online with
  | false =>
    have down : (!ctx.acceptingObservers || !ctx.wifiConnected || !ctx.mqttConnected) = true := by
      unfold RelayContext.online at online
      rw [← Bool.not_and, ← Bool.not_and, online, Bool.not_false]
    simp [down, sightingObservation]
  | true =>
    have up : (!ctx.acceptingObservers || !ctx.wifiConnected || !ctx.mqttConnected) = false := by
      unfold RelayContext.online at online
      rw [← Bool.not_and, ← Bool.not_and, online, Bool.not_true]
    have passes : OtherChecksPass sighting.notification (ctx.connectivity sighting.bootNonce) := by
      simp only [RelayContext.online, Bool.and_eq_true] at online
      exact ⟨sighting.relayable, online.1.2, online.2⟩
    have decides : (ctx.decides sighting.bootNonce sighting.notification ≠ .publish) ↔
        ctx.recent.contains sighting.relayId = true := by
      rw [RelayContext.decides, ne_eq, policyDecide_publish_iff, sighting.built, not_and,
        Bool.not_eq_false]
      exact ⟨fun unknown => unknown passes, fun known _ => known⟩
    simp only [up, decides, sightingObservation, Bool.not_true, Bool.false_or]
    rfl

structure Frees (before after : RelayContext) (address : Nat) : Prop where
  client : after.client = before.client
  queue : after.queue = before.queue
  recent : after.recent = before.recent
  pending : after.pending = before.pending
  freed : after.freed = address :: before.freed
  counted : after.counters.accepted = before.counters.accepted
  acks : after.counters.publishedAck = before.counters.publishedAck
  online : after.online = before.online

theorem finish_frees {ctx : RelayContext} {bootNonce : UInt32} {sighting : RelaySighting limits}
    (address : Nat) (payload : List UInt8) (nowMs : UInt64)
    (outcome : ctx.finishOutcome bootNonce sighting.notification = .refused ∨
      ctx.finishOutcome bootNonce sighting.notification = .overflow) :
    Frees ctx (ctx.observeFinish bootNonce sighting address payload nowMs) address := by
  unfold RelayContext.finishOutcome at outcome
  unfold RelayContext.observeFinish
  by_cases offline : ctx.online = false
  · simp only [offline, Bool.not_false, ↓reduceIte]
    constructor <;> rfl
  · simp only [Bool.not_eq_false] at offline
    simp only [offline, Bool.not_true, Bool.false_or, Bool.false_eq_true, ↓reduceIte] at outcome ⊢
    split
    · constructor <;> rfl
    · next publishes =>
      simp only [publishes, decide_false, Bool.false_eq_true, ↓reduceIte] at outcome
      cases queue : ctx.queue with
      | none => simp [queue] at outcome
      | some items =>
        simp only [queue] at outcome ⊢
        split
        · next room => simp [room] at outcome
        · constructor <;> first | rfl | exact queue.symm

theorem finish_accepted {ctx : RelayContext} {bootNonce : UInt32} {sighting : RelaySighting limits}
    (address : Nat) (payload : List UInt8) (nowMs : UInt64)
    (outcome : ctx.finishOutcome bootNonce sighting.notification = .accepted) :
    ctx.decides bootNonce sighting.notification = .publish ∧ ctx.online = true ∧
      ∃ items, ctx.queue = some items ∧ items.length < queueCapacity ∧
        ctx.observeFinish bootNonce sighting address payload nowMs =
          { ctx with
            queue := some (items ++ [{ address, topic := sighting.topic, payload, msgId := 0 }])
            recent := ctx.recent.markRecent sighting.relayId
            counters := { ctx.counters with accepted := ctx.counters.accepted + 1 }
            lastNotificationUptimeMs :=
              if isLive sighting.notification then nowMs else ctx.lastNotificationUptimeMs } := by
  unfold RelayContext.finishOutcome at outcome
  unfold RelayContext.observeFinish
  split at outcome
  · cases outcome
  · next admitted =>
    simp only [Bool.or_eq_true, Bool.not_eq_true', decide_eq_true_eq, not_or, Bool.not_eq_false,
      not_not] at admitted
    obtain ⟨online, publishes⟩ := admitted
    split at outcome
    · next items queue =>
      split at outcome
      · next room =>
        refine ⟨publishes, online, items, queue, room, ?_⟩
        simp [online, publishes, room]
      · cases outcome
    · cases outcome

theorem observers_split {observers : List (RelayObserver limits)} {index : Nat}
    {observer : RelayObserver limits} (found : observers[index]? = some observer) :
    ∃ before after, observers = before ++ observer :: after ∧
      observers.eraseIdx index = before ++ after := by
  obtain ⟨inside, same⟩ := List.getElem?_eq_some_iff.mp found
  refine ⟨observers.take index, observers.drop (index + 1), ?_,
    List.eraseIdx_eq_take_drop_succ observers index⟩
  rw [← same, List.getElem_cons_drop, List.take_append_drop]

theorem held_decided {index : Nat} {sighting : RelaySighting limits}
    (found : sys.observers[index]? = some (.decided sighting)) :
    (sys.observers.eraseIdx index).filterMap RelayObserver.held =
      sys.observers.filterMap RelayObserver.held := by
  obtain ⟨before, after, split, left⟩ := observers_split found
  rw [left, split, List.filterMap_append, List.filterMap_append, List.filterMap_cons_none]
  rfl

theorem held_holding {index : Nat} {sighting : RelaySighting limits} {address : Nat}
    {payload : List UInt8}
    (found : sys.observers[index]? = some (.holding sighting address payload)) :
    (sys.observers.filterMap RelayObserver.held).Perm
      ((sighting, address) :: (sys.observers.eraseIdx index).filterMap RelayObserver.held) := by
  obtain ⟨before, after, split, left⟩ := observers_split found
  rw [left, split]
  simp only [List.filterMap_append, List.filterMap_cons, RelayObserver.held]
  exact List.perm_middle

theorem move_observe (notification : AncsNotification limits) :
    Move rules sys.ledger (sys.observe notification).ledger := by
  unfold observe RelayContext.observeBegin
  by_cases offline : sys.run.ctx.online = false
  · simp only [offline, Bool.not_false, ↓reduceIte]
    exact move_kept _ _ _ (by constructor <;> rfl) rfl rfl fun up => .inl up
  · simp only [Bool.not_eq_false] at offline
    simp only [offline, Bool.not_true, Bool.false_eq_true, ↓reduceIte]
    by_cases publishes : sys.run.ctx.decides sys.bootNonce notification = .publish
    · simp only [publishes, ↓reduceDIte]
      apply move_kept _ _ _ (Kept.refl sys.run.ctx) rfl
      · simp [RelayObserver.held]
      · exact fun up => .inl up
    · simp only [publishes, ↓reduceDIte]
      exact move_kept _ _ _ (by constructor <;> rfl) rfl rfl fun up => .inl up

theorem move_allocate (index : Nat) (payload : Option (List UInt8)) :
    Move rules sys.ledger (sys.allocate index payload).ledger := by
  unfold allocate
  split
  · next sighting found =>
    exact move_kept _ _ _ (by constructor <;> rfl) rfl (held_decided found) fun up => .inl up
  · next sighting payload found =>
    apply Move.allocate sighting
    simp only [ledger, List.filterMap_append, held_decided found, List.filterMap_cons,
      RelayObserver.held, List.filterMap_nil]
    exact List.perm_append_singleton _ _
  · exact move_kept _ _ _ (Kept.refl sys.run.ctx) rfl rfl fun up => .inl up

theorem ledger_frees (observers : List (RelayObserver limits)) {ctx : RelayContext} {address : Nat}
    (frees : Frees sys.run.ctx ctx address) (lost : List Nat) :
    ({ sys.withCtx ctx with observers, lost } : RelaySystem limits).ledger =
      { sys.ledger with
        held := observers.filterMap RelayObserver.held
        freed := address :: sys.run.ctx.freed
        lost } := by
  simp only [ledger, withCtx, frees.client, frees.queue, frees.recent, frees.pending, frees.freed,
    frees.counted, frees.acks, frees.online]

theorem move_accept {index : Nat} {sighting : RelaySighting limits} {address : Nat}
    {payload : List UInt8} (nowMs : UInt64)
    (found : sys.observers[index]? = some (.holding sighting address payload))
    (outcome : sys.run.ctx.finishOutcome sys.bootNonce sighting.notification = .accepted)
    (allowed : rules.accepts sys.ledger sighting) :
    Move rules sys.ledger
      ({ sys.withCtx (sys.run.ctx.observeFinish sys.bootNonce sighting address payload nowMs) with
        observers := sys.observers.eraseIdx index
        accepted := address :: sys.accepted
        marks := .accepted address sighting.relayId :: sys.marks } : RelaySystem limits).ledger := by
  obtain ⟨publishes, _, items, queue, _, next⟩ := finish_accepted address payload nowMs outcome
  have unknown : sys.ledger.recent.contains
      (buildId sighting.notification sys.ledger.bootNonce) = false :=
    ((policyDecide_publish_iff _ _ _).mp publishes).2
  let item : PayloadItem := { address, topic := sighting.topic, payload, msgId := 0 }
  have same : ({ sys.withCtx
        (sys.run.ctx.observeFinish sys.bootNonce sighting address payload nowMs) with
        observers := sys.observers.eraseIdx index
        accepted := address :: sys.accepted
        marks := .accepted address sighting.relayId :: sys.marks } : RelaySystem limits).ledger =
      { sys.ledger with
        held := (sys.observers.eraseIdx index).filterMap RelayObserver.held
        queue := sys.ledger.queue ++ [item]
        counted := sys.ledger.counted + 1
        recent := sys.ledger.recent.markRecent sighting.relayId
        accepted := item.address :: sys.ledger.accepted
        marks := .accepted item.address sighting.relayId :: sys.ledger.marks } := by
    simp only [ledger, withCtx, next, queue, Option.getD_some, RelayContext.online, item]
  rw [same]
  exact .accept sighting item _ (held_holding found) rfl unknown allowed

theorem move_finish (index : Nat) (nowMs : UInt64) (obeys : Obeys rules sys (.finish index nowMs)) :
    Move rules sys.ledger (sys.finish index nowMs).ledger := by
  have same : Move rules sys.ledger sys.ledger :=
    move_kept _ _ _ (Kept.refl sys.run.ctx) rfl rfl fun up => .inl up
  unfold finish
  split
  · next sighting address payload found =>
    have held := held_holding found
    dsimp only
    split
    · next outcome =>
      have frees := finish_frees address payload nowMs (.inl outcome)
      have after := ledger_frees (sys.observers.eraseIdx index) frees sys.lost
      exact after ▸ .refuse sighting address _ held
    · next outcome =>
      have allowed := obeys.accepts sighting (by simp [accepts, found, outcome])
      exact move_accept nowMs found outcome allowed
    · next outcome =>
      have frees := finish_frees address payload nowMs (.inr outcome)
      have after := ledger_frees (sys.observers.eraseIdx index) frees (address :: sys.lost)
      exact after ▸ .overflow sighting address _ held
    · exact same
  · exact same

end RelaySystem
