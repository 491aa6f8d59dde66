import IosAncs.Relay.Context

/-!
What the sections of the relay leave as it is. Those that only count the calls of the client,
or note an acknowledgement or an error, are said here once; what the items, the link and the
worker's task keep is read off.
-/
namespace RelayContext

structure Untouched (before after : RelayContext) : Prop where
  client : after.client = before.client
  queue : after.queue = before.queue
  accepting : after.acceptingObservers = before.acceptingObservers
  allowed : after.publishAllowed = before.publishAllowed
  wifi : after.wifiConnected = before.wifiConnected
  connected : after.mqttConnected = before.mqttConnected
  connecting : after.mqttConnecting = before.mqttConnecting
  recent : after.recent = before.recent
  pending : after.pending = before.pending
  freed : after.freed = before.freed
  counted : after.counters.accepted = before.counters.accepted
  acks : after.counters.publishedAck = before.counters.publishedAck

theorem Untouched.refl (ctx : RelayContext) : Untouched ctx ctx := by constructor <;> rfl

theorem noteRetainedAck_fields (ctx : RelayContext) (msgId : Int) : ∃ received early,
    noteRetainedAck ctx msgId =
      { ctx with retainedAckReceived := received, retainedEarlyAckIds := early } := by
  unfold noteRetainedAck
  split
  · exact ⟨_, _, rfl⟩
  · split
    · split <;> exact ⟨_, _, rfl⟩
    · split
      · exact ⟨_, _, rfl⟩
      · split <;> exact ⟨_, _, rfl⟩

theorem enqueueRawEnter_some {ctx entered : RelayContext} (h : enqueueRawEnter ctx = some entered) :
    entered = { ctx with publishInFlight := ctx.publishInFlight + 1 } := by
  unfold enqueueRawEnter at h
  split at h
  · cases h
  · exact (Option.some.inj h).symm

theorem publishRawEnter_some {ctx entered : RelayContext} (h : publishRawEnter ctx = some entered) :
    entered = { ctx with publishInFlight := ctx.publishInFlight + 1 } := by
  unfold publishRawEnter at h
  split at h
  · cases h
  · exact (Option.some.inj h).symm

theorem rawLeave_fields (ctx : RelayContext) :
    ∃ inFlight, rawLeave ctx = { ctx with publishInFlight := inFlight } := by
  unfold rawLeave
  split
  · exact ⟨_, rfl⟩
  · exact ⟨_, rfl⟩

theorem drainTake_some {ctx took : RelayContext} {item : PayloadItem}
    (h : drainTake ctx = some (item, took)) : ∃ rest, ctx.mqttConnected = true ∧
      ctx.queue = some (item :: rest) ∧ took = { ctx with queue := some rest, workerBusy := true } := by
  unfold drainTake at h
  split at h
  · next head rest connected queue =>
    cases h
    exact ⟨rest, connected, queue, rfl⟩
  · cases h

theorem untouched_noteRetainedAck (ctx : RelayContext) (msgId : Int) :
    Untouched ctx (noteRetainedAck ctx msgId) := by
  obtain ⟨received, early, same⟩ := noteRetainedAck_fields ctx msgId
  rw [same]
  constructor <;> rfl

theorem untouched_enqueueRawEnter {ctx entered : RelayContext}
    (h : enqueueRawEnter ctx = some entered) : Untouched ctx entered := by
  cases enqueueRawEnter_some h
  constructor <;> rfl

theorem untouched_publishRawEnter {ctx entered : RelayContext}
    (h : publishRawEnter ctx = some entered) : Untouched ctx entered := by
  cases publishRawEnter_some h
  constructor <;> rfl

theorem untouched_rawLeave (ctx : RelayContext) : Untouched ctx (rawLeave ctx) := by
  obtain ⟨inFlight, same⟩ := rawLeave_fields ctx
  rw [same]
  constructor <;> rfl

theorem untouched_captureErrorLocked (ctx : RelayContext) (codes : Option MqttErrorFields)
    (nowMs : UInt64) : Untouched ctx (captureErrorLocked ctx codes nowMs) := by
  cases codes <;> constructor <;> rfl

theorem untouched_worker (ctx : RelayContext) (worker : RelayWorker) (move : RetainedMove)
    (answer : Int) (notTaking : worker = .draining → drainTake ctx = none)
    (notSettling : ∀ item msgId, worker ≠ .handed item msgId) :
    Untouched ctx (worker.step ctx move answer).1 ∧
      (worker.step ctx move answer).2.hand = worker.hand := by
  cases worker with
  | waiting =>
    simp only [RelayWorker.step]
    split
    · exact ⟨by constructor <;> rfl, rfl⟩
    · split <;> exact ⟨by constructor <;> rfl, rfl⟩
  | deleted | calling item => exact ⟨Untouched.refl ctx, rfl⟩
  | retaining =>
    cases move with
    | publish =>
      simp only [RelayWorker.step]
      split
      · exact ⟨Untouched.refl ctx, rfl⟩
      · next entered enter => exact ⟨untouched_enqueueRawEnter enter, rfl⟩
    | discoveryDone => exact ⟨by constructor <;> rfl, rfl⟩
    | cleanup => exact ⟨Untouched.refl ctx, rfl⟩
  | retainedCall => exact ⟨untouched_rawLeave ctx, rfl⟩
  | retained => exact ⟨by constructor <;> rfl, rfl⟩
  | draining =>
    simp only [RelayWorker.step, notTaking rfl]
    exact ⟨Untouched.refl ctx, rfl⟩
  | taken item =>
    simp only [RelayWorker.step]
    split
    · exact ⟨Untouched.refl ctx, rfl⟩
    · next entered enter => exact ⟨untouched_enqueueRawEnter enter, rfl⟩
  | called item msgId => exact ⟨untouched_rawLeave ctx, rfl⟩
  | handed item msgId => exact absurd rfl (notSettling item msgId)

end RelayContext
