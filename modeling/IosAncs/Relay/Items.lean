import Mathlib.Data.List.Count
import IosAncs.Relay.Frames

/-!
The items that the context refers to, and what each section does with them.
-/

def PayloadItem.message (item : PayloadItem) : Int × Nat := (item.msgId, item.address)

namespace RelayContext

def addresses (ctx : RelayContext) : List Nat :=
  (ctx.queue.getD []).map PayloadItem.address ++ ctx.pending.map PayloadItem.address ++ ctx.freed

def pendingMessages (ctx : RelayContext) : List (Int × Nat) :=
  ctx.pending.map PayloadItem.message

structure Online (ctx : RelayContext) : Prop where
  client : ctx.client.isSome
  queue : ctx.queue.isSome
  accepting : ctx.acceptingObservers = true
  allowed : ctx.publishAllowed = true
  connected : ctx.mqttConnected = true

theorem Untouched.online {before after : RelayContext} (untouched : Untouched before after)
    (online : Online before) : Online after where
  client := untouched.client ▸ online.client
  queue := untouched.queue ▸ online.queue
  accepting := untouched.accepting.trans online.accepting
  allowed := untouched.allowed.trans online.allowed
  connected := untouched.connected.trans online.connected

theorem Untouched.addresses_eq {before after : RelayContext} (untouched : Untouched before after) :
    after.addresses = before.addresses := by
  unfold addresses
  rw [untouched.queue, untouched.pending, untouched.freed]

theorem Untouched.pendingMessages_eq {before after : RelayContext} (untouched : Untouched before after) :
    after.pendingMessages = before.pendingMessages := by
  unfold pendingMessages
  rw [untouched.pending]

theorem takeById_none {msgId : Int} {items rest : List PayloadItem}
    (h : takeById msgId items = (none, rest)) : ∀ item ∈ items, item.msgId ≠ msgId := by
  induction items generalizing rest with
  | nil => simp
  | cons head next ih =>
    unfold takeById at h
    split at h
    · simp at h
    · next other =>
      have absent : takeById msgId next = (none, (takeById msgId next).2) :=
        Prod.ext (Prod.mk.inj h).1 rfl
      simpa [other] using ih absent

theorem takeById_some {msgId : Int} {items rest : List PayloadItem} {item : PayloadItem}
    (h : takeById msgId items = (some item, rest)) :
    item.msgId = msgId ∧ ∃ before after, items = before ++ item :: after ∧ rest = before ++ after := by
  induction items generalizing rest with
  | nil => simp [takeById] at h
  | cons head next ih =>
    unfold takeById at h
    split at h
    · next same =>
      obtain ⟨found, others⟩ := Prod.mk.inj h
      cases found
      exact ⟨same, [], next, rfl, others.symm⟩
    · obtain ⟨found, others⟩ := Prod.mk.inj h
      have later : takeById msgId next = (some item, (takeById msgId next).2) :=
        Prod.ext found rfl
      obtain ⟨same, before, after, split, left⟩ := ih later
      refine ⟨same, head :: before, after, ?_, ?_⟩
      · rw [split, List.cons_append]
      · rw [← others, left, List.cons_append]

structure Acknowledges (before after : RelayContext) (item : PayloadItem) : Prop where
  client : after.client = before.client
  queue : after.queue = before.queue
  accepting : after.acceptingObservers = before.acceptingObservers
  allowed : after.publishAllowed = before.publishAllowed
  connected : after.mqttConnected = before.mqttConnected
  pending : ∃ newer older, before.pending = newer ++ item :: older ∧ after.pending = newer ++ older
  freed : after.freed = item.address :: before.freed
  acks : after.counters.publishedAck = before.counters.publishedAck + 1

theorem handlePublishedLocked_cases (ctx : RelayContext) (msgId : Int) :
    ((∀ item ∈ ctx.pending, item.msgId ≠ msgId) ∧ Untouched ctx (handlePublishedLocked ctx msgId)) ∨
      ∃ item, item.msgId = msgId ∧ Acknowledges ctx (handlePublishedLocked ctx msgId) item := by
  unfold handlePublishedLocked
  split
  · next rest taken =>
    exact .inl ⟨takeById_none taken, untouched_noteRetainedAck ctx msgId⟩
  · next item rest taken =>
    obtain ⟨same, newer, older, split, left⟩ := takeById_some taken
    have untouched := untouched_noteRetainedAck (freeItem { ctx with
      pending := rest
      counters := { ctx.counters with publishedAck := ctx.counters.publishedAck + 1 } } item) msgId
    right
    refine ⟨item, same, ?_⟩
    exact {
      client := untouched.client
      queue := untouched.queue
      accepting := untouched.accepting
      allowed := untouched.allowed
      connected := untouched.connected
      pending := ⟨newer, older, split, untouched.pending.trans left⟩
      freed := untouched.freed
      acks := untouched.acks }

theorem Acknowledges.online {before after : RelayContext} {item : PayloadItem}
    (h : Acknowledges before after item) (online : Online before) : Online after where
  client := h.client ▸ online.client
  queue := h.queue ▸ online.queue
  accepting := h.accepting.trans online.accepting
  allowed := h.allowed.trans online.allowed
  connected := h.connected.trans online.connected

theorem Acknowledges.count {before after : RelayContext} {item : PayloadItem}
    (h : Acknowledges before after item) (address : Nat) :
    after.addresses.count address = before.addresses.count address := by
  obtain ⟨newer, older, was, now⟩ := h.pending
  unfold addresses
  rw [h.queue, h.freed, was, now]
  simp only [List.map_append, List.map_cons, List.count_append, List.count_cons]
  omega

theorem Acknowledges.pendingMessages {before after : RelayContext} {item : PayloadItem}
    (h : Acknowledges before after item) :
    ∃ newer older, before.pendingMessages = newer ++ item.message :: older ∧
      after.pendingMessages = newer ++ older := by
  obtain ⟨newer, older, was, now⟩ := h.pending
  refine ⟨newer.map PayloadItem.message, older.map PayloadItem.message, ?_, ?_⟩
  · unfold RelayContext.pendingMessages
    rw [was, List.map_append, List.map_cons]
  · unfold RelayContext.pendingMessages
    rw [now, List.map_append]

theorem count_freeItem (ctx : RelayContext) (item : PayloadItem) (address : Nat) :
    (freeItem ctx item).addresses.count address =
      ctx.addresses.count address + [item.address].count address := by
  simp only [freeItem, addresses, List.count_append, List.count_cons, List.count_nil]
  omega

theorem count_drainTake {ctx took : RelayContext} {item : PayloadItem}
    (h : drainTake ctx = some (item, took)) (address : Nat) :
    [item.address].count address + took.addresses.count address = ctx.addresses.count address := by
  obtain ⟨rest, _, queue, rfl⟩ := drainTake_some h
  simp only [addresses, queue, Option.getD_some, List.map_cons, List.count_append,
    List.count_cons, List.count_nil]
  omega

theorem count_drainSettle (ctx : RelayContext) (item : PayloadItem) (msgId : Int) (address : Nat) :
    (drainSettle ctx item msgId).addresses.count address =
      ctx.addresses.count address + [item.address].count address := by
  unfold drainSettle
  split
  · exact count_freeItem { ctx with workerBusy := false } item address
  · simp only [trackPendingLocked, addresses, List.map_cons, List.count_append, List.count_cons,
      List.count_nil]
    omega

structure Observes (before after : RelayContext) (address : Nat) : Prop where
  online : Online after
  client : after.client = before.client
  pending : after.pending = before.pending
  acks : after.counters.publishedAck = before.counters.publishedAck
  freed : ∀ other ∈ before.freed, other ∈ after.freed
  count : ∀ other, after.addresses.count other =
    before.addresses.count other + [address].count other

theorem observes_freed {before ctx : RelayContext} (online : Online before)
    (untouched : Untouched before ctx) (item : PayloadItem) :
    Observes before (freeItem ctx item) item.address where
  online :=
    have kept := untouched.online online
    ⟨kept.client, kept.queue, kept.accepting, kept.allowed, kept.connected⟩
  client := untouched.client
  pending := untouched.pending
  acks := untouched.acks
  freed := by
    intro other free
    rw [← untouched.freed] at free
    exact List.mem_cons_of_mem _ free
  count := by
    intro other
    rw [count_freeItem, untouched.addresses_eq]

theorem observeSend_observes {ctx : RelayContext} (online : Online ctx) (address : Nat)
    (seen : RelayObservation) : Observes ctx (observeSend ctx address seen) address := by
  unfold observeSend
  split
  · exact observes_freed online (by constructor <;> rfl) _
  · split
    · exact observes_freed online (by constructor <;> rfl) _
    · split
      · next items queue =>
        split
        · constructor
          · exact ⟨online.client, rfl, online.accepting, online.allowed, online.connected⟩
          · rfl
          · rfl
          · rfl
          · exact fun _ free => free
          · intro other
            simp only [addresses, queue, Option.getD_some, List.map_append, List.map_cons,
              List.map_nil, List.count_append]
            omega
        · exact observes_freed online (by constructor <;> rfl) _
      · next none =>
        exact absurd online.queue (by simp [none])

theorem mem_addresses_of_pending {ctx : RelayContext} {message : Int × Nat}
    (h : message ∈ ctx.pendingMessages) : message.2 ∈ ctx.addresses := by
  obtain ⟨item, member, rfl⟩ := List.mem_map.mp h
  unfold addresses
  simp only [List.mem_append]
  exact .inl (.inr (List.mem_map_of_mem member))

theorem mem_addresses_of_freed {ctx : RelayContext} {address : Nat} (h : address ∈ ctx.freed) :
    address ∈ ctx.addresses := by
  unfold addresses
  simp only [List.mem_append]
  exact .inr h

end RelayContext

def RelayWorker.message : RelayWorker → Option (Int × Nat)
  | .called item msgId | .handed item msgId =>
    if 0 < msgId then some (msgId, item.address) else none
  | _ => none

def RelayWorker.holds (worker : RelayWorker) (address : Nat) : Bool :=
  (worker.hand.map PayloadItem.address).contains address

namespace RelayWorker
open RelayContext

theorem message_in_hand {worker : RelayWorker} {message : Int × Nat}
    (h : worker.message = some message) : worker.hand.map PayloadItem.address = [message.2] := by
  cases worker with
  | called item msgId | handed item msgId =>
    simp only [RelayWorker.message] at h
    split at h
    · cases h
      rfl
    · cases h
  | waiting | deleted | retaining | retainedCall | retained | draining | taken _ | calling _ =>
    simp [RelayWorker.message] at h

/-- Only the client's call gives the item in hand its message, and putting the item away
    takes it from there. -/
theorem message_step (ctx : RelayContext) (worker : RelayWorker) (move : RetainedMove) (answer : Int)
    (notCalling : ∀ item, worker ≠ .calling item)
    (notSettling : ∀ item msgId, worker ≠ .handed item msgId) :
    (worker.step ctx move answer).2.message = worker.message := by
  cases worker with
  | waiting =>
    simp only [RelayWorker.step]
    split
    · rfl
    · split <;> rfl
  | retaining =>
    cases move with
    | publish =>
      simp only [RelayWorker.step]
      split <;> rfl
    | discoveryDone | cleanup => rfl
  | draining | taken _ =>
    simp only [RelayWorker.step]
    split <;> rfl
  | calling item => exact absurd rfl (notCalling item)
  | handed item msgId => exact absurd rfl (notSettling item msgId)
  | deleted | retainedCall | retained | called _ _ => rfl

end RelayWorker

namespace RelayHandler
open RelayContext

theorem eventIsCurrent_online {ctx : RelayContext} (online : Online ctx) {event : MqttEvent}
    (client : ctx.client = some event.client) {msgId : Int}
    (published : event.eventId = .published msgId) :
    RelayHandler.eventIsCurrent ctx event = true := by
  unfold RelayHandler.eventIsCurrent
  rw [published, client, online.accepting, online.allowed]
  simp

end RelayHandler
