import IosAncs.Worker.Context

/-!
The cache of published notifications. A removal finds the details of its notification in it;
it is the list of the notifications stored last, in the order of their stores.
-/
open Runs RecencyList

inductive CacheCall (limits : AncsLimits) where
  | store (notification : AncsNotification limits)
  | removed (source : ArrivedEvent) (answers : EventAnswers)

structure NotificationList (limits : AncsLimits) where
  listed : List (AncsNotification limits)
  trace : List (WorkerEffect limits)

namespace NotificationList
variable {limits : AncsLimits}

def key (notification : AncsNotification limits) : UInt32 × UInt32 :=
  (notification.sessionId, notification.uid)

def removal (details : Option (AncsNotification limits)) (source : ArrivedEvent) (a : EventAnswers) :
    AncsNotification limits :=
  match details with
  | some details => { details with
      eventId := source.event.eventId
      eventFlags := source.event.eventFlags
      categoryId := source.event.categoryId
      categoryCount := source.event.categoryCount
      receivedAtMs := a.removedAtMs
      complete := true
      errorCode := AncsProtocol.ok }
  | none => { AncsNotification.init a.sessionId source.event a.removedAtMs with complete := true }

def step (capacity : Nat) (model : NotificationList limits) : CacheCall limits → NotificationList limits
  | .store notification => { model with listed := store key capacity model.listed notification }
  | .removed source a =>
    { listed := remove key model.listed (a.sessionId, source.event.uid)
      trace := .published source none
        (removal (lookup key model.listed (a.sessionId, source.event.uid)) source a) :: model.trace }

end NotificationList

namespace WorkerContext
variable {config : WorkerConfig} {queue : PendingQueue ArrivedEvent ArrivedEvent.uid}
open NotificationList

def cacheStep (w : WorkerContext config queue) : CacheCall config.limits → WorkerContext config queue
  | .store notification => w.cacheStore notification
  | .removed source a => w.publishRemoved source a

/-- The cache holds the list, oldest first, and the same was published. -/
structure CacheModels (w : WorkerContext config queue) (model : NotificationList config.limits) : Prop where
  lists : AgedTable.Lists CacheEntry.used CacheEntry.age CacheEntry.notification key w.cache w.cacheAge
    model.listed
  trace : w.trace = model.trace

theorem caches_iff (sessionId uid : UInt32) (entry : CacheEntry config.limits) :
    caches sessionId uid entry = true ↔ entry.used = true ∧ key entry.notification = (sessionId, uid) := by
  simp [caches, key, and_assoc]

theorem models_store {w : WorkerContext config queue} {model : NotificationList config.limits}
    (models : CacheModels w model) (notification : AncsNotification config.limits)
    (room : w.cacheAge.toNat + 1 < 2 ^ 32) :
    CacheModels (w.cacheStore notification)
      (model.step config.cacheCapacity (.store notification)) where
  lists := AgedTable.lists_store models.lists
    (caches_iff notification.sessionId notification.uid) _ rfl rfl rfl room
  trace := models.trace

theorem models_removed {w : WorkerContext config queue} {model : NotificationList config.limits}
    (models : CacheModels w model) (source : ArrivedEvent) (a : EventAnswers) :
    CacheModels (w.publishRemoved source a) (model.step config.cacheCapacity (.removed source a)) := by
  have same_iff (entry : CacheEntry config.limits) := caches_iff a.sessionId source.event.uid entry
  have found_iff := AgedTable.lists_find models.lists same_iff
  dsimp only [NotificationList.step]
  rw [← found_iff]
  unfold publishRemoved cacheFind
  split
  · next index found =>
    rw [found]
    exact ⟨AgedTable.lists_remove models.lists same_iff found rfl, by simp [note, removal, models.trace]⟩
  · next absent =>
    rw [absent, Option.map_none] at found_iff
    rw [absent, remove_absent (lookup_eq_none.mp found_iff.symm)]
    exact ⟨models.lists, by simp [note, removal, models.trace]⟩

theorem cacheAge_step (w : WorkerContext config queue) (call : CacheCall config.limits)
    (room : w.cacheAge.toNat + 1 < 2 ^ 32) : (w.cacheStep call).cacheAge.toNat ≤ w.cacheAge.toNat + 1 := by
  cases call with
  | store notification =>
    simp only [cacheStep, cacheStore, UInt32.toNat_add, UInt32.reduceToNat]
    omega
  | removed source a =>
    have kept : (w.publishRemoved source a).cacheAge = w.cacheAge := by
      unfold publishRemoved
      split <;> rfl
    simp only [cacheStep, kept]
    omega

theorem models_cacheRun {w : WorkerContext config queue} {model : NotificationList config.limits}
    (models : CacheModels w model) (calls : List (CacheCall config.limits))
    (few : w.cacheAge.toNat + calls.length < 2 ^ 32) :
    CacheModels (run cacheStep w calls) (run (NotificationList.step config.cacheCapacity) model calls) := by
  induction calls generalizing w model with
  | nil => exact models
  | cons call rest ih =>
    rw [List.length_cons] at few
    have grown := cacheAge_step w call (by omega)
    refine ih ?_ (by omega)
    cases call with
    | store notification => exact models_store models notification (by omega)
    | removed source a => exact models_removed models source a

/-- From the start of a session, over fewer than 2^32 stores and removals, the cache is the list:
    it holds the same notifications, the removals publish the same, the list is never longer than
    the cache, and no two used entries have one session and uid. -/
theorem cache_is_list (w : WorkerContext config queue) (generation : UInt32)
    (calls : List (CacheCall config.limits)) (few : calls.length < 2 ^ 32) :
    let started := w.resetWorkerSession generation
    let cached := run cacheStep started calls
    let model := run (NotificationList.step config.cacheCapacity) { listed := [], trace := started.trace } calls
    CacheModels cached model ∧ model.listed.length ≤ config.cacheCapacity ∧
      ∀ i j : Fin config.cacheCapacity, cached.cache[i].used = true → cached.cache[j].used = true →
        key cached.cache[i].notification = key cached.cache[j].notification → i = j := by
  intro started cached model
  have empty : CacheModels started { listed := [], trace := started.trace } :=
    { lists := AgedTable.lists_empty (by simp [started, resetWorkerSession, emptyCache]), trace := rfl }
  have models := models_cacheRun empty calls (by simpa [started, resetWorkerSession] using few)
  refine ⟨models, AgedTable.lists_length models.lists, ?_⟩
  exact fun i j used_i used_j same => AgedTable.lists_distinct models.lists used_i used_j same

theorem cache_is_list_removed :
    let started := (boot 1 : AncsWorker WorkerConfig.default).resetWorkerSession 2
    let calls := [.store AncsNotification.zero, .removed default { timestampMs := 0, sessionId := 0, removedAtMs := 5 }]
    let cached := run cacheStep started calls
    let model := run (NotificationList.step WorkerConfig.default.cacheCapacity)
      { listed := [], trace := started.trace } calls
    CacheModels cached model ∧ model.listed.length ≤ WorkerConfig.default.cacheCapacity ∧
      ∀ i j : Fin WorkerConfig.default.cacheCapacity, cached.cache[i].used = true →
        cached.cache[j].used = true → key cached.cache[i].notification = key cached.cache[j].notification →
          i = j :=
  cache_is_list _ 2 _ (by decide)

end WorkerContext
