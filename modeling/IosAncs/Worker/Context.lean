import IosAncs.Client.Context
import IosAncs.Protocol.AppResolver
import IosAncs.Protocol.PendingQueue

/-!
The worker task of the client, function by function. It owns its context; what it
reads of the shared one, of the clock and of the stack comes in as answers, one
for each read, so that anything may happen between two of them. The trace and the
numbers beside it record what was done and are read by nothing.
The source is `ancs_client.c`.
-/
open AncsProtocol

/-- The Kconfig values that the worker reads, within their ranges. -/
structure WorkerConfig where
  limits : AncsLimits
  appCache : AppCacheCapacity
  requestQueueCapacity : Nat
  cacheCapacity : Nat
  requestTimeoutMs : Int
  duplicateWindowMs : Int
  requestQueueCapacity_range : 2 ≤ requestQueueCapacity ∧ requestQueueCapacity ≤ 64
  cacheCapacity_range : 1 ≤ cacheCapacity ∧ cacheCapacity ≤ 8
  requestTimeoutMs_range : 1000 ≤ requestTimeoutMs ∧ requestTimeoutMs ≤ 30000
  duplicateWindowMs_range : 100 ≤ duplicateWindowMs ∧ duplicateWindowMs ≤ 5000

instance (config : WorkerConfig) : NeZero config.requestQueueCapacity :=
  ⟨by have := config.requestQueueCapacity_range; omega⟩

def WorkerConfig.default : WorkerConfig where
  limits := AncsLimits.default
  appCache := { entries := 16, range := by decide }
  requestQueueCapacity := 16
  cacheCapacity := 4
  requestTimeoutMs := 3000
  duplicateWindowMs := 500
  requestQueueCapacity_range := by decide
  cacheCapacity_range := by decide
  requestTimeoutMs_range := by decide
  duplicateWindowMs_range := by decide

/-- An event with the number under which the worker processed it. -/
structure ArrivedEvent where
  serial : Nat
  event : AncsNotificationEvent
deriving DecidableEq, Repr, Inhabited

def ArrivedEvent.uid (source : ArrivedEvent) : UInt32 := source.event.uid

def ArrivedEvent.Removes (source : ArrivedEvent) : Prop := source.event.eventId = 2

instance (source : ArrivedEvent) : Decidable source.Removes :=
  inferInstanceAs (Decidable (_ = _))

inductive ActiveRequestKind where
  | notificationAttributes
  | appAttributes
deriving DecidableEq, Repr

/-- What the worker did. A request is numbered when its event leaves the queue. -/
inductive WorkerEffect (limits : AncsLimits) where
  /-- an event was processed and not suppressed as a duplicate -/
  | processed (source : ArrivedEvent)
  /-- the stack was asked to write; the deadline is that of a write it took -/
  | requested (request : Nat) (source : ArrivedEvent) (kind : ActiveRequestKind)
      (bytes : List UInt8) (deadlineMs : Option Int)
  /-- the attributes of a notification were parsed to their end -/
  | parsed (request : Nat) (source : ArrivedEvent) (notification : AncsNotification limits)
  /-- the sink was given a notification, by a request or by the event itself -/
  | published (source : ArrivedEvent) (request : Option Nat) (notification : AncsNotification limits)
  | recovered
  | sessionReset (generation : UInt32)

/-- `cache_entry_t` -/
structure CacheEntry (limits : AncsLimits) where
  used : Bool
  age : UInt32
  notification : AncsNotification limits

/-- `worker_context_t` -/
structure WorkerContext (config : WorkerConfig) (queue : PendingQueue ArrivedEvent ArrivedEvent.uid)
    where
  generation : UInt32
  pending : queue.Queue
  active : Bool
  activeCanceled : Bool
  activeRequestKind : ActiveRequestKind
  attempt : Nat
  deadlineMs : Int
  activeEvent : ArrivedEvent
  activeNotification : AncsNotification config.limits
  parser : AncsDataParser
  appParser : AncsAppDataParser
  appResolver : AncsAppResolver config.limits config.appCache
  lastEventValid : Bool
  lastEvent : AncsNotificationEvent
  lastEventMs : Int
  cacheAge : UInt32
  cache : Vector (CacheEntry config.limits) config.cacheCapacity
  /-- how many events were processed, and how many requests started -/
  processed : Nat
  requests : Nat
  /-- newest first -/
  trace : List (WorkerEffect config.limits)

def requestRing (config : WorkerConfig) : PendingQueue ArrivedEvent ArrivedEvent.uid :=
  PendingQueue.ring ArrivedEvent.uid default config.requestQueueCapacity

abbrev AncsWorker (config : WorkerConfig) := WorkerContext config (requestRing config)

/-- What `process_notification_event` reads: the clock, the session of the shared
    context, and the clock again for a removal. -/
structure EventAnswers where
  timestampMs : Int
  sessionId : UInt32
  removedAtMs : Int

/-- What `write_active_control_request` reads: the shared context in its section, the
    clock, the answer of `esp_ble_gattc_write_char` and the clock after it. -/
structure WriteAnswers where
  client : ClientContext
  receivedAtMs : Int
  error : Int
  writtenAtMs : Int

/-- What `retry_or_finish_active` reads: the shared context in `client_ready`, and what
    a write reads. -/
structure RetryAnswers where
  client : ClientContext
  write : WriteAnswers

structure RequestAnswers where
  write : WriteAnswers
  retry : RetryAnswers

structure StartAnswers where
  client : ClientContext
  request : RequestAnswers

def espErrInvalidSize : Int := 0x104
def espGattOk : Int := 0

namespace WorkerContext
variable {config : WorkerConfig} {queue : PendingQueue ArrivedEvent ArrivedEvent.uid}

def emptyCache : Vector (CacheEntry config.limits) config.cacheCapacity :=
  Vector.replicate _ { used := false, age := 0, notification := AncsNotification.zero }

/-- The context as `worker_task` enters its loop. -/
def boot (generation : UInt32) : WorkerContext config queue where
  generation
  pending := queue.init
  active := false
  activeCanceled := false
  activeRequestKind := .notificationAttributes
  attempt := 0
  deadlineMs := 0
  activeEvent := default
  activeNotification := AncsNotification.zero
  parser := dataParserZero
  appParser := appDataParserZero
  appResolver := AncsAppResolver.init
  lastEventValid := false
  lastEvent := default
  lastEventMs := 0
  cacheAge := 0
  cache := emptyCache
  processed := 0
  requests := 0
  trace := []

def note (w : WorkerContext config queue) (effect : WorkerEffect config.limits) :
    WorkerContext config queue :=
  { w with trace := effect :: w.trace }

def resetWorkerSession (w : WorkerContext config queue) (generation : UInt32) :
    WorkerContext config queue :=
  { w with
    generation
    pending := queue.clear w.pending
    active := false
    activeCanceled := false
    lastEventValid := false
    activeNotification := AncsNotification.zero
    parser := dataParserZero
    appParser := appDataParserZero
    appResolver := AncsAppResolver.init
    cacheAge := 0
    cache := emptyCache
    trace := .sessionReset generation :: w.trace }

/-- What `cache_find` looks for. -/
def caches {limits : AncsLimits} (sessionId uid : UInt32) (entry : CacheEntry limits) : Bool :=
  entry.used && entry.notification.sessionId == sessionId && entry.notification.uid == uid

def cacheFind (w : WorkerContext config queue) (sessionId uid : UInt32) :
    Option (Fin config.cacheCapacity) :=
  AgedTable.find w.cache (caches sessionId uid)

def cacheStore (w : WorkerContext config queue) (notification : AncsNotification config.limits) :
    WorkerContext config queue :=
  let index := AgedTable.replacement CacheEntry.used CacheEntry.age
    (caches notification.sessionId notification.uid) w.cache ⟨0, config.cacheCapacity_range.1⟩
  let age := w.cacheAge + 1
  { w with cacheAge := age, cache := w.cache.set index { used := true, age, notification } index.isLt }

def publishRemoved (w : WorkerContext config queue) (source : ArrivedEvent) (a : EventAnswers) :
    WorkerContext config queue :=
  match w.cacheFind a.sessionId source.event.uid with
  | some index =>
    let cached := w.cache[index]
    let removed := { cached.notification with
      eventId := source.event.eventId
      eventFlags := source.event.eventFlags
      categoryId := source.event.categoryId
      categoryCount := source.event.categoryCount
      receivedAtMs := a.removedAtMs
      complete := true
      errorCode := ok }
    { w with cache := w.cache.set index { cached with used := false } index.isLt }.note
      (.published source none removed)
  | none =>
    w.note (.published source none
      { AncsNotification.init a.sessionId source.event a.removedAtMs with complete := true })

def failActiveRequest (w : WorkerContext config queue) (errorCode : Int) :
    WorkerContext config queue :=
  let failed := { w.activeNotification with complete := false, errorCode }
  { w with
    activeNotification := failed
    active := false
    activeCanceled := false
    trace := .published w.activeEvent (some w.requests) failed :: w.trace }

def finalizeActiveNotification (w : WorkerContext config queue) : WorkerContext config queue :=
  let published := w.note (.published w.activeEvent (some w.requests) w.activeNotification)
  { published.cacheStore w.activeNotification with active := false, activeCanceled := false }

def abandonActiveRequest (w : WorkerContext config queue) : WorkerContext config queue :=
  { w with active := false, activeCanceled := false }

def finishCanceledRequest (w : WorkerContext config queue) : WorkerContext config queue :=
  { w with active := false, activeCanceled := false }

/-- `recover_data_stream`: to the worker it is only done. -/
def recoverDataStream (w : WorkerContext config queue) : WorkerContext config queue :=
  w.note .recovered

def connectionValid (w : WorkerContext config queue) (client : ClientContext) : Bool :=
  client.ready && client.connected && client.generation == w.generation &&
    client.gattcIf.isSome && client.controlPointHandle != invalidHandle

def controlRequest (w : WorkerContext config queue) : Except Int (List UInt8) :=
  match w.activeRequestKind with
  | .notificationAttributes => buildGetNotificationAttributes config.limits w.activeEvent.event.uid
      (controlRequestMax config.limits)
  | .appAttributes => buildGetAppAttributes w.activeNotification.appId
      (controlRequestMax config.limits)

def initParser (w : WorkerContext config queue) (a : WriteAnswers) : WorkerContext config queue :=
  match w.activeRequestKind with
  | .notificationAttributes =>
    let started := DataParsing.init
      (AncsNotification.init a.client.sessionId w.activeEvent.event a.receivedAtMs)
      w.activeEvent.event.uid attrMaskRequired
    { w with parser := started.parser, activeNotification := started.notification }
  | .appAttributes =>
    let started := AppDataParsing.init w.activeNotification
    { w with appParser := started.parser, activeNotification := started.notification }

/-- The write itself and the deadline it sets. -/
def writeRequest (w : WorkerContext config queue) (bytes : List UInt8) (a : WriteAnswers) :
    WorkerContext config queue :=
  let deadlineMs := a.writtenAtMs + config.requestTimeoutMs
  let requested := fun deadline =>
    WorkerEffect.requested w.requests w.activeEvent w.activeRequestKind bytes deadline
  if a.error = espOk then { w with deadlineMs, trace := requested (some deadlineMs) :: w.trace }
  else w.note (requested none)

def writeActiveControlRequest (w : WorkerContext config queue) (a : WriteAnswers) :
    WorkerContext config queue × Int :=
  match w.controlRequest with
  | .error _ => (w, espErrInvalidSize)
  | .ok bytes =>
    if !w.connectionValid a.client then (w, espErrInvalidState)
    else ((w.initParser a).writeRequest bytes a, a.error)

/-- The end of `retry_or_finish_active`, when there is no retry left. -/
def finishFailedActive (w : WorkerContext config queue) (errorCode : Int) (recoverStream : Bool) :
    WorkerContext config queue :=
  if w.activeRequestKind = .appAttributes then
    let appName := (AncsAppResolver.fail w.activeNotification.appName).1
    let unnamed := { w with activeNotification := { w.activeNotification with appName } }
    let finished := if unnamed.activeCanceled then unnamed.finishCanceledRequest
      else unnamed.finalizeActiveNotification
    if recoverStream then finished.recoverDataStream else finished
  else (w.failActiveRequest errorCode).recoverDataStream

def retryOrFinishActive (w : WorkerContext config queue) (errorCode : Int) (recoverStream : Bool)
    (a : RetryAnswers) : WorkerContext config queue :=
  if !w.active then w
  else if !a.client.ready then w.abandonActiveRequest
  else if w.attempt < 1 then
    let (asked, error) :=
      ({ w with attempt := w.attempt + 1 } : WorkerContext config queue).writeActiveControlRequest
        a.write
    if error = espOk then asked
    else if error = espErrInvalidState then asked.abandonActiveRequest
    else asked.finishFailedActive errorCode recoverStream
  else w.finishFailedActive errorCode recoverStream

/-- The first write of a phase, as `begin_app_name_resolution` and `start_next_request`
    end with it. -/
def firstRequest (w : WorkerContext config queue) (a : RequestAnswers) :
    WorkerContext config queue :=
  let (asked, error) := w.writeActiveControlRequest a.write
  if error = espErrInvalidState then asked.abandonActiveRequest
  else if error ≠ espOk then asked.retryOrFinishActive errSequence false a.retry
  else asked

def beginAppNameResolution (w : WorkerContext config queue) (a : RequestAnswers) :
    WorkerContext config queue :=
  let (appResolver, appName, resolution) :=
    w.appResolver.begin w.activeNotification.appId w.activeNotification.appName
  let resolved := { w with
    appResolver
    activeNotification := { w.activeNotification with appName } }
  if resolution ≠ .requestNative then resolved.finalizeActiveNotification
  else
    { resolved with activeRequestKind := .appAttributes, attempt := 0 }.firstRequest a

def completeAppNameResolution (w : WorkerContext config queue) : WorkerContext config queue :=
  if w.activeNotification.appNameTruncated then w.finalizeActiveNotification
  else
    let (appResolver, appName, _) := w.appResolver.complete w.activeNotification.appId
      w.activeNotification.appName w.activeNotification.appName
    { w with
      appResolver
      activeNotification := { w.activeNotification with appName } }.finalizeActiveNotification

def startNextRequest (w : WorkerContext config queue) (a : StartAnswers) :
    WorkerContext config queue :=
  if w.active || !a.client.ready then w
  else
    let (pending, popped) := queue.pop w.pending
    match popped with
    | none => { w with pending }
    | some activeEvent =>
      { w with
        pending
        activeEvent
        active := true
        activeCanceled := false
        activeRequestKind := .notificationAttributes
        attempt := 0
        requests := w.requests + 1 }.firstRequest a.request

def duplicateEvent (w : WorkerContext config queue) (event : AncsNotificationEvent)
    (timestampMs : Int) : WorkerContext config queue × Bool :=
  let duplicate := w.lastEventValid && w.lastEvent.eventId == event.eventId &&
    w.lastEvent.uid == event.uid && w.lastEvent.eventFlags == event.eventFlags &&
    w.lastEvent.categoryCount == event.categoryCount &&
    decide (timestampMs - w.lastEventMs ≤ config.duplicateWindowMs)
  ({ w with lastEvent := event, lastEventMs := timestampMs, lastEventValid := true }, duplicate)

/-- A removal: it cancels what is pending and active of its uid, and is published. -/
def processRemoved (w : WorkerContext config queue) (source : ArrivedEvent) (a : EventAnswers) :
    WorkerContext config queue :=
  let canceled := { w with
    pending := (queue.cancelUid w.pending source.uid).1
    activeCanceled := w.activeCanceled || w.active && w.activeEvent.uid == source.uid }
  canceled.publishRemoved source a

/-- An added or modified event: it waits for its turn, or fails where there is no room. -/
def processAdded (w : WorkerContext config queue) (source : ArrivedEvent) (a : EventAnswers) :
    WorkerContext config queue :=
  let (pending, pushed) := queue.push w.pending source
  let waiting := { w with pending }
  if pushed then waiting
  else
    waiting.note (.published source none
      { AncsNotification.init a.sessionId source.event a.timestampMs with errorCode := errOverflow })

def processNotificationEvent (w : WorkerContext config queue) (event : AncsNotificationEvent)
    (a : EventAnswers) : WorkerContext config queue :=
  let (seen, duplicate) := w.duplicateEvent event a.timestampMs
  if duplicate then seen
  else
    let source := { serial := seen.processed, event }
    let processed := { seen with processed := seen.processed + 1, trace := .processed source :: seen.trace }
    if source.Removes then processed.processRemoved source a else processed.processAdded source a

def feedActive (w : WorkerContext config queue) (bytes : List UInt8) :
    WorkerContext config queue × AncsParserResult :=
  match w.activeRequestKind with
  | .notificationAttributes =>
    let (fed, result) := DataParsing.feed
      { parser := w.parser, notification := w.activeNotification } bytes
    let read := { w with parser := fed.parser, activeNotification := fed.notification }
    if result = .complete then
      (read.note (.parsed w.requests w.activeEvent fed.notification), result)
    else (read, result)
  | .appAttributes =>
    let (fed, result) := AppDataParsing.feed
      { parser := w.appParser, notification := w.activeNotification } bytes
    ({ w with appParser := fed.parser, activeNotification := fed.notification }, result)

def processDataFragment (w : WorkerContext config queue) (bytes : List UInt8) (a : RequestAnswers) :
    WorkerContext config queue :=
  if !w.active then w
  else
    let (fed, result) := w.feedActive bytes
    match result with
    | .more => fed
    | .complete =>
      if fed.activeCanceled then fed.finishCanceledRequest
      else if fed.activeRequestKind = .notificationAttributes then fed.beginAppNameResolution a
      else fed.completeAppNameResolution
    | .error =>
      if fed.activeCanceled then fed.finishCanceledRequest
      else
        let errorCode := if fed.activeRequestKind = .notificationAttributes then
            fed.parser.errorCode
          else fed.appParser.errorCode
        fed.retryOrFinishActive errorCode true a.retry

/-- `WORK_CONTROL_WRITE_RESULT` -/
def processWriteResult (w : WorkerContext config queue) (status : Int) (a : RetryAnswers) :
    WorkerContext config queue :=
  if status = espGattOk then w
  else if w.activeCanceled then w.finishCanceledRequest
  else w.retryOrFinishActive status false a

def checkDeadline (w : WorkerContext config queue) (nowMs : Int) (a : RetryAnswers) :
    WorkerContext config queue :=
  if w.active && decide (w.deadlineMs ≤ nowMs) then
    if w.activeCanceled then w.finishCanceledRequest.recoverDataStream
    else w.retryOrFinishActive errTimeout true a
  else w

def checkGeneration (w : WorkerContext config queue) (current : UInt32) :
    WorkerContext config queue :=
  if w.generation ≠ current then w.resetWorkerSession current else w

end WorkerContext

/-- The parts of one turn of the loop of `worker_task` that touch its context. -/
inductive WorkerStep where
  | checkGeneration (current : UInt32)
  | event (event : AncsNotificationEvent) (a : EventAnswers)
  | fragment (bytes : List UInt8) (a : RequestAnswers)
  | writeResult (status : Int) (a : RetryAnswers)
  | sessionReset (generation : UInt32)
  | checkDeadline (nowMs : Int) (a : RetryAnswers)
  | startNext (a : StartAnswers)

def WorkerContext.step {config : WorkerConfig} {queue : PendingQueue ArrivedEvent ArrivedEvent.uid}
    (w : WorkerContext config queue) : WorkerStep → WorkerContext config queue
  | .checkGeneration current => w.checkGeneration current
  | .event event a => w.processNotificationEvent event a
  | .fragment bytes a => w.processDataFragment bytes a
  | .writeResult status a => w.processWriteResult status a
  | .sessionReset generation => w.resetWorkerSession generation
  | .checkDeadline nowMs a => w.checkDeadline nowMs a
  | .startNext a => w.startNextRequest a

/-- One turn of the loop of `worker_task`: the generation it reads at its head, the item
    it receives, the generation it compares the item with, and all further answers. -/
structure WorkerTurn where
  generation : UInt32
  item : Option WorkItem
  itemGeneration : UInt32
  event : EventAnswers
  fragment : RequestAnswers
  writeResult : RetryAnswers
  nowMs : Int
  deadline : RetryAnswers
  start : StartAnswers

namespace WorkerTurn

def itemStep (turn : WorkerTurn) (item : WorkItem) : WorkerStep :=
  match item.data with
  | .event event => .event event turn.event
  | .fragment bytes => .fragment bytes turn.fragment
  | .writeResult status => .writeResult status turn.writeResult
  | .reset => .sessionReset item.generation

/-- An item of another generation is freed and the loop goes on at its head. -/
def steps (turn : WorkerTurn) : List WorkerStep :=
  let last := [.checkDeadline turn.nowMs turn.deadline, .startNext turn.start]
  .checkGeneration turn.generation ::
    match turn.item with
    | none => last
    | some item =>
      if item.generation ≠ turn.itemGeneration then [] else turn.itemStep item :: last

end WorkerTurn
