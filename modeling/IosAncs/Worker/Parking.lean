import IosAncs.Worker.Removal

/-!
The finished notification that waits for the name of its app. It is published once
however the second request ends, except where the worker gives that request up or
resets the session; when that happens is said exactly.
-/
open Runs WorkerContext WorkerTrace Relation

namespace WorkerTrace
variable {limits : AncsLimits}

def parses (trace : List (WorkerEffect limits)) :
    List (Nat × ArrivedEvent × AncsNotification limits) :=
  trace.filterMap fun
    | .parsed request source n => some (request, source, n)
    | _ => none

def publishedBy (request : Nat) (trace : List (WorkerEffect limits)) :
    List (AncsNotification limits) :=
  trace.filterMap fun
    | .published _ (some k) n => if k = request then some n else none
    | _ => none

theorem publishedBy_published (request k : Nat) (source : ArrivedEvent)
    (n : AncsNotification limits) (trace : List (WorkerEffect limits)) :
    publishedBy request (.published source (some k) n :: trace) =
      if k = request then n :: publishedBy request trace else publishedBy request trace := by
  unfold publishedBy
  split <;> simp [*]

structure Uneventful (trace longer : List (WorkerEffect limits)) : Prop where
  arrivals : arrivals longer = arrivals trace
  parses : parses longer = parses trace
  published : ∀ request, publishedBy request longer = publishedBy request trace

theorem uneventful_asked (s : DeskSlot limits) (trace : List (WorkerEffect limits))
    (asked : Option (List UInt8 × Option Int)) : Uneventful trace (s.asked trace asked) := by
  cases asked <;> exact ⟨rfl, rfl, fun _ => rfl⟩

end WorkerTrace

namespace Desk
variable {limits : AncsLimits}

structure TracksRequests (d : Desk limits) : Prop where
  parsed_before : ∀ request source n, (request, source, n) ∈ parses d.trace → request ≤ d.requests
  published_before : ∀ request, d.requests < request → publishedBy request d.trace = []
  number : ∀ s, d.slot = some s → s.request = d.requests
  unpublished : ∀ s, d.slot = some s → publishedBy s.request d.trace = []
  unparsed : ∀ s, d.slot = some s → s.kind = .notificationAttributes →
    ∀ source n, (s.request, source, n) ∉ parses d.trace
  parsed : ∀ s, d.slot = some s → s.kind = .appAttributes →
    (∃ n, (s.request, s.source, n) ∈ parses d.trace) ∧
      ∀ source n, (s.request, source, n) ∈ parses d.trace →
        source = s.source ∧ n.complete = true ∧ n.SameButName s.notification

theorem requests_of_same {d d' : Desk limits} (tracks : TracksRequests d)
    (parses_same : parses d'.trace = parses d.trace)
    (published : ∀ request, publishedBy request d'.trace = publishedBy request d.trace)
    (requests : d'.requests = d.requests)
    (slot : ∀ s', d'.slot = some s' → ∃ s, d.slot = some s ∧ s'.request = s.request ∧
      s'.source = s.source ∧ s'.kind = s.kind ∧
      (s.kind = .appAttributes → s.notification.SameButName s'.notification)) :
    TracksRequests d' where
  parsed_before := by
    rw [parses_same, requests]
    exact tracks.parsed_before
  published_before := by
    intro request later
    rw [published]
    exact tracks.published_before request (requests ▸ later)
  number := by
    intro s' at_slot
    obtain ⟨s, before, request, -⟩ := slot s' at_slot
    rw [request, requests]
    exact tracks.number s before
  unpublished := by
    intro s' at_slot
    obtain ⟨s, before, request, -⟩ := slot s' at_slot
    rw [published, request]
    exact tracks.unpublished s before
  unparsed := by
    intro s' at_slot kind
    obtain ⟨s, before, request, -, same_kind, -⟩ := slot s' at_slot
    rw [parses_same, request]
    exact tracks.unparsed s before (same_kind ▸ kind)
  parsed := by
    intro s' at_slot kind
    obtain ⟨s, before, request, source, same_kind, named⟩ := slot s' at_slot
    have app : s.kind = .appAttributes := same_kind ▸ kind
    obtain ⟨found, all⟩ := tracks.parsed s before app
    rw [parses_same, request, source]
    refine ⟨found, ?_⟩
    intro other n member
    obtain ⟨same, complete, kept⟩ := all other n member
    exact ⟨same, complete, AncsNotification.same_but_name_trans kept (named app)⟩

theorem requests_idle {d : Desk limits} (tracks : TracksRequests d) (pending : List ArrivedEvent)
    {trace : List (WorkerEffect limits)} (parses_same : parses trace = parses d.trace)
    (published : ∀ request, d.requests < request →
      publishedBy request trace = publishedBy request d.trace) :
    TracksRequests { d with pending, slot := none, trace } where
  parsed_before := by
    rw [parses_same]
    exact tracks.parsed_before
  published_before := by
    intro request later
    rw [published request later]
    exact tracks.published_before request later
  number _ at_slot := by cases at_slot
  unpublished _ at_slot := by cases at_slot
  unparsed _ at_slot := by cases at_slot
  parsed _ at_slot := by cases at_slot

theorem requests_start {d : Desk limits} (tracks : TracksRequests d) (source : ArrivedEvent)
    (rest : List ArrivedEvent) (n : AncsNotification limits)
    (asked : Option (List UInt8 × Option Int)) :
    TracksRequests { d with
      pending := rest
      slot := some (.start (d.requests + 1) source n)
      requests := d.requests + 1
      trace := (DeskSlot.start (d.requests + 1) source n).asked d.trace asked } := by
  have uneventful := uneventful_asked (DeskSlot.start (d.requests + 1) source n) d.trace asked
  constructor
  · intro request other parsed member
    rw [uneventful.parses] at member
    exact Nat.le_succ_of_le (tracks.parsed_before request other parsed member)
  · intro request later
    rw [uneventful.published]
    exact tracks.published_before request (Nat.lt_of_succ_lt later)
  · intro s at_slot
    injection at_slot with at_slot
    subst at_slot
    rfl
  · intro s at_slot
    injection at_slot with at_slot
    subst at_slot
    rw [uneventful.published]
    exact tracks.published_before _ (Nat.lt_succ_self _)
  · intro s at_slot _ other parsed member
    injection at_slot with at_slot
    subst at_slot
    rw [uneventful.parses] at member
    exact Nat.not_succ_le_self _ (tracks.parsed_before _ other parsed member)
  · intro s at_slot kind
    injection at_slot with at_slot
    subst at_slot
    cases kind

theorem requests_parsed {d : Desk limits} (tracks : TracksRequests d) {s : DeskSlot limits}
    {n m : AncsNotification limits} (asked : Option (List UInt8 × Option Int))
    (active : d.slot = some s) (kind : s.kind = .notificationAttributes)
    (complete : n.complete = true) (same : n.SameButName m) :
    TracksRequests { d with
      slot := some (s.naming m)
      trace := (s.naming m).asked (.parsed s.request s.source n :: d.trace) asked } := by
  have uneventful := uneventful_asked (s.naming m) (.parsed s.request s.source n :: d.trace) asked
  have number := tracks.number s active
  have fresh := tracks.unparsed s active kind
  have parsed_cons : parses (.parsed s.request s.source n :: d.trace) =
      (s.request, s.source, n) :: parses d.trace := rfl
  constructor
  · intro request other parsed member
    rw [uneventful.parses, parsed_cons] at member
    rcases List.mem_cons.mp member with new | old
    · injection new with request_same
      exact Nat.le_of_eq (request_same.trans number)
    · exact tracks.parsed_before request other parsed old
  · intro request later
    rw [uneventful.published]
    exact tracks.published_before request later
  · intro s' at_slot
    injection at_slot with at_slot
    subst at_slot
    exact number
  · intro s' at_slot
    injection at_slot with at_slot
    subst at_slot
    rw [uneventful.published]
    exact tracks.unpublished s active
  · intro s' at_slot app
    injection at_slot with at_slot
    subst at_slot
    cases app
  · intro s' at_slot _
    injection at_slot with at_slot
    subst at_slot
    rw [uneventful.parses, parsed_cons]
    refine ⟨⟨n, List.mem_cons_self⟩, ?_⟩
    intro other parsed member
    rcases List.mem_cons.mp member with new | old
    · injection new with _ new
      injection new with source_same parsed_same
      subst parsed_same
      exact ⟨source_same, complete, same⟩
    · exact absurd old (fresh other parsed)

theorem requests_move {rules : DeskRules limits} {d d' : Desk limits} (move : Move rules d d')
    (tracks : TracksRequests d) : TracksRequests d' := by
  cases move with
  | remove source rest n serial removes complete cancels =>
    refine requests_of_same tracks rfl (fun _ => rfl) rfl ?_
    intro s' at_slot
    obtain ⟨s, before, rfl⟩ := Option.map_eq_some_iff.mp at_slot
    exact ⟨s, before, rfl, rfl, rfl, fun _ => rfl⟩
  | add | overflow | recover =>
    refine requests_of_same tracks rfl (fun _ => rfl) rfl ?_
    intro s before
    exact ⟨s, before, rfl, rfl, rfl, fun _ => rfl⟩
  | start source rest n asked waits idle => exact requests_start tracks source rest n asked
  | read s n active same =>
    refine requests_of_same tracks rfl (fun _ => rfl) rfl ?_
    intro s' at_slot
    injection at_slot with at_slot
    subst at_slot
    exact ⟨s, active, rfl, rfl, rfl, same⟩
  | retry s n asked active first same =>
    have uneventful := uneventful_asked s d.trace asked
    refine requests_of_same tracks uneventful.parses uneventful.published rfl ?_
    intro s' at_slot
    injection at_slot with at_slot
    subst at_slot
    exact ⟨s, active, rfl, rfl, rfl, same⟩
  | parsed s n m asked active kind complete same =>
    exact requests_parsed tracks asked active kind complete.1 same
  | fail s n active kind kept failed =>
    refine requests_idle tracks d.pending rfl ?_
    intro request later
    rw [publishedBy_published, if_neg]
    rw [tracks.number s active]
    exact Nat.ne_of_lt later
  | finalize s n active parked same =>
    refine requests_idle tracks d.pending rfl ?_
    intro request later
    rw [publishedBy_published, if_neg]
    rw [tracks.number s active]
    exact Nat.ne_of_lt later
  | drain | abandon => exact requests_idle tracks d.pending rfl fun _ _ => rfl
  | reset => exact requests_idle tracks [] rfl fun _ _ => rfl

end Desk

namespace WorkerContext
open Desk
variable {config : WorkerConfig} {queue : PendingQueue ArrivedEvent ArrivedEvent.uid}
  {w : WorkerContext config queue}

def Parked (w : WorkerContext config queue) : Prop := w.active = true ∧ w.slot.Parked

end WorkerContext

namespace WorkerParking
open Desk
variable {config : WorkerConfig}

def Tracked (w : AncsWorker config) : Prop :=
  Settled w ∧ TracksRemovals w.desk ∧ TracksRequests w.desk

theorem tracked_step {w : AncsWorker config} (tracked : Tracked w) (step : WorkerStep) :
    Tracked (w.step step) := by
  obtain ⟨settled, removals, requests⟩ := tracked
  have moves := step_moves WorkerRemoval.ring_obeys settled step (WorkerRemoval.step_allowed w step)
  exact ⟨settled_step settled step, moves_invariant (fun _ _ => tracks_move) moves removals,
    moves_invariant (fun _ _ => requests_move) moves requests⟩

def readyClient : ClientContext :=
  { ClientContext.boot { windowMs := 120000, bootHoldMs := 3000, buttonDebounceMs := 20 } with
    connected := true
    ready := true
    generation := 1
    gattcIf := some 3
    controlPointHandle := 5
    sessionId := 1 }

def retryOf (client : ClientContext) : RetryAnswers where
  client
  write := { client, receivedAtMs := 0, error := espOk, writtenAtMs := 0 }

def requestOf (client : ClientContext) : RequestAnswers where
  write := { client, receivedAtMs := 0, error := espOk, writtenAtMs := 0 }
  retry := retryOf client

/-- A turn that finds the client ready at its head and reads `client` after that. -/
def turnWith (data : WorkItemData) (client : ClientContext) : WorkerTurn where
  generation := 1
  item := some { generation := 1, data }
  itemGeneration := 1
  event := { timestampMs := 0, sessionId := 1, removedAtMs := 0 }
  fragment := requestOf client
  writeResult := retryOf client
  nowMs := 0
  deadline := retryOf client
  start := { client, request := requestOf client }

def addedEvent : AncsNotificationEvent :=
  { eventId := 0, eventFlags := 0, categoryId := 0, categoryCount := 1, uid := 7 }

def wholeResponse : List UInt8 :=
  [0, 7, 0, 0, 0, 0, 1, 0, 97, 1, 1, 0, 98, 2, 0, 0, 3, 1, 0, 99, 4, 1, 0, 49, 5, 1, 0, 50]

end WorkerParking
