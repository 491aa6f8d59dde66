import Mathlib.Data.List.Nodup
import IosAncs.Foundation.Runs
import IosAncs.Relay.Items

/-!
The worker's drain of the queue against the acknowledgements of the broker,
while the client stays connected. The run keeps the messages that the client
has not seen acknowledged, with the item each one was made from.
-/
open Runs RelayContext RelayWorker

/-- The relay's threads and the client they share. The client's messages that
    still wait for a PUBACK are in `outbox`, the one whose callback is under way is
    `arriving`, the items whose callback has returned are `acknowledged`. -/
structure DrainRun where
  ctx : RelayContext
  worker : RelayWorker
  handler : RelayHandler
  outbox : List (Int × Nat)
  arriving : Option (Int × Nat)
  acknowledged : List Nat
  allocated : Nat
deriving DecidableEq, Repr

inductive DrainAction where
  | observe (seen : RelayObservation)
  | worker (move : RetainedMove) (answer : Int)
  | puback (msgId : Int)
  | handler
deriving DecidableEq, Repr

namespace DrainRun

def outstanding (run : DrainRun) : List (Int × Nat) := run.arriving.toList ++ run.outbox

/-- The client numbers its messages in turn and does not give out a number again
    while the message that has it, or its callback, is under way. -/
def workerStep (run : DrainRun) (move : RetainedMove) (answer : Int) : DrainRun :=
  let (ctx, worker) := run.worker.step run.ctx move answer
  match run.worker with
  | .calling item =>
    if answer ∈ run.outstanding.map Prod.fst then run
    else { run with
      ctx
      worker
      outbox := if 0 < answer then (answer, item.address) :: run.outbox else run.outbox }
  | _ => { run with ctx, worker }

/-- A PUBACK for a message of the client: it calls the handler from its task. -/
def puback (run : DrainRun) (msgId : Int) : DrainRun :=
  match run.handler, run.ctx.client, run.outbox.find? fun message => message.1 = msgId with
  | .idle, some client, some message =>
    { run with
      handler := .entered { client, eventId := .published msgId }
      outbox := run.outbox.filter fun other => other.1 ≠ msgId
      arriving := some message }
  | _, _, _ => run

def handlerStep (run : DrainRun) : DrainRun :=
  let (ctx, handler) := run.handler.step run.ctx 0 0
  if handler = .idle then
    { run with
      ctx
      handler
      arriving := none
      acknowledged := run.arriving.toList.map Prod.snd ++ run.acknowledged }
  else { run with ctx, handler }

def step (run : DrainRun) : DrainAction → DrainRun
  | .observe seen =>
    { run with
      ctx := observeSend run.ctx run.allocated seen
      allocated := run.allocated + 1 }
  | .worker move answer => workerStep run move answer
  | .puback msgId => puback run msgId
  | .handler => handlerStep run

def start (ctx : RelayContext) (client : Nat) : DrainRun where
  ctx := { ctx with
    client := some client
    queue := some []
    workerTask := true
    workerRunning := true
    workerBusy := false
    acceptingObservers := true
    publishAllowed := true
    publishInFlight := 0
    wifiConnected := true
    mqttConnected := true
    mqttConnecting := false
    pending := []
    freed := [] }
  worker := .waiting
  handler := .idle
  outbox := []
  arriving := none
  acknowledged := []
  allocated := 0

/-- The acknowledged items that the worker is done with are counted once, freed
    once and not referred to any more. -/
structure AcksSettled (acksBefore : UInt32) (run : DrainRun) : Prop where
  once : run.acknowledged.Nodup
  freedOnce : ∀ address ∈ run.acknowledged, run.worker.holds address = false →
    run.ctx.freed.count address = 1 ∧ address ∉ run.ctx.pending.map PayloadItem.address
  counted : run.ctx.counters.publishedAck =
    acksBefore + UInt32.ofNat (run.acknowledged.countP fun address => !run.worker.holds address)

/-- The worker tracks an item before the callback of its PUBACK has returned. -/
def TracksInTime (run : DrainRun) : DrainAction → Prop
  | .worker _ _ =>
    match run.worker with
    | .handed item msgId => 0 < msgId → item.address ∉ run.acknowledged
    | _ => True
  | _ => True

structure DrainInvariant (acksBefore : UInt32) (run : DrainRun) : Prop where
  online : Online run.ctx
  /-- every allocated item is in one place -/
  placed : ∀ address, (run.worker.hand.map PayloadItem.address).count address +
    run.ctx.addresses.count address = if address < run.allocated then 1 else 0
  numbers : (run.outstanding.map Prod.fst).Nodup
  distinct : (run.outstanding.map Prod.snd).Nodup
  callback : match run.handler with
    | .idle => run.arriving = none
    | .entered event | .checked event => ∃ message, run.arriving = some message ∧
        run.ctx.client = some event.client ∧ event.eventId = .published message.1
    | _ => False
  tracked : ∀ message ∈ run.ctx.pendingMessages, message ∈ run.outstanding
  located : ∀ message ∈ run.outstanding,
    message ∈ run.ctx.pendingMessages ∨ run.worker.message = some message
  handedOver : ∀ message, run.worker.message = some message →
    message ∈ run.outstanding ∨ message.2 ∈ run.acknowledged
  once : run.acknowledged.Nodup
  answered : ∀ address ∈ run.acknowledged,
    address ∈ run.ctx.freed ∨ ∃ msgId, run.worker.message = some (msgId, address)
  apart : ∀ address ∈ run.acknowledged, address ∉ run.outstanding.map Prod.snd
  counted : run.ctx.counters.publishedAck =
    acksBefore + UInt32.ofNat (run.acknowledged.countP fun address => !run.worker.holds address)

theorem acks_settled {acksBefore : UInt32} {run : DrainRun} (inv : DrainInvariant acksBefore run) :
    AcksSettled acksBefore run := by
  constructor
  · exact inv.once
  · intro address acked notHeld
    have free : address ∈ run.ctx.freed := by
      rcases inv.answered address acked with free | ⟨msgId, held⟩
      · exact free
      · have inside : run.worker.holds address := by
          simp [RelayWorker.holds, message_in_hand held]
        simp [inside] at notHeld
    have place := inv.placed address
    have bound : (if address < run.allocated then 1 else 0) ≤ 1 := by split <;> omega
    have counted := List.one_le_count_iff.mpr free
    simp only [RelayContext.addresses, List.count_append] at place
    constructor
    · omega
    · apply List.count_eq_zero.mp
      omega
  · exact inv.counted

theorem invariant_untouched {acksBefore : UInt32} {run : DrainRun} {ctx : RelayContext}
    {worker : RelayWorker} (inv : DrainInvariant acksBefore run) (untouched : Untouched run.ctx ctx)
    (hand : worker.hand = run.worker.hand) (message : worker.message = run.worker.message) :
    DrainInvariant acksBefore { run with ctx, worker } where
  online := untouched.online inv.online
  placed := by
    rw [hand, untouched.addresses_eq]
    exact inv.placed
  numbers := inv.numbers
  distinct := inv.distinct
  callback := by
    have call := inv.callback
    rw [untouched.client]
    exact call
  tracked := by
    rw [untouched.pendingMessages_eq]
    exact inv.tracked
  located := by
    rw [untouched.pendingMessages_eq, message]
    exact inv.located
  handedOver := by
    rw [message]
    exact inv.handedOver
  once := inv.once
  answered := by
    rw [untouched.freed, message]
    exact inv.answered
  apart := inv.apart
  counted := by
    have same := inv.counted
    unfold RelayWorker.holds at same ⊢
    rw [untouched.acks, hand]
    exact same

theorem invariant_observe {acksBefore : UInt32} {run : DrainRun}
    (inv : DrainInvariant acksBefore run) (seen : RelayObservation) :
    DrainInvariant acksBefore (run.step (.observe seen)) := by
  have h := observeSend_observes inv.online run.allocated seen
  have messages : (observeSend run.ctx run.allocated seen).pendingMessages =
      run.ctx.pendingMessages := by
    unfold pendingMessages
    rw [h.pending]
  exact {
    online := h.online
    placed := by
      intro address
      have place := inv.placed address
      have added := h.count address
      simp only [step, List.count_cons, List.count_nil, beq_iff_eq] at added ⊢
      by_cases new : run.allocated = address
      · simp only [new, ↓reduceIte] at added place ⊢
        simp only [Nat.lt_irrefl, ↓reduceIte] at place
        simp only [Nat.lt_succ_self, ↓reduceIte]
        omega
      · have same : address < run.allocated + 1 ↔ address < run.allocated := by omega
        simp only [new, ↓reduceIte, same] at added ⊢
        omega
    numbers := inv.numbers
    distinct := inv.distinct
    callback := by
      have call := inv.callback
      simp only [step]
      rw [h.client]
      exact call
    tracked := by
      simp only [step]
      rw [messages]
      exact inv.tracked
    located := by
      simp only [step]
      rw [messages]
      exact inv.located
    handedOver := inv.handedOver
    once := inv.once
    answered := by
      intro address acked
      rcases inv.answered address acked with free | held
      · exact .inl (h.freed address free)
      · exact .inr held
    apart := inv.apart
    counted := h.acks.trans inv.counted }

theorem held_apart {acksBefore : UInt32} {run : DrainRun} (inv : DrainInvariant acksBefore run)
    {address : Nat} (held : address ∈ run.worker.hand.map PayloadItem.address) :
    address ∉ run.ctx.addresses := by
  have place := inv.placed address
  have bound : (if address < run.allocated then 1 else 0) ≤ 1 := by split <;> omega
  have counted := List.one_le_count_iff.mpr held
  apply List.count_eq_zero.mp
  omega

theorem unanswered {acksBefore : UInt32} {run : DrainRun} (inv : DrainInvariant acksBefore run)
    (silent : run.worker.message = none) {address : Nat} (acked : address ∈ run.acknowledged) :
    address ∈ run.ctx.freed := by
  rcases inv.answered address acked with free | ⟨msgId, message⟩
  · exact free
  · rw [silent] at message
    cases message

theorem counted_of_hand {before after : RelayWorker} {acknowledged : List Nat}
    (hands : ∀ address ∈ acknowledged, after.holds address = before.holds address) :
    (acknowledged.countP fun address => !after.holds address) =
      acknowledged.countP fun address => !before.holds address := by
  apply List.countP_congr
  intro address acked
  rw [hands address acked]

theorem invariant_take {acksBefore : UInt32} {run : DrainRun} {item : PayloadItem}
    {took : RelayContext} (inv : DrainInvariant acksBefore run) (worker : run.worker = .draining)
    (takes : drainTake run.ctx = some (item, took)) :
    DrainInvariant acksBefore { run with ctx := took, worker := .taken item } := by
  have moved := count_drainTake takes
  have silent : run.worker.message = none := by rw [worker]; rfl
  have queued : item.address ∈ run.ctx.addresses := by
    apply List.count_pos_iff.mp
    have once := moved item.address
    simp only [List.count_singleton_self] at once
    omega
  have fresh : item.address ∉ run.acknowledged := by
    intro acked
    have free := unanswered inv silent acked
    have place := inv.placed item.address
    have once := moved item.address
    have bound : (if item.address < run.allocated then 1 else 0) ≤ 1 := by split <;> omega
    have left : item.address ∈ took.freed := by
      obtain ⟨_, _, _, rfl⟩ := drainTake_some takes
      exact free
    have counted := List.one_le_count_iff.mpr (mem_addresses_of_freed left)
    simp only [List.count_singleton_self] at once
    omega
  have same : took.pending = run.ctx.pending ∧ took.freed = run.ctx.freed ∧
      took.client = run.ctx.client ∧ Online took ∧
      took.counters.publishedAck = run.ctx.counters.publishedAck := by
    have online := inv.online
    obtain ⟨_, _, _, rfl⟩ := drainTake_some takes
    exact ⟨rfl, rfl, rfl,
      ⟨online.client, rfl, online.accepting, online.allowed, online.connected⟩, rfl⟩
  obtain ⟨pending, freed, client, online, acks⟩ := same
  have messages : took.pendingMessages = run.ctx.pendingMessages := by
    unfold pendingMessages
    rw [pending]
  exact {
    online := online
    placed := by
      intro address
      have place := inv.placed address
      have once := moved address
      simp only [worker, RelayWorker.hand, List.map_nil, List.count_nil] at place
      simp only [RelayWorker.hand, List.map_cons, List.map_nil]
      omega
    numbers := inv.numbers
    distinct := inv.distinct
    callback := by
      have call := inv.callback
      simp only
      rw [client]
      exact call
    tracked := by
      simp only
      rw [messages]
      exact inv.tracked
    located := by
      intro message out
      rcases inv.located message out with tracked | held
      · exact .inl (messages ▸ tracked)
      · rw [silent] at held
        cases held
    handedOver := by
      intro message held
      cases held
    once := inv.once
    answered := by
      intro address acked
      exact .inl (freed ▸ unanswered inv silent acked)
    apart := inv.apart
    counted := by
      simp only
      rw [acks, inv.counted]
      congr 2
      symm
      apply counted_of_hand
      intro address acked
      have other : address ≠ item.address := by
        intro same
        exact fresh (same ▸ acked)
      simp [RelayWorker.holds, worker, RelayWorker.hand, other] }

theorem invariant_call {acksBefore : UInt32} {run : DrainRun} {item : PayloadItem} {answer : Int}
    (inv : DrainInvariant acksBefore run) (worker : run.worker = .calling item)
    (fresh : answer ∉ run.outstanding.map Prod.fst) :
    DrainInvariant acksBefore { run with
      worker := .called item answer
      outbox := if 0 < answer then (answer, item.address) :: run.outbox else run.outbox } := by
  have silent : run.worker.message = none := by rw [worker]; rfl
  have held : item.address ∈ run.worker.hand.map PayloadItem.address := by simp [worker, RelayWorker.hand]
  have nowhere := held_apart inv held
  have tracked : ∀ message ∈ run.outstanding, message ∈ run.ctx.pendingMessages := by
    intro message out
    rcases inv.located message out with tracked | other
    · exact tracked
    · rw [silent] at other
      cases other
  have new : item.address ∉ run.outstanding.map Prod.snd := by
    intro out
    obtain ⟨message, member, same⟩ := List.mem_map.mp out
    exact nowhere (same ▸ mem_addresses_of_pending (tracked message member))
  have quiet : item.address ∉ run.acknowledged := by
    intro acked
    exact nowhere (mem_addresses_of_freed (unanswered inv silent acked))
  have hands : RelayWorker.hand (.called item answer) = run.worker.hand := by rw [worker]; rfl
  have counted := inv.counted
  unfold RelayWorker.holds at counted
  by_cases positive : 0 < answer
  · simp only [positive, ↓reduceIte]
    have longer : ∀ message, message ∈ run.arriving.toList ++ (answer, item.address) :: run.outbox ↔
        message = (answer, item.address) ∨ message ∈ run.outstanding := by
      intro message
      simp only [outstanding, List.mem_append, List.mem_cons]
      tauto
    exact {
      online := inv.online
      placed := by
        simp only [hands]
        exact inv.placed
      numbers := by
        have old := inv.numbers
        simp only [outstanding, List.map_append, List.map_cons] at old fresh ⊢
        exact List.nodup_middle.mpr (List.nodup_cons.mpr ⟨fresh, old⟩)
      distinct := by
        have old := inv.distinct
        simp only [outstanding, List.map_append, List.map_cons] at old new ⊢
        exact List.nodup_middle.mpr (List.nodup_cons.mpr ⟨new, old⟩)
      callback := inv.callback
      tracked := by
        intro message inside
        exact (longer message).mpr (.inr (inv.tracked message inside))
      located := by
        intro message out
        rcases (longer message).mp out with rfl | old
        · right
          simp [RelayWorker.message, positive]
        · exact .inl (tracked message old)
      handedOver := by
        intro message called
        simp only [RelayWorker.message, positive, ↓reduceIte, Option.some.injEq] at called
        exact .inl ((longer message).mpr (.inl called.symm))
      once := inv.once
      answered := by
        intro address acked
        exact .inl (unanswered inv silent acked)
      apart := by
        intro address acked out
        obtain ⟨message, member, same⟩ := List.mem_map.mp out
        rcases (longer message).mp member with rfl | old
        · subst same
          exact quiet acked
        · exact inv.apart address acked (List.mem_map.mpr ⟨message, old, same⟩)
      counted := by
        unfold RelayWorker.holds
        simp only [hands]
        exact counted }
  · have unsent : RelayWorker.message (.called item answer) = none := by
      simp [RelayWorker.message, positive]
    simp only [positive, ↓reduceIte]
    exact invariant_untouched inv (Untouched.refl run.ctx) hands (unsent.trans silent.symm)

theorem unsent_not_acknowledged {acksBefore : UInt32} {run : DrainRun} {item : PayloadItem}
    (inv : DrainInvariant acksBefore run) (held : run.worker.hand = [item])
    (silent : run.worker.message = none) : item.address ∉ run.acknowledged := by
  intro acked
  have inside : item.address ∈ run.worker.hand.map PayloadItem.address := by simp [held]
  exact held_apart inv inside (mem_addresses_of_freed (unanswered inv silent acked))

theorem counted_of_put_down {run : DrainRun} {item : PayloadItem} (held : run.worker.hand = [item])
    (quiet : item.address ∉ run.acknowledged) :
    (run.acknowledged.countP fun address => !RelayWorker.draining.holds address) =
      run.acknowledged.countP fun address => !run.worker.holds address := by
  apply counted_of_hand
  intro address acked
  have other : address ≠ item.address := by
    intro same
    exact quiet (same ▸ acked)
  unfold RelayWorker.holds
  rw [held]
  simp [RelayWorker.hand, other]

theorem placed_settled {acksBefore : UInt32} {run : DrainRun} {item : PayloadItem}
    (inv : DrainInvariant acksBefore run) (held : run.worker.hand = [item]) (msgId : Int)
    (address : Nat) :
    (RelayWorker.draining.hand.map PayloadItem.address).count address +
      (drainSettle run.ctx item msgId).addresses.count address =
        if address < run.allocated then 1 else 0 := by
  have place := inv.placed address
  have moved := count_drainSettle run.ctx item msgId address
  rw [held] at place
  simp only [RelayWorker.hand, List.map_cons, List.map_nil, List.count_nil] at place ⊢
  omega

theorem invariant_settle {acksBefore : UInt32} {run : DrainRun} {item : PayloadItem} {msgId : Int}
    (inv : DrainInvariant acksBefore run) (worker : run.worker = .handed item msgId)
    (inTime : 0 < msgId → item.address ∉ run.acknowledged) :
    DrainInvariant acksBefore
      { run with ctx := drainSettle run.ctx item msgId, worker := .draining } := by
  have held : run.worker.hand = [item] := by rw [worker]; rfl
  by_cases sent : 0 < msgId
  · have quiet := inTime sent
    have message : run.worker.message = some (msgId, item.address) := by
      simp [worker, RelayWorker.message, sent]
    have tracks : drainSettle run.ctx item msgId =
        trackPendingLocked { run.ctx with workerBusy := false } item msgId := by
      simp [drainSettle, inv.online.connected, Int.not_le.mpr sent]
    have messages : (drainSettle run.ctx item msgId).pendingMessages =
        (msgId, item.address) :: run.ctx.pendingMessages := by
      rw [tracks]
      rfl
    have online := inv.online
    have out : (msgId, item.address) ∈ run.outstanding := by
      rcases inv.handedOver _ message with out | acked
      · exact out
      · exact absurd acked quiet
    exact {
      online := by
        simp only [tracks]
        exact ⟨online.client, online.queue, online.accepting, online.allowed, online.connected⟩
      placed := placed_settled inv held msgId
      numbers := inv.numbers
      distinct := inv.distinct
      callback := by
        have call := inv.callback
        simp only [tracks]
        exact call
      tracked := by
        intro other inside
        simp only [messages, List.mem_cons] at inside
        rcases inside with rfl | inside
        · exact out
        · exact inv.tracked other inside
      located := by
        intro other out
        simp only [messages, List.mem_cons]
        rcases inv.located other out with inside | same
        · exact .inl (.inr inside)
        · rw [message] at same
          cases same
          exact .inl (.inl rfl)
      handedOver := by
        intro other same
        cases same
      once := inv.once
      answered := by
        intro address acked
        rcases inv.answered address acked with free | ⟨other, same⟩
        · simp only [tracks]
          exact .inl free
        · rw [message] at same
          cases same
          exact absurd acked quiet
      apart := inv.apart
      counted := by
        simp only [counted_of_put_down held quiet]
        simp only [tracks]
        exact inv.counted }
  · have silent : run.worker.message = none := by simp [worker, RelayWorker.message, sent]
    have quiet := unsent_not_acknowledged inv held silent
    have frees : drainSettle run.ctx item msgId =
        freeItem { run.ctx with workerBusy := false } item := by
      simp [drainSettle, Int.not_lt.mp sent]
    have online := inv.online
    exact {
      online := by
        simp only [frees]
        exact ⟨online.client, online.queue, online.accepting, online.allowed, online.connected⟩
      placed := placed_settled inv held msgId
      numbers := inv.numbers
      distinct := inv.distinct
      callback := by
        have call := inv.callback
        simp only [frees]
        exact call
      tracked := by
        simp only [frees]
        exact inv.tracked
      located := by
        intro other out
        rcases inv.located other out with inside | same
        · simp only [frees]
          exact .inl inside
        · rw [silent] at same
          cases same
      handedOver := by
        intro other same
        cases same
      once := inv.once
      answered := by
        intro address acked
        simp only [frees]
        exact .inl (List.mem_cons_of_mem _ (unanswered inv silent acked))
      apart := inv.apart
      counted := by
        simp only [counted_of_put_down held quiet]
        simp only [frees]
        exact inv.counted }

theorem perm_of_find {outbox : List (Int × Nat)} {msgId : Int} {message : Int × Nat}
    (numbers : (outbox.map Prod.fst).Nodup)
    (found : outbox.find? (fun other => other.1 = msgId) = some message) :
    (message :: outbox.filter fun other => other.1 ≠ msgId).Perm outbox := by
  induction outbox with
  | nil => cases found
  | cons head rest ih =>
    obtain ⟨other, later⟩ := List.nodup_cons.mp numbers
    by_cases same : head.1 = msgId
    · simp only [List.find?_cons, same, decide_true, Option.some.injEq] at found
      have untouched : (rest.filter fun other => other.1 ≠ msgId) = rest := by
        apply List.filter_eq_self.mpr
        intro next member
        have apart : next.1 ≠ head.1 := by
          intro equal
          exact other (equal ▸ List.mem_map_of_mem member)
        simpa [← same] using apart
      rw [List.filter_cons_of_neg (by simpa using same), untouched, found]
    · simp only [List.find?_cons, same, decide_false] at found
      rw [List.filter_cons_of_pos (by simpa using same)]
      exact (List.Perm.swap _ _ _).trans ((ih later found).cons head)

theorem invariant_puback {acksBefore : UInt32} {run : DrainRun}
    (inv : DrainInvariant acksBefore run) (msgId : Int) :
    DrainInvariant acksBefore (run.puback msgId) := by
  unfold puback
  split
  · next client message idle connected found =>
    have call := inv.callback
    simp only [idle] at call
    have before : run.outstanding = run.outbox := by simp [outstanding, call]
    have numbers := inv.numbers
    rw [before] at numbers
    have perm : (message :: run.outbox.filter fun other => other.1 ≠ msgId).Perm run.outstanding := by
      rw [before]
      exact perm_of_find numbers found
    have number : message.1 = msgId := by simpa using List.find?_some found
    exact {
      online := inv.online
      placed := inv.placed
      numbers := (perm.map Prod.fst).nodup_iff.mpr inv.numbers
      distinct := (perm.map Prod.snd).nodup_iff.mpr inv.distinct
      callback := ⟨message, rfl, connected, by rw [number]⟩
      tracked := by
        intro other inside
        exact perm.mem_iff.mpr (inv.tracked other inside)
      located := by
        intro other out
        exact inv.located other (perm.mem_iff.mp out)
      handedOver := by
        intro other held
        rcases inv.handedOver other held with out | acked
        · exact .inl (perm.mem_iff.mpr out)
        · exact .inr acked
      once := inv.once
      answered := inv.answered
      apart := by
        intro address acked out
        exact inv.apart address acked ((perm.map Prod.snd).mem_iff.mp out)
      counted := inv.counted }
  · exact inv

theorem arrived_apart {acksBefore : UInt32} {run : DrainRun} {message : Int × Nat}
    (inv : DrainInvariant acksBefore run) (arriving : run.arriving = some message) :
    run.outstanding = message :: run.outbox ∧ message.1 ∉ run.outbox.map Prod.fst ∧
      message.2 ∉ run.outbox.map Prod.snd := by
  have before : run.outstanding = message :: run.outbox := by simp [outstanding, arriving]
  have numbers := inv.numbers
  have distinct := inv.distinct
  rw [before, List.map_cons, List.nodup_cons] at numbers distinct
  exact ⟨before, numbers.1, distinct.1⟩

theorem invariant_found {acksBefore : UInt32} {run : DrainRun} {message : Int × Nat}
    {ctx : RelayContext} {item : PayloadItem} (inv : DrainInvariant acksBefore run)
    (arriving : run.arriving = some message) (number : item.msgId = message.1)
    (found : Acknowledges run.ctx ctx item) :
    DrainInvariant acksBefore { run with
      ctx
      handler := .idle
      arriving := none
      acknowledged := message.2 :: run.acknowledged } := by
  obtain ⟨before, numbers, distinct⟩ := arrived_apart inv arriving
  obtain ⟨newer, older, was, now⟩ := found.pendingMessages
  have inside : item.message ∈ run.ctx.pendingMessages := by simp [was]
  have same : item.message = message := by
    have out := inv.tracked item.message inside
    rw [before, List.mem_cons] at out
    rcases out with same | later
    · exact same
    · exact absurd (List.mem_map.mpr ⟨item.message, later, number⟩) numbers
  have address : item.address = message.2 := congrArg Prod.snd same
  rw [same] at was inside
  have notHeld : run.worker.holds message.2 = false := by
    cases held : run.worker.holds message.2 with
    | false => rfl
    | true =>
      have held : message.2 ∈ run.worker.hand.map PayloadItem.address := by
        simpa [RelayWorker.holds] using held
      exact absurd (mem_addresses_of_pending inside) (held_apart inv held)
  have alone : message ∉ newer ++ older := by
    intro again
    have place := inv.placed message.2
    have bound : (if message.2 < run.allocated then 1 else 0) ≤ 1 := by split <;> omega
    have twice : 2 ≤ (run.ctx.pending.map PayloadItem.address).count message.2 := by
      have addresses : run.ctx.pending.map PayloadItem.address =
          run.ctx.pendingMessages.map Prod.snd := by
        unfold pendingMessages
        rw [List.map_map]
        rfl
      rw [addresses, was]
      have more : 1 ≤ ((newer ++ older).map Prod.snd).count message.2 :=
        List.one_le_count_iff.mpr (List.mem_map_of_mem again)
      simp only [List.map_append, List.map_cons, List.count_append, List.count_cons_self] at more ⊢
      omega
    simp only [addresses, List.count_append] at place
    omega
  exact {
    online := found.online inv.online
    placed := by
      intro other
      rw [found.count]
      exact inv.placed other
    numbers := by
      have old := inv.numbers
      rw [before, List.map_cons, List.nodup_cons] at old
      exact old.2
    distinct := by
      have old := inv.distinct
      rw [before, List.map_cons, List.nodup_cons] at old
      exact old.2
    callback := rfl
    tracked := by
      intro other left
      simp only [now] at left
      have inside : other ∈ run.ctx.pendingMessages := by
        rw [was]
        exact List.mem_append.mpr ((List.mem_append.mp left).imp_right (List.mem_cons_of_mem _))
      have out := inv.tracked other inside
      rw [before, List.mem_cons] at out
      rcases out with rfl | later
      · exact absurd left alone
      · exact later
    located := by
      intro other later
      have later : other ∈ run.outbox := later
      have out : other ∈ run.outstanding := by
        rw [before]
        exact List.mem_cons_of_mem _ later
      rcases inv.located other out with tracked | held
      · left
        simp only [now]
        rw [was, List.mem_append, List.mem_cons] at tracked
        rcases tracked with new | rfl | old
        · exact List.mem_append_left _ new
        · exact absurd (List.mem_map_of_mem later) numbers
        · exact List.mem_append_right _ old
      · exact .inr held
    handedOver := by
      intro other held
      rcases inv.handedOver other held with out | acked
      · rw [before, List.mem_cons] at out
        rcases out with rfl | later
        · exact .inr List.mem_cons_self
        · exact .inl later
      · exact .inr (List.mem_cons_of_mem _ acked)
    once := by
      apply List.nodup_cons.mpr
      constructor
      · intro acked
        apply inv.apart _ acked
        rw [before]
        exact List.mem_cons_self
      · exact inv.once
    answered := by
      intro other acked
      simp only [found.freed, List.mem_cons]
      rcases List.mem_cons.mp acked with rfl | earlier
      · exact .inl (.inl address.symm)
      · rcases inv.answered other earlier with free | held
        · exact .inl (.inr free)
        · exact .inr held
    apart := by
      intro other acked later
      rcases List.mem_cons.mp acked with rfl | earlier
      · exact distinct later
      · apply inv.apart other earlier
        rw [before]
        exact List.mem_cons_of_mem _ later
    counted := by
      simp only [found.acks, inv.counted, List.countP_cons, notHeld, Bool.not_false, ↓reduceIte,
        UInt32.ofNat_add]
      rw [UInt32.add_assoc]
      rfl }

/-- A callback that finds no item belongs to the item in the worker's hand. -/
theorem invariant_missed {acksBefore : UInt32} {run : DrainRun} {message : Int × Nat}
    {ctx : RelayContext} (inv : DrainInvariant acksBefore run)
    (arriving : run.arriving = some message)
    (missed : ∀ item ∈ run.ctx.pending, item.msgId ≠ message.1) (untouched : Untouched run.ctx ctx) :
    DrainInvariant acksBefore { run with
      ctx
      handler := .idle
      arriving := none
      acknowledged := message.2 :: run.acknowledged } := by
  obtain ⟨before, numbers, distinct⟩ := arrived_apart inv arriving
  have untracked : message ∉ run.ctx.pendingMessages := by
    intro inside
    obtain ⟨item, member, same⟩ := List.mem_map.mp inside
    exact missed item member (congrArg Prod.fst same)
  have held : run.worker.message = some message := by
    rcases inv.located message (before ▸ List.mem_cons_self) with tracked | held
    · exact absurd tracked untracked
    · exact held
  have holds : run.worker.holds message.2 = true := by
    simp [RelayWorker.holds, message_in_hand held]
  exact {
    online := untouched.online inv.online
    placed := by
      intro other
      rw [untouched.addresses_eq]
      exact inv.placed other
    numbers := by
      have old := inv.numbers
      rw [before, List.map_cons, List.nodup_cons] at old
      exact old.2
    distinct := by
      have old := inv.distinct
      rw [before, List.map_cons, List.nodup_cons] at old
      exact old.2
    callback := rfl
    tracked := by
      intro other inside
      rw [untouched.pendingMessages_eq] at inside
      have out := inv.tracked other inside
      rw [before, List.mem_cons] at out
      rcases out with rfl | later
      · exact absurd inside untracked
      · exact later
    located := by
      intro other later
      rw [untouched.pendingMessages_eq]
      apply inv.located
      rw [before]
      exact List.mem_cons_of_mem _ later
    handedOver := by
      intro other same
      rw [held] at same
      cases same
      exact .inr List.mem_cons_self
    once := by
      apply List.nodup_cons.mpr
      constructor
      · intro acked
        apply inv.apart _ acked
        rw [before]
        exact List.mem_cons_self
      · exact inv.once
    answered := by
      intro other acked
      simp only [untouched.freed]
      rcases List.mem_cons.mp acked with rfl | earlier
      · exact .inr ⟨message.1, held⟩
      · exact inv.answered other earlier
    apart := by
      intro other acked later
      rcases List.mem_cons.mp acked with rfl | earlier
      · exact distinct later
      · apply inv.apart other earlier
        rw [before]
        exact List.mem_cons_of_mem _ later
    counted := by
      simp only [untouched.acks, inv.counted, List.countP_cons, holds, Bool.not_true,
        Bool.false_eq_true, ↓reduceIte, Nat.add_zero] }

theorem invariant_handler {acksBefore : UInt32} {run : DrainRun}
    (inv : DrainInvariant acksBefore run) : DrainInvariant acksBefore run.handlerStep := by
  have call := inv.callback
  cases at_ : run.handler with
  | idle =>
    simp only [at_] at call
    have same : run.handlerStep = run := by
      simp [handlerStep, at_, RelayHandler.step, call]
      cases run
      simp_all
    rw [same]
    exact inv
  | entered event =>
    simp only [at_] at call
    obtain ⟨message, arriving, client, published⟩ := call
    have current := RelayHandler.eventIsCurrent_online inv.online client published
    have next : run.handlerStep = { run with handler := .checked event } := by
      simp [handlerStep, at_, RelayHandler.step, current]
    rw [next]
    exact { inv with callback := ⟨message, arriving, client, published⟩ }
  | checked event =>
    simp only [at_] at call
    obtain ⟨message, arriving, client, published⟩ := call
    have next : run.handlerStep = { run with
        ctx := handlePublishedLocked run.ctx message.1
        handler := .idle
        arriving := none
        acknowledged := message.2 :: run.acknowledged } := by
      simp [handlerStep, at_, RelayHandler.step, published, RelayHandler.act, arriving]
    rw [next]
    rcases handlePublishedLocked_cases run.ctx message.1 with ⟨missed, untouched⟩ | ⟨item, number, found⟩
    · exact invariant_missed inv arriving missed untouched
    · exact invariant_found inv arriving number found
  | subscribing restart =>
    simp only [at_] at call
  | subscribeFailed =>
    simp only [at_] at call

theorem invariant_worker {acksBefore : UInt32} {run : DrainRun} {move : RetainedMove} {answer : Int}
    (inv : DrainInvariant acksBefore run) (inTime : TracksInTime run (.worker move answer)) :
    DrainInvariant acksBefore (run.workerStep move answer) := by
  cases worker : run.worker with
  | calling item =>
    by_cases fresh : answer ∈ run.outstanding.map Prod.fst
    · have same : run.workerStep move answer = run := by
        unfold workerStep
        simp only [worker, fresh, ↓reduceIte]
      rw [same]
      exact inv
    · have next : run.workerStep move answer = { run with
          worker := .called item answer
          outbox := if 0 < answer then (answer, item.address) :: run.outbox else run.outbox } := by
        unfold workerStep
        simp only [worker, fresh, ↓reduceIte, RelayWorker.step]
      rw [next]
      exact invariant_call inv worker fresh
  | handed item msgId =>
    have next : run.workerStep move answer =
        { run with ctx := drainSettle run.ctx item msgId, worker := .draining } := by
      unfold workerStep
      simp only [worker, RelayWorker.step]
    rw [next]
    simp only [TracksInTime, worker] at inTime
    exact invariant_settle inv worker inTime
  | draining =>
    cases takes : drainTake run.ctx with
    | none =>
      have untouched := untouched_worker run.ctx .draining move answer (fun _ => takes) (by simp)
      have message := message_step run.ctx .draining move answer (by simp) (by simp)
      have next : run.workerStep move answer = { run with
          ctx := (RelayWorker.draining.step run.ctx move answer).1
          worker := (RelayWorker.draining.step run.ctx move answer).2 } := by
        unfold workerStep
        simp only [worker]
      rw [next]
      rw [← worker] at untouched message ⊢
      exact invariant_untouched inv untouched.1 untouched.2 message
    | some took =>
      have next : run.workerStep move answer =
          { run with ctx := took.2, worker := .taken took.1 } := by
        unfold workerStep
        simp only [worker, RelayWorker.step, takes]
      rw [next]
      exact invariant_take inv worker takes
  | waiting | deleted | retaining | retainedCall | retained | taken _ | called _ _ =>
    have untouched := untouched_worker run.ctx run.worker move answer (by simp [worker])
      (by simp [worker])
    have message := message_step run.ctx run.worker move answer (by simp [worker]) (by simp [worker])
    have next : run.workerStep move answer = { run with
        ctx := (run.worker.step run.ctx move answer).1
        worker := (run.worker.step run.ctx move answer).2 } := by
      unfold workerStep
      simp only [worker]
    rw [next]
    exact invariant_untouched inv untouched.1 untouched.2 message

theorem invariant_step {acksBefore : UInt32} {run : DrainRun} {action : DrainAction}
    (inv : DrainInvariant acksBefore run) (inTime : TracksInTime run action) :
    DrainInvariant acksBefore (run.step action) := by
  cases action with
  | observe seen => exact invariant_observe inv seen
  | worker move answer => exact invariant_worker inv inTime
  | puback msgId => exact invariant_puback inv msgId
  | handler => exact invariant_handler inv

theorem invariant_start (ctx : RelayContext) (client : Nat) :
    DrainInvariant ctx.counters.publishedAck (start ctx client) where
  online := ⟨rfl, rfl, rfl, rfl, rfl⟩
  placed := by
    intro address
    rfl
  numbers := List.nodup_nil
  distinct := List.nodup_nil
  callback := rfl
  tracked := nofun
  located := nofun
  handedOver := nofun
  once := List.nodup_nil
  answered := nofun
  apart := nofun
  counted := (UInt32.add_zero _).symm

theorem unsettled_of_late {acksBefore : UInt32} {run : DrainRun} {action : DrainAction}
    (inv : DrainInvariant acksBefore run) (settled : AcksSettled acksBefore (run.step action)) :
    TracksInTime run action := by
  cases action with
  | worker move answer =>
    simp only [TracksInTime]
    split
    · next item msgId worker =>
      intro sent acked
      have next : run.step (.worker move answer) =
          { run with ctx := drainSettle run.ctx item msgId, worker := .draining } := by
        unfold step workerStep
        simp only [worker, RelayWorker.step]
      have tracks : drainSettle run.ctx item msgId =
          trackPendingLocked { run.ctx with workerBusy := false } item msgId := by
        simp [drainSettle, inv.online.connected, Int.not_le.mpr sent]
      rw [next] at settled
      have gone := (settled.freedOnce item.address acked rfl).2
      simp [tracks, trackPendingLocked] at gone
    · trivial
  | observe seen => trivial
  | puback msgId => trivial
  | handler => trivial

/-- In every run in which the client stays connected, the acknowledged items are
    counted and released exactly once if and only if the worker tracks every item
    before the callback of its PUBACK has returned. -/
theorem acks_settled_iff_tracked_in_time (ctx : RelayContext) (client : Nat)
    (actions : List DrainAction) :
    AllStates step (AcksSettled ctx.counters.publishedAck) (start ctx client) actions ↔
      AllSteps step TracksInTime (start ctx client) actions := by
  apply all_states_iff_all_steps (J := DrainInvariant ctx.counters.publishedAck)
  · intro run action inv _ inTime
    exact invariant_step inv inTime
  · intro run action inv _
    constructor
    · exact unsettled_of_late inv
    · intro inTime
      exact acks_settled (invariant_step inv inTime)
  · exact invariant_start ctx client
  · exact acks_settled (invariant_start ctx client)

/-- One notification whose PUBACK is handled between the client's call and the
    section that tracks the item. -/
def overtaken : List DrainAction :=
  [.observe { topic := [], payload := [], relayId := [1], admissible := true, live := true, nowMs := 5 },
    .worker .cleanup 0, .worker .cleanup 0, .worker .cleanup 0, .worker .cleanup 40,
    .puback 40, .handler, .handler, .worker .cleanup 0, .worker .cleanup 0]

theorem overtaken_ack_is_lost :
    let last := run step (start zero 1) overtaken
    last.worker = .draining ∧ last.handler = .idle ∧ last.acknowledged = [0] ∧
      last.ctx.counters.accepted = 1 ∧ last.ctx.counters.publishedAck = 0 ∧
      last.ctx.pending.map PayloadItem.address = [0] ∧ ¬ AcksSettled 0 last := by
  refine ⟨by decide, by decide, by decide, by decide, by decide, by decide, ?_⟩
  intro settled
  have gone := (settled.freedOnce 0 (by decide) (by decide)).2
  exact gone (by decide)

end DrainRun
