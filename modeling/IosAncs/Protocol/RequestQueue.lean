import IosAncs.Foundation.Runs
import IosAncs.Foundation.CircularArray

/-!
The ANCS request queue: a ring of pending notification events. Push and pop
work at the two ends of the ring; `ancs_request_queue_cancel_uid` compacts the
ring from slot zero whatever its head is. It is compared with a bounded list.
The source is `ancs_protocol.c`.
-/
open Runs CircularArray

structure AncsNotificationEvent where
  eventId : UInt8
  eventFlags : UInt8
  categoryId : UInt8
  categoryCount : UInt8
  uid : UInt32
deriving DecidableEq, Repr, Inhabited

/-- `ancs_request_queue_t`. The item type is a parameter: the client's worker
    model queues events together with their arrival number. -/
structure AncsRequestQueue (α : Type) (capacity : Nat) where
  items : Fin capacity → α
  head : Nat
  count : Nat
  head_lt : head < capacity
  count_le : count ≤ capacity

inductive QueueCall (α : Type) where
  | push (event : α)
  | pop
  | cancelUid (uid : UInt32)
  | clear
deriving DecidableEq, Repr

/-- What a call returns: its flag, and for a successful pop the event. -/
inductive QueueAnswer (α : Type) where
  | flag (value : Bool)
  | event (value : α)
  | none
deriving DecidableEq, Repr

namespace AncsRequestQueue
variable {α : Type} {capacity : Nat} [NeZero capacity]

/-- `ancs_request_queue_init`: all bytes zero, `zero` being the all-zero event. -/
def init (zero : α) : AncsRequestQueue α capacity where
  items := fun _ => zero
  head := 0
  count := 0
  head_lt := Nat.pos_of_neZero capacity
  count_le := Nat.zero_le _

def push (queue : AncsRequestQueue α capacity) (event : α) : AncsRequestQueue α capacity × Bool :=
  if room : capacity ≤ queue.count then (queue, false)
  else
    let tail := slot capacity (queue.head + queue.count)
    ({ queue with
        items := Function.update queue.items tail event
        count := queue.count + 1
        count_le := Nat.lt_of_not_le room }, true)

def pop (queue : AncsRequestQueue α capacity) : AncsRequestQueue α capacity × Option α :=
  if queue.count = 0 then (queue, none)
  else
    ({ queue with
        head := (queue.head + 1) % capacity
        count := queue.count - 1
        head_lt := Nat.mod_lt _ (Nat.pos_of_neZero capacity)
        count_le := Nat.le_trans (Nat.sub_le _ _) queue.count_le },
      some (queue.items (slot capacity queue.head)))

/-- The loop reads `items[(head + index) % capacity]` and writes the events of
    other uids to `items[write_count++]`. -/
def cancelLoop (uid : α → UInt32) (queue : AncsRequestQueue α capacity) (target : UInt32) :
    Compaction α capacity :=
  compact (fun event => uid event == target) (fresh queue.items) queue.head queue.count

def cancelUid (uid : α → UInt32) (queue : AncsRequestQueue α capacity) (target : UInt32) :
    AncsRequestQueue α capacity × Bool :=
  if queue.count = 0 then (queue, false)
  else
    ({ items := (cancelLoop uid queue target).items
       head := 0
       count := (cancelLoop uid queue target).write
       head_lt := Nat.pos_of_neZero capacity
       count_le := by
        have written := compact_write_le (fun event => uid event == target) (fresh queue.items)
          queue.head queue.count
        have bounded := queue.count_le
        simp only [cancelLoop, fresh, Nat.zero_add] at written ⊢
        omega },
      (cancelLoop uid queue target).removed)

def clear (zero : α) (_queue : AncsRequestQueue α capacity) : AncsRequestQueue α capacity :=
  init zero

def pending (queue : AncsRequestQueue α capacity) : List α :=
  contents queue.items queue.head queue.count

@[simp] theorem pending_length (queue : AncsRequestQueue α capacity) :
    queue.pending.length = queue.count := by
  simp [pending]

@[simp] theorem pending_init (zero : α) : (init zero : AncsRequestQueue α capacity).pending = [] := by
  simp [pending, init]

@[simp] theorem pending_clear (zero : α) (queue : AncsRequestQueue α capacity) :
    (clear zero queue).pending = [] := pending_init zero

theorem push_spec (queue : AncsRequestQueue α capacity) (event : α) :
    ((queue.push event).1.pending, (queue.push event).2) =
      if queue.pending.length < capacity then (queue.pending ++ [event], true)
      else (queue.pending, false) := by
  rw [pending_length]
  unfold push
  by_cases full : capacity ≤ queue.count
  · simp [full]
  · simp only [full, ↓reduceDIte, pending, Nat.lt_of_not_le full, ↓reduceIte, Prod.mk.injEq,
      and_true]
    exact contents_write_next queue.items event queue.head queue.count (Nat.lt_of_not_le full)

theorem pop_spec (queue : AncsRequestQueue α capacity) :
    ((queue.pop).1.pending, (queue.pop).2) = (queue.pending.tail, queue.pending.head?) := by
  unfold pop
  split
  · next empty =>
    have nothing : queue.pending = [] := by
      rw [← List.length_eq_zero_iff, pending_length, empty]
    simp [nothing]
  · next some =>
    have split : queue.pending = queue.items (slot capacity queue.head) ::
        contents queue.items (queue.head + 1) (queue.count - 1) := by
      rw [pending, ← contents_cons]
      congr 1
      omega
    rw [split, pending]
    simp only [contents_head_mod, List.tail_cons, List.head?_cons]

def keptBeforeEnd (uid : α → UInt32) (queue : AncsRequestQueue α capacity) (target : UInt32) :
    List α :=
  (queue.pending.take (capacity - queue.head)).filter fun event => ! (uid event == target)

def pastEnd (queue : AncsRequestQueue α capacity) : List α :=
  queue.pending.drop (capacity - queue.head)

/-- No event past the end of the array is overwritten by another one before the
    loop reads it. -/
def CancelKeeps (uid : α → UInt32) (queue : AncsRequestQueue α capacity) (target : UInt32) : Prop :=
  keptBeforeEnd uid queue target = [] ∨
    pastEnd queue = cycle (keptBeforeEnd uid queue target) (pastEnd queue).length

instance [DecidableEq α] (uid : α → UInt32) (queue : AncsRequestQueue α capacity)
    (target : UInt32) : Decidable (CancelKeeps uid queue target) :=
  inferInstanceAs (Decidable (_ ∨ _))

theorem cancelUid_exact_iff (uid : α → UInt32) (queue : AncsRequestQueue α capacity)
    (target : UInt32) :
    ((queue.cancelUid uid target).1.pending, (queue.cancelUid uid target).2) =
        (queue.pending.filter fun event => ! (uid event == target),
          queue.pending.any fun event => uid event == target) ↔
      CancelKeeps uid queue target := by
  unfold cancelUid
  split
  · next empty =>
    have nothing : queue.pending = [] := by
      rw [← List.length_eq_zero_iff, pending_length, empty]
    simp [CancelKeeps, keptBeforeEnd, nothing]
  · rw [Prod.mk.injEq]
    exact compact_exact_iff (fun event => uid event == target) queue.items
      (Nat.le_of_lt queue.head_lt) queue.count_le

/-- Even where other events are lost, no event of the uid is left and none appears. -/
theorem cancelUid_members (uid : α → UInt32) (queue : AncsRequestQueue α capacity)
    (target : UInt32) :
    ∀ event ∈ (queue.cancelUid uid target).1.pending, event ∈ queue.pending ∧ uid event ≠ target := by
  intro event member
  unfold cancelUid at member
  split at member
  · next empty =>
    have nothing : queue.pending = [] := by
      rw [← List.length_eq_zero_iff, pending_length, empty]
    rw [nothing] at member
    cases member
  · obtain ⟨before, other⟩ := compact_members (fun event => uid event == target) queue.items
      (Nat.le_of_lt queue.head_lt) queue.count_le event member
    exact ⟨before, by simpa using other⟩

end AncsRequestQueue

namespace BoundedFifo
variable {α : Type}

def answer (uid : α → UInt32) (capacity : Nat) (pending : List α) :
    QueueCall α → List α × QueueAnswer α
  | .push event =>
    if pending.length < capacity then (pending ++ [event], .flag true) else (pending, .flag false)
  | .pop => (pending.tail, (pending.head?.map QueueAnswer.event).getD .none)
  | .cancelUid target => (pending.filter fun event => ! (uid event == target),
      .flag (pending.any fun event => uid event == target))
  | .clear => ([], .none)

def history (uid : α → UInt32) (capacity : Nat) :
    List α → List (QueueCall α) → List (List α × QueueAnswer α)
  | _, [] => []
  | pending, call :: rest =>
    answer uid capacity pending call ::
      history uid capacity (answer uid capacity pending call).1 rest

end BoundedFifo

namespace AncsRequestQueue
variable {α : Type} {capacity : Nat} [NeZero capacity] (uid : α → UInt32) (zero : α)

def answer (queue : AncsRequestQueue α capacity) :
    QueueCall α → AncsRequestQueue α capacity × QueueAnswer α
  | .push event => ((queue.push event).1, .flag (queue.push event).2)
  | .pop => (queue.pop.1, (queue.pop.2.map QueueAnswer.event).getD .none)
  | .cancelUid target => ((queue.cancelUid uid target).1, .flag (queue.cancelUid uid target).2)
  | .clear => (queue.clear zero, .none)

def call (queue : AncsRequestQueue α capacity) (c : QueueCall α) : AncsRequestQueue α capacity :=
  (answer uid zero queue c).1

def history : AncsRequestQueue α capacity → List (QueueCall α) → List (List α × QueueAnswer α)
  | _, [] => []
  | queue, c :: rest =>
    ((call uid zero queue c).pending, (answer uid zero queue c).2) ::
      history (call uid zero queue c) rest

def Matches (queue : AncsRequestQueue α capacity) (c : QueueCall α) : Prop :=
  ((call uid zero queue c).pending, (answer uid zero queue c).2) =
    BoundedFifo.answer uid capacity queue.pending c

def CallKeeps (queue : AncsRequestQueue α capacity) : QueueCall α → Prop
  | .cancelUid target => CancelKeeps uid queue target
  | _ => True

theorem matches_iff (queue : AncsRequestQueue α capacity) (c : QueueCall α) :
    Matches uid zero queue c ↔ CallKeeps uid queue c := by
  cases c with
  | push event =>
    have spec := push_spec queue event
    simp only [Matches, call, answer, BoundedFifo.answer, CallKeeps, iff_true]
    split at spec <;> simp_all
  | pop =>
    have spec := pop_spec queue
    simp only [Prod.mk.injEq] at spec
    simp only [Matches, call, answer, BoundedFifo.answer, CallKeeps, spec]
  | cancelUid target =>
    rw [CallKeeps, ← cancelUid_exact_iff]
    simp [Matches, call, answer, BoundedFifo.answer]
  | clear => simp [Matches, call, answer, BoundedFifo.answer, CallKeeps]

theorem history_eq_iff (queue : AncsRequestQueue α capacity) (calls : List (QueueCall α)) :
    history uid zero queue calls = BoundedFifo.history uid capacity queue.pending calls ↔
      AllSteps (call uid zero) (CallKeeps uid) queue calls := by
  induction calls generalizing queue with
  | nil => simp [history, BoundedFifo.history, AllSteps]
  | cons c rest ih =>
    rw [history, BoundedFifo.history, List.cons.injEq, AllSteps, ← matches_iff uid zero queue c]
    constructor
    · rintro ⟨now, later⟩
      refine ⟨now, (ih _).mp ?_⟩
      rw [← now] at later
      exact later
    · rintro ⟨now, later⟩
      refine ⟨now, ?_⟩
      rw [← now]
      exact (ih _).mpr later

instance [DecidableEq α] (queue : AncsRequestQueue α capacity) (c : QueueCall α) :
    Decidable (Matches uid zero queue c) :=
  inferInstanceAs (Decidable (_ = _))

/-- From every state reached by calls on a fresh queue, a call is that of the
    bounded list exactly when it keeps every event it should; and a run's whole
    history is the list's exactly when all its calls do. -/
theorem bounded_fifo_iff_cancels_keep (calls : List (QueueCall α)) :
    (∀ c, Matches uid zero (run (call uid zero) (init zero : AncsRequestQueue α capacity) calls) c ↔
        CallKeeps uid (run (call uid zero) (init zero : AncsRequestQueue α capacity) calls) c) ∧
      (history uid zero (init zero : AncsRequestQueue α capacity) calls =
          BoundedFifo.history uid capacity [] calls ↔
        AllSteps (call uid zero) (CallKeeps uid) (init zero : AncsRequestQueue α capacity) calls) := by
  refine ⟨fun c => matches_iff uid zero _ c, ?_⟩
  have exact_history := history_eq_iff uid zero (init zero : AncsRequestQueue α capacity) calls
  rwa [pending_init] at exact_history

section DefaultCapacity

/-- `CONFIG_ANCS_REQUEST_QUEUE_CAPACITY` as `ancs_protocol.h` sets it. -/
abbrev DefaultQueue := AncsRequestQueue AncsNotificationEvent 16

def added (uid : UInt32) : AncsNotificationEvent := { (default : AncsNotificationEvent) with uid }

/-- Fifteen events pass through the queue, then two wait across the array's end. -/
def wrappedCalls : List (QueueCall AncsNotificationEvent) :=
  (List.replicate 15 [.push (added 9), .pop]).flatten ++ [.push (added 1), .push (added 2)]

def wrappedQueue : DefaultQueue :=
  run (call AncsNotificationEvent.uid default) (init default) wrappedCalls

theorem bounded_fifo_iff_cancels_keep_wrapped :
    (∀ c, Matches AncsNotificationEvent.uid default wrappedQueue c ↔
        CallKeeps AncsNotificationEvent.uid wrappedQueue c) ∧
      (history AncsNotificationEvent.uid default (init default : DefaultQueue) wrappedCalls =
          BoundedFifo.history AncsNotificationEvent.uid 16 [] wrappedCalls ↔
        AllSteps (call AncsNotificationEvent.uid default) (CallKeeps AncsNotificationEvent.uid)
          (init default : DefaultQueue) wrappedCalls) :=
  bounded_fifo_iff_cancels_keep AncsNotificationEvent.uid default wrappedCalls

/-- Cancelling a uid that is not pending replaces the second event by the first. -/
theorem cancel_of_absent_uid_loses_an_event :
    wrappedQueue.pending = [added 1, added 2] ∧
      (wrappedQueue.cancelUid AncsNotificationEvent.uid 3).1.pending = [added 1, added 1] ∧
      ¬ Matches AncsNotificationEvent.uid default wrappedQueue (.cancelUid 3) := by
  decide +kernel

end DefaultCapacity

end AncsRequestQueue
