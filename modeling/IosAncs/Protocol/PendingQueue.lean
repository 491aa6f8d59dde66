import IosAncs.Protocol.RequestQueue

/-!
The request queue as its user sees it. What every instance promises is little: the
ring may lose and repeat events where it cancels. The bounded list cancels exactly.
-/

structure PendingQueue (α : Type) (uid : α → UInt32) where
  Queue : Type
  init : Queue
  push : Queue → α → Queue × Bool
  pop : Queue → Queue × Option α
  cancelUid : Queue → UInt32 → Queue × Bool
  clear : Queue → Queue
  /-- the pending events, oldest first -/
  pending : Queue → List α
  pending_init : pending init = []
  pending_clear : ∀ queue, pending (clear queue) = []
  pending_push : ∀ queue event,
    pending (push queue event).1 = if (push queue event).2 then pending queue ++ [event]
      else pending queue
  pending_pop : ∀ queue, pending (pop queue).1 = (pending queue).tail
  popped : ∀ queue, (pop queue).2 = (pending queue).head?
  cancel_members : ∀ queue target, ∀ event ∈ pending (cancelUid queue target).1,
    event ∈ pending queue ∧ uid event ≠ target

namespace PendingQueue
variable {α : Type}

def ring (uid : α → UInt32) (zero : α) (capacity : Nat) [NeZero capacity] :
    PendingQueue α uid where
  Queue := AncsRequestQueue α capacity
  init := AncsRequestQueue.init zero
  push := AncsRequestQueue.push
  pop := AncsRequestQueue.pop
  cancelUid := AncsRequestQueue.cancelUid uid
  clear := AncsRequestQueue.clear zero
  pending := AncsRequestQueue.pending
  pending_init := AncsRequestQueue.pending_init zero
  pending_clear := AncsRequestQueue.pending_clear zero
  pending_push := by
    intro queue event
    have spec := AncsRequestQueue.push_spec queue event
    split at spec <;> simp_all
  pending_pop := by
    intro queue
    exact congrArg Prod.fst (AncsRequestQueue.pop_spec queue)
  popped := by
    intro queue
    exact congrArg Prod.snd (AncsRequestQueue.pop_spec queue)
  cancel_members := AncsRequestQueue.cancelUid_members uid

def fifo (uid : α → UInt32) (capacity : Nat) : PendingQueue α uid where
  Queue := List α
  init := []
  push queue event := if queue.length < capacity then (queue ++ [event], true) else (queue, false)
  pop queue := (queue.tail, queue.head?)
  cancelUid queue target :=
    (queue.filter fun event => ! (uid event == target), queue.any fun event => uid event == target)
  clear _ := []
  pending := id
  pending_init := rfl
  pending_clear _ := rfl
  pending_push := by
    intro queue event
    split <;> rfl
  pending_pop _ := rfl
  popped _ := rfl
  cancel_members := by
    intro queue target event member
    simpa using member

end PendingQueue
