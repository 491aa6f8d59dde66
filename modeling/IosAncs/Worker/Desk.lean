import IosAncs.Worker.Context
import Mathlib.Logic.Relation

/-!
What the worker is for, seen from outside: a desk with a queue of events and one
place for the request that is being answered. Its moves say all that a step of the
worker can do to them; what may be given up without an outcome is left to rules.
-/
open AncsProtocol

structure DeskSlot (limits : AncsLimits) where
  request : Nat
  source : ArrivedEvent
  canceled : Bool
  kind : ActiveRequestKind
  attempt : Nat
  notification : AncsNotification limits

structure Desk (limits : AncsLimits) where
  pending : List ArrivedEvent
  slot : Option (DeskSlot limits)
  processed : Nat
  requests : Nat
  trace : List (WorkerEffect limits)

namespace DeskSlot
variable {limits : AncsLimits}

def start (request : Nat) (source : ArrivedEvent) (notification : AncsNotification limits) :
    DeskSlot limits where
  request
  source
  canceled := false
  kind := .notificationAttributes
  attempt := 0
  notification

def naming (s : DeskSlot limits) (notification : AncsNotification limits) : DeskSlot limits :=
  { s with kind := .appAttributes, attempt := 0, notification }

def cancel (s : DeskSlot limits) (uid : UInt32) : DeskSlot limits :=
  { s with canceled := s.canceled || s.source.uid == uid }

def asked (s : DeskSlot limits) (trace : List (WorkerEffect limits)) :
    Option (List UInt8 × Option Int) → List (WorkerEffect limits)
  | none => trace
  | some (bytes, deadlineMs) => .requested s.request s.source s.kind bytes deadlineMs :: trace

/-- A finished notification that waits for the name of its app. -/
def Parked (s : DeskSlot limits) : Prop := s.kind = .appAttributes ∧ s.canceled = false

end DeskSlot

/-- What a cancellation leaves in the queue, which requests may be given up without an
    outcome, and when the session may be reset. -/
structure DeskRules (limits : AncsLimits) where
  Cancels : UInt32 → List ArrivedEvent → List ArrivedEvent → Prop
  Abandons : DeskSlot limits → Prop
  Resets : Desk limits → Prop
  cancels_members : ∀ {uid pending rest}, Cancels uid pending rest →
    ∀ source ∈ rest, source ∈ pending ∧ source.uid ≠ uid

theorem DeskRules.members_of_left {uid : UInt32} {pending rest : List ArrivedEvent}
    (left : ∀ source ∈ rest, source ∈ pending ∧ source.uid ≠ uid) :
    ∀ source ∈ rest, source ∈ pending ∧ source.uid ≠ uid := left

namespace Desk
variable {limits : AncsLimits}

inductive Move (rules : DeskRules limits) (d : Desk limits) : Desk limits → Prop where
  | remove (source : ArrivedEvent) (rest : List ArrivedEvent) (n : AncsNotification limits)
      (serial : source.serial = d.processed) (removes : source.Removes)
      (complete : n.complete = true ∧ n.errorCode = ok)
      (cancels : rules.Cancels source.uid d.pending rest) :
      Move rules d { d with
        pending := rest
        slot := d.slot.map (DeskSlot.cancel · source.uid)
        processed := d.processed + 1
        trace := .published source none n :: .processed source :: d.trace }
  | add (source : ArrivedEvent) (serial : source.serial = d.processed) (adds : ¬ source.Removes) :
      Move rules d { d with
        pending := d.pending ++ [source]
        processed := d.processed + 1
        trace := .processed source :: d.trace }
  | overflow (source : ArrivedEvent) (n : AncsNotification limits)
      (serial : source.serial = d.processed) (adds : ¬ source.Removes)
      (failed : n.complete = false ∧ n.errorCode ≠ ok) :
      Move rules d { d with
        processed := d.processed + 1
        trace := .published source none n :: .processed source :: d.trace }
  | start (source : ArrivedEvent) (rest : List ArrivedEvent) (n : AncsNotification limits)
      (asked : Option (List UInt8 × Option Int)) (waits : d.pending = source :: rest)
      (idle : d.slot = none) :
      Move rules d { d with
        pending := rest
        slot := some (.start (d.requests + 1) source n)
        requests := d.requests + 1
        trace := (DeskSlot.start (d.requests + 1) source n).asked d.trace asked }
  | read (s : DeskSlot limits) (n : AncsNotification limits) (active : d.slot = some s)
      (same : s.kind = .appAttributes → s.notification.SameButName n) :
      Move rules d { d with slot := some { s with notification := n } }
  | retry (s : DeskSlot limits) (n : AncsNotification limits)
      (asked : Option (List UInt8 × Option Int)) (active : d.slot = some s)
      (first : s.attempt = 0)
      (same : s.kind = .appAttributes → s.notification.SameButName n) :
      Move rules d { d with
        slot := some { s with attempt := 1, notification := n }
        trace := s.asked d.trace asked }
  | parsed (s : DeskSlot limits) (n m : AncsNotification limits)
      (asked : Option (List UInt8 × Option Int)) (active : d.slot = some s)
      (kind : s.kind = .notificationAttributes) (complete : n.complete = true ∧ n.errorCode = ok)
      (same : n.SameButName m) :
      Move rules d { d with
        slot := some (s.naming m)
        trace := (s.naming m).asked (.parsed s.request s.source n :: d.trace) asked }
  | fail (s : DeskSlot limits) (n : AncsNotification limits) (active : d.slot = some s)
      (kind : s.kind = .notificationAttributes) (kept : s.canceled = false)
      (failed : n.complete = false ∧ n.errorCode ≠ ok) :
      Move rules d { d with
        slot := none
        trace := .published s.source (some s.request) n :: d.trace }
  | finalize (s : DeskSlot limits) (n : AncsNotification limits) (active : d.slot = some s)
      (parked : s.Parked) (same : s.notification.SameButName n) :
      Move rules d { d with
        slot := none
        trace := .published s.source (some s.request) n :: d.trace }
  | drain (s : DeskSlot limits) (active : d.slot = some s) (canceled : s.canceled = true) :
      Move rules d { d with slot := none }
  | abandon (s : DeskSlot limits) (active : d.slot = some s) (allowed : rules.Abandons s) :
      Move rules d { d with slot := none }
  | recover : Move rules d { d with trace := .recovered :: d.trace }
  | reset (generation : UInt32) (allowed : rules.Resets d) :
      Move rules d { d with
        pending := []
        slot := none
        trace := .sessionReset generation :: d.trace }

abbrev Moves (rules : DeskRules limits) : Desk limits → Desk limits → Prop :=
  Relation.ReflTransGen (Move rules)

theorem moves_invariant {rules : DeskRules limits} {I : Desk limits → Prop}
    (kept : ∀ d d', Move rules d d' → I d → I d') {d d' : Desk limits} (moves : Moves rules d d')
    (holds : I d) : I d' := by
  induction moves with
  | refl => exact holds
  | tail _ move ih => exact kept _ _ move ih

end Desk
