import IosAncs.Client.Moves
import IosAncs.Foundation.Sequential
import Mathlib.Data.Finset.Basic

/-!
What becomes of a confirmed replacement. The bonds go one by one, each removal is reported by
one event, and the link may come down before, between or after these; the window opens with
the last of them, or an error is left.
-/
open Runs Sections Client

structure StackTurn where
  answers : Nat → ClientEnv
  bonds : Nat → List BdAddr
  /-- the store when the call is over -/
  left : List BdAddr
  /-- a count and a list that are read at all are those of the store -/
  honest : ∀ k, (0 ≤ (answers k).bondCount → (answers k).bondCount = (bonds k).length) ∧
    ∀ list, (answers k).bondList = some list → list = bonds k
  shrinks : ∀ k, bonds (k + 1) ⊆ bonds k
  leaves : ∀ k, left ⊆ bonds k

inductive ReplacementEvent where
  | disconnect (gattcIf : Option Nat) (connId : UInt16) (peer : BdAddr) (reason : Int)
  | removed (peer : BdAddr) (success : Bool)
deriving DecidableEq, Repr

structure ReplacementTurn extends StackTurn where
  event : ReplacementEvent

namespace ReplacementEvent

def call : ReplacementEvent → ClientCall
  | .disconnect gattcIf connId peer reason => .gattc gattcIf (.disconnect connId peer reason)
  | .removed _ success => .gap (.removeBondDevComplete success)

def outstanding (removals : Finset BdAddr) : ReplacementEvent → Finset BdAddr
  | .disconnect _ _ _ _ => removals
  | .removed peer _ => removals.erase peer

def failed (removals : Finset BdAddr) : ReplacementEvent → Finset BdAddr
  | .removed peer false => insert peer removals
  | _ => removals

end ReplacementEvent

/-- The client since a confirmed request, with the bond store, the removals that no event has
    reported yet, those that have failed, and whether the window has been opened. -/
structure Replacement where
  client : ClientContext
  bonds : List BdAddr
  outstanding : Finset BdAddr
  failed : Finset BdAddr
  requestedAt : Int
  windowOpened : Bool

namespace ClientContext

def windowFrom (s : ClientContext) (time : Int) : Bool :=
  s.enroll.windowOpen && decide (time + s.enroll.config.enrollWindowMs ≤ s.enroll.windowDeadlineMs)

def awaitsDisconnect (s : ClientContext) : Bool := s.reopenAfterDisconnect && s.connected

def Disconnects (s : ClientContext) (gattcIf : Option Nat) (connId : UInt16) (peer : BdAddr) : Prop :=
  (gattcIf = none ∨ gattcIf = s.gattcIf) ∧ s.connected = true ∧ s.connId = connId ∧ s.remoteBda = peer

end ClientContext

namespace Replacement

def issuing : Nat := 7

/-- The client when the request has returned. Every bond of the store is being removed. -/
def requested (before : ClientContext) (turn : StackTurn) (requestedAt : Int) : Replacement :=
  let client := ((replaceEnrollment true).finish turn.answers before).2
  { client
    bonds := turn.left
    outstanding := (turn.bonds 0).toFinset
    failed := ∅
    requestedAt
    windowOpened := client.windowFrom requestedAt }

def step (config : ClientConfig) (r : Replacement) (turn : ReplacementTurn) : Replacement :=
  let client := runAlone (ClientCall.body config) r.client (turn.event.call, turn.answers)
  { client
    bonds := turn.left
    outstanding := turn.event.outstanding r.outstanding
    failed := turn.event.failed r.failed
    requestedAt := r.requestedAt
    windowOpened := r.windowOpened || client.windowFrom r.requestedAt }

/-- Bonds leave the store by removals that are outstanding, and an event reports one of these:
    a success when the bond is gone, a failure when it stays. -/
structure Possible (r : Replacement) (turn : ReplacementTurn) : Prop where
  store : turn.bonds 0 ⊆ r.bonds
  gone : ∀ peer ∈ r.bonds, peer ∉ turn.left → peer ∈ r.outstanding
  clock : ∀ k, r.requestedAt ≤ (turn.answers k).nowMs
  reports : ∀ peer success, turn.event = .removed peer success → peer ∈ r.outstanding ∧
    (if success then peer ∉ turn.bonds 0 else peer ∈ turn.left)

/-- With the store empty, the link down and no event to come, the window has been opened or an
    error is left; and the failure of a removal is reported. -/
def Ends (r : Replacement) : Prop :=
  (r.bonds = [] → r.client.connected = false → r.outstanding = ∅ →
    r.windowOpened = true ∨ r.client.lastReplaceError ≠ espOk) ∧
  (r.failed.Nonempty → r.client.replacePending = false ∧ r.client.lastReplaceError ≠ espOk)

def Counted (before : ClientContext) (turn : StackTurn) : Prop :=
  turn.bonds 0 = [] → before.awaitsDisconnect = false → 0 ≤ (turn.answers (issuing + 1)).bondCount

def Unopened (r : Replacement) : Prop :=
  r.windowOpened = false ∧ r.client.awaitsDisconnect = false

/-- The last success can count the store. One that finds it empty has no error to overwrite
    that an attempt to open the window has left, and neither has the end of the connection one
    that a failed removal has left. -/
def Spared (r : Replacement) (turn : ReplacementTurn) : Prop :=
  match turn.event with
  | .disconnect gattcIf connId peer _ =>
    r.client.Disconnects gattcIf connId peer → r.failed.Nonempty →
      r.client.reopenAfterDisconnect = false
  | .removed peer true =>
    (r.outstanding = {peer} → r.client.replacePending = true → r.client.lastReplaceError = espOk →
      r.Unopened → 0 ≤ (turn.answers 0).bondCount) ∧
    (r.failed = ∅ → r.client.replacePending = false → r.client.lastReplaceError ≠ espOk →
      r.Unopened → (turn.answers 0).bondCount < 0)
  | .removed _ false => True

end Replacement

namespace ClientContext

structure ReplaceFlags where
  pending : Bool
  reopen : Bool
  connected : Bool
  error : Int

def replaceFlags (s : ClientContext) : ReplaceFlags where
  pending := s.replacePending
  reopen := s.reopenAfterDisconnect
  connected := s.connected
  error := s.lastReplaceError

end ClientContext

namespace Client
variable {α β : Type}

def KeepsFlags : ClientMove → Prop
  | .replaceSet _ | .replaceReported | .reopenSet | .reopenTaken | .connected _ _ | .disconnected
  | .initFailed => False
  | _ => True

def KeepsWindow : ClientMove → Prop
  | .keep | .aside | .named | .queued => True
  | _ => False

theorem flags_of_core {s t : ClientContext} (same : ClientMove.core s = ClientMove.core t) :
    s.replaceFlags = t.replaceFlags :=
  (congrArg ClientContext.replaceFlags same :
    (ClientMove.core s).replaceFlags = (ClientMove.core t).replaceFlags)

theorem keepsFlags_plain (move : ClientMove) (plain : move.Plain) : KeepsFlags move := by
  cases move with
  | replaceSet | replaceReported | reopenSet | reopenTaken | connected | disconnected | initFailed =>
    exact plain
  | _ => trivial

section Takes
variable {label : ClientSection} {env : ClientEnv} {s s' : ClientContext} {move : ClientMove}

theorem takes_flags (takes : move.Takes label env s s') (keeps : KeepsFlags move) :
    s'.replaceFlags = s.replaceFlags := by
  cases move with
  | keep | windowClosed | guardCleared | retryTaken | discoveryStopped | registered | mtuReady
  | closing | handlesInvalidated | readyLost | dataSubscribed | authenticated =>
    cases takes
    rfl
  | named | enrollInit | notificationSubscribed => obtain ⟨_, rfl⟩ := takes; rfl
  | queued | «opened» | cccdFound | windowOpened | serviceFound | serviceChanged =>
    obtain ⟨_, _, rfl⟩ := takes
    rfl
  | handlesFound | subscribing => obtain ⟨_, _, _, rfl⟩ := takes; rfl
  | discoveryStarted => obtain ⟨_, _, _, _, rfl⟩ := takes; rfl
  | retryScheduled => obtain ⟨_, _, _, _, _, rfl⟩ := takes; rfl
  | aside => exact flags_of_core takes
  | bondsRead =>
    rcases takes with same | ⟨first, same⟩
    · exact (flags_of_core same).trans rfl
    · exact (flags_of_core same).trans rfl
  | deadlineChecked now =>
    cases takes
    unfold ClientContext.deadlineChecked
    dsimp only
    split <;> split <;> rfl
  | authFailed failReason failureAtMs missing =>
    cases takes
    unfold ClientContext.authFailed ClientContext.recordAuthFailureLocked
    extract_lets first before count counted
    split <;> rfl
  | replaceSet | replaceReported | reopenSet | reopenTaken | connected | disconnected | initFailed =>
    cases keeps

theorem takes_window (takes : move.Takes label env s s') (keeps : KeepsWindow move) :
    s'.enroll = s.enroll := by
  cases move with
  | keep => cases takes; rfl
  | named => obtain ⟨_, rfl⟩ := takes; rfl
  | queued => obtain ⟨_, _, rfl⟩ := takes; rfl
  | aside =>
    exact (congrArg ClientContext.enroll takes : (ClientMove.core s').enroll = (ClientMove.core s).enroll)
  | _ => cases keeps

end Takes

variable {A : ClientEnv → Prop}

theorem leads_flags {program : Client α} (h : Makes KeepsFlags program) (s : ClientContext) :
    Leads A (fun _ s' => s'.replaceFlags = s.replaceFlags) program s := by
  apply leads_of_always (R := fun s s' : ClientContext => s'.replaceFlags = s.replaceFlags)
    (fun _ => rfl) fun first second => second.trans first
  apply always_mono _ h
  rintro _ env s s' ⟨move, keeps, takes, _⟩ _
  exact takes_flags takes keeps

theorem leads_window {program : Client α} (h : Makes KeepsWindow program) (s : ClientContext) :
    Leads A (fun _ s' => s'.enroll = s.enroll) program s := by
  apply leads_of_always (R := fun s s' : ClientContext => s'.enroll = s.enroll)
    (fun _ => rfl) fun first second => second.trans first
  apply always_mono _ h
  rintro _ env s s' ⟨move, keeps, takes, _⟩ _
  exact takes_window takes keeps

def EmptyStore (requestedAt : Int) (env : ClientEnv) : Prop :=
  env.bondCount ≤ 0 ∧ (∀ list, env.bondList = some list → list = []) ∧ requestedAt ≤ env.nowMs

variable {requestedAt : Int}

theorem leads_sync_empty (empty : ∀ env, A env → EmptyStore requestedAt env) (s : ClientContext) :
    Leads A (fun count s' => s'.replaceFlags = s.replaceFlags ∧
      (count < 0 ∨ count = 0 ∧ s'.enroll.hasBond = false)) syncExistingBleBond s := by
  apply leads_then (leads_atomic (Q := fun count s' => count ≤ 0 ∧ s' = s)
    fun env meets => ⟨(empty env meets).1, rfl⟩)
  rintro bondCount s₁ ⟨none_, rfl⟩
  apply leads_atomic
  intro env meets
  extract_lets read
  have nothing : (∃ error, read = .error error) ∨ read = .ok [] := by
    simp only [read]
    split
    · exact .inl ⟨_, rfl⟩
    · rw [if_pos (by omega)]
      exact .inr rfl
  rcases nothing with ⟨error, same⟩ | same
  · rw [same]
    exact ⟨rfl, .inl (by simp)⟩
  · rw [same]
    exact ⟨rfl, .inr ⟨rfl, rfl⟩⟩

theorem leads_requestEnroll_empty (empty : ∀ env, A env → EmptyStore requestedAt env)
    (s : ClientContext) : Leads A (fun error s' => error = espOk → s'.windowFrom requestedAt = true)
      requestEnroll s := by
  apply leads_then (leads_atomic (Q := fun _ _ => True) fun _ _ => trivial)
  intro refused s₁ _
  split
  · exact fun no => absurd no (by decide)
  apply leads_then (leads_sync_empty empty s₁)
  rintro count s₂ ⟨_, negative | ⟨zero, free⟩⟩
  · rw [if_pos negative]
    exact fun no => absurd no (by decide)
  rw [if_neg (by omega), if_neg (by omega)]
  apply leads_then (leads_atomic (Q := fun now s' => requestedAt ≤ now ∧ s' = s₂)
    fun env meets => ⟨(empty env meets).2.2, rfl⟩)
  rintro now s₃ ⟨later, rfl⟩
  apply leads_then (leads_atomic (Q := fun opened s' => opened = true →
    s'.windowFrom requestedAt = true) ?_)
  · intro opened s₄ from_
    split
    · exact fun no => absurd no (by decide)
    · next notOpened =>
      have opened := from_ (by simpa using notOpened)
      apply leads_then (leads_window (makes_read trivial _) s₄)
      intro error s₅ same
      split
      · next failed =>
        apply leads_then (leads_atomic (Q := fun _ _ => True) fun _ _ => trivial)
        exact fun _ _ _ no => absurd no failed
      · apply leads_then (leads_window (makes_startAdvertising trivial trivial) s₅)
        rintro _ s₆ same' _
        rw [ClientContext.windowFrom, same', same]
        exact opened
  · intro env _
    split
    · exact fun no => absurd no (by simp)
    · intro _
      simp only [ClientContext.windowFrom, BleEnrollState.openWindow,
        ClientContext.clearAuthFailureGuardLocked, free]
      simpa using later

theorem leads_requestEnroll_pending {s : ClientContext} (pending : s.replacePending = true) :
    Leads A (fun error _ => error ≠ espOk) requestEnroll s := by
  apply leads_then (leads_atomic (Q := fun refused _ => refused = true) fun _ _ => by simp [pending])
  rintro refused s₁ rfl
  have invalid : espErrInvalidState ≠ espOk := by decide
  exact invalid

theorem leads_resetConnectionSession (s : ClientContext) :
    Leads A (fun _ s' => s'.replaceFlags = { s.replaceFlags with connected := false })
      resetConnectionSession s := by
  apply leads_then (leads_atomic (Q := fun _ s' =>
    s'.replaceFlags = { s.replaceFlags with connected := false }) fun _ _ => rfl)
  intro generation s₁ flags
  apply leads_then (leads_flags (makes_enqueueWork trivial _) s₁)
  exact fun _ s₂ kept => kept.trans flags

structure Disconnected (requestedAt : Int) (s s' : ClientContext) : Prop where
  flags : s'.replaceFlags =
    { pending := s.replacePending, reopen := false, connected := false, error := s'.lastReplaceError }
  unasked : s.reopenAfterDisconnect = false → s'.lastReplaceError = s.lastReplaceError
  refused : s.reopenAfterDisconnect = true → s.replacePending = true → s'.lastReplaceError ≠ espOk
  answered : s.reopenAfterDisconnect = true → s.replacePending = false →
    s'.lastReplaceError = espOk → s'.windowFrom requestedAt = true

theorem leads_disconnected {s : ClientContext} {connId : UInt16} {peer : BdAddr} (reason : Int)
    (matched : s.connected = true ∧ s.connId = connId ∧ s.remoteBda = peer)
    (empty : s.reopenAfterDisconnect = true → s.replacePending = false →
      ∀ env, A env → EmptyStore requestedAt env) :
    Leads A (fun _ s' => Disconnected requestedAt s s') (disconnectEvt connId peer reason) s := by
  apply leads_then (leads_atomic (Q := fun matched s' => matched = true ∧ s' = s)
    fun _ _ => ⟨by simp [matched], rfl⟩)
  rintro _ s₁ ⟨rfl, rfl⟩
  rw [if_pos rfl]
  apply leads_then (leads_atomic (Q := fun _ s' => s'.replaceFlags = s₁.replaceFlags) fun _ _ => rfl)
  intro _ s₂ flags₂
  apply leads_then (leads_resetConnectionSession s₂)
  intro _ s₃ flags₃
  apply leads_then (leads_flags (makes_transition keepsFlags_plain trivial _) s₃)
  intro _ s₄ flags₄
  rw [flags₃, flags₂] at flags₄
  have reopen : s₄.reopenAfterDisconnect = s₁.reopenAfterDisconnect :=
    congrArg ClientContext.ReplaceFlags.reopen flags₄
  apply leads_then (leads_atomic (Q := fun reopens s' => reopens = s₄.reopenAfterDisconnect ∧
    s'.replaceFlags = { s₄.replaceFlags with reopen := false }) fun _ _ => ⟨rfl, rfl⟩)
  rintro _ s₅ ⟨rfl, flags₅⟩
  rw [flags₄] at flags₅
  have pending : s₅.replacePending = s₁.replacePending :=
    congrArg ClientContext.ReplaceFlags.pending flags₅
  rw [reopen]
  split
  · next asked =>
    have answered : Leads A (fun error s' => s₁.replacePending = false → error = espOk →
        s'.windowFrom requestedAt = true) requestEnroll s₅ := by
      cases pending₁ : s₁.replacePending with
      | true => exact leads_mono (leads_flags (makes_requestEnroll keepsFlags_plain fun _ => trivial) s₅) fun _ _ _ => by simp
      | false =>
        apply leads_mono (leads_requestEnroll_empty (empty asked pending₁) s₅)
        exact fun _ _ opened _ => opened
    have refused : Leads A (fun error _ => s₁.replacePending = true → error ≠ espOk) requestEnroll s₅ := by
      cases pending₁ : s₁.replacePending with
      | true =>
        apply leads_mono (leads_requestEnroll_pending (pending.trans pending₁))
        exact fun _ _ refused _ => refused
      | false => exact leads_mono (leads_flags (makes_requestEnroll keepsFlags_plain fun _ => trivial) s₅) fun _ _ _ => by simp
    apply leads_then (leads_and (leads_flags (makes_requestEnroll keepsFlags_plain fun _ => trivial) s₅) (leads_and answered refused))
    rintro error s₆ ⟨flags₆, answered, refused⟩
    rw [flags₅] at flags₆
    apply leads_atomic
    intro env _
    refine ⟨?_, ?_, fun _ => refused, fun _ => answered⟩
    · exact congrArg (fun flags => { flags with error := error }) flags₆
    · exact fun unasked => absurd asked (by simp [unasked])
  · next unasked =>
    apply leads_mono (leads_flags (makes_scheduleAdvertisingRetry trivial) s₅)
    intro _ s₆ flags₆
    rw [flags₅] at flags₆
    have error : s₆.lastReplaceError = s₁.lastReplaceError :=
      congrArg ClientContext.ReplaceFlags.error flags₆
    exact ⟨flags₆.trans (by rw [error]; rfl), fun _ => error, fun asked => absurd asked unasked,
      fun asked => absurd asked unasked⟩

theorem leads_gattc_disconnect (maxFragmentSize : Nat) (s : ClientContext) (gattcIf : Option Nat)
    (connId : UInt16) (peer : BdAddr) (reason : Int)
    (empty : s.Disconnects gattcIf connId peer → s.reopenAfterDisconnect = true →
      s.replacePending = false → ∀ env, A env → EmptyStore requestedAt env) :
    Leads A (fun _ s' => s' = s ∨ s.Disconnects gattcIf connId peer ∧ Disconnected requestedAt s s')
      (gattcCallback maxFragmentSize gattcIf (.disconnect connId peer reason)) s := by
  unfold gattcCallback
  rw [if_neg (by simp), if_pos (by simp)]
  apply leads_then (leads_atomic (Q := fun registered s' => registered = s.gattcIf ∧ s' = s)
    fun _ _ => ⟨rfl, rfl⟩)
  rintro _ s₁ ⟨rfl, rfl⟩
  split
  · next ours =>
    by_cases matched : s₁.connected = true ∧ s₁.connId = connId ∧ s₁.remoteBda = peer
    · apply leads_mono (leads_disconnected reason matched (empty ⟨ours, matched⟩))
      exact fun _ s' ends => .inr ⟨⟨ours, matched⟩, ends⟩
    · apply leads_then (leads_atomic (Q := fun matched s' => matched = false ∧ s' = s₁) ?_)
      · rintro _ s₂ ⟨rfl, rfl⟩
        exact .inl rfl
      · intro _ _
        refine ⟨?_, rfl⟩
        simpa [and_assoc] using matched
  · exact .inl rfl

theorem leads_removed_failure (s : ClientContext) :
    Leads A (fun _ s' => s'.replaceFlags =
      { s.replaceFlags with pending := false, error := espFail })
      (gapEventHandler (.removeBondDevComplete false)) s := by
  apply leads_then (leads_atomic (Q := fun _ s' => s'.replaceFlags =
    { s.replaceFlags with pending := false, error := espFail }) fun _ _ => rfl)
  intro _ s₁ flags₁
  apply leads_then (leads_flags (makes_syncExistingBleBond keepsFlags_plain) s₁)
  intro remaining s₂ flags₂
  split
  · apply leads_mono (leads_flags (makes_startAdvertising trivial trivial) s₂)
    exact fun _ s₃ flags₃ => flags₃.trans (flags₂.trans flags₁)
  · exact flags₂.trans flags₁

theorem leads_openReplacementWindow_empty (empty : ∀ env, A env → EmptyStore requestedAt env)
    (s : ClientContext) : Leads A (fun error s' => ∃ reopen,
      s'.replaceFlags = { s.replaceFlags with reopen } ∧
        (error = espOk → s'.windowFrom requestedAt = true ∨ s'.awaitsDisconnect = true))
      openReplacementWindow s := by
  apply leads_then (leads_atomic (Q := fun connected s' => connected = s.connected ∧
    s' = if s.connected then { s with reopenAfterDisconnect := true } else s) fun _ _ => ⟨rfl, rfl⟩)
  rintro connected s₁ ⟨rfl, rfl⟩
  split
  · next linked =>
    refine ⟨true, rfl, fun _ => .inr ?_⟩
    simpa [ClientContext.awaitsDisconnect] using linked
  · apply leads_mono (leads_and (leads_flags (makes_requestEnroll keepsFlags_plain fun _ => trivial) s)
      (leads_requestEnroll_empty empty s))
    rintro error s₂ ⟨flags, opened⟩
    exact ⟨s.reopenAfterDisconnect, flags, fun ok => .inl (opened ok)⟩

structure Removed (requestedAt : Int) (count : Int) (s s' : ClientContext) : Prop where
  more : count ≠ 0 → s'.replaceFlags = s.replaceFlags
  none : count = 0 → s'.replacePending = false
  stays : count = 0 → s.replacePending = false →
    s'.replaceFlags = { s.replaceFlags with error := espOk }
  opens : count = 0 → s.replacePending = true → s'.lastReplaceError = espOk →
    s'.windowFrom requestedAt = true ∨ s'.awaitsDisconnect = true

def removedWith (remaining : Int) : Client Unit := do
  let shouldOpen ← section_ fun _ s =>
    if remaining = 0 then
      (s.replacePending, { s with replacePending := false, lastReplaceError := espOk })
    else (false, s)
  if shouldOpen then do
    let enrollError ← openReplacementWindow
    if enrollError ≠ espOk then update fun _ s => { s with lastReplaceError := enrollError }

theorem leads_removedWith {remaining : Int}
    (empty : remaining = 0 → ∀ env, A env → EmptyStore requestedAt env) (s : ClientContext) :
    Leads A (fun _ s' => Removed requestedAt remaining s s') (removedWith remaining) s := by
  by_cases none_ : remaining = 0
  · apply leads_then (leads_atomic (Q := fun shouldOpen s' => shouldOpen = s.replacePending ∧
      s'.replaceFlags = { s.replaceFlags with pending := false, error := espOk }) ?_)
    · rintro _ s₁ ⟨rfl, flags₁⟩
      cases pending : s.replacePending with
      | false =>
        exact ⟨fun more => absurd none_ more, fun _ => congrArg ClientContext.ReplaceFlags.pending flags₁,
          fun _ _ => flags₁.trans (by simp [ClientContext.replaceFlags, pending]),
          fun _ no => absurd no (by simp [pending])⟩
      | true =>
        rw [if_pos rfl]
        apply leads_then (leads_openReplacementWindow_empty (empty none_) s₁)
        rintro error s₂ ⟨reopen, flags₂, opens⟩
        rw [flags₁] at flags₂
        have taken : s₂.replacePending = false := congrArg ClientContext.ReplaceFlags.pending flags₂
        split
        · next failed =>
          apply leads_atomic
          intro _ _
          exact ⟨fun more => absurd none_ more, fun _ => taken, fun _ no => absurd no (by simp [pending]),
            fun _ _ no => absurd no failed⟩
        · next ok =>
          exact ⟨fun more => absurd none_ more, fun _ => taken, fun _ no => absurd no (by simp [pending]),
            fun _ _ _ => opens (by simpa using ok)⟩
    · intro _ _
      rw [if_pos none_]
      exact ⟨rfl, rfl⟩
  · apply leads_then (leads_atomic (Q := fun shouldOpen s' => shouldOpen = false ∧ s' = s) ?_)
    · rintro _ s₁ ⟨rfl, rfl⟩
      exact ⟨fun _ => rfl, fun no => absurd no none_, fun no => absurd no none_, fun no => absurd no none_⟩
    · intro _ _
      rw [if_neg none_]
      exact ⟨rfl, rfl⟩

end Client

namespace StackTurn
variable {requestedAt : Int}

theorem empty_later (turn : StackTurn) {k : Nat} (empty : turn.bonds k = []) (j : Nat) :
    turn.bonds (k + j) = [] := by
  induction j with
  | zero => exact empty
  | succ j ih => exact List.subset_nil.mp (ih ▸ turn.shrinks (k + j))

theorem left_of_empty (turn : StackTurn) {k : Nat} (empty : turn.bonds k = []) : turn.left = [] :=
  List.subset_nil.mp (empty ▸ turn.leaves k)

theorem emptyStore (turn : StackTurn) (clock : ∀ k, requestedAt ≤ (turn.answers k).nowMs) {k : Nat}
    (empty : turn.bonds k = []) (j : Nat) : EmptyStore requestedAt (turn.answers (k + j)) := by
  have none_ := turn.empty_later empty j
  obtain ⟨count, list⟩ := turn.honest (k + j)
  refine ⟨?_, fun found read => (list found read).trans none_, clock _⟩
  rw [none_, List.length_nil] at count
  by_contra positive
  have zero := count (by omega)
  exact absurd zero (by omega)

theorem finish_sync {β : Type} (turn : StackTurn) (rest : Int → Client β) (s : ClientContext) :
    ∃ count s', (syncExistingBleBond >>= rest).finish turn.answers s =
        (rest count).finish (fun k => turn.answers (k + 2)) s' ∧
      s'.replaceFlags = s.replaceFlags ∧
      (count = 0 → 0 ≤ (turn.answers 0).bondCount ∧ turn.bonds 1 = []) ∧
      (turn.bonds 0 = [] → 0 ≤ (turn.answers 0).bondCount → count = 0) := by
  refine ⟨(syncExistingBleBond.finish turn.answers s).1, (syncExistingBleBond.finish turn.answers s).2,
    rfl, ?_, ?_, ?_⟩
  · exact leads_finish (A := fun _ => True) (leads_flags (makes_syncExistingBleBond keepsFlags_plain) s)
      fun _ => trivial
  all_goals
    obtain ⟨length, _⟩ := turn.honest 0
    rw [syncExistingBleBond, currentBondCount, query, finish_atomic_bind]
    dsimp only [finish, section_, atomic]
    generalize (turn.answers 0).bondCount = bondCount at length ⊢
  · rcases lt_trichotomy bondCount 0 with negative | rfl | positive
    · rw [if_pos negative]
      exact fun no => absurd no (by simp)
    · intro _
      have empty : turn.bonds 0 = [] := List.length_eq_zero_iff.mp (by simpa using (length le_rfl).symm)
      exact ⟨le_rfl, turn.empty_later empty 1⟩
    · rw [if_neg (by omega), if_neg (by omega)]
      intro none_
      refine ⟨positive.le, ?_⟩
      cases read : (turn.answers 1).bondList with
      | none => simp [read] at none_
      | some list =>
        rw [← (turn.honest 1).2 list read]
        cases list with
        | nil => rfl
        | cons first rest =>
          simp only [read] at none_
          omega
  · intro empty counted
    have zero := length counted
    rw [empty] at zero
    cases zero
    rfl

structure Requested (requestedAt : Int) (turn : StackTurn) (before s : ClientContext) : Prop where
  error : s.lastReplaceError = espOk
  emptied : s.replacePending = false → turn.left = []
  settled : s.replacePending = true ∧ turn.bonds 0 ≠ [] ∨ s.windowFrom requestedAt = true ∨
    s.awaitsDisconnect = true

variable {turn : StackTurn} {before : ClientContext}

theorem along_removeAllBleBonds (answers : Nat → ClientEnv) (s : ClientContext) :
    Along (fun error s' later => error = espOk →
        s'.replaceFlags = s.replaceFlags ∧ later = fun k => answers (k + 2))
      removeAllBleBonds answers s := by
  unfold removeAllBleBonds
  apply along_bind
  change Along _ (if (answers 0).bondCount < 0 then _ else _) _ s
  split
  · have fails : espFail ≠ espOk := by decide
    exact fun no => absurd no fails
  split
  · exact fun _ => ⟨rfl, rfl⟩
  · exact fun _ => ⟨rfl, rfl⟩

theorem leads_returns {A : ClientEnv → Prop} (error : Int) (s : ClientContext) :
    Leads A (fun value _ => value = error) (do
      update fun _ s => { s with replacePending := false, lastReplaceError := error }
      let remaining ← syncExistingBleBond
      if 0 < remaining then startAdvertising
      return error : Client Int) s := by
  apply leads_then (leads_atomic (Q := fun _ _ => True) fun _ _ => trivial)
  intro _ s₁ _
  apply leads_then (leads_flags (makes_syncExistingBleBond keepsFlags_plain) s₁)
  intro remaining s₂ _
  split
  · apply leads_then (leads_window (makes_startAdvertising trivial trivial) s₂)
    exact fun _ _ _ => rfl
  · exact rfl

theorem leads_opens {A : ClientEnv → Prop} (empty : ∀ env, A env → EmptyStore requestedAt env)
    (gone : turn.left = []) (s : ClientContext) :
    Leads A (fun value s' => value = espOk → Requested requestedAt turn before s') (do
      update fun _ s => { s with replacePending := false }
      let enrollError ← openReplacementWindow
      update fun _ s => { s with lastReplaceError := enrollError }
      return enrollError : Client Int) s := by
  apply leads_then (leads_atomic (Q := fun _ s' => s'.replacePending = false) fun _ _ => rfl)
  intro _ s₁ _
  apply leads_then (leads_openReplacementWindow_empty empty s₁)
  rintro error s₂ ⟨reopen, _, opens⟩
  apply leads_then (leads_atomic (Q := fun _ s' => s' = { s₂ with lastReplaceError := error })
    fun _ _ => rfl)
  rintro _ s₃ rfl ok
  exact ⟨ok, fun _ => gone, .inr (opens ok)⟩

theorem along_replaceEnrollment (clock : ∀ k, requestedAt ≤ (turn.answers k).nowMs)
    (issued : ∀ k ≤ Replacement.issuing, turn.bonds k = turn.bonds 0)
    (counted : Replacement.Counted before turn) :
    Along (fun error s _ => error = espOk → Requested requestedAt turn before s)
      (replaceEnrollment true) turn.answers before := by
  have invalid : espErrInvalidState ≠ espOk := by decide
  have fails : espFail ≠ espOk := by decide
  unfold replaceEnrollment
  apply along_bind
  change Along _ (if !before.initialized then _ else _) _ before
  split
  · exact fun no => absurd no invalid
  rw [if_neg (by simp)]
  apply along_bind
  apply along_bind
  apply along_bind
  change Along _ (if (turn.answers 2).bondCount < 0 then _ else _) _ _
  split
  · exact fun no => absurd no fails
  next readable =>
  apply along_bind
  apply along_bind
  apply along_bind
  refine along_mono (along_removeAllBleBonds _ _) ?_
  intro error s later issues
  split
  · next failed =>
    apply along_mono (along_of_leads (A := fun _ => True) (leads_returns error s) fun _ => trivial)
    intro value _ _ same ok
    exact absurd (same.symm.trans ok) failed
  · next ok =>
    obtain ⟨issued_, rfl⟩ := issues (by simpa using ok)
    have flags : s.replaceFlags = { before.replaceFlags with
        pending := decide (0 < (turn.answers 2).bondCount), error := espOk } := issued_
    have pending : s.replacePending = decide (0 < (turn.answers 2).bondCount) :=
      congrArg ClientContext.ReplaceFlags.pending flags
    apply along_bind
    change Along _ (if (turn.answers 8).bondCount = 0 then _ else _) _ s
    split
    · next none_ =>
      have empty : turn.bonds 8 = [] :=
        List.length_eq_zero_iff.mp (by simpa [none_] using ((turn.honest 8).1 none_.ge).symm)
      apply along_of_leads (leads_opens (fun _ => id) (turn.left_of_empty empty) s)
      intro k
      have later := turn.emptyStore clock empty (k + 1)
      rw [Nat.add_comm] at later
      exact later
    · next more =>
      have same : turn.bonds 2 = turn.bonds 0 := issued 2 (by decide)
      have count : (turn.answers 2).bondCount = (turn.bonds 0).length :=
        same ▸ (turn.honest 2).1 (not_lt.mp readable)
      intro _
      refine ⟨congrArg ClientContext.ReplaceFlags.error flags, ?_, ?_⟩
      · intro none_
        rw [pending, decide_eq_false_iff_not, count, Int.natCast_pos, List.length_pos_iff, not_not] at none_
        exact turn.left_of_empty none_
      · cases bonds : turn.bonds 0 with
        | cons peer rest =>
          refine .inl ⟨?_, by simp⟩
          rw [pending, count, bonds]
          simp
        | nil =>
          refine .inr (.inr ?_)
          have awaits : s.awaitsDisconnect = before.awaitsDisconnect :=
            congrArg (fun flags : ClientContext.ReplaceFlags => flags.reopen && flags.connected) flags
          by_contra unawaited
          have readable := counted bonds (by simpa [awaits] using unawaited)
          have length := (turn.honest 8).1 readable
          rw [turn.empty_later bonds 8] at length
          exact more length

end StackTurn

namespace Replacement

/-- What holds of a replacement under way. With no failure, a pending replacement has an event
    to come, or it is over as it should be, or a disconnect is to open the window. -/
structure Invariant (r : Replacement) : Prop where
  placed : ∀ peer ∈ r.failed, peer ∈ r.bonds ∧ peer ∉ r.outstanding
  removing : r.failed = ∅ → ∀ peer ∈ r.bonds, peer ∈ r.outstanding
  reported : r.failed.Nonempty → r.client.replacePending = false ∧ r.client.lastReplaceError ≠ espOk
  emptied : r.failed = ∅ → r.client.replacePending = false → r.bonds = []
  settles : r.failed = ∅ → r.client.replacePending = true ∧ r.outstanding ≠ ∅ ∨
    r.windowOpened = true ∨ r.client.lastReplaceError ≠ espOk ∨ r.client.awaitsDisconnect = true

theorem ends_of_invariant {r : Replacement} (inv : r.Invariant) : r.Ends := by
  refine ⟨?_, inv.reported⟩
  intro empty apart done
  have clean : r.failed = ∅ := by
    by_contra failed
    obtain ⟨peer, member⟩ := Finset.nonempty_iff_ne_empty.mpr failed
    exact absurd (inv.placed peer member).1 (by simp [empty])
  rcases inv.settles clean with ⟨_, more⟩ | opened | error | awaits
  · exact absurd done more
  · exact .inl opened
  · exact .inr error
  · exact absurd awaits (by simp [ClientContext.awaitsDisconnect, apart])

theorem invariant_requested {before : ClientContext} {turn : StackTurn} {requestedAt : Int}
    (clock : ∀ k, requestedAt ≤ (turn.answers k).nowMs)
    (issued : ∀ k ≤ issuing, turn.bonds k = turn.bonds 0)
    (returned : ((replaceEnrollment true).finish turn.answers before).1 = espOk)
    (counted : Counted before turn) : (requested before turn requestedAt).Invariant := by
  obtain ⟨_, requested⟩ := along_finish (turn.along_replaceEnrollment clock issued counted)
  obtain ⟨error, emptied, settled⟩ := requested returned
  refine ⟨?_, ?_, ?_, fun _ => emptied, ?_⟩
  · intro peer member
    exact absurd member (Finset.notMem_empty peer)
  · intro _ peer member
    exact List.mem_toFinset.mpr (turn.leaves 0 member)
  · intro failed
    exact absurd failed Finset.not_nonempty_empty
  · intro _
    rcases settled with ⟨pending, bonds⟩ | opened | awaits
    · exact .inl ⟨pending, by simpa [Replacement.requested] using bonds⟩
    · exact .inr (.inl opened)
    · exact .inr (.inr (.inr awaits))

variable {config : ClientConfig} {r : Replacement} {turn : ReplacementTurn}

theorem stays_left (inv : r.Invariant) (possible : Possible r turn) {peer : BdAddr}
    (failed : peer ∈ r.failed) : peer ∈ turn.left := by
  by_contra gone
  obtain ⟨placed, apart⟩ := inv.placed peer failed
  exact apart (possible.gone peer placed gone)

theorem left_subset (possible : Possible r turn) : turn.left ⊆ r.bonds :=
  fun _ member => possible.store (turn.leaves 0 member)

theorem left_of_emptied (possible : Possible r turn) (empty : r.bonds = []) : turn.left = [] :=
  List.subset_nil.mp (empty ▸ left_subset possible)

theorem after_disconnect (config : ClientConfig) (inv : r.Invariant) (possible : Possible r turn)
    {gattcIf : Option Nat} {connId : UInt16} {peer : BdAddr} {reason : Int}
    (event : turn.event = .disconnect gattcIf connId peer reason) (spared : Spared r turn) :
    (step config r turn).client = r.client ∨ r.client.Disconnects gattcIf connId peer ∧
      Disconnected r.requestedAt r.client (step config r turn).client := by
  simp only [step, event, ReplacementEvent.call, runAlone, ClientCall.body]
  apply leads_finish (leads_gattc_disconnect config.maxFragmentSize r.client gattcIf connId peer reason
    (A := fun env => r.client.Disconnects gattcIf connId peer → r.client.reopenAfterDisconnect = true →
      r.client.replacePending = false → EmptyStore r.requestedAt env)
    fun matched asked taken env empty => empty matched asked taken)
  intro k matched asked taken
  have clean : r.failed = ∅ := by
    by_contra failed
    simp only [Spared, event] at spared
    exact absurd asked (by simp [spared matched (Finset.nonempty_iff_ne_empty.mpr failed)])
  have empty : turn.bonds 0 = [] := List.subset_nil.mp (inv.emptied clean taken ▸ possible.store)
  simpa using turn.emptyStore possible.clock empty k

theorem invariant_disconnect (inv : r.Invariant) (possible : Possible r turn)
    {gattcIf : Option Nat} {connId : UInt16} {peer : BdAddr} {reason : Int}
    (event : turn.event = .disconnect gattcIf connId peer reason) (spared : Spared r turn) :
    (step config r turn).Invariant := by
  have outstanding : (step config r turn).outstanding = r.outstanding := by
    simp [step, event, ReplacementEvent.outstanding]
  have failed : (step config r turn).failed = r.failed := by
    simp [step, event, ReplacementEvent.failed]
  have client := after_disconnect config inv possible event spared
  have pending : (step config r turn).client.replacePending = r.client.replacePending := by
    rcases client with same | ⟨_, ends⟩
    · rw [same]
    · exact congrArg ClientContext.ReplaceFlags.pending ends.flags
  refine ⟨?_, ?_, ?_, ?_, ?_⟩
  · rw [failed, outstanding]
    exact fun other member => ⟨stays_left inv possible member, (inv.placed other member).2⟩
  · rw [failed, outstanding]
    exact fun clean other member => inv.removing clean other (left_subset possible member)
  · rw [failed, pending]
    intro some_
    refine ⟨(inv.reported some_).1, ?_⟩
    rcases client with same | ⟨matched, ends⟩
    · rw [same]
      exact (inv.reported some_).2
    · simp only [Spared, event] at spared
      rw [ends.unasked (spared matched some_)]
      exact (inv.reported some_).2
  · rw [failed, pending]
    exact fun clean taken => left_of_emptied possible (inv.emptied clean taken)
  · rw [failed, pending, outstanding]
    intro clean
    rcases client with same | ⟨_, ends⟩
    · rw [same]
      exact (inv.settles clean).imp id (Or.imp_left fun opened => by simp [step, opened])
    · cases asked : r.client.reopenAfterDisconnect with
      | false =>
        rw [ends.unasked asked]
        rcases inv.settles clean with more | opened | error | awaits
        · exact .inl more
        · exact .inr (.inl (by simp [step, opened]))
        · exact .inr (.inr (.inl error))
        · exact absurd awaits (by simp [ClientContext.awaitsDisconnect, asked])
      | true =>
        by_cases ok : (step config r turn).client.lastReplaceError = espOk
        · cases taken : r.client.replacePending with
          | true => exact absurd ok (ends.refused asked taken)
          | false =>
            have opened : (step config r turn).windowOpened = true := by
              simp only [step, Bool.or_eq_true]
              exact .inr (ends.answered asked taken ok)
            exact .inr (.inl opened)
        · exact .inr (.inr (.inl ok))

theorem after_removed (config : ClientConfig) (possible : Possible r turn) {peer : BdAddr}
    (event : turn.event = .removed peer true) :
    ∃ count s, s.replaceFlags = r.client.replaceFlags ∧
      Removed r.requestedAt count s (step config r turn).client ∧
      (count = 0 → 0 ≤ (turn.answers 0).bondCount ∧ turn.bonds 1 = []) ∧
      (turn.bonds 0 = [] → 0 ≤ (turn.answers 0).bondCount → count = 0) := by
  obtain ⟨count, s, finishes, flags, reads, counts⟩ := turn.finish_sync removedWith r.client
  refine ⟨count, s, flags, ?_, reads, counts⟩
  have body : (step config r turn).client = ((removedWith count).finish
      (fun k => turn.answers (k + 2)) s).2 := by
    rw [← finishes]
    simp only [step, event, ReplacementEvent.call, runAlone, ClientCall.body]
    rfl
  rw [body]
  apply leads_finish (leads_removedWith (A := fun env => count = 0 → EmptyStore r.requestedAt env)
    (fun none_ env empty => empty none_) s)
  intro k none_
  have later := turn.emptyStore possible.clock (reads none_).2 (k + 1)
  rw [Nat.add_comm] at later
  exact later

theorem settles_more (inv : r.Invariant) (possible : Possible r turn) (clean : r.failed = ∅)
    {peer : BdAddr} (event : turn.event = .removed peer true) (spared : Spared r turn) {count : Int}
    (more : count ≠ 0)
    (same : (step config r turn).client.replaceFlags = r.client.replaceFlags)
    (counts : turn.bonds 0 = [] → 0 ≤ (turn.answers 0).bondCount → count = 0) :
    (step config r turn).client.replacePending = true ∧ r.outstanding.erase peer ≠ ∅ ∨
      (step config r turn).windowOpened = true ∨
      (step config r turn).client.lastReplaceError ≠ espOk ∨
      (step config r turn).client.awaitsDisconnect = true := by
  have pending : (step config r turn).client.replacePending = r.client.replacePending :=
    congrArg ClientContext.ReplaceFlags.pending same
  have error : (step config r turn).client.lastReplaceError = r.client.lastReplaceError :=
    congrArg ClientContext.ReplaceFlags.error same
  have awaits : (step config r turn).client.awaitsDisconnect = r.client.awaitsDisconnect :=
    congrArg (fun flags : ClientContext.ReplaceFlags => flags.reopen && flags.connected) same
  have opened (opened : r.windowOpened = true) : (step config r turn).windowOpened = true := by
    simp [step, opened]
  rw [pending, error, awaits]
  rcases inv.settles clean with ⟨taken, _⟩ | settled
  · by_cases last : r.outstanding = {peer}
    · right
      by_contra unsettled
      simp only [not_or, not_not, Bool.not_eq_true] at unsettled
      obtain ⟨unopened, ok, unawaited⟩ := unsettled
      have readable : 0 ≤ (turn.answers 0).bondCount := by
        simp only [Spared, event] at spared
        refine spared.1 last taken ok ⟨?_, unawaited⟩
        by_contra still
        exact absurd (opened (by simpa using still)) (by simp [unopened])
      refine more (counts ?_ readable)
      apply List.eq_nil_iff_forall_not_mem.mpr
      intro other stays
      have other_ := inv.removing clean other (possible.store stays)
      rw [last, Finset.mem_singleton] at other_
      obtain ⟨_, gone⟩ := possible.reports peer true event
      exact gone (other_ ▸ stays)
    · refine .inl ⟨taken, ?_⟩
      rw [ne_eq, Finset.erase_eq_empty_iff, not_or]
      exact ⟨Finset.ne_empty_of_mem (possible.reports peer true event).1, last⟩
  · exact .inr (settled.imp_left opened)

/-- A success that finds the store empty has opened the window, or is to open it after the
    disconnect, or leaves the error of the attempt. -/
theorem settles_empty (inv : r.Invariant) (clean : r.failed = ∅) {peer : BdAddr}
    (event : turn.event = .removed peer true) (spared : Spared r turn)
    (readable : 0 ≤ (turn.answers 0).bondCount) {count : Int} (none_ : count = 0)
    {s : ClientContext} (flags : s.replaceFlags = r.client.replaceFlags)
    (ends : Removed r.requestedAt count s (step config r turn).client) :
    (step config r turn).windowOpened = true ∨
      (step config r turn).client.lastReplaceError ≠ espOk ∨
      (step config r turn).client.awaitsDisconnect = true := by
  have pending : s.replacePending = r.client.replacePending :=
    congrArg ClientContext.ReplaceFlags.pending flags
  cases taken : r.client.replacePending with
  | true =>
    by_cases ok : (step config r turn).client.lastReplaceError = espOk
    · rcases ends.opens none_ (pending.trans taken) ok with opened | awaits
      · refine .inl ?_
        simp only [step, Bool.or_eq_true]
        exact .inr opened
      · exact .inr (.inr awaits)
    · exact .inr (.inl ok)
  | false =>
    have same := ends.stays none_ (pending.trans taken)
    rw [flags] at same
    have awaits : (step config r turn).client.awaitsDisconnect = r.client.awaitsDisconnect :=
      congrArg (fun flags : ClientContext.ReplaceFlags => flags.reopen && flags.connected) same
    rw [awaits]
    by_contra unsettled
    simp only [not_or, Bool.not_eq_true] at unsettled
    obtain ⟨unopened, _, unawaited⟩ := unsettled
    have unopened' : r.windowOpened = false := by
      simp only [step, Bool.or_eq_false_iff] at unopened
      exact unopened.1
    rcases inv.settles clean with ⟨pending_, _⟩ | opened | error | awaits_
    · exact absurd pending_ (by simp [taken])
    · exact absurd opened (by simp [unopened'])
    · simp only [Spared, event] at spared
      have unreadable := spared.2 clean taken error ⟨unopened', unawaited⟩
      omega
    · exact absurd awaits_ (by simp [unawaited])

theorem invariant_removed (inv : r.Invariant) (possible : Possible r turn) {peer : BdAddr}
    (event : turn.event = .removed peer true) (spared : Spared r turn) :
    (step config r turn).Invariant := by
  have outstanding : (step config r turn).outstanding = r.outstanding.erase peer := by
    simp [step, event, ReplacementEvent.outstanding]
  have failed : (step config r turn).failed = r.failed := by
    simp [step, event, ReplacementEvent.failed]
  obtain ⟨member, gone⟩ := possible.reports peer true event
  rw [if_pos rfl] at gone
  obtain ⟨count, s, flags, ends, reads, counts⟩ := after_removed config possible event
  have pending : s.replacePending = r.client.replacePending :=
    congrArg ClientContext.ReplaceFlags.pending flags
  have empty (none_ : count = 0) : turn.left = [] := turn.left_of_empty (reads none_).2
  refine ⟨?_, ?_, ?_, ?_, ?_⟩
  · rw [failed, outstanding]
    exact fun other member => ⟨stays_left inv possible member,
      fun still => (inv.placed other member).2 (Finset.mem_of_mem_erase still)⟩
  · rw [failed, outstanding]
    intro clean other stays
    have other_ : other ≠ peer := by
      rintro rfl
      exact gone (turn.leaves 0 stays)
    exact Finset.mem_erase.mpr ⟨other_, inv.removing clean other (left_subset possible stays)⟩
  · rw [failed]
    rintro ⟨other, failed⟩
    have some_ : count ≠ 0 := by
      intro none_
      have stays := stays_left inv possible failed
      exact absurd stays (by simp [empty none_])
    have same := (ends.more some_).trans flags
    have pending' := congrArg ClientContext.ReplaceFlags.pending same
    have error' := congrArg ClientContext.ReplaceFlags.error same
    exact ⟨pending'.trans (inv.reported ⟨other, failed⟩).1,
      fun ok => (inv.reported ⟨other, failed⟩).2 (error'.symm.trans ok)⟩
  · rw [failed]
    intro clean taken
    by_cases none_ : count = 0
    · exact empty none_
    · have pending' := congrArg ClientContext.ReplaceFlags.pending ((ends.more none_).trans flags)
      exact left_of_emptied possible (inv.emptied clean (pending'.symm.trans taken))
  · rw [failed, outstanding]
    intro clean
    by_cases none_ : count = 0
    · exact .inr (settles_empty inv clean event spared (reads none_).1 none_ flags ends)
    · exact settles_more inv possible clean event spared none_ ((ends.more none_).trans flags) counts

theorem invariant_failed (inv : r.Invariant) (possible : Possible r turn) {peer : BdAddr}
    (event : turn.event = .removed peer false) : (step config r turn).Invariant := by
  have flags : (step config r turn).client.replaceFlags =
      { r.client.replaceFlags with pending := false, error := espFail } := by
    simp only [step, event, ReplacementEvent.call, runAlone, ClientCall.body]
    exact leads_finish (A := fun _ => True) (leads_removed_failure r.client) fun _ => trivial
  have failed : (step config r turn).failed = insert peer r.failed := by
    simp [step, event, ReplacementEvent.failed]
  have nonempty : (step config r turn).failed ≠ ∅ := failed ▸ Finset.insert_ne_empty peer r.failed
  obtain ⟨_, stays⟩ := possible.reports peer false event
  refine ⟨?_, fun no => absurd no nonempty, ?_, fun no => absurd no nonempty, fun no => absurd no nonempty⟩
  · intro other member
    have outstanding : (step config r turn).outstanding = r.outstanding.erase peer := by
      simp [step, event, ReplacementEvent.outstanding]
    rw [outstanding]
    rcases Finset.mem_insert.mp (failed ▸ member) with rfl | old
    · exact ⟨stays, Finset.notMem_erase other r.outstanding⟩
    · exact ⟨stays_left inv possible old,
        fun still => (inv.placed other old).2 (Finset.mem_of_mem_erase still)⟩
  · intro _
    refine ⟨congrArg ClientContext.ReplaceFlags.pending flags, ?_⟩
    have error : (step config r turn).client.lastReplaceError = espFail :=
      congrArg ClientContext.ReplaceFlags.error flags
    rw [error]
    decide

theorem invariant_step (inv : r.Invariant) (possible : Possible r turn) (spared : Spared r turn) :
    (step config r turn).Invariant := by
  cases event : turn.event with
  | disconnect gattcIf connId peer reason => exact invariant_disconnect inv possible event spared
  | removed peer success =>
    cases success with
    | true => exact invariant_removed inv possible event spared
    | false => exact invariant_failed inv possible event

def still (store : List BdAddr) : StackTurn where
  answers _ := { bondCount := store.length, bondList := some store }
  bonds _ := store
  left := store
  honest _ := ⟨fun _ => rfl, fun _ read => (Option.some.inj read).symm⟩
  shrinks _ := List.Subset.refl store
  leaves _ := List.Subset.refl store

theorem possible_still {r : Replacement} {store : List BdAddr} {event : ReplacementEvent}
    (subset : store ⊆ r.bonds) (gone : ∀ peer ∈ r.bonds, peer ∉ store → peer ∈ r.outstanding)
    (clock : r.requestedAt ≤ 0) (reports : ∀ peer success, event = .removed peer success →
      peer ∈ r.outstanding ∧ (if success then peer ∉ store else peer ∈ store)) :
    Possible r { still store with event } :=
  ⟨subset, gone, fun _ => clock, reports⟩

def sampleConfig : ClientConfig where
  enroll := { windowMs := 120000, bootHoldMs := 3000, buttonDebounceMs := 20 }
  workQueueLength := 8
  maxFragmentSize := 512

def linked : ClientContext :=
  run (runAlone (ClientCall.body sampleConfig)) (ClientContext.boot sampleConfig.enroll)
    [(.init, (still []).answers), (.gattc (some 3) (.reg true), (still []).answers),
      (.requestEnroll, (still []).answers), (.gattc (some 3) (.connect 7 1), (still []).answers)]

def paired : ClientContext :=
  run (runAlone (ClientCall.body sampleConfig)) linked
    [(.gap (.authCmpl 7 true 0), (still [7]).answers)]

/-- After a confirmed request that returned OK, whatever the order of its events. -/
theorem replacement_ends (config : ClientConfig) {before : ClientContext} {request : StackTurn}
    {requestedAt : Int} (clock : ∀ k, requestedAt ≤ (request.answers k).nowMs)
    (issued : ∀ k ≤ issuing, request.bonds k = request.bonds 0)
    (returned : ((replaceEnrollment true).finish request.answers before).1 = espOk)
    (counted : Counted before request) {turns : List ReplacementTurn}
    (turns_ : AllSteps (step config) (fun r turn => Possible r turn ∧ Spared r turn)
      (requested before request requestedAt) turns) :
    AllStates (step config) Ends (requested before request requestedAt) turns := by
  apply all_states_mono (P := Invariant) fun r inv => ends_of_invariant inv
  apply all_states_of_steps _ _ turns_
  · exact fun r turn inv safe => invariant_step inv safe.1 safe.2
  · exact invariant_requested clock issued returned counted

/-- The bond goes after the link. -/
def linkThenBond : List ReplacementTurn :=
  [{ still [7] with event := .disconnect (some 3) 1 7 0 },
    { still [] with event := .removed 7 true }]

theorem replacement_ends_link_first :
    AllStates (step sampleConfig) Ends (requested paired (still [7]) 0) linkThenBond := by
  apply replacement_ends sampleConfig (fun _ => le_rfl) (fun _ _ => rfl) (by decide)
    fun no => absurd no (by simp [still])
  refine ⟨⟨?_, fun _ failed => absurd failed (by decide)⟩, ⟨?_, ?_⟩, trivial⟩
  · exact possible_still (List.Subset.refl _) (fun _ member gone => absurd member gone) le_rfl
      fun _ _ no => absurd no (by simp)
  · apply possible_still (List.nil_subset [7]) _ le_rfl
    · rintro peer success reported
      cases reported
      exact ⟨by decide, by simp⟩
    · intro peer member _
      cases List.mem_singleton.mp member
      decide
  · exact ⟨fun _ _ _ _ => le_rfl, fun _ taken => absurd taken (by decide)⟩

def pairedAgain : ClientContext :=
  run (runAlone (ClientCall.body sampleConfig)) linked
    [(.replaceEnrollment true, (still []).answers), (.gap (.authCmpl 7 true 0), (still [7]).answers)]

/-- The bond stays, and then the link goes. -/
def failureThenLink : List ReplacementTurn :=
  [{ still [7] with event := .removed 7 false },
    { still [7] with event := .disconnect (some 3) 1 7 0 }]

/-- The end of the connection, which the first request was left to, overwrites the error of the
    removal that has failed after the second. -/
theorem failure_overwritten :
    ((replaceEnrollment true).finish (still [7]).answers pairedAgain).1 = espOk ∧
      AllSteps (step sampleConfig) Possible (requested pairedAgain (still [7]) 0) failureThenLink ∧
      ¬ (run (step sampleConfig) (requested pairedAgain (still [7]) 0) failureThenLink).Ends := by
  refine ⟨by decide, ⟨?_, ?_, trivial⟩, ?_⟩
  · apply possible_still (List.Subset.refl [7]) (fun _ member gone => absurd member gone) le_rfl
    rintro peer success reported
    cases reported
    exact ⟨by decide, by decide⟩
  · exact possible_still (List.Subset.refl _) (fun _ member gone => absurd member gone) le_rfl
      fun _ _ no => absurd no (by simp)
  · intro ends
    have error : (run (step sampleConfig) (requested pairedAgain (still [7]) 0)
        failureThenLink).client.lastReplaceError = espOk := by decide
    exact (ends.2 (by decide)).2 error

end Replacement
