import IosAncs.Client.Moves
import IosAncs.Foundation.Sequential

/-!
The enrollment window, the repair flag and the admission of peers, over every sequence of
calls. What a replacement leaves to a later removal or disconnect is counted, so that each
of their clearings of the repair flag belongs to a confirmed request of its own.
-/
open Runs Sections Client

structure Enrollment where
  window : BleEnrollState
  repair : Bool
  pending : Bool
  reopen : Bool
  connected : Bool

namespace ClientContext

def enrollment (s : ClientContext) : Enrollment where
  window := s.enroll
  repair := s.pairingRepairRequired
  pending := s.replacePending
  reopen := s.reopenAfterDisconnect
  connected := s.connected

/-- An open window means that no bond is known and no repair is required. -/
def WindowSafe (s : ClientContext) : Prop :=
  s.enroll.windowOpen = true → s.enroll.hasBond = false ∧ s.pairingRepairRequired = false

/-- The openings of the window that replacements have left to later events. -/
def owed (s : ClientContext) : Nat := s.replacePending.toNat + s.reopenAfterDisconnect.toNat

theorem windowSafe_of_enrollment {s s' : ClientContext} (same : s'.enrollment = s.enrollment)
    (safe : s.WindowSafe) : s'.WindowSafe := by
  have window : s'.enroll = s.enroll := congrArg Enrollment.window same
  have repair : s'.pairingRepairRequired = s.pairingRepairRequired := congrArg Enrollment.repair same
  unfold WindowSafe
  rw [window, repair]
  exact safe

theorem authFailed_enrollment (s : ClientContext) (failReason failureAtMs : Int) (missing : Bool) :
    (s.authFailed failReason failureAtMs missing).enrollment = s.enrollment ∨
      (s.authFailed failReason failureAtMs missing).enrollment =
        { s.enrollment with window := s.enroll.closeWindow, repair := true } := by
  unfold authFailed recordAuthFailureLocked
  extract_lets first before count counted
  split
  · exact .inr rfl
  · exact .inl rfl

end ClientContext

namespace ClientMove
variable {label : ClientSection} {env : ClientEnv} {s s' : ClientContext} {move : ClientMove}

def Enrolls : ClientMove → Prop
  | .windowClosed | .windowOpened _ | .guardCleared | .bondsRead | .replaceSet _ | .reopenSet
  | .reopenTaken | .enrollInit | .connected _ _ | .disconnected | .authenticated _
  | .authFailed _ _ _ | .initFailed => True
  | _ => False

theorem enrollment_of_core {t : ClientContext} (same : core s' = core t) :
    s'.enrollment = t.enrollment :=
  (congrArg ClientContext.enrollment same : (core s').enrollment = (core t).enrollment)

theorem takes_enrollment (takes : move.Takes label env s s') (other : ¬ move.Enrolls) :
    s'.enrollment = s.enrollment := by
  cases move with
  | keep | closing | retryTaken | discoveryStopped | handlesInvalidated | registered | mtuReady
  | dataSubscribed | readyLost => cases takes; rfl
  | named | notificationSubscribed | replaceReported => obtain ⟨_, rfl⟩ := takes; rfl
  | queued => obtain ⟨_, _, rfl⟩ := takes; rfl
  | aside => exact enrollment_of_core takes
  | «opened» | serviceFound | cccdFound => obtain ⟨_, _, rfl⟩ := takes; rfl
  | serviceChanged => obtain ⟨_, _, rfl⟩ := takes; rfl
  | subscribing => obtain ⟨_, _, _, rfl⟩ := takes; rfl
  | handlesFound => obtain ⟨_, _, _, rfl⟩ := takes; rfl
  | discoveryStarted => obtain ⟨_, _, _, _, rfl⟩ := takes; rfl
  | retryScheduled => obtain ⟨_, _, _, _, _, rfl⟩ := takes; rfl
  | deadlineChecked now =>
    cases takes
    unfold ClientContext.deadlineChecked
    dsimp only
    split <;> split <;> rfl
  | _ => exact absurd trivial other

theorem takes_windowSafe (takes : move.Takes label env s s') (safe : s.WindowSafe) : s'.WindowSafe := by
  by_cases enrolls : move.Enrolls
  · cases move with
    | windowClosed =>
      cases takes
      exact fun opened => absurd opened (by simp [BleEnrollState.closeWindow])
    | windowOpened now =>
      obtain ⟨_, _, rfl⟩ := takes
      intro opened
      refine ⟨?_, rfl⟩
      revert opened
      dsimp only [BleEnrollState.openWindow]
      split
      · next bonded => simp [BleEnrollState.closeWindow]
      · next free => exact fun _ => by simpa using free
    | guardCleared => cases takes; exact fun opened => ⟨(safe opened).1, rfl⟩
    | bondsRead =>
      rcases takes with same | ⟨first, same⟩
      · apply ClientContext.windowSafe_of_enrollment (enrollment_of_core same)
        exact fun opened => ⟨rfl, (safe opened).2⟩
      · apply ClientContext.windowSafe_of_enrollment (enrollment_of_core same)
        exact fun opened => absurd opened (by
          simp [BleEnrollState.noteBonded, BleEnrollState.closeWindow])
    | replaceSet | reopenSet => obtain ⟨_, rfl⟩ := takes; exact safe
    | reopenTaken => cases takes; exact safe
    | enrollInit =>
      obtain ⟨config, rfl⟩ := takes
      exact fun opened => absurd opened (by simp [BleEnrollState.init])
    | connected peer connId => obtain ⟨_, rfl⟩ := takes; exact safe
    | disconnected => cases takes; exact safe
    | authenticated peer =>
      cases takes
      exact fun opened => absurd opened (by
        simp [ClientContext.authenticatedBy, BleEnrollState.noteBonded, BleEnrollState.closeWindow])
    | authFailed failReason failureAtMs missing =>
      cases takes
      rcases s.authFailed_enrollment failReason failureAtMs missing with same | same
      · exact ClientContext.windowSafe_of_enrollment same safe
      · have window := congrArg Enrollment.window same
        change (s.authFailed failReason failureAtMs missing).enroll = s.enroll.closeWindow at window
        exact fun opened => absurd opened (by simp [window, BleEnrollState.closeWindow])
    | initFailed =>
      exact ClientContext.windowSafe_of_enrollment (enrollment_of_core takes) safe
    | _ => cases enrolls
  · exact ClientContext.windowSafe_of_enrollment (takes_enrollment takes enrolls) safe

def ClearsRepair : ClientMove → Prop
  | .windowOpened _ | .guardCleared | .authenticated _ => True
  | _ => False

def Connects : ClientMove → Prop
  | .connected _ _ => True
  | _ => False

/-- The flags that an update leaves as they are, or takes back. -/
structure Frame (move : ClientMove) (s s' : ClientContext) : Prop where
  repair : ¬ move.ClearsRepair → s.pairingRepairRequired = true → s'.pairingRepairRequired = true
  pending : move ≠ .replaceSet true → s'.replacePending = true → s.replacePending = true
  reopen : move ≠ .reopenSet → s'.reopenAfterDisconnect = true → s.reopenAfterDisconnect = true
  connected : ¬ move.Connects → s'.connected = true → s.connected = true

end ClientMove

namespace Client
variable {α β : Type}

def Paid (move : ClientMove) : Prop := move ≠ .replaceSet true ∧ move ≠ .reopenSet

def Keeps (s s' : ClientContext) : Prop :=
  (s.pairingRepairRequired = true → s'.pairingRepairRequired = true) ∧ s'.owed ≤ s.owed

def ClientCall.finishesReplacement : ClientCall → Bool
  | .gap (.removeBondDevComplete true) | .gattc _ (.disconnect _ _ _) => true
  | _ => false

def ClientCall.confirmed : ClientCall → Nat
  | .replaceEnrollment true => 1
  | _ => 0

theorem body_windowSafe (config : ClientConfig) (call : ClientCall) :
    Always (fun _ _ s s' => s.WindowSafe → s'.WindowSafe) (call.body config) :=
  always_mono (fun _ _ _ _ ⟨_, _, takes, _⟩ => ClientMove.takes_windowSafe takes) (makes_some config call)

theorem windowSafe_interleaved (config : ClientConfig)
    (actions : List (ThreadAction ClientCall ClientEnv)) :
    AllStates (step (ClientCall.body config)) (fun t => t.state.WindowSafe)
      (initially (ClientContext.boot config.enroll)) actions :=
  all_states_sections (body_windowSafe config) (fun opened => absurd opened (by
    simp [ClientContext.boot, BleEnrollState.init])) actions

end Client

structure EnrollmentTurn where
  call : ClientCall
  answers : Nat → ClientEnv
  bonds : Nat → List BdAddr
  /-- a count and a list that are read at all are those of the store -/
  honest : ∀ k, (0 ≤ (answers k).bondCount → (answers k).bondCount = (bonds k).length) ∧
    ∀ list, (answers k).bondList = some list → list = bonds k

/-- The client, the confirmed replacements, and the events that have cleared the repair flag
    for one of them. -/
structure EnrollmentRun where
  client : ClientContext
  requests : Nat
  finished : Nat

namespace EnrollmentRun

def atBoot (config : ClientConfig) : EnrollmentRun where
  client := ClientContext.boot config.enroll
  requests := 0
  finished := 0

def after (config : ClientConfig) (run : EnrollmentRun) (turn : EnrollmentTurn) : ClientContext :=
  runAlone (ClientCall.body config) run.client (turn.call, turn.answers)

def step (config : ClientConfig) (run : EnrollmentRun) (turn : EnrollmentTurn) : EnrollmentRun where
  client := run.after config turn
  requests := run.requests + turn.call.confirmed
  finished := run.finished + (turn.call.finishesReplacement && run.client.pairingRepairRequired &&
    !(run.after config turn).pairingRepairRequired).toNat

def Balanced (run : EnrollmentRun) : Prop := run.finished + run.client.owed ≤ run.requests

variable {config : ClientConfig} {run : EnrollmentRun}

end EnrollmentRun
