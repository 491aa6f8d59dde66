import IosAncs.Foundation.Sections
import IosAncs.Client.Enroll
import IosAncs.Protocol.Notification

/-!
The client's shared context. Every step of a program over it is one critical
section of `s_shared_state_lock`, one queue operation, or one call of the
Bluetooth stack, which answers through the environment of the step.
The source is `ancs_client.c`.
-/
open AncsProtocol

inductive WorkItemData where
  | event (event : AncsNotificationEvent)
  | fragment (bytes : List UInt8)
  | writeResult (status : Int)
  | reset
deriving DecidableEq, Repr

structure WorkItem where
  generation : UInt32
  data : WorkItemData
deriving DecidableEq, Repr

/-- A FreeRTOS queue of `CONFIG_ANCS_WORK_QUEUE_LENGTH` places. -/
structure WorkQueue where
  length : Nat
  items : List WorkItem
deriving DecidableEq, Repr

structure ClientContext where
  state : AncsClientState
  initialized : Bool
  gattcIf : Option Nat
  connId : UInt16
  remoteBda : BdAddr
  connected : Bool
  bonded : Bool
  sessionAuthenticated : Bool
  linkEncrypted : Bool
  closing : Bool
  closeAttempts : Nat
  closeRetryDueMs : Int
  mtuReady : Bool
  discoveryInProgress : Bool
  serviceFound : Bool
  dataSourceSubscribed : Bool
  notificationSourceSubscribed : Bool
  ready : Bool
  serviceStartHandle : UInt16
  serviceEndHandle : UInt16
  notificationSourceHandle : UInt16
  dataSourceHandle : UInt16
  controlPointHandle : UInt16
  dataSourceCccdHandle : UInt16
  notificationSourceCccdHandle : UInt16
  sessionId : UInt32
  generation : UInt32
  authError : Int
  lastAuthError : Int
  lastAuthErrorAtMs : Int
  authFailureCount : Nat
  lastAuthFailureMs : Int
  pairingRepairRequired : Bool
  bondStoreError : Int
  bootBondCount : Int
  lastStageError : Int
  lastDisconnectReason : Int
  stageDeadlineMs : Int
  prepareDeadlineMs : Int
  discoveryRetryDueMs : Int
  discoveryRetryGeneration : UInt32
  pendingNotifyHandle : UInt16
  pendingNotifyGeneration : UInt32
  advertising : Bool
  advertisingStarting : Bool
  advertisingAttempt : Nat
  discoveryAttempt : Nat
  advDataPending : Bool
  scanResponsePending : Bool
  workQueue : Option WorkQueue
  enrollTimer : Bool
  replacePending : Bool
  reopenAfterDisconnect : Bool
  lastReplaceError : Int
  /-- `s_enroll` and `s_enroll_button`, under the same lock -/
  enroll : BleEnrollState
  enrollButton : BleEnrollButton
deriving DecidableEq, Repr

inductive GattUuid where
  | notificationSource
  | controlPoint
  | dataSource
  | other
deriving DecidableEq, Repr

structure GattCharacteristic where
  uuid : GattUuid
  notify : Bool
  write : Bool
  handle : UInt16
deriving DecidableEq, Repr

/-- What a section gets from outside: the time, and the answer of the call of the
    Bluetooth stack, the timers or the storage that it stands for. -/
structure ClientEnv where
  nowMs : Int := 0
  error : Int := 0
  bondCount : Int := 0
  /-- `none` when the list cannot be read -/
  bondList : Option (List BdAddr) := some []
  hidReady : Bool := true
  pressed : Bool := false
  cccdHandle : UInt16 := 0
  /-- `none` when the count of characteristics fails or is zero -/
  characteristics : Option (List GattCharacteristic) := none
deriving DecidableEq, Repr

/-- The sections told apart: those that only read or call, those that write, and
    the one that takes the Notification Source for subscribed. -/
inductive ClientSection where
  | query
  | update
  | notificationSubscribed
deriving DecidableEq, Repr

abbrev Client := Sections ClientSection ClientEnv ClientContext

def espOk : Int := 0
def espFail : Int := -1
def espErrNoMem : Int := 0x101
def espErrInvalidState : Int := 0x103
def espErrTimeout : Int := 0x107
def invalidHandle : UInt16 := 0

namespace Client
open Sections

def query {α : Type} (read : ClientEnv → ClientContext → α) : Client α :=
  atomic .query fun env s => (read env s, s)

def update (write : ClientEnv → ClientContext → ClientContext) : Client Unit :=
  atomic .update fun env s => ((), write env s)

def section_ {α : Type} (body : ClientEnv → ClientContext → α × ClientContext) : Client α :=
  atomic .update body

def nowMs : Client Int := query fun env _ => env.nowMs

def call : Client Int := query fun env _ => env.error

end Client

namespace ClientContext

def clearAuthFailureGuardLocked (s : ClientContext) : ClientContext :=
  { s with
    authError := 0
    authFailureCount := 0
    lastAuthFailureMs := 0
    pairingRepairRequired := false }

def authFailureRepairThreshold : Nat := 3
def authFailureWindowMs : Int := 120000

/-- `record_auth_failure_locked`; the result is `pairing_repair_required`. -/
def recordAuthFailureLocked (s : ClientContext) (failureAtMs : Int) (missingLocalBond : Bool) :
    ClientContext :=
  let first := s.authFailureCount = 0 ∨ failureAtMs < s.lastAuthFailureMs ∨
    authFailureWindowMs < failureAtMs - s.lastAuthFailureMs
  let before := if first then 0 else s.authFailureCount
  let count := if before < 255 then before + 1 else before
  let counted := { s with authFailureCount := count, lastAuthFailureMs := failureAtMs }
  if missingLocalBond && decide (authFailureRepairThreshold ≤ count) then
    { counted with pairingRepairRequired := true, enroll := counted.enroll.closeWindow }
  else counted

def invalidateAncsHandlesLocked (s : ClientContext) : ClientContext :=
  { s with
    serviceFound := false
    discoveryInProgress := false
    ready := false
    dataSourceSubscribed := false
    notificationSourceSubscribed := false
    serviceStartHandle := invalidHandle
    serviceEndHandle := invalidHandle
    notificationSourceHandle := invalidHandle
    dataSourceHandle := invalidHandle
    controlPointHandle := invalidHandle
    dataSourceCccdHandle := invalidHandle
    notificationSourceCccdHandle := invalidHandle
    pendingNotifyHandle := invalidHandle
    pendingNotifyGeneration := 0 }

def boot (config : BleEnrollConfig) : ClientContext where
  state := .boot
  initialized := false
  gattcIf := none
  connId := 0
  remoteBda := 0
  connected := false
  bonded := false
  sessionAuthenticated := false
  linkEncrypted := false
  closing := false
  closeAttempts := 0
  closeRetryDueMs := 0
  mtuReady := false
  discoveryInProgress := false
  serviceFound := false
  dataSourceSubscribed := false
  notificationSourceSubscribed := false
  ready := false
  serviceStartHandle := 0
  serviceEndHandle := 0
  notificationSourceHandle := 0
  dataSourceHandle := 0
  controlPointHandle := 0
  dataSourceCccdHandle := 0
  notificationSourceCccdHandle := 0
  sessionId := 0
  generation := 0
  authError := 0
  lastAuthError := 0
  lastAuthErrorAtMs := 0
  authFailureCount := 0
  lastAuthFailureMs := 0
  pairingRepairRequired := false
  bondStoreError := espErrInvalidState
  bootBondCount := -1
  lastStageError := 0
  lastDisconnectReason := 0
  stageDeadlineMs := 0
  prepareDeadlineMs := 0
  discoveryRetryDueMs := 0
  discoveryRetryGeneration := 0
  pendingNotifyHandle := 0
  pendingNotifyGeneration := 0
  advertising := false
  advertisingStarting := false
  advertisingAttempt := 0
  discoveryAttempt := 0
  advDataPending := false
  scanResponsePending := false
  workQueue := none
  enrollTimer := false
  replacePending := false
  reopenAfterDisconnect := false
  lastReplaceError := 0
  enroll := BleEnrollState.init config
  enrollButton := BleEnrollButton.init config

end ClientContext

namespace Client
open Sections

def enrollWindowActiveNow : Client Bool := do
  let now ← nowMs
  query fun _ s => s.enroll.windowActive now

def enrollShouldAdvertiseNow : Client Bool := do
  let now ← nowMs
  section_ fun _ s =>
    let enroll := if s.enroll.windowOpen && !s.enroll.windowActive now then s.enroll.closeWindow
      else s.enroll
    (enroll.shouldAdvertise now, { s with enroll })

def currentBondCount : Client Int := query fun env _ => env.bondCount

def bondListContainsPeer (peer : BdAddr) : Client Bool := do
  let bondCount ← currentBondCount
  if bondCount ≤ 0 then return false
  else
    query fun env _ => match env.bondList with
      | some list => list.contains peer
      | none => false

def connectionPeerAllowed (peer : BdAddr) : Client Bool := do
  let count ← currentBondCount
  if count < 0 then return false
  else if 0 < count then bondListContainsPeer peer
  else enrollWindowActiveNow

def connectionEventMatches (connId : UInt16) (peer : BdAddr) : Client Bool :=
  query fun _ s => s.connected && s.connId == connId && s.remoteBda == peer

def gattConnectionMatches (connId : UInt16) : Client Bool :=
  query fun _ s => s.connected && !s.closing && s.connId == connId

def authenticationEventMatches (peer : BdAddr) : Client Bool :=
  query fun _ s =>
    s.connected && !s.closing && !s.sessionAuthenticated && s.remoteBda == peer

def currentGeneration : Client UInt32 := query fun _ s => s.generation

def currentState : Client AncsClientState := query fun _ s => s.state

/-- `publish_state`: what the sink is told is a copy of the context. -/
def publishState : Client Unit := query fun _ _ => ()

def setState (state : AncsClientState) : Client Unit := do
  let changed ← section_ fun _ s => (decide (s.state ≠ state), { s with state })
  if changed then publishState

def transition (signal : AncsClientSignal) : Client Unit := do
  let changed ← section_ fun _ s =>
    let state := s.state.after signal
    (decide (s.state ≠ state), { s with state })
  if changed then publishState

def invalidateAncsHandles : Client Unit := update fun _ s => s.invalidateAncsHandlesLocked

def enqueueWork (item : WorkItem) : Client Bool :=
  section_ fun _ s => match s.workQueue with
    | none => (false, s)
    | some queue =>
      if queue.items.length < queue.length then
        (true, { s with workQueue := some { queue with items := queue.items ++ [item] } })
      else (false, s)

end Client
