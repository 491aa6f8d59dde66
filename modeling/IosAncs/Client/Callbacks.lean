import IosAncs.Client.Context

/-!
The callbacks of the Bluetooth stack and of the timers, the client's part of the
worker's loop, and the public calls, section by section. A call of the stack
stands here where its answer is used; a timer's callback may run at any time.
The source is `ancs_client.c`.
-/
open AncsProtocol

namespace Client
open Sections ClientContext

def authTimeoutMs : Int := 30000
def discoveryTimeoutMs : Int := 15000
def subscribeTimeoutMs : Int := 10000
def prepareTimeoutMs : Int := 90000
def discoveryRetries : Nat := 2

def scheduleAdvertisingRetry : Client Unit :=
  update fun env s =>
    if s.connected || s.advertising || s.advertisingStarting ||
        !s.enroll.shouldAdvertise env.nowMs then s
    else if s.advertisingAttempt < 255 then
      { s with advertisingAttempt := s.advertisingAttempt + 1 }
    else s

inductive AdvertisingStart where
  | refused
  | retry
  | starting
deriving DecidableEq, Repr

def startAdvertising : Client Unit := do
  let start ← section_ fun env s =>
    if s.connected || s.advertising || s.advertisingStarting || s.advDataPending ||
        s.scanResponsePending || !s.enroll.shouldAdvertise env.nowMs then
      (AdvertisingStart.refused, s)
    else if !env.hidReady then (.retry, s)
    else (.starting, { s with advertisingStarting := true })
  match start with
  | .refused => return
  | .retry => scheduleAdvertisingRetry
  | .starting => do
    let error ← call
    if error ≠ espOk then do
      update fun _ s => { s with advertisingStarting := false }
      scheduleAdvertisingRetry

def stopAdvertising : Client Unit :=
  update fun _ s => { s with advertising := false, advertisingStarting := false }

def scheduleDiscoveryRetry : Client Unit :=
  update fun env s =>
    if !s.connected || s.closing || !s.sessionAuthenticated || s.discoveryInProgress ||
        s.discoveryRetryDueMs != 0 then s
    else
      let failed := { s with lastStageError := espFail }
      if discoveryRetries ≤ failed.discoveryAttempt then
        { failed with stageDeadlineMs := env.nowMs }
      else
        let delayMs := if failed.discoveryAttempt = 0 then 2000 else 5000
        { failed with
          discoveryAttempt := failed.discoveryAttempt + 1
          discoveryRetryGeneration := failed.generation
          discoveryRetryDueMs := env.nowMs + delayMs
          stageDeadlineMs := env.nowMs + delayMs + discoveryTimeoutMs }

/-- The answer to a step that failed: `set_state` and `schedule_discovery_retry`. -/
def recoverDiscovery : Client Unit := do
  setState .recovering
  scheduleDiscoveryRetry

def startDiscovery : Client Unit := do
  let started ← section_ fun env s =>
    if !s.connected || s.closing || !s.sessionAuthenticated || !s.linkEncrypted || !s.mtuReady ||
        s.ready || s.gattcIf.isNone || s.discoveryInProgress then (false, s)
    else
      (true, { s with
        ready := false
        dataSourceSubscribed := false
        notificationSourceSubscribed := false
        notificationSourceHandle := invalidHandle
        dataSourceHandle := invalidHandle
        controlPointHandle := invalidHandle
        dataSourceCccdHandle := invalidHandle
        notificationSourceCccdHandle := invalidHandle
        serviceFound := false
        discoveryInProgress := true
        discoveryRetryDueMs := 0
        stageDeadlineMs := env.nowMs + discoveryTimeoutMs })
  if started then do
    transition .discoveryStarted
    let error ← call
    if error ≠ espOk then do
      update fun _ s => { s with discoveryInProgress := false }
      recoverDiscovery

/-- `write_cccd`: its error and the handle of the descriptor. -/
def writeCccd : Client (Int × UInt16) := query fun env _ => (env.error, env.cccdHandle)

/-- The section and the registration that both subscriptions share. -/
def beginSubscription (handle : ClientContext → UInt16) (started : Client Unit) : Client Unit := do
  let valid ← section_ fun env s =>
    if !s.connected || s.closing || !s.sessionAuthenticated then (false, s)
    else
      (true, { s with
        stageDeadlineMs := env.nowMs + subscribeTimeoutMs
        pendingNotifyHandle := handle s
        pendingNotifyGeneration := s.generation })
  if valid then do
    started
    let error ← call
    if error ≠ espOk then recoverDiscovery

def beginDataSourceSubscription : Client Unit :=
  beginSubscription ClientContext.dataSourceHandle (transition .dataSubscribeStarted)

def beginNotificationSourceSubscription : Client Unit :=
  beginSubscription ClientContext.notificationSourceHandle (pure ())

/-- The handles of the three characteristics, as the loop over the list leaves them. -/
structure AncsHandles where
  notificationSource : UInt16
  dataSource : UInt16
  controlPoint : UInt16
deriving DecidableEq, Repr

def AncsHandles.note (found : AncsHandles) (characteristic : GattCharacteristic) : AncsHandles :=
  if characteristic.uuid = .notificationSource ∧ characteristic.notify then
    { found with notificationSource := characteristic.handle }
  else if characteristic.uuid = .dataSource ∧ characteristic.notify then
    { found with dataSource := characteristic.handle }
  else if characteristic.uuid = .controlPoint ∧ characteristic.write then
    { found with controlPoint := characteristic.handle }
  else found

def ancsHandles (characteristics : List GattCharacteristic) : AncsHandles :=
  characteristics.foldl AncsHandles.note
    { notificationSource := invalidHandle, dataSource := invalidHandle
      controlPoint := invalidHandle }

def discoverCharacteristics : Client Unit := do
  let (valid, generation, serviceStart, serviceEnd) ← query fun _ s =>
    (s.connected && !s.closing && s.sessionAuthenticated && s.serviceFound && s.gattcIf.isSome,
      s.generation, s.serviceStartHandle, s.serviceEndHandle)
  if valid then do
    let answer ← query fun env _ => env.characteristics
    match answer with
    | none => recoverDiscovery
    | some characteristics => do
      let found := ancsHandles characteristics
      if found.notificationSource = invalidHandle ∨ found.dataSource = invalidHandle ∨
          found.controlPoint = invalidHandle then do
        invalidateAncsHandles
        recoverDiscovery
      else do
        let stillValid ← section_ fun _ s =>
          let stillValid := s.connected && s.generation == generation &&
            s.serviceStartHandle == serviceStart && s.serviceEndHandle == serviceEnd
          (stillValid, if stillValid then
            { s with
              notificationSourceHandle := found.notificationSource
              dataSourceHandle := found.dataSource
              controlPointHandle := found.controlPoint
              discoveryAttempt := 0 }
            else s)
        if stillValid then beginDataSourceSubscription

def resetConnectionSession : Client Unit := do
  let generation ← section_ fun _ s =>
    let generation := s.generation + 1
    (generation, invalidateAncsHandlesLocked { s with
      connected := false
      bonded := false
      sessionAuthenticated := false
      linkEncrypted := false
      closing := false
      closeAttempts := 0
      closeRetryDueMs := 0
      mtuReady := false
      stageDeadlineMs := 0
      prepareDeadlineMs := 0
      discoveryRetryDueMs := 0
      discoveryAttempt := 0
      generation })
  discard <| enqueueWork { generation, data := .reset }

def handleServiceChanged : Client Unit := do
  let changed ← section_ fun env s =>
    if !s.connected || s.closing then (none, s)
    else
      let generation := s.generation + 1
      (some generation, invalidateAncsHandlesLocked { s with
        prepareDeadlineMs := env.nowMs + prepareTimeoutMs
        discoveryRetryDueMs := 0
        discoveryAttempt := 0
        generation })
  match changed with
  | none => return
  | some generation => do
    discard <| enqueueWork { generation, data := .reset }
    transition .serviceChanged
    startDiscovery

/-- `sync_existing_ble_bond`; the answer is the count, or -1 on an error. -/
def syncExistingBleBond : Client Int := do
  let bondCount ← currentBondCount
  section_ fun env s =>
    let read : Except Int (List BdAddr) :=
      if bondCount < 0 then .error espFail
      else if bondCount = 0 then .ok []
      else match env.bondList with
        | some list => .ok list
        | none => .error (if env.error = espOk then espErrNoMem else env.error)
    match read with
    | .error error => (-1, { s with bondStoreError := error })
    | .ok [] =>
      (0, { s with bondStoreError := espOk, enroll := s.enroll.clearBond, bonded := false })
    | .ok (first :: rest) =>
      ((rest.length : Int) + 1,
        { s with bondStoreError := espOk, enroll := s.enroll.noteBonded first, bonded := true })

def loadExistingBleBond : Client Unit := do
  let count ← syncExistingBleBond
  update fun _ s => if s.initialized then s else { s with bootBondCount := count }

/-- `remove_all_ble_bonds`: the removals themselves are calls of the stack. -/
def removeAllBleBonds : Client Int := do
  let bondCount ← currentBondCount
  if bondCount < 0 then return espFail
  else if bondCount = 0 then do
    update fun _ s => { s with enroll := s.enroll.clearBond, bonded := false }
    return espOk
  else call

def requestEnroll : Client Int := do
  let refused ← query fun _ s =>
    !s.initialized || !s.enrollTimer || s.connected || s.replacePending
  if refused then return espErrInvalidState
  else do
    let count ← syncExistingBleBond
    if count < 0 then return espFail
    else if 0 < count then do
      update fun _ s => { s with enroll := s.enroll.closeWindow }
      startAdvertising
      return espOk
    else do
      let now ← nowMs
      let opened ← section_ fun _ s =>
        if s.connected || s.replacePending then (false, s)
        else
          let cleared := s.clearAuthFailureGuardLocked
          let (enroll, opened) := cleared.enroll.openWindow now
          (opened, { cleared with enroll })
      if !opened then return espErrInvalidState
      else do
        let error ← call
        if error ≠ espOk then do
          update fun _ s =>
            if s.enroll.windowDeadlineMs = now + s.enroll.config.windowMs.toNat then
              { s with enroll := s.enroll.closeWindow }
            else s
          return error
        else do
          startAdvertising
          return espOk

def openReplacementWindow : Client Int := do
  let connected ← section_ fun _ s =>
    (s.connected, if s.connected then { s with reopenAfterDisconnect := true } else s)
  if connected then return espOk else requestEnroll

def replaceEnrollment (confirmed : Bool) : Client Int := do
  let initialized ← query fun _ s => s.initialized
  if !initialized then return espErrInvalidState
  else if !confirmed then do
    update fun _ s => { s with lastReplaceError := espErrInvalidState }
    return espErrInvalidState
  else do
    update fun _ s => s.clearAuthFailureGuardLocked
    let bondCount ← currentBondCount
    update fun _ s => { s with lastReplaceError := espOk }
    if bondCount < 0 then return espFail
    else do
      update fun _ s => { s with replacePending := decide (0 < bondCount) }
      stopAdvertising
      let error ← removeAllBleBonds
      if error ≠ espOk then do
        update fun _ s => { s with replacePending := false, lastReplaceError := error }
        let remaining ← syncExistingBleBond
        if 0 < remaining then startAdvertising
        return error
      else do
        let left ← currentBondCount
        if left = 0 then do
          update fun _ s => { s with replacePending := false }
          let enrollError ← openReplacementWindow
          update fun _ s => { s with lastReplaceError := enrollError }
          return enrollError
        else return espOk

def setPairingAllowed (allowed : Bool) : Client Unit :=
  if allowed then discard requestEnroll
  else do
    let hasBond ← section_ fun _ s =>
      (s.enroll.hasBond, { s with enroll := s.enroll.closeWindow })
    if !hasBond then stopAdvertising

/-- `ancs_client_start_advertising` -/
def startAdvertisingCall : Client Int := do
  let allowed ← enrollShouldAdvertiseNow
  if !allowed then return espErrInvalidState
  else do
    startAdvertising
    return espOk

def enrollTimeoutCallback : Client Unit := do
  let now ← nowMs
  let (expired, hasBond) ← section_ fun _ s =>
    let expired := s.enroll.windowOpen && !s.enroll.windowActive now
    ((expired, s.enroll.hasBond), if expired then { s with enroll := s.enroll.closeWindow } else s)
  if expired && !hasBond then stopAdvertising

def enrollButtonCallback : Client Unit := do
  let pressed ← query fun env _ => env.pressed
  let shouldOpen ← section_ fun env s =>
    let (enrollButton, held) := s.enrollButton.update pressed env.nowMs
    (held, { s with enrollButton })
  if shouldOpen then discard requestEnroll

def discoveryRetryCallback : Client Unit := do
  let now ← nowMs
  let current ← section_ fun _ s =>
    let current := s.connected && !s.closing && s.discoveryRetryGeneration == s.generation &&
      s.discoveryRetryDueMs != 0 && decide (s.discoveryRetryDueMs ≤ now)
    (current, if current then { s with discoveryRetryDueMs := 0 } else s)
  if current then startDiscovery

def checkConnectionDeadline : Client Unit := do
  let now ← nowMs
  let (expired, requestClose, generation) ← section_ fun _ s =>
    let expired := s.connected && !s.ready && !s.closing &&
      ((s.stageDeadlineMs != 0 && decide (s.stageDeadlineMs ≤ now)) ||
        (s.prepareDeadlineMs != 0 && decide (s.prepareDeadlineMs ≤ now)))
    let closed := if expired then
      { s with
        closing := true
        ready := false
        lastStageError := espErrTimeout
        discoveryRetryDueMs := 0 }
      else s
    let requestClose := closed.connected && closed.closing && decide (closed.closeAttempts < 3) &&
      decide (closed.closeRetryDueMs ≤ now)
    ((expired, requestClose, closed.generation), if requestClose then
      { closed with closeAttempts := closed.closeAttempts + 1, closeRetryDueMs := now + 3000 }
      else closed)
  if expired then setState .recovering
  if requestClose then do
    let error ← call
    if error ≠ espOk then
      update fun _ s => if s.generation = generation then { s with lastStageError := error } else s

def recoverDataStream : Client Unit := do
  update fun _ s => { s with ready := false }
  setState .recovering

def recoverTimes : Nat → Client Unit
  | 0 => return
  | times + 1 => do
    recoverDataStream
    recoverTimes times

/-- One turn of `worker_task`, as far as it touches the shared context: besides the
    two checks and the queue it only reads, except where it gives up a data stream. -/
def workerTurn (recoveries : Nat) : Client Unit := do
  checkConnectionDeadline
  enrollTimeoutCallback
  discard currentGeneration
  section_ fun _ s => match s.workQueue with
    | some { length, items := _ :: rest } => ((), { s with workQueue := some { length, items := rest } })
    | _ => ((), s)
  discard currentGeneration
  recoverTimes recoveries

inductive GapEvent where
  | setLocalPrivacyComplete
  | advDataSetComplete
  | scanRspDataSetComplete
  | advStartComplete (success : Bool)
  | secReq (peer : BdAddr)
  | authCmpl (peer : BdAddr) (success : Bool) (failReason : Int)
  | removeBondDevComplete (success : Bool)
  | other
deriving DecidableEq, Repr

def gapEventHandler : GapEvent → Client Unit
  | .setLocalPrivacyComplete => do
    update fun _ s => { s with advDataPending := true, scanResponsePending := true }
    let dataError ← call
    if dataError ≠ espOk then update fun _ s => { s with advDataPending := false }
    let responseError ← call
    if responseError ≠ espOk then update fun _ s => { s with scanResponsePending := false }
    startAdvertising
  | .advDataSetComplete => do
    update fun _ s => { s with advDataPending := false }
    startAdvertising
  | .scanRspDataSetComplete => do
    update fun _ s => { s with scanResponsePending := false }
    startAdvertising
  | .advStartComplete success => do
    let (connected, stopDisallowed) ← section_ fun env s =>
      let allowed := s.enroll.shouldAdvertise env.nowMs
      let started := { s with advertisingStarting := false }
      ((s.connected, success && !s.connected && !allowed),
        if success && !s.connected && allowed then
          { started with advertising := true, advertisingAttempt := 0 }
        else { started with advertising := false })
    if success then
      if connected || stopDisallowed then return
      else do
        let state ← currentState
        if state = .boot then transition .bootComplete else setState .advertising
    else scheduleAdvertisingRetry
  | .secReq peer => do
    let active ← enrollWindowActiveNow
    if !active then discard (bondListContainsPeer peer)
  | .authCmpl peer success failReason => do
    let matched ← authenticationEventMatches peer
    if matched then
      if success then do
        update fun env s =>
          let cleared := clearAuthFailureGuardLocked { s with
            bonded := true
            sessionAuthenticated := true
            linkEncrypted := true
            stageDeadlineMs := env.nowMs + discoveryTimeoutMs }
          { cleared with enroll := cleared.enroll.noteBonded peer }
        stopAdvertising
        transition .bonded
        startDiscovery
      else do
        let failureAtMs ← nowMs
        let bondCount ← currentBondCount
        let repairRequired ← section_ fun _ s =>
          let recorded := recordAuthFailureLocked
            { s with
              authError := failReason
              lastAuthError := failReason
              lastAuthErrorAtMs := failureAtMs }
            failureAtMs (decide (bondCount = 0))
          (recorded.pairingRepairRequired, recorded)
        update fun _ s => { s with
          closing := true
          sessionAuthenticated := false
          linkEncrypted := false
          ready := false
          discoveryRetryDueMs := 0 }
        setState .recovering
        publishState
        if repairRequired then stopAdvertising else scheduleAdvertisingRetry
  | .removeBondDevComplete success =>
    if !success then do
      update fun _ s => { s with replacePending := false, lastReplaceError := espFail }
      let remaining ← syncExistingBleBond
      if 0 < remaining then startAdvertising
    else do
      let remaining ← syncExistingBleBond
      let shouldOpen ← section_ fun _ s =>
        if remaining = 0 then
          (s.replacePending, { s with replacePending := false, lastReplaceError := espOk })
        else (false, s)
      if shouldOpen then do
        let enrollError ← openReplacementWindow
        if enrollError ≠ espOk then update fun _ s => { s with lastReplaceError := enrollError }
  | .other => return

inductive GattcEvent where
  | reg (success : Bool)
  | connect (peer : BdAddr) (connId : UInt16)
  | open (connId : UInt16) (peer : BdAddr) (success : Bool)
  | cfgMtu (connId : UInt16)
  | searchRes (connId : UInt16) (ancs : Bool) (startHandle endHandle : UInt16)
  | searchCmpl (connId : UInt16) (success : Bool)
  | regForNotify (handle : UInt16) (success : Bool)
  | writeDescr (connId handle : UInt16) (success : Bool)
  | notify (connId handle : UInt16) (value : List UInt8)
  | writeChar (connId handle : UInt16) (status : Int)
  | srvcChg (peer : BdAddr)
  | disconnect (connId : UInt16) (peer : BdAddr) (reason : Int)
  | other
deriving DecidableEq, Repr

def connectEvt (peer : BdAddr) (connId : UInt16) : Client Unit := do
  let allowed ← connectionPeerAllowed peer
  if allowed then do
    let connects ← section_ fun env s =>
      if s.connected then (false, s)
      else
        let fresh := invalidateAncsHandlesLocked { s with
          generation := s.generation + 1
          sessionAuthenticated := false
          linkEncrypted := false
          closing := false
          closeAttempts := 0
          closeRetryDueMs := 0
          mtuReady := false
          discoveryAttempt := 0
          discoveryRetryDueMs := 0
          lastStageError := 0
          prepareDeadlineMs := env.nowMs + prepareTimeoutMs
          stageDeadlineMs := env.nowMs + authTimeoutMs }
        (true, { fresh with
          remoteBda := peer
          connId
          connected := true
          advertising := false
          advertisingStarting := false })
    if connects then transition .connected

def openEvt (connId : UInt16) (peer : BdAddr) (success : Bool) : Client Unit := do
  let matched ← connectionEventMatches connId peer
  if matched && success then do
    update fun _ s => { s with connId, remoteBda := peer }
    transition .encryptionStarted

def cfgMtuEvt (connId : UInt16) : Client Unit := do
  let matched ← gattConnectionMatches connId
  if matched then do
    update fun _ s => { s with mtuReady := true }
    startDiscovery

def searchResEvt (connId : UInt16) (ancs : Bool) (startHandle endHandle : UInt16) :
    Client Unit := do
  let searching ← query fun _ s => s.discoveryInProgress
  if searching then do
    let matched ← gattConnectionMatches connId
    if matched && ancs then
      update fun _ s => { s with
        serviceFound := true
        serviceStartHandle := startHandle
        serviceEndHandle := endHandle }

def searchCmplEvt (connId : UInt16) (success : Bool) : Client Unit := do
  let searching ← query fun _ s => s.discoveryInProgress
  if searching then do
    let matched ← gattConnectionMatches connId
    if matched then do
      let serviceFound ← section_ fun _ s =>
        (s.serviceFound, { s with discoveryInProgress := false })
      if !success || !serviceFound then recoverDiscovery else discoverCharacteristics

def regForNotifyEvt (handle : UInt16) (success : Bool) : Client Unit := do
  let expected ← section_ fun _ s =>
    let expected := s.connected && !s.closing && s.sessionAuthenticated &&
      s.pendingNotifyGeneration == s.generation && s.pendingNotifyHandle != invalidHandle &&
      s.pendingNotifyHandle == handle
    (expected, if expected then { s with pendingNotifyHandle := invalidHandle } else s)
  if expected then
    if !success then recoverDiscovery
    else do
      let (dataSource, notificationSource) ← query fun _ s =>
        (s.dataSourceHandle, s.notificationSourceHandle)
      if handle = dataSource then do
        let (error, cccd) ← writeCccd
        if error ≠ espOk then recoverDiscovery
        else update fun _ s =>
          if s.dataSourceHandle = dataSource then { s with dataSourceCccdHandle := cccd } else s
      else if handle = notificationSource then do
        let (error, cccd) ← writeCccd
        if error ≠ espOk then recoverDiscovery
        else update fun _ s =>
          if s.notificationSourceHandle = notificationSource then
            { s with notificationSourceCccdHandle := cccd }
          else s

/-- The last section of `ESP_GATTC_WRITE_DESCR_EVT` for the Notification Source. -/
def subscribeNotificationSource (s : ClientContext) : ClientContext :=
  let ready := s.connected && s.sessionAuthenticated && s.linkEncrypted && s.serviceFound &&
    s.dataSourceSubscribed
  { s with
    notificationSourceSubscribed := true
    sessionId := if ready && !s.ready then s.sessionId + 1 else s.sessionId
    ready
    stageDeadlineMs := 0
    discoveryRetryDueMs := 0
    lastStageError := 0 }

def writeDescrEvt (connId handle : UInt16) (success : Bool) : Client Unit := do
  let matched ← gattConnectionMatches connId
  if matched then do
    let expected ← query fun _ s => s.sessionAuthenticated &&
      ((handle != invalidHandle && handle == s.dataSourceCccdHandle && !s.dataSourceSubscribed) ||
        (handle != invalidHandle && handle == s.notificationSourceCccdHandle &&
          s.dataSourceSubscribed && !s.notificationSourceSubscribed))
    if expected then
      if !success then recoverDiscovery
      else do
        let (dataSourceCccd, notificationSourceCccd) ← query fun _ s =>
          (s.dataSourceCccdHandle, s.notificationSourceCccdHandle)
        if handle = dataSourceCccd then do
          update fun _ s => { s with dataSourceSubscribed := true }
          transition .dataSubscribed
          beginNotificationSourceSubscription
        else if handle = notificationSourceCccd then do
          let ready ← atomic .notificationSubscribed fun _ s =>
            ((subscribeNotificationSource s).ready, subscribeNotificationSource s)
          transition .notificationSubscribed
          if !ready then setState .recovering

def notifyEvt (maxFragmentSize : Nat) (connId handle : UInt16) (value : List UInt8) :
    Client Unit := do
  let matched ← gattConnectionMatches connId
  if matched then do
    let (notificationSource, dataSource) ← query fun _ s =>
      (s.notificationSourceHandle, s.dataSourceHandle)
    if handle = notificationSource then
      match parseNotificationSource value with
      | .error _ => return
      | .ok event => do
        let generation ← currentGeneration
        discard <| enqueueWork { generation, data := .event event }
    else if handle = dataSource ∧ value.length ≤ maxFragmentSize then do
      let memory ← call
      if memory = espOk then do
        let generation ← currentGeneration
        discard <| enqueueWork { generation, data := .fragment value }

def writeCharEvt (connId handle : UInt16) (status : Int) : Client Unit := do
  let matched ← gattConnectionMatches connId
  if matched then do
    let controlPoint ← query fun _ s => s.controlPointHandle
    if handle = controlPoint then do
      let generation ← currentGeneration
      discard <| enqueueWork { generation, data := .writeResult status }

def disconnectEvt (connId : UInt16) (peer : BdAddr) (reason : Int) : Client Unit := do
  let matched ← connectionEventMatches connId peer
  if matched then do
    update fun _ s => { s with lastDisconnectReason := reason }
    resetConnectionSession
    transition .disconnected
    let reopen ← section_ fun _ s =>
      (s.reopenAfterDisconnect, { s with reopenAfterDisconnect := false })
    if reopen then do
      let error ← requestEnroll
      update fun _ s => { s with lastReplaceError := error }
    else scheduleAdvertisingRetry

def handleGattcEvent (maxFragmentSize : Nat) (gattcIf : Option Nat) : GattcEvent → Client Unit
  | .reg _ => update fun _ s => { s with gattcIf }
  | .connect peer connId => connectEvt peer connId
  | .open connId peer success => openEvt connId peer success
  | .cfgMtu connId => cfgMtuEvt connId
  | .searchRes connId ancs startHandle endHandle => searchResEvt connId ancs startHandle endHandle
  | .searchCmpl connId success => searchCmplEvt connId success
  | .regForNotify handle success => regForNotifyEvt handle success
  | .writeDescr connId handle success => writeDescrEvt connId handle success
  | .notify connId handle value => notifyEvt maxFragmentSize connId handle value
  | .writeChar connId handle status => writeCharEvt connId handle status
  | .srvcChg peer => do
    let remote ← query fun _ s => s.remoteBda
    if peer = remote then handleServiceChanged
  | .disconnect connId peer reason => disconnectEvt connId peer reason
  | .other => return

def gattcCallback (maxFragmentSize : Nat) (gattcIf : Option Nat) (event : GattcEvent) :
    Client Unit := do
  if event = .reg true then update fun _ s => { s with gattcIf }
  if event ≠ .reg false then do
    let registered ← query fun _ s => s.gattcIf
    if gattcIf = none ∨ gattcIf = registered then handleGattcEvent maxFragmentSize gattcIf event

/-- `cleanup_init_resources` and what follows a failed initialisation. -/
def initFailed : Client Unit := do
  update fun _ s => { s with enrollTimer := false, workQueue := none }
  update fun _ s => invalidateAncsHandlesLocked { s with
    initialized := false
    connected := false
    bonded := false
    advertising := false
    advertisingStarting := false
    gattcIf := none }
  setState .recovering
  publishState

/-- `ancs_client_init`: the calls before and after the bond store is loaded may fail. -/
def init (config : BleEnrollConfig) (workQueueLength : Nat) : Client Unit := do
  publishState
  update fun _ s => { s with
    enroll := BleEnrollState.init config
    enrollButton := BleEnrollButton.init config }
  let nvsError ← call
  if nvsError ≠ espOk then do
    update fun _ s => { s with bondStoreError := nvsError }
    initFailed
  else do
    let before ← call
    if before ≠ espOk then initFailed
    else do
      update fun _ s => { s with
        workQueue := some { length := workQueueLength, items := [] }
        enrollTimer := true }
      loadExistingBleBond
      let after ← call
      if after ≠ espOk then initFailed
      else update fun _ s => { s with initialized := true }

inductive ClientCall where
  | init
  | gap (event : GapEvent)
  | gattc (gattcIf : Option Nat) (event : GattcEvent)
  | workerTurn (recoveries : Nat)
  | advertisingRetry
  | enrollTimeout
  | enrollButton
  | discoveryRetry
  | requestEnroll
  | replaceEnrollment (confirmed : Bool)
  | setPairingAllowed (allowed : Bool)
  | startAdvertising
  | stopAdvertising
deriving DecidableEq, Repr

/-- The Kconfig values that the client reads. -/
structure ClientConfig where
  enroll : BleEnrollConfig
  workQueueLength : Nat
  maxFragmentSize : Nat
deriving DecidableEq, Repr

def ClientCall.body (config : ClientConfig) : ClientCall → Client Unit
  | .init => Client.init config.enroll config.workQueueLength
  | .gap event => gapEventHandler event
  | .gattc gattcIf event => gattcCallback config.maxFragmentSize gattcIf event
  | .workerTurn recoveries => Client.workerTurn recoveries
  | .advertisingRetry => Client.startAdvertising
  | .enrollTimeout => enrollTimeoutCallback
  | .enrollButton => enrollButtonCallback
  | .discoveryRetry => discoveryRetryCallback
  | .requestEnroll => discard Client.requestEnroll
  | .replaceEnrollment confirmed => discard (Client.replaceEnrollment confirmed)
  | .setPairingAllowed allowed => Client.setPairingAllowed allowed
  | .startAdvertising => discard startAdvertisingCall
  | .stopAdvertising => Client.stopAdvertising

end Client
