import Mathlib.Data.BitVec

/-!
The client's state names and the enrollment window, which the client keeps
under its own lock. The source is `ancs_state.c` and `ble_enroll.c`.
-/

inductive AncsClientState where
  | boot
  | advertising
  | connected
  | encrypting
  | bonded
  | discoveringAncs
  | subscribingDataSource
  | subscribingNotificationSource
  | ancsReady
  | disconnected
  | recovering
deriving DecidableEq, Repr

inductive AncsClientSignal where
  | bootComplete
  | connected
  | encryptionStarted
  | bonded
  | discoveryStarted
  | dataSubscribeStarted
  | dataSubscribed
  | notificationSubscribed
  | serviceChanged
  | disconnected
  | recover
deriving DecidableEq, Repr

def AncsClientState.after (current : AncsClientState) : AncsClientSignal → AncsClientState
  | .disconnected => .disconnected
  | .serviceChanged => .recovering
  | .bootComplete => if current = .boot then .advertising else current
  | .connected => if current = .advertising then .connected else current
  | .encryptionStarted => if current = .connected then .encrypting else current
  | .bonded => if current = .encrypting then .bonded else current
  | .discoveryStarted =>
    if current = .bonded ∨ current = .recovering then .discoveringAncs else current
  | .dataSubscribeStarted =>
    if current = .discoveringAncs then .subscribingDataSource else current
  | .dataSubscribed =>
    if current = .subscribingDataSource then .subscribingNotificationSource else current
  | .notificationSubscribed =>
    if current = .subscribingNotificationSource then .ancsReady else current
  | .recover => if current = .disconnected then .advertising else current

abbrev BdAddr := BitVec 48

structure BleEnrollConfig where
  windowMs : UInt32
  bootHoldMs : UInt32
  buttonDebounceMs : UInt32
deriving DecidableEq, Repr

structure BleEnrollState where
  config : BleEnrollConfig
  hasBond : Bool
  bondedAddr : BdAddr
  windowOpen : Bool
  windowDeadlineMs : Int
deriving DecidableEq, Repr

structure BleEnrollButton where
  config : BleEnrollConfig
  stablePressed : Bool
  lastSamplePressed : Bool
  fired : Bool
  lastChangeMs : Int
  pressedSinceMs : Int
deriving DecidableEq, Repr

namespace BleEnrollConfig

def enrollWindowMs (config : BleEnrollConfig) : Int :=
  if config.windowMs = 0 then 120000 else config.windowMs.toNat

def holdMs (config : BleEnrollConfig) : Int :=
  if config.bootHoldMs = 0 then 3000 else config.bootHoldMs.toNat

def debounceMs (config : BleEnrollConfig) : Int :=
  if config.buttonDebounceMs = 0 then 20 else config.buttonDebounceMs.toNat

end BleEnrollConfig

namespace BleEnrollState

def init (config : BleEnrollConfig) : BleEnrollState where
  config
  hasBond := false
  bondedAddr := 0
  windowOpen := false
  windowDeadlineMs := 0

def closeWindow (state : BleEnrollState) : BleEnrollState :=
  { state with windowOpen := false, windowDeadlineMs := 0 }

/-- `ble_enroll_open_window`; false stands for `ESP_ERR_INVALID_STATE`. -/
def openWindow (state : BleEnrollState) (nowMs : Int) : BleEnrollState × Bool :=
  if state.hasBond then (state.closeWindow, false)
  else
    ({ state with
      windowOpen := true
      windowDeadlineMs := nowMs + state.config.enrollWindowMs }, true)

def windowActive (state : BleEnrollState) (nowMs : Int) : Bool :=
  state.windowOpen && decide (nowMs < state.windowDeadlineMs)

def shouldAdvertise (state : BleEnrollState) (nowMs : Int) : Bool :=
  state.hasBond || state.windowActive nowMs

def noteBonded (state : BleEnrollState) (peer : BdAddr) : BleEnrollState :=
  closeWindow { state with bondedAddr := peer, hasBond := true }

def clearBond (state : BleEnrollState) : BleEnrollState :=
  { state with bondedAddr := 0, hasBond := false }

end BleEnrollState

namespace BleEnrollButton

def init (config : BleEnrollConfig) : BleEnrollButton where
  config
  stablePressed := false
  lastSamplePressed := false
  fired := false
  lastChangeMs := 0
  pressedSinceMs := 0

def update (button : BleEnrollButton) (pressed : Bool) (nowMs : Int) : BleEnrollButton × Bool :=
  let sampled := if pressed = button.lastSamplePressed then button
    else { button with lastSamplePressed := pressed, lastChangeMs := nowMs }
  if nowMs - sampled.lastChangeMs < sampled.config.debounceMs then (sampled, false)
  else
    let stable := if sampled.stablePressed = pressed then sampled
      else { sampled with
        stablePressed := pressed
        fired := false
        pressedSinceMs := if pressed then nowMs else 0 }
    if !stable.stablePressed || stable.fired then (stable, false)
    else if stable.config.holdMs ≤ nowMs - stable.pressedSinceMs then
      ({ stable with fired := true }, true)
    else (stable, false)

end BleEnrollButton
