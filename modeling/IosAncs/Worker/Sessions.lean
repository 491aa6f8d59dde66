import IosAncs.Client.Outgoing
import IosAncs.Foundation.Epochs
import IosAncs.Worker.Context

/-!
The Bluetooth task and the worker around the generation and the work queue. The stack
calls back in one task, one callback at a time; timers and public calls run beside it. A
step is one section of a callback or of such a call, or one part of the worker's loop
between two of its looks at what is shared. The source is `ancs_client.c`.
-/
open Runs Sections Client

/-- The Kconfig values that the sessions rest on. -/
structure SessionConfig where
  worker : WorkerConfig
  workQueueLength : Nat
  maxFragmentSize : Nat
  workQueueLength_range : 8 ≤ workQueueLength ∧ workQueueLength ≤ 64

def SessionConfig.default : SessionConfig where
  worker := WorkerConfig.default
  workQueueLength := 24
  maxFragmentSize := 512
  workQueueLength_range := by decide

inductive BluetoothEvent where
  | gap (event : GapEvent)
  | gattc (gattcIf : Option Nat) (event : GattcEvent)
deriving DecidableEq, Repr

def BluetoothEvent.body (maxFragmentSize : Nat) : BluetoothEvent → Client Unit
  | .gap event => gapEventHandler event
  | .gattc gattcIf event => gattcCallback maxFragmentSize gattcIf event

/-- The timers, the public calls, and what the worker does to the connection. -/
inductive SideCall where
  | advertisingRetry
  | enrollTimeout
  | enrollButton
  | discoveryRetry
  | requestEnroll
  | replaceEnrollment (confirmed : Bool)
  | setPairingAllowed (allowed : Bool)
  | startAdvertising
  | stopAdvertising
  | checkConnectionDeadline
  | recoverDataStream
deriving DecidableEq, Repr

def SideCall.body : SideCall → Client Unit
  | .advertisingRetry => Client.startAdvertising
  | .enrollTimeout => enrollTimeoutCallback
  | .enrollButton => enrollButtonCallback
  | .discoveryRetry => discoveryRetryCallback
  | .requestEnroll => discard Client.requestEnroll
  | .replaceEnrollment confirmed => discard (Client.replaceEnrollment confirmed)
  | .setPairingAllowed allowed => Client.setPairingAllowed allowed
  | .startAdvertising => discard startAdvertisingCall
  | .stopAdvertising => Client.stopAdvertising
  | .checkConnectionDeadline => Client.checkConnectionDeadline
  | .recoverDataStream => Client.recoverDataStream

/-- Where `worker_task` is: before its loop, at the head of a turn, about to receive,
    with an item whose generation is still to be compared, or past it. -/
inductive WorkerPosition where
  | starting
  | head
  | receiving
  | holding (item : WorkItem) (session : Nat)
  | finishing
deriving DecidableEq, Repr

/-- The sessions are numbered without wrapping. Their numbers record what was done and
    are read by nothing. -/
structure SessionSystem (config : SessionConfig) where
  client : ClientContext
  /-- what is left of the callback under way -/
  bluetooth : Client Unit
  sides : List (Client Unit)
  worker : AncsWorker config.worker
  position : WorkerPosition
  session : Nat
  /-- the session began with a CONNECT -/
  begunByConnect : Bool
  /-- the sessions in which the items of the work queue were sent -/
  sessions : List Nat
  /-- the session at the worker's last look at the generation, and at its last reset -/
  looked : Nat
  entered : Nat
  /-- the sessions of the events that the worker accepted, newest first -/
  accepted : List Nat

inductive SessionAction where
  | event (event : BluetoothEvent)
  | bluetooth (env : ClientEnv)
  | call (call : SideCall)
  | side (thread : Nat) (env : ClientEnv)
  /-- the worker goes on; of the turn only the answers are taken -/
  | work (turn : WorkerTurn)

def ClientContext.waitingWork (s : ClientContext) : List WorkItem :=
  match s.workQueue with
  | none => []
  | some queue => queue.items

namespace SessionSystem
variable {config : SessionConfig}

/-- The system as `ancs_client_init` leaves it, with whatever it found of bonds. -/
def boot (config : SessionConfig) (client : ClientContext) : SessionSystem config where
  client := { client with
    generation := 0
    workQueue := some { length := config.workQueueLength, items := [] } }
  bluetooth := pure ()
  sides := []
  worker := WorkerContext.boot 0
  position := .starting
  session := 0
  begunByConnect := false
  sessions := []
  looked := 0
  entered := 0
  accepted := []

def afterSection (sys : SessionSystem config) (client : ClientContext) : SessionSystem config :=
  let begins := client.generation ≠ sys.client.generation
  let grows := sys.client.waitingWork.length < client.waitingWork.length
  { sys with
    client
    session := if begins then sys.session + 1 else sys.session
    begunByConnect := if begins then Outgoing.connects sys.client client else sys.begunByConnect
    sessions := if grows then sys.sessions ++ [sys.session] else sys.sessions }

def startWorker (sys : SessionSystem config) : SessionSystem config :=
  { sys with
    worker := WorkerContext.boot sys.client.generation
    position := .head
    looked := sys.session
    entered := sys.session }

def look (sys : SessionSystem config) : SessionSystem config :=
  { sys with
    worker := sys.worker.step (.checkGeneration sys.client.generation)
    position := .receiving
    looked := sys.session
    entered := if sys.worker.generation ≠ sys.client.generation then sys.session else sys.entered }

def receive (sys : SessionSystem config) : SessionSystem config :=
  match sys.client.workQueue with
  | some { length, items := item :: rest } =>
    { sys with
      client := { sys.client with workQueue := some { length, items := rest } }
      position := .holding item (sys.sessions.headD sys.session)
      sessions := sys.sessions.tail }
  | _ => { sys with position := .finishing }

/-- The comparison of the item's generation and what is done with the item. -/
def handle (sys : SessionSystem config) (turn : WorkerTurn) (item : WorkItem) (session : Nat) :
    SessionSystem config :=
  if item.generation ≠ sys.client.generation then { sys with position := .head }
  else
    let handled := { sys with
      worker := sys.worker.step (turn.itemStep item)
      position := .finishing }
    match item.data with
    | .reset => { handled with looked := sys.session, entered := sys.session }
    | .event event =>
      if (sys.worker.duplicateEvent event turn.event.timestampMs).2 then handled
      else { handled with accepted := session :: sys.accepted }
    | .fragment _ => handled
    | .writeResult _ => handled

def finish (sys : SessionSystem config) (turn : WorkerTurn) : SessionSystem config :=
  { sys with
    worker := (sys.worker.step (.checkDeadline turn.nowMs turn.deadline)).step
      (.startNext turn.start)
    position := .head }

def work (sys : SessionSystem config) (turn : WorkerTurn) : SessionSystem config :=
  match sys.position with
  | .starting => sys.startWorker
  | .head => sys.look
  | .receiving => sys.receive
  | .holding item session => sys.handle turn item session
  | .finishing => sys.finish turn

def step (sys : SessionSystem config) : SessionAction → SessionSystem config
  | .event event =>
    match sys.bluetooth with
    | .done _ => { sys with bluetooth := event.body config.maxFragmentSize }
    | .critical _ _ _ => sys
  | .bluetooth env =>
    match sys.bluetooth with
    | .done _ => sys
    | .critical _ update next =>
      { sys.afterSection (update env sys.client) with bluetooth := next env sys.client }
  | .call call => { sys with sides := sys.sides ++ [call.body] }
  | .side thread env =>
    match sys.sides[thread]? with
    | some (.critical _ update next) =>
      { sys.afterSection (update env sys.client) with
        sides := sys.sides.set thread (next env sys.client) }
    | _ => sys
  | .work turn => sys.work turn

end SessionSystem
