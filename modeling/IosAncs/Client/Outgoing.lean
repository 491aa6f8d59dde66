import IosAncs.Client.Moves

/-!
What the client sends to the worker. A callback of GATT begins a session, owes the reset
of the session where it sends one, and stamps each item with the session's generation.
No other section of any call touches the generation or the work queue.
-/
open Runs Sections Client ClientContext

namespace Outgoing
variable {α β : Type}

def outgoing (s : ClientContext) : UInt32 × Option WorkQueue := (s.generation, s.workQueue)

def Alike : ClientMove → Prop
  | .queued | .connected _ _ | .disconnected | .serviceChanged | .initFailed => False
  | _ => True

theorem outgoing_of_core {s t : ClientContext} (same : ClientMove.core s = ClientMove.core t) :
    outgoing s = outgoing t :=
  (congrArg outgoing same : outgoing (ClientMove.core s) = outgoing (ClientMove.core t))

theorem takes_outgoing {label : ClientSection} {env : ClientEnv} {s s' : ClientContext}
    {move : ClientMove} (takes : move.Takes label env s s') (alike : Alike move) :
    outgoing s' = outgoing s := by
  cases move with
  | keep | windowClosed | guardCleared | reopenTaken | retryTaken | discoveryStopped | registered
  | mtuReady | closing | handlesInvalidated | readyLost | dataSubscribed | authenticated =>
    cases takes
    rfl
  | named | reopenSet | enrollInit | replaceSet | replaceReported | notificationSubscribed =>
    obtain ⟨_, rfl⟩ := takes
    rfl
  | «opened» | cccdFound | windowOpened | serviceFound => obtain ⟨_, _, rfl⟩ := takes; rfl
  | handlesFound | subscribing => obtain ⟨_, _, _, rfl⟩ := takes; rfl
  | discoveryStarted => obtain ⟨_, _, _, _, rfl⟩ := takes; rfl
  | retryScheduled => obtain ⟨_, _, _, _, _, rfl⟩ := takes; rfl
  | aside => exact outgoing_of_core takes
  | bondsRead =>
    rcases takes with same | ⟨first, same⟩
    · exact (outgoing_of_core same).trans rfl
    · exact (outgoing_of_core same).trans rfl
  | deadlineChecked now =>
    cases takes
    unfold ClientContext.deadlineChecked
    dsimp only
    split <;> split <;> rfl
  | authFailed failReason failureAtMs missing =>
    cases takes
    unfold ClientContext.authFailed recordAuthFailureLocked
    extract_lets first before count counted
    split <;> rfl
  | queued | connected | disconnected | serviceChanged | initFailed => cases alike

abbrev Keeps (program : Client α) : Prop :=
  Always (fun _ _ s s' => outgoing s' = outgoing s) program

theorem keeps_of_makes {program : Client α} (h : Makes Alike program) : Keeps program :=
  always_mono (fun _ _ _ _ ⟨_, alike, takes, _⟩ => takes_outgoing takes alike) h

theorem alike_plain (move : ClientMove) (plain : move.Plain) : Alike move := by
  cases move with
  | queued | connected | disconnected | serviceChanged | initFailed => exact plain
  | _ => trivial

theorem alike_subscribes (move : ClientMove) (subscribes : move.Subscribes) : Alike move := by
  cases move with
  | handlesFound | subscribing | cccdFound | notificationSubscribed => trivial
  | _ => exact subscribes.elim

theorem alike_replaces (move : ClientMove) (replaces : move.Replaces) : Alike move := by
  cases move with
  | replaceSet | replaceReported | reopenTaken => trivial
  | _ => exact replaces.elim

/-- Where a callback stands: the generation it left, and whether it owes the worker the
    reset of the session. -/
structure Phase where
  generation : UInt32
  owed : Bool
deriving DecidableEq, Repr

def Fits (phase : Phase) (s : ClientContext) : Prop := s.generation = phase.generation

def sent (item : WorkItem) : Option WorkQueue → Option WorkQueue
  | none => none
  | some queue =>
    if queue.items.length < queue.length then
      some { queue with items := queue.items ++ [item] }
    else some queue

def connects (s s' : ClientContext) : Bool := !s.connected && s'.connected

inductive Turn (phase : Phase) (s s' : ClientContext) : Phase → Prop
  | keep (same : outgoing s' = outgoing s) : Turn phase s s' phase
  | begin (owed : Bool) (paid : phase.owed = false) (next : s'.generation = s.generation + 1)
      (queue : s'.workQueue = s.workQueue) (silent : connects s s' = !owed) :
      Turn phase s s' { generation := phase.generation + 1, owed }
  | send (data : WorkItemData) (debt : phase.owed = decide (data = .reset))
      (same : s'.generation = s.generation)
      (queue : s'.workQueue = sent { generation := phase.generation, data } s.workQueue) :
      Turn phase s s' { phase with owed := false }

abbrev Paid (_ : α) (phase : Phase) : Prop := phase.owed = false

def Speaks (program : Client α) : Prop :=
  ∀ generation, Follows Fits Turn Paid { generation, owed := false } program

theorem follows_of_speaks {program : Client α} (h : Speaks program) {phase : Phase}
    (paid : phase.owed = false) : Follows Fits Turn Paid phase program := by
  have same : phase = { generation := phase.generation, owed := false } := by rw [← paid]
  rw [same]
  exact h phase.generation

theorem speaks_of_makes {program : Client α} (h : Makes Alike program) : Speaks program := by
  intro generation
  apply follows_of_always ?_ (keeps_of_makes h)
  · intro _
    rfl
  · intro _ _ s s' _ same
    exact .keep same

theorem speaks_bind {first : Client α} {rest : α → Client β} (h : Speaks first)
    (later : ∀ value, Speaks (rest value)) : Speaks (first >>= rest) := by
  intro generation
  apply follows_bind Paid (h generation)
  intro value phase paid
  exact follows_of_speaks (later value) paid

theorem speaks_when {condition : Prop} [Decidable condition] {program : Client Unit}
    (h : Speaks program) : Speaks (if condition then program else pure ()) := by
  split
  · exact h
  · exact speaks_of_makes trivial

theorem follows_enqueueWork {phase : Phase} (data : WorkItemData)
    (debt : phase.owed = decide (data = .reset)) :
    Follows Fits Turn Paid phase
      (discard <| enqueueWork { generation := phase.generation, data } : Client Unit) := by
  apply follows_bind Paid
  · apply follows_atomic
    intro env s fits
    refine ⟨_, .send data debt ?_ ?_, rfl⟩
    · split
      · rfl
      · split <;> rfl
    · cases found : s.workQueue with
      | none => exact found
      | some queue =>
        dsimp only [sent]
        split
        · rfl
        · exact found
  · intro _ phase paid
    exact paid

theorem speaks_enqueueCurrent {data : WorkItemData} (message : data ≠ .reset) :
    Speaks (do
      let generation ← currentGeneration
      discard <| enqueueWork { generation, data }) := by
  intro generation
  apply follows_bind fun value phase => phase = { generation := value, owed := false }
  · apply follows_atomic
    intro env s fits
    exact ⟨_, .keep rfl, congrArg (Phase.mk · false) fits.symm⟩
  · rintro value phase rfl
    exact follows_enqueueWork data (decide_eq_false message).symm

theorem follows_reset {phase : Phase} {rest : Client Unit} (owed : phase.owed = true)
    (later : Speaks rest) :
    Follows Fits Turn Paid phase (do
      discard <| enqueueWork { generation := phase.generation, data := .reset }
      rest) := by
  apply follows_bind Paid (follows_enqueueWork .reset owed)
  intro _ next paid
  exact follows_of_speaks later paid

theorem speaks_resetConnectionSession : Speaks resetConnectionSession := by
  intro generation
  apply follows_bind fun value phase => phase = { generation := value, owed := true }
  · apply follows_atomic
    intro env s fits
    refine ⟨{ generation := generation + 1, owed := true }, ?_, ?_⟩
    · exact .begin true rfl rfl rfl (Bool.and_false _)
    · exact congrArg (Phase.mk · true) (congrArg (· + 1) fits.symm)
  · rintro value phase rfl
    exact follows_enqueueWork .reset rfl

def changedPhase (generation : UInt32) : Option UInt32 → Phase
  | none => { generation, owed := false }
  | some next => { generation := next, owed := true }

theorem speaks_handleServiceChanged : Speaks handleServiceChanged := by
  intro generation
  apply follows_bind fun value phase => phase = changedPhase generation value
  · apply follows_atomic
    intro env s fits
    dsimp only
    split
    · exact ⟨_, .keep rfl, rfl⟩
    · next open_ =>
      refine ⟨{ generation := generation + 1, owed := true }, ?_, ?_⟩
      · have connected : s.connected = true := by
          cases on : s.connected with
          | true => rfl
          | false => simp [on] at open_
        have silent : (!s.connected && s.connected) = false := Bool.not_and_self _
        exact .begin true rfl rfl rfl silent
      · exact congrArg (Phase.mk · true) (congrArg (· + 1) fits.symm)
  · intro value phase known
    cases value with
    | none =>
      rw [known]
      rfl
    | some next =>
      rw [known]
      apply follows_reset rfl
      apply speaks_of_makes
      apply always_bind (makes_transition alike_plain trivial _)
      intro _
      exact makes_startDiscovery alike_plain trivial

theorem speaks_connectEvt (peer : BdAddr) (connId : UInt16) : Speaks (connectEvt peer connId) := by
  apply speaks_bind (speaks_of_makes (makes_connectionPeerAllowed alike_plain peer))
  intro allowed
  apply speaks_when
  intro generation
  apply follows_bind Paid
  · apply follows_atomic
    intro env s fits
    dsimp only
    split
    · exact ⟨_, .keep rfl, rfl⟩
    · next free =>
      refine ⟨_, .begin false rfl rfl rfl ?_, rfl⟩
      have disconnected : s.connected = false := by simpa using free
      simp [connects, disconnected]
  · intro begun phase paid
    exact follows_of_speaks (speaks_when (speaks_of_makes (makes_transition alike_plain trivial _))) paid

theorem speaks_disconnectEvt (connId : UInt16) (peer : BdAddr) (reason : Int) :
    Speaks (disconnectEvt connId peer reason) := by
  apply speaks_bind (speaks_of_makes (makes_read trivial _))
  intro matched
  apply speaks_when
  apply speaks_bind (speaks_of_makes (makes_move .aside trivial fun _ _ => by rfl))
  intro _
  apply speaks_bind speaks_resetConnectionSession
  intro _
  apply speaks_of_makes
  apply always_bind (makes_transition alike_plain trivial _)
  intro _
  exact makes_reopen alike_plain alike_replaces fun _ => trivial

theorem speaks_notifyEvt (maxFragmentSize : Nat) (connId handle : UInt16) (value : List UInt8) :
    Speaks (notifyEvt maxFragmentSize connId handle value) := by
  apply speaks_bind (speaks_of_makes (makes_read trivial _))
  intro matched
  apply speaks_when
  apply speaks_bind (speaks_of_makes (makes_read trivial _))
  rintro ⟨notificationSource, dataSource⟩
  dsimp only
  split
  · split
    · exact speaks_of_makes trivial
    · exact speaks_enqueueCurrent nofun
  · apply speaks_when
    apply speaks_bind (speaks_of_makes (makes_read trivial _))
    intro memory
    exact speaks_when (speaks_enqueueCurrent nofun)

theorem speaks_writeCharEvt (connId handle : UInt16) (status : Int) :
    Speaks (writeCharEvt connId handle status) := by
  apply speaks_bind (speaks_of_makes (makes_read trivial _))
  intro matched
  apply speaks_when
  apply speaks_bind (speaks_of_makes (makes_read trivial _))
  intro controlPoint
  exact speaks_when (speaks_enqueueCurrent nofun)

theorem speaks_handleGattcEvent (maxFragmentSize : Nat) (gattcIf : Option Nat) (event : GattcEvent) :
    Speaks (handleGattcEvent maxFragmentSize gattcIf event) := by
  cases event with
  | reg success => exact speaks_of_makes (makes_move .aside trivial fun _ _ => by rfl)
  | connect peer connId => exact speaks_connectEvt peer connId
  | «open» connId peer success => exact speaks_of_makes (makes_openEvt alike_plain trivial connId peer success)
  | cfgMtu connId => exact speaks_of_makes (makes_cfgMtuEvt alike_plain trivial connId)
  | searchRes connId ancs startHandle endHandle =>
    exact speaks_of_makes (makes_searchResEvt alike_plain connId ancs startHandle endHandle)
  | searchCmpl connId success =>
    exact speaks_of_makes (makes_searchCmplEvt alike_plain trivial alike_subscribes connId success)
  | regForNotify handle success =>
    exact speaks_of_makes (makes_regForNotifyEvt alike_plain trivial alike_subscribes handle success)
  | writeDescr connId handle success =>
    exact speaks_of_makes (makes_writeDescrEvt alike_plain trivial alike_subscribes connId handle
      success)
  | notify connId handle value => exact speaks_notifyEvt maxFragmentSize connId handle value
  | writeChar connId handle status => exact speaks_writeCharEvt connId handle status
  | srvcChg peer =>
    apply speaks_bind (speaks_of_makes (makes_read trivial _))
    intro remote
    exact speaks_when speaks_handleServiceChanged
  | disconnect connId peer reason => exact speaks_disconnectEvt connId peer reason
  | other => exact speaks_of_makes trivial

theorem speaks_gattcCallback (maxFragmentSize : Nat) (gattcIf : Option Nat) (event : GattcEvent) :
    Speaks (gattcCallback maxFragmentSize gattcIf event) := by
  have handles : Speaks (if event ≠ .reg false then do
      let registered ← Client.query fun _ s => s.gattcIf
      if gattcIf = none ∨ gattcIf = registered then
        handleGattcEvent maxFragmentSize gattcIf event
      else pure ()
    else pure ()) := by
    apply speaks_when
    apply speaks_bind (speaks_of_makes (makes_read trivial _))
    intro registered
    exact speaks_when (speaks_handleGattcEvent maxFragmentSize gattcIf event)
  unfold gattcCallback
  dsimp only
  split
  · apply speaks_bind (speaks_of_makes (makes_move .aside trivial fun _ _ => by rfl))
    exact fun _ => handles
  · exact handles

theorem speaks_gapEventHandler (event : GapEvent) : Speaks (gapEventHandler event) := by
  apply speaks_of_makes
  apply makes_gapEventHandler alike_plain alike_replaces event fun _ => trivial
  cases event with
  | authCmpl _ success _ => cases success <;> trivial
  | removeBondDevComplete success => cases success with
    | false => trivial
    | true => exact ⟨fun _ => trivial, trivial⟩
  | _ => trivial

end Outgoing
