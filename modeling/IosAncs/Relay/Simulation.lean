import IosAncs.Relay.Control

/-!
The relay simulates its ledger: what holds at the stage of a call is kept by every
section, and with it each of them is a move.
-/
open Runs RelayContext RelayPolicy RelayLedger

namespace RelaySystem
variable {limits : AncsLimits} {rules : RelayRules limits} {sys : RelaySystem limits}

theorem stopped_idle (attended : StopRun.Attended sys.run) (waited : sys.workerStopped = true) :
    sys.run.worker.hand = [] := by
  simp only [workerStopped, Bool.and_eq_true, Bool.not_eq_true'] at waited
  rw [attended.deleted waited.1]
  rfl

theorem unopened_client {run : StopRun} (client : run.ctx.client.isSome) : Unopened run := by
  intro closed
  rw [closed] at client
  cases client

theorem attended_withCtx {run : StopRun} (attended : StopRun.Attended run) {ctx : RelayContext}
    (tasks : ctx.tasks = run.ctx.tasks) : StopRun.Attended { run with ctx } :=
  StopRun.attended_same attended tasks rfl (.inl rfl)

theorem controlled_swap {config : ProvisionConfig} {topics : RelayTopics} (shouldStart : Bool)
    (controlled : Controlled sys) (built : MqttRelay.buildAllTopics config = .ok topics)
    (accepting : sys.run.ctx.acceptingObservers = false) (idle : sys.run.worker.hand = []) :
    Controlled (sys.swap config topics shouldStart) := by
  obtain ⟨flushes, _, same, _, tasks⟩ := swapLocked_flushes sys.run.ctx
  exact ⟨attended_withCtx controlled.attended tasks, built, same.trans accepting, flushes.queue, idle⟩

theorem controlled_terminal (controlled : Controlled sys) :
    Controlled (sys.flushing terminalLocked .failedQuiet) := by
  obtain ⟨flushes, _, accepting, _, tasks⟩ := terminalLocked_flushes sys.run.ctx
  exact ⟨attended_withCtx controlled.attended tasks, accepting, flushes.queue⟩

theorem controlled_cleanup (controlled : Controlled sys)
    (closed : sys.run.ctx.acceptingObservers = false) (idle : sys.run.worker.hand = []) :
    Controlled (sys.flushing cleanupRuntimeLocked .ready) := by
  obtain ⟨_, _, accepting, tasks⟩ := cleanupRuntimeLocked_flushes sys.run.ctx
  exact ⟨attended_withCtx controlled.attended tasks, fun _ => ⟨rfl, idle, accepting.trans closed⟩⟩

theorem controlled_leave (controlled : Controlled sys) (gone : sys.run.ctx.workerTask = false) :
    Controlled sys.leave := by
  have deleted := controlled.attended.deleted gone
  have idle : sys.run.worker.hand = [] := by
    rw [deleted]
    rfl
  refine ⟨⟨fun _ => deleted, fun _ _ => rfl, ?_⟩, fun _ => ⟨rfl, idle, rfl⟩⟩
  intro holding
  exact absurd idle holding

theorem controlled_outer (controlled : Controlled sys) (created : Option Nat) :
    Controlled (sys.outer created) := by
  have attended := controlled.attended
  have holds := controlled.stage
  unfold outer
  cases at_ : sys.stage with
  | ready | restarting => exact controlled
  | replacing config topics shouldStart =>
    rw [at_] at holds
    obtain ⟨built, accepting, unopened⟩ := holds
    dsimp only
    split
    · next closed => exact controlled_swap shouldStart controlled built accepting (unopened closed).2.1
    · obtain ⟨flushes, _, same, _⟩ := disconnect_flushes sys.run.ctx
      exact ⟨StopRun.attended_stop attended, built, same.trans accepting, flushes.queue,
        .inl ⟨sys.run.ctx.mqttConnected, rfl⟩⟩
  | closing config topics shouldStart =>
    rw [at_] at holds
    obtain ⟨built, accepting, empty, idle⟩ := holds
    dsimp only
    split
    · next waited =>
      simp only [stopped, Bool.and_eq_true, decide_eq_true_eq] at waited
      refine ⟨attended, built, accepting, empty, ?_⟩
      rcases idle with ⟨publishOffline, flushed⟩ | idle
      · rw [waited.1] at flushed
        cases flushed
      · exact idle
    · refine ⟨attended, ?_⟩
      rw [at_]
      exact ⟨built, accepting, empty, idle⟩
  | swapping config topics shouldStart =>
    rw [at_] at holds
    obtain ⟨built, accepting, _, idle⟩ := holds
    exact controlled_swap shouldStart controlled built accepting idle
  | creating shouldStart =>
    dsimp only
    split
    · exact controlled_terminal controlled
    · refine ⟨attended_withCtx attended rfl, ?_⟩
      cases shouldStart with
      | false => exact unopened_client rfl
      | true => rfl
  | starting =>
    rw [at_] at holds
    refine ⟨StopRun.attended_startCall attended false, ?_⟩
    have keptLink := StopRun.keptLink_startCall sys.run false
    simp only [RelayStage.Holds, keptLink.client]
    exact holds
  | undoing =>
    rw [at_] at holds
    obtain ⟨_, client, _⟩ := disconnect_flushes sys.run.ctx
    refine ⟨StopRun.attended_stop attended, ?_⟩
    simp only [stopping, RelayStage.Holds, StopRun.stop, client]
    exact holds
  | undoingStop =>
    rw [at_] at holds
    dsimp only
    split
    · exact ⟨attended, holds⟩
    · exact controlled
  | failed => exact controlled_terminal controlled
  | failedQuiet =>
    rw [at_] at holds
    dsimp only
    split
    · exact controlled
    · exact ⟨attended_withCtx attended rfl, holds⟩
  | failedWorker =>
    rw [at_] at holds
    dsimp only
    split
    · next waited => exact ⟨attended, holds.1, holds.2, stopped_idle attended waited⟩
    · exact controlled
  | failedQueue =>
    rw [at_] at holds
    obtain ⟨accepting, _, idle⟩ := holds
    exact ⟨attended_withCtx attended rfl, fun _ => ⟨rfl, idle, accepting⟩⟩
  | leaving =>
    dsimp only
    split
    · exact ⟨attended, trivial⟩
    · exact ⟨StopRun.attended_stop attended, trivial⟩
  | leavingStop =>
    dsimp only
    split
    · exact ⟨attended, trivial⟩
    · exact controlled
  | leavingFence => exact ⟨attended_withCtx attended rfl, trivial⟩
  | leavingWorker =>
    dsimp only
    split
    · next waited =>
      simp only [workerStopped, Bool.and_eq_true, Bool.not_eq_true'] at waited
      exact ⟨attended, waited.1⟩
    · exact controlled
  | leavingContext =>
    rw [at_] at holds
    exact controlled_leave controlled holds
  | preparing =>
    rw [at_] at holds
    obtain ⟨_, accepting, _, _, idle⟩ := holds
    dsimp only
    split
    · exact controlled_cleanup controlled accepting idle
    · exact ⟨attended_withCtx attended rfl, rfl⟩
  | opening =>
    rw [at_] at holds
    exact ⟨attended_withCtx attended rfl, unopened_client holds⟩

structure Leaves (before after : RelayContext) : Prop where
  client : after.client = before.client
  accepting : after.acceptingObservers = before.acceptingObservers
  tasks : after.tasks = before.tasks

theorem controlled_leaves (controlled : Controlled sys) {ctx : RelayContext}
    (leaves : Leaves sys.run.ctx ctx) (queue : ctx.queue = sys.run.ctx.queue) :
    Controlled (sys.withCtx ctx) := by
  have quieter : StopRun.Quieter sys.run { sys.run with ctx } := by
    constructor
    · exact leaves.client
    · exact leaves.accepting
    · rw [queue]
      exact id
    · rw [queue]
      exact id
    · exact fun _ idle => idle
  refine ⟨attended_withCtx controlled.attended leaves.tasks, ?_⟩
  apply holds_quieter quieter rfl _ controlled.stage
  intro gone
  exact (Prod.mk.inj leaves.tasks).1.trans gone

theorem controlled_accepting (controlled : Controlled sys) {ctx : RelayContext}
    (leaves : Leaves sys.run.ctx ctx) (accepting : sys.run.ctx.acceptingObservers = true) :
    Controlled (sys.withCtx ctx) := by
  refine ⟨attended_withCtx controlled.attended leaves.tasks, ?_⟩
  have holds := controlled.stage
  simp only [withCtx]
  cases at_ : sys.stage with
  | ready =>
    rw [at_] at holds
    intro closed
    have none := holds (leaves.client.symm.trans closed)
    rw [accepting] at none
    cases none.2.2
  | replacing config topics shouldStart | closing config topics shouldStart
  | swapping config topics shouldStart | creating shouldStart | preparing =>
    rw [at_] at holds
    cases accepting.symm.trans holds.2.1
  | failedQuiet | failedWorker | failedQueue =>
    rw [at_] at holds
    cases accepting.symm.trans holds.1
  | starting | restarting | undoing | undoingStop | failed | opening =>
    rw [at_] at holds
    simp only [RelayStage.Holds, leaves.client]
    exact holds
  | leaving | leavingStop | leavingFence | leavingWorker => trivial
  | leavingContext =>
    rw [at_] at holds
    exact (Prod.mk.inj leaves.tasks).1.trans holds

theorem observeFinish_leaves (ctx : RelayContext) (bootNonce : UInt32)
    (sighting : RelaySighting limits) (address : Nat) (payload : List UInt8) (nowMs : UInt64) :
    Leaves ctx (ctx.observeFinish bootNonce sighting address payload nowMs) := by
  unfold RelayContext.observeFinish
  dsimp only
  split
  · constructor <;> rfl
  · split
    · constructor <;> rfl
    · split
      · split <;> constructor <;> rfl
      · constructor <;> rfl

theorem online_accepting {ctx : RelayContext} (online : ctx.online = true) :
    ctx.acceptingObservers = true := by
  simp only [RelayContext.online, Bool.and_eq_true] at online
  exact online.1.1

theorem controlled_finish (controlled : Controlled sys) (index : Nat) (nowMs : UInt64) :
    Controlled (sys.finish index nowMs) := by
  unfold finish
  split
  · next sighting address payload found =>
    have leaves := observeFinish_leaves sys.run.ctx sys.bootNonce sighting address payload nowMs
    dsimp only
    split
    · next outcome =>
      have frees := finish_frees address payload nowMs (.inl outcome)
      have next := controlled_leaves controlled leaves frees.queue
      exact ⟨next.attended, next.stage⟩
    · next outcome =>
      obtain ⟨_, online, _⟩ := finish_accepted address payload nowMs outcome
      have next := controlled_accepting controlled leaves (online_accepting online)
      exact ⟨next.attended, next.stage⟩
    · next outcome =>
      have frees := finish_frees address payload nowMs (.inr outcome)
      have next := controlled_leaves controlled leaves frees.queue
      exact ⟨next.attended, next.stage⟩
    · exact controlled
  · exact controlled

theorem controlled_observe (controlled : Controlled sys) (notification : AncsNotification limits) :
    Controlled (sys.observe notification) := by
  unfold observe
  split
  · next ctx begins =>
    have leaves : Leaves sys.run.ctx ctx ∧ ctx.queue = sys.run.ctx.queue := by
      unfold RelayContext.observeBegin at begins
      dsimp only at begins
      split at begins
      · cases begins
        exact ⟨by constructor <;> rfl, rfl⟩
      · split at begins
        · cases begins
        · cases begins
          exact ⟨by constructor <;> rfl, rfl⟩
    exact controlled_leaves controlled leaves.1 leaves.2
  · exact ⟨controlled.attended, controlled.stage⟩

theorem controlled_allocate (controlled : Controlled sys) (index : Nat)
    (payload : Option (List UInt8)) : Controlled (sys.allocate index payload) := by
  unfold allocate
  split
  · have leaves : Leaves sys.run.ctx (countDroppedEnqueue sys.run.ctx) := by constructor <;> rfl
    have next := controlled_leaves controlled leaves rfl
    exact ⟨next.attended, next.stage⟩
  · exact ⟨controlled.attended, controlled.stage⟩
  · exact controlled

theorem prepareContext_builds {config : ProvisionConfig} {device : MqttRelayDeviceInfo}
    {memory : Bool} {topics : RelayTopics}
    (prepared : MqttRelay.prepareContext config device memory = .ok topics) :
    MqttRelay.buildAllTopics config = .ok topics := by
  unfold MqttRelay.prepareContext at prepared
  cases known : MqttRelay.deviceInfoIsValid device with
  | false =>
    rw [known] at prepared
    cases prepared
  | true =>
    cases built : MqttRelay.buildAllTopics config with
    | error code =>
      rw [known, built] at prepared
      cases prepared
    | ok found =>
      rw [known, built] at prepared
      cases memory with
      | false => cases prepared
      | true =>
        cases prepared
        rfl

theorem resting_ready (rests : sys.resting = true) : sys.stage = .ready := by
  simp only [resting, Bool.and_eq_true, decide_eq_true_eq] at rests
  exact rests.1

theorem controlled_call (controlled : Controlled sys) (request : RelayCall) :
    Controlled (sys.call request) := by
  have attended := controlled.attended
  have holds := controlled.stage
  unfold call
  split
  · exact controlled
  · next rests =>
    simp only [Bool.not_eq_true', Bool.not_eq_false] at rests
    rw [resting_ready rests] at holds
    cases request with
    | deinit => exact ⟨attended, trivial⟩
    | reconfigure config =>
      dsimp only
      split
      · exact controlled
      · next topics built =>
        split
        · exact controlled
        · refine ⟨attended_withCtx attended rfl, built, rfl, ?_⟩
          intro closed
          obtain ⟨queue, idle, _⟩ := holds closed
          exact ⟨queue, idle, rfl⟩
    | init config device memory bootNonce =>
      dsimp only
      split
      · exact controlled
      · next started =>
        simp only [Bool.or_eq_true, decide_eq_true_eq, not_or, not_not] at started
        obtain ⟨_, idle, accepting⟩ := holds started.1
        split
        · exact controlled
        · next topics prepared =>
          exact ⟨attended_withCtx attended rfl, prepareContext_builds prepared, accepting, started.1,
            rfl, idle⟩

theorem controlled_boot : Controlled (boot : RelaySystem limits) :=
  ⟨⟨fun _ => rfl, fun _ _ => rfl, fun holding => absurd rfl holding⟩, fun _ => ⟨rfl, rfl, rfl⟩⟩

theorem controlled_step (controlled : Controlled sys) (action : RelayAction limits) :
    Controlled (sys.step action) := by
  cases action with
  | inner action => exact controlled_inner controlled action
  | setWifiConnected connected =>
    have leaves : Leaves sys.run.ctx { sys.run.ctx with wifiConnected := connected } := by
      constructor <;> rfl
    exact controlled_leaves controlled leaves rfl
  | observe notification => exact controlled_observe controlled notification
  | allocate index payload => exact controlled_allocate controlled index payload
  | finish index nowMs => exact controlled_finish controlled index nowMs
  | call request => exact controlled_call controlled request
  | outer created => exact controlled_outer controlled created

theorem move_link (connected : Bool) (allowed : sys.connects (.setWifiConnected connected) = true →
      rules.connects sys.ledger) :
    Move rules sys.ledger (sys.withCtx { sys.run.ctx with wifiConnected := connected }).ledger := by
  have link : Move rules sys.ledger { sys.ledger with
      online := sys.run.ctx.acceptingObservers && connected && sys.run.ctx.mqttConnected } := by
    apply Move.link
    intro up
    right
    apply allowed
    simp only [Bool.and_eq_true] at up
    simp [connects, up]
  exact link

theorem move_call (controlled : Controlled sys) (request : RelayCall) :
    Move rules sys.ledger (sys.call request).ledger := by
  have holds := controlled.stage
  unfold call
  split
  · exact move_same
  · next rests =>
    simp only [Bool.not_eq_true', Bool.not_eq_false] at rests
    rw [resting_ready rests] at holds
    cases request with
    | deinit => exact move_same
    | reconfigure config =>
      dsimp only
      split
      · exact move_same
      · split
        · exact move_same
        · have link : Move rules sys.ledger { sys.ledger with online := false } :=
            .link false (by simp)
          exact link
    | init config device memory bootNonce =>
      dsimp only
      split
      · exact move_same
      · next started =>
        simp only [Bool.or_eq_true, decide_eq_true_eq, not_or, not_not] at started
        obtain ⟨queue, idle, _⟩ := holds started.1
        split
        · exact move_same
        · exact move_prepare bootNonce started.1 queue idle

theorem move_within (controlled : Controlled sys) (action : StopAction)
    (obeys : Obeys rules sys (.inner action)) :
    Move rules sys.ledger (sys.inner action).ledger := by
  have taken (other : ∀ address seen, action ≠ .observe address seen) :=
    move_inner controlled.attended action other obeys
  cases action with
  | observe address seen => exact move_same
  | stop | start =>
    simp only [inner]
    split
    · exact taken (by simp)
    · exact move_same
  | event | handler | worker => exact taken (by simp)
  | lifecycle error nowMs =>
    simp only [inner]
    split
    · exact taken (by simp)
    · exact taken (by simp)
    · exact taken (by simp)
    · exact taken (by simp)
    · exact taken (by simp)
    · exact move_same

theorem step_moves (controlled : Controlled sys) {action : RelayAction limits}
    (obeys : Obeys rules sys action) : Move rules sys.ledger (sys.step action).ledger := by
  cases action with
  | inner action => exact move_within controlled action obeys
  | setWifiConnected connected => exact move_link connected obeys.connects
  | observe notification => exact move_observe notification
  | allocate index payload => exact move_allocate index payload
  | finish index nowMs => exact move_finish index nowMs obeys
  | call request => exact move_call controlled request
  | outer created => exact move_outer controlled created obeys.connects

/-- A property of the ledger that the moves keep holds in every state of a run whose
    sections obey the rules. -/
theorem all_ledgers {Inv : RelayLedger limits → Prop}
    (start : Inv (boot : RelaySystem limits).ledger)
    (moved : ∀ b b', Inv b → Move rules b b' → Inv b') (actions : List (RelayAction limits))
    (obeys : AllSteps step (Obeys rules) boot actions) :
    AllStates step (fun sys => Inv sys.ledger) boot actions := by
  have together : AllStates step (fun sys => Controlled sys ∧ Inv sys.ledger) boot actions := by
    apply all_states_of_steps _ ⟨controlled_boot, start⟩ obeys
    intro sys action holds obeys
    exact ⟨controlled_step holds.1 action, moved _ _ holds.2 (step_moves holds.1 obeys)⟩
  exact all_states_mono (fun _ holds => holds.2) together

end RelaySystem
