import IosAncs.Foundation.Sampling
import IosAncs.Relay.StatePublication

/-!
The order of the retained states: the worker and the coordinator sample the context and
the clock, and a state is newer than those before it unless the other publisher came
between the sample and the enqueue with a newer one.
-/
open CString Runs Sampling RelayContext RelayStatus

inductive StatePublisher where
  | worker
  | coordinator
deriving DecidableEq, Repr

namespace StateSample

def flight (sample : StateSample) : Flight Nat :=
  { taken := sample.takenAt, read := some sample.uptime }

end StateSample

namespace EnqueueRaw

def ahead : EnqueueRaw → Bool
  | .entering | .calling => true
  | .leaving _ => false

theorem ahead_step {ctx entered : RelayContext} {answer : Int} {stage next : EnqueueRaw}
    (steps : stage.step ctx answer = (entered, .inl next)) : stage.ahead = true := by
  cases stage with
  | entering | calling => rfl
  | leaving result => cases steps

end EnqueueRaw

namespace RetainedWorker

def flight : RetainedWorker → Option (Flight Nat)
  | .timing sample => some { taken := sample.takenAt, read := none }
  | .announcing sample _ | .building sample => some sample.flight
  | .stating sample _ (.enqueueing stage) => if stage.ahead then some sample.flight else none
  | .stating _ _ (.draining _) => none
  | .waiting | .starting | .discovering | .finishing => none

end RetainedWorker

namespace StateCoordinator

def flight : StateCoordinator → Option (Flight Nat)
  | .timing sample => some { taken := sample.takenAt, read := none }
  | .building sample => some sample.flight
  | .enqueueing sample _ stage => if stage.ahead then some sample.flight else none
  | .idle | .sampling => none

end StateCoordinator

namespace StateRun

def flying (run : StateRun) : StatePublisher → Option (Flight Nat)
  | .worker => run.worker.flight
  | .coordinator => run.coordinator.flight

def entry (message : StateMessage) : Entry Nat :=
  { taken := message.sample.takenAt
    value := message.sample.uptime
    publishedAt := message.enqueuedAt }

/-- The run as two publishers that sample a state and a clock. -/
def sampling (run : StateRun) : Sampling.State StatePublisher Nat :=
  { time := run.time
    clock := run.uptimeUs / 1000000
    flying := run.flying
    published := run.published.map entry }

def takes (sample : StateSample) (stage : EnqueueRaw) (answer : Int) : Option StateSample :=
  if stage = .calling ∧ 0 ≤ answer then some sample else none

def publishes (run : StateRun) : StateAction → Option StateSample
  | .worker _ _ answer _ =>
    match run.worker with
    | .stating sample _ (.enqueueing stage) => takes sample stage answer
    | _ => none
  | .coordinator _ answer =>
    match run.coordinator with
    | .enqueueing sample _ stage => takes sample stage answer
    | _ => none
  | _ => none

variable {run : StateRun}

theorem worker_origin (memory : Bool) (payload : Option (List UInt8)) (answer : Int)
    (outboxSize : Nat) (flight : Flight Nat)
    (next : (run.workerStep memory payload answer outboxSize).worker.flight = some flight) :
    Origin run.sampling .worker flight := by
  have was (same : run.worker.flight = some flight) : Origin run.sampling .worker flight := .inl same
  cases worker : run.worker with
  | waiting =>
    simp only [workerStep, worker] at next
    split at next
    · cases next
    · rw [worker] at next
      cases next
  | starting =>
    simp only [workerStep, worker] at next
    cases memory with
    | false => cases next
    | true =>
      cases next
      exact .inr (.inl rfl)
  | timing sample =>
    simp only [workerStep, worker] at next
    cases next
    refine .inr (.inr ⟨{ taken := sample.takenAt, read := none }, ?_, rfl⟩)
    simp only [sampling, flying, worker, RetainedWorker.flight]
  | announcing sample once =>
    have here : run.worker.flight = some sample.flight := by rw [worker]; rfl
    simp only [workerStep, worker] at next
    split at next
    · exact was (here.trans next)
    · next sent _ =>
      cases sent with
      | false => cases next
      | true => exact was (here.trans next)
  | building sample =>
    have here : run.worker.flight = some sample.flight := by rw [worker]; rfl
    simp only [workerStep, worker] at next
    cases payload with
    | none => cases next
    | some payload => exact was (here.trans next)
  | stating sample text once =>
    simp only [workerStep, worker] at next
    cases once with
    | draining elapsedMs =>
      simp only [RetainedOnce.step] at next
      split at next
      · next ctx stage steps =>
        split at steps
        · cases steps
        · split at steps
          · cases steps
          · split at steps
            · cases steps
              cases next
            · cases steps
      · next sent _ => cases sent <;> cases next
    | enqueueing stage =>
      cases steps : stage.step run.ctx answer with
      | mk ctx result =>
        cases result with
        | inl later =>
          simp only [RetainedOnce.step, steps, RetainedWorker.flight] at next
          split at next
          · apply was
            rw [worker, RetainedWorker.flight, if_pos (EnqueueRaw.ahead_step steps)]
            exact next
          · cases next
        | inr result =>
          by_cases taken : 0 ≤ result
          · simp only [RetainedOnce.step, steps, taken, ↓reduceIte] at next
            cases next
          · simp only [RetainedOnce.step, steps, taken, ↓reduceIte, Bool.false_eq_true] at next
            cases next
  | discovering | finishing =>
    simp only [workerStep, worker] at next
    cases next

theorem coordinator_origin (payload : Option (List UInt8)) (answer : Int) (flight : Flight Nat)
    (next : (run.coordinatorStep payload answer).coordinator.flight = some flight) :
    Origin run.sampling .coordinator flight := by
  have was (same : run.coordinator.flight = some flight) :
      Origin run.sampling .coordinator flight := .inl same
  cases coordinator : run.coordinator with
  | idle =>
    simp only [coordinatorStep, coordinator] at next
    cases next
  | sampling =>
    simp only [coordinatorStep, coordinator] at next
    cases next
    exact .inr (.inl rfl)
  | timing sample =>
    simp only [coordinatorStep, coordinator] at next
    split at next
    · cases next
      refine .inr (.inr ⟨{ taken := sample.takenAt, read := none }, ?_, rfl⟩)
      simp only [sampling, flying, coordinator, StateCoordinator.flight]
    · cases next
  | building sample =>
    have here : run.coordinator.flight = some sample.flight := by rw [coordinator]; rfl
    simp only [coordinatorStep, coordinator] at next
    cases payload with
    | none => cases next
    | some payload => exact was (here.trans next)
  | enqueueing sample text stage =>
    simp only [coordinatorStep, coordinator] at next
    cases steps : stage.step run.ctx answer with
    | mk ctx result =>
      cases result with
      | inl later =>
        simp only [steps, StateCoordinator.flight] at next
        split at next
        · apply was
          rw [coordinator, StateCoordinator.flight, if_pos (EnqueueRaw.ahead_step steps)]
          exact next
        · cases next
      | inr result =>
        simp only [steps] at next
        cases next

theorem workerStep_same (memory : Bool) (payload : Option (List UInt8)) (answer : Int)
    (outboxSize : Nat) :
    (run.workerStep memory payload answer outboxSize).coordinator = run.coordinator ∧
      (run.workerStep memory payload answer outboxSize).uptimeUs = run.uptimeUs := by
  unfold workerStep
  cases run.worker with
  | waiting =>
    dsimp only
    split <;> exact ⟨rfl, rfl⟩
  | building sample => cases payload <;> exact ⟨rfl, rfl⟩
  | announcing sample once | stating sample text once =>
    dsimp only
    split <;> exact ⟨rfl, rfl⟩
  | _ => exact ⟨rfl, rfl⟩

theorem coordinatorStep_same (payload : Option (List UInt8)) (answer : Int) :
    (run.coordinatorStep payload answer).worker = run.worker ∧
      (run.coordinatorStep payload answer).uptimeUs = run.uptimeUs := by
  unfold coordinatorStep
  cases run.coordinator with
  | building sample => cases payload <;> exact ⟨rfl, rfl⟩
  | enqueueing sample text stage =>
    dsimp only
    split <;> exact ⟨rfl, rfl⟩
  | _ => exact ⟨rfl, rfl⟩

theorem call_same (call : StateCall) :
    (run.call call).worker = run.worker ∧ (run.call call).uptimeUs = run.uptimeUs ∧
      (run.call call).published = run.published := by
  cases call with
  | updateWifiStatus status | updateDiagnostics status =>
    simp only [StateRun.call]
    split <;> exact ⟨rfl, rfl, rfl⟩
  | updateBleStatus connected bonded | refreshState => exact ⟨rfl, rfl, rfl⟩

theorem call_quiet (idle : run.coordinator = .idle) (call : StateCall) :
    (run.call call).coordinator.flight = none := by
  cases call with
  | updateWifiStatus status =>
    simp only [StateRun.call]
    split
    · rfl
    · rw [idle]
      rfl
  | updateDiagnostics status =>
    simp only [StateRun.call]
    split
    · dsimp only
      split <;> rfl
    · rw [idle]
      rfl
  | updateBleStatus connected bonded =>
    simp only [StateRun.call]
    split <;> rfl
  | refreshState => rfl

def publication (run : StateRun) (action : StateAction) : List (Entry Nat) :=
  ((run.publishes action).map fun sample =>
    { taken := sample.takenAt, value := sample.uptime, publishedAt := run.time }).toList

theorem enqueued_entries (sample : StateSample) (text : List UInt8) (stage : EnqueueRaw)
    (answer : Int) :
    (run.enqueued sample text stage answer).map entry =
      ((takes sample stage answer).map fun sample =>
        { taken := sample.takenAt, value := sample.uptime, publishedAt := run.time }).toList ++
        run.published.map entry := by
  unfold enqueued takes
  split <;> rfl

theorem step_published (action : StateAction) :
    (run.step action).published.map entry =
      run.publication action ++ run.published.map entry := by
  cases action with
  | other ctx status | tick elapsedUs => rfl
  | call request =>
    simp only [step, act]
    split
    · rw [(call_same request).2.2]
      rfl
    · rfl
  | worker memory payload answer outboxSize =>
    simp only [step, act, workerStep, publication, publishes]
    cases run.worker with
    | waiting =>
      dsimp only
      split <;> rfl
    | building sample => cases payload <;> rfl
    | announcing sample once =>
      dsimp only
      split <;> rfl
    | stating sample text once =>
      cases once with
      | draining elapsedMs =>
        dsimp only
        split <;> rfl
      | enqueueing stage =>
        dsimp only
        split <;> exact enqueued_entries sample text stage answer
    | _ => rfl
  | coordinator payload answer =>
    simp only [step, act, coordinatorStep, publication, publishes]
    cases run.coordinator with
    | building sample => cases payload <;> rfl
    | enqueueing sample text stage =>
      dsimp only
      split <;> exact enqueued_entries sample text stage answer
    | _ => rfl

theorem step_origin (action : StateAction) (p : StatePublisher) (flight : Flight Nat)
    (next : (run.step action).flying p = some flight) : Origin run.sampling p flight := by
  have was (same : (run.step action).flying p = run.flying p) : Origin run.sampling p flight :=
    .inl (same.symm.trans next)
  cases action with
  | other ctx status | tick elapsedUs => cases p <;> exact was rfl
  | call request =>
    simp only [step, act] at next was
    split at next
    · next idle =>
      cases p with
      | worker => exact was (by simp only [idle, flying, (call_same request).1])
      | coordinator =>
        rw [flying, call_quiet idle] at next
        cases next
    · cases p <;> exact .inl next
  | worker memory payload answer outboxSize =>
    cases p with
    | worker => exact worker_origin memory payload answer outboxSize flight next
    | coordinator =>
      apply was
      simp only [step, act, flying, (workerStep_same memory payload answer outboxSize).1]
  | coordinator payload answer =>
    cases p with
    | worker =>
      apply was
      simp only [step, act, flying, (coordinatorStep_same payload answer).1]
    | coordinator => exact coordinator_origin payload answer flight next

theorem step_clock (action : StateAction) :
    run.uptimeUs ≤ (run.step action).uptimeUs ∧
      (run.publishes action ≠ none → (run.step action).uptimeUs = run.uptimeUs) := by
  cases action with
  | other ctx status => exact ⟨le_refl _, fun _ => rfl⟩
  | tick elapsedUs => exact ⟨Nat.le_add_right _ _, fun none => absurd rfl none⟩
  | call request =>
    simp only [step, act]
    split
    · rw [(call_same request).2.1]
      exact ⟨le_refl _, fun _ => rfl⟩
    · exact ⟨le_refl _, fun _ => rfl⟩
  | worker memory payload answer outboxSize =>
    have same := (@workerStep_same run memory payload answer outboxSize).2
    exact ⟨same.ge, fun _ => same⟩
  | coordinator payload answer =>
    have same := (@coordinatorStep_same run payload answer).2
    exact ⟨same.ge, fun _ => same⟩

theorem takes_some {sample taken : StateSample} {stage : EnqueueRaw} {answer : Int}
    (takes : takes sample stage answer = some taken) : stage = .calling ∧ taken = sample := by
  unfold StateRun.takes at takes
  split at takes
  · next calling =>
    cases takes
    exact ⟨calling.1, rfl⟩
  · cases takes

theorem publishes_ready {action : StateAction} {sample : StateSample}
    (publishes : run.publishes action = some sample) :
    ∃ p, run.sampling.flying p = some { taken := sample.takenAt, read := some sample.uptime } := by
  cases action with
  | worker memory payload answer outboxSize =>
    simp only [StateRun.publishes] at publishes
    split at publishes
    · next at_ =>
      obtain ⟨rfl, rfl⟩ := takes_some publishes
      exact ⟨.worker, by simp only [sampling, flying, at_]; rfl⟩
    · cases publishes
  | coordinator payload answer =>
    simp only [StateRun.publishes] at publishes
    split at publishes
    · next at_ =>
      obtain ⟨rfl, rfl⟩ := takes_some publishes
      exact ⟨.coordinator, by simp only [sampling, flying, at_]; rfl⟩
    · cases publishes
  | other ctx status => cases publishes
  | tick elapsedUs => cases publishes
  | call request => cases publishes

theorem step_moves (action : StateAction) : Move run.sampling (run.step action).sampling := by
  have published := @step_published run action
  have origin := @step_origin run action
  obtain ⟨forward, still⟩ := @step_clock run action
  cases publishes : run.publishes action with
  | none =>
    simp only [publication, publishes, Option.map_none, Option.toList_none, List.nil_append]
      at published
    have next : (run.step action).sampling = { run.sampling with
        time := run.time + 1
        clock := (run.step action).uptimeUs / 1000000
        flying := (run.step action).flying } := by
      simp only [sampling, published]
      rfl
    rw [next]
    exact .quiet _ _ (Nat.div_le_div_right forward) origin
  | some sample =>
    obtain ⟨p, ready⟩ := publishes_ready publishes
    simp only [publication, publishes, Option.map_some, Option.toList_some, List.singleton_append]
      at published
    have next : (run.step action).sampling = { run.sampling with
        time := run.time + 1
        flying := (run.step action).flying
        published :=
          { taken := sample.takenAt, value := sample.uptime, publishedAt := run.time } ::
            run.sampling.published } := by
      simp only [sampling, published, still (by simp [publishes])]
      rfl
    rw [next]
    exact .publish p _ _ _ ready origin

def StatesInOrder (run : StateRun) : Prop :=
  run.published.Pairwise fun newer older =>
    older.sample.takenAt ≤ newer.sample.takenAt ∧ older.sample.uptime ≤ newer.sample.uptime

instance (run : StateRun) : Decidable (StatesInOrder run) :=
  inferInstanceAs (Decidable (run.published.Pairwise fun newer older =>
    older.sample.takenAt ≤ newer.sample.takenAt ∧ older.sample.uptime ≤ newer.sample.uptime))

def NotOvertaken (run : StateRun) (action : StateAction) : Prop :=
  ∀ sample ∈ run.publishes action, ∀ message ∈ run.published, sample.takenAt ≤ message.enqueuedAt →
    message.sample.takenAt ≤ sample.takenAt ∧ message.sample.uptime ≤ sample.uptime

theorem inOrder_iff (run : StateRun) : StatesInOrder run ↔ Ordered run.sampling.published := by
  rw [Ordered, sampling, List.pairwise_map]
  rfl

theorem notOvertaken_iff {action : StateAction} {sample : StateSample}
    (publishes : run.publishes action = some sample) :
    NotOvertaken run action ↔ InTime run.sampling.published sample.takenAt sample.uptime := by
  simp only [NotOvertaken, InTime, publishes, Option.mem_some_iff, forall_eq', sampling,
    List.mem_map, forall_exists_index, and_imp, forall_apply_eq_imp_iff₂]
  rfl

theorem order_step (timely : Timely run.sampling) (inOrder : StatesInOrder run)
    (action : StateAction) : StatesInOrder (run.step action) ↔ NotOvertaken run action := by
  have published := @step_published run action
  rw [inOrder_iff] at inOrder ⊢
  cases publishes : run.publishes action with
  | none =>
    simp only [publication, publishes, Option.map_none, Option.toList_none, List.nil_append]
      at published
    simp only [NotOvertaken, publishes, Option.not_mem_none, false_implies, implies_true, iff_true]
    rw [sampling, published]
    exact inOrder
  | some sample =>
    obtain ⟨p, ready⟩ := publishes_ready publishes
    simp only [publication, publishes, Option.map_some, Option.toList_some, List.singleton_append]
      at published
    rw [notOvertaken_iff publishes, sampling, published]
    exact ordered_publish_iff timely inOrder ready

def zeroStatus : RelayStatus where
  wifiStatus := { connected := false, ssid := zeroed, ip := zeroed, rssi := 0 }
  bleConnected := false
  bleBonded := false
  diagnostics := { firmwareElfSha256 := zeroed, fields := [] }
  deviceInfo := { manufacturer := zeroed, model := zeroed, swVersion := zeroed, hwVersion := zeroed }
  stateTopic := []

def boot : StateRun where
  ctx := zero
  status := zeroStatus
  uptimeUs := 0
  worker := .waiting
  coordinator := .idle
  time := 0
  published := []

theorem timely_boot : Timely boot.sampling := by
  constructor
  · exact fun entry member => absurd member List.not_mem_nil
  · intro p flight at_
    cases p <;> cases at_
  · intro p flight value at_
    cases p <;> cases at_

/-- In a run, the states come in the order of their samples exactly when none is enqueued
    that a newer one of the other publisher has overtaken. -/
theorem states_in_order_iff_not_overtaken (actions : List StateAction) :
    AllStates step StatesInOrder boot actions ↔ AllSteps step NotOvertaken boot actions := by
  apply all_states_iff_all_steps (J := fun run => Timely run.sampling)
  · intro run action timely _ _
    exact timely_move timely (step_moves action)
  · intro run action timely inOrder
    exact order_step timely inOrder action
  · exact timely_boot
  · exact List.Pairwise.nil

section Overtaken

def connectedCtx : RelayContext :=
  { zero with
    client := some 0
    workerTask := true
    workerRunning := true
    acceptingObservers := true
    publishAllowed := true
    wifiConnected := true
    mqttConnected := true
    retainedRefreshPending := true }

def workerGoes : StateAction := .worker true (some []) 0 0

def coordinatorGoes : StateAction := .coordinator (some []) 0

/-- The Bluetooth status changes while the worker waits for the outbox to empty. -/
def changedWhileAnnouncing : List StateAction :=
  [.other connectedCtx zeroStatus, workerGoes, workerGoes, workerGoes, workerGoes, workerGoes,
    workerGoes, .tick 2000000, .call (.updateBleStatus true true), coordinatorGoes, coordinatorGoes,
    coordinatorGoes, coordinatorGoes, coordinatorGoes, coordinatorGoes, workerGoes, workerGoes,
    workerGoes, workerGoes, workerGoes]

/-- The worker's state is enqueued after the coordinator's and says that nothing is connected. -/
theorem announcing_worker_publishes_an_old_state :
    ¬ AllStates step StatesInOrder boot changedWhileAnnouncing := by
  intro all
  have order := all_states_last all
  revert order
  decide +kernel

end Overtaken

end StateRun
