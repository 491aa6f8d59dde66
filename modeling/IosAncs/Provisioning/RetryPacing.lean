import IosAncs.Provisioning.Retry

/-!
The pace of the attempts. Each wait is read off the failed attempts since the last
reset of the backoff, and the policy's own counters are caps of what that list says.
-/
open Runs ProvisioningRetry RetryRun

namespace RetryPacing

def authStreak (failures : List Bool) : Nat := (failures.takeWhile id).length

def ladderDelay (failures : List Bool) : Nat :=
  if 3 ≤ authStreak failures then 300000
  else match failures.length with
    | 0 | 1 => 5000
    | 2 => 15000
    | 3 => 30000
    | _ => 60000

def longestWait (delayMs : Nat) : Nat := delayMs + min (delayMs / 10) 5000

theorem jitterMax_eq (delayMs : Nat) : jitterMax delayMs = min (delayMs / 10) 5000 := by
  unfold jitterMax
  split <;> omega

theorem ladderDelay_bounds (failures : List Bool) :
    5000 ≤ ladderDelay failures ∧ ladderDelay failures ≤ 300000 := by
  unfold ladderDelay
  split
  · omega
  · split <;> omega

theorem longestWait_le (failures : List Bool) : longestWait (ladderDelay failures) ≤ 305000 := by
  have bounds := ladderDelay_bounds failures
  unfold longestWait
  omega

theorem delayOfRung_eq (backoff : Nat) : delayOfRung (min backoff 3) =
    match backoff + 1 with
    | 0 | 1 => 5000
    | 2 => 15000
    | 3 => 30000
    | _ => 60000 := by
  rcases backoff with _ | _ | _ | backoff
  · rfl
  · rfl
  · rfl
  · have cap : min (backoff + 1 + 1 + 1) 3 = 3 := by omega
    rw [cap]
    rfl

def Timely (r : RetryRun) (call : RetryCall) : Prop :=
  ∀ nowMs, call.nowMs? = some nowMs →
    r.record.clockMs ≤ nowMs ∧ nowMs + 305000 ≤ uint64Max

instance (r : RetryRun) (call : RetryCall) : Decidable (Timely r call) :=
  match h : call.nowMs? with
  | none => isTrue (by intro nowMs some_; rw [h] at some_; cases some_)
  | some nowMs => decidable_of_iff (r.record.clockMs ≤ nowMs ∧ nowMs + 305000 ≤ uint64Max)
      (by simp [Timely, h])

structure Paced (r : RetryRun) : Prop where
  apart : r.retry.online = true → r.retry.inFlight = false
  rung : r.retry.backoff = min r.record.failures.length 3
  refusals : r.retry.authFailures = min (authStreak r.record.failures) uint8Max
  deadline : r.retry.inFlight = true →
    r.retry.attemptDeadlineMs ≤ r.record.attemptSince + retryAttemptMs
  next : r.retry.acting = true → r.retry.online = false → r.retry.inFlight = false →
    r.retry.nextAttemptMs ≤ r.record.clockMs + 305000
  waits : ∀ at_, r.record.waitingSince = some at_ →
    r.retry.acting = true ∧ r.retry.online = false ∧ r.retry.inFlight = false ∧
      at_ + ladderDelay r.record.failures ≤ r.retry.nextAttemptMs ∧
      r.retry.nextAttemptMs ≤ at_ + longestWait (ladderDelay r.record.failures)

theorem paced_init : Paced RetryRun.init where
  apart := fun _ => rfl
  rung := rfl
  refusals := rfl
  deadline := fun flies => absurd flies Bool.false_ne_true
  next := fun acts => absurd acts Bool.false_ne_true
  waits := by
    intro _ waiting
    cases waiting

section Failure
variable {retry : ProvisioningRetry} {nowMs : Nat} {random : UInt32} {failures : List Bool}

variable (nowMs random) in
theorem refusals_failed (auth : Bool) (refusals : retry.authFailures = min (authStreak failures) uint8Max) :
    (retry.attemptFailed nowMs auth random).authFailures =
      min (authStreak (auth :: failures)) uint8Max := by
  cases auth with
  | false => rfl
  | true =>
    have longer : authStreak (true :: failures) = authStreak failures + 1 := rfl
    simp only [attemptFailed, if_true, longer]
    split <;> omega

theorem rung_failed {auth : Bool} (rung : retry.backoff = min failures.length 3) :
    (retry.attemptFailed nowMs auth random).backoff = min (auth :: failures).length 3 := by
  simp only [attemptFailed, List.length_cons]
  split <;> omega

variable (random) in
theorem next_failed (auth : Bool) (rung : retry.backoff = min failures.length 3)
    (refusals : retry.authFailures = min (authStreak failures) uint8Max)
    (fits : nowMs + 305000 ≤ uint64Max) :
    nowMs + ladderDelay (auth :: failures) ≤
        (retry.attemptFailed nowMs auth random).nextAttemptMs ∧
      (retry.attemptFailed nowMs auth random).nextAttemptMs ≤
        nowMs + longestWait (ladderDelay (auth :: failures)) := by
  have count := refusals_failed nowMs random auth refusals
  have delay : (if 3 ≤ (retry.attemptFailed nowMs auth random).authFailures then retryAuthMs
      else delayOfRung retry.backoff) = ladderDelay (auth :: failures) := by
    rw [count, rung, delayOfRung_eq]
    unfold ladderDelay
    have cap : 3 ≤ min (authStreak (auth :: failures)) uint8Max ↔
        3 ≤ authStreak (auth :: failures) := by
      unfold uint8Max
      omega
    simp only [cap, List.length_cons]
    rfl
  have next : (retry.attemptFailed nowMs auth random).nextAttemptMs =
      after nowMs (ladderDelay (auth :: failures) +
        random.toNat % (jitterMax (ladderDelay (auth :: failures)) + 1)) := by
    rw [← delay]
    rfl
  have jitter : random.toNat % (jitterMax (ladderDelay (auth :: failures)) + 1) ≤
      min (ladderDelay (auth :: failures) / 10) 5000 := by
    rw [jitterMax_eq]
    exact Nat.le_of_lt_succ (Nat.mod_lt _ (Nat.succ_pos _))
  have longest := longestWait_le (auth :: failures)
  have fits' : nowMs + (ladderDelay (auth :: failures) +
      random.toNat % (jitterMax (ladderDelay (auth :: failures)) + 1)) ≤ uint64Max := by
    unfold longestWait at longest
    omega
  rw [next, after_eq fits']
  unfold longestWait
  omega

end Failure

theorem paced_failed {r : RetryRun} (paced : Paced r) (acts : r.retry.acting = true)
    (off : r.retry.online = false) {nowMs : Nat} (auth : Bool) (random : UInt32)
    (fits : nowMs + 305000 ≤ uint64Max) {record : RetryRecord}
    (clock : record.clockMs = nowMs) (failures : record.failures = auth :: r.record.failures)
    (waiting : record.waitingSince = some nowMs) :
    Paced { retry := r.retry.attemptFailed nowMs auth random, record } where
  apart := fun _ => rfl
  rung := by rw [failures]; exact rung_failed paced.rung
  refusals := by rw [failures]; exact refusals_failed _ _ _ paced.refusals
  deadline := fun flies => absurd flies Bool.false_ne_true
  next := by
    intro _ _ _
    have bounds := next_failed random auth paced.rung paced.refusals fits
    have longest := longestWait_le (auth :: r.record.failures)
    rw [clock]
    dsimp only
    omega
  waits := by
    intro at_ same
    rw [waiting] at same
    obtain rfl := Option.some.inj same
    rw [failures]
    exact ⟨acts, off, rfl,
      next_failed random auth paced.rung paced.refusals fits⟩

theorem paced_announce {r : RetryRun} (paced : Paced r) (nowMs : Nat) :
    Paced { r with retry := r.retry.announce nowMs } := by
  unfold announce
  split
  · exact { apart := paced.apart, rung := paced.rung, refusals := paced.refusals
            deadline := paced.deadline, next := paced.next, waits := paced.waits }
  · exact paced

theorem paced_congr {r : RetryRun} (paced : Paced r) {record : RetryRecord}
    (clock : r.record.clockMs ≤ record.clockMs) (failures : record.failures = r.record.failures)
    (waiting : record.waitingSince = r.record.waitingSince)
    (attempt : record.attemptSince = r.record.attemptSince) :
    Paced { r with record } where
  apart := paced.apart
  rung := by rw [failures]; exact paced.rung
  refusals := by rw [failures]; exact paced.refusals
  deadline := by rw [attempt]; exact paced.deadline
  next := by
    intro acts off waits
    have bound := paced.next acts off waits
    dsimp only at bound ⊢
    omega
  waits := by rw [failures, waiting]; exact paced.waits

theorem paced_idle {r : RetryRun} (paced : Paced r) {call : RetryCall} (timely : Timely r call)
    (kept : call.effect r.retry = r.retry) (nothing : call.incident r.retry = .nothing) :
    Paced (r.step call) := by
  unfold RetryRun.step
  rw [kept, nothing]
  refine paced_congr paced ?_ rfl rfl rfl
  cases time : call.nowMs? with
  | none => simp [RetryRecord.note, RetryRecord.noteCall, time]
  | some nowMs => simpa [RetryRecord.note, RetryRecord.noteCall, time] using (timely nowMs time).1

theorem paced_poll {r : RetryRun} (paced : Paced r) {nowMs : Nat} {random : UInt32}
    (timely : Timely r (.poll nowMs random)) : Paced (r.step (.poll nowMs random)) := by
  obtain ⟨forward, fits⟩ := timely nowMs rfl
  cases acts : r.retry.acting with
  | false =>
    apply paced_idle paced timely
    · exact congrArg Prod.fst (poll_of_idle _ _ acts)
    · simp [RetryCall.incident, acts]
  | true =>
    cases on : r.retry.online with
    | true =>
      have polled := poll_of_online nowMs random acts on
      cases settled : r.retry.stable nowMs with
      | false =>
        apply paced_idle paced timely
        · simp [RetryCall.effect, polled, settled]
        · simp [RetryCall.incident, acts, on, settled]
      | true =>
        have step : r.step (.poll nowMs random) =
            { retry := { r.retry with backoff := 0, authFailures := 0 }
              record := { r.record with failures := [], clockMs := nowMs } } := by
          simp [RetryRun.step, RetryCall.effect, RetryCall.incident, RetryCall.actions, acts, on,
            polled, settled, RetryRecord.note, RetryRecord.noteCall, RetryCall.nowMs?, quiet]
        rw [step]
        exact {
          apart := paced.apart
          rung := rfl
          refusals := rfl
          deadline := paced.deadline
          next := fun _ off => absurd (on.symm.trans off) (by decide)
          waits := fun at_ waiting => absurd (on.symm.trans (paced.waits at_ waiting).2.1) (by decide) }
    | false =>
      have announced := paced_announce paced nowMs
      rcases poll_of_offline nowMs random acts on with
        ⟨waits, due, polled⟩ | ⟨early, notDue, polled⟩ | ⟨flies, late, polled⟩
      · have incident : (RetryCall.poll nowMs random).incident r.retry = .attempted nowMs := by
          simp [RetryCall.incident, acts, on, polled]
        rw [step_eq r (.poll nowMs random) (congrArg Prod.fst polled) incident (congrArg Prod.snd polled)]
        exact {
          apart := by
            intro online
            have off := (announce_online r.retry nowMs).trans on
            exact absurd (off.symm.trans online) (by decide)
          rung := announced.rung
          refusals := announced.refusals
          deadline := fun _ => after_le retryAttemptMs
          next := fun _ _ flies => absurd flies (by simp [attempt])
          waits := by
            intro at_ waiting
            cases waiting }
      · have incident : (RetryCall.poll nowMs random).incident r.retry = .nothing := by
          simp [RetryCall.incident, acts, on, polled]
        rw [step_eq r (.poll nowMs random) (congrArg Prod.fst polled) incident (congrArg Prod.snd polled)]
        exact paced_congr announced forward rfl rfl rfl
      · have bounds := next_failed random false announced.rung
          announced.refusals fits
        have least := (ladderDelay_bounds (false :: r.record.failures)).1
        have later : ¬ ((r.retry.announce nowMs).attemptFailed nowMs false random).nextAttemptMs ≤
            nowMs := by
          dsimp only at bounds
          omega
        simp only [later, decide_false, Bool.false_eq_true, if_false] at polled
        have incident : (RetryCall.poll nowMs random).incident r.retry =
            .attemptFailed nowMs false := by
          simp [RetryCall.incident, acts, on, polled]
        rw [step_eq r (.poll nowMs random) (congrArg Prod.fst polled) incident (congrArg Prod.snd polled)]
        apply paced_failed announced <;> simp [acts, on, fits, RetryRecord.note,
          RetryRecord.noteCall, RetryCall.nowMs?]

theorem paced_step {r : RetryRun} (paced : Paced r) {call : RetryCall} (timely : Timely r call) :
    Paced (r.step call) := by
  cases call with
  | start generation nowMs =>
    exact {
      apart := fun _ => rfl
      rung := rfl
      refusals := rfl
      deadline := fun flies => absurd flies (by simp [RetryRun.step, RetryCall.effect, start, stop])
      next := fun _ _ _ => Nat.le_add_right nowMs 305000
      waits := by
        intro at_ waiting
        cases waiting }
  | stop =>
    exact {
      apart := fun _ => rfl
      rung := rfl
      refusals := rfl
      deadline := fun flies => absurd flies (by simp [RetryRun.step, RetryCall.effect, stop])
      next := fun _ _ _ => Nat.zero_le _
      waits := by
        intro at_ waiting
        cases waiting }
  | pause =>
    exact {
      apart := paced.apart
      rung := paced.rung
      refusals := paced.refusals
      deadline := paced.deadline
      next := fun acts => absurd acts (by simp [RetryRun.step, RetryCall.effect, pause, acting])
      waits := by
        intro at_ waiting
        cases waiting }
  | connected nowMs =>
    cases acts : r.retry.acting with
    | false =>
      apply paced_idle paced timely (connected_of_idle acts)
      simp [RetryCall.incident, acts]
    | true =>
      have online : r.retry.connected nowMs = { r.retry with
          online := true
          inFlight := false
          attemptDeadlineMs := 0
          nextAttemptMs := 0
          stableSinceMs := nowMs
          recoveryAnnounced := false } := by
        simp [connected, idle_iff, acts]
      have incident : (RetryCall.connected nowMs).incident r.retry = .online nowMs := by
        simp [RetryCall.incident, acts]
      rw [step_eq r (.connected nowMs) online incident rfl]
      exact {
        apart := fun _ => rfl
        rung := paced.rung
        refusals := paced.refusals
        deadline := fun flies => absurd flies Bool.false_ne_true
        next := fun _ off => absurd off (by simp)
        waits := by
          intro at_ waiting
          cases waiting }
  | failed nowMs auth random =>
    obtain ⟨forward, fits⟩ := timely nowMs rfl
    cases acts : r.retry.acting with
    | false =>
      apply paced_idle paced timely (failed_of_idle acts)
      simp [RetryCall.incident, acts]
    | true =>
      cases on : r.retry.online with
      | true =>
        have incident : (RetryCall.failed nowMs auth random).incident r.retry = .lost nowMs := by
          simp [RetryCall.incident, acts, on]
        rw [step_eq r (.failed nowMs auth random) (failed_of_online nowMs random auth acts on) incident rfl]
        exact {
          apart := fun _ => rfl
          rung := paced.rung
          refusals := paced.refusals
          deadline := fun flies => absurd flies Bool.false_ne_true
          next := fun _ _ _ => Nat.le_add_right nowMs 305000
          waits := by
            intro at_ waiting
            cases waiting }
      | false =>
        cases flies : r.retry.inFlight with
        | false =>
          apply paced_idle paced timely (failed_of_waiting on flies)
          simp [RetryCall.incident, acts, on, flies]
        | true =>
          have incident : (RetryCall.failed nowMs auth random).incident r.retry =
              .attemptFailed nowMs auth := by
            simp [RetryCall.incident, acts, on, flies]
          rw [step_eq r (.failed nowMs auth random) (failed_of_flight acts on flies) incident rfl]
          exact paced_failed paced acts on auth random fits rfl rfl rfl
  | poll nowMs random => exact paced_poll paced timely

/-- The link is up or an attempt is under way, never both; a link that is down and wanted has an
    attempt with its deadline, or the next one is near; and every wait is on its rung. -/
structure Steady (r : RetryRun) : Prop where
  apart : ¬ (r.retry.online = true ∧ r.retry.inFlight = true)
  moving : r.retry.enabled = true → r.retry.paused = false → r.retry.online = false →
    (r.retry.inFlight = true ∧ r.retry.attemptDeadlineMs ≤ r.record.attemptSince + 20000) ∨
      (r.retry.inFlight = false ∧ r.retry.nextAttemptMs ≤ r.record.clockMs + 305000)
  waits : ∀ at_, r.record.waitingSince = some at_ →
    at_ + ladderDelay r.record.failures ≤ r.retry.nextAttemptMs ∧
      r.retry.nextAttemptMs ≤ at_ + longestWait (ladderDelay r.record.failures)

/-- What a call may do: a poll starts or ends an attempt and not both, and does nothing for a
    policy that is paused or stopped; the first attempt of an outage is due at once; a failed
    attempt begins a wait, and a poll starts the next attempt just when the wait is over. -/
structure SteadyCall (r : RetryRun) (call : RetryCall) : Prop where
  exclusive : ¬ ((call.actions r.retry).connect = true ∧ (call.actions r.retry).abort = true)
  silent : r.retry.enabled = false ∨ r.retry.paused = true → call.actions r.retry = quiet
  immediate : ∀ nowMs,
    (call.incident r.retry = .started nowMs ∧ (r.step call).retry.enabled = true) ∨
      call.incident r.retry = .lost nowMs →
    ∀ laterMs random, nowMs ≤ laterMs →
      ((r.step call).retry.poll laterMs random).2.connect = true
  begins : ∀ nowMs auth, call.incident r.retry = .attemptFailed nowMs auth →
    (r.step call).record.failures = auth :: r.record.failures ∧
      (r.step call).record.waitingSince = some nowMs
  lasts : ∀ at_ nowMs random, r.record.waitingSince = some at_ → call = .poll nowMs random →
    ((call.actions r.retry).connect = true ↔ r.retry.nextAttemptMs ≤ nowMs)

theorem steady_of_paced {r : RetryRun} (paced : Paced r) : Steady r where
  apart := by
    rintro ⟨on, flies⟩
    rw [paced.apart on] at flies
    cases flies
  moving := by
    intro enabled unpaused off
    have acts : r.retry.acting = true := acting_iff.mpr ⟨enabled, unpaused⟩
    cases flies : r.retry.inFlight with
    | true => exact .inl ⟨rfl, paced.deadline flies⟩
    | false => exact .inr ⟨rfl, paced.next acts off flies⟩
  waits := by
    intro at_ waiting
    obtain ⟨_, _, _, bounds⟩ := paced.waits at_ waiting
    exact bounds

theorem poll_due {retry : ProvisioningRetry} (acts : retry.acting = true)
    (off : retry.online = false) (waits : retry.inFlight = false) {nowMs : Nat} (random : UInt32) :
    (retry.poll nowMs random).2.connect = true ↔ retry.nextAttemptMs ≤ nowMs := by
  rcases poll_of_offline nowMs random acts off with
    ⟨_, due, polled⟩ | ⟨_, notDue, polled⟩ | ⟨flies, _, _⟩
  · exact iff_of_true (by rw [polled]) due
  · have early := notDue waits
    exact iff_of_false (by rw [polled]; exact Bool.false_ne_true) (Nat.not_le_of_lt early)
  · rw [waits] at flies
    cases flies

theorem exclusive_of_paced {r : RetryRun} (paced : Paced r) {call : RetryCall}
    (timely : Timely r call) :
    ¬ ((call.actions r.retry).connect = true ∧ (call.actions r.retry).abort = true) := by
  cases call with
  | poll nowMs random =>
    obtain ⟨_, fits⟩ := timely nowMs rfl
    simp only [RetryCall.actions]
    cases acts : r.retry.acting with
    | false =>
      rw [poll_of_idle _ _ acts]
      exact fun both => Bool.false_ne_true both.1
    | true =>
      cases on : r.retry.online with
      | true =>
        rw [poll_of_online nowMs random acts on]
        simp [quiet]
      | false =>
        rcases poll_of_offline nowMs random acts on with
          ⟨_, _, polled⟩ | ⟨_, _, polled⟩ | ⟨_, _, polled⟩
        · rw [polled]
          exact fun both => Bool.false_ne_true both.2
        · rw [polled]
          exact fun both => Bool.false_ne_true both.1
        · have announced := paced_announce paced nowMs
          have bounds := next_failed random false announced.rung
            announced.refusals fits
          have least := (ladderDelay_bounds (false :: r.record.failures)).1
          rw [polled]
          simp only [decide_eq_true_eq, not_and]
          intro due
          dsimp only at bounds
          omega
  | _ => exact fun both => Bool.false_ne_true both.1

theorem immediate_of_step (r : RetryRun) (call : RetryCall) (nowMs : Nat)
    (begins : (call.incident r.retry = .started nowMs ∧ (r.step call).retry.enabled = true) ∨
      call.incident r.retry = .lost nowMs) (laterMs : Nat) (random : UInt32)
    (later : nowMs ≤ laterMs) : ((r.step call).retry.poll laterMs random).2.connect = true := by
  cases call with
  | start generation startMs =>
    obtain ⟨same, enabled⟩ | lost := begins
    · cases same
      exact (poll_due (acting_iff.mpr ⟨enabled, rfl⟩) rfl rfl random).mpr later
    · cases lost
  | failed failMs auth random' =>
    have lost : (RetryCall.failed failMs auth random').incident r.retry = .lost nowMs := by
      rcases begins with ⟨same, _⟩ | lost
      · simp only [RetryCall.incident] at same
        repeat' split at same
        all_goals cases same
      · exact lost
    simp only [RetryCall.incident] at lost
    split at lost
    · cases lost
    · next acts =>
      have acts : r.retry.acting = true := by simpa using acts
      split at lost
      · next on =>
        cases lost
        have failed := failed_of_online nowMs random' auth acts on
        have step : (r.step (.failed nowMs auth random')).retry = r.retry.linkLost nowMs := failed
        have again : (r.retry.linkLost nowMs).acting = true := acts
        rw [step]
        exact (poll_due again rfl rfl random).mpr later
      · split at lost <;> cases lost
  | stop => simp [RetryCall.incident] at begins
  | pause => simp [RetryCall.incident] at begins
  | connected connectedMs =>
    simp only [RetryCall.incident] at begins
    split at begins <;> simp at begins
  | poll pollMs random' =>
    simp only [RetryCall.incident] at begins
    repeat' split at begins
    all_goals simp at begins

theorem steady_call {r : RetryRun} (paced : Paced r) {call : RetryCall} (timely : Timely r call) :
    SteadyCall r call where
  exclusive := exclusive_of_paced paced timely
  silent := by
    intro idle
    have idle : r.retry.acting = false := by
      cases acts : r.retry.acting with
      | false => rfl
      | true =>
        obtain ⟨enabled, unpaused⟩ := acting_iff.mp acts
        simp [enabled, unpaused] at idle
    cases call with
    | poll nowMs random => exact congrArg Prod.snd (poll_of_idle nowMs random idle)
    | _ => rfl
  immediate := immediate_of_step r call
  begins := by
    intro nowMs auth failed
    simp [RetryRun.step, failed, RetryRecord.note, RetryRecord.noteCall]
  lasts := by
    rintro at_ nowMs random waiting rfl
    obtain ⟨acts, off, waits, _⟩ := paced.waits at_ waiting
    exact poll_due acts off waits random

/-- Over every sequence of calls at a clock that does not go back, the retries neither storm
    nor stick. -/
theorem retries_are_paced (calls : List RetryCall) (timely : AllSteps step Timely init calls) :
    AllStates step Steady init calls ∧ AllSteps step SteadyCall init calls := by
  have kept : ∀ r call, Paced r → Timely r call → Paced (step r call) :=
    fun _ _ paced now => paced_step paced now
  have paced : AllStates step Paced init calls := all_states_of_steps kept paced_init timely
  constructor
  · exact all_states_mono (fun _ paced => steady_of_paced paced) paced
  · exact all_steps_under (fun _ _ paced now => steady_call paced now) paced timely

theorem refused_attempts_are_paced :
    let calls : List RetryCall := [.start 1 1000, .poll 1000 0, .failed 4000 true 499,
      .poll 9000 0, .poll 9499 0, .poll 29499 1500, .connected 29600, .failed 30000 false 0]
    AllStates step Steady init calls ∧ AllSteps step SteadyCall init calls :=
  retries_are_paced _ (by decide)

end RetryPacing
