import IosAncs.Provisioning.Retry

/-!
The recovery AP of an outage and the way back to the first rung. The policy's flag and
its two timestamps are compared with the outages and the connections of the record.
-/
open Runs ProvisioningRetry RetryRun

namespace RecoveryAnnouncement

structure Announced (r : RetryRun) : Prop where
  once : r.record.announcements ≤ 1
  flagged : r.retry.acting = true → r.retry.online = false → r.retry.recoveryAnnounced = false →
    r.record.announcements = 0
  outage : r.retry.acting = true → r.retry.online = false →
    r.record.outageSince = some r.retry.outageSinceMs
  link : r.retry.acting = true → r.retry.online = true →
    r.record.connectedSince = some r.retry.stableSinceMs

theorem announced_init : Announced init where
  once := Nat.zero_le 1
  flagged := fun _ _ _ => rfl
  outage := fun acts => absurd acts Bool.false_ne_true
  link := fun acts => absurd acts Bool.false_ne_true

section Poll
variable {retry : ProvisioningRetry} {nowMs : Nat} {random : UInt32}

theorem recoveryDue_iff : retry.recoveryDue nowMs = true ↔
    retry.recoveryAnnounced = false ∧ retry.outageSinceMs + retryRecoveryMs ≤ nowMs := by
  simp only [recoveryDue, Bool.and_eq_true, Bool.not_eq_true', decide_eq_true_eq]
  unfold retryRecoveryMs
  constructor
  · rintro ⟨⟨flag, started⟩, long⟩
    exact ⟨flag, by omega⟩
  · rintro ⟨flag, long⟩
    exact ⟨⟨flag, by omega⟩, by omega⟩

theorem stable_iff : retry.stable nowMs = true ↔ retry.stableSinceMs + retryStableMs ≤ nowMs := by
  simp only [stable, Bool.and_eq_true, decide_eq_true_eq]
  unfold retryStableMs
  omega

theorem announce_recoveryAnnounced : (retry.announce nowMs).recoveryAnnounced =
    (retry.recoveryAnnounced || retry.recoveryDue nowMs) := by
  unfold announce
  split
  · next due => simp [due]
  · next notDue => simp [notDue]

theorem announce_outageSinceMs : (retry.announce nowMs).outageSinceMs = retry.outageSinceMs := by
  unfold announce
  split <;> rfl

theorem announce_backoff : (retry.announce nowMs).backoff = retry.backoff := by
  unfold announce
  split <;> rfl

theorem announce_authFailures : (retry.announce nowMs).authFailures = retry.authFailures := by
  unfold announce
  split <;> rfl

structure OfflinePoll (retry : ProvisioningRetry) (nowMs : Nat)
    (after : ProvisioningRetry × RetryActions) : Prop where
  acts : after.1.acting = true
  off : after.1.online = false
  outage : after.1.outageSinceMs = retry.outageSinceMs
  flag : after.1.recoveryAnnounced = (retry.recoveryAnnounced || retry.recoveryDue nowMs)
  opens : after.2.openAp = retry.recoveryDue nowMs
  climbs : retry.backoff ≤ after.1.backoff

variable (nowMs random) in
theorem offlinePoll (acts : retry.acting = true) (off : retry.online = false) :
    OfflinePoll retry nowMs (retry.poll nowMs random) := by
  have acts' := (announce_acting retry nowMs).trans acts
  have off' := (announce_online retry nowMs).trans off
  have climbs : (retry.announce nowMs).backoff ≤
      ((retry.announce nowMs).attemptFailed nowMs false random).backoff := by
    simp only [attemptFailed]
    split <;> omega
  rw [announce_backoff] at climbs
  rcases poll_of_offline nowMs random acts off with
    ⟨_, _, polled⟩ | ⟨_, _, polled⟩ | ⟨_, _, polled⟩
  · rw [polled]
    exact ⟨acts', off', announce_outageSinceMs, announce_recoveryAnnounced, rfl,
      Nat.le_of_eq announce_backoff.symm⟩
  · rw [polled]
    exact ⟨acts', off', announce_outageSinceMs, announce_recoveryAnnounced, rfl,
      Nat.le_of_eq announce_backoff.symm⟩
  · rw [polled]
    dsimp only
    split <;> exact ⟨acts', off', announce_outageSinceMs, announce_recoveryAnnounced, rfl, climbs⟩

end Poll

theorem note_offline (record : RetryRecord) {retry : ProvisioningRetry} (nowMs : Nat)
    (random : UInt32) (off : retry.online = false) :
    (record.note ((RetryCall.poll nowMs random).incident retry)).outageSince =
        record.outageSince ∧
      (record.note ((RetryCall.poll nowMs random).incident retry)).announcements =
        record.announcements := by
  simp only [RetryCall.incident, off]
  repeat' split
  all_goals exact ⟨rfl, rfl⟩

theorem announced_idle {r : RetryRun} (announced : Announced r) (call : RetryCall)
    (idle : r.retry.acting = false) (kept : call.effect r.retry = r.retry)
    (nothing : call.incident r.retry = .nothing) (quiets : call.actions r.retry = quiet) :
    Announced (r.step call) := by
  rw [step_eq r call kept nothing quiets]
  have stays : ∀ {p : Prop}, r.retry.acting = true → p := fun acts =>
    absurd (idle.symm.trans acts) (by decide)
  exact ⟨announced.once, stays, stays, stays⟩

theorem announced_poll {r : RetryRun} (announced : Announced r) (nowMs : Nat) (random : UInt32) :
    Announced (r.step (.poll nowMs random)) := by
  cases acts : r.retry.acting with
  | false =>
    have polled := poll_of_idle nowMs random acts
    apply announced_idle announced (.poll nowMs random) acts (congrArg Prod.fst polled) _ (congrArg Prod.snd polled)
    simp [RetryCall.incident, acts]
  | true =>
    cases on : r.retry.online with
    | true =>
      have polled := poll_of_online nowMs random acts on
      have incident : (RetryCall.poll nowMs random).incident r.retry =
          if r.retry.stable nowMs then .settled else .nothing := by
        simp [RetryCall.incident, acts, on]
      rw [step_eq r (.poll nowMs random) (congrArg Prod.fst polled) incident
        (congrArg Prod.snd polled)]
      cases r.retry.stable nowMs with
      | false => exact ⟨announced.once, announced.flagged, announced.outage, announced.link⟩
      | true => exact ⟨announced.once, announced.flagged, announced.outage, announced.link⟩
    | false =>
      have polled := offlinePoll nowMs random acts on
      have noted := note_offline r.record nowMs random on
      have count : (r.step (.poll nowMs random)).record.announcements =
          if r.retry.recoveryDue nowMs then r.record.announcements + 1
          else r.record.announcements := by
        simp only [RetryRun.step, RetryRecord.noteCall, RetryCall.actions, polled.opens, noted.2]
      have fresh : r.retry.recoveryDue nowMs = true → r.record.announcements = 0 := fun due =>
        announced.flagged acts on (recoveryDue_iff.mp due).1
      have flag : (r.step (.poll nowMs random)).retry.recoveryAnnounced =
          (r.retry.recoveryAnnounced || r.retry.recoveryDue nowMs) := polled.flag
      exact {
        once := by
          rw [count]
          split
          · next due => exact Nat.le_of_eq (congrArg Nat.succ (fresh due))
          · exact announced.once
        flagged := by
          intro _ _ unflagged
          rw [flag, Bool.or_eq_false_iff] at unflagged
          rw [count, unflagged.2]
          exact announced.flagged acts on unflagged.1
        outage := by
          intro _ _
          have since : (r.step (.poll nowMs random)).retry.outageSinceMs = r.retry.outageSinceMs :=
            polled.outage
          rw [since]
          exact noted.1.trans (announced.outage acts on)
        link := fun _ online => absurd (polled.off.symm.trans online) (by decide) }

theorem announced_step {r : RetryRun} (announced : Announced r) (call : RetryCall) :
    Announced (r.step call) := by
  cases call with
  | start generation nowMs =>
    exact ⟨Nat.zero_le 1, fun _ _ _ => rfl, fun _ _ => rfl, fun _ online =>
      absurd online (by simp [step, RetryCall.effect, ProvisioningRetry.start, ProvisioningRetry.stop])⟩
  | stop =>
    have idle : ∀ {p : Prop}, ProvisioningRetry.stop.acting = true → p := fun acts =>
      absurd acts (by decide)
    exact ⟨Nat.zero_le 1, idle, idle, idle⟩
  | pause =>
    have idle : ∀ {p : Prop}, r.retry.pause.acting = true → p := fun acts =>
      absurd acts (by simp [ProvisioningRetry.pause, acting])
    exact ⟨announced.once, idle, idle, idle⟩
  | connected nowMs =>
    cases acts : r.retry.acting with
    | false =>
      apply announced_idle announced (.connected nowMs) acts (connected_of_idle acts) _ rfl
      simp [RetryCall.incident, acts]
    | true =>
      have online : (r.step (.connected nowMs)).retry.online = true := by
        simp [step, RetryCall.effect, ProvisioningRetry.connected, idle_iff, acts]
      have incident : (RetryCall.connected nowMs).incident r.retry = .online nowMs := by
        simp [RetryCall.incident, acts]
      have record : (r.step (.connected nowMs)).record =
          (r.record.note (.online nowMs)).noteCall (.connected nowMs) quiet := by
        simp only [step, incident]
        rfl
      have stays : ∀ {p : Prop}, (r.step (.connected nowMs)).retry.online = false → p := fun off =>
        absurd (online.symm.trans off) (by decide)
      have since : (r.step (.connected nowMs)).retry.stableSinceMs = nowMs := by
        simp [step, RetryCall.effect, ProvisioningRetry.connected, idle_iff, acts]
      exact ⟨by rw [record]; exact Nat.zero_le 1, fun _ off => stays off, fun _ off => stays off,
        fun _ _ => by rw [record, since]; rfl⟩
  | failed nowMs auth random =>
    cases acts : r.retry.acting with
    | false =>
      apply announced_idle announced (.failed nowMs auth random) acts (failed_of_idle acts) _ rfl
      simp [RetryCall.incident, acts]
    | true =>
      cases on : r.retry.online with
      | true =>
        have incident : (RetryCall.failed nowMs auth random).incident r.retry = .lost nowMs := by
          simp [RetryCall.incident, acts, on]
        rw [step_eq r (.failed nowMs auth random) (failed_of_online nowMs random auth acts on) incident rfl]
        exact ⟨Nat.zero_le 1, fun _ _ _ => rfl, fun _ _ => rfl, fun _ online =>
          absurd online (by simp [linkLost])⟩
      | false =>
        have stays : ∀ {p : Prop}, r.retry.online = true → p := fun online =>
          absurd (on.symm.trans online) (by decide)
        cases flies : r.retry.inFlight with
        | false =>
          have incident : (RetryCall.failed nowMs auth random).incident r.retry = .nothing := by
            simp [RetryCall.incident, acts, on, flies]
          rw [step_eq r (.failed nowMs auth random) (failed_of_waiting on flies) incident rfl]
          exact ⟨announced.once, announced.flagged, announced.outage, fun _ => stays⟩
        | true =>
          have incident : (RetryCall.failed nowMs auth random).incident r.retry =
              .attemptFailed nowMs auth := by
            simp [RetryCall.incident, acts, on, flies]
          rw [step_eq r (.failed nowMs auth random) (failed_of_flight acts on flies) incident rfl]
          exact ⟨announced.once, announced.flagged, announced.outage, fun _ => stays⟩
  | poll nowMs random => exact announced_poll announced nowMs random

/-- A call that may reset the backoff: an explicit start or stop, or a poll half a minute after
    the latest connected call with no failure since. -/
def Resets (r : RetryRun) : RetryCall → Prop
  | .start _ _ | .stop => True
  | .poll nowMs _ => ∃ connectedMs, r.record.connectedSince = some connectedMs ∧
      connectedMs + 30000 ≤ nowMs
  | _ => False

/-- The recovery AP is opened once in an outage, late enough and offline, and only a reset brings
    a counter down; the refusals end as well with a failure of another kind. -/
structure AnnouncingCall (r : RetryRun) (call : RetryCall) : Prop where
  opens : (call.actions r.retry).openAp = true →
    r.retry.online = false ∧ r.record.announcements = 0 ∧
      ∃ beganMs nowMs, r.record.outageSince = some beganMs ∧ call.nowMs? = some nowMs ∧
        beganMs + 45000 ≤ nowMs
  backoff : (r.step call).retry.backoff < r.retry.backoff → Resets r call
  refusals : (r.step call).retry.authFailures < r.retry.authFailures →
    Resets r call ∨ ∃ nowMs, call.incident r.retry = .attemptFailed nowMs false

theorem quiet_opens_nothing {actions : RetryActions} (quiets : actions = quiet) :
    ¬ actions.openAp = true := by
  rw [quiets]
  exact Bool.false_ne_true

theorem announcing_poll {r : RetryRun} (announced : Announced r) (nowMs : Nat) (random : UInt32) :
    AnnouncingCall r (.poll nowMs random) := by
  cases acts : r.retry.acting with
  | false =>
    have polled := poll_of_idle nowMs random acts
    have actions : (RetryCall.poll nowMs random).actions r.retry = quiet := congrArg Prod.snd polled
    have same : (r.step (.poll nowMs random)).retry = r.retry := congrArg Prod.fst polled
    exact {
      opens := fun opens => absurd opens (quiet_opens_nothing actions)
      backoff := fun lower => absurd (same ▸ lower) (Nat.lt_irrefl _)
      refusals := fun lower => absurd (same ▸ lower) (Nat.lt_irrefl _) }
  | true =>
    cases on : r.retry.online with
    | true =>
      have polled := poll_of_online nowMs random acts on
      have actions : (RetryCall.poll nowMs random).actions r.retry = quiet :=
        congrArg Prod.snd polled
      have same : (r.step (.poll nowMs random)).retry = _ := congrArg Prod.fst polled
      have since := announced.link acts on
      have resets : r.retry.stable nowMs = true → Resets r (.poll nowMs random) := fun stable =>
        ⟨_, since, stable_iff.mp stable⟩
      cases stable : r.retry.stable nowMs with
      | false =>
        simp only [stable, Bool.false_eq_true, if_false] at same
        exact {
          opens := fun opens => absurd opens (quiet_opens_nothing actions)
          backoff := fun lower => absurd (same ▸ lower) (Nat.lt_irrefl _)
          refusals := fun lower => absurd (same ▸ lower) (Nat.lt_irrefl _) }
      | true =>
        exact {
          opens := fun opens => absurd opens (quiet_opens_nothing actions)
          backoff := fun _ => resets stable
          refusals := fun _ => .inl (resets stable) }
    | false =>
      have polled := offlinePoll nowMs random acts on
      exact {
        opens := by
          intro opens
          obtain ⟨flag, late⟩ := recoveryDue_iff.mp (polled.opens.symm.trans opens)
          exact ⟨on, announced.flagged acts on flag, _, _, announced.outage acts on, rfl, late⟩
        backoff := fun lower => absurd polled.climbs (Nat.not_le_of_lt lower)
        refusals := by
          intro lower
          refine .inr ⟨nowMs, ?_⟩
          rcases poll_of_offline nowMs random acts on with
            ⟨_, _, again⟩ | ⟨_, _, again⟩ | ⟨_, _, again⟩
          · have same : (r.step (.poll nowMs random)).retry = _ := congrArg Prod.fst again
            rw [same] at lower
            exact absurd lower (by simp [attempt, announce_authFailures])
          · have same : (r.step (.poll nowMs random)).retry = _ := congrArg Prod.fst again
            rw [same, announce_authFailures] at lower
            exact absurd lower (Nat.lt_irrefl _)
          · simp [RetryCall.incident, acts, on, again] }

theorem announcing_call {r : RetryRun} (announced : Announced r) (call : RetryCall) :
    AnnouncingCall r call := by
  cases call with
  | start generation nowMs =>
    exact ⟨fun opens => absurd opens Bool.false_ne_true, fun _ => trivial, fun _ => .inl trivial⟩
  | stop =>
    exact ⟨fun opens => absurd opens Bool.false_ne_true, fun _ => trivial, fun _ => .inl trivial⟩
  | pause =>
    exact ⟨fun opens => absurd opens Bool.false_ne_true, fun lower => absurd lower (Nat.lt_irrefl _),
      fun lower => absurd lower (Nat.lt_irrefl _)⟩
  | connected nowMs =>
    have same : (r.step (.connected nowMs)).retry.backoff = r.retry.backoff ∧
        (r.step (.connected nowMs)).retry.authFailures = r.retry.authFailures := by
      simp only [step, RetryCall.effect, ProvisioningRetry.connected]
      split <;> exact ⟨rfl, rfl⟩
    exact ⟨fun opens => absurd opens Bool.false_ne_true,
      fun lower => absurd (same.1 ▸ lower) (Nat.lt_irrefl _),
      fun lower => absurd (same.2 ▸ lower) (Nat.lt_irrefl _)⟩
  | failed nowMs auth random =>
    refine ⟨fun opens => absurd opens Bool.false_ne_true, fun lower => ?_, fun lower => .inr ?_⟩
    · have climbs : r.retry.backoff ≤ (r.retry.failed nowMs auth random).backoff := by
        simp only [ProvisioningRetry.failed]
        split
        · exact Nat.le_refl _
        · split
          · exact Nat.le_refl _
          · simp only [attemptFailed]
            split <;> omega
      exact absurd climbs (Nat.not_le_of_lt lower)
    · refine ⟨nowMs, ?_⟩
      simp only [step, RetryCall.effect, ProvisioningRetry.failed, idle_iff] at lower
      simp only [RetryCall.incident]
      split at lower
      · exact absurd lower (Nat.lt_irrefl _)
      · next goes =>
        simp only [Bool.or_eq_true, Bool.not_eq_true', not_or] at goes
        split at lower
        · exact absurd lower (Nat.lt_irrefl _)
        · next off =>
          have off : r.retry.online = false := by simpa using off
          have flies : r.retry.inFlight = true := by simpa [off] using goes.2
          have acts : r.retry.acting = true := by simpa using goes.1
          cases auth with
          | false => simp [acts, off, flies]
          | true =>
            simp only [attemptFailed, if_true] at lower
            split at lower <;> omega
  | poll nowMs random => exact announcing_poll announced nowMs random

/-- Without a reset, the backoff of a link that comes and goes never goes down. -/
theorem backoff_climbs {r : RetryRun} (announced : Announced r) {calls : List RetryCall}
    (flaps : AllSteps step (fun r call => ¬ Resets r call) r calls) :
    r.retry.backoff ≤ (run step r calls).retry.backoff := by
  induction calls generalizing r with
  | nil => exact Nat.le_refl _
  | cons call rest ih =>
    have now : r.retry.backoff ≤ (r.step call).retry.backoff := by
      by_contra lower
      exact flaps.1 ((announcing_call announced call).backoff (Nat.lt_of_not_le lower))
    exact Nat.le_trans now (ih (announced_step announced call) flaps.2)

/-- Over every sequence of calls an outage opens the recovery AP at most once, and the backoff
    goes down by a reset only, so that a flapping link keeps its rung. -/
theorem recovery_is_announced_once (calls : List RetryCall) :
    AllStates step (fun r => r.record.announcements ≤ 1) init calls ∧
      AllSteps step AnnouncingCall init calls ∧
      ∀ before flaps, calls = before ++ flaps →
        AllSteps step (fun r call => ¬ Resets r call) (run step init before) flaps →
        (run step init before).retry.backoff ≤ (run step init calls).retry.backoff := by
  have announced : ∀ calls, AllStates step Announced init calls :=
    all_states_invariant (fun _ call announced => announced_step announced call) announced_init
  refine ⟨all_states_mono (fun _ announced => announced.once) (announced calls),
    all_steps_of_states (fun _ announced call => announcing_call announced call) (announced calls),
    ?_⟩
  rintro before flaps rfl still
  rw [run_append]
  exact backoff_climbs (all_states_last (announced before)) still

end RecoveryAnnouncement
