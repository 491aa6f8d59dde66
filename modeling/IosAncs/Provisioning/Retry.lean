import Mathlib.Data.List.Basic
import IosAncs.Foundation.Runs

/-!
The clock-only retry policy of the station link, and a record beside it of what
happened: failed attempts, outages, announcements. Nothing in the policy reads
the record. Milliseconds and counters are numbers; the code's caps are written out.
The source is `provisioning_retry.c`.
-/
open Runs

/-- `provisioning_retry_t` -/
structure ProvisioningRetry where
  generation : UInt32
  enabled : Bool
  paused : Bool
  online : Bool
  inFlight : Bool
  recoveryAnnounced : Bool
  backoff : Nat
  authFailures : Nat
  attempts : Nat
  outageSinceMs : Nat
  stableSinceMs : Nat
  nextAttemptMs : Nat
  attemptDeadlineMs : Nat
deriving DecidableEq, Repr

/-- The bits that a poll returns. -/
structure RetryActions where
  connect : Bool
  abort : Bool
  openAp : Bool
deriving DecidableEq, Repr

namespace ProvisioningRetry

def uint8Max : Nat := 255
def uint32Max : Nat := 4294967295
def uint64Max : Nat := 18446744073709551615

def retryAttemptMs : Nat := 20000
def retryRecoveryMs : Nat := 45000
def retryStableMs : Nat := 30000
def retryAuthMs : Nat := 300000

def after (nowMs delayMs : Nat) : Nat :=
  if uint64Max - delayMs < nowMs then uint64Max else nowMs + delayMs

def stop : ProvisioningRetry where
  generation := 0
  enabled := false
  paused := false
  online := false
  inFlight := false
  recoveryAnnounced := false
  backoff := 0
  authFailures := 0
  attempts := 0
  outageSinceMs := 0
  stableSinceMs := 0
  nextAttemptMs := 0
  attemptDeadlineMs := 0

def start (generation : UInt32) (nowMs : Nat) : ProvisioningRetry :=
  { stop with
    generation
    enabled := generation != 0
    outageSinceMs := nowMs
    nextAttemptMs := nowMs }

def pause (retry : ProvisioningRetry) : ProvisioningRetry :=
  { retry with paused := true, nextAttemptMs := 0 }

def matches_ (retry : ProvisioningRetry) (generation : UInt32) : Bool :=
  retry.enabled && !retry.paused && generation != 0 && retry.generation == generation

def connected (retry : ProvisioningRetry) (nowMs : Nat) : ProvisioningRetry :=
  if !retry.enabled || retry.paused then retry
  else
    { retry with
      online := true
      inFlight := false
      attemptDeadlineMs := 0
      nextAttemptMs := 0
      stableSinceMs := nowMs
      recoveryAnnounced := false }

/-- The table of `provisioning_retry_failed`, read at the rung of the backoff. -/
def delayOfRung (backoff : Nat) : Nat :=
  [5000, 15000, 30000, 60000].getD (if backoff < 3 then backoff else 3) 0

def jitterMax (delayMs : Nat) : Nat := if delayMs / 10 < 5000 then delayMs / 10 else 5000

/-- `provisioning_retry_failed` for a link that was online. -/
def linkLost (retry : ProvisioningRetry) (nowMs : Nat) : ProvisioningRetry :=
  { retry with
    online := false
    inFlight := false
    outageSinceMs := nowMs
    stableSinceMs := 0
    recoveryAnnounced := false
    nextAttemptMs := nowMs }

/-- `provisioning_retry_failed` for the attempt in flight. -/
def attemptFailed (retry : ProvisioningRetry) (nowMs : Nat) (authenticationFailure : Bool)
    (randomValue : UInt32) : ProvisioningRetry :=
  let authFailures :=
    if authenticationFailure then
      if retry.authFailures < uint8Max then retry.authFailures + 1 else retry.authFailures
    else 0
  let delayMs := if 3 ≤ authFailures then retryAuthMs else delayOfRung retry.backoff
  { retry with
    inFlight := false
    attemptDeadlineMs := 0
    authFailures
    backoff := if retry.backoff < 3 then retry.backoff + 1 else retry.backoff
    nextAttemptMs := after nowMs (delayMs + randomValue.toNat % (jitterMax delayMs + 1)) }

def failed (retry : ProvisioningRetry) (nowMs : Nat) (authenticationFailure : Bool)
    (randomValue : UInt32) : ProvisioningRetry :=
  if !retry.enabled || retry.paused || (!retry.inFlight && !retry.online) then retry
  else if retry.online then retry.linkLost nowMs
  else retry.attemptFailed nowMs authenticationFailure randomValue

def stable (retry : ProvisioningRetry) (nowMs : Nat) : Bool :=
  decide (retry.stableSinceMs ≤ nowMs) && decide (retryStableMs ≤ nowMs - retry.stableSinceMs)

def recoveryDue (retry : ProvisioningRetry) (nowMs : Nat) : Bool :=
  !retry.recoveryAnnounced && decide (retry.outageSinceMs ≤ nowMs) &&
    decide (retryRecoveryMs ≤ nowMs - retry.outageSinceMs)

/-- The first half of an offline poll: the recovery AP, once it is due. -/
def announce (retry : ProvisioningRetry) (nowMs : Nat) : ProvisioningRetry :=
  if retry.recoveryDue nowMs then { retry with recoveryAnnounced := true } else retry

def attempt (retry : ProvisioningRetry) (nowMs : Nat) : ProvisioningRetry :=
  { retry with
    inFlight := true
    attemptDeadlineMs := after nowMs retryAttemptMs
    nextAttemptMs := 0
    attempts := if retry.attempts < uint32Max then retry.attempts + 1 else retry.attempts }

def quiet : RetryActions := { connect := false, abort := false, openAp := false }

def poll (retry : ProvisioningRetry) (nowMs : Nat) (randomValue : UInt32) :
    ProvisioningRetry × RetryActions :=
  if !retry.enabled || retry.paused then (retry, quiet)
  else if retry.online then
    (if retry.stable nowMs then { retry with backoff := 0, authFailures := 0 } else retry, quiet)
  else
    let announced := retry.announce nowMs
    let abort := announced.inFlight && decide (announced.attemptDeadlineMs ≤ nowMs)
    let settled := if abort then announced.failed nowMs false randomValue else announced
    let connect := !settled.inFlight && decide (settled.nextAttemptMs ≤ nowMs)
    (if connect then settled.attempt nowMs else settled,
      { connect, abort, openAp := retry.recoveryDue nowMs })

def remainingMs (retry : ProvisioningRetry) (nowMs : Nat) : Nat :=
  if !retry.enabled || retry.paused || retry.online || retry.inFlight ||
      decide (retry.nextAttemptMs ≤ nowMs) then 0
  else if uint32Max < retry.nextAttemptMs - nowMs then uint32Max
  else retry.nextAttemptMs - nowMs

end ProvisioningRetry

open ProvisioningRetry

inductive RetryCall where
  | start (generation : UInt32) (nowMs : Nat)
  | stop
  | pause
  | connected (nowMs : Nat)
  | failed (nowMs : Nat) (authenticationFailure : Bool) (randomValue : UInt32)
  | poll (nowMs : Nat) (randomValue : UInt32)
deriving DecidableEq, Repr

def RetryCall.nowMs? : RetryCall → Option Nat
  | .start _ nowMs | .connected nowMs | .failed nowMs _ _ | .poll nowMs _ => some nowMs
  | .stop | .pause => none

/-- What happened to the link, told apart by the policy before the call. -/
inductive RetryIncident where
  | started (nowMs : Nat)
  | stopped
  | paused
  | online (nowMs : Nat)
  | lost (nowMs : Nat)
  | attemptFailed (nowMs : Nat) (authenticationFailure : Bool)
  | settled
  | attempted (nowMs : Nat)
  | nothing
deriving DecidableEq, Repr

def ProvisioningRetry.acting (retry : ProvisioningRetry) : Bool := retry.enabled && !retry.paused

def RetryCall.incident (retry : ProvisioningRetry) : RetryCall → RetryIncident
  | .start _ nowMs => .started nowMs
  | .stop => .stopped
  | .pause => .paused
  | .connected nowMs => if retry.acting then .online nowMs else .nothing
  | .failed nowMs auth _ =>
    if !retry.acting then .nothing
    else if retry.online then .lost nowMs
    else if retry.inFlight then .attemptFailed nowMs auth
    else .nothing
  | .poll nowMs random =>
    if !retry.acting then .nothing
    else if retry.online then if retry.stable nowMs then .settled else .nothing
    else if (retry.poll nowMs random).2.abort then .attemptFailed nowMs false
    else if (retry.poll nowMs random).2.connect then .attempted nowMs
    else .nothing

def RetryCall.effect (retry : ProvisioningRetry) : RetryCall → ProvisioningRetry
  | .start generation nowMs => ProvisioningRetry.start generation nowMs
  | .stop => ProvisioningRetry.stop
  | .pause => retry.pause
  | .connected nowMs => retry.connected nowMs
  | .failed nowMs auth random => retry.failed nowMs auth random
  | .poll nowMs random => (retry.poll nowMs random).1

def RetryCall.actions (retry : ProvisioningRetry) : RetryCall → RetryActions
  | .poll nowMs random => (retry.poll nowMs random).2
  | _ => quiet

/-- What the policy does not keep: the clock of the last call, the failed attempts since the
    last reset of the backoff (true for an authentication failure, newest first), the failed
    attempt whose wait is under way, when the attempt in flight began, when the outage began,
    how often it was announced, and the latest connected call with no failure since. -/
structure RetryRecord where
  clockMs : Nat
  failures : List Bool
  waitingSince : Option Nat
  attemptSince : Nat
  outageSince : Option Nat
  announcements : Nat
  connectedSince : Option Nat
deriving DecidableEq, Repr

namespace RetryRecord

def note (record : RetryRecord) : RetryIncident → RetryRecord
  | .started nowMs =>
    { record with failures := [], waitingSince := none, outageSince := some nowMs, announcements := 0 }
  | .stopped =>
    { record with failures := [], waitingSince := none, outageSince := none, announcements := 0 }
  | .paused => { record with waitingSince := none }
  | .online _ => { record with waitingSince := none, outageSince := none, announcements := 0 }
  | .lost nowMs =>
    { record with waitingSince := none, outageSince := some nowMs, announcements := 0 }
  | .attemptFailed nowMs auth =>
    { record with failures := auth :: record.failures, waitingSince := some nowMs }
  | .settled => { record with failures := [] }
  | .attempted nowMs => { record with waitingSince := none, attemptSince := nowMs }
  | .nothing => record

def noteCall (record : RetryRecord) (call : RetryCall) (actions : RetryActions) : RetryRecord :=
  { record with
    clockMs := call.nowMs?.getD record.clockMs
    announcements := if actions.openAp then record.announcements + 1 else record.announcements
    connectedSince := match call with
      | .connected nowMs => some nowMs
      | .failed _ _ _ => none
      | _ => if actions.abort then none else record.connectedSince }

end RetryRecord

structure RetryRun where
  retry : ProvisioningRetry
  record : RetryRecord
deriving DecidableEq, Repr

namespace RetryRun

/-- The static memory of the policy before its first call. -/
def init : RetryRun where
  retry := ProvisioningRetry.stop
  record := { clockMs := 0, failures := [], waitingSince := none, attemptSince := 0
              outageSince := none, announcements := 0, connectedSince := none }

def step (r : RetryRun) (call : RetryCall) : RetryRun where
  retry := call.effect r.retry
  record := (r.record.note (call.incident r.retry)).noteCall call (call.actions r.retry)

theorem step_eq (r : RetryRun) (call : RetryCall) {retry : ProvisioningRetry}
    {incident : RetryIncident} {actions : RetryActions} (effect : call.effect r.retry = retry)
    (happened : call.incident r.retry = incident) (acted : call.actions r.retry = actions) :
    r.step call = { retry, record := (r.record.note incident).noteCall call actions } := by
  rw [← effect, ← happened, ← acted]
  rfl

end RetryRun

namespace ProvisioningRetry
variable {retry : ProvisioningRetry} {nowMs : Nat} {random : UInt32}

theorem acting_iff : retry.acting = true ↔ retry.enabled = true ∧ retry.paused = false := by
  simp [acting]

theorem idle_iff : (!retry.enabled || retry.paused) = !retry.acting := by
  simp [acting]

theorem connected_of_idle (idle : retry.acting = false) : retry.connected nowMs = retry := by
  simp [connected, idle_iff, idle]

theorem failed_of_idle {auth : Bool} (idle : retry.acting = false) :
    retry.failed nowMs auth random = retry := by
  simp [failed, idle_iff, idle]

variable (nowMs random) in
theorem failed_of_online (auth : Bool) (acts : retry.acting = true) (on : retry.online = true) :
    retry.failed nowMs auth random = retry.linkLost nowMs := by
  simp [failed, idle_iff, acts, on]

theorem failed_of_flight {auth : Bool} (acts : retry.acting = true) (off : retry.online = false)
    (flies : retry.inFlight = true) :
    retry.failed nowMs auth random = retry.attemptFailed nowMs auth random := by
  simp [failed, idle_iff, acts, off, flies]

theorem failed_of_waiting {auth : Bool} (off : retry.online = false)
    (waits : retry.inFlight = false) : retry.failed nowMs auth random = retry := by
  simp [failed, off, waits]

variable (nowMs random) in
theorem poll_of_idle (idle : retry.acting = false) :
    retry.poll nowMs random = (retry, quiet) := by
  simp [poll, idle_iff, idle]

variable (nowMs random) in
theorem poll_of_online (acts : retry.acting = true) (on : retry.online = true) :
    retry.poll nowMs random =
      (if retry.stable nowMs then { retry with backoff := 0, authFailures := 0 } else retry,
        quiet) := by
  simp [poll, idle_iff, acts, on]

theorem announce_same (retry : ProvisioningRetry) (nowMs : Nat) :
    (retry.announce nowMs).acting = retry.acting ∧ (retry.announce nowMs).online = retry.online ∧
      (retry.announce nowMs).inFlight = retry.inFlight ∧
      (retry.announce nowMs).nextAttemptMs = retry.nextAttemptMs ∧
      (retry.announce nowMs).attemptDeadlineMs = retry.attemptDeadlineMs := by
  unfold announce
  split <;> exact ⟨rfl, rfl, rfl, rfl, rfl⟩

@[simp] theorem announce_acting (retry : ProvisioningRetry) (nowMs : Nat) :
    (retry.announce nowMs).acting = retry.acting := (announce_same retry nowMs).1

@[simp] theorem announce_online (retry : ProvisioningRetry) (nowMs : Nat) :
    (retry.announce nowMs).online = retry.online := (announce_same retry nowMs).2.1

@[simp] theorem announce_inFlight (retry : ProvisioningRetry) (nowMs : Nat) :
    (retry.announce nowMs).inFlight = retry.inFlight := (announce_same retry nowMs).2.2.1

@[simp] theorem announce_nextAttemptMs (retry : ProvisioningRetry) (nowMs : Nat) :
    (retry.announce nowMs).nextAttemptMs = retry.nextAttemptMs := (announce_same retry nowMs).2.2.2.1

@[simp] theorem announce_attemptDeadlineMs (retry : ProvisioningRetry) (nowMs : Nat) :
    (retry.announce nowMs).attemptDeadlineMs = retry.attemptDeadlineMs :=
  (announce_same retry nowMs).2.2.2.2

variable (nowMs random) in
/-- What a poll does to a link that is down: the announcement first, then the attempt in
    flight, then the next one. -/
theorem poll_of_offline (acts : retry.acting = true) (off : retry.online = false) :
    (retry.inFlight = false ∧ retry.nextAttemptMs ≤ nowMs ∧
      retry.poll nowMs random = ((retry.announce nowMs).attempt nowMs,
        { connect := true, abort := false, openAp := retry.recoveryDue nowMs })) ∨
    ((retry.inFlight = true → nowMs < retry.attemptDeadlineMs) ∧
      (retry.inFlight = false → nowMs < retry.nextAttemptMs) ∧
      retry.poll nowMs random = (retry.announce nowMs,
        { connect := false, abort := false, openAp := retry.recoveryDue nowMs })) ∨
    (retry.inFlight = true ∧ retry.attemptDeadlineMs ≤ nowMs ∧
      retry.poll nowMs random =
        let failure := (retry.announce nowMs).attemptFailed nowMs false random
        let again := decide (failure.nextAttemptMs ≤ nowMs)
        (if again then failure.attempt nowMs else failure,
          { connect := again, abort := true, openAp := retry.recoveryDue nowMs })) := by
  cases flies : retry.inFlight with
  | false =>
    by_cases due : retry.nextAttemptMs ≤ nowMs
    · exact .inl ⟨rfl, due, by simp [poll, idle_iff, acts, off, flies, due]⟩
    · refine .inr (.inl ⟨by simp, fun _ => Nat.lt_of_not_le due, ?_⟩)
      simp [poll, idle_iff, acts, off, flies, due]
  | true =>
    by_cases late : retry.attemptDeadlineMs ≤ nowMs
    · refine .inr (.inr ⟨rfl, late, ?_⟩)
      have failure : (retry.announce nowMs).failed nowMs false random =
          (retry.announce nowMs).attemptFailed nowMs false random := by
        apply failed_of_flight <;> simp [acts, off, flies]
      simp [poll, idle_iff, acts, off, flies, late, failure, attemptFailed]
    · refine .inr (.inl ⟨fun _ => Nat.lt_of_not_le late, by simp, ?_⟩)
      simp [poll, idle_iff, acts, off, flies, late]

theorem after_le (delayMs : Nat) : after nowMs delayMs ≤ nowMs + delayMs := by
  unfold after
  split <;> omega

theorem after_eq {delayMs : Nat} (fits : nowMs + delayMs ≤ uint64Max) :
    after nowMs delayMs = nowMs + delayMs := by
  unfold after
  split
  · omega
  · rfl

end ProvisioningRetry
