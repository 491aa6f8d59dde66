import Mathlib.Tactic.Linarith
import IosAncs.Foundation.Runs
import IosAncs.HomeAssistant.Diagnostics

/-!
How long a status is taken for current. The runtime compares clocks, generations and uptimes;
here it is set against the history of what really came in.
-/
open Runs StatusValue

namespace Freshness

/-- What came in: a status found at the start, a sample with its time, or the end of one. -/
inductive StatusEvent where
  | found (uptime : Option Int)
  | sample (receivedAt : ℚ) (uptime : Option Int)
  | unavailable
  | expired
  | stopped

def seenUptime : List StatusEvent → Option Int
  | [] => none
  | .found uptime :: _ => uptime
  | .stopped :: _ => none
  | .sample _ uptime :: earlier => uptime.or (seenUptime earlier)
  | .unavailable :: earlier => seenUptime earlier
  | .expired :: earlier => seenUptime earlier

def Advances (event : StatusEvent) (earlier : List StatusEvent) : Prop :=
  ∃ receivedAt uptime previous, event = .sample receivedAt (some uptime) ∧
    seenUptime earlier = some previous ∧ previous < uptime

/-- What ends the freshness of an earlier sample: an expiry, an unavailability, the stop, or an
    uptime below the one seen before it. -/
def Interrupts (event : StatusEvent) (earlier : List StatusEvent) : Prop :=
  event = .expired ∨ event = .unavailable ∨ event = .stopped ∨
    ∃ receivedAt uptime previous, event = .sample receivedAt (some uptime) ∧
      seenUptime earlier = some previous ∧ uptime < previous

/-- A call of `_expire_diagnostics` that the loop was asked for by a sample, which is known by
    the number of events before it. -/
structure ScheduledTimer where
  generation : Nat
  sample : Nat

structure Monitor where
  runtime : DiagnosticsRuntime
  clock : ℚ
  history : List StatusEvent
  timers : List ScheduledTimer

inductive MonitorInput where
  | start (currentState : Option String) (status : Option (Option StatusState))
  | stop
  | elapse (seconds : ℚ≥0)
  | source (newState : Option String)
  /-- a status, handled in the time that passes between its two readings of the clock -/
  | status (newState : Option StatusState) (seconds : ℚ≥0)
  /-- a timer that was ever scheduled, cancelled or not, at any time -/
  | timer (index : Nat)

namespace Monitor
open DiagnosticsRuntime

def init : Monitor := { runtime := DiagnosticsRuntime.init, clock := 0, history := [], timers := [] }

def lost (m : Monitor) (newState : Option String) : List StatusEvent :=
  if sourceAvailable newState = false ∧ m.runtime.available ≠ some false then [.unavailable] else []

def found : Option (Option StatusState) → List StatusEvent
  | some (some status) => [.found (int? (get status.attributes "uptime_seconds"))]
  | _ => []

def statusEvent (clock : ℚ) : Option StatusState → StatusEvent
  | none => .unavailable
  | some state =>
    if missing state then .unavailable
    else .sample clock (int? (get state.attributes "uptime_seconds"))

def step (m : Monitor) : MonitorInput → Monitor
  | .start currentState status =>
    if m.runtime.subscribed then m
    else
      { m with
        runtime := m.runtime.start currentState status m.clock
        history := found status ++ (m.lost currentState ++ m.history) }
  | .stop => { m with runtime := m.runtime.stop, history := .stopped :: m.history }
  | .elapse seconds => { m with clock := m.clock + seconds }
  | .source newState =>
    if m.runtime.subscribed then
      { m with
        runtime := m.runtime.handleSourceStateChange newState
        history := m.lost newState ++ m.history }
    else m
  | .status newState seconds =>
    if m.runtime.statusSubscribed then
      let handled := m.runtime.handleStatusStateChange newState m.clock (m.clock + seconds)
      { runtime := handled.1
        clock := m.clock + seconds
        history := statusEvent m.clock newState :: m.history
        timers := m.timers ++
          handled.2.toList.map fun generation => ⟨generation, m.history.length⟩ }
    else m
  | .timer index =>
    match m.timers[index]? with
    | none => m
    | some timer =>
      { m with
        runtime := m.runtime.expire (some timer.generation)
        history := if timer.generation = m.runtime.generation then .expired :: m.history
          else m.history }

end Monitor

def VersionOne (state : StatusState) : Prop :=
  DiagnosticsRuntime.missing state = true ∨
    get state.attributes "diagnostics_version" = some (.int 1)

def MonitorInput.VersionOne : MonitorInput → Prop
  | .start _ initial => ∀ state, initial = some (some state) → Freshness.VersionOne state
  | .status newState _ => ∀ state, newState = some state → Freshness.VersionOne state
  | _ => True

/-- What the claim to be current says of the history. -/
structure NeverOverstated (m : Monitor) : Prop where
  /-- a fresh status came from a sample that advanced, less than the time to live ago, and
      nothing has ended it since -/
  current : m.runtime.fresh m.clock = true → ∃ later receivedAt uptime earlier,
    m.history = later ++ .sample receivedAt (some uptime) :: earlier ∧
      Advances (.sample receivedAt (some uptime)) earlier ∧
      receivedAt ≤ m.clock ∧ m.clock < receivedAt + 180 ∧
      ∀ newer event older, later = newer ++ event :: older →
        ¬ Interrupts event (older ++ .sample receivedAt (some uptime) :: earlier)
  /-- a timer does nothing once a sample newer than its own has advanced -/
  stale : ∀ timer ∈ m.timers, ∀ later event earlier, m.history = later ++ event :: earlier →
    Advances event earlier → timer.sample < earlier.length →
      m.runtime.expire (some timer.generation) = m.runtime
  /-- after an expiry or an unavailability nothing is said of the connection until a sample
      advances -/
  silent : ∀ later event earlier, m.history = later ++ event :: earlier →
    event = .expired ∨ event = .unavailable →
    (∀ newer next older, later = newer ++ next :: older →
      ¬ Advances next (older ++ event :: earlier)) →
    m.runtime.bleConnected = none

section History
variable {history : List StatusEvent} {event : StatusEvent} {receivedAt : ℚ} {serial : Nat}

def Standing (history : List StatusEvent) (receivedAt : ℚ) : Prop :=
  ∃ later uptime earlier, history = later ++ .sample receivedAt (some uptime) :: earlier ∧
    Advances (.sample receivedAt (some uptime)) earlier ∧
    ∀ newer event older, later = newer ++ event :: older →
      ¬ Interrupts event (older ++ .sample receivedAt (some uptime) :: earlier)

def Silenced (history : List StatusEvent) : Prop :=
  ∃ later event earlier, history = later ++ event :: earlier ∧
    (event = .expired ∨ event = .unavailable) ∧
    ∀ newer next older, later = newer ++ next :: older → ¬ Advances next (older ++ event :: earlier)

def NewerThan (history : List StatusEvent) (serial : Nat) : Prop :=
  ∃ later event earlier, history = later ++ event :: earlier ∧ Advances event earlier ∧
    serial < earlier.length

theorem standing_new (advances : Advances event history) :
    ∃ receivedAt uptime, event = .sample receivedAt (some uptime) ∧
      Standing (event :: history) receivedAt := by
  obtain ⟨receivedAt, uptime, previous, rfl, seen, above⟩ := advances
  refine ⟨receivedAt, uptime, rfl, [], uptime, history, rfl,
    ⟨receivedAt, uptime, previous, rfl, seen, above⟩, ?_⟩
  intro newer event older split_
  simp at split_

theorem standing_cons (stands : Standing history receivedAt) (quiet : ¬ Interrupts event history) :
    Standing (event :: history) receivedAt := by
  obtain ⟨later, uptime, earlier, rfl, advances, since⟩ := stands
  refine ⟨event :: later, uptime, earlier, rfl, advances, ?_⟩
  intro newer next older split_
  cases newer with
  | nil =>
    obtain ⟨rfl, rfl⟩ := List.cons.inj split_
    exact quiet
  | cons first newer =>
    obtain ⟨rfl, rest⟩ := List.cons.inj split_
    exact since newer next older rest

theorem silenced_cons (silenced : Silenced (event :: history)) :
    ¬ Advances event history ∨ event = .expired ∨ event = .unavailable := by
  obtain ⟨later, last, earlier, split_, ends, since⟩ := silenced
  cases later with
  | nil =>
    obtain ⟨rfl, _⟩ := List.cons.inj split_
    exact .inr ends
  | cons first later =>
    obtain ⟨rfl, rfl⟩ := List.cons.inj split_
    exact .inl (since [] event later rfl)

theorem silenced_tail (silenced : Silenced (event :: history))
    (goes : event ≠ .expired ∧ event ≠ .unavailable) : Silenced history := by
  obtain ⟨later, last, earlier, split_, ends, since⟩ := silenced
  cases later with
  | nil =>
    obtain ⟨rfl, _⟩ := List.cons.inj split_
    rcases ends with rfl | rfl
    · exact absurd rfl goes.1
    · exact absurd rfl goes.2
  | cons first later =>
    obtain ⟨rfl, rfl⟩ := List.cons.inj split_
    refine ⟨later, last, earlier, rfl, ends, ?_⟩
    intro newer next older rest
    exact since (event :: newer) next older (congrArg (event :: ·) rest)

theorem newer_cons (newer : NewerThan (event :: history) serial) :
    Advances event history ∨ NewerThan history serial := by
  obtain ⟨later, last, earlier, split_, advances, below⟩ := newer
  cases later with
  | nil =>
    obtain ⟨rfl, rfl⟩ := List.cons.inj split_
    exact .inl advances
  | cons first later =>
    obtain ⟨_, rfl⟩ := List.cons.inj split_
    exact .inr ⟨later, last, earlier, rfl, advances, below⟩

end History

structure Mirrors (m : Monitor) : Prop where
  seen : m.runtime.sourceUptime = seenUptime m.history
  received : ∀ receivedAt, m.runtime.receivedAt = some receivedAt →
    Standing m.history receivedAt ∧ receivedAt ≤ m.clock
  silenced : Silenced m.history → m.runtime.receivedAt = none ∧ m.runtime.bleConnected = none
  timers : ∀ timer ∈ m.timers, timer.generation ≤ m.runtime.generation ∧
    (NewerThan m.history timer.sample → timer.generation < m.runtime.generation)

namespace Monitor
open DiagnosticsRuntime
variable {m : Monitor}

theorem mirrors_init : Mirrors init where
  seen := rfl
  received := fun _ none_ => absurd none_ (by simp [init, DiagnosticsRuntime.init])
  silenced := fun _ => ⟨rfl, rfl⟩
  timers := fun _ member => absurd member List.not_mem_nil

theorem mirrors_later (mirrors : Mirrors m) {clock : ℚ} (later : m.clock ≤ clock) :
    Mirrors { m with clock } where
  seen := mirrors.seen
  received := fun receivedAt some_ =>
    ⟨(mirrors.received receivedAt some_).1, (mirrors.received receivedAt some_).2.trans later⟩
  silenced := mirrors.silenced
  timers := mirrors.timers

theorem mirrors_quiet (mirrors : Mirrors m) {event : StatusEvent} {r : DiagnosticsRuntime}
    (calm : ¬ Advances event m.history) (seen : r.sourceUptime = seenUptime (event :: m.history))
    (received : r.receivedAt = none) (unsaid : r.bleConnected = none)
    (grows : m.runtime.generation ≤ r.generation) :
    Mirrors { m with runtime := r, history := event :: m.history } where
  seen := seen
  received := fun _ some_ => absurd (received.symm.trans some_) (by simp)
  silenced := fun _ => ⟨received, unsaid⟩
  timers := by
    intro timer member
    obtain ⟨below, stale⟩ := mirrors.timers timer member
    refine ⟨below.trans grows, fun newer => ?_⟩
    rcases newer_cons newer with advances | older
    · exact absurd advances calm
    · exact (stale older).trans_le grows

theorem calm_of_missing {event : StatusEvent} (earlier : List StatusEvent)
    (ends : event = .expired ∨ event = .unavailable) :
    ¬ Advances event earlier ∧ seenUptime (event :: earlier) = seenUptime earlier := by
  rcases ends with rfl | rfl
  · exact ⟨fun ⟨_, _, _, same, _⟩ => absurd same (by simp), rfl⟩
  · exact ⟨fun ⟨_, _, _, same, _⟩ => absurd same (by simp), rfl⟩

theorem mirrors_ended (mirrors : Mirrors m) {event : StatusEvent} {r : DiagnosticsRuntime}
    (ends : event = .expired ∨ event = .unavailable)
    (seen : r.sourceUptime = m.runtime.sourceUptime) (received : r.receivedAt = none)
    (unsaid : r.bleConnected = none) (grows : m.runtime.generation ≤ r.generation) :
    Mirrors { m with runtime := r, history := event :: m.history } := by
  obtain ⟨calm, same⟩ := calm_of_missing m.history ends
  exact mirrors_quiet mirrors calm (seen.trans (mirrors.seen.trans same.symm)) received unsaid grows

theorem mirrors_same (mirrors : Mirrors m) {r : DiagnosticsRuntime}
    (seen : r.sourceUptime = m.runtime.sourceUptime) (received : r.receivedAt = m.runtime.receivedAt)
    (said : r.bleConnected = m.runtime.bleConnected ∨ r.bleConnected = none)
    (generation : r.generation = m.runtime.generation) : Mirrors { m with runtime := r } where
  seen := seen.trans mirrors.seen
  received := by
    dsimp only
    rw [received]
    exact mirrors.received
  silenced := by
    intro silenced
    have before := mirrors.silenced silenced
    refine ⟨received.trans before.1, ?_⟩
    rcases said with same | unsaid
    · exact same.trans before.2
    · exact unsaid
  timers := by
    dsimp only
    rw [generation]
    exact mirrors.timers

theorem setAvailable_lost {r : DiagnosticsRuntime} (lost : r.available ≠ some false) :
    r.setAvailable false =
      { r with
        available := some false
        timer := none
        generation := r.generation + 1
        receivedAt := none
        bleConnected := none } := by
  simp [setAvailable, lost, expire]

theorem mirrors_source (mirrors : Mirrors m) (newState : Option String) :
    Mirrors { m with
      runtime := m.runtime.setAvailable (sourceAvailable newState)
      history := m.lost newState ++ m.history } := by
  unfold lost
  cases available : sourceAvailable newState with
  | true =>
    simp only [setAvailable, Bool.true_eq_false, false_and, if_false]
    split
    · exact mirrors
    · exact mirrors_same mirrors rfl rfl (.inl rfl) rfl
  | false =>
    by_cases already : m.runtime.available = some false
    · simpa [setAvailable, already] using mirrors
    · rw [setAvailable_lost already, if_pos ⟨rfl, already⟩]
      exact mirrors_ended mirrors (.inr rfl) rfl rfl rfl (Nat.le_succ m.runtime.generation)

theorem mirrors_start (mirrors : Mirrors m) (currentState : Option String)
    (status : Option (Option StatusState))
    (version : (MonitorInput.start currentState status).VersionOne) :
    Mirrors (m.step (.start currentState status)) := by
  by_cases unsubscribed : m.runtime.subscribed = true
  · simpa only [step, unsubscribed, if_true] using mirrors
  simp only [step, if_neg unsubscribed]
  have source := mirrors_source mirrors currentState
  have resolved : Mirrors { m with
      runtime := { m.runtime.setAvailable (sourceAvailable currentState) with subscribed := true }
      history := m.lost currentState ++ m.history } := mirrors_same source rfl rfl (.inl rfl) rfl
  unfold DiagnosticsRuntime.start
  rw [if_neg unsubscribed]
  cases status with
  | none => exact resolved
  | some initialStatus =>
    cases initialStatus with
    | none =>
      refine mirrors_same resolved rfl rfl (.inr ?_) rfl
      simp [startStatus, bleConnectedFromState]
    | some state =>
      have unsaid : (startStatus { m.runtime.setAvailable (sourceAvailable currentState) with
          subscribed := true } (some state) m.clock).bleConnected = none := by
        rcases version state rfl with missing | one
        · simp only [startStatus, bleConnectedFromState]
          split
          · rfl
          · simp_all [DiagnosticsRuntime.missing]
        · have kept : isOne (get (Diagnostics.parseDiagnostics state.attributes)
              "diagnostics_version") = true := by
            rw [Diagnostics.get_parse_version one]
            rfl
          simp [startStatus, update, kept]
      refine mirrors_quiet resolved ?_ rfl rfl unsaid (Nat.le_succ _)
      exact fun ⟨_, _, _, same, _⟩ => absurd same (by simp)

theorem mirrors_stop (mirrors : Mirrors m) : Mirrors (m.step .stop) := by
  refine mirrors_quiet mirrors ?_ rfl rfl rfl (Nat.le_succ _)
  exact fun ⟨_, _, _, same, _⟩ => absurd same (by simp)

theorem mirrors_timer (mirrors : Mirrors m) (index : Nat) : Mirrors (m.step (.timer index)) := by
  simp only [step]
  split
  · exact mirrors
  next timer _ =>
  by_cases due : timer.generation = m.runtime.generation
  · simp only [expire, due, Option.any_some, bne_self_eq_false, Bool.false_eq_true, if_false, if_true]
    exact mirrors_ended mirrors (.inl rfl) rfl rfl rfl (Nat.le_succ _)
  · simpa [expire, due] using mirrors

theorem update_cases (r : DiagnosticsRuntime) (data : Attributes) (live preserve : Bool) (now : ℚ) :
    ((preserve = true ∧ r.fresh now = true) ∧
      r.update data live preserve now =
        ({ r with diagnostics := Diagnostics.parseDiagnostics data }, none)) ∨
    (¬ (preserve = true ∧ r.fresh now = true) ∧
      ((r.update data live preserve now).1.receivedAt = if live then some now else none) ∧
      ((r.update data live preserve now).1.generation = r.generation + 1) ∧
      ((r.update data live preserve now).1.sourceUptime = r.sourceUptime) ∧
      (r.update data live preserve now).2 = if live then some (r.generation + 1) else none) := by
  by_cases kept : preserve = true ∧ r.fresh now = true
  · refine .inl ⟨kept, ?_⟩
    have fresh : { r with diagnostics := Diagnostics.parseDiagnostics data }.fresh now = true := kept.2
    simp [update, kept.1, fresh]
  · have stale : (preserve && { r with diagnostics := Diagnostics.parseDiagnostics data }.fresh now) =
        false := by
      cases preserve with
      | false => rfl
      | true => simpa [fresh] using kept
    exact .inr ⟨kept, by simp [update, stale]⟩

theorem fresh_of_none {r : DiagnosticsRuntime} (unreceived : r.receivedAt = none) (now : ℚ) :
    r.fresh now = false := by
  unfold fresh
  rw [unreceived]

theorem live_iff {data : Attributes} (previous : Option Int)
    (version : get data "diagnostics_version" = some (.int 1)) :
    isLive data previous = true ↔ ∃ uptime before, int? (get data "uptime_seconds") = some uptime ∧
      previous = some before ∧ before < uptime := by
  have current : isOne (get data "diagnostics_version") = true := by
    rw [version]
    rfl
  simp only [isLive, current, Bool.not_true, Bool.false_or]
  cases int? (get data "uptime_seconds") with
  | none => simp
  | some uptime =>
    cases previous with
    | none => simp
    | some before => simp

theorem mirrors_live (mirrors : Mirrors m) {uptime : Option Int} {r : DiagnosticsRuntime}
    (advances : Advances (.sample m.clock uptime) m.history)
    (seen : r.sourceUptime = seenUptime (.sample m.clock uptime :: m.history))
    (received : r.receivedAt = some m.clock) (generation : r.generation = m.runtime.generation + 1) :
    Mirrors { m with
      runtime := r
      history := .sample m.clock uptime :: m.history
      timers := m.timers ++ [⟨m.runtime.generation + 1, m.history.length⟩] } where
  seen := seen
  received := by
    intro receivedAt some_
    obtain rfl : m.clock = receivedAt := Option.some.inj (received.symm.trans some_)
    obtain ⟨receivedAt, _, same, stands⟩ := standing_new advances
    cases same
    exact ⟨stands, le_refl _⟩
  silenced := by
    intro silenced
    rcases silenced_cons silenced with calm | ended | ended
    · exact absurd advances calm
    · cases ended
    · cases ended
  timers := by
    intro timer member
    dsimp only at member ⊢
    rw [generation]
    rcases List.mem_append.mp member with old | new
    · have below := (mirrors.timers timer old).1
      exact ⟨below.trans (Nat.le_succ _), fun _ => Nat.lt_succ_of_le below⟩
    · rw [List.mem_singleton.mp new]
      refine ⟨le_refl _, fun newer => ?_⟩
      obtain ⟨later, event, earlier, split_, _, below⟩ := newer
      have length := congrArg List.length split_
      simp only [List.length_cons, List.length_append] at length below
      omega

theorem mirrors_preserved (mirrors : Mirrors m) {uptime : Int} {r : DiagnosticsRuntime}
    (same : seenUptime m.history = some uptime) (current : m.runtime.receivedAt ≠ none)
    (seen : r.sourceUptime = some uptime) (received : r.receivedAt = m.runtime.receivedAt)
    (generation : r.generation = m.runtime.generation) :
    Mirrors { m with runtime := r, history := .sample m.clock (some uptime) :: m.history } := by
  have calm : ¬ Advances (.sample m.clock (some uptime)) m.history := by
    rintro ⟨_, _, previous, event, before, above⟩
    cases event
    obtain rfl := Option.some.inj (same.symm.trans before)
    exact absurd above (lt_irrefl _)
  have quiet : ¬ Interrupts (.sample m.clock (some uptime)) m.history := by
    rintro (event | event | event | ⟨_, _, previous, event, before, below⟩)
    · cases event
    · cases event
    · cases event
    · cases event
      obtain rfl := Option.some.inj (same.symm.trans before)
      exact absurd below (lt_irrefl _)
  exact {
    seen := seen
    received := by
      intro receivedAt some_
      obtain ⟨stands, past⟩ := mirrors.received receivedAt (received.symm.trans some_)
      exact ⟨standing_cons stands quiet, past⟩
    silenced := by
      intro silenced
      exact absurd (mirrors.silenced (silenced_tail silenced (by simp))).1 current
    timers := by
      intro timer member
      dsimp only
      rw [generation]
      obtain ⟨below, stale⟩ := mirrors.timers timer member
      refine ⟨below, fun newer => ?_⟩
      rcases newer_cons newer with advances | older
      · exact absurd advances calm
      · exact stale older }

theorem mirrors_sample (mirrors : Mirrors m) {state : StatusState} (present : missing state = false)
    (version : get state.attributes "diagnostics_version" = some (.int 1)) (later : ℚ) :
    let handled := m.runtime.handleStatusStateChange (some state) m.clock later
    Mirrors { m with
      runtime := handled.1
      history := statusEvent m.clock (some state) :: m.history
      timers := m.timers ++ handled.2.toList.map fun generation => ⟨generation, m.history.length⟩ } := by
  have advances := live_iff m.runtime.sourceUptime version
  simp only [handleStatusStateChange, statusEvent, present, Bool.false_eq_true, if_false]
  generalize int? (get state.attributes "uptime_seconds") = uptime at advances ⊢
  generalize isLive state.attributes m.runtime.sourceUptime = live at advances ⊢
  have seen : uptime.or m.runtime.sourceUptime =
      seenUptime (.sample m.clock uptime :: m.history) := by
    rw [mirrors.seen]
    rfl
  have live_advances : live = true ↔ Advances (.sample m.clock uptime) m.history := by
    rw [advances, mirrors.seen]
    constructor
    · rintro ⟨new, before, rfl, same, above⟩
      exact ⟨m.clock, new, before, rfl, same, above⟩
    · rintro ⟨_, new, before, event, same, above⟩
      cases event
      exact ⟨new, before, rfl, same, above⟩
  rcases update_cases { m.runtime with sourceUptime := uptime.or m.runtime.sourceUptime }
    state.attributes live (!live && uptime.isSome && uptime == m.runtime.sourceUptime) m.clock with
    ⟨⟨preserve, fresh⟩, kept⟩ | ⟨_, received, generation, uptimeKept, timer⟩
  · -- the sample repeats the uptime of the one that stands
    rw [kept]
    obtain ⟨⟨_, known⟩, same⟩ : (live = false ∧ uptime.isSome = true) ∧
      uptime = m.runtime.sourceUptime := by simpa using preserve
    obtain ⟨again, rfl⟩ := Option.isSome_iff_exists.mp known
    have current : m.runtime.receivedAt ≠ none := by
      intro none_
      simp [DiagnosticsRuntime.fresh, none_] at fresh
    simp only [Option.toList_none, List.map_nil, List.append_nil]
    exact mirrors_preserved mirrors (mirrors.seen.symm.trans same.symm) current rfl rfl rfl
  · cases live with
    | true =>
      rw [timer]
      exact mirrors_live mirrors (live_advances.mp rfl) (uptimeKept.trans seen) received generation
    | false =>
      have calm : ¬ Advances (.sample m.clock uptime) m.history :=
        fun advances => absurd (live_advances.mpr advances) (by simp)
      rw [timer]
      simp only [Bool.false_eq_true, if_false, Option.toList_none, List.map_nil, List.append_nil]
      have stale : DiagnosticsRuntime.fresh _ later = false := fresh_of_none received later
      refine mirrors_quiet mirrors calm (uptimeKept.trans seen) received ?_ ?_
      · dsimp only
        rw [stale]
        rfl
      · exact (Nat.le_succ m.runtime.generation).trans_eq generation.symm

theorem mirrors_status (mirrors : Mirrors m) (newState : Option StatusState) (seconds : ℚ≥0)
    (version : (MonitorInput.status newState seconds).VersionOne) :
    Mirrors (m.step (.status newState seconds)) := by
  by_cases subscribed : m.runtime.statusSubscribed = true
  swap
  · simpa only [step, subscribed, if_false, Bool.false_eq_true] using mirrors
  simp only [step, if_pos subscribed]
  have advance : m.clock ≤ m.clock + seconds := le_add_of_nonneg_right seconds.coe_nonneg
  have ended := mirrors_ended mirrors (r := { (m.runtime.update [] false false m.clock).1 with
    bleConnected := none }) (.inr rfl) rfl rfl rfl (Nat.le_succ m.runtime.generation)
  cases newState with
  | none => simpa [handleStatusStateChange, statusEvent] using mirrors_later ended advance
  | some state =>
    cases absent : missing state with
    | true => simpa [handleStatusStateChange, statusEvent, absent] using mirrors_later ended advance
    | false =>
      rcases version state rfl with gone | one
      · exact absurd (absent.symm.trans gone) (by simp)
      · exact mirrors_later (mirrors_sample mirrors absent one _) advance

theorem mirrors_step (mirrors : Mirrors m) (input : MonitorInput) (version : input.VersionOne) :
    Mirrors (m.step input) := by
  cases input with
  | start currentState initial => exact mirrors_start mirrors currentState initial version
  | stop => exact mirrors_stop mirrors
  | elapse seconds => exact mirrors_later mirrors (le_add_of_nonneg_right seconds.coe_nonneg)
  | source newState =>
    by_cases subscribed : m.runtime.subscribed = true
    · simp only [step, if_pos subscribed]
      exact mirrors_source mirrors newState
    · simpa only [step, if_neg subscribed] using mirrors
  | status newState seconds => exact mirrors_status mirrors newState seconds version
  | timer index => exact mirrors_timer mirrors index

end Monitor

theorem expire_of_lt {r : DiagnosticsRuntime} {generation : Nat} (older : generation < r.generation) :
    r.expire (some generation) = r := by
  simp [DiagnosticsRuntime.expire, older.ne]

theorem never_overstated_of_mirrors {m : Monitor} (mirrors : Mirrors m) : NeverOverstated m where
  current := by
    intro fresh
    unfold DiagnosticsRuntime.fresh at fresh
    split at fresh
    · next receivedAt some_ =>
      obtain ⟨⟨later, uptime, earlier, split_, advances, since⟩, past⟩ := mirrors.received receivedAt some_
      have young : m.clock - receivedAt < Diagnostics.statusTtlSeconds := of_decide_eq_true fresh
      have within : m.clock < receivedAt + 180 := sub_lt_iff_lt_add'.mp young
      exact ⟨later, receivedAt, uptime, earlier, split_, advances, past, within, since⟩
    · cases fresh
  stale := by
    intro timer member later event earlier split_ advances newer
    exact expire_of_lt ((mirrors.timers timer member).2 ⟨later, event, earlier, split_, advances, newer⟩)
  silent := by
    intro later event earlier split_ ends since
    exact (mirrors.silenced ⟨later, event, earlier, split_, ends, since⟩).2

/-- Fed with samples of the first version only, in any order of statuses, timers and changes of
    the source, the runtime never takes a status for fresher than it is. -/
theorem freshness_never_overstated (inputs : List MonitorInput)
    (version : ∀ input ∈ inputs, input.VersionOne) :
    AllStates Monitor.step NeverOverstated Monitor.init inputs := by
  have mirrors : AllStates Monitor.step Mirrors Monitor.init inputs := by
    apply all_states_of_steps _ Monitor.mirrors_init (all_steps_of_mem version Monitor.init)
    intro m input mirrors version
    exact Monitor.mirrors_step mirrors input version
  exact all_states_mono (fun _ mirrors => never_overstated_of_mirrors mirrors) mirrors

def upFor (uptime : Int) : StatusState :=
  { state := "online"
    attributes := [("diagnostics_version", .int 1), ("uptime_seconds", .int uptime),
      ("ble_connected", .boolean true)] }

/-- A status that the start finds, one that advances, a replay, a reboot, and the timer of the
    first sample, which comes late. -/
def rebootRun : List MonitorInput :=
  [.start (some "online") (some (some (upFor 100))), .elapse 5, .status (some (upFor 160)) 0,
    .elapse 60, .status (some (upFor 160)) 0, .status (some (upFor 3)) 0, .elapse 60,
    .status (some (upFor 63)) 0, .elapse 100, .timer 0]

theorem freshness_never_overstated_rebooted :
    AllStates Monitor.step NeverOverstated Monitor.init rebootRun := by
  have version : ∀ uptime, VersionOne (upFor uptime) := fun _ => .inr rfl
  apply freshness_never_overstated
  intro input member
  simp only [rebootRun, List.mem_cons, List.not_mem_nil, or_false] at member
  rcases member with rfl | rfl | rfl | rfl | rfl | rfl | rfl | rfl | rfl | rfl
  · rintro state ⟨⟩
    exact version 100
  · trivial
  · rintro state ⟨⟩
    exact version 160
  · trivial
  · rintro state ⟨⟩
    exact version 160
  · rintro state ⟨⟩
    exact version 3
  · trivial
  · rintro state ⟨⟩
    exact version 63
  · trivial
  · trivial

/-- The late timer leaves the newer sample as it is. -/
example : (run Monitor.step Monitor.init rebootRun).runtime.fresh
    (run Monitor.step Monitor.init rebootRun).clock = true := by decide +kernel

end Freshness
