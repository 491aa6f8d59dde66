import IosAncs.Client.Enroll
import Mathlib.Order.Monotone.Basic
import Mathlib.Data.Int.ConditionallyCompleteOrder
import Mathlib.Order.ConditionallyCompleteLattice.Basic
import Mathlib.Order.Nat

/-!
The hold of the BOOT button, over all samples. The debounced state is told from the samples
alone: it is pressed from the end of a run of pressed samples that spans the debounce time
to the end of such a run of released ones. A finite sequence goes on with its last sample.
-/

/-- What `ble_enroll_button_update` is given. -/
structure ButtonSample where
  pressed : Bool
  nowMs : Int

namespace BleEnrollButton
variable (config : BleEnrollConfig) (samples : Nat → ButtonSample)

def before : Nat → BleEnrollButton
  | 0 => init config
  | n + 1 => ((before n).update (samples n).pressed (samples n).nowMs).1

def Reports (n : Nat) : Prop :=
  ((before config samples n).update (samples n).pressed (samples n).nowMs).2 = true

/-- The samples of a run are alike, and span the debounce time. -/
structure Spans (pressed : Bool) (first last : Nat) : Prop where
  ordered : first ≤ last
  alike : ∀ n, first ≤ n → n ≤ last → (samples n).pressed = pressed
  long : config.debounceMs ≤ (samples last).nowMs - (samples first).nowMs

/-- The debounced state before a sample is pressed, since an earlier sample. -/
structure PressedSince (start n : Nat) : Prop where
  before : start < n
  press : ∃ first, Spans config samples true first start
  unreleased : ∀ first last, start < last → last < n → ¬ Spans config samples false first last

def Pressed (n : Nat) : Prop := ∃ start, PressedSince config samples start n

def DebouncedPress (n : Nat) : Prop :=
  ¬ Pressed config samples n ∧ Pressed config samples (n + 1)

/-- Where the run of the last sample began. -/
structure Began (start n : Nat) : Prop where
  before : start < n
  alike : ∀ k, start ≤ k → k < n → (samples k).pressed = (samples start).pressed
  changed : start = 0 ∨ (samples (start - 1)).pressed ≠ (samples start).pressed

structure Tracks (n : Nat) (button : BleEnrollButton) : Prop where
  configured : button.config = config
  /-- no sample has been pressed yet, or the time of the last change is that of the run -/
  change : (button.lastSamplePressed = false ∧ button.stablePressed = false ∧
      ∀ k < n, (samples k).pressed = false) ∨
    ∃ start, Began samples start n ∧ button.lastSamplePressed = (samples start).pressed ∧
      button.lastChangeMs = (samples start).nowMs
  stable : button.stablePressed = true ↔ Pressed config samples n
  since : button.stablePressed = true → ∃ start < n, button.pressedSinceMs = (samples start).nowMs ∧
    DebouncedPress config samples start ∧ ∀ k, start < k → k ≤ n → Pressed config samples k
  fired : button.fired = true → button.stablePressed = true
  reported : ∀ k < n, Reports config samples k → button.fired = true ∨
    ∃ first last, k < first ∧ last < n ∧ Spans config samples false first last

variable {config : BleEnrollConfig} {samples : Nat → ButtonSample}

theorem pressed_succ (n : Nat) : Pressed config samples (n + 1) ↔
    (∃ first, Spans config samples true first n) ∨
      (Pressed config samples n ∧ ¬ ∃ first, Spans config samples false first n) := by
  constructor
  · rintro ⟨start, since⟩
    rcases Nat.lt_succ_iff_lt_or_eq.mp since.before with earlier | rfl
    · refine .inr ⟨⟨start, earlier, since.press, ?_⟩, ?_⟩
      · intro first last after inside
        exact since.unreleased first last after (Nat.lt_succ_of_lt inside)
      · rintro ⟨first, released⟩
        exact since.unreleased first n earlier (Nat.lt_succ_self n) released
    · exact .inl since.press
  · rintro (press | ⟨⟨start, since⟩, unreleased⟩)
    · refine ⟨n, Nat.lt_succ_self n, press, ?_⟩
      intro first last after inside released
      have := released.ordered
      omega
    · refine ⟨start, Nat.lt_succ_of_lt since.before, since.press, ?_⟩
      intro first last after inside released
      rcases Nat.lt_succ_iff_lt_or_eq.mp inside with earlier | rfl
      · exact since.unreleased first last after earlier released
      · exact unreleased ⟨first, released⟩

theorem unpressed_of_released (config : BleEnrollConfig) {n : Nat} (released : ∀ k < n, (samples k).pressed = false) :
    ¬ Pressed config samples n := by
  rintro ⟨start, since⟩
  obtain ⟨_, press⟩ := since.press
  have pressed := press.alike start press.ordered (Nat.le_refl start)
  rw [released start since.before] at pressed
  cases pressed

theorem spans_iff (timed : Monotone fun n => (samples n).nowMs) {start n : Nat}
    (began : Began samples start (n + 1)) (pressed : Bool) :
    (∃ first, Spans config samples pressed first n) ↔
      (samples n).pressed = pressed ∧ config.debounceMs ≤ (samples n).nowMs - (samples start).nowMs := by
  have within : start ≤ n := Nat.le_of_lt_succ began.before
  constructor
  · rintro ⟨first, spans⟩
    have after : start ≤ first := by
      by_contra earlier
      rcases began.changed with rfl | changed
      · omega
      · have last := spans.alike start (by omega) within
        have previous := spans.alike (start - 1) (by omega) (by omega)
        exact changed (previous.trans last.symm)
    have long := spans.long
    have later : (samples start).nowMs ≤ (samples first).nowMs := timed after
    exact ⟨spans.alike n spans.ordered (Nat.le_refl n), by omega⟩
  · rintro ⟨rfl, long⟩
    refine ⟨start, within, ?_, long⟩
    intro k after inside
    rw [began.alike k after (Nat.lt_succ_of_le inside), began.alike n within (Nat.lt_succ_self n)]

theorem began_same {start n : Nat} (began : Began samples start n)
    (same : (samples n).pressed = (samples start).pressed) : Began samples start (n + 1) where
  before := Nat.lt_succ_of_lt began.before
  alike := by
    intro k after inside
    rcases Nat.lt_succ_iff_lt_or_eq.mp inside with earlier | rfl
    · exact began.alike k after earlier
    · exact same
  changed := began.changed

theorem began_changed {n : Nat} (changed : n = 0 ∨ (samples (n - 1)).pressed ≠ (samples n).pressed) :
    Began samples n (n + 1) where
  before := Nat.lt_succ_self n
  alike := by
    intro k after inside
    rw [show k = n by omega]
  changed := changed

/-- The first part of `ble_enroll_button_update`: the new sample -/
def sampled (button : BleEnrollButton) (sample : ButtonSample) : BleEnrollButton :=
  if sample.pressed = button.lastSamplePressed then button
  else { button with lastSamplePressed := sample.pressed, lastChangeMs := sample.nowMs }

/-- The second part: the sample has been alike for long enough. -/
def settled (button : BleEnrollButton) (sample : ButtonSample) : BleEnrollButton :=
  if button.stablePressed = sample.pressed then button
  else { button with
    stablePressed := sample.pressed
    fired := false
    pressedSinceMs := if sample.pressed then sample.nowMs else 0 }

def holds (button : BleEnrollButton) (sample : ButtonSample) : Bool :=
  button.stablePressed && !button.fired && decide (button.config.holdMs ≤ sample.nowMs - button.pressedSinceMs)

theorem update_eq (button : BleEnrollButton) (sample : ButtonSample) :
    button.update sample.pressed sample.nowMs =
      if sample.nowMs - (button.sampled sample).lastChangeMs < (button.sampled sample).config.debounceMs then
        (button.sampled sample, false)
      else
        ({ (button.sampled sample).settled sample with
            fired := ((button.sampled sample).settled sample).fired ||
              ((button.sampled sample).settled sample).holds sample },
          ((button.sampled sample).settled sample).holds sample) := by
  show (if sample.nowMs - (button.sampled sample).lastChangeMs < (button.sampled sample).config.debounceMs then
      (button.sampled sample, false)
    else
      let stable := (button.sampled sample).settled sample
      if !stable.stablePressed || stable.fired then (stable, false)
      else if stable.config.holdMs ≤ sample.nowMs - stable.pressedSinceMs then ({ stable with fired := true }, true)
      else (stable, false)) = _
  generalize (button.sampled sample).settled sample = stable
  split
  · rfl
  · unfold holds
    cases stable with
    | mk config pressed last fired change since =>
      cases pressed <;> cases fired <;> by_cases hold : config.holdMs ≤ sample.nowMs - since <;> simp [hold]

theorem settled_pressed (button : BleEnrollButton) (sample : ButtonSample) :
    (button.settled sample).stablePressed = sample.pressed := by
  unfold settled
  split
  · next same => exact same
  · rfl

theorem reports_iff (n : Nat) : Reports config samples n ↔
    ¬ (samples n).nowMs - ((before config samples n).sampled (samples n)).lastChangeMs <
        ((before config samples n).sampled (samples n)).config.debounceMs ∧
      (((before config samples n).sampled (samples n)).settled (samples n)).holds (samples n) = true := by
  unfold Reports
  rw [update_eq]
  split
  · next young => simp [young]
  · next old => simp [old]

theorem reports_pressed {n : Nat} (reports : Reports config samples n) : (samples n).pressed = true := by
  obtain ⟨_, holding⟩ := (reports_iff n).mp reports
  unfold holds at holding
  rw [settled_pressed] at holding
  simp only [Bool.and_eq_true] at holding
  exact holding.1.1

theorem sampled_change {n : Nat} {button : BleEnrollButton} (tracks : Tracks config samples n button) :
    (button.sampled (samples n)).config = config ∧
      (button.sampled (samples n)).stablePressed = button.stablePressed ∧
      (button.sampled (samples n)).fired = button.fired ∧
      (button.sampled (samples n)).pressedSinceMs = button.pressedSinceMs ∧
      (button.sampled (samples n)).lastSamplePressed = (samples n).pressed ∧
      ((button.stablePressed = false ∧ ∀ k < n + 1, (samples k).pressed = false) ∨
        ∃ start, Began samples start (n + 1) ∧
          (button.sampled (samples n)).lastChangeMs = (samples start).nowMs) := by
  unfold sampled
  split
  · next same =>
    refine ⟨tracks.configured, rfl, rfl, rfl, same.symm, ?_⟩
    rcases tracks.change with ⟨last, unpressed, released⟩ | ⟨start, began, last, change⟩
    · refine .inl ⟨unpressed, ?_⟩
      intro k inside
      rcases Nat.lt_succ_iff_lt_or_eq.mp inside with earlier | rfl
      · exact released k earlier
      · exact same.trans last
    · exact .inr ⟨start, began_same began (same.trans last), change⟩
  · next other =>
    refine ⟨tracks.configured, rfl, rfl, rfl, rfl, ?_⟩
    refine .inr ⟨n, began_changed ?_, rfl⟩
    rcases tracks.change with ⟨last, _, released⟩ | ⟨start, began, last, _⟩
    · cases n with
      | zero => exact .inl rfl
      | succ n =>
        refine .inr ?_
        rw [Nat.add_sub_cancel, released n (Nat.lt_succ_self n), ← last]
        exact Ne.symm other
    · have := began.before
      refine .inr ?_
      rw [began.alike (n - 1) (by omega) (by omega), ← last]
      exact Ne.symm other

theorem tracks_init : Tracks config samples 0 (init config) where
  configured := rfl
  change := .inl ⟨rfl, rfl, by simp⟩
  stable := by
    constructor
    · intro pressed
      cases pressed
    · rintro ⟨start, since⟩
      exact absurd since.before (Nat.not_lt_zero start)
  since := by
    intro pressed
    cases pressed
  fired := by
    intro fired
    cases fired
  reported := by simp

theorem reported_succ {n : Nat} {button next : BleEnrollButton} (tracks : Tracks config samples n button)
    (kept : button.fired = true → ∀ k < n, Reports config samples k → next.fired = true ∨
      ∃ first last, k < first ∧ last < n + 1 ∧ Spans config samples false first last)
    (now : Reports config samples n → next.fired = true) :
    ∀ k < n + 1, Reports config samples k → next.fired = true ∨
      ∃ first last, k < first ∧ last < n + 1 ∧ Spans config samples false first last := by
  intro k inside reports
  rcases Nat.lt_succ_iff_lt_or_eq.mp inside with earlier | rfl
  · rcases tracks.reported k earlier reports with fired | ⟨first, last, after, before, spans⟩
    · exact kept fired k earlier reports
    · exact .inr ⟨first, last, after, Nat.lt_succ_of_lt before, spans⟩
  · exact .inl (now reports)

theorem tracks_kept {n : Nat} {button next : BleEnrollButton} (tracks : Tracks config samples n button)
    (configured : next.config = config)
    (change : (next.lastSamplePressed = false ∧ next.stablePressed = false ∧
        ∀ k < n + 1, (samples k).pressed = false) ∨
      ∃ start, Began samples start (n + 1) ∧ next.lastSamplePressed = (samples start).pressed ∧
        next.lastChangeMs = (samples start).nowMs)
    (stable : next.stablePressed = button.stablePressed)
    (since : next.pressedSinceMs = button.pressedSinceMs)
    (same : Pressed config samples (n + 1) ↔ Pressed config samples n)
    (fired : next.fired = true ↔ button.fired = true ∨ Reports config samples n)
    (reports : Reports config samples n → button.stablePressed = true) :
    Tracks config samples (n + 1) next where
  configured := configured
  change := change
  stable := by rw [stable, same, tracks.stable]
  since := by
    rw [stable, since]
    intro pressed
    obtain ⟨start, before, time, press, held⟩ := tracks.since pressed
    refine ⟨start, Nat.lt_succ_of_lt before, time, press, ?_⟩
    intro k after inside
    rcases Nat.le_succ_iff.mp inside with earlier | rfl
    · exact held k after earlier
    · exact same.mpr (tracks.stable.mp pressed)
  fired := by
    rw [stable, fired]
    rintro (before | now)
    · exact tracks.fired before
    · exact reports now
  reported := reported_succ tracks (fun before _ _ _ => .inl (fired.mpr (.inl before)))
    (fun now => fired.mpr (.inr now))

theorem tracks_succ (timed : Monotone fun n => (samples n).nowMs) {n : Nat}
    (tracks : Tracks config samples n (before config samples n)) :
    Tracks config samples (n + 1) (before config samples (n + 1)) := by
  obtain ⟨configured, stable, fired, since, last, run⟩ := sampled_change tracks
  have reports : Reports config samples n ↔ _ := reports_iff n
  have next : before config samples (n + 1) =
      ((before config samples n).update (samples n).pressed (samples n).nowMs).1 := rfl
  rw [next, update_eq]
  generalize (before config samples n).sampled (samples n) = sampled at *
  have change : (sampled.lastSamplePressed = false ∧ (before config samples n).stablePressed = false ∧
        ∀ k < n + 1, (samples k).pressed = false) ∨
      ∃ start, Began samples start (n + 1) ∧ sampled.lastSamplePressed = (samples start).pressed ∧
        sampled.lastChangeMs = (samples start).nowMs := by
    rcases run with ⟨unpressed, released⟩ | ⟨start, began, time⟩
    · exact .inl ⟨last.trans (released n (Nat.lt_succ_self n)), unpressed, released⟩
    · have within := Nat.le_of_lt_succ began.before
      exact .inr ⟨start, began, last.trans (began.alike n within (Nat.lt_succ_self n)), time⟩
  have released : (∀ k < n + 1, (samples k).pressed = false) →
      ¬ Pressed config samples (n + 1) ∧ ¬ Pressed config samples n := by
    intro all
    exact ⟨unpressed_of_released config all,
      unpressed_of_released config fun k inside => all k (Nat.lt_succ_of_lt inside)⟩
  split
  · next young =>
    have silent : ¬ Reports config samples n := by
      rw [reports]
      exact fun both => both.1 young
    refine tracks_kept tracks configured ?_ stable since ?_ ?_ (fun now => absurd now silent)
    · rwa [stable]
    · rcases run with ⟨_, all⟩ | ⟨start, began, time⟩
      · simp [released all]
      · rw [configured, time] at young
        rw [pressed_succ, spans_iff timed began, spans_iff timed began]
        have short : ¬ config.debounceMs ≤ (samples n).nowMs - (samples start).nowMs := by omega
        simp [short]
    · simp [fired, silent]
  · next old =>
    have pressed : Pressed config samples (n + 1) ↔ (samples n).pressed = true := by
      rcases run with ⟨_, all⟩ | ⟨start, began, time⟩
      · simp [released all, all n (Nat.lt_succ_self n)]
      · rw [configured, time] at old
        rw [pressed_succ, spans_iff timed began, spans_iff timed began]
        have long : config.debounceMs ≤ (samples n).nowMs - (samples start).nowMs := by omega
        cases (samples n).pressed <;> simp [long]
    have fires : Reports config samples n ↔ (sampled.settled (samples n)).holds (samples n) = true := by
      simpa [old] using reports
    have stays : (sampled.settled (samples n)).lastSamplePressed = sampled.lastSamplePressed ∧
        (sampled.settled (samples n)).lastChangeMs = sampled.lastChangeMs ∧
        (sampled.settled (samples n)).config = sampled.config := by
      unfold settled
      split <;> exact ⟨rfl, rfl, rfl⟩
    have settled_stable := settled_pressed sampled (samples n)
    by_cases same : sampled.stablePressed = (samples n).pressed
    · have unsettled : sampled.settled (samples n) = sampled := if_pos same
      rw [unsettled] at fires ⊢
      refine tracks_kept tracks configured ?_ stable since ?_ ?_ ?_
      · rwa [stable]
      · rw [pressed, ← tracks.stable, ← stable, same]
      · simp [fired, fires]
      · intro now
        rw [← stable, same]
        exact reports_pressed now
    · have cleared : (sampled.settled (samples n)).fired = false := by
        rw [settled, if_neg same]
      have time : (samples n).pressed = true →
          (sampled.settled (samples n)).pressedSinceMs = (samples n).nowMs := by
        intro held
        rw [settled, if_neg same]
        simp [held]
      have reported : Reports config samples n → ((sampled.settled (samples n)).fired ||
          (sampled.settled (samples n)).holds (samples n)) = true := by
        intro now
        rw [fires.mp now, Bool.or_true]
      cases level : (samples n).pressed with
      | true =>
        have unpressed : (before config samples n).stablePressed = false := by
          rw [level, stable] at same
          simpa using same
        have pressedNow : Pressed config samples (n + 1) := pressed.mpr level
        constructor
        · exact stays.2.2.trans configured
        · refine .inr ?_
          rcases change with ⟨_, _, all⟩ | run
          · rw [all n (Nat.lt_succ_self n)] at level
            cases level
          · rw [stays.1, stays.2.1]
            exact run
        · rw [settled_stable, pressed]
        · intro _
          refine ⟨n, Nat.lt_succ_self n, time level, ⟨?_, pressedNow⟩, ?_⟩
          · rw [← tracks.stable, unpressed]
            simp
          · intro k after inside
            rw [show k = n + 1 by omega]
            exact pressedNow
        · intro _
          rw [settled_stable]
          exact level
        · refine reported_succ tracks ?_ reported
          intro before
          rw [tracks.fired before] at unpressed
          cases unpressed
      | false =>
        have quiet : (sampled.settled (samples n)).holds (samples n) = false := by
          simp [holds, settled_stable, level]
        have released : ∀ k < n, Reports config samples k → (samples k).pressed = true :=
          fun k _ now => reports_pressed now
        constructor
        · exact stays.2.2.trans configured
        · rw [stays.1, stays.2.1]
          rcases change with ⟨last, _, all⟩ | run
          · exact .inl ⟨last, settled_stable.trans level, all⟩
          · exact .inr run
        · rw [settled_stable, pressed]
        · intro held
          rw [settled_stable, level] at held
          cases held
        · intro fired
          rw [cleared, quiet] at fired
          cases fired
        · refine reported_succ tracks ?_ reported
          intro _ k earlier now
          refine .inr ?_
          -- the run of released samples began after the report
          rcases run with ⟨_, all⟩ | ⟨start, began, run⟩
          · rw [level, stable] at same
            have unpressed := unpressed_of_released config
              fun k inside => all k (Nat.lt_succ_of_lt inside)
            rw [← tracks.stable] at unpressed
            simp [unpressed] at same
          · have within := Nat.le_of_lt_succ began.before
            rw [configured, run] at old
            refine ⟨start, n, ?_, Nat.lt_succ_self n, within, ?_, by omega⟩
            · by_contra inside
              have alike := began.alike k (by omega) (by omega)
              rw [← began.alike n within (Nat.lt_succ_self n), level, released k earlier now] at alike
              cases alike
            · intro j after inside
              rw [began.alike j after (by omega), ← began.alike n within (Nat.lt_succ_self n), level]

theorem tracks_before (config : BleEnrollConfig) (timed : Monotone fun n => (samples n).nowMs) (n : Nat) :
    Tracks config samples n (before config samples n) := by
  induction n with
  | zero => exact tracks_init
  | succ n ih => exact tracks_succ timed ih

/-- A hold is reported only after the debounced state has been pressed for the hold time without
    a break, and a debounced release lies between any two reports. -/
theorem reports_hold (config : BleEnrollConfig) (samples : Nat → ButtonSample)
    (timed : Monotone fun n => (samples n).nowMs) :
    (∀ n, Reports config samples n → ∃ start ≤ n, DebouncedPress config samples start ∧
      config.holdMs ≤ (samples n).nowMs - (samples start).nowMs ∧
      (∀ k, start < k → k ≤ n + 1 → Pressed config samples k) ∧
      ∀ first last, start < last → last ≤ n → ¬ Spans config samples false first last) ∧
    ∀ m n, m < n → Reports config samples m → Reports config samples n →
      ∃ first last, m < first ∧ last < n ∧ Spans config samples false first last := by
  constructor
  · intro n reports
    obtain ⟨old, holding⟩ := (reports_iff n).mp reports
    have tracks := tracks_before config timed (n + 1)
    have next : before config samples (n + 1) =
        ((before config samples n).update (samples n).pressed (samples n).nowMs).1 := rfl
    rw [update_eq, if_neg old] at next
    have configured := tracks.configured
    rw [next] at configured
    have stable := settled_pressed ((before config samples n).sampled (samples n)) (samples n)
    have held := tracks.since
    rw [next] at held
    obtain ⟨start, within, time, press, pressed⟩ := held (stable.trans (reports_pressed reports))
    refine ⟨start, Nat.le_of_lt_succ within, press, ?_, pressed, ?_⟩
    · simp only [holds, Bool.and_eq_true, decide_eq_true_eq] at holding
      have long := holding.2
      rwa [configured, time] at long
    · intro first last after inside spans
      rcases (pressed_succ last).mp (pressed (last + 1) (by omega) (by omega)) with ⟨other, run⟩ | ⟨_, none_⟩
      · have level := run.alike last run.ordered (Nat.le_refl last)
        rw [spans.alike last spans.ordered (Nat.le_refl last)] at level
        cases level
      · exact none_ ⟨first, spans⟩
  · intro m n later first_ second
    have tracks := tracks_before config timed n
    refine (tracks.reported m later first_).resolve_left ?_
    intro fired
    obtain ⟨_, holding⟩ := (reports_iff n).mp second
    obtain ⟨_, stable, kept, _⟩ := sampled_change tracks
    have same : ((before config samples n).sampled (samples n)).stablePressed = (samples n).pressed := by
      rw [stable, tracks.fired fired, reports_pressed second]
    rw [settled, if_pos same] at holding
    simp [holds, kept, fired] at holding

/-- The button of a test: a bounce, a press that holds for three seconds, a release and another. -/
def buttonRun (n : Nat) : ButtonSample :=
  match n with
  | 0 => ⟨true, 0⟩
  | 1 => ⟨false, 10⟩
  | 2 => ⟨true, 100⟩
  | 3 => ⟨true, 120⟩
  | n + 4 => ⟨true, 3120 + n⟩

theorem buttonRun_timed : Monotone fun n => (buttonRun n).nowMs := by
  refine monotone_nat_of_le_succ ?_
  intro n
  rcases n with _ | _ | _ | _ | n <;> simp [buttonRun]

theorem reports_hold_pressed : ∃ start ≤ 4, DebouncedPress
    { windowMs := 0, bootHoldMs := 0, buttonDebounceMs := 0 } buttonRun start := by
  obtain ⟨start, within, press, _⟩ := (reports_hold
    { windowMs := 0, bootHoldMs := 0, buttonDebounceMs := 0 } buttonRun buttonRun_timed).1 4 (by unfold Reports; decide)
  exact ⟨start, within, press⟩

end BleEnrollButton
