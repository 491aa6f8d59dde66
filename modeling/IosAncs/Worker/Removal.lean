import IosAncs.Worker.Refinement

/-!
Removals. What waits or is being answered was not removed since it came in, unless
it is marked as canceled; so nothing is published after its removal.
-/
open Runs WorkerContext

namespace WorkerTrace
variable {limits : AncsLimits}

def arrivals (trace : List (WorkerEffect limits)) : List ArrivedEvent :=
  trace.filterMap fun
    | .processed source => some source
    | _ => none

/-- No removal of its uid was processed after the event. -/
def Live (trace : List (WorkerEffect limits)) (source : ArrivedEvent) : Prop :=
  ∀ removal ∈ arrivals trace, removal.Removes → removal.uid = source.uid →
    removal.serial < source.serial

def Removed (trace : List (WorkerEffect limits)) (source : ArrivedEvent) : Prop :=
  ∃ removal ∈ arrivals trace, removal.Removes ∧ removal.uid = source.uid ∧
    source.serial < removal.serial

@[simp] theorem arrivals_processed (source : ArrivedEvent) (trace : List (WorkerEffect limits)) :
    arrivals (.processed source :: trace) = source :: arrivals trace := rfl

@[simp] theorem arrivals_published (source : ArrivedEvent) (request : Option Nat)
    (n : AncsNotification limits) (trace : List (WorkerEffect limits)) :
    arrivals (.published source request n :: trace) = arrivals trace := rfl

@[simp] theorem arrivals_sessionReset (generation : UInt32) (trace : List (WorkerEffect limits)) :
    arrivals (.sessionReset generation :: trace) = arrivals trace := rfl

@[simp] theorem arrivals_asked (s : DeskSlot limits) (trace : List (WorkerEffect limits))
    (asked : Option (List UInt8 × Option Int)) : arrivals (s.asked trace asked) = arrivals trace := by
  cases asked <;> rfl

theorem live_congr {trace longer : List (WorkerEffect limits)} (same : arrivals longer = arrivals trace)
    (source : ArrivedEvent) : Live longer source ↔ Live trace source := by
  simp only [Live, same]

theorem live_processed {trace : List (WorkerEffect limits)} {source other : ArrivedEvent}
    (live : Live trace source) (spared : other.Removes → other.uid ≠ source.uid) :
    Live (.processed other :: trace) source := by
  intro removal member removes same
  rw [arrivals_processed] at member
  rcases List.mem_cons.mp member with new | old
  · subst new
    exact absurd same (spared removes)
  · exact live removal old removes same

/-- After a removal of a uid was processed, nothing that an earlier event of the uid
    brought in is published; the trace is newest first. -/
def NoneAfterRemoval (trace : List (WorkerEffect limits)) : Prop :=
  trace.Pairwise fun later earlier => ∀ source request n removal,
    later = .published source request n → ¬ source.Removes → earlier = .processed removal →
      removal.Removes → removal.uid = source.uid → removal.serial < source.serial

def Silent : WorkerEffect limits → Prop
  | .published _ _ _ => False
  | _ => True

theorem none_silent {effect : WorkerEffect limits} {trace : List (WorkerEffect limits)}
    (silent : Silent effect) (none_ : NoneAfterRemoval trace) :
    NoneAfterRemoval (effect :: trace) := by
  apply List.Pairwise.cons _ none_
  intro _ _ source request n _ published
  rw [published] at silent
  exact silent.elim

theorem none_published {trace : List (WorkerEffect limits)} {source : ArrivedEvent}
    (request : Option Nat) (n : AncsNotification limits)
    (live : ¬ source.Removes → Live trace source) (none_ : NoneAfterRemoval trace) :
    NoneAfterRemoval (.published source request n :: trace) := by
  apply List.Pairwise.cons _ none_
  intro earlier member source' request' n' removal published adds processed
  injection published with same
  subst same processed
  apply live adds
  exact List.mem_filterMap.mpr ⟨_, member, rfl⟩

theorem none_asked (s : DeskSlot limits) {trace : List (WorkerEffect limits)}
    (asked : Option (List UInt8 × Option Int)) (none_ : NoneAfterRemoval trace) :
    NoneAfterRemoval (s.asked trace asked) := by
  cases asked with
  | none => exact none_
  | some answer => exact none_silent trivial none_

end WorkerTrace

namespace Desk
open WorkerTrace
variable {limits : AncsLimits}

structure TracksRemovals (d : Desk limits) : Prop where
  arrived : ∀ source ∈ arrivals d.trace, source.serial < d.processed
  pending : ∀ source ∈ d.pending, source.serial < d.processed ∧ Live d.trace source
  slot : ∀ s, d.slot = some s → s.source.serial < d.processed ∧
    (s.canceled = false → Live d.trace s.source) ∧ (s.canceled = true → Removed d.trace s.source)

theorem tracks_of_same {d d' : Desk limits} (tracks : TracksRemovals d)
    (arrived : arrivals d'.trace = arrivals d.trace) (processed : d'.processed = d.processed)
    (pending : ∀ source ∈ d'.pending, source ∈ d.pending)
    (slot : ∀ s', d'.slot = some s' → ∃ s, d.slot = some s ∧ s'.source = s.source ∧
      s'.canceled = s.canceled) : TracksRemovals d' where
  arrived := by
    rw [arrived, processed]
    exact tracks.arrived
  pending := by
    intro source member
    rw [live_congr arrived, processed]
    exact tracks.pending source (pending source member)
  slot := by
    intro s' at_slot
    obtain ⟨s, before, source, canceled⟩ := slot s' at_slot
    have kept := tracks.slot s before
    rw [live_congr arrived, processed, source, canceled]
    simp only [Removed, arrived] at kept ⊢
    exact kept

theorem tracks_slot {d : Desk limits} (tracks : TracksRemovals d) {s t : DeskSlot limits}
    (active : d.slot = some s) (source : t.source = s.source) (canceled : t.canceled = s.canceled)
    {trace : List (WorkerEffect limits)} (arrived : arrivals trace = arrivals d.trace) :
    TracksRemovals { d with slot := some t, trace } := by
  refine tracks_of_same tracks arrived rfl (fun _ member => member) ?_
  intro s' at_slot
  injection at_slot with at_slot
  subst at_slot
  exact ⟨s, active, source, canceled⟩

theorem tracks_idle {d : Desk limits} (tracks : TracksRemovals d)
    {trace : List (WorkerEffect limits)} (arrived : arrivals trace = arrivals d.trace) :
    TracksRemovals { d with slot := none, trace } := by
  refine tracks_of_same tracks arrived rfl (fun _ member => member) ?_
  intro s' at_slot
  cases at_slot

theorem tracks_arrival {d : Desk limits} (tracks : TracksRemovals d) {source : ArrivedEvent}
    (serial : source.serial = d.processed) :
    ∀ other ∈ arrivals (.processed source :: d.trace), other.serial < d.processed + 1 := by
  intro other member
  rw [arrivals_processed] at member
  rcases List.mem_cons.mp member with new | old
  · subst new
    omega
  · have before := tracks.arrived other old
    omega

theorem live_newest {d : Desk limits} (tracks : TracksRemovals d) {source : ArrivedEvent}
    (serial : source.serial = d.processed) (adds : ¬ source.Removes) :
    Live (.processed source :: d.trace) source := by
  apply live_processed
  · intro removal member _ _
    have before := tracks.arrived removal member
    omega
  · intro removes
    exact absurd removes adds

theorem removed_processed {trace : List (WorkerEffect limits)} {source : ArrivedEvent}
    (other : ArrivedEvent) (removed : Removed trace source) :
    Removed (.processed other :: trace) source := by
  obtain ⟨removal, member, rest⟩ := removed
  exact ⟨removal, List.mem_cons_of_mem _ member, rest⟩

theorem tracks_remove {d : Desk limits} (tracks : TracksRemovals d) {source : ArrivedEvent}
    {rest : List ArrivedEvent} (serial : source.serial = d.processed) (removes : source.Removes)
    (members : ∀ other ∈ rest, other ∈ d.pending ∧ other.uid ≠ source.uid)
    (n : AncsNotification limits) :
    TracksRemovals { d with
      pending := rest
      slot := d.slot.map (DeskSlot.cancel · source.uid)
      processed := d.processed + 1
      trace := .published source none n :: .processed source :: d.trace } where
  arrived := tracks_arrival tracks serial
  pending := by
    intro other member
    obtain ⟨before, differs⟩ := members other member
    obtain ⟨older, live⟩ := tracks.pending other before
    refine ⟨Nat.lt_succ_of_lt older, ?_⟩
    rw [live_congr (arrivals_published source none n _)]
    exact live_processed live fun _ same => differs same.symm
  slot := by
    intro s' at_slot
    obtain ⟨s, before, rfl⟩ := Option.map_eq_some_iff.mp at_slot
    obtain ⟨older, live, removed⟩ := tracks.slot s before
    refine ⟨Nat.lt_succ_of_lt older, ?_, ?_⟩
    · intro kept
      simp only [DeskSlot.cancel, Bool.or_eq_false_iff, beq_eq_false_iff_ne] at kept
      rw [live_congr (arrivals_published source none n _)]
      exact live_processed (live kept.1) fun _ same => kept.2 same.symm
    · intro canceled
      simp only [DeskSlot.cancel, Bool.or_eq_true, beq_iff_eq] at canceled
      rcases canceled with before | now
      · exact removed_processed source (removed before)
      · refine ⟨source, List.mem_cons_self, removes, now.symm, ?_⟩
        rw [serial]
        exact older

theorem tracks_add {d : Desk limits} (tracks : TracksRemovals d) {source : ArrivedEvent}
    (serial : source.serial = d.processed) (adds : ¬ source.Removes) :
    TracksRemovals { d with
      pending := d.pending ++ [source]
      processed := d.processed + 1
      trace := .processed source :: d.trace } where
  arrived := tracks_arrival tracks serial
  pending := by
    intro other member
    rcases List.mem_append.mp member with old | new
    · obtain ⟨older, live⟩ := tracks.pending other old
      exact ⟨Nat.lt_succ_of_lt older, live_processed live fun removes => absurd removes adds⟩
    · rw [List.mem_singleton.mp new]
      refine ⟨?_, live_newest tracks serial adds⟩
      dsimp only
      omega
  slot := by
    intro s before
    obtain ⟨older, live, removed⟩ := tracks.slot s before
    refine ⟨Nat.lt_succ_of_lt older, ?_, ?_⟩
    · intro kept
      exact live_processed (live kept) fun removes => absurd removes adds
    · intro canceled
      exact removed_processed source (removed canceled)

theorem tracks_start {d : Desk limits} (tracks : TracksRemovals d) {source : ArrivedEvent}
    {rest : List ArrivedEvent} (waits : d.pending = source :: rest) (n : AncsNotification limits)
    (asked : Option (List UInt8 × Option Int)) :
    TracksRemovals { d with
      pending := rest
      slot := some (.start (d.requests + 1) source n)
      requests := d.requests + 1
      trace := (DeskSlot.start (d.requests + 1) source n).asked d.trace asked } := by
  have same := arrivals_asked (DeskSlot.start (d.requests + 1) source n) d.trace asked
  constructor
  · rw [same]
    exact tracks.arrived
  · intro other member
    rw [live_congr same]
    apply tracks.pending
    rw [waits]
    exact List.mem_cons_of_mem _ member
  · intro s at_slot
    injection at_slot with at_slot
    subst at_slot
    obtain ⟨older, live⟩ := tracks.pending source (by rw [waits]; exact List.mem_cons_self)
    refine ⟨older, ?_, ?_⟩
    · intro _
      rw [live_congr same]
      exact live
    · nofun

theorem tracks_move {rules : DeskRules limits} {d d' : Desk limits} (move : Move rules d d')
    (tracks : TracksRemovals d) : TracksRemovals d' := by
  cases move with
  | remove source rest n serial removes complete cancels =>
    exact tracks_remove tracks serial removes (rules.cancels_members cancels) n
  | add source serial adds => exact tracks_add tracks serial adds
  | overflow source n serial adds failed =>
    have added := tracks_add tracks serial adds
    constructor
    · exact added.arrived
    · intro other member
      exact added.pending other (List.mem_append_left _ member)
    · exact added.slot
  | start source rest n asked waits idle => exact tracks_start tracks waits n asked
  | read s n active same =>
    apply tracks_slot tracks active <;> rfl
  | retry s n asked active first same =>
    apply tracks_slot tracks active
    · rfl
    · rfl
    · exact arrivals_asked s d.trace asked
  | parsed s n m asked active kind complete same =>
    apply tracks_slot tracks active
    · rfl
    · rfl
    · exact arrivals_asked (s.naming m) _ asked
  | fail s n active kind kept failed => exact tracks_idle tracks (arrivals_published _ _ _ _)
  | finalize s n active parked same => exact tracks_idle tracks (arrivals_published _ _ _ _)
  | drain s active canceled => exact tracks_idle tracks rfl
  | abandon s active allowed => exact tracks_idle tracks rfl
  | recover =>
    refine tracks_of_same tracks rfl rfl (fun _ member => member) ?_
    intro s at_slot
    exact ⟨s, at_slot, rfl, rfl⟩
  | reset generation allowed =>
    have left := tracks_idle tracks (arrivals_sessionReset generation d.trace)
    refine tracks_of_same left rfl rfl ?_ ?_
    · intro _ member
      cases member
    · intro _ at_slot
      cases at_slot

theorem none_move {rules : DeskRules limits} {d d' : Desk limits} (move : Move rules d d')
    (tracks : TracksRemovals d) (none_ : NoneAfterRemoval d.trace) : NoneAfterRemoval d'.trace := by
  cases move with
  | remove source rest n serial removes complete cancels =>
    exact none_published _ _ (fun adds => absurd removes adds) (none_silent trivial none_)
  | add source serial adds => exact none_silent trivial none_
  | overflow source n serial adds failed =>
    exact none_published _ _ (fun _ => live_newest tracks serial adds) (none_silent trivial none_)
  | start source rest n asked waits idle => exact none_asked _ asked none_
  | read s n active same => exact none_
  | retry s n asked active first same => exact none_asked _ asked none_
  | parsed s n m asked active kind complete same => exact none_asked _ asked (none_silent trivial none_)
  | fail s n active kind kept failed =>
    exact none_published _ _ (fun _ => (tracks.slot s active).2.1 kept) none_
  | finalize s n active parked same =>
    exact none_published _ _ (fun _ => (tracks.slot s active).2.1 parked.2) none_
  | drain | abandon => exact none_
  | recover | reset => exact none_silent trivial none_

end Desk

namespace WorkerRemoval
open WorkerTrace Desk
variable {config : WorkerConfig}

def rules (limits : AncsLimits) : DeskRules limits where
  Cancels uid pending rest := ∀ source ∈ rest, source ∈ pending ∧ source.uid ≠ uid
  Abandons _ := True
  Resets _ := True
  cancels_members := @DeskRules.members_of_left

theorem ring_obeys : Obeys (requestRing config) (rules config.limits) := by
  intro pending uid
  exact (requestRing config).cancel_members pending uid

theorem step_allowed (w : AncsWorker config) (step : WorkerStep) :
    StepAllowed (rules config.limits) w step := by
  cases step with
  | fragment => exact fun _ _ => ⟨fun _ _ _ _ _ => trivial, fun _ _ _ _ _ _ _ => trivial⟩
  | checkGeneration => exact fun _ => trivial
  | writeResult | checkDeadline => exact fun _ _ _ _ _ _ _ => trivial
  | startNext => exact fun _ _ _ _ => trivial
  | event | sessionReset => trivial

theorem tracks_boot (generation : UInt32) :
    TracksRemovals (boot generation : AncsWorker config).desk := by
  have empty : (requestRing config).pending (requestRing config).init = [] :=
    (requestRing config).pending_init
  constructor
  · nofun
  · intro source member
    simp only [desk, boot, empty] at member
    cases member
  · intro s at_slot
    simp [desk, boot] at at_slot

/-- In every run of the worker, once a removal of a uid was processed, nothing that an
    earlier event of that uid brought in is published. -/
theorem none_published_after_removal (config : WorkerConfig) (generation : UInt32)
    (turns : List WorkerTurn) :
    AllStates WorkerContext.step (fun w => NoneAfterRemoval w.trace)
      (boot generation : AncsWorker config) (turns.flatMap WorkerTurn.steps) := by
  have allowed : AllSteps WorkerContext.step (StepAllowed (rules config.limits))
      (boot generation : AncsWorker config) (turns.flatMap WorkerTurn.steps) :=
    all_steps_of_forall step_allowed _ _
  have all := all_states_of_moves ring_obeys
    (fun _ _ move (holds : TracksRemovals _ ∧ NoneAfterRemoval _) =>
      ⟨tracks_move move holds.1, none_move move holds.1 holds.2⟩)
    (settled_of_idle rfl) ⟨tracks_boot generation, List.Pairwise.nil⟩ allowed
  exact all_states_mono (fun _ holds => holds.2.2) all

end WorkerRemoval
