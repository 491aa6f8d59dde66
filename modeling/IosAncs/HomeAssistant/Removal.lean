import IosAncs.HomeAssistant.EntryLife

/-!
What a removal leaves. Every setup of the entry is silent, registered or being removed, as
long as no setup takes the place of one that is still flushed.
-/
open PayloadValue Runs

namespace EntryLife

structure Silent (setup : EntrySetup) : Prop where
  deaf : setup.listening = false
  undelayed : setup.delayed = false
  idle : setup.job = none
  spent : setup.flushing = true → setup.data = none

/-- What holds of each setup, given where the entry is with it and whether it is registered:
    it is silent, registered or being removed. -/
structure Kept (point : Option Point) (registered : Prop) (setup : EntrySetup) : Prop where
  listens : setup.listening = true → ∃ p, point = some p ∧ p.sets = true
  held : Silent setup ∨ registered ∨ point = some .flushing ∨ point = some .unlinking
  flushes : setup.flushing = true → setup.listening = false ∧ setup.latestSnapshot ≠ none
  unsaved : setup.latestSnapshot = none → setup.delayed = false ∧
    ∀ saver data, setup.job = some (.write saver data) → saver = .entry
  flushed : ∀ data, setup.job = some (.write .flush data) →
    setup.listening = false ∧ setup.delayed = false ∧ setup.flushing = true
  own : ∀ data, setup.job = some (.write .entry data) →
    point = some .saving ∨ (point = some .flushing ∧ setup.data = none)
  unlinks : setup.job = some .unlink → point = some .unlinking ∧ setup.delayed = false
  spent : point = some .unlinking → setup.flushing = true → setup.data = none
  steady : ∀ p, point = some p → p.sets = true → setup.flushing = false

def RegisteredAt (registered : Option Nat) : Stage → Prop
  | .during point i => registered = if point.sets then some i else none
  | .notLoaded | .loading => True
  | .unlinkingNew | .removed => registered = none

structure Regular (s : EntryLife) : Prop where
  kept : ∀ i, Kept (s.stage.point i) (s.registered = some i) (s.setups i)
  landed : s.abandoned = []
  registered : RegisteredAt s.registered s.stage
  runtime : s.runtimeData = s.stage.runtime
  clean : s.Clean

theorem Kept.weaken {point : Option Point} {registered registered' : Prop} {setup : EntrySetup}
    (kept : Kept point registered setup) (weaker : registered → registered') :
    Kept point registered' setup :=
  { kept with held := kept.held.imp_right (Or.imp_left weaker) }

theorem Kept.deaf {setup : EntrySetup} {registered : Prop} (kept : Kept none registered setup) :
    setup.listening = false := by
  by_contra listening
  obtain ⟨p, here, _⟩ := kept.listens (by simpa using listening)
  cases here

theorem Kept.silent {setup : EntrySetup} {registered : Prop} (kept : Kept none registered setup)
    (unregistered : ¬ registered) : Silent setup := by
  rcases kept.held with silent | registered | point | point
  · exact silent
  · exact absurd registered unregistered
  · cases point
  · cases point

theorem kept_of_silent {setup : EntrySetup} (silent : Silent setup)
    (flushes : setup.flushing = true → setup.latestSnapshot ≠ none) {point : Option Point}
    (steady : ∀ p, point = some p → p.sets = true → setup.flushing = false) (registered : Prop) :
    Kept point registered setup where
  listens := by simp [silent.deaf]
  held := .inl silent
  flushes := fun flushing => ⟨silent.deaf, flushes flushing⟩
  unsaved := by simp [silent.undelayed, silent.idle]
  flushed := by simp [silent.idle]
  own := by simp [silent.idle]
  unlinks := by simp [silent.idle]
  spent := fun _ => silent.spent
  steady := steady

theorem Kept.unwritten {p : Point} {registered : Prop} {setup : EntrySetup}
    (kept : Kept (some p) registered setup) (sets : p.sets = true) (unsaving : p ≠ .saving)
    (data : Mapping) : setup.job ≠ some (.write .entry data) := by
  intro writing
  rcases kept.own data writing with saving | ⟨flushing, _⟩
  · cases saving
    exact unsaving rfl
  · cases flushing
    cases sets

theorem Kept.move {p q : Point} {registered : Prop} {setup : EntrySetup}
    (kept : Kept (some p) registered setup) (before : p.sets = true) (after : q.sets = true)
    (unwritten : ∀ data, setup.job ≠ some (.write .entry data)) (here : registered) :
    Kept (some q) registered setup where
  listens := fun _ => ⟨q, rfl, after⟩
  held := .inr (.inl here)
  flushes := kept.flushes
  unsaved := kept.unsaved
  flushed := kept.flushed
  own := fun data writing => absurd writing (unwritten data)
  unlinks := by
    intro unlinking
    cases (kept.unlinks unlinking).1
    cases before
  spent := by
    intro unlinking
    cases unlinking
    cases after
  steady := by
    intro _ _ _
    exact kept.steady p rfl before

theorem Kept.stop {p : Point} {registered : Prop} {setup : EntrySetup}
    (kept : Kept (some p) registered setup) (sets : p.sets = true) (here : registered)
    (unwritten : ∀ data, setup.job ≠ some (.write .entry data)) :
    Kept none registered { setup with listening := false } where
  listens := by simp
  held := .inr (.inl here)
  flushes := fun flushing => ⟨rfl, (kept.flushes flushing).2⟩
  unsaved := kept.unsaved
  flushed := fun data writing => ⟨rfl, (kept.flushed data writing).2⟩
  own := fun data writing => absurd writing (unwritten data)
  unlinks := by
    intro unlinking
    cases (kept.unlinks unlinking).1
    cases sets
  spent := by simp
  steady := by simp

@[simp] theorem point_during (p : Point) (i : Nat) : (Stage.during p i).point i = some p := by
  simp [Stage.point]

theorem during_of_point {stage : Stage} {p : Point} {i : Nat} (point : stage.point i = some p) :
    stage = .during p i := by
  unfold Stage.point at point
  split at point
  · split at point
    · next same =>
      cases point
      rw [same]
    · cases point
  · cases point

theorem point_other {p : Point} {i j : Nat} (other : j ≠ i) : (Stage.during p i).point j = none := by
  simp [Stage.point, Ne.symm other]

@[simp] theorem put_self (s : EntryLife) (i : Nat) (setup : EntrySetup) :
    (s.put i setup).setups i = setup := Function.update_self ..

theorem put_other (s : EntryLife) {i j : Nat} (setup : EntrySetup) (other : j ≠ i) :
    (s.put i setup).setups j = s.setups j := Function.update_of_ne other ..

theorem kept_put {s : EntryLife} (regular : ∀ j, Kept (s.stage.point j) (s.registered = some j) (s.setups j))
    {i : Nat} {setup : EntrySetup} {stage : Stage} {registered : Option Nat}
    (own : Kept (stage.point i) (registered = some i) setup)
    (others : ∀ j, j ≠ i → stage.point j = s.stage.point j)
    (registers : ∀ j, j ≠ i → s.registered = some j → registered = some j) (j : Nat) :
    Kept (stage.point j) (registered = some j) ((s.put i setup).setups j) := by
  by_cases same : j = i
  · subst same
    rw [put_self]
    exact own
  · rw [put_other s setup same, others j same]
    exact (regular j).weaken (registers j same)

theorem Kept.silent_unsaved {setup : EntrySetup} {registered : Prop} (kept : Kept none registered setup)
    (deaf : setup.listening = false) (unsaved : setup.latestSnapshot = none) : Silent setup := by
  obtain ⟨undelayed, jobs⟩ := kept.unsaved unsaved
  refine ⟨deaf, undelayed, ?_, ?_⟩
  · cases job : setup.job with
    | none => rfl
    | some held =>
      cases held with
      | write saver data =>
        cases jobs saver data job
        rcases kept.own data job with saving | ⟨flushing, _⟩
        · cases saving
        · cases flushing
      | unlink => cases (kept.unlinks job).1
  · intro flushing
    exact absurd unsaved (kept.flushes flushing).2

theorem regular_flush {s : EntryLife} {i : Nat} (stage : s.stage = .notLoaded)
    (kept : ∀ j, Kept (s.stage.point j) (s.registered = some j) (s.setups j))
    (landed : s.abandoned = []) (registered : s.registered = some i) (runtime : s.runtimeData = none)
    (deaf : (s.setups i).listening = false) : Regular (s.flush i) := by
  have own := kept i
  rw [stage] at own
  unfold flush
  cases unsaved : (s.setups i).latestSnapshot with
  | none =>
    have silent := Kept.silent_unsaved own deaf unsaved
    have gone : (s.unregister i).registered = none := by simp [unregister, registered]
    refine ⟨?_, landed, ?_, ?_, ?_⟩
    · intro j
      rw [gone]
      by_cases same : j = i
      · subst same
        refine kept_of_silent silent (fun flushing => (own.flushes flushing).2) ?_ _
        simp [unregister, stage, Stage.point]
      · refine (kept j).weaken ?_
        intro here
        rw [registered] at here
        cases here
        exact absurd rfl same
    · simp [unregister, stage, RegisteredAt]
    · simp [unregister, stage, runtime, Stage.runtime]
    · simp [Clean, unregister, stage]
  | some snapshot =>
    have flushing : Kept (s.stage.point i) (s.registered = some i)
        { (s.setups i).save snapshot with flushing := true } := by
      rw [stage]
      exact
        { own with
          listens := by simp [EntrySetup.save, deaf]
          held := .inr (.inl registered)
          flushes := by simp [EntrySetup.save, deaf, unsaved]
          unsaved := by simp [EntrySetup.save, unsaved]
          flushed := fun data writing => ⟨deaf, (own.flushed data writing).2.1, rfl⟩
          own := by
            intro data writing
            rcases own.own data writing with saving | ⟨flushing, _⟩
            · cases saving
            · cases flushing
          spent := by simp [Stage.point]
          steady := by simp [Stage.point] }
    refine ⟨?_, landed, ?_, ?_, ?_⟩
    · exact kept_put kept flushing (fun _ _ => rfl) (fun _ _ => id)
    · simp [put, stage, RegisteredAt]
    · simp [put, stage, runtime, Stage.runtime]
    · simp [Clean, put, stage]

theorem regular_tearDown {s : EntryLife} {p : Point} {i : Nat} (stage : s.stage = .during p i)
    (sets : p.sets = true) (kept : ∀ j, Kept (s.stage.point j) (s.registered = some j) (s.setups j))
    (landed : s.abandoned = []) (registered : s.registered = some i)
    (unwritten : ∀ data, (s.setups i).job ≠ some (.write .entry data)) : Regular (s.tearDown i) := by
  have own := kept i
  rw [stage, point_during] at own
  have stopped : ∀ j, Kept (Stage.notLoaded.point j) (s.registered = some j)
      ((s.stop (some i)).setups j) := by
    refine kept_put kept (own.stop sets registered unwritten) ?_ (fun _ _ => id)
    intro j other
    rw [stage, point_other other]
    rfl
  exact regular_flush rfl stopped landed registered rfl (by simp [stop])

theorem silent_of_removed {s : EntryLife} (regular : Regular s) (removed : s.stage = .removed) (i : Nat) :
    Silent (s.setups i) := by
  have registered := regular.registered
  have kept := regular.kept i
  rw [removed] at registered kept
  refine Kept.silent kept ?_
  rw [show s.registered = none from registered]
  simp

theorem regular_put {s : EntryLife} (regular : Regular s) {i : Nat} {setup : EntrySetup}
    (own : Kept (s.stage.point i) (s.registered = some i) setup) : Regular (s.put i setup) where
  kept := kept_put regular.kept own (fun _ _ => rfl) (fun _ _ => id)
  landed := regular.landed
  registered := regular.registered
  runtime := regular.runtime
  clean := regular.clean

theorem regular_move {s : EntryLife} (regular : Regular s) {p q : Point} {i : Nat}
    (stage : s.stage = .during p i) {setup : EntrySetup} {registered runtime : Option Nat}
    (own : Kept (some q) (registered = some i) setup)
    (registers : registered = if q.sets then some i else none)
    (runs : runtime = (Stage.during q i).runtime) :
    Regular { s.put i setup with registered, runtimeData := runtime, stage := .during q i } where
  kept := by
    refine kept_put regular.kept ?_ ?_ ?_
    · rw [point_during]
      exact own
    · intro j other
      rw [stage, point_other other, point_other other]
    · intro j other here
      have before := regular.registered
      rw [stage, RegisteredAt, here] at before
      split at before
      · cases before
        exact absurd rfl other
      · cases before
  landed := regular.landed
  registered := registers
  runtime := runs
  clean := by simp [Clean]

theorem put_same (s : EntryLife) (i : Nat) : s.put i (s.setups i) = s := by
  simp [put]

theorem regular_resume {s : EntryLife} (regular : Regular s) {i : Nat} (idle : (s.setups i).job = none)
    {saver : Saver}
    (flush : saver = .flush → (s.setups i).listening = false ∧ (s.setups i).delayed = false ∧
      (s.setups i).flushing = true)
    (entry : saver = .entry → s.stage = .during .saving i ∨
      (s.stage = .during .flushing i ∧ (s.setups i).data = none)) : Regular (s.resume i saver) := by
  have own := regular.kept i
  cases saver with
  | delayed => exact regular
  | flush =>
    obtain ⟨deaf, undelayed, flushing⟩ := flush rfl
    have silent : Silent { s.setups i with flushing := false } := ⟨deaf, undelayed, idle, by simp⟩
    refine ⟨?_, regular.landed, ?_, regular.runtime, regular.clean⟩
    · refine kept_put regular.kept (kept_of_silent silent (by simp) (by simp) _) (fun _ _ => rfl) ?_
      intro j other here
      show (if s.registered = some i then none else s.registered) = some j
      rw [here, if_neg (by simpa using other)]
    · have before := regular.registered
      show RegisteredAt (if s.registered = some i then none else s.registered) s.stage
      cases stage : s.stage with
      | notLoaded => trivial
      | loading => trivial
      | during p k =>
        rw [stage] at before own
        rw [RegisteredAt] at before ⊢
        by_cases here : k = i
        · subst here
          rw [point_during] at own
          cases sets : p.sets with
          | true =>
            rw [own.steady p rfl sets] at flushing
            cases flushing
          | false => simp [before, sets]
        · rw [before]
          cases p.sets with
          | true => simp [here]
          | false => simp
      | unlinkingNew =>
        rw [stage, RegisteredAt] at before
        simp [RegisteredAt, before]
      | removed =>
        rw [stage, RegisteredAt] at before
        simp [RegisteredAt, before]
  | entry =>
    have registered := regular.registered
    rcases entry rfl with stage | ⟨stage, spent⟩
    · rw [stage] at registered own
      rw [point_during] at own
      have moved := regular_move regular stage (own.move rfl (show Point.forwarding.sets = true from rfl)
        (by simp [idle]) registered) registered rfl
      rw [put_same] at moved
      unfold resume
      rw [stage]
      exact moved
    · rw [stage] at registered own
      rw [point_during] at own
      have gone : (if s.registered = some i then none else s.registered) = none := by
        simp [show s.registered = none from registered]
      have unlinking : Kept (some .unlinking) ((if s.registered = some i then none else s.registered) = some i)
          (s.setups i) :=
        { own with
          listens := by
            intro listening
            obtain ⟨p, here, sets⟩ := own.listens listening
            cases here
            cases sets
          held := .inr (.inr (.inr rfl))
          own := by simp [idle]
          unlinks := by simp [idle]
          spent := fun _ _ => spent
          steady := by
            intro p here sets
            cases here
            cases sets }
      have runtime : s.runtimeData = none := by
        rw [regular.runtime, stage]
        rfl
      have moved := regular_move regular stage unlinking gone runtime
      rw [put_same] at moved
      unfold resume
      rw [stage]
      exact moved

theorem regular_acquire {s : EntryLife} (regular : Regular s) (i : Nat) (saver : Saver) :
    Regular (s.acquire i saver) := by
  have own := regular.kept i
  unfold acquire
  cases idle : (s.setups i).job with
  | some job => exact regular
  | none =>
    dsimp only
    split
    · next waiting =>
      have entry : saver = .entry → s.stage = .during .saving i ∨ s.stage = .during .flushing i := by
        rintro rfl
        simpa [waits] using waiting
      have flush : saver = .flush → (s.setups i).flushing = true := by
        rintro rfl
        exact waiting
      split
      · next data =>
        have undelayed : Kept (s.stage.point i) (s.registered = some i)
            { s.setups i with delayed := false } :=
          { own with
            held := own.held.imp_left fun silent => ⟨silent.deaf, rfl, silent.idle, silent.spent⟩
            unsaved := by simp [idle]
            flushed := by simp [idle]
            unlinks := by simp [idle] }
        refine regular_resume (regular_put regular undelayed) ?_ ?_ ?_
        · simpa using idle
        · intro flushes
          rw [put_self]
          exact ⟨(own.flushes (flush flushes)).1, rfl, flush flushes⟩
        · intro enters
          rw [put_self]
          exact (entry enters).imp_right fun stage => ⟨stage, data⟩
      · next data' data =>
        refine regular_put regular ?_
        have held : (s.registered = some i) ∨ s.stage.point i = some .flushing ∨
            s.stage.point i = some .unlinking := by
          rcases own.held with silent | held
          · cases saver with
            | delayed =>
              have delayed : (s.setups i).delayed = true := waiting
              rw [silent.undelayed] at delayed
              cases delayed
            | flush =>
              have spent := silent.spent (flush rfl)
              rw [data] at spent
              cases spent
            | entry =>
              rcases entry rfl with stage | stage
              · have registered := regular.registered
                rw [stage] at registered
                exact .inl registered
              · rw [stage, point_during]
                exact .inr (.inl rfl)
          · exact held
        exact
          { own with
            held := .inr held
            unsaved := by
              intro unsaved
              refine ⟨rfl, ?_⟩
              intro saver' data'' writing
              cases writing
              cases saver with
              | delayed =>
                have delayed : (s.setups i).delayed = true := waiting
                rw [(own.unsaved unsaved).1] at delayed
                cases delayed
              | flush => exact absurd unsaved (own.flushes (flush rfl)).2
              | entry => rfl
            flushed := by
              intro _ writing
              cases writing
              exact ⟨(own.flushes (flush rfl)).1, rfl, flush rfl⟩
            own := by
              intro _ writing
              cases writing
              rcases entry rfl with stage | stage
              · rw [stage, point_during]
                exact .inl rfl
              · rw [stage, point_during]
                exact .inr ⟨rfl, rfl⟩
            unlinks := by simp
            spent := fun _ _ => rfl }
    · exact regular

theorem regular_written {s : EntryLife} (regular : Regular s) (i : Nat) : Regular (s.written i) := by
  have own := regular.kept i
  unfold written
  split
  · next saver data writing =>
    have freed : Kept (s.stage.point i) (s.registered = some i) { s.setups i with job := none } :=
      { own with
        held := by
          rcases own.held with silent | held
          · rw [silent.idle] at writing
            cases writing
          · exact .inr held
        unsaved := fun unsaved => ⟨(own.unsaved unsaved).1, by simp⟩
        flushed := by simp
        own := by simp
        unlinks := by simp }
    have wrote : Regular { s.put i { s.setups i with job := none } with file := some data } :=
      { regular_put regular freed with
        clean := by
          intro removed
          rw [(silent_of_removed regular removed i).idle] at writing
          cases writing }
    refine regular_resume wrote ?_ ?_ ?_
    · simp
    · rintro rfl
      simpa using own.flushed data writing
    · rintro rfl
      rcases own.own data writing with saving | ⟨flushing, spent⟩
      · exact .inl (during_of_point saving)
      · exact .inr ⟨during_of_point flushing, by simpa using spent⟩
  · exact regular

theorem regular_popStore {s : EntryLife}
    (kept : ∀ j, Kept none (s.registered = some j) (s.setups j))
    (deaf : ∀ j, (s.setups j).listening = false) (landed : s.abandoned = [])
    (runtime : s.runtimeData = none) : Regular s.popStore := by
  unfold popStore
  split
  · next registered => exact ⟨kept, landed, registered, runtime, by simp [Clean]⟩
  · next i registered =>
    have own := kept i
    -- no job of the entry or of a removal is under way in a Store that the entry has left
    have unwritten : ∀ data, (s.setups i).job ≠ some (.write .entry data) := by
      intro data writing
      rcases own.own data writing with saving | ⟨flushing, _⟩
      · cases saving
      · cases flushing
    have linked : (s.setups i).job ≠ some .unlink := by
      intro unlinking
      cases (own.unlinks unlinking).1
    have elsewhere : ∀ j, j ≠ i → ∀ p : Point,
        Kept ((Stage.during p i).point j) (none = some j) (s.setups j) := by
      intro j other p
      rw [point_other other]
      refine (kept j).weaken ?_
      intro here
      rw [registered] at here
      cases here
      exact absurd rfl other
    split
    · next unsaved =>
      refine ⟨?_, landed, rfl, runtime, by simp [Clean]⟩
      intro j
      by_cases same : j = i
      · subst same
        rw [point_during]
        exact
          { own with
            listens := by simp [deaf]
            held := .inr (.inr (.inr rfl))
            own := fun data writing => absurd writing (unwritten data)
            unlinks := fun unlinking => absurd unlinking linked
            spent := fun _ flushing => absurd unsaved (own.flushes flushing).2
            steady := by
              intro p here sets
              cases here
              cases sets }
      · exact elsewhere j same _
    · next snapshot saved =>
      refine ⟨?_, landed, rfl, runtime, by simp [Clean]⟩
      intro j
      by_cases same : j = i
      · subst same
        rw [point_during]
        show Kept _ _ ((s.put j ((s.setups j).save snapshot)).setups j)
        rw [put_self]
        exact
          { own with
            listens := by simp [EntrySetup.save, deaf]
            held := .inr (.inr (.inl rfl))
            own := fun data writing => absurd writing (unwritten data)
            unlinks := fun unlinking => absurd unlinking linked
            spent := by simp
            steady := by
              intro p here sets
              cases here
              cases sets }
      · show Kept _ _ ((s.put i ((s.setups i).save snapshot)).setups j)
        rw [put_other s _ same]
        exact elsewhere j same _

theorem regular_removeEntry {s : EntryLife} (regular : Regular s)
    (idle : s.stage = .notLoaded ∨ ∃ i, s.stage = .during .failedUnload i) : Regular s.removeEntry := by
  have kept := regular.kept
  have runtime := regular.runtime
  have registered := regular.registered
  rcases idle with stage | ⟨i, stage⟩
  · rw [stage] at kept runtime
    unfold removeEntry
    rw [show s.runtimeData = none from runtime]
    refine regular_popStore kept ?_ regular.landed rfl
    intro j
    exact Kept.deaf (kept j)
  · rw [stage] at kept runtime registered
    have own := kept i
    rw [point_during] at own
    have unwritten := own.unwritten rfl (by simp)
    have stopped := own.stop rfl registered unwritten
    unfold removeEntry
    rw [show s.runtimeData = some i from runtime]
    refine regular_popStore ?_ ?_ regular.landed rfl
    · intro j
      by_cases same : j = i
      · subst same
        show Kept none (s.registered = some j) ((s.put j { s.setups j with listening := false }).setups j)
        rw [put_self]
        exact stopped
      · have other := kept j
        rw [point_other same] at other
        show Kept none (s.registered = some j) ((s.put i { s.setups i with listening := false }).setups j)
        rw [put_other s _ same]
        exact other
    · intro j
      by_cases same : j = i
      · subst same
        simp [stop]
      · show ((s.put i { s.setups i with listening := false }).setups j).listening = false
        have other := kept j
        rw [point_other same] at other
        rw [put_other s _ same]
        exact other.deaf

theorem regular_loaded {s : EntryLife} (regular : Regular s) (stage : s.stage = .loading)
    (free : s.registered = none) : Regular (s.step .loaded) := by
  have kept := regular.kept
  rw [stage] at kept
  unfold step
  rw [stage]
  dsimp only
  refine ⟨?_, regular.landed, rfl, ?_, by simp [Clean]⟩
  · intro j
    by_cases same : j = s.count
    · subst same
      rw [point_during]
      show Kept _ _ ((s.put s.count EntrySetup.fresh).setups s.count)
      rw [put_self]
      constructor
      · exact fun _ => ⟨.starting, rfl, rfl⟩
      · exact .inr (.inl rfl)
      all_goals simp [EntrySetup.fresh]
    · rw [point_other same]
      show Kept _ _ ((s.put s.count EntrySetup.fresh).setups j)
      rw [put_other s _ same]
      refine (Kept.weaken (kept j) ?_)
      intro here
      rw [free] at here
      cases here
  · show s.runtimeData = _
    rw [regular.runtime, stage]
    rfl

theorem regular_saveFailed {s : EntryLife} (regular : Regular s) (goesOn : Bool)
    (orderly : (goesOn && s.saves) = false) : Regular (s.step (.saveFailed goesOn)) := by
  unfold step
  cases stage : s.stage with
  | during p i =>
    cases p with
    | saving =>
      have registered := regular.registered
      rw [stage] at registered
      dsimp only
      split
      · next data writing =>
        have own := regular.kept i
        have stops : goesOn = false := by simpa [saves, stage, EntrySetup.saves, writing] using orderly
        have cleared : Kept (s.stage.point i) (s.registered = some i) { s.setups i with job := none } :=
          { own with
            held := .inr (.inl registered)
            unsaved := fun unsaved => ⟨(own.unsaved unsaved).1, by simp⟩
            flushed := by simp
            own := by simp
            unlinks := by simp }
        have put := regular_put regular cleared
        rw [stops]
        exact regular_tearDown stage rfl put.kept regular.landed registered (by simp)
      · next unwritten =>
        refine regular_tearDown stage rfl regular.kept regular.landed registered ?_
        exact fun data writing => unwritten data writing
    | _ => exact regular
  | _ => exact regular

theorem regular_proceed {s : EntryLife} (regular : Regular s) {p q : Point} {i : Nat}
    (stage : s.stage = .during p i) (before : p.sets = true) (after : q.sets = true)
    (unsaving : p ≠ .saving) {runtime : Option Nat} (runs : runtime = (Stage.during q i).runtime) :
    Regular { s with runtimeData := runtime, stage := .during q i } := by
  have own := regular.kept i
  have registered := regular.registered
  rw [stage] at registered own
  rw [point_during] at own
  rw [RegisteredAt, before, if_pos rfl] at registered
  have moved := regular_move regular stage (own.move before after (own.unwritten before unsaving) registered)
    (by rw [registered, after, if_pos rfl]) runs
  rw [put_same] at moved
  exact moved

theorem regular_started {s : EntryLife} (regular : Regular s) (current : Option Mapping) :
    Regular (s.step (.started current)) := by
  unfold step
  cases stage : s.stage with
  | during p i =>
    cases p with
    | starting =>
      cases current with
      | none => exact regular_proceed regular stage rfl rfl (by simp) rfl
      | some current =>
        have own := regular.kept i
        have registered := regular.registered
        rw [stage] at registered own
        rw [point_during] at own
        have moved := own.move rfl (show Point.saving.sets = true from rfl)
          (own.unwritten rfl (by simp)) registered
        have saving : Kept (some .saving) (s.registered = some i) ((s.setups i).save current) :=
          { moved with
            held := .inr (.inl registered)
            own := fun _ _ => .inl rfl
            spent := by simp }
        have runtime := regular.runtime
        rw [stage] at runtime
        exact regular_move regular stage saving registered runtime
    | _ => exact regular
  | _ => exact regular

theorem regular_notification {s : EntryLife} (regular : Regular s) (i : Nat) (notification : Mapping) :
    Regular (s.step (.notification i notification)) := by
  unfold step
  dsimp only
  split
  · next listening =>
    have own := regular.kept i
    obtain ⟨p, here, sets⟩ := own.listens listening
    have hears : ∀ {P : Prop}, (s.setups i).listening = false → P := by
      intro _ deaf
      rw [listening] at deaf
      cases deaf
    refine regular_put regular ?_
    exact
      { own with
        held := own.held.elim (fun silent => hears silent.deaf) .inr
        flushes := fun flushing => hears (own.flushes flushing).1
        unsaved := by simp [EntrySetup.persistNotification]
        flushed := fun data writing => hears (own.flushed data writing).1
        own := by
          intro data writing
          rcases own.own data writing with saving | ⟨flushing, _⟩
          · exact .inl saving
          · rw [flushing] at here
            cases here
            cases sets
        unlinks := by
          intro unlinking
          have point := (own.unlinks unlinking).1
          rw [point] at here
          cases here
          cases sets
        spent := by
          intro point
          rw [point] at here
          cases here
          cases sets }
  · exact regular

theorem regular_unlink {s : EntryLife} (regular : Regular s) : Regular (s.step .unlink) := by
  unfold step
  cases stage : s.stage with
  | during p i =>
    cases p with
    | unlinking =>
      have own := regular.kept i
      dsimp only
      split
      · refine regular_put regular ?_
        rw [stage, point_during] at own ⊢
        exact
          { own with
            held := .inr (.inr (.inr rfl))
            unsaved := by simp
            flushed := by simp
            own := by simp
            unlinks := fun _ => ⟨rfl, rfl⟩ }
      · exact regular
    | _ => exact regular
  | _ => exact regular

theorem regular_unlinked {s : EntryLife} (regular : Regular s) : Regular (s.step .unlinked) := by
  have kept := regular.kept
  have registered := regular.registered
  have runtime := regular.runtime
  unfold step
  cases stage : s.stage with
  | unlinkingNew =>
    rw [stage] at kept registered runtime
    exact ⟨kept, regular.landed, registered, runtime, fun _ => rfl⟩
  | during p i =>
    cases p with
    | unlinking =>
      dsimp only
      split
      · next unlinking =>
        have own := kept i
        rw [stage] at own registered runtime
        rw [point_during] at own
        have deaf : (s.setups i).listening = false := by
          by_contra listening
          obtain ⟨p, here, sets⟩ := own.listens (by simpa using listening)
          cases here
          cases sets
        have silent : Silent { s.setups i with job := none } :=
          ⟨deaf, (own.unlinks unlinking).2, rfl, own.spent rfl⟩
        refine ⟨?_, regular.landed, registered, runtime, fun _ => rfl⟩
        refine kept_put kept ?_ ?_ (fun _ _ => id)
        · exact kept_of_silent silent (fun flushing => (own.flushes flushing).2) (by simp [Stage.point]) _
        · intro j other
          rw [stage, point_other other]
          rfl
      · exact regular
    | _ => exact regular
  | _ => exact regular

theorem regular_step {s : EntryLife} (regular : Regular s) (act : Act) (orderly : Orderly s act) :
    Regular (s.step act) := by
  have kept := regular.kept
  have registered := regular.registered
  have runtime := regular.runtime
  cases act with
  | setup =>
    unfold step
    cases stage : s.stage with
    | notLoaded =>
      rw [stage] at kept runtime
      exact ⟨kept, regular.landed, trivial, runtime, by simp [Clean]⟩
    | _ => exact regular
  | loadFailed =>
    unfold step
    cases stage : s.stage with
    | loading =>
      rw [stage] at kept runtime
      exact ⟨kept, regular.landed, trivial, runtime, by simp [Clean]⟩
    | _ => exact regular
  | loaded =>
    cases stage : s.stage with
    | loading => exact regular_loaded regular stage orderly
    | _ =>
      simp only [step, stage]
      exact regular
  | started current => exact regular_started regular current
  | failed =>
    unfold step
    cases stage : s.stage with
    | during p i =>
      have own := kept i
      rw [stage] at own registered
      rw [point_during] at own
      cases p with
      | starting =>
        exact regular_tearDown stage rfl kept regular.landed registered (own.unwritten rfl (by simp))
      | forwarding =>
        exact regular_tearDown stage rfl kept regular.landed registered (own.unwritten rfl (by simp))
      | _ => exact regular
    | _ => exact regular
  | saveFailed goesOn => exact regular_saveFailed regular goesOn orderly
  | forwarded =>
    unfold step
    cases stage : s.stage with
    | during p i =>
      rw [stage] at runtime
      cases p with
      | forwarding => exact regular_proceed regular stage rfl rfl (by simp) runtime
      | _ => exact regular
    | _ => exact regular
  | unload =>
    unfold step
    cases stage : s.stage with
    | during p i =>
      rw [stage] at runtime
      cases p with
      | loaded => exact regular_proceed regular stage rfl rfl (by simp) runtime
      | _ => exact regular
    | _ => exact regular
  | unloadFailed =>
    unfold step
    cases stage : s.stage with
    | during p i =>
      rw [stage] at runtime
      cases p with
      | unloading => exact regular_proceed regular stage rfl rfl (by simp) runtime
      | _ => exact regular
    | _ => exact regular
  | unloaded =>
    unfold step
    cases stage : s.stage with
    | during p i =>
      have own := kept i
      rw [stage] at own registered
      rw [point_during] at own
      cases p with
      | unloading =>
        exact regular_tearDown stage rfl kept regular.landed registered (own.unwritten rfl (by simp))
      | _ => exact regular
    | _ => exact regular
  | remove =>
    unfold step
    cases stage : s.stage with
    | notLoaded => exact regular_removeEntry regular (.inl stage)
    | during p i =>
      cases p with
      | failedUnload => exact regular_removeEntry regular (.inr ⟨i, stage⟩)
      | _ => exact regular
    | _ => exact regular
  | unlink => exact regular_unlink regular
  | unlinked => exact regular_unlinked regular
  | notification i notification => exact regular_notification regular i notification
  | acquire i saver => exact regular_acquire regular i saver
  | written i => exact regular_written regular i
  | lands k =>
    simp only [step, regular.landed, List.getElem?_nil]
    exact regular

theorem regular_init (file : Option Mapping) : Regular (init file) := by
  refine ⟨?_, rfl, trivial, rfl, by simp [Clean, init]⟩
  intro i
  have silent : Silent { EntrySetup.fresh with listening := false } := ⟨rfl, rfl, rfl, by simp [EntrySetup.fresh]⟩
  exact kept_of_silent silent (by simp [EntrySetup.fresh]) (by simp [init, Stage.point]) _

/-- Whatever happens in an orderly run, an entry that has been removed has no file. -/
theorem removed_without_file (file : Option Mapping) (acts : List Act)
    (orderly : AllSteps step Orderly (init file) acts) : AllStates step Clean (init file) acts := by
  have regular := all_states_of_steps (P := Regular) (fun _ act regular orderly => regular_step regular act orderly)
    (regular_init file) orderly
  exact all_states_mono (fun _ regular => regular.clean) regular

/-- A delayed write is under way when the unload fails and the entry is removed. -/
theorem removed_without_file_in_flight : AllStates step Clean (init none)
    (setsUp ++ [.notification 0 [], .acquire 0 .delayed, .notification 0 [], .unload, .unloadFailed,
      .notification 0 [], .remove, .written 0, .acquire 0 .entry, .written 0, .unlink, .unlinked]) :=
  removed_without_file none _ (by decide)

/-- The write of a cancelled setup lands after the removal, whose flush has nothing to wait for. -/
example : ¬ AllStates step Clean (init none) [.setup, .loaded, .started (some []), .acquire 0 .entry,
    .saveFailed true, .remove, .unlinked, .lands 0] := by decide

end EntryLife
