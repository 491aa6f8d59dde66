import IosAncs.Foundation.Sections
import Mathlib.Data.List.Forall2

/-!
A mutex over programs of critical sections. A section that takes it waits until nobody holds
it, and only the holder's sections change the resource that it protects, so a program that
holds it can be followed by the exact value of the resource, whatever other threads do.
-/
open Runs Sections

inductive MutexUse where
  | apart
  | take
  | give
deriving DecidableEq, Repr

/-- A mutex and the resource it protects: what holds of the resource while nobody holds the
    mutex and what holds at all times, what a section may rely on, and what it has to meet. -/
structure Mutex (L E S T : Type) where
  use : L → MutexUse
  resource : S → T
  Free : T → Prop
  Coherent : T → Prop
  Rely : L → E → S → Prop
  Meets : L → E → S → Prop
  coherent_of_free : ∀ t, Free t → Coherent t

namespace Mutex
variable {L E S T α β C : Type} {m : Mutex L E S T}

/-- The program keeps to the mutex. Its place is the value of the resource while it holds the
    mutex, and `none` while it does not. -/
def Obeys (m : Mutex L E S T) (Ends : α → Option T → Prop) : Sections L E S α → Option T → Prop
  | .done value, place => Ends value place
  | .critical label update next, none =>
    match m.use label with
    | .apart => ∀ e s, m.Rely label e s → m.Meets label e s ∧
        m.resource (update e s) = m.resource s ∧ Obeys m Ends (next e s) none
    | .take => ∀ e s, m.Rely label e s → m.Free (m.resource s) → m.Meets label e s ∧
        m.Coherent (m.resource (update e s)) ∧
        Obeys m Ends (next e s) (some (m.resource (update e s)))
    | .give => False
  | .critical label update next, some t =>
    match m.use label with
    | .apart => ∀ e s, m.Rely label e s → m.resource s = t → m.Meets label e s ∧
        m.Coherent (m.resource (update e s)) ∧
        Obeys m Ends (next e s) (some (m.resource (update e s)))
    | .take => False
    | .give => ∀ e s, m.Rely label e s → m.resource s = t → m.Meets label e s ∧
        m.Free (m.resource (update e s)) ∧ Obeys m Ends (next e s) none

def Apart (m : Mutex L E S T) (program : Sections L E S α) : Prop :=
  m.Obeys (fun _ place => place = none) program none

section Rules
variable {Ends : β → Option T → Prop} {place : Option T}

theorem obeys_bind (Between : α → Option T → Prop) {first : Sections L E S α}
    {rest : α → Sections L E S β} (h : m.Obeys Between first place)
    (later : ∀ value place', Between value place' → m.Obeys Ends (rest value) place') :
    m.Obeys Ends (first >>= rest) place := by
  induction first generalizing place with
  | done value => exact later value place h
  | critical label update next ih =>
    change m.Obeys Ends (.critical label update fun e s => next e s >>= rest) place
    cases place with
    | none =>
      simp only [Obeys] at h ⊢
      split at h
      · intro e s rely
        obtain ⟨meets, same, goes⟩ := h e s rely
        exact ⟨meets, same, ih e s goes⟩
      · intro e s rely free
        obtain ⟨meets, coherent, goes⟩ := h e s rely free
        exact ⟨meets, coherent, ih e s goes⟩
      · exact h
    | some t =>
      simp only [Obeys] at h ⊢
      split at h
      · intro e s rely at_
        obtain ⟨meets, coherent, goes⟩ := h e s rely at_
        exact ⟨meets, coherent, ih e s goes⟩
      · exact h
      · intro e s rely at_
        obtain ⟨meets, free, goes⟩ := h e s rely at_
        exact ⟨meets, free, ih e s goes⟩

theorem obeys_mono {Ends' : β → Option T → Prop}
    (weaker : ∀ value place', Ends value place' → Ends' value place') {program : Sections L E S β}
    (h : m.Obeys Ends program place) : m.Obeys Ends' program place := by
  induction program generalizing place with
  | done value => exact weaker value place h
  | critical label update next ih =>
    cases place with
    | none =>
      simp only [Obeys] at h ⊢
      split at h
      · exact fun e s rely => ⟨(h e s rely).1, (h e s rely).2.1, ih e s (h e s rely).2.2⟩
      · exact fun e s rely free =>
          ⟨(h e s rely free).1, (h e s rely free).2.1, ih e s (h e s rely free).2.2⟩
      · exact h
    | some t =>
      simp only [Obeys] at h ⊢
      split at h
      · exact fun e s rely at_ =>
          ⟨(h e s rely at_).1, (h e s rely at_).2.1, ih e s (h e s rely at_).2.2⟩
      · exact h
      · exact fun e s rely at_ =>
          ⟨(h e s rely at_).1, (h e s rely at_).2.1, ih e s (h e s rely at_).2.2⟩

theorem obeys_apart {label : L} {body : E → S → β × S} (use : m.use label = .apart)
    (h : ∀ e s, m.Rely label e s → m.Meets label e s ∧
      m.resource (body e s).2 = m.resource s ∧ Ends (body e s).1 none) :
    m.Obeys Ends (Sections.atomic label body) none := by
  simp only [Sections.atomic, Obeys, use]
  exact h

theorem obeys_take {label : L} {body : E → S → β × S} (use : m.use label = .take)
    (h : ∀ e s, m.Rely label e s → m.Free (m.resource s) → m.Meets label e s ∧
      m.Coherent (m.resource (body e s).2) ∧ Ends (body e s).1 (some (m.resource (body e s).2))) :
    m.Obeys Ends (Sections.atomic label body) none := by
  simp only [Sections.atomic, Obeys, use]
  exact h

theorem obeys_within {label : L} {body : E → S → β × S} {t : T} (use : m.use label = .apart)
    (h : ∀ e s, m.Rely label e s → m.resource s = t → m.Meets label e s ∧
      m.Coherent (m.resource (body e s).2) ∧ Ends (body e s).1 (some (m.resource (body e s).2))) :
    m.Obeys Ends (Sections.atomic label body) (some t) := by
  simp only [Sections.atomic, Obeys, use]
  exact h

theorem obeys_give {label : L} {body : E → S → β × S} {t : T} (use : m.use label = .give)
    (h : ∀ e s, m.Rely label e s → m.resource s = t → m.Meets label e s ∧
      m.Free (m.resource (body e s).2) ∧ Ends (body e s).1 none) :
    m.Obeys Ends (Sections.atomic label body) (some t) := by
  simp only [Sections.atomic, Obeys, use]
  exact h

end Rules

/-- A program of the holder, which starts with the resource at `t` and still holds the mutex at
    its end. -/
def Within (m : Mutex L E S T) (program : Sections L E S α) (t : T) (Post : α → T → Prop) : Prop :=
  m.Obeys (fun value place => ∃ t', place = some t' ∧ Post value t') program (some t)

section Within
variable {t : T} {Post : β → T → Prop}

theorem within_pure {value : β} (post : Post value t) :
    m.Within (pure value : Sections L E S β) t Post := ⟨t, rfl, post⟩

theorem within_bind (Mid : α → T → Prop) {first : Sections L E S α} {rest : α → Sections L E S β}
    (h : m.Within first t Mid) (later : ∀ value t', Mid value t' → m.Within (rest value) t' Post) :
    m.Within (first >>= rest) t Post := by
  apply obeys_bind _ h
  rintro value place' ⟨t', rfl, mid⟩
  exact later value t' mid

theorem within_mono {Post' : β → T → Prop} (weaker : ∀ value t', Post value t' → Post' value t')
    {program : Sections L E S β} (h : m.Within program t Post) : m.Within program t Post' := by
  apply obeys_mono _ h
  rintro value place' ⟨t', same, post⟩
  exact ⟨t', same, weaker value t' post⟩

theorem within_atomic {label : L} {body : E → S → β × S} (use : m.use label = .apart)
    (h : ∀ e s, m.Rely label e s → m.resource s = t → m.Meets label e s ∧
      m.Coherent (m.resource (body e s).2) ∧ Post (body e s).1 (m.resource (body e s).2)) :
    m.Within (Sections.atomic label body) t Post := by
  apply obeys_within use
  intro e s rely at_
  obtain ⟨meets, coherent, post⟩ := h e s rely at_
  exact ⟨meets, coherent, _, rfl, post⟩

theorem apart_between {γ : Type} {lock : L} {take : E → S → γ × S} {unlock : L}
    {give : E → S → Unit × S} {program : γ → Sections L E S α} (Mid : α → T → Prop)
    (takes : m.use lock = .take) (gives : m.use unlock = .give)
    (entered : ∀ e s, m.Rely lock e s → m.Free (m.resource s) → m.Meets lock e s ∧
      m.Coherent (m.resource (take e s).2) ∧
      m.Within (program (take e s).1) (m.resource (take e s).2) Mid)
    (left : ∀ e s, m.Rely unlock e s → (∃ value, Mid value (m.resource s)) →
      m.Meets unlock e s ∧ m.Free (m.resource (give e s).2)) :
    m.Apart (do
      let value ← Sections.atomic lock take
      let result ← program value
      Sections.atomic unlock give
      pure result) := by
  apply obeys_bind fun value place => ∃ t', place = some t' ∧ m.Within (program value) t' Mid
  · apply obeys_take takes
    intro e s rely free
    obtain ⟨meets, coherent, goes⟩ := entered e s rely free
    exact ⟨meets, coherent, _, rfl, goes⟩
  · rintro value place' ⟨t', rfl, goes⟩
    apply obeys_bind _ goes
    rintro result place'' ⟨t'', rfl, mid⟩
    apply obeys_bind fun _ place => place = none
    · apply obeys_give gives
      intro e s rely at_
      obtain ⟨meets, free⟩ := left e s rely ⟨result, at_ ▸ mid⟩
      exact ⟨meets, free, rfl⟩
    · intro _ place''' same
      exact same

end Within

structure Locked (L E S : Type) where
  threads : Threads L E S
  holder : Option Nat

/-- The mutex's part of a step: a section that takes it waits while it is held. -/
def locked (use : MutexUse) (k : Locked L E S) (thread : Nat) (threads : Threads L E S) :
    Locked L E S :=
  match use with
  | .apart => { k with threads }
  | .take => if k.holder = none then { threads, holder := some thread } else k
  | .give => { threads, holder := none }

def step (m : Mutex L E S T) (body : C → Sections L E S Unit) (k : Locked L E S) :
    ThreadAction C E → Locked L E S
  | .start call => { k with threads := Sections.step body k.threads (.start call) }
  | .run thread env =>
    match k.threads.threads[thread]? with
    | some (.critical label _ _) =>
      locked (m.use label) k thread (Sections.step body k.threads (.run thread env))
    | _ => k

def initially (s : S) : Locked L E S := { threads := Sections.initially s, holder := none }

def SectionMeets (m : Mutex L E S T) (Q : L → E → S → Prop) (k : Locked L E S) :
    ThreadAction C E → Prop
  | .start _ => True
  | .run thread env =>
    match k.threads.threads[thread]? with
    | some (.critical label _ _) =>
      (m.use label = .take → k.holder = none) → Q label env k.threads.state
    | _ => True

def place (m : Mutex L E S T) (k : Locked L E S) (thread : Nat) : Option T :=
  if k.holder = some thread then some (m.resource k.threads.state) else none

structure Kept (m : Mutex L E S T) (k : Locked L E S) : Prop where
  obeys : ∀ thread program, k.threads.threads[thread]? = some program →
    m.Obeys (fun _ place => place = none) program (m.place k thread)
  coherent : m.Coherent (m.resource k.threads.state)
  free : k.holder = none → m.Free (m.resource k.threads.state)
  held : ∀ thread, k.holder = some thread → thread < k.threads.threads.length

theorem kept_initially {s : S} (free : m.Free (m.resource s)) : m.Kept (initially s) where
  obeys := by
    intro thread program found
    simp [initially, Sections.initially] at found
  coherent := m.coherent_of_free _ free
  free := fun _ => free
  held := by
    intro thread held
    cases held

theorem kept_start {body : C → Sections L E S Unit} (bodies : ∀ call, m.Apart (body call))
    {k : Locked L E S} (kept : m.Kept k) (call : C) : m.Kept (m.step body k (.start call)) where
  obeys := by
    intro thread program found
    have found : (k.threads.threads ++ [body call])[thread]? = some program := found
    have place_same : m.place (m.step body k (.start call)) thread = m.place k thread := rfl
    rw [place_same]
    rw [List.getElem?_append] at found
    split at found
    · exact kept.obeys thread program found
    · next outside =>
      have apart : m.place k thread = none := by
        apply if_neg
        intro held
        exact outside (kept.held thread held)
      have only : body call = program := by
        rcases List.getElem?_eq_some_iff.mp found with ⟨_, same⟩
        simpa using same
      rw [apart, ← only]
      exact bodies call
  coherent := kept.coherent
  free := kept.free
  held := by
    intro thread held
    have inside := kept.held thread held
    simp only [step, Sections.step, List.length_append, List.length_singleton]
    omega

/-- The section of a thread that does not hold the mutex, and does not take it either. -/
theorem kept_run_apart {body : C → Sections L E S Unit} {k : Locked L E S} (kept : m.Kept k)
    {thread : Nat} {env : E} {label : L} {update : E → S → S} {next : E → S → Sections L E S Unit}
    (found : k.threads.threads[thread]? = some (.critical label update next))
    (use : m.use label = .apart) (rely : m.Rely label env k.threads.state) :
    m.Kept (m.step body k (.run thread env)) := by
  have after : m.step body k (.run thread env) = { k with threads :=
      { state := update env k.threads.state
        threads := k.threads.threads.set thread (next env k.threads.state) } } := by
    simp only [step, found, use, locked, Sections.step]
  have obeyed := kept.obeys thread _ found
  rw [after]
  by_cases holds : k.holder = some thread
  · rw [place, if_pos holds] at obeyed
    simp only [Obeys, use] at obeyed
    obtain ⟨_, coherent, goes⟩ := obeyed env k.threads.state rely rfl
    refine ⟨?_, coherent, fun none_ => absurd (holds.symm.trans none_) (by simp), ?_⟩
    · intro other program there
      by_cases same : thread = other
      · subst same
        have inside := kept.held thread holds
        simp only [List.getElem?_set_self inside, Option.some.injEq] at there
        rw [place, if_pos holds, ← there]
        exact goes
      · simp only [List.getElem?_set_ne same] at there
        have apart : k.holder ≠ some other := by
          rw [holds]
          simpa using same
        have before := kept.obeys other program there
        rw [place, if_neg apart] at before
        rw [place, if_neg apart]
        exact before
    · intro holder held
      simpa using kept.held holder held
  · rw [place, if_neg holds] at obeyed
    simp only [Obeys, use] at obeyed
    obtain ⟨_, same, goes⟩ := obeyed env k.threads.state rely
    refine ⟨?_, ?_, ?_, ?_⟩
    · intro other program there
      have stands : m.place { k with threads :=
          { state := update env k.threads.state
            threads := k.threads.threads.set thread (next env k.threads.state) } } other =
          m.place k other := by
        simp only [place, same]
      rw [stands]
      by_cases self : thread = other
      · subst self
        have inside := (List.getElem?_eq_some_iff.mp found).1
        simp only [List.getElem?_set_self inside, Option.some.injEq] at there
        rw [place, if_neg holds, ← there]
        exact goes
      · simp only [List.getElem?_set_ne self] at there
        exact kept.obeys other program there
    · simp only [same]
      exact kept.coherent
    · simp only [same]
      exact kept.free
    · intro holder held
      simpa using kept.held holder held

theorem kept_run_take {body : C → Sections L E S Unit} {k : Locked L E S} (kept : m.Kept k)
    {thread : Nat} {env : E} {label : L} {update : E → S → S} {next : E → S → Sections L E S Unit}
    (found : k.threads.threads[thread]? = some (.critical label update next))
    (use : m.use label = .take) (free : k.holder = none)
    (rely : m.Rely label env k.threads.state) : m.Kept (m.step body k (.run thread env)) := by
  have inside := (List.getElem?_eq_some_iff.mp found).1
  have after : m.step body k (.run thread env) =
      { threads := { state := update env k.threads.state
                     threads := k.threads.threads.set thread (next env k.threads.state) }
        holder := some thread } := by
    simp only [step, found, use, locked, Sections.step, free, if_true]
  have obeyed := kept.obeys thread _ found
  rw [place, if_neg (by simp [free])] at obeyed
  simp only [Obeys, use] at obeyed
  obtain ⟨_, coherent, goes⟩ := obeyed env k.threads.state rely (kept.free free)
  rw [after]
  refine ⟨?_, coherent, fun none_ => absurd none_ (by simp), ?_⟩
  · intro other program there
    by_cases self : thread = other
    · subst self
      simp only [List.getElem?_set_self inside, Option.some.injEq] at there
      rw [place, if_pos rfl, ← there]
      exact goes
    · simp only [List.getElem?_set_ne self] at there
      have before := kept.obeys other program there
      rw [place, if_neg (by simp [free])] at before
      rw [place, if_neg (by simpa using self)]
      exact before
  · intro holder held
    obtain rfl : thread = holder := by simpa using held
    simpa using inside

theorem kept_run_give {body : C → Sections L E S Unit} {k : Locked L E S} (kept : m.Kept k)
    {thread : Nat} {env : E} {label : L} {update : E → S → S} {next : E → S → Sections L E S Unit}
    (found : k.threads.threads[thread]? = some (.critical label update next))
    (use : m.use label = .give) (rely : m.Rely label env k.threads.state) :
    k.holder = some thread ∧ m.Kept (m.step body k (.run thread env)) := by
  have inside := (List.getElem?_eq_some_iff.mp found).1
  have after : m.step body k (.run thread env) =
      { threads := { state := update env k.threads.state
                     threads := k.threads.threads.set thread (next env k.threads.state) }
        holder := none } := by
    simp only [step, found, use, locked, Sections.step]
  have obeyed := kept.obeys thread _ found
  by_cases holds : k.holder = some thread
  · refine ⟨holds, ?_⟩
    rw [place, if_pos holds] at obeyed
    simp only [Obeys, use] at obeyed
    obtain ⟨_, free, goes⟩ := obeyed env k.threads.state rely rfl
    rw [after]
    refine ⟨?_, m.coherent_of_free _ free, fun _ => free, fun holder held => by cases held⟩
    intro other program there
    rw [place, if_neg (by simp)]
    by_cases self : thread = other
    · subst self
      simp only [List.getElem?_set_self inside, Option.some.injEq] at there
      rw [← there]
      exact goes
    · simp only [List.getElem?_set_ne self] at there
      have apart : k.holder ≠ some other := by
        rw [holds]
        simpa using self
      have before := kept.obeys other program there
      rw [place, if_neg apart] at before
      exact before
  · rw [place, if_neg holds] at obeyed
    simp only [Obeys, use] at obeyed

theorem kept_step {body : C → Sections L E S Unit} (bodies : ∀ call, m.Apart (body call))
    {k : Locked L E S} (kept : m.Kept k) {action : ThreadAction C E}
    (rely : m.SectionMeets m.Rely k action) : m.Kept (m.step body k action) := by
  cases action with
  | start call => exact kept_start bodies kept call
  | run thread env =>
    cases found : k.threads.threads[thread]? with
    | none =>
      have same : m.step body k (.run thread env) = k := by simp only [step, found]
      rw [same]
      exact kept
    | some program =>
      cases program with
      | done value =>
        have same : m.step body k (.run thread env) = k := by simp only [step, found]
        rw [same]
        exact kept
      | critical label update next =>
        simp only [SectionMeets, found] at rely
        cases use : m.use label with
        | apart => exact kept_run_apart kept found use (rely (by simp [use]))
        | take =>
          cases free : k.holder with
          | none => exact kept_run_take kept found use free (rely fun _ => free)
          | some holder =>
            have same : m.step body k (.run thread env) = k := by
              simp [step, found, use, locked, free]
            rw [same]
            exact kept
        | give => exact (kept_run_give kept found use (rely (by simp [use]))).2

theorem kept_meets {k : Locked L E S} (kept : m.Kept k) {action : ThreadAction C E}
    (rely : m.SectionMeets m.Rely k action) : m.SectionMeets m.Meets k action := by
  cases action with
  | start call => trivial
  | run thread env =>
    simp only [SectionMeets] at rely ⊢
    split at rely
    · next label update next found =>
      intro enabled
      have relied := rely enabled
      have obeyed := kept.obeys thread _ found
      cases use : m.use label with
      | apart =>
        by_cases holds : k.holder = some thread
        · rw [place, if_pos holds] at obeyed
          simp only [Obeys, use] at obeyed
          exact (obeyed env _ relied rfl).1
        · rw [place, if_neg holds] at obeyed
          simp only [Obeys, use] at obeyed
          exact (obeyed env _ relied).1
      | take =>
        have free := enabled use
        rw [place, if_neg (by simp [free])] at obeyed
        simp only [Obeys, use] at obeyed
        exact (obeyed env _ relied (kept.free free)).1
      | give =>
        by_cases holds : k.holder = some thread
        · rw [place, if_pos holds] at obeyed
          simp only [Obeys, use] at obeyed
          exact (obeyed env _ relied rfl).1
        · rw [place, if_neg holds] at obeyed
          simp only [Obeys, use] at obeyed
    · trivial

/-- What the programs keep holds in every interleaving: of the resource at all times, of the
    free resource while nobody holds the mutex, and of every section that is run. -/
theorem keeps_mutex {body : C → Sections L E S Unit} (bodies : ∀ call, m.Apart (body call)) {s : S}
    (free : m.Free (m.resource s)) {actions : List (ThreadAction C E)}
    (rely : AllSteps (m.step body) (m.SectionMeets m.Rely) (initially s) actions) :
    AllStates (m.step body) (fun k => m.Coherent (m.resource k.threads.state) ∧
        (k.holder = none → m.Free (m.resource k.threads.state))) (initially s) actions ∧
      AllSteps (m.step body) (m.SectionMeets m.Meets) (initially s) actions := by
  have kept : AllStates (m.step body) m.Kept (initially s) actions :=
    all_states_of_steps (P := m.Kept) (fun _ _ kept rely => kept_step bodies kept rely)
      (kept_initially free) rely
  exact ⟨all_states_mono (fun _ kept => ⟨kept.coherent, kept.free⟩) kept,
    all_steps_under (fun _ _ kept rely => kept_meets kept rely) kept rely⟩

section Phases
variable {P : Type} {Turn : P → S → S → P → Prop} {idle : P} {body : C → Sections L E S Unit}

/-- Each thread is in a phase of the protocol, which leads it back to the idle one. -/
def Phased (Turn : P → S → S → P → Prop) (idle : P) (threads : List (Sections L E S Unit))
    (phases : List P) : Prop :=
  List.Forall₂ (fun program p => Follows (fun _ _ => True) Turn (fun _ p => p = idle) p program)
    threads phases

theorem phased_split {threads : List (Sections L E S Unit)} {phases : List P}
    (phased : Phased Turn idle threads phases) {thread : Nat} {program : Sections L E S Unit}
    (found : threads[thread]? = some program) :
    ∃ before p after, phases = before ++ p :: after ∧
      Follows (fun _ _ => True) Turn (fun _ p => p = idle) p program ∧
      ∀ next p', Follows (fun _ _ => True) Turn (fun _ p => p = idle) p' next →
        Phased Turn idle (threads.set thread next) (before ++ p' :: after) := by
  induction phased generalizing thread with
  | nil => simp at found
  | @cons first p rest later now others ih =>
    cases thread with
    | zero =>
      obtain rfl : first = program := by simpa using found
      exact ⟨[], p, later, rfl, now, fun next p' follows => .cons follows others⟩
    | succ thread =>
      obtain ⟨before, p', after, rfl, follows, goes⟩ := ih (by simpa using found)
      exact ⟨p :: before, p', after, rfl, follows, fun next p'' h => .cons now (goes next p'' h)⟩

theorem phased_done {threads : List (Sections L E S Unit)} {phases : List P}
    (phased : Phased Turn idle threads phases) (done : ∀ program ∈ threads, program = .done ()) :
    ∀ p ∈ phases, p = idle := by
  induction phased with
  | nil => simp
  | cons now others ih =>
    obtain ⟨rfl, rest⟩ := List.forall_mem_cons.mp done
    exact List.forall_mem_cons.mpr ⟨now, ih rest⟩

/-- A property of the state and of the phases that every turn of one thread keeps holds in every
    interleaving, and every step is a turn of some thread or leaves the state alone. -/
theorem all_states_phased {I : S → List P → Prop}
    (bodies : ∀ call, Follows (fun _ _ => True) Turn (fun _ p => p = idle) idle (body call))
    (starts : ∀ s phases, I s phases → I s (phases ++ [idle]))
    (turns : ∀ s s' before p p' after, I s (before ++ p :: after) → Turn p s s' p' →
      I s' (before ++ p' :: after)) {s : S} (start : I s [])
    (actions : List (ThreadAction C E)) :
    AllStates (m.step body) (fun k => ∃ phases, Phased Turn idle k.threads.threads phases ∧
        I k.threads.state phases) (initially s) actions ∧
      AllSteps (m.step body) (fun k action =>
        (m.step body k action).threads.state = k.threads.state ∨
          ∃ p p', Turn p k.threads.state (m.step body k action).threads.state p')
        (initially s) actions := by
  have step_keeps (k : Locked L E S) (action : ThreadAction C E)
      (holds : ∃ phases, Phased Turn idle k.threads.threads phases ∧ I k.threads.state phases) :
      (∃ phases, Phased Turn idle (m.step body k action).threads.threads phases ∧
        I (m.step body k action).threads.state phases) ∧
      ((m.step body k action).threads.state = k.threads.state ∨
        ∃ p p', Turn p k.threads.state (m.step body k action).threads.state p') := by
    obtain ⟨phases, phased, inv⟩ := holds
    cases action with
    | start call =>
      refine ⟨⟨phases ++ [idle], ?_, starts _ _ inv⟩, .inl rfl⟩
      exact List.rel_append phased (.cons (bodies call) .nil)
    | run thread env =>
      cases found : k.threads.threads[thread]? with
      | none =>
        simp only [step, found]
        exact ⟨⟨phases, phased, inv⟩, .inl trivial⟩
      | some program =>
        cases program with
        | done value =>
          simp only [step, found]
          exact ⟨⟨phases, phased, inv⟩, .inl trivial⟩
        | critical label update next =>
          obtain ⟨before, p, after, rfl, follows, goes⟩ := phased_split phased found
          obtain ⟨p', turn, later⟩ := follows env k.threads.state trivial
          have went : (∃ phases, Phased Turn idle
                (k.threads.threads.set thread (next env k.threads.state)) phases ∧
              I (update env k.threads.state) phases) ∧
              (update env k.threads.state = k.threads.state ∨
                ∃ p p', Turn p k.threads.state (update env k.threads.state) p') :=
            ⟨⟨_, goes _ p' later, turns _ _ before p p' after inv turn⟩, .inr ⟨p, p', turn⟩⟩
          simp only [step, found, locked, Sections.step]
          cases m.use label with
          | apart | give => exact went
          | take =>
            dsimp only
            split
            · exact went
            · exact ⟨⟨_, phased, inv⟩, .inl rfl⟩
  have states := all_states_invariant (fun k action holds => (step_keeps k action holds).1)
    (s := initially s) ⟨[], .nil, start⟩ actions
  exact ⟨states, all_steps_of_states (fun k holds action => (step_keeps k action holds).2) states⟩

end Phases

end Mutex
