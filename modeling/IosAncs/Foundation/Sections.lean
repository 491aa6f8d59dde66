import IosAncs.Foundation.Runs

/-!
Programs of critical sections. A section reads what its environment answers and
the shared state, updates the state in one step, and decides how the program
goes on; between two sections any other thread may take its own. The label says
which section it is.
-/
open Runs

inductive Sections (L E S α : Type) where
  | done (value : α)
  | critical (label : L) (update : E → S → S) (next : E → S → Sections L E S α)

namespace Sections
variable {L E S α β C : Type}

def bind : Sections L E S α → (α → Sections L E S β) → Sections L E S β
  | .done value, rest => rest value
  | .critical label update next, rest => .critical label update fun e s => bind (next e s) rest

instance : Monad (Sections L E S) where
  pure := .done
  bind := bind

theorem bind_bind {γ : Type} (first : Sections L E S α) (second : α → Sections L E S β)
    (third : β → Sections L E S γ) :
    (first >>= second) >>= third = first >>= fun value => second value >>= third := by
  induction first with
  | done value => rfl
  | critical label update next ih =>
    exact congrArg (critical label update) (funext fun e => funext fun s => ih e s)

def atomic (label : L) (body : E → S → α × S) : Sections L E S α :=
  .critical label (fun e s => (body e s).2) fun e s => .done (body e s).1

/-- Every section of the program meets the relation, whatever it reads. -/
def Always (R : L → E → S → S → Prop) : Sections L E S α → Prop
  | .done _ => True
  | .critical label update next => ∀ e s, R label e s (update e s) ∧ Always R (next e s)

variable {R : L → E → S → S → Prop}

theorem always_mono {R' : L → E → S → S → Prop} (weaker : ∀ label e s s', R label e s s' → R' label e s s')
    {program : Sections L E S α} (h : Always R program) : Always R' program := by
  induction program with
  | done value => trivial
  | critical label update next ih => exact fun e s => ⟨weaker _ _ _ _ (h e s).1, ih e s (h e s).2⟩

@[simp] theorem always_pure (value : α) : Always R (pure value : Sections L E S α) := trivial

theorem always_bind {first : Sections L E S α} {rest : α → Sections L E S β}
    (h : Always R first) (later : ∀ value, Always R (rest value)) : Always R (first >>= rest) := by
  induction first with
  | done value => exact later value
  | critical label update next ih =>
    intro e s
    exact ⟨(h e s).1, ih e s (h e s).2⟩

theorem always_when {condition : Prop} [Decidable condition] {first : Sections L E S α}
    {rest : Sections L E S β} (h : Always R first) (later : Always R rest) :
    Always R (if condition then (do let _ ← first; rest) else rest) := by
  split
  · exact always_bind h fun _ => later
  · exact later

theorem always_atomic {label : L} {body : E → S → α × S}
    (h : ∀ e s, R label e s (body e s).2) : Always R (atomic label body) := by
  intro e s
  exact ⟨h e s, trivial⟩

section Protocol
variable {P : Type} {Fits : P → S → Prop} {Turn : P → S → S → P → Prop}

/-- The program goes through the phases of a protocol: a section that finds the state as
    its phase has it takes a turn to the next phase, and the value at the end meets the
    condition in the last one. -/
def Follows (Fits : P → S → Prop) (Turn : P → S → S → P → Prop) (Ends : α → P → Prop) :
    P → Sections L E S α → Prop
  | p, .done value => Ends value p
  | p, .critical _ update next =>
    ∀ e s, Fits p s → ∃ p', Turn p s (update e s) p' ∧ Follows Fits Turn Ends p' (next e s)

theorem follows_bind (Between : α → P → Prop) {Ends : β → P → Prop} {first : Sections L E S α}
    {rest : α → Sections L E S β} {p : P} (h : Follows Fits Turn Between p first)
    (later : ∀ value p', Between value p' → Follows Fits Turn Ends p' (rest value)) :
    Follows Fits Turn Ends p (first >>= rest) := by
  induction first generalizing p with
  | done value => exact later value p h
  | critical label update next ih =>
    intro e s fits
    obtain ⟨p', turn, goes⟩ := h e s fits
    exact ⟨p', turn, ih e s goes⟩

theorem follows_atomic {Ends : α → P → Prop} {label : L} {body : E → S → α × S} {p : P}
    (h : ∀ e s, Fits p s → ∃ p', Turn p s (body e s).2 p' ∧ Ends (body e s).1 p') :
    Follows Fits Turn Ends p (atomic label body) := h

theorem follows_of_always {Ends : α → P → Prop} {program : Sections L E S α} {p : P}
    (stays : ∀ label e s s', Fits p s → R label e s s' → Turn p s s' p) (h : Always R program)
    (ends : ∀ value, Ends value p) : Follows Fits Turn Ends p program := by
  induction program with
  | done value => exact ends value
  | critical label update next ih =>
    intro e s fits
    exact ⟨p, stays label e s _ fits (h e s).1, ih e s (h e s).2⟩

end Protocol

structure Threads (L E S : Type) where
  state : S
  threads : List (Sections L E S Unit)

inductive ThreadAction (C E : Type) where
  | start (call : C)
  | run (thread : Nat) (env : E)

def step (body : C → Sections L E S Unit) (t : Threads L E S) : ThreadAction C E → Threads L E S
  | .start call => { t with threads := t.threads ++ [body call] }
  | .run thread env =>
    match t.threads[thread]? with
    | some (.critical _ update next) =>
      { state := update env t.state, threads := t.threads.set thread (next env t.state) }
    | _ => t

def initially (s : S) : Threads L E S := { state := s, threads := [] }

def SectionMeets (Q : L → E → S → Prop) (t : Threads L E S) : ThreadAction C E → Prop
  | .start _ => True
  | .run thread env =>
    match t.threads[thread]? with
    | some (.critical label _ _) => Q label env t.state
    | _ => True

theorem always_step {body : C → Sections L E S Unit} (bodies : ∀ call, Always R (body call))
    {t : Threads L E S} (all : ∀ program ∈ t.threads, Always R program)
    (action : ThreadAction C E) : ∀ program ∈ (step body t action).threads, Always R program := by
  cases action with
  | start call =>
    intro program member
    rcases List.mem_append.mp member with old | new
    · exact all program old
    · rw [List.mem_singleton.mp new]
      exact bodies call
  | run thread env =>
    simp only [step]
    split
    · next label update next found =>
      have section_ := all _ (List.mem_of_getElem? found)
      intro program member
      rcases List.mem_or_eq_of_mem_set member with old | rfl
      · exact all program old
      · exact (section_ env t.state).2
    · exact all

/-- In every interleaving of calls whose sections keep a property exactly under
    their condition, it holds throughout exactly when every section that is run
    meets its condition. -/
theorem all_states_iff_sections {P : S → Prop} {Q : L → E → S → Prop}
    {body : C → Sections L E S Unit}
    (bodies : ∀ call, Always (fun label e s s' => P s → (P s' ↔ Q label e s)) (body call))
    {s : S} (start : P s) (actions : List (ThreadAction C E)) :
    AllStates (step body) (fun t => P t.state) (initially s) actions ↔
      AllSteps (step body) (SectionMeets Q) (initially s) actions := by
  apply all_states_iff_all_steps
    (J := fun t => ∀ program ∈ t.threads,
      Always (fun label e s s' => P s → (P s' ↔ Q label e s)) program)
  · intro t action all _ _
    exact always_step bodies all action
  · intro t action all holds
    cases action with
    | start call => exact iff_of_true holds trivial
    | run thread env =>
      simp only [step, SectionMeets]
      split
      · next label update next found =>
        have section_ := all _ (List.mem_of_getElem? found)
        exact (section_ env t.state).1 holds
      · exact iff_of_true holds trivial
  · intro program member
    cases member
  · exact start

theorem all_states_sections {P : S → Prop} {body : C → Sections L E S Unit}
    (bodies : ∀ call, Always (fun _ _ s s' => P s → P s') (body call)) {s : S} (start : P s)
    (actions : List (ThreadAction C E)) :
    AllStates (step body) (fun t => P t.state) (initially s) actions := by
  refine (all_states_iff_sections (Q := fun _ _ _ => True) ?_ start actions).mpr ?_
  · intro call
    apply always_mono _ (bodies call)
    exact fun _ _ s s' kept holds => iff_of_true (kept holds) trivial
  · apply all_steps_of_forall
    intro t action
    cases action with
    | start call => trivial
    | run thread env =>
      simp only [SectionMeets]
      split <;> trivial

end Sections
