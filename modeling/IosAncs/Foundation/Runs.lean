import Mathlib.Data.List.Basic
import Mathlib.Data.List.ReduceOption

/-!
Finite runs of a total step function over a list of inputs. A disabled action
is a step that changes nothing, so a partial machine is covered as well.
The exactness rule turns a one-step equivalence into a whole-run one.
-/
namespace Runs
variable {S I A : Type}

def run (step : S → I → S) (s : S) (inputs : List I) : S := inputs.foldl step s

@[simp] theorem run_nil (step : S → I → S) (s : S) : run step s [] = s := rfl

@[simp] theorem run_cons (step : S → I → S) (s : S) (i : I) (rest : List I) :
    run step s (i :: rest) = run step (step s i) rest := rfl

theorem run_append (step : S → I → S) (s : S) (first last : List I) :
    run step s (first ++ last) = run step (run step s first) last := List.foldl_append

def AllStates (step : S → I → S) (P : S → Prop) : S → List I → Prop
  | s, [] => P s
  | s, i :: rest => P s ∧ AllStates step P (step s i) rest

def AllSteps (step : S → I → S) (Q : S → I → Prop) : S → List I → Prop
  | _, [] => True
  | s, i :: rest => Q s i ∧ AllSteps step Q (step s i) rest

def SomeStep (step : S → I → S) (Q : S → I → Prop) : S → List I → Prop
  | _, [] => False
  | s, i :: rest => Q s i ∨ SomeStep step Q (step s i) rest

instance decidableAllStates {step : S → I → S} {P : S → Prop} [∀ s, Decidable (P s)] :
    (s : S) → (inputs : List I) → Decidable (AllStates step P s inputs)
  | s, [] => inferInstanceAs (Decidable (P s))
  | s, i :: rest =>
    have : Decidable (AllStates step P (step s i) rest) := decidableAllStates (step s i) rest
    inferInstanceAs (Decidable (P s ∧ AllStates step P (step s i) rest))

instance decidableAllSteps {step : S → I → S} {Q : S → I → Prop} [∀ s i, Decidable (Q s i)] :
    (s : S) → (inputs : List I) → Decidable (AllSteps step Q s inputs)
  | _, [] => inferInstanceAs (Decidable True)
  | s, i :: rest =>
    have : Decidable (AllSteps step Q (step s i) rest) := decidableAllSteps (step s i) rest
    inferInstanceAs (Decidable (Q s i ∧ AllSteps step Q (step s i) rest))

theorem all_states_first {step : S → I → S} {P : S → Prop} {s : S} {inputs : List I}
    (all : AllStates step P s inputs) : P s := by
  cases inputs with
  | nil => exact all
  | cons i rest => exact all.1

theorem all_states_iff_prefixes (step : S → I → S) (P : S → Prop) (s : S) (inputs : List I) :
    AllStates step P s inputs ↔ ∀ first, first <+: inputs → P (run step s first) := by
  induction inputs generalizing s with
  | nil => simp [AllStates]
  | cons i rest ih =>
    rw [AllStates, ih]
    constructor
    · rintro ⟨now, later⟩ first pre
      cases first with
      | nil => exact now
      | cons j first =>
        obtain ⟨same, shorter⟩ := List.cons_prefix_cons.mp pre
        subst j
        exact later first shorter
    · intro all
      refine ⟨all [] (List.nil_prefix), ?_⟩
      intro first pre
      exact all (i :: first) (List.cons_prefix_cons.mpr ⟨rfl, pre⟩)

theorem all_states_last {step : S → I → S} {P : S → Prop} {s : S} {inputs : List I}
    (all : AllStates step P s inputs) : P (run step s inputs) :=
  (all_states_iff_prefixes step P s inputs).mp all inputs (List.prefix_refl inputs)

theorem all_steps_append (step : S → I → S) (Q : S → I → Prop) (s : S) (first last : List I) :
    AllSteps step Q s (first ++ last) ↔
      AllSteps step Q s first ∧ AllSteps step Q (run step s first) last := by
  induction first generalizing s with
  | nil => simp [AllSteps]
  | cons i rest ih => simp [AllSteps, ih, and_assoc]

theorem all_steps_of_none {step : S → I → S} {Q : S → I → Prop} {s : S} {inputs : List I}
    (none_ : ¬ SomeStep step Q s inputs) : AllSteps step (fun s i => ¬ Q s i) s inputs := by
  induction inputs generalizing s with
  | nil => trivial
  | cons i rest ih =>
    obtain ⟨now, later⟩ := not_or.mp none_
    exact ⟨now, ih later⟩

theorem all_steps_of_forall {step : S → I → S} {Q : S → I → Prop} (all : ∀ s i, Q s i) (s : S)
    (inputs : List I) : AllSteps step Q s inputs := by
  induction inputs generalizing s with
  | nil => trivial
  | cons i rest ih => exact ⟨all s i, ih (step s i)⟩

theorem all_steps_of_mem {step : S → I → S} {Q : I → Prop} {inputs : List I}
    (all : ∀ i ∈ inputs, Q i) (s : S) : AllSteps step (fun _ i => Q i) s inputs := by
  induction inputs generalizing s with
  | nil => trivial
  | cons i rest ih =>
    exact ⟨all i List.mem_cons_self, ih (fun j member => all j (List.mem_cons_of_mem i member)) _⟩

theorem all_steps_mono {step : S → I → S} {Q R : S → I → Prop} (weaker : ∀ s i, Q s i → R s i)
    {s : S} {inputs : List I} (all : AllSteps step Q s inputs) : AllSteps step R s inputs := by
  induction inputs generalizing s with
  | nil => trivial
  | cons i rest ih => exact ⟨weaker s i all.1, ih all.2⟩

theorem all_states_mono {step : S → I → S} {P R : S → Prop} (weaker : ∀ s, P s → R s) {s : S}
    {inputs : List I} (all : AllStates step P s inputs) : AllStates step R s inputs := by
  induction inputs generalizing s with
  | nil => exact weaker s all
  | cons i rest ih => exact ⟨weaker s all.1, ih all.2⟩

theorem run_invariant {step : S → I → S} {P : S → Prop} (preserved : ∀ s i, P s → P (step s i))
    {s : S} (start : P s) (inputs : List I) : P (run step s inputs) := by
  induction inputs generalizing s with
  | nil => exact start
  | cons i rest ih => exact ih (preserved s i start)

/-- What a step under the condition brings about, and every step keeps, holds at the end
    of a run that has such a step. -/
theorem run_reaches {step : S → I → S} {J P : S → Prop} {Q : S → I → Prop}
    (kept : ∀ s i, J s → J (step s i)) (held : ∀ s i, J s → P s → P (step s i))
    (reached : ∀ s i, J s → Q s i → P (step s i)) {s : S} (inv : J s) {inputs : List I}
    (some_ : SomeStep step Q s inputs) : P (run step s inputs) := by
  induction inputs generalizing s with
  | nil => cases some_
  | cons i rest ih =>
    rcases some_ with now | later
    · have both := run_invariant (P := fun s => J s ∧ P s)
        (fun s i hold => ⟨kept s i hold.1, held s i hold.1 hold.2⟩)
        ⟨kept s i inv, reached s i inv now⟩ rest
      exact both.2
    · exact ih (kept s i inv) later

theorem run_reaches_under {step : S → I → S} {P : S → Prop} {Q R : S → I → Prop}
    (held : ∀ s i, R s i → P s → P (step s i)) (reached : ∀ s i, R s i → Q s i → P (step s i))
    {s : S} {inputs : List I} (safe : AllSteps step R s inputs) (some_ : SomeStep step Q s inputs) :
    P (run step s inputs) := by
  induction inputs generalizing s with
  | nil => cases some_
  | cons i rest ih =>
    rcases some_ with now | later
    · have stays : ∀ {s}, P s → AllSteps step R s rest → P (run step s rest) := by
        clear ih safe now
        induction rest with
        | nil => exact fun holds _ => holds
        | cons j rest ih => exact fun holds safe => ih (held _ j safe.1 holds) safe.2
      exact stays (reached s i safe.1 now) safe.2
    · exact ih safe.2 later

theorem all_states_invariant {step : S → I → S} {P : S → Prop}
    (preserved : ∀ s i, P s → P (step s i)) {s : S} (start : P s) (inputs : List I) :
    AllStates step P s inputs := by
  induction inputs generalizing s with
  | nil => exact start
  | cons i rest ih => exact ⟨start, ih (preserved s i start)⟩

theorem all_states_of_steps {step : S → I → S} {P : S → Prop} {Q : S → I → Prop}
    (preserved : ∀ s i, P s → Q s i → P (step s i)) {s : S} (start : P s) {inputs : List I}
    (safe : AllSteps step Q s inputs) : AllStates step P s inputs := by
  induction inputs generalizing s with
  | nil => exact start
  | cons i rest ih => exact ⟨start, ih (preserved s i start safe.1) safe.2⟩

theorem all_steps_of_states {step : S → I → S} {P : S → Prop} {Q : S → I → Prop}
    (holds : ∀ s, P s → ∀ i, Q s i) {s : S} {inputs : List I} (all : AllStates step P s inputs) :
    AllSteps step Q s inputs := by
  induction inputs generalizing s with
  | nil => trivial
  | cons i rest ih => exact ⟨holds s all.1 i, ih all.2⟩

theorem all_steps_under {step : S → I → S} {P : S → Prop} {Q R : S → I → Prop}
    (holds : ∀ s i, P s → Q s i → R s i) {s : S} {inputs : List I}
    (all : AllStates step P s inputs) (safe : AllSteps step Q s inputs) :
    AllSteps step R s inputs := by
  induction inputs generalizing s with
  | nil => trivial
  | cons i rest ih => exact ⟨holds s i all.1 safe.1, ih all.2 safe.2⟩

/-- The exactness rule. Under an invariant that every safe step keeps, a property
    holds throughout the run exactly when every step meets its condition. -/
theorem all_states_iff_all_steps {step : S → I → S} {J P : S → Prop} {Q : S → I → Prop}
    (kept : ∀ s i, J s → P s → Q s i → J (step s i))
    (exact : ∀ s i, J s → P s → (P (step s i) ↔ Q s i))
    {s : S} (inv : J s) (start : P s) (inputs : List I) :
    AllStates step P s inputs ↔ AllSteps step Q s inputs := by
  induction inputs generalizing s with
  | nil => simp [AllStates, AllSteps, start]
  | cons i rest ih =>
    simp only [AllStates, AllSteps, start, true_and]
    constructor
    · intro all
      have next := all_states_first all
      have safe := (exact s i inv start).mp next
      exact ⟨safe, (ih (kept s i inv start safe) next).mp all⟩
    · intro all
      have safe := all.1
      have next := (exact s i inv start).mpr safe
      exact (ih (kept s i inv start safe) next).mpr all.2

theorem all_steps_congr {step : S → I → S} {J : S → Prop} {P Q : S → I → Prop}
    (kept : ∀ s i, J s → Q s i → J (step s i)) (same : ∀ s i, J s → (P s i ↔ Q s i)) {s : S}
    (inv : J s) (inputs : List I) : AllSteps step P s inputs ↔ AllSteps step Q s inputs := by
  induction inputs generalizing s with
  | nil => exact Iff.rfl
  | cons i rest ih =>
    constructor
    · rintro ⟨now, later⟩
      have safe := (same s i inv).mp now
      exact ⟨safe, (ih (kept s i inv safe)).mp later⟩
    · rintro ⟨safe, later⟩
      exact ⟨(same s i inv).mpr safe, (ih (kept s i inv safe)).mpr later⟩

section Observed
variable {O L : Type} {step : S → I → S}

def trace (step : S → I → S) (out : S → I → O) : S → List I → List O
  | _, [] => []
  | s, i :: rest => out s i :: trace step out (step s i) rest

theorem run_filter {keep : I → Bool} (idle : ∀ s i, keep i = false → step s i = s) (s : S)
    (inputs : List I) : run step s (inputs.filter keep) = run step s inputs := by
  induction inputs generalizing s with
  | nil => rfl
  | cons i rest ih =>
    cases kept : keep i with
    | true => rw [List.filter_cons_of_pos kept, run_cons, run_cons, ih]
    | false =>
      rw [List.filter_cons_of_neg (by simp [kept]), run_cons, ih, idle s i kept]

theorem trace_filter {keep : I → Bool} {out : S → I → Option O}
    (idle : ∀ s i, keep i = false → step s i = s) (quiet : ∀ s i, keep i = false → out s i = none)
    (s : S) (inputs : List I) :
    (trace step out s (inputs.filter keep)).reduceOption = (trace step out s inputs).reduceOption := by
  induction inputs generalizing s with
  | nil => rfl
  | cons i rest ih =>
    cases kept : keep i with
    | true =>
      rw [List.filter_cons_of_pos kept, trace, trace]
      cases out s i with
      | none => rw [List.reduceOption_cons_of_none, List.reduceOption_cons_of_none, ih]
      | some o => rw [List.reduceOption_cons_of_some, List.reduceOption_cons_of_some, ih]
    | false =>
      rw [List.filter_cons_of_neg (by simp [kept]), trace, quiet s i kept, idle s i kept,
        List.reduceOption_cons_of_none, ih]

/-- Two runs over the same inputs show the same, if a relation of their states stands as long as
    what is released of them agrees. -/
theorem traces_agree {R : S → S → Prop} {released : S → I → L} {out : S → I → O}
    (same : ∀ s t i, R s t → released s i = released t i →
      out s i = out t i ∧ R (step s i) (step t i)) {s t : S} (related : R s t) (inputs : List I)
    (agree : trace step released s inputs = trace step released t inputs) :
    trace step out s inputs = trace step out t inputs := by
  induction inputs generalizing s t with
  | nil => rfl
  | cons i rest ih =>
    obtain ⟨now, later⟩ := List.cons.inj agree
    obtain ⟨shown, next⟩ := same s t i related now
    rw [trace, trace, shown, ih next later]

end Observed

end Runs
