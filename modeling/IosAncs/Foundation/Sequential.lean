import IosAncs.Foundation.Sections

/-!
Programs of critical sections that run one after another, each to its end. The answers of
the environment are given section by section; what a program leads to is shown for all
answers that meet a condition.
-/
open Runs

namespace Sections
variable {L E S α β C : Type}

/-- The value and the state that a program ends with. -/
def finish : Sections L E S α → (Nat → E) → S → α × S
  | .done value, _, s => (value, s)
  | .critical _ update next, answers, s =>
    finish (next (answers 0) s) (fun k => answers (k + 1)) (update (answers 0) s)

def runAlone (body : C → Sections L E S Unit) (s : S) (input : C × (Nat → E)) : S :=
  ((body input.1).finish input.2 s).2

theorem finish_atomic_bind (label : L) (body : E → S → α × S) (rest : α → Sections L E S β)
    (answers : Nat → E) (s : S) :
    (atomic label body >>= rest).finish answers s =
      (rest (body (answers 0) s).1).finish (fun k => answers (k + 1)) (body (answers 0) s).2 := rfl

/-- With any answers that meet the condition, the program ends as it should. -/
def Leads (A : E → Prop) (Q : α → S → Prop) : Sections L E S α → S → Prop
  | .done value, s => Q value s
  | .critical _ update next, s => ∀ e, A e → Leads A Q (next e s) (update e s)

variable {A : E → Prop} {Q : α → S → Prop}

theorem leads_finish {program : Sections L E S α} {s : S} (leads : Leads A Q program s)
    {answers : Nat → E} (meets : ∀ k, A (answers k)) :
    Q (program.finish answers s).1 (program.finish answers s).2 := by
  induction program generalizing s answers with
  | done value => exact leads
  | critical label update next ih =>
    exact ih (answers 0) s (leads (answers 0) (meets 0)) fun k => meets (k + 1)

theorem leads_mono {Q' : α → S → Prop} {program : Sections L E S α} {s : S}
    (leads : Leads A Q program s) (weaker : ∀ value s', Q value s' → Q' value s') :
    Leads A Q' program s := by
  induction program generalizing s with
  | done value => exact weaker value s leads
  | critical label update next ih => exact fun e meets => ih e s (leads e meets)

theorem leads_answers {A' : E → Prop} {program : Sections L E S α} {s : S}
    (fewer : ∀ e, A' e → A e) (leads : Leads A Q program s) : Leads A' Q program s := by
  induction program generalizing s with
  | done value => exact leads
  | critical label update next ih => exact fun e meets => ih e s (leads e (fewer e meets))

theorem leads_bind {Q : β → S → Prop} {first : Sections L E S α} {rest : α → Sections L E S β}
    {s : S} (leads : Leads A (fun value s' => Leads A Q (rest value) s') first s) :
    Leads A Q (first >>= rest) s := by
  induction first generalizing s with
  | done value => exact leads
  | critical label update next ih => exact fun e meets => ih e s (leads e meets)

theorem leads_then {R : α → S → Prop} {Q : β → S → Prop} {first : Sections L E S α}
    {rest : α → Sections L E S β} {s : S} (h : Leads A R first s)
    (later : ∀ value s', R value s' → Leads A Q (rest value) s') : Leads A Q (first >>= rest) s :=
  leads_bind (leads_mono h later)

theorem leads_when {condition : Prop} [Decidable condition] {R : S → Prop} {Q : β → S → Prop}
    {first : Sections L E S α} {rest : Sections L E S β} {s : S} (start : R s)
    (h : Leads A (fun _ s' => R s') first s) (later : ∀ s', R s' → Leads A Q rest s') :
    Leads A Q (if condition then (do let _ ← first; rest) else rest) s := by
  split
  · exact leads_then h fun _ => later
  · exact later s start

theorem leads_pure {value : α} {s : S} (h : Q value s) :
    Leads A Q (pure value : Sections L E S α) s := h

theorem leads_atomic {label : L} {body : E → S → α × S} {s : S}
    (h : ∀ e, A e → Q (body e s).1 (body e s).2) : Leads A Q (atomic label body) s := h

theorem leads_of_always {R : S → S → Prop} (refl : ∀ s, R s s)
    (trans : ∀ {s s' s''}, R s s' → R s' s'' → R s s'') {program : Sections L E S α}
    (h : Always (fun _ e s s' => A e → R s s') program) (s : S) :
    Leads A (fun _ s' => R s s') program s := by
  suffices from_ : ∀ {start}, R start s → Leads A (fun _ s' => R start s') program s from from_ (refl s)
  intro start reached
  induction program generalizing s with
  | done value => exact reached
  | critical label update next ih =>
    intro e meets
    exact ih e s (h e s).2 (update e s) (trans reached ((h e s).1 meets))

theorem leads_and {Q Q' : α → S → Prop} {program : Sections L E S α} {s : S}
    (first : Leads A Q program s) (second : Leads A Q' program s) :
    Leads A (fun value s' => Q value s' ∧ Q' value s') program s := by
  induction program generalizing s with
  | done value => exact ⟨first, second⟩
  | critical label update next ih => exact fun e meets => ih e s (first e meets) (second e meets)

/-- With these answers the program ends as it should, also for the answers that it leaves. -/
def Along (Q : α → S → (Nat → E) → Prop) : Sections L E S α → (Nat → E) → S → Prop
  | .done value, answers, s => Q value s answers
  | .critical _ update next, answers, s =>
    Along Q (next (answers 0) s) (fun k => answers (k + 1)) (update (answers 0) s)

theorem along_finish {Q : α → S → (Nat → E) → Prop} {program : Sections L E S α}
    {answers : Nat → E} {s : S} (along : Along Q program answers s) :
    ∃ later, Q (program.finish answers s).1 (program.finish answers s).2 later := by
  induction program generalizing answers s with
  | done value => exact ⟨answers, along⟩
  | critical label update next ih => exact ih (answers 0) s along

theorem along_bind {Q : β → S → (Nat → E) → Prop} {first : Sections L E S α}
    {rest : α → Sections L E S β} {answers : Nat → E} {s : S}
    (along : Along (fun value s' later => Along Q (rest value) later s') first answers s) :
    Along Q (first >>= rest) answers s := by
  induction first generalizing answers s with
  | done value => exact along
  | critical label update next ih => exact ih (answers 0) s along

theorem along_mono {Q Q' : α → S → (Nat → E) → Prop} {program : Sections L E S α}
    {answers : Nat → E} {s : S} (along : Along Q program answers s)
    (weaker : ∀ value s' later, Q value s' later → Q' value s' later) :
    Along Q' program answers s := by
  induction program generalizing answers s with
  | done value => exact weaker value s answers along
  | critical label update next ih => exact ih (answers 0) s along

theorem along_of_leads {program : Sections L E S α} {answers : Nat → E} {s : S}
    (leads : Leads A Q program s) (meets : ∀ k, A (answers k)) :
    Along (fun value s' _ => Q value s') program answers s := by
  induction program generalizing answers s with
  | done value => exact leads
  | critical label update next ih =>
    exact ih (answers 0) s (leads (answers 0) (meets 0)) fun k => meets (k + 1)

end Sections
