import IosAncs.Foundation.Sections

/-!
Interleaved calls with a history beside the state. The history notes for each section whose
call it is; the programs do not read it.
-/
open Runs

namespace Sections
variable {L E S C H : Type}

structure Recorded (L E S C H : Type) where
  threads : Threads L E S
  calls : List C
  history : H

def recordedFrom (s : S) (h : H) : Recorded L E S C H where
  threads := initially s
  calls := []
  history := h

/-- What is noted when the thread runs a section: its call, and the state before and after. -/
def noted (note : C → E → S → S → H → H) (r : Recorded L E S C H) (thread : Nat) (env : E) : H :=
  match r.calls[thread]?, r.threads.threads[thread]? with
  | some call, some (.critical _ update _) =>
    note call env r.threads.state (update env r.threads.state) r.history
  | _, _ => r.history

def record (body : C → Sections L E S Unit) (note : C → E → S → S → H → H)
    (r : Recorded L E S C H) (action : ThreadAction C E) : Recorded L E S C H where
  threads := step body r.threads action
  calls := match action with
    | .start call => r.calls ++ [call]
    | .run _ _ => r.calls
  history := match action with
    | .start _ => r.history
    | .run thread env => noted note r thread env

def CallMeets (T : C → E → S → S → H → Prop) (r : Recorded L E S C H) : ThreadAction C E → Prop
  | .start _ => True
  | .run thread env =>
    match r.calls[thread]?, r.threads.threads[thread]? with
    | some call, some (.critical _ update _) =>
      T call env r.threads.state (update env r.threads.state) r.history
    | _, _ => True

def Answered (A : E → Prop) : ThreadAction C E → Prop
  | .start _ => True
  | .run _ env => A env

def Attributed (R : C → E → S → S → Prop) (r : Recorded L E S C H) : Prop :=
  r.threads.threads.length = r.calls.length ∧
    ∀ (thread : Nat) (call : C) (program : Sections L E S Unit), r.calls[thread]? = some call →
      r.threads.threads[thread]? = some program → Always (fun _ => R call) program

variable {body : C → Sections L E S Unit} {note : C → E → S → S → H → H}
  {R : C → E → S → S → Prop} {A : E → Prop} {I : S → H → Prop} {T : C → E → S → S → H → Prop}

theorem record_attributed (bodies : ∀ call, Always (fun _ => R call) (body call))
    {r : Recorded L E S C H} (attributed : Attributed R r) (action : ThreadAction C E) :
    Attributed R (record body note r action) := by
  obtain ⟨length, all⟩ := attributed
  cases action with
  | start call =>
    refine ⟨by simp [record, step, length], ?_⟩
    intro thread call' program started running
    simp only [record, step] at started running
    rcases Nat.lt_or_ge thread r.calls.length with old | new
    · rw [List.getElem?_append_left old] at started
      rw [List.getElem?_append_left (length ▸ old)] at running
      exact all thread call' program started running
    · rw [List.getElem?_append_right new] at started
      rw [List.getElem?_append_right (length ▸ new), length] at running
      obtain ⟨_, rfl⟩ := List.getElem?_eq_some_iff.mp started
      obtain ⟨_, rfl⟩ := List.getElem?_eq_some_iff.mp running
      simpa using bodies call
  | run thread env =>
    simp only [record, step]
    split
    · next label update next found =>
      refine ⟨by simpa using length, ?_⟩
      intro other call program started running
      by_cases same : thread = other
      · subst same
        have kept := (all thread call _ started found env r.threads.state).2
        rw [List.getElem?_set_self (List.getElem?_eq_some_iff.mp found).1] at running
        exact Option.some.inj running ▸ kept
      · rw [List.getElem?_set_ne same] at running
        exact all other call program started running
    · exact ⟨length, all⟩

theorem attributed_section {r : Recorded L E S C H} (attributed : Attributed R r) {thread : Nat} {label : L}
    {update : E → S → S} {next : E → S → Sections L E S Unit}
    (found : r.threads.threads[thread]? = some (.critical label update next)) :
    ∃ call, r.calls[thread]? = some call ∧ ∀ env s, R call env s (update env s) := by
  obtain ⟨running, _⟩ := List.getElem?_eq_some_iff.mp found
  have started := List.getElem?_eq_getElem (attributed.1 ▸ running)
  exact ⟨_, started, fun env s => (attributed.2 thread _ _ started found env s).1⟩

theorem record_invariant
    (kept : ∀ call e s s' h, A e → R call e s s' → I s h → I s' (note call e s s' h))
    {r : Recorded L E S C H} (attributed : Attributed R r) (inv : I r.threads.state r.history)
    {action : ThreadAction C E} (answered : Answered A action) :
    I (record body note r action).threads.state (record body note r action).history := by
  cases action with
  | start call => exact inv
  | run thread env =>
    simp only [record, step, noted]
    cases found : r.threads.threads[thread]? with
    | none => split <;> simp_all
    | some program =>
      cases program with
      | done value => split <;> simp_all
      | critical label update next =>
        obtain ⟨call, started, runs⟩ := attributed_section attributed found
        rw [started]
        exact kept call env _ _ _ answered (runs env _) inv

theorem call_meets (met : ∀ call e s s' h, A e → R call e s s' → I s h → T call e s s' h)
    {r : Recorded L E S C H} (attributed : Attributed R r) (inv : I r.threads.state r.history)
    {action : ThreadAction C E} (answered : Answered A action) : CallMeets T r action := by
  cases action with
  | start call => trivial
  | run thread env =>
    simp only [CallMeets]
    split
    · next call label update next started found =>
      obtain ⟨call', started', runs⟩ := attributed_section attributed found
      rw [started] at started'
      cases started'
      exact met call env _ _ _ answered (runs env _) inv
    · trivial

/-- What the sections of every call keep, with the history, holds throughout, and what they
    meet where it holds is met by every section that is run. -/
theorem recorded_invariant (bodies : ∀ call, Always (fun _ => R call) (body call))
    (kept : ∀ call e s s' h, A e → R call e s s' → I s h → I s' (note call e s s' h))
    (met : ∀ call e s s' h, A e → R call e s s' → I s h → T call e s s' h) {s : S} {h : H}
    (start : I s h) {actions : List (ThreadAction C E)}
    (answered : ∀ action ∈ actions, Answered A action) :
    AllStates (record body note) (fun r => I r.threads.state r.history) (recordedFrom s h) actions ∧
      AllSteps (record body note) (CallMeets T) (recordedFrom s h) actions := by
  have safe : AllSteps (record body note) (fun _ => Answered A) (recordedFrom s h) actions :=
    all_steps_of_mem answered _
  have all : AllStates (record body note)
      (fun r => Attributed R r ∧ I r.threads.state r.history) (recordedFrom s h) actions := by
    apply all_states_of_steps _ _ safe
    · intro r action inv answered
      exact ⟨record_attributed bodies inv.1 action, record_invariant kept inv.1 inv.2 answered⟩
    · refine ⟨⟨rfl, ?_⟩, start⟩
      intro thread call program started
      exact absurd started (by simp [recordedFrom])
  refine ⟨all_states_mono (fun _ inv => inv.2) all, ?_⟩
  exact all_steps_under (fun r action inv answered => call_meets met inv.1 inv.2 answered) all safe

end Sections
