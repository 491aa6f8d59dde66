import IosAncs.Worker.Parking

/-!
What becomes of an event. While the session stays ready and the request queue loses
nothing, an added or modified event is published once or canceled once; until then
it waits in the queue or is being answered.
-/
open AncsProtocol Runs WorkerContext

inductive Outcome where
  | complete
  | failed
  | canceled
deriving DecidableEq, Repr

namespace WorkerTrace
variable {limits : AncsLimits}

def session (trace : List (WorkerEffect limits)) : List (WorkerEffect limits) :=
  trace.takeWhile fun
    | .sessionReset _ => false
    | _ => true

/-- What became of an event, newest first. A later removal of its uid cancels it where
    nothing has become of it before. -/
def outcomes (event : ArrivedEvent) : List (WorkerEffect limits) → List Outcome
  | [] => []
  | .published source _ n :: earlier =>
    if source = event then
      (if n.complete then .complete else .failed) :: outcomes event earlier
    else outcomes event earlier
  | .processed removal :: earlier =>
    if removal.Removes ∧ removal.uid = event.uid ∧ event.serial < removal.serial ∧
        outcomes event earlier = [] then [.canceled]
    else outcomes event earlier
  | .requested _ _ _ _ _ :: earlier => outcomes event earlier
  | .parsed _ _ _ :: earlier => outcomes event earlier
  | .recovered :: earlier => outcomes event earlier
  | .sessionReset _ :: earlier => outcomes event earlier

def writes (request : Nat) (kind : ActiveRequestKind) (trace : List (WorkerEffect limits)) : Nat :=
  trace.countP fun
    | .requested k _ phase _ _ => k == request && phase == kind
    | _ => false

@[simp] theorem session_processed (source : ArrivedEvent) (trace : List (WorkerEffect limits)) :
    session (.processed source :: trace) = .processed source :: session trace := rfl

@[simp] theorem session_published (source : ArrivedEvent) (request : Option Nat)
    (n : AncsNotification limits) (trace : List (WorkerEffect limits)) :
    session (.published source request n :: trace) = .published source request n :: session trace :=
  rfl

@[simp] theorem session_asked (s : DeskSlot limits) (trace : List (WorkerEffect limits))
    (asked : Option (List UInt8 × Option Int)) :
    session (s.asked trace asked) = s.asked (session trace) asked := by
  cases asked <;> rfl

@[simp] theorem outcomes_asked (event : ArrivedEvent) (s : DeskSlot limits)
    (trace : List (WorkerEffect limits)) (asked : Option (List UInt8 × Option Int)) :
    outcomes event (s.asked trace asked) = outcomes event trace := by
  cases asked <;> rfl

theorem outcomes_published (event source : ArrivedEvent) (request : Option Nat)
    (n : AncsNotification limits) (trace : List (WorkerEffect limits)) (other : source ≠ event) :
    outcomes event (.published source request n :: trace) = outcomes event trace := by
  simp [outcomes, other]

theorem outcomes_added (event : ArrivedEvent) {source : ArrivedEvent} (adds : ¬ source.Removes)
    (trace : List (WorkerEffect limits)) :
    outcomes event (.processed source :: trace) = outcomes event trace := by
  simp [outcomes, adds]

theorem writes_asked_other {request : Nat} {kind : ActiveRequestKind} {s : DeskSlot limits}
    (other : s.request = request → s.kind ≠ kind) (trace : List (WorkerEffect limits))
    (asked : Option (List UInt8 × Option Int)) :
    writes request kind (s.asked trace asked) = writes request kind trace := by
  cases asked with
  | none => rfl
  | some answer =>
    unfold writes DeskSlot.asked
    rw [List.countP_cons_of_neg]
    simpa using other

theorem writes_asked_le (request : Nat) (kind : ActiveRequestKind) (s : DeskSlot limits)
    (trace : List (WorkerEffect limits)) (asked : Option (List UInt8 × Option Int)) :
    writes request kind (s.asked trace asked) ≤ writes request kind trace + 1 := by
  cases asked with
  | none => exact Nat.le_succ _
  | some answer =>
    unfold writes DeskSlot.asked
    have one : ∀ counts : Bool, (if counts then 1 else 0) ≤ 1 := by decide
    rw [List.countP_cons]
    exact Nat.add_le_add_left (one _) _

end WorkerTrace

namespace Desk
open WorkerTrace
variable {limits : AncsLimits}

def waiting (d : Desk limits) : List ArrivedEvent :=
  match d.slot with
  | none => d.pending
  | some s => if s.canceled then d.pending else s.source :: d.pending

theorem waiting_idle {d : Desk limits} (idle : d.slot = none) : d.waiting = d.pending := by
  simp [waiting, idle]

theorem waiting_canceled {d : Desk limits} {s : DeskSlot limits} (active : d.slot = some s)
    (canceled : s.canceled = true) : d.waiting = d.pending := by
  simp [waiting, active, canceled]

theorem waiting_kept {d : Desk limits} {s : DeskSlot limits} (active : d.slot = some s)
    (kept : s.canceled = false) : d.waiting = s.source :: d.pending := by
  simp [waiting, active, kept]

theorem waiting_same {d d' : Desk limits} {s t : DeskSlot limits} (before : d.slot = some s)
    (after : d'.slot = some t) (source : t.source = s.source) (canceled : t.canceled = s.canceled)
    (pending : d'.pending = d.pending) : d'.waiting = d.waiting := by
  simp only [waiting, before, after, source, canceled, pending]

/-- Nothing is lost and nothing is done twice: an event waits, and nothing has become of
    it, or it waits no more and one thing has. -/
structure Accounts (d : Desk limits) : Prop where
  arrived : ∀ event ∈ arrivals (session d.trace), event.serial < d.processed
  fresh : ∀ event : ArrivedEvent, d.processed ≤ event.serial →
    outcomes event (session d.trace) = []
  once : d.waiting.Nodup
  waits : ∀ event ∈ d.waiting, event ∈ arrivals (session d.trace) ∧ ¬ event.Removes ∧
    outcomes event (session d.trace) = []
  settled : ∀ event ∈ arrivals (session d.trace), ¬ event.Removes → event ∉ d.waiting →
    (outcomes event (session d.trace)).length = 1

theorem accounts_of_same {d d' : Desk limits} (accounts : Accounts d)
    (arrived : arrivals (session d'.trace) = arrivals (session d.trace))
    (outcome : ∀ event, outcomes event (session d'.trace) = outcomes event (session d.trace))
    (processed : d'.processed = d.processed) (waiting : d'.waiting = d.waiting) : Accounts d' := by
  constructor
  · rw [arrived, processed]
    exact accounts.arrived
  · intro event
    rw [outcome, processed]
    exact accounts.fresh event
  · rw [waiting]
    exact accounts.once
  · intro event
    rw [arrived, outcome, waiting]
    exact accounts.waits event
  · intro event
    rw [arrived, outcome, waiting]
    exact accounts.settled event

theorem accounts_published {d : Desk limits} (accounts : Accounts d) {s : DeskSlot limits}
    (active : d.slot = some s) (kept : s.canceled = false) (n : AncsNotification limits) :
    Accounts { d with
      slot := none
      trace := .published s.source (some s.request) n :: d.trace } := by
  have before := waiting_kept active kept
  have nodup := accounts.once
  rw [before, List.nodup_cons] at nodup
  obtain ⟨member, adds, none_⟩ := accounts.waits s.source (by rw [before]; exact List.mem_cons_self)
  constructor
  · exact accounts.arrived
  · intro event later
    have earlier := accounts.arrived s.source member
    have other : s.source ≠ event := by
      intro same
      rw [same] at earlier
      exact Nat.not_le_of_lt earlier later
    rw [session_published, outcomes_published event s.source _ _ _ other]
    exact accounts.fresh event later
  · exact nodup.2
  · intro event waits
    have waited : event ∈ d.waiting := by
      rw [before]
      exact List.mem_cons_of_mem _ waits
    have other : s.source ≠ event := by
      intro same
      rw [same] at nodup
      exact nodup.1 waits
    rw [session_published, outcomes_published event s.source _ _ _ other]
    exact accounts.waits event waited
  · intro event arrived adds gone
    rw [session_published]
    by_cases own : s.source = event
    · subst own
      simp [outcomes, none_]
    · rw [outcomes_published event s.source _ _ _ own]
      apply accounts.settled event arrived adds
      rw [before]
      intro waited
      rcases List.mem_cons.mp waited with same | waits
      · exact own same.symm
      · exact gone waits

theorem arrived_processed {d : Desk limits} (accounts : Accounts d) {source : ArrivedEvent}
    (serial : source.serial = d.processed) :
    ∀ event ∈ arrivals (.processed source :: session d.trace), event.serial < d.processed + 1 := by
  intro event member
  rw [arrivals_processed] at member
  rcases List.mem_cons.mp member with new | old
  · rw [new, serial]
    exact Nat.lt_succ_self _
  · exact Nat.lt_succ_of_lt (accounts.arrived event old)

theorem newest_not_before {d : Desk limits} (accounts : Accounts d) {source event : ArrivedEvent}
    (serial : source.serial = d.processed) (before : event ∈ arrivals (session d.trace)) :
    source ≠ event := by
  intro same
  have earlier := accounts.arrived event before
  rw [← same, serial] at earlier
  exact Nat.lt_irrefl _ earlier

theorem waiting_add (d : Desk limits) (source : ArrivedEvent) (processed : Nat)
    (trace : List (WorkerEffect limits)) :
    waiting { d with pending := d.pending ++ [source], processed, trace } =
      d.waiting ++ [source] := by
  unfold waiting
  dsimp only
  split
  · rfl
  · split <;> rfl

theorem accounts_add {d : Desk limits} (accounts : Accounts d) {source : ArrivedEvent}
    (serial : source.serial = d.processed) (adds : ¬ source.Removes) :
    Accounts { d with
      pending := d.pending ++ [source]
      processed := d.processed + 1
      trace := .processed source :: d.trace } := by
  constructor
  · exact arrived_processed accounts serial
  · intro event later
    rw [session_processed, outcomes_added event adds]
    exact accounts.fresh event (Nat.le_of_succ_le later)
  · rw [waiting_add]
    apply List.Nodup.append accounts.once (List.nodup_singleton source)
    intro event waited new
    rw [List.mem_singleton] at new
    exact newest_not_before accounts serial (accounts.waits event waited).1 new.symm
  · intro event waits
    rw [waiting_add] at waits
    rw [session_processed, outcomes_added event adds, arrivals_processed]
    rcases List.mem_append.mp waits with waited | new
    · obtain ⟨arrived, others⟩ := accounts.waits event waited
      exact ⟨List.mem_cons_of_mem _ arrived, others⟩
    · rw [List.mem_singleton.mp new]
      exact ⟨List.mem_cons_self, adds, accounts.fresh source serial.ge⟩
  · intro event arrived stays gone
    rw [waiting_add] at gone
    rw [session_processed, outcomes_added event adds]
    rw [session_processed, arrivals_processed] at arrived
    rcases List.mem_cons.mp arrived with new | old
    · rw [new] at gone
      exact absurd (List.mem_append_right _ List.mem_cons_self) gone
    · apply accounts.settled event old stays
      intro waited
      exact gone (List.mem_append_left _ waited)

theorem accounts_overflow {d : Desk limits} (accounts : Accounts d) {source : ArrivedEvent}
    (serial : source.serial = d.processed) (adds : ¬ source.Removes) (n : AncsNotification limits) :
    Accounts { d with
      processed := d.processed + 1
      trace := .published source none n :: .processed source :: d.trace } := by
  have others : ∀ event, source ≠ event →
      outcomes event (.published source none n :: .processed source :: session d.trace) =
        outcomes event (session d.trace) := by
    intro event other
    rw [outcomes_published event source none n _ other, outcomes_added event adds]
  constructor
  · exact arrived_processed accounts serial
  · intro event later
    have other : source ≠ event := by
      intro same
      rw [← same, serial] at later
      exact Nat.not_succ_le_self _ later
    rw [session_published, session_processed, others event other]
    exact accounts.fresh event (Nat.le_of_succ_le later)
  · exact accounts.once
  · intro event waited
    obtain ⟨arrived, stays, none_⟩ := accounts.waits event waited
    rw [session_published, session_processed,
      others event (newest_not_before accounts serial arrived)]
    exact ⟨List.mem_cons_of_mem _ arrived, stays, none_⟩
  · intro event arrived stays gone
    rw [session_published, session_processed] at arrived ⊢
    by_cases own : source = event
    · subst own
      have none_ := accounts.fresh source serial.ge
      simp [outcomes, adds, none_]
    · rw [others event own]
      rw [arrivals_published, arrivals_processed] at arrived
      rcases List.mem_cons.mp arrived with new | old
      · exact absurd new.symm own
      · exact accounts.settled event old stays gone

def spare (uid : UInt32) (events : List ArrivedEvent) : List ArrivedEvent :=
  events.filter fun event => ! (event.uid == uid)

theorem mem_spare {uid : UInt32} {events : List ArrivedEvent} {event : ArrivedEvent} :
    event ∈ spare uid events ↔ event ∈ events ∧ event.uid ≠ uid := by
  simp [spare]

theorem waiting_remove (d : Desk limits) (uid : UInt32) (processed : Nat)
    (trace : List (WorkerEffect limits)) :
    waiting { d with
      pending := spare uid d.pending
      slot := d.slot.map (DeskSlot.cancel · uid)
      processed
      trace } = spare uid d.waiting := by
  cases active : d.slot with
  | none => simp [waiting, active]
  | some s =>
    cases canceled : s.canceled with
    | true => simp [waiting, active, DeskSlot.cancel, canceled]
    | false =>
      by_cases same : s.source.uid = uid
      · simp [waiting, active, DeskSlot.cancel, canceled, same, spare]
      · simp [waiting, active, DeskSlot.cancel, canceled, same, spare]

theorem outcomes_removed {d : Desk limits} {source event : ArrivedEvent} (removes : source.Removes)
    (stays : ¬ event.Removes) (n : AncsNotification limits) :
    outcomes event (.published source none n :: .processed source :: session d.trace) =
      if source.uid = event.uid ∧ event.serial < source.serial ∧
          outcomes event (session d.trace) = [] then [.canceled]
      else outcomes event (session d.trace) := by
  have other : source ≠ event := by
    intro same
    exact stays (same ▸ removes)
  rw [outcomes_published event source none n _ other]
  simp [outcomes, removes]

theorem accounts_remove {d : Desk limits} (accounts : Accounts d) {source : ArrivedEvent}
    (serial : source.serial = d.processed) (removes : source.Removes)
    (n : AncsNotification limits) :
    Accounts { d with
      pending := spare source.uid d.pending
      slot := d.slot.map (DeskSlot.cancel · source.uid)
      processed := d.processed + 1
      trace := .published source none n :: .processed source :: d.trace } := by
  constructor
  · exact arrived_processed accounts serial
  · intro event later
    have other : source ≠ event := by
      intro same
      rw [← same, serial] at later
      exact Nat.not_succ_le_self _ later
    rw [session_published, session_processed, outcomes_published event source none n _ other]
    have earlier : ¬ event.serial < source.serial := by
      rw [serial]
      exact Nat.not_lt_of_le (Nat.le_of_succ_le later)
    simp [outcomes, earlier, accounts.fresh event (Nat.le_of_succ_le later)]
  · rw [waiting_remove]
    exact accounts.once.filter _
  · intro event waits
    rw [waiting_remove] at waits
    obtain ⟨waited, differs⟩ := mem_spare.mp waits
    obtain ⟨arrived, stays, none_⟩ := accounts.waits event waited
    rw [session_published, session_processed, outcomes_removed removes stays n, none_]
    refine ⟨List.mem_cons_of_mem _ arrived, stays, ?_⟩
    rw [if_neg]
    intro same
    exact differs same.1.symm
  · intro event arrived stays gone
    rw [waiting_remove] at gone
    rw [session_published, session_processed] at arrived ⊢
    rw [arrivals_published, arrivals_processed] at arrived
    rw [outcomes_removed removes stays n]
    rcases List.mem_cons.mp arrived with new | old
    · exact absurd (new ▸ removes) stays
    · split
      · rfl
      · next unaffected =>
        apply accounts.settled event old stays
        intro waited
        have none_ := (accounts.waits event waited).2.2
        have earlier := accounts.arrived event old
        apply unaffected
        refine ⟨?_, by omega, none_⟩
        by_contra differs
        exact gone (mem_spare.mpr ⟨waited, fun same => differs same.symm⟩)

def exact (limits : AncsLimits) : DeskRules limits where
  Cancels uid pending rest := rest = spare uid pending
  Abandons _ := False
  Resets _ := True
  cancels_members := by
    intro uid pending rest cancels source member
    rw [cancels] at member
    exact mem_spare.mp member

theorem accounts_reset (d : Desk limits) (generation : UInt32) :
    Accounts { d with pending := [], slot := none, trace := .sessionReset generation :: d.trace } where
  arrived _ member := by cases member
  fresh _ _ := rfl
  once := List.nodup_nil
  waits _ member := by cases member
  settled _ member := by cases member

theorem accounts_move {d d' : Desk limits} (move : Move (exact limits) d d')
    (accounts : Accounts d) : Accounts d' := by
  cases move with
  | remove source rest n serial removes complete cancels =>
    rw [cancels]
    exact accounts_remove accounts serial removes n
  | add source serial adds => exact accounts_add accounts serial adds
  | overflow source n serial adds failed => exact accounts_overflow accounts serial adds n
  | start source rest n asked waits idle =>
    apply accounts_of_same accounts
    · rw [session_asked, arrivals_asked]
    · intro event
      rw [session_asked, outcomes_asked]
    · rfl
    · rw [waiting_idle idle, waits]
      rfl
  | read s n active same =>
    refine accounts_of_same accounts rfl (fun _ => rfl) rfl ?_
    exact waiting_same active rfl rfl rfl rfl
  | retry s n asked active first same =>
    apply accounts_of_same accounts
    · rw [session_asked, arrivals_asked]
    · intro event
      rw [session_asked, outcomes_asked]
    · rfl
    · exact waiting_same active rfl rfl rfl rfl
  | parsed s n m asked active kind complete same =>
    apply accounts_of_same accounts
    · rw [session_asked, arrivals_asked]
      rfl
    · intro event
      rw [session_asked, outcomes_asked]
      rfl
    · rfl
    · exact waiting_same active rfl rfl rfl rfl
  | fail s n active kind kept failed => exact accounts_published accounts active kept n
  | finalize s n active parked same => exact accounts_published accounts active parked.2 n
  | drain s active canceled =>
    refine accounts_of_same accounts rfl (fun _ => rfl) rfl ?_
    exact (waiting_canceled active canceled).symm
  | abandon s active allowed => exact allowed.elim
  | recover => exact accounts_of_same accounts rfl (fun _ => rfl) rfl rfl
  | reset generation allowed => exact accounts_reset d generation

def Verdict (n : AncsNotification limits) : Prop :=
  (n.complete = true ∧ n.errorCode = ok) ∨ (n.complete = false ∧ n.errorCode ≠ ok)

/-- What was published, and what will be of a notification that waits for its name. -/
structure Verdicts (d : Desk limits) : Prop where
  published : ∀ source request n, .published source request n ∈ session d.trace → Verdict n
  named : ∀ s, d.slot = some s → s.kind = .appAttributes →
    s.notification.complete = true ∧ s.notification.errorCode = ok

theorem verdict_same {n m : AncsNotification limits} (same : n.SameButName m)
    (complete : n.complete = true ∧ n.errorCode = ok) : m.complete = true ∧ m.errorCode = ok := by
  rw [AncsNotification.same_but_name_complete same, AncsNotification.same_but_name_errorCode same]
  exact complete

theorem published_cons {trace : List (WorkerEffect limits)}
    (before : ∀ source request n, .published source request n ∈ trace → Verdict n)
    {effect : WorkerEffect limits}
    (new : ∀ source request n, effect = .published source request n → Verdict n) :
    ∀ source request n, .published source request n ∈ effect :: trace → Verdict n := by
  intro source request n member
  rcases List.mem_cons.mp member with now | earlier
  · exact new source request n now.symm
  · exact before source request n earlier

theorem published_verdict {trace : List (WorkerEffect limits)}
    (before : ∀ source request n, .published source request n ∈ trace → Verdict n)
    {source : ArrivedEvent} {request : Option Nat} {n : AncsNotification limits}
    (verdict : Verdict n) : ∀ source' request' m,
      .published source' request' m ∈ .published source request n :: trace → Verdict m := by
  apply published_cons before
  intro source' request' m now
  injection now with _ _ same
  exact same ▸ verdict

theorem published_silent {trace : List (WorkerEffect limits)} (effect : WorkerEffect limits)
    (silent : Silent effect)
    (before : ∀ source request n, .published source request n ∈ trace → Verdict n) :
    ∀ source request n, .published source request n ∈ effect :: trace → Verdict n := by
  apply published_cons before
  intro source request n now
  rw [now] at silent
  exact silent.elim

theorem published_asked {trace : List (WorkerEffect limits)}
    (before : ∀ source request n, .published source request n ∈ trace → Verdict n)
    (s : DeskSlot limits) (asked : Option (List UInt8 × Option Int)) :
    ∀ source request n, .published source request n ∈ s.asked trace asked → Verdict n := by
  cases asked with
  | none => exact before
  | some answer => exact published_silent _ trivial before

theorem named_idle {d : Desk limits} (idle : d.slot = none) :
    ∀ s, d.slot = some s → s.kind = .appAttributes →
      s.notification.complete = true ∧ s.notification.errorCode = ok := by
  intro s active
  cases idle.symm.trans active

theorem verdicts_move {d d' : Desk limits} (move : Move (exact limits) d d')
    (verdicts : Verdicts d) : Verdicts d' := by
  have before := verdicts.published
  cases move with
  | remove source rest n serial removes complete cancels =>
    have processed := published_silent (.processed source) trivial before
    refine ⟨published_verdict processed (.inl complete), ?_⟩
    intro t at_slot
    obtain ⟨s, active, rfl⟩ := Option.map_eq_some_iff.mp at_slot
    exact verdicts.named s active
  | add source serial adds => exact ⟨published_silent _ trivial before, verdicts.named⟩
  | overflow source n serial adds failed =>
    have processed := published_silent (.processed source) trivial before
    exact ⟨published_verdict processed (.inr failed), verdicts.named⟩
  | start source rest n asked waits idle =>
    refine ⟨?_, ?_⟩
    · rw [session_asked]
      exact published_asked before _ asked
    · intro s at_slot app
      injection at_slot with at_slot
      subst at_slot
      cases app
  | read s n active same =>
    refine ⟨before, ?_⟩
    intro t at_slot app
    injection at_slot with at_slot
    subst at_slot
    exact verdict_same (same app) (verdicts.named s active app)
  | retry s n asked active first same =>
    refine ⟨?_, ?_⟩
    · rw [session_asked]
      exact published_asked before s asked
    · intro t at_slot app
      injection at_slot with at_slot
      subst at_slot
      exact verdict_same (same app) (verdicts.named s active app)
  | parsed s n m asked active kind complete same =>
    refine ⟨?_, ?_⟩
    · rw [session_asked]
      exact published_asked (published_silent (.parsed s.request s.source n) trivial before) _ asked
    · intro t at_slot _
      injection at_slot with at_slot
      subst at_slot
      exact verdict_same same complete
  | fail s n active kind kept failed =>
    exact ⟨published_verdict before (.inr failed), named_idle rfl⟩
  | finalize s n active parked same =>
    have complete := verdict_same same (verdicts.named s active parked.1)
    exact ⟨published_verdict before (.inl complete), named_idle rfl⟩
  | drain s active canceled => exact ⟨before, named_idle rfl⟩
  | abandon s active allowed => exact allowed.elim
  | recover => exact ⟨published_silent _ trivial before, verdicts.named⟩
  | reset generation allowed =>
    refine ⟨?_, named_idle rfl⟩
    intro _ _ _ member
    cases member

/-- How often the requests were written so far: at most twice in each phase. -/
structure Phases (d : Desk limits) : Prop where
  twice : ∀ request kind, writes request kind (session d.trace) ≤ 2
  later : ∀ request kind, d.requests < request → writes request kind (session d.trace) = 0
  slot : ∀ s, d.slot = some s → s.request = d.requests ∧ s.attempt ≤ 1 ∧
    writes s.request s.kind (session d.trace) ≤ s.attempt + 1 ∧
    (s.kind = .notificationAttributes → writes s.request .appAttributes (session d.trace) = 0)

theorem phases_of_same {d d' : Desk limits} (phases : Phases d)
    (same : ∀ request kind, writes request kind (session d'.trace) =
      writes request kind (session d.trace))
    (requests : d'.requests = d.requests)
    (slot : ∀ t, d'.slot = some t → ∃ s, d.slot = some s ∧ t.request = s.request ∧
      t.attempt = s.attempt ∧ t.kind = s.kind) : Phases d' := by
  constructor
  · intro request kind
    rw [same]
    exact phases.twice request kind
  · intro request kind
    rw [same, requests]
    exact phases.later request kind
  · intro t at_slot
    obtain ⟨s, active, request, attempt, kind⟩ := slot t at_slot
    rw [same, same, requests, request, attempt, kind]
    exact phases.slot s active

theorem phases_asked {d : Desk limits} {s : DeskSlot limits} {requests : Nat}
    {trace : List (WorkerEffect limits)} (t : DeskSlot limits)
    (asked : Option (List UInt8 × Option Int)) (pending : List ArrivedEvent)
    (twice : ∀ request kind, writes request kind (session trace) ≤ 2)
    (later : ∀ request kind, requests < request → writes request kind (session trace) = 0)
    (request : t.request = s.request) (kind : t.kind = s.kind) (number : t.request = requests)
    (attempt : t.attempt ≤ 1)
    (first : writes s.request s.kind (session trace) ≤ t.attempt)
    (unnamed : s.kind = .notificationAttributes →
      writes s.request .appAttributes (session trace) = 0) :
    Phases { d with pending, slot := some t, requests, trace := s.asked trace asked } := by
  constructor
  · intro k phase
    rw [session_asked]
    by_cases own : s.request = k ∧ s.kind = phase
    · obtain ⟨rfl, rfl⟩ := own
      have more := writes_asked_le s.request s.kind s (session trace) asked
      omega
    · rw [writes_asked_other (fun same other => own ⟨same, other⟩)]
      exact twice k phase
  · intro k phase beyond
    rw [session_asked, writes_asked_other]
    · exact later k phase beyond
    · intro same
      rw [← request, number] at same
      exact absurd same (Nat.ne_of_lt beyond)
  · intro u at_slot
    injection at_slot with at_slot
    subst at_slot
    rw [session_asked, request, kind]
    refine ⟨request ▸ number, attempt, ?_, ?_⟩
    · have more := writes_asked_le s.request s.kind s (session trace) asked
      omega
    · intro notification
      rw [writes_asked_other]
      · exact unnamed notification
      · intro _ app
        cases notification.symm.trans app

theorem phases_move {d d' : Desk limits} (move : Move (exact limits) d d') (phases : Phases d) :
    Phases d' := by
  cases move with
  | remove source rest n serial removes complete cancels =>
    refine phases_of_same phases (fun _ _ => rfl) rfl ?_
    intro t at_slot
    obtain ⟨s, active, rfl⟩ := Option.map_eq_some_iff.mp at_slot
    exact ⟨s, active, rfl, rfl, rfl⟩
  | add | overflow | recover =>
    refine phases_of_same phases (fun _ _ => rfl) rfl ?_
    intro s active
    exact ⟨s, active, rfl, rfl, rfl⟩
  | start source rest n asked waits idle =>
    have fresh : ∀ kind, writes (d.requests + 1) kind (session d.trace) = 0 := fun kind =>
      phases.later _ kind (Nat.lt_succ_self _)
    apply phases_asked (DeskSlot.start (d.requests + 1) source n) asked rest phases.twice
    · intro request kind beyond
      exact phases.later request kind (Nat.lt_of_succ_lt beyond)
    · rfl
    · rfl
    · rfl
    · exact Nat.zero_le 1
    · exact (fresh _).le
    · intro _
      exact fresh _
  | read s n active same =>
    refine phases_of_same phases (fun _ _ => rfl) rfl ?_
    intro t at_slot
    injection at_slot with at_slot
    subst at_slot
    exact ⟨s, active, rfl, rfl, rfl⟩
  | retry s n asked active first same =>
    obtain ⟨number, -, count, unnamed⟩ := phases.slot s active
    rw [first] at count
    exact phases_asked { s with attempt := 1, notification := n } asked d.pending phases.twice
      phases.later rfl rfl number (Nat.le_refl 1) count unnamed
  | parsed s n m asked active kind complete same =>
    obtain ⟨number, -, -, unnamed⟩ := phases.slot s active
    exact phases_asked (s.naming m) asked d.pending phases.twice phases.later rfl rfl number
      (Nat.zero_le 1) (unnamed kind).le nofun
  | fail | finalize | drain =>
    refine phases_of_same phases (fun _ _ => rfl) rfl ?_
    intro t at_slot
    cases at_slot
  | abandon s active allowed => exact allowed.elim
  | reset generation allowed =>
    constructor
    · exact fun _ _ => Nat.zero_le 2
    · exact fun _ _ _ => rfl
    · intro s at_slot
      cases at_slot

end Desk

namespace WorkerOutcomes
open WorkerTrace Desk WorkerParking
variable {config : WorkerConfig}

abbrev exactQueue (config : WorkerConfig) : PendingQueue ArrivedEvent ArrivedEvent.uid :=
  PendingQueue.fifo ArrivedEvent.uid config.requestQueueCapacity

abbrev ExactWorker (config : WorkerConfig) := WorkerContext config (exactQueue config)

/-- A write finds the session as it was; the stack answers `ESP_ERR_INVALID_STATE` only
    where Bluetooth is not enabled. -/
def ReadyWrite (w : ExactWorker config) (a : WriteAnswers) : Prop :=
  w.connectionValid a.client = true ∧ a.error ≠ espErrInvalidState

def ReadyRetry (w : ExactWorker config) (a : RetryAnswers) : Prop :=
  a.client.ready = true ∧ ReadyWrite w a.write

def ReadyRequest (w : ExactWorker config) (a : RequestAnswers) : Prop :=
  ReadyWrite w a.write ∧ ReadyRetry w a.retry

instance (w : ExactWorker config) (a : WriteAnswers) : Decidable (ReadyWrite w a) :=
  inferInstanceAs (Decidable (_ ∧ _))

instance (w : ExactWorker config) (a : RetryAnswers) : Decidable (ReadyRetry w a) :=
  inferInstanceAs (Decidable (_ ∧ _))

instance (w : ExactWorker config) (a : RequestAnswers) : Decidable (ReadyRequest w a) :=
  inferInstanceAs (Decidable (_ ∧ _))

def StaysReady (w : ExactWorker config) : WorkerStep → Prop
  | .fragment _ a => ReadyRequest w a
  | .writeResult _ a => ReadyRetry w a
  | .checkDeadline _ a => ReadyRetry w a
  | .startNext a => ReadyRequest w a.request
  | .checkGeneration _ | .event _ _ | .sessionReset _ => True

instance (w : ExactWorker config) : (step : WorkerStep) → Decidable (StaysReady w step)
  | .fragment _ a => inferInstanceAs (Decidable (ReadyRequest w a))
  | .writeResult _ a => inferInstanceAs (Decidable (ReadyRetry w a))
  | .checkDeadline _ a => inferInstanceAs (Decidable (ReadyRetry w a))
  | .startNext a => inferInstanceAs (Decidable (ReadyRequest w a.request))
  | .checkGeneration _ | .event _ _ | .sessionReset _ => inferInstanceAs (Decidable True)

/-- What the worker owes the events of its session. -/
structure OneOutcome (w : ExactWorker config) : Prop where
  atMostOne : ∀ event ∈ arrivals (session w.trace), ¬ event.Removes →
    (outcomes event (session w.trace)).length ≤ 1
  /-- an event without an outcome waits for its turn, or is being answered -/
  undecided : ∀ event ∈ arrivals (session w.trace), ¬ event.Removes →
    outcomes event (session w.trace) = [] → event ∈ (exactQueue config).pending w.pending ∨
      (w.active = true ∧ w.activeCanceled = false ∧ w.activeEvent = event)
  exactlyOne : (exactQueue config).pending w.pending = [] → w.active = false →
    ∀ event ∈ arrivals (session w.trace), ¬ event.Removes →
      (outcomes event (session w.trace)).length = 1
  verdict : ∀ event request n, .published event request n ∈ session w.trace → Verdict n
  /-- the deadline of the active request is that of a write which the stack took -/
  deadline : w.active = true → ∃ bytes, .requested w.requests w.activeEvent w.activeRequestKind
    bytes (some w.deadlineMs) ∈ w.trace
  twice : ∀ request kind, writes request kind (session w.trace) ≤ 2

/-- Once its deadline has passed a request is finished, or it is retried in the same
    phase where it was not before, with a new deadline. -/
def DeadlineEnds (w : ExactWorker config) : WorkerStep → Prop
  | .checkDeadline nowMs a => w.active = true → w.deadlineMs ≤ nowMs →
      (w.checkDeadline nowMs a).active = false ∨
        (w.attempt = 0 ∧ (w.checkDeadline nowMs a).attempt = 1 ∧
          (w.checkDeadline nowMs a).requests = w.requests ∧
          (w.checkDeadline nowMs a).activeEvent = w.activeEvent ∧
          (w.checkDeadline nowMs a).activeRequestKind = w.activeRequestKind ∧
          (w.checkDeadline nowMs a).deadlineMs = a.write.writtenAtMs + config.requestTimeoutMs)
  | _ => True

theorem exact_obeys : Obeys (exactQueue config) (exact config.limits) := by
  intro pending uid
  rfl

theorem not_refused {w : ExactWorker config} {a : WriteAnswers} (ready : ReadyWrite w a) :
    ¬ w.WriteRefused a := by
  intro refused
  rcases refused with invalid | error
  · cases ready.1.symm.trans invalid
  · exact ready.2 error

theorem retry_kept {w : ExactWorker config} {a : RetryAnswers} (ready : ReadyRetry w a) :
    ¬ w.RetryAbandons a := by
  intro abandons
  rcases abandons with lost | ⟨-, refused⟩
  · cases ready.1.symm.trans lost
  · exact not_refused ready.2 refused

theorem first_kept {w : ExactWorker config} {a : RequestAnswers} (ready : ReadyRequest w a) :
    ¬ w.FirstAbandons a := by
  intro abandons
  rcases abandons with refused | ⟨-, lost | refused⟩
  · exact not_refused ready.1 refused
  · cases ready.2.1.symm.trans lost
  · exact not_refused ready.2.2 refused

theorem step_allowed_ready (w : ExactWorker config) (step : WorkerStep)
    (ready : StaysReady w step) : StepAllowed (exact config.limits) w step := by
  cases step with
  | checkGeneration current => exact fun _ => trivial
  | event event a => trivial
  | fragment bytes a =>
    intro _ _
    exact ⟨fun _ abandons => absurd abandons (retry_kept ready.2),
      fun _ _ _ abandons => absurd abandons (first_kept ready)⟩
  | writeResult status a => exact fun _ _ _ abandons => absurd abandons (retry_kept ready)
  | sessionReset generation => trivial
  | checkDeadline nowMs a => exact fun _ _ _ abandons => absurd abandons (retry_kept ready)
  | startNext a => exact fun abandons => absurd abandons (first_kept ready)

theorem mem_waiting_desk {w : ExactWorker config} {event : ArrivedEvent} :
    event ∈ w.desk.waiting ↔ event ∈ (exactQueue config).pending w.pending ∨
      (w.active = true ∧ w.activeCanceled = false ∧ w.activeEvent = event) := by
  unfold waiting desk WorkerContext.slot
  cases active : w.active with
  | false => simp
  | true =>
    cases canceled : w.activeCanceled with
    | true => simp
    | false =>
      simp only [↓reduceIte, Bool.false_eq_true, List.mem_cons, true_and]
      constructor
      · intro member
        rcases member with own | waits
        · exact .inr own.symm
        · exact .inl waits
      · intro member
        rcases member with waits | own
        · exact .inr waits
        · exact .inl own.symm

theorem one_outcome_of_desk {w : ExactWorker config} (settled : Settled w)
    (accounts : Accounts w.desk) (verdicts : Verdicts w.desk) (phases : Phases w.desk) :
    OneOutcome w := by
  have undecided_or_one : ∀ event ∈ arrivals (session w.trace), ¬ event.Removes →
      (event ∈ w.desk.waiting ∧ outcomes event (session w.trace) = []) ∨
        (outcomes event (session w.trace)).length = 1 := by
    intro event arrived stays
    by_cases waits : event ∈ w.desk.waiting
    · exact .inl ⟨waits, (accounts.waits event waits).2.2⟩
    · exact .inr (accounts.settled event arrived stays waits)
  constructor
  · intro event arrived stays
    rcases undecided_or_one event arrived stays with ⟨-, none_⟩ | one
    · simp [none_]
    · exact one.le
  · intro event arrived stays none_
    rcases undecided_or_one event arrived stays with ⟨waits, -⟩ | one
    · exact mem_waiting_desk.mp waits
    · rw [none_] at one
      cases one
  · intro empty idle event arrived stays
    rcases undecided_or_one event arrived stays with ⟨waits, -⟩ | one
    · rcases mem_waiting_desk.mp waits with pending | ⟨active, -⟩
      · rw [empty] at pending
        cases pending
      · cases idle.symm.trans active
    · exact one
  · exact verdicts.published
  · exact settled.armed
  · exact phases.twice

theorem write_deadline {w : ExactWorker config} {a : WriteAnswers}
    (done : (w.writeActiveControlRequest a).2 = espOk) :
    (w.writeActiveControlRequest a).1.deadlineMs = a.writtenAtMs + config.requestTimeoutMs := by
  unfold writeActiveControlRequest at done ⊢
  split
  · next failed =>
    simp only [failed] at done
    cases done
  · next bytes built =>
    simp only [built] at done
    split
    · next invalid =>
      rw [if_pos invalid] at done
      cases done
    · next valid =>
      rw [if_neg valid] at done
      simp only [writeRequest]
      rw [if_pos done]

theorem deadline_ends (w : ExactWorker config) (step : WorkerStep) : DeadlineEnds w step := by
  cases step with
  | checkDeadline nowMs a =>
    intro active late
    have due : (w.active && decide (w.deadlineMs ≤ nowMs)) = true := by simp [active, late]
    unfold checkDeadline
    rw [if_pos due]
    split
    · exact .inl rfl
    · unfold retryOrFinishActive
      rw [if_neg (by simp [active])]
      split
      · exact .inl rfl
      · split
        · next first =>
          have written := written_writeActiveControlRequest
            ({ w with attempt := w.attempt + 1 } : ExactWorker config) a.write
          have once : w.attempt = 0 := by omega
          dsimp only
          split
          · next done =>
            refine .inr ⟨once, ?_, written.requests, written.event, written.kind,
              write_deadline done⟩
            rw [written.attempt, once]
          · split
            · exact .inl rfl
            · exact .inl (idle_finishFailed _ _)
        · exact .inl (idle_finishFailed _ _)
  | checkGeneration | event | fragment | writeResult | sessionReset | startNext => trivial

/-- In every run of the worker after a reset, while the session stays ready, each added
    or modified event has one outcome, or has none yet and waits or is being answered;
    and a request that is past its deadline is retried once or finished. -/
theorem one_outcome_per_event (config : WorkerConfig) (w : ExactWorker config)
    (generation : UInt32) (turns : List WorkerTurn)
    (ready : AllSteps WorkerContext.step StaysReady (w.resetWorkerSession generation)
      (turns.flatMap WorkerTurn.steps)) :
    AllStates WorkerContext.step OneOutcome (w.resetWorkerSession generation)
        (turns.flatMap WorkerTurn.steps) ∧
      AllSteps WorkerContext.step DeadlineEnds (w.resetWorkerSession generation)
        (turns.flatMap WorkerTurn.steps) := by
  refine ⟨?_, all_steps_of_forall deadline_ends _ _⟩
  have allowed := all_steps_mono step_allowed_ready ready
  have all := all_states_of_moves exact_obeys
    (fun _ _ move (holds : Accounts _ ∧ Verdicts _ ∧ Phases _) =>
      ⟨accounts_move move holds.1, verdicts_move move holds.2.1, phases_move move holds.2.2⟩)
    (settled_of_idle rfl) ?_ allowed
  · exact all_states_mono
      (fun _ holds => one_outcome_of_desk holds.1 holds.2.1 holds.2.2.1 holds.2.2.2) all
  · refine ⟨accounts_reset w.desk generation, ⟨?_, named_idle rfl⟩, ?_, ?_, ?_⟩
    · intro _ _ _ member
      cases member
    · exact fun _ _ => Nat.zero_le 2
    · exact fun _ _ _ => rfl
    · intro _ at_slot
      cases at_slot

def answered : List WorkerTurn :=
  [turnWith (.event addedEvent) readyClient, turnWith (.fragment wholeResponse) readyClient,
    turnWith (.event { addedEvent with eventId := 2 }) readyClient]

theorem one_outcome_answered :
    AllSteps WorkerContext.step StaysReady
        ((boot 0 : ExactWorker WorkerConfig.default).resetWorkerSession 1)
        (answered.flatMap WorkerTurn.steps) ∧
      AllStates WorkerContext.step OneOutcome
        ((boot 0 : ExactWorker WorkerConfig.default).resetWorkerSession 1)
        (answered.flatMap WorkerTurn.steps) := by
  have ready : AllSteps WorkerContext.step StaysReady
      ((boot 0 : ExactWorker WorkerConfig.default).resetWorkerSession 1)
      (answered.flatMap WorkerTurn.steps) := by decide +kernel
  exact ⟨ready, (one_outcome_per_event WorkerConfig.default (boot 0) 1 answered ready).1⟩

end WorkerOutcomes
