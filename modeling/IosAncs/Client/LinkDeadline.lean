import IosAncs.Client.Moves
import IosAncs.Foundation.Histories

/-!
The deadline of a link that is being prepared, in every interleaving of the client's calls.
The history notes when the latest connect or service change took effect, and when the
disconnect commands of the connection were given.
-/
open Runs Sections Client

namespace ClientMove
variable {label : ClientSection} {env : ClientEnv} {s s' : ClientContext} {move : ClientMove}

def Links : ClientMove → Prop
  | .connected _ _ | .disconnected | .serviceChanged | .deadlineChecked _ => True
  | _ => False

structure SameLink (s s' : ClientContext) : Prop where
  generation : s'.generation = s.generation
  prepareDeadlineMs : s'.prepareDeadlineMs = s.prepareDeadlineMs
  closeAttempts : s'.closeAttempts = s.closeAttempts
  closeRetryDueMs : s'.closeRetryDueMs = s.closeRetryDueMs
  connected : s'.connected = true → s.connected = true
  closing : s.closing = true → s'.closing = true

theorem sameLink_of_core {t : ClientContext} (same : core s' = core t) (link : SameLink s t) :
    SameLink s s' where
  generation := (congrArg ClientContext.generation same).trans link.generation
  prepareDeadlineMs := (congrArg ClientContext.prepareDeadlineMs same).trans link.prepareDeadlineMs
  closeAttempts := (congrArg ClientContext.closeAttempts same).trans link.closeAttempts
  closeRetryDueMs := (congrArg ClientContext.closeRetryDueMs same).trans link.closeRetryDueMs
  connected := fun connected =>
    link.connected ((congrArg ClientContext.connected same).symm.trans connected)
  closing := fun closing => (congrArg ClientContext.closing same).trans (link.closing closing)

theorem takes_sameLink (takes : move.Takes label env s s') (other : ¬ move.Links) : SameLink s s' := by
  cases move with
  | keep | windowClosed | guardCleared | reopenTaken | retryTaken | discoveryStopped
  | handlesInvalidated | registered | mtuReady | dataSubscribed | readyLost | authenticated => cases takes; exact ⟨rfl, rfl, rfl, rfl, id, id⟩
  | closing => cases takes; exact ⟨rfl, rfl, rfl, rfl, id, fun _ => rfl⟩
  | named | enrollInit | reopenSet | replaceSet | replaceReported | notificationSubscribed => obtain ⟨_, rfl⟩ := takes; exact ⟨rfl, rfl, rfl, rfl, id, id⟩
  | «opened» | serviceFound | cccdFound | queued =>
    obtain ⟨_, _, rfl⟩ := takes
    exact ⟨rfl, rfl, rfl, rfl, id, id⟩
  | windowOpened => obtain ⟨_, _, rfl⟩ := takes; exact ⟨rfl, rfl, rfl, rfl, id, id⟩
  | subscribing => obtain ⟨_, _, _, rfl⟩ := takes; exact ⟨rfl, rfl, rfl, rfl, id, id⟩
  | handlesFound => obtain ⟨_, _, _, rfl⟩ := takes; exact ⟨rfl, rfl, rfl, rfl, id, id⟩
  | discoveryStarted => obtain ⟨_, _, _, _, rfl⟩ := takes; exact ⟨rfl, rfl, rfl, rfl, id, id⟩
  | retryScheduled => obtain ⟨_, _, _, _, _, rfl⟩ := takes; exact ⟨rfl, rfl, rfl, rfl, id, id⟩
  | aside => exact sameLink_of_core takes ⟨rfl, rfl, rfl, rfl, id, id⟩
  | bondsRead =>
    rcases takes with same | ⟨first, same⟩
    · exact sameLink_of_core same ⟨rfl, rfl, rfl, rfl, id, id⟩
    · exact sameLink_of_core same ⟨rfl, rfl, rfl, rfl, id, id⟩
  | initFailed =>
    exact sameLink_of_core takes ⟨rfl, rfl, rfl, rfl, fun connected => absurd connected (by
      simp [ClientContext.invalidateAncsHandlesLocked]), id⟩
  | authFailed failReason failureAtMs missing =>
    cases takes
    unfold ClientContext.authFailed ClientContext.recordAuthFailureLocked
    extract_lets first before count counted
    split
    · exact ⟨rfl, rfl, rfl, rfl, id, id⟩
    · exact ⟨rfl, rfl, rfl, rfl, id, id⟩
  | _ => exact absurd trivial other

end ClientMove

namespace Client

def deadlineSection (now : Int) : Client (Bool × Bool × UInt32) :=
  section_ fun _ s =>
    (((s.deadlineChecked now).1, (s.deadlineChecked now).2.1, s.generation), (s.deadlineChecked now).2.2)

theorem checkConnectionDeadline_section :
    ∃ rest, checkConnectionDeadline = nowMs >>= fun now => deadlineSection now >>= rest := by
  refine ⟨_, congrArg (nowMs >>= ·) (funext fun now => congrArg (· >>= _) ?_)⟩
  refine congrArg section_ (funext fun env => funext fun s => ?_)
  refine Prod.ext (Prod.ext rfl (Prod.ext rfl ?_)) rfl
  dsimp only
  split <;> rfl

theorem workerTurn_section (recoveries : Nat) :
    ∃ rest, workerTurn recoveries = nowMs >>= fun now => deadlineSection now >>= rest := by
  obtain ⟨rest, check⟩ := checkConnectionDeadline_section
  rw [workerTurn, check, bind_bind]
  exact ⟨_, congrArg (nowMs >>= ·) (funext fun now => bind_bind _ _ _)⟩

end Client

/-- When the latest connect or service change took effect, and when the disconnect commands of
    the connection were given, the last one first. -/
structure LinkHistory where
  latest : Int
  commands : List Int
deriving DecidableEq, Repr

namespace LinkHistory

def atBoot : LinkHistory where
  latest := 0
  commands := []

/-- A connect and a service change take effect where they begin a generation. A check gives a
    command where it counts an attempt, 3000 ms before the next one is due. -/
def note : ClientCall → ClientEnv → ClientContext → ClientContext → LinkHistory → LinkHistory
  | .gattc _ (.connect _ _), env, s, s', history =>
    if s'.generation = s.generation then history else { latest := env.nowMs, commands := [] }
  | .gattc _ (.srvcChg _), env, s, s', history =>
    if s'.generation = s.generation then history else { history with latest := env.nowMs }
  | .workerTurn _, _, s, s', history =>
    if s'.closeAttempts = s.closeAttempts then history
    else { history with commands := (s'.closeRetryDueMs - 3000) :: history.commands }
  | _, _, _, _, history => history

end LinkHistory

namespace Client

def LinkMoves : ClientCall → ClientMove → Prop
  | .gattc _ (.connect peer connId), move => ¬ move.Links ∨ move = .connected peer connId
  | .gattc _ (.disconnect _ _ _), move => ¬ move.Links ∨ move = .disconnected
  | .gattc _ (.srvcChg _), move => ¬ move.Links ∨ move = .serviceChanged
  | .workerTurn _, move => ¬ move.Links ∨ ∃ now, move = .deadlineChecked now
  | _, move => ¬ move.Links

def LinkStep (call : ClientCall) (env : ClientEnv) (s s' : ClientContext) : Prop :=
  ∃ label move, LinkMoves call move ∧ move.Takes label env s s'

theorem body_links (config : ClientConfig) (call : ClientCall) :
    Always (fun _ => LinkStep call) (call.body config) := by
  have aside (move : ClientMove) (other : ¬ move.Links) : LinkMoves call move := by
    cases call with
    | gattc gattcIf event => cases event <;> first | exact .inl other | exact other
    | workerTurn => exact .inl other
    | _ => exact other
  refine always_mono (fun label _ _ _ ⟨move, moves, takes, _⟩ => ⟨label, move, moves, takes⟩)
    (makes_body ?_ config call ?_)
  · intro move common
    apply aside move
    intro links
    cases move with
    | connected _ _ | disconnected | serviceChanged | deadlineChecked _ =>
      simp [ClientMove.Common, ClientMove.Plain, ClientMove.Subscribes, ClientMove.Replaces] at common
    | _ => exact links
  · cases call with
    | gap event =>
      cases event with
      | authCmpl _ success _ => cases success with
        | false => trivial
        | true => exact id
      | removeBondDevComplete success => cases success with
        | false => trivial
        | true => exact ⟨fun _ => id, id⟩
      | _ => trivial
    | gattc gattcIf event =>
      cases event with
      | connect peer connId => exact .inr rfl
      | disconnect connId peer reason => exact ⟨fun _ => .inl id, .inr rfl⟩
      | srvcChg peer => exact .inr rfl
      | _ => trivial
    | workerTurn recoveries => exact fun now => .inr ⟨now, rfl⟩
    | enrollButton | requestEnroll => exact fun _ => id
    | replaceEnrollment confirmed => cases confirmed with
      | false => trivial
      | true => exact ⟨fun _ => id, id, id, id⟩
    | setPairingAllowed allowed => cases allowed with
      | false => trivial
      | true => exact fun _ => id
    | _ => trivial

variable {call : ClientCall} {env : ClientEnv} {s s' : ClientContext} {history : LinkHistory}

theorem linkMoves_links {move : ClientMove} (moves : LinkMoves call move) (links : move.Links) :
    (∃ gattcIf peer connId, call = .gattc gattcIf (.connect peer connId) ∧
        move = .connected peer connId) ∨
      (∃ gattcIf connId peer reason, call = .gattc gattcIf (.disconnect connId peer reason) ∧
        move = .disconnected) ∨
      (∃ gattcIf peer, call = .gattc gattcIf (.srvcChg peer) ∧ move = .serviceChanged) ∨
      ∃ recoveries now, call = .workerTurn recoveries ∧ move = .deadlineChecked now := by
  cases call with
  | gattc gattcIf event =>
    cases event with
    | connect peer connId => exact .inl ⟨_, _, _, rfl, moves.resolve_left (absurd links)⟩
    | disconnect connId peer reason =>
      exact .inr (.inl ⟨_, _, _, _, rfl, moves.resolve_left (absurd links)⟩)
    | srvcChg peer => exact .inr (.inr (.inl ⟨_, _, rfl, moves.resolve_left (absurd links)⟩))
    | _ => exact absurd links moves
  | workerTurn recoveries =>
    obtain ⟨now, same⟩ := moves.resolve_left (absurd links)
    exact .inr (.inr (.inr ⟨_, now, rfl, same⟩))
  | _ => exact absurd links moves

theorem note_sameLink (link : ClientMove.SameLink s s') :
    LinkHistory.note call env s s' history = history := by
  cases call with
  | gattc gattcIf event => cases event <;> simp [LinkHistory.note, link.generation]
  | workerTurn => simp [LinkHistory.note, link.closeAttempts]
  | _ => rfl

structure LinkInvariant (s : ClientContext) (history : LinkHistory) : Prop where
  deadline : s.connected = true → s.prepareDeadlineMs = history.latest + prepareTimeoutMs
  clock : 0 ≤ history.latest
  attempts : s.connected = true → s.closeAttempts = history.commands.length
  due : s.connected = true → ∀ last ∈ history.commands.head?, s.closeRetryDueMs = last + 3000
  few : history.commands.length ≤ 3
  apart : history.commands.Pairwise fun later earlier => earlier + 3000 ≤ later

theorem invariant_sameLink (inv : LinkInvariant s history) (link : ClientMove.SameLink s s') :
    LinkInvariant s' history where
  deadline connected := link.prepareDeadlineMs.trans (inv.deadline (link.connected connected))
  clock := inv.clock
  attempts connected := link.closeAttempts.trans (inv.attempts (link.connected connected))
  due connected last member := link.closeRetryDueMs.trans (inv.due (link.connected connected) last member)
  few := inv.few
  apart := inv.apart

theorem invariant_apart (inv : LinkInvariant s history) (apart : s'.connected = false) :
    LinkInvariant s' history where
  deadline connected := absurd connected (by simp [apart])
  clock := inv.clock
  attempts connected := absurd connected (by simp [apart])
  due connected := absurd connected (by simp [apart])
  few := inv.few
  apart := inv.apart

theorem deadlineChecked_connected (s : ClientContext) (now : Int) :
    (s.deadlineChecked now).2.2.connected = s.connected := by
  unfold ClientContext.deadlineChecked
  extract_lets expired closed requestClose
  have same : closed.connected = s.connected := by
    simp only [closed]
    split <;> rfl
  dsimp only
  split
  · exact same
  · exact same

theorem deadlineChecked_prepareDeadlineMs (s : ClientContext) (now : Int) :
    (s.deadlineChecked now).2.2.prepareDeadlineMs = s.prepareDeadlineMs := by
  unfold ClientContext.deadlineChecked
  dsimp only
  split <;> split <;> rfl

theorem deadlineChecked_closing (s : ClientContext) (now : Int) (closing : s.closing = true) :
    (s.deadlineChecked now).2.2.closing = true := by
  unfold ClientContext.deadlineChecked
  dsimp only
  split <;> split <;> first | rfl | exact closing

theorem deadlineChecked_command (s : ClientContext) (now : Int) :
    (s.deadlineChecked now).2.2.closeAttempts = s.closeAttempts ∧
        (s.deadlineChecked now).2.2.closeRetryDueMs = s.closeRetryDueMs ∨
      s.connected = true ∧ s.closeAttempts < 3 ∧ s.closeRetryDueMs ≤ now ∧
        (s.deadlineChecked now).2.2.closeAttempts = s.closeAttempts + 1 ∧
        (s.deadlineChecked now).2.2.closeRetryDueMs = now + 3000 := by
  unfold ClientContext.deadlineChecked
  extract_lets expired closed requestClose
  have same : closed.connected = s.connected ∧ closed.closeAttempts = s.closeAttempts ∧
      closed.closeRetryDueMs = s.closeRetryDueMs := by
    simp only [closed]
    split <;> exact ⟨rfl, rfl, rfl⟩
  dsimp only
  split
  · next requests =>
    simp only [requestClose, Bool.and_eq_true, decide_eq_true_eq, same.1, same.2.1, same.2.2] at requests
    obtain ⟨⟨⟨connected, _⟩, left⟩, due⟩ := requests
    exact .inr ⟨connected, left, due, by rw [same.2.1], rfl⟩
  · exact .inl same.2

theorem deadlineChecked_expires (s : ClientContext) (now : Int) (set_ : s.prepareDeadlineMs ≠ 0)
    (past : s.prepareDeadlineMs ≤ now) : (s.deadlineChecked now).2.2.ready = true ∨
      (s.deadlineChecked now).2.2.closing = true ∨ (s.deadlineChecked now).2.2.connected = false := by
  unfold ClientContext.deadlineChecked
  extract_lets expired closed requestClose
  have ends : closed.ready = true ∨ closed.closing = true ∨ closed.connected = false := by
    simp only [closed]
    split
    · exact .inr (.inl rfl)
    · next alive =>
      have late : (s.prepareDeadlineMs != 0 && decide (s.prepareDeadlineMs ≤ now)) = true := by
        simp [set_, past]
      simp only [expired, late, Bool.or_true, Bool.and_true] at alive
      cases ready : s.ready with
      | true => exact .inl rfl
      | false =>
        cases closing : s.closing with
        | true => exact .inr (.inl rfl)
        | false => exact .inr (.inr (by simpa [ready, closing] using alive))
  dsimp only
  split
  · exact ends
  · exact ends

theorem invariant_connected (clock : 0 ≤ env.nowMs) (peer : BdAddr)
    (connId : UInt16) :
    LinkInvariant (s.connectedTo peer connId env.nowMs) { latest := env.nowMs, commands := [] } where
  deadline _ := rfl
  clock := clock
  attempts _ := rfl
  due _ _ member := by simp at member
  few := Nat.zero_le 3
  apart := List.Pairwise.nil

theorem invariant_serviceChanged (inv : LinkInvariant s history) (clock : 0 ≤ env.nowMs) :
    LinkInvariant (s.serviceChanged env.nowMs) { history with latest := env.nowMs } where
  deadline _ := rfl
  clock := clock
  attempts := inv.attempts
  due := inv.due
  few := inv.few
  apart := inv.apart

theorem invariant_checked (inv : LinkInvariant s history) (now : Int) (recoveries : Nat) :
    LinkInvariant (s.deadlineChecked now).2.2
      (LinkHistory.note (.workerTurn recoveries) env s (s.deadlineChecked now).2.2 history) := by
  have connected := deadlineChecked_connected s now
  have prepare := deadlineChecked_prepareDeadlineMs s now
  rcases deadlineChecked_command s now with ⟨attempts, due⟩ | ⟨was, left, ripe, attempts, due⟩
  · simp only [LinkHistory.note, attempts, ↓reduceIte]
    refine ⟨?_, inv.clock, ?_, ?_, inv.few, inv.apart⟩
    · rw [connected, prepare]; exact inv.deadline
    · rw [connected, attempts]; exact inv.attempts
    · rw [connected, due]; exact inv.due
  · have count := inv.attempts was
    have ripe_ : ∀ earlier ∈ history.commands, earlier + 3000 ≤ now := by
      intro earlier member
      have apart := inv.apart
      cases commands : history.commands with
      | nil => rw [commands] at member; cases member
      | cons last rest =>
        have due_ := inv.due was last (by simp [commands])
        rw [commands] at member apart
        rcases List.mem_cons.mp member with rfl | old
        · omega
        · have := (List.pairwise_cons.mp apart).1 earlier old
          omega
    have given : (s.deadlineChecked now).2.2.closeRetryDueMs - 3000 = now := by omega
    have grows : ¬ (s.deadlineChecked now).2.2.closeAttempts = s.closeAttempts := by omega
    simp only [LinkHistory.note, if_neg grows, given]
    refine ⟨?_, inv.clock, ?_, ?_, ?_, ?_⟩
    · rw [connected, prepare]; exact inv.deadline
    · intro _
      simp only [List.length_cons]
      omega
    · intro _ last member
      simp at member
      omega
    · simp only [List.length_cons]
      omega
    · exact List.pairwise_cons.mpr ⟨ripe_, inv.apart⟩

theorem next_generation (generation : UInt32) : ¬ generation + 1 = generation := by
  intro same
  simp at same

theorem invariant_noted (clock : 0 ≤ env.nowMs) (links : LinkStep call env s s')
    (inv : LinkInvariant s history) : LinkInvariant s' (LinkHistory.note call env s s' history) := by
  obtain ⟨label, move, moves, takes⟩ := links
  by_cases links : move.Links
  · rcases linkMoves_links moves links with ⟨gattcIf, peer, connId, rfl, rfl⟩ |
      ⟨gattcIf, connId, peer, reason, rfl, rfl⟩ | ⟨gattcIf, peer, rfl, rfl⟩ |
      ⟨recoveries, now, rfl, rfl⟩
    · obtain ⟨_, rfl⟩ := takes
      have begins : ¬ (s.connectedTo peer connId env.nowMs).generation = s.generation :=
        next_generation s.generation
      simp only [LinkHistory.note, if_neg begins]
      exact invariant_connected clock peer connId
    · cases takes
      exact invariant_apart inv rfl
    · obtain ⟨_, _, rfl⟩ := takes
      have begins : ¬ (s.serviceChanged env.nowMs).generation = s.generation :=
        next_generation s.generation
      simp only [LinkHistory.note, if_neg begins]
      exact invariant_serviceChanged inv clock
    · cases takes
      exact invariant_checked inv now recoveries
  · have link := move.takes_sameLink takes links
    rw [note_sameLink link]
    exact invariant_sameLink inv link

def ClosingKept (call : ClientCall) (_ : ClientEnv) (s s' : ClientContext) (_ : LinkHistory) : Prop :=
  s.closing = true → s'.closing = false →
    (∃ gattcIf connId peer reason, call = .gattc gattcIf (.disconnect connId peer reason) ∧
        s'.connected = false) ∨
      ∃ gattcIf peer connId, call = .gattc gattcIf (.connect peer connId) ∧
        s.connected = false ∧ s'.connected = true

theorem closing_kept (links : LinkStep call env s s') : ClosingKept call env s s' history := by
  intro closing undone
  obtain ⟨label, move, moves, takes⟩ := links
  by_cases links : move.Links
  · rcases linkMoves_links moves links with ⟨gattcIf, peer, connId, rfl, rfl⟩ |
      ⟨gattcIf, connId, peer, reason, rfl, rfl⟩ | ⟨gattcIf, peer, rfl, rfl⟩ |
      ⟨recoveries, now, rfl, rfl⟩
    · obtain ⟨apart, rfl⟩ := takes
      exact .inr ⟨gattcIf, peer, connId, rfl, apart, rfl⟩
    · cases takes
      exact .inl ⟨gattcIf, connId, peer, reason, rfl, rfl⟩
    · obtain ⟨_, closing_, _⟩ := takes
      exact absurd closing (by simp [closing_])
    · cases takes
      exact absurd (deadlineChecked_closing s now closing) (by simp [undone])
  · exact absurd ((move.takes_sameLink takes links).closing closing) (by simp [undone])

abbrev LinkRun := Recorded ClientSection ClientEnv ClientContext ClientCall LinkHistory

def LinkRun.atBoot (config : ClientConfig) : LinkRun :=
  recordedFrom (ClientContext.boot config.enroll) LinkHistory.atBoot

def LinkRun.step (config : ClientConfig) : LinkRun → ThreadAction ClientCall ClientEnv → LinkRun :=
  record (ClientCall.body config) LinkHistory.note

/-- A link that is connected, not ready and not closing has its deadline, at most
    `ANCS_PREPARE_TIMEOUT_MS` after the latest connect or service change. -/
def LinkRun.Bounded (run : LinkRun) : Prop :=
  let s := run.threads.state
  s.connected = true → s.ready = false → s.closing = false →
    s.prepareDeadlineMs ≠ 0 ∧ s.prepareDeadlineMs ≤ run.history.latest + prepareTimeoutMs

/-- After the section of `check_connection_deadline` at a time not before that bound, the link
    is ready, closing or disconnected. -/
def LinkRun.CheckCloses (config : ClientConfig) (run : LinkRun) :
    ThreadAction ClientCall ClientEnv → Prop
  | .start _ => True
  | .run thread env => ∀ now rest,
    run.threads.threads[thread]? = some (deadlineSection now >>= rest) →
      run.history.latest + prepareTimeoutMs ≤ now →
      let s := (LinkRun.step config run (.run thread env)).threads.state
      s.ready = true ∨ s.closing = true ∨ s.connected = false

/-- At most three disconnect commands for a connection, each 3000 ms after the one before. -/
def LinkRun.FewCommands (run : LinkRun) : Prop :=
  run.history.commands.length ≤ 3 ∧
    run.history.commands.Pairwise fun later earlier => earlier + 3000 ≤ later

theorem LinkInvariant.bounded {run : LinkRun} (inv : LinkInvariant run.threads.state run.history) :
    run.Bounded := by
  intro connected _ _
  have deadline := inv.deadline connected
  have clock := inv.clock
  unfold prepareTimeoutMs at *
  exact ⟨by omega, deadline.le⟩

theorem LinkInvariant.checkCloses {config : ClientConfig} {run : LinkRun}
    (inv : LinkInvariant run.threads.state run.history) (action : ThreadAction ClientCall ClientEnv) :
    run.CheckCloses config action := by
  cases action with
  | start call => trivial
  | run thread env =>
    intro now rest found past
    have after : (LinkRun.step config run (.run thread env)).threads.state =
        (run.threads.state.deadlineChecked now).2.2 := by
      simp only [LinkRun.step, record, Sections.step, found]
      rfl
    rw [after]
    cases connected : run.threads.state.connected with
    | false => exact .inr (.inr ((deadlineChecked_connected _ now).trans connected))
    | true =>
      have deadline := inv.deadline connected
      have clock := inv.clock
      unfold prepareTimeoutMs at *
      exact deadlineChecked_expires _ now (by omega) (by omega)

theorem invariant_atBoot (config : ClientConfig) :
    LinkInvariant (ClientContext.boot config.enroll) LinkHistory.atBoot where
  deadline connected := by cases connected
  clock := le_refl 0
  attempts connected := by cases connected
  due connected := by cases connected
  few := Nat.zero_le 3
  apart := List.Pairwise.nil

/-- In every interleaving of the calls a link that is being prepared has a deadline, with
    answers of the clock that count from boot. -/
theorem link_deadline_bounds (config : ClientConfig)
    {actions : List (ThreadAction ClientCall ClientEnv)}
    (clock : ∀ action ∈ actions, Answered (fun env => 0 ≤ env.nowMs) action) :
    AllStates (LinkRun.step config) LinkRun.Bounded (LinkRun.atBoot config) actions ∧
      AllSteps (LinkRun.step config) (LinkRun.CheckCloses config) (LinkRun.atBoot config) actions ∧
      AllSteps (LinkRun.step config) (CallMeets ClosingKept) (LinkRun.atBoot config) actions ∧
      AllStates (LinkRun.step config) LinkRun.FewCommands (LinkRun.atBoot config) actions := by
  obtain ⟨all, kept⟩ := recorded_invariant (body_links config) (I := LinkInvariant)
    (fun call env s s' history => invariant_noted)
    (fun call env s s' history _ links _ => closing_kept links) (invariant_atBoot config) clock
  refine ⟨?_, ?_, kept, ?_⟩
  · exact all_states_mono (fun run inv => inv.bounded) all
  · exact all_steps_of_states (fun run inv action => inv.checkCloses action) all
  · exact all_states_mono (fun run inv => ⟨inv.few, inv.apart⟩) all

/-- A bonded peer connects at 1000 ms, and the worker checks at 95000 ms. -/
def lateCheck : List (ThreadAction ClientCall ClientEnv) :=
  let bonded : ClientEnv := { nowMs := 1000, bondCount := 1, bondList := some [5] }
  [.start (.gattc none (.connect 5 1)), .run 0 bonded, .run 0 bonded, .run 0 bonded, .run 0 bonded,
    .run 0 bonded, .start (.workerTurn 0), .run 1 { nowMs := 95000 }, .run 1 { nowMs := 95000 }]

def lateCheckConfig : ClientConfig where
  enroll := { windowMs := 0, bootHoldMs := 0, buttonDebounceMs := 0 }
  workQueueLength := 16
  maxFragmentSize := 512

theorem link_deadline_bounds_late :
    (AllStates (LinkRun.step lateCheckConfig) LinkRun.Bounded (LinkRun.atBoot lateCheckConfig)
        lateCheck ∧
      AllSteps (LinkRun.step lateCheckConfig) (LinkRun.CheckCloses lateCheckConfig)
        (LinkRun.atBoot lateCheckConfig) lateCheck ∧
      AllSteps (LinkRun.step lateCheckConfig) (CallMeets ClosingKept) (LinkRun.atBoot lateCheckConfig)
        lateCheck ∧
      AllStates (LinkRun.step lateCheckConfig) LinkRun.FewCommands (LinkRun.atBoot lateCheckConfig)
        lateCheck) ∧
      (run (LinkRun.step lateCheckConfig) (LinkRun.atBoot lateCheckConfig) lateCheck).history =
        { latest := 1000, commands := [95000] } ∧
      (run (LinkRun.step lateCheckConfig) (LinkRun.atBoot lateCheckConfig)
        lateCheck).threads.state.closing = true :=
  ⟨link_deadline_bounds lateCheckConfig (by simp [lateCheck, Answered]), by decide +kernel,
    by decide +kernel⟩

end Client
