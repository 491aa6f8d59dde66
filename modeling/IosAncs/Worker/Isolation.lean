import IosAncs.Client.Readiness
import IosAncs.Worker.Parking
import IosAncs.Worker.Sessions
import Mathlib.Data.List.Forall2

/-!
Isolation of the sessions. The order of the queue keeps the sessions apart wherever a
reset announces the next one, even where the reset is lost; a session that a CONNECT
begins is announced to nobody, and is kept apart only by the worker's own looks.
-/
open Runs Sections Outgoing Client

namespace WorkerContext
variable {config : WorkerConfig} {queue : PendingQueue ArrivedEvent ArrivedEvent.uid}
variable {w : WorkerContext config queue}

theorem generation_checkGeneration (current : UInt32) :
    (w.checkGeneration current).generation = current := by
  unfold checkGeneration
  split
  · rfl
  · next same => exact not_not.mp same

theorem generation_finishFailed (errorCode : Int) (recoverStream : Bool) :
    (w.finishFailedActive errorCode recoverStream).generation = w.generation := by
  unfold finishFailedActive
  split
  · dsimp only
    split
    · split <;> rfl
    · split <;> rfl
  · rfl

theorem generation_retry (errorCode : Int) (recoverStream : Bool) (a : RetryAnswers) :
    (w.retryOrFinishActive errorCode recoverStream a).generation = w.generation := by
  unfold retryOrFinishActive
  split
  · rfl
  · split
    · rfl
    · split
      · have written := written_writeActiveControlRequest { w with attempt := w.attempt + 1 } a.write
        dsimp only
        split
        · exact written.generation
        · split
          · exact written.generation
          · exact (generation_finishFailed _ _).trans written.generation
      · exact generation_finishFailed _ _

theorem generation_firstRequest (a : RequestAnswers) :
    (w.firstRequest a).generation = w.generation := by
  have written := written_writeActiveControlRequest w a.write
  unfold firstRequest
  dsimp only
  split
  · exact written.generation
  · split
    · exact (generation_retry _ _ _).trans written.generation
    · exact written.generation

theorem generation_begin (a : RequestAnswers) :
    (w.beginAppNameResolution a).generation = w.generation := by
  unfold beginAppNameResolution
  dsimp only
  split
  · rfl
  · exact generation_firstRequest a

theorem generation_complete : w.completeAppNameResolution.generation = w.generation := by
  unfold completeAppNameResolution
  split <;> rfl

theorem generation_start (a : StartAnswers) : (w.startNextRequest a).generation = w.generation := by
  unfold startNextRequest
  split
  · rfl
  · dsimp only
    split
    · rfl
    · exact generation_firstRequest a.request

theorem generation_event (event : AncsNotificationEvent) (a : EventAnswers) :
    (w.processNotificationEvent event a).generation = w.generation := by
  unfold processNotificationEvent duplicateEvent
  dsimp only
  split
  · rfl
  · split
    · unfold processRemoved publishRemoved
      dsimp only
      split <;> rfl
    · unfold processAdded
      dsimp only
      split <;> rfl

theorem generation_fragment (bytes : List UInt8) (a : RequestAnswers) :
    (w.processDataFragment bytes a).generation = w.generation := by
  have fed : (w.feedActive bytes).1.generation = w.generation := (feedActive_frame bytes).2.2.2.2
  unfold processDataFragment
  split
  · rfl
  · dsimp only
    split
    · exact fed
    · split
      · exact fed
      · split
        · exact (generation_begin a).trans fed
        · exact generation_complete.trans fed
    · split
      · exact fed
      · exact (generation_retry _ _ _).trans fed

theorem generation_writeResult (status : Int) (a : RetryAnswers) :
    (w.processWriteResult status a).generation = w.generation := by
  unfold processWriteResult
  split
  · rfl
  · split
    · rfl
    · exact generation_retry _ _ _

theorem generation_checkDeadline (nowMs : Int) (a : RetryAnswers) :
    (w.checkDeadline nowMs a).generation = w.generation := by
  unfold checkDeadline
  split
  · split
    · rfl
    · exact generation_retry _ _ _
  · rfl

end WorkerContext

/-- An item as one of the messages of its session; a reset is the marker of its session. -/
def WorkItem.stamp (session : Nat) (item : WorkItem) : Epochs.Stamp where
  epoch := session
  marker := decide (item.data = .reset)

namespace WorkerPosition

def hand : WorkerPosition → List Epochs.Stamp
  | .holding item session => [item.stamp session]
  | .starting | .head | .receiving | .finishing => []

def attends : WorkerPosition → Bool
  | .receiving | .holding _ _ => true
  | .starting | .head | .finishing => false

end WorkerPosition

namespace SessionSystem
variable {config : SessionConfig}

def wrapped (session : Nat) : UInt32 := UInt32.ofNat session

theorem wrapped_succ (session : Nat) : wrapped (session + 1) = wrapped session + 1 :=
  UInt32.ofNat_add session 1

theorem wrapped_inj {earlier later : Nat} (same : wrapped earlier = wrapped later)
    (order : earlier ≤ later) (near : later < earlier + 2 ^ 32) : earlier = later := by
  have values := congrArg UInt32.toNat same
  simp only [wrapped, UInt32.toNat_ofNat'] at values
  omega

def channel (sys : SessionSystem config) (owed : Bool) : Epochs.State where
  epoch := sys.session
  announced := !sys.begunByConnect
  owed
  onTheWay := sys.position.hand ++
    List.zipWith WorkItem.stamp sys.sessions sys.client.waitingWork
  looked := sys.looked
  entered := sys.entered
  attending := sys.position.attends
  accepted := sys.accepted

structure InStep (sys : SessionSystem config) (owed : Bool) : Prop where
  speaks : Follows Fits Turn Paid { generation := sys.client.generation, owed } sys.bluetooth
  ordered : Epochs.Ordered (sys.channel owed)
  sides : ∀ program ∈ sys.sides, Keeps program
  generation : sys.client.generation = wrapped sys.session
  looked : sys.worker.generation = wrapped sys.looked
  entered : sys.worker.generation = wrapped sys.entered
  queue : ∃ items, sys.client.workQueue = some { length := config.workQueueLength, items }
  stamped : List.Forall₂ (fun session (item : WorkItem) => item.generation = wrapped session)
    sys.sessions sys.client.waitingWork
  held : ∀ item session, sys.position = .holding item session → item.generation = wrapped session

theorem waitingWork_congr {s s' : ClientContext} (same : s'.workQueue = s.workQueue) :
    s'.waitingWork = s.waitingWork := by
  unfold ClientContext.waitingWork
  rw [same]

variable {sys : SessionSystem config} {owed : Bool}

theorem afterSection_keep {client : ClientContext} (same : outgoing client = outgoing sys.client) :
    sys.afterSection client = { sys with client } := by
  have generation : client.generation = sys.client.generation := congrArg Prod.fst same
  have waiting := waitingWork_congr (congrArg Prod.snd same : client.workQueue = _)
  simp [afterSection, generation, waiting]

theorem afterSection_begin {client : ClientContext}
    (next : client.generation = sys.client.generation + 1)
    (queue : client.workQueue = sys.client.workQueue) :
    sys.afterSection client = { sys with
      client
      session := sys.session + 1
      begunByConnect := connects sys.client client } := by
  have waiting := waitingWork_congr queue
  simp [afterSection, next, waiting]

theorem inStep_keep (inStep : InStep sys owed) {client : ClientContext}
    (same : outgoing client = outgoing sys.client) {rest : Client Unit}
    (follows : Follows Fits Turn Paid { generation := sys.client.generation, owed } rest)
    {sides : List (Client Unit)} (quiet : ∀ program ∈ sides, Keeps program) :
    InStep { sys with client, bluetooth := rest, sides } owed := by
  have generation : client.generation = sys.client.generation := congrArg Prod.fst same
  have queue : client.workQueue = sys.client.workQueue := congrArg Prod.snd same
  have waiting := waitingWork_congr queue
  constructor
  · rw [generation]
    exact follows
  · have ordered := inStep.ordered
    unfold channel at ordered ⊢
    dsimp only
    rw [waiting]
    exact ordered
  · exact quiet
  · rw [generation]
    exact inStep.generation
  · exact inStep.looked
  · exact inStep.entered
  · rw [queue]
    exact inStep.queue
  · rw [waiting]
    exact inStep.stamped
  · exact inStep.held

theorem inStep_begin (inStep : InStep sys false) {client : ClientContext}
    (next : client.generation = sys.client.generation + 1)
    (queue : client.workQueue = sys.client.workQueue) {rest : Client Unit}
    (silent : connects sys.client client = !owed)
    (follows : Follows Fits Turn Paid { generation := sys.client.generation + 1, owed } rest) :
    InStep { sys.afterSection client with bluetooth := rest } owed := by
  have waiting := waitingWork_congr queue
  rw [afterSection_begin next queue]
  constructor
  · rw [next]
    exact follows
  · have ordered := Epochs.ordered_begin inStep.ordered owed
    unfold channel at ordered ⊢
    dsimp only at ordered ⊢
    rw [waiting, silent, Bool.not_not]
    exact ordered
  · exact inStep.sides
  · rw [next, inStep.generation]
    exact (wrapped_succ sys.session).symm
  · exact inStep.looked
  · exact inStep.entered
  · rw [queue]
    exact inStep.queue
  · rw [waiting]
    exact inStep.stamped
  · exact inStep.held

theorem sent_cases {length : Nat} {items : List WorkItem} (item : WorkItem) :
    (sent item (some { length, items }) = some { length, items := items ++ [item] }) ∨
      (sent item (some { length, items }) = some { length, items } ∧ length ≤ items.length) := by
  unfold sent
  dsimp only
  split
  · exact Or.inl rfl
  · next full => exact Or.inr ⟨rfl, Nat.le_of_not_lt full⟩

theorem waitingWork_some {s : ClientContext} {length : Nat} {items : List WorkItem}
    (queue : s.workQueue = some { length, items }) : s.waitingWork = items := by
  unfold ClientContext.waitingWork
  rw [queue]

theorem inStep_sent (inStep : InStep sys owed) {client : ClientContext} {items : List WorkItem}
    {data : WorkItemData} (debt : owed = decide (data = .reset))
    (same : client.generation = sys.client.generation)
    (before : sys.client.workQueue = some { length := config.workQueueLength, items })
    (after : client.workQueue = some {
      length := config.workQueueLength
      items := items ++ [{ generation := sys.client.generation, data }] }) {rest : Client Unit}
    (follows : Follows Fits Turn Paid { generation := sys.client.generation, owed := false } rest) :
    InStep { sys.afterSection client with bluetooth := rest } false := by
  have waited := waitingWork_some before
  have waits := waitingWork_some after
  have section_ : sys.afterSection client = { sys with
      client
      sessions := sys.sessions ++ [sys.session] } := by
    simp [afterSection, same, waited, waits]
  have stamped := inStep.stamped
  rw [waited] at stamped
  rw [section_]
  constructor
  · rw [same]
    exact follows
  · have ordered := Epochs.ordered_sent inStep.ordered owed rfl
    unfold channel at ordered ⊢
    dsimp only at ordered ⊢
    rw [waited] at ordered
    rw [waits, List.zipWith_append stamped.length_eq, ← List.append_assoc]
    rw [debt] at ordered
    exact ordered
  · exact inStep.sides
  · rw [same]
    exact inStep.generation
  · exact inStep.looked
  · exact inStep.entered
  · exact ⟨_, after⟩
  · rw [waits]
    exact List.rel_append stamped (List.Forall₂.cons inStep.generation List.Forall₂.nil)
  · exact inStep.held

/-- A reset is lost only to a full queue, so that older items are still in front. -/
theorem inStep_full (inStep : InStep sys owed) {client : ClientContext} {items : List WorkItem}
    (same : outgoing client = outgoing sys.client)
    (before : sys.client.workQueue = some { length := config.workQueueLength, items })
    (full : config.workQueueLength ≤ items.length) {rest : Client Unit}
    (follows : Follows Fits Turn Paid { generation := sys.client.generation, owed := false } rest) :
    InStep { sys.afterSection client with bluetooth := rest } false := by
  have ordered : Epochs.Ordered (sys.channel false) := by
    cases owes : owed with
    | false =>
      have ordered := inStep.ordered
      rw [owes] at ordered
      exact ordered
    | true =>
      apply Epochs.ordered_lost inStep.ordered owes
      intro empty
      have lengths := inStep.stamped.length_eq
      have none_ := congrArg List.length empty
      have wide := config.workQueueLength_range
      have waited := congrArg List.length (waitingWork_some before)
      simp only [channel, List.length_append, List.length_zipWith, List.length_nil] at none_
      omega
  have lost : InStep { sys with bluetooth := rest } false :=
    { inStep with speaks := follows, ordered }
  rw [afterSection_keep same]
  exact inStep_keep lost same follows inStep.sides

theorem inStep_section (inStep : InStep sys owed) {client : ClientContext} {phase : Phase}
    (turn : Turn { generation := sys.client.generation, owed } sys.client client phase)
    {rest : Client Unit} (follows : Follows Fits Turn Paid phase rest) :
    InStep { sys.afterSection client with bluetooth := rest } phase.owed := by
  cases turn with
  | keep same =>
    rw [afterSection_keep same]
    exact inStep_keep inStep same follows inStep.sides
  | begin owes paid next queue silent =>
    have paid : owed = false := paid
    subst paid
    exact inStep_begin inStep next queue silent follows
  | send data debt same queue =>
    obtain ⟨items, before⟩ := inStep.queue
    rw [before] at queue
    rcases sent_cases { generation := sys.client.generation, data } with room | ⟨kept, full⟩
    · exact inStep_sent inStep debt same before (queue.trans room) follows
    · have unchanged : outgoing client = outgoing sys.client :=
        Prod.ext same ((queue.trans kept).trans before.symm)
      exact inStep_full inStep unchanged before full follows

def Handles (sys : SessionSystem config) (action : SessionAction) (item : WorkItem)
    (session : Nat) : Prop :=
  sys.position = .holding item session ∧ ∃ turn, action = .work turn

def Resets (sys : SessionSystem config) (action : SessionAction) : Prop :=
  (sys.position = .head ∧ (∃ turn, action = .work turn) ∧
      sys.worker.generation ≠ sys.client.generation) ∨
    ∃ item session, sys.Handles action item session ∧ item.data = .reset ∧
      item.generation = sys.client.generation

structure Isolated (sys : SessionSystem config) (action : SessionAction) : Prop where
  /-- an item changes the worker only in its session, and after the worker was reset to it -/
  changes : ∀ item session, sys.Handles action item session → item.data ≠ .reset →
    (sys.step action).worker ≠ sys.worker → session = sys.session ∧ sys.entered = sys.session
  /-- the same of an item that is processed without a change -/
  processed : ∀ item session, sys.Handles action item session →
    item.generation = sys.client.generation →
      session = sys.session ∧ (item.data ≠ .reset → sys.entered = sys.session)
  stale : ∀ item session, sys.Handles action item session → session ≠ sys.session →
    (sys.step action).worker = sys.worker
  /-- a reset finds no event that was accepted in the session it is for -/
  kept : sys.Resets action → sys.session ∉ sys.accepted

/-- An item that passes the comparison is not taken between a CONNECT and the worker's
    next look, and no generation has come round since it was sent and since the worker was
    last reset. -/
def Attended (sys : SessionSystem config) (action : SessionAction) : Prop :=
  ∀ item session, sys.Handles action item session → item.generation = sys.client.generation →
    sys.session < session + 2 ^ 32 ∧
      (item.data ≠ .reset → sys.session < sys.entered + 2 ^ 32 ∧
        (sys.begunByConnect = true → sys.looked = sys.session))

theorem onTheWay_holding {item : WorkItem} {session : Nat}
    (position : sys.position = .holding item session) (owed : Bool) :
    (sys.channel owed).onTheWay = item.stamp session ::
      List.zipWith WorkItem.stamp sys.sessions sys.client.waitingWork := by
  simp [channel, position, WorkerPosition.hand]

theorem attending_holding {item : WorkItem} {session : Nat}
    (position : sys.position = .holding item session) (owed : Bool) :
    (sys.channel owed).attending = true := by
  simp [channel, position, WorkerPosition.attends]

theorem session_current (inStep : InStep sys owed) {item : WorkItem} {session : Nat}
    (position : sys.position = .holding item session)
    (passes : item.generation = sys.client.generation) (near : sys.session < session + 2 ^ 32) :
    session = sys.session := by
  have numbers : wrapped session = wrapped sys.session := by
    rw [← inStep.held item session position, passes, inStep.generation]
  have begun := inStep.ordered.begun (item.stamp session) (by simp [onTheWay_holding position])
  exact wrapped_inj numbers begun near

theorem entered_current (inStep : InStep sys owed) {item : WorkItem} {session : Nat}
    (position : sys.position = .holding item session) (current : session = sys.session)
    (message : item.data ≠ .reset) (near : sys.session < sys.entered + 2 ^ 32)
    (attended : sys.begunByConnect = true → sys.looked = sys.session) :
    sys.entered = sys.session := by
  have looked : sys.looked = sys.session := by
    apply Epochs.looked_of_next inStep.ordered (attending_holding position owed)
      (onTheWay_holding position owed)
    · exact decide_eq_false message
    · exact current
    · intro silent
      exact attended (by simpa [channel] using silent)
  have numbers : wrapped sys.entered = wrapped sys.session := by
    rw [← inStep.entered, inStep.looked, looked]
  have order : sys.entered ≤ sys.session := by
    rw [← looked]
    exact inStep.ordered.entered_le
  exact wrapped_inj numbers order near

theorem unaccepted_of_resets (inStep : InStep sys owed) {action : SessionAction}
    (resets : sys.Resets action) : sys.session ∉ sys.accepted := by
  rcases resets with ⟨_, _, differs⟩ | ⟨item, session, ⟨position, _⟩, reset, _⟩
  · apply Epochs.unaccepted_of_entering inStep.ordered
    intro same
    have same : sys.entered = sys.session := same
    exact differs (by rw [inStep.entered, inStep.generation, same])
  · exact Epochs.unaccepted_of_marker inStep.ordered (onTheWay_holding position owed)
      (decide_eq_true reset)

theorem worker_of_mismatch {action : SessionAction} {item : WorkItem} {session : Nat}
    (handles : sys.Handles action item session)
    (fails : item.generation ≠ sys.client.generation) :
    (sys.step action).worker = sys.worker := by
  obtain ⟨position, turn, rfl⟩ := handles
  simp [step, work, position, handle, fails]

theorem isolated_iff_attended (inStep : InStep sys owed) (action : SessionAction) :
    Isolated sys action ↔ Attended sys action := by
  constructor
  · intro isolated item session handles passes
    obtain ⟨current, entered⟩ := isolated.processed item session handles passes
    refine ⟨by omega, ?_⟩
    intro message
    have entered := entered message
    have order : sys.entered ≤ sys.looked := inStep.ordered.entered_le
    have begun : sys.looked ≤ sys.session := inStep.ordered.looked_le
    exact ⟨by omega, fun _ => by omega⟩
  · intro attended
    have processed : ∀ item session, sys.Handles action item session →
        item.generation = sys.client.generation →
          session = sys.session ∧ (item.data ≠ .reset → sys.entered = sys.session) := by
      intro item session handles passes
      obtain ⟨near, message⟩ := attended item session handles passes
      have current := session_current inStep handles.1 passes near
      refine ⟨current, ?_⟩
      intro plain
      obtain ⟨round, looked⟩ := message plain
      exact entered_current inStep handles.1 current plain round looked
    refine ⟨?_, processed, ?_, unaccepted_of_resets inStep⟩
    · intro item session handles message changes
      by_cases passes : item.generation = sys.client.generation
      · have current := processed item session handles passes
        exact ⟨current.1, current.2 message⟩
      · exact absurd (worker_of_mismatch handles passes) changes
    · intro item session handles stale
      apply worker_of_mismatch handles
      intro passes
      exact stale (processed item session handles passes).1

theorem inStep_startWorker (inStep : InStep sys owed) (position : sys.position = .starting) :
    InStep sys.startWorker owed where
  speaks := inStep.speaks
  ordered := by
    have looked := Epochs.ordered_look inStep.ordered true
    have idle := Epochs.ordered_idle looked
    unfold channel at idle ⊢
    rw [position] at idle
    exact idle
  sides := inStep.sides
  generation := inStep.generation
  looked := inStep.generation
  entered := inStep.generation
  queue := inStep.queue
  stamped := inStep.stamped
  held := nofun

theorem inStep_look (inStep : InStep sys owed) (position : sys.position = .head) :
    InStep sys.look owed where
  speaks := inStep.speaks
  ordered := by
    have looked := Epochs.ordered_look inStep.ordered
      (decide (sys.worker.generation ≠ sys.client.generation))
    unfold channel at looked ⊢
    rw [position] at looked
    simp only [decide_eq_true_eq] at looked
    exact looked
  sides := inStep.sides
  generation := inStep.generation
  looked := by
    rw [← show sys.client.generation = wrapped sys.look.looked from inStep.generation]
    exact WorkerContext.generation_checkGeneration _
  entered := by
    have checked : sys.look.worker.generation = sys.client.generation :=
      WorkerContext.generation_checkGeneration _
    rw [checked]
    unfold look
    dsimp only
    split
    · exact inStep.generation
    · next same => rw [← not_not.mp same, inStep.entered]
  queue := inStep.queue
  stamped := inStep.stamped
  held := nofun

theorem inStep_receive (inStep : InStep sys owed) (position : sys.position = .receiving) :
    InStep sys.receive owed := by
  obtain ⟨items, queue⟩ := inStep.queue
  have waiting := waitingWork_some queue
  cases items with
  | nil =>
    have received : sys.receive = { sys with position := .finishing } := by
      simp [receive, queue]
    rw [received]
    have idle := Epochs.ordered_idle inStep.ordered
    refine { inStep with ordered := ?_, held := nofun }
    unfold channel at idle ⊢
    rw [position] at idle
    exact idle
  | cons item rest =>
    have stamped := inStep.stamped
    rw [waiting] at stamped
    obtain ⟨session, sessions, current, later, same⟩ := List.forall₂_cons_right_iff.mp stamped
    have received : sys.receive = { sys with
        client := { sys.client with
          workQueue := some { length := config.workQueueLength, items := rest } }
        position := .holding item session
        sessions := sessions } := by
      simp [receive, queue, same]
    rw [received]
    constructor
    · exact inStep.speaks
    · have ordered := inStep.ordered
      unfold channel at ordered ⊢
      rw [position, waiting, same] at ordered
      exact ordered
    · exact inStep.sides
    · exact inStep.generation
    · exact inStep.looked
    · exact inStep.entered
    · exact ⟨rest, rfl⟩
    · exact later
    · intro held number holds
      obtain ⟨rfl, rfl⟩ := WorkerPosition.holding.inj holds
      exact current

theorem generation_item (turn : WorkerTurn) {item : WorkItem} (message : item.data ≠ .reset)
    (w : AncsWorker config.worker) : (w.step (turn.itemStep item)).generation = w.generation := by
  unfold WorkerTurn.itemStep
  cases data : item.data with
  | event event => exact WorkerContext.generation_event event turn.event
  | fragment bytes => exact WorkerContext.generation_fragment bytes turn.fragment
  | writeResult status => exact WorkerContext.generation_writeResult status turn.writeResult
  | reset => exact absurd data message

theorem inStep_handled (inStep : InStep sys owed) {item : WorkItem} {session : Nat}
    (position : sys.position = .holding item session) {worker : AncsWorker config.worker}
    (same : worker.generation = sys.worker.generation) {next : WorkerPosition}
    (away : next.hand = [] ∧ next.attends = false) :
    InStep { sys with worker, position := next } owed where
  speaks := inStep.speaks
  ordered := by
    have handled := Epochs.ordered_handled inStep.ordered (onTheWay_holding position owed)
    unfold channel at handled ⊢
    dsimp only at handled ⊢
    rw [away.1, away.2]
    exact handled
  sides := inStep.sides
  generation := inStep.generation
  looked := same.trans inStep.looked
  entered := same.trans inStep.entered
  queue := inStep.queue
  stamped := inStep.stamped
  held := by
    intro held number holds
    have holds : next = .holding held number := holds
    rw [holds] at away
    cases away.1

theorem inStep_accepted (inStep : InStep sys owed) {item : WorkItem} {session : Nat}
    (position : sys.position = .holding item session) (entered : session ≤ sys.entered)
    {worker : AncsWorker config.worker} (same : worker.generation = sys.worker.generation) :
    InStep { sys with worker, position := .finishing, accepted := session :: sys.accepted } owed := by
  have handled : InStep { sys with worker, position := .finishing } owed :=
    inStep_handled inStep position same ⟨rfl, rfl⟩
  exact { handled with
    ordered := Epochs.ordered_accepted inStep.ordered (onTheWay_holding position owed) entered
    held := nofun }

theorem inStep_reset (inStep : InStep sys owed) {item : WorkItem} {session : Nat}
    (position : sys.position = .holding item session)
    (passes : item.generation = sys.client.generation) :
    InStep { sys with
      worker := sys.worker.resetWorkerSession item.generation
      position := .finishing
      looked := sys.session
      entered := sys.session } owed where
  speaks := inStep.speaks
  ordered := Epochs.ordered_entered inStep.ordered (onTheWay_holding position owed)
  sides := inStep.sides
  generation := inStep.generation
  looked := passes.trans inStep.generation
  entered := passes.trans inStep.generation
  queue := inStep.queue
  stamped := inStep.stamped
  held := nofun

theorem inStep_handle (inStep : InStep sys owed) (turn : WorkerTurn) {item : WorkItem} {session : Nat}
    (position : sys.position = .holding item session) (attended : Attended sys (.work turn)) :
    InStep (sys.handle turn item session) owed := by
  unfold handle
  split
  · exact inStep_handled inStep position rfl ⟨rfl, rfl⟩
  · next passes =>
    have passes := not_not.mp passes
    have handles : sys.Handles (.work turn) item session := ⟨position, turn, rfl⟩
    have isolated := (isolated_iff_attended inStep (.work turn)).mpr attended
    have processed := isolated.processed item session handles passes
    have same : item.data ≠ .reset →
        (sys.worker.step (turn.itemStep item)).generation = sys.worker.generation :=
      fun message => generation_item turn message sys.worker
    cases data : item.data with
    | reset =>
      have reset : sys.worker.step (turn.itemStep item) =
          sys.worker.resetWorkerSession item.generation := by
        simp only [WorkerTurn.itemStep, data]
        rfl
      dsimp only
      rw [reset]
      exact inStep_reset inStep position passes
    | event event =>
      have message : item.data ≠ .reset := by simp [data]
      dsimp only
      split
      · exact inStep_handled inStep position (same message) ⟨rfl, rfl⟩
      · have entered := processed.2 message
        exact inStep_accepted inStep position (by omega) (same message)
    | fragment bytes =>
      exact inStep_handled inStep position (same (by simp [data])) ⟨rfl, rfl⟩
    | writeResult status =>
      exact inStep_handled inStep position (same (by simp [data])) ⟨rfl, rfl⟩

theorem inStep_finish (inStep : InStep sys owed) (turn : WorkerTurn) (position : sys.position = .finishing) :
    InStep (sys.finish turn) owed := by
  have same : (sys.finish turn).worker.generation = sys.worker.generation :=
    (WorkerContext.generation_start _).trans (WorkerContext.generation_checkDeadline _ _)
  constructor
  · exact inStep.speaks
  · have ordered := inStep.ordered
    unfold channel at ordered ⊢
    rw [position] at ordered
    exact ordered
  · exact inStep.sides
  · exact inStep.generation
  · exact same.trans inStep.looked
  · exact same.trans inStep.entered
  · exact inStep.queue
  · exact inStep.stamped
  · exact nofun

theorem inStep_work (inStep : InStep sys owed) (turn : WorkerTurn)
    (attended : Attended sys (.work turn)) : InStep (sys.work turn) owed := by
  unfold work
  cases position : sys.position with
  | starting => exact inStep_startWorker inStep position
  | head => exact inStep_look inStep position
  | receiving => exact inStep_receive inStep position
  | holding item session => exact inStep_handle inStep turn position attended
  | finishing => exact inStep_finish inStep turn position

theorem speaks_event (event : BluetoothEvent) (maxFragmentSize : Nat) :
    Speaks (event.body maxFragmentSize) := by
  cases event with
  | gap event => exact speaks_gapEventHandler event
  | gattc gattcIf event => exact speaks_gattcCallback maxFragmentSize gattcIf event

theorem keeps_sideCall (call : SideCall) : Keeps call.body := by
  apply keeps_of_makes
  cases call with
  | advertisingRetry => exact makes_startAdvertising trivial trivial
  | enrollTimeout => exact makes_enrollTimeoutCallback alike_plain
  | enrollButton => exact makes_enrollButtonCallback alike_plain fun _ => trivial
  | discoveryRetry => exact makes_discoveryRetryCallback alike_plain trivial
  | requestEnroll => exact makes_discard (makes_requestEnroll alike_plain fun _ => trivial)
  | replaceEnrollment confirmed =>
    exact makes_discard (makes_replaceEnrollment alike_plain alike_replaces confirmed
      (fun _ _ => trivial) (fun _ => trivial) (fun _ => trivial) fun _ => trivial)
  | setPairingAllowed allowed => exact makes_setPairingAllowed alike_plain allowed fun _ _ => trivial
  | startAdvertising => exact makes_discard (makes_startAdvertisingCall alike_plain)
  | stopAdvertising => exact makes_stopAdvertising trivial
  | checkConnectionDeadline => exact makes_checkConnectionDeadline alike_plain trivial fun _ => trivial
  | recoverDataStream => exact makes_recoverDataStream alike_plain trivial

theorem inStep_side (inStep : InStep sys owed) (thread : Nat) (env : ClientEnv) :
    InStep (sys.step (.side thread env)) owed := by
  simp only [step]
  split
  · next label update next found =>
    have section_ := inStep.sides _ (List.mem_of_getElem? found) env sys.client
    rw [afterSection_keep section_.1]
    apply inStep_keep inStep section_.1 inStep.speaks
    intro program member
    rcases List.mem_or_eq_of_mem_set member with old | rfl
    · exact inStep.sides program old
    · exact section_.2
  · exact inStep

theorem inStep_step (inStep : ∃ owed, InStep sys owed) (action : SessionAction)
    (attended : Attended sys action) : ∃ owed, InStep (sys.step action) owed := by
  obtain ⟨owed, inStep⟩ := inStep
  cases action with
  | event event =>
    have speaks := inStep.speaks
    simp only [step]
    split
    · next idle =>
      rw [idle] at speaks
      have paid : owed = false := speaks
      subst paid
      exact ⟨false, { inStep with speaks := speaks_event event config.maxFragmentSize _ }⟩
    · exact ⟨owed, inStep⟩
  | bluetooth env =>
    have speaks := inStep.speaks
    simp only [step]
    split
    · exact ⟨owed, inStep⟩
    · next label update next running =>
      rw [running] at speaks
      obtain ⟨phase, turn, goes⟩ := speaks env sys.client rfl
      exact ⟨phase.owed, inStep_section inStep turn goes⟩
  | call call =>
    refine ⟨owed, { inStep with sides := ?_ }⟩
    intro program member
    rcases List.mem_append.mp member with old | new
    · exact inStep.sides program old
    · rw [List.mem_singleton.mp new]
      exact keeps_sideCall call
  | side thread env => exact ⟨owed, inStep_side inStep thread env⟩
  | work turn => exact ⟨owed, inStep_work inStep turn attended⟩

theorem inStep_boot (config : SessionConfig) (client : ClientContext) :
    InStep (boot config client) false where
  speaks := rfl
  ordered := Epochs.ordered_start 0 true false
  sides := by simp [boot]
  generation := rfl
  looked := rfl
  entered := rfl
  queue := ⟨[], rfl⟩
  stamped := List.Forall₂.nil
  held := nofun

/-- In every run of the Bluetooth task, the timers, the public calls and the worker, the
    sessions are isolated in every step exactly when no item that passes the comparison is
    taken between the CONNECT of its session and the worker's next look, and no generation
    comes round. -/
theorem isolated_iff_no_unseen_connect (config : SessionConfig) (client : ClientContext)
    (actions : List SessionAction) :
    AllSteps step Isolated (boot config client) actions ↔
      AllSteps step Attended (boot config client) actions := by
  apply all_steps_congr (J := fun sys => ∃ owed, InStep sys owed)
  · intro sys action inStep attended
    exact inStep_step inStep action attended
  · intro sys action inStep
    obtain ⟨owed, inStep⟩ := inStep
    exact isolated_iff_attended inStep action
  · exact ⟨false, inStep_boot config client⟩

/-- The callbacks for a bonded phone that connects, is taken through the discovery of its
    services and adds a notification, and what the stack answers in each of them. -/
def connectingPhone : List (BluetoothEvent × ClientEnv) :=
  let answers := Readiness.setupEnv 0
  let later := Readiness.setupEnv 14
  [(.gattc (some 3) (.reg true), answers), (.gattc (some 3) (.connect 1 1), answers),
    (.gattc (some 3) (.open 1 1 true), answers), (.gap (.authCmpl 1 true 0), answers),
    (.gattc (some 3) (.cfgMtu 1), answers), (.gattc (some 3) (.searchRes 1 true 1 9), answers),
    (.gattc (some 3) (.searchCmpl 1 true), answers),
    (.gattc (some 3) (.regForNotify 7 true), answers),
    (.gattc (some 3) (.writeDescr 1 8 true), answers),
    (.gattc (some 3) (.regForNotify 2 true), later), (.gattc (some 3) (.writeDescr 1 3 true), later),
    (.gattc (some 3) (.notify 1 2 [0, 0, 0, 1, 7, 0, 0, 0]), later)]

def workerAnswers : WorkerTurn := WorkerParking.turnWith .reset WorkerParking.readyClient

/-- The worker looks at the generation and waits for an item while the phone connects; it
    receives the event of the new session before it looks again. -/
def connectUnseen : List SessionAction :=
  [.work workerAnswers, .work workerAnswers] ++
    connectingPhone.flatMap (fun (event, env) => .event event :: List.replicate 12 (.bluetooth env)) ++
    [.work workerAnswers]

def unseenSession : SessionSystem SessionConfig.default :=
  run step (boot SessionConfig.default (ClientContext.boot Readiness.defaultConfig.enroll))
    connectUnseen

theorem unseen_connect_is_not_isolated :
    ¬ AllSteps step Isolated
      (boot SessionConfig.default (ClientContext.boot Readiness.defaultConfig.enroll))
      (connectUnseen ++ [.work workerAnswers]) := by
  intro all
  have last : Isolated unseenSession (.work workerAnswers) :=
    ((all_steps_append _ _ _ _ _).mp all).2.1
  let item : WorkItem := { generation := 1, data := .event WorkerParking.addedEvent }
  have handles : unseenSession.Handles (.work workerAnswers) item 1 :=
    ⟨by decide +kernel, workerAnswers, rfl⟩
  have changes : (unseenSession.step (.work workerAnswers)).worker ≠ unseenSession.worker := by
    intro same
    have counts := congrArg WorkerContext.processed same
    exact absurd counts (by decide +kernel)
  have entered := (last.changes item 1 handles nofun changes).2
  exact absurd entered (by decide +kernel)

end SessionSystem
