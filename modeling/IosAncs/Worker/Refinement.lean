import IosAncs.Worker.Desk

/-!
The worker moves at the desk. Each of its functions takes the desk to where a
sequence of moves takes it; a request is given up only under conditions on what the
function reads, which are named here.
-/
open AncsProtocol Relation Runs

namespace WorkerContext
variable {config : WorkerConfig} {queue : PendingQueue ArrivedEvent ArrivedEvent.uid}

def slot (w : WorkerContext config queue) : DeskSlot config.limits where
  request := w.requests
  source := w.activeEvent
  canceled := w.activeCanceled
  kind := w.activeRequestKind
  attempt := w.attempt
  notification := w.activeNotification

def desk (w : WorkerContext config queue) : Desk config.limits where
  pending := queue.pending w.pending
  slot := if w.active then some w.slot else none
  processed := w.processed
  requests := w.requests
  trace := w.trace

def WriteRefused (w : WorkerContext config queue) (a : WriteAnswers) : Prop :=
  w.connectionValid a.client = false ∨ a.error = espErrInvalidState

/-- `retry_or_finish_active` gives the request up. -/
def RetryAbandons (w : WorkerContext config queue) (a : RetryAnswers) : Prop :=
  a.client.ready = false ∨ (w.attempt = 0 ∧ w.WriteRefused a.write)

/-- The first write of a phase is refused, or fails, and the retry gives the request up. -/
def FirstAbandons (w : WorkerContext config queue) (a : RequestAnswers) : Prop :=
  w.WriteRefused a.write ∨
    (a.write.error ≠ espOk ∧ (a.retry.client.ready = false ∨ w.WriteRefused a.retry.write))

def NeedsName (w : WorkerContext config queue) : Prop :=
  (w.appResolver.begin w.activeNotification.appId w.activeNotification.appName).2.2 = .requestNative

structure Settled (w : WorkerContext config queue) : Prop where
  wellEnded : w.active = true → w.activeRequestKind = .notificationAttributes →
    DataParsing.WellEnded { parser := w.parser, notification := w.activeNotification }
  nameable : w.active = true → w.activeRequestKind = .appAttributes →
    AncsAppResolver.boundedText w.activeNotification.appId = true
  /-- the deadline is that of a write of this phase which the stack took -/
  armed : w.active = true → ∃ bytes, .requested w.requests w.activeEvent w.activeRequestKind bytes
    (some w.deadlineMs) ∈ w.trace

theorem settled_of_idle {w : WorkerContext config queue} (idle : w.active = false) : Settled w where
  wellEnded active := by simp [idle] at active
  nameable active := by simp [idle] at active
  armed active := by simp [idle] at active

theorem desk_slot {w : WorkerContext config queue} (active : w.active = true) :
    w.desk.slot = some w.slot := if_pos active

theorem desk_idle {w : WorkerContext config queue} (idle : w.active = false) :
    w.desk = { w.desk with slot := none } := by
  simp [desk, idle]

section Write
variable (w : WorkerContext config queue) (a : WriteAnswers)

structure Written (w' : WorkerContext config queue) : Prop where
  generation : w'.generation = w.generation
  pending : w'.pending = w.pending
  active : w'.active = w.active
  canceled : w'.activeCanceled = w.activeCanceled
  kind : w'.activeRequestKind = w.activeRequestKind
  attempt : w'.attempt = w.attempt
  event : w'.activeEvent = w.activeEvent
  processed : w'.processed = w.processed
  requests : w'.requests = w.requests
  same : w.activeRequestKind = .appAttributes →
    w.activeNotification.SameButName w'.activeNotification
  trace : ∃ asked, w'.trace = w.slot.asked w.trace asked

theorem written_self : Written w w :=
  ⟨rfl, rfl, rfl, rfl, rfl, rfl, rfl, rfl, rfl, fun _ => rfl, none, rfl⟩

theorem written_initParser : Written w (w.initParser a) := by
  unfold initParser
  split
  · next kind =>
    refine ⟨rfl, rfl, rfl, rfl, rfl, rfl, rfl, rfl, rfl, ?_, none, rfl⟩
    intro app
    cases kind.symm.trans app
  · refine ⟨rfl, rfl, rfl, rfl, rfl, rfl, rfl, rfl, rfl, ?_, none, rfl⟩
    intro _
    exact AppDataParsing.same_init w.activeNotification

theorem trace_initParser : (w.initParser a).trace = w.trace := by
  unfold initParser
  split <;> rfl

theorem written_writeRequest (bytes : List UInt8) : Written w (w.writeRequest bytes a) := by
  unfold writeRequest
  dsimp only
  split
  · exact ⟨rfl, rfl, rfl, rfl, rfl, rfl, rfl, rfl, rfl, fun _ => rfl, some (bytes, some _), rfl⟩
  · exact ⟨rfl, rfl, rfl, rfl, rfl, rfl, rfl, rfl, rfl, fun _ => rfl, some (bytes, none), rfl⟩

theorem asked_congr {s t : DeskSlot config.limits} (request : t.request = s.request)
    (source : t.source = s.source) (kind : t.kind = s.kind)
    (trace : List (WorkerEffect config.limits)) (asked : Option (List UInt8 × Option Int)) :
    t.asked trace asked = s.asked trace asked := by
  cases asked with
  | none => rfl
  | some answer => simp only [DeskSlot.asked, request, source, kind]

theorem written_writeActiveControlRequest : Written w (w.writeActiveControlRequest a).1 := by
  unfold writeActiveControlRequest
  split
  · exact written_self w
  · next bytes built =>
    split
    · exact written_self w
    · have first := written_initParser w a
      have second := written_writeRequest (w.initParser a) a bytes
      obtain ⟨asked, trace⟩ := second.trace
      constructor
      · exact second.generation.trans first.generation
      · exact second.pending.trans first.pending
      · exact second.active.trans first.active
      · exact second.canceled.trans first.canceled
      · exact second.kind.trans first.kind
      · exact second.attempt.trans first.attempt
      · exact second.event.trans first.event
      · exact second.processed.trans first.processed
      · exact second.requests.trans first.requests
      · intro app
        exact AncsNotification.same_but_name_trans (first.same app)
          (second.same (first.kind.trans app))
      · refine ⟨asked, ?_⟩
        rw [trace, trace_initParser]
        exact asked_congr first.requests first.event first.kind w.trace asked

theorem controlRequest_notification (kind : w.activeRequestKind = .notificationAttributes) :
    ∃ bytes, w.controlRequest = .ok bytes := by
  have room := config.limits.appId_range.1
  have fits : ¬ controlRequestMax config.limits < 17 := by
    unfold controlRequestMax
    omega
  simp [controlRequest, kind, buildGetNotificationAttributes, fits]

theorem controlRequest_app (kind : w.activeRequestKind = .appAttributes)
    (bounded : AncsAppResolver.boundedText w.activeNotification.appId = true) :
    ∃ bytes, w.controlRequest = .ok bytes := by
  have length := of_decide_eq_true bounded
  have fits : ¬ controlRequestMax config.limits <
      CString.boundedStrlen w.activeNotification.appId + 3 := by
    unfold controlRequestMax
    omega
  simp [controlRequest, kind, buildGetAppAttributes, fits, Nat.ne_of_gt length.1,
    Nat.not_lt.mpr length.2]

def Nameable : Prop := w.activeRequestKind = .appAttributes →
  AncsAppResolver.boundedText w.activeNotification.appId = true

variable {w}

theorem controlRequest_ok (nameable : Nameable w) : ∃ bytes, w.controlRequest = .ok bytes := by
  cases kind : w.activeRequestKind with
  | notificationAttributes => exact controlRequest_notification w kind
  | appAttributes => exact controlRequest_app w kind (nameable kind)

theorem write_error (nameable : Nameable w) :
    (w.writeActiveControlRequest a).2 =
      if w.connectionValid a.client then a.error else espErrInvalidState := by
  obtain ⟨bytes, built⟩ := controlRequest_ok nameable
  unfold writeActiveControlRequest
  cases w.connectionValid a.client <;> simp [built]

theorem write_refused_iff (nameable : Nameable w) :
    (w.writeActiveControlRequest a).2 = espErrInvalidState ↔ w.WriteRefused a := by
  rw [write_error a nameable]
  unfold WriteRefused
  cases valid : w.connectionValid a.client <;> simp

theorem writeRefused_congr {w' : WorkerContext config queue} (same : w'.generation = w.generation) :
    w'.WriteRefused a ↔ w.WriteRefused a := by
  simp [WriteRefused, connectionValid, same]

theorem nameable_written {w' : WorkerContext config queue} (written : Written w w')
    (nameable : Nameable w) : Nameable w' := by
  intro app
  rw [written.kind] at app
  rw [written.same app]
  exact nameable app

theorem settled_write (nameable : Nameable w) (done : (w.writeActiveControlRequest a).2 = espOk) :
    Settled (w.writeActiveControlRequest a).1 := by
  obtain ⟨bytes, built⟩ := controlRequest_ok nameable
  have written := written_writeActiveControlRequest w a
  have named := nameable_written written nameable
  rw [write_error a nameable] at done
  have valid : w.connectionValid a.client = true := by
    by_contra invalid
    rw [if_neg invalid] at done
    exact absurd done (by decide)
  rw [if_pos valid] at done
  constructor
  · intro _ kind
    rw [written.kind] at kind
    simp only [writeActiveControlRequest, built, valid, writeRequest, done, initParser, kind]
    exact DataParsing.wellEnded_init _ _ _
  · intro _
    exact named
  · intro _
    refine ⟨bytes, ?_⟩
    simp [writeActiveControlRequest, built, valid, writeRequest, done]

end Write

section Ends
variable {w : WorkerContext config queue}

theorem idle_finishFailed (errorCode : Int) (recoverStream : Bool) :
    (w.finishFailedActive errorCode recoverStream).active = false := by
  unfold finishFailedActive
  split
  · dsimp only
    split
    · split <;> rfl
    · split <;> rfl
  · rfl

theorem settled_retry (nameable : Nameable w) (errorCode : Int) (recoverStream : Bool)
    (a : RetryAnswers) : Settled (w.retryOrFinishActive errorCode recoverStream a) := by
  unfold retryOrFinishActive
  split
  · next idle => exact settled_of_idle (by simpa using idle)
  · split
    · exact settled_of_idle rfl
    · split
      · dsimp only
        split
        · next done => exact settled_write a.write nameable done
        · split
          · exact settled_of_idle rfl
          · exact settled_of_idle (idle_finishFailed _ _)
      · exact settled_of_idle (idle_finishFailed _ _)

theorem settled_firstRequest (nameable : Nameable w) (a : RequestAnswers) :
    Settled (w.firstRequest a) := by
  unfold firstRequest
  dsimp only
  split
  · exact settled_of_idle rfl
  · split
    · have written := written_writeActiveControlRequest w a.write
      exact settled_retry (nameable_written written nameable) _ _ _
    · next done =>
      exact settled_write a.write nameable (not_not.mp done)

theorem settled_begin (a : RequestAnswers) : Settled (w.beginAppNameResolution a) := by
  unfold beginAppNameResolution
  dsimp only
  split
  · exact settled_of_idle rfl
  · next native =>
    apply settled_firstRequest
    intro _
    exact AncsAppResolver.bounded_of_requestNative (not_not.mp native)

theorem settled_complete : Settled w.completeAppNameResolution := by
  unfold completeAppNameResolution
  split <;> exact settled_of_idle rfl

theorem settled_start (settled : Settled w) (a : StartAnswers) :
    Settled (w.startNextRequest a) := by
  unfold startNextRequest
  split
  · exact settled
  · next waits =>
    dsimp only
    split
    · apply settled_of_idle
      simp only [Bool.or_eq_true, not_or, Bool.not_eq_true] at waits
      exact waits.1
    · apply settled_firstRequest
      intro app
      cases app

theorem settled_event (settled : Settled w) (event : AncsNotificationEvent) (a : EventAnswers) :
    Settled (w.processNotificationEvent event a) := by
  have longer : ∀ w' : WorkerContext config queue, w'.active = w.active →
      w'.activeRequestKind = w.activeRequestKind → w'.activeEvent = w.activeEvent →
      w'.activeNotification = w.activeNotification → w'.parser = w.parser →
      w'.deadlineMs = w.deadlineMs → w'.requests = w.requests →
      (∀ effect ∈ w.trace, effect ∈ w'.trace) → Settled w' := by
    intro w' active kind source notification parser deadline requests trace
    constructor
    · rw [active, kind, parser, notification]
      exact settled.wellEnded
    · rw [active, kind, notification]
      exact settled.nameable
    · rw [active, kind, source, deadline, requests]
      intro on
      obtain ⟨bytes, member⟩ := settled.armed on
      exact ⟨bytes, trace _ member⟩
  unfold processNotificationEvent duplicateEvent
  dsimp only
  split
  · exact longer _ rfl rfl rfl rfl rfl rfl rfl fun _ member => member
  · split
    · unfold processRemoved publishRemoved
      dsimp only
      split
      · exact longer _ rfl rfl rfl rfl rfl rfl rfl fun _ member => by simp [note, member]
      · exact longer _ rfl rfl rfl rfl rfl rfl rfl fun _ member => by simp [note, member]
    · unfold processAdded
      dsimp only
      split
      · exact longer _ rfl rfl rfl rfl rfl rfl rfl fun _ member => by simp [member]
      · exact longer _ rfl rfl rfl rfl rfl rfl rfl fun _ member => by simp [note, member]

def parsing (w : WorkerContext config queue) (bytes : List UInt8) :
    DataParsing config.limits × AncsParserResult :=
  DataParsing.feed { parser := w.parser, notification := w.activeNotification } bytes

def appParsing (w : WorkerContext config queue) (bytes : List UInt8) :
    AppDataParsing config.limits × AncsParserResult :=
  AppDataParsing.feed { parser := w.appParser, notification := w.activeNotification } bytes

theorem feedActive_notification (kind : w.activeRequestKind = .notificationAttributes)
    (bytes : List UInt8) :
    w.feedActive bytes = ({ w with
      parser := (w.parsing bytes).1.parser
      activeNotification := (w.parsing bytes).1.notification
      trace := if (w.parsing bytes).2 = .complete then
          .parsed w.requests w.activeEvent (w.parsing bytes).1.notification :: w.trace
        else w.trace }, (w.parsing bytes).2) := by
  by_cases complete : (w.parsing bytes).2 = .complete
  all_goals
    rw [parsing] at complete
    simp [feedActive, kind, parsing, note, complete]

theorem feedActive_app (kind : w.activeRequestKind = .appAttributes) (bytes : List UInt8) :
    w.feedActive bytes = ({ w with
      appParser := (w.appParsing bytes).1.parser
      activeNotification := (w.appParsing bytes).1.notification }, (w.appParsing bytes).2) := by
  unfold feedActive
  rw [kind]
  rfl

theorem settled_feedActive (settled : Settled w) (bytes : List UInt8) :
    Settled (w.feedActive bytes).1 := by
  cases kind : w.activeRequestKind with
  | notificationAttributes =>
    rw [feedActive_notification kind]
    constructor
    · intro active _
      exact DataParsing.wellEnded_feed (settled.wellEnded active kind) bytes
    · intro _ app
      cases kind.symm.trans app
    · intro active
      obtain ⟨request, member⟩ := settled.armed active
      refine ⟨request, ?_⟩
      dsimp only
      split
      · exact List.mem_cons_of_mem _ member
      · exact member
  | appAttributes =>
    rw [feedActive_app kind]
    constructor
    · intro _ notification
      cases kind.symm.trans notification
    · intro active _
      have same := AppDataParsing.same_feed
        { parser := w.appParser, notification := w.activeNotification } bytes
      dsimp only [appParsing]
      rw [same]
      exact settled.nameable active kind
    · exact settled.armed

theorem feedActive_frame (bytes : List UInt8) :
    let fed := (w.feedActive bytes).1
    fed.active = w.active ∧ fed.activeCanceled = w.activeCanceled ∧
      fed.activeRequestKind = w.activeRequestKind ∧ fed.attempt = w.attempt ∧
      fed.generation = w.generation := by
  cases kind : w.activeRequestKind with
  | notificationAttributes =>
    rw [feedActive_notification kind]
    exact ⟨rfl, rfl, kind, rfl, rfl⟩
  | appAttributes =>
    rw [feedActive_app kind]
    exact ⟨rfl, rfl, kind, rfl, rfl⟩

theorem settled_fragment (settled : Settled w) (bytes : List UInt8) (a : RequestAnswers) :
    Settled (w.processDataFragment bytes a) := by
  unfold processDataFragment
  split
  · exact settled
  · next active =>
    have fed := settled_feedActive settled bytes
    have on : (w.feedActive bytes).1.active = true := by
      rw [(feedActive_frame bytes).1]
      simpa using active
    dsimp only
    split
    · exact fed
    · split
      · exact settled_of_idle rfl
      · split
        · exact settled_begin a
        · exact settled_complete
    · split
      · exact settled_of_idle rfl
      · exact settled_retry (fed.nameable on) _ _ _

theorem settled_writeResult (settled : Settled w) (status : Int) (a : RetryAnswers) :
    Settled (w.processWriteResult status a) := by
  unfold processWriteResult
  split
  · exact settled
  · split
    · exact settled_of_idle rfl
    · cases active : w.active with
      | false => exact settled_of_idle (by simp [retryOrFinishActive, active])
      | true => exact settled_retry (settled.nameable active) _ _ _

theorem settled_checkDeadline (settled : Settled w) (nowMs : Int) (a : RetryAnswers) :
    Settled (w.checkDeadline nowMs a) := by
  unfold checkDeadline
  split
  · next due =>
    split
    · exact settled_of_idle rfl
    · have active : w.active = true := (Bool.and_eq_true_iff.mp due).1
      exact settled_retry (settled.nameable active) _ _ _
  · exact settled

theorem settled_checkGeneration (settled : Settled w) (current : UInt32) :
    Settled (w.checkGeneration current) := by
  unfold checkGeneration
  split
  · exact settled_of_idle rfl
  · exact settled

theorem settled_step (settled : Settled w) (step : WorkerStep) : Settled (w.step step) := by
  cases step with
  | checkGeneration current => exact settled_checkGeneration settled current
  | event event a => exact settled_event settled event a
  | fragment bytes a => exact settled_fragment settled bytes a
  | writeResult status a => exact settled_writeResult settled status a
  | sessionReset generation => exact settled_of_idle rfl
  | checkDeadline nowMs a => exact settled_checkDeadline settled nowMs a
  | startNext a => exact settled_start settled a

end Ends

section Moves
variable {w : WorkerContext config queue} {rules : DeskRules config.limits}
open Desk

def May (rules : DeskRules config.limits) (kind : ActiveRequestKind) : Prop :=
  ∀ s : DeskSlot config.limits, s.kind = kind → s.canceled = false → rules.Abandons s

theorem desk_written {w' : WorkerContext config queue} (written : Written w w')
    (active : w.active = true) :
    ∃ asked, w'.desk = { w.desk with
      slot := some { w.slot with notification := w'.activeNotification }
      trace := w.slot.asked w.trace asked } := by
  obtain ⟨asked, trace⟩ := written.trace
  refine ⟨asked, ?_⟩
  simp [desk, slot, written.active, active, written.pending, written.processed, written.requests,
    written.event, written.canceled, written.kind, written.attempt, trace]

theorem move_abandon (active : w.active = true) (kept : w.activeCanceled = false)
    (may : May rules w.activeRequestKind) : Move rules w.desk w.abandonActiveRequest.desk :=
  Move.abandon w.slot (desk_slot active) (may w.slot rfl kept)

theorem move_drain (active : w.active = true) (canceled : w.activeCanceled = true) :
    Move rules w.desk w.finishCanceledRequest.desk :=
  Move.drain w.slot (desk_slot active) canceled

theorem move_recover : Move rules w.desk w.recoverDataStream.desk := Move.recover

theorem moves_finishFailed (active : w.active = true) (kept : w.activeCanceled = false)
    {errorCode : Int} (failed : w.activeRequestKind = .notificationAttributes → errorCode ≠ ok)
    (recoverStream : Bool) :
    Moves rules w.desk (w.finishFailedActive errorCode recoverStream).desk := by
  unfold finishFailedActive
  split
  · next app =>
    simp only [kept, Bool.false_eq_true, ↓reduceIte]
    have finalized : Move rules w.desk _ := Move.finalize w.slot
      { w.activeNotification with appName := (AncsAppResolver.fail w.activeNotification.appName).1 }
      (desk_slot active) ⟨app, kept⟩ rfl
    split
    · exact (ReflTransGen.single finalized).tail Move.recover
    · exact ReflTransGen.single finalized
  · next notification =>
    have kind : w.activeRequestKind = .notificationAttributes := by
      cases kind : w.activeRequestKind with
      | notificationAttributes => rfl
      | appAttributes => exact absurd kind notification
    have ended : Move rules w.desk _ := Move.fail w.slot
      { w.activeNotification with complete := false, errorCode } (desk_slot active) kind kept
      ⟨rfl, failed kind⟩
    exact (ReflTransGen.single ended).tail Move.recover

theorem moves_retry (nameable : Nameable w) (kept : w.activeCanceled = false) {errorCode : Int}
    (failed : w.activeRequestKind = .notificationAttributes → errorCode ≠ ok)
    (recoverStream : Bool) (a : RetryAnswers)
    (allowed : w.RetryAbandons a → May rules w.activeRequestKind) :
    Moves rules w.desk (w.retryOrFinishActive errorCode recoverStream a).desk := by
  unfold retryOrFinishActive
  split
  · exact ReflTransGen.refl
  · next on =>
    have active : w.active = true := by simpa using on
    split
    · next unready =>
      have gone : a.client.ready = false := by simpa using unready
      exact ReflTransGen.single (move_abandon active kept (allowed (.inl gone)))
    · split
      · next first =>
        -- the retry of the phase, and what its write leaves
        let again : WorkerContext config queue := { w with attempt := w.attempt + 1 }
        have written := written_writeActiveControlRequest again a.write
        obtain ⟨asked, moved⟩ := desk_written written active
        have zero : w.attempt = 0 := Nat.lt_one_iff.mp first
        have retried : Move rules w.desk _ := Move.retry w.slot _ asked (desk_slot active) zero
          written.same
        have reached : Move rules w.desk (again.writeActiveControlRequest a.write).1.desk := by
          rw [moved]
          simp only [again, slot, desk, zero] at retried ⊢
          exact retried
        have on := written.active.trans active
        have uncanceled := written.canceled.trans kept
        dsimp only
        split
        · exact ReflTransGen.single reached
        · split
          · next refused =>
            have again_refused := (write_refused_iff a.write (w := again) nameable).mp refused
            have may := allowed (.inr ⟨zero, again_refused⟩)
            exact (ReflTransGen.single reached).tail
              (move_abandon on uncanceled (written.kind ▸ may))
          · exact (ReflTransGen.single reached).trans
              (moves_finishFailed on uncanceled (written.kind ▸ failed) recoverStream)
      · exact moves_finishFailed active kept failed recoverStream

theorem moves_firstRequest (nameable : Nameable w) (active : w.active = true)
    (kept : w.activeCanceled = false) (a : RequestAnswers)
    (allowed : w.FirstAbandons a → May rules w.activeRequestKind) {start : Desk config.limits}
    (reach : ∀ n asked, (w.activeRequestKind = .appAttributes → w.activeNotification.SameButName n) →
      Moves rules start { w.desk with
        slot := some { w.slot with notification := n }
        trace := w.slot.asked w.trace asked }) :
    Moves rules start (w.firstRequest a).desk := by
  have written := written_writeActiveControlRequest w a.write
  obtain ⟨asked, moved⟩ := desk_written written active
  have reached : Moves rules start (w.writeActiveControlRequest a.write).1.desk := by
    rw [moved]
    exact reach _ asked written.same
  have on := written.active.trans active
  have uncanceled := written.canceled.trans kept
  unfold firstRequest
  dsimp only
  split
  · next refused =>
    have may := allowed (.inl ((write_refused_iff a.write nameable).mp refused))
    exact reached.tail (move_abandon on uncanceled (written.kind ▸ may))
  · next refused =>
    split
    · next failed =>
      apply reached.trans
      apply moves_retry (nameable_written written nameable) uncanceled (fun _ => by decide)
      intro abandons
      rw [written.kind]
      apply allowed
      -- the write was not refused, so its own error made it fail
      right
      have valid : w.connectionValid a.write.client = true := by
        by_contra invalid
        rw [write_error a.write nameable, if_neg invalid] at refused
        exact refused rfl
      rw [write_error a.write nameable, if_pos valid] at failed
      refine ⟨failed, ?_⟩
      rcases abandons with unready | ⟨_, again⟩
      · exact .inl unready
      · exact .inr ((writeRefused_congr a.retry.write written.generation).mp again)
    · exact reached

theorem moves_begin (active : w.active = true) (kept : w.activeCanceled = false)
    (a : RequestAnswers) (allowed : w.NeedsName → w.FirstAbandons a → May rules .appAttributes)
    {start : Desk config.limits}
    (reach : ∀ n asked, w.activeNotification.SameButName n →
      Moves rules start { w.desk with
        slot := some (w.slot.naming n)
        trace := (w.slot.naming n).asked w.trace asked }) :
    Moves rules start (w.beginAppNameResolution a).desk := by
  unfold beginAppNameResolution
  dsimp only
  split
  · have parked := reach _ none (AncsNotification.same_but_name_named w.activeNotification
      (w.appResolver.begin w.activeNotification.appId w.activeNotification.appName).2.1)
    exact parked.tail (Move.finalize (w.slot.naming _) _ rfl ⟨rfl, kept⟩
      (AncsNotification.same_but_name_refl _))
  · next native =>
    have needs : w.NeedsName := not_not.mp native
    refine moves_firstRequest ?_ ?_ ?_ a ?_ ?_
    · intro _
      exact AncsAppResolver.bounded_of_requestNative needs
    · exact active
    · exact kept
    · intro abandons
      exact allowed needs abandons
    · intro n asked same
      exact reach n asked (AncsNotification.same_but_name_trans
        (AncsNotification.same_but_name_named _ _) (same rfl))

theorem move_complete (active : w.active = true) (kept : w.activeCanceled = false)
    (app : w.activeRequestKind = .appAttributes) :
    Move rules w.desk w.completeAppNameResolution.desk := by
  unfold completeAppNameResolution
  split
  · exact Move.finalize w.slot _ (desk_slot active) ⟨app, kept⟩ rfl
  · exact Move.finalize w.slot _ (desk_slot active) ⟨app, kept⟩
      (AncsNotification.same_but_name_named _ _)

theorem moves_start (a : StartAnswers)
    (allowed : w.FirstAbandons a.request → May rules .notificationAttributes) :
    Moves rules w.desk (w.startNextRequest a).desk := by
  unfold startNextRequest
  split
  · exact ReflTransGen.refl
  · next waits =>
    have idle : w.active = false := by
      simp only [Bool.or_eq_true, not_or, Bool.not_eq_true] at waits
      exact waits.1
    have left := queue.pending_pop w.pending
    have first := queue.popped w.pending
    dsimp only
    split
    · next popped =>
      rw [popped] at first
      have empty : queue.pending w.pending = [] := List.head?_eq_none_iff.mp first.symm
      have same : ({ w with pending := (queue.pop w.pending).1 } : WorkerContext config queue).desk
          = w.desk := by
        simp [desk, left, empty, idle]
      rw [same]
    · next source popped =>
      rw [popped] at first
      obtain ⟨rest, split⟩ := List.head?_eq_some_iff.mp first.symm
      rw [split, List.tail_cons] at left
      refine moves_firstRequest ?_ rfl rfl a.request ?_ ?_
      · intro app
        cases app
      · exact allowed
      · intro n asked _
        have started : Move rules w.desk _ := Move.start source rest n asked split
          (by simp [desk, idle])
        simp only [desk, left] at started ⊢
        exact ReflTransGen.single started

def Obeys (queue : PendingQueue ArrivedEvent ArrivedEvent.uid)
    (rules : DeskRules config.limits) : Prop :=
  ∀ pending uid, rules.Cancels uid (queue.pending pending)
    (queue.pending (queue.cancelUid pending uid).1)

theorem desk_publishRemoved (source : ArrivedEvent) (a : EventAnswers) :
    ∃ n : AncsNotification config.limits, (n.complete = true ∧ n.errorCode = ok) ∧
      (w.publishRemoved source a).desk =
        { w.desk with trace := .published source none n :: w.trace } := by
  unfold publishRemoved
  split
  · exact ⟨_, ⟨rfl, rfl⟩, rfl⟩
  · exact ⟨{ AncsNotification.init a.sessionId source.event a.removedAtMs with complete := true },
      ⟨rfl, rfl⟩, rfl⟩

theorem move_removed (obeys : Obeys queue rules) {source : ArrivedEvent}
    (serial : source.serial = w.processed) (removes : source.Removes) (a : EventAnswers) :
    Move rules w.desk (({ w with
      processed := w.processed + 1
      trace := .processed source :: w.trace } : WorkerContext config queue).processRemoved
        source a).desk := by
  unfold processRemoved
  dsimp only
  obtain ⟨n, complete, published⟩ := desk_publishRemoved
    (w := { w with
      pending := (queue.cancelUid w.pending source.uid).1
      activeCanceled := w.activeCanceled || w.active && w.activeEvent.uid == source.uid
      processed := w.processed + 1
      trace := .processed source :: w.trace }) source a
  rw [published]
  have moved : Move rules w.desk _ := Move.remove source _ n serial removes complete
    (obeys w.pending source.uid)
  cases active : w.active <;> simpa [desk, slot, active, DeskSlot.cancel] using moved

theorem move_added {source : ArrivedEvent} (serial : source.serial = w.processed)
    (adds : ¬ source.Removes) (a : EventAnswers) :
    Move rules w.desk (({ w with
      processed := w.processed + 1
      trace := .processed source :: w.trace } : WorkerContext config queue).processAdded
        source a).desk := by
  have left := queue.pending_push w.pending source
  unfold processAdded
  dsimp only
  split
  · next pushed =>
    have added : Move rules w.desk _ := Move.add source serial adds
    simp only [desk, left, pushed, ↓reduceIte] at added ⊢
    exact added
  · next full =>
    have refused : Move rules w.desk _ := Move.overflow source
      { AncsNotification.init a.sessionId source.event a.timestampMs with errorCode := errOverflow }
      serial adds ⟨rfl, by simp [errOverflow, ok]⟩
    simp only [desk, note, left, full, Bool.false_eq_true, ↓reduceIte] at refused ⊢
    exact refused

theorem moves_event (obeys : Obeys queue rules) (event : AncsNotificationEvent) (a : EventAnswers) :
    Moves rules w.desk (w.processNotificationEvent event a).desk := by
  let seen : WorkerContext config queue :=
    { w with lastEvent := event, lastEventMs := a.timestampMs, lastEventValid := true }
  unfold processNotificationEvent duplicateEvent
  dsimp only
  split
  · exact ReflTransGen.refl
  · split
    · next removes => exact ReflTransGen.single (move_removed (w := seen) obeys rfl removes a)
    · next adds => exact ReflTransGen.single (move_added (w := seen) rfl adds a)

theorem moves_fragment_notification (settled : Settled w) (active : w.active = true)
    (kind : w.activeRequestKind = .notificationAttributes) (bytes : List UInt8) (a : RequestAnswers)
    (retries : w.activeCanceled = false → (w.feedActive bytes).2 = .error →
      w.RetryAbandons a.retry → May rules .notificationAttributes)
    (names : w.activeCanceled = false → (w.feedActive bytes).2 = .complete →
      (w.feedActive bytes).1.NeedsName → w.FirstAbandons a → May rules .appAttributes) :
    Moves rules w.desk (w.processDataFragment bytes a).desk := by
  have answers : DataParsing.Answers (w.parsing bytes) :=
    DataParsing.answers_feed (settled.wellEnded active kind) bytes
  have at_slot := desk_slot active
  have read : Move rules w.desk _ := Move.read w.slot (w.parsing bytes).1.notification at_slot
    (fun app => by cases kind.symm.trans app)
  rw [feedActive_notification kind] at retries names
  unfold processDataFragment
  rw [if_neg (by simp [active]), feedActive_notification kind]
  dsimp only
  split
  · next more =>
    simp only [more, reduceCtorEq, ↓reduceIte]
    simp only [desk, slot, active, ↓reduceIte] at read ⊢
    exact ReflTransGen.single read
  · next complete =>
    simp only [DataParsing.Answers, complete] at answers
    have parsed : ∀ m asked, (w.parsing bytes).1.notification.SameButName m → Move rules w.desk _ :=
      fun m asked same => Move.parsed w.slot (w.parsing bytes).1.notification m asked at_slot kind
        answers.2 same
    simp only [complete, ↓reduceIte] at names ⊢
    split
    · next canceled =>
      have waiting := parsed _ none (AncsNotification.same_but_name_refl _)
      exact (ReflTransGen.single waiting).tail (Move.drain _ rfl canceled)
    · next kept =>
      have uncanceled : w.activeCanceled = false := by simpa using kept
      refine moves_begin ?_ ?_ a ?_ ?_
      · exact active
      · exact uncanceled
      · exact names uncanceled trivial
      · intro n asked same
        exact ReflTransGen.single (parsed n asked same)
  · next error =>
    simp only [DataParsing.Answers, error] at answers
    simp only [error, reduceCtorEq, ↓reduceIte] at retries ⊢
    split
    · next canceled => exact ReflTransGen.single (Move.drain w.slot at_slot canceled)
    · next kept =>
      have uncanceled : w.activeCanceled = false := by simpa using kept
      let fed : WorkerContext config queue := { w with
        parser := (w.parsing bytes).1.parser
        activeNotification := (w.parsing bytes).1.notification }
      have reached : Moves rules w.desk fed.desk := by
        simp only [fed, desk, slot, active, ↓reduceIte] at read ⊢
        exact ReflTransGen.single read
      have unnamed : Nameable fed := by
        intro app
        cases kind.symm.trans app
      exact reached.trans (moves_retry (w := fed) unnamed uncanceled (fun _ => answers.2) true
        a.retry (kind.symm ▸ retries uncanceled trivial))

theorem moves_fragment_app (settled : Settled w) (active : w.active = true)
    (kind : w.activeRequestKind = .appAttributes) (bytes : List UInt8) (a : RequestAnswers)
    (retries : w.activeCanceled = false → (w.feedActive bytes).2 = .error →
      w.RetryAbandons a.retry → May rules .appAttributes) :
    Moves rules w.desk (w.processDataFragment bytes a).desk := by
  have at_slot := desk_slot active
  have same : w.activeNotification.SameButName (w.appParsing bytes).1.notification :=
    AppDataParsing.same_feed _ bytes
  let fed : WorkerContext config queue := { w with
    appParser := (w.appParsing bytes).1.parser
    activeNotification := (w.appParsing bytes).1.notification }
  have reached : Moves rules w.desk fed.desk := by
    have read : Move rules w.desk _ := Move.read w.slot _ at_slot fun _ => same
    simp only [fed, desk, slot, active, ↓reduceIte] at read ⊢
    exact ReflTransGen.single read
  have other : ¬ w.activeRequestKind = .notificationAttributes := by
    rw [kind]
    decide
  rw [feedActive_app kind] at retries
  unfold processDataFragment
  rw [if_neg (by simp [active]), feedActive_app kind]
  dsimp only
  split
  · exact reached
  · split
    · next canceled => exact ReflTransGen.single (Move.drain w.slot at_slot canceled)
    · next kept =>
      have uncanceled : w.activeCanceled = false := by simpa using kept
      exact reached.tail (move_complete (w := fed) active uncanceled kind)
  · next error =>
    split
    · next canceled => exact ReflTransGen.single (Move.drain w.slot at_slot canceled)
    · next kept =>
      have uncanceled : w.activeCanceled = false := by simpa using kept
      have named : Nameable fed := by
        intro _
        dsimp only [fed]
        rw [same]
        exact settled.nameable active kind
      exact reached.trans (moves_retry (w := fed) named uncanceled
        (fun notification => absurd notification other) true a.retry
        (kind.symm ▸ retries uncanceled error))

def StepAllowed (rules : DeskRules config.limits) (w : WorkerContext config queue) :
    WorkerStep → Prop
  | .checkGeneration current => w.generation ≠ current → rules.Resets w.desk
  | .event _ _ => True
  | .fragment bytes a => w.active = true → w.activeCanceled = false →
      ((w.feedActive bytes).2 = .error → w.RetryAbandons a.retry → May rules w.activeRequestKind) ∧
      ((w.feedActive bytes).2 = .complete → w.activeRequestKind = .notificationAttributes →
        (w.feedActive bytes).1.NeedsName → w.FirstAbandons a → May rules .appAttributes)
  | .writeResult status a => w.active = true → w.activeCanceled = false → status ≠ espGattOk →
      w.RetryAbandons a → May rules w.activeRequestKind
  | .sessionReset _ => rules.Resets w.desk
  | .checkDeadline nowMs a => w.active = true → w.activeCanceled = false → w.deadlineMs ≤ nowMs →
      w.RetryAbandons a → May rules w.activeRequestKind
  | .startNext a => w.FirstAbandons a.request → May rules .notificationAttributes

theorem move_reset (generation : UInt32) (allowed : rules.Resets w.desk) :
    Move rules w.desk (w.resetWorkerSession generation).desk := by
  have moved : Move rules w.desk _ := Move.reset generation allowed
  simpa [desk, resetWorkerSession, queue.pending_clear] using moved

theorem moves_writeResult (settled : Settled w) (status : Int) (a : RetryAnswers)
    (allowed : StepAllowed rules w (.writeResult status a)) :
    Moves rules w.desk (w.processWriteResult status a).desk := by
  unfold processWriteResult
  split
  · exact ReflTransGen.refl
  · next failed =>
    cases active : w.active with
    | false =>
      have same := desk_idle active
      split
      · rw [same]
        exact ReflTransGen.refl
      · simp [retryOrFinishActive, active, ReflTransGen.refl]
    | true =>
      split
      · next canceled => exact ReflTransGen.single (move_drain active canceled)
      · next kept =>
        have uncanceled : w.activeCanceled = false := by simpa using kept
        exact moves_retry (settled.nameable active) uncanceled (fun _ => failed) false a
          (allowed active uncanceled failed)

theorem moves_checkDeadline (settled : Settled w) (nowMs : Int) (a : RetryAnswers)
    (allowed : StepAllowed rules w (.checkDeadline nowMs a)) :
    Moves rules w.desk (w.checkDeadline nowMs a).desk := by
  unfold checkDeadline
  split
  · next due =>
    obtain ⟨active, late⟩ := Bool.and_eq_true_iff.mp due
    split
    · next canceled =>
      exact (ReflTransGen.single (move_drain active canceled)).tail move_recover
    · next kept =>
      have uncanceled : w.activeCanceled = false := by simpa using kept
      exact moves_retry (settled.nameable active) uncanceled (fun _ => by decide) true a
        (allowed active uncanceled (of_decide_eq_true late))
  · exact ReflTransGen.refl

/-- Every step of the worker is a sequence of moves at its desk. -/
theorem step_moves (obeys : Obeys queue rules) (settled : Settled w) (step : WorkerStep)
    (allowed : StepAllowed rules w step) : Moves rules w.desk (w.step step).desk := by
  cases step with
  | checkGeneration current =>
    unfold StepAllowed at allowed
    simp only [WorkerContext.step, checkGeneration]
    split
    · next other => exact ReflTransGen.single (move_reset current (allowed other))
    · exact ReflTransGen.refl
  | event event a => exact moves_event obeys event a
  | fragment bytes a =>
    cases active : w.active with
    | false => simp [WorkerContext.step, processDataFragment, active, ReflTransGen.refl]
    | true =>
      cases kind : w.activeRequestKind with
      | notificationAttributes =>
        exact moves_fragment_notification settled active kind bytes a
          (fun kept => kind ▸ (allowed active kept).1)
          (fun kept complete => (allowed active kept).2 complete kind)
      | appAttributes =>
        exact moves_fragment_app settled active kind bytes a
          (fun kept => kind ▸ (allowed active kept).1)
  | writeResult status a => exact moves_writeResult settled status a allowed
  | sessionReset generation => exact ReflTransGen.single (move_reset generation allowed)
  | checkDeadline nowMs a => exact moves_checkDeadline settled nowMs a allowed
  | startNext a => exact moves_start a allowed

theorem all_states_of_moves (obeys : Obeys queue rules) {I : Desk config.limits → Prop}
    (kept : ∀ d d', Move rules d d' → I d → I d') (settled : Settled w) (start : I w.desk)
    {steps : List WorkerStep} (allowed : AllSteps WorkerContext.step (StepAllowed rules) w steps) :
    AllStates WorkerContext.step (fun w => Settled w ∧ I w.desk) w steps := by
  apply all_states_of_steps _ ⟨settled, start⟩ allowed
  intro w step holds allowed
  exact ⟨settled_step holds.1 step,
    moves_invariant kept (step_moves obeys holds.1 step allowed) holds.2⟩

end Moves

end WorkerContext
