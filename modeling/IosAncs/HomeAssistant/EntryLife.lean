import IosAncs.Foundation.Runs
import IosAncs.HomeAssistant.Notification
import Mathlib.Logic.Function.Basic

/-!
The life of a config entry with its saved notification. Setup, unload and removal of one
entry exclude each other; what each of them does between two awaits is one step, and
notifications, delayed writes, flushes and writes of every Store that the entry has had
come in any order in between. A Store takes what it has to write under its lock, and lets
no other write or removal of its own in before that write is done.
The source is `__init__.py`.
-/
open PayloadValue Runs

/-- Who waits for the lock of a Store: its delayed or final write, the flush of an unload, or
    the coroutine that sets the entry up or removes it. -/
inductive Saver where
  | delayed
  | flush
  | entry
deriving DecidableEq

inductive StoreJob where
  | write (saver : Saver) (data : Mapping)
  | unlink

/-- One run of `async_setup_entry`: its Store, with the data that is not written yet, and the
    variables that `persist_notification` and `async_flush_notification` share. -/
structure EntrySetup where
  /-- `persist_notification` is a listener of the runtime -/
  listening : Bool
  latestSnapshot : Option Mapping
  data : Option Mapping
  delayed : Bool
  job : Option StoreJob
  flushing : Bool

namespace EntrySetup

def fresh : EntrySetup where
  listening := true
  latestSnapshot := none
  data := none
  delayed := false
  job := none
  flushing := false

def persistNotification (setup : EntrySetup) (notification : Mapping) : EntrySetup :=
  { setup with latestSnapshot := some notification, data := some notification, delayed := true }

/-- `async_save`, up to its wait for the lock -/
def save (setup : EntrySetup) (snapshot : Mapping) : EntrySetup :=
  { setup with data := some snapshot }

def saves (setup : EntrySetup) : Bool :=
  match setup.job with
  | some (.write .entry _) => true
  | _ => false

end EntrySetup

/-- The await at which the entry is, or its state between two of Home Assistant's calls. -/
inductive Point where
  | starting
  | saving
  | forwarding
  | loaded
  | unloading
  | failedUnload
  | flushing
  | unlinking
deriving DecidableEq

def Point.sets : Point → Bool
  | .flushing | .unlinking => false
  | _ => true

inductive Stage where
  | notLoaded
  | loading
  | during (point : Point) (setup : Nat)
  /-- the removal unlinks the file through a Store of its own -/
  | unlinkingNew
  | removed
deriving DecidableEq

namespace Stage

def point (stage : Stage) (i : Nat) : Option Point :=
  match stage with
  | .during point setup => if setup = i then some point else none
  | _ => none

/-- The setup whose runtime is `entry.runtime_data` -/
def runtime : Stage → Option Nat
  | .during .forwarding i | .during .loaded i | .during .unloading i | .during .failedUnload i => some i
  | _ => none

end Stage

structure EntryLife where
  setups : Nat → EntrySetup
  count : Nat
  /-- `entry_stores[entry.entry_id]` -/
  registered : Option Nat
  runtimeData : Option Nat
  stage : Stage
  file : Option Mapping
  /-- the writes that go on although their save was cancelled -/
  abandoned : List Mapping

namespace EntryLife

def init (file : Option Mapping) : EntryLife where
  setups := fun _ => { EntrySetup.fresh with listening := false }
  count := 0
  registered := none
  runtimeData := none
  stage := .notLoaded
  file
  abandoned := []

def put (s : EntryLife) (i : Nat) (setup : EntrySetup) : EntryLife :=
  { s with setups := Function.update s.setups i setup }

def stop (s : EntryLife) (runtime : Option Nat) : EntryLife :=
  match runtime with
  | none => s
  | some i => s.put i { s.setups i with listening := false }

/-- The end of `async_flush_notification` -/
def unregister (s : EntryLife) (i : Nat) : EntryLife :=
  { s with registered := if s.registered = some i then none else s.registered }

/-- The flush that an unload starts, up to its wait for the lock -/
def flush (s : EntryLife) (i : Nat) : EntryLife :=
  match (s.setups i).latestSnapshot with
  | none => s.unregister i
  | some snapshot => s.put i { (s.setups i).save snapshot with flushing := true }

/-- The runtime stops, and the callbacks of the unload run: after a setup that failed, and
    at the end of an unload. -/
def tearDown (s : EntryLife) (i : Nat) : EntryLife :=
  ({ s.stop (some i) with runtimeData := none, stage := .notLoaded }).flush i

/-- What a removal takes from `entry_stores`: the registered Store is flushed before it
    removes the file. -/
def popStore (s : EntryLife) : EntryLife :=
  match s.registered with
  | none => { s with stage := .unlinkingNew }
  | some i =>
    match (s.setups i).latestSnapshot with
    | none => { s with registered := none, stage := .during .unlinking i }
    | some snapshot =>
      { s.put i ((s.setups i).save snapshot) with registered := none, stage := .during .flushing i }

/-- `async_remove_entry`, up to its first wait for a Store -/
def removeEntry (s : EntryLife) : EntryLife :=
  { s.stop s.runtimeData with runtimeData := none }.popStore

def resume (s : EntryLife) (i : Nat) : Saver → EntryLife
  | .delayed => s
  | .flush => (s.put i { s.setups i with flushing := false }).unregister i
  | .entry =>
    match s.stage with
    | .during .saving _ => { s with runtimeData := some i, stage := .during .forwarding i }
    | .during .flushing _ => { s.unregister i with stage := .during .unlinking i }
    | _ => s

def waits (s : EntryLife) (i : Nat) : Saver → Bool
  | .delayed => (s.setups i).delayed
  | .flush => (s.setups i).flushing
  | .entry => s.stage = .during .saving i || s.stage = .during .flushing i

/-- A write gets the lock: what was pending is cancelled, and there may be nothing to write. -/
def acquire (s : EntryLife) (i : Nat) (saver : Saver) : EntryLife :=
  match (s.setups i).job with
  | some _ => s
  | none =>
    if s.waits i saver then
      match (s.setups i).data with
      | none => (s.put i { s.setups i with delayed := false }).resume i saver
      | some data =>
        s.put i { s.setups i with delayed := false, data := none, job := some (.write saver data) }
    else s

def written (s : EntryLife) (i : Nat) : EntryLife :=
  match (s.setups i).job with
  | some (.write saver data) =>
    ({ s.put i { s.setups i with job := none } with file := some data }).resume i saver
  | _ => s

inductive Act where
  | setup
  | loadFailed
  /-- `async_load` has returned -/
  | loaded
  /-- `async_start` has returned; what there is to save, if the setup saves -/
  | started (current : Option Mapping)
  /-- `async_start` or the setup of the platforms raises, or is cancelled -/
  | failed
  /-- the save of the setup raises or is cancelled; whether its write goes on -/
  | saveFailed (goesOn : Bool)
  | forwarded
  | unload
  | unloadFailed
  | unloaded
  | remove
  /-- `async_remove` of the Store gets the lock -/
  | unlink
  | unlinked
  | notification (i : Nat) (notification : Mapping)
  | acquire (i : Nat) (saver : Saver)
  | written (i : Nat)
  /-- the write of a cancelled save is done -/
  | lands (k : Nat)

def step (s : EntryLife) : Act → EntryLife
  | .setup =>
    match s.stage with
    | .notLoaded => { s with stage := .loading }
    | _ => s
  | .loadFailed =>
    match s.stage with
    | .loading => { s with stage := .notLoaded }
    | _ => s
  | .loaded =>
    match s.stage with
    | .loading =>
      { s.put s.count EntrySetup.fresh with
        count := s.count + 1
        registered := some s.count
        stage := .during .starting s.count }
    | _ => s
  | .started current =>
    match s.stage with
    | .during .starting i =>
      match current with
      | none => { s with runtimeData := some i, stage := .during .forwarding i }
      | some current => { s.put i ((s.setups i).save current) with stage := .during .saving i }
    | _ => s
  | .failed =>
    match s.stage with
    | .during .starting i => s.tearDown i
    | .during .forwarding i => s.tearDown i
    | _ => s
  | .saveFailed goesOn =>
    match s.stage with
    | .during .saving i =>
      match (s.setups i).job with
      | some (.write .entry data) =>
        ({ s.put i { s.setups i with job := none } with
          abandoned := if goesOn then data :: s.abandoned else s.abandoned }).tearDown i
      | _ => s.tearDown i
    | _ => s
  | .forwarded =>
    match s.stage with
    | .during .forwarding i => { s with stage := .during .loaded i }
    | _ => s
  | .unload =>
    match s.stage with
    | .during .loaded i => { s with stage := .during .unloading i }
    | _ => s
  | .unloadFailed =>
    match s.stage with
    | .during .unloading i => { s with stage := .during .failedUnload i }
    | _ => s
  | .unloaded =>
    match s.stage with
    | .during .unloading i => s.tearDown i
    | _ => s
  | .remove =>
    match s.stage with
    | .notLoaded => s.removeEntry
    | .during .failedUnload _ => s.removeEntry
    | _ => s
  | .unlink =>
    match s.stage with
    | .during .unlinking i =>
      match (s.setups i).job with
      | none => s.put i { s.setups i with delayed := false, job := some .unlink }
      | some _ => s
    | _ => s
  | .unlinked =>
    match s.stage with
    | .unlinkingNew => { s with file := none, stage := .removed }
    | .during .unlinking i =>
      match (s.setups i).job with
      | some .unlink => { s.put i { s.setups i with job := none } with file := none, stage := .removed }
      | _ => s
    | _ => s
  | .notification i notification =>
    if (s.setups i).listening then s.put i ((s.setups i).persistNotification notification) else s
  | .acquire i saver => s.acquire i saver
  | .written i => s.written i
  | .lands k =>
    match s.abandoned[k]? with
    | none => s
    | some data => { s with file := some data, abandoned := s.abandoned.eraseIdx k }

def saves (s : EntryLife) : Bool :=
  match s.stage with
  | .during .saving i => (s.setups i).saves
  | _ => false

/-- No setup registers its Store in the place of one that is still flushed, and none is
    cancelled in the middle of a write that goes on. -/
def Orderly (s : EntryLife) : Act → Prop
  | .loaded => s.registered = none
  | .saveFailed goesOn => (goesOn && s.saves) = false
  | _ => True

def Clean (s : EntryLife) : Prop := s.stage = .removed → s.file = none

instance (s : EntryLife) : Decidable s.Clean :=
  decidable_of_iff (s.stage = .removed → s.file.isNone = true) (by simp [Clean])

instance (s : EntryLife) (act : Act) : Decidable (s.Orderly act) :=
  match act with
  | .loaded => inferInstanceAs (Decidable (s.registered = none))
  | .saveFailed goesOn => inferInstanceAs (Decidable ((goesOn && s.saves) = false))
  | .setup | .loadFailed | .started _ | .failed | .forwarded | .unload | .unloadFailed | .unloaded
  | .remove | .unlink | .unlinked | .notification _ _ | .acquire _ _ | .written _ | .lands _ =>
    inferInstanceAs (Decidable True)

def setsUp : List Act := [.setup, .loaded, .started none, .forwarded]

/-- A flush is still writing when the entry is set up again and removed: its registration has
    been replaced, the removal waits for the other one, and the file comes back. -/
theorem reload_during_flush : ¬ ∀ file acts, AllStates step Clean (init file) acts := by
  intro all
  have clean := all none (setsUp ++ [.notification 0 [], .unload, .unloaded, .acquire 0 .flush] ++
    setsUp ++ [.unload, .unloaded, .remove, .unlinked, .written 0])
  revert clean
  decide

end EntryLife
