import IosAncs.Foundation.AgedTable
import IosAncs.Foundation.Runs
import IosAncs.Protocol.DataParser

/-!
The app-name resolver: a cache of display names by app id, of which the entry that
was used longest ago is replaced. It is the list of the names that were used last.
The source is `ancs_app_resolver.c`.
-/
open CString Runs RecencyList

/-- `CONFIG_ANCS_APP_CACHE_CAPACITY`, within its range. -/
structure AppCacheCapacity where
  entries : Nat
  range : 1 ≤ entries ∧ entries ≤ 64

/-- `ancs_app_resolver_entry_t` -/
structure AncsAppResolverEntry (limits : AncsLimits) where
  used : Bool
  age : UInt32
  appId : CharArray limits.appIdMax
  displayName : CharArray limits.appNameMax

/-- `ancs_app_resolver_t` -/
structure AncsAppResolver (limits : AncsLimits) (capacity : AppCacheCapacity) where
  age : UInt32
  entries : Vector (AncsAppResolverEntry limits) capacity.entries

inductive AncsAppResolution where
  | requestNative
  | useNative
  | useFallback
deriving DecidableEq, Repr

namespace AncsAppResolver
variable {limits : AncsLimits} {capacity : AppCacheCapacity}

def init : AncsAppResolver limits capacity where
  age := 0
  entries := Vector.replicate _
    { used := false, age := 0, appId := zeroed, displayName := zeroed }

variable {outMax : Nat}

def clearOutput (output : CharArray outMax) : CharArray outMax := output.set 0 0 (Nat.succ_pos outMax)

def boundedText {max : Nat} (value : CharArray max) : Bool :=
  decide (0 < boundedStrlen value ∧ boundedStrlen value ≤ max)

/-- `copy_output`, into an output of any size; the text goes over with its terminator. -/
def copyOutput (value : CharArray limits.appNameMax) (output : CharArray outMax) :
    CharArray outMax × Bool :=
  let length := boundedStrlen value
  if outMax < length then (clearOutput output, false)
  else
    (Vector.ofFn fun i => if i ≤ length then value.toList.getD i 0 else output.get i, true)

/-- What `find_entry` looks for. -/
def holds (appId : CharArray limits.appIdMax) (entry : AncsAppResolverEntry limits) : Bool :=
  entry.used && text entry.appId == text appId

def findEntry (resolver : AncsAppResolver limits capacity) (appId : CharArray limits.appIdMax) :
    Option (Fin capacity.entries) :=
  AgedTable.find resolver.entries (holds appId)

def replacementEntry (resolver : AncsAppResolver limits capacity)
    (appId : CharArray limits.appIdMax) : Fin capacity.entries :=
  AgedTable.replacement AncsAppResolverEntry.used AncsAppResolverEntry.age (holds appId)
    resolver.entries ⟨0, capacity.range.1⟩

/-- `ancs_app_resolver_begin`: the resolver, the output and the answer. -/
def begin (resolver : AncsAppResolver limits capacity) (appId : CharArray limits.appIdMax)
    (output : CharArray outMax) :
    AncsAppResolver limits capacity × CharArray outMax × AncsAppResolution :=
  let cleared := clearOutput output
  if !boundedText appId then (resolver, cleared, .useFallback)
  else
    match resolver.findEntry appId with
    | none => (resolver, cleared, .requestNative)
    | some index =>
      let (output, copied) := copyOutput resolver.entries[index].displayName cleared
      if !copied then (resolver, output, .useFallback)
      else
        let age := resolver.age + 1
        let entry := { resolver.entries[index] with age }
        ({ age, entries := resolver.entries.set index entry index.isLt }, output, .useNative)

def complete (resolver : AncsAppResolver limits capacity) (appId : CharArray limits.appIdMax)
    (displayName : CharArray limits.appNameMax) (output : CharArray outMax) :
    AncsAppResolver limits capacity × CharArray outMax × AncsAppResolution :=
  let cleared := clearOutput output
  if !boundedText appId || !boundedText displayName then (resolver, cleared, .useFallback)
  else
    let (output, copied) := copyOutput displayName cleared
    if !copied then (resolver, output, .useFallback)
    else
      let index := resolver.replacementEntry appId
      let age := resolver.age + 1
      let entry := {
        used := true
        age
        appId := strlcpy resolver.entries[index].appId appId
        displayName := strlcpy resolver.entries[index].displayName displayName }
      ({ age, entries := resolver.entries.set index entry index.isLt }, output, .useNative)

def fail (output : CharArray outMax) : CharArray outMax × AncsAppResolution :=
  (clearOutput output, .useFallback)

theorem bounded_of_requestNative {resolver : AncsAppResolver limits capacity}
    {appId : CharArray limits.appIdMax} {output : CharArray outMax}
    (request : (resolver.begin appId output).2.2 = .requestNative) : boundedText appId = true := by
  unfold begin at request
  dsimp only at request
  split at request
  · cases request
  · next bounded => simpa using bounded

def content (entry : AncsAppResolverEntry limits) : List UInt8 × List UInt8 :=
  (text entry.appId, text entry.displayName)

theorem holds_iff (appId : CharArray limits.appIdMax) (entry : AncsAppResolverEntry limits) :
    holds appId entry = true ↔ entry.used = true ∧ (content entry).1 = text appId := by
  simp [holds, content]

theorem valid_of_bounded {max : Nat} {value : CharArray max} (bounded : boundedText value = true) :
    fieldValid value = true := by
  unfold boundedText at bounded
  unfold fieldValid
  simp only [decide_eq_true_eq] at bounded ⊢
  exact bounded.2

theorem copyOutput_valid {value : CharArray limits.appNameMax} (valid : fieldValid value = true)
    (room : limits.appNameMax ≤ outMax) (output : CharArray outMax) :
    (copyOutput value output).2 = true ∧ text (copyOutput value output).1 = text value := by
  have short : boundedStrlen value ≤ limits.appNameMax := by simpa [fieldValid] using valid
  have length : (text value).length ≤ limits.appNameMax := short
  have fits : ¬outMax < boundedStrlen value := by omega
  simp only [copyOutput, fits, ↓reduceIte, true_and]
  refine text_eq_of (Nat.le_trans length room) (text_nonzero value) ?_ ?_
  · intro i inside
    rw [text_getElem value i inside (by omega)]
    have copied : i ≤ boundedStrlen value := Nat.le_of_lt inside
    have in_array : i < limits.appNameMax + 1 := by omega
    simp [copied, List.getD_eq_getElem?_getD, in_array]
  · have ends := text_terminated value (by omega)
    have in_array : (text value).length < limits.appNameMax + 1 := by omega
    simpa [boundedStrlen, List.getD_eq_getElem?_getD, in_array] using ends

end AncsAppResolver

structure ResolverOutput (limits : AncsLimits) where
  max : Nat
  bytes : CharArray max
  room : limits.appNameMax ≤ max

inductive ResolverCall (limits : AncsLimits) where
  | begin (appId : CharArray limits.appIdMax) (output : ResolverOutput limits)
  | complete (appId : CharArray limits.appIdMax) (displayName : CharArray limits.appNameMax)
      (output : ResolverOutput limits)

structure ResolverRun (limits : AncsLimits) (capacity : AppCacheCapacity) where
  resolver : AncsAppResolver limits capacity
  uses : List (Use (List UInt8) (List UInt8))

namespace ResolverRun
variable {limits : AncsLimits} {capacity : AppCacheCapacity}
open AncsAppResolver

def init : ResolverRun limits capacity where
  resolver := AncsAppResolver.init
  uses := []

def answered (run : ResolverRun limits capacity) (resolver : AncsAppResolver limits capacity)
    (answer : AncsAppResolution) (use : Use (List UInt8) (List UInt8)) : ResolverRun limits capacity :=
  { resolver, uses := if answer = .useNative then run.uses ++ [use] else run.uses }

def step (run : ResolverRun limits capacity) : ResolverCall limits → ResolverRun limits capacity
  | .begin appId output =>
    let (resolver, _, answer) := run.resolver.begin appId output.bytes
    run.answered resolver answer (.found (text appId))
  | .complete appId displayName output =>
    let (resolver, _, answer) := run.resolver.complete appId displayName output.bytes
    run.answered resolver answer (.stored (text appId) (text displayName))

structure Models (run : ResolverRun limits capacity) (list : List (List UInt8 × List UInt8)) : Prop where
  lists : AgedTable.Lists AncsAppResolverEntry.used AncsAppResolverEntry.age content Prod.fst
    run.resolver.entries run.resolver.age list
  tracks : Tracks capacity.entries run.uses list
  valid : ∀ index : Fin capacity.entries, run.resolver.entries[index].used = true →
    fieldValid run.resolver.entries[index].displayName = true ∧
      boundedText run.resolver.entries[index].appId = true
  counted : run.resolver.age.toNat = run.uses.length

theorem models_init : Models (init : ResolverRun limits capacity) [] where
  lists := AgedTable.lists_empty (by simp [init, AncsAppResolver.init])
  tracks := tracks_nil _
  valid index no := absurd no (by simp [init, AncsAppResolver.init])
  counted := rfl

/-- A name is found for the app ids that were used last, and only for them. -/
theorem begin_found {run : ResolverRun limits capacity} {list : List (List UInt8 × List UInt8)}
    (models : Models run list) (appId : CharArray limits.appIdMax) (output : ResolverOutput limits) :
    (∃ index name, text appId ∈ recentKeys capacity.entries run.uses ∧
      run.resolver.findEntry appId = some index ∧
      lookup Prod.fst list (text appId) = some (text appId, name) ∧
      lastStored run.uses (text appId) = some name ∧
      text (run.resolver.begin appId output.bytes).2.1 = name ∧
      (run.resolver.begin appId output.bytes).2.2 = .useNative ∧
      (run.resolver.begin appId output.bytes).1 =
        { age := run.resolver.age + 1,
          entries := run.resolver.entries.set index
            { run.resolver.entries[index] with age := run.resolver.age + 1 } index.isLt }) ∨
    text appId ∉ recentKeys capacity.entries run.uses ∧
      (run.resolver.begin appId output.bytes).2.2 ≠ .useNative ∧
      (run.resolver.begin appId output.bytes).1 = run.resolver := by
  have found_iff := AgedTable.lists_find models.lists (holds_iff appId)
  cases found : run.resolver.findEntry appId with
  | some index =>
    obtain ⟨in_use, same⟩ := (holds_iff appId _).mp (AgedTable.find_eq_some found)
    obtain ⟨valid, bounded⟩ := models.valid index in_use
    have same_text : text run.resolver.entries[index].appId = text appId := same
    have listed : lookup Prod.fst list (text appId) =
        some (text appId, text run.resolver.entries[index].displayName) := by
      rw [← found_iff]
      unfold findEntry at found
      rw [found, Option.map_some, content, same_text]
    have member := ((lookup_eq_some (tracks_nodup models.tracks)).mp listed).1
    have recent : text appId ∈ recentKeys capacity.entries run.uses := by
      rw [← models.tracks.keys]
      exact List.mem_map_of_mem member
    have bounded_id : boundedText appId = true := by
      unfold boundedText boundedStrlen at bounded ⊢
      rw [← same_text]
      exact bounded
    obtain ⟨copied, name⟩ := copyOutput_valid valid output.room (clearOutput output.bytes)
    refine .inl ⟨index, _, recent, rfl, listed, models.tracks.values _ member, ?_⟩
    cases copy : copyOutput run.resolver.entries[index].displayName (clearOutput output.bytes) with
    | mk copy_ ok_ =>
      rw [copy] at copied name
      dsimp only at copied name
      subst copied
      simp only [AncsAppResolver.begin, bounded_id, found, copy]
      exact ⟨name, rfl, rfl⟩
  | none =>
    refine .inr ⟨?_, ?_⟩
    · rw [← models.tracks.keys]
      unfold findEntry at found
      rw [found, Option.map_none] at found_iff
      exact lookup_eq_none.mp found_iff.symm
    · unfold AncsAppResolver.begin
      rw [found]
      dsimp only
      split <;> simp

theorem complete_stored (resolver : AncsAppResolver limits capacity)
    (appId : CharArray limits.appIdMax) (displayName : CharArray limits.appNameMax)
    (output : ResolverOutput limits) :
    boundedText appId = true ∧ boundedText displayName = true ∧
      (resolver.complete appId displayName output.bytes).2.2 = .useNative ∧
      (∃ entry : AncsAppResolverEntry limits, entry.used = true ∧ entry.age = resolver.age + 1 ∧
        content entry = (text appId, text displayName) ∧
        fieldValid entry.displayName = true ∧ boundedText entry.appId = true ∧
        (resolver.complete appId displayName output.bytes).1 =
          { age := resolver.age + 1,
            entries := resolver.entries.set (resolver.replacementEntry appId) entry (Fin.isLt _) }) ∨
    ¬(boundedText appId = true ∧ boundedText displayName = true) ∧
      (resolver.complete appId displayName output.bytes).2.2 ≠ .useNative ∧
      (resolver.complete appId displayName output.bytes).1 = resolver := by
  by_cases bounded : boundedText appId = true ∧ boundedText displayName = true
  · obtain ⟨bounded_id, bounded_name⟩ := bounded
    have valid_id := valid_of_bounded bounded_id
    have valid_name := valid_of_bounded bounded_name
    obtain ⟨copied, -⟩ := copyOutput_valid valid_name output.room (clearOutput output.bytes)
    refine .inl ⟨bounded_id, bounded_name, ?_⟩
    cases copy : copyOutput displayName (clearOutput output.bytes) with
    | mk copy_ ok_ =>
      rw [copy] at copied
      dsimp only at copied
      subst copied
      simp only [complete, bounded_id, bounded_name, copy]
      refine ⟨rfl, _, rfl, rfl, ?_, ?_, ?_, rfl⟩
      · simp only [content]
        rw [text_strlcpy _ valid_id, text_strlcpy _ valid_name]
      · exact fieldValid_strlcpy _ valid_name
      · unfold boundedText boundedStrlen at bounded_id ⊢
        dsimp only
        rw [text_strlcpy _ valid_id]
        exact bounded_id
  · refine .inr ⟨bounded, ?_⟩
    have refused : (!boundedText appId || !boundedText displayName) = true := by
      simpa [Bool.or_eq_true, imp_iff_not_or] using bounded
    simp [complete, refused]

theorem uses_le_step (run : ResolverRun limits capacity) (call : ResolverCall limits) :
    run.uses.length ≤ (run.step call).uses.length ∧
      (run.step call).uses.length ≤ run.uses.length + 1 := by
  have answered_ (resolver : AncsAppResolver limits capacity) (answer : AncsAppResolution)
      (use : Use (List UInt8) (List UInt8)) :
      run.uses.length ≤ (run.answered resolver answer use).uses.length ∧
        (run.answered resolver answer use).uses.length ≤ run.uses.length + 1 := by
    unfold answered
    dsimp only
    split <;> simp
  cases call with
  | begin appId output => exact answered_ _ _ _
  | complete appId displayName output => exact answered_ _ _ _

theorem models_write {run : ResolverRun limits capacity} {list : List (List UInt8 × List UInt8)}
    (models : Models run list) {appId : CharArray limits.appIdMax} {name : List UInt8}
    {use : Use (List UInt8) (List UInt8)} (entry : AncsAppResolverEntry limits)
    (key : use.key = text appId) (gives : lastStored (run.uses ++ [use]) use.key = some name)
    (in_use : entry.used = true) (youngest : entry.age = run.resolver.age + 1)
    (holds_ : content entry = (text appId, name)) (valid : fieldValid entry.displayName = true)
    (bounded : boundedText entry.appId = true) (few : run.uses.length + 1 < 2 ^ 32) :
    Models {
        resolver := {
          age := run.resolver.age + 1
          entries := run.resolver.entries.set (run.resolver.replacementEntry appId) entry (Fin.isLt _) }
        uses := run.uses ++ [use] }
      (store Prod.fst capacity.entries list (text appId, name)) where
  lists := by
    have room : run.resolver.age.toNat + 1 < 2 ^ 32 := models.counted ▸ few
    rw [← holds_]
    exact AgedTable.lists_store models.lists (holds_iff appId) _ in_use youngest
      (congrArg Prod.fst holds_) room
  tracks := key ▸ tracks_use capacity.range.1 models.tracks gives
  valid index used := by
    by_cases same : run.resolver.replacementEntry appId = index
    · subst same
      simpa using And.intro valid bounded
    · have other : (run.resolver.replacementEntry appId).val ≠ index.val :=
        fun equal => same (Fin.ext equal)
      simp only [Fin.getElem_fin, Vector.getElem_set_ne _ index.isLt other] at used ⊢
      exact models.valid index used
  counted := by
    rw [UInt32.toNat_add, models.counted, List.length_append]
    simp only [UInt32.reduceToNat, List.length_singleton]
    omega

/-- A call keeps the resolver a list of the names used last, while its counter has room. -/
theorem models_step {run : ResolverRun limits capacity} {list : List (List UInt8 × List UInt8)}
    (models : Models run list) (call : ResolverCall limits)
    (few : (run.step call).uses.length < 2 ^ 32) : ∃ list, Models (run.step call) list := by
  cases call with
  | begin appId output =>
    rcases begin_found models appId output with
      ⟨index, name, -, found, listed, stored, -, native, resolver⟩ | ⟨-, refused, resolver⟩
    · simp only [step, resolver, native, answered, ↓reduceIte, List.length_append,
        List.length_singleton] at few ⊢
      obtain ⟨in_use, -⟩ := (holds_iff appId _).mp (AgedTable.find_eq_some found)
      obtain ⟨valid, bounded⟩ := models.valid index in_use
      have place : run.resolver.replacementEntry appId = index := by
        unfold findEntry at found
        simp only [replacementEntry, AgedTable.replacement, found]
      have content_ : content run.resolver.entries[index] = (text appId, name) := by
        have found_iff := AgedTable.lists_find models.lists (holds_iff appId)
        unfold findEntry at found
        rw [found, listed, Option.map_some] at found_iff
        exact Option.some_injective _ found_iff
      have gives : lastStored (run.uses ++ [.found (text appId)]) (text appId) = some name := by
        rw [lastStored_concat]
        exact stored
      have key : (Use.found (text appId) : Use (List UInt8) (List UInt8)).key = text appId := rfl
      have written := models_write models { run.resolver.entries[index] with age := run.resolver.age + 1 }
        key gives in_use rfl content_ valid bounded few
      rw [place] at written
      exact ⟨_, written⟩
    · simp only [step, resolver, answered, refused, ↓reduceIte]
      exact ⟨list, models⟩
  | complete appId displayName output =>
    rcases complete_stored run.resolver appId displayName output with
      ⟨-, -, native, entry, in_use, youngest, content_, valid, bounded, resolver⟩ |
      ⟨-, refused, resolver⟩
    · simp only [step, resolver, native, answered, ↓reduceIte, List.length_append,
        List.length_singleton] at few ⊢
      have gives : lastStored (run.uses ++ [.stored (text appId) (text displayName)]) (text appId) =
          some (text displayName) := by
        rw [lastStored_concat]
        simp [Use.gives]
      exact ⟨_, models_write models entry rfl gives in_use youngest content_ valid bounded few⟩
    · simp only [step, resolver, answered, refused, ↓reduceIte]
      exact ⟨list, models⟩

theorem models_run {run : ResolverRun limits capacity} {list : List (List UInt8 × List UInt8)}
    (models : Models run list) (calls : List (ResolverCall limits))
    (few : (Runs.run step run calls).uses.length < 2 ^ 32) :
    ∃ list, Models (Runs.run step run calls) list := by
  have grows (run : ResolverRun limits capacity) (calls : List (ResolverCall limits)) :
      run.uses.length ≤ (Runs.run step run calls).uses.length := by
    induction calls generalizing run with
    | nil => exact Nat.le_refl _
    | cons call rest ih => exact Nat.le_trans (uses_le_step run call).1 (ih (run.step call))
  induction calls generalizing run list with
  | nil => exact ⟨list, models⟩
  | cons call rest ih =>
    obtain ⟨list', models'⟩ := models_step models call (Nat.lt_of_le_of_lt (grows _ rest) few)
    exact ih models' few

/-- What the resolver answers is what the app ids used last say, and only a use changes it. -/
structure LeastRecentlyUsed (run : ResolverRun limits capacity) : Prop where
  begin_native : ∀ (appId : CharArray limits.appIdMax) (output : ResolverOutput limits),
    (run.resolver.begin appId output.bytes).2.2 = .useNative ↔
      text appId ∈ recentKeys capacity.entries run.uses
  begin_name : ∀ (appId : CharArray limits.appIdMax) (output : ResolverOutput limits),
    (run.resolver.begin appId output.bytes).2.2 = .useNative →
      lastStored run.uses (text appId) = some (text (run.resolver.begin appId output.bytes).2.1)
  complete_native : ∀ (appId : CharArray limits.appIdMax) (displayName : CharArray limits.appNameMax)
    (output : ResolverOutput limits),
    (run.resolver.complete appId displayName output.bytes).2.2 = .useNative ↔
      boundedText appId = true ∧ boundedText displayName = true
  distinct : ∀ i j : Fin capacity.entries, run.resolver.entries[i].used = true →
    run.resolver.entries[j].used = true →
    text run.resolver.entries[i].appId = text run.resolver.entries[j].appId → i = j
  begin_unchanged : ∀ (appId : CharArray limits.appIdMax) (output : ResolverOutput limits),
    (run.resolver.begin appId output.bytes).2.2 ≠ .useNative →
      (run.resolver.begin appId output.bytes).1 = run.resolver
  complete_unchanged : ∀ (appId : CharArray limits.appIdMax)
    (displayName : CharArray limits.appNameMax) (output : ResolverOutput limits),
    (run.resolver.complete appId displayName output.bytes).2.2 ≠ .useNative →
      (run.resolver.complete appId displayName output.bytes).1 = run.resolver

theorem least_recently_used_of_models {run : ResolverRun limits capacity}
    {list : List (List UInt8 × List UInt8)} (models : Models run list) : LeastRecentlyUsed run where
  begin_native appId output := by
    rcases begin_found models appId output with ⟨_, _, recent, -, -, -, -, native, -⟩ | ⟨absent, refused, -⟩
    · exact iff_of_true native recent
    · exact iff_of_false refused absent
  begin_name appId output native := by
    rcases begin_found models appId output with ⟨_, _, -, -, -, stored, name, -, -⟩ | ⟨-, refused, -⟩
    · rw [name]
      exact stored
    · exact absurd native refused
  complete_native appId displayName output := by
    rcases complete_stored run.resolver appId displayName output with
      ⟨bounded_id, bounded_name, native, -⟩ | ⟨unbounded, refused, -⟩
    · exact iff_of_true native ⟨bounded_id, bounded_name⟩
    · exact iff_of_false refused unbounded
  distinct _ _ used_i used_j same := AgedTable.lists_distinct models.lists used_i used_j same
  begin_unchanged appId output refused := by
    rcases begin_found models appId output with ⟨_, _, -, -, -, -, -, native, -⟩ | ⟨-, -, unchanged⟩
    · exact absurd native refused
    · exact unchanged
  complete_unchanged appId displayName output refused := by
    rcases complete_stored run.resolver appId displayName output with ⟨-, -, native, -⟩ | ⟨-, -, unchanged⟩
    · exact absurd native refused
    · exact unchanged

/-- After any calls with fewer than 2^32 uses, the resolver is a map of the names used last. -/
theorem least_recently_used (calls : List (ResolverCall limits))
    (few : (Runs.run step (init : ResolverRun limits capacity) calls).uses.length < 2 ^ 32) :
    LeastRecentlyUsed (Runs.run step (init : ResolverRun limits capacity) calls) := by
  obtain ⟨list, models⟩ := models_run models_init calls few
  exact least_recently_used_of_models models

theorem uses_le_calls (run : ResolverRun limits capacity) (calls : List (ResolverCall limits)) :
    (Runs.run step run calls).uses.length ≤ run.uses.length + calls.length := by
  induction calls generalizing run with
  | nil => exact Nat.le_refl _
  | cons call rest ih =>
    have later := ih (run.step call)
    have now := (uses_le_step run call).2
    rw [run_cons, List.length_cons]
    omega

theorem least_recently_used_two :
    LeastRecentlyUsed (Runs.run step
      (init : ResolverRun AncsLimits.default { entries := 1, range := by decide })
      [.complete (ofText _ [65]) (ofText _ [78]) { max := _, bytes := zeroed, room := Nat.le_refl _ },
        .begin (ofText _ [65]) { max := _, bytes := zeroed, room := Nat.le_refl _ }]) :=
  least_recently_used _ (Nat.lt_of_le_of_lt (uses_le_calls _ _) (by decide))

end ResolverRun
