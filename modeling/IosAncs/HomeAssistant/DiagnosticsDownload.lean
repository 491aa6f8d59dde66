import IosAncs.HomeAssistant.Diagnostics

/-!
The diagnostics download parses once more what the runtime has parsed already. What a parsed
mapping holds under each key is told from the parsed one, and compared with a second parsing.
The source is `diagnostics.py`.
-/
open StatusValue

namespace Diagnostics

/-- What `async_get_config_entry_diagnostics` answers. -/
structure Download where
  connection : Attributes
  statusFresh : Bool
  available : Option Bool

/-- `async_get_config_entry_diagnostics` of an entry with a runtime -/
def configEntryDiagnostics (r : DiagnosticsRuntime) (now : ℚ) : Download where
  connection := parseDiagnostics r.diagnostics
  statusFresh := r.fresh now
  available := r.available

def SameMapping (first second : Attributes) : Prop := ∀ key, get first key = get second key

def copied (data : Attributes) (key : String) : Option StatusValue :=
  if key ∈ boolFields then (boolField data key).map Prod.snd
  else if key ∈ intFields then (intField data key).map Prod.snd
  else if key = "firmware_elf_sha256" then (digestField data).map Prod.snd
  else none

def PeersKnown (data : Attributes) : Prop :=
  copied data "bond_store_known" = some (.boolean true) ∧
    0 ≤ (int? (copied data "stored_peer_count")).getD (-1)

instance (data : Attributes) : Decidable (PeersKnown data) := inferInstanceAs (Decidable (_ ∧ _))

def parsedValue (data : Attributes) (key : String) : Option StatusValue :=
  if key = "stored_peer_count" ∧ ¬ PeersKnown data then some .null
  else if key = "boot_peer_count" ∧ (int? (copied data "boot_peer_count")).any (· < 0) then some .null
  else copied data key

theorem get_append (first second : Attributes) (key : String) :
    get (first ++ second) key = (get first key).or (get second key) := List.lookup_append

theorem get_digest (data : Attributes) (key : String) : get (digestField data).toList key =
    if key = "firmware_elf_sha256" then (digestField data).map Prod.snd else none := by
  unfold StatusValue.get digestField
  split
  · split
    · by_cases same : key = "firmware_elf_sha256"
      · simp [same]
      · simp [same]
    · simp
  · simp

theorem get_copied (data : Attributes) (key : String) :
    get (boolFields.filterMap (boolField data) ++ intFields.filterMap (intField data) ++
      (digestField data).toList) key = copied data key := by
  have apart : ∀ key ∈ boolFields, key ∉ intFields ∧ key ≠ "firmware_elf_sha256" := by decide
  have apart' : ∀ key ∈ intFields, key ≠ "firmware_elf_sha256" := by decide
  rw [get_append, get_append, get_fields (own_boolField data), get_fields (own_intField data), get_digest]
  unfold copied
  by_cases flag : key ∈ boolFields
  · simp [flag, apart key flag]
  · by_cases number : key ∈ intFields
    · simp [flag, number, apart' key number]
    · simp [flag, number]

theorem get_put_self (data : Attributes) (key : String) (value : StatusValue) :
    get (put data key value) key = some value := by
  simp [StatusValue.get, put]

theorem get_parse (data : Attributes) (key : String) :
    get (parseDiagnostics data) key = parsedValue data key := by
  have fields := get_copied data
  unfold parseDiagnostics
  generalize boolFields.filterMap (boolField data) ++ intFields.filterMap (intField data) ++
    (digestField data).toList = result at fields ⊢
  dsimp only
  have known : (get result "bond_store_known" ≠ some (.boolean true) ∨
      (int? (get result "stored_peer_count")).getD (-1) < 0) ↔ ¬ PeersKnown data := by
    rw [fields, fields, PeersKnown, not_and_or, not_le]
  -- the numbers of stored peers first, under every key
  have counted : ∀ key, get (if get result "bond_store_known" ≠ some (.boolean true) ∨
        (int? (get result "stored_peer_count")).getD (-1) < 0 then put result "stored_peer_count" .null
      else result) key =
      if key = "stored_peer_count" ∧ ¬ PeersKnown data then some .null else copied data key := by
    intro key
    by_cases unknown : PeersKnown data
    · rw [if_neg (by rw [known]; simp [unknown]), if_neg (by simp [unknown])]
      exact fields key
    · rw [if_pos (known.mpr unknown)]
      by_cases same : key = "stored_peer_count"
      · rw [if_pos ⟨same, unknown⟩, same, get_put_self]
      · rw [if_neg (by simp [same]), get_put_of_ne _ same, fields]
  generalize (if get result "bond_store_known" ≠ some (.boolean true) ∨
        (int? (get result "stored_peer_count")).getD (-1) < 0 then put result "stored_peer_count" .null
      else result) = counted_ at counted ⊢
  have boot : get counted_ "boot_peer_count" = copied data "boot_peer_count" := by
    rw [counted, if_neg (by simp)]
  rw [boot]
  unfold parsedValue
  split
  · next n number =>
    rw [number]
    split
    · next negative =>
      by_cases same : key = "boot_peer_count"
      · subst same
        rw [get_put_self, if_neg (by simp), if_pos (by simp [negative])]
      · rw [get_put_of_ne _ same, counted]
        simp [same]
    · next sensible => simp [counted, sensible]
  · next none_ => simp [counted, none_]

theorem toLower_hex {c : Char} (hex : isHexDigit c = true) :
    isHexDigit c.toLower = true ∧ c.toLower.toLower = c.toLower := by
  have all : "0123456789abcdefABCDEF".toList.all (fun c =>
      isHexDigit c.toLower && c.toLower.toLower == c.toLower) = true := by decide +kernel
  have each := List.all_eq_true.mp all c (by simpa [isHexDigit] using hex)
  simpa only [Bool.and_eq_true, beq_iff_eq] using each

theorem intField_cases (data : Attributes) (key : String) : intField data key = none ∨
    ∃ n : Int, (-(2 ^ 63) ≤ n ∧ n < 2 ^ 64) ∧ intField data key = some (key, .int n) := by
  unfold intField
  split
  · next n number =>
    by_cases range : -(2 ^ 63) ≤ n ∧ n < 2 ^ 64
    · exact .inr ⟨n, range, if_pos range⟩
    · exact .inl (if_neg range)
  · exact .inl rfl

theorem digestField_cases (data : Attributes) : digestField data = none ∨
    ∃ digest : String, (digest.length = 64 ∧ digest.toList.all isHexDigit = true) ∧
      digest.toList.map Char.toLower = digest.toList ∧
      digestField data = some ("firmware_elf_sha256", .text digest) := by
  unfold digestField
  split
  · next digest text =>
    split
    · next hex =>
      refine .inr ⟨_, ⟨?_, ?_⟩, ?_, rfl⟩
      · rw [String.length_ofList, List.length_map, String.length_toList]
        exact hex.1
      · rw [String.toList_ofList, List.all_map]
        exact List.all_eq_true.mpr fun c member => (toLower_hex (List.all_eq_true.mp hex.2 c member)).1
      · rw [String.toList_ofList, List.map_map]
        exact List.map_congr_left fun c member => (toLower_hex (List.all_eq_true.mp hex.2 c member)).2
    · exact .inl rfl
  · exact .inl rfl

theorem copied_again {data parsed : Attributes} {key : String} (same : get parsed key = copied data key) :
    copied parsed key = copied data key := by
  unfold copied at same ⊢
  split
  · next flag =>
    rw [if_pos flag] at same
    rw [boolField, same, boolField]
    cases bool? (get data key) with
    | none => rfl
    | some value => rfl
  · next flag =>
    rw [if_neg flag] at same
    split
    · next number =>
      rw [if_pos number] at same
      rw [intField, same]
      rcases intField_cases data key with dropped | ⟨n, range, kept⟩
      · simp [dropped, int?]
      · rw [kept]
        exact congrArg (Option.map Prod.snd) (if_pos range)
    · next number =>
      rw [if_neg number] at same
      split
      · next digest =>
        rw [if_pos digest, digest] at same
        rw [digestField, same]
        rcases digestField_cases data with dropped | ⟨text, hex, lower, kept⟩
        · simp [dropped]
        · rw [kept]
          simp [hex, lower]
      · rfl

theorem copied_null {parsed : Attributes} {key : String} (null : get parsed key = some .null) :
    copied parsed key = none := by
  unfold copied boolField intField digestField
  by_cases digest : key = "firmware_elf_sha256"
  · rw [digest] at null ⊢
    simp [null, bool?, int?]
  · simp [null, bool?, int?, digest]

def BootUnknown (data : Attributes) : Prop :=
  ∃ n : Int, get data "boot_peer_count" = some (.int n) ∧ -(2 ^ 63) ≤ n ∧ n < 0

theorem bootUnknown_iff (data : Attributes) :
    (int? (copied data "boot_peer_count")).any (· < 0) = true ↔ BootUnknown data := by
  have number : copied data "boot_peer_count" = (intField data "boot_peer_count").map Prod.snd := by
    rw [copied, if_neg (by decide), if_pos (by decide)]
  rw [number]
  constructor
  · intro negative
    rcases intField_cases data "boot_peer_count" with dropped | ⟨n, range, kept⟩
    · simp [dropped, int?] at negative
    · rw [kept] at negative
      refine ⟨n, ?_, range.1, by simpa [int?] using negative⟩
      unfold intField int? at kept
      split at kept
      · next value number =>
        split at number
        · next m here =>
          cases number
          split at kept
          · cases kept
            exact here
          · cases kept
        · cases number
      · cases kept
  · rintro ⟨n, here, low, negative⟩
    have kept : intField data "boot_peer_count" = some ("boot_peer_count", .int n) := by
      rw [intField, here]
      exact if_pos ⟨low, by omega⟩
    simp [kept, int?, negative]

instance (data : Attributes) : Decidable (BootUnknown data) :=
  decidable_of_iff _ (bootUnknown_iff data)

theorem copied_parse (data : Attributes) (key : String) : copied (parseDiagnostics data) key =
    if key = "stored_peer_count" ∧ ¬ PeersKnown data then none
    else if key = "boot_peer_count" ∧ (int? (copied data "boot_peer_count")).any (· < 0) then none
    else copied data key := by
  have parsed := get_parse data key
  unfold parsedValue at parsed
  split at parsed
  · next unknown =>
    rw [if_pos unknown]
    exact copied_null parsed
  · next stored =>
    rw [if_neg stored]
    split at parsed
    · next negative =>
      rw [if_pos negative]
      exact copied_null parsed
    · next boot =>
      rw [if_neg boot]
      exact copied_again parsed

theorem peersKnown_parse (data : Attributes) : PeersKnown (parseDiagnostics data) ↔ PeersKnown data := by
  by_cases known : PeersKnown data
  · have kept : PeersKnown (parseDiagnostics data) := by
      rw [PeersKnown, copied_parse, copied_parse, if_neg (by simp), if_neg (by simp), if_neg (by simp [known]),
        if_neg (by simp)]
      exact known
    simp [known, kept]
  · have lost : ¬ PeersKnown (parseDiagnostics data) := by
      rw [PeersKnown, copied_parse data "stored_peer_count", if_pos ⟨rfl, known⟩]
      simp [int?]
    simp [known, lost]

theorem parsedValue_parse (data : Attributes) (key : String) : parsedValue (parseDiagnostics data) key =
    if key = "boot_peer_count" ∧ BootUnknown data then none else parsedValue data key := by
  unfold parsedValue
  simp only [peersKnown_parse, copied_parse, ← bootUnknown_iff]
  by_cases stored : key = "stored_peer_count" ∧ ¬ PeersKnown data
  · simp [stored]
  · by_cases boot : key = "boot_peer_count"
    · subst boot
      by_cases negative : (int? (copied data "boot_peer_count")).any (· < 0) = true
      · have dropped : int? none = none := rfl
        simp [negative, dropped]
      · simp [negative]
    · simp [stored, boot]

/-- Parsing again gives the same mapping exactly where the number of peers at boot was not a
    negative one that fits. -/
theorem parse_twice_iff (data : Attributes) :
    SameMapping (parseDiagnostics (parseDiagnostics data)) (parseDiagnostics data) ↔
      ¬ BootUnknown data := by
  have twice : SameMapping (parseDiagnostics (parseDiagnostics data)) (parseDiagnostics data) ↔
      ∀ key, (if key = "boot_peer_count" ∧ BootUnknown data then none else parsedValue data key) =
        parsedValue data key := by
    unfold SameMapping
    simp only [get_parse, parsedValue_parse]
  rw [twice]
  constructor
  · intro same unknown
    have lost := same "boot_peer_count"
    rw [if_pos ⟨rfl, unknown⟩, parsedValue, if_neg (by simp),
      if_pos ⟨rfl, (bootUnknown_iff data).mpr unknown⟩] at lost
    cases lost
  · intro sensible key
    rw [if_neg (by simp [sensible])]

/-- A device that does not know the number of peers at boot sends -1 for it: the first parsing
    keeps the key, without a number, and the second one drops it. -/
theorem boot_sentinel_is_lost : ¬ ∀ data : Attributes,
    SameMapping (parseDiagnostics (parseDiagnostics data)) (parseDiagnostics data) := by
  intro all
  have same := all [("boot_peer_count", .int (-1))] "boot_peer_count"
  revert same
  decide

/-- Every field of the download has the value that the sensors show, where a missing key counts
    as unknown. -/
theorem download_values (r : DiagnosticsRuntime) (now : ℚ) (data : Attributes)
    (parsed : r.diagnostics = parseDiagnostics data) (key : String) :
    (get (configEntryDiagnostics r now).connection key).getD .null =
      (get r.diagnostics key).getD .null := by
  rw [configEntryDiagnostics, parsed, get_parse, get_parse, parsedValue_parse]
  split
  · next lost =>
    rw [lost.1, parsedValue, if_neg (by simp), if_pos ⟨rfl, (bootUnknown_iff data).mpr lost.2⟩]
    rfl
  · rfl

end Diagnostics
