import Mathlib.Data.Finset.Basic

/-!
What the integration accepts as a notification, and the window of relay ids in which
it looks for duplicates. Decoding is Python's; a value stands for what it returns.
The source is `notification.py`.
-/

/-- A decoded value; a number is kept as it was written. -/
inductive PayloadValue where
  | null
  | boolean (b : Bool)
  | number (literal : String)
  | text (s : String)
  | array (items : List PayloadValue)
  | object (entries : List (String × PayloadValue))

namespace PayloadValue

/-- A `dict`, with its keys in the order in which they came. -/
abbrev Mapping := List (String × PayloadValue)

def get (data : Mapping) (key : String) : Option PayloadValue := data.lookup key

/-- `dict.pop` with a default. -/
def pop (data : Mapping) (key : String) : Mapping := data.filter fun entry => entry.1 != key

/-- `data[key] = value` -/
def put (data : Mapping) (key : String) (value : PayloadValue) : Mapping :=
  if data.any fun entry => entry.1 == key then
    data.map fun entry => if entry.1 = key then (key, value) else entry
  else data ++ [(key, value)]

def isTrue : Option PayloadValue → Bool
  | some (.boolean true) => true
  | _ => false

def isText (s : String) : Option PayloadValue → Bool
  | some (.text t) => t == s
  | _ => false

/-- The characters that `str.strip` takes away. -/
def isSpace (c : Char) : Bool :=
  let n := c.toNat
  (9 ≤ n && n ≤ 13) || (28 ≤ n && n ≤ 32) || n == 0x85 || n == 0xA0 || n == 0x1680 ||
    (0x2000 ≤ n && n ≤ 0x200A) || n == 0x2028 || n == 0x2029 || n == 0x202F || n == 0x205F ||
    n == 0x3000

def isBlank (s : String) : Bool := s.toList.all isSpace

def relayId (data : Mapping) : Option String :=
  match get data "relay_id" with
  | some (.text relayId) => if isBlank relayId then none else some relayId
  | _ => none

end PayloadValue

def defaultRelayIdWindowSize : Nat := 128
def haEchoAppId : String := "io.robbie.HomeAssistant"

/-- The constructor raises where the limit is not positive. -/
structure RelayIdWindow where
  limit : Nat
  queue : List String
  ids : Finset String
  limit_pos : 0 < limit

namespace RelayIdWindow

def init (limit : Nat) (limit_pos : 0 < limit) : RelayIdWindow :=
  { limit, queue := [], ids := ∅, limit_pos }

def add (window : RelayIdWindow) (relayId : String) : RelayIdWindow :=
  if relayId ∈ window.ids then window
  else
    let longer := window.queue ++ [relayId]
    let ids := insert relayId window.ids
    if window.limit < longer.length then
      -- `set.remove` raises for an absent id; the oldest one is there while the window is sound
      match longer with
      | oldest :: queue => { window with queue, ids := ids.erase oldest }
      | [] => { window with queue := [], ids }
    else { window with queue := longer, ids }

/-- The two containers hold the same ids, each once, and no more than the limit. -/
structure Sound (window : RelayIdWindow) : Prop where
  same : window.ids = window.queue.toFinset
  once : window.queue.Nodup
  bounded : window.queue.length ≤ window.limit

theorem sound_init (limit : Nat) (limit_pos : 0 < limit) : Sound (init limit limit_pos) where
  same := rfl
  once := List.nodup_nil
  bounded := Nat.zero_le limit

theorem sound_longer {window : RelayIdWindow} (sound : window.Sound) {relayId : String}
    (new : relayId ∉ window.ids) :
    insert relayId window.ids = (window.queue ++ [relayId]).toFinset ∧
      (window.queue ++ [relayId]).Nodup := by
  have absent : relayId ∉ window.queue := by
    rw [sound.same, List.mem_toFinset] at new
    exact new
  constructor
  · rw [sound.same]
    ext id
    simp only [Finset.mem_insert, List.mem_toFinset, List.mem_append, List.mem_singleton]
    exact or_comm
  · rw [List.nodup_append_comm]
    exact List.nodup_cons.mpr ⟨absent, sound.once⟩

theorem sound_add {window : RelayIdWindow} (sound : window.Sound) (relayId : String) :
    (window.add relayId).Sound := by
  unfold add
  split
  · exact sound
  · next new =>
    obtain ⟨same, once⟩ := sound_longer sound new
    dsimp only
    split
    · next beyond =>
      split
      · next oldest queue split_ =>
        rw [split_] at same once beyond
        obtain ⟨absent, rest⟩ := List.nodup_cons.mp once
        have length : queue.length = window.queue.length := by
          have count := congrArg List.length split_
          simp only [List.length_append, List.length_cons, List.length_nil] at count
          omega
        refine ⟨?_, rest, ?_⟩
        · dsimp only
          rw [same, List.toFinset_cons, Finset.erase_insert]
          simpa using absent
        · exact length.trans_le sound.bounded
      · next empty => simp at empty
    · next within => exact ⟨same, once, Nat.le_of_not_lt within⟩

theorem oldest_mem {window : RelayIdWindow} (sound : window.Sound) {relayId oldest : String}
    {queue : List String} (split_ : window.queue ++ [relayId] = oldest :: queue) :
    oldest ∈ insert relayId window.ids := by
  have member : oldest ∈ window.queue ++ [relayId] := by
    rw [split_]
    exact List.mem_cons_self
  rw [sound.same]
  simpa [or_comm] using member

end RelayIdWindow

open PayloadValue

/-- The relay id that `parse_notification_data` goes on with, where all its other checks pass. -/
def admissible (data : Mapping) : Option String :=
  match relayId data with
  | none => none
  | some relayId =>
    if !isTrue (get data "complete") then none
    else if isTrue (get data "pre_existing") then none
    else if isText "removed" (get data "event") then none
    else if isText haEchoAppId (get data "app_id") then none
    else some relayId

def parseNotificationData (data : PayloadValue) (seen : RelayIdWindow) :
    RelayIdWindow × Option Mapping :=
  match data with
  | .object entries =>
    match admissible entries with
    | none => (seen, none)
    | some relayId =>
      if relayId ∈ seen.ids then (seen, none) else (seen.add relayId, some entries)
  | _ => (seen, none)

/-- `parse_notification`, given what decoding the payload returned, if it did. -/
def parseNotification (payload : Option PayloadValue) (seen : RelayIdWindow) :
    RelayIdWindow × Option Mapping :=
  match payload with
  | none => (seen, none)
  | some data => parseNotificationData data seen

theorem sound_parseNotificationData (data : PayloadValue) {seen : RelayIdWindow} (sound : seen.Sound) :
    (parseNotificationData data seen).1.Sound := by
  unfold parseNotificationData
  split
  · split
    · exact sound
    · split
      · exact sound
      · exact RelayIdWindow.sound_add sound _
  · exact sound

theorem sound_parseNotification (payload : Option PayloadValue) {seen : RelayIdWindow}
    (sound : seen.Sound) : (parseNotification payload seen).1.Sound := by
  unfold parseNotification
  split
  · exact sound
  · exact sound_parseNotificationData _ sound
