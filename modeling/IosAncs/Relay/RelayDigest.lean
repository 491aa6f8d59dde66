import IosAncs.Foundation.Sha256
import IosAncs.Relay.RelayId

/-!
The relay id against the standard: `sha256_update` and `sha256_finish` compute SHA-256
of what they are given, in whatever pieces, and what they are given tells apart all
that goes into an id.
-/
open CString LittleEndian

def Sha256State.words (s : Sha256State) : Sha256.Words where
  a := s.a.toBitVec
  b := s.b.toBitVec
  c := s.c.toBitVec
  d := s.d.toBitVec
  e := s.e.toBitVec
  f := s.f.toBitVec
  g := s.g.toBitVec
  h := s.h.toBitVec

namespace RelayPolicy

theorem words_init : sha256Init.state.words = Sha256.initial := by
  decide +kernel

theorem sha256K_constants : sha256K.map UInt32.toBitVec = Sha256.constants := by
  decide +kernel

theorem words_round (s : Sha256State) (kw : UInt32 × UInt32) :
    (round s kw).words = Sha256.round s.words kw.1.toBitVec kw.2.toBitVec := rfl

theorem or_reverse (w x y z : UInt32) : w ||| x ||| y ||| z = z ||| y ||| x ||| w := by
  rw [UInt32.or_comm _ z, UInt32.or_comm _ y, UInt32.or_comm w x, ← UInt32.or_assoc,
    ← UInt32.or_assoc]

theorem loadBe32_word (b0 b1 b2 b3 : UInt8) :
    (loadBe32 b0 b1 b2 b3).toBitVec = Sha256.word [b0, b1, b2, b3] := by
  have one : b3.toUInt32.toNat = value [b3] := by simp [value]
  have two : (b3.toUInt32 ||| b2.toUInt32 <<< 8).toNat = value [b3, b2] :=
    gather32 one (by rfl) (by simp) b2
  have three :
      (b3.toUInt32 ||| b2.toUInt32 <<< 8 ||| b1.toUInt32 <<< 16).toNat = value [b3, b2, b1] :=
    gather32 two (by rfl) (by simp) b1
  have four :
      (b3.toUInt32 ||| b2.toUInt32 <<< 8 ||| b1.toUInt32 <<< 16 ||| b0.toUInt32 <<< 24).toNat =
        value [b3, b2, b1, b0] :=
    gather32 three (by rfl) (by simp) b0
  have lowest_first : loadBe32 b0 b1 b2 b3 =
      b3.toUInt32 ||| b2.toUInt32 <<< 8 ||| b1.toUInt32 <<< 16 ||| b0.toUInt32 <<< 24 := by
    unfold loadBe32
    exact or_reverse ..
  have bounded : value [b3, b2, b1, b0] < 256 ^ 4 := value_lt [b3, b2, b1, b0]
  have small : value [b3, b2, b1, b0] < 2 ^ 32 := by omega
  apply BitVec.eq_of_toNat_eq
  rw [lowest_first, UInt32.toNat_toBitVec, four, Sha256.word, BitVec.toNat_ofNat]
  symm
  exact Nat.mod_eq_of_lt small

theorem blockWords_eq (count : Nat) {block : List UInt8} (length : block.length = 4 * count) :
    (blockWords block).map UInt32.toBitVec = (List.range count).map (Sha256.blockWord block) := by
  induction count generalizing block with
  | zero =>
    rw [List.length_eq_zero_iff.mp length]
    rfl
  | succ count ih =>
    match block with
    | b0 :: b1 :: b2 :: b3 :: rest =>
      have shorter : rest.length = 4 * count := by
        simp only [List.length_cons] at length
        omega
      rw [blockWords, List.map_cons, loadBe32_word, ih shorter, List.range_succ_eq_map,
        List.map_cons, List.map_map]
      rfl
    | [] | [_] | [_, _] | [_, _, _] => simp at length <;> omega

theorem add_reverse (w x y z : Sha256.Word) : w + x + y + z = z + y + x + w := by
  rw [BitVec.add_comm _ z, BitVec.add_comm _ y, BitVec.add_comm w x, ← BitVec.add_assoc,
    ← BitVec.add_assoc]

theorem scheduleWord_eq {block : List UInt8} {count : Nat} (enough : 16 ≤ count) {w : List UInt32}
    (before : w.map UInt32.toBitVec =
      ((List.range count).map (Sha256.schedule (Sha256.blockWord block))).reverse) :
    (scheduleWord w).toBitVec = Sha256.schedule (Sha256.blockWord block) count := by
  have past (i : Nat) (small : i < count) :
      (w.getD i 0).toBitVec = Sha256.schedule (Sha256.blockWord block) (count - 1 - i) := by
    have at_ : (w.map UInt32.toBitVec).getD i (0 : UInt32).toBitVec = (w.getD i 0).toBitVec :=
      List.getD_map ..
    rw [← at_, before]
    simp [List.getD_eq_getElem?_getD, small]
  have w16 := past 15 (by omega)
  have w15 := past 14 (by omega)
  have w7 := past 6 (by omega)
  have w2 := past 1 (by omega)
  rw [Nat.sub_sub] at w16 w15 w7 w2
  rw [Sha256.schedule, if_neg (Nat.not_lt.mpr enough), ← w16, ← w15, ← w7, ← w2]
  exact add_reverse (w.getD 15 0).toBitVec (Sha256.smallSigma0 (w.getD 14 0).toBitVec)
    (w.getD 6 0).toBitVec (Sha256.smallSigma1 (w.getD 1 0).toBitVec)

theorem extendSchedule_eq {block : List UInt8} (more : Nat) {count : Nat} (enough : 16 ≤ count)
    {w : List UInt32} (before : w.map UInt32.toBitVec =
      ((List.range count).map (Sha256.schedule (Sha256.blockWord block))).reverse) :
    (extendSchedule more w).map UInt32.toBitVec =
      ((List.range (count + more)).map (Sha256.schedule (Sha256.blockWord block))).reverse := by
  induction more generalizing count w with
  | zero => exact before
  | succ more ih =>
    have next : (scheduleWord w :: w).map UInt32.toBitVec =
        ((List.range (count + 1)).map (Sha256.schedule (Sha256.blockWord block))).reverse := by
      rw [List.map_cons, scheduleWord_eq enough before, before, List.range_succ, List.map_append,
        List.reverse_append]
      rfl
    have later := ih (Nat.le_succ_of_le enough) next
    rw [Nat.succ_add] at later
    exact later

theorem schedule_eq {block : List UInt8} (length : block.length = 64) :
    (schedule block).map UInt32.toBitVec =
      (List.range 64).map (Sha256.schedule (Sha256.blockWord block)) := by
  have first : (List.range 16).map (Sha256.schedule (Sha256.blockWord block)) =
      (List.range 16).map (Sha256.blockWord block) := by
    refine List.map_congr_left fun t small => ?_
    rw [Sha256.schedule, if_pos (List.mem_range.mp small)]
  have words : (extendSchedule 48 (blockWords block).reverse).map UInt32.toBitVec =
      ((List.range 64).map (Sha256.schedule (Sha256.blockWord block))).reverse :=
    extendSchedule_eq 48 (Nat.le_refl 16) (by rw [List.map_reverse, blockWords_eq 16 length, first])
  unfold schedule
  rw [List.map_reverse, words, List.reverse_reverse]

theorem zip_schedule {block : List UInt8} (length : block.length = 64) :
    (sha256K.zip (schedule block)).map (Prod.map UInt32.toBitVec UInt32.toBitVec) =
      (List.range 64).map fun t =>
        (Sha256.constants.getD t 0, Sha256.schedule (Sha256.blockWord block) t) := by
  have constants : Sha256.constants = (List.range 64).map fun t => Sha256.constants.getD t 0 := by
    decide +kernel
  rw [← List.zip_map, sha256K_constants, schedule_eq length]
  exact (congrArg (List.zip · _) constants).trans List.zip_map'

/-- `sha256_transform` is the standard's turn for a block. -/
theorem words_transform (s : Sha256State) {block : List UInt8} (length : block.length = 64) :
    (sha256Transform s block).words = Sha256.compress s.words block := by
  have one_by_one : (sha256K.zip (schedule block)).foldl
      (fun v kw => Sha256.round v kw.1.toBitVec kw.2.toBitVec) s.words =
        ((sha256K.zip (schedule block)).foldl round s).words :=
    List.foldl_hom Sha256State.words fun s kw => (words_round s kw).symm
  have rounds : ((sha256K.zip (schedule block)).foldl round s).words =
      (List.range 64).foldl (fun v t => Sha256.round v (Sha256.constants.getD t 0)
        (Sha256.schedule (Sha256.blockWord block) t)) s.words :=
    calc
      ((sha256K.zip (schedule block)).foldl round s).words
      _ = ((sha256K.zip (schedule block)).map (Prod.map UInt32.toBitVec UInt32.toBitVec)).foldl
            (fun v kw => Sha256.round v kw.1 kw.2) s.words := by
        rw [List.foldl_map, ← one_by_one]
        rfl
      _ = _ := by rw [zip_schedule length, List.foldl_map]
  unfold Sha256.compress
  rw [← rounds]
  rfl

/-- The bytes of a message that a context has taken: whole blocks, and the buffer. -/
structure Taken (hash : Sha256Context) (message : List UInt8) : Prop where
  blocks : ∃ list : List (List UInt8), (∀ block ∈ list, block.length = 64) ∧
    message = list.flatten ++ hash.buffer ∧
    hash.state.words = list.foldl Sha256.compress Sha256.initial
  short : hash.buffer.length < 64

structure Given (hash : Sha256Context) (message : List UInt8) : Prop where
  taken : Taken hash message
  bits : hash.bitCount = UInt64.ofNat (8 * message.length)

theorem given_init : Given sha256Init [] where
  taken := { blocks := ⟨[], by simp, rfl, words_init⟩, short := by decide }
  bits := rfl

theorem taken_turn {hash : Sha256Context} {message : List UInt8} (taken : Taken hash message)
    (data : List UInt8) :
    let buffer := hash.buffer ++ data.take (64 - hash.buffer.length)
    Taken (if buffer.length = 64 then
        { hash with state := sha256Transform hash.state buffer, buffer := [] }
      else { hash with buffer }) (message ++ data.take (64 - hash.buffer.length)) := by
  obtain ⟨list, whole, same, state⟩ := taken.blocks
  have short := taken.short
  dsimp only
  split
  · next full =>
    refine { blocks := ⟨list ++ [hash.buffer ++ data.take (64 - hash.buffer.length)], ?_, ?_, ?_⟩
             short := by simp }
    · exact List.forall_mem_append.mpr ⟨whole, by simpa using full⟩
    · rw [same, List.flatten_append]
      simp
    · dsimp only
      rw [words_transform _ full, state, List.foldl_append]
      rfl
  · next partial_ =>
    refine { blocks := ⟨list, whole, ?_, state⟩, short := ?_ }
    · rw [same, List.append_assoc]
    · rw [List.length_append, List.length_take] at partial_ ⊢
      omega

theorem taken_absorb {fuel : Nat} {hash : Sha256Context} {message data : List UInt8}
    (enough : data.length ≤ fuel) (taken : Taken hash message) :
    Taken (absorb fuel hash data) (message ++ data) ∧
      (absorb fuel hash data).bitCount = hash.bitCount := by
  induction fuel generalizing hash message data with
  | zero =>
    obtain rfl := List.length_eq_zero_iff.mp (Nat.le_zero.mp enough)
    rw [List.append_nil]
    exact ⟨taken, rfl⟩
  | succ fuel ih =>
    unfold absorb
    split
    · next nothing =>
      rw [nothing, List.append_nil]
      exact ⟨taken, rfl⟩
    · next something =>
      have turn := taken_turn taken data
      have short := taken.short
      have positive := List.length_pos_iff.mpr something
      have fewer : (data.drop (64 - hash.buffer.length)).length ≤ fuel := by
        rw [List.length_drop]
        omega
      obtain ⟨later, bits⟩ := ih fewer turn
      rw [List.append_assoc, List.take_append_drop] at later
      refine ⟨later, bits.trans ?_⟩
      split <;> rfl

theorem given_update {hash : Sha256Context} {message : List UInt8} (given : Given hash message)
    (data : List UInt8) : Given (sha256Update hash data) (message ++ data) := by
  have counted :
      Taken { hash with bitCount := hash.bitCount + UInt64.ofNat data.length * 8 } message :=
    { given.taken with }
  obtain ⟨taken, bits⟩ := taken_absorb (Nat.le_refl data.length) counted
  refine ⟨taken, bits.trans ?_⟩
  dsimp only
  rw [given.bits, List.length_append, Nat.mul_add, UInt64.ofNat_add, Nat.mul_comm 8 data.length,
    UInt64.ofNat_mul data.length]
  rfl

theorem buffer_length {hash : Sha256Context} {message : List UInt8} (taken : Taken hash message) :
    hash.buffer.length = message.length % 64 := by
  obtain ⟨list, whole, same, -⟩ := taken.blocks
  have blocks : list.flatten.length = 64 * list.length := by
    rw [List.length_flatten, List.map_congr_left whole]
    simp [Nat.mul_comm]
  have short := taken.short
  rw [same, List.length_append, blocks]
  omega

theorem given_padZeroes {fuel : Nat} {hash : Sha256Context} {message : List UInt8}
    (given : Given hash message) (enough : (120 - message.length % 64) % 64 ≤ fuel) :
    Given (padZeroes fuel hash)
      (message ++ List.replicate ((120 - message.length % 64) % 64) 0) := by
  have length := buffer_length given.taken
  induction fuel generalizing hash message with
  | zero =>
    rw [Nat.le_zero.mp enough, List.replicate_zero, List.append_nil]
    exact given
  | succ fuel ih =>
    unfold padZeroes
    split
    · next filled =>
      have nothing : (120 - message.length % 64) % 64 = 0 := by
        rw [← length, filled]
      rw [nothing, List.replicate_zero, List.append_nil]
      exact given
    · next missing =>
      have one_less : (120 - message.length % 64) % 64 =
          (120 - (message ++ [0]).length % 64) % 64 + 1 := by
        rw [List.length_append, List.length_singleton]
        omega
      have given' := given_update given [0]
      have later := ih given' (by omega) (buffer_length given'.taken)
      rw [one_less, List.replicate_succ]
      rw [List.append_assoc] at later
      exact later

theorem storeBe32_eq (value : UInt32) : storeBe32 value = Sha256.wordBytes value.toBitVec := by
  simp only [storeBe32, Sha256.wordBytes, bytes, UInt32.toNat_toBitVec, UInt8.ofNat_uInt32ToNat,
    List.reverse_cons, List.reverse_nil, List.nil_append, List.cons_append, List.cons.injEq,
    ← UInt8.toNat_inj, UInt32.toNat_toUInt8, UInt32.toNat_shiftRight, UInt32.reduceToNat,
    Nat.reduceMod, Nat.shiftRight_eq_div_pow, Nat.reducePow, UInt8.toNat_ofNat', and_self, and_true]
  omega

theorem lengthBytes_eq (bits : Nat) :
    lengthBytes (UInt64.ofNat bits) = (bytes 8 bits).reverse := by
  simp only [lengthBytes, UInt64.toUInt8_ofNat', bytes, List.reverse_cons, List.reverse_nil,
    List.nil_append, List.cons_append, List.cons.injEq, ← UInt8.toNat_inj, UInt64.toNat_toUInt8,
    UInt64.toNat_shiftRight, UInt64.toNat_ofNat', Nat.reducePow, UInt64.reduceToNat, Nat.reduceMod,
    Nat.shiftRight_eq_div_pow, UInt8.toNat_ofNat', and_true]
  omega

/-- `sha256_finish` gives the digest of what was taken. -/
theorem finish_given {hash : Sha256Context} {message : List UInt8} (given : Given hash message) :
    sha256Finish hash = Sha256.hash message := by
  have marked := given_update given [0x80]
  have count : (120 - (message ++ [0x80]).length % 64) % 64 = Sha256.zeroes message.length := by
    unfold Sha256.zeroes
    rw [List.length_append, List.length_singleton]
    omega
  have zeroes : Given (padZeroes 64 _) _ := given_padZeroes marked (by omega)
  have padded := given_update zeroes (lengthBytes hash.bitCount)
  have whole_message : message ++ [0x80] ++
      List.replicate ((120 - (message ++ [0x80]).length % 64) % 64) 0 ++ lengthBytes hash.bitCount =
        Sha256.pad message := by
    rw [count, given.bits, lengthBytes_eq]
    simp [Sha256.pad]
  rw [whole_message] at padded
  obtain ⟨list, whole, same, state⟩ := padded.taken.blocks
  have nothing : (sha256Update (padZeroes 64 (sha256Update hash [0x80]))
      (lengthBytes hash.bitCount)).buffer = [] := by
    rw [← List.length_eq_zero_iff, buffer_length padded.taken, Sha256.length_pad]
  rw [nothing, List.append_nil] at same
  have digest (s : Sha256State) : [s.a, s.b, s.c, s.d, s.e, s.f, s.g, s.h].flatMap storeBe32 =
      s.words.digest := by
    simp [storeBe32_eq, Sha256.Words.digest, Sha256State.words]
  unfold sha256Finish Sha256.hash
  rw [digest, state, same, Sha256.blocks_flatten whole]

theorem given_pieces {hash : Sha256Context} {message : List UInt8} (given : Given hash message)
    (pieces : List (List UInt8)) :
    Given (pieces.foldl sha256Update hash) (message ++ pieces.flatten) := by
  induction pieces generalizing hash message with
  | nil =>
    rw [List.flatten_nil, List.append_nil]
    exact given
  | cons piece rest ih =>
    rw [List.flatten_cons, ← List.append_assoc]
    exact ih (given_update given piece)

theorem given_hashU32 {hash : Sha256Context} {message : List UInt8} (given : Given hash message)
    (value : UInt32) : Given (hashU32 hash value) (message ++ bytes 4 value.toNat) := by
  have bytes_ :
      [value.toUInt8, (value >>> 8).toUInt8, (value >>> 16).toUInt8, (value >>> 24).toUInt8] =
        bytes 4 value.toNat := by
    simp only [bytes, UInt8.ofNat_uInt32ToNat, List.cons.injEq, ← UInt8.toNat_inj,
      UInt32.toNat_toUInt8, UInt32.toNat_shiftRight, UInt32.reduceToNat, Nat.reduceMod,
      Nat.shiftRight_eq_div_pow, Nat.reducePow, UInt8.toNat_ofNat', and_true, true_and]
    omega
  have one_by_one := given_pieces given
    ([value.toUInt8, (value >>> 8).toUInt8, (value >>> 16).toUInt8, (value >>> 24).toUInt8].map
      fun byte => [byte])
  rw [List.foldl_map, ← List.flatMap_def, List.flatMap_singleton', bytes_] at one_by_one
  unfold hashU32
  rw [bytes_]
  exact one_by_one

/-- What goes into the id of a notification: its numbers, lowest bytes first, and its texts with
    their terminators. -/
def idMessage {limits : AncsLimits} (notification : AncsNotification limits) (bootNonce : UInt32) :
    List UInt8 :=
  bytes 4 bootNonce.toNat ++ bytes 4 notification.sessionId.toNat ++
    bytes 4 notification.uid.toNat ++ bytes 4 notification.eventId.toNat ++ (text notification.appId ++ [0]) ++
    (text notification.title ++ [0]) ++ (text notification.subtitle ++ [0]) ++
    (text notification.message ++ [0]) ++ (text notification.dateRaw ++ [0])

def lowercaseHex (list : List UInt8) : List UInt8 :=
  list.flatMap fun byte =>
    [(ascii "0123456789abcdef").getD (byte.toNat / 16) 0,
      (ascii "0123456789abcdef").getD (byte.toNat % 16) 0]

theorem hexDigit_lowercase (n : Fin 16) : hexDigit n = (ascii "0123456789abcdef").getD n 0 := by
  revert n
  decide

theorem lowercaseHex_eq (list : List UInt8) : list.flatMap hexByte = lowercaseHex list := by
  unfold lowercaseHex
  congr 1
  funext byte
  have high : byte.toNat / 16 < 16 := Nat.div_lt_of_lt_mul byte.toNat_lt
  have low : byte.toNat % 16 < 16 := Nat.mod_lt _ (by decide)
  exact congrArg₂ (fun first second => [first, second]) (hexDigit_lowercase ⟨_, high⟩)
    (hexDigit_lowercase ⟨_, low⟩)

variable {limits : AncsLimits}

theorem buildId_hash (notification : AncsNotification limits) (bootNonce : UInt32) :
    buildId notification bootNonce =
      lowercaseHex ((Sha256.hash (idMessage notification bootNonce)).take 16) := by
  have nonce := given_hashU32 given_init bootNonce
  have session := given_hashU32 nonce notification.sessionId
  have uid := given_hashU32 session notification.uid
  have event := given_hashU32 uid notification.eventId.toUInt32
  have appId := given_update event (text notification.appId ++ [0])
  have title := given_update appId (text notification.title ++ [0])
  have subtitle := given_update title (text notification.subtitle ++ [0])
  have message := given_update subtitle (text notification.message ++ [0])
  have date := given_update message (text notification.dateRaw ++ [0])
  rw [UInt8.toNat_toUInt32] at date
  have digest := finish_given date
  unfold buildId
  rw [← lowercaseHex_eq]
  exact congrArg (fun digest => (digest.take 16).flatMap hexByte) digest

theorem idMessage_inj {n m : AncsNotification limits} {nonce nonce' : UInt32}
    (same : idMessage n nonce = idMessage m nonce') :
    (nonce, n.sessionId, n.uid, n.eventId) = (nonce', m.sessionId, m.uid, m.eventId) ∧
      text n.appId = text m.appId ∧ text n.title = text m.title ∧
      text n.subtitle = text m.subtitle ∧ text n.message = text m.message ∧
      text n.dateRaw = text m.dateRaw := by
  have word {v w : UInt32} {rest rest' : List UInt8}
      (same : bytes 4 v.toNat ++ rest = bytes 4 w.toNat ++ rest') : v = w ∧ rest = rest' := by
    obtain ⟨same_bytes, same_rest⟩ := List.append_inj same (by simp)
    exact ⟨UInt32.toNat_inj.mp (bytes_inj v.toNat_lt w.toNat_lt same_bytes), same_rest⟩
  have event_bytes (v : UInt8) : v.toNat = v.toUInt32.toNat := (UInt8.toNat_toUInt32 v).symm
  simp only [idMessage, List.append_assoc, event_bytes, List.cons_append, List.nil_append] at same
  obtain ⟨nonce, same⟩ := word same
  obtain ⟨session, same⟩ := word same
  obtain ⟨uid, same⟩ := word same
  obtain ⟨event, same⟩ := word same
  obtain ⟨appId, same⟩ := text_append_inj same
  obtain ⟨title, same⟩ := text_append_inj same
  obtain ⟨subtitle, same⟩ := text_append_inj same
  obtain ⟨message, same⟩ := text_append_inj same
  obtain ⟨date, -⟩ := text_append_inj same
  have event_ : n.eventId = m.eventId := by
    rw [← UInt8.toNat_inj, event_bytes, event_bytes, event]
  exact ⟨by rw [nonce, session, uid, event_], appId, title, subtitle, message, date⟩

/-- The relay id is the first half of the SHA-256 of its message in lowercase digits; the digest
    does not depend on the pieces that are given to `sha256_update`; and a message tells apart all
    that goes into it. -/
theorem relay_id_sha256 :
    (∀ (n : AncsNotification limits) (nonce : UInt32),
      buildId n nonce = lowercaseHex ((Sha256.hash (idMessage n nonce)).take 16)) ∧
    (∀ pieces : List (List UInt8),
      sha256Finish (pieces.foldl sha256Update sha256Init) = Sha256.hash pieces.flatten) ∧
    ∀ (n m : AncsNotification limits) (nonce nonce' : UInt32),
      idMessage n nonce = idMessage m nonce' ↔
        (nonce, n.sessionId, n.uid, n.eventId) = (nonce', m.sessionId, m.uid, m.eventId) ∧
          text n.appId = text m.appId ∧ text n.title = text m.title ∧
          text n.subtitle = text m.subtitle ∧ text n.message = text m.message ∧
          text n.dateRaw = text m.dateRaw := by
  refine ⟨buildId_hash, fun pieces => finish_given (given_pieces given_init pieces),
    fun n m nonce nonce' => ⟨idMessage_inj, ?_⟩⟩
  rintro ⟨numbers, appId, title, subtitle, message, date⟩
  simp only [Prod.mk.injEq] at numbers
  obtain ⟨nonce_, session, uid, event⟩ := numbers
  unfold idMessage
  rw [nonce_, session, uid, event, appId, title, subtitle, message, date]

end RelayPolicy
