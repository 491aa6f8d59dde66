import Mathlib.Data.List.Basic
import Mathlib.Tactic.Common

/-!
UTF-8 on lists of bytes. A text is cut into pieces, each the encoding of a character or a
single byte that begins none; it is valid where every piece is a character.
-/
namespace Utf8

def encode (chars : List Char) : List UInt8 := chars.flatMap String.utf8EncodeChar

/-- The character whose encoding the bytes begin with. -/
def firstChar (bytes : List UInt8) : Option Char := bytes.toByteArray.utf8DecodeChar? 0

def piecesFuel : Nat → List UInt8 → List (Option Char)
  | 0, _ => []
  | _ + 1, [] => []
  | fuel + 1, byte :: rest =>
    match firstChar (byte :: rest) with
    | some c => some c :: piecesFuel fuel ((byte :: rest).drop c.utf8Size)
    | none => none :: piecesFuel fuel rest

/-- The pieces of a text; `none` stands for a byte that begins no character. -/
def pieces (bytes : List UInt8) : List (Option Char) := piecesFuel bytes.length bytes

def Valid (bytes : List UInt8) : Prop := ∃ chars, encode chars = bytes

def decode (bytes : List UInt8) : Option (List Char) :=
  if (pieces bytes).all Option.isSome then some ((pieces bytes).filterMap id) else none

def replacement : Char := Char.ofNat 0xFFFD

/-- The text with every byte that begins no character replaced. -/
def replaceInvalid (bytes : List UInt8) : List Char := (pieces bytes).map (·.getD replacement)

@[simp] theorem encode_nil : encode [] = [] := rfl

@[simp] theorem encode_cons (c : Char) (chars : List Char) :
    encode (c :: chars) = String.utf8EncodeChar c ++ encode chars := rfl

theorem encode_append (first last : List Char) :
    encode (first ++ last) = encode first ++ encode last := List.flatMap_append

theorem firstChar_encode (c : Char) (rest : List UInt8) :
    firstChar (String.utf8EncodeChar c ++ rest) = some c := by
  rw [firstChar, List.toByteArray_append]
  exact ByteArray.utf8DecodeChar?_utf8EncodeChar_append

theorem firstChar_eq_some_iff {bytes : List UInt8} {c : Char} :
    firstChar bytes = some c ↔ String.utf8EncodeChar c <+: bytes := by
  constructor
  · intro first
    obtain ⟨last, split_⟩ := ByteArray.exists_of_utf8DecodeChar?_eq_some first
    have lists := congrArg (fun text => text.data.toList) split_
    simp only [List.data_toByteArray, ByteArray.data_append, Array.toList_append] at lists
    exact ⟨last.data.toList, lists.symm⟩
  · rintro ⟨rest, rfl⟩
    exact firstChar_encode c rest

theorem firstChar_none_iff {bytes : List UInt8} :
    firstChar bytes = none ↔ ∀ c, ¬ String.utf8EncodeChar c <+: bytes := by
  rw [Option.eq_none_iff_forall_ne_some]
  exact forall_congr' fun c => not_congr firstChar_eq_some_iff

section Chars
variable {c : Char}

theorem encodeChar_one (small : c.toNat ≤ 0x7F) :
    String.utf8EncodeChar c = [UInt8.ofNat c.toNat] := if_pos small

theorem encodeChar_two (beyond : 0x7F < c.toNat) (small : c.toNat ≤ 0x7FF) :
    String.utf8EncodeChar c =
      [UInt8.ofNat (c.toNat / 64 % 32 + 0xC0), UInt8.ofNat (c.toNat % 64 + 0x80)] :=
  (if_neg (Nat.not_le.mpr beyond)).trans (if_pos small)

theorem encodeChar_three (beyond : 0x7FF < c.toNat) (small : c.toNat ≤ 0xFFFF) :
    String.utf8EncodeChar c =
      [UInt8.ofNat (c.toNat / 4096 % 16 + 0xE0), UInt8.ofNat (c.toNat / 64 % 64 + 0x80),
        UInt8.ofNat (c.toNat % 64 + 0x80)] :=
  (if_neg (Nat.not_le.mpr (Nat.lt_trans (by decide) beyond))).trans
    ((if_neg (Nat.not_le.mpr beyond)).trans (if_pos small))

theorem encodeChar_four (beyond : 0xFFFF < c.toNat) :
    String.utf8EncodeChar c =
      [UInt8.ofNat (c.toNat / 262144 % 8 + 0xF0), UInt8.ofNat (c.toNat / 4096 % 64 + 0x80),
        UInt8.ofNat (c.toNat / 64 % 64 + 0x80), UInt8.ofNat (c.toNat % 64 + 0x80)] :=
  (if_neg (Nat.not_le.mpr (Nat.lt_trans (by decide) beyond))).trans
    ((if_neg (Nat.not_le.mpr (Nat.lt_trans (by decide) beyond))).trans
      (if_neg (Nat.not_le.mpr beyond)))

theorem encodeChar_cases (c : Char) :
    (c.toNat ≤ 0x7F ∧ String.utf8EncodeChar c = [UInt8.ofNat c.toNat]) ∨
    (0x7F < c.toNat ∧ c.toNat ≤ 0x7FF ∧ String.utf8EncodeChar c =
      [UInt8.ofNat (c.toNat / 64 % 32 + 0xC0), UInt8.ofNat (c.toNat % 64 + 0x80)]) ∨
    (0x7FF < c.toNat ∧ c.toNat ≤ 0xFFFF ∧ String.utf8EncodeChar c =
      [UInt8.ofNat (c.toNat / 4096 % 16 + 0xE0), UInt8.ofNat (c.toNat / 64 % 64 + 0x80),
        UInt8.ofNat (c.toNat % 64 + 0x80)]) ∨
    (0xFFFF < c.toNat ∧ String.utf8EncodeChar c =
      [UInt8.ofNat (c.toNat / 262144 % 8 + 0xF0), UInt8.ofNat (c.toNat / 4096 % 64 + 0x80),
        UInt8.ofNat (c.toNat / 64 % 64 + 0x80), UInt8.ofNat (c.toNat % 64 + 0x80)]) := by
  by_cases one : c.toNat ≤ 0x7F
  · exact .inl ⟨one, encodeChar_one one⟩
  by_cases two : c.toNat ≤ 0x7FF
  · exact .inr (.inl ⟨Nat.lt_of_not_le one, two, encodeChar_two (Nat.lt_of_not_le one) two⟩)
  by_cases three : c.toNat ≤ 0xFFFF
  · exact .inr (.inr (.inl
      ⟨Nat.lt_of_not_le two, three, encodeChar_three (Nat.lt_of_not_le two) three⟩))
  · exact .inr (.inr (.inr ⟨Nat.lt_of_not_le three, encodeChar_four (Nat.lt_of_not_le three)⟩))

theorem toNat_ofNat {n : Nat} (scalar : n.isValidChar) : (Char.ofNat n).toNat = n := by
  rw [Char.ofNat, dif_pos scalar]
  rfl

theorem ofNat_eq {n : Nat} (byte : UInt8) (same : n = byte.toNat) : UInt8.ofNat n = byte := by
  rw [same, UInt8.ofNat_toNat]

theorem exists_encodeChar_two {a b : UInt8} (first : 0xC2 ≤ a.toNat ∧ a.toNat ≤ 0xDF)
    (second : 0x80 ≤ b.toNat ∧ b.toNat ≤ 0xBF) : ∃ c, String.utf8EncodeChar c = [a, b] := by
  have value : (Char.ofNat ((a.toNat - 0xC0) * 64 + (b.toNat - 0x80))).toNat =
      (a.toNat - 0xC0) * 64 + (b.toNat - 0x80) := toNat_ofNat (.inl (by omega))
  refine ⟨_, (encodeChar_two (by rw [value]; omega) (by rw [value]; omega)).trans ?_⟩
  rw [value, ofNat_eq a (by omega), ofNat_eq b (by omega)]

theorem exists_encodeChar_three {a b c : UInt8}
    (first : (a.toNat = 0xE0 ∧ 0xA0 ≤ b.toNat) ∨ (0xE1 ≤ a.toNat ∧ a.toNat ≤ 0xEC) ∨
      (0xEE ≤ a.toNat ∧ a.toNat ≤ 0xEF) ∨ (a.toNat = 0xED ∧ b.toNat ≤ 0x9F))
    (second : 0x80 ≤ b.toNat ∧ b.toNat ≤ 0xBF) (third : 0x80 ≤ c.toNat ∧ c.toNat ≤ 0xBF) :
    ∃ char, String.utf8EncodeChar char = [a, b, c] := by
  have value : (Char.ofNat ((a.toNat - 0xE0) * 4096 + (b.toNat - 0x80) * 64 + (c.toNat - 0x80))).toNat =
      (a.toNat - 0xE0) * 4096 + (b.toNat - 0x80) * 64 + (c.toNat - 0x80) :=
    toNat_ofNat (by unfold Nat.isValidChar; omega)
  refine ⟨_, (encodeChar_three (by rw [value]; omega) (by rw [value]; omega)).trans ?_⟩
  rw [value, ofNat_eq a (by omega), ofNat_eq b (by omega),
    ofNat_eq c (by omega)]

theorem exists_encodeChar_four {a b c d : UInt8}
    (first : (a.toNat = 0xF0 ∧ 0x90 ≤ b.toNat) ∨ (0xF1 ≤ a.toNat ∧ a.toNat ≤ 0xF3) ∨
      (a.toNat = 0xF4 ∧ b.toNat ≤ 0x8F))
    (second : 0x80 ≤ b.toNat ∧ b.toNat ≤ 0xBF) (third : 0x80 ≤ c.toNat ∧ c.toNat ≤ 0xBF)
    (fourth : 0x80 ≤ d.toNat ∧ d.toNat ≤ 0xBF) :
    ∃ char, String.utf8EncodeChar char = [a, b, c, d] := by
  have value : (Char.ofNat ((a.toNat - 0xF0) * 262144 + (b.toNat - 0x80) * 4096 +
      (c.toNat - 0x80) * 64 + (d.toNat - 0x80))).toNat = (a.toNat - 0xF0) * 262144 +
      (b.toNat - 0x80) * 4096 + (c.toNat - 0x80) * 64 + (d.toNat - 0x80) :=
    toNat_ofNat (by unfold Nat.isValidChar; omega)
  refine ⟨_, (encodeChar_four (by rw [value]; omega)).trans ?_⟩
  rw [value, ofNat_eq a (by omega), ofNat_eq b (by omega),
    ofNat_eq c (by omega), ofNat_eq d (by omega)]

theorem exists_encodeChar_one {a : UInt8} (first : a.toNat < 0x80) :
    ∃ char, String.utf8EncodeChar char = [a] := by
  have value : (Char.ofNat a.toNat).toNat = a.toNat := toNat_ofNat (.inl (by omega))
  refine ⟨_, (encodeChar_one (by rw [value]; omega)).trans ?_⟩
  rw [value, ofNat_eq a rfl]

theorem high_ofNat {n : Nat} (low : 0x80 ≤ n) (small : n < 256) : 0x80 ≤ UInt8.ofNat n := by
  rw [UInt8.le_iff_toNat_le, UInt8.toNat_ofNat', Nat.mod_eq_of_lt small]
  exact low

theorem high_encodeChar (beyond : 0x7F < c.toNat) : ∀ byte ∈ String.utf8EncodeChar c, 0x80 ≤ byte := by
  intro byte member
  rcases encodeChar_cases c with ⟨small, _⟩ | ⟨_, _, bytes⟩ | ⟨_, _, bytes⟩ | ⟨_, bytes⟩
  · omega
  all_goals
    rw [bytes] at member
    simp only [List.mem_cons, List.not_mem_nil, or_false] at member
  · rcases member with rfl | rfl
    · exact high_ofNat (by omega) (by omega)
    · exact high_ofNat (by omega) (by omega)
  · rcases member with rfl | rfl | rfl
    · exact high_ofNat (by omega) (by omega)
    · exact high_ofNat (by omega) (by omega)
    · exact high_ofNat (by omega) (by omega)
  · rcases member with rfl | rfl | rfl | rfl
    · exact high_ofNat (by omega) (by omega)
    · exact high_ofNat (by omega) (by omega)
    · exact high_ofNat (by omega) (by omega)
    · exact high_ofNat (by omega) (by omega)

theorem zero_of_encode {chars : List Char} (zero : (0 : UInt8) ∈ encode chars) :
    Char.ofNat 0 ∈ chars := by
  obtain ⟨c, member, inside⟩ := List.mem_flatMap.mp zero
  have small : c.toNat ≤ 0x7F := by
    refine Nat.le_of_not_lt fun beyond => ?_
    exact absurd (high_encodeChar beyond 0 inside) (by decide)
  rw [encodeChar_one small, List.mem_singleton] at inside
  have same := congrArg UInt8.toNat inside
  rw [UInt8.toNat_ofNat', Nat.mod_eq_of_lt (by omega)] at same
  rwa [UInt8.toNat_zero.symm.trans same, Char.ofNat_toNat]

def asciiChars (bytes : List UInt8) : List Char := bytes.map fun byte => Char.ofNat byte.toNat

theorem encode_asciiChars {bytes : List UInt8} (ascii : ∀ byte ∈ bytes, byte.toNat < 0x80) :
    encode (asciiChars bytes) = bytes := by
  induction bytes with
  | nil => rfl
  | cons byte rest ih =>
    obtain ⟨first, later⟩ := List.forall_mem_cons.mp ascii
    have value : (Char.ofNat byte.toNat).toNat = byte.toNat := toNat_ofNat (.inl (by omega))
    have one : String.utf8EncodeChar (Char.ofNat byte.toNat) = [byte] := by
      rw [encodeChar_one (by rw [value]; omega), value, ofNat_eq byte rfl]
    calc encode (asciiChars (byte :: rest))
        = String.utf8EncodeChar (Char.ofNat byte.toNat) ++ encode (asciiChars rest) := rfl
      _ = byte :: rest := by rw [one, ih later, List.singleton_append]

end Chars

section Pieces
variable {fuel : Nat} {bytes rest : List UInt8} {byte : UInt8}

theorem encodeChar_cons (c : Char) : ∃ byte rest, String.utf8EncodeChar c = byte :: rest :=
  List.exists_cons_of_ne_nil String.utf8EncodeChar_ne_nil

theorem piecesFuel_encode (c : Char) (rest : List UInt8) (fuel : Nat) :
    piecesFuel (fuel + 1) (String.utf8EncodeChar c ++ rest) = some c :: piecesFuel fuel rest := by
  obtain ⟨byte, last, bytes⟩ := encodeChar_cons c
  have first := firstChar_encode c rest
  have dropped : (String.utf8EncodeChar c ++ rest).drop c.utf8Size = rest := by
    rw [← String.length_utf8EncodeChar]
    exact List.drop_left
  rw [bytes, List.cons_append] at *
  rw [piecesFuel, first]
  exact congrArg (some c :: piecesFuel fuel ·) dropped

theorem piecesFuel_invalid (invalid : firstChar (byte :: rest) = none) (fuel : Nat) :
    piecesFuel (fuel + 1) (byte :: rest) = none :: piecesFuel fuel rest := by
  rw [piecesFuel, invalid]

theorem text_cases (bytes : List UInt8) :
    bytes = [] ∨ (∃ c rest, bytes = String.utf8EncodeChar c ++ rest) ∨
      ∃ byte rest, bytes = byte :: rest ∧ firstChar (byte :: rest) = none := by
  cases bytes with
  | nil => exact .inl rfl
  | cons byte rest =>
    cases first : firstChar (byte :: rest) with
    | none => exact .inr (.inr ⟨byte, rest, rfl, first⟩)
    | some c =>
      obtain ⟨last, split_⟩ := firstChar_eq_some_iff.mp first
      exact .inr (.inl ⟨c, last, split_.symm⟩)

@[elab_as_elim]
theorem pieces_induction {motive : List UInt8 → Prop} (bytes : List UInt8) (nil : motive [])
    (char : ∀ c rest, motive rest → motive (String.utf8EncodeChar c ++ rest))
    (invalid : ∀ byte rest, firstChar (byte :: rest) = none → motive rest →
      motive (byte :: rest)) : motive bytes := by
  generalize length : bytes.length = n
  induction n using Nat.strongRecOn generalizing bytes with
  | ind n ih =>
    subst length
    rcases text_cases bytes with rfl | ⟨c, rest, rfl⟩ | ⟨byte, rest, rfl, first⟩
    · exact nil
    · have shorter : rest.length < (String.utf8EncodeChar c ++ rest).length := by
        rw [List.length_append, String.length_utf8EncodeChar]
        exact Nat.lt_add_of_pos_left c.utf8Size_pos
      exact char c rest (ih _ shorter rest rfl)
    · exact invalid byte rest first (ih _ (Nat.lt_succ_self _) rest rfl)

theorem piecesFuel_congr (bytes : List UInt8) : ∀ fuel other, bytes.length ≤ fuel →
    bytes.length ≤ other → piecesFuel fuel bytes = piecesFuel other bytes := by
  induction bytes using pieces_induction with
  | nil =>
    intro fuel other _ _
    cases fuel <;> cases other <;> rfl
  | char c rest ih =>
    intro fuel other enough enough'
    have size := c.utf8Size_pos
    rw [List.length_append, String.length_utf8EncodeChar] at enough enough'
    obtain ⟨fuel, rfl⟩ := Nat.exists_eq_succ_of_ne_zero (n := fuel) (by omega)
    obtain ⟨other, rfl⟩ := Nat.exists_eq_succ_of_ne_zero (n := other) (by omega)
    rw [piecesFuel_encode, piecesFuel_encode, ih fuel other (by omega) (by omega)]
  | invalid byte rest first ih =>
    intro fuel other enough enough'
    rw [List.length_cons] at enough enough'
    obtain ⟨fuel, rfl⟩ := Nat.exists_eq_succ_of_ne_zero (n := fuel) (by omega)
    obtain ⟨other, rfl⟩ := Nat.exists_eq_succ_of_ne_zero (n := other) (by omega)
    rw [piecesFuel_invalid first, piecesFuel_invalid first, ih fuel other (by omega) (by omega)]

theorem piecesFuel_enough (enough : bytes.length ≤ fuel) : piecesFuel fuel bytes = pieces bytes :=
  piecesFuel_congr bytes fuel bytes.length enough (Nat.le_refl _)

@[simp] theorem pieces_encode (c : Char) (rest : List UInt8) :
    pieces (String.utf8EncodeChar c ++ rest) = some c :: pieces rest := by
  have more : (String.utf8EncodeChar c ++ rest).length ≤
      (String.utf8EncodeChar c ++ rest).length + 1 := Nat.le_succ _
  have enough : rest.length ≤ (String.utf8EncodeChar c ++ rest).length := by
    rw [List.length_append]
    exact Nat.le_add_left _ _
  rw [← piecesFuel_enough more, piecesFuel_encode, piecesFuel_enough enough]

@[simp] theorem pieces_invalid (first : firstChar (byte :: rest) = none) :
    pieces (byte :: rest) = none :: pieces rest := piecesFuel_invalid first rest.length

theorem pieces_encode_all (chars : List Char) : pieces (encode chars) = chars.map some := by
  induction chars with
  | nil => rfl
  | cons c chars ih => rw [encode_cons, pieces_encode, ih, List.map_cons]

theorem valid_iff : Valid bytes ↔ (pieces bytes).all Option.isSome = true := by
  constructor
  · rintro ⟨chars, rfl⟩
    simp [pieces_encode_all]
  · intro all
    induction bytes using pieces_induction with
    | nil => exact ⟨[], rfl⟩
    | char c rest ih =>
      rw [pieces_encode, List.all_cons] at all
      obtain ⟨chars, rfl⟩ := ih (Bool.and_eq_true_iff.mp all).2
      exact ⟨c :: chars, rfl⟩
    | invalid byte rest first ih =>
      rw [pieces_invalid first] at all
      cases all

instance (bytes : List UInt8) : Decidable (Valid bytes) := decidable_of_iff _ valid_iff.symm

/-- A byte of ASCII is a character wherever it stands, so that the bytes before it are cut as
    they are alone. -/
theorem pieces_append_low {low : UInt8} (ascii : low < 0x80) (bytes rest : List UInt8) :
    pieces (bytes ++ low :: rest) = pieces bytes ++ pieces (low :: rest) := by
  induction bytes using pieces_induction with
  | nil => rfl
  | char c last ih => rw [List.append_assoc, pieces_encode, pieces_encode, ih, List.cons_append]
  | invalid first last invalid ih =>
    have still : firstChar (first :: (last ++ low :: rest)) = none := by
      rw [firstChar_none_iff] at invalid ⊢
      intro c begins
      have short : first :: last <+: first :: (last ++ low :: rest) :=
        List.prefix_append (first :: last) (low :: rest)
      -- a character that took in the byte would have bytes beyond ASCII only
      rcases List.prefix_or_prefix_of_prefix begins short with inside | ⟨more, whole⟩
      · exact invalid c inside
      · by_cases beyond : 0x7F < c.toNat
        · rw [← whole] at begins
          have tail : more <+: low :: rest := (List.prefix_append_right_inj (first :: last)).mp begins
          cases more with
          | nil =>
            rw [List.append_nil] at whole
            exact invalid c (whole ▸ List.prefix_refl _)
          | cons byte more =>
            obtain ⟨rfl, _⟩ := List.cons_prefix_cons.mp tail
            have high : 0x80 ≤ byte := high_encodeChar beyond byte (by rw [← whole]; simp)
            exact absurd high (UInt8.not_le.mpr ascii)
        · rw [encodeChar_one (Nat.le_of_not_lt beyond)] at begins whole
          obtain ⟨same, _⟩ := List.cons_prefix_cons.mp begins
          apply invalid c
          rw [encodeChar_one (Nat.le_of_not_lt beyond), same]
          exact List.cons_prefix_cons.mpr ⟨rfl, List.nil_prefix⟩
    rw [List.cons_append, pieces_invalid still, pieces_invalid invalid, ih, List.cons_append]

theorem valid_append_low {low : UInt8} (ascii : low < 0x80) (bytes rest : List UInt8) :
    Valid (bytes ++ low :: rest) ↔ Valid bytes ∧ Valid (low :: rest) := by
  simp only [valid_iff, pieces_append_low ascii, List.all_append, Bool.and_eq_true]

theorem decode_encode (chars : List Char) : decode (encode chars) = some chars := by
  simp [decode, pieces_encode_all]

theorem decode_eq_some_iff {chars : List Char} : decode bytes = some chars ↔ encode chars = bytes := by
  constructor
  · intro decoded
    unfold decode at decoded
    split at decoded
    · next all =>
      obtain ⟨others, rfl⟩ := valid_iff.mpr all
      rw [pieces_encode_all] at decoded
      have same : others = chars := by simpa using decoded
      rw [same]
    · cases decoded
  · rintro rfl
    exact decode_encode chars

theorem replaceInvalid_encode (chars : List Char) : replaceInvalid (encode chars) = chars := by
  rw [replaceInvalid, pieces_encode_all, List.map_map]
  exact List.map_id chars

end Pieces

end Utf8
