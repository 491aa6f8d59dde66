import IosAncs.Foundation.LittleEndian
import Mathlib.Data.Nat.NthRoot.Defs
import Mathlib.Data.List.Basic

/-!
SHA-256 as FIPS 180-4 defines it, for messages of whole bytes. The standard takes messages
of less than 2^64 bits; of a longer one the padding holds the low bits of the length.
-/
namespace Sha256
open LittleEndian

abbrev Word := BitVec 32

@[ext] structure Words where
  a : Word
  b : Word
  c : Word
  d : Word
  e : Word
  f : Word
  g : Word
  h : Word
deriving DecidableEq

def ch (x y z : Word) : Word := (x &&& y) ^^^ (~~~x &&& z)
def maj (x y z : Word) : Word := (x &&& y) ^^^ (x &&& z) ^^^ (y &&& z)
def bigSigma0 (x : Word) : Word := x.rotateRight 2 ^^^ x.rotateRight 13 ^^^ x.rotateRight 22
def bigSigma1 (x : Word) : Word := x.rotateRight 6 ^^^ x.rotateRight 11 ^^^ x.rotateRight 25
def smallSigma0 (x : Word) : Word := x.rotateRight 7 ^^^ x.rotateRight 18 ^^^ x >>> 3
def smallSigma1 (x : Word) : Word := x.rotateRight 17 ^^^ x.rotateRight 19 ^^^ x >>> 10

def primes : List Nat :=
  [2, 3, 5, 7, 11, 13, 17, 19, 23, 29, 31, 37, 41, 43, 47, 53, 59, 61, 67, 71, 73, 79, 83, 89, 97,
    101, 103, 107, 109, 113, 127, 131, 137, 139, 149, 151, 157, 163, 167, 173, 179, 181, 191, 193,
    197, 199, 211, 223, 227, 229, 233, 239, 241, 251, 257, 263, 269, 271, 277, 281, 283, 293, 307,
    311]

/-- The first bits of the fractional part of a root. -/
def rootBits (degree p : Nat) : Word := BitVec.ofNat 32 (Nat.nthRoot degree (p * 2 ^ (32 * degree)))

/-- The constants of the rounds, from the cube roots of the primes. -/
def constants : List Word := primes.map (rootBits 3)

/-- The hash value before the first block, from the square roots of the first primes. -/
def initial : Words where
  a := rootBits 2 2
  b := rootBits 2 3
  c := rootBits 2 5
  d := rootBits 2 7
  e := rootBits 2 11
  f := rootBits 2 13
  g := rootBits 2 17
  h := rootBits 2 19

/-- The word of the message schedule at a place, given the words of the block. -/
def schedule (block : Nat → Word) (t : Nat) : Word :=
  if t < 16 then block t
  else smallSigma1 (schedule block (t - 2)) + schedule block (t - 7) +
    smallSigma0 (schedule block (t - 15)) + schedule block (t - 16)
termination_by t
decreasing_by all_goals omega

def round (v : Words) (k w : Word) : Words :=
  let t1 := v.h + bigSigma1 v.e + ch v.e v.f v.g + k + w
  let t2 := bigSigma0 v.a + maj v.a v.b v.c
  { a := t1 + t2, b := v.a, c := v.b, d := v.c, e := v.d + t1, f := v.e, g := v.f, h := v.g }

def Words.add (v w : Words) : Words where
  a := v.a + w.a
  b := v.b + w.b
  c := v.c + w.c
  d := v.d + w.d
  e := v.e + w.e
  f := v.f + w.f
  g := v.g + w.g
  h := v.h + w.h

def word (bytes : List UInt8) : Word := BitVec.ofNat 32 (value bytes.reverse)

def blockWord (block : List UInt8) (t : Nat) : Word := word ((block.drop (4 * t)).take 4)

def compress (hash : Words) (block : List UInt8) : Words :=
  hash.add ((List.range 64).foldl
    (fun v t => round v (constants.getD t 0) (schedule (blockWord block) t)) hash)

def zeroes (length : Nat) : Nat := (119 - length % 64) % 64

/-- The padding: a bit that is set, zeroes, and the length of the message in bits. -/
def pad (message : List UInt8) : List UInt8 :=
  message ++ 0x80 :: List.replicate (zeroes message.length) 0 ++
    (bytes 8 (8 * message.length)).reverse

def blocks (padded : List UInt8) : List (List UInt8) :=
  (List.range (padded.length / 64)).map fun i => (padded.drop (64 * i)).take 64

def wordBytes (w : Word) : List UInt8 := (bytes 4 w.toNat).reverse

def Words.digest (v : Words) : List UInt8 :=
  [v.a, v.b, v.c, v.d, v.e, v.f, v.g, v.h].flatMap wordBytes

def hash (message : List UInt8) : List UInt8 :=
  ((blocks (pad message)).foldl compress initial).digest

theorem zeroes_least (length : Nat) :
    (length + 1 + zeroes length + 8) % 64 = 0 ∧
      ∀ k, (length + 1 + k + 8) % 64 = 0 → zeroes length ≤ k := by
  unfold zeroes
  constructor
  · omega
  · intro k fills
    omega

theorem length_pad (message : List UInt8) : (pad message).length % 64 = 0 := by
  have fills := (zeroes_least message.length).1
  simp only [pad, List.length_append, List.length_cons, List.length_replicate, List.length_reverse,
    length_bytes]
  omega

theorem blocks_flatten {list : List (List UInt8)} (whole : ∀ block ∈ list, block.length = 64) :
    blocks list.flatten = list := by
  induction list with
  | nil => rfl
  | cons block rest ih =>
    obtain ⟨first, others⟩ := List.forall_mem_cons.mp whole
    have count : (block ++ rest.flatten).length / 64 = rest.flatten.length / 64 + 1 := by
      rw [List.length_append, first]
      omega
    have later := ih others
    unfold blocks at later ⊢
    rw [List.flatten_cons, count, List.range_succ_eq_map, List.map_cons, List.map_map]
    refine congrArg₂ List.cons ?_ (Eq.trans (List.map_congr_left fun i _ => ?_) later)
    · rw [Nat.mul_zero, List.drop_zero, ← first, List.take_left]
    · have place : 64 * (i + 1) = block.length + 64 * i := by
        rw [first]
        omega
      simp only [Function.comp_apply, Nat.succ_eq_add_one]
      rw [place, List.drop_length_add_append]

end Sha256
