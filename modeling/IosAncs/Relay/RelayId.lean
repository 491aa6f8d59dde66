import IosAncs.Protocol.Notification

/-!
The relay id of a notification: the first half of the SHA-256 of the boot nonce and
of what tells notifications apart, in hexadecimal digits.
The source is `relay_policy.c`.
-/
open CString

structure Sha256State where
  a : UInt32
  b : UInt32
  c : UInt32
  d : UInt32
  e : UInt32
  f : UInt32
  g : UInt32
  h : UInt32
deriving DecidableEq, Repr

/-- `sha256_context_t`, with the buffer up to `buffer_len`. -/
structure Sha256Context where
  state : Sha256State
  bitCount : UInt64
  buffer : List UInt8
deriving DecidableEq, Repr

namespace RelayPolicy

def sha256K : List UInt32 :=
  [0x428a2f98, 0x71374491, 0xb5c0fbcf, 0xe9b5dba5, 0x3956c25b, 0x59f111f1, 0x923f82a4, 0xab1c5ed5,
   0xd807aa98, 0x12835b01, 0x243185be, 0x550c7dc3, 0x72be5d74, 0x80deb1fe, 0x9bdc06a7, 0xc19bf174,
   0xe49b69c1, 0xefbe4786, 0x0fc19dc6, 0x240ca1cc, 0x2de92c6f, 0x4a7484aa, 0x5cb0a9dc, 0x76f988da,
   0x983e5152, 0xa831c66d, 0xb00327c8, 0xbf597fc7, 0xc6e00bf3, 0xd5a79147, 0x06ca6351, 0x14292967,
   0x27b70a85, 0x2e1b2138, 0x4d2c6dfc, 0x53380d13, 0x650a7354, 0x766a0abb, 0x81c2c92e, 0x92722c85,
   0xa2bfe8a1, 0xa81a664b, 0xc24b8b70, 0xc76c51a3, 0xd192e819, 0xd6990624, 0xf40e3585, 0x106aa070,
   0x19a4c116, 0x1e376c08, 0x2748774c, 0x34b0bcb5, 0x391c0cb3, 0x4ed8aa4a, 0x5b9cca4f, 0x682e6ff3,
   0x748f82ee, 0x78a5636f, 0x84c87814, 0x8cc70208, 0x90befffa, 0xa4506ceb, 0xbef9a3f7, 0xc67178f2]

def rotr32 (value bits : UInt32) : UInt32 := (value >>> bits) ||| (value <<< (32 - bits))

def loadBe32 (b0 b1 b2 b3 : UInt8) : UInt32 :=
  (b0.toUInt32 <<< 24) ||| (b1.toUInt32 <<< 16) ||| (b2.toUInt32 <<< 8) ||| b3.toUInt32

def storeBe32 (value : UInt32) : List UInt8 :=
  [(value >>> 24).toUInt8, (value >>> 16).toUInt8, (value >>> 8).toUInt8, value.toUInt8]

def blockWords : List UInt8 → List UInt32
  | b0 :: b1 :: b2 :: b3 :: rest => loadBe32 b0 b1 b2 b3 :: blockWords rest
  | _ => []

def scheduleWord (w : List UInt32) : UInt32 :=
  let w15 := w.getD 14 0
  let w2 := w.getD 1 0
  let s0 := rotr32 w15 7 ^^^ rotr32 w15 18 ^^^ (w15 >>> 3)
  let s1 := rotr32 w2 17 ^^^ rotr32 w2 19 ^^^ (w2 >>> 10)
  w.getD 15 0 + s0 + w.getD 6 0 + s1

def extendSchedule : Nat → List UInt32 → List UInt32
  | 0, w => w
  | more + 1, w => extendSchedule more (scheduleWord w :: w)

def schedule (block : List UInt8) : List UInt32 :=
  (extendSchedule 48 (blockWords block).reverse).reverse

/-- One turn of the loop of `sha256_transform`. -/
def round (s : Sha256State) (kw : UInt32 × UInt32) : Sha256State :=
  let s1 := rotr32 s.e 6 ^^^ rotr32 s.e 11 ^^^ rotr32 s.e 25
  let ch := (s.e &&& s.f) ^^^ ((~~~s.e) &&& s.g)
  let temp1 := s.h + s1 + ch + kw.1 + kw.2
  let s0 := rotr32 s.a 2 ^^^ rotr32 s.a 13 ^^^ rotr32 s.a 22
  let maj := (s.a &&& s.b) ^^^ (s.a &&& s.c) ^^^ (s.b &&& s.c)
  let temp2 := s0 + maj
  { a := temp1 + temp2, b := s.a, c := s.b, d := s.c
    e := s.d + temp1, f := s.e, g := s.f, h := s.g }

def sha256Transform (s : Sha256State) (block : List UInt8) : Sha256State :=
  let t := (sha256K.zip (schedule block)).foldl round s
  { a := s.a + t.a, b := s.b + t.b, c := s.c + t.c, d := s.d + t.d
    e := s.e + t.e, f := s.f + t.f, g := s.g + t.g, h := s.h + t.h }

def sha256Init : Sha256Context where
  state :=
    { a := 0x6a09e667, b := 0xbb67ae85, c := 0x3c6ef372, d := 0xa54ff53a
      e := 0x510e527f, f := 0x9b05688c, g := 0x1f83d9ab, h := 0x5be0cd19 }
  bitCount := 0
  buffer := []

/-- The loop of `sha256_update`; every turn takes at least one byte. -/
def absorb : Nat → Sha256Context → List UInt8 → Sha256Context
  | 0, hash, _ => hash
  | fuel + 1, hash, data =>
    if data = [] then hash
    else
      let space := 64 - hash.buffer.length
      let buffer := hash.buffer ++ data.take space
      let next :=
        if buffer.length = 64 then
          { hash with state := sha256Transform hash.state buffer, buffer := [] }
        else { hash with buffer }
      absorb fuel next (data.drop space)

def sha256Update (hash : Sha256Context) (data : List UInt8) : Sha256Context :=
  absorb data.length { hash with bitCount := hash.bitCount + UInt64.ofNat data.length * 8 } data

/-- The loop of `sha256_finish` that fills up with zeroes. -/
def padZeroes : Nat → Sha256Context → Sha256Context
  | 0, hash => hash
  | fuel + 1, hash =>
    if hash.buffer.length = 56 then hash else padZeroes fuel (sha256Update hash [0])

def lengthBytes (bitCount : UInt64) : List UInt8 :=
  [(bitCount >>> 56).toUInt8, (bitCount >>> 48).toUInt8, (bitCount >>> 40).toUInt8,
    (bitCount >>> 32).toUInt8, (bitCount >>> 24).toUInt8, (bitCount >>> 16).toUInt8,
    (bitCount >>> 8).toUInt8, bitCount.toUInt8]

def sha256Finish (hash : Sha256Context) : List UInt8 :=
  let padded := padZeroes 64 (sha256Update hash [0x80])
  let last := (sha256Update padded (lengthBytes hash.bitCount)).state
  [last.a, last.b, last.c, last.d, last.e, last.f, last.g, last.h].flatMap storeBe32

def hashCstr {max : Nat} (hash : Sha256Context) (value : CharArray max) : Sha256Context :=
  sha256Update hash (text value ++ [0])

def hashU32 (hash : Sha256Context) (value : UInt32) : Sha256Context :=
  [value.toUInt8, (value >>> 8).toUInt8, (value >>> 16).toUInt8, (value >>> 24).toUInt8].foldl
    (fun hash byte => sha256Update hash [byte]) hash

def hexDigit (n : Nat) : UInt8 := UInt8.ofNat (if n < 10 then 48 + n else 87 + n)

def hexByte (byte : UInt8) : List UInt8 :=
  [hexDigit (byte.toNat / 16), hexDigit (byte.toNat % 16)]

/-- `relay_policy_build_id`; the buffer of its callers has room for the id. -/
def buildId {limits : AncsLimits} (notification : AncsNotification limits) (bootNonce : UInt32) :
    List UInt8 :=
  let hash := hashU32 sha256Init bootNonce
  let hash := hashU32 hash notification.sessionId
  let hash := hashU32 hash notification.uid
  let hash := hashU32 hash notification.eventId.toUInt32
  let hash := hashCstr hash notification.appId
  let hash := hashCstr hash notification.title
  let hash := hashCstr hash notification.subtitle
  let hash := hashCstr hash notification.message
  let hash := hashCstr hash notification.dateRaw
  ((sha256Finish hash).take 16).flatMap hexByte

theorem length_buildId {limits : AncsLimits} (notification : AncsNotification limits)
    (bootNonce : UInt32) : (buildId notification bootNonce).length = 32 := by
  have digest : ∀ hash, (sha256Finish hash).length = 32 := by
    intro hash
    simp [sha256Finish, storeBe32]
  simp [buildId, hexByte, digest]

/-- The digest of `abc`. -/
example : sha256Finish (sha256Update sha256Init [97, 98, 99]) =
    [0xba, 0x78, 0x16, 0xbf, 0x8f, 0x01, 0xcf, 0xea, 0x41, 0x41, 0x40, 0xde, 0x5d, 0xae, 0x22, 0x23,
     0xb0, 0x03, 0x61, 0xa3, 0x96, 0x17, 0x7a, 0x9c, 0xb4, 0x10, 0xff, 0x61, 0xf2, 0x00, 0x15, 0xad] := by
  decide +kernel

end RelayPolicy
