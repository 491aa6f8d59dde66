import Mathlib.Data.List.Basic
import Mathlib.Data.UInt

/-!
The name server of the setup network: which datagrams it takes for a question, and the one
address it answers with. Every access names the bytes that it may touch.
The source is `captive_dns.c`.
-/
namespace CaptiveDns

inductive MemoryFault where
  | read
  | write
deriving DecidableEq, Repr

/-- The byte at an index of a packet, of which the bytes below `fin` may be read -/
def readByte (packet : List UInt8) (fin index : Nat) : Except MemoryFault UInt8 :=
  match (packet.take fin)[index]? with
  | some byte => .ok byte
  | none => .error .read

def writeBytes (buffer : List UInt8) (index : Nat) (bytes : List UInt8) :
    Except MemoryFault (List UInt8) :=
  if index + bytes.length ≤ buffer.length then
    .ok (buffer.take index ++ bytes ++ buffer.drop (index + bytes.length))
  else .error .write

/-- `ntohs` of the two bytes at an index -/
def readShort (packet : List UInt8) (fin index : Nat) : Except MemoryFault UInt16 := do
  let high ← readByte packet fin index
  let low ← readByte packet fin (index + 1)
  pure (high.toUInt16 <<< 8 ||| low.toUInt16)

/-- `htons` -/
def shortBytes (value : UInt16) : List UInt8 := [(value >>> 8).toUInt8, value.toUInt8]

/-- `htonl` -/
def longBytes (value : UInt32) : List UInt8 :=
  [(value >>> 24).toUInt8, (value >>> 16).toUInt8, (value >>> 8).toUInt8, value.toUInt8]

def dnsQrFlag : UInt16 := 0x8000
def dnsOpcodeMask : UInt16 := 0x7800
def dnsQtypeA : UInt16 := 0x0001
def dnsQclassIn : UInt16 := 0x0001
def dnsReplyTtlSec : UInt32 := 300
/-- `sizeof(dns_header_t)` -/
def headerSize : Nat := 12
/-- `sizeof(dns_answer_t)` -/
def answerSize : Nat := 16

/-- `esp_ip4_addr_t`: the octets as they lie in memory -/
structure IpAddr where
  octets : Vector UInt8 4

/-- The loop of `skip_dns_name`: the label it ends at, if it does not return in between -/
def skipLabels (packet : List UInt8) (fin label : Nat) : Except MemoryFault (Option Nat) :=
  if inside : label < fin then do
    let labelLen ← readByte packet fin label
    if labelLen = 0 then pure (some label)
    else if labelLen &&& 0xC0 ≠ 0 ∨ label + labelLen.toNat + 1 ≥ fin then pure none
    else skipLabels packet fin (label + labelLen.toNat + 1)
  else pure (some label)
termination_by fin - label

def skipDnsName (packet : List UInt8) (fin start : Nat) : Except MemoryFault (Option Nat) := do
  match ← skipLabels packet fin start with
  | none => pure none
  | some label => pure (if label < fin then some (label + 1) else none)

def answerBytes (questionStart : Nat) (apIp : IpAddr) : List UInt8 :=
  shortBytes (0xC000 ||| questionStart.toUInt16) ++ shortBytes dnsQtypeA ++ shortBytes dnsQclassIn ++
    longBytes dnsReplyTtlSec ++ shortBytes 4 ++ apIp.octets.toList

/-- What `build_wildcard_reply` does with a question whose name ends at `questionEnd` -/
def answerQuestion (reply : List UInt8) (requestLen : Nat) (flags : UInt16) (questionEnd : Nat)
    (apIp : IpAddr) : Except MemoryFault (Int × List UInt8) :=
  if questionEnd + 4 > requestLen then pure (-1, reply)
  else do
    let qtype ← readShort reply requestLen questionEnd
    let qclass ← readShort reply requestLen (questionEnd + 2)
    if qtype ≠ dnsQtypeA ∨ qclass ≠ dnsQclassIn then pure (0, reply)
    else
      let questionLen := questionEnd + 4
      let totalLen := questionLen + answerSize
      if totalLen > reply.length then pure (-1, reply)
      else
        let reply ← writeBytes reply 2 (shortBytes (flags ||| dnsQrFlag))
        let reply ← writeBytes reply 4 (shortBytes 1 ++ shortBytes 1 ++ shortBytes 0 ++ shortBytes 0)
        let reply ← writeBytes reply questionLen (answerBytes headerSize apIp)
        pure (totalLen, reply)

/-- `build_wildcard_reply`: what it returns, and the buffer of the reply as it leaves it -/
def buildWildcardReply (request reply : List UInt8) (apIp : IpAddr) :
    Except MemoryFault (Int × List UInt8) :=
  let requestLen := request.length
  let replyLen := reply.length
  if requestLen < headerSize ∨ requestLen > replyLen then pure (-1, reply)
  else do
    let reply ← writeBytes reply 0 (List.replicate replyLen 0)
    let reply ← writeBytes reply 0 request
    let flags ← readShort reply requestLen 2
    if flags &&& dnsOpcodeMask ≠ 0 then pure (0, reply)
    else
      let qdCount ← readShort reply requestLen 4
      if qdCount ≠ 1 then pure (0, reply)
      else
        match ← skipDnsName reply requestLen headerSize with
        | none => pure (-1, reply)
        | some questionEnd => answerQuestion reply requestLen flags questionEnd apIp

structure Header where
  id : UInt8 × UInt8
  flags : UInt8 × UInt8
  qdCount : UInt8 × UInt8
  anCount : UInt8 × UInt8
  nsCount : UInt8 × UInt8
  arCount : UInt8 × UInt8

namespace Header

def bytes (header : Header) : List UInt8 :=
  [header.id.1, header.id.2, header.flags.1, header.flags.2, header.qdCount.1, header.qdCount.2,
    header.anCount.1, header.anCount.2, header.nsCount.1, header.nsCount.2, header.arCount.1,
    header.arCount.2]

def response (header : Header) : Bool := header.flags.1.toNat.testBit 7

def opcode (header : Header) : Nat := header.flags.1.toNat / 8 % 16

@[simp] theorem length_bytes (header : Header) : header.bytes.length = 12 := rfl

theorem bytes_inj {header header' : Header} {rest rest' : List UInt8}
    (same : header.bytes ++ rest = header'.bytes ++ rest') : header = header' := by
  have parts := (List.append_inj same rfl).1
  simp only [bytes, List.cons.injEq, and_true] at parts
  obtain ⟨h1, h2, h3, h4, h5, h6, h7, h8, h9, h10, h11, h12⟩ := parts
  cases header
  cases header'
  simp only [mk.injEq, Prod.ext_iff]
  exact ⟨⟨h1, h2⟩, ⟨h3, h4⟩, ⟨h5, h6⟩, ⟨h7, h8⟩, ⟨h9, h10⟩, h11, h12⟩

theorem of_bytes {datagram : List UInt8} (long : 12 ≤ datagram.length) :
    ∃ (header : Header) (rest : List UInt8), datagram = header.bytes ++ rest := by
  match datagram, long with
  | i :: i' :: f :: f' :: q :: q' :: a :: a' :: n :: n' :: r :: r' :: rest, _ =>
      exact ⟨⟨(i, i'), (f, f'), (q, q'), (a, a'), (n, n'), (r, r')⟩, rest, rfl⟩

end Header

def nameBytes : List (List UInt8) → List UInt8
  | [] => [0]
  | label :: rest => UInt8.ofNat label.length :: (label ++ nameBytes rest)

def WellFormedName (labels : List (List UInt8)) : Prop :=
  (∀ label ∈ labels, 0 < label.length ∧ label.length ≤ 63) ∧ (nameBytes labels).length ≤ 255

/-- A message that asks for the address of a name. What follows the question is left open. -/
structure AddressQuestion where
  header : Header
  labels : List (List UInt8)
  rest : List UInt8
  named : WellFormedName labels

namespace AddressQuestion

def question (q : AddressQuestion) : List UInt8 := nameBytes q.labels ++ [0, 1, 0, 1]

def datagram (q : AddressQuestion) : List UInt8 := q.header.bytes ++ (q.question ++ q.rest)

def Standard (q : AddressQuestion) : Prop := q.header.opcode = 0 ∧ q.header.qdCount = (0, 1)

/-- The reply to the question: its one record points to the name at offset 12. -/
def reply (q : AddressQuestion) (apIp : IpAddr) : List UInt8 :=
  { q.header with
    flags := (q.header.flags.1 ||| 0x80, q.header.flags.2)
    qdCount := (0, 1)
    anCount := (0, 1)
    nsCount := (0, 0)
    arCount := (0, 0) }.bytes ++ q.question ++
  [0xC0, 12, 0, 1, 0, 1, 0, 0, 1, 44, 0, 4] ++ apIp.octets.toList

end AddressQuestion

def IsQuery (request : List UInt8) : Prop :=
  ∃ q : AddressQuestion, q.datagram = request ∧ q.header.response = false ∧ q.Standard

/-- The request is answered if and only if it is a query, with the reply that its question asks for. -/
def AnswersQueries (request reply : List UInt8) (apIp : IpAddr) : Prop :=
  ∃ size buffer, buildWildcardReply request reply apIp = .ok (size, buffer) ∧
    buffer.length = reply.length ∧ (0 < size ↔ IsQuery request) ∧
    ∀ q : AddressQuestion, q.datagram = request → 0 < size →
      size = 12 + q.question.length + 16 ∧ buffer.take size.toNat = q.reply apIp

theorem writeBytes_middle {before old after_ bytes buffer : List UInt8} {index : Nat}
    (parts : buffer = before ++ old ++ after_) (start : index = before.length)
    (width : old.length = bytes.length) :
    writeBytes buffer index bytes = .ok (before ++ bytes ++ after_) := by
  subst parts start
  have room : before.length + bytes.length ≤ (before ++ old ++ after_).length := by
    simp only [List.length_append]
    omega
  have cut : (before ++ old).length = before.length + bytes.length := by
    rw [List.length_append, width]
  rw [writeBytes, if_pos room, ← cut, List.drop_left, List.append_assoc before old, List.take_left]

theorem forall_byte {P : UInt8 → Prop} (all : ∀ n < 256, P (UInt8.ofNat n)) (byte : UInt8) :
    P byte := by
  have this_ := all byte.toNat byte.toNat_lt
  rwa [UInt8.ofNat_toNat] at this_

theorem compressed_iff : ∀ byte : UInt8, byte &&& 0xC0 ≠ 0 ↔ 63 < byte.toNat :=
  forall_byte (by decide +kernel)

theorem toNat_short (high low : UInt8) :
    (high.toUInt16 <<< 8 ||| low.toUInt16).toNat = high.toNat * 256 + low.toNat := by
  have upper : ∀ byte : UInt8, (byte.toUInt16 <<< 8).toNat = byte.toNat <<< 8 :=
    forall_byte (by decide +kernel)
  rw [UInt16.toNat_or, upper, UInt8.toNat_toUInt16,
    ← Nat.shiftLeft_add_eq_or_of_lt low.toNat_lt, Nat.shiftLeft_eq]

theorem short_eq_one (high low : UInt8) :
    high.toUInt16 <<< 8 ||| low.toUInt16 = 1 ↔ high = 0 ∧ low = 1 := by
  have small := low.toNat_lt
  rw [← UInt16.toNat_inj, toNat_short, ← UInt8.toNat_inj, ← UInt8.toNat_inj]
  show _ = 1 ↔ _ = 0 ∧ _ = 1
  omega

theorem opcode_iff (high low : UInt8) :
    (high.toUInt16 <<< 8 ||| low.toUInt16) &&& dnsOpcodeMask = 0 ↔ high.toNat / 8 % 16 = 0 := by
  have upper : ∀ byte : UInt8,
      byte.toUInt16 <<< 8 &&& dnsOpcodeMask = 0 ↔ byte.toNat / 8 % 16 = 0 :=
    forall_byte (by decide +kernel)
  have lower : ∀ byte : UInt8, byte.toUInt16 &&& dnsOpcodeMask = 0 :=
    forall_byte (by decide +kernel)
  have parts : (high.toUInt16 <<< 8 ||| low.toUInt16) &&& dnsOpcodeMask =
      (high.toUInt16 <<< 8 &&& dnsOpcodeMask) ||| (low.toUInt16 &&& dnsOpcodeMask) :=
    UInt16.toBitVec_inj.mp BitVec.and_or_distrib_right
  rw [parts, lower, UInt16.or_zero, upper]

theorem shortBytes_response (high low : UInt8) :
    shortBytes (high.toUInt16 <<< 8 ||| low.toUInt16 ||| dnsQrFlag) = [high ||| 0x80, low] := by
  have upper : ∀ byte : UInt8, shortBytes (byte.toUInt16 <<< 8) = [byte, 0] :=
    forall_byte (by decide +kernel)
  have lower : ∀ byte : UInt8, shortBytes byte.toUInt16 = [0, byte] :=
    forall_byte (by decide +kernel)
  have flag : shortBytes dnsQrFlag = [0x80, 0] := by decide
  simp only [shortBytes, List.cons.injEq, and_true] at upper lower flag ⊢
  simp only [UInt16.shiftRight_or, UInt16.toUInt8_or, upper, lower, flag, UInt8.or_zero,
    UInt8.zero_or, and_self]

section
variable {packet : List UInt8} {fin : Nat}

theorem readByte_of {index : Nat} {byte : UInt8} (there : (packet.take fin)[index]? = some byte) :
    readByte packet fin index = .ok byte := by
  simp only [readByte, there]

theorem readShort_of {index : Nat} {high low : UInt8}
    (there : (packet.take fin)[index]? = some high)
    (there' : (packet.take fin)[index + 1]? = some low) :
    readShort packet fin index = .ok (high.toUInt16 <<< 8 ||| low.toUInt16) := by
  simp only [readShort, readByte_of there, readByte_of there']
  rfl

theorem skipDnsName_step {label : Nat} {byte : UInt8}
    (inside : label < fin) (there : (packet.take fin)[label]? = some byte) :
    skipDnsName packet fin label =
      if byte = 0 then .ok (some (label + 1))
      else if 63 < byte.toNat ∨ label + byte.toNat + 1 ≥ fin then .ok none
      else skipDnsName packet fin (label + byte.toNat + 1) := by
  rw [skipDnsName, skipLabels, dif_pos inside, readByte_of there]
  simp only [compressed_iff]
  by_cases root : byte = 0
  · simp only [root, if_true]
    show Except.ok (if label < fin then some (label + 1) else none) = _
    rw [if_pos inside]
  · by_cases bad : 63 < byte.toNat ∨ label + byte.toNat + 1 ≥ fin
    · simp only [bind, Except.bind, if_neg root, if_pos bad]
      rfl
    · simp only [bind, Except.bind, if_neg root, if_neg bad]
      rfl

end

def Short (labels : List (List UInt8)) : Prop := ∀ label ∈ labels, 0 < label.length ∧ label.length ≤ 63

def Begins (seen : List UInt8) (length : Nat) : Prop :=
  ∃ labels rest, Short labels ∧ seen = nameBytes labels ++ rest ∧ length = (nameBytes labels).length

theorem toNat_label {label : List UInt8} (short : label.length ≤ 63) :
    (UInt8.ofNat label.length).toNat = label.length := by
  rw [UInt8.toNat_ofNat']
  omega

theorem not_begins_nil (length : Nat) : ¬ Begins [] length := by
  rintro ⟨labels, rest, -, same, -⟩
  cases labels <;> simp [nameBytes] at same

theorem begins_root (seen : List UInt8) (length : Nat) : Begins (0 :: seen) length ↔ length = 1 := by
  constructor
  · rintro ⟨labels, rest, short, same, rfl⟩
    cases labels with
    | nil => rfl
    | cons label labels =>
        have fits := short label List.mem_cons_self
        have zero := congrArg UInt8.toNat (List.cons.inj same).1
        rw [toNat_label fits.2] at zero
        exact absurd zero (Nat.ne_of_lt fits.1)
  · rintro rfl
    exact ⟨[], seen, by simp [Short], rfl, rfl⟩

theorem begins_label {byte : UInt8} (more : byte ≠ 0) (seen : List UInt8) (length : Nat) :
    Begins (byte :: seen) length ↔ byte.toNat ≤ 63 ∧
      ∃ others, Begins (seen.drop byte.toNat) others ∧ length = byte.toNat + 1 + others := by
  constructor
  · rintro ⟨labels, rest, short, same, rfl⟩
    cases labels with
    | nil => exact absurd (List.cons.inj same).1 more
    | cons label labels =>
        have fits := short label List.mem_cons_self
        rw [nameBytes, List.cons_append, List.append_assoc] at same
        obtain ⟨rfl, rfl⟩ := List.cons.inj same
        rw [toNat_label fits.2]
        refine ⟨fits.2, (nameBytes labels).length, ⟨labels, rest, ?_, ?_, rfl⟩, ?_⟩
        · intro other mem
          exact short other (List.mem_cons_of_mem _ mem)
        · exact List.drop_left
        · simp only [nameBytes, List.length_cons, List.length_append]
          omega
  · rintro ⟨small, others, ⟨labels, rest, short, same, rfl⟩, rfl⟩
    have positive : byte.toNat ≠ 0 := by
      intro zero
      exact more (UInt8.toNat_inj.mp zero)
    have inside : byte.toNat ≤ seen.length := by
      by_contra beyond
      rw [List.drop_eq_nil_of_le (by omega)] at same
      exact not_begins_nil _ ⟨labels, rest, short, same, rfl⟩
    have taken : (seen.take byte.toNat).length = byte.toNat := by
      rw [List.length_take]
      omega
    refine ⟨seen.take byte.toNat :: labels, rest, ?_, ?_, ?_⟩
    · intro label mem
      rcases List.mem_cons.mp mem with rfl | mem
      · omega
      · exact short label mem
    · rw [nameBytes, taken, UInt8.ofNat_toNat, List.cons_append, List.append_assoc, ← same,
        List.take_append_drop]
    · rw [nameBytes, List.length_cons, List.length_append, taken]
      omega

/-- The walk reads nothing behind the packet, and ends behind a name if and only if the packet
    goes on with one. -/
theorem skipDnsName_spec {packet seen before : List UInt8} {fin : Nat}
    (parts : packet.take fin = before ++ seen) (whole : fin = before.length + seen.length) :
    ∃ answer, skipDnsName packet fin before.length = .ok answer ∧
      ∀ stop, answer = some stop ↔ ∃ length, Begins seen length ∧ stop = before.length + length := by
  induction size : seen.length using Nat.strongRecOn generalizing before seen with
  | ind size ih =>
    cases seen with
    | nil =>
        have outside : ¬ before.length < fin := by simp [whole]
        refine ⟨none, ?_, ?_⟩
        · rw [skipDnsName, skipLabels, dif_neg outside]
          show Except.ok (if before.length < fin then some (before.length + 1) else none) = _
          rw [if_neg outside]
        · intro stop
          simp [not_begins_nil]
    | cons byte seen =>
        rw [List.length_cons] at whole size
        have there : (packet.take fin)[before.length]? = some byte := by
          simp [parts]
        rw [skipDnsName_step (by omega) there]
        by_cases root : byte = 0
        · subst root
          refine ⟨some (before.length + 1), if_pos rfl, ?_⟩
          intro stop
          simp only [begins_root, exists_eq_left, Option.some.injEq, eq_comm]
        · by_cases bad : 63 < byte.toNat ∨ before.length + byte.toNat + 1 ≥ fin
          · refine ⟨none, by rw [if_neg root, if_pos bad], ?_⟩
            intro stop
            simp only [reduceCtorEq, false_iff, begins_label root]
            rintro ⟨length, ⟨small, others, begins, -⟩, -⟩
            have nothing : seen.drop byte.toNat = [] := List.drop_eq_nil_of_le (by omega)
            rw [nothing] at begins
            exact not_begins_nil others begins
          · rw [not_or] at bad
            have inside : byte.toNat ≤ seen.length := by omega
            have taken : (seen.take byte.toNat).length = byte.toNat := by
              rw [List.length_take]
              omega
            have next : (before ++ byte :: seen.take byte.toNat).length =
                before.length + byte.toNat + 1 := by
              rw [List.length_append, List.length_cons, taken]
              omega
            have rest : (seen.drop byte.toNat).length = seen.length - byte.toNat := List.length_drop
            have cut : packet.take fin =
                (before ++ byte :: seen.take byte.toNat) ++ seen.drop byte.toNat := by
              rw [parts, List.append_assoc, List.cons_append, List.take_append_drop]
            obtain ⟨answer, walks, ends⟩ := ih _ (by omega) cut (by omega) rfl
            rw [next] at walks ends
            refine ⟨answer, by rw [if_neg root, if_neg (by omega), walks], ?_⟩
            intro stop
            rw [ends]
            simp only [begins_label root]
            constructor
            · rintro ⟨others, begins, rfl⟩
              exact ⟨_, ⟨by omega, others, begins, rfl⟩, by omega⟩
            · rintro ⟨_, ⟨-, others, begins, rfl⟩, rfl⟩
              exact ⟨others, begins, by omega⟩

def copied (request : List UInt8) (size : Nat) : List UInt8 :=
  request ++ List.replicate (size - request.length) 0

theorem writeBytes_cleared (reply : List UInt8) :
    writeBytes reply 0 (List.replicate reply.length 0) = .ok (List.replicate reply.length 0) := by
  have whole : reply = [] ++ reply ++ [] := by simp
  rw [writeBytes_middle whole (List.length_nil).symm (by simp), List.nil_append, List.append_nil]

theorem writeBytes_copied {request : List UInt8} {size : Nat} (fits : request.length ≤ size) :
    writeBytes (List.replicate size 0) 0 request = .ok (copied request size) := by
  have whole : List.replicate size (0 : UInt8) =
      [] ++ List.replicate request.length 0 ++ List.replicate (size - request.length) 0 := by
    rw [List.nil_append, List.replicate_append_replicate, Nat.add_sub_cancel' fits]
  exact writeBytes_middle whole rfl (by simp)

@[simp] theorem take_copied (request : List UInt8) (size : Nat) :
    (copied request size).take request.length = request := List.take_left

@[simp] theorem length_copied {request : List UInt8} {size : Nat} (fits : request.length ≤ size) :
    (copied request size).length = size := by
  rw [copied, List.length_append, List.length_replicate, Nat.add_sub_cancel' fits]

section
variable {header : Header} {tail reply : List UInt8}

abbrev requestOf (header : Header) (tail : List UInt8) : List UInt8 := header.bytes ++ tail

theorem buildWildcardReply_eq (fits : (requestOf header tail).length ≤ reply.length) (apIp : IpAddr) :
    buildWildcardReply (requestOf header tail) reply apIp =
      let copy := copied (requestOf header tail) reply.length
      if header.opcode ≠ 0 ∨ header.qdCount ≠ (0, 1) then .ok (0, copy)
      else (skipDnsName copy (requestOf header tail).length 12).bind fun
        | none => .ok (-1, copy)
        | some questionEnd => answerQuestion copy (requestOf header tail).length
            (header.flags.1.toUInt16 <<< 8 ||| header.flags.2.toUInt16) questionEnd apIp := by
  have long : ¬ ((requestOf header tail).length < headerSize ∨
      (requestOf header tail).length > reply.length) := by
    have size : (requestOf header tail).length = 12 + tail.length := List.length_append
    simp only [headerSize]
    omega
  have flags : readShort (copied (requestOf header tail) reply.length) (requestOf header tail).length 2 =
      .ok (header.flags.1.toUInt16 <<< 8 ||| header.flags.2.toUInt16) :=
    readShort_of (by rw [take_copied]; rfl) (by rw [take_copied]; rfl)
  have count : readShort (copied (requestOf header tail) reply.length) (requestOf header tail).length 4 =
      .ok (header.qdCount.1.toUInt16 <<< 8 ||| header.qdCount.2.toUInt16) :=
    readShort_of (by rw [take_copied]; rfl) (by rw [take_copied]; rfl)
  have standard : (header.flags.1.toUInt16 <<< 8 ||| header.flags.2.toUInt16) &&& dnsOpcodeMask ≠ 0 ↔
      header.opcode ≠ 0 := not_congr (opcode_iff _ _)
  have single : header.qdCount.1.toUInt16 <<< 8 ||| header.qdCount.2.toUInt16 ≠ 1 ↔
      header.qdCount ≠ (0, 1) := by
    rw [ne_eq, short_eq_one, ne_eq, Prod.ext_iff]
  rw [buildWildcardReply, if_neg long, writeBytes_cleared, bind, Except.instMonad]
  simp only [Except.bind, writeBytes_copied fits, flags, count, standard, single]
  by_cases op : header.opcode ≠ 0
  · rw [if_pos op, if_pos (Or.inl op)]
    rfl
  · by_cases qd : header.qdCount ≠ (0, 1)
    · rw [if_neg op, if_pos qd, if_pos (Or.inr qd)]
      rfl
    · rw [if_neg op, if_neg qd, if_neg (by rw [not_or]; exact ⟨op, qd⟩)]
      rfl

end

theorem answerQuestion_short {packet : List UInt8} {requestLen questionEnd : Nat} {flags : UInt16}
    (short : requestLen < questionEnd + 4) (apIp : IpAddr) :
    answerQuestion packet requestLen flags questionEnd apIp = .ok (-1, packet) := if_pos short

section
variable {packet before rest : List UInt8} {requestLen : Nat} {type type' class_ class' : UInt8}

theorem readShort_question
    (parts : packet.take requestLen = before ++ type :: type' :: class_ :: class' :: rest) :
    readShort packet requestLen before.length = .ok (type.toUInt16 <<< 8 ||| type'.toUInt16) ∧
      readShort packet requestLen (before.length + 2) =
        .ok (class_.toUInt16 <<< 8 ||| class'.toUInt16) := by
  constructor
  · exact readShort_of (by simp [parts]) (by simp [parts])
  · exact readShort_of (by simp [parts]) (by simp [parts, Nat.add_assoc])

theorem asks_other : (type.toUInt16 <<< 8 ||| type'.toUInt16 ≠ dnsQtypeA ∨
    class_.toUInt16 <<< 8 ||| class'.toUInt16 ≠ dnsQclassIn) ↔
      [type, type', class_, class'] ≠ [0, 1, 0, 1] := by
  rw [dnsQtypeA, dnsQclassIn, ne_eq, ne_eq, short_eq_one, short_eq_one]
  simp only [ne_eq, List.cons.injEq, and_true]
  tauto

theorem answerQuestion_other
    (parts : packet.take requestLen = before ++ type :: type' :: class_ :: class' :: rest)
    (inside : before.length + 4 ≤ requestLen) (other : [type, type', class_, class'] ≠ [0, 1, 0, 1])
    (flags : UInt16) (apIp : IpAddr) :
    answerQuestion packet requestLen flags before.length apIp = .ok (0, packet) := by
  obtain ⟨asked, asked'⟩ := readShort_question parts
  rw [answerQuestion, if_neg (by omega), asked, asked', bind, Except.instMonad]
  simp only [Except.bind, asks_other, if_pos other]
  rfl

end

theorem answerQuestion_unasked {packet before rest : List UInt8} {requestLen : Nat}
    (parts : packet.take requestLen = before ++ rest)
    (whole : requestLen = before.length + rest.length)
    (unasked : ∀ behind, rest ≠ [0, 1, 0, 1] ++ behind) (flags : UInt16) (apIp : IpAddr) :
    ∃ size, answerQuestion packet requestLen flags before.length apIp = .ok (size, packet) ∧
      ¬ 0 < size := by
  by_cases few : rest.length < 4
  · exact ⟨-1, answerQuestion_short (by omega) apIp, by omega⟩
  · match rest with
    | type :: type' :: class_ :: class' :: behind =>
        have other : [type, type', class_, class'] ≠ [0, 1, 0, 1] := by
          intro same
          exact unasked behind (congrArg (· ++ behind) same)
        rw [List.length_cons, List.length_cons, List.length_cons, List.length_cons] at whole
        exact ⟨0, answerQuestion_other parts (by omega) other flags apIp, by omega⟩
    | [] | [_] | [_, _] | [_, _, _] => simp at few

theorem answerBytes_eq (apIp : IpAddr) : answerBytes headerSize apIp =
    [0xC0, 12, 0, 1, 0, 1, 0, 0, 1, 44, 0, 4] ++ apIp.octets.toList := rfl

namespace AddressQuestion

theorem length_question (q : AddressQuestion) : q.question.length = (nameBytes q.labels).length + 4 := by
  rw [question, List.length_append]
  rfl

def answered (q : AddressQuestion) : Header :=
  { q.header with flags := (q.header.flags.1 ||| 0x80, q.header.flags.2) }

def replyHeader (q : AddressQuestion) : Header :=
  { q.answered with qdCount := (0, 1), anCount := (0, 1), nsCount := (0, 0), arCount := (0, 0) }

theorem reply_eq (q : AddressQuestion) (apIp : IpAddr) :
    q.reply apIp = q.replyHeader.bytes ++ q.question ++ answerBytes headerSize apIp := by
  rw [answerBytes_eq, ← List.append_assoc]
  rfl

theorem length_reply (q : AddressQuestion) (apIp : IpAddr) :
    (q.reply apIp).length = 12 + q.question.length + 16 := by
  rw [reply_eq, List.length_append, List.length_append, Header.length_bytes]
  simp [answerBytes_eq]

theorem writes_flags (q : AddressQuestion) (others : List UInt8) :
    writeBytes (q.header.bytes ++ others) 2
      (shortBytes (q.header.flags.1.toUInt16 <<< 8 ||| q.header.flags.2.toUInt16 ||| dnsQrFlag)) =
        .ok (q.answered.bytes ++ others) := by
  have whole : q.header.bytes ++ others = q.header.bytes.take 2 ++
    [q.header.flags.1, q.header.flags.2] ++ (q.header.bytes.drop 4 ++ others) := rfl
  rw [shortBytes_response]
  exact writeBytes_middle whole rfl rfl

theorem writes_counts (q : AddressQuestion) (others : List UInt8) :
    writeBytes (q.answered.bytes ++ others) 4
      (shortBytes 1 ++ shortBytes 1 ++ shortBytes 0 ++ shortBytes 0) =
        .ok (q.replyHeader.bytes ++ others) := by
  have whole : q.answered.bytes ++ others = q.answered.bytes.take 4 ++
    q.answered.bytes.drop 4 ++ others := rfl
  exact writeBytes_middle whole rfl rfl

end AddressQuestion

theorem answerQuestion_address (q : AddressQuestion) {packet old behind rest : List UInt8}
    {requestLen : Nat} (request : packet.take requestLen = q.header.bytes ++ (q.question ++ rest))
    (whole : packet = q.header.bytes ++ (q.question ++ (old ++ behind))) (record : old.length = 16)
    (inside : 12 + q.question.length ≤ requestLen) (apIp : IpAddr) :
    answerQuestion packet requestLen (q.header.flags.1.toUInt16 <<< 8 ||| q.header.flags.2.toUInt16)
      (12 + (nameBytes q.labels).length) apIp =
        .ok ((12 + q.question.length + 16 : Nat), q.reply apIp ++ behind) := by
  have question := q.length_question
  have start : 12 + (nameBytes q.labels).length = (q.header.bytes ++ nameBytes q.labels).length := by
    rw [List.length_append, Header.length_bytes]
  have parts : packet.take requestLen =
      (q.header.bytes ++ nameBytes q.labels) ++ 0 :: 1 :: 0 :: 1 :: rest := by
    rw [request, AddressQuestion.question, List.append_assoc, List.append_assoc]
    rfl
  have room : packet.length = 12 + q.question.length + 16 + behind.length := by
    simp only [whole, List.length_append, Header.length_bytes, record]
    omega
  obtain ⟨asked, asked'⟩ := readShort_question parts
  have record_ : writeBytes (q.replyHeader.bytes ++ (q.question ++ (old ++ behind)))
      (12 + (nameBytes q.labels).length + 4) (answerBytes headerSize apIp) =
        .ok (q.reply apIp ++ behind) := by
    have parts_ : q.replyHeader.bytes ++ (q.question ++ (old ++ behind)) =
        (q.replyHeader.bytes ++ q.question) ++ old ++ behind := by
      simp only [List.append_assoc]
    rw [AddressQuestion.reply_eq]
    refine writeBytes_middle parts_ ?_ ?_
    · rw [List.length_append, Header.length_bytes, question, Nat.add_assoc]
    · simp [record, answerBytes_eq]
  rw [answerQuestion, if_neg (by omega), start, asked, asked', bind, Except.instMonad]
  simp only [Except.bind, asks_other, ne_eq, not_true_eq_false, if_false]
  rw [if_neg (by simp only [answerSize]; omega), ← start]
  conv => lhs; rw [whole]
  simp only [q.writes_flags, q.writes_counts, record_]
  rw [question]
  rfl

theorem skips_name (header : Header) (tail reply : List UInt8) :
    ∃ answer, skipDnsName (copied (requestOf header tail) reply.length)
        (requestOf header tail).length 12 = .ok answer ∧
      ∀ stop, answer = some stop ↔ ∃ length, Begins tail length ∧ stop = 12 + length :=
  skipDnsName_spec (take_copied _ _) List.length_append

section
variable {reply : List UInt8}

/-- A standard question is answered, whether the message is a query or not. -/
theorem answers_standard (q : AddressQuestion) (standard : q.Standard)
    (short : q.datagram.length ≤ 128) (buffer : reply.length = 256) (apIp : IpAddr) :
    ∃ behind, buildWildcardReply q.datagram reply apIp =
        .ok ((12 + q.question.length + 16 : Nat), q.reply apIp ++ behind) ∧
      (q.reply apIp ++ behind).length = reply.length := by
  have size : q.datagram.length = 12 + (q.question.length + q.rest.length) := by
    simp only [AddressQuestion.datagram, List.length_append, Header.length_bytes]
  obtain ⟨answer, walks, ends⟩ := skips_name q.header (q.question ++ q.rest) reply
  have name : Begins (q.question ++ q.rest) (nameBytes q.labels).length :=
    ⟨q.labels, [0, 1, 0, 1] ++ q.rest, q.named.1, List.append_assoc _ _ _, rfl⟩
  have stop := (ends _).mpr ⟨_, name, rfl⟩
  generalize whole : q.rest ++ List.replicate (reply.length - q.datagram.length) 0 = others
  have room : others.length = reply.length - 12 - q.question.length := by
    rw [← whole, List.length_append, List.length_replicate]
    omega
  have copy : copied q.datagram reply.length =
      q.header.bytes ++ (q.question ++ (others.take 16 ++ others.drop 16)) := by
    rw [List.take_append_drop, ← whole, copied]
    simp only [AddressQuestion.datagram, List.append_assoc]
  have answered := answerQuestion_address q (take_copied q.datagram reply.length) copy
    (by rw [List.length_take]; omega) (by omega) apIp
  refine ⟨others.drop 16, ?_, ?_⟩
  · show buildWildcardReply (requestOf q.header (q.question ++ q.rest)) reply apIp = _
    rw [buildWildcardReply_eq (by show q.datagram.length ≤ _; omega)]
    simp only [standard.1, standard.2, ne_eq, not_true_eq_false, or_self, if_false, walks, stop]
    exact answered
  · rw [List.length_append, q.length_reply, List.length_drop]
    omega

theorem ignores_others {request : List UInt8} (short : request.length ≤ 128)
    (buffer : reply.length = 256) (apIp : IpAddr)
    (other : ∀ q : AddressQuestion, q.datagram = request → ¬ q.Standard) :
    ∃ size after_, buildWildcardReply request reply apIp = .ok (size, after_) ∧
      after_.length = reply.length ∧ ¬ 0 < size := by
  by_cases long : 12 ≤ request.length
  · obtain ⟨header, tail, rfl⟩ := Header.of_bytes long
    have fits : (requestOf header tail).length ≤ reply.length := by
      show (header.bytes ++ tail).length ≤ _
      omega
    have same := length_copied fits
    rw [buildWildcardReply_eq fits]
    by_cases refused : header.opcode ≠ 0 ∨ header.qdCount ≠ (0, 1)
    · exact ⟨0, _, if_pos refused, same, by omega⟩
    · obtain ⟨answer, walks, ends⟩ := skips_name header tail reply
      rw [not_or, not_ne_iff, not_ne_iff] at refused
      simp only [refused.1, refused.2, ne_eq, not_true_eq_false, or_self, if_false, walks]
      cases answer with
      | none => exact ⟨-1, _, rfl, same, by omega⟩
      | some stop =>
          obtain ⟨length, ⟨labels, rest, named, rfl, rfl⟩, rfl⟩ := (ends stop).mp rfl
          have whole : (requestOf header (nameBytes labels ++ rest)).length =
              (header.bytes ++ nameBytes labels).length + rest.length := by
            rw [requestOf, ← List.append_assoc, List.length_append]
          have unasked : ∀ behind, rest ≠ [0, 1, 0, 1] ++ behind := by
            rintro behind rfl
            have bounded : WellFormedName labels := by
              refine ⟨named, ?_⟩
              simp only [List.length_append] at short
              omega
            refine other ⟨header, labels, behind, bounded⟩ ?_ refused
            simp only [AddressQuestion.datagram, AddressQuestion.question, List.append_assoc]
          obtain ⟨size, ignored, negative⟩ := answerQuestion_unasked
            ((take_copied _ reply.length).trans (List.append_assoc _ _ _).symm) whole unasked
            (header.flags.1.toUInt16 <<< 8 ||| header.flags.2.toUInt16) apIp
          have start : (header.bytes ++ nameBytes labels).length = 12 + (nameBytes labels).length := by
            rw [List.length_append, Header.length_bytes]
          rw [start] at ignored
          exact ⟨size, _, ignored, same, negative⟩
  · exact ⟨-1, reply, if_pos (Or.inl (by simpa [headerSize] using long)), rfl, by omega⟩

/-- The bit that tells responses is not looked at. -/
theorem answers_response (q : AddressQuestion) (standard : q.Standard)
    (response : q.header.response = true) (short : q.datagram.length ≤ 128)
    (buffer : reply.length = 256) (apIp : IpAddr) : ¬ AnswersQueries q.datagram reply apIp := by
  rintro ⟨size, after_, built, -, queries, -⟩
  obtain ⟨behind, answered, -⟩ := answers_standard q standard short buffer apIp
  rw [built, Except.ok.injEq, Prod.mk.injEq] at answered
  have positive : 0 < size := by omega
  obtain ⟨q', same, query, -⟩ := queries.mp positive
  rw [Header.bytes_inj same, response] at query
  cases query

end

/-- Every datagram is treated as it should be, but for a response that carries a standard question:
    that is answered like a query. -/
theorem answers_queries_iff (request reply : List UInt8) (apIp : IpAddr)
    (short : request.length ≤ 128) (buffer : reply.length = 256) :
    AnswersQueries request reply apIp ↔
      ¬ ∃ q : AddressQuestion, q.datagram = request ∧ q.header.response = true ∧ q.Standard := by
  constructor
  · rintro answers ⟨q, rfl, response, standard⟩
    exact answers_response q standard response short buffer apIp answers
  · intro queries
    by_cases standard : ∃ q : AddressQuestion, q.datagram = request ∧ q.Standard
    · obtain ⟨q, rfl, standard⟩ := standard
      have query : q.header.response = false := by
        by_contra response
        exact queries ⟨q, rfl, Bool.not_eq_false _ ▸ response, standard⟩
      obtain ⟨behind, answered, whole⟩ := answers_standard q standard short buffer apIp
      refine ⟨_, _, answered, whole, ?_, ?_⟩
      · exact iff_of_true (by omega) ⟨q, rfl, query, standard⟩
      · intro q' same _
        have standard' : q'.Standard := by
          have headers := Header.bytes_inj same
          unfold AddressQuestion.Standard
          rwa [headers]
        obtain ⟨behind', answered', -⟩ :=
          answers_standard q' standard' (by rw [same]; exact short) buffer apIp
        rw [same, answered, Except.ok.injEq, Prod.mk.injEq] at answered'
        refine ⟨by omega, ?_⟩
        rw [answered'.1, answered'.2, Int.toNat_natCast, ← q'.length_reply apIp, List.take_left]
    · have other : ∀ q : AddressQuestion, q.datagram = request → ¬ q.Standard := by
        intro q same asked
        exact standard ⟨q, same, asked⟩
      obtain ⟨size, after_, ignored, whole, negative⟩ := ignores_others short buffer apIp other
      refine ⟨size, after_, ignored, whole, iff_of_false negative ?_, ?_⟩
      · rintro ⟨q, same, -, asked⟩
        exact other q same asked
      · intro q same positive
        exact absurd positive negative

def questionForA (flags : UInt8 × UInt8) : AddressQuestion where
  header := ⟨(0x12, 0x34), flags, (0, 1), (0, 0), (0, 0), (0, 0)⟩
  labels := [[97]]
  rest := []
  named := by simp [WellFormedName, nameBytes]

theorem answers_queries_for_a : AnswersQueries
    [0x12, 0x34, 1, 0, 0, 1, 0, 0, 0, 0, 0, 0, 1, 97, 0, 0, 1, 0, 1] (List.replicate 256 0)
    ⟨#v[192, 168, 4, 1]⟩ := by
  refine (answers_queries_iff _ _ _ (by decide) List.length_replicate).mpr ?_
  rintro ⟨q, same, response, -⟩
  have parts : q.header.bytes ++ (q.question ++ q.rest) =
      (questionForA (1, 0)).header.bytes ++ [1, 97, 0, 0, 1, 0, 1] := same
  rw [Header.bytes_inj parts] at response
  cases response

theorem response_is_answered : ¬ AnswersQueries
    [0x12, 0x34, 0x81, 0x80, 0, 1, 0, 0, 0, 0, 0, 0, 1, 97, 0, 0, 1, 0, 1] (List.replicate 256 0)
    ⟨#v[192, 168, 4, 1]⟩ :=
  answers_response (questionForA (0x81, 0x80)) ⟨rfl, rfl⟩ rfl (by decide) List.length_replicate _

end CaptiveDns
