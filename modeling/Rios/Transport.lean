import Rios.Tcp
import Rios.Wire

/-!
# Transport datagrams

The wire forms of TCP segments, UDP datagrams and ICMP echo messages inside an
IPv4 packet, with the Internet checksum. What was encoded is decoded again, and
what was decoded can be encoded with other addresses and ports.
-/

namespace Rios.Transport
open Rios.Wire Rios.Device

/-! ### The Internet checksum -/

/-- The sum of the words of two bytes; an odd last byte is the high half of one. -/
def word_sum : List UInt8 → UInt32
  | [] => 0
  | [a] => (from_be16 a 0).toUInt32
  | a :: b :: rest => (from_be16 a b).toUInt32 + word_sum rest

/-- `while sum >> 16 != 0`, for a number of rounds. -/
def fold_carries : Nat → UInt32 → UInt32
  | 0,sum => sum
  | rounds + 1,sum => if sum >>> 16 ≠ 0 then fold_carries rounds ((sum &&& (0xffff : UInt32)) + (sum >>> 16)) else sum

/-- The standard one's-complement Internet checksum. -/
def checksum (bytes : List UInt8) : UInt16 := ~~~ (fold_carries 2 (word_sum bytes)).toUInt16

/-- The sum of the words without a bound. -/
def words : List UInt8 → Nat
  | [] => 0
  | [a] => a.toNat * 256
  | a :: b :: rest => a.toNat * 256 + b.toNat + words rest

theorem word_sum_toNat (bytes : List UInt8) : (word_sum bytes).toNat = words bytes % 2 ^ 32 := by
  fun_induction words bytes with
  | case1 => rfl
  | case2 a =>
    have := a.toNat_lt
    simp only [word_sum,UInt16.toNat_toUInt32,from_be16_toNat,UInt8.toNat_zero]
    omega
  | case3 a b rest ih =>
    have := a.toNat_lt
    have := b.toNat_lt
    simp only [word_sum,UInt32.toNat_add,UInt16.toNat_toUInt32,from_be16_toNat,ih]
    omega

theorem words_append (front rest : List UInt8) (even : front.length % 2 = 0) :
    words (front ++ rest) = words front + words rest := by
  fun_induction words front with
  | case1 => simp
  | case2 a => simp at even
  | case3 a b front ih =>
    have shorter : front.length % 2 = 0 := by simp only [List.length_cons] at even; omega
    simp only [List.cons_append,words,ih shorter]
    omega

theorem words_le (bytes : List UInt8) : words bytes ≤ 65535 * ((bytes.length + 1) / 2) := by
  fun_induction words bytes with
  | case1 => simp
  | case2 a =>
    have := a.toNat_lt
    simp only [List.length_singleton]
    omega
  | case3 a b rest ih =>
    have := a.toNat_lt
    have := b.toNat_lt
    simp only [List.length_cons]
    omega

theorem words_be16 (x : UInt16) : words (be16 x) = x.toNat := by
  have := x.toNat_lt
  simp only [be16,words,UInt8.toNat_ofNat']
  omega

/-- Two rounds leave sixteen bits, and the same number modulo `0xffff`. -/
theorem fold_carries_two (sum : UInt32) : (fold_carries 2 sum).toNat ≤ 65535 ∧
    (fold_carries 2 sum).toNat % 65535 = sum.toNat % 65535 ∧ ((fold_carries 2 sum).toNat = 0 ↔ sum.toNat = 0) := by
  have round : ∀ sum : UInt32, ((sum &&& (0xffff : UInt32)) + (sum >>> 16)).toNat = sum.toNat % 65536 + sum.toNat / 65536 := by
    intro sum
    have small := sum.toNat_lt
    have low : (sum &&& (0xffff : UInt32)).toNat = sum.toNat % 65536 := by
      rw [UInt32.toNat_and]
      exact Nat.and_two_pow_sub_one_eq_mod sum.toNat 16
    have high : (sum >>> 16).toNat = sum.toNat / 65536 := by
      rw [UInt32.toNat_shiftRight]
      exact Nat.shiftRight_eq_div_pow sum.toNat 16
    rw [UInt32.toNat_add,low,high]
    omega
  have done : ∀ sum : UInt32, ¬ sum >>> 16 ≠ 0 → sum.toNat ≤ 65535 := by
    intro sum carried
    have zero := congrArg UInt32.toNat (not_not.mp carried)
    rw [UInt32.toNat_shiftRight] at zero
    have shifted := (Nat.shiftRight_eq_div_pow sum.toNat 16).symm.trans zero
    simp only [UInt32.toNat_zero] at shifted
    omega
  have small := sum.toNat_lt
  simp only [fold_carries]
  split_ifs with carried again
  · have once := round sum
    have twice := round ((sum &&& (0xffff : UInt32)) + (sum >>> 16))
    rw [once] at twice
    omega
  · have once := round sum
    have ended := done _ again
    omega
  · exact ⟨done _ carried,rfl,Iff.rfl⟩

theorem checksum_toNat (bytes : List UInt8) : (checksum bytes).toNat = 65535 - (fold_carries 2 (word_sum bytes)).toNat := by
  have := (fold_carries_two (word_sum bytes)).1
  rw [checksum,UInt16.toNat_not,UInt32.toNat_toUInt16,UInt16.size]
  omega

/-- A field that was zero and is filled with the checksum makes the checksum zero. -/
theorem checksum_fills (front rest : List UInt8) (even : front.length % 2 = 0)
    (fits : front.length + 2 + rest.length ≤ 131072) :
    checksum (front ++ (be16 (checksum (front ++ ([0,0] ++ rest))) ++ rest)) = 0 := by
  have split : ∀ x : UInt16, words (front ++ (be16 x ++ rest)) = words front + x.toNat + words rest := by
    intro x
    rw [words_append front _ even,words_append (be16 x) _ (by simp),words_be16]
    omega
  have empty := split 0
  have small := words_le front
  have rest_small := words_le rest
  have sum := checksum_toNat (front ++ ([0,0] ++ rest))
  have total := word_sum_toNat (front ++ ([0,0] ++ rest))
  generalize checksum (front ++ ([0,0] ++ rest)) = filled at sum
  have filled_total := word_sum_toNat (front ++ (be16 filled ++ rest))
  have folded := fold_carries_two (word_sum (front ++ ([0,0] ++ rest)))
  have filled_folded := fold_carries_two (word_sum (front ++ (be16 filled ++ rest)))
  have bounded : words front + filled.toNat + words rest < 2 ^ 32 := by
    have := filled.toNat_lt
    omega
  rw [split filled,Nat.mod_eq_of_lt bounded] at filled_total
  rw [show words (front ++ ([0,0] ++ rest)) = words front + words rest from empty,Nat.mod_eq_of_lt (by omega)] at total
  rw [total] at folded
  rw [filled_total] at filled_folded
  apply UInt16.toNat.inj
  rw [checksum_toNat]
  simp only [UInt16.toNat_zero]
  omega

theorem from_be16_be16 (x : UInt16) : from_be16 (UInt8.ofNat (x.toNat / 256)) (UInt8.ofNat x.toNat) = x := by
  have reads := u16_at_be16 x []
  simpa [u16_at,be16] using reads

theorem from_be32_be32 (x : UInt32) : from_be32 (UInt8.ofNat (x.toNat / 16777216)) (UInt8.ofNat (x.toNat / 65536))
    (UInt8.ofNat (x.toNat / 256)) (UInt8.ofNat x.toNat) = x := by
  have reads := u32_at_be32 x []
  simpa [u32_at,be32] using reads

/-! ### TCP -/

inductive TcpPacketError where
  | Truncated
  | InvalidLength
  | InvalidChecksum
  | UnsupportedHeader
deriving DecidableEq

/-- One round over the options: the end of the list, a pad byte, or a counted option. -/
def option_item (_ : Unit) : List UInt8 → Except Unit (Unit × Nat)
  | [] => .ok ((),0)
  | 0 :: rest => .ok ((),rest.length)
  | 1 :: _ => .ok ((),0)
  | [_] => .error ()
  | _ :: length :: rest =>
    if length < 2 || rest.length + 2 < length.toNat then .error () else .ok ((),length.toNat - 1)

def checked_options (options : List UInt8) : Bool := (while_nonempty option_item () options).isOk

def pseudoheader (source destination : Ipv4Addr) (bytes : List UInt8) : Except TcpPacketError (List UInt8) :=
  if 65535 < bytes.length then .error .InvalidLength
  else .ok (be32 source ++ (be32 destination ++ ([0,6] ++ (be16 (UInt16.ofNat bytes.length) ++ bytes))))

end Rios.Transport

namespace Rios.Tcp.TcpSegment
open Rios.Wire Rios.Device Rios.Transport

/-- The bytes of a segment with a checksum. -/
def bytes (self : TcpSegment) (sum : UInt16) : List UInt8 :=
  be16 self.source_port ++ (be16 self.destination_port ++ (be32 self.sequence ++ (be32 self.acknowledgment ++
    ([UInt8.ofNat ((20 + self.options.length) / 4) <<< 4,self.flags.bits] ++ (be16 self.window ++
      (be16 sum ++ ([0,0] ++ (self.options ++ self.payload))))))))

/-- Encode a segment with a mandatory checksum including both IPv4 addresses. -/
def encode (self : TcpSegment) (source destination : Ipv4Addr) : Except TcpPacketError (List UInt8) :=
  if 40 < self.options.length || self.options.length % 4 ≠ 0 || !checked_options self.options then .error .InvalidLength
  else if 65515 < 20 + self.options.length + self.payload.length then .error .InvalidLength
  else match pseudoheader source destination (self.bytes 0) with
    | .error error => .error error
    | .ok data => .ok (self.bytes (checksum data))

/-- Decode bounded header lengths and verify the IPv4 pseudoheader checksum. -/
def decode (source destination : Ipv4Addr) (bytes : List UInt8) : Except TcpPacketError TcpSegment :=
  let header := (bytes.getD 12 0 >>> 4).toNat * 4
  if bytes.length < 20 then .error .Truncated
  else if header < 20 || bytes.length < header || 65515 < bytes.length ||
      !checked_options ((bytes.drop 20).take (header - 20)) then .error .InvalidLength
  else if bytes.getD 12 0 &&& 0x0f ≠ 0 || (bytes.drop 18).take 2 ≠ [0,0] then .error .UnsupportedHeader
  else match pseudoheader source destination bytes with
    | .error error => .error error
    | .ok data =>
      if checksum data ≠ 0 then .error .InvalidChecksum
      else .ok {
        source_port := u16_at bytes 0
        destination_port := u16_at bytes 2
        sequence := u32_at bytes 4
        acknowledgment := u32_at bytes 8
        flags := ⟨bytes.getD 13 0⟩
        window := u16_at bytes 14
        options := (bytes.drop 20).take (header - 20)
        payload := bytes.drop header }

variable {self : TcpSegment} {source destination : Ipv4Addr}

theorem bytes_length (self : TcpSegment) (sum : UInt16) :
    (self.bytes sum).length = 20 + self.options.length + self.payload.length := by
  simp only [bytes,List.length_append,be16_length,be32_length,List.length_cons,List.length_nil]
  omega

/-- The data offset of a header whose options are whole words. -/
theorem data_offset {length : Nat} (small : length ≤ 40) (whole : length % 4 = 0) :
    ((UInt8.ofNat ((20 + length) / 4) <<< 4) >>> 4).toNat * 4 = 20 + length ∧
      (UInt8.ofNat ((20 + length) / 4) <<< 4) &&& 0x0f = 0 := by
  obtain ⟨words,rfl⟩ : ∃ words, length = 4 * words := ⟨length / 4,by omega⟩
  have few : words ≤ 10 := by omega
  interval_cases words <;> decide

/-- The checksum is the one of the pseudoheader and the segment. -/
theorem encode_eq_ok {bytes : List UInt8} (encoded : self.encode source destination = .ok bytes) :
    self.options.length ≤ 40 ∧ self.options.length % 4 = 0 ∧ checked_options self.options = true ∧
    20 + self.options.length + self.payload.length ≤ 65515 ∧ ∃ sum, bytes = self.bytes sum ∧
      ∀ data, pseudoheader source destination bytes = .ok data → checksum data = 0 := by
  have length := self.bytes_length 0
  unfold encode at encoded
  split_ifs at encoded with options size
  have split : ¬ 40 < self.options.length ∧ self.options.length % 4 = 0 ∧ checked_options self.options = true := by
    simpa [not_or,and_assoc] using options
  obtain ⟨small,whole,checked⟩ := split
  have within : ¬ 65535 < (self.bytes 0).length := by omega
  refine ⟨by omega,whole,checked,by omega,?_⟩
  simp only [pseudoheader,if_neg within,Except.ok.injEq] at encoded
  refine ⟨_,encoded.symm,fun data header => ?_⟩
  subst encoded
  rw [pseudoheader,if_neg (by rw [bytes_length]; omega)] at header
  cases header
  rw [bytes_length]
  let front : List UInt8 := be32 source ++ (be32 destination ++ (([0,6] : List UInt8) ++ (be16 (UInt16.ofNat (20 + self.options.length +
    self.payload.length)) ++ (be16 self.source_port ++ (be16 self.destination_port ++ (be32 self.sequence ++
      (be32 self.acknowledgment ++ ([UInt8.ofNat ((20 + self.options.length) / 4) <<< 4,self.flags.bits] ++
        be16 self.window))))))))
  have fills := checksum_fills front ([0,0] ++ (self.options ++ self.payload)) (by simp [front])
    (by simp only [front,List.length_append,be16_length,be32_length,List.length_cons,List.length_nil]; omega)
  simp only [front,List.append_assoc] at fills
  rw [length]
  simp only [bytes]
  exact fills

/-- What was encoded is decoded again. -/
theorem decode_encode {bytes : List UInt8} (encoded : self.encode source destination = .ok bytes) :
    decode source destination bytes = .ok self := by
  obtain ⟨small,whole,checked,fits,sum,rfl,zero⟩ := encode_eq_ok encoded
  obtain ⟨offset,reserved⟩ := data_offset small whole
  have length := self.bytes_length sum
  have byte : (self.bytes sum).getD 12 0 = UInt8.ofNat ((20 + self.options.length) / 4) <<< 4 := rfl
  have behind : (self.bytes sum).drop 20 = self.options ++ self.payload := rfl
  have urgent : ((self.bytes sum).drop 18).take 2 = [0,0] := rfl
  have options : ((self.bytes sum).drop 20).take (20 + self.options.length - 20) = self.options := by
    rw [behind,Nat.add_sub_cancel_left,List.take_left]
  have payload : (self.bytes sum).drop (20 + self.options.length) = self.payload := by
    rw [← List.drop_drop,behind,List.drop_left]
  obtain ⟨data,header⟩ : ∃ data, pseudoheader source destination (self.bytes sum) = .ok data :=
    ⟨_,by rw [pseudoheader,if_neg (by omega)]⟩
  have valid := zero data header
  unfold decode
  simp only [byte,offset,reserved,urgent,options,payload,checked,header,valid]
  rw [if_neg (by omega),if_neg (by simp; omega),if_neg (by simp),if_neg (by simp)]
  obtain ⟨source_port,destination_port,sequence,acknowledgment,flags,window,_,_⟩ := self
  simp only [bytes,be16,be32,List.cons_append,List.nil_append,u16_at,u32_at,List.getD_cons_zero,List.getD_cons_succ,
    from_be16_be16,from_be32_be32]

/-- A decoded segment can be encoded with other ports and addresses. -/
theorem encode_of_decode {bytes : List UInt8} (decoded : decode source destination bytes = .ok self)
    (new_source new_destination : Ipv4Addr) (source_port destination_port : UInt16) :
    ∃ encoded, { self with source_port, destination_port }.encode new_source new_destination = .ok encoded := by
  unfold decode at decoded
  have nibble : ∀ n < 256, (UInt8.ofNat n >>> 4).toNat ≤ 15 := by decide +kernel
  have offset := nibble (bytes.getD 12 0).toNat (bytes.getD 12 0).toNat_lt
  rw [UInt8.ofNat_toNat] at offset
  generalize (bytes.getD 12 0 >>> 4).toNat = words at decoded offset
  simp only at decoded
  split_ifs at decoded with short options reserved
  split at decoded
  · cases decoded
  rename_i data header
  split_ifs at decoded with valid
  cases decoded
  have split : (20 ≤ words * 4 ∧ words * 4 ≤ bytes.length) ∧ bytes.length ≤ 65515 ∧
      checked_options ((bytes.drop 20).take (words * 4 - 20)) = true := by
    simpa [not_or,and_assoc] using options
  obtain ⟨⟨enough,inside⟩,small,checked⟩ := split
  have length : ((bytes.drop 20).take (words * 4 - 20)).length = words * 4 - 20 := by
    rw [List.length_take,List.length_drop]
    omega
  have rest : (bytes.drop (words * 4)).length = bytes.length - words * 4 := List.length_drop
  unfold encode
  simp only [checked,length,rest]
  rw [if_neg (by simp; omega),if_neg (by omega),pseudoheader,if_neg (by simp only [bytes_length,length,rest]; omega)]
  exact ⟨_,rfl⟩

end Rios.Tcp.TcpSegment

namespace Rios.Transport
open Rios.Wire Rios.Device

/-! ### UDP -/

inductive UdpPacketError where
  | Truncated
  | Checksum
  | InvalidLength
deriving DecidableEq

structure UdpDatagram where
  source_port : UInt16
  destination_port : UInt16
  payload : List UInt8
deriving DecidableEq

namespace UdpDatagram

/-- Encode an IPv4 UDP datagram with the optional checksum disabled. -/
def encode (self : UdpDatagram) : Except UdpPacketError (List UInt8) :=
  if 65535 < 8 + self.payload.length then .error .InvalidLength
  else .ok (be16 self.source_port ++ (be16 self.destination_port ++
    (be16 (UInt16.ofNat (8 + self.payload.length)) ++ ([0,0] ++ self.payload))))

/-- Decode a UDP datagram, accepting the legal zero IPv4 checksum. -/
def decode (bytes : List UInt8) : Except UdpPacketError UdpDatagram :=
  if bytes.length < 8 then .error .Truncated
  else if (u16_at bytes 4).toNat < 8 || bytes.length < (u16_at bytes 4).toNat then .error .InvalidLength
  else .ok ⟨u16_at bytes 0,u16_at bytes 2,(bytes.drop 8).take ((u16_at bytes 4).toNat - 8)⟩

theorem decode_encode {self : UdpDatagram} {bytes : List UInt8} (encoded : self.encode = .ok bytes) :
    decode bytes = .ok self := by
  obtain ⟨source_port,destination_port,payload⟩ := self
  unfold encode at encoded
  simp only at encoded
  split_ifs at encoded with long
  cases encoded
  have size : (UInt16.ofNat (8 + payload.length)).toNat = 8 + payload.length := UInt16.toNat_ofNat_of_lt' (by
    simp only [UInt16.size]
    omega)
  generalize UInt16.ofNat (8 + payload.length) = total at size ⊢
  simp only [decode,be16,List.cons_append,List.nil_append,u16_at,List.getD_cons_zero,List.getD_cons_succ,from_be16_be16,
    List.length_cons,List.drop_succ_cons,List.drop_zero]
  rw [if_neg (by omega),if_neg (by simp; omega),size,Nat.add_sub_cancel_left,List.take_length]

/-- A decoded datagram can be encoded with other ports. -/
theorem encode_of_decode {self : UdpDatagram} {bytes : List UInt8} (decoded : decode bytes = .ok self)
    (source_port destination_port : UInt16) :
    ∃ encoded, { self with source_port, destination_port }.encode = .ok encoded := by
  unfold decode at decoded
  split_ifs at decoded with short size
  cases decoded
  have small := (u16_at bytes 4).toNat_lt
  have length : ((bytes.drop 8).take ((u16_at bytes 4).toNat - 8)).length ≤ (u16_at bytes 4).toNat - 8 :=
    List.length_take_le _ _
  unfold encode
  rw [if_neg (by simp only; omega)]
  exact ⟨_,rfl⟩

end UdpDatagram

/-! ### ICMP echo -/

inductive IcmpKind where
  | EchoRequest
  | EchoReply
deriving DecidableEq

inductive IcmpPacketError where
  | Truncated
  | Unsupported
  | InvalidChecksum
deriving DecidableEq

/-- ICMP echo message with caller-owned data. -/
structure IcmpEcho where
  kind : IcmpKind
  identifier : UInt16
  sequence : UInt16
  payload : List UInt8
deriving DecidableEq

namespace IcmpEcho

/-- The bytes of a message with a checksum. -/
def bytes (self : IcmpEcho) (sum : UInt16) : List UInt8 :=
  [if self.kind = .EchoRequest then 8 else 0,0] ++ (be16 sum ++ (be16 self.identifier ++ (be16 self.sequence ++ self.payload)))

/-- Encode an ICMP echo message with checksum. -/
def encode (self : IcmpEcho) : List UInt8 := self.bytes (checksum (self.bytes 0))

/-- Decode and validate an ICMP echo message. -/
def decode (bytes : List UInt8) : Except IcmpPacketError IcmpEcho :=
  if bytes.length < 8 then .error .Truncated
  else
    let kind := match bytes.getD 0 0,bytes.getD 1 0 with
      | 8,0 => some IcmpKind.EchoRequest
      | 0,0 => some IcmpKind.EchoReply
      | _,_ => none
    match kind with
    | none => .error .Unsupported
    | some kind =>
      if checksum bytes ≠ 0 then .error .InvalidChecksum
      else .ok ⟨kind,u16_at bytes 4,u16_at bytes 6,bytes.drop 8⟩

/-- What was encoded is decoded again, if it is not longer than any packet. -/
theorem decode_encode (self : IcmpEcho) (fits : self.payload.length ≤ 65515) : decode self.encode = .ok self := by
  obtain ⟨kind,identifier,sequence,payload⟩ := self
  have fills := checksum_fills [if kind = .EchoRequest then 8 else 0,0] (be16 identifier ++ (be16 sequence ++ payload))
      (by simp) (by
    simp only at fits
    simp only [List.length_append,be16_length,List.length_cons,List.length_nil]
    omega)
  have valid : checksum (encode ⟨kind,identifier,sequence,payload⟩) = 0 := fills
  unfold decode
  rw [if_neg (by simp [encode,bytes]; omega),valid]
  generalize same : encode ⟨kind,identifier,sequence,payload⟩ = bytes
  simp only [encode,IcmpEcho.bytes] at same
  generalize checksum _ = sum at same
  subst same
  cases kind <;> simp only [be16,List.cons_append,List.nil_append,u16_at,List.getD_cons_zero,List.getD_cons_succ,
    from_be16_be16,List.drop_succ_cons,List.drop_zero,ne_eq,not_true_eq_false,if_true,if_false,reduceCtorEq]

end IcmpEcho

/-! ### IPv4 packets -/

/-- Protocol number carried by an IPv4 packet. -/
inductive IpProtocol where
  | Icmp
  | Tcp
  | Udp
  | Ospf
  | Other (value : UInt8)
deriving DecidableEq

/-- `u8::from`. -/
def IpProtocol.number : IpProtocol → UInt8
  | .Icmp => 1
  | .Tcp => 6
  | .Udp => 17
  | .Ospf => 89
  | .Other value => value

structure Ipv4Packet where
  dscp_ecn : UInt8
  source : Ipv4Addr
  destination : Ipv4Addr
  ttl : UInt8
  protocol : IpProtocol
  payload : List UInt8
deriving DecidableEq

end Rios.Transport
