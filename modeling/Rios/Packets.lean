import Rios.OspfPacket

/-!
# IPv4, TCP and UDP on the wire

The decoders of packets and datagrams read back what the encoders write, also
with bytes behind it. One changed byte changes the sum of the words by less than
`0xffff`, so no checksum hides it.
-/

namespace Rios.Transport
open Rios.Wire Rios.Device

/-! ### One changed byte -/

/-- What a byte at a position adds to the sum of the words. -/
def weight (i : Nat) : Nat := if i % 2 = 0 then 256 else 1

theorem weight_add_two (i : Nat) : weight (i + 2) = weight i := by simp only [weight,Nat.add_mod_right]

theorem words_set (bytes : List UInt8) {i : Nat} (inside : i < bytes.length) (changed : UInt8) :
    words (bytes.set i changed) + weight i * bytes[i].toNat = words bytes + weight i * changed.toNat := by
  induction bytes using words.induct generalizing i with
  | case1 => simp at inside
  | case2 a =>
    obtain rfl : i = 0 := by simpa using inside
    have first : weight 0 = 256 := rfl
    simp only [List.set_cons_zero,words,first,List.getElem_cons_zero]
    omega
  | case3 a b rest ih =>
    rcases i with _ | _ | i
    · have first : weight 0 = 256 := rfl
      simp only [List.set_cons_zero,words,first,List.getElem_cons_zero]
      omega
    · have second : weight 1 = 1 := rfl
      simp only [Nat.zero_add,List.set_cons_succ,List.set_cons_zero,words,second,List.getElem_cons_succ,List.getElem_cons_zero]
      omega
    · have later := ih (show i < rest.length by simpa using inside)
      simp only [List.set_cons_succ,words,weight_add_two,List.getElem_cons_succ]
      omega

/-- A checksum is zero for the positive multiples of `0xffff`. -/
theorem checksum_eq_zero {bytes : List UInt8} (short : bytes.length ≤ 131000) :
    checksum bytes = 0 ↔ 0 < words bytes ∧ words bytes % 65535 = 0 := by
  have small := words_le bytes
  have total := word_sum_toNat bytes
  rw [Nat.mod_eq_of_lt (by omega)] at total
  have folded := fold_carries_two (word_sum bytes)
  rw [total] at folded
  have value := checksum_toNat bytes
  rw [← UInt16.toNat_inj,value,UInt16.toNat_zero]
  omega

/-- A checksum that was zero is not zero with another byte anywhere. -/
theorem checksum_set {bytes : List UInt8} (short : bytes.length ≤ 131000) (valid : checksum bytes = 0) {i : Nat}
    (inside : i < bytes.length) {changed : UInt8} (differs : changed ≠ bytes[i]) : checksum (bytes.set i changed) ≠ 0 := by
  intro again
  obtain ⟨-,before⟩ := (checksum_eq_zero short).mp valid
  obtain ⟨-,after⟩ := (checksum_eq_zero (by rwa [List.length_set])).mp again
  have balance := words_set bytes inside changed
  have old := bytes[i].toNat_lt
  have new := changed.toNat_lt
  have apart : changed.toNat ≠ bytes[i].toNat := fun same => differs (UInt8.toNat.inj same)
  unfold weight at balance
  split_ifs at balance
  · omega
  · omega

/-- `bytes[i] ^= 1 << bit`. -/
def flip_bit (bytes : List UInt8) (i : Nat) (bit : Fin 8) : List UInt8 :=
  bytes.set i (bytes.getD i 0 ^^^ ((1 : UInt8) <<< UInt8.ofNat bit.val))

theorem flip_bit_set {bytes : List UInt8} {i : Nat} (inside : i < bytes.length) (bit : Fin 8) :
    ∃ changed, changed ≠ bytes[i] ∧ flip_bit bytes i bit = bytes.set i changed := by
  refine ⟨_,?_,rfl⟩
  rw [List.getD_eq_getElem _ _ inside]
  intro same
  have zero : ∀ bit : Fin 8, (1 : UInt8) <<< UInt8.ofNat bit.val ≠ 0 := by decide +kernel
  refine zero bit ?_
  rw [← UInt8.xor_right_inj bytes[i],same,UInt8.xor_zero]

/-! ### Octets of an address -/

/-- The six octets from a position on. -/
def mac_at (bytes : List UInt8) (i : Nat) : MacAddress := ⟨Vector.ofFn (fun j : Fin 6 => bytes.getD (i + j.val) 0)⟩

theorem octets_length (mac : MacAddress) : mac.octets.toList.length = 6 := Vector.length_toList

theorem mac_at_octets (mac : MacAddress) {front : List UInt8} {i : Nat} (isFront : front.length = i) (rest : List UInt8) :
    mac_at (front ++ (mac.octets.toList ++ rest)) i = mac := by
  subst isFront
  rw [MacAddress.ext_iff,mac_at]
  refine Vector.ext ?_
  intro j inside
  rw [Vector.getElem_ofFn,List.getD_eq_getElem?_getD,List.getElem?_append_right (Nat.le_add_right _ _),Nat.add_sub_cancel_left,
    List.getElem?_append_left (by rw [octets_length]; exact inside),List.getElem?_eq_getElem (by rw [octets_length]; exact inside),
    Option.getD_some,Vector.getElem_toList]

theorem mac_at_toList (mac : MacAddress) : mac_at mac.octets.toList 0 = mac := by
  have read := mac_at_octets mac (List.length_nil (α := UInt8)) []
  rwa [List.nil_append,List.append_nil] at read

/-! ### IPv4 -/

/-- `IpProtocol::from`. -/
def IpProtocol.from_number (value : UInt8) : IpProtocol :=
  if value = 1 then .Icmp else if value = 6 then .Tcp else if value = 17 then .Udp else if value = 89 then .Ospf else .Other value

theorem IpProtocol.number_from_number (value : UInt8) : (IpProtocol.from_number value).number = value := by
  unfold IpProtocol.from_number
  split_ifs with icmp tcp udp ospf
  · exact icmp.symm
  · exact tcp.symm
  · exact udp.symm
  · exact ospf.symm
  · rfl

namespace Ipv4Packet

/-- Decode IPv4 without accepting options or fragments. -/
def decode (bytes : List UInt8) : Except PacketError Ipv4Packet :=
  if bytes.length < 20 then .error .Truncated
  else if bytes.getD 0 0 ≠ 0x45 || bytes.getD 6 0 &&& 0x3f ≠ 0 || bytes.getD 7 0 ≠ 0 then .error .UnsupportedHeader
  else
    let total := (u16_at bytes 2).toNat
    if total < 20 || bytes.length < total then .error .InvalidLength
    else if checksum (bytes.take 20) ≠ 0 then .error .InvalidChecksum
    else if bytes.getD 8 0 = 0 then .error .Expired
    else .ok {
      dscp_ecn := bytes.getD 1 0
      source := u32_at bytes 12
      destination := u32_at bytes 16
      ttl := bytes.getD 8 0
      protocol := .from_number (bytes.getD 9 0)
      payload := (bytes.take total).drop 20 }

variable {self : Ipv4Packet} {bytes : List UInt8}

theorem encode_eq_ok (encoded : self.encode = .ok bytes) : self.ttl ≠ 0 ∧ 20 + self.payload.length ≤ 65535 ∧
    ∃ sum, bytes = self.head (20 + self.payload.length) sum ++ self.payload ∧
      checksum (self.head (20 + self.payload.length) sum) = 0 := by
  unfold encode at encoded
  dsimp only at encoded
  split_ifs at encoded with dead long
  cases encoded
  refine ⟨dead,not_lt.mp long,_,rfl,?_⟩
  have fills := checksum_fills ([0x45,self.dscp_ecn] ++ be16 (UInt16.ofNat (20 + self.payload.length)) ++ [0,0] ++ be16 0x4000 ++
    [self.ttl,self.protocol.number]) (be32 self.source ++ be32 self.destination) (by simp) (by simp)
  have blank : be16 0 = [0,0] := rfl
  simpa only [head,List.append_assoc,blank] using fills

/-- What was encoded is decoded again, as the protocol that its number names. -/
theorem decode_encode (encoded : self.encode = .ok bytes) (rest : List UInt8) :
    decode (bytes ++ rest) = .ok { self with protocol := .from_number self.protocol.number } := by
  obtain ⟨alive,short,sum,rfl,valid⟩ := encode_eq_ok encoded
  obtain ⟨dscp_ecn,source,destination,ttl,protocol,payload⟩ := self
  have size : (UInt16.ofNat (20 + payload.length)).toNat = 20 + payload.length := UInt16.toNat_ofNat_of_lt' (by
    simp only at short
    simp only [UInt16.size]
    omega)
  dsimp only at alive short valid ⊢
  generalize total_field : UInt16.ofNat (20 + payload.length) = total at size
  have fields : ∀ front : List UInt8, front.length = 20 → (front ++ payload ++ rest).take 20 = front ∧
      ((front ++ payload ++ rest).take (20 + payload.length)).drop 20 = payload := by
    intro front twenty
    constructor
    · rw [List.append_assoc,List.take_left' twenty]
    · have front_payload : (front ++ payload).length = 20 + payload.length := by rw [List.length_append,twenty]
      rw [List.take_left' front_payload,List.drop_left' twenty]
  obtain ⟨front,behind⟩ := fields (head ⟨dscp_ecn,source,destination,ttl,protocol,payload⟩ (20 + payload.length) sum) rfl
  unfold decode
  rw [front,valid]
  have read : u16_at
      (head ⟨dscp_ecn,source,destination,ttl,protocol,payload⟩ (20 + payload.length) sum ++ payload ++ rest) 2 = total := by
    rw [head,total_field]
    simp only [be16,List.cons_append,List.nil_append,u16_at,List.getD_cons_zero,List.getD_cons_succ,from_be16_be16]
  rw [read,size]
  dsimp only
  rw [behind,if_neg (by simp only [List.length_append,head_length]; omega),if_neg (by simp [head,be16]; decide),
    if_neg (by
      simp only [List.length_append,head_length,Bool.or_eq_true,decide_eq_true_eq]
      omega),if_neg (by simp)]
  simp only [head,be16,be32,List.cons_append,List.nil_append,u32_at,List.getD_cons_zero,List.getD_cons_succ,from_be32_be32]
  rw [if_neg alive]

/-- A decoded packet is encoded and decoded to itself. -/
theorem decode_again (decoded : decode bytes = .ok self) :
    ∃ encoded, self.encode = .ok encoded ∧ decode encoded = .ok self := by
  have named : self.protocol = .from_number self.protocol.number := by
    unfold decode at decoded
    dsimp only at decoded
    split_ifs at decoded
    cases decoded
    dsimp only
    rw [IpProtocol.number_from_number]
  have fits : self.ttl ≠ 0 ∧ 20 + self.payload.length ≤ 65535 := by
    unfold decode at decoded
    dsimp only at decoded
    split_ifs at decoded with short unsupported length invalid dead
    cases decoded
    refine ⟨dead,?_⟩
    have bound := (u16_at bytes 2).toNat_lt
    simp only [List.length_drop,List.length_take]
    omega
  obtain ⟨encoded,written,-⟩ := encode_length fits.1 fits.2
  refine ⟨encoded,written,?_⟩
  have read := decode_encode written []
  rwa [List.append_nil,← named] at read

/-- Another byte anywhere in the header of an encoded packet is an error. -/
theorem decode_set (encoded : self.encode = .ok bytes) {i : Nat} (inside : i < 20) (bit : Fin 8) :
    (decode (flip_bit bytes i bit)).isOk = false := by
  obtain ⟨-,-,sum,rfl,valid⟩ := encode_eq_ok encoded
  obtain ⟨changed,differs,flipped⟩ := flip_bit_set
    (show i < (self.head (20 + self.payload.length) sum ++ self.payload).length by
      rw [List.length_append,head_length]; omega) bit
  have in_header : i < (self.head (20 + self.payload.length) sum).length := inside
  rw [List.getElem_append_left in_header] at differs
  rw [flipped,List.set_append_left _ _ in_header]
  have broken := checksum_set (by rw [head_length]; omega) valid in_header differs
  unfold decode
  dsimp only
  rw [List.take_left' (by rw [List.length_set,head_length])]
  split_ifs <;> rfl

end Ipv4Packet

/-! ### TCP -/

end Rios.Transport

namespace Rios.Tcp.TcpSegment
open Rios.Wire Rios.Device Rios.Transport

variable {self : TcpSegment} {source destination : Ipv4Addr} {bytes : List UInt8}

/-- A decoded segment is encoded and decoded to itself. -/
theorem decode_again (decoded : decode source destination bytes = .ok self) :
    ∃ encoded, self.encode source destination = .ok encoded ∧ decode source destination encoded = .ok self := by
  obtain ⟨encoded,written⟩ := encode_of_decode decoded source destination self.source_port self.destination_port
  exact ⟨encoded,written,decode_encode written⟩

/-- Another byte anywhere in an encoded segment is an error. -/
theorem decode_set (encoded : self.encode source destination = .ok bytes) {i : Nat} (inside : i < bytes.length)
    (bit : Fin 8) :
    (decode source destination (flip_bit bytes i bit)).isOk = false := by
  obtain ⟨-,-,-,fits,sum,written,zero⟩ := encode_eq_ok encoded
  have length : bytes.length ≤ 65515 := by
    rw [written,bytes_length]
    exact fits
  obtain ⟨changed,differs,flipped⟩ := flip_bit_set inside bit
  rw [flipped]
  -- the pseudoheader stays; the segment behind it has one other byte
  let front : List UInt8 := be32 source ++ (be32 destination ++ (([0,6] : List UInt8) ++ be16 (UInt16.ofNat bytes.length)))
  have before : pseudoheader source destination bytes = .ok (front ++ bytes) := by
    rw [pseudoheader,if_neg (by omega)]
    simp only [front,List.append_assoc]
  have after : pseudoheader source destination (bytes.set i changed) = .ok ((front ++ bytes).set (front.length + i) changed) := by
    rw [pseudoheader,List.length_set,if_neg (by omega),List.set_append_right _ _ (Nat.le_add_right _ _),Nat.add_sub_cancel_left]
    simp only [front,List.append_assoc]
  have twelve : front.length = 12 := rfl
  have total : (front ++ bytes).length = 12 + bytes.length := by rw [List.length_append,twelve]
  have position : front.length + i < (front ++ bytes).length := by omega
  have other : changed ≠ (front ++ bytes)[front.length + i] := by
    rw [List.getElem_append_right (Nat.le_add_right _ _)]
    simpa only [Nat.add_sub_cancel_left] using differs
  have broken := checksum_set (by omega) (zero _ before) position other
  unfold decode
  dsimp only
  rw [after]
  dsimp only
  split_ifs <;> rfl

end Rios.Tcp.TcpSegment

namespace Rios.Transport.UdpDatagram
open Rios.Wire Rios.Device Rios.Transport

/-- `checksum` of `udp.rs`: the Internet checksum with the pseudoheader. -/
def checksum (source destination : Ipv4Addr) (bytes : List UInt8) : UInt16 :=
  Transport.checksum (be32 source ++ (be32 destination ++ ([0,17] ++ (be16 (UInt16.ofNat bytes.length) ++ bytes))))

/-- Encode the optional IPv4 UDP checksum, including the pseudoheader. -/
def encode_ipv4 (self : UdpDatagram) (source destination : Ipv4Addr) : Except UdpPacketError (List UInt8) :=
  match self.encode with
  | .error error => .error error
  | .ok bytes =>
    let sum := checksum source destination bytes
    .ok (bytes.take 6 ++ be16 (if sum = 0 then 0xffff else sum) ++ bytes.drop 8)

/-- Validate an IPv4 datagram's checksum when present; zero remains legal. -/
def decode_ipv4 (source destination : Ipv4Addr) (bytes : List UInt8) : Except UdpPacketError UdpDatagram :=
  match decode bytes with
  | .error error => .error error
  | .ok datagram =>
    if (bytes.drop 6).take 2 ≠ [0,0] && checksum source destination (bytes.take (u16_at bytes 4).toNat) ≠ 0 then
      .error .Checksum
    else .ok datagram

/-- The bytes of a datagram with a checksum. -/
def bytes (self : UdpDatagram) (sum : UInt16) : List UInt8 :=
  be16 self.source_port ++ (be16 self.destination_port ++ (be16 (UInt16.ofNat (8 + self.payload.length)) ++ (be16 sum ++ self.payload)))

variable {self : UdpDatagram} {source destination : Ipv4Addr}

theorem bytes_length (self : UdpDatagram) (sum : UInt16) : (self.bytes sum).length = 8 + self.payload.length := by
  simp only [bytes,List.length_append,be16_length]
  omega

/-- A datagram with any checksum, and any bytes behind it. -/
theorem decode_bytes (short : 8 + self.payload.length ≤ 65535) (sum : UInt16) (rest : List UInt8) :
    decode (self.bytes sum ++ rest) = .ok self ∧
      (self.bytes sum ++ rest).take (u16_at (self.bytes sum ++ rest) 4).toNat = self.bytes sum := by
  have whole := self.bytes_length sum
  obtain ⟨source_port,destination_port,payload⟩ := self
  have size : (UInt16.ofNat (8 + payload.length)).toNat = 8 + payload.length := UInt16.toNat_ofNat_of_lt' (by
    simp only at short
    simp only [UInt16.size]
    omega)
  have length : u16_at (bytes ⟨source_port,destination_port,payload⟩ sum ++ rest) 4 = UInt16.ofNat (8 + payload.length) := by
    simp only [bytes,be16,List.cons_append,List.nil_append,u16_at,List.getD_cons_zero,List.getD_cons_succ,from_be16_be16]
  refine ⟨?_,?_⟩
  · have behind : ((bytes ⟨source_port,destination_port,payload⟩ sum ++ rest).drop 8).take (8 + payload.length - 8) =
      payload := by
      have rest_payload : (bytes ⟨source_port,destination_port,payload⟩ sum ++ rest).drop 8 = payload ++ rest := rfl
      rw [rest_payload,Nat.add_sub_cancel_left,List.take_left]
    unfold decode
    rw [length,size,behind,if_neg (by rw [List.length_append,whole]; omega),
      if_neg (by rw [List.length_append,whole]; simp)]
    simp only [bytes,be16,List.cons_append,List.nil_append,u16_at,List.getD_cons_zero,List.getD_cons_succ,from_be16_be16]
  · rw [length,size]
    exact List.take_left' whole

/-- The checksum that `encode_ipv4` writes is not zero, and makes the sum right. -/
theorem encode_ipv4_eq_ok {encoded : List UInt8} (written : self.encode_ipv4 source destination = .ok encoded) :
    8 + self.payload.length ≤ 65535 ∧ ∃ sum, encoded = self.bytes sum ∧ checksum source destination encoded = 0 := by
  unfold encode_ipv4 encode at written
  by_cases long : 65535 < 8 + self.payload.length
  · rw [if_pos long] at written
    cases written
  rw [if_neg long] at written
  have short := not_lt.mp long
  refine ⟨short,?_⟩
  -- the sum of everything but the checksum decides which of the two zeros is written
  have zero_field : be16 self.source_port ++ (be16 self.destination_port ++ (be16 (UInt16.ofNat (8 + self.payload.length)) ++
      ([0,0] ++ self.payload))) = self.bytes 0 := rfl
  rw [zero_field] at written
  dsimp only at written
  have filled : ∀ sum, (self.bytes 0).take 6 ++ be16 sum ++ (self.bytes 0).drop 8 = self.bytes sum := fun _ => rfl
  rw [filled] at written
  cases written
  refine ⟨_,rfl,?_⟩
  have pseudo : ∀ sum, checksum source destination (self.bytes sum) = Transport.checksum ((be32 source ++ (be32 destination ++
      (([0,17] : List UInt8) ++ (be16 (UInt16.ofNat (8 + self.payload.length)) ++ (be16 self.source_port ++ (be16 self.destination_port ++
        be16 (UInt16.ofNat (8 + self.payload.length)))))))) ++ (be16 sum ++ self.payload)) := by
    intro sum
    rw [checksum,bytes_length]
    simp only [bytes,List.append_assoc]
  simp only [pseudo]
  generalize front_eq : be32 source ++ (be32 destination ++ (([0,17] : List UInt8) ++ (be16 (UInt16.ofNat (8 + self.payload.length)) ++
    (be16 self.source_port ++ (be16 self.destination_port ++ be16 (UInt16.ofNat (8 + self.payload.length))))))) = front
  have eighteen : front.length = 18 := by rw [← front_eq]; rfl
  by_cases none_left : Transport.checksum (front ++ (be16 0 ++ self.payload)) = 0
  · rw [if_pos none_left]
    have fits : ∀ sum, (front ++ (be16 sum ++ self.payload)).length ≤ 131000 := by
      intro sum
      simp only [List.length_append,be16_length,eighteen]
      omega
    rw [checksum_eq_zero (fits _)] at none_left ⊢
    have split : ∀ sum : UInt16, words (front ++ (be16 sum ++ self.payload)) = words front + sum.toNat + words self.payload := by
      intro sum
      rw [words_append front _ (by omega),words_append (be16 sum) _ (by simp),words_be16]
      omega
    rw [split] at none_left ⊢
    have ones : (0xffff : UInt16).toNat = 65535 := rfl
    have zeros : (0 : UInt16).toNat = 0 := rfl
    omega
  · rw [if_neg none_left]
    exact checksum_fills front self.payload (by omega) (by omega)

/-- What was encoded with a checksum is decoded again, also with bytes behind it. -/
theorem decode_encode_ipv4 {encoded : List UInt8} (written : self.encode_ipv4 source destination = .ok encoded)
    (rest : List UInt8) :
    decode_ipv4 source destination (encoded ++ rest) = .ok self := by
  obtain ⟨short,sum,rfl,valid⟩ := encode_ipv4_eq_ok written
  obtain ⟨read,whole⟩ := decode_bytes short sum rest
  unfold decode_ipv4
  rw [read]
  dsimp only
  rw [whole,valid]
  simp

end Rios.Transport.UdpDatagram

namespace Rios.Transport
open Rios.Wire Rios.Device

/-- The codecs of packets: what is written is read again, also with bytes behind a packet or a datagram;
    what is read is written and read again; and no flipped bit of a segment or of a packet's header passes. -/
theorem packets_exact :
    (∀ (packet : Ipv4Packet) bytes rest, packet.encode = .ok bytes → packet.protocol = .from_number packet.protocol.number →
        Ipv4Packet.decode (bytes ++ rest) = .ok packet) ∧
      (∀ (segment : Tcp.TcpSegment) source destination bytes, segment.encode source destination = .ok bytes →
        Tcp.TcpSegment.decode source destination bytes = .ok segment) ∧
      (∀ (datagram : UdpDatagram) source destination bytes rest, datagram.encode_ipv4 source destination = .ok bytes →
        UdpDatagram.decode_ipv4 source destination (bytes ++ rest) = .ok datagram) ∧
      (∀ packet bytes, Ipv4Packet.decode bytes = .ok packet →
        ∃ encoded, packet.encode = .ok encoded ∧ Ipv4Packet.decode encoded = .ok packet) ∧
      (∀ segment source destination bytes, Tcp.TcpSegment.decode source destination bytes = .ok segment →
        ∃ encoded, segment.encode source destination = .ok encoded ∧ Tcp.TcpSegment.decode source destination encoded =
          .ok segment) ∧
      (∀ (segment : Tcp.TcpSegment) source destination bytes, segment.encode source destination = .ok bytes →
        ∀ i < bytes.length, ∀ bit, (Tcp.TcpSegment.decode source destination (flip_bit bytes i bit)).isOk = false) ∧
      ∀ (packet : Ipv4Packet) bytes, packet.encode = .ok bytes →
        ∀ i < 20, ∀ bit, (Ipv4Packet.decode (flip_bit bytes i bit)).isOk = false := by
  refine ⟨?_,?_,?_,?_,?_,?_,?_⟩
  · intro packet bytes rest encoded named
    rw [Ipv4Packet.decode_encode encoded rest,← named]
  · exact fun _ _ _ _ encoded => Tcp.TcpSegment.decode_encode encoded
  · exact fun _ _ _ _ rest encoded => UdpDatagram.decode_encode_ipv4 encoded rest
  · exact fun _ _ decoded => Ipv4Packet.decode_again decoded
  · exact fun _ _ _ _ decoded => Tcp.TcpSegment.decode_again decoded
  · exact fun _ _ _ _ encoded _ inside bit => Tcp.TcpSegment.decode_set encoded inside bit
  · exact fun _ _ encoded _ inside bit => Ipv4Packet.decode_set encoded inside bit

/-- A protocol number that has a name, under `Other`. -/
def unnamed_tcp : Ipv4Packet := ⟨0,0x0a000001,0x0a000002,64,.Other 6,[1,2,3]⟩

/-- `Other(6)` is written as 6 and read back as TCP. -/
theorem unnamed_tcp_renamed :
    ¬∀ (packet : Ipv4Packet) bytes, packet.encode = .ok bytes → Ipv4Packet.decode bytes = .ok packet := by
  intro same
  have read := Ipv4Packet.decode_encode (show unnamed_tcp.encode = .ok _ from rfl) []
  rw [List.append_nil,same unnamed_tcp _ rfl] at read
  exact absurd (congrArg Ipv4Packet.protocol (Except.ok.inj read)) (by decide)

end Rios.Transport
