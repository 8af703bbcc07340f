import Rios.OspfExchange
import Rios.Transport

/-!
# OSPFv2 packets in IPv4

The encoder of the five packet bodies and the IPv4 header they travel under.
-/

namespace Rios.Transport
open Rios.Wire

inductive PacketError where
  | Truncated
  | UnsupportedHeader
  | InvalidLength
  | InvalidChecksum
  | Expired
deriving DecidableEq

namespace Ipv4Packet

/-- The twenty bytes of a header that carries a checksum. -/
def head (self : Ipv4Packet) (total : Nat) (sum : UInt16) : List UInt8 :=
  [0x45,self.dscp_ecn] ++ be16 (UInt16.ofNat total) ++ [0,0] ++ be16 0x4000 ++ [self.ttl,self.protocol.number] ++ be16 sum ++
    be32 self.source ++ be32 self.destination

/-- Encode a checksum-valid 20-byte IPv4 header followed by the payload. -/
def encode (self : Ipv4Packet) : Except PacketError (List UInt8) :=
  let total := 20 + self.payload.length
  if self.ttl = 0 then .error .Expired
  else if 65535 < total then .error .InvalidLength
  else .ok (self.head total (checksum (self.head total 0)) ++ self.payload)

@[simp] theorem head_length (self : Ipv4Packet) (total : Nat) (sum : UInt16) : (self.head total sum).length = 20 := rfl

/-- A payload that leaves room for the header is encoded, with twenty bytes before it. -/
theorem encode_length {self : Ipv4Packet} (alive : self.ttl ≠ 0) (short : 20 + self.payload.length ≤ 65535) :
    ∃ bytes, self.encode = .ok bytes ∧ bytes.length = 20 + self.payload.length := by
  refine ⟨self.head (20 + self.payload.length) (checksum (self.head (20 + self.payload.length) 0)) ++ self.payload,?_,?_⟩
  · rw [encode]
    rw [if_neg alive,if_neg (not_lt.mpr short)]
  · rw [List.length_append,head_length]

end Ipv4Packet
end Rios.Transport

namespace Rios.Ospf
open Rios.Machine Rios.Device Rios.Wire Rios.Transport

/-- The fixed fields of a Hello and the neighbours it has heard. -/
def OspfHello.encode (self : OspfHello) : List UInt8 :=
  be32 self.mask ++ be16 self.hello_interval ++ [self.options,self.priority] ++ be32 self.dead_interval ++
    be32 self.designated_router ++ be32 self.backup_router ++ self.neighbors.flatMap be32

def LsaKey.encode (self : LsaKey) : List UInt8 :=
  be32 (UInt32.ofNat self.kind.byte.toNat) ++ be32 self.link_state_id ++ be32 self.advertising_router

theorem LsaHeader.encode_length (self : LsaHeader) : self.encode.length = 20 := rfl

theorem LsaKey.encode_length (self : LsaKey) : self.encode.length = 12 := rfl

/-- Append one encoded advertisement to an update while the packet stays below its length limit. -/
def append_lsa (limit : Nat) (body : List UInt8) : Except WireError (List UInt8) → Except WireError (List UInt8)
  | .error error => .error error
  | .ok bytes => if limit < body.length + bytes.length then .error .TooLarge else .ok (body ++ bytes)

/-- The type byte and the bytes of a body. -/
def OspfBody.encode : OspfBody Lsa → Except WireError (UInt8 × List UInt8)
  | .Hello hello => if (65535 - 44) / 4 < hello.neighbors.length then .error .TooLarge else .ok (1,hello.encode)
  | .DatabaseDescription mtu options flags sequence headers =>
    if (65535 - 32) / 20 < headers.length ∨ flags &&& ~~~7 ≠ 0 then .error .TooLarge
    else if 255 < options then .error .Unsupported
    else .ok (2,be16 mtu ++ [UInt8.ofNat options.toNat,flags] ++ be32 sequence ++ headers.flatMap LsaHeader.encode)
  | .LinkStateRequest keys =>
    if (65535 - 24) / 12 < keys.length then .error .TooLarge else .ok (3,keys.flatMap LsaKey.encode)
  | .LinkStateUpdate lsas =>
    if (65535 - 28) / 20 < lsas.length then .error .TooLarge
    else
      match lsas.foldlM (fun body lsa => append_lsa (65535 - 24) body lsa.encode)
          (be32 (UInt32.ofNat lsas.length)) with
      | .error error => .error error
      | .ok body => .ok (4,body)
  | .LinkStateAck headers =>
    if (65535 - 24) / 20 < headers.length then .error .TooLarge else .ok (5,headers.flatMap LsaHeader.encode)

/-- A packet with null authentication and a validated checksum. -/
structure OspfV2Packet where
  router_id : Ipv4Addr
  area : UInt32
  body : OspfBody Lsa

namespace OspfV2Packet

/-- The common header of a packet. -/
def head (self : OspfV2Packet) (kind : UInt8) (length : Nat) (sum : UInt16) : List UInt8 :=
  [2,kind] ++ be16 (UInt16.ofNat length) ++ be32 self.router_id ++ be32 self.area ++ be16 sum ++ List.replicate 10 0

/-- Encode header and payload; fail rather than truncate oversized lengths. -/
def encode (self : OspfV2Packet) : Except WireError (List UInt8) :=
  match self.body.encode with
  | .error error => .error error
  | .ok (kind,body) =>
    let length := 24 + body.length
    if 65535 < length then .error .TooLarge
    else .ok (self.head kind length (checksum (self.head kind length 0 ++ body)) ++ body)

@[simp] theorem head_length (self : OspfV2Packet) (kind : UInt8) (length : Nat) (sum : UInt16) :
    (self.head kind length sum).length = 24 := rfl

theorem encode_length {self : OspfV2Packet} {kind : UInt8} {body : List UInt8} (encoded : self.body.encode = .ok (kind,body))
    (short : 24 + body.length ≤ 65535) : ∃ bytes, self.encode = .ok bytes ∧ bytes.length = 24 + body.length := by
  refine ⟨self.head kind (24 + body.length) (checksum (self.head kind (24 + body.length) 0 ++ body)) ++ body,?_,?_⟩
  · rw [encode,encoded]
    dsimp only
    rw [if_neg (not_lt.mpr short)]
  · rw [List.length_append,head_length]

/-- `Lab::emit_ospf`: the IPv4 packet around an encoded payload. -/
def wrap (source destination : Ipv4Addr) (payload : List UInt8) : Ipv4Packet := ⟨0,source,destination,1,.Ospf,payload⟩

/-- The bytes that leave an interface for a packet. -/
def transmitted (self : OspfV2Packet) (source destination : Ipv4Addr) : Option (List UInt8) :=
  self.encode.toOption.bind (fun payload => (wrap source destination payload).encode.toOption)

end OspfV2Packet
end Rios.Ospf
