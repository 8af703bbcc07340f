import Rios.OspfDecode
import Rios.OspfV3

/-!
# Reading OSPFv3

The decoders of the OSPFv3 advertisements, whose prefixes are counted lists of
variable length, and of the packets, whose checksum includes both addresses.
-/

namespace Rios.Ipv6

/-- `Ipv6Addr::from` sixteen octets. -/
def of_octets (bytes : List UInt8) : Ipv6Addr :=
    BitVec.ofNat 128 (bytes.foldl (fun value byte => value * 256 + byte.toNat) 0)

/-- A network without the bits behind its length. -/
def Ipv6Network.new (address : Ipv6Addr) (prefix_len : UInt8) : Option Ipv6Network :=
  if short : prefix_len ≤ 128 then
    some ⟨address &&& mask prefix_len,prefix_len,short,by rw [BitVec.and_assoc,BitVec.and_self]⟩
  else none

end Rios.Ipv6

namespace Rios.OspfV3
open Rios.Device Rios.Wire Rios.Ospf Rios.Ipv6

/-! ### Advertisements -/

/-- One prefix at the front, and how many bytes it took. -/
def decode_prefix (metric : Bool) (rest : List UInt8) : Except WireError (OspfV3Prefix × Nat) :=
  if rest.length < 4 ∨ 128 < rest.getD 0 0 then .error .Malformed
  else
    let len := ((rest.getD 0 0).toNat + 31) / 32 * 4
    match slice? rest 4 len with
    | none => .error .Malformed
    | some address =>
      match Ipv6Network.new (of_octets (address ++ List.replicate (16 - len) 0)) (rest.getD 0 0) with
      | none => .error .Malformed
      | some network => .ok (⟨network,rest.getD 1 0,if metric then u16_at rest 2 else 0⟩,4 + len)

/-- The rounds of `decode_prefixes`, and what they leave. -/
def decode_prefix_rounds (metric : Bool) : Nat → List UInt8 → Except WireError (List OspfV3Prefix × List UInt8)
  | 0,rest => .ok ([],rest)
  | count + 1,rest =>
    match decode_prefix metric rest with
    | .error error => .error error
    | .ok (first,taken) =>
      match decode_prefix_rounds metric count (rest.drop taken) with
      | .error error => .error error
      | .ok (prefixes,left) => .ok (first :: prefixes,left)

/-- A counted list of prefixes that takes all the bytes. -/
def decode_prefixes (bytes : List UInt8) (count : Nat) (metric : Bool) : Except WireError (List OspfV3Prefix) :=
  if bytes.length / 4 < count then .error .Malformed
  else
    match decode_prefix_rounds metric count bytes with
    | .error error => .error error
    | .ok (prefixes,rest) => if rest ≠ [] then .error .Malformed else .ok prefixes

def OspfV3LinkType.of_byte : UInt8 → Except WireError OspfV3LinkType
  | 1 => .ok .PointToPoint
  | 2 => .ok .Transit
  | 4 => .ok .Virtual
  | _ => .error .Unsupported

/-- One connection of sixteen bytes. -/
def OspfV3RouterLink.decode (l : List UInt8) : Except WireError OspfV3RouterLink :=
  match OspfV3LinkType.of_byte (l.getD 0 0) with
  | .error error => .error error
  | .ok kind => .ok ⟨kind,u16_at l 2,u32_at l 4,u32_at l 8,u32_at l 12⟩

/-- The body of a type; a type without a body of its own is kept as its bytes. -/
def OspfV3LsaBody.decode (kind : UInt16) (b : List UInt8) : Except WireError OspfV3LsaBody :=
  if kind = V3_ROUTER_LSA then
    if b.length < 4 ∨ (b.length - 4) % 16 ≠ 0 then .error .Malformed
    else
      match (groups 16 (b.drop 4)).mapM OspfV3RouterLink.decode with
      | .error error => .error error
      | .ok links => .ok (.Router (b.getD 0 0) (u32_at b 0 &&& 0xffffff) links)
  else if kind = V3_NETWORK_LSA then
    if b.length < 4 ∨ b.length % 4 ≠ 0 then .error .Malformed
    else .ok (.Network (u32_at b 0 &&& 0xffffff) (chunks32 (b.drop 4)))
  else if kind = V3_LINK_LSA then
    if b.length < 24 then .error .Malformed
    else
      let link_local := of_octets ((b.drop 4).take 16)
      if ¬ is_unicast_link_local link_local then .error .Malformed
      else
        match decode_prefixes (b.drop 24) (u32_at b 20).toNat false with
        | .error error => .error error
        | .ok prefixes => .ok (.Link (b.getD 0 0) (u32_at b 0 &&& 0xffffff) link_local prefixes)
  else if kind = V3_INTRA_AREA_PREFIX_LSA then
    if b.length < 12 then .error .Malformed
    else
      let reference : OspfV3LsaKey := ⟨u16_at b 2,u32_at b 4,u32_at b 8⟩
      if reference.kind ≠ V3_ROUTER_LSA ∧ reference.kind ≠ V3_NETWORK_LSA then .error .Malformed
      else
        match decode_prefixes (b.drop 12) (u16_at b 0).toNat true with
        | .error error => .error error
        | .ok prefixes => .ok (.IntraAreaPrefix reference prefixes)
  else .ok (.Unknown kind b)

/-- Decode exactly one advertisement, with its length and its checksum verified. -/
def OspfV3Lsa.decode (bytes : List UInt8) : Except WireError OspfV3Lsa :=
  match OspfV3LsaHeader.decode bytes with
  | .error error => .error error
  | .ok h =>
    if h.length.toNat ≠ bytes.length then .error .Malformed
    else if fletcher (bytes.drop 2) ≠ (0,0) then .error .Checksum
    else
      match OspfV3LsaBody.decode h.key.kind (bytes.drop 20) with
      | .error error => .error error
      | .ok body => .ok ⟨h.age,h.key.link_state_id,h.key.advertising_router,h.sequence,body⟩

/-! ### Packets -/

/-- The length that the header at the front says. -/
def OspfV3LsaHeader.length_of (bytes : List UInt8) : Except WireError UInt16 := (OspfV3LsaHeader.decode bytes).map (·.length)

/-- One requested identity of twelve bytes. -/
def OspfV3LsaKey.decode (c : List UInt8) : OspfV3LsaKey := ⟨u16_at c 2,u32_at c 4,u32_at c 8⟩

def OspfV3Hello.decode (b : List UInt8) : Except WireError OspfV3Hello :=
  if b.length < 20 ∨ (b.length - 20) % 4 ≠ 0 then .error .Malformed
  else .ok {
    interface_id := u32_at b 0
    priority := b.getD 4 0
    options := u32_at b 4 &&& 0xffffff
    hello_interval := u16_at b 8
    dead_interval := u16_at b 10
    designated_router := u32_at b 12
    backup_router := u32_at b 16
    neighbors := chunks32 (b.drop 20) }

/-- The body of a packet of the given type. -/
def decode_body (kind : UInt8) (b : List UInt8) : Except WireError (OspfBody OspfV3Lsa) :=
  match kind with
  | 1 => (OspfV3Hello.decode b).map OspfBody.Hello
  | 2 =>
    if b.length < 12 ∨ b.getD 7 0 &&& ~~~7 ≠ 0 then .error .Malformed
    else
      match decode_headers OspfV3LsaHeader.decode (b.drop 12) with
      | .error error => .error error
      | .ok headers =>
        .ok (.DatabaseDescription (u16_at b 4) (u32_at b 0 &&& 0xffffff) (b.getD 7 0) (u32_at b 8) headers)
  | 3 =>
    if b.length % 12 ≠ 0 then .error .Malformed else .ok (.LinkStateRequest ((groups 12 b).map OspfV3LsaKey.decode))
  | 4 =>
    if b.length < 4 ∨ (b.length - 4) / 20 < (u32_at b 0).toNat then .error .Malformed
    else
      match decode_lsas OspfV3LsaHeader.length_of OspfV3Lsa.decode b (u32_at b 0).toNat 4 with
      | .error error => .error error
      | .ok (lsas,offset) => if offset ≠ b.length then .error .Malformed else .ok (.LinkStateUpdate lsas)
  | 5 =>
    match decode_headers OspfV3LsaHeader.decode b with
    | .error error => .error error
    | .ok headers => .ok (.LinkStateAck headers)
  | _ => .error .Unsupported

/-- Decode a bounded payload and verify the checksum with the pseudoheader. -/
def OspfV3Packet.decode (source destination : Ipv6Addr) (bytes : List UInt8) : Except WireError OspfV3Packet :=
  if bytes.length < 16 ∨ bytes.getD 0 0 ≠ 3 ∨ (u16_at bytes 2).toNat ≠ bytes.length then .error .Malformed
  else if ipv6_checksum source destination .Ospf bytes ≠ 0 then .error .Checksum
  else
    match decode_body (bytes.getD 1 0) (bytes.drop 16) with
    | .error error => .error error
    | .ok body => .ok ⟨u32_at bytes 4,u32_at bytes 8,bytes.getD 14 0,body⟩

end Rios.OspfV3
