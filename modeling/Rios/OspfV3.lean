import Rios.OspfPacket

/-!
# OSPFv3 advertisements and packets

Link-state advertisements that name IPv6 prefixes apart from the topology, the
packets that carry them, and the IPv6 header they travel under.
-/

namespace Rios.Ipv6
open Rios.Wire Rios.Transport

/-- An address as its number. -/
abbrev Ipv6Addr := BitVec 128

/-- `Ipv6Addr::octets`. -/
def octets (self : Ipv6Addr) : List UInt8 := (List.range 16).map (fun i => UInt8.ofNat (self.toNat / 256 ^ (15 - i)))

@[simp] theorem octets_length (self : Ipv6Addr) : (octets self).length = 16 := by
  rw [octets,List.length_map,List.length_range]

/-- `fe80::/10`. -/
def is_unicast_link_local (self : Ipv6Addr) : Bool := self >>> 118 = 0x3fa#128

/-- `ff00::/8`. -/
def is_multicast (self : Ipv6Addr) : Bool := self >>> 120 = 0xff#128

def mask (length : UInt8) : Ipv6Addr := if length = 0 then 0 else BitVec.allOnes 128 <<< (128 - length.toNat)

/-- A canonical IPv6 network. -/
structure Ipv6Network where
  address : Ipv6Addr
  prefix_len : UInt8
  short : prefix_len ≤ 128
  canonical : address &&& mask prefix_len = address
deriving DecidableEq

/-- The derived `Ord`: by address, then by length. -/
instance networkLinearOrder : LinearOrder Ipv6Network :=
  LinearOrder.lift' (fun network => toLex (network.address.toNat,network.prefix_len)) (by
    rintro ⟨address,len,_,_⟩ ⟨address',len',_,_⟩ same
    obtain ⟨addresses,lens⟩ := Prod.mk.inj (toLex.injective same)
    cases BitVec.eq_of_toNat_eq addresses
    cases lens
    rfl)

/-- Next-header identifiers, including the extensions that the decoder knows. -/
inductive NextHeader where
  | HopByHop
  | Tcp
  | Udp
  | Routing
  | Fragment
  | Esp
  | Authentication
  | Icmpv6
  | NoNextHeader
  | DestinationOptions
  | Ospf
  | Other (value : UInt8)
deriving DecidableEq

/-- `u8::from`. -/
def NextHeader.number : NextHeader → UInt8
  | .HopByHop => 0
  | .Tcp => 6
  | .Udp => 17
  | .Routing => 43
  | .Fragment => 44
  | .Esp => 50
  | .Authentication => 51
  | .Icmpv6 => 58
  | .NoNextHeader => 59
  | .DestinationOptions => 60
  | .Ospf => 89
  | .Other value => value

/-- `while total >> 16 != 0`, for a number of rounds. -/
def fold_total : Nat → Nat → Nat
  | 0,total => total
  | rounds + 1,total => if total / 65536 ≠ 0 then fold_total rounds (total % 65536 + total / 65536) else total

/-- The checksum of a payload with the pseudoheader of its packet. Five rounds are enough for every 64-bit sum. -/
def ipv6_checksum (source destination : Ipv6Addr) (protocol : NextHeader) (payload : List UInt8) : UInt16 :=
  ~~~ UInt16.ofNat (fold_total 5 (words (octets source) + words (octets destination) + payload.length / 65536 +
    payload.length % 65536 + protocol.number.toNat + words payload))

structure Ipv6Packet where
  source : Ipv6Addr
  destination : Ipv6Addr
  traffic_class : UInt8
  flow_label : UInt32
  hop_limit : UInt8
  next_header : NextHeader
  payload : List UInt8
deriving DecidableEq

inductive Ipv6PacketError where
  | Malformed
  | TooLarge
  | ExtensionLimit
  | Fragmented
  | SecurityHeader
  | ParameterProblem (pointer : UInt32) (code : UInt8) (send_icmp : Bool)
deriving DecidableEq

/-- The fixed header and the payload. -/
def Ipv6Packet.encode (self : Ipv6Packet) : Except Ipv6PacketError (List UInt8) :=
  if 0x000fffff < self.flow_label ∨ 65535 < self.payload.length then .error .TooLarge
  else .ok (be32 ((0x60000000 : UInt32) ||| self.traffic_class.toUInt32 <<< 20 ||| self.flow_label) ++
    be16 (UInt16.ofNat self.payload.length) ++ [self.next_header.number,self.hop_limit] ++ octets self.source ++
    octets self.destination ++ self.payload)

theorem Ipv6Packet.encode_length {self : Ipv6Packet} (label : self.flow_label = 0) (short : self.payload.length ≤ 65535) :
    ∃ bytes, self.encode = .ok bytes ∧ bytes.length = 40 + self.payload.length := by
  have fits : ¬ (0x000fffff < self.flow_label ∨ 65535 < self.payload.length) := by
    rw [label]
    exact not_or.mpr ⟨by decide,not_lt.mpr short⟩
  refine ⟨_,if_neg fits,?_⟩
  simp only [List.length_append,be32_length,be16_length,octets_length,List.length_cons,List.length_nil]

end Rios.Ipv6

namespace Rios.OspfV3
open Rios.Machine Rios.Device Rios.Wire Rios.Ospf Rios.Transport Rios.Ipv6

def V3_ROUTER_LSA : UInt16 := 0x2001
def V3_NETWORK_LSA : UInt16 := 0x2002
def V3_LINK_LSA : UInt16 := 0x0008
def V3_INTRA_AREA_PREFIX_LSA : UInt16 := 0x2009
/-- V6, E and R capabilities: IPv6 forwarding in a normal area. -/
def OSPFV3_OPTIONS : UInt32 := 0x13

/-- Identity of an advertisement; the link-state identifier is never an IPv6 address. -/
structure OspfV3LsaKey where
  kind : UInt16
  link_state_id : UInt32
  advertising_router : Ipv4Addr
deriving DecidableEq

/-- The derived `Ord`. -/
instance keyLinearOrder : LinearOrder OspfV3LsaKey :=
  LinearOrder.lift' (fun key => toLex (key.kind,toLex (key.link_state_id,key.advertising_router))) (by
    rintro ⟨kind,id,router⟩ ⟨kind',id',router'⟩ same
    obtain ⟨kinds,rest⟩ := Prod.mk.inj (toLex.injective same)
    obtain ⟨ids,routers⟩ := Prod.mk.inj (toLex.injective rest)
    cases kinds
    cases ids
    cases routers
    rfl)

/-- The fixed header of twenty bytes. -/
structure OspfV3LsaHeader where
  age : UInt16
  key : OspfV3LsaKey
  sequence : Int32
  checksum : UInt16
  length : UInt16
deriving DecidableEq

/-- One IPv6 prefix with its options and cost. -/
structure OspfV3Prefix where
  network : Ipv6Network
  options : UInt8
  metric : UInt16
deriving DecidableEq

inductive OspfV3LinkType where
  | PointToPoint
  | Transit
  | Virtual
deriving DecidableEq

/-- `OspfV3LinkType as u8`. -/
def OspfV3LinkType.byte : OspfV3LinkType → UInt8
  | .PointToPoint => 1
  | .Transit => 2
  | .Virtual => 4

/-- One connection of a router, independent of addresses. -/
structure OspfV3RouterLink where
  kind : OspfV3LinkType
  metric : UInt16
  interface_id : UInt32
  neighbor_interface_id : UInt32
  neighbor_router : Ipv4Addr
deriving DecidableEq

inductive OspfV3LsaBody where
  | Router (flags : UInt8) (options : UInt32) (links : List OspfV3RouterLink)
  | Network (options : UInt32) (routers : List Ipv4Addr)
  | Link (priority : UInt8) (options : UInt32) (link_local : Ipv6Addr) (prefixes : List OspfV3Prefix)
  | IntraAreaPrefix (reference : OspfV3LsaKey) (prefixes : List OspfV3Prefix)
  | Unknown (kind : UInt16) (bytes : List UInt8)
deriving DecidableEq

structure OspfV3Lsa where
  age : UInt16
  link_state_id : UInt32
  advertising_router : Ipv4Addr
  sequence : Int32
  body : OspfV3LsaBody
deriving DecidableEq

namespace OspfV3LsaHeader

def encode (self : OspfV3LsaHeader) : List UInt8 :=
  be16 self.age ++ be16 self.key.kind ++ be32 self.key.link_state_id ++ be32 self.key.advertising_router ++
    be32 self.sequence.toUInt32 ++ be16 self.checksum ++ be16 self.length

@[simp] theorem encode_length (self : OspfV3LsaHeader) : self.encode.length = 20 := rfl

def decode (bytes : List UInt8) : Except WireError OspfV3LsaHeader :=
  if bytes.length < 20 then .error .Malformed
  else
    let h : OspfV3LsaHeader :=
      { age := u16_at bytes 0,
        key := ⟨u16_at bytes 2,u32_at bytes 4,u32_at bytes 8⟩,
        sequence := (u32_at bytes 12).toInt32,
        checksum := u16_at bytes 16,
        length := u16_at bytes 18 }
    if LSA_MAX_AGE < h.age ∨ h.sequence = Int32.minValue ∨ h.length < 20 ∨ h.key.kind &&& 0x6000 = 0x6000 then
      .error .Malformed
    else .ok h

end OspfV3LsaHeader

/-- The options with another byte before them. -/
def options_word (flags : UInt8) (options : UInt32) : Except WireError (List UInt8) :=
  if 0xffffff < options then .error .Malformed else .ok (be32 (flags.toUInt32 <<< 24 ||| options))

def OspfV3RouterLink.encode (self : OspfV3RouterLink) : List UInt8 :=
  [self.kind.byte,0] ++ be16 self.metric ++ be32 self.interface_id ++ be32 self.neighbor_interface_id ++
    be32 self.neighbor_router

/-- Append one prefix; only as much of the address as its length needs. -/
def encode_prefix (metric : Bool) (out : List UInt8) (p : OspfV3Prefix) : Except WireError (List UInt8) :=
  if metric = false ∧ p.metric ≠ 0 then .error .Malformed
  else
    let len := (p.network.prefix_len.toNat + 31) / 32 * 4
    if 65535 < out.length + 4 + len then .error .TooLarge
    else .ok (out ++ [p.network.prefix_len,p.options] ++ be16 p.metric ++ (octets p.network.address).take len)

def encode_prefixes (out : List UInt8) (prefixes : List OspfV3Prefix) (metric : Bool) : Except WireError (List UInt8) :=
  prefixes.foldlM ( encode_prefix metric) out

/-- Whether a type has a body of its own. -/
def known_kind (kind : UInt16) : Bool :=
  kind = V3_ROUTER_LSA ∨ kind = V3_NETWORK_LSA ∨ kind = V3_LINK_LSA ∨ kind = V3_INTRA_AREA_PREFIX_LSA

/-- Append a body to the header before it. -/
def OspfV3LsaBody.encode (out : List UInt8) : OspfV3LsaBody → Except WireError (List UInt8)
  | .Router flags options links =>
    match options_word flags options with
    | .error error => .error error
    | .ok word =>
      if (65535 - 24) / 16 < links.length then .error .TooLarge
      else .ok (out ++ word ++ links.flatMap OspfV3RouterLink.encode)
  | .Network options routers =>
    match options_word 0 options with
    | .error error => .error error
    | .ok word => if (65535 - 24) / 4 < routers.length then .error .TooLarge else .ok (out ++ word ++ routers.flatMap be32)
  | .Link priority options link_local prefixes =>
    if ¬ is_unicast_link_local link_local then .error .Malformed
    else
      match options_word priority options with
      | .error error => .error error
      | .ok word =>
        if 2 ^ 32 ≤ prefixes.length then .error .TooLarge
        else encode_prefixes (out ++ word ++ octets link_local ++ be32 (UInt32.ofNat prefixes.length)) prefixes false
  | .IntraAreaPrefix reference prefixes =>
    if reference.kind ≠ V3_ROUTER_LSA ∧ reference.kind ≠ V3_NETWORK_LSA then .error .Malformed
    else if 65536 ≤ prefixes.length then .error .TooLarge
    else
      encode_prefixes (out ++ be16 (UInt16.ofNat prefixes.length) ++ be16 reference.kind ++ be32 reference.link_state_id ++
        be32 reference.advertising_router) prefixes true
  | .Unknown kind bytes =>
    if known_kind kind ∨ kind &&& 0x6000 = 0x6000 then .error .Malformed
    else if 65535 - 20 < bytes.length then .error .TooLarge
    else .ok (out ++ bytes)

namespace OspfV3Lsa

def key (self : OspfV3Lsa) : OspfV3LsaKey :=
  ⟨match self.body with
    | .Router .. => V3_ROUTER_LSA
    | .Network .. => V3_NETWORK_LSA
    | .Link .. => V3_LINK_LSA
    | .IntraAreaPrefix .. => V3_INTRA_AREA_PREFIX_LSA
    | .Unknown kind _ => kind,self.link_state_id,self.advertising_router⟩

/-- The bytes with the derived length and checksum. -/
def encode (self : OspfV3Lsa) : Except WireError (List UInt8) :=
  if LSA_MAX_AGE < self.age ∨ self.sequence = Int32.minValue then .error .Malformed
  else
    let header : OspfV3LsaHeader := ⟨self.age,self.key,self.sequence,0,20⟩
    match self.body.encode header.encode with
    | .error error => .error error
    | .ok out =>
      if 65535 < out.length then .error .TooLarge
      else
        let length := UInt16.ofNat out.length
        .ok (insert_checksum ((out.set 18 (UInt8.ofNat (length.toNat / 256))).set 19 (UInt8.ofNat length.toNat)))

def header (self : OspfV3Lsa) : Except WireError OspfV3LsaHeader := self.encode.bind OspfV3LsaHeader.decode

end OspfV3Lsa

/-- Hello data: interface identifiers and router identifiers, no subnet mask. -/
structure OspfV3Hello where
  interface_id : UInt32
  priority : UInt8
  options : UInt32
  hello_interval : UInt16
  dead_interval : UInt16
  designated_router : Ipv4Addr
  backup_router : Ipv4Addr
  neighbors : List Ipv4Addr
deriving DecidableEq

instance v3Advertisement : ExchangeAdvertisement OspfV3Lsa where
  Key := OspfV3LsaKey
  Header := OspfV3LsaHeader
  Hello := OspfV3Hello
  key_order := keyLinearOrder
  OPTIONS := OSPFV3_OPTIONS
  PACKET_OVERHEAD := 56
  DD_OVERHEAD := 68
  key := OspfV3Lsa.key
  header := OspfV3Lsa.header
  encoded_len lsa := lsa.encode.map List.length
  header_key h := h.key
  compare a b := compare_lsa_instances (a.sequence,a.checksum,a.age) (b.sequence,b.checksum,b.age)

def OspfV3Hello.encode (self : OspfV3Hello) : List UInt8 :=
  be32 self.interface_id ++ be32 (self.priority.toUInt32 <<< 24 ||| self.options) ++ be16 self.hello_interval ++
    be16 self.dead_interval ++ be32 self.designated_router ++ be32 self.backup_router ++ self.neighbors.flatMap be32

def OspfV3LsaKey.encode (self : OspfV3LsaKey) : List UInt8 :=
  [0,0] ++ be16 self.kind ++ be32 self.link_state_id ++ be32 self.advertising_router

theorem OspfV3LsaKey.encode_length (self : OspfV3LsaKey) : self.encode.length = 12 := rfl

/-- The type byte and the bytes of a body. -/
def encode_body : OspfBody OspfV3Lsa → Except WireError (UInt8 × List UInt8)
  | .Hello h =>
    let h : OspfV3Hello := h
    if 0xffffff < h.options ∨ (65535 - 36) / 4 < h.neighbors.length then .error .TooLarge else .ok (1,h.encode)
  | .DatabaseDescription mtu options flags sequence headers =>
    if 0xffffff < options ∨ flags &&& ~~~7 ≠ 0 ∨ (65535 - 28) / 20 < headers.length then .error .Malformed
    else .ok (2,be32 options ++ be16 mtu ++ [0,flags] ++ be32 sequence ++ headers.flatMap OspfV3LsaHeader.encode)
  | .LinkStateRequest keys =>
    if (65535 - 16) / 12 < keys.length then .error .TooLarge else .ok (3,keys.flatMap OspfV3LsaKey.encode)
  | .LinkStateUpdate lsas =>
    if (65535 - 20) / 20 < lsas.length then .error .TooLarge
    else
      -- the limit counts the common header that stands before the body
      match lsas.foldlM (fun body lsa => append_lsa (65535 - 16) body lsa.encode) (be32 (UInt32.ofNat lsas.length)) with
      | .error error => .error error
      | .ok body => .ok (4,body)
  | .LinkStateAck headers =>
    if (65535 - 16) / 20 < headers.length then .error .TooLarge else .ok (5,headers.flatMap OspfV3LsaHeader.encode)

structure OspfV3Packet where
  router_id : Ipv4Addr
  area : UInt32
  instance_id : UInt8
  body : OspfBody OspfV3Lsa

namespace OspfV3Packet

/-- The common header of a packet. -/
def head (self : OspfV3Packet) (kind : UInt8) (length : Nat) (sum : UInt16) : List UInt8 :=
  [3,kind] ++ be16 (UInt16.ofNat length) ++ be32 self.router_id ++ be32 self.area ++ be16 sum ++ [self.instance_id,0]

/-- Encode the payload; the addresses take part in its checksum. -/
def encode (self : OspfV3Packet) (source destination : Ipv6Addr) : Except WireError (List UInt8) :=
  match encode_body self.body with
  | .error error => .error error
  | .ok (kind,body) =>
    let length := 16 + body.length
    if 65535 < length then .error .TooLarge
    else .ok (self.head kind length (ipv6_checksum source destination .Ospf (self.head kind length 0 ++ body)) ++ body)

@[simp] theorem head_length (self : OspfV3Packet) (kind : UInt8) (length : Nat) (sum : UInt16) :
    (self.head kind length sum).length = 16 := rfl

theorem encode_length {self : OspfV3Packet} {kind : UInt8} {body : List UInt8}
    (encoded : encode_body self.body = .ok (kind,body)) (short : 16 + body.length ≤ 65535)
    (source destination : Ipv6Addr) :
    ∃ bytes, self.encode source destination = .ok bytes ∧ bytes.length = 16 + body.length := by
  refine ⟨self.head kind (16 + body.length) (ipv6_checksum source destination .Ospf
    (self.head kind (16 + body.length) 0 ++ body)) ++ body,?_,?_⟩
  · rw [encode,encoded]
    dsimp only
    rw [if_neg (not_lt.mpr short)]
  · rw [List.length_append,head_length]

/-- `Lab::emit_ospfv3`: the IPv6 packet around an encoded payload. -/
def wrap (source destination : Ipv6Addr) (payload : List UInt8) : Ipv6Packet :=
  ⟨source,destination,0,0,1,.Ospf,payload⟩

/-- The bytes that leave an interface for a packet. -/
def transmitted (self : OspfV3Packet) (source destination : Ipv6Addr) : Option (List UInt8) :=
  (self.encode source destination).toOption.bind (fun payload => (wrap source destination payload).encode.toOption)

end OspfV3Packet
end Rios.OspfV3
