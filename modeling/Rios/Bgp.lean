import Rios.Device
import Rios.Wire

/-!
# BGP messages on the wire

Typed messages and attributes, their encoder with all its checks, and the
decoder with its nested loops. Byte strings are lists; errors carry the code and
subcode of the NOTIFICATION they ask for.
-/

namespace Rios.Bgp
open Rios.Device Rios.Wire

/-- Base maximum message size, without the extended-message capability. -/
def BGP_MAX_MESSAGE : Nat := 4096

structure BgpError where
  code : UInt8
  subcode : UInt8
deriving DecidableEq

/-- Advertised optional protocol capabilities. -/
inductive BgpCapability where
  | FourOctetAs (asn : UInt32)
  | Multiprotocol (afi : UInt16) (safi : UInt8)
  | RouteRefresh
  | Unknown (code : UInt8) (value : List UInt8)
deriving DecidableEq

structure BgpOpen where
  autonomous_system : UInt16
  hold_time : UInt16
  router_id : Ipv4Addr
  capabilities : List BgpCapability
deriving DecidableEq

inductive BgpOrigin where
  | Igp
  | Egp
  | Incomplete
deriving DecidableEq

/-- The numbers of the origins. -/
def BgpOrigin.byte : BgpOrigin → UInt8
  | .Igp => 0
  | .Egp => 1
  | .Incomplete => 2

/-- Sequences and sets retain distinct wire semantics. -/
inductive AsPathSegment where
  | Sequence (members : List UInt32)
  | Set (members : List UInt32)
deriving DecidableEq

def AsPathSegment.members : AsPathSegment → List UInt32
  | .Sequence members | .Set members => members

/-- The type byte of a segment. -/
def AsPathSegment.kind : AsPathSegment → UInt8
  | .Sequence _ => 2
  | .Set _ => 1

/-- An unrecognized optional transitive attribute that must survive propagation. -/
structure BgpUnknownAttribute where
  flags : UInt8
  code : UInt8
  value : List UInt8
deriving DecidableEq

/-- Attributes shared by all announced prefixes of one UPDATE. -/
structure BgpAttributes where
  origin : BgpOrigin
  as_path : List AsPathSegment
  next_hop : Ipv4Addr
  atomic_aggregate : Bool
  med : Option UInt32
  local_preference : Option UInt32
  originator_id : Option Ipv4Addr
  cluster_list : List Ipv4Addr
  unknown_transitive : List BgpUnknownAttribute
deriving DecidableEq

structure BgpUpdate where
  withdrawn : List Ipv4Network
  attributes : Option BgpAttributes
  announced : List Ipv4Network
deriving DecidableEq

/-- The four base message kinds. -/
inductive BgpMessage where
  | Open (opening : BgpOpen)
  | Update (update : BgpUpdate)
  | Notification (code subcode : UInt8) (data : List UInt8)
  | Keepalive
deriving DecidableEq

/-- Result of a codec. -/
abbrev Result (α : Type) := Except BgpError α

def is_unspecified (address : Ipv4Addr) : Bool := address = 0
def is_multicast (address : Ipv4Addr) : Bool := 224 ≤ first_octet address && first_octet address ≤ 239
def is_broadcast (address : Ipv4Addr) : Bool := address = 0xffffffff

/-! ### OPEN -/

namespace BgpOpen

/-- The four-octet AS numbers among the capabilities. -/
def four_octet_asns (self : BgpOpen) : List UInt32 :=
  self.capabilities.filterMap (fun capability => match capability with
    | .FourOctetAs asn => some asn
    | _ => none)

/-- Effective peer AS number. -/
def effective_asn (self : BgpOpen) : UInt32 := self.four_octet_asns.head?.getD self.autonomous_system.toUInt32

def validate (self : BgpOpen) : Result Unit :=
  if self.hold_time ≠ 0 && self.hold_time < 3 then .error ⟨2,6⟩
  else if is_unspecified self.router_id || is_multicast self.router_id || is_broadcast self.router_id then .error ⟨2,3⟩
  else if self.effective_asn = 0 then .error ⟨2,2⟩
  else if 1 < self.four_octet_asns.dedup.length then .error ⟨2,4⟩
  else .ok ()

end BgpOpen

namespace BgpCapability

/-- Code and value on the wire. -/
def parts : BgpCapability → UInt8 × List UInt8
  | .FourOctetAs asn => (65,be32 asn)
  | .Multiprotocol afi safi => (1,be16 afi ++ [0,safi])
  | .RouteRefresh => (2,[])
  | .Unknown code value => (code,value)

/-- One capability behind those already encoded. -/
def encode (caps : List UInt8) (self : BgpCapability) : Result (List UInt8) :=
  let (code,value) := self.parts
  if 255 < value.length || 253 < caps.length + 2 + value.length then .error ⟨2,4⟩
  else .ok (caps ++ (code :: UInt8.ofNat value.length :: value))

/-- One capability of a parameter. -/
def decode (caps : List BgpCapability) (value : List UInt8) : Result (List BgpCapability × Nat) :=
  if value.length < 2 then .error ⟨2,4⟩
  else
    let size := (value.getD 1 0).toNat
    match slice? value 2 size with
    | none => .error ⟨2,4⟩
    | some content =>
      let code := value.getD 0 0
      if code = 65 ∧ size = 4 then .ok (caps ++ [.FourOctetAs (u32_at content 0)],1 + size)
      else if code = 1 ∧ size = 4 then .ok (caps ++ [.Multiprotocol (u16_at content 0) (content.getD 3 0)],1 + size)
      else if code = 2 ∧ size = 0 then .ok (caps ++ [.RouteRefresh],1 + size)
      else if code = 1 ∨ code = 2 ∨ code = 65 then .error ⟨2,4⟩
      else .ok (caps ++ [.Unknown code content],1 + size)

end BgpCapability

/-- One optional parameter of an OPEN. -/
def decode_parameter (caps : List BgpCapability) (rest : List UInt8) : Result (List BgpCapability × Nat) :=
  if rest.length < 2 then .error ⟨2,4⟩
  else
    let length := (rest.getD 1 0).toNat
    match slice? rest 2 length with
    | none => .error ⟨2,4⟩
    | some value =>
      if rest.getD 0 0 ≠ 2 then .error ⟨2,4⟩
      else
        match while_nonempty BgpCapability.decode caps value with
        | .error error => .error error
        | .ok caps => .ok (caps,1 + length)

/-! ### Prefixes -/

/-- The octets of an address. -/
def octets (address : Ipv4Addr) : List UInt8 := be32 address

/-- `usize::div_ceil` of a prefix length by eight. -/
def prefix_bytes (prefix_len : UInt8) : Nat := (prefix_len.toNat + 7) / 8

def encode_prefix (out : List UInt8) (network : Ipv4Network) : Result (List UInt8) :=
  let length := prefix_bytes network.prefix_len
  if BGP_MAX_MESSAGE < out.length + 1 + length then .error ⟨1,2⟩
  else .ok (out ++ (network.prefix_len :: (octets network.address).take length))

def encode_prefixes (prefixes : List Ipv4Network) : Result (List UInt8) := prefixes.foldlM encode_prefix []

/-- The four octets that start with the given ones and end in zeros. -/
def padded (value : List UInt8) : Ipv4Addr := u32_at value 0

def decode_prefix (out : List Ipv4Network) (bytes : List UInt8) : Result (List Ipv4Network × Nat) :=
  let prefix_len := bytes.getD 0 0
  if 32 < prefix_len then .error ⟨3,10⟩
  else
    let length := prefix_bytes prefix_len
    match slice? bytes 1 length with
    | none => .error ⟨3,10⟩
    | some value =>
      match Ipv4Network.new (padded value) prefix_len with
      | .error _ => .error ⟨3,10⟩
      | .ok network => .ok (out ++ [network],length)

def decode_prefixes (bytes : List UInt8) : Result (List Ipv4Network) := while_nonempty decode_prefix [] bytes

/-! ### Attributes -/

/-- Append one attribute, with a two-byte length where one byte is too short. -/
def push_attribute (out : List UInt8) (flags code : UInt8) (value : List UInt8) : Result (List UInt8) :=
  let extended := 255 < value.length
  if BGP_MAX_MESSAGE < out.length + value.length + (if extended then 4 else 3) then .error ⟨1,2⟩
  else .ok (out ++ ((flags &&& 0xe0) ||| (if extended then 0x10 else 0)) :: code ::
    ((if extended then be16 (UInt16.ofNat value.length) else [UInt8.ofNat value.length]) ++ value))

/-- The width of an AS number. -/
def width (four : Bool) : Nat := if four then 4 else 2

def encode_member (four : Bool) (path : List UInt8) (asn : UInt32) : Result (List UInt8) :=
  if asn = 0 then .error ⟨3,11⟩
  else if four then .ok (path ++ be32 asn)
  else if asn.toNat < 2 ^ 16 then .ok (path ++ be16 asn.toUInt16)
  else .error ⟨3,11⟩

def encode_segment (four : Bool) (path : List UInt8) (segment : AsPathSegment) : Result (List UInt8) :=
  let values := segment.members
  if values.isEmpty || 255 < values.length then .error ⟨3,11⟩
  else if BGP_MAX_MESSAGE < path.length + 2 + values.length * width four then .error ⟨1,2⟩
  else values.foldlM (encode_member four) (path ++ [segment.kind,UInt8.ofNat values.length])

/-- The numbers in the bytes of a segment. -/
def decode_members (four : Bool) (value : List UInt8) : List UInt32 :=
  if four then chunks32 value else (chunks16 value).map (·.toUInt32)

/-- One segment of a path. -/
def decode_segment (four : Bool) (segments : List AsPathSegment) (bytes : List UInt8) : Result (List AsPathSegment × Nat) :=
  let kind := bytes.getD 0 0
  let count := bytes.getD 1 0
  if bytes.length < 2 || count = 0 || (kind ≠ 1 && kind ≠ 2) then .error ⟨3,11⟩
  else
    let length := count.toNat * width four
    match slice? bytes 2 length with
    | none => .error ⟨3,11⟩
    | some value =>
      let members := decode_members four value
      if members.contains 0 then .error ⟨3,11⟩
      else .ok (segments ++ [if kind = 1 then .Set members else .Sequence members],1 + length)

def decode_path (bytes : List UInt8) (four : Bool) : Result (List AsPathSegment) :=
  while_nonempty (decode_segment four) [] bytes

/-- The codes that have a field of their own. -/
def typedCodes : List UInt8 := [1,2,3,4,5,6,9,10]

namespace BgpAttributes

/-- The loop over unknown attributes, with the codes seen so far. -/
def encode_unknown : List UInt8 → List UInt8 → List BgpUnknownAttribute → Result (List UInt8)
  | _,out,[] => .ok out
  | seen,out,unknown :: rest =>
    if seen.contains unknown.code || unknown.flags &&& 0xc0 ≠ 0xc0 then .error ⟨3,4⟩
    else do
      let out ← push_attribute out unknown.flags unknown.code unknown.value
      encode_unknown (unknown.code :: seen) out rest

def encode (self : BgpAttributes) (four : Bool) : Result (List UInt8) := do
  let out ← push_attribute [] 0x40 1 [self.origin.byte]
  let path ← self.as_path.foldlM (encode_segment four) []
  let out ← push_attribute out 0x40 2 path
  let out ← push_attribute out 0x40 3 (octets self.next_hop)
  let out ← (if self.atomic_aggregate then push_attribute out 0x40 6 [] else .ok out)
  let out ← self.med.elim (.ok out) (fun med => push_attribute out 0x80 4 (be32 med))
  let out ← self.local_preference.elim (.ok out) (fun pref => push_attribute out 0x40 5 (be32 pref))
  let out ← self.originator_id.elim (.ok out) (fun id => push_attribute out 0x80 9 (octets id))
  let out ←
    (if self.cluster_list.isEmpty then .ok out
    else if BGP_MAX_MESSAGE / 4 < self.cluster_list.length then .error ⟨1,2⟩
    else push_attribute out 0x80 10 (self.cluster_list.flatMap octets))
  encode_unknown typedCodes out self.unknown_transitive

/-- The local variables of the decoding loop. -/
structure Partial where
  origin : Option BgpOrigin
  as_path : Option (List AsPathSegment)
  next_hop : Option Ipv4Addr
  atomic_aggregate : Bool
  med : Option UInt32
  local_preference : Option UInt32
  originator_id : Option Ipv4Addr
  cluster_list : List Ipv4Addr
  unknown_transitive : List BgpUnknownAttribute

def Partial.initial : Partial := ⟨none,none,none,false,none,none,none,[],[]⟩

/-- The category that an attribute's flags must name. -/
def expected (code : UInt8) : Option UInt8 :=
  if code = 1 ∨ code = 2 ∨ code = 3 ∨ code = 5 ∨ code = 6 then some 0x40
  else if code = 4 ∨ code = 9 ∨ code = 10 then some 0x80
  else if code = 7 ∨ code = 17 ∨ code = 18 then some 0xc0
  else none

/-- The arms of the match on an attribute's code. -/
def decode_value (four : Bool) (flags code : UInt8) (value : List UInt8) (self : Partial) : Result Partial :=
  if code = 1 then
    if value.length ≠ 1 then .error ⟨3,5⟩
    else if value.getD 0 0 = 0 then .ok { self with origin := some .Igp }
    else if value.getD 0 0 = 1 then .ok { self with origin := some .Egp }
    else if value.getD 0 0 = 2 then .ok { self with origin := some .Incomplete }
    else .error ⟨3,6⟩
  else if code = 2 then
    match decode_path value four with
    | .error error => .error error
    | .ok path => .ok { self with as_path := some path }
  else if code = 3 then
    if value.length ≠ 4 then .error ⟨3,5⟩
    else
      let address := u32_at value 0
      if is_unspecified address || is_multicast address || is_broadcast address then .error ⟨3,8⟩
      else .ok { self with next_hop := some address }
  else if code = 4 ∨ code = 5 then
    if value.length ≠ 4 then .error ⟨3,5⟩
    else if code = 4 then .ok { self with med := some (u32_at value 0) }
    else .ok { self with local_preference := some (u32_at value 0) }
  else if code = 9 then
    if value.length ≠ 4 then .error ⟨3,5⟩ else .ok { self with originator_id := some (u32_at value 0) }
  else if code = 10 then
    if value.length % 4 ≠ 0 then .error ⟨3,5⟩ else .ok { self with cluster_list := chunks32 value }
  else if code = 6 then
    if value.length ≠ 0 then .error ⟨3,5⟩ else .ok { self with atomic_aggregate := true }
  -- four-octet peers discard legacy transition attributes
  else if (code = 17 ∨ code = 18) ∧ four then .ok self
  else if flags &&& 0x80 = 0 then .error ⟨3,2⟩
  else if flags &&& 0xc0 = 0xc0 then
    .ok { self with unknown_transitive := self.unknown_transitive ++ [⟨flags &&& 0xe0,code,value⟩] }
  else .ok self

/-- One attribute: its header, the checks of its flags, and its value. -/
def decode_attribute (four : Bool) (state : Partial × List UInt8) (bytes : List UInt8) :
    Result ((Partial × List UInt8) × Nat) :=
  if bytes.length < 3 then .error ⟨3,1⟩
  else
    let flags := bytes.getD 0 0
    let code := bytes.getD 1 0
    let extended := flags &&& 0x10 ≠ 0
    if extended ∧ bytes.length < 4 then .error ⟨3,1⟩
    else
      let header := if extended then 4 else 3
      let length := if extended then (u16_at bytes 2).toNat else (bytes.getD 2 0).toNat
      match slice? bytes header length with
      | none => .error ⟨3,5⟩
      | some value =>
        if state.2.contains code then .error ⟨3,1⟩
        else if (expected code).any (fun expected => flags &&& 0xc0 ≠ expected) ||
            (flags &&& 0x20 ≠ 0 && flags &&& 0xc0 ≠ 0xc0) then .error ⟨3,4⟩
        else
          match decode_value four flags code value state.1 with
          | .error error => .error error
          | .ok next => .ok ((next,code :: state.2),header - 1 + length)

def decode (bytes : List UInt8) (four : Bool) : Result BgpAttributes :=
  match while_nonempty (decode_attribute four) (Partial.initial,[]) bytes with
  | .error error => .error error
  | .ok (state,_) =>
    match state.origin with
    | none => .error ⟨3,3⟩
    | some origin =>
      match state.as_path with
      | none => .error ⟨3,3⟩
      | some as_path =>
        match state.next_hop with
        | none => .error ⟨3,3⟩
        | some next_hop => .ok ⟨origin,as_path,next_hop,state.atomic_aggregate,state.med,state.local_preference,
            state.originator_id,state.cluster_list,state.unknown_transitive⟩

end BgpAttributes

/-! ### Messages -/

/-- The length field of a frame, after the checks of its header. -/
def message_length (bytes : List UInt8) : Result Nat :=
  if bytes.length < 19 then .error ⟨1,2⟩
  else if bytes.take 16 ≠ List.replicate 16 255 then .error ⟨1,1⟩
  else
    let length := (u16_at bytes 16).toNat
    if length < 19 || BGP_MAX_MESSAGE < length then .error ⟨1,2⟩
    else if bytes.getD 18 0 < 1 || 4 < bytes.getD 18 0 then .error ⟨1,3⟩
    else .ok length

namespace BgpMessage

/-- The type byte and the body of a message. -/
def encode_body (self : BgpMessage) (four_octet_as : Bool) : Result (UInt8 × List UInt8) :=
  match self with
  | .Open opening => do
    opening.validate
    let caps ← opening.capabilities.foldlM BgpCapability.encode []
    let parameters : List UInt8 :=
      if caps.isEmpty then [0] else [UInt8.ofNat (caps.length + 2),2,UInt8.ofNat caps.length] ++ caps
    .ok (1,[4] ++ be16 opening.autonomous_system ++ be16 opening.hold_time ++ octets opening.router_id ++ parameters)
  | .Update update =>
    if !update.announced.isEmpty && update.attributes.isNone then .error ⟨3,3⟩
    else do
      let withdrawn ← encode_prefixes update.withdrawn
      let attrs ← update.attributes.elim (.ok []) (fun attributes => attributes.encode four_octet_as)
      if 2 ^ 16 ≤ attrs.length then .error ⟨1,2⟩
      else do
        let announced ← encode_prefixes update.announced
        .ok (2,be16 (UInt16.ofNat withdrawn.length) ++ withdrawn ++ be16 (UInt16.ofNat attrs.length) ++ attrs ++ announced)
  | .Notification code subcode data =>
    if BGP_MAX_MESSAGE - 21 < data.length then .error ⟨1,2⟩ else .ok (3,code :: subcode :: data)
  | .Keepalive => .ok (4,[])

/-- AS_PATH width follows the capabilities negotiated on the connection. -/
def encode (self : BgpMessage) (four_octet_as : Bool) : Result (List UInt8) := do
  let (kind,body) ← self.encode_body four_octet_as
  let length := 19 + body.length
  if BGP_MAX_MESSAGE < length then .error ⟨1,2⟩
  else .ok (List.replicate 16 255 ++ be16 (UInt16.ofNat length) ++ [kind] ++ body)

def decode_open (b : List UInt8) : Result BgpMessage :=
  if b.length < 10 || (b.getD 9 0).toNat + 10 ≠ b.length then .error ⟨1,2⟩
  else if b.getD 0 0 ≠ 4 then .error ⟨2,1⟩
  else do
    let capabilities ← while_nonempty decode_parameter [] (b.drop 10)
    let opening : BgpOpen := ⟨u16_at b 1,u16_at b 3,u32_at b 5,capabilities⟩
    opening.validate
    .ok (.Open opening)

def decode_update (b : List UInt8) (four_octet_as : Bool) : Result BgpMessage :=
  if b.length < 4 then .error ⟨3,1⟩
  else
    let count := (u16_at b 0).toNat
    match slice? b 2 count with
    | none => .error ⟨3,1⟩
    | some value => do
      let withdrawn ← decode_prefixes value
      let rest := b.drop (2 + count)
      if rest.length < 2 then .error ⟨3,1⟩
      else
        let count := (u16_at rest 0).toNat
        match slice? rest 2 count with
        | none => .error ⟨3,1⟩
        | some attrs => do
          let announced ← decode_prefixes (rest.drop (2 + count))
          let attributes ← (if attrs.isEmpty then .ok none else (BgpAttributes.decode attrs four_octet_as).map some)
          if !announced.isEmpty && attributes.isNone then .error ⟨3,3⟩
          else .ok (.Update ⟨withdrawn,attributes,announced⟩)

def decode_notification (b : List UInt8) : Result BgpMessage :=
  if b.length < 2 then .error ⟨1,2⟩ else .ok (.Notification (b.getD 0 0) (b.getD 1 0) (b.drop 2))

/-- The arms of the match on the type byte. -/
def decode_body (kind : UInt8) (b : List UInt8) (four_octet_as : Bool) : Result BgpMessage :=
  if kind = 1 then decode_open b
  else if kind = 2 then decode_update b four_octet_as
  else if kind = 3 then decode_notification b
  else if kind = 4 ∧ b.isEmpty then .ok .Keepalive
  else .error ⟨1,2⟩

/-- Decode exactly one complete frame. -/
def decode (bytes : List UInt8) (four_octet_as : Bool) : Result BgpMessage :=
  match message_length bytes with
  | .error error => .error error
  | .ok length =>
    if length ≠ bytes.length then .error ⟨1,2⟩ else decode_body (bytes.getD 18 0) (bytes.drop 19) four_octet_as

end BgpMessage
end Rios.Bgp
