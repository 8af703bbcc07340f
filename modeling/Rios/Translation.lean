import Rios.Dhcp
import Rios.Transport

/-!
# Network address translation

The translation of packets between inside and outside interfaces: static rules
first, then the dynamic table under a pool or an interface-overload rule. Of
interfaces, leases and access lists the model holds what translation reads.
-/

namespace Rios.Translation
open Rios.Machine Rios.Device Rios.Wire Rios.Transport
open Rios.Queue (SimTime)

def NAT_TIMEOUT_MS : UInt64 := 60000
def NAT_PORT_FIRST : UInt16 := 10000
def NAT_PORT_LAST : UInt16 := 60000
def MAX_TRANSLATIONS : Nat := 16384

/-! ### Access lists -/

/-- `AccessListId(u8)`. -/
abbrev AccessListId := UInt8
/-- `AclId(u32)`. -/
abbrev AclId := UInt32

inductive AccessListAction where
  | Permit
  | Deny
deriving DecidableEq

/-- One source-address rule in a standard numbered access list. -/
structure StandardAccessListEntry where
  action : AccessListAction
  source : Ipv4Addr
  wildcard : Ipv4Addr
deriving DecidableEq

def StandardAccessListEntry.matches (self : StandardAccessListEntry) (source : Ipv4Addr) : Bool :=
  source &&& ~~~ self.wildcard = self.source &&& ~~~ self.wildcard

/-- Address selection using wildcard bits. -/
structure AddressMatch where
  address : Ipv4Addr
  wildcard : Ipv4Addr
deriving DecidableEq

/-- Match significant bits, including noncontiguous wildcard masks. -/
def AddressMatch.matches (self : AddressMatch) (address : Ipv4Addr) : Bool :=
  (address ^^^ self.address) &&& ~~~ self.wildcard = 0

inductive PortMatch where
  | Any
  | Eq (value : UInt16)
  | Range (low high : UInt16)
  | Lt (value : UInt16)
  | Gt (value : UInt16)
  | Neq (value : UInt16)
deriving DecidableEq

def PortMatch.matches : PortMatch → UInt16 → Bool
  | .Any,_ => true
  | .Eq value,port => port = value
  | .Range low high,port => low ≤ port && port ≤ high
  | .Lt value,port => port < value
  | .Gt value,port => port > value
  | .Neq value,port => port ≠ value

inductive AclProtocol where
  | Ip
  | Icmp
  | Tcp
  | Udp
deriving DecidableEq

/-- Ordered access-list entry, including nonmatching remarks. -/
inductive AclEntry where
  | Remark (text : String)
  | Rule (action : AccessListAction) (protocol : AclProtocol) (source : AddressMatch) (source_port : PortMatch)
      (destination : AddressMatch) (destination_port : PortMatch)
deriving DecidableEq

def AclProtocol.matches : AclProtocol → UInt8 → Bool
  | .Ip,_ => true
  | .Icmp,number => number = 1
  | .Tcp,number => number = 6
  | .Udp,number => number = 17

/-- Return a decision only when all selectors match. -/
def AclEntry.evaluate (packet : Ipv4Packet) : AclEntry → Option AccessListAction
  | .Remark _ => none
  | .Rule action protocol source source_port destination destination_port =>
    let number := packet.protocol.number
    if !protocol.matches number || !source.matches packet.source || !destination.matches packet.destination then none
    else if source_port ≠ .Any || destination_port ≠ .Any then
      if (number ≠ 6 && number ≠ 17) || packet.payload.length < 4 then none
      else if !source_port.matches (u16_at packet.payload 0) || !destination_port.matches (u16_at packet.payload 2) then none
      else some action
    else some action

/-- A named list with its entries in sequence order. -/
structure AccessList where
  name : String
  entries : OrderedMap UInt32 AclEntry
deriving DecidableEq

/-! ### Rules and table -/

inductive NatRole where
  | Inside
  | Outside
deriving DecidableEq

inductive NatTransport where
  | Tcp
  | Udp
deriving DecidableEq

/-- Transport discriminator in the table. -/
inductive NatProtocol where
  | Icmp
  | Udp
  | Tcp
deriving DecidableEq

/-- Static one-to-one address mapping or transport-port mapping. -/
inductive StaticNat where
  | Address (localAddress globalAddress : Ipv4Addr)
  | Port (protocol : NatTransport) (localAddress : Ipv4Addr) (local_port : UInt16) (globalAddress : Ipv4Addr)
      (global_port : UInt16)
deriving DecidableEq

namespace StaticNat

/-- `StaticNat::global`. -/
def global : StaticNat → Ipv4Addr
  | .Address _ globalAddress => globalAddress
  | .Port _ _ _ globalAddress _ => globalAddress

/-- `StaticNat::local`. -/
def localOf : StaticNat → Ipv4Addr
  | .Address localAddress _ => localAddress
  | .Port _ localAddress _ _ _ => localAddress

/-- The fields in declaration order, behind the place of the variant. -/
def fields : StaticNat → List Nat
  | .Address localAddress globalAddress => [0,localAddress.toNat,globalAddress.toNat]
  | .Port protocol localAddress local_port globalAddress global_port =>
    [1,if protocol = .Tcp then 0 else 1,localAddress.toNat,local_port.toNat,globalAddress.toNat,global_port.toNat]

theorem fields_injective : Function.Injective fields := by
  intro first second same
  cases first <;> cases second
  case Address.Address =>
    simp only [fields,List.cons.injEq,UInt32.toNat_inj,and_true,true_and] at same
    rw [same.1,same.2]
  case Port.Port a _ _ _ _ b _ _ _ _ =>
    simp only [fields,List.cons.injEq,UInt32.toNat_inj,UInt16.toNat_inj,and_true,true_and] at same
    obtain ⟨protocol,rfl,rfl,rfl,rfl⟩ := same
    cases a <;> cases b <;> simp at protocol ⊢
  all_goals simp [fields] at same

/-- The derived `Ord`. -/
instance linearOrder : LinearOrder StaticNat := LinearOrder.lift' fields fields_injective

end StaticNat

/-- Inclusive dynamic pool. -/
structure NatPool where
  first : Ipv4Addr
  last : Ipv4Addr
  prefix_len : UInt8
deriving DecidableEq

/-- A pool rule selected by an access list. -/
structure NatPoolRule where
  access_list : AccessListId
  pool : String
  overload : Bool
deriving DecidableEq

/-- Source translation to the address of one outside interface. -/
structure NatOverloadConfig where
  access_list : AccessListId
  outside_interface : InterfaceId
deriving DecidableEq

/-- A translation decision. -/
inductive NatOutcome where
  | Unchanged
  | Translated
  | Drop
deriving DecidableEq

structure NatStatistics where
  hits : UInt64
  misses : UInt64
  allocations : UInt64
  expired : UInt64
  drops : UInt64
deriving DecidableEq

/-- Both ends of a flow, as one side of the router sees it. -/
structure Flow where
  protocol : NatProtocol
  address : Ipv4Addr
  port : UInt16
  outside_address : Ipv4Addr
  outside_port : UInt16
deriving DecidableEq

/-- One expiring dynamic mapping. -/
structure NatTranslation where
  protocol : NatProtocol
  inside_local_address : Ipv4Addr
  inside_local_port : UInt16
  inside_global_address : Ipv4Addr
  inside_global_port : UInt16
  outside_global_address : Ipv4Addr
  outside_global_port : UInt16
  expires_at : SimTime
deriving DecidableEq

namespace NatTranslation

/-- The flow inside. -/
def inside (self : NatTranslation) : Flow :=
  ⟨self.protocol,self.inside_local_address,self.inside_local_port,self.outside_global_address,self.outside_global_port⟩

/-- The flow outside. -/
def outside (self : NatTranslation) : Flow :=
  ⟨self.protocol,self.inside_global_address,self.inside_global_port,self.outside_global_address,self.outside_global_port⟩

/-- The entry with a new deadline. -/
def refreshed (now : SimTime) (self : NatTranslation) : NatTranslation :=
  { self with expires_at := satAdd64 now (NAT_TIMEOUT_MS * 1000) }

end NatTranslation

/-! ### Packets -/

/-- Protocol, source and destination port, or an ICMP identifier. -/
def outbound_transport (packet : Ipv4Packet) : Option (NatProtocol × UInt16 × UInt16) :=
  match packet.protocol with
  | .Icmp => (IcmpEcho.decode packet.payload).toOption.map (fun echo => (.Icmp,echo.identifier,0))
  | .Udp => (UdpDatagram.decode packet.payload).toOption.map (fun udp => (.Udp,udp.source_port,udp.destination_port))
  | .Tcp => (Tcp.TcpSegment.decode packet.source packet.destination packet.payload).toOption.map
      (fun tcp => (.Tcp,tcp.source_port,tcp.destination_port))
  | _ => none

/-- The transport of a reply: the identifier, or the ports in the other order. -/
def swapped : NatProtocol × UInt16 × UInt16 → NatProtocol × UInt16 × UInt16
  | (protocol,source,destination) => if protocol = .Icmp then (protocol,source,0) else (protocol,destination,source)

def inbound_transport (packet : Ipv4Packet) : Option (NatProtocol × UInt16 × UInt16) :=
  (outbound_transport packet).map swapped

/-- A segment with the port of one side replaced. -/
def tcp_ports (tcp : Tcp.TcpSegment) (port : Option UInt16) (source : Bool) : Tcp.TcpSegment :=
  if source then { tcp with source_port := port.getD tcp.source_port }
  else { tcp with destination_port := port.getD tcp.destination_port }

/-- A datagram with the port of one side replaced. -/
def udp_ports (udp : UdpDatagram) (port : Option UInt16) (source : Bool) : UdpDatagram :=
  if source then { udp with source_port := port.getD udp.source_port }
  else { udp with destination_port := port.getD udp.destination_port }

/-- The packet with another source or destination, and another port on that side. -/
def rewrite (packet : Ipv4Packet) (address : Ipv4Addr) (port : Option UInt16) (source : Bool) : Option Ipv4Packet :=
  let new_source := if source then address else packet.source
  let new_destination := if source then packet.destination else address
  let payload : Option (List UInt8) := match packet.protocol,port with
    | .Tcp,_ => (Tcp.TcpSegment.decode packet.source packet.destination packet.payload).toOption.bind (fun tcp =>
        ((tcp_ports tcp port source).encode new_source new_destination).toOption)
    | .Udp,_ => (UdpDatagram.decode packet.payload).toOption.bind (fun udp => (udp_ports udp port source).encode.toOption)
    | .Icmp,some port => (IcmpEcho.decode packet.payload).toOption.map (fun echo => { echo with identifier := port }.encode)
    | _,none => some packet.payload
    | _,some _ => none
  payload.map (fun payload => { packet with source := new_source, destination := new_destination, payload := payload })

/-- The protocol of a static port rule. -/
def NatTransport.protocol : NatTransport → NatProtocol
  | .Tcp => .Tcp
  | .Udp => .Udp

/-- Whether a static rule translates packets with this address and transport. -/
def StaticNat.matches (rule : StaticNat) (address : Ipv4Addr) (transport : Option (NatProtocol × UInt16 × UInt16))
    (source : Bool) : Bool :=
  (if source then rule.localOf else rule.global) = address &&
    match rule with
    | .Address _ _ => true
    | .Port protocol _ local_port _ global_port => transport.any (fun (kind,port,_) =>
        kind = protocol.protocol && port = (if source then local_port else global_port))

/-! ### The router -/

/-- What translation reads of an interface. -/
structure InterfaceConfig where
  nat_role : Option NatRole
  ipv4 : Option Ipv4InterfaceConfig
  protocol_up : Bool
deriving DecidableEq

inductive NatError where
  | NatUnsupported
  | InvalidNatConfig
  | MissingInterface
deriving DecidableEq

/-- The part of a device that translates addresses. -/
structure Router where
  device_type : DeviceType
  interfaces : OrderedMap InterfaceId InterfaceConfig
  dhcp_leases : OrderedMap InterfaceId Dhcp.DhcpLease
  access_lists : OrderedMap AccessListId (List StandardAccessListEntry)
  named_access_lists : OrderedMap AclId AccessList
  static_nat : OrderedMap StaticNat Unit
  nat_pools : OrderedMap String NatPool
  nat_pool_rule : Option NatPoolRule
  nat_overload : Option NatOverloadConfig
  nat_translations : List NatTranslation
  nat_statistics : NatStatistics
  next_nat_port : UInt16

namespace Router

def new (device_type : DeviceType) : Router :=
  ⟨device_type,∅,∅,∅,∅,∅,∅,none,none,[],⟨0,0,0,0,0⟩,10000⟩

/-- Resolve a named or extended numbered access list. -/
def acl_id (self : Router) (name : String) : Option AclId :=
  (self.named_access_lists.entries.find? (fun entry => entry.2.name = name)).map (·.1)

/-- Evaluate a configured standard access list against one source address. -/
def access_list_permits (self : Router) (id : AccessListId) (source : Ipv4Addr) : Bool :=
  match self.acl_id (toString id.toNat) with
  | some named =>
    let packet : Ipv4Packet := ⟨0,source,0,64,.Other 0,[]⟩
    (self.named_access_lists.get? named).any (fun list =>
      list.entries.values.findSome? (AclEntry.evaluate packet) = some .Permit)
  | none =>
    (self.access_lists.get? id).any (fun entries =>
      (entries.find? (·.matches source)).map (·.action) = some .Permit)

/-- Effective static or DHCP-provided interface address. -/
def interface_ipv4 (self : Router) (interface : InterfaceId) : Option Ipv4InterfaceConfig :=
  (self.interfaces.get? interface).bind (fun config => config.ipv4.or
    ((self.dhcp_leases.get? interface).bind (fun lease =>
      (Ipv4InterfaceConfig.new lease.address lease.prefix_len).toOption)))

def nat_role (self : Router) (interface : InterfaceId) : Option NatRole :=
  (self.interfaces.get? interface).bind (·.nat_role)

/-! ### Configuration -/

def clear_nat_translations (self : Router) : Router := { self with nat_translations := [] }

/-- Classify an interface as inside or outside. -/
def set_nat_role (self : Router) (interface : InterfaceId) (role : NatRole) : Except NatError Unit × Router :=
  if self.device_type ≠ .Router then (.error .NatUnsupported,self)
  else match self.interfaces.get? interface with
    | none => (.error .MissingInterface,self)
    | some config =>
      (.ok (),{ self with interfaces := self.interfaces.insert interface { config with nat_role := some role } })

def validate_nat_acl (self : Router) (id : AccessListId) : Except NatError Unit :=
  if self.device_type ≠ .Router then .error .NatUnsupported
  else if !self.access_lists.contains id && (self.acl_id (toString id.toNat)).isNone then .error .InvalidNatConfig
  else .ok ()

/-- Configure dynamic source translation using an outside interface address. -/
def set_nat_overload (self : Router) (access_list : AccessListId) (outside_interface : InterfaceId) :
    Except NatError Unit × Router :=
  match self.validate_nat_acl access_list with
  | .error error => (.error error,self)
  | .ok () =>
    if !self.interfaces.contains outside_interface then (.error .InvalidNatConfig,self)
    else (.ok (),clear_nat_translations
      { self with nat_overload := some ⟨access_list,outside_interface⟩, nat_pool_rule := none })

/-- `Ipv4Addr::is_multicast`. -/
def is_multicast (address : Ipv4Addr) : Bool := 224 ≤ first_octet address && first_octet address ≤ 239

/-- Two static rules that cannot both be configured. -/
def StaticNat.conflicts (old rule : StaticNat) : Bool :=
  match old,rule with
  | .Port a _ al _ ap,.Port b _ bl _ bp =>
    a = b && ((old.global = rule.global && ap = bp) || (old.localOf = rule.localOf && al = bl))
  | _,_ => old.global = rule.global || old.localOf = rule.localOf

/-- A rule for port zero. -/
def StaticNat.portless : StaticNat → Bool
  | .Port _ _ local_port _ global_port => local_port = 0 || global_port = 0
  | .Address _ _ => false

/-- Add a nonconflicting static address or port translation. -/
def add_static_nat (self : Router) (rule : StaticNat) : Except NatError Unit × Router :=
  if self.device_type ≠ .Router then (.error .NatUnsupported,self)
  else if StaticNat.portless rule then (.error .InvalidNatConfig,self)
  else if self.static_nat.contains rule then (.ok (),self)
  else if 4096 ≤ self.static_nat.size ||
      [rule.localOf,rule.global].any (fun ip => ip = 0 || is_multicast ip || ip = 0xffffffff) then
    (.error .InvalidNatConfig,self)
  else if self.static_nat.keys.any (StaticNat.conflicts · rule) then (.error .InvalidNatConfig,self)
  else (.ok (),clear_nat_translations { self with static_nat := self.static_nat.insert rule () })

/-- `u32::MAX.checked_shr(prefix_len)`, or zero. -/
def host_mask (prefix_len : UInt8) : UInt32 := if prefix_len < 32 then 0xffffffff >>> prefix_len.toUInt32 else 0

/-- An end of a pool that is no host address. -/
def invalid_end (pool : NatPool) (address : Ipv4Addr) : Bool :=
  first_octet address = 0 || first_octet address = 127 || 224 ≤ first_octet address ||
    (pool.prefix_len < 31 && (address &&& host_mask pool.prefix_len = 0 ||
      address &&& host_mask pool.prefix_len = host_mask pool.prefix_len))

/-- Define a bounded inclusive pool inside one subnet. -/
def set_nat_pool (self : Router) (name : String) (pool : NatPool) : Except NatError Unit × Router :=
  if self.device_type ≠ .Router then (.error .NatUnsupported,self)
  else match Ipv4Network.new pool.first pool.prefix_len with
    | .error _ => (.error .InvalidNatConfig,self)
    | .ok network =>
      if (Dhcp.bytes name).isEmpty || 64 < (Dhcp.bytes name).length ||
          !(Dhcp.bytes name).all (fun byte => Dhcp.is_ascii_alphanumeric byte || byte = 95 || byte = 45) ||
          pool.last < pool.first || 65535 < pool.last - pool.first || !network.contains pool.last ||
          [pool.first,pool.last].any (invalid_end pool) ||
          (256 ≤ self.nat_pools.size && !self.nat_pools.contains name) then (.error .InvalidNatConfig,self)
      else (.ok (),clear_nat_translations { self with nat_pools := self.nat_pools.insert name pool })

/-- Select a configured pool for dynamic translation. -/
def set_nat_pool_rule (self : Router) (rule : NatPoolRule) : Except NatError Unit × Router :=
  match self.validate_nat_acl rule.access_list with
  | .error error => (.error error,self)
  | .ok () =>
    if !self.nat_pools.contains rule.pool then (.error .InvalidNatConfig,self)
    else (.ok (),clear_nat_translations { self with nat_pool_rule := some rule, nat_overload := none })

/-! ### Translation -/

def nat_drop (self : Router) : Router :=
  { self with nat_statistics := { self.nat_statistics with drops := satAdd64 self.nat_statistics.drops 1 } }

def nat_hit (self : Router) : Router :=
  { self with nat_statistics := { self.nat_statistics with hits := satAdd64 self.nat_statistics.hits 1 } }

def expire_nat (self : Router) (now : SimTime) : Router :=
  let kept := self.nat_translations.filter (fun entry => now < entry.expires_at)
  { self with
    nat_translations := kept
    nat_statistics := { self.nat_statistics with
      expired := satAdd64 self.nat_statistics.expired
        (UInt64.ofNat (self.nat_translations.length - kept.length)) } }

/-- The first static rule for a packet. -/
def static_rule (self : Router) (packet : Ipv4Packet) (source : Bool) : Option StaticNat :=
  let address := if source then packet.source else packet.destination
  let transport := if source then outbound_transport packet else inbound_transport packet
  self.static_nat.keys.find? (fun rule => rule.matches address transport source)

/-- The packet as a static rule translates it. -/
def translate_static (self : Router) (packet : Ipv4Packet) (source : Bool) : Option Ipv4Packet :=
  (self.static_rule packet source).bind (fun rule =>
    let port := match rule with
      | .Address _ _ => none
      | .Port _ _ local_port _ global_port => some (if source then global_port else local_port)
    rewrite packet (if source then rule.global else rule.localOf) port source)

/-- `(first..=last).find(..)`. -/
def find_address (free : Ipv4Addr → Bool) : Nat → Ipv4Addr → Option Ipv4Addr
  | 0,_ => none
  | count + 1,address => if free address then some address else find_address free count (address + 1)

def pool_address (self : Router) (pool : NatPool) (localAddress : Ipv4Addr) (overload : Bool) : Option Ipv4Addr :=
  match self.nat_translations.find? (fun entry => entry.inside_local_address = localAddress &&
      pool.first ≤ entry.inside_global_address && entry.inside_global_address ≤ pool.last) with
  | some entry => some entry.inside_global_address
  | none => find_address (fun address => !self.static_nat.keys.any (fun rule => rule.global = address) &&
      (overload || !self.nat_translations.any (fun entry => entry.inside_global_address = address)))
        (pool.last.toNat + 1 - pool.first.toNat) pool.first

/-- A port that neither an entry nor a static port rule uses outside. -/
def port_free (self : Router) (port : UInt16) : Bool :=
  !self.nat_translations.any (fun entry => entry.inside_global_port = port) &&
    !self.static_nat.keys.any (fun rule => match rule with
      | .Port _ _ _ _ global_port => global_port = port
      | .Address _ _ => false)

/-- The rounds of `allocate_nat_port`. -/
def allocate_rounds : Nat → Router → Option UInt16 × Router
  | 0,self => (none,self)
  | rounds + 1,self =>
    let port := self.next_nat_port
    let self := { self with next_nat_port := if NAT_PORT_LAST ≤ port then NAT_PORT_FIRST else port + 1 }
    if self.port_free port then (some port,self) else allocate_rounds rounds self

def allocate_nat_port (self : Router) : Option UInt16 × Router :=
  allocate_rounds (NAT_PORT_LAST.toNat + 1 - NAT_PORT_FIRST.toNat) self

/-- The dynamic rule for an egress interface: its access list, its pool, and whether ports are shared. -/
def dynamic_rule (self : Router) (egress : InterfaceId) : Option (AccessListId × Option NatPool × Bool) :=
  match self.nat_pool_rule with
  | some rule => some (rule.access_list,self.nat_pools.get? rule.pool,rule.overload)
  | none => match self.nat_overload with
    | some rule => if rule.outside_interface ≠ egress then none else some (rule.access_list,none,true)
    | none => none

/-- The outside address and port of a new entry, as long as the table has room. -/
def allocate (self : Router) (egress : InterfaceId) (pool : Option NatPool) (overload : Bool) (source : Ipv4Addr)
    (local_port : UInt16) : Option (Ipv4Addr × UInt16) × Router :=
  if MAX_TRANSLATIONS ≤ self.nat_translations.length then (none,self)
  else
    let global := match pool with
      | some pool => self.pool_address pool source overload
      | none => (self.interface_ipv4 egress).map (·.address)
    match global with
    | none => (none,self)
    | some global =>
      let (global_port,self) := if overload then self.allocate_nat_port else (some local_port,self)
      (global_port.map (fun port => (global,port)),self)

/-- Refresh an entry and rewrite the packet with it. -/
def translate_entry (self : Router) (index : Nat) (packet : Ipv4Packet) (now : SimTime) :
    NatOutcome × Ipv4Packet × Router :=
  let self := { self with nat_translations := self.nat_translations.modify index (·.refreshed now) }
  match (self.nat_translations[index]?).bind (fun entry =>
      rewrite packet entry.inside_global_address (some entry.inside_global_port) true) with
  | some translated => (.Translated,translated,self.nat_hit)
  | none => (.Drop,packet,self.nat_drop)

/-- Translate inside-to-outside traffic or explicitly reject exhausted allocations. -/
def nat_outbound (self : Router) (ingress egress : InterfaceId) (packet : Ipv4Packet) (now : SimTime) :
    NatOutcome × Ipv4Packet × Router :=
  if self.nat_role ingress ≠ some .Inside || self.nat_role egress ≠ some .Outside then (.Unchanged,packet,self)
  else match self.translate_static packet true with
  | some translated => (.Translated,translated,self.nat_hit)
  | none => match self.dynamic_rule egress with
  | none => (.Unchanged,packet,self)
  | some (acl,pool,overload) =>
    if !self.access_list_permits acl packet.source then (.Unchanged,packet,self)
    else match outbound_transport packet with
    | none => (.Drop,packet,self.nat_drop)
    | some (protocol,local_port,outside_port) =>
      let self := self.expire_nat now
      match self.nat_translations.findIdx? (fun entry =>
          entry.inside = ⟨protocol,packet.source,local_port,packet.destination,outside_port⟩) with
      | some index => self.translate_entry index packet now
      | none =>
        match self.allocate egress pool overload packet.source local_port with
        | (none,self) => (.Drop,packet,self.nat_drop)
        | (some (global,global_port),self) =>
          let self := { self with
            nat_translations := self.nat_translations ++ [NatTranslation.mk protocol packet.source local_port global
              global_port packet.destination outside_port now]
            nat_statistics := { self.nat_statistics with
              allocations := satAdd64 self.nat_statistics.allocations 1 } }
          self.translate_entry (self.nat_translations.length - 1) packet now

/-- Reverse outside traffic before local delivery or route lookup. -/
def translate_nat_inbound (self : Router) (ingress : InterfaceId) (packet : Ipv4Packet) (now : SimTime) :
    Bool × Ipv4Packet × Router :=
  if self.nat_role ingress ≠ some .Outside then (false,packet,self)
  else match self.translate_static packet false with
  | some translated => (true,translated,self.nat_hit)
  | none =>
    let self := self.expire_nat now
    match inbound_transport packet with
    | none => (false,packet,self)
    | some (protocol,global_port,outside_port) =>
      match self.nat_translations.findIdx? (fun entry =>
          entry.outside = ⟨protocol,packet.destination,global_port,packet.source,outside_port⟩) with
      | none => (false,packet,{ self with
          nat_statistics := { self.nat_statistics with misses := satAdd64 self.nat_statistics.misses 1 } })
      | some index =>
        let self := { self with nat_translations := self.nat_translations.modify index (·.refreshed now) }
        match (self.nat_translations[index]?).bind (fun entry =>
            rewrite packet entry.inside_local_address (some entry.inside_local_port) false) with
        | some translated => (true,translated,self.nat_hit)
        | none => (false,packet,self)

/-- Proxy ARP for configured static global addresses and active pool allocations. -/
def nat_owns_address (self : Router) (interface : InterfaceId) (address : Ipv4Addr) (now : SimTime) : Bool × Router :=
  if self.nat_role interface ≠ some .Outside || !(self.interfaces.get? interface).any (·.protocol_up) then (false,self)
  else
    let self := self.expire_nat now
    (self.static_nat.keys.any (fun rule => rule.global = address) ||
      self.nat_translations.any (fun entry => entry.inside_global_address = address),self)

end Router

/-! ### Runs -/

/-- A call on the router. `configure` stands for every other call, on addresses,
    leases, links and access lists: it leaves whatever it likes there. -/
inductive Operation where
  | set_nat_role (interface : InterfaceId) (role : NatRole)
  | set_nat_overload (access_list : AccessListId) (outside_interface : InterfaceId)
  | add_static_nat (rule : StaticNat)
  | set_nat_pool (name : String) (pool : NatPool)
  | set_nat_pool_rule (rule : NatPoolRule)
  | clear_nat_translations
  | configure (interfaces : OrderedMap InterfaceId InterfaceConfig) (leases : OrderedMap InterfaceId Dhcp.DhcpLease)
      (lists : OrderedMap AccessListId (List StandardAccessListEntry)) (named : OrderedMap AclId AccessList)
  | nat_outbound (ingress egress : InterfaceId) (packet : Ipv4Packet) (now : SimTime)
  | translate_nat_inbound (ingress : InterfaceId) (packet : Ipv4Packet) (now : SimTime)
  | nat_owns_address (interface : InterfaceId) (address : Ipv4Addr) (now : SimTime)
  | show_ip_nat (now : SimTime)

namespace Router

def apply (self : Router) : Operation → Router
  | .set_nat_role interface role => (self.set_nat_role interface role).2
  | .set_nat_overload access_list outside_interface => (self.set_nat_overload access_list outside_interface).2
  | .add_static_nat rule => (self.add_static_nat rule).2
  | .set_nat_pool name pool => (self.set_nat_pool name pool).2
  | .set_nat_pool_rule rule => (self.set_nat_pool_rule rule).2
  | .clear_nat_translations => self.clear_nat_translations
  | .configure interfaces leases lists named =>
    { self with interfaces := interfaces, dhcp_leases := leases, access_lists := lists, named_access_lists := named }
  | .nat_outbound ingress egress packet now => (self.nat_outbound ingress egress packet now).2.2
  | .translate_nat_inbound ingress packet now => (self.translate_nat_inbound ingress packet now).2.2
  | .nat_owns_address interface address now => (self.nat_owns_address interface address now).2
  | .show_ip_nat now => self.expire_nat now

/-- The router after a sequence of calls. -/
def run (device_type : DeviceType) (operations : List Operation) : Router := operations.foldl apply (new device_type)

end Router
end Rios.Translation
