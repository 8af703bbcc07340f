import Rios.NeighborDiscovery
import Rios.Ports

/-!
# IPv6 addresses of interfaces

Addresses are configured, derived from the hardware address, or taken from the
prefixes of Router Advertisements, and each has its lifetimes. Configuration,
advertisements and the clock change them in any order; an advertisement takes at
most what the two-hour rule allows, and no address outlives its preference.
-/

namespace Rios.Ipv6Addresses
open Rios.Machine Rios.Device Rios.Ipv6
open Rios.Ports (InterfaceKind)
open Rios.Queue (SimTime)

def ADDRESS_LIMIT : Nat := 32
def NEIGHBOR_LIMIT : Nat := 4096
def RETRANS_US : UInt64 := 1000000

/-- Addresses are ordered by their numbers. -/
instance addressLinearOrder : LinearOrder Ipv6Addr where
  le_refl := BitVec.le_refl
  le_trans := fun _ _ _ => BitVec.le_trans
  le_antisymm := fun _ _ => BitVec.le_antisymm
  le_total := BitVec.le_total
  lt_iff_le_not_ge := fun a b => by simp only [BitVec.le_def,BitVec.lt_def]; omega
  toDecidableLE := fun a b => inferInstanceAs (Decidable (a ≤ b))
  toDecidableEq := fun a b => inferInstanceAs (Decidable (a = b))
  toDecidableLT := fun a b => inferInstanceAs (Decidable (a < b))

def is_unspecified (address : Ipv6Addr) : Bool := address = 0

/-- Address usability determined by DAD and SLAAC lifetimes. -/
inductive Ipv6AddressState where
  | Tentative
  | Preferred
  | Deprecated
  | Duplicate
deriving DecidableEq

/-- Origin of an IPv6 address, independent of whether it is currently usable. -/
inductive Ipv6AddressOrigin where
  | LinkLocal
  | Manual
  | Slaac
deriving DecidableEq

/-- One configured unicast address retaining its host bits. -/
structure Ipv6InterfaceConfig where
  address : Ipv6Addr
  prefix_len : UInt8
  short : prefix_len ≤ 128
  unicast : (is_unspecified address || is_multicast address) = false

namespace Ipv6InterfaceConfig

theorem eq_iff (first second : Ipv6InterfaceConfig) :
    first.address = second.address ∧ first.prefix_len = second.prefix_len ↔ first = second := by
  constructor
  · rintro ⟨address,length⟩
    cases first
    cases second
    cases address
    cases length
    rfl
  · rintro rfl
    exact ⟨rfl,rfl⟩

instance : DecidableEq Ipv6InterfaceConfig := fun first second => decidable_of_iff _ (eq_iff first second)

/-- `Ipv6InterfaceConfig::new`, whose errors no caller here reads. -/
def new (address : Ipv6Addr) (prefix_len : UInt8) : Option Ipv6InterfaceConfig :=
  if short : prefix_len ≤ 128 then
    if unicast :
    (is_unspecified address || is_multicast address) = false then some ⟨address,prefix_len,short,unicast⟩ else none
  else none

def network (self : Ipv6InterfaceConfig) : Ipv6Network where
  address := self.address &&& mask self.prefix_len
  prefix_len := self.prefix_len
  short := self.short
  canonical := by rw [BitVec.and_assoc,BitVec.and_self]

end Ipv6InterfaceConfig

/-- One address and its deterministic DAD and validity deadlines. -/
structure Ipv6AddressEntry where
  address : Ipv6InterfaceConfig
  state : Ipv6AddressState
  origin : Ipv6AddressOrigin
  preferred_until : Option SimTime
  valid_until : Option SimTime
  dad_due : Option SimTime
  dad_sent : Bool
deriving DecidableEq

/-- RFC 4861 neighbor-unreachability states. -/
inductive Ipv6NeighborState where
  | Incomplete
  | Reachable
  | Stale
  | Delay
  | Probe
deriving DecidableEq

/-- An interface-scoped cache entry; link-local addresses never share entries across links. -/
structure Ipv6Neighbor where
  interface : InterfaceId
  address : Ipv6Addr
  mac : Option MacAddress
  state : Ipv6NeighborState
  router : Bool
  deadline : SimTime
  probes : UInt8
deriving DecidableEq

/-- A control packet emitted by the device for virtual Ethernet transmission. -/
structure Ipv6ControlPacket where
  interface : InterfaceId
  destination_mac : MacAddress
  packet : Ipv6Packet
deriving DecidableEq

structure InterfaceRuntime where
  addresses : OrderedMap Ipv6Addr Ipv6AddressEntry
  ra_due : SimTime
  ra_last : Option SimTime
  rs_due : Option SimTime
  rs_count : UInt8

/-- `InterfaceRuntime::default`. -/
def InterfaceRuntime.default : InterfaceRuntime := ⟨∅,0,none,some 0,0⟩

structure Ipv6Runtime where
  interfaces : OrderedMap InterfaceId InterfaceRuntime
  neighbors : OrderedMap (InterfaceId ×ₗ Ipv6Addr) Ipv6Neighbor
  routers : OrderedMap (InterfaceId ×ₗ Ipv6Addr) SimTime
  prefixes : OrderedMap (InterfaceId ×ₗ Ipv6Network) SimTime

/-- The OSPFv3 settings that a policy is checked for. -/
structure OspfSettings where
  process_id : Option UInt16
  cost : UInt16
  hello_interval : UInt16
  dead_interval : UInt32
deriving DecidableEq

/-- Persistent IPv6 policy for one routed interface. Its addresses are listed in their order. -/
structure Ipv6InterfacePolicy where
  ospf : OspfSettings
  enabled : Bool
  addresses : List Ipv6InterfaceConfig
  link_local : Option Ipv6Addr
  autoconfig : Bool
  ra_suppress : Bool
deriving DecidableEq

def Ipv6InterfacePolicy.active (self : Ipv6InterfacePolicy) : Bool :=
  self.enabled || self.autoconfig || self.link_local.isSome || !self.addresses.isEmpty

/-- An interface with the part of its configuration that IPv6 reads. -/
structure Port where
  kind : InterfaceKind
  mac_address : MacAddress
  mtu : UInt16
  switchport : Bool
  channel_member : Bool
  parent : Option InterfaceId
  ipv6 : Ipv6InterfacePolicy
deriving DecidableEq

structure Device where
  device_type : DeviceType
  ipv6_unicast_routing : Bool
  ports : OrderedMap InterfaceId Port
  ipv6 : Ipv6Runtime

inductive DeviceError where
  | InvalidIpv6Config
  | MissingInterface
  | NotRoutedPort
deriving DecidableEq

def after (now : SimTime) (seconds : UInt32) : SimTime := satAdd64 now (seconds.toUInt64 * 1000000)
/-- The largest `u32` stands for infinity. -/
def lifetime (now : SimTime) (seconds : UInt32) :
    Option SimTime := if seconds ≠ 0xffffffff then some (after now seconds) else none

/-- Ethernet Modified EUI-64 interface identifier. -/
def interface_identifier (mac : MacAddress) : UInt64 :=
  let octet (i : Nat) := mac.octets.toList.getD i 0
  UInt64.ofNat ([octet 0 ^^^ 2,octet 1,octet 2,0xff,0xfe,octet 3,octet 4,octet 5].foldl (fun value octet => value * 256 + octet.toNat) 0)

/-- Automatic link-local address for a simulated Ethernet interface. -/
def link_local (mac : MacAddress) :
    Ipv6Addr := BitVec.ofNat 128 (0xfe80 <<< 112) ||| BitVec.ofNat 128 (interface_identifier mac).toNat

/-- Solicited-node multicast group for address resolution and DAD. -/
def solicited_node (address : Ipv6Addr) :
    Ipv6Addr := 0xff0200000000000000000001ff000000#128 ||| (address &&& 0x00ffffff#128)

/-- RFC 2464 Ethernet mapping for an IPv6 multicast destination. -/
def multicast_mac (address : Ipv6Addr) : Option MacAddress :=
  if !is_multicast address then none
  else
    let octet (i : Nat) := UInt8.ofNat (address.toNat / 256 ^ (15 - i))
    some ⟨#v[0x33,0x33,octet 12,octet 13,octet 14,octet 15]⟩

def ALL_NODES : Ipv6Addr := 0xff020000000000000000000000000001#128
def ALL_ROUTERS : Ipv6Addr := 0xff020000000000000000000000000002#128

/-- Whether packets may use an address. -/
def Ipv6AddressEntry.usable (self : Ipv6AddressEntry) : Bool := self.state = .Preferred || self.state = .Deprecated

/-! ### Addresses of one interface -/

namespace InterfaceRuntime

/-- The addresses that the configuration asks for; the link-local one is written last. -/
def wanted (port : Port) : OrderedMap Ipv6Addr (Ipv6InterfaceConfig × Ipv6AddressOrigin) :=
  let link := port.ipv6.link_local.getD (link_local port.mac_address)
  let manual :=
      OrderedMap.ofList (port.ipv6.addresses.map (fun address => (address.address,(address,Ipv6AddressOrigin.Manual))))
  match Ipv6InterfaceConfig.new link 64 with
  | some address => manual.insert link (address,.LinkLocal)
  | none => manual

/-- Whether an address is still configured or advertised. -/
def retained (port : Port) (now : SimTime) (ip : Ipv6Addr) (entry : Ipv6AddressEntry) : Bool :=
  (((wanted port).get? ip).any (fun asked => asked.1 = entry.address && asked.2 = entry.origin) ||
    (!(wanted port).contains ip && entry.origin = .Slaac && port.ipv6.autoconfig)) &&
    entry.valid_until.all (now < ·)

/-- A configured address starts with detection of duplicates, except on loopbacks. -/
def configured (port : Port) (now : SimTime) (asked : Ipv6InterfaceConfig × Ipv6AddressOrigin) : Ipv6AddressEntry :=
  ⟨asked.1,if port.kind = .Loopback then .Preferred else .Tentative,asked.2,none,none,
    if port.kind = .Loopback then none else some now,false⟩

/-- `entry(ip).or_insert`. -/
def or_insert (port : Port) (now : SimTime) (addresses : OrderedMap Ipv6Addr Ipv6AddressEntry)
    (asked : Ipv6Addr × Ipv6InterfaceConfig × Ipv6AddressOrigin) : OrderedMap Ipv6Addr Ipv6AddressEntry :=
  if addresses.contains asked.1 then addresses else addresses.insert asked.1 (configured port now asked.2)

/-- An address whose preference is over. -/
def outlived (now : SimTime) (entry : Ipv6AddressEntry) : Ipv6AddressEntry :=
  if entry.state = .Preferred && entry.preferred_until.any (· ≤ now) then { entry with state := .Deprecated } else entry

/-- The round of `ipv6_prepare` for one interface. -/
def prepare (self : InterfaceRuntime) (port : Port) (now : SimTime) : InterfaceRuntime :=
  { self with
    addresses := ((wanted port).entries.foldl (or_insert port now) (self.addresses.retain (retained port now))).mapValues
      (fun _ entry => outlived now entry) }

/-- The usable link-local address. -/
def link_local_address (self : InterfaceRuntime) : Option Ipv6Addr :=
  (self.addresses.values.find? (fun entry => entry.origin = .LinkLocal && entry.usable)).map (·.address.address)

/-- One address in the round of `ipv6_dad`, and whether it is probed. -/
def dad_address (now : SimTime) (entry : Ipv6AddressEntry) : Ipv6AddressEntry × Bool :=
  if entry.state ≠ .Tentative || entry.dad_due.all (now < ·) then (entry,false)
  else if !entry.dad_sent then ({ entry with dad_sent := true, dad_due := some (satAdd64 now RETRANS_US) },true)
  else ({ entry with
    state := if entry.preferred_until.any (· ≤ now) then .Deprecated else .Preferred, dad_due := none },false)

/-- A duplicate link-local address stops the detection. -/
def local_duplicate (self : InterfaceRuntime) : Bool :=
  self.addresses.values.any (fun entry => entry.origin = .LinkLocal && entry.state = .Duplicate)

def dad (self : InterfaceRuntime) (now : SimTime) : InterfaceRuntime :=
  if self.local_duplicate then self
  else { self with addresses := self.addresses.mapValues (fun _ entry => (dad_address now entry).1) }

/-- The addresses that the round probes. -/
def probes (self : InterfaceRuntime) (now : SimTime) : List Ipv6Addr :=
  if self.local_duplicate then [] else (self.addresses.entries.filter (fun entry => (dad_address now entry.2).2)).map (·.1)

/-- The networks that a router advertises. -/
def advertised (self : InterfaceRuntime) : List Ipv6Network :=
  (OrderedMap.ofList ((self.addresses.values.filter (fun entry => entry.origin = .Manual && entry.usable)).map
    (fun entry => (entry.address.network,())))).keys

/-- The round of `ipv6_router_timers` for one interface, with the message that is due. -/
def router_timer (self : InterfaceRuntime) (forwarding : Bool) (port : Port) (now : SimTime) :
    InterfaceRuntime × Option (Ipv6Addr × NdMessage) :=
  if forwarding && !port.ipv6.ra_suppress && self.ra_due ≤ now then
    ({ self with ra_last := some now, ra_due := after now 200 },
      some (ALL_NODES,.RouterAdvertisement 64 false false 1800 0 0
        ([.SourceLinkLayer port.mac_address,.Mtu port.mtu.toUInt32] ++
          self.advertised.map (fun network => .Prefix ⟨network,true,network.prefix_len = 64,86400,14400⟩))))
  else if !forwarding && self.rs_count < 3 && self.rs_due.any (· ≤ now) then
    ({ self with rs_count := self.rs_count + 1, rs_due := some (after now 4) },
      some (ALL_ROUTERS,.RouterSolicitation [.SourceLinkLayer port.mac_address]))
  else (self,none)

/-- Interfaces without a usable link-local address and loopbacks send nothing. -/
def router_timer_at (self : InterfaceRuntime) (forwarding : Bool) (port : Option Port) (now : SimTime) :
    InterfaceRuntime × Option (Ipv6Addr × Ipv6Addr × NdMessage) :=
  match self.link_local_address,port with
  | some source,some port =>
    if port.kind = .Loopback then (self,none)
    else ((self.router_timer forwarding port now).1,(self.router_timer forwarding port now).2.map (source,·))
  | _,_ => (self,none)

end InterfaceRuntime

/-! ### Prefixes of an advertisement -/

namespace Ipv6AddressEntry

/-- The seconds that an address stays valid. -/
def remaining (self : Ipv6AddressEntry) (now : SimTime) : UInt64 :=
  self.valid_until.elim 0xffffffffffffffff (fun limit => satSub64 limit now / 1000000)

/-- What a prefix option does to an address of that prefix. -/
def refresh (self : Ipv6AddressEntry) (info : PrefixInformation) (now : SimTime) : Ipv6AddressEntry :=
  { self with
    valid_until :=
      if 7200 < info.valid_lifetime || self.remaining now < info.valid_lifetime.toUInt64 then lifetime now info.valid_lifetime
      else if 7200 < self.remaining now then some (after now 7200)
      else self.valid_until
    preferred_until := lifetime now info.preferred_lifetime
    state := if self.usable then (if info.preferred_lifetime = 0 then .Deprecated else .Preferred) else self.state }

end Ipv6AddressEntry

/-- The addresses after a prefix option for one of them. -/
def autoconfigure (addresses : OrderedMap Ipv6Addr Ipv6AddressEntry) (address : Ipv6Addr) (info : PrefixInformation)
    (now : SimTime) : OrderedMap Ipv6Addr Ipv6AddressEntry :=
  match addresses.get? address with
  | some existing => if existing.origin ≠ .Slaac then addresses else addresses.insert address (existing.refresh info now)
  | none =>
    if 0 < info.valid_lifetime && addresses.size < ADDRESS_LIMIT then
      match Ipv6InterfaceConfig.new address 64 with
      | some config => addresses.insert config.address
          ⟨config,.Tentative,.Slaac,lifetime now info.preferred_lifetime,lifetime now info.valid_lifetime,some now,false⟩
      | none => addresses
    else addresses

/-! ### Neighbors -/

namespace Ipv6Neighbor

/-- The round of `ipv6_neighbor_timers` for one neighbor: whether it goes, after failed probes or not, and whether it
    is solicited. -/
def expire (self : Ipv6Neighbor) (now : SimTime) : Ipv6Neighbor × Option Bool × Bool :=
  if now < self.deadline then (self,none,false)
  else
    let aged := match self.state with
      | .Reachable => { self with state := .Stale, deadline := after now 300 }
      | .Delay => { self with state := .Probe, probes := 0, deadline := now }
      | _ => self
    if self.state = .Stale then (self,some false,false)
    else if aged.state = .Incomplete || aged.state = .Probe then
      if 3 ≤ aged.probes then (aged,some true,false)
      else ({ aged with probes := aged.probes + 1, deadline := satAdd64 now RETRANS_US },none,true)
    else (aged,none,false)

/-- What an advertisement of a neighbor changes; none where the code returns early. -/
def advertise (self : Ipv6Neighbor) (mac : Option MacAddress) (router solicited override_flag : Bool) (now : SimTime) :
    Ipv6Neighbor × Bool :=
  if mac.any (fun mac => Ports.is_multicast mac || mac = ⟨Vector.replicate 6 0⟩) then (self,false)
  else if self.state = .Incomplete && mac.isNone then (self,false)
  else if !override_flag && self.mac.isSome && mac.isSome && self.mac ≠ mac then
    (if self.state = .Reachable then { self with state := .Stale, deadline := after now 300 } else self,false)
  else
    let changed := mac.isSome && mac ≠ self.mac
    let learned := { self with mac := mac.or self.mac }
    let moved :=
      if solicited then { learned with state := .Reachable, deadline := after now 30 }
      else if changed || learned.state = .Incomplete then { learned with state := .Stale, deadline := after now 300 }
      else learned
    ({ moved with probes := 0, router },true)

end Ipv6Neighbor

/-! ### Checks on messages -/

/-- `NdMessage::validate`. -/
def validate (message : NdMessage) (source destination : Ipv6Addr) (hop_limit : UInt8) : Bool :=
  let source_option := message.options.any (fun | .SourceLinkLayer _ => true | _ => false)
  hop_limit = 255 && !is_multicast source &&
    match message with
    | .RouterAdvertisement .. => is_unicast_link_local source
    | .RouterSolicitation .. => !(is_unspecified source && source_option)
    | .NeighborSolicitation target _ =>
      !(is_multicast target || is_unspecified target ||
        (is_unspecified source && (source_option || destination ≠ solicited_node target)))
    | .NeighborAdvertisement target _ solicited _ _ =>
      !(is_unspecified source || is_multicast target || is_unspecified target || (solicited && is_multicast destination))

/-- The hardware address that the sender gives. -/
def source_link_layer (message : NdMessage) : Option MacAddress :=
  message.options.findSome? (fun | .SourceLinkLayer mac => some mac | _ => none)

def target_link_layer (options : List NdOption) : Option MacAddress :=
  options.findSome? (fun | .TargetLinkLayer mac => some mac | _ => none)

namespace Device

/-- A device without IPv6 state. -/
def new (device_type : DeviceType) (ports : OrderedMap InterfaceId Port) : Device := ⟨device_type,false,ports,⟨∅,∅,∅,∅⟩⟩

/-- Effective IPv6 forwarding switch; hosts and Layer 2 switches cannot route transit packets. -/
def ipv6_forwarding_enabled (self : Device) : Bool := self.device_type.supports_routing && self.ipv6_unicast_routing

/-- The interfaces that run IPv6, given which protocols are up. -/
def active (self : Device) (up : InterfaceId → Bool) : OrderedMap InterfaceId Port :=
  self.ports.retain (fun id port => port.ipv6.active && !port.switchport && up id)

/-- Operational addresses and lifetime expiry. The loop writes each active interface once. -/
def ipv6_prepare (self : Device) (up : InterfaceId → Bool) (now : SimTime) : Device :=
  let active := self.active up
  { self with ipv6 := {
      interfaces := active.mapValues (fun id port => ((self.ipv6.interfaces.get? id).getD .default).prepare port now)
      neighbors := self.ipv6.neighbors.retain (fun key _ => active.contains (ofLex key).1)
      routers := self.ipv6.routers.retain (fun key limit => active.contains (ofLex key).1 && now < limit)
      prefixes := self.ipv6.prefixes.retain (fun key limit => active.contains (ofLex key).1 && now < limit) } }

def ipv6_link_local (self : Device) (id : InterfaceId) : Option Ipv6Addr :=
  (self.ipv6.interfaces.get? id).bind (·.link_local_address)

/-- Whether an interface answers for an address. -/
def ipv6_owns (self : Device) (up : InterfaceId → Bool) (address : Ipv6Addr) (interface : InterfaceId) : Bool :=
  up interface && (self.ipv6_link_local interface).isSome &&
    ((self.ipv6.interfaces.get? interface).bind (·.addresses.get? address)).any (·.usable)

def ipv6_control (interface : InterfaceId) (source destination : Ipv6Addr) (mac : Option MacAddress)
    (message : NdMessage) :
    Option Ipv6ControlPacket :=
  match mac.or (multicast_mac destination),(Icmpv6Message.Neighbor message).encode source destination with
  | some destination_mac,.ok payload => some ⟨interface,destination_mac,⟨source,destination,0,0,255,.Icmpv6,payload⟩⟩
  | _,_ => none

/-- Duplicate address detection: a round of probes. -/
def ipv6_dad (self : Device) (now : SimTime) : Device × List Ipv6ControlPacket :=
  ({ self with ipv6 := { self.ipv6 with interfaces := self.ipv6.interfaces.mapValues (fun _ runtime => runtime.dad now) } },
    (self.ipv6.interfaces.entries.flatMap (fun entry => (entry.2.probes now).map (fun ip => (entry.1,ip)))).filterMap (fun probe =>
      ipv6_control probe.1 0 (solicited_node probe.2) none (.NeighborSolicitation probe.2 [])))

/-- Reachability probes and the removal of neighbors; a router that fails its probes is no default router. -/
def ipv6_neighbor_timers (self : Device) (now : SimTime) : Device × List Ipv6ControlPacket :=
  let removed :=
      self.ipv6.neighbors.entries.filterMap (fun entry => (entry.2.expire now).2.1.map (fun failed => (entry.1,failed)))
  let aged := self.ipv6.neighbors.mapValues (fun _ neighbor => (neighbor.expire now).1)
  ({ self with ipv6 := { self.ipv6 with
      neighbors := aged.retain (fun key _ => !removed.any (fun gone => gone.1 = key))
      routers := self.ipv6.routers.retain (fun key _ => !removed.any (fun gone => gone.1 = key && gone.2)) } },
    (self.ipv6.neighbors.entries.filter (fun entry => (entry.2.expire now).2.2)).filterMap (fun entry =>
      let target := (ofLex entry.1).2
      let neighbor := (entry.2.expire now).1
      let mac := if neighbor.state = .Probe then neighbor.mac else none
      match self.ipv6_link_local (ofLex entry.1).1,self.ports.get? (ofLex entry.1).1 with
      | some source,some port =>
        ipv6_control (ofLex entry.1).1 source (if mac.isSome then target else solicited_node target) mac
          (.NeighborSolicitation target [.SourceLinkLayer port.mac_address])
      | _,_ => none))

/-- Router solicitations of hosts and periodic advertisements of routers. -/
def ipv6_router_timers (self : Device) (now : SimTime) : Device × List Ipv6ControlPacket :=
  let forwarding := self.ipv6_forwarding_enabled
  ({ self with ipv6 := { self.ipv6 with
      interfaces :=
      self.ipv6.interfaces.mapValues (fun id runtime => (runtime.router_timer_at forwarding (self.ports.get? id) now).1) } },
    self.ipv6.interfaces.entries.filterMap (fun entry =>
      (entry.2.router_timer_at forwarding (self.ports.get? entry.1) now).2.bind (fun (source,destination,message) =>
        ipv6_control entry.1 source destination none message)))

/-- DAD, neighbor reachability and RA/RS timers produce real packets for the lab. -/
def ipv6_tick (self : Device) (up : InterfaceId → Bool) (now : SimTime) : Device × List Ipv6ControlPacket :=
  let (self,probes) := (self.ipv6_prepare up now).ipv6_dad now
  let (self,solicitations) := self.ipv6_neighbor_timers now
  let (self,routers) := self.ipv6_router_timers now
  (self,probes ++ solicitations ++ routers)

def ipv6_learn_neighbor (self : Device) (id : InterfaceId) (address : Ipv6Addr) (mac : MacAddress) (router : Bool)
    (now : SimTime) :
    Device :=
  if is_unspecified address || is_multicast address || Ports.is_multicast mac || mac = ⟨Vector.replicate 6 0⟩ then self
  else
    let key := toLex (id,address)
    match self.ipv6.neighbors.get? key with
    | none =>
      if NEIGHBOR_LIMIT ≤ self.ipv6.neighbors.size then self
      else { self with ipv6 := { self.ipv6 with
        neighbors := self.ipv6.neighbors.insert key ⟨id,address,some mac,.Stale,router,after now 300,0⟩ } }
    | some entry =>
      let learned := if entry.mac ≠ some mac || entry.state = .Incomplete then
          { entry with mac := some mac, state := .Stale, deadline := after now 300 } else entry
      { self with ipv6 := { self.ipv6 with
        neighbors := self.ipv6.neighbors.insert key { learned with router := learned.router || router } } }

/-- Return a cached MAC or begin bounded multicast address resolution. -/
def ipv6_resolve_neighbor (self : Device) (id : InterfaceId) (address : Ipv6Addr) (now : SimTime) :
    Option MacAddress × Device :=
  if (self.ipv6_link_local id).isNone then (none,self)
  else
    match multicast_mac address with
    | some mac => (some mac,self)
    | none =>
      let key := toLex (id,address)
      if !self.ipv6.neighbors.contains key && NEIGHBOR_LIMIT ≤ self.ipv6.neighbors.size then (none,self)
      else
        let neighbor := (self.ipv6.neighbors.get? key).getD ⟨id,address,none,.Incomplete,false,now,0⟩
        let aged :=
        if neighbor.state = .Reachable && neighbor.deadline ≤ now then { neighbor with state := .Stale } else neighbor
        let used := if aged.state = .Stale then { aged with state := .Delay, deadline := after now 5 } else aged
        (used.mac,{ self with ipv6 := { self.ipv6 with neighbors := self.ipv6.neighbors.insert key used } })

/-- A tentative address that another node uses is given up. -/
def ipv6_duplicate (self : Device) (id : InterfaceId) (target : Ipv6Addr) : Bool × Device :=
  match self.ipv6.interfaces.get? id with
  | none => (false,self)
  | some runtime =>
    match runtime.addresses.get? target with
    | none => (false,self)
    | some entry =>
      if entry.state = .Tentative then
        let given_up : Ipv6AddressEntry := { entry with state := .Duplicate, dad_due := none }
        (true,{ self with ipv6 := { self.ipv6 with
          interfaces :=
          self.ipv6.interfaces.insert id { runtime with addresses := runtime.addresses.insert target given_up } } })
      else (false,self)

/-! ### Advertisements -/

/-- The on-link part of a prefix option. -/
def on_link_prefix (self : Device) (id : InterfaceId) (info : PrefixInformation) (now : SimTime) : Device :=
  let key := toLex (id,info.network)
  if !info.on_link then self
  else if info.valid_lifetime = 0 then { self with ipv6 := { self.ipv6 with prefixes := self.ipv6.prefixes.erase key } }
  else if self.ipv6.prefixes.size < 4096 || self.ipv6.prefixes.contains key then
    { self with ipv6 := { self.ipv6 with
      prefixes := self.ipv6.prefixes.insert key ((lifetime now info.valid_lifetime).getD 0xffffffffffffffff) } }
  else self

/-- The autonomous part of a prefix option. -/
def autonomous_address (self : Device) (id : InterfaceId) (info : PrefixInformation) (now : SimTime) : Device :=
  match self.ports.get? id,self.ipv6.interfaces.get? id with
  | some port,some runtime =>
    if !port.ipv6.autoconfig || !info.autonomous || info.network.prefix_len ≠ 64 then self
    else
      let address := info.network.address ||| BitVec.ofNat 128 (interface_identifier port.mac_address).toNat
      { self with ipv6 := { self.ipv6 with
        interfaces :=
        self.ipv6.interfaces.insert id { runtime with addresses := autoconfigure runtime.addresses address info now } } }
  | _,_ => self

/-- One option of an advertisement. -/
def ra_option (id : InterfaceId) (source : Ipv6Addr) (now : SimTime) (self : Device) : NdOption → Device
  | .SourceLinkLayer mac => self.ipv6_learn_neighbor id source mac true now
  | .Prefix info =>
    if is_unicast_link_local info.network.address || is_multicast info.network.address || info.valid_lifetime <
      info.preferred_lifetime then self
    else (self.on_link_prefix id info now).autonomous_address id info now
  | _ => self

/-- The default routers after an advertisement. -/
def advertised_router (self : Device) (id : InterfaceId) (source : Ipv6Addr) (router_lifetime : UInt16) (now : SimTime) :
    Device :=
  let key := toLex (id,source)
  if router_lifetime = 0 then { self with ipv6 := { self.ipv6 with routers := self.ipv6.routers.erase key } }
  else if self.ipv6.routers.size < 256 || self.ipv6.routers.contains key then
    { self with ipv6 := { self.ipv6 with routers := self.ipv6.routers.insert key (after now router_lifetime.toUInt32) } }
  else self

/-- An answer to router solicitations ends them. -/
def solicited (self : Device) (id : InterfaceId) : Device :=
  match self.ipv6.interfaces.get? id with
  | none => self
  | some runtime => { self with ipv6 := { self.ipv6 with
      interfaces := self.ipv6.interfaces.insert id { runtime with rs_due := none, rs_count := 3 } } }

def ipv6_receive_ra (self : Device) (id : InterfaceId) (source : Ipv6Addr) (message : NdMessage) (now : SimTime) :
    Device :=
  if self.ipv6_forwarding_enabled then self
  else
    match message with
    | .RouterAdvertisement _ _ _ router_lifetime _ _ options =>
      (options.foldl (ra_option id source now) (self.advertised_router id source router_lifetime now)).solicited id
    | _ => self

/-! ### Messages -/

/-- The answer to a solicitation of a neighbor. -/
def receive_solicitation (self : Device) (up : InterfaceId → Bool) (id : InterfaceId) (port : Port) (packet : Ipv6Packet)
    (source_mac : MacAddress) (source_option : Option MacAddress) (target : Ipv6Addr) (now : SimTime) :
    Device × Option (List Ipv6ControlPacket) :=
  match self.ipv6_duplicate id target with
  | (true,self) => (self,none)
  | (false,self) =>
    if !self.ipv6_owns up target id then (self,none)
    else
      let self := source_option.elim self (fun mac => self.ipv6_learn_neighbor id packet.source mac false now)
      let dad := is_unspecified packet.source
      (self,some (ipv6_control id target (if dad then ALL_NODES else packet.source) (if dad then none else some source_mac)
        (.NeighborAdvertisement target self.ipv6_forwarding_enabled (!dad) true [.TargetLinkLayer port.mac_address])).toList)

/-- An advertisement of a neighbor, and whether the code gets past it. -/
def receive_advertisement (self : Device) (id : InterfaceId) (target : Ipv6Addr) (router solicited override_flag : Bool)
    (options : List NdOption) (now : SimTime) : Device × Bool :=
  match self.ipv6_duplicate id target with
  | (true,self) => (self,false)
  | (false,self) =>
    let key := toLex (id,target)
    match self.ipv6.neighbors.get? key with
    | none => (self,false)
    | some neighbor =>
      let (updated,complete) := neighbor.advertise (target_link_layer options) router solicited override_flag now
      ({ self with ipv6 := { self.ipv6 with
          neighbors := self.ipv6.neighbors.insert key updated
          routers :=
          if complete && neighbor.router && !router then self.ipv6.routers.erase key else self.ipv6.routers } },complete)

/-- A solicitation of routers brings the next advertisement forward. -/
def receive_router_solicitation (self : Device) (id : InterfaceId) (port : Port) (source : Ipv6Addr)
    (source_option : Option MacAddress) (now : SimTime) : Device :=
  if self.ipv6_forwarding_enabled && !port.ipv6.ra_suppress then
    let self := source_option.elim self (fun mac => self.ipv6_learn_neighbor id source mac false now)
    match self.ipv6.interfaces.get? id with
    | none => self
    | some runtime => { self with ipv6 := { self.ipv6 with
        interfaces := self.ipv6.interfaces.insert id
          { runtime with ra_due := min runtime.ra_due (max (runtime.ra_last.elim now (after · 3)) now) } } }
  else self

/-- Whether a packet to this destination is taken. -/
def listens (self : Device) (runtime : InterfaceRuntime) (destination : Ipv6Addr) : Bool :=
  !is_multicast destination || destination = ALL_NODES || (destination = ALL_ROUTERS && self.ipv6_forwarding_enabled) ||
    runtime.addresses.keys.any (fun address => solicited_node address = destination)

/-- Process a validated ND message. All responses still have to cross virtual links. -/
def receive_ipv6_nd (self : Device) (up : InterfaceId → Bool) (id : InterfaceId) (packet : Ipv6Packet)
    (source_mac : MacAddress) (message : NdMessage) (now : SimTime) : Device × List Ipv6ControlPacket :=
  let self := self.ipv6_prepare up now
  match self.ipv6.interfaces.get? id,self.ports.get? id with
  | some runtime,some port =>
    if source_mac = port.mac_address || !validate message packet.source packet.destination packet.hop_limit ||
        !self.listens runtime packet.destination then (self,[])
    else
      let finish (self : Device) (out : List Ipv6ControlPacket) :=
        let (self,more) := self.ipv6_tick up now
        (self,out ++ more)
      match message with
      | .NeighborSolicitation target _ =>
        match self.receive_solicitation up id port packet source_mac (source_link_layer message) target now with
        | (self,none) => (self,[])
        | (self,some out) => finish self out
      | .NeighborAdvertisement target router solicited override_flag options =>
        match self.receive_advertisement id target router solicited override_flag options now with
        | (self,false) => (self,[])
        | (self,true) => finish self []
      | .RouterSolicitation _ => finish (self.receive_router_solicitation id port packet.source (source_link_layer message) now) []
      | .RouterAdvertisement .. => finish (self.ipv6_receive_ra id packet.source message now) []
  | _,_ => (self,[])

/-! ### Configuration -/

/-- An interface and its subinterfaces lose their IPv6 state. -/
def reset_ipv6_interface (self : Device) (id : InterfaceId) : Device :=
  let gone := self.ports.retain (fun key port => key = id || port.parent = some id)
  { self with ipv6 := {
      interfaces := self.ipv6.interfaces.retain (fun key _ => !gone.contains key)
      neighbors := self.ipv6.neighbors.retain (fun key _ => !gone.contains (ofLex key).1)
      routers := self.ipv6.routers.retain (fun key _ => !gone.contains (ofLex key).1)
      prefixes := self.ipv6.prefixes.retain (fun key _ => !gone.contains (ofLex key).1) } }

def set_ipv6_routing (self : Device) (enabled : Bool) : Except DeviceError Unit × Device :=
  if !self.device_type.supports_routing then (.error .InvalidIpv6Config,self)
  else (.ok (),{ self with ipv6_unicast_routing := enabled })

/-- The checks on the values of a policy. -/
def policy_valid (self : Device) (port : Port) (policy : Ipv6InterfacePolicy) : Bool :=
  !(policy.ospf.process_id = some 0 || policy.ospf.cost = 0 || policy.ospf.hello_interval = 0 || policy.ospf.dead_interval = 0 ||
    65535 < policy.ospf.dead_interval || (policy.ospf.process_id.isSome && !self.device_type.supports_routing) ||
    port.mtu < 1280 || ADDRESS_LIMIT - 1 < policy.addresses.length ||
    policy.addresses.any (fun address => is_unicast_link_local address.address) ||
    policy.link_local.any (fun ip => !is_unicast_link_local ip))

/-- The addresses that a new policy keeps. -/
def policy_keeps (port : Port) (policy : Ipv6InterfacePolicy) (entry : Ipv6AddressEntry) : Bool :=
  match entry.origin with
  | .Manual => policy.addresses.contains entry.address
  | .Slaac => policy.autoconfig
  | .LinkLocal => entry.address.address = policy.link_local.getD (link_local port.mac_address)

def set_ipv6_policy (self : Device) (id : InterfaceId) (policy : Ipv6InterfacePolicy) :
    Except DeviceError Unit × Device :=
  match self.ports.get? id with
  | none => (.error .MissingInterface,self)
  | some port =>
    if port.kind = .Serial || port.kind = .Console || port.channel_member then (.error .InvalidIpv6Config,self)
    else if port.switchport then (.error .NotRoutedPort,self)
    else if !self.policy_valid port policy then (.error .InvalidIpv6Config,self)
    else
      let self :=
        if !policy.active then self.reset_ipv6_interface id
        else
          match self.ipv6.interfaces.get? id with
          | none => self
          | some runtime => { self with ipv6 := { self.ipv6 with
              interfaces := self.ipv6.interfaces.insert id
                { runtime with addresses := runtime.addresses.retain (fun _ entry => policy_keeps port policy entry) } } }
      (.ok (),{ self with ports := self.ports.insert id { port with ipv6 := policy } })

/-- The place of an address in the order of a set. -/
def insert_address (address : Ipv6InterfaceConfig) : List Ipv6InterfaceConfig → List Ipv6InterfaceConfig
  | [] => [address]
  | first :: rest =>
    if toLex (address.address,address.prefix_len) < toLex (first.address,first.prefix_len) then address :: first :: rest
    else if first = address then first :: rest
    else first :: insert_address address rest

def set_ipv6_address (self : Device) (id : InterfaceId) (address : Ipv6InterfaceConfig) :
    Except DeviceError Unit × Device :=
  match self.ports.get? id with
  | none => (.error .MissingInterface,self)
  | some port => self.set_ipv6_policy id { port.ipv6 with
      addresses := insert_address address (port.ipv6.addresses.filter (fun old => old.address ≠ address.address)) }

end Device

/-! ### Runs -/

/-- An advertisement or another message, a tick, a use of the neighbor cache, or a change of the configuration.
    Changes outside IPv6 may replace the ports and reset interfaces. -/
inductive Operation where
  | tick (up : InterfaceId → Bool) (now : SimTime)
  | receive (up : InterfaceId → Bool) (id : InterfaceId) (packet : Ipv6Packet) (source_mac : MacAddress)
      (message : NdMessage) (now : SimTime)
  | resolve_neighbor (id : InterfaceId) (address : Ipv6Addr) (now : SimTime)
  | set_ipv6_routing (enabled : Bool)
  | set_ipv6_policy (id : InterfaceId) (policy : Ipv6InterfacePolicy)
  | set_ipv6_address (id : InterfaceId) (address : Ipv6InterfaceConfig)
  | reset_ipv6_interface (id : InterfaceId)
  | configure (ports : OrderedMap InterfaceId Port)

namespace Device

def apply (self : Device) : Operation → Device
  | .tick up now => (self.ipv6_tick up now).1
  | .receive up id packet source_mac message now => (self.receive_ipv6_nd up id packet source_mac message now).1
  | .resolve_neighbor id address now => (self.ipv6_resolve_neighbor id address now).2
  | .set_ipv6_routing enabled => (self.set_ipv6_routing enabled).2
  | .set_ipv6_policy id policy => (self.set_ipv6_policy id policy).2
  | .set_ipv6_address id address => (self.set_ipv6_address id address).2
  | .reset_ipv6_interface id => self.reset_ipv6_interface id
  | .configure ports => { self with ports }

def run (self : Device) (operations : List Operation) : Device := operations.foldl apply self

end Device
end Rios.Ipv6Addresses
