import Rios.OrderedMap
import Rios.OspfSpf

/-!
# Routing tables

Route candidates in insertion order, the selection of the longest prefix with the
lowest distance and metric, and the recursive resolution of a destination to an
operational interface. What a device knows about its interfaces is given.
-/

namespace Rios.Routing
open Rios.Machine Rios.Device Rios.OspfSpf

/-- One route candidate. The next hop is absent for directly connected routes. -/
structure Route where
  network : Ipv4Network
  next_hop : Option Ipv4Addr
  outgoing_interface : Option InterfaceId
  administrative_distance : UInt8
  metric : UInt32
  source : RouteSource
deriving DecidableEq

/-- Longest prefix first, then the lowest distance and metric. -/
def Route.rank (self : Route) : UInt8ᵒᵈ ×ₗ UInt8 ×ₗ UInt32 :=
  toLex (OrderDual.toDual self.network.prefix_len,toLex (self.administrative_distance,self.metric))

/-- Routes in deterministic insertion order. -/
structure RoutingTable where
  routes : List Route
deriving DecidableEq

namespace RoutingTable

def default : RoutingTable := ⟨[]⟩

/-- Add one route candidate. -/
def insert (self : RoutingTable) (route : Route) : RoutingTable := ⟨self.routes ++ [route]⟩

/-- The first of the best candidates that contain an address. -/
def lookup (self : RoutingTable) (address : Ipv4Addr) : Option Route :=
  (self.routes.filter (·.network.contains address)).argmin Route.rank

end RoutingTable

/-! ### Devices -/

/-- What forwarding uses of an interface: whether it is a loopback, its address in the hardware, its configured
    address, and whether the protocol is up on it. -/
structure Port where
  loopback : Bool
  mac_address : MacAddress
  ipv4 : Option Ipv4InterfaceConfig
  protocol_up : Bool
deriving DecidableEq

/-- What forwarding uses of a DHCP lease. -/
structure DhcpLease where
  address : Ipv4Addr
  prefix_len : UInt8
  default_router : Option Ipv4Addr
deriving DecidableEq

/-- The interfaces of a device and the routes it has other than those of BGP. -/
structure Surroundings where
  interfaces : OrderedMap InterfaceId Port
  static_routes : OrderedMap Ipv4Network Ipv4Addr
  dhcp_leases : OrderedMap InterfaceId DhcpLease
  ospf_routes : List Route
deriving DecidableEq

/-- Fully resolved egress decision. -/
structure ResolvedRoute where
  interface : InterfaceId
  source_ip : Ipv4Addr
  source_mac : MacAddress
  next_hop : Ipv4Addr
deriving DecidableEq

/-- The prefix that an interface is attached to. -/
def attached (ip : Ipv4InterfaceConfig) : Ipv4Network :=
  ⟨ip.address &&& mask_of ip.prefix_len,ip.prefix_len,ip.valid,by rw [UInt32.and_assoc,UInt32.and_self]⟩

/-- The prefix of length zero. -/
def default_network : Ipv4Network := ⟨0,0,by decide,by decide⟩

namespace Surroundings

def protocol_up (self : Surroundings) (id : InterfaceId) : Bool := (self.interfaces.get? id).any (·.protocol_up)

/-- The configured address of an interface, or the leased one. -/
def interface_ipv4 (self : Surroundings) (id : InterfaceId) : Option Ipv4InterfaceConfig :=
  match self.interfaces.get? id with
  | none => none
  | some port =>
    port.ipv4 <|> (self.dhcp_leases.get? id).bind (fun lease =>
      (Ipv4InterfaceConfig.new lease.address lease.prefix_len).toOption)

def owns_ipv4 (self : Surroundings) (id : InterfaceId) (address : Ipv4Addr) : Bool :=
  self.protocol_up id && (self.interface_ipv4 id).any (·.address = address)

/-- Whether any operational interface owns this address. -/
def owns_any_ipv4 (self : Surroundings) (address : Ipv4Addr) : Bool := self.interfaces.keys.any (self.owns_ipv4 · address)

/-- The routes of operational interfaces with an address. -/
def connected_routes (self : Surroundings) : RoutingTable :=
  ⟨self.interfaces.keys.filterMap (fun id =>
    if self.protocol_up id then
      (self.interface_ipv4 id).map (fun ip => ⟨attached ip,none,some id,0,0,.Connected⟩)
    else none)⟩

/-- The static routes whose next hop is attached. -/
def static_candidates (self : Surroundings) : List Route :=
  self.static_routes.entries.filterMap (fun entry =>
    (self.connected_routes.lookup entry.2).map (fun route =>
      ⟨entry.1,some entry.2,route.outgoing_interface,1,0,.Static⟩))

/-- The default routes of leases whose router is attached. -/
def lease_candidates (self : Surroundings) : List Route :=
  self.dhcp_leases.entries.filterMap (fun entry =>
    entry.2.default_router.bind (fun next_hop =>
      if self.protocol_up entry.1 && (self.connected_routes.lookup next_hop).isSome then
        some ⟨default_network,some next_hop,some entry.1,1,0,.Static⟩
      else none))

def routing_table_without_bgp (self : Surroundings) : RoutingTable :=
  ⟨self.connected_routes.routes ++ self.static_candidates ++ self.lease_candidates ++ self.ospf_routes⟩

/-- The routes of BGP are added behind all others, as far as their interface is up. -/
def routing_table (self : Surroundings) (bgp_routes : List Route) : RoutingTable :=
  ⟨self.routing_table_without_bgp.routes ++ bgp_routes.filter (·.outgoing_interface.any self.protocol_up)⟩

/-- One round of `resolve_in_table`: nothing, an egress, or the next destination. -/
inductive Hop where
  | Unreachable
  | Egress (resolved : ResolvedRoute)
  | Via (destination : Ipv4Addr)
deriving DecidableEq

def hop (self : Surroundings) (table : RoutingTable) (destination : Ipv4Addr) : Hop :=
  match table.lookup destination with
  | none => .Unreachable
  | some route =>
    match route.outgoing_interface with
    | none => .Unreachable
    | some interface =>
      if !self.protocol_up interface then .Unreachable
      else
        match self.interface_ipv4 interface, self.interfaces.get? interface with
        | some ip, some port =>
          let next_hop := route.next_hop.getD destination
          if route.next_hop.isNone || (attached ip).contains next_hop then
            .Egress ⟨interface,ip.address,port.mac_address,next_hop⟩
          else .Via next_hop
        | _, _ => .Unreachable

/-- The rounds of `resolve_in_table`, with the destinations of earlier ones. -/
def resolve_rounds (self : Surroundings) (table : RoutingTable) : Nat → List Ipv4Addr → Ipv4Addr → Option ResolvedRoute
  | 0,_,_ => none
  | rounds + 1,visited,destination =>
    if visited.contains destination then none
    else
      match self.hop table destination with
      | .Unreachable => none
      | .Egress resolved => some resolved
      | .Via next_hop => resolve_rounds self table rounds (destination :: visited) next_hop

def resolve_in_table (self : Surroundings) (table : RoutingTable) (destination : Ipv4Addr) : Option ResolvedRoute :=
  self.resolve_rounds table 16 [] destination

def resolve_non_bgp_route (self : Surroundings) (destination : Ipv4Addr) : Option ResolvedRoute :=
  self.resolve_in_table self.routing_table_without_bgp destination

/-- Resolve connected or static forwarding, or that of BGP, to an operational egress interface. -/
def resolve_route (self : Surroundings) (bgp_routes : List Route) (destination : Ipv4Addr) : Option ResolvedRoute :=
  self.resolve_in_table (self.routing_table bgp_routes) destination

end Surroundings
end Rios.Routing
