import Rios.Bgp
import Rios.OrderedMap
import Rios.Translation

/-!
# Routing policy and attribute edits

Ordered prefix filters and route-map clauses, the configuration of a BGP process,
and the edits that both make to the attributes of a route.
-/

namespace Rios.Bgp
open Rios.Machine Rios.Device Rios.Translation

/-! ### Filters and clauses -/

/-- Prefix containment plus optional longer-prefix bounds. -/
structure PrefixListEntry where
  action : AccessListAction
  network : Ipv4Network
  ge : Option UInt8
  le : Option UInt8
deriving DecidableEq

/-- Reject contradictory or impossible prefix-length bounds. -/
def PrefixListEntry.valid (self : PrefixListEntry) : Bool :=
  let bits := self.network.prefix_len
  bits ≤ 32 && self.ge.all (fun ge => bits < ge && ge ≤ 32) && self.le.all (fun le => bits ≤ le && le ≤ 32) &&
    self.ge.all (fun ge => self.le.all (fun le => ge ≤ le))

/-- Match the exact prefix unless `ge` or `le` permits more-specific networks. -/
def PrefixListEntry.matches (self : PrefixListEntry) (network : Ipv4Network) : Bool :=
  self.valid && self.network.contains network.address && self.ge.getD self.network.prefix_len ≤ network.prefix_len &&
    network.prefix_len ≤ self.le.getD (if self.ge.isSome then 32 else self.network.prefix_len)

/-- A first-match route-map clause. Empty match criteria match every route. -/
structure RouteMapEntry where
  action : AccessListAction
  prefix_lists : List String
  local_preference : Option UInt32
  metric : Option UInt32
  as_prepend : List UInt32
deriving DecidableEq

/-- Named, ordered route-map clauses. -/
structure RouteMap where
  name : String
  entries : OrderedMap UInt32 RouteMapEntry
deriving DecidableEq

/-- Persistent routing policy; route maps are kept under their `RouteMapId`. -/
structure RoutingPolicyConfig where
  prefix_lists : OrderedMap String (OrderedMap UInt32 PrefixListEntry)
  route_maps : OrderedMap UInt32 RouteMap
deriving DecidableEq

namespace RoutingPolicyConfig

/-- `RoutingPolicyConfig::default`. -/
def default : RoutingPolicyConfig := ⟨∅,∅⟩

/-- Ordered prefix-list evaluation, with implicit deny including missing lists. -/
def prefix_permits (self : RoutingPolicyConfig) (name : String) (network : Ipv4Network) : Bool :=
  ((self.prefix_lists.get? name).bind (fun list => list.values.find? (·.matches network))).any (·.action = .Permit)

/-- The first permitted clause; a matching deny or absent match rejects the route. -/
def route_map_match (self : RoutingPolicyConfig) (name : String) (network : Ipv4Network) : Option RouteMapEntry :=
  match self.route_maps.values.find? (·.name = name) with
  | none => none
  | some map =>
    let clause := map.entries.values.find? (fun entry =>
      entry.prefix_lists.isEmpty || entry.prefix_lists.any (self.prefix_permits · network))
    clause.filter (·.action = .Permit)

end RoutingPolicyConfig

/-! ### Configuration of a process -/

/-- One direction's independent prefix filter and route-map attachment. -/
structure BgpPolicy where
  prefix_list : Option String
  route_map : Option String
deriving DecidableEq

/-- Per-neighbor default advertisement, optionally conditioned on a route-map match. -/
structure BgpDefaultRoute where
  route_map : Option String
deriving DecidableEq

/-- A configured IPv4 unicast peer. -/
structure BgpNeighborConfig where
  remote_as : UInt32
  inbound : BgpPolicy
  outbound : BgpPolicy
  default_originate : Option BgpDefaultRoute
  update_source : Option InterfaceId
  next_hop_self : Bool
  route_reflector_client : Bool
deriving DecidableEq

/-- One BGP process; routes and TCP state never appear in persistent configuration. -/
structure BgpConfig where
  local_as : UInt32
  router_id : Option Ipv4Addr
  cluster_id : Option Ipv4Addr
  neighbors : OrderedMap Ipv4Addr BgpNeighborConfig
  networks : OrderedMap Ipv4Network Unit
deriving DecidableEq

/-- The cluster of a reflector, its router id by default. -/
def BgpConfig.cluster (self : BgpConfig) (router_id : Ipv4Addr) : Ipv4Addr := self.cluster_id.getD router_id

/-! ### Attributes -/

/-- `slice::chunks`. -/
def chunks {α : Type} (size : Nat) : Nat → List α → List (List α)
  | 0,_ => []
  | _ + 1,[] => []
  | n + 1,values => values.take size :: chunks size n (values.drop size)

namespace BgpAttributes

def contains_as (self : BgpAttributes) (asn : UInt32) : Bool := self.as_path.any (·.members.contains asn)

/-- The length of a path for selection, in which a set counts once. -/
def path_length (self : BgpAttributes) : Nat :=
  (self.as_path.map (fun segment => match segment with
    | .Sequence members => members.length
    | .Set _ => 1)).sum

def first_as (self : BgpAttributes) : Option UInt32 := self.as_path.head?.bind (·.members.head?)

/-- The sequence that a path starts with, and the rest of the path. -/
def split_sequence : List AsPathSegment → List UInt32 × List AsPathSegment
  | .Sequence old :: rest => (old,rest)
  | path => ([],path)

/-- Add sequence members without producing an oversized one-byte segment count. -/
def prepend (self : BgpAttributes) (asns : List UInt32) : Result BgpAttributes :=
  if asns.contains 0 || 1024 < asns.length + (self.as_path.map (·.members.length)).sum then .error ⟨6,8⟩
  else
    let values := asns ++ (split_sequence self.as_path).1
    .ok { self with as_path := (chunks 255 values.length values).map .Sequence ++ (split_sequence self.as_path).2 }

/-- The attributes of a route of this router. -/
def local_attributes (next_hop : Ipv4Addr) : BgpAttributes :=
  ⟨.Igp,[],next_hop,false,none,some 100,none,[],[]⟩

/-- The edits of a clause, if its numbers can be prepended. -/
def set_attributes (entry : RouteMapEntry) (attributes : BgpAttributes) : Option BgpAttributes :=
  ({ attributes with local_preference := entry.local_preference <|> attributes.local_preference,
                     med := entry.metric <|> attributes.med }.prepend entry.as_prepend).toOption

/-- The filter and the route map of one direction. -/
def apply (config : RoutingPolicyConfig) (policy : BgpPolicy) (network : Ipv4Network) (attributes : BgpAttributes) :
    Option BgpAttributes :=
  if policy.prefix_list.any (fun name => !config.prefix_permits name network) then none
  else
    match policy.route_map with
    | none => some attributes
    | some name => (config.route_map_match name network).bind (fun entry => set_attributes entry attributes)

end BgpAttributes
end Rios.Bgp
