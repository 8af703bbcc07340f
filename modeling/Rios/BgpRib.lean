import Rios.BgpEncoding
import Rios.BgpTransport
import Rios.Routing
import Rios.TcpRuntime

/-!
# The routes of BGP

The tables of a peer, the selection of the best paths among those received, their
installation as routes, and the incremental advertisement of each peer's export
table by UPDATEs on its selected transport.
-/

namespace Rios.Bgp
open Rios.Machine Rios.Device Rios.Tcp Rios.Routing Rios.OspfSpf

def ROUTE_LIMIT : Nat := 4096

/-! ### Selection -/

/-- One eligible route candidate. No `learned_from` identifies a locally originated network statement. -/
structure BgpPath where
  network : Ipv4Network
  attributes : BgpAttributes
  learned_from : Option Ipv4Addr
  peer_router_id : Ipv4Addr
  external : Bool
  igp_cost : UInt32
deriving DecidableEq

namespace BgpPath

/-- Highest preference, then local paths, short paths and low origins. -/
def rank (self : BgpPath) : UInt32ᵒᵈ ×ₗ Bool ×ₗ Nat ×ₗ UInt8 :=
  toLex (OrderDual.toDual (self.attributes.local_preference.getD 100),toLex (self.learned_from.isSome,
    toLex (self.attributes.path_length,self.attributes.origin.byte)))

def med (self : BgpPath) : UInt32 := self.attributes.med.getD 0

/-- External paths, then the nearest next hop, and ties that do not depend on the order of arrival. -/
def tie (self : BgpPath) : Bool ×ₗ UInt32 ×ₗ Ipv4Addr ×ₗ Nat ×ₗ WithBot Ipv4Addr :=
  toLex (!self.external,toLex (self.igp_cost,toLex (self.attributes.originator_id.getD self.peer_router_id,
    toLex (self.attributes.cluster_list.length,hop_order self.learned_from))))

end BgpPath

/-- The least discriminator of the candidates from one neighboring AS. -/
def med_by_as (candidates : List BgpPath) (first_as : Option UInt32) : Option UInt32 :=
  ((candidates.filter (·.attributes.first_as = first_as)).map BgpPath.med).min?

/-- Select one prefix's best route; MED is compared only between paths from the same neighboring AS. -/
def bgp_best_path (paths : List BgpPath) : Option BgpPath :=
  match (paths.map BgpPath.rank).min? with
  | none => none
  | some best =>
    let candidates := paths.filter (·.rank = best)
    (candidates.filter (fun path => med_by_as candidates path.attributes.first_as = some path.med)).argmin BgpPath.tie

/-! ### Peers -/

/-- How an UPDATE was received: the numbers that its routes were checked against. -/
structure Reception where
  update : BgpUpdate
  local_as : UInt32
  router_id : Ipv4Addr
  cluster : Ipv4Addr
  external : Bool
deriving DecidableEq

/-- One transport of a peer. Three histories are not in the source: the UPDATEs that were queued, the export table of
    the last refresh with whether the limit of the queue stopped it, and the UPDATEs that the session delivered. -/
structure PeerStream extends Stream where
  input : BgpStream
  started : Bool
  advertised : OrderedMap Ipv4Network BgpAttributes
  updates : List BgpUpdate
  refreshed : Option (OrderedMap Ipv4Network BgpAttributes)
  stopped : Bool
  delivered : List Reception

/-- The UPDATE in a message. -/
def BgpMessage.updates : BgpMessage → List BgpUpdate
  | .Update update => [update]
  | _ => []

namespace PeerStream

def new (config : BgpConfig) (remote_as : UInt32) (router_id : Ipv4Addr) (now : SimTime) : Result PeerStream :=
  match BgpSession.new config.local_as remote_as router_id 180 now with
  | .error error => .error error
  | .ok fsm => .ok ⟨⟨(fsm.tick now).1,[],0,none⟩,⟨[]⟩,false,∅,[],none,false,[]⟩

def queue (self : PeerStream) (message : BgpMessage) : Result PeerStream :=
  match self.toStream.queue message with
  | .error error => .error error
  | .ok stream => .ok { self with toStream := stream, updates := self.updates ++ message.updates }

def fail (self : PeerStream) (error : BgpError) (now : SimTime) : PeerStream :=
  { self with toStream := self.toStream.fail error now }

/-- Whether UPDATEs flow on the transport. -/
def open_session (self : PeerStream) : Bool := self.closing.isNone && self.fsm.state = .Established

end PeerStream

structure Peer where
  config : BgpNeighborConfig
  streams : OrderedMap TcpSocket PeerStream
  selected : Option TcpSocket
  received : OrderedMap Ipv4Network BgpAttributes
  accepted : Nat
  retry_at : SimTime
  state : BgpState
  last_error : Option BgpError

namespace Peer

def new (config : BgpNeighborConfig) (now : SimTime) : Peer := ⟨config,∅,none,∅,0,now,.Idle,none⟩

/-- The selected transport while its session is established and not closing. -/
def exporting (self : Peer) : Option (TcpSocket × PeerStream) :=
  self.selected.bind (fun socket =>
    ((self.streams.get? socket).filter PeerStream.open_session).map (fun stream => (socket,stream)))

end Peer

structure BgpRuntime where
  local_as : Option UInt32
  router_id : Option Ipv4Addr
  listening : Bool
  peers : OrderedMap Ipv4Addr Peer
  next_port : UInt16
  routes : List Route
  best : OrderedMap Ipv4Network BgpPath

/-- `BgpRuntime::default`. -/
def BgpRuntime.default : BgpRuntime := ⟨none,none,false,∅,0,[],∅⟩

/-! ### Reception into the table -/

/-- The candidates for each prefix, in the order in which they were found. -/
abbrev Candidates := OrderedMap Ipv4Network (List BgpPath)

def Candidates.push (self : Candidates) (path : BgpPath) : Candidates :=
  self.insert path.network ((self.get? path.network).getD [] ++ [path])

/-- The paths of the network statements that are in the routing table. -/
def local_candidates (rib : RoutingTable) (config : BgpConfig) (router_id : Ipv4Addr) : Candidates :=
  config.networks.keys.foldl (fun candidates network =>
    if rib.routes.any (·.network = network) then
      Candidates.push candidates ⟨network,BgpAttributes.local_attributes 0,none,router_id,false,0⟩
    else candidates) ∅

/-- Whether a path is one of the router's own or leads to it, or its next hop cannot be reached. -/
def unusable (surroundings : Surroundings) (config : BgpConfig) (router_id : Ipv4Addr) (attributes : BgpAttributes) : Bool :=
  attributes.originator_id = some router_id || attributes.cluster_list.contains (config.cluster router_id) ||
    surroundings.owns_any_ipv4 attributes.next_hop || (surroundings.resolve_non_bgp_route attributes.next_hop).isNone

/-- One received route: whether the inbound policy accepts it, and the candidates with it. -/
def consider (surroundings : Surroundings) (policies : RoutingPolicyConfig) (config : BgpConfig) (router_id : Ipv4Addr)
    (address : Ipv4Addr) (peer : Peer) (peer_router_id : Ipv4Addr) (state : Nat × Candidates)
    (received : Ipv4Network × BgpAttributes) : Nat × Candidates :=
  match BgpAttributes.apply policies peer.config.inbound received.1 received.2 with
  | none => state
  | some attributes =>
    if unusable surroundings config router_id attributes then (state.1 + 1,state.2)
    else
      match surroundings.routing_table_without_bgp.lookup attributes.next_hop with
      | none => (state.1 + 1,state.2)
      | some route =>
        if ROUTE_LIMIT ≤ state.2.size ∧ !state.2.contains received.1 then (state.1 + 1,state.2)
        else (state.1 + 1,Candidates.push state.2
          ⟨received.1,attributes,some address,peer_router_id,peer.config.remote_as ≠ config.local_as,route.metric⟩)

/-- The received routes of one peer: how many its policy accepts, and the candidates with them. -/
def consider_peer (surroundings : Surroundings) (policies : RoutingPolicyConfig) (config : BgpConfig) (router_id : Ipv4Addr)
    (address : Ipv4Addr) (peer : Peer) (candidates : Candidates) : Nat × Candidates :=
  match peer.exporting.bind (·.2.fsm.peer_router_id) with
  | none => (0,candidates)
  | some peer_router_id =>
    peer.received.entries.foldl (consider surroundings policies config router_id address peer peer_router_id) (0,candidates)

/-- The peers with their counts of accepted routes, and all candidates. -/
def consider_peers (surroundings : Surroundings) (policies : RoutingPolicyConfig) (config : BgpConfig) (router_id : Ipv4Addr)
    (peers : OrderedMap Ipv4Addr Peer) : OrderedMap Ipv4Addr Peer × Candidates :=
  peers.entries.foldl (fun state entry =>
    let result := consider_peer surroundings policies config router_id entry.1 entry.2 state.2
    (state.1.insert entry.1 { entry.2 with accepted := result.1 },result.2))
    (∅,local_candidates surroundings.routing_table_without_bgp config router_id)

/-- The route that a learned path is installed as. -/
def installed (surroundings : Surroundings) (path : BgpPath) : Option Route :=
  if path.learned_from.isNone then none
  else
    (surroundings.resolve_non_bgp_route path.attributes.next_hop).map (fun resolved =>
      ⟨path.network,some path.attributes.next_hop,some resolved.interface,if path.external then 20 else 200,
        path.attributes.med.getD 0,.Bgp⟩)

/-- The candidates of each prefix that have a best one. -/
def best_paths (candidates : Candidates) : OrderedMap Ipv4Network BgpPath :=
  candidates.entries.foldl (fun best entry =>
    match bgp_best_path entry.2 with
    | none => best
    | some path => best.insert entry.1 path) ∅

namespace BgpRuntime

def bgp_recompute (self : BgpRuntime) (surroundings : Surroundings) (policies : RoutingPolicyConfig) (config : BgpConfig)
    (router_id : Ipv4Addr) : BgpRuntime :=
  let considered := consider_peers surroundings policies config router_id self.peers
  let best := best_paths considered.2
  { self with peers := considered.1, best := best, routes := best.values.filterMap (installed surroundings) }

end BgpRuntime

/-! ### Export -/

/-- The attributes of a reflected path, unless it came from the peer's own router. -/
def reflect (cluster : Ipv4Addr) (peer_router_id : Option Ipv4Addr) (path : BgpPath) (attributes : BgpAttributes) :
    Option BgpAttributes :=
  if attributes.originator_id = peer_router_id then none
  else some { attributes with originator_id := some (attributes.originator_id.getD path.peer_router_id),
                              cluster_list := cluster :: attributes.cluster_list }

/-- What an external or an internal peer is told of a path. -/
def for_scope (external : Bool) (path : BgpPath) (attributes : BgpAttributes) : BgpAttributes :=
  if external then
    { attributes with originator_id := none, cluster_list := [],
                      med := if path.learned_from.isSome then none else attributes.med }
  else { attributes with local_preference := some (attributes.local_preference.getD 100) }

/-- The local AS in front of a path towards an external peer, without the local preference. -/
def leave_as (config : BgpConfig) (external : Bool) (attributes : BgpAttributes) : Option BgpAttributes :=
  if external then
    (attributes.prepend [config.local_as]).toOption.map (fun attributes => { attributes with local_preference := none })
  else some attributes

/-- Unknown attributes of another router are only partially understood. -/
def mark_unknown (attributes : BgpAttributes) : BgpAttributes :=
  { attributes with unknown_transitive := attributes.unknown_transitive.map (fun unknown =>
      { unknown with flags := unknown.flags ||| 0x20 }) }

/-- The attributes that a best path is advertised with to a peer, if it is. -/
def exported (policies : RoutingPolicyConfig) (config : BgpConfig) (router_id address : Ipv4Addr) (peer : BgpNeighborConfig)
    (local_address : Ipv4Addr) (peer_router_id : Option Ipv4Addr) (network : Ipv4Network) (path : BgpPath) :
    Option BgpAttributes :=
  let external : Bool := peer.remote_as ≠ config.local_as
  let reflecting : Bool := !external && path.learned_from.isSome && !path.external
  let source_client := (path.learned_from.bind config.neighbors.get?).any (·.route_reflector_client)
  if path.learned_from = some address then none
  else if reflecting && !source_client && !peer.route_reflector_client then none
  else
    (if reflecting then reflect (config.cluster router_id) peer_router_id path path.attributes else some path.attributes).bind
      (fun attributes =>
        let within := for_scope external path attributes
        let attributes :=
          if external || (peer.next_hop_self && !reflecting) || path.learned_from.isNone then
            { within with next_hop := local_address }
          else within
        (BgpAttributes.apply policies peer.outbound network attributes).bind (fun attributes =>
          if external && attributes.contains_as peer.remote_as then none
          else (leave_as config external attributes).map mark_unknown))

/-- The default route for a peer, if it is configured and its route map matches a route of the table. -/
def default_route (policies : RoutingPolicyConfig) (config : BgpConfig) (prefixes : List Ipv4Network)
    (peer : BgpNeighborConfig) (local_address : Ipv4Addr) : Option BgpAttributes :=
  match peer.default_originate with
  | none => none
  | some default =>
    let attributes := BgpAttributes.local_attributes local_address
    let edited := match default.route_map with
      | none => some attributes
      | some name =>
        (prefixes.findSome? (policies.route_map_match name)).bind (fun entry => BgpAttributes.set_attributes entry attributes)
    edited.bind (leave_as config (peer.remote_as ≠ config.local_as))

/-- One round of the loop over the best paths. -/
def insert_exported (policies : RoutingPolicyConfig) (config : BgpConfig) (router_id address : Ipv4Addr)
    (peer : BgpNeighborConfig) (socket : TcpSocket) (stream : PeerStream) (desired : OrderedMap Ipv4Network BgpAttributes)
    (entry : Ipv4Network × BgpPath) : OrderedMap Ipv4Network BgpAttributes :=
  match exported policies config router_id address peer socket.local_address stream.fsm.peer_router_id entry.1 entry.2 with
  | none => desired
  | some attributes => desired.insert entry.1 attributes

/-- The export table of a peer. -/
def desired_routes (policies : RoutingPolicyConfig) (config : BgpConfig) (router_id : Ipv4Addr) (prefixes : List Ipv4Network)
    (best : OrderedMap Ipv4Network BgpPath) (address : Ipv4Addr) (peer : BgpNeighborConfig) (socket : TcpSocket)
    (stream : PeerStream) : OrderedMap Ipv4Network BgpAttributes :=
  let learned := best.entries.foldl (insert_exported policies config router_id address peer socket stream) ∅
  match default_route policies config prefixes peer socket.local_address with
  | none => learned
  | some attributes => learned.insert default_network attributes

namespace PeerStream

/-- The loop over the routes that are no longer wanted. -/
def withdraw (now : SimTime) : List Ipv4Network → PeerStream → PeerStream
  | [],stream => stream
  | network :: rest,stream =>
    if TX_LIMIT / 2 ≤ stream.output.length then { stream with stopped := true }
    else
      match stream.queue (.Update (withdrawal network)) with
      | .error error => stream.fail error now
      | .ok stream => withdraw now rest { stream with advertised := stream.advertised.erase network }

/-- The loop over the routes that are wanted. -/
def announce (now : SimTime) : List (Ipv4Network × BgpAttributes) → PeerStream → PeerStream
  | [],stream => stream
  | (network,attributes) :: rest,stream =>
    if TX_LIMIT / 2 ≤ stream.output.length || stream.closing.isSome then { stream with stopped := true }
    else if stream.advertised.get? network = some attributes then announce now rest stream
    else
      match stream.queue (.Update (announcement network attributes)) with
      | .error error => stream.fail error now
      | .ok stream => announce now rest { stream with advertised := stream.advertised.insert network attributes }

/-- The routes that were advertised and are no longer wanted. -/
def unwanted (stream : PeerStream) (desired : OrderedMap Ipv4Network BgpAttributes) : List Ipv4Network :=
  stream.advertised.keys.filter (fun network => !desired.contains network)

/-- Bring a peer's table up to date, as far as the queue has room. -/
def refresh (now : SimTime) (desired : OrderedMap Ipv4Network BgpAttributes) (stream : PeerStream) : PeerStream :=
  announce now desired.entries
    (withdraw now (stream.unwanted desired) { stream with refreshed := some desired, stopped := false })

end PeerStream

def advertise_peer (policies : RoutingPolicyConfig) (config : BgpConfig) (router_id : Ipv4Addr) (now : SimTime)
    (prefixes : List Ipv4Network) (best : OrderedMap Ipv4Network BgpPath) (address : Ipv4Addr) (peer : Peer) : Peer :=
  match peer.exporting with
  | none => peer
  | some (socket,stream) =>
    let desired := desired_routes policies config router_id prefixes best address peer.config socket stream
    { peer with streams := peer.streams.insert socket (stream.refresh now desired) }

namespace BgpRuntime

def bgp_advertise (self : BgpRuntime) (surroundings : Surroundings) (policies : RoutingPolicyConfig) (config : BgpConfig)
    (router_id : Ipv4Addr) (now : SimTime) : BgpRuntime :=
  let prefixes := (surroundings.routing_table self.routes).routes.map (·.network)
  { self with peers := self.peers.mapValues (advertise_peer policies config router_id now prefixes self.best) }

end BgpRuntime
end Rios.Bgp
