import Rios.OspfSpf
import Rios.OspfV3
import Rios.Selection

/-!
# OSPFv3 shortest paths

The search over routers and transit networks by their identifiers, and the
prefixes that attach to it afterwards. Costs are exact, and the first hop of a
route is local: an interface of the root and a router next to it.
-/

namespace Rios.OspfV3
open Rios.Machine Rios.Device Rios.Ospf Rios.Ipv6 Rios.LabelSearch

/-! ### The search -/

inductive Vertex where
  | Router (id : Ipv4Addr)
  | Network (dr : Ipv4Addr) (interface_id : UInt32)
deriving DecidableEq

/-- The derived `Ord`: routers first. -/
def Vertex.tuple : Vertex → UInt8 × Ipv4Addr × UInt32
  | .Router id => (0,id,0)
  | .Network dr interface_id => (1,dr,interface_id)

theorem Vertex.tuple_injective : Function.Injective Vertex.tuple := by
  rintro (id | ⟨dr,interface_id⟩) (other | ⟨other,port⟩) same <;> simp_all [Vertex.tuple]

instance vertexLinearOrder : LinearOrder Vertex :=
  LinearOrder.lift' (fun vertex => toLex (vertex.tuple.1,toLex (vertex.tuple.2.1,vertex.tuple.2.2))) (by
    intro first second same
    obtain ⟨variants,rest⟩ := Prod.mk.inj (toLex.injective same)
    obtain ⟨ids,ports⟩ := Prod.mk.inj (toLex.injective rest)
    exact Vertex.tuple_injective (Prod.ext variants (Prod.ext ids ports)))

/-- The cost of a path, and its first hop as a router and a port. -/
structure Label where
  cost : UInt32
  hop : Option (Ipv4Addr × UInt32)
deriving DecidableEq

/-- `None` is the least hop. -/
def hop_order (hop : Option (Ipv4Addr × UInt32)) : WithBot (Ipv4Addr ×ₗ UInt32) := hop.elim ⊥ (fun hop => ↑(toLex hop))

/-- Tuples are compared by cost, then by hop. -/
instance labelLinearOrder : LinearOrder Label :=
  LinearOrder.lift' (fun label => toLex (label.cost,hop_order label.hop)) (by
    rintro ⟨cost,hop⟩ ⟨cost',hop'⟩ same
    obtain ⟨costs,hops⟩ := Prod.mk.inj (toLex.injective same)
    cases costs
    cases hop <;> cases hop' <;> simp_all [hop_order])

/-- `Reverse` of the entries of the heap: cost, vertex, hop. -/
def entry_cmp (first second : Label × Vertex) : Ordering :=
  compare (toLex (second.1.cost,toLex (second.2,hop_order second.1.hop)))
    (toLex (first.1.cost,toLex (first.2,hop_order first.1.hop)))

instance entryTransCmp : Std.TransCmp entry_cmp where
  eq_swap := Std.OrientedOrd.eq_swap
  isLE_trans one two := Std.TransOrd.isLE_trans two one

instance finiteVertex : Finite Vertex :=
  Finite.of_injective (fun vertex : Vertex => match vertex with
    | .Router id => (Sum.inl id : Ipv4Addr ⊕ Ipv4Addr × Ipv4Addr)
    | .Network dr interface_id => .inr (dr,interface_id)) (by
      rintro (id | ⟨dr,interface_id⟩) (other | ⟨other,port⟩) same <;> simp_all)

instance finiteLabel : Finite Label :=
  Finite.of_injective (fun label : Label => ((label.cost,label.hop) : Ipv4Addr × Option (Ipv4Addr × Ipv4Addr))) (by
    rintro ⟨cost,hop⟩ ⟨cost',hop'⟩ same
    simpa using same)

def live (lsas : List OspfV3Lsa) : List OspfV3Lsa := lsas.filter (fun lsa => lsa.age < LSA_MAX_AGE)

/-- The links of each router, over all its advertisements. -/
abbrev Routers := OrderedMap Ipv4Addr (List OspfV3RouterLink)
/-- The members of each transit network. -/
abbrev Networks := OrderedMap (Ipv4Addr ×ₗ UInt32) (List Ipv4Addr)

/-- `routers.entry(..).or_default().extend(links)`. -/
def add_links (routers : Routers) (lsa : OspfV3Lsa) : Routers :=
  match lsa.body with
  | .Router _ options links =>
    if options &&& 0x11 = 0x11 then
      routers.insert lsa.advertising_router ((routers.get? lsa.advertising_router).getD [] ++ links)
    else routers
  | _ => routers

def routers_of (lsas : List OspfV3Lsa) : Routers := lsas.foldl add_links ∅

def networks_of (lsas : List OspfV3Lsa) : Networks :=
  OrderedMap.ofList (lsas.filterMap (fun lsa => match lsa.body with
    | .Network _ routers => some (toLex (lsa.advertising_router,lsa.link_state_id),routers)
    | _ => none))

/-- An edge with its cost and the interface it leaves by. -/
structure Edge where
  next : Vertex
  metric : UInt32
  interface_id : UInt32

/-- The edge of one link of a router, if the other side confirms it. -/
def link_edge (routers : Routers) (networks : Networks) (id : Ipv4Addr) (link : OspfV3RouterLink) : Option Edge :=
  match link.kind with
  | .PointToPoint =>
    if (routers.get? link.neighbor_router).any (fun back => back.any (fun b => b.kind = .PointToPoint ∧
        b.neighbor_router = id ∧ b.interface_id = link.neighbor_interface_id ∧
        b.neighbor_interface_id = link.interface_id)) then
      some ⟨.Router link.neighbor_router,link.metric.toUInt32,link.interface_id⟩
    else none
  | .Transit =>
    if (networks.get? (toLex (link.neighbor_router,link.neighbor_interface_id))).any (fun members => members.contains id) then
      some ⟨.Network link.neighbor_router link.neighbor_interface_id,link.metric.toUInt32,link.interface_id⟩
    else none
  | .Virtual => none

/-- The edge to one member of a transit network, if it confirms the attachment. -/
def member_edge (routers : Routers) (dr : Ipv4Addr) (interface_id : UInt32) (router : Ipv4Addr) : Option Edge :=
  if (routers.get? router).any (fun links => links.any (fun l => l.kind = .Transit ∧ l.neighbor_router = dr ∧
      l.neighbor_interface_id = interface_id)) then
    some ⟨.Router router,0,0⟩
  else none

def edges (routers : Routers) (networks : Networks) : Vertex → List Edge
  | .Router id =>
    match routers.get? id with
    | none => []
    | some links => links.filterMap (link_edge routers networks id)
  | .Network dr interface_id =>
    match networks.get? (toLex (dr,interface_id)) with
    | none => []
    | some members => members.filterMap (member_edge routers dr interface_id)

/-- The first hop of a path that reaches a vertex: it is rewritten where the path leaves an attached network. -/
def first_hop_at (self_id : Ipv4Addr) (hop : Option (Ipv4Addr × UInt32)) (next : Vertex) (interface_id : UInt32) :
    Option (Ipv4Addr × UInt32) :=
  match hop,next with
  | none,.Router id => some (id,interface_id)
  | none,.Network _ _ => some (self_id,interface_id)
  | some (id,port),.Router peer => if id = self_id then some (peer,port) else some (id,port)
  | some hop,.Network _ _ => some hop

/-- The candidates that a vertex offers to its neighbours. -/
def candidates (self_id : Ipv4Addr) (routers : Routers) (networks : Networks) (current : Vertex) (label : Label) :
    List (Vertex × Label) :=
  (edges routers networks current).map (fun edge =>
    (edge.next,⟨satAdd32 label.cost edge.metric,first_hop_at self_id label.hop edge.next edge.interface_id⟩))

/-- Labels of all reachable vertices. -/
def shortest_paths (self_id : Ipv4Addr) (routers : Routers) (networks : Networks) : OrderedMap Vertex Label :=
  (search (.Router self_id) (candidates self_id routers networks)
    (initial (MaxHeap.list entry_cmp) (.Router self_id) ⟨0,none⟩)).paths

/-! ### Prefixes -/

/-- A prefix with the first adjacent router and the own interface, before its address is known. -/
structure OspfV3SpfRoute where
  network : Ipv6Network
  metric : UInt32
  first_hop : Ipv4Addr
  interface_id : UInt32
  origin : Ipv4Addr
deriving DecidableEq

/-- The order of two routes to a prefix. -/
def rank (route : OspfV3SpfRoute) : UInt32 ×ₗ Ipv4Addr ×ₗ UInt32 ×ₗ Ipv4Addr :=
  toLex (route.metric,toLex (route.first_hop,toLex (route.interface_id,route.origin)))

/-- The vertex that a prefix advertisement refers to. -/
def vertex_of (reference : OspfV3LsaKey) : Option Vertex :=
  if reference.kind = V3_ROUTER_LSA then some (.Router reference.advertising_router)
  else if reference.kind = V3_NETWORK_LSA then some (.Network reference.advertising_router reference.link_state_id)
  else none

/-- Whether a prefix takes part: not excluded from routing, and neither link-local nor multicast. -/
def eligible (p : OspfV3Prefix) : Bool :=
  ¬ (p.options &&& 1 ≠ 0 ∨ is_unicast_link_local p.network.address ∨ is_multicast p.network.address)

/-- The routes of one advertisement. -/
def lsa_routes (paths : OrderedMap Vertex Label) (lsa : OspfV3Lsa) : List OspfV3SpfRoute :=
  match lsa.body with
  | .IntraAreaPrefix reference prefixes =>
    if reference.advertising_router ≠ lsa.advertising_router then []
    else
      match (vertex_of reference).bind paths.get? with
      | some ⟨cost,some (first_hop,interface_id)⟩ =>
        (prefixes.filter eligible).map (fun p =>
          ⟨p.network,satAdd32 cost p.metric.toUInt32,first_hop,interface_id,lsa.advertising_router⟩)
      | _ => []
  | _ => []

def install (routes : OrderedMap Ipv6Network OspfV3SpfRoute) (route : OspfV3SpfRoute) :
    OrderedMap Ipv6Network OspfV3SpfRoute :=
  if route.metric < 0xffffff ∧ (routes.get? route.network).all (fun old => rank route < rank old) then
    routes.insert route.network route
  else routes

/-- Deterministic weighted search with reciprocal link checks and no assumptions about addresses. -/
def ospfv3_spf (self_id : Ipv4Addr) (advertisements : List OspfV3Lsa) : OrderedMap Ipv6Network OspfV3SpfRoute :=
  let lsas := live advertisements
  let paths := shortest_paths self_id (routers_of lsas) (networks_of lsas)
  (lsas.flatMap (lsa_routes paths)).foldl install ∅

end Rios.OspfV3
