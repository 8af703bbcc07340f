import Rios.LabelSearch
import Rios.OspfLsa

/-!
# OSPFv2 shortest paths

Deterministic weighted SPF over router and transit-network advertisements, then
stub, summary and external prefixes. Maps are iterated in key order, and a
search entry is equal to another one exactly when neither is smaller, so that
the internal order of the heap cannot be seen.
-/

namespace Rios.OspfSpf
open Rios.Machine Rios.Device Rios.Ospf Rios.LabelSearch

inductive RouteSource where
  | Connected
  | Static
  | Ospf
  | OspfInterArea
  | OspfExternal1
  | OspfExternal2
  | Rip
  | Bgp
deriving DecidableEq

inductive Vertex where
  | Router (id : Ipv4Addr)
  | Network (id : Ipv4Addr)
deriving DecidableEq

/-- The derived `Ord` as a pair of variant and address. -/
def Vertex.pair : Vertex → UInt8 × Ipv4Addr
  | .Router id => (0,id)
  | .Network id => (1,id)

theorem Vertex.pair_injective : Function.Injective Vertex.pair := by
  rintro (id | id) (other | other) same <;> simp_all [Vertex.pair]

instance vertexLinearOrder : LinearOrder Vertex :=
  LinearOrder.lift' (fun vertex => toLex vertex.pair) (fun _ _ same => Vertex.pair_injective (toLex.injective same))

/-- The cost of a path and its first router other than the root. -/
structure Label where
  cost : UInt32
  hop : Option Ipv4Addr
deriving DecidableEq

/-- `None` is the least hop. -/
def hop_order (hop : Option Ipv4Addr) : WithBot Ipv4Addr := hop.elim ⊥ (fun hop => ↑hop)

/-- Tuples are compared by cost, then by hop. -/
instance labelLinearOrder : LinearOrder Label :=
  LinearOrder.lift' (fun label => toLex (label.cost,hop_order label.hop)) (by
    rintro ⟨cost,hop⟩ ⟨cost',hop'⟩ same
    obtain ⟨costs,hops⟩ := Prod.mk.inj (toLex.injective same)
    cases costs
    cases hop <;> cases hop' <;> simp_all [hop_order])

/-- `Reverse` of the entries of the heap: cost, vertex, hop. -/
def entry_cmp (first second : Label × Vertex) : Ordering :=
  compare (toLex (second.1.cost,toLex (second.2,hop_order second.1.hop)))
    (toLex (first.1.cost,toLex (first.2,hop_order first.1.hop)))

instance entryTransCmp : Std.TransCmp entry_cmp where
  eq_swap := Std.OrientedOrd.eq_swap
  isLE_trans one two := Std.TransOrd.isLE_trans two one

/-- A calculated prefix, before mapping its next-hop router to a local interface. -/
structure OspfSpfRoute where
  network : Ipv4Network
  metric : UInt32
  internal_cost : UInt32
  first_hop : Ipv4Addr
  origin : Ipv4Addr
  source : RouteSource
deriving DecidableEq

/-- The prefix of an address and a mask. -/
def network_of (address mask : Ipv4Addr) : Option Ipv4Network :=
  match Ipv4InterfaceConfig.from_mask address mask with
  | .error _ => none
  | .ok ip => (Ipv4Network.new address ip.prefix_len).toOption

def rank : RouteSource → UInt8
  | .Ospf => 0
  | .OspfInterArea => 1
  | .OspfExternal1 => 2
  | _ => 3

/-- OSPF path preference, including E2 internal-cost tie breaking. -/
def OspfSpfRoute.preference (self : OspfSpfRoute) : UInt8 ×ₗ UInt32 ×ₗ UInt32 ×ₗ Ipv4Addr ×ₗ Ipv4Addr :=
  toLex (rank self.source,toLex (self.metric,toLex (self.internal_cost,toLex (self.origin,self.first_hop))))

def install (routes : OrderedMap Ipv4Network OspfSpfRoute) (route : OspfSpfRoute) : OrderedMap Ipv4Network OspfSpfRoute :=
  if route.metric < 0x00ffffff ∧ (routes.get? route.network).all (fun old => route.preference < old.preference) then
    routes.insert route.network route
  else routes

/-- Reachability of an ASBR, used when an ABR originates Type 4 summaries. -/
structure OspfAsbrPath where
  metric : UInt32
  first_hop : Ipv4Addr
  inter_area : Bool
deriving DecidableEq

/-- One area's prefixes and ASBR paths. -/
structure OspfSpfResult where
  routes : OrderedMap Ipv4Network OspfSpfRoute
  asbrs : OrderedMap Ipv4Addr OspfAsbrPath

/-! ### The graph -/

/-- Flags and links of each router. -/
abbrev Routers := OrderedMap Ipv4Addr (UInt8 × List RouterLink)
/-- Mask, members and origin of each transit network. -/
abbrev Networks := OrderedMap Ipv4Addr (Ipv4Addr × List Ipv4Addr × Ipv4Addr)

def live (lsas : List Lsa) : List Lsa := lsas.filter (fun lsa => lsa.age < LSA_MAX_AGE)

def routers_of (lsas : List Lsa) : Routers :=
  OrderedMap.ofList (lsas.filterMap (fun lsa => match lsa.body with
    | .Router flags links => some (lsa.advertising_router,flags,links)
    | _ => none))

def networks_of (lsas : List Lsa) : Networks :=
  OrderedMap.ofList (lsas.filterMap (fun lsa => match lsa.body with
    | .Network mask routers => some (lsa.link_state_id,mask,routers,lsa.advertising_router)
    | _ => none))

/-- The edge of one link of a router. Links without a reciprocal advertisement
    cannot create reachability. -/
def link_edge (routers : Routers) (networks : Networks) (id : Ipv4Addr) (link : RouterLink) : Option (Vertex × UInt32) :=
  match link.kind with
  | .PointToPoint =>
    if (routers.get? link.id).any (fun other => other.2.any (fun back => back.kind = .PointToPoint ∧ back.id = id)) then
      some (.Router link.id,link.metric.toUInt32)
    else none
  | .Transit =>
    if (networks.get? link.id).any (fun network => network.2.1.contains id) then
      some (.Network link.id,link.metric.toUInt32)
    else none
  | _ => none

/-- The edge to one member of a transit network. -/
def member_edge (routers : Routers) (id member : Ipv4Addr) : Option (Vertex × UInt32) :=
  if (routers.get? member).any (fun other => other.2.any (fun back => back.kind = .Transit ∧ back.id = id)) then
    some (.Router member,0)
  else none

def edges (routers : Routers) (networks : Networks) : Vertex → List (Vertex × UInt32)
  | .Router id =>
    match routers.get? id with
    | none => []
    | some router => router.2.filterMap (link_edge routers networks id)
  | .Network id =>
    match networks.get? id with
    | none => []
    | some network => network.2.1.filterMap (member_edge routers id)

/-- The first hop of a path that reaches a vertex. -/
def first_hop_at (self_id : Ipv4Addr) (hop : Option Ipv4Addr) (next : Vertex) : Option Ipv4Addr :=
  hop.or (match next with
    | .Router id => if id ≠ self_id then some id else none
    | .Network _ => none)

/-- The candidates that a vertex offers to its neighbours. -/
def candidates (self_id : Ipv4Addr) (routers : Routers) (networks : Networks) (current : Vertex) (label : Label) :
    List (Vertex × Label) :=
  (edges routers networks current).map (fun edge =>
    (edge.1,⟨satAdd32 label.cost edge.2,first_hop_at self_id label.hop edge.1⟩))

instance finiteAddress : Finite Ipv4Addr :=
  Finite.of_injective (fun address : Ipv4Addr => (⟨address.toNat,address.toNat_lt⟩ : Fin (2 ^ 32)))
    (fun _ _ same => UInt32.toNat.inj (congrArg Fin.val same))

instance finiteVertex : Finite Vertex :=
  Finite.of_injective (fun vertex : Vertex => match vertex with
    | .Router id => (Sum.inl id : Ipv4Addr ⊕ Ipv4Addr)
    | .Network id => .inr id) (by rintro (id | id) (other | other) same <;> simp_all)

instance finiteLabel : Finite Label :=
  Finite.of_injective (fun label => (label.cost,label.hop)) (by
    rintro ⟨cost,hop⟩ ⟨cost',hop'⟩ same
    simpa using same)

/-- Labels of all reachable vertices. -/
def shortest_paths (self_id : Ipv4Addr) (routers : Routers) (networks : Networks) : OrderedMap Vertex Label :=
  (search (.Router self_id) (candidates self_id routers networks)
    (initial (MaxHeap.list entry_cmp) (.Router self_id) ⟨0,none⟩)).paths

/-! ### Prefixes -/

/-- The prefix of a stub link. -/
def stub_route (self_id id : Ipv4Addr) (label : Label) (link : RouterLink) : Option OspfSpfRoute :=
  if link.kind = .Stub then
    (network_of link.id link.data).map (fun network =>
      ⟨network,satAdd32 label.cost link.metric.toUInt32,label.cost,label.hop.getD self_id,id,.Ospf⟩)
  else none

/-- The prefixes of a reachable vertex. -/
def vertex_routes (self_id : Ipv4Addr) (routers : Routers) (networks : Networks) (vertex : Vertex) (label : Label) :
    List OspfSpfRoute :=
  match vertex with
  | .Router id =>
    match routers.get? id with
    | none => []
    | some router => router.2.filterMap (stub_route self_id id label)
  | .Network id =>
    match networks.get? id with
    | none => []
    | some network =>
      match network_of id network.1 with
      | none => []
      | some destination => [⟨destination,label.cost,label.cost,label.hop.getD self_id,network.2.2,.Ospf⟩]

def intra_area_routes (self_id : Ipv4Addr) (routers : Routers) (networks : Networks) (paths : OrderedMap Vertex Label) :
    OrderedMap Ipv4Network OspfSpfRoute :=
  (paths.entries.flatMap (fun entry => vertex_routes self_id routers networks entry.1 entry.2)).foldl install ∅

/-- Bit of the flags of a router. -/
def has_flag (routers : Routers) (id : Ipv4Addr) (flag : UInt8) : Bool :=
  (routers.get? id).any (fun router => router.1 &&& flag ≠ 0)

/-- A path to a router with its cost and first hop, smaller ones first. -/
abbrev HopPath := UInt32 ×ₗ Ipv4Addr

/-- One Type 4 summary. -/
def add_asbr_path (self_id : Ipv4Addr) (routers : Routers) (paths : OrderedMap Vertex Label)
    (asbr_paths : OrderedMap Ipv4Addr HopPath) (lsa : Lsa) : OrderedMap Ipv4Addr HopPath :=
  match lsa.body with
  | .AsbrSummary metric =>
    if lsa.advertising_router ≠ self_id ∧ metric < 0x00ffffff ∧ has_flag routers lsa.advertising_router 1 then
      match paths.get? (.Router lsa.advertising_router) with
      | some ⟨cost,some hop⟩ =>
        let candidate : HopPath := toLex (satAdd32 cost metric,hop)
        let old := (asbr_paths.get? lsa.link_state_id).getD candidate
        asbr_paths.insert lsa.link_state_id (min old candidate)
      | _ => asbr_paths
    else asbr_paths
  | _ => asbr_paths

/-- `Iterator::max_by_key` of the prefix length: the last longest one. -/
def longest : List OspfSpfRoute → Option OspfSpfRoute
  | [] => none
  | route :: rest => some (rest.foldl (fun best next =>
      if best.network.prefix_len ≤ next.network.prefix_len then next else best) route)

/-- The route towards a forwarding address. -/
def forwarding_route (routes : OrderedMap Ipv4Network OspfSpfRoute) (address : Ipv4Addr) : Option OspfSpfRoute :=
  longest (routes.values.filter (fun route =>
    (route.source = .Ospf ∨ route.source = .OspfInterArea) ∧ route.network.contains address))

/-- The path to the originator of a summary or an external prefix. -/
def originator_path (routers : Routers) (paths : OrderedMap Vertex Label) (asbr_paths : OrderedMap Ipv4Addr HopPath)
    (lsa : Lsa) : Option (UInt32 × Ipv4Addr) :=
  let path := (paths.get? (.Router lsa.advertising_router)).bind (fun label => label.hop.map (label.cost,·))
  match lsa.body with
  | .External .. =>
    (path.filter (fun _ => has_flag routers lsa.advertising_router 2)).or
      ((asbr_paths.get? lsa.advertising_router).map ofLex)
  | _ => path

/-- Summaries and externals of other routers, in the order of their keys. -/
def add_lsa_route (self_id : Ipv4Addr) (routers : Routers) (paths : OrderedMap Vertex Label)
    (asbr_paths : OrderedMap Ipv4Addr HopPath) (routes : OrderedMap Ipv4Network OspfSpfRoute) (lsa : Lsa) :
    OrderedMap Ipv4Network OspfSpfRoute :=
  if lsa.advertising_router = self_id then routes
  else
    match originator_path routers paths asbr_paths lsa with
    | none => routes
    | some (cost,hop) =>
      let add (mask metric : UInt32) (source : RouteSource) (first_hop : Ipv4Addr) (internal : UInt32) :=
        match network_of lsa.link_state_id mask with
        | none => routes
        | some network => install routes ⟨network,metric,internal,first_hop,lsa.advertising_router,source⟩
      match lsa.body with
      | .Summary mask metric =>
        if has_flag routers lsa.advertising_router 1 then add mask (satAdd32 cost metric) .OspfInterArea hop cost
        else routes
      | .External mask metric type_two forwarding_address _ =>
        let resolved :=
          if forwarding_address = 0 then some (cost,hop)
          else (forwarding_route routes forwarding_address).map (fun route => (route.metric,route.first_hop))
        match resolved with
        | none => routes
        | some (internal,hop) =>
          add mask (if type_two then metric else satAdd32 internal metric)
            (if type_two then .OspfExternal2 else .OspfExternal1) hop internal
      | _ => routes

/-- ASBRs of the area itself replace those learned from summaries. -/
def add_asbr (self_id : Ipv4Addr) (paths : OrderedMap Vertex Label) (asbrs : OrderedMap Ipv4Addr OspfAsbrPath)
    (router : Ipv4Addr × UInt8 × List RouterLink) : OrderedMap Ipv4Addr OspfAsbrPath :=
  if router.2.1 &&& 2 ≠ 0 then
    match paths.get? (.Router router.1) with
    | some label => asbrs.insert router.1 ⟨label.cost,label.hop.getD self_id,false⟩
    | none => asbrs
  else asbrs

/-- Calculate one area's intra-area, summary, and external prefixes. -/
def ospf_calculate (self_id : Ipv4Addr) (lsas : List Lsa) : OspfSpfResult :=
  let lsas := live lsas
  let routers := routers_of lsas
  let networks := networks_of lsas
  let paths := shortest_paths self_id routers networks
  let routes := intra_area_routes self_id routers networks paths
  -- summaries come before external forwarding addresses, independent of input order
  let ordered := lsas.insertionSort (fun first second => first.key ≤ second.key)
  let asbr_paths := ordered.foldl (add_asbr_path self_id routers paths) ∅
  let routes := ordered.foldl (add_lsa_route self_id routers paths asbr_paths) routes
  let asbrs := asbr_paths.mapValues (fun _ path => (⟨(ofLex path).1,(ofLex path).2,true⟩ : OspfAsbrPath))
  ⟨routes,routers.entries.foldl (add_asbr self_id paths) asbrs⟩

/-- Prefix routes for callers that do not originate summaries. -/
def ospf_spf (self_id : Ipv4Addr) (lsas : List Lsa) : OrderedMap Ipv4Network OspfSpfRoute :=
  (ospf_calculate self_id lsas).routes

end Rios.OspfSpf
