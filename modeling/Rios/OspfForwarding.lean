import Rios.OspfSpf
import Rios.Selection

/-!
# Hop-by-hop forwarding is loop free

Each router runs its own search over the same database. The label of a vertex at
one router bounds the length of the rest of the path as seen from the recorded
first hop, and the search at that hop finds a label no larger than this.
-/

namespace Rios.OspfSpf
open Rios.Machine Rios.Device Rios.Ospf Rios.LabelSearch

/-! ### Preference and installation -/

/-- A preferred route has no worse rank, and among equal ranks no larger metric. -/
theorem preference_le {first second : OspfSpfRoute} (preferred : first.preference ≤ second.preference) :
    rank first.source ≤ rank second.source ∧
      (rank first.source = rank second.source → first.metric ≤ second.metric) := by
  unfold OspfSpfRoute.preference at preferred
  rw [Prod.Lex.toLex_le_toLex] at preferred
  rcases preferred with lower | ⟨same,rest⟩
  · exact ⟨lower.le,fun equal => absurd equal lower.ne⟩
  · rw [Prod.Lex.toLex_le_toLex] at rest
    refine ⟨same.le,fun _ => ?_⟩
    rcases rest with lower | ⟨equal,-⟩
    · exact lower.le
    · exact equal.le

/-- What installing a route does at a prefix: nothing, or it puts the route there. -/
theorem install_cases (routes : OrderedMap Ipv4Network OspfSpfRoute) (route : OspfSpfRoute) :
    (install routes route = routes ∧ (route.metric < 0x00ffffff →
      ∃ old, routes.get? route.network = some old ∧ old.preference ≤ route.preference)) ∨
    (install routes route = routes.insert route.network route ∧ route.metric < 0x00ffffff ∧
      ∀ old, routes.get? route.network = some old → route.preference < old.preference) :=
  @Selection.select_cases _ _ _ _ _ OspfSpfRoute.network OspfSpfRoute.preference (fun route => route.metric < 0x00ffffff) _
    routes route

/-- The routes of a map are those of a list, below the infinite metric and under their prefixes. -/
def FromList (list : List OspfSpfRoute) (routes : OrderedMap Ipv4Network OspfSpfRoute) : Prop :=
  ∀ network route, routes.get? network = some route →
    route ∈ list ∧ route.network = network ∧ route.metric < 0x00ffffff

/-- Every prefix of a list has a route that no route of the list is preferred to. -/
def Covers (routes : OrderedMap Ipv4Network OspfSpfRoute) (list : List OspfSpfRoute) : Prop :=
  ∀ route ∈ list, route.metric < 0x00ffffff →
    ∃ best, routes.get? route.network = some best ∧ best.preference ≤ route.preference

/-- Installing a list keeps the most preferred route of each prefix. -/
theorem foldl_install_correct (list : List OspfSpfRoute) :
    FromList list (list.foldl install ∅) ∧ Covers (list.foldl install ∅) list :=
  @Selection.foldl_select_correct _ _ _ _ _ OspfSpfRoute.network OspfSpfRoute.preference
    (fun route => route.metric < 0x00ffffff) _ list

/-! ### Intra-area routes win -/

/-- A route of any other source leaves the intra-area routes alone. -/
theorem install_intra_iff {routes : OrderedMap Ipv4Network OspfSpfRoute} {route : OspfSpfRoute}
    (other : 1 ≤ rank route.source) (network : Ipv4Network) (found : OspfSpfRoute) (intra : found.source = .Ospf) :
    (install routes route).get? network = some found ↔ routes.get? network = some found := by
  have lowest : rank found.source = 0 := by rw [intra]; rfl
  rcases install_cases routes route with ⟨same,-⟩ | ⟨taken,-,preferred⟩
  · rw [same]
  · rw [taken,OrderedMap.get?_insert]
    by_cases target : network = route.network
    · rw [if_pos target]
      constructor
      · intro new
        cases new
        rw [lowest] at other
        exact absurd other (by decide)
      · intro old
        have better := (preference_le (preferred found (target ▸ old)).le).1
        rw [lowest] at better
        exact absurd (other.trans better) (by decide)
    · rw [if_neg target]

theorem add_lsa_route_intra_iff (self_id : Ipv4Addr) (routers : Routers) (paths : OrderedMap Vertex Label)
    (asbr_paths : OrderedMap Ipv4Addr HopPath) (routes : OrderedMap Ipv4Network OspfSpfRoute) (lsa : Lsa)
    (network : Ipv4Network) (found : OspfSpfRoute) (intra : found.source = .Ospf) :
    (add_lsa_route self_id routers paths asbr_paths routes lsa).get? network = some found ↔
      routes.get? network = some found := by
  have interArea : (1 : UInt8) ≤ rank .OspfInterArea := by decide
  have external : ∀ type_two : Bool, (1 : UInt8) ≤ rank (if type_two then .OspfExternal2 else .OspfExternal1) := by decide
  unfold add_lsa_route
  split
  · rfl
  · split
    · rfl
    · rename_i cost hop _
      simp only
      split
      · split
        · split
          · rfl
          · exact install_intra_iff interArea network found intra
        · rfl
      · rename_i mask metric type_two forwarding_address _ _
        split
        · rfl
        · split
          · rfl
          · exact install_intra_iff (external type_two) network found intra
      · rfl

/-- The intra-area routes of a calculation are those found before summaries and externals. -/
theorem ospf_spf_intra_iff (self_id : Ipv4Addr) (lsas : List Lsa) (network : Ipv4Network) (found : OspfSpfRoute)
    (intra : found.source = .Ospf) :
    (ospf_spf self_id lsas).get? network = some found ↔
      (intra_area_routes self_id (routers_of (live lsas)) (networks_of (live lsas))
        (shortest_paths self_id (routers_of (live lsas)) (networks_of (live lsas)))).get? network = some found := by
  have fold : ∀ (list : List Lsa) (routers : Routers) (paths : OrderedMap Vertex Label)
      (asbr_paths : OrderedMap Ipv4Addr HopPath) (routes : OrderedMap Ipv4Network OspfSpfRoute),
      (list.foldl (add_lsa_route self_id routers paths asbr_paths) routes).get? network = some found ↔
        routes.get? network = some found := by
    intro list routers paths asbr_paths
    induction list with
    | nil => exact fun _ => .rfl
    | cons lsa rest ih =>
      intro routes
      rw [List.foldl_cons,ih]
      exact add_lsa_route_intra_iff self_id routers paths asbr_paths routes lsa network found intra
  exact fold _ _ _ _ _

/-! ### Advertised prefixes -/

/-- The prefixes of a vertex with the cost behind it and their origin, for every root alike. -/
def adverts (routers : Routers) (networks : Networks) : Vertex → List (Ipv4Network × UInt32 × Ipv4Addr)
  | .Router id =>
    match routers.get? id with
    | none => []
    | some router => router.2.filterMap (fun link =>
        if link.kind = .Stub then (network_of link.id link.data).map (fun network => (network,link.metric.toUInt32,id))
        else none)
  | .Network id =>
    match networks.get? id with
    | none => []
    | some network => ((network_of id network.1).map (fun destination => (destination,0,network.2.2))).toList

/-- The route of a root to an advertised prefix. -/
def advertRoute (self_id : Ipv4Addr) (label : Label) (advert : Ipv4Network × UInt32 × Ipv4Addr) : OspfSpfRoute :=
  ⟨advert.1,satAdd32 label.cost advert.2.1,label.cost,label.hop.getD self_id,advert.2.2,.Ospf⟩

theorem vertex_routes_eq (self_id : Ipv4Addr) (routers : Routers) (networks : Networks) (vertex : Vertex) (label : Label) :
    vertex_routes self_id routers networks vertex label =
      (adverts routers networks vertex).map (advertRoute self_id label) := by
  cases vertex with
  | Router id =>
    simp only [vertex_routes,adverts]
    cases routers.get? id with
    | none => rfl
    | some router =>
      simp only
      rw [List.map_filterMap]
      congr 1
      funext link
      unfold stub_route
      by_cases stub : link.kind = .Stub
      · rw [if_pos stub,if_pos stub,Option.map_map]
        rfl
      · rw [if_neg stub,if_neg stub]
        rfl
  | Network id =>
    simp only [vertex_routes,adverts]
    cases networks.get? id with
    | none => rfl
    | some network =>
      simp only
      cases network_of id network.1 with
      | none => rfl
      | some destination =>
        simp only [Option.map_some,Option.toList_some,List.map_cons,List.map_nil,advertRoute,satAdd32_zero]

/-- An intra-area route is the most preferred one to an advertiser of its prefix. -/
theorem intra_area_routes_correct (self_id : Ipv4Addr) (routers : Routers) (networks : Networks)
    (paths : OrderedMap Vertex Label) :
    (∀ network route, (intra_area_routes self_id routers networks paths).get? network = some route →
      route.network = network ∧ route.metric < 0x00ffffff ∧ ∃ vertex label, paths.get? vertex = some label ∧
        ∃ advert ∈ adverts routers networks vertex, route = advertRoute self_id label advert) ∧
    ∀ vertex label, paths.get? vertex = some label → ∀ advert ∈ adverts routers networks vertex,
      (advertRoute self_id label advert).metric < 0x00ffffff →
        ∃ best, (intra_area_routes self_id routers networks paths).get? advert.1 = some best ∧
          best.preference ≤ (advertRoute self_id label advert).preference := by
  obtain ⟨fromList,covers⟩ := foldl_install_correct
    (paths.entries.flatMap (fun entry => vertex_routes self_id routers networks entry.1 entry.2))
  constructor
  · intro network route found
    obtain ⟨member,same,finite⟩ := fromList network route found
    obtain ⟨⟨vertex,label⟩,entry,produced⟩ := List.mem_flatMap.mp member
    rw [vertex_routes_eq] at produced
    obtain ⟨advert,listed,rfl⟩ := List.mem_map.mp produced
    exact ⟨same,finite,vertex,label,(OrderedMap.get?_eq_some _ _ _).mpr entry,advert,listed,rfl⟩
  · intro vertex label found advert listed finite
    refine covers (advertRoute self_id label advert) (List.mem_flatMap.mpr ⟨(vertex,label),?_,?_⟩) finite
    · exact (OrderedMap.get?_eq_some _ _ _).mp found
    · rw [vertex_routes_eq]
      exact List.mem_map_of_mem listed

/-! ### Paths -/

/-- A path between two vertices with its cost. -/
inductive Reach (routers : Routers) (networks : Networks) (source : Vertex) : Vertex → Nat → Prop
  | here : Reach routers networks source source 0
  | edge {vertex : Vertex} {cost : Nat} {next : Vertex × UInt32} : Reach routers networks source vertex cost →
      next ∈ edges routers networks vertex → Reach routers networks source next.1 (cost + next.2.toNat)

/-- Point-to-point and transit links cost something. -/
def Positive (routers : Routers) : Prop :=
  ∀ id router, routers.get? id = some router → ∀ link ∈ router.2,
    link.kind = .PointToPoint ∨ link.kind = .Transit → 1 ≤ link.metric

variable {networks : Networks} {routers : Routers}

theorem router_edge_positive (positive : Positive routers) {id : Ipv4Addr} {next : Vertex × UInt32}
    (edge : next ∈ edges routers networks (.Router id)) : 1 ≤ next.2.toNat := by
  simp only [edges] at edge
  split at edge
  · cases edge
  · rename_i router found
    obtain ⟨link,member,made⟩ := List.mem_filterMap.mp edge
    have cost := positive id router found link member
    have number : 1 ≤ link.metric → 1 ≤ link.metric.toUInt32.toNat := by
      intro atLeast
      rw [UInt16.toNat_toUInt32]
      exact UInt16.le_iff_toNat_le.mp atLeast
    unfold link_edge at made
    split at made
    · rename_i kind
      split at made
      · cases made
        exact number (cost (.inl kind))
      · cases made
    · rename_i kind
      split at made
      · cases made
        exact number (cost (.inr kind))
      · cases made
    · cases made

/-- From a transit network one gets to routers only, at no cost. -/
theorem network_edge {id : Ipv4Addr} {next : Vertex × UInt32} (edge : next ∈ edges routers networks (.Network id)) :
    ∃ member, next = (.Router member,0) := by
  simp only [edges] at edge
  split at edge
  · cases edge
  · obtain ⟨member,-,made⟩ := List.mem_filterMap.mp edge
    unfold member_edge at made
    split at made
    · cases made
      exact ⟨member,rfl⟩
    · cases made

/-- What a label at a root says: the root itself, a network next to it, or a path
    over a first hop that leaves less than the whole cost. -/
inductive Meaning (routers : Routers) (networks : Networks) (self_id : Ipv4Addr) : Vertex → Label → Prop
  | root : Meaning routers networks self_id (.Router self_id) ⟨0,none⟩
  | attached {id : Ipv4Addr} {cost : UInt32} (positive : 1 ≤ cost.toNat) :
      Meaning routers networks self_id (.Network id) ⟨cost,none⟩
  | via {vertex : Vertex} {label : Label} {hop : Ipv4Addr} {rest : Nat} (first : label.hop = some hop)
      (path : Reach routers networks (.Router hop) vertex rest) (less : min (rest + 1) (2 ^ 32 - 1) ≤ label.cost.toNat) :
      Meaning routers networks self_id vertex label

variable {self_id : Ipv4Addr}

theorem derived_meaning (positive : Positive routers) {vertex : Vertex} {label : Label}
    (derived : Derived (.Router self_id) (candidates self_id routers networks) ⟨0,none⟩ vertex label) :
    Meaning routers networks self_id vertex label := by
  induction derived with
  | root => exact .root
  | @offer vertex own offered from_ member other ih =>
    obtain ⟨⟨next,metric⟩,edge,rfl⟩ := List.mem_map.mp member
    simp only at other ⊢
    have cost : (satAdd32 own.cost metric).toNat = min (own.cost.toNat + metric.toNat) (2 ^ 32 - 1) := satAdd32_toNat _ _
    cases ih with
    | root =>
      have some := router_edge_positive positive edge
      have bound := metric.toNat_lt
      simp only [UInt32.toNat_zero] at cost some
      cases next with
      | Router id =>
        have different : id ≠ self_id := fun same => other (congrArg Vertex.Router same)
        refine @Meaning.via _ _ _ _ _ id 0 ?_ .here ?_
        · simp only [first_hop_at,Option.none_or,if_pos different]
        · simp only
          omega
      | Network id =>
        have none : first_hop_at self_id none (.Network id) = none := rfl
        have atLeast : 1 ≤ (satAdd32 0 metric).toNat := by omega
        rw [none]
        exact .attached atLeast
    | @attached id found atLeast =>
      obtain ⟨router,same⟩ := network_edge edge
      cases same
      simp only [UInt32.toNat_zero] at cost
      have bound := found.toNat_lt
      have different : router ≠ self_id := fun same => other (congrArg Vertex.Router same)
      refine @Meaning.via _ _ _ _ _ router 0 ?_ .here ?_
      · simp only [first_hop_at,Option.none_or,if_pos different]
      · simp only
        omega
    | @via _ _ hop rest first path less =>
      refine @Meaning.via _ _ _ _ _ hop (rest + metric.toNat) ?_ (path.edge edge) ?_
      · simp only [first_hop_at,first,Option.some_or]
      · simp only
        omega

/-- Every path from the root bounds the label of its end. -/
theorem label_le_of_reach {vertex : Vertex} {cost : Nat} (path : Reach routers networks (.Router self_id) vertex cost) :
    ∃ label, (shortest_paths self_id routers networks).get? vertex = some label ∧ label.cost.toNat ≤ cost := by
  obtain ⟨sound,settled⟩ := search_correct (.Router self_id) (candidates self_id routers networks)
    (MaxHeap.list entry_cmp) ⟨0,none⟩
  induction path with
  | here => exact ⟨⟨0,none⟩,sound.root,le_rfl⟩
  | @edge vertex cost next path edge ih =>
    obtain ⟨label,found,below⟩ := ih
    have offered := List.mem_map_of_mem (f := fun edge : Vertex × UInt32 =>
      (edge.1,(⟨satAdd32 label.cost edge.2,first_hop_at self_id label.hop edge.1⟩ : Label))) edge
    rcases settled vertex label found _ offered with root | ⟨old,least,now⟩
    · refine ⟨⟨0,none⟩,?_,Nat.zero_le _⟩
      simp only at root
      rw [root]
      exact sound.root
    · refine ⟨old,now,?_⟩
      have lower : old.cost ≤ satAdd32 label.cost next.2 := by
        have lex : toLex (old.cost,hop_order old.hop) ≤ toLex (satAdd32 label.cost next.2,_) := least
        rw [Prod.Lex.toLex_le_toLex] at lex
        rcases lex with less | ⟨same,-⟩
        · exact less.le
        · exact same.le
      have number := UInt32.le_iff_toNat_le.mp lower
      rw [satAdd32_toNat] at number
      omega

/-! ### Following first hops -/

/-- Every point-to-point and transit link of a database costs something. -/
def PositiveMetrics (lsas : List Lsa) : Prop :=
  ∀ lsa ∈ lsas, ∀ flags links, lsa.body = .Router flags links → ∀ link ∈ links,
    link.kind = .PointToPoint ∨ link.kind = .Transit → 1 ≤ link.metric

theorem positive_routers {lsas : List Lsa} (positive : PositiveMetrics lsas) : Positive (routers_of (live lsas)) := by
  intro id router found link member
  obtain ⟨lsa,listed,made⟩ := List.mem_filterMap.mp (OrderedMap.get?_ofList_mem found)
  split at made
  · rename_i flags links body
    cases made
    exact positive lsa (List.mem_filter.mp listed).1 flags links body link member
  · cases made

/-- The rest of a path to an advertiser is shorter when it is seen from the first hop. -/
theorem intra_next_hop_closer (positive : Positive routers) {network : Ipv4Network} {route : OspfSpfRoute}
    (found : (intra_area_routes self_id routers networks (shortest_paths self_id routers networks)).get? network =
    some route) (other : route.first_hop ≠ self_id) :
    ∃ next, (intra_area_routes route.first_hop routers networks
      (shortest_paths route.first_hop routers networks)).get? network = some next ∧ next.source = .Ospf ∧
        next.metric < route.metric := by
  obtain ⟨same,finite,vertex,label,labelled,advert,listed,rfl⟩ :=
    (intra_area_routes_correct self_id routers networks _).1 network route found
  obtain ⟨sound,-⟩ := search_correct (.Router self_id) (candidates self_id routers networks)
    (MaxHeap.list entry_cmp) ⟨0,none⟩
  have metric : (satAdd32 label.cost advert.2.1).toNat = min (label.cost.toNat + advert.2.1.toNat) (2 ^ 32 - 1) :=
    satAdd32_toNat _ _
  have bounded : (satAdd32 label.cost advert.2.1).toNat < 0x00ffffff := UInt32.lt_iff_toNat_lt.mp finite
  -- the label names a first hop, since the route does not stay at the root
  cases derived_meaning positive (sound.derived vertex label labelled) with
  | root => exact absurd rfl other
  | attached _ => exact absurd rfl other
  | @via _ _ hop rest first path less =>
    have isHop : (advertRoute self_id label advert).first_hop = hop := by
      simp only [advertRoute,first,Option.getD_some]
    rw [isHop]
    obtain ⟨nearer,known,below⟩ := label_le_of_reach path
    have nearerMetric : (satAdd32 nearer.cost advert.2.1).toNat = min (nearer.cost.toNat + advert.2.1.toNat) (2 ^ 32 - 1) :=
      satAdd32_toNat _ _
    have closer : (advertRoute hop nearer advert).metric < (advertRoute self_id label advert).metric := by
      apply UInt32.lt_iff_toNat_lt.mpr
      simp only [advertRoute]
      omega
    obtain ⟨best,installed,preferred⟩ := (intra_area_routes_correct hop routers networks _).2 vertex nearer known advert
      listed (closer.trans finite)
    obtain ⟨-,-,_,_,-,_,-,shape⟩ := (intra_area_routes_correct hop routers networks _).1 _ best installed
    have intra : best.source = .Ospf := by rw [shape]; rfl
    have equal : rank best.source = rank (advertRoute hop nearer advert).source := by rw [intra]; rfl
    exact ⟨best,same ▸ installed,intra,((preference_le preferred).2 equal).trans_lt closer⟩

/-- The next router has an intra-area route of its own, with a smaller metric. -/
theorem next_hop_closer {lsas : List Lsa} (positive : PositiveMetrics lsas) {network : Ipv4Network}
    {route : OspfSpfRoute} (found : (ospf_spf self_id lsas).get? network = some route) (intra : route.source = .Ospf)
    (other : route.first_hop ≠ self_id) :
    ∃ next, (ospf_spf route.first_hop lsas).get? network = some next ∧ next.source = .Ospf ∧ next.metric < route.metric := by
  rw [ospf_spf_intra_iff _ _ _ _ intra] at found
  obtain ⟨next,installed,same,closer⟩ := intra_next_hop_closer (positive_routers positive) found other
  exact ⟨next,(ospf_spf_intra_iff _ _ _ _ same).mpr installed,same,closer⟩

/-- The router that a packet for a prefix is at after some hops. -/
def follow (lsas : List Lsa) (network : Ipv4Network) : Nat → Ipv4Addr → Ipv4Addr
  | 0,router => router
  | hops + 1,router =>
    match (ospf_spf router lsas).get? network with
    | none => router
    | some route => follow lsas network hops route.first_hop

/-- Forwarding along first hops gets closer with every hop and ends at a router
    that is its own first hop. -/
theorem forwarding_loop_free {lsas : List Lsa} (positive : PositiveMetrics lsas) {self_id : Ipv4Addr}
    {network : Ipv4Network} {route : OspfSpfRoute} (found : (ospf_spf self_id lsas).get? network = some route)
    (intra : route.source = .Ospf) :
    (route.first_hop ≠ self_id → ∃ next, (ospf_spf route.first_hop lsas).get? network = some next ∧
      next.source = .Ospf ∧ next.metric < route.metric) ∧
    ∃ hops last, (ospf_spf (follow lsas network hops self_id) lsas).get? network = some last ∧ last.source = .Ospf ∧
      last.first_hop = follow lsas network hops self_id := by
  refine ⟨next_hop_closer positive found intra,?_⟩
  induction size : route.metric.toNat using Nat.strong_induction_on generalizing self_id route with
  | _ size ih =>
    subst size
    by_cases here : route.first_hop = self_id
    · exact ⟨0,route,found,intra,here⟩
    · obtain ⟨next,known,same,closer⟩ := next_hop_closer positive found intra here
      obtain ⟨hops,last,ends⟩ := ih next.metric.toNat (UInt32.lt_iff_toNat_lt.mp closer) known same rfl
      refine ⟨hops + 1,last,?_⟩
      rw [follow,found]
      exact ends

/-- Two routers and a stub network behind the second one. -/
def pair_database : List Lsa := [⟨0,2,1,1,-2147483647,.Router 0 [⟨2,0,.PointToPoint,10⟩]⟩,
  ⟨0,2,2,2,-2147483647,.Router 0 [⟨1,0,.PointToPoint,10⟩,⟨0xc0000200,0xffffff00,.Stub,3⟩]⟩]

theorem forwarding_loop_free_pair :
    ∃ hops last, (ospf_spf (follow pair_database ⟨0xc0000200,24,by decide,by decide⟩ hops 1) pair_database).get?
      ⟨0xc0000200,24,by decide,by decide⟩ = some last ∧ last.source = .Ospf ∧
        last.first_hop = follow pair_database ⟨0xc0000200,24,by decide,by decide⟩ hops 1 := by
  have paths : shortest_paths 1 (routers_of (live pair_database)) (networks_of (live pair_database)) =
      ⟨[(.Router 1,⟨0,none⟩),(.Router 2,⟨10,some 2⟩)],by decide⟩ := by
    unfold shortest_paths
    rw [search_of_step _ _ (by rfl),search_of_step _ _ (by rfl),search_of_stuck _ _ (by rfl)]
    rfl
  have found : (ospf_spf 1 pair_database).get? ⟨0xc0000200,24,by decide,by decide⟩ =
      some ⟨⟨0xc0000200,24,by decide,by decide⟩,13,10,2,2,.Ospf⟩ := by
    rw [ospf_spf_intra_iff _ _ _ _ rfl,paths]
    rfl
  have positive : PositiveMetrics pair_database := by
    intro lsa listed flags links body link member kind
    simp only [pair_database,List.mem_cons,List.not_mem_nil,or_false] at listed
    rcases listed with rfl | rfl
    · cases body
      simp only [List.mem_singleton] at member
      subst member
      decide
    · cases body
      simp only [List.mem_cons,List.not_mem_nil,or_false] at member
      rcases member with rfl | rfl
      · decide
      · simp at kind
  exact (forwarding_loop_free positive found rfl).2

end Rios.OspfSpf
