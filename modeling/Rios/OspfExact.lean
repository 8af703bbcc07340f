import Rios.OspfForwarding

/-!
# OSPFv2 shortest paths are exact

The graph of a database as its advertisements describe it, and what a calculation
says about its paths. A calculation does not see the order of the database.
-/

namespace Rios.OspfSpf
open Rios.Machine Rios.Device Rios.Ospf Rios.LabelSearch

/-! ### The graph of a database -/

/-- A router describes itself once, and so does a transit network. -/
structure OneEach (lsas : List Lsa) : Prop where
  routers : ∀ first ∈ live lsas, ∀ second ∈ live lsas, first.key.kind = .Router → second.key.kind = .Router →
    first.advertising_router = second.advertising_router → first = second
  networks : ∀ first ∈ live lsas, ∀ second ∈ live lsas, first.key.kind = .Network → second.key.kind = .Network →
    first.link_state_id = second.link_state_id → first = second

/-- A live advertisement gives a router these links. -/
def HasRouter (lsas : List Lsa) (id : Ipv4Addr) (links : List RouterLink) : Prop :=
  ∃ lsa ∈ live lsas, lsa.advertising_router = id ∧ ∃ flags, lsa.body = .Router flags links

/-- A live advertisement gives a transit network this mask and these members. -/
def HasNetwork (lsas : List Lsa) (id mask : Ipv4Addr) (members : List Ipv4Addr) : Prop :=
  ∃ lsa ∈ live lsas, lsa.link_state_id = id ∧ lsa.body = .Network mask members

/-- Reciprocal point-to-point links, and routers and transit networks that name each other. -/
inductive Edge (lsas : List Lsa) : Vertex → Vertex → UInt32 → Prop
  | pointToPoint {id : Ipv4Addr} {links others : List RouterLink} {link back : RouterLink} (near : HasRouter lsas id links)
      (out : link ∈ links) (kind : link.kind = .PointToPoint) (far : HasRouter lsas link.id others) (home : back ∈ others)
      (backKind : back.kind = .PointToPoint) (reciprocal : back.id = id) :
      Edge lsas (.Router id) (.Router link.id) link.metric.toUInt32
  | transit {id mask : Ipv4Addr} {links : List RouterLink} {link : RouterLink} {members : List Ipv4Addr}
      (near : HasRouter lsas id links) (out : link ∈ links) (kind : link.kind = .Transit)
      (network : HasNetwork lsas link.id mask members) (named : id ∈ members) :
      Edge lsas (.Router id) (.Network link.id) link.metric.toUInt32
  | member {id mask member : Ipv4Addr} {members : List Ipv4Addr} {links : List RouterLink} {back : RouterLink}
      (network : HasNetwork lsas id mask members) (named : member ∈ members) (router : HasRouter lsas member links)
      (home : back ∈ links) (kind : back.kind = .Transit) (names : back.id = id) :
      Edge lsas (.Network id) (.Router member) 0

/-- A path from a router: the vertices after it, the last of them, and the cost. -/
inductive Path (lsas : List Lsa) (self_id : Ipv4Addr) : List Vertex → Vertex → UInt32 → Prop
  | here : Path lsas self_id [] (.Router self_id) 0
  | edge {steps : List Vertex} {vertex next : Vertex} {cost metric : UInt32} (path : Path lsas self_id steps vertex cost)
      (edge : Edge lsas vertex next metric) : Path lsas self_id (steps ++ [next]) next (satAdd32 cost metric)

/-- The router that a vertex is, unless it is a network or the router itself. -/
def otherRouter (self_id : Ipv4Addr) : Vertex → Option Ipv4Addr
  | .Router id => if id ≠ self_id then some id else none
  | .Network _ => none

/-- The first router other than the own one on a path; the own one where there is none. -/
def firstHop (self_id : Ipv4Addr) (steps : List Vertex) : Ipv4Addr := (steps.findSome? (otherRouter self_id)).getD self_id

/-- A vertex advertises a prefix at a metric, for an originator: a stub link of a router, or a transit network itself. -/
inductive Advertises (lsas : List Lsa) : Vertex → Ipv4Network → UInt32 → Ipv4Addr → Prop
  | stub {id : Ipv4Addr} {links : List RouterLink} {link : RouterLink} {network : Ipv4Network}
      (router : HasRouter lsas id links) (out : link ∈ links) (kind : link.kind = .Stub)
      (destination : network_of link.id link.data = some network) :
      Advertises lsas (.Router id) network link.metric.toUInt32 id
  | transit {lsa : Lsa} {mask : Ipv4Addr} {members : List Ipv4Addr} {network : Ipv4Network} (listed : lsa ∈ live lsas)
      (body : lsa.body = .Network mask members) (destination : network_of lsa.link_state_id mask = some network) :
      Advertises lsas (.Network lsa.link_state_id) network 0 lsa.advertising_router

/-- What a router is attached to directly: itself at no cost, and the transit networks of its links. -/
inductive Attached (lsas : List Lsa) (self_id : Ipv4Addr) : Vertex → UInt32 → Prop
  | own : Attached lsas self_id (.Router self_id) 0
  | network {id : Ipv4Addr} {metric : UInt32} (edge : Edge lsas (.Router self_id) (.Network id) metric) :
      Attached lsas self_id (.Network id) metric

/-! ### The maps of a calculation -/

variable {lsas : List Lsa}

theorem routers_of_get? (one : OneEach lsas) (id : Ipv4Addr) (flags : UInt8) (links : List RouterLink) :
    (routers_of (live lsas)).get? id = some (flags,links) ↔
      ∃ lsa ∈ live lsas, lsa.advertising_router = id ∧ lsa.body = .Router flags links := by
  unfold routers_of
  refine OrderedMap.get?_ofList_filterMap
    (fun (lsa : Lsa) (entry : UInt8 × List RouterLink) => lsa.advertising_router = id ∧ lsa.body = .Router entry.1 entry.2) ?_ ?_ _
  · intro lsa entry
    cases body : lsa.body <;> simp [Prod.ext_iff]
  · rintro lsa listed lsa' listed' first second ⟨here,body⟩ ⟨there,body'⟩
    have equal := one.routers lsa' listed' lsa listed (by rw [Lsa.key,body']; rfl) (by rw [Lsa.key,body]; rfl)
      (there.trans here.symm)
    rw [equal,body] at body'
    obtain ⟨flags,links⟩ := LsaBody.Router.inj body'
    exact Prod.ext flags links

theorem networks_of_get? (one : OneEach lsas) (id mask : Ipv4Addr) (members : List Ipv4Addr) (origin : Ipv4Addr) :
    (networks_of (live lsas)).get? id = some (mask,members,origin) ↔
      ∃ lsa ∈ live lsas, lsa.link_state_id = id ∧ lsa.body = .Network mask members ∧ lsa.advertising_router = origin := by
  unfold networks_of
  refine OrderedMap.get?_ofList_filterMap (fun (lsa : Lsa) (entry : Ipv4Addr × List Ipv4Addr × Ipv4Addr) =>
    lsa.link_state_id = id ∧ lsa.body = .Network entry.1 entry.2.1 ∧ lsa.advertising_router = entry.2.2) ?_ ?_ _
  · intro lsa entry
    cases body : lsa.body <;> simp [Prod.ext_iff,and_assoc]
  · rintro lsa listed lsa' listed' first second ⟨here,body,origin⟩ ⟨there,body',origin'⟩
    have equal := one.networks lsa' listed' lsa listed (by rw [Lsa.key,body']; rfl) (by rw [Lsa.key,body]; rfl)
      (there.trans here.symm)
    rw [equal,body] at body'
    obtain ⟨masks,members⟩ := LsaBody.Network.inj body'
    rw [equal] at origin'
    exact Prod.ext masks (Prod.ext members (origin.symm.trans origin'))

theorem hasRouter_iff (one : OneEach lsas) (id : Ipv4Addr) (links : List RouterLink) :
    HasRouter lsas id links ↔ ∃ flags, (routers_of (live lsas)).get? id = some (flags,links) := by
  simp only [routers_of_get? one,HasRouter]
  grind

theorem hasNetwork_iff (one : OneEach lsas) (id mask : Ipv4Addr) (members : List Ipv4Addr) :
    HasNetwork lsas id mask members ↔ ∃ origin, (networks_of (live lsas)).get? id = some (mask,members,origin) := by
  simp only [networks_of_get? one,HasNetwork]
  grind

theorem link_edge_iff (one : OneEach lsas) (id : Ipv4Addr) (link : RouterLink) (next : Vertex) (metric : UInt32) :
    link_edge (routers_of (live lsas)) (networks_of (live lsas)) id link = some (next,metric) ↔
      metric = link.metric.toUInt32 ∧
        (link.kind = .PointToPoint ∧ next = .Router link.id ∧
            (∃ others, HasRouter lsas link.id others ∧ ∃ back ∈ others, back.kind = .PointToPoint ∧ back.id = id) ∨
          link.kind = .Transit ∧ next = .Network link.id ∧
            ∃ mask members, HasNetwork lsas link.id mask members ∧ id ∈ members) := by
  unfold link_edge
  simp only [hasRouter_iff one,hasNetwork_iff one]
  split
  · rename_i kind
    simp only [kind,true_and,reduceCtorEq,false_and,or_false,Option.ite_none_right_eq_some,Option.any_eq_true,List.any_eq_true,
      decide_eq_true_eq,Option.some.injEq,Prod.mk.injEq,Prod.exists]
    grind
  · rename_i kind
    simp only [kind,true_and,reduceCtorEq,false_and,false_or,Option.ite_none_right_eq_some,Option.any_eq_true,
      List.contains_iff_mem,Option.some.injEq,Prod.mk.injEq,Prod.exists]
    grind
  · rename_i other_ other
    simp only [reduceCtorEq,false_iff,not_and,not_or]
    intro _
    exact ⟨fun kind => absurd kind other_,fun kind => absurd kind other⟩

theorem member_edge_iff (one : OneEach lsas) (id member : Ipv4Addr) (next : Vertex) (metric : UInt32) :
    member_edge (routers_of (live lsas)) id member = some (next,metric) ↔
      metric = 0 ∧ next = .Router member ∧
        ∃ links, HasRouter lsas member links ∧ ∃ back ∈ links, back.kind = .Transit ∧ back.id = id := by
  unfold member_edge
  simp only [hasRouter_iff one,Option.ite_none_right_eq_some,Option.any_eq_true,List.any_eq_true,decide_eq_true_eq,
    Option.some.injEq,Prod.mk.injEq,Prod.exists]
  grind

/-- The edges that a search follows are those of the database. -/
theorem edges_iff (one : OneEach lsas) (vertex next : Vertex) (metric : UInt32) :
    (next,metric) ∈ edges (routers_of (live lsas)) (networks_of (live lsas)) vertex ↔ Edge lsas vertex next metric := by
  constructor
  · intro member
    cases vertex with
    | Router id =>
      simp only [edges] at member
      split at member
      · cases member
      · rename_i router found
        obtain ⟨link,out,made⟩ := List.mem_filterMap.mp member
        have near : HasRouter lsas id router.2 := (hasRouter_iff one id router.2).mpr ⟨router.1,found⟩
        obtain ⟨rfl,⟨kind,rfl,others,far,back,home,backKind,reciprocal⟩ | ⟨kind,rfl,mask,members,network,named⟩⟩ :=
          (link_edge_iff one id link next metric).mp made
        · exact .pointToPoint near out kind far home backKind reciprocal
        · exact .transit near out kind network named
    | Network id =>
      simp only [edges] at member
      split at member
      · cases member
      · rename_i network found
        obtain ⟨peer,named,made⟩ := List.mem_filterMap.mp member
        have attached : HasNetwork lsas id network.1 network.2.1 := (hasNetwork_iff one _ _ _).mpr ⟨network.2.2,found⟩
        obtain ⟨rfl,rfl,links,router,back,home,kind,names⟩ := (member_edge_iff one id peer next metric).mp made
        exact .member attached named router home kind names
  · intro edge
    cases edge with
    | pointToPoint near out kind far home backKind reciprocal =>
      rename_i id links others link back
      obtain ⟨flags,found⟩ := (hasRouter_iff one _ _).mp near
      simp only [edges,found]
      exact List.mem_filterMap.mpr ⟨link,out,(link_edge_iff one _ _ _ _).mpr
        ⟨rfl,.inl ⟨kind,rfl,others,far,back,home,backKind,reciprocal⟩⟩⟩
    | transit near out kind network named =>
      rename_i id mask links link members
      obtain ⟨flags,found⟩ := (hasRouter_iff one _ _).mp near
      simp only [edges,found]
      exact List.mem_filterMap.mpr ⟨link,out,(link_edge_iff one _ _ _ _).mpr
        ⟨rfl,.inr ⟨kind,rfl,mask,members,network,named⟩⟩⟩
    | member network named router home kind names =>
      rename_i id mask member members links back
      obtain ⟨origin,found⟩ := (hasNetwork_iff one _ _ _).mp network
      simp only [edges,found]
      exact List.mem_filterMap.mpr ⟨member,named,(member_edge_iff one _ _ _ _).mpr
        ⟨rfl,rfl,links,router,back,home,kind,names⟩⟩

/-! ### Labels and paths -/

/-- The labels that a calculation gives the vertices. -/
abbrev paths_of (lsas : List Lsa) (self_id : Ipv4Addr) : OrderedMap Vertex Label :=
  shortest_paths self_id (routers_of (live lsas)) (networks_of (live lsas))

theorem findSome?_step (self_id : Ipv4Addr) (steps : List Vertex) (next : Vertex) :
    (steps ++ [next]).findSome? (otherRouter self_id) = first_hop_at self_id (steps.findSome? (otherRouter self_id)) next := by
  rw [List.findSome?_append]
  unfold first_hop_at
  congr 1
  cases next <;> simp [otherRouter]

variable {self_id : Ipv4Addr} {vertex : Vertex}

/-- A label of a search is the cost and the first hop of a path. -/
theorem derived_path (one : OneEach lsas) {label : Label}
    (derived : Derived (.Router self_id) (candidates self_id (routers_of (live lsas)) (networks_of (live lsas)))
    ⟨0,none⟩ vertex label) :
    ∃ steps, Path lsas self_id steps vertex label.cost ∧ label.hop = steps.findSome? (otherRouter self_id) := by
  induction derived with
  | root => exact ⟨[],.here,rfl⟩
  | @offer vertex own offered _ member other ih =>
    obtain ⟨steps,path,hop⟩ := ih
    obtain ⟨⟨next,metric⟩,edge,rfl⟩ := List.mem_map.mp member
    refine ⟨steps ++ [next],path.edge ((edges_iff one vertex next metric).mp edge),?_⟩
    rw [findSome?_step,← hop]

/-- A path of a database is one of its maps, up to the largest cost. -/
theorem Path.reach (one : OneEach lsas) {steps : List Vertex} {cost : UInt32}
    (path : Path lsas self_id steps vertex cost) :
    ∃ whole, Reach (routers_of (live lsas)) (networks_of (live lsas)) (.Router self_id) vertex whole ∧
      cost.toNat = min whole (2 ^ 32 - 1) := by
  induction path with
  | here => exact ⟨0,.here,rfl⟩
  | @edge steps vertex next cost metric path edge ih =>
    obtain ⟨whole,reach,same⟩ := ih
    refine ⟨whole + metric.toNat,reach.edge ((edges_iff one vertex next metric).mpr edge),?_⟩
    rw [satAdd32_toNat,same]
    omega

/-- No path is cheaper than the label of its end. -/
theorem label_le_of_path (one : OneEach lsas) {steps : List Vertex} {cost : UInt32}
    (path : Path lsas self_id steps vertex cost) :
    ∃ label, (paths_of lsas self_id).get? vertex = some label ∧
      label.cost ≤ cost := by
  obtain ⟨whole,reach,same⟩ := path.reach one
  obtain ⟨label,found,below⟩ := label_le_of_reach reach
  refine ⟨label,found,UInt32.le_iff_toNat_le.mpr ?_⟩
  have bound := label.cost.toNat_lt
  omega

theorem adverts_iff (one : OneEach lsas) (vertex : Vertex) (network : Ipv4Network) (metric : UInt32) (origin : Ipv4Addr) :
    (network,metric,origin) ∈ adverts (routers_of (live lsas)) (networks_of (live lsas)) vertex ↔
      Advertises lsas vertex network metric origin := by
  constructor
  · intro member
    cases vertex with
    | Router id =>
      simp only [adverts] at member
      split at member
      · cases member
      · rename_i router found
        obtain ⟨link,out,made⟩ := List.mem_filterMap.mp member
        split at made
        · rename_i kind
          obtain ⟨network,destination,same⟩ := Option.map_eq_some_iff.mp made
          cases same
          exact .stub ((hasRouter_iff one _ _).mpr ⟨router.1,found⟩) out kind destination
        · cases made
    | Network id =>
      simp only [adverts] at member
      split at member
      · cases member
      · rename_i network found
        obtain ⟨destination,known,equal⟩ := Option.map_eq_some_iff.mp (Option.mem_toList.mp member)
        cases equal
        obtain ⟨lsa,listed,rfl,body,origin⟩ := (networks_of_get? one _ _ _ _).mp found
        rw [← origin]
        exact .transit listed body known
  · intro advertises
    cases advertises with
    | @stub id links link _ router out kind destination =>
      obtain ⟨flags,found⟩ := (hasRouter_iff one _ _).mp router
      simp only [adverts,found]
      exact List.mem_filterMap.mpr ⟨link,out,by rw [if_pos kind,destination]; rfl⟩
    | @transit lsa mask members _ listed body destination =>
      have found := (networks_of_get? one _ mask members _).mpr ⟨lsa,listed,rfl,body,rfl⟩
      simp only [adverts,found,destination]
      exact List.mem_singleton_self _

/-- The own hop of a label says that its vertex is attached at the cost of the label. -/
theorem derived_attached (one : OneEach lsas) {label : Label}
    (derived : Derived (.Router self_id) (candidates self_id (routers_of (live lsas)) (networks_of (live lsas)))
    ⟨0,none⟩ vertex label) (own : label.hop = none) : Attached lsas self_id vertex label.cost := by
  induction derived with
  | root => exact .own
  | @offer vertex before offered from_ member other ih =>
    obtain ⟨⟨next,metric⟩,found,rfl⟩ := List.mem_map.mp member
    have edge := (edges_iff one vertex next metric).mp found
    dsimp only at own other ⊢
    obtain ⟨earlier,last⟩ := Option.or_eq_none_iff.mp own
    cases next with
    | Router id =>
      have different : id ≠ self_id := fun same => other (congrArg Vertex.Router same)
      simp only [if_pos different] at last
      cases last
    | Network id =>
      have attached := ih earlier
      generalize before.cost = cost at attached ⊢
      cases attached with
      | own =>
        rw [zero_satAdd32]
        exact .network edge
      | network known => cases edge

/-- A search knows what the router is attached to at no more than the cost of the attachment, and by itself if
the costs are the same. -/
theorem label_le_of_attached (one : OneEach lsas) {cost : UInt32} (attached : Attached lsas self_id vertex cost) :
    ∃ label ≤ (⟨cost,none⟩ : Label),
      (paths_of lsas self_id).get? vertex = some label := by
  obtain ⟨sound,settled⟩ := search_correct (.Router self_id)
    (candidates self_id (routers_of (live lsas)) (networks_of (live lsas))) (MaxHeap.list entry_cmp) ⟨0,none⟩
  cases attached with
  | own => exact ⟨⟨0,none⟩,le_rfl,sound.root⟩
  | @network id metric edge =>
    have offered := List.mem_map_of_mem (f := fun edge : Vertex × UInt32 =>
      (edge.1,(⟨satAdd32 0 edge.2,first_hop_at self_id none edge.1⟩ : Label))) ((edges_iff one _ _ _).mpr edge)
    rcases settled _ _ sound.root _ offered with root | ⟨old,below,found⟩
    · cases root
    · rw [zero_satAdd32] at below
      exact ⟨old,below,found⟩

/-- The route that a path to an advertiser of a prefix makes. -/
def routeAlong (self_id : Ipv4Addr) (network : Ipv4Network) (steps : List Vertex) (cost metric : UInt32)
    (origin : Ipv4Addr) :
    OspfSpfRoute := ⟨network,satAdd32 cost metric,cost,firstHop self_id steps,origin,.Ospf⟩

/-- An intra-area route: no path to an advertiser of the prefix is cheaper. Its first hop is the router itself only by
an attachment, and it is so wherever an attachment is preferred to all paths to what is not attached as cheaply. -/
structure Exact (lsas : List Lsa) (self_id : Ipv4Addr) (network : Ipv4Network) (route : OspfSpfRoute) : Prop where
  finite : route.metric < 0x00ffffff
  path : ∃ vertex steps cost metric origin, Advertises lsas vertex network metric origin ∧
    Path lsas self_id steps vertex cost ∧ route = routeAlong self_id network steps cost metric origin
  least : ∀ vertex steps cost metric origin, Advertises lsas vertex network metric origin →
    Path lsas self_id steps vertex cost → route.metric ≤ satAdd32 cost metric
  home : route.first_hop = self_id → ∃ vertex metric, Advertises lsas vertex network metric route.origin ∧
    Attached lsas self_id vertex route.internal_cost ∧ route.metric = satAdd32 route.internal_cost metric
  attached : ∀ vertex cost metric origin, Advertises lsas vertex network metric origin → Attached lsas self_id vertex cost →
    (∀ other steps far beyond source, Advertises lsas other network beyond source → Path lsas self_id steps other far →
      ¬ Attached lsas self_id other far → (routeAlong self_id network [] cost metric origin).preference <
        (routeAlong self_id network steps far beyond source).preference) →
    route.first_hop = self_id

/-- The first hop of a path over another router is not the own one. -/
theorem findSome?_other {steps : List Vertex} {hop : Ipv4Addr}
    (first : steps.findSome? (otherRouter self_id) = some hop) : hop ≠ self_id := by
  obtain ⟨step,-,router⟩ := List.exists_of_findSome?_eq_some first
  unfold otherRouter at router
  split at router
  · split_ifs at router with different
    cases router
    exact different
  · cases router

theorem label_cost_le {first second : Label} (below : first ≤ second) :
    first.cost < second.cost ∨ second.cost = first.cost := by
  have lex : toLex (first.cost,hop_order first.hop) ≤ toLex (second.cost,hop_order second.hop) := below
  rw [Prod.Lex.toLex_le_toLex] at lex
  rcases lex with less | ⟨same,-⟩
  · exact .inl less
  · exact .inr same.symm

theorem hop_of_le {label : Label} (below : label ≤ ⟨label.cost,none⟩) : label.hop = none := by
  have lex : toLex (label.cost,hop_order label.hop) ≤ toLex (label.cost,hop_order none) := below
  rw [Prod.Lex.toLex_le_toLex] at lex
  rcases lex with less | ⟨-,hop⟩
  · exact absurd less (lt_irrefl label.cost)
  · cases known : label.hop with
    | none => rfl
    | some other =>
      rw [known] at hop
      exact absurd hop (not_le.mpr (WithBot.bot_lt_coe other))

/-- A label that is no larger than an attachment makes a route that is no worse. -/
theorem preference_of_attached {label : Label} {cost : UInt32} (below : label ≤ ⟨cost,none⟩)
    (advert : Ipv4Network × UInt32 × Ipv4Addr) :
    (advertRoute self_id label advert).preference ≤ (advertRoute self_id ⟨cost,none⟩ advert).preference := by
  rcases label_cost_le below with nearer | same
  · unfold OspfSpfRoute.preference advertRoute
    have metric := satAdd32_le nearer.le advert.2.1
    simp only [Prod.Lex.toLex_le_toLex,lt_irrefl,false_or,true_and]
    rcases metric.lt_or_eq with less | equal
    · exact .inl less
    · exact .inr ⟨equal,.inl nearer⟩
  · subst same
    obtain ⟨price,hop⟩ := label
    rw [show hop = none from hop_of_le below]

/-- Intra-area routes are exact: the route of a prefix is that of a cheapest path to an advertiser of
it, and only a prefix without a path below the infinite metric has none. -/
theorem spf_exact (one : OneEach lsas) (self_id : Ipv4Addr) (network : Ipv4Network) :
    (∀ route, (ospf_calculate self_id lsas).routes.get? network = some route → route.source = .Ospf →
      Exact lsas self_id network route) ∧
    ∀ vertex steps cost metric origin, Advertises lsas vertex network metric origin → Path lsas self_id steps vertex cost →
      satAdd32 cost metric < 0x00ffffff →
        ∃ route, (ospf_calculate self_id lsas).routes.get? network = some route ∧ route.source = .Ospf := by
  obtain ⟨sound,-⟩ := search_correct (.Router self_id)
    (candidates self_id (routers_of (live lsas)) (networks_of (live lsas))) (MaxHeap.list entry_cmp) ⟨0,none⟩
  obtain ⟨fromPaths,covers⟩ := intra_area_routes_correct self_id (routers_of (live lsas)) (networks_of (live lsas))
    (paths_of lsas self_id)
  have installed : ∀ route, route.source = .Ospf → ((ospf_calculate self_id lsas).routes.get? network = some route ↔
      (intra_area_routes self_id (routers_of (live lsas)) (networks_of (live lsas))
        (paths_of lsas self_id)).get? network = some route) :=
    fun route intra => ospf_spf_intra_iff self_id lsas network route intra
  -- whatever has a label is covered by a route that is no worse
  have reached : ∀ vertex label metric origin, Advertises lsas vertex network metric origin →
      (paths_of lsas self_id).get? vertex = some label →
      satAdd32 label.cost metric < 0x00ffffff → ∃ best, (ospf_calculate self_id lsas).routes.get? network = some best ∧
        best.source = .Ospf ∧ best.preference ≤ (advertRoute self_id label (network,metric,origin)).preference := by
    intro vertex label metric origin advertises found finite
    have advert := (adverts_iff one vertex network metric origin).mpr advertises
    obtain ⟨best,known,preferred⟩ := covers vertex label found _ advert finite
    obtain ⟨-,-,_,_,-,_,-,shape⟩ := fromPaths network best known
    have intra : best.source = .Ospf := by rw [shape]; rfl
    exact ⟨best,(installed best intra).mpr known,intra,preferred⟩
  constructor
  · intro route found intra
    obtain ⟨same,finite,vertex,label,labelled,⟨destination,metric,origin⟩,listed,shape⟩ :=
      fromPaths network route ((installed route intra).mp found)
    have derived := sound.derived vertex label labelled
    obtain ⟨steps,path,hop⟩ := derived_path one derived
    obtain rfl : destination = network := by rw [← same,shape]; rfl
    have advertises := (adverts_iff one _ _ _ _).mp listed
    have along : route = routeAlong self_id destination steps label.cost metric origin := by
      rw [shape,routeAlong,firstHop,← hop]
      rfl
    refine ⟨finite,⟨vertex,steps,label.cost,metric,origin,advertises,path,along⟩,?_,?_,?_⟩
    · intro other others cost beyond source elsewhere way
      by_cases small : satAdd32 cost beyond < 0x00ffffff
      · obtain ⟨nearest,known,below⟩ := label_le_of_path one way
        have cheaper := satAdd32_le below beyond
        obtain ⟨best,installed_,own,preferred⟩ := reached other nearest beyond source elsewhere known (cheaper.trans_lt small)
        rw [found] at installed_
        cases installed_
        have same : rank route.source = rank (advertRoute self_id nearest (destination,beyond,source)).source := by
          rw [intra]
          rfl
        exact ((preference_le preferred).2 same).trans cheaper
      · exact finite.le.trans (not_lt.mp small)
    · intro own
      have local_ : label.hop = none := by
        cases known : label.hop with
        | none => rfl
        | some first =>
          refine absurd ?_ (findSome?_other (hop.symm.trans known))
          rw [← own,shape,advertRoute,known]
          rfl
      refine ⟨vertex,metric,?_,?_,?_⟩
      · rw [shape]
        exact advertises
      · rw [shape]
        exact derived_attached one derived local_
      · rw [shape]
        rfl
    · intro place cost beyond source advertised attached preferred
      by_contra away
      -- the route goes over another router, so that its vertex is not attached at its cost
      have apart : ¬ Attached lsas self_id vertex label.cost := by
        intro near
        obtain ⟨least,below,known⟩ := label_le_of_attached one near
        rw [labelled] at known
        cases known
        refine away ?_
        rw [shape,advertRoute,hop_of_le below]
        rfl
      have less := preferred vertex steps label.cost metric origin advertises path apart
      rw [← along] at less
      have ranked : rank (routeAlong self_id destination [] cost beyond source).source = rank route.source := by
        rw [intra]
        rfl
      obtain ⟨least,below,known⟩ := label_le_of_attached one attached
      have cheaper : satAdd32 least.cost beyond ≤ satAdd32 cost beyond := by
        rcases label_cost_le below with nearer | same
        · exact satAdd32_le nearer.le beyond
        · exact satAdd32_le same.ge beyond
      obtain ⟨best,installed_,-,covered⟩ := reached place least beyond source advertised known
        ((cheaper.trans ((preference_le less.le).2 ranked)).trans_lt finite)
      rw [found] at installed_
      cases installed_
      exact absurd (covered.trans (preference_of_attached below _)) (not_le.mpr less)
  · intro vertex steps cost metric origin advertises path finite
    obtain ⟨label,found,below⟩ := label_le_of_path one path
    obtain ⟨best,known,intra,-⟩ := reached vertex label metric origin advertises found ((satAdd32_le below metric).trans_lt finite)
    exact ⟨best,known,intra⟩

theorem pair_one : OneEach pair_database where
  routers := by decide
  networks := by decide

theorem spf_exact_pair :
    ∃ route, (ospf_calculate 1 pair_database).routes.get? ⟨0xc0000200,24,by decide,by decide⟩ = some route ∧
      route.source = .Ospf ∧ Exact pair_database 1 ⟨0xc0000200,24,by decide,by decide⟩ route := by
  have near : HasRouter pair_database 1 [⟨2,0,.PointToPoint,10⟩] :=
    ⟨_,List.mem_cons_self,rfl,0,rfl⟩
  have far : HasRouter pair_database 2 [⟨1,0,.PointToPoint,10⟩,⟨0xc0000200,0xffffff00,.Stub,3⟩] :=
    ⟨_,List.mem_cons_of_mem _ List.mem_cons_self,rfl,0,rfl⟩
  have edge : Edge pair_database (.Router 1) (.Router 2) 10 :=
    .pointToPoint near List.mem_cons_self rfl far List.mem_cons_self rfl rfl
  have stub : Advertises pair_database (.Router 2) ⟨0xc0000200,24,by decide,by decide⟩ 3 2 :=
    .stub far (List.mem_cons_of_mem _ List.mem_cons_self) rfl rfl
  obtain ⟨route,found,intra⟩ := (spf_exact pair_one 1 _).2 _ _ _ _ _ stub (.edge .here edge) (by decide)
  exact ⟨route,found,intra,(spf_exact pair_one 1 _).1 route found intra⟩

/-- A network next to a router, whose prefix its neighbour has as a stub at the same metric. -/
def tied_database : List Lsa :=
  [⟨0,2,1,1,-2147483647,.Router 0 [⟨0x0a000001,0x0a000001,.Transit,10⟩,⟨2,0,.PointToPoint,5⟩]⟩,
    ⟨0,2,0x0a000001,1,-2147483647,.Network 0xffffff00 [1]⟩,
    ⟨0,2,2,2,-2147483647,.Router 0 [⟨1,0,.PointToPoint,5⟩,⟨0x0a000000,0xffffff00,.Stub,5⟩]⟩]

theorem tied_paths : shortest_paths 1 (routers_of (live tied_database)) (networks_of (live tied_database)) =
    ⟨[(.Router 1,⟨0,none⟩),(.Router 2,⟨5,some 2⟩),(.Network 0x0a000001,⟨10,none⟩)],by decide⟩ := by
  unfold shortest_paths
  rw [search_of_step _ _ (by rfl),search_of_step _ _ (by rfl),search_of_step _ _ (by rfl),search_of_stuck _ _ (by rfl)]
  rfl

/-- The first hop of a directly attached prefix is not always the router itself, even where its attachment is no more
expensive than the route: the neighbour is nearer than the network. -/
theorem attached_first_hop :
    ¬ ∀ (lsas : List Lsa) (self_id : Ipv4Addr) (network : Ipv4Network) (route : OspfSpfRoute) (vertex : Vertex)
      (cost metric : UInt32) (origin : Ipv4Addr), OneEach lsas →
      (ospf_calculate self_id lsas).routes.get? network = some route → route.source = .Ospf →
      Advertises lsas vertex network metric origin → Attached lsas self_id vertex cost → route.metric = satAdd32 cost metric →
      route.first_hop = self_id := by
  intro always
  have one : OneEach tied_database := ⟨by decide,by decide⟩
  have found : (ospf_spf 1 tied_database).get? ⟨0x0a000000,24,by decide,by decide⟩ =
      some ⟨⟨0x0a000000,24,by decide,by decide⟩,10,5,2,2,.Ospf⟩ := by
    rw [ospf_spf_intra_iff _ _ _ _ rfl,tied_paths]
    rfl
  have router : HasRouter tied_database 1 [⟨0x0a000001,0x0a000001,.Transit,10⟩,⟨2,0,.PointToPoint,5⟩] :=
    ⟨_,List.mem_cons_self,rfl,0,rfl⟩
  have listed : (⟨0,2,0x0a000001,1,-2147483647,.Network 0xffffff00 [1]⟩ : Lsa) ∈ live tied_database :=
    List.mem_cons_of_mem _ List.mem_cons_self
  have edge : Edge tied_database (.Router 1) (.Network 0x0a000001) 10 :=
    .transit router List.mem_cons_self rfl ⟨_,listed,rfl,rfl⟩ List.mem_cons_self
  have wrong : (2 : Ipv4Addr) = 1 :=
    always tied_database 1 _ _ _ 10 0 _ one found rfl (.transit listed rfl rfl) (.network edge) rfl
  exact absurd wrong (by decide)

/-! ### The order of a database -/

variable {others : List Lsa}

theorem mem_live_perm (perm : lsas.Perm others) : (live lsas).Perm (live others) :=
  perm.filter _

theorem OneEach.perm (one : OneEach lsas) (perm : lsas.Perm others) : OneEach others where
  routers first listed second also :=
    one.routers first ((mem_live_perm perm).mem_iff.mpr listed) second ((mem_live_perm perm).mem_iff.mpr also)
  networks first listed second also :=
    one.networks first ((mem_live_perm perm).mem_iff.mpr listed) second ((mem_live_perm perm).mem_iff.mpr also)

theorem routers_of_perm (one : OneEach lsas) (perm : lsas.Perm others) :
    routers_of (live lsas) = routers_of (live others) := by
  refine OrderedMap.ext fun id => Option.ext fun router => ?_
  rw [routers_of_get? one,routers_of_get? (one.perm perm)]
  exact exists_congr fun lsa => and_congr_left fun _ => (mem_live_perm perm).mem_iff

theorem networks_of_perm (one : OneEach lsas) (perm : lsas.Perm others) :
    networks_of (live lsas) = networks_of (live others) := by
  refine OrderedMap.ext fun id => Option.ext fun network => ?_
  rw [networks_of_get? one,networks_of_get? (one.perm perm)]
  exact exists_congr fun lsa => and_congr_left fun _ => (mem_live_perm perm).mem_iff

instance keyTotal : Std.Total (fun first second : Lsa => first.key ≤ second.key) := ⟨fun _ _ => le_total _ _⟩

instance keyTrans : IsTrans Lsa (fun first second => first.key ≤ second.key) := ⟨fun _ _ _ => le_trans⟩

/-- Sorting by different keys leaves one order. -/
theorem sorted_perm (distinct : lsas.Pairwise (fun first second => first.key ≠ second.key)) (perm : lsas.Perm others) :
    lsas.insertionSort (fun first second => first.key ≤ second.key) =
      others.insertionSort (fun first second => first.key ≤ second.key) := by
  have nodup : (lsas.map Lsa.key).Nodup := List.pairwise_map.mpr distinct
  have before := List.perm_insertionSort (fun first second : Lsa => first.key ≤ second.key) lsas
  have after := List.perm_insertionSort (fun first second : Lsa => first.key ≤ second.key) others
  refine ((before.trans perm).trans after.symm).eq_of_pairwise ?_ (List.pairwise_insertionSort _ lsas)
    (List.pairwise_insertionSort _ others)
  intro first second listed also below above
  have here : first ∈ lsas := (List.mem_insertionSort _).mp listed
  have there : second ∈ lsas := perm.mem_iff.mpr ((List.mem_insertionSort _).mp also)
  exact List.inj_on_of_nodup_map nodup here there (le_antisymm below above)

/-- A calculation does not see the order of a database whose keys differ and where every router and every
transit network describes itself once. -/
theorem calculation_perm {others : List Lsa} (distinct : lsas.Pairwise (fun first second => first.key ≠ second.key))
    (one : OneEach lsas) (perm : lsas.Perm others) (self_id : Ipv4Addr) :
    ospf_calculate self_id lsas = ospf_calculate self_id others := by
  have alive : (live lsas).Pairwise (fun first second => first.key ≠ second.key) := distinct.filter _
  unfold ospf_calculate
  dsimp only
  rw [routers_of_perm one perm,networks_of_perm one perm,sorted_perm alive (mem_live_perm perm)]

theorem calculation_perm_pair : ospf_calculate 1 pair_database = ospf_calculate 1 pair_database.reverse :=
  calculation_perm (by decide) pair_one (List.reverse_perm _).symm 1

/-- Two routers that claim one transit network, with different masks. -/
def claimed_network : List Lsa := [⟨0,2,1,1,-2147483647,.Router 0 [⟨0x0a000009,0,.Transit,1⟩]⟩,
  ⟨0,2,0x0a000009,1,-2147483647,.Network 0xffffff00 [1]⟩,⟨0,2,0x0a000009,2,-2147483647,.Network 0xffff0000 [1]⟩]

/-- A router that describes itself under two link-state identifiers. -/
def split_router : List Lsa := [⟨0,2,1,1,-2147483647,.Router 0 []⟩,
  ⟨0,2,2,1,-2147483647,.Router 0 [⟨0xc0000200,0xffffff00,.Stub,3⟩]⟩]

/-- Of two descriptions of a network, or of a router, a calculation takes the later one. -/
theorem calculation_sees_order :
    (claimed_network.Pairwise (fun first second => first.key ≠ second.key) ∧ claimed_network.Perm claimed_network.reverse ∧
      ospf_calculate 1 claimed_network ≠ ospf_calculate 1 claimed_network.reverse) ∧
    split_router.Pairwise (fun first second => first.key ≠ second.key) ∧ split_router.Perm split_router.reverse ∧
      ospf_calculate 1 split_router ≠ ospf_calculate 1 split_router.reverse := by
  refine ⟨⟨by decide,(List.reverse_perm _).symm,?_⟩,by decide,(List.reverse_perm _).symm,?_⟩
  · intro same
    have paths : ∀ list, list = claimed_network ∨ list = claimed_network.reverse →
        shortest_paths 1 (routers_of (live list)) (networks_of (live list)) =
          ⟨[(.Router 1,⟨0,none⟩),(.Network 0x0a000009,⟨1,none⟩)],by decide⟩ := by
      rintro list (rfl | rfl)
      · unfold shortest_paths
        rw [search_of_step _ _ (by rfl),search_of_step _ _ (by rfl),search_of_stuck _ _ (by rfl)]
        rfl
      · unfold shortest_paths
        rw [search_of_step _ _ (by rfl),search_of_step _ _ (by rfl),search_of_stuck _ _ (by rfl)]
        rfl
    have found : (ospf_spf 1 claimed_network.reverse).get? ⟨0x0a000000,24,by decide,by decide⟩ =
        some ⟨⟨0x0a000000,24,by decide,by decide⟩,1,1,1,1,.Ospf⟩ := by
      rw [ospf_spf_intra_iff _ _ _ _ rfl,paths _ (.inr rfl)]
      rfl
    rw [ospf_spf,← same,← ospf_spf,ospf_spf_intra_iff _ _ _ _ rfl,paths _ (.inl rfl)] at found
    exact absurd found (by decide +kernel)
  · intro same
    have paths : ∀ list, list = split_router ∨ list = split_router.reverse →
        shortest_paths 1 (routers_of (live list)) (networks_of (live list)) = ⟨[(.Router 1,⟨0,none⟩)],by decide⟩ := by
      rintro list (rfl | rfl)
      · unfold shortest_paths
        rw [search_of_step _ _ (by rfl),search_of_stuck _ _ (by rfl)]
        rfl
      · unfold shortest_paths
        rw [search_of_step _ _ (by rfl),search_of_stuck _ _ (by rfl)]
        rfl
    have found : (ospf_spf 1 split_router).get? ⟨0xc0000200,24,by decide,by decide⟩ =
        some ⟨⟨0xc0000200,24,by decide,by decide⟩,3,0,1,1,.Ospf⟩ := by
      rw [ospf_spf_intra_iff _ _ _ _ rfl,paths _ (.inl rfl)]
      rfl
    rw [ospf_spf,same,← ospf_spf,ospf_spf_intra_iff _ _ _ _ rfl,paths _ (.inr rfl)] at found
    exact absurd found (by decide +kernel)

end Rios.OspfSpf
