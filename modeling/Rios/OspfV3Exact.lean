import Rios.OspfExact
import Rios.OspfV3Spf

/-!
# OSPFv3 shortest paths are exact and their next hops local

The graph of a database as its advertisements describe it, and what a calculation
says about the paths in it.
-/

namespace Rios.OspfV3
open Rios.Machine Rios.Device Rios.Ospf Rios.Ipv6 Rios.LabelSearch

/-! ### The graph of a database -/

/-- A transit network describes itself once. -/
def OneNetwork (lsas : List OspfV3Lsa) : Prop :=
  ∀ first ∈ live lsas, ∀ second ∈ live lsas, first.key.kind = V3_NETWORK_LSA → second.key.kind = V3_NETWORK_LSA →
    first.advertising_router = second.advertising_router → first.link_state_id = second.link_state_id → first = second

/-- A live advertisement of a forwarding router has this link. -/
def HasLink (lsas : List OspfV3Lsa) (id : Ipv4Addr) (link : OspfV3RouterLink) : Prop :=
  ∃ lsa ∈ live lsas, lsa.advertising_router = id ∧ ∃ flags options links, lsa.body = .Router flags options links ∧
    options &&& 0x11 = 0x11 ∧ link ∈ links

/-- A live advertisement gives a transit network these members. -/
def HasNetwork (lsas : List OspfV3Lsa) (dr : Ipv4Addr) (interface_id : UInt32) (members : List Ipv4Addr) : Prop :=
  ∃ lsa ∈ live lsas, lsa.advertising_router = dr ∧ lsa.link_state_id = interface_id ∧
    ∃ options, lsa.body = .Network options members

/-- Reciprocal point-to-point links, and attachments that both sides confirm; with cost and own interface. -/
inductive Joined (lsas : List OspfV3Lsa) : Vertex → Edge → Prop
  | pointToPoint {id : Ipv4Addr} {link back : OspfV3RouterLink} (near : HasLink lsas id link)
      (kind : link.kind = .PointToPoint) (far : HasLink lsas link.neighbor_router back) (backKind : back.kind = .PointToPoint)
      (reciprocal : back.neighbor_router = id) (home : back.interface_id = link.neighbor_interface_id)
      (out : back.neighbor_interface_id = link.interface_id) :
      Joined lsas (.Router id) ⟨.Router link.neighbor_router,link.metric.toUInt32,link.interface_id⟩
  | transit {id : Ipv4Addr} {link : OspfV3RouterLink} {members : List Ipv4Addr} (near : HasLink lsas id link)
      (kind : link.kind = .Transit) (network : HasNetwork lsas link.neighbor_router link.neighbor_interface_id members)
      (named : id ∈ members) :
      Joined lsas (.Router id)
        ⟨.Network link.neighbor_router link.neighbor_interface_id,link.metric.toUInt32,link.interface_id⟩
  | member {dr router : Ipv4Addr} {interface_id : UInt32} {members : List Ipv4Addr} {back : OspfV3RouterLink}
      (network : HasNetwork lsas dr interface_id members) (named : router ∈ members) (far : HasLink lsas router back)
      (kind : back.kind = .Transit) (attached : back.neighbor_router = dr) (port : back.neighbor_interface_id = interface_id) :
      Joined lsas (.Network dr interface_id) ⟨.Router router,0,0⟩

/-- A path from a router that does not come back to it: its edges, its end and its cost. -/
inductive Path (lsas : List OspfV3Lsa) (self_id : Ipv4Addr) : List Edge → Vertex → UInt32 → Prop
  | here : Path lsas self_id [] (.Router self_id) 0
  | edge {steps : List Edge} {vertex : Vertex} {cost : UInt32} {next : Edge} (path : Path lsas self_id steps vertex cost)
      (joined : Joined lsas vertex next) (away : next.next ≠ .Router self_id) :
      Path lsas self_id (steps ++ [next]) next.next (satAdd32 cost next.metric)

def router_at (step : Edge) : Option Ipv4Addr :=
  match step.next with
  | .Router id => some id
  | .Network _ _ => none

/-- The interface that a path leaves by, with the first router on it; the own one where there is none. -/
def firstEdge (self_id : Ipv4Addr) (steps : List Edge) : Option (Ipv4Addr × UInt32) :=
  steps.head?.map (fun first => ((steps.findSome? router_at).getD self_id,first.interface_id))

/-- A hop over an interface of the own router: to the neighbour on it, to the network on it, or to a member of that
    network. -/
inductive LocalHop (lsas : List OspfV3Lsa) (self_id : Ipv4Addr) : Vertex → Ipv4Addr → UInt32 → Prop
  | neighbor {vertex : Vertex} {link : OspfV3RouterLink} (own : HasLink lsas self_id link) (kind : link.kind = .PointToPoint)
      (other : link.neighbor_router ≠ self_id) :
      LocalHop lsas self_id vertex link.neighbor_router link.interface_id
  | attached {link : OspfV3RouterLink} (own : HasLink lsas self_id link) (kind : link.kind = .Transit) :
      LocalHop lsas self_id (.Network link.neighbor_router link.neighbor_interface_id) self_id link.interface_id
  | member {vertex : Vertex} {link : OspfV3RouterLink} {router : Ipv4Addr} (own : HasLink lsas self_id link)
      (kind : link.kind = .Transit)
      (confirmed : Joined lsas (.Network link.neighbor_router link.neighbor_interface_id) ⟨.Router router,0,0⟩)
      (other : router ≠ self_id) :
      LocalHop lsas self_id vertex router link.interface_id

/-- A vertex has an eligible prefix, by an advertisement of the router that is also its reference. -/
inductive Advertises (lsas : List OspfV3Lsa) : Vertex → Ipv6Network → UInt32 → Ipv4Addr → Prop
  | prefixes {lsa : OspfV3Lsa} {reference : OspfV3LsaKey} {list : List OspfV3Prefix} {vertex : Vertex} {p : OspfV3Prefix}
      (listed : lsa ∈ live lsas) (body : lsa.body = .IntraAreaPrefix reference list)
      (own : reference.advertising_router = lsa.advertising_router) (refers : vertex_of reference = some vertex)
      (member : p ∈ list) (eligible_ : eligible p = true) :
      Advertises lsas vertex p.network p.metric.toUInt32 lsa.advertising_router

/-! ### The maps of a calculation -/

variable {lsas : List OspfV3Lsa}

/-- The links that an advertisement adds to a router. -/
def linksOf (lsa : OspfV3Lsa) : List OspfV3RouterLink :=
  match lsa.body with
  | .Router _ options links => if options &&& 0x11 = 0x11 then links else []
  | _ => []

theorem mem_add_links (routers : Routers) (lsa : OspfV3Lsa) (id : Ipv4Addr) (link : OspfV3RouterLink) :
    link ∈ ((add_links routers lsa).get? id).getD [] ↔
      link ∈ (routers.get? id).getD [] ∨ (lsa.advertising_router = id ∧ link ∈ linksOf lsa) := by
  cases body : lsa.body with
  | Router flags options links =>
    simp only [add_links,linksOf,body]
    by_cases forwards : options &&& 0x11 = 0x11
    · rw [if_pos forwards,if_pos forwards,OrderedMap.get?_insert]
      by_cases same : id = lsa.advertising_router
      · subst same
        simp
      · rw [if_neg same]
        simp [Ne.symm same]
    · simp [if_neg forwards]
  | _ => simp [add_links,linksOf,body]

theorem mem_routers_of (lsas : List OspfV3Lsa) (id : Ipv4Addr) (link : OspfV3RouterLink) :
    link ∈ ((routers_of (live lsas)).get? id).getD [] ↔ HasLink lsas id link := by
  have fold : ∀ (list : List OspfV3Lsa) (routers : Routers), link ∈ ((list.foldl add_links routers).get? id).getD [] ↔
      link ∈ (routers.get? id).getD [] ∨ ∃ lsa ∈ list, lsa.advertising_router = id ∧ link ∈ linksOf lsa := by
    intro list
    induction list with
    | nil => simp
    | cons lsa rest ih =>
      intro routers
      rw [List.foldl_cons,ih,mem_add_links]
      simp only [List.mem_cons,exists_eq_or_imp,or_assoc]
  rw [routers_of,fold]
  have none : link ∉ ((∅ : Routers).get? id).getD [] := by simp
  simp only [none,false_or,HasLink]
  refine exists_congr fun lsa => and_congr_right fun _ => and_congr_right fun _ => ?_
  unfold linksOf
  cases lsa.body <;> simp

theorem any_router_iff (lsas : List OspfV3Lsa) (id : Ipv4Addr) (holds : OspfV3RouterLink → Bool) :
    ((routers_of (live lsas)).get? id).any (fun links => links.any holds) = true ↔
      ∃ link, HasLink lsas id link ∧ holds link = true := by
  simp only [← mem_routers_of]
  cases (routers_of (live lsas)).get? id <;> simp

theorem networks_of_get? (one : OneNetwork lsas) (dr : Ipv4Addr) (interface_id : UInt32) (members : List Ipv4Addr) :
    (networks_of (live lsas)).get? (toLex (dr,interface_id)) = some members ↔ HasNetwork lsas dr interface_id members := by
  unfold networks_of
  refine OrderedMap.get?_ofList_filterMap (fun (lsa : OspfV3Lsa) entry => lsa.advertising_router = dr ∧
    lsa.link_state_id = interface_id ∧ ∃ options, lsa.body = .Network options entry) ?_ ?_ members
  · intro lsa entry
    cases body : lsa.body <;> simp [Prod.ext_iff,and_assoc]
  · rintro lsa listed lsa' listed' first second ⟨here,id,options,body⟩ ⟨there,id',options',body'⟩
    have equal := one lsa' listed' lsa listed (by rw [OspfV3Lsa.key,body']) (by rw [OspfV3Lsa.key,body])
      (there.trans here.symm) (id'.trans id.symm)
    rw [equal,body] at body'
    exact (OspfV3LsaBody.Network.inj body').2

theorem any_network_iff (one : OneNetwork lsas) (dr : Ipv4Addr) (interface_id : UInt32) (id : Ipv4Addr) :
    ((networks_of (live lsas)).get? (toLex (dr,interface_id))).any (fun members => members.contains id) = true ↔
      ∃ members, HasNetwork lsas dr interface_id members ∧ id ∈ members := by
  simp only [← networks_of_get? one,Option.any_eq_true,List.contains_iff_mem]

theorem mem_router_edges (id : Ipv4Addr) (networks : Networks) (edge : Edge) :
    edge ∈ edges (routers_of (live lsas)) networks (.Router id) ↔
      ∃ link, HasLink lsas id link ∧ link_edge (routers_of (live lsas)) networks id link = some edge := by
  simp only [← mem_routers_of,edges]
  cases (routers_of (live lsas)).get? id <;> simp

/-- The edges that a search follows are those of the database. -/
theorem edges_iff (one : OneNetwork lsas) (vertex : Vertex) (edge : Edge) :
    edge ∈ edges (routers_of (live lsas)) (networks_of (live lsas)) vertex ↔ Joined lsas vertex edge := by
  constructor
  · intro member
    cases vertex with
    | Router id =>
      obtain ⟨link,near,made⟩ := (mem_router_edges id _ edge).mp member
      unfold link_edge at made
      split at made
      · rename_i kind
        split at made
        · rename_i confirmed
          cases made
          obtain ⟨back,far,holds⟩ := (any_router_iff lsas _ _).mp confirmed
          obtain ⟨backKind,reciprocal,home,out⟩ := of_decide_eq_true holds
          exact .pointToPoint near kind far backKind reciprocal home out
        · cases made
      · rename_i kind
        split at made
        · rename_i confirmed
          cases made
          obtain ⟨members,network,named⟩ := (any_network_iff one _ _ _).mp confirmed
          exact .transit near kind network named
        · cases made
      · cases made
    | Network dr interface_id =>
      simp only [edges] at member
      split at member
      · cases member
      · rename_i members found
        have network := (networks_of_get? one dr interface_id members).mp found
        obtain ⟨router,named,made⟩ := List.mem_filterMap.mp member
        unfold member_edge at made
        split at made
        · rename_i confirmed
          cases made
          obtain ⟨back,far,holds⟩ := (any_router_iff lsas _ _).mp confirmed
          obtain ⟨kind,attached,port⟩ := of_decide_eq_true holds
          exact .member network named far kind attached port
        · cases made
  · intro joined
    cases joined with
    | pointToPoint near kind far backKind reciprocal home out =>
      rename_i id link back
      refine (mem_router_edges id _ _).mpr ⟨link,near,?_⟩
      unfold link_edge
      rw [kind]
      exact if_pos ((any_router_iff lsas _ _).mpr ⟨back,far,decide_eq_true ⟨backKind,reciprocal,home,out⟩⟩)
    | transit near kind network named =>
      rename_i id link members
      refine (mem_router_edges id _ _).mpr ⟨link,near,?_⟩
      unfold link_edge
      rw [kind]
      exact if_pos ((any_network_iff one _ _ _).mpr ⟨members,network,named⟩)
    | member network named far kind attached port =>
      rename_i dr router interface_id members back
      have found := (networks_of_get? one dr interface_id members).mpr network
      simp only [edges,found]
      refine List.mem_filterMap.mpr ⟨router,named,?_⟩
      unfold member_edge
      exact if_pos ((any_router_iff lsas _ _).mpr ⟨back,far,decide_eq_true ⟨kind,attached,port⟩⟩)

/-! ### Labels and paths -/

/-- The labels that a calculation gives the vertices. -/
abbrev paths_of (lsas : List OspfV3Lsa) (self_id : Ipv4Addr) : OrderedMap Vertex Label :=
  shortest_paths self_id (routers_of (live lsas)) (networks_of (live lsas))

/-- A sum that did not reach the infinite metric bounds the first terms of larger sums. -/
theorem satAdd32_cancel {first second metric : UInt32} (below : satAdd32 first metric ≤ satAdd32 second metric)
    (finite : satAdd32 first metric < 0xffffff) : first ≤ second := by
  rw [UInt32.le_iff_toNat_le,satAdd32_toNat,satAdd32_toNat] at below
  rw [UInt32.lt_iff_toNat_lt,satAdd32_toNat] at finite
  rw [UInt32.le_iff_toNat_le]
  have bound : (0xffffff : UInt32).toNat = 0xffffff := rfl
  omega

theorem firstEdge_here (self_id : Ipv4Addr) (next : Edge) :
    firstEdge self_id ([] ++ [next]) = first_hop_at self_id none next.next next.interface_id := by
  obtain ⟨vertex,metric,interface_id⟩ := next
  cases vertex <;> rfl

variable {self_id : Ipv4Addr} {steps : List Edge}

/-- The first hop of a longer path is that of the path before, rewritten where it leaves an attached network. -/
theorem firstEdge_step {hop : Ipv4Addr × UInt32} (away : ∀ step ∈ steps, step.next ≠ .Router self_id)
    (first : firstEdge self_id steps = some hop) (next : Edge) :
    firstEdge self_id (steps ++ [next]) = first_hop_at self_id (some hop) next.next next.interface_id := by
  obtain ⟨head,rest,rfl⟩ : ∃ head rest, steps = head :: rest := by
    cases steps with
    | nil => cases first
    | cons head rest => exact ⟨head,rest,rfl⟩
  have known : ((head :: rest).findSome? router_at).getD self_id = hop.1 ∧ head.interface_id = hop.2 := by
    have equal := Option.some.inj first
    rw [← equal]
    exact ⟨rfl,rfl⟩
  have longer : firstEdge self_id ((head :: rest) ++ [next]) =
      some ((((head :: rest).findSome? router_at).or (router_at next)).getD self_id,head.interface_id) := by
    rw [firstEdge,List.findSome?_append,List.findSome?_singleton]
    rfl
  rw [longer]
  obtain ⟨id,port⟩ := hop
  obtain ⟨router,interface⟩ := known
  dsimp only at router interface
  cases found : (head :: rest).findSome? router_at with
  | none =>
    rw [found] at router
    have own : self_id = id := router
    subst own
    obtain ⟨vertex,metric,interface_id⟩ := next
    cases vertex with
    | Router peer => simp [first_hop_at,router_at,interface]
    | Network dr number => simp [first_hop_at,router_at,interface]
  | some other =>
    rw [found] at router
    have same : other = id := router
    subst same
    obtain ⟨step,member,isRouter⟩ := List.exists_of_findSome?_eq_some found
    have different : other ≠ self_id := by
      intro same
      refine away step member ?_
      unfold router_at at isRouter
      split at isRouter
      · rename_i id vertex
        cases isRouter
        rw [vertex,same]
      · cases isRouter
    obtain ⟨vertex,metric,interface_id⟩ := next
    cases vertex with
    | Router peer => simp [first_hop_at,interface,different]
    | Network dr number => simp [first_hop_at,interface]

variable {vertex : Vertex} {cost : UInt32}

theorem Path.away (path : Path lsas self_id steps vertex cost) : ∀ step ∈ steps, step.next ≠ .Router self_id := by
  induction path with
  | here =>
    intro step member
    cases member
  | edge path joined away ih =>
    intro step member
    rcases List.mem_append.mp member with earlier | last
    · exact ih step earlier
    · rw [List.mem_singleton.mp last]
      exact away

/-- The first hop of a path is local, and a path without one has not left the root. -/
theorem Path.local_hop (path : Path lsas self_id steps vertex cost) :
    (steps = [] ∧ vertex = .Router self_id) ∨
      ∃ hop, firstEdge self_id steps = some hop ∧ LocalHop lsas self_id vertex hop.1 hop.2 := by
  induction path with
  | here => exact .inl ⟨rfl,rfl⟩
  | @edge steps vertex cost next path joined away ih =>
    right
    rcases ih with ⟨rfl,rfl⟩ | ⟨⟨id,port⟩,first,local_⟩
    · rw [firstEdge_here]
      cases joined with
      | pointToPoint near kind far backKind reciprocal home out =>
        rename_i link back
        exact ⟨_,rfl,.neighbor near kind (fun same => away (congrArg Vertex.Router same))⟩
      | transit near kind network named => exact ⟨_,rfl,.attached near kind⟩
    · rw [firstEdge_step path.away first]
      cases local_ with
      | neighbor own kind other =>
        rename_i link
        have same : first_hop_at self_id (some (link.neighbor_router,link.interface_id)) next.next next.interface_id =
            some (link.neighbor_router,link.interface_id) := by
          cases next.next <;> simp [first_hop_at,other]
        exact ⟨_,same,.neighbor own kind other⟩
      | member own kind confirmed other =>
        rename_i link
        have same : first_hop_at self_id (some (id,link.interface_id)) next.next next.interface_id =
            some (id,link.interface_id) := by
          cases next.next <;> simp [first_hop_at,other]
        exact ⟨_,same,.member own kind confirmed other⟩
      | attached own kind =>
        rename_i link
        cases joined with
        | member network named far back attached port =>
          rename_i router members other
          have rewritten : first_hop_at id (some (id,link.interface_id)) (.Router router) 0 =
              some (router,link.interface_id) := by
            simp [first_hop_at]
          exact ⟨_,rewritten,.member own kind (.member network named far back attached port)
            (fun same => away (congrArg Vertex.Router same))⟩

theorem Path.nil (path : Path lsas self_id [] vertex cost) :
    vertex = .Router self_id ∧ cost = 0 := by
  generalize none : ([] : List Edge) = steps at path
  cases path with
  | here => exact ⟨rfl,rfl⟩
  | edge path joined away => exact absurd none.symm (List.append_ne_nil_of_right_ne_nil _ (List.cons_ne_nil _ _))

theorem Path.end_away (path : Path lsas self_id steps vertex cost) (nonempty : steps ≠ []) :
    vertex ≠ .Router self_id := by
  cases path with
  | here => exact absurd rfl nonempty
  | edge path joined away => exact away

/-- A label of a search is the cost and the first hop of a path. -/
theorem derived_path (one : OneNetwork lsas) {label : Label}
    (derived : Derived (.Router self_id) (candidates self_id (routers_of (live lsas)) (networks_of (live lsas)))
    ⟨0,none⟩ vertex label) :
    ∃ steps, Path lsas self_id steps vertex label.cost ∧ label.hop = firstEdge self_id steps := by
  induction derived with
  | root => exact ⟨[],.here,rfl⟩
  | @offer vertex own offered _ member other ih =>
    obtain ⟨steps,path,hop⟩ := ih
    obtain ⟨next,edge,rfl⟩ := List.mem_map.mp member
    have longer := path.edge ((edges_iff one vertex next).mp edge) other
    refine ⟨steps ++ [next],longer,?_⟩
    dsimp only
    rw [hop]
    rcases path.local_hop with ⟨rfl,-⟩ | ⟨known,first,-⟩
    · exact (firstEdge_here self_id next).symm
    · rw [first]
      exact (firstEdge_step path.away first next).symm

theorem label_path (one : OneNetwork lsas) {label : Label} (found : (paths_of lsas self_id).get? vertex = some label) :
    ∃ steps, Path lsas self_id steps vertex label.cost ∧ label.hop = firstEdge self_id steps := by
  obtain ⟨sound,-⟩ := search_correct (.Router self_id)
    (candidates self_id (routers_of (live lsas)) (networks_of (live lsas))) (MaxHeap.list entry_cmp) ⟨0,none⟩
  exact derived_path one (sound.derived vertex label found)

theorem label_root (lsas : List OspfV3Lsa) (self_id : Ipv4Addr) :
    (paths_of lsas self_id).get? (.Router self_id) = some ⟨0,none⟩ := by
  obtain ⟨sound,-⟩ := search_correct (.Router self_id)
    (candidates self_id (routers_of (live lsas)) (networks_of (live lsas))) (MaxHeap.list entry_cmp) ⟨0,none⟩
  exact sound.root

/-- What a vertex with a label offers along an edge bounds the label at the other end. -/
theorem label_le_of_joined (one : OneNetwork lsas) {label : Label} {next : Edge}
    (found : (paths_of lsas self_id).get? vertex = some label) (joined : Joined lsas vertex next)
    (away : next.next ≠ .Router self_id) :
    ∃ old ≤ (⟨satAdd32 label.cost next.metric,first_hop_at self_id label.hop next.next next.interface_id⟩ : Label),
      (paths_of lsas self_id).get? next.next = some old := by
  obtain ⟨-,settled⟩ := search_correct (.Router self_id)
    (candidates self_id (routers_of (live lsas)) (networks_of (live lsas))) (MaxHeap.list entry_cmp) ⟨0,none⟩
  have offered := List.mem_map_of_mem (f := fun edge : Edge => (edge.next,
    (⟨satAdd32 label.cost edge.metric,first_hop_at self_id label.hop edge.next edge.interface_id⟩ : Label)))
    ((edges_iff one vertex next).mpr joined)
  rcases settled vertex label found _ offered with root | ⟨old,least,now⟩
  · exact absurd root away
  · exact ⟨old,least,now⟩

theorem label_cost_le {first second : Label} (below : first ≤ second) : first.cost ≤ second.cost := by
  have lex : toLex (first.cost,hop_order first.hop) ≤ toLex (second.cost,hop_order second.hop) := below
  rw [Prod.Lex.toLex_le_toLex] at lex
  rcases lex with less | ⟨same,-⟩
  · exact less.le
  · exact same.le

/-- Of two labels of one cost the smaller one has the smaller router as its hop. -/
theorem label_hop_le {first second : Label} {here there : Ipv4Addr × UInt32} (below : first ≤ second)
    (same : first.cost = second.cost) (hop : first.hop = some here) (other : second.hop = some there) :
    here.1 ≤ there.1 := by
  have lex : toLex (first.cost,hop_order first.hop) ≤ toLex (second.cost,hop_order second.hop) := below
  rw [Prod.Lex.toLex_le_toLex,hop,other,same] at lex
  rcases lex with less | ⟨-,order⟩
  · exact absurd less (lt_irrefl _)
  · have hops : toLex here ≤ toLex there := WithBot.coe_le_coe.mp order
    rw [Prod.Lex.le_iff] at hops
    rcases hops with less | ⟨same,-⟩
    · exact less.le
    · exact same.le

/-- No path is cheaper than the label of its end. -/
theorem label_le_of_path (one : OneNetwork lsas) (path : Path lsas self_id steps vertex cost) :
    ∃ label, (paths_of lsas self_id).get? vertex = some label ∧
      label.cost ≤ cost := by
  induction path with
  | here => exact ⟨⟨0,none⟩,label_root lsas self_id,le_rfl⟩
  | @edge steps vertex cost next path joined away ih =>
    obtain ⟨label,found,below⟩ := ih
    obtain ⟨old,least,now⟩ := label_le_of_joined one found joined away
    exact ⟨old,now,(label_cost_le least).trans (satAdd32_le below next.metric)⟩

/-- Only the root has no first hop. -/
theorem label_hop (one : OneNetwork lsas) {label : Label} (away : vertex ≠ .Router self_id)
    (found : (paths_of lsas self_id).get? vertex = some label) :
    ∃ hop, label.hop = some hop := by
  obtain ⟨steps,path,hop⟩ := label_path one found
  rcases path.local_hop with ⟨-,root⟩ | ⟨known,first,-⟩
  · exact absurd root away
  · exact ⟨known,hop.trans first⟩

/-- An edge leaves two first hops on the sides of the own identifier where they were. -/
theorem first_hop_at_side {before known : Ipv4Addr} {out port interface_id : UInt32}
    (le : before ≤ self_id → known ≤ self_id) (lt : before < self_id → known < self_id) (next : Vertex) :
    ∃ first hop : Ipv4Addr × UInt32, first_hop_at self_id (some (before,out)) next interface_id = some first ∧
      first_hop_at self_id (some (known,port)) next interface_id = some hop ∧
      (first.1 ≤ self_id → hop.1 ≤ self_id) ∧ (first.1 < self_id → hop.1 < self_id) := by
  cases next with
  | Network dr number => exact ⟨_,_,rfl,rfl,le,lt⟩
  | Router peer =>
    simp only [first_hop_at]
    split_ifs with there here here
    · exact ⟨_,_,rfl,rfl,id,id⟩
    · have below : known < self_id := lt_of_le_of_ne (le there.le) here
      exact ⟨_,_,rfl,rfl,fun _ => below.le,fun _ => below⟩
    · subst here
      exact ⟨_,_,rfl,rfl,fun first => absurd (lt (lt_of_le_of_ne first there)) (lt_irrefl _),
        fun first => absurd (lt first) (lt_irrefl _)⟩
    · exact ⟨_,_,rfl,rfl,le,lt⟩

/-- The label of a cheapest path goes no higher than its first router past the own identifier. -/
theorem label_side_of_path (one : OneNetwork lsas) (path : Path lsas self_id steps vertex cost)
    (finite : cost < 0xffffff) :
    ∀ first hop : Ipv4Addr × UInt32, firstEdge self_id steps = some first →
      (paths_of lsas self_id).get? vertex = some ⟨cost,some hop⟩ →
      (first.1 ≤ self_id → hop.1 ≤ self_id) ∧ (first.1 < self_id → hop.1 < self_id) := by
  induction path with
  | here =>
    intro first hop none
    cases none
  | @edge steps vertex cost next path joined away ih =>
    rintro first hop along found
    obtain ⟨label,labelled,below⟩ := label_le_of_path one path
    obtain ⟨old,least,now⟩ := label_le_of_joined one labelled joined away
    rw [found] at now
    cases now
    have equal : label.cost = cost := le_antisymm below (satAdd32_cancel (label_cost_le least) finite)
    obtain ⟨price,via⟩ := label
    dsimp only at equal
    subst equal
    rcases path.local_hop with ⟨rfl,rfl⟩ | ⟨⟨before,out⟩,earlier,-⟩
    · rw [label_root] at labelled
      cases labelled
      rw [firstEdge_here] at along
      have lower := label_hop_le least rfl rfl along
      exact ⟨lower.trans,lower.trans_lt⟩
    · obtain ⟨⟨known,port⟩,rfl⟩ := label_hop one (path.end_away (by rintro rfl; cases earlier)) labelled
      obtain ⟨le,lt⟩ := ih ((le_satAdd32 _ _).trans_lt finite) _ _ earlier labelled
      obtain ⟨here,there,one_,two,sides⟩ := first_hop_at_side le lt next.next
      rw [firstEdge_step path.away earlier,one_] at along
      cases along
      have lower := label_hop_le least rfl rfl two
      exact ⟨fun own => lower.trans (sides.1 own),fun own => lower.trans_lt (sides.2 own)⟩

/-! ### Routes -/

theorem mem_lsa_routes (paths : OrderedMap Vertex Label) (route : OspfV3SpfRoute) :
    route ∈ (live lsas).flatMap (lsa_routes paths) ↔
      ∃ vertex network metric origin cost first_hop interface_id, Advertises lsas vertex network metric origin ∧
        paths.get? vertex = some ⟨cost,some (first_hop,interface_id)⟩ ∧
        route = ⟨network,satAdd32 cost metric,first_hop,interface_id,origin⟩ := by
  constructor
  · intro member
    obtain ⟨lsa,listed,made⟩ := List.mem_flatMap.mp member
    unfold lsa_routes at made
    split at made
    · rename_i reference prefixes body
      split at made
      · cases made
      · rename_i own
        split at made
        · rename_i cost first_hop interface_id found
          obtain ⟨p,chosen,rfl⟩ := List.mem_map.mp made
          obtain ⟨vertex,refers,known⟩ := Option.bind_eq_some_iff.mp found
          obtain ⟨inside,takes⟩ := List.mem_filter.mp chosen
          exact ⟨vertex,_,_,_,cost,first_hop,interface_id,.prefixes listed body (not_not.mp own) refers inside takes,known,rfl⟩
        · cases made
    · cases made
  · rintro ⟨vertex,network,metric,origin,cost,first_hop,interface_id,advertises,known,rfl⟩
    cases advertises with
    | prefixes listed body own refers member eligible_ =>
      rename_i lsa reference list p
      refine List.mem_flatMap.mpr ⟨lsa,listed,?_⟩
      unfold lsa_routes
      simp only [body,ne_eq,own,not_true,if_false,refers,Option.bind_some,known]
      exact List.mem_map.mpr ⟨p,List.mem_filter.mpr ⟨member,eligible_⟩,rfl⟩

theorem rank_metric_le {first second : OspfV3SpfRoute} (preferred : rank first ≤ rank second) :
    first.metric ≤ second.metric := by
  unfold rank at preferred
  rw [Prod.Lex.toLex_le_toLex] at preferred
  rcases preferred with lower | ⟨same,-⟩
  · exact lower.le
  · exact same.le

theorem rank_hop_le {first second : OspfV3SpfRoute} (preferred : rank first ≤ rank second)
    (same : first.metric = second.metric) : first.first_hop ≤ second.first_hop := by
  unfold rank at preferred
  rw [Prod.Lex.toLex_le_toLex,same,Prod.Lex.toLex_le_toLex] at preferred
  rcases preferred with less | ⟨-,less | ⟨equal,-⟩⟩
  · exact absurd less (lt_irrefl _)
  · exact less.le
  · exact equal.le

/-- A transit network has the prefix at a metric, and the own router is attached to the network at a cost. -/
def AttachedAt (lsas : List OspfV3Lsa) (self_id : Ipv4Addr) (network : Ipv6Network) (total : UInt32) : Prop :=
  ∃ dr number cost interface_id metric origin, Joined lsas (.Router self_id) ⟨.Network dr number,cost,interface_id⟩ ∧
    Advertises lsas (.Network dr number) network metric origin ∧ total = satAdd32 cost metric

/-- A route to a prefix: by a cheapest non-empty path to a vertex that has it, over a local first hop. The hop is the
own router exactly if an attached network is as cheap and no cheapest path starts with a smaller router. -/
structure Exact (lsas : List OspfV3Lsa) (self_id : Ipv4Addr) (network : Ipv6Network) (route : OspfV3SpfRoute) : Prop where
  target : route.network = network
  finite : route.metric < 0xffffff
  path : ∃ vertex steps cost metric, Advertises lsas vertex network metric route.origin ∧
    Path lsas self_id steps vertex cost ∧ steps ≠ [] ∧ route.metric = satAdd32 cost metric ∧
    firstEdge self_id steps = some (route.first_hop,route.interface_id) ∧
    LocalHop lsas self_id vertex route.first_hop route.interface_id
  least : ∀ vertex steps cost metric origin, Advertises lsas vertex network metric origin →
    Path lsas self_id steps vertex cost → steps ≠ [] → route.metric ≤ satAdd32 cost metric
  home : route.first_hop = self_id ↔ AttachedAt lsas self_id network route.metric ∧
    ∀ vertex steps cost metric origin first, Advertises lsas vertex network metric origin →
      Path lsas self_id steps vertex cost → route.metric = satAdd32 cost metric → firstEdge self_id steps = some first →
      self_id ≤ first.1

/-- A path whose first hop is the own router is one edge to an attached network. -/
theorem Path.attached {self_id : Ipv4Addr} {steps : List Edge} {vertex : Vertex} {cost : UInt32} {interface_id : UInt32}
    (path : Path lsas self_id steps vertex cost) (own : firstEdge self_id steps = some (self_id,interface_id)) :
    ∃ dr number, vertex = .Network dr number ∧ Joined lsas (.Router self_id) ⟨vertex,cost,interface_id⟩ := by
  induction path with
  | here => cases own
  | @edge steps vertex cost next path joined away ih =>
    obtain ⟨place,metric,port⟩ := next
    rcases path.local_hop with ⟨rfl,rfl⟩ | ⟨⟨before,out⟩,earlier,-⟩
    · obtain ⟨-,rfl⟩ := path.nil
      rw [firstEdge_here] at own
      cases place with
      | Router peer =>
        cases own
        exact absurd rfl away
      | Network dr number =>
        cases own
        rw [zero_satAdd32]
        exact ⟨dr,number,rfl,joined⟩
    · rw [firstEdge_step path.away earlier] at own
      cases place with
      | Router peer =>
        simp only [first_hop_at] at own
        split_ifs at own with back
        · cases own
          exact absurd rfl away
        · cases own
          exact absurd rfl back
      | Network dr number =>
        cases own
        obtain ⟨other,port',rfl,-⟩ := ih earlier
        cases joined

/-- Routes are exact and their first hops local: the route of a prefix is that of a cheapest path to a vertex that has
it, and only a prefix without a path below the infinite metric has none. -/
theorem v3_spf_exact (one : OneNetwork lsas) (self_id : Ipv4Addr) (network : Ipv6Network) :
    (∀ route, (ospfv3_spf self_id lsas).get? network = some route → Exact lsas self_id network route) ∧
    ∀ vertex steps cost metric origin, Advertises lsas vertex network metric origin →
      Path lsas self_id steps vertex cost → steps ≠ [] → satAdd32 cost metric < 0xffffff →
        ∃ route, (ospfv3_spf self_id lsas).get? network = some route := by
  obtain ⟨fromPaths,covers⟩ := @Selection.foldl_select_correct _ _ _ _ _ OspfV3SpfRoute.network rank
    (fun route => route.metric < 0xffffff) _
    ((live lsas).flatMap (lsa_routes (paths_of lsas self_id)))
  -- whatever has a label is covered by a route that is no worse
  have covered : ∀ vertex label hop metric origin, Advertises lsas vertex network metric origin →
      (paths_of lsas self_id).get? vertex = some label →
      label.hop = some hop → satAdd32 label.cost metric < 0xffffff →
        ∃ best, (ospfv3_spf self_id lsas).get? network = some best ∧
          rank best ≤ rank ⟨network,satAdd32 label.cost metric,hop.1,hop.2,origin⟩ := by
    rintro vertex ⟨cost,_⟩ ⟨hop,interface_id⟩ metric origin advertises found rfl finite
    exact covers ⟨network,satAdd32 cost metric,hop,interface_id,origin⟩
      ((mem_lsa_routes _ _).mpr ⟨vertex,network,metric,origin,cost,hop,interface_id,advertises,found,rfl⟩) finite
  have reached : ∀ vertex steps cost metric origin, Advertises lsas vertex network metric origin →
      Path lsas self_id steps vertex cost → steps ≠ [] → satAdd32 cost metric < 0xffffff →
        ∃ best, (ospfv3_spf self_id lsas).get? network = some best ∧ best.metric ≤ satAdd32 cost metric := by
    intro vertex steps cost metric origin advertises path nonempty finite
    obtain ⟨label,found,below⟩ := label_le_of_path one path
    obtain ⟨hop,known⟩ := label_hop one (path.end_away nonempty) found
    have cheaper : satAdd32 label.cost metric ≤ satAdd32 cost metric := satAdd32_le below metric
    obtain ⟨best,installed,preferred⟩ := covered vertex label hop metric origin advertises found known (cheaper.trans_lt finite)
    exact ⟨best,installed,(rank_metric_le preferred).trans cheaper⟩
  constructor
  · intro route found
    obtain ⟨member,target,finite⟩ := fromPaths network route found
    obtain ⟨vertex,destination,metric,origin,cost,first_hop,interface_id,advertises,known,rfl⟩ :=
      (mem_lsa_routes _ _).mp member
    obtain rfl : destination = network := target
    dsimp only at finite
    obtain ⟨steps,path,first⟩ := label_path one known
    have first : firstEdge self_id steps = some (first_hop,interface_id) := first.symm
    have nonempty : steps ≠ [] := by
      rintro rfl
      cases first
    have local_ : LocalHop lsas self_id vertex first_hop interface_id := by
      rcases path.local_hop with ⟨none,-⟩ | ⟨hop,same,hops⟩
      · exact absurd none nonempty
      · rw [first] at same
        cases same
        exact hops
    -- a label that is no dearer than the route has its cost, and no smaller first hop
    have cheapest : ∀ other label hop price beyond source, Advertises lsas other destination beyond source →
        (paths_of lsas self_id).get? other = some label →
        label.hop = some hop → label.cost ≤ price → satAdd32 cost metric = satAdd32 price beyond →
          label.cost = price ∧ first_hop ≤ hop.1 := by
      intro other label hop price beyond source elsewhere labelled via below total
      have small : satAdd32 label.cost beyond < 0xffffff :=
        (satAdd32_le below beyond).trans_lt (total.symm.trans_lt finite)
      obtain ⟨best,installed,preferred⟩ := covered other label hop beyond source elsewhere labelled via small
      rw [found] at installed
      cases installed
      have lower : satAdd32 price beyond ≤ satAdd32 label.cost beyond := total.ge.trans (rank_metric_le preferred)
      have same : label.cost = price := le_antisymm below (satAdd32_cancel lower (total.symm.trans_lt finite))
      refine ⟨same,rank_hop_le preferred ?_⟩
      rw [same]
      exact total
    refine ⟨rfl,finite,⟨vertex,steps,cost,metric,advertises,path,nonempty,rfl,first,local_⟩,?_,?_,?_⟩
    · intro other others price least source elsewhere way some_
      by_cases small : satAdd32 price least < 0xffffff
      · obtain ⟨best,installed,below⟩ := reached other others price least source elsewhere way some_ small
        rw [found] at installed
        cases installed
        exact below
      · exact finite.le.trans (not_lt.mp small)
    · rintro rfl
      obtain ⟨dr,number,rfl,joined⟩ := path.attached first
      refine ⟨⟨dr,number,cost,interface_id,metric,origin,joined,advertises,rfl⟩,?_⟩
      intro other others price beyond source start elsewhere way total along
      by_contra smaller
      have some_ : others ≠ [] := by
        rintro rfl
        cases along
      obtain ⟨label,labelled,below⟩ := label_le_of_path one way
      obtain ⟨hop,via⟩ := label_hop one (way.end_away some_) labelled
      obtain ⟨same,least⟩ := cheapest other label hop price beyond source elsewhere labelled via below total
      obtain ⟨price',hop'⟩ := label
      cases same
      cases via
      have inside := (le_satAdd32 price' beyond).trans_lt (total.symm.trans_lt finite)
      exact absurd ((label_side_of_path one way inside start hop along labelled).2 (not_le.mp smaller)) (not_lt.mpr least)
    · rintro ⟨⟨dr,number,price,port,beyond,source,joined,elsewhere,total⟩,least⟩
      refine le_antisymm ?_ (least vertex steps cost metric origin _ advertises path rfl first)
      have away : Vertex.Network dr number ≠ .Router self_id := nofun
      obtain ⟨label,below,labelled⟩ := label_le_of_joined one (label_root lsas self_id) joined away
      dsimp only at below labelled
      rw [zero_satAdd32] at below
      obtain ⟨hop,via⟩ := label_hop one away labelled
      obtain ⟨same,lower⟩ := cheapest _ label hop price beyond source elsewhere labelled via (label_cost_le below) total
      exact lower.trans (label_hop_le below same via rfl)
  · intro vertex steps cost metric origin advertises path nonempty finite
    obtain ⟨best,installed,-⟩ := reached vertex steps cost metric origin advertises path nonempty finite
    exact ⟨best,installed⟩

/-- The address of the prefix for documentation. -/
def documentation_address : Ipv6Addr := 0x20010db8000000000000000000000000#128

theorem documentation_short : (32 : UInt8) ≤ 128 := by decide

theorem documentation_canonical : documentation_address &&& mask 32 = documentation_address := by decide +kernel

def documentation : Ipv6Network := ⟨documentation_address,32,documentation_short,documentation_canonical⟩

def near_router : OspfV3Lsa := ⟨0,0,1,-2147483647,.Router 0 0x13 [⟨.PointToPoint,10,5,6,2⟩]⟩
def far_router : OspfV3Lsa := ⟨0,0,2,-2147483647,.Router 0 0x13 [⟨.PointToPoint,10,6,5,1⟩]⟩
def far_prefixes : OspfV3Lsa := ⟨0,0,2,-2147483647,.IntraAreaPrefix ⟨V3_ROUTER_LSA,0,2⟩ [⟨documentation,0,3⟩]⟩

/-- Two routers and a prefix at the second one. -/
def pair_database : List OspfV3Lsa := [near_router,far_router,far_prefixes]

theorem pair_one : OneNetwork pair_database := by
  unfold OneNetwork
  decide +kernel

theorem v3_spf_exact_pair : ∃ route, (ospfv3_spf 1 pair_database).get? documentation = some route ∧
    Exact pair_database 1 documentation route := by
  have near : HasLink pair_database 1 ⟨.PointToPoint,10,5,6,2⟩ := by
    refine ⟨near_router,List.mem_filter.mpr ⟨List.mem_cons_self,by decide⟩,rfl,0,0x13,_,rfl,by decide,?_⟩
    exact List.mem_cons_self
  have far : HasLink pair_database 2 ⟨.PointToPoint,10,6,5,1⟩ := by
    refine ⟨far_router,List.mem_filter.mpr ⟨?_,by decide⟩,rfl,0,0x13,_,rfl,by decide,?_⟩
    · exact List.mem_cons_of_mem _ List.mem_cons_self
    · exact List.mem_cons_self
  have joined : Joined pair_database (.Router 1) ⟨.Router 2,10,5⟩ := .pointToPoint near rfl far rfl rfl rfl rfl
  have advertises : Advertises pair_database (.Router 2) documentation 3 2 := by
    refine @Advertises.prefixes _ far_prefixes ⟨V3_ROUTER_LSA,0,2⟩ [⟨documentation,0,3⟩] _ ⟨documentation,0,3⟩ ?_ rfl rfl
      rfl List.mem_cons_self (by decide +kernel)
    refine List.mem_filter.mpr ⟨?_,by decide⟩
    exact List.mem_cons_of_mem _ (List.mem_cons_of_mem _ List.mem_cons_self)
  obtain ⟨route,found⟩ :=
    (v3_spf_exact pair_one 1 documentation).2 _ _ _ _ _ advertises (.edge .here joined (by decide)) (by simp) (by decide)
  exact ⟨route,found,(v3_spf_exact pair_one 1 documentation).1 route found⟩

def attached_router : OspfV3Lsa := ⟨0,0,2,-2147483647,.Router 0 0x13 [⟨.PointToPoint,5,1,1,1⟩,⟨.Transit,10,2,7,3⟩]⟩
def attached_network : OspfV3Lsa := ⟨0,7,3,-2147483647,.Network 0x13 [2,3]⟩
def attached_prefixes : OspfV3Lsa := ⟨0,0,3,-2147483647,.IntraAreaPrefix ⟨V3_NETWORK_LSA,7,3⟩ [⟨documentation,0,0⟩]⟩
def smaller_router : OspfV3Lsa := ⟨0,0,1,-2147483647,.Router 0 0x13 [⟨.PointToPoint,5,1,1,2⟩]⟩
def smaller_prefixes : OspfV3Lsa := ⟨0,0,1,-2147483647,.IntraAreaPrefix ⟨V3_ROUTER_LSA,0,1⟩ [⟨documentation,0,5⟩]⟩

/-- A network next to router 2, whose prefix router 1 has at the same metric. -/
def tied_database : List OspfV3Lsa := [attached_router,attached_network,attached_prefixes,smaller_router,smaller_prefixes]

theorem tied_paths : shortest_paths 2 (routers_of (live tied_database)) (networks_of (live tied_database)) =
    ⟨[(.Router 1,⟨5,some (1,1)⟩),(.Router 2,⟨0,none⟩),(.Network 3 7,⟨10,some (2,2)⟩)],by decide⟩ := by
  unfold shortest_paths
  rw [search_of_step _ _ (by rfl),search_of_step _ _ (by rfl),search_of_step _ _ (by rfl),search_of_stuck _ _ (by rfl)]
  rfl

/-- The first hop to a directly attached network is not always the router itself, even where no path is cheaper than
the attachment: a neighbour with a smaller identifier is preferred. -/
theorem attached_first_hop_smaller :
    ¬ ∀ (lsas : List OspfV3Lsa) (self_id : Ipv4Addr) (network : Ipv6Network) (route : OspfV3SpfRoute) (dr : Ipv4Addr)
      (number cost interface_id metric : UInt32) (origin : Ipv4Addr), OneNetwork lsas →
      (ospfv3_spf self_id lsas).get? network = some route → Joined lsas (.Router self_id) ⟨.Network dr number,cost,interface_id⟩ →
      Advertises lsas (.Network dr number) network metric origin → route.metric = satAdd32 cost metric →
      route.first_hop = self_id := by
  intro always
  have one : OneNetwork tied_database := by
    unfold OneNetwork
    decide +kernel
  have found : (ospfv3_spf 2 tied_database).get? documentation = some ⟨documentation,10,1,1,1⟩ := by
    unfold ospfv3_spf
    dsimp only
    rw [tied_paths]
    decide +kernel
  have own : HasLink tied_database 2 ⟨.Transit,10,2,7,3⟩ := by
    refine ⟨attached_router,List.mem_filter.mpr ⟨List.mem_cons_self,by decide⟩,rfl,0,0x13,_,rfl,by decide,?_⟩
    exact List.mem_cons_of_mem _ List.mem_cons_self
  have listed : HasNetwork tied_database 3 7 [2,3] := by
    refine ⟨attached_network,List.mem_filter.mpr ⟨?_,by decide⟩,rfl,rfl,0x13,rfl⟩
    exact List.mem_cons_of_mem _ List.mem_cons_self
  have joined : Joined tied_database (.Router 2) ⟨.Network 3 7,10,2⟩ := .transit own rfl listed List.mem_cons_self
  have advertises : Advertises tied_database (.Network 3 7) documentation 0 3 := by
    refine @Advertises.prefixes _ attached_prefixes ⟨V3_NETWORK_LSA,7,3⟩ [⟨documentation,0,0⟩] _ ⟨documentation,0,0⟩ ?_ rfl rfl
      rfl List.mem_cons_self (by decide +kernel)
    refine List.mem_filter.mpr ⟨?_,by decide⟩
    exact List.mem_cons_of_mem _ (List.mem_cons_of_mem _ List.mem_cons_self)
  have wrong : (1 : Ipv4Addr) = 2 := always tied_database 2 documentation _ 3 7 10 2 0 3 one found joined advertises rfl
  exact absurd wrong (by decide)

end Rios.OspfV3
