import Rios.OspfNeighbors
import Rios.Selection

/-!
# The routes of a process

Each prefix that a search found behind a two-way neighbour has one route, the most
preferred of all areas. Its next hop is on the network of its interface, so that a
lookup which selects it needs no further one.
-/

namespace Rios.OspfDevice
open Rios.Machine Rios.Device Rios.Queue Rios.Ospf Rios.OspfSpf
open Rios.LabelSearch (search_of_step search_of_stuck)
open Rios.Routing (Route RoutingTable attached)

namespace OspfRuntime
variable {settings : Settings} {self : OspfRuntime} {self_id : Ipv4Addr} {now : SimTime}

/-! ### Selection -/

/-- The route that a search of an area offers, if a neighbour leads there. -/
def offer (settings : Settings) (self : OspfRuntime) (self_id : Ipv4Addr) (border : Bool) (area : UInt32)
    (route : OspfSpfRoute) :
    Option (OspfSpfRoute × Route) :=
  if route.first_hop = self_id ∨ (border ∧ area ≠ 0 ∧ route.source = .OspfInterArea) then none
  else (self.via settings area route.first_hop).map (fun neighbor =>
    (route,⟨route.network,some neighbor.info.address,some neighbor.info.interface,110,route.metric,route.source⟩))

/-- The offers of all areas. -/
def offers (settings : Settings) (self : OspfRuntime) (self_id : Ipv4Addr) (now : SimTime) : List (OspfSpfRoute × Route) :=
  settings.areas.flatMap (fun area => (ospf_spf self_id (self.ospf_database area now).values).values.filterMap
    (self.offer settings self_id settings.abr area))

/-- Keep the most preferred offer of each prefix. -/
abbrev pick : OrderedMap Ipv4Network (OspfSpfRoute × Route) → OspfSpfRoute × Route →
    OrderedMap Ipv4Network (OspfSpfRoute × Route) :=
  Selection.select (fun item => item.1.network) (fun item => item.1.preference) (fun _ => True)

theorem select_route_offer (border : Bool) (area : UInt32) (selected : OrderedMap Ipv4Network (OspfSpfRoute × Route))
    (route : OspfSpfRoute) : self.select_route settings self_id border area selected route =
      (self.offer settings self_id border area route).elim selected (pick selected) := by
  unfold select_route offer
  by_cases filtered : route.first_hop = self_id ∨ (border ∧ area ≠ 0 ∧ route.source = .OspfInterArea)
  · rw [if_pos filtered,if_pos filtered]
    rfl
  · rw [if_neg filtered,if_neg filtered]
    cases self.via settings area route.first_hop with
    | none => rfl
    | some neighbor =>
      dsimp only [Option.map_some,Option.elim_some]
      unfold pick Selection.select
      by_cases better : (selected.get? route.network).all (fun old => route.preference < old.1.preference) = true
      · rw [if_pos better,if_pos ⟨trivial,better⟩]
      · rw [if_neg better,if_neg (fun both => better both.2)]

theorem foldl_offers (border : Bool) (area : UInt32) (found : List OspfSpfRoute)
    (selected : OrderedMap Ipv4Network (OspfSpfRoute × Route)) :
    found.foldl (self.select_route settings self_id border area) selected =
      (found.filterMap (self.offer settings self_id border area)).foldl pick selected := by
  induction found generalizing selected with
  | nil => rfl
  | cons route rest ih =>
    rw [List.foldl_cons,ih,select_route_offer]
    cases made : self.offer settings self_id border area route with
    | none => rw [List.filterMap_cons_none made,Option.elim_none]
    | some item => rw [List.filterMap_cons_some made,List.foldl_cons,Option.elim_some]

/-- The routes are the picks among the offers. -/
theorem recompute_routes (named : self.router_id = some self_id) (settings : Settings) (now : SimTime) :
    (self.recompute_ospf_routes settings now).routes =
      ((self.offers settings self_id now).foldl pick ∅).values.map (·.2) := by
  have folds : ∀ (areas : List UInt32) (selected : OrderedMap Ipv4Network (OspfSpfRoute × Route)) (border : Bool),
      areas.foldl (fun selected area => (ospf_spf self_id (self.ospf_database area now).values).values.foldl
        (self.select_route settings self_id border area) selected) selected =
      (areas.flatMap (fun area => (ospf_spf self_id (self.ospf_database area now).values).values.filterMap
        (self.offer settings self_id border area))).foldl pick selected := by
    intro areas
    induction areas with
    | nil => exact fun _ _ => rfl
    | cons area rest ih =>
      intro selected border
      rw [List.foldl_cons,ih,foldl_offers,List.flatMap_cons,List.foldl_append]
  unfold recompute_ospf_routes
  rw [named]
  dsimp only
  rw [folds]
  rfl

theorem recompute_offers (self : OspfRuntime) (settings : Settings) (self_id : Ipv4Addr) (now : SimTime) :
    (self.recompute_ospf_routes settings now).offers settings self_id now = self.offers settings self_id now ∧
      (self.recompute_ospf_routes settings now).router_id = self.router_id := by
  unfold recompute_ospf_routes
  split <;> exact ⟨rfl,rfl⟩

theorem tick_routes (named : (self.ospf_tick settings now).1.router_id = some self_id) :
    (self.ospf_tick settings now).1.routes =
      (((self.ospf_tick settings now).1.offers settings self_id now).foldl pick ∅).values.map (·.2) := by
  unfold ospf_tick at named ⊢
  dsimp only at named ⊢
  split at named
  · rename_i unnamed
    dsimp only at named
    rw [unnamed] at named
    cases named
  · dsimp only at named ⊢
    obtain ⟨offers,router_id⟩ := recompute_offers
      (((((self.ospf_prepare settings now).ospf_elect settings now).1.ospf_originate settings now).1.send_hellos now).1.tick_exchanges
        now).1 settings self_id now
    rw [offers]
    exact recompute_routes (router_id.symm.trans named) settings now

/-! ### What the routes are for -/

/-- A two-way neighbour in an area with the router ID of a first hop. -/
structure Leads (runtime : OspfRuntime) (area : UInt32) (first_hop : Ipv4Addr) (neighbor : Neighbor) : Prop where
  listed : ∃ key, runtime.neighbors.get? key = some neighbor
  router : neighbor.info.router_id = first_hop
  two_way : neighbor.info.state ≠ .Init
  inside : ∃ interface, runtime.interfaces.get? neighbor.info.interface = some interface ∧ interface.area = area

/-- A prefix that the search of an active area reached behind a two-way neighbour. A border router takes summaries from the
    backbone only. -/
structure Offered (settings : Settings) (runtime : OspfRuntime) (self_id : Ipv4Addr) (now : SimTime) (area : UInt32)
    (found : OspfSpfRoute) : Prop where
  active : ∃ active ∈ settings.ospf_interfaces, active.area = area
  reached : found ∈ (ospf_spf self_id (runtime.ospf_database area now).values).values
  remote : found.first_hop ≠ self_id
  admitted : settings.abr = true → found.source = .OspfInterArea → area = 0
  leads : ∃ neighbor, runtime.Leads area found.first_hop neighbor

/-- A route to what a search found, through the cheapest neighbour that leads there. -/
structure Leaves (settings : Settings) (runtime : OspfRuntime) (area : UInt32) (found : OspfSpfRoute) (neighbor : Neighbor)
    (route : Route) : Prop where
  leads : runtime.Leads area found.first_hop neighbor
  cheapest : ∀ other, runtime.Leads area found.first_hop other →
    toLex ((settings.policy neighbor.info.interface).cost,neighbor.info.interface) ≤
      toLex ((settings.policy other.info.interface).cost,other.info.interface)
  made : route = ⟨found.network,some neighbor.info.address,some neighbor.info.interface,110,found.metric,found.source⟩

variable {area : UInt32}

theorem mem_areas : area ∈ settings.areas ↔ ∃ active ∈ settings.ospf_interfaces, active.area = area := by
  rw [Settings.areas,OrderedMap.mem_keys]
  constructor
  · rintro ⟨⟨⟩,found⟩
    obtain ⟨active,member,same⟩ := List.mem_map.mp (OrderedMap.get?_ofList_mem found)
    exact ⟨active,member,congrArg Prod.fst same⟩
  · rintro ⟨active,member,rfl⟩
    exact ⟨(),(OrderedMap.get?_ofList_iff (fun _ _ _ _ => rfl) ()).mpr (List.mem_map.mpr ⟨active,member,rfl⟩)⟩

variable {neighbor : Neighbor}

/-- The neighbours among which the next hop is chosen are those that lead to the first hop. -/
theorem mem_leading {first_hop : Ipv4Addr} :
    neighbor ∈ self.neighbors.values.filter (fun n => n.info.router_id = first_hop && n.info.state ≠ .Init &&
      (self.interfaces.get? n.info.interface).any (fun runtime => runtime.area = area)) ↔
        self.Leads area first_hop neighbor := by
  rw [List.mem_filter,OrderedMap.mem_values]
  simp only [Bool.and_eq_true,decide_eq_true_eq,Option.any_eq_true]
  constructor
  · rintro ⟨listed,⟨router,two_way⟩,inside⟩
    exact ⟨listed,router,two_way,inside⟩
  · rintro ⟨listed,router,two_way,inside⟩
    exact ⟨listed,⟨router,two_way⟩,inside⟩

theorem via_leads {first_hop : Ipv4Addr} (chosen : self.via settings area first_hop = some neighbor) :
    self.Leads area first_hop neighbor ∧ ∀ other, self.Leads area first_hop other →
      toLex ((settings.policy neighbor.info.interface).cost,neighbor.info.interface) ≤
        toLex ((settings.policy other.info.interface).cost,other.info.interface) := by
  have least := show neighbor ∈ List.argmin _ _ from chosen
  refine ⟨mem_leading.mp (List.argmin_mem least),fun other leads => ?_⟩
  exact List.le_of_mem_argmin (f := fun n : Neighbor => toLex ((settings.policy n.info.interface).cost,n.info.interface))
    (mem_leading.mpr leads) least

theorem leads_via {first_hop : Ipv4Addr} (leads : self.Leads area first_hop neighbor) :
    ∃ nearest, self.via settings area first_hop = some nearest := by
  cases chosen : self.via settings area first_hop with
  | some nearest => exact ⟨nearest,rfl⟩
  | none =>
    have nobody := List.argmin_eq_none.mp (show List.argmin _ _ = none from chosen)
    exact absurd (nobody ▸ mem_leading.mpr leads) List.not_mem_nil

/-- An offer is for a search result that has one, and leaves through the cheapest neighbour. -/
theorem offers_leave {item : OspfSpfRoute × Route} (member : item ∈ self.offers settings self_id now) :
    ∃ area neighbor, self.Offered settings self_id now area item.1 ∧ self.Leaves settings area item.1 neighbor item.2 := by
  obtain ⟨area,active,listed⟩ := List.mem_flatMap.mp member
  obtain ⟨route,reached,made⟩ := List.mem_filterMap.mp listed
  unfold offer at made
  split at made
  · cases made
  · rename_i admitted
    obtain ⟨remote,inside⟩ := not_or.mp admitted
    obtain ⟨neighbor,chosen,rfl⟩ := Option.map_eq_some_iff.mp made
    obtain ⟨leads,cheapest⟩ := via_leads chosen
    refine ⟨area,neighbor,⟨mem_areas.mp active,reached,remote,fun border summary => ?_,neighbor,leads⟩,leads,cheapest,rfl⟩
    by_contra outside
    exact inside ⟨border,outside,summary⟩

/-- What a search offers behind a two-way neighbour is among the offers. -/
theorem offered_offers {found : OspfSpfRoute} (offered : self.Offered settings self_id now area found) :
    ∃ item ∈ self.offers settings self_id now, item.1 = found := by
  obtain ⟨neighbor,leads⟩ := offered.leads
  obtain ⟨nearest,chosen⟩ := leads_via leads
  have admitted : ¬(found.first_hop = self_id ∨ (settings.abr ∧ area ≠ 0 ∧ found.source = .OspfInterArea)) := by
    rintro (own | ⟨border,outside,summary⟩)
    · exact offered.remote own
    · exact outside (offered.admitted border summary)
  refine ⟨(found,⟨found.network,some nearest.info.address,some nearest.info.interface,110,found.metric,found.source⟩),
    List.mem_flatMap.mpr ⟨area,mem_areas.mpr offered.active,List.mem_filterMap.mpr ⟨found,offered.reached,?_⟩⟩,rfl⟩
  rw [offer,if_neg admitted,chosen,Option.map_some]

/-! ### Interfaces -/

/-- Every interface has the address of a speaking one. -/
def Current (settings : Settings) (runtime : OspfRuntime) : Prop :=
  ∀ id interface, runtime.interfaces.get? id = some interface →
    ∃ active ∈ settings.speaking, active.id = id ∧ interface.address = active.address

/-- Every interface was there with its address. -/
def SameAddresses (before after : OspfRuntime) : Prop :=
  ∀ id interface, after.interfaces.get? id = some interface →
    ∃ old, before.interfaces.get? id = some old ∧ interface.address = old.address

theorem SameAddresses.trans {first second third : OspfRuntime} (before : SameAddresses first second)
    (after : SameAddresses second third) : SameAddresses first third := by
  intro id interface found
  obtain ⟨middle,there,same⟩ := after id interface found
  obtain ⟨old,here,equal⟩ := before id middle there
  exact ⟨old,here,same.trans equal⟩

theorem follows_addresses {before after : OspfRuntime} (follows : Follows before after) : SameAddresses before after := by
  intro id interface found
  obtain ⟨old,there,same⟩ := follows.interface found
  exact ⟨old,there,same.address⟩

theorem Current.later {before after : OspfRuntime} (current : Current settings before) (same : SameAddresses before after) :
    Current settings after := by
  intro id interface found
  obtain ⟨old,there,address⟩ := same id interface found
  obtain ⟨active,speaks,here,known⟩ := current id old there
  exact ⟨active,speaks,here,address.trans known⟩

theorem elect_interface_addresses (settings : Settings) (self_id : Ipv4Addr) (now : SimTime) (self : OspfRuntime)
    (id : InterfaceId) :
    SameAddresses self (elect_interface settings self_id now self id).1 := by
  have refl : SameAddresses self self := fun _ interface found => ⟨interface,found,rfl⟩
  unfold elect_interface
  split
  · exact refl
  · rename_i runtime known
    split
    · exact refl
    · intro other interface found
      dsimp only at found
      rw [(adjoin_all_adjoins _ _ _ _ _ _ _ _).1,OrderedMap.get?_insert] at found
      by_cases on : other = id
      · rw [if_pos on] at found
        obtain rfl := Option.some.inj found
        exact ⟨runtime,on ▸ known,rfl⟩
      · rw [if_neg on] at found
        exact ⟨interface,found,rfl⟩

theorem elect_addresses (settings : Settings) (self : OspfRuntime) (now : SimTime) :
    SameAddresses self (self.ospf_elect settings now).1 := by
  have all : ∀ (self_id : Ipv4Addr) (ids : List InterfaceId) (self : OspfRuntime),
      SameAddresses self (elect_all settings self_id now self ids).1 := by
    intro self_id ids
    induction ids with
    | nil => exact fun self _ interface found => ⟨interface,found,rfl⟩
    | cons id rest ih => exact fun self => (elect_interface_addresses settings self_id now self id).trans (ih _)
  unfold ospf_elect
  split
  · exact fun _ interface found => ⟨interface,found,rfl⟩
  · exact all _ _ self

theorem prepare_interface_current (settings : Settings) (now : SimTime) (self : OspfRuntime) (active : ActiveInterface)
    {id : InterfaceId} {interface : InterfaceRuntime}
    (found : (self.prepare_interface settings now active).interfaces.get? id = some interface) :
    active.id = id ∧ interface.address = active.address ∨ active.id ≠ id ∧ self.interfaces.get? id = some interface := by
  have opens : ∀ {new : InterfaceRuntime}, new.address = active.address →
      (self.interfaces.insert active.id new).get? id = some interface →
        active.id = id ∧ interface.address = active.address ∨ active.id ≠ id ∧ self.interfaces.get? id = some interface := by
    intro new address found
    rw [OrderedMap.get?_insert] at found
    by_cases same : id = active.id
    · rw [if_pos same] at found
      exact .inl ⟨same.symm,Option.some.inj found ▸ address⟩
    · rw [if_neg same] at found
      exact .inr ⟨Ne.symm same,found⟩
  unfold prepare_interface at found
  split at found
  · split at found
    · exact opens rfl found
    · rename_i old _ unchanged
      refine opens ?_ found
      simp only [changed,Bool.or_eq_true,decide_eq_true_eq,not_or,not_not] at unchanged
      exact unchanged.1.1.1.1
  · exact opens rfl found

theorem prepare_interfaces_current (settings : Settings) (now : SimTime) (self : OspfRuntime)
    (actives : List ActiveInterface) {id : InterfaceId} {interface : InterfaceRuntime}
    (found : (actives.foldl (prepare_interface settings now) self).interfaces.get? id = some interface) :
    (∃ active ∈ actives, active.id = id ∧ interface.address = active.address) ∨
      (∀ active ∈ actives, active.id ≠ id) ∧ self.interfaces.get? id = some interface := by
  induction actives generalizing self with
  | nil => exact .inr ⟨fun _ member => absurd member List.not_mem_nil,found⟩
  | cons first rest ih =>
    rcases ih _ found with ⟨active,member,same⟩ | ⟨others,there⟩
    · exact .inl ⟨active,List.mem_cons_of_mem _ member,same⟩
    · rcases prepare_interface_current settings now self first there with same | ⟨other,held⟩
      · exact .inl ⟨first,List.mem_cons_self,same⟩
      · exact .inr ⟨List.forall_mem_cons.mpr ⟨other,others⟩,held⟩

theorem prepare_current (settings : Settings) (self : OspfRuntime) (now : SimTime) :
    Current settings (self.ospf_prepare settings now) := by
  unfold ospf_prepare
  split
  · intro id interface found
    cases found
  · intro id interface found
    dsimp only at found
    rcases prepare_interfaces_current settings now _ settings.speaking found with speaks | ⟨others,held⟩
    · exact speaks
    · have kept := (OrderedMap.get?_retain_eq_some.mp held).2
      obtain ⟨active,member,same⟩ := List.mem_map.mp (List.contains_iff_mem.mp kept)
      exact absurd same (others active member)

/-- A speaking interface is up, with its address. -/
theorem speaking_up {active : ActiveInterface} (speaks : active ∈ settings.speaking) :
    settings.network.protocol_up active.id = true ∧ settings.network.interface_ipv4 active.id = some active.address ∧
      ∃ port, settings.network.interfaces.get? active.id = some port := by
  have operational := (List.mem_filter.mp speaks).1
  unfold Settings.ospf_interfaces at operational
  split at operational
  · cases operational
  · obtain ⟨id,member,made⟩ := List.mem_filterMap.mp operational
    split at made
    · cases made
    · rename_i ip known
      split at made
      · cases made
      · split at made
        · rename_i up
          obtain rfl := Option.some.inj made
          exact ⟨up,known,(OrderedMap.mem_keys _ _).mp member⟩
        · cases made

/-! ### Forwarding -/

/-- The next hop of a route is another host on the network of its interface, which is up, and a lookup that selects the route
    needs no further one. -/
structure Direct (settings : Settings) (runtime : OspfRuntime) (neighbor : Neighbor) (route : Route) : Prop where
  attached : ∃ interface, runtime.interfaces.get? neighbor.info.interface = some interface ∧
    settings.network.interface_ipv4 neighbor.info.interface = some interface.address ∧
      (attached interface.address).contains neighbor.info.address = true ∧ neighbor.info.address ≠ interface.address.address
  up : settings.network.protocol_up neighbor.info.interface = true
  resolved : ∀ (routes : RoutingTable) destination, routes.lookup destination = some route →
    ∃ resolved, settings.network.resolve_in_table routes destination = some resolved ∧
      resolved.interface = neighbor.info.interface ∧ resolved.next_hop = neighbor.info.address

/-- A route through a neighbour on the network of its interface is resolved at once. -/
theorem leaves_direct {found : OspfSpfRoute} {route : Route} (table : Table self) (current : Current settings self)
    (leaves : self.Leaves settings area found neighbor route) :
    self.Direct settings neighbor route := by
  obtain ⟨key,there⟩ := leaves.leads.listed
  obtain ⟨interface,on,-⟩ := leaves.leads.inside
  have listed := table.listed key neighbor there
  have located := table.located key neighbor interface there (listed.interface ▸ on)
  obtain ⟨active,speaks,same,address⟩ := current _ interface on
  obtain ⟨up,known,port,ported⟩ := speaking_up speaks
  rw [same] at up known ported
  rw [← address] at known
  have inside : (attached interface.address).contains neighbor.info.address = true := by
    have network := located.network
    rw [Ipv4Network.new,dif_pos interface.address.valid] at network
    exact network
  refine ⟨⟨interface,on,known,inside,located.other⟩,up,fun routes destination selected => ?_⟩
  have egress : settings.network.hop routes destination =
      .Egress ⟨neighbor.info.interface,interface.address.address,port.mac_address,neighbor.info.address⟩ := by
    unfold Routing.Surroundings.hop
    rw [selected,leaves.made]
    dsimp only
    rw [up,known,ported]
    exact if_pos inside
  refine ⟨⟨neighbor.info.interface,interface.address.address,port.mac_address,neighbor.info.address⟩,?_,rfl,rfl⟩
  rw [Routing.Surroundings.resolve_in_table,Routing.Surroundings.resolve_rounds,egress]
  rfl

/-- The picks are offers, each at its prefix, and no other offer for the prefix is preferred to one. -/
theorem picks_correct (settings : Settings) (self : OspfRuntime) (self_id : Ipv4Addr) (now : SimTime) :
    let picks := (self.offers settings self_id now).foldl pick ∅
    (∀ network item, picks.get? network = some item → item ∈ self.offers settings self_id now ∧ item.1.network = network) ∧
      ∀ other ∈ self.offers settings self_id now, ∃ best, picks.get? other.1.network = some best ∧
        best.1.preference ≤ other.1.preference := by
  intro picks
  obtain ⟨from_offers,covers⟩ := @Selection.foldl_select_correct _ _ _ _ _ (fun item : OspfSpfRoute × Route => item.1.network)
    (fun item => item.1.preference) (fun _ => True) _ (self.offers settings self_id now)
  refine ⟨fun network item found => ?_,fun other member => covers other member trivial⟩
  obtain ⟨listed,key,-⟩ := from_offers network item found
  exact ⟨listed,key⟩

/-- The routes after a tick, whatever the process has been through: one for each prefix that a search reached behind a
    two-way neighbour, to a result to which none for the prefix is preferred, through the cheapest neighbour that
    leads there. The neighbour is on the network of the interface, and a lookup that selects the route is resolved at
    once. -/
theorem routes_forward (operations : List Operation) (settings : Settings) (now : SimTime) {self_id : Ipv4Addr}
    (named : ((default.run operations).ospf_tick settings now).1.router_id = some self_id) :
    let after := ((default.run operations).ospf_tick settings now).1
    (after.routes.map (·.network)).Nodup ∧
      (∀ route ∈ after.routes, ∃ area found neighbor, after.Offered settings self_id now area found ∧
        after.Leaves settings area found neighbor route ∧ after.Direct settings neighbor route ∧
          ∀ elsewhere other, after.Offered settings self_id now elsewhere other → other.network = route.network →
            found.preference ≤ other.preference) ∧
      ∀ area found, after.Offered settings self_id now area found → ∃ route ∈ after.routes, route.network =
          found.network := by
  intro after
  have whole := neighbor_table operations (.tick settings now)
  have ran : default.run (operations ++ [.tick settings now]) = after := List.foldl_concat ..
  rw [ran] at whole
  obtain ⟨table,-⟩ := whole
  have current : Current settings after :=
    ((prepare_current settings (default.run operations) now).later (elect_addresses settings _ now)).later
      (follows_addresses (tick_follows settings (default.run operations) now))
  have routes := tick_routes named
  obtain ⟨from_offers,covered⟩ := picks_correct settings after self_id now
  obtain ⟨picks,all⟩ : ∃ picks, picks = (after.offers settings self_id now).foldl pick ∅ := ⟨_,rfl⟩
  rw [← all] at from_offers covered
  have listed_routes : after.routes = picks.values.map (·.2) := routes.trans (by rw [all])
  have at_network : ∀ network item, picks.get? network = some item → item.2.network = network := by
    intro network item found
    obtain ⟨listed,same⟩ := from_offers network item found
    obtain ⟨_,_,-,leaves⟩ := offers_leave listed
    rw [leaves.made]
    exact same
  rw [listed_routes]
  refine ⟨?_,fun route member => ?_,fun area found offered => ?_⟩
  · have keys : (picks.values.map (·.2)).map (·.network) = picks.keys := by
      rw [OrderedMap.values,List.map_map,List.map_map]
      refine List.map_congr_left (fun entry member => ?_)
      exact at_network entry.1 entry.2 ((OrderedMap.get?_eq_some _ _ _).mpr member)
    rw [keys]
    exact picks.keys_nodup
  · obtain ⟨item,picked,rfl⟩ := List.mem_map.mp member
    obtain ⟨network,found⟩ := (OrderedMap.mem_values _ _).mp picked
    obtain ⟨area,neighbor,offered,leaves⟩ := offers_leave (from_offers network item found).1
    refine ⟨area,item.1,neighbor,offered,leaves,leaves_direct table current leaves,fun elsewhere other competes equal => ?_⟩
    obtain ⟨rival,listed,rfl⟩ := offered_offers competes
    obtain ⟨best,known,preferred⟩ := covered rival listed
    rw [equal,at_network network item found,found] at known
    obtain rfl := Option.some.inj known
    exact preferred
  · obtain ⟨item,listed,rfl⟩ := offered_offers offered
    obtain ⟨best,known,-⟩ := covered item listed
    exact ⟨best.2,List.mem_map_of_mem ((OrderedMap.mem_values _ _).mpr ⟨_,known⟩),at_network _ best known⟩

/-- The database of the router on the link, five seconds after the exchange. -/
def joined_database : List Lsa :=
  [⟨5,2,1,1,LSA_INITIAL_SEQUENCE + 1,.Router 0 [⟨0x0a000000,mask_of 30,.Stub,10⟩,⟨2,0x0a000001,.PointToPoint,10⟩]⟩,
    {far_lsa with age := 5}]

theorem joined_paths : shortest_paths 1 (routers_of (live joined_database)) (networks_of (live joined_database)) =
    ⟨[(.Router 1,⟨0,none⟩),(.Router 2,⟨10,some 2⟩)],by decide⟩ := by
  unfold shortest_paths
  rw [search_of_step _ _ (by rfl),search_of_step _ _ (by rfl),search_of_stuck _ _ (by rfl)]
  rfl

theorem joined_found : (ospf_spf 1 joined_database).values =
    [⟨⟨0x0a000000,30,by decide,by decide⟩,10,0,1,1,.Ospf⟩,⟨⟨0x0a020200,24,by decide,by decide⟩,20,10,2,2,.Ospf⟩] := by
  unfold ospf_spf ospf_calculate
  dsimp only
  rw [joined_paths]
  decide +kernel

/-- The exchange with the other router gives the prefix behind it a route. -/
theorem routes_forward_joined :
    let after := ((default.run joining).ospf_tick near 5000000).1
    (⟨⟨0x0a020200,24,by decide,by decide⟩,some 0x0a000002,some 1,110,20,.Ospf⟩ : Route) ∈ after.routes ∧
      (after.routes.map (·.network)).Nodup ∧
      (∀ route ∈ after.routes, ∃ area found neighbor, after.Offered near 1 5000000 area found ∧
        after.Leaves near area found neighbor route ∧ after.Direct near neighbor route ∧
          ∀ elsewhere other, after.Offered near 1 5000000 elsewhere other → other.network = route.network →
            found.preference ≤ other.preference) ∧
      ∀ area found, after.Offered near 1 5000000 area found → ∃ route ∈ after.routes, route.network = found.network := by
  intro after
  have named : after.router_id = some 1 := by decide +kernel
  have forward := routes_forward joining near 5000000 named
  refine ⟨?_,forward⟩
  obtain ⟨-,chosen,covered⟩ := forward
  have database : (after.ospf_database 0 5000000).values = joined_database := by decide +kernel
  have backbone : ∀ active ∈ near.ospf_interfaces, active.area = 0 := by decide +kernel
  obtain ⟨far,alone,known⟩ := List.map_eq_singleton_iff.mp (show after.neighbors.values.map (fun neighbor =>
    (neighbor.info.router_id,neighbor.info.address,neighbor.info.interface,neighbor.info.state)) = [(2,0x0a000002,1,.Full)] by
      decide +kernel)
  obtain ⟨router,address,interface,full⟩ : far.info.router_id = 2 ∧ far.info.address = 0x0a000002 ∧ far.info.interface = 1 ∧
      far.info.state = .Full := by simpa using known
  have inside : (after.interfaces.get? 1).any (fun runtime => runtime.area = 0) = true := by decide +kernel
  have leads : after.Leads 0 2 far :=
    ⟨(OrderedMap.mem_values _ _).mp (alone ▸ List.mem_singleton_self far),router,by rw [full]; decide,by
      simpa only [Option.any_eq_true,decide_eq_true_eq,interface] using inside⟩
  obtain ⟨route,member,network⟩ := covered 0 ⟨⟨0x0a020200,24,by decide,by decide⟩,20,10,2,2,.Ospf⟩
    ⟨by decide +kernel,by rw [database,joined_found]; exact List.mem_cons_of_mem _ List.mem_cons_self,by decide,
      fun _ summary => absurd summary (by decide),far,leads⟩
  obtain ⟨area,found,neighbor,offered,leaves,-⟩ := chosen route member
  obtain ⟨active,speaks,rfl⟩ := offered.active
  have reached := offered.reached
  rw [backbone active speaks,database,joined_found] at reached
  have behind : found = ⟨⟨0x0a020200,24,by decide,by decide⟩,20,10,2,2,.Ospf⟩ := by
    rcases List.mem_pair.mp reached with rfl | same
    · exact absurd rfl offered.remote
    · exact same
  have only : neighbor = far := by
    have listed := (OrderedMap.mem_values _ _).mpr leaves.leads.listed
    rw [alone] at listed
    exact List.mem_singleton.mp listed
  rw [leaves.made,behind,only,address,interface] at member
  exact member

end OspfRuntime
end Rios.OspfDevice
