import Rios.OspfDatabase
import Rios.OspfInvariants

/-!
# The neighbour table of a process

Whatever a process is told and whenever its timers are driven: every neighbour is a
valid router on the network of its interface, its state is that of its exchange, and
exactly the adjacent ones have an exchange once the elections are held.
-/

namespace Rios.Ospf.OspfExchange
open Rios.Machine Rios.Device Rios.Queue
variable {L : Type} [ExchangeAdvertisement L]

/-- An exchange is starting, or it can exchange. -/
def Engaged (self : OspfExchange L) : Prop := self.state = .ExStart ∨ self.can_exchange = true

namespace Engaged
variable {x y : OspfExchange L}

theorem of_state (engaged : x.Engaged) (same : y.state = x.state) : y.Engaged := by
  unfold Engaged can_exchange at *
  rwa [same]

theorem ne_init (engaged : x.Engaged) : x.state ≠ .Init := by
  intro init
  unfold Engaged can_exchange at engaged
  rw [init] at engaged
  simp at engaged

theorem exchanging (here : x.state = .Exchange ∨ x.state = .Loading ∨ x.state = .Full) :
    x.Engaged := .inr (decide_eq_true here)

theorem start (x : OspfExchange L) (database : Database L) (now : SimTime) : (x.start database now).1.Engaged := .inl rfl

theorem restart (x : OspfExchange L) (database : Database L) (now : SimTime) : (x.restart database now).1.Engaged := .inl rfl

theorem finish (x : OspfExchange L) (now : SimTime) : (x.finish now).1.Engaged := by
  unfold OspfExchange.finish
  split
  · exact exchanging (.inr (.inr rfl))
  · exact exchanging (.inr (.inl rfl))

theorem negotiate (engaged : x.Engaged) (flags : UInt8) (sequence : UInt32) (headers : List (Header L))
    (database : Database L) (now : SimTime) : (x.negotiate flags sequence headers database now).1.Engaged := by
  unfold OspfExchange.negotiate
  split
  · exact exchanging (.inl rfl)
  · split
    · exact exchanging (.inl rfl)
    · exact engaged

theorem take_page (engaged : x.Engaged) (flags : UInt8) (sequence : UInt32) (headers : List (Header L))
    (database : Database L) (now : SimTime) : (x.take_page flags sequence headers database now).1.Engaged := by
  unfold OspfExchange.take_page
  dsimp only
  split
  · split
    · exact finish _ now
    · exact engaged.of_state rfl
  · split
    · exact finish _ now
    · exact engaged.of_state rfl

theorem receive_dd (engaged : x.Engaged) (mtu : UInt16) (options : UInt32) (flags : UInt8) (sequence : UInt32)
    (headers : List (Header L)) (database : Database L) (now : SimTime) :
    (x.receive_dd mtu options flags sequence headers database now).1.Engaged := by
  unfold OspfExchange.receive_dd
  split
  · exact engaged
  · split
    · exact engaged.negotiate flags sequence headers database now
    · split
      · exact engaged
      · split
        · exact engaged
        · split
          · exact engaged
          · split
            · exact engaged
            · split
              · exact restart x database now
              · exact engaged.take_page flags sequence headers database now

theorem flood (engaged : x.Engaged) (lsa : L) (now : SimTime) : (x.flood lsa now).1.Engaged :=
  engaged.of_state (flood_state x lsa now).1

theorem receive_request (engaged : x.Engaged) (database : Database L) (now : SimTime) (packets : List (OspfBody L))
    (keys : List (Key L)) : (receive_request database now x packets keys).1.Engaged := by
  induction keys generalizing x packets with
  | nil => exact engaged
  | cons wanted rest ih =>
    rw [OspfExchange.receive_request]
    split
    · exact restart x database now
    · exact ih (engaged.flood _ now) _

theorem update_lsa (database : Database L) (now : SimTime) {s : Updating L} (engaged : s.exchange.Engaged) (lsa : L) :
    (update_lsa database now s lsa).exchange.Engaged := by
  obtain ⟨after,erased,outcome⟩ := update_lsa_cases database now s lsa
  have still : after.Engaged := by
    rcases erased with rfl | ⟨key,rfl⟩
    · exact engaged
    · exact engaged.of_state rfl
  rcases outcome with ⟨kept,-⟩ | ⟨old,flooded,-⟩
  · rwa [kept]
  · rw [flooded]
    exact still.flood old now

theorem receive_update (engaged : x.Engaged) (lsas : List L) (database : Database L) (now : SimTime) :
    (x.receive_update lsas database now).1.Engaged := by
  have updated : (lsas.foldl (OspfExchange.update_lsa database now) ⟨x,[],[],[]⟩).exchange.Engaged :=
    @List.foldlRecOn _ _ (fun s : Updating L => s.exchange.Engaged) lsas (OspfExchange.update_lsa database now) ⟨x,[],[],[]⟩
      engaged (fun s here lsa _ => update_lsa database now here lsa)
  unfold OspfExchange.receive_update
  dsimp only
  split
  · exact exchanging (.inr (.inr rfl))
  · exact updated

theorem receive (engaged : x.Engaged) (body : OspfBody L) (database : Database L) (now : SimTime) :
    (x.receive body database now).1.Engaged := by
  cases body with
  | DatabaseDescription mtu options flags sequence headers =>
    exact engaged.receive_dd mtu options flags sequence headers database now
  | LinkStateRequest keys =>
    rw [OspfExchange.receive]
    split
    · exact engaged.receive_request database now [] keys
    · exact engaged
  | LinkStateUpdate lsas =>
    rw [OspfExchange.receive]
    split
    · exact engaged.receive_update lsas database now
    · exact engaged
  | LinkStateAck headers =>
    rw [OspfExchange.receive]
    split
    · exact engaged.of_state rfl
    · exact engaged
  | Hello _ => exact engaged

/-- No call ends an exchange. -/
theorem perform (engaged : x.Engaged) (operation : Operation L) : (x.perform operation).Engaged := by
  cases operation with
  | start database now => exact start x database now
  | flood lsa now => exact engaged.flood lsa now
  | receive body database now => exact engaged.receive body database now
  | tick now =>
    obtain ⟨dd_due,request_due,shape⟩ := tick_shape x now
    refine engaged.of_state ?_
    rw [OspfExchange.perform,shape]

theorem run (engaged : x.Engaged) (operations : List (Operation L)) : (operations.foldl OspfExchange.perform x).Engaged := by
  induction operations generalizing x with
  | nil => exact engaged
  | cons operation rest ih => exact ih (engaged.perform operation)

end Engaged

theorem Reached.run {x : OspfExchange L} (reached : x.Reached) (operations : List (Operation L)) :
    (operations.foldl perform x).Reached := by
  obtain ⟨here,peer,mtu,sequence,earlier,rfl⟩ := reached
  exact ⟨here,peer,mtu,sequence,earlier ++ operations,List.foldl_append.symm⟩

end Rios.Ospf.OspfExchange

namespace Rios.OspfDevice
open Rios.Machine Rios.Device Rios.Queue Rios.Ospf
open Rios.Bgp (is_unspecified is_multicast is_broadcast)

/-! ### The table -/

/-- A neighbour's identity is that of its key, and its state that of its exchange. -/
structure Listed (key : NeighborKey) (neighbor : Neighbor) : Prop where
  interface : neighbor.info.interface = (ofLex key).1
  router_id : neighbor.info.router_id = (ofLex key).2
  valid : (is_unspecified (ofLex key).2 || is_multicast (ofLex key).2 || is_broadcast (ofLex key).2) = false
  alone : neighbor.exchange = none → neighbor.info.state = .Init ∨ neighbor.info.state = .TwoWay
  exchanges : ∀ exchange, neighbor.exchange = some exchange →
    neighbor.info.state = exchange.state ∧ exchange.Engaged ∧ exchange.Reached

/-- A neighbour's address is a host of the interface's network other than its own. -/
structure Located (interface : InterfaceRuntime) (neighbor : Neighbor) : Prop where
  network : (Ipv4Network.new interface.address.address interface.address.prefix_len).toOption.any
    (·.contains neighbor.info.address) = true
  other : neighbor.info.address ≠ interface.address.address
  unicast : (is_unspecified neighbor.info.address || is_multicast neighbor.info.address || is_broadcast neighbor.info.address) = false

/-- The neighbour table with the interfaces that the neighbours were heard on. -/
structure Table (runtime : OspfRuntime) : Prop where
  few : runtime.neighbors.size ≤ NEIGHBOR_LIMIT
  unnamed : runtime.router_id = none → runtime.neighbors = ∅
  foreign : ∀ key neighbor, runtime.neighbors.get? key = some neighbor → some (ofLex key).2 ≠ runtime.router_id
  listed : ∀ key neighbor, runtime.neighbors.get? key = some neighbor → Listed key neighbor
  located : ∀ key neighbor interface, runtime.neighbors.get? key = some neighbor →
    runtime.interfaces.get? (ofLex key).1 = some interface → Located interface neighbor

/-- Every neighbour has its interface. -/
def Homed (runtime : OspfRuntime) : Prop :=
  ∀ key neighbor, runtime.neighbors.get? key = some neighbor → ∃ interface, runtime.interfaces.get? (ofLex key).1 =
    some interface

/-- Only an adjacent neighbour has an exchange. -/
def Joined (runtime : OspfRuntime) : Prop :=
  ∀ key neighbor interface, runtime.neighbors.get? key = some neighbor → runtime.interfaces.get? (ofLex key).1 =
    some interface →
    neighbor.exchange.isSome = true → interface.adjacent neighbor = true

/-- Whether an interface still waits for the first election of its segment. -/
def Waiting (interface : InterfaceRuntime) (now : SimTime) : Prop :=
  interface.policy.network_type = .Broadcast ∧ now < interface.wait_until ∧ interface.dr = 0

/-- An adjacent two-way neighbour has an exchange, but on an interface that waits. -/
def Met (runtime : OspfRuntime) (now : SimTime) (key : NeighborKey) : Prop :=
  ∀ neighbor interface, runtime.neighbors.get? key = some neighbor → runtime.interfaces.get? (ofLex key).1 = some interface →
    neighbor.info.state ≠ .Init → interface.adjacent neighbor = true → neighbor.exchange.isSome = true ∨
      Waiting interface now

/-! ### Steps of the exchanges -/

/-- A neighbour whose exchange goes on, if it has one. -/
structure Steps (before after : Neighbor) : Prop where
  interface : after.info.interface = before.info.interface
  router_id : after.info.router_id = before.info.router_id
  address : after.info.address = before.info.address
  alone : before.exchange = none → after.exchange = none ∧ after.info.state = before.info.state
  exchanges : ∀ exchange, before.exchange = some exchange → ∃ operations : List (OspfExchange.Operation Lsa),
    after.exchange = some (operations.foldl OspfExchange.perform exchange) ∧
      (before.info.state = exchange.state → after.info.state = (operations.foldl OspfExchange.perform exchange).state)

/-- An interface that is the same for its neighbours. -/
structure SameSegment (before after : InterfaceRuntime) : Prop where
  address : after.address = before.address
  network_type : after.policy.network_type = before.policy.network_type
  wait_until : after.wait_until = before.wait_until
  dr : after.dr = before.dr
  bdr : after.bdr = before.bdr

/-- Neither the neighbours nor the segments change, only exchanges go on. -/
structure Follows (before after : OspfRuntime) : Prop where
  router_id : after.router_id = before.router_id
  neighbors : ∀ key, Option.Rel Steps (before.neighbors.get? key) (after.neighbors.get? key)
  interfaces : ∀ id, Option.Rel SameSegment (before.interfaces.get? id) (after.interfaces.get? id)

theorem Steps.refl (neighbor : Neighbor) : Steps neighbor neighbor :=
  ⟨rfl,rfl,rfl,fun alone => ⟨alone,rfl⟩,fun _ here => ⟨[],here,id⟩⟩

theorem Steps.trans {first second third : Neighbor} (before : Steps first second) (after : Steps second third) :
    Steps first third := by
  refine ⟨after.interface.trans before.interface,after.router_id.trans before.router_id,after.address.trans before.address,
    fun alone => ?_,fun exchange here => ?_⟩
  · obtain ⟨still,state⟩ := before.alone alone
    exact ⟨(after.alone still).1,(after.alone still).2.trans state⟩
  · obtain ⟨operations,middle,state⟩ := before.exchanges exchange here
    obtain ⟨more,last,final⟩ := after.exchanges _ middle
    refine ⟨operations ++ more,?_,fun same => ?_⟩
    · rw [List.foldl_append,last]
    · rw [List.foldl_append,final (state same)]

theorem SameSegment.refl (interface : InterfaceRuntime) : SameSegment interface interface := ⟨rfl,rfl,rfl,rfl,rfl⟩

theorem SameSegment.trans {first second third : InterfaceRuntime} (before : SameSegment first second)
    (after : SameSegment second third) : SameSegment first third :=
  ⟨after.address.trans before.address,after.network_type.trans before.network_type,after.wait_until.trans before.wait_until,
    after.dr.trans before.dr,after.bdr.trans before.bdr⟩

theorem SameSegment.adjacent {interface later : InterfaceRuntime} {neighbor other : Neighbor}
    (same : SameSegment interface later) (address : other.info.address = neighbor.info.address) :
    later.adjacent other = interface.adjacent neighbor := by
  unfold InterfaceRuntime.adjacent InterfaceRuntime.election Ospf.InterfaceRuntime.adjacent
  rw [same.address,same.network_type,same.dr,same.bdr,address]

section OptionRel
variable {α : Type} {related : α → α → Prop}

theorem rel_some {first second : Option α} (rel : Option.Rel related first second) {after : α} (here : second = some after) :
    ∃ before, first = some before ∧ related before after := by
  subst here
  cases rel with
  | some one => exact ⟨_,rfl,one⟩

theorem rel_refl (reflexive : ∀ item, related item item) (item : Option α) : Option.Rel related item item := by
  cases item with
  | none => exact .none
  | some item => exact .some (reflexive item)

theorem rel_comp {one two both : α → α → Prop} (composes : ∀ first second third, one first second → two second third → both first third)
    {first second third : Option α} (before : Option.Rel one first second) (after : Option.Rel two second third) :
    Option.Rel both first third := by
  cases before with
  | none =>
    cases after with
    | none => exact .none
  | some here =>
    cases after with
    | some there => exact .some (composes _ _ _ here there)

theorem rel_mono {other : α → α → Prop} (implies : ∀ first second, related first second → other first second)
    {first second : Option α} (rel : Option.Rel related first second) : Option.Rel other first second := by
  cases rel with
  | none => exact .none
  | some here => exact .some (implies _ _ here)

theorem rel_map {change : α → α} (changes : ∀ item, related item (change item)) (item : Option α) :
    Option.Rel related item (item.map change) := by
  cases item with
  | none => exact .none
  | some item => exact .some (changes item)

end OptionRel

/-- Neighbours that were known, at their addresses, and interfaces that were known, at theirs. -/
theorem Table.carry {before after : OspfRuntime} (table : Table before) (router_id : after.router_id = before.router_id)
    (neighbors : ∀ key neighbor, after.neighbors.get? key = some neighbor → ∃ old, before.neighbors.get? key = some old ∧
      neighbor.info.address = old.info.address ∧ (Listed key old → Listed key neighbor))
    (interfaces : ∀ key neighbor interface, after.neighbors.get? key = some neighbor →
      after.interfaces.get? (ofLex key).1 = some interface →
        ∃ old, before.interfaces.get? (ofLex key).1 = some old ∧ interface.address = old.address) : Table after where
  few := by
    refine le_trans ?_ table.few
    rw [OrderedMap.size_eq_keys before.neighbors]
    refine OrderedMap.size_le_of_keys_subset _ (fun key member => ?_)
    obtain ⟨neighbor,found⟩ := (OrderedMap.mem_keys _ _).mp member
    obtain ⟨old,held,-⟩ := neighbors key neighbor found
    exact (OrderedMap.mem_keys _ _).mpr ⟨old,held⟩
  unnamed unnamed := by
    have empty := table.unnamed (router_id ▸ unnamed)
    refine OrderedMap.ext fun key => ?_
    cases found : after.neighbors.get? key with
    | none => rfl
    | some neighbor =>
      obtain ⟨old,held,-⟩ := neighbors key neighbor found
      rw [empty] at held
      cases held
  foreign key neighbor found := by
    obtain ⟨old,held,-⟩ := neighbors key neighbor found
    rw [router_id]
    exact table.foreign key old held
  listed key neighbor found := by
    obtain ⟨old,held,-,listed⟩ := neighbors key neighbor found
    exact listed (table.listed key old held)
  located key neighbor interface found there := by
    obtain ⟨old,held,address,-⟩ := neighbors key neighbor found
    obtain ⟨was,known,same⟩ := interfaces key neighbor interface found there
    have located := table.located key old was held known
    constructor
    · rw [same,address]
      exact located.network
    · rw [same,address]
      exact located.other
    · rw [address]
      exact located.unicast

/-- An exchange that goes on keeps its neighbour in step. -/
theorem Steps.listed {key : NeighborKey} {old neighbor : Neighbor} (steps : Steps old neighbor) (listed : Listed key old) :
    Listed key neighbor := by
  refine ⟨steps.interface.trans listed.interface,steps.router_id.trans listed.router_id,listed.valid,fun alone => ?_,
    fun exchange here => ?_⟩
  · cases was : old.exchange with
    | none =>
      rw [(steps.alone was).2]
      exact listed.alone was
    | some exchange =>
      obtain ⟨operations,still,-⟩ := steps.exchanges exchange was
      rw [alone] at still
      cases still
  · cases was : old.exchange with
    | none =>
      rw [(steps.alone was).1] at here
      cases here
    | some earlier =>
      obtain ⟨operations,still,state⟩ := steps.exchanges earlier was
      obtain ⟨same,engaged,reached⟩ := listed.exchanges earlier was
      rw [here] at still
      obtain rfl := Option.some.inj still
      exact ⟨state same,engaged.run operations,reached.run operations⟩

namespace Follows
variable {before after : OspfRuntime}

theorem refl (runtime : OspfRuntime) : Follows runtime runtime :=
  ⟨rfl,fun _ => rel_refl Steps.refl _,fun _ => rel_refl SameSegment.refl _⟩

theorem trans {first second third : OspfRuntime} (one : Follows first second) (two : Follows second third) :
    Follows first third :=
  ⟨two.router_id.trans one.router_id,fun key => @rel_comp _ Steps Steps Steps (fun _ _ _ => Steps.trans) _ _ _
    (one.neighbors key) (two.neighbors key),
    fun id => @rel_comp _ SameSegment SameSegment SameSegment (fun _ _ _ => SameSegment.trans) _ _ _ (one.interfaces id)
      (two.interfaces id)⟩

/-- The neighbour as it was. -/
theorem neighbor (follows : Follows before after) {key : NeighborKey} {neighbor : Neighbor}
    (found : after.neighbors.get? key = some neighbor) : ∃ old, before.neighbors.get? key = some old ∧ Steps old neighbor :=
  rel_some (follows.neighbors key) found

theorem interface (follows : Follows before after) {id : InterfaceId} {interface : InterfaceRuntime}
    (found : after.interfaces.get? id = some interface) :
    ∃ old, before.interfaces.get? id = some old ∧ SameSegment old interface := rel_some (follows.interfaces id) found

theorem table (follows : Follows before after) (table : Table before) : Table after := by
  refine table.carry follows.router_id (fun key neighbor found => ?_) (fun key neighbor interface _ there => ?_)
  · obtain ⟨old,held,steps⟩ := follows.neighbor found
    exact ⟨old,held,steps.address,steps.listed⟩
  · obtain ⟨was,known,same⟩ := follows.interface there
    exact ⟨was,known,same.address⟩

theorem homed (follows : Follows before after) (homed : Homed before) : Homed after := by
  intro key neighbor found
  obtain ⟨old,held,-⟩ := follows.neighbor found
  obtain ⟨interface,known⟩ := homed key old held
  have related := follows.interfaces (ofLex key).1
  rw [known] at related
  cases here : after.interfaces.get? (ofLex key).1 with
  | none =>
    rw [here] at related
    cases related
  | some later => exact ⟨later,rfl⟩

theorem joined (follows : Follows before after) (joined : Joined before) : Joined after := by
  intro key neighbor interface found there exchanges
  obtain ⟨old,held,steps⟩ := follows.neighbor found
  obtain ⟨was,known,same⟩ := follows.interface there
  rw [same.adjacent steps.address]
  refine joined key old was held known ?_
  cases alone : old.exchange with
  | none =>
    rw [(steps.alone alone).1] at exchanges
    cases exchanges
  | some _ => rfl

theorem met (follows : Follows before after) {now : SimTime} {key : NeighborKey} (met : Met before now key) :
    Met after now key := by
  intro neighbor interface found there two_way adjacent
  obtain ⟨old,held,steps⟩ := follows.neighbor found
  obtain ⟨was,known,same⟩ := follows.interface there
  cases exchange : old.exchange with
  | none =>
    rw [(steps.alone exchange).2] at two_way
    rw [same.adjacent steps.address] at adjacent
    rcases met old was held known two_way adjacent with impossible | waits
    · rw [exchange] at impossible
      cases impossible
    · refine .inr ?_
      unfold Waiting
      rw [same.network_type,same.wait_until,same.dr]
      exact waits
  | some exchange_before =>
    obtain ⟨operations,still,-⟩ := steps.exchanges exchange_before exchange
    rw [still]
    exact .inl rfl

theorem of_same (router_id : after.router_id = before.router_id) (neighbors : after.neighbors = before.neighbors)
    (interfaces : after.interfaces = before.interfaces) : Follows before after :=
  ⟨router_id,fun _ => neighbors ▸ rel_refl Steps.refl _,fun _ => interfaces ▸ rel_refl SameSegment.refl _⟩

end Follows

/-! ### What only drives the exchanges -/

theorem flood_steps (neighbor : Neighbor) (lsa : Lsa) (now : SimTime) : Steps neighbor (neighbor.flood lsa now).1 := by
  unfold Neighbor.flood
  split
  · exact Steps.refl neighbor
  · rename_i exchange here
    refine ⟨rfl,rfl,rfl,fun alone => ?_,fun other there => ⟨[.flood lsa now],?_,fun same => ?_⟩⟩
    · rw [here] at alone
      cases alone
    · rw [here] at there
      cases there
      rfl
    · rw [here] at there
      cases there
      exact same.trans (OspfExchange.flood_state exchange lsa now).1.symm

theorem tick_steps (now : SimTime) (neighbor : Neighbor) : Steps neighbor (OspfRuntime.tick_neighbor now neighbor) := by
  refine ⟨rfl,rfl,rfl,fun alone => ⟨?_,rfl⟩,fun exchange here => ⟨[.tick now],?_,fun same => ?_⟩⟩
  · rw [OspfRuntime.tick_neighbor,alone]
    rfl
  · rw [OspfRuntime.tick_neighbor,here]
    rfl
  · obtain ⟨dd_due,request_due,shape⟩ := OspfExchange.tick_shape exchange now
    rw [List.foldl_cons,List.foldl_nil,OspfExchange.perform,shape]
    exact same

namespace OspfRuntime
variable {settings : Settings} {self : OspfRuntime} {now : SimTime} {self_id : Ipv4Addr}

theorem flood_follows (self : OspfRuntime) (area : UInt32) (lsa : Lsa) (excepted : Option NeighborKey) (now : SimTime) :
    Follows self (self.ospf_flood area lsa excepted now).1 := by
  refine ⟨rfl,fun key => ?_,fun _ => rel_refl SameSegment.refl _⟩
  rw [ospf_flood,OrderedMap.get?_mapValues]
  refine rel_map (fun neighbor => ?_) _
  split
  · exact flood_steps neighbor lsa now
  · exact Steps.refl neighbor

theorem store_follows (self : OspfRuntime) (key : ScopedKey) (lsa : Lsa) (excepted : Option NeighborKey) (now : SimTime) :
    Follows self (self.store key lsa excepted now).1 := by
  refine Follows.trans ?_ (flood_follows _ _ _ _ _)
  exact .of_same rfl rfl rfl

theorem install_follows (self : OspfRuntime) (area : UInt32) (lsa : Lsa) (excepted : Option NeighborKey) (now : SimTime) :
    Follows self (self.ospf_install area lsa excepted now).1 := by
  unfold ospf_install
  dsimp only
  split
  · exact .refl self
  · split
    · exact .refl self
    · exact store_follows _ _ _ _ _

theorem install_all_follows (area : UInt32) (excepted : Option NeighborKey) (now : SimTime) (self : OspfRuntime)
    (lsas : List Lsa) :
    Follows self (install_all area excepted now self lsas).1 := by
  induction lsas generalizing self with
  | nil => exact .refl self
  | cons lsa rest ih => exact (install_follows self area lsa excepted now).trans (ih _)

theorem updates_follow (now : SimTime) (self : OspfRuntime) (updates : List (UInt32 × Lsa)) :
    Follows self (ospf_updates now self updates).1 := by
  induction updates generalizing self with
  | nil => exact .refl self
  | cons update rest ih =>
    refine Follows.trans ?_ (ih _)
    unfold ospf_update
    split
    · exact .refl self
    · exact store_follows _ _ _ _ _

theorem remove_aged_follows (self : OspfRuntime) (now : SimTime) : Follows self (self.remove_aged now) := by
  unfold remove_aged
  split
  · exact .of_same rfl rfl rfl
  · exact .refl self

theorem originate_follows (settings : Settings) (self : OspfRuntime) (now : SimTime) :
    Follows self (self.ospf_originate settings now).1 := by
  unfold ospf_originate
  split
  · exact .refl self
  · exact (updates_follow now self _).trans (remove_aged_follows _ now)

theorem hellos_follow (self : OspfRuntime) (now : SimTime) : Follows self (self.send_hellos now).1 := by
  refine ⟨rfl,fun _ => rel_refl Steps.refl _,fun id => ?_⟩
  rw [send_hellos,OrderedMap.get?_mapValues]
  refine rel_map (fun interface => ?_) _
  split
  · exact ⟨rfl,rfl,rfl,rfl,rfl⟩
  · exact SameSegment.refl interface

theorem exchanges_follow (self : OspfRuntime) (now : SimTime) : Follows self (self.tick_exchanges now).1 := by
  refine ⟨rfl,fun key => ?_,fun _ => rel_refl SameSegment.refl _⟩
  rw [tick_exchanges,OrderedMap.get?_mapValues]
  exact rel_map (tick_steps now) _

/-- After the elections a tick only drives the exchanges. -/
theorem tick_follows (settings : Settings) (self : OspfRuntime) (now : SimTime) :
    Follows ((self.ospf_prepare settings now).ospf_elect settings now).1 (self.ospf_tick settings now).1 := by
  refine (originate_follows settings _ now).trans ?_
  unfold ospf_tick
  dsimp only
  split
  · exact .refl _
  · refine ((hellos_follow _ now).trans (exchanges_follow _ now)).trans ?_
    unfold recompute_ospf_routes
    split <;> exact .of_same rfl rfl rfl

/-! ### Elections -/

/-- A two-way neighbour has an exchange exactly if it is adjacent. -/
def Settled (interface : InterfaceRuntime) (neighbor : Neighbor) : Prop :=
  neighbor.info.state ≠ .Init → (neighbor.exchange.isSome = true ↔ interface.adjacent neighbor = true)

theorem start_reached (here peer : Ipv4Addr) (mtu : UInt16) (sequence : UInt32) (database : OrderedMap LsaKey Lsa)
    (now : SimTime) :
    ((OspfExchange.new here peer mtu sequence).start database now).1.Reached (L := Lsa) :=
  ⟨here,peer,mtu,sequence,[.start database now],rfl⟩

/-- What starting or ending the exchange makes of a neighbour. -/
structure Adjoins (interface : InterfaceRuntime) (id : InterfaceId) (key : NeighborKey) (before after : Neighbor) : Prop where
  address : after.info.address = before.info.address
  listed : Listed key before → Listed key after
  settled : Listed key before → (ofLex key).1 = id → Settled interface after

variable {key : NeighborKey}

theorem started_adjoins {interface : InterfaceRuntime} {neighbor : Neighbor}
    (adjacent : interface.adjacent neighbor = true) (id : InterfaceId) (self_id : Ipv4Addr) (mtu : UInt16)
    (sequence : UInt32) (database : OrderedMap LsaKey Lsa) (now : SimTime) :
    Adjoins interface id key neighbor { neighbor with
      info := {neighbor.info with state := .ExStart},
      exchange := some ((OspfExchange.new self_id (ofLex key).2 mtu sequence).start database now).1 } := by
  refine ⟨rfl,fun listed => ?_,fun _ _ _ => ⟨fun _ => adjacent,fun _ => rfl⟩⟩
  refine ⟨listed.interface,listed.router_id,listed.valid,fun alone => (by cases alone),fun started here => ?_⟩
  obtain rfl := Option.some.inj here
  exact ⟨rfl,@OspfExchange.Engaged.start Lsa _ _ database now,start_reached _ _ _ _ _ _⟩

theorem ended_adjoins {interface : InterfaceRuntime} {neighbor : Neighbor}
    (apart : ¬ interface.adjacent neighbor = true) (id : InterfaceId) :
    Adjoins interface id key neighbor {neighbor with info := {neighbor.info with state := .TwoWay}, exchange := none} := by
  refine ⟨rfl,fun listed => ?_,fun _ _ _ => ⟨fun impossible => (by cases impossible),fun joined => absurd joined apart⟩⟩
  exact ⟨listed.interface,listed.router_id,listed.valid,fun _ => .inr rfl,fun _ here => (by cases here)⟩

/-- A neighbour of the interface that is not settled yet is started or ended; nothing else changes. -/
theorem adjoin_cases (self_id : Ipv4Addr) (id : InterfaceId) (interface : InterfaceRuntime) (mtu : UInt16)
    (database : OrderedMap LsaKey Lsa) (now : SimTime) (self : OspfRuntime) (key : NeighborKey) :
    (adjoin self_id id interface mtu database now self key).1 = self ∧
        (∀ neighbor, self.neighbors.get? key = some neighbor → (ofLex key).1 = id → Settled interface neighbor) ∨
      ∃ neighbor changed sequence, self.neighbors.get? key = some neighbor ∧ (ofLex key).1 = id ∧
        Adjoins interface id key neighbor changed ∧ (adjoin self_id id interface mtu database now self key).1 =
          { self with sequence := sequence, neighbors := self.neighbors.insert key changed } := by
  rw [adjoin]
  cases found : self.neighbors.get? key with
  | none => exact .inl ⟨rfl,fun neighbor held => by cases held⟩
  | some neighbor =>
    dsimp only
    by_cases elsewhere : (ofLex key).1 ≠ id ∨ neighbor.info.state = .Init
    · rw [if_pos elsewhere]
      refine .inl ⟨rfl,fun other held on two_way => ?_⟩
      obtain rfl := Option.some.inj held
      exact absurd (elsewhere.resolve_left (not_not.mpr on)) two_way
    · rw [if_neg elsewhere]
      have on := not_not.mp (not_or.mp elsewhere).1
      by_cases adjacent : interface.adjacent neighbor = true
      · rw [if_pos adjacent]
        cases exchange : neighbor.exchange with
        | some held =>
          refine .inl ⟨rfl,fun other held on two_way => ?_⟩
          obtain rfl := Option.some.inj held
          rw [exchange,adjacent]
          exact Iff.rfl
        | none => exact .inr ⟨neighbor,_,self.sequence + 1,rfl,on,started_adjoins adjacent id self_id mtu _ database now,rfl⟩
      · rw [if_neg adjacent]
        exact .inr ⟨neighbor,_,self.sequence,rfl,on,ended_adjoins adjacent id,rfl⟩

theorem adjoin_adjoins (self_id : Ipv4Addr) (id : InterfaceId) (interface : InterfaceRuntime) (mtu : UInt16)
    (database : OrderedMap LsaKey Lsa) (now : SimTime) (self : OspfRuntime) (key : NeighborKey) :
    let after := (adjoin self_id id interface mtu database now self key).1
    after.interfaces = self.interfaces ∧
      (∀ other, other ≠ key ∨ (ofLex key).1 ≠ id → after.neighbors.get? other = self.neighbors.get? other) ∧
      Option.Rel (Adjoins interface id key) (self.neighbors.get? key) (after.neighbors.get? key) := by
  intro after
  rcases adjoin_cases self_id id interface mtu database now self key with
    ⟨same,settled⟩ | ⟨neighbor,changed,sequence,found,on,adjoins,same⟩
  · rw [show after = self from same]
    refine ⟨rfl,fun _ _ => rfl,?_⟩
    cases found : self.neighbors.get? key with
    | none => exact .none
    | some neighbor => exact .some ⟨rfl,fun listed => listed,fun _ => settled neighbor found⟩
  · rw [show after = _ from same]
    refine ⟨rfl,fun other apart => ?_,?_⟩
    · rw [OrderedMap.get?_insert,if_neg (apart.resolve_right (not_not.mpr on))]
    · rw [OrderedMap.get?_insert_self,found]
      exact .some adjoins

/-- What doing so for a list of neighbours makes of one. -/
structure Resolved (interface : InterfaceRuntime) (id : InterfaceId) (keys : List NeighborKey) (key : NeighborKey)
    (before after : Neighbor) : Prop where
  address : after.info.address = before.info.address
  listed : Listed key before → Listed key after
  settled : Listed key before → (ofLex key).1 = id → key ∈ keys ∨ Settled interface before → Settled interface after

theorem adjoin_all_adjoins (self_id : Ipv4Addr) (id : InterfaceId) (interface : InterfaceRuntime) (mtu : UInt16)
    (database : OrderedMap LsaKey Lsa) (now : SimTime) (self : OspfRuntime) (keys : List NeighborKey) :
    let after := (adjoin_all self_id id interface mtu database now self keys).1
    after.interfaces = self.interfaces ∧ (∀ key, (ofLex key).1 ≠ id → after.neighbors.get? key = self.neighbors.get? key) ∧
      ∀ key, Option.Rel (Resolved interface id keys key) (self.neighbors.get? key) (after.neighbors.get? key) := by
  intro after
  induction keys generalizing self with
  | nil =>
    refine ⟨rfl,fun _ _ => rfl,fun key => rel_refl (fun neighbor => ⟨rfl,fun listed => listed,fun _ _ settled => ?_⟩) _⟩
    exact settled.resolve_left List.not_mem_nil
  | cons first rest ih =>
    obtain ⟨interfaces,others,here⟩ := adjoin_adjoins self_id id interface mtu database now self first
    obtain ⟨later_interfaces,later_others,later⟩ := ih (adjoin self_id id interface mtu database now self first).1
    refine ⟨later_interfaces.trans interfaces,fun key off => ?_,fun key => ?_⟩
    · refine (later_others key off).trans (others key ?_)
      by_cases same : key = first
      · exact .inr (same ▸ off)
      · exact .inl same
    · have rest_of_key := later key
      by_cases same : key = first
      · subst same
        refine rel_comp (fun before middle last one two => ?_) here rest_of_key
        exact ⟨two.address.trans one.address,fun listed => two.listed (one.listed listed),
          fun listed on _ => two.settled (one.listed listed) on (.inr (one.settled listed on))⟩
      · rw [others key (.inl same)] at rest_of_key
        refine rel_mono (fun before last two => ⟨two.address,two.listed,fun listed on processed => ?_⟩) rest_of_key
        exact two.settled listed on (processed.imp_left (fun member => (List.mem_cons.mp member).resolve_left same))

/-- An interface after its election, with the neighbours that the election settled. -/
structure Elected (before after : OspfRuntime) (id : InterfaceId) (runtime interface : InterfaceRuntime) : Prop where
  known : before.interfaces.get? id = some runtime
  address : interface.address = runtime.address
  router_id : after.router_id = before.router_id
  interfaces : after.interfaces = before.interfaces.insert id interface
  others : ∀ key, (ofLex key).1 ≠ id → after.neighbors.get? key = before.neighbors.get? key
  each : ∀ key, Option.Rel (Resolved interface id before.neighbors.keys key) (before.neighbors.get? key)
    (after.neighbors.get? key)

namespace Elected
variable {before after : OspfRuntime} {id : InterfaceId} {runtime interface : InterfaceRuntime}

theorem neighbor (elected : Elected before after id runtime interface) {key : NeighborKey} {neighbor : Neighbor}
    (found : after.neighbors.get? key = some neighbor) : ∃ old, before.neighbors.get? key = some old ∧
      Resolved interface id before.neighbors.keys key old neighbor ∧ ((ofLex key).1 ≠ id → old = neighbor) := by
  obtain ⟨old,held,resolved⟩ := rel_some (elected.each key) found
  refine ⟨old,held,resolved,fun off => ?_⟩
  rw [elected.others key off] at found
  exact Option.some.inj (held.symm.trans found)

/-- The neighbours of the interface are settled. -/
theorem settled (elected : Elected before after id runtime interface) (table : Table before) {key : NeighborKey}
    {neighbor : Neighbor} (found : after.neighbors.get? key = some neighbor) (on : (ofLex key).1 = id) :
    Settled interface neighbor := by
  obtain ⟨old,held,resolved,-⟩ := elected.neighbor found
  exact resolved.settled (table.listed key old held) on (.inl ((OrderedMap.mem_keys _ _).mpr ⟨old,held⟩))

theorem held (elected : Elected before after id runtime interface) {other : InterfaceId} {held : InterfaceRuntime}
    (there : after.interfaces.get? other = some held) :
    other = id ∧ held = interface ∨ other ≠ id ∧ before.interfaces.get? other = some held := by
  rw [elected.interfaces,OrderedMap.get?_insert] at there
  by_cases on : other = id
  · rw [if_pos on] at there
    exact .inl ⟨on,(Option.some.inj there).symm⟩
  · rw [if_neg on] at there
    exact .inr ⟨on,there⟩

theorem table (elected : Elected before after id runtime interface) (table : Table before) : Table after := by
  refine table.carry elected.router_id (fun key neighbor found => ?_) (fun key neighbor held found there => ?_)
  · obtain ⟨old,held,resolved,-⟩ := elected.neighbor found
    exact ⟨old,held,resolved.address,resolved.listed⟩
  · rcases elected.held there with ⟨on,rfl⟩ | ⟨-,still⟩
    · exact ⟨runtime,on ▸ elected.known,elected.address⟩
    · exact ⟨held,still,rfl⟩

theorem homed (elected : Elected before after id runtime interface) (homed : Homed before) : Homed after := by
  intro key neighbor found
  obtain ⟨old,was,-⟩ := elected.neighbor found
  obtain ⟨held,there⟩ := homed key old was
  rw [elected.interfaces,OrderedMap.get?_insert]
  by_cases on : (ofLex key).1 = id
  · exact ⟨interface,if_pos on⟩
  · exact ⟨held,by rw [if_neg on,there]⟩

theorem joined (elected : Elected before after id runtime interface) (table : Table before) (joined : Joined before) :
    Joined after := by
  intro key neighbor held found there exchanges
  rcases elected.held there with ⟨on,rfl⟩ | ⟨off,still⟩
  · refine (elected.settled table found on ?_).mp exchanges
    obtain ⟨exchange,present⟩ := Option.isSome_iff_exists.mp exchanges
    obtain ⟨state,engaged,-⟩ := ((elected.table table).listed key neighbor found).exchanges exchange present
    rw [state]
    exact engaged.ne_init
  · obtain ⟨old,was,-,unchanged⟩ := elected.neighbor found
    rw [← unchanged off] at exchanges ⊢
    exact joined key old held was still exchanges

theorem met (elected : Elected before after id runtime interface) (table : Table before) {now : SimTime} {key : NeighborKey}
    (here : (ofLex key).1 = id ∨ Met before now key) : Met after now key := by
  intro neighbor held found there two_way adjacent
  rcases elected.held there with ⟨on,rfl⟩ | ⟨off,still⟩
  · exact .inl ((elected.settled table found on two_way).mpr adjacent)
  · obtain ⟨old,was,-,unchanged⟩ := elected.neighbor found
    rw [← unchanged off] at two_way adjacent ⊢
    exact here.resolve_left off old held was still two_way adjacent

end Elected

/-- An election changes nothing on an interface that waits for its first one, or does not exist. -/
theorem elect_interface_cases (settings : Settings) (self_id : Ipv4Addr) (now : SimTime) (self : OspfRuntime)
    (id : InterfaceId) :
    (elect_interface settings self_id now self id).1 = self ∧
        (∀ interface, self.interfaces.get? id = some interface → Waiting interface now) ∨
      ∃ runtime interface, Elected self (elect_interface settings self_id now self id).1 id runtime interface := by
  rw [elect_interface]
  cases known : self.interfaces.get? id with
  | none => exact .inl ⟨rfl,fun interface there => by cases there⟩
  | some runtime =>
    dsimp only
    by_cases waits : self.waits runtime id now = true
    · rw [if_pos waits]
      refine .inl ⟨rfl,fun interface there => ?_⟩
      obtain rfl := Option.some.inj there
      unfold OspfRuntime.waits Ospf.InterfaceRuntime.waits at waits
      simp only [Bool.and_eq_true,decide_eq_true_eq] at waits
      exact ⟨waits.1,waits.2.1.1,waits.2.2⟩
    · rw [if_neg waits]
      obtain ⟨interface,made⟩ : ∃ interface, interface =
          runtime.elected (Ospf.ospf_elect self_id runtime.election ((self.neighbors_on id).map (·.candidate)) now) := ⟨_,rfl⟩
      have address : interface.address = runtime.address := by rw [made]; rfl
      rw [← made]
      obtain ⟨interfaces,others,each⟩ := adjoin_all_adjoins self_id id interface (settings.mtu id)
        (ospf_database {self with interfaces := self.interfaces.insert id interface} interface.area now) now
        {self with interfaces := self.interfaces.insert id interface} self.neighbors.keys
      have store := adjoin_all_store self_id id interface (settings.mtu id)
        (ospf_database {self with interfaces := self.interfaces.insert id interface} interface.area now) now
        {self with interfaces := self.interfaces.insert id interface} self.neighbors.keys
      exact .inr ⟨runtime,interface,known,address,store.router_id,interfaces,others,each⟩

/-- What an election on an interface keeps of the table, and what it settles. -/
theorem elect_interface_table (settings : Settings) (self_id : Ipv4Addr) (now : SimTime) (id : InterfaceId)
    (table : Table self) (homed : Homed self) (joined : Joined self) :
    let after := (elect_interface settings self_id now self id).1
    Table after ∧ Homed after ∧ Joined after ∧ ∀ key, (ofLex key).1 = id ∨ Met self now key → Met after now key := by
  intro after
  rcases elect_interface_cases settings self_id now self id with ⟨same,waiting⟩ | ⟨runtime,interface,elected⟩
  · rw [show after = self from same]
    refine ⟨table,homed,joined,fun key here => here.elim (fun on => ?_) (fun met => met)⟩
    exact fun neighbor interface _ there _ _ => .inr (waiting interface (on ▸ there))
  · exact ⟨elected.table table,elected.homed homed,elected.joined table joined,fun key => elected.met table⟩

theorem elect_all_table (settings : Settings) (self_id : Ipv4Addr) (now : SimTime) (ids : List InterfaceId)
    (table : Table self) (homed : Homed self) (joined : Joined self) :
    let after := (elect_all settings self_id now self ids).1
    Table after ∧ Homed after ∧ Joined after ∧ ∀ key, (ofLex key).1 ∈ ids ∨ Met self now key → Met after now key := by
  induction ids generalizing self with
  | nil => exact ⟨table,homed,joined,fun key here => here.resolve_left List.not_mem_nil⟩
  | cons id rest ih =>
    obtain ⟨first_table,first_homed,first_joined,first_met⟩ := elect_interface_table settings self_id now id table homed joined
    obtain ⟨last_table,last_homed,last_joined,last_met⟩ := ih first_table first_homed first_joined
    refine ⟨last_table,last_homed,last_joined,fun key here => last_met key ?_⟩
    rcases here with listed | met
    · rcases List.mem_cons.mp listed with on | later
      · exact .inr (first_met key (.inl on))
      · exact .inl later
    · exact .inr (first_met key (.inr met))

/-- After the elections every neighbour is met. -/
theorem elect_table (settings : Settings) (now : SimTime) (table : Table self) (homed : Homed self) (joined : Joined self) :
    let after := (self.ospf_elect settings now).1
    Table after ∧ Homed after ∧ Joined after ∧ ∀ key, Met after now key := by
  unfold ospf_elect
  cases named : self.router_id with
  | none =>
    refine ⟨table,homed,joined,fun key neighbor interface found => ?_⟩
    dsimp only at found
    rw [table.unnamed named] at found
    cases found
  | some self_id =>
    obtain ⟨last_table,last_homed,last_joined,last_met⟩ := elect_all_table settings self_id now self.interfaces.keys table homed joined
    refine ⟨last_table,last_homed,last_joined,fun key => last_met key ?_⟩
    by_cases listed : (ofLex key).1 ∈ self.interfaces.keys
    · exact .inl listed
    · refine .inr (fun neighbor interface found there => ?_)
      exact absurd ((OrderedMap.mem_keys _ _).mpr ⟨interface,there⟩) listed

/-! ### Preparation -/

/-- A table of some of the neighbours, on the segments they were heard on. -/
theorem fewer_table {before after : OspfRuntime} (table : Table before) (joined : Joined before)
    (router_id : after.router_id = before.router_id)
    (neighbors : ∀ key neighbor, after.neighbors.get? key = some neighbor → before.neighbors.get? key = some neighbor)
    (interfaces : ∀ key neighbor interface, after.neighbors.get? key = some neighbor →
      after.interfaces.get? (ofLex key).1 = some interface →
        ∃ old, before.interfaces.get? (ofLex key).1 = some old ∧ SameSegment old interface) :
    Table after ∧ Joined after := by
  refine ⟨table.carry router_id (fun key neighbor found => ?_) (fun key neighbor interface found there => ?_),
    fun key neighbor interface found there exchanges => ?_⟩
  · exact ⟨neighbor,neighbors key neighbor found,rfl,id⟩
  · obtain ⟨old,known,same⟩ := interfaces key neighbor interface found there
    exact ⟨old,known,same.address⟩
  · obtain ⟨old,known,same⟩ := interfaces key neighbor interface found there
    rw [same.adjacent rfl]
    exact joined key neighbor old (neighbors key neighbor found) known exchanges

theorem prepare_interface_table (settings : Settings) (now : SimTime) (active : ActiveInterface) (table : Table self)
    (joined : Joined self) :
    Table (self.prepare_interface settings now active) ∧ Joined (self.prepare_interface settings now active) := by
  have opens : Table { self with
        neighbors := self.neighbors.retain (fun key _ => (ofLex key).1 ≠ active.id),
        interfaces := self.interfaces.insert active.id (opened settings active now) } ∧
      Joined { self with
        neighbors := self.neighbors.retain (fun key _ => (ofLex key).1 ≠ active.id),
        interfaces := self.interfaces.insert active.id (opened settings active now) } := by
    refine fewer_table table joined rfl (fun key neighbor found => (OrderedMap.get?_retain_eq_some.mp found).1) ?_
    intro key neighbor interface found there
    have apart := of_decide_eq_true (OrderedMap.get?_retain_eq_some.mp found).2
    rw [OrderedMap.get?_insert,if_neg apart] at there
    exact ⟨interface,there,.refl interface⟩
  unfold prepare_interface
  split
  · rename_i old known
    split
    · exact opens
    · rename_i unchanged
      refine fewer_table table joined rfl (fun key neighbor found => found) ?_
      intro key neighbor interface found there
      rw [OrderedMap.get?_insert] at there
      by_cases on : (ofLex key).1 = active.id
      · rw [if_pos on] at there
        obtain rfl := Option.some.inj there
        refine ⟨old,on ▸ known,rfl,?_,rfl,rfl,rfl⟩
        simp only [changed,Bool.or_eq_true,decide_eq_true_eq,not_or,not_not] at unchanged
        exact unchanged.1.1.2.symm
      · rw [if_neg on] at there
        exact ⟨interface,there,.refl interface⟩
  · exact opens

theorem prepare_interfaces_table (settings : Settings) (now : SimTime) (actives : List ActiveInterface) (table : Table self)
    (joined : Joined self) :
    Table (actives.foldl (prepare_interface settings now) self) ∧ Joined (actives.foldl (prepare_interface settings now) self) := by
  induction actives generalizing self with
  | nil => exact ⟨table,joined⟩
  | cons active rest ih =>
    obtain ⟨first_table,first_joined⟩ := prepare_interface_table settings now active table joined
    exact ih first_table first_joined

/-- Every speaking interface is open after its turn. -/
theorem prepare_interfaces_open (settings : Settings) (now : SimTime) (self : OspfRuntime) (actives : List ActiveInterface)
    (id : InterfaceId) (here : self.interfaces.contains id = true ∨ ∃ active ∈ actives, active.id = id) :
    (actives.foldl (prepare_interface settings now) self).interfaces.contains id = true := by
  induction actives generalizing self with
  | nil => exact here.resolve_right (fun ⟨_,member,_⟩ => List.not_mem_nil member)
  | cons active rest ih =>
    refine ih _ ?_
    have opens : ∀ interface, (self.interfaces.insert active.id interface).contains id =
        (decide (id = active.id) || self.interfaces.contains id) := BoundedMap.contains_insert _ _ _
    have turn : (self.prepare_interface settings now active).interfaces.contains id =
        (decide (id = active.id) || self.interfaces.contains id) := by
      unfold prepare_interface
      split
      · split <;> exact opens _
      · exact opens _
    rw [turn,Bool.or_eq_true,decide_eq_true_eq]
    rcases here with known | ⟨first,member,same⟩
    · exact .inl (.inr known)
    · rcases List.mem_cons.mp member with rfl | later
      · exact .inl (.inl same.symm)
      · exact .inr ⟨first,later,same⟩

theorem default_table : Table default ∧ Homed default ∧ Joined default := by
  have empty : ∀ {key : NeighborKey} {neighbor : Neighbor}, default.neighbors.get? key = some neighbor → False :=
    fun found => by cases found
  exact ⟨⟨Nat.zero_le _,fun _ => rfl,fun _ _ found => (empty found).elim,fun _ _ found => (empty found).elim,
    fun _ _ _ found => (empty found).elim⟩,fun _ _ found => (empty found).elim,fun _ _ _ found => (empty found).elim⟩

/-- A process that has no router id yet takes one; it has no neighbours. -/
theorem named_table (table : Table self) (chosen : Option Ipv4Addr) :
    Table {self with router_id := self.router_id <|> chosen} := by
  cases held : self.router_id with
  | some self_id =>
    refine ⟨table.few,fun unnamed => (by cases unnamed),fun key neighbor found => ?_,table.listed,table.located⟩
    have foreign := table.foreign key neighbor found
    rw [held] at foreign
    exact foreign
  | none =>
    refine ⟨table.few,fun _ => table.unnamed held,fun key neighbor found => ?_,table.listed,table.located⟩
    have found : self.neighbors.get? key = some neighbor := found
    rw [table.unnamed held] at found
    cases found

/-- Preparation leaves the neighbours that still have their interface. -/
theorem prepare_table (settings : Settings) (now : SimTime) (table : Table self) (joined : Joined self) :
    Table (self.ospf_prepare settings now) ∧ Homed (self.ospf_prepare settings now) ∧
        Joined (self.ospf_prepare settings now) := by
  unfold ospf_prepare
  split
  · exact default_table
  · rename_i config configured
    have named := named_table table (config.router_id <|> highest_address settings)
    obtain ⟨kept_table,kept_joined⟩ := @fewer_table _
      { self with
        router_id := self.router_id <|> config.router_id <|> highest_address settings,
        interfaces := self.interfaces.retain (fun id _ => (settings.speaking.map (·.id)).contains id) }
      named joined rfl (fun key neighbor found => found)
      (fun key neighbor interface found there => ⟨interface,(OrderedMap.get?_retain_eq_some.mp there).1,.refl interface⟩)
    obtain ⟨open_table,open_joined⟩ := prepare_interfaces_table settings now settings.speaking kept_table kept_joined
    have opened := prepare_interfaces_open settings now
      { self with
        router_id := self.router_id <|> config.router_id <|> highest_address settings,
        interfaces := self.interfaces.retain (fun id _ => (settings.speaking.map (·.id)).contains id) } settings.speaking
    dsimp only
    generalize settings.speaking.foldl (prepare_interface settings now) _ = followed at open_table open_joined opened ⊢
    obtain ⟨last_table,last_joined⟩ := @fewer_table followed
      { followed with
        neighbors := followed.neighbors.retain (fun key neighbor =>
          (settings.speaking.map (·.id)).contains (ofLex key).1 && now < neighbor.info.dead_at) }
      open_table open_joined rfl (fun key neighbor found => (OrderedMap.get?_retain_eq_some.mp found).1)
      (fun key neighbor interface found there => ⟨interface,there,.refl interface⟩)
    refine ⟨last_table,fun key neighbor found => ?_,last_joined⟩
    have speaks := (Bool.and_eq_true_iff.mp (OrderedMap.get?_retain_eq_some.mp found).2).1
    obtain ⟨active,listed,same⟩ := List.mem_map.mp (List.contains_iff_mem.mp speaks)
    exact (OrderedMap.contains_iff _ _).mp (opened (ofLex key).1 (.inr ⟨active,listed,same⟩))

/-! ### Reception -/

theorem insert_neighbor_follows {old new : Neighbor} (found : self.neighbors.get? key = some old)
    (steps : Steps old new) : Follows self {self with neighbors := self.neighbors.insert key new} := by
  refine ⟨rfl,fun other => ?_,fun _ => rel_refl SameSegment.refl _⟩
  rw [OrderedMap.get?_insert]
  by_cases same : other = key
  · rw [if_pos same,same,found]
    exact .some steps
  · rw [if_neg same]
    exact rel_refl Steps.refl _

theorem insert_interface_follows {id : InterfaceId} {old new : InterfaceRuntime} (found : self.interfaces.get? id = some old)
    (same : SameSegment old new) : Follows self {self with interfaces := self.interfaces.insert id new} := by
  refine ⟨rfl,fun _ => rel_refl Steps.refl _,fun other => ?_⟩
  rw [OrderedMap.get?_insert]
  by_cases here : other = id
  · rw [if_pos here,here,found]
    exact .some same
  · rw [if_neg here]
    exact rel_refl SameSegment.refl _

/-- A neighbour that a valid Hello puts into the table, or renews. -/
theorem insert_neighbor_table (table : Table self) (homed : Homed self) (joined : Joined self) {new : Neighbor}
    (named : self.router_id = some self_id) (foreign : (ofLex key).2 ≠ self_id)
    (room : self.neighbors.contains key = true ∨ self.neighbors.size < NEIGHBOR_LIMIT) (listed : Listed key new)
    {interface : InterfaceRuntime} (on : self.interfaces.get? (ofLex key).1 = some interface)
    (located : Located interface new) (adjacent : new.exchange.isSome = true → interface.adjacent new = true) :
    Table {self with neighbors := self.neighbors.insert key new} ∧ Homed {self with neighbors := self.neighbors.insert key new} ∧
      Joined {self with neighbors := self.neighbors.insert key new} := by
  have entries : ∀ {other : NeighborKey} {neighbor : Neighbor}, (self.neighbors.insert key new).get? other = some neighbor →
      other = key ∧ neighbor = new ∨ self.neighbors.get? other = some neighbor := by
    intro other neighbor found
    rw [OrderedMap.get?_insert] at found
    by_cases same : other = key
    · rw [if_pos same] at found
      exact .inl ⟨same,(Option.some.inj found).symm⟩
    · rw [if_neg same] at found
      exact .inr found
  refine ⟨⟨?_,fun unnamed => ?_,fun other neighbor found => ?_,fun other neighbor found => ?_,
    fun other neighbor held found there => ?_⟩,fun other neighbor found => ?_,fun other neighbor held found there exchanges => ?_⟩
  · rcases room with known | room
    · exact (OrderedMap.size_insert_of_contains known new).trans table.few
    · exact (OrderedMap.size_insert_le _ _ _).trans room
  · rw [named] at unnamed
    cases unnamed
  · rcases entries found with ⟨rfl,-⟩ | before
    · rw [named]
      exact fun same => foreign (Option.some.inj same)
    · exact table.foreign other neighbor before
  · rcases entries found with ⟨rfl,rfl⟩ | before
    · exact listed
    · exact table.listed other neighbor before
  · rcases entries found with ⟨rfl,rfl⟩ | before
    · obtain rfl := Option.some.inj (on.symm.trans there)
      exact located
    · exact table.located other neighbor held before there
  · rcases entries found with ⟨rfl,rfl⟩ | before
    · exact ⟨interface,on⟩
    · exact homed other neighbor before
  · rcases entries found with ⟨rfl,rfl⟩ | before
    · obtain rfl := Option.some.inj (on.symm.trans there)
      exact adjacent exchanges
    · exact joined other neighbor held before there exchanges

/-- The neighbour of a genuine Hello. -/
theorem greeted_listed {neighbor : Neighbor} (listed : Listed key neighbor) (self_id source : Ipv4Addr)
    (hello : OspfHello) (now : SimTime) : Listed key (greeted neighbor self_id source hello now) := by
  refine ⟨listed.interface,listed.router_id,listed.valid,fun alone => ?_,fun exchange here => ?_⟩
  · unfold greeted at alone ⊢
    dsimp only at alone ⊢
    rw [alone]
    by_cases one_way : self_id ∉ hello.neighbors
    · rw [if_pos one_way]
      exact .inl rfl
    · rw [if_neg one_way]
      exact .inr rfl
  · unfold greeted at here ⊢
    dsimp only at here ⊢
    by_cases dropped : neighbor.info.address ≠ source ∨ self_id ∉ hello.neighbors
    · rw [if_pos dropped] at here
      cases here
    · rw [if_neg dropped] at here ⊢
      rw [here,if_neg (fun one_way => dropped (.inr one_way))]
      exact ⟨rfl,(listed.exchanges exchange here).2⟩

variable {source : Ipv4Addr} {packet : OspfV2Packet} {runtime : InterfaceRuntime}

/-- What the first checks of a packet establish about its sender. -/
theorem genuine_sender (valid : genuine self_id runtime source packet = true) :
    packet.router_id ≠ self_id ∧
      (is_unspecified packet.router_id || is_multicast packet.router_id || is_broadcast packet.router_id) = false ∧
      (Ipv4Network.new runtime.address.address runtime.address.prefix_len).toOption.any (·.contains source) = true ∧
      source ≠ runtime.address.address ∧ (is_unspecified source || is_multicast source || is_broadcast source) = false := by
  simp only [genuine,Bool.and_eq_true,Bool.not_eq_true',Bool.or_eq_false_iff,decide_eq_false_iff_not,Bool.not_eq_false'] at valid
  obtain ⟨⟨⟨⟨⟨⟨-,foreign⟩,specified⟩,multicast⟩,network⟩,other⟩,⟨⟨host,group⟩,broadcast⟩,full⟩ := valid
  refine ⟨foreign,?_,network,other,?_⟩
  · rw [specified,multicast,full]
    rfl
  · rw [host,group,broadcast]
    rfl

/-- A neighbour before its Hello: the known one, or a new one. -/
theorem met_listed (table : Table self) (valid : genuine self_id runtime source packet = true) (interface : InterfaceId)
    (hello : OspfHello) (now : SimTime) :
    Listed (toLex (interface,packet.router_id))
      ((self.neighbors.get? (toLex (interface,packet.router_id))).getD (met interface source packet.router_id hello now)) := by
  cases found : self.neighbors.get? (toLex (interface,packet.router_id)) with
  | some old => exact table.listed _ old found
  | none => exact ⟨rfl,rfl,(genuine_sender valid).2.1,fun _ => .inl rfl,fun _ here => by cases here⟩

/-- A genuine Hello locates its sender. -/
theorem greeted_located (valid : genuine self_id runtime source packet = true) (neighbor : Neighbor) (hello : OspfHello)
    (now : SimTime) :
    Located runtime (greeted neighbor self_id source hello now) := by
  obtain ⟨-,-,network,other,unicast⟩ := genuine_sender valid
  exact ⟨network,other,unicast⟩

/-- A neighbour keeps its exchange only if it is still adjacent. -/
theorem greeted_adjacent {neighbor : Neighbor} {hello : OspfHello}
    (adjacent : neighbor.exchange.isSome = true → runtime.adjacent neighbor = true)
    (exchanges : (greeted neighbor self_id source hello now).exchange.isSome = true) :
    runtime.adjacent (greeted neighbor self_id source hello now) = true := by
  unfold greeted at exchanges
  dsimp only at exchanges
  by_cases dropped : neighbor.info.address ≠ source ∨ self_id ∉ hello.neighbors
  · rw [if_pos dropped] at exchanges
    cases exchanges
  · rw [if_neg dropped] at exchanges
    have address := not_not.mp (not_or.mp dropped).1
    rw [(SameSegment.refl runtime).adjacent (show (greeted neighbor self_id source hello now).info.address =
      neighbor.info.address from address.symm)]
    exact adjacent exchanges

theorem receive_hello_table (table : Table self) (homed : Homed self) (joined : Joined self)
    (named : self.router_id = some self_id) {interface : InterfaceId}
    (on : self.interfaces.get? interface = some runtime) (valid : genuine self_id runtime source packet = true)
    {hello : OspfHello} {heard : OspfRuntime}
    (accepted : self.receive_hello self_id interface runtime source packet.router_id hello now = some heard) :
    Table heard ∧ Homed heard ∧ Joined heard := by
  have listed := met_listed table valid interface hello now
  have adjacent : ((self.neighbors.get? (toLex (interface,packet.router_id))).getD
      (met interface source packet.router_id hello now)).exchange.isSome = true →
        runtime.adjacent ((self.neighbors.get? (toLex (interface,packet.router_id))).getD
          (met interface source packet.router_id hello now)) = true := by
    cases found : self.neighbors.get? (toLex (interface,packet.router_id)) with
    | some old => exact joined _ old runtime found on
    | none => exact fun exchanges => by cases exchanges
  have foreign : (ofLex (toLex (interface,packet.router_id))).2 ≠ self_id := (genuine_sender valid).1
  unfold receive_hello at accepted
  dsimp only at accepted
  generalize (self.neighbors.get? (toLex (interface,packet.router_id))).getD _ = neighbor at accepted listed adjacent
  split at accepted
  · cases accepted
  · rename_i admitted
    simp only [Bool.or_eq_true,Bool.and_eq_true,Bool.not_eq_true',decide_eq_true_eq,not_or,not_and,Bool.not_eq_false,
      not_le] at admitted
    have room : self.neighbors.contains (toLex (interface,packet.router_id)) = true ∨ self.neighbors.size < NEIGHBOR_LIMIT := by
      cases known : self.neighbors.contains (toLex (interface,packet.router_id)) with
      | true => exact .inl rfl
      | false => exact .inr (admitted.2 known)
    have renewed := insert_neighbor_table table homed joined named foreign room
      (greeted_listed listed self_id source hello now) on (greeted_located valid neighbor hello now)
        (greeted_adjacent adjacent)
    split at accepted
    · obtain rfl := Option.some.inj accepted
      exact renewed
    · obtain rfl := Option.some.inj accepted
      have follows := @insert_interface_follows
        {self with neighbors := self.neighbors.insert (toLex (interface,packet.router_id)) (greeted neighbor self_id source hello now)}
        interface runtime {runtime with hello_due := now} on ⟨rfl,rfl,rfl,rfl,rfl⟩
      exact ⟨follows.table renewed.1,follows.homed renewed.2.1,follows.joined renewed.2.2⟩

theorem receive_body_follows {interface : InterfaceId} {heard : OspfRuntime × List OspfTransmission}
    (accepted : self.receive_body interface source packet now = some heard) :
    Follows self heard.1 := by
  unfold receive_body at accepted
  dsimp only at accepted
  split at accepted
  · cases accepted
  · rename_i neighbor found
    obtain ⟨held,-⟩ := Option.filter_eq_some_iff.mp found
    split at accepted
    · cases accepted
    · rename_i exchange here
      obtain rfl := Option.some.inj accepted
      refine (insert_neighbor_follows held ?_).trans (install_all_follows _ _ now _ _)
      refine ⟨rfl,rfl,rfl,fun alone => ?_,fun other there => ?_⟩
      · rw [here] at alone
        cases alone
      · rw [here] at there
        cases there
        exact ⟨[.receive packet.body (self.ospf_database packet.area now) now],rfl,fun _ => rfl⟩

theorem accept_table (table : Table self) (homed : Homed self) (joined : Joined self) {interface : InterfaceId}
    {heard : OspfRuntime × List OspfTransmission}
    (accepted : self.accept_packet interface source packet now = some heard) :
    Table heard.1 ∧ Homed heard.1 ∧ Joined heard.1 := by
  unfold accept_packet at accepted
  split at accepted
  · rename_i self_id runtime named on
    split at accepted
    · cases accepted
    · rename_i admitted
      have valid : genuine self_id runtime source packet = true := by
        cases genuine : genuine self_id runtime source packet with
        | true => rfl
        | false =>
          rw [genuine] at admitted
          exact absurd rfl admitted
      split at accepted
      · obtain ⟨after,met,rfl⟩ := Option.map_eq_some_iff.mp accepted
        exact receive_hello_table table homed joined named on valid met
      · have follows := receive_body_follows accepted
        exact ⟨follows.table table,follows.homed homed,follows.joined joined⟩
  · cases accepted

/-! ### Runs -/

/-- A tick keeps the table and meets every neighbour. -/
theorem tick_table (table : Table self) (joined : Joined self) (settings : Settings) (now : SimTime) :
    let after := (self.ospf_tick settings now).1
    Table after ∧ Homed after ∧ Joined after ∧ ∀ key, Met after now key := by
  obtain ⟨ready_table,ready_homed,ready_joined⟩ := prepare_table settings now table joined
  obtain ⟨elected_table,elected_homed,elected_joined,elected_met⟩ := elect_table settings now ready_table ready_homed ready_joined
  have follows := tick_follows settings self now
  exact ⟨follows.table elected_table,follows.homed elected_homed,follows.joined elected_joined,
    fun key => follows.met (elected_met key)⟩

theorem perform_table (table : Table self) (joined : Joined self) (operation : Operation) :
    let after := self.perform operation
    Table after ∧ Homed after ∧ Joined after ∧ ∀ start, self.driven operation = some start →
        ∀ key, Met after start.2.2 key := by
  cases operation with
  | tick settings now =>
    obtain ⟨last_table,last_homed,last_joined,last_met⟩ := tick_table table joined settings now
    exact ⟨last_table,last_homed,last_joined,fun start drives => by cases drives; exact last_met⟩
  | receive settings interface source packet now =>
    obtain ⟨ready_table,ready_homed,ready_joined⟩ := prepare_table settings now table joined
    have performed : self.perform (.receive settings interface source packet now) =
        (self.receive_ospf_v2 settings interface source packet now).1 := rfl
    unfold receive_ospf_v2 at performed
    dsimp only at performed
    cases accepted : (self.ospf_prepare settings now).accept_packet interface source packet now with
    | none =>
      rw [accepted] at performed
      rw [performed]
      refine ⟨ready_table,ready_homed,ready_joined,fun start drives => ?_⟩
      rw [driven,accepted] at drives
      cases drives
    | some heard =>
      rw [accepted] at performed
      rw [performed]
      obtain ⟨heard_table,-,heard_joined⟩ := accept_table ready_table ready_homed ready_joined accepted
      obtain ⟨last_table,last_homed,last_joined,last_met⟩ := tick_table heard_table heard_joined settings now
      refine ⟨last_table,last_homed,last_joined,fun start drives => ?_⟩
      rw [driven,accepted] at drives
      cases drives
      exact last_met
  | restart =>
    obtain ⟨table,homed,joined⟩ := default_table
    exact ⟨table,homed,joined,fun start drives => by cases drives⟩

theorem run_table (operations : List Operation) (table : Table self) (joined : Joined self) :
    Table (self.run operations) ∧ Joined (self.run operations) := by
  induction operations generalizing self with
  | nil => exact ⟨table,joined⟩
  | cons first rest ih =>
    obtain ⟨next_table,-,next_joined,-⟩ := perform_table table joined first
    exact ih next_table next_joined

/-- What a process knows of its neighbours, whatever it is told and whenever its timers are driven: few valid routers,
    each at home on the network of its interface and in the state of its exchange. An exchange keeps its invariants,
    only adjacent neighbours have one, and once the timers are driven all two-way ones of them do, unless their
    interface still waits for its first election. -/
theorem neighbor_table (operations : List Operation) (operation : Operation) :
    let after := default.run (operations ++ [operation])
    Table after ∧ Homed after ∧ Joined after ∧
      (∀ key neighbor exchange, after.neighbors.get? key = some neighbor → neighbor.exchange = some exchange → exchange.Kept) ∧
      ∀ start, (default.run operations).driven operation = some start → ∀ key, Met after start.2.2 key := by
  intro after
  obtain ⟨table,-,joined⟩ := default_table
  obtain ⟨before_table,before_joined⟩ := run_table operations table joined
  have ran : after = (default.run operations).perform operation := List.foldl_concat ..
  rw [ran]
  obtain ⟨last_table,last_homed,last_joined,last_met⟩ := perform_table before_table before_joined operation
  refine ⟨last_table,last_homed,last_joined,fun key neighbor exchange found here => ?_,last_met⟩
  exact ((last_table.listed key neighbor found).exchanges exchange here).2.2.kept

/-- The router 10.0.0.1 on a link to another one. -/
def near : Settings where
  config := some ⟨[⟨0x0a000000,0x00ffffff,0⟩],some 1,[],⟨none,none⟩⟩
  policy _ := ⟨10,1,10,40,.PointToPoint⟩
  mtu _ := 1500
  network := ⟨.ofList [(1,⟨false,⟨#v[2,0,0,0,4,1]⟩,some ⟨0x0a000001,30,quad_valid⟩,true⟩)],∅,∅,[]⟩
  bgp_routes := []

/-- What the other router says of itself: 10.2.2.0/24 is behind it. -/
def far_lsa : Lsa := ⟨0,2,2,2,LSA_INITIAL_SEQUENCE,.Router 0
  [⟨0x0a000000,mask_of 30,.Stub,10⟩,⟨1,0x0a000002,.PointToPoint,10⟩,⟨0x0a020200,mask_of 24,.Stub,10⟩]⟩

/-- A packet of the other router. -/
def from_far (body : OspfBody Lsa) (now : SimTime) : Operation := .receive near 1 0x0a000002 ⟨2,0,body⟩ now

/-- The other router greets, describes its database as the master and sends what it is asked for. -/
def joining : List Operation :=
  [.tick near 0,from_far (.Hello (⟨mask_of 30,10,2,1,40,0,0,[1]⟩ : OspfHello)) 0,from_far (.DatabaseDescription 1500 2 7 1 []) 0,
    from_far (.DatabaseDescription 1500 2 1 2 far_lsa.header.toOption.toList) 0,from_far (.LinkStateUpdate [far_lsa]) 0]

/-- An exchange from its start to its end. -/
example : (List.range 4).map (fun n => (default.run (joining.take (n + 2))).neighbors.values.map (fun neighbor =>
    (neighbor.info.address,neighbor.exchange.map (fun exchange => (exchange.state,exchange.requests.size))))) =
    [[(0x0a000002,some (.ExStart,0))],[(0x0a000002,some (.Exchange,0))],[(0x0a000002,some (.Loading,1))],
      [(0x0a000002,some (.Full,0))]] := by decide +kernel

end OspfRuntime
end Rios.OspfDevice
