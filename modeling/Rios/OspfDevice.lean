import Rios.Bgp
import Rios.OspfElection
import Rios.OspfPacket
import Rios.OspfSummaries

/-!
# The OSPFv2 process of a device

Interfaces, neighbours, the area-scoped database and the routes of one process,
with everything that its timers and the packets of its neighbours do to them.
What the process reads of the rest of the device is given with every call.
-/

namespace Rios.OspfDevice
open Rios.Machine Rios.Device Rios.Queue Rios.Ospf Rios.OspfSpf
open Rios.Routing (Surroundings Route)
open Rios.Bgp (is_unspecified is_multicast is_broadcast)

def OSPF_ALL_ROUTERS : Ipv4Addr := 0xe0000005
def NEIGHBOR_LIMIT : Nat := 256

/-! ### What the device gives -/

/-- One network selection statement. -/
structure OspfNetworkConfig where
  address : Ipv4Addr
  wildcard : Ipv4Addr
  area : UInt32
deriving DecidableEq

/-- Whether this statement enables OSPF on an interface address. -/
def OspfNetworkConfig.selects (self : OspfNetworkConfig) (address : Ipv4Addr) : Bool :=
  address &&& ~~~self.wildcard = self.address &&& ~~~self.wildcard

/-- `u32::count_ones`. -/
def count_ones (bits : UInt32) : Nat := ((List.range 32).filter bits.toNat.testBit).length

/-- More-specific wildcards first, then the derived order of the statements. -/
def OspfNetworkConfig.order (self : OspfNetworkConfig) : Nat ×ₗ Ipv4Addr ×ₗ Ipv4Addr ×ₗ UInt32 :=
  toLex (count_ones self.wildcard,toLex (self.address,toLex (self.wildcard,self.area)))

/-- Configuration of the process. -/
structure OspfConfig where
  networks : List OspfNetworkConfig
  router_id : Option Ipv4Addr
  passive_interfaces : List InterfaceId
  external : OspfPolicy

/-- Timers are seconds; costs and priority affect advertisements and elections. -/
structure OspfInterfaceConfig where
  cost : UInt16
  priority : UInt8
  hello_interval : UInt16
  dead_interval : UInt32
  network_type : OspfNetworkType
deriving DecidableEq

/-- What the process reads of its device: the configuration, and the interfaces and routes as they are now. -/
structure Settings where
  config : Option OspfConfig
  policy : InterfaceId → OspfInterfaceConfig
  mtu : InterfaceId → UInt16
  network : Surroundings
  bgp_routes : List Route

/-- An operational interface with its address and area. -/
structure ActiveInterface where
  id : InterfaceId
  address : Ipv4InterfaceConfig
  area : UInt32
deriving DecidableEq

namespace Settings

/-- The area of the most specific matching statement. -/
def area_of (config : OspfConfig) (address : Ipv4Addr) : Option UInt32 :=
  ((config.networks.filter (·.selects address)).argmin OspfNetworkConfig.order).map (·.area)

/-- Operational interfaces with area assignment, including passive stub interfaces. -/
def ospf_interfaces (self : Settings) : List ActiveInterface :=
  match self.config with
  | none => []
  | some config =>
    self.network.interfaces.keys.filterMap (fun id =>
      match self.network.interface_ipv4 id with
      | none => none
      | some ip =>
        match area_of config ip.address with
        | none => none
        | some area => if self.network.protocol_up id then some ⟨id,ip,area⟩ else none)

def loopback (self : Settings) (id : InterfaceId) : Bool := (self.network.interfaces.get? id).all (·.loopback)

def ospf_passive (self : Settings) (id : InterfaceId) : Bool :=
  self.loopback id || self.config.any (·.passive_interfaces.contains id)

/-- The active interfaces that speak. -/
def speaking (self : Settings) : List ActiveInterface := self.ospf_interfaces.filter (fun active => !self.ospf_passive active.id)

/-- The areas of the active interfaces in increasing order. -/
def areas (self : Settings) : List UInt32 :=
    (OrderedMap.ofList (self.ospf_interfaces.map (fun active => (active.area,())))).keys

/-- Whether the router stands between the backbone and another area. -/
def abr (self : Settings) : Bool := 1 < self.areas.length && self.areas.contains 0

end Settings

/-! ### State -/

/-- One packet to transmit through the same virtual IPv4 data plane as other traffic. -/
structure OspfTransmission where
  interface : InterfaceId
  source : Ipv4Addr
  destination : Ipv4Addr
  packet : OspfV2Packet

/-- Neighbor state for the command line and structured lab checks. -/
structure OspfNeighborInfo where
  router_id : Ipv4Addr
  address : Ipv4Addr
  interface : InterfaceId
  state : OspfNeighborState
  priority : UInt8
  dead_at : SimTime

structure Neighbor where
  info : OspfNeighborInfo
  hello : OspfHello
  exchange : Option (OspfExchange Lsa)

structure InterfaceRuntime where
  policy : OspfInterfaceConfig
  address : Ipv4InterfaceConfig
  area : UInt32
  wait_until : SimTime
  hello_due : SimTime
  dr : Ipv4Addr
  bdr : Ipv4Addr

/-- An advertisement with the time at which it had its age. -/
structure StoredLsa where
  lsa : Lsa
  installed : SimTime
deriving DecidableEq

/-- Seconds are counted down to `installed`, and ages stop at MaxAge. -/
def StoredLsa.current (self : StoredLsa) (now : SimTime) : Lsa :=
  { self.lsa with
    age := UInt16.ofNat (min (self.lsa.age.toNat + (now.toNat - self.installed.toNat) / 1000000) LSA_MAX_AGE.toNat) }

/-- An interface and the router ID of a neighbour on it. -/
abbrev NeighborKey := InterfaceId ×ₗ Ipv4Addr

/-- An area and the identity of an advertisement in it. -/
abbrev ScopedKey := UInt32 ×ₗ LsaKey

structure OspfRuntime where
  router_id : Option Ipv4Addr
  neighbors : OrderedMap NeighborKey Neighbor
  interfaces : OrderedMap InterfaceId InterfaceRuntime
  database : OrderedMap ScopedKey StoredLsa
  routes : List Route
  sequence : UInt32

def OspfRuntime.default : OspfRuntime := ⟨none,∅,∅,∅,[],0⟩

/-- A number of seconds after a time. -/
def seconds_after (now : SimTime) (seconds : UInt64) : SimTime := satAdd64 now (seconds * 1000000)

/-- Whether a body is flooded to every area. -/
def is_external : LsaBody → Bool
  | .External .. => true
  | _ => false

/-- The scope that an advertisement is stored under. -/
def scope (area : UInt32) (lsa : Lsa) : UInt32 := if is_external lsa.body then 0 else area

def scoped_key (area : UInt32) (lsa : Lsa) : ScopedKey := toLex (area,lsa.key)

namespace OspfRuntime

/-- The advertisements of one area and the external ones. -/
def ospf_database (self : OspfRuntime) (area : UInt32) (now : SimTime) : OrderedMap LsaKey Lsa :=
  OrderedMap.ofList ((self.database.entries.filter (fun entry =>
    (ofLex entry.1).1 = area || (ofLex entry.1).2.kind = .External)).map (fun entry => ((ofLex entry.1).2,entry.2.current now)))

def ospf_emit (self : OspfRuntime) (id : InterfaceId) (destination : Ipv4Addr) (body : OspfBody Lsa) :
    Option OspfTransmission :=
  match self.interfaces.get? id, self.router_id with
  | some runtime, some router_id => some ⟨id,runtime.address.address,destination,⟨router_id,runtime.area,body⟩⟩
  | _, _ => none

/-- The packets for bodies with their interfaces and destinations. -/
def emit_all (self : OspfRuntime) (bodies : List (InterfaceId × Ipv4Addr × OspfBody Lsa)) : List OspfTransmission :=
  bodies.filterMap (fun body => self.ospf_emit body.1 body.2.1 body.2.2)

end OspfRuntime

/-! ### Flooding -/

/-- The neighbour after a flood, and the body to send it. -/
def Neighbor.flood (self : Neighbor) (lsa : Lsa) (now : SimTime) : Neighbor × Option (OspfBody Lsa) :=
  match self.exchange with
  | none => (self,none)
  | some exchange => ({self with exchange := some (exchange.flood lsa now).1},(exchange.flood lsa now).2)

namespace OspfRuntime

/-- Whether an advertisement of an area goes to a neighbour. -/
def floods_to (self : OspfRuntime) (area : UInt32) (lsa : Lsa) (excepted : Option NeighborKey) (key : NeighborKey) : Bool :=
  excepted ≠ some key && (self.interfaces.get? (ofLex key).1).any (fun runtime => runtime.area = area || is_external lsa.body)

def ospf_flood (self : OspfRuntime) (area : UInt32) (lsa : Lsa) (excepted : Option NeighborKey) (now : SimTime) :
    OspfRuntime × List OspfTransmission :=
  let bodies := self.neighbors.entries.filterMap (fun entry =>
    if self.floods_to area lsa excepted entry.1 then
      (entry.2.flood lsa now).2.map (fun body => ((ofLex entry.1).1,entry.2.info.address,body))
    else none)
  let neighbors := self.neighbors.mapValues (fun key neighbor =>
    if self.floods_to area lsa excepted key then (neighbor.flood lsa now).1 else neighbor)
  ({self with neighbors := neighbors},self.emit_all bodies)

/-- Put an advertisement into the database and send it on. -/
def store (self : OspfRuntime) (key : ScopedKey) (lsa : Lsa) (excepted : Option NeighborKey) (now : SimTime) :
    OspfRuntime × List OspfTransmission :=
  ospf_flood {self with database := self.database.insert key ⟨lsa,now⟩} (ofLex key).1 lsa excepted now

/-! ### Installation -/

/-- Whether a received header is newer than what is stored, or there is room for it. -/
def accepts (self : OspfRuntime) (key : ScopedKey) (header : LsaHeader) (now : SimTime) : Bool :=
  match self.database.get? key with
  | some old =>
    match (old.current now).header with
    | .ok old_header => compare_lsa header old_header = .gt
    | .error _ => false
  | none => self.database.size < OSPF_DATABASE_LIMIT

/-- Fight back with the locally originated body, never trust a peer's self-LSA contents. -/
def fight_back (old : Option StoredLsa) (lsa : Lsa) : Lsa :=
  match old with
  | some old =>
    if lsa.sequence = Int32.maxValue then {lsa with body := old.lsa.body, age := LSA_MAX_AGE}
    else {lsa with body := old.lsa.body, sequence := lsa.sequence + 1, age := 0}
  | none => {lsa with age := LSA_MAX_AGE}

/-- What is stored for an accepted advertisement. -/
def admitted (self : OspfRuntime) (key : ScopedKey) (lsa : Lsa) (excepted : Option NeighborKey) : Lsa :=
  if some lsa.advertising_router = self.router_id ∧ excepted.isSome then fight_back (self.database.get? key) lsa else lsa

def ospf_install (self : OspfRuntime) (area : UInt32) (lsa : Lsa) (excepted : Option NeighborKey) (now : SimTime) :
    OspfRuntime × List OspfTransmission :=
  let key := scoped_key (scope area lsa) lsa
  match lsa.header with
  | .error _ => (self,[])
  | .ok header =>
    if !self.accepts key header now then (self,[])
    else
      let lsa := self.admitted key lsa excepted
      self.store key lsa (if some lsa.advertising_router = self.router_id then none else excepted) now

end OspfRuntime

/-! ### Origination -/

namespace OspfRuntime

/-- The neighbours of an interface in state Full. -/
def full_neighbors (self : OspfRuntime) (id : InterfaceId) : List Neighbor :=
  (self.neighbors.entries.filter (fun entry => (ofLex entry.1).1 = id && entry.2.info.state = .Full)).map (·.2)

/-- The interface, if its segment is described by the advertisement of a designated router. -/
def transit (self : OspfRuntime) (active : ActiveInterface) : Option InterfaceRuntime :=
  (self.interfaces.get? active.id).filter (fun runtime =>
    runtime.policy.network_type = .Broadcast && !(self.full_neighbors active.id).isEmpty &&
      (runtime.dr = active.address.address || (self.full_neighbors active.id).any (fun n => n.info.address = runtime.dr)))

/-- The advertisement of a segment by its designated router. -/
def network_lsa (self : OspfRuntime) (self_id : Ipv4Addr) (active : ActiveInterface) : Lsa :=
  ⟨0,2,active.address.address,self_id,LSA_INITIAL_SEQUENCE,.Network (mask_of active.address.prefix_len)
    (((self.full_neighbors active.id).map (·.info.router_id) ++ [self_id]).mergeSort (· ≤ ·))⟩

/-- The links of one interface. -/
def interface_links (settings : Settings) (self : OspfRuntime) (active : ActiveInterface) : List RouterLink :=
  let policy := settings.policy active.id
  let ip := active.address
  let own :=
    match self.transit active with
    | some runtime => [⟨runtime.dr,ip.address,.Transit,policy.cost⟩]
    | none =>
      let loopback := settings.loopback active.id
      match Ipv4Network.new ip.address (if loopback then 32 else ip.prefix_len) with
      | .error _ => []
      | .ok network => [⟨network.address,if loopback then 0xffffffff else mask_of ip.prefix_len,.Stub,policy.cost⟩]
  let peers :=
    if policy.network_type = .PointToPoint then
      (self.full_neighbors active.id).map (fun neighbor => ⟨neighbor.info.router_id,ip.address,.PointToPoint,policy.cost⟩)
    else []
  own ++ peers

/-- The segments of an area that the router is designated for. -/
def network_lsas (settings : Settings) (self : OspfRuntime) (self_id : Ipv4Addr) (area : UInt32) : List Lsa :=
  (settings.ospf_interfaces.filter (fun active => active.area = area &&
    (self.transit active).any (fun runtime => runtime.dr = active.address.address))).map (self.network_lsa self_id)

/-- The router's own advertisement in an area. -/
def router_lsa (settings : Settings) (self : OspfRuntime) (self_id : Ipv4Addr) (external : Bool) (area : UInt32) : Lsa :=
  let border : UInt8 := if settings.abr then 1 else 0
  ⟨0,2,self_id,self_id,LSA_INITIAL_SEQUENCE,.Router (border ||| if external then 2 else 0)
    ((settings.ospf_interfaces.filter (fun active => active.area = area)).flatMap (interface_links settings self))⟩

/-- Put an advertisement of an area among the desired ones. -/
def desire (area : UInt32) (desired : Desired) (lsa : Lsa) : Desired := desired.insert (scoped_key area lsa) lsa

/-- The advertisements of one area. -/
def desire_area (settings : Settings) (self : OspfRuntime) (self_id : Ipv4Addr) (external : Bool) (desired : Desired)
    (area : UInt32) : Desired :=
  (self.network_lsas settings self_id area ++ [self.router_lsa settings self_id external area]).foldl (desire area) desired

/-- Every advertisement that the router should have originated. -/
def ospf_desired (settings : Settings) (self : OspfRuntime) (self_id : Ipv4Addr) (now : SimTime) : Desired :=
  let table := Surroundings.routing_table {settings.network with ospf_routes := self.routes} settings.bgp_routes
  let outside := ospf_external_lsas (settings.config.map (·.external)) table self_id
  let inside := settings.areas.foldl (self.desire_area settings self_id (!outside.isEmpty)) outside
  ospf_summaries self_id settings.areas (fun area => self.ospf_database area now) inside

/-- The update for a desired advertisement, unless the stored one will do. -/
def refresh (self : OspfRuntime) (now : SimTime) (entry : ScopedKey × Lsa) : Option (UInt32 × Lsa) :=
  match self.database.get? entry.1 with
  | none => some ((ofLex entry.1).1,entry.2)
  | some old =>
    if old.lsa.body = entry.2.body ∧ (old.current now).age < 1800 then none
    else if old.lsa.sequence = Int32.maxValue then
      if old.lsa.age = LSA_MAX_AGE then none
      else some ((ofLex entry.1).1,{old.current now with age := LSA_MAX_AGE})
    else some ((ofLex entry.1).1,{entry.2 with sequence := old.lsa.sequence + 1})

/-- The update that ages out a stored advertisement which is no longer desired, or too old. -/
def flush (self_id : Ipv4Addr) (desired : Desired) (now : SimTime) (entry : ScopedKey × StoredLsa) : Option (UInt32 × Lsa) :=
  if entry.2.lsa.age = LSA_MAX_AGE then none
  else if ((ofLex entry.1).2.advertising_router = self_id ∧ ¬desired.contains entry.1) ∨
      (entry.2.current now).age = LSA_MAX_AGE then
    some ((ofLex entry.1).1,{entry.2.current now with age := LSA_MAX_AGE})
  else none

/-- Local ageing changes must flood even when the computed age already equals MaxAge. -/
def ospf_update (now : SimTime) (self : OspfRuntime) (update : UInt32 × Lsa) : OspfRuntime × List OspfTransmission :=
  if !self.database.contains (scoped_key update.1 update.2) && OSPF_DATABASE_LIMIT ≤ self.database.size then (self,[])
  else self.store (scoped_key update.1 update.2) update.2 none now

/-- The updates in order. -/
def ospf_updates (now : SimTime) : OspfRuntime → List (UInt32 × Lsa) → OspfRuntime × List OspfTransmission
  | self,[] => (self,[])
  | self,update :: rest =>
    let first := self.ospf_update now update
    let others := ospf_updates now first.1 rest
    (others.1,first.2 ++ others.2)

/-- Whether no exchange waits for anything. -/
def drained (self : OspfRuntime) : Bool :=
  self.neighbors.values.all (fun n => n.exchange.all (fun exchange => exchange.pending = (0,0) && exchange.state = .Full))

/-- Drop what has been at MaxAge for five seconds, once every neighbour has it. -/
def remove_aged (self : OspfRuntime) (now : SimTime) : OspfRuntime :=
  if self.drained then
    {self with database := self.database.retain (fun _ stored =>
      stored.lsa.age ≠ LSA_MAX_AGE || now.toNat - stored.installed.toNat < 5000000)}
  else self

def ospf_originate (settings : Settings) (self : OspfRuntime) (now : SimTime) : OspfRuntime × List OspfTransmission :=
  match self.router_id with
  | none => (self,[])
  | some self_id =>
    let desired := self.ospf_desired settings self_id now
    let updates := desired.entries.filterMap (self.refresh now) ++ self.database.entries.filterMap (flush self_id desired now)
    let updated := self.ospf_updates now updates
    (updated.1.remove_aged now,updated.2)

end OspfRuntime

/-! ### Elections and adjacencies -/

/-- What an election reads of a neighbour. -/
def Neighbor.candidate (self : Neighbor) : Ospf.Neighbor :=
  ⟨self.info.router_id,self.info.address,self.info.state,self.info.priority,self.hello.designated_router,self.hello.backup_router⟩

namespace InterfaceRuntime

/-- What an election reads and writes of an interface. -/
def election (self : InterfaceRuntime) : Ospf.InterfaceRuntime :=
  ⟨self.policy.network_type,self.policy.priority,self.address.address,self.wait_until,self.hello_due,self.dr,self.bdr⟩

/-- The interface after its election. -/
def elected (self : InterfaceRuntime) (result : Ospf.InterfaceRuntime) : InterfaceRuntime :=
  {self with wait_until := result.wait_until, hello_due := result.hello_due, dr := result.dr, bdr := result.bdr}

/-- Whether the interface and a neighbour become adjacent. -/
def adjacent (self : InterfaceRuntime) (neighbor : Neighbor) : Bool :=
  self.election.adjacent self.address.address neighbor.info.address

end InterfaceRuntime

namespace OspfRuntime

/-- The neighbours on an interface. -/
def neighbors_on (self : OspfRuntime) (id : InterfaceId) : List Neighbor :=
  (self.neighbors.entries.filter (fun entry => (ofLex entry.1).1 = id)).map (·.2)

/-- Whether the election of a broadcast interface has to wait. -/
def waits (self : OspfRuntime) (runtime : InterfaceRuntime) (id : InterfaceId) (now : SimTime) : Bool :=
  runtime.policy.network_type = .Broadcast &&
    runtime.election.waits (Ospf.candidates Ospf.Neighbor.address ((self.neighbors_on id).map (·.candidate))) now

/-- Start or end the exchange with one neighbour. -/
def adjoin (self_id : Ipv4Addr) (id : InterfaceId) (runtime : InterfaceRuntime) (mtu : UInt16)
    (database : OrderedMap LsaKey Lsa)
    (now : SimTime) (self : OspfRuntime) (key : NeighborKey) : OspfRuntime × List (Ipv4Addr × OspfBody Lsa) :=
  match self.neighbors.get? key with
  | none => (self,[])
  | some neighbor =>
    if (ofLex key).1 ≠ id ∨ neighbor.info.state = .Init then (self,[])
    else if runtime.adjacent neighbor then
      match neighbor.exchange with
      | some _ => (self,[])
      | none =>
        let sequence := self.sequence + 1
        let started := (OspfExchange.new self_id (ofLex key).2 mtu sequence).start database now
        let neighbor := {neighbor with info := {neighbor.info with state := started.1.state}, exchange := some started.1}
        ({self with sequence := sequence, neighbors := self.neighbors.insert key neighbor},[(neighbor.info.address,started.2)])
    else
      let neighbor := {neighbor with info := {neighbor.info with state := .TwoWay}, exchange := none}
      ({self with neighbors := self.neighbors.insert key neighbor},[])

/-- The neighbours in key order. -/
def adjoin_all (self_id : Ipv4Addr) (id : InterfaceId) (runtime : InterfaceRuntime) (mtu : UInt16)
    (database : OrderedMap LsaKey Lsa) (now : SimTime) :
    OspfRuntime → List NeighborKey → OspfRuntime × List (Ipv4Addr × OspfBody Lsa)
  | self,[] => (self,[])
  | self,key :: rest =>
    let first := adjoin self_id id runtime mtu database now self key
    let others := adjoin_all self_id id runtime mtu database now first.1 rest
    (others.1,first.2 ++ others.2)

/-- The election of one interface, and the adjacencies that follow from it. -/
def elect_interface (settings : Settings) (self_id : Ipv4Addr) (now : SimTime) (self : OspfRuntime) (id : InterfaceId) :
    OspfRuntime × List OspfTransmission :=
  match self.interfaces.get? id with
  | none => (self,[])
  | some runtime =>
    if self.waits runtime id now then (self,[])
    else
      let runtime := runtime.elected (Ospf.ospf_elect self_id runtime.election ((self.neighbors_on id).map (·.candidate)) now)
      let decided := {self with interfaces := self.interfaces.insert id runtime}
      let joined := adjoin_all self_id id runtime (settings.mtu id) (decided.ospf_database runtime.area now) now decided
        decided.neighbors.keys
      (joined.1,joined.1.emit_all (joined.2.map (fun body => (id,body.1,body.2))))

/-- The interfaces in order. -/
def elect_all (settings : Settings) (self_id : Ipv4Addr) (now : SimTime) :
    OspfRuntime → List InterfaceId → OspfRuntime × List OspfTransmission
  | self,[] => (self,[])
  | self,id :: rest =>
    let first := self.elect_interface settings self_id now id
    let others := elect_all settings self_id now first.1 rest
    (others.1,first.2 ++ others.2)

def ospf_elect (settings : Settings) (self : OspfRuntime) (now : SimTime) : OspfRuntime × List OspfTransmission :=
  match self.router_id with
  | none => (self,[])
  | some self_id => self.elect_all settings self_id now self.interfaces.keys

/-! ### Routes -/

/-- The neighbour that a first hop is reached through. -/
def via (settings : Settings) (self : OspfRuntime) (area : UInt32) (first_hop : Ipv4Addr) : Option Neighbor :=
  (self.neighbors.values.filter (fun n => n.info.router_id = first_hop && n.info.state ≠ .Init &&
    (self.interfaces.get? n.info.interface).any (fun runtime => runtime.area = area))).argmin
      (fun n => toLex ((settings.policy n.info.interface).cost,n.info.interface))

/-- One route of an area's search. -/
def select_route (settings : Settings) (self : OspfRuntime) (self_id : Ipv4Addr) (border : Bool) (area : UInt32)
    (selected : OrderedMap Ipv4Network (OspfSpfRoute × Route)) (route : OspfSpfRoute) :
    OrderedMap Ipv4Network (OspfSpfRoute × Route) :=
  if route.first_hop = self_id ∨ (border ∧ area ≠ 0 ∧ route.source = .OspfInterArea) then selected
  else
    match self.via settings area route.first_hop with
    | none => selected
    | some neighbor =>
      if (selected.get? route.network).all (fun old => route.preference < old.1.preference) then
        selected.insert route.network
          (route,⟨route.network,some neighbor.info.address,some neighbor.info.interface,110,route.metric,route.source⟩)
      else selected

def recompute_ospf_routes (settings : Settings) (self : OspfRuntime) (now : SimTime) : OspfRuntime :=
  match self.router_id with
  | none => {self with routes := []}
  | some self_id =>
    let border := settings.abr
    let selected := settings.areas.foldl (fun selected area =>
      (ospf_spf self_id (self.ospf_database area now).values).values.foldl
        (self.select_route settings self_id border area) selected) ∅
    {self with routes := selected.values.map (·.2)}

/-! ### Timers -/

/-- A newly active interface, or one whose address, area or timers changed. -/
def opened (settings : Settings) (active : ActiveInterface) (now : SimTime) : InterfaceRuntime :=
  let policy := settings.policy active.id
  ⟨policy,active.address,active.area,seconds_after now policy.dead_interval.toUInt64,now,0,0⟩

/-- Whether an interface no longer is what it was. -/
def changed (old : InterfaceRuntime) (settings : Settings) (active : ActiveInterface) : Bool :=
  let policy := settings.policy active.id
  old.address ≠ active.address || old.area ≠ active.area || old.policy.network_type ≠ policy.network_type ||
    old.policy.hello_interval ≠ policy.hello_interval || old.policy.dead_interval ≠ policy.dead_interval

/-- Follow the configuration of one interface. -/
def prepare_interface (settings : Settings) (now : SimTime) (self : OspfRuntime) (active : ActiveInterface) : OspfRuntime :=
  match self.interfaces.get? active.id with
  | some old =>
    if changed old settings active then
      { self with
        neighbors := self.neighbors.retain (fun key _ => (ofLex key).1 ≠ active.id),
        interfaces := self.interfaces.insert active.id (opened settings active now) }
    else {self with interfaces := self.interfaces.insert active.id {old with policy := settings.policy active.id}}
  | none =>
    { self with
      neighbors := self.neighbors.retain (fun key _ => (ofLex key).1 ≠ active.id),
      interfaces := self.interfaces.insert active.id (opened settings active now) }

/-- The largest of the active addresses. -/
def highest_address (settings : Settings) : Option Ipv4Addr := (settings.ospf_interfaces.map (·.address.address)).max?

def ospf_prepare (settings : Settings) (self : OspfRuntime) (now : SimTime) : OspfRuntime :=
  match settings.config with
  | none => default
  | some config =>
    let ids := settings.speaking.map (·.id)
    let named := {self with router_id := self.router_id <|> config.router_id <|> highest_address settings}
    let kept := {named with interfaces := named.interfaces.retain (fun id _ => ids.contains id)}
    let followed := settings.speaking.foldl (prepare_interface settings now) kept
    { followed with
      neighbors := followed.neighbors.retain (fun key neighbor => ids.contains (ofLex key).1 && now < neighbor.info.dead_at) }

/-- The Hello of an interface. -/
def hello_of (self : OspfRuntime) (id : InterfaceId) (runtime : InterfaceRuntime) : OspfHello :=
  ⟨mask_of runtime.address.prefix_len,runtime.policy.hello_interval,2,runtime.policy.priority,runtime.policy.dead_interval,
    runtime.dr,runtime.bdr,(self.neighbors.keys.filter (fun key => (ofLex key).1 = id)).map (fun key => (ofLex key).2)⟩

/-- The Hellos that are due. -/
def send_hellos (self : OspfRuntime) (now : SimTime) : OspfRuntime × List (InterfaceId × Ipv4Addr × OspfBody Lsa) :=
  ({ self with
      interfaces := self.interfaces.mapValues (fun _ runtime =>
        if runtime.hello_due ≤ now then {runtime with hello_due := seconds_after now runtime.policy.hello_interval.toUInt64}
        else runtime) },
    (self.interfaces.entries.filter (fun entry => entry.2.hello_due ≤ now)).map (fun entry =>
      (entry.1,OSPF_ALL_ROUTERS,.Hello (self.hello_of entry.1 entry.2))))

/-- The neighbour after its exchange's timers. -/
def tick_neighbor (now : SimTime) (neighbor : Neighbor) : Neighbor :=
  {neighbor with exchange := neighbor.exchange.map (fun exchange => (exchange.tick now).1)}

/-- The retransmissions that are due. -/
def tick_exchanges (self : OspfRuntime) (now : SimTime) : OspfRuntime × List (InterfaceId × Ipv4Addr × OspfBody Lsa) :=
  ({self with neighbors := self.neighbors.mapValues (fun _ => tick_neighbor now)},
    self.neighbors.entries.flatMap (fun entry =>
      (entry.2.exchange.elim [] (fun exchange => (exchange.tick now).2)).map (fun body =>
        ((ofLex entry.1).1,entry.2.info.address,body))))

/-- Hello, adjacency retransmission, database ageing and election timers in virtual time. -/
def ospf_tick (settings : Settings) (self : OspfRuntime) (now : SimTime) : OspfRuntime × List OspfTransmission :=
  let elected := (self.ospf_prepare settings now).ospf_elect settings now
  let originated := elected.1.ospf_originate settings now
  match originated.1.router_id with
  | none => (originated.1,elected.2 ++ originated.2)
  | some _ =>
    let greeted := originated.1.send_hellos now
    let ticked := greeted.1.tick_exchanges now
    (ticked.1.recompute_ospf_routes settings now,
      elected.2 ++ originated.2 ++ ticked.1.emit_all (greeted.2 ++ ticked.2))

/-- The deadlines of the process. -/
def deadlines (self : OspfRuntime) : List SimTime :=
  self.interfaces.values.flatMap (fun runtime => [runtime.hello_due,runtime.wait_until]) ++
    self.neighbors.values.flatMap (fun n =>
      n.info.dead_at :: (n.exchange.bind OspfExchange.next_deadline).toList) ++
    self.database.values.map (fun stored =>
      let age := if some stored.lsa.advertising_router = self.router_id then 1800 else LSA_MAX_AGE
      satAdd64 stored.installed (UInt64.ofNat ((age.toNat - stored.lsa.age.toNat) * 1000000)))

/-- Earliest protocol deadline, with a one-second maintenance bound for carrier changes. -/
def ospf_next_deadline (self : OspfRuntime) (now : SimTime) : SimTime :=
  (self.deadlines.filter (fun time => now < time)).foldl min (satAdd64 now 1000000)

/-! ### Reception -/

/-- Whether a packet may come from a neighbour on an interface. -/
def genuine (self_id : Ipv4Addr) (runtime : InterfaceRuntime) (source : Ipv4Addr) (packet : OspfV2Packet) : Bool :=
  !(packet.area ≠ runtime.area || packet.router_id = self_id || is_unspecified packet.router_id || is_multicast packet.router_id ||
    !((Ipv4Network.new runtime.address.address runtime.address.prefix_len).toOption.any (·.contains source)) ||
    source = runtime.address.address) &&
  !(is_unspecified source || is_multicast source || is_broadcast source || is_broadcast packet.router_id)

/-- The keys of an update that are not in the database yet. -/
def new_keys (self : OspfRuntime) (area : UInt32) (lsas : List Lsa) : List ScopedKey :=
  ((lsas.map (fun lsa => scoped_key (scope area lsa) lsa)).filter (fun key => !self.database.contains key)).dedup

/-- Whether an update fits into the database; state that cannot enter it is not acknowledged. -/
def fits (self : OspfRuntime) (packet : OspfV2Packet) : Bool :=
  match packet.body with
  | .LinkStateUpdate lsas => self.database.size + (self.new_keys packet.area lsas).length ≤ OSPF_DATABASE_LIMIT
  | _ => true

/-- Whether a Hello agrees with the interface that received it. -/
def compatible (runtime : InterfaceRuntime) (hello : OspfHello) : Bool :=
  !(hello.hello_interval ≠ runtime.policy.hello_interval || hello.dead_interval ≠ runtime.policy.dead_interval ||
    hello.options &&& 2 = 0 ||
    (runtime.policy.network_type = .Broadcast && hello.mask ≠ mask_of runtime.address.prefix_len))

/-- A neighbour that was heard for the first time. -/
def met (interface : InterfaceId) (source router_id : Ipv4Addr) (hello : OspfHello) (now : SimTime) : Neighbor :=
  ⟨⟨router_id,source,interface,.Init,hello.priority,now⟩,hello,none⟩

/-- The neighbour after a Hello of it. -/
def greeted (neighbor : Neighbor) (self_id source : Ipv4Addr) (hello : OspfHello) (now : SimTime) : Neighbor :=
  let exchange := if neighbor.info.address ≠ source ∨ self_id ∉ hello.neighbors then none else neighbor.exchange
  { info :=
      { neighbor.info with
        address := source,
        priority := hello.priority,
        dead_at := seconds_after now hello.dead_interval.toUInt64,
        state := if self_id ∉ hello.neighbors then .Init else exchange.elim .TwoWay (·.state) },
    hello := hello,
    exchange := exchange }

/-- A Hello: the neighbour is met or renewed, or nothing at all happens. -/
def receive_hello (self : OspfRuntime) (self_id : Ipv4Addr) (interface : InterfaceId) (runtime : InterfaceRuntime)
    (source router_id : Ipv4Addr) (hello : OspfHello) (now : SimTime) : Option OspfRuntime :=
  let key : NeighborKey := toLex (interface,router_id)
  if !compatible runtime hello || (!self.neighbors.contains key && NEIGHBOR_LIMIT ≤ self.neighbors.size) then none
  else
    let neighbor := (self.neighbors.get? key).getD (met interface source router_id hello now)
    let heard := {self with neighbors := self.neighbors.insert key (greeted neighbor self_id source hello now)}
    if self.neighbors.contains key then some heard
    else some {heard with interfaces := heard.interfaces.insert interface {runtime with hello_due := now}}

/-- The advertisements of an update, one after another. -/
def install_all (area : UInt32) (excepted : Option NeighborKey) (now : SimTime) :
    OspfRuntime → List Lsa → OspfRuntime × List OspfTransmission
  | self,[] => (self,[])
  | self,lsa :: rest =>
    let first := self.ospf_install area lsa excepted now
    let others := install_all area excepted now first.1 rest
    (others.1,first.2 ++ others.2)

/-- Any other packet is for the exchange with its sender. -/
def receive_body (self : OspfRuntime) (interface : InterfaceId) (source : Ipv4Addr) (packet : OspfV2Packet) (now : SimTime) :
    Option (OspfRuntime × List OspfTransmission) :=
  let key : NeighborKey := toLex (interface,packet.router_id)
  match (self.neighbors.get? key).filter (fun n => n.info.address = source) with
  | none => none
  | some neighbor =>
    match neighbor.exchange with
    | none => none
    | some exchange =>
      let result := exchange.receive packet.body (self.ospf_database packet.area now) now
      let neighbor := {neighbor with info := {neighbor.info with state := result.1.state}, exchange := some result.1}
      let heard := {self with neighbors := self.neighbors.insert key neighbor}
      let installed := install_all packet.area (some key) now heard result.2.advertisements
      some (installed.1,heard.emit_all (result.2.packets.map (fun body => (interface,source,body))) ++ installed.2)

/-- What a packet does before the timers are driven; nothing at all if it is refused. -/
def accept_packet (self : OspfRuntime) (interface : InterfaceId) (source : Ipv4Addr) (packet : OspfV2Packet)
    (now : SimTime) :
    Option (OspfRuntime × List OspfTransmission) :=
  match self.router_id, self.interfaces.get? interface with
  | some self_id, some runtime =>
    if !genuine self_id runtime source packet || !self.fits packet then none
    else
      match packet.body with
      | .Hello hello => (self.receive_hello self_id interface runtime source packet.router_id hello now).map (fun heard => (heard,[]))
      | _ => self.receive_body interface source packet now
  | _, _ => none

/-- Receive a decoded standard OSPF packet after IPv4 and interface policy checks. -/
def receive_ospf_v2 (settings : Settings) (self : OspfRuntime) (interface : InterfaceId) (source : Ipv4Addr)
    (packet : OspfV2Packet) (now : SimTime) : OspfRuntime × List OspfTransmission :=
  let prepared := self.ospf_prepare settings now
  match prepared.accept_packet interface source packet now with
  | none => (prepared,[])
  | some heard =>
    let ticked := heard.1.ospf_tick settings now
    (ticked.1,heard.2 ++ ticked.2)

end OspfRuntime

/-! ### Runs -/

/-- What happens to a process; the device may look different at every step. -/
inductive Operation where
  | tick (settings : Settings) (now : SimTime)
  | receive (settings : Settings) (interface : InterfaceId) (source : Ipv4Addr) (packet : OspfV2Packet) (now : SimTime)
  /-- The identity of the process changes. -/
  | restart

namespace OspfRuntime

def perform (self : OspfRuntime) : Operation → OspfRuntime
  | .tick settings now => (self.ospf_tick settings now).1
  | .receive settings interface source packet now => (self.receive_ospf_v2 settings interface source packet now).1
  | .restart => default

def run (self : OspfRuntime) (operations : List Operation) : OspfRuntime := operations.foldl perform self

end OspfRuntime
end Rios.OspfDevice
