import Rios.Device
import Rios.OrderedMap
import Rios.Queue

/-!
# Spanning tree on one switch

Per-VLAN root election, port roles and port states, the BPDUs sent and the
reaction to one that is received. A port's configuration and runtime data are
kept in one record; whether its line protocol may come up is a field of it.
-/

namespace Rios.Stp
open Rios.Machine Rios.Device
open Rios.Queue (SimTime)

/-- `VlanId(u16)`. -/
abbrev VlanId := UInt16

inductive StpPortRole where
  | Root
  | Designated
  | Alternate
deriving DecidableEq

inductive StpPortState where
  | Blocking
  | Listening
  | Learning
  | Forwarding
deriving DecidableEq

/-- The vector that a configuration BPDU carries. -/
@[ext] structure ConfigurationBpdu where
  root_id : UInt64
  root_cost : UInt32
  bridge_id : UInt64
  port_id : UInt16
deriving DecidableEq

def BPDU_PROPOSAL : UInt8 := 2
def BPDU_AGREEMENT : UInt8 := 64
def BPDU_LEARNING : UInt8 := 16
def BPDU_FORWARDING : UInt8 := 32
def BPDU_ROLE_ROOT : UInt8 := 8
def BPDU_ROLE_DESIGNATED : UInt8 := 12
def BPDU_ROLE_ALTERNATE : UInt8 := 4

/-- BPDU with flags and timers in 1/256-second units. -/
structure StpBpdu where
  configuration : ConfigurationBpdu
  rapid : Bool
  flags : UInt8
  message_age : UInt16
  max_age : UInt16
  hello_time : UInt16
  forward_delay : UInt16
deriving DecidableEq

/-- Wrap a configuration vector with standard timer defaults. -/
def StpBpdu.new (configuration : ConfigurationBpdu) (rapid : Bool) (flags : UInt8) : StpBpdu :=
  ⟨configuration,rapid,flags,0,20 * 256,2 * 256,15 * 256⟩

structure StpReceived where
  bpdu : StpBpdu
  guarded : Bool
  expires_at : SimTime
deriving DecidableEq

/-- The state of one VLAN's tree; `agreed` is a set. -/
@[ext] structure StpInstance where
  agreed : OrderedMap InterfaceId Unit
  transitions : OrderedMap InterfaceId SimTime
  root_id : UInt64
  root_cost : UInt32
  root_port : Option InterfaceId
  ports : OrderedMap InterfaceId (StpPortRole × StpPortState)
  received : OrderedMap InterfaceId StpReceived

/-- `StpInstance::default`. -/
def StpInstance.default : StpInstance := ⟨∅,∅,0,0,none,∅,∅⟩

/-- Port priority, optional explicit cost, edge status and guards. -/
structure StpPortConfig where
  priority : UInt8
  cost : Option UInt32
  portfast : Bool
  bpdu_guard : Bool
  root_guard : Bool
deriving DecidableEq

inductive SwitchportMode where
  | Access
  | Trunk
deriving DecidableEq

structure SwitchportConfig where
  mode : SwitchportMode
  access_vlan : VlanId
  trunk_allowed_vlans : Option (List VlanId)
deriving DecidableEq

/-- A port: hardware address, kind, line and the configuration that spanning tree reads. -/
structure Port where
  mac_address : MacAddress
  ten_gigabit : Bool
  line_up : Bool
  channel_member : Bool
  switchport : Option SwitchportConfig
  spanning_tree : StpPortConfig
deriving DecidableEq

/-- The part of a device that runs spanning tree. -/
structure Switch where
  supports_switching : Bool
  interfaces : OrderedMap InterfaceId Port
  vlans : List VlanId
  rapid : Bool
  priorities : OrderedMap VlanId UInt16
  stp_runtime : OrderedMap VlanId StpInstance
  stp_errdisabled : OrderedMap InterfaceId Unit
  mac_table : OrderedMap (VlanId ×ₗ MacAddress) InterfaceId

/-- `u64::from_be_bytes` of two zero octets and a hardware address. -/
def mac_bits (mac : MacAddress) : UInt64 := mac.octets.toList.foldl (fun bits octet => (bits <<< 8) ||| octet.toUInt64) 0

namespace Switch

/-- The identity under which the switch takes part in a VLAN's tree. -/
def bridge_id (self : Switch) (vlan : VlanId) : Option UInt64 :=
  ((self.interfaces.values.map (·.mac_address)).min?).map (fun mac =>
    (((((self.priorities.get? vlan).getD 32768).toUInt64) ||| vlan.toUInt64) <<< 48) ||| mac_bits mac)

/-- The port's part of a vector; the ports handed around exist. -/
def stp_port_id (self : Switch) (port : InterfaceId) : UInt16 :=
  (((self.interfaces.get? port).elim 0 (·.spanning_tree.priority)).toUInt16 <<< 8) ||| (port.toUInt16 &&& 0x0fff)

def stp_cost (self : Switch) (port : InterfaceId) : UInt32 :=
  (self.interfaces.get? port).elim 0 (fun config =>
    config.spanning_tree.cost.getD (if config.ten_gigabit then 2 else 4))

def portfast (self : Switch) (port : InterfaceId) : Bool := (self.interfaces.get? port).any (·.spanning_tree.portfast)

/-- Line protocol state. -/
def protocol_up (self : Switch) (id : InterfaceId) : Bool :=
  !self.stp_errdisabled.contains id && (self.interfaces.get? id).any (·.line_up)

/-- The VLANs whose trees a port takes part in. -/
def port_vlans (self : Switch) (id : InterfaceId) (config : Port) : List VlanId :=
  if config.channel_member || !self.protocol_up id then []
  else
    match config.switchport with
    | none => []
    | some switchport =>
      match switchport.mode with
      | .Access => if self.vlans.contains switchport.access_vlan then [switchport.access_vlan] else []
      | .Trunk => self.vlans.filter (fun vlan => switchport.trunk_allowed_vlans.all (·.contains vlan))

/-- The ports of each VLAN's tree. -/
def stp_ports (self : Switch) : OrderedMap VlanId (List InterfaceId) :=
  self.interfaces.entries.foldl (fun ports entry =>
    (self.port_vlans entry.1 entry.2).foldl (fun ports vlan =>
      ports.insert vlan ((ports.get? vlan).getD [] ++ [entry.1])) ports) ∅

end Switch

/-! ### Recomputation of one instance -/

/-- A priority vector; smaller is better. -/
abbrev Vector5 := UInt64 ×ₗ UInt32 ×ₗ UInt64 ×ₗ UInt16 ×ₗ UInt16

def vector (root_id : UInt64) (root_cost : UInt32) (bridge_id : UInt64) (port_id own_port : UInt16) : Vector5 :=
  toLex (root_id,toLex (root_cost,toLex (bridge_id,toLex (port_id,own_port))))

/-- The vector that a designated port offers to its segment. -/
def offer (root_id : UInt64) (root_cost : UInt32) (bridge_id : UInt64) (port_id : UInt16) :
    UInt64 ×ₗ UInt32 ×ₗ UInt64 ×ₗ UInt16 :=
  toLex (root_id,toLex (root_cost,toLex (bridge_id,port_id)))

/-- What a recomputation reads of the switch. -/
structure Bridge where
  bridge_id : UInt64
  rapid : Bool
  port_id : InterfaceId → UInt16
  cost : InterfaceId → UInt32
  portfast : InterfaceId → Bool

namespace StpInstance

/-- Drop what belongs to no port any more, and what has expired. -/
def prune (self : StpInstance) (ports : List InterfaceId) (now : SimTime) : StpInstance :=
  { self with
    received := self.received.retain (fun port received => ports.contains port && now < received.expires_at)
    agreed := self.agreed.retain (fun port _ => ports.contains port)
    transitions := self.transitions.retain (fun port _ => ports.contains port) }

/-- The root vector that a received BPDU offers through its port. -/
def root_vector (bridge : Bridge) (port : InterfaceId) (received : StpReceived) : Vector5 :=
  let bpdu := received.bpdu.configuration
  vector bpdu.root_id (satAdd32 bpdu.root_cost (bridge.cost port)) bpdu.bridge_id bpdu.port_id (bridge.port_id port)

/-- The best vector among the unguarded ones, with its port. -/
def best (self : StpInstance) (bridge : Bridge) : Option (InterfaceId × Vector5) :=
  ((self.received.entries.filter (fun entry => !entry.2.guarded)).map (fun entry =>
    (entry.1,root_vector bridge entry.1 entry.2))).argmin (·.2)

/-- Root, cost and root port: the best vector if it beats the bridge's own. -/
def elected (self : StpInstance) (bridge : Bridge) : UInt64 × UInt32 × Option InterfaceId :=
  match (self.best bridge).filter (fun found => found.2 < vector bridge.bridge_id 0 bridge.bridge_id 0 0) with
  | some (port,found) => ((ofLex found).1,(ofLex (ofLex found).2).1,some port)
  | none => (bridge.bridge_id,0,none)

/-- Whether an election changes the instance. -/
def root_changed (self : StpInstance) (bridge : Bridge) : Bool :=
  (self.root_id,self.root_cost,self.root_port) ≠ self.elected bridge

/-- Take over the elected root; a change forgets agreements and transitions. -/
def adopt (self : StpInstance) (bridge : Bridge) : StpInstance :=
  let (root_id,root_cost,root_port) := self.elected bridge
  let cleared := if self.root_changed bridge then { self with agreed := ∅, transitions := ∅ } else self
  { cleared with root_id, root_cost, root_port }

def port_role (self : StpInstance) (bridge : Bridge) (port : InterfaceId) : StpPortRole :=
  let received := self.received.get? port
  if some port = self.root_port then .Root
  else if received.any (·.guarded) || received.all (fun received =>
      let bpdu := received.bpdu.configuration
      offer self.root_id self.root_cost bridge.bridge_id (bridge.port_id port) <
        offer bpdu.root_id bpdu.root_cost bpdu.bridge_id bpdu.port_id) then .Designated
  else .Alternate

/-- The state of a port in its role since a time. -/
def port_state (self : StpInstance) (bridge : Bridge) (port : InterfaceId) (role : StpPortRole) (since now : SimTime) :
    StpPortState :=
  let received := self.received.get? port
  let elapsed := satSub64 now since
  if received.any (·.guarded) || role = .Alternate then .Blocking
  else if (bridge.portfast port && received.isNone) || (bridge.rapid && self.agreed.contains port) then .Forwarding
  else if elapsed < 15000000 then (if bridge.rapid then .Blocking else .Listening)
  else if elapsed < 30000000 then .Learning
  else .Forwarding

/-- The loop body for one port; a role it did not have before starts a transition. -/
def refresh_port (bridge : Bridge) (now : SimTime) (previous : OrderedMap InterfaceId (StpPortRole × StpPortState))
    (self : StpInstance) (port : InterfaceId) : StpInstance :=
  let role := self.port_role bridge port
  let fresh := (previous.get? port).all (fun old => old.1 ≠ role)
  let self := if fresh then
      { self with agreed := self.agreed.erase port, transitions := self.transitions.insert port now }
    else self
  let since := (self.transitions.get? port).getD now
  let self := { self with transitions := self.transitions.insert port since }
  { self with ports := self.ports.insert port (role,self.port_state bridge port role since now) }

/-- `recompute_stp_instance`, without the learned addresses. -/
def recompute (self : StpInstance) (bridge : Bridge) (ports : List InterfaceId) (now : SimTime) : StpInstance :=
  let adopted := (self.prune ports now).adopt bridge
  ports.foldl (refresh_port bridge now self.ports) { adopted with ports := ∅ }

/-- The election: the bridge itself while no offer beats it, otherwise the best offer. -/
theorem elected_cases (self : StpInstance) (bridge : Bridge) :
    let own := vector bridge.bridge_id 0 bridge.bridge_id 0 0
    (self.elected bridge = (bridge.bridge_id,0,none) ∧
      ∀ port received, self.received.get? port = some received → received.guarded = false →
        own ≤ root_vector bridge port received) ∨
    ∃ port received, self.received.get? port = some received ∧ received.guarded = false ∧
      self.elected bridge = (received.bpdu.configuration.root_id,
        satAdd32 received.bpdu.configuration.root_cost (bridge.cost port),some port) ∧
      root_vector bridge port received < own ∧
      ∀ other offered, self.received.get? other = some offered → offered.guarded = false →
        root_vector bridge port received ≤ root_vector bridge other offered := by
  intro own
  have competes : ∀ {port received}, self.received.get? port = some received → received.guarded = false →
      (port,root_vector bridge port received) ∈ (self.received.entries.filter (fun entry => !entry.2.guarded)).map
        (fun entry => (entry.1,root_vector bridge entry.1 entry.2)) := by
    intro port received found unguarded
    refine List.mem_map.mpr ⟨(port,received),List.mem_filter.mpr ⟨(OrderedMap.get?_eq_some _ _ _).mp found,?_⟩,rfl⟩
    simp [unguarded]
  unfold elected
  cases chosen : self.best bridge with
  | none =>
    refine .inl ⟨rfl,fun port received found unguarded => ?_⟩
    have empty := List.argmin_eq_none.mp chosen
    have member := competes found unguarded
    rw [empty] at member
    exact absurd member List.not_mem_nil
  | some found =>
    have least : ∀ {port received}, self.received.get? port = some received → received.guarded = false →
        found.2 ≤ root_vector bridge port received :=
      fun isReceived unguarded => List.le_of_mem_argmin (competes isReceived unguarded) chosen
    obtain ⟨⟨port,received⟩,member,same⟩ := List.mem_map.mp (List.argmin_mem chosen)
    obtain ⟨isEntry,unguarded⟩ := List.mem_filter.mp member
    have isReceived := (OrderedMap.get?_eq_some _ _ _).mpr isEntry
    subst same
    by_cases beats : root_vector bridge port received < own
    · refine .inr ⟨port,received,isReceived,by simpa using unguarded,?_,beats,fun _ _ => least⟩
      rw [Option.filter_some,decide_eq_true beats,if_pos rfl]
      rfl
    · refine .inl ⟨?_,fun _ _ other free => (not_lt.mp beats).trans (least other free)⟩
      rw [Option.filter_some,decide_eq_false beats]
      rfl

/-- One round of the port loop. -/
theorem refresh_port_correct (bridge : Bridge) (now : SimTime)
    (previous : OrderedMap InterfaceId (StpPortRole × StpPortState)) (self : StpInstance) (port : InterfaceId) :
    let after := refresh_port bridge now previous self port
    after.root_id = self.root_id ∧ after.root_cost = self.root_cost ∧ after.root_port = self.root_port ∧
      after.received = self.received ∧
      ∃ state, after.ports = self.ports.insert port (self.port_role bridge port,state) := by
  simp only [refresh_port]
  split_ifs <;> exact ⟨rfl,rfl,rfl,rfl,_,rfl⟩

theorem port_role_congr {self other : StpInstance} (root_id : self.root_id = other.root_id)
    (root_cost : self.root_cost = other.root_cost) (root_port : self.root_port = other.root_port)
    (received : self.received = other.received) (bridge : Bridge) (port : InterfaceId) :
    self.port_role bridge port = other.port_role bridge port := by
  unfold port_role
  rw [root_id,root_cost,root_port,received]

/-- The whole port loop: every port of the list has the role that the election gives it. -/
theorem refresh_ports_correct (bridge : Bridge) (now : SimTime)
    (previous : OrderedMap InterfaceId (StpPortRole × StpPortState)) (ports : List InterfaceId) (self : StpInstance) :
    let after := ports.foldl (refresh_port bridge now previous) self
    after.root_id = self.root_id ∧ after.root_cost = self.root_cost ∧ after.root_port = self.root_port ∧
      after.received = self.received ∧
      (∀ port ∈ ports, (after.ports.get? port).map (·.1) = some (self.port_role bridge port)) ∧
      ∀ port, port ∉ ports → after.ports.get? port = self.ports.get? port := by
  induction ports generalizing self with
  | nil => simp
  | cons first rest ih =>
    obtain ⟨id,cost,root,received,state,ports⟩ := refresh_port_correct bridge now previous self first
    obtain ⟨restId,restCost,restRoot,restReceived,inside,outside⟩ := ih (refresh_port bridge now previous self first)
    have roles := port_role_congr id cost root received bridge
    refine ⟨restId.trans id,restCost.trans cost,restRoot.trans root,restReceived.trans received,?_,?_⟩
    · intro port member
      by_cases later : port ∈ rest
      · rw [List.foldl_cons,inside port later,roles]
      · obtain rfl : port = first := (List.mem_cons.mp member).resolve_right later
        rw [List.foldl_cons,outside port later,ports,OrderedMap.get?_insert_self]
        rfl
    · intro port absent
      obtain ⟨notFirst,notRest⟩ := not_or.mp (fun isIn => absent (List.mem_cons.mpr isIn))
      rw [List.foldl_cons,outside port notRest,ports,OrderedMap.get?_insert,if_neg notFirst]

/-- What a recomputation leaves: the pruned BPDUs, the elected root, and the
    roles that follow from them, for the ports of the list and no others. -/
theorem recompute_correct (self : StpInstance) (bridge : Bridge) (ports : List InterfaceId) (now : SimTime) :
    let after := self.recompute bridge ports now
    after.received = (self.prune ports now).received ∧
      (after.root_id,after.root_cost,after.root_port) = (self.prune ports now).elected bridge ∧
      (∀ port ∈ ports, (after.ports.get? port).map (·.1) = some (after.port_role bridge port)) ∧
      ∀ port, port ∉ ports → after.ports.get? port = none := by
  have adopted : ∀ pruned : StpInstance, (pruned.adopt bridge).received = pruned.received ∧
      ((pruned.adopt bridge).root_id,(pruned.adopt bridge).root_cost,(pruned.adopt bridge).root_port) =
        pruned.elected bridge := by
    intro pruned
    unfold adopt
    simp only
    split_ifs <;> exact ⟨rfl,trivial⟩
  intro after
  obtain ⟨id,cost,root,received,inside,outside⟩ := refresh_ports_correct bridge now self.ports ports
    { (self.prune ports now).adopt bridge with ports := ∅ }
  have roles := port_role_congr id cost root received bridge
  refine ⟨received.trans (adopted _).1,?_,fun port member => (inside port member).trans (congrArg some (roles port).symm),?_⟩
  · rw [← (adopted (self.prune ports now)).2]
    exact Prod.ext id (Prod.ext cost root)
  · intro port absent
    exact (outside port absent).trans rfl

/-- Whether a recomputation changed the root or any earlier port's role or state. -/
def changed (self : StpInstance) (bridge : Bridge) (ports : List InterfaceId) (now : SimTime) : Bool :=
  (self.prune ports now).root_changed bridge ||
    self.ports.entries.any (fun entry => (self.recompute bridge ports now).ports.get? entry.1 ≠ some entry.2)

end StpInstance

/-! ### The switch -/

namespace Switch

/-- What the recomputation of a VLAN's instance reads. -/
def bridge (self : Switch) (bridge_id : UInt64) : Bridge :=
  ⟨bridge_id,self.rapid,self.stp_port_id,self.stp_cost,self.portfast⟩

def recompute_stp_instance (self : Switch) (vlan : VlanId) (ports : List InterfaceId) (now : SimTime) : Switch :=
  match self.bridge_id vlan with
  | none => self
  | some bridge_id =>
    let before := (self.stp_runtime.get? vlan).getD .default
    { self with
      stp_runtime := self.stp_runtime.insert vlan (before.recompute (self.bridge bridge_id) ports now)
      mac_table :=
        if before.changed (self.bridge bridge_id) ports now then self.mac_table.retain (fun key _ => (ofLex key).1 ≠ vlan)
        else self.mac_table }

/-- Refresh roles and elapsed forwarding states. -/
def refresh_spanning_tree (self : Switch) (now : SimTime) : Switch :=
  if !self.supports_switching then self
  else
    let ports := self.stp_ports
    ports.entries.foldl (fun switch entry => switch.recompute_stp_instance entry.1 entry.2 now)
      { self with stp_runtime := self.stp_runtime.retain (fun vlan _ => ports.contains vlan) }

/-- The BPDU of one port, if it sends one. -/
def stp_packet (self : Switch) (bridge_id : UInt64) (current : StpInstance) (port : InterfaceId) (role : StpPortRole)
    (state : StpPortState) : Option StpBpdu :=
  let rapid := self.rapid && (current.received.get? port).all (·.bpdu.rapid)
  if role ≠ .Designated && !(rapid && role = .Root) then none
  else
    let role_flag := match role with
      | .Root => BPDU_ROLE_ROOT
      | .Designated => BPDU_ROLE_DESIGNATED
      | .Alternate => BPDU_ROLE_ALTERNATE
    let flags := if rapid then
        role_flag ||| (if role = .Designated && !current.agreed.contains port then BPDU_PROPOSAL else 0) |||
          (if role = .Root && current.agreed.contains port then BPDU_AGREEMENT else 0) |||
          (if state = .Learning || state = .Forwarding then BPDU_LEARNING else 0) |||
          (if state = .Forwarding then BPDU_FORWARDING else 0)
      else 0
    let packet := StpBpdu.new ⟨current.root_id,current.root_cost,bridge_id,self.stp_port_id port⟩ rapid flags
    let packet := match current.root_port.bind current.received.get? with
      | some root => { packet with message_age := satAdd16 root.bpdu.message_age 256 }
      | none => packet
    if packet.message_age < packet.max_age then some packet else none

/-- Produce standard BPDUs; rapid root ports also send explicit agreements. -/
def stp_packets (self : Switch) (now : SimTime) : List (InterfaceId × VlanId × StpBpdu) × Switch :=
  let self := self.refresh_spanning_tree now
  (self.stp_runtime.entries.flatMap (fun entry =>
    match self.bridge_id entry.1 with
    | none => []
    | some bridge_id =>
      entry.2.ports.entries.filterMap (fun port =>
        (self.stp_packet bridge_id entry.2 port.1 port.2.1 port.2.2).map (fun packet => (port.1,entry.1,packet)))),self)

/-- Take down a guarded port that received a BPDU. -/
def guard_port (self : Switch) (interface : InterfaceId) : Switch :=
  { self with
    stp_errdisabled := self.stp_errdisabled.insert interface ()
    stp_runtime := self.stp_runtime.mapValues (fun _ current =>
      { current with
        received := current.received.erase interface
        ports := current.ports.erase interface
        agreed := current.agreed.erase interface })
    mac_table := self.mac_table.retain (fun _ port => port ≠ interface) }

/-- How long a received BPDU stays valid, in microseconds. -/
def lifetime (packet : StpBpdu) : UInt64 :=
  let age := (packet.max_age.toNat - packet.message_age.toNat) * 1000000 / 256
  UInt64.ofNat (if packet.rapid then min age (packet.hello_time.toNat * 3000000 / 256) else age)

/-- The reaction of a rapid port to a proposal or an agreement. -/
def synchronize (self : Switch) (interface : InterfaceId) (packet : StpBpdu) (current : StpInstance) (now : SimTime) :
    StpInstance :=
  let role := (current.ports.get? interface).map (·.1)
  if role = some .Root && packet.flags &&& BPDU_PROPOSAL ≠ 0 then
    if current.agreed.contains interface then current
    else
      -- all other nonedge designated ports fall back before the root port opens
      let blocked := current.ports.entries.filter (fun entry => entry.1 ≠ interface && entry.2.1 = .Designated &&
        !(self.portfast entry.1 && !current.received.contains entry.1))
      let current := blocked.foldl (fun current entry =>
        { current with agreed := current.agreed.erase entry.1, transitions := current.transitions.insert entry.1 now }) current
      { current with agreed := current.agreed.insert interface () }
  else if role = some .Designated && packet.flags &&& BPDU_AGREEMENT ≠ 0 && packet.flags &&& 12 = BPDU_ROLE_ROOT &&
      packet.configuration.root_id = current.root_id && current.root_cost ≤ packet.configuration.root_cost then
    { current with agreed := current.agreed.insert interface () }
  else current

/-- Receive a BPDU, synchronize before agreeing, and report state changes. -/
def receive_stp_packet (self : Switch) (interface : InterfaceId) (vlan : VlanId) (packet : StpBpdu) (now : SimTime) :
    Bool × Switch :=
  match (self.stp_ports.get? vlan).filter (·.contains interface) with
  | none => (false,self)
  | some members =>
    if (self.interfaces.get? interface).any (·.spanning_tree.bpdu_guard) then (true,self.guard_port interface)
    else
      match self.bridge_id vlan with
      | none => (false,self)
      | some bridge_id =>
        let bpdu := packet.configuration
        if bpdu.bridge_id = bridge_id then (false,self)
        else
          let self := self.refresh_spanning_tree now
          let previous := (self.stp_runtime.get? vlan).getD .default
          let guarded := (self.interfaces.get? interface).any (·.spanning_tree.root_guard) &&
            decide (toLex (bpdu.root_id,toLex (bpdu.root_cost,bpdu.bridge_id)) <
              toLex (previous.root_id,toLex (previous.root_cost,bridge_id)))
          let arrived := { previous with
            transitions :=
              if previous.received.contains interface then previous.transitions
              else previous.transitions.insert interface now
            received := previous.received.insert interface ⟨packet,guarded,satAdd64 now (lifetime packet)⟩ }
          let self := { self with stp_runtime := self.stp_runtime.insert vlan arrived }
          let self := self.recompute_stp_instance vlan members now
          let self :=
            if self.rapid && packet.rapid && !guarded then
              let current := (self.stp_runtime.get? vlan).getD .default
              let self := { self with stp_runtime := self.stp_runtime.insert vlan (self.synchronize interface packet current now) }
              self.recompute_stp_instance vlan members now
            else self
          let current := (self.stp_runtime.get? vlan).getD .default
          (previous.root_id ≠ current.root_id || previous.root_port ≠ current.root_port ||
            previous.ports.entries ≠ current.ports.entries || previous.agreed.entries ≠ current.agreed.entries ||
            (packet.rapid && packet.flags &&& BPDU_PROPOSAL ≠ 0 && current.root_port = some interface),self)

end Switch
end Rios.Stp
