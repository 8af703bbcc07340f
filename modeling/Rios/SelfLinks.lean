import Rios.StpSync

/-!
# Cables between two ports of one switch

A BPDU that carries the switch's own identity is ignored, unless its port is guarded. So neither end of such a
cable ever hears a better bridge, and both of them forward once the forward delays are over; only BPDU guard takes
one of them down.
-/

namespace Rios.SelfLinks
open Rios.Machine Rios.Device Rios.Stp Rios.Stp.StpInstance Rios.StpSync
open Rios.Queue (SimTime)

/-! ### Runs of a switch with cables to itself -/

/-- A switch and the BPDUs on its own cables, each with the port that it is about to reach. -/
structure State where
  switch : Switch
  wire : List (InterfaceId × VlanId × StpBpdu)

/-- A tick that refreshes or also sends, a BPDU that reaches the other end of its cable, or one of another bridge. -/
inductive Event where
  | refresh (now : SimTime)
  | send (now : SimTime)
  | arrive (index : Nat) (now : SimTime)
  | hear (interface : InterfaceId) (vlan : VlanId) (packet : StpBpdu) (now : SimTime)

/-- The other end of a cable between two ports of the switch. -/
abbrev Cables := InterfaceId → Option InterfaceId

/-- The BPDUs that a switch sends over its own cables. -/
def looped (cables : Cables) (packets : List (InterfaceId × VlanId × StpBpdu)) : List (InterfaceId × VlanId × StpBpdu) :=
  packets.filterMap (fun packet => (cables packet.1).map (fun other => (other,packet.2)))

/-- BPDUs of other bridges arrive on other ports only. -/
def apply (cables : Cables) (state : State) : Event → State
  | .refresh now => { state with switch := state.switch.refresh_spanning_tree now }
  | .send now =>
    let (packets,switch) := state.switch.stp_packets now
    ⟨switch,state.wire ++ looped cables packets⟩
  | .arrive index now =>
    match state.wire[index]? with
    | none => state
    | some (port,vlan,packet) => ⟨(state.switch.receive_stp_packet port vlan packet now).2,state.wire.eraseIdx index⟩
  | .hear interface vlan packet now =>
    if (cables interface).isSome then state
    else { state with switch := (state.switch.receive_stp_packet interface vlan packet now).2 }

def run (cables : Cables) (switch : Switch) (events : List Event) : State := events.foldl (apply cables) ⟨switch,[]⟩

/-- No port of the tree has started its role within the forward delays, and what the switch sends to itself changes
    nothing. -/
def Quiescent (cables : Cables) (vlan : VlanId) (now : SimTime) (switch : Switch) : Prop :=
  (∀ entry ∈ (tree_of (switch.refresh_spanning_tree now) vlan).transitions.entries, entry.2.toNat + 30000000 ≤ now.toNat) ∧
  ∀ packet ∈ looped cables (switch.stp_packets now).1,
    ((switch.refresh_spanning_tree now).receive_stp_packet packet.1 packet.2.1 packet.2.2 now).1 = false

instance (cables : Cables) (vlan : VlanId) (now : SimTime) (switch : Switch) :
    Decidable (Quiescent cables vlan now switch) :=
  inferInstanceAs (Decidable (_ ∧ _))

/-- Whether a port forwards user traffic after a refresh. -/
def forwards (switch : Switch) (vlan : VlanId) (port : InterfaceId) (now : SimTime) : Bool :=
  ((tree_of (switch.refresh_spanning_tree now) vlan).ports.get? port).any (·.2 = .Forwarding)

/-- Whether a port is configured for a VLAN's tree and its line is up, apart from guards. -/
def in_vlan (switch : Switch) (vlan : VlanId) (port : InterfaceId) : Bool :=
  (switch.stp_ports.get? vlan).any (·.contains port)

/-- Whether a port is taken down when it receives a BPDU. -/
def bpdu_guard (switch : Switch) (port : InterfaceId) :
    Bool := (switch.interfaces.get? port).any (·.spanning_tree.bpdu_guard)

/-! ### The ports of a tree -/

section Ports
variable {switch first second : Switch} {vlan : VlanId} {port : InterfaceId}

/-- The members of one VLAN, as the loop over the ports collects them. -/
theorem collected (switch : Switch) (entries : List (InterfaceId × Port)) (found : OrderedMap VlanId (List InterfaceId))
    (vlan : VlanId) (port : InterfaceId) :
    port ∈ ((entries.foldl (fun ports entry => (switch.port_vlans entry.1 entry.2).foldl (fun ports vlan =>
        ports.insert vlan ((ports.get? vlan).getD [] ++ [entry.1])) ports) found).get? vlan).getD [] ↔
      port ∈ (found.get? vlan).getD [] ∨ ∃ config, (port,config) ∈ entries ∧ vlan ∈ switch.port_vlans port config := by
  have inner : ∀ (id : InterfaceId) (vlans : List VlanId) (ports : OrderedMap VlanId (List InterfaceId)),
      port ∈ ((vlans.foldl (fun ports vlan => ports.insert vlan ((ports.get? vlan).getD [] ++ [id])) ports).get? vlan).getD [] ↔
        port ∈ (ports.get? vlan).getD [] ∨ port = id ∧ vlan ∈ vlans := by
    intro id vlans
    induction vlans with
    | nil => simp
    | cons head rest ih =>
      intro ports
      rw [List.foldl_cons,ih,OrderedMap.get?_insert]
      by_cases same : vlan = head
      · subst same
        simp only [if_pos,Option.getD_some,List.mem_append,List.mem_cons,true_or,and_true]
        tauto
      · simp [same]
  induction entries generalizing found with
  | nil => simp
  | cons entry rest ih =>
    rw [List.foldl_cons]
    refine (ih _).trans ?_
    rw [inner]
    constructor
    · rintro ((old | ⟨rfl,listed⟩) | ⟨config,member,listed⟩)
      · exact .inl old
      · exact .inr ⟨entry.2,List.mem_cons_self,listed⟩
      · exact .inr ⟨config,List.mem_cons_of_mem _ member,listed⟩
    · rintro (old | ⟨config,member,listed⟩)
      · exact .inl (.inl old)
      · rcases List.mem_cons.mp member with isEntry | later
        · rw [← isEntry]
          exact .inl (.inr ⟨rfl,listed⟩)
        · exact .inr ⟨config,later,listed⟩

theorem in_vlan_iff : in_vlan switch vlan port = true ↔ ∃ config, switch.interfaces.get? port = some config ∧
    vlan ∈ switch.port_vlans port config := by
  have members := collected switch switch.interfaces.entries ∅ vlan port
  rw [← Switch.stp_ports] at members
  constructor
  · intro listed
    obtain ⟨ports,known,isIn⟩ := (Option.any_eq_true _ _).mp listed
    rw [known] at members
    rcases members.mp (List.contains_iff_mem.mp isIn) with empty | ⟨config,member,isVlan⟩
    · exact absurd empty List.not_mem_nil
    · exact ⟨config,(OrderedMap.get?_eq_some _ _ _).mpr member,isVlan⟩
  · rintro ⟨config,known,isVlan⟩
    have isIn := members.mpr (.inr ⟨config,(OrderedMap.get?_eq_some _ _ _).mp known,isVlan⟩)
    rw [in_vlan]
    cases found : switch.stp_ports.get? vlan with
    | none =>
      rw [found] at isIn
      exact absurd isIn List.not_mem_nil
    | some ports =>
      rw [found] at isIn
      exact List.contains_iff_mem.mpr isIn

end Ports

/-! ### What the cables never change -/

section Steps
variable {cables : Cables} {start switch : Switch} {state : State} {vlan : VlanId} {port : InterfaceId} {now : SimTime}
  {tree : StpInstance}

/-- No BPDU of a port is kept. -/
def Silent (port : InterfaceId) (tree : StpInstance) : Prop := tree.received.get? port = none

theorem Silent.recompute (silent : Silent port tree) (bridge : Bridge) (ports : List InterfaceId) (now : SimTime) :
    Silent port (tree.recompute bridge ports now) := by
  rw [Silent,(recompute_correct tree bridge ports now).1]
  show (tree.received.retain _).get? port = none
  rw [OrderedMap.get?_retain,silent]
  rfl

theorem Silent.refresh (silent : Silent port (tree_of switch vlan)) (now : SimTime) :
    Silent port (tree_of (switch.refresh_spanning_tree now) vlan) :=
  refresh_keeps switch now vlan rfl silent (fun _ id ports silent => silent.recompute (switch.bridge id) ports now)

theorem Silent.unplugged (silent : Silent port tree) (interface : InterfaceId) : Silent port (unplugged interface tree) := by
  rw [Silent,StpSync.unplugged,OrderedMap.get?_erase]
  by_cases same : port = interface
  · rw [if_pos same]
  · rw [if_neg same]
    exact silent

variable {interface : InterfaceId}

theorem Silent.arrived (silent : Silent port tree) (other : port ≠ interface) (packet : StpBpdu) (guarded : Bool) :
    Silent port (arrived tree interface packet guarded now) := by
  rw [Silent,StpSync.arrived,OrderedMap.get?_insert,if_neg other]
  exact silent

/-- A BPDU that arrives on another port. -/
theorem Silent.receive (silent : Silent port (tree_of switch vlan)) (other : port ≠ interface) (on : VlanId)
    (packet : StpBpdu) (now : SimTime) :
    Silent port (tree_of (switch.receive_stp_packet interface on packet now).2 vlan) := by
  have consider : ∀ {members id}, switch.bridge_id on = some id →
      Silent port (tree_of (considered switch interface on members id packet now) vlan) := by
    intro members id identified
    rw [considered_tree switch interface members identified packet now vlan]
    by_cases same : vlan = on
    · rw [if_pos same]
      exact ((same ▸ silent.refresh now).arrived other packet _).recompute _ members now
    · rw [if_neg same]
      exact silent.refresh now
  rcases receive_cases switch interface on packet now with ⟨-,-,same⟩ | ⟨-,-,-,guarded⟩ |
    ⟨members,id,-,-,-,identified,⟨-,settled⟩ | ⟨-,-,settled⟩⟩
  · rw [same]
    exact silent
  · rw [guarded,guard_port_tree]
    exact silent.unplugged interface
  · rw [settled]
    exact consider identified
  · have config := considered_config switch interface on members id packet now
    rw [settled,reacted_tree _ interface members ((config.bridge_id on).trans identified) packet now vlan]
    by_cases same : vlan = on
    · subst same
      rw [if_pos rfl]
      refine Silent.recompute ?_ _ members now
      rw [Silent,synchronize_received]
      exact consider identified
    · rw [if_neg same]
      exact consider identified

variable {packet : StpBpdu}

theorem considers_own (own : switch.bridge_id vlan = some packet.configuration.bridge_id) (interface : InterfaceId) :
    considers switch interface vlan packet = none := by
  rw [considers,own]
  cases (switch.stp_ports.get? vlan).filter (·.contains interface) with
  | none => rfl
  | some ports => exact if_pos (by simp)

/-- The switch's own BPDU changes nothing, but for a guarded port. -/
theorem own_ignored (interface : InterfaceId) (own : switch.bridge_id vlan = some packet.configuration.bridge_id)
    (now : SimTime) :
    (switch.receive_stp_packet interface vlan packet now).2 = switch ∨
      bpdu_guard switch interface = true ∧ (switch.receive_stp_packet interface vlan packet now).2 = switch.guard_port interface := by
  rcases receive_cases switch interface vlan packet now with ⟨-,-,same⟩ | ⟨-,-,guard,guarded⟩ | ⟨members,id,taken,-⟩
  · exact .inl same
  · exact .inr ⟨guard,guarded⟩
  · rw [considers_own own interface] at taken
    cases taken

/-- What a run leaves of the configuration, and of the ports at both ends of a cable. -/
structure Deaf (cables : Cables) (start : Switch) (state : State) : Prop where
  config : SameConfig start state.switch
  switching : state.switch.supports_switching = start.supports_switching
  vlans : state.switch.vlans = start.vlans
  guarded : ∀ port, state.switch.stp_errdisabled.contains port = true → bpdu_guard start port = true
  silent : ∀ vlan port, (cables port).isSome = true → Silent port (tree_of state.switch vlan)
  own : ∀ packet ∈ state.wire, start.bridge_id packet.2.1 = some packet.2.2.configuration.bridge_id

/-- Another switch that differs in its trees and learned addresses only. -/
theorem Deaf.trees (deaf : Deaf cables start state) {after : State} (only : TreesOnly state.switch after.switch)
    (silent : ∀ vlan port, (cables port).isSome = true → Silent port (tree_of after.switch vlan))
    (own : ∀ packet ∈ after.wire, start.bridge_id packet.2.1 = some packet.2.2.configuration.bridge_id) :
    Deaf cables start after := by
  obtain ⟨switch,wire⟩ := after
  obtain ⟨trees,addresses,rfl⟩ := only
  exact ⟨deaf.config.trans ⟨rfl,rfl,rfl⟩,deaf.switching,deaf.vlans,deaf.guarded,silent,own⟩

/-- A port that BPDU guard takes down. -/
theorem Deaf.guard_port (deaf : Deaf cables start state) (guard : bpdu_guard state.switch interface = true)
    {wire : List (InterfaceId × VlanId × StpBpdu)}
    (own : ∀ packet ∈ wire, start.bridge_id packet.2.1 = some packet.2.2.configuration.bridge_id) :
    Deaf cables start ⟨state.switch.guard_port interface,wire⟩ where
  config := deaf.config.trans ⟨rfl,rfl,rfl⟩
  switching := deaf.switching
  vlans := deaf.vlans
  guarded := by
    intro port down
    rw [Switch.guard_port,OrderedMap.contains,OrderedMap.get?_insert] at down
    by_cases same : port = interface
    · rw [same]
      rw [bpdu_guard,deaf.config.interfaces] at guard
      exact guard
    · rw [if_neg same] at down
      exact deaf.guarded port down
  silent := by
    intro vlan port cabled
    rw [guard_port_tree]
    exact (deaf.silent vlan port cabled).unplugged interface
  own := own

/-- The BPDUs that a switch sends carry its identity. -/
theorem looped_own (deaf : Deaf cables start state) {packet : InterfaceId × VlanId × StpBpdu}
    (sent : packet ∈ looped cables (state.switch.stp_packets now).1) :
    start.bridge_id packet.2.1 = some packet.2.2.configuration.bridge_id := by
  obtain ⟨⟨sender,vlan,bpdu⟩,member,reaches⟩ := List.mem_filterMap.mp sent
  obtain ⟨other,-,rfl⟩ := Option.map_eq_some_iff.mp reaches
  obtain ⟨id,role,entry,identified,-,made⟩ := sent_packet member
  rw [((refresh_config state.switch now).bridge_id vlan),deaf.config.bridge_id] at identified
  exact identified.trans (congrArg some (stp_packet_flags made).1.symm)

/-- One event. -/
theorem Deaf.apply (deaf : Deaf cables start state) (event : Event) : Deaf cables start (apply cables state event) := by
  cases event with
  | refresh now =>
    exact deaf.trees (refresh_trees state.switch now) (fun vlan port cabled => (deaf.silent vlan port cabled).refresh now) deaf.own
  | send now =>
    refine deaf.trees (refresh_trees state.switch now) (fun vlan port cabled => (deaf.silent vlan port cabled).refresh now) ?_
    intro packet member
    rcases List.mem_append.mp member with old | sent
    · exact deaf.own packet old
    · exact looped_own deaf sent
  | arrive index now =>
    rw [SelfLinks.apply]
    cases found : state.wire[index]? with
    | none => exact deaf
    | some packet =>
      obtain ⟨port,vlan,bpdu⟩ := packet
      have rest : ∀ packet ∈ state.wire.eraseIdx index, start.bridge_id packet.2.1 =
          some packet.2.2.configuration.bridge_id :=
        fun packet member => deaf.own packet (List.mem_of_mem_eraseIdx member)
      have isOwn := deaf.own (port,vlan,bpdu) (List.mem_of_getElem? found)
      have identity : state.switch.bridge_id vlan = some bpdu.configuration.bridge_id :=
        (deaf.config.bridge_id vlan).trans isOwn
      dsimp only
      rcases own_ignored port identity now with same | ⟨guard,guarded⟩
      · rw [same]
        exact deaf.trees (.refl _) deaf.silent rest
      · rw [guarded]
        exact deaf.guard_port guard rest
  | hear interface vlan packet now =>
    rw [SelfLinks.apply]
    by_cases cabled : (cables interface).isSome = true
    · rw [if_pos cabled]
      exact deaf
    · rw [if_neg cabled]
      have silent : ∀ on port, (cables port).isSome = true →
          Silent port (tree_of (state.switch.receive_stp_packet interface vlan packet now).2 on) := by
        intro on port isCabled
        refine (deaf.silent on port isCabled).receive ?_ vlan packet now
        rintro rfl
        exact cabled isCabled
      rcases receive_cases state.switch interface vlan packet now with ⟨-,-,same⟩ | ⟨-,-,guard,guarded⟩ |
        ⟨members,id,-,-,-,-,⟨-,settled⟩ | ⟨-,-,settled⟩⟩
      · rw [same]
        exact deaf
      · rw [guarded]
        exact deaf.guard_port guard deaf.own
      · refine deaf.trees ?_ silent deaf.own
        rw [settled]
        exact considered_trees state.switch interface vlan members id packet now
      · refine deaf.trees ?_ silent deaf.own
        rw [settled]
        exact (considered_trees state.switch interface vlan members id packet now).trans
          (reacted_trees _ interface vlan members packet now)

/-- Without BPDU guard the switch's own BPDU does nothing at all. -/
theorem own_unnoticed (own : switch.bridge_id vlan = some packet.configuration.bridge_id)
    (unguarded : bpdu_guard switch interface = false) (now : SimTime) :
    switch.receive_stp_packet interface vlan packet now = (false,switch) := by
  rw [Switch.receive_stp_packet]
  cases (switch.stp_ports.get? vlan).filter (·.contains interface) with
  | none => rfl
  | some members =>
    dsimp only
    rw [bpdu_guard] at unguarded
    rw [unguarded,if_neg Bool.false_ne_true,own]
    exact if_pos rfl

theorem Deaf.arrive_unguarded (deaf : Deaf cables start state) (unguarded : ∀ port, bpdu_guard start port = false)
    (index : Nat) (now : SimTime) : (SelfLinks.apply cables state (.arrive index now)).switch = state.switch := by
  rw [SelfLinks.apply]
  cases found : state.wire[index]? with
  | none => rfl
  | some packet =>
    have own := deaf.own packet (List.mem_of_getElem? found)
    rw [← deaf.config.bridge_id] at own
    have open_port : bpdu_guard state.switch packet.1 = false := by
      rw [bpdu_guard,deaf.config.interfaces]
      exact unguarded packet.1
    exact congrArg (·.2) (own_unnoticed own open_port now)

/-- A whole run. -/
theorem Deaf.run (deaf : Deaf cables start state) (events : List Event) :
    Deaf cables start (events.foldl (SelfLinks.apply cables) state) := by
  induction events generalizing state with
  | nil => exact deaf
  | cons event rest ih => exact ih (deaf.apply event)

/-! ### Quiescent states -/

/-- A port without a BPDU forwards once the forward delays are over. -/
theorem port_state_settled {bridge : Bridge} {role : StpPortRole} {since : SimTime} (silent : Silent port tree)
    (active : role ≠ .Alternate) (delays : since.toNat + 30000000 ≤ now.toNat) :
    tree.port_state bridge port role since now = .Forwarding := by
  have elapsed : (satSub64 now since).toNat = now.toNat - since.toNat := satSub64_toNat now since
  have short : ¬ satSub64 now since < 15000000 := by
    rw [UInt64.lt_iff_toNat_lt,elapsed,show (15000000 : UInt64).toNat = 15000000 from rfl]
    omega
  have long : ¬ satSub64 now since < 30000000 := by
    rw [UInt64.lt_iff_toNat_lt,elapsed,show (30000000 : UInt64).toNat = 30000000 from rfl]
    omega
  rw [port_state,silent]
  rw [if_neg (by simp [active]),if_neg short,if_neg long]
  split <;> rfl

/-- A port of the VLAN that never heard a BPDU forwards. -/
theorem forwards_of_silent (switching : switch.supports_switching = true) (listed : in_vlan switch vlan port = true)
    (silent : Silent port (tree_of switch vlan))
    (waited : ∀ entry ∈ (tree_of (switch.refresh_spanning_tree now) vlan).transitions.entries, entry.2.toNat + 30000000 ≤ now.toNat) :
    forwards switch vlan port now = true := by
  have deaf := silent.refresh now
  obtain ⟨ports,known,isIn⟩ := (Option.any_eq_true _ _).mp listed
  rcases refresh_tree switching now vlan with ⟨unlisted,-⟩ | ⟨before,id,members,-,isMembers,isTree⟩
  · rw [unlisted] at known
    cases known
  · rw [isMembers] at known
    cases known
    rw [forwards]
    rw [isTree] at waited deaf ⊢
    obtain ⟨kept,elected,inside,-⟩ := recompute_correct before (switch.bridge id) ports now
    obtain ⟨-,-,states⟩ := recompute_timers before (switch.bridge id) ports now port
    -- a root port has heard the root
    have notRoot : (before.recompute (switch.bridge id) ports now).root_port ≠ some port := by
      intro isRoot
      rw [isRoot] at elected
      rcases elected_cases (before.prune ports now) (switch.bridge id) with ⟨own,-⟩ | ⟨other,received,heard,-,offered,-⟩
      · rw [own] at elected
        cases congrArg (·.2.2) elected
      · rw [offered] at elected
        have same : port = other := Option.some.inj (congrArg (·.2.2) elected)
        rw [Silent,kept,same,heard] at deaf
        cases deaf
    have isRole : (before.recompute (switch.bridge id) ports now).port_role (switch.bridge id) port = .Designated := by
      rw [port_role,deaf]
      dsimp only
      rw [if_neg (fun same => notRoot same.symm)]
      rfl
    have hasRole := inside port (List.contains_iff_mem.mp isIn)
    rw [isRole] at hasRole
    obtain ⟨⟨role,state⟩,lookup,rfl⟩ := Option.map_eq_some_iff.mp hasRole
    obtain ⟨since,started,isState⟩ := states .Designated state lookup
    have delays := waited (port,since) ((OrderedMap.get?_eq_some _ _ _).mp started)
    rw [lookup,isState,port_state_settled deaf (by simp) delays]
    rfl

/-- A port outside the VLAN does not forward. -/
theorem not_forwards (switching : switch.supports_switching = true) (unlisted : in_vlan switch vlan port = false)
    (now : SimTime) :
    forwards switch vlan port now = false := by
  rw [forwards]
  rcases refresh_tree switching now vlan with ⟨-,empty⟩ | ⟨before,id,members,-,isMembers,isTree⟩
  · rw [empty]
    rfl
  · obtain ⟨-,-,-,outside⟩ := recompute_correct before (switch.bridge id) members now
    rw [in_vlan,isMembers] at unlisted
    rw [isTree,outside port (fun member => by simp [member] at unlisted)]
    rfl

/-- The ports of a VLAN are the configured ones that are not taken down. -/
theorem Deaf.in_vlan (deaf : Deaf cables start state) (clear : start.stp_errdisabled = ∅) (vlan : VlanId)
    (port : InterfaceId) :
    in_vlan state.switch vlan port = (in_vlan start vlan port && !state.switch.stp_errdisabled.contains port) := by
  have members : ∀ config, state.switch.port_vlans port config =
      if state.switch.stp_errdisabled.contains port then [] else start.port_vlans port config := by
    intro config
    rw [Switch.port_vlans,Switch.port_vlans,Switch.protocol_up,Switch.protocol_up,deaf.config.interfaces,deaf.vlans,clear]
    cases state.switch.stp_errdisabled.contains port with
    | true => simp
    | false => rfl
  rw [Bool.eq_iff_iff,Bool.and_eq_true,in_vlan_iff,in_vlan_iff,deaf.config.interfaces]
  constructor
  · rintro ⟨config,known,isVlan⟩
    rw [members] at isVlan
    cases down : state.switch.stp_errdisabled.contains port with
    | true =>
      rw [down] at isVlan
      cases isVlan
    | false =>
      rw [down] at isVlan
      exact ⟨⟨config,known,isVlan⟩,rfl⟩
  · rintro ⟨⟨config,known,isVlan⟩,up⟩
    refine ⟨config,known,?_⟩
    rw [members,if_neg (by simpa using up)]
    exact isVlan

/-- A guarded port that would still hear the switch itself is not quiet. -/
theorem guard_reports (listed : in_vlan switch vlan interface = true) (guard : bpdu_guard switch interface = true)
    (now : SimTime) :
    (switch.receive_stp_packet interface vlan packet now).1 = true := by
  obtain ⟨ports,known,isIn⟩ := (Option.any_eq_true _ _).mp listed
  rw [Switch.receive_stp_packet,known,Option.filter_some,if_pos isIn]
  dsimp only
  rw [bpdu_guard] at guard
  rw [if_pos guard]

end Steps

/-- A switch before its first BPDU. -/
structure Fresh (switch : Switch) : Prop where
  switching : switch.supports_switching = true
  empty : switch.stp_runtime = ∅
  clear : switch.stp_errdisabled = ∅

theorem Fresh.deaf {switch : Switch} (fresh : Fresh switch) (cables : Cables) : Deaf cables switch ⟨switch,[]⟩ where
  config := .refl switch
  switching := rfl
  vlans := rfl
  guarded := by
    intro port down
    rw [fresh.clear] at down
    cases down
  silent := by
    intro vlan port _
    rw [tree_of,fresh.empty]
    rfl
  own := fun _ member => absurd member List.not_mem_nil

/-- Both ends of a cable forward in every quiescent state, unless BPDU guard has taken one of them down. It takes down
    guarded ports only, and one of the two as soon as a guarded one hears the other. -/
theorem self_link_forwards (cables : Cables) (switch : Switch) (fresh : Fresh switch) (events : List Event) (vlan : VlanId)
    (now : SimTime) (quiescent : Quiescent cables vlan now (run cables switch events).switch) (first second : InterfaceId)
    (there : cables first = some second) (back : cables second = some first) (firstListed : in_vlan switch vlan first = true)
    (secondListed : in_vlan switch vlan second = true) :
    let final := (run cables switch events).switch
    (¬ (forwards final vlan first now = true ∧ forwards final vlan second now = true) ↔
      final.stp_errdisabled.contains first = true ∨ final.stp_errdisabled.contains second = true) ∧
    (∀ port, final.stp_errdisabled.contains port = true → bpdu_guard switch port = true) ∧
    ∀ packet, (second,vlan,packet) ∈ (final.stp_packets now).1 → bpdu_guard switch first = true →
      final.stp_errdisabled.contains first = true := by
  intro final
  have deaf : Deaf cables switch (run cables switch events) := (fresh.deaf cables).run events
  have switching : final.supports_switching = true := deaf.switching.trans fresh.switching
  have listed : ∀ port, in_vlan switch vlan port = true → final.stp_errdisabled.contains port = false →
      in_vlan final vlan port = true := by
    intro port isListed up
    rw [deaf.in_vlan fresh.clear,isListed,up]
    rfl
  have unlisted : ∀ port, final.stp_errdisabled.contains port = true → in_vlan final vlan port = false := by
    intro port down
    rw [deaf.in_vlan fresh.clear,down,Bool.not_true,Bool.and_false]
  have open_ends : ∀ port, (cables port).isSome = true → in_vlan switch vlan port = true →
      final.stp_errdisabled.contains port = false → forwards final vlan port now = true :=
    fun port cabled isListed up => forwards_of_silent switching (listed port isListed up) (deaf.silent vlan port cabled) quiescent.1
  refine ⟨⟨?_,?_⟩,deaf.guarded,?_⟩
  · intro one
    by_contra neither
    rw [not_or,Bool.not_eq_true,Bool.not_eq_true] at neither
    exact one ⟨open_ends first (by rw [there]; rfl) firstListed neither.1,open_ends second (by rw [back]; rfl) secondListed neither.2⟩
  · rintro (down | down) ⟨firstOpen,secondOpen⟩
    · rw [not_forwards switching (unlisted first down)] at firstOpen
      cases firstOpen
    · rw [not_forwards switching (unlisted second down)] at secondOpen
      cases secondOpen
  · intro packet sent guard
    by_contra up
    rw [Bool.not_eq_true] at up
    have reaches : (first,vlan,packet) ∈ looped cables (final.stp_packets now).1 :=
      List.mem_filterMap.mpr ⟨(second,vlan,packet),sent,by rw [back]; rfl⟩
    have quiet := quiescent.2 _ reaches
    obtain ⟨trees,addresses,isRefreshed⟩ := refresh_trees final now
    have present : in_vlan (final.refresh_spanning_tree now) vlan first = true := by
      rw [isRefreshed]
      exact listed first firstListed up
    have isGuard : bpdu_guard (final.refresh_spanning_tree now) first = true := by
      rw [isRefreshed,bpdu_guard]
      rw [bpdu_guard,← deaf.config.interfaces] at guard
      exact guard
    rw [guard_reports present isGuard now] at quiet
    cases quiet

/-! ### A cable that loops -/

/-- A switch with two access ports. -/
def two_ends : Switch := ⟨true,OrderedMap.ofList [(1,access_port 1 false),(2,access_port 2 false)],[1],false,∅,∅,∅,∅⟩

/-- The cable between them. -/
def cable : Cables := fun port => if port = 1 then some 2 else if port = 2 then some 1 else none

/-- Both ports exchange their BPDUs. -/
def exchange : List Event := [.send 0,.arrive 0 0,.arrive 0 0]

theorem two_ends_fresh : Fresh two_ends := ⟨rfl,rfl,rfl⟩

theorem two_ends_unguarded (port : InterfaceId) : bpdu_guard two_ends port = false := by
  rw [Bool.eq_false_iff]
  intro guard
  obtain ⟨config,known,isGuard⟩ := (Option.any_eq_true _ _).mp guard
  have each : ∀ entry ∈ two_ends.interfaces.entries, entry.2.spanning_tree.bpdu_guard = false := by decide +kernel
  rw [each _ ((OrderedMap.get?_eq_some _ _ _).mp known)] at isGuard
  cases isGuard

/-- The exchange changes nothing after the first refresh. -/
theorem exchanged : (run cable two_ends exchange).switch = two_ends.refresh_spanning_tree 0 := by
  have sent := (two_ends_fresh.deaf cable).apply (.send 0)
  have first := sent.apply (.arrive 0 0)
  exact (first.arrive_unguarded two_ends_unguarded 0 0).trans (sent.arrive_unguarded two_ends_unguarded 0 0)

/-- Both ports have had their role since the start. -/
theorem two_ends_transitions :
    (tree_of ((two_ends.refresh_spanning_tree 0).refresh_spanning_tree 31000000) 1).transitions.entries = [(1,0),(2,0)] := by
  decide +kernel

theorem two_ends_quiescent : Quiescent cable 1 31000000 (run cable two_ends exchange).switch := by
  have deaf : Deaf cable two_ends (run cable two_ends exchange) := (two_ends_fresh.deaf cable).run exchange
  refine ⟨?_,?_⟩
  · rw [exchanged,two_ends_transitions]
    intro entry member
    rw [List.mem_cons,List.mem_singleton] at member
    rcases member with rfl | rfl <;> decide +kernel
  · intro packet sent
    have own := looped_own deaf sent
    have config := deaf.config.trans (refresh_config _ 31000000)
    rw [← config.bridge_id] at own
    have unguarded : bpdu_guard ((run cable two_ends exchange).switch.refresh_spanning_tree 31000000) packet.1 = false := by
      rw [bpdu_guard,config.interfaces]
      exact two_ends_unguarded packet.1
    rw [own_unnoticed own unguarded 31000000]

theorem both_forward : forwards (run cable two_ends exchange).switch 1 1 31000000 = true ∧
    forwards (run cable two_ends exchange).switch 1 2 31000000 = true := by
  rw [exchanged]
  decide +kernel

theorem self_link_forwards_pair :
    let final := (run cable two_ends exchange).switch
    (¬ (forwards final 1 1 31000000 = true ∧ forwards final 1 2 31000000 = true) ↔
      final.stp_errdisabled.contains 1 = true ∨ final.stp_errdisabled.contains 2 = true) ∧
    (∀ port, final.stp_errdisabled.contains port = true → bpdu_guard two_ends port = true) ∧
    ∀ packet, (2,1,packet) ∈ (final.stp_packets 31000000).1 → bpdu_guard two_ends 1 = true →
        final.stp_errdisabled.contains 1 = true :=
  self_link_forwards cable two_ends two_ends_fresh exchange 1 31000000 two_ends_quiescent 1 2 rfl rfl (by decide +kernel)
    (by decide +kernel)

/-- Both ends of the cable forward. -/
theorem both_ends_forward :
    ¬ ∀ (cables : Cables) (switch : Switch), Fresh switch → ∀ (events : List Event) (vlan : VlanId) (now : SimTime),
      Quiescent cables vlan now (run cables switch events).switch → ∀ first second, cables first = some second →
        cables second = some first → in_vlan switch vlan first = true → in_vlan switch vlan second = true →
          ¬ (forwards (run cables switch events).switch vlan first now = true ∧
            forwards (run cables switch events).switch vlan second now = true) := by
  intro loop_free
  exact loop_free cable two_ends two_ends_fresh exchange 1 31000000 two_ends_quiescent 1 2 rfl rfl (by decide +kernel)
    (by decide +kernel)
    both_forward

end Rios.SelfLinks
