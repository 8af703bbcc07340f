import Rios.Lacp
import Rios.Link
import Rios.Vlan

/-!
# Devices at their cables

What a device checks and counts where a cable ends: the boundary checks of a frame,
the port channel behind a member, line protocol and carrier. What its protocols know
and answer is left open.
-/

namespace Rios.Ports
open Rios.Machine Rios.Device
open Rios.Lacp (ChannelMembership)
open Rios.Qos (QueueClassConfig)
open Rios.Vlan (EthernetFrame VlanId SwitchportConfig)

/-- `EthernetFrame::len`: a header of 14 bytes and the payload. -/
def frame_len (frame : EthernetFrame) : Nat := 14 + frame.payload.length

theorem six_octets : 0 < 6 := by decide

/-- `MacAddress::is_multicast`. -/
def is_multicast (address : MacAddress) : Bool := address.octets.get ⟨0,six_octets⟩ &&& 1 ≠ 0

/-- Observable reasons a virtual interface discards a frame. -/
inductive DropReason where
  | QosPoliced
  | QosPriorityExceeded
  | QosBurstExceeded
  | QosPolicyChanged
  | VlanFiltered
  | MalformedPacket
  | NeighborUnreachable
  | ChannelInactive
  | NatFailed
  | QueueFull
  | SimulatedLoss
  | LinkDown
  | StpBlocking
  | InterfaceDown
  | NoLink
  | LinkChanged
  | MtuExceeded
  | NotForInterface
  | NotEthernet
  | InvalidEtherType
  | AccessList
deriving DecidableEq

inductive DeviceError where
  | MissingInterface
  | InvalidQosConfig
deriving DecidableEq

inductive LinkState where
  | Down
  | Up
deriving DecidableEq

inductive AdminState where
  | Down
  | Up
deriving DecidableEq

/-- Interface medium and its carrier behavior. -/
inductive InterfaceKind where
  | GigabitEthernet
  | TenGigabitEthernet
  | EthernetSubinterface
  | PortChannel
  | Serial
  | Console
  | Loopback
  | Vlan
deriving DecidableEq

/-- Whether this interface carries Ethernet frames through virtual links. -/
def InterfaceKind.is_ethernet : InterfaceKind → Bool
  | .GigabitEthernet | .TenGigabitEthernet => true
  | _ => false

/-- Physical connector or transceiver presented by an interface. -/
inductive InterfaceMedia where
  | Rj45
  | Sfp
  | SfpPlus
  | Serial
  | Console
  | Virtual
deriving DecidableEq

/-- Runtime traffic counters. A reason without an entry was counted zero times. -/
structure InterfaceCounters where
  drop_reasons : DropReason → UInt64
  rx_packets : UInt64
  tx_packets : UInt64
  rx_bytes : UInt64
  tx_bytes : UInt64
  drops : UInt64

def InterfaceCounters.default : InterfaceCounters := ⟨fun _ => 0,0,0,0,0,0⟩

/-- An interface with its entry in the running configuration. -/
structure Interface where
  kind : InterfaceKind
  media : InterfaceMedia
  mac_address : MacAddress
  link_state : LinkState
  counters : InterfaceCounters
  admin_state : AdminState
  mtu : UInt16
  switchport : Option SwitchportConfig
  channel_group : Option ChannelMembership
  port_channel : Option UInt16
  dot1q : Bool
  parent : Option InterfaceId

/-- A class of an output policy with its scheduling settings. -/
structure QosProfileClass where
  «class» : Option UInt64
  name : String
  scheduling : QueueClassConfig
deriving DecidableEq

/-- Immutable queue configuration of a port. -/
structure QosProfile where
  mtu : UInt16
  id : UInt64
  name : String
  classes : List QosProfileClass
deriving DecidableEq

/-- A device: its interfaces, the VLANs it has, and everything its protocols keep. -/
structure Device (δ : Type) where
  interfaces : OrderedMap InterfaceId Interface
  stp_errdisabled : Finset InterfaceId
  vlans : Finset VlanId
  rest : δ

/-- What the protocols of a device answer, and what they forget when a port loses its carrier. -/
structure Behaviour (δ : Type) where
  lacp_distributing : Device δ → InterfaceId → Bool
  stp_forwarding : Device δ → InterfaceId → VlanId → Bool
  svi_up : Device δ → InterfaceId → Bool
  forget_port : Device δ → InterfaceId → δ
  qos_profile : Device δ → InterfaceId → Option UInt64 → Option QosProfile
  qos_classify : Device δ → UInt64 → EthernetFrame → Option Nat

namespace Device
variable {δ : Type} (net : Behaviour δ) (self : Device δ)

def is_switchport (id : InterfaceId) : Bool := (self.interfaces.get? id).any (·.switchport.isSome)

/-- The part of `protocol_up` that all interfaces share. -/
def enabled (id : InterfaceId) (interface : Interface) : Bool :=
  id ∉ self.stp_errdisabled && interface.admin_state = .Up

/-- `protocol_up` of an interface that does not rest on others. -/
def line_up (id : InterfaceId) : Bool :=
  (self.interfaces.get? id).any (fun interface => self.enabled id interface &&
    match interface.kind with
    | .Loopback => true
    | .GigabitEthernet | .TenGigabitEthernet | .Vlan => interface.link_state = .Up
    | _ => false)

/-- The logical port of a member. -/
def channel_interface (member : InterfaceId) : Option InterfaceId :=
  ((self.interfaces.get? member).bind (·.channel_group)).bind (fun group =>
    (self.interfaces.entries.find? (fun entry => entry.2.port_channel = some group.number)).map (·.1))

/-- Active members in stable interface-ID order. -/
def channel_members (logical : InterfaceId) : List InterfaceId :=
  match self.interfaces.get? logical with
  | none => []
  | some bundle =>
    match bundle.port_channel with
    | none => []
    | some number =>
      (self.interfaces.entries.filter (fun entry =>
        entry.2.channel_group.any (fun group => group.number = number && (group.mode = .On || net.lacp_distributing self entry.1)) &&
          entry.2.switchport = bundle.switchport && entry.2.mtu = bundle.mtu && self.line_up entry.1)).map (·.1)

/-- `protocol_up` of everything but a subinterface. -/
def bundle_up (id : InterfaceId) : Bool :=
  match self.interfaces.get? id with
  | none => false
  | some interface =>
    if interface.kind = .PortChannel then self.enabled id interface && !(self.channel_members net id).isEmpty
    else self.line_up id

/-- Effective line protocol state includes administrative and carrier state. -/
def protocol_up (id : InterfaceId) : Bool :=
  match self.interfaces.get? id with
  | none => false
  | some interface =>
    if interface.kind = .EthernetSubinterface then
      self.enabled id interface && interface.dot1q &&
        interface.parent.any (fun parent => self.bundle_up net parent && !self.is_switchport parent)
    else self.bundle_up net id

/-- Map a collecting member to its logical port. -/
def channel_ingress (member : InterfaceId) : Except DropReason InterfaceId :=
  match self.channel_interface member with
  | none => .ok member
  | some logical =>
    if self.protocol_up net logical && member ∈ self.channel_members net logical then .ok logical
    else .error .ChannelInactive

/-- The payload length that counts against the MTU: a tag is free. -/
def payload_len (frame : EthernetFrame) : Nat :=
  if frame.ethertype = .Dot1Q then frame.payload.length - 4 else frame.payload.length

/-- Whether a received frame is meant for a routed interface. -/
def addressed (id : InterfaceId) (interface : Interface) (frame : EthernetFrame) : Bool :=
  self.is_switchport id || frame.destination = interface.mac_address ||
    (self.channel_interface id).any (fun logical =>
      (self.interfaces.get? logical).any (fun bundle => bundle.mac_address = frame.destination)) ||
    is_multicast frame.destination

/-- Validate a frame at the interface boundary without changing counters. -/
def check_frame (id : InterfaceId) (frame : EthernetFrame) (receive : Bool) : Except DropReason Unit :=
  match self.interfaces.get? id with
  | none => .error .NotEthernet
  | some interface =>
    if !interface.kind.is_ethernet then .error .NotEthernet
    else if !self.protocol_up net id then .error .InterfaceDown
    else if interface.mtu.toNat < payload_len frame then .error .MtuExceeded
    else if !frame.valid_length_or_type then .error .InvalidEtherType
    else if receive && !self.addressed id interface frame then .error .NotForInterface
    else .ok ()

variable {net self}

/-- The device with one interface changed, or an error if it has no such interface. -/
def update (self : Device δ) (id : InterfaceId) (change : Interface → Interface) : Except DeviceError (Device δ) :=
  match self.interfaces.get? id with
  | none => .error .MissingInterface
  | some interface => .ok { self with interfaces := self.interfaces.insert id (change interface) }

/-- Account for a drop with its observable reason. -/
def record_drop_reason (self : Device δ) (id : InterfaceId) (reason : DropReason) : Except DeviceError (Device δ) :=
  self.update id (fun interface => { interface with counters := { interface.counters with
    drops := satAdd64 interface.counters.drops 1
    drop_reasons := Function.update interface.counters.drop_reasons reason (satAdd64 (interface.counters.drop_reasons reason) 1) } })

/-- Account for an accepted frame. -/
def record_frame (self : Device δ) (id : InterfaceId) (length : Nat) (receive : Bool) : Except DeviceError (Device δ) :=
  self.update id (fun interface => { interface with counters :=
    if receive then { interface.counters with
      rx_packets := satAdd64 interface.counters.rx_packets 1
      rx_bytes := satAdd64 interface.counters.rx_bytes (Link.bytes_u64 length) }
    else { interface.counters with
      tx_packets := satAdd64 interface.counters.tx_packets 1
      tx_bytes := satAdd64 interface.counters.tx_bytes (Link.bytes_u64 length) } })

/-- Update physical carrier from the simulation layer. -/
def set_link_state (net : Behaviour δ) (self : Device δ) (id : InterfaceId) (state : LinkState) :
    Except DeviceError (Device δ) :=
  match self.update id (fun interface => { interface with link_state := state }) with
  | .error error => .error error
  | .ok after => .ok (if state = .Down then { after with rest := net.forget_port self id } else after)

/-- Recompute SVI autostate. -/
def refresh_svi_states (net : Behaviour δ) (self : Device δ) : Device δ :=
  { self with interfaces := self.interfaces.mapValues (fun id interface =>
    if interface.kind = .Vlan then { interface with link_state := if net.svi_up self id then .Up else .Down } else interface) }

/-! ### No interface disappears -/

/-- Every interface of a device is still there later. -/
def Keeps (before after : Device δ) : Prop := ∀ id, before.interfaces.contains id = true →
    after.interfaces.contains id = true

theorem Keeps.refl (self : Device δ) : Keeps self self := fun _ held => held

theorem Keeps.trans {a b c : Device δ} (first : Keeps a b) (second : Keeps b c) : Keeps a c :=
  fun id held => second id (first id held)

theorem update_keeps {id : InterfaceId} {change : Interface → Interface} {after : Device δ}
    (updated : self.update id change = .ok after) : Keeps self after := by
  unfold update at updated
  cases found : self.interfaces.get? id with
  | none => simp [found] at updated
  | some interface =>
    rw [found] at updated
    obtain rfl := Except.ok.inj updated
    intro other held
    rw [OrderedMap.contains_iff] at held ⊢
    rw [OrderedMap.get?_insert]
    by_cases same : other = id
    · exact ⟨change interface,if_pos same⟩
    · rw [if_neg same]
      exact held

/-- An interface that exists can be updated. -/
theorem update_ok {id : InterfaceId} (held : self.interfaces.contains id = true) (change : Interface → Interface) :
    ∃ after, self.update id change = .ok after := by
  obtain ⟨interface,found⟩ := (OrderedMap.contains_iff _ _).mp held
  exact ⟨_,by rw [update,found]⟩

theorem set_link_state_keeps {id : InterfaceId} {state : LinkState} {after : Device δ}
    (updated : self.set_link_state net id state = .ok after) : Keeps self after := by
  unfold set_link_state at updated
  cases changed : self.update id (fun interface => { interface with link_state := state }) with
  | error error => simp [changed] at updated
  | ok middle =>
    rw [changed] at updated
    obtain rfl := Except.ok.inj updated
    have kept : Keeps self middle := update_keeps changed
    by_cases down : state = .Down
    · rw [if_pos down]
      exact kept
    · rw [if_neg down]
      exact kept

theorem refresh_svi_states_keeps (net : Behaviour δ) (self : Device δ) : Keeps self (self.refresh_svi_states net) := by
  intro id held
  obtain ⟨interface,found⟩ := (OrderedMap.contains_iff _ _).mp held
  rw [OrderedMap.contains_iff]
  exact ⟨_,by rw [refresh_svi_states,OrderedMap.get?_mapValues,found]; rfl⟩

end Device
end Rios.Ports
