import Rios.Arp
import Rios.Ports
import Rios.Programs

/-!
# The lab

Devices, cables, the clock and the traffic on its way: carrier, the admission of a
frame to a cable, its arrival, and the output queues in front of cables with a
service policy. What a device's protocols do in answer to an event is any sequence
of the calls they make on the lab.
-/

namespace Rios
open Rios.Machine Rios.Link Rios.Ports Rios.Programs
open Rios.Device hiding DeviceError
open Rios.Arp (InterfaceRef)
open Rios.Queue (SimTime ScheduledEvent ScheduleError EventQueue)
open Rios.Qos (QosScheduler QueueRejectReason)
open Rios.Vlan (EtherType EthernetFrame)
open Rios.Wire (u16_at)

namespace Lab

/-- Topology, device, scheduling and delivery failures. -/
inductive LabError where
  | InvalidTopology (message : String)
  | UnknownDevice (device : UInt64)
  | UnknownEndpoint (endpoint : InterfaceRef)
  | UnknownLink (link : UInt64)
  | Dropped (reason : DropReason)
  | Device (error : DeviceError)
  | Schedule (error : ScheduleError)
  | Capacity
  | Protocol
deriving DecidableEq

/-- Point-to-point virtual cable. -/
structure Link where
  id : UInt64
  endpoint_a : InterfaceRef
  endpoint_b : InterfaceRef
  state : LinkState
  config : LinkConfig
  a_to_b : DirectionalLinkRuntime
  b_to_a : DirectionalLinkRuntime
  active : Bool
  generation : UInt64

namespace Link

/-- The transmitter that an endpoint sends on. -/
def direction (link : Link) (source : InterfaceRef) : DirectionalLinkRuntime :=
  if source = link.endpoint_a then link.a_to_b else link.b_to_a

def with_direction (link : Link) (source : InterfaceRef) (runtime : DirectionalLinkRuntime) : Link :=
  if source = link.endpoint_a then { link with a_to_b := runtime } else { link with b_to_a := runtime }

def target (link : Link) (source : InterfaceRef) : InterfaceRef :=
  if source = link.endpoint_a then link.endpoint_b else link.endpoint_a

/-- A cable that carries traffic again or no longer: its reservations are void. -/
def switched (link : Link) (active : Bool) (generation : UInt64) : Link :=
  { link with active, generation, a_to_b := link.a_to_b.reset, b_to_a := link.b_to_a.reset }

end Link

/-- Events of the lab. The timers of the protocols are those of `τ`. -/
inductive SimulationEvent (τ : Type) where
  | QosTransmit (source : InterfaceRef) (epoch : UInt64)
  | FrameReceived (link generation : UInt64) (interface : InterfaceRef) (frame : EthernetFrame) (source : InterfaceRef)
    (lost : Bool)
  | LinkStateChanged (link : UInt64) (state : LinkState)
  | TimerExpired (timer : UInt64)
  | Protocol (timer : τ)
deriving DecidableEq

/-- Observable result of one simulation step. -/
inductive EventOutcome where
  | FrameReceived (interface : InterfaceRef) (frame : EthernetFrame)
  | FrameDropped (interface : InterfaceRef) (reason : DropReason)
  | LinkStateChanged (link : UInt64) (state : LinkState)
  | TimerExpired (timer : UInt64)
deriving DecidableEq

/-- The output queue of a port with a service policy. -/
structure QosPortRuntime where
  profile : QosProfile
  link : UInt64
  generation : UInt64
  capacity : Nat
  queue : QosScheduler EthernetFrame
  wakes : OrderedMap SimTime UInt64

variable {δ τ : Type}

/-- A frame that was admitted, as its event, with the cable that admitted it and the loss that was drawn. -/
structure Shipment (τ : Type) where
  event : ScheduledEvent (SimulationEvent τ)
  link : Link
  loss_sample : UInt64

/-- A frame whose event was consumed, with the cable found then and what was decided. -/
structure Arrival (τ : Type) where
  event : ScheduledEvent (SimulationEvent τ)
  link : Option Link
  check : Except DropReason Unit

end Lab

/-- Single owner of a lab's devices, links, clock and pending traffic. Two histories
    are added: the frames that were admitted and those that were consumed. -/
structure Lab {τ : Type} (heap : MaxHeap (ScheduledEvent (Lab.SimulationEvent τ)) ScheduledEvent.cmp) (δ : Type) where
  qos_queues : OrderedMap InterfaceRef Lab.QosPortRuntime
  qos_epoch : UInt64
  rng : SimulationRng
  next_link_id : UInt64
  devices : OrderedMap UInt64 (Ports.Device δ)
  links : OrderedMap UInt64 Lab.Link
  ports : OrderedMap InterfaceRef UInt64
  events : EventQueue heap
  sent : List (Lab.Shipment τ)
  arrived : List (Lab.Arrival τ)

namespace Lab
variable {heap : MaxHeap (ScheduledEvent (SimulationEvent τ)) ScheduledEvent.cmp}

/-- `Lab::with_seed`. -/
def with_seed (heap : MaxHeap (ScheduledEvent (SimulationEvent τ)) ScheduledEvent.cmp) (δ : Type) (seed : UInt64) :
    Lab heap δ :=
  ⟨∅,0,⟨seed⟩,0,∅,∅,∅,.default heap,[],[]⟩

/-- A call on the lab that may fail. -/
abbrev LabM (heap : MaxHeap (ScheduledEvent (SimulationEvent τ)) ScheduledEvent.cmp) (δ : Type) :=
  Program (Lab heap δ) LabError

variable (net : Behaviour δ)

def now (self : Lab heap δ) : SimTime := self.events.now

/-- The cable at an endpoint. -/
def link_at (self : Lab heap δ) (source : InterfaceRef) : Option (UInt64 × Link) :=
  (self.ports.get? source).bind (fun id => (self.links.get? id).map (fun link => (id,link)))

/-- `Lab::device`. -/
def device (id : UInt64) : LabM heap δ (Ports.Device δ) := do
  let lab ← get
  require (lab.devices.get? id) (.UnknownDevice id)

/-- A method of a device that changes it and may fail. -/
def update_device (id : UInt64) (missing : LabError) (method : Ports.Device δ → Except DeviceError (Ports.Device δ)) :
    LabM heap δ PUnit := do
  let lab ← get
  let device ← require (lab.devices.get? id) missing
  let after ← attempt .Device (method device)
  modify (fun lab => { lab with devices := lab.devices.insert id after })

/-- `record_drop_reason` at an endpoint. -/
def record_drop (endpoint : InterfaceRef) (missing : LabError) (reason : DropReason) : LabM heap δ PUnit :=
  update_device endpoint.device missing (fun device => device.record_drop_reason endpoint.interface reason)

/-- `record_frame` at an endpoint. -/
def record_frame (endpoint : InterfaceRef) (missing : LabError) (frame : EthernetFrame) (receive : Bool) :
    LabM heap δ PUnit :=
  update_device endpoint.device missing (fun device => device.record_frame endpoint.interface (frame_len frame) receive)

/-- `EventQueue::schedule_at` for an event that is not a frame on a cable. -/
def schedule_at (time : SimTime) (event : SimulationEvent τ) : LabM heap δ PUnit := do
  let lab ← get
  modify (fun lab => { lab with events := (lab.events.schedule_at time event).2 })
  attempt .Schedule (lab.events.schedule_at time event).1

/-- `EventQueue::schedule_after` for such an event. -/
def schedule_after (delay_ms : UInt64) (event : SimulationEvent τ) : LabM heap δ PUnit := do
  let lab ← get
  modify (fun lab => { lab with events := (lab.events.schedule_after delay_ms event).2 })
  attempt .Schedule (lab.events.schedule_after delay_ms event).1

/-! ### Admission -/

/-- The checks before a frame is handed to a cable. -/
def check_transmit (self : Lab heap δ) (device : Ports.Device δ) (source : InterfaceRef) (frame : EthernetFrame) :
    Except DropReason Unit :=
  if (self.ports.get? source).isNone then .error .NoLink
  else if (self.link_at source).any (fun found => found.2.state = .Down) then .error .LinkDown
  else device.check_frame net source.interface frame false

/-- A frame on its way: its event, and the history of what was sent. -/
def ship (link : Link) (arrival : SimTime) (event : SimulationEvent τ) (loss_sample : UInt64) : LabM heap δ PUnit := do
  let lab ← get
  modify (fun lab => { lab with
    events := (lab.events.schedule_at arrival event).2
    sent := match (lab.events.schedule_at arrival event).1 with
      | .ok () => lab.sent ++ [⟨⟨arrival,event,lab.events.next_sequence⟩,link,loss_sample⟩]
      | .error _ => lab.sent })
  attempt .Schedule (lab.events.schedule_at arrival event).1

/-- The admission of a checked frame to its cable. -/
def admit_on_link (source : InterfaceRef) (frame : EthernetFrame) : LabM heap δ PUnit := do
  let lab ← get
  let jitter := lab.rng.sample
  let loss := jitter.2.sample
  modify (fun lab => { lab with rng := loss.2 })
  let found ← require (lab.link_at source) (.Dropped .NoLink)
  let id := found.1
  let link := found.2
  let admission := (link.direction source).admit_frame link.config lab.now (frame_len frame) jitter.1 loss.1
  modify (fun lab => { lab with links := lab.links.insert id (link.with_direction source admission.2) })
  match admission.1 with
  | .error error => throw (.Schedule error)
  | .ok .Full => do
    record_drop source (.Dropped .NoLink) .QueueFull
    throw (.Dropped .QueueFull)
  | .ok (.Scheduled arrival lost) => do
    ship link arrival (.FrameReceived link.id link.generation (link.target source) frame source lost) loss.1
    record_frame source (.UnknownDevice source.device) frame false

def transmit_on_link (source : InterfaceRef) (frame : EthernetFrame) : LabM heap δ PUnit := do
  let device ← device source.device
  let _ ← require (device.interfaces.get? source.interface) (.UnknownEndpoint source)
  let lab ← get
  match lab.check_transmit net device source frame with
  | .error reason => do
    record_drop source (.UnknownDevice source.device) reason
    throw (.Dropped reason)
  | .ok () => admit_on_link source frame

/-! ### Output queues -/

/-- The count of a full queue at the cable of a port, if there is one. -/
def count_queue_drop (self : Lab heap δ) (source : InterfaceRef) : Lab heap δ :=
  match self.link_at source with
  | none => self
  | some (id,link) =>
    let runtime := link.direction source
    { self with links := self.links.insert id (link.with_direction source
        { runtime with counters.queue_drops := satAdd64 runtime.counters.queue_drops 1 }) }

def qos_drop (source : InterfaceRef) (reason : DropReason) : LabM heap δ PUnit := do
  record_drop source (.Dropped .NoLink) reason
  modify (fun lab => if reason = .QueueFull then lab.count_queue_drop source else lab)

/-- The rate of the cable at a port. -/
def link_rate (self : Lab heap δ) (source : InterfaceRef) : Option UInt64 :=
  (self.link_at source).bind (fun found => found.2.config.bandwidth.map (·.bits_per_second))

/-- Why the queue of a port has to be dissolved. -/
def stale_reason (self : Lab heap δ) (source : InterfaceRef) (runtime : QosPortRuntime) : Option DropReason :=
  if (self.link_at source).all (fun found => found.2.id ≠ runtime.link || found.2.generation ≠ runtime.generation) then
    some .LinkChanged
  else if ((self.devices.get? source.device).bind (fun device => net.qos_profile device source.interface (self.link_rate source))) ≠
        some runtime.profile ∨
      (self.link_at source).any (fun found => found.2.config.queue_packets ≠ runtime.capacity) then
    some .QosPolicyChanged
  else none

/-- Dissolve the queue of a port; every packet is a drop. -/
def dissolve (source : InterfaceRef) (reason : DropReason) : LabM heap δ PUnit := do
  let lab ← get
  modify (fun lab => { lab with qos_queues := lab.qos_queues.erase source })
  (((lab.qos_queues.get? source).elim [] (fun runtime => runtime.queue.drain.1)).forM (fun _ => qos_drop source reason) :
    LabM heap δ PUnit)

def refresh_qos : LabM heap δ PUnit := do
  let lab ← get
  let stale := lab.qos_queues.entries.filterMap (fun entry =>
    (lab.stale_reason net entry.1 entry.2).map (fun reason => (entry.1,reason)))
  (stale.forM (fun entry => dissolve entry.1 entry.2) : LabM heap δ PUnit)

/-- The wake that `schedule_qos` sets, unless an earlier one evaluates eligibility before. -/
def arm (source : InterfaceRef) (runtime : QosPortRuntime) (deadline : SimTime) : LabM heap δ PUnit := do
  if (runtime.wakes.entries.head?).any (fun wake => wake.1 ≤ deadline) then pure ⟨⟩
  else
    let lab ← get
    let epoch ← require (checkedAdd64 lab.qos_epoch 1) .Capacity
    modify (fun lab => { lab with qos_epoch := epoch })
    schedule_at deadline (.QosTransmit source epoch)
    modify (fun lab => { lab with
      qos_queues := lab.qos_queues.insert source { runtime with wakes := runtime.wakes.insert deadline epoch } })

def schedule_qos (source : InterfaceRef) : LabM heap δ PUnit := do
  let lab ← get
  match lab.link_at source with
  | none => pure ⟨⟩
  | some (_,link) =>
    match lab.qos_queues.get? source with
    | none => pure ⟨⟩
    | some runtime => do
      let ready := runtime.queue.next_ready lab.now
      let runtime := { runtime with queue := ready.2 }
      modify (fun lab => { lab with qos_queues := lab.qos_queues.insert source runtime })
      let time ← attempt .Schedule ready.1
      match time with
      | none => pure ⟨⟩
      | some time => arm source runtime (max time ((link.direction source).available_at lab.now))

def STP_MULTICAST : MacAddress := ⟨#v[0x01,0x80,0xc2,0,0,0]⟩
def LACP_MULTICAST : MacAddress := ⟨#v[0x01,0x80,0xc2,0,0,2]⟩
def LACP_ETHERTYPE : UInt16 := 0x8809
def STP_LLC : List UInt8 := [0x42,0x42,0x03]

/-- The kind of a frame behind its tag. -/
def inner_kind (frame : EthernetFrame) : EtherType :=
  if frame.ethertype = .Dot1Q ∧ 4 ≤ frame.payload.length then .of_u16 (u16_at frame.payload 2) else frame.ethertype

/-- Frames of the switches themselves, which no VLAN or spanning tree state holds back. -/
def is_control (frame : EthernetFrame) : Bool :=
  (frame.destination = STP_MULTICAST && match inner_kind frame with | .Length _ => true | _ => false) ||
    (frame.destination = LACP_MULTICAST && inner_kind frame = .Other LACP_ETHERTYPE)

/-- Recheck a queued user frame against VLAN and spanning tree state when it leaves. -/
def blocked (device : Ports.Device δ) (source : InterfaceRef) (frame : EthernetFrame) : Option DropReason :=
  let logical := (device.channel_interface source.interface).getD source.interface
  if device.is_switchport logical && !is_control frame then
    match (Vlan.Switch.mk (device.interfaces.mapValues (fun _ interface => interface.switchport)) device.vlans).classify_switch_ingress
        logical frame with
    | some (vlan,_) => if net.stp_forwarding device logical vlan then none else some .StpBlocking
    | none => some .VlanFiltered
  else none

/-- Errors that are only the drop of a frame. -/
def LabError.is_drop : LabError → Bool
  | .Dropped _ => true
  | _ => false

/-- What happens to a packet that leaves the queue of its port. -/
def depart (source : InterfaceRef) (packet : EthernetFrame) : LabM heap δ PUnit := do
  let device ← device source.device
  match blocked net device source packet with
  | some reason => qos_drop source reason
  | none => forgive LabError.is_drop (transmit_on_link net source packet)

/-- Let the next packet leave if the transmitter is free. -/
def release (source : InterfaceRef) (available : SimTime) : LabM heap δ PUnit := do
  let lab ← get
  if available ≤ lab.now then
    match lab.qos_queues.get? source with
    | none => pure ⟨⟩
    | some runtime => do
      let departure := runtime.queue.dequeue_ready lab.now
      modify (fun lab => { lab with qos_queues := lab.qos_queues.insert source { runtime with queue := departure.2 } })
      match departure.1 with
      | none => pure ⟨⟩
      | some departure => depart net source departure.packet
  else pure ⟨⟩

def service_qos (source : InterfaceRef) : LabM heap δ PUnit := do
  let lab ← get
  match lab.link_at source with
  | none => pure ⟨⟩
  | some (_,link) => do
    release net source ((link.direction source).available_at lab.now)
    schedule_qos source

def qos_timer (source : InterfaceRef) (epoch : UInt64) : LabM heap δ PUnit := do
  let lab ← get
  match lab.qos_queues.get? source with
  | none => pure ⟨⟩
  | some runtime =>
    if runtime.wakes.get? lab.now ≠ some epoch then pure ⟨⟩
    else do
      modify (fun lab => { lab with
        qos_queues := lab.qos_queues.insert source { runtime with wakes := runtime.wakes.erase lab.now } })
      service_qos net source

/-- The queue of a port, created for the policy at its first packet. -/
def qos_runtime (source : InterfaceRef) (profile : QosProfile) (link : Link) : LabM heap δ QosPortRuntime := do
  let lab ← get
  match lab.qos_queues.get? source with
  | some runtime => pure runtime
  | none => do
    let queue ← attempt (fun _ => .Device .InvalidQosConfig)
      (QosScheduler.new (profile.classes.map (·.scheduling)) link.config.queue_packets lab.now)
    let runtime := ⟨profile,link.id,link.generation,link.config.queue_packets,queue,∅⟩
    modify (fun lab => { lab with qos_queues := lab.qos_queues.insert source runtime })
    pure runtime

/-- The drop that a rejection of the scheduler becomes. -/
def reject_reason : QueueRejectReason → DropReason
  | .Full => .QueueFull
  | .Policed => .QosPoliced
  | .PriorityExceeded => .QosPriorityExceeded
  | .ShapeBurstExceeded => .QosBurstExceeded
  | .UnknownClass => .QosPolicyChanged

def enqueue_qos (source : InterfaceRef) (profile : QosProfile) (frame : EthernetFrame) : LabM heap δ PUnit := do
  let lab ← get
  match lab.link_at source with
  | none => do
    qos_drop source .NoLink
    throw (.Dropped .NoLink)
  | some (_,link) => do
    let device ← device source.device
    let index ← require (net.qos_classify device profile.id frame) (.Device .InvalidQosConfig)
    let runtime ← qos_runtime source profile link
    let admission := runtime.queue.enqueue index lab.now frame (bytes_u64 (frame_len frame))
      ((link.direction source).queued lab.now)
    modify (fun lab => { lab with qos_queues := lab.qos_queues.insert source { runtime with queue := admission.2 } })
    match admission.1 with
    | .error rejected => do
      qos_drop source (reject_reason rejected.reason)
      throw (.Dropped (reject_reason rejected.reason))
    | .ok () => service_qos net source

/-- Move a frame into a virtual cable. -/
def transmit (source : InterfaceRef) (frame : EthernetFrame) : LabM heap δ PUnit := do
  let lab ← get
  let device ← device source.device
  match net.qos_profile device source.interface (lab.link_rate source) with
  | none => transmit_on_link net source frame
  | some profile =>
    match device.check_frame net source.interface frame false with
    | .error reason => do
      qos_drop source reason
      throw (.Dropped reason)
    | .ok () => enqueue_qos net source profile frame

/-! ### Carrier -/

/-- Whether an endpoint of a cable is administratively up. -/
def enabled (self : Lab heap δ) (endpoint : InterfaceRef) : Bool :=
  ((self.devices.get? endpoint.device).bind (fun device => device.interfaces.get? endpoint.interface)).any (·.admin_state = .Up)

/-- Whether a cable carries traffic. -/
def carrier (self : Lab heap δ) (link : Link) : Bool :=
  link.state = .Up && self.enabled link.endpoint_a && self.enabled link.endpoint_b

/-- `Device::set_link_state` at an endpoint. -/
def set_port_state (endpoint : InterfaceRef) (state : LinkState) : LabM heap δ PUnit :=
  update_device endpoint.device (.UnknownDevice endpoint.device) (fun device => device.set_link_state net endpoint.interface state)

/-- A change of carrier starts a new generation of the cable. -/
def switch_carrier (id : UInt64) (link : Link) (active : Bool) : LabM heap δ PUnit := do
  if active = link.active then pure ⟨⟩
  else
    let generation ← require (checkedAdd64 link.generation 1) .Capacity
    modify (fun lab => { lab with links := lab.links.insert id (link.switched active generation) })

/-- The turn of one cable in `refresh_carriers`. -/
def refresh_link (id : UInt64) : LabM heap δ PUnit := do
  let lab ← get
  match lab.links.get? id with
  | none => pure ⟨⟩
  | some link => do
    switch_carrier id link (lab.carrier link)
    set_port_state net link.endpoint_a (if lab.carrier link then .Up else .Down)
    set_port_state net link.endpoint_b (if lab.carrier link then .Up else .Down)

def refresh_carriers : LabM heap δ PUnit := do
  let lab ← get
  (lab.links.keys.forM (refresh_link net) : LabM heap δ PUnit)
  modify (fun lab => { lab with devices := lab.devices.mapValues (fun _ device => device.refresh_svi_states net) })
  refresh_qos net

/-- An interface that a cable can be attached to. -/
def free_port (endpoint : InterfaceRef) : LabM heap δ Interface := do
  let device ← device endpoint.device
  let interface ← require (device.interfaces.get? endpoint.interface) (.UnknownEndpoint endpoint)
  if !interface.kind.is_ethernet then throw (.InvalidTopology "links require physical Ethernet interfaces")
  else
    let lab ← get
    if lab.ports.contains endpoint then throw (.InvalidTopology "interface already has a link") else pure interface

/-- The texts of `InterfaceMedia`. -/
def media_name : InterfaceMedia → String
  | .Rj45 => "RJ45"
  | .Sfp => "SFP"
  | .SfpPlus => "SFP+"
  | .Serial => "Serial"
  | .Console => "Console"
  | .Virtual => "Virtual"

/-- Attach a full-duplex cable with validated transmission policy. -/
def connect_configured (a b : InterfaceRef) (config : LinkConfig) : LabM heap δ UInt64 := do
  attempt .InvalidTopology config.validate
  if a = b then throw (.InvalidTopology "link endpoints must differ")
  else
    let port_a ← free_port a
    let port_b ← free_port b
    if port_a.media ≠ port_b.media then
      throw (.InvalidTopology ("incompatible port media: " ++ media_name port_a.media ++ " and " ++ media_name port_b.media))
    else
      let lab ← get
      let id ← require (checkedAdd64 lab.next_link_id 1) .Capacity
      modify (fun lab => { lab with
        next_link_id := id
        links := lab.links.insert id ⟨id,a,b,.Up,config,.default,.default,false,0⟩
        ports := (lab.ports.insert a id).insert b id })
      refresh_carriers net
      pure id

/-- Remove a virtual cable and drop carrier on both endpoints. -/
def disconnect (id : UInt64) : LabM heap δ PUnit := do
  let lab ← get
  let link ← require (lab.links.get? id) (.UnknownLink id)
  modify (fun lab => { lab with
    links := lab.links.erase id
    ports := (lab.ports.erase link.endpoint_a).erase link.endpoint_b })
  set_port_state net link.endpoint_a .Down
  set_port_state net link.endpoint_b .Down
  refresh_carriers net

/-- Apply a cable state change now; invalidates traffic crossing an outage. -/
def set_link_state (id : UInt64) (state : LinkState) : LabM heap δ PUnit := do
  let lab ← get
  let link ← require (lab.links.get? id) (.UnknownLink id)
  modify (fun lab => { lab with links := lab.links.insert id { link with state } })
  refresh_carriers net

/-- Schedule a future cable state change. -/
def schedule_link_state (id : UInt64) (state : LinkState) (time : SimTime) : LabM heap δ PUnit := do
  let lab ← get
  let _ ← require (lab.links.get? id) (.UnknownLink id)
  schedule_at time (.LinkStateChanged id state)

/-- The interfaces of a device that satisfy a test lose their carrier. -/
def unplug (device : Ports.Device δ) (test : InterfaceId → Bool) : Except DeviceError (Ports.Device δ) :=
  (device.interfaces.keys.filter test).foldlM (fun device id => device.set_link_state net id .Down) device

/-- Whether an edit replaces hardware. -/
def replaces (original candidate : Ports.Device δ) : Bool :=
  original.interfaces.entries.any (fun entry => (candidate.interfaces.get? entry.1).all (fun new =>
    new.kind ≠ entry.2.kind || new.mac_address ≠ entry.2.mac_address))

/-- Edit device configuration, then synchronize carrier. -/
def with_device_mut (id : UInt64) (edit : Ports.Device δ → Ports.Device δ) : LabM heap δ PUnit := do
  let original ← device id
  let candidate := edit original
  if replaces original candidate then throw (.InvalidTopology "device edits cannot replace existing hardware or identity")
  else
    let lab ← get
    let candidate ← attempt .Device (unplug net candidate (fun interface => !lab.ports.contains ⟨id,interface⟩))
    modify (fun lab => { lab with devices := lab.devices.insert id candidate })
    refresh_carriers net

/-- Add inventory. -/
def add_device (id : UInt64) (device : Ports.Device δ) : LabM heap δ PUnit := do
  let lab ← get
  if lab.devices.contains id then throw (.InvalidTopology "duplicate device name or ID")
  else
    let device ← attempt .Device (unplug net device (fun _ => true))
    modify (fun lab => { lab with devices := lab.devices.insert id device })

/-! ### Calls of the protocols -/

/-- A method of a device that keeps its interfaces. -/
structure Edit (δ : Type) where
  method : Ports.Device δ → Ports.Device δ
  keeps : ∀ device, Device.Keeps device (method device)

/-- What a device's protocols call on the lab. -/
inductive Call (δ τ : Type) where
  | transmit (source : InterfaceRef) (frame : EthernetFrame)
  | schedule_at (time : SimTime) (timer : τ)
  | schedule_after (delay_ms : UInt64) (timer : τ)
  | edit (device : UInt64) (edit : Edit δ)

/-- The calls that are made in answer to an event, and the error they end with. -/
structure Reaction (δ τ : Type) where
  calls : List (Call δ τ)
  failure : Option LabError

/-- One call; the drop of a frame stops nobody. -/
def perform : Call δ τ → LabM heap δ PUnit
  | .transmit source frame => forgive LabError.is_drop (transmit net source frame)
  | .schedule_at time timer => schedule_at time (.Protocol timer)
  | .schedule_after delay_ms timer => schedule_after delay_ms (.Protocol timer)
  | .edit device edit => update_device device (.UnknownDevice device) (fun device => .ok (edit.method device))

def react (reaction : Reaction δ τ) : LabM heap δ PUnit := do
  (reaction.calls.forM (perform net) : LabM heap δ PUnit)
  match reaction.failure with
  | none => pure ⟨⟩
  | some error => throw error

/-! ### Arrival -/

/-- The counting of a frame that arrived at the end of its cable. -/
def count_check (counters : LinkCounters) (frame : EthernetFrame) : Except DropReason Unit → LinkCounters
  | .ok () => { counters with
    rx_packets := satAdd64 counters.rx_packets 1
    rx_bytes := satAdd64 counters.rx_bytes (bytes_u64 (frame_len frame)) }
  | .error .SimulatedLoss => { counters with loss_drops := satAdd64 counters.loss_drops 1 }
  | .error .LinkChanged => { counters with changed_drops := satAdd64 counters.changed_drops 1 }
  | .error _ => counters

/-- The counting at a cable, as far as it still exists. -/
def count_arrival (self : Lab heap δ) (link : UInt64) (source : InterfaceRef) (frame : EthernetFrame)
    (check : Except DropReason Unit) : Lab heap δ :=
  match self.links.get? link with
  | none => self
  | some cable =>
    let runtime := cable.direction source
    { self with links := self.links.insert link (cable.with_direction source
        { runtime with counters := count_check runtime.counters frame check }) }

/-- What becomes of a frame at the end of its cable. -/
def check_arrival (link generation : UInt64) (interface : InterfaceRef) (frame : EthernetFrame) (lost : Bool) :
    LabM heap δ (Except DropReason Unit) := do
  let lab ← get
  if !(lab.links.get? link).any (fun cable => cable.active && cable.generation = generation) then pure (.error .LinkChanged)
  else if lost then pure (.error .SimulatedLoss)
  else
    let device ← device interface.device
    pure (device.check_frame net interface.interface frame true)

/-- Whether a payload is a spanning tree packet. -/
def is_bpdu (bytes : List UInt8) : Bool :=
  STP_LLC.isPrefixOf bytes && 38 ≤ bytes.length &&
    (let bytes := bytes.drop 3
    ((bytes.take 4 = [0,0,0,0] && bytes.length = 35) || (bytes.take 4 = [0,0,2,2] && bytes.length = 36 && bytes[35]? = some 0)) &&
      u16_at bytes 29 ≠ 0 && u16_at bytes 31 ≠ 0 && u16_at bytes 33 ≠ 0 && u16_at bytes 27 < u16_at bytes 29)

def is_stp_frame (frame : EthernetFrame) : Bool :=
  match (if frame.ethertype = .Dot1Q then frame.untagged.toOption.map (·.2) else some frame) with
  | none => false
  | some frame => frame.destination = STP_MULTICAST && is_bpdu frame.payload

def is_lacp_frame (frame : EthernetFrame) : Bool :=
  frame.ethertype = .Other LACP_ETHERTYPE && frame.destination = LACP_MULTICAST

/-- The way of an accepted frame into its device. -/
def accept (reaction : Reaction δ τ) (interface : InterfaceRef) (frame : EthernetFrame) :
    LabM heap δ (Option EventOutcome) := do
  record_frame interface (.UnknownDevice interface.device) frame true
  if is_lacp_frame frame then
    react net reaction
    pure (some (.FrameReceived interface frame))
  else
    let device ← device interface.device
    match device.channel_ingress net interface.interface with
    | .error reason => do
      record_drop interface (.Dropped reason) reason
      pure (some (.FrameDropped interface reason))
    | .ok logical => do
      if logical = interface.interface then pure ⟨⟩ else record_frame ⟨interface.device,logical⟩ (.Dropped .NoLink) frame true
      react net reaction
      pure (if is_stp_frame frame then none else some (.FrameReceived interface frame))

/-- A frame arrives: it is checked and counted, and enters the device or is dropped. -/
def receive (reaction : Reaction δ τ) (event : ScheduledEvent (SimulationEvent τ)) (link generation : UInt64)
    (interface : InterfaceRef) (frame : EthernetFrame) (source : InterfaceRef) (lost : Bool) :
    LabM heap δ (Option EventOutcome) := do
  let check ← check_arrival net link generation interface frame lost
  modify (fun lab => { lab.count_arrival link source frame check with
    arrived := lab.arrived ++ [⟨event,lab.links.get? link,check⟩] })
  match check with
  | .ok () => accept net reaction interface frame
  | .error reason => do
    record_drop interface (.UnknownDevice interface.device) reason
    pure (some (.FrameDropped interface reason))

/-- The handling of one event that left the queue. -/
def handle (reaction : Reaction δ τ) (scheduled : ScheduledEvent (SimulationEvent τ)) : LabM heap δ (Option EventOutcome) :=
  match scheduled.event with
  | .QosTransmit source epoch => do
    qos_timer net source epoch
    pure none
  | .FrameReceived link generation interface frame source lost =>
    receive net reaction scheduled link generation interface frame source lost
  | .LinkStateChanged link state => do
    set_link_state net link state
    pure (some (.LinkStateChanged link state))
  | .TimerExpired timer => pure (some (.TimerExpired timer))
  | .Protocol _ => do
    react net reaction
    pure none

/-- `Lab::step_event`: process one event, advancing simulated time. -/
def step (reaction : Reaction δ τ) : LabM heap δ (Option EventOutcome) := do
  let lab ← get
  match lab.events.step with
  | (none,_) => pure none
  | (some scheduled,events) => do
    modify (fun lab => { lab with events })
    handle net reaction scheduled

/-- `EventQueue::advance_to` at the end of `advance_until` and `run_until`. -/
def advance_to (time : SimTime) : LabM heap δ PUnit := do
  let lab ← get
  modify (fun lab => { lab with events := (lab.events.advance_to time).2 })
  attempt .Schedule (lab.events.advance_to time).1

/-! ### Runs -/

/-- What a user of the lab calls. -/
inductive Operation (δ τ : Type) where
  | add_device (id : UInt64) (device : Ports.Device δ)
  | with_device_mut (id : UInt64) (edit : Ports.Device δ → Ports.Device δ)
  | connect_configured (a b : InterfaceRef) (config : LinkConfig)
  | disconnect (id : UInt64)
  | set_link_state (id : UInt64) (state : LinkState)
  | schedule_link_state (id : UInt64) (state : LinkState) (time : SimTime)
  | schedule_timer (timer delay_ms : UInt64)
  | transmit (source : InterfaceRef) (frame : EthernetFrame)
  | react (reaction : Reaction δ τ)
  | advance_to (time : SimTime)
  | step (reaction : Reaction δ τ)

/-- One operation, with the outcome of a step. -/
def operate : Operation δ τ → LabM heap δ (Option EventOutcome)
  | .add_device id device => do add_device net id device; pure none
  | .with_device_mut id edit => do with_device_mut net id edit; pure none
  | .connect_configured a b config => do let _ ← connect_configured net a b config; pure none
  | .disconnect id => do disconnect net id; pure none
  | .set_link_state id state => do set_link_state net id state; pure none
  | .schedule_link_state id state time => do schedule_link_state id state time; pure none
  | .schedule_timer timer delay_ms => do schedule_after delay_ms (.TimerExpired timer); pure none
  | .transmit source frame => do transmit net source frame; pure none
  | .react reaction => do react net reaction; pure none
  | .advance_to time => do advance_to time; pure none
  | .step reaction => step net reaction

/-- The lab after a list of operations. -/
def run (self : Lab heap δ) : List (Operation δ τ) → Lab heap δ
  | [] => self
  | operation :: rest => run ((operate net operation).exec self).2 rest

end Lab
end Rios
