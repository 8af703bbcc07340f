import Rios.Channels
import Rios.Lab

/-!
# Delivery on cables

A frame that a cable admitted waits in the event queue until one step consumes it.
The frames of one direction and generation are consumed in the order of their
admission, whatever jitter was drawn, and the counters of a direction account for
all of them.
-/

namespace Rios
open Rios.Machine Rios.Link Rios.Ports Rios.Programs Rios.Channels
open Rios.Device hiding DeviceError
open Rios.Arp (InterfaceRef)
open Rios.Queue (SimTime ScheduledEvent ScheduleError EventQueue Refines Reference insertStable)
open Rios.Vlan (EthernetFrame)

namespace Lab

/-! ### What is said of the frames -/

variable {δ τ : Type} {heap : MaxHeap (ScheduledEvent (SimulationEvent τ)) ScheduledEvent.cmp}

/-- What a frame travels on: its cable, the generation of the cable, and its source. -/
def route : SimulationEvent τ → Option (UInt64 × UInt64 × InterfaceRef)
  | .FrameReceived link generation _ _ source _ => some (link,generation,source)
  | _ => none

def channel (scheduled : ScheduledEvent (SimulationEvent τ)) :
    Option (UInt64 × UInt64 × InterfaceRef) := route scheduled.event

/-- Whether an event is a frame of one direction of a cable. -/
def on_cable (id : UInt64) (source : InterfaceRef) (scheduled : ScheduledEvent (SimulationEvent τ)) : Bool :=
  (channel scheduled).any (fun route => route.1 = id && route.2.2 = source)

/-- What becomes of a frame at the end of its cable. -/
inductive Verdict where
  | Delivered
  | Lost
  | Changed
  | Refused
deriving DecidableEq

def verdict : Except DropReason Unit → Verdict
  | .ok () => .Delivered
  | .error .SimulatedLoss => .Lost
  | .error .LinkChanged => .Changed
  | .error _ => .Refused

/-- How many frames of a direction were admitted. -/
def admitted (self : Lab heap δ) (id : UInt64) (source : InterfaceRef) : Nat :=
  self.sent.countP (fun shipment => on_cable id source shipment.event)

/-- How many of them were consumed with a verdict. -/
def consumed (self : Lab heap δ) (id : UInt64) (source : InterfaceRef) (of : Verdict) : Nat :=
  self.arrived.countP (fun arrival => on_cable id source arrival.event && verdict arrival.check = of)

/-- How many of them are pending. -/
def in_flight (self : Lab heap δ) (id : UInt64) (source : InterfaceRef) : Nat :=
  (heap.contents self.events.pending).countP (fun scheduled => on_cable id source scheduled = true)

/-- An endpoint of a cable. -/
def Link.Connects (link : Link) (source : InterfaceRef) : Prop := source = link.endpoint_a ∨ source = link.endpoint_b

/-- The interface of an endpoint exists. -/
def Holds (self : Lab heap δ) (endpoint : InterfaceRef) : Prop :=
  ∃ device, self.devices.get? endpoint.device = some device ∧ device.interfaces.contains endpoint.interface = true

/-- The counter of so many packets. -/
def saturated (count : Nat) : Nat := min count (2 ^ 64 - 1)

/-- The event queue has sequence numbers left. -/
def Unexhausted (events : EventQueue heap) : Prop := events.next_sequence.toNat + 1 < 2 ^ 64

/-! ### The invariant -/

/-- A draw below the loss of a cable loses the frame. -/
def Shipment.loses (shipment : Shipment τ) : Bool := shipment.loss_sample % 1000000 < shipment.link.config.loss_ppm.toUInt64

/-- An admitted frame: its event names the cable as it was, goes to the other end, and is lost as it was drawn. -/
def Shipment.Named (shipment : Shipment τ) : Prop :=
  ∃ frame source, shipment.link.Connects source ∧
    shipment.event.event = .FrameReceived shipment.link.id shipment.link.generation (shipment.link.target source) frame source
      shipment.loses

/-- What a cable is later: the same cable, of the same generation or a newer one. In the same
    generation no frame arrives after the newest one. -/
structure Shipment.Precedes (shipment : Shipment τ) (link : Link) : Prop where
  endpoint_a : link.endpoint_a = shipment.link.endpoint_a
  endpoint_b : link.endpoint_b = shipment.link.endpoint_b
  generation : shipment.link.generation ≤ link.generation
  due : ∀ source, channel shipment.event = some (link.id,link.generation,source) →
    shipment.event.time ≤ (link.direction source).last_arrival

/-- Whether a frame was drawn to be lost. -/
def is_lost : SimulationEvent τ → Bool
  | .FrameReceived _ _ _ _ _ lost => lost
  | _ => false

/-- A frame found its cable active, in the generation that admitted it. -/
def Arrival.Found (arrival : Arrival τ) : Prop :=
  ∃ link source, arrival.link = some link ∧ link.active = true ∧ channel arrival.event = some (link.id,link.generation,source)

/-- Why a frame did not arrive. -/
structure Arrival.Decided (arrival : Arrival τ) : Prop where
  frame : (channel arrival.event).isSome = true
  changed : verdict arrival.check = .Changed ↔ ¬ arrival.Found
  lost : verdict arrival.check = .Lost ↔ arrival.Found ∧ is_lost arrival.event.event = true

/-- The counters of a direction count its frames. -/
structure Counted (lab : Lab heap δ) (link : Link) (source : InterfaceRef) : Prop where
  tx : Unexhausted lab.events → (link.direction source).counters.tally.tx = saturated (lab.admitted link.id source)
  rx : (link.direction source).counters.tally.rx = saturated (lab.consumed link.id source .Delivered)
  loss : (link.direction source).counters.tally.loss = saturated (lab.consumed link.id source .Lost)
  changed : (link.direction source).counters.tally.changed = saturated (lab.consumed link.id source .Changed)

/-- The stream after so many admissions: each of them draws its jitter and its loss. -/
def draws (rng : SimulationRng) : Nat → SimulationRng
  | 0 => rng
  | count + 1 => (draws rng count).sample.2.sample.2

/-- The loss draws of the first admissions. -/
def loss_samples (rng : SimulationRng) (count : Nat) : List UInt64 :=
  (List.range count).map (fun index => (draws rng index).sample.2.sample.1)

/-- Where a lab comes from: the stream that it started with, and the frames that were consumed. -/
structure Past (τ : Type) where
  rng : SimulationRng
  arrived : List (Arrival τ)

def Past.receive (past : Past τ) (arrival : Arrival τ) : Past τ := { past with arrived := past.arrived ++ [arrival] }

/-- The stream is that of so many admissions, and the draws of the frames are among theirs, in order. -/
def Drawn (past : Past τ) (lab : Lab heap δ) (count : Nat) : Prop :=
  lab.rng = draws past.rng count ∧ (lab.sent.map (·.loss_sample)).Sublist (loss_samples past.rng count)

/-- An admission whose draw no frame has yet. -/
def Drawing (past : Past τ) (lab : Lab heap δ) (loss_sample : UInt64) : Prop :=
  ∃ count, lab.rng = draws past.rng (count + 1) ∧ loss_sample = (draws past.rng count).sample.2.sample.1 ∧
    (lab.sent.map (·.loss_sample)).Sublist (loss_samples past.rng count)

/-- The frames of a lab with a past: they were admitted by cables of the lab, and every direction and generation
    keeps their order. -/
structure Traffic (past : Past τ) (lab : Lab heap δ) : Prop where
  arrived : lab.arrived = past.arrived
  drawn : ∃ count, Drawn past lab count
  named : ∀ id link, lab.links.get? id = some link → link.id = id ∧ id ≤ lab.next_link_id
  fitted : ∀ source id, lab.ports.get? source = some id → id ≤ lab.next_link_id
  plugged : ∀ source id link, lab.ports.get? source = some id → lab.links.get? id = some link → link.Connects source
  seated : ∀ id link source, lab.links.get? id = some link → link.Connects source → lab.Holds source
  shipped : ∀ shipment ∈ lab.sent, shipment.Named ∧ shipment.link.id ≤ lab.next_link_id ∧
    ∀ source, shipment.link.Connects source → lab.Holds source
  traced : ∀ shipment ∈ lab.sent, ∀ link, lab.links.get? shipment.link.id = some link → shipment.Precedes link
  flow : ∃ reference waiting, Refines lab.events reference waiting ∧
    Ledger.InOrder channel ⟨lab.sent.map (·.event),lab.arrived.map (·.event),waiting⟩
  numbered : ∀ shipment ∈ lab.sent, shipment.event.sequence < lab.events.next_sequence
  distinct : (lab.sent.map (·.event.sequence)).Nodup
  decided : ∀ arrival ∈ lab.arrived, arrival.Decided

/-- The invariant of a lab: its traffic, and the counters of its cables. -/
structure Sound (past : Past τ) (lab : Lab heap δ) : Prop extends Traffic past lab where
  counted : ∀ id link source, lab.links.get? id = some link → link.Connects source → Counted lab link source

variable {past : Past τ} {self after : Lab heap δ}

/-! ### What other parts of a lab do -/

/-- Nothing that the invariant speaks of changes, and no interface disappears. -/
structure Apart (before after : Lab heap δ) : Prop where
  rng : after.rng = before.rng
  links : after.links = before.links
  ports : after.ports = before.ports
  next_link_id : after.next_link_id = before.next_link_id
  events : after.events = before.events
  sent : after.sent = before.sent
  arrived : after.arrived = before.arrived
  holds : ∀ endpoint, before.Holds endpoint → after.Holds endpoint

theorem Sound.apart (sound : Sound past self) (apart : Apart self after) : Sound past after where
  arrived := apart.arrived.trans sound.arrived
  drawn := by
    unfold Drawn
    rw [apart.rng,apart.sent]
    exact sound.drawn
  named id link found := by
    rw [apart.next_link_id]
    exact sound.named id link (apart.links ▸ found)
  fitted source id found := by
    rw [apart.next_link_id]
    exact sound.fitted source id (apart.ports ▸ found)
  plugged source id link port found := sound.plugged source id link (apart.ports ▸ port) (apart.links ▸ found)
  seated id link source found connects := apart.holds _ (sound.seated id link source (apart.links ▸ found) connects)
  shipped shipment member := by
    obtain ⟨named,bound,held⟩ := sound.shipped shipment (apart.sent ▸ member)
    rw [apart.next_link_id]
    exact ⟨named,bound,fun source connects => apart.holds _ (held source connects)⟩
  traced shipment member link found := sound.traced shipment (apart.sent ▸ member) link (apart.links ▸ found)
  flow := by
    rw [apart.events,apart.sent,apart.arrived]
    exact sound.flow
  numbered shipment member := by
    rw [apart.events]
    exact sound.numbered shipment (apart.sent ▸ member)
  distinct := by
    rw [apart.sent]
    exact sound.distinct
  decided arrival member := sound.decided arrival (apart.arrived ▸ member)
  counted id link source found connects := by
    have counted := sound.counted id link source (apart.links ▸ found) connects
    constructor
    · rw [apart.events,admitted,apart.sent]
      exact counted.tx
    all_goals
      rw [consumed,apart.arrived]
    · exact counted.rx
    · exact counted.loss
    · exact counted.changed

variable {id : UInt64}

/-- Devices may be changed as long as their interfaces stay. -/
theorem holds_insert {device next : Ports.Device δ} (found : self.devices.get? id = some device)
    (keeps : Device.Keeps device next) {endpoint : InterfaceRef} (held : self.Holds endpoint) :
    ({ self with devices := self.devices.insert id next } : Lab heap δ).Holds endpoint := by
  obtain ⟨old,known,contained⟩ := held
  by_cases same : endpoint.device = id
  · rw [same,found] at known
    cases known
    exact ⟨next,by rw [OrderedMap.get?_insert,if_pos same],keeps _ contained⟩
  · exact ⟨old,by rw [OrderedMap.get?_insert,if_neg same,known],contained⟩

/-! ### Cables -/

/-- A cable after a change: it starts no earlier than before, or in a newer generation. -/
structure Later (before after : Link) : Prop where
  id : after.id = before.id
  endpoint_a : after.endpoint_a = before.endpoint_a
  endpoint_b : after.endpoint_b = before.endpoint_b
  generation : before.generation ≤ after.generation
  due : after.generation = before.generation →
    ∀ source, (before.direction source).last_arrival ≤ (after.direction source).last_arrival

theorem Later.connects {before next : Link} (later : Later before next) (source : InterfaceRef) :
    next.Connects source ↔ before.Connects source := by
  rw [Link.Connects,Link.Connects,later.endpoint_a,later.endpoint_b]

theorem Shipment.Precedes.later {shipment : Shipment τ} {before next : Link} (precedes : shipment.Precedes before)
    (named : shipment.Named) (later : Later before next) : shipment.Precedes next where
  endpoint_a := later.endpoint_a.trans precedes.endpoint_a
  endpoint_b := later.endpoint_b.trans precedes.endpoint_b
  generation := precedes.generation.trans later.generation
  due source travels := by
    obtain ⟨frame,sender,-,event⟩ := named
    have route : channel shipment.event = some (shipment.link.id,shipment.link.generation,sender) := by
      rw [channel,event]
      rfl
    have same : next.generation = before.generation := by
      rw [route] at travels
      have newest : shipment.link.generation = next.generation := congrArg (·.2.1) (Option.some.inj travels)
      exact le_antisymm (newest ▸ precedes.generation) later.generation
    rw [later.id,same] at travels
    exact (precedes.due source travels).trans (later.due same source)

/-- A map after one more entry. -/
theorem insert_cases {κ ν : Type*} [LinearOrder κ] {map : OrderedMap κ ν} {id key : κ} {next value : ν}
    (known : (map.insert id next).get? key = some value) :
    key = id ∧ value = next ∨ key ≠ id ∧ map.get? key = some value := by
  rw [OrderedMap.get?_insert] at known
  by_cases same : key = id
  · rw [if_pos same] at known
    exact .inl ⟨same,(Option.some.inj known).symm⟩
  · rw [if_neg same] at known
    exact .inr ⟨same,known⟩

variable {source : InterfaceRef} {link : Link}

/-- The same counters count the same frames. -/
theorem Counted.same {next : Link} (counted : Counted self link source) (id : next.id = link.id)
    (tally : (next.direction source).counters.tally = (link.direction source).counters.tally) :
    Counted self next source := by
  constructor
  all_goals rw [tally,id]
  · exact counted.tx
  · exact counted.rx
  · exact counted.loss
  · exact counted.changed

/-- A cable is replaced by what it is later. -/
theorem Traffic.replace (traffic : Traffic past self) {next : Link} (found : self.links.get? id = some link)
    (later : Later link next) : Traffic past { self with links := self.links.insert id next } where
  arrived := traffic.arrived
  drawn := traffic.drawn
  named key cable known := by
    rcases insert_cases known with ⟨rfl,rfl⟩ | ⟨-,old⟩
    · exact ⟨later.id.trans (traffic.named _ _ found).1,(traffic.named _ _ found).2⟩
    · exact traffic.named key cable old
  fitted := traffic.fitted
  plugged source key cable port known := by
    rcases insert_cases known with ⟨rfl,rfl⟩ | ⟨-,old⟩
    · exact (later.connects source).mpr (traffic.plugged source _ _ port found)
    · exact traffic.plugged source key cable port old
  seated key cable source known connects := by
    rcases insert_cases known with ⟨rfl,rfl⟩ | ⟨-,old⟩
    · exact traffic.seated _ _ source found ((later.connects source).mp connects)
    · exact traffic.seated key cable source old connects
  shipped := traffic.shipped
  traced shipment member cable known := by
    rcases insert_cases known with ⟨same,rfl⟩ | ⟨-,old⟩
    · exact (traffic.traced shipment member link (same ▸ found)).later (traffic.shipped shipment member).1 later
    · exact traffic.traced shipment member cable old
  flow := traffic.flow
  numbered := traffic.numbered
  distinct := traffic.distinct
  decided := traffic.decided

/-- A cable is replaced by what it is later; its counters stay. -/
theorem Sound.replace (sound : Sound past self) {next : Link} (found : self.links.get? id = some link)
    (later : Later link next)
    (tally : ∀ source, (next.direction source).counters.tally = (link.direction source).counters.tally) :
    Sound past { self with links := self.links.insert id next } := by
  refine ⟨sound.toTraffic.replace found later,fun key cable source known connects => ?_⟩
  rcases insert_cases known with ⟨rfl,rfl⟩ | ⟨-,old⟩
  · have counted := (sound.counted _ _ source found ((later.connects source).mp connects)).same later.id (tally source)
    exact ⟨counted.tx,counted.rx,counted.loss,counted.changed⟩
  · have counted := sound.counted key cable source old connects
    exact ⟨counted.tx,counted.rx,counted.loss,counted.changed⟩

/-- Another transmitter at a source. -/
theorem direction_with_direction (link : Link) (source other : InterfaceRef) (runtime : DirectionalLinkRuntime) :
    (link.with_direction source runtime).direction other = runtime ∧ link.direction other = link.direction source ∧
        (other = link.endpoint_a ↔ source = link.endpoint_a) ∨
      (link.with_direction source runtime).direction other = link.direction other ∧ source ≠ other := by
  unfold Link.with_direction Link.direction
  by_cases first : source = link.endpoint_a
  · rw [if_pos first]
    by_cases same : other = link.endpoint_a
    · exact .inl ⟨if_pos same,by rw [if_pos same,if_pos first],iff_of_true same first⟩
    · exact .inr ⟨by rw [if_neg same,if_neg same],fun equal => same (equal ▸ first)⟩
  · rw [if_neg first]
    by_cases same : other = link.endpoint_a
    · exact .inr ⟨by rw [if_pos same,if_pos same],fun equal => first (equal.trans same)⟩
    · exact .inl ⟨if_neg same,by rw [if_neg same,if_neg first],iff_of_false same first⟩

/-- The transmitters of a cable are those of its two endpoints. -/
theorem direction_connected {other : InterfaceRef} (runtime : DirectionalLinkRuntime) (connects : link.Connects source)
    (connected : link.Connects other) :
    other = source ∧ (link.with_direction source runtime).direction other = runtime ∨
      source ≠ other ∧ (link.with_direction source runtime).direction other = link.direction other := by
  rcases direction_with_direction link source other runtime with ⟨here,-,both⟩ | ⟨here,apart⟩
  · refine .inl ⟨?_,here⟩
    by_cases first : source = link.endpoint_a
    · exact (both.mpr first).trans first.symm
    · exact (connected.resolve_left (mt both.mp first)).trans (connects.resolve_left first).symm
  · exact .inr ⟨apart,here⟩

/-- The transmitter of an endpoint is the one that was put there. -/
theorem direction_self (runtime : DirectionalLinkRuntime) (connects : link.Connects source) :
    (link.with_direction source runtime).direction source = runtime := by
  rcases direction_connected runtime connects connects with ⟨-,here⟩ | ⟨apart,-⟩
  · exact here
  · exact absurd rfl apart

theorem with_direction_fixed (link : Link) (source : InterfaceRef) (runtime : DirectionalLinkRuntime) :
    (link.with_direction source runtime).id = link.id ∧ (link.with_direction source runtime).endpoint_a = link.endpoint_a ∧
      (link.with_direction source runtime).endpoint_b = link.endpoint_b ∧
      (link.with_direction source runtime).generation = link.generation := by
  unfold Link.with_direction
  by_cases first : source = link.endpoint_a
  · rw [if_pos first]
    exact ⟨rfl,rfl,rfl,rfl⟩
  · rw [if_neg first]
    exact ⟨rfl,rfl,rfl,rfl⟩

theorem with_direction_later {runtime : DirectionalLinkRuntime}
    (due : (link.direction source).last_arrival ≤ runtime.last_arrival) :
    Later link (link.with_direction source runtime) := by
  obtain ⟨id,endpoint_a,endpoint_b,generation⟩ := with_direction_fixed link source runtime
  refine ⟨id,endpoint_a,endpoint_b,generation.ge,fun _ other => ?_⟩
  rcases direction_with_direction link source other runtime with ⟨here,same,-⟩ | ⟨here,-⟩
  · rw [here,same]
    exact due
  · rw [here]

/-- A transmitter that sends nothing in between is replaced. -/
theorem Sound.quiet (sound : Sound past self) (found : self.links.get? id = some link)
    {runtime : DirectionalLinkRuntime} (quiet : DirectionalLinkRuntime.Quiet (link.direction source) runtime) :
    Sound past { self with links := self.links.insert id (link.with_direction source runtime) } := by
  refine sound.replace found (with_direction_later quiet.last_arrival.ge) fun other => ?_
  rcases direction_with_direction link source other runtime with ⟨here,same,-⟩ | ⟨here,-⟩
  · rw [here,same]
    exact quiet.tally
  · rw [here]

/-- The cable at an endpoint is one of the lab. -/
theorem link_at_some (found : self.link_at source = some (id,link)) :
    self.ports.get? source = some id ∧ self.links.get? id = some link := by
  unfold link_at at found
  obtain ⟨port,plugged,known⟩ := Option.bind_eq_some_iff.mp found
  obtain ⟨cable,held,same⟩ := Option.map_eq_some_iff.mp known
  cases same
  exact ⟨plugged,held⟩

/-- The random stream does not matter to the cables. -/
theorem link_at_rng (lab : Lab heap δ) (rng : SimulationRng) (source : InterfaceRef) :
    ({ lab with rng } : Lab heap δ).link_at source = lab.link_at source ∧ ({ lab with rng } : Lab heap δ).now = lab.now :=
  ⟨rfl,rfl⟩

/-- The two draws of an admission. -/
theorem Sound.draw (sound : Sound past self) {loss_sample : UInt64} {rng : SimulationRng}
    (samples : self.rng.sample.2.sample = (loss_sample,rng)) :
    Sound past { self with rng } ∧ Drawing past ({ self with rng } : Lab heap δ) loss_sample := by
  obtain ⟨count,stream,drawn⟩ := sound.drawn
  rw [stream] at samples
  have next : rng = draws past.rng (count + 1) := (congrArg Prod.snd samples).symm
  have drew : loss_sample = (draws past.rng count).sample.2.sample.1 := (congrArg Prod.fst samples).symm
  clear samples
  refine ⟨⟨⟨sound.arrived,⟨count + 1,next,?_⟩,sound.named,sound.fitted,sound.plugged,sound.seated,sound.shipped,sound.traced,
    sound.flow,sound.numbered,sound.distinct,sound.decided⟩,fun id link source found connects => ?_⟩,count,next,drew,drawn⟩
  · rw [loss_samples,List.range_succ,List.map_append]
    exact drawn.trans (List.sublist_append_left _ _)
  · have counted := sound.counted id link source found connects
    exact ⟨counted.tx,counted.rx,counted.loss,counted.changed⟩

theorem Sound.count_queue_drop (sound : Sound past self) (source : InterfaceRef) :
    Sound past (self.count_queue_drop source) := by
  unfold Lab.count_queue_drop
  cases found : self.link_at source with
  | none => exact sound
  | some at_source =>
    obtain ⟨id,link⟩ := at_source
    exact sound.quiet (link_at_some found).2 ⟨rfl,rfl⟩

/-- A carrier change starts a new generation. -/
theorem Sound.switched (sound : Sound past self) (found : self.links.get? id = some link) (active : Bool)
    {generation : UInt64} (next : checkedAdd64 link.generation 1 = some generation) :
    Sound past { self with links := self.links.insert id (link.switched active generation) } := by
  have newer : link.generation < generation := checkedAdd64_lt next
  refine sound.replace found ⟨rfl,rfl,rfl,newer.le,fun same => absurd same newer.ne'⟩ fun source => ?_
  unfold Link.switched Link.direction
  by_cases first : source = link.endpoint_a
  · rw [if_pos first,if_pos first]
    rfl
  · rw [if_neg first,if_neg first]
    rfl

/-! ### Events -/

theorem saturated_succ (count : Nat) : min (saturated count + 1) (2 ^ 64 - 1) = saturated (count + 1) := by
  unfold saturated
  omega

theorem Unexhausted.mono {before after : EventQueue heap} (unexhausted : Unexhausted after)
    (grows : before.next_sequence ≤ after.next_sequence) : Unexhausted before := by
  unfold Unexhausted at unexhausted ⊢
  have := UInt64.le_iff_toNat_le.mp grows
  omega

variable {events : EventQueue heap}

/-- The queue is replaced; the frames in it stay, and no number is used again. -/
theorem Sound.requeue (sound : Sound past self) (flow : ∃ reference waiting, Refines events reference waiting ∧
    Ledger.InOrder channel ⟨self.sent.map (·.event),self.arrived.map (·.event),waiting⟩)
    (grows : self.events.next_sequence ≤ events.next_sequence) : Sound past { self with events } where
  arrived := sound.arrived
  drawn := sound.drawn
  named := sound.named
  fitted := sound.fitted
  plugged := sound.plugged
  seated := sound.seated
  shipped := sound.shipped
  traced := sound.traced
  flow := flow
  numbered shipment member := (sound.numbered shipment member).trans_le grows
  distinct := sound.distinct
  decided := sound.decided
  counted id link source found connects := by
    have counted := sound.counted id link source found connects
    exact ⟨fun unexhausted => counted.tx (unexhausted.mono grows),counted.rx,counted.loss,counted.changed⟩

/-- An event that is no frame is put into the queue. -/
theorem Sound.schedule_at (sound : Sound past self) (time : SimTime) {event : SimulationEvent τ}
    (none : route event = none) :
    Sound past { self with events := (self.events.schedule_at time event).2 } := by
  obtain ⟨reference,waiting,refines,inOrder⟩ := sound.flow
  cases result : (self.events.schedule_at time event).1 with
  | error error =>
    rw [(Queue.schedule_at_refused result).1]
    exact sound
  | ok done =>
    obtain ⟨⟨next,refined⟩,counter⟩ := Queue.schedule_at_accepted refines result
    refine sound.requeue ⟨next,_,refined,?_⟩ (by rw [UInt64.le_iff_toNat_le,counter]; exact Nat.le_succ _)
    obtain ⟨front,back,split,placed,-⟩ := Queue.insertStable_split refines.sorted ⟨time,event,self.events.next_sequence⟩
    rw [placed]
    rw [split] at inOrder
    exact inOrder.pass none

theorem Sound.schedule_after (sound : Sound past self) (delay_ms : UInt64) {event : SimulationEvent τ}
    (none : route event = none) :
    Sound past { self with events := (self.events.schedule_after delay_ms event).2 } := by
  rcases Queue.schedule_after_cases self.events delay_ms event with refused | ⟨time,same⟩
  · rw [refused]
    exact sound
  · rw [same]
    exact sound.schedule_at time none

theorem Sound.advance_to (sound : Sound past self) (time : SimTime) :
    Sound past { self with events := (self.events.advance_to time).2 } := by
  obtain ⟨reference,waiting,refines,inOrder⟩ := sound.flow
  obtain ⟨⟨next,refined⟩,counter⟩ := Queue.advance_to_refines refines time
  exact sound.requeue ⟨next,waiting,refined,inOrder⟩ counter.ge

/-! ### Admission -/

variable {scheduled : ScheduledEvent (SimulationEvent τ)} {key : UInt64 × UInt64 × InterfaceRef}

/-- What the events say of the frames that wait: each of them was sent. -/
theorem Traffic.waiting_sent (_ : Traffic past self) {waiting : List (ScheduledEvent (SimulationEvent τ))}
    (inOrder : Ledger.InOrder channel ⟨self.sent.map (·.event),self.arrived.map (·.event),waiting⟩)
    (member : scheduled ∈ waiting) (travels : channel scheduled = some key) :
    ∃ shipment ∈ self.sent, shipment.event = scheduled := by
  have here : scheduled ∈ on channel key (self.sent.map (·.event)) := by
    rw [inOrder key]
    exact List.mem_append_right _ (mem_on.mpr ⟨member,travels⟩)
  exact List.mem_map.mp (mem_on.mp here).1

/-- A frame that waits arrives no later than the newest one of its direction and generation. -/
theorem Traffic.waits_until (traffic : Traffic past self) {waiting : List (ScheduledEvent (SimulationEvent τ))}
    (inOrder : Ledger.InOrder channel ⟨self.sent.map (·.event),self.arrived.map (·.event),waiting⟩)
    (member : scheduled ∈ waiting) (found : self.links.get? link.id = some link)
    (travels : channel scheduled = some (link.id,link.generation,source)) :
    scheduled.time ≤ (link.direction source).last_arrival := by
  obtain ⟨shipment,sent,rfl⟩ := traffic.waiting_sent inOrder member travels
  have route : shipment.link.id = link.id := by
    obtain ⟨_,_,-,event⟩ := (traffic.shipped shipment sent).1
    rw [channel,event] at travels
    exact congrArg (·.1) (Option.some.inj travels)
  exact (traffic.traced shipment sent link (route ▸ found)).due source travels

theorem admitted_concat {new : Shipment τ} (sent : after.sent = self.sent ++ [new]) (id : UInt64) (source : InterfaceRef) :
    after.admitted id source = self.admitted id source + if on_cable id source new.event then 1 else 0 := by
  rw [admitted,admitted,sent,List.countP_append,List.countP_singleton]

/-- A reserved frame is counted as sent; the other counters stay. -/
theorem tally_reserve (runtime : DirectionalLinkRuntime) (finish arrival : SimTime) (bytes : Nat) :
    (runtime.reserve finish arrival bytes).counters.tally =
      { runtime.counters.tally with tx := min (runtime.counters.tally.tx + 1) (2 ^ 64 - 1) } := by
  simp only [DirectionalLinkRuntime.reserve,LinkCounters.tally,satAdd64_toNat]
  rfl

/-- A frame whose cable has just reserved its arrival is put into the queue. -/
theorem Traffic.send (traffic : Traffic past self) {next : Link} {arrival : SimTime}
    (found : self.links.get? link.id = some next) (later : Later link next) (same : next.generation = link.generation)
    (reserved : (next.direction source).last_arrival = arrival) (connects : link.Connects source) (frame : EthernetFrame)
    {loss_sample : UInt64} (drawing : Drawing past self loss_sample) {lost : Bool}
    (loses : lost = decide (loss_sample % 1000000 < link.config.loss_ppm.toUInt64))
    (accepted : (self.events.schedule_at arrival
    (.FrameReceived link.id link.generation (link.target source) frame source lost)).1 = .ok ()) :
    let event := .FrameReceived link.id link.generation (link.target source) frame source lost
    Traffic past { self with
      events := (self.events.schedule_at arrival event).2
      sent := self.sent ++ [⟨⟨arrival,event,self.events.next_sequence⟩,link,loss_sample⟩] } := by
  intro event
  let new : Shipment τ := ⟨⟨arrival,event,self.events.next_sequence⟩,link,loss_sample⟩
  obtain ⟨reference,waiting,refines,inOrder⟩ := traffic.flow
  obtain ⟨⟨renewed,refined⟩,counter⟩ := Queue.schedule_at_accepted refines accepted
  have grows : self.events.next_sequence < (self.events.schedule_at arrival event).2.next_sequence := by
    rw [UInt64.lt_iff_toNat_lt,counter]
    exact Nat.lt_succ_self _
  have travels : channel new.event = some (link.id,link.generation,source) := rfl
  have cases : ∀ shipment ∈ self.sent ++ [new], shipment ∈ self.sent ∨ shipment = new := by
    intro shipment member
    rcases List.mem_append.mp member with old | here
    · exact .inl old
    · exact .inr (List.mem_singleton.mp here)
  constructor
  · exact traffic.arrived
  · obtain ⟨count,rng,rfl,draws_⟩ := drawing
    refine ⟨count + 1,rng,?_⟩
    rw [loss_samples,List.range_succ,List.map_append,List.map_append]
    exact draws_.append_right _
  · exact traffic.named
  · exact traffic.fitted
  · exact traffic.plugged
  · exact traffic.seated
  · intro shipment member
    rcases cases shipment member with old | rfl
    · exact traffic.shipped shipment old
    · refine ⟨⟨frame,source,connects,?_⟩,(traffic.named _ _ found).2,fun other connected => ?_⟩
      · show event = _
        rw [Shipment.loses,← loses]
      · exact traffic.seated _ _ other found ((later.connects other).mpr connected)
  · intro shipment member cable known
    rcases cases shipment member with old | rfl
    · exact traffic.traced shipment old cable known
    · obtain rfl := Option.some.inj (found.symm.trans known)
      refine ⟨later.endpoint_a,later.endpoint_b,same.ge,fun other here => ?_⟩
      rw [travels] at here
      obtain rfl : source = other := congrArg (·.2.2) (Option.some.inj here)
      exact reserved.ge
  · refine ⟨renewed,_,refined,?_⟩
    obtain ⟨front,back,split,placed,after⟩ := Queue.insertStable_split refines.sorted new.event
    rw [placed,List.map_append]
    rw [split] at inOrder
    refine inOrder.send travels fun other behind travelling => ?_
    -- a frame of the same direction and generation behind the new one would arrive after the newest
    have due := traffic.waits_until inOrder (List.mem_append_right _ behind) (later.id.symm ▸ found)
      (by rw [travelling,later.id,same] : channel other = some (next.id,next.generation,source))
    rw [reserved] at due
    exact absurd (after _ behind) (not_lt.mpr due)
  · intro shipment member
    rcases cases shipment member with old | rfl
    · exact (traffic.numbered shipment old).trans grows
    · exact grows
  · rw [List.map_append]
    refine List.nodup_append.mpr ⟨traffic.distinct,List.nodup_singleton _,fun number old other here equal => ?_⟩
    obtain ⟨shipment,member,rfl⟩ := List.mem_map.mp old
    rw [List.mem_singleton.mp here] at equal
    exact absurd equal (traffic.numbered shipment member).ne
  · exact traffic.decided

/-- The new event is a frame of its own direction only. -/
theorem on_cable_received (id generation : UInt64) (interface : InterfaceRef) (frame : EthernetFrame)
    (source : InterfaceRef) (lost : Bool) (key : UInt64) (other : InterfaceRef) (time : SimTime) (sequence : UInt64) :
    on_cable key other ⟨time,(.FrameReceived id generation interface frame source lost : SimulationEvent τ),sequence⟩ = true ↔
      id = key ∧ source = other := by
  simp [on_cable,channel,route]

section Shipping
variable {source : InterfaceRef} {link : Link}

/-- The counters of the frame's own direction behind a reservation, and those of all others. -/
theorem Sound.reserved_counters (sound : Sound past self) (known : self.links.get? link.id = some link)
    (connects : link.Connects source) {runtime : DirectionalLinkRuntime}
    (later : Later link (link.with_direction source runtime)) {key : UInt64} {cable : Link} {other : InterfaceRef}
    (present : (self.links.insert link.id (link.with_direction source runtime)).get? key = some cable)
    (connected : cable.Connects other) :
    (other = source ∧ cable.id = link.id ∧ (cable.direction other).counters.tally = runtime.counters.tally ∧
        Counted self link source) ∨
      (¬ (link.id = cable.id ∧ source = other) ∧ Counted self cable other) := by
  rcases insert_cases present with ⟨rfl,rfl⟩ | ⟨apart,old⟩
  · have joined := (later.connects other).mp connected
    have counted := sound.counted _ link other known joined
    rcases direction_connected runtime connects joined with ⟨rfl,here⟩ | ⟨apart,here⟩
    · exact .inl ⟨rfl,later.id,by rw [here],counted⟩
    · exact .inr ⟨fun both => apart both.2,counted.same later.id (by rw [here])⟩
  · refine .inr ⟨fun both => apart ?_,sound.counted key cable other old connected⟩
    rw [both.1]
    exact (sound.named key cable old).1.symm

/-- A reservation whose event found no number: the frame is gone, and the counter of sent ones stays behind. -/
theorem Sound.reserve_refused (sound : Sound past self) (known : self.links.get? link.id = some link)
    (connects : link.Connects source) {before : DirectionalLinkRuntime}
    (quiet : DirectionalLinkRuntime.Quiet (link.direction source) before) (finish arrival : SimTime) (bytes : Nat)
    (behind : (link.direction source).last_arrival ≤ arrival) (exhausted : ¬ Unexhausted self.events) :
    Sound past { self with links := self.links.insert link.id (link.with_direction source (before.reserve finish arrival bytes)) } := by
  have later : Later link (link.with_direction source (before.reserve finish arrival bytes)) := with_direction_later behind
  refine ⟨sound.toTraffic.replace known later,fun key cable other present connected => ?_⟩
  rcases sound.reserved_counters known connects later present connected with ⟨rfl,same_id,tally,counted⟩ | ⟨-,counted⟩
  · constructor
    · exact fun unexhausted => absurd unexhausted exhausted
    all_goals rw [tally,tally_reserve,quiet.tally,same_id]
    · exact counted.rx
    · exact counted.loss
    · exact counted.changed
  · exact ⟨counted.tx,counted.rx,counted.loss,counted.changed⟩

/-- A reservation with its event in the queue: the frame is one more that was sent. -/
theorem Sound.reserve_accepted (sound : Sound past self) (known : self.links.get? link.id = some link)
    (connects : link.Connects source) {before : DirectionalLinkRuntime}
    (quiet : DirectionalLinkRuntime.Quiet (link.direction source) before) (finish arrival : SimTime) (bytes : Nat)
    (behind : (link.direction source).last_arrival ≤ arrival) (frame : EthernetFrame) {loss_sample : UInt64}
    (drawing : Drawing past self loss_sample) {lost : Bool}
    (loses : lost = decide (loss_sample % 1000000 < link.config.loss_ppm.toUInt64))
    (accepted : (self.events.schedule_at arrival
      (.FrameReceived link.id link.generation (link.target source) frame source lost)).1 = .ok ()) :
    let event := .FrameReceived link.id link.generation (link.target source) frame source lost
    Sound past { self with
      links := self.links.insert link.id (link.with_direction source (before.reserve finish arrival bytes))
      events := (self.events.schedule_at arrival event).2
      sent := self.sent ++ [⟨⟨arrival,event,self.events.next_sequence⟩,link,loss_sample⟩] } := by
  intro event
  have later : Later link (link.with_direction source (before.reserve finish arrival bytes)) := with_direction_later behind
  have reserved : ((link.with_direction source (before.reserve finish arrival bytes)).direction source).last_arrival =
      arrival := by
    rw [direction_self _ connects]
    rfl
  have grows : self.events.next_sequence ≤ (self.events.schedule_at arrival event).2.next_sequence := by
    obtain ⟨_,_,refines,-⟩ := sound.flow
    rw [UInt64.le_iff_toNat_le,(Queue.schedule_at_accepted refines accepted).2]
    exact Nat.le_succ _
  refine ⟨(sound.toTraffic.replace known later).send (OrderedMap.get?_insert_self ..) later
    (with_direction_fixed link source _).2.2.2 reserved connects frame drawing loses accepted,fun key cable other there connected => ?_⟩
  rcases sound.reserved_counters known connects later there connected with ⟨rfl,same_id,tally,counted⟩ | ⟨apart,counted⟩
  · constructor
    · intro unexhausted
      rw [admitted_concat rfl,same_id,if_pos ((on_cable_received ..).mpr ⟨rfl,rfl⟩),tally,tally_reserve,quiet.tally]
      show min ((link.direction other).counters.tally.tx + 1) _ = _
      rw [counted.tx (unexhausted.mono grows),saturated_succ]
    all_goals rw [tally,tally_reserve,quiet.tally,same_id]
    · exact counted.rx
    · exact counted.loss
    · exact counted.changed
  · refine ⟨fun unexhausted => ?_,counted.rx,counted.loss,counted.changed⟩
    rw [admitted_concat rfl,if_neg (mt (on_cable_received ..).mp apart)]
    exact counted.tx (unexhausted.mono grows)

/-- A frame is reserved on its cable and its event put into the queue. -/
theorem Sound.ship (sound : Sound past self) {id : UInt64} (found : self.link_at source = some (id,link)) (finish : SimTime)
    {arrival : SimTime} (bytes : Nat) (frame : EthernetFrame) {loss_sample : UInt64}
    (drawing : Drawing past self loss_sample) {lost : Bool}
    (loses : lost = decide (loss_sample % 1000000 < link.config.loss_ppm.toUInt64)) {before : DirectionalLinkRuntime}
    (quiet : DirectionalLinkRuntime.Quiet (link.direction source) before) (future : self.now ≤ arrival)
    (behind : (link.direction source).last_arrival ≤ arrival) :
    (ship link arrival (.FrameReceived link.id link.generation (link.target source) frame source lost) loss_sample).Yields
      { self with links := self.links.insert id (link.with_direction source (before.reserve finish arrival bytes)) }
      (fun _ after => Sound past after) (fun _ after => Sound past after) := by
  let event : SimulationEvent τ := .FrameReceived link.id link.generation (link.target source) frame source lost
  let result := self.events.schedule_at arrival event
  rw [Lab.ship,Program.yields_bind,Program.yields_get,Program.yields_bind,Program.yields_modify]
  refine Program.Keeps.attempt _ _ _ ?_
  obtain ⟨port,known⟩ := link_at_some found
  obtain ⟨rfl,-⟩ := sound.named id link known
  have connects : link.Connects source := sound.plugged source _ link port known
  show Sound past { self with
    links := self.links.insert link.id (link.with_direction source (before.reserve finish arrival bytes))
    events := result.2
    sent := _ }
  cases accepted : result.1 with
  | error error =>
    obtain ⟨unchanged,exhausted⟩ := Queue.schedule_at_refused accepted
    have stays : result.2 = self.events := unchanged
    rw [stays]
    exact sound.reserve_refused known connects quiet finish arrival bytes behind (fun unexhausted =>
      absurd (exhausted future) (not_le.mpr unexhausted))
  | ok done => exact sound.reserve_accepted known connects quiet finish arrival bytes behind frame drawing loses accepted

end Shipping

/-! ### Cabling -/

variable {arrival : Arrival τ}

/-- Frames that were consumed were sent. -/
theorem Traffic.arrived_sent (traffic : Traffic past self) (member : arrival ∈ self.arrived)
    (travels : channel arrival.event = some key) :
    ∃ shipment ∈ self.sent, shipment.event = arrival.event := by
  obtain ⟨_,waiting,-,inOrder⟩ := traffic.flow
  have here : arrival.event ∈ on channel key (self.sent.map (·.event)) := by
    rw [inOrder key]
    exact List.mem_append_left _ (mem_on.mpr ⟨List.mem_map_of_mem member,travels⟩)
  exact List.mem_map.mp (mem_on.mp here).1

theorem on_cable_iff :
    on_cable id source scheduled = true ↔ ∃ generation, channel scheduled = some (id,generation,source) := by
  unfold on_cable
  cases travels : channel scheduled with
  | none => simp
  | some key =>
    obtain ⟨link,generation,sender⟩ := key
    simp

/-- A frame of a cable was admitted by that cable. -/
theorem Shipment.Named.id_eq {shipment : Shipment τ} (named : shipment.Named) {generation : UInt64}
    (travels : channel shipment.event = some (id,generation,source)) :
    shipment.link.id = id ∧ shipment.link.generation = generation ∧ shipment.link.Connects source := by
  obtain ⟨_,sender,connects,event⟩ := named
  rw [channel,event] at travels
  obtain ⟨rfl,rest⟩ := Prod.mk.inj (Option.some.inj travels)
  obtain ⟨rfl,rfl⟩ := Prod.mk.inj rest
  exact ⟨rfl,rfl,connects⟩

/-- No frame was ever on a cable that does not exist yet. -/
theorem Traffic.unused (traffic : Traffic past self) (fresh : self.next_link_id < id) (source : InterfaceRef) :
    self.admitted id source = 0 ∧ ∀ of, self.consumed id source of = 0 := by
  have none : ∀ shipment ∈ self.sent, on_cable id source shipment.event ≠ true := by
    intro shipment member travels
    obtain ⟨generation,travels⟩ := on_cable_iff.mp travels
    obtain ⟨named,bound,-⟩ := traffic.shipped shipment member
    exact absurd fresh (not_lt.mpr ((named.id_eq travels).1 ▸ bound))
  refine ⟨List.countP_eq_zero.mpr none,fun of => List.countP_eq_zero.mpr fun arrival member both => ?_⟩
  obtain ⟨travels,-⟩ := Bool.and_eq_true_iff.mp both
  obtain ⟨generation,route⟩ := on_cable_iff.mp travels
  obtain ⟨shipment,sent,same⟩ := traffic.arrived_sent member route
  exact none shipment sent (same ▸ travels)

/-- The counters of a new cable count no frame. -/
theorem Traffic.unused_counted (traffic : Traffic past self) (fresh : self.next_link_id < id) (a b : InterfaceRef)
    (config : LinkConfig) (source : InterfaceRef) : Counted self ⟨id,a,b,.Up,config,.default,.default,false,0⟩ source := by
  obtain ⟨none,nothing⟩ := traffic.unused fresh source
  have idle : ((⟨id,a,b,.Up,config,.default,.default,false,0⟩ : Link).direction source).counters.tally = ⟨0,0,0,0⟩ := by
    unfold Link.direction
    split <;> rfl
  constructor
  all_goals rw [idle]
  · exact fun _ => (congrArg saturated none).symm
  · exact (congrArg saturated (nothing .Delivered)).symm
  · exact (congrArg saturated (nothing .Lost)).symm
  · exact (congrArg saturated (nothing .Changed)).symm

/-- A new cable between two interfaces. -/
theorem Sound.connect (sound : Sound past self) {a b : InterfaceRef} (config : LinkConfig)
    (next : checkedAdd64 self.next_link_id 1 = some id) (held_a : self.Holds a) (held_b : self.Holds b) :
    Sound past { self with
      next_link_id := id
      links := self.links.insert id ⟨id,a,b,.Up,config,.default,.default,false,0⟩
      ports := (self.ports.insert a id).insert b id } := by
  have fresh : self.next_link_id < id := checkedAdd64_lt next
  have fit : ∀ source key, ((self.ports.insert a id).insert b id).get? source = some key →
      (key = id ∧ (source = a ∨ source = b)) ∨ self.ports.get? source = some key := by
    intro source key port
    rcases insert_cases port with ⟨rfl,rfl⟩ | ⟨-,port⟩
    · exact .inl ⟨rfl,.inr rfl⟩
    · rcases insert_cases port with ⟨rfl,rfl⟩ | ⟨-,port⟩
      · exact .inl ⟨rfl,.inl rfl⟩
      · exact .inr port
  refine ⟨⟨sound.arrived,sound.drawn,fun key link known => ?_,fun source key port => ?_,fun source key link port known => ?_,
    fun key link source known connects => ?_,fun shipment member => ?_,fun shipment member link known => ?_,sound.flow,
    sound.numbered,sound.distinct,sound.decided⟩,fun key link source known connects => ?_⟩
  · rcases insert_cases known with ⟨rfl,rfl⟩ | ⟨-,old⟩
    · exact ⟨rfl,le_rfl⟩
    · exact ⟨(sound.named key link old).1,(sound.named key link old).2.trans fresh.le⟩
  · rcases fit source key port with ⟨rfl,-⟩ | old
    · exact le_rfl
    · exact (sound.fitted source key old).trans fresh.le
  · rcases insert_cases known with ⟨rfl,rfl⟩ | ⟨apart,known⟩
    · rcases fit source key port with ⟨-,ends⟩ | old
      · exact ends
      · exact absurd (sound.fitted source key old) (not_le.mpr fresh)
    · rcases fit source key port with ⟨same,-⟩ | old
      · exact absurd same apart
      · exact sound.plugged source key link old known
  · rcases insert_cases known with ⟨rfl,rfl⟩ | ⟨-,old⟩
    · rcases connects with rfl | rfl
      · exact held_a
      · exact held_b
    · exact sound.seated key link source old connects
  · obtain ⟨named,bound,held⟩ := sound.shipped shipment member
    exact ⟨named,bound.trans fresh.le,held⟩
  · rcases insert_cases known with ⟨same,-⟩ | ⟨-,old⟩
    · exact absurd (sound.shipped shipment member).2.1 (not_le.mpr (same ▸ fresh))
    · exact sound.traced shipment member link old
  · rcases insert_cases known with ⟨rfl,rfl⟩ | ⟨-,old⟩
    · have counted : Counted self ⟨key,a,b,.Up,config,.default,.default,false,0⟩ source :=
        sound.toTraffic.unused_counted fresh a b config source
      exact ⟨counted.tx,counted.rx,counted.loss,counted.changed⟩
    · have counted := sound.counted key link source old connects
      exact ⟨counted.tx,counted.rx,counted.loss,counted.changed⟩

/-- A cable is removed. -/
theorem Sound.disconnect (sound : Sound past self) (id : UInt64) (a b : InterfaceRef) :
    Sound past { self with links := self.links.erase id, ports := (self.ports.erase a).erase b } := by
  have port : ∀ source key, ((self.ports.erase a).erase b).get? source = some key → self.ports.get? source = some key :=
    fun source key found => OrderedMap.get?_erase_some (OrderedMap.get?_erase_some found)
  have cable : ∀ key link, (self.links.erase id).get? key = some link → self.links.get? key = some link :=
    fun key link found => OrderedMap.get?_erase_some found
  refine ⟨⟨sound.arrived,sound.drawn,fun key link known => sound.named key link (cable key link known),
    fun source key found => sound.fitted source key (port source key found),
    fun source key link found known => sound.plugged source key link (port source key found) (cable key link known),
    fun key link source known => sound.seated key link source (cable key link known),sound.shipped,
    fun shipment member link known => sound.traced shipment member link (cable _ link known),sound.flow,sound.numbered,
    sound.distinct,sound.decided⟩,fun key link source known connects => ?_⟩
  have counted := sound.counted key link source (cable key link known) connects
  exact ⟨counted.tx,counted.rx,counted.loss,counted.changed⟩

/-! ### Arrival -/

/-- An event that is no frame leaves the queue. -/
theorem Sound.pop (sound : Sound past self) (popped : self.events.step = (some scheduled,events))
    (none : channel scheduled = none) :
    Sound past { self with events } := by
  obtain ⟨reference,waiting,refines,inOrder⟩ := sound.flow
  obtain ⟨rest,next,rfl,refined,counter,-⟩ := Queue.step_popped refines popped
  exact sound.requeue ⟨next,rest,refined,inOrder.drop none⟩ counter.ge

/-- The next event was sent if it is a frame. -/
theorem Traffic.next_sent (traffic : Traffic past self) (popped : self.events.step = (some scheduled,events))
    (travels : channel scheduled = some key) : ∃ shipment ∈ self.sent, shipment.event = scheduled := by
  obtain ⟨reference,waiting,refines,inOrder⟩ := traffic.flow
  obtain ⟨rest,_,rfl,-⟩ := Queue.step_popped refines popped
  exact traffic.waiting_sent inOrder List.mem_cons_self travels

/-- A frame leaves the queue and is consumed. -/
theorem Traffic.receive (traffic : Traffic past self) (popped : self.events.step = (some scheduled,events))
    (travels : channel scheduled = some key) (event : arrival.event = scheduled) (decided : arrival.Decided) :
    Traffic (past.receive arrival) { self with events, arrived := self.arrived ++ [arrival] } := by
  obtain ⟨reference,waiting,refines,inOrder⟩ := traffic.flow
  obtain ⟨rest,next,rfl,refined,counter,-⟩ := Queue.step_popped refines popped
  refine ⟨congrArg (· ++ [arrival]) traffic.arrived,traffic.drawn,traffic.named,traffic.fitted,traffic.plugged,
    traffic.seated,traffic.shipped,
    traffic.traced,⟨next,rest,refined,?_⟩,fun shipment member => ?_,traffic.distinct,fun other member => ?_⟩
  · simp only [List.map_append,List.map_cons,List.map_nil,event]
    exact inOrder.receive travels
  · rw [counter]
    exact traffic.numbered shipment member
  · rcases List.mem_append.mp member with old | here
    · exact traffic.decided other old
    · exact List.mem_singleton.mp here ▸ decided

/-- The tally of a direction after a frame arrived. -/
theorem tally_count_check (counters : LinkCounters) (frame : EthernetFrame) (check : Except DropReason Unit) :
    (count_check counters frame check).tally = { counters.tally with
      rx := if verdict check = .Delivered then min (counters.tally.rx + 1) (2 ^ 64 - 1) else counters.tally.rx
      loss := if verdict check = .Lost then min (counters.tally.loss + 1) (2 ^ 64 - 1) else counters.tally.loss
      changed := if verdict check = .Changed then min (counters.tally.changed + 1) (2 ^ 64 - 1) else counters.tally.changed } := by
  cases check with
  | ok done =>
    simp only [count_check,verdict,LinkCounters.tally,satAdd64_toNat]
    rfl
  | error reason =>
    cases reason <;> simp only [count_check,verdict,LinkCounters.tally,satAdd64_toNat] <;> rfl

theorem consumed_concat (arrived : after.arrived = self.arrived ++ [arrival]) (id : UInt64) (source : InterfaceRef)
    (of : Verdict) : after.consumed id source of =
      self.consumed id source of + if on_cable id source arrival.event && verdict arrival.check = of then 1 else 0 := by
  rw [consumed,consumed,arrived,List.countP_append,List.countP_singleton]

/-- One more frame of a verdict. -/
theorem saturated_count {count : Nat} {total : Nat} (counted : total = saturated count) (hit : Prop) [Decidable hit] :
    (if hit then min (total + 1) (2 ^ 64 - 1) else total) = saturated (count + if hit then 1 else 0) := by
  by_cases holds : hit
  · rw [if_pos holds,if_pos holds,counted,saturated_succ]
  · rw [if_neg holds,if_neg holds,counted]
    rfl

/-- The counters of a direction on which no frame arrived. -/
theorem Counted.other (counted : Counted self link source) (elsewhere : on_cable link.id source arrival.event ≠ true)
    (sent : after.sent = self.sent) (arrived : after.arrived = self.arrived ++ [arrival])
    (counter : after.events.next_sequence = self.events.next_sequence) :
    Counted after link source := by
  have same : ∀ of, after.consumed link.id source of = self.consumed link.id source of := by
    intro of
    rw [consumed_concat arrived,if_neg fun both => elsewhere (Bool.and_eq_true_iff.mp both).1]
    rfl
  refine ⟨fun unexhausted => ?_,by rw [same]; exact counted.rx,by rw [same]; exact counted.loss,by rw [same]; exact counted.changed⟩
  rw [admitted,sent]
  exact counted.tx (unexhausted.mono counter.ge)

/-- The counters of the direction on which a frame arrived. -/
theorem Counted.count {next : Link} (counted : Counted self link source)
    (here : on_cable link.id source arrival.event = true) (frame : EthernetFrame) (id : next.id = link.id)
    (counters : (next.direction source).counters = count_check (link.direction source).counters frame arrival.check)
    (sent : after.sent = self.sent) (arrived : after.arrived = self.arrived ++ [arrival])
    (counter : after.events.next_sequence = self.events.next_sequence) : Counted after next source := by
  have more : ∀ of, after.consumed link.id source of =
      self.consumed link.id source of + if verdict arrival.check = of then 1 else 0 := by
    intro of
    rw [consumed_concat arrived,here]
    simp only [Bool.true_and,decide_eq_true_eq]
  constructor
  all_goals rw [counters,tally_count_check,id]
  · intro unexhausted
    rw [admitted,sent]
    exact counted.tx (unexhausted.mono counter.ge)
  all_goals rw [more]
  · exact saturated_count counted.rx _
  · exact saturated_count counted.loss _
  · exact saturated_count counted.changed _

/-- A frame is consumed and counted at its cable, if that still exists. -/
theorem Sound.receive (sound : Sound past self) {time : SimTime} {sequence generation : UInt64}
    {interface : InterfaceRef} {frame : EthernetFrame} {lost : Bool}
    (popped : self.events.step = (some ⟨time,.FrameReceived id generation interface frame source lost,sequence⟩,events))
    (event : arrival.event = ⟨time,.FrameReceived id generation interface frame source lost,sequence⟩)
    (decided : arrival.Decided) :
    Sound (past.receive arrival) { ({ self with events } : Lab heap δ).count_arrival id source frame arrival.check with
      arrived := self.arrived ++ [arrival] } := by
  have travels : channel arrival.event = some (id,generation,source) := by
    rw [event]
    rfl
  have received := sound.toTraffic.receive popped (event ▸ travels) event decided
  have counter : events.next_sequence = self.events.next_sequence := by
    obtain ⟨_,_,refines,-⟩ := sound.flow
    obtain ⟨_,_,-,-,counter,-⟩ := Queue.step_popped refines popped
    exact counter
  have elsewhere : ∀ key cable other, self.links.get? key = some cable → ¬ (key = id ∧ other = source) →
      on_cable cable.id other arrival.event ≠ true := by
    intro key cable other known apart there
    obtain ⟨_,route⟩ := on_cable_iff.mp there
    rw [travels] at route
    obtain ⟨same,rest⟩ := Prod.mk.inj (Option.some.inj route)
    exact apart ⟨((sound.named key cable known).1.symm.trans same.symm),(Prod.mk.inj rest).2.symm⟩
  unfold count_arrival
  cases known : self.links.get? id with
  | none =>
    refine ⟨received,fun key cable other present connects => ?_⟩
    refine (sound.counted key cable other present connects).other (elsewhere key cable other present fun same => ?_) rfl rfl counter
    rw [same.1,known] at present
    cases present
  | some cable =>
    obtain ⟨shipment,member,sent⟩ := sound.toTraffic.next_sent popped (event ▸ travels)
    obtain ⟨rfl,-,ends⟩ := (sound.shipped shipment member).1.id_eq (by rw [sent]; rfl)
    have precedes := sound.traced shipment member cable known
    have connects : cable.Connects source := by
      rw [Link.Connects,precedes.endpoint_a,precedes.endpoint_b]
      exact ends
    let runtime : DirectionalLinkRuntime :=
      { cable.direction source with counters := count_check (cable.direction source).counters frame arrival.check }
    have later : Later cable (cable.with_direction source runtime) := with_direction_later le_rfl
    refine ⟨received.replace known later,fun key next other present connected => ?_⟩
    rcases insert_cases present with ⟨rfl,rfl⟩ | ⟨apart,old⟩
    · have joined := (later.connects other).mp connected
      have counted := sound.counted _ cable other known joined
      rcases direction_connected runtime connects joined with ⟨rfl,here⟩ | ⟨apart,here⟩
      · refine counted.count ?_ frame later.id (by rw [here]) rfl rfl counter
        exact on_cable_iff.mpr ⟨generation,by rw [(sound.named _ cable known).1]; exact travels⟩
      · have stays : Counted ({ self with events, arrived := self.arrived ++ [arrival] } : Lab heap δ) cable other :=
          counted.other (elsewhere _ cable other known fun same => apart same.2.symm) rfl rfl counter
        have same := stays.same later.id (by rw [here])
        exact ⟨same.tx,same.rx,same.loss,same.changed⟩
    · exact (sound.counted key next other old connected).other (elsewhere key next other old fun same => apart same.1) rfl rfl counter

end Lab
end Rios
