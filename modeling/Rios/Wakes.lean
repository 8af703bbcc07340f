import Rios.Delivery
import Rios.QosWaits

/-!
# Wakes of output queues

A port with a service policy lets its frames out when a wake of its own arrives.
The invariant says that a queue with frames has recorded a wake that comes early
enough, and that every recorded wake is pending.
-/

namespace Rios
open Rios.Machine Rios.Link Rios.Ports Rios.Programs
open Rios.Device hiding DeviceError
open Rios.Arp (InterfaceRef)
open Rios.Queue (SimTime ScheduledEvent ScheduleError EventQueue Refines insertStable)
open Rios.QosWaits (Kept)
open Rios.Vlan (EthernetFrame)

namespace Lab

/-! ### What is said of the wakes -/

variable {δ τ : Type} {heap : MaxHeap (ScheduledEvent (SimulationEvent τ)) ScheduledEvent.cmp}

/-- The time, the port and the epoch of a wake. -/
def alarm (scheduled : ScheduledEvent (SimulationEvent τ)) : Option (SimTime × InterfaceRef × UInt64) :=
  match scheduled.event with
  | .QosTransmit source epoch => some (scheduled.time,source,epoch)
  | _ => none

/-- The queue of a port has recorded a wake. -/
def Recorded (self : Lab heap δ) (source : InterfaceRef) (time : SimTime) (epoch : UInt64) : Prop :=
  ∃ runtime, self.qos_queues.get? source = some runtime ∧ runtime.wakes.get? time = some epoch

/-- A queue was made for the cable as it is. -/
def QosPortRuntime.On (runtime : QosPortRuntime) (link : Link) : Prop :=
  link.id = runtime.link ∧ link.generation = runtime.generation

/-- A recorded wake comes no later than the time at which a frame could leave. -/
def QosPortRuntime.Covered (runtime : QosPortRuntime) (now available : SimTime) : Prop :=
  ∃ first time epoch, (runtime.queue.next_ready now).1 = .ok (some first) ∧ runtime.wakes.get? time = some epoch ∧
    time ≤ max first available

/-- The pending wakes: no epoch occurs twice, none is from the future, and the recorded ones are among them. -/
structure Alarms (lab : Lab heap δ) (wakes : List (SimTime × InterfaceRef × UInt64)) : Prop where
  distinct : (wakes.map (·.2.2)).Nodup
  past : ∀ wake ∈ wakes, wake.2.2 ≤ lab.qos_epoch
  pending : ∀ source time epoch, lab.Recorded source time epoch → (time,source,epoch) ∈ wakes

/-! ### The invariant -/

/-- What holds of a queue that a lab has for a port. -/
structure Owned (lab : Lab heap δ) (source : InterfaceRef) (runtime : QosPortRuntime) : Prop where
  device : lab.devices.contains source.device = true
  link : runtime.link ≤ lab.next_link_id
  queue : Kept lab.now runtime.queue
  aged : ∀ id link, lab.link_at source = some (id,link) → link.id = runtime.link → runtime.generation ≤ link.generation

/-- The output queues of a lab since `start`. The queue of the port `spared` may miss its wake, and only
    the queues of the ports that are `firm` need to be attached to their cables. -/
structure Woken (start : Lab heap δ) (spared : Option InterfaceRef) (firm : InterfaceRef → Prop) (lab : Lab heap δ) : Prop where
  numbered : ∀ id link, lab.links.get? id = some link → link.id ≤ lab.next_link_id
  owned : ∀ source runtime, lab.qos_queues.get? source = some runtime → Owned lab source runtime
  attached : ∀ source runtime, firm source → lab.qos_queues.get? source = some runtime →
    ∃ id link, lab.link_at source = some (id,link) ∧ runtime.On link
  alarms : ∃ reference waiting, Refines lab.events reference waiting ∧ Alarms lab (waiting.filterMap alarm)
  epoch : start.qos_epoch ≤ lab.qos_epoch
  since : ∀ source time epoch, lab.Recorded source time epoch → start.Recorded source time epoch ∨ start.qos_epoch < epoch
  armed : ∀ source runtime id link, lab.qos_queues.get? source = some runtime → lab.link_at source = some (id,link) →
    runtime.On link → 0 < runtime.queue.length →
    spared = some source ∨ runtime.Covered lab.now ((link.direction source).available_at lab.now)

/-- What is promised of the output queues of a lab. -/
structure Unstalled (net : Behaviour δ) (lab : Lab heap δ) : Prop where
  armed : ∀ source runtime, lab.qos_queues.get? source = some runtime → ∃ id link, lab.link_at source = some (id,link) ∧
    runtime.On link ∧ (0 < runtime.queue.length → ∃ first time epoch, (runtime.queue.next_ready lab.now).1 = .ok (some first) ∧
      lab.Recorded source time epoch ∧ time ≤ max first ((link.direction source).available_at lab.now))
  pending : ∀ source time epoch, lab.Recorded source time epoch →
    ((heap.contents lab.events.pending).filterMap alarm).count (time,source,epoch) = 1
  distinct : (((heap.contents lab.events.pending).filterMap alarm).map (·.2.2)).Nodup
  stale : ∀ reaction time source epoch sequence events,
    lab.events.step = (some ⟨time,.QosTransmit source epoch,sequence⟩,events) → ¬ lab.Recorded source time epoch →
      (step net reaction : LabM heap δ (Option EventOutcome)).exec lab = (.ok none,{ lab with events })
  leaves : ∀ reaction time source epoch sequence events runtime id link first,
    lab.events.step = (some ⟨time,.QosTransmit source epoch,sequence⟩,events) → lab.qos_queues.get? source = some runtime →
      runtime.wakes.get? time = some epoch → lab.link_at source = some (id,link) →
      (link.direction source).available_at time ≤ time → (runtime.queue.next_ready lab.now).1 = .ok (some first) →
        first ≤ time →
      ∃ departure rest, runtime.queue.dequeue_ready time = (some departure,rest) ∧ rest.length + 1 = runtime.queue.length ∧
        (step net reaction : LabM heap δ (Option EventOutcome)).exec lab =
          (do
            depart net source departure.packet
            schedule_qos source
            pure none : LabM heap δ (Option EventOutcome)).exec { lab with
              events
              qos_queues := lab.qos_queues.insert source { runtime with queue := rest, wakes := runtime.wakes.erase time } }

variable {start self after : Lab heap δ} {spared : Option InterfaceRef} {firm : InterfaceRef → Prop}

/-! ### Cables and devices -/

/-- What a cable becomes: in its generation the transmitters are free no earlier. -/
structure Succeeds (now : SimTime) (old new : Link) : Prop where
  id : new.id = old.id
  generation : old.generation ≤ new.generation
  available : new.generation = old.generation → ∀ source,
    (old.direction source).available_at now ≤ (new.direction source).available_at now

theorem Succeeds.refl (now : SimTime) (link : Link) : Succeeds now link link := ⟨rfl,le_rfl,fun _ _ => le_rfl⟩

/-- The output queues and the events stay; devices are added and cables become others or go. -/
structure Onward (before after : Lab heap δ) : Prop where
  qos_queues : after.qos_queues = before.qos_queues
  qos_epoch : after.qos_epoch = before.qos_epoch
  next_link_id : after.next_link_id = before.next_link_id
  events : after.events = before.events
  devices : ∀ id, before.devices.contains id = true → after.devices.contains id = true
  links : ∀ id link, after.links.get? id = some link → ∃ old, before.links.get? id = some old ∧ Succeeds before.now old link
  ports : ∀ source id, after.ports.get? source = some id → before.ports.get? source = some id

variable {source : InterfaceRef} {id : UInt64}

/-- A cable at a port was there before. -/
theorem Onward.link_at (onward : Onward self after) {link : Link} (found : after.link_at source = some (id,link)) :
    ∃ old, self.link_at source = some (id,old) ∧ Succeeds self.now old link := by
  obtain ⟨port,known⟩ := link_at_some found
  obtain ⟨old,there,succeeds⟩ := onward.links id link known
  refine ⟨old,?_,succeeds⟩
  rw [Lab.link_at,onward.ports source id port]
  show (self.links.get? id).map _ = _
  rw [there]
  rfl

theorem Onward.now (onward : Onward self after) : after.now = self.now := congrArg EventQueue.now onward.events

theorem Onward.recorded (onward : Onward self after) {time : SimTime} {epoch : UInt64} :
    after.Recorded source time epoch ↔ self.Recorded source time epoch := by
  rw [Recorded,Recorded,onward.qos_queues]

theorem Woken.onward (woken : Woken start spared firm self) (onward : Onward self after) {still : InterfaceRef → Prop}
    (attached : ∀ source runtime, still source → self.qos_queues.get? source = some runtime →
      ∃ id link, after.link_at source = some (id,link) ∧ runtime.On link) : Woken start spared still after where
  numbered id link found := by
    obtain ⟨old,there,succeeds⟩ := onward.links id link found
    rw [succeeds.id,onward.next_link_id]
    exact woken.numbered id old there
  owned source runtime found := by
    have owned := woken.owned source runtime (onward.qos_queues ▸ found)
    refine ⟨onward.devices _ owned.device,onward.next_link_id ▸ owned.link,onward.now ▸ owned.queue,fun id link there same => ?_⟩
    obtain ⟨old,before,succeeds⟩ := onward.link_at there
    exact (owned.aged id old before (succeeds.id ▸ same)).trans succeeds.generation
  attached source runtime holds found := attached source runtime holds (onward.qos_queues ▸ found)
  alarms := by
    obtain ⟨reference,waiting,refines,alarms⟩ := woken.alarms
    refine ⟨reference,waiting,onward.events ▸ refines,alarms.distinct,fun wake member => ?_,fun source time epoch recorded => ?_⟩
    · rw [onward.qos_epoch]
      exact alarms.past wake member
    · exact alarms.pending source time epoch (onward.recorded.mp recorded)
  epoch := onward.qos_epoch ▸ woken.epoch
  since source time epoch recorded := woken.since source time epoch (onward.recorded.mp recorded)
  armed source runtime id link found there on waiting := by
    obtain ⟨old,before,succeeds⟩ := onward.link_at there
    have known := onward.qos_queues ▸ found
    -- the queue was on the cable before, as no generation comes back
    have aged := (woken.owned source runtime known).aged id old before (succeeds.id ▸ on.1)
    have same : link.generation = old.generation := le_antisymm (on.2 ▸ aged) succeeds.generation
    rcases woken.armed source runtime id old known before ⟨succeeds.id ▸ on.1,same ▸ on.2⟩ waiting with exempt | covered
    · exact .inl exempt
    · obtain ⟨first,time,epoch,ready,recorded,early⟩ := covered
      rw [onward.now]
      exact .inr ⟨first,time,epoch,ready,recorded,early.trans (max_le_max le_rfl (succeeds.available same source))⟩

/-- The same where cables keep their generation. -/
structure Calm (before after : Lab heap δ) : Prop extends Onward before after where
  stays : ∀ source id link, before.link_at source = some (id,link) →
    ∃ new, after.link_at source = some (id,new) ∧ new.id = link.id ∧ new.generation = link.generation

theorem Woken.calm (woken : Woken start spared firm self) (calm : Calm self after) : Woken start spared firm after := by
  refine woken.onward calm.toOnward fun source runtime holds found => ?_
  obtain ⟨id,link,there,on⟩ := woken.attached source runtime holds found
  obtain ⟨new,now_there,id_eq,generation⟩ := calm.stays source id link there
  exact ⟨id,new,now_there,id_eq.trans on.1,generation.trans on.2⟩

/-- The devices are changed, none goes. -/
theorem Calm.inventory {lab : Lab heap δ} {devices : OrderedMap UInt64 (Ports.Device δ)}
    (stay : ∀ id, lab.devices.contains id = true → devices.contains id = true) : Calm lab { lab with devices } where
  qos_queues := rfl
  qos_epoch := rfl
  next_link_id := rfl
  events := rfl
  devices := stay
  links _ link found := ⟨link,found,.refl _ link⟩
  ports _ _ found := found
  stays _ _ link found := ⟨link,found,rfl,rfl⟩

/-- One device is changed or added. -/
theorem Calm.device (lab : Lab heap δ) (id : UInt64) (device : Ports.Device δ) :
    Calm lab { lab with devices := lab.devices.insert id device } := by
  refine .inventory fun other known => ?_
  rw [OrderedMap.contains_iff] at known ⊢
  rw [OrderedMap.get?_insert]
  by_cases same : other = id
  · exact ⟨device,if_pos same⟩
  · rw [if_neg same]
    exact known

/-- The cable at a port after one cable was replaced. -/
theorem link_at_insert {link : Link} (new : Link) (known : self.links.get? id = some link) {key : UInt64} {found : Link}
    (there : self.link_at source = some (key,found)) :
    ∃ now_there, ({ self with links := self.links.insert id new } : Lab heap δ).link_at source = some (key,now_there) ∧
      (found = link ∧ now_there = new ∨ now_there = found) := by
  obtain ⟨port,old⟩ := link_at_some there
  unfold Lab.link_at
  rw [port,Option.bind_some,OrderedMap.get?_insert]
  by_cases same : key = id
  · subst same
    rw [if_pos rfl]
    exact ⟨new,rfl,.inl ⟨Option.some.inj (old.symm.trans known),rfl⟩⟩
  · rw [if_neg same,old]
    exact ⟨found,rfl,.inr rfl⟩

theorem Onward.replace {link new : Link} (known : self.links.get? id = some link)
    (succeeds : Succeeds self.now link new) :
    Onward self { self with links := self.links.insert id new } where
  qos_queues := rfl
  qos_epoch := rfl
  next_link_id := rfl
  events := rfl
  devices _ found := found
  links key cable found := by
    rcases insert_cases found with ⟨rfl,rfl⟩ | ⟨-,old⟩
    · exact ⟨link,known,succeeds⟩
    · exact ⟨cable,old,.refl _ cable⟩
  ports _ _ found := found

theorem Calm.replace {link new : Link} (known : self.links.get? id = some link) (succeeds : Succeeds self.now link new)
    (same : new.generation = link.generation) :
    Calm self { self with links := self.links.insert id new } where
  toOnward := .replace known succeeds
  stays source key found there := by
    obtain ⟨next,now_there,⟨rfl,rfl⟩ | rfl⟩ := link_at_insert new known there
    · exact ⟨next,now_there,succeeds.id,same⟩
    · exact ⟨next,now_there,rfl,rfl⟩

/-- A transmitter of a cable goes on: it is free no earlier. -/
theorem Calm.direction {link : Link} (known : self.links.get? id = some link) (source : InterfaceRef)
    {runtime : DirectionalLinkRuntime}
    (available : (link.direction source).available_at self.now ≤ runtime.available_at self.now) :
    Calm self { self with links := self.links.insert id (link.with_direction source runtime) } := by
  have generation : (link.with_direction source runtime).generation = link.generation := by
    unfold Link.with_direction
    split <;> rfl
  have number : (link.with_direction source runtime).id = link.id := by
    unfold Link.with_direction
    split <;> rfl
  refine .replace known ⟨number,generation.ge,fun _ other => ?_⟩ generation
  rcases direction_with_direction link source other runtime with ⟨here,same,-⟩ | ⟨here,-⟩
  · rw [here,same]
    exact available
  · rw [here]

theorem Calm.count_queue_drop (lab : Lab heap δ) (source : InterfaceRef) : Calm lab (lab.count_queue_drop source) := by
  unfold Lab.count_queue_drop
  cases found : lab.link_at source with
  | none => exact ⟨⟨rfl,rfl,rfl,rfl,fun _ known => known,fun _ link known => ⟨link,known,.refl _ link⟩,fun _ _ known => known⟩,
      fun _ _ link known => ⟨link,known,rfl,rfl⟩⟩
  | some at_source =>
    obtain ⟨id,link⟩ := at_source
    exact .direction (link_at_some found).2 source le_rfl

/-- The carrier of a cable changes: its queues are no longer attached. -/
theorem Onward.switched {link : Link} (known : self.links.get? id = some link) (active : Bool) {generation : UInt64}
    (next : checkedAdd64 link.generation 1 = some generation) :
    Onward self { self with links := self.links.insert id (link.switched active generation) } := by
  have newer : link.generation < generation := checkedAdd64_lt next
  exact .replace known ⟨rfl,newer.le,fun same => absurd same newer.ne'⟩

/-! ### Cabling -/

/-- A new cable belongs to no queue. -/
theorem Woken.connect (woken : Woken start spared firm self) {a b : InterfaceRef} (config : LinkConfig)
    (next : checkedAdd64 self.next_link_id 1 = some id) :
    Woken start spared (fun _ => False) { self with
      next_link_id := id
      links := self.links.insert id ⟨id,a,b,.Up,config,.default,.default,false,0⟩
      ports := (self.ports.insert a id).insert b id } := by
  have fresh : self.next_link_id < id := checkedAdd64_lt next
  -- the cable of a queue is an older one, at the port to which it belongs
  have old_cable : ∀ source runtime key link, self.qos_queues.get? source = some runtime → Lab.link_at { self with
      next_link_id := id
      links := self.links.insert id ⟨id,a,b,.Up,config,.default,.default,false,0⟩
      ports := (self.ports.insert a id).insert b id } source = some (key,link) → link.id = runtime.link →
      self.link_at source = some (key,link) := by
    intro source runtime key link found there same
    obtain ⟨port,known⟩ := link_at_some there
    rcases insert_cases known with ⟨rfl,rfl⟩ | ⟨apart,known⟩
    · exact absurd (woken.owned source runtime found).link (not_le.mpr (same ▸ fresh))
    · have plugged : self.ports.get? source = some key := by
        rcases insert_cases port with ⟨-,same⟩ | ⟨-,port⟩
        · exact absurd same apart
        · rcases insert_cases port with ⟨-,same⟩ | ⟨-,port⟩
          · exact absurd same apart
          · exact port
      rw [Lab.link_at,plugged]
      show (self.links.get? key).map _ = _
      rw [known]
      rfl
  obtain ⟨reference,waiting,refines,alarms⟩ := woken.alarms
  refine ⟨fun key link found => ?_,fun source runtime found => ?_,fun source runtime never => never.elim,
    ⟨reference,waiting,refines,alarms.distinct,alarms.past,alarms.pending⟩,woken.epoch,woken.since,
    fun source runtime key link found there on => ?_⟩
  · rcases insert_cases found with ⟨rfl,rfl⟩ | ⟨-,old⟩
    · exact le_rfl
    · exact (woken.numbered key link old).trans fresh.le
  · have owned := woken.owned source runtime found
    exact ⟨owned.device,owned.link.trans fresh.le,owned.queue,fun key link there same =>
      owned.aged key link (old_cable source runtime key link found there same) same⟩
  · exact woken.armed source runtime key link found (old_cable source runtime key link found there on.1) on

/-- A cable is removed. -/
theorem Onward.disconnect (lab : Lab heap δ) (id : UInt64) (a b : InterfaceRef) :
    Onward lab { lab with links := lab.links.erase id, ports := (lab.ports.erase a).erase b } where
  qos_queues := rfl
  qos_epoch := rfl
  next_link_id := rfl
  events := rfl
  devices _ known := known
  links _ link found := ⟨link,OrderedMap.get?_erase_some found,.refl _ link⟩
  ports _ _ found := OrderedMap.get?_erase_some (OrderedMap.get?_erase_some found)

/-! ### Events -/

/-- A wait for a transmitter does not become shorter. -/
theorem available_at_later (runtime : DirectionalLinkRuntime) {now later : SimTime} (passed : now ≤ later) :
    runtime.available_at now ≤ runtime.available_at later := by
  unfold DirectionalLinkRuntime.available_at
  cases runtime.finishes.getLast? with
  | none => exact max_le_max passed passed
  | some finish => exact max_le_max le_rfl passed

/-- Time passes, and the pending wakes are those of the new queue. -/
theorem Woken.pass (woken : Woken start spared firm self) {events : EventQueue heap} (passed : self.now ≤ events.now)
    (alarms : ∃ reference waiting, Refines events reference waiting ∧ Alarms self (waiting.filterMap alarm)) :
    Woken start spared firm { self with events } where
  numbered := woken.numbered
  owned source runtime found := by
    have owned := woken.owned source runtime found
    exact ⟨owned.device,owned.link,owned.queue.lasts passed,owned.aged⟩
  attached := woken.attached
  alarms := by
    obtain ⟨reference,waiting,refines,alarms⟩ := alarms
    exact ⟨reference,waiting,refines,alarms.distinct,alarms.past,alarms.pending⟩
  epoch := woken.epoch
  since := woken.since
  armed source runtime id link found there on waiting := by
    rcases woken.armed source runtime id link found there on waiting with exempt | ⟨first,time,epoch,ready,recorded,early⟩
    · exact .inl exempt
    · refine .inr ⟨max first events.now,time,epoch,?_,recorded,?_⟩
      · exact (woken.owned source runtime found).queue.next_ready_later passed ready
      · exact early.trans (max_le_max (le_max_left ..) (available_at_later _ passed))

theorem Alarms.perm {wakes others : List (SimTime × InterfaceRef × UInt64)} (alarms : Alarms self wakes)
    (perm : wakes.Perm others) :
    Alarms self others where
  distinct := (perm.map _).nodup_iff.mp alarms.distinct
  past wake member := alarms.past wake (perm.mem_iff.mpr member)
  pending source time epoch recorded := perm.mem_iff.mp (alarms.pending source time epoch recorded)

/-- One more wake, of an epoch that is new. -/
theorem Alarms.arm {wakes : List (SimTime × InterfaceRef × UInt64)} (alarms : Alarms self wakes) {deadline : SimTime}
    (newer : self.qos_epoch < after.qos_epoch) (recorded : ∀ other time number, after.Recorded other time number →
    (other = source ∧ time = deadline ∧ number = after.qos_epoch) ∨ self.Recorded other time number) :
    Alarms after ((deadline,source,after.qos_epoch) :: wakes) where
  distinct := by
    refine List.nodup_cons.mpr ⟨fun member => ?_,alarms.distinct⟩
    obtain ⟨wake,old,same⟩ := List.mem_map.mp member
    exact absurd (alarms.past wake old) (not_le.mpr (same ▸ newer))
  past wake member := by
    rcases List.mem_cons.mp member with rfl | old
    · exact le_rfl
    · exact (alarms.past wake old).trans newer.le
  pending other time number wake := by
    rcases recorded other time number wake with ⟨rfl,rfl,rfl⟩ | old
    · exact List.mem_cons_self
    · exact List.mem_cons_of_mem _ (alarms.pending other time number old)

theorem schedule_at_now {E : Type} {queue_heap : MaxHeap (ScheduledEvent E) ScheduledEvent.cmp}
    (events : EventQueue queue_heap) (time : SimTime) (event : E) :
    (events.schedule_at time event).2.now = events.now := by
  unfold EventQueue.schedule_at
  by_cases past : time < events.now
  · rw [if_pos past]
  · rw [if_neg past]
    cases checkedAdd64 events.next_sequence 1 <;> rfl

/-- An event that is no wake is put into the queue. -/
theorem Woken.schedule_at (woken : Woken start spared firm self) (time : SimTime) {event : SimulationEvent τ}
    (quiet : ∀ sequence, alarm ⟨time,event,sequence⟩ = none) :
    Woken start spared firm { self with events := (self.events.schedule_at time event).2 } := by
  obtain ⟨reference,waiting,refines,alarms⟩ := woken.alarms
  cases result : (self.events.schedule_at time event).1 with
  | error error =>
    rw [(Queue.schedule_at_refused result).1]
    exact woken
  | ok done =>
    obtain ⟨⟨next,refined⟩,-⟩ := Queue.schedule_at_accepted refines result
    refine woken.pass (schedule_at_now ..).ge ⟨next,_,refined,alarms.perm ?_⟩
    have perm := ((Queue.insertStable_perm (·.time) ⟨time,event,self.events.next_sequence⟩ waiting).filterMap alarm).symm
    rwa [List.filterMap_cons_none (quiet _)] at perm

theorem Woken.schedule_after (woken : Woken start spared firm self) (delay_ms : UInt64) {event : SimulationEvent τ}
    (quiet : ∀ time sequence, alarm ⟨time,event,sequence⟩ = none) :
    Woken start spared firm { self with events := (self.events.schedule_after delay_ms event).2 } := by
  rcases Queue.schedule_after_cases self.events delay_ms event with refused | ⟨time,same⟩
  · rw [refused]
    exact woken
  · rw [same]
    exact woken.schedule_at time (quiet time)

theorem Woken.advance_to (woken : Woken start spared firm self) (time : SimTime) :
    Woken start spared firm { self with events := (self.events.advance_to time).2 } := by
  obtain ⟨reference,waiting,refines,alarms⟩ := woken.alarms
  obtain ⟨⟨next,refined⟩,-⟩ := Queue.advance_to_refines refines time
  refine woken.pass ?_ ⟨next,waiting,refined,alarms⟩
  unfold EventQueue.advance_to
  by_cases past : time < self.events.now
  · rw [if_pos past]
    exact le_rfl
  · rw [if_neg past]
    by_cases due : self.events.next_time.any (· ≤ time) = true
    · rw [if_pos due]
      exact le_rfl
    · rw [if_neg due]
      exact not_lt.mp past

/-- Nothing that the invariant speaks of differs. -/
theorem Woken.same (woken : Woken start spared firm self) (qos_queues : after.qos_queues = self.qos_queues)
    (qos_epoch : after.qos_epoch = self.qos_epoch) (next_link_id : after.next_link_id = self.next_link_id)
    (events : after.events = self.events) (devices : after.devices = self.devices) (links : after.links = self.links)
    (ports : after.ports = self.ports) : Woken start spared firm after := by
  refine woken.calm ⟨⟨qos_queues,qos_epoch,next_link_id,events,fun _ known => devices ▸ known,
    fun _ link known => ⟨link,links ▸ known,.refl _ link⟩,fun _ _ known => ports ▸ known⟩,fun source id link there => ?_⟩
  rw [Lab.link_at,links,ports]
  exact ⟨link,there,rfl,rfl⟩

theorem Woken.draw (woken : Woken start spared firm self) (rng : SimulationRng) :
    Woken start spared firm { self with rng } :=
  woken.same rfl rfl rfl rfl rfl rfl rfl

/-! ### Queues -/

/-- The queue of a port is dissolved; none is left to attach. -/
theorem Woken.erase (woken : Woken start spared firm self) (source : InterfaceRef) :
    Woken start spared (fun other => firm other ∨ other = source) { self with qos_queues := self.qos_queues.erase source } := by
  have kept : ∀ other runtime, (self.qos_queues.erase source).get? other = some runtime →
      other ≠ source ∧ self.qos_queues.get? other = some runtime := by
    intro other runtime found
    rw [OrderedMap.get?_erase] at found
    by_cases same : other = source
    · rw [if_pos same] at found
      cases found
    · rw [if_neg same] at found
      exact ⟨same,found⟩
  have recorded : ∀ other time epoch, Recorded { self with qos_queues := self.qos_queues.erase source } other time epoch →
      self.Recorded other time epoch :=
    fun other time epoch ⟨runtime,found,known⟩ => ⟨runtime,(kept other runtime found).2,known⟩
  obtain ⟨reference,waiting,refines,alarms⟩ := woken.alarms
  refine ⟨woken.numbered,fun other runtime found => ?_,fun other runtime holds found => ?_,
    ⟨reference,waiting,refines,alarms.distinct,alarms.past,fun other time epoch known => ?_⟩,woken.epoch,
    fun other time epoch known => woken.since other time epoch (recorded other time epoch known),fun other runtime id link found => ?_⟩
  · have owned := woken.owned other runtime (kept other runtime found).2
    exact ⟨owned.device,owned.link,owned.queue,owned.aged⟩
  · obtain ⟨apart,old⟩ := kept other runtime found
    exact woken.attached other runtime (holds.resolve_right apart) old
  · exact alarms.pending other time epoch (recorded other time epoch known)
  · exact woken.armed other runtime id link (kept other runtime found).2

/-- The queue of a port is put in place, with wakes that were recorded; if it misses its wake, the port is spared. -/
theorem Woken.put (woken : Woken start spared firm self) {next : QosPortRuntime} (owned : Owned self source next)
    (attached : firm source → ∃ id link, self.link_at source = some (id,link) ∧ next.On link)
    (wakes : ∀ time epoch, next.wakes.get? time = some epoch → self.Recorded source time epoch)
    {others : Option InterfaceRef} (still : ∀ other, spared = some other → other = source ∨ others = some other)
    (cover : ∀ id link, self.link_at source = some (id,link) → next.On link → 0 < next.queue.length →
    others = some source ∨ next.Covered self.now ((link.direction source).available_at self.now)) :
    Woken start others firm { self with qos_queues := self.qos_queues.insert source next } := by
  have recorded : ∀ other time epoch, Recorded { self with qos_queues := self.qos_queues.insert source next } other time epoch →
      self.Recorded other time epoch := by
    rintro other time epoch ⟨runtime,found,known⟩
    rcases insert_cases found with ⟨rfl,rfl⟩ | ⟨-,old⟩
    · exact wakes time epoch known
    · exact ⟨runtime,old,known⟩
  obtain ⟨reference,waiting,refines,alarms⟩ := woken.alarms
  refine ⟨woken.numbered,fun other runtime found => ?_,fun other runtime holds found => ?_,
    ⟨reference,waiting,refines,alarms.distinct,alarms.past,fun other time epoch known => ?_⟩,woken.epoch,
    fun other time epoch known => woken.since other time epoch (recorded other time epoch known),
    fun other runtime id link found there on pending => ?_⟩
  · rcases insert_cases found with ⟨rfl,rfl⟩ | ⟨-,old⟩
    · exact ⟨owned.device,owned.link,owned.queue,owned.aged⟩
    · have owned := woken.owned other runtime old
      exact ⟨owned.device,owned.link,owned.queue,owned.aged⟩
  · rcases insert_cases found with ⟨rfl,rfl⟩ | ⟨-,old⟩
    · exact attached holds
    · exact woken.attached other runtime holds old
  · exact alarms.pending other time epoch (recorded other time epoch known)
  · rcases insert_cases found with ⟨rfl,rfl⟩ | ⟨apart,old⟩
    · exact cover id link there on pending
    · rcases woken.armed other runtime id link old there on pending with exempt | covered
      · exact .inl ((still other exempt).resolve_left apart)
      · exact .inr covered

/-- The scheduler of a queue was called; its wakes are some of those it had. -/
theorem Woken.call (woken : Woken start spared firm self) {runtime : QosPortRuntime}
    (found : self.qos_queues.get? source = some runtime) {queue : Qos.QosScheduler EthernetFrame}
    (kept : Kept self.now queue) {wakes : OrderedMap SimTime UInt64}
    (fewer : ∀ time epoch, wakes.get? time = some epoch → runtime.wakes.get? time = some epoch)
    {others : Option InterfaceRef} (still : ∀ other, spared = some other → other = source ∨ others = some other)
    (cover : ∀ id link, self.link_at source = some (id,link) → runtime.On link → 0 < queue.length →
    others = some source ∨ ({ runtime with queue, wakes } : QosPortRuntime).Covered self.now
    ((link.direction source).available_at self.now)) :
    Woken start others firm { self with qos_queues := self.qos_queues.insert source { runtime with queue, wakes } } := by
  have owned := woken.owned source runtime found
  have called : Owned self source { runtime with queue, wakes } := ⟨owned.device,owned.link,kept,owned.aged⟩
  exact woken.put called (fun holds => woken.attached source runtime holds found)
    (fun time epoch known => ⟨runtime,found,fewer time epoch known⟩) still cover

/-- A spared port without a cable, or without a queue, misses nothing. -/
theorem Woken.unspared (woken : Woken start (some source) firm self)
    (covered : ∀ runtime id link, self.qos_queues.get? source = some runtime → self.link_at source = some (id,link) →
    runtime.On link → 0 < runtime.queue.length → runtime.Covered self.now ((link.direction source).available_at self.now)) :
    Woken start none firm self where
  numbered := woken.numbered
  owned := woken.owned
  attached := woken.attached
  alarms := woken.alarms
  epoch := woken.epoch
  since := woken.since
  armed other runtime id link found there on pending := by
    rcases woken.armed other runtime id link found there on pending with same | kept
    · cases same
      exact .inr (covered runtime id link found there on pending)
    · exact .inr kept

/-- Fewer ports need to be attached. -/
theorem Woken.loosen (woken : Woken start spared firm self) {fewer : InterfaceRef → Prop}
    (implies : ∀ source, fewer source → firm source) : Woken start spared fewer self where
  numbered := woken.numbered
  owned := woken.owned
  attached source runtime holds := woken.attached source runtime (implies source holds)
  alarms := woken.alarms
  epoch := woken.epoch
  since := woken.since
  armed := woken.armed

/-- No port needs to be attached. -/
theorem Woken.detach (woken : Woken start spared firm self) : Woken start spared (fun _ => False) self :=
  woken.loosen fun _ never => never.elim

/-! ### Wakes -/

/-- A wake of the next epoch is put into the queue of events and recorded; its port is no longer spared. -/
theorem Woken.arm (woken : Woken start (some source) firm self) {runtime : QosPortRuntime}
    (found : self.qos_queues.get? source = some runtime) {epoch : UInt64} (next : checkedAdd64 self.qos_epoch 1 = some epoch)
    {deadline first : SimTime} (ready : (runtime.queue.next_ready self.now).1 = .ok (some first))
    (early : ∀ id link, self.link_at source = some (id,link) → deadline ≤ max first ((link.direction source).available_at self.now))
    (accepted : (self.events.schedule_at deadline (.QosTransmit source epoch)).1 = .ok ()) :
    Woken start none firm { self with
      qos_epoch := epoch
      events := (self.events.schedule_at deadline (.QosTransmit source epoch)).2
      qos_queues := self.qos_queues.insert source { runtime with wakes := runtime.wakes.insert deadline epoch } } := by
  have newer : self.qos_epoch < epoch := checkedAdd64_lt next
  let armed : QosPortRuntime := { runtime with wakes := runtime.wakes.insert deadline epoch }
  have same_time : (self.events.schedule_at deadline (.QosTransmit source epoch)).2.now = self.events.now :=
    schedule_at_now ..
  have recorded : ∀ other time number, Recorded { self with
      qos_epoch := epoch
      events := (self.events.schedule_at deadline (.QosTransmit source epoch)).2
      qos_queues := self.qos_queues.insert source armed } other time number →
      (other = source ∧ time = deadline ∧ number = epoch) ∨ self.Recorded other time number := by
    rintro other time number ⟨known,present,wake⟩
    rcases insert_cases present with ⟨rfl,rfl⟩ | ⟨-,old⟩
    · rcases insert_cases wake with ⟨rfl,rfl⟩ | ⟨-,before⟩
      · exact .inl ⟨rfl,rfl,rfl⟩
      · exact .inr ⟨runtime,found,before⟩
    · exact .inr ⟨known,old,wake⟩
  obtain ⟨reference,waiting,refines,alarms⟩ := woken.alarms
  obtain ⟨⟨renewed,refined⟩,-⟩ := Queue.schedule_at_accepted refines accepted
  have perm := (Queue.insertStable_perm (·.time) ⟨deadline,.QosTransmit source epoch,self.events.next_sequence⟩
    waiting).filterMap alarm
  have rings : alarm (⟨deadline,.QosTransmit source epoch,self.events.next_sequence⟩ : ScheduledEvent (SimulationEvent τ)) =
    some (deadline,source,epoch) := rfl
  rw [List.filterMap_cons_some rings] at perm
  have owned := woken.owned source runtime found
  refine ⟨woken.numbered,fun other known present => ?_,fun other known holds present => ?_,⟨renewed,_,refined,?_⟩,
    woken.epoch.trans newer.le,fun other time number wake => ?_,fun other known id link present there on pending => ?_⟩
  · rcases insert_cases present with ⟨rfl,rfl⟩ | ⟨-,old⟩
    · exact ⟨owned.device,owned.link,owned.queue.lasts same_time.ge,owned.aged⟩
    · have owned := woken.owned other known old
      exact ⟨owned.device,owned.link,owned.queue.lasts same_time.ge,owned.aged⟩
  · rcases insert_cases present with ⟨rfl,rfl⟩ | ⟨-,old⟩
    · exact woken.attached _ runtime holds found
    · exact woken.attached other known holds old
  · exact (alarms.arm newer recorded).perm perm.symm
  · rcases recorded other time number wake with ⟨rfl,rfl,rfl⟩ | old
    · exact .inr (woken.epoch.trans_lt newer)
    · exact woken.since other time number old
  · rcases insert_cases present with ⟨rfl,rfl⟩ | ⟨apart,old⟩
    · refine .inr ⟨first,deadline,epoch,?_,OrderedMap.get?_insert_self .., ?_⟩
      · show (runtime.queue.next_ready (self.events.schedule_at deadline _).2.now).1 = _
        rw [same_time]
        exact ready
      · show deadline ≤ max first ((link.direction other).available_at (self.events.schedule_at deadline _).2.now)
        rw [same_time]
        exact early id link there
    · rcases woken.armed other known id link old there on pending with same | covered
      · exact absurd (Option.some.inj same).symm apart
      · refine .inr ?_
        show known.Covered (self.events.schedule_at deadline _).2.now
          ((link.direction other).available_at (self.events.schedule_at deadline _).2.now)
        rw [same_time]
        exact covered

/-- An event leaves the queue. A wake that its port had recorded spares the port, which forgets it. -/
theorem Woken.pop (woken : Woken start none firm self) {scheduled : ScheduledEvent (SimulationEvent τ)}
    {events : EventQueue heap} (popped : self.events.step = (some scheduled,events))
    (unrecorded : ∀ time source epoch, alarm scheduled = some (time,source,epoch) → ¬ self.Recorded source time epoch) :
    Woken start none firm { self with events } := by
  obtain ⟨reference,waiting,refines,alarms⟩ := woken.alarms
  obtain ⟨rest,next,rfl,refined,-,time⟩ := Queue.step_popped refines popped
  have passed : self.now ≤ events.now := time ▸ refines.future scheduled List.mem_cons_self
  refine woken.pass passed ⟨next,rest,refined,?_⟩
  cases wakes : alarm scheduled with
  | none =>
    rw [List.filterMap_cons_none wakes] at alarms
    exact alarms
  | some wake =>
    rw [List.filterMap_cons_some wakes] at alarms
    refine ⟨(List.nodup_cons.mp alarms.distinct).2,fun other member => alarms.past other (List.mem_cons_of_mem _ member),
      fun source time epoch recorded => ?_⟩
    rcases List.mem_cons.mp (alarms.pending source time epoch recorded) with same | old
    · exact absurd recorded (unrecorded time source epoch (same ▸ wakes))
    · exact old

/-- The wake of a port arrives: the port forgets it, and is spared until it has been serviced. -/
theorem Woken.wake (woken : Woken start none firm self) {time : SimTime} {epoch sequence : UInt64}
    {events : EventQueue heap} (popped : self.events.step = (some ⟨time,.QosTransmit source epoch,sequence⟩,events))
    {runtime : QosPortRuntime} (found : self.qos_queues.get? source = some runtime) :
    Woken start (some source) firm { self with
      events
      qos_queues := self.qos_queues.insert source { runtime with wakes := runtime.wakes.erase time } } := by
  have fewer : ∀ at_time number, (runtime.wakes.erase time).get? at_time = some number →
      at_time ≠ time ∧ runtime.wakes.get? at_time = some number := by
    intro at_time number known
    rw [OrderedMap.get?_erase] at known
    by_cases same : at_time = time
    · rw [if_pos same] at known
      cases known
    · rw [if_neg same] at known
      exact ⟨same,known⟩
  have forgotten : Woken start (some source) firm { self with
      qos_queues := self.qos_queues.insert source { runtime with wakes := runtime.wakes.erase time } } :=
    woken.call found (woken.owned source runtime found).queue (fun at_time number known => (fewer at_time number known).2)
      (fun other same => absurd same (Option.some_ne_none other).symm) (fun _ _ _ _ _ => .inl rfl)
  -- the wake is no longer recorded, as no epoch is recorded twice
  have gone : ∀ other at_time number, Recorded { self with
      qos_queues := self.qos_queues.insert source { runtime with wakes := runtime.wakes.erase time } } other at_time number →
      (at_time,other,number) ≠ (time,source,epoch) ∧ self.Recorded other at_time number := by
    rintro other at_time number ⟨known,present,wake⟩
    rcases insert_cases present with ⟨rfl,rfl⟩ | ⟨apart,old⟩
    · obtain ⟨different,before⟩ := fewer at_time number wake
      exact ⟨fun same => different (congrArg (·.1) same),runtime,found,before⟩
    · exact ⟨fun same => apart (congrArg (·.2.1) same),known,old,wake⟩
  obtain ⟨reference,waiting,refines,alarms⟩ := woken.alarms
  obtain ⟨rest,next,rfl,refined,-,arrived⟩ := Queue.step_popped refines popped
  have passed : self.now ≤ events.now := arrived ▸ refines.future _ List.mem_cons_self
  refine forgotten.pass passed ⟨next,rest,refined,?_⟩
  have rings : alarm (⟨time,.QosTransmit source epoch,sequence⟩ : ScheduledEvent (SimulationEvent τ)) =
    some (time,source,epoch) := rfl
  rw [List.filterMap_cons_some rings] at alarms
  refine ⟨(List.nodup_cons.mp alarms.distinct).2,fun other member => alarms.past other (List.mem_cons_of_mem _ member),
    fun other at_time number known => ?_⟩
  obtain ⟨different,before⟩ := gone other at_time number known
  exact (List.mem_cons.mp (alarms.pending other at_time number before)).resolve_left different

end Lab
end Rios
