import Rios.Arp
import Rios.DhcpCodec
import Rios.Queue

/-!
# The timers of a DHCP client

Leases are renewed and expired by events that are never cancelled: an event that
does not match the lease it finds is stale. The expiry of a lease is always
pending, and no other lease's timer removes it. Two chains of renewals need two
leases that end at the same instant.
-/

namespace Rios.DhcpTimers
open Rios.Machine Rios.Device Rios.Dhcp Rios.Queue
open Rios.Arp (InterfaceRef)

def DHCP_RETRY_MS : UInt64 := 4000

/-- The failures of a lab that the client can meet. -/
inductive LabError where
  | DhcpUnsupported
  | Schedule (error : ScheduleError)
  | Capacity
  | Protocol
deriving DecidableEq

/-- Acknowledged lease of a client interface. -/
structure DhcpLease where
  address : Ipv4Addr
  prefix_len : UInt8
  default_router : Option Ipv4Addr
  server_id : Ipv4Addr
  expires_at : SimTime
  dns_servers : List Ipv4Addr
  domain_name : Option String
  renew_at : SimTime
  rebind_at : SimTime
deriving DecidableEq

/-- The events of the queue; those of other protocols are only told apart. -/
inductive SimulationEvent where
  | DhcpClient (device generation : UInt64)
  | DhcpProbe (interface : InterfaceRef) (xid : UInt32)
  | DhcpRenew (interface : InterfaceRef) (deadline : SimTime)
  | DhcpLeaseExpired (interface : InterfaceRef) (address : Ipv4Addr) (deadline : SimTime)
  | Other (label : Nat)
deriving DecidableEq

/-- The part of a lab that its DHCP clients use. -/
structure Lab where
  events : Reference SimulationEvent
  /-- Whether an interface is configured as a client. -/
  dhcp_clients : OrderedMap InterfaceRef Bool
  macs : OrderedMap InterfaceRef MacAddress
  dhcp_leases : OrderedMap InterfaceRef DhcpLease
  dhcp_transactions : OrderedMap InterfaceRef UInt32
  next_dhcp_xid : UInt32
  dhcp_probes : OrderedMap InterfaceRef DhcpMessage
  dhcp_retry_after : OrderedMap InterfaceRef SimTime
  dhcp_generations : OrderedMap UInt64 UInt64

/-- What a call meets outside of the client: ports that are up, and frames that can be sent. -/
structure Surroundings where
  protocol_up : InterfaceRef → Bool
  sent : InterfaceRef → Bool

namespace Lab

def now (self : Lab) : SimTime := self.events.now

def schedule_at (self : Lab) (time : SimTime) (event : SimulationEvent) : Except LabError Unit × Lab :=
  match self.events.insert time event with
  | (.ok (),events) => (.ok (),{ self with events })
  | (.error error,_) => (.error (.Schedule error),self)

def schedule_after (self : Lab) (delay_ms : UInt64) (event : SimulationEvent) : Except LabError Unit × Lab :=
  if 2 ^ 64 ≤ self.now.toNat + delay_ms.toNat * 1000 then (.error (.Schedule .Overflow),self)
  else self.schedule_at (self.now + delay_ms * 1000) event

/-! ### Leases -/

/-- Install an acknowledged lease on a configured client interface. -/
def install_dhcp_lease (self : Lab) (interface : InterfaceRef) (lease : DhcpLease) : Except LabError Unit × Lab :=
  if self.dhcp_clients.get? interface = some true then
    (.ok (),{ self with dhcp_leases := self.dhcp_leases.insert interface lease })
  else (.error .DhcpUnsupported,self)

/-- Expire one matching client lease and report whether it was removed. -/
def expire_dhcp_lease (self : Lab) (interface : InterfaceRef) (address : Ipv4Addr) (deadline : SimTime) : Bool × Lab :=
  if (self.dhcp_leases.get? interface).any (fun lease => lease.address = address && lease.expires_at ≤ deadline) then
    (true,{ self with dhcp_leases := self.dhcp_leases.erase interface })
  else (false,self)

/-- The client interfaces of a device that need an address. -/
def pending_clients (self : Lab) (device : UInt64) : List InterfaceRef :=
  self.dhcp_clients.keys.filter (fun interface =>
    interface.device = device && self.dhcp_clients.get? interface = some true && !self.dhcp_leases.contains interface)

/-- Whether a configured client still needs an address, even while its link is down. -/
def has_pending_dhcp_client (self : Lab) (device : UInt64) : Bool := !(self.pending_clients device).isEmpty

/-- Start again: what was under way for the device is forgotten. -/
def schedule_dhcp_now (self : Lab) (device : UInt64) : Except LabError Unit × Lab :=
  match checkedAdd64 ((self.dhcp_generations.get? device).getD 0) 1 with
  | none => (.error .Capacity,self)
  | some generation =>
    let self := { self with
      dhcp_generations := self.dhcp_generations.insert device generation
      dhcp_probes := self.dhcp_probes.retain (fun interface _ => interface.device ≠ device)
      dhcp_transactions := self.dhcp_transactions.retain (fun interface _ => interface.device ≠ device) }
    if self.has_pending_dhcp_client device then self.schedule_at self.now (.DhcpClient device generation) else (.ok (),self)

/-! ### Discovery -/

/-- `wrapping_add(1).max(1)`. -/
def next_xid (self : Lab) : UInt32 := max (self.next_dhcp_xid + 1) 1

/-- A new transaction of an interface. -/
def begin_transaction (self : Lab) (interface : InterfaceRef) : Lab :=
  { self with next_dhcp_xid := self.next_xid, dhcp_transactions := self.dhcp_transactions.insert interface self.next_xid }

/-- The loop of `send_dhcp_discovers`. -/
def discover (around : Surroundings) : Lab → List InterfaceRef → Except LabError Unit × Lab
  | self,[] => (.ok (),self)
  | self,interface :: rest =>
    if self.dhcp_probes.contains interface || (self.dhcp_retry_after.get? interface).any (self.now < ·) then
      discover around self rest
    else
      let self := { self with dhcp_retry_after := self.dhcp_retry_after.erase interface }.begin_transaction interface
      if around.sent interface then discover around self rest else (.error .Protocol,self)

def send_dhcp_discovers (self : Lab) (around : Surroundings) (device generation : UInt64) : Except LabError Unit × Lab :=
  if self.dhcp_generations.get? device ≠ some generation then (.ok (),self)
  else
    match discover around self ((self.pending_clients device).filter around.protocol_up) with
    | (.error error,self) => (.error error,self)
    | (.ok (),self) =>
      if self.has_pending_dhcp_client device then self.schedule_after DHCP_RETRY_MS (.DhcpClient device generation) else (.ok (),self)

/-- Probe an offered address before requesting it. -/
def begin_dhcp_probe (self : Lab) (around : Surroundings) (interface : InterfaceRef) (message : DhcpMessage) :
    Except LabError Unit × Lab :=
  if message.your_ip = 0 || (224 ≤ first_octet message.your_ip && first_octet message.your_ip ≤ 239) ||
      message.your_ip = 0xffffffff then (.ok (),self)
  else
    let self := { self with dhcp_probes := self.dhcp_probes.insert interface message }
    if around.sent interface then self.schedule_after 200 (.DhcpProbe interface message.transaction_id)
    else (.error .Protocol,self)

def finish_dhcp_probe (self : Lab) (around : Surroundings) (interface : InterfaceRef) (xid : UInt32) :
    Except LabError Unit × Lab :=
  if !(self.dhcp_probes.get? interface).any (·.transaction_id = xid) || self.dhcp_transactions.get? interface ≠ some xid then
    (.ok (),self)
  else
    let self := { self with dhcp_probes := self.dhcp_probes.erase interface }
    if around.protocol_up interface && !around.sent interface then (.error .Protocol,self) else (.ok (),self)

/-- An address in use is declined, and the next attempt waits. -/
def observe_dhcp_conflict (self : Lab) (around : Surroundings) (interface : InterfaceRef) (sender_mac : MacAddress)
    (sender_ip target_ip : Ipv4Addr) : Except LabError Unit × Lab :=
  if (self.dhcp_probes.get? interface).any (fun message => sender_mac ≠ message.client_mac &&
      (sender_ip = message.your_ip || (sender_ip = 0 && target_ip = message.your_ip))) then
    let self := { self with
      dhcp_probes := self.dhcp_probes.erase interface
      dhcp_transactions := self.dhcp_transactions.erase interface
      dhcp_retry_after := self.dhcp_retry_after.insert interface (satAdd64 self.now 10000000) }
    if around.sent interface then (.ok (),self) else (.error .Protocol,self)
  else (.ok (),self)

/-! ### Answers of a server -/

def dhcp_for_client (self : Lab) (interface : InterfaceRef) (message : DhcpMessage) : Bool :=
  self.dhcp_transactions.get? interface = some message.transaction_id && self.macs.get? interface = some message.client_mac

/-- Some seconds from now. -/
def after_seconds (now : SimTime) (seconds : UInt32) : SimTime := satAdd64 now (seconds.toUInt64 * 1000000)

/-- The lease of an acknowledgement that is complete and whose times are in order. -/
def acknowledged (now : SimTime) (message : DhcpMessage) : Option DhcpLease :=
  match message.subnet_mask,message.server_id,message.lease_time_seconds with
  | some mask,some server_id,some seconds =>
    match Ipv4InterfaceConfig.from_mask message.your_ip mask with
    | .error _ => none
    | .ok ip =>
      if seconds < 3 || message.your_ip = 0 || (224 ≤ first_octet message.your_ip && first_octet message.your_ip ≤ 239) ||
          message.your_ip = 0xffffffff then none
      else
        let t1 := message.renewal_seconds.getD (seconds / 2)
        let t2 := message.rebinding_seconds.getD (UInt32.ofNat (seconds.toNat * 7 / 8))
        if t1 = 0 || t2 ≤ t1 || seconds ≤ t2 then none
        else some ⟨message.your_ip,ip.prefix_len,message.default_router,server_id,after_seconds now seconds,message.dns_servers,
          message.domain_name,after_seconds now t1,after_seconds now t2⟩
  | _,_,_ => none

/-- Install the lease and schedule its renewal and its end. -/
def accept_lease (self : Lab) (interface : InterfaceRef) (lease : DhcpLease) : Except LabError Unit × Lab :=
  match self.install_dhcp_lease interface lease with
  | (.error error,self) => (.error error,self)
  | (.ok (),self) =>
    let self := { self with dhcp_transactions := self.dhcp_transactions.erase interface }
    match self.schedule_at lease.renew_at (.DhcpRenew interface lease.expires_at) with
    | (.error error,self) => (.error error,self)
    | (.ok (),self) => self.schedule_at lease.expires_at (.DhcpLeaseExpired interface lease.address lease.expires_at)

/-- A refused lease is given up at once. -/
def refuse_lease (self : Lab) (interface : InterfaceRef) : Except LabError Unit × Lab :=
  let self := match self.dhcp_leases.get? interface with
    | none => self
    | some lease => (self.expire_dhcp_lease interface lease.address lease.expires_at).2
  self.schedule_dhcp_now interface.device

/-- The arms of `handle_dhcp` for the messages of a server. -/
def handle_dhcp (self : Lab) (around : Surroundings) (interface : InterfaceRef) (message : DhcpMessage) :
    Except LabError Unit × Lab :=
  if !self.dhcp_for_client interface message then (.ok (),self)
  else
    match message.message_type with
    | .Offer =>
      if message.server_id.isNone || self.dhcp_probes.contains interface then (.ok (),self)
      else self.begin_dhcp_probe around interface message
    | .Ack =>
      match acknowledged self.now message with
      | none => (.ok (),self)
      | some lease => self.accept_lease interface lease
    | .Nak => self.refuse_lease interface
    | _ => (.ok (),self)

/-! ### Timers -/

/-- Until when a renewal is tried in the way of this one. -/
def boundary (now : SimTime) (lease : DhcpLease) :
    SimTime := if lease.rebind_at ≤ now then lease.expires_at else lease.rebind_at

/-- The time of the next renewal. -/
def retry (now : SimTime) (lease : DhcpLease) : SimTime :=
  min (satAdd64 now (max ((boundary now lease - now) / 2) 1000000)) (boundary now lease)

def renew_dhcp (self : Lab) (around : Surroundings) (interface : InterfaceRef) (deadline : SimTime) :
    Except LabError Unit × Lab :=
  match (self.dhcp_leases.get? interface).filter (fun lease => lease.expires_at = deadline && self.now < deadline) with
  | none => (.ok (),self)
  | some lease =>
    let self := if around.protocol_up interface && !self.dhcp_transactions.contains interface then self.begin_transaction interface
      else self
    if around.protocol_up interface && !around.sent interface then (.error .Protocol,self)
    else if retry self.now lease < deadline then self.schedule_at (retry self.now lease) (.DhcpRenew interface deadline)
    else (.ok (),self)

/-- What the lab does for an event of its queue. -/
def process_event (self : Lab) (around : Surroundings) : SimulationEvent → Except LabError Unit × Lab
  | .DhcpClient device generation => self.send_dhcp_discovers around device generation
  | .DhcpProbe interface xid => self.finish_dhcp_probe around interface xid
  | .DhcpRenew interface deadline => self.renew_dhcp around interface deadline
  | .DhcpLeaseExpired interface address deadline =>
    match self.expire_dhcp_lease interface address deadline with
    | (true,self) => self.schedule_dhcp_now interface.device
    | (false,self) => (.ok (),self)
  | .Other _ => (.ok (),self)

/-- Pop the next event and process it. -/
def step (self : Lab) (around : Surroundings) : Except LabError Unit × Lab :=
  match self.events.pending with
  | [] => (.ok (),self)
  | (time,event) :: rest => { self with events := ⟨time,self.events.insertions,rest⟩ }.process_event around event

end Lab

/-! ### Runs -/

/-- One thing that happens to the clients of a lab. -/
inductive Operation where
  | handle_dhcp (around : Surroundings) (interface : InterfaceRef) (message : DhcpMessage)
  | observe_dhcp_conflict (around : Surroundings) (interface : InterfaceRef) (sender_mac : MacAddress)
    (sender_ip target_ip : Ipv4Addr)
  | step (around : Surroundings)
  | advance_to (time : SimTime)
  /-- Another protocol schedules an event. -/
  | schedule (time : SimTime) (label : Nat)
  | schedule_dhcp_now (device : UInt64)
  /-- An interface becomes a client, or gets a static address or none. -/
  | configure (interface : InterfaceRef) (mac : MacAddress) (dhcp_client : Bool)

namespace Lab

/-- The configuration of an interface: a client that was one keeps its lease. -/
def configure (self : Lab) (interface : InterfaceRef) (mac : MacAddress) (dhcp_client : Bool) : Lab :=
  { self with
    macs := self.macs.insert interface mac
    dhcp_clients := self.dhcp_clients.insert interface dhcp_client
    dhcp_leases := if dhcp_client && self.dhcp_clients.get? interface = some true then self.dhcp_leases
      else self.dhcp_leases.erase interface }

def apply (self : Lab) : Operation → Lab
  | .handle_dhcp around interface message => (self.handle_dhcp around interface message).2
  | .observe_dhcp_conflict around interface sender_mac sender_ip target_ip =>
    (self.observe_dhcp_conflict around interface sender_mac sender_ip target_ip).2
  | .step around => (self.step around).2
  | .advance_to time => { self with events := (self.events.apply (.advance_to time)).2 }
  | .schedule time label => (self.schedule_at time (.Other label)).2
  | .schedule_dhcp_now device => (self.schedule_dhcp_now device).2
  | .configure interface mac dhcp_client => self.configure interface mac dhcp_client

/-- The lab after a run; a failed call leaves what it did before it failed. -/
def run (self : Lab) (operations : List Operation) : Lab := operations.foldl apply self

/-- A lab without leases. -/
def new : Lab := ⟨Reference.empty,∅,∅,∅,∅,0,∅,∅,∅⟩

end Lab

/-! ### The queue -/

/-- Pending events are sorted, and none lies in the past. -/
structure Ordered (events : Reference SimulationEvent) : Prop where
  sorted : events.pending.Pairwise (fun first second => first.1 ≤ second.1)
  future : ∀ event ∈ events.pending, events.now ≤ event.1

theorem insertStable_sorted {new : SimTime × SimulationEvent} {pending : List (SimTime × SimulationEvent)}
    (sorted : pending.Pairwise (fun first second => first.1 ≤ second.1)) :
    (insertStable (·.1) new pending).Pairwise (fun first second => first.1 ≤ second.1) := by
  induction pending with
  | nil => simp [insertStable]
  | cons head rest ih =>
    obtain ⟨above,tail⟩ := List.pairwise_cons.mp sorted
    rw [insertStable]
    by_cases notLater : head.1 ≤ new.1
    · rw [if_pos notLater]
      refine List.pairwise_cons.mpr ⟨?_,ih tail⟩
      intro event member
      rcases List.mem_cons.mp ((insertStable_perm _ _ _).mem_iff.mp member) with rfl | old
      · exact notLater
      · exact above event old
    · rw [if_neg notLater]
      refine List.pairwise_cons.mpr ⟨?_,sorted⟩
      have later : new.1 ≤ head.1 := le_of_lt (not_le.mp notLater)
      intro event member
      rcases List.mem_cons.mp member with rfl | old
      · exact later
      · exact later.trans (above event old)

/-- An event of a lease. -/
def timer : SimulationEvent → Bool
  | .DhcpRenew _ _ | .DhcpLeaseExpired _ _ _ => true
  | _ => false

/-- A lab after calls that schedule some events and do nothing else to the leases and the queue. -/
structure Schedules (before after : Lab) (new : List (SimTime × SimulationEvent)) : Prop where
  leases : after.dhcp_leases = before.dhcp_leases
  clients : after.dhcp_clients = before.dhcp_clients
  now : after.now = before.now
  pending : after.events.pending.Perm (new ++ before.events.pending)
  ordered : Ordered before.events → Ordered after.events

/-- Calls that schedule no event of a lease, if any. -/
def Quiet (before after : Lab) : Prop := ∃ new, Schedules before after new ∧ ∀ event ∈ new, timer event.2 = false

variable {self before middle after : Lab} {around : Surroundings} {interface : InterfaceRef} {device : UInt64}

theorem Schedules.none (leases : after.dhcp_leases = before.dhcp_leases) (clients : after.dhcp_clients = before.dhcp_clients)
    (events : after.events = before.events) : Schedules before after [] where
  leases := leases
  clients := clients
  now := congrArg Reference.now events
  pending := by rw [events]; exact .refl _
  ordered := by rw [events]; exact id

theorem Schedules.trans {first second : List (SimTime × SimulationEvent)} (one : Schedules before middle first)
    (two : Schedules middle after second) : Schedules before after (second ++ first) where
  leases := two.leases.trans one.leases
  clients := two.clients.trans one.clients
  now := two.now.trans one.now
  pending := by
    rw [List.append_assoc]
    exact two.pending.trans (one.pending.append_left second)
  ordered := two.ordered ∘ one.ordered

theorem Quiet.same (leases : after.dhcp_leases = before.dhcp_leases) (clients : after.dhcp_clients = before.dhcp_clients)
    (events : after.events = before.events) : Quiet before after :=
  ⟨[],.none leases clients events,fun _ impossible => absurd impossible List.not_mem_nil⟩

theorem Quiet.refl (self : Lab) : Quiet self self := .same rfl rfl rfl

theorem Quiet.trans (one : Quiet before middle) (two : Quiet middle after) : Quiet before after := by
  obtain ⟨first,before_middle,none_first⟩ := one
  obtain ⟨second,middle_after,none_second⟩ := two
  refine ⟨second ++ first,before_middle.trans middle_after,?_⟩
  intro event member
  rcases List.mem_append.mp member with late | early
  · exact none_second event late
  · exact none_first event early

/-- Scheduling succeeds from now on while there are numbers left. -/
theorem schedule_at_ok (future : self.now ≤ time) (room : self.events.insertions.toNat + 1 < 2 ^ 64)
    (event : SimulationEvent) :
    (self.schedule_at time event).1 = .ok () ∧ Schedules self (self.schedule_at time event).2 [(time,event)] ∧
      (self.schedule_at time event).2.events.insertions.toNat = self.events.insertions.toNat + 1 := by
  have inserted : self.events.insert time event =
      (.ok (),⟨self.events.now,self.events.insertions + 1,insertStable (·.1) (time,event) self.events.pending⟩) := by
    have now : ¬ time < self.events.now := not_lt.mpr future
    rw [Reference.insert,if_neg now,if_neg (by omega)]
  have scheduled : self.schedule_at time event =
      (.ok (),{ self with
        events := ⟨self.events.now,self.events.insertions + 1,insertStable (·.1) (time,event) self.events.pending⟩ }) := by
    rw [Lab.schedule_at,inserted]
  rw [scheduled]
  have perm := insertStable_perm (·.1) (time,event) self.events.pending
  refine ⟨rfl,⟨rfl,rfl,rfl,perm,?_⟩,?_⟩
  · rintro ⟨sorted,later⟩
    refine ⟨insertStable_sorted sorted,?_⟩
    intro other member
    rcases List.mem_cons.mp (perm.mem_iff.mp member) with rfl | old
    · exact future
    · exact later other old
  · have one : (1 : UInt64).toNat = 1 := rfl
    dsimp only
    rw [UInt64.toNat_add,one,Nat.mod_eq_of_lt room]

/-- Scheduling adds its event or fails without a trace. -/
theorem schedule_at_cases (self : Lab) (time : SimTime) (event : SimulationEvent) :
    (self.schedule_at time event).1 = .ok () ∧ Schedules self (self.schedule_at time event).2 [(time,event)] ∧
        self.events.insertions.toNat + 1 < 2 ^ 64 ∨
      (self.schedule_at time event).1 ≠ .ok () ∧ (self.schedule_at time event).2 = self := by
  by_cases past : time < self.events.now
  · refine .inr ?_
    have refused : self.events.insert time event = (.error .Past,self.events) := if_pos past
    rw [Lab.schedule_at,refused]
    exact ⟨nofun,rfl⟩
  · by_cases last : self.events.insertions.toNat + 1 = 2 ^ 64
    · refine .inr ?_
      have refused : self.events.insert time event = (.error .Overflow,self.events) := by
        rw [Reference.insert,if_neg past,if_pos last]
      rw [Lab.schedule_at,refused]
      exact ⟨nofun,rfl⟩
    · have top := self.events.insertions.toNat_lt
      obtain ⟨succeeds,scheduled,-⟩ := schedule_at_ok (not_lt.mp past) (by omega) event
      exact .inl ⟨succeeds,scheduled,by omega⟩

variable {event : SimulationEvent}

theorem schedule_at_quiet (other : timer event = false) (time : SimTime) :
    Quiet self (self.schedule_at time event).2 := by
  rcases schedule_at_cases self time event with ⟨-,scheduled,-⟩ | ⟨-,same⟩
  · refine ⟨_,scheduled,?_⟩
    intro new member
    rw [List.mem_singleton.mp member]
    exact other
  · rw [same]
    exact .refl self

theorem schedule_after_quiet (other : timer event = false) (delay_ms : UInt64) :
    Quiet self (self.schedule_after delay_ms event).2 := by
  rw [Lab.schedule_after]
  by_cases overflow : 2 ^ 64 ≤ self.now.toNat + delay_ms.toNat * 1000
  · rw [if_pos overflow]
    exact .refl self
  · rw [if_neg overflow]
    exact schedule_at_quiet other _

theorem schedule_dhcp_now_quiet (self : Lab) (device : UInt64) : Quiet self (self.schedule_dhcp_now device).2 := by
  rw [Lab.schedule_dhcp_now]
  cases checkedAdd64 ((self.dhcp_generations.get? device).getD 0) 1 with
  | none => exact .refl self
  | some generation =>
    dsimp only
    generalize forgotten : ({ self with
      dhcp_generations := self.dhcp_generations.insert device generation
      dhcp_probes := self.dhcp_probes.retain (fun interface _ => interface.device ≠ device)
      dhcp_transactions := self.dhcp_transactions.retain (fun interface _ => interface.device ≠ device) } : Lab) = cleared
    have quiet : Quiet self cleared := by
      subst forgotten
      exact .same rfl rfl rfl
    by_cases needed : cleared.has_pending_dhcp_client device = true
    · rw [if_pos needed]
      exact quiet.trans (schedule_at_quiet rfl _)
    · rw [if_neg needed]
      exact quiet

theorem discover_quiet (around : Surroundings) (self : Lab) (interfaces : List InterfaceRef) :
    Quiet self (Lab.discover around self interfaces).2 := by
  induction interfaces generalizing self with
  | nil => exact .refl self
  | cons interface rest ih =>
    rw [Lab.discover]
    by_cases waits : (self.dhcp_probes.contains interface || (self.dhcp_retry_after.get? interface).any (self.now < ·)) = true
    · rw [if_pos waits]
      exact ih self
    · rw [if_neg waits]
      dsimp only
      generalize started : ({ self with dhcp_retry_after := self.dhcp_retry_after.erase interface } : Lab).begin_transaction interface =
        begun
      have quiet : Quiet self begun := by
        subst started
        exact .same rfl rfl rfl
      by_cases sent : around.sent interface = true
      · rw [if_pos sent]
        exact quiet.trans (ih begun)
      · rw [if_neg sent]
        exact quiet

theorem send_dhcp_discovers_quiet (around : Surroundings) (self : Lab) (device generation : UInt64) :
    Quiet self (self.send_dhcp_discovers around device generation).2 := by
  rw [Lab.send_dhcp_discovers]
  by_cases stale : self.dhcp_generations.get? device ≠ some generation
  · rw [if_pos stale]
    exact .refl self
  rw [if_neg stale]
  have quiet := discover_quiet around self ((self.pending_clients device).filter around.protocol_up)
  cases sent : Lab.discover around self ((self.pending_clients device).filter around.protocol_up) with
  | mk result later =>
    rw [sent] at quiet
    cases result with
    | error error => exact quiet
    | ok =>
      dsimp only at quiet ⊢
      by_cases needed : later.has_pending_dhcp_client device = true
      · rw [if_pos needed]
        exact quiet.trans (schedule_after_quiet rfl _)
      · rw [if_neg needed]
        exact quiet

theorem begin_dhcp_probe_quiet (self : Lab) (around : Surroundings) (interface : InterfaceRef) (message : DhcpMessage) :
    Quiet self (self.begin_dhcp_probe around interface message).2 := by
  rw [Lab.begin_dhcp_probe]
  split
  · exact .refl self
  · dsimp only
    have quiet : Quiet self { self with dhcp_probes := self.dhcp_probes.insert interface message } := .same rfl rfl rfl
    split
    · exact quiet.trans (schedule_after_quiet rfl _)
    · exact quiet

theorem finish_dhcp_probe_quiet (self : Lab) (around : Surroundings) (interface : InterfaceRef) (xid : UInt32) :
    Quiet self (self.finish_dhcp_probe around interface xid).2 := by
  rw [Lab.finish_dhcp_probe]
  split
  · exact .refl self
  · dsimp only
    split <;> exact .same rfl rfl rfl

theorem observe_dhcp_conflict_quiet (self : Lab) (around : Surroundings) (interface : InterfaceRef) (sender_mac : MacAddress)
    (sender_ip target_ip : Ipv4Addr) : Quiet self (self.observe_dhcp_conflict around interface sender_mac sender_ip target_ip).2 := by
  rw [Lab.observe_dhcp_conflict]
  split
  · dsimp only
    split <;> exact .same rfl rfl rfl
  · exact .refl self

/-! ### Leases and their events -/

variable {lease : DhcpLease}

/-- Times of an acknowledged lease do not lie in the past. -/
theorem acknowledged_future {now : SimTime} {message : DhcpMessage}
    (accepted : Lab.acknowledged now message = some lease) : now ≤ lease.renew_at ∧ now ≤ lease.expires_at := by
  unfold Lab.acknowledged at accepted
  split at accepted
  · split at accepted
    · cases accepted
    · split at accepted
      · cases accepted
      · dsimp only at accepted
        split at accepted
        · cases accepted
        · cases accepted
          exact ⟨le_satAdd64 _ _,le_satAdd64 _ _⟩
  · cases accepted

/-- A lab in which a lease was installed, and so many of its two events scheduled as there were numbers for. -/
structure Installed (before after : Lab) (interface : InterfaceRef) (lease : DhcpLease)
    (new : List (SimTime × SimulationEvent)) : Prop where
  leases : after.dhcp_leases = before.dhcp_leases.insert interface lease
  now : after.now = before.now
  pending : after.events.pending.Perm (new ++ before.events.pending)
  ordered : Ordered before.events → Ordered after.events

/-- The events of a lease. -/
def renewal (interface : InterfaceRef) (lease : DhcpLease) : SimTime × SimulationEvent :=
  (lease.renew_at,.DhcpRenew interface lease.expires_at)

def expiry (interface : InterfaceRef) (lease : DhcpLease) : SimTime × SimulationEvent :=
  (lease.expires_at,.DhcpLeaseExpired interface lease.address lease.expires_at)

theorem accept_lease_cases (interface : InterfaceRef) (renews : self.now ≤ lease.renew_at)
    (ends : self.now ≤ lease.expires_at) :
    (self.dhcp_clients.get? interface ≠ some true ∧ (self.accept_lease interface lease).2 = self) ∨
    (self.dhcp_clients.get? interface = some true ∧ ∃ new,
      Installed self (self.accept_lease interface lease).2 interface lease new ∧
        new <:+ [expiry interface lease,renewal interface lease] ∧
        (self.events.insertions.toNat + 1 < 2 ^ 64 ↔ renewal interface lease ∈ new) ∧
        (self.events.insertions.toNat + 2 < 2 ^ 64 → expiry interface lease ∈ new)) := by
  rw [Lab.accept_lease,Lab.install_dhcp_lease]
  by_cases client : self.dhcp_clients.get? interface = some true
  · refine .inr ⟨client,?_⟩
    rw [if_pos client]
    dsimp only
    generalize isBase : ({ self with
      dhcp_leases := self.dhcp_leases.insert interface lease
      dhcp_transactions := self.dhcp_transactions.erase interface } : Lab) = base
    have leases : base.dhcp_leases = self.dhcp_leases.insert interface lease := by rw [← isBase]
    have events : base.events = self.events := by rw [← isBase]
    have now : base.now = self.now := congrArg Reference.now events
    rcases schedule_at_cases base lease.renew_at (.DhcpRenew interface lease.expires_at) with ⟨ok,scheduled,room⟩ | ⟨failed,same⟩
    · cases first : base.schedule_at lease.renew_at (.DhcpRenew interface lease.expires_at) with
      | mk result renewed =>
        rw [first] at ok scheduled
        dsimp only at ok scheduled
        rw [events] at room
        rw [ok]
        dsimp only
        have later : renewed.now = self.now := scheduled.now.trans now
        rcases schedule_at_cases renewed lease.expires_at (.DhcpLeaseExpired interface lease.address lease.expires_at) with
          ⟨-,again,-⟩ | ⟨failed,same⟩
        · have both := scheduled.trans again
          refine ⟨_,⟨both.leases.trans leases,both.now.trans now,?_,events ▸ both.ordered⟩,List.suffix_refl _,
            iff_of_true room ?_,fun _ => ?_⟩
          · rw [← events]
            exact both.pending
          · exact List.mem_cons_of_mem _ List.mem_cons_self
          · exact List.mem_cons_self
        · rw [same]
          refine ⟨_,⟨scheduled.leases.trans leases,later,?_,events ▸ scheduled.ordered⟩,List.suffix_cons _ _,
            iff_of_true room (List.mem_singleton_self _),?_⟩
          · rw [← events]
            exact scheduled.pending
          · intro more
            have counted := (schedule_at_ok (now.trans_le renews) (by rw [events]; omega) (.DhcpRenew interface lease.expires_at)).2.2
            rw [first,events] at counted
            dsimp only at counted
            exact absurd (schedule_at_ok (later.trans_le ends) (by rw [counted]; omega) _).1 failed
    · cases first : base.schedule_at lease.renew_at (.DhcpRenew interface lease.expires_at) with
      | mk result renewed =>
        have full : ¬ self.events.insertions.toNat + 1 < 2 ^ 64 := by
          intro room
          exact failed (schedule_at_ok (now.trans_le renews) (by rw [events]; exact room) _).1
        rw [first] at failed same
        dsimp only at failed same
        subst same
        cases result with
        | ok => exact absurd rfl failed
        | error error =>
          refine ⟨[],⟨leases,now,by rw [events]; exact .refl _,events ▸ id⟩,List.nil_suffix,iff_of_false full List.not_mem_nil,?_⟩
          intro room
          exact absurd (by omega) full
  · rw [if_neg client]
    exact .inl ⟨client,rfl⟩

/-- A renewal is tried again in time: later than now, and the subtraction does not wrap. -/
theorem retry_bounds {now : SimTime} (held : now < lease.expires_at) :
    now < Lab.boundary now lease ∧ now < Lab.retry now lease := by
  have ahead : now < Lab.boundary now lease := by
    rw [Lab.boundary]
    by_cases rebind : lease.rebind_at ≤ now
    · rw [if_pos rebind]
      exact held
    · rw [if_neg rebind]
      exact not_le.mp rebind
  refine ⟨ahead,lt_min ?_ ahead⟩
  have second : (1000000 : UInt64) ≤ max ((Lab.boundary now lease - now) / 2) 1000000 := le_max_right _ _
  have top := (Lab.boundary now lease).toNat_lt
  rw [UInt64.lt_iff_toNat_lt] at ahead
  rw [UInt64.le_iff_toNat_le] at second
  have million : (1000000 : UInt64).toNat = 1000000 := rfl
  rw [UInt64.lt_iff_toNat_lt,satAdd64_toNat]
  omega

/-- A renewal schedules the next one before the lease ends, or nothing. -/
theorem renew_dhcp_cases (self : Lab) (around : Surroundings) (interface : InterfaceRef) (deadline : SimTime) :
    Schedules self (self.renew_dhcp around interface deadline).2 [] ∨
      ∃ lease, self.dhcp_leases.get? interface = some lease ∧ lease.expires_at = deadline ∧ self.now < deadline ∧
        Lab.retry self.now lease < deadline ∧
        Schedules self (self.renew_dhcp around interface deadline).2 [(Lab.retry self.now lease,.DhcpRenew interface deadline)] := by
  rw [Lab.renew_dhcp]
  cases current : (self.dhcp_leases.get? interface).filter (fun lease => lease.expires_at = deadline && self.now < deadline) with
  | none => exact .inl (.none rfl rfl rfl)
  | some lease =>
    obtain ⟨held,ends⟩ := Option.filter_eq_some_iff.mp current
    simp only [Bool.and_eq_true,decide_eq_true_eq] at ends
    dsimp only
    generalize isBegun : (if (around.protocol_up interface && !self.dhcp_transactions.contains interface) = true then
      self.begin_transaction interface else self) = begun
    have started : Schedules self begun [] := by
      rw [← isBegun]
      split <;> exact .none rfl rfl rfl
    split
    · exact .inl started
    · by_cases again : Lab.retry begun.now lease < deadline
      · rw [if_pos again]
        rcases schedule_at_cases begun (Lab.retry begun.now lease) (.DhcpRenew interface deadline) with ⟨-,scheduled,-⟩ | ⟨-,same⟩
        · refine .inr ⟨lease,held,ends.1,ends.2,?_,?_⟩
          · rw [← started.now]
            exact again
          · rw [← started.now]
            exact started.trans scheduled
        · rw [same]
          exact .inl started
      · rw [if_neg again]
        exact .inl started

/-- A lab without the lease of an interface. -/
def release (self : Lab) (interface : InterfaceRef) : Lab := { self with dhcp_leases := self.dhcp_leases.erase interface }

/-- A lab whose next event was taken from the queue. -/
def popped (self : Lab) (time : SimTime) (rest : List (SimTime × SimulationEvent)) : Lab :=
  { self with events := ⟨time,self.events.insertions,rest⟩ }

theorem handle_dhcp_cases (self : Lab) (around : Surroundings) (interface : InterfaceRef) (message : DhcpMessage) :
    Quiet self (self.handle_dhcp around interface message).2 ∨
    (∃ lease, message.message_type = .Ack ∧ self.dhcp_for_client interface message = true ∧
      Lab.acknowledged self.now message = some lease ∧
        (self.handle_dhcp around interface message).2 = (self.accept_lease interface lease).2) ∨
    Quiet (release self interface) (self.handle_dhcp around interface message).2 := by
  rw [Lab.handle_dhcp]
  by_cases named : self.dhcp_for_client interface message = true
  · rw [if_neg (by rw [named]; exact Bool.false_ne_true)]
    cases kind : message.message_type with
    | Offer =>
      dsimp only
      split
      · exact .inl (.refl self)
      · exact .inl (begin_dhcp_probe_quiet self around interface message)
    | Ack =>
      dsimp only
      cases accepted : Lab.acknowledged self.now message with
      | none => exact .inl (.refl self)
      | some lease => exact .inr (.inl ⟨lease,rfl,named,rfl,rfl⟩)
    | Nak =>
      dsimp only
      rw [Lab.refuse_lease]
      cases held : self.dhcp_leases.get? interface with
      | none => exact .inl (schedule_dhcp_now_quiet self interface.device)
      | some lease =>
        have expired : (self.expire_dhcp_lease interface lease.address lease.expires_at).2 = release self interface := by
          rw [Lab.expire_dhcp_lease,held,if_pos (by simp)]
          rfl
        dsimp only
        rw [expired]
        exact .inr (.inr (schedule_dhcp_now_quiet _ interface.device))
    | Discover => exact .inl (.refl self)
    | Request => exact .inl (.refl self)
    | Decline => exact .inl (.refl self)
  · rw [if_pos (by rw [Bool.eq_false_of_not_eq_true named]; rfl)]
    exact .inl (.refl self)

/-- What an event of the queue does to the leases and their events. -/
theorem step_cases (self : Lab) (around : Surroundings) :
    (self.events.pending = [] ∧ (self.step around).2 = self) ∨
    ∃ time event rest, self.events.pending = (time,event) :: rest ∧
      (Quiet (popped self time rest) (self.step around).2 ∨
      (∃ interface lease, event = .DhcpRenew interface lease.expires_at ∧ self.dhcp_leases.get? interface = some lease ∧
        time < lease.expires_at ∧ Lab.retry time lease < lease.expires_at ∧
        Schedules (popped self time rest) (self.step around).2
          [(Lab.retry time lease,.DhcpRenew interface lease.expires_at)]) ∨
      ∃ interface lease deadline, event = .DhcpLeaseExpired interface lease.address deadline ∧
        self.dhcp_leases.get? interface = some lease ∧ lease.expires_at ≤ deadline ∧
        Quiet (release (popped self time rest) interface) (self.step around).2) := by
  rw [Lab.step]
  cases pending : self.events.pending with
  | nil => exact .inl ⟨rfl,rfl⟩
  | cons first rest =>
    obtain ⟨time,event⟩ := first
    refine .inr ⟨time,event,rest,rfl,?_⟩
    have isPopped : ({ self with events := ⟨time,self.events.insertions,rest⟩ } : Lab) = popped self time rest := rfl
    dsimp only
    rw [isPopped]
    have leases : (popped self time rest).dhcp_leases = self.dhcp_leases := rfl
    have now : (popped self time rest).now = time := rfl
    cases event with
    | DhcpClient device generation => exact .inl (send_dhcp_discovers_quiet around _ device generation)
    | DhcpProbe interface xid => exact .inl (finish_dhcp_probe_quiet _ around interface xid)
    | DhcpRenew interface deadline =>
      rcases renew_dhcp_cases (popped self time rest) around interface deadline with nothing | ⟨lease,held,rfl,early,again,scheduled⟩
      · exact .inl ⟨[],nothing,fun _ impossible => absurd impossible List.not_mem_nil⟩
      · exact .inr (.inl ⟨interface,lease,rfl,held,early,again,scheduled⟩)
    | DhcpLeaseExpired interface address deadline =>
      rw [Lab.process_event,Lab.expire_dhcp_lease]
      by_cases due : ((popped self time rest).dhcp_leases.get? interface).any
          (fun lease => lease.address = address && lease.expires_at ≤ deadline) = true
      · rw [if_pos due]
        obtain ⟨lease,held,ends⟩ := (Option.any_eq_true _ _).mp due
        simp only [Bool.and_eq_true,decide_eq_true_eq] at ends
        obtain ⟨rfl,ends⟩ := ends
        exact .inr (.inr ⟨interface,lease,deadline,rfl,held,ends,schedule_dhcp_now_quiet _ interface.device⟩)
      · rw [if_neg due]
        exact .inl (.refl _)
    | Other label => exact .inl (.refl _)

/-! ### Invariants -/

/-- The queue is in order, and the end of a lease is due at its deadline. -/
structure Sound (lab : Lab) : Prop where
  ordered : Ordered lab.events
  timed : ∀ time interface address deadline, (time,.DhcpLeaseExpired interface address deadline) ∈ lab.events.pending →
    time = deadline

/-- The number of renewals under way for a lease of an interface. -/
def renewals (lab : Lab) (interface : InterfaceRef) (deadline : SimTime) : Nat :=
  lab.events.pending.countP (fun event => event.2 = .DhcpRenew interface deadline)

/-- No lease is renewed by two chains. -/
def Single (lab : Lab) : Prop :=
  ∀ interface lease, lab.dhcp_leases.get? interface = some lease → renewals lab interface lease.expires_at ≤ 1

/-- No deadline of an interface is renewed by two chains, whether a lease has it or not. -/
def Unforked (lab : Lab) : Prop := ∀ interface deadline, renewals lab interface deadline ≤ 1

/-- The end of a lease that has not been reached is pending. -/
def Guarded (lab : Lab) : Prop :=
  ∀ interface lease, lab.dhcp_leases.get? interface = some lease → lab.now < lease.expires_at →
    expiry interface lease ∈ lab.events.pending

theorem Sound.schedules {new : List (SimTime × SimulationEvent)} (sound : Sound before)
    (scheduled : Schedules before after new)
    (timed : ∀ time interface address deadline, (time,.DhcpLeaseExpired interface address deadline) ∈ new →
      time = deadline) : Sound after where
  ordered := scheduled.ordered sound.ordered
  timed := by
    intro time interface address deadline member
    rcases List.mem_append.mp (scheduled.pending.mem_iff.mp member) with fresh | old
    · exact timed time interface address deadline fresh
    · exact sound.timed time interface address deadline old

theorem Sound.quiet (sound : Sound before) (quiet : Quiet before after) : Sound after := by
  obtain ⟨new,scheduled,others⟩ := quiet
  refine sound.schedules scheduled ?_
  intro time interface address deadline member
  cases others _ member

theorem Sound.popped (sound : Sound self) {time : SimTime} {rest : List (SimTime × SimulationEvent)}
    (pending : self.events.pending = (time,event) :: rest) : Sound (popped self time rest) := by
  obtain ⟨sorted,future⟩ := sound.ordered
  rw [pending] at sorted future
  obtain ⟨ahead,tail⟩ := List.pairwise_cons.mp sorted
  refine ⟨⟨tail,fun other member => ahead other member⟩,?_⟩
  intro due interface address deadline member
  refine sound.timed due interface address deadline ?_
  rw [pending]
  exact List.mem_cons_of_mem _ member

theorem renewals_schedules {new : List (SimTime × SimulationEvent)} (scheduled : Schedules before after new)
    (interface : InterfaceRef) (deadline : SimTime) : renewals after interface deadline =
      new.countP (fun event => event.2 = .DhcpRenew interface deadline) + renewals before interface deadline := by
  rw [renewals,scheduled.pending.countP_eq,List.countP_append]
  rfl

theorem renewals_quiet (quiet : Quiet before after) (interface : InterfaceRef) (deadline : SimTime) :
    renewals after interface deadline = renewals before interface deadline := by
  obtain ⟨new,scheduled,others⟩ := quiet
  have none : new.countP (fun event => event.2 = .DhcpRenew interface deadline) = 0 := by
    rw [List.countP_eq_zero]
    intro event member same
    have other := others event member
    rw [of_decide_eq_true same] at other
    cases other
  rw [renewals_schedules scheduled,none,Nat.zero_add]

theorem Quiet.leases (quiet : Quiet before after) : after.dhcp_leases = before.dhcp_leases := by
  obtain ⟨new,scheduled,-⟩ := quiet
  exact scheduled.leases

theorem Quiet.now (quiet : Quiet before after) : after.now = before.now := by
  obtain ⟨new,scheduled,-⟩ := quiet
  exact scheduled.now

theorem Quiet.mem (quiet : Quiet before after) {event : SimTime × SimulationEvent} (member : event ∈ before.events.pending) :
    event ∈ after.events.pending := by
  obtain ⟨new,scheduled,-⟩ := quiet
  exact scheduled.pending.mem_iff.mpr (List.mem_append_right _ member)

theorem Guarded.quiet (guarded : Guarded before) (quiet : Quiet before after) : Guarded after := by
  intro interface lease held early
  rw [quiet.leases] at held
  rw [quiet.now] at early
  exact quiet.mem (guarded interface lease held early)

theorem Guarded.release (guarded : Guarded self) (interface : InterfaceRef) : Guarded (release self interface) :=
  fun other lease held early => guarded other lease (OrderedMap.get?_erase_some held) early

theorem renewals_popped {time : SimTime} {rest : List (SimTime × SimulationEvent)}
    (pending : self.events.pending = (time,event) :: rest) (interface : InterfaceRef) (deadline : SimTime) :
    renewals self interface deadline = renewals (popped self time rest) interface deadline +
      if event = .DhcpRenew interface deadline then 1 else 0 := by
  rw [renewals,pending,List.countP_cons]
  simp only [decide_eq_true_eq]
  rfl

/-- The end of a lease is not taken from the queue before it is reached. -/
theorem Guarded.popped (guarded : Guarded self) (sound : Sound self) {time : SimTime}
    {rest : List (SimTime × SimulationEvent)} (pending : self.events.pending = (time,event) :: rest) :
    Guarded (popped self time rest) := by
  intro interface lease held early
  have now : self.now ≤ time := sound.ordered.future (time,event) (by rw [pending]; exact List.mem_cons_self)
  have before := guarded interface lease held (lt_of_le_of_lt now early)
  rw [pending] at before
  rcases List.mem_cons.mp before with head | later
  · have reached : lease.expires_at = time := congrArg Prod.fst head
    rw [reached] at early
    exact absurd early (lt_irrefl _)
  · exact later

/-- Accepting a lease keeps the queue in order. -/
theorem Sound.installed (sound : Sound self) {new : List (SimTime × SimulationEvent)}
    (installed : Installed self after interface lease new)
    (events : new <:+ [expiry interface lease,renewal interface lease]) :
    Sound after where
  ordered := installed.ordered sound.ordered
  timed := by
    intro time other address deadline member
    rcases List.mem_append.mp (installed.pending.mem_iff.mp member) with fresh | old
    · rcases List.mem_pair.mp (events.subset fresh) with same | same
      · cases same
        rfl
      · cases same
    · exact sound.timed time other address deadline old

theorem Sound.accept (sound : Sound self) {message : DhcpMessage}
    (accepted : Lab.acknowledged self.now message = some lease) : Sound (self.accept_lease interface lease).2 := by
  obtain ⟨renews,ends⟩ := acknowledged_future accepted
  rcases accept_lease_cases interface renews ends with ⟨-,same⟩ | ⟨-,new,installed,events,-⟩
  · rw [same]
    exact sound
  · exact sound.installed installed events

theorem Sound.step (sound : Sound self) (around : Surroundings) : Sound (self.step around).2 := by
  rcases step_cases self around with ⟨-,same⟩ | ⟨time,event,rest,pending,quiet | ⟨interface,lease,-,-,-,-,scheduled⟩ |
    ⟨interface,lease,deadline,-,-,-,quiet⟩⟩
  · rw [same]
    exact sound
  · exact (sound.popped pending).quiet quiet
  · refine (sound.popped pending).schedules scheduled ?_
    intro due other address deadline member
    cases List.mem_singleton.mp member
  · have dropped : Sound (release (DhcpTimers.popped self time rest) interface) :=
      ⟨(sound.popped pending).ordered,(sound.popped pending).timed⟩
    exact dropped.quiet quiet

/-- Advancing the clock passes no event. -/
theorem advance_to_cases (self : Lab) (time : SimTime) : self.apply (.advance_to time) = self ∨
    (self.now ≤ time ∧ (∀ event ∈ self.events.pending, time < event.1) ∧
      self.apply (.advance_to time) = { self with events := { self.events with now := time } }) := by
  rw [Lab.apply,Reference.apply]
  by_cases past : time < self.events.now
  · rw [if_pos past]
    exact .inl rfl
  · rw [if_neg past]
    by_cases skips : self.events.pending.any (fun event => event.1 ≤ time) = true
    · rw [if_pos skips]
      exact .inl rfl
    · rw [if_neg skips]
      refine .inr ⟨not_lt.mp past,?_,rfl⟩
      intro event member
      by_contra reached
      exact skips (List.any_eq_true.mpr ⟨event,member,decide_eq_true (not_lt.mp reached)⟩)

theorem configure_cases (self : Lab) (interface : InterfaceRef) (mac : MacAddress) (dhcp_client : Bool) :
    (self.configure interface mac dhcp_client).events = self.events ∧
      ∀ other lease, (self.configure interface mac dhcp_client).dhcp_leases.get? other = some lease →
        self.dhcp_leases.get? other = some lease := by
  refine ⟨rfl,?_⟩
  intro other lease held
  rw [Lab.configure] at held
  dsimp only at held
  split at held
  · exact held
  · exact OrderedMap.get?_erase_some held

theorem Sound.apply (sound : Sound self) (operation : Operation) : Sound (self.apply operation) := by
  cases operation with
  | handle_dhcp around interface message =>
    rcases handle_dhcp_cases self around interface message with quiet | ⟨lease,-,-,accepted,same⟩ | quiet
    · exact sound.quiet quiet
    · rw [Lab.apply,same]
      exact sound.accept accepted
    · have dropped : Sound (release self interface) := ⟨sound.ordered,sound.timed⟩
      exact dropped.quiet quiet
  | observe_dhcp_conflict around interface sender_mac sender_ip target_ip =>
    exact sound.quiet (observe_dhcp_conflict_quiet self around interface sender_mac sender_ip target_ip)
  | step around => exact sound.step around
  | advance_to time =>
    rcases advance_to_cases self time with same | ⟨-,later,same⟩
    · rw [same]
      exact sound
    · rw [same]
      exact ⟨⟨sound.ordered.sorted,fun event member => le_of_lt (later event member)⟩,sound.timed⟩
  | schedule time label => exact sound.quiet (schedule_at_quiet rfl time)
  | schedule_dhcp_now device => exact sound.quiet (schedule_dhcp_now_quiet self device)
  | configure interface mac dhcp_client => exact ⟨sound.ordered,sound.timed⟩

/-! ### Acknowledgements -/

/-- An acknowledgement that installs a lease. -/
def Installs (self : Lab) (lease : DhcpLease) (interface : InterfaceRef) : Operation → Prop
  | .handle_dhcp _ port message => port = interface ∧ message.message_type = .Ack ∧
    self.dhcp_for_client interface message = true ∧
    Lab.acknowledged self.now message = some lease ∧ self.dhcp_clients.get? interface = some true
  | _ => False

/-- An acknowledged lease ends at no instant for which a renewal of the interface is still pending. -/
def Distinct (self : Lab) (operation : Operation) : Prop :=
  ∀ interface lease, Installs self lease interface operation → self.events.insertions.toNat + 1 < 2 ^ 64 →
    renewals self interface lease.expires_at = 0

/-- The queue has numbers left for the two events of an acknowledged lease. -/
def Room (self : Lab) (operation : Operation) : Prop :=
  ∀ interface lease, Installs self lease interface operation → self.events.insertions.toNat + 2 < 2 ^ 64

variable {operation : Operation}

/-- What an acknowledgement adds to the queue. -/
theorem installs_cases (installs : Installs self lease interface operation) :
    ∃ new, Installed self (self.apply operation) interface lease new ∧ new <:+ [expiry interface lease,renewal interface lease] ∧
      (self.events.insertions.toNat + 1 < 2 ^ 64 ↔ renewal interface lease ∈ new) ∧
      (self.events.insertions.toNat + 2 < 2 ^ 64 → expiry interface lease ∈ new) := by
  cases operation with
  | handle_dhcp around port message =>
    obtain ⟨rfl,kind,named,accepted,client⟩ := installs
    have same : self.apply (.handle_dhcp around port message) = (self.accept_lease port lease).2 := by
      rw [Lab.apply,Lab.handle_dhcp,if_neg (by rw [named]; exact Bool.false_ne_true),kind]
      dsimp only
      rw [accepted]
    obtain ⟨renews,ends⟩ := acknowledged_future accepted
    rcases accept_lease_cases port renews ends with ⟨refused,-⟩ | ⟨-,added⟩
    · exact absurd client refused
    · rw [same]
      exact added
  | _ => cases installs

/-- What any call does to the leases and their events. -/
theorem apply_cases (self : Lab) (operation : Operation) :
    (∃ interface lease, Installs self lease interface operation) ∨
    (∃ around, operation = .step around) ∨
    (∃ time, operation = .advance_to time) ∨
    ∃ before : Lab, before.events = self.events ∧
      (∀ other lease, before.dhcp_leases.get? other = some lease → self.dhcp_leases.get? other = some lease) ∧
      Quiet before (self.apply operation) := by
  cases operation with
  | handle_dhcp around interface message =>
    rcases handle_dhcp_cases self around interface message with quiet | ⟨lease,kind,named,accepted,same⟩ | quiet
    · exact .inr (.inr (.inr ⟨self,rfl,fun _ _ held => held,quiet⟩))
    · obtain ⟨renews,ends⟩ := acknowledged_future accepted
      rcases accept_lease_cases interface renews ends with ⟨-,unchanged⟩ | ⟨client,-⟩
      · refine .inr (.inr (.inr ⟨self,rfl,fun _ _ held => held,?_⟩))
        rw [Lab.apply,same,unchanged]
        exact .refl self
      · exact .inl ⟨interface,lease,rfl,kind,named,accepted,client⟩
    · exact .inr (.inr (.inr ⟨release self interface,rfl,fun _ _ held => OrderedMap.get?_erase_some held,quiet⟩))
  | observe_dhcp_conflict around interface sender_mac sender_ip target_ip =>
    exact .inr (.inr (.inr ⟨self,rfl,fun _ _ held => held,
      observe_dhcp_conflict_quiet self around interface sender_mac sender_ip target_ip⟩))
  | step around => exact .inr (.inl ⟨around,rfl⟩)
  | advance_to time => exact .inr (.inr (.inl ⟨time,rfl⟩))
  | schedule time label => exact .inr (.inr (.inr ⟨self,rfl,fun _ _ held => held,schedule_at_quiet rfl time⟩))
  | schedule_dhcp_now device => exact .inr (.inr (.inr ⟨self,rfl,fun _ _ held => held,schedule_dhcp_now_quiet self device⟩))
  | configure interface mac dhcp_client =>
    obtain ⟨events,leases⟩ := configure_cases self interface mac dhcp_client
    exact .inr (.inr (.inr ⟨self.configure interface mac dhcp_client,events,leases,.refl _⟩))

theorem Unforked.step (unforked : Unforked self) (around : Surroundings) : Unforked (self.step around).2 := by
  intro interface deadline
  have before := unforked interface deadline
  rcases step_cases self around with ⟨-,same⟩ | ⟨time,event,rest,pending,quiet | ⟨port,lease,rfl,-,-,-,scheduled⟩ |
    ⟨port,lease,_,-,-,-,quiet⟩⟩
  · rw [same]
    exact before
  · rw [renewals_popped pending] at before
    rw [renewals_quiet quiet]
    omega
  · -- the event that was taken makes room for the one that is scheduled
    rw [renewals_popped pending] at before
    rw [renewals_schedules scheduled,List.countP_singleton]
    simp only [decide_eq_true_eq]
    omega
  · rw [renewals_popped pending] at before
    rw [renewals_quiet quiet]
    have kept : renewals (release (popped self time rest) port) interface deadline = renewals (popped self time rest)
        interface deadline :=
      rfl
    omega

theorem Unforked.apply (unforked : Unforked self) (distinct : Distinct self operation) :
    Unforked (self.apply operation) := by
  rcases apply_cases self operation with ⟨port,lease,installs⟩ | ⟨around,rfl⟩ | ⟨time,rfl⟩ | ⟨before,events,-,quiet⟩
  · obtain ⟨new,installed,added,renewed,-⟩ := installs_cases installs
    intro interface deadline
    have old := unforked interface deadline
    have total : renewals (self.apply operation) interface deadline =
        new.countP (fun event => event.2 = .DhcpRenew interface deadline) + renewals self interface deadline := by
      rw [renewals,installed.pending.countP_eq,List.countP_append]
      rfl
    have few := added.sublist.countP_le (p := fun event => decide (event.2 = .DhcpRenew interface deadline))
    rw [List.countP_cons,List.countP_singleton] at few
    by_cases same : port = interface ∧ lease.expires_at = deadline
    · obtain ⟨rfl,rfl⟩ := same
      by_cases room : self.events.insertions.toNat + 1 < 2 ^ 64
      · have none := distinct port lease installs room
        simp only [renewal,expiry,decide_true,reduceCtorEq,decide_false,Bool.false_eq_true,if_false,if_true] at few
        omega
      · have empty : new = [] := by
          have absent : renewal port lease ∉ new := fun member => room (renewed.mpr member)
          rcases List.suffix_cons_iff.mp added with rfl | shorter
          · exact absurd (List.mem_cons_of_mem _ List.mem_cons_self) absent
          rcases List.suffix_cons_iff.mp shorter with rfl | none
          · exact absurd List.mem_cons_self absent
          · exact List.suffix_nil.mp none
        rw [total,empty]
        simpa using old
    · have other : SimulationEvent.DhcpRenew port lease.expires_at ≠ .DhcpRenew interface deadline := by
        intro equal
        cases equal
        exact same ⟨rfl,rfl⟩
      simp only [renewal,expiry,reduceCtorEq,decide_false,Bool.false_eq_true,if_false,other] at few
      omega
  · exact unforked.step around
  · rcases advance_to_cases self time with same | ⟨-,-,same⟩
    · rw [same]
      exact unforked
    · rw [same]
      exact unforked
  · intro interface deadline
    have old := unforked interface deadline
    rw [renewals_quiet quiet,renewals,events]
    exact old

/-- After an acknowledgement the renewal of its lease is under way once more than before. -/
theorem Single.distinct (single : Single (self.apply operation)) : Distinct self operation := by
  intro interface lease installs room
  obtain ⟨new,installed,-,renewed,-⟩ := installs_cases installs
  have held : (self.apply operation).dhcp_leases.get? interface = some lease := by
    rw [installed.leases,OrderedMap.get?_insert_self]
  have once := single interface lease held
  rw [renewals,installed.pending.countP_eq,List.countP_append] at once
  have positive : 0 < new.countP (fun event => event.2 = .DhcpRenew interface lease.expires_at) :=
    List.countP_pos_iff.mpr ⟨_,renewed.mp room,decide_eq_true rfl⟩
  unfold renewals
  omega

theorem Guarded.step (guarded : Guarded self) (sound : Sound self) (around : Surroundings) :
    Guarded (self.step around).2 := by
  rcases step_cases self around with ⟨-,same⟩ | ⟨time,event,rest,pending,quiet | ⟨port,lease,-,-,-,-,scheduled⟩ |
    ⟨port,lease,_,-,-,-,quiet⟩⟩
  · rw [same]
    exact guarded
  · exact (guarded.popped sound pending).quiet quiet
  · intro interface other held early
    rw [scheduled.leases] at held
    rw [scheduled.now] at early
    exact scheduled.pending.mem_iff.mpr (List.mem_append_right _ (guarded.popped sound pending interface other held early))
  · exact ((guarded.popped sound pending).release port).quiet quiet

theorem Guarded.apply (guarded : Guarded self) (sound : Sound self) (room : Room self operation) :
    Guarded (self.apply operation) := by
  rcases apply_cases self operation with ⟨port,lease,installs⟩ | ⟨around,rfl⟩ | ⟨time,rfl⟩ | ⟨before,events,leases,quiet⟩
  · obtain ⟨new,installed,-,-,ends⟩ := installs_cases installs
    intro interface other held early
    rw [installed.now] at early
    rw [installed.leases,OrderedMap.get?_insert] at held
    refine installed.pending.mem_iff.mpr (List.mem_append.mpr ?_)
    by_cases here : interface = port
    · rw [if_pos here] at held
      cases held
      rw [here]
      exact .inl (ends (room port lease installs))
    · rw [if_neg here] at held
      exact .inr (guarded interface other held early)
  · exact guarded.step sound around
  · rcases advance_to_cases self time with same | ⟨now,-,same⟩
    · rw [same]
      exact guarded
    · rw [same]
      intro interface lease held early
      exact guarded interface lease held (lt_of_le_of_lt now early)
  · have kept : Guarded before := by
      intro interface lease held early
      have present : before.now = self.now := congrArg Reference.now events
      rw [present] at early
      rw [events]
      exact guarded interface lease (leases interface lease held) early
    exact kept.quiet quiet

/-- An event removes a lease only when the lease's own end has been reached. -/
theorem step_removes (sound : Sound self) (around : Surroundings) (held : self.dhcp_leases.get? interface = some lease)
    (removed : (self.step around).2.dhcp_leases.get? interface ≠ some lease) :
    lease.expires_at ≤ (self.step around).2.now := by
  rcases step_cases self around with
    ⟨-,same⟩ | ⟨time,event,rest,pending,quiet | ⟨port,other,-,-,-,-,scheduled⟩ | ⟨port,other,deadline,rfl,its,ends,quiet⟩⟩
  · rw [same] at removed
    exact absurd held removed
  · rw [quiet.leases] at removed
    exact absurd held removed
  · rw [scheduled.leases] at removed
    exact absurd held removed
  · have due : time = deadline := sound.timed time port other.address deadline (by rw [pending]; exact List.mem_cons_self)
    rw [quiet.now]
    have now : (release (popped self time rest) port).now = time := rfl
    rw [now,due]
    rw [quiet.leases] at removed
    by_cases here : interface = port
    · subst here
      rw [held] at its
      cases its
      exact ends
    · refine absurd ?_ removed
      have kept : (release (popped self time rest) port).dhcp_leases = self.dhcp_leases.erase port := rfl
      rw [kept,OrderedMap.get?_erase,if_neg here]
      exact held

/-! ### Runs of clients -/

theorem run_take (lab : Lab) (operations : List Operation) {k : Nat} (here : operations[k]? = some operation) :
    lab.run (operations.take (k + 1)) = (lab.run (operations.take k)).apply operation := by
  rw [List.take_add_one,here,Lab.run,List.foldl_append]
  rfl

/-- What every call of a run keeps, from a lab in which it holds, holds in every state of the run. -/
theorem run_keeps {P : Lab → Prop} {operations : List Operation} (start : P Lab.new)
    (step : ∀ k operation, operations[k]? = some operation → P (Lab.new.run (operations.take k)) →
      P ((Lab.new.run (operations.take k)).apply operation)) (k : Nat) : P (Lab.new.run (operations.take k)) := by
  induction k with
  | zero => exact start
  | succ k ih =>
    cases here : operations[k]? with
    | none =>
      rw [List.take_add_one,here,Option.toList_none,List.append_nil]
      exact ih
    | some operation =>
      rw [run_take _ _ here]
      exact step k operation here ih

theorem run_sound (operations : List Operation) (k : Nat) : Sound (Lab.new.run (operations.take k)) := by
  refine run_keeps ⟨⟨List.Pairwise.nil,fun _ impossible => absurd impossible List.not_mem_nil⟩,?_⟩
    (fun _ operation _ sound => sound.apply operation) k
  exact fun _ _ _ _ impossible => absurd impossible List.not_mem_nil

/-- The timers of the clients of a lab, over every run. An event removes a lease only at its end; a renewal is tried
again later than now and before the lease ends; a lease has one chain of renewals in every state exactly when every
acknowledged lease ends at an instant of its own; and while the queue has numbers left, the end of a lease is pending. -/
theorem lease_timers (operations : List Operation) :
    (∀ k around interface lease, (Lab.new.run (operations.take k)).dhcp_leases.get? interface = some lease →
      ((Lab.new.run (operations.take k)).step around).2.dhcp_leases.get? interface ≠ some lease →
      lease.expires_at ≤ ((Lab.new.run (operations.take k)).step around).2.now) ∧
    (∀ k around interface deadline, let before := Lab.new.run (operations.take k)
      (before.renew_dhcp around interface deadline).2.events.pending.Perm before.events.pending ∨
        ∃ lease, before.dhcp_leases.get? interface = some lease ∧ lease.expires_at = deadline ∧
          before.now < Lab.boundary before.now lease ∧ before.now < Lab.retry before.now lease ∧
          Lab.retry before.now lease < deadline ∧
          (before.renew_dhcp around interface deadline).2.events.pending.Perm
            ((Lab.retry before.now lease,.DhcpRenew interface deadline) :: before.events.pending)) ∧
    ((∀ k, Single (Lab.new.run (operations.take k))) ↔
      ∀ k operation, operations[k]? = some operation → Distinct (Lab.new.run (operations.take k)) operation) ∧
    ((∀ k operation, operations[k]? = some operation → Room (Lab.new.run (operations.take k)) operation) →
      ∀ k, Guarded (Lab.new.run (operations.take k))) := by
  refine ⟨?_,?_,⟨?_,?_⟩,?_⟩
  · intro k around interface lease held removed
    exact step_removes (run_sound operations k) around held removed
  · intro k around interface deadline before
    rcases renew_dhcp_cases before around interface deadline with nothing | ⟨lease,held,ends,early,again,scheduled⟩
    · exact .inl nothing.pending
    · obtain ⟨ahead,later⟩ := retry_bounds (show before.now < lease.expires_at by rw [ends]; exact early)
      exact .inr ⟨lease,held,ends,ahead,later,again,scheduled.pending⟩
  · intro single k operation here
    have after := single (k + 1)
    rw [run_take _ _ here] at after
    exact after.distinct
  · intro distinct k interface lease _
    exact run_keeps (P := Unforked) (fun _ _ => Nat.zero_le 1)
      (fun k operation here unforked => unforked.apply (distinct k operation here)) k interface lease.expires_at
  · intro room k
    refine run_keeps ?_ (fun k operation here guarded => guarded.apply (run_sound operations k) (room k operation here)) k
    intro interface lease held
    cases held

/-- An acknowledgement of 10.0.0.5/24 for some seconds. -/
def acknowledgement (xid seconds : UInt32) : DhcpMessage :=
  ⟨.Ack,xid,⟨Vector.replicate 6 2⟩,0x0a000005,0,0,0,[],none,none,none,none,some 0x0a000001,some 0xffffff00,none,some seconds⟩

/-- A lease of 120 seconds, and at its first renewal one of 60 seconds. -/
def shorter_renewal : List Operation :=
  let open_network : Surroundings := ⟨fun _ => true,fun _ => true⟩
  [.configure ⟨1,1⟩ ⟨Vector.replicate 6 2⟩ true,.schedule_dhcp_now 1,.step open_network,
    .handle_dhcp open_network ⟨1,1⟩ (acknowledgement 1 120),.step open_network,.step open_network,
    .handle_dhcp open_network ⟨1,1⟩ (acknowledgement 2 60)]

/-- The second lease ends with the first one, and both renew it. -/
theorem shorter_renewal_forks : ¬ ∀ operations, Single (Lab.new.run operations) := by
  intro single
  have twice : ((Lab.new.run shorter_renewal).dhcp_leases.get? ⟨1,1⟩).map
      (fun lease => renewals (Lab.new.run shorter_renewal) ⟨1,1⟩ lease.expires_at) = some 2 := by
    decide +kernel
  obtain ⟨lease,held,two⟩ := Option.map_eq_some_iff.mp twice
  have once := single shorter_renewal ⟨1,1⟩ lease held
  omega

end Rios.DhcpTimers
