import Rios.Transport

/-!
# Packets that wait for address resolution

The queue of IPv4 packets whose next hop has no known address yet, and the
requests that are sent for them. A packet is only followed by a request if no
other packet waits for the same next hop.
-/

namespace Rios.Arp
open Rios.Machine Rios.Device Rios.Queue Rios.Transport

structure InterfaceRef where
  device : UInt64
  interface : InterfaceId
deriving DecidableEq

/-- The derived `Ord` of interface references. -/
instance interfaceRefLinearOrder : LinearOrder InterfaceRef :=
  LinearOrder.lift' (fun endpoint => toLex (endpoint.device,endpoint.interface)) (fun a b same => by
    obtain ⟨_,_⟩ := a
    obtain ⟨_,_⟩ := b
    obtain ⟨device,interface⟩ := Prod.mk.inj (toLex.injective same)
    simp only at device interface
    subst device interface
    rfl)

/-- Fully resolved egress decision used by the simulator. -/
structure ResolvedRoute where
  interface : InterfaceId
  source_ip : Ipv4Addr
  source_mac : MacAddress
  next_hop : Ipv4Addr
deriving DecidableEq

def PING_TIMEOUT_MS : UInt64 := 1000

/-- A waiting packet. The time at which it was queued is not in the source. -/
structure PendingIpv4 where
  source : InterfaceRef
  next_hop : Ipv4Addr
  packet : Ipv4Packet
  expires_at : SimTime
  queued_at : SimTime
deriving DecidableEq

/-- What is handed to an interface. -/
inductive Transmission where
  | Ipv4 (source : InterfaceRef) (source_mac destination_mac : MacAddress) (packet : Ipv4Packet)
  | ArpRequest (source : InterfaceRef) (sender_mac : MacAddress) (sender_ip target_ip : Ipv4Addr)
deriving DecidableEq

/-- The waiting packets of a lab. Two histories are added: every request with its time, and for each next hop the last
    time at which a packet was queued that found nothing waiting for it. -/
structure Lab where
  now : SimTime
  pending_ipv4 : List PendingIpv4
  requests : List (SimTime × InterfaceRef × Ipv4Addr)
  burst : InterfaceRef → Ipv4Addr → Option SimTime

namespace Lab

def empty : Lab := ⟨0,[],[],fun _ _ => none⟩

def send_arp_request (self : Lab) (source : InterfaceRef) (route : ResolvedRoute) : Lab × List Transmission :=
  ({ self with requests := self.requests ++ [(self.now,source,route.next_hop)] },
    [.ArpRequest source route.source_mac route.source_ip route.next_hop])

/-- Whether a packet waits for a next hop. -/
def awaits (pending : List PendingIpv4) (source : InterfaceRef) (next_hop : Ipv4Addr) : Bool :=
  pending.any (fun waiting => waiting.source = source ∧ waiting.next_hop = next_hop)

/-- The packets that are still in time when another one is queued. -/
def unexpired (self : Lab) : List PendingIpv4 := self.pending_ipv4.filter (fun waiting => self.now < waiting.expires_at)

/-- Whether the queue or the share of an interface is used up. -/
def queue_full (pending : List PendingIpv4) (source : InterfaceRef) : Bool :=
  4096 ≤ pending.length ∨ 256 ≤ (pending.filter (fun waiting => waiting.source = source)).length

/-- Put a packet at the end of the queue. -/
def push (self : Lab) (source : InterfaceRef) (route : ResolvedRoute) (packet : Ipv4Packet) : Lab :=
  { self with
    pending_ipv4 := self.unexpired ++
      [⟨source,route.next_hop,packet,satAdd64 self.now (PING_TIMEOUT_MS * 1000),self.now⟩] }

/-- Note that a packet found nothing waiting for its next hop. -/
def begin_burst (self : Lab) (source : InterfaceRef) (next_hop : Ipv4Addr) : Lab :=
  { self with
    burst := fun other hop => if other = source ∧ hop = next_hop then some self.now else self.burst other hop }

/-- Send through a resolved route; `neighbor` is the address that the cache has for the next hop on that interface. -/
def send_ipv4_via (self : Lab) (device : UInt64) (route : ResolvedRoute) (neighbor : Option MacAddress)
    (packet : Ipv4Packet) :
    Lab × List Transmission × Bool :=
  let source : InterfaceRef := ⟨device,route.interface⟩
  match neighbor with
  | some mac_address => (self,[.Ipv4 source route.source_mac mac_address packet],true)
  | none =>
    if queue_full self.unexpired source then ({ self with pending_ipv4 := self.unexpired },[],false)
    else if awaits self.unexpired source route.next_hop then (self.push source route packet,[],true)
    else
      let sent := ((self.push source route packet).begin_burst source route.next_hop).send_arp_request source route
      (sent.1,sent.2,true)

/-- An address became known: what waits for it is sent. -/
def flush_pending (self : Lab) (interface : InterfaceRef) (source_mac : MacAddress) (next_hop : Ipv4Addr)
    (destination_mac : MacAddress) : Lab × List Transmission :=
  ({ self with
    pending_ipv4 := self.pending_ipv4.filter (fun item =>
      ¬ (item.source = interface ∧ item.next_hop = next_hop ∧ self.now ≤ item.expires_at) ∧ self.now ≤ item.expires_at) },
    (self.pending_ipv4.filter (fun item => item.source = interface ∧ item.next_hop = next_hop ∧ self.now ≤ item.expires_at)).map
      (fun item => .Ipv4 interface source_mac destination_mac item.packet))

def purge_pending (self : Lab) : Lab :=
  { self with pending_ipv4 := self.pending_ipv4.filter (fun packet => self.now ≤ packet.expires_at) }

/-- The steps of a lab that see the queue or send a request. -/
inductive Operation where
  | advance (time : SimTime)
  | send (device : UInt64) (route : ResolvedRoute) (neighbor : Option MacAddress) (packet : Ipv4Packet)
  | resolved (interface : InterfaceRef) (source_mac : MacAddress) (next_hop : Ipv4Addr) (destination_mac : MacAddress)
  | purge
  /-- The request of a ping whose next hop is not in the cache (`ensure_neighbor`). -/
  | probe (source : InterfaceRef) (route : ResolvedRoute)

def perform (self : Lab) : Operation → Lab
  | .advance time => if time < self.now then self else { self with now := time }
  | .send device route neighbor packet => (self.send_ipv4_via device route neighbor packet).1
  | .resolved interface source_mac next_hop destination_mac =>
    (self.flush_pending interface source_mac next_hop destination_mac).1
  | .purge => self.purge_pending
  | .probe source route => (self.send_arp_request source route).1

/-! ### Requests and the packets they cover -/

/-- A second, in microseconds. -/
def second : Nat := 1000000

/-- A request for the next hop of a packet went out at most a second before the packet was queued. -/
def Covers (self : Lab) (waiting : PendingIpv4) : Prop :=
  ∃ time, (time,waiting.source,waiting.next_hop) ∈ self.requests ∧ waiting.queued_at.toNat ≤ time.toNat + second

def Covered (self : Lab) : Prop := ∀ waiting ∈ self.pending_ipv4, self.Covers waiting

/-- A packet that is queued behind others for its next hop comes at most a second after the one that found nothing
    waiting. -/
def Prompt (self : Lab) : Operation → Prop
  | .send device route none _ =>
    ¬ queue_full self.unexpired ⟨device,route.interface⟩ → awaits self.unexpired ⟨device,route.interface⟩ route.next_hop →
      ∀ time, self.burst ⟨device,route.interface⟩ route.next_hop = some time → self.now.toNat ≤ time.toNat + second
  | _ => True

/-- A condition on the state and the step that holds along a run. -/
def Along (condition : Lab → Operation → Prop) : Lab → List Operation → Prop
  | _,[] => True
  | self,operation :: rest => condition self operation ∧ Along condition (self.perform operation) rest

/-- A condition on every state of a run. -/
def Always (condition : Lab → Prop) : Lab → List Operation → Prop
  | self,[] => condition self
  | self,operation :: rest => condition self ∧ Always condition (self.perform operation) rest

/-- The steps other than the requests of a ping. -/
def Operation.Ordinary : Operation → Prop
  | .probe .. => False
  | _ => True

variable {source : InterfaceRef}

theorem awaits_iff {pending : List PendingIpv4} {next_hop : Ipv4Addr} :
    awaits pending source next_hop = true ↔
      ∃ waiting ∈ pending, waiting.source = source ∧ waiting.next_hop = next_hop := by
  simp only [awaits,List.any_eq_true,decide_eq_true_eq]

/-- Every waiting packet belongs to a burst whose first packet sent a request. -/
structure Tracked (lab : Lab) : Prop where
  begun : ∀ waiting ∈ lab.pending_ipv4, ∃ time,
    lab.burst waiting.source waiting.next_hop = some time ∧ (time,waiting.source,waiting.next_hop) ∈ lab.requests
  past : ∀ request ∈ lab.requests, request.1 ≤ lab.now

/-- Every waiting packet was queued at most a second after its burst began. -/
def Fresh (self : Lab) : Prop :=
  ∀ waiting ∈ self.pending_ipv4, ∀ time, self.burst waiting.source waiting.next_hop = some time →
    waiting.queued_at.toNat ≤ time.toNat + second

variable {self : Lab}

theorem Fresh.covered (fresh : self.Fresh) (tracked : self.Tracked) : self.Covered := by
  intro waiting member
  obtain ⟨time,begun,requested⟩ := tracked.begun waiting member
  exact ⟨time,requested,fresh waiting member time begun⟩

/-- Some of the packets remain, and nothing else has changed. -/
theorem Tracked.fewer (tracked : self.Tracked) {pending : List PendingIpv4}
    (fewer : ∀ waiting ∈ pending, waiting ∈ self.pending_ipv4) : ({ self with pending_ipv4 := pending } : Lab).Tracked :=
  ⟨fun waiting member => tracked.begun waiting (fewer waiting member),tracked.past⟩

theorem Fresh.fewer (fresh : self.Fresh) {pending : List PendingIpv4}
    (fewer : ∀ waiting ∈ pending, waiting ∈ self.pending_ipv4) : ({ self with pending_ipv4 := pending } : Lab).Fresh :=
  fun waiting member => fresh waiting (fewer waiting member)

theorem unexpired_subset (self : Lab) : ∀ waiting ∈ self.unexpired, waiting ∈ self.pending_ipv4 :=
  fun _ member => (List.mem_filter.mp member).1

/-- A packet joins the burst of its next hop. -/
theorem Tracked.joins (tracked : self.Tracked) {route : ResolvedRoute}
    (behind : awaits self.unexpired source route.next_hop = true) (packet : Ipv4Packet) :
    (self.push source route packet).Tracked := by
  obtain ⟨first,member,same_source,same_hop⟩ := awaits_iff.mp behind
  obtain ⟨time,begun,requested⟩ := tracked.begun first (unexpired_subset self first member)
  rw [same_source,same_hop] at begun requested
  refine ⟨?_,tracked.past⟩
  intro waiting inside
  rcases List.mem_append.mp inside with old | new
  · exact tracked.begun waiting (unexpired_subset self waiting old)
  · rw [List.mem_singleton.mp new]
    exact ⟨time,begun,requested⟩

/-- A packet that finds nothing waiting begins a burst with a request. -/
theorem Tracked.begins (tracked : self.Tracked) {route : ResolvedRoute}
    (alone : awaits self.unexpired source route.next_hop = false) (packet : Ipv4Packet) :
    (((self.push source route packet).begin_burst source route.next_hop).send_arp_request source route).1.Tracked := by
  constructor
  · intro waiting inside
    rcases List.mem_append.mp inside with old | new
    · obtain ⟨time,begun,requested⟩ := tracked.begun waiting (unexpired_subset self waiting old)
      have other : ¬ (waiting.source = source ∧ waiting.next_hop = route.next_hop) := by
        intro same
        have behind := awaits_iff.mpr ⟨waiting,old,same⟩
        rw [alone] at behind
        cases behind
      refine ⟨time,?_,List.mem_append_left _ requested⟩
      show (if waiting.source = source ∧ waiting.next_hop = route.next_hop then some self.now else _) = some time
      rw [if_neg other]
      exact begun
    · rw [List.mem_singleton.mp new]
      refine ⟨self.now,?_,List.mem_append_right _ (List.mem_singleton_self _)⟩
      show (if source = source ∧ route.next_hop = route.next_hop then some self.now else _) = some self.now
      rw [if_pos ⟨rfl,rfl⟩]
  · intro request inside
    rcases List.mem_append.mp inside with old | new
    · exact tracked.past request old
    · rw [List.mem_singleton.mp new]
      exact le_refl self.now

theorem Fresh.begins (fresh : self.Fresh) {route : ResolvedRoute}
    (alone : awaits self.unexpired source route.next_hop = false) (packet : Ipv4Packet) :
    (((self.push source route packet).begin_burst source route.next_hop).send_arp_request source route).1.Fresh := by
  intro waiting inside time begun
  have begun : (if waiting.source = source ∧ waiting.next_hop = route.next_hop then some self.now
      else self.burst waiting.source waiting.next_hop) = some time := begun
  rcases List.mem_append.mp inside with old | new
  · by_cases same : waiting.source = source ∧ waiting.next_hop = route.next_hop
    · have behind := awaits_iff.mpr ⟨waiting,old,same⟩
      rw [alone] at behind
      cases behind
    · rw [if_neg same] at begun
      exact fresh waiting (unexpired_subset self waiting old) time begun
  · rw [List.mem_singleton.mp new] at begun ⊢
    rw [if_pos ⟨rfl,rfl⟩] at begun
    rw [← Option.some.inj begun]
    exact Nat.le_add_right _ _

theorem Tracked.step (tracked : self.Tracked) (operation : Operation) : (self.perform operation).Tracked := by
  cases operation with
  | advance time =>
    rw [perform]
    split
    · exact tracked
    · rename_i later
      exact ⟨tracked.begun,fun request member => (tracked.past request member).trans (not_lt.mp later)⟩
  | send device route neighbor packet =>
    cases neighbor with
    | some _ => exact tracked
    | none =>
      rw [perform,send_ipv4_via]
      dsimp only
      split
      · exact tracked.fewer (unexpired_subset self)
      · split
        · rename_i behind
          exact tracked.joins behind packet
        · rename_i alone
          exact tracked.begins (Bool.eq_false_iff.mpr alone) packet
  | resolved _ _ _ _ => exact tracked.fewer (fun _ member => (List.mem_filter.mp member).1)
  | purge => exact tracked.fewer (fun _ member => (List.mem_filter.mp member).1)
  | probe source route =>
    refine ⟨?_,?_⟩
    · intro waiting member
      obtain ⟨time,begun,requested⟩ := tracked.begun waiting member
      exact ⟨time,begun,List.mem_append_left _ requested⟩
    · intro request inside
      rcases List.mem_append.mp inside with old | new
      · exact tracked.past request old
      · rw [List.mem_singleton.mp new]
        exact le_refl self.now

theorem Fresh.step (fresh : self.Fresh) {operation : Operation} (prompt : self.Prompt operation) :
    (self.perform operation).Fresh := by
  cases operation with
  | advance time =>
    rw [perform]
    split
    · exact fresh
    · exact fresh
  | send device route neighbor packet =>
    cases neighbor with
    | some _ => exact fresh
    | none =>
      rw [perform,send_ipv4_via]
      dsimp only
      split
      · exact fresh.fewer (unexpired_subset self)
      · rename_i room
        split
        · rename_i behind
          intro waiting inside time begun
          rcases List.mem_append.mp inside with old | new
          · exact fresh waiting (unexpired_subset self waiting old) time begun
          · rw [List.mem_singleton.mp new] at begun ⊢
            exact prompt room behind time begun
        · rename_i alone
          exact fresh.begins (Bool.eq_false_iff.mpr alone) packet
  | resolved _ _ _ _ => exact fresh.fewer (fun _ member => (List.mem_filter.mp member).1)
  | purge => exact fresh.fewer (fun _ member => (List.mem_filter.mp member).1)
  | probe _ _ => exact fresh

/-- Without the requests of pings, every request began a burst. -/
def Plain (self : Lab) : Prop :=
  ∀ request ∈ self.requests, ∃ time, self.burst request.2.1 request.2.2 = some time ∧ request.1 ≤ time

theorem Plain.step (plain : self.Plain) (tracked : self.Tracked) {operation : Operation}
    (ordinary : operation.Ordinary) : (self.perform operation).Plain := by
  cases operation with
  | advance time =>
    rw [perform]
    split
    · exact plain
    · exact plain
  | send device route neighbor packet =>
    cases neighbor with
    | some _ => exact plain
    | none =>
      rw [perform,send_ipv4_via]
      dsimp only
      split
      · exact plain
      · split
        · exact plain
        · intro request inside
          show ∃ time, (if request.2.1 = _ ∧ request.2.2 = _ then some self.now else _) = some time ∧ request.1 ≤ time
          rcases List.mem_append.mp inside with old | new
          · by_cases same : request.2.1 = ⟨device,route.interface⟩ ∧ request.2.2 = route.next_hop
            · rw [if_pos same]
              exact ⟨self.now,rfl,tracked.past request old⟩
            · rw [if_neg same]
              exact plain request old
          · rw [List.mem_singleton.mp new,if_pos ⟨rfl,rfl⟩]
            exact ⟨self.now,rfl,le_refl self.now⟩
  | resolved _ _ _ _ => exact plain
  | purge => exact plain
  | probe _ _ => exact ordinary.elim

/-- A packet that is queued too late is not covered. -/
theorem Plain.prompt (plain : self.Plain) {operation : Operation} (covered : (self.perform operation).Covered) :
    self.Prompt operation := by
  cases operation with
  | send device route neighbor packet =>
    cases neighbor with
    | some _ => trivial
    | none =>
      intro room behind time begun
      have queued : self.perform (.send device route none packet) = self.push ⟨device,route.interface⟩ route packet := by
        rw [perform,send_ipv4_via]
        dsimp only
        rw [if_neg room,if_pos behind]
      rw [queued] at covered
      obtain ⟨sent,requested,late⟩ := covered _ (List.mem_append_right _ (List.mem_singleton_self _))
      obtain ⟨last,latest,before⟩ := plain _ requested
      have same : some last = some time := latest.symm.trans begun
      have earlier := UInt64.le_iff_toNat_le.mp before
      rw [Option.some.inj same] at earlier
      exact late.trans (Nat.add_le_add_right earlier second)
  | _ => trivial

variable {operations : List Operation}

theorem Always.here {condition : Lab → Prop} (always : Always condition self operations) : condition self := by
  cases operations with
  | nil => exact always
  | cons _ _ => exact always.1

theorem Fresh.run (fresh : self.Fresh) (tracked : self.Tracked) (prompt : Along Prompt self operations) :
    Always Covered self operations := by
  induction operations generalizing self with
  | nil => exact fresh.covered tracked
  | cons operation rest ih =>
    exact ⟨fresh.covered tracked,ih (fresh.step prompt.1) (tracked.step operation) prompt.2⟩

theorem Plain.run (plain : self.Plain) (tracked : self.Tracked)
    (ordinary : ∀ operation ∈ operations, operation.Ordinary) (covered : Always Covered self operations) :
    Along Prompt self operations := by
  induction operations generalizing self with
  | nil => trivial
  | cons operation rest ih =>
    refine ⟨plain.prompt covered.2.here,ih ?_ (tracked.step operation) ?_ covered.2⟩
    · exact plain.step tracked (ordinary operation List.mem_cons_self)
    · intro other member
      exact ordinary other (List.mem_cons_of_mem _ member)

/-- Every waiting packet is covered in every state of a run in which the packets of a burst come within a second of its first
    one; and without the requests of pings, in no other run. -/
theorem requests_cover (operations : List Operation) :
    (Along Prompt empty operations → Always Covered empty operations) ∧
      ((∀ operation ∈ operations, operation.Ordinary) → Always Covered empty operations → Along Prompt empty operations) := by
  have tracked : empty.Tracked := ⟨(fun _ member => by cases member),(fun _ member => by cases member)⟩
  have fresh : empty.Fresh := fun _ member => by cases member
  have plain : empty.Plain := fun _ member => by cases member
  exact ⟨fresh.run tracked,fun ordinary covered => plain.run tracked ordinary covered⟩

/-- A route and a packet through the first interface of the first device. -/
def sample_route : ResolvedRoute := ⟨1,0x0a000001,⟨⟨#[0,0,0,0,0,1],rfl⟩⟩,0x0a000002⟩
def sample_packet : Ipv4Packet := ⟨0,0x0a000001,0x0a000002,64,.Udp,[]⟩

theorem prompt_of_burst {self : Lab} {device : UInt64} {route : ResolvedRoute} {packet : Ipv4Packet} {first : SimTime}
    (begun : self.burst ⟨device,route.interface⟩ route.next_hop = some first)
    (soon : self.now.toNat ≤ first.toNat + second) :
    self.Prompt (.send device route none packet) := by
  intro _ _ time known
  obtain rfl := Option.some.inj (begun.symm.trans known)
  exact soon

/-- Three packets within a second, a look at their ages, and the answer for the next hop. -/
def prompt_traffic : List Operation :=
  [.send 1 sample_route none sample_packet,.advance 400000,.send 1 sample_route none sample_packet,.advance 800000,
    .send 1 sample_route none sample_packet,.purge,.resolved ⟨1,1⟩ ⟨⟨#[0,0,0,0,0,1],rfl⟩⟩ 0x0a000002 ⟨⟨#[0,0,0,0,0,2],rfl⟩⟩]

/-- The three packets wait together for the answer, with one request. -/
theorem requests_cover_prompt : ((prompt_traffic.take 6).foldl perform empty).pending_ipv4.length = 3 ∧
    (prompt_traffic.foldl perform empty).pending_ipv4 = [] ∧ Always Covered empty prompt_traffic := by
  refine ⟨by decide +kernel,by decide +kernel,(requests_cover prompt_traffic).1 ?_⟩
  refine ⟨fun _ behind => absurd behind (by decide),trivial,?_,trivial,?_,trivial,trivial,trivial⟩
  · exact @prompt_of_burst _ _ _ _ 0 (by decide +kernel) (by decide +kernel)
  · exact @prompt_of_burst _ _ _ _ 0 (by decide +kernel) (by decide +kernel)

/-- Four packets, 0.4 seconds apart, with no answer. -/
def steady_traffic : List Operation :=
  [.send 1 sample_route none sample_packet,.advance 400000,.send 1 sample_route none sample_packet,.advance 800000,
    .send 1 sample_route none sample_packet,.advance 1200000,.send 1 sample_route none sample_packet]

/-- The last packet of the steady traffic, behind two earlier ones; the only request is 1.2 seconds old. -/
def last_waiting : PendingIpv4 := ⟨⟨1,1⟩,0x0a000002,sample_packet,2200000,1200000⟩

theorem steady_traffic_end :
    last_waiting ∈ (steady_traffic.foldl perform empty).pending_ipv4 ∧
      (steady_traffic.foldl perform empty).requests = [(0,⟨1,1⟩,0x0a000002)] := by
  decide +kernel

theorem Always.last {condition : Lab → Prop} (always : Always condition self operations) :
    condition (operations.foldl perform self) := by
  induction operations generalizing self with
  | nil => exact always
  | cons _ _ ih => exact ih always.2

/-- The last packet of the steady traffic waits without a request in the second before it. -/
theorem steady_traffic_uncovered : ¬ Always Covered empty steady_traffic := by
  intro covered
  obtain ⟨waits,requests⟩ := steady_traffic_end
  obtain ⟨time,requested,late⟩ := covered.last last_waiting waits
  rw [requests] at requested
  have first : time = 0 := congrArg Prod.fst (List.mem_singleton.mp requested)
  rw [first] at late
  exact absurd late (by decide)

end Lab
end Rios.Arp
