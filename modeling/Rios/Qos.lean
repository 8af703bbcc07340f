import Rios.Queue

/-!
# The QoS scheduler of a port

Bounded class queues with token buckets, finish tags given at arrival, and the
selection of the next packet. `usize` byte lengths are those of a 64-bit target;
`u128` finish tags are naturals that saturate where `u128` does.
-/

namespace Rios.Qos
open Rios.Machine
open Rios.Queue (SimTime ScheduleError)

/-- The largest `u128`. -/
def maxTag : Nat := 2 ^ 128 - 1

structure RateLimit where
  bits_per_second : UInt64
  burst_bytes : UInt64
deriving DecidableEq

/-- `RateLimit::valid`. -/
def RateLimit.valid (self : RateLimit) : Bool :=
  (1 ≤ self.bits_per_second && self.bits_per_second ≤ 1000000000000) &&
    (1 ≤ self.burst_bytes && self.burst_bytes ≤ 1073741824)

/-- One class's scheduling and traffic-conditioning policy. -/
structure QueueClassConfig where
  weight : UInt64
  priority : Option RateLimit
  police : Option RateLimit
  shape : Option RateLimit
deriving DecidableEq

inductive QueueRejectReason where
  | Full
  | Policed
  | PriorityExceeded
  | ShapeBurstExceeded
  | UnknownClass
deriving DecidableEq

universe u
variable {T : Type u}

/-- A packet handed back when admission fails. -/
structure QueueRejected (T : Type u) where
  reason : QueueRejectReason
  packet : T
deriving DecidableEq

/-- Cumulative class observations. -/
structure QosClassCounters where
  matched_packets : UInt64
  matched_bytes : UInt64
  transmitted_packets : UInt64
  transmitted_bytes : UInt64
  queue_drops : UInt64
  police_drops : UInt64
  priority_drops : UInt64
  shape_drops : UInt64
deriving DecidableEq

structure Queued (T : Type u) where
  packet : T
  bytes : UInt64
  finish : Nat
deriving DecidableEq

/-! ### Token buckets -/

/-- Fractional-bit credits of one rate limit. -/
structure TokenBucket where
  rate : RateLimit
  credit : Nat
  updated : SimTime
deriving DecidableEq

def BYTE_CREDITS : Nat := 8000000

/-- `u128::div_ceil`. -/
def div_ceil (a b : Nat) : Nat := a / b + if a % b = 0 then 0 else 1

namespace TokenBucket

def new (rate : RateLimit) (now : SimTime) : TokenBucket := ⟨rate,rate.burst_bytes.toNat * BYTE_CREDITS,now⟩

def refill (self : TokenBucket) (now : SimTime) : TokenBucket :=
  let elapsed := satSub64 now self.updated
  { self with
    credit := min (min (self.credit + elapsed.toNat * self.rate.bits_per_second.toNat) maxTag)
      (self.rate.burst_bytes.toNat * BYTE_CREDITS)
    updated := max now self.updated }

def available (self : TokenBucket) (now : SimTime) (bytes : UInt64) : Bool × TokenBucket :=
  let self := self.refill now
  (bytes.toNat * BYTE_CREDITS ≤ self.credit,self)

def take (self : TokenBucket) (now : SimTime) (bytes : UInt64) : Bool × TokenBucket :=
  match self.available now bytes with
  | (false,self) => (false,self)
  | (true,self) => (true,{ self with credit := self.credit - bytes.toNat * BYTE_CREDITS })

def ready_at (self : TokenBucket) (now : SimTime) (bytes : UInt64) : Except ScheduleError SimTime × TokenBucket :=
  let self := self.refill now
  let missing := bytes.toNat * BYTE_CREDITS - self.credit
  let wait := div_ceil missing self.rate.bits_per_second.toNat
  if wait < 2 ^ 64 then
    match checkedAdd64 now (UInt64.ofNat wait) with
    | some time => (.ok time,self)
    | none => (.error .Overflow,self)
  else (.error .Overflow,self)

end TokenBucket

/-! ### Classes -/

/-- One class (`Class`) with its queue. -/
structure QosClass (T : Type u) where
  config : QueueClassConfig
  priority : Option TokenBucket
  police : Option TokenBucket
  shape : Option TokenBucket
  packets : List (Queued T)
  last_finish : Nat
  counters : QosClassCounters
deriving DecidableEq

structure QosDeparture (T : Type u) where
  «class» : Nat
  bytes : UInt64
  packet : T
deriving DecidableEq

namespace QosClass

def new (config : QueueClassConfig) (now : SimTime) : QosClass T where
  config := config
  priority := config.priority.map (fun rate => TokenBucket.new rate now)
  police := config.police.map (fun rate => TokenBucket.new rate now)
  shape := config.shape.map (fun rate => TokenBucket.new rate now)
  packets := []
  last_finish := 0
  counters := ⟨0,0,0,0,0,0,0,0⟩

/-- `bucket.is_some_and(|bucket| !bucket.take(now, bytes))`. -/
def refuses (bucket : Option TokenBucket) (now : SimTime) (bytes : UInt64) : Bool × Option TokenBucket :=
  match bucket with
  | none => (false,none)
  | some bucket => (!(bucket.take now bytes).1,some (bucket.take now bytes).2)

/-- The counting and the four admission checks of `enqueue`, in their order. -/
def admission (self : QosClass T) (now : SimTime) (bytes : UInt64) (congested full : Bool) :
    Option QueueRejectReason × QosClass T :=
  let self := { self with counters := { self.counters with
    matched_packets := satAdd64 self.counters.matched_packets 1
    matched_bytes := satAdd64 self.counters.matched_bytes bytes } }
  let (policed,police) := refuses self.police now bytes
  let self := { self with police }
  if policed then
    (some .Policed,{ self with counters.police_drops := satAdd64 self.counters.police_drops 1 })
  else
    let (exceeded,priority) := refuses self.priority now bytes
    let self := { self with priority }
    if exceeded && congested then
      (some .PriorityExceeded,{ self with counters.priority_drops := satAdd64 self.counters.priority_drops 1 })
    else if self.config.shape.any (fun rate => rate.burst_bytes < bytes) then
      (some .ShapeBurstExceeded,{ self with counters.shape_drops := satAdd64 self.counters.shape_drops 1 })
    else if full then
      (some .Full,{ self with counters.queue_drops := satAdd64 self.counters.queue_drops 1 })
    else (none,self)

/-- The service of a frame: its bytes over the weight, in units of 10^-12, rounded up. -/
def service (self : QosClass T) (bytes : UInt64) : Nat :=
  div_ceil (bytes.toNat * 1000000000000) self.config.weight.toNat

/-- The head of the queue if the shaper lets it leave now. -/
def eligible_head (self : QosClass T) (now : SimTime) : Option (Queued T) × QosClass T :=
  match self.packets with
  | [] => (none,self)
  | packet :: _ =>
    match self.shape with
    | none => (some packet,self)
    | some bucket =>
      let (available,bucket) := bucket.available now packet.bytes
      (if available then some packet else none,{ self with shape := some bucket })

/-- The key under which an eligible head competes. -/
def selection_key (self : QosClass T) (packet : Queued T) (index : Nat) : Bool ×ₗ Nat ×ₗ Nat :=
  toLex (self.priority.isNone,toLex (if self.priority.isSome then 0 else packet.finish,index))

/-- The class after its first packet left. -/
def transmit (self : QosClass T) (now : SimTime) (packet : Queued T) (packets : List (Queued T)) : QosClass T :=
  { self with
    packets
    shape := self.shape.map (fun bucket => (bucket.take now packet.bytes).2)
    counters := { self.counters with
      transmitted_packets := satAdd64 self.counters.transmitted_packets 1
      transmitted_bytes := satAdd64 self.counters.transmitted_bytes packet.bytes } }

end QosClass

/-! ### The scheduler -/

/-- Weighted-fair service over FIFO classes with strict priority. -/
structure QosScheduler (T : Type u) where
  classes : List (QosClass T)
  capacity : Nat
  length : Nat
  virtual_time : Nat
deriving DecidableEq

namespace QosScheduler

def new (configs : List QueueClassConfig) (capacity : Nat) (now : SimTime) : Except String (QosScheduler T) :=
  if configs.isEmpty || 64 < configs.length || !(1 ≤ capacity && capacity ≤ 1000000) ||
      configs.any (fun c => !(1 ≤ c.weight && c.weight ≤ 1000000000000) ||
        ([c.priority,c.police,c.shape].reduceOption).any (fun rate => !rate.valid)) then
    .error "invalid class count, queue capacity, weight or rate limit"
  else .ok ⟨configs.map (fun config => QosClass.new config now),capacity,0,0⟩

/-- The reset of the tags at the start of `enqueue`, once nothing is queued. -/
def reset_idle (self : QosScheduler T) : QosScheduler T :=
  if self.length = 0 then
    { self with virtual_time := 0, classes := self.classes.map (fun c => { c with last_finish := 0 }) }
  else self

/-- The finish tag of a frame before it saturates. -/
def tag_of (self : QosScheduler T) (c : QosClass T) (bytes : UInt64) : Nat :=
  max c.last_finish self.virtual_time + c.service bytes

/-- Admit a frame using arrival-time policing and a shared waiting-plus-in-flight bound. -/
def enqueue (self : QosScheduler T) (index : Nat) (now : SimTime) (packet : T) (bytes : UInt64) (in_flight : Nat) :
    Except (QueueRejected T) Unit × QosScheduler T :=
  let self := self.reset_idle
  let congested := 0 < self.length || 0 < in_flight
  match self.classes[index]? with
  | none => (.error ⟨.UnknownClass,packet⟩,self)
  | some c =>
    match c.admission now bytes congested (self.capacity ≤ self.length + in_flight) with
    | (some reason,c) => (.error ⟨reason,packet⟩,{ self with classes := self.classes.set index c })
    | (none,c) =>
      let finish := min (self.tag_of c bytes) maxTag
      let c := { c with last_finish := finish, packets := c.packets ++ [⟨packet,bytes,finish⟩] }
      (.ok (),{ self with classes := self.classes.set index c, length := self.length + 1 })

/-- The loop of `next_ready`, with the classes whose buckets it refreshed. -/
def next_ready_from (now : SimTime) :
    List (QosClass T) → Option SimTime → Except ScheduleError (Option SimTime) × List (QosClass T)
  | [],next => (.ok next,[])
  | c :: rest,next =>
    match c.packets,c.shape with
    | [],_ => let (result,rest) := next_ready_from now rest next; (result,c :: rest)
    | _ :: _,none =>
      let (result,rest) := next_ready_from now rest (some (next.elim now (min · now)))
      (result,c :: rest)
    | packet :: _,some bucket =>
      match bucket.ready_at now packet.bytes with
      | (.error error,bucket) => (.error error,{ c with shape := some bucket } :: rest)
      | (.ok time,bucket) =>
        let (result,rest) := next_ready_from now rest (some (next.elim time (min · time)))
        (result,{ c with shape := some bucket } :: rest)

/-- The loop of `next_ready` over any deadlines of the shapers. -/
def next_ready_with (ready : TokenBucket → SimTime → UInt64 → Except ScheduleError SimTime × TokenBucket) (now : SimTime) :
    List (QosClass T) → Option SimTime → Except ScheduleError (Option SimTime) × List (QosClass T)
  | [],next => (.ok next,[])
  | c :: rest,next =>
    match c.packets,c.shape with
    | [],_ => let (result,rest) := next_ready_with ready now rest next; (result,c :: rest)
    | _ :: _,none =>
      let (result,rest) := next_ready_with ready now rest (some (next.elim now (min · now)))
      (result,c :: rest)
    | packet :: _,some bucket =>
      match ready bucket now packet.bytes with
      | (.error error,bucket) => (.error error,{ c with shape := some bucket } :: rest)
      | (.ok time,bucket) =>
        let (result,rest) := next_ready_with ready now rest (some (next.elim time (min · time)))
        (result,{ c with shape := some bucket } :: rest)

/-- The token buckets give the deadlines; a proof about the loop need not compute their credits. -/
theorem next_ready_from_eq (now : SimTime) (classes : List (QosClass T)) (next : Option SimTime) :
    next_ready_from now classes next = next_ready_with TokenBucket.ready_at now classes next := by
  delta next_ready_from next_ready_with next_ready_from._f next_ready_with._f
  with_reducible rfl

/-- Earliest class eligibility. -/
def next_ready (self : QosScheduler T) (now : SimTime) : Except ScheduleError (Option SimTime) × QosScheduler T :=
  let (result,classes) := next_ready_from now self.classes none
  (result,{ self with classes })

/-- The eligible heads with their keys, in class order. -/
def candidates (self : QosScheduler T) (now : SimTime) : List ((Bool ×ₗ Nat ×ₗ Nat) × Nat) :=
  self.classes.zipIdx.filterMap (fun entry =>
    (entry.1.eligible_head now).1.map (fun packet => (entry.1.selection_key packet entry.2,entry.2)))

/-- Select an eligible FIFO head. -/
def dequeue_ready (self : QosScheduler T) (now : SimTime) : Option (QosDeparture T) × QosScheduler T :=
  let selected := ((self.candidates now).argmin (·.1)).map (·.2)
  let self := { self with classes := self.classes.map (fun c => (c.eligible_head now).2) }
  match selected.bind (fun index => self.classes[index]?.map (fun c => (index,c))) with
  | none => (none,self)
  | some (index,c) =>
    match c.packets with
    | [] => (none,self)
    | packet :: packets =>
      (some ⟨index,packet.bytes,packet.packet⟩,
        { self with
          classes := self.classes.set index (c.transmit now packet packets)
          virtual_time := if c.priority.isNone then max self.virtual_time packet.finish else self.virtual_time
          length := self.length - 1 })

/-- Drain on link or configuration invalidation. -/
def drain (self : QosScheduler T) : List T × QosScheduler T :=
  (self.classes.flatMap (fun c => c.packets.map (·.packet)),
    { self with length := 0, classes := self.classes.map (fun c => { c with packets := [] }) })

end QosScheduler
end Rios.Qos
