import Rios.Qos

/-!
# Transmission on a cable

Integer link parameters and the bounded transmission scheduling of one direction
of a cable: a frame is serialized behind the ones before it, and it never arrives
before them, whatever jitter was drawn.
-/

namespace Rios.Link
open Rios.Machine
open Rios.Queue (SimTime ScheduleError)
open Rios.Qos (div_ceil)

/-- Validated link rate in bits per second. -/
structure Bandwidth where
  bits_per_second : UInt64
  positive : bits_per_second ≠ 0
deriving DecidableEq

namespace Bandwidth

/-- A zero rate is invalid. -/
def new (bits_per_second : UInt64) : Option Bandwidth :=
  if positive : bits_per_second ≠ 0 then some ⟨bits_per_second,positive⟩ else none

/-- Serialization duration rounded up to a microsecond. -/
def serialization_us (self : Bandwidth) (bytes : Nat) : Except ScheduleError UInt64 :=
  let duration := div_ceil (bytes * 8 * 1000000) self.bits_per_second.toNat
  if duration < 2 ^ 64 then .ok (UInt64.ofNat duration) else .error .Overflow

end Bandwidth

/-- Link policy. An absent rate means instantaneous serialization. -/
structure LinkConfig where
  bandwidth : Option Bandwidth
  delay_us : UInt64
  jitter_us : UInt64
  loss_ppm : UInt32
  queue_packets : Nat
deriving DecidableEq

namespace LinkConfig

def default : LinkConfig := ⟨none,1000,0,0,100⟩

/-- Validate externally supplied policy before changing a link. -/
def validate (self : LinkConfig) : Except String Unit :=
  if 1000000 < self.loss_ppm then .error "loss must be between 0 and 100 percent"
  else if self.queue_packets = 0 ∨ 1000000 < self.queue_packets then .error "queue_packets must be 1..=1000000"
  else if (0xffffffffffffffff - 1) / 2 < self.jitter_us then .error "jitter is too large"
  else .ok ()

/-- The number of jitter values, which `admit` divides by. -/
def jitter_span (self : LinkConfig) : UInt64 := self.jitter_us * 2 + 1

/-- The jitter of a validated policy does not overflow. -/
theorem jitter_span_toNat {self : LinkConfig} (valid : self.validate = .ok ()) :
    self.jitter_span.toNat = self.jitter_us.toNat * 2 + 1 := by
  unfold validate at valid
  split_ifs at valid with _ _ large
  have small : self.jitter_us.toNat ≤ 9223372036854775807 := UInt64.le_iff_toNat_le.mp (not_lt.mp large)
  rw [jitter_span,UInt64.toNat_add,UInt64.toNat_mul]
  show (self.jitter_us.toNat * 2 % 2 ^ 64 + 1) % 2 ^ 64 = _
  rw [Nat.mod_eq_of_lt (show self.jitter_us.toNat * 2 < 2 ^ 64 by omega),Nat.mod_eq_of_lt (by omega)]

end LinkConfig

/-- Cumulative accounting for one direction of a cable. -/
structure LinkCounters where
  tx_packets : UInt64
  tx_bytes : UInt64
  rx_packets : UInt64
  rx_bytes : UInt64
  queue_drops : UInt64
  loss_drops : UInt64
  changed_drops : UInt64
deriving DecidableEq

def LinkCounters.default : LinkCounters := ⟨0,0,0,0,0,0,0⟩

/-- The counts that follow a frame from one end of a cable to the other. -/
@[ext] structure Tally where
  tx : Nat
  rx : Nat
  loss : Nat
  changed : Nat
deriving DecidableEq

def LinkCounters.tally (self : LinkCounters) : Tally :=
  ⟨self.tx_packets.toNat,self.rx_packets.toNat,self.loss_drops.toNat,self.changed_drops.toNat⟩

/-- `len() as u64`. -/
def bytes_u64 (bytes : Nat) : UInt64 := UInt64.ofNat bytes

/-- Independent transmitter state of one direction. -/
structure DirectionalLinkRuntime where
  finishes : List SimTime
  last_arrival : SimTime
  counters : LinkCounters
deriving DecidableEq

/-- Admission result, separating queue overflow from scheduler errors. -/
inductive Admission where
  | Full
  | Scheduled (arrival : SimTime) (lost : Bool)
deriving DecidableEq

namespace DirectionalLinkRuntime

def default : DirectionalLinkRuntime := ⟨[],0,.default⟩

/-- First time a new frame can begin serialization. -/
def available_at (self : DirectionalLinkRuntime) (now : SimTime) : SimTime := max (self.finishes.getLast?.getD now) now

/-- Number of frames still serializing or waiting at the specified time. -/
def queued (self : DirectionalLinkRuntime) (now : SimTime) :
    Nat := (self.finishes.filter (fun finish => now < finish)).length

/-- Invalidate transmitter reservations after an outage; counters survive. -/
def reset (self : DirectionalLinkRuntime) : DirectionalLinkRuntime := { self with finishes := [], last_arrival := 0 }

/-- The pops at the start of `admit`. -/
def expire (self : DirectionalLinkRuntime) (now : SimTime) : DirectionalLinkRuntime :=
  { self with finishes := self.finishes.dropWhile (fun finish => finish ≤ now) }

/-- The delay of the cable with the drawn jitter, a `u128` that saturates at zero. -/
def propagation (config : LinkConfig) (jitter_sample : UInt64) : Nat :=
  config.delay_us.toNat + (jitter_sample % config.jitter_span).toNat - config.jitter_us.toNat

/-- The reservation for a frame, and its counting. -/
def reserve (self : DirectionalLinkRuntime) (finish arrival : SimTime) (bytes : Nat) : DirectionalLinkRuntime where
  finishes := self.finishes ++ [finish]
  last_arrival := arrival
  counters := { self.counters with
    tx_packets := satAdd64 self.counters.tx_packets 1
    tx_bytes := satAdd64 self.counters.tx_bytes (bytes_u64 bytes) }

/-- The time at which serialization ends, and the time at which the frame would arrive alone. -/
def schedule (self : DirectionalLinkRuntime) (config : LinkConfig) (now : SimTime) (bytes : Nat) (jitter_sample : UInt64) :
    Except ScheduleError (SimTime × SimTime) :=
  match config.bandwidth.elim (.ok 0) (fun rate => rate.serialization_us bytes) with
  | .error error => .error error
  | .ok serialization =>
    match checkedAdd64 (self.available_at now) serialization with
    | none => .error .Overflow
    | some finish =>
      let arrival := finish.toNat + propagation config jitter_sample
      if arrival < 2 ^ 64 then .ok (finish,UInt64.ofNat arrival) else .error .Overflow

/-- `DirectionalLinkRuntime::admit`: reserve a FIFO transmission. Random samples come from the owning lab. -/
def admit_frame (self : DirectionalLinkRuntime) (config : LinkConfig) (now : SimTime) (bytes : Nat)
    (jitter_sample loss_sample : UInt64) : Except ScheduleError Admission × DirectionalLinkRuntime :=
  let self := self.expire now
  if config.queue_packets ≤ self.finishes.length then
    (.ok .Full,{ self with counters.queue_drops := satAdd64 self.counters.queue_drops 1 })
  else
    match self.schedule config now bytes jitter_sample with
    | .error error => (.error error,self)
    | .ok (finish,alone) =>
      let arrival := max alone self.last_arrival
      (.ok (.Scheduled arrival (loss_sample % 1000000 < config.loss_ppm.toUInt64)),self.reserve finish arrival bytes)

/-! ### What an admission does -/

/-- Nothing was sent or received in between. -/
structure Quiet (before after : DirectionalLinkRuntime) : Prop where
  last_arrival : after.last_arrival = before.last_arrival
  tally : after.counters.tally = before.counters.tally

variable {self : DirectionalLinkRuntime} {config : LinkConfig} {now : SimTime} {bytes : Nat}
  {jitter_sample loss_sample : UInt64}

theorem expire_quiet (self : DirectionalLinkRuntime) (now : SimTime) : Quiet self (self.expire now) := ⟨rfl,rfl⟩

theorem le_available_at (self : DirectionalLinkRuntime) (now : SimTime) : now ≤ self.available_at now := le_max_right ..

/-- Popping what is finished does not change when the transmitter is free. -/
theorem available_at_expire (self : DirectionalLinkRuntime) (now : SimTime) :
    (self.expire now).available_at now = self.available_at now := by
  unfold available_at expire
  obtain ⟨finishes,_,_⟩ := self
  simp only
  induction finishes with
  | nil => rfl
  | cons head rest ih =>
    by_cases past : head ≤ now
    · rw [List.dropWhile_cons_of_pos (by simpa using past),ih]
      cases rest with
      | nil => simp [max_eq_right past]
      | cons next rest => rw [List.getLast?_cons_cons]
    · rw [List.dropWhile_cons_of_neg (by simpa using past)]

/-- Serialization ends after the transmitter was free, and the frame arrives later still. -/
theorem schedule_ordered {finish arrival : SimTime}
    (scheduled : self.schedule config now bytes jitter_sample = .ok (finish,arrival)) :
    self.available_at now ≤ finish ∧ finish ≤ arrival := by
  unfold schedule at scheduled
  cases duration : config.bandwidth.elim (.ok 0) (fun rate => rate.serialization_us bytes) with
  | error error => simp [duration] at scheduled
  | ok serialization =>
    cases sum : checkedAdd64 (self.available_at now) serialization with
    | none => simp [duration,sum] at scheduled
    | some free =>
      have total := checkedAdd64_eq_some sum
      simp only [duration,sum] at scheduled
      split_ifs at scheduled with fits
      cases scheduled
      refine ⟨UInt64.le_iff_toNat_le.mpr (by omega),UInt64.le_iff_toNat_le.mpr ?_⟩
      rw [UInt64.toNat_ofNat_of_lt' fits]
      omega

/-- What an admission does: the queue is full, the times overflow, or the frame is
    reserved and arrives neither before now nor before an earlier one. -/
inductive Admits (self : DirectionalLinkRuntime) (now : SimTime) (bytes : Nat) :
    Except ScheduleError Admission × DirectionalLinkRuntime → Prop where
  | full (after : DirectionalLinkRuntime) (quiet : Quiet self after) (available : after.available_at now = self.available_at now) :
    Admits self now bytes (.ok .Full,after)
  | overflow (error : ScheduleError) (after : DirectionalLinkRuntime) (quiet : Quiet self after)
    (available : after.available_at now = self.available_at now) : Admits self now bytes (.error error,after)
  | reserved (finish arrival : SimTime) (lost : Bool) (before : DirectionalLinkRuntime) (quiet : Quiet self before)
    (free : self.available_at now ≤ finish) (due : finish ≤ arrival) (behind : self.last_arrival ≤ arrival) :
    Admits self now bytes (.ok (.Scheduled arrival lost),before.reserve finish arrival bytes)

theorem admit_admits (self : DirectionalLinkRuntime) (config : LinkConfig) (now : SimTime) (bytes : Nat)
    (jitter_sample loss_sample : UInt64) : Admits self now bytes (self.admit_frame config now bytes jitter_sample loss_sample) := by
  unfold admit_frame
  by_cases full : config.queue_packets ≤ (self.expire now).finishes.length
  · rw [if_pos full]
    exact .full _ ⟨rfl,rfl⟩ (available_at_expire self now)
  · rw [if_neg full]
    cases scheduled : (self.expire now).schedule config now bytes jitter_sample with
    | error error => exact .overflow error _ (expire_quiet self now) (available_at_expire self now)
    | ok times =>
      obtain ⟨finish,alone⟩ := times
      obtain ⟨free,due⟩ := schedule_ordered scheduled
      rw [available_at_expire] at free
      exact .reserved finish _ _ _ (expire_quiet self now) free (due.trans (le_max_left ..)) (le_max_right ..)

/-- A reserved frame keeps the transmitter busy until it is serialized. -/
theorem available_at_reserve {finish : SimTime} (before : DirectionalLinkRuntime) (arrival : SimTime) (bytes : Nat)
    (later : now ≤ finish) : (before.reserve finish arrival bytes).available_at now = finish := by
  simp [available_at,reserve,max_eq_left later]

end DirectionalLinkRuntime

/-- Reproducible SplitMix64 stream owned by the lab. -/
structure SimulationRng where
  state : UInt64
deriving DecidableEq

/-- Next deterministic 64-bit sample. -/
def SimulationRng.sample (self : SimulationRng) : UInt64 × SimulationRng :=
  let state := self.state + 0x9e3779b97f4a7c15
  let value := (state ^^^ (state >>> 30)) * 0xbf58476d1ce4e5b9
  let value := (value ^^^ (value >>> 27)) * 0x94d049bb133111eb
  (value ^^^ (value >>> 31),⟨state⟩)

end Rios.Link
