import Rios.Link

/-!
# Runs of a transmitter

What one direction of a cable promises over any sequence of admissions at
non-decreasing times. The ledger of the accepted frames is kept beside the
transmitter, which forgets a reservation once its frame is serialized.
-/

namespace Rios.Link
open Rios.Machine
open Rios.Queue (SimTime ScheduleError)
open Rios.Qos (div_ceil)

/-- The arguments of one `admit`. -/
structure AdmitCall where
  now : SimTime
  bytes : UInt64
  jitter_sample : UInt64
  loss_sample : UInt64
deriving DecidableEq

def DirectionalLinkRuntime.call (self : DirectionalLinkRuntime) (config : LinkConfig) (call : AdmitCall) :
    Except ScheduleError Admission × DirectionalLinkRuntime :=
  self.admit_frame config call.now call.bytes.toNat call.jitter_sample call.loss_sample

/-- An accepted frame with its serialization interval. -/
structure Frame where
  call : AdmitCall
  start : SimTime
  finish : SimTime
  arrival : SimTime
deriving DecidableEq

/-- A transmitter and the frames that it accepted. -/
structure Trace where
  runtime : DirectionalLinkRuntime
  frames : List Frame
deriving DecidableEq

/-- A frame is serialized from when the transmitter was free until it is free again. -/
def Trace.step (config : LinkConfig) (trace : Trace) (call : AdmitCall) : Trace :=
  match trace.runtime.call config call with
  | (.ok (.Scheduled arrival _),after) =>
    ⟨after,trace.frames ++ [⟨call,trace.runtime.available_at call.now,after.available_at call.now,arrival⟩]⟩
  | (_,after) => ⟨after,trace.frames⟩

def Trace.run (config : LinkConfig) (trace : Trace) (calls : List AdmitCall) : Trace := calls.foldl (Trace.step config) trace

/-- The results of the calls of a run. -/
def results (config : LinkConfig) : DirectionalLinkRuntime → List AdmitCall → List (Except ScheduleError Admission)
  | _,[] => []
  | runtime,call :: calls => (runtime.call config call).1 :: results config (runtime.call config call).2 calls

/-- Accepted frames that are still serializing or waiting. -/
def Trace.unfinished (trace : Trace) (now : SimTime) : Nat := (trace.frames.filter (fun frame => now < frame.finish)).length

/-! ### Exact times -/

/-- The exact serialization time of a frame, in microseconds. -/
def LinkConfig.serialization (config : LinkConfig) (bytes : Nat) : Nat :=
  config.bandwidth.elim 0 (fun rate => div_ceil (bytes * 8 * 1000000) rate.bits_per_second.toNat)

/-- Jitter as an offset from the delay. -/
def LinkConfig.jitter (config : LinkConfig) (sample : UInt64) : Int :=
  (sample.toNat % (config.jitter_us.toNat * 2 + 1) : Nat) - config.jitter_us.toNat

theorem LinkConfig.jitter_bounded (config : LinkConfig) (sample : UInt64) :
    -(config.jitter_us.toNat : Int) ≤ config.jitter sample ∧ config.jitter sample ≤ config.jitter_us.toNat := by
  have below : sample.toNat % (config.jitter_us.toNat * 2 + 1) < config.jitter_us.toNat * 2 + 1 :=
    Nat.mod_lt _ (Nat.succ_pos _)
  unfold jitter
  omega

/-- The exact time at which a frame would arrive on an idle cable. -/
def LinkConfig.alone (config : LinkConfig) (finish : Nat) (sample : UInt64) : Nat :=
  finish + (config.delay_us.toNat + config.jitter sample).toNat

namespace DirectionalLinkRuntime
variable {self : DirectionalLinkRuntime} {config : LinkConfig}

theorem propagation_eq (valid : config.validate = .ok ()) (sample : UInt64) :
    propagation config sample = (config.delay_us.toNat + config.jitter sample).toNat := by
  unfold propagation LinkConfig.jitter
  rw [UInt64.toNat_mod,LinkConfig.jitter_span_toNat valid]
  omega

/-- The serialization time is exact, or it is reported as an overflow. -/
theorem duration_eq (config : LinkConfig) (bytes : Nat) :
    config.bandwidth.elim (.ok 0) (fun rate => rate.serialization_us bytes) =
      if config.serialization bytes < 2 ^ 64 then .ok (UInt64.ofNat (config.serialization bytes)) else .error ScheduleError.Overflow := by
  unfold LinkConfig.serialization
  cases config.bandwidth with
  | none => rw [Option.elim_none,Option.elim_none,if_pos (Nat.two_pow_pos 64)]; rfl
  | some rate =>
    rw [Option.elim_some,Option.elim_some,Bandwidth.serialization_us]

theorem checkedAdd64_ofNat {a : UInt64} {b : Nat} (short : b < 2 ^ 64) :
    checkedAdd64 a (UInt64.ofNat b) = if a.toNat + b < 2 ^ 64 then some (UInt64.ofNat (a.toNat + b)) else none := by
  rw [checkedAdd64,UInt64.toNat_ofNat_of_lt' short]
  by_cases fits : a.toNat + b < 2 ^ 64
  · rw [if_pos fits,if_pos fits]
    refine congrArg some (UInt64.toNat_inj.mp ?_)
    rw [UInt64.toNat_add,UInt64.toNat_ofNat_of_lt' short,UInt64.toNat_ofNat_of_lt' fits]
    exact Nat.mod_eq_of_lt fits
  · rw [if_neg fits,if_neg fits]

/-- Scheduling is exact integer arithmetic, or it reports an overflow. -/
theorem schedule_eq (valid : config.validate = .ok ()) (self : DirectionalLinkRuntime) (now : SimTime) (bytes : Nat)
    (sample : UInt64) {finish : Nat} (ends : (self.available_at now).toNat + config.serialization bytes = finish) :
    self.schedule config now bytes sample =
      if config.alone finish sample < 2 ^ 64 then .ok (UInt64.ofNat finish,UInt64.ofNat (config.alone finish sample))
      else .error .Overflow := by
  have later : finish ≤ config.alone finish sample := Nat.le_add_right _ _
  rw [schedule,duration_eq]
  by_cases short : config.serialization bytes < 2 ^ 64
  · rw [if_pos short]
    dsimp only
    rw [checkedAdd64_ofNat short,ends]
    by_cases early : finish < 2 ^ 64
    · rw [if_pos early]
      dsimp only
      rw [UInt64.toNat_ofNat_of_lt' early,propagation_eq valid]
      rfl
    · rw [if_neg early,if_neg (fun small => early (lt_of_le_of_lt later small))]
  · rw [if_neg short,if_neg (by omega)]

/-- An admission in exact times: refusal at a full queue, an overflow, or a reservation. -/
theorem admit_eq (valid : config.validate = .ok ()) (self : DirectionalLinkRuntime) (now : SimTime) (bytes : Nat)
    (jitter_sample loss_sample : UInt64) {finish : Nat}
    (ends : (self.available_at now).toNat + config.serialization bytes = finish) :
    let alone := config.alone finish jitter_sample
    let arrival := max (UInt64.ofNat alone) self.last_arrival
    self.admit_frame config now bytes jitter_sample loss_sample =
      if config.queue_packets ≤ (self.expire now).finishes.length then
        (.ok .Full,{ self.expire now with counters.queue_drops := satAdd64 self.counters.queue_drops 1 })
      else if alone < 2 ^ 64 then
        (.ok (.Scheduled arrival (loss_sample % 1000000 < config.loss_ppm.toUInt64)),
          (self.expire now).reserve (UInt64.ofNat finish) arrival bytes)
      else (.error .Overflow,self.expire now) := by
  intro alone arrival
  rw [← available_at_expire] at ends
  rw [admit_frame,schedule_eq valid (self.expire now) now bytes jitter_sample ends]
  by_cases full : config.queue_packets ≤ (self.expire now).finishes.length
  · rw [if_pos full,if_pos full]
    rfl
  · rw [if_neg full,if_neg full]
    by_cases fits : alone < 2 ^ 64
    · rw [if_pos fits,if_pos (show config.alone finish jitter_sample < 2 ^ 64 from fits)]
      rfl
    · rw [if_neg fits,if_neg (show ¬config.alone finish jitter_sample < 2 ^ 64 from fits)]

/-! ### What an earlier expiry changes -/

theorem expire_expire (self : DirectionalLinkRuntime) {earlier now : SimTime} (ordered : earlier ≤ now) :
    (self.expire earlier).expire now = self.expire now := by
  obtain ⟨finishes,_,_⟩ := self
  simp only [expire,DirectionalLinkRuntime.mk.injEq,and_true]
  induction finishes with
  | nil => rfl
  | cons head rest ih =>
    by_cases past : head ≤ earlier
    · rw [List.dropWhile_cons_of_pos (by simpa using past),ih,
        List.dropWhile_cons_of_pos (by simpa using past.trans ordered)]
    · rw [List.dropWhile_cons_of_neg (by simpa using past)]

/-- An expiry is invisible to an admission at a later time. -/
theorem admit_expire (self : DirectionalLinkRuntime) {earlier now : SimTime} (ordered : earlier ≤ now) (bytes : Nat)
    (jitter_sample loss_sample : UInt64) :
    (self.expire earlier).admit_frame config now bytes jitter_sample loss_sample = self.admit_frame config now bytes
        jitter_sample loss_sample := by
  rw [admit_frame,admit_frame,expire_expire self ordered]

theorem queued_expire (self : DirectionalLinkRuntime) {earlier now : SimTime} (ordered : earlier ≤ now) :
    (self.expire earlier).queued now = self.queued now := by
  obtain ⟨finishes,_,_⟩ := self
  simp only [expire,queued]
  induction finishes with
  | nil => rfl
  | cons head rest ih =>
    by_cases past : head ≤ earlier
    · rw [List.dropWhile_cons_of_pos (by simpa using past),ih,
        List.filter_cons_of_neg (by simpa using past.trans ordered)]
    · rw [List.dropWhile_cons_of_neg (by simpa using past)]

theorem available_at_later (self : DirectionalLinkRuntime) {earlier now : SimTime} (ordered : earlier ≤ now) :
    (self.expire earlier).available_at now = self.available_at now := by
  rw [← available_at_expire (self.expire earlier),expire_expire self ordered,available_at_expire]

/-- After an overflow every later run goes as if the call had not been made. -/
theorem results_expire (config : LinkConfig) (self : DirectionalLinkRuntime) {earlier : SimTime} {calls : List AdmitCall}
    (later : ∀ call ∈ calls, earlier ≤ call.now) :
    results config (self.expire earlier) calls = results config self calls := by
  cases calls with
  | nil => rfl
  | cons call rest =>
    rw [results,results,DirectionalLinkRuntime.call,DirectionalLinkRuntime.call,
      admit_expire self (later call List.mem_cons_self)]

end DirectionalLinkRuntime

/-! ### The ledger of a run -/

/-- The exact times of an accepted frame. -/
structure Timed (config : LinkConfig) (frame : Frame) : Prop where
  begins : frame.call.now ≤ frame.start
  ends : frame.finish.toNat = frame.start.toNat + config.serialization frame.call.bytes.toNat

theorem Timed.ordered {config : LinkConfig} {frame : Frame} (timed : Timed config frame) : frame.start ≤ frame.finish :=
  UInt64.le_iff_toNat_le.mpr (timed.ends ▸ Nat.le_add_right _ _)

/-- First in, first out: the intervals are disjoint and in order, and so are the arrivals. -/
def InOrder (frames : List Frame) : Prop :=
  frames.Pairwise (fun first second => first.finish ≤ second.start ∧ first.arrival ≤ second.arrival)

/-- The arrival of the newest frame of a ledger. -/
def newest (frames : List Frame) : SimTime := frames.getLast?.elim 0 Frame.arrival

/-- A ledger and its transmitter at a time: what the transmitter forgot is serialized, the frames are
    in order and exactly timed, and no more than a queue of them is unfinished. -/
structure Reserved (config : LinkConfig) (now : SimTime) (trace : Trace) : Prop where
  pruned : ∃ done, trace.frames.map Frame.finish = done ++ trace.runtime.finishes ∧ ∀ finish ∈ done, finish ≤ now
  fifo : InOrder trace.frames
  timed : ∀ frame ∈ trace.frames, Timed config frame
  clamped : ∀ earlier frame later, trace.frames = earlier ++ frame :: later →
    frame.arrival.toNat = max (config.alone frame.finish.toNat frame.call.jitter_sample) (newest earlier).toNat
  last_arrival : trace.runtime.last_arrival = newest trace.frames
  bounded : trace.unfinished now ≤ config.queue_packets

/-- No frame arrives after the newest one. -/
theorem InOrder.le_newest {frames : List Frame} (fifo : InOrder frames) :
    ∀ frame ∈ frames, frame.arrival ≤ newest frames := by
  intro frame member
  obtain ⟨earlier,last,rfl⟩ := List.eq_nil_or_concat'  frames |>.resolve_left (List.ne_nil_of_mem member)
  rw [newest,List.getLast?_concat,Option.elim_some]
  rcases List.mem_append.mp member with before | here
  · exact ((List.pairwise_append.mp fifo).2.2 frame before last (List.mem_singleton_self _)).2
  · rw [List.mem_singleton.mp here]

namespace Reserved
variable {config : LinkConfig} {now later : SimTime} {trace : Trace}

/-- The kept reservations end in order. -/
theorem sorted (reserved : Reserved config now trace) : trace.runtime.finishes.Pairwise (· ≤ ·) := by
  obtain ⟨done,split_at,-⟩ := reserved.pruned
  have all : (trace.frames.map Frame.finish).Pairwise (· ≤ ·) := by
    rw [List.pairwise_map]
    exact reserved.fifo.imp_of_mem (fun _ second before => before.1.trans (reserved.timed _ second).ordered)
  rw [split_at] at all
  exact (List.pairwise_append.mp all).2.1

/-- The transmitter is free only after every accepted frame. -/
theorem finish_le (reserved : Reserved config now trace) (after : now ≤ later) :
    ∀ frame ∈ trace.frames, frame.finish ≤ trace.runtime.available_at later := by
  intro frame member
  obtain ⟨done,split_at,past⟩ := reserved.pruned
  have listed : frame.finish ∈ done ++ trace.runtime.finishes := split_at ▸ List.mem_map_of_mem member
  rcases List.mem_append.mp listed with forgotten | kept
  · exact ((past _ forgotten).trans after).trans (trace.runtime.le_available_at later)
  · refine le_trans ?_ (le_max_left _ _)
    obtain ⟨earlier,last,concat⟩ := (List.eq_nil_or_concat' trace.runtime.finishes).resolve_left (List.ne_nil_of_mem kept)
    have order := reserved.sorted
    rw [concat] at kept order ⊢
    rw [List.getLast?_concat,Option.getD_some]
    rcases List.mem_append.mp kept with before | here
    · exact (List.pairwise_append.mp order).2.2 _ before last (List.mem_singleton_self _)
    · rw [List.mem_singleton.mp here]

/-- The transmitter counts the unfinished frames. -/
theorem queued_eq (reserved : Reserved config now trace) (after : now ≤ later) :
    trace.runtime.queued later = trace.unfinished later := by
  obtain ⟨done,split_at,past⟩ := reserved.pruned
  have forgotten : done.filter (fun finish => later < finish) = [] := by
    rw [List.filter_eq_nil_iff]
    intro finish member
    simpa using (past finish member).trans after
  have counted := congrArg (fun finishes => (finishes.filter (fun finish => decide (later < finish))).length) split_at
  simp only [List.filter_append,forgotten,List.nil_append,List.filter_map,List.length_map] at counted
  exact counted.symm

/-- Popping leaves exactly the unfinished frames. -/
theorem expire_length (reserved : Reserved config now trace) (after : now ≤ later) :
    (trace.runtime.expire later).finishes.length = trace.unfinished later := by
  rw [← reserved.queued_eq after]
  show (trace.runtime.finishes.dropWhile _).length = (trace.runtime.finishes.filter _).length
  have order := reserved.sorted
  generalize trace.runtime.finishes = finishes at order ⊢
  induction finishes with
  | nil => rfl
  | cons head rest ih =>
    obtain ⟨above,tail⟩ := List.pairwise_cons.mp order
    by_cases past : head ≤ later
    · rw [List.dropWhile_cons_of_pos (by simpa using past),ih tail,List.filter_cons_of_neg (by simpa using past)]
    · rw [List.dropWhile_cons_of_neg (by simpa using past),List.filter_eq_self.mpr]
      intro finish member
      rcases List.mem_cons.mp member with rfl | behind
      · simpa using past
      · simpa using lt_of_lt_of_le (not_le.mp past) (above finish behind)

/-- Fewer frames are unfinished later on. -/
theorem unfinished_le (trace : Trace) (after : now ≤ later) : trace.unfinished later ≤ trace.unfinished now := by
  refine (List.monotone_filter_right trace.frames ?_).length_le
  intro frame busy
  simpa using lt_of_le_of_lt after (of_decide_eq_true busy)

/-- What the popped reservations leave of the ledger. -/
theorem pruned_expire (reserved : Reserved config now trace) (after : now ≤ later) :
    ∃ done, trace.frames.map Frame.finish = done ++ (trace.runtime.expire later).finishes ∧ ∀ finish ∈ done, finish ≤ later := by
  obtain ⟨done,split_at,past⟩ := reserved.pruned
  refine ⟨done ++ trace.runtime.finishes.takeWhile (fun finish => finish ≤ later),?_,?_⟩
  · rw [List.append_assoc]
    show _ = done ++ (_ ++ trace.runtime.finishes.dropWhile _)
    rw [List.takeWhile_append_dropWhile,split_at]
  · intro finish member
    rcases List.mem_append.mp member with before | popped
    · exact (past finish before).trans after
    · simpa using List.mem_takeWhile_imp popped

/-- A call that accepts nothing keeps the ledger. -/
theorem idle (reserved : Reserved config now trace) (after : now ≤ later) (counters : LinkCounters) :
    Reserved config later ⟨{trace.runtime.expire later with counters},trace.frames⟩ where
  pruned := reserved.pruned_expire after
  fifo := reserved.fifo
  timed := reserved.timed
  clamped := reserved.clamped
  last_arrival := reserved.last_arrival
  bounded := (unfinished_le trace after).trans reserved.bounded

/-- An accepted frame follows all earlier ones. -/
theorem accept (reserved : Reserved config now trace) {call : AdmitCall} (after : now ≤ call.now)
    (room : trace.unfinished call.now < config.queue_packets) {finish : Nat}
    (ends : (trace.runtime.available_at call.now).toNat + config.serialization call.bytes.toNat = finish)
    (fits : config.alone finish call.jitter_sample < 2 ^ 64) :
    let arrival := max (UInt64.ofNat (config.alone finish call.jitter_sample)) trace.runtime.last_arrival
    let frame : Frame := ⟨call,trace.runtime.available_at call.now,UInt64.ofNat finish,arrival⟩
    Reserved config call.now
      ⟨(trace.runtime.expire call.now).reserve (UInt64.ofNat finish) arrival call.bytes.toNat,trace.frames ++ [frame]⟩ := by
  intro arrival frame
  have early : finish < 2 ^ 64 := lt_of_le_of_lt (Nat.le_add_right _ _) fits
  have finished : frame.finish.toNat = finish := UInt64.toNat_ofNat_of_lt' early
  have clamp : frame.arrival.toNat = max (config.alone finish call.jitter_sample) (newest trace.frames).toNat := by
    rw [← reserved.last_arrival,← UInt64.toNat_ofNat_of_lt' fits]
    exact UInt64.toNat_max ..
  refine ⟨?_,?_,?_,?_,?_,?_⟩
  · obtain ⟨done,split_at,past⟩ := reserved.pruned_expire after
    refine ⟨done,?_,past⟩
    rw [List.map_append,split_at,List.append_assoc]
    rfl
  · refine List.pairwise_append.mpr ⟨reserved.fifo,List.pairwise_singleton _ _,?_⟩
    intro first earlier second last
    rw [List.mem_singleton.mp last]
    refine ⟨reserved.finish_le after first earlier,?_⟩
    exact (reserved.fifo.le_newest first earlier).trans (reserved.last_arrival ▸ le_max_right _ _)
  · intro other member
    rcases List.mem_append.mp member with earlier | last
    · exact reserved.timed other earlier
    · rw [List.mem_singleton.mp last]
      exact ⟨trace.runtime.le_available_at call.now,finished.trans ends.symm⟩
  · intro earlier other later split_at
    rcases List.eq_nil_or_concat' later with rfl | ⟨rest,last,rfl⟩
    · obtain ⟨rfl,same⟩ := List.append_inj' split_at rfl
      rw [← List.head_eq_of_cons_eq same,finished]
      exact clamp
    · have inner : trace.frames = earlier ++ other :: rest := by
        rw [← List.cons_append,← List.append_assoc] at split_at
        exact (List.append_inj' split_at rfl).1
      exact reserved.clamped earlier other rest inner
  · rw [newest,List.getLast?_concat,Option.elim_some]
    rfl
  · show ((trace.frames ++ [frame]).filter _).length ≤ _
    rw [List.filter_append,List.length_append]
    have one : ([frame].filter (fun frame => decide (call.now < frame.finish))).length ≤ 1 := List.length_filter_le _ _
    show trace.unfinished call.now + _ ≤ _
    omega

/-- What one call does to a ledger. -/
theorem step_cases (valid : config.validate = .ok ()) (reserved : Reserved config now trace) {call : AdmitCall}
    (after : now ≤ call.now) :
    let finish := (trace.runtime.available_at call.now).toNat + config.serialization call.bytes.toNat
    let alone := config.alone finish call.jitter_sample
    let arrival := max (UInt64.ofNat alone) trace.runtime.last_arrival
    (trace.unfinished call.now = config.queue_packets ∧ (trace.runtime.call config call).1 = .ok .Full ∧
        ∃ counters, trace.step config call = ⟨{trace.runtime.expire call.now with counters},trace.frames⟩) ∨
      (trace.unfinished call.now < config.queue_packets ∧ 2 ^ 64 ≤ alone ∧
        (trace.runtime.call config call) = (.error .Overflow,trace.runtime.expire call.now) ∧
        trace.step config call = ⟨trace.runtime.expire call.now,trace.frames⟩) ∨
      (trace.unfinished call.now < config.queue_packets ∧ alone < 2 ^ 64 ∧
        (trace.runtime.call config call).1 =
          .ok (.Scheduled arrival (call.loss_sample % 1000000 < config.loss_ppm.toUInt64)) ∧
        trace.step config call =
          ⟨(trace.runtime.expire call.now).reserve (UInt64.ofNat finish) arrival call.bytes.toNat,
            trace.frames ++ [⟨call,trace.runtime.available_at call.now,UInt64.ofNat finish,arrival⟩]⟩) := by
  intro finish alone arrival
  have outcome := trace.runtime.admit_eq valid call.now call.bytes.toNat call.jitter_sample call.loss_sample
    (show (trace.runtime.available_at call.now).toNat + config.serialization call.bytes.toNat = finish from rfl)
  rw [reserved.expire_length after] at outcome
  have held := (unfinished_le trace after).trans reserved.bounded
  rw [Trace.step,DirectionalLinkRuntime.call,outcome]
  by_cases full : config.queue_packets ≤ trace.unfinished call.now
  · rw [if_pos full]
    exact .inl ⟨le_antisymm held full,rfl,_,rfl⟩
  · rw [if_neg full]
    by_cases fits : config.alone finish call.jitter_sample < 2 ^ 64
    · rw [if_pos fits]
      refine .inr (.inr ⟨not_le.mp full,fits,rfl,?_⟩)
      have early : finish < 2 ^ 64 := lt_of_le_of_lt (Nat.le_add_right _ _) fits
      have later : call.now ≤ UInt64.ofNat finish := by
        refine (trace.runtime.le_available_at call.now).trans (UInt64.le_iff_toNat_le.mpr ?_)
        rw [UInt64.toNat_ofNat_of_lt' early]
        exact Nat.le_add_right _ _
      simp only [DirectionalLinkRuntime.available_at_reserve _ _ _ later]
      rfl
    · rw [if_neg fits]
      exact .inr (.inl ⟨not_le.mp full,not_lt.mp fits,rfl,rfl⟩)

theorem step (valid : config.validate = .ok ()) (reserved : Reserved config now trace) {call : AdmitCall}
    (after : now ≤ call.now) :
    Reserved config call.now (trace.step config call) := by
  rcases reserved.step_cases valid after with ⟨-,-,counters,same⟩ | ⟨-,-,-,same⟩ | ⟨room,fits,-,same⟩
  · rw [same]
    exact reserved.idle after counters
  · rw [same]
    exact reserved.idle after trace.runtime.counters
  · rw [same]
    exact reserved.accept after room rfl fits

/-- An idle transmitter without a ledger. -/
theorem start (config : LinkConfig) (runtime : DirectionalLinkRuntime) (now : SimTime) :
    Reserved config now ⟨runtime.reset,[]⟩ where
  pruned := ⟨[],rfl,fun _ none => absurd none List.not_mem_nil⟩
  fifo := List.Pairwise.nil
  timed := fun _ none => absurd none List.not_mem_nil
  clamped := fun _ _ _ empty => absurd empty (by simp)
  last_arrival := rfl
  bounded := Nat.zero_le _

theorem at_later (reserved : Reserved config now trace) (after : now ≤ later) : Reserved config later trace where
  pruned := by
    obtain ⟨done,split_at,past⟩ := reserved.pruned
    exact ⟨done,split_at,fun finish member => (past finish member).trans after⟩
  fifo := reserved.fifo
  timed := reserved.timed
  clamped := reserved.clamped
  last_arrival := reserved.last_arrival
  bounded := (unfinished_le trace after).trans reserved.bounded

/-- Runs of calls in the order of their times. -/
theorem run (valid : config.validate = .ok ()) (reserved : Reserved config now trace) {calls : List AdmitCall}
    (ordered : calls.Pairwise (fun first second => first.now ≤ second.now)) (after : ∀ call ∈ calls, now ≤ call.now)
    (past : ∀ call ∈ calls, call.now ≤ later) (end_after : now ≤ later) :
    Reserved config later (trace.run config calls) := by
  induction calls generalizing now trace with
  | nil => exact reserved.at_later end_after
  | cons call rest ih =>
    obtain ⟨behind,tail⟩ := List.pairwise_cons.mp ordered
    exact ih (reserved.step valid (after call List.mem_cons_self)) tail behind
      (fun next member => past next (List.mem_cons_of_mem _ member)) (past call List.mem_cons_self)

end Reserved

/-- What the next call promises after a run: refusal exactly at a full queue, an arrival behind all
    others, or an overflow that leaves no trace. -/
def Promise (config : LinkConfig) (trace : Trace) (call : AdmitCall) : Prop :=
  let start := trace.runtime.available_at call.now
  let finish := start.toNat + config.serialization call.bytes.toNat
  let alone := finish + (config.delay_us.toNat + config.jitter call.jitter_sample).toNat
  match trace.runtime.call config call with
  | (.ok .Full,_) => trace.unfinished call.now = config.queue_packets
  | (.ok (.Scheduled arrival _),after) =>
    trace.unfinished call.now < config.queue_packets ∧ call.now ≤ arrival ∧
      arrival.toNat = max alone (newest trace.frames).toNat ∧ (after.available_at call.now).toNat = finish ∧
      ∀ frame ∈ trace.frames, frame.finish ≤ start ∧ frame.arrival ≤ arrival
  | (.error _,after) =>
    trace.unfinished call.now < config.queue_packets ∧ 2 ^ 64 ≤ alone ∧ after.counters = trace.runtime.counters ∧
      (∀ later, call.now ≤ later → after.queued later = trace.runtime.queued later ∧
        after.available_at later = trace.runtime.available_at later) ∧
      ∀ calls, (∀ next ∈ calls, call.now ≤ next.now) → results config after calls = results config trace.runtime calls

theorem Reserved.promise {config : LinkConfig} {now : SimTime} {trace : Trace} (valid : config.validate = .ok ())
    (reserved : Reserved config now trace) {call : AdmitCall} (after : now ≤ call.now) : Promise config trace call := by
  have accepted := reserved.step valid after
  rcases reserved.step_cases valid after with ⟨full,refused,-⟩ | ⟨room,overflow,failed,-⟩ | ⟨room,fits,admitted,same⟩
  · unfold Promise
    cases outcome : trace.runtime.call config call with
    | mk result next =>
      rw [outcome] at refused
      cases refused
      exact full
  · unfold Promise
    rw [failed]
    refine ⟨room,overflow,rfl,?_,?_⟩
    · intro later ordered
      exact ⟨trace.runtime.queued_expire ordered,trace.runtime.available_at_later ordered⟩
    · intro calls ordered
      exact DirectionalLinkRuntime.results_expire config trace.runtime ordered
  · unfold Promise
    cases outcome : trace.runtime.call config call with
    | mk result next =>
      rw [outcome] at admitted
      cases admitted
      have stepped : trace.step config call = ⟨next,trace.frames ++
          [⟨call,trace.runtime.available_at call.now,next.available_at call.now,
            max (UInt64.ofNat (config.alone ((trace.runtime.available_at call.now).toNat +
              config.serialization call.bytes.toNat) call.jitter_sample)) trace.runtime.last_arrival⟩]⟩ := by
        rw [Trace.step,outcome]
      rw [stepped] at accepted
      have last := accepted.clamped trace.frames _ [] rfl
      have timed := accepted.timed _ (List.mem_append_right _ (List.mem_singleton_self _))
      have order := List.pairwise_append.mp accepted.fifo
      dsimp only at last
      rw [timed.ends] at last
      refine ⟨room,?_,last,timed.ends,?_⟩
      · refine (trace.runtime.le_available_at call.now).trans (UInt64.le_iff_toNat_le.mpr ?_)
        rw [last]
        exact le_trans ((Nat.le_add_right _ _).trans (Nat.le_add_right _ _)) (le_max_left _ _)
      · intro frame member
        exact order.2.2 frame member _ (List.mem_singleton_self _)

/-- A transmitter from idle, over any calls at non-decreasing times: accepted frames are exactly timed,
    in order and disjoint, their number is bounded, and the next call keeps its promise. Products and
    sums that are not checked stay within their integer types. -/
theorem transmitter_exact (config : LinkConfig) (valid : config.validate = .ok ()) (runtime : DirectionalLinkRuntime)
    (calls : List AdmitCall) (call : AdmitCall)
    (ordered : (calls ++ [call]).Pairwise (fun first second => first.now ≤ second.now)) :
    let trace := Trace.run config ⟨runtime.reset,[]⟩ calls
    (InOrder trace.frames ∧ ∀ frame ∈ trace.frames, Timed config frame ∧
        config.alone frame.finish.toNat frame.call.jitter_sample ≤ frame.arrival.toNat) ∧
      (trace.runtime.queued call.now = trace.unfinished call.now ∧ trace.unfinished call.now ≤ config.queue_packets) ∧
      Promise config trace call ∧
      (-(config.jitter_us.toNat : Int) ≤ config.jitter call.jitter_sample ∧ config.jitter call.jitter_sample ≤ config.jitter_us.toNat) ∧
      call.bytes.toNat * 8 * 1000000 < 2 ^ 128 ∧ config.jitter_us.toNat * 2 + 1 < 2 ^ 64 ∧
      2 ^ 64 + config.delay_us.toNat + config.jitter_us.toNat * 2 < 2 ^ 128 := by
  intro trace
  obtain ⟨front,-,past⟩ := List.pairwise_append.mp ordered
  have reserved : Reserved config call.now trace :=
    (Reserved.start config runtime 0).run valid front (fun _ _ => UInt64.zero_le)
      (fun next member => past next member call (List.mem_singleton_self _)) UInt64.zero_le
  refine ⟨⟨reserved.fifo,?_⟩,⟨reserved.queued_eq le_rfl,reserved.bounded⟩,reserved.promise valid le_rfl,
    config.jitter_bounded call.jitter_sample,?_⟩
  · intro frame member
    obtain ⟨earlier,later,split_at⟩ := List.append_of_mem member
    refine ⟨reserved.timed frame member,?_⟩
    rw [reserved.clamped earlier frame later split_at]
    exact le_max_left _ _
  · have span := LinkConfig.jitter_span_toNat valid
    have bytes := call.bytes.toNat_lt
    have delay := config.delay_us.toNat_lt
    have jitter := config.jitter_span.toNat_lt
    rw [span] at jitter
    refine ⟨?_,jitter,?_⟩
    · calc call.bytes.toNat * 8 * 1000000 < 2 ^ 64 * 8 * 1000000 := by omega
        _ < 2 ^ 128 := by norm_num
    · calc 2 ^ 64 + config.delay_us.toNat + config.jitter_us.toNat * 2 < 2 ^ 64 + 2 ^ 64 + 2 ^ 64 := by omega
        _ < 2 ^ 128 := by norm_num

theorem slow_positive : (8000000 : UInt64) ≠ 0 := by decide

/-- One byte a microsecond. -/
def slow_link : LinkConfig := ⟨some ⟨8000000,slow_positive⟩,5,2,0,2⟩

/-- A third frame at once is refused. -/
theorem transmitter_exact_full :
    Promise slow_link (Trace.run slow_link ⟨DirectionalLinkRuntime.default.reset,[]⟩ [⟨0,10,0,0⟩,⟨0,10,0,0⟩]) ⟨0,10,0,0⟩ ∧
      (Trace.run slow_link ⟨DirectionalLinkRuntime.default.reset,[]⟩ [⟨0,10,0,0⟩,⟨0,10,0,0⟩]).frames.map Frame.arrival =
          [13,23] := by
  have exactly := transmitter_exact slow_link rfl .default [⟨0,10,0,0⟩,⟨0,10,0,0⟩] ⟨0,10,0,0⟩ (by decide +kernel)
  exact ⟨exactly.2.2.1,by decide +kernel⟩

end Rios.Link
