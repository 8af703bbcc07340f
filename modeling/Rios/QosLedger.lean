import Rios.FairService

/-!
# The ledger of a scheduler

What happens to each class over any sequence of calls: which frames it takes,
refuses, sends and drops, and that nothing is lost, doubled or reordered.
-/

namespace Rios.QosLedger
open Rios.Machine Rios.Qos
open Rios.Queue (SimTime)
open Rios.FairService (view views view_eligible_head eligible_head_some WellFormed)

universe u
variable {T : Type u}

/-- One call on a scheduler. A drain has the time at which its owner drains. -/
inductive Call (T : Type u) where
  | enqueue (index : Nat) (now : SimTime) (packet : T) (bytes : UInt64) (in_flight : Nat)
  | dequeue_ready (now : SimTime)
  | next_ready (now : SimTime)
  | drain (now : SimTime)

def Call.now : Call T → SimTime
  | .enqueue _ now _ _ _ => now
  | .dequeue_ready now => now
  | .next_ready now => now
  | .drain now => now

/-- The scheduler after one call. -/
def after (s : QosScheduler T) : Call T → QosScheduler T
  | .enqueue index now packet bytes in_flight => (s.enqueue index now packet bytes in_flight).2
  | .dequeue_ready now => (s.dequeue_ready now).2
  | .next_ready now => (s.next_ready now).2
  | .drain _ => s.drain.2

def afterAll (s : QosScheduler T) (calls : List (Call T)) : QosScheduler T := calls.foldl after s

/-- What a call means for one class. -/
inductive Event (T : Type u) where
  | rest
  | rejected (reason : QueueRejectReason) (bytes : UInt64)
  | accepted (packet : T) (bytes : UInt64)
  | transmitted (packet : T) (bytes : UInt64)
  | drained (packets : List (T × UInt64))

/-- The frames that wait in a class. -/
def waitingIn (c : QosClass T) : List (T × UInt64) := c.packets.map (fun queued => (queued.packet,queued.bytes))

def waiting (k : Nat) (s : QosScheduler T) : List (T × UInt64) := (s.classes[k]?).elim [] waitingIn

/-- The event of a call for a class, from the call's result. -/
def event (k : Nat) (s : QosScheduler T) : Call T → Event T
  | .enqueue index now packet bytes in_flight =>
    if index = k then
      match (s.enqueue index now packet bytes in_flight).1 with
      | .ok () => .accepted packet bytes
      | .error rejected => .rejected rejected.reason bytes
    else .rest
  | .dequeue_ready now =>
    match (s.dequeue_ready now).1 with
    | some departure => if departure.class = k then .transmitted departure.packet departure.bytes else .rest
    | none => .rest
  | .next_ready _ => .rest
  | .drain _ => .drained (waiting k s)

/-- The events of a class along a run, with their times. -/
def events (k : Nat) : QosScheduler T → List (Call T) → List (SimTime × Event T)
  | _,[] => []
  | s,call :: calls => (call.now,event k s call) :: events k (after s call) calls

/-- The frames that an event brings into a class. -/
def Event.taken : Event T → List (T × UInt64)
  | .accepted packet bytes => [(packet,bytes)]
  | _ => []

/-- The frames that an event removes from a class, in order. -/
def Event.left : Event T → List (T × UInt64)
  | .transmitted packet bytes => [(packet,bytes)]
  | .drained packets => packets
  | _ => []

/-- The frames that an event drops from a class. -/
def Event.dropped : Event T → Nat
  | .drained packets => packets.length
  | _ => 0

/-! ### The checks of an arrival -/

/-- The counters of a class after an arrival. -/
def counted (reason : Option QueueRejectReason) (bytes : UInt64) (counters : QosClassCounters) : QosClassCounters :=
  let counters := { counters with
    matched_packets := satAdd64 counters.matched_packets 1
    matched_bytes := satAdd64 counters.matched_bytes bytes }
  match reason with
  | some .Policed => { counters with police_drops := satAdd64 counters.police_drops 1 }
  | some .PriorityExceeded => { counters with priority_drops := satAdd64 counters.priority_drops 1 }
  | some .ShapeBurstExceeded => { counters with shape_drops := satAdd64 counters.shape_drops 1 }
  | some .Full => { counters with queue_drops := satAdd64 counters.queue_drops 1 }
  | _ => counters

/-- A class whose buckets and counters saw an arrival. -/
def seen (c : QosClass T) (now : SimTime) (bytes : UInt64) (priority : Option TokenBucket)
    (reason : Option QueueRejectReason) : QosClass T :=
  { c with
    police := (QosClass.refuses c.police now bytes).2
    priority := priority
    counters := counted reason bytes c.counters }

/-- A class with one more frame at the end. -/
def queue (c : QosClass T) (packet : T) (bytes : UInt64) (finish : Nat) : QosClass T :=
  { c with last_finish := finish, packets := c.packets ++ [⟨packet,bytes,finish⟩] }

/-- The checks change the buckets and the counters only; a frame that passes conforms to its policer
    and to the burst of its shaper, and there is room. -/
theorem admission_seen (c : QosClass T) (now : SimTime) (bytes : UInt64) (congested full : Bool) :
    ∃ reason priority, c.admission now bytes congested full = (reason,seen c now bytes priority reason) ∧
      priority.isSome = c.priority.isSome ∧ reason ≠ some .UnknownClass ∧
      (reason = none → (QosClass.refuses c.police now bytes).1 = false ∧ full = false ∧
        ∀ rate ∈ c.config.shape, bytes ≤ rate.burst_bytes) := by
  unfold QosClass.admission
  by_cases policed : (QosClass.refuses c.police now bytes).1 = true
  · refine ⟨some .Policed,c.priority,?_,rfl,by simp,by simp⟩
    simp [policed,seen,counted]
  have spared := FairService.refuses_isSome c.priority now bytes
  by_cases exceeded : ((QosClass.refuses c.priority now bytes).1 && congested) = true
  · refine ⟨some .PriorityExceeded,(QosClass.refuses c.priority now bytes).2,?_,spared,by simp,by simp⟩
    simp [policed,exceeded,seen,counted]
  by_cases bursts : (c.config.shape.any (fun rate => rate.burst_bytes < bytes)) = true
  · refine ⟨some .ShapeBurstExceeded,(QosClass.refuses c.priority now bytes).2,?_,spared,by simp,by simp⟩
    simp only [policed,exceeded,bursts]
    simp [seen,counted]
  by_cases packed : full = true
  · refine ⟨some .Full,(QosClass.refuses c.priority now bytes).2,?_,spared,by simp,by simp⟩
    simp only [policed,exceeded,bursts,packed]
    simp [seen,counted]
  · refine ⟨none,(QosClass.refuses c.priority now bytes).2,?_,spared,by simp,?_⟩
    · simp only [policed,exceeded,bursts,packed]
      simp [seen,counted]
    · intro _
      refine ⟨Bool.eq_false_iff.mpr policed,Bool.eq_false_iff.mpr packed,?_⟩
      intro rate shaped
      rw [Option.mem_def.mp shaped,Option.any_some,decide_eq_true_eq] at bursts
      exact not_lt.mp bursts

/-! ### What a call does to one class -/

/-- A class whose shaper may have been looked at. -/
inductive Looked (now : SimTime) (c : QosClass T) : QosClass T → Prop where
  | kept : Looked now c c
  | refilled : Looked now c { c with shape := c.shape.map (·.refill now) }

/-- One event at a class. -/
inductive Moves (now : SimTime) : Event T → QosClass T → QosClass T → Prop where
  | rest (c : QosClass T) (last : Nat) (looked : Looked now { c with last_finish := last } next) : Moves now .rest c next
  | rejected (c : QosClass T) (last : Nat) (reason : QueueRejectReason) (bytes : UInt64) (priority : Option TokenBucket)
    (known : reason ≠ .UnknownClass) (strict : priority.isSome = c.priority.isSome) :
    Moves now (.rejected reason bytes) c (seen { c with last_finish := last } now bytes priority (some reason))
  | accepted (c : QosClass T) (packet : T) (bytes : UInt64) (finish : Nat) (priority : Option TokenBucket)
    (strict : priority.isSome = c.priority.isSome) (conforms : (QosClass.refuses c.police now bytes).1 = false)
    (short : ∀ rate ∈ c.config.shape, bytes ≤ rate.burst_bytes) :
    Moves now (.accepted packet bytes) c (queue (seen c now bytes priority none) packet bytes finish)
  | transmitted (c : QosClass T) (packet : Queued T) (packets : List (Queued T)) (queued : c.packets = packet :: packets)
    (available : (c.eligible_head now).1 = some packet) :
    Moves now (.transmitted packet.packet packet.bytes) c ((c.eligible_head now).2.transmit now packet packets)
  | drained (c : QosClass T) : Moves now (.drained (waitingIn c)) c { c with packets := [] }

theorem eligible_head_looked (c : QosClass T) (now : SimTime) : Looked now c (c.eligible_head now).2 := by
  obtain ⟨config,priority,police,shape,packets,last,counters⟩ := c
  cases packets with
  | nil => exact .kept
  | cons packet packets =>
    cases shape with
    | none => exact .kept
    | some bucket => exact .refilled

theorem ready_at_refill (bucket : TokenBucket) (now : SimTime) (bytes : UInt64) :
    (bucket.ready_at now bytes).2 = bucket.refill now := by
  simp only [TokenBucket.ready_at]
  generalize div_ceil _ _ = wait
  generalize checkedAdd64 now (UInt64.ofNat wait) = sum
  split_ifs
  · cases sum <;> trivial
  · trivial

variable {now : SimTime}

/-- `next_ready` only looks at the shapers. -/
theorem next_ready_with_looked {ready : TokenBucket → SimTime → UInt64 → Except Queue.ScheduleError SimTime × TokenBucket}
    (refills : ∀ bucket bytes, (ready bucket now bytes).2 = bucket.refill now) (classes : List (QosClass T))
    (next : Option SimTime) : List.Forall₂ (Looked now) classes (QosScheduler.next_ready_with ready now classes next).2 := by
  have same : ∀ rest : List (QosClass T), List.Forall₂ (Looked now) rest rest :=
    fun rest => List.forall₂_same.mpr (fun _ _ => .kept)
  induction classes generalizing next with
  | nil => exact .nil
  | cons c rest ih =>
    obtain ⟨config,priority,police,shape,packets,last,counters⟩ := c
    cases packets with
    | nil => exact .cons .kept (ih _)
    | cons packet packets =>
      cases shape with
      | none => exact .cons .kept (ih _)
      | some bucket =>
        have looked := refills bucket packet.bytes
        simp only [QosScheduler.next_ready_with]
        cases deadline : ready bucket now packet.bytes with
        | mk result shaper =>
          rw [deadline] at looked
          obtain rfl : shaper = bucket.refill now := looked
          cases result with
          | error error => exact .cons .refilled (same rest)
          | ok time => exact .cons .refilled (ih _)

theorem next_ready_looked (s : QosScheduler T) (now : SimTime) :
    List.Forall₂ (Looked now) s.classes (s.next_ready now).2.classes := by
  rw [QosScheduler.next_ready,QosScheduler.next_ready_from_eq]
  exact next_ready_with_looked (fun bucket bytes => ready_at_refill bucket now bytes) s.classes none

variable {s : QosScheduler T} {c : QosClass T}

theorem reset_idle_class {k : Nat} (found : s.classes[k]? = some c) :
    ∃ last, s.reset_idle.classes[k]? = some { c with last_finish := last } := by
  unfold QosScheduler.reset_idle
  by_cases idle : s.length = 0
  · rw [if_pos idle]
    exact ⟨0,by simp [found]⟩
  · rw [if_neg idle]
    exact ⟨c.last_finish,found⟩

theorem reset_idle_length (s : QosScheduler T) : s.reset_idle.length = s.length := by
  unfold QosScheduler.reset_idle
  split_ifs <;> rfl

theorem reset_idle_capacity (s : QosScheduler T) : s.reset_idle.capacity = s.capacity := by
  unfold QosScheduler.reset_idle
  split_ifs <;> rfl

/-- `enqueue` rejects an unknown class, rejects the frame, or takes it. -/
theorem enqueue_outcome (s : QosScheduler T) (index : Nat) (now : SimTime) (packet : T) (bytes : UInt64) (in_flight : Nat) :
    let result := s.enqueue index now packet bytes in_flight
    (s.reset_idle.classes[index]? = none ∧ result = (.error ⟨.UnknownClass,packet⟩,s.reset_idle)) ∨
      ∃ c priority, s.reset_idle.classes[index]? = some c ∧ priority.isSome = c.priority.isSome ∧
        ((∃ reason, reason ≠ .UnknownClass ∧ result = (.error ⟨reason,packet⟩,
            { s.reset_idle with classes := s.reset_idle.classes.set index (seen c now bytes priority (some reason)) })) ∨
          ∃ finish, (QosClass.refuses c.police now bytes).1 = false ∧ (∀ rate ∈ c.config.shape, bytes ≤ rate.burst_bytes) ∧
            s.length + in_flight < s.capacity ∧ result = (.ok (),{ s.reset_idle with
              classes := s.reset_idle.classes.set index (queue (seen c now bytes priority none) packet bytes finish)
              length := s.length + 1 })) := by
  intro result
  have unfolded : result = s.enqueue index now packet bytes in_flight := rfl
  rw [unfolded]
  unfold QosScheduler.enqueue
  dsimp only
  cases found : s.reset_idle.classes[index]? with
  | none => exact .inl ⟨rfl,rfl⟩
  | some c =>
    obtain ⟨reason,priority,outcome,strict,known,passed⟩ := admission_seen c now bytes
      (decide (0 < s.reset_idle.length) || decide (0 < in_flight)) (decide (s.reset_idle.capacity ≤ s.reset_idle.length + in_flight))
    dsimp only
    rw [outcome]
    refine .inr ⟨c,priority,rfl,strict,?_⟩
    cases reason with
    | some reason => exact .inl ⟨reason,fun same => known (congrArg some same),rfl⟩
    | none =>
      obtain ⟨conforms,room,short⟩ := passed rfl
      have fits := of_decide_eq_false room
      rw [reset_idle_capacity,reset_idle_length,not_le] at fits
      refine .inr ⟨min (s.reset_idle.tag_of (seen c now bytes priority none) bytes) maxTag,conforms,short,fits,?_⟩
      rw [← reset_idle_length s]
      rfl

/-- The selected class of `dequeue_ready`: an eligible head with the least key. -/
theorem dequeue_outcome (s : QosScheduler T) (now : SimTime) :
    let looked := s.classes.map (fun c => (c.eligible_head now).2)
    (s.dequeue_ready now = (none,{ s with classes := looked }) ∧ ∀ c ∈ s.classes, (c.eligible_head now).1 = none) ∨
      ∃ (k : Nat) (c : QosClass T) (packet : Queued T) (packets : List (Queued T)) (virtual : Nat),
        s.classes[k]? = some c ∧ c.packets = packet :: packets ∧ (c.eligible_head now).1 = some packet ∧
        (∀ (i : Nat) (d : QosClass T) (head : Queued T), s.classes[i]? = some d → (d.eligible_head now).1 = some head →
          c.selection_key packet k ≤ d.selection_key head i) ∧
        s.dequeue_ready now = (some ⟨k,packet.bytes,packet.packet⟩,{ s with
          classes := looked.set k ((c.eligible_head now).2.transmit now packet packets)
          virtual_time := virtual
          length := s.length - 1 }) := by
  intro looked
  have refreshed : ∀ i : Nat, (s.classes.map (fun c => (c.eligible_head now).2))[i]? =
      (s.classes[i]?).map (fun c : QosClass T => (c.eligible_head now).2) := fun i => List.getElem?_map ..
  have competes : ∀ {i : Nat} {d : QosClass T} {head : Queued T}, s.classes[i]? = some d → (d.eligible_head now).1 = some head →
      (d.selection_key head i,i) ∈ s.candidates now := by
    intro i d head found eligible
    refine List.mem_filterMap.mpr ⟨(d,i),List.mem_zipIdx_iff_getElem?.mpr (by simpa using found),?_⟩
    simp [eligible]
  unfold QosScheduler.dequeue_ready
  dsimp only
  cases least : (s.candidates now).argmin (·.1) with
  | none =>
    refine .inl ⟨rfl,?_⟩
    intro c member
    obtain ⟨i,found⟩ := List.mem_iff_getElem?.mp member
    cases eligible : (c.eligible_head now).1 with
    | none => rfl
    | some head =>
      have candidate := competes found eligible
      rw [List.argmin_eq_none.mp least] at candidate
      cases candidate
  | some candidate =>
    obtain ⟨⟨c,k⟩,found,eligible⟩ := List.mem_filterMap.mp (List.argmin_mem least)
    have at_index : s.classes[k]? = some c := by simpa using List.mem_zipIdx_iff_getElem?.mp found
    obtain ⟨packet,is_eligible,rfl⟩ := Option.map_eq_some_iff.mp eligible
    have head := eligible_head_some is_eligible
    obtain ⟨packets,queued⟩ : ∃ packets, c.packets = packet :: packets := by
      cases q : c.packets with
      | nil => simp [q] at head
      | cons first rest => rw [q] at head; cases head; exact ⟨rest,rfl⟩
    have kept : (c.eligible_head now).2.packets = packet :: packets :=
      (congrArg FairService.View.packets (view_eligible_head c now)).trans queued
    simp only [Option.map_some,Option.bind_some,refreshed,at_index,kept]
    exact .inr ⟨k,c,packet,packets,_,at_index,queued,is_eligible,
      fun i d other found eligible => List.le_of_mem_argmin (competes found eligible) least,rfl⟩

theorem forall₂_at {α β : Type*} {R : α → β → Prop} {first : List α} {second : List β}
    (related : List.Forall₂ R first second)
    {k : Nat} {a : α} (found : first[k]? = some a) : ∃ b, second[k]? = some b ∧ R a b := by
  induction related generalizing k with
  | nil => simp at found
  | cons head _ ih =>
    cases k with
    | zero =>
      cases found
      exact ⟨_,rfl,head⟩
    | succ k => exact ih (by simpa using found)

/-- Every call moves every class by its event. -/
theorem after_moves (s : QosScheduler T) (call : Call T) {k : Nat} (found : s.classes[k]? = some c) :
    ∃ next, (after s call).classes[k]? = some next ∧ Moves call.now (event k s call) c next := by
  cases call with
  | enqueue index now packet bytes in_flight =>
    obtain ⟨last,reset⟩ := reset_idle_class found
    have inside := (List.getElem?_eq_some_iff.mp reset).1
    rcases enqueue_outcome s index now packet bytes in_flight with
      ⟨unknown,result⟩ | ⟨d,priority,known,strict,⟨reason,named,result⟩ | ⟨finish,conforms,short,-,result⟩⟩
    · have other : index ≠ k := by
        rintro rfl
        rw [unknown] at reset
        cases reset
      refine ⟨{ c with last_finish := last },?_,?_⟩
      · simp only [after,result]
        exact reset
      · simp only [event,if_neg other]
        exact .rest c last .kept
    · by_cases same : index = k
      · subst same
        obtain rfl : d = _ := Option.some.inj (known.symm.trans reset)
        refine ⟨seen { c with last_finish := last } now bytes priority (some reason),?_,?_⟩
        · simp [after,result,inside]
        · simp only [event,result,if_true]
          exact .rejected c last reason bytes priority named strict
      · refine ⟨{ c with last_finish := last },?_,?_⟩
        · simp only [after,result,List.getElem?_set_ne same]
          exact reset
        · simp only [event,if_neg same]
          exact .rest c last .kept
    · by_cases same : index = k
      · subst same
        obtain rfl : d = _ := Option.some.inj (known.symm.trans reset)
        refine ⟨queue (seen c now bytes priority none) packet bytes finish,?_,?_⟩
        · simp only [after,result,List.getElem?_set_self inside]
          rfl
        · simp only [event,result,if_true]
          exact .accepted c packet bytes finish priority strict conforms short
      · refine ⟨{ c with last_finish := last },?_,?_⟩
        · simp only [after,result,List.getElem?_set_ne same]
          exact reset
        · simp only [event,if_neg same]
          exact .rest c last .kept
  | dequeue_ready now =>
    have looked : (s.classes.map (fun c => (c.eligible_head now).2))[k]? = some (c.eligible_head now).2 := by simp [found]
    have inside := (List.getElem?_eq_some_iff.mp looked).1
    rcases dequeue_outcome s now with ⟨result,-⟩ | ⟨i,d,packet,packets,virtual,known,queued,available,-,result⟩
    · refine ⟨(c.eligible_head now).2,?_,?_⟩
      · simp only [after,result]
        exact looked
      · simp only [event,result]
        exact .rest c c.last_finish (eligible_head_looked c now)
    · by_cases same : i = k
      · subst same
        obtain rfl : d = c := Option.some.inj (known.symm.trans found)
        refine ⟨(d.eligible_head now).2.transmit now packet packets,?_,?_⟩
        · simp only [after,result]
          exact List.getElem?_set_self inside
        · simp only [event,result,if_true]
          exact .transmitted d packet packets queued available
      · refine ⟨(c.eligible_head now).2,?_,?_⟩
        · simp only [after,result,List.getElem?_set_ne same]
          exact looked
        · simp only [event,result,if_neg same]
          exact .rest c c.last_finish (eligible_head_looked c now)
  | next_ready now =>
    obtain ⟨next,there,looked⟩ := forall₂_at (next_ready_looked s now) found
    exact ⟨next,there,.rest c c.last_finish looked⟩
  | drain now =>
    refine ⟨{ c with packets := [] },by simp [after,QosScheduler.drain,found],?_⟩
    simp only [event,waiting,found,Option.elim_some]
    exact .drained c

/-! ### One class along a run -/

/-- Looking at a shaper changes nothing else. -/
theorem Looked.frame {next : QosClass T} (looked : Looked now c next) :
    next.packets = c.packets ∧ next.counters = c.counters ∧ next.config = c.config ∧ next.police = c.police ∧
      next.priority = c.priority := by
  cases looked <;> exact ⟨rfl,rfl,rfl,rfl,rfl⟩

/-- What waits and what comes in is what leaves and what waits then, in order. -/
theorem Moves.queue {e : Event T} {next : QosClass T} (moves : Moves now e c next) :
    waitingIn c ++ e.taken = e.left ++ waitingIn next := by
  cases moves with
  | rest c last looked => simp [waitingIn,looked.frame.1,Event.taken,Event.left]
  | rejected c last reason bytes priority known strict => simp [waitingIn,seen,Event.taken,Event.left]
  | accepted c packet bytes finish priority strict conforms short =>
    simp [waitingIn,seen,QosLedger.queue,Event.taken,Event.left]
  | transmitted c packet packets queued available => simp [waitingIn,queued,QosClass.transmit,Event.taken,Event.left]
  | drained c => simp [waitingIn,Event.taken,Event.left]

/-- Below saturation every frame that matched a class is accounted for. -/
def Balanced (dropped : Nat) (c : QosClass T) : Prop :=
  c.counters.matched_packets.toNat < 2 ^ 64 - 1 →
    c.counters.matched_packets.toNat = c.counters.transmitted_packets.toNat + c.counters.queue_drops.toNat +
      c.counters.police_drops.toNat + c.counters.priority_drops.toNat + c.counters.shape_drops.toNat + c.packets.length + dropped

/-- A counter below saturation counts one more. -/
theorem satAdd64_one {counter : UInt64} (below : (satAdd64 counter 1).toNat < 2 ^ 64 - 1) :
    (satAdd64 counter 1).toNat = counter.toNat + 1 := by
  rw [satAdd64_toNat] at below ⊢
  exact min_eq_left (by have := min_lt_iff.mp below; simp at this ⊢; omega)

theorem satAdd64_small {counter : UInt64} (below : counter.toNat < 2 ^ 64 - 1) :
    (satAdd64 counter 1).toNat = counter.toNat + 1 := by
  rw [satAdd64_toNat]
  exact min_eq_left (by simp; omega)

/-- Every event keeps the account of its class. -/
theorem Moves.balanced {e : Event T} {next : QosClass T} (moves : Moves now e c next) {dropped : Nat}
    (balanced : Balanced dropped c) : Balanced (dropped + e.dropped) next := by
  cases moves with
  | rest c last looked =>
    obtain ⟨packets,counters,-⟩ := looked.frame
    rw [Balanced,packets,counters]
    exact balanced
  | rejected c last reason bytes priority known strict =>
    intro below
    have one : (counted (some reason) bytes c.counters).matched_packets = satAdd64 c.counters.matched_packets 1 := by
      cases reason <;> rfl
    have matched : (seen { c with last_finish := last } now bytes priority (some reason)).counters.matched_packets =
        satAdd64 c.counters.matched_packets 1 := one
    rw [matched] at below ⊢
    have counts := satAdd64_one below
    rw [counts] at below ⊢
    have account := balanced (by omega)
    cases reason with
    | Full =>
      have drops := satAdd64_small (show c.counters.queue_drops.toNat < 2 ^ 64 - 1 by omega)
      simp only [seen,counted,Event.dropped,drops]
      omega
    | Policed =>
      have drops := satAdd64_small (show c.counters.police_drops.toNat < 2 ^ 64 - 1 by omega)
      simp only [seen,counted,Event.dropped,drops]
      omega
    | PriorityExceeded =>
      have drops := satAdd64_small (show c.counters.priority_drops.toNat < 2 ^ 64 - 1 by omega)
      simp only [seen,counted,Event.dropped,drops]
      omega
    | ShapeBurstExceeded =>
      have drops := satAdd64_small (show c.counters.shape_drops.toNat < 2 ^ 64 - 1 by omega)
      simp only [seen,counted,Event.dropped,drops]
      omega
    | UnknownClass => exact absurd rfl known
  | accepted c packet bytes finish priority strict conforms short =>
    intro below
    have matched : (QosLedger.queue (seen c now bytes priority none) packet bytes finish).counters.matched_packets =
        satAdd64 c.counters.matched_packets 1 := rfl
    rw [matched] at below ⊢
    have counts := satAdd64_one below
    rw [counts] at below ⊢
    have account := balanced (by omega)
    simp only [QosLedger.queue,seen,counted,Event.dropped,List.length_append,List.length_singleton]
    omega
  | transmitted c packet packets queued available =>
    intro below
    have counters := (eligible_head_looked c now).frame.2.1
    simp only [QosClass.transmit,counters] at below ⊢
    have account := balanced below
    rw [queued,List.length_cons] at account
    rw [satAdd64_small (by omega)]
    simp only [Event.dropped]
    omega
  | drained c =>
    intro below
    have account := balanced below
    simp only [Event.dropped,waitingIn,List.length_map,List.length_nil]
    omega

/-- The frames that a class took along a run, and those that left it. -/
def taken (k : Nat) (s : QosScheduler T) (calls : List (Call T)) :
    List (T × UInt64) := (events k s calls).flatMap (·.2.taken)

def left (k : Nat) (s : QosScheduler T) (calls : List (Call T)) : List (T × UInt64) := (events k s calls).flatMap (·.2.left)

/-- The frames of a class that drains dropped along a run. -/
def dropped (k : Nat) (s : QosScheduler T) (calls : List (Call T)) : Nat := ((events k s calls).map (·.2.dropped)).sum

/-- A run keeps the order and the account of a class. -/
theorem run_class (calls : List (Call T)) {k : Nat} (found : s.classes[k]? = some c) {before : Nat}
    (balanced : Balanced before c) :
    ∃ last, (afterAll s calls).classes[k]? = some last ∧ waitingIn c ++ taken k s calls = left k s calls ++ waitingIn last ∧
      Balanced (before + dropped k s calls) last := by
  induction calls generalizing s c before with
  | nil => exact ⟨c,found,by simp [taken,left,events],by simpa [dropped,events] using balanced⟩
  | cons call rest ih =>
    obtain ⟨next,there,moves⟩ := after_moves s call found
    obtain ⟨last,end_there,order,account⟩ := ih there (moves.balanced balanced)
    refine ⟨last,end_there,?_,?_⟩
    · simp only [taken,left,events,List.flatMap_cons] at order ⊢
      rw [← List.append_assoc,moves.queue,List.append_assoc,order,List.append_assoc]
    · simp only [dropped,events,List.map_cons,List.sum_cons] at account ⊢
      rwa [← Nat.add_assoc]

/-! ### The whole scheduler -/

theorem Looked.view {next : QosClass T} (looked : Looked now c next) : view next = view c := by
  cases looked with
  | kept => rfl
  | refilled => simp [FairService.view]

theorem views_looked {classes others : List (QosClass T)} (looked : List.Forall₂ (Looked now) classes others) :
    others.map view = classes.map view := by
  induction looked with
  | nil => rfl
  | cons head _ ih => rw [List.map_cons,List.map_cons,ih,head.view]

/-- Every call keeps the queues well formed. -/
theorem after_formed {configs : List QueueClassConfig} (formed : WellFormed configs s) (call : Call T) :
    WellFormed configs (after s call) := by
  cases call with
  | enqueue index now packet bytes in_flight =>
    have reset := FairService.reset_idle_formed formed
    obtain ⟨-,⟨viewed,length⟩ | ⟨c,found,-,length,viewed⟩⟩ := FairService.enqueue_cases s index now packet bytes in_flight
    · exact ⟨viewed ▸ reset.configured,viewed ▸ reset.priority,viewed ▸ reset.shape,by rw [after,viewed,length]; exact reset.counted⟩
    · refine FairService.formed_set reset found _ viewed ?_
      simp only [after,length,List.length_append,List.length_singleton]
      omega
  | dequeue_ready now =>
    rcases FairService.dequeue_cases s now with
      ⟨-,viewed,length,-⟩ | ⟨index,c,packet,packets,found,queued,-,-,length,-,viewed⟩
    · exact ⟨viewed ▸ formed.configured,viewed ▸ formed.priority,viewed ▸ formed.shape,
        by rw [after,viewed,length]; exact formed.counted⟩
    · refine FairService.formed_set formed found c.last_finish viewed ?_
      have some_waiting : 0 < s.length := by
        rw [formed.counted]
        refine Nat.lt_of_lt_of_le (Nat.succ_pos packets.length) ?_
        refine List.single_le_sum (fun _ _ => Nat.zero_le _) _ (List.mem_map.mpr ⟨view c,?_,by rw [FairService.view,queued]; rfl⟩)
        exact List.mem_map_of_mem (List.mem_of_getElem? found)
      simp only [after,length,queued,List.length_cons]
      omega
  | next_ready now =>
    have viewed : views (after s (.next_ready now)) = views s := views_looked (next_ready_looked s now)
    exact ⟨viewed ▸ formed.configured,viewed ▸ formed.priority,viewed ▸ formed.shape,by rw [viewed]; exact formed.counted⟩
  | drain now =>
    have viewed : views (after s (.drain now)) = (views s).map (fun v => { v with packets := [] }) := by
      simp only [views,after,QosScheduler.drain,List.map_map]
      rfl
    refine ⟨?_,?_,?_,?_⟩
    · rw [viewed,List.map_map,← formed.configured]
      rfl
    · intro v member
      rw [viewed] at member
      obtain ⟨old,listed,rfl⟩ := List.mem_map.mp member
      exact formed.priority old listed
    · intro v member
      rw [viewed] at member
      obtain ⟨old,listed,rfl⟩ := List.mem_map.mp member
      exact formed.shape old listed
    · rw [viewed,List.map_map]
      exact (List.sum_eq_zero (by simp)).symm

theorem after_capacity (s : QosScheduler T) (call : Call T) : (after s call).capacity = s.capacity := by
  cases call with
  | enqueue index now packet bytes in_flight =>
    rcases enqueue_outcome s index now packet bytes in_flight with
      ⟨-,result⟩ | ⟨d,priority,-,-,⟨reason,-,result⟩ | ⟨finish,-,-,-,result⟩⟩
    · rw [after,result]; exact reset_idle_capacity s
    · rw [after,result]; exact reset_idle_capacity s
    · rw [after,result]; exact reset_idle_capacity s
  | dequeue_ready now =>
    rcases dequeue_outcome s now with ⟨result,-⟩ | ⟨_,_,_,_,_,-,-,-,-,result⟩
    · rw [after,result]
    · rw [after,result]
  | next_ready now => rfl
  | drain now => rfl

theorem run_formed {configs : List QueueClassConfig} (formed : WellFormed configs s) (calls : List (Call T)) :
    WellFormed configs (afterAll s calls) ∧ (afterAll s calls).capacity = s.capacity := by
  induction calls generalizing s with
  | nil => exact ⟨formed,rfl⟩
  | cons call rest ih =>
    obtain ⟨there,capacity⟩ := ih (after_formed formed call)
    exact ⟨there,capacity.trans (after_capacity s call)⟩

theorem formed_length {configs : List QueueClassConfig} (formed : WellFormed configs s) :
    s.length = (s.classes.map (fun c => c.packets.length)).sum := by
  rw [formed.counted,views,List.map_map]
  rfl

/-- What the result of the next call promises. -/
def Promise (s : QosScheduler T) : Call T → Prop
  | .enqueue index now packet bytes in_flight =>
    match s.enqueue index now packet bytes in_flight with
    | (.ok (),next) => next.length + in_flight ≤ s.capacity
    | (.error rejected,next) => rejected.packet = packet ∧ next.length = s.length ∧ ∀ k, waiting k next = waiting k s
  | .dequeue_ready now =>
    ∀ departure ∈ (s.dequeue_ready now).1, ∀ c ∈ s.classes[departure.class]?, c.priority = none →
      ∀ d ∈ s.classes, d.priority.isSome → (d.eligible_head now).1 = none
  | .next_ready now => ∀ k, waiting k (s.next_ready now).2 = waiting k s
  | .drain _ => s.drain.1 = s.classes.flatMap (fun c => (waitingIn c).map (·.1)) ∧ s.drain.2.length = 0 ∧
      ∀ k, waiting k s.drain.2 = []

theorem waiting_views {next : QosScheduler T} (viewed : views next = views s) (k : Nat) :
    waiting k next = waiting k s := by
  have at_k : (next.classes[k]?).map view = (s.classes[k]?).map view := by
    rw [← List.getElem?_map,← List.getElem?_map]
    exact congrArg (·[k]?) viewed
  have read : ∀ t : QosScheduler T, waiting k t =
      ((t.classes[k]?).map view).elim [] (fun v => v.packets.map (fun queued => (queued.packet,queued.bytes))) := by
    intro t
    rw [waiting]
    cases t.classes[k]? <;> rfl
  rw [read,read,at_k]

theorem waiting_reset (s : QosScheduler T) (k : Nat) : waiting k s.reset_idle = waiting k s := by
  cases found : s.classes[k]? with
  | some c =>
    obtain ⟨last,reset⟩ := reset_idle_class found
    simp only [waiting,found,reset]
    rfl
  | none =>
    have reset : s.reset_idle.classes[k]? = none := by
      unfold QosScheduler.reset_idle
      by_cases idle : s.length = 0
      · rw [if_pos idle]
        simp [found]
      · rwa [if_neg idle]
    simp only [waiting,found,reset]

/-- A frame that is handed back changes no queue. -/
theorem rejected_waiting {s : QosScheduler T} {index : Nat} {now : SimTime} {packet : T} {bytes : UInt64} {in_flight : Nat}
    {rejected : QueueRejected T} (refused : (s.enqueue index now packet bytes in_flight).1 = .error rejected) :
    (s.enqueue index now packet bytes in_flight).2.length = s.length ∧
      ∀ k, waiting k (s.enqueue index now packet bytes in_flight).2 = waiting k s := by
  rcases (FairService.enqueue_cases s index now packet bytes in_flight).2 with ⟨viewed,length⟩ | ⟨c,-,accepted,-⟩
  · refine ⟨length.trans (reset_idle_length s),?_⟩
    intro k
    rw [waiting_views viewed,waiting_reset]
  · rw [refused] at accepted
    cases accepted

theorem promise (s : QosScheduler T) (call : Call T) : Promise s call := by
  cases call with
  | enqueue index now packet bytes in_flight =>
    have unchanged := fun rejected => @rejected_waiting T s index now packet bytes in_flight rejected
    rcases enqueue_outcome s index now packet bytes in_flight with
      ⟨-,result⟩ | ⟨d,priority,found,-,⟨reason,-,result⟩ | ⟨finish,-,-,fits,result⟩⟩
    · rw [Promise,result]
      rw [result] at unchanged
      exact ⟨rfl,unchanged _ rfl⟩
    · rw [Promise,result]
      rw [result] at unchanged
      exact ⟨rfl,unchanged _ rfl⟩
    · rw [Promise,result]
      show s.length + 1 + in_flight ≤ s.capacity
      omega
  | dequeue_ready now =>
    intro departure departs c found ordinary d listed strict
    rcases dequeue_outcome s now with ⟨result,-⟩ | ⟨k,c',packet,packets,virtual,known,queued,available,least,result⟩
    · rw [result] at departs
      cases departs
    · rw [result] at departs
      cases departs
      obtain rfl : c' = c := Option.some.inj (known.symm.trans found)
      cases eligible : (d.eligible_head now).1 with
      | none => rfl
      | some head =>
        -- the head of a priority class would have the smaller key
        obtain ⟨i,there⟩ := List.mem_iff_getElem?.mp listed
        have order := least i d head there eligible
        have weak : d.priority.isNone = false := by simpa using strict
        rw [QosClass.selection_key,QosClass.selection_key,ordinary,weak,Option.isNone_none,Prod.Lex.toLex_le_toLex] at order
        rcases order with less | ⟨same,-⟩
        · exact absurd (show true < false from less) (by decide)
        · cases same
  | next_ready now => exact fun k => waiting_views (views_looked (next_ready_looked s now)) k
  | drain now =>
    refine ⟨?_,rfl,?_⟩
    · simp only [QosScheduler.drain,waitingIn,List.map_map]
      rfl
    · intro k
      simp only [waiting,QosScheduler.drain,List.getElem?_map]
      cases s.classes[k]? <;> rfl

/-- Conservation and order, from any new scheduler and over any calls: the length counts the queues,
    every class lets its accepted frames out once and in order, a rejected frame is handed back and
    changes no queue, there is room after an arrival, priority goes first, and the counters add up. -/
theorem scheduler_conserves {configs : List QueueClassConfig} {capacity : Nat} {start : SimTime} {s : QosScheduler T}
    (created : QosScheduler.new configs capacity start = .ok s) (calls : List (Call T)) :
    let final := afterAll s calls
    (final.length = (final.classes.map (fun c => c.packets.length)).sum ∧ final.capacity = capacity) ∧
      (∀ k c, s.classes[k]? = some c → ∃ last, final.classes[k]? = some last ∧
        taken k s calls = left k s calls ++ waitingIn last ∧
        (last.counters.matched_packets.toNat < 2 ^ 64 - 1 →
          last.counters.matched_packets.toNat = last.counters.transmitted_packets.toNat + last.counters.queue_drops.toNat +
            last.counters.police_drops.toNat + last.counters.priority_drops.toNat + last.counters.shape_drops.toNat +
            last.packets.length + dropped k s calls)) ∧
      ∀ call, Promise final call := by
  intro final
  have formed := (FairService.new_sound (L := 0) created).1.formed
  obtain ⟨end_formed,same_capacity⟩ := run_formed formed calls
  have fresh : s.capacity = capacity ∧ ∀ c ∈ s.classes, c.packets = [] ∧ c.counters = ⟨0,0,0,0,0,0,0,0⟩ := by
    unfold QosScheduler.new at created
    split_ifs at created
    cases created
    refine ⟨rfl,?_⟩
    intro c member
    obtain ⟨config,-,rfl⟩ := List.mem_map.mp member
    exact ⟨rfl,rfl⟩
  refine ⟨⟨formed_length end_formed,same_capacity.trans fresh.1⟩,?_,promise final⟩
  intro k c found
  obtain ⟨packets,counters⟩ := fresh.2 c (List.mem_of_getElem? found)
  have balanced : Balanced 0 c := by
    intro _
    rw [counters,packets]
    rfl
  obtain ⟨last,there,order,account⟩ := run_class calls found balanced
  refine ⟨last,there,?_,?_⟩
  · simpa [waitingIn,packets] using order
  · simpa only [Balanced,Nat.zero_add] using account

/-- One strict class before an ordinary one. -/
def strict_and_plain : List QueueClassConfig := [⟨1,some ⟨8000000,1000⟩,none,none⟩,⟨1,none,none,none⟩]

def strict_scheduler : QosScheduler String := ⟨strict_and_plain.map (fun config => QosClass.new config 0),2,0,0⟩

/-- The ordinary frame comes first and leaves last. -/
def overtaken : List (Call String) :=
  [.enqueue 1 0 "data" 1500 0,.enqueue 0 0 "voice" 200 0,.enqueue 1 0 "more" 1500 0,.dequeue_ready 5,.drain 6]

theorem scheduler_conserves_strict :
    taken 1 strict_scheduler overtaken = left 1 strict_scheduler overtaken ++ waiting 1 (afterAll strict_scheduler overtaken) ∧
      left 0 strict_scheduler overtaken = [("voice",200)] ∧ left 1 strict_scheduler overtaken = [("data",1500)] := by
  obtain ⟨-,classes,-⟩ := scheduler_conserves
    (show QosScheduler.new strict_and_plain 2 0 = .ok strict_scheduler from rfl) overtaken
  obtain ⟨last,there,order,-⟩ := classes 1 _ rfl
  refine ⟨?_,by decide +kernel,by decide +kernel⟩
  rw [waiting,there]
  exact order

end Rios.QosLedger
