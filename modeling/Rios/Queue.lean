import Rios.Heap

/-!
# The event queue of the simulator

`EventQueue` over any heap that pops a maximal element, and the reference it
refines: a list kept sorted by time, where an event goes behind those of its
own time.
-/

namespace Rios.Queue
open Rios.Machine

universe u

/-- Virtual time in microseconds, a `u64`. -/
abbrev SimTime := UInt64

/-- Convert milliseconds, saturating at the end of the simulated time range. -/
def from_millis (milliseconds : UInt64) : SimTime := UInt64.ofNat (min (milliseconds.toNat * 1000) (2 ^ 64 - 1))

/-- An event with a stable insertion sequence. -/
structure ScheduledEvent (E : Type u) where
  time : SimTime
  event : E
  sequence : UInt64
deriving DecidableEq

variable {E : Type u}

/-- `Ord::cmp`: the keys are compared in reverse because the heap pops the largest. -/
def ScheduledEvent.cmp (self other : ScheduledEvent E) : Ordering :=
  (compare other.time self.time).then (compare other.sequence self.sequence)

inductive ScheduleError where
  | Past
  | Overflow
  | PendingEvent
deriving DecidableEq

/-- The queue over an arbitrary heap for its pending events. -/
structure EventQueue (heap : MaxHeap (ScheduledEvent E) ScheduledEvent.cmp) where
  now : SimTime
  next_sequence : UInt64
  pending : heap.Carrier

namespace EventQueue
variable {heap : MaxHeap (ScheduledEvent E) ScheduledEvent.cmp}

/-- `EventQueue::default`. -/
def default (heap : MaxHeap (ScheduledEvent E) ScheduledEvent.cmp) : EventQueue heap := ⟨0,0,heap.empty⟩

/-- Timestamp of the next event. -/
def next_time (self : EventQueue heap) : Option SimTime := (heap.peek self.pending).map (·.time)

/-- Queue an event at an absolute virtual time. -/
def schedule_at (self : EventQueue heap) (time : SimTime) (event : E) : Except ScheduleError Unit × EventQueue heap :=
  if time < self.now then (.error .Past,self) else
  match checkedAdd64 self.next_sequence 1 with
  | none => (.error .Overflow,self)
  | some next =>
    (.ok (),{ self with next_sequence := next, pending := heap.push ⟨time,event,self.next_sequence⟩ self.pending })

/-- Queue an event relative to the current virtual clock. -/
def schedule_after (self : EventQueue heap) (delay_ms : UInt64) (event : E) :
    Except ScheduleError Unit × EventQueue heap :=
  match checkedMul64 delay_ms 1000 with
  | none => (.error .Overflow,self)
  | some delay =>
    match checkedAdd64 self.now delay with
    | none => (.error .Overflow,self)
    | some time => self.schedule_at time event

/-- Pop one event and move the virtual clock to its timestamp. -/
def step (self : EventQueue heap) : Option (ScheduledEvent E) × EventQueue heap :=
  match heap.pop self.pending with
  | none => (none,self)
  | some (event,pending) => (some event,{ self with now := event.time, pending })

/-- Advance through idle time only. -/
def advance_to (self : EventQueue heap) (time : SimTime) : Except ScheduleError Unit × EventQueue heap :=
  if time < self.now then (.error .Past,self) else
  if self.next_time.any (· ≤ time) then (.error .PendingEvent,self) else
  (.ok (),{ self with now := time })

end EventQueue

/-! ### Runs -/

/-- One call on a queue. -/
inductive Operation (E : Type u) where
  | schedule_at (time : SimTime) (event : E)
  | schedule_after (delay_ms : UInt64) (event : E)
  | step
  | advance_to (time : SimTime)

/-- What a caller sees of one call. -/
inductive Outcome (E : Type u) where
  | done (result : Except ScheduleError Unit)
  | popped (event : Option (SimTime × E))

/-- Calls that reported an error. -/
def Outcome.Failed : Outcome E → Prop
  | .done (.error _) => True
  | _ => False

/-- A queue after a run, with the outcomes of its calls and the events that
    were accepted and returned on the way, oldest first. -/
structure Trace (heap : MaxHeap (ScheduledEvent E) ScheduledEvent.cmp) where
  queue : EventQueue heap
  outcomes : List (Outcome E)
  accepted : List (ScheduledEvent E)
  returned : List (ScheduledEvent E)

variable {heap : MaxHeap (ScheduledEvent E) ScheduledEvent.cmp}

/-- The event that a successful call adds: it carries the counter found before. -/
def acceptedEvent (queue : EventQueue heap) (time : SimTime) (event : E) :
    Except ScheduleError Unit → List (ScheduledEvent E)
  | .ok () => [⟨time,event,queue.next_sequence⟩]
  | .error _ => []

/-- One call on a queue: what it reports, accepts and returns, and the queue after it. -/
def EventQueue.apply (queue : EventQueue heap) : Operation E → Trace heap
  | .schedule_at time event =>
    let (result,after) := queue.schedule_at time event
    ⟨after,[.done result],acceptedEvent queue time event result,[]⟩
  | .schedule_after delay_ms event =>
    let (result,after) := queue.schedule_after delay_ms event
    ⟨after,[.done result],acceptedEvent queue (queue.now + delay_ms * 1000) event result,[]⟩
  | .step =>
    let (result,after) := queue.step
    ⟨after,[.popped (result.map fun event => (event.time,event.event))],[],result.toList⟩
  | .advance_to time =>
    let (result,after) := queue.advance_to time
    ⟨after,[.done result],[],[]⟩

/-- A run of calls from a queue. -/
def EventQueue.run (queue : EventQueue heap) : List (Operation E) → Trace heap
  | [] => ⟨queue,[],[],[]⟩
  | operation :: rest =>
    let first := queue.apply operation
    let later := first.queue.run rest
    ⟨later.queue,first.outcomes ++ later.outcomes,first.accepted ++ later.accepted,first.returned ++ later.returned⟩

/-! ### The reference -/

/-- Pending events sorted by time, in insertion order within one time. -/
structure Reference (E : Type u) where
  now : SimTime
  insertions : UInt64
  pending : List (SimTime × E)

/-- Put an element behind all elements whose time is not later than its own. -/
def insertStable {α : Type u} (time : α → SimTime) (new : α) : List α → List α
  | [] => [new]
  | head :: rest => if time head ≤ time new then head :: insertStable time new rest else new :: head :: rest

namespace Reference

def empty : Reference E := ⟨0,0,[]⟩

def insert (self : Reference E) (time : SimTime) (event : E) : Except ScheduleError Unit × Reference E :=
  if time < self.now then (.error .Past,self)
  else if self.insertions.toNat + 1 = 2 ^ 64 then (.error .Overflow,self)
  else (.ok (),⟨self.now,self.insertions + 1,insertStable (·.1) (time,event) self.pending⟩)

def apply (self : Reference E) : Operation E → Outcome E × Reference E
  | .schedule_at time event => (self.insert time event).map .done id
  | .schedule_after delay_ms event =>
    if 2 ^ 64 ≤ self.now.toNat + delay_ms.toNat * 1000 then (.done (.error .Overflow),self)
    else (self.insert (self.now + delay_ms * 1000) event).map .done id
  | .step =>
    match self.pending with
    | [] => (.popped none,self)
    | first :: rest => (.popped (some first),{ self with now := first.1, pending := rest })
  | .advance_to time =>
    if time < self.now then (.done (.error .Past),self)
    else if self.pending.any (fun event => event.1 ≤ time) then (.done (.error .PendingEvent),self)
    else (.done (.ok ()),{ self with now := time })

/-- The outcomes of a run of calls on the reference. -/
def run (self : Reference E) : List (Operation E) → List (Outcome E)
  | [] => []
  | operation :: rest => (self.apply operation).1 :: (self.apply operation).2.run rest

end Reference

/-! ### The simulation -/

/-- The order in which events leave the queue. -/
def Before (a b : ScheduledEvent E) : Prop := a.time < b.time ∨ a.time = b.time ∧ a.sequence < b.sequence

theorem cmp_gt_of_before {a b : ScheduledEvent E} (before : Before a b) : ScheduledEvent.cmp a b = .gt := by
  unfold ScheduledEvent.cmp
  rcases before with earlier | ⟨same,earlier⟩
  · rw [compare_gt_iff_gt.mpr earlier]; rfl
  · rw [same,compare_gt_iff_gt.mpr earlier,compare_eq_iff_eq.mpr rfl]; rfl

/-- The queue holds exactly `events`, in the order in which they will leave,
    and the reference holds the same ones. -/
structure Refines (queue : EventQueue heap) (reference : Reference E) (events : List (ScheduledEvent E)) : Prop where
  contents : heap.contents queue.pending = ↑events
  ordered : events.Pairwise Before
  counted : ∀ event ∈ events, event.sequence < queue.next_sequence
  future : ∀ event ∈ events, queue.now ≤ event.time
  now : reference.now = queue.now
  insertions : reference.insertions = queue.next_sequence
  pending : reference.pending = events.map (fun event => (event.time,event.event))

theorem insertStable_map {α β : Type u} (f : α → β) (time : β → SimTime) (new : α) (list : List α) :
    (insertStable (fun a => time (f a)) new list).map f = insertStable time (f new) (list.map f) := by
  induction list with
  | nil => rfl
  | cons head rest ih =>
    simp only [insertStable,List.map_cons]
    split_ifs
    · simp [ih]
    · simp

theorem insertStable_perm {α : Type u} (time : α → SimTime) (new : α) (list : List α) :
    (insertStable time new list).Perm (new :: list) := by
  induction list with
  | nil => exact .refl _
  | cons head rest ih =>
    simp only [insertStable]
    split_ifs
    · exact (ih.cons head).trans (.swap ..)
    · exact .refl _

/-- An event with the newest sequence number keeps the leaving order. -/
theorem insertStable_ordered {new : ScheduledEvent E} {events : List (ScheduledEvent E)}
    (ordered : events.Pairwise Before) (newest : ∀ event ∈ events, event.sequence < new.sequence) :
    (insertStable (·.time) new events).Pairwise Before := by
  induction events with
  | nil => simp [insertStable]
  | cons head rest ih =>
    obtain ⟨above,tail⟩ := List.pairwise_cons.mp ordered
    simp only [insertStable]
    split_ifs with notLater
    · refine List.pairwise_cons.mpr ⟨?_,ih tail fun event member => newest event (List.mem_cons_of_mem _ member)⟩
      intro event member
      rcases List.mem_cons.mp ((insertStable_perm _ _ _).mem_iff.mp member) with rfl | old
      · rcases lt_or_eq_of_le notLater with earlier | same
        · exact .inl earlier
        · exact .inr ⟨same,newest head List.mem_cons_self⟩
      · exact above event old
    · refine List.pairwise_cons.mpr ⟨?_,ordered⟩
      have later : new.time < head.time := not_le.mp notLater
      intro event member
      rcases List.mem_cons.mp member with rfl | old
      · exact .inl later
      · rcases above event old with after | ⟨same,-⟩
        · exact .inl (later.trans after)
        · exact .inl (same ▸ later)

theorem default_refines : Refines (EventQueue.default heap) Reference.empty [] where
  contents := heap.contents_empty
  ordered := List.Pairwise.nil
  counted _ member := absurd member List.not_mem_nil
  future _ member := absurd member List.not_mem_nil
  now := rfl
  insertions := rfl
  pending := rfl

/-- What one call does: it agrees with the reference, what it accepts is either
    returned or pending, time and counter do not decrease, and a failed call
    changes nothing. -/
structure StepCorrect (queue : EventQueue heap) (events : List (ScheduledEvent E)) (call : Trace heap)
    (expected : Outcome E × Reference E) (after : List (ScheduledEvent E)) : Prop where
  refines : Refines call.queue expected.2 after
  outcomes : call.outcomes = [expected.1]
  conserved : (events ++ call.accepted).Perm (call.returned ++ after)
  clock : queue.now ≤ call.queue.now
  counter : queue.next_sequence ≤ call.queue.next_sequence
  fresh : ∀ event ∈ call.accepted, queue.next_sequence ≤ event.sequence ∧ event.sequence < call.queue.next_sequence
  single : call.accepted.length ≤ 1
  atomic : expected.1.Failed → call.queue = queue

variable {queue : EventQueue heap} {reference : Reference E} {events : List (ScheduledEvent E)}

/-- A call that changes nothing and reports the same as the reference. -/
private theorem unchanged_correct (refines : Refines queue reference events) (outcome : Outcome E) :
    StepCorrect queue events ⟨queue,[outcome],[],[]⟩ (outcome,reference) events where
  refines := refines
  outcomes := rfl
  conserved := by simp
  clock := le_refl _
  counter := le_refl _
  fresh _ member := absurd member List.not_mem_nil
  single := by simp
  atomic _ := rfl

theorem schedule_at_correct (refines : Refines queue reference events) (time : SimTime) (event : E) :
    ∃ after, StepCorrect queue events
      ⟨(queue.schedule_at time event).2,[.done (queue.schedule_at time event).1],
        acceptedEvent queue time event (queue.schedule_at time event).1,[]⟩
      ((reference.insert time event).map .done id) after := by
  unfold EventQueue.schedule_at Reference.insert
  rw [refines.now,refines.insertions]
  by_cases past : time < queue.now
  · exact ⟨events,by simpa [past,acceptedEvent] using unchanged_correct refines (.done (.error .Past))⟩
  · by_cases last : queue.next_sequence.toNat + 1 = 2 ^ 64
    · refine ⟨events,?_⟩
      have overflow : checkedAdd64 queue.next_sequence 1 = none := by simp [checkedAdd64,last]
      simpa [past,last,overflow,acceptedEvent] using unchanged_correct refines (.done (.error .Overflow))
    · have bound := queue.next_sequence.toNat_lt
      have next : checkedAdd64 queue.next_sequence 1 = some (queue.next_sequence + 1) := by
        simp [checkedAdd64]; omega
      have greater : queue.next_sequence < queue.next_sequence + 1 := by
        rw [UInt64.lt_iff_toNat_lt,checkedAdd64_eq_some next]; simp
      let new : ScheduledEvent E := ⟨time,event,queue.next_sequence⟩
      have perm := insertStable_perm (·.time) new events
      refine ⟨insertStable (·.time) new events,?_⟩
      simp only [past,last,next,if_false,acceptedEvent,Prod.map,id]
      refine ⟨⟨?_,insertStable_ordered refines.ordered refines.counted,?_,?_,rfl,rfl,?_⟩,rfl,?_,le_refl _,greater.le,?_,by simp,by
        simp [Outcome.Failed]⟩
      · show heap.contents (heap.push new queue.pending) = _
        rw [heap.contents_push,refines.contents]
        exact (Multiset.coe_eq_coe.mpr perm).symm
      · intro other member
        rcases List.mem_cons.mp (perm.mem_iff.mp member) with rfl | old
        · exact greater
        · exact (refines.counted other old).trans greater
      · intro other member
        rcases List.mem_cons.mp (perm.mem_iff.mp member) with rfl | old
        · exact not_lt.mp past
        · exact refines.future other old
      · rw [refines.pending]
        exact (insertStable_map (fun event : ScheduledEvent E => (event.time,event.event)) (·.1) new events).symm
      · simpa using (perm.trans (List.perm_append_singleton new events).symm).symm
      · intro other member
        rw [List.mem_singleton.mp member]
        exact ⟨le_refl _,greater⟩

theorem schedule_after_correct (refines : Refines queue reference events) (delay_ms : UInt64) (event : E) :
    ∃ after, StepCorrect queue events (queue.apply (.schedule_after delay_ms event))
      (reference.apply (.schedule_after delay_ms event)) after := by
  simp only [EventQueue.apply,EventQueue.schedule_after,Reference.apply,refines.now]
  by_cases product : delay_ms.toNat * 1000 < 2 ^ 64
  · have scaled : checkedMul64 delay_ms 1000 = some (delay_ms * 1000) := by simp [checkedMul64]; omega
    have value : (delay_ms * 1000).toNat = delay_ms.toNat * 1000 := by
      rw [UInt64.toNat_mul]; exact Nat.mod_eq_of_lt product
    by_cases sum : queue.now.toNat + delay_ms.toNat * 1000 < 2 ^ 64
    · have shifted : checkedAdd64 queue.now (delay_ms * 1000) = some (queue.now + delay_ms * 1000) := by
        simp [checkedAdd64,value]; omega
      have fits : ¬ 2 ^ 64 ≤ queue.now.toNat + delay_ms.toNat * 1000 := by omega
      simpa only [scaled,shifted,fits,if_false] using
        schedule_at_correct refines (queue.now + delay_ms * 1000) event
    · have shifted : checkedAdd64 queue.now (delay_ms * 1000) = none := by simp [checkedAdd64,value]; omega
      refine ⟨events,?_⟩
      simpa only [scaled,shifted,not_lt.mp sum,if_true,acceptedEvent] using unchanged_correct refines (.done (.error .Overflow))
  · have scaled : checkedMul64 delay_ms 1000 = none := by simp [checkedMul64]; omega
    have large : 2 ^ 64 ≤ queue.now.toNat + delay_ms.toNat * 1000 := by omega
    refine ⟨events,?_⟩
    simpa only [scaled,large,if_true,acceptedEvent] using unchanged_correct refines (.done (.error .Overflow))

/-- The popped event is the first one in leaving order. -/
theorem pop_first (refines : Refines queue reference events) {event : ScheduledEvent E} {rest : heap.Carrier}
    (popped : heap.pop queue.pending = some (event,rest)) :
    ∃ tail, events = event :: tail ∧ heap.contents rest = ↑tail := by
  obtain ⟨taken,greatest⟩ := heap.pop_some _ _ _ popped
  rw [refines.contents] at taken
  cases events with
  | nil => exact absurd taken.symm Multiset.cons_ne_zero
  | cons head tail =>
    have same : event = head := by
      by_contra other
      have inTail : event ∈ tail := by
        have member : event ∈ ((head :: tail : List (ScheduledEvent E)) : Multiset _) := taken ▸ Multiset.mem_cons_self ..
        exact (List.mem_cons.mp (Multiset.mem_coe.mp member)).resolve_left other
      have headLeft : head ∈ heap.contents rest := by
        have member : head ∈ event ::ₘ heap.contents rest := taken ▸ Multiset.mem_coe.mpr List.mem_cons_self
        exact (Multiset.mem_cons.mp member).resolve_left (Ne.symm other)
      exact greatest head headLeft (cmp_gt_of_before ((List.pairwise_cons.mp refines.ordered).1 event inTail))
    subst same
    rw [← Multiset.cons_coe] at taken
    exact ⟨tail,rfl,((Multiset.cons_inj_right _).mp taken).symm⟩

theorem step_correct (refines : Refines queue reference events) :
    ∃ after, StepCorrect queue events (queue.apply .step) (reference.apply .step) after := by
  simp only [EventQueue.apply,EventQueue.step,Reference.apply,refines.pending]
  cases popped : heap.pop queue.pending with
  | none =>
    have none := heap.pop_none _ popped
    rw [refines.contents,Multiset.coe_eq_zero] at none
    subst none
    exact ⟨[],by simpa using unchanged_correct refines (.popped none)⟩
  | some result =>
    obtain ⟨event,rest⟩ := result
    obtain ⟨tail,rfl,remaining⟩ := pop_first refines popped
    obtain ⟨above,ordered⟩ := List.pairwise_cons.mp refines.ordered
    have future := refines.future event List.mem_cons_self
    refine ⟨tail,⟨⟨remaining,ordered,?_,?_,rfl,refines.insertions,rfl⟩,rfl,by simp,future,le_refl _,?_,by simp,by
      simp [Outcome.Failed]⟩⟩
    · exact fun other member => refines.counted other (List.mem_cons_of_mem _ member)
    · intro other member
      rcases above other member with later | ⟨same,-⟩
      · exact later.le
      · exact same.le
    · exact fun other member => absurd member List.not_mem_nil

/-- The next timestamp is the time of the first event in leaving order. -/
theorem next_time_eq (refines : Refines queue reference events) :
    queue.next_time = (events.head?).map (·.time) := by
  unfold EventQueue.next_time
  cases peeked : heap.peek queue.pending with
  | none =>
    have none := heap.peek_none _ peeked
    rw [refines.contents,Multiset.coe_eq_zero] at none
    simp [none]
  | some event =>
    obtain ⟨member,greatest⟩ := heap.peek_some _ _ peeked
    rw [refines.contents,Multiset.mem_coe] at member
    cases events with
    | nil => cases member
    | cons head tail =>
      have same : event = head := by
        rcases List.mem_cons.mp member with same | inTail
        · exact same
        · have headMember : head ∈ heap.contents queue.pending := by rw [refines.contents]; simp
          exact absurd (cmp_gt_of_before ((List.pairwise_cons.mp refines.ordered).1 event inTail)) (greatest head headMember)
      simp [same]

theorem advance_to_correct (refines : Refines queue reference events) (time : SimTime) :
    ∃ after, StepCorrect queue events (queue.apply (.advance_to time)) (reference.apply (.advance_to time)) after := by
  have blocked : reference.pending.any (fun event => event.1 ≤ time) = queue.next_time.any (· ≤ time) := by
    rw [refines.pending,next_time_eq refines]
    cases events with
    | nil => rfl
    | cons head tail =>
      have later : tail.any (fun event => event.time ≤ time) = true → head.time ≤ time := by
        intro found
        obtain ⟨event,member,due⟩ := List.any_eq_true.mp found
        rcases (List.pairwise_cons.mp refines.ordered).1 event member with earlier | ⟨same,-⟩
        · exact earlier.le.trans (of_decide_eq_true due)
        · exact same.le.trans (of_decide_eq_true due)
      by_cases due : head.time ≤ time
      · simp [due]
      · have none := mt later due
        simp only [Bool.not_eq_true] at none
        simpa [due] using none
  refine ⟨events,?_⟩
  simp only [EventQueue.apply,EventQueue.advance_to,Reference.apply,refines.now,blocked]
  by_cases past : time < queue.now
  · simpa [past] using unchanged_correct refines (.done (.error .Past))
  · by_cases due : queue.next_time.any (· ≤ time) = true
    · simpa [past,due] using unchanged_correct refines (.done (.error .PendingEvent))
    · simp only [past,due,if_false]
      have idle : ∀ event ∈ events, time ≤ event.time := by
        rw [← blocked,refines.pending] at due
        intro event member
        by_contra early
        exact due (List.any_eq_true.mpr ⟨_,List.mem_map_of_mem member,decide_eq_true (not_le.mp early).le⟩)
      refine ⟨⟨refines.contents,refines.ordered,refines.counted,idle,rfl,refines.insertions,refines.pending⟩,rfl,by simp,
        not_lt.mp past,le_refl _,fun other member => absurd member List.not_mem_nil,by simp,by simp [Outcome.Failed]⟩

/-! ### The events after one call -/

/-- An event put at its place stands behind those that are not later. -/
theorem insertStable_split {α : Type u} {time : α → SimTime} {list : List α}
    (sorted : list.Pairwise (fun a b => time a ≤ time b))
    (new : α) : ∃ front back, list = front ++ back ∧ insertStable time new list = front ++ new :: back ∧
      ∀ b ∈ back, time new < time b := by
  induction list with
  | nil => exact ⟨[],[],rfl,rfl,by simp⟩
  | cons head rest ih =>
    obtain ⟨above,tail⟩ := List.pairwise_cons.mp sorted
    simp only [insertStable]
    by_cases notLater : time head ≤ time new
    · obtain ⟨front,back,split,placed,later⟩ := ih tail
      rw [if_pos notLater]
      exact ⟨head :: front,back,by rw [split]; rfl,by rw [placed]; rfl,later⟩
    · rw [if_neg notLater]
      have late : time new < time head := not_le.mp notLater
      refine ⟨[],head :: rest,rfl,rfl,?_⟩
      intro b member
      rcases List.mem_cons.mp member with rfl | behind
      · exact late
      · exact late.trans_le (above b behind)

/-- Two lists in leaving order with the same events are equal. -/
theorem eq_of_ordered {first second : List (ScheduledEvent E)} (perm : first.Perm second) (one : first.Pairwise Before)
    (other : second.Pairwise Before) : first = second := by
  refine perm.eq_of_pairwise (fun a b _ _ before behind => ?_) one other
  rcases before with less | ⟨same,less⟩
  · rcases behind with greater | ⟨same,_⟩
    · exact absurd (less.trans greater) (lt_irrefl _)
    · exact absurd (same ▸ less) (lt_irrefl _)
  · rcases behind with greater | ⟨_,greater⟩
    · exact absurd (same ▸ greater) (lt_irrefl _)
    · exact absurd (less.trans greater) (lt_irrefl _)

theorem Refines.sorted (refines : Refines queue reference events) : events.Pairwise (fun a b => a.time ≤ b.time) :=
  refines.ordered.imp (fun before => before.elim le_of_lt (fun same => same.1.le))

/-- An accepted event is put at its place, with the counter as its number. -/
theorem schedule_at_accepted (refines : Refines queue reference events) {time : SimTime} {event : E}
    (accepted : (queue.schedule_at time event).1 = .ok ()) :
    (∃ reference', Refines (queue.schedule_at time event).2 reference'
      (insertStable (·.time) ⟨time,event,queue.next_sequence⟩ events)) ∧
      (queue.schedule_at time event).2.next_sequence.toNat = queue.next_sequence.toNat + 1 := by
  obtain ⟨after,correct⟩ := schedule_at_correct refines time event
  let new : ScheduledEvent E := ⟨time,event,queue.next_sequence⟩
  have perm : after.Perm (insertStable (·.time) new events) := by
    have conserved := correct.conserved
    rw [accepted] at conserved
    exact (conserved.symm.trans (List.perm_append_singleton new events)).trans (insertStable_perm _ new events).symm
  have same := eq_of_ordered perm correct.refines.ordered (insertStable_ordered refines.ordered refines.counted)
  refine ⟨⟨_,same ▸ correct.refines⟩,?_⟩
  unfold EventQueue.schedule_at at accepted ⊢
  by_cases past : time < queue.now
  · simp [past] at accepted
  · cases next : checkedAdd64 queue.next_sequence 1 with
    | none => simp [past,next] at accepted
    | some sequence =>
      simp only [past,if_false]
      exact checkedAdd64_eq_some next

/-- A refused event leaves the queue as it was; one that is not in the past is refused only when the counter is exhausted. -/
theorem schedule_at_refused {time : SimTime} {event : E} {error : ScheduleError}
    (refused : (queue.schedule_at time event).1 = .error error) :
    (queue.schedule_at time event).2 = queue ∧ (queue.now ≤ time → 2 ^ 64 ≤ queue.next_sequence.toNat + 1) := by
  unfold EventQueue.schedule_at at refused ⊢
  by_cases past : time < queue.now
  · rw [if_pos past]
    exact ⟨rfl,fun future => absurd past (not_lt.mpr future)⟩
  · cases next : checkedAdd64 queue.next_sequence 1 with
    | some sequence => simp [past,next] at refused
    | none =>
      simp only [past,if_false]
      refine ⟨trivial,fun _ => ?_⟩
      unfold checkedAdd64 at next
      split at next
      · cases next
      · rename_i large
        exact not_lt.mp large

/-- A relative call is an absolute one, or fails before it. -/
theorem schedule_after_cases (queue : EventQueue heap) (delay_ms : UInt64) (event : E) :
    queue.schedule_after delay_ms event = (.error .Overflow,queue) ∨
      ∃ time, queue.schedule_after delay_ms event = queue.schedule_at time event := by
  unfold EventQueue.schedule_after
  cases checkedMul64 delay_ms 1000 with
  | none => exact .inl rfl
  | some delay =>
    cases sum : checkedAdd64 queue.now delay with
    | none => left; simp [sum]
    | some time => exact .inr ⟨time,by simp [sum]⟩

/-- Idle time leaves the events as they are. -/
theorem advance_to_refines (refines : Refines queue reference events) (time : SimTime) :
    (∃ reference', Refines (queue.advance_to time).2 reference' events) ∧
      (queue.advance_to time).2.next_sequence = queue.next_sequence := by
  constructor
  · obtain ⟨after,correct⟩ := advance_to_correct refines time
    have perm : events.Perm after := by simpa [EventQueue.apply] using correct.conserved
    have same := eq_of_ordered perm refines.ordered correct.refines.ordered
    exact ⟨_,same ▸ correct.refines⟩
  · unfold EventQueue.advance_to
    by_cases past : time < queue.now
    · rw [if_pos past]
    · rw [if_neg past]
      by_cases due : queue.next_time.any (· ≤ time) = true
      · rw [if_pos due]
      · rw [if_neg due]

/-- What is popped is the first event, and the others remain. -/
theorem step_popped (refines : Refines queue reference events) {event : ScheduledEvent E} {after : EventQueue heap}
    (popped : queue.step = (some event,after)) :
    ∃ rest reference', events = event :: rest ∧ Refines after reference' rest ∧ after.next_sequence = queue.next_sequence ∧
      after.now = event.time := by
  unfold EventQueue.step at popped
  cases taken : heap.pop queue.pending with
  | none => simp [taken] at popped
  | some result =>
    obtain ⟨first,pending⟩ := result
    rw [taken] at popped
    obtain ⟨same,rfl⟩ := Prod.mk.inj popped
    obtain rfl := Option.some.inj same
    obtain ⟨tail,rfl,remaining⟩ := pop_first refines taken
    obtain ⟨above,ordered⟩ := List.pairwise_cons.mp refines.ordered
    refine ⟨tail,⟨first.time,reference.insertions,tail.map (fun event => (event.time,event.event))⟩,rfl,
      ⟨remaining,ordered,?_,?_,rfl,refines.insertions,rfl⟩,rfl,rfl⟩
    · exact fun other member => refines.counted other (List.mem_cons_of_mem _ member)
    · intro other member
      exact (above other member).elim le_of_lt (fun same => same.1.le)

theorem apply_correct (refines : Refines queue reference events) (operation : Operation E) :
    ∃ after, StepCorrect queue events (queue.apply operation) (reference.apply operation) after := by
  cases operation with
  | schedule_at time event => exact schedule_at_correct refines time event
  | schedule_after delay_ms event => exact schedule_after_correct refines delay_ms event
  | step => exact step_correct refines
  | advance_to time => exact advance_to_correct refines time

/-- What a whole run does from a queue that refines a reference. -/
theorem run_correct (refines : Refines queue reference events) (operations : List (Operation E)) :
    ∃ after final, Refines (queue.run operations).queue final after ∧
      (queue.run operations).outcomes = reference.run operations ∧
      (events ++ (queue.run operations).accepted).Perm ((queue.run operations).returned ++ after) ∧
      (∀ event ∈ (queue.run operations).accepted, queue.next_sequence ≤ event.sequence) ∧
      ((queue.run operations).accepted.map (·.sequence)).Nodup := by
  induction operations generalizing queue reference events with
  | nil => exact ⟨events,reference,refines,rfl,by simp [EventQueue.run],by simp [EventQueue.run],by simp [EventQueue.run]⟩
  | cons operation rest ih =>
    obtain ⟨middle,first⟩ := apply_correct refines operation
    obtain ⟨after,final,refinesAfter,outcomes,conserved,fresh,distinct⟩ := ih first.refines
    refine ⟨after,final,refinesAfter,?_,?_,?_,?_⟩
    · simp [EventQueue.run,Reference.run,first.outcomes,outcomes]
    · -- what the first call leaves pending is what the rest of the run starts from
      have started := first.conserved.append_right ((queue.apply operation).queue.run rest).accepted
      have finished := conserved.append_left (queue.apply operation).returned
      simp only [List.append_assoc] at started finished
      simpa only [EventQueue.run,List.append_assoc] using started.trans finished
    · intro event member
      rcases List.mem_append.mp member with now | later
      · exact (first.fresh event now).1
      · exact first.counter.trans (fresh event later)
    · simp only [EventQueue.run,List.map_append]
      refine List.nodup_append.mpr ⟨?_,distinct,?_⟩
      · match (queue.apply operation).accepted,first.single with
        | [],_ => simp
        | [_],_ => simp
      · intro a early b late same
        obtain ⟨x,inFirst,rfl⟩ := List.mem_map.mp early
        obtain ⟨y,inRest,rfl⟩ := List.mem_map.mp late
        have below := (first.fresh x inFirst).2
        have above := fresh y inRest
        exact absurd (same ▸ below) (not_lt.mpr above)

/-- Over every heap that pops a maximal element, every run of calls reports
    what the sorted reference list reports; each accepted event has its own
    sequence number and is either returned once or still pending; no pending
    event lies in the past; and no call turns the clock back, nor does a call
    that reports an error change the queue. -/
theorem event_queue_stable_time_order (heap : MaxHeap (ScheduledEvent E) ScheduledEvent.cmp)
    (operations : List (Operation E)) :
    let trace := (EventQueue.default heap).run operations
    trace.outcomes = Reference.empty.run operations ∧
      (trace.accepted : Multiset (ScheduledEvent E)) = trace.returned + heap.contents trace.queue.pending ∧
      (trace.accepted.map (·.sequence)).Nodup ∧
      (∀ event ∈ heap.contents trace.queue.pending, trace.queue.now ≤ event.time) ∧
      ∀ operation, trace.queue.now ≤ (trace.queue.apply operation).queue.now ∧
        ∀ outcome ∈ (trace.queue.apply operation).outcomes, outcome.Failed →
          (trace.queue.apply operation).queue = trace.queue := by
  intro trace
  obtain ⟨after,final,refines,outcomes,conserved,-,distinct⟩ := run_correct (@default_refines _ heap) operations
  refine ⟨outcomes,?_,distinct,?_,?_⟩
  · rw [refines.contents,Multiset.coe_add]
    exact Multiset.coe_eq_coe.mpr (by simpa using conserved)
  · intro event member
    rw [refines.contents] at member
    exact refines.future event (Multiset.mem_coe.mp member)
  · intro operation
    obtain ⟨_,call⟩ := apply_correct refines operation
    refine ⟨call.clock,fun outcome member failed => ?_⟩
    rw [call.outcomes,List.mem_singleton] at member
    exact call.atomic (member ▸ failed)

end Rios.Queue
