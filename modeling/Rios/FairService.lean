import Rios.Qos
import Rios.SelfClocked

/-!
# Weighted fair service

The scheduler's queues as a self-clocked clock, and the fairness that follows:
over a stretch in which two ordinary classes are never empty, their bytes over
their weights differ by at most one frame of each and the rounding, as long as
no finish tag saturates. A run whose tags do saturate shows why.
-/

namespace Rios.FairService
open Rios.Qos Rios.SelfClocked
open Rios.Queue (SimTime)

universe u
variable {T : Type u}

/-- One call on a scheduler. -/
inductive Operation (T : Type u) where
  | enqueue (index : Nat) (now : SimTime) (packet : T) (bytes : UInt64) (in_flight : Nat)
  | dequeue_ready (now : SimTime)

/-- One call: the packets that leave, and the scheduler after it. -/
def apply (s : QosScheduler T) : Operation T → List (QosDeparture T) × QosScheduler T
  | .enqueue index now packet bytes in_flight => ([],(s.enqueue index now packet bytes in_flight).2)
  | .dequeue_ready now => ((s.dequeue_ready now).1.toList,(s.dequeue_ready now).2)

/-- A run of calls: the packets that leave, in order, and the scheduler after it. -/
def run (s : QosScheduler T) : List (Operation T) → List (QosDeparture T) × QosScheduler T
  | [] => ([],s)
  | operation :: rest =>
    let (first,next) := apply s operation
    let (later,last) := run next rest
    (first ++ later,last)

/-- An accepted frame's finish tag does not saturate. -/
def Unsaturated (s : QosScheduler T) : Operation T → Prop
  | .enqueue index now packet bytes in_flight =>
    (s.enqueue index now packet bytes in_flight).1 = .ok () →
      ∀ c ∈ s.reset_idle.classes[index]?, s.reset_idle.tag_of c bytes ≤ maxTag
  | .dequeue_ready _ => True

/-- No finish tag saturates along a run. -/
def RunUnsaturated (s : QosScheduler T) : List (Operation T) → Prop
  | [] => True
  | operation :: rest => Unsaturated s operation ∧ RunUnsaturated (apply s operation).2 rest

/-- A class has packets waiting. -/
def Backlogged (s : QosScheduler T) (k : Nat) : Prop := ∃ c ∈ s.classes[k]?, c.packets ≠ []

/-- A class has packets waiting at every point of a run. -/
def RunBacklogged (s : QosScheduler T) (k : Nat) : List (Operation T) → Prop
  | [] => Backlogged s k
  | operation :: rest => Backlogged s k ∧ RunBacklogged (apply s operation).2 k rest

/-- A class with neither priority nor shaping. -/
def Ordinary (configs : List QueueClassConfig) (k : Nat) : Prop :=
  ∃ config ∈ configs[k]?, config.priority = none ∧ config.shape = none

/-- No frame offered to the scheduler is longer than `L`. -/
def NoLonger (L : Nat) : Operation T → Prop
  | .enqueue _ _ _ bytes _ => bytes.toNat ≤ L
  | .dequeue_ready _ => True

/-- The bytes of a class that left. -/
def sentBytes (k : Nat) (departures : List (QosDeparture T)) : Nat :=
  ((departures.filter (·.class = k)).map (·.bytes.toNat)).sum
/-- The frames of a class that left. -/
def sentFrames (k : Nat) (departures : List (QosDeparture T)) : Nat := (departures.filter (·.class = k)).length

/-! ### Classes as the fairness argument sees them -/

/-- What the finish tags of a class depend on. -/
structure View (T : Type u) where
  config : QueueClassConfig
  priority : Bool
  shape : Bool
  packets : List (Queued T)
  last_finish : Nat

def view (c : QosClass T) : View T := ⟨c.config,c.priority.isSome,c.shape.isSome,c.packets,c.last_finish⟩

def views (s : QosScheduler T) : List (View T) := s.classes.map view

/-- The service of a number of bytes under a class configuration. -/
def frameService (config : QueueClassConfig) (bytes : Nat) : Nat := div_ceil (bytes * 1000000000000) config.weight.toNat

/-- The tags of a class; priority classes do not take part in the clock. -/
def View.tags (v : View T) : List Tag :=
  if v.priority then [] else v.packets.map (fun packet => ⟨frameService v.config packet.bytes.toNat,packet.finish⟩)
/-- The last tag that a class gave out. -/
def View.lastTag (v : View T) : Nat := if v.priority then 0 else v.last_finish

def clockOf (virtual : Nat) (classes : List (View T)) : Clock Nat where
  virtual := virtual
  queue k := (classes[k]?).elim [] View.tags
  last k := (classes[k]?).elim 0 View.lastTag

/-- The clock of a scheduler. -/
def clock (s : QosScheduler T) : Clock Nat := clockOf s.virtual_time (views s)

/-- The buckets are those of the configuration, and the length counts the queues. -/
structure WellFormed (configs : List QueueClassConfig) (s : QosScheduler T) : Prop where
  configured : (views s).map (·.config) = configs
  priority : ∀ v ∈ views s, v.priority = v.config.priority.isSome
  shape : ∀ v ∈ views s, v.shape = v.config.shape.isSome
  counted : s.length = ((views s).map (·.packets.length)).sum

theorem refuses_isSome (bucket : Option TokenBucket) (now : SimTime) (bytes : UInt64) :
    (QosClass.refuses bucket now bytes).2.isSome = bucket.isSome := by
  cases bucket with
  | none => rfl
  | some bucket => rw [QosClass.refuses,Option.isSome_some,Option.isSome_some]

/-- Admission checks leave tags and packets alone. -/
theorem view_admission (c : QosClass T) (now : SimTime) (bytes : UInt64) (congested full : Bool) :
    view (c.admission now bytes congested full).2 = view c := by
  unfold QosClass.admission view
  simp only
  split_ifs <;> simp [refuses_isSome]

theorem view_eligible_head (c : QosClass T) (now : SimTime) : view (c.eligible_head now).2 = view c := by
  unfold QosClass.eligible_head
  split
  · rfl
  · split
    · rfl
    · rename_i bucket shaped
      simp [view,shaped]

theorem view_transmit (c : QosClass T) (now : SimTime) (packet : Queued T) (packets : List (Queued T)) :
    view (c.transmit now packet packets) = { view c with packets } := by
  simp [view,QosClass.transmit]

variable {c : QosClass T}

/-- An unshaped head is always eligible. -/
theorem eligible_head_unshaped (unshaped : c.shape = none) (now : SimTime) :
    (c.eligible_head now).1 = c.packets.head? := by
  unfold QosClass.eligible_head
  cases c.packets with
  | nil => rfl
  | cons packet packets => simp [unshaped]

/-- An eligible packet is the head of its queue. -/
theorem eligible_head_some {now : SimTime} {packet : Queued T} (eligible : (c.eligible_head now).1 = some packet) :
    c.packets.head? = some packet := by
  unfold QosClass.eligible_head at eligible
  cases queued : c.packets with
  | nil => simp [queued] at eligible
  | cons head tail =>
    simp only [queued] at eligible
    cases shaped : c.shape with
    | none => simpa [shaped] using eligible
    | some bucket =>
      simp only [shaped] at eligible
      split_ifs at eligible
      simpa using eligible

/-! ### What one call does -/

/-- `enqueue` either changes no packets or tags, or appends one tagged frame. -/
theorem enqueue_cases (s : QosScheduler T) (index : Nat) (now : SimTime) (packet : T) (bytes : UInt64) (in_flight : Nat) :
    let s0 := s.reset_idle
    let result := s.enqueue index now packet bytes in_flight
    result.2.virtual_time = s0.virtual_time ∧
      ((views result.2 = views s0 ∧ result.2.length = s0.length) ∨
        ∃ c, s0.classes[index]? = some c ∧ result.1 = .ok () ∧ result.2.length = s0.length + 1 ∧
          views result.2 = (views s0).set index { view c with
            packets := c.packets ++ [⟨packet,bytes,min (s0.tag_of c bytes) maxTag⟩]
            last_finish := min (s0.tag_of c bytes) maxTag }) := by
  intro s0 result
  have unfolded : result = s.enqueue index now packet bytes in_flight := rfl
  simp only [QosScheduler.enqueue] at unfolded
  cases found : s0.classes[index]? with
  | none =>
    rw [show s.reset_idle = s0 from rfl,found] at unfolded
    simp [unfolded,views]
  | some c =>
    rw [show s.reset_idle = s0 from rfl,found] at unfolded
    simp only at unfolded
    have kept := view_admission c now bytes (decide (0 < s0.length) || decide (0 < in_flight))
      (decide (s0.capacity ≤ s0.length + in_flight))
    have same : (views s0).set index (view c) = views s0 := by
      have viewed : (views s0)[index]? = some (view c) := by simp [views,found]
      exact List.ext_getElem? fun k => by
        by_cases here : index = k
        · subst here
          obtain ⟨inside,value⟩ := List.getElem?_eq_some_iff.mp viewed
          simp [inside,value]
        · simp [here]
    generalize c.admission now bytes _ _ = admitted at unfolded kept
    obtain ⟨reason,admittedClass⟩ := admitted
    simp only at kept
    cases reason with
    | some reason =>
      rw [unfolded]
      refine ⟨rfl,.inl ⟨?_,rfl⟩⟩
      simp only [views,List.map_set,kept]
      exact same
    | none =>
      have config : admittedClass.config = c.config := congrArg View.config kept
      have packets : admittedClass.packets = c.packets := congrArg View.packets kept
      have last : admittedClass.last_finish = c.last_finish := congrArg View.last_finish kept
      have tag : s0.tag_of admittedClass bytes = s0.tag_of c bytes := by
        simp [QosScheduler.tag_of,QosClass.service,config,last]
      rw [unfolded]
      refine ⟨rfl,.inr ⟨c,rfl,rfl,rfl,?_⟩⟩
      simp only [views,List.map_set,tag,packets]
      rw [← kept]
      rfl

/-- `dequeue_ready` either changes no packets or tags, or takes the head of a
    class that no unshaped head precedes. -/
theorem dequeue_cases (s : QosScheduler T) (now : SimTime) :
    let result := s.dequeue_ready now
    (result.1 = none ∧ views result.2 = views s ∧ result.2.length = s.length ∧ result.2.virtual_time = s.virtual_time) ∨
      ∃ (index : Nat) (c : QosClass T) (packet : Queued T) (packets : List (Queued T)),
        s.classes[index]? = some c ∧ c.packets = packet :: packets ∧
        (∀ (i : Nat) (d : QosClass T) (head : Queued T), s.classes[i]? = some d → d.shape = none → d.packets.head? = some head →
          c.selection_key packet index ≤ d.selection_key head i) ∧
        result.1 = some (QosDeparture.mk index packet.bytes packet.packet) ∧ result.2.length = s.length - 1 ∧
        result.2.virtual_time = (if c.priority.isNone then max s.virtual_time packet.finish else s.virtual_time) ∧
        views result.2 = (views s).set index { view c with packets } := by
  intro result
  have refreshed : ∀ i : Nat, (s.classes.map (fun c => (c.eligible_head now).2))[i]? =
      (s.classes[i]?).map (fun c : QosClass T => (c.eligible_head now).2) := fun i => List.getElem?_map ..
  have kept : (s.classes.map (fun c => (c.eligible_head now).2)).map view = views s := by
    simp [views,view_eligible_head]
  have unfolded : result = s.dequeue_ready now := rfl
  simp only [QosScheduler.dequeue_ready] at unfolded
  cases least : (s.candidates now).argmin (·.1) with
  | none =>
    rw [least] at unfolded
    exact .inl (by rw [unfolded]; exact ⟨rfl,kept,rfl,rfl⟩)
  | some candidate =>
    have member := List.argmin_mem least
    obtain ⟨⟨c,index⟩,found,eligible⟩ := List.mem_filterMap.mp member
    have atIndex : s.classes[index]? = some c := by simpa using List.mem_zipIdx_iff_getElem?.mp found
    obtain ⟨packet,isEligible,rfl⟩ := Option.map_eq_some_iff.mp eligible
    have head := eligible_head_some isEligible
    obtain ⟨packets,queued⟩ : ∃ packets, c.packets = packet :: packets := by
      cases q : c.packets with
      | nil => simp [q] at head
      | cons first rest => rw [q] at head; cases head; exact ⟨rest,rfl⟩
    have viewed := view_eligible_head c now
    have queuedAfter : (c.eligible_head now).2.packets = packet :: packets := (congrArg View.packets viewed).trans queued
    have priorityAfter : (c.eligible_head now).2.priority.isNone = c.priority.isNone := by
      have := congrArg View.priority viewed
      simpa [view,← Option.not_isSome] using this
    rw [least] at unfolded
    simp only [Option.map_some,Option.bind_some,refreshed,atIndex,queuedAfter,priorityAfter] at unfolded
    refine .inr ⟨index,c,packet,packets,atIndex,queued,?_,by rw [unfolded],by rw [unfolded],by rw [unfolded],?_⟩
    · intro i d other foundOther unshaped isHead
      have competes : (d.selection_key other i,i) ∈ s.candidates now := by
        refine List.mem_filterMap.mpr ⟨(d,i),List.mem_zipIdx_iff_getElem?.mpr (by simpa using foundOther),?_⟩
        rw [eligible_head_unshaped unshaped,isHead]
        rfl
      exact List.le_of_mem_argmin competes least
    · rw [unfolded]
      simp only [views,List.map_set,view_transmit]
      rw [kept,viewed]
      rfl

/-! ### The clock follows the scheduler -/

variable {k : Nat}

theorem clockOf_set {virtual : Nat} {classes : List (View T)} {old : View T} (found : classes[k]? = some old)
    (new : View T) : clockOf virtual (classes.set k new) =
      ⟨virtual,Function.update (clockOf virtual classes).queue k new.tags,
        Function.update (clockOf virtual classes).last k new.lastTag⟩ := by
  obtain ⟨inside,-⟩ := List.getElem?_eq_some_iff.mp found
  have lookup : ∀ i, (classes.set k new)[i]? = if i = k then some new else classes[i]? := by
    intro i
    by_cases same : i = k
    · subst same; simp [inside]
    · simp [same,Ne.symm same]
  refine Clock.ext rfl ?_ ?_
  · funext i
    by_cases same : i = k <;> simp [clockOf,lookup,Function.update_apply,same]
  · funext i
    by_cases same : i = k <;> simp [clockOf,lookup,Function.update_apply,same]

/-- No job of an ordinary class exceeds the service of the longest frame. -/
def bound (configs : List QueueClassConfig) (L k : Nat) : Nat := (configs[k]?).elim 0 (fun config => frameService config L)

theorem div_ceil_mono {a b : Nat} (le : a ≤ b) (d : Nat) : div_ceil a d ≤ div_ceil b d := by
  unfold div_ceil
  rcases Nat.eq_zero_or_pos d with rfl | positive
  · simp; split_ifs <;> omega
  · have quotient : a / d ≤ b / d := Nat.div_le_div_right le
    have first := Nat.div_add_mod a d
    have second := Nat.div_add_mod b d
    split_ifs with zeroA zeroB zeroB
    · omega
    · omega
    · -- equal quotients would leave `a` with a remainder above that of `b`
      rcases Nat.lt_or_eq_of_le quotient with less | same
      · omega
      · rw [same] at first; omega
    · omega

theorem frameService_mono (config : QueueClassConfig) {a b : Nat} (le : a ≤ b) :
    frameService config a ≤ frameService config b := by
  unfold frameService
  exact div_ceil_mono (Nat.mul_le_mul_right _ le) _

variable {configs : List QueueClassConfig} {s : QosScheduler T} {L : Nat}

theorem WellFormed.config_of (formed : WellFormed configs s) (found : s.classes[k]? = some c) :
    configs[k]? = some c.config := by
  rw [← formed.configured]
  simp [views,view,found]

theorem WellFormed.priority_of (formed : WellFormed configs s) (found : s.classes[k]? = some c) :
    c.priority.isSome = c.config.priority.isSome ∧ c.shape.isSome = c.config.shape.isSome := by
  have member : view c ∈ views s := List.mem_map_of_mem (List.mem_of_getElem? found)
  exact ⟨formed.priority _ member,formed.shape _ member⟩

/-- An ordinary class of a well-formed scheduler has neither bucket. -/
theorem WellFormed.ordinary (formed : WellFormed configs s) (ordinary : Ordinary configs k)
    (found : s.classes[k]? = some c) : c.priority = none ∧ c.shape = none := by
  obtain ⟨config,isConfig,priority,shape⟩ := ordinary
  have same : c.config = config := Option.some.inj ((formed.config_of found).symm.trans isConfig)
  obtain ⟨priorityOf,shapeOf⟩ := formed.priority_of found
  rw [same,priority] at priorityOf
  rw [same,shape] at shapeOf
  exact ⟨by simpa using priorityOf,by simpa using shapeOf⟩

/-- The sum of a list with one element replaced. -/
private theorem sum_set {list : List Nat} {old : Nat} (found : list[k]? = some old) (new : Nat) :
    (list.set k new).sum + old = list.sum + new := by
  induction list generalizing k with
  | nil => simp at found
  | cons head rest ih =>
    cases k with
    | zero =>
      cases found
      simp only [List.set_cons_zero,List.sum_cons]
      omega
    | succ k =>
      have tail := ih (k := k) (by simpa using found)
      simp only [List.set_cons_succ,List.sum_cons]
      omega

/-- Replacing the packets and the last tag of one class keeps the buckets. -/
theorem formed_set (formed : WellFormed configs s) (found : s.classes[k]? = some c) {after : QosScheduler T}
    {packets : List (Queued T)} (last : Nat)
    (viewed : views after = (views s).set k { view c with packets := packets, last_finish := last })
    (counted : after.length + c.packets.length = s.length + packets.length) : WellFormed configs after := by
  have viewedC : (views s)[k]? = some (view c) := by simp [views,found]
  obtain ⟨inside,value⟩ := List.getElem?_eq_some_iff.mp viewedC
  have member : view c ∈ views s := List.mem_of_getElem? viewedC
  refine ⟨?_,?_,?_,?_⟩
  · rw [viewed,List.map_set,← formed.configured]
    exact List.ext_getElem? fun i => by
      by_cases here : k = i
      · subst here; simp [inside,value]
      · simp [here]
  · intro v isIn
    rw [viewed] at isIn
    rcases List.mem_or_eq_of_mem_set isIn with old | rfl
    · exact formed.priority v old
    · have kept := formed.priority _ member; exact kept
  · intro v isIn
    rw [viewed] at isIn
    rcases List.mem_or_eq_of_mem_set isIn with old | rfl
    · exact formed.shape v old
    · have kept := formed.shape _ member; exact kept
  · have lengths : ((views s).map (·.packets.length))[k]? = some c.packets.length := by simp [viewedC,view]
    have sum := sum_set lengths packets.length
    have before := formed.counted
    rw [viewed,List.map_set]
    show after.length = (((views s).map (·.packets.length)).set k packets.length).sum
    omega

theorem views_reset (s : QosScheduler T) :
    views { s with virtual_time := 0, classes := s.classes.map (fun c => { c with last_finish := 0 }) } =
      (views s).map (fun v => { v with last_finish := 0 }) := by
  simp only [views,List.map_map]
  rfl

theorem reset_idle_formed (formed : WellFormed configs s) : WellFormed configs s.reset_idle := by
  unfold QosScheduler.reset_idle
  split_ifs
  · refine ⟨?_,?_,?_,?_⟩
    · rw [views_reset,List.map_map,← formed.configured]
      rfl
    · intro v member
      rw [views_reset] at member
      obtain ⟨old,isOld,rfl⟩ := List.mem_map.mp member
      exact formed.priority old isOld
    · intro v member
      rw [views_reset] at member
      obtain ⟨old,isOld,rfl⟩ := List.mem_map.mp member
      exact formed.shape old isOld
    · rw [views_reset,List.map_map]
      exact formed.counted
  · exact formed

/-- Resetting an idle scheduler keeps its queues, and its clock is at rest. -/
theorem reset_idle_correct (formed : WellFormed configs s)
    (tagged : Tagged (Ordinary configs) (bound configs L) (clock s)) :
    WellFormed configs s.reset_idle ∧ Tagged (Ordinary configs) (bound configs L) (clock s.reset_idle) := by
  refine ⟨reset_idle_formed formed,?_⟩
  unfold QosScheduler.reset_idle
  split_ifs with idle
  · have none : ∀ v ∈ views s, v.packets = [] := by
      intro v member
      have zero := formed.counted.symm.trans idle
      have := List.sum_eq_zero_iff.mp zero v.packets.length (List.mem_map_of_mem member)
      exact List.length_eq_zero_iff.mp this
    refine tagged_of_idle ?_ ?_
    · intro k
      simp only [clock,clockOf,views_reset,List.getElem?_map]
      cases found : (views s)[k]? with
      | none => rfl
      | some v => simp [View.tags,none v (List.mem_of_getElem? found)]
    · intro k
      simp only [clock,clockOf,views_reset,List.getElem?_map]
      cases (views s)[k]? <;> simp [View.lastTag]
  · exact tagged

/-- The tags of a class with one more frame. -/
private theorem tags_append {v : View T} (ordinary : v.priority = false) (packets : List (Queued T)) (packet : Queued T)
    (last : Nat) : View.tags { v with packets := packets ++ [packet], last_finish := last } =
      View.tags { v with packets := packets } ++ [⟨frameService v.config packet.bytes.toNat,packet.finish⟩] := by
  simp [View.tags,ordinary]

/-- `enqueue` keeps a reset scheduler well formed and is at most an arrival on its clock. -/
theorem enqueue_step (formed : WellFormed configs s.reset_idle) (index : Nat) (now : SimTime) (packet : T)
    (bytes : UInt64) (in_flight : Nat) (short : bytes.toNat ≤ L)
    (unsaturated : Unsaturated s (.enqueue index now packet bytes in_flight)) :
    WellFormed configs (s.enqueue index now packet bytes in_flight).2 ∧
      Step (Ordinary configs) (bound configs L) (clock s.reset_idle) []
        (clock (s.enqueue index now packet bytes in_flight).2) := by
  obtain ⟨virtual,same | ⟨c,found,accepted,length,viewed⟩⟩ := enqueue_cases s index now packet bytes in_flight
  · obtain ⟨viewed,length⟩ := same
    refine ⟨⟨viewed ▸ formed.configured,viewed ▸ formed.priority,viewed ▸ formed.shape,?_⟩,?_⟩
    · rw [viewed,length]; exact formed.counted
    · have equal : clock (s.enqueue index now packet bytes in_flight).2 = clock s.reset_idle := by
        rw [clock,clock,viewed,virtual]
      rw [equal]
      exact .stay _
  · have exactTag : min (s.reset_idle.tag_of c bytes) maxTag = s.reset_idle.tag_of c bytes :=
      min_eq_left (unsaturated accepted c (by simp [found]))
    rw [exactTag] at viewed
    refine ⟨formed_set formed found _ viewed (by simp [length]; omega),?_⟩
    have viewedC : (views s.reset_idle)[index]? = some (view c) := by simp [views,found]
    rw [clock,clock,viewed,virtual,clockOf_set viewedC]
    by_cases priority : c.priority.isSome = true
    · -- a priority class shows no tags before or after
      have noTags : ∀ v : View T, v.priority = true → v.tags = [] ∧ v.lastTag = 0 := by
        intro v isPriority; simp [View.tags,View.lastTag,isPriority]
      have queueBefore : (clockOf s.reset_idle.virtual_time (views s.reset_idle)).queue index = [] := by
        simp [clockOf,viewedC,(noTags (view c) priority).1]
      have lastBefore : (clockOf s.reset_idle.virtual_time (views s.reset_idle)).last index = 0 := by
        simp [clockOf,viewedC,(noTags (view c) priority).2]
      rw [(noTags _ (by exact priority)).1,(noTags _ (by exact priority)).2]
      rw [Function.update_eq_self_iff.mpr queueBefore.symm,Function.update_eq_self_iff.mpr lastBefore.symm]
      exact .stay _
    · have ordinary : (view c).priority = false := by simpa [view] using priority
      have queueBefore : (clockOf s.reset_idle.virtual_time (views s.reset_idle)).queue index = (view c).tags := by
        simp [clockOf,viewedC]
      have lastBefore : (clockOf s.reset_idle.virtual_time (views s.reset_idle)).last index = c.last_finish := by
        simp [clockOf,viewedC,View.lastTag,ordinary]; rfl
      have fits : frameService c.config bytes.toNat ≤ bound configs L index := by
        rw [bound,formed.config_of found,Option.elim_some]
        exact frameService_mono _ short
      have arrival : Step (Ordinary configs) (bound configs L) (clockOf s.reset_idle.virtual_time (views s.reset_idle)) [] _ :=
        .arrive _ index (frameService c.config bytes.toNat) fits
      rw [Clock.arrive,queueBefore,lastBefore] at arrival
      rw [tags_append ordinary]
      simpa [View.lastTag,ordinary,priority,QosScheduler.tag_of,QosClass.service,frameService,clockOf,view] using arrival

/-- The departures of ordinary and shaped classes, with the service of each. -/
def served (configs : List QueueClassConfig) (departures : List (QosDeparture T)) : List (Nat × Nat) :=
  departures.filterMap (fun departure => (configs[departure.class]?).bind (fun config =>
    if config.priority.isSome then none else some (departure.class,frameService config departure.bytes.toNat)))

/-- `dequeue_ready` keeps a scheduler well formed and is at most a departure on its clock. -/
theorem dequeue_step (formed : WellFormed configs s) (now : SimTime) :
    WellFormed configs (s.dequeue_ready now).2 ∧
      Step (Ordinary configs) (bound configs L) (clock s) (served configs (s.dequeue_ready now).1.toList)
        (clock (s.dequeue_ready now).2) := by
  rcases dequeue_cases s now with ⟨result,viewed,length,virtual⟩ |
    ⟨index,c,packet,packets,found,queued,least,result,length,virtual,viewed⟩
  · rw [result]
    refine ⟨⟨viewed ▸ formed.configured,viewed ▸ formed.priority,viewed ▸ formed.shape,?_⟩,?_⟩
    · rw [viewed,length]; exact formed.counted
    · have equal : clock (s.dequeue_ready now).2 = clock s := by rw [clock,clock,viewed,virtual]
      rw [equal]
      exact .stay _
  · have viewedC : (views s)[index]? = some (view c) := by simp [views,found]
    have config := formed.config_of found
    have nonempty : 1 ≤ s.length := by
      have member : c.packets.length ∈ (views s).map (·.packets.length) :=
        List.mem_map.mpr ⟨view c,List.mem_of_getElem? viewedC,rfl⟩
      have := List.le_sum_of_mem member
      rw [formed.counted]
      simp only [queued,List.length_cons] at this
      omega
    refine ⟨formed_set formed found c.last_finish viewed (by rw [length,queued,List.length_cons]; omega),?_⟩
    rw [clock,clock,viewed,virtual,clockOf_set viewedC,result]
    by_cases priority : c.priority.isSome = true
    · have silent : served configs [QosDeparture.mk index packet.bytes packet.packet] = [] := by
        have := (formed.priority_of found).1
        rw [priority] at this
        simp [served,config,← this]
      have tags : ∀ v : View T, v.priority = true → v.tags = [] ∧ v.lastTag = 0 := by
        intro v isPriority; simp [View.tags,View.lastTag,isPriority]
      have queueBefore : (clockOf s.virtual_time (views s)).queue index = [] := by
        simp [clockOf,viewedC,(tags (view c) priority).1]
      have lastBefore : (clockOf s.virtual_time (views s)).last index = 0 := by
        simp [clockOf,viewedC,(tags (view c) priority).2]
      rw [Option.toList_some,silent,(tags _ (by exact priority)).1,(tags _ (by exact priority)).2]
      have busy : c.priority.isNone = false := by simpa using priority
      rw [Function.update_eq_self_iff.mpr queueBefore.symm,Function.update_eq_self_iff.mpr lastBefore.symm,busy]
      exact .stay _
    · have ordinary : (view c).priority = false := by simpa [view] using priority
      have isNone : c.priority.isNone = true := by simpa [view] using ordinary
      have notPriority : c.config.priority.isSome = false := by
        rw [← (formed.priority_of found).1]; simpa using priority
      have label : served configs [QosDeparture.mk index packet.bytes packet.packet] =
          [(index,frameService c.config packet.bytes.toNat)] := by
        simp [served,config,notPriority]
      have queueBefore : (clockOf s.virtual_time (views s)).queue index =
          ⟨frameService c.config packet.bytes.toNat,packet.finish⟩ :: View.tags { view c with packets } := by
        simp [clockOf,viewedC,View.tags,ordinary]
        simp [view,queued]
      have lastBefore : (clockOf s.virtual_time (views s)).last index = (view c).lastTag := by simp [clockOf,viewedC]
      have leastTag : ∀ i, Ordinary configs i → ∀ other ∈ ((clockOf s.virtual_time (views s)).queue i).head?,
          packet.finish ≤ other.finish := by
        intro i isOrdinary other isFirst
        cases foundI : s.classes[i]? with
        | none => simp [clockOf,views,foundI] at isFirst
        | some d =>
          obtain ⟨noPriority,noShape⟩ := formed.ordinary isOrdinary foundI
          cases queuedI : d.packets with
          | nil => simp [clockOf,views,view,foundI,View.tags,queuedI] at isFirst
          | cons head tail =>
            simp only [clockOf,views,view,List.getElem?_map,foundI,Option.map_some,Option.elim_some,View.tags,
              noPriority,Option.isSome_none,queuedI,List.map_cons,List.head?_cons,Bool.false_eq_true,if_false,
              Option.mem_some_iff] at isFirst
            have key := least i d head foundI noShape (by rw [queuedI,List.head?_cons])
            simp only [QosClass.selection_key,noPriority,isNone,Option.isNone_none,Option.isSome_none,
              Bool.false_eq_true,if_false,priority] at key
            rw [← isFirst]
            rcases (Prod.Lex.toLex_le_toLex).mp key with less | ⟨_,rest⟩
            · exact absurd less (lt_irrefl _)
            · rcases (Prod.Lex.toLex_le_toLex).mp rest with less | ⟨same,_⟩
              · exact less.le
              · exact same.le
      have departure : Step (Ordinary configs) (bound configs L) _ _ _ := .depart _ index _ _ queueBefore leastTag
      rw [Clock.depart] at departure
      rw [Option.toList_some,label,isNone]
      have lastAfter : View.lastTag { view c with packets } = (view c).lastTag := rfl
      have lastKept : Function.update (clockOf (max s.virtual_time packet.finish) (views s)).last index (view c).lastTag =
          (clockOf s.virtual_time (views s)).last := Function.update_eq_self_iff.mpr lastBefore.symm
      rw [if_pos rfl,lastAfter,lastKept]
      simpa [clockOf] using departure

/-! ### Runs -/

theorem run_append (before stretch : List (Operation T)) : run s (before ++ stretch) =
    ((run s before).1 ++ (run (run s before).2 stretch).1,(run (run s before).2 stretch).2) := by
  induction before generalizing s with
  | nil => rfl
  | cons operation rest ih => simp [run,ih]

theorem runBacklogged_append {before stretch : List (Operation T)} (first : RunBacklogged s k before)
    (second : RunBacklogged (run s before).2 k stretch) :
    RunBacklogged s k (before ++ stretch) := by
  induction before generalizing s with
  | nil => exact second
  | cons operation rest ih => exact ⟨first.1,ih first.2 second⟩

theorem runUnsaturated_append {before stretch : List (Operation T)} :
    RunUnsaturated s (before ++ stretch) ↔ RunUnsaturated s before ∧ RunUnsaturated (run s before).2 stretch := by
  induction before generalizing s with
  | nil => simp [RunUnsaturated,run]
  | cons operation rest ih => simp [RunUnsaturated,run,ih,and_assoc]

/-- The scheduler is well formed, and its clock is tagged. -/
structure Sound (configs : List QueueClassConfig) (L : Nat) (s : QosScheduler T) : Prop where
  formed : WellFormed configs s
  tagged : Tagged (Ordinary configs) (bound configs L) (clock s)

/-- A new scheduler is sound, and all its weights are positive. -/
theorem new_sound {capacity : Nat} {now : SimTime} (created : QosScheduler.new configs capacity now = .ok s) :
    Sound configs L s ∧ ∀ config ∈ configs, 0 < config.weight.toNat := by
  unfold QosScheduler.new at created
  split_ifs at created with invalid
  cases created
  have viewed : views (T := T) ⟨configs.map (fun config => QosClass.new config now),capacity,0,0⟩ =
      configs.map (fun config => (⟨config,config.priority.isSome,config.shape.isSome,[],0⟩ : View T)) := by
    simp [views,view,QosClass.new]
  refine ⟨⟨⟨?_,?_,?_,?_⟩,tagged_of_idle ?_ ?_⟩,?_⟩
  · rw [viewed,List.map_map]
    exact List.map_id _
  · rw [viewed]; simp
  · rw [viewed]; simp
  · rw [viewed,List.map_map]
    exact (List.sum_eq_zero (by simp)).symm
  · intro k
    simp only [clock,clockOf,viewed,List.getElem?_map]
    cases configs[k]? <;> simp [View.tags]
  · intro k
    simp only [clock,clockOf,viewed,List.getElem?_map]
    cases configs[k]? <;> simp [View.lastTag]
  · intro config member
    simp only [Bool.or_eq_true,List.any_eq_true,not_or,not_exists,not_and] at invalid
    have range := (invalid.2 config member).1
    simp only [Bool.not_eq_true',Bool.and_eq_false_iff,decide_eq_false_iff_not,not_or,not_not] at range
    have positive := UInt64.le_iff_toNat_le.mp range.1
    exact positive

/-- Every call keeps a scheduler sound. -/
theorem apply_sound (sound : Sound configs L s) {operation : Operation T} (short : NoLonger L operation)
    (unsaturated : Unsaturated s operation) : Sound configs L (apply s operation).2 := by
  cases operation with
  | enqueue index now packet bytes in_flight =>
    obtain ⟨formed,tagged⟩ := reset_idle_correct sound.formed sound.tagged
    obtain ⟨after,step⟩ := enqueue_step formed index now packet bytes in_flight short unsaturated
    exact ⟨after,step_tagged tagged step⟩
  | dequeue_ready now =>
    obtain ⟨after,step⟩ := dequeue_step (L := L) sound.formed now
    exact ⟨after,step_tagged sound.tagged step⟩

theorem run_sound (sound : Sound configs L s) {operations : List (Operation T)}
    (short : ∀ operation ∈ operations, NoLonger L operation) (unsaturated : RunUnsaturated s operations) :
    Sound configs L (run s operations).2 := by
  induction operations generalizing s with
  | nil => exact sound
  | cons operation rest ih =>
    rw [List.forall_mem_cons] at short
    exact ih (apply_sound sound short.1 unsaturated.1) short.2 unsaturated.2

/-- A backlogged class keeps the scheduler from resetting. -/
theorem reset_idle_backlogged (formed : WellFormed configs s) (backlogged : Backlogged s k) :
    s.reset_idle = s := by
  obtain ⟨c,found,nonempty⟩ := backlogged
  have member : c.packets.length ∈ (views s).map (·.packets.length) :=
    List.mem_map.mpr ⟨view c,List.mem_map_of_mem (List.mem_of_getElem? found),rfl⟩
  have within := List.le_sum_of_mem member
  have positive := List.length_pos_iff.mpr nonempty
  have := formed.counted
  rw [QosScheduler.reset_idle,if_neg (by omega)]

theorem queue_backlogged (formed : WellFormed configs s) (ordinary : Ordinary configs k) (backlogged : Backlogged s k) :
    (clock s).queue k ≠ [] := by
  obtain ⟨c,found,nonempty⟩ := backlogged
  have isSome : s.classes[k]? = some c := found
  have noPriority := (formed.ordinary ordinary isSome).1
  simpa [clock,clockOf,views,isSome,view,View.tags,noPriority] using nonempty

/-- With a class backlogged, a call is one step of the clock. -/
theorem apply_step (formed : WellFormed configs s) {operation : Operation T} (short : NoLonger L operation)
    (unsaturated : Unsaturated s operation) (backlogged : Backlogged s k) :
    Step (Ordinary configs) (bound configs L) (clock s) (served configs (apply s operation).1)
      (clock (apply s operation).2) := by
  cases operation with
  | enqueue index now packet bytes in_flight =>
    have reset := reset_idle_backlogged formed backlogged
    have step := (enqueue_step (reset ▸ formed) index now packet bytes in_flight short unsaturated).2
    rw [reset] at step
    exact step
  | dequeue_ready now => exact (dequeue_step formed now).2

/-- A stretch with a backlogged ordinary class is a busy run of the clock. -/
theorem run_busy (sound : Sound configs L s) {operations : List (Operation T)}
    (short : ∀ operation ∈ operations, NoLonger L operation) (unsaturated : RunUnsaturated s operations)
    (ordinary : Ordinary configs k) (backlogged : RunBacklogged s k operations) :
    Busy (Ordinary configs) (bound configs L) k (clock s) (served configs (run s operations).1)
      (clock (run s operations).2) := by
  induction operations generalizing s with
  | nil => exact .refl _ (queue_backlogged sound.formed ordinary backlogged)
  | cons operation rest ih =>
    rw [List.forall_mem_cons] at short
    have later := ih (apply_sound sound short.1 unsaturated.1) short.2 unsaturated.2 backlogged.2
    have first := apply_step sound.formed short.1 unsaturated.1 backlogged.1
    have split : served configs (run s (operation :: rest)).1 =
        served configs (apply s operation).1 ++ served configs (run (apply s operation).2 rest).1 :=
      List.filterMap_append ..
    rw [split]
    exact .head first (queue_backlogged sound.formed ordinary backlogged.1) later

/-! ### From service to bytes -/

/-- The unit of service: the inverse of the fixed-point step. -/
def fixedPoint : ℚ := 1000000000000

theorem div_ceil_bounds (a : Nat) {d : Nat} (positive : 0 < d) : a ≤ div_ceil a d * d ∧ div_ceil a d * d ≤ a + d := by
  have division := Nat.div_add_mod' a d
  have small := Nat.mod_lt a positive
  unfold div_ceil
  split_ifs with exactly
  · rw [Nat.add_zero]; omega
  · rw [Nat.add_mul,Nat.one_mul]; omega

variable {config : QueueClassConfig}

/-- The service of a class's departures against their bytes. -/
theorem total_served (found : configs[k]? = some config) (noPriority : config.priority = none)
    (positive : 0 < config.weight.toNat) (departures : List (QosDeparture T)) :
    ((served configs departures).filter (·.1 = k)).length = sentFrames k departures ∧
    sentBytes k departures * 1000000000000 ≤ total k (served configs departures) * config.weight.toNat ∧
    total k (served configs departures) * config.weight.toNat ≤
      sentBytes k departures * 1000000000000 + sentFrames k departures * config.weight.toNat := by
  induction departures with
  | nil => simp [served,sentFrames,sentBytes]
  | cons departure rest ih =>
    obtain ⟨frames,lower,upper⟩ := ih
    by_cases same : departure.class = k
    · have head : served configs (departure :: rest) =
          (k,frameService config departure.bytes.toNat) :: served configs rest := by
        simp [served,same,found,noPriority]
      have sent : sentBytes k (departure :: rest) = departure.bytes.toNat + sentBytes k rest := by simp [sentBytes,same]
      have count : sentFrames k (departure :: rest) = sentFrames k rest + 1 := by simp [sentFrames,same]
      have sum : total k (served configs (departure :: rest)) =
          frameService config departure.bytes.toNat + total k (served configs rest) := by
        simp [head,total]
      obtain ⟨atLeast,atMost⟩ := div_ceil_bounds (departure.bytes.toNat * 1000000000000) positive
      rw [sent,count,sum,head]
      refine ⟨by simpa using frames,?_,?_⟩
      · rw [Nat.add_mul,Nat.add_mul]; exact Nat.add_le_add atLeast lower
      · have one : frameService config departure.bytes.toNat * config.weight.toNat ≤
            departure.bytes.toNat * 1000000000000 + config.weight.toNat := atMost
        rw [Nat.add_mul,Nat.add_mul,Nat.add_mul,Nat.one_mul]; omega
    · have sent : sentBytes k (departure :: rest) = sentBytes k rest := by simp [sentBytes,same]
      have count : sentFrames k (departure :: rest) = sentFrames k rest := by simp [sentFrames,same]
      have filtered : (served configs (departure :: rest)).filter (·.1 = k) = (served configs rest).filter (·.1 = k) := by
        unfold served
        rw [List.filterMap_cons]
        cases configs[departure.class]? with
        | none => rfl
        | some other => by_cases skipped : other.priority.isSome = true <;> simp [skipped,same]
      rw [sent,count,total,filtered]
      exact ⟨frames,lower,upper⟩

/-- A backlogged ordinary class is not overtaken: its bytes over its weight are
    behind those of no other ordinary class by more than one frame of each and
    the rounding. -/
private theorem not_overtaken {i j : Nat} {configI configJ : QueueClassConfig} (sound : Sound configs L s)
    (weights : ∀ config ∈ configs, 0 < config.weight.toNat) (foundI : configs[i]? = some configI)
    (foundJ : configs[j]? = some configJ) (ordinaryI : configI.priority = none ∧ configI.shape = none)
    (ordinaryJ : configJ.priority = none ∧ configJ.shape = none) {stretch : List (Operation T)}
    (short : ∀ operation ∈ stretch, NoLonger L operation) (unsaturated : RunUnsaturated s stretch)
    (backlogged : RunBacklogged s i stretch) :
    (sentBytes j (run s stretch).1 : ℚ) / configJ.weight.toNat - sentBytes i (run s stretch).1 / configI.weight.toNat ≤
      L / configI.weight.toNat + L / configJ.weight.toNat +
        (sentFrames i (run s stretch).1 + sentFrames j (run s stretch).1) / fixedPoint := by
  have isOrdinaryI : Ordinary configs i := ⟨configI,foundI,ordinaryI⟩
  have isOrdinaryJ : Ordinary configs j := ⟨configJ,foundJ,ordinaryJ⟩
  have busy := run_busy sound short unsaturated isOrdinaryI backlogged
  have fair := busy_fair busy sound.tagged isOrdinaryI isOrdinaryJ
  have perFrame := busy_total_le busy sound.tagged isOrdinaryJ
  have positiveI := weights configI (List.mem_of_getElem? foundI)
  have positiveJ := weights configJ (List.mem_of_getElem? foundJ)
  obtain ⟨-,-,upperI⟩ := total_served foundI ordinaryI.1 positiveI (run s stretch).1
  obtain ⟨framesJ,lowerJ,-⟩ := total_served foundJ ordinaryJ.1 positiveJ (run s stretch).1
  rw [framesJ] at perFrame
  have boundI : bound configs L i * configI.weight.toNat ≤ L * 1000000000000 + configI.weight.toNat := by
    rw [bound,foundI,Option.elim_some]; exact (div_ceil_bounds _ positiveI).2
  have boundJ : bound configs L j * configJ.weight.toNat ≤ L * 1000000000000 + configJ.weight.toNat := by
    rw [bound,foundJ,Option.elim_some]; exact (div_ceil_bounds _ positiveJ).2
  generalize total i (served configs (run s stretch).1) = servedI at fair upperI
  generalize total j (served configs (run s stretch).1) = servedJ at fair perFrame lowerJ
  generalize sentBytes i (run s stretch).1 = bytesI at upperI ⊢
  generalize sentBytes j (run s stretch).1 = bytesJ at lowerJ ⊢
  generalize sentFrames i (run s stretch).1 = framesI at upperI ⊢
  generalize sentFrames j (run s stretch).1 = framesJ at perFrame ⊢
  generalize bound configs L i = quantumI at boundI fair
  generalize bound configs L j = quantumJ at boundJ fair perFrame
  have weightI : (0 : ℚ) < configI.weight.toNat := by exact_mod_cast positiveI
  have weightJ : (0 : ℚ) < configJ.weight.toNat := by exact_mod_cast positiveJ
  generalize configI.weight.toNat = wI at *
  generalize configJ.weight.toNat = wJ at *
  have point : (0 : ℚ) < fixedPoint := by norm_num [fixedPoint]
  -- everything over the weights, in units of service
  have serviceJ : (bytesJ : ℚ) / wJ ≤ servedJ / fixedPoint := by
    rw [div_le_div_iff₀ weightJ point]; unfold fixedPoint; exact_mod_cast lowerJ
  have serviceI : (servedI : ℚ) / fixedPoint ≤ bytesI / wI + framesI / fixedPoint := by
    rw [div_add_div _ _ weightI.ne' point.ne',div_le_div_iff₀ point (by positivity)]
    have cast : (servedI : ℚ) * wI ≤ bytesI * fixedPoint + framesI * wI := by unfold fixedPoint; exact_mod_cast upperI
    nlinarith
  have quantum : ∀ {q w : Nat}, (0 : ℚ) < w → q * w ≤ L * 1000000000000 + w →
      (q : ℚ) / fixedPoint ≤ L / w + 1 / fixedPoint := by
    intro q w positive small
    rw [div_add_div _ _ positive.ne' point.ne',div_le_div_iff₀ point (by positivity)]
    have cast : (q : ℚ) * w ≤ L * fixedPoint + w := by unfold fixedPoint; exact_mod_cast small
    nlinarith
  have oneI := quantum weightI boundI
  have oneJ := quantum weightJ boundJ
  have nonnegative : (0 : ℚ) ≤ bytesI / wI ∧ (0 : ℚ) ≤ L / wI ∧ (0 : ℚ) ≤ L / wJ ∧ (0 : ℚ) ≤ framesI / fixedPoint := by
    refine ⟨?_,?_,?_,?_⟩ <;> positivity
  rw [add_div]
  rcases Nat.lt_or_ge framesJ 2 with few | many
  · -- at most one frame left: it is within its own quantum
    have alone : (servedJ : ℚ) / fixedPoint ≤ framesJ * (quantumJ / fixedPoint) := by
      rw [mul_div_assoc',div_le_div_iff_of_pos_right point]; exact_mod_cast perFrame
    have atMostOne : framesJ = 0 ∨ framesJ = 1 := by omega
    rcases atMostOne with rfl | rfl
    · norm_num at alone ⊢; linarith
    · norm_num at alone ⊢; rw [one_div] at *; linarith
  · have sum : (servedJ : ℚ) / fixedPoint ≤ servedI / fixedPoint + quantumI / fixedPoint + quantumJ / fixedPoint := by
      rw [← add_div,← add_div,div_le_div_iff_of_pos_right point]; exact_mod_cast fair
    have two : (2 : ℚ) / fixedPoint ≤ framesJ / fixedPoint := by
      rw [div_le_div_iff_of_pos_right point]; exact_mod_cast many
    have split : (2 : ℚ) / fixedPoint = 1 / fixedPoint + 1 / fixedPoint := by rw [← add_div]; norm_num
    linarith

/-- While an ordinary class is never empty, no other ordinary class gets ahead
    of it by more than one frame of each and the rounding; two that are never
    empty stay that close to each other. -/
theorem weighted_fair_service {T : Type u} {configs : List QueueClassConfig} {capacity : Nat} {start : SimTime}
    {s : QosScheduler T} (created : QosScheduler.new configs capacity start = .ok s) {i j : Nat}
    {configI configJ : QueueClassConfig} (foundI : configs[i]? = some configI) (foundJ : configs[j]? = some configJ)
    (ordinaryI : configI.priority = none ∧ configI.shape = none)
    (ordinaryJ : configJ.priority = none ∧ configJ.shape = none) {before stretch : List (Operation T)} {L : Nat}
    (short : ∀ operation ∈ before ++ stretch, NoLonger L operation) (unsaturated : RunUnsaturated s (before ++ stretch))
    (backlogged : RunBacklogged (run s before).2 i stretch) :
    let sent := (run (run s before).2 stretch).1
    let slack : ℚ := L / configI.weight.toNat + L / configJ.weight.toNat + (sentFrames i sent + sentFrames j sent) / fixedPoint
    (sentBytes j sent : ℚ) / configJ.weight.toNat - sentBytes i sent / configI.weight.toNat ≤ slack ∧
      (RunBacklogged (run s before).2 j stretch →
        |(sentBytes i sent : ℚ) / configI.weight.toNat - sentBytes j sent / configJ.weight.toNat| ≤ slack) := by
  obtain ⟨sound,weights⟩ := new_sound (L := L) created
  rw [List.forall_mem_append] at short
  obtain ⟨early,late⟩ := runUnsaturated_append.mp unsaturated
  have middle := run_sound sound short.1 early
  have forward := not_overtaken middle weights foundI foundJ ordinaryI ordinaryJ short.2 late backlogged
  refine ⟨forward,fun both => abs_le.mpr ⟨by linarith,?_⟩⟩
  have backward := not_overtaken middle weights foundJ foundI ordinaryJ ordinaryI short.2 late both
  rw [add_comm (L / configJ.weight.toNat : ℚ),add_comm (sentFrames j _ : ℚ)] at backward
  linarith

/-! ### A run whose finish tags saturate -/

/-- A class of weight one without limits. -/
def plain : QueueClassConfig := ⟨1,none,none,none⟩

/-- The largest frame length. -/
def longest : UInt64 := 18446744073709551615

/-- A plain class whose frames all have the largest length. -/
def stuffed (finishes : List Nat) (last : Nat) (counters : QosClassCounters) : QosClass Unit :=
  ⟨plain,none,none,none,finishes.map (fun finish => ⟨(),longest,finish⟩),last,counters⟩

theorem admission_stuffed (finishes : List Nat) (last : Nat) (counters : QosClassCounters) (now : SimTime) (bytes : UInt64)
    (congested : Bool) :
    ∃ counted, (stuffed finishes last counters).admission now bytes congested false = (none,stuffed finishes last counted) :=
  ⟨_,rfl⟩

/-- A frame arrives at a stuffed class. -/
theorem enqueue_stuffed {s : QosScheduler Unit} (index : Nat) (kept : s.reset_idle = s) {finishes : List Nat} {last : Nat}
    {counters : QosClassCounters} (found : s.classes[index]? = some (stuffed finishes last counters))
    (room : s.length < s.capacity) :
    ∃ counted, apply s (.enqueue index 0 () longest 0) =
      ([],{ s with
        classes := s.classes.set index (stuffed
          (finishes ++ [min (max last s.virtual_time + frameService plain longest.toNat) maxTag])
          (min (max last s.virtual_time + frameService plain longest.toNat) maxTag) counted)
        length := s.length + 1 }) := by
  have notFull : decide (s.capacity ≤ s.length + 0) = false := by simpa using room
  obtain ⟨counted,admits⟩ := admission_stuffed finishes last counters 0 longest (decide (0 < s.length) || decide (0 < 0))
  refine ⟨counted,?_⟩
  have tagged : s.tag_of (stuffed finishes last counted) longest =
    max last s.virtual_time + frameService plain longest.toNat := rfl
  rw [apply,QosScheduler.enqueue,kept]
  simp only [found,notFull,admits,tagged]
  simp [stuffed]

/-- The first frame of the first class leaves, unless the second class has a smaller tag. -/
theorem dequeue_stuffed (finish : Nat) (finishes : List Nat) (last last' capacity length virtual : Nat)
    {finishes' : List Nat} (counters counters' : QosClassCounters) (later : ∀ other ∈ finishes'.head?, finish ≤ other) :
    ∃ counted, apply ⟨[stuffed (finish :: finishes) last counters,stuffed finishes' last' counters'],capacity,length,virtual⟩
      (.dequeue_ready 0) = ([⟨0,longest,()⟩],
        ⟨[stuffed finishes last counted,stuffed finishes' last' counters'],capacity,length - 1,max virtual finish⟩) := by
  have eligible : ∀ (finishes : List Nat) (last : Nat) (counters : QosClassCounters),
      (stuffed finishes last counters).eligible_head 0 =
        (finishes.head?.map (fun finish => ⟨(),longest,finish⟩),stuffed finishes last counters) := by
    intro finishes last counters
    cases finishes <;> rfl
  have selected : (QosScheduler.candidates ⟨[stuffed (finish :: finishes) last counters,stuffed finishes' last' counters'],
      capacity,length,virtual⟩ 0).argmin (·.1) =
        some ((stuffed (finish :: finishes) last counters).selection_key ⟨(),longest,finish⟩ 0,0) := by
    rw [List.argmin_eq_some_iff]
    simp only [QosScheduler.candidates,List.zipIdx_cons,List.zipIdx_nil,List.filterMap_cons,List.filterMap_nil,eligible,
      List.head?_cons,Option.map_some]
    cases finishes' with
    | nil => simp
    | cons other rest =>
      have ahead : finish ≤ other := later other rfl
      have key : (stuffed (finish :: finishes) last counters).selection_key ⟨(),longest,finish⟩ 0 ≤
          (stuffed (other :: rest) last' counters').selection_key ⟨(),longest,other⟩ 1 := by
        refine (Prod.Lex.toLex_le_toLex).mpr (.inr ⟨rfl,(Prod.Lex.toLex_le_toLex).mpr ?_⟩)
        simp [stuffed]
        omega
      simp [key]
  refine ⟨((stuffed (finish :: finishes) last counters).transmit 0 ⟨(),longest,finish⟩
    (finishes.map (fun finish => ⟨(),longest,finish⟩))).counters,?_⟩
  rw [apply,QosScheduler.dequeue_ready,selected]
  simp only [List.map_cons,List.map_nil,eligible]
  rfl

/-- The first class sends frame after frame: one more arrives, and one leaves. -/
def pump : List (Operation Unit) := [.enqueue 0 0 () longest 0,.dequeue_ready 0]

/-- A scheduler with two plain classes before any call. -/
def unused : QosScheduler Unit := ⟨[stuffed [] 0 ⟨0,0,0,0,0,0,0,0⟩,stuffed [] 0 ⟨0,0,0,0,0,0,0,0⟩],3,0,0⟩

/-- The first class with one frame, next to the second class. -/
def loaded (finish virtual : Nat) (counters : QosClassCounters) (finishes : List Nat) (last : Nat)
    (counters' : QosClassCounters) : QosScheduler Unit :=
  ⟨[stuffed [finish] finish counters,stuffed finishes last counters'],3,1 + finishes.length,virtual⟩

theorem new_unused : QosScheduler.new [plain,plain] 3 0 = .ok unused := rfl

theorem unused_kept : unused.reset_idle = unused := by simp [QosScheduler.reset_idle,unused,stuffed]

theorem loaded_kept (finish virtual : Nat) (counters : QosClassCounters) (finishes : List Nat) (last : Nat)
    (counters' : QosClassCounters) : (loaded finish virtual counters finishes last counters').reset_idle =
      loaded finish virtual counters finishes last counters' := by
  simp [QosScheduler.reset_idle,loaded]

theorem run_pump {finish virtual : Nat} (counters : QosClassCounters) (finishes : List Nat) (last : Nat)
    (counters' : QosClassCounters) (behind : virtual ≤ finish) (few : finishes.length ≤ 1)
    (later : ∀ other ∈ finishes.head?, finish ≤ other) :
    ∃ counted, run (loaded finish virtual counters finishes last counters') pump =
      ([⟨0,longest,()⟩],
        loaded (min (finish + frameService plain longest.toNat) maxTag) finish counted finishes last counters') ∧
      RunBacklogged (loaded finish virtual counters finishes last counters') 0 pump ∧
      (finishes ≠ [] → RunBacklogged (loaded finish virtual counters finishes last counters') 1 pump) := by
  obtain ⟨entered,arrives⟩ := enqueue_stuffed 0
    (loaded_kept finish virtual counters finishes last counters') rfl (by simp only [loaded]; omega)
  have tag : max finish (loaded finish virtual counters finishes last counters').virtual_time = finish := max_eq_left behind
  rw [tag] at arrives
  obtain ⟨left,departs⟩ := dequeue_stuffed finish [min (finish + frameService plain longest.toNat) maxTag]
    (min (finish + frameService plain longest.toNat) maxTag) last 3 (1 + finishes.length + 1) virtual entered counters' later
  rw [max_eq_right behind] at departs
  have entered' : apply (loaded finish virtual counters finishes last counters') (.enqueue 0 0 () longest 0) = ([],
      ⟨[stuffed [finish,min (finish + frameService plain longest.toNat) maxTag]
        (min (finish + frameService plain longest.toNat) maxTag) entered,stuffed finishes last counters'],3,
        1 + finishes.length + 1,virtual⟩) := arrives
  refine ⟨left,?_,?_,fun waiting => ?_⟩
  · simp only [pump,run,entered',departs]
    rfl
  · simp only [pump,RunBacklogged,entered',departs]
    simp [Backlogged,loaded,stuffed]
  · have packets : finishes.map (fun finish => (⟨(),longest,finish⟩ : Queued Unit)) ≠ [] := by simpa using waiting
    simp only [pump,RunBacklogged,entered',departs]
    simp [Backlogged,loaded,stuffed,packets]

/-- Frames of the largest length, one after the other, until the tags saturate. -/
theorem run_pumps (n : Nat) {finish virtual : Nat} (counters : QosClassCounters) (finishes : List Nat) (last : Nat)
    (counters' : QosClassCounters) (behind : virtual ≤ finish) (few : finishes.length ≤ 1)
    (later : ∀ other ∈ finishes.head?, maxTag ≤ other) (small : finish ≤ maxTag)
    (near : finish ≤ virtual + frameService plain longest.toNat) :
    ∃ counted v, v ≤ min (finish + n * frameService plain longest.toNat) maxTag ∧
      min (finish + n * frameService plain longest.toNat) maxTag ≤ v + frameService plain longest.toNat ∧
      run (loaded finish virtual counters finishes last counters') (List.replicate n pump).flatten =
      (List.replicate n ⟨0,longest,()⟩,
        loaded (min (finish + n * frameService plain longest.toNat) maxTag) v counted finishes last counters') ∧
      RunBacklogged (loaded finish virtual counters finishes last counters') 0 (List.replicate n pump).flatten ∧
      (finishes ≠ [] →
        RunBacklogged (loaded finish virtual counters finishes last counters') 1 (List.replicate n pump).flatten) := by
  induction n generalizing finish virtual counters with
  | zero => 
    refine ⟨counters,virtual,by simp [min_eq_left small,behind],by simpa [min_eq_left small] using near,
      by simp [run,min_eq_left small],?_,fun waiting => ?_⟩
    · simp [RunBacklogged,Backlogged,loaded,stuffed]
    · have packets : finishes.map (fun finish => (⟨(),longest,finish⟩ : Queued Unit)) ≠ [] := by simpa using waiting
      simp [RunBacklogged,Backlogged,loaded,stuffed,packets]
  | succ n ih =>
    obtain ⟨counted,first,firstBusy,otherBusy⟩ := run_pump counters finishes last counters' behind few
      (fun other member => small.trans (later other member))
    obtain ⟨final,v,below,close,rest,restBusy,otherRest⟩ := ih counted
      (Nat.le_min.mpr ⟨Nat.le_add_right finish (frameService plain longest.toNat),small⟩) (by omega) (by omega)
    have total : min (min (finish + frameService plain longest.toNat) maxTag + n * frameService plain longest.toNat) maxTag =
        min (finish + (n + 1) * frameService plain longest.toNat) maxTag := by
      rw [Nat.add_mul,Nat.one_mul]; omega
    rw [total] at below close rest
    rw [List.replicate_succ,List.flatten_cons,run_append,first,rest]
    refine ⟨final,v,below,close,rfl,runBacklogged_append firstBusy ?_,fun waiting => runBacklogged_append (otherBusy waiting) ?_⟩
    · rw [first]; exact restBusy
    · rw [first]; exact otherRest waiting

/-- The first class sends alone until its tags saturate; then the second one has a frame. -/
def saturating (n : Nat) : List (Operation Unit) :=
  [.enqueue 0 0 () longest 0] ++ (List.replicate n pump).flatten ++ [.enqueue 1 0 () longest 0]

theorem quantum : frameService plain longest.toNat = 18446744073709551615000000000000 := by
  have weight : plain.weight.toNat = 1 := rfl
  have length : longest.toNat = 18446744073709551615 := rfl
  rw [frameService,weight,length]
  norm_num [div_ceil]

/-- Three more frames of the first class. -/
def overtaking : List (Operation Unit) := (List.replicate 3 pump).flatten

/-- The first frame of the first class. -/
theorem apply_first : ∃ counters, apply unused (.enqueue 0 0 () longest 0) =
    ([],loaded (frameService plain longest.toNat) 0 counters [] 0 ⟨0,0,0,0,0,0,0,0⟩) := by
  obtain ⟨counted,arrives⟩ := enqueue_stuffed 0 unused_kept rfl (by simp [unused])
  have tag : min (max 0 unused.virtual_time + frameService plain longest.toNat) maxTag =
      frameService plain longest.toNat := by
    rw [quantum]; simp [unused,maxTag]
  rw [tag] at arrives
  exact ⟨counted,arrives⟩

/-- The first frame of the second class. -/
theorem apply_second (finish virtual : Nat) (counters counters' : QosClassCounters) : ∃ counted,
    apply (loaded finish virtual counters [] 0 counters') (.enqueue 1 0 () longest 0) =
      ([],loaded finish virtual counters [min (virtual + frameService plain longest.toNat) maxTag]
        (min (virtual + frameService plain longest.toNat) maxTag) counted) := by
  obtain ⟨counted,arrives⟩ := enqueue_stuffed 1 (loaded_kept finish virtual counters [] 0 counters') rfl
    (by simp [loaded])
  have tag : max 0 (loaded finish virtual counters [] 0 counters').virtual_time = virtual := Nat.zero_max virtual
  rw [tag] at arrives
  exact ⟨counted,arrives⟩

/-- After that run both classes have one frame, the second one's tag a quantum behind the virtual time. -/
theorem run_saturating (n : Nat) : ∃ counters counters' virtual,
    virtual ≤ min (frameService plain longest.toNat + n * frameService plain longest.toNat) maxTag ∧
    min (frameService plain longest.toNat + n * frameService plain longest.toNat) maxTag ≤
      virtual + frameService plain longest.toNat ∧
    (run unused (saturating n)).2 =
      loaded (min (frameService plain longest.toNat + n * frameService plain longest.toNat) maxTag) virtual counters
        [min (virtual + frameService plain longest.toNat) maxTag] (min (virtual + frameService plain longest.toNat) maxTag)
        counters' := by
  obtain ⟨entered,first⟩ := apply_first
  obtain ⟨counted,virtual,below,close,pumped,-⟩ := run_pumps n entered [] 0 ⟨0,0,0,0,0,0,0,0⟩
    (Nat.zero_le (frameService plain longest.toNat)) (by simp) (by simp)
    (by rw [quantum,maxTag]; norm_num) (by simp)
  obtain ⟨joined,second⟩ := apply_second
    (min (frameService plain longest.toNat + n * frameService plain longest.toNat) maxTag) virtual counted ⟨0,0,0,0,0,0,0,0⟩
  refine ⟨counted,joined,virtual,below,close,?_⟩
  rw [saturating,run_append,run_append]
  simp only [run,first,pumped,second]

theorem unsaturated_stuffed {s : QosScheduler Unit} (kept : s.reset_idle = s) {index : Nat} {finishes : List Nat}
    {last : Nat} {counters : QosClassCounters} (found : s.classes[index]? = some (stuffed finishes last counters))
    (fits : max last s.virtual_time + frameService plain longest.toNat ≤ maxTag) :
    Unsaturated s (.enqueue index 0 () longest 0) := by
  intro _ c isClass
  rw [kept,found] at isClass
  cases isClass
  rw [kept]
  exact fits

theorem weighted_fair_service_first_frame : RunUnsaturated unused (saturating 0 ++ pump) ∧
    |(sentBytes 0 (run (run unused (saturating 0)).2 pump).1 : ℚ) / plain.weight.toNat -
        sentBytes 1 (run (run unused (saturating 0)).2 pump).1 / plain.weight.toNat| ≤
      longest.toNat / plain.weight.toNat + longest.toNat / plain.weight.toNat +
        (sentFrames 0 (run (run unused (saturating 0)).2 pump).1 +
          sentFrames 1 (run (run unused (saturating 0)).2 pump).1) / fixedPoint := by
  obtain ⟨entered,first⟩ := apply_first
  obtain ⟨joined,second⟩ := apply_second (frameService plain longest.toNat) 0 entered ⟨0,0,0,0,0,0,0,0⟩
  have reached : (run unused (saturating 0)).2 = loaded (frameService plain longest.toNat) 0 entered
      [min (0 + frameService plain longest.toNat) maxTag] (min (0 + frameService plain longest.toNat) maxTag) joined := by
    simp only [saturating,List.replicate_zero,List.flatten_nil,List.append_nil,List.singleton_append,run,first,second]
  have fits : ∀ last virtual, last ≤ frameService plain longest.toNat → virtual ≤ frameService plain longest.toNat →
      max last virtual + frameService plain longest.toNat ≤ maxTag := by
    intro last virtual small behind
    rw [quantum] at *
    have := max_le small behind
    rw [maxTag]
    omega
  obtain ⟨-,-,busy,waiting⟩ := run_pump entered [min (0 + frameService plain longest.toNat) maxTag]
    (min (0 + frameService plain longest.toNat) maxTag) joined
    (Nat.zero_le (frameService plain longest.toNat)) (by simp) (by rw [quantum,maxTag]; simp)
  have unsaturated : RunUnsaturated unused (saturating 0 ++ pump) := by
    rw [runUnsaturated_append,reached]
    refine ⟨⟨unsaturated_stuffed unused_kept rfl (fits _ _ (Nat.zero_le _) (Nat.zero_le _)),?_⟩,?_⟩
    · rw [first]
      exact ⟨unsaturated_stuffed (loaded_kept ..) rfl (fits _ _ (Nat.zero_le _) (Nat.zero_le _)),trivial⟩
    · exact ⟨unsaturated_stuffed (loaded_kept ..) rfl (fits _ _ (le_refl _) (Nat.zero_le _)),trivial,trivial⟩
  have short : ∀ operation ∈ saturating 0 ++ pump, NoLonger longest.toNat operation := by simp [saturating,pump,NoLonger]
  refine ⟨unsaturated,?_⟩
  exact (weighted_fair_service new_unused (i := 0) (j := 1) rfl rfl
    ⟨rfl,rfl⟩ ⟨rfl,rfl⟩ short unsaturated (reached ▸ busy)).2 (reached ▸ waiting (by simp))

/-- Once the tags saturate, a class of two equal ones starves the other. -/
theorem weighted_fair_service_saturated : QosScheduler.new [plain,plain] 3 0 = .ok unused ∧
    (∀ operation ∈ saturating 33554432 ++ overtaking, NoLonger longest.toNat operation) ∧
    RunBacklogged (run unused (saturating 33554432)).2 0 overtaking ∧
    RunBacklogged (run unused (saturating 33554432)).2 1 overtaking ∧
    ¬ |(sentBytes 0 (run (run unused (saturating 33554432)).2 overtaking).1 : ℚ) / plain.weight.toNat -
        sentBytes 1 (run (run unused (saturating 33554432)).2 overtaking).1 / plain.weight.toNat| ≤
      longest.toNat / plain.weight.toNat + longest.toNat / plain.weight.toNat +
        (sentFrames 0 (run (run unused (saturating 33554432)).2 overtaking).1 +
          sentFrames 1 (run (run unused (saturating 33554432)).2 overtaking).1) / fixedPoint := by
  obtain ⟨counters,counters',virtual,below,close,reached⟩ := run_saturating 33554432
  have saturated : min (frameService plain longest.toNat + 33554432 * frameService plain longest.toNat) maxTag = maxTag := by
    rw [quantum,maxTag]; norm_num
  rw [saturated] at below close reached
  rw [min_eq_right close] at reached
  obtain ⟨_,_,-,-,sends,busy,waiting⟩ := run_pumps 3 counters [maxTag] maxTag counters'
    below (by simp) (by simp) (le_refl maxTag) close
  rw [reached]
  refine ⟨new_unused,?_,busy,waiting (by simp),?_⟩
  · have short : ∀ operation ∈ pump, NoLonger longest.toNat operation := by simp [pump,NoLonger]
    intro operation member
    simp only [saturating,overtaking,List.mem_append,List.mem_singleton,List.mem_flatten] at member
    rcases member with ((rfl | ⟨part,isPart,inside⟩) | rfl) | ⟨part,isPart,inside⟩
    · exact le_refl longest.toNat
    · exact short operation (List.eq_of_mem_replicate isPart ▸ inside)
    · exact le_refl longest.toNat
    · exact short operation (List.eq_of_mem_replicate isPart ▸ inside)
  · rw [overtaking,sends]
    have weight : plain.weight.toNat = 1 := rfl
    have length : longest.toNat = 18446744073709551615 := rfl
    simp only [sentBytes,sentFrames,weight,length,fixedPoint,List.replicate]
    norm_num [length]

end Rios.FairService
