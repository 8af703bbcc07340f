import Rios.QosDeadlines

/-!
# The waiting of a scheduler

A scheduler that is left alone keeps its earliest time: asked later, it answers
the same time, or the time of the question once that has passed. To look at the
queues or to refuse a frame changes no answer.
-/

namespace Rios.QosWaits
open Rios.Machine Rios.Qos Rios.QosLedger Rios.QosDeadlines
open Rios.Queue (SimTime ScheduleError)
open Rios.FairService (WellFormed views)

universe u
variable {T : Type u} {now later : SimTime} {s : QosScheduler T}

/-! ### Deadlines stay -/

/-- A wait becomes shorter by the time that passes. -/
theorem wait_shortens {bucket : TokenBucket} {bytes : UInt64} (rate : 0 < bucket.rate.bits_per_second.toNat)
    (updated : bucket.updated ≤ now) (fits : bytes ≤ bucket.rate.burst_bytes) (passed : now ≤ later) :
    div_ceil (bytes.toNat * BYTE_CREDITS - bucket.level later) bucket.rate.bits_per_second.toNat =
      div_ceil (bytes.toNat * BYTE_CREDITS - bucket.level now) bucket.rate.bits_per_second.toNat - (later.toNat - now.toNat) := by
  have below : bytes.toNat * BYTE_CREDITS ≤ bucket.depth := Nat.mul_le_mul_right _ (UInt64.le_iff_toNat_le.mp fits)
  have grown : bucket.level later = min (bucket.level now +
      (later.toNat - now.toNat) * bucket.rate.bits_per_second.toNat) bucket.depth := by
    rw [← TokenBucket.level_refill bucket passed,TokenBucket.level,TokenBucket.refill_eq]
    simp only [max_eq_left updated]
    rfl
  have first := fun d => TokenBucket.div_ceil_le_iff (bytes.toNat * BYTE_CREDITS - bucket.level now) d rate
  have second := fun d => TokenBucket.div_ceil_le_iff (bytes.toNat * BYTE_CREDITS - bucket.level later) d rate
  rw [grown] at second ⊢
  generalize bytes.toNat * BYTE_CREDITS = price at *
  generalize bucket.level now = level at *
  generalize bucket.rate.bits_per_second.toNat = speed at *
  generalize div_ceil (price - level) speed = wait at first ⊢
  generalize div_ceil _ speed = rest at second ⊢
  have same : ∀ d, rest ≤ d ↔ wait ≤ d + (later.toNat - now.toNat) := by
    intro d
    rw [first,second,Nat.add_mul]
    omega
  have least := (same rest).mp le_rfl
  have enough := (same (wait - (later.toNat - now.toNat))).mpr (by omega)
  omega

/-- The end of a wait stays, unless it has passed. -/
theorem end_stays {wait : Nat} {time : SimTime} (short : wait < 2 ^ 64) (passed : now ≤ later)
    (sum : checkedAdd64 now (UInt64.ofNat wait) = some time) :
    checkedAdd64 later (UInt64.ofNat (wait - (later.toNat - now.toNat))) = some (max time later) := by
  have order := UInt64.le_iff_toNat_le.mp passed
  have exactly := checkedAdd64_eq_some sum
  have bound := time.toNat_lt
  have small := later.toNat_lt
  rw [UInt64.toNat_ofNat_of_lt' short] at exactly
  have remaining : (UInt64.ofNat (wait - (later.toNat - now.toNat))).toNat = wait - (later.toNat - now.toNat) :=
    UInt64.toNat_ofNat_of_lt' ((Nat.sub_le ..).trans_lt short)
  unfold checkedAdd64
  rw [remaining,if_pos (by omega)]
  refine congrArg some (UInt64.toNat_inj.mp ?_)
  rw [UInt64.toNat_add,remaining,Nat.mod_eq_of_lt (by omega)]
  rcases le_total time later with due | due
  · have := UInt64.le_iff_toNat_le.mp due
    rw [max_eq_right due]
    omega
  · have := UInt64.le_iff_toNat_le.mp due
    rw [max_eq_left due]
    omega

/-- A deadline that was computed earlier is the one computed later, unless it has passed. -/
theorem deadline_stays {bucket : TokenBucket} {bytes : UInt64} {time : SimTime}
    (rate : 0 < bucket.rate.bits_per_second.toNat)
    (updated : bucket.updated ≤ now) (fits : bytes ≤ bucket.rate.burst_bytes) (ready : bucket.deadline now bytes = .ok time)
    (passed : now ≤ later) : bucket.deadline later bytes = .ok (max time later) := by
  unfold TokenBucket.deadline at ready ⊢
  rw [wait_shortens rate updated fits passed]
  generalize div_ceil (bytes.toNat * BYTE_CREDITS - bucket.level now) bucket.rate.bits_per_second.toNat = wait at ready ⊢
  by_cases short : wait < 2 ^ 64
  · rw [if_pos short] at ready
    rw [if_pos ((Nat.sub_le ..).trans_lt short)]
    cases sum : checkedAdd64 now (UInt64.ofNat wait) with
    | none =>
      rw [sum] at ready
      cases ready
    | some total =>
      rw [sum] at ready
      cases ready
      rw [end_stays short passed sum]
      rfl
  · rw [if_neg short] at ready
    cases ready

/-- The loop of `next_ready` over deadlines that stay. -/
theorem next_ready_with_later {ready : TokenBucket → SimTime → UInt64 → Except ScheduleError SimTime × TokenBucket}
    (passed : now ≤ later) (classes : List (QosClass T))
    (stays : ∀ c ∈ classes, ∀ packet packets bucket, c.packets = packet :: packets → c.shape = some bucket →
      ∀ time, (ready bucket now packet.bytes).1 = .ok time → (ready bucket later packet.bytes).1 = .ok (max time later))
    {least next : Option SimTime} (found : (QosScheduler.next_ready_with ready now classes least).1 = .ok next) :
    (QosScheduler.next_ready_with ready later classes (least.map (max · later))).1 = .ok (next.map (max · later)) := by
  induction classes generalizing least with
  | nil =>
    cases found
    rfl
  | cons c rest ih =>
    obtain ⟨here,others⟩ := List.forall_mem_cons.mp stays
    have step : ∀ time, some ((least.map (max · later)).elim (max time later) (min · (max time later))) =
        (some (least.elim time (min · time))).map (max · later) := by
      intro time
      cases least with
      | none => rfl
      | some old => exact congrArg some (max_min_distrib_right old time later).symm
    obtain ⟨config,priority,police,shape,packets,last,counters⟩ := c
    cases packets with
    | nil => exact ih others found
    | cons packet packets =>
      cases shape with
      | none =>
        have continues := ih others found
        rw [← step now,max_eq_right passed] at continues
        exact continues
      | some bucket =>
        have due := here packet packets bucket rfl rfl
        simp only [QosScheduler.next_ready_with] at found ⊢
        cases earlier : ready bucket now packet.bytes with
        | mk result after =>
          rw [earlier] at found due
          cases result with
          | error error => cases found
          | ok time =>
            have same := due time rfl
            cases asked : ready bucket later packet.bytes with
            | mk answer refreshed =>
              rw [asked] at same
              obtain rfl : answer = .ok (max time later) := same
              have continues := ih others found
              rw [← step time] at continues
              exact continues

/-! ### Schedulers that are kept up -/

/-- A scheduler of some configuration whose buckets are up to a time. -/
structure Kept (now : SimTime) (s : QosScheduler T) : Prop where
  formed : ∃ configs, WellFormed configs s
  buckets : ∀ c ∈ s.classes, ∃ config, Sound config now c

theorem Kept.lasts (kept : Kept now s) (passed : now ≤ later) : Kept later s where
  formed := kept.formed
  buckets c member := by
    obtain ⟨config,sound⟩ := kept.buckets c member
    exact ⟨config,sound.later passed⟩

/-- Every call keeps a scheduler up to the time of the call. -/
theorem Kept.after (kept : Kept now s) (call : Call T) (passed : now ≤ call.now) : Kept call.now (after s call) := by
  obtain ⟨configs,formed⟩ := kept.formed
  have formed_after := after_formed formed call
  refine ⟨⟨configs,formed_after⟩,fun c member => ?_⟩
  obtain ⟨k,found⟩ := List.mem_iff_getElem?.mp member
  have inside : k < s.classes.length := by
    have counts : (QosLedger.after s call).classes.length = s.classes.length := by
      have before := congrArg List.length formed.configured
      rw [← formed_after.configured] at before
      simpa only [List.length_map,views] using before.symm
    rw [← counts]
    exact (List.getElem?_eq_some_iff.mp found).1
  obtain ⟨next,there,moves⟩ := after_moves s call (List.getElem?_eq_getElem inside)
  obtain rfl : next = c := Option.some.inj (there.symm.trans found)
  obtain ⟨config,sound⟩ := kept.buckets _ (List.getElem_mem inside)
  exact ⟨config,sound.moves passed moves⟩

theorem new_kept {configs : List QueueClassConfig} {capacity : Nat}
    (created : QosScheduler.new configs capacity now = .ok s) :
    Kept now s ∧ s.length = 0 := by
  have formed := (FairService.new_sound (L := 0) created).1.formed
  refine ⟨⟨⟨configs,formed⟩,fun c member => ?_⟩,?_⟩
  · obtain ⟨k,found⟩ := List.mem_iff_getElem?.mp member
    have inside : k < configs.length := by
      rw [← formed.configured,List.length_map,FairService.views,List.length_map]
      exact (List.getElem?_eq_some_iff.mp found).1
    obtain ⟨first,there,sound,-⟩ := QosDeadlines.new_sound created (List.getElem?_eq_getElem inside)
    obtain rfl : first = c := Option.some.inj (there.symm.trans found)
    exact ⟨_,sound⟩
  · unfold QosScheduler.new at created
    split_ifs at created
    cases created
    rfl

/-- A scheduler that is left alone keeps its earliest time. -/
theorem Kept.next_ready_later (kept : Kept now s) (passed : now ≤ later) {next : Option SimTime}
    (answer : (s.next_ready now).1 = .ok next) : (s.next_ready later).1 = .ok (next.map (max · later)) := by
  rw [QosScheduler.next_ready,QosScheduler.next_ready_from_eq] at answer ⊢
  refine next_ready_with_later passed s.classes ?_ answer
  intro c member packet packets bucket queued shaped time ready
  obtain ⟨config,sound⟩ := kept.buckets c member
  obtain ⟨rate,updated⟩ := sound.shape.2 bucket shaped
  have limited : some bucket.rate = config.shape := by
    rw [← sound.shape.1,shaped]
    rfl
  have fits : packet.bytes ≤ bucket.rate.burst_bytes := sound.fits _ limited.symm packet (queued ▸ List.mem_cons_self ..)
  simp only [TokenBucket.ready_at_eq] at ready ⊢
  exact deadline_stays rate updated fits ready passed

/-- Asking again gives the same answer. -/
theorem next_ready_twice (s : QosScheduler T) (now : SimTime) :
    ((s.next_ready now).2.next_ready now).1 = (s.next_ready now).1 := by
  have settled : settle now (s.next_ready now).2 = settle now s :=
    congrArg (fun classes => { s with classes }) (looked_settles (next_ready_looked s now))
  rw [← (next_ready_settle now (s.next_ready now).2).1,settled,(next_ready_settle now s).1]

/-- Without an earliest time nothing is queued. -/
theorem Kept.next_ready_none (kept : Kept now s) (answer : (s.next_ready now).1 = .ok none) : s.length = 0 := by
  obtain ⟨configs,formed⟩ := kept.formed
  have promise := next_ready_exact formed kept.buckets
  unfold Exact at promise
  generalize s.next_ready now = asked at promise answer
  obtain ⟨result,next⟩ := asked
  obtain rfl : result = .ok none := answer
  exact promise.1

/-- From its earliest time on a frame departs. -/
theorem Kept.departs (kept : Kept now s) {first : SimTime} (answer : (s.next_ready now).1 = .ok (some first))
    (passed : now ≤ later) (due : first ≤ later) :
    ∃ departure rest, s.dequeue_ready later = (some departure,rest) ∧ rest.length + 1 = s.length := by
  have departs := ((departs_iff kept.buckets answer).2 later passed).mpr due
  obtain ⟨configs,formed⟩ := kept.formed
  rcases dequeue_outcome s later with ⟨result,-⟩ | ⟨k,c,packet,packets,virtual,known,queued,-,-,result⟩
  · rw [result] at departs
    cases departs
  · refine ⟨_,_,result,?_⟩
    have member : c.packets.length ∈ s.classes.map (fun c => c.packets.length) := List.mem_map_of_mem (List.mem_of_getElem? known)
    have counted := List.le_sum_of_mem member
    rw [← formed_length formed,queued,List.length_cons] at counted
    show s.length - 1 + 1 = s.length
    omega

/-! ### Refusals -/

/-- The answer depends on the frames and the shapers only. -/
theorem next_ready_with_same {ready : TokenBucket → SimTime → UInt64 → Except ScheduleError SimTime × TokenBucket}
    {classes others : List (QosClass T)} (same : others.map (fun c => (c.packets,c.shape)) = classes.map (fun c => (c.packets,c.shape)))
    (least : Option SimTime) :
    (QosScheduler.next_ready_with ready now others least).1 = (QosScheduler.next_ready_with ready now classes least).1 := by
  induction classes generalizing others least with
  | nil =>
    obtain rfl := List.map_eq_nil_iff.mp same
    rfl
  | cons c rest ih =>
    cases others with
    | nil => cases same
    | cons other others =>
      obtain ⟨head,tail⟩ := List.cons.inj same
      obtain ⟨config,priority,police,shape,packets,last,counters⟩ := c
      obtain ⟨config',priority',police',shape',packets',last',counters'⟩ := other
      obtain ⟨rfl,rfl⟩ := Prod.mk.inj head
      cases packets' with
      | nil => exact ih tail least
      | cons packet packets =>
        cases shape' with
        | none => exact ih tail _
        | some bucket =>
          simp only [QosScheduler.next_ready_with]
          cases ready bucket now packet.bytes with
          | mk result after =>
            cases result with
            | error error => rfl
            | ok time => exact ih tail _

/-- A frame that is handed back changes neither the number of frames nor their earliest time. -/
theorem next_ready_rejected {index : Nat} {packet : T} {bytes : UInt64} {in_flight : Nat} {rejected : QueueRejected T}
    (refused : (s.enqueue index now packet bytes in_flight).1 = .error rejected) :
    (s.enqueue index now packet bytes in_flight).2.length = s.length ∧
      ((s.enqueue index now packet bytes in_flight).2.next_ready now).1 = (s.next_ready now).1 := by
  refine ⟨(rejected_waiting refused).1,?_⟩
  have reset : s.reset_idle.classes.map (fun c => (c.packets,c.shape)) = s.classes.map (fun c => (c.packets,c.shape)) := by
    unfold QosScheduler.reset_idle
    by_cases idle : s.length = 0
    · rw [if_pos idle]
      simp
    · rw [if_neg idle]
  have answers : ∀ classes : List (QosClass T), classes.map (fun c => (c.packets,c.shape)) =
      s.classes.map (fun c => (c.packets,c.shape)) → (({ s.reset_idle with classes } : QosScheduler T).next_ready now).1 =
        (s.next_ready now).1 := by
    intro classes same
    simp only [QosScheduler.next_ready,QosScheduler.next_ready_from_eq]
    exact next_ready_with_same same none
  rcases enqueue_outcome s index now packet bytes in_flight with
    ⟨-,result⟩ | ⟨c,priority,found,-,⟨reason,-,result⟩ | ⟨finish,-,-,-,result⟩⟩
  · rw [result]
    exact answers _ reset
  · rw [result]
    refine answers _ ?_
    rw [List.map_set,← reset]
    refine List.ext_getElem? fun k => ?_
    by_cases here : index = k
    · subst here
      obtain ⟨inside,value⟩ := List.getElem?_eq_some_iff.mp found
      have kept := (seen_frame c now bytes priority (some reason)).2
      rw [List.getElem?_set_self (by simpa using inside),kept.1,kept.2.1,List.getElem?_map,found]
      rfl
    · rw [List.getElem?_set_ne here]
  · rw [result] at refused
    cases refused

end Rios.QosWaits
