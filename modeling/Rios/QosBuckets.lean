import Rios.Qos

/-!
# The credit of a token bucket

What a bucket's credit is at a time does not depend on when it was looked at
before, and the deadline of a frame is the first time at which it is covered.
-/

namespace Rios.Qos.TokenBucket
open Rios.Machine
open Rios.Queue (SimTime ScheduleError)

variable {bucket : TokenBucket} {now later : SimTime} {bytes : UInt64}

/-- The largest credit of a bucket. -/
def depth (bucket : TokenBucket) : Nat := bucket.rate.burst_bytes.toNat * BYTE_CREDITS

/-- The credit that a bucket has at a time. -/
def level (bucket : TokenBucket) (now : SimTime) : Nat :=
  min (bucket.credit + (now.toNat - bucket.updated.toNat) * bucket.rate.bits_per_second.toNat) bucket.depth

theorem refill_eq (bucket : TokenBucket) (now : SimTime) :
    bucket.refill now = ⟨bucket.rate,bucket.level now,max now bucket.updated⟩ := by
  have elapsed : (satSub64 now bucket.updated).toNat = now.toNat - bucket.updated.toNat := satSub64_toNat ..
  have representable : bucket.depth ≤ maxTag := by
    have := bucket.rate.burst_bytes.toNat_lt
    unfold depth BYTE_CREDITS maxTag
    omega
  unfold refill level
  simp only [elapsed]
  rw [min_assoc]
  change TokenBucket.mk _ (min _ (min maxTag bucket.depth)) _ = _
  rw [min_eq_right representable]

theorem level_le_depth (bucket : TokenBucket) (now : SimTime) : bucket.level now ≤ bucket.depth := min_le_right _ _

/-- Credit that comes in two parts is the credit of the whole time. -/
theorem level_refill (bucket : TokenBucket) (passed : now ≤ later) :
    (bucket.refill now).level later = bucket.level later := by
  have order := UInt64.le_iff_toNat_le.mp passed
  rw [refill_eq]
  unfold level
  simp only [UInt64.toNat_max]
  change min (min _ bucket.depth + _) bucket.depth = _
  have parts : (later.toNat - bucket.updated.toNat) * bucket.rate.bits_per_second.toNat =
      (now.toNat - bucket.updated.toNat) * bucket.rate.bits_per_second.toNat +
        (later.toNat - max now.toNat bucket.updated.toNat) * bucket.rate.bits_per_second.toNat := by
    rw [← Nat.add_mul]
    congr 1
    omega
  rw [parts]
  omega

/-- A bucket does not remember when it was looked at. -/
theorem refill_refill (bucket : TokenBucket) (passed : now ≤ later) :
    (bucket.refill now).refill later = bucket.refill later := by
  rw [refill_eq (bucket.refill now),level_refill bucket passed,refill_eq,refill_eq]
  simp only [TokenBucket.mk.injEq,true_and]
  rw [← max_assoc,max_eq_left passed]

/-- The credit grows by at most the rate. -/
theorem level_later (bucket : TokenBucket) (passed : now ≤ later) :
    bucket.level later ≤ bucket.level now + bucket.rate.bits_per_second.toNat * (later.toNat - now.toNat) := by
  have order := UInt64.le_iff_toNat_le.mp passed
  have parts : (later.toNat - bucket.updated.toNat) * bucket.rate.bits_per_second.toNat ≤
      (now.toNat - bucket.updated.toNat) * bucket.rate.bits_per_second.toNat +
        bucket.rate.bits_per_second.toNat * (later.toNat - now.toNat) := by
    rw [Nat.mul_comm bucket.rate.bits_per_second.toNat,← Nat.add_mul]
    exact Nat.mul_le_mul_right _ (by omega)
  unfold level
  omega

theorem available_eq (bucket : TokenBucket) (now : SimTime) (bytes : UInt64) :
    bucket.available now bytes = (decide (bytes.toNat * BYTE_CREDITS ≤ bucket.level now),bucket.refill now) := by
  unfold available
  rw [refill_eq]

theorem available_refill (bucket : TokenBucket) (now : SimTime) (bytes : UInt64) :
    (bucket.refill now).available now bytes = bucket.available now bytes := by
  rw [available_eq,available_eq,level_refill bucket le_rfl,refill_refill bucket le_rfl]

/-- The whole function is unfolded at once: the credit products must not be computed. -/
theorem take_eq : take = fun bucket now bytes =>
    ((bucket.available now bytes).1,if (bucket.available now bytes).1 then
      { (bucket.available now bytes).2 with credit := (bucket.available now bytes).2.credit - bytes.toNat * BYTE_CREDITS }
      else (bucket.available now bytes).2) := by
  delta take
  funext bucket now bytes
  generalize bucket.available now bytes = looked
  obtain ⟨enough,after⟩ := looked
  cases enough with
  | false => simp only [Bool.false_eq_true,if_false]
  | true => simp only [if_true]

theorem take_refill (bucket : TokenBucket) (now : SimTime) (bytes : UInt64) :
    (bucket.refill now).take now bytes = bucket.take now bytes := by
  simp only [take_eq,available_refill]

/-- What `take` leaves: the rate, the time, and the credit less what it gave. -/
theorem take_frame (bucket : TokenBucket) (now : SimTime) (bytes : UInt64) :
    (bucket.take now bytes).2.rate = bucket.rate ∧ (bucket.take now bytes).2.updated = max now bucket.updated := by
  simp only [take_eq,available_eq,refill_eq]
  split_ifs <;> exact ⟨rfl,rfl⟩

theorem refill_frame (bucket : TokenBucket) (now : SimTime) :
    (bucket.refill now).rate = bucket.rate ∧ (bucket.refill now).updated = max now bucket.updated := by
  rw [refill_eq]
  exact ⟨rfl,rfl⟩

theorem take_fst (bucket : TokenBucket) (now : SimTime) (bytes : UInt64) :
    (bucket.take now bytes).1 = (bucket.available now bytes).1 := by
  simp only [take_eq]

/-- A frame that passes costs its bytes. -/
theorem take_spends (enough : (bucket.available now bytes).1 = true) :
    bytes.toNat * BYTE_CREDITS + (bucket.take now bytes).2.level now ≤ bucket.level now := by
  have left : (bucket.take now bytes).2.credit = bucket.level now - bytes.toNat * BYTE_CREDITS ∧
      (bucket.take now bytes).2.updated = max now bucket.updated := by
    refine ⟨?_,(take_frame bucket now bytes).2⟩
    simp only [take_eq,enough,if_true]
    rw [available_eq,refill_eq]
  have elapsed : now.toNat - (max now bucket.updated).toNat = 0 := by
    rw [UInt64.toNat_max]
    omega
  have covered : bytes.toNat * BYTE_CREDITS ≤ bucket.level now := by
    rw [available_eq] at enough
    exact of_decide_eq_true enough
  have small : (bucket.take now bytes).2.level now ≤ bucket.level now - bytes.toNat * BYTE_CREDITS := by
    unfold level
    rw [left.1,left.2,elapsed,Nat.zero_mul,Nat.add_zero]
    exact min_le_left _ _
  generalize bytes.toNat * BYTE_CREDITS = price at *
  omega

theorem take_level_le (bucket : TokenBucket) (now : SimTime) (bytes : UInt64) :
    (bucket.take now bytes).2.level now ≤ bucket.level now := by
  cases enough : (bucket.available now bytes).1 with
  | true => exact (Nat.le_add_left _ _).trans (take_spends enough)
  | false =>
    have kept : (bucket.take now bytes).2 = bucket.refill now := by
      simp only [take_eq,enough]
      rw [available_eq]
      rfl
    rw [kept,level_refill bucket le_rfl]

/-- The time at which a bucket covers what it misses now. -/
def deadline (bucket : TokenBucket) (now : SimTime) (bytes : UInt64) : Except ScheduleError SimTime :=
  let wait := div_ceil (bytes.toNat * BYTE_CREDITS - bucket.level now) bucket.rate.bits_per_second.toNat
  if wait < 2 ^ 64 then (checkedAdd64 now (UInt64.ofNat wait)).elim (.error .Overflow) .ok else .error .Overflow

theorem ready_at_eq : ready_at = fun bucket now bytes => (bucket.deadline now bytes,bucket.refill now) := by
  delta ready_at deadline
  funext bucket now bytes
  simp only [refill_eq]
  generalize div_ceil _ _ = wait
  generalize checkedAdd64 now (UInt64.ofNat wait) = sum
  split_ifs
  · cases sum <;> trivial
  · trivial

theorem deadline_refill (bucket : TokenBucket) (now : SimTime) (bytes : UInt64) :
    (bucket.refill now).deadline now bytes = bucket.deadline now bytes := by
  have rate : (bucket.refill now).rate = bucket.rate := by rw [refill_eq]
  simp only [deadline,level_refill bucket le_rfl,rate]

/-- A rounded-up quotient is the least sufficient factor. -/
theorem div_ceil_le_iff {b : Nat} (a d : Nat) (positive : 0 < b) : div_ceil a b ≤ d ↔ a ≤ d * b := by
  have division := Nat.div_add_mod' a b
  have remainder := Nat.mod_lt a positive
  unfold div_ceil
  split_ifs with exact
  · rw [exact,Nat.add_zero] at division
    rw [Nat.add_zero]
    constructor
    · intro enough
      rw [← division]
      exact Nat.mul_le_mul_right _ enough
    · intro enough
      rw [← division] at enough
      exact Nat.le_of_mul_le_mul_right enough positive
  · constructor
    · intro enough
      calc a ≤ a / b * b + b := by omega
        _ = (a / b + 1) * b := by rw [Nat.add_mul,Nat.one_mul]
        _ ≤ d * b := Nat.mul_le_mul_right _ enough
    · intro enough
      rw [Nat.add_one_le_iff]
      refine Nat.lt_of_mul_lt_mul_right (a := b) ?_
      omega

/-- The deadline of a frame that fits the burst is the first time at which it is covered. -/
theorem deadline_iff {time : SimTime} (rate : 0 < bucket.rate.bits_per_second.toNat) (updated : bucket.updated ≤ now)
    (fits : bytes ≤ bucket.rate.burst_bytes) (ready : bucket.deadline now bytes = .ok time) (passed : now ≤ later) :
    (bucket.available later bytes).1 = true ↔ time ≤ later := by
  have order := UInt64.le_iff_toNat_le.mp passed
  have before := UInt64.le_iff_toNat_le.mp updated
  have below : bytes.toNat * BYTE_CREDITS ≤ bucket.depth := Nat.mul_le_mul_right _ (UInt64.le_iff_toNat_le.mp fits)
  have wait := div_ceil_le_iff (bytes.toNat * BYTE_CREDITS - bucket.level now) (later.toNat - now.toNat) rate
  -- the credit grows without a cap until it covers the frame
  have grown : bucket.level later = min (bucket.level now +
      (later.toNat - now.toNat) * bucket.rate.bits_per_second.toNat) bucket.depth := by
    rw [← level_refill bucket passed,level,refill_eq]
    simp only [max_eq_left updated]
    rfl
  rw [available_eq,decide_eq_true_iff,grown]
  unfold deadline at ready
  generalize bytes.toNat * BYTE_CREDITS = price at *
  generalize div_ceil _ _ = units at ready wait
  by_cases short : units < 2 ^ 64
  · rw [if_pos short] at ready
    cases sum : checkedAdd64 now (UInt64.ofNat units) with
    | none =>
      rw [sum] at ready
      cases ready
    | some total =>
      rw [sum] at ready
      cases ready
      have exactly := checkedAdd64_eq_some sum
      rw [UInt64.toNat_ofNat_of_lt' short] at exactly
      rw [UInt64.le_iff_toNat_le,exactly]
      constructor
      · intro covered
        have enough := wait.mpr (by omega)
        omega
      · intro due
        have enough := wait.mp (by omega)
        omega
  · rw [if_neg short] at ready
    cases ready

/-- A deadline is not before the time at which it is asked for. -/
theorem deadline_later {time : SimTime} (ready : bucket.deadline now bytes = .ok time) : now ≤ time := by
  unfold deadline at ready
  generalize div_ceil _ _ = units at ready
  by_cases short : units < 2 ^ 64
  · rw [if_pos short] at ready
    cases sum : checkedAdd64 now (UInt64.ofNat units) with
    | none =>
      rw [sum] at ready
      cases ready
    | some total =>
      rw [sum] at ready
      cases ready
      rw [UInt64.le_iff_toNat_le,checkedAdd64_eq_some sum]
      exact Nat.le_add_right _ _
  · rw [if_neg short] at ready
    cases ready

end Rios.Qos.TokenBucket
