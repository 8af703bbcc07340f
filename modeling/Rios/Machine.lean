import Mathlib

/-!
# Machine words

The fixed-width unsigned integers as linear orders, and the checked and
saturating operations on them, each with what it computes on the naturals.
-/

namespace Rios.Machine

instance linearOrderUInt8 : LinearOrder UInt8 where
  le_refl := UInt8.le_refl
  le_trans _ _ _ := UInt8.le_trans
  lt_iff_le_not_ge a b := by rw [UInt8.lt_iff_toNat_lt,UInt8.le_iff_toNat_le,UInt8.le_iff_toNat_le]; omega
  le_antisymm _ _ := UInt8.le_antisymm
  le_total := UInt8.le_total
  toDecidableLE := inferInstance
  toDecidableEq := inferInstance
  toDecidableLT := inferInstance
  min_def _ _ := rfl
  max_def _ _ := rfl
  compare_eq_compareOfLessAndEq _ _ := rfl

instance linearOrderUInt16 : LinearOrder UInt16 where
  le_refl := UInt16.le_refl
  le_trans _ _ _ := UInt16.le_trans
  lt_iff_le_not_ge a b := by rw [UInt16.lt_iff_toNat_lt,UInt16.le_iff_toNat_le,UInt16.le_iff_toNat_le]; omega
  le_antisymm _ _ := UInt16.le_antisymm
  le_total := UInt16.le_total
  toDecidableLE := inferInstance
  toDecidableEq := inferInstance
  toDecidableLT := inferInstance
  min_def _ _ := rfl
  max_def _ _ := rfl
  compare_eq_compareOfLessAndEq _ _ := rfl

instance linearOrderUInt32 : LinearOrder UInt32 where
  le_refl := UInt32.le_refl
  le_trans _ _ _ := UInt32.le_trans
  lt_iff_le_not_ge a b := by rw [UInt32.lt_iff_toNat_lt,UInt32.le_iff_toNat_le,UInt32.le_iff_toNat_le]; omega
  le_antisymm _ _ := UInt32.le_antisymm
  le_total := UInt32.le_total
  toDecidableLE := inferInstance
  toDecidableEq := inferInstance
  toDecidableLT := inferInstance
  min_def _ _ := rfl
  max_def _ _ := rfl
  compare_eq_compareOfLessAndEq _ _ := rfl

instance linearOrderUInt64 : LinearOrder UInt64 where
  le_refl := UInt64.le_refl
  le_trans _ _ _ := UInt64.le_trans
  lt_iff_le_not_ge a b := by rw [UInt64.lt_iff_toNat_lt,UInt64.le_iff_toNat_le,UInt64.le_iff_toNat_le]; omega
  le_antisymm _ _ := UInt64.le_antisymm
  le_total := UInt64.le_total
  toDecidableLE := inferInstance
  toDecidableEq := inferInstance
  toDecidableLT := inferInstance
  min_def _ _ := rfl
  max_def _ _ := rfl
  compare_eq_compareOfLessAndEq _ _ := rfl

/-- `u64::checked_add`. -/
def checkedAdd64 (a b : UInt64) : Option UInt64 :=
  if a.toNat + b.toNat < 2 ^ 64 then some (a + b) else none
/-- `u64::checked_mul`. -/
def checkedMul64 (a b : UInt64) : Option UInt64 :=
  if a.toNat * b.toNat < 2 ^ 64 then some (a * b) else none
/-- `u64::saturating_add`. -/
def satAdd64 (a b : UInt64) : UInt64 := UInt64.ofNat (min (a.toNat + b.toNat) (2 ^ 64 - 1))
/-- `u64::saturating_sub`. -/
def satSub64 (a b : UInt64) : UInt64 := UInt64.ofNat (a.toNat - b.toNat)
/-- `u32::saturating_add`. -/
def satAdd32 (a b : UInt32) : UInt32 := UInt32.ofNat (min (a.toNat + b.toNat) (2 ^ 32 - 1))
/-- `u32::saturating_sub`. -/
def satSub32 (a b : UInt32) : UInt32 := UInt32.ofNat (a.toNat - b.toNat)
/-- `u32::checked_add`. -/
def checkedAdd32 (a b : UInt32) : Option UInt32 :=
  if a.toNat + b.toNat < 2 ^ 32 then some (a + b) else none
/-- `u16::saturating_add`. -/
def satAdd16 (a b : UInt16) : UInt16 := UInt16.ofNat (min (a.toNat + b.toNat) (2 ^ 16 - 1))

/-- What a successful computation in two steps consists of. -/
theorem bind_ok {α β ε : Type} {first : Except ε α} {second : α → Except ε β} {result : β}
    (done : (do second (← first)) = .ok result) : ∃ middle, first = .ok middle ∧ second middle = .ok result := by
  cases first with
  | error error => cases done
  | ok middle => exact ⟨middle,rfl,done⟩

theorem checkedAdd64_eq_some {a b c : UInt64} (sum : checkedAdd64 a b = some c) :
    c.toNat = a.toNat + b.toNat := by
  unfold checkedAdd64 at sum
  split at sum
  · cases sum
    rw [UInt64.toNat_add,Nat.mod_eq_of_lt (by assumption)]
  · cases sum

theorem checkedAdd64_lt {a c : UInt64} (next : checkedAdd64 a 1 = some c) : a < c := by
  rw [UInt64.lt_iff_toNat_lt,checkedAdd64_eq_some next]
  exact Nat.lt_succ_self _

theorem checkedAdd32_eq_some {a b c : UInt32} (sum : checkedAdd32 a b = some c) :
    c.toNat = a.toNat + b.toNat := by
  unfold checkedAdd32 at sum
  split at sum
  · cases sum
    rw [UInt32.toNat_add,Nat.mod_eq_of_lt (by assumption)]
  · cases sum

@[simp] theorem satAdd64_toNat (a b : UInt64) :
    (satAdd64 a b).toNat = min (a.toNat + b.toNat) (2 ^ 64 - 1) := by
  rw [satAdd64,UInt64.toNat_ofNat_of_lt']
  simp [UInt64.size]

@[simp] theorem satSub64_toNat (a b : UInt64) : (satSub64 a b).toNat = a.toNat - b.toNat := by
  rw [satSub64,UInt64.toNat_ofNat_of_lt']
  have := a.toNat_lt
  simp [UInt64.size]
  omega

@[simp] theorem satAdd32_toNat (a b : UInt32) :
    (satAdd32 a b).toNat = min (a.toNat + b.toNat) (2 ^ 32 - 1) := by
  rw [satAdd32,UInt32.toNat_ofNat_of_lt']
  simp [UInt32.size]

theorem zero_satAdd32 (a : UInt32) : satAdd32 0 a = a := by
  apply UInt32.toNat.inj
  have bound := a.toNat_lt
  rw [satAdd32_toNat,UInt32.toNat_zero,Nat.zero_add]
  omega

theorem satAdd32_zero (a : UInt32) : satAdd32 a 0 = a := by
  apply UInt32.toNat.inj
  have bound := a.toNat_lt
  rw [satAdd32_toNat,UInt32.toNat_zero,Nat.add_zero]
  omega

theorem satAdd32_le {first second : UInt32} (less : first ≤ second) (metric : UInt32) :
    satAdd32 first metric ≤ satAdd32 second metric := by
  rw [UInt32.le_iff_toNat_le,satAdd32_toNat,satAdd32_toNat]
  have number := UInt32.le_iff_toNat_le.mp less
  omega

theorem le_satAdd32 (a b : UInt32) : a ≤ satAdd32 a b := by
  rw [UInt32.le_iff_toNat_le,satAdd32_toNat]
  have := a.toNat_lt
  omega

theorem le_satAdd64 (a b : UInt64) : a ≤ satAdd64 a b := by
  rw [UInt64.le_iff_toNat_le,satAdd64_toNat]
  have := a.toNat_lt
  omega

end Rios.Machine
