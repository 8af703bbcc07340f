import Mathlib

/-!
# Fletcher checksums

Two running sums modulo a number: the plain sum of the values, and the sum in
which a value counts once for each value from it on. Two check values that solve
both congruences can be put anywhere, and no change of one value goes unnoticed.
-/

namespace Rios.Fletcher

/-- The sum in which the last value counts once, the one before it twice, and so on. -/
def weighted : List Int → Int
  | [] => 0
  | value :: rest => (rest.length + 1) * value + weighted rest

/-- The two running sums. -/
def running (m : Int) (values : List Int) : Int × Int :=
  values.foldl (fun sums value => ((sums.1 + value) % m,(sums.2 + (sums.1 + value) % m) % m)) (0,0)

theorem weighted_append (front rest : List Int) : weighted (front ++ rest) = weighted front + rest.length * front.sum +
    weighted rest := by
  induction front with
  | nil => simp [weighted]
  | cons value front ih =>
    rw [List.cons_append,weighted,ih,weighted,List.sum_cons,List.length_append]
    push_cast
    ring

/-- The running sums are the two sums of the whole list. -/
theorem running_eq (m : Int) (values : List Int) : running m values = (values.sum % m,weighted values % m) := by
  induction values using List.reverseRecOn with
  | nil => simp [running,weighted]
  | append_singleton values value ih =>
    have last : weighted [value] = value := by simp [weighted]
    rw [running,List.foldl_append,List.foldl_cons,List.foldl_nil,← running,ih,List.sum_append,List.sum_singleton,
      weighted_append,last]
    simp only [List.length_singleton,Nat.cast_one,one_mul]
    refine Prod.ext (by simp) ?_
    show (weighted values % m + (values.sum % m + value) % m) % m = (weighted values + values.sum + value) % m
    rw [Int.emod_add_emod,Int.add_emod_emod,add_left_comm,Int.emod_add_emod]
    congr 1
    ring

variable {m x y : Int}

/-- The check values that solve both congruences. -/
theorem running_filled {front rest : List Int}
    (first : x ≡ (rest.length + 1) * (front ++ 0 :: 0 :: rest).sum - weighted (front ++ 0 :: 0 :: rest) [ZMOD m])
    (second : y ≡ -(front ++ 0 :: 0 :: rest).sum - x [ZMOD m]) : running m (front ++ x :: y :: rest) = (0,0) := by
  simp only [weighted_append,weighted,List.sum_append,List.sum_cons,List.length_cons] at first second
  obtain ⟨k,plain⟩ := first.symm.dvd
  obtain ⟨j,other⟩ := second.symm.dvd
  have sums : (front ++ x :: y :: rest).sum = m * j := by
    simp only [List.sum_append,List.sum_cons]
    linear_combination other
  have sums' : weighted (front ++ x :: y :: rest) = m * (k + (rest.length + 1) * j) := by
    simp only [weighted_append,weighted,List.length_cons]
    push_cast at plain ⊢
    linear_combination plain + (rest.length + 1) * other
  rw [running_eq,sums,sums',Int.mul_emod_right,Int.mul_emod_right]

/-- Changing one value changes the plain sum, unless the two values are congruent. -/
theorem running_changed {front rest : List Int} (sum : running m (front ++ x :: rest) = (0,0)) (changed : ¬ y ≡ x [ZMOD m]) :
    running m (front ++ y :: rest) ≠ (0,0) := by
  intro also
  rw [running_eq,Prod.mk.injEq,List.sum_append,List.sum_cons] at sum also
  refine changed (Int.ModEq.add_right_cancel' rest.sum (Int.ModEq.add_left_cancel' front.sum ?_))
  exact also.1.trans sum.1.symm

end Rios.Fletcher
