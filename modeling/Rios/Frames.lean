import Mathlib

/-!
# Positions in a concatenation of frames

A byte stream made of whole frames, cut at an arbitrary position: which frames
are complete before the cut, and which ones have begun.
-/

namespace Rios.Frames

variable {β : Type*}

/-- The frames that lie completely in the first bytes of a stream. -/
def complete (size : Nat) : List (List β) → List (List β)
  | [] => []
  | frame :: rest => if frame.length ≤ size then frame :: complete (size - frame.length) rest else []

/-- The frames of which some byte lies in the first bytes of a stream. -/
def begun (size : Nat) : List (List β) → List (List β)
  | [] => []
  | frame :: rest => if size = 0 then [] else frame :: begun (size - frame.length) rest

/-- A cut inside the frame behind some others leaves these complete. -/
theorem complete_eq {done rest : List (List β)} {offset : Nat} (inside : ∀ frame ∈ rest.head?, offset < frame.length) :
    complete (done.flatten.length + offset) (done ++ rest) = done := by
  induction done with
  | nil =>
    cases rest with
    | nil => rfl
    | cons frame rest =>
      have short := inside frame rfl
      rw [List.nil_append,complete,if_neg]
      simp only [List.flatten_nil,List.length_nil]
      omega
  | cons frame done ih =>
    rw [List.flatten_cons,List.length_append,List.cons_append,complete,if_pos (by omega)]
    have behind : frame.length + done.flatten.length + offset - frame.length = done.flatten.length + offset := by omega
    rw [behind,ih]

/-- Frames before a cut are complete. -/
theorem complete_append {done rest : List (List β)} {size : Nat} (fits : done.flatten.length ≤ size) :
    ∃ more, complete size (done ++ rest) = done ++ more := by
  induction done generalizing size with
  | nil => exact ⟨complete size rest,rfl⟩
  | cons frame done ih =>
    rw [List.flatten_cons,List.length_append] at fits
    obtain ⟨more,behind⟩ := @ih (size - frame.length) (by omega)
    refine ⟨more,?_⟩
    rw [List.cons_append,complete,if_pos (by omega),behind,List.cons_append]

/-- A cut behind some frames leaves these begun, and the next one if it is cut. -/
theorem begun_eq {done rest : List (List β)} {offset : Nat} (nonempty : ∀ frame ∈ done, frame ≠ [])
    (inside : ∀ frame ∈ rest.head?, offset < frame.length) (none : rest = [] → offset = 0) :
    begun (done.flatten.length + offset) (done ++ rest) = done ++ rest.take (if 0 < offset then 1 else 0) := by
  induction done with
  | nil =>
    cases rest with
    | nil => simp [begun]
    | cons frame rest =>
      have short := inside frame rfl
      rw [List.nil_append,begun,List.flatten_nil,List.length_nil,Nat.zero_add]
      by_cases cut : 0 < offset
      · rw [if_neg (by omega),if_pos cut,Nat.sub_eq_zero_of_le short.le]
        cases rest <;> simp [begun]
      · rw [if_pos (by omega),if_neg cut]
        rfl
  | cons frame done ih =>
    have positive := List.length_pos_iff.mpr (nonempty frame List.mem_cons_self)
    rw [List.flatten_cons,List.length_append,List.cons_append,begun,if_neg (by omega)]
    have behind : frame.length + done.flatten.length + offset - frame.length = done.flatten.length + offset := by omega
    rw [behind,ih (fun other member => nonempty other (List.mem_cons_of_mem frame member))]
    rfl

end Rios.Frames
