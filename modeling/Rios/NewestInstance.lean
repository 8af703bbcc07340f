import Rios.OspfInvariants

/-!
# The newest instance

Instances of one advertisement arrive in any order, and one is kept until a
newer one arrives. Newer is a strict order, but instances that are equally new
need not be equally new to a third one: ages that differ by at most 900 seconds
count as the same. What is kept at the end is still an instance that no other
one is newer than, and two orders of arrival agree on all that a comparison of
their results could tell apart.
-/

namespace Rios.NewestInstance
open Rios.Ospf Rios.Ospf.OspfExchange

/-! ### Keeping the newest -/

section Keep
variable {α : Type} (newer : α → α → Prop) [DecidableRel newer]

/-- One arrival: the instance that is held gives way to a newer one only. -/
def keep (held arrived : α) : α := if newer arrived held then arrived else held

/-- What is held after the arrivals of a list, the first of which is kept unseen. -/
def kept (first : α) (rest : List α) : α := rest.foldl (keep newer) first

theorem kept_mem (first : α) (rest : List α) : kept newer first rest ∈ first :: rest := by
  induction rest generalizing first with
  | nil => exact List.mem_singleton_self first
  | cons arrived rest ih =>
    have member := ih (keep newer first arrived)
    rw [List.mem_cons] at member ⊢
    rcases member with same | later
    · rw [List.mem_cons]
      have held : keep newer first arrived = first ∨ keep newer first arrived = arrived := by
        unfold keep
        split
        · exact .inr rfl
        · exact .inl rfl
      rcases held with old | new
      · exact .inl (same.trans old)
      · exact .inr (.inl (same.trans new))
    · exact .inr (List.mem_cons_of_mem arrived later)

variable {newer}

/-- What is not newer than the instance that is held is not newer than its successor either. -/
theorem not_newer_keep (transitive : ∀ a b c, newer a b → newer b c → newer a c) {other held : α}
    (below : ¬ newer other held) (arrived : α) : ¬ newer other (keep newer held arrived) := by
  unfold keep
  split
  · rename_i replaced
    exact fun above => below (transitive _ _ _ above replaced)
  · exact below

/-- An arrival is not newer than what is held after it. -/
theorem not_newer_arrived (irreflexive : ∀ a, ¬ newer a a) (held arrived : α) :
    ¬ newer arrived (keep newer held arrived) := by
  unfold keep
  split
  · exact irreflexive arrived
  · assumption

theorem not_newer_kept (transitive : ∀ a b c, newer a b → newer b c → newer a c) {other first : α}
    (below : ¬ newer other first) (rest : List α) : ¬ newer other (kept newer first rest) := by
  induction rest generalizing first with
  | nil => exact below
  | cons arrived rest ih => exact ih (not_newer_keep transitive below arrived)

/-- No instance of the list is newer than the one that is kept at its end. -/
theorem kept_newest (irreflexive : ∀ a, ¬ newer a a) (transitive : ∀ a b c, newer a b → newer b c → newer a c)
    (first : α) (rest : List α) : ∀ other ∈ first :: rest, ¬ newer other (kept newer first rest) := by
  induction rest generalizing first with
  | nil =>
    intro other member
    rw [List.mem_singleton.mp member]
    exact irreflexive first
  | cons arrived rest ih =>
    intro other member
    rcases List.mem_cons.mp member with rfl | member
    · exact not_newer_kept transitive (not_newer_keep transitive (irreflexive other) arrived) rest
    · rcases List.mem_cons.mp member with rfl | later
      · exact not_newer_kept transitive (not_newer_arrived irreflexive first other) rest
      · exact ih _ other (List.mem_cons_of_mem _ later)

/-- Neither of the results of two orders of arrival is newer than the other. -/
theorem kept_incomparable (irreflexive : ∀ a, ¬ newer a a) (transitive : ∀ a b c, newer a b → newer b c → newer a c)
    {first first' : α} {rest rest' : List α} (reordered : (first :: rest).Perm (first' :: rest')) :
    ¬ newer (kept newer first rest) (kept newer first' rest') ∧ ¬ newer (kept newer first' rest')
        (kept newer first rest) := by
  constructor
  · exact kept_newest irreflexive transitive first' rest' _ (reordered.mem_iff.mp (kept_mem newer first rest))
  · exact kept_newest irreflexive transitive first rest _ (reordered.mem_iff.mpr (kept_mem newer first' rest'))

end Keep

/-! ### The comparison of headers -/

theorem compare_lsa_swap (a b : LsaHeader) : compare_lsa b a = (compare_lsa a b).swap := by
  have ages : (if b.age = LSA_MAX_AGE ∨ a.age = LSA_MAX_AGE then
        compare (decide (b.age = LSA_MAX_AGE)) (decide (a.age = LSA_MAX_AGE))
      else if 900 < max b.age.toNat a.age.toNat - min b.age.toNat a.age.toNat then compare a.age.toNat b.age.toNat
      else .eq) =
      (if a.age = LSA_MAX_AGE ∨ b.age = LSA_MAX_AGE then
        compare (decide (a.age = LSA_MAX_AGE)) (decide (b.age = LSA_MAX_AGE))
      else if 900 < max a.age.toNat b.age.toNat - min a.age.toNat b.age.toNat then compare b.age.toNat a.age.toNat
      else .eq : Ordering).swap := by
    simp only [or_comm (a := b.age = LSA_MAX_AGE),max_comm b.age.toNat,min_comm b.age.toNat]
    split
    · exact Std.OrientedOrd.eq_swap
    · split
      · exact Std.OrientedOrd.eq_swap
      · rfl
  unfold compare_lsa compare_lsa_instances
  rw [Ordering.swap_then,Ordering.swap_then,← ages,← Std.OrientedOrd.eq_swap,← Std.OrientedOrd.eq_swap]

/-- An instance is newer if the comparison says so. -/
abbrev Greater (a b : LsaHeader) : Prop := compare_lsa a b = .gt

theorem greater_irreflexive (a : LsaHeader) : ¬ Greater a a := by
  rw [Greater,compare_lsa_gt_iff]
  simp

theorem greater_transitive (a b c : LsaHeader) (first : Greater a b) (second : Greater b c) : Greater a c := by
  rw [Greater,compare_lsa_gt_iff] at *
  grind

theorem greater_asymmetric (a b : LsaHeader) (newer : Greater a b) : ¬ Greater b a :=
  fun older => greater_irreflexive a (greater_transitive a b a newer older)

/-- Instances neither of which is newer differ in their ages only, and not in whether they are MaxAge. -/
theorem equally_new {a b : LsaHeader} (left : ¬ Greater a b) (right : ¬ Greater b a) :
    a.sequence = b.sequence ∧ a.checksum = b.checksum ∧ (a.age = LSA_MAX_AGE ↔ b.age = LSA_MAX_AGE) := by
  rw [Greater,compare_lsa_gt_iff] at left right
  have sequences : a.sequence.toInt = b.sequence.toInt := by omega
  have checksums : a.checksum.toNat = b.checksum.toNat := by omega
  refine ⟨Int32.toInt_inj.mp sequences,UInt16.toNat.inj checksums,?_⟩
  constructor
  · intro maximal
    by_contra other
    exact left (.inr ⟨sequences.symm,.inr ⟨checksums.symm,.inl ⟨maximal,other⟩⟩⟩)
  · intro maximal
    by_contra other
    exact right (.inr ⟨sequences,.inr ⟨checksums,.inl ⟨maximal,other⟩⟩⟩)

/-- Newer is a strict order that the comparison reads the same in both directions, and what is kept of any
instances does not depend on their order of arrival, as far as a comparison can tell. -/
theorem newest_instance :
    (∀ a, ¬ Greater a a) ∧ (∀ a b, Greater a b → ¬ Greater b a) ∧ (∀ a b c, Greater a b → Greater b c → Greater a c) ∧
      (∀ a b, compare_lsa b a = (compare_lsa a b).swap) ∧
      (∀ first rest, kept Greater first rest ∈ first :: rest ∧
        ∀ other ∈ first :: rest, ¬ Greater other (kept Greater first rest)) ∧
      ∀ first rest first' rest', (first :: rest).Perm (first' :: rest') →
        (kept Greater first rest).sequence = (kept Greater first' rest').sequence ∧
          (kept Greater first rest).checksum = (kept Greater first' rest').checksum ∧
          ((kept Greater first rest).age = LSA_MAX_AGE ↔ (kept Greater first' rest').age = LSA_MAX_AGE) := by
  refine ⟨greater_irreflexive,greater_asymmetric,greater_transitive,compare_lsa_swap,fun first rest => ?_,?_⟩
  · exact ⟨kept_mem Greater first rest,kept_newest greater_irreflexive greater_transitive first rest⟩
  · intro first rest first' rest' reordered
    obtain ⟨left,right⟩ := kept_incomparable greater_irreflexive greater_transitive reordered
    exact equally_new left right

/-- The comparison ends a first difference of the ages that counts, so equally new is not transitive: the results of
two orders may have different ages. -/
example : let header := fun age => (⟨age,0,⟨.Router,1,1⟩,5,7,20⟩ : LsaHeader)
    (kept Greater (header 0) [header 600,header 1200]).age = 0 ∧
      (kept Greater (header 600) [header 0,header 1200]).age = 600 := by
  decide

end Rios.NewestInstance
