import Rios.OrderedMap

/-!
# Max-heaps

A priority queue whose internal order is unspecified, known only by the
multiset of its elements and by what it may pop, and the executable instance
that keeps a plain list.
-/

namespace Rios

universe u

/-- A heap that pops an element no other one is greater than. -/
structure MaxHeap (α : Type u) (cmp : α → α → Ordering) where
  Carrier : Type u
  empty : Carrier
  push : α → Carrier → Carrier
  pop : Carrier → Option (α × Carrier)
  peek : Carrier → Option α
  contents : Carrier → Multiset α
  contents_empty : contents empty = 0
  contents_push : ∀ a h, contents (push a h) = a ::ₘ contents h
  pop_none : ∀ h, pop h = none → contents h = 0
  pop_some : ∀ h a rest, pop h = some (a,rest) →
    contents h = a ::ₘ contents rest ∧ ∀ b ∈ contents rest, cmp b a ≠ .gt
  peek_none : ∀ h, peek h = none → contents h = 0
  peek_some : ∀ h a, peek h = some a → a ∈ contents h ∧ ∀ b ∈ contents h, cmp b a ≠ .gt

namespace MaxHeap
variable {α : Type u} {cmp : α → α → Ordering}

theorem pop_eq_none (heap : MaxHeap α cmp) (h : heap.Carrier) : heap.pop h = none ↔ heap.contents h = 0 := by
  refine ⟨heap.pop_none h,fun none => ?_⟩
  cases popped : heap.pop h with
  | none => rfl
  | some result =>
    have taken := (heap.pop_some h result.1 result.2 popped).1
    rw [none] at taken
    exact absurd taken.symm (Multiset.cons_ne_zero)

/-! ### A heap kept as a list -/

/-- The first maximal element of a list that starts with `best`, and the others. -/
def extractFrom (cmp : α → α → Ordering) (best : α) : List α → α × List α
  | [] => (best,[])
  | a :: rest =>
    match cmp a best with
    | .gt => let found := extractFrom cmp a rest; (found.1,best :: found.2)
    | _ => let found := extractFrom cmp best rest; (found.1,a :: found.2)

/-- A first maximal element of a list, and the others. -/
def extract (cmp : α → α → Ordering) : List α → Option (α × List α)
  | [] => none
  | a :: rest => some (extractFrom cmp a rest)

theorem extractFrom_perm (cmp : α → α → Ordering) (best : α) (rest : List α) :
    (best :: rest).Perm ((extractFrom cmp best rest).1 :: (extractFrom cmp best rest).2) := by
  induction rest generalizing best with
  | nil => exact .refl _
  | cons a rest ih =>
    have keep : (best :: a :: rest).Perm (a :: best :: rest) := .swap ..
    simp only [extractFrom]
    split
    · exact keep.trans (((ih a).cons best |> (List.Perm.swap ..).trans) |>.trans (.swap ..))
    · exact keep.trans (((ih best).cons a).trans (.swap ..))

theorem extractFrom_max (cmp : α → α → Ordering) [Std.TransCmp cmp] (best : α) (rest : List α) :
    ∀ b ∈ best :: rest, cmp b (extractFrom cmp best rest).1 ≠ .gt := by
  induction rest generalizing best with
  | nil => simp [extractFrom,Std.ReflCmp.compare_self]
  | cons a rest ih =>
    intro b member
    simp only [extractFrom]
    split
    case h_1 greater =>
      rcases List.mem_cons.mp member with rfl | later
      · have high := Ordering.ne_gt_iff_isLE.mp (ih a a List.mem_cons_self)
        have low : (cmp b a).isLE := by
          rw [@Std.OrientedCmp.eq_swap _ cmp,greater]; rfl
        exact Ordering.ne_gt_iff_isLE.mpr (Std.TransCmp.isLE_trans low high)
      · exact ih a b later
    case h_2 other =>
      rcases List.mem_cons.mp member with rfl | later
      · exact ih b b List.mem_cons_self
      · rcases List.mem_cons.mp later with rfl | last
        · have high := Ordering.ne_gt_iff_isLE.mp (ih best best List.mem_cons_self)
          have low : (cmp b best).isLE := Ordering.ne_gt_iff_isLE.mp other
          exact Ordering.ne_gt_iff_isLE.mpr (Std.TransCmp.isLE_trans low high)
        · exact ih best b (List.mem_cons_of_mem _ last)

/-- The heap that keeps its elements in a list. -/
def list (cmp : α → α → Ordering) [Std.TransCmp cmp] : MaxHeap α cmp where
  Carrier := List α
  empty := []
  push a h := a :: h
  pop := extract cmp
  peek h := (extract cmp h).map (·.1)
  contents h := ↑h
  contents_empty := rfl
  contents_push _ _ := rfl
  pop_none h none := by cases h <;> simp_all [extract]
  pop_some h a rest popped := by
    cases h with
    | nil => cases popped
    | cons first tail =>
      have equal : extractFrom cmp first tail = (a,rest) := Option.some.inj popped
      have perm := extractFrom_perm cmp first tail
      have max := extractFrom_max cmp first tail
      rw [equal] at perm max
      refine ⟨Multiset.coe_eq_coe.mpr perm,fun b member => max b ?_⟩
      exact perm.mem_iff.mpr (List.mem_cons_of_mem _ (Multiset.mem_coe.mp member))
  peek_none h none := by cases h <;> simp_all [extract]
  peek_some h a peeked := by
    cases h with
    | nil => cases peeked
    | cons first tail =>
      have equal : (extractFrom cmp first tail).1 = a := Option.some.inj peeked
      have perm := extractFrom_perm cmp first tail
      have max := extractFrom_max cmp first tail
      rw [equal] at perm max
      exact ⟨Multiset.mem_coe.mpr (perm.mem_iff.mpr List.mem_cons_self),fun b member => max b (Multiset.mem_coe.mp member)⟩

end MaxHeap
end Rios
