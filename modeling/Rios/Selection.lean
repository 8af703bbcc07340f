import Rios.OrderedMap

/-!
# Keeping the most preferred item of each key

Items are offered one after the other to a map; an admitted item takes its place
where there is none yet, or only a less preferred one. What the map holds at the
end does not depend on the course: items that were offered, and for every
admitted offer one that is at least as preferred.
-/

namespace Rios.Selection

variable {κ α P : Type*} [LinearOrder κ] [LinearOrder P]

/-- Offer an item to the map. -/
def select (key : α → κ) (preference : α → P) (admitted : α → Prop) [DecidablePred admitted] (best : OrderedMap κ α)
    (item : α) : OrderedMap κ α :=
  if admitted item ∧ (best.get? (key item)).all (fun old => preference item < preference old) then best.insert (key item) item
  else best

variable {key : α → κ} {preference : α → P} {admitted : α → Prop} [DecidablePred admitted]

theorem select_cases (best : OrderedMap κ α) (item : α) :
    (select key preference admitted best item = best ∧ (admitted item →
      ∃ old, best.get? (key item) = some old ∧ preference old ≤ preference item)) ∨
    (select key preference admitted best item = best.insert (key item) item ∧ admitted item ∧
      ∀ old, best.get? (key item) = some old → preference item < preference old) := by
  unfold select
  by_cases better : admitted item ∧ (best.get? (key item)).all (fun old => preference item < preference old)
  · rw [if_pos better]
    obtain ⟨allowed,preferred⟩ := better
    refine .inr ⟨rfl,allowed,?_⟩
    intro old found
    rw [found] at preferred
    simpa using preferred
  · rw [if_neg better]
    refine .inl ⟨rfl,?_⟩
    intro allowed
    cases found : best.get? (key item) with
    | none => exact absurd ⟨allowed,by rw [found]; rfl⟩ better
    | some old =>
      refine ⟨old,rfl,?_⟩
      by_contra worse
      exact better ⟨allowed,by rw [found]; simpa using not_le.mp worse⟩

/-- The items of a map are admitted ones of a list, under their keys. -/
def FromList (key : α → κ) (admitted : α → Prop) (list : List α) (best : OrderedMap κ α) : Prop :=
  ∀ k item, best.get? k = some item → item ∈ list ∧ key item = k ∧ admitted item

/-- Every admitted item of a list has one in the map that is at least as preferred. -/
def Covers (key : α → κ) (preference : α → P) (admitted : α → Prop) (best : OrderedMap κ α) (list : List α) : Prop :=
  ∀ item ∈ list, admitted item → ∃ other, best.get? (key item) = some other ∧ preference other ≤ preference item

/-- Offering a list keeps the most preferred admitted item of each key. -/
theorem foldl_select_correct (list : List α) :
    FromList key admitted list (list.foldl (select key preference admitted) ∅) ∧
      Covers key preference admitted (list.foldl (select key preference admitted) ∅) list := by
  induction list using List.reverseRecOn with
  | nil =>
    constructor
    · intro k item found
      cases found
    · intro item member
      cases member
  | append_singleton list item ih =>
    obtain ⟨fromList,covers⟩ := ih
    rw [List.foldl_append,List.foldl_cons,List.foldl_nil]
    generalize list.foldl (select key preference admitted) ∅ = best at fromList covers ⊢
    have old : FromList key admitted (list ++ [item]) best := by
      intro k other found
      obtain ⟨member,rest⟩ := fromList k other found
      exact ⟨List.mem_append_left _ member,rest⟩
    rcases @select_cases _ _ _ _ _ key preference admitted _ best item with ⟨same,kept⟩ | ⟨taken,allowed,preferred⟩
    · rw [same]
      refine ⟨old,?_⟩
      intro other member bounded
      rcases List.mem_append.mp member with earlier | new
      · exact covers other earlier bounded
      · rw [List.mem_singleton.mp new] at bounded ⊢
        exact kept bounded
    · rw [taken]
      constructor
      · intro k other found
        rw [OrderedMap.get?_insert] at found
        by_cases target : k = key item
        · rw [if_pos target] at found
          cases found
          exact ⟨List.mem_append_right _ (List.mem_singleton_self item),target.symm,allowed⟩
        · rw [if_neg target] at found
          exact old k other found
      · intro other member bounded
        rw [OrderedMap.get?_insert]
        by_cases target : key other = key item
        · rw [if_pos target]
          refine ⟨item,rfl,?_⟩
          rcases List.mem_append.mp member with earlier | new
          · obtain ⟨found,known,below⟩ := covers other earlier bounded
            rw [target] at known
            exact (preferred found known).le.trans below
          · rw [List.mem_singleton.mp new]
        · rw [if_neg target]
          rcases List.mem_append.mp member with earlier | new
          · exact covers other earlier bounded
          · exact absurd (congrArg key (List.mem_singleton.mp new)) target

end Rios.Selection
