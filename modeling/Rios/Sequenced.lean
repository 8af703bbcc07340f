import Rios.OrderedMap

/-!
# Numbered entries

Ordered maps whose keys are handed out in increasing order: an entry with a key
above all others is put last, so that the values of the map are the items in the
order in which they were added.
-/

namespace Rios.Sequenced
open Rios

universe u v

section Last
variable {κ : Type u} {ν : Type v} [LinearOrder κ]

theorem insertEntry_last {entries : List (κ × ν)} {k : κ} (above : ∀ entry ∈ entries, entry.1 < k) (v : ν) :
    OrderedMap.insertEntry k v entries = entries ++ [(k,v)] := by
  induction entries with
  | nil => rfl
  | cons entry rest ih =>
    have less := above entry List.mem_cons_self
    unfold OrderedMap.insertEntry
    rw [if_neg (not_lt_of_gt less),if_neg (ne_of_gt less),ih (fun other member => above other (List.mem_cons_of_mem _ member))]
    rfl

variable {m : OrderedMap κ ν}

/-- A key above all others is put last. -/
theorem insert_last {k : κ} (above : ∀ key ∈ m.keys, key < k) (v : ν) :
    (m.insert k v).entries = m.entries ++ [(k,v)] :=
  insertEntry_last (fun entry member => above entry.1 (List.mem_map.mpr ⟨entry,member,rfl⟩)) v

/-- All keys are up to the last one. -/
theorem le_last {last : κ × ν} (ends : m.entries.getLast? = some last) {key : κ} (member : key ∈ m.keys) :
    key ≤ last.1 := by
  obtain ⟨front,cut⟩ := List.getLast?_eq_some_iff.mp ends
  obtain ⟨entry,inside,rfl⟩ := List.mem_map.mp member
  have sorted := m.sorted
  rw [cut,List.pairwise_append] at sorted
  rw [cut] at inside
  rcases List.mem_append.mp inside with before | same
  · exact le_of_lt (sorted.2.2 entry before last (List.mem_singleton_self _))
  · rw [List.mem_singleton.mp same]

/-- Without a last entry there is none. -/
theorem keys_of_no_last (ends : m.entries.getLast? = none) : m.keys = [] := by
  rw [OrderedMap.keys,List.getLast?_eq_none_iff.mp ends]
  rfl

/-- An entry behind the others is the first of a kind only if there was none. -/
theorem find?_insert_last {k : κ} (above : ∀ key ∈ m.keys, key < k) (v : ν) (test : κ × ν → Bool) :
    (m.insert k v).entries.find? test = (m.entries.find? test).or (if test (k,v) = true then some (k,v) else none) := by
  rw [insert_last above,List.find?_append]
  congr 1
  by_cases passes : test (k,v) = true
  · rw [if_pos passes,List.find?_cons_of_pos passes]
  · rw [if_neg passes,List.find?_cons_of_neg passes,List.find?_nil]

/-- A changed entry that a test sees like the old one stays where it was. -/
theorem find?_insertEntry {entries : List (κ × ν)} {k : κ} {old v : ν} (test : κ × ν → Bool)
    (known : OrderedMap.lookupEntry k entries = some old) (sorted : entries.Pairwise (fun a b => a.1 < b.1))
    (same : test (k,v) = test (k,old)) :
    ((OrderedMap.insertEntry k v entries).find? test).map (·.1) = (entries.find? test).map (·.1) := by
  induction entries with
  | nil => cases known
  | cons entry rest ih =>
    unfold OrderedMap.lookupEntry at known
    unfold OrderedMap.insertEntry
    by_cases here : k = entry.1
    · rw [if_pos here] at known
      cases known
      rw [if_neg (by rw [here]; exact lt_irrefl _),if_pos here]
      have as_before : test (k,v) = test entry := by rw [same,here]
      by_cases passes : test entry = true
      · rw [List.find?_cons_of_pos (as_before.trans passes),List.find?_cons_of_pos passes,here]
        rfl
      · rw [List.find?_cons_of_neg (by rw [as_before]; exact passes),List.find?_cons_of_neg passes]
    · rw [if_neg here] at known
      obtain ⟨above,tail⟩ := List.pairwise_cons.mp sorted
      have later : ¬ k < entry.1 := not_lt_of_gt (above _ ((OrderedMap.lookupEntry_eq_some tail k old).mp known))
      rw [if_neg later,if_neg here]
      by_cases passes : test entry = true
      · rw [List.find?_cons_of_pos (show test (entry.1,entry.2) = true from passes),List.find?_cons_of_pos passes]
      · rw [List.find?_cons_of_neg (show ¬ test (entry.1,entry.2) = true from passes),List.find?_cons_of_neg passes]
        exact ih known tail

theorem find?_insert_known {k : κ} {old : ν} (known : m.get? k = some old) (v : ν) (test : κ × ν → Bool)
    (same : test (k,v) = test (k,old)) :
    ((m.insert k v).entries.find? test).map (·.1) = (m.entries.find? test).map (·.1) :=
  find?_insertEntry test known m.sorted same

end Last

section Numbered
variable {κ : Type u} {α : Type v}

/-- The items under the keys of their places. -/
def numbered (key : Nat → κ) (items : List α) : List (κ × α) := items.zipIdx.map (fun entry => (key entry.2,entry.1))

@[simp] theorem numbered_length (key : Nat → κ) (items : List α) : (numbered key items).length = items.length := by
  simp [numbered]

theorem numbered_append_one (key : Nat → κ) (items : List α) (item : α) :
    numbered key (items ++ [item]) = numbered key items ++ [(key items.length,item)] := by
  simp [numbered,List.zipIdx_append]

theorem numbered_values (key : Nat → κ) (items : List α) : (numbered key items).map (·.2) = items := by
  induction items using List.reverseRecOn with
  | nil => rfl
  | append_singleton items item ih => rw [numbered_append_one,List.map_append,ih]; rfl

theorem numbered_getLast? (key : Nat → κ) (items : List α) (item : α) :
    (numbered key (items ++ [item])).getLast? = some (key items.length,item) := by
  rw [numbered_append_one,List.getLast?_concat]

variable {items : List α} {key : Nat → κ}

theorem mem_numbered {entry : κ × α} (member : entry ∈ numbered key items) :
    ∃ i < items.length, entry.1 = key i := by
  obtain ⟨⟨item,i⟩,inside,rfl⟩ := List.mem_map.mp member
  obtain ⟨-,below,-⟩ := List.mem_zipIdx inside
  exact ⟨i,by simpa using below,rfl⟩

variable [LinearOrder κ]

/-- The next key is above those of the places before it. -/
theorem numbered_below (increasing : ∀ i < items.length, key i < key items.length) {m : OrderedMap κ α}
    (entries : m.entries = numbered key items) : ∀ k ∈ m.keys, k < key items.length := by
  intro k member
  rw [OrderedMap.keys,entries] at member
  obtain ⟨entry,inside,rfl⟩ := List.mem_map.mp member
  obtain ⟨i,below,is⟩ := mem_numbered inside
  rw [is]
  exact increasing i below

/-- Another item is put under the next key. -/
theorem numbered_insert (increasing : ∀ i < items.length, key i < key items.length) {m : OrderedMap κ α}
    (entries : m.entries = numbered key items) (item : α) :
    (m.insert (key items.length) item).entries = numbered key (items ++ [item]) := by
  rw [insert_last (numbered_below increasing entries),entries,numbered_append_one]

/-- All items, put one after the other under the keys of their places. -/
theorem foldl_numbered (increasing : ∀ j < items.length, ∀ i < j, key i < key j) :
    (items.zipIdx.foldl (fun m entry => m.insert (key entry.2) entry.1) (∅ : OrderedMap κ α)).entries =
      numbered key items := by
  induction items using List.reverseRecOn with
  | nil => rfl
  | append_singleton items item ih =>
    have longer : (items ++ [item]).length = items.length + 1 := List.length_append
    have before := ih (fun j below i less => increasing j (by omega) i less)
    rw [List.zipIdx_append,List.foldl_append]
    simp only [List.zipIdx_cons,List.zipIdx_nil,List.foldl_cons,List.foldl_nil,Nat.zero_add]
    exact numbered_insert (increasing items.length (by omega)) before item

end Numbered

end Rios.Sequenced
