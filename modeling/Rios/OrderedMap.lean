import Rios.Machine

/-!
# Ordered maps

A finite map as the list of its entries with strictly increasing keys, so that
two maps are equal exactly when they answer every lookup alike, and iteration
is in key order.
-/

namespace Rios

universe u v

/-- The entries of a finite map in increasing order of their keys. -/
structure OrderedMap (κ : Type u) (ν : Type v) [LinearOrder κ] where
  entries : List (κ × ν)
  sorted : entries.Pairwise (fun a b => a.1 < b.1)
deriving DecidableEq

namespace OrderedMap
variable {κ : Type u} {ν : Type v} [LinearOrder κ]

/-- The value under a key of an entry list. -/
def lookupEntry (k : κ) : List (κ × ν) → Option ν
  | [] => none
  | (key,value) :: rest => if k = key then some value else lookupEntry k rest

/-- An entry list with one entry put at its place, or replaced. -/
def insertEntry (k : κ) (v : ν) : List (κ × ν) → List (κ × ν)
  | [] => [(k,v)]
  | (key,value) :: rest =>
    if k < key then (k,v) :: (key,value) :: rest
    else if k = key then (k,v) :: rest
    else (key,value) :: insertEntry k v rest

theorem insertEntry_keys {k : κ} {v : ν} {entries : List (κ × ν)} {entry : κ × ν}
    (member : entry ∈ insertEntry k v entries) : entry.1 = k ∨ entry ∈ entries := by
  induction entries with
  | nil => simp_all [insertEntry]
  | cons head rest ih =>
    simp only [insertEntry] at member
    split_ifs at member with less same
    · rcases List.mem_cons.mp member with rfl | old
      · exact .inl rfl
      · exact .inr old
    · rcases List.mem_cons.mp member with rfl | old
      · exact .inl rfl
      · exact .inr (List.mem_cons_of_mem _ old)
    · rcases List.mem_cons.mp member with rfl | old
      · exact .inr List.mem_cons_self
      · exact (ih old).imp_right (List.mem_cons_of_mem _)

theorem insertEntry_sorted (k : κ) (v : ν) {entries : List (κ × ν)} (sorted : entries.Pairwise (fun a b => a.1 < b.1)) :
    (insertEntry k v entries).Pairwise (fun a b => a.1 < b.1) := by
  induction entries with
  | nil => simp [insertEntry]
  | cons head rest ih =>
    obtain ⟨above,tail⟩ := List.pairwise_cons.mp sorted
    simp only [insertEntry]
    split_ifs with less same
    · refine List.pairwise_cons.mpr ⟨?_,sorted⟩
      intro entry member
      rcases List.mem_cons.mp member with rfl | old
      · exact less
      · exact less.trans (above entry old)
    · exact List.pairwise_cons.mpr ⟨fun entry old => same ▸ above entry old,tail⟩
    · refine List.pairwise_cons.mpr ⟨?_,ih tail⟩
      intro entry member
      rcases insertEntry_keys member with rfl | old
      · exact lt_of_le_of_ne (not_lt.mp less) (Ne.symm same)
      · exact above entry old

/-- The map without entries. -/
def empty : OrderedMap κ ν := ⟨[],List.Pairwise.nil⟩
instance : EmptyCollection (OrderedMap κ ν) := ⟨empty⟩
instance : Inhabited (OrderedMap κ ν) := ⟨empty⟩

/-- The value under a key. -/
def get? (m : OrderedMap κ ν) (k : κ) : Option ν := lookupEntry k m.entries
/-- The map with one value set. -/
def insert (m : OrderedMap κ ν) (k : κ) (v : ν) : OrderedMap κ ν :=
  ⟨insertEntry k v m.entries,insertEntry_sorted k v m.sorted⟩
/-- The entries that satisfy a test. -/
def retain (m : OrderedMap κ ν) (keep : κ → ν → Bool) : OrderedMap κ ν :=
  ⟨m.entries.filter (fun entry => keep entry.1 entry.2),m.sorted.filter _⟩
/-- The map without one key. -/
def erase (m : OrderedMap κ ν) (k : κ) : OrderedMap κ ν := m.retain (fun key _ => key ≠ k)
/-- The map with every value changed. -/
def mapValues {ω : Type*} (f : κ → ν → ω) (m : OrderedMap κ ν) : OrderedMap κ ω :=
  ⟨m.entries.map (fun entry => (entry.1,f entry.1 entry.2)),by
    rw [List.pairwise_map]; exact m.sorted⟩
/-- Keys in increasing order. -/
def keys (m : OrderedMap κ ν) : List κ := m.entries.map (·.1)
/-- Values in increasing order of their keys. -/
def values (m : OrderedMap κ ν) : List ν := m.entries.map (·.2)
def size (m : OrderedMap κ ν) : Nat := m.entries.length
def contains (m : OrderedMap κ ν) (k : κ) : Bool := (m.get? k).isSome
def isEmpty (m : OrderedMap κ ν) : Bool := m.entries.isEmpty

/-! ### Lookups -/

theorem lookupEntry_eq_some {entries : List (κ × ν)} (sorted : entries.Pairwise (fun a b => a.1 < b.1)) (k : κ) (v : ν) :
    lookupEntry k entries = some v ↔ (k,v) ∈ entries := by
  induction entries with
  | nil => simp [lookupEntry]
  | cons head rest ih =>
    obtain ⟨key,value⟩ := head
    obtain ⟨above,tail⟩ := List.pairwise_cons.mp sorted
    simp only [lookupEntry,List.mem_cons,Prod.mk.injEq]
    split_ifs with same
    · subst same
      constructor
      · intro found; exact .inl ⟨rfl,(Option.some.inj found).symm⟩
      · rintro (⟨-,rfl⟩ | later)
        · rfl
        · exact absurd (above _ later) (lt_irrefl k)
    · rw [ih tail]
      simp [same]

theorem get?_eq_some (m : OrderedMap κ ν) (k : κ) (v : ν) : m.get? k = some v ↔ (k,v) ∈ m.entries :=
  lookupEntry_eq_some m.sorted k v

theorem get?_eq_none (m : OrderedMap κ ν) (k : κ) : m.get? k = none ↔ k ∉ m.keys := by
  rw [Option.eq_none_iff_forall_ne_some]
  simp only [ne_eq,get?_eq_some,keys,List.mem_map,not_exists,not_and]
  constructor
  · intro none entry member same; exact none entry.2 (same ▸ member)
  · intro none v member; exact none (k,v) member rfl

theorem mem_keys (m : OrderedMap κ ν) (k : κ) : k ∈ m.keys ↔ ∃ v, m.get? k = some v := by
  rw [← not_iff_not,← get?_eq_none,Option.eq_none_iff_forall_ne_some]
  simp

theorem mem_values (m : OrderedMap κ ν) (v : ν) : v ∈ m.values ↔ ∃ k, m.get? k = some v := by
  simp [values,get?_eq_some]

theorem contains_iff (m : OrderedMap κ ν) (k : κ) : m.contains k = true ↔ ∃ v, m.get? k = some v :=
  Option.isSome_iff_exists

/-- Maps that answer every lookup alike are equal. -/
@[ext] theorem ext {m n : OrderedMap κ ν} (same : ∀ k, m.get? k = n.get? k) : m = n := by
  obtain ⟨first,firstSorted⟩ := m
  obtain ⟨second,secondSorted⟩ := n
  have members : ∀ entry : κ × ν, entry ∈ first ↔ entry ∈ second := by
    intro entry
    rw [← lookupEntry_eq_some firstSorted,← lookupEntry_eq_some secondSorted]
    have lookups : lookupEntry entry.1 first = lookupEntry entry.1 second := same entry.1
    rw [lookups]
  have distinct : ∀ {entries : List (κ × ν)}, entries.Pairwise (fun a b => a.1 < b.1) → entries.Nodup :=
    fun sorted => sorted.imp fun less equal => less.ne (congrArg Prod.fst equal)
  have perm : first.Perm second :=
    (List.perm_ext_iff_of_nodup (distinct firstSorted) (distinct secondSorted)).mpr members
  have equal : first = second :=
    perm.eq_of_pairwise (fun a b _ _ less greater => absurd (less.trans greater) (lt_irrefl _)) firstSorted secondSorted
  subst equal
  rfl

@[simp] theorem get?_empty (k : κ) : (∅ : OrderedMap κ ν).get? k = none := rfl
@[simp] theorem entries_empty : (∅ : OrderedMap κ ν).entries = [] := rfl

theorem get?_insert (m : OrderedMap κ ν) (k key : κ) (v : ν) :
    (m.insert k v).get? key = if key = k then some v else m.get? key := by
  obtain ⟨entries,sorted⟩ := m
  show lookupEntry key (insertEntry k v entries) = if key = k then some v else lookupEntry key entries
  induction entries with
  | nil => simp [insertEntry,lookupEntry]
  | cons head rest ih =>
    obtain ⟨first,value⟩ := head
    have tail := ih (List.pairwise_cons.mp sorted).2
    by_cases less : k < first
    · simp [insertEntry,less,lookupEntry]
    · by_cases equal : k = first
      · subst equal
        by_cases same : key = k <;> simp [insertEntry,lookupEntry,same]
      · simp only [insertEntry,less,equal,if_false,lookupEntry,tail]
        by_cases same : key = k
        · subst same; simp [equal]
        · simp [same]

/-- Of two values of a key the later one stays. -/
theorem insert_insert (m : OrderedMap κ ν) (k : κ) (first second : ν) :
    (m.insert k first).insert k second = m.insert k second := by
  refine ext fun key => ?_
  rw [get?_insert,get?_insert,get?_insert]
  by_cases same : key = k
  · rw [if_pos same,if_pos same]
  · rw [if_neg same,if_neg same,if_neg same]

@[simp] theorem get?_insert_self (m : OrderedMap κ ν) (k : κ) (v : ν) : (m.insert k v).get? k = some v := by
  simp [get?_insert]

theorem get?_retain (m : OrderedMap κ ν) (keep : κ → ν → Bool) (k : κ) :
    (m.retain keep).get? k = (m.get? k).filter (keep k) := by
  ext v
  rw [get?_eq_some,Option.mem_def.symm,Option.mem_filter_iff,Option.mem_def,get?_eq_some]
  simp [retain]

theorem get?_retain_eq_some {m : OrderedMap κ ν} {keep : κ → ν → Bool} {k : κ} {v : ν} :
    (m.retain keep).get? k = some v ↔ m.get? k = some v ∧ keep k v = true := by
  rw [get?_retain,Option.filter_eq_some_iff]

theorem get?_erase (m : OrderedMap κ ν) (k key : κ) :
    (m.erase k).get? key = if key = k then none else m.get? key := by
  rw [erase,get?_retain]
  by_cases same : key = k
  · simp [same]
  · cases m.get? key <;> simp [same]

theorem get?_erase_some {m : OrderedMap κ ν} {k key : κ} {v : ν} (found : (m.erase k).get? key = some v) :
    m.get? key = some v := by
  rw [get?_erase] at found
  split_ifs at found
  exact found

theorem get?_mapValues {ω : Type*} (f : κ → ν → ω) (m : OrderedMap κ ν) (k : κ) :
    (m.mapValues f).get? k = (m.get? k).map (f k) := by
  obtain ⟨entries,sorted⟩ := m
  show lookupEntry k (entries.map fun entry => (entry.1,f entry.1 entry.2)) = (lookupEntry k entries).map (f k)
  clear sorted
  induction entries with
  | nil => rfl
  | cons head rest ih =>
    simp only [List.map_cons,lookupEntry]
    split_ifs with same
    · simp [same]
    · exact ih

theorem keys_nodup (m : OrderedMap κ ν) : m.keys.Nodup := by
  rw [keys,List.Nodup,List.pairwise_map]
  exact m.sorted.imp fun less => less.ne

theorem size_eq_keys (m : OrderedMap κ ν) : m.size = m.keys.length := by simp [size,keys]

/-- A map whose keys lie in a finite list is no longer than it. -/
theorem size_le_of_keys_subset (m : OrderedMap κ ν) {all : List κ} (within : ∀ k ∈ m.keys, k ∈ all) :
    m.size ≤ all.length := by
  rw [size_eq_keys]
  exact (List.subperm_of_subset m.keys_nodup within).length_le

theorem isEmpty_iff (m : OrderedMap κ ν) : m.isEmpty = true ↔ m = ∅ := by
  constructor
  · intro none
    obtain ⟨entries,sorted⟩ := m
    obtain rfl : entries = [] := List.isEmpty_iff.mp none
    rfl
  · rintro rfl
    rfl

theorem size_insert_le (m : OrderedMap κ ν) (k : κ) (v : ν) : (m.insert k v).size ≤ m.size + 1 := by
  rw [size_eq_keys m]
  refine @size_le_of_keys_subset _ _ _ _ (k :: m.keys) ?_
  intro key member
  obtain ⟨value,found⟩ := (mem_keys _ _).mp member
  rw [get?_insert] at found
  by_cases same : key = k
  · exact same ▸ List.mem_cons_self
  · rw [if_neg same] at found
    exact List.mem_cons_of_mem _ ((mem_keys _ _).mpr ⟨value,found⟩)

theorem size_insert_of_contains {m : OrderedMap κ ν} {k : κ} (known : m.contains k = true) (v : ν) :
    (m.insert k v).size ≤ m.size := by
  rw [size_eq_keys m]
  refine size_le_of_keys_subset _ ?_
  intro key member
  obtain ⟨value,found⟩ := (mem_keys _ _).mp member
  rw [get?_insert] at found
  by_cases same : key = k
  · exact same ▸ (mem_keys _ _).mpr ((contains_iff _ _).mp known)
  · rw [if_neg same] at found
    exact (mem_keys _ _).mpr ⟨value,found⟩

theorem size_erase_le (m : OrderedMap κ ν) (k : κ) : (m.erase k).size ≤ m.size := by
  rw [size_eq_keys m]
  refine size_le_of_keys_subset _ ?_
  intro key member
  obtain ⟨value,found⟩ := (mem_keys _ _).mp member
  exact (mem_keys _ _).mpr ⟨value,get?_erase_some found⟩

@[simp] theorem size_mapValues {ω : Type*} (f : κ → ν → ω) (m : OrderedMap κ ν) : (m.mapValues f).size = m.size :=
  List.length_map _

/-- The map that holds the given pairs, later ones replacing earlier ones. -/
def ofList (pairs : List (κ × ν)) : OrderedMap κ ν :=
  pairs.foldl (fun m pair => m.insert pair.1 pair.2) ∅

theorem get?_ofList_mem {pairs : List (κ × ν)} {k : κ} {v : ν} (found : (ofList pairs).get? k = some v) :
    (k,v) ∈ pairs := by
  induction pairs using List.reverseRecOn with
  | nil => cases found
  | append_singleton pairs pair ih =>
    rw [ofList,List.foldl_append,List.foldl_cons,List.foldl_nil,get?_insert] at found
    by_cases same : k = pair.1
    · rw [if_pos same] at found
      cases found
      rw [same]
      exact List.mem_append_right _ (List.mem_singleton_self pair)
    · rw [if_neg same] at found
      exact List.mem_append_left _ (ih found)

theorem get?_ofList_isSome {pairs : List (κ × ν)} {k : κ} {v : ν} (member : (k,v) ∈ pairs) :
    ∃ w, (ofList pairs).get? k = some w := by
  induction pairs using List.reverseRecOn with
  | nil => cases member
  | append_singleton pairs pair ih =>
    rw [ofList,List.foldl_append,List.foldl_cons,List.foldl_nil,get?_insert]
    by_cases same : k = pair.1
    · rw [if_pos same]
      exact ⟨pair.2,rfl⟩
    · rw [if_neg same]
      rcases List.mem_append.mp member with earlier | last
      · exact ih earlier
      · exact absurd (congrArg Prod.fst (List.mem_singleton.mp last)) same

/-- Where every key has one value, the map holds exactly the pairs. -/
theorem get?_ofList_iff {pairs : List (κ × ν)} {k : κ} (unique : ∀ v w, (k,v) ∈ pairs → (k,w) ∈ pairs → v = w) (v : ν) :
    (ofList pairs).get? k = some v ↔ (k,v) ∈ pairs := by
  constructor
  · exact get?_ofList_mem
  · intro member
    obtain ⟨w,found⟩ := get?_ofList_isSome member
    rw [found,unique v w member (get?_ofList_mem found)]

/-- The same for pairs that come from a list of items, at most one value for each key. -/
theorem get?_ofList_filterMap {α : Type*} {items : List α} {pair : α → Option (κ × ν)} {k : κ} (gives : α → ν → Prop)
    (given : ∀ item v, pair item = some (k,v) ↔ gives item v)
    (unique : ∀ item ∈ items, ∀ other ∈ items, ∀ v w, gives item v → gives other w → v = w) (v : ν) :
    (ofList (items.filterMap pair)).get? k = some v ↔ ∃ item ∈ items, gives item v := by
  have member : ∀ v, (k,v) ∈ items.filterMap pair ↔ ∃ item ∈ items, gives item v := by
    intro v
    simp only [List.mem_filterMap,given]
  rw [get?_ofList_iff ?_ v,member]
  intro v w first second
  obtain ⟨item,listed,here⟩ := (member v).mp first
  obtain ⟨other,listed',there⟩ := (member w).mp second
  exact unique item listed other listed' v w here there

end OrderedMap
end Rios
