import Rios.OrderedMap

/-!
# Bounded maps

A value replaces the one under its key, and a new key enters only while there is
room. What a list of pairs leaves under a key: its last value if the key was known,
and its first if it was not and the new keys before it have left room.
-/

namespace Rios.BoundedMap

universe u v
variable {κ : Type u} {ν : Type v} [LinearOrder κ]

theorem insertEntry_length {entries : List (κ × ν)} {key : κ} (unknown : OrderedMap.lookupEntry key entries = none)
    (value : ν) :
    (OrderedMap.insertEntry key value entries).length = entries.length + 1 := by
  induction entries with
  | nil => rfl
  | cons head rest ih =>
    obtain ⟨first,held⟩ := head
    rw [OrderedMap.lookupEntry] at unknown
    by_cases same : key = first
    · rw [if_pos same] at unknown
      cases unknown
    · rw [if_neg same] at unknown
      rw [OrderedMap.insertEntry]
      by_cases less : key < first
      · rw [if_pos less]
        rfl
      · rw [if_neg less,if_neg same,List.length_cons,ih unknown,List.length_cons]

theorem size_insert_new {m : OrderedMap κ ν} {key : κ} (unknown : m.get? key = none) (value : ν) :
    (m.insert key value).size = m.size + 1 := insertEntry_length unknown value

theorem size_insert_known {m : OrderedMap κ ν} {key : κ} (known : m.contains key = true) (value : ν) :
    (m.insert key value).size = m.size := by
  refine le_antisymm (OrderedMap.size_insert_of_contains known value) ?_
  rw [OrderedMap.size_eq_keys (m.insert key value)]
  refine OrderedMap.size_le_of_keys_subset m fun other member => ?_
  obtain ⟨held,found⟩ := (OrderedMap.mem_keys _ _).mp member
  refine (OrderedMap.mem_keys _ _).mpr ?_
  rw [OrderedMap.get?_insert]
  by_cases same : other = key
  · exact ⟨value,if_pos same⟩
  · exact ⟨held,by rw [if_neg same,found]⟩

theorem contains_insert (m : OrderedMap κ ν) (key other : κ) (value : ν) :
    (m.insert key value).contains other = (decide (other = key) || m.contains other) := by
  rw [OrderedMap.contains,OrderedMap.get?_insert]
  by_cases same : other = key <;> simp [same,OrderedMap.contains]

theorem contains_eq_false {m : OrderedMap κ ν} {key : κ} : m.contains key = false ↔ m.get? key = none := by
  rw [OrderedMap.contains,Option.isSome_eq_false_iff,Option.isNone_iff_eq_none]

theorem contains_of_get? {m : OrderedMap κ ν} {key : κ} {value : ν} (found : m.get? key = some value) :
    m.contains key = true :=
  (OrderedMap.contains_iff _ _).mpr ⟨value,found⟩

/-- One pair. -/
def put (limit : Nat) (m : OrderedMap κ ν) (pair : κ × ν) : OrderedMap κ ν :=
  if !m.contains pair.1 && limit ≤ m.size then m else m.insert pair.1 pair.2

/-- A list of pairs in order. -/
def puts (limit : Nat) (m : OrderedMap κ ν) (pairs : List (κ × ν)) : OrderedMap κ ν := pairs.foldl (put limit) m

variable {limit : Nat} {m : OrderedMap κ ν} {pairs before after : List (κ × ν)} {key : κ} {value : ν} {pair : κ × ν}

/-! ### One pair -/

theorem put_known (known : m.contains key = true) : put limit m (key,value) = m.insert key value := by
  rw [put,known]
  rfl

theorem put_new (room : m.size < limit) : put limit m (key,value) = m.insert key value := by
  rw [put,if_neg]
  rw [Bool.and_eq_true,decide_eq_true_eq,not_and]
  exact fun _ => not_le.mpr room

theorem put_full (unknown : m.get? key = none) (full : limit ≤ m.size) : put limit m (key,value) = m := by
  rw [put,if_pos]
  rw [contains_eq_false.mpr unknown,decide_eq_true full]
  rfl

theorem get?_put_other (other : key ≠ pair.1) : (put limit m pair).get? key = m.get? key := by
  rw [put]
  split
  · rfl
  · rw [OrderedMap.get?_insert,if_neg other]

theorem put_known_stays (known : m.contains key = true) : (put limit m pair).contains key = true := by
  rw [put]
  split
  · exact known
  · rw [contains_insert,known,Bool.or_true]

theorem put_size_le (bounded : m.size ≤ limit) : (put limit m pair).size ≤ limit := by
  rw [put]
  split
  · exact bounded
  · rename_i open_
    cases known : m.contains pair.1 with
    | true => rwa [size_insert_known known]
    | false =>
      rw [known,Bool.and_eq_true,decide_eq_true_eq,not_and] at open_
      exact (OrderedMap.size_insert_le _ _ _).trans (not_le.mp (open_ rfl))

/-! ### A list of pairs -/

theorem puts_append (limit : Nat) (m : OrderedMap κ ν) (before after : List (κ × ν)) :
    puts limit m (before ++ after) = puts limit (puts limit m before) after := List.foldl_append

theorem get?_puts_absent (absent : ∀ pair ∈ pairs, pair.1 ≠ key) : (puts limit m pairs).get? key = m.get? key := by
  induction pairs generalizing m with
  | nil => rfl
  | cons pair rest ih =>
    obtain ⟨here,later⟩ := List.forall_mem_cons.mp absent
    exact (ih later).trans (get?_put_other here.symm)

theorem puts_known_stays (known : m.contains key = true) : (puts limit m pairs).contains key = true := by
  induction pairs generalizing m with
  | nil => exact known
  | cons pair rest ih => exact ih (put_known_stays known)

theorem puts_size_le (bounded : m.size ≤ limit) : (puts limit m pairs).size ≤ limit := by
  induction pairs generalizing m with
  | nil => exact bounded
  | cons pair rest ih => exact ih (put_size_le bounded)

/-- Under a known key the last value stays. -/
theorem get?_puts_last (known : m.contains key = true) (absent : ∀ pair ∈ after, pair.1 ≠ key) :
    (puts limit m (before ++ (key,value) :: after)).get? key = some value := by
  rw [puts_append,puts,List.foldl_cons,put_known (puts_known_stays known),← puts,get?_puts_absent absent,
    OrderedMap.get?_insert_self]

/-- The number of pairs with a key that the map does not have. -/
def news (m : OrderedMap κ ν) (pairs : List (κ × ν)) : Nat := (pairs.filter (fun pair => !m.contains pair.1)).length

theorem puts_size (bounded : m.size ≤ limit) (distinct : (pairs.map (·.1)).Nodup) :
    (puts limit m pairs).size = min limit (m.size + news m pairs) := by
  induction pairs generalizing m with
  | nil =>
    rw [news,List.filter_nil,List.length_nil,Nat.add_zero,min_eq_right bounded]
    rfl
  | cons pair rest ih =>
    obtain ⟨absent,later⟩ := List.nodup_cons.mp distinct
    have elsewhere : ∀ other ∈ rest, other.1 ≠ pair.1 :=
      fun other member same => absent (List.mem_map.mpr ⟨other,member,same⟩)
    rw [puts,List.foldl_cons,← puts,ih (put_size_le bounded) later]
    have counted : news (put limit m pair) rest = news m rest := by
      rw [news,news]
      refine congrArg List.length (List.filter_congr fun other member => ?_)
      rw [OrderedMap.contains,get?_put_other (elsewhere other member),OrderedMap.contains]
    rw [counted]
    cases known : m.contains pair.1 with
    | true =>
      have same : news m (pair :: rest) = news m rest := by
        rw [news,List.filter_cons_of_neg (by rw [known]; exact Bool.false_ne_true),news]
      rw [same,put_known known,size_insert_known known]
    | false =>
      have more : news m (pair :: rest) = news m rest + 1 := by
        rw [news,List.filter_cons_of_pos (by rw [known]; rfl),List.length_cons,news]
      have unknown := contains_eq_false.mp known
      rcases Nat.lt_or_ge m.size limit with room | full
      · rw [put_new room,size_insert_new unknown,more]
        omega
      · rw [put_full unknown full,more]
        omega

/-- A new key enters exactly if the new keys before it have left room. -/
theorem get?_puts_new (bounded : m.size ≤ limit) (distinct : (before.map (·.1)).Nodup) (unknown : m.get? key = none)
    (fresh : ∀ pair ∈ before, pair.1 ≠ key) (absent : ∀ pair ∈ after, pair.1 ≠ key) :
    (puts limit m (before ++ (key,value) :: after)).get? key =
      if m.size + news m before < limit then some value else none := by
  have missing : (puts limit m before).get? key = none := (get?_puts_absent fresh).trans unknown
  have size := puts_size bounded distinct
  rw [puts_append,puts,List.foldl_cons,← puts,get?_puts_absent absent]
  by_cases room : m.size + news m before < limit
  · rw [if_pos room,put_new (by omega),OrderedMap.get?_insert_self]
  · rw [if_neg room,put_full missing (by omega),missing]

/-! ### Pairs from the entries of another map -/

variable {ω : Type*} {source : OrderedMap κ ω} {made : κ × ω → Option (κ × ν)} {held : ω}

theorem made_absent (keeps : ∀ entry ∈ source.entries, ∀ pair, made entry = some pair → pair.1 = entry.1)
    (nothing : ∀ held, source.get? key = some held → made (key,held) = none) :
    ∀ pair ∈ source.entries.filterMap made, pair.1 ≠ key := by
  intro pair member same
  obtain ⟨⟨other,held⟩,listed,gives⟩ := List.mem_filterMap.mp member
  have here : other = key := (keeps _ listed _ gives).symm.trans same
  subst here
  rw [nothing held ((OrderedMap.get?_eq_some _ _ _).mpr listed)] at gives
  cases gives

/-- The pair of one key stands alone, behind those of the smaller keys. -/
theorem made_split (keeps : ∀ entry ∈ source.entries, ∀ pair, made entry = some pair → pair.1 = entry.1)
    (found : source.get? key = some held) (gives : made (key,held) = some (key,value)) :
    ∃ smaller larger, source.entries = smaller ++ (key,held) :: larger ∧
      source.entries.filterMap made = smaller.filterMap made ++ (key,value) :: larger.filterMap made ∧
      (∀ pair ∈ smaller.filterMap made, pair.1 ≠ key) ∧ (∀ pair ∈ larger.filterMap made, pair.1 ≠ key) ∧
      ((smaller.filterMap made).map (·.1)).Nodup ∧ (∀ entry ∈ smaller, entry.1 < key) ∧ ∀ entry ∈ larger, key < entry.1 := by
  obtain ⟨smaller,larger,split⟩ := List.append_of_mem ((OrderedMap.get?_eq_some _ _ _).mp found)
  have sorted := source.sorted
  rw [split,List.pairwise_append] at sorted
  obtain ⟨below,rest,across⟩ := sorted
  have less : ∀ entry ∈ smaller, entry.1 < key := fun entry member => across entry member _ List.mem_cons_self
  have greater := (List.pairwise_cons.mp rest).1
  have named : ∀ entry ∈ smaller ++ larger, ∀ pair, made entry = some pair → pair.1 = entry.1 := by
    intro entry member
    refine keeps entry ?_
    rw [split]
    rcases List.mem_append.mp member with left | right
    · exact List.mem_append_left _ left
    · exact List.mem_append_right _ (List.mem_cons_of_mem _ right)
  refine ⟨smaller,larger,split,?_,fun pair member => ?_,fun pair member => ?_,?_,less,greater⟩
  · rw [split,List.filterMap_append,List.filterMap_cons_some gives]
  · obtain ⟨entry,listed,here⟩ := List.mem_filterMap.mp member
    rw [named entry (List.mem_append_left _ listed) pair here]
    exact (less entry listed).ne
  · obtain ⟨entry,listed,here⟩ := List.mem_filterMap.mp member
    rw [named entry (List.mem_append_right _ listed) pair here]
    exact (greater entry listed).ne'
  · rw [List.Nodup,List.pairwise_map,List.pairwise_filterMap]
    refine below.imp_of_mem fun {first second} here there order pair one other two => ?_
    rw [named first (List.mem_append_left _ here) pair one,named second (List.mem_append_left _ there) other two]
    exact order.ne

end Rios.BoundedMap
