import Rios.AccessLists

/-!
# Numbered lists

A standard numbered list decides by its rules in the order of entry, whether it
is still a vector or has become a named list in between, and wherever it has been
applied.
-/

namespace Rios.AccessLists
open Rios.Machine Rios.Device Rios.Transport Rios.Decimal Rios.Sequenced
open Rios.Translation (AclId AccessListAction StandardAccessListEntry AddressMatch PortMatch AclProtocol)

/-- The action of the first matching rule, and deny without one. -/
def first_match (rules : List StandardAccessListEntry) (source : Ipv4Addr) : AccessListAction :=
  ((rules.find? (·.matches source)).map (·.action)).getD .Deny

/-! ### Both evaluators -/

theorem masked_eq (a b mask : UInt32) : (a ^^^ b) &&& mask = 0 ↔ a &&& mask = b &&& mask := by
  rw [← UInt32.toBitVec_inj,← UInt32.toBitVec_inj (a := a &&& mask)]
  have distributes : ((a ^^^ b) &&& mask).toBitVec = (a &&& mask).toBitVec ^^^ (b &&& mask).toBitVec := by
    ext i
    simp only [UInt32.toBitVec_and,UInt32.toBitVec_xor,BitVec.getElem_and,BitVec.getElem_xor]
    cases a.toBitVec[i] <;> cases b.toBitVec[i] <;> cases mask.toBitVec[i] <;> rfl
  rw [distributes]
  exact BitVec.xor_eq_zero_iff

/-- A standard entry decides as its rule does. -/
theorem evaluate_standard (packet : Ipv4Packet) (entry : StandardAccessListEntry) :
    (AclEntry.standard entry).evaluate packet = if entry.matches packet.source then some entry.action else none := by
  have anywhere : AddressMatch.ANY.matches packet.destination = true := by
    have none_left : ~~~(0xffffffff : UInt32) = 0 := rfl
    simp [AddressMatch.ANY,Translation.AddressMatch.matches,none_left]
  have source : (⟨entry.source,entry.wildcard⟩ : AddressMatch).matches packet.source = entry.matches packet.source := by
    simp only [Translation.AddressMatch.matches,StandardAccessListEntry.matches,decide_eq_decide]
    exact masked_eq _ _ _
  simp only [AclEntry.standard,AclEntry.evaluate,Translation.AclProtocol.matches,source,anywhere]
  cases entry.matches packet.source <;> rfl

theorem findSome?_standard (packet : Ipv4Packet) (rules : List StandardAccessListEntry) :
    (rules.map AclEntry.standard).findSome? (AclEntry.evaluate packet) =
      (rules.find? (·.matches packet.source)).map (·.action) := by
  induction rules with
  | nil => rfl
  | cons rule rest ih =>
    rw [List.map_cons,List.findSome?_cons,evaluate_standard,ih]
    by_cases found : rule.matches packet.source = true
    · simp [found]
    · simp [found]

/-- A first match permits exactly if its action is to permit. -/
theorem first_match_permits (rules : List StandardAccessListEntry) (source : Ipv4Addr) :
    decide ((rules.find? (·.matches source)).map (·.action) = some .Permit) = decide (first_match rules source = .Permit) := by
  rw [first_match,decide_eq_decide]
  cases (rules.find? (·.matches source)).map (·.action) with
  | none =>
    constructor
    · intro same
      cases same
    · intro same
      cases same
  | some action => exact Option.some_inj

/-! ### Sequence numbers -/

theorem promoted_sequence_toNat {index : Nat} (few : index ≤ 4096) : (promoted_sequence index).toNat = (index + 1) * 10 := by
  have small : index < UInt32.size := by simp only [UInt32.size]; omega
  rw [promoted_sequence,UInt32.toNat_mul,UInt32.toNat_add,UInt32.toNat_ofNat_of_lt' small]
  show (index + 1) % 2 ^ 32 * 10 % 2 ^ 32 = _
  omega

theorem promoted_sequence_lt {i j : Nat} (few : j ≤ 4096) (less : i < j) : promoted_sequence i < promoted_sequence j := by
  rw [UInt32.lt_iff_toNat_lt,promoted_sequence_toNat few,promoted_sequence_toNat (by omega)]
  omega

/-- What a named list with these rules has as its entries. -/
def Rules (list : AccessList) (rules : List StandardAccessListEntry) : Prop :=
  list.entries.entries = numbered promoted_sequence (rules.map AclEntry.standard)

section Rules
variable {list : AccessList} {rules : List StandardAccessListEntry}

theorem Rules.values (shape : Rules list rules) : list.entries.values = rules.map AclEntry.standard := by
  rw [OrderedMap.values,shape]
  exact numbered_values _ _

theorem Rules.size (shape : Rules list rules) : list.entries.size = rules.length := by
  rw [OrderedMap.size,shape,numbered_length,List.length_map]

/-- The sequence that is generated for the next rule. -/
theorem Rules.next (shape : Rules list rules) (few : rules.length ≤ 4096) :
    list.entries.entries.getLast?.elim 10 (fun last => satAdd32 last.1 10) = promoted_sequence rules.length := by
  rw [shape]
  rcases List.eq_nil_or_concat' rules with rfl | ⟨before,last,rfl⟩
  · rfl
  · rw [List.length_append,List.length_singleton] at few ⊢
    rw [List.map_append,List.map_cons,List.map_nil,numbered_getLast?,Option.elim_some,List.length_map]
    apply UInt32.toNat.inj
    rw [satAdd32_toNat,promoted_sequence_toNat few,promoted_sequence_toNat (by omega)]
    show min ((before.length + 1) * 10 + 10) _ = _
    omega

theorem Rules.increasing (few : rules.length ≤ 4096) : ∀ i < (rules.map AclEntry.standard).length,
    promoted_sequence i < promoted_sequence (rules.map AclEntry.standard).length := by
  rw [List.length_map]
  exact fun i below => promoted_sequence_lt few below

theorem Rules.insert (shape : Rules list rules) (few : rules.length ≤ 4096) (entry : StandardAccessListEntry) :
    Rules { list with entries := list.entries.insert (promoted_sequence rules.length) (AclEntry.standard entry) }
      (rules ++ [entry]) := by
  have length : (rules.map AclEntry.standard).length = rules.length := List.length_map _
  have put := numbered_insert (Rules.increasing few) shape (AclEntry.standard entry)
  rw [length] at put
  rw [Rules,put,List.map_append]
  rfl

/-- A generated sequence is new. -/
theorem Rules.fresh (shape : Rules list rules) (few : rules.length ≤ 4096) :
    list.entries.contains (promoted_sequence rules.length) = false := by
  have length : (rules.map AclEntry.standard).length = rules.length := List.length_map _
  have below := numbered_below (Rules.increasing few) shape
  rw [length] at below
  rw [OrderedMap.contains,Option.isSome_eq_false_iff,Option.isNone_iff_eq_none,OrderedMap.get?_eq_none]
  exact fun member => lt_irrefl _ (below _ member)

end Rules

/-- The rules of a vector, promoted. -/
theorem promoted_rules {rules : List StandardAccessListEntry} (few : rules.length ≤ 4096) (name : String) (kind : AclKind) :
    Rules ⟨name,kind,Device.promoted rules⟩ rules := by
  refine foldl_numbered (fun j below i less => promoted_sequence_lt ?_ less)
  rw [List.length_map] at below
  omega

/-! ### Names -/

section Names
variable {lists : OrderedMap AclId AccessList} {name : String} {id : AclId}

/-- The id of a name in the lists of a device. -/
def resolve (lists : OrderedMap AclId AccessList) (name : String) : Option AclId :=
  (lists.entries.find? (fun entry => entry.2.name = name)).map (·.1)

theorem resolve_some (found : resolve lists name = some id) : ∃ list, lists.get? id = some list ∧ list.name = name := by
  obtain ⟨⟨key,list⟩,first,rfl⟩ := Option.map_eq_some_iff.mp found
  exact ⟨list,(OrderedMap.get?_eq_some _ _ _).mpr (List.mem_of_find?_eq_some first),by simpa using List.find?_some first⟩

/-- A list behind the others is found only by its own name. -/
theorem resolve_new (above : ∀ key ∈ lists.keys, key < id) (list : AccessList) (name : String) :
    resolve (lists.insert id list) name = (resolve lists name).or (if list.name = name then some id else none) := by
  unfold resolve
  rw [find?_insert_last above]
  by_cases same : list.name = name
  · rw [if_pos (by simp [same]),if_pos same]
    cases lists.entries.find? (fun entry => entry.2.name = name) <;> rfl
  · rw [if_neg (by simp [same]),if_neg same]
    cases lists.entries.find? (fun entry => entry.2.name = name) <;> rfl

/-- New entries of a list leave all names. -/
theorem resolve_entries {old : AccessList} (known : lists.get? id = some old) (entries : OrderedMap UInt32 AclEntry)
    (name : String) : resolve (lists.insert id { old with entries := entries }) name = resolve lists name :=
  find?_insert_known known _ _ rfl

end Names

theorem number_injective {n m : AccessListId} (same : number n = number m) : n = m :=
  Subtype.ext (UInt8.toNat.inj (toString_injective same))

/-- A name that is read as a number is that number. -/
theorem ensured_number {name : String} (characters : name.toList.all name_character = true) {kind : AclKind}
    (valid : valid_number name kind = true) {value : Nat} (parsed : parse_unsigned 255 name.toList = some value)
    {id : AccessListId} (is : AccessListId.new (UInt8.ofNat value) = some id) : name = number id := by
  have no_sign : name.toList.head? ≠ some '+' := by
    intro starts
    have plus := List.all_eq_true.mp characters '+' (List.mem_of_mem_head? starts)
    revert plus
    decide
  obtain ⟨some_digit,digits⟩ := parse_unsigned_unsigned no_sign parsed
  have within := parse_unsigned_le parsed
  rw [parse_unsigned_digits some_digit digits] at parsed
  split at parsed
  · cases parsed
    unfold valid_number at valid
    rw [if_pos (List.all_eq_true.mpr digits),parse_unsigned_digits some_digit digits,if_pos (by omega)] at valid
    simp only [Option.any_some,Bool.and_eq_true,decide_eq_true_eq] at valid
    unfold AccessListId.new at is
    split at is
    · cases is
      rw [number,UInt8.toNat_ofNat_of_lt' (by simp only [UInt8.size]; omega)]
      exact valid.2
    · cases is
  · cases parsed

/-- The number of a list is read back as a name. -/
theorem parse_number (n : AccessListId) : (parse_unsigned 255 (number n).toList).bind
    (fun number => AccessListId.new (UInt8.ofNat number)) = some n := by
  have small : n.val.toNat ≤ 255 := Nat.le_of_lt_succ n.val.toNat_lt
  rw [number,toList_toString,parse_unsigned_toDigits small,Option.bind_some,UInt8.ofNat_toNat,AccessListId.new,dif_pos n.2]

/-- Only standard lists have numbers up to 99. -/
theorem number_standard (n : AccessListId) {kind : AclKind} (valid : valid_number (number n) kind = true) :
    kind = .Standard := by
  have bounds := n.2
  rw [UInt8.le_iff_toNat_le,UInt8.le_iff_toNat_le] at bounds
  have top : n.val.toNat ≤ 99 := bounds.2
  unfold valid_number at valid
  rw [number,toList_toString,if_pos (List.all_eq_true.mpr (toDigits_isDigit _)),parse_unsigned_toDigits (by omega),
    Option.any_some] at valid
  cases kind with
  | Standard => rfl
  | Extended =>
    simp only [Bool.and_eq_true,Bool.or_eq_true,decide_eq_true_eq] at valid
    omega

/-! ### What a device holds -/

/-- A numbered list with these rules, as a vector or as a named list. -/
structure Holds (device : Device) (n : AccessListId) (rules : List StandardAccessListEntry) : Prop where
  few : rules.length ≤ 4096
  form : (device.acl_id (number n) = none ∧ (device.access_lists.get? n).getD [] = rules) ∨
    ∃ id list, device.acl_id (number n) = some id ∧ device.named_access_lists.get? id = some list ∧ Rules list rules

/-- An interface to which the list is applied in one direction. -/
def Applied (device : Device) (n : AccessListId) (interface : InterfaceId) (direction : AccessListDirection) : Prop :=
  ∃ config, device.interfaces.get? interface = some config ∧
    ((config.named_access_group direction = none ∧ config.access_group direction = some n) ∨
      ∃ id, config.named_access_group direction = some id ∧ device.acl_id (number n) = some id)

section Decisions
variable {device : Device} {n : AccessListId} {rules : List StandardAccessListEntry}

theorem evaluate_named_acl_decides {id : AclId} {list : AccessList} (found : device.named_access_lists.get? id = some list)
    (shape : Rules list rules) (packet : Ipv4Packet) :
    (device.evaluate_named_acl id packet).1 = decide (first_match rules packet.source = .Permit) := by
  have scanned : (list.entries.entries.findSome? (fun entry =>
      (entry.2.evaluate packet).map (fun action => (entry.1,action,entry.2.logs)))).map (·.2.1) =
        (rules.find? (·.matches packet.source)).map (·.action) := by
    rw [← findSome?_standard,← shape.values,OrderedMap.values,List.findSome?_map,List.map_findSome?]
    congr 1
    funext entry
    simp only [Function.comp_apply,Option.map_map]
    cases entry.2.evaluate packet <;> rfl
  rw [← first_match_permits,← scanned]
  unfold Device.evaluate_named_acl
  rw [found,Option.bind_some]
  cases list.entries.entries.findSome? (fun entry =>
    (entry.2.evaluate packet).map (fun action => (entry.1,action,entry.2.logs))) with
  | none => rfl
  | some match_ =>
    obtain ⟨sequence,action,log⟩ := match_
    simp only [Option.map_some,Option.some_inj]

/-- A source is decided by the first match. -/
theorem Holds.access_list_permits (holds : Holds device n rules) (source : Ipv4Addr) :
    device.access_list_permits n source = decide (first_match rules source = .Permit) := by
  rw [← first_match_permits]
  unfold Device.access_list_permits
  rcases holds.form with ⟨unnamed,vector⟩ | ⟨id,list,named,found,shape⟩
  · rw [unnamed]
    cases stored : device.access_lists.get? n with
    | none =>
      rw [stored] at vector
      cases vector
      rfl
    | some entries =>
      rw [stored] at vector
      cases vector
      rfl
  · rw [named]
    simp only [found,Option.any_some,shape.values,findSome?_standard]

/-- A packet at an interface is decided by the first match. -/
theorem Holds.permits_ipv4 (holds : Holds device n rules) {interface : InterfaceId} {direction : AccessListDirection}
    (applied : Applied device n interface direction) (packet : Ipv4Packet) :
    (device.permits_ipv4 interface direction packet).1 = decide (first_match rules packet.source = .Permit) := by
  obtain ⟨config,port,group⟩ := applied
  unfold Device.permits_ipv4
  rw [port]
  rcases group with ⟨no_name,numbered⟩ | ⟨id,named,resolved⟩
  · simp only [no_name,numbered]
    rcases holds.form with ⟨unnamed,vector⟩ | ⟨id,list,named,found,shape⟩
    · simp only [unnamed]
      rw [← first_match_permits]
      have scanned : ((device.access_lists.get? n).bind
          (·.zipIdx.find? (fun entry => entry.1.matches packet.source))).map (·.1.action) =
            (rules.find? (·.matches packet.source)).map (·.action) := by
        rw [← vector]
        cases device.access_lists.get? n with
        | none => rfl
        | some entries =>
          rw [Option.bind_some,Option.getD_some]
          conv_rhs => rw [← List.zipIdx_map_fst 0 entries,List.find?_map,Option.map_map]
          rfl
      rw [← scanned]
      cases (device.access_lists.get? n).bind (·.zipIdx.find? (fun entry => entry.1.matches packet.source)) with
      | none => rfl
      | some found => simp only [Option.map_some,Option.some_inj]
    · simp only [named]
      exact evaluate_named_acl_decides found shape packet
  · simp only [named]
    rcases holds.form with ⟨unnamed,-⟩ | ⟨other,list,known,found,shape⟩
    · rw [unnamed] at resolved
      cases resolved
    · rw [known] at resolved
      cases resolved
      exact evaluate_named_acl_decides found shape packet

end Decisions

/-! ### What a step leaves as it is -/

/-- The device type, the lists and their names are those of before. -/
structure SameLists (device next : Device) : Prop where
  type_of : next.device_type = device.device_type
  vectors : next.access_lists = device.access_lists
  names : next.named_access_lists = device.named_access_lists

theorem SameLists.refl (device : Device) : SameLists device device := ⟨rfl,rfl,rfl⟩

theorem SameLists.acl_id {device next : Device} (same : SameLists device next) (name : String) :
    next.acl_id name = device.acl_id name := by
  rw [Device.acl_id,same.names]
  rfl

theorem Holds.same {device next : Device} {n : AccessListId} {rules : List StandardAccessListEntry}
    (holds : Holds device n rules) (same : SameLists device next) : Holds next n rules := by
  refine ⟨holds.few,?_⟩
  rw [same.acl_id,same.vectors,same.names]
  exact holds.form

theorem evaluate_named_acl_same (device : Device) (id : AclId) (packet : Ipv4Packet) :
    SameLists device (device.evaluate_named_acl id packet).2 ∧
      (device.evaluate_named_acl id packet).2.interfaces = device.interfaces := by
  unfold Device.evaluate_named_acl
  dsimp only
  split
  · exact ⟨SameLists.refl device,rfl⟩
  · dsimp only
    split
    · exact ⟨⟨rfl,rfl,rfl⟩,rfl⟩
    · exact ⟨⟨rfl,rfl,rfl⟩,rfl⟩

/-- A packet only counts. -/
theorem permits_ipv4_same (device : Device) (interface : InterfaceId) (direction : AccessListDirection)
    (packet : Ipv4Packet) :
    SameLists device (device.permits_ipv4 interface direction packet).2 ∧
      (device.permits_ipv4 interface direction packet).2.interfaces = device.interfaces := by
  unfold Device.permits_ipv4
  split
  · exact ⟨SameLists.refl device,rfl⟩
  · split
    · exact evaluate_named_acl_same device _ packet
    · split
      · exact ⟨SameLists.refl device,rfl⟩
      · split
        · exact evaluate_named_acl_same device _ packet
        · split
          · exact ⟨SameLists.refl device,rfl⟩
          · exact ⟨⟨rfl,rfl,rfl⟩,rfl⟩

/-- Applying a named list changes one interface, or nothing. -/
theorem set_named_access_group_cases (device : Device) (interface : InterfaceId) (name : String)
    (direction : AccessListDirection) :
    (∃ error, device.set_named_access_group interface name direction = (.error error,device)) ∨
      ∃ id config, device.acl_id name = some id ∧ device.interfaces.get? interface = some config ∧
        device.set_named_access_group interface name direction =
          (.ok (),{ device with interfaces := device.interfaces.insert interface (config.apply_named id direction) }) := by
  unfold Device.set_named_access_group
  cases device.acl_id name with
  | none => exact .inl ⟨_,rfl⟩
  | some id =>
    cases device.interfaces.get? interface with
    | none => exact .inl ⟨_,rfl⟩
    | some config => exact .inr ⟨id,config,rfl,rfl,rfl⟩

/-- Applying a numbered list does so under its name, or under its number if it has none. -/
theorem set_access_group_cases (device : Device) (interface : InterfaceId) (n : AccessListId)
    (direction : AccessListDirection) :
    (∃ error, device.set_access_group interface n direction = (.error error,device)) ∨
      ((device.acl_id (number n)).isSome = true ∧
        device.set_access_group interface n direction = device.set_named_access_group interface (number n) direction) ∨
      ∃ config, device.acl_id (number n) = none ∧ device.interfaces.get? interface = some config ∧
        device.set_access_group interface n direction =
          (.ok (),{ device with interfaces := device.interfaces.insert interface (config.apply_numbered n direction) }) := by
  unfold Device.set_access_group
  split
  · exact .inl ⟨_,rfl⟩
  · split
    · rename_i named
      exact .inr (.inl ⟨named,rfl⟩)
    · rename_i unnamed
      split
      · exact .inl ⟨_,rfl⟩
      · cases device.interfaces.get? interface with
        | none => exact .inl ⟨_,rfl⟩
        | some config => exact .inr (.inr ⟨config,Option.not_isSome_iff_eq_none.mp unnamed,rfl,rfl⟩)

theorem set_named_access_group_same (device : Device) (interface : InterfaceId) (name : String)
    (direction : AccessListDirection) : SameLists device (device.set_named_access_group interface name direction).2 := by
  rcases set_named_access_group_cases device interface name direction with ⟨error,done⟩ | ⟨id,config,-,-,done⟩
  · rw [done]
    exact SameLists.refl device
  · rw [done]
    exact ⟨rfl,rfl,rfl⟩

theorem set_access_group_same (device : Device) (interface : InterfaceId) (n : AccessListId)
    (direction : AccessListDirection) : SameLists device (device.set_access_group interface n direction).2 := by
  rcases set_access_group_cases device interface n direction with ⟨error,done⟩ | ⟨-,done⟩ | ⟨config,-,-,done⟩
  · rw [done]
    exact SameLists.refl device
  · rw [done]
    exact set_named_access_group_same device interface (number n) direction
  · rw [done]
    exact ⟨rfl,rfl,rfl⟩

/-- Setting an entry changes the entries of one list, or nothing. -/
theorem set_acl_entry_cases (device : Device) (id : AclId) (sequence : Option UInt32) (entry : AclEntry) :
    (∃ error, device.set_acl_entry id sequence entry = (.error error,device)) ∨
      ∃ list entries next, device.named_access_lists.get? id = some list ∧
        device.set_acl_entry id sequence entry = (.ok (),next) ∧ next.device_type = device.device_type ∧
        next.access_lists = device.access_lists ∧ next.interfaces = device.interfaces ∧
        next.named_access_lists = device.named_access_lists.insert id { list with entries := entries } := by
  unfold Device.set_acl_entry
  cases device.named_access_lists.get? id with
  | none => exact .inl ⟨_,rfl⟩
  | some list =>
    dsimp only
    split
    · exact .inl ⟨_,rfl⟩
    · split
      · exact .inl ⟨_,rfl⟩
      · split
        · exact .inl ⟨_,rfl⟩
        · exact .inr ⟨list,_,_,rfl,rfl,rfl,rfl,rfl,rfl⟩

/-- The next rule of a list that has become a named one. -/
theorem set_acl_entry_standard {device : Device} {id : AclId} {list : AccessList} {rules : List StandardAccessListEntry}
    (found : device.named_access_lists.get? id = some list) (shape : Rules list rules) (few : rules.length ≤ 4096)
    (entry : StandardAccessListEntry) :
    (device.set_acl_entry id none (AclEntry.standard entry) = (.error .AccessListCapacity,device)) ∨
      rules.length < 4096 ∧ ∃ changed next, device.set_acl_entry id none (AclEntry.standard entry) = (.ok (),next) ∧
        next.named_access_lists = device.named_access_lists.insert id changed ∧ changed.name = list.name ∧
        Rules changed (rules ++ [entry]) := by
  have next := promoted_sequence_toNat few
  have zero : promoted_sequence rules.length ≠ 0 := by
    intro same
    rw [same] at next
    have none_left : (0 : UInt32).toNat = 0 := rfl
    omega
  have largest : promoted_sequence rules.length ≠ 0xffffffff := by
    intro same
    rw [same] at next
    have all : (0xffffffff : UInt32).toNat = 4294967295 := rfl
    omega
  have valid : (AclEntry.standard entry).valid list.kind = true := by
    cases list.kind <;> rfl
  unfold Device.set_acl_entry
  rw [found]
  simp only [Option.getD_none,shape.next few,shape.size,shape.fresh few,Bool.not_false,Bool.and_true,valid,Bool.not_true]
  rw [if_neg (by rintro (same | same); exacts [zero same,largest same])]
  by_cases full : 4096 ≤ rules.length
  · rw [if_pos (by simpa using full)]
    exact .inl rfl
  · rw [if_neg (by simpa using full)]
    exact .inr ⟨by omega,_,_,rfl,rfl,rfl,shape.insert few entry⟩

/-! ### What a device goes on holding -/

section Holding
variable {device : Device} {n : AccessListId} {rules : List StandardAccessListEntry}

/-- An entry of a list: it is appended, or refused for lack of room. -/
theorem Holds.add_own (holds : Holds device n rules) (entry : StandardAccessListEntry) :
    (∃ error, device.add_access_list_entry n entry = (.error error,device) ∧
        (device.device_type.supports_routing = true → error = .AccessListCapacity)) ∨
      ∃ next, device.add_access_list_entry n entry = (.ok (),next) ∧ Holds next n (rules ++ [entry]) := by
  have longer : (rules ++ [entry]).length = rules.length + 1 := List.length_append
  unfold Device.add_access_list_entry
  split
  · rename_i unsupported
    refine .inl ⟨_,rfl,fun routing => ?_⟩
    rw [routing] at unsupported
    cases unsupported
  · rcases holds.form with ⟨unnamed,vector⟩ | ⟨id,list,named,found,shape⟩
    · rw [unnamed]
      simp only
      split
      · exact .inl ⟨_,rfl,fun _ => rfl⟩
      · rename_i room
        refine .inr ⟨_,rfl,?_,.inl ⟨unnamed,?_⟩⟩
        · rw [longer,← vector]
          cases stored : device.access_lists.get? n with
          | none => exact Nat.le_of_ble_eq_true rfl
          | some entries =>
            rw [stored,Option.any_some,decide_eq_true_eq] at room
            rw [Option.getD_some]
            omega
        · rw [OrderedMap.get?_insert_self,vector]
          rfl
    · rw [named]
      simp only
      rcases set_acl_entry_standard found shape holds.few entry with full | ⟨room,changed,next,done,lists,name,shape'⟩
      · exact .inl ⟨_,full,fun _ => rfl⟩
      · refine .inr ⟨next,done,by omega,.inr ⟨id,changed,?_,?_,shape'⟩⟩
        · rw [Device.acl_id,lists]
          refine (find?_insert_known found changed (fun entry => entry.2.name = number n) ?_).trans named
          simp only [name]
        · rw [lists,OrderedMap.get?_insert_self]

/-- Lists and vectors of other names leave a list. -/
theorem Holds.of_names (holds : Holds device n rules) {next : Device}
    (names : next.acl_id (number n) = device.acl_id (number n))
    (vector : next.access_lists.get? n = device.access_lists.get? n)
    (entries : ∀ id, device.acl_id (number n) = some id → next.named_access_lists.get? id = device.named_access_lists.get? id) :
    Holds next n rules := by
  refine ⟨holds.few,?_⟩
  rw [names,vector]
  rcases holds.form with unnamed | ⟨id,list,named,found,shape⟩
  · exact .inl unnamed
  · exact .inr ⟨id,list,named,(entries id named).trans found,shape⟩

/-- An entry of another list. -/
theorem Holds.add_other (holds : Holds device n rules) {m : AccessListId} (other : m ≠ n) (entry : StandardAccessListEntry) :
    Holds (device.add_access_list_entry m entry).2 n rules := by
  unfold Device.add_access_list_entry
  split
  · exact holds
  · cases named : device.acl_id (number m) with
    | none =>
      simp only
      split
      · exact holds
      · refine holds.of_names rfl ?_ (fun _ _ => rfl)
        rw [OrderedMap.get?_insert,if_neg (Ne.symm other)]
    | some id =>
      simp only
      rcases set_acl_entry_cases device id none (AclEntry.standard entry) with
        ⟨error,same⟩ | ⟨list,entries,next,found,done,-,vectors,-,lists⟩
      · rw [same]
        exact holds
      · rw [done]
        refine holds.of_names ?_ ?_ ?_
        · rw [Device.acl_id,lists]
          exact resolve_entries found entries _
        · rw [vectors]
        · intro mine resolved
          obtain ⟨own,held,name⟩ := resolve_some resolved
          obtain ⟨its,held',name'⟩ := resolve_some named
          have apart : mine ≠ id := by
            rintro rfl
            rw [held] at held'
            cases held'
            exact other (number_injective (name'.symm.trans name))
          rw [lists,OrderedMap.get?_insert,if_neg apart]

/-- New ids are above all others. -/
theorem next_acl_id_above {id : AclId} (next : device.next_acl_id = some id) :
    ∀ key ∈ device.named_access_lists.keys, key < id := by
  intro key member
  unfold Device.next_acl_id at next
  cases ends : device.named_access_lists.entries.getLast? with
  | none =>
    rw [keys_of_no_last ends] at member
    cases member
  | some last =>
    rw [ends] at next
    have sum := checkedAdd32_eq_some next
    have below := le_last ends member
    rw [UInt32.le_iff_toNat_le] at below
    rw [UInt32.lt_iff_toNat_lt,sum]
    exact Nat.lt_succ_of_le below

/-- What `ensure_acl` does if it does anything: a new list behind the others, and no vector under its number. -/
theorem ensure_acl_cases (device : Device) (name : String) (kind : AclKind) :
    (device.ensure_acl name kind).2 = device ∨
      ∃ id old_id, device.acl_id name = none ∧ (∀ key ∈ device.named_access_lists.keys, key < id) ∧
        (∀ m, old_id = some m → name = number m) ∧ (∀ m, kind = .Standard → name = number m → old_id = some m) ∧
        (∀ m, name = number m → kind = .Standard) ∧
        (device.ensure_acl name kind).2 = { device with
          access_lists := old_id.elim device.access_lists device.access_lists.erase
          named_access_lists := device.named_access_lists.insert id
            ⟨name,kind,(old_id.bind device.access_lists.get?).elim ∅ Device.promoted⟩ } := by
  unfold Device.ensure_acl
  split
  · exact .inl rfl
  · split
    · exact .inl rfl
    · rename_i named
      split
      · exact .inl rfl
      · rename_i valid
        rw [Bool.not_eq_true,Bool.not_eq_false'] at valid
        simp only [Bool.not_eq_true,Bool.or_eq_false_iff,Bool.not_eq_false'] at named
        cases known : device.acl_id name with
        | some id =>
          simp only
          split <;> exact .inl rfl
        | none =>
          simp only
          split
          · exact .inl rfl
          · cases next : device.next_acl_id with
            | none => exact .inl rfl
            | some id =>
              refine .inr ⟨id,_,trivial,next_acl_id_above next,?_,?_,?_,rfl⟩
              · intro m found
                split at found
                · obtain ⟨value,parsed,is⟩ := Option.bind_eq_some_iff.mp found
                  exact ensured_number named.2 valid parsed is
                · cases found
              · intro m standard same
                rw [if_pos standard,same]
                exact parse_number m
              · intro m same
                exact number_standard m (same ▸ valid)

/-- Creating or selecting lists keeps the rules of all, those of a list that is promoted among them. -/
theorem Holds.ensure_acl (holds : Holds device n rules) (name : String) (kind : AclKind) :
    Holds (device.ensure_acl name kind).2 n rules := by
  rcases ensure_acl_cases device name kind with same | ⟨id,old_id,unnamed,above,back,own,standard,done⟩
  · rw [same]
    exact holds
  · rw [done]
    by_cases mine : name = number n
    · -- the list itself: its vector becomes the entries of the new list
      have old := own n (standard n mine) mine
      rcases holds.form with ⟨-,vector⟩ | ⟨id,list,named,-,-⟩
      · refine ⟨holds.few,.inr ⟨id,_,?_,OrderedMap.get?_insert_self _ _ _,?_⟩⟩
        · refine (resolve_new above _ _).trans ?_
          rw [if_pos mine,← mine]
          exact congrArg (Option.or · (some id)) unnamed
        · rw [old,Option.bind_some]
          cases stored : device.access_lists.get? n with
          | none =>
            rw [stored] at vector
            cases vector
            rfl
          | some entries =>
            rw [stored] at vector
            cases vector
            exact promoted_rules holds.few name kind
      · rw [← mine,unnamed] at named
        cases named
    · refine holds.of_names ?_ ?_ ?_
      · refine (resolve_new above _ _).trans ?_
        rw [if_neg mine,Option.or_none]
        rfl
      · cases old : old_id with
        | none => rfl
        | some m =>
          have apart : n ≠ m := fun same => mine (same ▸ back m old)
          exact (OrderedMap.get?_erase _ _ _).trans (if_neg apart)
      · intro own resolved
        obtain ⟨list,found,-⟩ := resolve_some resolved
        have below := above own ((OrderedMap.mem_keys _ _).mpr ⟨list,found⟩)
        exact (OrderedMap.get?_insert _ _ _ _).trans (if_neg (ne_of_lt below))

/-- A list that has an id keeps it. -/
theorem ensure_acl_resolves {name : String} {id : AclId} (resolved : device.acl_id name = some id) (other : String)
    (kind : AclKind) : (device.ensure_acl other kind).2.acl_id name = some id := by
  rcases ensure_acl_cases device other kind with same | ⟨fresh,old_id,-,above,-,-,-,done⟩
  · rw [same]
    exact resolved
  · rw [done]
    refine (resolve_new above _ _).trans ?_
    rw [show resolve device.named_access_lists name = some id from resolved]
    rfl

/-- An entry leaves all names, ports and the type of the device. -/
theorem add_access_list_entry_frame (device : Device) (m : AccessListId) (entry : StandardAccessListEntry) :
    (∀ name, (device.add_access_list_entry m entry).2.acl_id name = device.acl_id name) ∧
      (device.add_access_list_entry m entry).2.interfaces = device.interfaces ∧
      (device.add_access_list_entry m entry).2.device_type = device.device_type := by
  unfold Device.add_access_list_entry
  split
  · exact ⟨fun _ => rfl,rfl,rfl⟩
  · split
    · rename_i id named
      rcases set_acl_entry_cases device id none (AclEntry.standard entry) with
        ⟨error,same⟩ | ⟨list,entries,next,found,done,kept,-,ports,lists⟩
      · rw [same]
        exact ⟨fun _ => rfl,rfl,rfl⟩
      · rw [done]
        refine ⟨fun name => ?_,ports,kept⟩
        rw [Device.acl_id,lists]
        exact resolve_entries found entries name
    · split
      · exact ⟨fun _ => rfl,rfl,rfl⟩
      · exact ⟨fun _ => rfl,rfl,rfl⟩

theorem ensure_acl_frame (device : Device) (name : String) (kind : AclKind) :
    (device.ensure_acl name kind).2.interfaces = device.interfaces ∧
      (device.ensure_acl name kind).2.device_type = device.device_type := by
  rcases ensure_acl_cases device name kind with same | ⟨_,_,-,-,-,-,-,done⟩
  · rw [same]
    exact ⟨rfl,rfl⟩
  · rw [done]
    exact ⟨rfl,rfl⟩

/-- A list stays applied while the port and the names stay. -/
theorem Applied.keep {next : Device} {interface : InterfaceId} {direction : AccessListDirection}
    (applied : Applied device n interface direction)
    (port : ∀ config, device.interfaces.get? interface = some config → ∃ after, next.interfaces.get? interface = some after ∧
      after.access_group direction = config.access_group direction ∧
      after.named_access_group direction = config.named_access_group direction)
    (names : ∀ id, device.acl_id (number n) = some id → next.acl_id (number n) = some id) :
    Applied next n interface direction := by
  obtain ⟨config,held,group⟩ := applied
  obtain ⟨after,held',numbered,named⟩ := port config held
  refine ⟨after,held',?_⟩
  rw [numbered,named]
  exact group.imp_right (fun ⟨id,group,resolved⟩ => ⟨id,group,names id resolved⟩)

end Holding

/-! ### Operations -/

inductive Operation where
  | add_access_list_entry (id : AccessListId) (entry : StandardAccessListEntry)
  | ensure_acl (name : String) (kind : AclKind)
  | set_access_group (interface : InterfaceId) (id : AccessListId) (direction : AccessListDirection)
  | set_named_access_group (interface : InterfaceId) (name : String) (direction : AccessListDirection)
  | permits_ipv4 (interface : InterfaceId) (direction : AccessListDirection) (packet : Ipv4Packet)

def Device.perform (self : Device) : Operation → Except DeviceError Unit × Device
  | .add_access_list_entry id entry => self.add_access_list_entry id entry
  | .ensure_acl name kind => ((self.ensure_acl name kind).1.map (fun _ => ()),(self.ensure_acl name kind).2)
  | .set_access_group interface id direction => self.set_access_group interface id direction
  | .set_named_access_group interface name direction => self.set_named_access_group interface name direction
  | .permits_ipv4 interface direction packet => (.ok (),(self.permits_ipv4 interface direction packet).2)

/-- The operations so far with what they have returned. -/
abbrev Log := List (Operation × Except DeviceError Unit)

structure Session where
  device : Device
  log : Log

def Session.perform (self : Session) (operation : Operation) : Session :=
  ⟨(self.device.perform operation).2,self.log ++ [(operation,(self.device.perform operation).1)]⟩

def Session.run (start : Device) (operations : List Operation) : Session := operations.foldl perform ⟨start,[]⟩

/-- The rule that an operation adds to a list. -/
def Operation.rule (n : AccessListId) : Operation → Option StandardAccessListEntry
  | .add_access_list_entry id entry => if id = n then some entry else none
  | _ => none

/-- The rules that were added to a list, in the order of entry. -/
def entered (n : AccessListId) (log : Log) : List StandardAccessListEntry :=
  log.filterMap (fun entry => if entry.2 = .ok () then entry.1.rule n else none)

/-- The name of the list that an operation applies to a direction of an interface. -/
def Operation.group (interface : InterfaceId) (direction : AccessListDirection) : Operation → Option String
  | .set_access_group port id towards => if port = interface ∧ towards = direction then some (number id) else none
  | .set_named_access_group port name towards => if port = interface ∧ towards = direction then some name else none
  | _ => none

/-- The name of the list that was applied last. -/
def applied_last (interface : InterfaceId) (direction : AccessListDirection) (log : Log) : Option String :=
  (log.filterMap (fun entry => if entry.2 = .ok () then entry.1.group interface direction else none)).getLast?

section Steps
variable {device : Device} {n : AccessListId} {rules : List StandardAccessListEntry}

/-- What an operation makes of the rules of a list. -/
theorem Holds.perform (holds : Holds device n rules) (operation : Operation) :
    Holds (device.perform operation).2 n (rules ++ entered n [(operation,(device.perform operation).1)]) := by
  cases operation with
  | add_access_list_entry m entry =>
    by_cases own : m = n
    · subst own
      simp only [Device.perform]
      rcases holds.add_own entry with ⟨error,refused,-⟩ | ⟨next,done,holds'⟩
      · rw [refused]
        simpa [entered] using holds
      · rw [done]
        simpa [entered,Operation.rule] using holds'
    · have nothing : entered n [(.add_access_list_entry m entry,(device.perform (.add_access_list_entry m entry)).1)] = [] := by
        simp [entered,Operation.rule,own]
      rw [nothing,List.append_nil]
      exact holds.add_other own entry
  | ensure_acl name kind => simpa [entered,Operation.rule,Device.perform] using holds.ensure_acl name kind
  | set_access_group interface m direction =>
    simpa [entered,Operation.rule,Device.perform] using holds.same (set_access_group_same device interface m direction)
  | set_named_access_group interface name direction =>
    simpa [entered,Operation.rule,Device.perform] using holds.same (set_named_access_group_same device interface name direction)
  | permits_ipv4 interface direction packet =>
    simpa [entered,Operation.rule,Device.perform] using holds.same (permits_ipv4_same device interface direction packet).1

/-- A name keeps its list. -/
theorem perform_resolves {name : String} {id : AclId} (resolved : device.acl_id name = some id) (operation : Operation) :
    (device.perform operation).2.acl_id name = some id := by
  cases operation with
  | add_access_list_entry m entry => exact ((add_access_list_entry_frame device m entry).1 name).trans resolved
  | ensure_acl other kind => exact ensure_acl_resolves resolved other kind
  | set_access_group interface m direction =>
    exact ((set_access_group_same device interface m direction).acl_id name).trans resolved
  | set_named_access_group interface other direction =>
    exact ((set_named_access_group_same device interface other direction).acl_id name).trans resolved
  | permits_ipv4 interface direction packet =>
    exact ((permits_ipv4_same device interface direction packet).1.acl_id name).trans resolved

theorem perform_device_type (device : Device) (operation : Operation) :
    (device.perform operation).2.device_type = device.device_type := by
  cases operation with
  | add_access_list_entry m entry => exact (add_access_list_entry_frame device m entry).2.2
  | ensure_acl other kind => exact (ensure_acl_frame device other kind).2
  | set_access_group interface m direction => exact (set_access_group_same device interface m direction).type_of
  | set_named_access_group interface other direction =>
    exact (set_named_access_group_same device interface other direction).type_of
  | permits_ipv4 interface direction packet => exact (permits_ipv4_same device interface direction packet).1.type_of

/-- The groups of one direction. -/
def groups (config : InterfaceConfig) (direction : AccessListDirection) : Option AccessListId × Option AclId :=
  (config.access_group direction,config.named_access_group direction)

theorem groups_apply_numbered (config : InterfaceConfig) (id : AccessListId) (towards direction : AccessListDirection) :
    groups (config.apply_numbered id towards) direction =
      if towards = direction then (some id,none) else groups config direction := by
  cases towards <;> cases direction <;> rfl

theorem groups_apply_named (config : InterfaceConfig) (id : AclId) (towards direction : AccessListDirection) :
    groups (config.apply_named id towards) direction =
      if towards = direction then (none,some id) else groups config direction := by
  cases towards <;> cases direction <;> rfl

/-- The groups of a direction change only where something is applied to it. -/
theorem perform_groups {operation : Operation} {interface : InterfaceId} {direction : AccessListDirection}
    (elsewhere : (device.perform operation).1 = .ok () → operation.group interface direction = none)
    {config : InterfaceConfig} (held : device.interfaces.get? interface = some config) :
    ∃ after, (device.perform operation).2.interfaces.get? interface = some after ∧
      groups after direction = groups config direction := by
  -- an interface with something applied to another direction, or another interface
  have put : ∀ (port : InterfaceId) (old new : InterfaceConfig), device.interfaces.get? port = some old →
      (port = interface → groups new direction = groups old direction) →
      ∃ after, (device.interfaces.insert port new).get? interface = some after ∧
        groups after direction = groups config direction := by
    intro port old new known same
    rw [OrderedMap.get?_insert]
    by_cases here : interface = port
    · subst here
      rw [held] at known
      cases known
      exact ⟨new,if_pos rfl,same rfl⟩
    · exact ⟨config,(if_neg here).trans held,rfl⟩
  have named : ∀ port name towards, ((device.set_named_access_group port name towards).1 = .ok () →
      (if port = interface ∧ towards = direction then some name else none) = none) →
      ∃ after, (device.set_named_access_group port name towards).2.interfaces.get? interface = some after ∧
        groups after direction = groups config direction := by
    intro port name towards elsewhere
    rcases set_named_access_group_cases device port name towards with ⟨error,done⟩ | ⟨id,old,-,known,done⟩
    · rw [done]
      exact ⟨config,held,rfl⟩
    · rw [done] at elsewhere ⊢
      refine put port old _ known (fun same => ?_)
      rw [groups_apply_named,if_neg (fun towards_here => by simpa [same,towards_here] using elsewhere rfl)]
  cases operation with
  | add_access_list_entry m entry => exact ⟨config,by rw [Device.perform,(add_access_list_entry_frame device m entry).2.1,held],rfl⟩
  | ensure_acl name kind => exact ⟨config,by rw [Device.perform,(ensure_acl_frame device name kind).1,held],rfl⟩
  | set_named_access_group port name towards => exact named port name towards elsewhere
  | set_access_group port m towards =>
    simp only [Device.perform,Operation.group] at elsewhere ⊢
    rcases set_access_group_cases device port m towards with ⟨error,done⟩ | ⟨-,done⟩ | ⟨old,-,known,done⟩
    · rw [done]
      exact ⟨config,held,rfl⟩
    · rw [done] at elsewhere ⊢
      exact named port (number m) towards elsewhere
    · rw [done] at elsewhere ⊢
      refine put port old _ known (fun same => ?_)
      rw [groups_apply_numbered,if_neg (fun towards_here => by simpa [same,towards_here] using elsewhere rfl)]
  | permits_ipv4 port towards packet =>
    exact ⟨config,by rw [Device.perform,(permits_ipv4_same device port towards packet).2,held],rfl⟩

/-- A list that is applied, by its number or under its number as a name. -/
theorem perform_applies {operation : Operation} {interface : InterfaceId} {direction : AccessListDirection}
    (here : operation.group interface direction = some (number n)) (done : (device.perform operation).1 = .ok ()) :
    Applied (device.perform operation).2 n interface direction := by
  have named : ∀ port name towards, port = interface → towards = direction → name = number n →
      (device.set_named_access_group port name towards).1 = .ok () →
      Applied (device.set_named_access_group port name towards).2 n interface direction := by
    rintro port name towards rfl rfl rfl done
    rcases set_named_access_group_cases device port (number n) towards with ⟨error,refused⟩ | ⟨id,config,resolved,-,applied⟩
    · rw [refused] at done
      cases done
    · rw [applied]
      refine ⟨_,OrderedMap.get?_insert_self _ _ _,.inr ⟨id,?_,resolved⟩⟩
      cases towards <;> rfl
  cases operation with
  | set_named_access_group port name towards =>
    simp only [Operation.group] at here
    split at here
    · rename_i place
      exact named port name towards place.1 place.2 (Option.some.inj here) done
    · cases here
  | set_access_group port m towards =>
    simp only [Operation.group] at here
    split at here
    · rename_i place
      obtain rfl := number_injective (Option.some.inj here)
      obtain ⟨rfl,rfl⟩ := place
      simp only [Device.perform] at done ⊢
      rcases set_access_group_cases device port m towards with ⟨error,refused⟩ | ⟨-,same⟩ | ⟨config,-,-,applied⟩
      · rw [refused] at done
        cases done
      · rw [same] at done ⊢
        exact named port (number m) towards rfl rfl rfl done
      · rw [applied]
        refine ⟨_,OrderedMap.get?_insert_self _ _ _,.inl ?_⟩
        cases towards <;> exact ⟨rfl,rfl⟩
    · cases here
  | _ => cases here

theorem applied_last_append (interface : InterfaceId) (direction : AccessListDirection) (log : Log)
    (entry : Operation × Except DeviceError Unit) : applied_last interface direction (log ++ [entry]) =
      (if entry.2 = .ok () then entry.1.group interface direction else none).or (applied_last interface direction log) := by
  unfold applied_last
  rw [List.filterMap_append]
  cases last : if entry.2 = .ok () then entry.1.group interface direction else none with
  | none => simp [last]
  | some name => simp [last]

/-- Where a list was applied last, it stays applied. -/
theorem perform_applied {log : Log} {interface : InterfaceId} {direction : AccessListDirection}
    (before : applied_last interface direction log = some (number n) → Applied device n interface direction)
    (operation : Operation)
    (after : applied_last interface direction (log ++ [(operation,(device.perform operation).1)]) = some (number n)) :
    Applied (device.perform operation).2 n interface direction := by
  rw [applied_last_append] at after
  cases last : if (device.perform operation).1 = .ok () then operation.group interface direction else none with
  | some name =>
    simp only [last] at after
    split at last
    · rename_i done
      exact perform_applies (last.trans after) done
    · cases last
  | none =>
    simp only [last,Option.none_or] at after
    refine (before after).keep (fun config held => ?_) (fun id resolved => perform_resolves resolved operation)
    obtain ⟨next,held',same⟩ := perform_groups (fun done => by rw [if_pos done] at last; exact last) held
    exact ⟨next,held',congrArg Prod.fst same,congrArg Prod.snd same⟩

end Steps

/-! ### Runs -/

/-- The rules that a sequence of operations adds to a list. -/
def requested (n : AccessListId) (operations : List Operation) :
    List StandardAccessListEntry := operations.filterMap (·.rule n)

theorem run_append_one (start : Device) (operations : List Operation) (operation : Operation) :
    Session.run start (operations ++ [operation]) = (Session.run start operations).perform operation :=
  List.foldl_concat _ _ _ _

theorem entered_append (n : AccessListId) (log more : Log) : entered n (log ++ more) = entered n log ++ entered n more :=
  List.filterMap_append

section Runs
variable {start : Device} {n : AccessListId}

theorem run_holds (unnamed : start.acl_id (number n) = none) (unnumbered : start.access_lists.get? n = none)
    (operations : List Operation) :
    Holds (Session.run start operations).device n (entered n (Session.run start operations).log) := by
  induction operations using List.reverseRecOn with
  | nil => exact ⟨Nat.zero_le _,.inl ⟨unnamed,by rw [show (Session.run start []).device = start from rfl,unnumbered]; rfl⟩⟩
  | append_singleton operations operation ih =>
    rw [run_append_one,Session.perform,entered_append]
    exact ih.perform operation

theorem run_applied (operations : List Operation) (interface : InterfaceId) (direction : AccessListDirection) :
    applied_last interface direction (Session.run start operations).log = some (number n) →
      Applied (Session.run start operations).device n interface direction := by
  induction operations using List.reverseRecOn with
  | nil =>
    intro nothing
    cases nothing
  | append_singleton operations operation ih =>
    rw [run_append_one]
    exact perform_applied ih operation

theorem run_device_type (operations : List Operation) :
    (Session.run start operations).device.device_type = start.device_type := by
  induction operations using List.reverseRecOn with
  | nil => rfl
  | append_singleton operations operation ih =>
    rw [run_append_one]
    exact (perform_device_type _ operation).trans ih

/-- On a device that routes, only a lack of room keeps a rule out. -/
theorem run_entered (unnamed : start.acl_id (number n) = none) (unnumbered : start.access_lists.get? n = none)
    (routing : start.device_type.supports_routing = true) (operations : List Operation)
    (room : ∀ entry ∈ (Session.run start operations).log, entry.2 ≠ .error .AccessListCapacity) :
    entered n (Session.run start operations).log = requested n operations := by
  induction operations using List.reverseRecOn with
  | nil => rfl
  | append_singleton operations operation ih =>
    rw [run_append_one] at room ⊢
    have before := ih (fun entry member => room entry (List.mem_append_left _ member))
    have last := room _ (List.mem_append_right _ (List.mem_singleton_self _))
    have routing' : (Session.run start operations).device.device_type.supports_routing = true := by
      rw [run_device_type]
      exact routing
    rw [Session.perform,entered_append,before]
    unfold requested
    rw [List.filterMap_append]
    refine congrArg (_ ++ ·) ?_
    cases rule : operation.rule n with
    | none =>
      simp [entered,rule]
    | some entry =>
      cases operation with
      | add_access_list_entry m added =>
        have own : m = n := by
          by_contra other
          simp [Operation.rule,other] at rule
        subst own
        rcases (run_holds unnamed unnumbered operations).add_own added with ⟨error,refused,full⟩ | ⟨next,done,-⟩
        · simp only [Device.perform,refused,full routing'] at last
          exact absurd rfl last
        · simp [entered,rule,Device.perform,done]
      | _ => cases rule

/-- A standard list decides by the rules that were added to it in their order, for sources and for packets at every
interface to which it was applied, whether and whenever it becomes a named list. Without a refusal for lack of room, all
rules are in it. -/
theorem numbered_lists_decide_alike (unnamed : start.acl_id (number n) = none)
    (unnumbered : start.access_lists.get? n = none) (operations : List Operation) :
    let session := Session.run start operations
    let rules := entered n session.log
    (∀ source, session.device.access_list_permits n source = decide (first_match rules source = .Permit)) ∧
      (∀ interface direction, applied_last interface direction session.log = some (number n) → ∀ packet,
        (session.device.permits_ipv4 interface direction packet).1 =
          decide (first_match rules packet.source = .Permit)) ∧
      (start.device_type.supports_routing = true →
        (∀ entry ∈ session.log, entry.2 ≠ .error .AccessListCapacity) → rules = requested n operations) := by
  intro session rules
  have holds := run_holds unnamed unnumbered operations
  refine ⟨holds.access_list_permits,?_,fun routing room => run_entered unnamed unnumbered routing operations room⟩
  intro interface direction last packet
  exact holds.permits_ipv4 (run_applied operations interface direction last) packet

end Runs

/-- A router with one interface. -/
def small_router : Device := ⟨.Router,(∅ : OrderedMap InterfaceId InterfaceConfig).insert 1 ⟨none,none,none,none⟩,∅,∅,∅,∅,[],∅⟩

/-- List 7 permits one address, is applied, and becomes a named list before it denies all others. -/
def small_edits : List Operation :=
  [.add_access_list_entry ⟨7,by decide⟩ ⟨.Permit,0x0a000001,0⟩,.set_access_group 1 ⟨7,by decide⟩ .In,.ensure_acl "7" .Standard,
    .add_access_list_entry ⟨7,by decide⟩ ⟨.Deny,0,0xffffffff⟩]

/-- A packet from an address. -/
def packet_from (source : Ipv4Addr) : Ipv4Packet := ⟨0,source,0x0a000003,64,.Udp,[]⟩

theorem numbered_lists_decide_alike_promoted :
    ((Session.run small_router small_edits).device.permits_ipv4 1 .In (packet_from 0x0a000001)).1 = true ∧
      ((Session.run small_router small_edits).device.permits_ipv4 1 .In (packet_from 0x0a000002)).1 = false := by
  have rules : entered ⟨7,by decide⟩ (Session.run small_router small_edits).log =
      [⟨.Permit,0x0a000001,0⟩,⟨.Deny,0,0xffffffff⟩] := by decide +kernel
  have last : applied_last 1 .In (Session.run small_router small_edits).log = some (number ⟨7,by decide⟩) := by
    decide +kernel
  have decides := (@numbered_lists_decide_alike small_router ⟨7,by decide⟩ rfl rfl small_edits).2.1 1 .In last
  rw [rules] at decides
  exact ⟨(decides _).trans (by decide +kernel),(decides _).trans (by decide +kernel)⟩

end Rios.AccessLists
