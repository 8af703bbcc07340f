import Rios.Routing

/-!
# OSPFv2 summaries and external routes

Every summarised or redistributed prefix becomes an advertisement of its own.
Several prefixes may share a network address, so that the link-state ID of an
advertisement may use host bits; its mask still identifies the prefix.
-/

namespace Rios.OspfSpf
open Rios.Device

/-- A receiver reads back the prefix whose mask was sent with one of its addresses. -/
theorem network_of_mask (network : Ipv4Network) {id : Ipv4Addr} (within : id &&& network.mask = network.address) :
    network_of id network.mask = some network := by
  have small : network.prefix_len.toNat ≤ 32 := UInt8.le_iff_toNat_le.mp network.valid
  have ones : ∀ p : Nat, p ≤ 32 → leading_ones (mask_of (UInt8.ofNat p)) = UInt8.ofNat p := by
    intro p inside
    interval_cases p <;> decide +kernel
  have here : leading_ones network.mask = network.prefix_len := by
    have here := ones network.prefix_len.toNat small
    rwa [UInt8.ofNat_toNat] at here
  have parsed : Ipv4InterfaceConfig.from_mask id network.mask = .ok ⟨id,network.prefix_len,network.valid⟩ := by
    have sized : Ipv4InterfaceConfig.new id (leading_ones network.mask) = .ok ⟨id,network.prefix_len,network.valid⟩ := by
      rw [here]
      exact dif_pos network.valid
    rw [Ipv4InterfaceConfig.from_mask,sized]
    exact if_neg (not_not_intro rfl)
  rw [network_of,parsed]
  simp only [Ipv4Network.new,network.valid,dif_pos]
  exact congrArg some (Ipv4Network.ext_iff.mpr ⟨within,rfl⟩)

end Rios.OspfSpf

namespace Rios.Ospf
open Rios.Machine Rios.Device Rios.OspfSpf

def LSA_INITIAL_SEQUENCE : Int32 := Int32.minValue + 1

/-- Advertisements to originate, by area and identity. -/
abbrev Desired := OrderedMap (UInt32 ×ₗ LsaKey) Lsa

/-- Whether no advertisement of the same area, type and router has an ID. -/
def free (area : UInt32) (lsa : Lsa) (desired : Desired) (address : Ipv4Addr) : Bool :=
  !desired.contains (toLex (area,{lsa with link_state_id := address}.key))

/-- `(first..=last).take(count)`. -/
def addresses (first last : Ipv4Addr) (count : Nat) : List Ipv4Addr :=
  (List.range' first.toNat (min (last.toNat + 1 - first.toNat) count)).map UInt32.ofNat

/-- The link-state ID of a prefix: its first address, its last one, or the first free one. -/
def chosen (area : UInt32) (network : Ipv4Network) (lsa : Lsa) (desired : Desired) : Option Ipv4Addr :=
  if free area lsa desired network.address then some network.address
  else if free area lsa desired network.broadcast then some network.broadcast
  -- bounded by the number of occupied IDs, never by the IPv4 address space
  else (addresses network.address network.broadcast (desired.size + 1)).find? (free area lsa desired)

/-- More-specific prefixes reserve their exact IDs first; others may use host bits. -/
def insert_prefix_lsa (area : UInt32) (network : Ipv4Network) (lsa : Lsa) (desired : Desired) : Desired :=
  match chosen area network lsa desired with
  | some address =>
    let lsa := {lsa with link_state_id := address}
    desired.insert (toLex (area,lsa.key)) lsa
  | none => desired

structure OspfDefaultRoute where
  always : Bool
  metric : UInt32
  type_two : Bool
deriving DecidableEq

structure OspfRedistribute where
  metric : UInt32
  type_two : Bool
deriving DecidableEq

/-- The external policies of an OSPF process. -/
structure OspfPolicy where
  default_information : Option OspfDefaultRoute
  redistribute_static : Option OspfRedistribute
deriving DecidableEq

/-- `prefix_len` decreasing, then `address`. -/
def longest_first {ν : Type} (first second : Ipv4Network × ν) : Bool :=
  toLex (OrderDual.toDual first.1.prefix_len,first.1.address) ≤ toLex (OrderDual.toDual second.1.prefix_len,second.1.address)

/-- The advertisement of one external prefix. -/
def external_lsa (self_id : Ipv4Addr) (network : Ipv4Network) (metric : UInt32) (type_two : Bool) : Lsa :=
  ⟨0,2,network.address,self_id,LSA_INITIAL_SEQUENCE,.External network.mask metric type_two 0 0⟩

/-- The advertisement of one summarised prefix. -/
def summary_lsa (self_id : Ipv4Addr) (network : Ipv4Network) (metric : UInt32) : Lsa :=
  ⟨0,2,network.address,self_id,LSA_INITIAL_SEQUENCE,.Summary network.mask metric⟩

theorem zero_short : (0 : UInt8) ≤ 32 := UInt8.zero_le

theorem zero_normal : (0 : Ipv4Addr) &&& mask_of 0 = 0 := rfl

/-- The default prefix `0.0.0.0/0`. -/
def default_network : Ipv4Network := ⟨0,0,zero_short,zero_normal⟩

/-- The external prefixes of a routing table, with metric and metric type. -/
def external_prefixes (policy : OspfPolicy) (table : Routing.RoutingTable) : OrderedMap Ipv4Network (UInt32 × Bool) :=
  let external := match policy.redistribute_static with
    | some redistribute =>
      (table.routes.filter (fun route => route.source = .Static && route.network.prefix_len ≠ 0)).foldl
        (fun external route => external.insert route.network (redistribute.metric,redistribute.type_two)) ∅
    | none => ∅
  match policy.default_information with
  | some information =>
    if information.always || table.routes.any (fun route =>
        route.network.prefix_len = 0 && (route.source = .Connected || route.source = .Static)) then
      external.insert default_network (information.metric,information.type_two)
    else external
  | none => external

def ospf_external_lsas (policy : Option OspfPolicy) (table : Routing.RoutingTable) (self_id : Ipv4Addr) : Desired :=
  match policy with
  | none => ∅
  | some policy =>
    ((external_prefixes policy table).entries.mergeSort longest_first).foldl (fun desired entry =>
      insert_prefix_lsa 0 entry.1 (external_lsa self_id entry.1 entry.2.1 entry.2.2) desired) ∅

/-- What an area border router advertises of its areas: each best route or path with its area. -/
structure Candidates where
  networks : OrderedMap Ipv4Network (UInt32 × OspfSpfRoute)
  asbrs : OrderedMap Ipv4Addr (UInt32 × OspfAsbrPath)

/-- One route of an area; only the backbone's inter-area routes pass. -/
def add_network (area : UInt32) (networks : OrderedMap Ipv4Network (UInt32 × OspfSpfRoute))
    (entry : Ipv4Network × OspfSpfRoute) : OrderedMap Ipv4Network (UInt32 × OspfSpfRoute) :=
  if entry.2.source ≠ .Ospf ∧ ¬(area = 0 ∧ entry.2.source = .OspfInterArea) then networks
  else if (networks.get? entry.1).all (fun old => entry.2.preference < old.2.preference) then
    networks.insert entry.1 (area,entry.2)
  else networks

/-- One border router path of an area. -/
def add_border (self_id : Ipv4Addr) (area : UInt32) (asbrs : OrderedMap Ipv4Addr (UInt32 × OspfAsbrPath))
    (entry : Ipv4Addr × OspfAsbrPath) : OrderedMap Ipv4Addr (UInt32 × OspfAsbrPath) :=
  if entry.1 = self_id ∨ (entry.2.inter_area ∧ area ≠ 0) then asbrs
  else if (asbrs.get? entry.1).all (fun old =>
      toLex (entry.2.inter_area,toLex (entry.2.metric,entry.2.first_hop)) <
        toLex (old.2.inter_area,toLex (old.2.metric,old.2.first_hop))) then
    asbrs.insert entry.1 (area,entry.2)
  else asbrs

/-- The candidates of one area, from its database and the advertisements about to enter it. -/
def add_area (self_id : Ipv4Addr) (database : UInt32 → OrderedMap LsaKey Lsa) (desired : Desired)
    (candidates : Candidates) (area : UInt32) : Candidates :=
  let own := desired.entries.filter (fun entry => (ofLex entry.1).1 = area)
  let lsas := own.foldl (fun lsas entry => lsas.insert (ofLex entry.1).2 entry.2) (database area)
  let calculation := ospf_calculate self_id lsas.values
  ⟨calculation.routes.entries.foldl (add_network area) candidates.networks,
    calculation.asbrs.entries.foldl (add_border self_id area) candidates.asbrs⟩

/-- The summaries of the other areas' prefixes and border routers in one area. -/
def summarize (self_id : Ipv4Addr) (networks : List (Ipv4Network × (UInt32 × OspfSpfRoute)))
    (asbrs : List (Ipv4Addr × (UInt32 × OspfAsbrPath))) (desired : Desired) (area : UInt32) : Desired :=
  let desired := networks.foldl (fun desired entry =>
    if entry.2.1 = area then desired
    else insert_prefix_lsa area entry.1 (summary_lsa self_id entry.1 entry.2.2.metric) desired) desired
  asbrs.foldl (fun desired entry =>
    if entry.2.1 = area ∨ entry.2.2.metric ≥ 0x00ffffff then desired
    else
      let lsa : Lsa := ⟨0,2,entry.1,self_id,LSA_INITIAL_SEQUENCE,.AsbrSummary entry.2.2.metric⟩
      desired.insert (toLex (area,lsa.key)) lsa) desired

/-- `areas` holds the areas in increasing order; `database` is each area's current one. -/
def ospf_summaries (self_id : Ipv4Addr) (areas : List UInt32) (database : UInt32 → OrderedMap LsaKey Lsa)
    (desired : Desired) : Desired :=
  if areas.length < 2 ∨ 0 ∉ areas then desired
  else
    let candidates := areas.foldl (add_area self_id database desired) ⟨∅,∅⟩
    areas.foldl (summarize self_id (candidates.networks.entries.mergeSort longest_first) candidates.asbrs.entries) desired

/-! ### One insertion -/

/-- The key of an advertisement under an ID. -/
def slot (area : UInt32) (lsa : Lsa) (id : Ipv4Addr) :
    UInt32 ×ₗ LsaKey := toLex (area,⟨lsa.body.kind,id,lsa.advertising_router⟩)

theorem slot_injective (area : UInt32) (lsa : Lsa) : Function.Injective (slot area lsa) := by
  intro first second same
  exact congrArg LsaKey.link_state_id (Prod.mk.inj (toLex.injective same)).2

theorem free_iff (area : UInt32) (lsa : Lsa) (desired : Desired) (id : Ipv4Addr) :
    free area lsa desired id = true ↔ desired.get? (slot area lsa id) = none := by
  simp [free,OrderedMap.contains,slot,Lsa.key]

theorem mem_addresses {first last id : Ipv4Addr} {count : Nat} :
    id ∈ addresses first last count ↔
      first.toNat ≤ id.toNat ∧ id.toNat < first.toNat + min (last.toNat + 1 - first.toNat) count := by
  simp only [addresses,List.mem_map,List.mem_range'_1]
  constructor
  · rintro ⟨number,⟨above,below⟩,rfl⟩
    have bound := last.toNat_lt
    rw [UInt32.toNat_ofNat_of_lt' (show number < 2 ^ 32 by omega)]
    exact ⟨above,below⟩
  · intro inside
    exact ⟨id.toNat,inside,UInt32.ofNat_toNat⟩

theorem addresses_nodup (first last : Ipv4Addr) (count : Nat) : (addresses first last count).Nodup := by
  refine List.Nodup.map_on ?_ List.nodup_range'
  intro x insideX y insideY same
  rw [List.mem_range'_1] at insideX insideY
  have bound := last.toNat_lt
  have number := congrArg UInt32.toNat same
  rwa [UInt32.toNat_ofNat_of_lt' (show x < 2 ^ 32 by omega),
    UInt32.toNat_ofNat_of_lt' (show y < 2 ^ 32 by omega)] at number

theorem addresses_length (first last : Ipv4Addr) (count : Nat) :
    (addresses first last count).length = min (last.toNat + 1 - first.toNat) count := by
  rw [addresses,List.length_map,List.length_range']

variable {area : UInt32} {desired : Desired}

/-- More addresses than entries cannot all be taken. -/
theorem taken_length {lsa : Lsa} {ids : List Ipv4Addr} (distinct : ids.Nodup)
    (taken : ∀ id ∈ ids, free area lsa desired id = false) : ids.length ≤ desired.size := by
  rw [OrderedMap.size_eq_keys,← List.length_map (slot area lsa)]
  refine (List.subperm_of_subset (distinct.map (slot_injective area lsa)) ?_).length_le
  intro key member
  obtain ⟨id,listed,rfl⟩ := List.mem_map.mp member
  by_contra missing
  have unused := (OrderedMap.get?_eq_none _ _).mpr missing
  rw [← free_iff,taken id listed] at unused
  cases unused

section Choice

variable {network : Ipv4Network} {lsa : Lsa} {id : Ipv4Addr}

/-- A chosen ID lies in its prefix and is free. -/
theorem chosen_some (choice : chosen area network lsa desired = some id) :
    id &&& network.mask = network.address ∧ desired.get? (slot area lsa id) = none := by
  have ordered : network.address.toNat ≤ network.broadcast.toNat := by
    rw [network.broadcast_toNat]
    exact Nat.le_add_right _ _
  rw [network.within_iff,← free_iff]
  unfold chosen at choice
  by_cases exact_id : free area lsa desired network.address
  · rw [if_pos exact_id] at choice
    cases choice
    exact ⟨⟨le_rfl,ordered⟩,exact_id⟩
  by_cases last_id : free area lsa desired network.broadcast
  · rw [if_neg exact_id,if_pos last_id] at choice
    cases choice
    exact ⟨⟨ordered,le_rfl⟩,last_id⟩
  · rw [if_neg exact_id,if_neg last_id] at choice
    have inside := mem_addresses.mp (List.mem_of_find?_eq_some choice)
    refine ⟨⟨inside.1,?_⟩,List.find?_some choice⟩
    omega

/-- Without a choice every address of the prefix is taken: the search stops early only at a free one. -/
theorem chosen_none (choice : chosen area network lsa desired = none) (within : id &&& network.mask = network.address) :
    desired.contains (slot area lsa id) = true := by
  rw [network.within_iff] at within
  unfold chosen at choice
  by_cases exact_id : free area lsa desired network.address
  · rw [if_pos exact_id] at choice
    cases choice
  by_cases last_id : free area lsa desired network.broadcast
  · rw [if_neg exact_id,if_pos last_id] at choice
    cases choice
  rw [if_neg exact_id,if_neg last_id,List.find?_eq_none] at choice
  have taken : ∀ id ∈ addresses network.address network.broadcast (desired.size + 1), free area lsa desired id = false :=
    fun id member => Bool.eq_false_iff.mpr (choice id member)
  have short := taken_length (addresses_nodup _ _ _) taken
  rw [addresses_length] at short
  have listed : id ∈ addresses network.address network.broadcast (desired.size + 1) := by
    rw [mem_addresses]
    omega
  have used := taken id listed
  rw [← Bool.not_eq_true,free_iff] at used
  rw [OrderedMap.contains,Option.isSome_iff_ne_none]
  exact used

theorem insert_prefix_lsa_some (choice : chosen area network lsa desired = some id) :
    insert_prefix_lsa area network lsa desired = desired.insert (slot area lsa id) {lsa with link_state_id := id} := by
  rw [insert_prefix_lsa,choice]
  rfl

theorem insert_prefix_lsa_none (choice : chosen area network lsa desired = none) :
    insert_prefix_lsa area network lsa desired = desired := by
  rw [insert_prefix_lsa,choice]

/-- An insertion keeps every entry. -/
theorem insert_prefix_lsa_keeps {key : UInt32 ×ₗ LsaKey} {old : Lsa} (found : desired.get? key = some old) :
    (insert_prefix_lsa area network lsa desired).get? key = some old := by
  cases choice : chosen area network lsa desired with
  | none => rwa [insert_prefix_lsa_none choice]
  | some id =>
    rw [insert_prefix_lsa_some choice,OrderedMap.get?_insert]
    by_cases same : key = slot area lsa id
    · rw [same,(chosen_some choice).2] at found
      cases found
    · rwa [if_neg same]

end Choice

/-! ### A run of insertions -/

/-- The prefixes inserted one after another. -/
def insert_prefixes (area : UInt32) (inserts : List (Ipv4Network × Lsa)) (desired : Desired) : Desired :=
  inserts.foldl (fun desired item => insert_prefix_lsa area item.1 item.2 desired) desired

/-- Each insertion of a run with the ID that it chose, if any. -/
def placements (area : UInt32) : List (Ipv4Network × Lsa) → Desired → List ((Ipv4Network × Lsa) × Option Ipv4Addr)
  | [], _ => []
  | item :: rest, desired =>
    (item,chosen area item.1 item.2 desired) :: placements area rest (insert_prefix_lsa area item.1 item.2 desired)

theorem placements_items (area : UInt32) (inserts : List (Ipv4Network × Lsa)) (desired : Desired) :
    (placements area inserts desired).map (·.1) = inserts := by
  induction inserts generalizing desired with
  | nil => rfl
  | cons item rest ih => rw [placements,List.map_cons,ih]

variable {inserts : List (Ipv4Network × Lsa)} {item : Ipv4Network × Lsa}

/-- A placed prefix keeps an ID of its own that was free before the run. -/
theorem placements_free {id : Ipv4Addr} (placed : (item,some id) ∈ placements area inserts desired) :
    id &&& item.1.mask = item.1.address ∧ desired.get? (slot area item.2 id) = none := by
  induction inserts generalizing desired with
  | nil => cases placed
  | cons head rest ih =>
    rcases List.mem_cons.mp placed with here | later
    · obtain ⟨rfl,choice⟩ := Prod.mk.inj here
      exact chosen_some choice.symm
    · obtain ⟨within,unused⟩ := ih later
      refine ⟨within,?_⟩
      cases found : desired.get? (slot area item.2 id) with
      | none => rfl
      | some old =>
        rw [insert_prefix_lsa_keeps found] at unused
        cases unused

/-- The entries after a run are those before it and one for each placed prefix. -/
theorem get?_insert_prefixes (area : UInt32) (inserts : List (Ipv4Network × Lsa)) (desired : Desired)
    (key : UInt32 ×ₗ LsaKey) (lsa : Lsa) :
    (insert_prefixes area inserts desired).get? key = some lsa ↔
      desired.get? key = some lsa ∨ ∃ item id, (item,some id) ∈ placements area inserts desired ∧
        key = slot area item.2 id ∧ lsa = {item.2 with link_state_id := id} := by
  induction inserts generalizing desired with
  | nil => simp [insert_prefixes,placements]
  | cons head rest ih =>
    have later := ih (insert_prefix_lsa area head.1 head.2 desired)
    rw [insert_prefixes,List.foldl_cons,← insert_prefixes,later,placements]
    cases choice : chosen area head.1 head.2 desired with
    | none => simp [insert_prefix_lsa_none choice]
    | some id =>
      rw [insert_prefix_lsa_some choice,OrderedMap.get?_insert]
      have unused := (chosen_some choice).2
      by_cases same : key = slot area head.2 id
      · subst same
        rw [if_pos rfl,unused]
        constructor
        · rintro (new | ⟨item,other,placed,at_slot,value⟩)
          · exact .inr ⟨head,id,List.mem_cons_self,rfl,(Option.some.inj new).symm⟩
          · exact .inr ⟨item,other,List.mem_cons_of_mem _ placed,at_slot,value⟩
        · rintro (old | ⟨item,other,placed,at_slot,value⟩)
          · cases old
          · rcases List.mem_cons.mp placed with here | placed
            · obtain ⟨rfl,ids⟩ := Prod.mk.inj here
              cases ids
              exact .inl (congrArg some value.symm)
            · exact .inr ⟨item,other,placed,at_slot,value⟩
      · rw [if_neg same]
        constructor
        · rintro (old | ⟨item,other,placed,rest⟩)
          · exact .inl old
          · exact .inr ⟨item,other,List.mem_cons_of_mem _ placed,rest⟩
        · rintro (old | ⟨item,other,placed,at_slot,value⟩)
          · exact .inl old
          · rcases List.mem_cons.mp placed with here | placed
            · obtain ⟨rfl,ids⟩ := Prod.mk.inj here
              cases ids
              exact absurd at_slot same
            · exact .inr ⟨item,other,placed,at_slot,value⟩

/-- No two prefixes of a run share an ID in one type and router. -/
theorem placements_distinct (area : UInt32) (inserts : List (Ipv4Network × Lsa)) (desired : Desired) :
    (placements area inserts desired).Pairwise (fun first second =>
      ∀ id, first.2 = some id → second.2 = some id → slot area first.1.2 id ≠ slot area second.1.2 id) := by
  induction inserts generalizing desired with
  | nil => exact List.Pairwise.nil
  | cons head rest ih =>
    refine List.pairwise_cons.mpr ⟨?_,ih _⟩
    rintro ⟨item,choice⟩ placed id here rfl same
    have unused := (placements_free placed).2
    rw [insert_prefix_lsa_some here,← same,OrderedMap.get?_insert_self] at unused
    cases unused

/-- A prefix stays without an ID only where its turn finds every address taken. -/
theorem placements_dropped (dropped : (item,none) ∈ placements area inserts desired) :
    ∃ earlier later, inserts = earlier ++ item :: later ∧ ∀ id, id &&& item.1.mask = item.1.address →
      (insert_prefixes area earlier desired).contains (slot area item.2 id) = true := by
  induction inserts generalizing desired with
  | nil => cases dropped
  | cons head rest ih =>
    rcases List.mem_cons.mp dropped with here | further
    · obtain ⟨rfl,choice⟩ := Prod.mk.inj here
      exact ⟨[],rest,rfl,fun id within => chosen_none choice.symm within⟩
    · obtain ⟨earlier,later,rfl,taken⟩ := ih further
      exact ⟨head :: earlier,later,rfl,taken⟩

/-- The mask in a body that describes a prefix. -/
def LsaBody.prefix_mask : LsaBody → Option Ipv4Addr
  | .Summary mask _ => some mask
  | .External mask .. => some mask
  | _ => none

/-- The prefix that a receiver reads from a summary or external advertisement. -/
def Lsa.network (self : Lsa) : Option Ipv4Network := self.body.prefix_mask.bind (network_of self.link_state_id)

/-- An advertisement that describes a prefix, of a given type and router. -/
def Describes (kind : LsaType) (router : Ipv4Addr) (item : Ipv4Network × Lsa) : Prop :=
  item.2.body.kind = kind ∧ item.2.advertising_router = router ∧ item.2.body.prefix_mask = some item.1.mask

theorem Describes.slot {kind : LsaType} {router : Ipv4Addr} (describes : Describes kind router item) (area : UInt32)
    (id : Ipv4Addr) : slot area item.2 id = toLex (area,⟨kind,id,router⟩) := by
  obtain ⟨rfl,rfl,-⟩ := describes
  rfl

/-- Under an ID of its prefix an advertisement is read back as that prefix. -/
theorem Describes.network {kind : LsaType} {router : Ipv4Addr} {item : Ipv4Network × Lsa}
    (describes : Describes kind router item) {id : Ipv4Addr} (within : id &&& item.1.mask = item.1.address) :
    ({item.2 with link_state_id := id} : Lsa).network = some item.1 := by
  simp only [Lsa.network,describes.2.2,Option.bind_some]
  exact network_of_mask item.1 within

/-- A placed item is one of the inserted ones. -/
theorem placements_mem {choice : Option Ipv4Addr} (placed : (item,choice) ∈ placements area inserts desired) :
    item ∈ inserts := by
  rw [← placements_items area inserts desired]
  exact List.mem_map_of_mem placed

/-- The new entries of a run are read back as the placed prefixes. -/
theorem recovered_iff {kind : LsaType} {router : Ipv4Addr} {before : Desired}
    (alike : ∀ item ∈ inserts, Describes kind router item) (network : Ipv4Network) (id : Ipv4Addr) :
    (∃ lsa, before.get? (toLex (area,⟨kind,id,router⟩)) = none ∧
        (insert_prefixes area inserts before).get? (toLex (area,⟨kind,id,router⟩)) = some lsa ∧ lsa.network = some network) ↔
      ∃ lsa, ((network,lsa),some id) ∈ placements area inserts before := by
  constructor
  · rintro ⟨lsa,unused,found,read⟩
    rcases (get?_insert_prefixes area inserts before _ _).mp found with old | ⟨item,other,placed,at_slot,rfl⟩
    · rw [unused] at old
      cases old
    have describes := alike item (placements_mem placed)
    rw [describes.slot] at at_slot
    have ids : id = other := congrArg LsaKey.link_state_id (Prod.mk.inj (toLex.injective at_slot)).2
    subst ids
    rw [describes.network (placements_free placed).1] at read
    cases read
    exact ⟨item.2,placed⟩
  · rintro ⟨lsa,placed⟩
    have describes := alike _ (placements_mem placed)
    obtain ⟨within,unused⟩ := placements_free placed
    refine ⟨{lsa with link_state_id := id},?_,?_,describes.network within⟩
    · rwa [describes.slot] at unused
    · rw [get?_insert_prefixes]
      exact .inr ⟨_,id,placed,(describes.slot area id).symm,rfl⟩

/-- Distinct prefixes: two placements of one prefix are the same insertion. -/
theorem placed_once {network : Ipv4Network} (distinct : (inserts.map (·.1)).Nodup) {first second : Lsa} {id other : Ipv4Addr}
    (here : ((network,first),some id) ∈ placements area inserts desired)
    (there : ((network,second),some other) ∈ placements area inserts desired) : id = other := by
  have networks : ((placements area inserts desired).map (fun entry => entry.1.1)).Nodup := by
    have items := placements_items area inserts desired
    rw [← items,List.map_map] at distinct
    exact distinct
  have same := List.inj_on_of_nodup_map networks here there rfl
  exact Option.some.inj (Prod.mk.inj same).2

/-- Prefixes inserted into one area for one type and router: the IDs are distinct and inside their
    prefixes, earlier entries stay, and a prefix is dropped only when all its addresses are taken.
    A receiver reads the placed prefixes from ID and mask, each from one advertisement. -/
theorem prefixes_own_lsas (area : UInt32) (kind : LsaType) (router : Ipv4Addr) (inserts : List (Ipv4Network × Lsa))
    (before : Desired) (alike : ∀ item ∈ inserts, Describes kind router item) (distinct : (inserts.map (·.1)).Nodup) :
    let after := insert_prefixes area inserts before
    let placed := placements area inserts before
    let key := fun id => toLex (area,(⟨kind,id,router⟩ : LsaKey))
    let advertises := fun network id => ∃ lsa, before.get? (key id) = none ∧ after.get? (key id) = some lsa ∧
      lsa.network = some network
    placed.map (·.1) = inserts ∧
      (placed.filterMap (·.2)).Nodup ∧
      (∀ item id, (item,some id) ∈ placed → id &&& item.1.mask = item.1.address ∧
        after.get? (key id) = some {item.2 with link_state_id := id}) ∧
      (∀ key lsa, before.get? key = some lsa → after.get? key = some lsa) ∧
      (∀ item, (item,none) ∈ placed → ∃ earlier later, inserts = earlier ++ item :: later ∧
        ∀ id, id &&& item.1.mask = item.1.address → (insert_prefixes area earlier before).contains (key id) = true) ∧
      (∀ network, (∃ id, advertises network id) ↔ ∃ lsa id, ((network,lsa),some id) ∈ placed) ∧
      ∀ network id other, advertises network id → advertises network other → id = other := by
  intro after placed key advertises
  have at_key : ∀ {item choice} (id : Ipv4Addr), (item,choice) ∈ placed → slot area item.2 id = key id :=
    fun id member => (alike _ (placements_mem member)).slot area id
  have apart := placements_distinct area inserts before
  refine ⟨placements_items area inserts before,?_,?_,?_,?_,?_,?_⟩
  · rw [List.Nodup,List.pairwise_filterMap]
    refine apart.imp_of_mem ?_
    rintro ⟨first,_⟩ ⟨second,_⟩ here there conflict id rfl other same equal
    subst equal
    exact conflict id rfl same ((at_key id here).trans (at_key id there).symm)
  · intro item id member
    refine ⟨(placements_free member).1,?_⟩
    rw [get?_insert_prefixes]
    exact .inr ⟨item,id,member,(at_key id member).symm,rfl⟩
  · intro key lsa found
    exact (get?_insert_prefixes area inserts before key lsa).mpr (.inl found)
  · intro item member
    obtain ⟨earlier,later,split_at,taken⟩ := placements_dropped member
    refine ⟨earlier,later,split_at,?_⟩
    intro id within
    rw [← at_key id member]
    exact taken id within
  · intro network
    constructor
    · rintro ⟨id,advertised⟩
      obtain ⟨lsa,member⟩ := (recovered_iff alike network id).mp advertised
      exact ⟨lsa,id,member⟩
    · rintro ⟨lsa,id,member⟩
      exact ⟨id,(recovered_iff alike network id).mpr ⟨lsa,member⟩⟩
  · intro network id other first second
    obtain ⟨lsa,here⟩ := (recovered_iff alike network id).mp first
    obtain ⟨lsa',there⟩ := (recovered_iff alike network other).mp second
    exact placed_once distinct here there

theorem host_valid : (32 : UInt8) ≤ 32 := by decide
theorem pair_valid : (31 : UInt8) ≤ 32 := by decide
theorem quad_valid : (30 : UInt8) ≤ 32 := by decide
theorem host_normal : (0x0a000000 : Ipv4Addr) &&& mask_of 32 = 0x0a000000 := by decide
theorem pair_normal : (0x0a000000 : Ipv4Addr) &&& mask_of 31 = 0x0a000000 := by decide
theorem quad_normal : (0x0a000000 : Ipv4Addr) &&& mask_of 30 = 0x0a000000 := by decide

/-- Three prefixes that share their network address. -/
def nested_networks : List Ipv4Network :=
  [⟨0x0a000000,32,host_valid,host_normal⟩,⟨0x0a000000,31,pair_valid,pair_normal⟩,⟨0x0a000000,30,quad_valid,quad_normal⟩]

def nested_inserts : List (Ipv4Network × Lsa) :=
  nested_networks.map (fun network => (network,external_lsa 7 network 20 true))

theorem prefixes_own_lsas_nested :
    ((placements 0 nested_inserts ∅).filterMap (·.2)).Nodup ∧
      (placements 0 nested_inserts ∅).filterMap (·.2) = [0x0a000000,0x0a000001,0x0a000003] := by
  have own := prefixes_own_lsas 0 .External 7 nested_inserts ∅ (by
    intro item member
    obtain ⟨network,-,rfl⟩ := List.mem_map.mp member
    exact ⟨rfl,rfl,rfl⟩) (by decide)
  exact ⟨own.2.1,by decide +kernel⟩

/-! ### The originated advertisements -/

/-- An ID under which a prefix is advertised. -/
def Advertised (desired : Desired) (area : UInt32) (kind : LsaType) (router : Ipv4Addr) (network : Ipv4Network)
    (id : Ipv4Addr) : Prop :=
  ∃ lsa, desired.get? (toLex (area,⟨kind,id,router⟩)) = some lsa ∧ lsa.network = some network

/-- No ID of a prefix is left. -/
def Exhausted (desired : Desired) (area : UInt32) (kind : LsaType) (router : Ipv4Addr) (network : Ipv4Network) : Prop :=
  ∀ id, id &&& network.mask = network.address → desired.contains (toLex (area,⟨kind,id,router⟩)) = true

theorem insert_prefixes_append (area : UInt32) (earlier later : List (Ipv4Network × Lsa)) (desired : Desired) :
    insert_prefixes area (earlier ++ later) desired = insert_prefixes area later (insert_prefixes area earlier desired) :=
  List.foldl_append

/-- Where a type of a router starts empty, a run advertises its prefixes and nothing else of that type. -/
theorem run_advertises {area : UInt32} {kind : LsaType} {router : Ipv4Addr} {inserts : List (Ipv4Network × Lsa)}
    {before : Desired} (alike : ∀ item ∈ inserts, Describes kind router item) (distinct : (inserts.map (·.1)).Nodup)
    (fresh : ∀ id, before.get? (toLex (area,⟨kind,id,router⟩)) = none) (network : Ipv4Network) :
    let after := insert_prefixes area inserts before
    (network ∈ inserts.map (·.1) → (∃! id, Advertised after area kind router network id) ∨ Exhausted after area kind router network) ∧
      ∀ id, Advertised after area kind router network id → network ∈ inserts.map (·.1) := by
  intro after
  have advertised : ∀ id, Advertised after area kind router network id ↔
      ∃ lsa, ((network,lsa),some id) ∈ placements area inserts before := by
    intro id
    rw [← recovered_iff alike network id]
    simp only [Advertised,fresh id,true_and]
    rfl
  constructor
  · intro listed
    obtain ⟨⟨_,lsa⟩,member,rfl⟩ := List.mem_map.mp listed
    rw [← placements_items area inserts before] at member
    obtain ⟨⟨_,choice⟩,placed,rfl⟩ := List.mem_map.mp member
    cases choice with
    | some id =>
      refine .inl ⟨id,(advertised id).mpr ⟨lsa,placed⟩,?_⟩
      intro other also
      obtain ⟨lsa',there⟩ := (advertised other).mp also
      exact placed_once distinct there placed
    | none =>
      refine .inr ?_
      intro id within
      obtain ⟨earlier,later,split_at,taken⟩ := placements_dropped placed
      have used := taken id within
      rw [(alike _ (placements_mem placed)).slot,OrderedMap.contains_iff] at used
      obtain ⟨old,found⟩ := used
      rw [OrderedMap.contains_iff]
      refine ⟨old,?_⟩
      show (insert_prefixes area inserts before).get? _ = _
      rw [split_at,insert_prefixes_append,get?_insert_prefixes]
      exact .inl found
  · intro id found
    obtain ⟨lsa,placed⟩ := (advertised id).mp found
    exact List.mem_map.mpr ⟨_,placements_mem placed,rfl⟩

/-- The entries of a map under distinct keys, in any order. -/
theorem sorted_networks {ν : Type} (networks : OrderedMap Ipv4Network ν) (order : Ipv4Network × ν → Ipv4Network × ν → Bool) :
    ((networks.entries.mergeSort order).map (·.1)).Nodup ∧
      ∀ network, network ∈ (networks.entries.mergeSort order).map (·.1) ↔ networks.contains network = true := by
  have same := (List.mergeSort_perm networks.entries order).map (·.1)
  refine ⟨same.nodup_iff.mpr networks.keys_nodup,?_⟩
  intro network
  rw [same.mem_iff,OrderedMap.contains_iff,← OrderedMap.mem_keys]
  rfl

/-- Redistribution: each external prefix has one advertisement, unless no ID of it is left. -/
theorem external_prefixes_advertised (policy : OspfPolicy) (table : Routing.RoutingTable) (self_id : Ipv4Addr)
    (network : Ipv4Network) :
    let desired := ospf_external_lsas (some policy) table self_id
    ((external_prefixes policy table).contains network = true →
      (∃! id, Advertised desired 0 .External self_id network id) ∨ Exhausted desired 0 .External self_id network) ∧
      ∀ id, Advertised desired 0 .External self_id network id → (external_prefixes policy table).contains network = true := by
  obtain ⟨distinct,listed⟩ := sorted_networks (external_prefixes policy table) longest_first
  have run := @run_advertises 0 .External self_id
    (((external_prefixes policy table).entries.mergeSort longest_first).map
      (fun entry => (entry.1,external_lsa self_id entry.1 entry.2.1 entry.2.2))) ∅ (by
      intro item member
      obtain ⟨entry,-,rfl⟩ := List.mem_map.mp member
      exact ⟨rfl,rfl,rfl⟩) (by rw [List.map_map]; exact distinct) (fun _ => rfl) network
  rw [List.map_map,insert_prefixes,List.foldl_map] at run
  rw [← listed network]
  exact run

/-- The insertions of one area: the prefixes of the other areas. -/
def foreign_inserts (self_id : Ipv4Addr) (networks : List (Ipv4Network × (UInt32 × OspfSpfRoute))) (area : UInt32) :
    List (Ipv4Network × Lsa) :=
  (networks.filter (fun entry => entry.2.1 ≠ area)).map (fun entry => (entry.1,summary_lsa self_id entry.1 entry.2.2.metric))

/-- The entries of a summary type in an area's pass: border routers use another type. -/
theorem summarize_get? (self_id : Ipv4Addr) (networks : List (Ipv4Network × (UInt32 × OspfSpfRoute)))
    (asbrs : List (Ipv4Addr × (UInt32 × OspfAsbrPath))) (desired : Desired) (area scope : UInt32) (id : Ipv4Addr) :
    (summarize self_id networks asbrs desired area).get? (toLex (scope,⟨.Summary,id,self_id⟩)) =
      (insert_prefixes area (foreign_inserts self_id networks area) desired).get? (toLex (scope,⟨.Summary,id,self_id⟩)) := by
  have pass : networks.foldl (fun desired entry =>
      if entry.2.1 = area then desired
      else insert_prefix_lsa area entry.1 (summary_lsa self_id entry.1 entry.2.2.metric) desired) desired =
        insert_prefixes area (foreign_inserts self_id networks area) desired := by
    rw [insert_prefixes,foreign_inserts,List.foldl_map,List.foldl_filter]
    congr 1
    funext desired entry
    by_cases own : entry.2.1 = area <;> simp [own]
  rw [summarize,pass]
  generalize insert_prefixes area (foreign_inserts self_id networks area) desired = placed
  induction asbrs generalizing placed with
  | nil => rfl
  | cons entry rest ih =>
    rw [List.foldl_cons,ih]
    by_cases skipped : entry.2.1 = area ∨ entry.2.2.metric ≥ 0x00ffffff
    · rw [if_pos skipped]
    · rw [if_neg skipped,OrderedMap.get?_insert,if_neg]
      intro same
      cases congrArg LsaKey.kind (Prod.mk.inj (toLex.injective same)).2

theorem foreign_describes {self_id : Ipv4Addr} {networks : List (Ipv4Network × (UInt32 × OspfSpfRoute))} :
    ∀ item ∈ foreign_inserts self_id networks area, Describes .Summary self_id item := by
  intro item member
  obtain ⟨entry,-,rfl⟩ := List.mem_map.mp member
  exact ⟨rfl,rfl,rfl⟩

/-- A run leaves the other areas as they were. -/
theorem insert_prefixes_elsewhere {scope : UInt32} (other : scope ≠ area) (inserts : List (Ipv4Network × Lsa))
    (desired : Desired) (key : LsaKey) :
    (insert_prefixes area inserts desired).get? (toLex (scope,key)) = desired.get? (toLex (scope,key)) := by
  ext lsa
  rw [get?_insert_prefixes]
  constructor
  · rintro (old | ⟨item,id,-,same,-⟩)
    · exact old
    · exact absurd (Prod.mk.inj (toLex.injective same)).1 other
  · exact .inl

/-- The passes of other areas. -/
theorem summarize_elsewhere (self_id : Ipv4Addr) (networks : List (Ipv4Network × (UInt32 × OspfSpfRoute)))
    (asbrs : List (Ipv4Addr × (UInt32 × OspfAsbrPath))) {scope : UInt32} {areas : List UInt32} (others : scope ∉ areas)
    (desired : Desired) (id : Ipv4Addr) :
    (areas.foldl (summarize self_id networks asbrs) desired).get? (toLex (scope,⟨.Summary,id,self_id⟩)) =
      desired.get? (toLex (scope,⟨.Summary,id,self_id⟩)) := by
  induction areas generalizing desired with
  | nil => rfl
  | cons area rest ih =>
    obtain ⟨other,rest_others⟩ := not_or.mp (fun either => others (List.mem_cons.mpr either))
    rw [List.foldl_cons,ih rest_others,summarize_get?,insert_prefixes_elsewhere other]

/-- Summaries: in each area every best prefix of another area has one advertisement, unless no ID of it is left. -/
theorem summaries_advertised (self_id : Ipv4Addr) {areas : List UInt32} (database : UInt32 → OrderedMap LsaKey Lsa)
    (desired : Desired) (ordered : areas.Nodup) (border : ¬(areas.length < 2 ∨ 0 ∉ areas)) (known : area ∈ areas)
    (fresh : ∀ id, desired.get? (toLex (area,⟨.Summary,id,self_id⟩)) = none) (network : Ipv4Network) :
    let candidates := areas.foldl (add_area self_id database desired) ⟨∅,∅⟩
    let after := ospf_summaries self_id areas database desired
    ((∃ best, candidates.networks.get? network = some best ∧ best.1 ≠ area) →
      (∃! id, Advertised after area .Summary self_id network id) ∨ Exhausted after area .Summary self_id network) ∧
      ∀ id, Advertised after area .Summary self_id network id →
        ∃ best, candidates.networks.get? network = some best ∧ best.1 ≠ area := by
  intro candidates after
  obtain ⟨earlier,later,rfl⟩ := List.append_of_mem known
  obtain ⟨-,tail,apart⟩ := List.nodup_append.mp ordered
  have before_others : area ∉ earlier := fun member => apart area member area List.mem_cons_self rfl
  have after_others : area ∉ later := (List.nodup_cons.mp tail).1
  let networks := candidates.networks.entries.mergeSort longest_first
  let asbrs := candidates.asbrs.entries
  let start := earlier.foldl (summarize self_id networks asbrs) desired
  -- the area's own pass decides its summaries
  have own : ∀ id, after.get? (toLex (area,⟨.Summary,id,self_id⟩)) =
      (insert_prefixes area (foreign_inserts self_id networks area) start).get? (toLex (area,⟨.Summary,id,self_id⟩)) := by
    intro id
    show (ospf_summaries self_id (earlier ++ area :: later) database desired).get? _ = _
    rw [ospf_summaries,if_neg border,List.foldl_append,List.foldl_cons]
    exact (summarize_elsewhere self_id networks asbrs after_others _ id).trans
      (summarize_get? self_id networks asbrs start area area id)
  have unused : ∀ id, start.get? (toLex (area,⟨.Summary,id,self_id⟩)) = none :=
    fun id => (summarize_elsewhere self_id networks asbrs before_others desired id).trans (fresh id)
  have distinct : ((foreign_inserts self_id networks area).map (·.1)).Nodup := by
    rw [foreign_inserts,List.map_map]
    exact (sorted_networks candidates.networks longest_first).1.sublist (List.filter_sublist.map _)
  have listed : network ∈ (foreign_inserts self_id networks area).map (·.1) ↔
      ∃ best, candidates.networks.get? network = some best ∧ best.1 ≠ area := by
    simp only [foreign_inserts,List.map_map,List.mem_map,List.mem_filter,networks,List.mem_mergeSort,Function.comp,
      OrderedMap.get?_eq_some]
    constructor
    · rintro ⟨⟨_,best⟩,⟨member,other⟩,rfl⟩
      exact ⟨best,member,of_decide_eq_true other⟩
    · rintro ⟨best,member,other⟩
      exact ⟨(network,best),⟨member,decide_eq_true other⟩,rfl⟩
  have run := run_advertises foreign_describes distinct unused network
  simp only [Advertised,Exhausted,OrderedMap.contains,← own] at run
  rw [← listed]
  simp only [Advertised,Exhausted,OrderedMap.contains]
  exact run

end Rios.Ospf
