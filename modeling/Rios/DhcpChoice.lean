import Rios.Dhcp

/-!
# Which address a client is offered

The search skips whole ranges of excluded addresses, from one end of a range to
the next address behind it. It never passes over an address that the client may
have, so that the offer is the least of them. The excluded addresses are those of
all ranges that were entered, unless a range is entered again with another end.
-/

namespace Rios.Dhcp
open Rios.Machine Rios.Device
open Rios.Queue (SimTime)

/-! ### Allowed addresses -/

/-- The addresses of the ranges that a device excludes. -/
def excluded_addresses (device : Device) : Set Ipv4Addr :=
  { address | ∃ first last, device.dhcp_excluded.get? first = some last ∧ first ≤ address ∧ address ≤ last }

/-- An address of a network that a client may be offered. -/
structure Allowed (device : Device) (client_mac : MacAddress) (pool : DhcpPoolConfig) (network : Ipv4Network)
    (address : Ipv4Addr) : Prop where
  inside : network.contains address = true
  host : address ≠ network.address ∧ address ≠ network.broadcast
  dynamic : address ∉ excluded_addresses device
  not_router : pool.default_router ≠ some address
  unbound : ∀ mac binding, mac ≠ client_mac → device.dhcp_bindings.get? mac = some binding → binding.address ≠ address
  unoffered : ∀ mac offer, mac ≠ client_mac → device.dhcp_offers.get? mac = some offer → offer.address ≠ address
  foreign : ∀ interface config, device.interface_ipv4 interface = some config → config.address ≠ address
  unreserved : ∀ id other, device.dhcp_pools.get? id = some other → other.hardware_address ≠ some client_mac →
    other.reserved_address ≠ some address
  sound : device.dhcp_conflicts.get? address = none

variable {device : Device} {client_mac : MacAddress} {pool : DhcpPoolConfig} {network : Ipv4Network} {address : Ipv4Addr}

theorem mem_excluded_addresses : address ∈ excluded_addresses device ↔
    device.dhcp_excluded.entries.any (fun range => range.1 ≤ address && address ≤ range.2) = true := by
  simp only [excluded_addresses,Set.mem_ofPred_eq,List.any_eq_true,Bool.and_eq_true,decide_eq_true_eq,Prod.exists,
    OrderedMap.get?_eq_some]

/-- The addresses in use by others. -/
theorem mem_used : address ∈ device.used client_mac ↔
    (∃ mac binding, mac ≠ client_mac ∧ device.dhcp_bindings.get? mac = some binding ∧ binding.address = address) ∨
    (∃ mac offer, mac ≠ client_mac ∧ device.dhcp_offers.get? mac = some offer ∧ offer.address = address) ∨
    (∃ interface config, device.interface_ipv4 interface = some config ∧ config.address = address) ∨
    (∃ id other, device.dhcp_pools.get? id = some other ∧ other.hardware_address ≠ some client_mac ∧
      other.reserved_address = some address) ∨
    ∃ deadline, device.dhcp_conflicts.get? address = some deadline := by
  have own : (∃ interface ∈ device.interfaces.keys, (device.interface_ipv4 interface).map (·.address) = some address) ↔
      ∃ interface config, device.interface_ipv4 interface = some config ∧ config.address = address := by
    constructor
    · rintro ⟨interface,-,named⟩
      obtain ⟨config,found,same⟩ := Option.map_eq_some_iff.mp named
      exact ⟨interface,config,found,same⟩
    · rintro ⟨interface,config,found,same⟩
      refine ⟨interface,?_,by rw [found,← same]; rfl⟩
      rw [OrderedMap.mem_keys]
      unfold Device.interface_ipv4 at found
      obtain ⟨settings,present,-⟩ := Option.bind_eq_some_iff.mp found
      exact ⟨settings,present⟩
  have reserved : (∃ other ∈ device.dhcp_pools.values.filter (fun pool => pool.hardware_address ≠ some client_mac),
      other.reserved_address = some address) ↔ ∃ id other, device.dhcp_pools.get? id = some other ∧
        other.hardware_address ≠ some client_mac ∧ other.reserved_address = some address := by
    constructor
    · rintro ⟨other,member,named⟩
      obtain ⟨value,others⟩ := List.mem_filter.mp member
      obtain ⟨id,found⟩ := (OrderedMap.mem_values _ _).mp value
      exact ⟨id,other,found,by simpa using others,named⟩
    · rintro ⟨id,other,found,others,named⟩
      exact ⟨other,List.mem_filter.mpr ⟨(OrderedMap.mem_values _ _).mpr ⟨id,found⟩,by simpa using others⟩,named⟩
  unfold Device.used
  rw [List.mem_append,List.mem_append,List.mem_append,List.mem_append,or_assoc,or_assoc,or_assoc,List.mem_filterMap,List.mem_filterMap,
    own,reserved,OrderedMap.mem_keys]
  simp only [List.mem_map,List.mem_filter,Prod.exists,decide_eq_true_eq,OrderedMap.get?_eq_some]
  constructor
  · rintro (⟨mac,binding,⟨member,other⟩,same⟩ | ⟨mac,offer,⟨member,other⟩,same⟩ | rest)
    · exact .inl ⟨mac,binding,other,member,same⟩
    · exact .inr (.inl ⟨mac,offer,other,member,same⟩)
    · exact .inr (.inr rest)
  · rintro (⟨mac,binding,other,member,same⟩ | ⟨mac,offer,other,member,same⟩ | rest)
    · exact .inl ⟨mac,binding,⟨member,other⟩,same⟩
    · exact .inr (.inl ⟨mac,offer,⟨member,other⟩,same⟩)
    · exact .inr (.inr rest)

theorem allowed_iff : device.allowed client_mac pool network address = true ↔ Allowed device client_mac pool network address := by
  unfold Device.allowed
  simp only [Bool.and_eq_true,Bool.not_eq_true',decide_eq_true_eq,List.contains_eq_mem,mem_used,
    ← Bool.not_eq_true,← mem_excluded_addresses]
  constructor
  · rintro ⟨⟨⟨⟨⟨inside,not_network⟩,not_broadcast⟩,free⟩,not_router⟩,dynamic⟩
    rw [not_or,not_or,not_or,not_or] at free
    obtain ⟨bindings,offers,interfaces,reservations,conflicts⟩ := free
    refine ⟨inside,⟨not_network,not_broadcast⟩,dynamic,not_router,?_,?_,?_,?_,?_⟩
    · exact fun mac binding other found same => bindings ⟨mac,binding,other,found,same⟩
    · exact fun mac offer other found same => offers ⟨mac,offer,other,found,same⟩
    · exact fun interface config found same => interfaces ⟨interface,config,found,same⟩
    · exact fun id other found others same => reservations ⟨id,other,found,others,same⟩
    · exact Option.eq_none_iff_forall_ne_some.mpr (fun deadline found => conflicts ⟨deadline,found⟩)
  · intro may
    refine ⟨⟨⟨⟨⟨may.inside,may.host.1⟩,may.host.2⟩,?_⟩,may.not_router⟩,may.dynamic⟩
    rintro (⟨mac,binding,other,found,same⟩ | ⟨mac,offer,other,found,same⟩ | ⟨interface,config,found,same⟩ |
      ⟨id,other,found,others,same⟩ | ⟨deadline,found⟩)
    · exact may.unbound mac binding other found same
    · exact may.unoffered mac offer other found same
    · exact may.foreign interface config found same
    · exact may.unreserved id other found others same
    · rw [may.sound] at found
      cases found

/-! ### The search -/

/-- Addresses up to the end of the exclusions around an address are excluded. -/
theorem excluded_until_covers {last : Ipv4Addr} (excluded : device.excluded_until address = some last) {other : Ipv4Addr}
    (above : address ≤ other) (below : other ≤ last) : other ∈ excluded_addresses device := by
  obtain ⟨range,inRange,rfl⟩ := List.mem_map.mp (List.max?_mem excluded)
  obtain ⟨member,around⟩ := List.mem_filter.mp inRange
  simp only [Bool.and_eq_true,decide_eq_true_eq] at around
  exact ⟨range.1,range.2,(OrderedMap.get?_eq_some _ _ _).mpr member,le_trans around.1 above,below⟩

theorem checkedAdd32_one_eq_none {value : UInt32} (full : checkedAdd32 value 1 = none) (other : UInt32) : other ≤ value := by
  unfold checkedAdd32 at full
  split_ifs at full with room
  have one : (1 : UInt32).toNat = 1 := rfl
  have top := other.toNat_lt
  rw [UInt32.le_iff_toNat_le]
  omega

/-- Behind a value comes the next one. -/
theorem checkedAdd32_one_le {value next : UInt32} (sum : checkedAdd32 value 1 = some next) (other : UInt32) :
    next ≤ other ↔ value < other := by
  have total : next.toNat = value.toNat + 1 := checkedAdd32_eq_some sum
  rw [UInt32.le_iff_toNat_le,UInt32.lt_iff_toNat_lt,total]
  exact Nat.succ_le_iff

/-- What the search finds is the first permitted address, and it finds nothing where nothing is permitted. -/
theorem search_first {permitted : Ipv4Addr → Bool} (dynamic : ∀ address, permitted address = true → address ∉ excluded_addresses device)
    (last candidate : UInt32) :
    match device.search permitted last candidate with
    | some found => candidate ≤ found ∧ found ≤ last ∧ permitted found = true ∧
        ∀ other, candidate ≤ other → permitted other = true → found ≤ other
    | none => ∀ other, candidate ≤ other → permitted other = true → last < other := by
  fun_induction Device.search device permitted last candidate with
  | case1 candidate beyond => exact fun other above may => lt_of_lt_of_le beyond above
  | case2 candidate inside range_end skip full =>
    intro other above may
    exact absurd (excluded_until_covers skip above (checkedAdd32_one_eq_none full other)) (dynamic other may)
  | case3 candidate inside range_end skip next following ih =>
    have jump : ∀ other, candidate ≤ other → permitted other = true → next ≤ other := by
      intro other above may
      rw [checkedAdd32_one_le following]
      by_contra short
      exact dynamic other may (excluded_until_covers skip above (not_lt.mp short))
    have ahead : candidate ≤ next :=
      le_trans (Device.excluded_until_ge skip) (le_of_lt ((checkedAdd32_one_le following next).mp le_rfl))
    generalize device.search permitted last next = result at ih ⊢
    cases result with
    | none => exact fun other above may => ih other (jump other above may) may
    | some found => exact ⟨le_trans ahead ih.1,ih.2.1,ih.2.2.1,fun other above may => ih.2.2.2 other (jump other above may) may⟩
  | case4 candidate inside skip may => exact ⟨le_rfl,not_lt.mp inside,may,fun other above _ => above⟩
  | case5 candidate inside skip refused full =>
    intro other above may
    have same : other = candidate := le_antisymm (checkedAdd32_one_eq_none full other) above
    exact absurd (same ▸ may) refused
  | case6 candidate inside skip refused next following ih =>
    have jump : ∀ other, candidate ≤ other → permitted other = true → next ≤ other := by
      intro other above may
      rw [checkedAdd32_one_le following]
      refine lt_of_le_of_ne above ?_
      rintro rfl
      exact refused may
    have ahead : candidate ≤ next := le_of_lt ((checkedAdd32_one_le following next).mp le_rfl)
    generalize device.search permitted last next = result at ih ⊢
    cases result with
    | none => exact fun other above may => ih other (jump other above may) may
    | some found => exact ⟨le_trans ahead ih.1,ih.2.1,ih.2.2.1,fun other above may => ih.2.2.2 other (jump other above may) may⟩

/-- The hosts of a network lie between the bounds of the search. -/
theorem host_bounds (inside : network.contains address = true) (not_network : address ≠ network.address)
    (not_broadcast : address ≠ network.broadcast) :
    satAdd32 network.address 1 ≤ address ∧ address ≤ satSub32 network.broadcast 1 := by
  obtain ⟨above,below⟩ := (network.within_iff address).mp ((network.contains_iff address).mp inside)
  have one : (1 : UInt32).toNat = 1 := rfl
  have small := address.toNat_lt
  have top := network.broadcast.toNat_lt
  have first : network.address.toNat ≠ address.toNat := fun same => not_network (UInt32.toNat.inj same).symm
  have last : address.toNat ≠ network.broadcast.toNat := fun same => not_broadcast (UInt32.toNat.inj same)
  have before : (satSub32 network.broadcast 1).toNat = network.broadcast.toNat - 1 := by
    rw [satSub32,UInt32.toNat_ofNat_of_lt' (by simp only [UInt32.size]; omega),one]
  rw [UInt32.le_iff_toNat_le,UInt32.le_iff_toNat_le,satAdd32_toNat,before,one]
  omega

/-- The search finds the least address that the client may have. -/
theorem search_least {found : Option Ipv4Addr}
    (result : device.search (device.allowed client_mac pool network) (satSub32 network.broadcast 1)
      (satAdd32 network.address 1) = found) :
    (∀ address, found = some address ↔ IsLeast { address | Allowed device client_mac pool network address } address) ∧
      (found = none ↔ ∀ address, ¬ Allowed device client_mac pool network address) := by
  have first := @search_first device (device.allowed client_mac pool network)
    (fun address may => (allowed_iff.mp may).dynamic) (satSub32 network.broadcast 1) (satAdd32 network.address 1)
  rw [result] at first
  cases found with
  | none =>
    have never : ∀ address, ¬ Allowed device client_mac pool network address := by
      intro address may
      obtain ⟨above,below⟩ := host_bounds may.inside may.host.1 may.host.2
      exact absurd below (not_le.mpr (first address above (allowed_iff.mpr may)))
    exact ⟨fun address => iff_of_false nofun (fun least => never address least.1),iff_of_true rfl never⟩
  | some found =>
    obtain ⟨-,-,may,ahead⟩ := first
    have least : IsLeast { address | Allowed device client_mac pool network address } found := by
      refine ⟨allowed_iff.mp may,fun other allowed => ?_⟩
      exact ahead other (host_bounds allowed.inside allowed.host.1 allowed.host.2).1 (allowed_iff.mpr allowed)
    refine ⟨fun address => ?_,iff_of_false nofun (fun never => never found least.1)⟩
    constructor
    · intro same
      cases same
      exact least
    · intro again
      rw [least.unique again]

/-! ### The offer -/

/-- The address that a client's binding of a pool holds. -/
def previous_address (device : Device) (client_mac : MacAddress) (pool : DhcpPoolConfig) : Option Ipv4Addr :=
  ((device.dhcp_bindings.get? client_mac).filter (fun binding => binding.pool_name = pool.name)).map (·.address)

/-- The address of an offer that is not a repeated one. -/
theorem offered_address {interface : InterfaceId} {subnet : Ipv4Addr} {now : SimTime} {server : Ipv4InterfaceConfig}
    {id : DhcpPoolId} (attached : device.interface_ipv4 interface = some server)
    (selected : (device.expire_dhcp_server_state now).matching_pool client_mac subnet = some (id,pool))
    (served : pool.network = some network)
    (fresh : ((device.expire_dhcp_server_state now).dhcp_offers.get? client_mac).filter (fun offer => offer.pool = id) = none)
    (room : (device.expire_dhcp_server_state now).dhcp_offers.size + (device.expire_dhcp_server_state now).dhcp_bindings.size <
      MAX_DHCP_BINDINGS) :
    (device.offer_dhcp_on_network interface client_mac subnet now).1.map (·.address) =
      (device.expire_dhcp_server_state now).choose_address client_mac pool network
        (previous_address (device.expire_dhcp_server_state now) client_mac pool) := by
  unfold Device.offer_dhcp_on_network
  rw [attached]
  dsimp only
  rw [selected]
  dsimp only
  rw [served]
  dsimp only
  rw [fresh]
  dsimp only
  rw [if_neg (by simp only [Bool.and_eq_true,decide_eq_true_eq,not_and]; omega)]
  have same : previous_address (device.expire_dhcp_server_state now) client_mac pool =
      (((device.expire_dhcp_server_state now).dhcp_bindings.get? client_mac).filter
        (fun binding => binding.pool_name = pool.name)).map (·.address) := rfl
  rw [← same]
  cases (device.expire_dhcp_server_state now).choose_address client_mac pool network
    (previous_address (device.expire_dhcp_server_state now) client_mac pool) <;> rfl

/-- The choice of an address: a reserved one or none, else the client's previous one, else the least that the client
    may have. -/
theorem dhcp_choice_exact {interface : InterfaceId} {subnet : Ipv4Addr} {now : SimTime} {server : Ipv4InterfaceConfig}
    {id : DhcpPoolId} (attached : device.interface_ipv4 interface = some server)
    (selected : (device.expire_dhcp_server_state now).matching_pool client_mac subnet = some (id,pool))
    (served : pool.network = some network)
    (fresh : ((device.expire_dhcp_server_state now).dhcp_offers.get? client_mac).filter (fun offer => offer.pool = id) = none)
    (room : (device.expire_dhcp_server_state now).dhcp_offers.size + (device.expire_dhcp_server_state now).dhcp_bindings.size <
      MAX_DHCP_BINDINGS) :
    let expired := device.expire_dhcp_server_state now
    let answer := (device.offer_dhcp_on_network interface client_mac subnet now).1.map (·.address)
    (∀ reserved, pool.reserved_address = some reserved →
      Allowed expired client_mac pool network reserved ∧ answer = some reserved ∨
        ¬ Allowed expired client_mac pool network reserved ∧ answer = none) ∧
    (pool.reserved_address = none → ∀ previous, previous_address expired client_mac pool = some previous →
      Allowed expired client_mac pool network previous → answer = some previous) ∧
    (pool.reserved_address = none → (∀ previous, previous_address expired client_mac pool = some previous →
        ¬ Allowed expired client_mac pool network previous) →
      (∀ address, answer = some address ↔ IsLeast { address | Allowed expired client_mac pool network address } address) ∧
        (answer = none ↔ ∀ address, ¬ Allowed expired client_mac pool network address)) := by
  intro expired answer
  have chosen : answer = expired.choose_address client_mac pool network (previous_address expired client_mac pool) :=
    offered_address attached selected served fresh room
  unfold Device.choose_address at chosen
  dsimp only at chosen
  refine ⟨?_,?_,?_⟩
  · intro reserved named
    rw [named] at chosen
    dsimp only at chosen
    by_cases may : expired.allowed client_mac pool network reserved = true
    · rw [if_pos may] at chosen
      exact .inl ⟨allowed_iff.mp may,chosen⟩
    · rw [if_neg may] at chosen
      exact .inr ⟨fun allowed => may (allowed_iff.mpr allowed),chosen⟩
  · intro unreserved previous bound may
    rw [unreserved,bound,Option.filter_some,if_pos (allowed_iff.mpr may)] at chosen
    exact chosen
  · intro unreserved moved
    have dropped : (previous_address expired client_mac pool).filter (expired.allowed client_mac pool network) = none := by
      cases bound : previous_address expired client_mac pool with
      | none => rfl
      | some previous => rw [Option.filter_some,if_neg (fun may => moved previous bound (allowed_iff.mp may))]
    rw [unreserved,dropped] at chosen
    exact search_least chosen.symm

/-- The network 10.0.0.0/29. -/
def lan : Ipv4Network := ⟨0x0a000000,29,of_decide_eq_true rfl,rfl⟩

/-- A pool of the network, with an address reserved for a client. -/
def lan_pool (reserved_address : Option Ipv4Addr) (hardware_address : Option MacAddress) : DhcpPoolConfig :=
  ⟨3600,[],none,reserved_address,hardware_address,"lan",some lan,none⟩

def laptop : MacAddress := ⟨Vector.replicate 6 2⟩

/-- A router at 10.0.0.1 that excludes 10.0.0.2 to 10.0.0.4. -/
def lan_router (reserved_address : Option Ipv4Addr) (hardware_address : Option MacAddress) : Device :=
  { Device.new .Router ((∅ : OrderedMap InterfaceId InterfaceConfig).insert 1 ⟨some ⟨0x0a000001,29,of_decide_eq_true rfl⟩,false⟩) with
    dhcp_pools := (∅ : OrderedMap DhcpPoolId DhcpPoolConfig).insert 1 (lan_pool reserved_address hardware_address)
    dhcp_excluded := (∅ : OrderedMap Ipv4Addr Ipv4Addr).insert 0x0a000002 0x0a000004 }

/-- The first address behind the exclusions. -/
theorem lan_router_offers :
    ((lan_router none none).offer_dhcp_on_network 1 laptop 0x0a000001 0).1.map (·.address) = some 0x0a000005 ∧
      IsLeast { address | Allowed ((lan_router none none).expire_dhcp_server_state 0) laptop (lan_pool none none) lan
          address } 0x0a000005 := by
  have exact_choice := @dhcp_choice_exact (lan_router none none) laptop (lan_pool none none) lan 1 0x0a000001 0
    ⟨0x0a000001,29,of_decide_eq_true rfl⟩ 1 rfl (by decide +kernel) rfl rfl (by decide +kernel)
  have offered : ((lan_router none none).offer_dhcp_on_network 1 laptop 0x0a000001 0).1.map (·.address) =
      some 0x0a000005 := by
    decide +kernel
  exact ⟨offered,((exact_choice.2.2 rfl nofun).1 _).mp offered⟩

/-- A reserved address that is excluded is not replaced by another one. -/
theorem reserved_not_replaced : ¬ ∀ (device : Device) interface client_mac subnet now server id pool network,
    device.interface_ipv4 interface = some server →
    (device.expire_dhcp_server_state now).matching_pool client_mac subnet = some (id,pool) → pool.network = some network →
    network.prefix_len ≤ 30 →
    ((device.expire_dhcp_server_state now).dhcp_offers.get? client_mac).filter (fun offer => offer.pool = id) = none →
    (device.expire_dhcp_server_state now).dhcp_offers.size + (device.expire_dhcp_server_state now).dhcp_bindings.size <
      MAX_DHCP_BINDINGS →
    ((device.offer_dhcp_on_network interface client_mac subnet now).1 = none ↔
      ∀ address, ¬ Allowed (device.expire_dhcp_server_state now) client_mac pool network address) := by
  intro complete
  have refused : ((lan_router (some 0x0a000003) (some laptop)).offer_dhcp_on_network 1 laptop 0x0a000001 0).1 = none := by
    decide +kernel
  have free : (lan_router (some 0x0a000003) (some laptop)).allowed laptop (lan_pool (some 0x0a000003) (some laptop)) lan 0x0a000005 =
      true := by
    decide +kernel
  have never := (complete (lan_router (some 0x0a000003) (some laptop)) 1 laptop 0x0a000001 0 ⟨0x0a000001,29,of_decide_eq_true rfl⟩ 1
    (lan_pool (some 0x0a000003) (some laptop)) lan rfl (by decide +kernel) rfl (by decide) rfl (by decide +kernel)).mp refused
  exact never _ (allowed_iff.mp free)

/-! ### Exclusions over a run -/

/-- The addresses that a successful call excludes. -/
def accepted (device : Device) : Operation → Set Ipv4Addr
  | .exclude_dhcp_addresses first last =>
    { address | (device.exclude_dhcp_addresses first last).1 = .ok () ∧ first ≤ address ∧ address ≤ last }
  | _ => ∅

/-- The addresses of the ranges that the calls of a run exclude. -/
def entered (device : Device) : List Operation → Set Ipv4Addr
  | [] => ∅
  | operation :: rest => accepted device operation ∪ entered (apply device operation) rest

/-- A range that is entered again does not end earlier, unless other ranges exclude what it leaves out. -/
def Keeps (device : Device) : Operation → Prop
  | .exclude_dhcp_addresses first last => (device.exclude_dhcp_addresses first last).1 = .ok () →
    ∀ old, device.dhcp_excluded.get? first = some old → ∀ address, last < address → address ≤ old →
      ∃ other until_end, other ≠ first ∧ device.dhcp_excluded.get? other = some until_end ∧ other ≤ address ∧
        address ≤ until_end
  | _ => True

theorem update_dhcp_pool_excluded (device : Device) (id : DhcpPoolId) (pool : DhcpPoolConfig) :
    (device.update_dhcp_pool id pool).2.dhcp_excluded = device.dhcp_excluded := by
  unfold Device.update_dhcp_pool
  split
  · rfl
  · split <;> rfl

theorem offer_dhcp_on_network_excluded (device : Device) (interface : InterfaceId) (client_mac : MacAddress)
    (subnet : Ipv4Addr) (now : SimTime) :
    (device.offer_dhcp_on_network interface client_mac subnet now).2.dhcp_excluded =
        device.dhcp_excluded := by
  unfold Device.offer_dhcp_on_network
  split
  · rfl
  · dsimp only
    split
    · rfl
    · split
      · rfl
      · split
        · rfl
        · split
          · rfl
          · split <;> rfl

/-- Only one call touches the exclusions. -/
theorem apply_excluded {operation : Operation} (other : ∀ first last, operation ≠ .exclude_dhcp_addresses first last) :
    (apply device operation).dhcp_excluded = device.dhcp_excluded := by
  cases operation with
  | ensure_dhcp_pool name =>
    simp only [apply,Device.ensure_dhcp_pool]
    split
    · rfl
    · split
      · rfl
      · split
        · rfl
        · split <;> rfl
  | update_dhcp_pool id pool => exact update_dhcp_pool_excluded device id pool
  | set_dhcp_pool_network id network =>
    simp only [apply,Device.set_dhcp_pool_network]
    split
    · rfl
    · split
      · rfl
      · exact update_dhcp_pool_excluded device id _
  | set_dhcp_default_router id address =>
    simp only [apply,Device.set_dhcp_default_router]
    split
    · rfl
    · exact update_dhcp_pool_excluded device id _
  | exclude_dhcp_addresses first last => exact absurd rfl (other first last)
  | install_dhcp_lease interface lease =>
    simp only [apply,Device.install_dhcp_lease]
    split <;> rfl
  | expire_dhcp_lease interface address deadline =>
    simp only [apply,Device.expire_dhcp_lease]
    split <;> rfl
  | offer_dhcp_on_network interface client_mac subnet now =>
    exact offer_dhcp_on_network_excluded device interface client_mac subnet now
  | commit_dhcp client_mac address server_id now =>
    simp only [apply,Device.commit_dhcp]
    split
    · rfl
    · split
      · rfl
      · split <;> rfl
  | decline_dhcp mac address now =>
    simp only [apply,Device.decline_dhcp]
    split
    · split <;> rfl
    · rfl
  | expire_dhcp_server_state now => rfl

/-- Entering a range replaces the one with the same first address. -/
theorem exclude_dhcp_addresses_cases (device : Device) (first last : Ipv4Addr) :
    (device.exclude_dhcp_addresses first last).1 = .ok () ∧
        (device.exclude_dhcp_addresses first last).2.dhcp_excluded = device.dhcp_excluded.insert first last ∨
      (device.exclude_dhcp_addresses first last).1 ≠ .ok () ∧ (device.exclude_dhcp_addresses first last).2 = device := by
  unfold Device.exclude_dhcp_addresses
  split
  · exact .inr ⟨nofun,rfl⟩
  · split
    · exact .inr ⟨nofun,rfl⟩
    · exact .inl ⟨rfl,rfl⟩

/-- A call adds its addresses, and loses none, exactly when it keeps the range that it replaces. -/
theorem excluded_step (device : Device) (operation : Operation) :
    excluded_addresses (apply device operation) = excluded_addresses device ∪ accepted device operation ↔
        Keeps device operation := by
  by_cases exclusion : ∃ first last, operation = .exclude_dhcp_addresses first last
  · obtain ⟨first,last,rfl⟩ := exclusion
    rcases exclude_dhcp_addresses_cases device first last with ⟨succeeds,replaced⟩ | ⟨fails,same⟩
    · have after : ∀ address, address ∈ excluded_addresses (apply device (.exclude_dhcp_addresses first last)) ↔
          first ≤ address ∧ address ≤ last ∨ ∃ other until_end, other ≠ first ∧ device.dhcp_excluded.get? other =
            some until_end ∧
            other ≤ address ∧ address ≤ until_end := by
        intro address
        simp only [excluded_addresses,Set.mem_ofPred_eq,apply,replaced,OrderedMap.get?_insert]
        constructor
        · rintro ⟨other,until_end,found,within⟩
          by_cases here : other = first
          · rw [if_pos here] at found
            cases found
            exact .inl (here ▸ within)
          · rw [if_neg here] at found
            exact .inr ⟨other,until_end,here,found,within⟩
        · rintro (within | ⟨other,until_end,different,found,within⟩)
          · exact ⟨first,last,if_pos rfl,within⟩
          · exact ⟨other,until_end,by rw [if_neg different]; exact found,within⟩
      have asked : ∀ address, address ∈ accepted device (.exclude_dhcp_addresses first last) ↔ first ≤ address ∧
          address ≤ last :=
        fun address => and_iff_right succeeds
      rw [Set.ext_iff]
      simp only [Set.mem_union,after,asked]
      constructor
      · intro same _ old present address beyond before
        have ordered : first ≤ last := by
          by_contra reversed
          rw [Device.exclude_dhcp_addresses] at succeeds
          split at succeeds
          · cases succeeds
          · rw [if_pos (by simp [not_le.mp reversed])] at succeeds
            cases succeeds
        have around : first ≤ address := le_trans ordered (le_of_lt beyond)
        rcases (same address).mpr (.inl ⟨first,old,present,around,before⟩) with within | found
        · exact absurd within.2 (not_le.mpr beyond)
        · exact found
      · intro keeps address
        constructor
        · rintro (within | ⟨other,until_end,-,found,within⟩)
          · exact .inr within
          · exact .inl ⟨other,until_end,found,within⟩
        · rintro (⟨other,until_end,found,above,below⟩ | within)
          · by_cases here : other = first
            · subst here
              by_cases inside : address ≤ last
              · exact .inl ⟨above,inside⟩
              · exact .inr (keeps succeeds until_end found address (not_le.mp inside) below)
            · exact .inr ⟨other,until_end,here,found,above,below⟩
          · exact .inl within
    · have nothing : accepted device (.exclude_dhcp_addresses first last) = ∅ :=
        Set.eq_empty_iff_forall_notMem.mpr (fun address within => fails within.1)
      rw [nothing,Set.union_empty,apply,same]
      exact iff_of_true rfl (fun succeeds => absurd succeeds fails)
  · have other : ∀ first last, operation ≠ .exclude_dhcp_addresses first last :=
      fun first last same => exclusion ⟨first,last,same⟩
    have unchanged : excluded_addresses (apply device operation) = excluded_addresses device := by
      unfold excluded_addresses
      rw [apply_excluded other]
    have nothing : accepted device operation = ∅ := by
      cases operation with
      | exclude_dhcp_addresses first last => exact absurd rfl (other first last)
      | _ => rfl
    have keeps : Keeps device operation := by
      cases operation with
      | exclude_dhcp_addresses first last => exact absurd rfl (other first last)
      | _ => trivial
    rw [unchanged,nothing,Set.union_empty]
    exact iff_of_true rfl keeps

theorem entered_concat (device : Device) (operations : List Operation) (operation : Operation) :
    entered device (operations ++ [operation]) = entered device operations ∪ accepted (run device operations) operation := by
  induction operations generalizing device with
  | nil => simp [entered,run]
  | cons first rest ih =>
    rw [List.cons_append,entered,entered,ih,Set.union_assoc]
    rfl

theorem run_concat (device : Device) (operations : List Operation) (operation : Operation) :
    run device (operations ++ [operation]) = apply (run device operations) operation := by
  rw [run,List.foldl_append]
  rfl

/-- An offer that was not standing is of an allowed address. -/
theorem offer_new {interface : InterfaceId} {subnet : Ipv4Addr} {now : SimTime} {offer : DhcpOffer}
    (offered : (device.offer_dhcp_on_network interface client_mac subnet now).1 = some offer)
    (fresh : device.dhcp_offers.get? client_mac ≠ some offer) : offer.address ∉ excluded_addresses device := by
  have same : excluded_addresses (device.expire_dhcp_server_state now) = excluded_addresses device := rfl
  rw [← same]
  have standing : (device.expire_dhcp_server_state now).dhcp_offers.get? client_mac ≠ some offer :=
    fun kept => fresh (OrderedMap.get?_retain_eq_some.mp kept).1
  unfold Device.offer_dhcp_on_network at offered
  cases attached : device.interface_ipv4 interface with
  | none =>
    rw [attached] at offered
    cases offered
  | some server =>
    rw [attached] at offered
    dsimp only at offered
    generalize device.expire_dhcp_server_state now = expired at offered standing ⊢
    split at offered
    · cases offered
    · split at offered
      · cases offered
      · split at offered
        · rename_i kept
          cases offered
          exact absurd (Option.filter_eq_some_iff.mp kept).1 standing
        · split at offered
          · cases offered
          · split at offered
            · cases offered
            · rename_i chosen
              cases offered
              exact (allowed_iff.mp (choose_address_allowed chosen)).dynamic

/-- The exclusions of a run are those of all its ranges exactly in the runs whose calls keep the ranges that they replace;
in such a run no address of any range is newly offered. -/
theorem exclusions_accumulate (device : Device) (operations : List Operation) :
    ((∀ k, excluded_addresses (run device (operations.take k)) = excluded_addresses device ∪ entered device (operations.take k)) ↔
      ∀ k operation, operations[k]? = some operation → Keeps (run device (operations.take k)) operation) ∧
    ((∀ k operation, operations[k]? = some operation → Keeps (run device (operations.take k)) operation) →
      ∀ interface client_mac subnet now offer,
        ((run device operations).offer_dhcp_on_network interface client_mac subnet now).1 = some offer →
        (run device operations).dhcp_offers.get? client_mac ≠ some offer →
        offer.address ∉ excluded_addresses device ∪ entered device operations) := by
  have next : ∀ k operation, operations[k]? = some operation → operations.take (k + 1) = operations.take k ++ [operation] := by
    intro k operation here
    rw [List.take_add_one,here]
    rfl
  have steps : (∀ k, excluded_addresses (run device (operations.take k)) =
      excluded_addresses device ∪ entered device (operations.take k)) ↔
      ∀ k operation, operations[k]? = some operation → Keeps (run device (operations.take k)) operation := by
    constructor
    · intro accumulate k operation here
      have after := accumulate (k + 1)
      rw [next k operation here,run_concat,entered_concat,← Set.union_assoc,← accumulate k] at after
      exact (excluded_step _ _).mp after
    · intro keeps k
      induction k with
      | zero => simp [entered,run]
      | succ k ih =>
        cases here : operations[k]? with
        | none =>
          rw [List.take_add_one,here,Option.toList_none,List.append_nil]
          exact ih
        | some operation =>
          rw [next k operation here,run_concat,entered_concat,← Set.union_assoc,← ih]
          exact (excluded_step _ _).mpr (keeps k operation here)
  refine ⟨steps,?_⟩
  intro keeps interface client_mac subnet now offer offered fresh
  have whole := steps.mpr keeps operations.length
  rw [List.take_length] at whole
  rw [← whole]
  exact offer_new offered fresh

/-- All other hosts of the network are excluded, and then the first of them again. -/
def excluded_twice : List Operation := [.exclude_dhcp_addresses 0x0a000002 0x0a000006,.exclude_dhcp_addresses 0x0a000002 0x0a000002]

/-- The second range replaces the first one, and an address of the first is offered. -/
theorem excluded_address_offered : ¬ ∀ (device : Device) (operations : List Operation) interface client_mac subnet now offer,
    ((run device operations).offer_dhcp_on_network interface client_mac subnet now).1 = some offer →
    (run device operations).dhcp_offers.get? client_mac ≠ some offer →
    offer.address ∉ excluded_addresses device ∪ entered device operations := by
  intro never
  obtain ⟨offer,offered,address⟩ : ∃ offer,
      ((run { lan_router none none with dhcp_excluded := ∅ } excluded_twice).offer_dhcp_on_network 1 laptop 0x0a000001 0).1 =
        some offer ∧
        offer.address = 0x0a000003 := by
    refine Option.map_eq_some_iff.mp ?_
    decide +kernel
  refine never { lan_router none none with dhcp_excluded := ∅ } excluded_twice 1 laptop 0x0a000001 0 offer offered nofun (.inr (.inl ?_))
  rw [address]
  exact ⟨rfl,by decide,by decide⟩

end Rios.Dhcp
