import Rios.Device
import Rios.OrderedMap
import Rios.Queue

/-!
# The DHCP server of a device

Pools, exclusions and reservations on one side, offers, bindings and
quarantined addresses on the other, each a map as in the source. Whatever the
order of the calls, an address is promised to one client at a time.
-/

namespace Rios.Dhcp
open Rios.Machine Rios.Device
open Rios.Queue (SimTime)

def MAX_DHCP_BINDINGS : Nat := 8192
def DHCP_OFFER_MS : UInt64 := 60000

/-- `DhcpPoolId(u16)`. -/
abbrev DhcpPoolId := UInt16

/-- One server pool. -/
structure DhcpPoolConfig where
  lease_seconds : UInt32
  dns_servers : List Ipv4Addr
  domain_name : Option String
  reserved_address : Option Ipv4Addr
  hardware_address : Option MacAddress
  name : String
  network : Option Ipv4Network
  default_router : Option Ipv4Addr
deriving DecidableEq

/-- What a lease contributes to the address of a client interface. -/
structure DhcpLease where
  address : Ipv4Addr
  prefix_len : UInt8
  expires_at : SimTime
deriving DecidableEq

/-- Binding committed to a client. -/
structure DhcpBinding where
  address : Ipv4Addr
  client_mac : MacAddress
  pool_name : String
  expires_at : SimTime
deriving DecidableEq

/-- Address and options reserved by an offer. -/
structure DhcpOffer where
  address : Ipv4Addr
  prefix_len : UInt8
  default_router : Option Ipv4Addr
  server_id : Ipv4Addr
  lease_time_seconds : UInt32
  pool : DhcpPoolId
  expires_at : SimTime
deriving DecidableEq

/-- The part of an interface's configuration that the server reads. -/
structure InterfaceConfig where
  ipv4 : Option Ipv4InterfaceConfig
  dhcp_client : Bool
deriving DecidableEq

/-- The part of a device that serves DHCP. -/
structure Device where
  device_type : DeviceType
  interfaces : OrderedMap InterfaceId InterfaceConfig
  dhcp_pools : OrderedMap DhcpPoolId DhcpPoolConfig
  dhcp_excluded : OrderedMap Ipv4Addr Ipv4Addr
  dhcp_leases : OrderedMap InterfaceId DhcpLease
  dhcp_bindings : OrderedMap MacAddress DhcpBinding
  dhcp_offers : OrderedMap MacAddress DhcpOffer
  dhcp_conflicts : OrderedMap Ipv4Addr SimTime

/-- The bytes of a string. -/
def bytes (text : String) : List UInt8 := text.toUTF8.data.toList

/-- `u8::is_ascii_graphic`. -/
def is_ascii_graphic (byte : UInt8) : Bool := 33 ≤ byte && byte ≤ 126
/-- `u8::is_ascii_alphanumeric`. -/
def is_ascii_alphanumeric (byte : UInt8) : Bool :=
  (48 ≤ byte && byte ≤ 57) || (65 ≤ byte && byte ≤ 90) || (97 ≤ byte && byte ≤ 122)
/-- `u8::to_ascii_lowercase`. -/
def to_ascii_lowercase (byte : UInt8) : UInt8 := if 65 ≤ byte && byte ≤ 90 then byte + 32 else byte
/-- `str::eq_ignore_ascii_case`. -/
def eq_ignore_ascii_case (first second : String) : Bool :=
  (bytes first).map to_ascii_lowercase = (bytes second).map to_ascii_lowercase

/-- An address that can be a host's: not in 0/8 or 127/8, nor multicast or above. -/
def valid_address (address : Ipv4Addr) : Bool :=
  first_octet address ≠ 0 && first_octet address < 224 && first_octet address ≠ 127

/-! ### Configuration -/

namespace Device

/-- A device without server state. -/
def new (device_type : DeviceType) (interfaces : OrderedMap InterfaceId InterfaceConfig) : Device :=
  ⟨device_type,interfaces,∅,∅,∅,∅,∅,∅⟩

/-- The checks of `update_dhcp_pool`. -/
def valid_pool (old pool : DhcpPoolConfig) : Bool :=
  pool.name = old.name && 60 ≤ pool.lease_seconds && pool.lease_seconds ≤ 365 * 86400 &&
    pool.lease_seconds % 60 = 0 && pool.dns_servers.length ≤ 8 && pool.dns_servers.all valid_address &&
    pool.default_router.all valid_address &&
    pool.domain_name.all (fun name => !(bytes name).isEmpty && (bytes name).length ≤ 253 &&
      (bytes name).all (fun byte => is_ascii_alphanumeric byte || byte = 46 || byte = 45)) &&
    pool.network.all (fun network => network.prefix_len ≤ 30) &&
    pool.reserved_address.all (fun address => pool.network.any (fun network =>
      network.contains address && address ≠ network.address && address ≠ network.broadcast)) &&
    pool.hardware_address.all (fun mac => mac.octets[0] &&& 1 = 0 && mac.octets ≠ Vector.replicate 6 0)

/-- Replace pool options after validating allocation and wire constraints. -/
def update_dhcp_pool (self : Device) (id : DhcpPoolId) (pool : DhcpPoolConfig) : Except DeviceError Unit × Device :=
  match self.dhcp_pools.get? id with
  | none => (.error .MissingDhcpPool,self)
  | some old =>
    if valid_pool old pool then
      (.ok (),{ self with
        dhcp_pools := self.dhcp_pools.insert id pool
        dhcp_offers := self.dhcp_offers.retain (fun _ offer => offer.pool ≠ id) })
    else (.error .InvalidDhcpNetwork,self)

/-- Exclude an inclusive address range from dynamic allocation. -/
def exclude_dhcp_addresses (self : Device) (first last : Ipv4Addr) : Except DeviceError Unit × Device :=
  if !self.device_type.supports_routing && self.device_type ≠ .Host then (.error .DhcpUnsupported,self)
  else if last < first || !valid_address first || !valid_address last ||
      (4096 ≤ self.dhcp_excluded.size && !self.dhcp_excluded.contains first) then
    (.error .InvalidDhcpNetwork,self)
  else
    (.ok (),{ self with
      dhcp_excluded := self.dhcp_excluded.insert first last
      dhcp_offers := self.dhcp_offers.retain (fun _ offer => offer.address < first || last < offer.address) })

/-- Create or select a server pool. -/
def ensure_dhcp_pool (self : Device) (name : String) : Except DeviceError DhcpPoolId × Device :=
  if !self.device_type.supports_routing && self.device_type ≠ .Host then (.error .DhcpUnsupported,self)
  else if (bytes name).isEmpty || 32 < (bytes name).length || !(bytes name).all is_ascii_graphic then
    (.error .InvalidDhcpPoolName,self)
  else
    match self.dhcp_pools.entries.find? (fun entry => eq_ignore_ascii_case entry.2.name name) with
    | some (id,_) => (.ok id,self)
    | none =>
      if 1024 ≤ self.dhcp_pools.size then (.error .InvalidDhcpNetwork,self)
      else
        let id := (self.dhcp_pools.entries.getLast?).elim 1 (fun entry => satAdd16 entry.1 1)
        (.ok id,{ self with dhcp_pools := self.dhcp_pools.insert id ⟨3600,[],none,none,none,name,none,none⟩ })

/-- Set the allocatable network of a pool. -/
def set_dhcp_pool_network (self : Device) (id : DhcpPoolId) (network : Ipv4Network) : Except DeviceError Unit × Device :=
  if 30 < network.prefix_len then (.error .InvalidDhcpNetwork,self)
  else
    match self.dhcp_pools.get? id with
    | none => (.error .MissingDhcpPool,self)
    | some pool => self.update_dhcp_pool id { pool with network := some network }

/-- Set the default-router option of a pool. -/
def set_dhcp_default_router (self : Device) (id : DhcpPoolId) (address : Ipv4Addr) : Except DeviceError Unit × Device :=
  match self.dhcp_pools.get? id with
  | none => (.error .MissingDhcpPool,self)
  | some pool => self.update_dhcp_pool id { pool with default_router := some address }

/-! ### Leases of the device's own client interfaces -/

/-- Effective static or leased interface address. -/
def interface_ipv4 (self : Device) (interface : InterfaceId) : Option Ipv4InterfaceConfig :=
  (self.interfaces.get? interface).bind (fun config =>
    config.ipv4.or ((self.dhcp_leases.get? interface).bind (fun lease =>
      (Ipv4InterfaceConfig.new lease.address lease.prefix_len).toOption)))

/-- Install an acknowledged lease on a configured client interface. -/
def install_dhcp_lease (self : Device) (interface : InterfaceId) (lease : DhcpLease) : Except DeviceError Unit × Device :=
  if (self.interfaces.get? interface).any (·.dhcp_client) then
    (.ok (),{ self with dhcp_leases := self.dhcp_leases.insert interface lease })
  else (.error .DhcpUnsupported,self)

/-- Expire one matching client lease and report whether it was removed. -/
def expire_dhcp_lease (self : Device) (interface : InterfaceId) (address : Ipv4Addr) (deadline : SimTime) :
    Bool × Device :=
  if (self.dhcp_leases.get? interface).any (fun lease => lease.address = address && lease.expires_at ≤ deadline) then
    (true,{ self with dhcp_leases := self.dhcp_leases.erase interface })
  else (false,self)

/-! ### Offers and bindings -/

def expire_dhcp_server_state (self : Device) (now : SimTime) : Device :=
  { self with
    dhcp_conflicts := self.dhcp_conflicts.retain (fun _ deadline => now < deadline)
    dhcp_offers := self.dhcp_offers.retain (fun _ offer => now < offer.expires_at)
    dhcp_bindings := self.dhcp_bindings.retain (fun _ binding => now < binding.expires_at) }

/-- The pool that serves a client on a subnet: reservations before the others, then the smallest id. -/
def matching_pool (self : Device) (client_mac : MacAddress) (subnet : Ipv4Addr) : Option (DhcpPoolId × DhcpPoolConfig) :=
  (self.dhcp_pools.entries.filter (fun entry =>
    entry.2.network.any (·.contains subnet) &&
      (entry.2.hardware_address.isNone || entry.2.hardware_address = some client_mac) &&
      (entry.2.reserved_address.isNone || entry.2.hardware_address = some client_mac))).argmin
    (fun entry => toLex (entry.2.reserved_address.isNone,entry.1))

/-- Addresses that a client must not be offered. -/
def used (self : Device) (client_mac : MacAddress) : List Ipv4Addr :=
  ((self.dhcp_bindings.entries.filter (fun entry => entry.1 ≠ client_mac)).map (·.2.address)) ++
    ((self.dhcp_offers.entries.filter (fun entry => entry.1 ≠ client_mac)).map (·.2.address)) ++
    (self.interfaces.keys.filterMap (fun id => (self.interface_ipv4 id).map (·.address))) ++
    ((self.dhcp_pools.values.filter (fun pool => pool.hardware_address ≠ some client_mac)).filterMap (·.reserved_address)) ++
    self.dhcp_conflicts.keys

/-- An address of the network that the client may be offered. -/
def allowed (self : Device) (client_mac : MacAddress) (pool : DhcpPoolConfig) (network : Ipv4Network) (address : Ipv4Addr) :
    Bool :=
  network.contains address && address ≠ network.address && address ≠ network.broadcast &&
    !(self.used client_mac).contains address && pool.default_router ≠ some address &&
    !self.dhcp_excluded.entries.any (fun range => range.1 ≤ address && address ≤ range.2)

/-- The end of the exclusions around an address. -/
def excluded_until (self : Device) (address : Ipv4Addr) : Option Ipv4Addr :=
  ((self.dhcp_excluded.entries.filter (fun range => range.1 ≤ address && address ≤ range.2)).map (·.2)).max?

theorem excluded_until_ge {self : Device} {address last : Ipv4Addr} (excluded : self.excluded_until address = some last) :
    address ≤ last := by
  have member := List.max?_mem excluded
  obtain ⟨range,inRange,rfl⟩ := List.mem_map.mp member
  have within := (List.mem_filter.mp inRange).2
  simp only [Bool.and_eq_true,decide_eq_true_eq] at within
  exact within.2

set_option linter.unusedVariables false in
/-- The search loop for the first address from `candidate` to `last`. -/
def search (self : Device) (permitted : Ipv4Addr → Bool) (last candidate : UInt32) : Option Ipv4Addr :=
  if last < candidate then none
  else
    match skip : self.excluded_until candidate with
    | some range_end =>
      match next : checkedAdd32 range_end 1 with
      | none => none
      | some candidate => self.search permitted last candidate
    | none =>
      if permitted candidate then some candidate
      else
        match next : checkedAdd32 candidate 1 with
        | none => none
        | some candidate => self.search permitted last candidate
termination_by 2 ^ 32 - candidate.toNat
decreasing_by
  · have ahead := UInt32.le_iff_toNat_le.mp (excluded_until_ge skip)
    have sum : _ = _ + 1 := checkedAdd32_eq_some next
    have := candidate.toNat_lt
    omega
  · have sum : _ = _ + 1 := checkedAdd32_eq_some next
    have := candidate.toNat_lt
    omega

/-- The address that an offer reserves. -/
def choose_address (self : Device) (client_mac : MacAddress) (pool : DhcpPoolConfig) (network : Ipv4Network)
    (previous : Option Ipv4Addr) : Option Ipv4Addr :=
  let permitted := self.allowed client_mac pool network
  match pool.reserved_address with
  | some address => if permitted address then some address else none
  | none =>
    match previous.filter permitted with
    | some address => some address
    | none => self.search permitted (satSub32 network.broadcast 1) (satAdd32 network.address 1)

/-- Select a pool by relay address (or the directly attached subnet) and reserve an address of it. -/
def offer_dhcp_on_network (self : Device) (interface : InterfaceId) (client_mac : MacAddress) (subnet : Ipv4Addr)
    (now : SimTime) : Option DhcpOffer × Device :=
  match self.interface_ipv4 interface with
  | none => (none,self)
  | some server =>
    let self := self.expire_dhcp_server_state now
    match self.matching_pool client_mac subnet with
    | none => (none,self)
    | some (pool_id,pool) =>
      match pool.network with
      | none => (none,self)
      | some network =>
        match (self.dhcp_offers.get? client_mac).filter (fun offer => offer.pool = pool_id) with
        | some offer => (some offer,self)
        | none =>
          let previous := ((self.dhcp_bindings.get? client_mac).filter (fun binding =>
            binding.pool_name = pool.name)).map (·.address)
          if MAX_DHCP_BINDINGS ≤ self.dhcp_offers.size + self.dhcp_bindings.size && previous.isNone then (none,self)
          else
            match self.choose_address client_mac pool network previous with
            | none => (none,self)
            | some address =>
              let offer : DhcpOffer := ⟨address,network.prefix_len,pool.default_router,server.address,
                pool.lease_seconds,pool_id,satAdd64 now (DHCP_OFFER_MS * 1000)⟩
              (some offer,{ self with dhcp_offers := self.dhcp_offers.insert client_mac offer })

/-- Reserve an address for a directly attached client. -/
def offer_dhcp (self : Device) (interface : InterfaceId) (client_mac : MacAddress) (now : SimTime) :
    Option DhcpOffer × Device :=
  match self.interface_ipv4 interface with
  | none => (none,self)
  | some config => self.offer_dhcp_on_network interface client_mac config.address now

/-- Commit a previously offered address. -/
def commit_dhcp (self : Device) (client_mac : MacAddress) (address server_id : Ipv4Addr) (now : SimTime) :
    Option DhcpOffer × Device :=
  let self := self.expire_dhcp_server_state now
  match self.dhcp_offers.get? client_mac with
  | none => (none,self)
  | some offer =>
    if offer.address ≠ address || offer.server_id ≠ server_id then (none,self)
    else
      let self := { self with dhcp_offers := self.dhcp_offers.erase client_mac }
      let offer := { offer with expires_at := satAdd64 now (offer.lease_time_seconds.toUInt64 * 1000000) }
      match self.dhcp_pools.get? offer.pool with
      | none => (none,self)
      | some pool =>
        (some offer,{ self with
          dhcp_bindings := self.dhcp_bindings.insert client_mac ⟨address,client_mac,pool.name,offer.expires_at⟩ })

/-- Quarantine a declined address for ten simulated minutes. -/
def decline_dhcp (self : Device) (mac : MacAddress) (address : Ipv4Addr) (now : SimTime) : Device :=
  if (self.dhcp_bindings.get? mac).any (·.address = address) || (self.dhcp_offers.get? mac).any (·.address = address) then
    let self := { self with dhcp_bindings := self.dhcp_bindings.erase mac, dhcp_offers := self.dhcp_offers.erase mac }
    if self.dhcp_conflicts.size < MAX_DHCP_BINDINGS then
      { self with dhcp_conflicts := self.dhcp_conflicts.insert address (satAdd64 now 600000000) }
    else self
  else self

end Device

/-! ### Promised addresses -/

/-- One call on the server. -/
inductive Operation where
  | ensure_dhcp_pool (name : String)
  | update_dhcp_pool (id : DhcpPoolId) (pool : DhcpPoolConfig)
  | set_dhcp_pool_network (id : DhcpPoolId) (network : Ipv4Network)
  | set_dhcp_default_router (id : DhcpPoolId) (address : Ipv4Addr)
  | exclude_dhcp_addresses (first last : Ipv4Addr)
  | install_dhcp_lease (interface : InterfaceId) (lease : DhcpLease)
  | expire_dhcp_lease (interface : InterfaceId) (address : Ipv4Addr) (deadline : SimTime)
  | offer_dhcp_on_network (interface : InterfaceId) (client_mac : MacAddress) (subnet : Ipv4Addr) (now : SimTime)
  | commit_dhcp (client_mac : MacAddress) (address server_id : Ipv4Addr) (now : SimTime)
  | decline_dhcp (mac : MacAddress) (address : Ipv4Addr) (now : SimTime)
  | expire_dhcp_server_state (now : SimTime)

/-- The device after one call. -/
def apply (device : Device) : Operation → Device
  | .ensure_dhcp_pool name => (device.ensure_dhcp_pool name).2
  | .update_dhcp_pool id pool => (device.update_dhcp_pool id pool).2
  | .set_dhcp_pool_network id network => (device.set_dhcp_pool_network id network).2
  | .set_dhcp_default_router id address => (device.set_dhcp_default_router id address).2
  | .exclude_dhcp_addresses first last => (device.exclude_dhcp_addresses first last).2
  | .install_dhcp_lease interface lease => (device.install_dhcp_lease interface lease).2
  | .expire_dhcp_lease interface address deadline => (device.expire_dhcp_lease interface address deadline).2
  | .offer_dhcp_on_network interface client_mac subnet now =>
    (device.offer_dhcp_on_network interface client_mac subnet now).2
  | .commit_dhcp client_mac address server_id now => (device.commit_dhcp client_mac address server_id now).2
  | .decline_dhcp mac address now => device.decline_dhcp mac address now
  | .expire_dhcp_server_state now => device.expire_dhcp_server_state now

/-- The device after a run of calls. -/
def run (device : Device) (operations : List Operation) : Device := operations.foldl apply device

variable {device after : Device} {mac other : MacAddress} {address : Ipv4Addr}

/-- A client has a binding or an offer of an address, expired or not. -/
def Promised (device : Device) (mac : MacAddress) (address : Ipv4Addr) : Prop :=
  (∃ binding, device.dhcp_bindings.get? mac = some binding ∧ binding.address = address) ∨
    ∃ offer, device.dhcp_offers.get? mac = some offer ∧ offer.address = address

/-- No address is promised to two clients. -/
def Exclusive (device : Device) : Prop :=
  ∀ mac other address, Promised device mac address → Promised device other address → mac = other

/-- The unexpired addresses held under a client's address. -/
def held (device : Device) (now : SimTime) (mac : MacAddress) : Set Ipv4Addr :=
  { address | (∃ binding, device.dhcp_bindings.get? mac = some binding ∧ now < binding.expires_at ∧
      binding.address = address) ∨
    ∃ offer, device.dhcp_offers.get? mac = some offer ∧ now < offer.expires_at ∧ offer.address = address }

/-- Nothing is promised that was not promised before. -/
def Shrinks (device after : Device) : Prop := ∀ mac address, Promised after mac address → Promised device mac address

theorem Shrinks.refl (device : Device) : Shrinks device device := fun _ _ promised => promised

theorem Shrinks.trans {first second third : Device} (before : Shrinks first second) (later : Shrinks second third) :
    Shrinks first third := fun mac address promised => before mac address (later mac address promised)

theorem Exclusive.shrink (exclusive : Exclusive device) (shrinks : Shrinks device after) : Exclusive after :=
  fun mac other address promised again => exclusive mac other address (shrinks _ _ promised) (shrinks _ _ again)

/-- Dropping bindings and offers only shrinks. -/
theorem shrinks_of_sub (bindings : ∀ mac binding, after.dhcp_bindings.get? mac = some binding →
      device.dhcp_bindings.get? mac = some binding)
    (offers : ∀ mac offer, after.dhcp_offers.get? mac = some offer → device.dhcp_offers.get? mac = some offer) :
    Shrinks device after := by
  rintro mac address (⟨binding,found,same⟩ | ⟨offer,found,same⟩)
  · exact .inl ⟨binding,bindings mac binding found,same⟩
  · exact .inr ⟨offer,offers mac offer found,same⟩

theorem update_dhcp_pool_shrinks (device : Device) (id : DhcpPoolId) (pool : DhcpPoolConfig) :
    Shrinks device (device.update_dhcp_pool id pool).2 := by
  unfold Device.update_dhcp_pool
  split
  · exact .refl device
  · split_ifs
    · exact shrinks_of_sub (fun _ _ found => found) (fun _ _ found => (OrderedMap.get?_retain_eq_some.mp found).1)
    · exact .refl device

theorem expire_dhcp_server_state_shrinks (device : Device) (now : SimTime) :
    Shrinks device (device.expire_dhcp_server_state now) :=
  shrinks_of_sub (fun _ _ found => (OrderedMap.get?_retain_eq_some.mp found).1)
    (fun _ _ found => (OrderedMap.get?_retain_eq_some.mp found).1)

theorem decline_dhcp_shrinks (device : Device) (mac : MacAddress) (address : Ipv4Addr) (now : SimTime) :
    Shrinks device (device.decline_dhcp mac address now) := by
  unfold Device.decline_dhcp
  simp only
  split
  · split <;> exact shrinks_of_sub (fun _ _ found => OrderedMap.get?_erase_some found)
      (fun _ _ found => OrderedMap.get?_erase_some found)
  · exact .refl device

/-- Committing turns an offer into a binding of the same address. -/
theorem commit_dhcp_shrinks (device : Device) (client_mac : MacAddress) (address server_id : Ipv4Addr) (now : SimTime) :
    Shrinks device (device.commit_dhcp client_mac address server_id now).2 := by
  have expired := expire_dhcp_server_state_shrinks device now
  unfold Device.commit_dhcp
  generalize device.expire_dhcp_server_state now = later at expired ⊢
  refine expired.trans ?_
  cases offered : later.dhcp_offers.get? client_mac with
  | none => simpa [offered] using Shrinks.refl later
  | some offer =>
    simp only [offered]
    split_ifs with mismatch
    · exact .refl later
    · have same : offer.address = address := by
        simp only [Bool.or_eq_true,decide_eq_true_eq,not_or,not_not] at mismatch
        exact mismatch.1
      split
      · exact shrinks_of_sub (fun _ _ found => found) (fun _ _ found => OrderedMap.get?_erase_some found)
      · rintro mac held (⟨binding,found,isHeld⟩ | ⟨other,found,isHeld⟩)
        · rw [OrderedMap.get?_insert] at found
          split_ifs at found with here
          · cases found
            exact .inr ⟨offer,here ▸ offered,same.trans isHeld⟩
          · exact .inl ⟨binding,found,isHeld⟩
        · exact .inr ⟨other,OrderedMap.get?_erase_some found,isHeld⟩

/-- A permitted address is promised to no other client. -/
theorem allowed_free {pool : DhcpPoolConfig} {network : Ipv4Network}
    (permitted : device.allowed mac pool network address = true) (promised : Promised device other address) :
    other = mac := by
  by_contra different
  unfold Device.allowed at permitted
  simp only [Bool.and_eq_true,Bool.not_eq_true',List.contains_eq_mem,decide_eq_false_iff_not] at permitted
  refine permitted.1.1.2 ?_
  unfold Device.used
  simp only [List.mem_append]
  rcases promised with ⟨binding,found,same⟩ | ⟨offer,found,same⟩
  · refine .inl (.inl (.inl (.inl ?_)))
    exact List.mem_map.mpr ⟨(other,binding),List.mem_filter.mpr ⟨(OrderedMap.get?_eq_some _ _ _).mp found,by simpa using different⟩,same⟩
  · refine .inl (.inl (.inl (.inr ?_)))
    exact List.mem_map.mpr ⟨(other,offer),List.mem_filter.mpr ⟨(OrderedMap.get?_eq_some _ _ _).mp found,by simpa using different⟩,same⟩

/-- The search returns a permitted address. -/
theorem search_permitted {permitted : Ipv4Addr → Bool} {last candidate found : UInt32}
    (result : device.search permitted last candidate = some found) : permitted found = true := by
  fun_induction Device.search device permitted last candidate <;> simp_all

theorem choose_address_allowed {pool : DhcpPoolConfig} {network : Ipv4Network} {previous : Option Ipv4Addr}
    (chosen : device.choose_address mac pool network previous = some address) :
    device.allowed mac pool network address = true := by
  unfold Device.choose_address at chosen
  simp only at chosen
  split at chosen
  · split_ifs at chosen with permitted
    cases chosen
    exact permitted
  · split at chosen
    · rename_i kept
      cases chosen
      exact (Option.filter_eq_some_iff.mp kept).2
    · exact search_permitted chosen

/-- What an offer changes: nothing but expiry, or one reserved address that the client may have. -/
theorem offer_dhcp_on_network_cases (device : Device) (interface : InterfaceId) (client_mac : MacAddress)
    (subnet : Ipv4Addr) (now : SimTime) :
    let result := device.offer_dhcp_on_network interface client_mac subnet now
    let expired := device.expire_dhcp_server_state now
    Shrinks device result.2 ∨ ∃ pool network offer,
      expired.allowed client_mac pool network offer.address = true ∧
      result = (some offer,{ expired with dhcp_offers := expired.dhcp_offers.insert client_mac offer }) := by
  intro result expired
  have shrinks : Shrinks device expired := expire_dhcp_server_state_shrinks device now
  have unfolded : result = device.offer_dhcp_on_network interface client_mac subnet now := rfl
  unfold Device.offer_dhcp_on_network at unfolded
  cases server : device.interface_ipv4 interface with
  | none =>
    rw [server] at unfolded
    exact .inl (unfolded ▸ .refl device)
  | some config =>
    rw [server] at unfolded
    simp only [show device.expire_dhcp_server_state now = expired from rfl] at unfolded
    split at unfolded
    · exact .inl (unfolded ▸ shrinks)
    · split at unfolded
      · exact .inl (unfolded ▸ shrinks)
      · split at unfolded
        · exact .inl (unfolded ▸ shrinks)
        · split_ifs at unfolded
          · exact .inl (unfolded ▸ shrinks)
          · split at unfolded
            · exact .inl (unfolded ▸ shrinks)
            · rename_i chosen
              exact .inr ⟨_,_,_,choose_address_allowed chosen,unfolded⟩

/-- Reserving an address that no other client has keeps the promises exclusive. -/
theorem Exclusive.reserve (exclusive : Exclusive device) {offer : DhcpOffer}
    (free : ∀ rival, Promised device rival offer.address → rival = mac) :
    Exclusive { device with dhcp_offers := device.dhcp_offers.insert mac offer } := by
  have grows : ∀ {client held}, Promised { device with dhcp_offers := device.dhcp_offers.insert mac offer } client held →
      Promised device client held ∨ (client = mac ∧ held = offer.address) := by
    rintro client held (⟨binding,found,same⟩ | ⟨other,found,same⟩)
    · exact .inl (.inl ⟨binding,found,same⟩)
    · rw [OrderedMap.get?_insert] at found
      split_ifs at found with here
      · cases found
        exact .inr ⟨here,same.symm⟩
      · exact .inl (.inr ⟨other,found,same⟩)
  intro client rival held first second
  rcases grows first with old | ⟨rfl,rfl⟩ <;> rcases grows second with older | ⟨rfl,same⟩
  · exact exclusive client rival held old older
  · subst same
    exact free client old
  · exact (free rival older).symm
  · rfl

/-- No call gives an address to a second client. -/
theorem apply_exclusive (exclusive : Exclusive device) (operation : Operation) : Exclusive (apply device operation) := by
  cases operation with
  | ensure_dhcp_pool name =>
    refine exclusive.shrink ?_
    simp only [apply,Device.ensure_dhcp_pool]
    -- the bindings and offers are the old ones in every branch
    split
    · exact .refl device
    · split
      · exact .refl device
      · split
        · exact .refl device
        · split <;> exact .refl device
  | update_dhcp_pool id pool => exact exclusive.shrink (update_dhcp_pool_shrinks device id pool)
  | set_dhcp_pool_network id network =>
    refine exclusive.shrink ?_
    simp only [apply,Device.set_dhcp_pool_network]
    split_ifs
    · exact .refl device
    · split
      · exact .refl device
      · exact update_dhcp_pool_shrinks device id _
  | set_dhcp_default_router id address =>
    refine exclusive.shrink ?_
    simp only [apply,Device.set_dhcp_default_router]
    split
    · exact .refl device
    · exact update_dhcp_pool_shrinks device id _
  | exclude_dhcp_addresses first last =>
    refine exclusive.shrink ?_
    simp only [apply,Device.exclude_dhcp_addresses]
    split_ifs
    · exact .refl device
    · exact .refl device
    · exact shrinks_of_sub (fun _ _ found => found) (fun _ _ found => (OrderedMap.get?_retain_eq_some.mp found).1)
  | install_dhcp_lease interface lease =>
    refine exclusive.shrink ?_
    simp only [apply,Device.install_dhcp_lease]
    split_ifs <;> exact .refl device
  | expire_dhcp_lease interface address deadline =>
    refine exclusive.shrink ?_
    simp only [apply,Device.expire_dhcp_lease]
    split_ifs <;> exact .refl device
  | offer_dhcp_on_network interface client_mac subnet now =>
    rcases offer_dhcp_on_network_cases device interface client_mac subnet now with shrinks | ⟨pool,network,offer,free,result⟩
    · exact exclusive.shrink shrinks
    · rw [apply,result]
      have expired := exclusive.shrink (expire_dhcp_server_state_shrinks device now)
      exact expired.reserve fun rival promised => allowed_free free promised
  | commit_dhcp client_mac address server_id now =>
    exact exclusive.shrink (commit_dhcp_shrinks device client_mac address server_id now)
  | decline_dhcp mac address now => exact exclusive.shrink (decline_dhcp_shrinks device mac address now)
  | expire_dhcp_server_state now => exact exclusive.shrink (expire_dhcp_server_state_shrinks device now)

theorem run_exclusive (exclusive : Exclusive device) (operations : List Operation) : Exclusive (run device operations) := by
  induction operations generalizing device with
  | nil => exact exclusive
  | cons operation rest ih => exact ih (apply_exclusive exclusive operation)

theorem new_exclusive (device_type : DeviceType) (interfaces : OrderedMap InterfaceId InterfaceConfig) :
    Exclusive (Device.new device_type interfaces) := by
  rintro mac other address (⟨binding,found,_⟩ | ⟨offer,found,_⟩) <;> cases found

/-- Whatever the order of the calls and their times, the unexpired bindings and
    offers of different clients never share an address. -/
theorem dhcp_addresses_exclusive (device_type : DeviceType) (interfaces : OrderedMap InterfaceId InterfaceConfig)
    (operations : List Operation) (now : SimTime) :
    Pairwise (fun mac other => Disjoint (held (run (Device.new device_type interfaces) operations) now mac)
      (held (run (Device.new device_type interfaces) operations) now other)) := by
  have exclusive := run_exclusive (new_exclusive device_type interfaces) operations
  generalize run (Device.new device_type interfaces) operations = device at exclusive ⊢
  have promised : ∀ {mac address}, address ∈ held device now mac → Promised device mac address := by
    rintro mac address (⟨binding,found,-,same⟩ | ⟨offer,found,-,same⟩)
    · exact .inl ⟨binding,found,same⟩
    · exact .inr ⟨offer,found,same⟩
  intro mac other different
  rw [Set.disjoint_left]
  intro address first second
  exact different (exclusive mac other address (promised first) (promised second))

end Rios.Dhcp
