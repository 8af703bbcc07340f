import Rios.Ipv6Addresses

/-!
# The two-hour rule

An advertisement may take a valid lifetime down to two hours and no further, even
with several options for one prefix, and an address is never preferred for longer
than it is valid. A missing deadline, infinity, is the largest time.
-/

namespace Rios.Ipv6Addresses
open Rios.Machine Rios.Device Rios.Ipv6
open Rios.Queue (SimTime)

/-! ### Deadlines -/

/-- A deadline, with infinity as the largest time. -/
def last (limit : Option SimTime) : SimTime := limit.getD 0xffffffffffffffff

/-- The microseconds up to a deadline. -/
def left (now : SimTime) (limit : Option SimTime) : Nat := (last limit).toNat - now.toNat

theorem after_toNat (now : SimTime) (seconds : UInt32) :
    (after now seconds).toNat = min (now.toNat + seconds.toNat * 1000000) (2 ^ 64 - 1) := by
  have small := seconds.toNat_lt
  rw [after,satAdd64_toNat,UInt64.toNat_mul,UInt32.toNat_toUInt64]
  show min (now.toNat + seconds.toNat * 1000000 % 2 ^ 64) _ = _
  rw [Nat.mod_eq_of_lt (by omega)]

theorem last_toNat_none : (last none).toNat = 2 ^ 64 - 1 := rfl
theorem last_toNat_some (limit : SimTime) : (last (some limit)).toNat = limit.toNat := rfl

theorem le_last_none (now : SimTime) : now ≤ last none := by
  have small := now.toNat_lt
  rw [UInt64.le_iff_toNat_le,last_toNat_none]
  omega

theorem last_lifetime (now : SimTime) (seconds : UInt32) :
    (last (lifetime now seconds)).toNat =
      if seconds.toNat = 2 ^ 32 - 1 then 2 ^ 64 - 1 else min (now.toNat + seconds.toNat * 1000000) (2 ^ 64 - 1) := by
  have infinite : seconds = 0xffffffff ↔ seconds.toNat = 2 ^ 32 - 1 := UInt32.toNat_inj.symm
  rw [lifetime]
  by_cases finite : seconds = 0xffffffff
  · rw [if_neg (not_not.mpr finite),if_pos (infinite.mp finite),last_toNat_none]
  · rw [if_pos finite,if_neg (finite ∘ infinite.mpr),last_toNat_some,after_toNat]

/-- Longer lifetimes end later. -/
theorem last_lifetime_mono (now : SimTime) {short long : UInt32} (shorter : short ≤ long) :
    last (lifetime now short) ≤ last (lifetime now long) := by
  rw [UInt32.le_iff_toNat_le] at shorter
  have small := long.toNat_lt
  rw [UInt64.le_iff_toNat_le,last_lifetime,last_lifetime]
  split <;> split <;> omega

/-- A lifetime ends no earlier than now. -/
theorem le_last_lifetime (now : SimTime) (seconds : UInt32) : now ≤ last (lifetime now seconds) := by
  have small := now.toNat_lt
  rw [UInt64.le_iff_toNat_le,last_lifetime]
  split <;> omega

/-! ### One address -/

/-- The two lifetimes of an address in their order. -/
def Lasting (entry : Ipv6AddressEntry) :
    Prop := entry.origin = .Slaac → last entry.preferred_until ≤ last entry.valid_until

/-- An advertised address is not expired. -/
def Alive (now : SimTime) (entry : Ipv6AddressEntry) : Prop := entry.origin = .Slaac → now ≤ last entry.valid_until

/-- What an advertisement leaves of an address. -/
structure Granted (now : SimTime) (old new : Ipv6AddressEntry) : Prop where
  origin : new.origin = old.origin
  fixed : old.origin ≠ .Slaac → new = old
  time : min (left now old.valid_until) 7200000000 ≤ left now new.valid_until

theorem Granted.refl (now : SimTime) (entry : Ipv6AddressEntry) :
    Granted now entry entry := ⟨rfl,fun _ => rfl,min_le_left _ _⟩

theorem Granted.trans {now : SimTime} {first second third : Ipv6AddressEntry} (one : Granted now first second)
    (two : Granted now second third) : Granted now first third where
  origin := two.origin.trans one.origin
  fixed := fun manual => (two.fixed (one.origin ▸ manual)).trans (one.fixed manual)
  time := (le_min one.time (min_le_right _ _)).trans two.time

variable {entry : Ipv6AddressEntry} {info : PrefixInformation} {now : SimTime}

/-- The seconds that remain are those up to the deadline, rounded down. -/
theorem remaining_toNat (entry : Ipv6AddressEntry) (now : SimTime) :
    (entry.remaining now).toNat = if entry.valid_until = none then 2 ^ 64 - 1 else left now entry.valid_until / 1000000 := by
  rw [Ipv6AddressEntry.remaining]
  cases limit : entry.valid_until with
  | none => rfl
  | some limit =>
    rw [Option.elim_some,UInt64.toNat_div,satSub64_toNat]
    rfl

/-- The deadline after an option, by its three rules. -/
theorem refresh_valid (entry : Ipv6AddressEntry) (info : PrefixInformation) (now : SimTime) :
    (last (entry.refresh info now).valid_until).toNat =
      if 7200 < info.valid_lifetime.toNat ∨ (entry.remaining now).toNat < info.valid_lifetime.toNat then
        (last (lifetime now info.valid_lifetime)).toNat
      else if 7200 < (entry.remaining now).toNat then min (now.toNat + 7200000000) (2 ^ 64 - 1)
      else (last entry.valid_until).toNat := by
  have long : (7200 < info.valid_lifetime || entry.remaining now < info.valid_lifetime.toUInt64) = true ↔
      7200 < info.valid_lifetime.toNat ∨ (entry.remaining now).toNat < info.valid_lifetime.toNat := by
    rw [Bool.or_eq_true,decide_eq_true_eq,decide_eq_true_eq,UInt32.lt_iff_toNat_lt,UInt64.lt_iff_toNat_lt,UInt32.toNat_toUInt64]
    rfl
  have large : 7200 < entry.remaining now ↔ 7200 < (entry.remaining now).toNat := UInt64.lt_iff_toNat_lt
  rw [Ipv6AddressEntry.refresh]
  by_cases extended : 7200 < info.valid_lifetime.toNat ∨ (entry.remaining now).toNat < info.valid_lifetime.toNat
  · rw [if_pos extended,if_pos (long.mpr extended)]
  · rw [if_neg extended,if_neg (extended ∘ long.mp)]
    by_cases cut : 7200 < (entry.remaining now).toNat
    · rw [if_pos cut,if_pos (large.mpr cut),last_toNat_some,after_toNat]
      rfl
    · rw [if_neg cut,if_neg (cut ∘ large.mp)]

theorem refresh_granted (advertised : entry.origin = .Slaac) : Granted now entry (entry.refresh info now) where
  origin := rfl
  fixed := fun manual => absurd advertised manual
  time := by
    have limit := (last entry.valid_until).toNat_lt
    have rounded := remaining_toNat entry now
    rw [left,left,refresh_valid,last_lifetime]
    cases infinite : entry.valid_until with
    | none =>
      rw [infinite,if_pos rfl] at rounded
      rw [last_toNat_none]
      split
      · split <;> omega
      · split <;> omega
    | some deadline =>
      rw [infinite,if_neg (Option.some_ne_none _),left] at rounded
      rw [infinite] at limit
      split
      · split <;> omega
      · split <;> omega

/-- An address that is not expired stays so. -/
theorem refresh_alive (alive : Alive now entry) : Alive now (entry.refresh info now) := by
  intro advertised
  have before := alive advertised
  have small := now.toNat_lt
  rw [UInt64.le_iff_toNat_le] at before ⊢
  rw [refresh_valid,last_lifetime]
  split
  · split <;> omega
  · split <;> omega

/-- The order of the lifetimes survives an option that keeps it itself. -/
theorem refresh_lasting (alive : Alive now entry) (shorter : info.preferred_lifetime ≤ info.valid_lifetime) :
    Lasting (entry.refresh info now) := by
  intro advertised
  have before := UInt64.le_iff_toNat_le.mp (alive advertised)
  have ordered := UInt64.le_iff_toNat_le.mp (last_lifetime_mono now shorter)
  have rounded := remaining_toNat entry now
  have small := info.valid_lifetime.toNat_lt
  have limit := (last entry.valid_until).toNat_lt
  show last (lifetime now info.preferred_lifetime) ≤ _
  rw [UInt64.le_iff_toNat_le,refresh_valid]
  by_cases extended : 7200 < info.valid_lifetime.toNat ∨ (entry.remaining now).toNat < info.valid_lifetime.toNat
  · rw [if_pos extended]
    exact ordered
  · -- the option asks for at most what remains, in whole seconds
    rw [last_lifetime now info.valid_lifetime,if_neg (by omega)] at ordered
    rw [if_neg extended]
    by_cases cut : 7200 < (entry.remaining now).toNat
    · rw [if_pos cut]
      omega
    · rw [if_neg cut]
      cases infinite : entry.valid_until with
      | none =>
        rw [infinite,if_pos rfl] at rounded
        omega
      | some deadline =>
        rw [infinite,if_neg (Option.some_ne_none _),left] at rounded
        rw [infinite] at before
        omega

/-! ### All addresses -/

/-- A fact about each address of an interface. -/
def Each (fact : Ipv6AddressEntry → Prop) (addresses : OrderedMap Ipv6Addr Ipv6AddressEntry) : Prop :=
  ∀ ip entry, addresses.get? ip = some entry → fact entry

/-- A fact about each address of each interface. -/
def Everywhere (fact : Ipv6AddressEntry → Prop) (interfaces : OrderedMap InterfaceId InterfaceRuntime) : Prop :=
  ∀ id runtime, interfaces.get? id = some runtime → Each fact runtime.addresses

variable {fact : Ipv6AddressEntry → Prop} {addresses : OrderedMap Ipv6Addr Ipv6AddressEntry}
  {interfaces : OrderedMap InterfaceId InterfaceRuntime}

theorem Each.insert (each : Each fact addresses) (ip : Ipv6Addr) (known : fact entry) :
    Each fact (addresses.insert ip entry) := by
  intro key found lookup
  rw [OrderedMap.get?_insert] at lookup
  by_cases same : key = ip
  · rw [if_pos same] at lookup
    cases lookup
    exact known
  · rw [if_neg same] at lookup
    exact each key found lookup

theorem Each.retain (each : Each fact addresses) (keep : Ipv6Addr → Ipv6AddressEntry → Bool) :
    Each fact (addresses.retain keep) :=
  fun ip found lookup => each ip found (OrderedMap.get?_retain_eq_some.mp lookup).1

theorem Each.mapValues {goal : Ipv6AddressEntry → Prop} {f : Ipv6AddressEntry → Ipv6AddressEntry}
    (each : Each fact addresses) (maps : ∀ entry, fact entry → goal (f entry)) :
    Each goal (addresses.mapValues (fun _ entry => f entry)) := by
  intro ip found lookup
  rw [OrderedMap.get?_mapValues] at lookup
  obtain ⟨original,inside,rfl⟩ := Option.map_eq_some_iff.mp lookup
  exact maps original (each ip original inside)

theorem Everywhere.insert (everywhere : Everywhere fact interfaces) (id : InterfaceId) {runtime : InterfaceRuntime}
    (each : Each fact runtime.addresses) : Everywhere fact (interfaces.insert id runtime) := by
  intro key found lookup
  rw [OrderedMap.get?_insert] at lookup
  by_cases same : key = id
  · rw [if_pos same] at lookup
    cases lookup
    exact each
  · rw [if_neg same] at lookup
    exact everywhere key found lookup

theorem Everywhere.retain (everywhere : Everywhere fact interfaces) (keep : InterfaceId → InterfaceRuntime → Bool) :
    Everywhere fact (interfaces.retain keep) :=
  fun id found lookup => everywhere id found (OrderedMap.get?_retain_eq_some.mp lookup).1

theorem Everywhere.mapValues {f : InterfaceId → InterfaceRuntime → InterfaceRuntime}
    (everywhere : Everywhere fact interfaces)
    (maps : ∀ id runtime, Each fact runtime.addresses → Each fact (f id runtime).addresses) :
    Everywhere fact (interfaces.mapValues f) := by
  intro id found lookup
  rw [OrderedMap.get?_mapValues] at lookup
  obtain ⟨original,inside,rfl⟩ := Option.map_eq_some_iff.mp lookup
  exact maps id original (everywhere id original inside)

/-! ### Preparation -/

section Preparation
variable (port : Port) (now : SimTime)

theorem configured_lasting (asked : Ipv6InterfaceConfig × Ipv6AddressOrigin) :
    Lasting (InterfaceRuntime.configured port now asked) :=
  fun _ => le_refl _

theorem configured_alive (asked : Ipv6InterfaceConfig × Ipv6AddressOrigin) :
    Alive now (InterfaceRuntime.configured port now asked) :=
  fun _ => le_last_none now

/-- The configured addresses join those that are there. -/
theorem Each.or_insert (asked : List (Ipv6Addr × Ipv6InterfaceConfig × Ipv6AddressOrigin)) (each : Each fact addresses)
    (configured : ∀ asked, fact (InterfaceRuntime.configured port now asked)) :
    Each fact (asked.foldl (InterfaceRuntime.or_insert port now) addresses) := by
  induction asked generalizing addresses with
  | nil => exact each
  | cons first rest ih =>
    rw [List.foldl_cons]
    refine ih ?_
    rw [InterfaceRuntime.or_insert]
    by_cases there : addresses.contains first.1 = true
    · rw [if_pos there]
      exact each
    · rw [if_neg there]
      exact each.insert first.1 (configured first.2)

theorem outlived_origin (entry : Ipv6AddressEntry) : (InterfaceRuntime.outlived now entry).origin = entry.origin ∧
    (InterfaceRuntime.outlived now entry).preferred_until = entry.preferred_until ∧
    (InterfaceRuntime.outlived now entry).valid_until = entry.valid_until := by
  rw [InterfaceRuntime.outlived]
  by_cases ended : (entry.state = .Preferred && entry.preferred_until.any (· ≤ now)) = true
  · rw [if_pos ended]
    exact ⟨rfl,rfl,rfl⟩
  · rw [if_neg ended]
    exact ⟨rfl,rfl,rfl⟩

/-- Whatever holds of the retained and of the configured addresses, and does not read their state, holds after the round. -/
theorem prepare_each {runtime : InterfaceRuntime}
    (retained : Each fact (runtime.addresses.retain (InterfaceRuntime.retained port now)))
    (configured : ∀ asked, fact (InterfaceRuntime.configured port now asked))
    (stateless : ∀ entry, fact entry → fact (InterfaceRuntime.outlived now entry)) :
    Each fact (runtime.prepare port now).addresses :=
  (Each.or_insert port now _ retained configured).mapValues stateless

theorem Lasting.outlived (lasting : Lasting entry) : Lasting (InterfaceRuntime.outlived now entry) := by
  obtain ⟨origin,preferred,valid⟩ := outlived_origin now entry
  rw [Lasting,origin,preferred,valid]
  exact lasting

theorem Alive.outlived (alive : Alive now entry) : Alive now (InterfaceRuntime.outlived now entry) := by
  obtain ⟨origin,-,valid⟩ := outlived_origin now entry
  rw [Alive,origin,valid]
  exact alive

/-- Retained addresses are not expired. -/
theorem retained_alive (runtime : InterfaceRuntime) :
    Each (Alive now) (runtime.addresses.retain (InterfaceRuntime.retained port now)) := by
  intro ip entry lookup _
  have kept := (OrderedMap.get?_retain_eq_some.mp lookup).2
  rw [InterfaceRuntime.retained,Bool.and_eq_true] at kept
  cases limit : entry.valid_until with
  | none => exact le_last_none now
  | some limit' =>
    rw [limit] at kept
    exact le_of_lt (of_decide_eq_true kept.2)

/-- No address is preferred once its preference is over. -/
theorem outlived_state (entry : Ipv6AddressEntry) (preferred : (InterfaceRuntime.outlived now entry).state = .Preferred) :
    ∀ limit, (InterfaceRuntime.outlived now entry).preferred_until = some limit → now < limit := by
  intro limit ends
  rw [(outlived_origin now entry).2.1] at ends
  rw [InterfaceRuntime.outlived] at preferred
  by_cases ended : (entry.state = .Preferred && entry.preferred_until.any (· ≤ now)) = true
  · rw [if_pos ended] at preferred
    cases preferred
  · rw [if_neg ended] at preferred
    rw [preferred,ends] at ended
    simpa using ended

end Preparation

variable {device : Device}

/-- Every address after `ipv6_prepare` is one that a round of an active interface left. -/
theorem prepare_everywhere {up : InterfaceId → Bool}
    (round : ∀ id port, Each fact (((device.ipv6.interfaces.get? id).getD .default).prepare port now).addresses) :
    Everywhere fact (device.ipv6_prepare up now).ipv6.interfaces := by
  intro id runtime lookup
  rw [Device.ipv6_prepare] at lookup
  dsimp only at lookup
  rw [OrderedMap.get?_mapValues] at lookup
  obtain ⟨port,-,rfl⟩ := Option.map_eq_some_iff.mp lookup
  exact round id port

/-- The addresses of an interface, or none. -/
theorem Everywhere.runtime (everywhere : Everywhere fact device.ipv6.interfaces) (id : InterfaceId) :
    Each fact ((device.ipv6.interfaces.get? id).getD .default).addresses := by
  cases lookup : device.ipv6.interfaces.get? id with
  | none =>
    intro ip entry inside
    cases inside
  | some runtime => exact everywhere id runtime lookup

theorem prepare_lasting (lasting : Everywhere Lasting device.ipv6.interfaces) (up : InterfaceId → Bool) (now : SimTime) :
    Everywhere Lasting (device.ipv6_prepare up now).ipv6.interfaces :=
  prepare_everywhere (fun id port => prepare_each port now ((lasting.runtime id).retain _) (configured_lasting port now)
    (fun _ => Lasting.outlived now))

theorem prepare_alive (device : Device) (up : InterfaceId → Bool) (now : SimTime) :
    Everywhere (Alive now) (device.ipv6_prepare up now).ipv6.interfaces :=
  prepare_everywhere (fun _ port => prepare_each port now (retained_alive port now _) (configured_alive port now)
    (fun _ => Alive.outlived now))

/-- After `ipv6_prepare` a preferred address is one whose preference lasts. -/
theorem prepare_preferred (device : Device) (up : InterfaceId → Bool) (now : SimTime) :
    Everywhere (fun entry => entry.state = .Preferred → ∀ limit, entry.preferred_until = some limit → now < limit)
      (device.ipv6_prepare up now).ipv6.interfaces := by
  refine prepare_everywhere ?_
  intro id port
  have all : Each (fun _ => True) (((InterfaceRuntime.wanted port).entries.foldl (InterfaceRuntime.or_insert port now)
      (((device.ipv6.interfaces.get? id).getD .default).addresses.retain (InterfaceRuntime.retained port now)))) :=
    fun _ _ _ => trivial
  exact all.mapValues (fun entry _ => outlived_state now entry)

/-! ### Ticks -/

theorem Lasting.dad (lasting : Lasting entry) (now : SimTime) : Lasting (InterfaceRuntime.dad_address now entry).1 := by
  rw [InterfaceRuntime.dad_address]
  by_cases settled : (entry.state ≠ .Tentative || entry.dad_due.all (now < ·)) = true
  · rw [if_pos settled]
    exact lasting
  · rw [if_neg settled]
    by_cases unsent : (!entry.dad_sent) = true
    · rw [if_pos unsent]
      exact lasting
    · rw [if_neg unsent]
      exact lasting

theorem dad_lasting (lasting : Everywhere Lasting device.ipv6.interfaces) (now : SimTime) :
    Everywhere Lasting (device.ipv6_dad now).1.ipv6.interfaces := by
  refine lasting.mapValues ?_
  intro id runtime each
  rw [InterfaceRuntime.dad]
  by_cases duplicate : runtime.local_duplicate = true
  · rw [if_pos duplicate]
    exact each
  · rw [if_neg duplicate]
    exact each.mapValues (fun _ lasting => lasting.dad now)

/-- The addresses of a written state; unlike `rfl` at its use, this compares no deadlines. -/
theorem written_addresses {β : Type*} (addresses : OrderedMap Ipv6Addr Ipv6AddressEntry) (ra_due : SimTime)
    (ra_last rs_due : Option SimTime) (rs_count : UInt8) (message : β) :
    (InterfaceRuntime.mk addresses ra_due ra_last rs_due rs_count,message).1.addresses = addresses := rfl

theorem router_timer_addresses (runtime : InterfaceRuntime) (forwarding : Bool) (port : Port) (now : SimTime) :
    (runtime.router_timer forwarding port now).1.addresses = runtime.addresses := by
  rw [InterfaceRuntime.router_timer]
  split
  · exact written_addresses ..
  · split
    · exact written_addresses ..
    · rfl

theorem router_timer_at_addresses (runtime : InterfaceRuntime) (forwarding : Bool) (port : Option Port) (now : SimTime) :
    (runtime.router_timer_at forwarding port now).1.addresses = runtime.addresses := by
  unfold InterfaceRuntime.router_timer_at
  cases runtime.link_local_address with
  | none => rfl
  | some source =>
    cases port with
    | none => rfl
    | some port =>
      dsimp only
      by_cases loopback : port.kind = .Loopback
      · rw [if_pos loopback]
      · rw [if_neg loopback]
        exact router_timer_addresses runtime forwarding port now

theorem router_timers_everywhere (everywhere : Everywhere fact device.ipv6.interfaces) (now : SimTime) :
    Everywhere fact (device.ipv6_router_timers now).1.ipv6.interfaces := by
  refine everywhere.mapValues ?_
  intro id runtime each
  rw [router_timer_at_addresses]
  exact each

theorem tick_lasting (lasting : Everywhere Lasting device.ipv6.interfaces) (up : InterfaceId → Bool) (now : SimTime) :
    Everywhere Lasting (device.ipv6_tick up now).1.ipv6.interfaces := by
  have prepared := dad_lasting (prepare_lasting lasting up now) now
  exact @router_timers_everywhere Lasting (((device.ipv6_prepare up now).ipv6_dad now).1.ipv6_neighbor_timers now).1 prepared now

/-! ### Advertisements -/

theorem learn_neighbor_interfaces (device : Device) (id : InterfaceId) (address : Ipv6Addr) (mac : MacAddress)
    (router : Bool) (now : SimTime) :
    (device.ipv6_learn_neighbor id address mac router now).ipv6.interfaces = device.ipv6.interfaces := by
  rw [Device.ipv6_learn_neighbor]
  split
  · rfl
  · dsimp only
    cases device.ipv6.neighbors.get? (toLex (id,address)) with
    | none =>
      by_cases full : NEIGHBOR_LIMIT ≤ device.ipv6.neighbors.size
      · simp only [if_pos full]
      · simp only [if_neg full]
    | some entry => rfl

theorem on_link_prefix_interfaces (device : Device) (id : InterfaceId) (info : PrefixInformation) (now : SimTime) :
    (device.on_link_prefix id info now).ipv6.interfaces = device.ipv6.interfaces := by
  rw [Device.on_link_prefix]
  dsimp only
  split
  · rfl
  · split
    · rfl
    · split
      · rfl
      · rfl

theorem on_link_prefix_ports (device : Device) (id : InterfaceId) (info : PrefixInformation) (now : SimTime) :
    (device.on_link_prefix id info now).ports = device.ports := by
  rw [Device.on_link_prefix]
  dsimp only
  split
  · rfl
  · split
    · rfl
    · split
      · rfl
      · rfl

theorem advertised_router_interfaces (device : Device) (id : InterfaceId) (source : Ipv6Addr) (router_lifetime : UInt16)
    (now : SimTime) :
    (device.advertised_router id source router_lifetime now).ipv6.interfaces = device.ipv6.interfaces := by
  rw [Device.advertised_router]
  dsimp only
  split
  · rfl
  · split
    · rfl
    · rfl

/-- What one option may do to the addresses: nothing, or autoconfiguration from a prefix whose lifetimes are in order. -/
theorem ra_option_cases (device : Device) (id : InterfaceId) (source : Ipv6Addr) (now : SimTime) (option : NdOption) :
    (Device.ra_option id source now device option).ipv6.interfaces = device.ipv6.interfaces ∨
      ∃ info runtime address, info.preferred_lifetime ≤ info.valid_lifetime ∧
      device.ipv6.interfaces.get? id = some runtime ∧
        (Device.ra_option id source now device option).ipv6.interfaces = device.ipv6.interfaces.insert id
          { runtime with addresses := autoconfigure runtime.addresses address info now } := by
  cases option with
  | SourceLinkLayer mac => exact .inl (learn_neighbor_interfaces device id source mac true now)
  | TargetLinkLayer mac => exact .inl rfl
  | Mtu mtu => exact .inl rfl
  | Unknown kind data => exact .inl rfl
  | Prefix info =>
    rw [Device.ra_option]
    by_cases ignored : (is_unicast_link_local info.network.address || is_multicast info.network.address ||
        info.valid_lifetime < info.preferred_lifetime) = true
    · rw [if_pos ignored]
      exact .inl rfl
    · rw [if_neg ignored]
      have shorter : info.preferred_lifetime ≤ info.valid_lifetime := by
        rw [Bool.or_eq_true,not_or,decide_eq_true_eq] at ignored
        exact not_lt.mp ignored.2
      rw [Device.autonomous_address,on_link_prefix_interfaces,on_link_prefix_ports]
      cases device.ports.get? id with
      | none => exact .inl (on_link_prefix_interfaces device id info now)
      | some port =>
        cases lookup : device.ipv6.interfaces.get? id with
        | none => exact .inl (on_link_prefix_interfaces device id info now)
        | some runtime =>
          dsimp only
          by_cases manual : (!port.ipv6.autoconfig || !info.autonomous || info.network.prefix_len ≠ 64) = true
          · rw [if_pos manual]
            exact .inl (on_link_prefix_interfaces device id info now)
          · rw [if_neg manual]
            exact .inr ⟨info,runtime,info.network.address ||| BitVec.ofNat 128 (interface_identifier port.mac_address).toNat,
              shorter,rfl,rfl⟩

/-- What `autoconfigure` does: nothing, the refresh of an advertised address, or a new one. -/
theorem autoconfigure_cases (addresses : OrderedMap Ipv6Addr Ipv6AddressEntry) (address : Ipv6Addr)
    (info : PrefixInformation) (now : SimTime) : autoconfigure addresses address info now = addresses ∨
      (∃ existing, addresses.get? address = some existing ∧ existing.origin = .Slaac ∧
        autoconfigure addresses address info now = addresses.insert address (existing.refresh info now)) ∨
      ∃ config, addresses.get? address = none ∧ autoconfigure addresses address info now = addresses.insert address
        ⟨config,.Tentative,.Slaac,lifetime now info.preferred_lifetime,lifetime now info.valid_lifetime,some now,false⟩ := by
  rw [autoconfigure]
  cases lookup : addresses.get? address with
  | some existing =>
    dsimp only
    by_cases manual : existing.origin ≠ .Slaac
    · rw [if_pos manual]
      exact .inl rfl
    · rw [if_neg manual]
      exact .inr (.inl ⟨existing,rfl,not_not.mp manual,rfl⟩)
  | none =>
    dsimp only
    by_cases room : (0 < info.valid_lifetime && addresses.size < ADDRESS_LIMIT) = true
    · rw [if_pos room]
      rw [Ipv6InterfaceConfig.new]
      split
      · rename_i config made
        split at made
        · split at made
          · cases made
            exact .inr (.inr ⟨_,rfl,rfl⟩)
          · cases made
        · cases made
      · exact .inl rfl
    · rw [if_neg room]
      exact .inl rfl

theorem autoconfigure_each {info : PrefixInformation}
    (each : Each (fun entry => Lasting entry ∧ Alive now entry) addresses)
    (shorter : info.preferred_lifetime ≤ info.valid_lifetime) (address : Ipv6Addr) :
    Each (fun entry => Lasting entry ∧ Alive now entry) (autoconfigure addresses address info now) := by
  rcases autoconfigure_cases addresses address info now with same | ⟨existing,lookup,-,updated⟩ | ⟨config,-,added⟩
  · rw [same]
    exact each
  · rw [updated]
    have alive := (each address existing lookup).2
    exact each.insert address ⟨refresh_lasting alive shorter,refresh_alive alive⟩
  · rw [added]
    exact each.insert address ⟨fun _ => last_lifetime_mono now shorter,fun _ => le_last_lifetime now info.valid_lifetime⟩

theorem ra_option_everywhere (everywhere : Everywhere (fun entry => Lasting entry ∧ Alive now entry) device.ipv6.interfaces)
    (id : InterfaceId) (source : Ipv6Addr) (option : NdOption) :
    Everywhere (fun entry => Lasting entry ∧ Alive now entry)
    (Device.ra_option id source now device option).ipv6.interfaces := by
  rcases ra_option_cases device id source now option with same | ⟨info,runtime,address,shorter,lookup,written⟩
  · rw [same]
    exact everywhere
  · rw [written]
    exact everywhere.insert id (autoconfigure_each (everywhere id runtime lookup) shorter address)

theorem solicited_everywhere (everywhere : Everywhere fact device.ipv6.interfaces) (id : InterfaceId) :
    Everywhere fact (device.solicited id).ipv6.interfaces := by
  rw [Device.solicited]
  cases lookup : device.ipv6.interfaces.get? id with
  | none => exact everywhere
  | some runtime => exact everywhere.insert id (everywhere id runtime lookup)

theorem receive_ra_everywhere (everywhere : Everywhere (fun entry => Lasting entry ∧ Alive now entry) device.ipv6.interfaces)
    (id : InterfaceId) (source : Ipv6Addr) (message : NdMessage) :
    Everywhere (fun entry => Lasting entry ∧ Alive now entry)
    (device.ipv6_receive_ra id source message now).ipv6.interfaces := by
  unfold Device.ipv6_receive_ra
  by_cases forwarding : device.ipv6_forwarding_enabled = true
  · rw [if_pos forwarding]
    exact everywhere
  · rw [if_neg forwarding]
    cases message with
    | RouterAdvertisement hop_limit managed other router_lifetime reachable_time retrans_timer options =>
      have options_everywhere : ∀ (options : List NdOption) (device : Device),
          Everywhere (fun entry => Lasting entry ∧ Alive now entry) device.ipv6.interfaces →
            Everywhere (fun entry => Lasting entry ∧ Alive now entry)
              (options.foldl (Device.ra_option id source now) device).ipv6.interfaces := by
        intro options
        induction options with
        | nil => exact fun _ start => start
        | cons option rest ih => exact fun device start => ih _ (ra_option_everywhere start id source option)
      refine solicited_everywhere (options_everywhere options _ ?_) id
      rw [advertised_router_interfaces]
      exact everywhere
    | _ => exact everywhere

/-! ### Runs -/

theorem Everywhere.and {goal : Ipv6AddressEntry → Prop} (one : Everywhere fact interfaces)
    (two : Everywhere goal interfaces) :
    Everywhere (fun entry => fact entry ∧ goal entry) interfaces :=
  fun id runtime lookup ip entry inside => ⟨one id runtime lookup ip entry inside,two id runtime lookup ip entry inside⟩

theorem Everywhere.imp {goal : Ipv6AddressEntry → Prop} (one : Everywhere fact interfaces)
    (implies : ∀ entry, fact entry → goal entry) :
    Everywhere goal interfaces :=
  fun id runtime lookup ip entry inside => implies entry (one id runtime lookup ip entry inside)

theorem duplicate_lasting (lasting : Everywhere Lasting device.ipv6.interfaces) (id : InterfaceId) (target : Ipv6Addr) :
    Everywhere Lasting (device.ipv6_duplicate id target).2.ipv6.interfaces := by
  rw [Device.ipv6_duplicate]
  cases lookup : device.ipv6.interfaces.get? id with
  | none => exact lasting
  | some runtime =>
    dsimp only
    cases found : runtime.addresses.get? target with
    | none => exact lasting
    | some entry =>
      dsimp only
      by_cases tentative : entry.state = .Tentative
      · rw [if_pos tentative]
        have each := lasting id runtime lookup
        exact lasting.insert id (each.insert target (each target entry found))
      · rw [if_neg tentative]
        exact lasting

theorem source_option_interfaces (device : Device) (id : InterfaceId) (address : Ipv6Addr) (mac : Option MacAddress)
    (now : SimTime) :
    (mac.elim device (fun mac => device.ipv6_learn_neighbor id address mac false now)).ipv6.interfaces = device.ipv6.interfaces := by
  cases mac with
  | none => rfl
  | some mac => exact learn_neighbor_interfaces device id address mac false now

theorem receive_solicitation_lasting (lasting : Everywhere Lasting device.ipv6.interfaces) (up : InterfaceId → Bool)
    (id : InterfaceId) (port : Port) (packet : Ipv6Packet) (source_mac : MacAddress) (source_option : Option MacAddress)
    (target : Ipv6Addr) (now : SimTime) :
    Everywhere Lasting (device.receive_solicitation up id port packet source_mac source_option target now).1.ipv6.interfaces := by
  have after := duplicate_lasting lasting id target
  rw [Device.receive_solicitation]
  generalize device.ipv6_duplicate id target = given at after ⊢
  obtain ⟨duplicate,next⟩ := given
  cases duplicate with
  | true => exact after
  | false =>
    dsimp only
    by_cases foreign : (!next.ipv6_owns up target id) = true
    · rw [if_pos foreign]
      exact after
    · rw [if_neg foreign]
      dsimp only
      rw [source_option_interfaces]
      exact after

theorem receive_advertisement_lasting (lasting : Everywhere Lasting device.ipv6.interfaces) (id : InterfaceId)
    (target : Ipv6Addr) (router solicited override_flag : Bool) (options : List NdOption) (now : SimTime) :
    Everywhere Lasting (device.receive_advertisement id target router solicited override_flag options now).1.ipv6.interfaces := by
  have after := duplicate_lasting lasting id target
  rw [Device.receive_advertisement]
  generalize device.ipv6_duplicate id target = given at after ⊢
  obtain ⟨duplicate,next⟩ := given
  cases duplicate with
  | true => exact after
  | false =>
    dsimp only
    cases next.ipv6.neighbors.get? (toLex (id,target)) with
    | none => exact after
    | some neighbor => exact after

theorem receive_router_solicitation_lasting (lasting : Everywhere Lasting device.ipv6.interfaces) (id : InterfaceId)
    (port : Port) (source : Ipv6Addr) (source_option : Option MacAddress) (now : SimTime) :
    Everywhere Lasting (device.receive_router_solicitation id port source source_option now).ipv6.interfaces := by
  rw [Device.receive_router_solicitation]
  by_cases advertises : (device.ipv6_forwarding_enabled && !port.ipv6.ra_suppress) = true
  · rw [if_pos advertises]
    dsimp only
    rw [source_option_interfaces]
    cases lookup : device.ipv6.interfaces.get? id with
    | none =>
      dsimp only
      rw [source_option_interfaces]
      exact lasting
    | some runtime => exact lasting.insert id (lasting id runtime lookup)
  · rw [if_neg advertises]
    exact lasting

theorem receive_lasting (lasting : Everywhere Lasting device.ipv6.interfaces) (up : InterfaceId → Bool) (id : InterfaceId)
    (packet : Ipv6Packet) (source_mac : MacAddress) (message : NdMessage) (now : SimTime) :
    Everywhere Lasting (device.receive_ipv6_nd up id packet source_mac message now).1.ipv6.interfaces := by
  have prepared := prepare_lasting lasting up now
  have alive := prepare_alive device up now
  rw [Device.receive_ipv6_nd]
  generalize device.ipv6_prepare up now = ready at prepared alive ⊢
  cases ready.ipv6.interfaces.get? id with
  | none => exact prepared
  | some runtime =>
    cases ready.ports.get? id with
    | none => exact prepared
    | some port =>
      dsimp only
      split
      · exact prepared
      · cases message with
        | RouterSolicitation options =>
          exact tick_lasting (receive_router_solicitation_lasting prepared id port packet.source _ now) up now
        | RouterAdvertisement hop_limit managed other router_lifetime reachable_time retrans_timer options =>
          exact tick_lasting ((receive_ra_everywhere (prepared.and alive) id packet.source _).imp (fun _ both => both.1)) up now
        | NeighborSolicitation target options =>
          have answered := receive_solicitation_lasting prepared up id port packet source_mac
            (source_link_layer (.NeighborSolicitation target options)) target now
          dsimp only
          generalize ready.receive_solicitation up id port packet source_mac
            (source_link_layer (.NeighborSolicitation target options)) target now = given at answered ⊢
          obtain ⟨next,answer⟩ := given
          cases answer with
          | none => exact answered
          | some out => exact tick_lasting answered up now
        | NeighborAdvertisement target router solicited override_flag options =>
          have learned := receive_advertisement_lasting prepared id target router solicited override_flag options now
          dsimp only
          generalize ready.receive_advertisement id target router solicited override_flag options now = given at learned ⊢
          obtain ⟨next,complete⟩ := given
          cases complete with
          | false => exact learned
          | true => exact tick_lasting learned up now

theorem reset_everywhere (everywhere : Everywhere fact device.ipv6.interfaces) (id : InterfaceId) :
    Everywhere fact (device.reset_ipv6_interface id).ipv6.interfaces := everywhere.retain _

theorem set_ipv6_policy_everywhere (everywhere : Everywhere fact device.ipv6.interfaces) (id : InterfaceId)
    (policy : Ipv6InterfacePolicy) : Everywhere fact (device.set_ipv6_policy id policy).2.ipv6.interfaces := by
  rw [Device.set_ipv6_policy]
  cases device.ports.get? id with
  | none => exact everywhere
  | some port =>
    dsimp only
    split
    · exact everywhere
    · split
      · exact everywhere
      · split
        · exact everywhere
        · dsimp only
          by_cases inactive : (!policy.active) = true
          · rw [if_pos inactive]
            exact reset_everywhere everywhere id
          · rw [if_neg inactive]
            cases lookup : device.ipv6.interfaces.get? id with
            | none => exact everywhere
            | some runtime => exact everywhere.insert id ((everywhere id runtime lookup).retain _)

theorem resolve_neighbor_interfaces (device : Device) (id : InterfaceId) (address : Ipv6Addr) (now : SimTime) :
    (device.ipv6_resolve_neighbor id address now).2.ipv6.interfaces = device.ipv6.interfaces := by
  rw [Device.ipv6_resolve_neighbor]
  split
  · rfl
  · cases multicast_mac address with
    | some mac => rfl
    | none =>
      dsimp only
      split
      · rfl
      · rfl

theorem lasting_apply (lasting : Everywhere Lasting device.ipv6.interfaces) (operation : Operation) :
    Everywhere Lasting (device.apply operation).ipv6.interfaces := by
  cases operation with
  | tick up now => exact tick_lasting lasting up now
  | receive up id packet source_mac message now => exact receive_lasting lasting up id packet source_mac message now
  | resolve_neighbor id address now =>
    rw [Device.apply,resolve_neighbor_interfaces]
    exact lasting
  | set_ipv6_routing enabled =>
    rw [Device.apply,Device.set_ipv6_routing]
    split
    · exact lasting
    · exact lasting
  | set_ipv6_policy id policy => exact set_ipv6_policy_everywhere lasting id policy
  | set_ipv6_address id address =>
    rw [Device.apply,Device.set_ipv6_address]
    cases device.ports.get? id with
    | none => exact lasting
    | some port => exact set_ipv6_policy_everywhere lasting id _
  | reset_ipv6_interface id => exact reset_everywhere lasting id
  | configure ports => exact lasting

theorem lasting_run (lasting : Everywhere Lasting device.ipv6.interfaces) (operations : List Operation) :
    Everywhere Lasting (device.run operations).ipv6.interfaces := by
  induction operations generalizing device with
  | nil => exact lasting
  | cons operation rest ih => exact ih (lasting_apply lasting operation)

/-! ### What an advertisement leaves -/

/-- Every address stays, with what the two-hour rule grants it. -/
def Respects (now : SimTime) (before behind : OrderedMap InterfaceId InterfaceRuntime) : Prop :=
  ∀ id runtime, before.get? id = some runtime → ∃ kept, behind.get? id = some kept ∧
    ∀ ip entry, runtime.addresses.get? ip = some entry → ∃ left, kept.addresses.get? ip = some left ∧
    Granted now entry left

theorem Respects.refl (now : SimTime) (interfaces : OrderedMap InterfaceId InterfaceRuntime) :
    Respects now interfaces interfaces :=
  fun _ runtime lookup => ⟨runtime,lookup,fun _ entry inside => ⟨entry,inside,.refl now entry⟩⟩

theorem Respects.trans {first second third : OrderedMap InterfaceId InterfaceRuntime} (one : Respects now first second)
    (two : Respects now second third) : Respects now first third := by
  intro id runtime lookup
  obtain ⟨middle,there,granted⟩ := one id runtime lookup
  obtain ⟨kept,found,again⟩ := two id middle there
  refine ⟨kept,found,?_⟩
  intro ip entry inside
  obtain ⟨between,inMiddle,first_grant⟩ := granted ip entry inside
  obtain ⟨left,inKept,second_grant⟩ := again ip between inMiddle
  exact ⟨left,inKept,first_grant.trans second_grant⟩

/-- One runtime is replaced by another with the same or granted addresses. -/
theorem respects_insert {id : InterfaceId} {runtime written : InterfaceRuntime}
    (lookup : interfaces.get? id = some runtime)
    (granted : ∀ ip entry, runtime.addresses.get? ip = some entry → ∃ left, written.addresses.get? ip = some left ∧
      Granted now entry left) :
    Respects now interfaces (interfaces.insert id written) := by
  intro key found known
  rw [OrderedMap.get?_insert]
  by_cases same : key = id
  · rw [if_pos same]
    subst same
    rw [lookup] at known
    cases known
    exact ⟨written,rfl,granted⟩
  · rw [if_neg same]
    exact ⟨found,known,fun _ entry inside => ⟨entry,inside,.refl now entry⟩⟩

theorem autoconfigure_granted (addresses : OrderedMap Ipv6Addr Ipv6AddressEntry) (address : Ipv6Addr)
    (info : PrefixInformation) {ip : Ipv6Addr} (inside : addresses.get? ip = some entry) :
    ∃ left, (autoconfigure addresses address info now).get? ip = some left ∧ Granted now entry left := by
  rcases autoconfigure_cases addresses address info now with same | ⟨existing,lookup,advertised,updated⟩ | ⟨config,absent,added⟩
  · rw [same]
    exact ⟨entry,inside,.refl now entry⟩
  · rw [updated,OrderedMap.get?_insert]
    by_cases same : ip = address
    · subst same
      rw [lookup] at inside
      cases inside
      exact ⟨entry.refresh info now,if_pos rfl,refresh_granted advertised⟩
    · exact ⟨entry,by rw [if_neg same,inside],.refl now entry⟩
  · rw [added,OrderedMap.get?_insert]
    have other : ip ≠ address := by
      rintro rfl
      rw [absent] at inside
      cases inside
    exact ⟨entry,by rw [if_neg other,inside],.refl now entry⟩

theorem ra_option_respects (device : Device) (id : InterfaceId) (source : Ipv6Addr) (option : NdOption) :
    Respects now device.ipv6.interfaces (Device.ra_option id source now device option).ipv6.interfaces := by
  rcases ra_option_cases device id source now option with same | ⟨info,runtime,address,-,lookup,written⟩
  · rw [same]
    exact .refl now _
  · rw [written]
    exact respects_insert lookup (fun ip entry inside => autoconfigure_granted runtime.addresses address info inside)

theorem solicited_respects (device : Device) (id : InterfaceId) (now : SimTime) :
    Respects now device.ipv6.interfaces (device.solicited id).ipv6.interfaces := by
  rw [Device.solicited]
  cases lookup : device.ipv6.interfaces.get? id with
  | none => exact .refl now _
  | some runtime => exact respects_insert lookup (fun ip entry inside => ⟨entry,inside,.refl now entry⟩)

theorem receive_ra_respects (device : Device) (id : InterfaceId) (source : Ipv6Addr) (message : NdMessage)
    (now : SimTime) :
    Respects now device.ipv6.interfaces (device.ipv6_receive_ra id source message now).ipv6.interfaces := by
  unfold Device.ipv6_receive_ra
  by_cases forwarding : device.ipv6_forwarding_enabled = true
  · rw [if_pos forwarding]
    exact .refl now _
  · rw [if_neg forwarding]
    cases message with
    | RouterAdvertisement hop_limit managed other router_lifetime reachable_time retrans_timer options =>
      have options_respect : ∀ (options : List NdOption) (device : Device),
          Respects now device.ipv6.interfaces (options.foldl (Device.ra_option id source now) device).ipv6.interfaces := by
        intro options
        induction options with
        | nil => exact fun device => .refl now _
        | cons option rest ih => exact fun device => (ra_option_respects device id source option).trans (ih _)
      have listed := options_respect options (device.advertised_router id source router_lifetime now)
      rw [advertised_router_interfaces] at listed
      exact listed.trans (solicited_respects _ id now)
    | _ => exact .refl now _

/-- The two-hour rule: whatever an advertisement says, an address taken from a prefix keeps the smaller of its
    remaining lifetime and two hours, and other addresses stay as they are. In every run such an address is preferred
    for no longer than it is valid, and after `ipv6_prepare` no address is preferred past its preference. -/
theorem two_hour_rule :
    (∀ (device : Device) (id : InterfaceId) (source : Ipv6Addr) (message : NdMessage) (now : SimTime) (interface : InterfaceId)
      (runtime : InterfaceRuntime) (ip : Ipv6Addr) (entry : Ipv6AddressEntry),
      device.ipv6.interfaces.get? interface = some runtime → runtime.addresses.get? ip = some entry →
        ∃ kept left_entry, (device.ipv6_receive_ra id source message now).ipv6.interfaces.get? interface = some kept ∧
          kept.addresses.get? ip = some left_entry ∧ left_entry.origin = entry.origin ∧
          (entry.origin = .Slaac → min (left now entry.valid_until) (7200 * 1000000) ≤ left now left_entry.valid_until) ∧
          (entry.origin = .Manual ∨ entry.origin = .LinkLocal → left_entry = entry)) ∧
    ∀ (device_type : DeviceType) (ports : OrderedMap InterfaceId Port) (operations : List Operation),
      let device := (Device.new device_type ports).run operations
      (∀ interface runtime ip entry, device.ipv6.interfaces.get? interface = some runtime → runtime.addresses.get? ip = some entry →
        entry.origin = .Slaac → last entry.preferred_until ≤ last entry.valid_until) ∧
      ∀ (up : InterfaceId → Bool) (now : SimTime) interface runtime ip entry,
        (device.ipv6_prepare up now).ipv6.interfaces.get? interface = some runtime →
        runtime.addresses.get? ip = some entry →
          entry.state = .Preferred → ∀ limit, entry.preferred_until = some limit → now < limit := by
  constructor
  · intro device id source message now interface runtime ip entry lookup inside
    obtain ⟨kept,found,granted⟩ := receive_ra_respects device id source message now interface runtime lookup
    obtain ⟨left_entry,there,grant⟩ := granted ip entry inside
    refine ⟨kept,left_entry,found,there,grant.origin,fun _ => grant.time,?_⟩
    intro configured
    refine grant.fixed ?_
    rcases configured with manual | linkLocal
    · rw [manual]
      exact fun same => nomatch same
    · rw [linkLocal]
      exact fun same => nomatch same
  · intro device_type ports operations device
    constructor
    · have start : Everywhere Lasting (Device.new device_type ports).ipv6.interfaces :=
    fun id runtime lookup => nomatch lookup
      exact fun interface runtime ip entry lookup inside => lasting_run start operations interface runtime lookup ip entry inside
    · exact fun up now interface runtime ip entry lookup inside => prepare_preferred device up now interface runtime
        lookup ip entry inside

end Rios.Ipv6Addresses
