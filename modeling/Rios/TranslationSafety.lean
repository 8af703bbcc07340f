import Rios.TranslationTable

/-!
# Private sources and shadowed entries

When a packet that has to be translated keeps its private source, and when a
static rule takes the replies of a dynamic entry.
-/

namespace Rios.Translation
open Rios.Machine Rios.Device Rios.Wire Rios.Transport
open Rios.Queue (SimTime)

theorem matches_transport {rule : StaticNat} {address : Ipv4Addr} {source : Bool}
    (matched : rule.matches address none source = true) :
    ∃ localAddress globalAddress, rule = .Address localAddress globalAddress := by
  cases rule with
  | Address localAddress globalAddress => exact ⟨localAddress,globalAddress,rfl⟩
  | Port protocol localAddress local_port globalAddress global_port => simp [StaticNat.matches] at matched

namespace Router
variable {self : Router} {ingress egress : InterfaceId} {packet : Ipv4Packet} {now : SimTime}

/-! ### Private sources -/

/-- The source of the packet has to be translated: a static rule has it as local
    address, or the dynamic rule of the egress interface permits it. -/
def Private (self : Router) (egress : InterfaceId) (packet : Ipv4Packet) : Prop :=
  (∃ globalAddress, .Address packet.source globalAddress ∈ self.static_nat.keys) ∨
    ∃ acl pool overload, self.dynamic_rule egress = some (acl,pool,overload) ∧ self.access_list_permits acl packet.source = true

/-- A source that a translated packet may have. -/
def Public (self : Router) (egress : InterfaceId) (packet : Ipv4Packet) (address : Ipv4Addr) : Prop :=
  (∃ rule ∈ self.static_nat.keys, rule.matches packet.source (outbound_transport packet) true = true ∧ rule.global = address) ∨
    ∃ acl pool overload, self.dynamic_rule egress = some (acl,pool,overload) ∧
      match pool with
      | some pool => pool.first ≤ address ∧ address ≤ pool.last
      | none => (self.interface_ipv4 egress).map (·.address) = some address

/-- The packet is dropped, or translated to a public source. -/
def Guarded (self : Router) (egress : InterfaceId) (packet : Ipv4Packet) : NatOutcome × Ipv4Packet × Router → Prop
  | (.Unchanged,_,_) => False
  | (.Translated,translated,_) => self.Public egress packet translated.source
  | (.Drop,_,_) => True

/-- A TCP or UDP packet that does not decode, where no dynamic rule permits its source. -/
def Malformed (self : Router) (egress : InterfaceId) (packet : Ipv4Packet) : Prop :=
  (packet.protocol = .Tcp ∨ packet.protocol = .Udp) ∧ outbound_transport packet = none ∧
    ∀ acl pool overload, self.dynamic_rule egress = some (acl,pool,overload) → self.access_list_permits acl packet.source = false

/-- A packet without static rule whose flow has an unexpired entry, under the rule for
    the interface's address, that was made when the interface had another one. -/
def Renumbered (self : Router) (egress : InterfaceId) (packet : Ipv4Packet) (now : SimTime) : Prop :=
  self.static_rule packet true = none ∧
  ∃ acl overload protocol local_port outside_port, self.dynamic_rule egress = some (acl,none,overload) ∧
    self.access_list_permits acl packet.source = true ∧
    outbound_transport packet = some (protocol,local_port,outside_port) ∧
    ∃ entry ∈ self.nat_translations, now < entry.expires_at ∧
      entry.inside = ⟨protocol,packet.source,local_port,packet.destination,outside_port⟩ ∧
      (self.interface_ipv4 egress).map (·.address) ≠ some entry.inside_global_address

theorem static_rule_eq_some {rule : StaticNat} (found : self.static_rule packet true = some rule) :
    rule ∈ self.static_nat.keys ∧ rule.matches packet.source (outbound_transport packet) true = true :=
  ⟨List.mem_of_find?_eq_some found,by simpa using List.find?_some found⟩

theorem static_rule_isSome {rule : StaticNat} (member : rule ∈ self.static_nat.keys)
    (matched : rule.matches packet.source (outbound_transport packet) true = true) :
    ∃ first, self.static_rule packet true = some first := by
  cases found : self.static_rule packet true with
  | some first => exact ⟨first,rfl⟩
  | none => exact absurd matched (List.find?_eq_none.mp found rule member)

/-- A static rule translates a packet that decodes. -/
theorem static_of_transport {transport : NatProtocol × UInt16 × UInt16}
    (decodes : outbound_transport packet = some transport) (unfixed : self.translate_static packet true = none) :
    self.static_rule packet true = none := by
  cases found : self.static_rule packet true with
  | none => rfl
  | some rule =>
    simp only [translate_static,found,Option.bind_some] at unfixed
    exact (rewrite_of_transport decodes _ _ _).elim (fun translated rewritten =>
      absurd (unfixed.symm.trans rewritten) (by simp))

/-- Where no static rule translates, an address rule fails only on TCP and UDP that do not decode. -/
theorem static_unfixed {globalAddress : Ipv4Addr} (member : .Address packet.source globalAddress ∈ self.static_nat.keys)
    (unfixed : self.translate_static packet true = none) :
    (packet.protocol = .Tcp ∨ packet.protocol = .Udp) ∧ outbound_transport packet = none := by
  obtain ⟨first,found⟩ := @static_rule_isSome self packet (.Address packet.source globalAddress) member
    (by simp [StaticNat.matches,StaticNat.localOf])
  have undecoded : outbound_transport packet = none := by
    cases decodes : outbound_transport packet with
    | none => rfl
    | some transport =>
      rw [static_of_transport decodes unfixed] at found
      cases found
  have matched := (static_rule_eq_some found).2
  rw [undecoded] at matched
  obtain ⟨_,_,rfl⟩ := matches_transport matched
  simp only [translate_static,found,Option.bind_some,if_true] at unfixed
  exact rewrite_address_none.mp unfixed

theorem fixed_transport {translated : Ipv4Packet} (translates : self.translate_static packet true = some translated) :
    (∃ rule, self.static_rule packet true = some rule ∧ translated.source = rule.global) ∧
      ¬ ((packet.protocol = .Tcp ∨ packet.protocol = .Udp) ∧ outbound_transport packet = none) := by
  obtain ⟨rule,found,rewritten⟩ := Option.bind_eq_some_iff.mp translates
  simp only [if_true] at rewritten
  constructor
  · refine ⟨rule,found,?_⟩
    obtain ⟨payload,rfl⟩ := rewrite_eq_some rewritten
    rfl
  · rintro ⟨protocol,undecoded⟩
    have matched := (static_rule_eq_some found).2
    rw [undecoded] at matched
    obtain ⟨_,_,rfl⟩ := matches_transport matched
    simp only [rewrite_address_none.mpr ⟨protocol,undecoded⟩] at rewritten
    cases rewritten

theorem mem_expire {entry : NatTranslation} :
    entry ∈ (self.expire_nat now).nat_translations ↔ entry ∈ self.nat_translations ∧ now < entry.expires_at := by
  simp [expire_nat]

/-- The entry of a flow inside is the only one. -/
theorem Sound.unique (sound : self.Sound) {first second : NatTranslation} (isFirst : first ∈ self.nat_translations)
    (isSecond : second ∈ self.nat_translations) (same : first.inside = second.inside) : first.core = second.core := by
  have distinct : (self.cores.map (·.inside)).Nodup := List.pairwise_map.mpr sound.inside
  exact List.inj_on_of_nodup_map distinct (mem_cores isFirst) (mem_cores isSecond) same

/-- A packet with a private source is dropped or gets a public one, unless it is
    malformed without a dynamic rule, or its entry has an address of the past. -/
theorem private_guarded (device_type : DeviceType) (operations : List Operation) (ingress egress : InterfaceId)
    (packet : Ipv4Packet) (now : SimTime) (inside : (run device_type operations).nat_role ingress = some .Inside)
    (outside : (run device_type operations).nat_role egress = some .Outside)
    (isPrivate : (run device_type operations).Private egress packet) :
    (run device_type operations).Guarded egress packet ((run device_type operations).nat_outbound ingress egress packet now) ↔
      ¬ (run device_type operations).Malformed egress packet ∧
      ¬ (run device_type operations).Renumbered egress packet now := by
  have sound := run_sound device_type operations
  generalize run device_type operations = self at inside outside isPrivate sound ⊢
  have outcome := self.nat_outbound_cases ingress egress packet now
  generalize self.nat_outbound ingress egress packet now = result at outcome ⊢
  cases outcome with
  | foreign roles => exact absurd ⟨inside,outside⟩ roles
  | fixed roles translates =>
    obtain ⟨⟨rule,found,source⟩,wellformed⟩ := fixed_transport translates
    obtain ⟨member,matched⟩ := static_rule_eq_some found
    refine iff_of_true (.inl ⟨rule,member,matched,source.symm⟩) ⟨?_,?_⟩
    · rintro ⟨protocol,undecoded,-⟩
      exact wellformed ⟨protocol,undecoded⟩
    · rintro ⟨missing,-⟩
      rw [missing] at found
      cases found
  | exempt roles unfixed unruled =>
    refine iff_of_false id ?_
    rintro ⟨wellformed,-⟩
    rcases isPrivate with ⟨globalAddress,member⟩ | ⟨acl,pool,overload,rule,permits⟩
    · obtain ⟨protocol,undecoded⟩ := static_unfixed member unfixed
      exact wellformed ⟨protocol,undecoded,unruled⟩
    · rw [unruled acl pool overload rule] at permits
      cases permits
  | undecoded roles unfixed rule permits transport =>
    refine iff_of_true trivial ⟨?_,?_⟩
    · rintro ⟨-,-,unruled⟩
      rw [unruled _ _ _ rule] at permits
      cases permits
    · rintro ⟨-,_,_,_,_,_,-,-,decodes,-⟩
      rw [transport] at decodes
      cases decodes
  | @refreshed acl pool overload protocol local_port outside_port index entry translated after roles unfixed rule permits
      transport found flow rewritten rules table =>
    have member := mem_expire.mp (List.mem_of_getElem? found)
    have wellformed : ¬ self.Malformed egress packet := by
      rintro ⟨-,-,unruled⟩
      rw [unruled _ _ _ rule] at permits
      cases permits
    have missing := static_of_transport transport unfixed
    have source : translated.source = entry.inside_global_address := by
      obtain ⟨payload,rfl⟩ := rewrite_eq_some rewritten
      rfl
    have unmatched : ¬ ∃ fixed ∈ self.static_nat.keys,
        fixed.matches packet.source (outbound_transport packet) true = true ∧ fixed.global = translated.source := by
      rintro ⟨fixed,isFixed,matched,-⟩
      obtain ⟨first,found⟩ := static_rule_isSome isFixed matched
      rw [missing] at found
      cases found
    rw [Guarded,Public,source]
    rw [source] at unmatched
    rcases (sound.dynamic_rule rule).2 with ⟨pool_rule,addresses,configured,present,rfl⟩ | ⟨-,rfl,-⟩
    · obtain ⟨_,again,within⟩ := sound.pooled pool_rule configured
      cases Option.some.inj (present.symm.trans again)
      refine iff_of_true (.inr ⟨acl,some addresses,overload,rule,(within entry.core (mem_cores member.1)).1⟩) ⟨wellformed,?_⟩
      rintro ⟨-,_,_,_,_,_,unpooled,-⟩
      rw [rule] at unpooled
      cases unpooled
    · constructor
      · intro allowed
        refine ⟨wellformed,?_⟩
        rintro ⟨-,_,_,_,_,_,-,-,decodes,other,isOther,-,same,stale⟩
        rw [transport] at decodes
        cases decodes
        have core := sound.unique isOther member.1 (same.trans flow.symm)
        rcases allowed with fixed | ⟨_,_,_,again,address⟩
        · exact unmatched fixed
        · rw [rule] at again
          cases again
          have same_address : other.core.inside_global_address = entry.core.inside_global_address := by rw [core]
          exact stale (address.trans (congrArg some same_address.symm))
      · rintro ⟨-,current⟩
        refine .inr ⟨acl,none,overload,rule,?_⟩
        by_contra stale
        exact current ⟨missing,acl,overload,protocol,local_port,outside_port,rule,permits,transport,entry,member.1,
          member.2,flow,stale⟩
  | exhausted roles unfixed rule permits transport absent rules table =>
    refine iff_of_true trivial ⟨?_,?_⟩
    · rintro ⟨-,-,unruled⟩
      rw [unruled _ _ _ rule] at permits
      cases permits
    · rintro ⟨-,_,_,_,_,_,-,-,decodes,entry,isEntry,lives,flow,-⟩
      rw [transport] at decodes
      cases decodes
      exact absent entry (mem_expire.mpr ⟨isEntry,lives⟩) flow
  | @fresh acl pool overload protocol local_port outside_port global_port global translated after roles unfixed rule permits
      transport absent allocated rewritten rules table =>
    have source : translated.source = global := by
      obtain ⟨payload,rfl⟩ := rewrite_eq_some rewritten
      rfl
    obtain ⟨-,-,fits⟩ := @allocate_spec (self.expire_nat now) egress pool overload packet.source local_port
    obtain ⟨-,from_pool,from_interface,-⟩ := fits global global_port allocated
    refine iff_of_true (.inr ⟨acl,pool,overload,rule,?_⟩) ⟨?_,?_⟩
    · rw [source]
      cases pool with
      | some addresses => exact (pool_address_eq_some (from_pool addresses rfl)).1
      | none => exact from_interface rfl
    · rintro ⟨-,-,unruled⟩
      rw [unruled _ _ _ rule] at permits
      cases permits
    · rintro ⟨-,_,_,_,_,_,-,-,decodes,entry,isEntry,lives,flow,-⟩
      rw [transport] at decodes
      cases decodes
      exact absent entry (mem_expire.mpr ⟨isEntry,lives⟩) flow

/-- Two interfaces, the outside one with an address, and a list of inside hosts. -/
def setup (rules : List Operation) : List Operation :=
  [.configure (OrderedMap.ofList [(1,⟨none,none,true⟩),(2,⟨none,some ⟨0xcb007101,24,by decide⟩,true⟩)]) ∅
    (OrderedMap.ofList [(1,[⟨.Permit,0x0a000000,0x000000ff⟩])]) ∅,
   .set_nat_role 1 .Inside,.set_nat_role 2 .Outside] ++ rules

/-- A datagram behind an interface with overload is translated. -/
theorem private_guarded_udp : (run .Router (setup [.set_nat_overload 1 2])).Guarded 2
    ⟨0,0x0a000002,0xcb007102,64,.Udp,[4,210,0,53,0,9,0,0,1]⟩
    ((run .Router (setup [.set_nat_overload 1 2])).nat_outbound 1 2
      ⟨0,0x0a000002,0xcb007102,64,.Udp,[4,210,0,53,0,9,0,0,1]⟩ 0) := by
  refine (private_guarded .Router _ 1 2 _ 0 (by decide +kernel) (by decide +kernel) ?_).mpr ⟨?_,?_⟩
  · exact .inr ⟨1,none,true,by decide +kernel,by decide +kernel⟩
  · rintro ⟨-,undecoded,-⟩
    exact absurd undecoded (by decide +kernel)
  · rintro ⟨-,_,_,_,_,_,-,-,-,entry,member,-⟩
    exact absurd (List.ne_nil_of_mem member) (by decide +kernel)

/-- A truncated TCP packet of a host with a static address passes unchanged. -/
theorem private_guarded_truncated :
    ¬ ∀ (device_type : DeviceType) (operations : List Operation) (ingress egress : InterfaceId) (packet : Ipv4Packet)
      (now : SimTime), (run device_type operations).nat_role ingress = some .Inside →
      (run device_type operations).nat_role egress = some .Outside → (run device_type operations).Private egress packet →
      (run device_type operations).Guarded egress packet
        ((run device_type operations).nat_outbound ingress egress packet now) := by
  intro guarded
  have leaks := guarded .Router (setup [.add_static_nat (.Address 0x0a000005 0xcb007105)]) 1 2
    ⟨0,0x0a000005,0xcb007102,64,.Tcp,[1,2,3]⟩ 0 (by decide +kernel) (by decide +kernel)
    (.inl ⟨0xcb007105,by decide +kernel⟩)
  have unchanged : ((run .Router (setup [.add_static_nat (.Address 0x0a000005 0xcb007105)])).nat_outbound 1 2
    ⟨0,0x0a000005,0xcb007102,64,.Tcp,[1,2,3]⟩ 0).1 = .Unchanged := by decide +kernel
  generalize (run .Router (setup [.add_static_nat (.Address 0x0a000005 0xcb007105)])).nat_outbound 1 2
    ⟨0,0x0a000005,0xcb007102,64,.Tcp,[1,2,3]⟩ 0 = result at leaks unchanged
  obtain ⟨outcome,translated,after⟩ := result
  cases unchanged
  exact leaks

/-! ### Shadowed entries -/

/-- No static rule matches the replies to an entry. -/
def Separated (self : Router) : Prop :=
  ∀ entry ∈ self.nat_translations, ∀ rule ∈ self.static_nat.keys,
    rule.matches entry.inside_global_address
      (some (entry.protocol,entry.inside_global_port,entry.outside_global_port)) false = false

/-- A packet for which `nat_outbound` makes an entry with the address of the egress
    interface, while a static rule maps this address to a host. -/
def Shadows (self : Router) : Operation → Prop
  | .nat_outbound ingress egress packet now =>
    (self.nat_role ingress = some .Inside ∧ self.nat_role egress = some .Outside) ∧
    self.translate_static packet true = none ∧
    ∃ acl overload protocol local_port outside_port address localAddress, self.dynamic_rule egress = some (acl,none,overload) ∧
      self.access_list_permits acl packet.source = true ∧
      outbound_transport packet = some (protocol,local_port,outside_port) ∧
      (∀ entry ∈ (self.expire_nat now).nat_translations,
        entry.inside ≠ ⟨protocol,packet.source,local_port,packet.destination,outside_port⟩) ∧
      (self.expire_nat now).nat_translations.length < MAX_TRANSLATIONS ∧
      (self.interface_ipv4 egress).map (·.address) = some address ∧
      .Address localAddress address ∈ self.static_nat.keys
  | _ => False

/-- A run without such packets. -/
def Unshadowed : Router → List Operation → Prop
  | _,[] => True
  | self,operation :: rest => ¬ self.Shadows operation ∧ Unshadowed (self.apply operation) rest

theorem separated_iff : self.Separated ↔ ∀ entry ∈ self.cores, ∀ rule ∈ self.static_nat.keys,
    rule.matches entry.inside_global_address
      (some (entry.protocol,entry.inside_global_port,entry.outside_global_port)) false = false := by
  constructor
  · intro separated entry member
    obtain ⟨present,isPresent,rfl⟩ := List.mem_map.mp member
    exact separated present isPresent
  · exact fun separated entry member => separated entry.core (mem_cores member)

theorem apply_separated (sound : self.Sound) (separated : self.Separated) {operation : Operation}
    (unshadowed : ¬ self.Shadows operation) : (self.apply operation).Separated := by
  have sound_after := apply_sound sound operation
  have step := self.apply_step operation
  rw [separated_iff] at separated ⊢
  generalize self.apply operation = after at step sound_after
  cases step with
  | kept rules cores =>
    rw [rules.static_nat]
    exact fun entry member => separated entry (cores.subset member)
  | cleared empty pools =>
    rw [cores,empty]
    exact fun entry member => absurd member List.not_mem_nil
  | @fresh ingress egress packet now acl pool overload protocol local_port outside_port global_port global _ roles unfixed rule
      permits transport absent allocated rules cores =>
    intro entry member fixed isFixed
    rw [cores] at member
    rcases List.mem_append.mp member with old | new
    · rw [rules.static_nat] at isFixed
      exact separated entry ((self.expire_cores now).subset old) fixed isFixed
    cases List.mem_singleton.mp new
    rcases (sound.dynamic_rule rule).2 with ⟨pool_rule,addresses,configured,present,rfl⟩ | ⟨unruled,rfl,rfl⟩
    · obtain ⟨_,-,within⟩ := sound_after.pooled pool_rule (rules.nat_pool_rule.trans configured)
      have apart := (within _ (by rw [cores]; exact List.mem_append_right _ new)).2 fixed isFixed
      simp [StaticNat.matches,apart]
    · have shares : after.overloads = true := by
        rw [overloads,rules.nat_pool_rule,unruled]
      obtain ⟨-,ports⟩ := sound_after.shared shares
      have apart := ports _ (by rw [cores]; exact List.mem_append_right _ new)
      obtain ⟨-,-,fits⟩ := @allocate_spec (self.expire_nat now) egress none true packet.source local_port
      obtain ⟨room,-,address,-⟩ := fits global global_port allocated
      cases fixed with
      | Address localAddress globalAddress =>
        by_contra matched
        obtain rfl : globalAddress = global := by simpa [StaticNat.matches,StaticNat.global] using matched
        rw [rules.static_nat] at isFixed
        exact unshadowed ⟨roles,unfixed,acl,true,protocol,local_port,outside_port,globalAddress,localAddress,rule,permits,
          transport,absent,room,address rfl,isFixed⟩
      | Port kind localAddress rule_port globalAddress rule_global =>
        by_contra matched
        obtain ⟨-,-,rfl⟩ : globalAddress = global ∧ protocol = kind.protocol ∧ global_port = rule_global := by
          simpa [StaticNat.matches,StaticNat.global] using matched
        exact apart _ _ _ _ isFixed

/-- In a run without shadowing packets no static rule takes the replies of an entry. -/
theorem translations_separated (device_type : DeviceType) (operations : List Operation)
    (unshadowed : Unshadowed (new device_type) operations) : (run device_type operations).Separated := by
  have steps : ∀ (operations : List Operation) (self : Router), self.Sound → self.Separated → Unshadowed self operations →
      (operations.foldl apply self).Separated := by
    intro operations
    induction operations with
    | nil => exact fun self _ separated _ => separated
    | cons operation rest ih =>
      intro self sound separated unshadowed
      exact ih _ (apply_sound sound operation) (apply_separated sound separated unshadowed.1) unshadowed.2
  exact steps operations _ (new_sound device_type) (fun entry member => absurd member List.not_mem_nil) unshadowed

/-- An interface whose address no static rule maps shadows nothing. -/
theorem unshadowed_elsewhere {ingress egress : InterfaceId} {packet : Ipv4Packet} {now : SimTime} {rules : List StaticNat}
    (keys : self.static_nat.keys = rules)
    (apart : ∀ rule ∈ rules, (self.interface_ipv4 egress).map (·.address) ≠ some rule.global) :
    ¬ self.Shadows (.nat_outbound ingress egress packet now) := by
  rintro ⟨-,-,_,_,_,_,_,address,localAddress,-,-,-,-,-,known,member⟩
  exact apart (.Address localAddress address) (keys ▸ member) known

/-- Two datagrams through an interface with overload, beside a static rule for another address. -/
def beside_static : List Operation := setup [.add_static_nat (.Address 0x0a000005 0xcb007109),.set_nat_overload 1 2,
  .nat_outbound 1 2 ⟨0,0x0a000002,0xcb007102,64,.Udp,[4,210,0,53,0,9,0,0,1]⟩ 0,
  .nat_outbound 1 2 ⟨0,0x0a000003,0xcb007102,64,.Udp,[4,210,0,53,0,9,0,0,1]⟩ 1000]

theorem translations_separated_beside : (run .Router beside_static).nat_translations.length = 2 ∧
    (run .Router beside_static).static_nat.keys = [.Address 0x0a000005 0xcb007109] ∧
        (run .Router beside_static).Separated := by
  refine ⟨by decide +kernel,by decide +kernel,translations_separated .Router _ ⟨id,id,id,id,id,?_,?_,trivial⟩⟩
  · exact @unshadowed_elsewhere _ _ _ _ _ [.Address 0x0a000005 0xcb007109] (by decide +kernel) (by decide +kernel)
  · exact @unshadowed_elsewhere _ _ _ _ _ [.Address 0x0a000005 0xcb007109] (by decide +kernel) (by decide +kernel)

/-- A static rule for the address of the outside interface takes the replies of an unexpired entry. -/
theorem translations_separated_interface : ¬ ∀ (device_type : DeviceType) (operations : List Operation) (now : SimTime),
    ∀ entry ∈ (run device_type operations).nat_translations, now < entry.expires_at →
      ∀ rule ∈ (run device_type operations).static_nat.keys, rule.matches entry.inside_global_address
        (some (entry.protocol,entry.inside_global_port,entry.outside_global_port)) false = false := by
  intro separated
  have apart := separated .Router (setup [.add_static_nat (.Address 0x0a000005 0xcb007101),.set_nat_overload 1 2,
    .nat_outbound 1 2 ⟨0,0x0a000002,0xcb007102,64,.Udp,[4,210,0,53,0,9,0,0,1]⟩ 0]) 0
    ⟨.Udp,0x0a000002,1234,0xcb007101,10000,0xcb007102,53,60000000⟩ (by decide +kernel) (by decide +kernel)
    (.Address 0x0a000005 0xcb007101) (by decide +kernel)
  exact absurd apart (by decide)

end Router
end Rios.Translation
