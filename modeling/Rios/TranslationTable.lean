import Rios.Translation

/-!
# The translation table

What each call does to a packet and to the table, and what holds of the table
in every run: no two entries share a flow, inside or outside.
-/

namespace Rios.Translation
open Rios.Machine Rios.Device Rios.Wire Rios.Transport
open Rios.Queue (SimTime)

/-! ### Rewritten packets -/

/-- The rewritten packet differs in one address and in the payload. -/
theorem rewrite_eq_some {packet translated : Ipv4Packet} {address : Ipv4Addr} {port : Option UInt16} {source : Bool}
    (rewritten : rewrite packet address port source = some translated) :
    ∃ payload, translated = { packet with
      source := if source then address else packet.source
      destination := if source then packet.destination else address
      payload := payload } := by
  unfold rewrite at rewritten
  obtain ⟨payload,-,same⟩ := Option.map_eq_some_iff.mp rewritten
  exact ⟨payload,same.symm⟩

theorem toOption_eq_some {ε α : Type*} {result : Except ε α} {value : α} :
    result.toOption = some value ↔ result = .ok value := by
  cases result <;> simp [Except.toOption]

/-- A segment that was decoded can be encoded with another port and address. -/
theorem tcp_encode_isSome {tcp : Tcp.TcpSegment} {a b new_source new_destination : Ipv4Addr} {payload : List UInt8}
    (decoded : Tcp.TcpSegment.decode a b payload = .ok tcp) (port : Option UInt16) (source : Bool) :
    ∃ bytes, (tcp_ports tcp port source).encode new_source new_destination = .ok bytes := by
  cases source with
  | true => exact Tcp.TcpSegment.encode_of_decode decoded new_source new_destination (port.getD tcp.source_port) tcp.destination_port
  | false => exact Tcp.TcpSegment.encode_of_decode decoded new_source new_destination tcp.source_port (port.getD tcp.destination_port)

theorem udp_encode_isSome {udp : UdpDatagram} {payload : List UInt8} (decoded : UdpDatagram.decode payload = .ok udp)
    (port : Option UInt16) (source : Bool) : ∃ bytes, (udp_ports udp port source).encode = .ok bytes := by
  cases source with
  | true => exact UdpDatagram.encode_of_decode decoded (port.getD udp.source_port) udp.destination_port
  | false => exact UdpDatagram.encode_of_decode decoded udp.source_port (port.getD udp.destination_port)

/-- A packet whose transport decodes can be rewritten. -/
theorem rewrite_of_transport {packet : Ipv4Packet} {transport : NatProtocol × UInt16 × UInt16}
    (decodes : outbound_transport packet = some transport) (address : Ipv4Addr) (port : Option UInt16) (source : Bool) :
    ∃ translated, rewrite packet address port source = some translated := by
  unfold outbound_transport at decodes
  unfold rewrite
  cases protocol : packet.protocol with
  | Icmp =>
    simp only [protocol] at decodes
    obtain ⟨echo,decoded,-⟩ := Option.map_eq_some_iff.mp decodes
    cases port with
    | none => exact ⟨_,rfl⟩
    | some port =>
      simp only [decoded,Option.map_some]
      exact ⟨_,rfl⟩
  | Udp =>
    simp only [protocol] at decodes
    obtain ⟨udp,decoded,-⟩ := Option.map_eq_some_iff.mp decodes
    obtain ⟨bytes,encoded⟩ := udp_encode_isSome (toOption_eq_some.mp decoded) port source
    simp only [decoded,Option.bind_some,toOption_eq_some.mpr encoded,Option.map_some]
    exact ⟨_,rfl⟩
  | Tcp =>
    simp only [protocol] at decodes
    obtain ⟨tcp,decoded,-⟩ := Option.map_eq_some_iff.mp decodes
    obtain ⟨bytes,encoded⟩ := @tcp_encode_isSome tcp packet.source packet.destination
      (if source then address else packet.source) (if source then packet.destination else address) packet.payload
      (toOption_eq_some.mp decoded) port source
    simp only [decoded,Option.bind_some,toOption_eq_some.mpr encoded,Option.map_some]
    exact ⟨_,rfl⟩
  | Ospf => simp [protocol] at decodes
  | Other value => simp [protocol] at decodes

/-- Without a port to replace, only TCP and UDP have to decode. -/
theorem rewrite_address_none {packet : Ipv4Packet} {address : Ipv4Addr} {source : Bool} :
    rewrite packet address none source = none ↔
      (packet.protocol = .Tcp ∨ packet.protocol = .Udp) ∧ outbound_transport packet = none := by
  constructor
  · intro fails
    have undecoded : outbound_transport packet = none := by
      cases decodes : outbound_transport packet with
      | none => rfl
      | some transport =>
        obtain ⟨translated,rewritten⟩ := rewrite_of_transport decodes address none source
        rw [rewritten] at fails
        cases fails
    refine ⟨?_,undecoded⟩
    cases protocol : packet.protocol with
    | Tcp => exact .inl rfl
    | Udp => exact .inr rfl
    | _ => simp [rewrite,protocol] at fails
  · rintro ⟨protocol,undecoded⟩
    unfold outbound_transport at undecoded
    unfold rewrite
    rcases protocol with protocol | protocol
    all_goals
      simp only [protocol] at undecoded ⊢
      rw [Option.map_eq_none_iff.mp undecoded]
      rfl

/-- A transport with the port of one side replaced. -/
def moved (port : UInt16) (source : Bool) : NatProtocol × UInt16 × UInt16 → NatProtocol × UInt16 × UInt16
  | (protocol,source_port,destination_port) =>
    if protocol = .Icmp then (protocol,port,0)
    else if source then (protocol,port,destination_port)
    else (protocol,source_port,port)

/-- Where the fields of a decoded message come from. -/
theorem icmp_decode_eq_ok {echo : IcmpEcho} {bytes : List UInt8} (decoded : IcmpEcho.decode bytes = .ok echo) :
    echo.identifier = u16_at bytes 4 ∧ echo.payload = bytes.drop 8 := by
  unfold IcmpEcho.decode at decoded
  split at decoded
  · cases decoded
  · simp only at decoded
    split at decoded
    · cases decoded
    · split at decoded
      · cases decoded
      · cases decoded
        exact ⟨rfl,rfl⟩

theorem icmp_identifier (echo : IcmpEcho) : u16_at echo.encode 4 = echo.identifier := by
  simp only [IcmpEcho.encode,IcmpEcho.bytes,be16,List.cons_append,List.nil_append,u16_at,List.getD_cons_zero,
    List.getD_cons_succ,from_be16_be16]

/-- The transport of a rewritten packet has the new port; it decodes again, if
    the packet is not longer than any IPv4 packet. -/
theorem rewrite_transport {packet translated : Ipv4Packet} {address : Ipv4Addr} {port : UInt16} {source : Bool}
    (rewritten : rewrite packet address (some port) source = some translated) :
    ∃ transport, outbound_transport packet = some transport ∧
      (∀ other, outbound_transport translated = some other → other = moved port source transport) ∧
      (packet.payload.length ≤ 65515 → outbound_transport translated = some (moved port source transport)) := by
  unfold rewrite at rewritten
  obtain ⟨payload,produced,same⟩ := Option.map_eq_some_iff.mp rewritten
  cases protocol : packet.protocol with
  | Icmp =>
    simp only [protocol] at produced same
    obtain ⟨echo,decoded,rfl⟩ := Option.map_eq_some_iff.mp produced
    have after : outbound_transport translated =
        (IcmpEcho.decode { echo with identifier := port }.encode).toOption.map (fun echo => (.Icmp,echo.identifier,0)) := by
      rw [← same]
      rfl
    refine ⟨(.Icmp,echo.identifier,0),by simp [outbound_transport,protocol,decoded],fun other again => ?_,fun fits => ?_⟩
    · rw [after] at again
      obtain ⟨twice,redecoded,rfl⟩ := Option.map_eq_some_iff.mp again
      rw [(icmp_decode_eq_ok (toOption_eq_some.mp redecoded)).1,icmp_identifier]
      rfl
    · have rest : echo.payload.length ≤ 65515 := by
        rw [(icmp_decode_eq_ok (toOption_eq_some.mp decoded)).2,List.length_drop]
        omega
      rw [after,toOption_eq_some.mpr (IcmpEcho.decode_encode { echo with identifier := port } rest)]
      rfl
  | Udp =>
    simp only [protocol] at produced same
    obtain ⟨udp,decoded,encoded⟩ := Option.bind_eq_some_iff.mp produced
    have again := UdpDatagram.decode_encode (toOption_eq_some.mp encoded)
    have after : outbound_transport translated =
        some (.Udp,(udp_ports udp (some port) source).source_port,(udp_ports udp (some port) source).destination_port) := by
      rw [← same]
      simp [outbound_transport,again,Except.toOption]
    have ports : moved port source (.Udp,udp.source_port,udp.destination_port) =
        (.Udp,(udp_ports udp (some port) source).source_port,(udp_ports udp (some port) source).destination_port) := by
      cases source <;> rfl
    refine ⟨(.Udp,udp.source_port,udp.destination_port),by simp [outbound_transport,protocol,decoded],?_,?_⟩
    · intro other twice
      rw [ports]
      exact (Option.some.inj (after.symm.trans twice)).symm
    · intro _
      rw [ports]
      exact after
  | Tcp =>
    simp only [protocol] at produced same
    obtain ⟨tcp,decoded,encoded⟩ := Option.bind_eq_some_iff.mp produced
    have again := Tcp.TcpSegment.decode_encode (toOption_eq_some.mp encoded)
    have after : outbound_transport translated =
        some (.Tcp,(tcp_ports tcp (some port) source).source_port,(tcp_ports tcp (some port) source).destination_port) := by
      rw [← same]
      simp [outbound_transport,again,Except.toOption]
    have ports : moved port source (.Tcp,tcp.source_port,tcp.destination_port) =
        (.Tcp,(tcp_ports tcp (some port) source).source_port,(tcp_ports tcp (some port) source).destination_port) := by
      cases source <;> rfl
    refine ⟨(.Tcp,tcp.source_port,tcp.destination_port),by simp [outbound_transport,protocol,decoded],?_,?_⟩
    · intro other twice
      rw [ports]
      exact (Option.some.inj (after.symm.trans twice)).symm
    · intro _
      rw [ports]
      exact after
  | Ospf => simp [protocol] at produced
  | Other value => simp [protocol] at produced

/-! ### What a call does to the router -/

/-- The entry without its deadline. -/
def NatTranslation.core (self : NatTranslation) : NatTranslation := { self with expires_at := 0 }

@[simp] theorem NatTranslation.refreshed_address (now : SimTime) (entry : NatTranslation) :
    (entry.refreshed now).inside_global_address = entry.inside_global_address := by
  rw [refreshed]

@[simp] theorem NatTranslation.refreshed_port (now : SimTime) (entry : NatTranslation) :
    (entry.refreshed now).inside_global_port = entry.inside_global_port := by
  rw [refreshed]

@[simp] theorem NatTranslation.refreshed_local_address (now : SimTime) (entry : NatTranslation) :
    (entry.refreshed now).inside_local_address = entry.inside_local_address := by
  rw [refreshed]

@[simp] theorem NatTranslation.refreshed_local_port (now : SimTime) (entry : NatTranslation) :
    (entry.refreshed now).inside_local_port = entry.inside_local_port := by
  rw [refreshed]

@[simp] theorem NatTranslation.refreshed_core (now : SimTime) (entry : NatTranslation) :
    (entry.refreshed now).core = entry.core := by
  rw [refreshed,core,core]

namespace Router

/-- Both routers have the same rules. -/
structure SameRules (before after : Router) : Prop where
  static_nat : after.static_nat = before.static_nat
  nat_pools : after.nat_pools = before.nat_pools
  nat_pool_rule : after.nat_pool_rule = before.nat_pool_rule
  nat_overload : after.nat_overload = before.nat_overload

theorem SameRules.refl (self : Router) : self.SameRules self := ⟨rfl,rfl,rfl,rfl⟩

theorem SameRules.trans {first second third : Router} (before : first.SameRules second) (after : second.SameRules third) :
    first.SameRules third :=
  ⟨after.static_nat.trans before.static_nat,after.nat_pools.trans before.nat_pools,
    after.nat_pool_rule.trans before.nat_pool_rule,after.nat_overload.trans before.nat_overload⟩

variable {self : Router}

theorem find_address_eq_some {free : Ipv4Addr → Bool} {count : Nat} {start address : Ipv4Addr}
    (found : find_address free count start = some address) (room : start.toNat + count ≤ 2 ^ 32) :
    free address = true ∧ start.toNat ≤ address.toNat ∧ address.toNat < start.toNat + count := by
  induction count generalizing start with
  | zero => cases found
  | succ count ih =>
    simp only [find_address] at found
    split_ifs at found with here
    · cases found
      exact ⟨here,le_rfl,by omega⟩
    · cases count with
      | zero => cases found
      | succ count =>
        have next : (start + 1).toNat = start.toNat + 1 := by
          rw [UInt32.toNat_add]
          exact Nat.mod_eq_of_lt (by simp only [UInt32.toNat_one]; omega)
        obtain ⟨isFree,above,below⟩ := ih found (by rw [next]; omega)
        rw [next] at above below
        exact ⟨isFree,by omega,by omega⟩

/-- A pool address is the one the host already has, or a free one. -/
theorem pool_address_eq_some {pool : NatPool} {localAddress global : Ipv4Addr} {overload : Bool}
    (chosen : self.pool_address pool localAddress overload = some global) :
    (pool.first ≤ global ∧ global ≤ pool.last) ∧
      ((∃ entry ∈ self.nat_translations, entry.inside_local_address = localAddress ∧ entry.inside_global_address = global) ∨
        (∀ rule ∈ self.static_nat.keys, rule.global ≠ global) ∧
          (overload = false → ∀ entry ∈ self.nat_translations, entry.inside_global_address ≠ global)) := by
  unfold pool_address at chosen
  split at chosen
  · rename_i entry found
    cases chosen
    have matched := List.find?_some found
    simp only [Bool.and_eq_true,decide_eq_true_eq] at matched
    obtain ⟨⟨same,above⟩,below⟩ := matched
    exact ⟨⟨above,below⟩,.inl ⟨entry,List.mem_of_find?_eq_some found,same,rfl⟩⟩
  · by_cases empty : pool.last.toNat + 1 - pool.first.toNat = 0
    · rw [empty] at chosen
      cases chosen
    · have last := pool.last.toNat_lt
      obtain ⟨free,above,below⟩ := find_address_eq_some chosen (by omega)
      simp only [Bool.and_eq_true,Bool.or_eq_true,Bool.not_eq_true',List.any_eq_false,decide_eq_true_eq] at free
      refine ⟨⟨UInt32.le_iff_toNat_le.mpr above,UInt32.le_iff_toNat_le.mpr (by omega)⟩,.inr ⟨free.1,fun plain => ?_⟩⟩
      rcases free.2 with shared | unused
      · rw [plain] at shared
        cases shared
      · exact unused

/-- The port is free, and nothing but the next port changes. -/
theorem allocate_rounds_spec (rounds : Nat) (self : Router) :
    self.SameRules (allocate_rounds rounds self).2 ∧
      (allocate_rounds rounds self).2.nat_translations = self.nat_translations ∧
      ∀ port, (allocate_rounds rounds self).1 = some port → self.port_free port = true := by
  induction rounds generalizing self with
  | zero => exact ⟨.refl self,rfl,fun port none => (by cases none)⟩
  | succ rounds ih =>
    simp only [allocate_rounds]
    generalize (if NAT_PORT_LAST ≤ self.next_nat_port then NAT_PORT_FIRST else self.next_nat_port + 1) = next
    split_ifs with free
    · exact ⟨⟨rfl,rfl,rfl,rfl⟩,rfl,fun port same => (by cases same; exact free)⟩
    · obtain ⟨rules,table,unused⟩ := ih { self with next_nat_port := next }
      exact ⟨⟨rules.1,rules.2,rules.3,rules.4⟩,table,unused⟩

/-- An allocation only takes an address and a port that the rule allows. -/
theorem allocate_spec {egress : InterfaceId} {pool : Option NatPool} {overload : Bool} {source : Ipv4Addr}
    {local_port : UInt16} :
    self.SameRules (self.allocate egress pool overload source local_port).2 ∧
    (self.allocate egress pool overload source local_port).2.nat_translations = self.nat_translations ∧
    ∀ global port, (self.allocate egress pool overload source local_port).1 = some (global,port) →
      self.nat_translations.length < MAX_TRANSLATIONS ∧
      (∀ addresses, pool = some addresses → self.pool_address addresses source overload = some global) ∧
      (pool = none → (self.interface_ipv4 egress).map (·.address) = some global) ∧
      (overload = true → self.port_free port = true) ∧ (overload = false → port = local_port) := by
  unfold allocate
  by_cases full : MAX_TRANSLATIONS ≤ self.nat_translations.length
  · rw [if_pos full]
    exact ⟨.refl self,rfl,fun global port none => (by cases none)⟩
  · rw [if_neg full]
    simp only
    split
    · exact ⟨.refl self,rfl,fun global port none => (by cases none)⟩
    · rename_i address chosen
      have pooled : ∀ addresses, pool = some addresses → self.pool_address addresses source overload = some address := by
        rintro addresses rfl
        exact chosen
      have direct : pool = none → (self.interface_ipv4 egress).map (·.address) = some address := by
        rintro rfl
        exact chosen
      cases overload with
      | true =>
        obtain ⟨rules,table,free⟩ := allocate_rounds_spec (NAT_PORT_LAST.toNat + 1 - NAT_PORT_FIRST.toNat) self
        rw [if_pos rfl]
        refine ⟨rules,table,fun global port taken => ?_⟩
        obtain ⟨taken_port,isPort,same⟩ := Option.map_eq_some_iff.mp taken
        cases same
        exact ⟨not_le.mp full,pooled,direct,fun _ => free _ isPort,fun plain => (by cases plain)⟩
      | false =>
        rw [if_neg (by decide)]
        refine ⟨.refl self,rfl,fun global port taken => ?_⟩
        cases taken
        exact ⟨not_le.mp full,pooled,direct,fun shared => (by cases shared),fun _ => rfl⟩

/-- What `nat_outbound` does. -/
inductive Outbound (self : Router) (ingress egress : InterfaceId) (packet : Ipv4Packet) (now : SimTime) :
    NatOutcome × Ipv4Packet × Router → Prop
  | foreign (roles : ¬ (self.nat_role ingress = some .Inside ∧ self.nat_role egress = some .Outside)) :
      Outbound self ingress egress packet now (.Unchanged,packet,self)
  | fixed {translated : Ipv4Packet} (roles : self.nat_role ingress = some .Inside ∧ self.nat_role egress = some .Outside)
      (translates : self.translate_static packet true = some translated) :
      Outbound self ingress egress packet now (.Translated,translated,self.nat_hit)
  | exempt (roles : self.nat_role ingress = some .Inside ∧ self.nat_role egress = some .Outside)
      (unfixed : self.translate_static packet true = none)
      (unruled : ∀ acl pool overload, self.dynamic_rule egress = some (acl,pool,overload) →
        self.access_list_permits acl packet.source = false) :
      Outbound self ingress egress packet now (.Unchanged,packet,self)
  | undecoded {acl : AccessListId} {pool : Option NatPool} {overload : Bool}
      (roles : self.nat_role ingress = some .Inside ∧ self.nat_role egress = some .Outside)
      (unfixed : self.translate_static packet true = none) (rule : self.dynamic_rule egress = some (acl,pool,overload))
      (permits : self.access_list_permits acl packet.source = true) (transport : outbound_transport packet = none) :
      Outbound self ingress egress packet now (.Drop,packet,self.nat_drop)
  | refreshed {acl : AccessListId} {pool : Option NatPool} {overload : Bool} {protocol : NatProtocol}
      {local_port outside_port : UInt16} {index : Nat} {entry : NatTranslation} {translated : Ipv4Packet} {after : Router}
      (roles : self.nat_role ingress = some .Inside ∧ self.nat_role egress = some .Outside)
      (unfixed : self.translate_static packet true = none) (rule : self.dynamic_rule egress = some (acl,pool,overload))
      (permits : self.access_list_permits acl packet.source = true)
      (transport : outbound_transport packet = some (protocol,local_port,outside_port))
      (found : (self.expire_nat now).nat_translations[index]? = some entry)
      (flow : entry.inside = ⟨protocol,packet.source,local_port,packet.destination,outside_port⟩)
      (rewritten : rewrite packet entry.inside_global_address (some entry.inside_global_port) true = some translated)
      (rules : self.SameRules after)
      (table : after.nat_translations = (self.expire_nat now).nat_translations.modify index (·.refreshed now)) :
      Outbound self ingress egress packet now (.Translated,translated,after)
  | exhausted {acl : AccessListId} {pool : Option NatPool} {overload : Bool} {protocol : NatProtocol}
      {local_port outside_port : UInt16} {after : Router}
      (roles : self.nat_role ingress = some .Inside ∧ self.nat_role egress = some .Outside)
      (unfixed : self.translate_static packet true = none) (rule : self.dynamic_rule egress = some (acl,pool,overload))
      (permits : self.access_list_permits acl packet.source = true)
      (transport : outbound_transport packet = some (protocol,local_port,outside_port))
      (absent : ∀ entry ∈ (self.expire_nat now).nat_translations,
        entry.inside ≠ ⟨protocol,packet.source,local_port,packet.destination,outside_port⟩)
      (rules : self.SameRules after) (table : after.nat_translations = (self.expire_nat now).nat_translations) :
      Outbound self ingress egress packet now (.Drop,packet,after)
  | fresh {acl : AccessListId} {pool : Option NatPool} {overload : Bool} {protocol : NatProtocol}
      {local_port outside_port global_port : UInt16} {global : Ipv4Addr} {translated : Ipv4Packet} {after : Router}
      (roles : self.nat_role ingress = some .Inside ∧ self.nat_role egress = some .Outside)
      (unfixed : self.translate_static packet true = none) (rule : self.dynamic_rule egress = some (acl,pool,overload))
      (permits : self.access_list_permits acl packet.source = true)
      (transport : outbound_transport packet = some (protocol,local_port,outside_port))
      (absent : ∀ entry ∈ (self.expire_nat now).nat_translations,
        entry.inside ≠ ⟨protocol,packet.source,local_port,packet.destination,outside_port⟩)
      (allocated : ((self.expire_nat now).allocate egress pool overload packet.source local_port).1 = some (global,global_port))
      (rewritten : rewrite packet global (some global_port) true = some translated) (rules : self.SameRules after)
      (table : after.nat_translations = (self.expire_nat now).nat_translations ++
        [NatTranslation.refreshed now ⟨protocol,packet.source,local_port,global,global_port,packet.destination,outside_port,now⟩]) :
      Outbound self ingress egress packet now (.Translated,translated,after)

theorem modify_last {α : Type*} (list : List α) (last : α) (f : α → α) :
    (list ++ [last]).modify ((list ++ [last]).length - 1) f = list ++ [f last] := by
  rw [List.length_append,List.length_singleton,Nat.add_sub_cancel]
  induction list with
  | nil => rfl
  | cons head rest ih => rw [List.cons_append,List.length_cons,List.modify_succ_cons,ih,List.cons_append]

/-- Where the packet decodes, an entry always translates it. -/
theorem translate_entry_eq {index : Nat} {entry : NatTranslation} {packet : Ipv4Packet} {now : SimTime}
    {transport : NatProtocol × UInt16 × UInt16} (decodes : outbound_transport packet = some transport)
    (found : self.nat_translations[index]? = some entry) :
    ∃ translated, rewrite packet entry.inside_global_address (some entry.inside_global_port) true = some translated ∧
      self.translate_entry index packet now = (.Translated,translated,nat_hit
        { self with nat_translations := self.nat_translations.modify index (·.refreshed now) }) := by
  obtain ⟨translated,rewritten⟩ := rewrite_of_transport decodes entry.inside_global_address (some entry.inside_global_port) true
  refine ⟨translated,rewritten,?_⟩
  have refreshed : (self.nat_translations.modify index (·.refreshed now))[index]? = some (entry.refreshed now) := by
    rw [List.getElem?_modify_eq,found,Option.map_eq_map,Option.map_some]
  simp only [translate_entry,refreshed,Option.bind_some,NatTranslation.refreshed_address,NatTranslation.refreshed_port,rewritten]

theorem nat_outbound_cases (self : Router) (ingress egress : InterfaceId) (packet : Ipv4Packet) (now : SimTime) :
    self.Outbound ingress egress packet now (self.nat_outbound ingress egress packet now) := by
  unfold nat_outbound
  split_ifs with foreign
  · exact .foreign (by rw [not_and_or]; simpa using foreign)
  have roles : self.nat_role ingress = some .Inside ∧ self.nat_role egress = some .Outside := by
    simpa [not_or] using foreign
  split
  · rename_i translated translates
    exact .fixed roles translates
  rename_i unfixed
  split
  · rename_i none_
    exact .exempt roles unfixed (by simp [none_])
  rename_i acl pool overload rule
  split_ifs with denied
  · refine .exempt roles unfixed (fun other _ _ same => ?_)
    rw [rule] at same
    cases same
    simpa using denied
  have permits : self.access_list_permits acl packet.source = true := by simpa using denied
  split
  · rename_i transport
    exact .undecoded roles unfixed rule permits transport
  rename_i protocol local_port outside_port transport
  simp only
  split
  · rename_i index found
    obtain ⟨inside,flow,-⟩ := List.findIdx?_eq_some_iff_getElem.mp found
    have entry := List.getElem?_eq_getElem inside
    obtain ⟨translated,rewritten,same⟩ := @translate_entry_eq (self.expire_nat now) index _ packet now _ transport entry
    rw [same]
    exact .refreshed roles unfixed rule permits transport entry (by simpa using flow) rewritten ⟨rfl,rfl,rfl,rfl⟩ rfl
  · rename_i missing
    have absent : ∀ entry ∈ (self.expire_nat now).nat_translations,
        entry.inside ≠ ⟨protocol,packet.source,local_port,packet.destination,outside_port⟩ := by
      simpa using List.findIdx?_eq_none_iff.mp missing
    obtain ⟨rules,table,-⟩ := @allocate_spec (self.expire_nat now) egress pool overload packet.source local_port
    have expired : self.SameRules (self.expire_nat now) := ⟨rfl,rfl,rfl,rfl⟩
    split
    · rename_i router allocated
      rw [allocated] at rules table
      have all := expired.trans rules
      exact .exhausted roles unfixed rule permits transport absent ⟨all.1,all.2,all.3,all.4⟩ table
    · rename_i global global_port router allocated
      rw [allocated] at rules table
      have all := expired.trans rules
      simp only at table
      let entry : NatTranslation :=
        ⟨protocol,packet.source,local_port,global,global_port,packet.destination,outside_port,now⟩
      obtain ⟨translated,rewritten,same⟩ := @translate_entry_eq
        { router with
          nat_translations := router.nat_translations ++ [entry]
          nat_statistics := { router.nat_statistics with
            allocations := satAdd64 router.nat_statistics.allocations 1 } }
        ((router.nat_translations ++ [entry]).length - 1) entry packet now _ transport (by simp)
      rw [same]
      refine .fresh roles unfixed rule permits transport absent (by rw [allocated]) rewritten
        ⟨all.1,all.2,all.3,all.4⟩ ?_
      rw [← table]
      exact modify_last router.nat_translations entry (·.refreshed now)

/-- What `translate_nat_inbound` does. -/
inductive Inbound (self : Router) (ingress : InterfaceId) (packet : Ipv4Packet) (now : SimTime) :
    Bool × Ipv4Packet × Router → Prop
  | foreign (role : self.nat_role ingress ≠ some .Outside) : Inbound self ingress packet now (false,packet,self)
  | fixed {translated : Ipv4Packet} (role : self.nat_role ingress = some .Outside)
      (translates : self.translate_static packet false = some translated) :
      Inbound self ingress packet now (true,translated,self.nat_hit)
  | missed {after : Router} (role : self.nat_role ingress = some .Outside)
      (unfixed : self.translate_static packet false = none)
      (absent : ∀ protocol global_port outside_port, inbound_transport packet = some (protocol,global_port,outside_port) →
        ∀ entry ∈ (self.expire_nat now).nat_translations,
          entry.outside ≠ ⟨protocol,packet.destination,global_port,packet.source,outside_port⟩)
      (rules : self.SameRules after) (table : after.nat_translations = (self.expire_nat now).nat_translations) :
      Inbound self ingress packet now (false,packet,after)
  | refreshed {protocol : NatProtocol} {global_port outside_port : UInt16} {index : Nat} {entry : NatTranslation}
      {translated : Ipv4Packet} {after : Router} (role : self.nat_role ingress = some .Outside)
      (unfixed : self.translate_static packet false = none)
      (transport : inbound_transport packet = some (protocol,global_port,outside_port))
      (found : (self.expire_nat now).nat_translations[index]? = some entry)
      (flow : entry.outside = ⟨protocol,packet.destination,global_port,packet.source,outside_port⟩)
      (rewritten : rewrite packet entry.inside_local_address (some entry.inside_local_port) false = some translated)
      (rules : self.SameRules after)
      (table : after.nat_translations = (self.expire_nat now).nat_translations.modify index (·.refreshed now)) :
      Inbound self ingress packet now (true,translated,after)

theorem translate_nat_inbound_cases (self : Router) (ingress : InterfaceId) (packet : Ipv4Packet) (now : SimTime) :
    self.Inbound ingress packet now (self.translate_nat_inbound ingress packet now) := by
  unfold translate_nat_inbound
  split_ifs with foreign
  · exact .foreign foreign
  have role : self.nat_role ingress = some .Outside := not_not.mp foreign
  split
  · rename_i translated translates
    exact .fixed role translates
  rename_i unfixed
  simp only
  split
  · rename_i silent
    exact .missed role unfixed (by simp [silent]) ⟨rfl,rfl,rfl,rfl⟩ rfl
  rename_i protocol global_port outside_port transport
  split
  · rename_i missing
    refine .missed role unfixed (fun _ _ _ same => ?_) ⟨rfl,rfl,rfl,rfl⟩ rfl
    rw [transport] at same
    cases same
    simpa using List.findIdx?_eq_none_iff.mp missing
  · rename_i index found
    obtain ⟨inside,flow,-⟩ := List.findIdx?_eq_some_iff_getElem.mp found
    have entry := List.getElem?_eq_getElem inside
    generalize (self.expire_nat now).nat_translations[index] = present at flow entry
    obtain ⟨outbound,decodes,-⟩ := Option.map_eq_some_iff.mp transport
    obtain ⟨translated,rewritten⟩ := rewrite_of_transport decodes present.inside_local_address
      (some present.inside_local_port) false
    have refreshed : ((self.expire_nat now).nat_translations.modify index (·.refreshed now))[index]? =
        some (present.refreshed now) := by
      rw [List.getElem?_modify_eq,entry,Option.map_eq_map,Option.map_some]
    simp only [refreshed,Option.bind_some,NatTranslation.refreshed_local_address,NatTranslation.refreshed_local_port,rewritten]
    exact .refreshed role unfixed transport entry (by simpa using flow) rewritten ⟨rfl,rfl,rfl,rfl⟩ rfl

/-! ### The table over whole runs -/

/-- The entries without their deadlines. -/
def cores (self : Router) : List NatTranslation := self.nat_translations.map (·.core)

theorem mem_cores {entry : NatTranslation} (member : entry ∈ self.nat_translations) : entry.core ∈ self.cores :=
  List.mem_map_of_mem member

theorem expire_cores (self : Router) (now : SimTime) : (self.expire_nat now).cores.Sublist self.cores :=
  List.filter_sublist.map _

theorem modify_cores (table : List NatTranslation) (index : Nat) (now : SimTime) :
    (table.modify index (·.refreshed now)).map (·.core) = table.map (·.core) := by
  induction table generalizing index with
  | nil => simp
  | cons entry rest ih =>
    cases index with
    | zero => simp [List.modify_zero_cons]
    | succ index => rw [List.modify_succ_cons,List.map_cons,List.map_cons,ih]

/-- What one call makes of the rules and the table: it keeps the rules and adds no
    entry, it clears the table, or it allocates an entry. -/
inductive Step (self : Router) : Operation → Router → Prop
  | kept {operation : Operation} {after : Router} (rules : self.SameRules after) (cores : after.cores.Sublist self.cores) :
      Step self operation after
  | cleared {operation : Operation} {after : Router} (empty : after.nat_translations = [])
      (pools : (∀ rule, self.nat_pool_rule = some rule → self.nat_pools.contains rule.pool = true) →
        ∀ rule, after.nat_pool_rule = some rule → after.nat_pools.contains rule.pool = true) : Step self operation after
  | fresh {ingress egress : InterfaceId} {packet : Ipv4Packet} {now : SimTime} {acl : AccessListId} {pool : Option NatPool}
      {overload : Bool} {protocol : NatProtocol} {local_port outside_port global_port : UInt16} {global : Ipv4Addr}
      {after : Router} (roles : self.nat_role ingress = some .Inside ∧ self.nat_role egress = some .Outside)
      (unfixed : self.translate_static packet true = none) (rule : self.dynamic_rule egress = some (acl,pool,overload))
      (permits : self.access_list_permits acl packet.source = true)
      (transport : outbound_transport packet = some (protocol,local_port,outside_port))
      (absent : ∀ entry ∈ (self.expire_nat now).nat_translations,
        entry.inside ≠ ⟨protocol,packet.source,local_port,packet.destination,outside_port⟩)
      (allocated : ((self.expire_nat now).allocate egress pool overload packet.source local_port).1 = some (global,global_port))
      (rules : self.SameRules after)
      (cores : after.cores = (self.expire_nat now).cores ++
        [⟨protocol,packet.source,local_port,global,global_port,packet.destination,outside_port,0⟩]) :
      Step self (.nat_outbound ingress egress packet now) after

theorem apply_step (self : Router) (operation : Operation) : self.Step operation (self.apply operation) := by
  have same : ∀ operation, self.Step operation self := fun operation => .kept (.refl self) (List.Sublist.refl _)
  cases operation with
  | set_nat_role interface role =>
    simp only [apply,set_nat_role]
    split_ifs
    · exact same _
    · split
      · exact same _
      · exact .kept ⟨rfl,rfl,rfl,rfl⟩ (List.Sublist.refl _)
  | set_nat_overload access_list outside_interface =>
    simp only [apply,set_nat_overload]
    split
    · exact same _
    · split_ifs
      · exact same _
      · exact .cleared rfl (fun _ rule configured => (by cases configured))
  | add_static_nat rule =>
    simp only [apply,add_static_nat]
    split_ifs
    · exact same _
    · exact same _
    · exact same _
    · exact same _
    · exact same _
    · exact .cleared rfl id
  | set_nat_pool name pool =>
    simp only [apply,set_nat_pool]
    split_ifs
    · exact same _
    · split
      · exact same _
      · split_ifs
        · exact same _
        · refine .cleared rfl (fun exists_ rule configured => ?_)
          obtain ⟨old,present⟩ := (OrderedMap.contains_iff _ _).mp (exists_ rule configured)
          refine (OrderedMap.contains_iff _ _).mpr ?_
          simp only [clear_nat_translations,OrderedMap.get?_insert]
          split_ifs
          · exact ⟨_,rfl⟩
          · exact ⟨old,present⟩
  | set_nat_pool_rule rule =>
    simp only [apply,set_nat_pool_rule]
    split
    · exact same _
    · split_ifs with missing
      · exact same _
      · refine .cleared rfl (fun _ other configured => ?_)
        cases configured
        have present : self.nat_pools.contains rule.pool = true := by simpa using missing
        exact present
  | clear_nat_translations => exact .cleared rfl id
  | configure interfaces leases lists named => exact .kept ⟨rfl,rfl,rfl,rfl⟩ (List.Sublist.refl _)
  | nat_outbound ingress egress packet now =>
    simp only [apply]
    have outcome := self.nat_outbound_cases ingress egress packet now
    generalize self.nat_outbound ingress egress packet now = result at outcome
    cases outcome with
    | foreign roles => exact same _
    | fixed roles translates => exact .kept ⟨rfl,rfl,rfl,rfl⟩ (List.Sublist.refl _)
    | exempt roles unfixed unruled => exact same _
    | undecoded roles unfixed rule permits transport => exact .kept ⟨rfl,rfl,rfl,rfl⟩ (List.Sublist.refl _)
    | refreshed roles unfixed rule permits transport found flow rewritten rules table =>
      refine .kept rules ?_
      rw [cores,table,modify_cores]
      exact self.expire_cores now
    | exhausted roles unfixed rule permits transport absent rules table =>
      refine .kept rules ?_
      rw [cores,table]
      exact self.expire_cores now
    | fresh roles unfixed rule permits transport absent allocated rewritten rules table =>
      refine .fresh roles unfixed rule permits transport absent allocated rules ?_
      rw [cores,table,List.map_append,List.map_singleton,NatTranslation.refreshed_core]
      rfl
  | translate_nat_inbound ingress packet now =>
    simp only [apply]
    have outcome := self.translate_nat_inbound_cases ingress packet now
    generalize self.translate_nat_inbound ingress packet now = result at outcome
    cases outcome with
    | foreign role => exact same _
    | fixed role translates => exact .kept ⟨rfl,rfl,rfl,rfl⟩ (List.Sublist.refl _)
    | missed role unfixed absent rules table =>
      refine .kept rules ?_
      rw [cores,table]
      exact self.expire_cores now
    | refreshed role unfixed transport found flow rewritten rules table =>
      refine .kept rules ?_
      rw [cores,table,modify_cores]
      exact self.expire_cores now
  | nat_owns_address interface address now =>
    simp only [apply,nat_owns_address]
    split_ifs
    · exact same _
    · exact .kept ⟨rfl,rfl,rfl,rfl⟩ (self.expire_cores now)
  | show_ip_nat now => exact .kept ⟨rfl,rfl,rfl,rfl⟩ (self.expire_cores now)

/-- Whether the dynamic rule shares its addresses. -/
def overloads (self : Router) : Bool :=
  match self.nat_pool_rule with
  | some rule => rule.overload
  | none => true

/-- What holds of the table under the rules: no two entries share a flow inside; entries
    of a pool have addresses of it that no static rule has; a shared address has one
    entry to a port, none a static rule's; an address that is not shared belongs to one host. -/
structure Sound (router : Router) : Prop where
  pooled : ∀ rule, router.nat_pool_rule = some rule → ∃ pool, router.nat_pools.get? rule.pool = some pool ∧
    ∀ entry ∈ router.cores, (pool.first ≤ entry.inside_global_address ∧ entry.inside_global_address ≤ pool.last) ∧
      ∀ fixed ∈ router.static_nat.keys, fixed.global ≠ entry.inside_global_address
  inside : router.cores.Pairwise (fun first second => first.inside ≠ second.inside)
  shared : router.overloads = true →
    router.cores.Pairwise (fun first second => first.inside_global_port ≠ second.inside_global_port) ∧
    ∀ entry ∈ router.cores, ∀ protocol localAddress local_port globalAddress,
      StaticNat.Port protocol localAddress local_port globalAddress entry.inside_global_port ∉ router.static_nat.keys
  single : router.overloads = false → (∀ entry ∈ router.cores, entry.inside_global_port = entry.inside_local_port) ∧
    ∀ first ∈ router.cores, ∀ second ∈ router.cores,
      first.inside_global_address = second.inside_global_address → first.inside_local_address = second.inside_local_address

variable {after : Router}

theorem Sound.kept (sound : self.Sound) (rules : self.SameRules after) (cores : after.cores.Sublist self.cores) :
    after.Sound := by
  have overloads : after.overloads = self.overloads := by rw [Router.overloads,rules.nat_pool_rule,← Router.overloads]
  refine ⟨fun rule configured => ?_,sound.inside.sublist cores,fun shares => ?_,fun single => ?_⟩
  · rw [rules.nat_pool_rule] at configured
    rw [rules.nat_pools,rules.static_nat]
    obtain ⟨pool,present,within⟩ := sound.pooled rule configured
    exact ⟨pool,present,fun entry member => within entry (cores.subset member)⟩
  · obtain ⟨distinct,apart⟩ := sound.shared (overloads.symm.trans shares)
    rw [rules.static_nat]
    exact ⟨distinct.sublist cores,fun entry member => apart entry (cores.subset member)⟩
  · obtain ⟨ports,hosts⟩ := sound.single (overloads.symm.trans single)
    exact ⟨fun entry member => ports entry (cores.subset member),fun first isFirst second isSecond =>
      hosts first (cores.subset isFirst) second (cores.subset isSecond)⟩

theorem Sound.cleared (empty : after.nat_translations = [])
    (pools : ∀ rule, after.nat_pool_rule = some rule → after.nat_pools.contains rule.pool = true) : after.Sound := by
  have none_ : after.cores = [] := by rw [cores,empty,List.map_nil]
  refine ⟨fun rule configured => ?_,?_,fun _ => ⟨?_,?_⟩,fun _ => ⟨?_,?_⟩⟩
  · obtain ⟨pool,present⟩ := (OrderedMap.contains_iff _ _).mp (pools rule configured)
    refine ⟨pool,present,?_⟩
    rw [none_]
    exact fun entry member => absurd member List.not_mem_nil
  all_goals simp [none_]

/-- A dynamic rule is the pool rule with its pool, or the interface-overload rule. -/
theorem Sound.dynamic_rule (sound : self.Sound) {egress : InterfaceId} {acl : AccessListId} {pool : Option NatPool}
    {overload : Bool} (rule : self.dynamic_rule egress = some (acl,pool,overload)) : self.overloads = overload ∧
      ((∃ rule addresses, self.nat_pool_rule = some rule ∧ self.nat_pools.get? rule.pool = some addresses ∧
          pool = some addresses) ∨
        self.nat_pool_rule = none ∧ pool = none ∧ overload = true) := by
  unfold Router.dynamic_rule at rule
  unfold overloads
  cases configured : self.nat_pool_rule with
  | some pool_rule =>
    simp only [configured] at rule ⊢
    obtain ⟨addresses,present,-⟩ := sound.pooled pool_rule configured
    cases rule
    exact ⟨rfl,.inl ⟨pool_rule,addresses,rfl,present,present⟩⟩
  | none =>
    simp only [configured] at rule ⊢
    split at rule
    · split_ifs at rule
      cases rule
      exact ⟨rfl,.inr ⟨trivial,rfl,rfl⟩⟩
    · cases rule

theorem port_free_iff {port : UInt16} : self.port_free port = true ↔
    (∀ entry ∈ self.nat_translations, entry.inside_global_port ≠ port) ∧
      ∀ protocol localAddress local_port globalAddress,
        StaticNat.Port protocol localAddress local_port globalAddress port ∉ self.static_nat.keys := by
  simp only [port_free,Bool.and_eq_true,Bool.not_eq_true',List.any_eq_false,decide_eq_true_eq]
  refine and_congr_right (fun _ => ⟨fun unused protocol localAddress local_port globalAddress member => ?_,fun apart rule member => ?_⟩)
  · exact unused _ member (decide_eq_true rfl)
  · cases rule with
    | Address localAddress globalAddress => simp
    | Port protocol localAddress local_port globalAddress global_port =>
      simp only [decide_eq_true_eq]
      rintro rfl
      exact apart _ _ _ _ member

/-- A new entry keeps the table sound. -/
theorem Sound.fresh (sound : self.Sound) {egress : InterfaceId} {source destination : Ipv4Addr} {now : SimTime}
    {acl : AccessListId} {pool : Option NatPool} {overload : Bool} {protocol : NatProtocol}
    {local_port outside_port global_port : UInt16} {global : Ipv4Addr}
    (rule : self.dynamic_rule egress = some (acl,pool,overload))
    (absent : ∀ entry ∈ (self.expire_nat now).nat_translations,
      entry.inside ≠ ⟨protocol,source,local_port,destination,outside_port⟩)
    (allocated : ((self.expire_nat now).allocate egress pool overload source local_port).1 = some (global,global_port))
    (rules : self.SameRules after)
    (cores : after.cores = (self.expire_nat now).cores ++
      [⟨protocol,source,local_port,global,global_port,destination,outside_port,0⟩]) : after.Sound := by
  obtain ⟨shares,kind⟩ := sound.dynamic_rule rule
  have expired : (self.expire_nat now).Sound := sound.kept ⟨rfl,rfl,rfl,rfl⟩ (self.expire_cores now)
  have overloads : after.overloads = overload := by rw [← shares,Router.overloads,rules.nat_pool_rule,← Router.overloads]
  obtain ⟨-,-,fits⟩ := @allocate_spec (self.expire_nat now) egress pool overload source local_port
  obtain ⟨-,from_pool,-,free,same_port⟩ := fits global global_port allocated
  refine ⟨fun configured isRule => ?_,?_,fun shared => ?_,fun single => ?_⟩
  · rw [rules.nat_pool_rule] at isRule
    rw [rules.nat_pools,rules.static_nat]
    rcases kind with ⟨_,addresses,same,present,pooled⟩ | ⟨unruled,-,-⟩
    · rw [isRule] at same
      cases same
      obtain ⟨range,origin⟩ := pool_address_eq_some (from_pool addresses pooled)
      obtain ⟨_,again,within⟩ := expired.pooled configured isRule
      cases Option.some.inj (present.symm.trans again)
      refine ⟨addresses,present,fun entry member => ?_⟩
      rw [cores] at member
      rcases List.mem_append.mp member with old | new
      · exact within entry old
      · cases List.mem_singleton.mp new
        refine ⟨range,?_⟩
        rcases origin with ⟨host,isHost,-,same⟩ | ⟨unused,-⟩
        · have apart := (within host.core (mem_cores isHost)).2
          rw [← same]
          exact apart
        · exact unused
    · rw [isRule] at unruled
      cases unruled
  · rw [cores]
    refine List.pairwise_append.mpr ⟨expired.inside,List.pairwise_singleton _ _,fun old isOld new isNew => ?_⟩
    cases List.mem_singleton.mp isNew
    obtain ⟨entry,member,rfl⟩ := List.mem_map.mp isOld
    exact absent entry member
  · obtain ⟨unused,apart⟩ := port_free_iff.mp (free (overloads.symm.trans shared))
    obtain ⟨distinct,statics⟩ := expired.shared (shares.trans (overloads.symm.trans shared))
    rw [rules.static_nat,cores]
    refine ⟨List.pairwise_append.mpr ⟨distinct,List.pairwise_singleton _ _,fun old isOld new isNew => ?_⟩,?_⟩
    · cases List.mem_singleton.mp isNew
      obtain ⟨entry,member,rfl⟩ := List.mem_map.mp isOld
      exact unused entry member
    · intro entry member
      rcases List.mem_append.mp member with old | new
      · exact statics entry old
      · cases List.mem_singleton.mp new
        exact apart
  · have plain : overload = false := overloads.symm.trans single
    obtain ⟨ports,hosts⟩ := expired.single (shares.trans plain)
    have newcomer : ∀ old ∈ (self.expire_nat now).cores, old.inside_global_address = global → old.inside_local_address =
        source := by
      intro old isOld same
      rcases kind with ⟨_,addresses,-,-,pooled⟩ | ⟨-,-,shared⟩
      · rcases (pool_address_eq_some (from_pool addresses pooled)).2 with ⟨host,isHost,isSource,address⟩ | ⟨-,unused⟩
        · rw [← isSource]
          exact hosts old isOld host.core (mem_cores isHost) (same.trans address.symm)
        · obtain ⟨entry,member,rfl⟩ := List.mem_map.mp isOld
          exact absurd same (unused plain entry member)
      · rw [plain] at shared
        cases shared
    rw [cores]
    constructor
    · intro entry member
      rcases List.mem_append.mp member with old | new
      · exact ports entry old
      · cases List.mem_singleton.mp new
        exact same_port plain
    · intro first isFirst second isSecond same
      rcases List.mem_append.mp isFirst with old | new
      · rcases List.mem_append.mp isSecond with other | new
        · exact hosts first old second other same
        · cases List.mem_singleton.mp new
          exact newcomer first old same
      · cases List.mem_singleton.mp new
        rcases List.mem_append.mp isSecond with other | new
        · exact (newcomer second other same.symm).symm
        · cases List.mem_singleton.mp new
          rfl

theorem apply_sound (sound : self.Sound) (operation : Operation) : (self.apply operation).Sound := by
  have step := self.apply_step operation
  generalize self.apply operation = after at step
  cases step with
  | kept rules cores => exact sound.kept rules cores
  | cleared empty pools =>
    refine .cleared empty (pools (fun rule configured => ?_))
    obtain ⟨pool,present,-⟩ := sound.pooled rule configured
    exact (OrderedMap.contains_iff _ _).mpr ⟨pool,present⟩
  | fresh roles unfixed rule permits transport absent allocated rules cores =>
    exact sound.fresh rule absent allocated rules cores

theorem new_sound (device_type : DeviceType) : (new device_type).Sound :=
  .cleared rfl (fun _ configured => (by cases configured))

theorem run_sound (device_type : DeviceType) (operations : List Operation) : (run device_type operations).Sound := by
  have steps : ∀ (operations : List Operation) (self : Router), self.Sound → (operations.foldl apply self).Sound := by
    intro operations
    induction operations with
    | nil => exact fun self sound => sound
    | cons operation rest ih => exact fun self sound => ih _ (apply_sound sound operation)
  exact steps operations _ (new_sound device_type)

/-- No two entries share a flow outside. -/
theorem Sound.outside (sound : self.Sound) :
    self.cores.Pairwise (fun first second => first.outside ≠ second.outside) := by
  cases shares : self.overloads with
  | true => exact (sound.shared shares).1.imp (fun ports same => ports (congrArg Flow.port same))
  | false =>
    obtain ⟨ports,hosts⟩ := sound.single shares
    refine sound.inside.imp_of_mem (fun {first second} isFirst isSecond inside same => inside ?_)
    have address := hosts first isFirst second isSecond (congrArg Flow.address same)
    have port : first.inside_local_port = second.inside_local_port := by
      rw [← ports first isFirst,← ports second isSecond]
      exact congrArg Flow.port same
    have protocol := congrArg Flow.protocol same
    have outside := congrArg Flow.outside_address same
    have outside_port := congrArg Flow.outside_port same
    simp only [NatTranslation.outside] at protocol outside outside_port
    rw [NatTranslation.inside,NatTranslation.inside,protocol,address,port,outside,outside_port]

end Router
end Rios.Translation
