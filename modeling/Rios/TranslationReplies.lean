import Rios.TranslationSafety

/-!
# Replies to translated packets

The reply to a translated packet finds the entry of its flow, and gets the
address and port that the packet had inside.
-/

namespace Rios.Translation
open Rios.Machine Rios.Device Rios.Wire Rios.Transport
open Rios.Queue (SimTime)

/-- The time of a call. -/
def Operation.time : Operation → Option SimTime
  | .nat_outbound _ _ _ now => some now
  | .translate_nat_inbound _ _ now => some now
  | .nat_owns_address _ _ now => some now
  | .show_ip_nat now => some now
  | _ => none

/-- A call that neither clears the table nor adds a rule. -/
def Operation.flows : Operation → Prop
  | .set_nat_role _ _ => True
  | .configure _ _ _ _ => True
  | .nat_outbound _ _ _ _ => True
  | .translate_nat_inbound _ _ _ => True
  | .nat_owns_address _ _ _ => True
  | .show_ip_nat _ => True
  | _ => False

/-- The outside port of an ICMP message is zero. -/
theorem outbound_transport_icmp {packet : Ipv4Packet} {identifier outside_port : UInt16}
    (transport : outbound_transport packet = some (.Icmp,identifier,outside_port)) : outside_port = 0 := by
  unfold outbound_transport at transport
  split at transport
  · obtain ⟨echo,-,same⟩ := Option.map_eq_some_iff.mp transport
    cases same
    rfl
  · obtain ⟨udp,-,same⟩ := Option.map_eq_some_iff.mp transport
    cases same
  · obtain ⟨tcp,-,same⟩ := Option.map_eq_some_iff.mp transport
    cases same
  · cases transport

theorem mem_modify {α : Type*} {list : List α} {value : α} (member : value ∈ list) (index : Nat) (f : α → α) :
    value ∈ list.modify index f ∨ f value ∈ list.modify index f := by
  induction list generalizing index with
  | nil => cases member
  | cons head rest ih =>
    cases index with
    | zero =>
      rw [List.modify_zero_cons]
      rcases List.mem_cons.mp member with rfl | old
      · exact .inr List.mem_cons_self
      · exact .inl (List.mem_cons_of_mem _ old)
    | succ index =>
      rw [List.modify_succ_cons]
      rcases List.mem_cons.mp member with rfl | old
      · exact .inl List.mem_cons_self
      · exact (ih old index).imp (List.mem_cons_of_mem _) (List.mem_cons_of_mem _)

theorem NatTranslation.refreshed_expires_at (now : SimTime) (entry : NatTranslation) :
    (entry.refreshed now).expires_at = satAdd64 now 60000000 := by
  rw [refreshed]
  exact congrArg (satAdd64 now) (by decide)

namespace Router
variable {self : Router}

/-- The table has this entry, at least up to a deadline. -/
def Alive (self : Router) (core : NatTranslation) (deadline : SimTime) : Prop :=
  ∃ entry ∈ self.nat_translations, entry.core = core ∧ deadline ≤ entry.expires_at

variable {core : NatTranslation} {deadline now : SimTime}

theorem Alive.expire (alive : self.Alive core deadline) (early : now < deadline) :
    (self.expire_nat now).Alive core deadline := by
  obtain ⟨entry,member,same,lives⟩ := alive
  exact ⟨entry,mem_expire.mpr ⟨member,lt_of_lt_of_le early lives⟩,same,lives⟩

theorem Alive.modify {after : Router} {index : Nat} (alive : self.Alive core deadline)
    (later : deadline ≤ satAdd64 now 60000000)
    (table : after.nat_translations = self.nat_translations.modify index (·.refreshed now)) :
    after.Alive core deadline := by
  obtain ⟨entry,member,same,lives⟩ := alive
  rcases mem_modify member index (·.refreshed now) with kept | renewed
  · exact ⟨entry,by rw [table]; exact kept,same,lives⟩
  · refine ⟨entry.refreshed now,by rw [table]; exact renewed,by rw [NatTranslation.refreshed_core,same],?_⟩
    rw [NatTranslation.refreshed_expires_at]
    exact later

theorem Alive.table {after : Router} (alive : self.Alive core deadline)
    (table : ∀ entry ∈ self.nat_translations, entry ∈ after.nat_translations) : after.Alive core deadline := by
  obtain ⟨entry,member,same,lives⟩ := alive
  exact ⟨entry,table entry member,same,lives⟩

/-- Before the deadline an entry stays, whatever flows are translated. -/
theorem apply_alive (alive : self.Alive core deadline) {operation : Operation} (flows : operation.flows)
    (times : ∀ time, operation.time = some time → time < deadline ∧ deadline ≤ satAdd64 time 60000000) :
    (self.apply operation).Alive core deadline ∧ (self.apply operation).static_nat = self.static_nat := by
  cases operation with
  | set_nat_role interface role =>
    simp only [apply,set_nat_role]
    split_ifs
    · exact ⟨alive,rfl⟩
    · split
      · exact ⟨alive,rfl⟩
      · exact ⟨alive,rfl⟩
  | set_nat_overload access_list outside_interface => exact absurd flows id
  | add_static_nat rule => exact absurd flows id
  | set_nat_pool name pool => exact absurd flows id
  | set_nat_pool_rule rule => exact absurd flows id
  | clear_nat_translations => exact absurd flows id
  | configure interfaces leases lists named => exact ⟨alive,rfl⟩
  | nat_outbound ingress egress packet now =>
    obtain ⟨early,later⟩ := times now rfl
    have expired := alive.expire early
    have outcome := self.nat_outbound_cases ingress egress packet now
    simp only [apply]
    generalize self.nat_outbound ingress egress packet now = result at outcome
    cases outcome with
    | foreign roles => exact ⟨alive,rfl⟩
    | fixed roles translates => exact ⟨alive,rfl⟩
    | exempt roles unfixed unruled => exact ⟨alive,rfl⟩
    | undecoded roles unfixed rule permits transport => exact ⟨alive,rfl⟩
    | refreshed roles unfixed rule permits transport found flow rewritten rules table =>
      exact ⟨expired.modify later table,rules.static_nat⟩
    | exhausted roles unfixed rule permits transport absent rules table =>
      exact ⟨expired.table (fun entry member => table ▸ member),rules.static_nat⟩
    | fresh roles unfixed rule permits transport absent allocated rewritten rules table =>
      exact ⟨expired.table (fun entry member => table ▸ List.mem_append_left _ member),rules.static_nat⟩
  | translate_nat_inbound ingress packet now =>
    obtain ⟨early,later⟩ := times now rfl
    have expired := alive.expire early
    have outcome := self.translate_nat_inbound_cases ingress packet now
    simp only [apply]
    generalize self.translate_nat_inbound ingress packet now = result at outcome
    cases outcome with
    | foreign role => exact ⟨alive,rfl⟩
    | fixed role translates => exact ⟨alive,rfl⟩
    | missed role unfixed absent rules table =>
      exact ⟨expired.table (fun entry member => table ▸ member),rules.static_nat⟩
    | refreshed role unfixed transport found flow rewritten rules table =>
      exact ⟨expired.modify later table,rules.static_nat⟩
  | nat_owns_address interface address now =>
    simp only [apply,nat_owns_address]
    split_ifs
    · exact ⟨alive,rfl⟩
    · exact ⟨alive.expire (times now rfl).1,rfl⟩
  | show_ip_nat now => exact ⟨alive.expire (times now rfl).1,rfl⟩

theorem foldl_alive (alive : self.Alive core deadline) (sound : self.Sound) {operations : List Operation}
    (flows : ∀ operation ∈ operations, operation.flows)
    (times : ∀ operation ∈ operations, ∀ time, operation.time = some time → time < deadline ∧ deadline ≤ satAdd64 time 60000000) :
    (operations.foldl apply self).Alive core deadline ∧ (operations.foldl apply self).Sound ∧
      (operations.foldl apply self).static_nat = self.static_nat := by
  induction operations generalizing self with
  | nil => exact ⟨alive,sound,rfl⟩
  | cons operation rest ih =>
    obtain ⟨stays,fixed⟩ := apply_alive alive (flows operation List.mem_cons_self) (times operation List.mem_cons_self)
    obtain ⟨last,sound_last,same⟩ := ih stays (apply_sound sound operation)
      (fun other member => flows other (List.mem_cons_of_mem _ member))
      (fun other member => times other (List.mem_cons_of_mem _ member))
    exact ⟨last,sound_last,same.trans fixed⟩

/-- What a packet that an entry translated leaves behind. -/
theorem outbound_alive {ingress egress : InterfaceId} {packet translated : Ipv4Packet} {now : SimTime} {after : Router}
    (sent : self.nat_outbound ingress egress packet now = (.Translated,translated,after))
    (dynamic : self.translate_static packet true = none) : ∃ protocol local_port outside_port core,
      outbound_transport packet = some (protocol,local_port,outside_port) ∧
      core.inside = ⟨protocol,packet.source,local_port,packet.destination,outside_port⟩ ∧
      core.inside_global_address = translated.source ∧
      rewrite packet translated.source (some core.inside_global_port) true = some translated ∧
      after.Alive core (satAdd64 now 60000000) ∧ after.static_nat = self.static_nat := by
  have outcome := self.nat_outbound_cases ingress egress packet now
  rw [sent] at outcome
  cases outcome with
  | fixed roles translates =>
    rw [dynamic] at translates
    cases translates
  | @refreshed acl pool overload protocol local_port outside_port index entry _ _ roles unfixed rule permits transport found flow
      rewritten rules table =>
    have source : translated.source = entry.inside_global_address := by
      obtain ⟨payload,rfl⟩ := rewrite_eq_some rewritten
      rfl
    refine ⟨protocol,local_port,outside_port,entry.core,transport,flow,source.symm,?_,?_,rules.static_nat⟩
    · rw [source]
      exact rewritten
    · refine ⟨entry.refreshed now,?_,NatTranslation.refreshed_core now entry,(NatTranslation.refreshed_expires_at now entry).ge⟩
      have refreshed : (after.nat_translations)[index]? = some (entry.refreshed now) := by
        rw [table,List.getElem?_modify_eq,found,Option.map_eq_map,Option.map_some]
      exact List.mem_of_getElem? refreshed
  | @fresh acl pool overload protocol local_port outside_port global_port global _ _ roles unfixed rule permits transport absent
      allocated rewritten rules table =>
    have source : translated.source = global := by
      obtain ⟨payload,rfl⟩ := rewrite_eq_some rewritten
      rfl
    refine ⟨protocol,local_port,outside_port,⟨protocol,packet.source,local_port,global,global_port,packet.destination,
      outside_port,0⟩,transport,rfl,source.symm,?_,?_,rules.static_nat⟩
    · rw [source]
      exact rewritten
    · refine ⟨_,by rw [table]; exact List.mem_append_right _ List.mem_cons_self,NatTranslation.refreshed_core _ _,
        (NatTranslation.refreshed_expires_at _ _).ge⟩

/-- The reply to a living entry gets the inside address and port. -/
theorem inbound_alive (sound : self.Sound) {core : NatTranslation} {deadline arrival : SimTime}
    (alive : self.Alive core deadline) (early : arrival < deadline) {outside : InterfaceId} {reply : Ipv4Packet}
    (role : self.nat_role outside = some .Outside) (unfixed : self.translate_static reply false = none)
    {global_port outside_port : UInt16} {protocol : NatProtocol}
    (transport : inbound_transport reply = some (protocol,global_port,outside_port))
    (flow : core.outside = ⟨protocol,reply.destination,global_port,reply.source,outside_port⟩) :
    ∃ delivered after, self.translate_nat_inbound outside reply arrival = (true,delivered,after) ∧
      rewrite reply core.inside_local_address (some core.inside_local_port) false = some delivered := by
  obtain ⟨entry,member,same,lives⟩ := alive.expire early
  have expired : (self.expire_nat arrival).Sound := sound.kept ⟨rfl,rfl,rfl,rfl⟩ (self.expire_cores arrival)
  have outcome := self.translate_nat_inbound_cases outside reply arrival
  generalize self.translate_nat_inbound outside reply arrival = result at outcome
  cases outcome with
  | foreign other => exact absurd role other
  | fixed _ translates =>
    rw [unfixed] at translates
    cases translates
  | missed _ _ absent rules table =>
    refine absurd ?_ (absent protocol global_port outside_port transport entry member)
    rw [← flow,← same]
    rfl
  | @refreshed _ _ _ index found_entry delivered after _ _ again found found_flow rewritten rules table =>
    rw [transport] at again
    cases again
    have distinct : ((self.expire_nat arrival).cores.map (·.outside)).Nodup := List.pairwise_map.mpr expired.outside
    have found_core : found_entry.core = core :=
      List.inj_on_of_nodup_map distinct (mem_cores (List.mem_of_getElem? found)) (same ▸ mem_cores member)
        (found_flow.trans flow.symm)
    refine ⟨delivered,after,rfl,?_⟩
    rw [← found_core]
    exact rewritten

/-- No two entries have the same flow outside, and the reply to a packet that an entry
    translated is translated back, whatever flows are translated in between: before
    sixty seconds are over, and before the last moment of virtual time. -/
theorem replies_inverted (device_type : DeviceType) (operations : List Operation) :
    (∀ first ∈ (run device_type operations).nat_translations, ∀ second ∈ (run device_type operations).nat_translations,
      first.outside = second.outside → first.inside = second.inside) ∧
    ∀ (ingress egress outside : InterfaceId) (packet translated reply : Ipv4Packet) (now arrival : SimTime) (after : Router)
      (between : List Operation) (transport : NatProtocol × UInt16 × UInt16),
      (run device_type operations).nat_outbound ingress egress packet now = (.Translated,translated,after) →
      (run device_type operations).translate_static packet true = none →
      (∀ operation ∈ between, operation.flows ∧ ∀ time, operation.time = some time → now ≤ time ∧ time ≤ arrival) →
      now ≤ arrival → arrival.toNat < now.toNat + 60000000 → arrival.toNat < 2 ^ 64 - 1 →
      (between.foldl apply after).nat_role outside = some .Outside →
      reply.source = packet.destination → reply.destination = translated.source →
      outbound_transport translated = some transport → inbound_transport reply = some transport →
      (∀ rule ∈ (run device_type operations).static_nat.keys,
        rule.matches translated.source (some transport) false = false) →
      ∃ delivered last, (between.foldl apply after).translate_nat_inbound outside reply arrival = (true,delivered,last) ∧
        delivered.source = reply.source ∧ delivered.destination = packet.source ∧
        (∀ other, inbound_transport delivered = some other → outbound_transport packet = some other) ∧
        (reply.payload.length ≤ 65515 → inbound_transport delivered = outbound_transport packet) := by
  have sound := run_sound device_type operations
  generalize run device_type operations = self at sound ⊢
  constructor
  · intro first isFirst second isSecond same
    have distinct : (self.cores.map (·.outside)).Nodup := List.pairwise_map.mpr sound.outside
    have core : first.core = second.core :=
      List.inj_on_of_nodup_map distinct (mem_cores isFirst) (mem_cores isSecond) same
    have inside : first.core.inside = second.core.inside := by rw [core]
    exact inside
  intro ingress egress outside packet translated reply now arrival after between transport sent dynamic flows order soon early
    role source destination sends receives unfixed
  have sound_after : after.Sound := by
    have applied := apply_sound sound (.nat_outbound ingress egress packet now)
    rw [apply,sent] at applied
    exact applied
  obtain ⟨protocol,local_port,outside_port,core,inside,flow,address,rewritten,alive,statics⟩ := outbound_alive sent dynamic
  have deadline : ∀ time, now ≤ time → time ≤ arrival → time < satAdd64 now 60000000 ∧
      satAdd64 now 60000000 ≤ satAdd64 time 60000000 := by
    intro time above below
    rw [UInt64.le_iff_toNat_le] at above below
    have sixty : (60000000 : UInt64).toNat = 60000000 := rfl
    rw [UInt64.lt_iff_toNat_lt,UInt64.le_iff_toNat_le,satAdd64_toNat,satAdd64_toNat,sixty]
    omega
  obtain ⟨stays,sound_last,same⟩ := foldl_alive alive sound_after (fun operation member => (flows operation member).1)
    (fun operation member time isTime =>
      deadline time ((flows operation member).2 time isTime).1 ((flows operation member).2 time isTime).2)
  generalize between.foldl apply after = last at stays sound_last same role ⊢
  -- The transport of the translated packet is the flow of the entry outside.
  obtain ⟨original,decodes,again,-⟩ := rewrite_transport rewritten
  rw [inside] at decodes
  cases decodes
  have sends_port := again transport sends
  have icmp : protocol = .Icmp → outside_port = 0 := by
    rintro rfl
    exact outbound_transport_icmp inside
  have entry_protocol : core.protocol = protocol := congrArg Flow.protocol flow
  have entry_source : core.inside_local_address = packet.source := congrArg Flow.address flow
  have entry_port : core.inside_local_port = local_port := congrArg Flow.port flow
  have entry_outside : core.outside_global_address = packet.destination := congrArg Flow.outside_address flow
  have entry_outside_port : core.outside_global_port = outside_port := congrArg Flow.outside_port flow
  have transport_eq : transport = (protocol,core.inside_global_port,outside_port) := by
    rw [sends_port,moved]
    by_cases echo : protocol = .Icmp
    · rw [if_pos echo,icmp echo,echo]
    · rw [if_neg echo,if_pos rfl]
  rw [transport_eq] at receives unfixed
  have outside_flow : core.outside = ⟨protocol,reply.destination,core.inside_global_port,reply.source,outside_port⟩ := by
    rw [NatTranslation.outside,entry_protocol,address,entry_outside,entry_outside_port,source,destination]
  have missing : last.translate_static reply false = none := by
    have none_ : last.static_rule reply false = none := by
      rw [static_rule,same,statics]
      refine List.find?_eq_none.mpr (fun rule member => ?_)
      simp only [Bool.false_eq_true,if_false,receives,destination]
      rw [unfixed rule member]
      decide
    rw [translate_static,none_,Option.bind_none]
  obtain ⟨delivered,final,delivers,back⟩ := inbound_alive sound_last stays (deadline arrival order (le_refl _)).1 role missing
    receives outside_flow
  refine ⟨delivered,final,delivers,?_,?_,?_⟩
  · obtain ⟨payload,rfl⟩ := rewrite_eq_some back
    rfl
  · obtain ⟨payload,rfl⟩ := rewrite_eq_some back
    exact entry_source
  -- The transport of the delivered packet, seen inside, is the one of the first packet.
  obtain ⟨answer,reads,later,sure⟩ := rewrite_transport back
  have restored : swapped (moved core.inside_local_port false answer) = (protocol,local_port,outside_port) := by
    obtain ⟨kind,first,second⟩ := answer
    rw [inbound_transport,reads,Option.map_some,swapped] at receives
    by_cases echo : kind = .Icmp
    · rw [if_pos echo] at receives
      cases receives
      rw [moved,if_pos echo,entry_port]
      simp [swapped,echo]
    · rw [if_neg echo] at receives
      cases receives
      rw [moved,if_neg echo,entry_port]
      simp [swapped,echo]
  rw [inside]
  constructor
  · intro other arrives
    obtain ⟨seen,isSeen,rfl⟩ := Option.map_eq_some_iff.mp arrives
    rw [later seen isSeen]
    exact congrArg some restored.symm
  · intro fits
    rw [inbound_transport,sure fits]
    exact congrArg some restored

/-- A datagram of another host with the same ports, its reply, and a look at the table. -/
def meanwhile : List Operation :=
  [.nat_outbound 1 2 ⟨0,0x0a000003,0xcb007102,64,.Udp,[4,210,0,53,0,9,0,0,3]⟩ 400,
    .translate_nat_inbound 2 ⟨0,0xcb007102,0xcb007101,64,.Udp,[0,53,39,17,0,9,0,0,4]⟩ 600,.show_ip_nat 800]

/-- A datagram from port 1234 leaves from port 10000, and the reply comes back to port 1234 although another host uses the
    same ports meanwhile. -/
theorem replies_inverted_meanwhile : ∃ delivered last,
    (meanwhile.foldl apply ((run .Router (setup [.set_nat_overload 1 2])).nat_outbound 1 2
      ⟨0,0x0a000002,0xcb007102,64,.Udp,[4,210,0,53,0,9,0,0,1]⟩ 0).2.2).translate_nat_inbound 2
        ⟨0,0xcb007102,0xcb007101,64,.Udp,[0,53,39,16,0,9,0,0,2]⟩ 1000 = (true,delivered,last) ∧
      delivered.destination = 0x0a000002 ∧ inbound_transport delivered = some (.Udp,1234,53) := by
  have outcome : ((run .Router (setup [.set_nat_overload 1 2])).nat_outbound 1 2
      ⟨0,0x0a000002,0xcb007102,64,.Udp,[4,210,0,53,0,9,0,0,1]⟩ 0).1 = .Translated := by decide +kernel
  have flows : ∀ operation ∈ meanwhile, operation.flows ∧ ∀ time, operation.time = some time → 0 ≤ time ∧ time ≤ 1000 := by
    simp only [meanwhile,List.forall_mem_cons,Operation.flows,Operation.time,Option.some.injEq,forall_eq',List.not_mem_nil,
      IsEmpty.forall_iff,implies_true,and_true,true_and]
    decide
  obtain ⟨delivered,last,delivers,-,destination,-,transport⟩ :=
    (replies_inverted .Router (setup [.set_nat_overload 1 2])).2 1 2 2
      ⟨0,0x0a000002,0xcb007102,64,.Udp,[4,210,0,53,0,9,0,0,1]⟩ _
      ⟨0,0xcb007102,0xcb007101,64,.Udp,[0,53,39,16,0,9,0,0,2]⟩ 0 1000 _ meanwhile (.Udp,10000,53) (Prod.ext outcome rfl)
      (by decide +kernel) flows (by decide) (by decide) (by decide)
      (by decide +kernel) rfl (by decide +kernel) (by decide +kernel) (by decide +kernel) (by decide +kernel)
  exact ⟨delivered,last,delivers,destination,(transport (by decide)).trans (by decide +kernel)⟩

/-- In the last moment of virtual time the entry has expired, although it was made just before. -/
theorem replies_inverted_last_moment :
    ¬ ∀ (device_type : DeviceType) (operations : List Operation) (ingress egress outside : InterfaceId)
      (packet reply : Ipv4Packet) (now arrival : SimTime) (transport : NatProtocol × UInt16 × UInt16),
      ((run device_type operations).nat_outbound ingress egress packet now).1 = .Translated →
      (run device_type operations).translate_static packet true = none →
      now ≤ arrival → arrival.toNat < now.toNat + 60000000 →
      ((run device_type operations).nat_outbound ingress egress packet now).2.2.nat_role outside = some .Outside →
      reply.source = packet.destination →
      reply.destination = ((run device_type operations).nat_outbound ingress egress packet now).2.1.source →
      outbound_transport ((run device_type operations).nat_outbound ingress egress packet now).2.1 = some transport →
      inbound_transport reply = some transport → (run device_type operations).static_nat.keys = [] →
      (((run device_type operations).nat_outbound ingress egress packet now).2.2.translate_nat_inbound
        outside reply arrival).1 = true := by
  intro inverted
  have delivered := inverted .Router (setup [.set_nat_overload 1 2]) 1 2 2
    ⟨0,0x0a000002,0xcb007102,64,.Udp,[4,210,0,53,0,9,0,0,1]⟩ ⟨0,0xcb007102,0xcb007101,64,.Udp,[0,53,39,16,0,9,0,0,2]⟩
    0xfffffffffffffffe 0xffffffffffffffff (.Udp,10000,53) (by decide +kernel) (by decide +kernel) (by decide) (by decide)
    (by decide +kernel) rfl (by decide +kernel) (by decide +kernel) (by decide +kernel) (by decide +kernel)
  exact absurd delivered (by decide +kernel)

end Router
end Rios.Translation
