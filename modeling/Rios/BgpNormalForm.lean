import Rios.Bgp

/-!
# The normal form of BGP messages

Every message that decodes can be encoded again, to no more bytes than it came
in, and decodes to the same value. For each kind of item there is the string it
is written as, the condition under which the encoder accepts it, and the rule
by which the decoder reads it back; the decoding loops then keep both the
condition and a bound on the length.
-/

namespace Rios.Bgp
open Rios.Device Rios.Wire

/-! ### Prefixes -/

/-- What is written for a prefix. -/
def prefixWire (network : Ipv4Network) : List UInt8 :=
  network.prefix_len :: (octets network.address).take (prefix_bytes network.prefix_len)

theorem prefix_bytes_le {prefix_len : UInt8} (valid : prefix_len ≤ 32) : prefix_bytes prefix_len ≤ 4 := by
  have := UInt8.le_iff_toNat_le.mp valid
  unfold prefix_bytes
  simp only [UInt8.toNat_ofNat] at this
  omega

theorem prefixWire_length (network : Ipv4Network) :
    (prefixWire network).length = 1 + prefix_bytes network.prefix_len := by
  have := prefix_bytes_le network.valid
  simp only [prefixWire,octets,List.length_cons,List.length_take,be32_length]
  omega

/-- The bytes that a prefix leaves out are zero. -/
theorem padded_take (network : Ipv4Network) :
    padded ((octets network.address).take (prefix_bytes network.prefix_len)) = network.address := by
  have within : network.prefix_len.toNat ≤ 32 := UInt8.le_iff_toNat_le.mp network.valid
  -- the address is a multiple of the size of its host part, hence of the omitted bytes
  have multiple : 2 ^ (32 - 8 * prefix_bytes network.prefix_len) ∣ network.address.toNat := by
    have exactly := mask_of_toNat network.address network.valid
    rw [network.normal] at exactly
    rw [exactly]
    refine Dvd.dvd.mul_left (Nat.pow_dvd_pow 2 ?_) _
    unfold prefix_bytes
    omega
  have small := network.address.toNat_lt
  have few := prefix_bytes_le network.valid
  generalize prefix_bytes network.prefix_len = count at multiple few
  apply UInt32.toNat.inj
  interval_cases count <;>
    simp only [padded,octets,be32,u32_at,from_be32_toNat,List.take_succ_cons,List.take_zero,List.getD_cons_zero,
      List.getD_cons_succ,List.getD_nil,UInt8.toNat_ofNat'] at multiple ⊢ <;>
    norm_num at multiple ⊢ <;> omega

theorem encode_prefixes_eq {prefixes : List Ipv4Network} (fits : (prefixes.flatMap prefixWire).length ≤ BGP_MAX_MESSAGE) :
    encode_prefixes prefixes = .ok (prefixes.flatMap prefixWire) := by
  have write : ∀ out, ∀ network ∈ prefixes, out.length + (prefixWire network).length ≤ BGP_MAX_MESSAGE →
      encode_prefix out network = .ok (out ++ prefixWire network) := by
    intro out network _ room
    rw [prefixWire_length] at room
    rw [ encode_prefix,if_neg (by omega)]
    rfl
  exact foldlM_wire write (by simpa using fits)

theorem decode_prefix_wire (out : List Ipv4Network) (network : Ipv4Network) (rest : List UInt8) :
    decode_prefix out (prefixWire network ++ rest) = .ok (out ++ [network],(prefixWire network).length - 1) := by
  have sliced : slice? (prefixWire network ++ rest) 1 (prefix_bytes network.prefix_len) =
      some ((octets network.address).take (prefix_bytes network.prefix_len)) := by
    have length := prefixWire_length network
    simp only [prefixWire,List.length_cons] at length
    exact slice?_append [network.prefix_len] _ rest rfl (by omega)
  have first : (prefixWire network ++ rest).getD 0 0 = network.prefix_len := rfl
  have narrow : ¬ 32 < network.prefix_len := not_lt.mpr network.valid
  have again : Ipv4Network.new network.address network.prefix_len = .ok network := by
    rw [Ipv4Network.new,dif_pos network.valid]
    exact congrArg Except.ok (Ipv4Network.ext_iff.mpr ⟨network.normal,rfl⟩)
  rw [ decode_prefix,first,if_neg narrow]
  simp only [sliced,padded_take network,again,prefixWire_length]
  rw [Nat.add_sub_cancel_left]

theorem decode_prefixes_wire (prefixes : List Ipv4Network) :
    decode_prefixes (prefixes.flatMap prefixWire) = .ok prefixes :=
  while_nonempty_flatMap (fun out network _ rest => decode_prefix_wire out network rest) (fun _ => List.cons_ne_nil _ _) []

/-- Prefixes are written to as many bytes as they were read from. -/
theorem decode_prefixes_length {bytes : List UInt8} {prefixes : List Ipv4Network}
    (decoded : decode_prefixes bytes = .ok prefixes) : (prefixes.flatMap prefixWire).length = bytes.length := by
  have step : ∀ out head tail next skip, decode_prefix out (head :: tail) = .ok (next,skip) →
      ∃ network, True ∧ next = out ++ [network] ∧ skip ≤ tail.length ∧ (prefixWire network).length = skip + 1 := by
    intro out head tail next skip read
    unfold decode_prefix at read
    simp only [List.getD_cons_zero] at read
    split_ifs at read
    split at read
    · cases read
    · rename_i value sliced
      have inside := (slice?_eq_some sliced).1
      rw [List.length_cons] at inside
      split at read
      · cases read
      · rename_i network created
        cases read
        have narrow : network.prefix_len = head := by
          unfold Ipv4Network.new at created
          split_ifs at created
          cases created
          rfl
        refine ⟨network,trivial,rfl,by omega,?_⟩
        rw [prefixWire_length,narrow]
        omega
  simpa using (while_nonempty_collects step decoded (by simp)).2

/-! ### Capabilities -/

/-- What is written for a capability. -/
def capabilityWire (capability : BgpCapability) : List UInt8 :=
  capability.parts.1 :: UInt8.ofNat capability.parts.2.length :: capability.parts.2

/-- A capability whose bytes name its kind. -/
def BgpCapability.Canonical (self : BgpCapability) : Prop :=
  self.parts.2.length ≤ 255 ∧ ∀ code value, self = .Unknown code value → code ≠ 1 ∧ code ≠ 2 ∧ code ≠ 65

theorem capabilityWire_length (capability : BgpCapability) :
    (capabilityWire capability).length = 2 + capability.parts.2.length := by
  simp only [capabilityWire,List.length_cons]
  omega

theorem encode_capabilities_eq {capabilities : List BgpCapability}
    (fits : (capabilities.flatMap capabilityWire).length ≤ 253) :
    capabilities.foldlM BgpCapability.encode [] = .ok (capabilities.flatMap capabilityWire) := by
  have write : ∀ out, ∀ capability ∈ capabilities, out.length + (capabilityWire capability).length ≤ 253 →
      BgpCapability.encode out capability = .ok (out ++ capabilityWire capability) := by
    intro out capability _ room
    rw [capabilityWire_length] at room
    have accepted : (decide (255 < capability.parts.2.length) ||
        decide (253 < out.length + 2 + capability.parts.2.length)) = false := by
      simp only [Bool.or_eq_false_iff,decide_eq_false_iff_not]
      omega
    simp only [BgpCapability.encode,accepted]
    rfl
  exact foldlM_wire write (by simpa using fits)

theorem decode_capability_wire {capability : BgpCapability} (canonical : capability.Canonical)
    (caps : List BgpCapability) (rest : List UInt8) :
    BgpCapability.decode caps (capabilityWire capability ++ rest) =
      .ok (caps ++ [capability],(capabilityWire capability).length - 1) := by
  obtain ⟨short,known⟩ := canonical
  have size : ((capabilityWire capability ++ rest).getD 1 0).toNat = capability.parts.2.length := by
    show (UInt8.ofNat capability.parts.2.length).toNat = _
    rw [UInt8.toNat_ofNat']
    omega
  have code : (capabilityWire capability ++ rest).getD 0 0 = capability.parts.1 := rfl
  have sliced : slice? (capabilityWire capability ++ rest) 2 capability.parts.2.length = some capability.parts.2 :=
    slice?_append [capability.parts.1,UInt8.ofNat capability.parts.2.length] _ rest rfl rfl
  have long : ¬ (capabilityWire capability ++ rest).length < 2 := by
    rw [List.length_append,capabilityWire_length]
    omega
  have total : 1 + capability.parts.2.length = (capabilityWire capability).length - 1 := by
    rw [capabilityWire_length]
    omega
  rw [BgpCapability.decode,if_neg long]
  simp only [size,sliced,code]
  rw [← total]
  cases capability with
  | FourOctetAs asn =>
    have value := u32_at_be32 asn []
    rw [List.append_nil] at value
    simp [BgpCapability.parts,value]
  | Multiprotocol afi safi =>
    have value := u16_at_be16 afi [0,safi]
    simp [BgpCapability.parts,value]
    rfl
  | RouteRefresh => simp [BgpCapability.parts]
  | Unknown unknown value =>
    obtain ⟨one,two,four⟩ := known unknown value rfl
    simp [BgpCapability.parts,one,two,four]

/-- Reading one capability. -/
theorem decode_capability_correct {caps next : List BgpCapability} {head : UInt8} {tail : List UInt8} {skip : Nat}
    (read : BgpCapability.decode caps (head :: tail) = .ok (next,skip)) :
    ∃ capability : BgpCapability, capability.Canonical ∧ next = caps ++ [capability] ∧ skip ≤ tail.length ∧
      (capabilityWire capability).length = skip + 1 := by
  unfold BgpCapability.decode at read
  simp only [List.getD_cons_zero,List.getD_cons_succ] at read
  rw [if_neg (fun short => by rw [if_pos short] at read; cases read)] at read
  split at read
  · cases read
  · rename_i content sliced
    obtain ⟨inside,-,length⟩ := slice?_eq_some sliced
    rw [List.length_cons] at inside
    have byte := (tail.getD 0 0).toNat_lt
    split_ifs at read with four multi refresh reserved
    · cases read
      refine ⟨_,⟨by simp [BgpCapability.parts],by simp⟩,rfl,by omega,?_⟩
      rw [four.2]
      rfl
    · cases read
      refine ⟨_,⟨by simp [BgpCapability.parts],by simp⟩,rfl,by omega,?_⟩
      rw [multi.2]
      rfl
    · cases read
      refine ⟨_,⟨by simp [BgpCapability.parts],by simp⟩,rfl,by omega,?_⟩
      rw [refresh.2]
      rfl
    · cases read
      obtain ⟨one,others⟩ := not_or.mp reserved
      obtain ⟨two,sixtyFive⟩ := not_or.mp others
      refine ⟨.Unknown head content,⟨by simp only [BgpCapability.parts]; omega,?_⟩,rfl,by omega,?_⟩
      · rintro code value same
        cases same
        exact ⟨one,two,sixtyFive⟩
      · simp only [capabilityWire,BgpCapability.parts,List.length_cons]
        omega

/-- What the parameters of an OPEN leave behind: canonical capabilities, with
    room for the header of one parameter. -/
theorem decode_parameters_correct {area : List UInt8} {caps : List BgpCapability}
    (decoded : while_nonempty decode_parameter [] area = .ok caps) :
    (∀ capability ∈ caps, capability.Canonical) ∧
      (caps = [] ∨ (caps.flatMap capabilityWire).length + 2 ≤ area.length) := by
  have step : ∀ (collected : List BgpCapability) n head tail next skip,
      ((∀ capability ∈ collected, capability.Canonical) ∧
        (collected = [] ∨ (collected.flatMap capabilityWire).length + 2 ≤ n)) →
      decode_parameter collected (head :: tail) = .ok (next,skip) →
        skip ≤ tail.length ∧ (∀ capability ∈ next, capability.Canonical) ∧
          (next = [] ∨ (next.flatMap capabilityWire).length + 2 ≤ n + skip + 1) := by
    intro collected n head tail next skip invariant read
    unfold decode_parameter at read
    simp only [List.getD_cons_zero,List.getD_cons_succ] at read
    rw [if_neg (fun short => by rw [if_pos short] at read; cases read)] at read
    split at read
    · cases read
    · rename_i value sliced
      obtain ⟨inside,-,length⟩ := slice?_eq_some sliced
      rw [List.length_cons] at inside
      rw [if_neg (fun other => by rw [if_pos other] at read; cases read)] at read
      split at read
      · cases read
      · rename_i caps inner
        cases read
        -- the capabilities of one parameter take exactly its bytes
        obtain ⟨canonical,size⟩ :=
          while_nonempty_collects (fun _ _ _ _ _ one => decode_capability_correct one) inner invariant.1
        refine ⟨by omega,canonical,?_⟩
        rcases invariant.2 with none | some
        · subst none
          rw [List.flatMap_nil,List.length_nil] at size
          exact .inr (by omega)
        · exact .inr (by omega)
  simpa using while_nonempty_rule (n := 0) step ⟨by simp,.inl rfl⟩ decoded

/-! ### Paths -/

/-- The bytes of one AS number. -/
def memberWire (four : Bool) (asn : UInt32) : List UInt8 := if four then be32 asn else be16 asn.toUInt16

/-- What is written for a segment. -/
def segmentWire (four : Bool) (segment : AsPathSegment) : List UInt8 :=
  segment.kind :: UInt8.ofNat segment.members.length :: segment.members.flatMap (memberWire four)

/-- A segment that fits its one-byte count and the width of its numbers. -/
structure CanonicalSegment (four : Bool) (segment : AsPathSegment) : Prop where
  nonempty : segment.members ≠ []
  short : segment.members.length ≤ 255
  positive : (0 : UInt32) ∉ segment.members
  narrow : four = false → ∀ asn ∈ segment.members, asn.toNat < 2 ^ 16

theorem memberWire_length (four : Bool) (asn : UInt32) : (memberWire four asn).length = width four := by
  cases four <;> rfl

theorem members_length (four : Bool) (members : List UInt32) :
    (members.flatMap (memberWire four)).length = members.length * width four := by
  induction members with
  | nil => simp
  | cons asn rest ih =>
    rw [List.flatMap_cons,List.length_append,ih,memberWire_length,List.length_cons]
    ring

theorem segmentWire_length (four : Bool) (segment : AsPathSegment) :
    (segmentWire four segment).length = 2 + segment.members.length * width four := by
  rw [segmentWire,List.length_cons,List.length_cons,members_length]
  omega

variable {four : Bool}

theorem encode_segment_eq {segment : AsPathSegment} (canonical : CanonicalSegment four segment) {path : List UInt8}
    (room : path.length + (segmentWire four segment).length ≤ BGP_MAX_MESSAGE) :
    encode_segment four path segment = .ok (path ++ segmentWire four segment) := by
  have write : ∀ out, ∀ asn ∈ segment.members, out.length + (memberWire four asn).length ≤
      BGP_MAX_MESSAGE → encode_member four out asn = .ok (out ++ memberWire four asn) := by
    intro out asn member _
    have nonzero : asn ≠ 0 := fun zero => canonical.positive (zero ▸ member)
    unfold encode_member memberWire
    cases four with
    | true => simp [nonzero]
    | false =>
      have small := canonical.narrow rfl asn member
      rw [if_neg nonzero,if_neg (by simp),if_pos small]
      rfl
  rw [segmentWire_length] at room
  have accepted : (segment.members.isEmpty || decide (255 < segment.members.length)) = false := by
    have few := canonical.short
    simpa [canonical.nonempty] using few
  have fits : ¬ BGP_MAX_MESSAGE < path.length + 2 + segment.members.length * width four := by omega
  simp only [encode_segment,accepted,fits,if_false,Bool.false_eq_true]
  rw [foldlM_wire write (by
    rw [List.length_append,members_length]
    simp only [List.length_cons,List.length_nil]
    omega)]
  simp [segmentWire]

theorem decode_members_wire {members : List UInt32} (narrow : four = false → ∀ asn ∈ members, asn.toNat < 2 ^ 16) :
    decode_members four (members.flatMap (memberWire four)) = members := by
  cases four with
  | true => exact chunks32_flatMap members
  | false =>
    have halves : members.flatMap (memberWire false) = (members.map (·.toUInt16)).flatMap be16 := by
      rw [List.flatMap_map]
      rfl
    have same : ∀ asn ∈ members, asn.toUInt16.toUInt32 = asn := by
      intro asn member
      have small := narrow rfl asn member
      apply UInt32.toNat.inj
      simp only [UInt16.toNat_toUInt32,UInt32.toNat_toUInt16]
      omega
    rw [decode_members,if_neg (by simp),halves,chunks16_flatMap,List.map_map]
    exact (List.map_congr_left same).trans (List.map_id members)

/-- Reading the bytes of a segment keeps count and width. -/
theorem decode_members_correct {value : List UInt8} {count : Nat} (length : value.length = count * width four) :
    (decode_members four value).length = count ∧ (four = false → ∀ asn ∈ decode_members four value, asn.toNat < 2 ^ 16) := by
  cases four with
  | true =>
    refine ⟨?_,by simp⟩
    rw [decode_members,if_pos rfl,chunks32_length,length,width,if_pos rfl,Nat.mul_div_cancel _ (by norm_num)]
  | false =>
    refine ⟨?_,fun _ asn member => ?_⟩
    · rw [decode_members,if_neg (by simp),List.length_map,chunks16_length,length,width,if_neg (by simp),
        Nat.mul_div_cancel _ (by norm_num)]
    · rw [decode_members,if_neg (by simp)] at member
      obtain ⟨half,-,rfl⟩ := List.mem_map.mp member
      rw [UInt16.toNat_toUInt32]
      exact half.toNat_lt

theorem decode_segment_wire {segment : AsPathSegment} (canonical : CanonicalSegment four segment)
    (segments : List AsPathSegment) (rest : List UInt8) :
    decode_segment four segments (segmentWire four segment ++ rest) =
      .ok (segments ++ [segment],(segmentWire four segment).length - 1) := by
  have few := canonical.short
  have some : 0 < segment.members.length := List.length_pos_iff.mpr canonical.nonempty
  have count : ((segmentWire four segment ++ rest).getD 1 0) = UInt8.ofNat segment.members.length := rfl
  have kind : (segmentWire four segment ++ rest).getD 0 0 = segment.kind := rfl
  have number : (UInt8.ofNat segment.members.length).toNat = segment.members.length := by
    rw [UInt8.toNat_ofNat']
    omega
  have sliced : slice? (segmentWire four segment ++ rest) 2 (segment.members.length * width four) =
      .some (segment.members.flatMap (memberWire four)) :=
    slice?_append [segment.kind,UInt8.ofNat segment.members.length] _ rest rfl (members_length four segment.members)
  have nonzero : UInt8.ofNat segment.members.length ≠ 0 := by
    intro zero
    rw [zero] at number
    simp at number
    omega
  have long : ¬ (segmentWire four segment ++ rest).length < 2 := by
    rw [List.length_append,segmentWire_length]
    omega
  have known : (segment.kind ≠ 1 && segment.kind ≠ 2) = false := by cases segment <;> rfl
  have members := decode_members_wire canonical.narrow
  have total : 1 + segment.members.length * width four = (segmentWire four segment).length - 1 := by
    rw [segmentWire_length]
    omega
  have positive : segment.members.contains 0 = false := by simpa using canonical.positive
  simp only [decode_segment,count,kind,number,long,nonzero,known,sliced,members,positive,decide_false,Bool.or_false,
    Bool.false_eq_true,if_false]
  rw [← total]
  cases segment with
  | Sequence members => rfl
  | Set members => rfl

/-- Reading one segment. -/
theorem decode_segment_correct {segments next : List AsPathSegment} {head : UInt8} {tail : List UInt8} {skip : Nat}
    (read : decode_segment four segments (head :: tail) = .ok (next,skip)) :
    ∃ segment : AsPathSegment, CanonicalSegment four segment ∧ next = segments ++ [segment] ∧ skip ≤ tail.length ∧
      (segmentWire four segment).length = skip + 1 := by
  unfold decode_segment at read
  simp only [List.getD_cons_zero,List.getD_cons_succ] at read
  split at read
  · cases read
  · rename_i header
    simp only [Bool.or_eq_true,decide_eq_true_eq,not_or] at header
    split at read
    · cases read
    · rename_i value sliced
      obtain ⟨inside,-,length⟩ := slice?_eq_some sliced
      rw [List.length_cons] at inside
      obtain ⟨count,narrow⟩ := decode_members_correct length
      generalize decode_members four value = members at count narrow read
      split at read
      · cases read
      · rename_i positive
        cases read
        have byte := (tail.getD 0 0).toNat_lt
        have some : 0 < (tail.getD 0 0).toNat := by
          rcases Nat.eq_zero_or_pos (tail.getD 0 0).toNat with zero | positive
          · exact absurd (UInt8.toNat.inj (by simpa using zero)) header.1.2
          · exact positive
        have same : (if head = 1 then AsPathSegment.Set members else .Sequence members).members = members := by
          split_ifs <;> rfl
        refine ⟨_,⟨?_,?_,?_,?_⟩,rfl,by omega,?_⟩
        · rw [same]
          exact List.length_pos_iff.mp (by omega)
        · rw [same]
          omega
        · rw [same]
          simpa using positive
        · rw [same]
          exact narrow
        · rw [segmentWire_length,same,count]
          omega

/-- A decoded path is canonical and is written to as many bytes. -/
theorem decode_path_correct {bytes : List UInt8} {path : List AsPathSegment}
    (decoded : decode_path bytes four = .ok path) :
    (∀ segment ∈ path, CanonicalSegment four segment) ∧ (path.flatMap (segmentWire four)).length = bytes.length := by
  simpa using while_nonempty_collects (fun _ _ _ _ _ read => decode_segment_correct read) decoded (by simp)

theorem decode_path_wire {path : List AsPathSegment} (canonical : ∀ segment ∈ path, CanonicalSegment four segment) :
    decode_path (path.flatMap (segmentWire four)) four = .ok path :=
  while_nonempty_flatMap (fun before segment member rest => decode_segment_wire (canonical segment member) before rest)
    (fun _ => List.cons_ne_nil _ _) []

/-! ### Attributes -/

/-- What is written for an attribute, given in the raw form of an unknown one. -/
def attributeWire (raw : BgpUnknownAttribute) : List UInt8 :=
  ((raw.flags &&& 0xe0) ||| (if 255 < raw.value.length then 0x10 else 0)) :: raw.code ::
    ((if 255 < raw.value.length then be16 (UInt16.ofNat raw.value.length) else [UInt8.ofNat raw.value.length]) ++ raw.value)

theorem attributeWire_length (raw : BgpUnknownAttribute) :
    (attributeWire raw).length = raw.value.length + (if 255 < raw.value.length then 4 else 3) := by
  unfold attributeWire
  split_ifs <;> simp only [List.length_cons,List.length_append,be16_length,List.length_nil] <;> omega

theorem push_attribute_eq {out : List UInt8} {flags code : UInt8} {value : List UInt8}
    (room : out.length + (attributeWire ⟨flags,code,value⟩).length ≤ BGP_MAX_MESSAGE) :
    push_attribute out flags code value = .ok (out ++ attributeWire ⟨flags,code,value⟩) := by
  rw [attributeWire_length,← Nat.add_assoc] at room
  rw [push_attribute,if_neg (not_lt.mpr room)]
  rfl

/-- The category that a known code asks for, and the meaning of the partial bit. -/
def FlagsAllowed (flags code : UInt8) : Prop :=
  (∀ category ∈ BgpAttributes.expected code, flags &&& 0xc0 = category) ∧
    (flags &&& 0x20 ≠ 0 → flags &&& 0xc0 = 0xc0)

/-- The bits that the length bit leaves alone. -/
theorem written_flags : ∀ flags : UInt8, ∀ extended : Bool,
    let written := (flags &&& 0xe0) ||| (if extended then 0x10 else 0)
    (written &&& 0x10 ≠ 0 ↔ extended = true) ∧ written &&& 0xc0 = flags &&& 0xc0 ∧ written &&& 0x20 = flags &&& 0x20 ∧
      written &&& 0x80 = flags &&& 0x80 ∧ written &&& 0xe0 = flags &&& 0xe0 := by
  have all : ∀ n < 256, ∀ extended : Bool,
      let written := (UInt8.ofNat n &&& 0xe0) ||| (if extended then 0x10 else 0)
      (written &&& 0x10 ≠ 0 ↔ extended = true) ∧ written &&& 0xc0 = UInt8.ofNat n &&& 0xc0 ∧
        written &&& 0x20 = UInt8.ofNat n &&& 0x20 ∧ written &&& 0x80 = UInt8.ofNat n &&& 0x80 ∧
        written &&& 0xe0 = UInt8.ofNat n &&& 0xe0 := by decide +kernel
  intro flags extended
  have one := all flags.toNat flags.toNat_lt extended
  rwa [UInt8.ofNat_toNat] at one

theorem decode_value_flags {flags written : UInt8} (code : UInt8) (high : written &&& 0x80 = flags &&& 0x80)
    (transitive : written &&& 0xc0 = flags &&& 0xc0) (all : written &&& 0xe0 = flags &&& 0xe0) (four : Bool)
    (value : List UInt8) (state : BgpAttributes.Partial) :
    BgpAttributes.decode_value four written code value state = BgpAttributes.decode_value four flags code value state := by
  unfold BgpAttributes.decode_value
  rw [high,transitive,all]

/-- Reading one attribute. -/
theorem decode_attribute_wire {raw : BgpUnknownAttribute} {state next : BgpAttributes.Partial} {seen : List UInt8}
    (fresh : raw.code ∉ seen) (allowed : FlagsAllowed raw.flags raw.code) (short : raw.value.length < 2 ^ 16)
    (read : BgpAttributes.decode_value four raw.flags raw.code raw.value state = .ok next) (rest : List UInt8) :
    BgpAttributes.decode_attribute four (state,seen) (attributeWire raw ++ rest) =
      .ok ((next,raw.code :: seen),(attributeWire raw).length - 1) := by
  obtain ⟨length,category,part,high,all⟩ := written_flags raw.flags (decide (255 < raw.value.length))
  simp only [decide_eq_true_eq] at length category part high all
  have first : (attributeWire raw ++ rest).getD 0 0 =
    (raw.flags &&& 0xe0) ||| (if 255 < raw.value.length then 0x10 else 0) := rfl
  have second : (attributeWire raw ++ rest).getD 1 0 = raw.code := rfl
  have total : (attributeWire raw ++ rest).length =
      raw.value.length + (if 255 < raw.value.length then 4 else 3) + rest.length := by
    rw [List.length_append,attributeWire_length]
  have unseen : seen.contains raw.code = false := by simpa using fresh
  have accepted : ((BgpAttributes.expected raw.code).any (fun expected => raw.flags &&& 0xc0 ≠ expected) ||
      (raw.flags &&& 0x20 ≠ 0 && raw.flags &&& 0xc0 ≠ 0xc0)) = false := by
    rw [Bool.or_eq_false_iff]
    constructor
    · cases known : BgpAttributes.expected raw.code with
      | none => rfl
      | some category => simpa using allowed.1 category known
    · rw [Bool.and_eq_false_iff]
      by_cases unset : raw.flags &&& 0x20 = 0
      · exact .inl (by simpa using unset)
      · exact .inr (by simpa using allowed.2 unset)
  rw [← decode_value_flags raw.code high category all] at read
  unfold BgpAttributes.decode_attribute
  simp only [first,second,length,total,category,part]
  by_cases extended : 255 < raw.value.length
  · have number : (u16_at (attributeWire raw ++ rest) 2).toNat = raw.value.length := by
      have field := u16_at_be16 (UInt16.ofNat raw.value.length) (raw.value ++ rest)
      have same : u16_at (attributeWire raw ++ rest) 2 =
          u16_at (be16 (UInt16.ofNat raw.value.length) ++ (raw.value ++ rest)) 0 := by
        rw [attributeWire,if_pos extended,if_pos extended,← List.append_assoc]
        rfl
      rw [same,field,UInt16.toNat_ofNat']
      omega
    have sliced : slice? (attributeWire raw ++ rest) 4 raw.value.length = some raw.value := by
      have shape : attributeWire raw ++ rest = ((raw.flags &&& 0xe0) ||| 0x10) :: raw.code ::
          be16 (UInt16.ofNat raw.value.length) ++ (raw.value ++ rest) := by
        rw [attributeWire,if_pos extended,if_pos extended]
        simp only [List.cons_append,List.append_assoc]
      rw [shape]
      exact slice?_append _ _ rest rfl rfl
    rw [if_pos extended] at read
    simp only [extended,number,sliced,attributeWire_length,unseen,accepted,read,if_true,Bool.false_eq_true,if_false]
    rw [if_neg (by omega),if_neg (by omega)]
    congr 2
    omega
  · have number : ((attributeWire raw ++ rest).getD 2 0).toNat = raw.value.length := by
      have same : (attributeWire raw ++ rest).getD 2 0 = UInt8.ofNat raw.value.length := by
        rw [attributeWire,if_neg extended,if_neg extended]
        rfl
      rw [same,UInt8.toNat_ofNat']
      omega
    have sliced : slice? (attributeWire raw ++ rest) 3 raw.value.length = some raw.value := by
      have shape : attributeWire raw ++ rest = [(raw.flags &&& 0xe0) ||| 0,raw.code,UInt8.ofNat raw.value.length] ++
          (raw.value ++ rest) := by
        rw [attributeWire,if_neg extended,if_neg extended]
        simp only [List.cons_append,List.nil_append]
      rw [shape]
      exact slice?_append _ _ rest rfl rfl
    rw [if_neg extended] at read
    simp only [extended,number,sliced,attributeWire_length,unseen,accepted,read,if_false,false_and,Bool.false_eq_true]
    rw [if_neg (by omega)]
    congr 2
    omega

/-- The effect of an attribute on the variables of the decoding loop. -/
def readPart (four : Bool) (state : BgpAttributes.Partial) (raw : BgpUnknownAttribute) : Result BgpAttributes.Partial :=
  BgpAttributes.decode_value four raw.flags raw.code raw.value state

/-- Attributes with different codes are read back one after the other. -/
theorem decode_attributes_wire {four : Bool} {parts : List BgpUnknownAttribute} {state final : BgpAttributes.Partial}
    {seen : List UInt8} (fresh : ∀ raw ∈ parts, raw.code ∉ seen) (distinct : (parts.map (·.code)).Nodup)
    (allowed : ∀ raw ∈ parts, FlagsAllowed raw.flags raw.code) (short : ∀ raw ∈ parts, raw.value.length < 2 ^ 16)
    (read : parts.foldlM (readPart four) state = .ok final) :
    ∃ codes, while_nonempty (BgpAttributes.decode_attribute four) (state,seen) (parts.flatMap attributeWire) =
      .ok (final,codes) := by
  induction parts generalizing state seen with
  | nil =>
    cases read
    exact ⟨seen,rfl⟩
  | cons raw rest ih =>
    rw [List.map_cons,List.nodup_cons] at distinct
    rw [List.foldlM_cons] at read
    cases one : readPart four state raw with
    | error e => rw [one] at read; cases read
    | ok next =>
      rw [one] at read
      have reads := decode_attribute_wire (fresh raw List.mem_cons_self) (allowed raw List.mem_cons_self)
        (short raw List.mem_cons_self) one (rest.flatMap attributeWire)
      have length : (attributeWire raw).length = (attributeWire raw).length - 1 + 1 := rfl
      rw [List.flatMap_cons,while_nonempty_append reads length]
      refine ih ?_ distinct.2 (fun other member => allowed other (List.mem_cons_of_mem raw member))
        (fun other member => short other (List.mem_cons_of_mem raw member)) read
      intro other member
      rw [List.mem_cons,not_or]
      refine ⟨fun same => distinct.1 ?_,fresh other (List.mem_cons_of_mem raw member)⟩
      rw [← same]
      exact List.mem_map_of_mem member

namespace BgpAttributes.Partial

/-- The attributes of the typed variables, in the order in which they are written. -/
def typedParts (four : Bool) (state : BgpAttributes.Partial) : List BgpUnknownAttribute :=
  state.origin.toList.map (fun origin => ⟨0x40,1,[origin.byte]⟩) ++
  (state.as_path.toList.map (fun path => ⟨0x40,2,path.flatMap (segmentWire four)⟩) ++
  (state.next_hop.toList.map (fun address => ⟨0x40,3,octets address⟩) ++
  ((if state.atomic_aggregate then [⟨0x40,6,[]⟩] else []) ++
  (state.med.toList.map (fun med => ⟨0x80,4,be32 med⟩) ++
  (state.local_preference.toList.map (fun preference => ⟨0x40,5,be32 preference⟩) ++
  (state.originator_id.toList.map (fun id => ⟨0x80,9,octets id⟩) ++
  (if state.cluster_list.isEmpty then [] else [⟨0x80,10,state.cluster_list.flatMap octets⟩])))))))

/-- All attributes that the variables hold. -/
def parts (four : Bool) (state : BgpAttributes.Partial) : List BgpUnknownAttribute :=
  state.typedParts four ++ state.unknown_transitive

/-- What is written for the variables. -/
def wire (four : Bool) (state : BgpAttributes.Partial) : List UInt8 := (state.parts four).flatMap attributeWire

/-- The conditions under which an unknown attribute is kept as it is. -/
structure CanonicalUnknown (four : Bool) (raw : BgpUnknownAttribute) : Prop where
  transitive : raw.flags &&& 0xc0 = 0xc0
  normal : raw.flags &&& 0xe0 = raw.flags
  untyped : raw.code ∉ typedCodes
  current : ¬ ((raw.code = 17 ∨ raw.code = 18) ∧ four = true)

/-- Variables that can be written and read back. -/
structure Canonical (four : Bool) (state : BgpAttributes.Partial) : Prop where
  path : ∀ path ∈ state.as_path, ∀ segment ∈ path, CanonicalSegment four segment
  reachable : ∀ address ∈ state.next_hop,
    (is_unspecified address || is_multicast address || is_broadcast address) = false
  unknown : ∀ raw ∈ state.unknown_transitive, CanonicalUnknown four raw
  distinct : (state.unknown_transitive.map (·.code)).Nodup

/-- The typed codes stand in a fixed order. -/
theorem typedParts_ordered (four : Bool) (state : BgpAttributes.Partial) :
    ((state.typedParts four).map (·.code)).Sublist [1,2,3,6,4,5,9,10] := by
  obtain ⟨origin,path,next_hop,atomic,med,preference,originator,clusters,unknown⟩ := state
  simp only [typedParts,List.map_append]
  have split : ([1,2,3,6,4,5,9,10] : List UInt8) = [1] ++ ([2] ++ ([3] ++ ([6] ++ ([4] ++ ([5] ++ ([9] ++ [10])))))) := rfl
  rw [split]
  refine .append ?_ (.append ?_ (.append ?_ (.append ?_ (.append ?_ (.append ?_ (.append ?_ ?_))))))
  · cases origin <;> simp
  · cases path <;> simp
  · cases next_hop <;> simp
  · cases atomic <;> simp
  · cases med <;> simp
  · cases preference <;> simp
  · cases originator <;> simp
  · cases clusters <;> simp

/-- No code is written twice. -/
theorem parts_distinct {four : Bool} {state : BgpAttributes.Partial} (canonical : state.Canonical four) :
    ((state.parts four).map (·.code)).Nodup := by
  have ordered := typedParts_ordered four state
  have typed : ∀ code ∈ ([1,2,3,6,4,5,9,10] : List UInt8), code ∈ typedCodes := by decide +kernel
  rw [parts,List.map_append]
  refine List.Nodup.append (ordered.nodup (by decide)) canonical.distinct ?_
  intro code known unknown
  obtain ⟨raw,present,rfl⟩ := List.mem_map.mp unknown
  exact (canonical.unknown raw present).untyped (typed raw.code (ordered.subset known))

/-- The flags that are written are the flags that are expected. -/
theorem parts_allowed {four : Bool} {state : BgpAttributes.Partial} (canonical : state.Canonical four) :
    ∀ raw ∈ state.parts four, FlagsAllowed raw.flags raw.code := by
  intro raw member
  rcases List.mem_append.mp member with typed | unknown
  · have known : FlagsAllowed 0x40 1 ∧ FlagsAllowed 0x40 2 ∧ FlagsAllowed 0x40 3 ∧ FlagsAllowed 0x40 6 ∧
        FlagsAllowed 0x80 4 ∧ FlagsAllowed 0x40 5 ∧ FlagsAllowed 0x80 9 ∧ FlagsAllowed 0x80 10 := by
      refine ⟨?_,?_,?_,?_,?_,?_,?_,?_⟩ <;> exact ⟨by simp [expected]; decide,by decide⟩
    obtain ⟨one,two,three,six,four,five,nine,ten⟩ := known
    simp only [typedParts,List.mem_append,List.mem_map] at typed
    rcases typed with ⟨_,-,rfl⟩ | ⟨_,-,rfl⟩ | ⟨_,-,rfl⟩ | typed | ⟨_,-,rfl⟩ | ⟨_,-,rfl⟩ | ⟨_,-,rfl⟩ | typed
    · exact one
    · exact two
    · exact three
    · split at typed
      · rw [List.mem_singleton] at typed
        exact typed ▸ six
      · cases typed
    · exact four
    · exact five
    · exact nine
    · split at typed
      · cases typed
      · rw [List.mem_singleton] at typed
        exact typed ▸ ten
  · obtain ⟨transitive,-,untyped,-⟩ := canonical.unknown raw unknown
    refine ⟨fun category known => ?_,fun _ => transitive⟩
    simp only [typedCodes,List.mem_cons,List.not_mem_nil,or_false,not_or] at untyped
    obtain ⟨one,two,three,four,five,six,nine,ten⟩ := untyped
    simp only [expected,one,two,three,four,five,six,nine,ten,or_self,if_false] at known
    split at known
    · cases known
      exact transitive
    · cases known

/-- Reading the unknown attributes collects them. -/
theorem read_unknown {four : Bool} {unknown : List BgpUnknownAttribute}
    (canonical : ∀ raw ∈ unknown, CanonicalUnknown four raw) (state : BgpAttributes.Partial) :
    unknown.foldlM (readPart four) state = .ok { state with unknown_transitive := state.unknown_transitive ++ unknown } := by
  induction unknown generalizing state with
  | nil => simp [pure,Except.pure]
  | cons raw rest ih =>
    obtain ⟨transitive,normal,untyped,current⟩ := canonical raw List.mem_cons_self
    have optional : raw.flags &&& 0x80 ≠ 0 := by
      intro none
      have bits : raw.flags &&& 0x80 = raw.flags &&& 0xc0 &&& 0x80 := by rw [UInt8.and_assoc]; rfl
      rw [bits,transitive] at none
      exact absurd none (by decide)
    simp only [typedCodes,List.mem_cons,List.not_mem_nil,or_false,not_or] at untyped
    obtain ⟨one,two,three,four',five,six,nine,ten⟩ := untyped
    have first : readPart four state raw =
        .ok { state with unknown_transitive := state.unknown_transitive ++ [raw] } := by
      simp only [readPart,decode_value,one,two,three,four',five,six,nine,ten,current,optional,transitive,normal,or_self,
        if_false,if_true]
    rw [List.foldlM_cons,first]
    simp only [bind,Except.bind]
    rw [ih (fun other member => canonical other (List.mem_cons_of_mem raw member))]
    simp only [List.append_assoc,List.singleton_append]

/-- What was written is read back, one variable at a time. -/
theorem read_parts {four : Bool} {state : BgpAttributes.Partial} (canonical : state.Canonical four) :
    (state.parts four).foldlM (readPart four) Partial.initial = .ok state := by
  obtain ⟨origin,path,next_hop,atomic,med,preference,originator,clusters,unknown⟩ := state
  have number : ∀ x, u32_at (be32 x) 0 = x := fun x => by simpa using u32_at_be32 x []
  obtain ⟨segments,reachable,others,-⟩ := canonical
  simp only at segments reachable others
  have one : (origin.toList.map (fun origin => (⟨0x40,1,[origin.byte]⟩ : BgpUnknownAttribute))).foldlM (readPart four)
      Partial.initial = .ok ⟨origin,none,none,false,none,none,none,[],[]⟩ := by
    cases origin with
    | none => rfl
    | some origin => cases origin <;> rfl
  have two : (path.toList.map (fun path => (⟨0x40,2,path.flatMap (segmentWire four)⟩ : BgpUnknownAttribute))).foldlM
      (readPart four) ⟨origin,none,none,false,none,none,none,[],[]⟩ = .ok ⟨origin,path,none,false,none,none,none,[],[]⟩ := by
    cases path with
    | none => rfl
    | some path =>
      have back := decode_path_wire (segments path rfl)
      simp [readPart,decode_value,back,bind,Except.bind,pure,Except.pure]
  have three : (next_hop.toList.map (fun address => (⟨0x40,3,octets address⟩ : BgpUnknownAttribute))).foldlM
      (readPart four) ⟨origin,path,none,false,none,none,none,[],[]⟩ =
        .ok ⟨origin,path,next_hop,false,none,none,none,[],[]⟩ := by
    cases next_hop with
    | none => rfl
    | some address =>
      have valid := reachable address rfl
      simp [readPart,decode_value,octets,number,valid,bind,Except.bind,pure,Except.pure]
  have six : (if atomic then [(⟨0x40,6,[]⟩ : BgpUnknownAttribute)] else []).foldlM
      (readPart four) ⟨origin,path,next_hop,false,none,none,none,[],[]⟩ =
        .ok ⟨origin,path,next_hop,atomic,none,none,none,[],[]⟩ := by
    cases atomic <;> rfl
  have fourth : (med.toList.map (fun med => (⟨0x80,4,be32 med⟩ : BgpUnknownAttribute))).foldlM
      (readPart four) ⟨origin,path,next_hop,atomic,none,none,none,[],[]⟩ =
        .ok ⟨origin,path,next_hop,atomic,med,none,none,[],[]⟩ := by
    cases med with
    | none => rfl
    | some med => simp [readPart,decode_value,number,bind,Except.bind,pure,Except.pure]
  have five : (preference.toList.map (fun preference => (⟨0x40,5,be32 preference⟩ : BgpUnknownAttribute))).foldlM
      (readPart four) ⟨origin,path,next_hop,atomic,med,none,none,[],[]⟩ =
        .ok ⟨origin,path,next_hop,atomic,med,preference,none,[],[]⟩ := by
    cases preference with
    | none => rfl
    | some preference => simp [readPart,decode_value,number,bind,Except.bind,pure,Except.pure]
  have nine : (originator.toList.map (fun id => (⟨0x80,9,octets id⟩ : BgpUnknownAttribute))).foldlM
      (readPart four) ⟨origin,path,next_hop,atomic,med,preference,none,[],[]⟩ =
        .ok ⟨origin,path,next_hop,atomic,med,preference,originator,[],[]⟩ := by
    cases originator with
    | none => rfl
    | some id => simp [readPart,decode_value,octets,number,bind,Except.bind,pure,Except.pure]
  have ten : (if clusters.isEmpty then [] else [(⟨0x80,10,clusters.flatMap octets⟩ : BgpUnknownAttribute)]).foldlM
      (readPart four) ⟨origin,path,next_hop,atomic,med,preference,originator,[],[]⟩ =
        .ok ⟨origin,path,next_hop,atomic,med,preference,originator,clusters,[]⟩ := by
    cases clusters with
    | nil => rfl
    | cons id rest =>
      have whole : chunks32 ((id :: rest).flatMap octets) = id :: rest := chunks32_flatMap (id :: rest)
      have length : ((id :: rest).flatMap octets).length = 4 * (id :: rest).length := flatMap_be32_length (id :: rest)
      simp [readPart,decode_value,bind,Except.bind,pure,Except.pure,-List.flatMap_cons,-List.length_cons,whole,length]
  have last := read_unknown others ⟨origin,path,next_hop,atomic,med,preference,originator,clusters,[]⟩
  simp only [parts,typedParts,List.foldlM_append,bind,Except.bind,one,two,three,six,fourth,five,nine,ten,last,
    List.nil_append]

end BgpAttributes.Partial

/-- Writing an optional attribute. -/
theorem push_optional {α : Type} {flags code : UInt8} {value : α → List UInt8} {out : List UInt8} (field : Option α)
    (room : out.length + ((field.toList.map (fun a => (⟨flags,code,value a⟩ : BgpUnknownAttribute))).flatMap
      attributeWire).length ≤ BGP_MAX_MESSAGE) :
    field.elim (.ok out) (fun a => push_attribute out flags code (value a)) =
      .ok (out ++ (field.toList.map (fun a => (⟨flags,code,value a⟩ : BgpUnknownAttribute))).flatMap attributeWire) := by
  cases field with
  | none => simp
  | some a =>
    simp only [Option.toList_some,List.map_cons,List.map_nil,List.flatMap_singleton] at room ⊢
    exact push_attribute_eq room

theorem encode_unknown_eq {unknown : List BgpUnknownAttribute} {seen out : List UInt8}
    (canonical : ∀ raw ∈ unknown, BgpAttributes.Partial.CanonicalUnknown four raw)
    (fresh : ∀ raw ∈ unknown, raw.code ∉ seen) (distinct : (unknown.map (·.code)).Nodup)
    (room : out.length + (unknown.flatMap attributeWire).length ≤ BGP_MAX_MESSAGE) :
    BgpAttributes.encode_unknown seen out unknown = .ok (out ++ unknown.flatMap attributeWire) := by
  induction unknown generalizing seen out with
  | nil => simp [BgpAttributes.encode_unknown]
  | cons raw rest ih =>
    rw [List.map_cons,List.nodup_cons] at distinct
    rw [List.flatMap_cons,List.length_append] at room
    have unseen := fresh raw List.mem_cons_self
    have transitive := (canonical raw List.mem_cons_self).transitive
    have first : push_attribute out raw.flags raw.code raw.value = .ok (out ++ attributeWire raw) :=
      push_attribute_eq (Nat.le_trans (Nat.le_add_right _ _) (Nat.add_assoc out.length _ _ ▸ room))
    have later : BgpAttributes.encode_unknown (raw.code :: seen) (out ++ attributeWire raw) rest =
        .ok (out ++ attributeWire raw ++ rest.flatMap attributeWire) := by
      refine ih (fun other member => canonical other (List.mem_cons_of_mem raw member)) ?_ distinct.2
        (by rw [List.length_append]; omega)
      intro other member
      rw [List.mem_cons,not_or]
      refine ⟨fun same => distinct.1 ?_,fresh other (List.mem_cons_of_mem raw member)⟩
      rw [← same]
      exact List.mem_map_of_mem member
    rw [BgpAttributes.encode_unknown,if_neg (by simpa [transitive] using unseen),first]
    simp only [bind,Except.bind]
    rw [later,List.flatMap_cons,List.append_assoc]

namespace BgpAttributes

/-- The variables of the loop after a successful decode. -/
def toPartial (attributes : BgpAttributes) : Partial :=
  ⟨some attributes.origin,some attributes.as_path,some attributes.next_hop,attributes.atomic_aggregate,attributes.med,
    attributes.local_preference,attributes.originator_id,attributes.cluster_list,attributes.unknown_transitive⟩

variable {four : Bool}

theorem encode_eq {attributes : BgpAttributes} (canonical : attributes.toPartial.Canonical four)
    (fits : (attributes.toPartial.wire four).length ≤ BGP_MAX_MESSAGE) :
    attributes.encode four = .ok (attributes.toPartial.wire four) := by
  obtain ⟨origin,path,next_hop,atomic,med,preference,originator,clusters,unknown⟩ := attributes
  obtain ⟨segments,-,others,distinct⟩ := canonical
  simp only [toPartial] at segments others distinct fits ⊢
  simp only [Partial.wire,Partial.parts,Partial.typedParts,List.flatMap_append,Option.toList_some,List.map_cons,List.map_nil,
    List.flatMap_singleton,List.length_append] at fits ⊢
  have body : (attributeWire ⟨0x40,2,path.flatMap (segmentWire four)⟩).length ≥ (path.flatMap (segmentWire four)).length := by
    rw [attributeWire_length]
    simp only
    omega
  have path_eq : path.foldlM (encode_segment four) [] = .ok (path.flatMap (segmentWire four)) := by
    have write : ∀ out, ∀ segment ∈ path, out.length + (segmentWire four segment).length ≤ BGP_MAX_MESSAGE →
        encode_segment four out segment = .ok (out ++ segmentWire four segment) :=
      fun out segment member room => encode_segment_eq (segments path rfl segment member) room
    exact foldlM_wire write (by rw [List.length_nil]; omega)
  have atomic_eq : ∀ out : List UInt8, out.length +
      ((if atomic then [(⟨0x40,6,[]⟩ : BgpUnknownAttribute)] else []).flatMap attributeWire).length ≤ BGP_MAX_MESSAGE →
      (if atomic then push_attribute out 0x40 6 [] else .ok out) =
        .ok (out ++ (if atomic then [(⟨0x40,6,[]⟩ : BgpUnknownAttribute)] else []).flatMap attributeWire) := by
    intro out room
    cases atomic with
    | false => simp
    | true =>
      simp only [if_true,List.flatMap_singleton] at room ⊢
      exact push_attribute_eq room
  have clusters_eq : ∀ out : List UInt8, out.length + ((if clusters.isEmpty then [] else
        [(⟨0x80,10,clusters.flatMap octets⟩ : BgpUnknownAttribute)]).flatMap attributeWire).length ≤ BGP_MAX_MESSAGE →
      (if clusters.isEmpty then .ok out
        else if BGP_MAX_MESSAGE / 4 < clusters.length then .error ⟨1,2⟩
        else push_attribute out 0x80 10 (clusters.flatMap octets)) =
        .ok (out ++ (if clusters.isEmpty then [] else
          [(⟨0x80,10,clusters.flatMap octets⟩ : BgpUnknownAttribute)]).flatMap attributeWire) := by
    intro out room
    by_cases empty : clusters.isEmpty = true
    · simp [empty]
    · simp only [empty,if_false,List.flatMap_singleton,Bool.false_eq_true] at room ⊢
      have length : (clusters.flatMap octets).length = 4 * clusters.length := flatMap_be32_length clusters
      rw [if_neg ?_]
      · exact push_attribute_eq room
      · rw [attributeWire_length] at room
        simp only [length] at room
        simp only [BGP_MAX_MESSAGE] at room ⊢
        omega
  have unknown_eq : ∀ out : List UInt8, out.length + (unknown.flatMap attributeWire).length ≤ BGP_MAX_MESSAGE →
      encode_unknown typedCodes out unknown = .ok (out ++ unknown.flatMap attributeWire) :=
    fun out room => encode_unknown_eq others (fun raw member => (others raw member).untyped) distinct room
  unfold encode
  simp only [bind,Except.bind]
  rw [push_attribute_eq (by rw [List.length_nil]; omega)]
  simp only [path_eq,List.nil_append]
  rw [push_attribute_eq (by omega)]
  simp only
  rw [push_attribute_eq (by simp only [List.length_append]; omega)]
  simp only
  rw [atomic_eq _ (by simp only [List.length_append]; omega)]
  simp only
  rw [push_optional med (by simp only [List.length_append]; omega)]
  simp only
  rw [push_optional preference (by simp only [List.length_append]; omega)]
  simp only
  rw [push_optional originator (by simp only [List.length_append]; omega)]
  simp only
  rw [clusters_eq _ (by simp only [List.length_append]; omega)]
  simp only
  rw [unknown_eq _ (by simp only [List.length_append]; omega)]
  simp only [List.append_assoc]

theorem length_le_wire {raw : BgpUnknownAttribute} {parts : List BgpUnknownAttribute} (member : raw ∈ parts) :
    raw.value.length ≤ (parts.flatMap attributeWire).length := by
  have whole := (List.sublist_flatten_of_mem (List.mem_map_of_mem (f := attributeWire) member)).length_le
  rw [attributeWire_length] at whole
  rw [List.flatMap_def]
  omega

theorem decode_wire {attributes : BgpAttributes} (canonical : attributes.toPartial.Canonical four)
    (fits : (attributes.toPartial.wire four).length ≤ BGP_MAX_MESSAGE) :
    decode (attributes.toPartial.wire four) four = .ok attributes := by
  have short : ∀ raw ∈ attributes.toPartial.parts four, raw.value.length < 2 ^ 16 := by
    intro raw member
    have inside := length_le_wire member
    rw [Partial.wire,BGP_MAX_MESSAGE] at fits
    omega
  obtain ⟨codes,read⟩ := @decode_attributes_wire _ _ _ _ [] (by simp) (Partial.parts_distinct canonical)
    (Partial.parts_allowed canonical) short (Partial.read_parts canonical)
  rw [decode,Partial.wire,read]
  rfl

/-- The bytes that the variables take, one by one. -/
theorem wire_length (four : Bool) (state : Partial) :
    (state.wire four).length =
      state.origin.elim 0 (fun origin => (attributeWire ⟨0x40,1,[origin.byte]⟩).length) +
      state.as_path.elim 0 (fun path => (attributeWire ⟨0x40,2,path.flatMap (segmentWire four)⟩).length) +
      state.next_hop.elim 0 (fun address => (attributeWire ⟨0x40,3,octets address⟩).length) +
      (if state.atomic_aggregate then (attributeWire ⟨0x40,6,[]⟩).length else 0) +
      state.med.elim 0 (fun med => (attributeWire ⟨0x80,4,be32 med⟩).length) +
      state.local_preference.elim 0 (fun preference => (attributeWire ⟨0x40,5,be32 preference⟩).length) +
      state.originator_id.elim 0 (fun id => (attributeWire ⟨0x80,9,octets id⟩).length) +
      (if state.cluster_list.isEmpty then 0 else (attributeWire ⟨0x80,10,state.cluster_list.flatMap octets⟩).length) +
      (state.unknown_transitive.flatMap attributeWire).length := by
  have optional : ∀ {α : Type} (field : Option α) (raw : α → BgpUnknownAttribute),
      ((field.toList.map raw).flatMap attributeWire).length = field.elim 0 (fun a => (attributeWire (raw a)).length) := by
    intro α field raw
    cases field <;> simp
  have present : ∀ (condition : Bool) (raw : BgpUnknownAttribute),
      ((if condition then [raw] else []).flatMap attributeWire).length =
        if condition then (attributeWire raw).length else 0 := by
    intro condition raw
    cases condition <;> simp
  have absent : ∀ (condition : Bool) (raw : BgpUnknownAttribute),
      ((if condition then [] else [raw]).flatMap attributeWire).length =
        if condition then 0 else (attributeWire raw).length := by
    intro condition raw
    cases condition <;> simp
  simp only [Partial.wire,Partial.parts,Partial.typedParts,List.flatMap_append,List.length_append,optional,present,absent]
  omega

/-- What one attribute does to the variables: they stay canonical, grow by no
    more than the attribute, and keep it if it is unknown. -/
theorem decode_value_correct {flags code : UInt8} {value : List UInt8} {state next : Partial}
    (canonical : state.Canonical four) (read : decode_value four flags code value state = .ok next)
    (fresh : code ∉ state.unknown_transitive.map (·.code)) :
    next.Canonical four ∧ (next.wire four).length ≤ (state.wire four).length + (attributeWire ⟨flags,code,value⟩).length ∧
      ∀ raw ∈ next.unknown_transitive, raw ∈ state.unknown_transitive ∨ raw.code = code := by
  obtain ⟨segments,reachable,unknown,distinct⟩ := canonical
  -- attributes are as long as their values
  have same : ∀ (raw : BgpUnknownAttribute), raw.value.length = value.length →
      (attributeWire raw).length = (attributeWire ⟨flags,code,value⟩).length := by
    intro raw length
    rw [attributeWire_length,attributeWire_length,length]
  unfold decode_value at read
  by_cases one : code = 1
  · rw [if_pos one] at read
    by_cases length : value.length ≠ 1
    · rw [if_pos length] at read
      cases read
    rw [if_neg length] at read
    obtain ⟨origin,rfl⟩ : ∃ origin, next = { state with origin := some origin } := by
      split at read
      · cases read
        exact ⟨_,rfl⟩
      · split at read
        · cases read
          exact ⟨_,rfl⟩
        · split at read
          · cases read
            exact ⟨_,rfl⟩
          · cases read
    refine ⟨⟨segments,reachable,unknown,distinct⟩,?_,fun _ => .inl⟩
    have grown := same ⟨0x40,1,[origin.byte]⟩ (by simpa using (not_not.mp length).symm)
    rw [wire_length,wire_length]
    simp only [Option.elim_some,grown]
    omega
  rw [if_neg one] at read
  by_cases two : code = 2
  · rw [if_pos two] at read
    cases path : decode_path value four with
    | error error => rw [path] at read; cases read
    | ok path' =>
      rw [path] at read
      cases read
      obtain ⟨isCanonical,bytes⟩ := decode_path_correct path
      refine ⟨⟨?_,reachable,unknown,distinct⟩,?_,fun _ => .inl⟩
      · rintro _ ⟨⟩
        exact isCanonical
      · have grown := same ⟨0x40,2,path'.flatMap (segmentWire four)⟩ bytes
        rw [wire_length,wire_length]
        simp only [Option.elim_some,grown]
        omega
  rw [if_neg two] at read
  by_cases three : code = 3
  · rw [if_pos three] at read
    by_cases length : value.length ≠ 4
    · rw [if_pos length] at read
      cases read
    rw [if_neg length] at read
    simp only at read
    split at read
    · cases read
    · rename_i valid
      cases read
      refine ⟨⟨segments,?_,unknown,distinct⟩,?_,fun _ => .inl⟩
      · rintro _ ⟨⟩
        exact Bool.eq_false_of_not_eq_true valid
      · have grown := same ⟨0x40,3,octets (u32_at value 0)⟩ (not_not.mp length).symm
        rw [wire_length,wire_length]
        simp only [Option.elim_some,grown]
        omega
  rw [if_neg three] at read
  by_cases pair : code = 4 ∨ code = 5
  · rw [if_pos pair] at read
    by_cases length : value.length ≠ 4
    · rw [if_pos length] at read
      cases read
    rw [if_neg length] at read
    split at read
    · cases read
      refine ⟨⟨segments,reachable,unknown,distinct⟩,?_,fun _ => .inl⟩
      have grown := same ⟨0x80,4,be32 (u32_at value 0)⟩ (not_not.mp length).symm
      rw [wire_length,wire_length]
      simp only [Option.elim_some,grown]
      omega
    · cases read
      refine ⟨⟨segments,reachable,unknown,distinct⟩,?_,fun _ => .inl⟩
      have grown := same ⟨0x40,5,be32 (u32_at value 0)⟩ (not_not.mp length).symm
      rw [wire_length,wire_length]
      simp only [Option.elim_some,grown]
      omega
  rw [if_neg pair] at read
  by_cases nine : code = 9
  · rw [if_pos nine] at read
    by_cases length : value.length ≠ 4
    · rw [if_pos length] at read
      cases read
    rw [if_neg length] at read
    cases read
    refine ⟨⟨segments,reachable,unknown,distinct⟩,?_,fun _ => .inl⟩
    have grown := same ⟨0x80,9,octets (u32_at value 0)⟩ (not_not.mp length).symm
    rw [wire_length,wire_length]
    simp only [Option.elim_some,grown]
    omega
  rw [if_neg nine] at read
  by_cases ten : code = 10
  · rw [if_pos ten] at read
    by_cases length : value.length % 4 ≠ 0
    · rw [if_pos length] at read
      cases read
    rw [if_neg length] at read
    cases read
    refine ⟨⟨segments,reachable,unknown,distinct⟩,?_,fun _ => .inl⟩
    have whole : ((chunks32 value).flatMap octets).length = value.length := by
      rw [show ((chunks32 value).flatMap octets).length = _ from flatMap_be32_length _,chunks32_length]
      omega
    have grown := same ⟨0x80,10,(chunks32 value).flatMap octets⟩ whole
    rw [wire_length,wire_length]
    simp only [grown]
    have most : (if (chunks32 value).isEmpty = true then 0 else (attributeWire ⟨flags,code,value⟩).length) ≤
        (attributeWire ⟨flags,code,value⟩).length := by
      split <;> omega
    omega
  rw [if_neg ten] at read
  by_cases six : code = 6
  · rw [if_pos six] at read
    by_cases length : value.length ≠ 0
    · rw [if_pos length] at read
      cases read
    rw [if_neg length] at read
    cases read
    refine ⟨⟨segments,reachable,unknown,distinct⟩,?_,fun _ => .inl⟩
    have grown := same ⟨0x40,6,[]⟩ (not_not.mp length).symm
    rw [wire_length,wire_length]
    simp only [if_true,grown]
    omega
  rw [if_neg six] at read
  by_cases legacy : (code = 17 ∨ code = 18) ∧ four = true
  · rw [if_pos legacy] at read
    cases read
    exact ⟨⟨segments,reachable,unknown,distinct⟩,by omega,fun _ => .inl⟩
  rw [if_neg legacy] at read
  by_cases mandatory : flags &&& 0x80 = 0
  · rw [if_pos mandatory] at read
    cases read
  rw [if_neg mandatory] at read
  by_cases transitive : flags &&& 0xc0 = 0xc0
  · rw [if_pos transitive] at read
    cases read
    obtain ⟨four',five⟩ := not_or.mp pair
    have kept : Partial.CanonicalUnknown four ⟨flags &&& 0xe0,code,value⟩ := by
      have bits : flags &&& 0xe0 &&& 0xc0 = flags &&& 0xc0 := by rw [UInt8.and_assoc]; rfl
      have again : flags &&& 0xe0 &&& 0xe0 = flags &&& 0xe0 := by rw [UInt8.and_assoc]; rfl
      refine ⟨bits.trans transitive,again,?_,legacy⟩
      simp [typedCodes,one,two,three,four',five,nine,ten,six]
    refine ⟨⟨segments,reachable,?_,?_⟩,?_,?_⟩
    · intro raw member
      rcases List.mem_append.mp member with old | new
      · exact unknown raw old
      · rw [List.mem_singleton] at new
        exact new ▸ kept
    · rw [List.map_append]
      refine List.Nodup.append distinct (List.nodup_singleton _) ?_
      intro other old new
      rw [List.map_singleton,List.mem_singleton] at new
      rw [new] at old
      exact fresh old
    · have grown := same ⟨flags &&& 0xe0,code,value⟩ rfl
      rw [wire_length,wire_length]
      simp only [List.flatMap_append,List.flatMap_singleton,List.length_append,grown]
      omega
    · intro raw member
      rcases List.mem_append.mp member with old | new
      · exact .inl old
      · rw [List.mem_singleton] at new
        exact .inr (new ▸ rfl)
  · rw [if_neg transitive] at read
    cases read
    exact ⟨⟨segments,reachable,unknown,distinct⟩,by omega,fun _ => .inl⟩

/-- Reading one attribute takes at least the bytes in which it is written. -/
theorem decode_attribute_correct {state next : Partial} {seen codes : List UInt8} {head : UInt8} {tail : List UInt8}
    {skip : Nat} (read : decode_attribute four (state,seen) (head :: tail) = .ok ((next,codes),skip)) :
    ∃ code value, code ∉ seen ∧ codes = code :: seen ∧ decode_value four head code value state = .ok next ∧
      skip ≤ tail.length ∧ (attributeWire ⟨head,code,value⟩).length ≤ skip + 1 := by
  unfold decode_attribute at read
  simp only [List.getD_cons_zero] at read
  split at read
  · cases read
  split at read
  · cases read
  split at read
  · cases read
  rename_i value sliced
  obtain ⟨inside,-,length⟩ := slice?_eq_some sliced
  split at read
  · cases read
  rename_i fresh
  split at read
  · cases read
  split at read
  · cases read
  rename_i after valued
  cases read
  rw [List.length_cons] at inside
  have byte := ((head :: tail).getD 2 0).toNat_lt
  refine ⟨_,value,by simpa using fresh,rfl,valued,?_,?_⟩
  · by_cases extended : head &&& 0x10 ≠ 0
    · simp only [if_pos extended] at inside ⊢
      omega
    · simp only [if_neg extended] at inside ⊢
      omega
  · rw [attributeWire_length]
    simp only
    by_cases extended : head &&& 0x10 ≠ 0
    · simp only [if_pos extended] at length ⊢
      split <;> omega
    · simp only [if_neg extended] at length ⊢
      rw [if_neg (by omega)]
      omega

/-- Decoded attributes are canonical and are written to no more bytes. -/
theorem decode_correct {bytes : List UInt8} {attributes : BgpAttributes} (decoded : decode bytes four = .ok attributes) :
    attributes.toPartial.Canonical four ∧ (attributes.toPartial.wire four).length ≤ bytes.length := by
  have step : ∀ (before : Partial × List UInt8) n head tail after skip,
      (before.1.Canonical four ∧ (∀ raw ∈ before.1.unknown_transitive, raw.code ∈ before.2) ∧
        (before.1.wire four).length ≤ n) →
      decode_attribute four before (head :: tail) = .ok (after,skip) →
        skip ≤ tail.length ∧ after.1.Canonical four ∧ (∀ raw ∈ after.1.unknown_transitive, raw.code ∈ after.2) ∧
          (after.1.wire four).length ≤ n + skip + 1 := by
    rintro ⟨state,seen⟩ n head tail ⟨next,codes⟩ skip ⟨canonical,known,size⟩ read
    obtain ⟨code,value,fresh,rfl,valued,inside,length⟩ := decode_attribute_correct read
    simp only at canonical known size
    have new : code ∉ state.unknown_transitive.map (·.code) := by
      intro member
      obtain ⟨raw,present,rfl⟩ := List.mem_map.mp member
      exact fresh (known raw present)
    obtain ⟨kept,grown,origin⟩ := decode_value_correct canonical valued new
    refine ⟨inside,kept,?_,by simp only; omega⟩
    intro raw member
    rcases origin raw member with old | same
    · exact List.mem_cons_of_mem code (known raw old)
    · exact same ▸ List.mem_cons_self
  unfold decode at decoded
  split at decoded
  · cases decoded
  rename_i state codes loop
  have empty : (Partial.initial.wire four).length ≤ 0 := by
    simp [Partial.wire,Partial.parts,Partial.typedParts,Partial.initial]
  have start : Partial.initial.Canonical four := ⟨by simp [Partial.initial],by simp [Partial.initial],
    by simp [Partial.initial],by simp [Partial.initial]⟩
  obtain ⟨canonical,-,size⟩ := while_nonempty_rule (n := 0) step ⟨start,by simp [Partial.initial],empty⟩ loop
  obtain ⟨origin,as_path,next_hop,atomic,med,preference,originator,clusters,unknown⟩ := state
  simp only at decoded
  cases origin with
  | none => cases decoded
  | some origin =>
    cases as_path with
    | none => cases decoded
    | some as_path =>
      cases next_hop with
      | none => cases decoded
      | some next_hop =>
        cases decoded
        exact ⟨canonical,Nat.zero_add bytes.length ▸ size⟩

end BgpAttributes

/-! ### Messages -/

namespace BgpMessage

/-- A frame around a body. -/
def frame (kind : UInt8) (body : List UInt8) : List UInt8 :=
  List.replicate 16 255 ++ be16 (UInt16.ofNat (19 + body.length)) ++ [kind] ++ body

theorem frame_length (kind : UInt8) (body : List UInt8) : (frame kind body).length = 19 + body.length := by
  simp only [frame,List.length_append,List.length_replicate,be16_length,List.length_cons,List.length_nil]

/-- The header of a frame gives its length. -/
theorem message_length_frame {kind : UInt8} (known : ¬ (kind < 1 ∨ 4 < kind)) {body : List UInt8}
    (fits : 19 + body.length ≤ BGP_MAX_MESSAGE) : message_length (frame kind body) = .ok (19 + body.length) := by
  have marker : (frame kind body).take 16 = List.replicate 16 255 := rfl
  have kindByte : (frame kind body).getD 18 0 = kind := rfl
  have number : (u16_at (frame kind body) 16).toNat = 19 + body.length := by
    have field := u16_at_be16 (UInt16.ofNat (19 + body.length)) (kind :: body)
    have same : u16_at (frame kind body) 16 = u16_at (be16 (UInt16.ofNat (19 + body.length)) ++ kind :: body) 0 := rfl
    rw [BGP_MAX_MESSAGE] at fits
    rw [same,field,UInt16.toNat_ofNat']
    omega
  unfold message_length
  rw [if_neg (by rw [frame_length]; omega),if_neg (not_not.mpr marker)]
  simp only [number,kindByte]
  rw [if_neg (by simpa using fits),if_neg (by simpa using known)]

/-- A frame is decoded by its body. -/
theorem decode_frame {kind : UInt8} (known : ¬ (kind < 1 ∨ 4 < kind)) {body : List UInt8}
    (fits : 19 + body.length ≤ BGP_MAX_MESSAGE) (four : Bool) :
    decode (frame kind body) four = decode_body kind body four := by
  have kindByte : (frame kind body).getD 18 0 = kind := rfl
  have behind : (frame kind body).drop 19 = body := rfl
  rw [decode,message_length_frame known fits]
  simp only [frame_length,kindByte,behind,ne_eq,not_true_eq_false,if_false]

variable {message : BgpMessage} {four : Bool}

/-- What a decoded frame was. -/
theorem decode_correct {bytes : List UInt8} (decoded : decode bytes four = .ok message) :
    bytes.length ≤ BGP_MAX_MESSAGE ∧ 19 ≤ bytes.length ∧
      decode_body (bytes.getD 18 0) (bytes.drop 19) four = .ok message := by
  unfold decode message_length at decoded
  split at decoded
  · cases decoded
  rename_i length accepted
  split at decoded
  · cases decoded
  rename_i exactly
  split at accepted
  · cases accepted
  rename_i long
  split at accepted
  · cases accepted
  simp only at accepted
  split at accepted
  · cases accepted
  rename_i range
  split at accepted
  · cases accepted
  cases accepted
  simp only [Bool.or_eq_true,decide_eq_true_eq,not_or] at range
  exact ⟨by omega,by omega,decoded⟩

/-- A frame is encoded by its body. -/
theorem encode_frame {kind : UInt8} {body : List UInt8} (encoded : message.encode_body four = .ok (kind,body))
    (fits : 19 + body.length ≤ BGP_MAX_MESSAGE) :
    message.encode four = .ok (frame kind body) := by
  rw [encode,encoded]
  exact if_neg (not_lt.mpr fits)

/-- Whatever is encoded is a frame of a known kind. -/
theorem encode_cases {encoded : List UInt8} (wrote : message.encode four = .ok encoded) :
    ∃ kind body, ¬ (kind < 1 ∨ 4 < kind) ∧ 19 + body.length ≤ BGP_MAX_MESSAGE ∧ encoded = frame kind body := by
  unfold encode at wrote
  cases written : message.encode_body four with
  | error error =>
    rw [written] at wrote
    cases wrote
  | ok pair =>
    obtain ⟨kind,body⟩ := pair
    rw [written] at wrote
    simp only [bind,Except.bind] at wrote
    split at wrote
    · cases wrote
    · rename_i fits
      cases wrote
      refine ⟨kind,body,?_,not_lt.mp fits,rfl⟩
      cases message with
      | Open opening =>
        simp only [encode_body,bind,Except.bind] at written
        split at written
        · cases written
        · split at written
          · cases written
          · cases written
            decide
      | Update update =>
        simp only [encode_body,bind,Except.bind] at written
        split at written
        · cases written
        · split at written
          · cases written
          · split at written
            · cases written
            · split at written
              · cases written
              · split at written
                · cases written
                · cases written
                  decide
      | Notification code subcode data =>
        simp only [encode_body] at written
        split at written
        · cases written
        · cases written
          decide
      | Keepalive =>
        cases written
        decide

/-- The body of an OPEN. -/
def openWire (opening : BgpOpen) : List UInt8 :=
  let caps := opening.capabilities.flatMap capabilityWire
  [4] ++ be16 opening.autonomous_system ++ be16 opening.hold_time ++ octets opening.router_id ++
    (if caps.isEmpty then [0] else [UInt8.ofNat (caps.length + 2),2,UInt8.ofNat caps.length] ++ caps)

theorem openWire_length (opening : BgpOpen) :
    (openWire opening).length = 10 + (if (opening.capabilities.flatMap capabilityWire).isEmpty then 0
      else 2 + (opening.capabilities.flatMap capabilityWire).length) := by
  simp only [openWire,octets]
  split
  · rfl
  · simp only [List.length_append,List.length_cons,List.length_nil,be16_length,be32_length]
    omega

/-- The parameters of an OPEN are read back from the one that is written. -/
theorem decode_parameters_wire {capabilities : List BgpCapability}
    (canonical : ∀ capability ∈ capabilities, capability.Canonical)
    (short : (capabilities.flatMap capabilityWire).length ≤ 253) :
    while_nonempty decode_parameter [] (2 :: UInt8.ofNat (capabilities.flatMap capabilityWire).length ::
      capabilities.flatMap capabilityWire) = .ok capabilities := by
  have inner : while_nonempty BgpCapability.decode [] (capabilities.flatMap capabilityWire) = .ok capabilities :=
    while_nonempty_flatMap (fun caps capability member rest => decode_capability_wire (canonical capability member) caps rest)
      (fun _ => List.cons_ne_nil _ _) []
  generalize capabilities.flatMap capabilityWire = caps at short inner ⊢
  have size : (UInt8.ofNat caps.length).toNat = caps.length := by
    rw [UInt8.toNat_ofNat']
    omega
  have sliced : slice? (2 :: UInt8.ofNat caps.length :: caps) 2 caps.length = some caps := by
    have shape := slice?_append [2,UInt8.ofNat caps.length] caps [] rfl rfl
    rwa [List.append_nil] at shape
  have read : decode_parameter [] (2 :: UInt8.ofNat caps.length :: caps) = .ok (capabilities,1 + caps.length) := by
    simp [decode_parameter,size,sliced,inner]
  rw [while_nonempty_cons,read]
  simp only
  rw [List.drop_eq_nil_of_le (by rw [List.length_cons]; omega)]
  rfl

variable {b : List UInt8}

theorem open_normal_form (decoded : decode_open b = .ok message) (four : Bool) :
    ∃ body, message.encode_body four = .ok (1,body) ∧ body.length ≤ b.length ∧ decode_open body = .ok message := by
  unfold decode_open at decoded
  split at decoded
  · cases decoded
  rename_i sizes
  simp only [Bool.or_eq_true,decide_eq_true_eq,not_or,not_not] at sizes
  split at decoded
  · cases decoded
  simp only [bind,Except.bind] at decoded
  split at decoded
  · cases decoded
  rename_i capabilities parameters
  split at decoded
  · cases decoded
  rename_i validated valid
  cases decoded
  obtain ⟨canonical,size⟩ := decode_parameters_correct parameters
  have area := (b.getD 9 0).toNat_lt
  rw [List.length_drop] at size
  have short : (capabilities.flatMap capabilityWire).length ≤ 253 := by
    rcases size with none | some
    · rw [none]
      simp
    · omega
  generalize built : (⟨u16_at b 1,u16_at b 3,u32_at b 5,capabilities⟩ : BgpOpen) = opening at valid
  have same : opening.capabilities = capabilities := by rw [← built]
  rw [← same] at canonical size short
  have encoded : (BgpMessage.Open opening).encode_body four = .ok (1,openWire opening) := by
    rw [encode_body,valid]
    simp only [bind,Except.bind]
    rw [encode_capabilities_eq short]
    rfl
  refine ⟨openWire opening,encoded,?_,?_⟩
  · have length := openWire_length opening
    rcases size with none | some
    · rw [none] at length
      simp only [List.flatMap_nil,List.isEmpty_nil,if_true] at length
      omega
    · split at length <;> omega
  · have tailByte : ((openWire opening).getD 9 0).toNat + 10 = (openWire opening).length := by
      rw [openWire_length]
      simp only [openWire]
      split
      · rfl
      · show (UInt8.ofNat ((opening.capabilities.flatMap capabilityWire).length + 2)).toNat + 10 = _
        rw [UInt8.toNat_ofNat']
        omega
    have parameters : while_nonempty decode_parameter [] ((openWire opening).drop 10) = .ok opening.capabilities := by
      simp only [openWire]
      split
      · rename_i empty
        have none : opening.capabilities = [] := by
          cases listed : opening.capabilities with
          | nil => rfl
          | cons capability rest => rw [listed] at empty; cases empty
        rw [none]
        rfl
      · exact decode_parameters_wire canonical short
    have one : u16_at (openWire opening) 1 = opening.autonomous_system := u16_at_be16 opening.autonomous_system []
    have three : u16_at (openWire opening) 3 = opening.hold_time := u16_at_be16 opening.hold_time []
    have five : u32_at (openWire opening) 5 = opening.router_id := u32_at_be32 opening.router_id []
    have version : (openWire opening).getD 0 0 = 4 := rfl
    unfold decode_open
    rw [if_neg (by simp only [Bool.or_eq_true,decide_eq_true_eq,not_or]; omega),if_neg (not_not.mpr version),parameters,one,
      three,five]
    simp only [bind,Except.bind,valid]

/-- The attributes of an UPDATE. -/
def attributesWire (attributes : Option BgpAttributes) (four : Bool) : List UInt8 :=
  attributes.elim [] (fun attributes => attributes.toPartial.wire four)

/-- The body of an UPDATE. -/
def updateWire (update : BgpUpdate) (four : Bool) : List UInt8 :=
  be16 (UInt16.ofNat (update.withdrawn.flatMap prefixWire).length) ++ (update.withdrawn.flatMap prefixWire ++
    (be16 (UInt16.ofNat (attributesWire update.attributes four).length) ++ (attributesWire update.attributes four ++
      update.announced.flatMap prefixWire)))

theorem updateWire_length (update : BgpUpdate) (four : Bool) :
    (updateWire update four).length = 4 + (update.withdrawn.flatMap prefixWire).length +
      (attributesWire update.attributes four).length + (update.announced.flatMap prefixWire).length := by
  simp only [updateWire,List.length_append,be16_length]
  omega

/-- Attributes are never written to nothing. -/
theorem attributesWire_nonempty (attributes : BgpAttributes) (four : Bool) :
    (attributesWire (some attributes) four).isEmpty = false := by
  have length := BgpAttributes.wire_length four attributes.toPartial
  have origin := attributeWire_length ⟨0x40,1,[attributes.origin.byte]⟩
  simp only [BgpAttributes.toPartial,Option.elim_some,origin,List.length_cons,List.length_nil] at length
  cases wire : attributesWire (some attributes) four with
  | nil =>
    have zero : (attributes.toPartial.wire four).length = 0 := congrArg List.length wire
    simp only [BgpAttributes.toPartial] at zero
    omega
  | cons => rfl

theorem encode_update_eq {update : BgpUpdate} {four : Bool}
    (together : ¬ (!update.announced.isEmpty && update.attributes.isNone) = true)
    (canonical : ∀ attributes ∈ update.attributes, attributes.toPartial.Canonical four)
    (fits : 19 + (updateWire update four).length ≤ BGP_MAX_MESSAGE) :
    (BgpMessage.Update update).encode_body four = .ok (2,updateWire update four) := by
  rw [updateWire_length] at fits
  have withdrawn := @encode_prefixes_eq update.withdrawn (by omega)
  have announced := @encode_prefixes_eq update.announced (by omega)
  have attributes : update.attributes.elim (.ok []) (fun attributes => attributes.encode four) =
      .ok (attributesWire update.attributes four) := by
    cases present : update.attributes with
    | none => rfl
    | some attributes =>
      have whole : (attributesWire update.attributes four).length = (attributes.toPartial.wire four).length := by
        rw [present]
        rfl
      exact BgpAttributes.encode_eq (canonical attributes present) (by omega)
  rw [BGP_MAX_MESSAGE] at fits
  rw [encode_body,if_neg together,withdrawn,attributes,announced]
  simp only [bind,Except.bind]
  rw [if_neg (by omega)]
  simp only [updateWire,List.append_assoc]

/-- The three counted parts of an UPDATE. -/
theorem decode_update_parts {first middle last : List UInt8} {withdrawn announced : List Ipv4Network}
    {attributes : Option BgpAttributes} (firstRead : decode_prefixes first = .ok withdrawn)
    (middleRead : (if middle.isEmpty then .ok none else (BgpAttributes.decode middle four).map some) = .ok attributes)
    (lastRead : decode_prefixes last = .ok announced) (together : ¬ (!announced.isEmpty && attributes.isNone) = true)
    (fits : 19 + (4 + first.length + middle.length + last.length) ≤ BGP_MAX_MESSAGE) :
    decode_update (be16 (UInt16.ofNat first.length) ++ (first ++ (be16 (UInt16.ofNat middle.length) ++ (middle ++ last))))
      four = .ok (.Update ⟨withdrawn,attributes,announced⟩) := by
  rw [BGP_MAX_MESSAGE] at fits
  have firstSize : (UInt16.ofNat first.length).toNat = first.length := by
    rw [UInt16.toNat_ofNat']
    omega
  have middleSize : (UInt16.ofNat middle.length).toNat = middle.length := by
    rw [UInt16.toNat_ofNat']
    omega
  unfold decode_update
  have firstSliced := slice?_append (be16 (UInt16.ofNat first.length)) first
    (be16 (UInt16.ofNat middle.length) ++ (middle ++ last)) rfl rfl
  have middleSliced := slice?_append (be16 (UInt16.ofNat middle.length)) middle last rfl rfl
  rw [be16_length] at firstSliced middleSliced
  simp only [u16_at_be16,firstSize,firstSliced,drop_counted]
  rw [if_neg (by simp only [List.length_append,be16_length]; omega)]
  simp only [bind,Except.bind,firstRead]
  rw [if_neg (by rw [List.length_append,be16_length]; omega)]
  simp only [middleSize,middleSliced,drop_counted,lastRead,middleRead]
  rw [if_neg together]

theorem decode_update_wire {update : BgpUpdate}
    (together : ¬ (!update.announced.isEmpty && update.attributes.isNone) = true)
    (canonical : ∀ attributes ∈ update.attributes, attributes.toPartial.Canonical four)
    (fits : 19 + (updateWire update four).length ≤ BGP_MAX_MESSAGE) :
    decode_update (updateWire update four) four = .ok (.Update update) := by
  have length := updateWire_length update four
  rw [length] at fits
  have attributes : (if (attributesWire update.attributes four).isEmpty then .ok none
      else (BgpAttributes.decode (attributesWire update.attributes four) four).map some) = .ok update.attributes := by
    cases present : update.attributes with
    | none => rfl
    | some attributes =>
      have whole : (attributesWire update.attributes four).length = (attributes.toPartial.wire four).length := by
        rw [present]
        rfl
      have read := BgpAttributes.decode_wire (canonical attributes present) (by omega)
      rw [attributesWire_nonempty,if_neg (by simp),attributesWire,Option.elim_some,read]
      rfl
  exact decode_update_parts (decode_prefixes_wire update.withdrawn) attributes (decode_prefixes_wire update.announced)
    together (by omega)

/-- Reading an UPDATE. -/
theorem update_normal_form (decoded : decode_update b four = .ok message) (fits : 19 + b.length ≤ BGP_MAX_MESSAGE) :
    ∃ body, message.encode_body four = .ok (2,body) ∧ body.length ≤ b.length ∧ decode_update body four = .ok message := by
  unfold decode_update at decoded
  split at decoded
  · cases decoded
  rename_i long
  simp only at decoded
  split at decoded
  · cases decoded
  rename_i first firstSliced
  simp only [bind,Except.bind] at decoded
  split at decoded
  · cases decoded
  rename_i withdrawn withdrawnRead
  split at decoded
  · cases decoded
  rename_i more
  split at decoded
  · cases decoded
  rename_i middle middleSliced
  split at decoded
  · cases decoded
  rename_i announced announcedRead
  split at decoded
  · cases decoded
  rename_i attributes attributesRead
  split at decoded
  · cases decoded
  rename_i together
  cases decoded
  obtain ⟨firstInside,-,firstLength⟩ := slice?_eq_some firstSliced
  obtain ⟨middleInside,-,middleLength⟩ := slice?_eq_some middleSliced
  have withdrawnSize := decode_prefixes_length withdrawnRead
  have announcedSize := decode_prefixes_length announcedRead
  rw [List.length_drop] at more middleInside
  rw [List.length_drop,List.length_drop] at announcedSize
  have kept : (∀ present ∈ attributes, present.toPartial.Canonical four) ∧
      (attributesWire attributes four).length ≤ middle.length := by
    split at attributesRead
    · cases attributesRead
      exact ⟨by simp,by simp [attributesWire]⟩
    · cases read : BgpAttributes.decode middle four with
      | error error => rw [read] at attributesRead; cases attributesRead
      | ok present =>
        rw [read] at attributesRead
        cases attributesRead
        obtain ⟨canonical,size⟩ := BgpAttributes.decode_correct read
        refine ⟨?_,size⟩
        rintro _ ⟨⟩
        exact canonical
  have length := updateWire_length ⟨withdrawn,attributes,announced⟩ four
  simp only at length
  have room : 19 + (updateWire ⟨withdrawn,attributes,announced⟩ four).length ≤ BGP_MAX_MESSAGE := by omega
  exact ⟨_,encode_update_eq together kept.1 room,by omega,decode_update_wire together kept.1 room⟩

/-- Reading a NOTIFICATION. -/
theorem notification_normal_form (decoded : decode_notification b = .ok message)
    (fits : 19 + b.length ≤ BGP_MAX_MESSAGE) (four : Bool) :
    ∃ body, message.encode_body four = .ok (3,body) ∧ body.length ≤ b.length ∧ decode_notification body = .ok message := by
  unfold decode_notification at decoded
  split at decoded
  · cases decoded
  rename_i long
  cases decoded
  refine ⟨b.getD 0 0 :: b.getD 1 0 :: b.drop 2,?_,?_,?_⟩
  · rw [encode_body,if_neg (by rw [List.length_drop]; omega)]
  · simp only [List.length_cons,List.length_drop]
    omega
  · rw [decode_notification,if_neg (by simp)]
    rfl

/-- A decoded body is encoded to a body of the same kind, no longer than it was,
    that decodes to the same message. -/
theorem body_normal_form {kind : UInt8} (decoded : decode_body kind b four = .ok message)
    (fits : 19 + b.length ≤ BGP_MAX_MESSAGE) :
    ¬ (kind < 1 ∨ 4 < kind) ∧ ∃ body, message.encode_body four = .ok (kind,body) ∧ body.length ≤ b.length ∧
      decode_body kind body four = .ok message := by
  unfold decode_body at decoded ⊢
  by_cases one : kind = 1
  · subst one
    simp only [if_true] at decoded ⊢
    exact ⟨by decide,open_normal_form decoded four⟩
  by_cases two : kind = 2
  · subst two
    simp only [if_neg one,if_true] at decoded ⊢
    exact ⟨by decide,update_normal_form decoded fits⟩
  by_cases three : kind = 3
  · subst three
    simp only [if_neg one,if_neg two,if_true] at decoded ⊢
    exact ⟨by decide,notification_normal_form decoded fits four⟩
  rw [if_neg one,if_neg two,if_neg three] at decoded
  split at decoded
  · rename_i keepalive
    obtain ⟨rfl,-⟩ := keepalive
    cases decoded
    exact ⟨by decide,[],rfl,Nat.zero_le _,rfl⟩
  · cases decoded

/-- Every message that decodes is encoded again, within the limits of a frame,
    and decodes to itself. -/
theorem bgp_codec_normal_form {bytes : List UInt8} {four : Bool} {message : BgpMessage}
    (decoded : decode bytes four = .ok message) :
    ∃ encoded, message.encode four = .ok encoded ∧ 19 ≤ encoded.length ∧ encoded.length ≤ 4096 ∧
      decode encoded four = .ok message := by
  obtain ⟨short,long,read⟩ := decode_correct decoded
  have fits : 19 + (bytes.drop 19).length ≤ BGP_MAX_MESSAGE := by rw [List.length_drop]; omega
  obtain ⟨known,body,encoded,length,again⟩ := body_normal_form read fits
  have room : 19 + body.length ≤ BGP_MAX_MESSAGE := by omega
  refine ⟨_,encode_frame encoded room,?_,?_,?_⟩
  · rw [frame_length]
    omega
  · rw [frame_length]
    exact room
  · rw [decode_frame known room,again]

/-- An UPDATE with an extended length where none is needed and host bits in an
    announced prefix. -/
theorem bgp_codec_normal_form_update :
    ∃ message encoded, decode (List.replicate 16 255 ++ [0,47,2,0,2,8,10,0,19,0x50,1,0,1,0,0x40,2,4,2,1,0xfd,0xe8,
      0x40,3,4,10,0,0,1,12,192,255]) false = .ok message ∧ message.encode false = .ok encoded ∧ 19 ≤ encoded.length ∧
      encoded.length ≤ 4096 ∧ decode encoded false = .ok message := by
  have decoded : decode (List.replicate 16 255 ++ [0,47,2,0,2,8,10,0,19,0x50,1,0,1,0,0x40,2,4,2,1,0xfd,0xe8,
      0x40,3,4,10,0,0,1,12,192,255]) false = .ok (.Update ⟨[⟨0x0a000000,8,by decide,by decide⟩],
        some ⟨.Igp,[.Sequence [65000]],0x0a000001,false,none,none,none,[],[]⟩,[⟨0xc0f00000,12,by decide,by decide⟩]⟩) := by
    rfl
  obtain ⟨encoded,again⟩ := bgp_codec_normal_form decoded
  exact ⟨_,encoded,decoded,again⟩

end BgpMessage

end Rios.Bgp
