import Rios.OspfNormalForm
import Rios.OspfV3Decode

/-!
# OSPFv3 round trips

What the encoders write is read back, and what the decoders accept can be written
again, for prefixes of every length and for every pair of addresses. Headers in
descriptions and acknowledgments are written unchecked, so that they have to be
within their limits for the packet to be read.
-/

namespace Rios.Ipv6
open Rios.Wire Rios.Transport

/-! ### Addresses -/

/-- The big-endian bytes of a number are read as the number. -/
theorem foldl_bytes (n number : Nat) :
    ((List.range n).map (fun i => UInt8.ofNat (number / 256 ^ (n - 1 - i)))).foldl (fun value byte => value * 256 + byte.toNat) 0 =
      number % 256 ^ n := by
  induction n generalizing number with
  | zero => simp [Nat.mod_one]
  | succ n ih =>
    have front : (List.range n).map (fun i => UInt8.ofNat (number / 256 ^ (n + 1 - 1 - i))) =
        (List.range n).map (fun i => UInt8.ofNat (number / 256 / 256 ^ (n - 1 - i))) := by
      refine List.map_congr_left (fun i inside => ?_)
      have before := List.mem_range.mp inside
      rw [Nat.div_div_eq_div_mul,← Nat.pow_succ',show n + 1 - 1 - i = (n - 1 - i).succ by omega]
    rw [List.range_succ,List.map_append,List.foldl_append,front,ih,List.map_singleton,List.foldl_cons,List.foldl_nil]
    have split := Nat.mod_mul (x := number) (a := 256) (b := 256 ^ n)
    rw [show n + 1 - 1 - n = 0 by omega,Nat.pow_zero,Nat.div_one,UInt8.toNat_ofNat',
      show 256 ^ (n + 1) = 256 * 256 ^ n from Nat.pow_succ',split]
    omega

theorem of_octets_octets (address : Ipv6Addr) : of_octets (octets address) = address := by
  have whole : (octets address).foldl (fun value byte => value * 256 + byte.toNat) 0 = address.toNat % 256 ^ 16 :=
    foldl_bytes 16 address.toNat
  apply BitVec.eq_of_toNat_eq
  rw [of_octets,BitVec.toNat_ofNat,whole,Nat.mod_mod_of_dvd _ (by norm_num)]
  exact Nat.mod_eq_of_lt address.isLt

/-- A masked address is a multiple of the size of its network. -/
theorem mask_dvd {address : Ipv6Addr} {prefix_len : UInt8}
    (canonical : address &&& mask prefix_len = address) : 2 ^ (128 - prefix_len.toNat) ∣ address.toNat := by
  have low : ∀ i < 128 - prefix_len.toNat, address.getLsbD i = false := by
    intro i inside
    rw [← canonical,BitVec.getLsbD_and,mask]
    by_cases zero : prefix_len = 0
    · rw [if_pos zero]
      simp
    · rw [if_neg zero]
      simp [inside]
  refine Nat.dvd_of_mod_eq_zero (Nat.eq_of_testBit_eq (fun i => ?_))
  rw [Nat.testBit_mod_two_pow,Nat.zero_testBit]
  by_cases inside : i < 128 - prefix_len.toNat
  · have bit := low i inside
    rw [BitVec.getLsbD] at bit
    rw [bit,Bool.and_false]
  · simp [inside]

/-- The octets behind those that a length needs are zero. -/
theorem octets_unused (self : Ipv6Network) :
    (octets self.address).drop ((self.prefix_len.toNat + 31) / 32 * 4) = List.replicate (16 - (self.prefix_len.toNat +
        31) / 32 * 4) 0 := by
  obtain ⟨address,prefix_len,short,canonical⟩ := self
  have bound : prefix_len.toNat ≤ 128 := UInt8.le_iff_toNat_le.mp short
  obtain ⟨multiple,whole⟩ := mask_dvd canonical
  refine List.eq_replicate_iff.mpr ⟨by rw [List.length_drop,octets_length],fun byte member => ?_⟩
  obtain ⟨i,inside,rfl⟩ := List.getElem_of_mem member
  rw [List.length_drop,octets_length] at inside
  dsimp only at inside ⊢
  rw [List.getElem_drop]
  simp only [octets,List.getElem_map,List.getElem_range]
  obtain ⟨left,last⟩ : ∃ left, 15 - ((prefix_len.toNat + 31) / 32 * 4 + i) = left := ⟨_,rfl⟩
  obtain ⟨extra,size⟩ : ∃ extra, 128 - prefix_len.toNat = 8 * (left + 1) + extra :=
    ⟨128 - prefix_len.toNat - 8 * (left + 1),by omega⟩
  have divided : address.toNat / 256 ^ left = 256 * (2 ^ extra * multiple) := by
    rw [whole,size,Nat.pow_add,Nat.pow_mul,Nat.pow_succ,show 2 ^ 8 = 256 by norm_num,Nat.mul_assoc,Nat.mul_assoc,
      Nat.mul_div_cancel_left _ (by positivity)]
  rw [last,divided]
  apply UInt8.toNat.inj
  rw [UInt8.toNat_ofNat',Nat.mul_mod_right]
  rfl

theorem network_new_self (self : Ipv6Network) : Ipv6Network.new self.address self.prefix_len = some self := by
  obtain ⟨address,prefix_len,short,canonical⟩ := self
  rw [Ipv6Network.new,dif_pos short]
  simp only [canonical]

/-! ### The checksum -/

/-- Two rounds leave sixteen bits of a 32-bit sum, and the same number modulo `0xffff`. -/
theorem fold_total_five (total : Nat) (small : total < 2 ^ 32) :
    fold_total 5 total ≤ 65535 ∧ fold_total 5 total % 65535 = total % 65535 ∧ (fold_total 5 total = 0 ↔ total = 0) := by
  have done : ∀ rounds sum, sum ≤ 65535 → fold_total rounds sum = sum := by
    intro rounds sum short
    cases rounds with
    | zero => rfl
    | succ rounds => rw [fold_total,if_neg (by omega)]
  rw [fold_total]
  by_cases carried : total / 65536 ≠ 0
  · rw [if_pos carried,fold_total]
    by_cases again : (total % 65536 + total / 65536) / 65536 ≠ 0
    · rw [if_pos again,done 3 _ (by omega)]
      omega
    · rw [if_neg again]
      omega
  · rw [if_neg carried]
    omega

/-- What the checksum sums up besides the payload and its length. -/
theorem ipv6_checksum_eq (source destination : Ipv6Addr) (protocol : NextHeader) (payload : List UInt8) :
    ipv6_checksum source destination protocol payload =
      ~~~ UInt16.ofNat (fold_total 5 (words (octets source) + words (octets destination) + payload.length / 65536 +
        payload.length % 65536 + protocol.number.toNat + words payload)) := rfl

/-- A field that was zero and is filled with the checksum makes the checksum zero. -/
theorem ipv6_checksum_fills (source destination : Ipv6Addr) (protocol : NextHeader) (front rest : List UInt8)
    (even : front.length % 2 = 0) (fits : front.length + 2 + rest.length ≤ 65535) :
    ipv6_checksum source destination protocol (front ++ (be16 (ipv6_checksum source destination protocol (front ++ ([0,0] ++ rest))) ++
      rest)) = 0 := by
  have split : ∀ x : UInt16, words (front ++ (be16 x ++ rest)) = words front + x.toNat + words rest := by
    intro x
    rw [words_append front _ even,words_append (be16 x) _ (by simp),words_be16]
    omega
  have length : ∀ x : UInt16, (front ++ (be16 x ++ rest)).length = front.length + 2 + rest.length := by
    intro x
    rw [List.length_append,List.length_append,be16_length]
    omega
  have front_small := words_le front
  have rest_small := words_le rest
  have source_small := words_le (octets source)
  have destination_small := words_le (octets destination)
  have number := protocol.number.toNat_lt
  rw [octets_length] at source_small destination_small
  have zero : front ++ ([0,0] ++ rest) = front ++ (be16 0 ++ rest) := rfl
  have others : ∃ others, others ≤ 1200000 ∧ ∀ x : UInt16, ipv6_checksum source destination protocol (front ++ (be16 x ++ rest)) =
      ~~~ UInt16.ofNat (fold_total 5 (others + (words front + x.toNat + words rest))) := by
    refine ⟨words (octets source) + words (octets destination) + (front.length + 2 + rest.length) / 65536 +
      (front.length + 2 + rest.length) % 65536 + protocol.number.toNat,by omega,fun x => ?_⟩
    rw [ipv6_checksum_eq,split,length]
  obtain ⟨others,few,check⟩ := others
  rw [zero,check 0]
  have first := fold_total_five (others + (words front + (0 : UInt16).toNat + words rest))
    (by simp only [UInt16.toNat_zero]; omega)
  simp only [UInt16.toNat_zero] at first ⊢
  generalize fold_total 5 (others + (words front + 0 + words rest)) = folded at first
  have filled : (~~~ UInt16.ofNat folded).toNat = 65535 - folded := by
    rw [UInt16.toNat_not,UInt16.toNat_ofNat_of_lt' (by simp only [UInt16.size]; omega),UInt16.size]
  rw [check,filled]
  have second := fold_total_five (others + (words front + (65535 - folded) + words rest)) (by omega)
  have full : fold_total 5 (others + (words front + (65535 - folded) + words rest)) = 65535 := by omega
  rw [full]
  decide

end Rios.Ipv6

namespace Rios.OspfV3
open Rios.Device Rios.Wire Rios.Ospf Rios.Ipv6

/-! ### Options -/

/-- Options of three bytes, behind another byte. -/
theorem options_bytes {flags : UInt8} {options : UInt32} (small : options ≤ 0xffffff) :
    (flags.toUInt32 <<< 24 ||| options).toNat = 16777216 * flags.toNat + options.toNat := by
  have bound : options.toNat ≤ 16777215 := UInt32.le_iff_toNat_le.mp small
  have byte := flags.toNat_lt
  have shifted : (flags.toUInt32 <<< 24).toNat = 2 ^ 24 * flags.toNat := by
    rw [UInt32.toNat_shiftLeft,UInt8.toNat_toUInt32]
    show flags.toNat <<< 24 % 2 ^ 32 = _
    rw [Nat.shiftLeft_eq]
    omega
  rw [UInt32.toNat_or,shifted,← Nat.two_pow_add_eq_or_of_lt (by omega)]

theorem options_first {flags : UInt8} {options : UInt32} (small : options ≤ 0xffffff) (rest : List UInt8) :
    (be32 (flags.toUInt32 <<< 24 ||| options) ++ rest).getD 0 0 = flags := by
  have byte := flags.toNat_lt
  have bound : options.toNat ≤ 16777215 := UInt32.le_iff_toNat_le.mp small
  apply UInt8.toNat.inj
  rw [be32,options_bytes small]
  show (UInt8.ofNat _).toNat = _
  rw [UInt8.toNat_ofNat']
  omega

theorem options_masked {flags : UInt8} {options : UInt32} (small : options ≤ 0xffffff) :
    (flags.toUInt32 <<< 24 ||| options) &&& 0xffffff = options := by
  have bound : options.toNat ≤ 16777215 := UInt32.le_iff_toNat_le.mp small
  apply UInt32.toNat.inj
  rw [UInt32.toNat_and,options_bytes small]
  show _ &&& (2 ^ 24 - 1) = _
  rw [Nat.and_two_pow_sub_one_eq_mod]
  omega

theorem masked_small (word : UInt32) : ¬ 0xffffff < word &&& 0xffffff := by
  rw [not_lt,UInt32.le_iff_toNat_le,UInt32.toNat_and]
  exact Nat.and_le_right

/-! ### Headers -/

/-- The limits of a header that was read. -/
structure OspfV3LsaHeader.Ranged (header : OspfV3LsaHeader) : Prop where
  young : header.age ≤ LSA_MAX_AGE
  valid : header.sequence ≠ Int32.minValue
  long : 20 ≤ header.length
  unreserved : header.key.kind &&& 0x6000 ≠ 0x6000

theorem OspfV3LsaHeader.Ranged.decode_encode {header : OspfV3LsaHeader} (ranged : header.Ranged) (rest : List UInt8) :
    OspfV3LsaHeader.decode (header.encode ++ rest) = .ok header := by
  obtain ⟨age,⟨kind,id,router⟩,sequence,checksum,length⟩ := header
  have young : ¬ LSA_MAX_AGE < age := not_lt.mpr ranged.young
  have valid : sequence ≠ Int32.minValue := ranged.valid
  have long : ¬ length < 20 := not_lt.mpr ranged.long
  have unreserved : kind &&& 0x6000 ≠ 0x6000 := ranged.unreserved
  have whole : ¬ (OspfV3LsaHeader.encode ⟨age,⟨kind,id,router⟩,sequence,checksum,length⟩ ++ rest).length < 20 := by
    rw [List.length_append,OspfV3LsaHeader.encode_length]
    omega
  rw [OspfV3LsaHeader.decode,if_neg whole]
  simp [OspfV3LsaHeader.encode,be16,be32,u16_at,u32_at,Lsa.from_be16_bytes,Lsa.from_be32_bytes,young,long,valid,unreserved]

theorem OspfV3LsaHeader.decode_ok {bytes : List UInt8} {header : OspfV3LsaHeader}
    (decoded : OspfV3LsaHeader.decode bytes = .ok header) : 20 ≤ bytes.length ∧ header.Ranged := by
  unfold OspfV3LsaHeader.decode at decoded
  by_cases short : bytes.length < 20
  · rw [if_pos short] at decoded
    cases decoded
  · rw [if_neg short] at decoded
    dsimp only at decoded
    split_ifs at decoded with outside
    cases decoded
    simp only [not_or,not_lt] at outside
    exact ⟨not_lt.mp short,⟨outside.1,outside.2.1,outside.2.2.1,outside.2.2.2⟩⟩

/-! ### Prefixes -/

/-- The bytes of one prefix. -/
def OspfV3Prefix.bytes (self : OspfV3Prefix) : List UInt8 :=
  [self.network.prefix_len,self.options] ++ be16 self.metric ++
    (octets self.network.address).take ((self.network.prefix_len.toNat + 31) / 32 * 4)

/-- The prefixes of a link carry no metric. -/
def Metrics (metric : Bool) (prefixes : List OspfV3Prefix) : Prop := metric = false → ∀ p ∈ prefixes, p.metric = 0

theorem OspfV3Prefix.bytes_length (self : OspfV3Prefix) :
    self.bytes.length = 4 + (self.network.prefix_len.toNat + 31) / 32 * 4 := by
  have short : self.network.prefix_len.toNat ≤ 128 := UInt8.le_iff_toNat_le.mp self.network.short
  rw [bytes,List.length_append,List.length_take,octets_length]
  simp
  omega

theorem encode_prefix_eq (metric : Bool) (out : List UInt8) (p : OspfV3Prefix) :
    encode_prefix metric out p = if metric = false ∧ p.metric ≠ 0 then .error .Malformed
      else if 65535 < out.length + p.bytes.length then .error .TooLarge else .ok (out ++ p.bytes) := by
  rw [OspfV3Prefix.bytes_length,← Nat.add_assoc]
  unfold encode_prefix
  simp only [OspfV3Prefix.bytes,List.append_assoc]

variable {prefixes : List OspfV3Prefix} {metric : Bool}

/-- Prefixes that were written are their bytes, one after the other. -/
theorem encode_prefixes_ok {out whole : List UInt8} (encoded : encode_prefixes out prefixes metric = .ok whole) :
    whole = out ++ prefixes.flatMap OspfV3Prefix.bytes ∧ Metrics metric prefixes := by
  unfold encode_prefixes at encoded
  induction prefixes generalizing out with
  | nil =>
    cases encoded
    exact ⟨(List.append_nil _).symm,fun _ _ impossible => by cases impossible⟩
  | cons p rest ih =>
    rw [List.foldlM_cons,encode_prefix_eq] at encoded
    by_cases costly : metric = false ∧ p.metric ≠ 0
    · rw [if_pos costly] at encoded
      cases encoded
    by_cases large : 65535 < out.length + p.bytes.length
    · rw [if_neg costly,if_pos large] at encoded
      cases encoded
    · rw [if_neg costly,if_neg large] at encoded
      obtain ⟨rfl,metrics⟩ := ih encoded
      refine ⟨by rw [List.flatMap_cons,List.append_assoc],fun free q member => ?_⟩
      rcases List.mem_cons.mp member with rfl | later
      · exact not_not.mp (fun cost => costly ⟨free,cost⟩)
      · exact metrics free q later

/-- Prefixes that fit are written. -/
theorem encode_prefixes_fit (metrics : Metrics metric prefixes) (out : List UInt8)
    (fits : out.length + (prefixes.flatMap OspfV3Prefix.bytes).length ≤ 65535) :
    encode_prefixes out prefixes metric = .ok (out ++ prefixes.flatMap OspfV3Prefix.bytes) := by
  refine foldlM_wire (fun out p member room => ?_) fits
  rw [encode_prefix_eq,if_neg (fun costly => costly.2 (metrics costly.1 p member)),if_neg (not_lt.mpr room)]

theorem decode_prefix_bytes (self : OspfV3Prefix) (metrics : metric = false → self.metric = 0) (rest : List UInt8) :
    decode_prefix metric (self.bytes ++ rest) = .ok (self,self.bytes.length) := by
  have short : self.network.prefix_len.toNat ≤ 128 := UInt8.le_iff_toNat_le.mp self.network.short
  have size := self.bytes_length
  have taken : ((octets self.network.address).take ((self.network.prefix_len.toNat + 31) / 32 * 4)).length =
      (self.network.prefix_len.toNat + 31) / 32 * 4 := by
    rw [List.length_take,octets_length]
    omega
  have sliced : slice? (self.bytes ++ rest) 4 ((self.network.prefix_len.toNat + 31) / 32 * 4) =
      some ((octets self.network.address).take ((self.network.prefix_len.toNat + 31) / 32 * 4)) := by
    rw [OspfV3Prefix.bytes,List.append_assoc]
    exact slice?_append _ _ rest rfl taken
  have whole : (octets self.network.address).take ((self.network.prefix_len.toNat + 31) / 32 * 4) ++
      List.replicate (16 - (self.network.prefix_len.toNat + 31) / 32 * 4) 0 = octets self.network.address := by
    rw [← octets_unused,List.take_append_drop]
  have first : (self.bytes ++ rest).getD 0 0 = self.network.prefix_len := rfl
  have second : (self.bytes ++ rest).getD 1 0 = self.options := rfl
  have cost : (if metric then u16_at (self.bytes ++ rest) 2 else 0) = self.metric := by
    have written : u16_at (self.bytes ++ rest) 2 = self.metric := by
      rw [OspfV3Prefix.bytes,List.append_assoc,List.append_assoc]
      exact u16_at_be16 self.metric
        ((octets self.network.address).take ((self.network.prefix_len.toNat + 31) / 32 * 4) ++ rest)
    cases metric with
    | true => rw [if_pos rfl,written]
    | false => exact (metrics rfl).symm
  have bounded : ¬ ((self.bytes ++ rest).length < 4 ∨ 128 < (self.bytes ++ rest).getD 0 0) := by
    rw [first,List.length_append]
    exact not_or.mpr ⟨by omega,not_lt.mpr self.network.short⟩
  rw [ decode_prefix,if_neg bounded,first]
  dsimp only
  rw [sliced]
  dsimp only
  rw [whole,of_octets_octets,network_new_self,second,cost,← size]

theorem decode_prefix_rounds_flatMap (metrics : Metrics metric prefixes) :
    decode_prefix_rounds metric prefixes.length (prefixes.flatMap OspfV3Prefix.bytes) = .ok (prefixes,[]) := by
  induction prefixes with
  | nil => rfl
  | cons p rest ih =>
    have first := decode_prefix_bytes p (fun free => metrics free p List.mem_cons_self) (rest.flatMap OspfV3Prefix.bytes)
    have later := ih (fun free q member => metrics free q (List.mem_cons_of_mem p member))
    rw [List.flatMap_cons,List.length_cons,decode_prefix_rounds,first]
    dsimp only
    rw [List.drop_left,later]

theorem prefixes_length (prefixes : List OspfV3Prefix) :
    4 * prefixes.length ≤ (prefixes.flatMap OspfV3Prefix.bytes).length := by
  induction prefixes with
  | nil => simp
  | cons p rest ih =>
    have size := p.bytes_length
    rw [List.flatMap_cons,List.length_cons,List.length_append]
    omega

theorem decode_prefixes_flatMap (metrics : Metrics metric prefixes) :
    decode_prefixes (prefixes.flatMap OspfV3Prefix.bytes) prefixes.length metric = .ok prefixes := by
  have enough := prefixes_length prefixes
  rw [decode_prefixes,if_neg (by omega),decode_prefix_rounds_flatMap metrics]
  rfl

/-- A prefix that was read took the bytes that it is written with. -/
theorem decode_prefix_ok {rest : List UInt8} {p : OspfV3Prefix} {taken : Nat}
    (decoded : decode_prefix metric rest = .ok (p,taken)) :
    p.bytes.length = taken ∧ taken ≤ rest.length ∧ (metric = false → p.metric = 0) := by
  unfold decode_prefix at decoded
  by_cases malformed : rest.length < 4 ∨ 128 < rest.getD 0 0
  · rw [if_pos malformed] at decoded
    cases decoded
  rw [if_neg malformed] at decoded
  dsimp only at decoded
  cases sliced : slice? rest 4 (((rest.getD 0 0).toNat + 31) / 32 * 4) with
  | none => rw [sliced] at decoded; cases decoded
  | some address =>
    rw [sliced] at decoded
    dsimp only at decoded
    obtain ⟨inside,-⟩ := slice?_eq_some sliced
    rw [Ipv6Network.new,dif_pos (not_lt.mp (not_or.mp malformed).2)] at decoded
    cases decoded
    refine ⟨OspfV3Prefix.bytes_length _,inside,fun free => ?_⟩
    rw [free]
    rfl

theorem decode_prefix_rounds_ok {bytes rest : List UInt8} {count : Nat}
    (decoded : decode_prefix_rounds metric count bytes = .ok (prefixes,rest)) :
    prefixes.length = count ∧ (prefixes.flatMap OspfV3Prefix.bytes).length + rest.length = bytes.length ∧
      Metrics metric prefixes := by
  induction count generalizing bytes prefixes with
  | zero =>
    cases decoded
    exact ⟨rfl,by simp,fun _ _ impossible => by cases impossible⟩
  | succ count ih =>
    rw [decode_prefix_rounds] at decoded
    cases first : decode_prefix metric bytes with
    | error error => rw [first] at decoded; cases decoded
    | ok pair =>
      obtain ⟨p,taken⟩ := pair
      cases others : decode_prefix_rounds metric count (bytes.drop taken) with
      | error error => simp only [first,others] at decoded; cases decoded
      | ok pair =>
        obtain ⟨more,left⟩ := pair
        simp only [first,others] at decoded
        cases decoded
        obtain ⟨size,inside,free⟩ := decode_prefix_ok first
        obtain ⟨counted,total,metrics⟩ := ih others
        rw [List.length_drop] at total
        refine ⟨congrArg Nat.succ counted,by rw [List.flatMap_cons,List.length_append]; omega,fun zero q member => ?_⟩
        rcases List.mem_cons.mp member with rfl | later
        · exact free zero
        · exact metrics zero q later

/-- Prefixes that were read take the bytes that they were read from. -/
theorem decode_prefixes_ok {bytes : List UInt8} {count : Nat}
    (decoded : decode_prefixes bytes count metric = .ok prefixes) :
    prefixes.length = count ∧ (prefixes.flatMap OspfV3Prefix.bytes).length = bytes.length ∧ Metrics metric prefixes := by
  unfold decode_prefixes at decoded
  split_ifs at decoded with many
  cases rounds : decode_prefix_rounds metric count bytes with
  | error error => rw [rounds] at decoded; cases decoded
  | ok pair =>
    obtain ⟨found,rest⟩ := pair
    rw [rounds] at decoded
    dsimp only at decoded
    split_ifs at decoded with left
    cases decoded
    obtain ⟨counted,total,metrics⟩ := decode_prefix_rounds_ok rounds
    rw [not_not.mp left,List.length_nil,Nat.add_zero] at total
    exact ⟨counted,total,metrics⟩

/-! ### Bodies of advertisements -/

theorem OspfV3RouterLink.encode_length (self : OspfV3RouterLink) : self.encode.length = 16 := rfl

theorem OspfV3RouterLink.decode_encode (self : OspfV3RouterLink) : OspfV3RouterLink.decode self.encode = .ok self := by
  obtain ⟨kind,metric,interface,neighbor,router⟩ := self
  have read : OspfV3LinkType.of_byte kind.byte = .ok kind := by cases kind <;> rfl
  simp [OspfV3RouterLink.decode,OspfV3RouterLink.encode,be16,be32,u16_at,u32_at,read,Lsa.from_be16_bytes,Lsa.from_be32_bytes]

namespace OspfV3LsaBody

/-- The type of a body. -/
def kind : OspfV3LsaBody → UInt16
  | .Router .. => V3_ROUTER_LSA
  | .Network .. => V3_NETWORK_LSA
  | .Link .. => V3_LINK_LSA
  | .IntraAreaPrefix .. => V3_INTRA_AREA_PREFIX_LSA
  | .Unknown kind _ => kind

theorem key_kind (lsa : OspfV3Lsa) : lsa.key.kind = lsa.body.kind := by
  obtain ⟨age,id,router,sequence,body⟩ := lsa
  cases body <;> rfl

theorem options_word_ok {flags : UInt8} {options : UInt32} {word : List UInt8}
    (encoded : options_word flags options = .ok word) :
    options ≤ 0xffffff ∧ word = be32 (flags.toUInt32 <<< 24 ||| options) := by
  unfold options_word at encoded
  split_ifs at encoded with large
  cases encoded
  exact ⟨not_lt.mp large,rfl⟩

/-- What a body adds to its header is read back. -/
theorem decode_encode {self : OspfV3LsaBody} {out whole : List UInt8} (encoded : self.encode out = .ok whole) :
    ∃ tail, whole = out ++ tail ∧ OspfV3LsaBody.decode self.kind tail = .ok self ∧ self.kind &&& 0x6000 ≠ 0x6000 := by
  cases self with
  | Router flags options links =>
    rw [OspfV3LsaBody.encode] at encoded
    cases written : options_word flags options with
    | error error => rw [written] at encoded; cases encoded
    | ok word =>
      rw [written] at encoded
      dsimp only at encoded
      split_ifs at encoded with large
      cases encoded
      obtain ⟨small,rfl⟩ := options_word_ok written
      refine ⟨be32 (flags.toUInt32 <<< 24 ||| options) ++ links.flatMap OspfV3RouterLink.encode,List.append_assoc ..,?_,
        by show V3_ROUTER_LSA &&& 0x6000 ≠ 0x6000; decide⟩
      have length := flatMap_length OspfV3RouterLink.encode_length links
      have read := mapM_map (fun (link : OspfV3RouterLink) (_ : link ∈ links) => link.decode_encode)
      have rest : (be32 (flags.toUInt32 <<< 24 ||| options) ++ links.flatMap OspfV3RouterLink.encode).drop 4 =
          links.flatMap OspfV3RouterLink.encode := rfl
      rw [OspfV3LsaBody.decode,kind,if_pos rfl,if_neg (by rw [List.length_append,be32_length,length]; omega),rest,
        groups_flatMap (by norm_num) OspfV3RouterLink.encode_length,read,options_first small,u32_at_be32,options_masked small]
  | Network options routers =>
    rw [OspfV3LsaBody.encode] at encoded
    cases written : options_word 0 options with
    | error error => rw [written] at encoded; cases encoded
    | ok word =>
      rw [written] at encoded
      dsimp only at encoded
      split_ifs at encoded with large
      cases encoded
      obtain ⟨small,rfl⟩ := options_word_ok written
      refine ⟨be32 ((0 : UInt8).toUInt32 <<< 24 ||| options) ++ routers.flatMap be32,List.append_assoc ..,?_,
        by show V3_NETWORK_LSA &&& 0x6000 ≠ 0x6000; decide⟩
      have length := flatMap_be32_length routers
      have rest : (be32 ((0 : UInt8).toUInt32 <<< 24 ||| options) ++ routers.flatMap be32).drop 4 = routers.flatMap be32 := rfl
      rw [OspfV3LsaBody.decode,kind,if_neg (by decide),if_pos rfl,if_neg (by rw [List.length_append,be32_length,length]; omega),
        rest,chunks32_flatMap,u32_at_be32,options_masked small]
  | Link priority options link_local prefixes =>
    rw [OspfV3LsaBody.encode] at encoded
    by_cases scope : ¬ is_unicast_link_local link_local
    · rw [if_pos scope] at encoded
      cases encoded
    rw [if_neg scope] at encoded
    cases written : options_word priority options with
    | error error => rw [written] at encoded; cases encoded
    | ok word =>
      rw [written] at encoded
      dsimp only at encoded
      split_ifs at encoded with large
      obtain ⟨rfl,metrics⟩ := encode_prefixes_ok encoded
      obtain ⟨small,rfl⟩ := options_word_ok written
      have count : (UInt32.ofNat prefixes.length).toNat = prefixes.length :=
        UInt32.toNat_ofNat_of_lt' (by simp only [UInt32.size]; omega)
      refine ⟨be32 (priority.toUInt32 <<< 24 ||| options) ++ (octets link_local ++ (be32 (UInt32.ofNat prefixes.length) ++
        prefixes.flatMap OspfV3Prefix.bytes)),by simp only [List.append_assoc],?_,by show V3_LINK_LSA &&& 0x6000 ≠ 0x6000; decide⟩
      have read := decode_prefixes_flatMap metrics
      generalize prefixes.flatMap OspfV3Prefix.bytes = bytes at read
      have size := octets_length link_local
      have address : ((be32 (priority.toUInt32 <<< 24 ||| options) ++ (octets link_local ++
          (be32 (UInt32.ofNat prefixes.length) ++ bytes))).drop 4).take 16 = octets link_local := by
        rw [List.drop_left' (be32_length _),List.take_left' size]
      have number : u32_at (be32 (priority.toUInt32 <<< 24 ||| options) ++ (octets link_local ++
          (be32 (UInt32.ofNat prefixes.length) ++ bytes))) 20 = UInt32.ofNat prefixes.length := by
        rw [← List.append_assoc,u32_at_append _ _ (by rw [List.length_append,be32_length,size]),u32_at_be32]
      have rest : (be32 (priority.toUInt32 <<< 24 ||| options) ++ (octets link_local ++
          (be32 (UInt32.ofNat prefixes.length) ++ bytes))).drop 24 = bytes := by
        rw [← List.append_assoc,← List.append_assoc]
        exact List.drop_left' (by simp only [List.length_append,be32_length,size])
      have long : ¬ (be32 (priority.toUInt32 <<< 24 ||| options) ++ (octets link_local ++
          (be32 (UInt32.ofNat prefixes.length) ++ bytes))).length < 24 := by
        simp only [List.length_append,be32_length,size]
        omega
      rw [OspfV3LsaBody.decode,kind,if_neg (by decide),if_neg (by decide),if_pos rfl,if_neg long,address,of_octets_octets]
      dsimp only
      rw [if_neg scope,rest,number,count,read,options_first small,u32_at_be32,options_masked small]
  | IntraAreaPrefix reference prefixes =>
    rw [OspfV3LsaBody.encode] at encoded
    by_cases other : reference.kind ≠ V3_ROUTER_LSA ∧ reference.kind ≠ V3_NETWORK_LSA
    · rw [if_pos other] at encoded
      cases encoded
    by_cases large : 65536 ≤ prefixes.length
    · rw [if_neg other,if_pos large] at encoded
      cases encoded
    rw [if_neg other,if_neg large] at encoded
    obtain ⟨rfl,metrics⟩ := encode_prefixes_ok encoded
    have count : (UInt16.ofNat prefixes.length).toNat = prefixes.length :=
      UInt16.toNat_ofNat_of_lt' (by simp only [UInt16.size]; omega)
    obtain ⟨type,id,router⟩ := reference
    refine ⟨be16 (UInt16.ofNat prefixes.length) ++ (be16 type ++ (be32 id ++ (be32 router ++
      prefixes.flatMap OspfV3Prefix.bytes))),by simp only [List.append_assoc],?_,
      by show V3_INTRA_AREA_PREFIX_LSA &&& 0x6000 ≠ 0x6000; decide⟩
    have read := decode_prefixes_flatMap metrics
    generalize prefixes.flatMap OspfV3Prefix.bytes = bytes at read
    have number : u16_at (be16 (UInt16.ofNat prefixes.length) ++ (be16 type ++ (be32 id ++ (be32 router ++ bytes)))) 0 =
        UInt16.ofNat prefixes.length := u16_at_be16 _ _
    have kind_ : u16_at (be16 (UInt16.ofNat prefixes.length) ++ (be16 type ++ (be32 id ++ (be32 router ++ bytes)))) 2 = type :=
      u16_at_be16 type (be32 id ++ (be32 router ++ bytes))
    have id_ : u32_at (be16 (UInt16.ofNat prefixes.length) ++ (be16 type ++ (be32 id ++ (be32 router ++ bytes)))) 4 = id :=
      u32_at_be32 id (be32 router ++ bytes)
    have router_ : u32_at (be16 (UInt16.ofNat prefixes.length) ++ (be16 type ++ (be32 id ++ (be32 router ++ bytes)))) 8 = router :=
      u32_at_be32 router bytes
    have rest : (be16 (UInt16.ofNat prefixes.length) ++ (be16 type ++ (be32 id ++ (be32 router ++ bytes)))).drop 12 =
      bytes := rfl
    have long : ¬ (be16 (UInt16.ofNat prefixes.length) ++ (be16 type ++ (be32 id ++ (be32 router ++ bytes)))).length < 12 := by
      simp only [List.length_append,be16_length,be32_length]
      omega
    rw [OspfV3LsaBody.decode,kind,if_neg (by decide),if_neg (by decide),if_neg (by decide),if_pos rfl,if_neg long,
      number,kind_,id_,router_,rest,count]
    dsimp only
    rw [if_neg other,read]
  | Unknown type bytes =>
    rw [OspfV3LsaBody.encode] at encoded
    by_cases reserved : known_kind type ∨ type &&& 0x6000 = 0x6000
    · rw [if_pos reserved] at encoded
      cases encoded
    rw [if_neg reserved] at encoded
    split_ifs at encoded with large
    cases encoded
    obtain ⟨unknown,unreserved⟩ := not_or.mp reserved
    refine ⟨bytes,rfl,?_,unreserved⟩
    simp only [known_kind,decide_eq_true_eq,not_or] at unknown
    rw [OspfV3LsaBody.decode,kind,if_neg unknown.1,if_neg unknown.2.1,if_neg unknown.2.2.1,if_neg unknown.2.2.2]

/-- A body that was read can be written behind a header, with the length it was read from. -/
theorem encode_of_decode {type : UInt16} {b out : List UInt8} {body : OspfV3LsaBody} (unreserved : type &&& 0x6000 ≠ 0x6000)
    (header : out.length = 20) (short : b.length ≤ 65515) (decoded : OspfV3LsaBody.decode type b = .ok body) :
    body.kind = type ∧ ∃ whole, body.encode out = .ok whole ∧ whole.length = 20 + b.length := by
  unfold OspfV3LsaBody.decode at decoded
  by_cases router : type = V3_ROUTER_LSA
  · rw [if_pos router] at decoded
    split_ifs at decoded with malformed
    cases read : (groups 16 (b.drop 4)).mapM OspfV3RouterLink.decode with
    | error error => rw [read] at decoded; cases decoded
    | ok links =>
      rw [read] at decoded
      cases decoded
      obtain ⟨count,-⟩ := mapM_ok read
      rw [groups_length,List.length_drop] at count
      have length := flatMap_length OspfV3RouterLink.encode_length links
      refine ⟨router.symm,_,by rw [OspfV3LsaBody.encode,options_word,if_neg (masked_small _)]; exact if_neg (by omega),?_⟩
      simp only [List.length_append,be32_length,length,header]
      omega
  rw [if_neg router] at decoded
  by_cases network : type = V3_NETWORK_LSA
  · rw [if_pos network] at decoded
    split_ifs at decoded with malformed
    cases decoded
    have count := chunks32_length (b.drop 4)
    rw [List.length_drop] at count
    refine ⟨network.symm,_,by rw [OspfV3LsaBody.encode,options_word,if_neg (masked_small _)]; exact if_neg (by omega),?_⟩
    simp only [List.length_append,be32_length,flatMap_be32_length,header]
    omega
  rw [if_neg network] at decoded
  by_cases link : type = V3_LINK_LSA
  · rw [if_pos link] at decoded
    dsimp only at decoded
    by_cases few : b.length < 24
    · rw [if_pos few] at decoded
      cases decoded
    by_cases scope : ¬ is_unicast_link_local (of_octets ((b.drop 4).take 16))
    · rw [if_neg few,if_pos scope] at decoded
      cases decoded
    rw [if_neg few,if_neg scope] at decoded
    cases read : decode_prefixes (b.drop 24) (u32_at b 20).toNat false with
    | error error => rw [read] at decoded; cases decoded
    | ok prefixes =>
      rw [read] at decoded
      cases decoded
      obtain ⟨count,total,metrics⟩ := decode_prefixes_ok read
      rw [List.length_drop] at total
      have bound := (u32_at b 20).toNat_lt
      have fits := encode_prefixes_fit metrics
        (out ++ be32 ((b.getD 0 0).toUInt32 <<< 24 ||| (u32_at b 0 &&& 0xffffff)) ++ octets (of_octets ((b.drop 4).take 16)) ++
          be32 (UInt32.ofNat prefixes.length)) (by simp only [List.length_append,be32_length,octets_length,header]; omega)
      refine ⟨link.symm,_,by
        rw [OspfV3LsaBody.encode,if_neg scope,options_word,if_neg (masked_small _)]
        exact (if_neg (by omega)).trans fits,?_⟩
      simp only [List.length_append,be32_length,octets_length,header]
      omega
  rw [if_neg link] at decoded
  by_cases intra : type = V3_INTRA_AREA_PREFIX_LSA
  · rw [if_pos intra] at decoded
    dsimp only at decoded
    by_cases few : b.length < 12
    · rw [if_pos few] at decoded
      cases decoded
    by_cases other : u16_at b 2 ≠ V3_ROUTER_LSA ∧ u16_at b 2 ≠ V3_NETWORK_LSA
    · rw [if_neg few,if_pos other] at decoded
      cases decoded
    rw [if_neg few,if_neg other] at decoded
    cases read : decode_prefixes (b.drop 12) (u16_at b 0).toNat true with
    | error error => rw [read] at decoded; cases decoded
    | ok prefixes =>
      rw [read] at decoded
      cases decoded
      obtain ⟨count,total,metrics⟩ := decode_prefixes_ok read
      rw [List.length_drop] at total
      have bound := (u16_at b 0).toNat_lt
      have fits := encode_prefixes_fit metrics
        (out ++ be16 (UInt16.ofNat prefixes.length) ++ be16 (u16_at b 2) ++ be32 (u32_at b 4) ++ be32 (u32_at b 8))
        (by simp only [List.length_append,be16_length,be32_length,header]; omega)
      refine ⟨intra.symm,_,by
        rw [OspfV3LsaBody.encode,if_neg other,if_neg (by omega)]
        exact fits,?_⟩
      simp only [List.length_append,be16_length,be32_length,header]
      omega
  rw [if_neg intra] at decoded
  cases decoded
  have unknown : ¬ known_kind type := by
    simp only [known_kind,decide_eq_true_eq]
    tauto
  refine ⟨rfl,_,by rw [OspfV3LsaBody.encode,if_neg (by simp [unknown,unreserved]),if_neg (by omega)],?_⟩
  rw [List.length_append,header]

end OspfV3LsaBody

/-! ### Advertisements -/

/-- Putting the check bytes in sets the checksum of the header. -/
theorem OspfV3LsaHeader.insert_checksum_encode (header : OspfV3LsaHeader) (body : List UInt8) :
    insert_checksum (header.encode ++ body) =
      { header with
        checksum := from_be16 (check_bytes (header.encode ++ body)).1 (check_bytes (header.encode ++ body)).2 }.encode ++ body := by
  generalize check : check_bytes (header.encode ++ body) = bytes
  rw [insert_checksum,check]
  simp only [OspfV3LsaHeader.encode,be16_from_be16]
  simp [be16,be32]

theorem OspfV3LsaHeader.set_length (header : OspfV3LsaHeader) (body : List UInt8) (length : UInt16) :
    ((header.encode ++ body).set 18 (UInt8.ofNat (length.toNat / 256))).set 19 (UInt8.ofNat length.toNat) =
      { header with length := length }.encode ++ body := by
  simp [OspfV3LsaHeader.encode,be16,be32]

namespace OspfV3Lsa

/-- The header of an advertisement before its check bytes are inserted. -/
def unchecked (self : OspfV3Lsa) (length : UInt16) : OspfV3LsaHeader := ⟨self.age,self.key,self.sequence,0,length⟩

variable {bytes : List UInt8} {lsa : OspfV3Lsa}

theorem encode_eq_ok : lsa.encode = .ok bytes ↔
    lsa.age ≤ LSA_MAX_AGE ∧ lsa.sequence ≠ Int32.minValue ∧
      ∃ tail, lsa.body.encode (lsa.unchecked 20).encode = .ok ((lsa.unchecked 20).encode ++ tail) ∧ 20 + tail.length ≤ 65535 ∧
        bytes = insert_checksum ((lsa.unchecked (UInt16.ofNat (20 + tail.length))).encode ++ tail) := by
  unfold encode
  by_cases malformed : LSA_MAX_AGE < lsa.age ∨ lsa.sequence = Int32.minValue
  · rw [if_pos malformed]
    constructor
    · intro impossible
      cases impossible
    · rintro ⟨young,valid,-⟩
      exact absurd malformed (not_or.mpr ⟨not_lt.mpr young,valid⟩)
  · rw [if_neg malformed]
    obtain ⟨young,valid⟩ := not_or.mp malformed
    have header : (⟨lsa.age,lsa.key,lsa.sequence,0,20⟩ : OspfV3LsaHeader) = lsa.unchecked 20 := rfl
    simp only [header]
    cases encoded : lsa.body.encode (lsa.unchecked 20).encode with
    | error error =>
      constructor
      · intro impossible
        cases impossible
      · rintro ⟨-,-,tail,impossible,-⟩
        cases impossible
    | ok out =>
      obtain ⟨tail,rfl,-⟩ := OspfV3LsaBody.decode_encode encoded
      have length : ((lsa.unchecked 20).encode ++ tail).length = 20 + tail.length := by
        rw [List.length_append,OspfV3LsaHeader.encode_length]
      dsimp only
      rw [length,OspfV3LsaHeader.set_length]
      by_cases large : 65535 < 20 + tail.length
      · rw [if_pos large]
        constructor
        · intro impossible
          cases impossible
        · rintro ⟨-,-,other,same,short,-⟩
          obtain rfl := List.append_cancel_left (Except.ok.inj same)
          omega
      · rw [if_neg large]
        constructor
        · intro same
          cases same
          exact ⟨not_lt.mp young,valid,tail,rfl,not_lt.mp large,rfl⟩
        · rintro ⟨-,-,other,same,-,rfl⟩
          obtain rfl := List.append_cancel_left (Except.ok.inj same)
          rfl

/-- An encoded advertisement: the header that says its length, with check bytes that make both sums zero. -/
theorem encode_parts (encoded : lsa.encode = .ok bytes) :
    ∃ (header : OspfV3LsaHeader) (tail : List UInt8), header.Ranged ∧ bytes = header.encode ++ tail ∧
      OspfV3LsaBody.decode lsa.body.kind tail = .ok lsa.body ∧ header.length.toNat = 20 + tail.length ∧
      fletcher (bytes.drop 2) = (0,0) ∧ header.age = lsa.age ∧ header.key = lsa.key ∧ header.sequence = lsa.sequence := by
  obtain ⟨young,valid,tail,written,short,rfl⟩ := encode_eq_ok.mp encoded
  obtain ⟨other,same,read,unreserved⟩ := OspfV3LsaBody.decode_encode written
  obtain rfl := List.append_cancel_left same
  have length : (UInt16.ofNat (20 + tail.length)).toNat = 20 + tail.length :=
    UInt16.toNat_ofNat_of_lt' (by simp only [UInt16.size]; omega)
  have long : (20 : UInt16) ≤ UInt16.ofNat (20 + tail.length) := by
    rw [UInt16.le_iff_toNat_le,length]
    exact Nat.le_add_right 20 _
  have sums : fletcher ((insert_checksum ((lsa.unchecked (UInt16.ofNat (20 + tail.length))).encode ++ tail)).drop 2) = (0,0) := by
    refine fletcher_inserted ?_ (by constructor <;> simp [unchecked,OspfV3LsaHeader.encode,be16,be32])
    rw [List.length_append,OspfV3LsaHeader.encode_length]
    omega
  have parts := OspfV3LsaHeader.insert_checksum_encode (lsa.unchecked (UInt16.ofNat (20 + tail.length))) tail
  rw [← OspfV3LsaBody.key_kind] at unreserved
  exact ⟨_,tail,⟨young,valid,long,unreserved⟩,parts,read,length,sums,rfl,rfl,rfl⟩

/-- A header with its body, its length and sums that are zero is an advertisement. -/
theorem decode_parts {header : OspfV3LsaHeader} {tail : List UInt8} {body : OspfV3LsaBody} (ranged : header.Ranged)
    (read : OspfV3LsaBody.decode header.key.kind tail = .ok body) (length : header.length.toNat = 20 + tail.length)
    (sums : fletcher ((header.encode ++ tail).drop 2) = (0,0)) : OspfV3Lsa.decode (header.encode ++ tail) =
      .ok ⟨header.age,header.key.link_state_id,header.key.advertising_router,header.sequence,body⟩ := by
  have whole : header.length.toNat = (header.encode ++ tail).length := by
    rw [List.length_append,OspfV3LsaHeader.encode_length,length]
  have rest : (header.encode ++ tail).drop 20 = tail := List.drop_left' (OspfV3LsaHeader.encode_length header)
  rw [OspfV3Lsa.decode,ranged.decode_encode tail]
  dsimp only
  rw [if_neg (not_not.mpr whole),if_neg (not_not.mpr sums),rest,read]

/-- The age is outside the checksum: with other age bytes the advertisement is read at that age. -/
theorem decode_at_age (encoded : lsa.encode = .ok bytes) {age : UInt16} (young : age ≤ LSA_MAX_AGE) :
    OspfV3Lsa.decode (be16 age ++ bytes.drop 2) = .ok { lsa with age := age } := by
  obtain ⟨header,tail,ranged,rfl,body,length,sums,-,key,sequence⟩ := encode_parts encoded
  have aged : be16 age ++ (header.encode ++ tail).drop 2 = { header with age := age }.encode ++ tail := rfl
  rw [← OspfV3LsaBody.key_kind,← key] at body
  have read := @decode_parts { header with age := age } tail lsa.body
    ⟨young,ranged.valid,ranged.long,ranged.unreserved⟩ body length sums
  rw [aged,read,key,sequence]
  rfl

/-- What was encoded is decoded. -/
theorem decode_of_encode (encoded : lsa.encode = .ok bytes) :
    OspfV3Lsa.decode bytes = .ok lsa := by
  obtain ⟨header,tail,ranged,rfl,body,length,sums,age,key,sequence⟩ := encode_parts encoded
  rw [← OspfV3LsaBody.key_kind,← key] at body
  rw [decode_parts ranged body length sums,age,key,sequence]
  rfl

/-- What was decoded can be encoded, with the same length. -/
theorem encode_of_decode (decoded : OspfV3Lsa.decode bytes = .ok lsa) :
    ∃ out, lsa.encode = .ok out ∧ out.length = bytes.length := by
  unfold OspfV3Lsa.decode at decoded
  cases read : OspfV3LsaHeader.decode bytes with
  | error error => rw [read] at decoded; cases decoded
  | ok header =>
    rw [read] at decoded
    dsimp only at decoded
    split_ifs at decoded with length sums
    cases parsed : OspfV3LsaBody.decode header.key.kind (bytes.drop 20) with
    | error error => rw [parsed] at decoded; cases decoded
    | ok body =>
      rw [parsed] at decoded
      cases decoded
      obtain ⟨long,ranged⟩ := OspfV3LsaHeader.decode_ok read
      have short := header.length.toNat_lt
      have behind : (bytes.drop 20).length = bytes.length - 20 := List.length_drop ..
      let lsa : OspfV3Lsa := ⟨header.age,header.key.link_state_id,header.key.advertising_router,header.sequence,body⟩
      obtain ⟨-,whole,written,same⟩ := OspfV3LsaBody.encode_of_decode ranged.unreserved
        (OspfV3LsaHeader.encode_length (lsa.unchecked 20)) (by omega) parsed
      obtain ⟨tail,rfl,-⟩ := OspfV3LsaBody.decode_encode written
      rw [List.length_append,OspfV3LsaHeader.encode_length] at same
      refine ⟨_,encode_eq_ok.mpr ⟨ranged.young,ranged.valid,tail,written,by omega,rfl⟩,?_⟩
      rw [insert_checksum,List.length_set,List.length_set,List.length_append,OspfV3LsaHeader.encode_length]
      omega

/-- The codec of advertisements. -/
theorem codec : Codec OspfV3Lsa.encode OspfV3Lsa.decode OspfV3LsaHeader.length_of where
  reads _ _ encoded := decode_of_encode encoded
  long lsa bytes encoded := by
    obtain ⟨header,tail,-,rfl,-⟩ := encode_parts encoded
    rw [List.length_append,OspfV3LsaHeader.encode_length]
    omega
  found lsa bytes rest encoded := by
    obtain ⟨header,tail,ranged,rfl,-,length,-⟩ := encode_parts encoded
    refine ⟨header.length,?_,?_⟩
    · rw [OspfV3LsaHeader.length_of,List.append_assoc,ranged.decode_encode]
      rfl
    · rw [length,List.length_append,OspfV3LsaHeader.encode_length]
  rewrites _ _ decoded := encode_of_decode decoded

end OspfV3Lsa

/-! ### Bodies of packets -/

theorem OspfV3LsaHeader.decode_all {headers : List OspfV3LsaHeader} (ranged : ∀ header ∈ headers, header.Ranged) :
    decode_headers OspfV3LsaHeader.decode (headers.flatMap OspfV3LsaHeader.encode) = .ok headers :=
  decode_headers_flatMap OspfV3LsaHeader.encode_length (fun _ rest ranged => ranged.decode_encode rest) ranged

theorem OspfV3LsaHeader.decode_all_ok {data : List UInt8} {headers : List OspfV3LsaHeader}
    (decoded : decode_headers OspfV3LsaHeader.decode data = .ok headers) :
    20 * headers.length = data.length ∧ ∀ header ∈ headers, header.Ranged :=
  decode_headers_ok (fun _ _ read => (OspfV3LsaHeader.decode_ok read).2) decoded

/-- The headers that a body carries are within their limits. -/
def Ranged : OspfBody OspfV3Lsa → Prop
  | .DatabaseDescription _ _ _ _ headers => ∀ header ∈ headers, OspfV3LsaHeader.Ranged header
  | .LinkStateAck headers => ∀ header ∈ headers, OspfV3LsaHeader.Ranged header
  | _ => True

theorem OspfV3LsaKey.decode_encode (self : OspfV3LsaKey) : OspfV3LsaKey.decode self.encode = self := by
  obtain ⟨kind,id,router⟩ := self
  simp [OspfV3LsaKey.decode,OspfV3LsaKey.encode,be16,be32,u16_at,u32_at,Lsa.from_be16_bytes,Lsa.from_be32_bytes]

theorem OspfV3Hello.encode_length (self : OspfV3Hello) : self.encode.length = 20 + 4 * self.neighbors.length := by
  rw [OspfV3Hello.encode,List.length_append,flatMap_be32_length]
  rfl

theorem OspfV3Hello.decode_encode (self : OspfV3Hello) (small : self.options ≤ 0xffffff) :
    OspfV3Hello.decode self.encode = .ok self := by
  obtain ⟨interface,priority,options,hello,dead,designated,backup,neighbors⟩ := self
  have rest : (OspfV3Hello.encode ⟨interface,priority,options,hello,dead,designated,backup,neighbors⟩).drop 20 =
      neighbors.flatMap be32 := rfl
  have word : u32_at (OspfV3Hello.encode ⟨interface,priority,options,hello,dead,designated,backup,neighbors⟩) 4 =
      priority.toUInt32 <<< 24 ||| options :=
    u32_at_be32 _ (be16 hello ++ be16 dead ++ be32 designated ++ be32 backup ++ neighbors.flatMap be32)
  have first : (OspfV3Hello.encode ⟨interface,priority,options,hello,dead,designated,backup,neighbors⟩).getD 4 0 = priority :=
    options_first small (be16 hello ++ be16 dead ++ be32 designated ++ be32 backup ++ neighbors.flatMap be32)
  rw [OspfV3Hello.decode,OspfV3Hello.encode_length,rest,chunks32_flatMap,if_neg (by omega),word,first,options_masked small]
  simp [OspfV3Hello.encode,be16,be32,u16_at,u32_at,Lsa.from_be16_bytes,Lsa.from_be32_bytes]

theorem OspfV3Hello.decode_length {b : List UInt8} {hello : OspfV3Hello} (decoded : OspfV3Hello.decode b = .ok hello) :
    20 + 4 * hello.neighbors.length = b.length ∧ ¬ 0xffffff < hello.options := by
  unfold OspfV3Hello.decode at decoded
  split_ifs at decoded with malformed
  cases decoded
  have count := chunks32_length (b.drop 20)
  rw [List.length_drop] at count
  simp only [not_or,not_lt,not_not] at malformed
  refine ⟨?_,masked_small _⟩
  dsimp only
  omega

/-- What a body is written as is read back. -/
theorem decode_encode_body {self : OspfBody OspfV3Lsa} {kind : UInt8} {bytes : List UInt8} (ranged : Ranged self)
    (encoded : encode_body self = .ok (kind,bytes)) : decode_body kind bytes = .ok self := by
  cases self with
  | Hello hello =>
    rw [encode_body] at encoded
    split_ifs at encoded with large
    cases encoded
    exact congrArg (Except.map _) (OspfV3Hello.decode_encode hello (not_lt.mp (not_or.mp large).1))
  | DatabaseDescription mtu options flags sequence headers =>
    rw [encode_body] at encoded
    split_ifs at encoded with large
    cases encoded
    simp only [not_or,not_not] at large
    have read := OspfV3LsaHeader.decode_all ranged
    have masked : options &&& 0xffffff = options := by
      have behind := @options_masked 0 options (not_lt.mp large.1)
      rwa [show (0 : UInt8).toUInt32 <<< 24 ||| options = options by simp] at behind
    have whole : ¬ (be32 options ++ be16 mtu ++ [0,flags] ++ be32 sequence ++ headers.flatMap OspfV3LsaHeader.encode).length < 12 := by
      simp [be16,be32]
    have rest : (be32 options ++ be16 mtu ++ [0,flags] ++ be32 sequence ++ headers.flatMap OspfV3LsaHeader.encode).drop 12 =
        headers.flatMap OspfV3LsaHeader.encode := rfl
    simp only [decode_body]
    rw [rest,read,if_neg]
    · simpa [be16,be32,u16_at,u32_at,Lsa.from_be16_bytes,Lsa.from_be32_bytes] using masked
    · exact not_or.mpr ⟨whole,not_not.mpr large.2.1⟩
  | LinkStateRequest keys =>
    rw [encode_body] at encoded
    split_ifs at encoded with large
    cases encoded
    have length := flatMap_length OspfV3LsaKey.encode_length keys
    show (if _ then _ else _) = _
    rw [if_neg (by omega),groups_flatMap (by norm_num) OspfV3LsaKey.encode_length,List.map_map]
    have same : keys.map (OspfV3LsaKey.decode ∘ OspfV3LsaKey.encode) = keys :=
      (List.map_congr_left (fun key _ => key.decode_encode)).trans (List.map_id _)
    rw [same]
  | LinkStateUpdate lsas =>
    rw [encode_body] at encoded
    split_ifs at encoded with large
    cases written : lsas.foldlM (fun body lsa => append_lsa (65535 - 16) body lsa.encode) (be32 (UInt32.ofNat lsas.length)) with
    | error error => rw [written] at encoded; cases encoded
    | ok body =>
      rw [written] at encoded
      cases encoded
      obtain ⟨parts,every,rfl⟩ := encodings_of_fold written
      have count : (UInt32.ofNat lsas.length).toNat = lsas.length :=
        UInt32.toNat_ofNat_of_lt' (by simp only [UInt32.size]; omega)
      have each := OspfV3Lsa.codec.enough every
      have read := OspfV3Lsa.codec.decode_encodings every (be32 (UInt32.ofNat lsas.length))
      rw [be32_length] at read
      simp only [decode_body]
      rw [u32_at_be32,count,List.length_append,be32_length,if_neg (by omega),read]
      dsimp only
      rw [if_neg (by simp)]
  | LinkStateAck headers =>
    rw [encode_body] at encoded
    split_ifs at encoded with large
    cases encoded
    simp only [decode_body]
    rw [OspfV3LsaHeader.decode_all ranged]

/-- A body that was read can be written again, with the length it was read from. -/
theorem encode_of_decode_body {kind : UInt8} {b : List UInt8} {body : OspfBody OspfV3Lsa} (short : b.length ≤ 65535 - 16)
    (decoded : decode_body kind b = .ok body) : Ranged body ∧ ∃ out, encode_body body = .ok (kind,out) ∧
        out.length = b.length := by
  unfold decode_body at decoded
  split at decoded
  · cases read : OspfV3Hello.decode b with
    | error error => rw [read] at decoded; cases decoded
    | ok hello =>
      rw [read] at decoded
      cases decoded
      obtain ⟨length,small⟩ := OspfV3Hello.decode_length read
      refine ⟨trivial,_,by rw [encode_body]; exact if_neg (not_or.mpr ⟨small,by omega⟩),?_⟩
      rw [OspfV3Hello.encode_length]
      exact length
  · split_ifs at decoded with malformed
    simp only [not_or,not_lt,not_not] at malformed
    cases read : decode_headers OspfV3LsaHeader.decode (b.drop 12) with
    | error error => rw [read] at decoded; cases decoded
    | ok headers =>
      rw [read] at decoded
      cases decoded
      obtain ⟨count,ranged⟩ := OspfV3LsaHeader.decode_all_ok read
      rw [List.length_drop] at count
      have length := flatMap_length OspfV3LsaHeader.encode_length headers
      refine ⟨ranged,_,by
        rw [encode_body,if_neg (not_or.mpr ⟨masked_small _,not_or.mpr ⟨not_not.mpr malformed.2,by omega⟩⟩)],?_⟩
      simp only [List.length_append,be16_length,be32_length,length,List.length_cons,List.length_nil]
      omega
  · split_ifs at decoded with uneven
    cases decoded
    have count := groups_length 12 b
    have length := flatMap_length OspfV3LsaKey.encode_length ((groups 12 b).map OspfV3LsaKey.decode)
    rw [List.length_map,count] at length
    refine ⟨trivial,_,by rw [encode_body,if_neg (by rw [List.length_map]; omega)],?_⟩
    omega
  · split_ifs at decoded with few
    simp only [not_or,not_lt] at few
    cases read : decode_lsas OspfV3LsaHeader.length_of OspfV3Lsa.decode b (u32_at b 0).toNat 4 with
    | error error => rw [read] at decoded; cases decoded
    | ok pair =>
      obtain ⟨lsas,last⟩ := pair
      rw [read] at decoded
      dsimp only at decoded
      split_ifs at decoded with partway
      cases decoded
      obtain ⟨count,parts,every,total⟩ := OspfV3Lsa.codec.decode_ok read
      have fits : (be32 (UInt32.ofNat lsas.length)).length + parts.flatten.length ≤ 65535 - 16 := by
        rw [be32_length]
        omega
      have written := fold_of_encodings every _ fits
      refine ⟨trivial,_,by rw [encode_body,if_neg (by omega),written],?_⟩
      rw [List.length_append,be32_length]
      omega
  · cases read : decode_headers OspfV3LsaHeader.decode b with
    | error error => rw [read] at decoded; cases decoded
    | ok headers =>
      rw [read] at decoded
      cases decoded
      obtain ⟨count,ranged⟩ := OspfV3LsaHeader.decode_all_ok read
      have length := flatMap_length OspfV3LsaHeader.encode_length headers
      refine ⟨ranged,_,by rw [encode_body,if_neg (by omega)],?_⟩
      omega
  · cases decoded

/-! ### Packets -/

namespace OspfV3Packet

/-- The header before its checksum. -/
def front (self : OspfV3Packet) (kind : UInt8) (length : Nat) : List UInt8 :=
  [3,kind] ++ be16 (UInt16.ofNat length) ++ be32 self.router_id ++ be32 self.area

theorem head_split (self : OspfV3Packet) (kind : UInt8) (length : Nat) (sum : UInt16) (body : List UInt8) :
    self.head kind length sum ++ body = self.front kind length ++ (be16 sum ++ ([self.instance_id,0] ++ body)) := by
  simp only [head,front,List.append_assoc]

variable {source destination : Ipv6Addr}

/-- An encoded packet whose headers are within their limits is decoded. -/
theorem decode_encode {self : OspfV3Packet} {bytes : List UInt8} (ranged : Ranged self.body)
    (encoded : self.encode source destination = .ok bytes) : OspfV3Packet.decode source destination bytes = .ok self := by
  unfold encode at encoded
  cases written : encode_body self.body with
  | error error => rw [written] at encoded; cases encoded
  | ok pair =>
    obtain ⟨kind,body⟩ := pair
    rw [written] at encoded
    dsimp only at encoded
    split_ifs at encoded with large
    have same := Except.ok.inj encoded
    have filled : ipv6_checksum source destination .Ospf bytes = 0 := by
      rw [← same,head_split,head_split]
      exact ipv6_checksum_fills source destination .Ospf _ _ (by simp [front]) (by simp [front]; omega)
    generalize ipv6_checksum source destination .Ospf (self.head kind (16 + body.length) 0 ++ body) = check at same
    have length : (UInt16.ofNat (16 + body.length)).toNat = 16 + body.length :=
      UInt16.toNat_ofNat_of_lt' (by simp only [UInt16.size]; omega)
    have whole : bytes.length = 16 + body.length := by rw [← same,List.length_append,head_length]
    have long : u16_at bytes 2 = UInt16.ofNat (16 + body.length) := by
      rw [← same]
      exact u16_at_be16 (UInt16.ofNat (16 + body.length))
        (be32 self.router_id ++ be32 self.area ++ be16 check ++ [self.instance_id,0] ++ body)
    have router : u32_at bytes 4 = self.router_id := by
      rw [← same]
      exact u32_at_be32 self.router_id (be32 self.area ++ be16 check ++ [self.instance_id,0] ++ body)
    have area : u32_at bytes 8 = self.area := by
      rw [← same]
      exact u32_at_be32 self.area (be16 check ++ [self.instance_id,0] ++ body)
    have rest : bytes.drop 16 = body := by rw [← same]; rfl
    have type : bytes.getD 1 0 = kind := by rw [← same]; rfl
    have version : bytes.getD 0 0 = 3 := by rw [← same]; rfl
    have inst : bytes.getD 14 0 = self.instance_id := by rw [← same]; rfl
    rw [OspfV3Packet.decode,long,length,whole,if_neg (not_or.mpr ⟨by omega,not_or.mpr ⟨not_not.mpr version,not_not.mpr rfl⟩⟩),
      if_neg (not_not.mpr filled),type,rest,decode_encode_body ranged written,router,area,inst]

/-- What was decoded is within its limits and can be encoded. -/
theorem encode_of_decode {self : OspfV3Packet} {bytes : List UInt8}
    (decoded : OspfV3Packet.decode source destination bytes = .ok self) :
    Ranged self.body ∧ ∃ out, self.encode source destination = .ok out := by
  unfold OspfV3Packet.decode at decoded
  split_ifs at decoded with malformed damaged
  simp only [not_or,not_lt,not_not] at malformed
  cases parsed : decode_body (bytes.getD 1 0) (bytes.drop 16) with
  | error error => rw [parsed] at decoded; cases decoded
  | ok body =>
    rw [parsed] at decoded
    cases decoded
    have bound := (u16_at bytes 2).toNat_lt
    have behind : (bytes.drop 16).length = bytes.length - 16 := List.length_drop ..
    obtain ⟨ranged,out,written,same⟩ := encode_of_decode_body (by omega) parsed
    obtain ⟨encoded,done,-⟩ := @encode_length ⟨u32_at bytes 4,u32_at bytes 8,bytes.getD 14 0,body⟩ _ _ written (by omega)
      source destination
    exact ⟨ranged,encoded,done⟩

end OspfV3Packet

/-- An advertisement that has a header has one within its limits. -/
theorem header_ranged {lsa : OspfV3Lsa} {header : OspfV3LsaHeader} (encodable : lsa.header = .ok header) :
    header.Ranged := by
  unfold OspfV3Lsa.header at encodable
  cases encoded : lsa.encode with
  | error error => rw [encoded] at encodable; cases encodable
  | ok bytes =>
    rw [encoded] at encodable
    exact (OspfV3LsaHeader.decode_ok encodable).2

/-- The header of an advertisement that is one second too old. -/
def expired : OspfV3LsaHeader := ⟨3601,⟨V3_ROUTER_LSA,0,1⟩,0,0,20⟩

/-- Headers are written without a check: an acknowledgment of a header out of range is encoded and not read back. -/
theorem unchecked_header_unread : ∃ bytes, (⟨1,0,0,.LinkStateAck [expired]⟩ : OspfV3Packet).encode 1 2 = .ok bytes ∧
    OspfV3Packet.decode 1 2 bytes ≠ .ok ⟨1,0,0,.LinkStateAck [expired]⟩ := by
  have written : encode_body (.LinkStateAck [expired]) = .ok (5,expired.encode) := rfl
  obtain ⟨bytes,encoded,-⟩ := @OspfV3Packet.encode_length ⟨1,0,0,.LinkStateAck [expired]⟩ _ _ written (by decide) 1 2
  refine ⟨bytes,encoded,fun decoded => ?_⟩
  have ranged := (OspfV3Packet.encode_of_decode decoded).1
  exact absurd (ranged expired List.mem_cons_self).young (by decide)

/-- Every advertisement that can be encoded is read back, a packet exactly when its headers are within their limits, as
    headers of advertisements are; and what is accepted can be encoded and is then read as the same value. -/
theorem ospfv3_round_trip :
    (∀ (lsa : OspfV3Lsa) bytes, lsa.encode = .ok bytes → OspfV3Lsa.decode bytes = .ok lsa) ∧
    (∀ source destination (packet : OspfV3Packet) bytes, packet.encode source destination = .ok bytes →
      (OspfV3Packet.decode source destination bytes = .ok packet ↔ Ranged packet.body)) ∧
    (∀ (lsa : OspfV3Lsa) header, lsa.header = .ok header → header.Ranged) ∧
    (∀ bytes lsa, OspfV3Lsa.decode bytes = .ok lsa → ∃ encoded, lsa.encode = .ok encoded ∧ OspfV3Lsa.decode encoded = .ok lsa) ∧
    (∀ source destination bytes packet, OspfV3Packet.decode source destination bytes = .ok packet →
      ∃ encoded, packet.encode source destination = .ok encoded ∧
        OspfV3Packet.decode source destination encoded = .ok packet) := by
  refine ⟨fun lsa bytes encoded => OspfV3Lsa.decode_of_encode encoded,?_,fun lsa header encodable => header_ranged encodable,?_,?_⟩
  · intro source destination packet bytes encoded
    constructor
    · exact fun decoded => (OspfV3Packet.encode_of_decode decoded).1
    · exact fun ranged => OspfV3Packet.decode_encode ranged encoded
  · intro bytes lsa decoded
    obtain ⟨encoded,done,-⟩ := OspfV3Lsa.encode_of_decode decoded
    exact ⟨encoded,done,OspfV3Lsa.decode_of_encode done⟩
  · intro source destination bytes packet decoded
    obtain ⟨ranged,encoded,done⟩ := OspfV3Packet.encode_of_decode decoded
    exact ⟨encoded,done,OspfV3Packet.decode_encode ranged done⟩

/-- Two prefixes of a router, of which one needs the whole address. -/
def prefixes_lsa : OspfV3Lsa := ⟨1,7,1,1,.IntraAreaPrefix ⟨V3_ROUTER_LSA,0,1⟩
  [⟨⟨0x20010db8000100000000000000000000,48,by decide,by decide⟩,0,10⟩,
    ⟨⟨0x20010db8000200000000000000000001,128,by decide,by decide⟩,2,0⟩]⟩

/-- An advertisement with prefixes, by itself and in an update. -/
theorem ospfv3_round_trip_prefixes : ∃ bytes update, prefixes_lsa.encode = .ok bytes ∧ OspfV3Lsa.decode bytes =
    .ok prefixes_lsa ∧
    (⟨1,0,0,.LinkStateUpdate [prefixes_lsa]⟩ : OspfV3Packet).encode 1 2 = .ok update ∧
      OspfV3Packet.decode 1 2 update = .ok ⟨1,0,0,.LinkStateUpdate [prefixes_lsa]⟩ := by
  have alone : prefixes_lsa.encode.toBool = true := by decide +kernel
  have sent : ((⟨1,0,0,.LinkStateUpdate [prefixes_lsa]⟩ : OspfV3Packet).encode 1 2).toBool = true := by decide +kernel
  cases encoded : prefixes_lsa.encode with
  | error error => rw [encoded] at alone; cases alone
  | ok bytes =>
    cases packed : (⟨1,0,0,.LinkStateUpdate [prefixes_lsa]⟩ : OspfV3Packet).encode 1 2 with
    | error error => rw [packed] at sent; cases sent
    | ok update =>
      obtain ⟨lsas,packets,-⟩ := ospfv3_round_trip
      exact ⟨bytes,update,rfl,lsas _ bytes encoded,rfl,(packets 1 2 _ update packed).mpr trivial⟩

end Rios.OspfV3

namespace Rios.Ospf
open Rios.Wire Rios.OspfV3

/-! ### The checksum of advertisements -/

theorem Lsa.decode_sums {bytes : List UInt8} {lsa : Lsa} (decoded : Lsa.decode bytes = .ok lsa) :
    fletcher (bytes.drop 2) = (0,0) := by
  unfold Lsa.decode at decoded
  cases read : LsaHeader.decode bytes with
  | error error => rw [read] at decoded; cases decoded
  | ok header =>
    rw [read] at decoded
    dsimp only at decoded
    split_ifs at decoded with length sums
    exact not_not.mp sums

theorem decode_sums_v3 {bytes : List UInt8} {lsa : OspfV3Lsa} (decoded : OspfV3Lsa.decode bytes = .ok lsa) :
    fletcher (bytes.drop 2) = (0,0) := by
  unfold OspfV3Lsa.decode at decoded
  cases read : OspfV3LsaHeader.decode bytes with
  | error error => rw [read] at decoded; cases decoded
  | ok header =>
    rw [read] at decoded
    dsimp only at decoded
    split_ifs at decoded with length sums
    exact not_not.mp sums

/-- The check bytes depend on the length and on what stands behind the age. -/
theorem check_bytes_congr {one two : List UInt8} (length : one.length = two.length) (behind : one.drop 2 = two.drop 2) :
    check_bytes one = check_bytes two := by
  rw [check_bytes,check_bytes,length,behind]

/-- The check bytes are right for every length: whatever the age bytes are, both sums are zero and the same check bytes are
    inserted; a byte behind the age that changes its residue makes both decoders refuse; and what either encoder wrote is
    accepted at every age. -/
theorem insert_checksum_exact :
    (∀ bytes : List UInt8, 20 ≤ bytes.length → bytes.getD 16 0 = 0 ∧ bytes.getD 17 0 = 0 →
      (∀ age : List UInt8, age.length = 2 →
        insert_checksum (age ++ bytes.drop 2) = age ++ (insert_checksum bytes).drop 2 ∧
          fletcher ((age ++ (insert_checksum bytes).drop 2).drop 2) = (0,0)) ∧
      ∀ offset value, 2 ≤ offset → offset < bytes.length →
        value.toNat % 255 ≠ ((insert_checksum bytes).getD offset 0).toNat % 255 →
          fletcher (((insert_checksum bytes).set offset value).drop 2) ≠ (0,0) ∧
            (∀ lsa, Lsa.decode ((insert_checksum bytes).set offset value) ≠ .ok lsa) ∧
            ∀ lsa, OspfV3Lsa.decode ((insert_checksum bytes).set offset value) ≠ .ok lsa) ∧
    (∀ (lsa : Lsa) bytes age, lsa.encode = .ok bytes → age ≤ LSA_MAX_AGE →
      Lsa.decode (be16 age ++ bytes.drop 2) = .ok { lsa with age := age }) ∧
    (∀ (lsa : OspfV3Lsa) bytes age, lsa.encode = .ok bytes → age ≤ LSA_MAX_AGE →
      OspfV3Lsa.decode (be16 age ++ bytes.drop 2) = .ok { lsa with age := age }) := by
  refine ⟨fun bytes header clear => ⟨fun age two => ?_,fun offset value behind inside changed => ?_⟩,?_,?_⟩
  · have sums := fletcher_inserted header clear
    refine ⟨?_,by rwa [List.drop_left' two]⟩
    obtain ⟨old,front,rest,short,fourteen,rfl⟩ := clear_split header clear
    have same : check_bytes (age ++ (front ++ 0 :: 0 :: rest)) = check_bytes (old ++ (front ++ 0 :: 0 :: rest)) :=
      check_bytes_congr (by simp only [List.length_append,two,short]) (by rw [List.drop_left' two,List.drop_left' short])
    rw [List.drop_left' short,insert_checksum_split two fourteen,insert_checksum_split short fourteen,List.drop_left' short,same]
  · have length : (insert_checksum bytes).length = bytes.length := by rw [insert_checksum,List.length_set,List.length_set]
    have wrong := fletcher_changed (fletcher_inserted header clear) behind (length.symm ▸ inside) changed
    exact ⟨wrong,fun lsa decoded => wrong (Lsa.decode_sums decoded),fun lsa decoded => wrong (decode_sums_v3 decoded)⟩
  · exact fun lsa bytes age encoded young => Lsa.decode_of_encode (Lsa.encode_at_age encoded young)
  · exact fun lsa bytes age encoded young => OspfV3Lsa.decode_at_age encoded young

/-- The bytes of a router's advertisement before the checksum is inserted. -/
def unsummed : List UInt8 := (⟨0,2,⟨.Router,1,1⟩,1,0,36⟩ : LsaHeader).encode ++
  [0,0,0,1,10,0,0,0,255,255,255,0,3,0,0,10]

/-- The advertisement that they are, at an age of one hour, and with another cost. -/
theorem insert_checksum_exact_stub :
    fletcher (([14,16] ++ (insert_checksum unsummed).drop 2).drop 2) = (0,0) ∧
      (∀ lsa, Lsa.decode ((insert_checksum unsummed).set 35 20) ≠ .ok lsa) ∧
      ∃ bytes, (⟨0,2,1,1,1,.Router 0 [⟨0x0a000000,0xffffff00,.Stub,10⟩]⟩ : Lsa).encode = .ok bytes ∧
        Lsa.decode (be16 3600 ++ bytes.drop 2) =
          .ok ⟨3600,2,1,1,1,.Router 0 [⟨0x0a000000,0xffffff00,.Stub,10⟩]⟩ := by
  obtain ⟨summed,written,-⟩ := insert_checksum_exact
  obtain ⟨ages,changes⟩ := summed unsummed (by decide) (by decide)
  have encoded : (⟨0,2,1,1,1,.Router 0 [⟨0x0a000000,0xffffff00,.Stub,10⟩]⟩ : Lsa).encode =
      .ok (insert_checksum unsummed) := by rfl
  exact ⟨(ages [14,16] rfl).2,(changes 35 20 (by decide) (by decide) (by decide +kernel)).2.1,
    _,encoded,written _ _ 3600 encoded (by decide)⟩

end Rios.Ospf
