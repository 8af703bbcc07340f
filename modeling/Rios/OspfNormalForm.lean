import Rios.Fletcher
import Rios.OspfDecode

/-!
# OSPFv2 normal form

What the encoders write is read back, and what the decoders accept can be written
again: an accepted packet is a value within the limits of its encoding, although
its bytes need not be the encoder's.
-/

namespace Rios.Ospf
open Rios.Device Rios.Wire Rios.Fletcher

/-! ### The check bytes -/

/-- The bytes as the numbers that are summed. -/
def values (bytes : List UInt8) : List Int := bytes.map (fun byte => (byte.toNat : Int))

@[simp] theorem values_nil : values [] = [] := rfl

@[simp] theorem values_cons (byte : UInt8) (rest : List UInt8) :
    values (byte :: rest) = (byte.toNat : Int) :: values rest := rfl

@[simp] theorem values_append (front rest : List UInt8) : values (front ++ rest) = values front ++ values rest :=
    List.map_append

@[simp] theorem values_length (bytes : List UInt8) : (values bytes).length = bytes.length := List.length_map ..

/-- The remainders of sums of bytes are never negative, so the signed remainder is the remainder. -/
theorem fletcher_running (bytes : List UInt8) : fletcher bytes = running 255 (values bytes) := by
  induction bytes using List.reverseRecOn with
  | nil => rfl
  | append_singleton bytes byte ih =>
    have first : 0 ≤ (running 255 (values bytes)).1 := by rw [running_eq]; exact Int.emod_nonneg _ (by norm_num)
    have second : 0 ≤ (running 255 (values bytes)).2 := by rw [running_eq]; exact Int.emod_nonneg _ (by norm_num)
    have step : running 255 (values bytes ++ [(byte.toNat : Int)]) =
        (((running 255 (values bytes)).1 + byte.toNat) % 255,
          ((running 255 (values bytes)).2 + ((running 255 (values bytes)).1 + byte.toNat) % 255) % 255) := by
      rw [running,List.foldl_append]
      rfl
    rw [fletcher,List.foldl_append,List.foldl_cons,List.foldl_nil,← fletcher,ih,values_append,values_cons,values_nil,step]
    have sum : 0 ≤ (running 255 (values bytes)).1 + byte.toNat := by omega
    rw [Int.tmod_eq_emod_of_nonneg sum]
    exact Prod.ext rfl (Int.tmod_eq_emod_of_nonneg (Int.add_nonneg second (Int.emod_nonneg _ (by norm_num))))

/-- A number that was brought into `1..=255` is a byte other than zero. -/
theorem corrected (value : Int) (low : 1 ≤ value) (high : value ≤ 255) :
    ∃ byte : UInt8, value = byte.toNat ∧ byte ≠ 0 ∧ UInt8.ofNat value.toNat = byte := by
  refine ⟨UInt8.ofNat value.toNat,?_,?_,rfl⟩
  · rw [UInt8.toNat_ofNat_of_lt' (by simp only [UInt8.size]; omega)]
    omega
  · intro zero
    have same := congrArg UInt8.toNat zero
    rw [UInt8.toNat_ofNat_of_lt' (by simp only [UInt8.size]; omega)] at same
    simp only [UInt8.toNat_zero] at same
    omega

theorem fletcher_bounds (bytes : List UInt8) : 0 ≤ (fletcher bytes).1 ∧ (fletcher bytes).1 < 255 := by
  rw [fletcher_running,running_eq]
  exact ⟨Int.emod_nonneg _ (by norm_num),Int.emod_lt_of_pos _ (by norm_num)⟩

/-- The check bytes solve the two congruences of the checksum, and neither is zero. -/
theorem check_bytes_solve (out : List UInt8) : ∃ x y : UInt8, check_bytes out = (x,y) ∧ x ≠ 0 ∧ y ≠ 0 ∧
    (x.toNat : Int) ≡ ((out.length : Int) - 17) * (fletcher (out.drop 2)).1 - (fletcher (out.drop 2)).2 [ZMOD 255] ∧
    (y.toNat : Int) ≡ -(fletcher (out.drop 2)).1 - x.toNat [ZMOD 255] := by
  have low := fletcher_bounds (out.drop 2)
  unfold check_bytes
  dsimp only
  generalize ((out.length : Int) - 17) * (fletcher (out.drop 2)).1 - (fletcher (out.drop 2)).2 = target
  generalize (fletcher (out.drop 2)).1 = sum at low
  have whole := Int.tmod_add_mul_tdiv target 255
  have small := Int.tmod_lt_of_pos target (show (0 : Int) < 255 by norm_num)
  have large := Int.lt_tmod_of_pos target (show (0 : Int) < 255 by norm_num)
  generalize target.tmod 255 = remainder at whole small large
  generalize target.tdiv 255 = quotient at whole
  obtain ⟨x,isX,nonzeroX,byteX⟩ := corrected (if remainder ≤ 0 then remainder + 255 else remainder)
    (by split_ifs <;> omega) (by split_ifs <;> omega)
  have range : 1 ≤ (x.toNat : Int) ∧ (x.toNat : Int) ≤ 255 := by
    rw [← isX]
    split_ifs <;> omega
  obtain ⟨y,isY,nonzeroY,byteY⟩ := corrected
    (if 510 - sum - (x.toNat : Int) > 255 then 510 - sum - (x.toNat : Int) - 255 else 510 - sum - (x.toNat : Int))
    (by split_ifs <;> omega) (by split_ifs <;> omega)
  refine ⟨x,y,?_,nonzeroX,nonzeroY,?_,?_⟩
  · rw [byteX,isX,byteY]
  · show (x.toNat : Int) % 255 = target % 255
    split_ifs at isX <;> omega
  · show (y.toNat : Int) % 255 = (-sum - x.toNat) % 255
    split_ifs at isY <;> omega

variable {bytes : List UInt8}

/-- An advertisement with its two check bytes set apart. -/
theorem clear_split (header : 20 ≤ bytes.length) (clear : bytes.getD 16 0 = 0 ∧ bytes.getD 17 0 = 0) :
    ∃ age front rest, age.length = 2 ∧ front.length = 14 ∧ bytes = age ++ (front ++ 0 :: 0 :: rest) := by
  refine ⟨bytes.take 2,(bytes.drop 2).take 14,bytes.drop 18,?_,?_,?_⟩
  · rw [List.length_take]
    omega
  · rw [List.length_take,List.length_drop]
    omega
  · have sixteen : bytes.drop 16 = 0 :: 0 :: bytes.drop 18 := by
      rw [List.drop_eq_getElem_cons (show 16 < bytes.length by omega),List.drop_eq_getElem_cons (show 17 < bytes.length by omega)]
      rw [List.getD_eq_getElem _ _ (show 16 < bytes.length by omega)] at clear
      rw [List.getD_eq_getElem _ _ (show 17 < bytes.length by omega)] at clear
      rw [clear.1,clear.2]
    rw [← sixteen]
    have behind : bytes.drop 16 = (bytes.drop 2).drop 14 := by rw [List.drop_drop]
    rw [behind,List.take_append_drop,List.take_append_drop]

theorem insert_checksum_split {age front : List UInt8} (two : age.length = 2) (fourteen : front.length = 14)
    (rest : List UInt8) :
    insert_checksum (age ++ (front ++ 0 :: 0 :: rest)) =
      age ++ (front ++ (check_bytes (age ++ (front ++ 0 :: 0 :: rest))).1 ::
          (check_bytes (age ++ (front ++ 0 :: 0 :: rest))).2 :: rest) := by
  rw [insert_checksum]
  generalize check_bytes (age ++ (front ++ 0 :: 0 :: rest)) = pair
  simp [two,fourteen]

/-- The sums of an advertisement with its check bytes are zero, whatever the age is. -/
theorem fletcher_inserted (header : 20 ≤ bytes.length) (clear : bytes.getD 16 0 = 0 ∧ bytes.getD 17 0 = 0) :
    fletcher ((insert_checksum bytes).drop 2) = (0,0) := by
  obtain ⟨age,front,rest,two,fourteen,rfl⟩ := clear_split header clear
  rw [insert_checksum_split two fourteen]
  obtain ⟨x,y,check,-,-,first,second⟩ := check_bytes_solve (age ++ (front ++ 0 :: 0 :: rest))
  rw [check,List.drop_left' two,fletcher_running,values_append,values_cons,values_cons]
  rw [List.drop_left' two,fletcher_running,running_eq,values_append,values_cons,values_cons] at first second
  have long : ((age ++ (front ++ 0 :: 0 :: rest)).length : Int) - 17 = (values rest).length + 1 := by
    simp only [List.length_append,List.length_cons,two,fourteen,values_length]
    push_cast
    ring
  rw [long] at first
  refine running_filled (first.trans ?_) (second.trans ?_)
  · exact ((Int.ModEq.mul_left _ (Int.mod_modEq _ _)).sub (Int.mod_modEq _ _))
  · exact (Int.mod_modEq _ _).neg.sub_right _

/-- A byte behind the age cannot be changed to a byte of another residue. -/
theorem fletcher_changed (sums : fletcher (bytes.drop 2) = (0,0)) {offset : Nat} (behind : 2 ≤ offset)
    (inside : offset < bytes.length) {value : UInt8} (changed : value.toNat % 255 ≠ (bytes.getD offset 0).toNat % 255) :
    fletcher ((bytes.set offset value).drop 2) ≠ (0,0) := by
  have place : bytes.drop 2 = (bytes.drop 2).take (offset - 2) ++ bytes[offset] :: bytes.drop (offset + 1) := by
    have split := List.take_append_drop (offset - 2) (bytes.drop 2)
    rw [List.drop_drop,show 2 + (offset - 2) = offset by omega,List.drop_eq_getElem_cons inside] at split
    exact split.symm
  have new : (bytes.set offset value).drop 2 = (bytes.drop 2).take (offset - 2) ++ value :: bytes.drop (offset + 1) := by
    rw [List.set_eq_take_append_cons_drop,if_pos inside,List.drop_append_of_le_length (by rw [List.length_take]; omega),
      List.drop_take]
  rw [new,fletcher_running,values_append,values_cons]
  rw [place,fletcher_running,values_append,values_cons] at sums
  refine running_changed sums (fun same => changed ?_)
  rw [List.getD_eq_getElem _ _ inside]
  have equal : (value.toNat : Int) % 255 = bytes[offset].toNat % 255 := same
  omega

/-! ### Headers -/

/-- The limits of a header that was read. -/
structure LsaHeader.Ranged (header : LsaHeader) : Prop where
  young : header.age ≤ LSA_MAX_AGE
  valid : header.sequence ≠ Int32.minValue
  long : 20 ≤ header.length

theorem LsaHeader.decode_ok {header : LsaHeader} (decoded : LsaHeader.decode bytes = .ok header) :
    20 ≤ bytes.length ∧ header.Ranged ∧ header.length = u16_at bytes 18 := by
  unfold LsaHeader.decode at decoded
  by_cases short : bytes.length < 20
  · rw [if_pos short] at decoded
    cases decoded
  · rw [if_neg short] at decoded
    cases known : LsaType.try_from (bytes.getD 3 0) with
    | error error => rw [known] at decoded; cases decoded
    | ok kind =>
      simp only [known] at decoded
      split_ifs at decoded with outside
      cases decoded
      simp only [not_or,not_lt] at outside
      exact ⟨not_lt.mp short,⟨outside.1,outside.2.1,outside.2.2⟩,rfl⟩

/-- A header within its limits is read back, whatever follows it. -/
theorem LsaHeader.Ranged.decode_encode {header : LsaHeader} (ranged : header.Ranged) (rest : List UInt8) :
    LsaHeader.decode (header.encode ++ rest) = .ok header := Lsa.decode_encode ranged.young ranged.valid ranged.long rest

/-! ### Bodies of advertisements -/

theorem RouterLinkType.of_byte_byte (kind : RouterLinkType) : RouterLinkType.of_byte kind.byte = .ok kind := by
  cases kind <;> rfl

theorem RouterLink.encode_length (self : RouterLink) : self.encode.length = 12 := rfl

theorem RouterLink.decode_encode (self : RouterLink) : RouterLink.decode self.encode = .ok self := by
  obtain ⟨id,data,kind,metric⟩ := self
  simp [RouterLink.decode,RouterLink.encode,be16,be32,u16_at,u32_at,RouterLinkType.of_byte_byte,Lsa.from_be16_bytes,Lsa.from_be32_bytes]

/-- A metric of three bytes, below the bit of its type. -/
theorem metric_bytes {metric : UInt32} (small : metric ≤ 0x00ffffff) (type_two : Bool) :
    be32 (metric ||| if type_two then 0x80000000 else 0) =
      [if type_two then 0x80 else 0,UInt8.ofNat (metric.toNat / 65536),UInt8.ofNat (metric.toNat / 256),UInt8.ofNat metric.toNat] := by
  have bound : metric.toNat ≤ 16777215 := UInt32.le_iff_toNat_le.mp small
  have whole : (metric ||| if type_two then 0x80000000 else 0).toNat = metric.toNat + if type_two then 2147483648 else 0 := by
    cases type_two with
    | false => simp
    | true =>
      have apart := Nat.two_pow_add_eq_or_of_lt (show metric.toNat < 2 ^ 31 by omega) 1
      rw [UInt32.toNat_or]
      show metric.toNat ||| 2147483648 = metric.toNat + 2147483648
      rw [Nat.lor_comm,show 2147483648 = 2 ^ 31 * 1 by norm_num,← apart,Nat.add_comm]
  rw [be32,whole]
  simp only [List.cons.injEq,and_true]
  cases type_two <;> refine ⟨UInt8.toNat.inj ?_,UInt8.toNat.inj ?_,UInt8.toNat.inj ?_,UInt8.toNat.inj ?_⟩ <;>
    simp [UInt8.toNat_ofNat'] <;> omega

/-- A three-byte metric is read back. -/
theorem metric_read {metric : UInt32} (small : metric ≤ 0x00ffffff) :
    from_be32 0 (UInt8.ofNat (metric.toNat / 65536)) (UInt8.ofNat (metric.toNat / 256)) (UInt8.ofNat metric.toNat) =
        metric := by
  have bound : metric.toNat ≤ 16777215 := UInt32.le_iff_toNat_le.mp small
  apply UInt32.toNat.inj
  rw [from_be32_toNat]
  simp only [UInt8.toNat_zero,UInt8.toNat_ofNat']
  omega

/-- What a body is written as is read back. -/
theorem LsaBody.decode_encode {self : LsaBody} {body : List UInt8} (encoded : self.encode = .ok body) :
    LsaBody.decode self.kind body = .ok self := by
  cases self with
  | Router flags links =>
    rw [LsaBody.encode] at encoded
    by_cases large : (65535 - 24) / 12 < links.length
    · rw [if_pos large] at encoded
      cases encoded
    · rw [if_neg large] at encoded
      cases encoded
      have count : (UInt16.ofNat links.length).toNat = links.length :=
        UInt16.toNat_ofNat_of_lt' (by simp only [UInt16.size]; omega)
      have length := flatMap_length RouterLink.encode_length links
      have read : u16_at ([flags,0] ++ be16 (UInt16.ofNat links.length) ++ links.flatMap RouterLink.encode) 2 =
          UInt16.ofNat links.length := u16_at_be16 _ (links.flatMap RouterLink.encode)
      have whole : ([flags,0] ++ be16 (UInt16.ofNat links.length) ++ links.flatMap RouterLink.encode).length =
          4 + links.length * 12 := by
        simp only [List.length_append,length,be16_length,List.length_cons,List.length_nil]
        omega
      have rest : ([flags,0] ++ be16 (UInt16.ofNat links.length) ++ links.flatMap RouterLink.encode).drop 4 =
          links.flatMap RouterLink.encode := rfl
      unfold LsaBody.decode
      dsimp only [LsaBody.kind]
      rw [read,count,whole,rest,if_neg (by omega),if_neg (by omega),
        groups_flatMap (by norm_num) RouterLink.encode_length,mapM_map (fun link _ => link.decode_encode)]
      rfl
  | Network mask routers =>
    rw [LsaBody.encode] at encoded
    by_cases malformed : ¬ valid_mask mask
    · rw [if_pos malformed] at encoded
      cases encoded
    by_cases large : (65535 - 24) / 4 < routers.length
    · rw [if_neg malformed,if_pos large] at encoded
      cases encoded
    · rw [if_neg malformed,if_neg large] at encoded
      cases encoded
      have length := flatMap_be32_length routers
      have whole : (be32 mask ++ routers.flatMap be32).length = 4 + 4 * routers.length := by
        rw [List.length_append,length,be32_length]
      have rest : (be32 mask ++ routers.flatMap be32).drop 4 = routers.flatMap be32 := rfl
      unfold LsaBody.decode
      dsimp only [LsaBody.kind]
      rw [u32_at_be32,whole,rest,chunks32_flatMap,if_neg]
      simp only [not_or]
      exact ⟨by omega,by omega,malformed⟩
  | Summary mask metric =>
    rw [LsaBody.encode] at encoded
    by_cases malformed : ¬ valid_mask mask ∨ 0x00ffffff < metric
    · rw [if_pos malformed] at encoded
      cases encoded
    · rw [if_neg malformed] at encoded
      cases encoded
      obtain ⟨valid,small⟩ := not_or.mp malformed
      have bytes := metric_bytes (not_lt.mp small) false
      simp only [Bool.false_eq_true,if_false,UInt32.or_zero] at bytes
      have read := metric_read (not_lt.mp small)
      rw [bytes]
      unfold LsaBody.decode
      dsimp only [LsaBody.kind]
      simp [be32,u32_at,Lsa.from_be32_bytes,not_not.mp valid]
      exact read
  | AsbrSummary metric =>
    rw [LsaBody.encode] at encoded
    by_cases large : 0x00ffffff < metric
    · rw [if_pos large] at encoded
      cases encoded
    · rw [if_neg large] at encoded
      cases encoded
      have bytes := metric_bytes (not_lt.mp large) false
      simp only [Bool.false_eq_true,if_false,UInt32.or_zero] at bytes
      have read := metric_read (not_lt.mp large)
      rw [bytes]
      unfold LsaBody.decode
      dsimp only [LsaBody.kind]
      have zero : valid_mask 0 = true := by decide
      have empty : from_be32 0 0 0 0 = 0 := by decide
      simp [u32_at,empty,zero]
      exact read
  | External mask metric type_two forwarding_address tag =>
    rw [LsaBody.encode] at encoded
    by_cases malformed : ¬ valid_mask mask ∨ 0x00ffffff < metric
    · rw [if_pos malformed] at encoded
      cases encoded
    · rw [if_neg malformed] at encoded
      cases encoded
      obtain ⟨valid,small⟩ := not_or.mp malformed
      have read := metric_read (not_lt.mp small)
      rw [metric_bytes (not_lt.mp small)]
      unfold LsaBody.decode
      dsimp only [LsaBody.kind]
      have bit : (128 : UInt8) &&& 127 = 0 := by decide
      cases type_two <;> simp [be32,u32_at,Lsa.from_be32_bytes,not_not.mp valid,bit] <;> exact read

/-- The metric that is read from three bytes. -/
theorem metric_small (a b c : UInt8) : ¬ 0x00ffffff < from_be32 0 a b c := by
  have := a.toNat_lt
  have := b.toNat_lt
  have := c.toNat_lt
  rw [not_lt,UInt32.le_iff_toNat_le,from_be32_toNat]
  simp only [UInt8.toNat_zero]
  show _ ≤ 16777215
  omega

/-- A body that was read can be written again, with the length it was read from. -/
theorem LsaBody.encode_of_decode {kind : LsaType} {body : LsaBody} (short : bytes.length ≤ 65515)
    (decoded : LsaBody.decode kind bytes = .ok body) :
    body.kind = kind ∧ ∃ out, body.encode = .ok out ∧ out.length = bytes.length := by
  unfold LsaBody.decode at decoded
  cases kind with
  | Router =>
    dsimp only at decoded
    split_ifs at decoded with few uneven
    cases read : (groups 12 (bytes.drop 4)).mapM RouterLink.decode with
    | error error => rw [read] at decoded; cases decoded
    | ok links =>
      rw [read] at decoded
      cases decoded
      obtain ⟨count,-⟩ := mapM_ok read
      rw [groups_length,List.length_drop] at count
      have length := flatMap_length RouterLink.encode_length links
      refine ⟨rfl,_,by rw [LsaBody.encode,if_neg (by omega)],?_⟩
      simp only [List.length_append,length,be16_length,List.length_cons,List.length_nil]
      omega
  | Network =>
    dsimp only at decoded
    split_ifs at decoded with malformed
    cases decoded
    simp only [not_or,not_not] at malformed
    have count := chunks32_length (bytes.drop 4)
    rw [List.length_drop] at count
    refine ⟨rfl,_,by rw [LsaBody.encode,if_neg (by simp [malformed.2.2]),if_neg (by omega)],?_⟩
    rw [List.length_append,flatMap_be32_length,be32_length]
    omega
  | Summary =>
    simp only [ne_eq,reduceCtorEq,not_false_eq_true,if_true,if_false] at decoded
    split_ifs at decoded with malformed signed
    cases decoded
    simp only [not_or,not_not] at malformed
    exact ⟨rfl,_,by rw [LsaBody.encode,if_neg (by simpa [malformed.2] using not_lt.mp (metric_small _ _ _))],by
      rw [List.length_append,be32_length,be32_length,malformed.1]⟩
  | AsbrSummary =>
    simp only [ne_eq,reduceCtorEq,not_false_eq_true,if_true] at decoded
    split_ifs at decoded with malformed signed
    cases decoded
    simp only [not_or,not_not] at malformed
    exact ⟨rfl,_,by rw [LsaBody.encode,if_neg (metric_small _ _ _)],by
      rw [List.length_append,be32_length,malformed.1]; rfl⟩
  | External =>
    simp only [ne_eq,not_true_eq_false,if_false] at decoded
    split_ifs at decoded with malformed signed
    cases decoded
    simp only [not_or,not_not] at malformed
    exact ⟨rfl,_,by rw [LsaBody.encode,if_neg (by simpa [malformed.2] using not_lt.mp (metric_small _ _ _))],by
      simp only [List.length_append,be32_length,malformed.1]⟩

/-! ### Advertisements -/

namespace Lsa

/-- The header of an advertisement before its check bytes are inserted. -/
def unchecked (self : Lsa) (length : Nat) : LsaHeader := ⟨self.age,self.options,self.key,self.sequence,0,UInt16.ofNat length⟩

variable {lsa : Lsa}

theorem encode_eq_ok {bytes : List UInt8} : lsa.encode = .ok bytes ↔
    lsa.age ≤ LSA_MAX_AGE ∧ lsa.sequence ≠ Int32.minValue ∧ ∃ body, lsa.body.encode = .ok body ∧ 20 + body.length ≤ 65535 ∧
      bytes = insert_checksum ((lsa.unchecked (20 + body.length)).encode ++ body) := by
  unfold encode
  by_cases malformed : LSA_MAX_AGE < lsa.age ∨ lsa.sequence = Int32.minValue
  · rw [if_pos malformed]
    constructor
    · intro impossible
      cases impossible
    · rintro ⟨young,valid,-⟩
      exact absurd malformed (not_or.mpr ⟨not_lt.mpr young,valid⟩)
  · rw [if_neg malformed]
    obtain ⟨young,valid⟩ := not_or.mp malformed
    cases encoded : lsa.body.encode with
    | error error =>
      constructor
      · intro impossible
        cases impossible
      · rintro ⟨-,-,body,impossible,-⟩
        cases impossible
    | ok body =>
      by_cases large : 65535 < 20 + body.length
      · simp only [if_pos large]
        constructor
        · intro impossible
          cases impossible
        · rintro ⟨-,-,_,same,short,-⟩
          cases same
          omega
      · simp only [if_neg large]
        constructor
        · intro same
          cases same
          exact ⟨not_lt.mp young,valid,body,rfl,not_lt.mp large,rfl⟩
        · rintro ⟨-,-,_,same,-,rfl⟩
          cases same
          rfl

/-- An encoded advertisement: the header that says its length, with check bytes that make both sums zero. -/
theorem encode_parts {bytes : List UInt8} (encoded : lsa.encode = .ok bytes) :
    ∃ (header : LsaHeader) (body : List UInt8), header.Ranged ∧ bytes = header.encode ++ body ∧ lsa.body.encode = .ok body ∧
      header.length.toNat = 20 + body.length ∧ fletcher (bytes.drop 2) = (0,0) ∧ header.age = lsa.age ∧
      header.options = lsa.options ∧ header.key = lsa.key ∧ header.sequence = lsa.sequence := by
  obtain ⟨young,valid,body,written,short,rfl⟩ := encode_eq_ok.mp encoded
  have length : (UInt16.ofNat (20 + body.length)).toNat = 20 + body.length :=
    UInt16.toNat_ofNat_of_lt' (by simp only [UInt16.size]; omega)
  have long : (20 : UInt16) ≤ UInt16.ofNat (20 + body.length) := by
    rw [UInt16.le_iff_toNat_le,length]
    exact Nat.le_add_right 20 _
  have sums : fletcher ((insert_checksum ((lsa.unchecked (20 + body.length)).encode ++ body)).drop 2) = (0,0) := by
    refine fletcher_inserted ?_ (by constructor <;> simp [unchecked,LsaHeader.encode,be16,be32])
    rw [List.length_append,LsaHeader.encode_length]
    omega
  have parts := insert_checksum_encode (lsa.unchecked (20 + body.length)) body
  exact ⟨_,body,⟨young,valid,long⟩,parts,written,length,sums,rfl,rfl,rfl,rfl⟩

/-- The length of an encoded advertisement, and the header that it starts with. -/
theorem encode_header {bytes : List UInt8} (encoded : lsa.encode = .ok bytes) (rest : List UInt8) :
    20 ≤ bytes.length ∧ ∃ header, LsaHeader.decode (bytes ++ rest) = .ok header ∧ header.length.toNat = bytes.length := by
  obtain ⟨header,body,ranged,rfl,-,length,-⟩ := encode_parts encoded
  refine ⟨by rw [List.length_append,LsaHeader.encode_length]; exact Nat.le_add_right 20 _,header,?_,?_⟩
  · rw [List.append_assoc]
    exact ranged.decode_encode (body ++ rest)
  · rw [length,List.length_append,LsaHeader.encode_length]

/-- What was encoded is decoded, and nothing else of the value is lost. -/
theorem decode_of_encode {bytes : List UInt8} (encoded : lsa.encode = .ok bytes) :
    Lsa.decode bytes = .ok lsa := by
  obtain ⟨header,body,ranged,parts,written,length,sums,age,options,key,sequence⟩ := encode_parts encoded
  have whole : bytes.length = header.length.toNat := by rw [parts,List.length_append,LsaHeader.encode_length,length]
  have rest : bytes.drop 20 = body := by rw [parts,List.drop_left' (LsaHeader.encode_length header)]
  have read : LsaHeader.decode bytes = .ok header := by rw [parts]; exact ranged.decode_encode body
  have body_read := LsaBody.decode_encode written
  have kind : header.key.kind = lsa.body.kind := by rw [key]; rfl
  rw [Lsa.decode,read]
  dsimp only
  rw [if_neg (not_not.mpr whole),if_neg (not_not.mpr sums),rest,kind,body_read,age,options,sequence,key]
  rfl

/-- The age is outside the checksum: other age bytes give the encoding at that age. -/
theorem encode_at_age {bytes : List UInt8} (encoded : lsa.encode = .ok bytes) {age : UInt16} (young : age ≤ LSA_MAX_AGE) :
    { lsa with age := age }.encode = .ok (be16 age ++ bytes.drop 2) := by
  obtain ⟨-,valid,body,written,short,rfl⟩ := encode_eq_ok.mp encoded
  refine encode_eq_ok.mpr ⟨young,valid,body,written,short,?_⟩
  rw [insert_checksum_encode,insert_checksum_encode]
  rfl

/-- What was decoded can be encoded, with the same length. -/
theorem encode_of_decode {bytes : List UInt8} (decoded : Lsa.decode bytes = .ok lsa) :
    ∃ out, lsa.encode = .ok out ∧ out.length = bytes.length := by
  unfold Lsa.decode at decoded
  cases read : LsaHeader.decode bytes with
  | error error => rw [read] at decoded; cases decoded
  | ok header =>
    rw [read] at decoded
    dsimp only at decoded
    split_ifs at decoded with length sums
    cases parsed : LsaBody.decode header.key.kind (bytes.drop 20) with
    | error error => rw [parsed] at decoded; cases decoded
    | ok body =>
      rw [parsed] at decoded
      cases decoded
      obtain ⟨long,ranged,-⟩ := LsaHeader.decode_ok read
      have short := header.length.toNat_lt
      have behind : (bytes.drop 20).length = bytes.length - 20 := List.length_drop ..
      obtain ⟨-,out,written,same⟩ := LsaBody.encode_of_decode (by omega) parsed
      refine ⟨_,encode_eq_ok.mpr ⟨ranged.young,ranged.valid,out,written,by omega,rfl⟩,?_⟩
      rw [insert_checksum,List.length_set,List.length_set,List.length_append,LsaHeader.encode_length]
      omega

end Lsa

/-! ### Lists in packets -/

section Lists

variable {H : Type} {write : H → List UInt8} {read : List UInt8 → Except WireError H} {Ranged : H → Prop}

theorem decode_headers_flatMap (size : ∀ header, (write header).length = 20)
    (reads : ∀ header rest, Ranged header → read (write header ++ rest) = .ok header) {headers : List H}
    (ranged : ∀ header ∈ headers, Ranged header) : decode_headers read (headers.flatMap write) = .ok headers := by
  have length := flatMap_length size headers
  rw [decode_headers,if_neg (by omega),groups_flatMap (by norm_num) size]
  refine mapM_map (fun header member => ?_)
  have found := reads header [] (ranged header member)
  rwa [List.append_nil] at found

theorem decode_headers_ok (valid : ∀ bytes header, read bytes = .ok header → Ranged header) {data : List UInt8}
    {headers : List H} (decoded : decode_headers read data = .ok headers) :
    20 * headers.length = data.length ∧ ∀ header ∈ headers, Ranged header := by
  unfold decode_headers at decoded
  split_ifs at decoded with uneven
  obtain ⟨count,every⟩ := mapM_ok decoded
  rw [groups_length] at count
  refine ⟨by omega,fun header member => ?_⟩
  obtain ⟨chunk,-,found⟩ := every header member
  exact valid chunk header found

end Lists

/-- What a codec of advertisements does for the lists of an update. -/
structure Codec {L : Type} (write : L → Except WireError (List UInt8)) (read : List UInt8 → Except WireError L)
    (length : List UInt8 → Except WireError UInt16) : Prop where
  reads : ∀ lsa bytes, write lsa = .ok bytes → read bytes = .ok lsa
  long : ∀ lsa bytes, write lsa = .ok bytes → 20 ≤ bytes.length
  found : ∀ lsa bytes rest, write lsa = .ok bytes → ∃ number, length (bytes ++ rest) = .ok number ∧
    number.toNat = bytes.length
  rewrites : ∀ bytes lsa, read bytes = .ok lsa → ∃ out, write lsa = .ok out ∧ out.length = bytes.length

section Updates

variable {L : Type} {write : L → Except WireError (List UInt8)} {read : List UInt8 → Except WireError L}
  {length : List UInt8 → Except WireError UInt16}

/-- The encodings of a list of advertisements, one after the other. -/
def Encodings (write : L → Except WireError (List UInt8)) (lsas : List L) (parts : List (List UInt8)) : Prop :=
  List.Forall₂ (fun lsa part => write lsa = .ok part) lsas parts

/-- An update that was written is its count and the encodings. -/
theorem encodings_of_fold {limit : Nat} {lsas : List L} {start body : List UInt8}
    (written : lsas.foldlM (fun body lsa => append_lsa limit body (write lsa)) start = .ok body) :
    ∃ parts, Encodings write lsas parts ∧ body = start ++ parts.flatten := by
  induction lsas generalizing start with
  | nil =>
    cases written
    exact ⟨[],.nil,(List.append_nil _).symm⟩
  | cons lsa rest ih =>
    rw [List.foldlM_cons] at written
    cases encoded : write lsa with
    | error error => rw [encoded] at written; cases written
    | ok part =>
      rw [encoded,append_lsa] at written
      by_cases large : limit < start.length + part.length
      · rw [if_pos large] at written
        cases written
      · rw [if_neg large] at written
        obtain ⟨parts,every,rfl⟩ := ih written
        exact ⟨part :: parts,.cons encoded every,by rw [List.flatten_cons,List.append_assoc]⟩

/-- Encodings that fit together are written. -/
theorem fold_of_encodings {limit : Nat} {lsas : List L} {parts : List (List UInt8)} (every : Encodings write lsas parts)
    (start : List UInt8) (fits : start.length + parts.flatten.length ≤ limit) :
    lsas.foldlM (fun body lsa => append_lsa limit body (write lsa)) start = .ok (start ++ parts.flatten) := by
  induction every generalizing start with
  | nil => exact congrArg Except.ok (List.append_nil _).symm
  | @cons lsa part rest parts encoded _ ih =>
    rw [List.flatten_cons,List.length_append] at fits
    rw [List.foldlM_cons,encoded,append_lsa,if_neg (by omega)]
    have later := ih (start ++ part) (by rw [List.length_append]; omega)
    rw [List.flatten_cons,← List.append_assoc]
    exact later

namespace Codec

/-- Every advertisement has a header. -/
theorem enough (codec : Codec write read length) {lsas : List L} {parts : List (List UInt8)}
    (every : Encodings write lsas parts) : 20 * lsas.length ≤ parts.flatten.length := by
  induction every with
  | nil => simp
  | @cons lsa part rest parts encoded _ ih =>
    have long := codec.long lsa part encoded
    rw [List.length_cons,List.flatten_cons,List.length_append]
    omega

/-- Each advertisement is found where the one before it ended. -/
theorem decode_encodings (codec : Codec write read length) {lsas : List L} {parts : List (List UInt8)}
    (every : Encodings write lsas parts) (front : List UInt8) :
    decode_lsas length read (front ++ parts.flatten) lsas.length front.length = .ok (lsas,front.length + parts.flatten.length) := by
  induction every generalizing front with
  | nil => rfl
  | @cons lsa part rest parts encoded _ ih =>
    obtain ⟨number,found,size⟩ := codec.found lsa part parts.flatten encoded
    have later := ih (front ++ part)
    rw [List.append_assoc,List.length_append] at later
    rw [List.flatten_cons,List.length_cons,decode_lsas,List.drop_left,found]
    dsimp only
    rw [size,slice?_append front part parts.flatten rfl rfl]
    dsimp only
    rw [codec.reads lsa part encoded]
    dsimp only
    rw [later,List.length_append,Nat.add_assoc]

/-- What was read can be written, and takes the bytes that it was read from. -/
theorem decode_ok (codec : Codec write read length) {body : List UInt8} {count offset last : Nat} {lsas : List L}
    (decoded : decode_lsas length read body count offset = .ok (lsas,last)) :
    lsas.length = count ∧ ∃ parts, Encodings write lsas parts ∧ offset + parts.flatten.length = last := by
  induction count generalizing offset lsas with
  | zero =>
    cases decoded
    exact ⟨rfl,[],.nil,rfl⟩
  | succ count ih =>
    unfold decode_lsas at decoded
    cases found : length (body.drop offset) with
    | error error => rw [found] at decoded; cases decoded
    | ok number =>
      cases sliced : slice? body offset number.toNat with
      | none => simp only [found,sliced] at decoded; cases decoded
      | some bytes =>
        cases parsed : read bytes with
        | error error => simp only [found,sliced,parsed] at decoded; cases decoded
        | ok lsa =>
          cases others : decode_lsas length read body count (offset + number.toNat) with
          | error error => simp only [found,sliced,parsed,others] at decoded; cases decoded
          | ok pair =>
            obtain ⟨more,stop⟩ := pair
            simp only [found,sliced,parsed,others] at decoded
            cases decoded
            obtain ⟨counted,parts,every,sum⟩ := ih others
            obtain ⟨part,encoded,size⟩ := codec.rewrites bytes lsa parsed
            obtain ⟨-,-,slice⟩ := slice?_eq_some sliced
            refine ⟨congrArg Nat.succ counted,part :: parts,.cons encoded every,?_⟩
            rw [List.flatten_cons,List.length_append,size,slice,← sum,Nat.add_assoc]

end Codec

end Updates

theorem LsaKey.decode_encode (self : LsaKey) : LsaKey.decode self.encode = .ok self := by
  obtain ⟨kind,id,router⟩ := self
  have type : be32 (UInt32.ofNat kind.byte.toNat) = [0,0,0,kind.byte] := by cases kind <;> decide
  show LsaKey.decode (be32 (UInt32.ofNat kind.byte.toNat) ++ be32 id ++ be32 router) = _
  rw [type]
  simp [LsaKey.decode,be32,u32_at,Lsa.try_from_byte,Lsa.from_be32_bytes]

/-- The codec of advertisements. -/
theorem Lsa.codec : Codec Lsa.encode Lsa.decode LsaHeader.length_of where
  reads _ _ encoded := decode_of_encode encoded
  long _ _ encoded := (encode_header encoded []).1
  found _ _ rest encoded := by
    obtain ⟨-,header,read,length⟩ := encode_header encoded rest
    exact ⟨header.length,by rw [LsaHeader.length_of,read]; rfl,length⟩
  rewrites _ _ decoded := encode_of_decode decoded

theorem LsaHeader.decode_all {headers : List LsaHeader} (ranged : ∀ header ∈ headers, header.Ranged) :
    decode_headers LsaHeader.decode (headers.flatMap LsaHeader.encode) = .ok headers :=
  decode_headers_flatMap LsaHeader.encode_length (fun _ rest ranged => ranged.decode_encode rest) ranged

theorem LsaHeader.decode_all_ok {data : List UInt8} {headers : List LsaHeader}
    (decoded : decode_headers LsaHeader.decode data = .ok headers) :
    20 * headers.length = data.length ∧ ∀ header ∈ headers, header.Ranged :=
  decode_headers_ok (fun _ _ read => (LsaHeader.decode_ok read).2.1) decoded

/-! ### Bodies of packets -/

/-- The headers that a body carries are within their limits. -/
def OspfBody.Ranged : OspfBody Lsa → Prop
  | .DatabaseDescription _ _ _ _ headers => ∀ header ∈ headers, LsaHeader.Ranged header
  | .LinkStateAck headers => ∀ header ∈ headers, LsaHeader.Ranged header
  | _ => True

theorem OspfHello.encode_length (self : OspfHello) : self.encode.length = 20 + 4 * self.neighbors.length := by
  rw [OspfHello.encode,List.length_append,flatMap_be32_length]
  rfl

theorem OspfHello.decode_length {hello : OspfHello} (decoded : OspfHello.decode bytes = .ok hello) :
    20 + 4 * hello.neighbors.length = bytes.length := by
  unfold OspfHello.decode at decoded
  split_ifs at decoded with malformed
  cases decoded
  have count := chunks32_length (bytes.drop 20)
  rw [List.length_drop] at count
  simp only [not_or,not_lt,not_not] at malformed
  dsimp only
  omega

theorem OspfHello.decode_encode (self : OspfHello) : OspfHello.decode self.encode = .ok self := by
  obtain ⟨mask,interval,options,priority,dead,designated,backup,neighbors⟩ := self
  have rest : (OspfHello.encode ⟨mask,interval,options,priority,dead,designated,backup,neighbors⟩).drop 20 =
      neighbors.flatMap be32 := rfl
  rw [OspfHello.decode,OspfHello.encode_length,rest,chunks32_flatMap,if_neg (by omega)]
  simp [OspfHello.encode,be16,be32,u16_at,u32_at,Lsa.from_be16_bytes,Lsa.from_be32_bytes]

namespace OspfBody

/-- What a body is written as is read back. -/
theorem decode_encode {self : OspfBody Lsa} {kind : UInt8} {bytes : List UInt8} (ranged : self.Ranged)
    (encoded : self.encode = .ok (kind,bytes)) : OspfBody.decode kind bytes = .ok self := by
  cases self with
  | Hello hello =>
    rw [OspfBody.encode] at encoded
    split_ifs at encoded with large
    cases encoded
    exact congrArg (Except.map _) (OspfHello.decode_encode hello)
  | DatabaseDescription mtu options flags sequence headers =>
    rw [OspfBody.encode] at encoded
    split_ifs at encoded with large wide
    cases encoded
    simp only [not_or,not_not] at large
    have read := LsaHeader.decode_all ranged
    have narrow : (UInt8.ofNat options.toNat).toUInt32 = options := by
      have bound : options.toNat ≤ 255 := UInt32.le_iff_toNat_le.mp (not_lt.mp wide)
      apply UInt32.toNat.inj
      rw [UInt8.toNat_toUInt32,UInt8.toNat_ofNat_of_lt' (by simp only [UInt8.size]; omega)]
    have whole : ¬ (be16 mtu ++ [UInt8.ofNat options.toNat,flags] ++ be32 sequence ++ headers.flatMap LsaHeader.encode).length < 8 := by
      simp [be16,be32]
    have rest : (be16 mtu ++ [UInt8.ofNat options.toNat,flags] ++ be32 sequence ++ headers.flatMap LsaHeader.encode).drop 8 =
        headers.flatMap LsaHeader.encode := rfl
    simp only [OspfBody.decode]
    rw [rest,read,if_neg]
    · simpa [be16,be32,u16_at,u32_at,Lsa.from_be16_bytes,Lsa.from_be32_bytes] using narrow
    · exact not_or.mpr ⟨whole,not_not.mpr large.2⟩
  | LinkStateRequest keys =>
    rw [OspfBody.encode] at encoded
    split_ifs at encoded with large
    cases encoded
    have length := flatMap_length LsaKey.encode_length keys
    have read := mapM_map (fun (key : LsaKey) (_ : key ∈ keys) => key.decode_encode)
    show (if _ then _ else _) = _
    rw [if_neg (by omega),groups_flatMap (by norm_num) LsaKey.encode_length,read]
  | LinkStateUpdate lsas =>
    rw [OspfBody.encode] at encoded
    split_ifs at encoded with large
    cases written : lsas.foldlM (fun body lsa => append_lsa (65535 - 24) body lsa.encode) (be32 (UInt32.ofNat lsas.length)) with
    | error error => rw [written] at encoded; cases encoded
    | ok body =>
      rw [written] at encoded
      cases encoded
      obtain ⟨parts,every,rfl⟩ := encodings_of_fold written
      have count : (UInt32.ofNat lsas.length).toNat = lsas.length :=
        UInt32.toNat_ofNat_of_lt' (by simp only [UInt32.size]; omega)
      have each := Lsa.codec.enough every
      have read := Lsa.codec.decode_encodings every (be32 (UInt32.ofNat lsas.length))
      rw [be32_length] at read
      simp only [OspfBody.decode]
      rw [u32_at_be32,count,List.length_append,be32_length,if_neg (by omega),if_neg (by omega),read]
      dsimp only
      rw [if_neg (by simp)]
  | LinkStateAck headers =>
    rw [OspfBody.encode] at encoded
    split_ifs at encoded with large
    cases encoded
    simp only [OspfBody.decode]
    rw [LsaHeader.decode_all ranged]

/-- A body that was read can be written again, with the length it was read from. -/
theorem encode_of_decode {kind : UInt8} {bytes : List UInt8} {body : OspfBody Lsa} (short : bytes.length ≤ 65535 - 24)
    (decoded : OspfBody.decode kind bytes = .ok body) :
    body.Ranged ∧ ∃ out, body.encode = .ok (kind,out) ∧ out.length = bytes.length := by
  unfold OspfBody.decode at decoded
  split at decoded
  · cases read : OspfHello.decode bytes with
    | error error => rw [read] at decoded; cases decoded
    | ok hello =>
      rw [read] at decoded
      cases decoded
      have length := OspfHello.decode_length read
      refine ⟨trivial,_,by rw [OspfBody.encode,if_neg (by omega)],?_⟩
      rw [OspfHello.encode_length]
      exact length
  · split_ifs at decoded with malformed
    simp only [not_or,not_lt,not_not] at malformed
    cases read : decode_headers LsaHeader.decode (bytes.drop 8) with
    | error error => rw [read] at decoded; cases decoded
    | ok headers =>
      rw [read] at decoded
      cases decoded
      obtain ⟨count,ranged⟩ := LsaHeader.decode_all_ok read
      rw [List.length_drop] at count
      have length := flatMap_length LsaHeader.encode_length headers
      have narrow : ¬ 255 < (bytes.getD 2 0).toUInt32 := by
        have := (bytes.getD 2 0).toNat_lt
        rw [not_lt,UInt32.le_iff_toNat_le,UInt8.toNat_toUInt32]
        show _ ≤ 255
        omega
      refine ⟨ranged,_,by rw [OspfBody.encode,if_neg (not_or.mpr ⟨by omega,not_not.mpr malformed.2⟩),if_neg narrow],?_⟩
      simp only [List.length_append,be16_length,be32_length,length,List.length_cons,List.length_nil]
      omega
  · split_ifs at decoded with uneven
    cases read : (groups 12 bytes).mapM LsaKey.decode with
    | error error => rw [read] at decoded; cases decoded
    | ok keys =>
      rw [read] at decoded
      cases decoded
      obtain ⟨count,-⟩ := mapM_ok read
      rw [groups_length] at count
      have length := flatMap_length LsaKey.encode_length keys
      refine ⟨trivial,_,by rw [OspfBody.encode,if_neg (by omega)],?_⟩
      omega
  · dsimp only at decoded
    split_ifs at decoded with few many
    cases read : decode_lsas LsaHeader.length_of Lsa.decode bytes (u32_at bytes 0).toNat 4 with
    | error error => rw [read] at decoded; cases decoded
    | ok pair =>
      obtain ⟨lsas,last⟩ := pair
      rw [read] at decoded
      dsimp only at decoded
      split_ifs at decoded with partway
      cases decoded
      obtain ⟨count,parts,every,total⟩ := Lsa.codec.decode_ok read
      have fits : (be32 (UInt32.ofNat lsas.length)).length + parts.flatten.length ≤ 65535 - 24 := by
        rw [be32_length]
        omega
      have written := fold_of_encodings every _ fits
      refine ⟨trivial,_,by rw [OspfBody.encode,if_neg (by omega),written],?_⟩
      rw [List.length_append,be32_length]
      omega
  · cases read : decode_headers LsaHeader.decode bytes with
    | error error => rw [read] at decoded; cases decoded
    | ok headers =>
      rw [read] at decoded
      cases decoded
      obtain ⟨count,ranged⟩ := LsaHeader.decode_all_ok read
      have length := flatMap_length LsaHeader.encode_length headers
      refine ⟨ranged,_,by rw [OspfBody.encode,if_neg (by omega)],?_⟩
      omega
  · cases decoded

end OspfBody

/-! ### Packets -/

namespace OspfV2Packet

/-- The header before its checksum. -/
def front (self : OspfV2Packet) (kind : UInt8) (length : Nat) : List UInt8 :=
  [2,kind] ++ be16 (UInt16.ofNat length) ++ be32 self.router_id ++ be32 self.area

theorem head_split (self : OspfV2Packet) (kind : UInt8) (length : Nat) (sum : UInt16) (body : List UInt8) :
    self.head kind length sum ++ body = self.front kind length ++ (be16 sum ++ (List.replicate 10 0 ++ body)) := by
  simp only [head,front,List.append_assoc]

/-- An encoded packet whose headers are within their limits is decoded. -/
theorem decode_encode {self : OspfV2Packet} {bytes : List UInt8} (ranged : self.body.Ranged)
    (encoded : self.encode = .ok bytes) :
    OspfV2Packet.decode bytes = .ok self := by
  unfold encode at encoded
  cases written : self.body.encode with
  | error error => rw [written] at encoded; cases encoded
  | ok pair =>
    obtain ⟨kind,body⟩ := pair
    rw [written] at encoded
    dsimp only at encoded
    split_ifs at encoded with large
    have same := Except.ok.inj encoded
    have filled : Transport.checksum bytes = 0 := by
      rw [← same,head_split,head_split]
      exact Transport.checksum_fills _ _ (by simp [front]) (by simp [front]; omega)
    generalize Transport.checksum (self.head kind (24 + body.length) 0 ++ body) = check at same
    have length : (UInt16.ofNat (24 + body.length)).toNat = 24 + body.length :=
      UInt16.toNat_ofNat_of_lt' (by simp only [UInt16.size]; omega)
    have whole : bytes.length = 24 + body.length := by rw [← same,List.length_append,head_length]
    have long : u16_at bytes 2 = UInt16.ofNat (24 + body.length) := by
      rw [← same]
      exact u16_at_be16 (UInt16.ofNat (24 + body.length)) (be32 self.router_id ++ be32 self.area ++ be16 check ++
        List.replicate 10 0 ++ body)
    have router : u32_at bytes 4 = self.router_id := by
      rw [← same]
      exact u32_at_be32 self.router_id (be32 self.area ++ be16 check ++ List.replicate 10 0 ++ body)
    have area : u32_at bytes 8 = self.area := by
      rw [← same]
      exact u32_at_be32 self.area (be16 check ++ List.replicate 10 0 ++ body)
    have rest : bytes.drop 24 = body := by rw [← same]; rfl
    have type : bytes.getD 1 0 = kind := by rw [← same]; rfl
    have version : bytes.getD 0 0 = 2 := by rw [← same]; rfl
    have null : (bytes.drop 14).take 10 = List.replicate 10 0 := by rw [← same]; rfl
    rw [OspfV2Packet.decode,long,length,whole,if_neg (not_or.mpr ⟨by omega,not_or.mpr ⟨not_not.mpr version,
      not_not.mpr rfl⟩⟩),if_neg (not_not.mpr null),if_neg (not_not.mpr filled),
      type,rest,OspfBody.decode_encode ranged written,router,area]

/-- What was decoded is within its limits and can be encoded. -/
theorem encode_of_decode {self : OspfV2Packet} {bytes : List UInt8} (decoded : OspfV2Packet.decode bytes = .ok self) :
    self.body.Ranged ∧ ∃ out, self.encode = .ok out := by
  unfold OspfV2Packet.decode at decoded
  split_ifs at decoded with malformed authenticated damaged
  simp only [not_or,not_lt,not_not] at malformed
  cases parsed : OspfBody.decode (bytes.getD 1 0) (bytes.drop 24) with
  | error error => rw [parsed] at decoded; cases decoded
  | ok body =>
    rw [parsed] at decoded
    cases decoded
    have bound := (u16_at bytes 2).toNat_lt
    have behind : (bytes.drop 24).length = bytes.length - 24 := List.length_drop ..
    obtain ⟨ranged,out,written,same⟩ := OspfBody.encode_of_decode (by omega) parsed
    obtain ⟨encoded,done,-⟩ := @encode_length ⟨u32_at bytes 4,u32_at bytes 8,body⟩ _ _ written (by omega)
    exact ⟨ranged,encoded,done⟩

end OspfV2Packet

/-- The codec has a normal form: what is accepted as a packet can be encoded and is then read as the
    same packet, and an advertisement that can be encoded is read back whole, with the same header. -/
theorem ospf_normal_form :
    (∀ bytes packet, OspfV2Packet.decode bytes = .ok packet →
      ∃ encoded, packet.encode = .ok encoded ∧ OspfV2Packet.decode encoded = .ok packet) ∧
    (∀ (lsa : Lsa) bytes, lsa.encode = .ok bytes →
      ∃ decoded, Lsa.decode bytes = .ok decoded ∧ decoded = lsa ∧ decoded.header = lsa.header) := by
  constructor
  · intro bytes packet decoded
    obtain ⟨ranged,encoded,done⟩ := OspfV2Packet.encode_of_decode decoded
    exact ⟨encoded,done,OspfV2Packet.decode_encode ranged done⟩
  · intro lsa bytes encoded
    exact ⟨lsa,Lsa.decode_of_encode encoded,rfl,rfl⟩

/-- A Hello that has heard of one router. -/
theorem ospf_normal_form_hello :
    let packet : OspfV2Packet := ⟨1,0,.Hello ⟨0xffffff00,10,2,1,40,0,0,[2]⟩⟩
    ∃ encoded, packet.encode = .ok encoded ∧ OspfV2Packet.decode encoded = .ok packet := by
  intro packet
  have written : packet.body.encode = .ok (1,OspfHello.encode ⟨0xffffff00,10,2,1,40,0,0,[2]⟩) := rfl
  obtain ⟨bytes,encoded,-⟩ := OspfV2Packet.encode_length written (by rw [OspfHello.encode_length]; decide)
  exact ospf_normal_form.1 bytes packet (OspfV2Packet.decode_encode trivial encoded)

end Rios.Ospf
