import Rios.OspfLsa
import Rios.Wire

/-!
# OSPFv2 headers and checksums

An advertisement as its bytes, and the fixed header that database summaries
and acknowledgments carry. The header repeats the advertisement's own fields,
and its checksum does not depend on the age.
-/

namespace Rios.Ospf
open Rios.Device Rios.Wire

inductive WireError where
  | Malformed
  | Unsupported
  | Checksum
  | TooLarge
deriving DecidableEq

/-- `LsaType::try_from`. -/
def LsaType.try_from : UInt8 → Except WireError LsaType
  | 1 => .ok .Router
  | 2 => .ok .Network
  | 3 => .ok .Summary
  | 4 => .ok .AsbrSummary
  | 5 => .ok .External
  | _ => .error .Unsupported

/-- `RouterLinkType as u8`. -/
def RouterLinkType.byte : RouterLinkType → UInt8
  | .PointToPoint => 1
  | .Transit => 2
  | .Stub => 3
  | .Virtual => 4

/-- The standard header, also used in database descriptions and acknowledgments. -/
structure LsaHeader where
  age : UInt16
  options : UInt8
  key : LsaKey
  sequence : Int32
  checksum : UInt16
  length : UInt16
deriving DecidableEq

namespace LsaHeader

/-- The twenty bytes of a header. -/
def encode (self : LsaHeader) : List UInt8 :=
  be16 self.age ++ [self.options,self.key.kind.byte] ++ be32 self.key.link_state_id ++ be32 self.key.advertising_router ++
    be32 self.sequence.toUInt32 ++ be16 self.checksum ++ be16 self.length

/-- Decode and validate a complete fixed header. -/
def decode (bytes : List UInt8) : Except WireError LsaHeader :=
  if bytes.length < 20 then .error .Malformed
  else
    match LsaType.try_from (bytes.getD 3 0) with
    | .error error => .error error
    | .ok kind =>
      let header : LsaHeader :=
        { age := u16_at bytes 0,
          options := bytes.getD 2 0,
          key := ⟨kind,u32_at bytes 4,u32_at bytes 8⟩,
          sequence := (u32_at bytes 12).toInt32,
          checksum := u16_at bytes 16,
          length := u16_at bytes 18 }
      if LSA_MAX_AGE < header.age ∨ header.sequence = Int32.minValue ∨ header.length < 20 then .error .Malformed
      else .ok header

end LsaHeader

/-- The two running sums of the Fletcher checksum. -/
def fletcher (bytes : List UInt8) : Int × Int :=
  bytes.foldl (fun sums byte =>
    let c0 := (sums.1 + byte.toNat).tmod 255
    (c0,(sums.2 + c0).tmod 255)) (0,0)

/-- The check bytes of an advertisement whose checksum field is still zero. -/
def check_bytes (out : List UInt8) : UInt8 × UInt8 :=
  let sums := fletcher (out.drop 2)
  let remainder := (((out.length : Int) - 17) * sums.1 - sums.2).tmod 255
  let x := if remainder ≤ 0 then remainder + 255 else remainder
  let first := 510 - sums.1 - x
  let y := if first > 255 then first - 255 else first
  (UInt8.ofNat x.toNat,UInt8.ofNat y.toNat)

/-- `lsa_checksum::insert`. -/
def insert_checksum (out : List UInt8) : List UInt8 := (out.set 16 (check_bytes out).1).set 17 (check_bytes out).2

def valid_mask (mask : Ipv4Addr) : Bool := (Ipv4InterfaceConfig.from_mask 0 mask).isOk

/-- The bytes of one router link. -/
def RouterLink.encode (self : RouterLink) : List UInt8 :=
  be32 self.id ++ be32 self.data ++ [self.kind.byte,0] ++ be16 self.metric

/-- The standard body fields, within the limits of their encodings. -/
def LsaBody.encode : LsaBody → Except WireError (List UInt8)
  | .Router flags links =>
    if (65535 - 24) / 12 < links.length then .error .TooLarge
    else .ok ([flags,0] ++ be16 (UInt16.ofNat links.length) ++ links.flatMap RouterLink.encode)
  | .Network mask routers =>
    if ¬ valid_mask mask then .error .Malformed
    else if (65535 - 24) / 4 < routers.length then .error .TooLarge
    else .ok (be32 mask ++ routers.flatMap be32)
  | .AsbrSummary metric =>
    if 0x00ffffff < metric then .error .Malformed else .ok ([0,0,0,0] ++ be32 metric)
  | .Summary mask metric =>
    if ¬ valid_mask mask ∨ 0x00ffffff < metric then .error .Malformed else .ok (be32 mask ++ be32 metric)
  | .External mask metric type_two forwarding_address tag =>
    if ¬ valid_mask mask ∨ 0x00ffffff < metric then .error .Malformed
    else .ok (be32 mask ++ be32 (metric ||| if type_two then 0x80000000 else 0) ++ be32 forwarding_address ++ be32 tag)

namespace Lsa

/-- Encode the body and an age-independent Fletcher checksum. -/
def encode (self : Lsa) : Except WireError (List UInt8) :=
  if LSA_MAX_AGE < self.age ∨ self.sequence = Int32.minValue then .error .Malformed
  else
    match self.body.encode with
    | .error error => .error error
    | .ok body =>
      if 65535 < 20 + body.length then .error .TooLarge
      else
        let header : LsaHeader :=
          { age := self.age,
            options := self.options,
            key := self.key,
            sequence := self.sequence,
            checksum := 0,
            length := UInt16.ofNat (20 + body.length) }
        .ok (insert_checksum (header.encode ++ body))

/-- Header suitable for database summaries and explicit acknowledgments. -/
def header (self : Lsa) : Except WireError LsaHeader := self.encode.bind LsaHeader.decode

/-- The check bytes as the number that the header carries. -/
def checksum (self : Lsa) : UInt16 :=
  let body := self.body.encode.toOption.getD []
  let header : LsaHeader :=
    { age := 0,
      options := self.options,
      key := self.key,
      sequence := self.sequence,
      checksum := 0,
      length := UInt16.ofNat (20 + body.length) }
  from_be16 (check_bytes (header.encode ++ body)).1 (check_bytes (header.encode ++ body)).2

/-! ### What a header says of its advertisement -/

theorem try_from_byte (kind : LsaType) : LsaType.try_from kind.byte = .ok kind := by
  cases kind <;> rfl

theorem from_be16_bytes (x : UInt16) : from_be16 (UInt8.ofNat (x.toNat / 256)) x.toUInt8 = x :=
  u16_at_be16 x []

theorem from_be32_bytes (x : UInt32) :
    from_be32 (UInt8.ofNat (x.toNat / 16777216)) (UInt8.ofNat (x.toNat / 65536)) (UInt8.ofNat (x.toNat / 256))
      x.toUInt8 = x :=
  u32_at_be32 x []

/-- A header that is in range decodes to itself, whatever follows it. -/
theorem decode_encode {header : LsaHeader} (young : header.age ≤ LSA_MAX_AGE) (valid : header.sequence ≠ Int32.minValue)
    (long : 20 ≤ header.length) (body : List UInt8) : LsaHeader.decode (header.encode ++ body) = .ok header := by
  obtain ⟨age,options,⟨kind,id,router⟩,sequence,checksum,length⟩ := header
  have young : ¬ LSA_MAX_AGE < age := not_lt.mpr young
  have valid : sequence ≠ Int32.minValue := valid
  have long : ¬ length < 20 := not_lt.mpr long
  have whole : ¬ body.length + 1 + 1 + 1 + 1 + 1 + 1 + 1 + 1 + 1 + 1 + 1 + 1 + 1 + 1 + 1 + 1 + 1 + 1 + 1 + 1 < 20 := by omega
  simp [LsaHeader.encode,LsaHeader.decode,be16,be32,u16_at,u32_at,try_from_byte,from_be16_bytes,from_be32_bytes,young,long,
    valid,whole]

/-- Putting the check bytes in sets the checksum of the header. -/
theorem insert_checksum_encode (header : LsaHeader) (body : List UInt8) :
    insert_checksum (header.encode ++ body) =
      { header with
        checksum := from_be16 (check_bytes (header.encode ++ body)).1 (check_bytes (header.encode ++ body)).2 }.encode ++
        body := by
  generalize check : check_bytes (header.encode ++ body) = bytes
  rw [insert_checksum,check]
  simp only [LsaHeader.encode,be16_from_be16]
  simp [be16,be32]

end Lsa
end Rios.Ospf
