import Rios.OspfPacket

/-!
# Reading OSPFv2

The decoders of advertisements and of the five packet bodies: counts are checked
against the bytes there are before anything is read, and both checksums are
verified before the bodies are.
-/

namespace Rios.Ospf
open Rios.Device Rios.Wire

/-! ### Advertisements -/

/-- The link type of a byte. -/
def RouterLinkType.of_byte : UInt8 → Except WireError RouterLinkType
  | 1 => .ok .PointToPoint
  | 2 => .ok .Transit
  | 3 => .ok .Stub
  | 4 => .ok .Virtual
  | _ => .error .Unsupported

/-- One router link of twelve bytes. -/
def RouterLink.decode (chunk : List UInt8) : Except WireError RouterLink :=
  if chunk.getD 9 0 ≠ 0 then .error .Unsupported
  else
    match RouterLinkType.of_byte (chunk.getD 8 0) with
    | .error error => .error error
    | .ok kind => .ok ⟨u32_at chunk 0,u32_at chunk 4,kind,u16_at chunk 10⟩

/-- The body of a type, whose length its counts must explain. -/
def LsaBody.decode (kind : LsaType) (body : List UInt8) : Except WireError LsaBody :=
  match kind with
  | .Router =>
    if body.length < 4 then .error .Malformed
    else if body.length ≠ 4 + (u16_at body 2).toNat * 12 then .error .Malformed
    else
      match (groups 12 (body.drop 4)).mapM RouterLink.decode with
      | .error error => .error error
      | .ok links => .ok (.Router (body.getD 0 0) links)
  | .Network =>
    if body.length < 4 ∨ body.length % 4 ≠ 0 ∨ ¬ valid_mask (u32_at body 0) then .error .Malformed
    else .ok (.Network (u32_at body 0) (chunks32 (body.drop 4)))
  | kind =>
    if body.length ≠ (if kind ≠ .External then 8 else 16) ∨ ¬ valid_mask (u32_at body 0) then .error .Malformed
    else
      let metric := from_be32 0 (body.getD 5 0) (body.getD 6 0) (body.getD 7 0)
      if kind ≠ .External then
        if body.getD 4 0 ≠ 0 then .error .Unsupported
        else if kind = .AsbrSummary then .ok (.AsbrSummary metric)
        else .ok (.Summary (u32_at body 0) metric)
      else if body.getD 4 0 &&& 0x7f ≠ 0 then .error .Unsupported
      else .ok (.External (u32_at body 0) metric (body.getD 4 0 &&& 0x80 ≠ 0) (u32_at body 8) (u32_at body 12))

/-- Decode exactly one advertisement and validate both length and Fletcher residues. -/
def Lsa.decode (bytes : List UInt8) : Except WireError Lsa :=
  match LsaHeader.decode bytes with
  | .error error => .error error
  | .ok header =>
    if bytes.length ≠ header.length.toNat then .error .Malformed
    else if fletcher (bytes.drop 2) ≠ (0,0) then .error .Checksum
    else
      match LsaBody.decode header.key.kind (bytes.drop 20) with
      | .error error => .error error
      | .ok parsed =>
        .ok ⟨header.age,header.options,header.key.link_state_id,header.key.advertising_router,header.sequence,parsed⟩

/-! ### Packets -/

/-- The headers of a description or an acknowledgment. -/
def decode_headers {H : Type} (decode : List UInt8 → Except WireError H) (data : List UInt8) : Except WireError (List H) :=
  if data.length % 20 ≠ 0 then .error .Malformed else (groups 20 data).mapM decode

/-- The advertisements of an update: `count` of them from an offset on, and where they end.
    Each one starts with a header that says its length. -/
def decode_lsas {L : Type} (length : List UInt8 → Except WireError UInt16) (decode : List UInt8 → Except WireError L)
    (body : List UInt8) : Nat → Nat → Except WireError (List L × Nat)
  | 0,offset => .ok ([],offset)
  | count + 1,offset =>
    match length (body.drop offset) with
    | .error error => .error error
    | .ok long =>
      match slice? body offset long.toNat with
      | none => .error .Malformed
      | some bytes =>
        match decode bytes with
        | .error error => .error error
        | .ok lsa =>
          match decode_lsas length decode body count (offset + long.toNat) with
          | .error error => .error error
          | .ok (lsas,last) => .ok (lsa :: lsas,last)

/-- The length that the header at the front says. -/
def LsaHeader.length_of (bytes : List UInt8) : Except WireError UInt16 := (LsaHeader.decode bytes).map (·.length)

/-- One requested identity of twelve bytes. -/
def LsaKey.decode (chunk : List UInt8) : Except WireError LsaKey :=
  if chunk.take 3 ≠ [0,0,0] then .error .Unsupported
  else
    match LsaType.try_from (chunk.getD 3 0) with
    | .error error => .error error
    | .ok kind => .ok ⟨kind,u32_at chunk 4,u32_at chunk 8⟩

def OspfHello.decode (body : List UInt8) : Except WireError OspfHello :=
  if body.length < 20 ∨ (body.length - 20) % 4 ≠ 0 then .error .Malformed
  else .ok {
    mask := u32_at body 0
    hello_interval := u16_at body 4
    options := body.getD 6 0
    priority := body.getD 7 0
    dead_interval := u32_at body 8
    designated_router := u32_at body 12
    backup_router := u32_at body 16
    neighbors := chunks32 (body.drop 20) }

/-- The body of a packet of the given type. -/
def OspfBody.decode (kind : UInt8) (body : List UInt8) : Except WireError (OspfBody Lsa) :=
  match kind with
  | 1 => (OspfHello.decode body).map OspfBody.Hello
  | 2 =>
    if body.length < 8 ∨ body.getD 3 0 &&& ~~~7 ≠ 0 then .error .Malformed
    else
      match decode_headers LsaHeader.decode (body.drop 8) with
      | .error error => .error error
      | .ok headers =>
        .ok (.DatabaseDescription (u16_at body 0) (body.getD 2 0).toUInt32 (body.getD 3 0) (u32_at body 4) headers)
  | 3 =>
    if body.length % 12 ≠ 0 then .error .Malformed
    else
      match (groups 12 body).mapM LsaKey.decode with
      | .error error => .error error
      | .ok keys => .ok (.LinkStateRequest keys)
  | 4 =>
    if body.length < 4 then .error .Malformed
    else
      let count := (u32_at body 0).toNat
      if (body.length - 4) / 20 < count then .error .Malformed
      else
        match decode_lsas LsaHeader.length_of Lsa.decode body count 4 with
        | .error error => .error error
        | .ok (lsas,offset) => if offset ≠ body.length then .error .Malformed else .ok (.LinkStateUpdate lsas)
  | 5 =>
    match decode_headers LsaHeader.decode body with
    | .error error => .error error
    | .ok headers => .ok (.LinkStateAck headers)
  | _ => .error .Unsupported

/-- Decode a bounded packet, checking counts against the available bytes. -/
def OspfV2Packet.decode (bytes : List UInt8) : Except WireError OspfV2Packet :=
  if bytes.length < 24 ∨ bytes.getD 0 0 ≠ 2 ∨ (u16_at bytes 2).toNat ≠ bytes.length then .error .Malformed
  else if (bytes.drop 14).take 10 ≠ List.replicate 10 0 then .error .Unsupported
  else if Transport.checksum bytes ≠ 0 then .error .Checksum
  else
    match OspfBody.decode (bytes.getD 1 0) (bytes.drop 24) with
    | .error error => .error error
    | .ok parsed => .ok ⟨u32_at bytes 4,u32_at bytes 8,parsed⟩

end Rios.Ospf
