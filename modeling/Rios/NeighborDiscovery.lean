import Rios.OspfV3NormalForm
import Rios.Packets

/-!
# ICMPv6 and Neighbor Discovery on the wire

Echo messages, errors and the four messages of Neighbor Discovery, whose options
fill the rest of the message in units of eight octets. The encoder and the decoder
have separate limits; what one accepts, the other accepts.
-/

namespace Rios.Ipv6
open Rios.Device Rios.Wire Rios.Transport

inductive Icmpv6Error where
  | Malformed
  | Checksum
  | Unsupported
  | TooLarge
deriving DecidableEq

/-- Router-advertised prefix with independent on-link and autonomous flags. -/
structure PrefixInformation where
  network : Ipv6Network
  on_link : Bool
  autonomous : Bool
  valid_lifetime : UInt32
  preferred_lifetime : UInt32
deriving DecidableEq

/-- Standard neighbor options; unknown options are preserved. -/
inductive NdOption where
  | SourceLinkLayer (mac : MacAddress)
  | TargetLinkLayer (mac : MacAddress)
  | Prefix (info : PrefixInformation)
  | Mtu (mtu : UInt32)
  | Unknown (kind : UInt8) (data : List UInt8)
deriving DecidableEq

/-- Neighbor Discovery wire messages. -/
inductive NdMessage where
  | RouterSolicitation (options : List NdOption)
  | RouterAdvertisement (hop_limit : UInt8) (managed other : Bool) (router_lifetime : UInt16)
    (reachable_time retrans_timer : UInt32) (options : List NdOption)
  | NeighborSolicitation (target : Ipv6Addr) (options : List NdOption)
  | NeighborAdvertisement (target : Ipv6Addr) (router solicited override_flag : Bool) (options : List NdOption)
deriving DecidableEq

/-- Error message types. -/
inductive Icmpv6ErrorKind where
  | DestinationUnreachable
  | PacketTooBig
  | TimeExceeded
  | ParameterProblem
deriving DecidableEq

/-- `kind as u8`. -/
def Icmpv6ErrorKind.byte : Icmpv6ErrorKind → UInt8
  | .DestinationUnreachable => 1
  | .PacketTooBig => 2
  | .TimeExceeded => 3
  | .ParameterProblem => 4

/-- Supported ICMPv6 messages, including Neighbor Discovery. -/
inductive Icmpv6Message where
  | Echo (reply : Bool) (identifier sequence : UInt16) (payload : List UInt8)
  | Error (kind : Icmpv6ErrorKind) (code : UInt8) (parameter : UInt32) (quoted : List UInt8)
  | Neighbor (message : NdMessage)
deriving DecidableEq

/-- A flag at a bit of a byte. -/
def flag (set : Bool) (bit : UInt8) : UInt8 := if set then bit else 0

/-! ### Options -/

namespace NdOption

/-- The bytes of an option. -/
def bytes : NdOption → List UInt8
  | SourceLinkLayer mac => [1,1] ++ mac.octets.toList
  | TargetLinkLayer mac => [2,1] ++ mac.octets.toList
  | Prefix info => [3,4,info.network.prefix_len,flag info.on_link 0x80 ||| flag info.autonomous 0x40] ++
    (be32 info.valid_lifetime ++ (be32 info.preferred_lifetime ++ ([0,0,0,0] ++ octets info.network.address)))
  | Mtu mtu => [5,1,0,0] ++ be32 mtu
  | Unknown kind data => [kind,UInt8.ofNat ((data.length + 2) / 8)] ++ data

/-- The checks of the encoder. -/
def encodable : NdOption → Bool
  | Prefix info => info.preferred_lifetime ≤ info.valid_lifetime
  | Unknown kind data => kind ≠ 1 && kind ≠ 2 && kind ≠ 3 && kind ≠ 5 && (data.length + 2) % 8 = 0 && data.length ≤ 2038
  | _ => true

def encode (self : NdOption) : Except Icmpv6Error (List UInt8) := if self.encodable then .ok self.bytes else .error .Malformed

/-- One option from the front, and how many bytes it took. -/
def read (bytes : List UInt8) : Except Icmpv6Error (NdOption × Nat) :=
  if bytes.length < 2 || bytes.getD 1 0 = 0 then .error .Malformed
  else
    let length := (bytes.getD 1 0).toNat * 8
    match slice? bytes 2 (length - 2) with
    | none => .error .Malformed
    | some data =>
      let kind := bytes.getD 0 0
      if kind = 1 && length = 8 then .ok (SourceLinkLayer (mac_at data 0),length)
      else if kind = 2 && length = 8 then .ok (TargetLinkLayer (mac_at data 0),length)
      else if kind = 3 && length = 32 then
        if u32_at data 2 < u32_at data 6 then .error .Malformed
        else
          match Ipv6Network.new (of_octets ((data.drop 14).take 16)) (data.getD 0 0) with
          | none => .error .Malformed
          | some network =>
            .ok (Prefix ⟨network,data.getD 1 0 &&& 0x80 ≠ 0,data.getD 1 0 &&& 0x40 ≠ 0,u32_at data 2,u32_at data 6⟩,length)
      else if kind = 5 && length = 8 then .ok (Mtu (u32_at data 2),length)
      else if kind = 1 || kind = 2 || kind = 3 || kind = 5 then .error .Malformed
      else .ok (Unknown kind data,length)

/-- One round of the loop of `decode_all`. -/
def round (collected : List NdOption) (bytes : List UInt8) : Except Icmpv6Error (List NdOption × Nat) :=
  if 128 ≤ collected.length then .error .Malformed
  else
    match read bytes with
    | .error error => .error error
    | .ok (option,length) => .ok (collected ++ [option],length - 1)

def decode_all (bytes : List UInt8) : Except Icmpv6Error (List NdOption) := while_nonempty round [] bytes

end NdOption

/-! ### Messages -/

namespace NdMessage

def options : NdMessage → List NdOption
  | RouterSolicitation options => options
  | RouterAdvertisement _ _ _ _ _ _ options => options
  | NeighborSolicitation _ options => options
  | NeighborAdvertisement _ _ _ _ options => options

/-- The fixed part, with a checksum. -/
def head (sum : UInt16) : NdMessage → List UInt8
  | RouterSolicitation _ => [133,0] ++ (be16 sum ++ [0,0,0,0])
  | RouterAdvertisement hop_limit managed other router_lifetime reachable_time retrans_timer _ =>
    [134,0] ++ (be16 sum ++ ([hop_limit,flag managed 0x80 ||| flag other 0x40] ++ (be16 router_lifetime ++
      (be32 reachable_time ++ be32 retrans_timer))))
  | NeighborSolicitation target _ => [135,0] ++ (be16 sum ++ ([0,0,0,0] ++ octets target))
  | NeighborAdvertisement target router solicited override_flag _ =>
    [136,0] ++ (be16 sum ++ ([flag router 0x80 ||| flag solicited 0x40 ||| flag override_flag 0x20,0,0,0] ++ octets target))

def encode (self : NdMessage) : Except Icmpv6Error (List UInt8) :=
  if 128 < self.options.length then .error .TooLarge
  else
    match self.options.mapM NdOption.encode with
    | .error error => .error error
    | .ok areas =>
      let out := self.head 0 ++ areas.flatten
      if 65535 < out.length then .error .TooLarge else .ok out

/-- Where the options begin. -/
def options_at (kind : UInt8) : Option Nat :=
  if kind = 133 then some 8 else if kind = 134 then some 16 else if kind = 135 || kind = 136 then some 24 else none

/-- A message of a kind, from its fixed part and its options. -/
def build (bytes : List UInt8) (options : List NdOption) : NdMessage :=
  let target := of_octets ((bytes.drop 8).take 16)
  if bytes.getD 0 0 = 133 then RouterSolicitation options
  else if bytes.getD 0 0 = 134 then RouterAdvertisement (bytes.getD 4 0) (bytes.getD 5 0 &&& 0x80 ≠ 0)
    (bytes.getD 5 0 &&& 0x40 ≠ 0)
    (u16_at bytes 6) (u32_at bytes 8) (u32_at bytes 12) options
  else if bytes.getD 0 0 = 135 then NeighborSolicitation target options
  else NeighborAdvertisement target (bytes.getD 4 0 &&& 0x80 ≠ 0) (bytes.getD 4 0 &&& 0x40 ≠ 0)
    (bytes.getD 4 0 &&& 0x20 ≠ 0) options

def decode (bytes : List UInt8) : Except Icmpv6Error NdMessage :=
  if bytes.length < 8 then .error .Malformed
  else
    match options_at (bytes.getD 0 0) with
    | none => .error .Unsupported
    | some options_at =>
      if bytes.length < options_at then .error .Malformed
      else
        match NdOption.decode_all (bytes.drop options_at) with
        | .error error => .error error
        | .ok options => .ok (build bytes options)

end NdMessage

namespace Icmpv6Message

/-- The bytes of a message before its checksum is written. -/
def body : Icmpv6Message → Except Icmpv6Error (List UInt8)
  | Echo reply identifier sequence payload =>
    if 65527 < payload.length then .error .TooLarge
    else .ok ([if reply then 129 else 128,0,0,0] ++ (be16 identifier ++ (be16 sequence ++ payload)))
  | Error kind code parameter quoted =>
    if 65527 < quoted.length then .error .TooLarge
    else .ok ([kind.byte,code,0,0] ++ (be32 parameter ++ quoted))
  | Neighbor message => message.encode

/-- Encode a checksum bound to the source and destination of the enclosing IPv6 packet. -/
def encode (self : Icmpv6Message) (source destination : Ipv6Addr) : Except Icmpv6Error (List UInt8) :=
  match self.body with
  | .error error => .error error
  | .ok out => .ok (out.take 2 ++ (be16 (ipv6_checksum source destination .Icmpv6 out) ++ out.drop 4))

/-- The kind of an error message. -/
def error_kind (byte : UInt8) : Option Icmpv6ErrorKind :=
  if byte = 1 then some .DestinationUnreachable else if byte = 2 then some .PacketTooBig
  else if byte = 3 then some .TimeExceeded else if byte = 4 then some .ParameterProblem else none

def decode (source destination : Ipv6Addr) (bytes : List UInt8) : Except Icmpv6Error Icmpv6Message :=
  if bytes.length < 8 || 65535 < bytes.length then .error .Malformed
  else if ipv6_checksum source destination .Icmpv6 bytes ≠ 0 then .error .Checksum
  else
    let kind := bytes.getD 0 0
    if (kind = 128 || kind = 129) && bytes.getD 1 0 = 0 then
      .ok (Echo (kind = 129) (u16_at bytes 4) (u16_at bytes 6) (bytes.drop 8))
    else
      match error_kind kind with
      | some error => .ok (Error error (bytes.getD 1 0) (u32_at bytes 4) (bytes.drop 8))
      | none =>
        if 133 ≤ kind && kind ≤ 136 && bytes.getD 1 0 = 0 then (NdMessage.decode bytes).map Neighbor
        else .error .Unsupported

end Icmpv6Message

/-! ### Reading options -/

theorem flags_two (first second : Bool) : ((flag first 0x80 ||| flag second 0x40) &&& 0x80 ≠ 0 ↔ first = true) ∧
    ((flag first 0x80 ||| flag second 0x40) &&& 0x40 ≠ 0 ↔ second = true) := by
  cases first <;> cases second <;> decide

theorem flags_three (first second third : Bool) :
    ((flag first 0x80 ||| flag second 0x40 ||| flag third 0x20) &&& 0x80 ≠ 0 ↔ first = true) ∧
      ((flag first 0x80 ||| flag second 0x40 ||| flag third 0x20) &&& 0x40 ≠ 0 ↔ second = true) ∧
      ((flag first 0x80 ||| flag second 0x40 ||| flag third 0x20) &&& 0x20 ≠ 0 ↔ third = true) := by
  cases first <;> cases second <;> cases third <;> decide

namespace NdOption

variable {self : NdOption} {bytes : List UInt8} {length : Nat}

/-- An option is as long as its second octet says. -/
theorem bytes_length (valid : self.encodable = true) :
    self.bytes.length = (self.bytes.getD 1 0).toNat * 8 ∧ 8 ≤ self.bytes.length ∧ self.bytes.getD 1 0 ≠ 0 := by
  cases self with
  | SourceLinkLayer mac => simp [NdOption.bytes]
  | TargetLinkLayer mac => simp [NdOption.bytes]
  | Prefix info => simp [NdOption.bytes]
  | Mtu mtu => exact ⟨rfl,le_of_eq rfl,show (1 : UInt8) ≠ 0 by decide⟩
  | Unknown kind data =>
    simp only [encodable,Bool.and_eq_true,decide_eq_true_eq] at valid
    obtain ⟨⟨-,whole⟩,short⟩ := valid
    have counted : (UInt8.ofNat ((data.length + 2) / 8)).toNat = (data.length + 2) / 8 := UInt8.toNat_ofNat_of_lt' (by
      simp only [UInt8.size]
      omega)
    simp only [NdOption.bytes,List.cons_append,List.nil_append,List.getD_cons_zero,List.getD_cons_succ,counted,List.length_cons]
    refine ⟨by omega,by omega,?_⟩
    intro zero
    rw [zero] at counted
    simp only [UInt8.toNat_zero] at counted
    omega

/-- The octets of an option behind its first two. -/
theorem slice_bytes (valid : self.encodable = true) (rest : List UInt8) :
    slice? (self.bytes ++ rest) 2 (self.bytes.length - 2) = some (self.bytes.drop 2) := by
  obtain ⟨-,long,-⟩ := bytes_length valid
  rw [slice?,if_pos (by rw [List.length_append]; omega),List.drop_append_of_le_length (by omega),
    List.take_left' (by rw [List.length_drop])]

theorem getD_bytes (valid : self.encodable = true) (rest : List UInt8) :
    (self.bytes ++ rest).getD 0 0 = self.bytes.getD 0 0 ∧ (self.bytes ++ rest).getD 1 0 = self.bytes.getD 1 0 := by
  obtain ⟨-,long,-⟩ := bytes_length valid
  constructor
  · rw [List.getD_append _ _ _ _ (by omega)]
  · rw [List.getD_append _ _ _ _ (by omega)]

/-- What was written is read again, with any bytes behind it. -/
theorem read_bytes (valid : self.encodable = true) (rest : List UInt8) :
    read (self.bytes ++ rest) = .ok (self,self.bytes.length) := by
  obtain ⟨counted,long,positive⟩ := bytes_length valid
  obtain ⟨kind,length⟩ := getD_bytes valid rest
  have sliced := slice_bytes valid rest
  have present : ¬((self.bytes ++ rest).length < 2 || self.bytes.getD 1 0 = 0) = true := by
    rw [List.length_append,Bool.or_eq_true,decide_eq_true_eq,decide_eq_true_eq,not_or]
    exact ⟨by omega,positive⟩
  unfold read
  rw [kind,length,if_neg present,← counted]
  dsimp only
  rw [sliced]
  dsimp only
  cases self with
  | SourceLinkLayer mac => simp [NdOption.bytes,mac_at_toList]
  | TargetLinkLayer mac => simp [NdOption.bytes,mac_at_toList]
  | Prefix info =>
    obtain ⟨network,on_link,autonomous,valid_lifetime,preferred_lifetime⟩ := info
    have ordered : preferred_lifetime ≤ valid_lifetime := by simpa [encodable] using valid
    obtain ⟨link,auto⟩ := flags_two on_link autonomous
    generalize written : (Prefix ⟨network,on_link,autonomous,valid_lifetime,preferred_lifetime⟩).bytes = area
    have whole : area.length = 32 ∧ area.getD 0 0 = 3 := by
      rw [← written]
      exact ⟨rfl,rfl⟩
    have fields : u32_at (area.drop 2) 2 = valid_lifetime ∧ u32_at (area.drop 2) 6 = preferred_lifetime ∧
        (area.drop 2).getD 0 0 = network.prefix_len ∧ (area.drop 2).getD 1 0 = flag on_link 0x80 ||| flag autonomous 0x40 := by
      rw [← written]
      simp only [NdOption.bytes,be32,List.cons_append,List.nil_append,List.drop_succ_cons,List.drop_zero,u32_at,List.getD_cons_zero,
        List.getD_cons_succ,from_be32_be32,and_self]
    have address : ((area.drop 2).drop 14).take 16 = octets network.address := by
      rw [← written]
      exact List.take_of_length_le (le_of_eq (octets_length network.address))
    rw [whole.1,whole.2,fields.1,fields.2.1,fields.2.2.1,fields.2.2.2,address,of_octets_octets,network_new_self,
      if_neg (by decide),if_neg (by decide),if_pos (by decide),if_neg (not_lt.mpr ordered)]
    simp only [link,auto,Bool.decide_eq_true]
  | Mtu mtu =>
    have read : u32_at ((Mtu mtu).bytes.drop 2) 2 = mtu := by
      simp only [NdOption.bytes,be32,List.cons_append,List.nil_append,List.drop_succ_cons,List.drop_zero,u32_at,List.getD_cons_zero,
        List.getD_cons_succ,from_be32_be32]
    rw [read]
    rfl
  | Unknown kind data =>
    simp only [encodable,Bool.and_eq_true,decide_eq_true_eq] at valid
    obtain ⟨⟨⟨⟨⟨source,target⟩,prefix_kind⟩,mtu⟩,-⟩,-⟩ := valid
    simp [NdOption.bytes,source,target,prefix_kind,mtu]

/-- Written options are read again while there are at most 128. -/
theorem rounds_written (items collected : List NdOption) (few : collected.length + items.length ≤ 128)
    (valid : ∀ option ∈ items, option.encodable = true) :
    while_nonempty round collected (items.flatMap NdOption.bytes) = .ok (collected ++ items) := by
  induction items generalizing collected with
  | nil => simp
  | cons option items ih =>
    have first := valid option List.mem_cons_self
    have long := (bytes_length first).2.1
    rw [List.length_cons] at few
    have reads : round collected (option.bytes ++ items.flatMap NdOption.bytes) =
        .ok (collected ++ [option],option.bytes.length - 1) := by
      rw [round,if_neg (by omega),read_bytes first]
    rw [List.flatMap_cons,while_nonempty_append reads (by omega),ih (collected ++ [option])
      (by rw [List.length_append,List.length_singleton]; omega) (fun other member => valid other (List.mem_cons_of_mem _ member)),
      List.append_assoc,List.singleton_append]

/-- An option that was read is within the bytes, and it is written in as many; an unknown one in the same. -/
theorem read_ok (result : read bytes = .ok (self,length)) : self.encodable = true ∧ self.bytes.length = length ∧ 8 ≤ length ∧
    length ≤ bytes.length ∧ ∀ kind data, self = Unknown kind data → bytes.take length = self.bytes := by
  unfold read at result
  by_cases short : (bytes.length < 2 || bytes.getD 1 0 = 0) = true
  · rw [if_pos short] at result
    cases result
  rw [if_neg short] at result
  rw [Bool.or_eq_true,decide_eq_true_eq,decide_eq_true_eq,not_or,not_lt] at short
  obtain ⟨two,positive⟩ := short
  have units : 0 < (bytes.getD 1 0).toNat := Nat.pos_of_ne_zero (fun zero => positive (UInt8.toNat.inj zero))
  have small := (bytes.getD 1 0).toNat_lt
  dsimp only at result
  generalize size : (bytes.getD 1 0).toNat * 8 = total at result
  cases sliced : slice? bytes 2 (total - 2) with
  | none =>
    rw [sliced] at result
    cases result
  | some data =>
    rw [sliced] at result
    dsimp only at result
    obtain ⟨inside,taken,counted⟩ := slice?_eq_some sliced
    have bounds : 8 ≤ total ∧ total ≤ bytes.length := by omega
    split_ifs at result with source target info ordered mtu known
    · cases result
      rw [Bool.and_eq_true,decide_eq_true_eq,decide_eq_true_eq] at source
      exact ⟨rfl,by rw [source.2]; simp [NdOption.bytes],bounds.1,bounds.2,nofun⟩
    · cases result
      rw [Bool.and_eq_true,decide_eq_true_eq,decide_eq_true_eq] at target
      exact ⟨rfl,by rw [target.2]; simp [NdOption.bytes],bounds.1,bounds.2,nofun⟩
    · rw [Bool.and_eq_true,decide_eq_true_eq,decide_eq_true_eq] at info
      cases named : Ipv6Network.new (of_octets ((data.drop 14).take 16)) (data.getD 0 0) with
      | none =>
        rw [named] at result
        cases result
      | some network =>
        rw [named] at result
        cases result
        exact ⟨by simpa [encodable] using ordered,by rw [info.2]; rfl,bounds.1,bounds.2,nofun⟩
    · cases result
      rw [Bool.and_eq_true,decide_eq_true_eq,decide_eq_true_eq] at mtu
      exact ⟨rfl,by rw [mtu.2]; rfl,bounds.1,bounds.2,nofun⟩
    · cases result
      simp only [Bool.or_eq_true,decide_eq_true_eq,not_or] at known
      obtain ⟨⟨⟨not_source,not_target⟩,notPrefix⟩,not_mtu⟩ := known
      have unit : (data.length + 2) / 8 = (bytes.getD 1 0).toNat := by omega
      refine ⟨?_,?_,bounds.1,bounds.2,?_⟩
      · simp only [encodable,Bool.and_eq_true,decide_eq_true_eq]
        exact ⟨⟨⟨⟨⟨not_source,not_target⟩,notPrefix⟩,not_mtu⟩,by omega⟩,by omega⟩
      · simp only [NdOption.bytes,List.length_append,List.length_cons,List.length_nil]
        omega
      · intro _ _ _
        -- the first two octets are the kind and the length
        obtain ⟨first,second,rest,rfl⟩ : ∃ first second rest, bytes = first :: second :: rest := by
          match bytes, two with
          | first :: second :: rest, _ => exact ⟨first,second,rest,rfl⟩
        have whole : length = (length - 2) + 1 + 1 := by omega
        rw [NdOption.bytes,unit,taken,whole,List.take_succ_cons,List.take_succ_cons]
        simp

/-- A reading of an area option by option, to its end. -/
inductive Parsed : List UInt8 → List NdOption → Prop where
  | done : Parsed [] []
  | step {area : List UInt8} {options : List NdOption} (option : NdOption) (length : Nat) (inside : length ≤ area.length)
    (whole : option.bytes.length = length) (result : read area = .ok (option,length))
    (unknown : ∀ kind data, option = Unknown kind data → area.take length = option.bytes)
    (rest : Parsed (area.drop length) options) : Parsed area (option :: options)

theorem Parsed.sizes {bytes : List UInt8} {options : List NdOption} (parsed : Parsed bytes options) :
    (∀ option ∈ options, option.encodable = true) ∧ (options.flatMap NdOption.bytes).length = bytes.length := by
  induction parsed with
  | done => exact ⟨by simp,rfl⟩
  | step option length inside whole result _ _ ih =>
    refine ⟨?_,?_⟩
    · intro other member
      rcases List.mem_cons.mp member with rfl | later
      · exact (read_ok result).1
      · exact ih.1 other later
    · rw [List.flatMap_cons,List.length_append,whole,ih.2,List.length_drop]
      omega

/-- The loop reads to the end of the area, and no more than 128 options. -/
theorem rounds_parsed {collected final : List NdOption} (few : collected.length ≤ 128)
    (result : while_nonempty round collected bytes = .ok final) :
    ∃ options, final = collected ++ options ∧ final.length ≤ 128 ∧ Parsed bytes options := by
  induction measured : bytes.length using Nat.strong_induction_on generalizing bytes collected with
  | _ size ih =>
    subst measured
    cases bytes with
    | nil =>
      cases result
      exact ⟨[],(List.append_nil _).symm,few,.done⟩
    | cons head tail =>
      rw [while_nonempty_cons,round] at result
      by_cases full : 128 ≤ collected.length
      · rw [if_pos full] at result
        cases result
      rw [if_neg full] at result
      cases first : read (head :: tail) with
      | error error =>
        rw [first] at result
        cases result
      | ok pair =>
        obtain ⟨option,length⟩ := pair
        rw [first] at result
        dsimp only at result
        obtain ⟨-,whole,long,inside,unknown⟩ := read_ok first
        have behind : tail.drop (length - 1) = (head :: tail).drop length := by
          obtain ⟨shorter,rfl⟩ : ∃ shorter, length = shorter + 1 := ⟨length - 1,by omega⟩
          rfl
        rw [behind] at result
        have less : ((head :: tail).drop length).length < (head :: tail).length := by
          rw [List.length_drop]
          omega
        obtain ⟨options,joined,bounded,rest⟩ := ih _ less
          (by rw [List.length_append,List.length_singleton]; omega) result rfl
        refine ⟨option :: options,?_,bounded,.step option length inside whole first unknown rest⟩
        rw [joined,List.append_assoc,List.singleton_append]

theorem decode_all_parsed {options : List NdOption} (result : decode_all bytes = .ok options) :
    options.length ≤ 128 ∧ Parsed bytes options := by
  obtain ⟨found,rfl,few,parsed⟩ := rounds_parsed (List.length_nil.trans_le (Nat.zero_le 128)) result
  exact ⟨few,parsed⟩

end NdOption

/-! ### Reading messages -/

theorem mapM_encode {options : List NdOption} {areas : List (List UInt8)} :
    options.mapM NdOption.encode = .ok areas ↔ (∀ option ∈ options, option.encodable = true) ∧
        areas = options.map NdOption.bytes := by
  induction options generalizing areas with
  | nil =>
    rw [List.mapM_nil]
    constructor
    · intro same
      cases same
      exact ⟨by simp,rfl⟩
    · rintro ⟨-,rfl⟩
      rfl
  | cons option options ih =>
    rw [List.mapM_cons,NdOption.encode]
    by_cases valid : option.encodable = true
    · rw [if_pos valid]
      cases others : options.mapM NdOption.encode with
      | error error =>
        constructor
        · intro impossible
          cases impossible
        · rintro ⟨all,-⟩
          rw [ih.mpr ⟨fun other member => all other (List.mem_cons_of_mem _ member),rfl⟩] at others
          cases others
      | ok rest =>
        obtain ⟨every,rfl⟩ := ih.mp others
        constructor
        · intro same
          cases same
          refine ⟨?_,rfl⟩
          intro other member
          rcases List.mem_cons.mp member with rfl | later
          · exact valid
          · exact every other later
        · rintro ⟨-,rfl⟩
          rfl
    · rw [if_neg valid]
      constructor
      · intro impossible
        cases impossible
      · rintro ⟨all,-⟩
        exact absurd (all option List.mem_cons_self) valid

namespace NdMessage

variable {self : NdMessage} {out : List UInt8}

theorem encode_eq_ok_iff : self.encode = .ok out ↔ self.options.length ≤ 128 ∧
    (∀ option ∈ self.options, option.encodable = true) ∧ out = self.head 0 ++ self.options.flatMap NdOption.bytes ∧
      out.length ≤ 65535 := by
  unfold encode
  by_cases many : 128 < self.options.length
  · rw [if_pos many]
    constructor
    · intro impossible
      cases impossible
    · rintro ⟨few,-⟩
      omega
  rw [if_neg many]
  cases areas : self.options.mapM NdOption.encode with
  | error error =>
    constructor
    · intro impossible
      cases impossible
    · rintro ⟨-,valid,-⟩
      rw [mapM_encode.mpr ⟨valid,rfl⟩] at areas
      cases areas
  | ok written =>
    obtain ⟨valid,rfl⟩ := mapM_encode.mp areas
    dsimp only
    rw [← List.flatMap_def]
    by_cases long : 65535 < (self.head 0 ++ self.options.flatMap NdOption.bytes).length
    · rw [if_pos long]
      constructor
      · intro impossible
        cases impossible
      · rintro ⟨-,-,rfl,short⟩
        omega
    · rw [if_neg long]
      constructor
      · intro same
        cases same
        exact ⟨not_lt.mp many,valid,rfl,not_lt.mp long⟩
      · rintro ⟨-,-,rfl,-⟩
        rfl

/-- The checksum stands in the third and fourth octet. -/
theorem head_sum (self : NdMessage) (sum : UInt16) (rest : List UInt8) :
    (self.head 0 ++ rest).take 2 ++ (be16 sum ++ (self.head 0 ++ rest).drop 4) = self.head sum ++ rest := by
  cases self <;> rfl

/-- The fixed part is as long as its kind says. -/
theorem head_length (self : NdMessage) (sum : UInt16) :
    options_at ((self.head sum).getD 0 0) = some (self.head sum).length ∧ 8 ≤ (self.head sum).length := by
  cases self with
  | RouterSolicitation options => exact ⟨rfl,Nat.le_of_ble_eq_true rfl⟩
  | RouterAdvertisement hop_limit managed other router_lifetime reachable_time retrans_timer options =>
    exact ⟨rfl,Nat.le_of_ble_eq_true rfl⟩
  | NeighborSolicitation target options => exact ⟨rfl,Nat.le_of_ble_eq_true rfl⟩
  | NeighborAdvertisement target router solicited override_flag options => exact ⟨rfl,Nat.le_of_ble_eq_true rfl⟩

/-- The fixed part and the options make the message again. -/
theorem build_head (self : NdMessage) (sum : UInt16) :
    build (self.head sum ++ self.options.flatMap NdOption.bytes) self.options = self := by
  generalize self.options.flatMap NdOption.bytes = rest
  cases self with
  | RouterSolicitation options => rfl
  | RouterAdvertisement hop_limit managed other router_lifetime reachable_time retrans_timer options =>
    obtain ⟨managed_flag,other_flag⟩ := flags_two managed other
    simp only [build,head,NdMessage.options,be16,be32,List.cons_append,List.nil_append,List.getD_cons_zero,List.getD_cons_succ,
      u16_at,u32_at,from_be16_be16,from_be32_be32,managed_flag,other_flag,Bool.decide_eq_true]
    rfl
  | NeighborSolicitation target options =>
    have address : of_octets ((((NeighborSolicitation target options).head sum ++ rest).drop 8).take 16) = target := by
      rw [List.drop_append_of_le_length (Nat.le_of_ble_eq_true rfl)]
      exact (congrArg of_octets (List.take_left' (octets_length target))).trans (of_octets_octets target)
    unfold build
    dsimp only
    rw [address]
    rfl
  | NeighborAdvertisement target router solicited override_flag options =>
    obtain ⟨router_set,solicited_set,override_set⟩ := flags_three router solicited override_flag
    have address : of_octets ((((NeighborAdvertisement target router solicited override_flag options).head sum ++ rest).drop 8).take 16) =
        target := by
      rw [List.drop_append_of_le_length (Nat.le_of_ble_eq_true rfl)]
      exact (congrArg of_octets (List.take_left' (octets_length target))).trans (of_octets_octets target)
    unfold build
    dsimp only
    rw [address]
    simp only [head,NdMessage.options,be16,List.cons_append,List.nil_append,List.getD_cons_zero,List.getD_cons_succ,
      router_set,solicited_set,override_set,Bool.decide_eq_true]
    rfl

/-- What was written is read again, with any checksum. -/
theorem decode_encode (written : self.encode = .ok out) (sum : UInt16) :
    decode (self.head sum ++ self.options.flatMap NdOption.bytes) = .ok self := by
  obtain ⟨few,valid,-,-⟩ := encode_eq_ok_iff.mp written
  obtain ⟨place,long⟩ := self.head_length sum
  have all : NdOption.decode_all (self.options.flatMap NdOption.bytes) = .ok self.options :=
    NdOption.rounds_written self.options [] (by rw [List.length_nil]; omega) valid
  have kind : (self.head sum ++ self.options.flatMap NdOption.bytes).getD 0 0 = (self.head sum).getD 0 0 :=
    List.getD_append _ _ _ _ (by omega)
  unfold decode
  rw [kind,place,if_neg (by rw [List.length_append]; omega)]
  dsimp only
  rw [if_neg (by rw [List.length_append]; omega),List.drop_left,all]
  exact congrArg Except.ok (self.build_head sum)

/-- A message that was built has the options it was built with, and a fixed part up to them. -/
theorem build_head_length (bytes : List UInt8) (options : List NdOption) {start : Nat}
    (place : options_at (bytes.getD 0 0) = some start) :
    (build bytes options).options = options ∧ ((build bytes options).head 0).length = start := by
  unfold options_at at place
  unfold build
  dsimp only
  split_ifs at place with first second others
  · cases place
    rw [if_pos first]
    exact ⟨rfl,rfl⟩
  · cases place
    rw [if_neg first,if_pos second]
    exact ⟨rfl,rfl⟩
  · cases place
    rw [if_neg first,if_neg second]
    by_cases third : bytes.getD 0 0 = 135
    · rw [if_pos third]
      exact ⟨rfl,rfl⟩
    · rw [if_neg third]
      exact ⟨rfl,rfl⟩

/-- What was read is written again, as long as before. -/
theorem encode_of_decode {bytes : List UInt8} (read : decode bytes = .ok self) (short : bytes.length ≤ 65535) :
    ∃ out, self.encode = .ok out ∧ out.length = bytes.length := by
  unfold decode at read
  by_cases few : bytes.length < 8
  · rw [if_pos few] at read
    cases read
  rw [if_neg few] at read
  cases place : options_at (bytes.getD 0 0) with
  | none =>
    rw [place] at read
    cases read
  | some start =>
    rw [place] at read
    dsimp only at read
    by_cases cut : bytes.length < start
    · rw [if_pos cut] at read
      cases read
    rw [if_neg cut] at read
    cases area : NdOption.decode_all (bytes.drop start) with
    | error error =>
      rw [area] at read
      cases read
    | ok options =>
      rw [area] at read
      cases read
      obtain ⟨bounded,parsed⟩ := NdOption.decode_all_parsed area
      obtain ⟨valid,sizes⟩ := parsed.sizes
      obtain ⟨same,fixed⟩ := build_head_length bytes options place
      have long : ((build bytes options).head 0 ++ (build bytes options).options.flatMap NdOption.bytes).length =
          bytes.length := by
        rw [List.length_append,same,fixed,sizes,List.length_drop]
        omega
      refine ⟨_,encode_eq_ok_iff.mpr ⟨?_,?_,rfl,?_⟩,long⟩
      · rw [same]
        exact bounded
      · rw [same]
        exact valid
      · rw [long]
        exact short

end NdMessage

/-! ### Reading and writing with the checksum -/

namespace Icmpv6Message

variable {self : Icmpv6Message} {source destination : Ipv6Addr} {bytes out : List UInt8}

theorem body_eq_ok (written : self.body = .ok out) :
    8 ≤ out.length ∧ out.length ≤ 65535 ∧ out.take 2 ++ ([0,0] ++ out.drop 4) = out := by
  cases self with
  | Echo reply identifier sequence payload =>
    rw [body] at written
    by_cases long : 65527 < payload.length
    · rw [if_pos long] at written
      cases written
    rw [if_neg long] at written
    cases written
    simp only [List.length_append,be16_length,List.length_cons,List.length_nil]
    exact ⟨by omega,by omega,rfl⟩
  | Error kind code parameter quoted =>
    rw [body] at written
    by_cases long : 65527 < quoted.length
    · rw [if_pos long] at written
      cases written
    rw [if_neg long] at written
    cases written
    simp only [List.length_append,be32_length,List.length_cons,List.length_nil]
    exact ⟨by omega,by omega,rfl⟩
  | Neighbor message =>
    obtain ⟨-,-,rfl,short⟩ := NdMessage.encode_eq_ok_iff.mp written
    have long := (message.head_length 0).2
    refine ⟨?_,short,message.head_sum 0 _⟩
    rw [List.length_append]
    omega

/-- A message as it is sent: the checksum in place of the zeros. -/
def sealed (source destination : Ipv6Addr) (out : List UInt8) : List UInt8 :=
  out.take 2 ++ (be16 (ipv6_checksum source destination .Icmpv6 out) ++ out.drop 4)

theorem encode_eq_ok_iff : self.encode source destination = .ok bytes ↔
    ∃ out, self.body = .ok out ∧ bytes = sealed source destination out := by
  rw [encode]
  cases written : self.body with
  | error error => simp
  | ok out =>
    simp only [Except.ok.injEq,exists_eq_left',sealed]
    exact eq_comm

theorem sealed_length (long : 8 ≤ out.length) : (sealed source destination out).length = out.length := by
  rw [sealed,List.length_append,List.length_append,be16_length,List.length_take,List.length_drop]
  omega

theorem sealed_checked (written : self.body = .ok out) :
    ipv6_checksum source destination .Icmpv6 (sealed source destination out) = 0 := by
  obtain ⟨long,short,split⟩ := body_eq_ok written
  have front : (out.take 2).length = 2 := by
    rw [List.length_take]
    omega
  have filled := ipv6_checksum_fills source destination .Icmpv6 (out.take 2) (out.drop 4)
    (by rw [front]) (by rw [front,List.length_drop]; omega)
  rw [split] at filled
  exact filled

theorem error_kind_byte (kind : Icmpv6ErrorKind) :
    error_kind kind.byte = some kind ∧ kind.byte ≠ 128 ∧ kind.byte ≠ 129 := by
  cases kind <;> decide

/-- What was written is read again. -/
theorem decode_encode (written : self.encode source destination = .ok bytes) :
    decode source destination bytes = .ok self := by
  obtain ⟨out,body,rfl⟩ := encode_eq_ok_iff.mp written
  obtain ⟨long,short,-⟩ := body_eq_ok body
  have inside : ¬ ((sealed source destination out).length < 8 || 65535 < (sealed source destination out).length) = true := by
    rw [sealed_length long,Bool.or_eq_true,decide_eq_true_eq,decide_eq_true_eq]
    omega
  unfold decode
  rw [if_neg inside,if_neg (not_not.mpr (sealed_checked body))]
  dsimp only
  clear inside written long short
  cases self with
  | Echo reply identifier sequence payload =>
    rw [Icmpv6Message.body] at body
    by_cases long : 65527 < payload.length
    · rw [if_pos long] at body
      cases body
    rw [if_neg long] at body
    cases body
    rw [sealed]
    generalize ipv6_checksum source destination .Icmpv6 _ = sum
    have fields := And.intro (from_be16_be16 identifier) (from_be16_be16 sequence)
    cases reply <;> simpa [be16,u16_at] using fields
  | Error kind code parameter quoted =>
    rw [Icmpv6Message.body] at body
    by_cases long : 65527 < quoted.length
    · rw [if_pos long] at body
      cases body
    rw [if_neg long] at body
    cases body
    obtain ⟨named,request,reply⟩ := error_kind_byte kind
    rw [sealed]
    generalize ipv6_checksum source destination .Icmpv6 _ = sum
    simpa [be16,be32,u32_at,named,request,reply] using from_be32_be32 parameter
  | Neighbor message =>
    obtain ⟨-,-,rfl,-⟩ := NdMessage.encode_eq_ok_iff.mp body
    rw [sealed,message.head_sum]
    have read := NdMessage.decode_encode body
      (ipv6_checksum source destination .Icmpv6 (message.head 0 ++ message.options.flatMap NdOption.bytes))
    rw [read]
    cases message <;> rfl

/-- What was read is written again. -/
theorem encode_of_decode (read : decode source destination bytes = .ok self) :
    ∃ out, self.encode source destination = .ok out := by
  have written : ∃ out, self.body = .ok out := by
    unfold decode at read
    by_cases outside : (bytes.length < 8 || 65535 < bytes.length) = true
    · rw [if_pos outside] at read
      cases read
    rw [if_neg outside] at read
    rw [Bool.or_eq_true,decide_eq_true_eq,decide_eq_true_eq,not_or,not_lt,not_lt] at outside
    obtain ⟨long,short⟩ := outside
    by_cases checked : ipv6_checksum source destination .Icmpv6 bytes ≠ 0
    · rw [if_pos checked] at read
      cases read
    rw [if_neg checked] at read
    dsimp only at read
    have fits : ¬ 65527 < (bytes.drop 8).length := by
      rw [List.length_drop]
      omega
    by_cases echo : ((bytes.getD 0 0 = 128 || bytes.getD 0 0 = 129) && bytes.getD 1 0 = 0) = true
    · rw [if_pos echo] at read
      cases read
      exact ⟨_,if_neg fits⟩
    rw [if_neg echo] at read
    cases named : error_kind (bytes.getD 0 0) with
    | some kind =>
      rw [named] at read
      cases read
      exact ⟨_,if_neg fits⟩
    | none =>
      rw [named] at read
      dsimp only at read
      by_cases neighbor : (133 ≤ bytes.getD 0 0 && bytes.getD 0 0 ≤ 136 && bytes.getD 1 0 = 0) = true
      · rw [if_pos neighbor] at read
        cases decoded : NdMessage.decode bytes with
        | error error =>
          rw [decoded] at read
          cases read
        | ok message =>
          rw [decoded] at read
          cases read
          obtain ⟨out,encoded,-⟩ := NdMessage.encode_of_decode decoded short
          exact ⟨out,encoded⟩
      · rw [if_neg neighbor] at read
        cases read
  obtain ⟨out,body⟩ := written
  exact ⟨_,encode_eq_ok_iff.mpr ⟨out,body,rfl⟩⟩

end Icmpv6Message

/-- The codecs of ICMPv6 and Neighbor Discovery: what is written is read again, what is read is written again and
read as the same message, and the options of a message that was read fill the rest of its bytes one after the other. -/
theorem icmpv6_exact :
    (∀ source destination (message : Icmpv6Message) bytes, message.encode source destination = .ok bytes →
      Icmpv6Message.decode source destination bytes = .ok message) ∧
    (∀ source destination (message : Icmpv6Message) bytes, Icmpv6Message.decode source destination bytes = .ok message →
      ∃ out, message.encode source destination = .ok out ∧ Icmpv6Message.decode source destination out = .ok message) ∧
    (∀ (message : NdMessage) bytes, message.encode = .ok bytes → NdMessage.decode bytes = .ok message) ∧
    (∀ (message : NdMessage) bytes, bytes.length ≤ 65535 → NdMessage.decode bytes = .ok message →
      ∃ out, message.encode = .ok out ∧ out.length = bytes.length ∧ NdMessage.decode out = .ok message) ∧
    (∀ area options, NdOption.decode_all area = .ok options → options.length ≤ 128 ∧ NdOption.Parsed area options ∧
      (options.flatMap NdOption.bytes).length = area.length) := by
  refine ⟨fun source destination message bytes written => Icmpv6Message.decode_encode written,?_,?_,?_,?_⟩
  · intro source destination message bytes read
    obtain ⟨out,written⟩ := Icmpv6Message.encode_of_decode read
    exact ⟨out,written,Icmpv6Message.decode_encode written⟩
  · intro message bytes written
    have read := NdMessage.decode_encode written 0
    obtain ⟨-,-,rfl,-⟩ := NdMessage.encode_eq_ok_iff.mp written
    exact read
  · intro message bytes short read
    obtain ⟨out,written,length⟩ := NdMessage.encode_of_decode read short
    have again := NdMessage.decode_encode written 0
    obtain ⟨-,-,rfl,-⟩ := NdMessage.encode_eq_ok_iff.mp written
    exact ⟨_,written,length,again⟩
  · intro area options read
    obtain ⟨few,parsed⟩ := NdOption.decode_all_parsed read
    exact ⟨few,parsed,parsed.sizes.2⟩

end Rios.Ipv6
