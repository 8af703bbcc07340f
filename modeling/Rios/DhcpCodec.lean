import Rios.Dhcp
import Rios.Packets

/-!
# DHCP messages on the wire

The BOOTP header and the options of a message. The decoder takes the last of
repeated options, skips padding and what it does not know, and reads back every
message that the encoder accepts; what it accepts can be encoded.
-/

namespace Rios.Dhcp
open Rios.Device Rios.Wire Rios.Transport

def MAGIC_COOKIE : List UInt8 := [99,130,83,99]

/-- Supported DHCPv4 message types. -/
inductive DhcpMessageType where
  | Discover
  | Offer
  | Request
  | Decline
  | Ack
  | Nak
deriving DecidableEq

/-- `self as u8`. -/
def DhcpMessageType.byte : DhcpMessageType → UInt8
  | .Discover => 1
  | .Offer => 2
  | .Request => 3
  | .Decline => 4
  | .Ack => 5
  | .Nak => 6

/-- The type of a value of option 53. -/
def DhcpMessageType.of_byte (kind : UInt8) : Option DhcpMessageType :=
  if kind = 1 then some .Discover else if kind = 2 then some .Offer else if kind = 3 then some .Request
  else if kind = 4 then some .Decline else if kind = 5 then some .Ack else if kind = 6 then some .Nak else none

/-- The BOOTP operation of a message type. -/
def DhcpMessageType.op : DhcpMessageType → UInt8
  | .Discover | .Request | .Decline => 1
  | .Offer | .Ack | .Nak => 2

theorem DhcpMessageType.of_byte_byte (kind : DhcpMessageType) : DhcpMessageType.of_byte kind.byte = some kind := by
  cases kind <;> rfl

/-- BOOTP/DHCP fields used by the simulator. -/
structure DhcpMessage where
  message_type : DhcpMessageType
  transaction_id : UInt32
  client_mac : MacAddress
  your_ip : Ipv4Addr
  client_ip : Ipv4Addr
  relay_ip : Ipv4Addr
  hops : UInt8
  dns_servers : List Ipv4Addr
  domain_name : Option String
  renewal_seconds : Option UInt32
  rebinding_seconds : Option UInt32
  requested_ip : Option Ipv4Addr
  server_id : Option Ipv4Addr
  subnet_mask : Option Ipv4Addr
  default_router : Option Ipv4Addr
  lease_time_seconds : Option UInt32
deriving DecidableEq

inductive DhcpPacketError where
  | Truncated
  | Unsupported
  | InvalidOption
deriving DecidableEq

/-- `str::is_ascii`. -/
def is_ascii (value : List UInt8) : Bool := value.all (· < 128)

/-- `String::from_utf8`. -/
def from_utf8 (value : List UInt8) : Option String := String.fromUTF8? ⟨value.toArray⟩

theorem from_utf8_bytes (text : String) : from_utf8 (bytes text) = some text := by
  have back : (⟨(bytes text).toArray⟩ : ByteArray) = text.toByteArray := by
    rw [bytes,String.toUTF8_eq_toByteArray]
  rw [from_utf8,back,String.fromUTF8?,dif_pos text.isValidUTF8]
  rfl

theorem bytes_from_utf8 {value : List UInt8} {text : String} (read : from_utf8 value = some text) : bytes text = value := by
  unfold from_utf8 String.fromUTF8? at read
  split_ifs at read
  cases read
  rfl

/-- One option: its code, the length of its value, the value. -/
def option (code : UInt8) (value : List UInt8) : List UInt8 := [code,UInt8.ofNat value.length] ++ value

namespace DhcpMessage

/-- The first 240 bytes. -/
def head (self : DhcpMessage) : List UInt8 :=
  [self.message_type.op,1,6,self.hops] ++ (be32 self.transaction_id ++ ([0,0] ++ (be16 (if self.client_ip = 0 then 0x8000 else 0) ++
    (be32 self.client_ip ++ (be32 self.your_ip ++ ([0,0,0,0] ++ (be32 self.relay_ip ++ (self.client_mac.octets.toList ++
      (List.replicate 202 0 ++ MAGIC_COOKIE)))))))))

/-- An option that is only written when there is a value. -/
def optional (code : UInt8) (value : Option UInt32) : List UInt8 := value.elim [] (fun value => option code (be32 value))

/-- The bytes of the options, in the order of the encoder. -/
def options (self : DhcpMessage) : List UInt8 :=
  option 53 [self.message_type.byte] ++ (optional 50 self.requested_ip ++ (optional 54 self.server_id ++
    (optional 1 self.subnet_mask ++ (optional 3 self.default_router ++ (optional 51 self.lease_time_seconds ++
      ((if self.dns_servers.isEmpty then [] else option 6 (self.dns_servers.flatMap be32)) ++
        (self.domain_name.elim [] (fun name => option 15 (bytes name)) ++
          (optional 58 self.renewal_seconds ++ (optional 59 self.rebinding_seconds ++ [255])))))))))

/-- Encode a DHCPv4 message using the standard BOOTP fixed header and options. -/
def encode (self : DhcpMessage) : Except DhcpPacketError (List UInt8) :=
  if 63 < self.dns_servers.length || self.domain_name.any (fun name =>
      (bytes name).isEmpty || 253 < (bytes name).length || !is_ascii (bytes name)) then .error .InvalidOption
  else .ok (self.head ++ self.options)

/-- The options of a message that is being decoded. -/
structure Options where
  message_type : Option DhcpMessageType
  requested_ip : Option Ipv4Addr
  server_id : Option Ipv4Addr
  subnet_mask : Option Ipv4Addr
  default_router : Option Ipv4Addr
  lease_time_seconds : Option UInt32
  dns_servers : List Ipv4Addr
  domain_name : Option String
  renewal_seconds : Option UInt32
  rebinding_seconds : Option UInt32
deriving DecidableEq

def Options.none : Options := ⟨.none,.none,.none,.none,.none,.none,[],.none,.none,.none⟩

/-- A value of four bytes. -/
def word : List UInt8 → Except DhcpPacketError UInt32
  | [a,b,c,d] => .ok (from_be32 a b c d)
  | _ => .error .InvalidOption

/-- `match (code, value)`. -/
def Options.assign (self : Options) (code : UInt8) (value : List UInt8) : Except DhcpPacketError Options :=
  if code = 53 then
    match value with
    | [kind] =>
      match DhcpMessageType.of_byte kind with
      | some kind => .ok { self with message_type := some kind }
      | .none => .error .Unsupported
    | _ => .error .InvalidOption
  else if code = 50 then (word value).map (fun ip => { self with requested_ip := some ip })
  else if code = 54 then (word value).map (fun ip => { self with server_id := some ip })
  else if code = 1 then (word value).map (fun ip => { self with subnet_mask := some ip })
  else if code = 3 then (word value).map (fun ip => { self with default_router := some ip })
  else if code = 51 then (word value).map (fun seconds => { self with lease_time_seconds := some seconds })
  else if code = 6 then
    if !value.isEmpty && value.length % 4 = 0 then .ok { self with dns_servers := chunks32 value } else .error .InvalidOption
  else if code = 15 then
    if !value.isEmpty && value.length ≤ 253 && is_ascii value then
      match from_utf8 value with
      | some name => .ok { self with domain_name := some name }
      | .none => .error .InvalidOption
    else .error .InvalidOption
  else if code = 58 then (word value).map (fun seconds => { self with renewal_seconds := some seconds })
  else if code = 59 then (word value).map (fun seconds => { self with rebinding_seconds := some seconds })
  else .ok self

/-- One round of the loop over the options; the flag is `ended`. -/
def option_round (state : Options × Bool) : List UInt8 → Except DhcpPacketError ((Options × Bool) × Nat)
  | [] => .ok (state,0)
  | code :: rest =>
    if code = 255 then .ok ((state.1,true),rest.length)
    else if code = 0 then .ok (state,0)
    else
      match rest with
      | [] => .error .InvalidOption
      | length :: rest =>
        if rest.length < length.toNat then .error .InvalidOption
        else
          match state.1.assign code (rest.take length.toNat) with
          | .error error => .error error
          | .ok options => .ok ((options,state.2),1 + length.toNat)

/-- Decode the supported BOOTP header and DHCP options. -/
def decode (bytes : List UInt8) : Except DhcpPacketError DhcpMessage :=
  if bytes.length < 241 then .error .Truncated
  else if (bytes.drop 1).take 2 ≠ [1,6] || (bytes.drop 236).take 4 ≠ MAGIC_COOKIE then .error .Unsupported
  else
    match while_nonempty option_round (Options.none,false) (bytes.drop 240) with
    | .error error => .error error
    | .ok (_,false) => .error .Truncated
    | .ok (options,true) =>
      match options.message_type with
      | .none => .error .Unsupported
      | some message_type =>
        if bytes.getD 0 0 ≠ message_type.op then .error .Unsupported
        else .ok {
          message_type
          transaction_id := u32_at bytes 4
          client_mac := mac_at bytes 28
          your_ip := u32_at bytes 16
          client_ip := u32_at bytes 12
          relay_ip := u32_at bytes 24
          hops := bytes.getD 3 0
          dns_servers := options.dns_servers
          domain_name := options.domain_name
          renewal_seconds := options.renewal_seconds
          rebinding_seconds := options.rebinding_seconds
          requested_ip := options.requested_ip
          server_id := options.server_id
          subnet_mask := options.subnet_mask
          default_router := options.default_router
          lease_time_seconds := options.lease_time_seconds }

/-! ### Reading what was written -/

variable {self : DhcpMessage} {state next : Options}

theorem head_length (self : DhcpMessage) : self.head.length = 240 := by
  simp only [head,List.length_append,List.length_cons,List.length_nil,be32_length,be16_length,octets_length,List.length_replicate,
    MAGIC_COOKIE]

theorem word_be32 (x : UInt32) : word (be32 x) = .ok x := by
  rw [be32,word,from_be32_be32]

/-- A written option is one round of the loop. -/
theorem option_reads {code : UInt8} {value : List UInt8} (counted : code ≠ 255) (real : code ≠ 0)
    (short : value.length ≤ 255) (assigned : state.assign code value = .ok next) (ended : Bool) (rest : List UInt8) :
    while_nonempty option_round (state,ended) (option code value ++ rest) = while_nonempty option_round (next,ended) rest := by
  have length : (UInt8.ofNat value.length).toNat = value.length := UInt8.toNat_ofNat_of_lt' (Nat.lt_succ_of_le short)
  have reads : option_round (state,ended) (option code value ++ rest) = .ok ((next,ended),1 + value.length) := by
    simp only [option,List.cons_append,List.nil_append,option_round]
    rw [if_neg counted,if_neg real,length,if_neg (by rw [List.length_append]; omega),List.take_left,assigned]
  refine while_nonempty_append reads ?_
  simp only [option,List.length_append,List.length_cons,List.length_nil]
  omega

/-- An option that may be absent: the options change to the next ones if it is there. -/
theorem optional_reads (state next : Options) {code : UInt8} {value : Option UInt32} (counted : code ≠ 255) (real : code ≠ 0)
    (absent : value = none → state = next) (assigned : ∀ x, value = some x → state.assign code (be32 x) = .ok next)
    (ended : Bool) (rest : List UInt8) :
    while_nonempty option_round (state,ended) (optional code value ++ rest) = while_nonempty option_round (next,ended) rest := by
  cases value with
  | none => rw [absent rfl]; rfl
  | some x => exact option_reads counted real (by simp) (assigned x rfl) ended rest

/-- The options of a message. -/
def written (self : DhcpMessage) : Options :=
  ⟨some self.message_type,self.requested_ip,self.server_id,self.subnet_mask,self.default_router,self.lease_time_seconds,
    self.dns_servers,self.domain_name,self.renewal_seconds,self.rebinding_seconds⟩

/-- The servers and the name of a message keep the limits of the encoder. -/
def Encodable (dns_servers : List Ipv4Addr) (domain_name : Option String) : Prop :=
  dns_servers.length ≤ 63 ∧ ∀ name ∈ domain_name, (bytes name).isEmpty = false ∧ (bytes name).length ≤ 253 ∧
    is_ascii (bytes name) = true

theorem encode_eq_ok_iff {encoded : List UInt8} :
    self.encode = .ok encoded ↔ Encodable self.dns_servers self.domain_name ∧ encoded = self.head ++ self.options := by
  have checked : (63 < self.dns_servers.length || self.domain_name.any (fun name =>
      (bytes name).isEmpty || 253 < (bytes name).length || !is_ascii (bytes name))) = true ↔
      ¬Encodable self.dns_servers self.domain_name := by
    unfold Encodable
    cases self.domain_name with
    | none => simp
    | some name =>
      simp only [Bool.or_eq_true,decide_eq_true_eq,Option.any_some,Option.mem_some_iff,forall_eq',Bool.not_eq_true',not_and_or,
        Bool.not_eq_false,Bool.not_eq_true,not_le]
      tauto
  unfold encode
  by_cases refused : Encodable self.dns_servers self.domain_name
  · rw [if_neg (fun bad => checked.mp bad refused)]
    simp only [Except.ok.injEq,refused,true_and]
    exact eq_comm
  · rw [if_pos (checked.mpr refused)]
    simp [refused]

theorem options_read (encodable : Encodable self.dns_servers self.domain_name) :
    while_nonempty option_round (Options.none,false) self.options = .ok (self.written,true) := by
  obtain ⟨few,named⟩ := encodable
  obtain ⟨kind,xid,mac,your_ip,client_ip,relay_ip,hops,servers,name,renewal,rebinding,requested,server,subnet,router,lease⟩ := self
  dsimp only at few named
  unfold options written
  dsimp only
  have first : Options.none.assign 53 [kind.byte] = .ok ⟨some kind,none,none,none,none,none,[],none,none,none⟩ := by
    simp only [Options.assign,if_true,DhcpMessageType.of_byte_byte]
    rfl
  rw [option_reads (by decide) (by decide) (by simp) first,
    optional_reads _ ⟨some kind,requested,none,none,none,none,[],none,none,none⟩ (by decide) (by decide)
      (by rintro rfl; rfl) (by rintro x rfl; simp [Options.assign,word_be32,Except.map]),
    optional_reads _ ⟨some kind,requested,server,none,none,none,[],none,none,none⟩ (by decide) (by decide)
      (by rintro rfl; rfl) (by rintro x rfl; simp [Options.assign,word_be32,Except.map]),
    optional_reads _ ⟨some kind,requested,server,subnet,none,none,[],none,none,none⟩ (by decide) (by decide)
      (by rintro rfl; rfl) (by rintro x rfl; simp [Options.assign,word_be32,Except.map]),
    optional_reads _ ⟨some kind,requested,server,subnet,router,none,[],none,none,none⟩ (by decide) (by decide)
      (by rintro rfl; rfl) (by rintro x rfl; simp [Options.assign,word_be32,Except.map]),
    optional_reads _ ⟨some kind,requested,server,subnet,router,lease,[],none,none,none⟩ (by decide) (by decide)
      (by rintro rfl; rfl) (by rintro x rfl; simp [Options.assign,word_be32,Except.map])]
  -- the servers, whose number counts bytes in fours
  have servers_read : ∀ rest, while_nonempty option_round (⟨some kind,requested,server,subnet,router,lease,[],none,none,none⟩,false)
      ((if servers.isEmpty then [] else option 6 (servers.flatMap be32)) ++ rest) =
      while_nonempty option_round (⟨some kind,requested,server,subnet,router,lease,servers,none,none,none⟩,false) rest := by
    intro rest
    by_cases empty : servers = []
    · subst empty
      rfl
    · have length : (servers.flatMap be32).length = 4 * servers.length := flatMap_be32_length servers
      have filled : (servers.flatMap be32).isEmpty = false := by
        have := List.length_pos_iff.mpr empty
        rw [List.isEmpty_eq_false_iff,← List.length_pos_iff]
        omega
      rw [if_neg (by simpa using empty)]
      refine option_reads (by decide) (by decide) (by omega) ?_ false rest
      simp [Options.assign,length,filled]
  have name_read : ∀ rest, while_nonempty option_round (⟨some kind,requested,server,subnet,router,lease,servers,none,none,none⟩,false)
      (name.elim [] (fun name => option 15 (bytes name)) ++ rest) =
      while_nonempty option_round (⟨some kind,requested,server,subnet,router,lease,servers,name,none,none⟩,false) rest := by
    intro rest
    cases name with
    | none => rfl
    | some text =>
      obtain ⟨filled,short,ascii⟩ := named text rfl
      refine option_reads (by decide) (by decide) (by omega) ?_ false rest
      simp [Options.assign,filled,short,ascii,from_utf8_bytes]
  rw [servers_read,name_read,
    optional_reads _ ⟨some kind,requested,server,subnet,router,lease,servers,name,renewal,none⟩ (by decide) (by decide)
      (by rintro rfl; rfl) (by rintro x rfl; simp [Options.assign,word_be32,Except.map]),
    optional_reads _ ⟨some kind,requested,server,subnet,router,lease,servers,name,renewal,rebinding⟩ (by decide) (by decide)
      (by rintro rfl; rfl) (by rintro x rfl; simp [Options.assign,word_be32,Except.map]),
    while_nonempty_cons]
  rfl

/-- The header before the address of the client. -/
def fields (self : DhcpMessage) : List UInt8 :=
  [self.message_type.op,1,6,self.hops] ++ (be32 self.transaction_id ++ ([0,0] ++ (be16 (if self.client_ip = 0 then 0x8000 else 0) ++
    (be32 self.client_ip ++ (be32 self.your_ip ++ ([0,0,0,0] ++ be32 self.relay_ip))))))

theorem head_eq (self : DhcpMessage) :
    self.head = self.fields ++ (self.client_mac.octets.toList ++ (List.replicate 202 0 ++ MAGIC_COOKIE)) := by
  simp only [head,fields,List.append_assoc]

/-- What was encoded is decoded again. -/
theorem decode_encode {encoded : List UInt8} (written : self.encode = .ok encoded) : decode encoded = .ok self := by
  obtain ⟨encodable,rfl⟩ := encode_eq_ok_iff.mp written
  have read := options_read encodable
  have long : 1 ≤ self.options.length := by
    unfold options
    simp [option]
  have behind : (self.head ++ self.options).drop 240 = self.options := List.drop_left' (head_length self)
  have cookie : ((self.head ++ self.options).drop 236).take 4 = MAGIC_COOKIE := by
    have front : (self.fields ++ (self.client_mac.octets.toList ++ List.replicate 202 0)).length = 236 := by
      rw [List.length_append,List.length_append,octets_length,List.length_replicate]
      rfl
    have split : self.head ++ self.options =
        (self.fields ++ (self.client_mac.octets.toList ++ List.replicate 202 0)) ++ (MAGIC_COOKIE ++ self.options) := by
      simp only [head_eq,List.append_assoc]
    rw [split,List.drop_left' front]
    rfl
  have mac : mac_at (self.head ++ self.options) 28 = self.client_mac := by
    rw [head_eq,List.append_assoc,List.append_assoc]
    exact mac_at_octets self.client_mac rfl _
  have hardware : ((self.head ++ self.options).drop 1).take 2 = [1,6] := rfl
  unfold decode
  rw [behind,read,cookie,mac,hardware,if_neg (by rw [List.length_append,head_length]; omega),if_neg (by simp)]
  obtain ⟨kind,xid,mac,your_ip,client_ip,relay_ip,hops,servers,name,renewal,rebinding,requested,server,subnet,router,lease⟩ := self
  simp only [head,DhcpMessage.written,be16,be32,List.cons_append,List.nil_append,u32_at,List.getD_cons_zero,List.getD_cons_succ,
    from_be32_be32]
  rw [if_neg (by simp)]

/-! ### What the decoder accepts -/

/-- Every round keeps the limits of the encoder. -/
theorem assign_encodable {code : UInt8} {value : List UInt8} (short : value.length ≤ 255)
    (encodable : Encodable state.dns_servers state.domain_name) (assigned : state.assign code value = .ok next) :
    Encodable next.dns_servers next.domain_name := by
  have kept : ∀ {read : Except DhcpPacketError UInt32} {write : UInt32 → Options}, read.map write = .ok next →
      (∀ x, (write x).dns_servers = state.dns_servers ∧ (write x).domain_name = state.domain_name) →
      Encodable next.dns_servers next.domain_name := by
    intro read write result same
    cases read with
    | error error => cases result
    | ok x =>
      cases result
      rw [(same x).1,(same x).2]
      exact encodable
  unfold Options.assign at assigned
  by_cases kind : code = 53
  · rw [if_pos kind] at assigned
    split at assigned
    · split at assigned
      · cases assigned
        exact encodable
      · cases assigned
    · cases assigned
  rw [if_neg kind] at assigned
  by_cases requested : code = 50
  · rw [if_pos requested] at assigned
    exact kept assigned (fun _ => ⟨rfl,rfl⟩)
  rw [if_neg requested] at assigned
  by_cases server : code = 54
  · rw [if_pos server] at assigned
    exact kept assigned (fun _ => ⟨rfl,rfl⟩)
  rw [if_neg server] at assigned
  by_cases subnet : code = 1
  · rw [if_pos subnet] at assigned
    exact kept assigned (fun _ => ⟨rfl,rfl⟩)
  rw [if_neg subnet] at assigned
  by_cases router : code = 3
  · rw [if_pos router] at assigned
    exact kept assigned (fun _ => ⟨rfl,rfl⟩)
  rw [if_neg router] at assigned
  by_cases lease : code = 51
  · rw [if_pos lease] at assigned
    exact kept assigned (fun _ => ⟨rfl,rfl⟩)
  rw [if_neg lease] at assigned
  by_cases servers : code = 6
  · rw [if_pos servers] at assigned
    split_ifs at assigned
    cases assigned
    refine ⟨?_,encodable.2⟩
    dsimp only
    rw [chunks32_length]
    omega
  rw [if_neg servers] at assigned
  by_cases name : code = 15
  · rw [if_pos name] at assigned
    split_ifs at assigned with valid
    cases read : from_utf8 value with
    | none =>
      rw [read] at assigned
      cases assigned
    | some text =>
      rw [read] at assigned
      cases assigned
      refine ⟨encodable.1,?_⟩
      intro other member
      cases member
      rw [bytes_from_utf8 read]
      simpa [and_assoc] using valid
  rw [if_neg name] at assigned
  by_cases renewal : code = 58
  · rw [if_pos renewal] at assigned
    exact kept assigned (fun _ => ⟨rfl,rfl⟩)
  rw [if_neg renewal] at assigned
  by_cases rebinding : code = 59
  · rw [if_pos rebinding] at assigned
    exact kept assigned (fun _ => ⟨rfl,rfl⟩)
  rw [if_neg rebinding] at assigned
  cases assigned
  exact encodable

theorem option_round_encodable {before after : Options × Bool} {code : UInt8} {rest : List UInt8} {skip : Nat}
    (encodable : Encodable before.1.dns_servers before.1.domain_name)
    (round : option_round before (code :: rest) = .ok (after,skip)) :
    skip ≤ rest.length ∧ Encodable after.1.dns_servers after.1.domain_name := by
  simp only [option_round] at round
  by_cases last : code = 255
  · rw [if_pos last] at round
    cases round
    exact ⟨le_rfl,encodable⟩
  rw [if_neg last] at round
  by_cases pad : code = 0
  · rw [if_pos pad] at round
    cases round
    exact ⟨Nat.zero_le _,encodable⟩
  rw [if_neg pad] at round
  cases rest with
  | nil => cases round
  | cons length rest =>
    dsimp only at round
    by_cases short : rest.length < length.toNat
    · rw [if_pos short] at round
      cases round
    rw [if_neg short] at round
    cases assigned : before.1.assign code (rest.take length.toNat) with
    | error error =>
      rw [assigned] at round
      cases round
    | ok options =>
      rw [assigned] at round
      cases round
      have small := length.toNat_lt
      have counted := List.length_take_le length.toNat rest
      refine ⟨by rw [List.length_cons]; omega,assign_encodable (by omega) encodable assigned⟩

/-- What was decoded can be encoded. -/
theorem encode_of_decode {bytes : List UInt8} (decoded : decode bytes = .ok self) :
    ∃ encoded, self.encode = .ok encoded := by
  unfold decode at decoded
  split_ifs at decoded
  cases read : while_nonempty option_round (Options.none,false) (bytes.drop 240) with
  | error error =>
    rw [read] at decoded
    cases decoded
  | ok final =>
    obtain ⟨options,ended⟩ := final
    have encodable : Encodable options.dns_servers options.domain_name := by
      refine while_nonempty_rule (I := fun state _ => Encodable state.1.dns_servers state.1.domain_name) (n := 0) ?_
        ⟨Nat.zero_le _,by simp [Options.none]⟩ read
      exact fun state n code rest next skip holds round => option_round_encodable holds round
    rw [read] at decoded
    cases ended with
    | false => cases decoded
    | true =>
      dsimp only at decoded
      cases kind : options.message_type with
      | none =>
        rw [kind] at decoded
        cases decoded
      | some kind' =>
        rw [kind] at decoded
        dsimp only at decoded
        split_ifs at decoded
        cases decoded
        exact ⟨_,encode_eq_ok_iff.mpr ⟨encodable,rfl⟩⟩

/-- The codec is exact on everything that either side accepts. -/
theorem codec_exact :
    (∀ (message : DhcpMessage) encoded, message.encode = .ok encoded → decode encoded = .ok message) ∧
      ∀ bytes message, decode bytes = .ok message →
        ∃ encoded, message.encode = .ok encoded ∧ decode encoded = .ok message := by
  refine ⟨fun _ _ written => decode_encode written,?_⟩
  intro bytes message decoded
  obtain ⟨encoded,written⟩ := encode_of_decode decoded
  exact ⟨encoded,written,decode_encode written⟩

end DhcpMessage
end Rios.Dhcp
