import Rios.Decimal
import Rios.Sequenced
import Rios.Translation

/-!
# Access lists

Standard numbered lists as vectors of rules, and named lists as maps from
sequence numbers to entries, on one device: how entries are added, how a numbered
list becomes a named one, how lists are applied to interfaces, and what they
decide.
-/

namespace Rios.AccessLists
open Rios.Machine Rios.Device Rios.Transport Rios.Wire Rios.Decimal
open Rios.Translation (AclId AccessListAction StandardAccessListEntry AddressMatch PortMatch AclProtocol)

/-- A standard list number, from 1 to 99. -/
abbrev AccessListId := { value : UInt8 // 1 ≤ value ∧ value ≤ 99 }

def AccessListId.new (value : UInt8) : Option AccessListId :=
  if valid : 1 ≤ value ∧ value ≤ 99 then some ⟨value,valid⟩ else none

/-- Standard lists match sources; extended lists additionally match protocol and destination. -/
inductive AclKind where
  | Standard
  | Extended
deriving DecidableEq

/-- `AddressMatch::ANY`. -/
def AddressMatch.ANY : AddressMatch := ⟨0,0xffffffff⟩

/-- Ordered access-list entry, including nonmatching remarks. -/
inductive AclEntry where
  | Remark (text : String)
  | Rule (action : AccessListAction) (protocol : AclProtocol) (source : AddressMatch) (source_port : PortMatch)
      (destination : AddressMatch) (destination_port : PortMatch) (log : Bool)
deriving DecidableEq

/-- The entry of a standard rule. -/
def AclEntry.standard (entry : StandardAccessListEntry) : AclEntry :=
  .Rule entry.action .Ip ⟨entry.source,entry.wildcard⟩ .Any AddressMatch.ANY .Any false

/-- Return a decision only when all selectors match. -/
def AclEntry.evaluate (packet : Ipv4Packet) : AclEntry → Option AccessListAction
  | .Remark _ => none
  | .Rule action protocol source source_port destination destination_port _ =>
    let number := packet.protocol.number
    if !protocol.matches number || !source.matches packet.source || !destination.matches packet.destination then none
    else if source_port ≠ .Any || destination_port ≠ .Any then
      if (number ≠ 6 && number ≠ 17) || packet.payload.length < 4 then none
      else if !source_port.matches (u16_at packet.payload 0) || !destination_port.matches (u16_at packet.payload 2) then none
      else some action
    else some action

/-- Whether matches are logged. -/
def AclEntry.logs : AclEntry → Bool
  | .Remark _ => false
  | .Rule _ _ _ _ _ _ log => log

/-- `char::is_control`. -/
def is_control (c : Char) : Bool := c.toNat < 32 || (127 ≤ c.toNat && c.toNat < 160)

/-- A range of ports whose bounds are the wrong way round. -/
def descending : PortMatch → Bool
  | .Range low high => high < low
  | _ => false

/-- What a list of a kind can hold. -/
def AclEntry.valid (kind : AclKind) : AclEntry → Bool
  | .Remark text => !(240 < text.utf8ByteSize || text.toList.any is_control)
  | .Rule _ protocol _ source_port destination destination_port _ =>
    !(descending source_port || descending destination_port) &&
      (protocol = .Tcp || protocol = .Udp || (source_port = .Any && destination_port = .Any)) &&
      (kind ≠ .Standard || (protocol = .Ip && destination = AddressMatch.ANY))

/-- Access list with stable sequence ordering and an implicit final deny. -/
structure AccessList where
  name : String
  kind : AclKind
  entries : OrderedMap UInt32 AclEntry

inductive AccessListDirection where
  | In
  | Out
deriving DecidableEq

/-- Bounded observation of a packet matching a rule with `log` enabled. -/
structure AclLog where
  list : AclId
  sequence : UInt32
  action : AccessListAction
  source : Ipv4Addr
  destination : Ipv4Addr
  protocol : UInt8
deriving DecidableEq

inductive DeviceError where
  | AccessListUnsupported
  | InvalidAccessList
  | AccessListCapacity
  | MissingAccessList
  | MissingInterface
deriving DecidableEq

/-- The lists that are applied to an interface. -/
structure InterfaceConfig where
  access_group_in : Option AccessListId
  access_group_out : Option AccessListId
  named_access_group_in : Option AclId
  named_access_group_out : Option AclId
deriving DecidableEq

namespace InterfaceConfig

def access_group (self : InterfaceConfig) : AccessListDirection → Option AccessListId
  | .In => self.access_group_in
  | .Out => self.access_group_out

def named_access_group (self : InterfaceConfig) : AccessListDirection → Option AclId
  | .In => self.named_access_group_in
  | .Out => self.named_access_group_out

/-- The interface with a numbered list in one direction. -/
def apply_numbered (self : InterfaceConfig) (id : AccessListId) : AccessListDirection → InterfaceConfig
  | .In => { self with access_group_in := some id, named_access_group_in := none }
  | .Out => { self with access_group_out := some id, named_access_group_out := none }

/-- The interface with a named list in one direction. -/
def apply_named (self : InterfaceConfig) (id : AclId) : AccessListDirection → InterfaceConfig
  | .In => { self with named_access_group_in := some id, access_group_in := none }
  | .Out => { self with named_access_group_out := some id, access_group_out := none }

end InterfaceConfig

/-- The part of a device that holds and evaluates access lists. -/
structure Device where
  device_type : DeviceType
  interfaces : OrderedMap InterfaceId InterfaceConfig
  access_lists : OrderedMap AccessListId (List StandardAccessListEntry)
  named_access_lists : OrderedMap AclId AccessList
  acl_matches : OrderedMap (Lex (AclId × UInt32)) UInt64
  acl_logs : OrderedMap (Lex (AclId × UInt32)) UInt64
  acl_log_records : List AclLog
  legacy_acl_matches : OrderedMap (Lex (AccessListId × Nat)) UInt64

/-- A list number as a name. -/
def number (id : AccessListId) : String := toString id.val.toNat

/-- One more match under a key. -/
def bump {κ : Type} [LinearOrder κ] (counters : OrderedMap κ UInt64) (key : κ) : OrderedMap κ UInt64 :=
  counters.insert key (satAdd64 ((counters.get? key).getD 0) 1)

/-- `b"_-"` and the ASCII letters and digits. -/
def name_character (c : Char) : Bool := c.isAlphanum || c = '_' || c = '-'

/-- A numeric name is in the range of its kind, without zeros in front. -/
def valid_number (name : String) (kind : AclKind) : Bool :=
  if name.toList.all Char.isDigit then
    (parse_unsigned 65535 name.toList).any (fun number =>
      (match kind with
        | .Standard => (1 ≤ number && number ≤ 99) || (1300 ≤ number && number ≤ 1999)
        | .Extended => (100 ≤ number && number ≤ 199) || (2000 ≤ number && number ≤ 2699)) && name = toString number)
  else true

/-- The sequence number of a rule that was at this index of a vector. -/
def promoted_sequence (index : Nat) : UInt32 := (UInt32.ofNat index + 1) * 10

namespace Device

/-- Resolve a named or extended numbered access list. -/
def acl_id (self : Device) (name : String) : Option AclId :=
  (self.named_access_lists.entries.find? (fun entry => entry.2.name = name)).map (·.1)

/-- The id behind the largest one. -/
def next_acl_id (self : Device) : Option AclId :=
  self.named_access_lists.entries.getLast?.elim (some 1) (fun entry => checkedAdd32 entry.1 1)

/-- The rules of a numbered list, each behind its sequence number. -/
def promoted (rules : List StandardAccessListEntry) : OrderedMap UInt32 AclEntry :=
  (rules.map AclEntry.standard).zipIdx.foldl (fun entries entry => entries.insert (promoted_sequence entry.2) entry.1) ∅

/-- Create or select a list. Numeric names must match the ranges of their kind. An existing numbered list of the name is
promoted without losing its rules. -/
def ensure_acl (self : Device) (name : String) (kind : AclKind) : Except DeviceError AclId × Device :=
  if !self.device_type.supports_routing then (.error .AccessListUnsupported,self)
  else if name.isEmpty || 64 < name.utf8ByteSize || !name.toList.all name_character then (.error .InvalidAccessList,self)
  else if !valid_number name kind then (.error .InvalidAccessList,self)
  else match self.acl_id name with
    | some id =>
      if (self.named_access_lists.get? id).any (·.kind = kind) then (.ok id,self) else (.error .InvalidAccessList,self)
    | none =>
      if 4096 ≤ self.named_access_lists.size then (.error .AccessListCapacity,self)
      else match self.next_acl_id with
        | none => (.error .AccessListCapacity,self)
        | some id =>
          let old_id := if kind = .Standard then
              (parse_unsigned 255 name.toList).bind (fun number => AccessListId.new (UInt8.ofNat number)) else none
          let entries := (old_id.bind self.access_lists.get?).elim ∅ promoted
          (.ok id,{ self with
            access_lists := old_id.elim self.access_lists self.access_lists.erase
            named_access_lists := self.named_access_lists.insert id ⟨name,kind,entries⟩ })

/-- Insert or replace a validated sequence; absent sequence appends in steps of ten. -/
def set_acl_entry (self : Device) (id : AclId) (sequence : Option UInt32) (entry : AclEntry) :
    Except DeviceError Unit × Device :=
  match self.named_access_lists.get? id with
  | none => (.error .MissingAccessList,self)
  | some list =>
    let sequence := sequence.getD (list.entries.entries.getLast?.elim 10 (fun last => satAdd32 last.1 10))
    if sequence = 0 ∨ sequence = 0xffffffff then (.error .InvalidAccessList,self)
    else if 4096 ≤ list.entries.size && !list.entries.contains sequence then (.error .AccessListCapacity,self)
    else if !entry.valid list.kind then (.error .InvalidAccessList,self)
    else (.ok (),{ self with
      named_access_lists := self.named_access_lists.insert id { list with entries := list.entries.insert sequence entry }
      acl_matches := self.acl_matches.erase (toLex (id,sequence))
      acl_logs := self.acl_logs.erase (toLex (id,sequence)) })

/-- Append an entry to a standard numbered access list. -/
def add_access_list_entry (self : Device) (id : AccessListId) (entry : StandardAccessListEntry) :
    Except DeviceError Unit × Device :=
  if !self.device_type.supports_routing then (.error .AccessListUnsupported,self)
  else match self.acl_id (number id) with
    | some named => self.set_acl_entry named none (AclEntry.standard entry)
    | none =>
      if (self.access_lists.get? id).any (fun entries => 4096 ≤ entries.length) then (.error .AccessListCapacity,self)
      else (.ok (),{ self with
        access_lists := self.access_lists.insert id ((self.access_lists.get? id).getD [] ++ [entry]) })

/-- Apply a named list to one direction. -/
def set_named_access_group (self : Device) (interface : InterfaceId) (name : String) (direction : AccessListDirection) :
    Except DeviceError Unit × Device :=
  match self.acl_id name with
  | none => (.error .MissingAccessList,self)
  | some id =>
    match self.interfaces.get? interface with
    | none => (.error .MissingInterface,self)
    | some config => (.ok (),{ self with interfaces := self.interfaces.insert interface (config.apply_named id direction) })

/-- Apply an existing standard list to an interface direction. -/
def set_access_group (self : Device) (interface : InterfaceId) (id : AccessListId) (direction : AccessListDirection) :
    Except DeviceError Unit × Device :=
  if !self.device_type.supports_routing then (.error .AccessListUnsupported,self)
  else if (self.acl_id (number id)).isSome then self.set_named_access_group interface (number id) direction
  else if !self.access_lists.contains id then (.error .MissingAccessList,self)
  else match self.interfaces.get? interface with
    | none => (.error .MissingInterface,self)
    | some config => (.ok (),{ self with interfaces := self.interfaces.insert interface (config.apply_numbered id direction) })

/-- The most recent 256 records with one more. -/
def push_log (records : List AclLog) (record : AclLog) : List AclLog :=
  (if 256 ≤ records.length then records.tail else records) ++ [record]

def evaluate_named_acl (self : Device) (id : AclId) (packet : Ipv4Packet) : Bool × Device :=
  let found := (self.named_access_lists.get? id).bind (fun list => list.entries.entries.findSome? (fun entry =>
    (entry.2.evaluate packet).map (fun action => (entry.1,action,entry.2.logs))))
  match found with
  | none => (false,self)
  | some (sequence,action,log) =>
    let counted := { self with acl_matches := bump self.acl_matches (toLex (id,sequence)) }
    (action = .Permit,
      if log then { counted with
        acl_log_records := push_log counted.acl_log_records
          ⟨id,sequence,action,packet.source,packet.destination,packet.protocol.number⟩
        acl_logs := bump counted.acl_logs (toLex (id,sequence)) }
      else counted)

/-- Evaluate an interface list. A configured list has an implicit final deny. -/
def permits_ipv4 (self : Device) (interface : InterfaceId) (direction : AccessListDirection) (packet : Ipv4Packet) :
    Bool × Device :=
  match self.interfaces.get? interface with
  | none => (false,self)
  | some config =>
    match config.named_access_group direction with
    | some id => self.evaluate_named_acl id packet
    | none =>
      match config.access_group direction with
      | none => (true,self)
      | some id =>
        match self.acl_id (number id) with
        | some named => self.evaluate_named_acl named packet
        | none =>
          match (self.access_lists.get? id).bind (·.zipIdx.find? (fun entry => entry.1.matches packet.source)) with
          | none => (false,self)
          | some (entry,index) => (entry.action = .Permit,{ self with
              legacy_acl_matches := bump self.legacy_acl_matches (toLex (id,index)) })

/-- Evaluate a configured standard list against one source address. -/
def access_list_permits (self : Device) (id : AccessListId) (source : Ipv4Addr) : Bool :=
  match self.acl_id (number id) with
  | some named =>
    let packet : Ipv4Packet := ⟨0,source,0,64,.Other 0,[]⟩
    (self.named_access_lists.get? named).any (fun list =>
      list.entries.values.findSome? (AclEntry.evaluate packet) = some .Permit)
  | none =>
    (self.access_lists.get? id).any (fun entries => (entries.find? (·.matches source)).map (·.action) = some .Permit)

end Device

end Rios.AccessLists
