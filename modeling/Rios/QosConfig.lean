import Rios.Ports
import Rios.Packets
import Rios.Switchports
import Rios.Translation

/-!
# QoS configuration

Class maps, policies of them, and the policies that interfaces send under. Nine
calls edit the three tables, each with its own checks; whatever their order, every
reference resolves, every frame finds a class, and the classes of an interface
make a scheduler.
-/

namespace Rios.QosConfig
open Rios.Machine Rios.Device Rios.Qos
open Rios.Dhcp (bytes is_ascii_alphanumeric)
open Rios.Link (LinkConfig)
open Rios.Ports (InterfaceKind)
open Rios.Queue (SimTime)
open Rios.Switchports (supports_switching)
open Rios.Translation (AclEntry Router)
open Rios.Transport (Ipv4Packet)
open Rios.Vlan (EtherType EthernetFrame)
open Rios.Wire (from_be16)

def INVENTORY_LIMIT : Nat := 256

/-- `QosClassId(u32)`. -/
abbrev QosClassId := UInt32
/-- `QosPolicyId(u32)`. -/
abbrev QosPolicyId := UInt32

/-- Values in one criterion are ORed; match-all combines distinct criteria with AND. -/
structure QosClassMap where
  name : String
  match_all : Bool
  dscp : Finset UInt8
  precedence : Finset UInt8
  access_lists : Finset String
deriving DecidableEq

/-- A bit rate and optional explicit byte burst; omitted bursts are resolved against interface MTU. -/
structure QosRate where
  bits_per_second : UInt64
  burst_bytes : Option UInt64
deriving DecidableEq

/-- Resolve the default 100ms burst, with room for a full Ethernet frame. -/
def QosRate.resolve (self : QosRate) (mtu : UInt16) : RateLimit :=
  ⟨self.bits_per_second,self.burst_bytes.getD (min (max (self.bits_per_second / 80) (mtu.toUInt64 + 18)) 1073741824)⟩

/-- Validate both explicit and default burst forms. -/
def QosRate.valid (self : QosRate) : Bool := (self.resolve 1500).valid

/-- `u64::saturating_mul`. -/
def satMul64 (a b : UInt64) : UInt64 := UInt64.ofNat (min (a.toNat * b.toNat) (2 ^ 64 - 1))

/-- One ordered policy class. None denotes the implicit final class-default. -/
structure QosPolicyClass where
  «class» : Option QosClassId
  bandwidth_kbps : Option UInt64
  priority : Option QosRate
  police : Option QosRate
  shape : Option QosRate
deriving DecidableEq

namespace QosPolicyClass

/-- `QosPolicyClass::default` for a class. -/
def default («class» : Option QosClassId) : QosPolicyClass := ⟨«class»,none,none,none,none⟩

/-- Translate policy rates to deterministic queue configuration. -/
def scheduling (self : QosPolicyClass) (mtu : UInt16) (default_weight : UInt64) : QueueClassConfig :=
  ⟨self.bandwidth_kbps.elim default_weight (satMul64 · 1000),self.priority.map (·.resolve mtu),self.police.map (·.resolve mtu),
    self.shape.map (·.resolve mtu)⟩

/-- The checks on the actions of a class. -/
def valid (self : QosPolicyClass) : Bool :=
  self.bandwidth_kbps.all (fun kbps => 1 ≤ kbps && kbps ≤ 1000000000) &&
    !(self.bandwidth_kbps.isSome && self.priority.isSome) &&
    self.priority.all (fun rate => rate.bits_per_second % 1000 = 0) &&
    ([self.priority,self.police,self.shape].reduceOption).all QosRate.valid

end QosPolicyClass

/-- Policy classes retain insertion order; class-default is always last. -/
structure QosPolicyMap where
  name : String
  classes : List QosPolicyClass
deriving DecidableEq

/-- The part of an interface's configuration that QoS reads. -/
structure InterfaceConfig where
  mtu : UInt16
  service_policy_output : Option QosPolicyId
deriving DecidableEq

/-- Errors of the calls. -/
inductive DeviceError where
  | InvalidQosConfig
  | MissingInterface
deriving DecidableEq

/-- The part of a device that classifies frames. The router holds its access lists. -/
structure Device where
  device_type : DeviceType
  kinds : OrderedMap InterfaceId InterfaceKind
  interfaces : OrderedMap InterfaceId InterfaceConfig
  classes : OrderedMap QosClassId QosClassMap
  policies : OrderedMap QosPolicyId QosPolicyMap
  router : Router

/-- `policy_name_valid`. -/
def policy_name_valid (name : String) : Bool :=
  !(bytes name).isEmpty && (bytes name).length ≤ 64 &&
    (bytes name).all (fun byte => is_ascii_alphanumeric byte || byte = 95 || byte = 46 || byte = 45)

namespace Device

/-- A device without QoS configuration. -/
def new (device_type : DeviceType) (kinds : OrderedMap InterfaceId InterfaceKind) (mtus : OrderedMap InterfaceId UInt16)
    (router : Router) : Device :=
  ⟨device_type,kinds,mtus.mapValues (fun _ mtu => ⟨mtu,none⟩),∅,∅,router⟩

/-- Devices that forward frames or packets. -/
def supported (self : Device) : Bool := self.device_type.supports_routing || supports_switching self.device_type

/-- The id behind the largest one. -/
def next_id {ν : Type} (table : OrderedMap UInt32 ν) : Option UInt32 :=
  table.entries.getLast?.elim (some 1) (fun entry => checkedAdd32 entry.1 1)

/-- The first class map of a name. -/
def class_named (self : Device) (name : String) : Option (QosClassId × QosClassMap) :=
  self.classes.entries.find? (fun entry => entry.2.name = name)

def policy_named (self : Device) (name : String) : Option (QosPolicyId × QosPolicyMap) :=
  self.policies.entries.find? (fun entry => entry.2.name = name)

/-- Create or select a class map; match mode can be changed without rewriting its criteria. -/
def ensure_qos_class (self : Device) (name : String) (match_all : Bool) : Except DeviceError QosClassId × Device :=
  if !self.supported || !policy_name_valid name || name = "class-default" then (.error .InvalidQosConfig,self)
  else
    match self.class_named name with
    | some (id,found) => (.ok id,{ self with classes := self.classes.insert id { found with match_all } })
    | none =>
      if INVENTORY_LIMIT ≤ self.classes.size then (.error .InvalidQosConfig,self)
      else
        match next_id self.classes with
        | none => (.error .InvalidQosConfig,self)
        | some id => (.ok id,{ self with classes := self.classes.insert id ⟨name,match_all,∅,∅,∅⟩ })

/-- Validate and replace class selectors; the stable identity and name cannot be changed. -/
def set_qos_class (self : Device) (id : QosClassId) (selectors : QosClassMap) : Except DeviceError Unit × Device :=
  if (∃ value ∈ selectors.dscp, 63 < value) ∨ (∃ value ∈ selectors.precedence, 7 < value) ∨
      64 < selectors.access_lists.card ∨
      (∃ name ∈ selectors.access_lists, policy_name_valid name = false) then (.error .InvalidQosConfig,self)
  else
    match self.classes.get? id with
    | none => (.error .InvalidQosConfig,self)
    | some target =>
      if target.name ≠ selectors.name then (.error .InvalidQosConfig,self)
      else (.ok (),{ self with classes := self.classes.insert id selectors })

/-- Remove an unused class map. Referenced classes must first be removed from their policies. -/
def remove_qos_class (self : Device) (name : String) : Except DeviceError Unit × Device :=
  match self.class_named name with
  | none => (.ok (),self)
  | some (id,_) =>
    if self.policies.values.any (fun policy => policy.classes.any (fun entry => entry.class = some id)) then
      (.error .InvalidQosConfig,self)
    else (.ok (),{ self with classes := self.classes.erase id })

/-- Create/select a policy. Its implicit class-default always remains last. -/
def ensure_qos_policy (self : Device) (name : String) : Except DeviceError QosPolicyId × Device :=
  if !self.supported || !policy_name_valid name then (.error .InvalidQosConfig,self)
  else
    match self.policy_named name with
    | some (id,_) => (.ok id,self)
    | none =>
      if INVENTORY_LIMIT ≤ self.policies.size then (.error .InvalidQosConfig,self)
      else
        match next_id self.policies with
        | none => (.error .InvalidQosConfig,self)
        | some id => (.ok id,{ self with policies := self.policies.insert id ⟨name,[.default none]⟩ })

/-- The class that a policy command names: none for class-default. -/
def class_id (self : Device) (name : String) : Except DeviceError (Option QosClassId) :=
  if name = "class-default" then .ok none
  else
    match self.class_named name with
    | none => .error .InvalidQosConfig
    | some (id,_) => .ok (some id)

/-- `Vec::insert` before the last element. -/
def insert_before_last (classes : List QosPolicyClass) (entry : QosPolicyClass) : List QosPolicyClass :=
  classes.take (classes.length - 1) ++ entry :: classes.drop (classes.length - 1)

/-- Select/add a named class in a policy, returning None for class-default. -/
def ensure_qos_policy_class (self : Device) (policy : QosPolicyId) (name : String) :
    Except DeviceError (Option QosClassId) × Device :=
  match self.class_id name with
  | .error error => (.error error,self)
  | .ok id =>
    match self.policies.get? policy with
    | none => (.error .InvalidQosConfig,self)
    | some found =>
      if found.classes.any (fun entry => entry.class = id) then (.ok id,self)
      else if 64 ≤ found.classes.length then (.error .InvalidQosConfig,self)
      else (.ok id,{ self with
        policies :=
        self.policies.insert policy { found with classes := insert_before_last found.classes (.default id) } })

/-- The first class of an identity is replaced (`iter_mut().find`). -/
def replace_class : List QosPolicyClass → QosPolicyClass → List QosPolicyClass
  | [],_ => []
  | entry :: rest,new => if entry.class = new.class then new :: rest else entry :: replace_class rest new

/-- Validate and edit one existing policy class's real scheduling actions. -/
def set_qos_policy_class (self : Device) (id : QosPolicyId) (actions : QosPolicyClass) :
    Except DeviceError Unit × Device :=
  if !actions.valid then (.error .InvalidQosConfig,self)
  else
    match self.policies.get? id with
    | none => (.error .InvalidQosConfig,self)
    | some policy =>
      if policy.classes.any (fun entry => entry.class = actions.class) then
        (.ok (),{ self with policies := self.policies.insert id { policy with classes := replace_class policy.classes actions } })
      else (.error .InvalidQosConfig,self)

/-- Remove a policy class, or reset the implicit class-default's actions. -/
def remove_qos_policy_class (self : Device) (id : QosPolicyId) (name : String) : Except DeviceError Unit × Device :=
  match self.class_id name with
  | .error error => (.error error,self)
  | .ok removed =>
    match self.policies.get? id with
    | none => (.error .InvalidQosConfig,self)
    | some policy =>
      match removed with
      | none => (.ok (),{ self with
          policies := self.policies.insert id { policy with classes := replace_class policy.classes (.default none) } })
      | some removed => (.ok (),{ self with
          policies := self.policies.insert id { policy with
            classes := policy.classes.filter (fun entry => entry.class ≠ some removed) } })

/-- Remove an unattached policy; interface references never become dangling. -/
def remove_qos_policy (self : Device) (name : String) : Except DeviceError Unit × Device :=
  match self.policy_named name with
  | none => (.ok (),self)
  | some (id,_) =>
    if self.interfaces.values.any (fun port => port.service_policy_output = some id) then (.error .InvalidQosConfig,self)
    else (.ok (),{ self with policies := self.policies.erase id })

/-- Bind an output queueing policy to a physical Ethernet interface. -/
def set_service_policy_output (self : Device) (interface : InterfaceId) (policy : Option QosPolicyId) :
    Except DeviceError Unit × Device :=
  if !(self.kinds.get? interface).any (·.is_ethernet) || policy.any (fun id => !self.policies.contains id) then
    (.error .InvalidQosConfig,self)
  else
    match self.interfaces.get? interface with
    | none => (.error .MissingInterface,self)
    | some port => (.ok (),{ self with
        interfaces := self.interfaces.insert interface { port with service_policy_output := policy } })

end Device

/-! ### Profiles and classification -/

/-- A named class and its resolved physical-interface scheduling settings. -/
structure QosProfileClass where
  «class» : Option QosClassId
  name : String
  scheduling : QueueClassConfig
deriving DecidableEq

/-- Immutable queue configuration, used to detect policy changes at a physical transmitter. -/
structure QosProfile where
  mtu : UInt16
  id : QosPolicyId
  name : String
  classes : List QosProfileClass
deriving DecidableEq

namespace Device

/-- The rate that the classes of a policy reserve. -/
def reserved (policy : QosPolicyMap) : UInt64 :=
  (policy.classes.map (fun entry => satAdd64 (satMul64 (entry.bandwidth_kbps.getD 0) 1000)
    (entry.priority.elim 0 (·.bits_per_second)))).foldl satAdd64 0

/-- The weight of a class without a bandwidth of its own. -/
def default_weight (policy : QosPolicyMap) (link_bps : UInt64) : UInt64 :=
  let unreserved :=
      max (policy.classes.filter (fun entry => entry.bandwidth_kbps.isNone && entry.priority.isNone)).length 1
  min (max (satSub64 link_bps (reserved policy) / UInt64.ofNat unreserved) 1) 1000000000000

/-- Resolve an attached output policy and unreserved bandwidth shares for a physical link. -/
def qos_profile (self : Device) (interface : InterfaceId) (link_bps : Option UInt64) : Option QosProfile :=
  match self.interfaces.get? interface with
  | none => none
  | some port =>
    match port.service_policy_output with
    | none => none
    | some id =>
      match self.policies.get? id,self.kinds.get? interface with
      | some policy,some kind =>
        let link_bps := link_bps.getD (if kind = .TenGigabitEthernet then 10000000000 else 1000000000)
        some ⟨port.mtu,id,policy.name,policy.classes.map (fun entry =>
          ⟨entry.class,((entry.class.bind self.classes.get?).map (·.name)).getD "class-default",
            entry.scheduling port.mtu (default_weight policy link_bps)⟩)⟩
      | _,_ => none

/-- `str::parse::<u8>`. -/
def parse_u8 (text : String) : Option UInt8 :=
  let digits := match text.toList with
    | '+' :: rest => rest
    | all => all
  if digits.isEmpty || !digits.all Char.isDigit then none
  else
    let value := digits.foldl (fun value digit => value * 10 + (digit.toNat - 48)) 0
    if value ≤ 255 then some (UInt8.ofNat value) else none

/-- Whether an access list, by its name or number, permits a packet. -/
def qos_acl_permits (self : Device) (name : String) (packet : Ipv4Packet) : Bool :=
  match self.router.acl_id name with
  | some id => (self.router.named_access_lists.get? id).any (fun list =>
      list.entries.values.findSome? (AclEntry.evaluate packet) = some .Permit)
  | none => ((parse_u8 name).filter (fun number => 1 ≤ number && number ≤ 99)).any (fun id =>
      self.router.access_list_permits id packet.source)

/-- The criteria of a class map that are configured, each with its answer for a frame. -/
def criteria (self : Device) (selectors : QosClassMap) (ds : Option UInt8) (ipv4 : Option Ipv4Packet) : List Bool :=
  [if selectors.dscp = ∅ then none else some (ds.any (fun (ds : UInt8) => decide (ds >>> 2 ∈ selectors.dscp))),
    if selectors.precedence = ∅ then none
    else some (ipv4.any (fun (packet : Ipv4Packet) => decide ((packet.dscp_ecn >>> 5 : UInt8) ∈ selectors.precedence))),
    if selectors.access_lists = ∅ then none
    else some (ipv4.any (fun packet => decide (∃ name ∈ selectors.access_lists, self.qos_acl_permits name packet = true)))].reduceOption

/-- Whether a class of a policy takes a frame. Empty class maps never match. -/
def class_matches (self : Device) (ds : Option UInt8) (ipv4 : Option Ipv4Packet) (entry : QosPolicyClass) : Bool :=
  match entry.class with
  | none => true
  | some named =>
    match self.classes.get? named with
    | none => false
    | some selectors =>
      let answers := self.criteria selectors ds ipv4
      if answers.isEmpty then false else if selectors.match_all then answers.all id else answers.any id

/-- The payload of a frame and its kind, behind a single 802.1Q tag. -/
def untagged (frame : EthernetFrame) : EtherType × List UInt8 :=
  if frame.ethertype = .Dot1Q && 4 ≤ frame.payload.length then
    (.of_u16 (from_be16 (frame.payload.getD 2 0) (frame.payload.getD 3 0)),frame.payload.drop 4)
  else (frame.ethertype,frame.payload)

/-- Classify an actual frame, including a single 802.1Q tag. -/
def qos_classify (self : Device) (policy : QosPolicyId) (frame : EthernetFrame) : Option Nat :=
  match self.policies.get? policy with
  | none => none
  | some policy =>
    let (kind,payload) := untagged frame
    let ipv4 := if kind = .Ipv4 then (Ipv4Packet.decode payload).toOption else none
    let ds := (ipv4.map (·.dscp_ecn)).or
      (if kind = .Ipv6 && 40 ≤ payload.length && payload.getD 0 0 >>> 4 = 6 then
        some (payload.getD 0 0 <<< 4 ||| payload.getD 1 0 >>> 4) else none)
    policy.classes.findIdx? (self.class_matches ds ipv4)

end Device

/-! ### Runs -/

/-- One call on the QoS configuration. -/
inductive Operation where
  | ensure_qos_class (name : String) (match_all : Bool)
  | set_qos_class (id : QosClassId) (selectors : QosClassMap)
  | remove_qos_class (name : String)
  | ensure_qos_policy (name : String)
  | ensure_qos_policy_class (policy : QosPolicyId) (name : String)
  | set_qos_policy_class (id : QosPolicyId) (actions : QosPolicyClass)
  | remove_qos_policy_class (id : QosPolicyId) (name : String)
  | remove_qos_policy (name : String)
  | set_service_policy_output (interface : InterfaceId) (policy : Option QosPolicyId)

namespace Device

/-- The device after one call, whether it failed or not. -/
def apply (self : Device) : Operation → Device
  | .ensure_qos_class name match_all => (self.ensure_qos_class name match_all).2
  | .set_qos_class id selectors => (self.set_qos_class id selectors).2
  | .remove_qos_class name => (self.remove_qos_class name).2
  | .ensure_qos_policy name => (self.ensure_qos_policy name).2
  | .ensure_qos_policy_class policy name => (self.ensure_qos_policy_class policy name).2
  | .set_qos_policy_class id actions => (self.set_qos_policy_class id actions).2
  | .remove_qos_policy_class id name => (self.remove_qos_policy_class id name).2
  | .remove_qos_policy name => (self.remove_qos_policy name).2
  | .set_service_policy_output interface policy => (self.set_service_policy_output interface policy).2

def run (self : Device) (operations : List Operation) : Device := operations.foldl apply self

end Device

/-! ### Policies -/

/-- The classes of a policy: at most 64, of different identities, class-default last, and each with valid actions. -/
structure Shaped (classes : List QosPolicyClass) : Prop where
  few : classes.length ≤ 64
  distinct : (classes.map (·.class)).Nodup
  default_last : ∃ front, classes.map (·.class) = front ++ [none]
  valid : ∀ entry ∈ classes, entry.valid = true

theorem default_valid (named : Option QosClassId) : (QosPolicyClass.default named).valid = true := rfl

theorem Shaped.initial : Shaped [.default none] where
  few := Nat.one_le_ofNat
  distinct := List.nodup_singleton _
  default_last := ⟨[],rfl⟩
  valid := by
    intro entry member
    rw [List.mem_singleton.mp member]
    exact default_valid none

theorem insert_before_last_concat (front : List QosPolicyClass) (last entry : QosPolicyClass) :
    Device.insert_before_last (front ++ [last]) entry = front ++ [entry,last] := by
  have before : (front ++ [last]).length - 1 = front.length := by
    rw [List.length_append,List.length_singleton]
    omega
  rw [Device.insert_before_last,before,List.take_left,List.drop_left]

variable {classes : List QosPolicyClass} {named : Option QosClassId}

/-- A new class goes before class-default. -/
theorem Shaped.insert (shaped : Shaped classes) (room : classes.length < 64) (absent : named ∉ classes.map (·.class)) :
    Shaped (Device.insert_before_last classes (.default named)) ∧
      ∀ entry ∈ Device.insert_before_last classes (.default named), entry = .default named ∨ entry ∈ classes := by
  obtain ⟨front,keys⟩ := shaped.default_last
  obtain ⟨entries,last,rfl⟩ : ∃ entries last, classes = entries ++ [last] := by
    rcases List.eq_nil_or_concat classes with rfl | ⟨entries,last,rfl⟩
    · simp at keys
    · exact ⟨entries,last,List.concat_eq_append⟩
  have default : last.class = none := by
    have ends := congrArg List.getLast? keys
    simpa using ends
  rw [insert_before_last_concat]
  have distinct := shaped.distinct
  simp only [List.map_append,List.map_cons,List.map_nil,List.mem_append,List.mem_singleton,not_or] at distinct absent
  refine ⟨⟨?_,?_,?_,?_⟩,?_⟩
  · simp only [List.length_append,List.length_cons,List.length_nil] at room ⊢
    omega
  · simp only [List.map_append,List.map_cons,List.map_nil]
    have apart := List.nodup_append.mp distinct
    refine List.nodup_append.mpr ⟨apart.1,?_,?_⟩
    · simpa [QosPolicyClass.default] using absent.2
    · intro one inFront two inBack
      rcases List.mem_pair.mp inBack with rfl | rfl
      · exact fun same => absent.1 (same ▸ inFront)
      · exact apart.2.2 one inFront _ (List.mem_singleton_self _)
  · exact ⟨entries.map (·.class) ++ [named],by simp [default,QosPolicyClass.default]⟩
  · intro entry member
    rcases List.mem_append.mp member with old | new
    · exact shaped.valid entry (List.mem_append_left _ old)
    · rcases List.mem_pair.mp new with rfl | rfl
      · exact default_valid named
      · exact shaped.valid _ (List.mem_append_right _ (List.mem_singleton_self _))
  · intro entry member
    rcases List.mem_append.mp member with old | new
    · exact .inr (List.mem_append_left _ old)
    · rcases List.mem_pair.mp new with rfl | rfl
      · exact .inl rfl
      · exact .inr (List.mem_append_right _ (List.mem_singleton_self _))

theorem replace_class_keys (classes : List QosPolicyClass) (new : QosPolicyClass) :
    (Device.replace_class classes new).map (·.class) = classes.map (·.class) := by
  induction classes with
  | nil => rfl
  | cons entry rest ih =>
    rw [Device.replace_class]
    by_cases here : entry.class = new.class
    · rw [if_pos here,List.map_cons,List.map_cons,here]
    · rw [if_neg here,List.map_cons,List.map_cons,ih]

theorem mem_replace_class {new entry : QosPolicyClass} (member : entry ∈ Device.replace_class classes new) :
    entry = new ∨ entry ∈ classes := by
  induction classes with
  | nil => cases member
  | cons first rest ih =>
    rw [Device.replace_class] at member
    by_cases here : first.class = new.class
    · rw [if_pos here] at member
      rcases List.mem_cons.mp member with same | later
      · exact .inl same
      · exact .inr (List.mem_cons_of_mem _ later)
    · rw [if_neg here] at member
      rcases List.mem_cons.mp member with rfl | later
      · exact .inr List.mem_cons_self
      · rcases ih later with same | old
        · exact .inl same
        · exact .inr (List.mem_cons_of_mem _ old)

/-- Other actions leave the classes as they are. -/
theorem Shaped.replace (shaped : Shaped classes) {new : QosPolicyClass} (valid : new.valid = true) :
    Shaped (Device.replace_class classes new) where
  few := by
    have same := congrArg List.length (replace_class_keys classes new)
    rw [List.length_map,List.length_map] at same
    rw [same]
    exact shaped.few
  distinct := by
    rw [replace_class_keys]
    exact shaped.distinct
  default_last := by
    rw [replace_class_keys]
    exact shaped.default_last
  valid := by
    intro entry member
    rcases mem_replace_class member with rfl | old
    · exact valid
    · exact shaped.valid entry old

/-- Class-default cannot be removed. -/
theorem Shaped.remove (shaped : Shaped classes) (removed : QosClassId) :
    Shaped (classes.filter (fun entry => entry.class ≠ some removed)) where
  few := (List.length_filter_le _ _).trans shaped.few
  distinct := shaped.distinct.sublist (List.filter_sublist.map _)
  default_last := by
    obtain ⟨front,keys⟩ := shaped.default_last
    have filtered : (classes.filter (fun entry => entry.class ≠ some removed)).map (·.class) =
        (classes.map (·.class)).filter (fun named => named ≠ some removed) := by
      rw [List.filter_map]
      rfl
    refine ⟨front.filter (fun named => named ≠ some removed),?_⟩
    rw [filtered,keys,List.filter_append]
    rfl
  valid := fun entry member => shaped.valid entry (List.mem_of_mem_filter member)

/-- Every frame finds a class, class-default at the latest. -/
theorem Shaped.finds (shaped : Shaped classes) {takes : QosPolicyClass → Bool}
    (default : ∀ entry, entry.class = none → takes entry = true) :
    ∃ i, classes.findIdx? takes = some i ∧ i < classes.length := by
  obtain ⟨front,keys⟩ := shaped.default_last
  obtain ⟨entry,member,isDefault⟩ : ∃ entry ∈ classes, entry.class = none :=
    List.mem_map.mp (keys ▸ List.mem_append_right _ (List.mem_singleton_self _))
  cases found : classes.findIdx? takes with
  | none =>
    have never := List.findIdx?_eq_none_iff.mp found entry member
    rw [default entry isDefault] at never
    cases never
  | some i => exact ⟨i,rfl,(List.findIdx?_eq_some_iff_getElem.mp found).1⟩

/-! ### Devices -/

/-- What holds of the tables between calls. -/
structure Consistent (device : Device) : Prop where
  shaped : ∀ id policy, device.policies.get? id = some policy → Shaped policy.classes
  classes : ∀ id policy, device.policies.get? id = some policy →
      ∀ entry ∈ policy.classes, ∀ named, entry.class = some named →
    device.classes.contains named = true
  bindings : ∀ interface port, device.interfaces.get? interface = some port → ∀ id, port.service_policy_output = some id →
    device.policies.contains id = true

theorem consistent_new (device_type : DeviceType) (kinds : OrderedMap InterfaceId InterfaceKind)
    (mtus : OrderedMap InterfaceId UInt16) (router : Router) : Consistent (.new device_type kinds mtus router) where
  shaped := by
    intro id policy found
    cases found
  classes := by
    intro id policy found
    cases found
  bindings := by
    intro interface port found id bound
    rw [Device.new,OrderedMap.get?_mapValues] at found
    obtain ⟨mtu,-,rfl⟩ := Option.map_eq_some_iff.mp found
    cases bound

/-- A key that is in a map stays in it when an entry is written. -/
theorem contains_insert {κ ν : Type*} [LinearOrder κ] {map : OrderedMap κ ν} {key : κ} (known : map.contains key = true)
    (written : κ) (value : ν) : (map.insert written value).contains key = true := by
  rw [OrderedMap.contains,OrderedMap.get?_insert]
  by_cases same : key = written
  · rw [if_pos same]
    rfl
  · rw [if_neg same]
    exact known

variable {device : Device}

/-- Writing a class map keeps every reference. -/
theorem Consistent.write_class (consistent : Consistent device) (id : QosClassId) (selectors : QosClassMap) :
    Consistent { device with classes := device.classes.insert id selectors } where
  shaped := consistent.shaped
  classes := fun key policy found entry member named named_is =>
    contains_insert (consistent.classes key policy found entry member named named_is) id selectors
  bindings := consistent.bindings

/-- A policy may be written when it is well formed and its classes are there. -/
theorem Consistent.write_policy (consistent : Consistent device) (id : QosPolicyId) {policy : QosPolicyMap}
    (shaped : Shaped policy.classes)
    (resolved : ∀ entry ∈ policy.classes, ∀ named, entry.class = some named → device.classes.contains named = true) :
    Consistent { device with policies := device.policies.insert id policy } where
  shaped := by
    intro key written found
    rw [OrderedMap.get?_insert] at found
    by_cases same : key = id
    · rw [if_pos same] at found
      cases found
      exact shaped
    · rw [if_neg same] at found
      exact consistent.shaped key written found
  classes := by
    intro key written found
    rw [OrderedMap.get?_insert] at found
    by_cases same : key = id
    · rw [if_pos same] at found
      cases found
      exact resolved
    · rw [if_neg same] at found
      exact consistent.classes key written found
  bindings :=
      fun interface port found key bound => contains_insert (consistent.bindings interface port found key bound) id policy

theorem Consistent.ensure_qos_class (consistent : Consistent device) (name : String) (match_all : Bool) :
    Consistent (device.ensure_qos_class name match_all).2 := by
  rw [Device.ensure_qos_class]
  by_cases refused : (!device.supported || !policy_name_valid name || name = "class-default") = true
  · rw [if_pos refused]
    exact consistent
  · rw [if_neg refused]
    cases device.class_named name with
    | some entry => exact consistent.write_class entry.1 { entry.2 with match_all }
    | none =>
      by_cases full : INVENTORY_LIMIT ≤ device.classes.size
      · simp only [if_pos full]
        exact consistent
      · simp only [if_neg full]
        cases Device.next_id device.classes with
        | none => exact consistent
        | some id => exact consistent.write_class id _

theorem Consistent.set_qos_class (consistent : Consistent device) (id : QosClassId) (selectors : QosClassMap) :
    Consistent (device.set_qos_class id selectors).2 := by
  rw [Device.set_qos_class]
  split
  · exact consistent
  · cases device.classes.get? id with
    | none => exact consistent
    | some target =>
      by_cases renamed : target.name ≠ selectors.name
      · simp only [if_pos renamed]
        exact consistent
      · simp only [if_neg renamed]
        exact consistent.write_class id selectors

theorem Consistent.remove_qos_class (consistent : Consistent device) (name : String) :
    Consistent (device.remove_qos_class name).2 := by
  rw [Device.remove_qos_class]
  cases device.class_named name with
  | none => exact consistent
  | some entry =>
    dsimp only
    by_cases used :
    (device.policies.values.any (fun policy => policy.classes.any (fun c => c.class = some entry.1))) = true
    · rw [if_pos used]
      exact consistent
    · rw [if_neg used]
      refine ⟨consistent.shaped,?_,consistent.bindings⟩
      intro key policy found c member named named_is
      have other : named ≠ entry.1 := by
        rintro rfl
        exact used (List.any_eq_true.mpr ⟨policy,(OrderedMap.mem_values _ _).mpr ⟨key,found⟩,
          List.any_eq_true.mpr ⟨c,member,decide_eq_true named_is⟩⟩)
      show (device.classes.erase entry.1).contains named = true
      rw [OrderedMap.contains,OrderedMap.get?_erase,if_neg other]
      exact consistent.classes key policy found c member named named_is

theorem Consistent.ensure_qos_policy (consistent : Consistent device) (name : String) :
    Consistent (device.ensure_qos_policy name).2 := by
  rw [Device.ensure_qos_policy]
  by_cases refused : (!device.supported || !policy_name_valid name) = true
  · rw [if_pos refused]
    exact consistent
  · rw [if_neg refused]
    cases device.policy_named name with
    | some entry => exact consistent
    | none =>
      by_cases full : INVENTORY_LIMIT ≤ device.policies.size
      · simp only [if_pos full]
        exact consistent
      · simp only [if_neg full]
        cases Device.next_id device.policies with
        | none => exact consistent
        | some id =>
          refine consistent.write_policy id Shaped.initial ?_
          intro entry member named named_is
          rw [List.mem_singleton.mp member] at named_is
          cases named_is

/-- The class that a command names is there. -/
theorem class_id_resolves {name : String} {named : QosClassId} (found : device.class_id name = .ok (some named)) :
    device.classes.contains named = true := by
  rw [Device.class_id] at found
  by_cases isDefault : name = "class-default"
  · rw [if_pos isDefault] at found
    cases found
  · rw [if_neg isDefault] at found
    cases entry : device.class_named name with
    | none =>
      rw [entry] at found
      cases found
    | some entry' =>
      rw [entry] at found
      cases found
      exact (OrderedMap.contains_iff _ _).mpr ⟨entry'.2,(OrderedMap.get?_eq_some _ _ _).mpr (List.mem_of_find?_eq_some entry)⟩

theorem Consistent.ensure_qos_policy_class (consistent : Consistent device) (policy : QosPolicyId) (name : String) :
    Consistent (device.ensure_qos_policy_class policy name).2 := by
  rw [Device.ensure_qos_policy_class]
  cases named : device.class_id name with
  | error error => exact consistent
  | ok id =>
    cases found : device.policies.get? policy with
    | none => exact consistent
    | some target =>
      dsimp only
      by_cases listed : (target.classes.any (fun entry => entry.class = id)) = true
      · rw [if_pos listed]
        exact consistent
      · rw [if_neg listed]
        by_cases full : 64 ≤ target.classes.length
        · rw [if_pos full]
          exact consistent
        · rw [if_neg full]
          have absent : id ∉ target.classes.map (·.class) := by
            intro member
            obtain ⟨entry,inside,same⟩ := List.mem_map.mp member
            exact listed (List.any_eq_true.mpr ⟨entry,inside,decide_eq_true same⟩)
          obtain ⟨shaped,origin⟩ := (consistent.shaped policy target found).insert (not_le.mp full) absent
          refine consistent.write_policy policy shaped ?_
          intro entry member reference reference_is
          rcases origin entry member with rfl | old
          · cases reference_is
            exact class_id_resolves named
          · exact consistent.classes policy target found entry old reference reference_is

theorem Consistent.set_qos_policy_class (consistent : Consistent device) (id : QosPolicyId) (actions : QosPolicyClass) :
    Consistent (device.set_qos_policy_class id actions).2 := by
  rw [Device.set_qos_policy_class]
  by_cases valid : actions.valid = true
  · rw [if_neg (by rw [valid]; exact Bool.false_ne_true)]
    cases found : device.policies.get? id with
    | none => exact consistent
    | some policy =>
      dsimp only
      by_cases listed : (policy.classes.any (fun entry => entry.class = actions.class)) = true
      · rw [if_pos listed]
        refine consistent.write_policy id ((consistent.shaped id policy found).replace valid) ?_
        intro entry member named named_is
        rcases mem_replace_class member with rfl | old
        · obtain ⟨target,inside,same⟩ := List.any_eq_true.mp listed
          exact consistent.classes id policy found target inside named ((of_decide_eq_true same).trans named_is)
        · exact consistent.classes id policy found entry old named named_is
      · rw [if_neg listed]
        exact consistent
  · rw [if_pos (by simpa using valid)]
    exact consistent

theorem Consistent.remove_qos_policy_class (consistent : Consistent device) (id : QosPolicyId) (name : String) :
    Consistent (device.remove_qos_policy_class id name).2 := by
  rw [Device.remove_qos_policy_class]
  cases device.class_id name with
  | error error => exact consistent
  | ok removed =>
    cases found : device.policies.get? id with
    | none => exact consistent
    | some policy =>
      cases removed with
      | none =>
        refine consistent.write_policy id ((consistent.shaped id policy found).replace (default_valid none)) ?_
        intro entry member named named_is
        rcases mem_replace_class member with rfl | old
        · cases named_is
        · exact consistent.classes id policy found entry old named named_is
      | some removed =>
        refine consistent.write_policy id ((consistent.shaped id policy found).remove removed) ?_
        intro entry member
        exact consistent.classes id policy found entry (List.mem_of_mem_filter member)

theorem Consistent.remove_qos_policy (consistent : Consistent device) (name : String) :
    Consistent (device.remove_qos_policy name).2 := by
  rw [Device.remove_qos_policy]
  cases device.policy_named name with
  | none => exact consistent
  | some entry =>
    dsimp only
    by_cases used : (device.interfaces.values.any (fun port => port.service_policy_output = some entry.1)) = true
    · rw [if_pos used]
      exact consistent
    · rw [if_neg used]
      refine ⟨?_,?_,?_⟩
      · intro key policy found
        exact consistent.shaped key policy (OrderedMap.get?_erase_some found)
      · intro key policy found
        exact consistent.classes key policy (OrderedMap.get?_erase_some found)
      · intro interface port found key bound
        have other : key ≠ entry.1 := by
          rintro rfl
          exact used (List.any_eq_true.mpr ⟨port,(OrderedMap.mem_values _ _).mpr ⟨interface,found⟩,decide_eq_true bound⟩)
        show (device.policies.erase entry.1).contains key = true
        rw [OrderedMap.contains,OrderedMap.get?_erase,if_neg other]
        exact consistent.bindings interface port found key bound

theorem Consistent.set_service_policy_output (consistent : Consistent device) (interface : InterfaceId)
    (policy : Option QosPolicyId) :
    Consistent (device.set_service_policy_output interface policy).2 := by
  rw [Device.set_service_policy_output]
  by_cases refused :
      (!(device.kinds.get? interface).any (·.is_ethernet) || policy.any (fun id => !device.policies.contains id)) = true
  · rw [if_pos refused]
    exact consistent
  · rw [if_neg refused]
    cases device.interfaces.get? interface with
    | none => exact consistent
    | some port =>
      refine ⟨consistent.shaped,consistent.classes,?_⟩
      intro key written found id bound
      dsimp only at found
      rw [OrderedMap.get?_insert] at found
      by_cases same : key = interface
      · rw [if_pos same] at found
        cases found
        have checks := Bool.or_eq_false_iff.mp (Bool.not_eq_true _ ▸ refused)
        dsimp only at bound
        rw [bound] at checks
        simpa using checks.2
      · rw [if_neg same] at found
        exact consistent.bindings key written found id bound

/-- One call, with any arguments. -/
theorem Consistent.apply (consistent : Consistent device) (operation : Operation) :
    Consistent (device.apply operation) := by
  cases operation with
  | ensure_qos_class name match_all => exact consistent.ensure_qos_class name match_all
  | set_qos_class id selectors => exact consistent.set_qos_class id selectors
  | remove_qos_class name => exact consistent.remove_qos_class name
  | ensure_qos_policy name => exact consistent.ensure_qos_policy name
  | ensure_qos_policy_class policy name => exact consistent.ensure_qos_policy_class policy name
  | set_qos_policy_class id actions => exact consistent.set_qos_policy_class id actions
  | remove_qos_policy_class id name => exact consistent.remove_qos_policy_class id name
  | remove_qos_policy name => exact consistent.remove_qos_policy name
  | set_service_policy_output interface policy => exact consistent.set_service_policy_output interface policy

theorem Consistent.run (consistent : Consistent device) (operations : List Operation) :
    Consistent (device.run operations) := by
  induction operations generalizing device with
  | nil => exact consistent
  | cons operation rest ih => exact ih (consistent.apply operation)

/-! ### Schedulers -/

/-- A rate that is valid with the usual MTU is valid with every one. -/
theorem QosRate.valid_resolve {rate : QosRate} (valid : rate.valid = true) (mtu : UInt16) :
    (rate.resolve mtu).valid = true := by
  obtain ⟨bits_per_second,burst_bytes⟩ := rate
  rw [QosRate.valid,RateLimit.valid,Bool.and_eq_true] at valid
  rw [RateLimit.valid,Bool.and_eq_true]
  refine ⟨valid.1,?_⟩
  cases burst_bytes with
  | some bytes => exact valid.2
  | none =>
    have floor : (1 : UInt64) ≤ mtu.toUInt64 + 18 := by
      have small := mtu.toNat_lt
      rw [UInt64.le_iff_toNat_le,UInt64.toNat_add,UInt16.toNat_toUInt64]
      show 1 ≤ (mtu.toNat + 18) % 2 ^ 64
      omega
    rw [Bool.and_eq_true]
    exact ⟨decide_eq_true (le_min (floor.trans (le_max_right _ _)) (by decide +kernel)),decide_eq_true (min_le_right _ _)⟩

@[simp] theorem satMul64_toNat (a b : UInt64) : (satMul64 a b).toNat = min (a.toNat * b.toNat) (2 ^ 64 - 1) := by
  rw [satMul64,UInt64.toNat_ofNat']
  exact Nat.mod_eq_of_lt (by omega)

theorem default_weight_range (policy : QosPolicyMap) (link_bps : UInt64) :
    1 ≤ Device.default_weight policy link_bps ∧ Device.default_weight policy link_bps ≤ 1000000000000 := by
  rw [Device.default_weight]
  exact ⟨le_min (le_max_right _ _) (by decide +kernel),min_le_right _ _⟩

/-- The queue of a class with valid actions is one that a scheduler takes. -/
theorem scheduling_valid {entry : QosPolicyClass} (valid : entry.valid = true) (mtu : UInt16) {weight : UInt64}
    (low : 1 ≤ weight) (high : weight ≤ 1000000000000) :
    (1 ≤ (entry.scheduling mtu weight).weight ∧ (entry.scheduling mtu weight).weight ≤ 1000000000000) ∧
      ∀ rate ∈ [(entry.scheduling mtu weight).priority,(entry.scheduling mtu weight).police,
          (entry.scheduling mtu weight).shape].reduceOption, rate.valid = true := by
  rw [QosPolicyClass.valid,Bool.and_eq_true,Bool.and_eq_true,Bool.and_eq_true] at valid
  obtain ⟨⟨⟨bandwidth,-⟩,-⟩,rates⟩ := valid
  constructor
  · rw [QosPolicyClass.scheduling]
    cases kbps : entry.bandwidth_kbps with
    | none => exact ⟨low,high⟩
    | some kbps' =>
      rw [kbps] at bandwidth
      simp only [Option.all_some,Bool.and_eq_true,decide_eq_true_eq,UInt64.le_iff_toNat_le] at bandwidth
      simp only [Option.elim_some,UInt64.le_iff_toNat_le,satMul64_toNat]
      have one : (1 : UInt64).toNat = 1 := rfl
      have thousand : (1000 : UInt64).toNat = 1000 := rfl
      have most : (1000000000 : UInt64).toNat = 1000000000 := rfl
      have top : (1000000000000 : UInt64).toNat = 1000000000000 := rfl
      rw [one,most] at bandwidth
      rw [one,thousand,top]
      omega
  · intro rate member
    rw [List.reduceOption_mem_iff] at member
    simp only [QosPolicyClass.scheduling,List.mem_cons,List.not_mem_nil,or_false] at member
    have given : ∀ field : Option QosRate, field ∈ [entry.priority,entry.police,entry.shape] →
        some rate = field.map (·.resolve mtu) →
        rate.valid = true := by
      intro field listed resolved
      obtain ⟨original,isThere,rfl⟩ := Option.map_eq_some_iff.mp resolved.symm
      refine QosRate.valid_resolve (List.all_eq_true.mp rates original ?_) mtu
      rw [List.reduceOption_mem_iff,← isThere]
      exact listed
    rcases member with isPriority | isPolice | isShape
    · exact given entry.priority (by simp) isPriority
    · exact given entry.police (by simp) isPolice
    · exact given entry.shape (by simp) isShape

/-- The queue capacity of a validated link. -/
theorem validate_queue_packets {config : LinkConfig} (valid : config.validate = .ok ()) :
    1 ≤ config.queue_packets ∧ config.queue_packets ≤ 1000000 := by
  rw [LinkConfig.validate] at valid
  by_cases loss : 1000000 < config.loss_ppm
  · rw [if_pos loss] at valid
    cases valid
  · rw [if_neg loss] at valid
    by_cases queue : config.queue_packets = 0 ∨ 1000000 < config.queue_packets
    · rw [if_pos queue] at valid
      cases valid
    · omega

/-- The classes of a well-formed policy make a scheduler. -/
theorem Shaped.schedulable (shaped : Shaped classes) (mtu : UInt16) {weight : UInt64} (low : 1 ≤ weight)
    (high : weight ≤ 1000000000000) {capacity : Nat} (some_room : 1 ≤ capacity) (limit : capacity ≤ 1000000) (T : Type*)
    (now : SimTime) :
    ∃ scheduler, QosScheduler.new (T := T) (classes.map (·.scheduling mtu weight)) capacity now = .ok scheduler := by
  refine ⟨_,if_neg ?_⟩
  obtain ⟨front,keys⟩ := shaped.default_last
  have nonempty : classes ≠ [] := by
    rintro rfl
    cases front <;> cases keys
  have few := shaped.few
  simp only [Bool.or_eq_true,List.isEmpty_iff,List.map_eq_nil_iff,List.length_map,decide_eq_true_eq,Bool.not_eq_true',
    Bool.and_eq_false_iff,decide_eq_false_iff_not,List.any_map,List.any_eq_true,not_or,not_exists,not_and,Function.comp]
  refine ⟨⟨⟨nonempty,not_lt.mpr few⟩,?_⟩,?_⟩
  · omega
  · intro entry member
    have valid := scheduling_valid (shaped.valid entry member) mtu low high
    refine ⟨⟨not_not.mpr valid.1.1,not_not.mpr valid.1.2⟩,?_⟩
    intro rate given invalid
    rw [valid.2 rate given] at invalid
    cases invalid

/-- A profile carries the classes of its policy, with the weights of the link. -/
theorem qos_profile_eq_some {interface : InterfaceId} {link_bps : Option UInt64} {profile : QosProfile}
    (found : device.qos_profile interface link_bps = some profile) :
    ∃ id policy rate, device.policies.get? id = some policy ∧
      profile.classes.map (·.scheduling) = policy.classes.map (·.scheduling profile.mtu (Device.default_weight policy rate)) := by
  rw [Device.qos_profile] at found
  cases port : device.interfaces.get? interface with
  | none =>
    rw [port] at found
    cases found
  | some port' =>
    simp only [port] at found
    cases attached : port'.service_policy_output with
    | none =>
      rw [attached] at found
      cases found
    | some id =>
      simp only [attached] at found
      cases listed : device.policies.get? id with
      | none =>
        rw [listed] at found
        cases found
      | some policy =>
        cases physical : device.kinds.get? interface with
        | none =>
          rw [listed,physical] at found
          cases found
        | some kind =>
          rw [listed,physical] at found
          cases found
          exact ⟨id,policy,link_bps.getD (if kind = .TenGigabitEthernet then 10000000000 else 1000000000),listed,List.map_map⟩

/-- Every frame has a class in every policy of a consistent device. -/
theorem Consistent.classifies (consistent : Consistent device) {id : QosPolicyId} {policy : QosPolicyMap}
    (found : device.policies.get? id = some policy) (frame : EthernetFrame) :
    ∃ i, device.qos_classify id frame = some i ∧ i < policy.classes.length := by
  rw [Device.qos_classify,found]
  refine (consistent.shaped id policy found).finds ?_
  intro entry isDefault
  rw [Device.class_matches,isDefault]

/-- QoS configuration is always schedulable: whatever the calls, policies are bounded, end in their only class-default
    and name classes that exist, interfaces name policies that exist, every frame has a class, and a scheduler accepts
    the classes of every profile. -/
theorem qos_schedulable (device_type : DeviceType) (kinds : OrderedMap InterfaceId InterfaceKind)
    (mtus : OrderedMap InterfaceId UInt16) (router : Router) (operations : List Operation) (T : Type*) :
    let device := (Device.new device_type kinds mtus router).run operations
    (∀ id policy, device.policies.get? id = some policy →
      policy.classes.length ≤ 64 ∧ (policy.classes.map (·.class)).Nodup ∧
        (∃ front, policy.classes.map (·.class) = front ++ [none] ∧ none ∉ front) ∧
        (∀ entry ∈ policy.classes, ∀ named, entry.class = some named → device.classes.contains named = true) ∧
        ∀ frame, ∃ i, device.qos_classify id frame = some i ∧ i < policy.classes.length) ∧
    (∀ interface port, device.interfaces.get? interface = some port → ∀ id, port.service_policy_output = some id →
      device.policies.contains id = true) ∧
    ∀ interface link_bps profile, device.qos_profile interface link_bps = some profile →
      ∀ config : LinkConfig, config.validate = .ok () → ∀ now, ∃ scheduler : QosScheduler T,
        QosScheduler.new (profile.classes.map (·.scheduling)) config.queue_packets now = .ok scheduler := by
  intro device
  have consistent : Consistent device := (consistent_new device_type kinds mtus router).run operations
  refine ⟨?_,consistent.bindings,?_⟩
  · intro id policy found
    have shaped := consistent.shaped id policy found
    obtain ⟨front,keys⟩ := shaped.default_last
    refine ⟨shaped.few,shaped.distinct,⟨front,keys,?_⟩,consistent.classes id policy found,consistent.classifies found⟩
    intro earlier
    have distinct := shaped.distinct
    rw [keys] at distinct
    exact (List.nodup_append.mp distinct).2.2 none earlier none (List.mem_singleton_self _) rfl
  · intro interface link_bps profile found config valid now
    obtain ⟨id,policy,rate,listed,queues⟩ := qos_profile_eq_some found
    obtain ⟨some_room,limit⟩ := validate_queue_packets valid
    obtain ⟨low,high⟩ := default_weight_range policy rate
    rw [queues]
    exact (consistent.shaped id policy listed).schedulable profile.mtu low high some_room limit T now

end Rios.QosConfig
