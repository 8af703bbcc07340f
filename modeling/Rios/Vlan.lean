import Rios.Device
import Rios.OrderedMap
import Rios.Stp
import Rios.Wire

/-!
# VLANs on the wire

Ethernet frames with their 802.1Q tags, and how a switch classifies what it
receives and tags what it sends. What is classified never carries a tag, so a tag
is put on and taken off again without a trace.
-/

namespace Rios.Vlan
open Rios.Machine Rios.Device Rios.Wire
open Rios.Stp (SwitchportMode)

/-! ### Frames -/

/-- Ethernet II payload identifiers, or an IEEE 802.3 payload length. -/
inductive EtherType where
  | Ipv4
  | Ipv6
  | Arp
  | Dot1Q
  | Other (value : UInt16)
  | Length (value : UInt16)
deriving DecidableEq

namespace EtherType

/-- `From<u16>`. -/
def of_u16 (value : UInt16) : EtherType :=
  if value = 0x0800 then .Ipv4
  else if value = 0x86dd then .Ipv6
  else if value = 0x0806 then .Arp
  else if value = 0x8100 then .Dot1Q
  else if 3 ≤ value ∧ value ≤ 1500 then .Length value
  else .Other value

/-- `u16::from`. -/
def to_u16 : EtherType → UInt16
  | .Ipv4 => 0x0800
  | .Ipv6 => 0x86dd
  | .Arp => 0x0806
  | .Dot1Q => 0x8100
  | .Other value => value
  | .Length value => value

/-- A type in the form that decoding gives it. -/
def Normal (self : EtherType) : Prop := of_u16 self.to_u16 = self

theorem of_u16_normal (value : UInt16) : (of_u16 value).Normal := by
  unfold Normal
  by_cases ipv4 : value = 0x0800
  · subst ipv4; rfl
  by_cases ipv6 : value = 0x86dd
  · subst ipv6; rfl
  by_cases arp : value = 0x0806
  · subst arp; rfl
  by_cases tag : value = 0x8100
  · subst tag; rfl
  have whole : (of_u16 value).to_u16 = value := by
    simp only [of_u16,ipv4,ipv6,arp,tag,if_false]
    split_ifs <;> rfl
  rw [whole]

theorem to_u16_of_u16 (value : UInt16) : (of_u16 value).to_u16 = value := by
  unfold of_u16
  split_ifs with ipv4 ipv6 arp tag <;> simp_all [to_u16]

theorem Normal.eq_dot1q {self : EtherType} (normal : self.Normal) (tag : self.to_u16 = 0x8100) : self = .Dot1Q := by
  rw [← normal,tag]
  rfl

end EtherType

/-- A logical Ethernet II or IEEE 802.3 LLC frame. -/
structure EthernetFrame where
  destination : MacAddress
  source : MacAddress
  ethertype : EtherType
  payload : List UInt8
deriving DecidableEq

/-- Valid IEEE 802.1Q VLAN identifier. -/
@[ext] structure VlanId where
  value : UInt16
  valid : 1 ≤ value ∧ value ≤ 4094
deriving DecidableEq

namespace VlanId

def new (value : UInt16) : Option VlanId :=
  if valid : 1 ≤ value ∧ value ≤ 4094 then some ⟨value,valid⟩ else none

@[simp] theorem new_value (self : VlanId) : new self.value = some self := dif_pos self.valid

/-- An identifier fills the low twelve bits of a tag. -/
theorem value_masked (self : VlanId) : self.value &&& 0x0fff = self.value := by
  have small := UInt16.le_iff_toNat_le.mp self.valid.2
  apply UInt16.toNat.inj
  rw [UInt16.toNat_and]
  change self.value.toNat &&& (2 ^ 12 - 1) = self.value.toNat
  rw [Nat.and_two_pow_sub_one_eq_mod]
  change self.value.toNat ≤ 4094 at small
  omega

end VlanId

inductive FrameError where
  | Truncated
  | LengthField
  | InvalidVlanTag
deriving DecidableEq

namespace EthernetFrame

/-- Validate the Ethernet II type or an exact IEEE 802.3 payload length. -/
def valid_length_or_type (self : EthernetFrame) : Bool :=
  match self.ethertype with
  | .Length length => (3 ≤ length && length ≤ 1500) && length.toNat = self.payload.length
  | other => 1536 ≤ other.to_u16

/-- Wrap a frame payload in a single 802.1Q tag with priority zero. -/
def tagged (self : EthernetFrame) (vlan : VlanId) : EthernetFrame :=
  { self with
    ethertype := .Dot1Q
    payload := be16 vlan.value ++ (be16 self.ethertype.to_u16 ++ self.payload) }

/-- Remove one 802.1Q tag and return its VLAN and inner Ethernet frame. -/
def untagged (self : EthernetFrame) : Except FrameError (VlanId × EthernetFrame) :=
  if self.ethertype ≠ .Dot1Q ∨ self.payload.length < 4 then .error .InvalidVlanTag
  else
    let tci := u16_at self.payload 0
    match VlanId.new (tci &&& 0x0fff) with
    | none => .error .InvalidVlanTag
    | some vlan =>
      let inner := u16_at self.payload 2
      if (inner < 0x0600 ∧ (¬ (3 ≤ inner ∧ inner ≤ 1500) ∨ inner.toNat ≠ self.payload.length - 4)) ∨
          inner = EtherType.Dot1Q.to_u16 then .error .InvalidVlanTag
      else .ok (vlan,{ self with ethertype := .of_u16 inner, payload := self.payload.drop 4 })

/-- A frame without a tag whose type survives the wire. -/
structure Plain (frame : EthernetFrame) : Prop where
  bare : frame.ethertype ≠ .Dot1Q
  normal : frame.ethertype.Normal
  valid : frame.valid_length_or_type = true

/-- What a valid type of a frame is inside a tag. -/
theorem Plain.inner {frame : EthernetFrame} (plain : frame.Plain) :
    ¬ ((frame.ethertype.to_u16 < 0x0600 ∧ (¬ (3 ≤ frame.ethertype.to_u16 ∧ frame.ethertype.to_u16 ≤ 1500) ∨
      frame.ethertype.to_u16.toNat ≠ frame.payload.length)) ∨ frame.ethertype.to_u16 = EtherType.Dot1Q.to_u16) := by
  have valid := plain.valid
  have other : frame.ethertype.to_u16 ≠ EtherType.Dot1Q.to_u16 :=
    fun tag => plain.bare (plain.normal.eq_dot1q tag)
  rintro (⟨short,wrong⟩ | tag)
  · unfold valid_length_or_type at valid
    cases type : frame.ethertype with
    | Length length =>
      simp only [type,Bool.and_eq_true,decide_eq_true_eq] at valid
      simp only [type,EtherType.to_u16] at wrong
      rcases wrong with outside | wrong
      · exact outside valid.1
      · exact wrong valid.2
    | _ =>
      simp only [type,decide_eq_true_eq] at valid
      rw [type] at short
      exact absurd (valid.trans_lt short) (by decide)
  · exact other tag

/-- Taking off a tag that was put on gives back the frame. -/
theorem untagged_tagged {frame : EthernetFrame} (plain : frame.Plain) (vlan : VlanId) :
    (frame.tagged vlan).untagged = .ok (vlan,frame) := by
  have inner := plain.inner
  have tci : u16_at (be16 vlan.value ++ (be16 frame.ethertype.to_u16 ++ frame.payload)) 0 = vlan.value := u16_at_be16 ..
  have type : u16_at (be16 vlan.value ++ (be16 frame.ethertype.to_u16 ++ frame.payload)) 2 = frame.ethertype.to_u16 :=
    u16_at_be16 frame.ethertype.to_u16 frame.payload
  have rest : (be16 vlan.value ++ (be16 frame.ethertype.to_u16 ++ frame.payload)).drop 4 = frame.payload := rfl
  have length : (be16 vlan.value ++ (be16 frame.ethertype.to_u16 ++ frame.payload)).length - 4 = frame.payload.length := by
    simp only [List.length_append,be16_length]
    omega
  have enough : ¬ ((frame.tagged vlan).ethertype ≠ .Dot1Q ∨ (frame.tagged vlan).payload.length < 4) := by
    simp only [tagged,List.length_append,be16_length,ne_eq,not_true_eq_false,false_or]
    omega
  unfold untagged
  rw [if_neg enough]
  simp only [tagged,tci,type,rest,length,vlan.value_masked,VlanId.new_value]
  rw [if_neg inner,show EtherType.of_u16 frame.ethertype.to_u16 = frame.ethertype from plain.normal]

/-- What comes out of a tag is plain. -/
theorem untagged_plain {frame inner : EthernetFrame} {vlan : VlanId} (read : frame.untagged = .ok (vlan,inner)) :
    inner.Plain := by
  unfold untagged at read
  split_ifs at read with missing
  cases known : VlanId.new (u16_at frame.payload 0 &&& 0x0fff) with
  | none => simp only [known] at read; cases read
  | some id =>
    simp only [known] at read
    split_ifs at read with bad
    obtain ⟨rfl,rfl⟩ : id = vlan ∧ _ = inner := by simpa using read
    simp only [not_or,not_and,not_not] at bad
    obtain ⟨length,other⟩ := bad
    have enough : 4 ≤ frame.payload.length := by
      simp only [not_or,not_lt] at missing
      exact missing.2
    refine ⟨fun tag => other ?_,EtherType.of_u16_normal _,?_⟩
    · change EtherType.of_u16 _ = _ at tag
      rw [← EtherType.to_u16_of_u16 (u16_at frame.payload 2),tag]
    · simp only [valid_length_or_type]
      cases type : EtherType.of_u16 (u16_at frame.payload 2) with
      | Length value =>
        have same : value = u16_at frame.payload 2 := by
          rw [← EtherType.to_u16_of_u16 (u16_at frame.payload 2),type]
          rfl
        have range : 3 ≤ value ∧ value ≤ 1500 := by
          rw [same]
          unfold EtherType.of_u16 at type
          split_ifs at type with _ _ _ _ inside
          exact inside
        have small : u16_at frame.payload 2 < 0x0600 := by
          rw [← same]
          exact lt_of_le_of_lt range.2 (by decide)
        simp only [Bool.and_eq_true,decide_eq_true_eq,List.length_drop]
        rw [same] at range ⊢
        exact ⟨range,(length small).2⟩
      | _ =>
        simp only [decide_eq_true_eq]
        rw [← type,EtherType.to_u16_of_u16]
        by_contra less
        have small : u16_at frame.payload 2 < 0x0600 := not_le.mp less
        have range := (length small).1
        unfold EtherType.of_u16 at type
        split_ifs at type
        simp_all

end EthernetFrame

/-! ### Switchports -/

/-- Layer 2 switch-port policy. -/
structure SwitchportConfig where
  mode : SwitchportMode
  access_vlan : VlanId
  native_vlan : VlanId
  trunk_allowed_vlans : Option (Finset VlanId)
deriving DecidableEq

/-- The ports of a switch with their policy, absent on routed ports, and the VLANs it has. -/
structure Switch where
  interfaces : OrderedMap InterfaceId (Option SwitchportConfig)
  vlans : Finset VlanId

namespace SwitchportConfig

/-- Whether a VLAN may pass a trunk. -/
def permits (self : SwitchportConfig) (vlan : VlanId) : Bool := self.trunk_allowed_vlans.all (fun allowed => vlan ∈ allowed)

/-- The VLAN of a received frame and the frame without its tag. -/
def admitted (self : SwitchportConfig) (frame : EthernetFrame) : Option (VlanId × EthernetFrame) :=
  match self.mode with
  | .Access => if frame.ethertype ≠ .Dot1Q then some (self.access_vlan,frame) else none
  | .Trunk => if frame.ethertype = .Dot1Q then frame.untagged.toOption else some (self.native_vlan,frame)

end SwitchportConfig

namespace Switch

def switchport (self : Switch) (id : InterfaceId) : Option SwitchportConfig := (self.interfaces.get? id).bind (·)

/-- Classify switch ingress and remove a permitted trunk tag. -/
def classify_switch_ingress (self : Switch) (id : InterfaceId) (frame : EthernetFrame) : Option (VlanId × EthernetFrame) :=
  match self.switchport id with
  | none => none
  | some port =>
    match port.admitted frame with
    | none => none
    | some (vlan,frame) =>
      if (port.mode = .Access ∨ port.permits vlan) ∧ vlan ∈ self.vlans then some (vlan,frame) else none

/-- Apply access/trunk encapsulation for a permitted switch egress. -/
def prepare_switch_egress (self : Switch) (id : InterfaceId) (vlan : VlanId) (frame : EthernetFrame) :
    Option EthernetFrame :=
  match self.switchport id with
  | none => none
  | some port =>
    match port.mode with
    | .Access => if port.access_vlan = vlan then some frame else none
    | .Trunk => if port.permits vlan then some (if port.native_vlan = vlan then frame else frame.tagged vlan) else none

end Switch

/-- Ports that agree on how they mark the VLAN of a frame. -/
structure Agree (sender receiver : SwitchportConfig) : Prop where
  mode : receiver.mode = sender.mode
  access : sender.mode = .Access → receiver.access_vlan = sender.access_vlan
  native : sender.mode = .Trunk → receiver.native_vlan = sender.native_vlan

variable {switch : Switch} {frame inner wire : EthernetFrame} {vlan : VlanId} {id : InterfaceId}

theorem admitted_plain {port : SwitchportConfig} (normal : frame.ethertype.Normal)
    (valid : frame.valid_length_or_type = true) (admitted : port.admitted frame = some (vlan,inner)) : inner.Plain := by
  unfold SwitchportConfig.admitted at admitted
  cases mode : port.mode with
  | Access =>
    simp only [mode] at admitted
    split_ifs at admitted with plain
    obtain ⟨-,rfl⟩ : port.access_vlan = vlan ∧ frame = inner := by simpa using admitted
    exact ⟨plain,normal,valid⟩
  | Trunk =>
    simp only [mode] at admitted
    split_ifs at admitted with tag
    · cases read : frame.untagged with
      | error error => rw [read] at admitted; cases admitted
      | ok result =>
        rw [read] at admitted
        cases admitted
        exact EthernetFrame.untagged_plain read
    · obtain ⟨-,rfl⟩ : port.native_vlan = vlan ∧ frame = inner := by simpa using admitted
      exact ⟨tag,normal,valid⟩

/-- A classified frame is plain. -/
theorem classified_plain (normal : frame.ethertype.Normal) (valid : frame.valid_length_or_type = true)
    (classified : switch.classify_switch_ingress id frame = some (vlan,inner)) : inner.Plain := by
  unfold Switch.classify_switch_ingress at classified
  cases known : switch.switchport id with
  | none => simp only [known] at classified; cases classified
  | some port =>
    simp only [known] at classified
    cases admitted : port.admitted frame with
    | none => simp only [admitted] at classified; cases classified
    | some result =>
      obtain ⟨found,content⟩ := result
      simp only [admitted] at classified
      split_ifs at classified
      obtain ⟨rfl,rfl⟩ : found = vlan ∧ content = inner := by simpa using classified
      exact admitted_plain normal valid admitted

/-- The other end of a cable reads what was sent as it was meant. -/
theorem admitted_sent {sender receiver : SwitchportConfig} (plain : inner.Plain) (known : switch.switchport id = some sender)
    (sent : switch.prepare_switch_egress id vlan inner = some wire) (agree : Agree sender receiver) :
    receiver.admitted wire = some (vlan,inner) := by
  unfold Switch.prepare_switch_egress at sent
  simp only [known] at sent
  unfold SwitchportConfig.admitted
  rw [agree.mode]
  cases mode : sender.mode with
  | Access =>
    simp only [mode] at sent ⊢
    split_ifs at sent with own
    obtain rfl : inner = wire := by simpa using sent
    rw [if_pos plain.bare,agree.access mode,own]
  | Trunk =>
    simp only [mode] at sent ⊢
    split_ifs at sent with permitted native
    · obtain rfl : inner = wire := by simpa using sent
      rw [if_neg plain.bare,agree.native mode,native]
    · obtain rfl : inner.tagged vlan = wire := by simpa using sent
      have tag : (inner.tagged vlan).ethertype = .Dot1Q := rfl
      rw [if_pos tag,EthernetFrame.untagged_tagged plain]
      rfl

/-- What the other switch makes of a frame: the same, or nothing. -/
theorem classified_sent {other : Switch} {port : InterfaceId} {sender receiver : SwitchportConfig} (plain : inner.Plain)
    (known : switch.switchport id = some sender) (sent : switch.prepare_switch_egress id vlan inner = some wire)
    (far : other.switchport port = some receiver) (agree : Agree sender receiver) :
    other.classify_switch_ingress port wire =
      if (receiver.mode = .Access ∨ receiver.permits vlan) ∧ vlan ∈ other.vlans then some (vlan,inner) else none := by
  unfold Switch.classify_switch_ingress
  simp only [far,admitted_sent plain known sent agree]

/-! ### Paths -/

/-- A switch on the way of a frame, with the ports it enters and leaves by. -/
structure Hop where
  switch : Switch
  ingress : InterfaceId
  egress : InterfaceId

/-- How the switches of a path classify a frame, as far as it gets. -/
def classifications (frame : EthernetFrame) : List Hop → List (VlanId × EthernetFrame)
  | [] => []
  | hop :: rest =>
    match hop.switch.classify_switch_ingress hop.ingress frame with
    | none => []
    | some (vlan,inner) =>
      (vlan,inner) ::
        match hop.switch.prepare_switch_egress hop.egress vlan inner with
        | none => []
        | some wire => classifications wire rest

/-- Switchports at the two ends of a cable that agree. -/
def Cabled (first second : Hop) : Prop :=
  ∃ sender receiver, first.switch.switchport first.egress = some sender ∧
    second.switch.switchport second.ingress = some receiver ∧ Agree sender receiver

/-- Behind a switch that classified a plain frame nothing else is seen. -/
theorem classifications_sent {hop : Hop} {rest : List Hop} (plain : inner.Plain) (path : (hop :: rest).IsChain Cabled)
    (sent : hop.switch.prepare_switch_egress hop.egress vlan inner = some wire) :
    ∀ seen ∈ classifications wire rest, seen = (vlan,inner) := by
  induction rest generalizing hop wire with
  | nil =>
    intro seen member
    cases member
  | cons next rest ih =>
    obtain ⟨⟨sender,receiver,known,far,agree⟩,behind⟩ := List.isChain_cons_cons.mp path
    intro seen member
    unfold classifications at member
    rw [classified_sent plain known sent far agree] at member
    split_ifs at member with open_
    · simp only [List.mem_cons] at member
      rcases member with rfl | member
      · rfl
      · cases onward : next.switch.prepare_switch_egress next.egress vlan inner with
        | none => simp [onward] at member
        | some wire =>
          simp only [onward] at member
          exact ih behind onward seen member
    · cases member

/-- A frame keeps its VLAN and its content from switch to switch. -/
theorem vlans_isolated (normal : frame.ethertype.Normal) (valid : frame.valid_length_or_type = true) :
    (∀ (switch : Switch) (ingress egress : InterfaceId) (vlan : VlanId) (inner wire : EthernetFrame),
      switch.classify_switch_ingress ingress frame = some (vlan,inner) →
      switch.prepare_switch_egress egress vlan inner = some wire →
      ∀ (other : Switch) (port : InterfaceId) (sender receiver : SwitchportConfig),
        switch.switchport egress = some sender → other.switchport port = some receiver → Agree sender receiver →
        (other.classify_switch_ingress port wire = some (vlan,inner) ∨ other.classify_switch_ingress port wire = none) ∧
        (vlan ∈ other.vlans → receiver.mode = .Access ∨ receiver.permits vlan = true →
          other.classify_switch_ingress port wire = some (vlan,inner))) ∧
    ∀ (path : List Hop), path.IsChain Cabled →
      ∀ first ∈ (classifications frame path).head?, ∀ seen ∈ classifications frame path, seen = first := by
  refine ⟨?_,?_⟩
  · intro switch ingress egress vlan inner wire classified sent other port sender receiver known far agree
    have plain := classified_plain normal valid classified
    rw [classified_sent plain known sent far agree]
    refine ⟨?_,fun present allowed => if_pos ⟨allowed,present⟩⟩
    split_ifs
    · exact .inl rfl
    · exact .inr rfl
  · intro path chain first isFirst seen member
    cases path with
    | nil => cases member
    | cons hop rest =>
      unfold classifications at isFirst member
      cases classified : hop.switch.classify_switch_ingress hop.ingress frame with
      | none => simp only [classified] at member; cases member
      | some result =>
        obtain ⟨vlan,inner⟩ := result
        simp only [classified] at isFirst member
        obtain rfl : (vlan,inner) = first := by simpa using isFirst
        rcases List.mem_cons.mp member with rfl | member
        · rfl
        · cases sent : hop.switch.prepare_switch_egress hop.egress vlan inner with
          | none => simp only [sent] at member; cases member
          | some wire =>
            simp only [sent] at member
            exact classifications_sent (classified_plain normal valid classified) chain sent seen member

def vlan_one : VlanId := ⟨1,by decide⟩

def vlan_ten : VlanId := ⟨10,by decide⟩

/-- A switch with an access port in VLAN 10 and a trunk. -/
def edge_switch : Switch :=
  ⟨.ofList [(1,some ⟨.Access,vlan_ten,vlan_one,none⟩),(2,some ⟨.Trunk,vlan_one,vlan_one,none⟩)],{vlan_one,vlan_ten}⟩

def probe : EthernetFrame := ⟨⟨Vector.replicate 6 255⟩,⟨Vector.replicate 6 2⟩,.Ipv4,[69,0,0,20]⟩

theorem vlans_isolated_probe :
    edge_switch.classify_switch_ingress 2 (probe.tagged vlan_ten) = some (vlan_ten,probe) := by
  have apart := @vlans_isolated probe rfl (by decide)
  refine (apart.1 edge_switch 1 2 vlan_ten probe (probe.tagged vlan_ten) ?_ ?_ edge_switch 2
    ⟨.Trunk,vlan_one,vlan_one,none⟩ ⟨.Trunk,vlan_one,vlan_one,none⟩ rfl rfl ⟨rfl,fun _ => rfl,fun _ => rfl⟩).2 ?_ (.inr rfl)
  · decide +kernel
  · decide +kernel
  · decide +kernel

end Rios.Vlan
