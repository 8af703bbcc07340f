import Rios.Device
import Rios.Lacp
import Rios.Vlan

/-!
# Configuring switchports

The interfaces of a switch under the commands of its configuration: Layer 2
policy, EtherChannels, and the rendering that replays as commands. Whatever else
an interface has configured is a parameter, which these commands only look into
for addresses.
-/

namespace Rios.Switchports
open Rios.Device Rios.Vlan
open Rios.Stp (SwitchportMode)
open Rios.Lacp (ChannelMode ChannelMembership)

/-! ### Names -/

inductive PhysicalKind where
  | GigabitEthernet
  | TenGigabitEthernet
  | Serial
  | Console
deriving DecidableEq

/-- A canonical interface name. -/
inductive InterfaceName where
  | Physical (kind : PhysicalKind) (numbers : List UInt16)
  | EthernetSubinterface (kind : PhysicalKind) (numbers : List UInt16) (number : UInt32)
  | PortChannel (number : UInt16)
  | Loopback (number : UInt16)
  | Vlan (number : UInt16)
deriving DecidableEq

namespace InterfaceName

/-- The number of a port channel: `port_channel` of its configuration. -/
def port_channel : InterfaceName → Option UInt16
  | .PortChannel number => some number
  | _ => none

def is_ethernet : InterfaceName → Bool
  | .Physical .GigabitEthernet _ | .Physical .TenGigabitEthernet _ => true
  | _ => false

def is_physical : InterfaceName → Bool
  | .Physical .. => true
  | _ => false

/-- The physical interface behind a subinterface. -/
def parent : InterfaceName → Option InterfaceName
  | .EthernetSubinterface kind numbers _ => some (.Physical kind numbers)
  | _ => none

def kind : InterfaceName → Option PhysicalKind
  | .Physical kind _ => some kind
  | _ => none

/-- What `canonical_interface` accepts. -/
def valid : InterfaceName → Bool
  | .Physical .Console numbers => numbers.length = 1
  | .Physical _ numbers => numbers.length = 2 ∨ numbers.length = 3
  | .EthernetSubinterface kind numbers number =>
    (kind = .GigabitEthernet ∨ kind = .TenGigabitEthernet) ∧ (numbers.length = 2 ∨ numbers.length = 3) ∧ number ≠ 0
  | .PortChannel number => 1 ≤ number ∧ number ≤ 4096
  | .Loopback _ => true
  | .Vlan number => 1 ≤ number ∧ number ≤ 4094

/-- `interface_sequence`: what stands before the last number, and that number if it has sixteen bits. -/
def interface_sequence : InterfaceName → Option (InterfaceName × Nat)
  | .Physical kind numbers => numbers.getLast?.map (fun last => (.Physical kind numbers.dropLast,last.toNat))
  | .EthernetSubinterface kind numbers number =>
    if number.toNat < 2 ^ 16 then some (.EthernetSubinterface kind numbers 0,number.toNat) else none
  | .PortChannel number => some (.PortChannel 0,number.toNat)
  | .Loopback number => some (.Loopback 0,number.toNat)
  | .Vlan number => some (.Vlan 0,number.toNat)

end InterfaceName

/-! ### Devices -/

theorem default_valid : (1 : UInt16) ≤ 1 ∧ (1 : UInt16) ≤ 4094 := by decide

/-- `VlanId::DEFAULT`. -/
def DEFAULT : VlanId := ⟨1,default_valid⟩

/-- `SwitchportConfig::default`. -/
def default_switchport : SwitchportConfig := ⟨.Access,DEFAULT,DEFAULT,none⟩

/-- Rejected configuration commands; another command's error is `Other`. -/
inductive ConfigError where
  | MissingInterface
  | InvalidInterface
  | NotSwitchport
  | NotRoutedPort
  | InvalidChannel
  | WrongMode
  | Other
deriving DecidableEq

/-- An interface with its Layer 2 policy, absent on routed ports, its channel group and the rest
    of its configuration. -/
structure InterfaceConfig (ρ : Type) where
  name : InterfaceName
  switchport : Option SwitchportConfig
  channel_group : Option ChannelMembership
  rest : ρ

/-- The interfaces of a device, in the order of their identifiers, which count them. -/
structure Device (ρ : Type) where
  device_type : DeviceType
  interfaces : List (InterfaceConfig ρ)

/-- The rest of an interface's configuration: as a new interface has it, without the addresses that a
    switchport gives up, and whether it has addresses. -/
class InterfacePolicy (ρ : Type) where
  initial : DeviceType → InterfaceName → ρ
  switched : ρ → ρ
  routed : ρ → Bool

/-- `supports_switching`. -/
def supports_switching : DeviceType → Bool
  | .Switch | .Layer3Switch => true
  | .Router | .Host => false

namespace Device
variable {ρ : Type}

def find_interface (self : Device ρ) (name : InterfaceName) : Option (InterfaceConfig ρ) :=
  self.interfaces.find? (fun config => config.name = name)

/-- The policy of an interface, if there is one with the name. -/
def switchport (self : Device ρ) (name : InterfaceName) : Option (Option SwitchportConfig) :=
  (self.find_interface name).map (·.switchport)

def is_switchport (self : Device ρ) (name : InterfaceName) : Bool := (self.switchport name).any (·.isSome)

/-- Change the configuration of one interface. -/
def modify (self : Device ρ) (name : InterfaceName) (change : InterfaceConfig ρ → InterfaceConfig ρ) : Device ρ :=
  { self with interfaces := self.interfaces.map (fun config => if config.name = name then change config else config) }

/-- `switchport_capable`: Ethernet ports and port channels of a device that switches. -/
def switchport_capable (self : Device ρ) (name : InterfaceName) : Bool :=
  supports_switching self.device_type && (name.is_ethernet || name.port_channel.isSome)

/-! ### Creating interfaces -/

section
variable [InterfacePolicy ρ]

/-- The configuration of a new interface. -/
def new_interface (device_type : DeviceType) (name : InterfaceName) : InterfaceConfig ρ :=
  ⟨name,if supports_switching device_type && name.is_ethernet then some default_switchport else none,none,
    InterfacePolicy.initial device_type name⟩

def insert_interface (self : Device ρ) (name : InterfaceName) : Except ConfigError (Device ρ) :=
  if (self.find_interface name).isSome then .ok self
  else if 65535 ≤ self.interfaces.length then .error .InvalidInterface
  else .ok { self with interfaces := self.interfaces ++ [new_interface self.device_type name] }

def create_subinterface (self : Device ρ) (name parent : InterfaceName) : Except ConfigError (Device ρ) :=
  if !self.device_type.supports_routing then .error .NotRoutedPort
  else if (self.find_interface parent).isNone then .error .InvalidInterface
  else if self.is_switchport parent then .error .NotRoutedPort
  else self.insert_interface name

def create_port_channel (self : Device ρ) (name : InterfaceName) : Except ConfigError (Device ρ) :=
  if !self.device_type.supports_routing && !supports_switching self.device_type then .error .InvalidChannel
  else do
    let device ← self.insert_interface name
    .ok (device.modify name (fun config =>
      { config with switchport := if supports_switching self.device_type then some default_switchport else none }))

/-- Enter an existing interface or create a validated logical interface. -/
def ensure_interface (self : Device ρ) (name : InterfaceName) : Except ConfigError (Device ρ) :=
  if !name.valid then .error .InvalidInterface
  else if (self.find_interface name).isSome then .ok self
  else if name.is_physical then .error .InvalidInterface
  else
    match name.parent with
    | some parent => self.create_subinterface name parent
    | none => if name.port_channel.isSome then self.create_port_channel name else self.insert_interface name

end

/-! ### Switchports -/

/-- The members of a port channel take over its policy. -/
def sync_channel_switchports (self : Device ρ) (name : InterfaceName) : Device ρ :=
  match name.port_channel, self.find_interface name with
  | some number, some logical =>
    { self with interfaces := self.interfaces.map (fun config =>
        if config.channel_group.any (·.number = number) then { config with switchport := logical.switchport } else config) }
  | _, _ => self

/-- Replace the policy of an interface and of the members of a channel. -/
def put_switchport (self : Device ρ) (name : InterfaceName) (policy : Option SwitchportConfig) : Device ρ :=
  (self.modify name (fun config => { config with switchport := policy })).sync_channel_switchports name

/-- A setter on `switchport_mut`. -/
def set_switchport (self : Device ρ) (name : InterfaceName) (set : SwitchportConfig → SwitchportConfig) :
    Except ConfigError (Device ρ) :=
  match self.switchport name with
  | none => .error .MissingInterface
  | some none => .error .NotSwitchport
  | some (some policy) => .ok (self.put_switchport name (some (set policy)))

/-- Put an Ethernet port into Layer 2 switchport mode. -/
def enable_switchport [InterfacePolicy ρ] (self : Device ρ) (name : InterfaceName) : Except ConfigError (Device ρ) :=
  if !self.switchport_capable name then .error .NotSwitchport
  else
    match self.find_interface name with
    | none => .error .NotSwitchport
    | some config =>
      .ok ((self.modify name (fun config => { config with rest := InterfacePolicy.switched config.rest })).put_switchport name
        (some (config.switchport.getD default_switchport)))

/-- Put a Layer 3 switch Ethernet port into routed mode. -/
def disable_switchport (self : Device ρ) (name : InterfaceName) : Except ConfigError (Device ρ) :=
  if self.device_type ≠ .Layer3Switch || (self.find_interface name).isNone ||
      !(name.is_ethernet || name.port_channel.isSome) then .error .NotRoutedPort
  else .ok (self.put_switchport name none)

/-- Select access or trunk mode on a physical switch port. -/
def set_switchport_mode [InterfacePolicy ρ] (self : Device ρ) (name : InterfaceName) (mode : SwitchportMode) :
    Except ConfigError (Device ρ) := do
  let device ← if self.device_type = .Layer3Switch ∧
      ¬ self.is_switchport name then self.enable_switchport name else .ok self
  device.set_switchport name ({ · with mode := mode })

/-- Assign the untagged access VLAN for a physical switch port. -/
def set_access_vlan (self : Device ρ) (name : InterfaceName) (vlan : VlanId) : Except ConfigError (Device ρ) :=
  self.set_switchport name ({ · with access_vlan := vlan })

/-- Select the VLAN used for untagged traffic on a trunk. -/
def set_native_vlan (self : Device ρ) (name : InterfaceName) (vlan : VlanId) : Except ConfigError (Device ρ) :=
  self.set_switchport name ({ · with native_vlan := vlan })

/-- Replace the VLAN allow-list for a trunk port. -/
def set_trunk_allowed_vlans (self : Device ρ) (name : InterfaceName) (vlans : Finset VlanId) :
    Except ConfigError (Device ρ) :=
  self.set_switchport name ({ · with trunk_allowed_vlans := some vlans })

/-! ### EtherChannels -/

/-- The other members of a channel. -/
def others (self : Device ρ) (name : InterfaceName) (number : UInt16) : List (InterfaceConfig ρ) :=
  self.interfaces.filter (fun config => config.name ≠ name ∧ config.channel_group.any (·.number = number))

/-- The port channel of a number, created with a policy if there is none; one that is there must have that policy. -/
def ensure_channel [InterfacePolicy ρ] (self : Device ρ) (number : UInt16) (policy : Option SwitchportConfig) :
    Except ConfigError (Device ρ) :=
  match self.switchport (.PortChannel number) with
  | some known => if known ≠ policy then .error .InvalidChannel else .ok self
  | none => do
    let device ← self.create_port_channel (.PortChannel number)
    .ok (device.modify (.PortChannel number) (fun config => { config with switchport := policy }))

/-- Add a physical port to a compatible bundle (at most eight members). -/
def set_channel_group [InterfacePolicy ρ] (self : Device ρ) (name : InterfaceName) (number : UInt16)
    (mode : ChannelMode) :
    Except ConfigError (Device ρ) :=
  if number = 0 ∨ 4096 < number ∨ ¬ name.is_ethernet then .error .InvalidChannel
  else
    match self.find_interface name with
    | none => .error .InvalidChannel
    | some config =>
      if InterfacePolicy.routed config.rest || config.channel_group.any (·.number ≠ number) ||
          self.interfaces.any (fun other => other.name.parent = some name) then .error .InvalidChannel
      else if 8 ≤ (self.others name number).length ∨ (self.others name number).any (fun other =>
          other.name.kind ≠ name.kind || other.channel_group.any (fun group => (group.mode = .On) ≠ (mode = .On))) then
        .error .InvalidChannel
      else do
        let device ← self.ensure_channel number config.switchport
        .ok (device.modify name (fun config => { config with channel_group := some ⟨number,mode⟩ }))

/-- Remove membership without deleting the logical interface. -/
def clear_channel_group (self : Device ρ) (name : InterfaceName) : Except ConfigError (Device ρ) :=
  if (self.find_interface name).isNone then .error .MissingInterface
  else .ok (self.modify name (fun config => { config with channel_group := none }))

end Device

/-! ### Commands -/

inductive CliMode where
  | GlobalConfiguration
  | InterfaceConfiguration (name : InterfaceName)
  | InterfaceRangeConfiguration (first last : InterfaceName)
deriving DecidableEq

/-- A command without a part in switchports: it looks at the device and changes the rest of the interfaces, or fails. -/
abbrev OtherCommand (ρ : Type) := Device ρ → CliMode → Except ConfigError (InterfaceName → ρ → ρ)

inductive Command (ρ : Type) where
  | EnterInterface (name : InterfaceName)
  | EnterInterfaceRange (first last : InterfaceName)
  | SetSwitchportMode (mode : SwitchportMode)
  | SetAccessVlan (vlan : VlanId)
  | SetNativeVlan (vlan : VlanId)
  | SetTrunkAllowedVlans (vlans : Finset VlanId)
  | Switchport
  | NoSwitchport
  | SetChannelGroup (number : UInt16) (mode : ChannelMode)
  | ClearChannelGroup
  | SetNatOverload (outside_interface : InterfaceName) (rule : OtherCommand ρ)
  | Other (command : OtherCommand ρ)

namespace Device
variable {ρ : Type}

/-- The interfaces from one to another, as their names count. -/
def interface_range (self : Device ρ) (first last : InterfaceName) : Except ConfigError (List InterfaceName) :=
  if (self.find_interface first).isNone ∨ (self.find_interface last).isNone then .error .MissingInterface
  else
    match first.interface_sequence, last.interface_sequence with
    | some (stem,low), some (end_,high) =>
      if stem ≠ end_ ∨ high < low then .error .InvalidInterface
      else .ok ((self.interfaces.map (·.name)).filter (fun name =>
        name.interface_sequence.any (fun sequence => sequence.1 = stem ∧ low ≤ sequence.2 ∧ sequence.2 ≤ high)))
    | _, _ => .error .InvalidInterface

/-- Edit the selected interfaces one after the other, or none of them. -/
def edit_interfaces (self : Device ρ) (mode : CliMode) (edit : Device ρ → InterfaceName → Except ConfigError (Device ρ)) :
    Except ConfigError (Device ρ) :=
  match mode with
  | .GlobalConfiguration => .error .WrongMode
  | .InterfaceConfiguration name => edit self name
  | .InterfaceRangeConfiguration first last => do (← self.interface_range first last).foldlM edit self

/-- Change the rest of the interfaces. -/
def other (self : Device ρ) (mode : CliMode) (command : OtherCommand ρ) : Except ConfigError (Device ρ) := do
  let change ← command self mode
  .ok { self with interfaces := self.interfaces.map (fun config => { config with rest := change config.name config.rest }) }

variable [InterfacePolicy ρ]

/-- Execute a command in a mode, with the mode it leads to. -/
def execute (self : Device ρ) (mode : CliMode) : Command ρ → Except ConfigError (Device ρ × CliMode)
  | .EnterInterface name => do .ok (← self.ensure_interface name,.InterfaceConfiguration name)
  | .EnterInterfaceRange first last => do
    let _ ← self.interface_range first last
    .ok (self,.InterfaceRangeConfiguration first last)
  | .SetSwitchportMode switchport_mode => do
    .ok (← self.edit_interfaces mode (fun device name => device.set_switchport_mode name switchport_mode),mode)
  | .SetAccessVlan vlan => do .ok (← self.edit_interfaces mode (fun device name => device.set_access_vlan name vlan),mode)
  | .SetNativeVlan vlan => do .ok (← self.edit_interfaces mode (fun device name => device.set_native_vlan name vlan),mode)
  | .SetTrunkAllowedVlans vlans => do
    .ok (← self.edit_interfaces mode (fun device name => device.set_trunk_allowed_vlans name vlans),mode)
  | .Switchport => do .ok (← self.edit_interfaces mode enable_switchport,mode)
  | .NoSwitchport => do .ok (← self.edit_interfaces mode disable_switchport,mode)
  | .SetChannelGroup number channel_mode => do
    .ok (← self.edit_interfaces mode (fun device name => device.set_channel_group name number channel_mode),mode)
  | .ClearChannelGroup => do .ok (← self.edit_interfaces mode clear_channel_group,mode)
  | .SetNatOverload outside_interface rule => do
    .ok (← (← self.ensure_interface outside_interface).other mode rule,mode)
  | .Other command => do .ok (← self.other mode command,mode)

/-- The commands of a session, each in the mode that the ones before it lead to. -/
def load (self : Device ρ) (mode : CliMode) : List (Command ρ) → Except ConfigError (Device ρ × CliMode)
  | [] => .ok (self,mode)
  | command :: rest => do
    let next ← self.execute mode command
    next.1.load next.2 rest

/-- Atomically merge configuration commands through the normal engine. -/
def load_configuration (self : Device ρ) (commands : List (Command ρ)) : Except ConfigError (Device ρ) :=
  (self.load .GlobalConfiguration commands).map (·.1)

end Device

/-! ### Rendering -/

/-- The lines of the rest of an interface: before ` no switchport`, before the policy, and after it. -/
structure OtherLines (ρ : Type) where
  head : Device ρ → InterfaceConfig ρ → List (OtherCommand ρ)
  body : Device ρ → InterfaceConfig ρ → List (OtherCommand ρ)
  foot : Device ρ → InterfaceConfig ρ → List (OtherCommand ρ)

/-- The lines of a policy, chosen by its mode. -/
def render_switchport {ρ : Type} (policy : SwitchportConfig) : List (Command ρ) :=
  match policy.mode with
  | .Access => [.SetSwitchportMode .Access,.SetAccessVlan policy.access_vlan]
  | .Trunk =>
    .SetSwitchportMode .Trunk :: ((if policy.native_vlan ≠ DEFAULT then [.SetNativeVlan policy.native_vlan] else []) ++
      (policy.trunk_allowed_vlans.map Command.SetTrunkAllowedVlans).toList)

namespace Device
variable {ρ : Type}

/-- The section of one interface. -/
def render_interface (self : Device ρ) (lines : OtherLines ρ) (config : InterfaceConfig ρ) : List (Command ρ) :=
  .EnterInterface config.name :: ((lines.head self config).map Command.Other ++
    (if self.switchport_capable config.name ∧ config.switchport.isNone then [.NoSwitchport] else []) ++
    (lines.body self config).map Command.Other ++
    (config.switchport.map render_switchport).getD [] ++
    (config.channel_group.map (fun group => Command.SetChannelGroup group.number group.mode)).toList ++
    (lines.foot self config).map Command.Other)

/-- The sections of the interfaces, those of the port channels last. -/
def render (self : Device ρ) (lines : OtherLines ρ) : List (Command ρ) :=
  (self.interfaces.filter (fun config => config.name.port_channel.isNone) ++
    self.interfaces.filter (fun config => config.name.port_channel.isSome)).flatMap (self.render_interface lines)

end Device

/-! ### Reachable devices -/

/-- The installed ports of a device that switches. -/
structure Hardware where
  device_type : DeviceType
  ports : List InterfaceName
  switching : supports_switching device_type = true
  distinct : ports.Nodup
  physical : ∀ name ∈ ports, name.is_physical = true

variable {ρ : Type} [InterfacePolicy ρ]

/-- A device with its hardware and no configuration. -/
def Hardware.fresh (hardware : Hardware) : Device ρ :=
  ⟨hardware.device_type,hardware.ports.map (Device.new_interface hardware.device_type)⟩

/-- A device that commands of any sessions lead to. -/
inductive Reached (hardware : Hardware) : Device ρ → Prop
  | fresh : Reached hardware hardware.fresh
  | command {device next : Device ρ} {mode after : CliMode} {command : Command ρ} (before : Reached hardware device)
      (executed : device.execute mode command = .ok (next,after)) : Reached hardware next

end Rios.Switchports
