import Rios.SwitchportSections

/-!
# Saving and reloading switchports

The rendered sections of a reachable switch, replayed on its hardware: each port
takes what its lines carry, each port channel comes into being with its first
member and hands its own lines to all of them.
-/

namespace Rios.Switchports
open Rios.Device Rios.Vlan
open Rios.Stp (SwitchportMode)
open Rios.Lacp (ChannelMode ChannelMembership)

/-! ### What is loaded -/

namespace Device
variable {ρ : Type} {hardware : Hardware} {self : Device ρ} {name : InterfaceName}

/-- What the lines of an interface leave on one that is new. -/
def restored (hardware : Hardware) (config : InterfaceConfig ρ) : Option SwitchportConfig :=
  carried (capable hardware.device_type config.name) config.switchport (initial_switchport hardware.device_type config.name)

/-- What the lines of a port channel leave on one that had a policy or is new. -/
def merged (hardware : Hardware) (start : Device ρ) (config : InterfaceConfig ρ) : Option SwitchportConfig :=
  carried true config.switchport
    ((start.view config.name).getD (initial_switchport hardware.device_type config.name,none)).1

/-- The sections of some port channels have been loaded after those of the ports. -/
structure ChannelsLoaded (hardware : Hardware) (start : Device ρ) (done : List (InterfaceConfig ρ))
    (device : Device ρ) : Prop where
  device_type : device.device_type = hardware.device_type
  own : ∀ config ∈ done, device.view config.name = some (merged hardware start config,none)
  others : ∀ number, (∀ config ∈ done, config.name ≠ .PortChannel number) →
    device.view (.PortChannel number) = start.view (.PortChannel number)
  missing : ∀ name, name.port_channel = none → start.view name = none → device.view name = none
  member : ∀ name policy group, name.port_channel = none → start.view name = some (policy,group) →
    ∃ given, device.view name = some (given,group) ∧
      ((∀ config ∈ done, joins config.name group = false) → given = policy) ∧
      ∀ config ∈ done, joins config.name group = true → given = merged hardware start config

theorem channels_none {start : Device ρ} (same : start.device_type = hardware.device_type) :
    ChannelsLoaded hardware start [] start where
  device_type := same
  own := by intro config wrong; cases wrong
  others := fun _ _ => rfl
  missing := fun _ _ none => none
  member := fun name policy group _ there => ⟨policy,there,fun _ => rfl,by intro config wrong; cases wrong⟩

theorem eq_of_port_channel {number : UInt16} (channel : name.port_channel = some number) :
    name = .PortChannel number := by
  cases name with
  | PortChannel other => exact congrArg _ (Option.some.inj channel)
  | _ => cases channel

theorem joins_iff (group : Option ChannelMembership) :
    joins name group = true ↔ ∃ membership ∈ group, name = .PortChannel membership.number := by
  cases name with
  | PortChannel number =>
    cases group with
    | none => simp [joins,InterfaceName.port_channel]
    | some membership => simp [joins,InterfaceName.port_channel,eq_comm]
  | _ => simp [joins,InterfaceName.port_channel]

/-- A port is no port channel of any group. -/
theorem any_channel (plain : name.port_channel = none) (membership : Option ChannelMembership) :
    membership.any (fun membership => name = .PortChannel membership.number) = false := by
  rw [Option.any_eq_false]
  intro group _
  refine decide_eq_false (fun same => ?_)
  rw [same] at plain
  cases plain

/-- The configurations of the ports and of the port channels. -/
def port_configs (self : Device ρ) : List (InterfaceConfig ρ) :=
  self.interfaces.filter (fun config => config.name.port_channel.isNone)

def channel_configs (self : Device ρ) : List (InterfaceConfig ρ) :=
  self.interfaces.filter (fun config => config.name.port_channel.isSome)

theorem mem_port_configs {config : InterfaceConfig ρ} :
    config ∈ self.port_configs ↔ config ∈ self.interfaces ∧ config.name.port_channel = none := by
  simp [port_configs]

theorem mem_channel_configs {config : InterfaceConfig ρ} :
    config ∈ self.channel_configs ↔ config ∈ self.interfaces ∧ ∃ number, config.name = .PortChannel number := by
  rw [channel_configs,List.mem_filter]
  refine and_congr_right fun _ => ?_
  cases config.name <;> simp [InterfaceName.port_channel]

theorem view_of_mem (sound : Sound hardware self) {config : InterfaceConfig ρ} (member : config ∈ self.interfaces) :
    self.view config.name = some (config.switchport,config.channel_group) := by
  have there := (self.find_isSome config.name).mpr (List.mem_map_of_mem member)
  obtain ⟨found,equal⟩ := Option.isSome_iff_exists.mp there
  obtain ⟨listed,named⟩ := find_name equal
  have same := List.inj_on_of_nodup_map sound.distinct listed member named
  rw [view,equal,same,Option.map_some]

theorem mem_of_name (listed : name ∈ self.names) : ∃ config ∈ self.interfaces, config.name = name :=
  List.mem_map.mp listed

end Device

/-! ### The sections of the ports -/

namespace Device
variable {ρ : Type} [InterfacePolicy ρ] {hardware : Hardware} {self next : Device ρ} {name : InterfaceName}
  {mode after : CliMode}

/-- The sections of some ports have been loaded on the hardware. -/
structure PortsLoaded (hardware : Hardware) (done : List (InterfaceConfig ρ)) (device : Device ρ) : Prop where
  device_type : device.device_type = hardware.device_type
  plain : ∀ config ∈ done, config.name.port_channel = none
  own : ∀ config ∈ done, device.view config.name = some (restored hardware config,config.channel_group)
  others : ∀ name, name.port_channel = none → (∀ config ∈ done, config.name ≠ name) →
    device.view name = (hardware.fresh : Device ρ).view name
  channel : ∀ number known, device.view (.PortChannel number) = some known →
    ∃ config ∈ done, known = (restored hardware config,none) ∧ ∃ group ∈ config.channel_group, group.number = number

theorem ports_fresh (hardware : Hardware) : PortsLoaded hardware [] (hardware.fresh : Device ρ) := by
  refine ⟨rfl,(by intro config wrong; cases wrong),(by intro config wrong; cases wrong),fun _ _ _ => rfl,fun number known there => ?_⟩
  rw [fresh_view] at there
  split at there
  · rename_i installed
    exact absurd (hardware.physical _ installed) (by simp [InterfaceName.is_physical])
  · cases there

theorem fresh_getD (hardware : Hardware) (name : InterfaceName) :
    ((hardware.fresh : Device ρ).view name).getD (initial_switchport hardware.device_type name,none) =
      (initial_switchport hardware.device_type name,none) := by
  rw [fresh_view]
  split
  · rfl
  · rfl

/-- The section of one more port. -/
theorem PortsLoaded.step {source : Device ρ} {lines : OtherLines ρ} {config : InterfaceConfig ρ}
    {done : List (InterfaceConfig ρ)} (loaded : PortsLoaded hardware done self)
    (same : source.device_type = hardware.device_type) (alone : config.name.port_channel = none)
    (new : ∀ other ∈ done, other.name ≠ config.name)
    (section_ : self.load mode (source.render_interface lines config) = .ok (next,after)) :
    PortsLoaded hardware (done ++ [config]) next := by
  obtain ⟨entered,put,base,group,section_⟩ := section_ok (fun _ => alone) section_
  have able : source.switchport_capable config.name = capable hardware.device_type config.name := by
    rw [← same]
    rfl
  rw [able] at section_
  have start : (self.view config.name).getD (initial_switchport self.device_type config.name,none) =
      (initial_switchport self.device_type config.name,none) := by
    rw [loaded.others config.name alone new,loaded.device_type]
    exact fresh_getD hardware config.name
  obtain ⟨agrees,view⟩ := section_.port alone start
  rw [loaded.device_type] at agrees view
  have different : ∀ number, InterfaceName.PortChannel number ≠ config.name := by
    intro number equal
    rw [← equal] at alone
    cases alone
  refine ⟨section_.device_type.trans loaded.device_type,?_,?_,?_,?_⟩
  · intro other member
    rcases List.mem_append.mp member with earlier | last
    · exact loaded.plain other earlier
    · rw [List.mem_singleton.mp last]
      exact alone
  · intro other member
    rcases List.mem_append.mp member with earlier | last
    · rw [view,if_neg (new other earlier),any_channel (loaded.plain other earlier),if_neg Bool.false_ne_true]
      exact loaded.own other earlier
    · rw [List.mem_singleton.mp last,view,if_pos rfl]
      rfl
  · intro name plain others
    rw [view,if_neg (fun equal => others config (by simp) equal.symm),any_channel plain,if_neg Bool.false_ne_true]
    exact loaded.others name plain (fun other earlier => others other (List.mem_append_left _ earlier))
  · intro number known there
    rw [view,if_neg (different number)] at there
    split at there
    · rename_i joined
      obtain ⟨membership,grouped,equal⟩ := (Option.any_eq_true _ _).mp joined
      have equal : number = membership.number := InterfaceName.PortChannel.inj (of_decide_eq_true equal)
      cases before : self.view (.PortChannel number) with
      | none =>
        rw [before] at there
        cases there
        exact ⟨config,by simp,rfl,membership,grouped,equal.symm⟩
      | some earlier =>
        rw [before] at there
        cases there
        obtain ⟨other,member,given⟩ := loaded.channel number earlier before
        exact ⟨other,List.mem_append_left _ member,given⟩
    · obtain ⟨other,member,given⟩ := loaded.channel number known there
      exact ⟨other,List.mem_append_left _ member,given⟩

/-! ### The sections of the port channels -/

/-- The section of one more port channel. -/
theorem ChannelsLoaded.step {source start : Device ρ} {lines : OtherLines ρ} {config : InterfaceConfig ρ}
    {done : List (InterfaceConfig ρ)} (loaded : ChannelsLoaded hardware start done self)
    (same : source.device_type = hardware.device_type)
    (ungrouped : ∀ number known, start.view (.PortChannel number) = some known → known.2 = none) {number : UInt16}
    (named : config.name = .PortChannel number) (single : config.channel_group = none)
    (new : ∀ other ∈ done, other.name ≠ config.name)
    (section_ : self.load mode (source.render_interface lines config) = .ok (next,after)) :
    ChannelsLoaded hardware start (done ++ [config]) next := by
  have able : source.switchport_capable config.name = true := by
    simp [switchport_capable,same,hardware.switching,named,InterfaceName.port_channel]
  obtain ⟨entered,put,base,group,section_⟩ := section_ok (by simp [able]) section_
  rw [able] at section_
  have before : self.view config.name = start.view config.name := by
    rw [named]
    exact loaded.others number (fun other member => named ▸ new other member)
  have view := section_.channel single
  rw [before,loaded.device_type] at view
  have alone : ((start.view config.name).getD (initial_switchport hardware.device_type config.name,none)).2 = none := by
    cases known : start.view config.name with
    | none => rfl
    | some known_ =>
      rw [named] at known
      exact ungrouped number known_ known
  rw [alone] at view
  have different : ∀ other, other.port_channel = none → other ≠ config.name := by
    intro other plain equal
    rw [equal,named] at plain
    cases plain
  refine ⟨section_.device_type.trans loaded.device_type,?_,?_,?_,?_⟩
  · intro other member
    rcases List.mem_append.mp member with earlier | last
    · rw [view,if_neg (new other earlier),loaded.own other earlier,Option.map_some,if_neg (by simp [joins])]
    · rw [List.mem_singleton.mp last,view,if_pos rfl]
      rfl
  · intro other others
    have before := loaded.others other (fun earlier member => others earlier (List.mem_append_left _ member))
    rw [view,if_neg (fun equal => others config (by simp) equal.symm),before]
    cases known : start.view (.PortChannel other) with
    | none => rfl
    | some entry =>
      have alone := ungrouped other entry known
      simp [joins,alone]
  · intro other plain none
    rw [view,if_neg (different other plain),loaded.missing other plain none]
    rfl
  · intro other policy membership plain there
    obtain ⟨given,now_,outside,inside⟩ := loaded.member other policy membership plain there
    rw [view,if_neg (different other plain),now_,Option.map_some]
    by_cases joined : joins config.name membership = true
    · refine ⟨merged hardware start config,by rw [if_pos joined]; rfl,fun never => ?_,fun earlier member also => ?_⟩
      · exact absurd (never config (by simp)) (by rw [joined]; exact Bool.noConfusion)
      · rcases List.mem_append.mp member with before | last
        · obtain ⟨one,same_one,equal⟩ := (joins_iff membership).mp joined
          obtain ⟨two,same_two,equal'⟩ := (joins_iff membership).mp also
          rw [same_one] at same_two
          cases same_two
          exact absurd (equal'.trans equal.symm) (new earlier before)
        · rw [List.mem_singleton.mp last]
    · refine ⟨given,by rw [if_neg joined],fun never => ?_,fun earlier member also => ?_⟩
      · exact outside (fun before member => never before (List.mem_append_left _ member))
      · rcases List.mem_append.mp member with before | last
        · exact inside earlier before also
        · rw [List.mem_singleton.mp last] at also
          exact absurd also joined

/-- What the section of one more interface keeps, the sections of all interfaces keep. -/
theorem sections_run {source : Device ρ} {lines : OtherLines ρ} {fits : InterfaceConfig ρ → Prop}
    {Loaded : List (InterfaceConfig ρ) → Device ρ → Prop}
    (step : ∀ {done config self mode next after}, Loaded done self → fits config → (∀ other ∈ done, other.name ≠ config.name) →
      self.load mode (source.render_interface lines config) = .ok (next,after) → Loaded (done ++ [config]) next)
    {rest : List (InterfaceConfig ρ)} : ∀ {done : List (InterfaceConfig ρ)} {self : Device ρ} {mode : CliMode},
    Loaded done self → (∀ config ∈ rest, fits config) → ((done ++ rest).map (·.name)).Nodup →
    self.load mode (rest.flatMap (source.render_interface lines)) = .ok (next,after) → Loaded (done ++ rest) next := by
  induction rest with
  | nil =>
    intro done self mode loaded _ _ sections
    cases sections
    rw [List.append_nil]
    exact loaded
  | cons config rest ih =>
    intro done self mode loaded all distinct sections
    rw [List.flatMap_cons] at sections
    obtain ⟨⟨middle,between⟩,section_,sections⟩ := load_append_ok sections
    have new : ∀ other ∈ done, other.name ≠ config.name := by
      intro other member equal
      rw [List.map_append,List.map_cons] at distinct
      exact (List.disjoint_of_nodup_append distinct) (List.mem_map_of_mem member) (equal ▸ List.mem_cons_self)
    have whole := ih (step loaded (all config (.head _)) new section_) (fun other member => all other (.tail _ member))
      (by rwa [List.append_assoc]) sections
    rwa [List.append_assoc] at whole

/-- What a successful reload leaves: the ports with what their lines carry, then the port channels with theirs. -/
theorem reload_loaded {lines : OtherLines ρ} {reloaded : Device ρ} (sound : Sound hardware self)
    (loaded : hardware.fresh.load_configuration (self.render lines) = .ok reloaded) :
    ∃ start, PortsLoaded hardware self.port_configs start ∧
      ChannelsLoaded hardware start self.channel_configs reloaded := by
  have ended :
      ∃ last, (hardware.fresh : Device ρ).load .GlobalConfiguration (self.render lines) = .ok (reloaded,last) := by
    unfold load_configuration at loaded
    cases whole : (hardware.fresh : Device ρ).load .GlobalConfiguration (self.render lines) with
    | error error => rw [whole] at loaded; cases loaded
    | ok last =>
      rw [whole] at loaded
      cases loaded
      exact ⟨last.2,rfl⟩
  obtain ⟨last,ended⟩ := ended
  rw [render,List.flatMap_append] at ended
  obtain ⟨⟨start,mode⟩,ports,channels⟩ := load_append_ok ended
  have distinct : ∀ keep, ((self.interfaces.filter keep).map (·.name)).Nodup := fun keep =>
    sound.distinct.sublist (List.Sublist.map _ List.filter_sublist)
  have first := sections_run (fun loaded => loaded.step sound.device_type) (ports_fresh hardware)
    (fun config member => (mem_port_configs.mp member).2) (distinct _) ports
  have ungrouped : ∀ number known, start.view (.PortChannel number) = some known → known.2 = none := by
    intro number known there
    obtain ⟨config,-,same,-⟩ := first.channel number known there
    rw [same]
  refine ⟨start,first,sections_run (fun loaded (fits : (∃ number, _ = InterfaceName.PortChannel number) ∧ _) new section_ =>
    loaded.step sound.device_type ungrouped fits.1.choose_spec fits.2 new section_) (channels_none first.device_type) ?_
    (distinct _) channels⟩
  intro config member
  obtain ⟨listed,number,named⟩ := mem_channel_configs.mp member
  refine ⟨⟨number,named⟩,?_⟩
  cases single : config.channel_group with
  | none => rfl
  | some group =>
    have ethernet := (sound.grouped config.name config.switchport group (by rw [view_of_mem sound listed,single])).1
    rw [named] at ethernet
    cases ethernet

end Device

/-! ### What is kept -/

/-- A policy without values that its mode does not use. -/
def InUse (policy : SwitchportConfig) : Prop :=
  match policy.mode with
  | .Access => policy.native_vlan = DEFAULT ∧ policy.trunk_allowed_vlans = none
  | .Trunk => policy.access_vlan = DEFAULT

theorem overlay_default_iff (policy : SwitchportConfig) : overlay policy default_switchport = policy ↔ InUse policy := by
  obtain ⟨mode,access,native,allowed⟩ := policy
  cases mode with
  | Access => simp [overlay,InUse,default_switchport,eq_comm]
  | Trunk => simp [overlay,InUse,default_switchport,eq_comm]

theorem overlay_self (policy : SwitchportConfig) : overlay policy policy = policy := by
  obtain ⟨mode,access,native,allowed⟩ := policy
  cases mode with
  | Access => rfl
  | Trunk => simp [overlay]

theorem overlay_overlay (policy base : SwitchportConfig) :
    overlay policy (overlay policy base) = overlay policy base := by
  obtain ⟨mode,access,native,allowed⟩ := policy
  cases mode with
  | Access => rfl
  | Trunk =>
    simp only [overlay]
    congr 1
    · split
      · rfl
      · rfl
    · cases allowed <;> rfl

/-- A device whose policies hold only what is in use, the same on a port channel and its members. -/
structure Device.Kept {ρ : Type} (device : Device ρ) : Prop where
  inUse : ∀ config ∈ device.interfaces, ∀ policy ∈ config.switchport, InUse policy
  agree : ∀ member ∈ device.interfaces, ∀ group ∈ member.channel_group, ∀ channel ∈ device.interfaces,
    channel.name = .PortChannel group.number → member.switchport = channel.switchport

theorem initial_getD (device_type : DeviceType) (name : InterfaceName) :
    (initial_switchport device_type name).getD default_switchport = default_switchport := by
  unfold initial_switchport
  split
  · rfl
  · rfl

namespace Device
variable {ρ : Type} {hardware : Hardware} {self : Device ρ} {config : InterfaceConfig ρ}

theorem restored_some {policy : SwitchportConfig} (given : config.switchport = some policy) :
    restored hardware config = some (overlay policy default_switchport) := by
  rw [restored,given,carried,initial_getD]

theorem restored_inUse (inUse : ∀ policy ∈ config.switchport, InUse policy) :
    restored hardware config = config.switchport := by
  cases given : config.switchport with
  | some policy => rw [restored_some given,(overlay_default_iff policy).mpr (inUse policy given)]
  | none =>
    rw [restored,given,carried,initial_switchport]
    split
    · rfl
    · rfl

/-- What a port channel starts from: the policy of a new one, or what the lines of a member leave. -/
theorem merged_start [InterfacePolicy ρ] {start : Device ρ} (ports : PortsLoaded hardware self.port_configs start)
    {number : UInt16} (named : config.name = .PortChannel number) :
    (merged hardware start config = carried true config.switchport (initial_switchport hardware.device_type config.name)) ∨
      ∃ member ∈ self.interfaces, (∃ group ∈ member.channel_group, group.number = number) ∧
        merged hardware start config = carried true config.switchport (restored hardware member) := by
  unfold merged
  cases known : start.view config.name with
  | none => exact .inl rfl
  | some entry =>
    rw [named] at known
    obtain ⟨member,listed,same,group⟩ := ports.channel number entry known
    refine .inr ⟨member,(mem_port_configs.mp listed).1,group,?_⟩
    rw [same,Option.getD_some]

/-- The values that a reload leaves. -/
structure Reloaded (hardware : Hardware) (device reloaded start : Device ρ) : Prop where
  alone : ∀ config ∈ device.interfaces, config.name.port_channel = none → config.channel_group = none →
    reloaded.switchport config.name = some (restored hardware config)
  member : ∀ config ∈ device.interfaces, ∀ group ∈ config.channel_group, ∀ channel ∈ device.interfaces,
    channel.name = .PortChannel group.number → reloaded.switchport config.name = some (merged hardware start channel)
  channel : ∀ config ∈ device.interfaces, ∀ number, config.name = .PortChannel number →
    reloaded.switchport config.name = some (merged hardware start config)
  absent : ∀ name, name ∉ device.names → reloaded.switchport name = none

theorem reloaded_of_loaded [InterfacePolicy ρ] {reloaded start : Device ρ} (sound : Sound hardware self)
    (ports : PortsLoaded hardware self.port_configs start)
    (channels : ChannelsLoaded hardware start self.channel_configs reloaded) : Reloaded hardware self reloaded start where
  alone := by
    intro config listed plain single
    have known := ports.own config (mem_port_configs.mpr ⟨listed,plain⟩)
    obtain ⟨given,there,outside,-⟩ := channels.member config.name _ _ plain known
    have kept := outside (by
      intro channel _
      rw [single]
      simp [joins])
    rw [switchport_view,there,kept,Option.map_some]
  member := by
    intro config listed group grouped channel member named
    have ethernet := (sound.grouped config.name config.switchport group (by rw [view_of_mem sound listed,grouped])).1
    have plain : config.name.port_channel = none := by
      cases name : config.name with
      | PortChannel number => rw [name] at ethernet; cases ethernet
      | _ => rfl
    have known := ports.own config (mem_port_configs.mpr ⟨listed,plain⟩)
    obtain ⟨given,there,-,inside⟩ := channels.member config.name _ _ plain known
    have taken := inside channel (mem_channel_configs.mpr ⟨member,group.number,named⟩)
      ((joins_iff config.channel_group).mpr ⟨group,grouped,named⟩)
    rw [switchport_view,there,taken,Option.map_some]
  channel := by
    intro config listed number named
    rw [switchport_view,channels.own config (mem_channel_configs.mpr ⟨listed,number,named⟩),Option.map_some]
  absent := by
    intro name unlisted
    have missing : ∀ config ∈ self.interfaces, config.name ≠ name := fun config listed same =>
      unlisted (same ▸ List.mem_map_of_mem listed)
    rw [switchport_view,Option.map_eq_none_iff]
    cases plain : name.port_channel with
    | none =>
      refine channels.missing name plain ?_
      rw [ports.others name plain (fun config listed => missing config (mem_port_configs.mp listed).1),fresh_view,if_neg]
      intro installed
      exact unlisted ((sound.ports name (hardware.physical name installed)).mpr installed)
    | some number =>
      have named := eq_of_port_channel plain
      subst named
      rw [channels.others number (fun config listed => missing config (mem_channel_configs.mp listed).1)]
      cases known : start.view (.PortChannel number) with
      | none => rfl
      | some entry =>
        obtain ⟨config,listed,-,group,grouped,same⟩ := ports.channel number entry known
        have listed := (mem_port_configs.mp listed).1
        have channel := (sound.grouped config.name config.switchport group (by rw [view_of_mem sound listed,grouped])).2
        exact absurd (same ▸ channel) unlisted

/-- Every member of a channel has its port channel. -/
theorem channel_of_member (sound : Sound hardware self) {member : InterfaceConfig ρ} (listed : member ∈ self.interfaces)
    {group : ChannelMembership} (grouped : group ∈ member.channel_group) :
    ∃ channel ∈ self.interfaces, channel.name = .PortChannel group.number :=
  mem_of_name (sound.grouped member.name member.switchport group (by rw [view_of_mem sound listed,grouped])).2

/-- A port channel takes its own policy over, from a new one or from a member with the same. -/
theorem merged_kept [InterfacePolicy ρ] {start : Device ρ} (ports : PortsLoaded hardware self.port_configs start)
    (kept : self.Kept) (listed : config ∈ self.interfaces) {number : UInt16} (named : config.name = .PortChannel number) :
    merged hardware start config = config.switchport := by
  rcases merged_start ports named with alone | ⟨member,member_listed,⟨group,grouped,same⟩,joined⟩
  · rw [alone]
    cases given : config.switchport with
    | none => rfl
    | some policy =>
      rw [carried,initial_getD,(overlay_default_iff policy).mpr (kept.inUse config listed policy given)]
  · have agrees := kept.agree member member_listed group grouped config listed (named.trans (by rw [same]))
    rw [joined,restored_inUse (kept.inUse member member_listed),agrees]
    cases config.switchport with
    | none => rfl
    | some policy => rw [carried,Option.getD_some,overlay_self]

theorem kept_reloads [InterfacePolicy ρ] {reloaded start : Device ρ} (sound : Sound hardware self)
    (ports : PortsLoaded hardware self.port_configs start) (values : Reloaded hardware self reloaded start)
    (kept : self.Kept) (name : InterfaceName) : reloaded.switchport name = self.switchport name := by
  by_cases there : name ∈ self.names
  · obtain ⟨config,listed,rfl⟩ := mem_of_name there
    rw [self.switchport_view,view_of_mem sound listed,Option.map_some]
    cases grouped : config.channel_group with
    | some group =>
      obtain ⟨channel,channel_listed,named⟩ := channel_of_member sound listed grouped
      rw [values.member config listed group grouped channel channel_listed named,merged_kept ports kept channel_listed named,
        kept.agree config listed group grouped channel channel_listed named]
    | none =>
      cases plain : config.name.port_channel with
      | none => rw [values.alone config listed plain grouped,restored_inUse (kept.inUse config listed)]
      | some number =>
        have named := eq_of_port_channel plain
        rw [values.channel config listed number named,merged_kept ports kept listed named]
  · have missing : self.view name = none := by
      rw [← Option.not_isSome_iff_eq_none,view_isSome]
      exact there
    rw [values.absent name there,self.switchport_view,missing,Option.map_none]

theorem reloads_kept [InterfacePolicy ρ] {reloaded start : Device ρ} (sound : Sound hardware self)
    (ports : PortsLoaded hardware self.port_configs start) (values : Reloaded hardware self reloaded start)
    (same : ∀ name, reloaded.switchport name = self.switchport name) : self.Kept := by
  have own : ∀ config ∈ self.interfaces, reloaded.switchport config.name = some config.switchport := by
    intro config listed
    rw [same,switchport_view,view_of_mem sound listed,Option.map_some]
  have channel : ∀ config ∈ self.interfaces, ∀ number, config.name = .PortChannel number →
      merged hardware start config = config.switchport := by
    intro config listed number named
    exact Option.some.inj ((values.channel config listed number named).symm.trans (own config listed))
  have agree : ∀ member ∈ self.interfaces, ∀ group ∈ member.channel_group, ∀ channel ∈ self.interfaces,
      channel.name = .PortChannel group.number → member.switchport = channel.switchport := by
    intro member listed group grouped config config_listed named
    have taken := (values.member member listed group grouped config config_listed named).symm.trans (own member listed)
    exact (Option.some.inj taken).symm.trans (channel config config_listed group.number named)
  have channelInUse : ∀ config ∈ self.interfaces, ∀ number, config.name = .PortChannel number →
      ∀ policy ∈ config.switchport, InUse policy := by
    intro config listed number named policy given
    have whole := channel config listed number named
    rw [← overlay_default_iff]
    rcases merged_start ports named with alone | ⟨member,member_listed,⟨group,grouped,equal⟩,joined⟩
    · rw [alone,given,carried,initial_getD] at whole
      exact Option.some.inj whole
    · have agrees := agree member member_listed group grouped config listed (named.trans (by rw [equal]))
      rw [joined,restored_some (agrees.trans given),given,carried,Option.getD_some,overlay_overlay] at whole
      exact Option.some.inj whole
  refine ⟨fun config listed policy given => ?_,agree⟩
  cases grouped : config.channel_group with
  | some group =>
    obtain ⟨channel,channel_listed,named⟩ := channel_of_member sound listed grouped
    exact channelInUse channel channel_listed group.number named policy
      ((agree config listed group grouped channel channel_listed named).symm.trans given)
  | none =>
    cases plain : config.name.port_channel with
    | some number => exact channelInUse config listed number (eq_of_port_channel plain) policy given
    | none =>
      have whole := (values.alone config listed plain grouped).symm.trans (own config listed)
      rw [restored_some given,given] at whole
      exact (overlay_default_iff policy).mp (Option.some.inj (Option.some.inj whole))

end Device

/-- A switch that is saved and reloaded on its hardware has every switchport as before exactly if its
    policies hold only what their modes use and its port channels agree with their members. -/
theorem reload_iff {ρ : Type} [InterfacePolicy ρ] {hardware : Hardware} {device reloaded : Device ρ}
    {lines : OtherLines ρ} (reached : Reached hardware device)
    (loaded : hardware.fresh.load_configuration (device.render lines) = .ok reloaded) :
    (∀ name, reloaded.switchport name = device.switchport name) ↔ device.Kept := by
  have sound := reached.sound
  obtain ⟨start,ports,channels⟩ := Device.reload_loaded sound loaded
  have values := Device.reloaded_of_loaded sound ports channels
  exact ⟨Device.reloads_kept sound ports values,Device.kept_reloads sound ports values⟩

/-! ### A port with an access VLAN on a trunk -/

/-- Interfaces with nothing else to configure. -/
instance barePolicy : InterfacePolicy Unit := ⟨fun _ _ => (),id,fun _ => false⟩

def bare_lines : OtherLines Unit := ⟨fun _ _ => [],fun _ _ => [],fun _ _ => []⟩

/-- The only port of a small switch. -/
def gi0_1 : InterfaceName := .Physical .GigabitEthernet [0,1]

theorem gi0_1_physical : ∀ name ∈ [gi0_1], name.is_physical = true := by simp [gi0_1,InterfaceName.is_physical]

def small_switch : Hardware := ⟨.Switch,[gi0_1],rfl,List.nodup_singleton gi0_1,gi0_1_physical⟩

theorem ten_valid : (1 : UInt16) ≤ 10 ∧ (10 : UInt16) ≤ 4094 := by decide

def vlan_ten : VlanId := ⟨10,ten_valid⟩

/-- The switch with one policy on its port. -/
def configured (policy : SwitchportConfig) : Device Unit := ⟨.Switch,[⟨gi0_1,some policy,none,()⟩]⟩

/-- An access VLAN that is configured before the port becomes a trunk is lost. -/
theorem reload_loses : ∃ device reloaded : Device Unit, Reached small_switch device ∧
    small_switch.fresh.load_configuration (device.render bare_lines) = .ok reloaded ∧
    reloaded.switchport gi0_1 ≠ device.switchport gi0_1 := by
  have start : Reached small_switch (configured default_switchport) := .fresh
  have assigned : Reached small_switch (configured ⟨.Access,vlan_ten,DEFAULT,none⟩) :=
    @Reached.command Unit _ _ _ _ (.InterfaceConfiguration gi0_1) (.InterfaceConfiguration gi0_1)
      (.SetAccessVlan vlan_ten) start rfl
  have trunk : Reached small_switch (configured ⟨.Trunk,vlan_ten,DEFAULT,none⟩) :=
    @Reached.command Unit _ _ _ _ (.InterfaceConfiguration gi0_1) (.InterfaceConfiguration gi0_1)
      (.SetSwitchportMode .Trunk) assigned rfl
  refine ⟨_,configured ⟨.Trunk,DEFAULT,DEFAULT,none⟩,trunk,rfl,?_⟩
  decide

/-- A session leads to a reachable device. -/
theorem Reached.load {ρ : Type} [InterfacePolicy ρ] {hardware : Hardware} (commands : List (Command ρ))
    {device next : Device ρ} {mode after : CliMode} (reached : Reached hardware device)
    (loaded : device.load mode commands = .ok (next,after)) :
    Reached hardware next := by
  induction commands generalizing device mode with
  | nil =>
    obtain ⟨rfl,-⟩ := Prod.mk.inj (Except.ok.inj loaded)
    exact reached
  | cons command rest ih =>
    unfold Device.load at loaded
    cases executed : device.execute mode command with
    | error error => rw [executed] at loaded; cases loaded
    | ok first =>
      rw [executed] at loaded
      exact ih (.command reached executed) loaded

def gi0_2 : InterfaceName := .Physical .GigabitEthernet [0,2]
def gi0_3 : InterfaceName := .Physical .GigabitEthernet [0,3]

theorem three_ports : [gi0_1,gi0_2,gi0_3].Nodup ∧ ∀ name ∈ [gi0_1,gi0_2,gi0_3], name.is_physical = true := by decide

def three_port_switch : Hardware := ⟨.Switch,[gi0_1,gi0_2,gi0_3],rfl,three_ports.1,three_ports.2⟩

/-- One port in a VLAN, and a trunk over the other two. -/
def bundling : List (Command Unit) :=
  [.EnterInterface gi0_1,.SetAccessVlan vlan_ten,.EnterInterfaceRange gi0_2 gi0_3,.SetChannelGroup 1 .Active,
    .EnterInterface (.PortChannel 1),.SetSwitchportMode .Trunk]

def bundled : Device Unit := ⟨.Switch,[⟨gi0_1,some ⟨.Access,vlan_ten,DEFAULT,none⟩,none,()⟩,
  ⟨gi0_2,some ⟨.Trunk,DEFAULT,DEFAULT,none⟩,some ⟨1,.Active⟩,()⟩,⟨gi0_3,some ⟨.Trunk,DEFAULT,DEFAULT,none⟩,some ⟨1,.Active⟩,()⟩,
  ⟨.PortChannel 1,some ⟨.Trunk,DEFAULT,DEFAULT,none⟩,none,()⟩]⟩

/-- The access port comes back in its VLAN, and the channel with its members. -/
theorem reload_iff_bundled : Reached three_port_switch bundled ∧
    three_port_switch.fresh.load_configuration (bundled.render bare_lines) = .ok bundled ∧ bundled.Kept := by
  have configures : three_port_switch.fresh.load .GlobalConfiguration bundling =
      .ok (bundled,.InterfaceConfiguration (.PortChannel 1)) := rfl
  have reached : Reached three_port_switch bundled := Reached.load bundling .fresh configures
  have loaded : three_port_switch.fresh.load_configuration (bundled.render bare_lines) = .ok bundled := rfl
  exact ⟨reached,loaded,(reload_iff reached loaded).mp (fun _ => rfl)⟩

end Rios.Switchports
