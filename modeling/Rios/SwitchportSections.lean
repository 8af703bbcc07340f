import Rios.SwitchportReplay

/-!
# The sections of a configuration

What holds of every reachable switch, and what the section of one interface does
when it is replayed: the interface is there, its lines are put on it, and it
joins its channel.
-/

namespace Rios.Switchports
open Rios.Machine (bind_ok)
open Rios.Device Rios.Vlan
open Rios.Stp (SwitchportMode)
open Rios.Lacp (ChannelMode ChannelMembership)

namespace Device
variable {ρ : Type} {hardware : Hardware} {self next : Device ρ} {name : InterfaceName}

theorem effect_refl (self : Device ρ) : Effect self self [] self.view := ⟨rfl,by rw [List.append_nil],rfl⟩

/-! ### Invariants -/

/-- What holds of every reachable device: its ports are installed, only ports that can switch have a
    policy, and the members of a channel are Ethernet ports with a port channel. -/
structure Sound (hardware : Hardware) (device : Device ρ) : Prop where
  device_type : device.device_type = hardware.device_type
  distinct : device.names.Nodup
  ports : ∀ name, name.is_physical = true → (name ∈ device.names ↔ name ∈ hardware.ports)
  switching : ∀ name policy group, device.view name = some (some policy,group) → capable hardware.device_type name = true
  grouped : ∀ name policy group, device.view name = some (policy,some group) →
    name.is_ethernet = true ∧ .PortChannel group.number ∈ device.names

theorem capable_of_ethernet (ethernet : name.is_ethernet = true) : capable hardware.device_type name = true := by
  simp [capable,hardware.switching,ethernet]

theorem Sound.of_effect {view : View} (sound : Sound hardware self) (effect : Effect self next [] view)
    (switching : ∀ name policy group, view name = some (some policy,group) → capable hardware.device_type name = true)
    (grouped : ∀ name policy group, view name = some (policy,some group) →
      name.is_ethernet = true ∧ .PortChannel group.number ∈ self.names) : Sound hardware next := by
  have names : next.names = self.names := by rw [effect.names,List.append_nil]
  refine ⟨effect.device_type.trans sound.device_type,names ▸ sound.distinct,names ▸ sound.ports,?_,?_⟩
  · rw [effect.view]
    exact switching
  · rw [effect.view,names]
    exact grouped

theorem Sound.put {policy : Option SwitchportConfig} (sound : Sound hardware self)
    (able : policy.isSome = true → capable hardware.device_type name = true)
    (effect : Effect self next [] (self.view.put name policy)) : Sound hardware next := by
  refine sound.of_effect effect ?_ ?_
  · intro other given group there
    obtain ⟨known,found,same⟩ := Option.map_eq_some_iff.mp there
    split at same
    · rename_i changed
      cases same
      rcases changed with rfl | joined
      · exact able rfl
      · obtain ⟨before,membership⟩ := known
        cases membership with
        | none => simp [joins] at joined
        | some membership => exact capable_of_ethernet (sound.grouped other before membership found).1
    · cases same
      exact sound.switching other given group found
  · intro other given group there
    obtain ⟨known,found,same⟩ := Option.map_eq_some_iff.mp there
    have membership : known.2 = some group := by
      split at same
      · exact congrArg Prod.snd same
      · exact congrArg Prod.snd same
    exact sound.grouped other known.1 group (by rw [found,← membership])

theorem Sound.enter {policy : Option SwitchportConfig} (sound : Sound hardware self)
    (able : policy.isSome = true → capable hardware.device_type name = true)
    (installed : name.is_physical = true → name ∈ self.names) (entered : Entered self next name policy) :
    Sound hardware next := by
  have within : ∀ other, other ∈ next.names ↔ other = name ∨ other ∈ self.names := by
    intro other
    rw [entered.names]
    split
    · rename_i there
      simp only [List.append_nil]
      exact ⟨.inr,fun either => either.elim (fun same => same ▸ there) id⟩
    · simp [or_comm]
  refine ⟨entered.device_type.trans sound.device_type,?_,?_,?_,?_⟩
  · rw [entered.names]
    split
    · simpa using sound.distinct
    · rename_i absent
      exact sound.distinct.append (List.nodup_singleton name) (by simpa using absent)
  · intro other physical
    rw [within,← sound.ports other physical]
    exact or_iff_right_of_imp (fun same => same ▸ installed (same ▸ physical))
  · intro other given group there
    rw [entered.view,View.enter] at there
    split at there
    · rename_i own
      subst own
      cases known : self.view other with
      | none =>
        rw [known] at there
        cases there
        exact able rfl
      | some entry =>
        rw [known] at there
        cases there
        exact sound.switching other given group known
    · exact sound.switching other given group there
  · intro other given group there
    rw [entered.view,View.enter] at there
    rw [within]
    split at there
    · rename_i own
      subst own
      cases known : self.view other with
      | none => rw [known] at there; cases there
      | some entry =>
        rw [known] at there
        cases there
        exact (sound.grouped other given group known).imp_right .inr
    · exact (sound.grouped other given group there).imp_right .inr

/-- A channel group whose port channel is there. -/
theorem Sound.group {membership : Option ChannelMembership} (sound : Sound hardware self)
    (admitted : ∀ group ∈ membership, name.is_ethernet = true ∧ .PortChannel group.number ∈ self.names)
    (effect : Effect self next [] (self.view.group name membership)) : Sound hardware next := by
  refine sound.of_effect effect ?_ ?_
  · intro other given group there
    obtain ⟨known,found,same⟩ := Option.map_eq_some_iff.mp there
    have policy : known.1 = some given := by
      split at same
      · exact congrArg Prod.fst same
      · exact congrArg Prod.fst same
    exact sound.switching other given known.2 (by rw [found,← policy])
  · intro other given group there
    obtain ⟨known,found,same⟩ := Option.map_eq_some_iff.mp there
    split at same
    · rename_i own
      subst own
      cases same
      exact admitted group rfl
    · cases same
      exact sound.grouped other given group found

theorem Sound.set_switchport {set : SwitchportConfig → SwitchportConfig} (sound : Sound hardware self)
    (done : self.set_switchport name set = .ok next) : Sound hardware next := by
  obtain ⟨policy,group,known,effect⟩ := set_switchport_ok done
  exact sound.put (fun _ => sound.switching name policy group known) effect

theorem Sound.disable_switchport (sound : Sound hardware self) (done : self.disable_switchport name = .ok next) :
    Sound hardware next := by
  obtain ⟨-,-,effect⟩ := disable_switchport_ok done
  exact sound.put (by intro wrong; cases wrong) effect

theorem Sound.clear_channel_group (sound : Sound hardware self) (done : self.clear_channel_group name = .ok next) :
    Sound hardware next := by
  unfold Device.clear_channel_group at done
  split at done
  · cases done
  · cases done
    exact sound.group (by intro group wrong; cases wrong) (effect_group self name none)

/-- An edit of the selected interfaces keeps what each single edit keeps. -/
theorem edit_interfaces_keeps {holds : Device ρ → Prop} {mode : CliMode}
    {edit : Device ρ → InterfaceName → Except ConfigError (Device ρ)}
    (kept : ∀ device next name, holds device → edit device name = .ok next → holds next) (start : holds self)
    (done : self.edit_interfaces mode edit = .ok next) : holds next := by
  cases mode with
  | GlobalConfiguration => cases done
  | InterfaceConfiguration name => exact kept self next name start done
  | InterfaceRangeConfiguration first last =>
    simp only [edit_interfaces] at done
    cases range : self.interface_range first last with
    | error error => rw [range] at done; cases done
    | ok names =>
      rw [range] at done
      replace done : names.foldlM edit self = .ok next := done
      clear range
      induction names generalizing self with
      | nil => cases done; exact start
      | cons name rest ih =>
        rw [List.foldlM_cons] at done
        cases step : edit self name with
        | error error => rw [step] at done; cases done
        | ok device =>
          rw [step] at done
          exact ih (kept self device name start step) done

theorem effect_other {mode : CliMode} {command : OtherCommand ρ} (done : self.other mode command = .ok next) :
    Effect self next [] self.view := by
  obtain ⟨change,-,same⟩ := bind_ok done
  cases same
  exact effect_rest self (fun config => change config.name config.rest)

theorem Sound.other {mode : CliMode} {command : OtherCommand ρ} (sound : Sound hardware self)
    (done : self.other mode command = .ok next) : Sound hardware next :=
  sound.of_effect (effect_other done) sound.switching sound.grouped

/-- A setter on a port whose policy has just been put. -/
theorem set_put_ok {first : Device ρ} {view : View} {before : Option SwitchportConfig}
    {group : Option ChannelMembership} {put : SwitchportConfig} {set : SwitchportConfig → SwitchportConfig}
    (one : Effect first self [] (view.put name (some put))) (known : view name = some (before,group))
    (done : self.set_switchport name set = .ok next) : Effect first next [] (view.put name (some (set put))) := by
  obtain ⟨_,membership,found,effect⟩ := set_switchport_ok done
  rw [one.view,View.put_self known] at found
  cases found
  rw [one.view,View.put_put] at effect
  exact one.trans effect

section
variable [InterfacePolicy ρ]

theorem Sound.enable_switchport (sound : Sound hardware self) (done : self.enable_switchport name = .ok next) :
    Sound hardware next := by
  obtain ⟨policy,group,-,able,effect⟩ := enable_switchport_ok done
  exact sound.put (fun _ => sound.device_type ▸ able) effect

theorem Sound.set_switchport_mode {mode : SwitchportMode} (sound : Sound hardware self)
    (done : self.set_switchport_mode name mode = .ok next) : Sound hardware next := by
  obtain ⟨policy,group,known,able,effect⟩ := set_switchport_mode_ok done
  refine sound.put (fun _ => ?_) effect
  rcases able with given | able
  · obtain ⟨policy,rfl⟩ := Option.isSome_iff_exists.mp given
    exact sound.switching name policy group known
  · exact sound.device_type ▸ able

theorem Sound.ensure_interface (sound : Sound hardware self) (done : self.ensure_interface name = .ok next) :
    Sound hardware next := by
  refine sound.enter (fun given => ?_) (fun physical => ?_) (ensure_interface_ok done)
  · rw [initial_switchport,sound.device_type] at given
    by_contra unable
    rw [if_neg unable] at given
    cases given
  · rw [← find_isSome]
    by_contra absent
    unfold Device.ensure_interface at done
    rw [if_neg absent,if_pos physical] at done
    split at done
    · cases done
    · cases done

theorem Sound.set_channel_group {number : UInt16} {mode : ChannelMode} (sound : Sound hardware self)
    (done : self.set_channel_group name number mode = .ok next) : Sound hardware next := by
  obtain ⟨policy,group,known,ethernet,-,middle,entered,effect⟩ := set_channel_group_ok done
  have channel : Sound hardware middle := by
    refine sound.enter (fun _ => ?_) (by intro wrong; cases wrong) entered
    simp [capable,hardware.switching,InterfaceName.port_channel]
  refine channel.group ?_ effect
  intro membership same
  cases same
  refine ⟨ethernet,?_⟩
  rw [entered.names]
  split
  · rw [List.append_nil]
    assumption
  · exact List.mem_append_right _ (List.mem_singleton_self _)

theorem Sound.execute {mode after : CliMode} {command : Command ρ} (sound : Sound hardware self)
    (done : self.execute mode command = .ok (next,after)) : Sound hardware next := by
  cases command with
  | EnterInterface name =>
    obtain ⟨device,entered,same⟩ := bind_ok done
    cases same
    exact sound.ensure_interface entered
  | EnterInterfaceRange first last =>
    obtain ⟨names,-,same⟩ := bind_ok done
    cases same
    exact sound
  | SetSwitchportMode switchport_mode =>
    obtain ⟨device,edited,same⟩ := bind_ok done
    cases same
    exact edit_interfaces_keeps (fun _ _ _ sound done => sound.set_switchport_mode done) sound edited
  | SetAccessVlan vlan =>
    obtain ⟨device,edited,same⟩ := bind_ok done
    cases same
    exact edit_interfaces_keeps (fun _ _ _ sound done => sound.set_switchport done) sound edited
  | SetNativeVlan vlan =>
    obtain ⟨device,edited,same⟩ := bind_ok done
    cases same
    exact edit_interfaces_keeps (fun _ _ _ sound done => sound.set_switchport done) sound edited
  | SetTrunkAllowedVlans vlans =>
    obtain ⟨device,edited,same⟩ := bind_ok done
    cases same
    exact edit_interfaces_keeps (fun _ _ _ sound done => sound.set_switchport done) sound edited
  | Switchport =>
    obtain ⟨device,edited,same⟩ := bind_ok done
    cases same
    exact edit_interfaces_keeps (fun _ _ _ sound done => sound.enable_switchport done) sound edited
  | NoSwitchport =>
    obtain ⟨device,edited,same⟩ := bind_ok done
    cases same
    exact edit_interfaces_keeps (fun _ _ _ sound done => sound.disable_switchport done) sound edited
  | SetChannelGroup number channel_mode =>
    obtain ⟨device,edited,same⟩ := bind_ok done
    cases same
    exact edit_interfaces_keeps (fun _ _ _ sound done => sound.set_channel_group done) sound edited
  | ClearChannelGroup =>
    obtain ⟨device,edited,same⟩ := bind_ok done
    cases same
    exact edit_interfaces_keeps (fun _ _ _ sound done => sound.clear_channel_group done) sound edited
  | SetNatOverload outside_interface rule =>
    obtain ⟨device,ensured,rest⟩ := bind_ok done
    obtain ⟨last,ruled,same⟩ := bind_ok rest
    cases same
    exact (sound.ensure_interface ensured).other ruled
  | Other command =>
    obtain ⟨device,changed,same⟩ := bind_ok done
    cases same
    exact sound.other changed

theorem fresh_names (hardware : Hardware) : (hardware.fresh : Device ρ).names = hardware.ports := by
  simp only [Hardware.fresh,names,List.map_map]
  exact (List.map_congr_left fun _ _ => rfl).trans (List.map_id _)

/-- A device without configuration has its ports, each with the policy of a new one. -/
theorem fresh_view (hardware : Hardware) (name : InterfaceName) : (hardware.fresh : Device ρ).view name =
    if name ∈ hardware.ports then some (initial_switchport hardware.device_type name,none) else none := by
  have found : (hardware.fresh : Device ρ).find_interface name =
      (hardware.ports.find? (fun port => port = name)).map (new_interface hardware.device_type) := by
    simp only [find_interface,Hardware.fresh,List.find?_map]
    rfl
  rw [view,found]
  by_cases installed : name ∈ hardware.ports
  · have some_port : (hardware.ports.find? (fun port => port = name)).isSome = true := by
      rw [List.find?_isSome]
      exact ⟨name,installed,decide_eq_true rfl⟩
    obtain ⟨port,there⟩ := Option.isSome_iff_exists.mp some_port
    have same : port = name := by simpa using List.find?_some there
    have physical := hardware.physical name installed
    rw [there,if_pos installed,same]
    cases name with
    | Physical kind numbers => simp [new_interface,initial_switchport,capable,InterfaceName.port_channel]
    | _ => cases physical
  · have missing : hardware.ports.find? (fun port => port = name) = none := by
      rw [List.find?_eq_none]
      intro port listed same
      exact installed (of_decide_eq_true same ▸ listed)
    rw [missing,if_neg installed]
    rfl

theorem sound_fresh (hardware : Hardware) : Sound hardware (hardware.fresh : Device ρ) := by
  refine ⟨rfl,?_,?_,?_,?_⟩
  · rw [fresh_names]
    exact hardware.distinct
  · intro name physical
    rw [fresh_names]
  · intro name policy group there
    rw [fresh_view] at there
    split at there
    · simp only [Option.some.injEq,Prod.mk.injEq] at there
      by_contra unable
      rw [initial_switchport,if_neg unable] at there
      cases there.1
    · cases there
  · intro name policy group there
    rw [fresh_view] at there
    split at there
    · cases there
    · cases there

end

end Device

theorem Reached.sound {ρ : Type} [InterfacePolicy ρ] {hardware : Hardware} {device : Device ρ}
    (reached : Reached hardware device) : Device.Sound hardware device := by
  induction reached with
  | fresh => exact Device.sound_fresh hardware
  | command before executed sound => exact sound.execute executed

/-! ### What a section carries -/

/-- Putting the policy that an interface has changes nothing, unless it is a port channel. -/
theorem View.put_base {view : View} {name : InterfaceName} {base : Option SwitchportConfig}
    {group : Option ChannelMembership} (known : view name = some (base,group)) (alone : name.port_channel = none) :
    view.put name base = view := by
  funext other
  rw [View.put]
  cases found : view other with
  | none => rfl
  | some entry =>
    by_cases own : other = name
    · subst own
      rw [known] at found
      cases found
      simp
    · simp [own,joins,alone]

/-- The lines of a policy on a port that has one. -/
def overlay (policy base : SwitchportConfig) : SwitchportConfig :=
  match policy.mode with
  | .Access => { base with mode := .Access, access_vlan := policy.access_vlan }
  | .Trunk =>
    { base with
      mode := .Trunk
      native_vlan := if policy.native_vlan ≠ DEFAULT then policy.native_vlan else base.native_vlan
      trunk_allowed_vlans := policy.trunk_allowed_vlans.or base.trunk_allowed_vlans }

/-- The policy that the lines of a port leave on one that had another. -/
def carried (able : Bool) (policy base : Option SwitchportConfig) : Option SwitchportConfig :=
  match policy with
  | some policy => some (overlay policy (base.getD default_switchport))
  | none => if able then none else base

namespace Device
variable {ρ : Type} {next : Device ρ}

/-- What one section does: the interface is there, its lines are put on it, and it joins its channel. -/
structure Section (before after : Device ρ) (able : Bool) (config : InterfaceConfig ρ) (entered put : Device ρ)
    (base : Option SwitchportConfig) (group : Option ChannelMembership) : Prop where
  enter : Entered before entered config.name (initial_switchport before.device_type config.name)
  known : entered.view config.name = some (base,group)
  carry : Effect entered put [] (entered.view.put config.name (carried able config.switchport base))
  alone : config.channel_group = none → Effect put after [] put.view
  joined : ∀ membership, config.channel_group = some membership → config.name.is_ethernet = true ∧
    (∀ other, put.view (.PortChannel membership.number) = some other → other.1 = carried able config.switchport base) ∧
    ∃ middle, Entered put middle (.PortChannel membership.number) (carried able config.switchport base) ∧
      Effect middle after [] (middle.view.group config.name (some membership))

namespace Section
variable {before entered put : Device ρ} {able : Bool} {config : InterfaceConfig ρ} {base : Option SwitchportConfig}
  {group : Option ChannelMembership}

theorem device_type (section_ : Section before next able config entered put base group) :
    next.device_type = before.device_type := by
  have first := section_.carry.device_type.trans section_.enter.device_type
  cases grouped : config.channel_group with
  | none => exact (section_.alone grouped).device_type.trans first
  | some membership =>
    obtain ⟨-,-,middle,created,effect⟩ := section_.joined membership grouped
    exact effect.device_type.trans (created.device_type.trans first)

/-- The section of a new interface that is no port channel. -/
theorem port (section_ : Section before next able config entered put base group) (alone : config.name.port_channel = none)
    (new : (before.view config.name).getD (initial_switchport before.device_type config.name,none) =
      (initial_switchport before.device_type config.name,none)) :
    (∀ membership ∈ config.channel_group, ∀ known, before.view (.PortChannel membership.number) = some known →
      known.1 = carried able config.switchport (initial_switchport before.device_type config.name)) ∧
    ∀ other, next.view other =
      if other = config.name then
        some (carried able config.switchport (initial_switchport before.device_type config.name),config.channel_group)
      else if config.channel_group.any (fun membership => other = .PortChannel membership.number) then
        some ((before.view other).getD
          (carried able config.switchport (initial_switchport before.device_type config.name),none))
      else before.view other := by
  have fresh : (base,group) = (initial_switchport before.device_type config.name,none) := by
    have known := section_.known
    rw [section_.enter.view,View.enter,if_pos rfl,new] at known
    exact (Option.some.inj known).symm
  cases fresh
  have carried_view : ∀ other, put.view other = if other = config.name then
      some (carried able config.switchport (initial_switchport before.device_type config.name),none)
      else before.view other := by
    intro other
    rw [section_.carry.view]
    by_cases own : other = config.name
    · subst own
      rw [if_pos rfl,View.put_self section_.known]
    · rw [if_neg own,View.put,section_.enter.view,View.enter,if_neg own]
      cases before.view other with
      | none => rfl
      | some known => simp [own,joins,alone]
  have different : ∀ number, InterfaceName.PortChannel number ≠ config.name := by
    intro number same
    rw [← same] at alone
    cases alone
  cases grouped : config.channel_group with
  | none =>
    refine ⟨fun membership wrong => (by cases wrong),fun other => ?_⟩
    rw [(section_.alone grouped).view,carried_view other]
    rfl
  | some membership =>
    obtain ⟨-,agrees,middle,created,effect⟩ := section_.joined membership grouped
    refine ⟨fun given same known there => ?_,fun other => ?_⟩
    · cases same
      refine agrees known ?_
      rw [carried_view,if_neg (different _)]
      exact there
    · rw [effect.view,View.group,created.view,View.enter]
      by_cases own : other = config.name
      · subst own
        rw [if_pos rfl,if_neg (different membership.number).symm,carried_view,if_pos rfl]
        simp
      · rw [if_neg own]
        by_cases channel : other = .PortChannel membership.number
        · simp only [channel,if_true,carried_view,if_neg (different _),Option.any_some,decide_true,Option.map_some]
        · rw [if_neg channel,carried_view,if_neg own]
          simp [own,channel]

/-- The section of a port channel. -/
theorem channel (section_ : Section before next able config entered put base group)
    (single : config.channel_group = none) (other : InterfaceName) :
    next.view other =
      if other = config.name then
        some (carried able config.switchport ((before.view config.name).getD
          (initial_switchport before.device_type config.name,none)).1,
          ((before.view config.name).getD (initial_switchport before.device_type config.name,none)).2)
      else (before.view other).map (fun known => if joins config.name known.2 = true then
        (carried able config.switchport ((before.view config.name).getD
          (initial_switchport before.device_type config.name,none)).1,known.2) else known) := by
  have known := section_.known
  rw [section_.enter.view,View.enter,if_pos rfl] at known
  have same := Option.some.inj known
  rw [same,(section_.alone single).view,section_.carry.view]
  by_cases own : other = config.name
  · subst own
    rw [if_pos rfl,View.put_self section_.known]
  · rw [if_neg own,View.put,section_.enter.view,View.enter,if_neg own]
    simp [own]

end Section

end Device

/-! ### Loading sections -/

namespace Device
variable {ρ : Type} [InterfacePolicy ρ] {hardware : Hardware} {self next : Device ρ} {name : InterfaceName}
  {mode after : CliMode}

theorem load_cons_ok {command : Command ρ} {rest : List (Command ρ)}
    (done : self.load mode (command :: rest) = .ok (next,after)) :
    ∃ middle, self.execute mode command = .ok middle ∧ middle.1.load middle.2 rest = .ok (next,after) :=
  bind_ok done

theorem load_append_ok {first second : List (Command ρ)} (done : self.load mode (first ++ second) = .ok (next,after)) :
    ∃ middle, self.load mode first = .ok middle ∧ middle.1.load middle.2 second = .ok (next,after) := by
  induction first generalizing self mode with
  | nil => exact ⟨(self,mode),rfl,done⟩
  | cons command rest ih =>
    obtain ⟨middle,executed,remaining⟩ := load_cons_ok done
    obtain ⟨last,loaded,remaining⟩ := ih remaining
    refine ⟨last,?_,remaining⟩
    rw [load,executed]
    exact loaded

theorem load_others_ok {commands : List (OtherCommand ρ)}
    (done : self.load mode (commands.map Command.Other) = .ok (next,after)) :
    after = mode ∧ Effect self next [] self.view := by
  induction commands generalizing self with
  | nil =>
    cases done
    exact ⟨rfl,effect_refl _⟩
  | cons command rest ih =>
    obtain ⟨⟨middle,between⟩,executed,remaining⟩ := load_cons_ok done
    obtain ⟨changed,ruled,same⟩ := bind_ok executed
    cases same
    obtain ⟨kept,effect⟩ := ih remaining
    have first := effect_other ruled
    rw [first.view] at effect
    exact ⟨kept,first.trans effect⟩

theorem execute_mode_ok {switchport_mode : SwitchportMode}
    (done : self.execute (.InterfaceConfiguration name) (.SetSwitchportMode switchport_mode) = .ok (next,after)) :
    after = .InterfaceConfiguration name ∧ ∃ policy group, self.view name = some (policy,group) ∧
      Effect self next [] (self.view.put name (some { policy.getD default_switchport with mode := switchport_mode })) := by
  obtain ⟨device,edited,same⟩ := bind_ok done
  cases same
  obtain ⟨policy,group,known,-,effect⟩ := set_switchport_mode_ok edited
  exact ⟨rfl,policy,group,known,effect⟩

/-- The lines of a policy. -/
theorem load_switchport_ok {policy : SwitchportConfig}
    (done : self.load (.InterfaceConfiguration name) (render_switchport policy) = .ok (next,after)) :
    after = .InterfaceConfiguration name ∧ ∃ base group, self.view name = some (base,group) ∧
      Effect self next [] (self.view.put name (some (overlay policy (base.getD default_switchport)))) := by
  unfold render_switchport at done
  cases kind : policy.mode with
  | Access =>
    simp only [kind] at done
    obtain ⟨⟨first,mode⟩,entered,rest⟩ := load_cons_ok done
    obtain ⟨rfl,base,group,known,one⟩ := execute_mode_ok entered
    obtain ⟨⟨second,mode⟩,assigned,rest⟩ := load_cons_ok rest
    obtain ⟨device,edited,same⟩ := bind_ok assigned
    cases same
    cases rest
    refine ⟨rfl,base,group,known,?_⟩
    have two := set_put_ok one known edited
    rw [overlay,kind]
    exact two
  | Trunk =>
    simp only [kind] at done
    obtain ⟨⟨first,mode⟩,entered,rest⟩ := load_cons_ok done
    obtain ⟨rfl,base,group,known,one⟩ := execute_mode_ok entered
    obtain ⟨⟨second,mode⟩,native,rest⟩ := load_append_ok rest
    have two : mode = .InterfaceConfiguration name ∧ Effect self second [] (self.view.put name (some
        { base.getD default_switchport with
          mode := .Trunk
          native_vlan := if policy.native_vlan ≠ DEFAULT then policy.native_vlan
            else (base.getD default_switchport).native_vlan })) := by
      by_cases given : policy.native_vlan ≠ DEFAULT
      · rw [if_pos given] at native ⊢
        obtain ⟨⟨device,mode⟩,assigned,ended⟩ := load_cons_ok native
        obtain ⟨device,edited,same⟩ := bind_ok assigned
        cases same
        cases ended
        exact ⟨rfl,set_put_ok one known edited⟩
      · rw [if_neg given] at native ⊢
        cases native
        exact ⟨rfl,one⟩
    obtain ⟨rfl,two⟩ := two
    cases allowed : policy.trunk_allowed_vlans with
    | none =>
      rw [allowed] at rest
      cases rest
      refine ⟨rfl,base,group,known,?_⟩
      rw [overlay,kind,allowed]
      exact two
    | some vlans =>
      rw [allowed] at rest
      obtain ⟨⟨device,mode⟩,assigned,ended⟩ := load_cons_ok rest
      obtain ⟨device,edited,same⟩ := bind_ok assigned
      cases same
      cases ended
      refine ⟨rfl,base,group,known,?_⟩
      rw [overlay,kind,allowed]
      exact set_put_ok two known edited

/-- The lines of the policy, or its absence. -/
theorem load_carried_ok {able : Bool} {policy : Option SwitchportConfig} {base : Option SwitchportConfig}
    {group : Option ChannelMembership} {others : List (OtherCommand ρ)} (known : self.view name = some (base,group))
    (alone : able = false → name.port_channel = none)
    (done : self.load (.InterfaceConfiguration name) ((if able ∧ policy.isNone then [.NoSwitchport] else []) ++
      others.map Command.Other ++ (policy.map render_switchport).getD []) = .ok (next,after)) :
    after = .InterfaceConfiguration name ∧ Effect self next [] (self.view.put name (carried able policy base)) := by
  obtain ⟨⟨second,mode⟩,front,lines⟩ := load_append_ok done
  obtain ⟨⟨first,mode'⟩,routed,rest⟩ := load_append_ok front
  obtain ⟨rfl,two⟩ := load_others_ok rest
  cases policy with
  | some policy =>
    rw [if_neg (by simp)] at routed
    cases routed
    obtain ⟨rfl,base',group',known',effect⟩ := load_switchport_ok lines
    rw [two.view,known] at known'
    cases known'
    rw [two.view] at effect
    exact ⟨rfl,two.trans effect⟩
  | none =>
    cases lines
    cases able with
    | true =>
      rw [if_pos (by simp)] at routed
      obtain ⟨⟨device,mode⟩,disabled,ended⟩ := load_cons_ok routed
      obtain ⟨device,edited,same⟩ := bind_ok disabled
      cases same
      cases ended
      obtain ⟨-,-,one⟩ := disable_switchport_ok edited
      rw [one.view] at two
      exact ⟨rfl,one.trans two⟩
    | false =>
      rw [if_neg (by simp)] at routed
      cases routed
      refine ⟨rfl,?_⟩
      rw [show carried false none base = base from rfl,View.put_base known (alone rfl)]
      exact two

theorem section_ok {source : Device ρ} {lines : OtherLines ρ} {config : InterfaceConfig ρ}
    (alone : source.switchport_capable config.name = false → config.name.port_channel = none)
    (done : self.load mode (source.render_interface lines config) = .ok (next,after)) :
    ∃ entered put base group, Section self next (source.switchport_capable config.name) config entered put base group := by
  obtain ⟨⟨entered,mode'⟩,ensured,rest⟩ := load_cons_ok done
  obtain ⟨device,enter,equal⟩ := bind_ok ensured
  cases equal
  have enter := ensure_interface_ok enter
  simp only [List.append_assoc] at rest
  obtain ⟨⟨first,mode⟩,head,rest⟩ := load_append_ok rest
  obtain ⟨rfl,one⟩ := load_others_ok head
  rw [← List.append_assoc,← List.append_assoc] at rest
  obtain ⟨⟨third,mode⟩,policy,rest⟩ := load_append_ok rest
  obtain ⟨⟨fourth,mode'⟩,channel,foot⟩ := load_append_ok rest
  obtain ⟨rfl,last⟩ := load_others_ok foot
  have there : ∃ known, entered.view config.name = some known := by
    rw [enter.view,View.enter,if_pos rfl]
    exact ⟨_,rfl⟩
  obtain ⟨⟨base,group⟩,known⟩ := there
  obtain ⟨rfl,put⟩ := load_carried_ok (by rw [one.view]; exact known) alone policy
  rw [one.view] at put
  refine ⟨entered,third,base,group,enter,known,one.trans put,fun single => ?_,fun membership grouped => ?_⟩
  · rw [single] at channel
    cases channel
    exact last
  · rw [grouped] at channel
    obtain ⟨⟨device,mode⟩,joined,ended⟩ := load_cons_ok channel
    obtain ⟨device,edited,same⟩ := bind_ok joined
    cases same
    cases ended
    obtain ⟨policy,old,found,ethernet,agrees,middle,created,effect⟩ := set_channel_group_ok edited
    have carried : policy = carried (source.switchport_capable config.name) config.switchport base := by
      rw [put.view,View.put_self known] at found
      cases found
      rfl
    subst carried
    rw [effect.view] at last
    exact ⟨ethernet,agrees,middle,created,effect.trans last⟩

end Device

end Rios.Switchports
