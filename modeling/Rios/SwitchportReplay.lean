import Rios.Switchports

/-!
# Replaying switchports

What the commands of a configuration do to the policies and the channel groups of
all interfaces, seen as functions of their names. The rendered sections replay as
a sequence of such changes, and what comes out is what the lines carry.
-/

namespace Rios.Switchports
open Rios.Device Rios.Vlan
open Rios.Stp (SwitchportMode)
open Rios.Lacp (ChannelMode ChannelMembership)

/-- The policy and the channel group of each interface. -/
abbrev View := InterfaceName → Option (Option SwitchportConfig × Option ChannelMembership)

/-- Whether an interface can switch. -/
def capable (device_type : DeviceType) (name : InterfaceName) : Bool :=
  supports_switching device_type && (name.is_ethernet || name.port_channel.isSome)

/-- The policy of a new interface. -/
def initial_switchport (device_type : DeviceType) (name : InterfaceName) : Option SwitchportConfig :=
  if capable device_type name then some default_switchport else none

/-- Whether a channel group is that of a port channel. -/
def joins (name : InterfaceName) (group : Option ChannelMembership) : Bool :=
  name.port_channel.any (fun number => group.any (·.number = number))

namespace View

/-- A new policy for an interface and the members of its channel. -/
def put (view : View) (name : InterfaceName) (policy : Option SwitchportConfig) : View := fun other =>
  (view other).map (fun known => if other = name ∨ joins name known.2 = true then (policy,known.2) else known)

/-- An interface is there. -/
def enter (view : View) (name : InterfaceName) (policy : Option SwitchportConfig) : View := fun other =>
  if other = name then some ((view other).getD (policy,none)) else view other

/-- A new channel group for an interface. -/
def group (view : View) (name : InterfaceName) (membership : Option ChannelMembership) : View := fun other =>
  (view other).map (fun known => if other = name then (known.1,membership) else known)

theorem put_put (view : View) (name : InterfaceName) (first second : Option SwitchportConfig) :
    (view.put name first).put name second = view.put name second := by
  funext other
  simp only [put]
  cases view other with
  | none => rfl
  | some known =>
    by_cases changes : other = name ∨ joins name known.2 = true
    · simp [changes]
    · simp [changes]

theorem put_self {view : View} {name : InterfaceName} {known : Option SwitchportConfig × Option ChannelMembership}
    (there : view name = some known) (policy : Option SwitchportConfig) :
    view.put name policy name = some (policy,known.2) := by
  simp [put,there]

end View

namespace Device
variable {ρ : Type}

def view (self : Device ρ) : View := fun name =>
  (self.find_interface name).map (fun config => (config.switchport,config.channel_group))

def names (self : Device ρ) : List InterfaceName := self.interfaces.map (·.name)

theorem switchport_view (self : Device ρ) (name : InterfaceName) : self.switchport name = (self.view name).map (·.1) := by
  simp only [switchport,view,Option.map_map]
  rfl

theorem find_name {self : Device ρ} {name : InterfaceName} {config : InterfaceConfig ρ}
    (found : self.find_interface name = some config) : config ∈ self.interfaces ∧ config.name = name := by
  refine ⟨List.mem_of_find?_eq_some found,?_⟩
  simpa using List.find?_some found

theorem find_isSome (self : Device ρ) (name : InterfaceName) :
    (self.find_interface name).isSome = true ↔ name ∈ self.names := by
  simp [find_interface,names,List.find?_isSome]

theorem view_isSome (self : Device ρ) (name : InterfaceName) : (self.view name).isSome = true ↔ name ∈ self.names := by
  rw [view,Option.isSome_map,find_isSome]

/-- A change of all interfaces that keeps their names. -/
theorem find_map (device_type : DeviceType) (interfaces : List (InterfaceConfig ρ))
    (change : InterfaceConfig ρ → InterfaceConfig ρ) (named : ∀ config, (change config).name = config.name)
    (name : InterfaceName) :
    (Device.mk device_type (interfaces.map change)).find_interface name =
      ((Device.mk device_type interfaces).find_interface name).map change := by
  simp only [find_interface,List.find?_map,Function.comp_def,named]

theorem names_map (device_type : DeviceType) (interfaces : List (InterfaceConfig ρ))
    (change : InterfaceConfig ρ → InterfaceConfig ρ) (named : ∀ config, (change config).name = config.name) :
    (Device.mk device_type (interfaces.map change)).names = (Device.mk device_type interfaces).names := by
  simp [names,named]

/-- A change of one interface that keeps its name. -/
theorem find_modify (self : Device ρ) (name : InterfaceName) (change : InterfaceConfig ρ → InterfaceConfig ρ)
    (named : ∀ config, (change config).name = config.name) (other : InterfaceName) :
    (self.modify name change).find_interface other =
      (self.find_interface other).map (fun config => if other = name then change config else config) := by
  unfold modify
  rw [find_map _ _ _ (by intro config; split <;> simp [named])]
  cases found : self.find_interface other with
  | none => rfl
  | some config => rw [Option.map_some,Option.map_some,(find_name found).2]

theorem names_modify (self : Device ρ) (name : InterfaceName) (change : InterfaceConfig ρ → InterfaceConfig ρ)
    (named : ∀ config, (change config).name = config.name) : (self.modify name change).names = self.names :=
  names_map self.device_type self.interfaces _ (by intro config; split <;> simp [named])

theorem view_modify (self : Device ρ) (name : InterfaceName) (change : InterfaceConfig ρ → InterfaceConfig ρ)
    (named : ∀ config, (change config).name = config.name) (other : InterfaceName) :
    (self.modify name change).view other = (self.find_interface other).map (fun config =>
      if other = name then ((change config).switchport,(change config).channel_group)
      else (config.switchport,config.channel_group)) := by
  rw [view,find_modify self name change named,Option.map_map]
  refine Option.map_congr fun config _ => ?_
  simp only [Function.comp_apply]
  split
  · rfl
  · rfl

/-- What a synchronisation does to the view. -/
theorem view_sync {self : Device ρ} {name : InterfaceName} {config : InterfaceConfig ρ}
    (there : self.find_interface name = some config) (other : InterfaceName) :
    (self.sync_channel_switchports name).view other = (self.view other).map (fun known =>
      if joins name known.2 = true then (config.switchport,known.2) else known) := by
  unfold sync_channel_switchports joins
  cases name.port_channel with
  | none => simp
  | some number =>
    simp only [there,Option.any_some]
    rw [view,find_map _ _ _ (by intro config; split <;> rfl),view,Option.map_map,Option.map_map]
    refine Option.map_congr fun config _ => ?_
    simp only [Function.comp_apply]
    split
    · rfl
    · rfl

/-- What a new policy does to the view. -/
theorem view_put {self : Device ρ} {name : InterfaceName} (there : name ∈ self.names) (policy : Option SwitchportConfig) :
    (self.put_switchport name policy).view = self.view.put name policy := by
  obtain ⟨config,found⟩ := Option.isSome_iff_exists.mp ((self.find_isSome name).mpr there)
  have changed := self.find_modify name (fun config => { config with switchport := policy }) (fun _ => rfl) name
  rw [found,Option.map_some,if_pos rfl] at changed
  funext other
  rw [put_switchport,view_sync changed,
    self.view_modify name (fun config => { config with switchport := policy }) (fun _ => rfl),Option.map_map,View.put,
    view,Option.map_map]
  refine Option.map_congr fun config _ => ?_
  simp only [Function.comp_apply]
  by_cases own : other = name
  · simp [own]
  · simp [own]

theorem names_put (self : Device ρ) (name : InterfaceName) (policy : Option SwitchportConfig) :
    (self.put_switchport name policy).names = self.names := by
  unfold put_switchport sync_channel_switchports
  split
  · rw [names_map _ _ _ (by intro config; split <;> rfl)]
    exact self.names_modify name _ (fun _ => rfl)
  · exact self.names_modify name _ (fun _ => rfl)

theorem type_put (self : Device ρ) (name : InterfaceName) (policy : Option SwitchportConfig) :
    (self.put_switchport name policy).device_type = self.device_type := by
  unfold put_switchport sync_channel_switchports
  split
  · rfl
  · rfl

/-! ### What each command does -/

/-- What a command does: the names stay or one is added, and the view is a new one. -/
structure Effect (before after : Device ρ) (added : List InterfaceName) (view : View) : Prop where
  device_type : after.device_type = before.device_type
  names : after.names = before.names ++ added
  view : after.view = view

theorem effect_put {self : Device ρ} {name : InterfaceName} (there : name ∈ self.names)
    (policy : Option SwitchportConfig) :
    Effect self (self.put_switchport name policy) [] (self.view.put name policy) where
  device_type := self.type_put name policy
  names := by rw [names_put,List.append_nil]
  view := view_put there policy

/-- The rest of an interface is no part of the view. -/
theorem effect_rest (self : Device ρ) (change : InterfaceConfig ρ → ρ) :
    Effect self { self with interfaces := self.interfaces.map (fun config => { config with rest := change config }) } []
      self.view where
  device_type := rfl
  names := by rw [names_map _ _ _ (by intro config; rfl),List.append_nil]
  view := by
    funext name
    rw [view,find_map _ _ _ (by intro config; rfl),Option.map_map]
    rfl

theorem effect_modify_rest (self : Device ρ) (name : InterfaceName) (change : ρ → ρ) :
    Effect self (self.modify name (fun config => { config with rest := change config.rest })) [] self.view where
  device_type := rfl
  names := by rw [names_modify _ _ _ (by intro config; rfl),List.append_nil]
  view := by
    funext other
    rw [view_modify _ _ _ (by intro config; rfl),view]
    simp only [ite_self]

/-- What a new channel group does to the view. -/
theorem effect_group (self : Device ρ) (name : InterfaceName) (membership : Option ChannelMembership) :
    Effect self (self.modify name (fun config => { config with channel_group := membership })) []
      (self.view.group name membership) where
  device_type := rfl
  names := by rw [names_modify _ _ _ (by intro config; rfl),List.append_nil]
  view := by
    funext other
    rw [view_modify _ _ _ (by intro config; rfl),View.group,view,Option.map_map]
    rfl

theorem Effect.trans {first second third : Device ρ} {view last : View} (one : Effect first second [] view)
    (other : Effect second third [] last) : Effect first third [] last :=
  ⟨other.device_type.trans one.device_type,by rw [other.names,one.names,List.append_nil],
    other.view⟩

variable {self next : Device ρ} {name : InterfaceName}

theorem mem_names_of_view {known : Option SwitchportConfig × Option ChannelMembership}
    (there : self.view name = some known) :
    name ∈ self.names := by
  rw [← view_isSome,there]
  rfl

theorem set_switchport_ok {set : SwitchportConfig → SwitchportConfig} (done : self.set_switchport name set = .ok next) :
    ∃ policy group, self.view name = some (some policy,group) ∧
      Effect self next [] (self.view.put name (some (set policy))) := by
  unfold set_switchport at done
  rw [switchport_view] at done
  cases known : self.view name with
  | none => rw [known] at done; cases done
  | some entry =>
    obtain ⟨policy,group⟩ := entry
    rw [known] at done
    cases policy with
    | none => cases done
    | some policy =>
      cases done
      exact ⟨policy,group,rfl,effect_put (mem_names_of_view known) _⟩

theorem disable_switchport_ok (done : self.disable_switchport name = .ok next) :
    name ∈ self.names ∧ (name.is_ethernet || name.port_channel.isSome) = true ∧
      Effect self next [] (self.view.put name none) := by
  unfold disable_switchport at done
  split at done
  · cases done
  · rename_i admitted
    cases done
    simp only [Bool.or_eq_true,decide_eq_true_eq,not_or,Bool.not_eq_true,Bool.not_eq_false',Option.isNone_eq_false_iff] at admitted
    have there := (self.find_isSome name).mp admitted.1.2
    exact ⟨there,by simpa using admitted.2,effect_put there none⟩

/-- Entering an interface that is there changes nothing. -/
theorem enter_known {known : Option SwitchportConfig × Option ChannelMembership} (there : self.view name = some known)
    (policy : Option SwitchportConfig) : self.view.enter name policy = self.view := by
  funext other
  rw [View.enter]
  by_cases own : other = name
  · rw [if_pos own,own,there,Option.getD_some]
  · rw [if_neg own]

/-- An interface is there, as it was or new at the end. -/
structure Entered (before after : Device ρ) (name : InterfaceName) (policy : Option SwitchportConfig) : Prop where
  device_type : after.device_type = before.device_type
  names : after.names = before.names ++ if name ∈ before.names then [] else [name]
  view : after.view = before.view.enter name policy

theorem entered_known (there : name ∈ self.names) (policy : Option SwitchportConfig) : Entered self self name policy := by
  obtain ⟨known,found⟩ := Option.isSome_iff_exists.mp ((self.view_isSome name).mpr there)
  exact ⟨rfl,by rw [if_pos there,List.append_nil],(enter_known found policy).symm⟩

theorem entered_append (absent : name ∉ self.names) (config : InterfaceConfig ρ) (named : config.name = name)
    (single : config.channel_group = none) :
    Entered self { self with interfaces := self.interfaces ++ [config] } name config.switchport where
  device_type := rfl
  names := by
    rw [if_neg absent]
    simp [names,named]
  view := by
    have missing : self.find_interface name = none := by
      rw [← Option.not_isSome_iff_eq_none,find_isSome]
      exact absent
    funext other
    simp only [view,find_interface,List.find?_append,View.enter]
    by_cases own : other = name
    · subst own
      rw [if_pos rfl]
      rw [find_interface] at missing
      simp [missing,named,single]
    · rw [if_neg own]
      have different : ¬ config.name = other := fun same => own (same.symm.trans named)
      simp [different]

/-- Modifying the policy of an interface that has just been entered. -/
theorem Entered.modify {policy : Option SwitchportConfig} (entered : Entered self next name policy)
    (absent : name ∉ self.names) (other : Option SwitchportConfig) :
    Entered self (next.modify name (fun config => { config with switchport := other })) name other where
  device_type := entered.device_type
  names := by rw [names_modify _ _ _ (by intro config; rfl),entered.names]
  view := by
    have missing : self.view name = none := by
      rw [← Option.not_isSome_iff_eq_none,view_isSome]
      exact absent
    funext another
    have before := congrFun entered.view another
    rw [view_modify _ _ _ (by intro config; rfl)]
    simp only [View.enter,Device.view] at before ⊢
    by_cases own : another = name
    · subst own
      rw [Device.view] at missing
      rw [if_pos rfl,missing] at before
      obtain ⟨config,found,same⟩ := Option.map_eq_some_iff.mp before
      simp only [Option.getD_none,Prod.mk.injEq] at same
      simp only [found,if_true,missing,Option.map_some,Option.getD_none,same.2]
    · rw [if_neg own] at before
      simp only [if_neg own]
      exact before

section
variable [InterfacePolicy ρ]

theorem enable_switchport_ok (done : self.enable_switchport name = .ok next) :
    ∃ policy group, self.view name = some (policy,group) ∧ capable self.device_type name = true ∧
      Effect self next [] (self.view.put name (some (policy.getD default_switchport))) := by
  unfold enable_switchport at done
  split at done
  · cases done
  · rename_i able
    cases found : self.find_interface name with
    | none => rw [found] at done; cases done
    | some config =>
      rw [found] at done
      cases done
      have known : self.view name = some (config.switchport,config.channel_group) := by rw [view,found,Option.map_some]
      have ready : self.switchport_capable name = true := by simpa only [Bool.not_eq_true',Bool.not_eq_false] using able
      refine ⟨config.switchport,config.channel_group,known,ready,?_⟩
      have cleared := self.effect_modify_rest name InterfacePolicy.switched
      refine cleared.trans ?_
      have put := @effect_put ρ (self.modify name _) name (by
        rw [cleared.names,List.append_nil]
        exact mem_names_of_view known) (some (config.switchport.getD default_switchport))
      rw [cleared.view] at put
      exact put

theorem set_switchport_mode_ok {mode : SwitchportMode} (done : self.set_switchport_mode name mode = .ok next) :
    ∃ policy group, self.view name = some (policy,group) ∧ (policy.isSome = true ∨ capable self.device_type name = true) ∧
      Effect self next [] (self.view.put name (some { policy.getD default_switchport with mode := mode })) := by
  unfold set_switchport_mode at done
  by_cases routed : self.device_type = .Layer3Switch ∧ ¬ self.is_switchport name = true
  · rw [if_pos routed] at done
    cases enabled : self.enable_switchport name with
    | error error => rw [enabled] at done; cases done
    | ok device =>
      rw [enabled] at done
      obtain ⟨policy,group,known,able,one⟩ := enable_switchport_ok enabled
      obtain ⟨before,same,found,other⟩ := set_switchport_ok done
      rw [one.view,View.put_self known] at found
      cases found
      rw [one.view,View.put_put] at other
      exact ⟨policy,group,known,.inr able,one.trans other⟩
  · rw [if_neg routed] at done
    obtain ⟨policy,group,known,one⟩ := set_switchport_ok done
    exact ⟨some policy,group,known,.inl rfl,one⟩

theorem insert_interface_ok (done : self.insert_interface name = .ok next) :
    Entered self next name (if supports_switching self.device_type && name.is_ethernet then some default_switchport else none) := by
  unfold insert_interface at done
  split at done
  · rename_i found
    cases done
    exact entered_known ((self.find_isSome name).mp found) _
  · rename_i absent
    split at done
    · cases done
    · cases done
      exact entered_append (fun there => absent ((self.find_isSome name).mpr there))
          (new_interface self.device_type name) rfl rfl

theorem create_port_channel_ok (absent : name ∉ self.names) (done : self.create_port_channel name = .ok next) :
    Entered self next name (if supports_switching self.device_type then some default_switchport else none) := by
  unfold create_port_channel at done
  split at done
  · cases done
  · cases inserted : self.insert_interface name with
    | error error => rw [inserted] at done; cases done
    | ok device =>
      rw [inserted] at done
      cases done
      exact (insert_interface_ok inserted).modify absent _

theorem ensure_interface_ok (done : self.ensure_interface name = .ok next) :
    Entered self next name (initial_switchport self.device_type name) := by
  unfold ensure_interface at done
  split at done
  · cases done
  · split at done
    · rename_i found
      cases done
      exact entered_known ((self.find_isSome name).mp found) _
    · rename_i missing
      have absent : name ∉ self.names := fun there => missing ((self.find_isSome name).mpr there)
      split at done
      · cases done
      · rename_i logical
        cases name with
        | Physical kind numbers => exact absurd rfl logical
        | EthernetSubinterface kind numbers number =>
          have inserted : self.insert_interface (.EthernetSubinterface kind numbers number) = .ok next := by
            simp only [InterfaceName.parent,create_subinterface] at done
            split_ifs at done
            exact done
          have entered := insert_interface_ok inserted
          simpa [InterfaceName.is_ethernet,initial_switchport,capable,InterfaceName.port_channel] using entered
        | PortChannel number =>
          have entered := create_port_channel_ok absent done
          simpa [InterfaceName.is_ethernet,initial_switchport,capable,InterfaceName.port_channel] using entered
        | Loopback number =>
          have entered := insert_interface_ok done
          simpa [InterfaceName.is_ethernet,initial_switchport,capable,InterfaceName.port_channel] using entered
        | Vlan number =>
          have entered := insert_interface_ok done
          simpa [InterfaceName.is_ethernet,initial_switchport,capable,InterfaceName.port_channel] using entered

/-- A port channel is there with a policy. -/
theorem ensure_channel_ok {number : UInt16} {policy : Option SwitchportConfig}
    (done : self.ensure_channel number policy = .ok next) :
    (∀ known, self.view (.PortChannel number) = some known → known.1 = policy) ∧
      Entered self next (.PortChannel number) policy := by
  unfold ensure_channel at done
  rw [switchport_view] at done
  cases known : self.view (.PortChannel number) with
  | some entry =>
    simp only [known,Option.map_some] at done
    split at done
    · cases done
    · rename_i same
      cases done
      refine ⟨fun other there => ?_,entered_known (mem_names_of_view known) policy⟩
      cases there
      exact not_not.mp same
  | none =>
    simp only [known,Option.map_none] at done
    have absent : InterfaceName.PortChannel number ∉ self.names := by
      rw [← view_isSome,known]
      exact Bool.false_ne_true
    cases created : self.create_port_channel (.PortChannel number) with
    | error error => rw [created] at done; cases done
    | ok device =>
      rw [created] at done
      cases done
      exact ⟨fun other there => (by cases there),(create_port_channel_ok absent created).modify absent policy⟩

/-- A port joins the channel that has its policy. -/
theorem set_channel_group_ok {number : UInt16} {mode : ChannelMode}
    (done : self.set_channel_group name number mode = .ok next) :
    ∃ policy group, self.view name = some (policy,group) ∧ name.is_ethernet = true ∧
      (∀ known, self.view (.PortChannel number) = some known → known.1 = policy) ∧
      ∃ middle, Entered self middle (.PortChannel number) policy ∧
        Effect middle next [] (middle.view.group name (some ⟨number,mode⟩)) := by
  unfold set_channel_group at done
  split at done
  · cases done
  · rename_i admitted
    have ethernet : name.is_ethernet = true := by
      by_contra other
      exact admitted (.inr (.inr other))
    cases found : self.find_interface name with
    | none => rw [found] at done; cases done
    | some config =>
      simp only [found] at done
      split at done
      · cases done
      · split at done
        · cases done
        · cases ensured : self.ensure_channel number config.switchport with
          | error error => rw [ensured] at done; cases done
          | ok middle =>
            rw [ensured] at done
            cases done
            obtain ⟨agrees,entered⟩ := ensure_channel_ok ensured
            exact ⟨config.switchport,config.channel_group,by rw [view,found,Option.map_some],ethernet,agrees,middle,entered,
              effect_group middle name _⟩

end

end Device

end Rios.Switchports
