import Rios.StpSync

/-!
# Classic forward delays

Without rapid mode a port forwards only after it has kept its role, under the same root, root cost and root port,
for both forward delays. Every path that changes one of them starts the time anew, and so does every way to leave
the tree. The refreshes of a run are kept in a history, newest first.
-/

namespace Rios.ForwardDelay
open Rios.Machine Rios.Device Rios.Stp Rios.Stp.StpInstance Rios.StpSync
open Rios.Queue (SimTime)

/-! ### Port, VLAN and cost changes -/

/-- What the configuration and the learned addresses may be replaced by at any time. -/
structure Configuration where
  interfaces : OrderedMap InterfaceId Port
  vlans : List VlanId
  priorities : OrderedMap VlanId UInt16
  mac_table : OrderedMap (VlanId ×ₗ MacAddress) InterfaceId

/-- A change that no tree notices before its next refresh. -/
def configure (self : Switch) (config : Configuration) : Switch :=
  { self with
    interfaces := config.interfaces
    vlans := config.vlans
    priorities := config.priorities
    mac_table := config.mac_table }

/-- The line protocol of every port. -/
def with_lines (self : Switch) (lines : InterfaceId → Bool) : Switch :=
  { self with interfaces := self.interfaces.mapValues (fun id port => { port with line_up := lines id }) }

/-- What a tree keeps of a port without carrier: its role and state, until the next refresh. -/
def carrier_lost (id : InterfaceId) (tree : StpInstance) : StpInstance :=
  { tree with
    received := tree.received.erase id
    agreed := tree.agreed.erase id
    transitions := tree.transitions.erase id }

/-- Update physical carrier; `lines` are the line protocols that follow from it. -/
def set_link_state (self : Switch) (id : InterfaceId) (up : Bool) (lines : InterfaceId → Bool) : Switch :=
  if !self.interfaces.contains id then self
  else if up then with_lines self lines
  else { with_lines self lines with
    stp_runtime := self.stp_runtime.mapValues (fun _ tree => carrier_lost id tree)
    mac_table := self.mac_table.retain (fun _ port => port ≠ id) }

/-- What a tree keeps of a port that is shut down: its time and its agreement. -/
def shut_down (id : InterfaceId) (tree : StpInstance) : StpInstance :=
  { tree with
    received := tree.received.erase id
    ports := tree.ports.erase id }

/-- Change administrative state; `lines` are the line protocols that follow from it. -/
def set_admin_state (self : Switch) (id : InterfaceId) (up : Bool) (lines : InterfaceId → Bool) : Switch :=
  if !self.interfaces.contains id then self
  else if up then with_lines self lines
  else { with_lines self lines with
    stp_errdisabled := self.stp_errdisabled.erase id
    stp_runtime := self.stp_runtime.mapValues (fun _ tree => shut_down id tree) }

/-- Remove a non-default VLAN and its learned runtime state. -/
def remove_vlan (self : Switch) (vlan : VlanId) : Switch :=
  if !self.supports_switching || vlan = 1 then self
  else { self with
    vlans := self.vlans.filter (· ≠ vlan)
    mac_table := self.mac_table.retain (fun key _ => (ofLex key).1 ≠ vlan)
    stp_runtime := self.stp_runtime.erase vlan }

/-- Select rapid per-VLAN spanning tree. -/
def set_stp_rapid (self : Switch) (rapid : Bool) : Switch :=
  if !self.supports_switching then self else { self with rapid, stp_runtime := ∅ }

/-- A BPDU, a tick or a cost change, or any other change. -/
inductive Step where
  | event (event : StpSync.Event)
  | configure (config : Configuration)
  | set_link_state (id : InterfaceId) (up : Bool) (lines : InterfaceId → Bool)
  | set_admin_state (id : InterfaceId) (up : Bool) (lines : InterfaceId → Bool)
  | remove_vlan (vlan : VlanId)
  | set_stp_port (id : InterfaceId) (policy : StpPortConfig)
  | set_stp_rapid (rapid : Bool)

def Step.time : Step → Option SimTime
  | .event happened => happened.time
  | _ => none

def perform (self : Switch) : Step → Switch
  | .event event => apply self event
  | .configure config => configure self config
  | .set_link_state id up lines => set_link_state self id up lines
  | .set_admin_state id up lines => set_admin_state self id up lines
  | .remove_vlan vlan => remove_vlan self vlan
  | .set_stp_port id policy => (set_stp_port self id policy).2
  | .set_stp_rapid rapid => set_stp_rapid self rapid

/-- Times do not go back. -/
def Ordered : SimTime → List Step → Prop
  | _,[] => True
  | now,step :: rest => now ≤ step.time.getD now ∧ Ordered (step.time.getD now) rest

/-! ### The refreshes of a run -/

/-- A refresh of all trees, or of one VLAN's tree only, and the switch that it left. -/
structure Refresh where
  time : SimTime
  only : Option VlanId
  switch : Switch

/-- Whether a refresh is one of a VLAN. -/
def Refresh.covers (self : Refresh) (vlan : VlanId) : Bool := self.only.all (· = vlan)

/-- The refreshes of one step, newest first. -/
def refreshes_of (self : Switch) : Step → List Refresh
  | .event (.refresh now) | .event (.send now) => [⟨now,none,self.refresh_spanning_tree now⟩]
  | .event (.receive interface vlan packet now) =>
    match considers self interface vlan packet with
    | none => []
    | some (members,id) =>
      let before := considered self interface vlan members id packet now
      (if (reacting self interface vlan packet now).isSome then [⟨now,some vlan,reacted before interface vlan members packet now⟩]
        else []) ++ [⟨now,some vlan,before⟩,⟨now,none,self.refresh_spanning_tree now⟩]
  | _ => []

def history (self : Switch) : List Step → List Refresh
  | [] => []
  | step :: rest => history (perform self step) rest ++ refreshes_of self step

/-- A port's role under the elected root. -/
def standing (tree : StpInstance) (port : InterfaceId) : Option StpPortRole × UInt64 × UInt32 × Option InterfaceId :=
  (role tree port,tree.root_id,tree.root_cost,tree.root_port)

/-- What a refresh left of a port in a VLAN's tree. -/
def Refresh.standing (self : Refresh) (vlan : VlanId) (port : InterfaceId) :
    Option StpPortRole × UInt64 × UInt32 × Option InterfaceId :=
  ForwardDelay.standing (tree_of self.switch vlan) port

/-- A port without portfast forwards after a refresh. -/
def Refresh.forwards (self : Refresh) (vlan : VlanId) (port : InterfaceId) (role : StpPortRole) : Prop :=
  self.covers vlan = true ∧ (tree_of self.switch vlan).ports.get? port = some (role,.Forwarding) ∧
    self.switch.portfast port = false

/-- The ports that forward after a refresh have kept their standing for both delays. -/
def Waited (refresh : Refresh) (earlier : List Refresh) : Prop :=
  ∀ vlan port role, refresh.forwards vlan port role → (role = .Root ∨ role = .Designated) ∧
    (∀ other ∈ earlier, other.covers vlan = true → refresh.time.toNat < other.time.toNat + 30000000 →
      other.standing vlan port = refresh.standing vlan port) ∧
    ∃ other ∈ earlier, other.covers vlan = true ∧ other.time.toNat + 30000000 ≤ refresh.time.toNat ∧
      other.standing vlan port = refresh.standing vlan port

/-- Every refresh of a history, before the ones that follow it. -/
def EachWaited (log : List Refresh) : Prop :=
  ∀ later refresh earlier, log = later ++ refresh :: earlier → Waited refresh earlier

/-! ### Times that the history backs -/

section Backing
variable {log : List Refresh} {vlan : VlanId} {port : InterfaceId} {now since : SimTime} {tree : StpInstance}
  {starts : SimTime → Prop}

/-- Since a time, and at a refresh not after it, a port has had a standing. -/
def Vouched (log : List Refresh) (vlan : VlanId) (port : InterfaceId) (since : SimTime)
    (standing : Option StpPortRole × UInt64 × UInt32 × Option InterfaceId) : Prop :=
  (∃ refresh ∈ log, refresh.covers vlan = true ∧ refresh.time ≤ since ∧ refresh.standing vlan port = standing) ∧
  ∀ refresh ∈ log, refresh.covers vlan = true → since < refresh.time → refresh.standing vlan port = standing

/-- The time of a port that has a role is backed by the history, but for those that start right now. -/
def Backed (starts : SimTime → Prop) (log : List Refresh) (vlan : VlanId) (port : InterfaceId) (tree : StpInstance) : Prop :=
  ∀ since, tree.transitions.get? port = some since → (role tree port).isSome = true →
    starts since ∨ Vouched log vlan port since (standing tree port)

theorem backed_default : Backed starts log vlan port .default := fun _ known => nomatch known

/-- A tree with the same time, role and root, or without the time or the role. -/
theorem Backed.same (backed : Backed starts log vlan port tree) {other : StpInstance}
    (same : ∀ since, other.transitions.get? port = some since → (role other port).isSome = true →
      tree.transitions.get? port = some since ∧ standing other port = standing tree port) :
    Backed starts log vlan port other := by
  intro since known present
  obtain ⟨old,isSame⟩ := same since known present
  rw [isSame]
  have isRole : role other port = role tree port := congrArg (·.1) isSame
  exact backed since old (isRole ▸ present)

theorem Backed.weaken (backed : Backed (fun _ => False) log vlan port tree) : Backed starts log vlan port tree :=
  fun since known present => .inr ((backed since known present).resolve_left (fun impossible => impossible))

/-- A recomputation starts a time or keeps it with the standing. -/
theorem Backed.recompute (backed : Backed (· = now) log vlan port tree) (bridge : Bridge) (ports : List InterfaceId) :
    Backed (· = now) log vlan port (tree.recompute bridge ports now) := by
  obtain ⟨-,times,-⟩ := recompute_timers tree bridge ports now port
  intro since known present
  rcases times since known with isNow | ⟨old,isRole,isRoot⟩
  · exact .inl isNow
  · have same : standing (tree.recompute bridge ports now) port = standing tree port := by
      rw [standing,standing,← isRole]
      exact congrArg (Prod.mk _) isRoot.symm
    rw [same]
    exact backed since old (isRole ▸ present)

/-- A refresh that is recorded backs the times that it started. -/
theorem Backed.record {switch : Switch} {only : Option VlanId}
    (backed : Backed (· = now) log vlan port (tree_of switch vlan))
    (covers : Refresh.covers ⟨now,only,switch⟩ vlan = true) (past : ∀ refresh ∈ log, refresh.time ≤ now) :
    Backed (fun _ => False) (⟨now,only,switch⟩ :: log) vlan port (tree_of switch vlan) := by
  intro since known present
  refine .inr ?_
  rcases backed since known present with rfl | ⟨⟨refresh,member,isOf,before,same⟩,after⟩
  · refine ⟨⟨_,List.mem_cons_self,covers,le_refl _,rfl⟩,?_⟩
    intro refresh member _ later
    rcases List.mem_cons.mp member with rfl | old
    · exact absurd later (lt_irrefl _)
    · exact absurd later (not_lt.mpr (past refresh old))
  · refine ⟨⟨refresh,List.mem_cons_of_mem _ member,isOf,before,same⟩,?_⟩
    intro refresh member isOf later
    rcases List.mem_cons.mp member with rfl | old
    · rfl
    · exact after refresh old isOf later

/-- A refresh of another VLAN. -/
theorem Backed.skip (backed : Backed (fun _ => False) log vlan port tree) {refresh : Refresh}
    (other : refresh.covers vlan = false) : Backed (fun _ => False) (refresh :: log) vlan port tree := by
  intro since known present
  obtain ⟨⟨found,member,isOf,before,same⟩,after⟩ := (backed since known present).resolve_left (fun impossible => impossible)
  refine .inr ⟨⟨found,List.mem_cons_of_mem _ member,isOf,before,same⟩,?_⟩
  intro later isIn isOf' time
  rcases List.mem_cons.mp isIn with rfl | old
  · rw [other] at isOf'
    cases isOf'
  · exact after later old isOf' time

end Backing

/-! ### One refresh -/

section Rounds
variable {log : List Refresh} {vlan : VlanId} {port : InterfaceId} {clock now : SimTime} {switch : Switch}

theorem EachWaited.cons {refresh : Refresh} (rest : EachWaited log) (first : Waited refresh log) :
    EachWaited (refresh :: log) := by
  intro later found earlier split
  cases later with
  | nil =>
    rw [List.nil_append,List.cons.injEq] at split
    rw [← split.1,← split.2]
    exact first
  | cons head tail =>
    rw [List.cons_append,List.cons.injEq] at split
    exact rest tail found earlier split.2

/-- A tree as a recomputation of the switch's present configuration left it. -/
def Recomputed (switch : Switch) (now : SimTime) (tree : StpInstance) : Prop :=
  tree = .default ∨ ∃ (before : StpInstance) (bridge : Bridge) (ports : List InterfaceId), bridge.rapid = switch.rapid ∧
    bridge.portfast = switch.portfast ∧
    tree = before.recompute bridge ports now

/-- A port that forwards has waited in full, as its time is backed. -/
theorem waited_of_backed {only : Option VlanId} (classic : switch.rapid = false)
    (backed : ∀ vlan port, Refresh.covers ⟨now,only,switch⟩ vlan = true → Backed (· = now) log vlan port (tree_of switch vlan))
    (recomputed : ∀ vlan, Refresh.covers ⟨now,only,switch⟩ vlan = true → Recomputed switch now (tree_of switch vlan)) :
    Waited ⟨now,only,switch⟩ log := by
  rintro vlan port found ⟨covers,state,slow⟩
  rcases recomputed vlan covers with empty | ⟨before,bridge,ports,isRapid,isFast,isTree⟩
  · dsimp only at state
    rw [empty] at state
    cases state
  · obtain ⟨-,-,states⟩ := recompute_timers before bridge ports now port
    rw [← isTree] at states
    obtain ⟨since,known,isState⟩ := states found .Forwarding state
    obtain ⟨active,reason⟩ := port_state_forwarding isState.symm
    have isRole : found = .Root ∨ found = .Designated := by
      cases found with
      | Root => exact .inl rfl
      | Designated => exact .inr rfl
      | Alternate => exact absurd rfl active
    have delays : since.toNat + 30000000 ≤ now.toNat := by
      rcases reason with edge | agreement | delays
      · rw [isFast] at edge
        rw [slow] at edge
        cases edge.1
      · rw [isRapid,classic] at agreement
        cases agreement.1
      · exact delays
    have present : (role (tree_of switch vlan) port).isSome = true := by
      rw [role,state]
      rfl
    refine ⟨isRole,?_⟩
    rcases backed vlan port covers since known present with rfl | ⟨⟨refresh,member,isOf,time,same⟩,after⟩
    · omega
    · rw [UInt64.le_iff_toNat_le] at time
      refine ⟨?_,refresh,member,isOf,by dsimp only; omega,same⟩
      intro other isIn isOf' recent
      refine after other isIn isOf' (UInt64.lt_iff_toNat_lt.mpr ?_)
      dsimp only at recent
      omega

theorem refresh_recomputes (switching : switch.supports_switching = true) (now : SimTime) (vlan : VlanId) :
    Recomputed switch now (tree_of (switch.refresh_spanning_tree now) vlan) := by
  rcases refresh_tree switching now vlan with ⟨-,empty⟩ | ⟨before,id,ports,-,-,isTree⟩
  · exact .inl empty
  · exact .inr ⟨before,switch.bridge id,ports,rfl,rfl,isTree⟩

end Rounds

/-! ### Whole runs -/

section Runs
variable {log : List Refresh} {clock now : SimTime} {switch : Switch}

/-- A switch without rapid mode whose history backs its times. -/
structure Accounted (log : List Refresh) (clock : SimTime) (switch : Switch) : Prop where
  switching : switch.supports_switching = true
  classic : switch.rapid = false
  past : ∀ refresh ∈ log, refresh.time ≤ clock
  backed : ∀ vlan port, Backed (fun _ => False) log vlan port (tree_of switch vlan)
  waited : EachWaited log

theorem Accounted.later (known : Accounted log clock switch) (time : clock ≤ now) : Accounted log now switch where
  switching := known.switching
  classic := known.classic
  past := fun refresh member => (known.past refresh member).trans time
  backed := known.backed
  waited := known.waited

/-- A refresh of some trees is recorded; the others are as they were. -/
theorem Accounted.record (known : Accounted log now switch) {after : Switch} {only : Option VlanId}
    (switching : after.supports_switching = true) (classic : after.rapid = false)
    (backed : ∀ vlan port, Refresh.covers ⟨now,only,after⟩ vlan = true → Backed (· = now) log vlan port (tree_of after vlan))
    (recomputed : ∀ vlan, Refresh.covers ⟨now,only,after⟩ vlan = true → Recomputed after now (tree_of after vlan))
    (others : ∀ vlan, Refresh.covers ⟨now,only,after⟩ vlan = false → tree_of after vlan = tree_of switch vlan) :
    Accounted (⟨now,only,after⟩ :: log) now after where
  switching := switching
  classic := classic
  past := by
    intro refresh member
    rcases List.mem_cons.mp member with rfl | old
    · exact le_refl _
    · exact known.past refresh old
  backed := by
    intro vlan port
    cases covers : Refresh.covers ⟨now,only,after⟩ vlan with
    | true => exact (backed vlan port covers).record covers known.past
    | false =>
      rw [others vlan covers]
      exact (known.backed vlan port).skip covers
  waited := known.waited.cons (waited_of_backed classic backed recomputed)

theorem Accounted.refresh (known : Accounted log clock switch) (time : clock ≤ now) :
    Accounted (⟨now,none,switch.refresh_spanning_tree now⟩ :: log) now (switch.refresh_spanning_tree now) := by
  have config := refresh_config switch now
  refine (known.later time).record ((refresh_trees switch now).switching.trans known.switching)
    (config.rapid.trans known.classic) ?_ ?_ ?_
  · intro vlan port _
    exact refresh_keeps switch now vlan backed_default (known.backed vlan port).weaken
      (fun _ id ports backed => backed.recompute (switch.bridge id) ports)
  · intro vlan _
    rcases refresh_recomputes known.switching now vlan with empty | ⟨before,bridge,ports,rapid,fast,isTree⟩
    · exact .inl empty
    · exact .inr ⟨before,bridge,ports,rapid.trans config.rapid.symm,fast.trans config.portfast.symm,isTree⟩
  · intro vlan uncovered
    cases uncovered

variable {port : InterfaceId} {vlan : VlanId} {tree : StpInstance}

/-- An arrival starts a time or keeps it. -/
theorem Backed.arrived (backed : Backed (fun _ => False) log vlan port tree) (interface : InterfaceId)
    (packet : StpBpdu) (guarded : Bool) :
    Backed (· = now) log vlan port (arrived tree interface packet guarded now) := by
  intro since known present
  have kept : since = now ∨ tree.transitions.get? port = some since := by
    rw [StpSync.arrived] at known
    dsimp only at known
    by_cases seen : tree.received.contains interface = true
    · rw [if_pos seen] at known
      exact .inr known
    · rw [if_neg seen,OrderedMap.get?_insert] at known
      by_cases same : port = interface
      · rw [if_pos same] at known
        cases known
        exact .inl rfl
      · rw [if_neg same] at known
        exact .inr known
  rcases kept with isNow | old
  · exact .inl isNow
  · exact .inr ((backed since old present).resolve_left (fun impossible => impossible))

theorem Accounted.considered (known : Accounted log now (switch.refresh_spanning_tree now)) (interface : InterfaceId)
    (members : List InterfaceId) {id : UInt64} (identified : switch.bridge_id vlan = some id) (packet : StpBpdu) :
    Accounted (⟨now,some vlan,considered switch interface vlan members id packet now⟩ :: log) now
      (considered switch interface vlan members id packet now) := by
  have config := considered_config switch interface vlan members id packet now
  have trees := considered_tree switch interface members identified packet now
  have refreshed := (refresh_config switch now).rapid.symm.trans known.classic
  refine known.record ?_ (config.rapid.trans refreshed) ?_ ?_ ?_
  · exact ((considered_trees switch interface vlan members id packet now).switching.trans
      (refresh_trees switch now).switching.symm).trans known.switching
  · intro other port covers
    obtain rfl : vlan = other := of_decide_eq_true covers
    rw [trees vlan,if_pos rfl]
    exact ((known.backed vlan port).arrived interface packet _).recompute (switch.bridge id) members
  · intro other covers
    obtain rfl : vlan = other := of_decide_eq_true covers
    rw [trees vlan,if_pos rfl]
    exact .inr ⟨_,switch.bridge id,members,config.rapid.symm,config.portfast.symm,rfl⟩
  · intro other uncovered
    have isOther : vlan ≠ other := of_decide_eq_false uncovered
    rw [trees other,if_neg isOther.symm]

/-! ### Changes -/

/-- A change after which the trees' times are still backed. -/
theorem Accounted.change (known : Accounted log clock switch) {after : Switch} (switching : after.supports_switching = true)
    (classic : after.rapid = false)
    (trees : ∀ vlan port, Backed (fun _ => False) log vlan port (tree_of switch vlan) →
      Backed (fun _ => False) log vlan port (tree_of after vlan)) :
    Accounted log clock after where
  switching := switching
  classic := classic
  past := known.past
  backed := fun vlan port => trees vlan port (known.backed vlan port)
  waited := known.waited

/-- A tree with fewer times and states under the same root. -/
theorem Backed.shrink {other : StpInstance} {starts : SimTime → Prop} (backed : Backed starts log vlan port tree)
    (times : ∀ since, other.transitions.get? port = some since → tree.transitions.get? port = some since)
    (states : ∀ entry, other.ports.get? port = some entry → tree.ports.get? port = some entry)
    (root : (other.root_id,other.root_cost,other.root_port) = (tree.root_id,tree.root_cost,tree.root_port)) :
    Backed starts log vlan port other := by
  refine backed.same (fun since known present => ⟨times since known,?_⟩)
  rw [role,Option.isSome_map,Option.isSome_iff_exists] at present
  obtain ⟨entry,state⟩ := present
  have isRole : role other port = role tree port := by
    rw [role,role,state,states entry state]
  rw [standing,standing,isRole]
  exact congrArg (Prod.mk _) root

theorem tree_of_mapValues (switch : Switch) (write : StpInstance → StpInstance) {after : Switch}
    (empty : write .default = .default)
    (written : after.stp_runtime = switch.stp_runtime.mapValues (fun _ tree => write tree)) (vlan : VlanId) :
    tree_of after vlan = write (tree_of switch vlan) := by
  rw [tree_of,written,OrderedMap.get?_mapValues,tree_of]
  cases switch.stp_runtime.get? vlan with
  | none => exact empty.symm
  | some tree => rfl

/-- An entry that survives an erasure. -/
theorem erased {ν : Type} {entries : OrderedMap InterfaceId ν} {id : InterfaceId} {found : ν}
    (present : (entries.erase id).get? port = some found) : entries.get? port = some found :=
  (OrderedMap.get?_retain_eq_some.mp present).1

theorem Backed.carrier_lost (backed : Backed (fun _ => False) log vlan port tree) (id : InterfaceId) :
    Backed (fun _ => False) log vlan port (carrier_lost id tree) :=
  backed.shrink (fun _ => erased) (fun _ state => state) rfl

theorem Backed.shut_down (backed : Backed (fun _ => False) log vlan port tree) (id : InterfaceId) :
    Backed (fun _ => False) log vlan port (shut_down id tree) :=
  backed.shrink (fun _ known => known) (fun _ => erased) rfl

theorem Backed.unplugged (backed : Backed (fun _ => False) log vlan port tree) (id : InterfaceId) :
    Backed (fun _ => False) log vlan port (unplugged id tree) :=
  backed.shrink (fun _ known => known) (fun _ => erased) rfl

theorem Backed.unguarded (backed : Backed (fun _ => False) log vlan port tree) (id : InterfaceId) :
    Backed (fun _ => False) log vlan port (unguarded id tree) := by
  rw [StpSync.unguarded]
  cases tree.received.get? id with
  | none => exact backed
  | some peer => exact backed.shrink (fun _ known => known) (fun _ state => state) rfl

theorem Accounted.set_link_state (known : Accounted log clock switch) (id : InterfaceId) (up : Bool)
    (lines : InterfaceId → Bool) :
    Accounted log clock (set_link_state switch id up lines) := by
  rw [ForwardDelay.set_link_state]
  split
  · exact known
  · split
    · exact known.change known.switching known.classic (fun _ _ backed => backed)
    · refine known.change known.switching known.classic (fun vlan port backed => ?_)
      rw [tree_of_mapValues switch (ForwardDelay.carrier_lost id) rfl rfl]
      exact backed.carrier_lost id

theorem Accounted.set_admin_state (known : Accounted log clock switch) (id : InterfaceId) (up : Bool)
    (lines : InterfaceId → Bool) :
    Accounted log clock (set_admin_state switch id up lines) := by
  rw [ForwardDelay.set_admin_state]
  split
  · exact known
  · split
    · exact known.change known.switching known.classic (fun _ _ backed => backed)
    · refine known.change known.switching known.classic (fun vlan port backed => ?_)
      rw [tree_of_mapValues switch (ForwardDelay.shut_down id) rfl rfl]
      exact backed.shut_down id

theorem Accounted.remove_vlan (known : Accounted log clock switch) (vlan : VlanId) :
    Accounted log clock (remove_vlan switch vlan) := by
  rw [ForwardDelay.remove_vlan]
  split
  · exact known
  · refine known.change known.switching known.classic (fun other port backed => ?_)
    rw [tree_of,OrderedMap.get?_erase]
    by_cases same : other = vlan
    · rw [if_pos same]
      exact backed_default
    · rw [if_neg same]
      exact backed

theorem Accounted.set_stp_port (known : Accounted log clock switch) (id : InterfaceId) (policy : StpPortConfig) :
    Accounted log clock (set_stp_port switch id policy).2 := by
  rw [StpSync.set_stp_port]
  cases switch.interfaces.get? id with
  | none => exact known
  | some port =>
    dsimp only
    split
    · exact known
    · by_cases guard : policy.root_guard = true
      · refine known.change known.switching known.classic (fun vlan port backed => ?_)
        rw [tree_of,if_pos guard]
        exact backed
      · refine known.change known.switching known.classic (fun vlan port backed => ?_)
        rw [tree_of_mapValues switch (StpSync.unguarded id) rfl (if_neg guard)]
        exact backed.unguarded id

theorem Accounted.set_stp_rapid (known : Accounted log clock switch) : Accounted log clock (set_stp_rapid switch false) := by
  rw [ForwardDelay.set_stp_rapid]
  split
  · exact known
  · exact known.change known.switching rfl (fun _ _ _ => backed_default)

/-! ### Steps -/

theorem Accounted.receive (known : Accounted log clock switch) (interface : InterfaceId) (vlan : VlanId) (packet : StpBpdu)
    (time : clock ≤ now) :
    Accounted (refreshes_of switch (.event (.receive interface vlan packet now)) ++ log) now
      (switch.receive_stp_packet interface vlan packet now).2 := by
  rw [refreshes_of]
  rcases receive_cases switch interface vlan packet now with ⟨ignored,-,same⟩ | ⟨ignored,-,-,guarded⟩ |
    ⟨members,id,taken,-,-,identified,⟨silent,settled⟩ | ⟨-,rapid,-⟩⟩
  · rw [ignored,same]
    exact known.later time
  · rw [ignored,guarded]
    refine (known.later time).change known.switching known.classic (fun other port backed => ?_)
    rw [guard_port_tree]
    exact backed.unplugged interface
  · rw [taken,silent,settled]
    exact (known.refresh time).considered interface members identified packet
  · rw [known.classic] at rapid
    cases rapid

/-- One step: what it refreshes is recorded. -/
theorem Accounted.perform (known : Accounted log clock switch) {step : Step} (time : clock ≤ step.time.getD clock)
    (classic : step ≠ .set_stp_rapid true) :
    Accounted (refreshes_of switch step ++ log) (step.time.getD clock) (perform switch step) := by
  cases step with
  | event event =>
    cases event with
    | receive interface vlan packet now => exact known.receive interface vlan packet time
    | refresh now => exact known.refresh time
    | send now => exact known.refresh time
    | set_stp_cost id cost =>
      rw [ForwardDelay.perform,apply,StpSync.set_stp_cost]
      cases switch.interfaces.get? id with
      | none => exact known
      | some port => exact known.set_stp_port id { port.spanning_tree with cost }
  | configure config => exact known.change known.switching known.classic (fun _ _ backed => backed)
  | set_link_state id up lines => exact known.set_link_state id up lines
  | set_admin_state id up lines => exact known.set_admin_state id up lines
  | remove_vlan vlan => exact known.remove_vlan vlan
  | set_stp_port id policy => exact known.set_stp_port id policy
  | set_stp_rapid rapid =>
    cases rapid with
    | true => exact absurd rfl classic
    | false => exact known.set_stp_rapid

theorem Accounted.history (known : Accounted log clock switch) {steps : List Step} (ordered : Ordered clock steps)
    (classic : ∀ step ∈ steps, step ≠ .set_stp_rapid true) : EachWaited (history switch steps ++ log) := by
  induction steps generalizing log clock switch with
  | nil => exact known.waited
  | cons step rest ih =>
    rw [ForwardDelay.history,List.append_assoc]
    exact ih (known.perform ordered.1 (classic step List.mem_cons_self)) ordered.2
      (fun later member => classic later (List.mem_cons_of_mem _ member))

end Runs

/-! ### Learned addresses -/

/-- A recomputation that changes the root or a port of the tree forgets the addresses of its VLAN, and no others. -/
theorem recompute_forgets (switch : Switch) (vlan : VlanId) (ports : List InterfaceId) (now : SimTime) :
    let before := tree_of switch vlan
    let after := tree_of (switch.recompute_stp_instance vlan ports now) vlan
    let addresses := (switch.recompute_stp_instance vlan ports now).mac_table
    ((before.root_id,before.root_cost,before.root_port) ≠ (after.root_id,after.root_cost,after.root_port) ∨
        (∃ port entry, before.ports.get? port = some entry ∧ after.ports.get? port ≠ some entry) →
      ∀ mac, addresses.get? (toLex (vlan,mac)) = none) ∧
    ∀ other mac, other ≠ vlan → addresses.get? (toLex (other,mac)) = switch.mac_table.get? (toLex (other,mac)) := by
  intro before after addresses
  cases identified : switch.bridge_id vlan with
  | none =>
    have same : switch.recompute_stp_instance vlan ports now = switch := by
      rw [Switch.recompute_stp_instance,identified]
    refine ⟨?_,fun other mac _ => by rw [show addresses = _ from congrArg (·.mac_table) same]⟩
    have sameTree : after = before := congrArg (tree_of · vlan) same
    rintro (root | ⟨port,entry,found,changed⟩)
    · rw [sameTree] at root
      exact absurd rfl root
    · rw [sameTree] at changed
      exact absurd found changed
  | some id =>
    have isAfter : after = before.recompute (switch.bridge id) ports now := by
      rw [show after = _ from recompute_tree identified ports now vlan,if_pos rfl]
    have isTable : addresses = if before.changed (switch.bridge id) ports now then
        switch.mac_table.retain (fun key _ => (ofLex key).1 ≠ vlan) else switch.mac_table := by
      show (switch.recompute_stp_instance vlan ports now).mac_table = _
      rw [Switch.recompute_stp_instance,identified]
      rfl
    refine ⟨?_,?_⟩
    · intro changes mac
      have changed : before.changed (switch.bridge id) ports now = true := by
        rw [StpInstance.changed,Bool.or_eq_true]
        rcases changes with root | ⟨port,entry,found,changed⟩
        · obtain ⟨-,elected,-,-⟩ := recompute_correct before (switch.bridge id) ports now
          rw [← isAfter] at elected
          rw [elected] at root
          exact .inl (decide_eq_true root)
        · rw [isAfter] at changed
          refine .inr (List.any_eq_true.mpr ⟨(port,entry),(OrderedMap.get?_eq_some _ _ _).mp found,decide_eq_true changed⟩)
      rw [isTable,if_pos changed,OrderedMap.get?_retain]
      cases switch.mac_table.get? (toLex (vlan,mac)) with
      | none => rfl
      | some port => simp
    · intro other mac isOther
      rw [isTable]
      by_cases changed : before.changed (switch.bridge id) ports now = true
      · rw [if_pos changed,OrderedMap.get?_retain]
        cases switch.mac_table.get? (toLex (other,mac)) with
        | none => rfl
        | some port => simp [isOther]
      · rw [if_neg changed]

/-- A classic switch without trees. -/
structure Fresh (switch : Switch) : Prop where
  switching : switch.supports_switching = true
  classic : switch.rapid = false
  empty : switch.stp_runtime = ∅

theorem Fresh.accounted {switch : Switch} (fresh : Fresh switch) (clock : SimTime) : Accounted [] clock switch where
  switching := fresh.switching
  classic := fresh.classic
  past := fun _ member => absurd member List.not_mem_nil
  backed := by
    intro vlan port
    rw [tree_of,fresh.empty]
    exact backed_default
  waited := by
    intro later refresh earlier split
    exact absurd split.symm (by simp)

/-- In every run without rapid mode, a port that forwards has kept its role, root, root cost and root port at every
    refresh of less than both delays ago and at one before them, and a recomputation that changes one of them for some
    port of the tree forgets the addresses of its VLAN. -/
theorem classic_forward_delay :
    (∀ switch start steps, Fresh switch → Ordered start steps → (∀ step ∈ steps, step ≠ .set_stp_rapid true) →
      EachWaited (history switch steps)) ∧
    ∀ (switch : Switch) (vlan : VlanId) (ports : List InterfaceId) (now : SimTime),
      let before := tree_of switch vlan
      let after := tree_of (switch.recompute_stp_instance vlan ports now) vlan
      let addresses := (switch.recompute_stp_instance vlan ports now).mac_table
      ((before.root_id,before.root_cost,before.root_port) ≠ (after.root_id,after.root_cost,after.root_port) ∨
          (∃ port entry, before.ports.get? port = some entry ∧ after.ports.get? port ≠ some entry) →
        ∀ mac, addresses.get? (toLex (vlan,mac)) = none) ∧
      ∀ other mac, other ≠ vlan → addresses.get? (toLex (other,mac)) = switch.mac_table.get? (toLex (other,mac)) := by
  refine ⟨?_,recompute_forgets⟩
  intro switch start steps fresh ordered classic
  have waited := (fresh.accounted start).history ordered classic
  rwa [List.append_nil] at waited

/-! ### At the boundary -/

/-- A switch with one access port. -/
def one_port : Switch := ⟨true,OrderedMap.ofList [(1,access_port 1 false)],[1],false,∅,∅,∅,∅⟩

/-- A configuration BPDU of a better root. -/
def better_root (now : SimTime) : Step := .event (.receive 1 1 (.new ⟨5,0,5,1⟩ false 0) now)

/-- The port turns into the root port right after a refresh, and is refreshed exactly both delays later. -/
def boundary : List Step := [.event (.refresh 0),better_root 0,better_root 15000000,.event (.refresh 30000000)]

theorem boundary_ordered : Ordered 0 boundary :=
  ⟨le_refl _,le_refl _,by decide +kernel,by decide +kernel,trivial⟩

theorem boundary_classic : ∀ step ∈ boundary, step ≠ .set_stp_rapid true := by
  intro step member same
  subst same
  simp [boundary,better_root] at member

theorem classic_forward_delay_boundary : Fresh one_port ∧ EachWaited (history one_port boundary) :=
  ⟨⟨rfl,rfl,rfl⟩,classic_forward_delay.1 one_port 0 boundary ⟨rfl,rfl,rfl⟩ boundary_ordered boundary_classic⟩

/-- The switch before the last refresh. -/
def boundary_switch : Switch := perform (perform (perform one_port (.event (.refresh 0))) (better_root 0))
    (better_root 15000000)

/-- A second access port comes up next to a learned address. -/
def joining : Switch :=
  configure (one_port.refresh_spanning_tree 0)
    ⟨OrderedMap.ofList [(1,access_port 1 false),(2,access_port 2 false)],[1],∅,(∅ : OrderedMap _ _).insert
      (toLex (1,⟨Vector.replicate 6 2⟩)) 1⟩

/-- A refresh exactly both delays ago may have left another role, and a port that joins the tree leaves the learned
    addresses alone. -/
theorem other_role_at_boundary :
    (¬ ∀ switch start steps, Fresh switch → Ordered start steps → (∀ step ∈ steps, step ≠ .set_stp_rapid true) →
      ∀ later refresh earlier, history switch steps = later ++ refresh :: earlier → ∀ vlan port role, refresh.forwards vlan port role →
        ∀ other ∈ earlier, other.covers vlan = true → refresh.time.toNat ≤ other.time.toNat + 30000000 →
          other.standing vlan port = refresh.standing vlan port) ∧
    joining.stp_ports.get? 1 = some [1,2] ∧ role (tree_of joining 1) 2 = none ∧
    role (tree_of (joining.recompute_stp_instance 1 [1,2] 1) 1) 2 = some .Designated ∧
    (joining.recompute_stp_instance 1 [1,2] 1).mac_table.get? (toLex (1,⟨Vector.replicate 6 2⟩)) = some 1 := by
  refine ⟨?_,by decide +kernel,by decide +kernel,by decide +kernel,by decide +kernel⟩
  intro steady
  have forwards : Refresh.forwards ⟨30000000,none,boundary_switch.refresh_spanning_tree 30000000⟩ 1 1 .Root :=
    ⟨rfl,by decide +kernel,by decide +kernel⟩
  have same := steady one_port 0 boundary ⟨rfl,rfl,rfl⟩ boundary_ordered boundary_classic [] _ _ rfl 1 1 .Root forwards
    ⟨0,none,one_port.refresh_spanning_tree 0⟩ (List.mem_append_right _ List.mem_cons_self) rfl (by decide +kernel)
  have roles : role (tree_of (one_port.refresh_spanning_tree 0) 1) 1 =
      role (tree_of (boundary_switch.refresh_spanning_tree 30000000) 1) 1 := congrArg (·.1) same
  revert roles
  decide +kernel

end Rios.ForwardDelay
