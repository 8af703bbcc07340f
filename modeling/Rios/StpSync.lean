import Rios.Stp

/-!
# Rapid synchronisation

A root port agrees only once the other ports of the tree have fallen back. From
then on each of them waits for an agreement of its own or for the two forwarding
delays, whatever BPDUs, ticks and cost changes follow, unless it turns into an
edge port or becomes the root port and synchronises in its turn.
-/

namespace Rios.StpSync
open Rios.Machine Rios.Device Rios.Stp Rios.Stp.StpInstance
open Rios.Queue (SimTime)

/-! ### One recomputation -/

section Rounds
variable (bridge : Bridge) (now : SimTime) (previous : OrderedMap InterfaceId (StpPortRole × StpPortState))

theorem port_state_congr {self other : StpInstance} {port : InterfaceId}
    (received : self.received.get? port = other.received.get? port)
    (agreed : self.agreed.contains port = other.agreed.contains port) (role : StpPortRole) (since : SimTime) :
    self.port_state bridge port role since now = other.port_state bridge port role since now := by
  rw [port_state,port_state,received,agreed]

/-- A round leaves other ports alone. -/
theorem refresh_port_other (self : StpInstance) {first port : InterfaceId} (other : port ≠ first) :
    (refresh_port bridge now previous self first).agreed.contains port = self.agreed.contains port ∧
      (refresh_port bridge now previous self first).transitions.get? port = self.transitions.get? port ∧
      (refresh_port bridge now previous self first).ports.get? port = self.ports.get? port := by
  rw [refresh_port]
  dsimp only
  by_cases fresh : (previous.get? first).all (fun old => old.1 ≠ self.port_role bridge first) = true
  · rw [if_pos fresh]
    dsimp only
    rw [OrderedMap.contains,OrderedMap.get?_erase,if_neg other,OrderedMap.get?_insert,if_neg other,OrderedMap.get?_insert,if_neg other,
      OrderedMap.get?_insert,if_neg other]
    exact ⟨rfl,rfl,rfl⟩
  · rw [if_neg fresh]
    rw [OrderedMap.get?_insert,if_neg other,OrderedMap.get?_insert,if_neg other]
    exact ⟨rfl,rfl,rfl⟩

/-- The round of a port: an agreement survives only with the role, and the state follows from the time in it. -/
theorem refresh_port_self (self : StpInstance) (port : InterfaceId) :
    let after := refresh_port bridge now previous self port
    (after.agreed.contains port = true → self.agreed.contains port = true ∧
      (previous.get? port).map (·.1) = some (self.port_role bridge port)) ∧
    ∃ since, after.transitions.get? port = some since ∧
      (since = now ∨ self.transitions.get? port = some since ∧ (previous.get? port).map (·.1) = some (self.port_role bridge port)) ∧
      after.ports.get? port = some (self.port_role bridge port,after.port_state bridge port (self.port_role bridge port) since now) := by
  rw [refresh_port]
  dsimp only
  by_cases fresh : (previous.get? port).all (fun old => old.1 ≠ self.port_role bridge port) = true
  · rw [if_pos fresh]
    dsimp only
    refine ⟨?_,now,?_,.inl rfl,?_⟩
    · intro agreed
      rw [OrderedMap.contains,OrderedMap.get?_erase,if_pos rfl] at agreed
      cases agreed
    · rw [OrderedMap.get?_insert_self,OrderedMap.get?_insert_self]
      rfl
    · rw [OrderedMap.get?_insert_self,OrderedMap.get?_insert_self]
      rfl
  · have sameRole : (previous.get? port).map (·.1) = some (self.port_role bridge port) := by
      cases old : previous.get? port with
      | none =>
        rw [old] at fresh
        exact absurd rfl fresh
      | some old' =>
        rw [old] at fresh
        simpa using fresh
    rw [if_neg fresh]
    refine ⟨fun agreed => ⟨agreed,sameRole⟩,(self.transitions.get? port).getD now,OrderedMap.get?_insert_self ..,?_,
      OrderedMap.get?_insert_self ..⟩
    cases self.transitions.get? port with
    | none => exact .inl rfl
    | some since => exact .inr ⟨rfl,sameRole⟩

/-- The rounds of other ports. -/
theorem refresh_ports_other (ports : List InterfaceId) (self : StpInstance) {port : InterfaceId} (absent : port ∉ ports) :
    (ports.foldl (refresh_port bridge now previous) self).agreed.contains port = self.agreed.contains port ∧
      (ports.foldl (refresh_port bridge now previous) self).transitions.get? port = self.transitions.get? port ∧
      (ports.foldl (refresh_port bridge now previous) self).ports.get? port = self.ports.get? port := by
  induction ports generalizing self with
  | nil => exact ⟨rfl,rfl,rfl⟩
  | cons first rest ih =>
    rw [List.mem_cons,not_or] at absent
    obtain ⟨agreed,transitions,states⟩ := refresh_port_other bridge now previous self absent.1
    obtain ⟨restAgreed,restTransitions,restStates⟩ := ih (refresh_port bridge now previous self first) absent.2
    exact ⟨restAgreed.trans agreed,restTransitions.trans transitions,restStates.trans states⟩

/-- The whole loop, for one port. -/
theorem refresh_ports_timers (ports : List InterfaceId) (self : StpInstance) (port : InterfaceId) :
    let after := ports.foldl (refresh_port bridge now previous) self
    (after.agreed.contains port = true → self.agreed.contains port = true ∧
      (port ∈ ports → (previous.get? port).map (·.1) = some (self.port_role bridge port))) ∧
    (∀ since, after.transitions.get? port = some since → since = now ∨ self.transitions.get? port = some since ∧
      (port ∈ ports → (previous.get? port).map (·.1) = some (self.port_role bridge port))) ∧
    (port ∈ ports → ∃ since, after.transitions.get? port = some since ∧
      after.ports.get? port = some (self.port_role bridge port,after.port_state bridge port (self.port_role bridge port) since now)) := by
  induction ports generalizing self with
  | nil =>
    exact ⟨fun agreed => ⟨agreed,fun member => absurd member List.not_mem_nil⟩,
      fun _ known => .inr ⟨known,fun member => absurd member List.not_mem_nil⟩,fun member => absurd member List.not_mem_nil⟩
  | cons first rest ih =>
    obtain ⟨agrees,times,states⟩ := ih (refresh_port bridge now previous self first)
    obtain ⟨id,cost,root,received,-⟩ := refresh_port_correct bridge now previous self first
    have role := port_role_congr id cost root received bridge port
    rw [role] at agrees times states
    rw [List.foldl_cons]
    by_cases same : port = first
    · subst same
      obtain ⟨own,since,started,origin,state⟩ := refresh_port_self bridge now previous self port
      refine ⟨fun agreed => ?_,fun time known => ?_,fun _ => ?_⟩
      · have before := own (agrees agreed).1
        exact ⟨before.1,fun _ => before.2⟩
      · rcases times time known with isNow | ⟨old,-⟩
        · exact .inl isNow
        · rw [started] at old
          cases old
          exact origin.imp_right (fun ⟨before,sameRole⟩ => ⟨before,fun _ => sameRole⟩)
      · by_cases later : port ∈ rest
        · exact states later
        · obtain ⟨restAgreed,restTimes,restStates⟩ := refresh_ports_other bridge now previous rest
            (refresh_port bridge now previous self port) later
          obtain ⟨-,-,-,restReceived,-⟩ :=
          refresh_ports_correct bridge now previous rest (refresh_port bridge now previous self port)
          refine ⟨since,restTimes.trans started,?_⟩
          rw [restStates,state,port_state_congr bridge now (congrArg (·.get? port) restReceived) restAgreed]
    · obtain ⟨otherAgreed,otherTimes,-⟩ := refresh_port_other bridge now previous self same
      rw [otherAgreed] at agrees
      rw [otherTimes] at times
      have later : port ∈ first :: rest → port ∈ rest := fun member => (List.mem_cons.mp member).resolve_left same
      refine ⟨fun agreed => ?_,fun time known => ?_,fun member => states (later member)⟩
      · exact ⟨(agrees agreed).1,fun member => (agrees agreed).2 (later member)⟩
      · exact (times time known).imp_right (fun ⟨old,sameRole⟩ => ⟨old,fun member => sameRole (later member)⟩)

end Rounds

theorem adopt_agreed {self : StpInstance} {bridge : Bridge} {port : InterfaceId}
    (agreed : (self.adopt bridge).agreed.contains port = true) : self.agreed.contains port = true := by
  rw [adopt] at agreed
  dsimp only at agreed
  by_cases changed : self.root_changed bridge = true
  · rw [if_pos changed] at agreed
    cases agreed
  · rw [if_neg changed] at agreed
    exact agreed

/-- A time outlives an election that leaves the root as it was. -/
theorem adopt_transitions {self : StpInstance} {bridge : Bridge} {port : InterfaceId} {since : SimTime}
    (known : (self.adopt bridge).transitions.get? port = some since) : self.transitions.get? port = some since ∧
      (self.root_id,self.root_cost,self.root_port) = self.elected bridge := by
  rw [adopt] at known
  dsimp only at known
  by_cases changed : self.root_changed bridge = true
  · rw [if_pos changed] at known
    cases known
  · rw [if_neg changed] at known
    refine ⟨known,?_⟩
    rw [root_changed,decide_eq_true_eq,not_not] at changed
    exact changed

/-- The role of a port. -/
def role (self : StpInstance) (port : InterfaceId) : Option StpPortRole := (self.ports.get? port).map (·.1)

/-- What a recomputation does to the timers of a port: an agreement survives only with the role, a time only with the
    role and the root, and the state follows from both. -/
theorem recompute_timers (self : StpInstance) (bridge : Bridge) (ports : List InterfaceId) (now : SimTime)
    (port : InterfaceId) :
    let after := self.recompute bridge ports now
    (after.agreed.contains port = true → self.agreed.contains port = true ∧ role self port = role after port) ∧
    (∀ since, after.transitions.get? port = some since → since = now ∨ self.transitions.get? port = some since ∧
      role self port = role after port ∧
      (self.root_id,self.root_cost,self.root_port) = (after.root_id,after.root_cost,after.root_port)) ∧
    (∀ role state, after.ports.get? port = some (role,state) → ∃ since, after.transitions.get? port = some since ∧
      state = after.port_state bridge port role since now) := by
  obtain ⟨agrees,times,states⟩ := refresh_ports_timers bridge now self.ports ports
    { (self.prune ports now).adopt bridge with ports := ∅ } port
  obtain ⟨-,elected,inside,outside⟩ := recompute_correct self bridge ports now
  -- the role of a member is the one that the loop gave it
  have roleOf : port ∈ ports → (self.ports.get? port).map (·.1) =
    some (({ (self.prune ports now).adopt bridge with ports := ∅ } :
      StpInstance).port_role bridge port) → role self port = role (self.recompute bridge ports now) port := by
    intro listed sameRole
    obtain ⟨since,-,state⟩ := states listed
    show (self.ports.get? port).map (·.1) = ((self.recompute bridge ports now).ports.get? port).map (·.1)
    rw [sameRole,show (self.recompute bridge ports now).ports.get? port = _ from state]
    rfl
  refine ⟨fun agreed => ?_,fun since known => ?_,fun found state lookup => ?_⟩
  · obtain ⟨before,sameRole⟩ := agrees agreed
    have pruned := adopt_agreed before
    rw [OrderedMap.contains,Option.isSome_iff_exists] at pruned
    obtain ⟨mark,kept⟩ := pruned
    obtain ⟨known,member⟩ := OrderedMap.get?_retain_eq_some.mp kept
    have listed : port ∈ ports := List.contains_iff_mem.mp member
    exact ⟨(OrderedMap.contains_iff _ _).mpr ⟨mark,known⟩,roleOf listed (sameRole listed)⟩
  · rcases times since known with isNow | ⟨old,sameRole⟩
    · exact .inl isNow
    · obtain ⟨kept,sameRoot⟩ := adopt_transitions old
      obtain ⟨before,member⟩ := OrderedMap.get?_retain_eq_some.mp kept
      have listed : port ∈ ports := List.contains_iff_mem.mp member
      exact .inr ⟨before,roleOf listed (sameRole listed),sameRoot.trans elected.symm⟩
  · by_cases listed : port ∈ ports
    · obtain ⟨since,started,isState⟩ := states listed
      refine ⟨since,started,?_⟩
      rw [show (self.recompute bridge ports now).ports.get? port = _ from isState] at lookup
      cases lookup
      rfl
    · rw [outside port listed] at lookup
      cases lookup

/-- A second recomputation at the same time elects the same root and gives the same roles. -/
theorem recompute_again {self current : StpInstance} {bridge : Bridge} {ports : List InterfaceId} {now : SimTime}
    (received : current.received = (self.recompute bridge ports now).received) {port : InterfaceId}
    (member : port ∈ ports) :
    role (current.recompute bridge ports now) port = role (self.recompute bridge ports now) port ∧
      (current.recompute bridge ports now).received = (self.recompute bridge ports now).received := by
  obtain ⟨kept,elected,inside,-⟩ := recompute_correct self bridge ports now
  obtain ⟨keptAgain,electedAgain,insideAgain,-⟩ := recompute_correct current bridge ports now
  have pruned : (current.prune ports now).received = (self.recompute bridge ports now).received := by
    refine OrderedMap.ext (fun key => ?_)
    show (current.received.retain _).get? key = _
    rw [received,kept]
    rw [OrderedMap.get?_retain]
    cases lookup : (self.prune ports now).received.get? key with
    | none => rfl
    | some found => rw [Option.filter_some,if_pos (OrderedMap.get?_retain_eq_some.mp lookup).2]
  have sameReceived := keptAgain.trans pruned
  have sameElection : (current.prune ports now).elected bridge = (self.prune ports now).elected bridge := by
    rw [StpInstance.elected,StpInstance.best,pruned,kept,StpInstance.elected,StpInstance.best]
  rw [sameElection,← elected,Prod.mk.injEq,Prod.mk.injEq] at electedAgain
  obtain ⟨id,cost,root⟩ := electedAgain
  refine ⟨?_,sameReceived⟩
  rw [role,role,insideAgain port member,inside port member,port_role_congr id cost root sameReceived]

/-! ### Waiting ports -/

/-- What keeps a port from forwarding after a synchronisation: its time in the role starts no earlier, and it agrees
    only as a root port that synchronised itself. -/
structure Kept (port : InterfaceId) (since : SimTime) (proposed : Prop) (tree : StpInstance) : Prop where
  started : ∀ time, tree.transitions.get? port = some time → since ≤ time
  agreed : tree.agreed.contains port = true → proposed ∧ role tree port = some .Root

/-- A port with nothing but these reasons to forward at a time. -/
structure Held (fast : Bool) (port : InterfaceId) (since : SimTime) (proposed : Prop) (clock : SimTime)
    (tree : StpInstance) : Prop
    extends Kept port since proposed tree where
  waiting : ∀ role, tree.ports.get? port = some (role,.Forwarding) → since.toNat + 30000000 ≤ clock.toNat ∨
    (fast = true ∧ tree.received.get? port = none) ∨ (role = .Root ∧ proposed)

variable {fast : Bool} {port : InterfaceId} {since clock now : SimTime} {proposed : Prop} {tree : StpInstance}

theorem held_default (fast : Bool) (port : InterfaceId) (since : SimTime) (proposed : Prop) (clock : SimTime) :
    Held fast port since proposed clock .default where
  started := fun _ known => nomatch known
  agreed := fun agreed => nomatch agreed
  waiting := fun _ lookup => nomatch lookup

theorem Held.later (held : Held fast port since proposed clock tree) (time : clock ≤ now) {more : Prop}
    (implies : proposed → more) :
    Held fast port since more now tree where
  started := held.started
  agreed := fun agreed => ⟨implies (held.agreed agreed).1,(held.agreed agreed).2⟩
  waiting := by
    intro role lookup
    rcases held.waiting role lookup with delays | edge | root
    · exact .inl (delays.trans (UInt64.le_iff_toNat_le.mp time))
    · exact .inr (.inl edge)
    · exact .inr (.inr ⟨root.1,implies root.2⟩)

/-- The states that the time in the role allows. -/
theorem port_state_forwarding {bridge : Bridge} {role : StpPortRole} {started : SimTime}
    (forwards : tree.port_state bridge port role started now = .Forwarding) : role ≠ .Alternate ∧
    ((bridge.portfast port = true ∧ tree.received.get? port = none) ∨ (bridge.rapid = true ∧ tree.agreed.contains port = true) ∨
      started.toNat + 30000000 ≤ now.toNat) := by
  rw [port_state] at forwards
  split at forwards
  · cases forwards
  · rename_i blocks
    rw [Bool.or_eq_true,not_or,decide_eq_true_eq] at blocks
    refine ⟨blocks.2,?_⟩
    split at forwards
    · rename_i opens
      rw [Bool.or_eq_true,Bool.and_eq_true,Bool.and_eq_true] at opens
      rcases opens with edge | agreement
      · exact .inl ⟨edge.1,Option.isNone_iff_eq_none.mp edge.2⟩
      · exact .inr (.inl agreement)
    · split at forwards
      · split at forwards
        · cases forwards
        · cases forwards
      · split at forwards
        · cases forwards
        · rename_i delays
          rw [UInt64.lt_iff_toNat_lt,satSub64_toNat] at delays
          have limit : (30000000 : UInt64).toNat = 30000000 := rfl
          rw [limit] at delays
          refine .inr (.inr ?_)
          omega

theorem Kept.recompute (kept : Kept port since proposed tree) {bridge : Bridge} (isFast : bridge.portfast port = fast)
    (ports : List InterfaceId) (later : since ≤ now) :
    Held fast port since proposed now (tree.recompute bridge ports now) := by
  obtain ⟨agrees,times,states⟩ := recompute_timers tree bridge ports now port
  have started : ∀ time, (tree.recompute bridge ports now).transitions.get? port = some time → since ≤ time := by
    intro time known
    rcases times time known with rfl | ⟨old,-⟩
    · exact later
    · exact kept.started time old
  have agreed : (tree.recompute bridge ports now).agreed.contains port = true →
      proposed ∧ role (tree.recompute bridge ports now) port = some .Root := by
    intro agreed
    obtain ⟨before,sameRole⟩ := agrees agreed
    exact ⟨(kept.agreed before).1,sameRole ▸ (kept.agreed before).2⟩
  refine ⟨⟨started,agreed⟩,?_⟩
  intro found lookup
  obtain ⟨time,known,isState⟩ := states found .Forwarding lookup
  rcases (port_state_forwarding isState.symm).2 with edge | ⟨-,agreement⟩ | delays
  · exact .inr (.inl ⟨isFast ▸ edge.1,edge.2⟩)
  · refine .inr (.inr ⟨?_,(agreed agreement).1⟩)
    have isRoot := (agreed agreement).2
    rw [role,lookup] at isRoot
    exact Option.some.inj isRoot
  · refine .inl (le_trans (Nat.add_le_add_right ?_ _) delays)
    exact UInt64.le_iff_toNat_le.mp (started time known)

/-! ### The reaction to a BPDU -/

/-- A proposal on the root port that has not agreed yet. -/
def proposes (current : StpInstance) (interface : InterfaceId) (packet : StpBpdu) : Bool :=
  role current interface = some .Root && packet.flags &&& BPDU_PROPOSAL ≠ 0 && !current.agreed.contains interface

/-- An explicit agreement on a designated port: the root role, the same root and no smaller cost. -/
def agrees (current : StpInstance) (interface : InterfaceId) (packet : StpBpdu) : Bool :=
  role current interface = some .Designated && packet.flags &&& BPDU_AGREEMENT ≠ 0 && packet.flags &&& 12 = BPDU_ROLE_ROOT &&
    packet.configuration.root_id = current.root_id && current.root_cost ≤ packet.configuration.root_cost

/-- A nonedge designated port falls back. -/
def fall_back (now : SimTime) (current : StpInstance) (entry : InterfaceId × StpPortRole × StpPortState) : StpInstance :=
  { current with agreed := current.agreed.erase entry.1, transitions := current.transitions.insert entry.1 now }

/-- The ports that fall back. -/
def blocked (switch : Switch) (interface : InterfaceId) (current : StpInstance) :
    List (InterfaceId × StpPortRole × StpPortState) :=
  current.ports.entries.filter (fun entry => entry.1 ≠ interface && entry.2.1 = .Designated &&
    !(switch.portfast entry.1 && !current.received.contains entry.1))

/-- What a reaction may be. -/
theorem synchronize_cases (switch : Switch) (interface : InterfaceId) (packet : StpBpdu) (current : StpInstance)
    (now : SimTime) :
    (switch.synchronize interface packet current now = current) ∨
    (proposes current interface packet = true ∧ ∃ fallen, fallen = (blocked switch interface current).foldl (fall_back now) current ∧
      switch.synchronize interface packet current now = { fallen with agreed := fallen.agreed.insert interface () }) ∨
    (agrees current interface packet = true ∧
      switch.synchronize interface packet current now = { current with agreed := current.agreed.insert interface () }) := by
  rw [Switch.synchronize]
  dsimp only
  by_cases proposal : ((current.ports.get? interface).map (·.1) = some .Root && packet.flags &&& BPDU_PROPOSAL ≠ 0) = true
  · rw [if_pos proposal]
    by_cases agreed : current.agreed.contains interface = true
    · rw [if_pos agreed]
      exact .inl rfl
    · rw [if_neg agreed]
      refine .inr (.inl ⟨?_,_,rfl,rfl⟩)
      rw [proposes,role,Bool.and_eq_true]
      exact ⟨proposal,by simpa using agreed⟩
  · rw [if_neg proposal]
    split
    · rename_i agreement
      exact .inr (.inr ⟨agreement,rfl⟩)
    · exact .inl rfl

/-- Falling back changes agreements and times only. -/
theorem fall_back_correct (now : SimTime) (entries : List (InterfaceId × StpPortRole × StpPortState))
    (current : StpInstance) (port : InterfaceId) :
    let after := entries.foldl (fall_back now) current
    after.ports = current.ports ∧ after.received = current.received ∧
      (after.agreed.contains port = true → current.agreed.contains port = true ∧ port ∉ entries.map (·.1)) ∧
      (∀ time, after.transitions.get? port = some time → time = now ∨ current.transitions.get? port = some time ∧
          port ∉ entries.map (·.1)) := by
  induction entries generalizing current with
  | nil => exact ⟨rfl,rfl,fun agreed => ⟨agreed,List.not_mem_nil⟩,fun _ known => .inr ⟨known,List.not_mem_nil⟩⟩
  | cons first rest ih =>
    obtain ⟨ports,received,agrees,times⟩ := ih (fall_back now current first)
    refine ⟨ports,received,?_,?_⟩
    · intro agreed
      obtain ⟨before,absent⟩ := agrees agreed
      rw [fall_back,OrderedMap.contains,OrderedMap.get?_erase] at before
      by_cases same : port = first.1
      · rw [if_pos same] at before
        cases before
      · rw [if_neg same] at before
        rw [List.map_cons,List.mem_cons,not_or]
        exact ⟨before,same,absent⟩
    · intro time known
      rcases times time known with isNow | ⟨old,absent⟩
      · exact .inl isNow
      · rw [fall_back,OrderedMap.get?_insert] at old
        by_cases same : port = first.1
        · rw [if_pos same] at old
          cases old
          exact .inl rfl
        · rw [if_neg same] at old
          rw [List.map_cons,List.mem_cons,not_or]
          exact .inr ⟨old,same,absent⟩

/-- Inserting an agreement of another port. -/
theorem agreed_insert_other {agreed : OrderedMap InterfaceId Unit} {interface : InterfaceId} (other : port ≠ interface) :
    (agreed.insert interface ()).contains port = agreed.contains port := by
  rw [OrderedMap.contains,OrderedMap.get?_insert,if_neg other]
  rfl

/-- A reaction keeps a port waiting, unless it is an agreement on that port; a proposal on that port is remembered. -/
theorem Kept.synchronize (kept : Kept port since proposed tree) (switch : Switch) (interface : InterfaceId)
    (packet : StpBpdu) (later : since ≤ now) (noAgreement : ¬ (interface = port ∧ agrees tree interface packet = true)) :
    Kept port since (proposed ∨ interface = port ∧ proposes tree interface packet = true)
      (switch.synchronize interface packet tree now) := by
  rcases synchronize_cases switch interface packet tree now with same | ⟨proposal,fallen,isFallen,written⟩ | ⟨agreement,written⟩
  · rw [same]
    exact ⟨kept.started,fun agreed => ⟨.inl (kept.agreed agreed).1,(kept.agreed agreed).2⟩⟩
  · obtain ⟨ports,-,agrees,times⟩ := fall_back_correct now (blocked switch interface tree) tree port
    rw [← isFallen] at ports agrees times
    rw [written]
    refine ⟨?_,?_⟩
    · intro time known
      rcases times time known with rfl | ⟨old,-⟩
      · exact later
      · exact kept.started time old
    · intro agreed
      show _ ∧ (fallen.ports.get? port).map (·.1) = some .Root
      rw [ports]
      by_cases own : port = interface
      · subst own
        rw [proposes,Bool.and_eq_true,Bool.and_eq_true] at proposal
        refine ⟨.inr ⟨rfl,?_⟩,of_decide_eq_true proposal.1.1⟩
        rw [proposes,Bool.and_eq_true,Bool.and_eq_true]
        exact proposal
      · have before : fallen.agreed.contains port = true := (agreed_insert_other own).symm.trans agreed
        exact ⟨.inl (kept.agreed (agrees before).1).1,(kept.agreed (agrees before).1).2⟩
  · rw [written]
    have other : port ≠ interface := fun same => noAgreement ⟨same.symm,agreement⟩
    refine ⟨kept.started,?_⟩
    intro agreed
    have before : tree.agreed.contains port = true := (agreed_insert_other other).symm.trans agreed
    exact ⟨.inl (kept.agreed before).1,(kept.agreed before).2⟩

/-- A proposal makes every other nonedge designated port start anew. -/
theorem proposal_keeps (switch : Switch) {interface : InterfaceId} {packet : StpBpdu}
    (proposal : proposes tree interface packet = true) (other : port ≠ interface)
    (designated : role tree port = some .Designated)
    (nonedge : (switch.portfast port && !tree.received.contains port) = false) :
    Kept port now False (switch.synchronize interface packet tree now) ∧
      ∀ time, (switch.synchronize interface packet tree now).transitions.get? port = some time → time = now := by
  have listed : port ∈ (blocked switch interface tree).map (·.1) := by
    rw [role] at designated
    obtain ⟨entry,lookup,isDesignated⟩ := Option.map_eq_some_iff.mp designated
    refine List.mem_map.mpr ⟨(port,entry),List.mem_filter.mpr ⟨(OrderedMap.get?_eq_some _ _ _).mp lookup,?_⟩,rfl⟩
    rw [Bool.and_eq_true,Bool.and_eq_true]
    exact ⟨⟨decide_eq_true other,decide_eq_true isDesignated⟩,by rw [nonedge]; rfl⟩
  rcases synchronize_cases switch interface packet tree now with same | ⟨-,fallen,isFallen,written⟩ | ⟨agreement,-⟩
  · -- the reaction to a proposal is never to stay
    rw [Switch.synchronize] at same
    dsimp only at same
    rw [proposes,Bool.and_eq_true] at proposal
    rw [if_pos (by exact proposal.1),if_neg (by simpa using proposal.2)] at same
    have inserted := congrArg (fun current => current.agreed.contains interface) same
    dsimp only at inserted
    rw [OrderedMap.contains,OrderedMap.get?_insert_self] at inserted
    rw [← inserted] at proposal
    cases proposal.2
  · obtain ⟨-,-,agrees,times⟩ := fall_back_correct now (blocked switch interface tree) tree port
    rw [← isFallen] at agrees times
    rw [written]
    have start : ∀ time, fallen.transitions.get? port = some time → time = now := by
      intro time known
      rcases times time known with isNow | ⟨-,absent⟩
      · exact isNow
      · exact absurd listed absent
    refine ⟨⟨fun time known => (start time known).ge,?_⟩,start⟩
    intro agreed
    exact absurd listed (agrees ((agreed_insert_other other).symm.trans agreed)).2
  · rw [proposes,Bool.and_eq_true,Bool.and_eq_true] at proposal
    rw [StpSync.agrees,Bool.and_eq_true,Bool.and_eq_true,Bool.and_eq_true,Bool.and_eq_true] at agreement
    have isRoot := of_decide_eq_true proposal.1.1
    rw [of_decide_eq_true agreement.1.1.1.1] at isRoot
    cases isRoot

/-! ### The switch -/

/-- The tree of a VLAN. -/
def tree_of (switch : Switch) (vlan : VlanId) : StpInstance := (switch.stp_runtime.get? vlan).getD .default

/-- The configuration that a recomputation reads. -/
structure SameConfig (first second : Switch) : Prop where
  interfaces : second.interfaces = first.interfaces
  rapid : second.rapid = first.rapid
  priorities : second.priorities = first.priorities

theorem SameConfig.refl (switch : Switch) : SameConfig switch switch := ⟨rfl,rfl,rfl⟩

theorem SameConfig.trans {first second third : Switch} (one : SameConfig first second) (two : SameConfig second third) :
    SameConfig first third :=
  ⟨two.interfaces.trans one.interfaces,two.rapid.trans one.rapid,two.priorities.trans one.priorities⟩

variable {first second switch : Switch} {vlan : VlanId}

theorem SameConfig.bridge_id (same : SameConfig first second) (vlan : VlanId) :
    second.bridge_id vlan = first.bridge_id vlan := by
  rw [Switch.bridge_id,Switch.bridge_id,same.interfaces,same.priorities]

theorem SameConfig.portfast (same : SameConfig first second) : second.portfast = first.portfast := by
  funext port
  rw [Switch.portfast,Switch.portfast,same.interfaces]

theorem SameConfig.bridge (same : SameConfig first second) (id : UInt64) : second.bridge id = first.bridge id := by
  rw [Switch.bridge,Switch.bridge,same.rapid,same.portfast]
  congr 1
  · funext port
    rw [Switch.stp_port_id,Switch.stp_port_id,same.interfaces]
  · funext port
    rw [Switch.stp_cost,Switch.stp_cost,same.interfaces]

/-- Only the trees and the learned addresses may differ. -/
def TreesOnly (first second : Switch) : Prop :=
  ∃ trees addresses, second = { first with stp_runtime := trees, mac_table := addresses }

theorem TreesOnly.refl (switch : Switch) : TreesOnly switch switch := ⟨_,_,rfl⟩

theorem TreesOnly.trans {first second third : Switch} (one : TreesOnly first second) (two : TreesOnly second third) :
    TreesOnly first third := by
  obtain ⟨trees,addresses,rfl⟩ := one
  obtain ⟨trees',addresses',rfl⟩ := two
  exact ⟨trees',addresses',rfl⟩

theorem TreesOnly.switching (only : TreesOnly first second) : second.supports_switching = first.supports_switching := by
  obtain ⟨trees,addresses,rfl⟩ := only
  rfl

theorem TreesOnly.same (only : TreesOnly first second) : SameConfig first second := by
  obtain ⟨trees,addresses,rfl⟩ := only
  exact ⟨rfl,rfl,rfl⟩

/-- The switch with another tree of a VLAN. -/
def with_tree (switch : Switch) (vlan : VlanId) (tree : StpInstance) : Switch :=
  { switch with stp_runtime := switch.stp_runtime.insert vlan tree }

theorem with_tree_trees (switch : Switch) (vlan : VlanId) (tree : StpInstance) :
    TreesOnly switch (with_tree switch vlan tree) :=
  ⟨_,_,rfl⟩

theorem with_tree_config (switch : Switch) (vlan : VlanId) (tree : StpInstance) :
    SameConfig switch (with_tree switch vlan tree) :=
  (with_tree_trees switch vlan tree).same

theorem tree_of_with_tree (switch : Switch) (written vlan : VlanId) (tree : StpInstance) :
    tree_of (with_tree switch written tree) vlan = if vlan = written then tree else tree_of switch vlan := by
  rw [tree_of,with_tree,OrderedMap.get?_insert]
  by_cases same : vlan = written
  · rw [if_pos same,if_pos same]
    rfl
  · rw [if_neg same,if_neg same]
    rfl

theorem recompute_trees (switch : Switch) (vlan : VlanId) (ports : List InterfaceId) (now : SimTime) :
    TreesOnly switch (switch.recompute_stp_instance vlan ports now) := by
  rw [Switch.recompute_stp_instance]
  cases switch.bridge_id vlan with
  | none => exact .refl switch
  | some id => exact ⟨_,_,rfl⟩

theorem recompute_config (switch : Switch) (vlan : VlanId) (ports : List InterfaceId) (now : SimTime) :
    SameConfig switch (switch.recompute_stp_instance vlan ports now) :=
  (recompute_trees switch vlan ports now).same

variable {id : UInt64}

theorem recompute_tree (identified : switch.bridge_id vlan = some id) (ports : List InterfaceId) (now : SimTime)
    (other : VlanId) : tree_of (switch.recompute_stp_instance vlan ports now) other =
      if other = vlan then (tree_of switch vlan).recompute (switch.bridge id) ports now else tree_of switch other := by
  rw [Switch.recompute_stp_instance,identified]
  dsimp only
  rw [tree_of,OrderedMap.get?_insert]
  by_cases same : other = vlan
  · rw [if_pos same,if_pos same]
    rfl
  · rw [if_neg same,if_neg same]
    rfl

theorem refresh_trees (switch : Switch) (now : SimTime) : TreesOnly switch (switch.refresh_spanning_tree now) := by
  rw [Switch.refresh_spanning_tree]
  by_cases supported : (!switch.supports_switching) = true
  · rw [if_pos supported]
    exact .refl switch
  · rw [if_neg supported]
    dsimp only
    have rounds : ∀ (entries : List (VlanId × List InterfaceId)) (current : Switch), TreesOnly switch current →
        TreesOnly switch (entries.foldl (fun switch entry => switch.recompute_stp_instance entry.1 entry.2 now) current) := by
      intro entries
      induction entries with
      | nil => exact fun _ only => only
      | cons entry rest ih => exact fun current only => ih _ (only.trans (recompute_trees current entry.1 entry.2 now))
    exact rounds _ _ ⟨_,_,rfl⟩

theorem refresh_config (switch : Switch) (now : SimTime) : SameConfig switch (switch.refresh_spanning_tree now) :=
  (refresh_trees switch now).same

/-- The fold over the VLANs recomputes the tree of each of them. -/
theorem rounds_tree (identified : ∀ vlan, ∃ id, switch.bridge_id vlan = some id)
    (entries : List (VlanId × List InterfaceId)) {current : Switch} (same : SameConfig switch current) (vlan : VlanId) :
    let after := entries.foldl (fun switch entry => switch.recompute_stp_instance entry.1 entry.2 now) current
    (vlan ∉ entries.map (·.1) ∧ tree_of after vlan = tree_of current vlan) ∨
      ∃ before id ports, switch.bridge_id vlan = some id ∧ (vlan,ports) ∈ entries ∧
        tree_of after vlan = StpInstance.recompute before (switch.bridge id) ports now := by
  induction entries generalizing current with
  | nil => exact .inl ⟨List.not_mem_nil,rfl⟩
  | cons entry rest ih =>
    obtain ⟨id,isId⟩ := identified entry.1
    have isId' := (same.bridge_id entry.1).trans isId
    rcases ih (same.trans (recompute_config current entry.1 entry.2 now)) with
      ⟨absent,unchanged⟩ | ⟨before,found,ports,isFound,member,isTree⟩
    · rw [recompute_tree isId',same.bridge] at unchanged
      rw [List.map_cons,List.mem_cons,not_or,List.foldl_cons]
      dsimp only
      rw [unchanged]
      by_cases own : vlan = entry.1
      · subst own
        rw [if_pos rfl]
        exact .inr ⟨_,id,entry.2,isId,List.mem_cons_self,rfl⟩
      · rw [if_neg own]
        exact .inl ⟨⟨own,absent⟩,rfl⟩
    · exact .inr ⟨before,found,ports,isFound,List.mem_cons_of_mem _ member,isTree⟩

/-- A switch without identity in a VLAN has no interfaces. -/
theorem bridge_id_none (unnamed : switch.bridge_id vlan = none) : switch.interfaces.entries = [] := by
  rw [Switch.bridge_id,Option.map_eq_none_iff,List.min?_eq_none_iff,List.map_eq_nil_iff] at unnamed
  exact List.map_eq_nil_iff.mp unnamed

/-- What a refresh leaves of a VLAN's tree: nothing without ports, otherwise a recomputation for them. -/
theorem refresh_tree (switching : switch.supports_switching = true) (now : SimTime) (vlan : VlanId) :
    (switch.stp_ports.get? vlan = none ∧ tree_of (switch.refresh_spanning_tree now) vlan = .default) ∨
    ∃ before id ports, switch.bridge_id vlan = some id ∧ switch.stp_ports.get? vlan = some ports ∧
      tree_of (switch.refresh_spanning_tree now) vlan = StpInstance.recompute before (switch.bridge id) ports now := by
  rw [Switch.refresh_spanning_tree,if_neg (by simp [switching])]
  dsimp only
  have dropped : vlan ∉ switch.stp_ports.keys → switch.stp_ports.get? vlan = none ∧
      tree_of { switch with stp_runtime := switch.stp_runtime.retain (fun vlan _ => switch.stp_ports.contains vlan) }
          vlan = .default := by
    intro absent
    have unlisted := (OrderedMap.get?_eq_none _ _).mpr absent
    refine ⟨unlisted,?_⟩
    rw [tree_of,OrderedMap.get?_retain,OrderedMap.contains,unlisted]
    cases switch.stp_runtime.get? vlan <;> rfl
  by_cases named : ∀ vlan, ∃ id, switch.bridge_id vlan = some id
  · have started : SameConfig switch { switch with
        stp_runtime := switch.stp_runtime.retain (fun vlan _ => switch.stp_ports.contains vlan) } := ⟨rfl,rfl,rfl⟩
    rcases @rounds_tree now _ named switch.stp_ports.entries _ started vlan with
      ⟨absent,unchanged⟩ | ⟨before,id,ports,identified,member,isTree⟩
    · exact .inl ⟨(dropped absent).1,unchanged.trans (dropped absent).2⟩
    · exact .inr ⟨before,id,ports,identified,(OrderedMap.get?_eq_some _ _ _).mpr member,isTree⟩
  · -- without interfaces there is no tree
    obtain ⟨other,unnamed⟩ := not_forall.mp named
    have noPorts : switch.stp_ports = ∅ := by
      rw [Switch.stp_ports,bridge_id_none (Option.eq_none_iff_forall_ne_some.mpr (fun id known => unnamed ⟨id,known⟩))]
      rfl
    rw [noPorts] at dropped ⊢
    exact .inl (dropped List.not_mem_nil)

/-- What a recomputation keeps, a refresh keeps. -/
theorem refresh_keeps {fact : StpInstance → Prop} (switch : Switch) (now : SimTime) (vlan : VlanId)
    (empty : fact .default) (start : fact (tree_of switch vlan))
    (round : ∀ tree id ports, fact tree → fact (tree.recompute (switch.bridge id) ports now)) :
    fact (tree_of (switch.refresh_spanning_tree now) vlan) := by
  rw [Switch.refresh_spanning_tree]
  by_cases supported : (!switch.supports_switching) = true
  · rw [if_pos supported]
    exact start
  · rw [if_neg supported]
    dsimp only
    have rounds : ∀ (entries : List (VlanId × List InterfaceId)) (current : Switch), SameConfig switch current →
        fact (tree_of current vlan) →
        fact (tree_of (entries.foldl (fun switch entry => switch.recompute_stp_instance entry.1 entry.2 now) current) vlan) := by
      intro entries
      induction entries with
      | nil => exact fun _ _ known => known
      | cons entry rest ih =>
        intro current same known
        refine ih _ (same.trans (recompute_config current entry.1 entry.2 now)) ?_
        cases identified : current.bridge_id entry.1 with
        | none =>
          show fact (tree_of (current.recompute_stp_instance entry.1 entry.2 now) vlan)
          rw [Switch.recompute_stp_instance,identified]
          exact known
        | some id =>
          show fact (tree_of (current.recompute_stp_instance entry.1 entry.2 now) vlan)
          rw [recompute_tree identified,same.bridge]
          by_cases own : vlan = entry.1
          · rw [if_pos own]
            exact round _ id entry.2 (own ▸ known)
          · rw [if_neg own]
            exact known
    refine rounds _ _ ⟨rfl,rfl,rfl⟩ ?_
    rw [tree_of,OrderedMap.get?_retain]
    cases lookup : switch.stp_runtime.get? vlan with
    | none => exact empty
    | some tree =>
      rw [Option.filter_some]
      split
      · rw [tree_of,lookup] at start
        exact start
      · exact empty

/-! ### Arrivals -/

/-- Whether a BPDU is better than what the tree has where a root guard forbids it. -/
def root_guarded (self : Switch) (interface : InterfaceId) (vlan : VlanId) (id : UInt64) (packet : StpBpdu) : Bool :=
  (self.interfaces.get? interface).any (·.spanning_tree.root_guard) &&
    decide (toLex (packet.configuration.root_id,toLex (packet.configuration.root_cost,packet.configuration.bridge_id)) <
      toLex ((tree_of self vlan).root_id,toLex ((tree_of self vlan).root_cost,id)))

/-- The tree with a BPDU that has just arrived. -/
def arrived (tree : StpInstance) (interface : InterfaceId) (packet : StpBpdu) (guarded : Bool) (now : SimTime) :
    StpInstance :=
  { tree with
    transitions := if tree.received.contains interface then tree.transitions else tree.transitions.insert interface now
    received := tree.received.insert interface ⟨packet,guarded,satAdd64 now (Switch.lifetime packet)⟩ }

/-- The switch after a BPDU arrived and the roles were recomputed once, before any reaction. -/
def considered (self : Switch) (interface : InterfaceId) (vlan : VlanId) (members : List InterfaceId) (id : UInt64)
    (packet : StpBpdu) (now : SimTime) : Switch :=
  let self := self.refresh_spanning_tree now
  (with_tree self vlan
    (arrived (tree_of self vlan) interface packet (root_guarded self interface vlan id packet) now)).recompute_stp_instance
    vlan members now

/-- The switch after its reaction. -/
def reacted (self : Switch) (interface : InterfaceId) (vlan : VlanId) (members : List InterfaceId) (packet : StpBpdu)
    (now : SimTime) :
    Switch :=
  (with_tree self vlan (self.synchronize interface packet (tree_of self vlan) now)).recompute_stp_instance vlan members now

/-- The members and the identity with which a BPDU is considered: not on a guarded port, and not the switch's own. -/
def considers (self : Switch) (interface : InterfaceId) (vlan : VlanId) (packet : StpBpdu) :
    Option (List InterfaceId × UInt64) :=
  match (self.stp_ports.get? vlan).filter (·.contains interface),self.bridge_id vlan with
  | some members,some id =>
    if (self.interfaces.get? interface).any (·.spanning_tree.bpdu_guard) || packet.configuration.bridge_id = id then none
    else some (members,id)
  | _,_ => none

/-- The same switch where the code goes on to react: for a BPDU of the tree's ports, not of a guarded port nor of the
    switch itself. -/
def reacting (self : Switch) (interface : InterfaceId) (vlan : VlanId) (packet : StpBpdu) (now : SimTime) :
    Option Switch :=
  match (self.stp_ports.get? vlan).filter (·.contains interface),self.bridge_id vlan with
  | some members,some id =>
    if (self.interfaces.get? interface).any (·.spanning_tree.bpdu_guard) || packet.configuration.bridge_id = id || !self.rapid ||
        !packet.rapid || root_guarded (self.refresh_spanning_tree now) interface vlan id packet then none
    else some (considered self interface vlan members id packet now)
  | _,_ => none

theorem considered_trees (self : Switch) (interface : InterfaceId) (vlan : VlanId) (members : List InterfaceId) (id : UInt64)
    (packet : StpBpdu) (now : SimTime) : TreesOnly self (considered self interface vlan members id packet now) :=
  ((refresh_trees self now).trans (with_tree_trees _ vlan _)).trans (recompute_trees _ vlan members now)

theorem considered_config (self : Switch) (interface : InterfaceId) (vlan : VlanId) (members : List InterfaceId) (id : UInt64)
    (packet : StpBpdu) (now : SimTime) : SameConfig self (considered self interface vlan members id packet now) :=
  (considered_trees self interface vlan members id packet now).same

theorem reacted_trees (self : Switch) (interface : InterfaceId) (vlan : VlanId) (members : List InterfaceId)
    (packet : StpBpdu) (now : SimTime) : TreesOnly self (reacted self interface vlan members packet now) :=
  (with_tree_trees self vlan _).trans (recompute_trees _ vlan members now)

/-- What a received BPDU leaves: nothing new, a port taken down, the switch before a reaction, or the switch after it. -/
theorem receive_cases (self : Switch) (interface : InterfaceId) (vlan : VlanId) (packet : StpBpdu) (now : SimTime) :
    (considers self interface vlan packet = none ∧ reacting self interface vlan packet now = none ∧
      (self.receive_stp_packet interface vlan packet now).2 = self) ∨
    (considers self interface vlan packet = none ∧ reacting self interface vlan packet now = none ∧
      (self.interfaces.get? interface).any (·.spanning_tree.bpdu_guard) = true ∧
      (self.receive_stp_packet interface vlan packet now).2 = self.guard_port interface) ∨
    ∃ members id, considers self interface vlan packet = some (members,id) ∧ self.stp_ports.get? vlan = some members ∧
      interface ∈ members ∧ self.bridge_id vlan = some id ∧
      ((reacting self interface vlan packet now = none ∧
          (self.receive_stp_packet interface vlan packet now).2 = considered self interface vlan members id packet now) ∨
        (reacting self interface vlan packet now = some (considered self interface vlan members id packet now) ∧ self.rapid = true ∧
          (self.receive_stp_packet interface vlan packet now).2 =
            reacted (considered self interface vlan members id packet now) interface vlan members packet now)) := by
  rw [Switch.receive_stp_packet,reacting,considers]
  cases listed : (self.stp_ports.get? vlan).filter (·.contains interface) with
  | none => exact .inl ⟨rfl,rfl,rfl⟩
  | some members =>
    obtain ⟨known,member⟩ := Option.filter_eq_some_iff.mp listed
    dsimp only
    by_cases guard : (self.interfaces.get? interface).any (·.spanning_tree.bpdu_guard) = true
    · rw [if_pos guard]
      refine .inr (.inl ⟨?_,?_,guard,rfl⟩)
      · cases self.bridge_id vlan with
        | none => rfl
        | some id => exact if_pos (by rw [guard]; rfl)
      · cases self.bridge_id vlan with
        | none => rfl
        | some id => exact if_pos (by rw [guard]; rfl)
    · rw [if_neg guard]
      cases identified : self.bridge_id vlan with
      | none => exact .inl ⟨rfl,rfl,rfl⟩
      | some id =>
        dsimp only
        by_cases own : packet.configuration.bridge_id = id
        · rw [if_pos own]
          exact .inl ⟨if_pos (by simp [own]),if_pos (by simp [own]),rfl⟩
        · rw [if_neg own]
          refine .inr (.inr ⟨members,id,if_neg (by simp [guard,own]),known,List.contains_iff_mem.mp member,rfl,?_⟩)
          have rapid := (considered_config self interface vlan members id packet now).rapid
          unfold considered reacted with_tree arrived root_guarded tree_of at *
          dsimp only at *
          generalize self.refresh_spanning_tree now = refreshed at rapid ⊢
          generalize (Option.any (fun port => port.spanning_tree.root_guard) (refreshed.interfaces.get? interface) && _) = guarded
            at rapid ⊢
          generalize Switch.recompute_stp_instance _ vlan members now = before at rapid ⊢
          have refuses : (Option.any (fun port => port.spanning_tree.bpdu_guard) (self.interfaces.get? interface) ||
              decide (packet.configuration.bridge_id = id) || !self.rapid || !packet.rapid || guarded) =
              !(before.rapid && packet.rapid && !guarded) := by
            rw [Bool.eq_false_iff.mpr guard,decide_eq_false own,rapid]
            cases self.rapid <;> cases packet.rapid <;> cases guarded <;> rfl
          rw [refuses]
          by_cases acts : (before.rapid && packet.rapid && !guarded) = true
          · rw [if_pos acts,acts]
            rw [Bool.and_eq_true,Bool.and_eq_true,rapid] at acts
            exact .inr ⟨rfl,acts.1.1,rfl⟩
          · rw [if_neg acts,Bool.eq_false_iff.mpr acts]
            exact .inl ⟨rfl,rfl⟩

/-! ### Events -/

/-- A tree whose BPDU of a port is no longer guarded. -/
def unguarded (id : InterfaceId) (tree : StpInstance) : StpInstance :=
  match tree.received.get? id with
  | none => tree
  | some peer => { tree with received := tree.received.insert id { peer with guarded := false } }

/-- Apply validated spanning-tree port policy; whether it is accepted, and the switch behind it. -/
def set_stp_port (self : Switch) (id : InterfaceId) (policy : StpPortConfig) : Bool × Switch :=
  match self.interfaces.get? id with
  | none => (false,self)
  | some port =>
    if port.switchport.isNone || policy.priority % 16 ≠ 0 || policy.cost.any (fun cost => cost = 0 || 200000000 < cost) then (false,self)
    else
      (true,{ self with
        stp_runtime :=
        if policy.root_guard then self.stp_runtime else self.stp_runtime.mapValues (fun _ tree => unguarded id tree)
        interfaces := self.interfaces.insert id { port with spanning_tree := policy } })

/-- A cost change keeps the other settings of the port. -/
def set_stp_cost (self : Switch) (id : InterfaceId) (cost : Option UInt32) : Bool × Switch :=
  match self.interfaces.get? id with
  | none => (false,self)
  | some port => set_stp_port self id { port.spanning_tree with cost }

/-- A BPDU, a tick that refreshes the states or also sends, or a cost change. -/
inductive Event where
  | receive (interface : InterfaceId) (vlan : VlanId) (packet : StpBpdu) (now : SimTime)
  | refresh (now : SimTime)
  | send (now : SimTime)
  | set_stp_cost (id : InterfaceId) (cost : Option UInt32)

def Event.time : Event → Option SimTime
  | .receive _ _ _ now | .refresh now | .send now => some now
  | .set_stp_cost _ _ => none

def apply (switch : Switch) : Event → Switch
  | .receive interface vlan packet now => (switch.receive_stp_packet interface vlan packet now).2
  | .refresh now => switch.refresh_spanning_tree now
  | .send now => (switch.stp_packets now).2
  | .set_stp_cost id cost => (set_stp_cost switch id cost).2

def run (switch : Switch) (events : List Event) : Switch := events.foldl apply switch

/-- Times do not go back. -/
def Timed : SimTime → List Event → Prop
  | _,[] => True
  | now,event :: rest => now ≤ event.time.getD now ∧ Timed (event.time.getD now) rest

/-- The time after some events. -/
def time_after : SimTime → List Event → SimTime
  | now,[] => now
  | now,event :: rest => time_after (event.time.getD now) rest

/-- A proposal is accepted on a port of a VLAN: the port is the unguarded root port and has not agreed yet. -/
def proposal_on (vlan : VlanId) (port : InterfaceId) (switch : Switch) : Event → Bool
  | .receive interface on packet now => interface = port && on = vlan &&
      (reacting switch interface on packet now).any (fun before => proposes (tree_of before on) interface packet)
  | _ => false

/-- An explicit agreement is accepted on a port of a VLAN. -/
def agreement_on (vlan : VlanId) (port : InterfaceId) (switch : Switch) : Event → Bool
  | .receive interface on packet now => interface = port && on = vlan &&
      (reacting switch interface on packet now).any (fun before => agrees (tree_of before on) interface packet)
  | _ => false

/-- Some event of a run, in the state in which it happens. -/
def Happens (what : Switch → Event → Bool) (switch : Switch) (events : List Event) : Prop :=
  ∃ before event after, events = before ++ event :: after ∧ what (run switch before) event = true

variable {event : Event}

theorem Happens.head {what : Switch → Event → Bool} (now : what switch event = true) (rest : List Event) :
    Happens what switch (event :: rest) := ⟨[],event,rest,rfl,now⟩

theorem Happens.tail {what : Switch → Event → Bool} {event : Event} {rest : List Event}
    (later : Happens what (apply switch event) rest) : Happens what switch (event :: rest) := by
  obtain ⟨before,found,after,split,holds⟩ := later
  exact ⟨event :: before,found,after,by rw [split,List.cons_append],holds⟩

/-! ### Waiting through events -/

/-- The ports with portfast never change. -/
theorem set_stp_cost_portfast (self : Switch) (id : InterfaceId) (cost : Option UInt32) :
    (set_stp_cost self id cost).2.portfast = self.portfast := by
  rw [set_stp_cost]
  cases lookup : self.interfaces.get? id with
  | none => rfl
  | some port =>
    dsimp only
    rw [set_stp_port,lookup]
    dsimp only
    split
    · rfl
    · funext other
      rw [Switch.portfast,Switch.portfast,OrderedMap.get?_insert]
      by_cases same : other = id
      · rw [if_pos same,same,lookup]
        rfl
      · rw [if_neg same]

theorem receive_portfast (self : Switch) (interface : InterfaceId) (vlan : VlanId) (packet : StpBpdu) (now : SimTime) :
    (self.receive_stp_packet interface vlan packet now).2.portfast = self.portfast := by
  rcases receive_cases self interface vlan packet now with
    ⟨-,-,same⟩ | ⟨-,-,-,guarded⟩ | ⟨members,id,-,-,-,-,⟨-,settled⟩ | ⟨-,-,settled⟩⟩
  · rw [same]
  · rw [guarded]
    rfl
  · rw [settled]
    exact (considered_config self interface vlan members id packet now).portfast
  · rw [settled]
    exact (((considered_config self interface vlan members id packet now).trans (with_tree_config _ vlan _)).trans
      (recompute_config _ vlan members now)).portfast

theorem apply_portfast (switch : Switch) (event : Event) : (apply switch event).portfast = switch.portfast := by
  cases event with
  | receive interface vlan packet now => exact receive_portfast switch interface vlan packet now
  | refresh now => exact (refresh_config switch now).portfast
  | send now => exact (refresh_config switch now).portfast
  | set_stp_cost id cost => exact set_stp_cost_portfast switch id cost

theorem Held.refresh (held : Held fast port since proposed clock (tree_of switch vlan))
    (isFast : switch.portfast port = fast) (started : since ≤ now) (later : clock ≤ now) :
    Held fast port since proposed now (tree_of (switch.refresh_spanning_tree now) vlan) :=
  refresh_keeps switch now vlan (held_default fast port since proposed now) (held.later later (fun known => known))
    (fun _ _ ports known => known.toKept.recompute isFast ports started)

/-- An arrival starts no earlier time. -/
theorem Kept.arrived (kept : Kept port since proposed tree) (interface : InterfaceId) (packet : StpBpdu) (guarded : Bool)
    (started : since ≤ now) : Kept port since proposed (arrived tree interface packet guarded now) := by
  refine ⟨?_,kept.agreed⟩
  intro time known
  rw [StpSync.arrived] at known
  dsimp only at known
  by_cases seen : tree.received.contains interface = true
  · rw [if_pos seen] at known
    exact kept.started time known
  · rw [if_neg seen,OrderedMap.get?_insert] at known
    by_cases same : port = interface
    · rw [if_pos same] at known
      cases known
      exact started
    · rw [if_neg same] at known
      exact kept.started time known

theorem considered_tree (self : Switch) (interface : InterfaceId) {vlan : VlanId} (members : List InterfaceId)
    (identified : self.bridge_id vlan = some id) (packet : StpBpdu) (now : SimTime) (other : VlanId) :
    tree_of (considered self interface vlan members id packet now) other =
      if other = vlan then (arrived (tree_of (self.refresh_spanning_tree now) vlan) interface packet
        (root_guarded (self.refresh_spanning_tree now) interface vlan id packet) now).recompute (self.bridge id) members now
      else tree_of (self.refresh_spanning_tree now) other := by
  have config :=
      (refresh_config self now).trans (with_tree_config _ vlan (arrived (tree_of (self.refresh_spanning_tree now) vlan) interface
    packet (root_guarded (self.refresh_spanning_tree now) interface vlan id packet) now))
  rw [considered,recompute_tree ((config.bridge_id vlan).trans identified),config.bridge,tree_of_with_tree,tree_of_with_tree,if_pos rfl]
  by_cases same : other = vlan
  · rw [if_pos same,if_pos same]
  · rw [if_neg same,if_neg same,if_neg same]

theorem reacted_tree (self : Switch) (interface : InterfaceId) {vlan : VlanId} (members : List InterfaceId)
    (identified : self.bridge_id vlan = some id) (packet : StpBpdu) (now : SimTime) (other : VlanId) :
    tree_of (reacted self interface vlan members packet now) other =
      if other = vlan then (self.synchronize interface packet (tree_of self vlan) now).recompute (self.bridge id) members now
      else tree_of self other := by
  have config := with_tree_config self vlan (self.synchronize interface packet (tree_of self vlan) now)
  rw [reacted,recompute_tree ((config.bridge_id vlan).trans identified),config.bridge,tree_of_with_tree,tree_of_with_tree,if_pos rfl]
  by_cases same : other = vlan
  · rw [if_pos same,if_pos same]
  · rw [if_neg same,if_neg same,if_neg same]

theorem Held.considered (held : Held fast port since proposed clock (tree_of switch vlan))
    (isFast : switch.portfast port = fast) (started : since ≤ now) (later : clock ≤ now) (interface : InterfaceId)
    {on : VlanId} (members : List InterfaceId) (identified : switch.bridge_id on = some id) (packet : StpBpdu) :
    Held fast port since proposed now (tree_of (considered switch interface on members id packet now) vlan) := by
  have refreshed := held.refresh isFast started later
  rw [considered_tree switch interface members identified packet now vlan]
  by_cases same : vlan = on
  · rw [if_pos same]
    exact ((same ▸ refreshed.toKept).arrived interface packet _ started).recompute isFast members started
  · rw [if_neg same]
    exact refreshed

/-- A tree without a port that is taken down. -/
def unplugged (interface : InterfaceId) (tree : StpInstance) : StpInstance :=
  { tree with
    received := tree.received.erase interface
    ports := tree.ports.erase interface
    agreed := tree.agreed.erase interface }

theorem guard_port_tree (switch : Switch) (interface : InterfaceId) (vlan : VlanId) :
    tree_of (switch.guard_port interface) vlan = unplugged interface (tree_of switch vlan) := by
  rw [tree_of,Switch.guard_port,OrderedMap.get?_mapValues,tree_of]
  cases switch.stp_runtime.get? vlan with
  | none => rfl
  | some tree => rfl

/-- An agreement or a state of an unplugged tree is one of another port. -/
theorem unplugged_other {interface : InterfaceId}
    (present : (unplugged interface tree).agreed.contains port = true ∨ ∃ entry, (unplugged interface tree).ports.get?
      port = some entry) :
    (unplugged interface tree).agreed.contains port = tree.agreed.contains port ∧
      (unplugged interface tree).ports.get? port = tree.ports.get? port ∧
      (unplugged interface tree).received.get? port = tree.received.get? port := by
  rw [unplugged] at present ⊢
  rw [OrderedMap.contains,OrderedMap.get?_erase,OrderedMap.get?_erase] at present
  rw [OrderedMap.contains,OrderedMap.get?_erase,OrderedMap.get?_erase,OrderedMap.get?_erase]
  by_cases same : port = interface
  · rw [if_pos same,if_pos same] at present
    rcases present with agreed | ⟨entry,state⟩
    · cases agreed
    · cases state
  · rw [if_neg same,if_neg same,if_neg same]
    exact ⟨rfl,rfl,rfl⟩

theorem Held.unplugged (held : Held fast port since proposed clock tree) (interface : InterfaceId) :
    Held fast port since proposed clock (unplugged interface tree) := by
  refine ⟨⟨held.started,?_⟩,?_⟩
  · intro agreed
    obtain ⟨same,ports,-⟩ := unplugged_other (.inl agreed)
    rw [role,ports]
    exact held.agreed (same.symm.trans agreed)
  · intro found state
    obtain ⟨-,ports,received⟩ := unplugged_other (.inr ⟨_,state⟩)
    rw [received]
    exact held.waiting found (ports.symm.trans state)

/-- A cost change leaves the trees as they are, but for guards that are lifted. -/
theorem set_stp_cost_tree (switch : Switch) (id : InterfaceId) (cost : Option UInt32) (vlan : VlanId) :
    tree_of (set_stp_cost switch id cost).2 vlan = tree_of switch vlan ∨
      tree_of (set_stp_cost switch id cost).2 vlan = unguarded id (tree_of switch vlan) := by
  rw [set_stp_cost]
  cases lookup : switch.interfaces.get? id with
  | none => exact .inl rfl
  | some config =>
    dsimp only
    rw [set_stp_port,lookup]
    dsimp only
    split
    · exact .inl rfl
    · rw [tree_of]
      dsimp only
      by_cases guard : config.spanning_tree.root_guard = true
      · rw [if_pos guard]
        exact .inl rfl
      · rw [if_neg guard,OrderedMap.get?_mapValues,tree_of]
        cases switch.stp_runtime.get? vlan with
        | none => exact .inl rfl
        | some tree => exact .inr rfl

/-- Lifting a guard hears no port anew and changes no timer. -/
theorem unguarded_correct (id : InterfaceId) (tree : StpInstance) (port : InterfaceId) :
    (unguarded id tree).agreed = tree.agreed ∧ (unguarded id tree).transitions = tree.transitions ∧
      (unguarded id tree).ports = tree.ports ∧
      (tree.received.get? port = none → (unguarded id tree).received.get? port = none) := by
  rw [unguarded]
  cases heard : tree.received.get? id with
  | none => exact ⟨rfl,rfl,rfl,fun silent => silent⟩
  | some peer =>
    refine ⟨rfl,rfl,rfl,?_⟩
    intro silent
    have other : port ≠ id := by
      rintro rfl
      rw [silent] at heard
      cases heard
    dsimp only
    rw [OrderedMap.get?_insert,if_neg other]
    exact silent

theorem Held.set_stp_cost (held : Held fast port since proposed clock (tree_of switch vlan)) (id : InterfaceId)
    (cost : Option UInt32) :
    Held fast port since proposed clock (tree_of (set_stp_cost switch id cost).2 vlan) := by
  rcases set_stp_cost_tree switch id cost vlan with same | lifted
  · rw [same]
    exact held
  · obtain ⟨agreed,transitions,ports,silent⟩ := unguarded_correct id (tree_of switch vlan) port
    rw [lifted]
    refine ⟨⟨?_,?_⟩,?_⟩
    · rw [transitions]
      exact held.started
    · rw [agreed,role,ports]
      exact held.agreed
    · rw [ports]
      intro found state
      rcases held.waiting found state with delays | edge | root
      · exact .inl delays
      · exact .inr (.inl ⟨edge.1,silent edge.2⟩)
      · exact .inr (.inr root)

/-- One event: an explicit agreement on the port, or the port goes on waiting. -/
theorem step_held (held : Held fast port since proposed clock (tree_of switch vlan))
    (isFast : switch.portfast port = fast) (started : since ≤ clock) (later : clock ≤ event.time.getD clock) :
    agreement_on vlan port switch event = true ∨
      Held fast port since (proposed ∨ proposal_on vlan port switch event = true) (event.time.getD clock)
        (tree_of (apply switch event) vlan) := by
  cases event with
  | refresh now => exact .inr ((held.refresh isFast (started.trans later) later).later (le_refl _) .inl)
  | send now => exact .inr ((held.refresh isFast (started.trans later) later).later (le_refl _) .inl)
  | set_stp_cost id cost => exact .inr ((held.set_stp_cost id cost).later (le_refl _) .inl)
  | receive interface on packet now =>
    have sinceNow : since ≤ now := started.trans later
    rw [apply]
    rcases receive_cases switch interface on packet now with ⟨-,-,same⟩ | ⟨-,-,-,guarded⟩ |
      ⟨members,id,-,-,-,identified,⟨-,settled⟩ | ⟨reacts,-,settled⟩⟩
    · rw [same]
      exact .inr (held.later later .inl)
    · rw [guarded,guard_port_tree]
      exact .inr ((held.unplugged interface).later later .inl)
    · rw [settled]
      exact .inr ((held.considered isFast sinceNow later interface members identified packet).later (le_refl _) .inl)
    · rw [settled]
      have before := held.considered isFast sinceNow later interface members identified packet
      have config := considered_config switch interface on members id packet now
      rw [reacted_tree _ interface members ((config.bridge_id on).trans identified) packet now vlan]
      by_cases same : vlan = on
      · subst same
        rw [if_pos rfl]
        by_cases agreement : interface = port ∧
        agrees (tree_of (StpSync.considered switch interface vlan members id packet now) vlan)
            interface packet = true
        · refine .inl ?_
          rw [agreement_on,reacts]
          simp [agreement.1,agreement.1 ▸ agreement.2]
        · refine .inr ?_
          have kept :=
              before.toKept.synchronize (StpSync.considered switch interface vlan members id packet now) interface packet sinceNow
            agreement
          have fastBefore :
              ((StpSync.considered switch interface vlan members id packet now).bridge id).portfast port = fast := by
            rw [config.bridge]
            exact isFast
          have recomputed := kept.recompute fastBefore members sinceNow
          refine recomputed.later (le_refl _) ?_
          rintro (old | ⟨own,proposal⟩)
          · exact .inl old
          · refine .inr ?_
            rw [proposal_on,reacts]
            simp [own,own ▸ proposal]
      · rw [if_neg same]
        exact .inr (before.later (le_refl _) .inl)

theorem run_held (held : Held fast port since proposed clock (tree_of switch vlan)) (isFast : switch.portfast port = fast)
    (started : since ≤ clock) {events : List Event} (timed : Timed clock events) :
    Happens (agreement_on vlan port) switch events ∨
      Held fast port since (proposed ∨ Happens (proposal_on vlan port) switch events) (time_after clock events)
        (tree_of (run switch events) vlan) := by
  induction events generalizing switch clock proposed with
  | nil => exact .inr (held.later (le_refl _) .inl)
  | cons event rest ih =>
    rcases step_held held isFast started timed.1 with agreement | next
    · exact .inl (.head agreement rest)
    · have fastNext := (congrFun (apply_portfast switch event) port).trans isFast
      rcases ih next fastNext (started.trans timed.1) timed.2 with agreement | final
      · exact .inl agreement.tail
      · refine .inr (final.later (le_refl _) ?_)
        rintro ((old | proposal) | proposal)
        · exact .inl old
        · exact .inr (.head proposal rest)
        · exact .inr proposal.tail

/-! ### A synchronisation -/

theorem synchronize_received (switch : Switch) (interface : InterfaceId) (packet : StpBpdu) (current : StpInstance)
    (now : SimTime) :
    (switch.synchronize interface packet current now).received = current.received := by
  rcases synchronize_cases switch interface packet current now with same | ⟨-,fallen,isFallen,written⟩ | ⟨-,written⟩
  · rw [same]
  · rw [written,isFallen]
    exact (fall_back_correct now (blocked switch interface current) current interface).2.1
  · rw [written]

/-- An edge port: portfast without a received BPDU. -/
def edge (switch : Switch) (vlan : VlanId) (port : InterfaceId) : Bool :=
  switch.portfast port && !(tree_of switch vlan).received.contains port

/-- A port in its role for no time at all blocks, if it neither agrees nor is an edge port. -/
theorem port_state_blocking {bridge : Bridge} {role : StpPortRole} (rapid : bridge.rapid = true)
    (notAgreed : tree.agreed.contains port = false)
    (nonedge : (bridge.portfast port && (tree.received.get? port).isNone) = false) :
    tree.port_state bridge port role now now = .Blocking := by
  rw [port_state]
  split
  · rfl
  · rw [nonedge,notAgreed,Bool.and_false,Bool.or_false,if_neg Bool.false_ne_true]
    have elapsed : satSub64 now now < 15000000 := by
      rw [UInt64.lt_iff_toNat_lt,satSub64_toNat,Nat.sub_self]
      exact Nat.zero_lt_of_ne_zero (by decide +kernel)
    rw [if_pos elapsed]

/-- At the end of the call that accepts a proposal, every other nonedge designated port blocks and starts to wait. -/
theorem proposal_blocks {root : InterfaceId} (accepted : proposal_on vlan root switch event = true) :
    ∃ now, event.time = some now ∧ ∀ port, port ≠ root →
    role (tree_of (apply switch event) vlan) port = some .Designated →
      edge (apply switch event) vlan port = false →
        (tree_of (apply switch event) vlan).ports.get? port = some (.Designated,.Blocking) ∧
          Held (switch.portfast port) port now False now (tree_of (apply switch event) vlan) := by
  cases event with
  | refresh now => cases accepted
  | send now => cases accepted
  | set_stp_cost id cost => cases accepted
  | receive interface on packet now =>
    rw [proposal_on,Bool.and_eq_true,Bool.and_eq_true] at accepted
    obtain ⟨⟨isRoot,isVlan⟩,reacts⟩ := accepted
    obtain rfl := of_decide_eq_true isRoot
    obtain rfl := of_decide_eq_true isVlan
    refine ⟨now,rfl,?_⟩
    intro port other designated nonedge
    have fast : (apply switch (.receive interface on packet now)).portfast port = switch.portfast port :=
      congrFun (apply_portfast switch _) port
    rw [edge,fast] at nonedge
    rw [apply] at designated nonedge ⊢
    rcases receive_cases switch interface on packet now with ⟨-,silent,-⟩ | ⟨-,silent,-⟩ |
      ⟨members,id,-,-,-,identified,⟨silent,-⟩ | ⟨isBefore,rapid,settled⟩⟩
    · rw [silent] at reacts
      cases reacts
    · rw [silent] at reacts
      cases reacts
    · rw [silent] at reacts
      cases reacts
    · rw [isBefore] at reacts
      have proposal :
          proposes (tree_of (considered switch interface on members id packet now) on) interface packet = true := reacts
      have config := considered_config switch interface on members id packet now
      have isTree := considered_tree switch interface members identified packet now on
      rw [if_pos rfl] at isTree
      rw [settled,reacted_tree _ interface members ((config.bridge_id on).trans identified) packet now on,if_pos rfl,config.bridge]
        at designated nonedge ⊢
      generalize considered switch interface on members id packet now = before at proposal config isTree designated nonedge ⊢
      have received := synchronize_received before interface packet (tree_of before on) now
      generalize arrived (tree_of (switch.refresh_spanning_tree now) on) interface packet _ now = arrival at isTree
      have member : port ∈ members := by
        by_contra absent
        rw [role,(recompute_correct _ _ members now).2.2.2 port absent] at designated
        cases designated
      obtain ⟨sameRole,sameReceived⟩ := recompute_again (received.trans (congrArg StpInstance.received isTree)) member
      rw [← isTree] at sameRole sameReceived
      have beforeNonedge : (before.portfast port && !(tree_of before on).received.contains port) = false := by
        rw [config.portfast,← sameReceived]
        exact nonedge
      obtain ⟨kept,fresh⟩ : Kept port now False _ ∧ _ :=
        proposal_keeps before proposal other (sameRole ▸ designated) beforeNonedge
      have sameFast : (switch.bridge id).portfast port = switch.portfast port := rfl
      have held := kept.recompute sameFast members (le_refl now)
      refine ⟨?_,held⟩
      obtain ⟨-,times,states⟩ :=
        recompute_timers (before.synchronize interface packet (tree_of before on) now) (switch.bridge id) members now port
      obtain ⟨⟨found,state⟩,lookup,isDesignated⟩ := Option.map_eq_some_iff.mp designated
      dsimp only at isDesignated
      subst isDesignated
      obtain ⟨time,known,isState⟩ := states .Designated state lookup
      have isNow : time = now := (times time known).elim (fun same => same) (fun kept => fresh time kept.1)
      subst isNow
      rw [lookup,isState]
      have notAgreed :
          ((before.synchronize interface packet (tree_of before on) time).recompute (switch.bridge id) members
          time).agreed.contains port = false := by
        by_contra agreed
        exact (held.agreed (Bool.not_eq_false _ ▸ agreed)).1
      have quiet :
          ((switch.bridge id).portfast port && (((before.synchronize interface packet (tree_of before on) time).recompute
          (switch.bridge id) members time).received.get? port).isNone) = false := by
        rw [OrderedMap.contains,Option.not_isSome] at nonedge
        exact nonedge
      rw [port_state_blocking rapid notAgreed quiet]

/-! ### Agreements of root ports -/

/-- A root port agrees only for a reason. -/
def Vouched (port : InterfaceId) (reason : Prop) (tree : StpInstance) : Prop :=
  tree.agreed.contains port = true → role tree port = some .Root → reason

theorem Vouched.imp {reason more : Prop} (vouched : Vouched port reason tree) (implies : reason → more) :
    Vouched port more tree :=
  fun agreed isRoot => implies (vouched agreed isRoot)

variable {reason : Prop}

theorem Vouched.recompute (vouched : Vouched port reason tree) (bridge : Bridge) (ports : List InterfaceId)
    (now : SimTime) :
    Vouched port reason (tree.recompute bridge ports now) := by
  intro agreed isRoot
  obtain ⟨before,sameRole⟩ := (recompute_timers tree bridge ports now port).1 agreed
  exact vouched before (sameRole.trans isRoot)

theorem Vouched.refresh (vouched : Vouched port reason (tree_of switch vlan)) (now : SimTime) :
    Vouched port reason (tree_of (switch.refresh_spanning_tree now) vlan) :=
  refresh_keeps switch now vlan (fun agreed => nomatch agreed) vouched (fun _ _ ports known => known.recompute _ ports now)

/-- A designated port that agrees is no root port; a root port that agrees has accepted a proposal. -/
theorem Vouched.synchronize (vouched : Vouched port reason tree) (switch : Switch) (interface : InterfaceId)
    (packet : StpBpdu) (now : SimTime) :
    Vouched port (reason ∨ interface = port ∧ proposes tree interface packet = true)
      (switch.synchronize interface packet tree now) := by
  rcases synchronize_cases switch interface packet tree now with same | ⟨proposal,fallen,isFallen,written⟩ | ⟨agreement,written⟩
  · rw [same]
    exact vouched.imp .inl
  · obtain ⟨ports,-,before,-⟩ := fall_back_correct now (blocked switch interface tree) tree port
    rw [← isFallen] at ports before
    rw [written]
    intro agreed isRoot
    by_cases own : port = interface
    · exact .inr ⟨own.symm,proposal⟩
    · rw [role,show ({ fallen with agreed := fallen.agreed.insert interface () } : StpInstance).ports = tree.ports from ports] at isRoot
      exact .inl (vouched (before ((agreed_insert_other own).symm.trans agreed)).1 isRoot)
  · rw [written]
    intro agreed isRoot
    by_cases own : port = interface
    · subst own
      rw [agrees,Bool.and_eq_true,Bool.and_eq_true,Bool.and_eq_true,Bool.and_eq_true] at agreement
      have isDesignated := of_decide_eq_true agreement.1.1.1.1
      rw [show role tree port = some .Root from isRoot] at isDesignated
      cases isDesignated
    · exact .inl (vouched ((agreed_insert_other own).symm.trans agreed) isRoot)

theorem Vouched.considered (vouched : Vouched port reason (tree_of switch vlan)) (interface : InterfaceId) {on : VlanId}
    (members : List InterfaceId) (identified : switch.bridge_id on = some id) (packet : StpBpdu) (now : SimTime) :
    Vouched port reason (tree_of (considered switch interface on members id packet now) vlan) := by
  have refreshed := vouched.refresh now
  rw [considered_tree switch interface members identified packet now vlan]
  by_cases same : vlan = on
  · subst same
    rw [if_pos rfl]
    have arrival :
        ∀ guarded, Vouched port reason (arrived (tree_of (switch.refresh_spanning_tree now) vlan) interface packet guarded now) :=
      fun _ => refreshed
    exact (arrival _).recompute _ members now
  · rw [if_neg same]
    exact refreshed

theorem step_vouched (vouched : Vouched port reason (tree_of switch vlan)) (event : Event) :
    Vouched port (reason ∨ proposal_on vlan port switch event = true) (tree_of (apply switch event) vlan) := by
  cases event with
  | refresh now => exact (vouched.refresh now).imp .inl
  | send now => exact (vouched.refresh now).imp .inl
  | set_stp_cost id cost =>
    rw [apply]
    rcases set_stp_cost_tree switch id cost vlan with same | lifted
    · rw [same]
      exact vouched.imp .inl
    · obtain ⟨agreed,-,ports,-⟩ := unguarded_correct id (tree_of switch vlan) port
      rw [lifted,Vouched,agreed,role,ports]
      exact vouched.imp .inl
  | receive interface on packet now =>
    rw [apply]
    rcases receive_cases switch interface on packet now with ⟨-,-,same⟩ | ⟨-,-,-,guarded⟩ |
      ⟨members,id,-,-,-,identified,⟨-,settled⟩ | ⟨reacts,-,settled⟩⟩
    · rw [same]
      exact vouched.imp .inl
    · rw [guarded,guard_port_tree]
      intro agreed isRoot
      obtain ⟨same,ports,-⟩ := unplugged_other (.inl agreed)
      rw [role,ports] at isRoot
      exact .inl (vouched (same.symm.trans agreed) isRoot)
    · rw [settled]
      exact (vouched.considered interface members identified packet now).imp .inl
    · rw [settled]
      have before := vouched.considered interface members identified packet now
      have config := considered_config switch interface on members id packet now
      rw [reacted_tree _ interface members ((config.bridge_id on).trans identified) packet now vlan]
      by_cases same : vlan = on
      · subst same
        rw [if_pos rfl]
        refine ((before.synchronize _ interface packet now).recompute _ members now).imp ?_
        rintro (old | ⟨own,proposal⟩)
        · exact .inl old
        · refine .inr ?_
          rw [proposal_on,reacts]
          simp [own,own ▸ proposal]
      · rw [if_neg same]
        exact before.imp .inl

theorem run_vouched (vouched : Vouched port reason (tree_of switch vlan)) (events : List Event) :
    Vouched port (reason ∨ Happens (proposal_on vlan port) switch events) (tree_of (run switch events) vlan) := by
  induction events generalizing switch reason with
  | nil => exact vouched.imp .inl
  | cons event rest ih =>
    refine (ih (step_vouched vouched event)).imp ?_
    rintro ((old | proposal) | proposal)
    · exact .inl old
    · exact .inr (.head proposal rest)
    · exact .inr proposal.tail

/-- The flags of a BPDU. -/
def sent_flags (rapid : Bool) (role : StpPortRole) (state : StpPortState) (agreed : Bool) : UInt8 :=
  if rapid then
    (match role with
      | .Root => BPDU_ROLE_ROOT
      | .Designated => BPDU_ROLE_DESIGNATED
      | .Alternate => BPDU_ROLE_ALTERNATE) ||| (if role = .Designated && !agreed then BPDU_PROPOSAL else 0) |||
      (if role = .Root && agreed then BPDU_AGREEMENT else 0) |||
      (if state = .Learning || state = .Forwarding then BPDU_LEARNING else 0) |||
      (if state = .Forwarding then BPDU_FORWARDING else 0)
  else 0

theorem stp_packet_flags {state : StpPortState} {found : StpPortRole} {packet : StpBpdu}
    (sent : switch.stp_packet id tree port found state = some packet) :
    packet.configuration.bridge_id = id ∧ ∃ rapid, packet.flags = sent_flags rapid found state (tree.agreed.contains port) := by
  unfold Switch.stp_packet at sent
  dsimp only at sent
  generalize (switch.rapid && (tree.received.get? port).all (·.bpdu.rapid)) = rapid at sent
  obtain ⟨-,aged⟩ := Option.ite_none_left_eq_some.mp sent
  obtain ⟨-,same⟩ := Option.ite_none_right_eq_some.mp aged
  cases root : tree.root_port.bind tree.received.get? with
  | none =>
    rw [root] at same
    cases same
    exact ⟨rfl,rapid,rfl⟩
  | some peer =>
    rw [root] at same
    cases same
    exact ⟨rfl,rapid,rfl⟩

/-- The agreement flag is that of a root port that agrees. -/
theorem sent_flags_agreement {rapid agreed : Bool} {role : StpPortRole} {state : StpPortState}
    (flag : sent_flags rapid role state agreed &&& BPDU_AGREEMENT ≠ 0) : role = .Root ∧ agreed = true := by
  by_contra other
  refine flag ?_
  cases rapid with
  | false =>
    unfold sent_flags
    rw [if_neg Bool.false_ne_true]
    decide
  | true =>
    cases agreed with
    | true =>
      cases role with
      | Root => exact absurd ⟨rfl,rfl⟩ other
      | Designated => cases state <;> rfl
      | Alternate => cases state <;> rfl
    | false => cases role <;> cases state <;> rfl

/-- A BPDU that is sent belongs to a port of a tree. -/
theorem sent_packet {packet : StpBpdu} (sent : (port,vlan,packet) ∈ (switch.stp_packets now).1) :
    ∃ id role state, (switch.refresh_spanning_tree now).bridge_id vlan = some id ∧
      (tree_of (switch.refresh_spanning_tree now) vlan).ports.get? port = some (role,state) ∧
      (switch.refresh_spanning_tree now).stp_packet id (tree_of (switch.refresh_spanning_tree now) vlan) port role
          state = some packet := by
  rw [Switch.stp_packets] at sent
  dsimp only at sent
  generalize switch.refresh_spanning_tree now = refreshed at sent ⊢
  obtain ⟨⟨key,tree⟩,member,sends⟩ := List.mem_flatMap.mp sent
  have lookup := (OrderedMap.get?_eq_some _ _ _).mpr member
  dsimp only at sends
  cases identified : refreshed.bridge_id key with
  | none =>
    rw [identified] at sends
    cases sends
  | some id =>
    rw [identified] at sends
    obtain ⟨⟨on,role,state⟩,listed,written⟩ := List.mem_filterMap.mp sends
    obtain ⟨found,made,same⟩ := Option.map_eq_some_iff.mp written
    cases same
    have isTree : tree_of refreshed vlan = tree := by rw [tree_of,lookup,Option.getD_some]
    rw [isTree]
    exact ⟨id,role,state,identified,(OrderedMap.get?_eq_some _ _ _).mpr listed,made⟩

/-! ### Synchronisation -/

/-- A switch in rapid mode before its first BPDU. -/
def rapid_start (switch : Switch) : Switch := { switch with rapid := true, stp_runtime := ∅ }

/-- Rapid synchronisation. In every run: once a proposal is accepted, every other nonedge designated port of the VLAN
    blocks, and as long as no explicit agreement is accepted on it and the two delays are not over, it forwards only
    as an edge port or as a root port that has accepted a proposal itself. A root port sends the agreement flag only
    after such a call. -/
theorem rapid_synchronisation (switch : Switch) :
    (∀ (earlier : List Event) (vlan : VlanId) (root : InterfaceId) (event : Event) (now : SimTime) (later : List Event),
      proposal_on vlan root (run (rapid_start switch) earlier) event = true → event.time = some now → Timed now later →
        let synced := apply (run (rapid_start switch) earlier) event
        ∀ port, port ≠ root → role (tree_of synced vlan) port = some .Designated → edge synced vlan port = false →
          (tree_of synced vlan).ports.get? port = some (.Designated,.Blocking) ∧
            ∀ found, (tree_of (run synced later) vlan).ports.get? port = some (found,.Forwarding) →
              Happens (agreement_on vlan port) synced later ∨ now.toNat + 30000000 ≤ (time_after now later).toNat ∨
                edge (run synced later) vlan port = true ∨
                (found = .Root ∧ Happens (proposal_on vlan port) synced later)) ∧
    ∀ (events : List Event) (now : SimTime) (vlan : VlanId) (root : InterfaceId) (packet : StpBpdu),
      (root,vlan,packet) ∈ ((run (rapid_start switch) events).stp_packets now).1 → packet.flags &&& BPDU_AGREEMENT ≠ 0 →
        ∃ earlier event later, events = earlier ++ event :: later ∧
        proposal_on vlan root (run (rapid_start switch) earlier) event = true ∧
          ∀ port, port ≠ root →
          role (tree_of (apply (run (rapid_start switch) earlier) event) vlan) port = some .Designated →
            edge (apply (run (rapid_start switch) earlier) event) vlan port = false →
              (tree_of (apply (run (rapid_start switch) earlier) event) vlan).ports.get? port = some (.Designated,.Blocking) := by
  constructor
  · intro earlier vlan root event now later accepted isNow timed synced port other designated nonedge
    obtain ⟨time,isTime,blocks⟩ := proposal_blocks accepted
    obtain rfl : time = now := Option.some.inj (isTime.symm.trans isNow)
    obtain ⟨blocking,held⟩ := blocks port other designated nonedge
    refine ⟨blocking,?_⟩
    intro found forwards
    have fastOf : ∀ (events : List Event) (switch : Switch), (run switch events).portfast = switch.portfast := by
      intro events
      induction events with
      | nil => exact fun _ => rfl
      | cons event rest ih => exact fun switch => (ih (apply switch event)).trans (apply_portfast switch event)
    have isFast := congrFun (apply_portfast (run (rapid_start switch) earlier) event) port
    rcases run_held held isFast (le_refl _) timed with agreement | final
    · exact .inl agreement
    · rcases final.waiting found forwards with delays | isEdge | isRoot
      · exact .inr (.inl delays)
      · refine .inr (.inr (.inl ?_))
        rw [edge,fastOf later synced,isFast,OrderedMap.contains,isEdge.1,isEdge.2]
        rfl
      · exact .inr (.inr (.inr ⟨isRoot.1,isRoot.2.resolve_left (fun impossible => impossible)⟩))
  · intro events now vlan root packet sent flag
    obtain ⟨id,found,state,-,lookup,made⟩ := sent_packet sent
    obtain ⟨-,rapid,isFlags⟩ := stp_packet_flags made
    rw [isFlags] at flag
    obtain ⟨rfl,agreed⟩ := sent_flags_agreement flag
    have start : Vouched root False (tree_of (rapid_start switch) vlan) := fun agreed => nomatch agreed
    have vouched := (run_vouched start events).refresh now
    have isRoot : role (tree_of ((run (rapid_start switch) events).refresh_spanning_tree now) vlan) root = some .Root := by
      rw [role,lookup]
      rfl
    obtain ⟨earlier,event,later,split,accepted⟩ := (vouched agreed isRoot).resolve_left (fun impossible => impossible)
    obtain ⟨time,-,blocks⟩ := proposal_blocks accepted
    exact ⟨earlier,event,later,split,accepted,fun port other designated nonedge => (blocks port other designated nonedge).1⟩

/-! ### Ports that open again -/

/-- An access port. -/
def access_port (last_octet : UInt8) (portfast : Bool) : Port :=
  ⟨⟨#v[2,0,0,0,0,last_octet]⟩,false,true,false,some ⟨.Access,1,none⟩,⟨128,none,portfast,false,false⟩⟩

def two_ports : Switch :=
  ⟨true,OrderedMap.ofList [(1,access_port 1 false),(2,access_port 2 true)],[1],true,∅,∅,∅,∅⟩

/-- A rapid BPDU of a root bridge. -/
def hello (root_id : UInt64) (flags : UInt8) : StpBpdu := .new ⟨root_id,0,root_id,1⟩ true flags

/-- An inferior BPDU on the port with portfast, then a proposal on the other port. -/
def opening : List Event := [.receive 2 1 (hello 0xffff000000000001 0) 0]
def proposal : Event := .receive 1 1 (hello 5 BPDU_PROPOSAL) 1000000
def synced : Switch := apply (run (rapid_start two_ports) opening) proposal

theorem not_happens_once {what : Switch → Event → Bool} (never : what switch event = false) :
    ¬ Happens what switch [event] := by
  rintro ⟨before,found,after,split,holds⟩
  cases before with
  | nil =>
    cases split
    rw [show run switch [] = switch from rfl,never] at holds
    cases holds
  | cons first rest =>
    rw [List.cons_append,List.cons.injEq] at split
    exact absurd split.2.symm (by simp)

/-- A synchronised port forwards within the two delays and without an agreement: once its BPDU expires it is an edge
    port again, and as the new root port it accepts a proposal itself. -/
theorem synchronised_port_forwards :
    proposal_on 1 1 (run (rapid_start two_ports) opening) proposal = true ∧ role (tree_of synced 1) 2 = some .Designated ∧
      edge synced 1 2 = false ∧
      (¬ Happens (agreement_on 1 2) synced [.refresh 6500000] ∧
        (tree_of (run synced [.refresh 6500000]) 1).ports.get? 2 = some (.Designated,.Forwarding)) ∧
      (¬ Happens (agreement_on 1 2) synced [.receive 2 1 (hello 3 BPDU_PROPOSAL) 2000000] ∧
        (tree_of (run synced [.receive 2 1 (hello 3 BPDU_PROPOSAL) 2000000]) 1).ports.get? 2 = some (.Root,.Forwarding)) := by
  refine ⟨by decide +kernel,by decide +kernel,by decide +kernel,⟨not_happens_once rfl,by decide +kernel⟩,
    not_happens_once (by decide +kernel),by decide +kernel⟩

end Rios.StpSync
