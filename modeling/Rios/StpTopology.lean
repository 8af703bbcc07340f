import Rios.Stp
import Rios.ParentForest

/-!
# Spanning tree across a network

Switches cabled port to port in one VLAN, at rest: every instance is what its
recomputation gives, and every port holds the vector of its designated peer. As
long as no path cost saturates, the links without a blocking end form a tree on
each connected component, with the smallest bridge at its root. Two switches
that keep a departed root alive at the largest cost show why.
-/

namespace Rios.StpTopology
open Rios.Machine Rios.Device Rios.Stp Rios.Stp.StpInstance Rios.ParentForest
open Rios.Queue (SimTime)

/-- Switches, the ports that take part in one VLAN's tree, and the cables between them. -/
structure Network (ι : Type*) where
  vlan : VlanId
  switches : ι → Switch
  bridge_id : ι → UInt64
  members : ι → List InterfaceId
  tree : ι → StpInstance
  peer : ι × InterfaceId → Option (ι × InterfaceId)

variable {ι : Type*}

namespace Network

/-- What the switch's recomputation reads. -/
def bridge (n : Network ι) (i : ι) : Bridge := (n.switches i).bridge (n.bridge_id i)

/-- The role of a port. -/
def role (n : Network ι) (port : ι × InterfaceId) : Option StpPortRole := ((n.tree port.1).ports.get? port.2).map (·.1)

/-- The vector that a designated port sends. -/
def sends (n : Network ι) (port : ι × InterfaceId) : Option ConfigurationBpdu :=
  if n.role port = some .Designated then
    some ⟨(n.tree port.1).root_id,(n.tree port.1).root_cost,n.bridge_id port.1,(n.switches port.1).stp_port_id port.2⟩
  else none

/-- The ends of a cable. -/
def Link (n : Network ι) (first second : ι × InterfaceId) : Prop := n.peer first = some second

/-- A link without a blocking end. -/
def Active (n : Network ι) (first second : ι × InterfaceId) : Prop :=
  n.Link first second ∧ n.role first ≠ some .Alternate ∧ n.role second ≠ some .Alternate

/-- Switches joined by links of a kind. -/
def Joined (link : ι × InterfaceId → ι × InterfaceId → Prop) : ι → ι → Prop :=
  Relation.ReflTransGen (Adjacent link Prod.fst)

/-- The cabling: distinct bridges, point-to-point links between ports of
    different switches, positive costs and no guards. -/
structure Cabled (n : Network ι) : Prop where
  identified : ∀ i, (n.switches i).bridge_id n.vlan = some (n.bridge_id i)
  distinct : Function.Injective n.bridge_id
  ports : ∀ i, (n.switches i).stp_ports.get? n.vlan = some (n.members i)
  running : ∀ i, (n.switches i).stp_runtime.get? n.vlan = some (n.tree i)
  symmetric : ∀ {first second}, n.Link first second → n.Link second first
  apart : ∀ {first second}, n.Link first second → first.1 ≠ second.1
  inside : ∀ {first second}, n.Link first second → first.2 ∈ n.members first.1
  positive : ∀ i, ∀ port ∈ n.members i, 1 ≤ (n.switches i).stp_cost port
  noGuard : ∀ i port config, (n.switches i).interfaces.get? port = some config →
    config.spanning_tree.root_guard = false ∧ config.spanning_tree.bpdu_guard = false

/-- A network at rest. -/
structure Quiescent (n : Network ι) (now : SimTime) : Prop where
  fixpoint : ∀ i, ((n.switches i).recompute_stp_instance n.vlan (n.members i) now).stp_runtime.get? n.vlan = some (n.tree i)
  received : ∀ i port, ((n.tree i).received.get? port).map (·.bpdu.configuration) = (n.peer (i,port)).bind n.sends
  unguarded : ∀ i port received, (n.tree i).received.get? port = some received → received.guarded = false

/-- No received root cost saturates when the cost of its port is added. -/
def Unsaturated (n : Network ι) : Prop :=
  ∀ i port received, (n.tree i).received.get? port = some received →
    received.bpdu.configuration.root_cost.toNat + ((n.switches i).stp_cost port).toNat < 2 ^ 32

end Network

open Network

variable {n : Network ι} {now : SimTime}

/-- What a network at rest knows about each switch: how its root was elected,
    and which role each port has. -/
structure Settled (n : Network ι) : Prop where
  elected : ∀ i, ((n.tree i).root_id,(n.tree i).root_cost,(n.tree i).root_port) = (n.tree i).elected (n.bridge i)
  roles : ∀ i, ∀ port ∈ n.members i, n.role (i,port) = some ((n.tree i).port_role (n.bridge i) port)
  noRole : ∀ i port, port ∉ n.members i → n.role (i,port) = none
  inside : ∀ i port received, (n.tree i).received.get? port = some received → port ∈ n.members i

/-- A network at rest is settled. -/
theorem settled (cabled : n.Cabled) (quiescent : n.Quiescent now) : Settled n := by
  have recomputed : ∀ i, (n.tree i).recompute (n.bridge i) (n.members i) now = n.tree i := by
    intro i
    have fixpoint := quiescent.fixpoint i
    rw [Switch.recompute_stp_instance,cabled.identified i] at fixpoint
    simp only [cabled.running i,Option.getD_some,OrderedMap.get?_insert_self] at fixpoint
    exact Option.some.inj fixpoint
  have received : ∀ i, ((n.tree i).prune (n.members i) now).received = (n.tree i).received := by
    intro i
    have kept := (recompute_correct (n.tree i) (n.bridge i) (n.members i) now).1
    rw [recomputed i] at kept
    exact kept.symm
  have elections : ∀ i, ((n.tree i).prune (n.members i) now).elected (n.bridge i) = (n.tree i).elected (n.bridge i) := by
    intro i
    unfold StpInstance.elected StpInstance.best
    rw [received i]
  refine ⟨fun i => ?_,fun i port member => ?_,fun i port absent => ?_,fun i port entry found => ?_⟩
  · have elected := (recompute_correct (n.tree i) (n.bridge i) (n.members i) now).2.1
    rw [recomputed i] at elected
    exact elected.trans (elections i)
  · have inside := (recompute_correct (n.tree i) (n.bridge i) (n.members i) now).2.2.1 port member
    rw [recomputed i] at inside
    exact inside
  · have outside := (recompute_correct (n.tree i) (n.bridge i) (n.members i) now).2.2.2 port absent
    rw [recomputed i] at outside
    simp [Network.role,outside]
  · rw [← received i] at found
    have kept := (OrderedMap.get?_retain_eq_some.mp found).2
    simp only [Bool.and_eq_true,List.contains_iff_mem] at kept
    exact kept.1

/-! ### Vectors -/

/-- A vector that is no larger has a smaller root, or the same root at no larger cost. -/
theorem root_le_of_vector_le {root root' bridge bridge' : UInt64} {cost cost' : UInt32} {port port' own own' : UInt16}
    (le : vector root cost bridge port own ≤ vector root' cost' bridge' port' own') :
    root < root' ∨ root = root' ∧ cost ≤ cost' := by
  rcases Prod.Lex.toLex_le_toLex.mp le with less | ⟨same,rest⟩
  · exact .inl less
  · rcases Prod.Lex.toLex_le_toLex.mp rest with less | ⟨equal,-⟩
    · exact .inr ⟨same,less.le⟩
    · exact .inr ⟨same,equal.le⟩

theorem root_le_of_offer_le {root root' bridge bridge' : UInt64} {cost cost' : UInt32} {port port' : UInt16}
    (le : offer root cost bridge port ≤ offer root' cost' bridge' port') : root ≤ root' := by
  rcases Prod.Lex.toLex_le_toLex.mp le with less | ⟨same,-⟩
  · exact less.le
  · exact same.le

/-! ### One switch -/

/-- The root of a switch: itself, or that of the BPDU on its root port, one port cost further away. -/
theorem root_cases (settled : Settled n) (i : ι) :
    ((n.tree i).root_port = none ∧ (n.tree i).root_id = n.bridge_id i ∧ (n.tree i).root_cost = 0) ∨
    ∃ port received, (n.tree i).root_port = some port ∧ (n.tree i).received.get? port = some received ∧
      (n.tree i).root_id = received.bpdu.configuration.root_id ∧
      (n.tree i).root_cost = satAdd32 received.bpdu.configuration.root_cost ((n.switches i).stp_cost port) ∧
      root_vector (n.bridge i) port received < vector (n.bridge_id i) 0 (n.bridge_id i) 0 0 := by
  have elected := settled.elected i
  rcases elected_cases (n.tree i) (n.bridge i) with ⟨own,-⟩ | ⟨port,received,found,-,own,beats,-⟩
  · rw [own] at elected
    simp only [Prod.mk.injEq] at elected
    exact .inl ⟨elected.2.2,elected.1,elected.2.1⟩
  · rw [own] at elected
    simp only [Prod.mk.injEq] at elected
    exact .inr ⟨port,received,elected.2.2,found,elected.1,elected.2.1,beats⟩

theorem root_le_own (settled : Settled n) (i : ι) : (n.tree i).root_id ≤ n.bridge_id i := by
  rcases root_cases settled i with ⟨-,own,-⟩ | ⟨port,received,-,-,root,-,beats⟩
  · exact own.le
  · rw [root]
    rcases root_le_of_vector_le beats.le with less | ⟨same,-⟩
    · exact less.le
    · exact same.le

variable {port : InterfaceId}

/-- No received root beats the elected one. -/
theorem root_le_received (settled : Settled n) (quiescent : n.Quiescent now) {i : ι} {received : StpReceived}
    (found : (n.tree i).received.get? port = some received) :
    (n.tree i).root_id ≤ received.bpdu.configuration.root_id := by
  have elected := settled.elected i
  have free := quiescent.unguarded i port received found
  rcases elected_cases (n.tree i) (n.bridge i) with ⟨own,least⟩ | ⟨best,offered,-,-,own,-,least⟩
  · rw [own] at elected
    simp only [Prod.mk.injEq] at elected
    rw [elected.1]
    rcases root_le_of_vector_le (least port received found free) with less | ⟨same,-⟩
    · exact less.le
    · exact same.le
  · rw [own] at elected
    simp only [Prod.mk.injEq] at elected
    rw [elected.1]
    rcases root_le_of_vector_le (least port received found free) with less | ⟨same,-⟩
    · exact less.le
    · exact same.le

/-- A received BPDU is the vector of a designated port at the other end of a link. -/
theorem received_sent (quiescent : n.Quiescent now) {i : ι} {received : StpReceived}
    (found : (n.tree i).received.get? port = some received) :
    ∃ other, n.Link (i,port) other ∧ n.role other = some .Designated ∧ received.bpdu.configuration =
      ⟨(n.tree other.1).root_id,(n.tree other.1).root_cost,n.bridge_id other.1,(n.switches other.1).stp_port_id other.2⟩ := by
  have sent := quiescent.received i port
  rw [found,Option.map_some] at sent
  cases linked : n.peer (i,port) with
  | none => rw [linked] at sent; cases sent
  | some other =>
    rw [linked,Option.bind_some,Network.sends] at sent
    split_ifs at sent with designated
    exact ⟨other,linked,designated,Option.some.inj sent⟩

variable {first : ι × InterfaceId}

/-- The BPDU that a designated port sends has been received. -/
theorem sent_received (quiescent : n.Quiescent now) {other : ι × InterfaceId} (linked : n.Link first other)
    (designated : n.role other = some .Designated) :
    ∃ received, (n.tree first.1).received.get? first.2 = some received ∧ received.bpdu.configuration =
      ⟨(n.tree other.1).root_id,(n.tree other.1).root_cost,n.bridge_id other.1,(n.switches other.1).stp_port_id other.2⟩ := by
  have sent := quiescent.received first.1 first.2
  rw [show n.peer (first.1,first.2) = some other from linked,Option.bind_some,Network.sends,if_pos designated] at sent
  obtain ⟨received,found,same⟩ := Option.map_eq_some_iff.mp sent
  exact ⟨received,found,same⟩

/-- A port on which nothing is received is designated. -/
theorem designated_of_silent (settled : Settled n) {i : ι} (member : port ∈ n.members i)
    (silent : (n.tree i).received.get? port = none) : n.role (i,port) = some .Designated := by
  rw [settled.roles i port member]
  have notRoot : some port ≠ (n.tree i).root_port := by
    intro isRoot
    rcases root_cases settled i with ⟨none,-⟩ | ⟨root,received,rootPort,found,-⟩
    · rw [none] at isRoot; cases isRoot
    · rw [rootPort] at isRoot
      cases isRoot
      rw [silent] at found
      cases found
  simp [port_role,notRoot,silent]

/-- The role of a port that receives a vector, unless it is the root port. -/
theorem role_of_received (settled : Settled n) (quiescent : n.Quiescent now) {i : ι} {received : StpReceived}
    (found : (n.tree i).received.get? port = some received) (notRoot : some port ≠ (n.tree i).root_port) :
    n.role (i,port) = some (if offer (n.tree i).root_id (n.tree i).root_cost (n.bridge_id i) ((n.switches i).stp_port_id port) <
      offer received.bpdu.configuration.root_id received.bpdu.configuration.root_cost received.bpdu.configuration.bridge_id
        received.bpdu.configuration.port_id then .Designated else .Alternate) := by
  rw [settled.roles i port (settled.inside i port received found)]
  have free := quiescent.unguarded i port received found
  simp only [port_role,notRoot,found,if_false,Option.any_some,free,Option.all_some,Bool.false_or,decide_eq_true_eq]
  rfl

theorem root_role (settled : Settled n) {i : ι} (member : port ∈ n.members i) :
    n.role (i,port) = some .Root ↔ (n.tree i).root_port = some port := by
  rw [settled.roles i port member,Option.some_inj,port_role]
  constructor
  · intro isRoot
    by_contra different
    rw [if_neg (fun same => different same.symm)] at isRoot
    split_ifs at isRoot
  · intro isRoot
    rw [if_pos isRoot.symm]

/-! ### One link -/

/-- At least one end of a link is designated. -/
theorem some_designated (cabled : n.Cabled) (settled : Settled n) (quiescent : n.Quiescent now)
    {second : ι × InterfaceId} (linked : n.Link first second) :
    n.role first = some .Designated ∨ n.role second = some .Designated := by
  by_contra neither
  obtain ⟨notFirst,notSecond⟩ := not_or.mp neither
  -- a peer that is not designated sends nothing
  have silent : (n.tree first.1).received.get? first.2 = none := by
    have sent := quiescent.received first.1 first.2
    rw [show n.peer (first.1,first.2) = some second from linked,Option.bind_some,Network.sends,if_neg notSecond] at sent
    exact Option.map_eq_none_iff.mp sent
  exact notFirst (designated_of_silent settled (cabled.inside linked) silent)

/-- A designated end offers a better vector than its peer would. -/
private theorem offer_lt_of_designated (settled : Settled n) (quiescent : n.Quiescent now) {second : ι × InterfaceId}
    (linked : n.Link first second) (designated : n.role first = some .Designated)
    (other : n.role second = some .Designated) :
    offer (n.tree first.1).root_id (n.tree first.1).root_cost (n.bridge_id first.1) ((n.switches first.1).stp_port_id first.2) <
      offer (n.tree second.1).root_id (n.tree second.1).root_cost (n.bridge_id second.1)
        ((n.switches second.1).stp_port_id second.2) := by
  obtain ⟨received,found,sent⟩ := sent_received quiescent linked other
  have member := settled.inside first.1 first.2 received found
  have notRoot : some first.2 ≠ (n.tree first.1).root_port := by
    intro isRoot
    have role := (root_role settled member).mpr isRoot.symm
    rw [show n.role (first.1,first.2) = some .Designated from designated] at role
    cases role
  have role := role_of_received settled quiescent found notRoot
  rw [show n.role (first.1,first.2) = some .Designated from designated,sent] at role
  split_ifs at role with less
  · exact less
  · cases role

/-- Not both ends of a link are designated. -/
theorem not_both_designated (cabled : n.Cabled) (settled : Settled n) (quiescent : n.Quiescent now)
    {second : ι × InterfaceId} (linked : n.Link first second) :
    ¬ (n.role first = some .Designated ∧ n.role second = some .Designated) := by
  rintro ⟨one,two⟩
  have less := offer_lt_of_designated settled quiescent linked one two
  have more := offer_lt_of_designated settled quiescent (cabled.symmetric linked) two one
  exact lt_asymm less more

/-- The end opposite a designated port is a root port or blocks. -/
theorem opposite_role (cabled : n.Cabled) (settled : Settled n) (quiescent : n.Quiescent now)
    {second : ι × InterfaceId} (linked : n.Link first second) (designated : n.role second = some .Designated) :
    n.role first = some .Root ∨ n.role first = some .Alternate := by
  have role := settled.roles first.1 first.2 (cabled.inside linked)
  have notBoth := not_both_designated cabled settled quiescent linked
  cases isRole : (n.tree first.1).port_role (n.bridge first.1) first.2 with
  | Root => rw [isRole] at role; exact .inl role
  | Alternate => rw [isRole] at role; exact .inr role
  | Designated => rw [isRole] at role; exact absurd ⟨role,designated⟩ notBoth

/-- Both ends of a link have the same root. -/
theorem link_agrees (cabled : n.Cabled) (settled : Settled n) (quiescent : n.Quiescent now) {second : ι × InterfaceId}
    (linked : n.Link first second) :
    (n.tree first.1).root_id = (n.tree second.1).root_id := by
  have agrees : ∀ {near far : ι × InterfaceId}, n.Link near far → n.role far = some .Designated →
      (n.tree near.1).root_id = (n.tree far.1).root_id := by
    intro near far joined designated
    obtain ⟨received,found,sent⟩ := sent_received quiescent joined designated
    have below := root_le_received settled quiescent found
    rw [sent] at below
    refine le_antisymm below ?_
    rcases opposite_role cabled settled quiescent joined designated with isRoot | blocks
    · have rootPort := (root_role settled (cabled.inside joined)).mp isRoot
      rcases root_cases settled near.1 with ⟨none,-⟩ | ⟨port,best,isPort,isFound,root,-⟩
      · rw [none] at rootPort; cases rootPort
      · rw [rootPort] at isPort
        cases isPort
        rw [found] at isFound
        cases isFound
        rw [root,sent]
    · have notRoot : some near.2 ≠ (n.tree near.1).root_port := by
        intro isRoot
        have role := (root_role settled (cabled.inside joined)).mpr isRoot.symm
        rw [show n.role (near.1,near.2) = some .Alternate from blocks] at role
        cases role
      have role := role_of_received settled quiescent found notRoot
      rw [show n.role (near.1,near.2) = some .Alternate from blocks,sent] at role
      split_ifs at role with less
      · cases role
      · exact root_le_of_offer_le (not_lt.mp less)
  rcases some_designated cabled settled quiescent linked with one | two
  · exact (agrees (cabled.symmetric linked) one).symm
  · exact agrees linked two

/-! ### Towards the root -/

/-- A root port leads over an active link to a designated port of a switch with
    the same root, nearer to it; and its switch is not the root itself. -/
theorem root_port_climbs (cabled : n.Cabled) (settled : Settled n) (quiescent : n.Quiescent now)
    (unsaturated : n.Unsaturated) {i : ι} (rootPort : (n.tree i).root_port = some port) :
    ∃ other, n.Active (i,port) other ∧ n.role (i,port) = some .Root ∧
      (n.tree other.1).root_cost.toNat < (n.tree i).root_cost.toNat ∧ (n.tree i).root_id ≠ n.bridge_id i := by
  rcases root_cases settled i with ⟨none,-⟩ | ⟨best,received,isPort,found,root,cost,beats⟩
  · rw [none] at rootPort; cases rootPort
  · rw [rootPort] at isPort
    cases isPort
    obtain ⟨other,linked,designated,sent⟩ := received_sent quiescent found
    have member := settled.inside i port received found
    have isRoot := (root_role settled member).mpr rootPort
    have charge := UInt32.le_iff_toNat_le.mp (cabled.positive i port member)
    rw [UInt32.toNat_one] at charge
    -- nothing saturates, so the sum of the costs is exact
    have exactCost : (n.tree i).root_cost.toNat =
        (n.tree other.1).root_cost.toNat + ((n.switches i).stp_cost port).toNat := by
      have room := unsaturated i port received found
      rw [sent] at room
      rw [cost,sent,satAdd32_toNat]
      simp only at room ⊢
      omega
    refine ⟨other,⟨linked,?_,?_⟩,isRoot,by omega,?_⟩
    · rw [isRoot]; simp
    · rw [designated]; simp
    · intro own
      -- with the bridge's own root a positive cost cannot beat cost zero
      rcases root_le_of_vector_le beats.le with less | ⟨-,free⟩
      · rw [← root,own] at less
        exact lt_irrefl _ less
      · have zero := UInt32.le_iff_toNat_le.mp (cost.le.trans free)
        rw [UInt32.toNat_zero] at zero
        omega

/-- The links without a blocking end run from root ports to nearer switches. -/
theorem oriented (cabled : n.Cabled) (settled : Settled n) (quiescent : n.Quiescent now) (unsaturated : n.Unsaturated) :
    Oriented n.Active Prod.fst (fun port => n.role port = some .Root) (fun i => (n.tree i).root_cost.toNat) := by
  have rootPort : ∀ {port : ι × InterfaceId}, n.role port = some .Root → (n.tree port.1).root_port = some port.2 := by
    intro port isRoot
    by_cases member : port.2 ∈ n.members port.1
    · exact (root_role settled member).mp isRoot
    · rw [show n.role port = none from settled.noRole port.1 port.2 member] at isRoot
      cases isRoot
  refine ⟨?_,?_,?_,?_,?_⟩
  · rintro first second ⟨linked,open1,open2⟩
    exact ⟨cabled.symmetric linked,open2,open1⟩
  · rintro first second third ⟨linked,-⟩ ⟨again,-⟩
    exact Option.some.inj (linked.symm.trans again)
  · rintro first second ⟨linked,open1,open2⟩
    rcases some_designated cabled settled quiescent linked with one | two
    · have isRoot := (opposite_role cabled settled quiescent (cabled.symmetric linked) one).resolve_right open2
      exact .inr ⟨isRoot,by rw [one]; simp⟩
    · have isRoot := (opposite_role cabled settled quiescent linked two).resolve_right open1
      exact .inl ⟨isRoot,by rw [two]; simp⟩
  · rintro ⟨i,port⟩ ⟨j,other⟩ isRoot alsoRoot (same : i = j)
    subst same
    have one := rootPort isRoot
    have two := rootPort alsoRoot
    rw [one] at two
    cases two
    rfl
  · rintro ⟨i,port⟩ second ⟨linked,-⟩ isRoot
    obtain ⟨other,⟨toOther,-⟩,-,nearer,-⟩ := root_port_climbs cabled settled quiescent unsaturated (rootPort isRoot)
    have same : second = other := Option.some.inj (linked.symm.trans toOther)
    rw [same]
    exact nearer

/-- Every switch is joined by active links to the bridge that it takes for its root. -/
theorem joined_to_own_root (cabled : n.Cabled) (settled : Settled n) (quiescent : n.Quiescent now)
    (unsaturated : n.Unsaturated) (i : ι) :
    ∃ r, n.bridge_id r = (n.tree i).root_id ∧ Joined n.Active i r := by
  have tree := oriented cabled settled quiescent unsaturated
  have climbs : ∀ v, (n.tree v).root_port = none ∨ ∃ d e, n.Active d e ∧ n.role d = some .Root ∧ d.1 = v := by
    intro v
    cases rootPort : (n.tree v).root_port with
    | none => exact .inl rfl
    | some port =>
      obtain ⟨other,active,isRoot,-⟩ := root_port_climbs cabled settled quiescent unsaturated rootPort
      exact .inr ⟨(v,port),other,active,isRoot,rfl⟩
  obtain ⟨r,isRoot,path⟩ := joined_to_root tree climbs i
  refine ⟨r,?_,path⟩
  have same : (n.tree i).root_id = (n.tree r).root_id := by
    clear isRoot
    induction path with
    | refl => rfl
    | tail _ step ih =>
      obtain ⟨d,e,⟨linked,-⟩,rfl,rfl⟩ := step
      exact ih.trans (link_agrees cabled settled quiescent linked)
  rcases root_cases settled r with ⟨-,own,-⟩ | ⟨port,_,some,-⟩
  · rw [same,own]
  · rw [isRoot] at some; cases some

theorem joined_agrees (cabled : n.Cabled) (settled : Settled n) (quiescent : n.Quiescent now) {i j : ι}
    (joined : Joined n.Link i j) : (n.tree i).root_id = (n.tree j).root_id := by
  induction joined with
  | refl => rfl
  | tail _ step ih =>
    obtain ⟨d,e,linked,rfl,rfl⟩ := step
    exact ih.trans (link_agrees cabled settled quiescent linked)

/-- What a spanning tree is: one designated end on each link, one root on each
    component, the smallest bridge of it, one root port on every other switch,
    and no cycle of active links, which still join the component. -/
structure SpanningTree (n : Network ι) : Prop where
  designated : ∀ first second, n.Link first second → (n.role first = some .Designated ∨ n.role second = some .Designated) ∧
    ¬ (n.role first = some .Designated ∧ n.role second = some .Designated)
  agreed : ∀ i j, Joined n.Link i j → (n.tree i).root_id = (n.tree j).root_id
  smallest : ∀ i, (∃ r, Joined n.Link i r ∧ n.bridge_id r = (n.tree i).root_id) ∧
    ∀ j, Joined n.Link i j → (n.tree i).root_id ≤ n.bridge_id j
  rootPort : ∀ i, n.bridge_id i ≠ (n.tree i).root_id → ∃! port, n.role (i,port) = some .Root
  acyclic : ∀ steps, ¬ ClosedTrail n.Active Prod.fst steps
  connected : ∀ i j, Joined n.Link i j → Joined n.Active i j

/-- A network at rest in which no path cost saturates forwards along a spanning tree. -/
theorem spanning_tree (cabled : n.Cabled) (quiescent : n.Quiescent now) (unsaturated : n.Unsaturated) : SpanningTree n := by
  have settled := settled cabled quiescent
  have tree := oriented cabled settled quiescent unsaturated
  have weaken : ∀ {i j}, Joined n.Active i j → Joined n.Link i j := by
    intro i j joined
    refine Relation.ReflTransGen.mono ?_ _ _ joined
    rintro v w ⟨d,e,active,src,dst⟩
    exact ⟨d,e,active.1,src,dst⟩
  have flip : ∀ {i j}, Joined n.Active i j → Joined n.Active j i := by
    intro i j joined
    induction joined with
    | refl => exact .refl
    | tail _ step ih =>
      obtain ⟨d,e,active,src,dst⟩ := step
      exact .head ⟨e,d,tree.symmetric active,dst,src⟩ ih
  refine ⟨fun first second linked => ⟨?_,?_⟩,fun i j => joined_agrees cabled settled quiescent,fun i => ⟨?_,?_⟩,?_,
    no_closed_trail tree,?_⟩
  · exact some_designated cabled settled quiescent linked
  · exact not_both_designated cabled settled quiescent linked
  · obtain ⟨r,own,path⟩ := joined_to_own_root cabled settled quiescent unsaturated i
    exact ⟨r,weaken path,own⟩
  · intro j joined
    rw [joined_agrees cabled settled quiescent joined]
    exact root_le_own settled j
  · intro i other
    rcases root_cases settled i with ⟨-,own,-⟩ | ⟨port,received,rootPort,found,-⟩
    · exact absurd own.symm other
    · have member := settled.inside i port received found
      refine ⟨port,(root_role settled member).mpr rootPort,fun second isRoot => ?_⟩
      exact congrArg Prod.snd (tree.parent isRoot ((root_role settled member).mpr rootPort) rfl)
  · intro i j joined
    obtain ⟨r,ownI,pathI⟩ := joined_to_own_root cabled settled quiescent unsaturated i
    obtain ⟨t,ownJ,pathJ⟩ := joined_to_own_root cabled settled quiescent unsaturated j
    have same : r = t := cabled.distinct (by rw [ownI,ownJ,joined_agrees cabled settled quiescent joined])
    subst same
    exact Relation.ReflTransGen.trans pathI (flip pathJ)

/-! ### Two switches with two cables -/

/-- A gigabit access port of VLAN 1. -/
def accessPort (last_octet : UInt8) : Port :=
  ⟨⟨#v[0,0,0,0,0,last_octet]⟩,false,true,false,some ⟨.Access,1,none⟩,⟨128,none,false,false,false⟩⟩

/-- A switch with ports 1 and 2 in VLAN 1 and the given instance. -/
def twoPorts (last_octet : UInt8) (tree : StpInstance) : Switch :=
  ⟨true,OrderedMap.ofList [(1,accessPort last_octet),(2,accessPort last_octet)],[1],false,∅,
    OrderedMap.ofList [(1,tree)],∅,∅⟩

/-- The bridge ids of two switches. -/
def pairIds (second : Bool) : UInt64 := if second then 0x8001000000000002 else 0x8001000000000001

/-- A received vector that does not expire. -/
def lasting (bpdu : ConfigurationBpdu) : StpReceived := ⟨.new bpdu false 0,false,0xffffffffffffffff⟩

/-- Two switches with two cables between them. -/
def pair (tree : Bool → StpInstance) : Network Bool where
  vlan := 1
  switches second := twoPorts (if second then 2 else 1) (tree second)
  bridge_id := pairIds
  members _ := [1,2]
  tree := tree
  peer port := if port.2 = 1 ∨ port.2 = 2 then some (!port.1,port.2) else none

theorem pair_cost (tree : Bool → StpInstance) (i : Bool) (cabled : port = 1 ∨ port = 2) :
    ((pair tree).switches i).stp_cost port = 4 := by
  show (twoPorts (if i then 2 else 1) .default).stp_cost port = 4
  rcases cabled with rfl | rfl <;> cases i <;> decide

theorem pair_cabled (tree : Bool → StpInstance) : (pair tree).Cabled where
  identified i := by
    have same : ((pair tree).switches i).bridge_id 1 = (twoPorts (if i then 2 else 1) .default).bridge_id 1 := rfl
    rw [show (pair tree).vlan = 1 from rfl,same]
    cases i
    · exact (by decide : (twoPorts 1 .default).bridge_id 1 = some (pairIds false))
    · exact (by decide : (twoPorts 2 .default).bridge_id 1 = some (pairIds true))
  distinct i j same := by revert same; cases i <;> cases j <;> simp [pair,pairIds]
  ports i := by cases i <;> rfl
  running i := by cases i <;> rfl
  symmetric := by
    rintro ⟨i,port⟩ second linked
    simp only [Network.Link,pair] at linked
    split_ifs at linked with cabled
    cases linked
    simp [Network.Link,pair,cabled]
  apart := by
    rintro ⟨i,port⟩ second linked
    simp only [Network.Link,pair] at linked
    split_ifs at linked
    cases linked
    cases i <;> simp
  inside := by
    rintro ⟨i,port⟩ second linked
    simp only [Network.Link,pair] at linked
    split_ifs at linked with cabled
    simpa [pair] using cabled
  positive i port member := by
    rw [pair_cost tree i (by simpa [pair] using member)]
    decide
  noGuard i port config found := by
    have member := (OrderedMap.get?_eq_some _ _ _).mp found
    have listed : (port,config) ∈ [((1 : InterfaceId),accessPort (if i then 2 else 1)),(2,accessPort (if i then 2 else 1))] := by
      cases i <;> exact member
    simp only [List.mem_cons,List.not_mem_nil,or_false,Prod.mk.injEq] at listed
    rcases listed with ⟨-,rfl⟩ | ⟨-,rfl⟩ <;> exact ⟨rfl,rfl⟩

/-- At rest each port holds what its peer sends. -/
theorem pair_received {tree : Bool → StpInstance} (first : ∀ i,
      ((tree i).received.get? 1).map (·.bpdu.configuration) = (pair tree).sends (!i,1))
    (second : ∀ i, ((tree i).received.get? 2).map (·.bpdu.configuration) = (pair tree).sends (!i,2))
    (outside : ∀ i port, port ≠ 1 → port ≠ 2 → (tree i).received.get? port = none) (i : Bool) (port : InterfaceId) :
    (((pair tree).tree i).received.get? port).map (·.bpdu.configuration) =
      ((pair tree).peer (i,port)).bind (pair tree).sends := by
  by_cases cabled : port = 1 ∨ port = 2
  · have peer : (pair tree).peer (i,port) = some (!i,port) := if_pos cabled
    rw [peer,Option.bind_some]
    rcases cabled with rfl | rfl
    · exact first i
    · exact second i
  · have peer : (pair tree).peer (i,port) = none := if_neg cabled
    obtain ⟨one,two⟩ := not_or.mp cabled
    rw [peer,show (pair tree).tree i = tree i from rfl,outside i port one two]
    rfl

/-- The first switch is the root; the second one blocks the second cable. -/
def restingTree (second : Bool) : StpInstance :=
  { agreed := ∅
    transitions := OrderedMap.ofList [(1,0),(2,0)]
    root_id := pairIds false
    root_cost := if second then 4 else 0
    root_port := if second then some 1 else none
    ports := OrderedMap.ofList (if second then [(1,(.Root,.Forwarding)),(2,(.Alternate,.Blocking))]
      else [(1,(.Designated,.Forwarding)),(2,(.Designated,.Forwarding))])
    received := if second then OrderedMap.insert (OrderedMap.insert ∅ 1 (lasting ⟨pairIds false,0,pairIds false,0x8001⟩)) 2
        (lasting ⟨pairIds false,0,pairIds false,0x8002⟩)
      else ∅ }

theorem spanning_tree_pair : SpanningTree (pair restingTree) := by
  have entries : ∀ {i port received}, (restingTree i).received.get? port = some received →
      i = true ∧ (port = 1 ∨ port = 2) ∧ received.guarded = false ∧ received.bpdu.configuration.root_cost = 0 := by
    intro i port received found
    cases i with
    | false => simp [restingTree] at found
    | true =>
      simp only [restingTree,if_true,OrderedMap.get?_insert] at found
      split_ifs at found with two one
      · cases found; exact ⟨rfl,.inr two,rfl,rfl⟩
      · cases found; exact ⟨rfl,.inl one,rfl,rfl⟩
      · cases found
  refine @spanning_tree _ _ 40000000 (pair_cabled restingTree) ⟨?_,?_,?_⟩ ?_
  · intro i
    cases i <;> rfl
  · refine pair_received (by intro i; cases i <;> rfl) (by intro i; cases i <;> rfl) fun i port one two => ?_
    cases found : (restingTree i).received.get? port with
    | none => rfl
    | some received =>
      rcases (entries found).2.1 with isOne | isTwo
      · exact absurd isOne one
      · exact absurd isTwo two
  · intro i port received found
    exact (entries found).2.2.1
  · intro i port received found
    obtain ⟨rfl,cabled,-,free⟩ := entries found
    rw [free,pair_cost restingTree true cabled,UInt32.toNat_zero]
    decide

/-- Each switch has its root port on one of two cables and holds on to root 0 at the largest cost. -/
def phantomTree (second : Bool) : StpInstance :=
  let root : InterfaceId := if second then 2 else 1
  { agreed := ∅
    transitions := OrderedMap.ofList [(1,0),(2,0)]
    root_id := 0
    root_cost := 0xffffffff
    root_port := some root
    ports := OrderedMap.ofList [(1,(if second then .Designated else .Root,.Forwarding)),
      (2,(if second then .Root else .Designated,.Forwarding))]
    received := OrderedMap.insert ∅ root (lasting ⟨0,0xffffffff,pairIds (!second),0x8000 ||| root.toUInt16⟩) }

/-- Two switches between two cables that both forward. -/
def phantom : Network Bool := pair phantomTree

/-- A network at rest that keeps a root alive which does not exist, and a cycle of active links. -/
theorem spanning_tree_phantom : phantom.Cabled ∧ phantom.Quiescent 40000000 ∧
    (∀ i r, phantom.bridge_id r ≠ (phantom.tree i).root_id) ∧ ∃ steps, ClosedTrail phantom.Active Prod.fst steps := by
  refine ⟨pair_cabled phantomTree,⟨?_,?_,?_⟩,?_,?_⟩
  · intro i
    cases i <;> rfl
  · exact pair_received (by intro i; cases i <;> rfl) (by intro i; cases i <;> rfl) fun i port one two => by
      cases i <;> simp [phantomTree,OrderedMap.get?_insert,one,two]
  · intro i port received found
    rw [show phantom.tree i = phantomTree i from rfl,phantomTree,OrderedMap.get?_insert] at found
    split_ifs at found <;> cases found <;> rfl
  · intro i r
    cases i <;> cases r <;> decide
  · refine ⟨[((false,1),(true,1)),((true,2),(false,2))],by simp,by simp [Trail],false,?_⟩
    have active : ∀ {port : InterfaceId} (i : Bool), port = 1 ∨ port = 2 → phantom.Active (i,port) (!i,port) := by
      rintro port i (rfl | rfl) <;> cases i <;> exact ⟨rfl,by decide,by decide⟩
    exact .cons (active false (.inl rfl)) (.cons (active true (.inr rfl)) (.nil false))

end Rios.StpTopology
