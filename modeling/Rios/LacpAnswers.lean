import Rios.LacpNegotiation

/-!
# Answers end

Between ticks a chain of immediate answers is finite: a PDU is answered by one that
is settled further, and a partner becomes known only once.
-/

namespace Rios.Lacp
open Rios.Machine Rios.Device Rios.Queue

section
open Classical

namespace Lacpdu
variable (source target : LacpPortInfo) (own partner : Bool)

/-- The levels that a PDU has not reached. -/
noncomputable def missing (pdu : Lacpdu) : Finset Nat :=
  (Finset.range 6).filter (fun level => ¬ pdu.Level source target own partner level)

/-- What a PDU in flight can still cause. -/
noncomputable def weight (pdu : Lacpdu) : Nat := 1 + 3 * (missing source target own partner pdu).card

variable {source target own partner} {pdu answer : Lacpdu}

theorem missing_eq_empty (settled : pdu.Level source target own partner 5) : missing source target own partner pdu = ∅ :=
  Finset.filter_eq_empty_iff.mpr (fun _ _ missed => missed settled.of_five)

theorem five_mem_missing (unsettled : ¬ pdu.Level source target own partner 5) :
    5 ∈ missing source target own partner pdu := Finset.mem_filter.mpr ⟨by decide,unsettled⟩

/-- An answer that is settled one level further misses one level less. -/
theorem missing_answer {source' target' : LacpPortInfo} {own' partner' : Bool}
    (source_known : answer.Level source' target' own' partner' 0)
    (further : ∀ level, pdu.Level source target own partner level → answer.Level source' target' own' partner' (level + 1))
    (unsettled : ¬ pdu.Level source target own partner 5) :
    (missing source' target' own' partner' answer).card + 1 ≤ (missing source target own partner pdu).card := by
  have within : missing source' target' own' partner' answer ⊆
      ((missing source target own partner pdu).erase 5).image (· + 1) := by
    intro level member
    obtain ⟨below,missed⟩ := Finset.mem_filter.mp member
    rw [Finset.mem_range] at below
    cases level with
    | zero => exact absurd source_known missed
    | succ level =>
      refine Finset.mem_image.mpr ⟨level,Finset.mem_erase.mpr ⟨by omega,?_⟩,rfl⟩
      exact Finset.mem_filter.mpr ⟨Finset.mem_range.mpr (by omega),fun reached => missed (further level reached)⟩
  have fewer := (Finset.card_le_card within).trans Finset.card_image_le
  rw [Finset.card_erase_of_mem (five_mem_missing unsettled)] at fewer
  have some_missing := Finset.card_pos.mpr ⟨5,five_mem_missing unsettled⟩
  omega

end Lacpdu

namespace Network
variable {cables : Cables} {start : Nat} {first net next : Network}

/-- All ports of both systems. -/
def ends (first : Network) : Finset (Side × InterfaceId) :=
  ([Side.Left,Side.Right].flatMap (fun side => (first.system side).ports.keys.map (fun port => (side,port)))).toFinset

theorem mem_keys (wired : Wired cables first) {side : Side} {port other : InterfaceId}
    (linked : cables.far side port = some other) : port ∈ (first.system side).ports.keys := by
  have actor := (wired.info_eq linked).1
  unfold System.lacp_actor at actor
  rw [OrderedMap.mem_keys]
  cases present : (first.system side).ports.get? port with
  | none => rw [present] at actor; cases actor
  | some entry => exact ⟨entry,rfl⟩

theorem mem_ends (wired : Wired cables first) {side : Side} {port other : InterfaceId}
    (linked : cables.far side port = some other) : (side,port) ∈ ends first := by
  refine List.mem_toFinset.mpr (List.mem_flatMap.mpr ⟨side,?_,List.mem_map.mpr ⟨port,mem_keys wired linked,rfl⟩⟩)
  cases side <;> simp

/-- Whether a port does not know yet who is at the far end of its link. -/
def Stranger (cables : Cables) (first net : Network) (port : Side × InterfaceId) : Prop :=
  ¬ ∃ neighbor flags, (net.system port.1).lacp_neighbors.get? port.2 = some neighbor ∧
    neighbor.pdu.actor = (far_info cables first port.1 port.2).flagged flags

/-- Whether the far end of a port is the partner that its group has selected. -/
def picks (cables : Cables) (first net : Network) (side : Side) (port : InterfaceId) : Bool :=
  (net.system side).selected_partner (info first side port).key = some (far_info cables first side port).identity

/-- Levels of a PDU for a port, under a selection. -/
def Reached (cables : Cables) (first : Network) (picks : Side → InterfaceId → Bool) (side : Side) (port : InterfaceId)
    (level : Nat) (pdu : Lacpdu) : Prop :=
  pdu.Level (far_info cables first side port) (info first side port)
    (picks side.other ((cables.far side port).getD 0)) (picks side port) level

/-- Whether what a port has heard is not settled in everything. -/
def Unsettled (cables : Cables) (first : Network) (picks : Side → InterfaceId → Bool) (net : Network)
    (port : Side × InterfaceId) : Prop :=
  ¬ ∃ neighbor, (net.system port.1).lacp_neighbors.get? port.2 = some neighbor ∧
    Reached cables first picks port.1 port.2 5 neighbor.pdu

noncomputable def strangers (cables : Cables) (first net : Network) : Nat :=
  ((ends first).filter (Stranger cables first net)).card

noncomputable def frame_weight (cables : Cables) (first : Network) (picks : Side → InterfaceId → Bool) (frame : Frame) : Nat :=
  Lacpdu.weight (far_info cables first frame.target frame.port) (info first frame.target frame.port)
    (picks frame.target.other ((cables.far frame.target frame.port).getD 0)) (picks frame.target frame.port) frame.pdu

noncomputable def work (cables : Cables) (first : Network) (picks : Side → InterfaceId → Bool) (net : Network) : Nat :=
  (net.flight.map (frame_weight cables first picks)).sum +
    2 * ((ends first).filter (Unsettled cables first picks net)).card

/-- A delivery either makes a stranger known, or takes from the work. -/
noncomputable def rank (cables : Cables) (first net : Network) : ℕ ×ₗ ℕ :=
  toLex (strangers cables first net,work cables first (picks cables first net) net)

section
variable (wired : Wired cables first)
include wired

/-- A port that knows its far end selects as before when it hears from it again. -/
theorem picks_deliver (basic : Basic cables start first net) {frame : Frame} (flying : frame ∈ net.flight)
    (rest : List Frame) (now : SimTime) (known : ¬ Stranger cables first net (frame.target,frame.port)) :
    picks cables first (net.deliver cables frame rest now) = picks cables first net := by
  obtain ⟨neighbor,flags,present,said⟩ := not_not.mp known
  obtain ⟨other,linked,-⟩ := basic.honest frame flying
  obtain ⟨again,repeated⟩ := basic.said flying linked
  have same : ∀ side number, ((net.deliver cables frame rest now).system side).selected_partner number =
      (net.system side).selected_partner number := by
    intro side number
    by_cases here : side = frame.target
    · subst here
      unfold System.selected_partner
      refine min?_congr (fun identity => ?_)
      simp only [List.mem_map,List.mem_filter]
      have member : ∀ port, ((net.deliver cables frame rest now).system frame.target).member_of number port =
          (net.system frame.target).member_of number port := by
        intro port
        unfold System.member_of System.protocol_up
        rw [deliver_ports cables rest now basic wired flying]
      have equal : frame.pdu.actor.identity = neighbor.pdu.actor.identity := by
        rw [said,repeated,far_info_eq linked]
        rfl
      constructor
      · rintro ⟨⟨port,heard⟩,⟨entry,belongs⟩,rfl⟩
        have found := (OrderedMap.get?_eq_some _ _ _).mpr entry
        rw [deliver_neighbor cables rest now basic wired flying] at found
        rw [member] at belongs
        split at found
        · rename_i at_port
          cases found
          refine ⟨(frame.port,neighbor),⟨(OrderedMap.get?_eq_some _ _ _).mp present,?_⟩,equal.symm⟩
          rw [← at_port.2]
          exact belongs
        · exact ⟨(port,heard),⟨(OrderedMap.get?_eq_some _ _ _).mp found,belongs⟩,rfl⟩
      · rintro ⟨⟨port,heard⟩,⟨entry,belongs⟩,rfl⟩
        have found := (OrderedMap.get?_eq_some _ _ _).mpr entry
        have after := deliver_neighbor cables rest now basic wired flying frame.target port
        by_cases at_port : port = frame.port
        · subst at_port
          rw [if_pos ⟨rfl,rfl⟩] at after
          rw [found] at present
          cases present
          refine ⟨(frame.port,_),⟨(OrderedMap.get?_eq_some _ _ _).mp after,?_⟩,equal⟩
          rw [member]
          exact belongs
        · rw [if_neg (fun both => at_port both.2),found] at after
          refine ⟨(port,heard),⟨(OrderedMap.get?_eq_some _ _ _).mp after,?_⟩,rfl⟩
          rw [member]
          exact belongs
    · rw [deliver_other cables rest now here]
  funext side port
  unfold picks
  rw [same]

/-- A stranger that is heard is no stranger any more, and nobody else becomes one. -/
theorem strangers_deliver (basic : Basic cables start first net) {frame : Frame} (flying : frame ∈ net.flight)
    (rest : List Frame) (now : SimTime) :
    strangers cables first (net.deliver cables frame rest now) ≤ strangers cables first net ∧
      (Stranger cables first net (frame.target,frame.port) →
        strangers cables first (net.deliver cables frame rest now) < strangers cables first net) := by
  obtain ⟨other,linked,-⟩ := basic.honest frame flying
  obtain ⟨flags,said⟩ := basic.said flying linked
  have heard : ¬ Stranger cables first (net.deliver cables frame rest now) (frame.target,frame.port) := by
    refine not_not.mpr ⟨⟨frame.pdu,satAdd64 now 3000000⟩,flags,?_,?_⟩
    · rw [deliver_neighbor cables rest now basic wired flying,if_pos ⟨rfl,rfl⟩]
    · rw [said,far_info_eq linked]
  have within : (ends first).filter (Stranger cables first (net.deliver cables frame rest now)) ⊆
      (ends first).filter (Stranger cables first net) := by
    intro port member
    obtain ⟨isEnd,stranger⟩ := Finset.mem_filter.mp member
    refine Finset.mem_filter.mpr ⟨isEnd,fun known => stranger ?_⟩
    obtain ⟨neighbor,flags,present,said⟩ := known
    have elsewhere : ¬ (port.1 = frame.target ∧ port.2 = frame.port) := by
      rintro ⟨side,id⟩
      have same : port = (frame.target,frame.port) := Prod.ext side id
      rw [same] at stranger
      exact heard stranger
    refine ⟨neighbor,flags,?_,said⟩
    rw [deliver_neighbor cables rest now basic wired flying,if_neg elsewhere]
    exact present
  refine ⟨Finset.card_le_card within,fun stranger => Finset.card_lt_card ⟨within,fun all => ?_⟩⟩
  have member := all (Finset.mem_filter.mpr ⟨mem_ends wired linked,stranger⟩)
  exact heard (Finset.mem_filter.mp member).2

omit wired in
theorem reached_iff {picks : Side → InterfaceId → Bool} {side : Side} {port other : InterfaceId}
    (linked : cables.far side port = some other) (level : Nat) (pdu : Lacpdu) :
    Reached cables first picks side port level pdu ↔
      pdu.Level (info first side.other other) (info first side port) (picks side.other other) (picks side port) level := by
  unfold Reached
  rw [far_info_eq linked,linked,Option.getD_some]

/-- The answer to a delivery, if there is one. -/
theorem deliver_answer (basic : Basic cables start first net) {frame : Frame} (flying : frame ∈ net.flight)
    {other : InterfaceId} (linked : cables.far frame.target frame.port = some other) (rest : List Frame) (now : SimTime) :
    ∃ answer : Option Frame, (net.deliver cables frame rest now).flight = rest ++ answer.toList ∧
      ∀ sent, answer = some sent → ∃ pdu, (net.system frame.target).lacp_advertisement frame.port ≠ some pdu ∧
        ((net.deliver cables frame rest now).system frame.target).lacp_advertisement frame.port = some pdu ∧
        sent = ⟨frame.target.other,other,pdu,net.second⟩ := by
  refine ⟨_,rfl,fun sent answered => ?_⟩
  have alone : sent ∈ (net.deliver cables frame [] now).flight := by
    show sent ∈ [] ++ Option.toList _
    rw [answered]
    simp
  rcases (deliver_flight cables [] now basic wired flying linked sent).mp alone with impossible | answer
  · cases impossible
  · exact answer

/-- An answer is settled one level further than what it answers. -/
theorem answer_reached (basic : Basic cables start first net) {frame : Frame} (flying : frame ∈ net.flight)
    {other : InterfaceId} (linked : cables.far frame.target frame.port = some other) (rest : List Frame) (now : SimTime)
    (known : ¬ Stranger cables first net (frame.target,frame.port)) {pdu : Lacpdu}
    (sends : ((net.deliver cables frame rest now).system frame.target).lacp_advertisement frame.port = some pdu)
    (level : Nat) (reached : Reached cables first (picks cables first net) frame.target frame.port level frame.pdu) :
    Reached cables first (picks cables first net) frame.target.other other (level + 1) pdu := by
  have back := cables.symmetric frame.target frame.port other linked
  rw [reached_iff linked] at reached
  rw [reached_iff back,Side.other_other]
  have actor : ((net.deliver cables frame rest now).system frame.target).lacp_actor frame.port =
      some (info first frame.target frame.port) := by
    rw [lacp_actor_ports (deliver_ports cables rest now basic wired flying frame.target),basic.actor wired linked]
  have present := deliver_neighbor cables rest now basic wired flying frame.target frame.port
  rw [if_pos ⟨rfl,rfl⟩] at present
  refine System.advertisement_level actor (wired.info_eq back).2.plain present reached ?_ sends
  rw [← picks_deliver wired basic flying rest now known]
  unfold picks
  rw [far_info_eq linked,decide_eq_true_iff]

/-- A port that hears the same again has nothing to answer. -/
theorem same_advertisement (basic : Basic cables start first net) {frame : Frame} (flying : frame ∈ net.flight)
    {other : InterfaceId} (linked : cables.far frame.target frame.port = some other) (rest : List Frame) (now : SimTime)
    (known : ¬ Stranger cables first net (frame.target,frame.port)) {neighbor : LacpNeighbor}
    (present : (net.system frame.target).lacp_neighbors.get? frame.port = some neighbor) (same : neighbor.pdu = frame.pdu) :
    ((net.deliver cables frame rest now).system frame.target).lacp_advertisement frame.port =
      (net.system frame.target).lacp_advertisement frame.port := by
  have actor := basic.actor wired linked
  have actor_after : ((net.deliver cables frame rest now).system frame.target).lacp_actor frame.port =
      some (info first frame.target frame.port) := by
    rw [lacp_actor_ports (deliver_ports cables rest now basic wired flying frame.target),actor]
  have after := deliver_neighbor cables rest now basic wired flying frame.target frame.port
  rw [if_pos ⟨rfl,rfl⟩] at after
  have alike := congrFun (congrFun (picks_deliver wired basic flying rest now known) frame.target) frame.port
  unfold picks at alike
  obtain ⟨flags,said⟩ := basic.said flying linked
  have identified : frame.pdu.actor.identity = (far_info cables first frame.target frame.port).identity := by
    rw [far_info_eq linked,said]
    rfl
  rw [System.lacp_advertisement_heard actor_after after,System.lacp_advertisement_heard actor present,same]
  simp only
  rw [identified,alike]

/-- A delivery to a port that knows its far end takes from the work. -/
theorem work_deliver (basic : Basic cables start first net) {early late : List Frame} {frame : Frame}
    (split : net.flight = early ++ frame :: late) (now : SimTime)
    (known : ¬ Stranger cables first net (frame.target,frame.port)) :
    work cables first (picks cables first net) (net.deliver cables frame (early ++ late) now) <
      work cables first (picks cables first net) net := by
  have flying : frame ∈ net.flight := by simp [split]
  obtain ⟨other,linked,-⟩ := basic.honest frame flying
  obtain ⟨answer,flight,answers⟩ := deliver_answer wired basic flying linked (early ++ late) now
  have further := fun pdu sends => @answer_reached cables start first net wired basic frame flying other linked
    (early ++ late) now known pdu sends
  have neighbors := deliver_neighbor cables (early ++ late) now basic wired flying
  have repeats := fun neighbor present same => @same_advertisement cables start first net wired basic frame flying other
    linked (early ++ late) now known neighbor present same
  have port_end := mem_ends wired linked
  have back := cables.symmetric frame.target frame.port other linked
  have actor : ((net.deliver cables frame (early ++ late) now).system frame.target).lacp_actor frame.port =
      some (info first frame.target frame.port) := by
    rw [lacp_actor_ports (deliver_ports cables (early ++ late) now basic wired flying frame.target),basic.actor wired linked]
  generalize picks cables first net = chosen at further
  generalize net.deliver cables frame (early ++ late) now = next at flight answers further neighbors repeats actor
  have elsewhere : ∀ port : Side × InterfaceId, port ≠ (frame.target,frame.port) →
      (Unsettled cables first chosen next port ↔ Unsettled cables first chosen net port) := by
    intro port different
    unfold Unsettled
    rw [neighbors,if_neg (fun both => different (Prod.ext both.1 both.2))]
  have before : work cables first chosen net =
      (early.map (frame_weight cables first chosen)).sum + (late.map (frame_weight cables first chosen)).sum +
        frame_weight cables first chosen frame + 2 * ((ends first).filter (Unsettled cables first chosen net)).card := by
    unfold work
    rw [split]
    simp only [List.map_append,List.map_cons,List.sum_append,List.sum_cons]
    omega
  have after : work cables first chosen next =
      (early.map (frame_weight cables first chosen)).sum + (late.map (frame_weight cables first chosen)).sum +
        (answer.toList.map (frame_weight cables first chosen)).sum +
        2 * ((ends first).filter (Unsettled cables first chosen next)).card := by
    unfold work
    rw [flight]
    simp only [List.map_append,List.sum_append]
  have positive : 1 ≤ frame_weight cables first chosen frame := Nat.le_add_right 1 _
  rw [before,after]
  by_cases settled : Reached cables first chosen frame.target frame.port 5 frame.pdu
  · have within : (ends first).filter (Unsettled cables first chosen next) ⊆
        ((ends first).filter (Unsettled cables first chosen net)).erase (frame.target,frame.port) := by
      intro port member
      obtain ⟨isEnd,unsettled⟩ := Finset.mem_filter.mp member
      have different : port ≠ (frame.target,frame.port) := by
        rintro rfl
        refine unsettled ⟨⟨frame.pdu,satAdd64 now 3000000⟩,?_,settled⟩
        rw [neighbors,if_pos ⟨rfl,rfl⟩]
      exact Finset.mem_erase.mpr ⟨different,Finset.mem_filter.mpr ⟨isEnd,(elsewhere port different).mp unsettled⟩⟩
    have fewer := Finset.card_le_card within
    by_cases was : Unsettled cables first chosen net (frame.target,frame.port)
    · -- the port settles now, and its answer says everything
      have member : (frame.target,frame.port) ∈ (ends first).filter (Unsettled cables first chosen net) :=
        Finset.mem_filter.mpr ⟨port_end,was⟩
      rw [Finset.card_erase_of_mem member] at fewer
      have some_unsettled := Finset.card_pos.mpr ⟨_,member⟩
      have light : (answer.toList.map (frame_weight cables first chosen)).sum ≤ 1 := by
        cases answered : answer with
        | none => exact Nat.zero_le 1
        | some sent =>
          obtain ⟨pdu,-,sends,rfl⟩ := answers sent answered
          have reached := (further pdu sends 5 settled)
          rw [reached_iff back] at reached
          have empty := Lacpdu.missing_eq_empty (reached.mono (by decide : 5 ≤ 5 + 1))
          simp only [Option.toList_some,List.map_cons,List.map_nil,List.sum_cons,List.sum_nil]
          unfold frame_weight Lacpdu.weight
          simp only
          rw [far_info_eq back,back,Option.getD_some,empty]
          exact le_refl 1
      omega
    · -- the port has heard this before
      have silent : answer = none := by
        cases answered : answer with
        | none => rfl
        | some sent =>
          exfalso
          obtain ⟨pdu,differs,sends,-⟩ := answers sent answered
          obtain ⟨neighbor,present,heard⟩ := not_not.mp was
          rw [reached_iff linked] at settled heard
          exact differs ((repeats neighbor present (heard.unique settled)).symm.trans sends)
      have kept := fewer.trans (Finset.card_le_card (Finset.erase_subset _ _))
      rw [silent]
      simp only [Option.toList_none,List.map_nil,List.sum_nil]
      omega
  · have within : (ends first).filter (Unsettled cables first chosen next) ⊆
        insert (frame.target,frame.port) ((ends first).filter (Unsettled cables first chosen net)) := by
      intro port member
      obtain ⟨isEnd,unsettled⟩ := Finset.mem_filter.mp member
      by_cases same : port = (frame.target,frame.port)
      · exact Finset.mem_insert.mpr (.inl same)
      · exact Finset.mem_insert_of_mem (Finset.mem_filter.mpr ⟨isEnd,(elsewhere port same).mp unsettled⟩)
    have more := (Finset.card_le_card within).trans (Finset.card_insert_le _ _)
    have lighter : (answer.toList.map (frame_weight cables first chosen)).sum + 3 ≤ frame_weight cables first chosen frame := by
      cases answered : answer with
      | none =>
        have heavy := Finset.card_pos.mpr ⟨5,Lacpdu.five_mem_missing settled⟩
        simp only [Option.toList_none,List.map_nil,List.sum_nil]
        unfold frame_weight Lacpdu.weight
        omega
      | some sent =>
        obtain ⟨pdu,-,sends,rfl⟩ := answers sent answered
        have source : pdu.Level (info first frame.target.other.other frame.port) (info first frame.target.other other)
            (chosen frame.target.other.other frame.port) (chosen frame.target.other other) 0 := by
          rw [Side.other_other]
          exact System.advertisement_source actor sends _ _ _
        have less := Lacpdu.missing_answer source
          (fun level reached => (reached_iff back (level + 1) pdu).mp (further pdu sends level reached)) settled
        simp only [Option.toList_some,List.map_cons,List.map_nil,List.sum_cons,List.sum_nil]
        unfold frame_weight Lacpdu.weight
        simp only
        rw [far_info_eq back,back,Option.getD_some]
        omega
    omega

theorem delivery_basic (basic : Basic cables start first net) (delivered : Delivery cables start net next) :
    Basic cables start first next := by
  cases delivered with
  | deliver early late frame now split time => exact basic.deliver wired split time

theorem rank_delivery (basic : Basic cables start first net) (delivered : Delivery cables start net next) :
    rank cables first next < rank cables first net := by
  cases delivered with
  | deliver early late frame now split time =>
    have flying : frame ∈ net.flight := by simp [split]
    obtain ⟨most,fewer⟩ := strangers_deliver wired basic flying (early ++ late) now
    unfold rank
    rw [Prod.Lex.toLex_lt_toLex]
    by_cases known : Stranger cables first net (frame.target,frame.port)
    · exact .inl (fewer known)
    · rw [picks_deliver wired basic flying (early ++ late) now known]
      have less := work_deliver wired basic split now known
      rcases most.lt_or_eq with fewer | same
      · exact .inl fewer
      · exact .inr ⟨same,less⟩

/-- However deliveries are ordered, they come to an end. -/
theorem answers_end (basic : Basic cables start first net) :
    ¬ ∃ run : ℕ → Network, run 0 = net ∧ ∀ n, Delivery cables start (run n) (run (n + 1)) := by
  rintro ⟨run,zero,deliveries⟩
  have all : ∀ n, Basic cables start first (run n) := by
    intro n
    induction n with
    | zero =>
      rw [zero]
      exact basic
    | succ n ih => exact delivery_basic wired ih (deliveries n)
  have falling : ∀ n, rank cables first (run (n + 1)) < rank cables first (run n) :=
    fun n => rank_delivery wired (all n) (deliveries n)
  exact (RelEmbedding.natGT (fun n => rank cables first (run n)) falling).not_wellFounded wellFounded_lt

end

/-! ### Settled negotiation -/

/-- Whether the far end of a link is the partner that the group of a port has selected. -/
def Selected (net : Network) (side : Side) (port other : InterfaceId) : Prop :=
  ∃ actor partner, (net.system side).lacp_actor port = some actor ∧
    (net.system side.other).lacp_actor other = some partner ∧
    (net.system side).selected_partner actor.key = some partner.identity

/-- Whether a port is configured as active. -/
def mode_active (system : System) (port : InterfaceId) : Bool :=
  ((system.ports.get? port).bind (·.channel_group)).any (·.mode = .Active)

theorem mode_active_eq {system : System} {port : InterfaceId} {actor : LacpPortInfo}
    (known : system.lacp_actor port = some actor) :
    mode_active system port = decide (actor.state &&& LACP_ACTIVITY ≠ 0) := by
  unfold System.lacp_actor at known
  unfold mode_active
  cases present : system.ports.get? port with
  | none => rw [present] at known; cases known
  | some entry =>
    rw [present] at known
    simp only at known
    rw [Option.bind_some]
    cases group : entry.channel_group with
    | none => rw [group] at known; cases known
    | some membership =>
      rw [group] at known
      simp only at known
      split at known
      · cases known
      · split at known
        · cases known
          rw [Option.any_some]
          by_cases acts : membership.mode = .Active
          · simp only [acts,if_true,decide_true]
            decide
          · simp only [acts,if_false,decide_false]
            decide
        · cases known

/-- A system can be the partner of a group: a link of the group leads to it, and one end of that link is active. -/
def Offered (cables : Cables) (first : Network) (side : Side) (number : UInt16)
    (identity : UInt16 ×ₗ MacAddress ×ₗ UInt16) : Prop :=
  ∃ port other partner, cables.far side port = some other ∧ (first.system side).member_of number port = true ∧
    (mode_active (first.system side) port = true ∨ mode_active (first.system side.other) other = true) ∧
    (first.system side.other).lacp_actor other = some partner ∧ partner.identity = identity

/-- By configuration alone: the far end of a link is the least partner that the group of a port can have. -/
def Elected (cables : Cables) (first : Network) (side : Side) (port other : InterfaceId) : Prop :=
  ∃ actor partner, (first.system side).lacp_actor port = some actor ∧
    (first.system side.other).lacp_actor other = some partner ∧ Offered cables first side actor.key partner.identity ∧
    ∀ identity, Offered cables first side actor.key identity → partner.identity ≤ identity

theorem live_iff (wired : Wired cables first) {side : Side} {port other : InterfaceId}
    (linked : cables.far side port = some other) : live cables first side port = true ↔
      mode_active (first.system side) port = true ∨ mode_active (first.system side.other) other = true := by
  have actor := (wired.info_eq linked).1
  have partner := (wired.info_eq (cables.symmetric side port other linked)).1
  rw [mode_active_eq actor,mode_active_eq partner,live,linked,Option.any_some,Bool.or_eq_true]
  rfl

theorem offered_iff (wired : Wired cables first) (side : Side) (number : UInt16)
    (identity : UInt16 ×ₗ MacAddress ×ₗ UInt16) :
    Offered cables first side number identity ↔ identity ∈ ((first.system side).ports.keys.filter (fun port =>
      live cables first side port && (first.system side).member_of number port)).map
        (fun port => (far_info cables first side port).identity) := by
  constructor
  · rintro ⟨port,other,partner,linked,member,acts,known,rfl⟩
    have alive := (live_iff wired linked).mpr acts
    refine List.mem_map.mpr ⟨port,List.mem_filter.mpr ⟨mem_keys wired linked,?_⟩,?_⟩
    · rw [alive,member]
      rfl
    · have far := (wired.info_eq (cables.symmetric side port other linked)).1
      rw [known] at far
      rw [far_info_eq linked,← Option.some.inj far]
  · intro member
    obtain ⟨port,kept,rfl⟩ := List.mem_map.mp member
    have takes := (List.mem_filter.mp kept).2
    rw [Bool.and_eq_true] at takes
    obtain ⟨other,linked,-⟩ := Option.any_eq_true _ _ |>.mp takes.1
    have far := (wired.info_eq (cables.symmetric side port other linked)).1
    exact ⟨port,other,_,linked,takes.2,(live_iff wired linked).mp takes.1,far,by rw [far_info_eq linked]⟩

/-- What a group comes to select is what its configuration elects. -/
theorem chosen_iff (wired : Wired cables first) {side : Side} {port other : InterfaceId}
    (linked : cables.far side port = some other) :
    chosen cables first side port = true ↔ Elected cables first side port other := by
  have actor := (wired.info_eq linked).1
  have partner := (wired.info_eq (cables.symmetric side port other linked)).1
  rw [chosen,decide_eq_true_iff,expected,List.min?_eq_some_iff,far_info_eq linked]
  simp only [← offered_iff wired]
  constructor
  · rintro ⟨offered,least⟩
    exact ⟨_,_,actor,partner,offered,least⟩
  · rintro ⟨own,peer,here,there,offered,least⟩
    rw [here] at actor
    rw [there] at partner
    rw [← Option.some.inj actor,← Option.some.inj partner]
    exact ⟨offered,least⟩

/-- What is settled about the two ends of a link. -/
structure LinkSettled (cables : Cables) (first net : Network) (side : Side) (port other : InterfaceId) : Prop where
  agree : (net.system side).lacp_distributing port = (net.system side.other).lacp_distributing other
  selects : Selected net side port other ↔ Elected cables first side port other
  both : mode_active (net.system side) port = true ∨ mode_active (net.system side.other) other = true →
    Selected net side port other → Selected net side.other other port →
    (net.system side).lacp_distributing port = true
  passive : mode_active (net.system side) port = false → mode_active (net.system side.other) other = false →
    (net.system side).lacp_distributing port = false
  unselected : ¬ Selected net side port other ∨ ¬ Selected net side.other other port →
    (net.system side).lacp_distributing port = false

/-- In every run chains of answers are finite, and after 21 seconds every link is settled, with the partners that the
configuration elects. -/
theorem negotiation_settles (wired : Wired cables first) (initial : Initial start first)
    (reaches : Reaches cables start first net) :
    (¬ ∃ run : ℕ → Network, run 0 = net ∧ ∀ n, Delivery cables start (run n) (run (n + 1))) ∧
      (21 ≤ net.second → ∀ side port other, cables.far side port = some other →
        LinkSettled cables first net side port other) := by
  have basic := reaches.basic wired initial
  refine ⟨answers_end wired basic,fun late side port other linked => ?_⟩
  have back := cables.symmetric side port other linked
  have here := reaches.distributing wired initial late linked
  have there := reaches.distributing wired initial late back
  rw [live_far linked,Side.other_other,Bool.and_comm (chosen cables first side.other other)] at there
  have actor := basic.actor wired linked
  have partner := basic.actor wired back
  have selects : ∀ {side port other}, cables.far side port = some other →
      (Selected net side port other ↔ chosen cables first side port = true) := by
    intro side port other linked
    rw [← reaches.selects wired initial (by omega) linked]
    unfold Selected
    rw [basic.actor wired linked,basic.actor wired (cables.symmetric side port other linked)]
    constructor
    · rintro ⟨_,_,⟨rfl⟩,⟨rfl⟩,same⟩
      exact same
    · exact fun same => ⟨_,_,rfl,rfl,same⟩
  have alive : live cables first side port =
      (mode_active (net.system side) port || mode_active (net.system side.other) other) := by
    rw [mode_active_eq actor,mode_active_eq partner,live,linked]
    rfl
  have mine := selects linked
  have yours := selects back
  rw [alive] at here
  refine ⟨here.trans (alive ▸ there).symm,mine.trans (chosen_iff wired linked),fun active selected echoed => ?_,
    fun passive far => ?_,fun unselected => ?_⟩
  · rw [here,mine.mp selected,yours.mp echoed]
    simpa using active
  · rw [here,passive,far]
    rfl
  · rw [mine,yours,Bool.not_eq_true,Bool.not_eq_true] at unselected
    rw [here]
    rcases unselected with mine | yours
    · rw [mine,Bool.false_and,Bool.and_false]
    · rw [yours,Bool.and_false,Bool.and_false]

end Network

end

/-! ### A run -/

namespace Network
variable {cables : Cables} {start : Nat} {first net : Network}

/-- Deliver what is in flight, first come first served. -/
def drain (cables : Cables) (now : SimTime) : Nat → Network → Network
  | 0,net => net
  | rounds + 1,net =>
    match net.flight with
    | [] => net
    | frame :: rest => drain cables now rounds (net.deliver cables frame rest now)

/-- One second, up to its end. -/
def busy (cables : Cables) (now : SimTime) (net : Network) : Network :=
  drain cables now 32 ((net.tick cables .Left now).tick cables .Right now)

/-- The state after some seconds, and whether everything has arrived in each of them. -/
def seconds (cables : Cables) (start : Nat) (first : Network) : Nat → Network × Bool
  | 0 => (first,true)
  | count + 1 =>
    let before := seconds cables start first count
    let after := busy cables (UInt64.ofNat (start + count * 1000000)) before.1
    (after.advance,before.2 && after.flight.isEmpty)

theorem drain_reaches {now : SimTime} (time : Within start net.second now) (reaches : Reaches cables start first net)
    (rounds : Nat) : Reaches cables start first (drain cables now rounds net) ∧
      (drain cables now rounds net).second = net.second ∧ (drain cables now rounds net).ticked = net.ticked := by
  induction rounds generalizing net with
  | zero => exact ⟨reaches,rfl,rfl⟩
  | succ rounds ih =>
    rw [drain]
    cases flight : net.flight with
    | nil => exact ⟨reaches,rfl,rfl⟩
    | cons frame rest =>
      have delivered : Delivery cables start net (net.deliver cables frame rest now) := .deliver net [] rest frame now flight time
      exact ih time (.step net _ reaches (.delivery net _ delivered))

/-- One whole second of a run. -/
theorem busy_reaches {now : SimTime} (time : Within start net.second now) (reaches : Reaches cables start first net)
    (waiting : ∀ side, net.ticked side = false) (empty : (busy cables now net).flight = []) :
    Reaches cables start first (busy cables now net).advance ∧ (busy cables now net).second = net.second := by
  have left : Reaches cables start first (net.tick cables .Left now) :=
    .step net _ reaches (.tick net .Left now (waiting .Left) time)
  have right_waits : (net.tick cables .Left now).ticked .Right = false := by
    show Function.update net.ticked .Left true .Right = false
    rw [Function.update_of_ne (by decide)]
    exact waiting .Right
  have right : Reaches cables start first ((net.tick cables .Left now).tick cables .Right now) :=
    .step _ _ left (.tick _ .Right now right_waits time)
  obtain ⟨drained,second,ticked⟩ := @drain_reaches cables start first ((net.tick cables .Left now).tick cables .Right now) now
    time right 32
  refine ⟨.step _ _ drained (.advance _ (fun side => ?_) (fun frame flying => ?_)),second⟩
  · rw [ticked]
    show Function.update (Function.update net.ticked .Left true) .Right true side = true
    cases side with
    | Left => rw [Function.update_of_ne (by decide),Function.update_self]
    | Right => rw [Function.update_self]
  · unfold busy at empty
    rw [empty] at flying
    cases flying

theorem within_second {count : Nat} (short : start + count * 1000000 + 5000000 < 2 ^ 64) :
    Within start count (UInt64.ofNat (start + count * 1000000)) := by
  have exactly : (UInt64.ofNat (start + count * 1000000)).toNat = start + count * 1000000 :=
    UInt64.toNat_ofNat_of_lt' (by
      have size : UInt64.size = 2 ^ 64 := rfl
      rw [size]
      omega)
  generalize UInt64.ofNat (start + count * 1000000) = now at exactly
  exact ⟨exactly.ge,by omega,by omega⟩

theorem seconds_reaches (initial : Initial start first) (count : Nat) (short : start + count * 1000000 + 4000000 < 2 ^ 64)
    (arrives : (seconds cables start first count).2 = true) :
    Reaches cables start first (seconds cables start first count).1 ∧
      (seconds cables start first count).1.second = count ∧ ∀ side, (seconds cables start first count).1.ticked side = false := by
  induction count with
  | zero => exact ⟨.refl,initial.zero,initial.waiting⟩
  | succ count ih =>
    rw [Nat.succ_mul] at short
    rw [seconds] at arrives ⊢
    simp only [Bool.and_eq_true] at arrives
    obtain ⟨reaches,second,waiting⟩ := ih (by linarith) arrives.1
    have time : Within start count (UInt64.ofNat (start + count * 1000000)) := within_second (by linarith)
    generalize UInt64.ofNat (start + count * 1000000) = now at arrives time ⊢
    generalize (seconds cables start first count).1 = before at reaches second waiting arrives ⊢
    obtain ⟨reached,same⟩ := busy_reaches (second ▸ time) reaches waiting (List.isEmpty_iff.mp arrives.2)
    exact ⟨reached,congrArg (· + 1) (same.trans second),fun _ => rfl⟩

end Network

/-- Two links of one active group, to passive groups 7 and 5 of the other system. -/
def two_cables : Cables where
  far
    | .Left,port => if port = 1 then some 2 else if port = 3 then some 4 else none
    | .Right,port => if port = 2 then some 1 else if port = 4 then some 3 else none
  symmetric := by
    intro side port other linked
    cases side
    · dsimp only at linked
      split_ifs at linked <;> cases linked <;> simp_all [Side.other]
    · dsimp only at linked
      split_ifs at linked <;> cases linked <;> simp_all [Side.other]

def joined_system : Side → System
  | .Left => ⟨.ofList [(1,⟨true,⟨#v[2,0,0,0,0,1]⟩,true,some ⟨1,.Active⟩⟩),(3,⟨true,⟨#v[2,0,0,0,0,3]⟩,true,some ⟨1,.Active⟩⟩)],∅⟩
  | .Right => ⟨.ofList [(2,⟨true,⟨#v[2,0,0,0,0,2]⟩,true,some ⟨7,.Passive⟩⟩),(4,⟨true,⟨#v[2,0,0,0,0,4]⟩,true,some ⟨5,.Passive⟩⟩)],∅⟩

def joined : Network := ⟨joined_system,[],0,fun _ => false,fun _ _ => 0,fun _ _ => 0⟩

theorem joined_initial : Network.Initial 0 joined := by
  refine ⟨rfl,rfl,fun _ => rfl,fun _ _ => rfl,fun side port neighbor present => ?_⟩
  cases side <;> cases present

theorem joined_actors :
    (joined_system .Left).lacp_actor 1 = some ⟨32768,⟨#v[2,0,0,0,0,1]⟩,1,32768,1,7⟩ ∧
      (joined_system .Left).lacp_actor 3 = some ⟨32768,⟨#v[2,0,0,0,0,1]⟩,1,32768,3,7⟩ ∧
      (joined_system .Right).lacp_actor 2 = some ⟨32768,⟨#v[2,0,0,0,0,2]⟩,7,32768,2,6⟩ ∧
      (joined_system .Right).lacp_actor 4 = some ⟨32768,⟨#v[2,0,0,0,0,2]⟩,5,32768,4,6⟩ := by
  decide +kernel

theorem joined_wired : Network.Wired two_cables joined := by
  obtain ⟨one,three,two,four⟩ := joined_actors
  refine ⟨fun side port other linked => ?_,by decide +kernel⟩
  cases side with
  | Left =>
    simp only [two_cables] at linked
    split_ifs at linked with first third
    · exact ⟨_,first ▸ one,.inr rfl,by decide +kernel,by decide +kernel,by decide⟩
    · exact ⟨_,third ▸ three,.inr rfl,by decide +kernel,by decide +kernel,by decide⟩
  | Right =>
    simp only [two_cables] at linked
    split_ifs at linked with second fourth
    · exact ⟨_,second ▸ two,.inl rfl,by decide +kernel,by decide +kernel,by decide⟩
    · exact ⟨_,fourth ▸ four,.inl rfl,by decide +kernel,by decide +kernel,by decide⟩

/-- After 22 seconds the link to group 5 distributes at both ends, and the other one at none. -/
theorem negotiation_settles_joined :
    (¬ ∃ run : ℕ → Network, run 0 = (Network.seconds two_cables 0 joined 22).1 ∧
        ∀ n, Network.Delivery two_cables 0 (run n) (run (n + 1))) ∧
      (∀ side port other, two_cables.far side port = some other →
        Network.LinkSettled two_cables joined (Network.seconds two_cables 0 joined 22).1 side port other) ∧
      ∀ side port, two_cables.far side port ≠ none →
        (((Network.seconds two_cables 0 joined 22).1.system side).lacp_distributing port = true ↔ port = 3 ∨ port = 4) := by
  have reaches : Network.Reaches two_cables 0 joined (Network.seconds two_cables 0 joined 22).1 :=
    (Network.seconds_reaches joined_initial 22 (by decide) (by decide +kernel)).1
  obtain ⟨finite,settled⟩ := Network.negotiation_settles joined_wired joined_initial reaches
  refine ⟨finite,settled (by decide +kernel),fun side port linked => ?_⟩
  cases side with
  | Left =>
    simp only [two_cables] at linked
    split_ifs at linked with first third
    · subst first
      decide +kernel
    · subst third
      decide +kernel
    · exact absurd rfl linked
  | Right =>
    simp only [two_cables] at linked
    split_ifs at linked with second fourth
    · subst second
      decide +kernel
    · subst fourth
      decide +kernel
    · exact absurd rfl linked

end Rios.Lacp
