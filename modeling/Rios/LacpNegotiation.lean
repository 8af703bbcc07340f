import Rios.Lacp

/-!
# Two systems that negotiate

Two systems whose ports are joined by point-to-point links, with the PDUs between
them in flight. In each second both tick once, whatever is sent in one second has
arrived by the end of the next, and deliveries come in any order.
-/

namespace Rios.Lacp
open Rios.Machine Rios.Device Rios.Queue

inductive Side where
  | Left
  | Right
deriving DecidableEq

def Side.other : Side → Side
  | .Left => .Right
  | .Right => .Left

@[simp] theorem Side.other_other (side : Side) : side.other.other = side := by cases side <;> rfl

/-- The links between the ports of the two systems. -/
structure Cables where
  far : Side → InterfaceId → Option InterfaceId
  symmetric : ∀ side port other, far side port = some other → far side.other other = some port

/-- A PDU on its way to a port, with the second in which it was sent. -/
structure Frame where
  target : Side
  port : InterfaceId
  pdu : Lacpdu
  second : Nat

/-- The systems, the PDUs in flight and the seconds that have passed. For each port it is recorded in which second it
    last received a PDU, plus one, and in which second that PDU was sent. -/
structure Network where
  system : Side → System
  flight : List Frame
  second : Nat
  ticked : Side → Bool
  heard : Side → InterfaceId → Nat
  origin : Side → InterfaceId → Nat

/-- A time in one of the seconds since the start. The clock is not about to run over. -/
structure Within (start second : Nat) (now : SimTime) : Prop where
  after : start + second * 1000000 ≤ now.toNat
  before : now.toNat < start + (second + 1) * 1000000
  clock : now.toNat + 3000000 < 2 ^ 64

/-- What is learned within a second expires three seconds later. -/
theorem Within.expires {start second : Nat} {now : SimTime} (time : Within start second now) :
    start + (second + 3) * 1000000 ≤ (satAdd64 now 3000000).toNat ∧
      (satAdd64 now 3000000).toNat < start + (second + 4) * 1000000 := by
  obtain ⟨after,before,clock⟩ := time
  rw [satAdd64_toNat,show (3000000 : UInt64).toNat = 3000000 by decide]
  omega

namespace Network
variable (cables : Cables)

/-- A PDU on the link of a port, if it has one. -/
def frame (net : Network) (side : Side) (sent : InterfaceId × Lacpdu) : Option Frame :=
  (cables.far side sent.1).map (fun port => ⟨side.other,port,sent.2,net.second⟩)

def tick (net : Network) (side : Side) (now : SimTime) : Network :=
  let result := (net.system side).lacp_tick now
  { net with
    system := Function.update net.system side result.1
    flight := net.flight ++ result.2.filterMap (net.frame cables side)
    ticked := Function.update net.ticked side true }

def deliver (net : Network) (frame : Frame) (rest : List Frame) (now : SimTime) : Network :=
  let result := (net.system frame.target).receive_lacp frame.port frame.pdu now
  { net with
    system := Function.update net.system frame.target result.1
    flight := rest ++ (result.2.bind (fun pdu => net.frame cables frame.target (frame.port,pdu))).toList
    heard := fun side port => if side = frame.target ∧ port = frame.port then net.second + 1 else net.heard side port
    origin := fun side port => if side = frame.target ∧ port = frame.port then frame.second else net.origin side port }

def advance (net : Network) : Network := { net with second := net.second + 1, ticked := fun _ => false }

/-- A delivery of any PDU in flight. -/
inductive Delivery (start : Nat) : Network → Network → Prop
  | deliver (net : Network) (before after : List Frame) (frame : Frame) (now : SimTime)
      (chosen : net.flight = before ++ frame :: after) (time : Within start net.second now) :
      Delivery start net (net.deliver cables frame (before ++ after) now)

/-- A system ticks once in each second, and a second ends when nothing is in flight from the one before it. -/
inductive Step (start : Nat) : Network → Network → Prop
  | tick (net : Network) (side : Side) (now : SimTime) (once : net.ticked side = false)
      (time : Within start net.second now) : Step start net (net.tick cables side now)
  | delivery (net next : Network) (delivered : Delivery cables start net next) : Step start net next
  | advance (net : Network) (both : ∀ side, net.ticked side = true) (arrived : ∀ frame ∈ net.flight, frame.second = net.second) :
      Step start net net.advance

/-- Before the first ticks: nothing is in flight, and whatever was learned expires within three seconds. -/
structure Initial (start : Nat) (net : Network) : Prop where
  empty : net.flight = []
  zero : net.second = 0
  waiting : ∀ side, net.ticked side = false
  unheard : ∀ side port, net.heard side port = 0
  learned : ∀ side port neighbor, (net.system side).lacp_neighbors.get? port = some neighbor →
    neighbor.expires_at.toNat ≤ start + 3000000

/-- The ends of links take part in LACP, and the systems have different addresses. -/
structure Wired (net : Network) : Prop where
  ends : ∀ side port other, cables.far side port = some other →
    ∃ actor, (net.system side).lacp_actor port = some actor ∧ System.Valid actor
  differ : (net.system .Left).system_mac ≠ (net.system .Right).system_mac

inductive Reaches (start : Nat) (first : Network) : Network → Prop
  | refl : Reaches start first first
  | step (net next : Network) (before : Reaches start first net) (one : Step cables start net next) :
    Reaches start first next

end Network

/-! ### Ports -/

section
variable {cables : Cables} {start : Nat}

/-- A port as its system describes it before any flags. -/
def info (first : Network) (side : Side) (port : InterfaceId) : LacpPortInfo :=
  ((first.system side).lacp_actor port).getD .default

def active (first : Network) (side : Side) (port : InterfaceId) : Bool := (info first side port).state &&& LACP_ACTIVITY ≠ 0

theorem lacp_actor_ports {system other : System} (same : system.ports = other.ports) (id : InterfaceId) :
    system.lacp_actor id = other.lacp_actor id := by
  obtain ⟨ports,neighbors⟩ := system
  subst same
  rfl

theorem lacp_actor_system {system : System} {id : InterfaceId} {actor : LacpPortInfo}
    (known : system.lacp_actor id = some actor) : system.system_mac = some actor.system := by
  unfold System.lacp_actor at known
  split at known
  · cases known
  · split at known
    · cases known
    · split at known
      · cases known
      · split at known
        · rename_i mac number first second
          cases known
          exact first
        · cases known

namespace Network
variable {first net next : Network}

theorem Wired.info_eq (wired : Wired cables first) {side : Side} {port other : InterfaceId}
    (linked : cables.far side port = some other) : (first.system side).lacp_actor port = some (info first side port) ∧
      System.Valid (info first side port) := by
  obtain ⟨actor,known,valid⟩ := wired.ends side port other linked
  unfold info
  rw [known]
  exact ⟨rfl,valid⟩

/-- The two ends of a link belong to different systems. -/
theorem Wired.system_ne (wired : Wired cables first) {side : Side} {port other : InterfaceId}
    (linked : cables.far side port = some other) :
    (info first side.other other).system ≠ (info first side port).system := by
  have here := lacp_actor_system (wired.info_eq linked).1
  have there := lacp_actor_system (wired.info_eq (cables.symmetric side port other linked)).1
  intro same
  rw [same,← here] at there
  cases side with
  | Left => exact wired.differ there.symm
  | Right => exact wired.differ there

/-- A PDU that the other end of the receiver's link has sent. -/
def Honest (cables : Cables) (first : Network) (frame : Frame) : Prop :=
  ∃ port, cables.far frame.target frame.port = some port ∧
    ∃ flags, frame.pdu.actor = (info first frame.target.other port).flagged flags

/-- What holds of every state of a run. -/
structure Basic (cables : Cables) (start : Nat) (first net : Network) : Prop where
  same : ∀ side, (net.system side).ports = (first.system side).ports
  honest : ∀ frame ∈ net.flight, Honest cables first frame
  recent : ∀ frame ∈ net.flight, frame.second ≤ net.second ∧ net.second ≤ frame.second + 1
  past : ∀ side port, net.heard side port ≤ net.second + 1
  stale : ∀ side port neighbor, net.heard side port = 0 → (net.system side).lacp_neighbors.get? port = some neighbor →
    neighbor.expires_at.toNat ≤ start + 3000000
  learned : ∀ side port neighbor second, net.heard side port = second + 1 →
    (net.system side).lacp_neighbors.get? port = some neighbor → ∃ other, cables.far side port = some other ∧
      (∃ flags, neighbor.pdu.actor = (info first side.other other).flagged flags) ∧
      start + (second + 3) * 1000000 ≤ neighbor.expires_at.toNat ∧
      neighbor.expires_at.toNat < start + (second + 4) * 1000000

theorem Basic.actor (basic : Basic cables start first net) (wired : Wired cables first) {side : Side}
    {port other : InterfaceId} (linked : cables.far side port = some other) :
    (net.system side).lacp_actor port = some (info first side port) := by
  rw [lacp_actor_ports (basic.same side),(wired.info_eq linked).1]

theorem Basic.said (basic : Basic cables start first net) {frame : Frame} (flying : frame ∈ net.flight) {other : InterfaceId}
    (linked : cables.far frame.target frame.port = some other) :
    ∃ flags, frame.pdu.actor = (info first frame.target.other other).flagged flags := by
  obtain ⟨far,there,said⟩ := basic.honest frame flying
  rw [linked] at there
  cases there
  exact said

/-! ### What the steps do -/

@[simp] theorem tick_second (net : Network) (side : Side) (now : SimTime) :
    (net.tick cables side now).second = net.second := rfl
@[simp] theorem tick_heard (net : Network) (side : Side) (now : SimTime) :
    (net.tick cables side now).heard = net.heard := rfl
@[simp] theorem tick_origin (net : Network) (side : Side) (now : SimTime) :
    (net.tick cables side now).origin = net.origin := rfl

theorem tick_ports (net : Network) (side : Side) (now : SimTime) (one : Side) :
    ((net.tick cables side now).system one).ports = (net.system one).ports := by
  show (Function.update net.system side _ one).ports = _
  by_cases same : one = side
  · subst same
    rw [Function.update_self]
    rfl
  · rw [Function.update_of_ne same]

/-- A tick keeps the partners that have not expired. -/
theorem tick_neighbor (net : Network) (side : Side) (now : SimTime) (one : Side) (port : InterfaceId)
    (neighbor : LacpNeighbor) :
    ((net.tick cables side now).system one).lacp_neighbors.get? port = some neighbor ↔
      (net.system one).lacp_neighbors.get? port = some neighbor ∧ (one = side → now < neighbor.expires_at) := by
  show (Function.update net.system side _ one).lacp_neighbors.get? port = some neighbor ↔ _
  by_cases same : one = side
  · subst same
    rw [Function.update_self]
    show ((net.system one).lacp_neighbors.retain _).get? port = some neighbor ↔ _
    rw [OrderedMap.get?_retain_eq_some]
    simp
  · rw [Function.update_of_ne same]
    simp [same]

/-- A tick sends the advertisements of all ports with a link. -/
theorem tick_flight (net : Network) (side : Side) (now : SimTime) (frame : Frame) :
    frame ∈ (net.tick cables side now).flight ↔ frame ∈ net.flight ∨
      ∃ port other pdu, cables.far side port = some other ∧ port ∈ (net.system side).ports.keys ∧
        ((net.tick cables side now).system side).lacp_advertisement port = some pdu ∧
        frame = ⟨side.other,other,pdu,net.second⟩ := by
  have after : (net.tick cables side now).system side = ((net.system side).lacp_tick now).1 :=
    Function.update_self side _ net.system
  show frame ∈ net.flight ++ ((net.system side).lacp_tick now).2.filterMap (net.frame cables side) ↔ _
  rw [List.mem_append,after]
  refine or_congr_right ?_
  unfold System.lacp_tick Network.frame
  simp only [List.mem_filterMap,Option.map_eq_some_iff]
  constructor
  · rintro ⟨_,⟨port,member,pdu,sends,rfl⟩,other,linked,rfl⟩
    exact ⟨port,other,pdu,linked,member,sends,rfl⟩
  · rintro ⟨port,other,pdu,linked,member,sends,rfl⟩
    exact ⟨(port,pdu),⟨port,member,pdu,sends,rfl⟩,other,linked,rfl⟩

section
variable (cables) {frame : Frame} (rest : List Frame) (now : SimTime)

/-- What a delivery does to the receiving system. -/
theorem deliver_system (basic : Basic cables start first net) (wired : Wired cables first) (flying : frame ∈ net.flight) :
    (net.deliver cables frame rest now).system frame.target =
      { net.system frame.target with
        lacp_neighbors := (net.system frame.target).lacp_neighbors.insert frame.port ⟨frame.pdu,satAdd64 now 3000000⟩ } := by
  obtain ⟨other,linked,flags,said⟩ := basic.honest frame flying
  have valid := (wired.info_eq (cables.symmetric _ _ _ linked)).2
  have learns := System.receive_lacp_learns (basic.actor wired linked) valid (wired.system_ne linked) said now
  show Function.update net.system frame.target _ frame.target = _
  rw [Function.update_self,learns]

theorem deliver_other {one : Side} (different : one ≠ frame.target) :
    (net.deliver cables frame rest now).system one = net.system one := Function.update_of_ne different _ _

theorem deliver_ports (basic : Basic cables start first net) (wired : Wired cables first) (flying : frame ∈ net.flight)
    (one : Side) : ((net.deliver cables frame rest now).system one).ports = (net.system one).ports := by
  by_cases same : one = frame.target
  · subst same
    rw [deliver_system cables rest now basic wired flying]
  · rw [deliver_other cables rest now same]

theorem deliver_neighbor (basic : Basic cables start first net) (wired : Wired cables first) (flying : frame ∈ net.flight)
    (one : Side) (port : InterfaceId) :
    ((net.deliver cables frame rest now).system one).lacp_neighbors.get? port =
      if one = frame.target ∧ port = frame.port then some ⟨frame.pdu,satAdd64 now 3000000⟩
      else (net.system one).lacp_neighbors.get? port := by
  by_cases same : one = frame.target
  · subst same
    rw [deliver_system cables rest now basic wired flying]
    show (OrderedMap.insert _ _ _).get? port = _
    rw [OrderedMap.get?_insert]
    by_cases here : port = frame.port <;> simp [here]
  · rw [deliver_other cables rest now same,if_neg (fun both => same both.1)]

/-- A delivery is answered if the advertisement changes. -/
theorem deliver_flight (basic : Basic cables start first net) (wired : Wired cables first) (flying : frame ∈ net.flight)
    {other : InterfaceId} (linked : cables.far frame.target frame.port = some other) (sent : Frame) :
    sent ∈ (net.deliver cables frame rest now).flight ↔ sent ∈ rest ∨
      ∃ pdu, (net.system frame.target).lacp_advertisement frame.port ≠ some pdu ∧
        ((net.deliver cables frame rest now).system frame.target).lacp_advertisement frame.port = some pdu ∧
        sent = ⟨frame.target.other,other,pdu,net.second⟩ := by
  obtain ⟨flags,said⟩ := basic.said flying linked
  have valid := (wired.info_eq (cables.symmetric _ _ _ linked)).2
  have learns := System.receive_lacp_learns (basic.actor wired linked) valid (wired.system_ne linked) said now
  have after := deliver_system cables rest now basic wired flying
  show sent ∈ rest ++ (((net.system frame.target).receive_lacp frame.port frame.pdu now).2.bind
    (fun pdu => net.frame cables frame.target (frame.port,pdu))).toList ↔ _
  rw [List.mem_append,Option.mem_toList,learns,after]
  generalize (net.system frame.target).lacp_advertisement frame.port = old
  simp only [Network.frame,linked,Option.map_some]
  generalize System.lacp_advertisement _ frame.port = new
  refine or_congr_right ?_
  by_cases same : old = new
  · subst same
    rw [if_neg (not_not.mpr rfl)]
    constructor
    · intro impossible
      cases impossible
    · rintro ⟨pdu,differs,sends,-⟩
      exact absurd sends differs
  · rw [if_pos same]
    cases new with
    | none =>
      constructor
      · intro impossible
        cases impossible
      · rintro ⟨pdu,-,sends,-⟩
        cases sends
    | some answer =>
      constructor
      · intro sends
        cases sends
        exact ⟨answer,same,rfl,rfl⟩
      · rintro ⟨pdu,-,sends,rfl⟩
        cases sends
        rfl

end

/-! ### Every run -/

theorem Initial.basic (initial : Initial start first) : Basic cables start first first := by
  refine ⟨fun _ => rfl,?_,?_,fun side port => ?_,fun side port neighbor _ => initial.learned side port neighbor,?_⟩
  · rw [initial.empty]
    intro frame impossible
    cases impossible
  · rw [initial.empty]
    intro frame impossible
    cases impossible
  · rw [initial.unheard]
    exact Nat.zero_le _
  · intro side port neighbor second heard
    rw [initial.unheard] at heard
    omega

/-- Any advertisement of a port with a link is one that the far end can trust. -/
theorem advertisement_honest {system : System} {side : Side} {port other : InterfaceId}
    (linked : cables.far side port = some other) (known : system.lacp_actor port = some (info first side port))
    {pdu : Lacpdu} (sends : system.lacp_advertisement port = some pdu) (second : Nat) :
    Honest cables first ⟨side.other,other,pdu,second⟩ := by
  obtain ⟨flags,said,-⟩ := (System.advertisement_source known sends .default false false).actor
  refine ⟨port,cables.symmetric side port other linked,flags,?_⟩
  rw [said,Side.other_other]

theorem Basic.tick (wired : Wired cables first) (basic : Basic cables start first net) (side : Side) (now : SimTime) :
    Basic cables start first (net.tick cables side now) := by
  have actor : ∀ port other, cables.far side port = some other →
      ((net.tick cables side now).system side).lacp_actor port = some (info first side port) := by
    intro port other linked
    rw [lacp_actor_ports (tick_ports net side now side),basic.actor wired linked]
  refine ⟨fun one => ?_,fun frame flying => ?_,fun frame flying => ?_,basic.past,fun one port neighbor unheard present => ?_,
    fun one port neighbor second heard present => ?_⟩
  · rw [tick_ports,basic.same]
  · rcases (tick_flight net side now frame).mp flying with old | ⟨port,other,pdu,linked,-,sends,rfl⟩
    · exact basic.honest frame old
    · exact advertisement_honest linked (actor port other linked) sends net.second
  · rcases (tick_flight net side now frame).mp flying with old | ⟨port,other,pdu,linked,-,sends,rfl⟩
    · exact basic.recent frame old
    · exact ⟨le_refl _,Nat.le_succ _⟩
  · exact basic.stale one port neighbor unheard ((tick_neighbor net side now one port neighbor).mp present).1
  · exact basic.learned one port neighbor second heard ((tick_neighbor net side now one port neighbor).mp present).1

theorem Basic.deliver (basic : Basic cables start first net) (wired : Wired cables first) {before after : List Frame}
    {frame : Frame} {now : SimTime} (chosen : net.flight = before ++ frame :: after) (time : Within start net.second now) :
    Basic cables start first (net.deliver cables frame (before ++ after) now) := by
  have flying : frame ∈ net.flight := by simp [chosen]
  have remains : ∀ sent ∈ before ++ after, sent ∈ net.flight := by
    intro sent member
    rw [chosen]
    rcases List.mem_append.mp member with early | late
    · exact List.mem_append_left _ early
    · exact List.mem_append_right _ (List.mem_cons_of_mem _ late)
  obtain ⟨other,linked,flags,said⟩ := basic.honest frame flying
  have actor : ((net.deliver cables frame (before ++ after) now).system frame.target).lacp_actor frame.port =
      some (info first frame.target frame.port) := by
    rw [lacp_actor_ports (deliver_ports cables (before ++ after) now basic wired flying frame.target),basic.actor wired linked]
  obtain ⟨later,earlier⟩ := time.expires
  have newFrames := deliver_flight cables (before ++ after) now basic wired flying linked
  refine ⟨fun one => ?_,fun sent member => ?_,fun sent member => ?_,fun one port => ?_,
    fun one port neighbor unheard present => ?_,fun one port neighbor second heard present => ?_⟩
  · rw [deliver_ports cables _ now basic wired flying,basic.same]
  · rcases (newFrames sent).mp member with old | ⟨pdu,-,sends,rfl⟩
    · exact basic.honest sent (remains sent old)
    · exact advertisement_honest linked actor sends net.second
  · rcases (newFrames sent).mp member with old | ⟨pdu,-,sends,rfl⟩
    · exact basic.recent sent (remains sent old)
    · exact ⟨le_refl _,Nat.le_succ _⟩
  · show (if _ then net.second + 1 else net.heard one port) ≤ net.second + 1
    split
    · exact le_refl _
    · exact basic.past one port
  · change (if one = frame.target ∧ port = frame.port then net.second + 1 else net.heard one port) = 0 at unheard
    rw [deliver_neighbor cables _ now basic wired flying] at present
    split at unheard
    · omega
    · rename_i elsewhere
      rw [if_neg elsewhere] at present
      exact basic.stale one port neighbor unheard present
  · change (if one = frame.target ∧ port = frame.port then net.second + 1 else net.heard one port) = second + 1 at heard
    rw [deliver_neighbor cables _ now basic wired flying] at present
    split at heard
    · rename_i here
      obtain ⟨rfl,rfl⟩ := here
      rw [if_pos ⟨rfl,rfl⟩] at present
      cases present
      have same : net.second = second := by omega
      subst same
      exact ⟨other,linked,⟨flags,said⟩,later,earlier⟩
    · rename_i elsewhere
      rw [if_neg elsewhere] at present
      exact basic.learned one port neighbor second heard present

theorem Basic.advance (basic : Basic cables start first net) (arrived : ∀ frame ∈ net.flight, frame.second = net.second) :
    Basic cables start first net.advance := by
  refine ⟨basic.same,basic.honest,fun frame flying => ?_,fun side port => ?_,basic.stale,basic.learned⟩
  · have second := arrived frame flying
    show frame.second ≤ net.second + 1 ∧ net.second + 1 ≤ frame.second + 1
    omega
  · exact (basic.past side port).trans (Nat.le_succ _)

theorem Reaches.basic (wired : Wired cables first) (initial : Initial start first)
    (reaches : Reaches cables start first net) :
    Basic cables start first net := by
  induction reaches with
  | refl => exact initial.basic
  | step net next before one basic =>
    cases one with
    | tick side now once time => exact Basic.tick wired basic side now
    | delivery _ delivered =>
      cases delivered with
      | deliver early late frame now chosen time => exact basic.deliver wired chosen time
    | advance both arrived => exact basic.advance arrived

section
variable (wired : Wired cables first) (initial : Initial start first)
include wired initial

/-- Nothing learned outlives the first tick after it has expired. -/
theorem Reaches.unexpired (reaches : Reaches cables start first net) {side : Side} {port : InterfaceId}
    {neighbor : LacpNeighbor} (present : (net.system side).lacp_neighbors.get? port = some neighbor) {seconds : Nat}
    (expires : neighbor.expires_at.toNat ≤ start + seconds * 1000000) :
    net.second ≤ seconds ∧ (net.second = seconds → net.ticked side = false) := by
  induction reaches with
  | refl =>
    rw [initial.zero]
    exact ⟨Nat.zero_le _,fun _ => initial.waiting side⟩
  | step net next before one ih =>
    have basic := before.basic wired initial
    cases one with
    | tick one now once time =>
      obtain ⟨old,alive⟩ := (tick_neighbor net one now side port neighbor).mp present
      obtain ⟨within,last⟩ := ih old
      by_cases same : side = one
      · have late := UInt64.lt_iff_toNat_lt.mp (alive same)
        have after := time.after
        have early : net.second < seconds := by
          by_contra less
          have more : seconds * 1000000 ≤ net.second * 1000000 := Nat.mul_le_mul_right _ (not_lt.mp less)
          omega
        exact ⟨early.le,fun equal => absurd equal early.ne⟩
      · refine ⟨within,fun equal => ?_⟩
        show Function.update net.ticked one true side = false
        rw [Function.update_of_ne same]
        exact last equal
    | delivery _ delivered =>
      cases delivered with
      | deliver early late frame now chosen time =>
        have flying : frame ∈ net.flight := by simp [chosen]
        rw [deliver_neighbor cables _ now basic wired flying] at present
        split at present
        · cases present
          have later := time.expires.1
          have enough : net.second < seconds := by
            by_contra less
            have more : seconds * 1000000 ≤ net.second * 1000000 := Nat.mul_le_mul_right _ (not_lt.mp less)
            simp only at expires
            omega
          exact ⟨enough.le,fun equal => absurd equal enough.ne⟩
        · exact ih present
    | advance both arrived =>
      obtain ⟨within,last⟩ := ih present
      have early : net.second ≠ seconds := by
        intro equal
        have waiting := last equal
        rw [both side] at waiting
        cases waiting
      refine ⟨?_,fun _ => rfl⟩
      show net.second + 1 ≤ seconds
      omega

/-- What was heard in the last two seconds is still known. -/
theorem Reaches.present (reaches : Reaches cables start first net) {side : Side} {port : InterfaceId} {second : Nat}
    (heard : net.heard side port = second + 1) (recent : net.second ≤ second + 2) :
    ∃ neighbor, (net.system side).lacp_neighbors.get? port = some neighbor := by
  induction reaches with
  | refl =>
    rw [initial.unheard] at heard
    omega
  | step net next before one ih =>
    have basic := before.basic wired initial
    cases one with
    | tick one now once time =>
      obtain ⟨neighbor,old⟩ := ih heard recent
      refine ⟨neighbor,(tick_neighbor net one now side port neighbor).mpr ⟨old,fun _ => ?_⟩⟩
      obtain ⟨-,-,-,expires,-⟩ := basic.learned side port neighbor second heard old
      have soon := time.before
      have most : (net.second + 1) * 1000000 ≤ (second + 3) * 1000000 := Nat.mul_le_mul_right _ (by simpa using recent)
      rw [UInt64.lt_iff_toNat_lt]
      omega
    | delivery _ delivered =>
      cases delivered with
      | deliver early late frame now chosen time =>
        have flying : frame ∈ net.flight := by simp [chosen]
        rw [deliver_neighbor cables _ now basic wired flying]
        change (if side = frame.target ∧ port = frame.port then net.second + 1 else net.heard side port) = second + 1 at heard
        split
        · exact ⟨_,rfl⟩
        · rename_i elsewhere
          rw [if_neg elsewhere] at heard
          exact ih heard recent
    | advance both arrived => exact ih heard (Nat.le_of_succ_le recent)

/-- Whether a PDU to a port that was sent in one second is still in flight. -/
def Coming (net : Network) (side : Side) (port : InterfaceId) (second : Nat) : Prop :=
  ∃ frame ∈ net.flight, frame.target = side ∧ frame.port = port ∧ frame.second = second

/-- A port whose far end advertises hears from it: the tick of one second has arrived by the end of the next. -/
structure Hearing (net : Network) (side : Side) (port : InterfaceId) (base : Nat) : Prop where
  now : base ≤ net.second → net.ticked side.other = true →
    Coming net side port net.second ∨ net.heard side port = net.second + 1
  before : ∀ second, net.second = second + 1 → base ≤ second → Coming net side port second ∨ net.second ≤ net.heard side port
  always : base + 2 ≤ net.second → net.second ≤ net.heard side port + 1

omit wired initial in
theorem Coming.remains {side : Side} {port : InterfaceId} {second : Nat} (coming : Coming net side port second)
    {before after rest : List Frame} {frame : Frame} (chosen : net.flight = before ++ frame :: after)
    (elsewhere : ¬ (side = frame.target ∧ port = frame.port)) (kept : next.flight = before ++ after ++ rest) :
    Coming next side port second := by
  obtain ⟨sent,flying,rfl,rfl,when_sent⟩ := coming
  refine ⟨sent,?_,rfl,rfl,when_sent⟩
  rw [chosen] at flying
  rw [kept]
  rcases List.mem_append.mp flying with early | late
  · exact List.mem_append_left _ (List.mem_append_left _ early)
  · rcases List.mem_cons.mp late with rfl | later
    · exact absurd ⟨rfl,rfl⟩ elsewhere
    · exact List.mem_append_left _ (List.mem_append_right _ later)

theorem Reaches.hearing (reaches : Reaches cables start first net) {side : Side} {port other : InterfaceId}
    (linked : cables.far side port = some other) {base : Nat}
    (sends : ∀ net, Reaches cables start first net → base ≤ net.second →
      ((net.system side.other).lacp_advertisement other).isSome = true) : Hearing net side port base := by
  induction reaches with
  | refl =>
    refine ⟨fun _ ticked => ?_,fun second next => ?_,fun late => ?_⟩
    · rw [initial.waiting] at ticked
      cases ticked
    · rw [initial.zero] at next
      omega
    · rw [initial.zero]
      exact Nat.zero_le _
  | step net next before one ih =>
    have basic := before.basic wired initial
    cases one with
    | tick one now once time =>
      have remains : ∀ second, Coming net side port second → Coming (net.tick cables one now) side port second := by
        rintro second ⟨frame,flying,found⟩
        exact ⟨frame,List.mem_append_left _ flying,found⟩
      refine ⟨fun late ticked => ?_,fun second same late => (ih.before second same late).imp_left (remains second),ih.always⟩
      by_cases far : side.other = one
      · subst far
        left
        have reached : Reaches cables start first (net.tick cables side.other now) :=
          .step net _ before (.tick net _ now once time)
        obtain ⟨pdu,sent⟩ := Option.isSome_iff_exists.mp (sends _ reached late)
        have back := cables.symmetric side port other linked
        have known : other ∈ (net.system side.other).ports.keys := by
          have actor := basic.actor wired back
          unfold System.lacp_actor at actor
          rw [OrderedMap.mem_keys]
          cases present : (net.system side.other).ports.get? other with
          | none => rw [present] at actor; cases actor
          | some entry => exact ⟨entry,rfl⟩
        exact ⟨⟨side.other.other,port,pdu,net.second⟩,
          (tick_flight net side.other now _).mpr (.inr ⟨other,port,pdu,back,known,sent,rfl⟩),side.other_other,rfl,rfl⟩
      · have same : net.ticked side.other = true := by
          rw [← ticked]
          exact (Function.update_of_ne far true net.ticked).symm
        exact (ih.now late same).imp_left (remains _)
    | delivery _ delivered =>
      cases delivered with
      | deliver early late frame now chosen time =>
        by_cases here : side = frame.target ∧ port = frame.port
        · have heard : (net.deliver cables frame (early ++ late) now).heard side port = net.second + 1 := if_pos here
          refine ⟨fun _ _ => .inr heard,fun second same _ => .inr ?_,fun _ => ?_⟩
          · rw [heard]
            exact Nat.le_succ _
          · rw [heard]
            exact (Nat.le_succ _).trans (Nat.le_succ _)
        · have heard : (net.deliver cables frame (early ++ late) now).heard side port = net.heard side port := if_neg here
          have remains : ∀ second, Coming net side port second →
              Coming (net.deliver cables frame (early ++ late) now) side port second :=
            fun second coming => coming.remains chosen here rfl
          refine ⟨fun later ticked => ?_,fun second same later => ?_,fun later => ?_⟩
          · rw [heard]
            exact (ih.now later ticked).imp_left (remains _)
          · rw [heard]
            exact (ih.before second same later).imp_left (remains second)
          · rw [heard]
            exact ih.always later
    | advance both arrived =>
      refine ⟨fun _ ticked => ?_,fun second same late => ?_,fun late => ?_⟩
      · cases ticked
      · have equal : net.second = second := Nat.succ.inj same
        subst equal
        rcases ih.now late (both side.other) with coming | heard
        · exact .inl coming
        · exact .inr heard.ge
      · change base + 2 ≤ net.second + 1 at late
        show net.second + 1 ≤ net.heard side port + 1
        obtain ⟨second,equal⟩ : ∃ second, net.second = second + 1 := ⟨net.second - 1,by omega⟩
        rcases ih.before second equal (by omega) with ⟨frame,flying,-,-,sent⟩ | heard
        · have current := arrived frame flying
          omega
        · omega

end

/-! ### Live ports -/

/-- Whether an end of a port's link is active. -/
def live (cables : Cables) (first : Network) (side : Side) (port : InterfaceId) : Bool :=
  (cables.far side port).any (fun other => active first side port || active first side.other other)

section
variable (wired : Wired cables first) (initial : Initial start first)
include wired initial

variable {side : Side} {port : InterfaceId}

theorem Reaches.active_sends (reaches : Reaches cables start first net) {other : InterfaceId}
    (linked : cables.far side port = some other) (acts : active first side port = true) :
    ((net.system side).lacp_advertisement port).isSome = true :=
  System.active_advertisement ((reaches.basic wired initial).actor wired linked) (of_decide_eq_true acts)

/-- A port with an active partner advertises from the third second on. -/
theorem Reaches.answers (reaches : Reaches cables start first net) {other : InterfaceId}
    (linked : cables.far side port = some other) (acts : active first side.other other = true) (late : 2 ≤ net.second) :
    ((net.system side).lacp_advertisement port).isSome = true := by
  have basic := reaches.basic wired initial
  have back := cables.symmetric side port other linked
  have hearing := reaches.hearing wired initial linked (fun net reaches (_ : 0 ≤ net.second) =>
    reaches.active_sends wired initial back acts)
  have heard := hearing.always late
  obtain ⟨second,known⟩ : ∃ second, net.heard side port = second + 1 := ⟨net.heard side port - 1,by omega⟩
  obtain ⟨neighbor,present⟩ := reaches.present wired initial known (by omega)
  obtain ⟨far,there,⟨flags,said⟩,-⟩ := basic.learned side port neighbor second known present
  rw [linked] at there
  cases there
  refine (System.advertisement_isSome (basic.actor wired linked) (wired.info_eq back).2.plain present said).mpr (.inr ?_)
  exact of_decide_eq_true acts

/-- Both ends of a live link advertise from the third second on. -/
theorem Reaches.live_sends (reaches : Reaches cables start first net) (alive : live cables first side port = true)
    (late : 2 ≤ net.second) :
    ((net.system side).lacp_advertisement port).isSome = true := by
  unfold live at alive
  obtain ⟨other,linked,acts⟩ := (Option.any_eq_true _ _).mp alive
  rcases Bool.or_eq_true _ _ ▸ acts with own | far
  · exact reaches.active_sends wired initial linked own
  · exact reaches.answers wired initial linked far late

omit wired initial in
theorem live_far {other : InterfaceId} (linked : cables.far side port = some other) :
    live cables first side.other other = live cables first side port := by
  unfold live
  rw [linked,cables.symmetric side port other linked,Option.any_some,Option.any_some,Side.other_other,Bool.or_comm]

/-- From the fifth second on a live port has heard its far end within the last two seconds. -/
theorem Reaches.live_hears (reaches : Reaches cables start first net) (alive : live cables first side port = true)
    (late : 4 ≤ net.second) :
    ∃ second neighbor, net.heard side port = second + 1 ∧ net.second ≤ second + 2 ∧
      (net.system side).lacp_neighbors.get? port = some neighbor := by
  obtain ⟨other,linked,-⟩ := (Option.any_eq_true _ _).mp alive
  have far_alive : live cables first side.other other = true := (live_far linked).trans alive
  have hearing := reaches.hearing wired initial linked (fun net reaches (late : 2 ≤ net.second) =>
    reaches.live_sends wired initial far_alive late)
  have heard := hearing.always late
  obtain ⟨second,known⟩ : ∃ second, net.heard side port = second + 1 := ⟨net.heard side port - 1,by omega⟩
  obtain ⟨neighbor,present⟩ := reaches.present wired initial known (by omega)
  exact ⟨second,neighbor,known,by omega,present⟩

/-- A port with passive ends advertises only to what was learned before the start. -/
theorem Reaches.quiet_sends (reaches : Reaches cables start first net) {other : InterfaceId}
    (linked : cables.far side port = some other) (quiet : live cables first side port = false) {pdu : Lacpdu}
    (sends : (net.system side).lacp_advertisement port = some pdu) : net.second ≤ 3 := by
  have basic := reaches.basic wired initial
  unfold live at quiet
  rw [linked,Option.any_some,Bool.or_eq_false_iff] at quiet
  by_contra late
  refine System.advertisement_active (basic.actor wired linked) (fun neighbor present => ?_) sends
    (by simpa [active] using quiet.1)
  cases heard : net.heard side port with
  | zero =>
    have soon : neighbor.expires_at.toNat ≤ start + 3 * 1000000 := basic.stale side port neighbor heard present
    exact absurd (reaches.unexpired wired initial present soon).1 late
  | succ second =>
    obtain ⟨far,there,⟨flags,said⟩,-⟩ := basic.learned side port neighbor second heard present
    rw [linked] at there
    cases there
    have plain := (wired.info_eq (cables.symmetric side port other linked)).2.plain
    rw [said,(LacpPortInfo.flagged_bits plain flags).2.1]
    simpa [active] using quiet.2

theorem Reaches.quiet_frames (reaches : Reaches cables start first net) {frame : Frame} (flying : frame ∈ net.flight)
    (quiet : live cables first frame.target frame.port = false) : frame.second ≤ 3 := by
  induction reaches with
  | refl =>
    rw [initial.empty] at flying
    cases flying
  | step net next before one ih =>
    have basic := before.basic wired initial
    have reached : Reaches cables start first next := .step net next before one
    cases one with
    | tick one now once time =>
      rcases (tick_flight net one now frame).mp flying with old | ⟨port,other,pdu,linked,-,sends,rfl⟩
      · exact ih old
      · have soon : (net.tick cables one now).second ≤ 3 :=
          reached.quiet_sends wired initial linked ((live_far linked).symm.trans quiet) sends
        exact soon
    | delivery _ delivered =>
      cases delivered with
      | deliver early late given now chosen time =>
        have given_flying : given ∈ net.flight := by simp [chosen]
        obtain ⟨other,linked,-⟩ := basic.honest given given_flying
        rcases (deliver_flight cables _ now basic wired given_flying linked frame).mp flying with old | ⟨pdu,-,sends,rfl⟩
        · refine ih ?_
          rw [chosen]
          rcases List.mem_append.mp old with first | last
          · exact List.mem_append_left _ first
          · exact List.mem_append_right _ (List.mem_cons_of_mem _ last)
        · have soon : (net.deliver cables given (early ++ late) now).second ≤ 3 :=
            reached.quiet_sends wired initial linked ((live_far linked).symm.trans quiet) sends
          exact soon
    | advance both arrived => exact ih flying

theorem Reaches.quiet_heard (reaches : Reaches cables start first net) (quiet : live cables first side port = false) :
    net.heard side port ≤ 5 := by
  induction reaches with
  | refl =>
    rw [initial.unheard]
    exact Nat.zero_le _
  | step net next before one ih =>
    have basic := before.basic wired initial
    cases one with
    | tick one now once time => exact ih
    | delivery _ delivered =>
      cases delivered with
      | deliver early late frame now chosen time =>
        have flying : frame ∈ net.flight := by simp [chosen]
        show (if side = frame.target ∧ port = frame.port then net.second + 1 else net.heard side port) ≤ 5
        split
        · rename_i here
          obtain ⟨rfl,rfl⟩ := here
          have sent := before.quiet_frames wired initial flying quiet
          have recent := (basic.recent frame flying).2
          omega
        · exact ih
    | advance both arrived => exact ih

/-- After nine seconds only the ports of live links know a partner. -/
theorem Reaches.quiet_forgets (reaches : Reaches cables start first net) (quiet : live cables first side port = false)
    (late : 9 ≤ net.second) :
    (net.system side).lacp_neighbors.get? port = none := by
  have basic := reaches.basic wired initial
  cases present : (net.system side).lacp_neighbors.get? port with
  | none => rfl
  | some neighbor =>
    exfalso
    have heard := reaches.quiet_heard wired initial quiet
    cases known : net.heard side port with
    | zero =>
      have soon : neighbor.expires_at.toNat ≤ start + 3 * 1000000 := basic.stale side port neighbor known present
      have expired := (reaches.unexpired wired initial present soon).1
      omega
    | succ second =>
      obtain ⟨-,-,-,-,expires⟩ := basic.learned side port neighbor second known present
      have expired := (reaches.unexpired wired initial present expires.le).1
      omega

/-! ### Selection -/

omit wired initial

/-- The partner at the far end of a port's link. -/
def far_info (cables : Cables) (first : Network) (side : Side) (port : InterfaceId) : LacpPortInfo :=
  info first side.other ((cables.far side port).getD 0)

/-- What a group selects once only live ports know their partners. -/
def expected (cables : Cables) (first : Network) (side : Side) (number : UInt16) : Option (UInt16 ×ₗ MacAddress ×ₗ UInt16) :=
  (((first.system side).ports.keys.filter (fun port =>
    live cables first side port && (first.system side).member_of number port)).map
      (fun port => (far_info cables first side port).identity)).min?

/-- Whether the far end of a port is the partner that its group selects. -/
def chosen (cables : Cables) (first : Network) (side : Side) (port : InterfaceId) : Bool :=
  expected cables first side (info first side port).key = some (far_info cables first side port).identity

theorem far_info_eq {other : InterfaceId} (linked : cables.far side port = some other) :
    far_info cables first side port = info first side.other other := by
  unfold far_info
  rw [linked]
  rfl

theorem min?_congr {α : Type*} [LinearOrder α] {one two : List α} (same : ∀ x, x ∈ one ↔ x ∈ two) : one.min? = two.min? := by
  cases least : one.min? with
  | none =>
    rw [List.min?_eq_none_iff] at least
    subst least
    symm
    rw [List.min?_eq_none_iff,List.eq_nil_iff_forall_not_mem]
    exact fun x member => List.not_mem_nil ((same x).mpr member)
  | some x =>
    symm
    rw [List.min?_eq_some_iff] at least ⊢
    exact ⟨(same x).mp least.1,fun y member => least.2 y ((same y).mpr member)⟩

include wired initial

theorem Reaches.selected_eq (reaches : Reaches cables start first net) (late : 9 ≤ net.second) (side : Side)
    (number : UInt16) : (net.system side).selected_partner number = expected cables first side number := by
  have basic := reaches.basic wired initial
  have member : ∀ port, (net.system side).member_of number port = (first.system side).member_of number port := by
    intro port
    unfold System.member_of System.protocol_up
    rw [basic.same]
  unfold System.selected_partner expected
  refine min?_congr (fun identity => ?_)
  simp only [List.mem_map,List.mem_filter,Bool.and_eq_true]
  constructor
  · rintro ⟨⟨port,neighbor⟩,⟨entry,belongs⟩,rfl⟩
    have present := (OrderedMap.get?_eq_some _ _ _).mpr entry
    rw [member] at belongs
    have alive : live cables first side port = true := by
      by_contra dead
      rw [reaches.quiet_forgets wired initial (by simpa using dead) late] at present
      cases present
    obtain ⟨second,_,heard,-,-⟩ := reaches.live_hears wired initial alive (by omega)
    obtain ⟨other,linked,⟨flags,said⟩,-⟩ := basic.learned side port neighbor second heard present
    refine ⟨port,⟨?_,alive,belongs⟩,?_⟩
    · have actor := (wired.info_eq linked).1
      unfold System.lacp_actor at actor
      rw [OrderedMap.mem_keys]
      cases known : (first.system side).ports.get? port with
      | none => rw [known] at actor; cases actor
      | some entry => exact ⟨entry,rfl⟩
    · rw [far_info_eq linked,said,LacpPortInfo.flagged_identity]
  · rintro ⟨port,⟨-,alive,belongs⟩,rfl⟩
    obtain ⟨second,neighbor,heard,-,present⟩ := reaches.live_hears wired initial alive (by omega)
    obtain ⟨other,linked,⟨flags,said⟩,-⟩ := basic.learned side port neighbor second heard present
    refine ⟨(port,neighbor),⟨(OrderedMap.get?_eq_some _ _ _).mp present,?_⟩,?_⟩
    · rw [member]
      exact belongs
    · rw [far_info_eq linked,said,LacpPortInfo.flagged_identity]

theorem Reaches.selects (reaches : Reaches cables start first net) (late : 9 ≤ net.second) {other : InterfaceId}
    (linked : cables.far side port = some other) :
    (net.system side).selected_partner (info first side port).key = some (info first side.other other).identity ↔
      chosen cables first side port = true := by
  rw [reaches.selected_eq wired initial late,chosen,far_info_eq linked,decide_eq_true_iff]

/-! ### Levels over time -/

omit wired initial

/-- How far what a port hears is settled: one level further every three seconds, once selection is. -/
structure Leveled (cables : Cables) (first net : Network) : Prop where
  origin : ∀ side port, net.heard side port ≤ net.origin side port + 2
  neighbors : ∀ side port neighbor other, (net.system side).lacp_neighbors.get? port = some neighbor →
    cables.far side port = some other → net.heard side port ≠ 0 → ∀ level, 9 + 3 * level ≤ net.origin side port →
    neighbor.pdu.Level (info first side.other other) (info first side port) (chosen cables first side.other other)
      (chosen cables first side port) level
  frames : ∀ frame ∈ net.flight, ∀ other, cables.far frame.target frame.port = some other →
    ∀ level, 9 + 3 * level ≤ frame.second →
    frame.pdu.Level (info first frame.target.other other) (info first frame.target frame.port)
      (chosen cables first frame.target.other other) (chosen cables first frame.target frame.port) level

include wired initial

/-- What a port sends is settled one level further than what it has heard. -/
theorem Reaches.sends_level (reaches : Reaches cables start first net)
    (origin : ∀ side port, net.heard side port ≤ net.origin side port + 2) {other : InterfaceId}
    (linked : cables.far side port = some other)
    (known : ∀ neighbor, (net.system side).lacp_neighbors.get? port = some neighbor → net.heard side port ≠ 0 →
    ∀ level, 9 + 3 * level ≤ net.origin side port → neighbor.pdu.Level (info first side.other other)
    (info first side port) (chosen cables first side.other other) (chosen cables first side port) level)
    {pdu : Lacpdu} (sends : (net.system side).lacp_advertisement port = some pdu) {level : Nat}
    (late : 9 + 3 * level ≤ net.second) :
    pdu.Level (info first side port) (info first side.other other) (chosen cables first side port)
      (chosen cables first side.other other) level := by
  have basic := reaches.basic wired initial
  have actor := basic.actor wired linked
  cases level with
  | zero => exact System.advertisement_source actor sends _ _ _
  | succ level =>
    have alive : live cables first side port = true := by
      by_contra dead
      have soon := reaches.quiet_sends wired initial linked (by simpa using dead) sends
      omega
    obtain ⟨second,neighbor,heard,recent,present⟩ := reaches.live_hears wired initial alive (by omega)
    have sent := origin side port
    have settled := known neighbor present (by omega) level (by omega)
    have plain := (wired.info_eq (cables.symmetric side port other linked)).2.plain
    exact System.advertisement_level actor plain present settled (reaches.selects wired initial (by omega) linked) sends

theorem Reaches.leveled (reaches : Reaches cables start first net) : Leveled cables first net := by
  induction reaches with
  | refl =>
    refine ⟨fun side port => ?_,fun side port neighbor other _ _ heard => ?_,fun frame flying => ?_⟩
    · rw [initial.unheard]
      exact Nat.zero_le _
    · exact absurd (initial.unheard side port) heard
    · rw [initial.empty] at flying
      cases flying
  | step net next before one ih =>
    have basic := before.basic wired initial
    have reached : Reaches cables start first next := .step net next before one
    cases one with
    | tick one now once time =>
      have neighbors : ∀ side port neighbor other,
          ((net.tick cables one now).system side).lacp_neighbors.get? port = some neighbor →
          cables.far side port = some other → net.heard side port ≠ 0 → ∀ level, 9 + 3 * level ≤ net.origin side port →
          neighbor.pdu.Level (info first side.other other) (info first side port) (chosen cables first side.other other)
            (chosen cables first side port) level := by
        intro side port neighbor other present
        exact ih.neighbors side port neighbor other ((tick_neighbor net one now side port neighbor).mp present).1
      refine ⟨ih.origin,neighbors,fun frame flying other linked level late => ?_⟩
      rcases (tick_flight net one now frame).mp flying with old | ⟨port,far,pdu,there,-,sends,rfl⟩
      · exact ih.frames frame old other linked level late
      · have back := cables.symmetric one port far there
        obtain rfl := Option.some.inj (back.symm.trans linked)
        simp only [Side.other_other]
        exact reached.sends_level wired initial ih.origin there
          (fun neighbor present => neighbors one port neighbor far present there) sends late
    | delivery _ delivered =>
      cases delivered with
      | deliver early late given now split time =>
        have flying : given ∈ net.flight := by simp [split]
        obtain ⟨far,there,-⟩ := basic.honest given flying
        have origin : ∀ side port, (net.deliver cables given (early ++ late) now).heard side port ≤
            (net.deliver cables given (early ++ late) now).origin side port + 2 := by
          intro side port
          show (if side = given.target ∧ port = given.port then net.second + 1 else net.heard side port) ≤
            (if side = given.target ∧ port = given.port then given.second else net.origin side port) + 2
          have recent := (basic.recent given flying).2
          split
          · omega
          · exact ih.origin side port
        have neighbors : ∀ side port neighbor other,
            ((net.deliver cables given (early ++ late) now).system side).lacp_neighbors.get? port = some neighbor →
            cables.far side port = some other → (net.deliver cables given (early ++ late) now).heard side port ≠ 0 →
            ∀ level, 9 + 3 * level ≤ (net.deliver cables given (early ++ late) now).origin side port →
            neighbor.pdu.Level (info first side.other other) (info first side port) (chosen cables first side.other other)
              (chosen cables first side port) level := by
          intro side port neighbor other present linked heard level from_then
          change (if side = given.target ∧ port = given.port then net.second + 1 else net.heard side port) ≠ 0 at heard
          change 9 + 3 * level ≤ (if side = given.target ∧ port = given.port then given.second else net.origin side port)
            at from_then
          rw [deliver_neighbor cables _ now basic wired flying] at present
          split at present
          · rename_i here
            obtain ⟨rfl,rfl⟩ := here
            rw [if_pos ⟨rfl,rfl⟩] at from_then
            cases present
            exact ih.frames given flying other linked level from_then
          · rename_i elsewhere
            rw [if_neg elsewhere] at heard from_then
            exact ih.neighbors side port neighbor other present linked heard level from_then
        refine ⟨origin,neighbors,fun frame sent other linked level then_on => ?_⟩
        rcases (deliver_flight cables _ now basic wired flying there frame).mp sent with old | ⟨pdu,-,sends,rfl⟩
        · refine ih.frames frame ?_ other linked level then_on
          rw [split]
          rcases List.mem_append.mp old with first | last
          · exact List.mem_append_left _ first
          · exact List.mem_append_right _ (List.mem_cons_of_mem _ last)
        · have back := cables.symmetric given.target given.port far there
          obtain rfl := Option.some.inj (back.symm.trans linked)
          simp only [Side.other_other]
          exact reached.sends_level wired initial origin there
            (fun neighbor present => neighbors given.target given.port neighbor far present there) sends then_on
    | advance both arrived => exact ⟨ih.origin,ih.neighbors,ih.frames⟩

/-- After 21 seconds a port distributes exactly if its link has an active end and both ends have selected each other. -/
theorem Reaches.distributing (reaches : Reaches cables start first net) (late : 21 ≤ net.second) {other : InterfaceId}
    (linked : cables.far side port = some other) :
    (net.system side).lacp_distributing port =
      (live cables first side port && (chosen cables first side port && chosen cables first side.other other)) := by
  have basic := reaches.basic wired initial
  have actor := basic.actor wired linked
  cases alive : live cables first side port with
  | false =>
    rw [Bool.false_and]
    unfold System.lacp_distributing
    cases sends : (net.system side).lacp_advertisement port with
    | none => rfl
    | some pdu =>
      have soon := reaches.quiet_sends wired initial linked alive sends
      omega
  | true =>
    obtain ⟨second,neighbor,heard,recent,present⟩ := reaches.live_hears wired initial alive (by omega)
    have leveled := reaches.leveled wired initial
    have sent := leveled.origin side port
    have settled := leveled.neighbors side port neighbor other present linked (by omega) 3 (by omega)
    have plain := (wired.info_eq (cables.symmetric side port other linked)).2.plain
    rw [System.lacp_distributing_eq actor plain present settled (le_refl _) (reaches.selects wired initial (by omega) linked),
      reaches.live_sends wired initial alive (by omega)]

end

end Network
end
end Rios.Lacp
