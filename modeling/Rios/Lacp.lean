import Rios.Device
import Rios.OrderedMap
import Rios.Queue

/-!
# Link aggregation control

LACP receive, partner selection, and the collecting and distributing state of a
system. What an advertisement says is a function of the port, of the last PDU from
its partner and of the partner that its group has selected.
-/

namespace Rios.Lacp
open Rios.Machine Rios.Device Rios.Queue

/-! ### PDUs -/

def LACP_ACTIVITY : UInt8 := 1
def LACP_TIMEOUT : UInt8 := 2
def LACP_AGGREGATION : UInt8 := 4
def LACP_SYNC : UInt8 := 8
def LACP_COLLECTING : UInt8 := 16
def LACP_DISTRIBUTING : UInt8 := 32
def LACP_DEFAULTED : UInt8 := 64

/-- Actor or partner information from an LACPDU. -/
@[ext] structure LacpPortInfo where
  system_priority : UInt16
  system : MacAddress
  key : UInt16
  port_priority : UInt16
  port : UInt16
  state : UInt8
deriving DecidableEq

def no_mac : MacAddress := ⟨#v[0,0,0,0,0,0]⟩

/-- `LacpPortInfo::default`. -/
def LacpPortInfo.default : LacpPortInfo := ⟨0,no_mac,0,0,0,0⟩

/-- Identity and aggregation capability must agree before synchronization. -/
def LacpPortInfo.matches (self other : LacpPortInfo) : Bool :=
  self.system_priority = other.system_priority && self.system = other.system && self.key = other.key &&
    self.port_priority = other.port_priority && self.port = other.port &&
    self.state &&& LACP_AGGREGATION = other.state &&& LACP_AGGREGATION

/-- What a group compares of its partners. -/
def LacpPortInfo.identity (self : LacpPortInfo) : UInt16 ×ₗ MacAddress ×ₗ UInt16 :=
  toLex (self.system_priority,toLex (self.system,self.key))

/-- One LACP version 1 protocol data unit. -/
@[ext] structure Lacpdu where
  actor : LacpPortInfo
  partner : LacpPortInfo
  collector_delay : UInt16
deriving DecidableEq

/-- Latest partner advertisement on one physical member. -/
structure LacpNeighbor where
  pdu : Lacpdu
  expires_at : SimTime
deriving DecidableEq

/-! ### Systems -/

inductive ChannelMode where
  | On
  | Active
  | Passive
deriving DecidableEq

structure ChannelMembership where
  number : UInt16
  mode : ChannelMode
deriving DecidableEq

/-- What LACP uses of an interface: whether it is an Ethernet port, its address, whether the protocol is up on it and
    its channel group. -/
structure Port where
  ethernet : Bool
  mac_address : MacAddress
  protocol_up : Bool
  channel_group : Option ChannelMembership
deriving DecidableEq

structure System where
  ports : OrderedMap InterfaceId Port
  lacp_neighbors : OrderedMap InterfaceId LacpNeighbor
deriving DecidableEq

namespace System

def protocol_up (self : System) (id : InterfaceId) : Bool := (self.ports.get? id).any (·.protocol_up)

/-- The lowest address of the Ethernet ports. -/
def system_mac (self : System) : Option MacAddress := ((self.ports.values.filter (·.ethernet)).map (·.mac_address)).min?

/-- `u16::try_from`. -/
def try_port (id : InterfaceId) : Option UInt16 := if id ≤ 0xffff then some id.toUInt16 else none

def lacp_actor (self : System) (id : InterfaceId) : Option LacpPortInfo :=
  match self.ports.get? id with
  | none => none
  | some port =>
    match port.channel_group with
    | none => none
    | some group =>
      if group.mode = .On || !port.protocol_up then none
      else
        match self.system_mac, try_port id with
        | some system, some number =>
          some ⟨32768,system,group.number,32768,number,
            LACP_TIMEOUT ||| LACP_AGGREGATION ||| if group.mode = .Active then LACP_ACTIVITY else 0⟩
        | _, _ => none

/-- Whether a port that is up belongs to a group. -/
def member_of (self : System) (number : UInt16) (id : InterfaceId) : Bool :=
  self.protocol_up id && ((self.ports.get? id).bind (·.channel_group)).any (·.number = number)

/-- The least of the partners that are known on the ports of a group. -/
def selected_partner (self : System) (number : UInt16) : Option (UInt16 ×ₗ MacAddress ×ₗ UInt16) :=
  ((self.lacp_neighbors.entries.filter (fun entry => self.member_of number entry.1)).map
    (fun entry => entry.2.pdu.actor.identity)).min?

/-- The state of a port towards the partner that it has heard. -/
def synchronized (selected : Bool) (actor : LacpPortInfo) (pdu : Lacpdu) : UInt8 :=
  if selected && pdu.partner.matches actor && pdu.actor.state &&& LACP_AGGREGATION ≠ 0 then
    LACP_SYNC ||| if pdu.actor.state &&& LACP_SYNC ≠ 0 then
      LACP_COLLECTING ||| if pdu.actor.state &&& LACP_COLLECTING ≠ 0 then LACP_DISTRIBUTING else 0
    else 0
  else 0

/-- Build an advertisement from received partner state, never another device's configuration. -/
def lacp_advertisement (self : System) (id : InterfaceId) : Option Lacpdu :=
  match self.lacp_actor id with
  | none => none
  | some actor =>
    let neighbor := self.lacp_neighbors.get? id
    if actor.state &&& LACP_ACTIVITY = 0 ∧ neighbor.all (fun peer => peer.pdu.actor.state &&& LACP_ACTIVITY = 0) then none
    else
      let partner := neighbor.elim .default (·.pdu.actor)
      let selected : Bool := self.selected_partner actor.key = some partner.identity
      let added := neighbor.elim LACP_DEFAULTED (fun peer => synchronized selected actor peer.pdu)
      some ⟨{ actor with state := actor.state ||| added },partner,0⟩

/-- Whether a PDU is not one that a partner on another system sends. -/
def ignored (actor : LacpPortInfo) (pdu : Lacpdu) : Bool :=
  pdu.actor.system = actor.system || pdu.actor.system = no_mac || pdu.actor.system.octets.get 0 &&& 1 ≠ 0 ||
    pdu.actor.port = 0 || pdu.actor.state &&& LACP_AGGREGATION = 0

/-- Learn one physical peer; return an immediate advertisement only when state changes. -/
def receive_lacp (self : System) (id : InterfaceId) (pdu : Lacpdu) (now : SimTime) : System × Option Lacpdu :=
  match self.lacp_actor id with
  | none => (self,none)
  | some actor =>
    if ignored actor pdu then (self,none)
    else
      let next := { self with lacp_neighbors := self.lacp_neighbors.insert id ⟨pdu,satAdd64 now 3000000⟩ }
      (next,if self.lacp_advertisement id ≠ next.lacp_advertisement id then next.lacp_advertisement id else none)

/-- Expire silent peers and generate fast-periodic advertisements in interface order. -/
def lacp_tick (self : System) (now : SimTime) : System × List (InterfaceId × Lacpdu) :=
  let next := { self with lacp_neighbors := self.lacp_neighbors.retain (fun _ peer => now < peer.expires_at) }
  (next,next.ports.keys.filterMap (fun id => (next.lacp_advertisement id).map (fun pdu => (id,pdu))))

def lacp_distributing (self : System) (id : InterfaceId) : Bool :=
  (self.lacp_advertisement id).any (fun pdu => pdu.actor.state &&& LACP_DISTRIBUTING ≠ 0)

end System

/-! ### What an advertisement says -/

/-- The four bits of a port's state that negotiation changes. -/
@[ext] structure Flags where
  sync : Bool
  collecting : Bool
  distributing : Bool
  defaulted : Bool
deriving DecidableEq

def Flags.byte (flags : Flags) : UInt8 :=
  (if flags.sync then LACP_SYNC else 0) ||| (if flags.collecting then LACP_COLLECTING else 0) |||
    (if flags.distributing then LACP_DISTRIBUTING else 0) ||| if flags.defaulted then LACP_DEFAULTED else 0

/-- The flags of a port that has settled with its partner. -/
def Flags.settled (own partner : Bool) : Flags := ⟨own,own && partner,own && partner,false⟩

/-- A port with its flags. -/
def LacpPortInfo.flagged (self : LacpPortInfo) (flags : Flags) : LacpPortInfo :=
  { self with state := self.state ||| flags.byte }

/-- A port as a system describes it before any flags. -/
def LacpPortInfo.Plain (self : LacpPortInfo) : Prop := self.state = 6 ∨ self.state = 7

namespace LacpPortInfo
variable {info : LacpPortInfo}

theorem byte_bits {state : UInt8} (plain : state = 6 ∨ state = 7) (flags : Flags) :
    (state ||| flags.byte) &&& LACP_AGGREGATION = 4 ∧
      (state ||| flags.byte) &&& LACP_ACTIVITY = state &&& LACP_ACTIVITY ∧
      ((state ||| flags.byte) &&& LACP_SYNC ≠ 0 ↔ flags.sync = true) ∧
      ((state ||| flags.byte) &&& LACP_COLLECTING ≠ 0 ↔ flags.collecting = true) ∧
      ((state ||| flags.byte) &&& LACP_DISTRIBUTING ≠ 0 ↔ flags.distributing = true) := by
  obtain ⟨sync,collecting,distributing,defaulted⟩ := flags
  rcases plain with rfl | rfl <;> cases sync <;> cases collecting <;> cases distributing <;> cases defaulted <;> decide

theorem flagged_bits (plain : info.Plain) (flags : Flags) :
    (info.flagged flags).state &&& LACP_AGGREGATION = 4 ∧
      (info.flagged flags).state &&& LACP_ACTIVITY = info.state &&& LACP_ACTIVITY ∧
      ((info.flagged flags).state &&& LACP_SYNC ≠ 0 ↔ flags.sync = true) ∧
      ((info.flagged flags).state &&& LACP_COLLECTING ≠ 0 ↔ flags.collecting = true) ∧
      ((info.flagged flags).state &&& LACP_DISTRIBUTING ≠ 0 ↔ flags.distributing = true) :=
  byte_bits plain flags

theorem flagged_matches (plain : info.Plain) (flags : Flags) : (info.flagged flags).matches info = true := by
  have four := (flagged_bits plain flags).1
  have own : info.state &&& LACP_AGGREGATION = 4 := by
    rcases plain with state | state <;> rw [state] <;> decide
  unfold LacpPortInfo.matches
  rw [four,own]
  simp [flagged]

theorem flagged_identity (info : LacpPortInfo) (flags : Flags) : (info.flagged flags).identity = info.identity := rfl

end LacpPortInfo

/-- How far a PDU from one port to another is settled: 0 says who sends it, 1 that the sender has heard the receiver,
    2 to 4 that one flag after another is final, and 5 that the echo is final as well. -/
structure Lacpdu.Level (source target : LacpPortInfo) (own partner : Bool) (level : Nat) (pdu : Lacpdu) : Prop where
  actor : ∃ flags : Flags, pdu.actor = source.flagged flags ∧ (2 ≤ level → flags.sync = own) ∧
    (3 ≤ level → flags.collecting = (own && partner)) ∧ (4 ≤ level → flags = .settled own partner)
  echo : 1 ≤ level → ∃ flags : Flags, pdu.partner = target.flagged flags ∧ (5 ≤ level → flags = .settled partner own)
  delay : pdu.collector_delay = 0

namespace Lacpdu.Level
variable {source target : LacpPortInfo} {own partner : Bool} {level lower : Nat} {pdu other : Lacpdu}

theorem mono (known : Level source target own partner level pdu) (less : lower ≤ level) :
    Level source target own partner lower pdu := by
  obtain ⟨⟨flags,actor,sync,collecting,settled⟩,echo,delay⟩ := known
  refine ⟨⟨flags,actor,fun h => sync (h.trans less),fun h => collecting (h.trans less),fun h => settled (h.trans less)⟩,
    fun h => ?_,delay⟩
  obtain ⟨echoed,same,final⟩ := echo (h.trans less)
  exact ⟨echoed,same,fun h => final (h.trans less)⟩

/-- There is only one PDU that is settled in everything. -/
theorem unique (first : Level source target own partner 5 pdu) (second : Level source target own partner 5 other) :
    pdu = other := by
  obtain ⟨⟨_,actor,-,-,settled⟩,echo,delay⟩ := first
  obtain ⟨⟨_,otherActor,-,-,otherSettled⟩,otherEcho,otherDelay⟩ := second
  obtain ⟨_,partnered,final⟩ := echo (by decide)
  obtain ⟨_,otherPartnered,otherFinal⟩ := otherEcho (by decide)
  refine Lacpdu.ext ?_ ?_ (delay.trans otherDelay.symm)
  · rw [actor,otherActor,settled (by decide),otherSettled (by decide)]
  · rw [partnered,otherPartnered,final (by decide),otherFinal (by decide)]

/-- Levels end at 5. -/
theorem of_five (known : Level source target own partner 5 pdu) : Level source target own partner level pdu := by
  obtain ⟨⟨flags,actor,sync,collecting,settled⟩,echo,delay⟩ := known
  obtain ⟨echoed,same,final⟩ := echo (by decide)
  exact ⟨⟨flags,actor,fun _ => sync (by decide),fun _ => collecting (by decide),fun _ => settled (by decide)⟩,
    fun _ => ⟨echoed,same,fun _ => final (by decide)⟩,delay⟩

end Lacpdu.Level

namespace System
variable {system : System} {id : InterfaceId} {actor : LacpPortInfo}

theorem lacp_actor_plain (known : system.lacp_actor id = some actor) : actor.Plain := by
  unfold lacp_actor at known
  split at known
  · cases known
  · split at known
    · cases known
    · split at known
      · cases known
      · split at known
        · cases known
          split
          · right
            show LACP_TIMEOUT ||| LACP_AGGREGATION ||| LACP_ACTIVITY = 7
            decide
          · left
            show LACP_TIMEOUT ||| LACP_AGGREGATION ||| 0 = 6
            decide
        · cases known

/-- The flags, as the source sets them one inside the other. -/
theorem synchronized_eq (selected : Bool) (actor : LacpPortInfo) (pdu : Lacpdu) :
    synchronized selected actor pdu =
      let agrees := selected && pdu.partner.matches actor && pdu.actor.state &&& LACP_AGGREGATION ≠ 0
      let synced := agrees && pdu.actor.state &&& LACP_SYNC ≠ 0
      Flags.byte ⟨agrees,synced,synced && pdu.actor.state &&& LACP_COLLECTING ≠ 0,false⟩ := by
  unfold synchronized
  simp only
  generalize (selected && pdu.partner.matches actor && pdu.actor.state &&& LACP_AGGREGATION ≠ 0 : Bool) = agrees
  by_cases synced : pdu.actor.state &&& LACP_SYNC ≠ 0
  · rw [if_pos synced,decide_eq_true synced]
    by_cases collected : pdu.actor.state &&& LACP_COLLECTING ≠ 0
    · rw [if_pos collected,decide_eq_true collected]
      cases agrees <;> decide
    · rw [if_neg collected,decide_eq_false collected]
      cases agrees <;> decide
  · rw [if_neg synced,decide_eq_false synced]
    cases agrees <;> simp [Flags.byte]

variable {source : LacpPortInfo} {pdu : Lacpdu}

/-- The flags of a port whose partner echoes it. -/
theorem synchronized_echoed (selected : Bool) {target : LacpPortInfo} {flags echoed : Flags} (plain : source.Plain)
    (own : target.Plain) (actor : pdu.actor = source.flagged flags) (echo : pdu.partner = target.flagged echoed) :
    synchronized selected target pdu =
      Flags.byte ⟨selected,selected && flags.sync,selected && flags.sync && flags.collecting,false⟩ := by
  obtain ⟨aggregates,-,synced,collected,-⟩ := LacpPortInfo.flagged_bits plain flags
  have syncs : decide ((source.flagged flags).state &&& LACP_SYNC ≠ 0) = flags.sync :=
    Bool.eq_iff_iff.mpr (decide_eq_true_iff.trans synced)
  have collects : decide ((source.flagged flags).state &&& LACP_COLLECTING ≠ 0) = flags.collecting :=
    Bool.eq_iff_iff.mpr (decide_eq_true_iff.trans collected)
  rw [synchronized_eq]
  simp only
  rw [echo,LacpPortInfo.flagged_matches own,actor,aggregates,syncs,collects]
  simp

variable {neighbor : LacpNeighbor}

/-- The advertisement of a port that has heard a partner. -/
theorem lacp_advertisement_heard (known : system.lacp_actor id = some actor)
    (present : system.lacp_neighbors.get? id = some neighbor) :
    system.lacp_advertisement id =
      if actor.state &&& LACP_ACTIVITY = 0 ∧ neighbor.pdu.actor.state &&& LACP_ACTIVITY = 0 then none
      else
        let added := synchronized (system.selected_partner actor.key = some neighbor.pdu.actor.identity) actor neighbor.pdu
        some ⟨{ actor with state := actor.state ||| added },neighbor.pdu.actor,0⟩ := by
  unfold lacp_advertisement
  rw [known,present]
  simp only [Option.all_some,decide_eq_true_eq]
  rfl

/-- The advertisement of a port that has heard nobody. -/
theorem lacp_advertisement_unheard (known : system.lacp_actor id = some actor)
    (silent : system.lacp_neighbors.get? id = none) :
    system.lacp_advertisement id =
      if actor.state &&& LACP_ACTIVITY = 0 then none
      else some ⟨{ actor with state := actor.state ||| LACP_DEFAULTED },.default,0⟩ := by
  unfold lacp_advertisement
  rw [known,silent]
  simp only [Option.all_none,and_true]
  rfl

/-- An advertisement of a port that has heard its partner is settled one level further than what it has heard. -/
theorem advertisement_level {own partner : Bool} {level : Nat} (known : system.lacp_actor id = some actor)
    (plain : source.Plain) (present : system.lacp_neighbors.get? id = some neighbor)
    (heard : neighbor.pdu.Level source actor partner own level)
    (selects : system.selected_partner actor.key = some source.identity ↔ own = true)
    (sends : system.lacp_advertisement id = some pdu) : pdu.Level actor source own partner (level + 1) := by
  rw [lacp_advertisement_heard known present] at sends
  split at sends
  · cases sends
  · cases sends
    obtain ⟨flags,said,sync,collecting,settled⟩ := heard.actor
    have identified : neighbor.pdu.actor.identity = source.identity := by rw [said,LacpPortInfo.flagged_identity]
    have chosen : (decide (system.selected_partner actor.key = some neighbor.pdu.actor.identity) : Bool) = own := by
      rw [identified,← Bool.coe_iff_coe]
      simpa using selects
    rw [chosen]
    refine ⟨?_,fun _ => ⟨flags,said,fun five => settled (by omega)⟩,rfl⟩
    cases level with
    | zero =>
      -- without an echo the flags are some flags
      refine ⟨_,congrArg (fun byte => { actor with state := actor.state ||| byte }) (synchronized_eq own actor neighbor.pdu),?_,?_,?_⟩
        <;> omega
    | succ level =>
      obtain ⟨echoed,same,final⟩ := heard.echo (by omega)
      refine ⟨_,congrArg (fun byte => { actor with state := actor.state ||| byte })
        (synchronized_echoed own plain (lacp_actor_plain known) said same),fun _ => rfl,fun two => ?_,fun three => ?_⟩
      · rw [sync (by omega)]
      · rw [sync (by omega),collecting (by omega)]
        cases own <;> cases partner <;> rfl

/-- Whoever is heard, an advertisement says who sends it. -/
theorem advertisement_source (known : system.lacp_actor id = some actor)
    (sends : system.lacp_advertisement id = some pdu) (target : LacpPortInfo) (own partner : Bool) :
    pdu.Level actor target own partner 0 := by
  cases present : system.lacp_neighbors.get? id with
  | none =>
    rw [lacp_advertisement_unheard known present] at sends
    split at sends
    · cases sends
    · cases sends
      refine ⟨⟨⟨false,false,false,true⟩,?_,?_,?_,?_⟩,?_,rfl⟩
      · show _ = ({ actor with state := _ } : LacpPortInfo)
        rw [show Flags.byte ⟨false,false,false,true⟩ = LACP_DEFAULTED by decide]
      all_goals intro impossible; omega
  | some neighbor =>
    rw [lacp_advertisement_heard known present] at sends
    split at sends
    · cases sends
    · cases sends
      refine ⟨⟨_,congrArg (fun byte => { actor with state := actor.state ||| byte }) (synchronized_eq _ actor neighbor.pdu),
        ?_,?_,?_⟩,?_,rfl⟩
      all_goals intro impossible; omega

/-- A port that is active, or whose partner is, advertises. -/
theorem advertisement_isSome (known : system.lacp_actor id = some actor) (plain : source.Plain)
    (present : system.lacp_neighbors.get? id = some neighbor) {flags : Flags}
    (said : neighbor.pdu.actor = source.flagged flags) :
    (system.lacp_advertisement id).isSome = true ↔
      actor.state &&& LACP_ACTIVITY ≠ 0 ∨ source.state &&& LACP_ACTIVITY ≠ 0 := by
  rw [lacp_advertisement_heard known present,said,(LacpPortInfo.flagged_bits plain flags).2.1]
  split
  · rename_i passive
    simp [passive]
  · rename_i active
    simpa [← not_and_or] using active

/-- A port that has not heard an active partner advertises only if it is active. -/
theorem advertisement_active (known : system.lacp_actor id = some actor)
    (passive : ∀ neighbor, system.lacp_neighbors.get? id = some neighbor →
    neighbor.pdu.actor.state &&& LACP_ACTIVITY = 0) (sends : system.lacp_advertisement id = some pdu) :
    actor.state &&& LACP_ACTIVITY ≠ 0 := by
  intro quiet
  cases present : system.lacp_neighbors.get? id with
  | none =>
    rw [lacp_advertisement_unheard known present,if_pos quiet] at sends
    cases sends
  | some neighbor =>
    rw [lacp_advertisement_heard known present,if_pos ⟨quiet,passive neighbor present⟩] at sends
    cases sends

/-- An active port advertises always. -/
theorem active_advertisement (known : system.lacp_actor id = some actor) (active : actor.state &&& LACP_ACTIVITY ≠ 0) :
    (system.lacp_advertisement id).isSome = true := by
  cases present : system.lacp_neighbors.get? id with
  | none => rw [lacp_advertisement_unheard known present,if_neg active]; rfl
  | some neighbor => rw [lacp_advertisement_heard known present,if_neg (fun both => active both.1)]; rfl

/-- A port distributes exactly if both ends have selected each other, once its partner's flags are settled. -/
theorem lacp_distributing_eq {own partner : Bool} {level : Nat} (known : system.lacp_actor id = some actor)
    (plain : source.Plain) (present : system.lacp_neighbors.get? id = some neighbor)
    (heard : neighbor.pdu.Level source actor partner own level) (settled : 3 ≤ level)
    (selects : system.selected_partner actor.key = some source.identity ↔ own = true) :
    system.lacp_distributing id = ((system.lacp_advertisement id).isSome && (own && partner)) := by
  unfold lacp_distributing
  cases sends : system.lacp_advertisement id with
  | none => rfl
  | some pdu =>
    obtain ⟨flags,said,-,-,final⟩ := (advertisement_level known plain present heard selects sends).actor
    have bits := (LacpPortInfo.flagged_bits (lacp_actor_plain known) flags).2.2.2.2
    rw [Option.any_some,said,Option.isSome_some,Bool.true_and,Bool.eq_iff_iff,decide_eq_true_iff,bits,final (by omega)]
    rfl

/-- What a port needs to be heard as a partner. -/
structure Valid (info : LacpPortInfo) : Prop where
  plain : info.Plain
  system : info.system ≠ no_mac
  unicast : info.system.octets.get 0 &&& 1 = 0
  port : info.port ≠ 0

theorem ignored_eq_false (valid : Valid source) (other : source.system ≠ actor.system) {flags : Flags}
    (said : pdu.actor = source.flagged flags) : ignored actor pdu = false := by
  have aggregates := (LacpPortInfo.flagged_bits valid.plain flags).1
  unfold ignored
  rw [said,aggregates]
  simp [LacpPortInfo.flagged,other,valid.system,valid.unicast,valid.port]

/-- A PDU of a partner is learned. -/
theorem receive_lacp_learns (known : system.lacp_actor id = some actor) (valid : Valid source)
    (other : source.system ≠ actor.system) {flags : Flags} (said : pdu.actor = source.flagged flags) (now : SimTime) :
    system.receive_lacp id pdu now =
      let next := { system with lacp_neighbors := system.lacp_neighbors.insert id ⟨pdu,satAdd64 now 3000000⟩ }
      (next,if system.lacp_advertisement id ≠ next.lacp_advertisement id then next.lacp_advertisement id else none) := by
  unfold receive_lacp
  rw [known]
  simp only [ignored_eq_false valid other said]
  rfl

end System
end Rios.Lacp
