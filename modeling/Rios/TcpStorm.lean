import Rios.TcpNetwork

/-!
# Acknowledgment storms

Deliveries alone come to an end, unless both sides expect another sequence
number than the other one sends next and a segment is in flight that its
destination answers: then the answers never stop.
-/

namespace Rios.Tcp
open Rios.Machine Rios.Device Rios.Queue

/-- A pure acknowledgment. -/
def TcpSegment.Light (self : TcpSegment) : Prop := self.flags = .ACK ∧ self.payload = []

instance decidableLight (segment : TcpSegment) : Decidable segment.Light := by
  unfold TcpSegment.Light
  infer_instance

namespace TcpSegment.Light

variable {segment : TcpSegment}

theorem unset (light : segment.Light) : segment.flags.contains .RST = false := by
  rw [light.1]
  rfl

theorem occupies (light : segment.Light) : segment.sequence_len = 0 := by
  rw [TcpSegment.sequence_len,light.1,light.2]
  rfl

theorem plain (light : segment.Light) : segment.flags.contains .SYN = false ∧ segment.flags.contains .FIN = false ∧
    segment.flags.contains (TcpFlags.SYN.or .ACK) = false := by
  rw [light.1]
  exact ⟨rfl,rfl,rfl⟩

end TcpSegment.Light

theorem segment_light (connection : TcpConnection) (socket : TcpSocket) : (connection.segment socket .ACK []).Light :=
  ⟨rfl,rfl⟩

/-- A connection later: it expects and sends the same, and synchronizes no more. -/
def Fades (before after : Option TcpConnection) : Prop :=
  match before,after with
  | none,none => True
  | some before,some after => after.send_next = before.send_next ∧ after.receive_next = before.receive_next ∧
      (after.synchronized → before.synchronized)
  | _,_ => False

theorem Fades.refl (connection : Option TcpConnection) : Fades connection connection := by
  cases connection with
  | none => trivial
  | some connection => exact ⟨rfl,rfl,id⟩

namespace TcpConnection

variable {self : TcpConnection} {socket : TcpSocket} {segment : TcpSegment} {now : SimTime}

/-- An acknowledgment in sequence is not answered. -/
theorem accept_light (bounded : self.received.length ≤ RECEIVE_LIMIT) (light : segment.Light) :
    (self.accept socket segment now).2 = none ∧ (self.accept socket segment now).1.receive_next = self.receive_next ∧
      (self.accept socket segment now).1.send_next = self.send_next ∧
      (self.accept socket segment now).1.state = self.state := by
  have accepted := self.accept_cases socket segment now
  generalize self.accept socket segment now = outcome at accepted
  cases accepted with
  | closed done => exact ⟨rfl,rfl,rfl,rfl⟩
  | full live exceeds =>
    rw [light.2,List.length_nil] at exceeds
    omega
  | taken live fits unfinished =>
    refine ⟨?_,?_,rfl,rfl⟩
    · simp [light.2]
    · simp [extend,noted,light.2]
  | finished live fits fin =>
    rw [light.plain.2.1] at fin
    cases fin

/-- An acknowledgment is answered only out of sequence, and then changes nothing. -/
theorem receive_light (bounded : self.received.length ≤ RECEIVE_LIMIT) (light : segment.Light) :
    Fades (some self) (some (self.receive socket segment now).1) ∧
      ((self.receive socket segment now).2 = none ∨
        (self.receive socket segment now).2 = some (self.segment socket .ACK []) ∧ self.synchronized ∧
          segment.sequence ≠ self.receive_next) := by
  have received := self.receive_cases socket segment now
  generalize self.receive socket segment now = outcome at received
  have through : ∀ other : TcpConnection, other.received = self.received → other.receive_next = self.receive_next →
      other.send_next = self.send_next → self.synchronized →
      Fades (some self) (some (other.accept socket segment now).1) ∧ (other.accept socket segment now).2 = none := by
    intro other buffer next sends live
    obtain ⟨silent,expects,sending,-⟩ :=
      @accept_light other socket segment now (by rw [buffer]; exact bounded) light
    exact ⟨⟨sending.trans sends,expects.trans next,fun _ => live⟩,silent⟩
  cases received with
  | ignored => exact ⟨.refl _,.inl rfl⟩
  | reset flagged => exact ⟨⟨rfl,rfl,fun live => absurd rfl live.1⟩,.inl rfl⟩
  | waiting state same =>
    refine ⟨?_,.inl (by simp [light.occupies])⟩
    rcases same with rfl | rfl
    · exact .refl _
    · exact ⟨rfl,rfl,fun live => absurd rfl live.2.1⟩
  | opened state flagged acknowledged established =>
    rw [light.plain.2.2] at flagged
    cases flagged
  | repeated state flagged same =>
    rw [light.plain.1] at flagged
    cases flagged
  | unexpected state unset elsewhere => exact ⟨.refl _,.inr ⟨rfl,state,elsewhere⟩⟩
  | last state expected acknowledged => exact ⟨⟨rfl,rfl,fun live => absurd rfl live.1⟩,.inl rfl⟩
  | acknowledged state lives unset expected flagged acknowledged =>
    obtain ⟨fades,silent⟩ := through (self.acknowledge now) (by simp) (by simp) (by simp) state
    exact ⟨fades,.inl silent⟩
  | unacknowledged state opened unset expected flagged waits =>
    obtain ⟨fades,silent⟩ := through self rfl rfl rfl state
    exact ⟨fades,.inl silent⟩

/-- A reset is not answered. -/
theorem receive_reset (flagged : segment.flags.contains .RST = true) :
    Fades (some self) (some (self.receive socket segment now).1) ∧ (self.receive socket segment now).2 = none := by
  unfold receive
  by_cases closed : self.state = .Closed
  · rw [if_pos closed]
    exact ⟨.refl _,rfl⟩
  rw [if_neg closed,if_pos flagged]
  have either : ∀ valid : Bool, Fades (some self)
      (some (if valid then { self with state := .Closed, outstanding := none } else self)) := by
    intro valid
    cases valid with
    | false => exact .refl _
    | true => exact ⟨rfl,rfl,fun live => absurd rfl live.1⟩
  exact ⟨either _,rfl⟩

/-- A segment out of sequence is answered, and changes nothing. -/
theorem receive_unexpected (state : self.synchronized) (unset : segment.flags.contains .RST = false)
    (elsewhere : segment.sequence ≠ self.receive_next)
    (fresh : ¬ (self.state = .SynReceived ∧ segment.flags.contains .SYN ∧ segment.sequence + 1 = self.receive_next)) :
    self.receive socket segment now = (self,some (self.segment socket .ACK [])) := by
  unfold receive
  rw [if_neg state.1,if_neg (by rw [unset]; exact Bool.false_ne_true),if_neg state.2.1,if_neg state.2.2,if_neg fresh,
    if_pos elsewhere]

theorem accept_answers : ∀ answer ∈ (self.accept socket segment now).2, answer.Light := by
  intro answer member
  have accepted := self.accept_cases socket segment now
  generalize self.accept socket segment now = outcome at accepted member
  cases accepted with
  | closed done => cases member
  | full live exceeds =>
    cases member
    exact segment_light _ _
  | taken live fits unfinished =>
    simp only at member
    split at member
    · cases member
      exact segment_light _ _
    · cases member
  | finished live fits fin =>
    cases member
    exact segment_light _ _

/-- But for its SYN-ACK a connection only answers with acknowledgments. -/
theorem receive_answers (opening : self.state ≠ .SynReceived) :
    ∀ answer ∈ (self.receive socket segment now).2, answer.Light := by
  intro answer member
  have received := self.receive_cases socket segment now
  generalize self.receive socket segment now = outcome at received member
  cases received with
  | ignored => cases member
  | reset flagged => cases member
  | waiting state same =>
    simp only at member
    split at member
    · cases member
      exact segment_light _ _
    · cases member
  | opened state flagged acknowledged established =>
    cases member
    exact segment_light _ _
  | repeated state flagged same => exact absurd state opening
  | unexpected state unset elsewhere =>
    cases member
    exact segment_light _ _
  | last state expected acknowledged => cases member
  | acknowledged state lives unset expected flagged acknowledged => exact accept_answers answer member
  | unacknowledged state opened unset expected flagged waits => exact accept_answers answer member

end TcpConnection

namespace Party

variable {side : Side} {party : Party} {socket : TcpSocket} {segment : TcpSegment} {now : SimTime}

theorem receive_light (regular : party.Regular side) (light : segment.Light) :
    Fades party.endpoint.connection (party.receive socket segment now).1.endpoint.connection ∧
      ((party.receive socket segment now).2 = none ∨
        (∃ reset, party.endpoint.connection = none ∧ (party.receive socket segment now).2 = some reset ∧
          reset.flags.contains .RST = true) ∨
        ∃ connection, party.endpoint.connection = some connection ∧ connection.synchronized ∧
          segment.sequence ≠ connection.receive_next ∧
          (party.receive socket segment now).2 = some (connection.segment socket .ACK [])) := by
  cases present : party.endpoint.connection with
  | none =>
    rcases @receive_none party socket now segment present with ⟨flagged,-⟩ | ⟨-,begins,-⟩ | ⟨-,reset,⟨flagged,-⟩,same⟩
    · rw [light.unset] at flagged
      cases flagged
    · rw [light.1] at begins
      cases begins
    · rw [same]
      simp only [present]
      exact ⟨.refl _,.inr (.inl ⟨reset,trivial,rfl,flagged⟩)⟩
  | some connection =>
    rw [receive_some present]
    simp only
    obtain ⟨fades,silent | ⟨acknowledges,state,elsewhere⟩⟩ :=
      @TcpConnection.receive_light connection socket segment now (regular.bounded connection present) light
    · exact ⟨fades,.inl silent⟩
    · exact ⟨fades,.inr (.inr ⟨connection,rfl,state,elsewhere,acknowledges⟩)⟩

theorem receive_reset (flagged : segment.flags.contains .RST = true) :
    Fades party.endpoint.connection (party.receive socket segment now).1.endpoint.connection ∧
      (party.receive socket segment now).2 = none := by
  cases present : party.endpoint.connection with
  | none =>
    rcases @receive_none party socket now segment present with ⟨-,same⟩ | ⟨unset,-⟩ | ⟨unset,-⟩
    · rw [same]
      simp only [present]
      exact ⟨.refl _,trivial⟩
    · rw [unset] at flagged
      cases flagged
    · rw [unset] at flagged
      cases flagged
  | some connection =>
    rw [receive_some present]
    exact TcpConnection.receive_reset flagged

/-- The active side answers with acknowledgments and resets only. -/
theorem receive_active (regular : party.Regular .active) :
    ∀ answer ∈ (party.receive socket segment now).2, answer.flags.contains .RST = true ∨ answer.Light := by
  intro answer member
  cases present : party.endpoint.connection with
  | none =>
    rcases @receive_none party socket now segment present with ⟨-,same⟩ | ⟨-,-,listens,-⟩ | ⟨-,reset,⟨flagged,-⟩,answered⟩
    · rw [same] at member
      cases member
    · rw [regular.deaf rfl] at listens
      cases listens
    · rw [answered] at member
      cases member
      exact .inl flagged
  | some connection =>
    rw [receive_some present] at member
    exact .inr (TcpConnection.receive_answers (regular.opening rfl connection present) answer member)

end Party

/-! ### The measure -/

/-- How many deliveries a segment still causes that only acknowledges. -/
def echoes (connection : Option TcpConnection) (sequence : UInt32) : Nat :=
  match connection with
  | none => 2
  | some connection => if connection.synchronized ∧ sequence ≠ connection.receive_next then 2 else 1

theorem echoes_fades {before after : Option TcpConnection} (fades : Fades before after) (sequence : UInt32) :
    echoes after sequence ≤ echoes before sequence := by
  cases before with
  | none =>
    cases after with
    | none => exact le_rfl
    | some after => exact absurd fades id
  | some before =>
    cases after with
    | none => exact absurd fades id
    | some after =>
      obtain ⟨-,expects,live⟩ := fades
      unfold echoes
      simp only
      rw [expects]
      split
      · rename_i answered
        rw [if_pos ⟨live answered.1,answered.2⟩]
      · split <;> omega

/-- The same for an acknowledgment on its way, which is answered at most twice. -/
def chain (here there : Option TcpConnection) (sequence : UInt32) : Nat :=
  match here with
  | none => 2
  | some connection =>
    if connection.synchronized ∧ sequence ≠ connection.receive_next then 1 + echoes there connection.send_next else 1

theorem chain_fades {here here' there there' : Option TcpConnection} (fades : Fades here here') (beside : Fades there there')
    (sequence : UInt32) : chain here' there' sequence ≤ chain here there sequence := by
  cases here with
  | none =>
    cases here' with
    | none => exact le_rfl
    | some after => exact absurd fades id
  | some before =>
    cases here' with
    | none => exact absurd fades id
    | some after =>
      obtain ⟨sends,expects,live⟩ := fades
      unfold chain
      simp only
      rw [expects,sends]
      have less := echoes_fades beside before.send_next
      split
      · rename_i answered
        rw [if_pos ⟨live answered.1,answered.2⟩]
        omega
      · split <;> omega

theorem chain_positive (here there : Option TcpConnection) (sequence : UInt32) : 0 < chain here there sequence := by
  unfold chain
  split
  · omega
  · split <;> omega

namespace Network

/-- A segment that may change what a side expects. Only the passive side answers
    with another one. -/
def burden : Side × TcpSegment → Nat
  | (side,segment) =>
    if segment.flags.contains .RST ∨ segment.Light then 0
    else match side with
      | .active => 1
      | .passive => 2

/-- A segment that changes nothing any more, with the answers that it causes. -/
def echo (network : Network) : Side × TcpSegment → Nat
  | (side,segment) =>
    if segment.flags.contains .RST then 1
    else if segment.Light then chain (network.connection side) (network.connection side.other) segment.sequence
    else 0

def burdens (network : Network) : Nat := (network.flight.map burden).sum
def echoesLeft (network : Network) : Nat := (network.flight.map network.echo).sum

/-- Both sides expect another number than the other one sends next, and a segment
    is in flight that its destination answers. -/
def Stormy (network : Network) : Prop :=
  ∃ connection : Side → TcpConnection, (∀ side, network.connection side = some (connection side)) ∧
    (∀ side, (connection side).synchronized ∧ (connection side).send_next ≠ (connection side.other).receive_next) ∧
    ∃ side segment, (side,segment) ∈ network.flight ∧ segment.flags.contains .RST = false ∧
      segment.sequence ≠ (connection side).receive_next ∧
      ¬ ((connection side).state = .SynReceived ∧ segment.flags.contains .SYN ∧
        segment.sequence + 1 = (connection side).receive_next)

variable {sockets : Side → TcpSocket} {network next : Network}

/-- A delivery, as what it does to the flight and to the party. -/
theorem delivers_cases (delivers : Delivers sockets network next) :
    ∃ side segment now rest, network.flight.Perm ((side,segment) :: rest) ∧
      next = (Network.mk network.party rest).put side ((network.party side).receive (sockets side) segment now) := by
  obtain ⟨index,now,inside,rfl⟩ := delivers
  refine ⟨network.flight[index].1,network.flight[index].2,now,network.flight.eraseIdx index,?_,?_⟩
  · exact (List.getElem_cons_eraseIdx_perm inside).symm
  · unfold apply
    simp only [List.getElem?_eq_getElem inside]

theorem delivers_member {side : Side} {segment : TcpSegment} (member : (side,segment) ∈ network.flight) (now : SimTime) :
    ∃ rest, network.flight.Perm ((side,segment) :: rest) ∧ Delivers sockets network
      ((Network.mk network.party rest).put side ((network.party side).receive (sockets side) segment now)) := by
  obtain ⟨index,inside,found⟩ := List.getElem_of_mem member
  refine ⟨network.flight.eraseIdx index,?_,index,now,inside,?_⟩
  · rw [← found]
    exact (List.getElem_cons_eraseIdx_perm inside).symm
  · unfold apply
    simp only [List.getElem?_eq_getElem inside,found]

/-- Answers never add up to the burden of what they answer. -/
theorem burden_answer {side : Side} {segment answer : TcpSegment} {now : SimTime} (regular : network.Regular)
    (heavy : ¬ (segment.flags.contains .RST = true ∨ segment.Light))
    (answered : ((network.party side).receive (sockets side) segment now).2 = some answer) :
    burden (side.other,answer) < burden (side,segment) := by
  cases side with
  | active =>
    have light := Party.receive_active (regular .active) answer answered
    simp [burden,heavy,light]
  | passive =>
    simp only [burden,heavy,if_false,Side.other]
    split <;> omega

theorem echo_fades (fades : ∀ side, Fades (network.connection side) (next.connection side)) (packet : Side × TcpSegment) :
    next.echo packet ≤ network.echo packet := by
  obtain ⟨side,segment⟩ := packet
  simp only [echo]
  split
  · exact le_rfl
  · split
    · exact chain_fades (fades _) (fades _) _
    · exact le_rfl

/-- Outside a storm an answer causes fewer deliveries than what it answers. -/
theorem chain_answer (calm : ¬ network.Stormy) {side : Side} {segment : TcpSegment} {connection : TcpConnection}
    (member : (side,segment) ∈ network.flight) (light : segment.Light) (present : network.connection side = some connection)
    (state : connection.synchronized) (elsewhere : segment.sequence ≠ connection.receive_next) :
    chain (network.connection side.other) (network.connection side) connection.send_next <
      chain (network.connection side) (network.connection side.other) segment.sequence := by
  rw [present]
  cases beside : network.connection side.other with
  | none => simp [chain,echoes,state,elsewhere]
  | some other =>
    simp only [chain,echoes,state,elsewhere,true_and,ne_eq,not_false_eq_true,if_true]
    by_cases answered : other.synchronized ∧ ¬ connection.send_next = other.receive_next
    · rw [if_pos answered,if_pos answered,if_neg]
      · omega
      · intro apart
        refine calm ⟨fun place => if place = side then connection else other,?_,?_,side,segment,member,light.unset,?_,?_⟩
        · intro place
          by_cases same : place = side
          · simp only [same,if_true]
            exact present
          · simp only [same,if_false]
            rw [← beside]
            cases place <;> cases side <;> first | rfl | exact absurd rfl same
        · intro place
          by_cases same : place = side
          · subst same
            have differs : place.other ≠ place := by cases place <;> decide
            simp only [if_pos,if_neg differs]
            exact ⟨state,answered.2⟩
          · have back : place.other = side := by cases place <;> cases side <;> first | rfl | exact absurd rfl same
            simp only [if_neg same,back,if_pos]
            exact ⟨answered.1,apart⟩
        · simpa using elsewhere
        · rintro ⟨-,flagged,-⟩
          rw [light.plain.1] at flagged
          cases flagged
    · rw [if_neg answered,if_neg answered]
      omega

/-- Without a storm, a delivery lightens the burden or shortens the chains. -/
theorem delivers_measure (regular : network.Regular) (calm : ¬ network.Stormy) (delivers : Delivers sockets network next) :
    next.burdens < network.burdens ∨ next.burdens = network.burdens ∧ next.echoesLeft < network.echoesLeft := by
  obtain ⟨side,segment,now,rest,split,rfl⟩ := delivers_cases delivers
  have burdens : network.burdens = burden (side,segment) + (rest.map burden).sum := by
    rw [Network.burdens,(split.map burden).sum_eq,List.map_cons,List.sum_cons]
  have echoes : network.echoesLeft = network.echo (side,segment) + (rest.map network.echo).sum := by
    rw [Network.echoesLeft,(split.map network.echo).sum_eq,List.map_cons,List.sum_cons]
  by_cases heavy : segment.flags.contains .RST = true ∨ segment.Light
  · right
    -- neither a reset nor an acknowledgment changes what a side expects
    have fading : ∀ next : Party × Option TcpSegment,
        Fades (network.connection side) next.1.endpoint.connection →
        ∀ place, Fades (network.connection place) (((Network.mk network.party rest).put side next).connection place) := by
      intro next fades place
      by_cases same : place = side
      · subst same
        simpa [Network.connection,put] using fades
      · simpa [Network.connection,put,same] using Fades.refl _
    have shorter : ∀ next : Party × Option TcpSegment,
        Fades (network.connection side) next.1.endpoint.connection →
        (rest.map ((Network.mk network.party rest).put side next).echo).sum ≤ (rest.map network.echo).sum :=
          fun next fades =>
      List.sum_le_sum (fun packet _ => echo_fades (fading next fades) packet)
    have none : burden (side,segment) = 0 := by
      unfold burden
      exact if_pos heavy
    have silent : ∀ next : Party × Option TcpSegment, next.2 = Option.none →
        Fades (network.connection side) next.1.endpoint.connection → 0 < network.echo (side,segment) →
        ((Network.mk network.party rest).put side next).burdens = network.burdens ∧
          ((Network.mk network.party rest).put side next).echoesLeft < network.echoesLeft := by
      intro next quiet fades positive
      have less := shorter next fades
      rw [burdens,echoes,none]
      unfold Network.burdens Network.echoesLeft
      simp only [put,quiet,Option.toList_none,List.map_nil,List.append_nil] at less ⊢
      omega
    have positive : 0 < network.echo (side,segment) := by
      unfold echo
      simp only
      split
      · exact Nat.one_pos
      · rename_i unset
        rw [if_pos (heavy.resolve_left unset)]
        exact chain_positive _ _ _
    by_cases flagged : segment.flags.contains .RST = true
    · obtain ⟨fades,quiet⟩ := @Party.receive_reset (network.party side) (sockets side) segment now flagged
      exact silent _ quiet fades positive
    have light := heavy.resolve_left flagged
    have member : (side,segment) ∈ network.flight := split.symm.subset List.mem_cons_self
    have length : network.echo (side,segment) =
        chain (network.connection side) (network.connection side.other) segment.sequence := by
      unfold echo
      simp only
      rw [if_neg flagged,if_pos light]
    obtain ⟨fades,quiet | ⟨reset,missing,answer,resets⟩ | ⟨connection,present,state,elsewhere,answer⟩⟩ :=
      @Party.receive_light side (network.party side) (sockets side) segment now (regular side) light
    · exact silent _ quiet fades positive
    · have less := shorter _ fades
      have two : network.echo (side,segment) = 2 := by
        rw [length,Network.connection,missing]
        rfl
      rw [burdens,echoes,none,two]
      unfold Network.burdens Network.echoesLeft
      simp only [put,answer,Option.toList_some,List.map_cons,List.map_nil,List.map_append,List.sum_append,List.sum_cons,
        List.sum_nil] at less ⊢
      have zero : burden (side.other,reset) = 0 := by
        unfold burden
        exact if_pos (.inl resets)
      have one : ∀ later : Network, later.echo (side.other,reset) = 1 := by
        intro later
        unfold echo
        exact if_pos resets
      rw [zero,one]
      omega
    · have less := shorter _ fades
      have acknowledges := segment_light connection (sockets side)
      have fewer := chain_answer calm member light present state elsewhere
      rw [← length] at fewer
      rw [burdens,echoes,none]
      unfold Network.burdens Network.echoesLeft
      have later := echo_fades (fading _ fades) (side.other,connection.segment (sockets side) .ACK [])
      have then_ : network.echo (side.other,connection.segment (sockets side) .ACK []) =
          chain (network.connection side.other) (network.connection side) connection.send_next := by
        unfold echo
        simp only
        rw [if_neg (by rw [acknowledges.unset]; exact Bool.false_ne_true),if_pos acknowledges]
        cases side <;> rfl
      rw [then_] at later
      have zero : burden (side.other,connection.segment (sockets side) .ACK []) = 0 := by
        unfold burden
        exact if_pos (.inr acknowledges)
      simp only [put,answer,Option.toList_some,List.map_cons,List.map_nil,List.map_append,List.sum_append,List.sum_cons,
        List.sum_nil] at less later ⊢
      rw [zero]
      omega
  · left
    have positive : 0 < burden (side,segment) := by
      unfold burden
      simp only
      rw [if_neg heavy]
      cases side <;> decide
    rw [burdens]
    unfold Network.burdens
    simp only [put]
    cases answered : ((network.party side).receive (sockets side) segment now).2 with
    | none =>
      simp only [Option.toList_none,List.map_nil,List.append_nil]
      omega
    | some answer =>
      have less := burden_answer regular heavy answered
      simp only [Option.toList_some,List.map_cons,List.map_nil,List.map_append,List.sum_append,List.sum_cons,List.sum_nil]
      omega

/-- A storm goes on with a delivery. -/
theorem stormy_continues (stormy : network.Stormy) : ∃ next, Delivers sockets network next ∧ next.Stormy := by
  obtain ⟨connection,present,apart,side,segment,member,unset,elsewhere,fresh⟩ := stormy
  obtain ⟨rest,split,delivers⟩ := @delivers_member sockets network side segment member 0
  have answered := @TcpConnection.receive_unexpected (connection side) (sockets side) segment 0 (apart side).1 unset
    elsewhere fresh
  have received := @Party.receive_some (network.party side) (sockets side) 0 segment _ (present side)
  rw [answered] at received
  have light := segment_light (connection side) (sockets side)
  refine ⟨_,delivers,connection,?_,apart,side.other,(connection side).segment (sockets side) .ACK [],?_,light.unset,
    (apart side).2,?_⟩
  · intro other
    by_cases same : other = side
    · subst same
      simp [Network.connection,put,received]
    · simpa [Network.connection,put,same] using present other
  · simp [put,received]
  · rintro ⟨-,flagged,-⟩
    rw [light.plain.1] at flagged
    cases flagged

theorem delivers_regular (regular : network.Regular) (delivers : Delivers sockets network next) : next.Regular := by
  obtain ⟨index,now,inside,rfl⟩ := delivers
  exact apply_regular regular _

/-! ### Endless deliveries -/

/-- Deliveries that never end. -/
def Endless (sockets : Side → TcpSocket) (network : Network) : Prop :=
  ∃ path : ℕ → Network, path 0 = network ∧ ∀ n, Delivers sockets (path n) (path (n + 1))

theorem Endless.before (endless : Endless sockets next) (delivers : Delivers sockets network next) :
    Endless sockets network := by
  obtain ⟨path,begins,steps⟩ := endless
  refine ⟨fun n => n.casesOn network path,rfl,?_⟩
  intro n
  cases n with
  | zero =>
    simp only [begins]
    exact delivers
  | succ n => exact steps n

theorem stormy_endless (stormy : network.Stormy) : Endless sockets network := by
  choose next delivers storms using fun storm : { network : Network // network.Stormy } =>
    @stormy_continues sockets storm.1 storm.2
  let path : ℕ → { network : Network // network.Stormy } :=
    fun n => n.rec ⟨network,stormy⟩ (fun _ storm => ⟨next storm,storms storm⟩)
  exact ⟨fun n => (path n).1,rfl,fun n => delivers (path n)⟩

theorem Endless.reached (endless : Endless sockets next) (reaches : Relation.ReflTransGen (Delivers sockets) network next) :
    Endless sockets network := by
  induction reaches using Relation.ReflTransGen.head_induction_on with
  | refl => exact endless
  | head delivers _ ih => exact ih.before delivers

/-- Where no storm can be reached, deliveries end. -/
theorem calm_ends (regular : network.Regular)
    (calm : ∀ later, Relation.ReflTransGen (Delivers sockets) network later → ¬ later.Stormy) :
    ¬ Endless sockets network := by
  induction network using WellFounded.induction
      (r := InvImage (Prod.Lex (· < ·) (· < ·)) fun network : Network => (network.burdens,network.echoesLeft))
      (InvImage.wf _ (WellFounded.prod_lex wellFounded_lt wellFounded_lt)) with
  | _ network ih =>
    rintro ⟨path,rfl,steps⟩
    have less : Prod.Lex (· < ·) (· < ·) ((path 1).burdens,(path 1).echoesLeft) ((path 0).burdens,(path 0).echoesLeft) := by
      rcases delivers_measure regular (calm (path 0) .refl) (steps 0) with lighter | ⟨same,shorter⟩
      · exact .left _ _ lighter
      · rw [same]
        exact .right _ shorter
    exact ih (path 1) less (delivers_regular regular (steps 0)) (fun later reaches => calm later (.head (steps 0) reaches))
      ⟨fun n => path (n + 1),rfl,fun n => steps (n + 1)⟩

/-- From a state of any run, all sequences of deliveries end if and only if none
    of them comes into a storm. -/
theorem deliveries_end (sequence : Side → UInt32) (start : SimTime) (operations : List Operation) :
    (∀ path : ℕ → Network, path 0 = run sockets sequence start operations →
      ∃ n, ¬ Delivers sockets (path n) (path (n + 1))) ↔
    ∀ later, Relation.ReflTransGen (Delivers sockets) (run sockets sequence start operations) later → ¬ later.Stormy := by
  constructor
  · intro ends later reaches stormy
    have endless := (stormy_endless stormy).reached reaches
    obtain ⟨path,begins,steps⟩ := endless
    obtain ⟨n,stops⟩ := ends path begins
    exact stops (steps n)
  · intro calm path begins
    by_contra never
    push Not at never
    exact calm_ends (run_regular sequence start operations) calm ⟨path,begins,never⟩

/-- Both sides have sent a byte that was lost, and the active one reads. -/
theorem deliveries_end_storm :
    ¬ ∀ (sockets : Side → TcpSocket) (sequence : Side → UInt32) (start : SimTime) (operations : List Operation)
      (path : ℕ → Network), path 0 = run sockets sequence start operations →
        ∃ n, ¬ Delivers sockets (path n) (path (n + 1)) := by
  intro ends
  let network := run (Side.pair ⟨0x0a000001,49152,0x0a000002,179⟩ ⟨0x0a000002,179,0x0a000001,49152⟩) (fun _ => 0) 0
    [.deliver 0 0,.deliver 0 0,.deliver 0 0,.send .active [1] 0,.lose 0,.send .passive [2] 0,.lose 0,.read .active]
  have stormy : network.Stormy := by
    refine ⟨fun side => (network.connection side).getD (.new 0 0),?_,?_,.passive,
      ⟨49152,179,64002,64001,.ACK,65535,[],[]⟩,?_,?_,?_,?_⟩
    · intro side
      cases side <;> decide +kernel
    · intro side
      cases side <;> decide +kernel
    · decide +kernel
    · decide +kernel
    · decide +kernel
    · decide +kernel
  obtain ⟨path,begins,steps⟩ := stormy_endless stormy
  obtain ⟨n,stops⟩ := ends _ _ _ _ path begins
  exact stops (steps n)

end Network
end Rios.Tcp
