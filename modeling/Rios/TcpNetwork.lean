import Rios.Tcp

/-!
# Two TCP endpoints over a network

An active and a passive endpoint of one pair of sockets, and the segments in
flight between them. The network loses, delays, reorders and duplicates, but
does not forge. Beside the endpoints stands what their applications have seen.
-/

namespace Rios.Tcp
open Rios.Device Rios.Queue

inductive Side where
  | active
  | passive
deriving DecidableEq

/-- The value of each side. -/
def Side.pair {α : Type} (active passive : α) : Side → α
  | .active => active
  | .passive => passive

def Side.other : Side → Side
  | .active => .passive
  | .passive => .active

/-- One side: its endpoint, the bytes that `tcp_send` took and `tcp_read` gave, and
    all bytes that came into the receive buffer; how many sequence numbers its
    segments occupy, how many connections it opened, and whether one of them has
    taken the SYN of its peer. -/
structure Party where
  endpoint : TcpEndpoint
  sent : List UInt8
  read : List UInt8
  stream : List UInt8
  used : Nat
  opened : Nat
  joined : Bool

namespace Party

/-- The receive buffer. -/
def buffer (self : Party) : List UInt8 := (self.endpoint.connection.map (·.received)).getD []

def connect (self : Party) (socket : TcpSocket) (now : SimTime) : Party × Option TcpSegment :=
  match self.endpoint.tcp_connect socket now with
  | .error _ => (self,none)
  | .ok (endpoint,syn) =>
    ({ self with endpoint := endpoint, used := self.used + syn.sequence_len.toNat, opened := self.opened + 1 },some syn)

def send (self : Party) (socket : TcpSocket) (payload : List UInt8) (now : SimTime) : Party × Option TcpSegment :=
  match self.endpoint.tcp_send socket payload now with
  | .error _ => (self,none)
  | .ok (endpoint,segment) =>
    ({ self with endpoint := endpoint, sent := self.sent ++ payload, used := self.used + segment.sequence_len.toNat },
      some segment)

def close (self : Party) (socket : TcpSocket) (now : SimTime) : Party × Option TcpSegment :=
  match self.endpoint.tcp_close socket now with
  | .error _ => (self,none)
  | .ok (endpoint,segment) =>
    ({ self with endpoint := endpoint, used := self.used + segment.sequence_len.toNat },some segment)

def drain (self : Party) (socket : TcpSocket) : Party × Option TcpSegment :=
  match self.endpoint.tcp_read socket with
  | .error _ => (self,none)
  | .ok (endpoint,bytes,update) => ({ self with endpoint := endpoint, read := self.read ++ bytes },some update)

def tick (self : Party) (now : SimTime) : Party × Option TcpSegment :=
  let ticked := self.endpoint.tcp_tick now
  ({ self with endpoint := ticked.1 },ticked.2)

def receive (self : Party) (socket : TcpSocket) (segment : TcpSegment) (now : SimTime) : Party × Option TcpSegment :=
  let received := self.endpoint.receive_tcp socket segment now
  let party := { self with endpoint := received.1 }
  match self.endpoint.connection with
  | some connection =>
    ({ party with
        stream := self.stream ++ party.buffer.drop connection.received.length,
        joined := self.joined || (connection.state = .SynSent && received.1.connection.any (·.state = .Established)) },
      received.2)
  | none =>
    if received.1.connection.isSome then
      ({ party with used := self.used + 1, opened := self.opened + 1, joined := true },received.2)
    else (party,received.2)

end Party

/-- The parties, and the segments in flight with their destinations. -/
structure Network where
  party : Side → Party
  flight : List (Side × TcpSegment)

/-- The calls of the applications, the timers and the network. -/
inductive Operation where
  | send (side : Side) (payload : List UInt8) (now : SimTime)
  | read (side : Side)
  | close (side : Side) (now : SimTime)
  | tick (side : Side) (now : SimTime)
  | deliver (index : Nat) (now : SimTime)
  | lose (index : Nat)
  | duplicate (index : Nat)

variable (sockets : Side → TcpSocket)

namespace Network

/-- A party after a call, and the segment that it puts in flight. -/
def put (self : Network) (side : Side) (called : Party × Option TcpSegment) : Network :=
  ⟨Function.update self.party side called.1,self.flight ++ called.2.toList.map (side.other,·)⟩

def apply (self : Network) : Operation → Network
  | .send side payload now => self.put side ((self.party side).send (sockets side) payload now)
  | .read side => self.put side ((self.party side).drain (sockets side))
  | .close side now => self.put side ((self.party side).close (sockets side) now)
  | .tick side now => self.put side ((self.party side).tick now)
  | .deliver index now =>
    match self.flight[index]? with
    | none => self
    | some (side,segment) =>
      { self with flight := self.flight.eraseIdx index }.put side
        ((self.party side).receive (sockets side) segment now)
  | .lose index => { self with flight := self.flight.eraseIdx index }
  | .duplicate index => { self with flight := self.flight ++ self.flight[index]?.toList }

/-- A side without a connection. -/
def idle (listening : Bool) (sequence : UInt32) : Party := ⟨⟨none,listening,sequence⟩,[],[],[],0,0,false⟩

/-- The passive side listens, and the active one has begun to connect. -/
def initial (sequence : Side → UInt32) (now : SimTime) : Network :=
  (Network.mk (fun side => idle (side = .passive) (sequence side)) []).put .active
    ((idle false (sequence .active)).connect (sockets .active) now)

/-- The network after a run. -/
def run (sequence : Side → UInt32) (start : SimTime) (operations : List Operation) : Network :=
  operations.foldl (apply sockets) (initial sockets sequence start)

/-- A segment in flight is delivered. -/
def Delivers (network next : Network) : Prop :=
  ∃ index now, index < network.flight.length ∧ next = network.apply sockets (.deliver index now)

/-- The connection of a side. -/
def connection (self : Network) (side : Side) : Option TcpConnection := (self.party side).endpoint.connection

end Network

/-! ### What every reachable network satisfies -/

namespace TcpConnection

variable {self : TcpConnection} {socket : TcpSocket} {segment : TcpSegment} {now : SimTime}

/-- A segment in sequence only lets the buffer grow to its limit. -/
theorem accept_bounded (bounded : self.received.length ≤ RECEIVE_LIMIT) :
    (self.accept socket segment now).1.received.length ≤ RECEIVE_LIMIT := by
  have accepted := self.accept_cases socket segment now
  generalize self.accept socket segment now = outcome at accepted
  cases accepted with
  | closed done => exact bounded
  | full live exceeds => exact bounded
  | taken live fits unfinished => simpa [extend,noted] using fits
  | finished live fits fin => simpa [extend,noted] using fits

theorem receive_bounded (bounded : self.received.length ≤ RECEIVE_LIMIT) :
    (self.receive socket segment now).1.received.length ≤ RECEIVE_LIMIT := by
  have received := self.receive_cases socket segment now
  generalize self.receive socket segment now = outcome at received
  cases received with
  | waiting state same =>
    rcases same with rfl | rfl
    · exact bounded
    · exact bounded
  | opened state flagged acknowledged established =>
    rw [established]
    exact bounded
  | acknowledged state lives unset expected flagged acknowledged =>
    refine accept_bounded ?_
    rw [acknowledge_received]
    exact bounded
  | unacknowledged state opened unset expected flagged waits => exact accept_bounded bounded
  | _ => exact bounded

/-- A segment in sequence opens no connection. -/
theorem accept_state (waits : self.state ≠ .SynReceived) : (self.accept socket segment now).1.state ≠ .SynReceived := by
  have accepted := self.accept_cases socket segment now
  generalize self.accept socket segment now = outcome at accepted
  cases accepted with
  | finished live fits fin =>
    rcases @finish_state ((self.noted segment now).extend segment) now with
      ⟨state,-⟩ | ⟨-,-,state⟩ | ⟨-,-,state⟩
    all_goals
      simp only
      rw [state]
      simp
  | _ => exact waits

theorem receive_state (waits : self.state ≠ .SynReceived) : (self.receive socket segment now).1.state ≠ .SynReceived := by
  have received := self.receive_cases socket segment now
  generalize self.receive socket segment now = outcome at received
  cases received with
  | reset flagged => simp
  | waiting state same =>
    rcases same with rfl | rfl
    · exact waits
    · simp [enter_time_wait]
  | opened state flagged acknowledged established => simp [established]
  | last state expected acknowledged => simp
  | acknowledged state lives unset expected flagged acknowledged =>
    refine accept_state ?_
    rcases @acknowledge_state self now waits with same | ⟨-,-,closing⟩
    · rw [same]
      exact waits
    · simp [closing]
  | unacknowledged state opened unset expected flagged acknowledged => exact accept_state waits
  | _ => exact waits

theorem retransmit_received : (self.retransmit now).1.received = self.received := by
  unfold retransmit
  split
  · rfl
  · split
    · rfl
    · split <;> rfl

theorem retransmit_state : (self.retransmit now).1.state = self.state ∨ (self.retransmit now).1.state = .Closed := by
  unfold retransmit
  split
  · exact .inl rfl
  · split
    · exact .inl rfl
    · split
      · exact .inr rfl
      · exact .inl rfl

end TcpConnection

/-- The receive buffer is bounded, and the active side never listens. -/
structure Party.Regular (side : Side) (party : Party) : Prop where
  bounded : ∀ connection ∈ party.endpoint.connection, connection.received.length ≤ RECEIVE_LIMIT
  opening : side = .active → ∀ connection ∈ party.endpoint.connection, connection.state ≠ .SynReceived
  deaf : side = .active → party.endpoint.listening = false

namespace Party

variable {side : Side} {party : Party} {socket : TcpSocket} {now : SimTime}

/-- A call that leaves a regular connection. -/
theorem Regular.replace (regular : Regular side party) {next : Party} {connection : TcpConnection}
    (replaced : next.endpoint.connection = some connection) (bounded : connection.received.length ≤ RECEIVE_LIMIT)
    (opening : side = .active → connection.state ≠ .SynReceived)
    (listening : next.endpoint.listening = party.endpoint.listening) : Regular side next := by
  refine ⟨?_,?_,?_⟩
  · intro other member
    rw [replaced] at member
    cases member
    exact bounded
  · intro isActive other member
    rw [replaced] at member
    cases member
    exact opening isActive
  · intro isActive
    rw [listening]
    exact regular.deaf isActive

/-- What `send` does, if it does anything. -/
theorem send_cases (party : Party) (socket : TcpSocket) (payload : List UInt8) (now : SimTime) :
    party.send socket payload now = (party,none) ∨ ∃ connection, party.endpoint.connection = some connection ∧
      payload ≠ [] ∧ payload.length ≤ MAX_PAYLOAD ∧ (connection.state = .Established ∨ connection.state = .CloseWait) ∧
      connection.outstanding = none ∧ payload.length ≤ connection.peer_window.toNat ∧
      party.send socket payload now = ({ party with
        endpoint := { party.endpoint with connection := some (connection.send socket (TcpFlags.ACK.or .PSH) payload now).1 },
        sent := party.sent ++ payload,
        used := party.used + (connection.segment socket (TcpFlags.ACK.or .PSH) payload).sequence_len.toNat },
          some (connection.segment socket (TcpFlags.ACK.or .PSH) payload)) := by
  simp only [send,TcpEndpoint.tcp_send]
  by_cases size : payload = [] ∨ MAX_PAYLOAD < payload.length
  · rw [if_pos size]
    exact .inl rfl
  rw [if_neg size]
  rw [not_or,not_lt] at size
  cases present : party.endpoint.connection with
  | none => exact .inl rfl
  | some connection =>
    simp only
    by_cases idle : ¬ (connection.state = .Established ∨ connection.state = .CloseWait)
    · rw [if_pos idle]
      exact .inl rfl
    rw [if_neg idle]
    by_cases busy : connection.outstanding.isSome = true ∨ connection.peer_window.toNat < payload.length
    · rw [if_pos busy]
      exact .inl rfl
    rw [if_neg busy]
    rw [not_or,not_lt] at busy
    exact .inr ⟨connection,rfl,size.1,size.2,not_not.mp idle,by simpa using busy.1,busy.2,rfl⟩

/-- What `close` does, if it does anything. -/
theorem close_cases (party : Party) (socket : TcpSocket) (now : SimTime) :
    party.close socket now = (party,none) ∨ ∃ connection state, party.endpoint.connection = some connection ∧
      connection.outstanding = none ∧
      (connection.state = .Established ∧ state = .FinWait ∨ connection.state = .CloseWait ∧ state = .LastAck) ∧
      party.close socket now = ({ party with
        endpoint := { party.endpoint with
          connection := some ({ connection with state := state }.send socket (TcpFlags.ACK.or .FIN) [] now).1 },
        used := party.used + (connection.segment socket (TcpFlags.ACK.or .FIN) []).sequence_len.toNat },
          some (connection.segment socket (TcpFlags.ACK.or .FIN) [])) := by
  simp only [close,TcpEndpoint.tcp_close]
  cases present : party.endpoint.connection with
  | none => exact .inl rfl
  | some connection =>
    simp only
    by_cases busy : connection.outstanding.isSome = true
    · rw [if_pos busy]
      exact .inl rfl
    rw [if_neg busy]
    have free : connection.outstanding = none := by simpa using busy
    cases current : connection.state with
    | Established => exact .inr ⟨connection,.FinWait,rfl,free,.inl ⟨current,rfl⟩,rfl⟩
    | CloseWait => exact .inr ⟨connection,.LastAck,rfl,free,.inr ⟨current,rfl⟩,rfl⟩
    | _ => exact .inl rfl

/-- What `drain` does, if it does anything. -/
theorem drain_cases (party : Party) (socket : TcpSocket) :
    party.drain socket = (party,none) ∨ ∃ connection, party.endpoint.connection = some connection ∧
      party.drain socket = ({ party with
        endpoint := { party.endpoint with connection := some { connection with received := [] } },
        read := party.read ++ connection.received },some ({ connection with received := [] }.segment socket .ACK [])) := by
  simp only [drain,TcpEndpoint.tcp_read]
  cases present : party.endpoint.connection with
  | none => exact .inl rfl
  | some connection => exact .inr ⟨connection,rfl,rfl⟩

/-- What `tick` does, if it does anything. -/
theorem tick_cases (party : Party) (now : SimTime) :
    party.tick now = (party,none) ∨ ∃ connection, party.endpoint.connection = some connection ∧
      (party.tick now = ({ party with endpoint := { party.endpoint with connection := none } },none) ∨
        party.tick now = ({ party with
          endpoint := { party.endpoint with connection := some (connection.retransmit now).1 } },
            (connection.retransmit now).2)) := by
  simp only [tick,TcpEndpoint.tcp_tick]
  cases present : party.endpoint.connection with
  | none =>
    refine .inl ?_
    cases party
    cases ‹TcpEndpoint›
    cases present
    rfl
  | some connection =>
    refine .inr ⟨connection,rfl,?_⟩
    simp only
    split
    · exact .inr rfl
    · exact .inl rfl

theorem send_regular (regular : Regular side party) (payload : List UInt8) :
    Regular side (party.send socket payload now).1 := by
  rcases party.send_cases socket payload now with same | ⟨connection,present,-,-,state,-,-,sent⟩
  · rw [same]
    exact regular
  · rw [sent]
    refine regular.replace rfl (regular.bounded connection present) (fun isActive => ?_) rfl
    exact regular.opening isActive connection present

theorem close_regular (regular : Regular side party) : Regular side (party.close socket now).1 := by
  rcases party.close_cases socket now with same | ⟨connection,state,present,-,either,closed⟩
  · rw [same]
    exact regular
  · rw [closed]
    refine regular.replace rfl (regular.bounded connection present) (fun isActive => ?_) rfl
    rcases either with ⟨-,rfl⟩ | ⟨-,rfl⟩
    · simp [TcpConnection.send]
    · simp [TcpConnection.send]

theorem drain_regular (regular : Regular side party) : Regular side (party.drain socket).1 := by
  rcases party.drain_cases socket with same | ⟨connection,present,drained⟩
  · rw [same]
    exact regular
  · rw [drained]
    exact regular.replace rfl (Nat.zero_le _) (fun isActive => regular.opening isActive connection present) rfl

theorem tick_regular (regular : Regular side party) : Regular side (party.tick now).1 := by
  rcases party.tick_cases now with same | ⟨connection,present,removed | kept⟩
  · rw [same]
    exact regular
  · rw [removed]
    exact ⟨fun _ member => absurd member (by simp),fun _ _ member => absurd member (by simp),regular.deaf⟩
  · rw [kept]
    refine regular.replace rfl ?_ (fun isActive => ?_) rfl
    · rw [TcpConnection.retransmit_received]
      exact regular.bounded connection present
    · rcases @TcpConnection.retransmit_state connection now with same | closed
      · rw [same]
        exact regular.opening isActive connection present
      · simp [closed]

theorem receive_some {segment : TcpSegment} {connection : TcpConnection}
    (present : party.endpoint.connection = some connection) :
    party.receive socket segment now = ({ party with
      endpoint := { party.endpoint with connection := some (connection.receive socket segment now).1 },
      stream := party.stream ++ (connection.receive socket segment now).1.received.drop connection.received.length,
      joined := party.joined ||
        (connection.state = .SynSent && (connection.receive socket segment now).1.state = .Established) },
        (connection.receive socket segment now).2) := by
  simp only [receive,TcpEndpoint.receive_tcp,present]
  rfl

/-- A missing connection answers everything but a reset, with a SYN-ACK or a reset. -/
theorem receive_none {segment : TcpSegment} (missing : party.endpoint.connection = none) :
    (segment.flags.contains .RST = true ∧ party.receive socket segment now = (party,none)) ∨
    (segment.flags.contains .RST = false ∧ segment.flags = .SYN ∧ party.endpoint.listening = true ∧
      party.receive socket segment now = ({ party with
        endpoint := { party.endpoint with
          connection := some ((TcpConnection.listening (party.endpoint.next_sequence + 64000) segment now).send socket
            (TcpFlags.SYN.or .ACK) [] now).1,
          next_sequence := party.endpoint.next_sequence + 64000 },
        used := party.used + 1,
        opened := party.opened + 1,
        joined := true },
          some ((TcpConnection.listening (party.endpoint.next_sequence + 64000) segment now).segment socket
            (TcpFlags.SYN.or .ACK) []))) ∨
    segment.flags.contains .RST = false ∧ ∃ reset, (reset.flags.contains .RST = true ∧ reset.flags.contains .SYN = false) ∧
      party.receive socket segment now = (party,some reset) := by
  simp only [receive,TcpEndpoint.receive_tcp,missing]
  by_cases flagged : segment.flags.contains .RST = true
  · rw [if_pos flagged]
    exact .inl ⟨flagged,by simp [missing]⟩
  rw [if_neg flagged]
  have unset := Bool.eq_false_iff.mpr flagged
  by_cases begins : segment.flags = .SYN ∧ party.endpoint.listening = true
  · rw [if_pos begins]
    refine .inr (.inl ⟨unset,begins.1,begins.2,?_⟩)
    simp only [Option.isSome_some,if_true,TcpEndpoint.tcp_initial_sequence,TcpConnection.send_segment]
  · rw [if_neg begins]
    simp only [missing,Option.isSome_none,Bool.false_eq_true,if_false]
    refine .inr (.inr ⟨unset,_,?_,rfl⟩)
    split
    · rw [TcpConnection.segment_flags]
      decide
    · have both : (TcpFlags.RST.or .ACK).contains .RST = true ∧ (TcpFlags.RST.or .ACK).contains .SYN = false := by decide
      exact both

theorem receive_regular (regular : Regular side party) (segment : TcpSegment) :
    Regular side (party.receive socket segment now).1 := by
  cases present : party.endpoint.connection with
  | some connection =>
    rw [receive_some present]
    exact regular.replace rfl (TcpConnection.receive_bounded (regular.bounded connection present))
      (fun isActive => TcpConnection.receive_state (regular.opening isActive connection present)) rfl
  | none =>
    rcases @receive_none party socket now segment present with ⟨-,same⟩ | ⟨-,-,listens,same⟩ | ⟨-,reset,-,same⟩
    · rw [same]
      exact regular
    · rw [same]
      refine regular.replace rfl ?_ (fun isActive => absurd listens (by simp [regular.deaf isActive])) ?_
      · exact Nat.zero_le _
      · simp only
    · rw [same]
      exact regular

end Party

namespace Network

variable {sockets} {network : Network}

theorem other_other (side : Side) : side.other.other = side := by cases side <;> rfl

theorem eq_or_other (place side : Side) : place = side ∨ place = side.other := by
  cases place <;> cases side <;> simp [Side.other]

/-- Both sides are regular. -/
def Regular (network : Network) : Prop := ∀ side, (network.party side).Regular side

theorem put_regular (regular : network.Regular) {side : Side} {called : Party × Option TcpSegment}
    (kept : called.1.Regular side) : (network.put side called).Regular := by
  intro other
  by_cases same : other = side
  · subst same
    simpa [put] using kept
  · simpa [put,same] using regular other

theorem apply_regular (regular : network.Regular) (operation : Operation) : (network.apply sockets operation).Regular := by
  cases operation with
  | send side payload now => exact put_regular regular (Party.send_regular (regular side) payload)
  | read side => exact put_regular regular (Party.drain_regular (regular side))
  | close side now => exact put_regular regular (Party.close_regular (regular side))
  | tick side now => exact put_regular regular (Party.tick_regular (regular side))
  | deliver index now =>
    unfold apply
    simp only
    split
    · exact regular
    · rename_i side segment found
      exact @put_regular { network with flight := network.flight.eraseIdx index } regular _ _
        (Party.receive_regular (regular side) segment)
  | lose index => exact regular
  | duplicate index => exact regular

theorem run_regular (sequence : Side → UInt32) (start : SimTime) (operations : List Operation) :
    (run sockets sequence start operations).Regular := by
  unfold run
  induction operations using List.reverseRecOn with
  | nil =>
    refine put_regular (fun side => ⟨?_,?_,?_⟩) ⟨?_,?_,?_⟩
    · intro connection member
      cases member
    · intro isActive connection member
      cases member
    · intro isActive
      simp [idle,isActive]
    · intro connection member
      cases member
      exact Nat.zero_le _
    · intro isActive connection member
      cases member
      simp [TcpConnection.send]
    · intro isActive
      rfl
  | append_singleton operations operation ih =>
    rw [List.foldl_append]
    exact apply_regular ih operation

end Network
end Rios.Tcp
