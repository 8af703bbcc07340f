import Rios.Services

/-!
# Served streams

Runs of a host in which segments arrive, the services tick and the timers of the
transport go off, in any order. A ledger notes about one socket what has come
in, what the services have read and handed on, and what the peer has said of its
own side.
-/

namespace Rios.Services
open Rios.Machine Rios.Device Rios.Queue Rios.Tcp

/-! ### Segments and timers, seen from one socket -/

/-- What a segment does to the lane of its socket. -/
inductive Arrived (socket : TcpSocket) (segment : TcpSegment) (now : SimTime) (lane : Lane) :
    Lane × Option TcpSegment → Prop
  | connected {connection : TcpConnection} (present : lane.connection = some connection) :
      Arrived socket segment now lane
        (⟨some (connection.receive socket segment now).1,lane.stream⟩,(connection.receive socket segment now).2)
  | refused (absent : lane.connection = none) {answer : Option TcpSegment}
      (quiet : ∀ reset ∈ answer, reset.flags.contains .FIN = false) : Arrived socket segment now lane (lane,answer)
  | accepted (absent : lane.connection = none) (sequence : UInt32) :
      Arrived socket segment now lane
        (⟨some ((TcpConnection.listening sequence segment now).send socket (TcpFlags.SYN.or .ACK) [] now).1,lane.stream⟩,
          some ((TcpConnection.listening sequence segment now).segment socket (TcpFlags.SYN.or .ACK) []))

/-- What the timers of the transport do to the lane of a socket. -/
inductive Ticked (now : SimTime) (lane : Lane) : Lane × List TcpSegment → Prop
  | absent (none : lane.connection = none) : Ticked now lane (lane,[])
  | expired {connection : TcpConnection} (present : lane.connection = some connection) :
      Ticked now lane (⟨none,lane.stream⟩,[])
  | kept {connection : TcpConnection} (present : lane.connection = some connection) (alive : connection.state ≠ .Closed) :
      Ticked now lane (⟨some (connection.retransmit now).1,lane.stream⟩,(connection.retransmit now).2.toList)

namespace Host
variable (self : Host) (socket : TcpSocket) (segment : TcpSegment) (now : SimTime)

theorem receive_tcp_other {other : TcpSocket} (elsewhere : other ≠ socket) :
    (self.receive_tcp other segment now).1.lane socket = self.lane socket := by
  unfold receive_tcp
  simp only [lane,TcpRuntime.set_endpoint]
  split
  · rw [OrderedMap.get?_erase,if_neg (Ne.symm elsewhere)]
  · rw [OrderedMap.get?_insert,if_neg (Ne.symm elsewhere)]

theorem receive_tcp_lane : Arrived socket segment now (self.lane socket)
    ((self.receive_tcp socket segment now).1.lane socket,(self.receive_tcp socket segment now).2) := by
  have connection : (self.lane socket).connection = self.tcp.connections.get? socket := rfl
  unfold receive_tcp TcpEndpoint.receive_tcp
  cases present : self.tcp.connections.get? socket with
  | some held =>
    simp only [TcpRuntime.endpoint,present,lane,TcpRuntime.set_endpoint,OrderedMap.get?_insert_self]
    exact Arrived.connected (show (⟨some held,self.streams.get? socket⟩ : Lane).connection = some held from rfl)
  | none =>
    have erased : (self.tcp.connections.erase socket).get? socket = none := by
      rw [OrderedMap.get?_erase,if_pos rfl]
    simp only [TcpRuntime.endpoint,present]
    split
    · simp only [lane,TcpRuntime.set_endpoint,erased,present]
      exact .refused rfl (by simp)
    · split
      · simp only [lane,TcpRuntime.set_endpoint,OrderedMap.get?_insert_self,present]
        exact .accepted rfl _
      · simp only [lane,TcpRuntime.set_endpoint,erased,present]
        refine .refused rfl ?_
        intro reset answered
        cases answered
        split
        · exact (by decide : TcpFlags.RST.contains .FIN = false)
        · exact (by decide : (TcpFlags.RST.or .ACK).contains .FIN = false)

theorem tcp_tick_lane : Ticked now (self.lane socket) (({ self with tcp := (self.tcp.tcp_tick now).1 } : Host).lane socket,
    ofSocket socket (self.tcp.tcp_tick now).2) := by
  have lookup : (self.tcp.tcp_tick now).1.connections.get? socket =
      ((self.tcp.connections.retain (fun _ connection => connection.retained now)).get? socket).map
        (fun connection => (connection.retransmit now).1) := by
    simp only [TcpRuntime.tcp_tick,OrderedMap.get?_mapValues]
  have sent : ofSocket socket (self.tcp.tcp_tick now).2 =
      (((self.tcp.connections.retain (fun _ connection => connection.retained now)).get? socket).bind
        (fun connection => (connection.retransmit now).2)).toList :=
    ofSocket_entries socket (self.tcp.connections.retain (fun _ connection => connection.retained now))
      (fun connection => (connection.retransmit now).2)
  rw [OrderedMap.get?_retain] at lookup sent
  simp only [lane,lookup,sent]
  cases present : self.tcp.connections.get? socket with
  | none => exact .absent rfl
  | some connection =>
    by_cases kept : connection.retained now = true
    · simp only [Option.filter_some,kept,if_true,Option.map_some,Option.bind_some]
      refine Ticked.kept (show (⟨some connection,self.streams.get? socket⟩ : Lane).connection = some connection from rfl) ?_
      unfold TcpConnection.retained at kept
      simp only [ne_eq,Bool.and_eq_true,decide_eq_true_eq] at kept
      exact kept.1.1
    · simp only [Option.filter_some,kept,Bool.false_eq_true,if_false,Option.map_none,Option.bind_none,Option.toList_none]
      exact Ticked.expired (show (⟨some connection,self.streams.get? socket⟩ : Lane).connection = some connection from rfl)

end Host

/-- A segment for a connection is what the connection receives. -/
theorem Arrived.connected_lane {socket : TcpSocket} {segment : TcpSegment} {now : SimTime} {lane : Lane}
    {outcome : Lane × Option TcpSegment} {connection : TcpConnection} (arrives : Arrived socket segment now lane outcome)
    (present : lane.connection = some connection) :
    outcome.1.connection = some (connection.receive socket segment now).1 := by
  cases arrives with
  | connected held =>
    cases held.symm.trans present
    rfl
  | refused absent quiet =>
    rw [absent] at present
    cases present
  | accepted absent sequence =>
    rw [absent] at present
    cases present

/-- A segment adds its payload to the receive buffer, or nothing; it adds nothing to a stream that is closed. -/
theorem receive_adds (connection : TcpConnection) (socket : TcpSocket) (segment : TcpSegment) (now : SimTime) :
    ∃ added, (connection.receive socket segment now).1.received = connection.received ++ added ∧
      (added = [] ∨ added = segment.payload ∧ connection.peer_closed = false) ∧
      ((connection.receive socket segment now).1.peer_closed = connection.peer_closed ∨
        connection.peer_closed = false ∧ segment.sequence = connection.receive_next ∧
          (connection.receive socket segment now).1.peer_closed = segment.flags.contains .FIN) := by
  have takes := @TcpConnection.receive_takes connection socket segment now
  cases takes with
  | same next closed received state => exact ⟨[],by rw [received,List.append_nil],.inl rfl,.inl closed⟩
  | opened state flagged unset next closed received established free =>
    exact ⟨[],by rw [received,List.append_nil],.inl rfl,.inl closed⟩
  | taken live state unset expected unclosed next received closed halves last =>
    exact ⟨segment.payload,received,.inr ⟨rfl,unclosed⟩,.inr ⟨unclosed,expected,closed⟩⟩

/-! ### Runs -/

/-- What happens to a host: segments arrive, and the services and the timers go on. -/
inductive Event where
  | receive (socket : TcpSocket) (segment : TcpSegment) (now : SimTime)
  | pump (now : SimTime)
  | timer (now : SimTime)

/-- What is known of the connection of a socket: the bytes that have come in, those that the services have handed
    to the transport, how many of these were handed on when the peer last acknowledged all of them, whether a FIN
    of the peer has come in sequence, and the bytes of each read. -/
structure Ledger where
  taken : List UInt8
  handed : List UInt8
  acknowledged : Nat
  finished : Bool
  reads : List (List UInt8)
deriving DecidableEq

namespace Ledger

/-- The ledger of a new connection. -/
def new : Ledger := ⟨[],[],0,false,[]⟩

/-- The bytes in the receive buffer of a lane. -/
def buffer (lane : Lane) : List UInt8 := (lane.connection.map (·.received)).getD []

/-- A segment has changed the lane. -/
def arrive (self : Ledger) (before : Lane) (segment : TcpSegment) (after : Lane) : Ledger :=
  match before.connection with
  | none => new
  | some connection =>
    { self with
      taken := self.taken ++ (buffer after).drop connection.received.length
      acknowledged :=
        if segment.flags.contains .ACK ∧ segment.acknowledgment = connection.send_next then self.handed.length
        else self.acknowledged
      finished := self.finished || (segment.flags.contains .FIN && segment.sequence == connection.receive_next) }

/-- The services have changed the lane and sent segments. -/
def serve (self : Ledger) (before after : Lane) (sent : List TcpSegment) : Ledger :=
  { self with
    handed := self.handed ++ sent.flatMap (·.payload)
    reads := if buffer before ≠ [] ∧ buffer after = [] then self.reads ++ [buffer before] else self.reads }

end Ledger

/-- What a segment adds to the receive buffer is noted as having come in. -/
theorem arrive_connected (ledger : Ledger) {lane after : Lane} {connection next : TcpConnection} (segment : TcpSegment)
    {added : List UInt8} (present : lane.connection = some connection) (later : after.connection = some next)
    (received : next.received = connection.received ++ added) : ledger.arrive lane segment after =
      { ledger with
        taken := ledger.taken ++ added
        acknowledged :=
          if segment.flags.contains .ACK ∧ segment.acknowledgment = connection.send_next then ledger.handed.length
          else ledger.acknowledged
        finished := ledger.finished || (segment.flags.contains .FIN && segment.sequence == connection.receive_next) } := by
  simp only [Ledger.arrive,present,Ledger.buffer,later,Option.map_some,Option.getD_some,received,List.drop_left]

/-- A host under observation, with the ledger of one socket. -/
structure Watch where
  host : Host
  ledger : Ledger

namespace Watch
variable (socket : TcpSocket)

def lane (self : Watch) : Lane := self.host.lane socket

/-- An event, and the segments that it sends at the socket. -/
def apply (self : Watch) : Event → Watch × List TcpSegment
  | .receive other segment now =>
    let received := self.host.receive_tcp other segment now
    if other = socket then
      (⟨received.1,self.ledger.arrive (self.lane socket) segment (received.1.lane socket)⟩,received.2.toList)
    else (⟨received.1,self.ledger⟩,[])
  | .pump now =>
    let served := self.host.service_tcp_tick now
    let sent := ofSocket socket served.2
    (⟨served.1,self.ledger.serve (self.lane socket) (served.1.lane socket) sent⟩,sent)
  | .timer now =>
    let ticked := self.host.tcp.tcp_tick now
    let host := { self.host with tcp := ticked.1 }
    let timed := self.host.tcp_timer now
    let sent := ofSocket socket timed.2.2
    (⟨timed.1,self.ledger.serve (host.lane socket) (timed.1.lane socket) sent⟩,ofSocket socket timed.2.1 ++ sent)

/-- The state after a run. -/
def run (host : Host) (events : List Event) : Watch :=
  events.foldl (fun watch event => (watch.apply socket event).1) ⟨host,.new⟩

theorem run_snoc (host : Host) (events : List Event) (event : Event) :
    run socket host (events ++ [event]) = ((run socket host events).apply socket event).1 := by
  unfold run
  rw [List.foldl_concat]

end Watch

/-! ### What an event does to one socket -/

/-- What an event does to the lane and the ledger of a socket, and the segments that it sends there. -/
inductive LaneStep (service : Option ServiceConfig) (socket : TcpSocket) (lane : Lane) (ledger : Ledger) :
    Lane → Ledger → List TcpSegment → Prop
  | elsewhere : LaneStep service socket lane ledger lane ledger []
  | arrived {segment : TcpSegment} {now : SimTime} {outcome : Lane × Option TcpSegment}
      (arrives : Arrived socket segment now lane outcome) :
      LaneStep service socket lane ledger outcome.1 (ledger.arrive lane segment outcome.1) outcome.2.toList
  | pumped {now : SimTime} {outcome : Lane × List TcpSegment} (pumps : Pumped service socket now lane outcome) :
      LaneStep service socket lane ledger outcome.1 (ledger.serve lane outcome.1 outcome.2) outcome.2
  | timed {now : SimTime} {middle outcome : Lane × List TcpSegment} (ticks : Ticked now lane middle)
      (pumps : Pumped service socket now middle.1 outcome) :
      LaneStep service socket lane ledger outcome.1 (ledger.serve middle.1 outcome.1 outcome.2) (middle.2 ++ outcome.2)

namespace Watch
variable (socket : TcpSocket)

theorem apply_step (self : Watch) (event : Event) :
    LaneStep (self.host.service socket.local_port) socket (self.lane socket) self.ledger
        ((self.apply socket event).1.lane socket) (self.apply socket event).1.ledger (self.apply socket event).2 ∧
      (self.apply socket event).1.host.definitions = self.host.definitions := by
  cases event with
  | receive other segment now =>
    have kept : (self.host.receive_tcp other segment now).1.definitions = self.host.definitions := rfl
    by_cases here : other = socket
    · subst here
      simp only [apply,if_true]
      exact ⟨.arrived (self.host.receive_tcp_lane other segment now),kept⟩
    · simp only [apply,if_neg here,lane,self.host.receive_tcp_other socket segment now here]
      exact ⟨.elsewhere,kept⟩
  | pump now =>
    obtain ⟨outcome,pumps,lane,sent⟩ := self.host.service_tcp_tick_lane socket now
    simp only [apply,Watch.lane,lane,sent]
    exact ⟨.pumped pumps,self.host.service_tcp_tick_definitions now⟩
  | timer now =>
    have ticks := self.host.tcp_tick_lane socket now
    obtain ⟨outcome,pumps,lane,sent⟩ := ({ self.host with tcp := (self.host.tcp.tcp_tick now).1 } : Host).service_tcp_tick_lane socket now
    simp only [apply,Watch.lane,Host.tcp_timer,lane,sent]
    exact ⟨.timed ticks pumps,Host.service_tcp_tick_definitions _ now⟩

/-- What the steps of a socket preserve holds after every run. -/
theorem run_rule {service : Option ServiceConfig} {I : Lane → Ledger → Prop}
    (preserved : ∀ {lane ledger lane' ledger' sent}, I lane ledger →
      LaneStep service socket lane ledger lane' ledger' sent → I lane' ledger')
    (host : Host) (offered : host.service socket.local_port = service) (start : I (host.lane socket) .new)
    (events : List Event) :
    I ((run socket host events).lane socket) (run socket host events).ledger ∧
      (run socket host events).host.service socket.local_port = service := by
  induction events using List.reverseRecOn with
  | nil => exact ⟨start,offered⟩
  | append_singleton events event ih =>
    obtain ⟨holds,before⟩ := ih
    obtain ⟨step,definitions⟩ := (run socket host events).apply_step socket event
    rw [before] at step
    rw [run_snoc]
    refine ⟨preserved holds step,?_⟩
    rw [Host.service,definitions]
    exact before

end Watch

end Rios.Services
