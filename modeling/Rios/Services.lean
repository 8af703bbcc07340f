import Rios.Http
import Rios.TcpStream
import Rios.TcpRuntime

/-!
# Host services

Applications that a host serves over the streams it has accepted. A tick visits
the passive connections in the order of their sockets: it reads what has come in
once the output of before is gone, and hands on as much output as the connection
takes. What a tick does to one socket depends on that socket only.
-/

namespace Rios.Services
open Rios.Machine Rios.Device Rios.Queue Rios.Tcp

/-- Installed lab applications, as far as streams need them. -/
inductive ServiceConfig where
  | Dns (port : UInt16)
  | Ntp (port : UInt16)
  | UdpEcho (port : UInt16)
  | TcpEcho (port : UInt16)
  | Http (port : UInt16) (body : List UInt8)
deriving DecidableEq

/-- Configured transport port. -/
def ServiceConfig.port : ServiceConfig → UInt16
  | .UdpEcho port | .TcpEcho port | .Http port _ | .Dns port | .Ntp port => port

/-- Whether this application accepts TCP streams. -/
def ServiceConfig.is_tcp : ServiceConfig → Bool
  | .TcpEcho _ | .Http _ _ => true
  | _ => false

structure Stream where
  input : List UInt8
  output : List UInt8
  close : Bool
deriving DecidableEq

def Stream.default : Stream := ⟨[],[],false⟩

/-- What a service does with bytes that it has read. -/
def Stream.take (self : Stream) (service : ServiceConfig) (bytes : List UInt8) : Stream :=
  match service with
  | .TcpEcho _ => { self with output := self.output ++ bytes }
  | .Http _ body =>
    let input := if 8192 < self.input.length + bytes.length then List.replicate 8193 88 else self.input ++ bytes
    match Http.response input body with
    | some response => { input := [], output := self.output ++ response, close := true }
    | none => { self with input := input }
  | _ => self

/-- The first half of a visit: what has come in is read, once the output of before is gone. -/
def serve_read (service : ServiceConfig) (socket : TcpSocket) (received : Nat) (endpoint : TcpEndpoint) (stream : Stream) :
    TcpEndpoint × Stream × List TcpSegment :=
  if !stream.close && stream.output.isEmpty && decide (0 < received) then
    match endpoint.tcp_read socket with
    | .ok (endpoint,bytes,ack) => (endpoint,stream.take service bytes,[ack])
    | .error _ => (endpoint,stream,[])
  else (endpoint,stream,[])

/-- The second half: output is handed on, or the stream closed, with the capacity from before the first half. -/
def serve_write (socket : TcpSocket) (now : SimTime) (state : TcpState) (capacity : Nat) (endpoint : TcpEndpoint)
    (stream : Stream) : TcpEndpoint × Stream × List TcpSegment :=
  if 0 < capacity ∧ stream.output ≠ [] then
    let length := min capacity stream.output.length
    match endpoint.tcp_send socket (stream.output.take length) now with
    | .ok (endpoint,packet) => (endpoint,{ stream with output := stream.output.drop length },[packet])
    | .error _ => (endpoint,stream,[])
  else if 0 < capacity ∧ (stream.close = true ∨ state = .CloseWait) then
    match endpoint.tcp_close socket now with
    | .ok (endpoint,fin) => (endpoint,stream,[fin])
    | .error _ => (endpoint,stream,[])
  else (endpoint,stream,[])

/-- The visit of a connection, as it was when the tick began. -/
def serve (service : ServiceConfig) (socket : TcpSocket) (now : SimTime) (connection : TcpConnection)
    (endpoint : TcpEndpoint) (stream : Stream) : TcpEndpoint × Stream × List TcpSegment :=
  let read := serve_read service socket connection.received.length endpoint stream
  let written := serve_write socket now connection.state connection.send_capacity read.1 read.2.1
  (written.1,written.2.1,read.2.2 ++ written.2.2)

/-- A host with its transport and its services. -/
structure Host where
  tcp : TcpRuntime
  definitions : List ServiceConfig
  streams : OrderedMap TcpSocket Stream

namespace Host

/-- The service that accepts the streams of a port. -/
def service (self : Host) (port : UInt16) : Option ServiceConfig :=
  self.definitions.find? (fun service => service.is_tcp && service.port == port)

/-- The loop of `service_tcp_tick`, for one connection. -/
def visit (now : SimTime) (result : Host × List (TcpSocket × TcpSegment)) (entry : TcpSocket × TcpConnection) :
    Host × List (TcpSocket × TcpSegment) :=
  match result.1.service entry.1.local_port with
  | none => result
  | some service =>
    let served := serve service entry.1 now entry.2 (result.1.tcp.endpoint entry.1)
      ((result.1.streams.get? entry.1).getD .default)
    ({ result.1 with
        tcp := result.1.tcp.set_endpoint entry.1 served.1, streams := result.1.streams.insert entry.1 served.2.1 },
      result.2 ++ served.2.2.map (entry.1,·))

/-- Whether a service may work on a connection. -/
def served (connection : TcpConnection) : Bool :=
  connection.passive && (connection.state == .Established || connection.state == .CloseWait)

/-- Advance accepted application streams with explicit backpressure. -/
def service_tcp_tick (self : Host) (now : SimTime) : Host × List (TcpSocket × TcpSegment) :=
  let streams := self.streams.retain (fun socket _ => self.tcp.connections.contains socket)
  (self.tcp.connections.entries.filter (fun entry => served entry.2)).foldl (visit now) ({ self with streams := streams },[])

/-- Process an addressed segment; a listener accepts as long as there is room for a connection. -/
def receive_tcp (self : Host) (socket : TcpSocket) (segment : TcpSegment) (now : SimTime) :
    Host × Option TcpSegment :=
  let endpoint := self.tcp.endpoint socket
  let received := { endpoint with
    listening := endpoint.listening && decide (self.tcp.connections.size < MAX_CONNECTIONS) }.receive_tcp socket segment now
  ({ self with tcp := self.tcp.set_endpoint socket received.1 },received.2)

/-- `tcp_timer`: the timers of the transport, and what the services do behind them. -/
def tcp_timer (self : Host) (now : SimTime) : Host × List (TcpSocket × TcpSegment) × List (TcpSocket × TcpSegment) :=
  let ticked := self.tcp.tcp_tick now
  let served := { self with tcp := ticked.1 }.service_tcp_tick now
  (served.1,ticked.2,served.2)

end Host

/-! ### One socket -/

/-- What a host holds for one socket. -/
structure Lane where
  connection : Option TcpConnection
  stream : Option Stream
deriving DecidableEq

namespace Host

/-- The lane of a socket. -/
def lane (self : Host) (socket : TcpSocket) : Lane := ⟨self.tcp.connections.get? socket,self.streams.get? socket⟩

end Host

/-- The segments of one socket among those of all. -/
def ofSocket (socket : TcpSocket) (packets : List (TcpSocket × TcpSegment)) : List TcpSegment :=
  packets.filterMap (fun packet => if packet.1 = socket then some packet.2 else none)

theorem ofSocket_append (socket : TcpSocket) (packets others : List (TcpSocket × TcpSegment)) :
    ofSocket socket (packets ++ others) = ofSocket socket packets ++ ofSocket socket others := by
  unfold ofSocket
  exact List.filterMap_append

theorem ofSocket_map (socket other : TcpSocket) (segments : List TcpSegment) :
    ofSocket socket (segments.map (other,·)) = if other = socket then segments else [] := by
  unfold ofSocket
  rw [List.filterMap_map]
  by_cases same : other = socket
  · rw [if_pos same]
    simp [same]
  · rw [if_neg same]
    simp [same]

/-- What the entries of a map send at one socket is what its value there sends. -/
theorem ofSocket_entries {α : Type} (socket : TcpSocket) (connections : OrderedMap TcpSocket α)
    (send : α → Option TcpSegment) :
    ofSocket socket (connections.entries.filterMap (fun entry => (send entry.2).map (entry.1,·))) =
      ((connections.get? socket).bind send).toList := by
  have list : ∀ entries : List (TcpSocket × α), (entries.map (·.1)).Nodup →
      entries.filterMap (fun entry => if entry.1 = socket then send entry.2 else none) =
        ((OrderedMap.lookupEntry socket entries).bind send).toList := by
    intro entries
    induction entries with
    | nil => exact fun _ => rfl
    | cons entry rest ih =>
      intro unique
      simp only [List.map_cons,List.nodup_cons] at unique
      by_cases same : entry.1 = socket
      · have others : rest.filterMap (fun entry => if entry.1 = socket then send entry.2 else none) = [] := by
          refine List.filterMap_eq_nil_iff.mpr (fun other member => if_neg (fun also => ?_))
          exact unique.1 (same.trans also.symm ▸ List.mem_map_of_mem member)
        rw [List.filterMap_cons,if_pos same,others,OrderedMap.lookupEntry,if_pos same.symm,Option.bind_some]
        cases send entry.2 <;> rfl
      · rw [List.filterMap_cons,if_neg same,OrderedMap.lookupEntry,if_neg (Ne.symm same)]
        exact ih unique.2
  rw [OrderedMap.get?,← list connections.entries connections.keys_nodup,ofSocket,List.filterMap_filterMap]
  refine List.filterMap_congr (fun entry _ => ?_)
  cases send entry.2 with
  | none => simp
  | some segment => rfl

/-! ### What a visit does to an endpoint -/

section Visits
variable {service : ServiceConfig} {socket : TcpSocket} {now : SimTime} {connection : TcpConnection} {endpoint : TcpEndpoint}
  {stream : Stream}

/-- What a visit can do: it reads or not, and then it hands on output, closes the stream or does neither. -/
inductive Reads (service : ServiceConfig) (socket : TcpSocket) (connection : TcpConnection) (stream : Stream) :
    TcpConnection × Stream × List TcpSegment → Prop
  | waits (reason : stream.close = true ∨ stream.output ≠ [] ∨ connection.received = []) :
      Reads service socket connection stream (connection,stream,[])
  | drained (unclosed : stream.close = false) (empty : stream.output = []) (pending : connection.received ≠ []) :
      Reads service socket connection stream ({ connection with received := [] },stream.take service connection.received,
        [{ connection with received := [] }.segment socket .ACK []])

theorem serve_read_cases (service : ServiceConfig) (socket : TcpSocket) (connection : TcpConnection) (listening : Bool)
    (sequence : UInt32) (stream : Stream) : ∃ next : TcpConnection × Stream × List TcpSegment,
      serve_read service socket connection.received.length ⟨some connection,listening,sequence⟩ stream =
        (⟨some next.1,listening,sequence⟩,next.2) ∧ Reads service socket connection stream next := by
  unfold serve_read
  by_cases reads : (!stream.close && stream.output.isEmpty && decide (0 < connection.received.length)) = true
  · rw [if_pos reads]
    simp only [Bool.and_eq_true,Bool.not_eq_true',decide_eq_true_eq,List.isEmpty_iff] at reads
    exact ⟨_,rfl,.drained reads.1.1 reads.1.2 (List.length_pos_iff.mp reads.2)⟩
  · rw [if_neg reads]
    refine ⟨(connection,stream,[]),rfl,.waits ?_⟩
    by_contra none
    simp only [not_or,Bool.not_eq_true,not_not] at none
    refine reads ?_
    simp only [Bool.and_eq_true,Bool.not_eq_true',decide_eq_true_eq,List.isEmpty_iff]
    exact ⟨⟨none.1,none.2.1⟩,List.length_pos_iff.mpr none.2.2⟩

/-- The second half of a visit to a connection that is still as it was, but for its receive buffer. -/
inductive Writes (socket : TcpSocket) (now : SimTime) (connection : TcpConnection) (stream : Stream) :
    TcpConnection × Stream × List TcpSegment → Prop
  | rests (reason : connection.send_capacity = 0 ∨ stream.output = []) :
      Writes socket now connection stream (connection,stream,[])
  | sent (length : Nat) (some_bytes : 0 < length) (inside : length ≤ stream.output.length) (small : length ≤ MAX_PAYLOAD)
      (free : connection.outstanding = none) (able : connection.state = .Established ∨ connection.state = .CloseWait) :
      Writes socket now connection stream
        ((connection.send socket (TcpFlags.ACK.or .PSH) (stream.output.take length) now).1,
          { stream with output := stream.output.drop length },
          [connection.segment socket (TcpFlags.ACK.or .PSH) (stream.output.take length)])
  | closed (state : TcpState) (empty : stream.output = []) (free : connection.outstanding = none)
      (reason : stream.close = true ∨ connection.state = .CloseWait)
      (later : connection.state = .Established ∧ state = .FinWait ∨ connection.state = .CloseWait ∧ state = .LastAck) :
      Writes socket now connection stream
        (({ connection with state := state }.send socket (TcpFlags.ACK.or .FIN) [] now).1,stream,
          [{ connection with state := state }.segment socket (TcpFlags.ACK.or .FIN) []])

/-- A connection with capacity has nothing outstanding and takes as many bytes. -/
theorem capacity_pos {connection : TcpConnection} (capacity : 0 < connection.send_capacity) :
    (connection.state = .Established ∨ connection.state = .CloseWait) ∧ connection.outstanding = none ∧
      connection.send_capacity ≤ MAX_PAYLOAD ∧ connection.send_capacity ≤ connection.peer_window.toNat := by
  unfold TcpConnection.send_capacity at capacity ⊢
  split at capacity
  · cases capacity
  · rename_i able
    rw [if_neg able]
    rw [not_or,not_not] at able
    refine ⟨able.1,?_,min_le_left _ _,min_le_right _ _⟩
    simpa using able.2

/-- A connection with nothing outstanding sends its FIN. -/
theorem tcp_close_of {connection : TcpConnection} {state : TcpState}
    (later : connection.state = .Established ∧ state = .FinWait ∨ connection.state = .CloseWait ∧ state = .LastAck)
    (free : connection.outstanding = none) (listening : Bool) (sequence : UInt32) :
    (⟨some connection,listening,sequence⟩ : TcpEndpoint).tcp_close socket now =
      .ok (⟨some ({ connection with state := state }.send socket (TcpFlags.ACK.or .FIN) [] now).1,listening,sequence⟩,
        { connection with state := state }.segment socket (TcpFlags.ACK.or .FIN) []) := by
  unfold TcpEndpoint.tcp_close
  simp only
  rw [if_neg (by simp [free])]
  rcases later with ⟨before,rfl⟩ | ⟨before,rfl⟩
  · rw [before]
    rfl
  · rw [before]
    rfl

theorem serve_write_cases (socket : TcpSocket) (now : SimTime) (connection : TcpConnection) (listening : Bool)
    (sequence : UInt32) (stream : Stream) : ∃ next : TcpConnection × Stream × List TcpSegment,
      serve_write socket now connection.state connection.send_capacity ⟨some connection,listening,sequence⟩ stream =
        (⟨some next.1,listening,sequence⟩,next.2) ∧ Writes socket now connection stream next := by
  unfold serve_write
  by_cases sends : 0 < connection.send_capacity ∧ stream.output ≠ []
  · rw [if_pos sends]
    obtain ⟨capacity,pending⟩ := sends
    obtain ⟨state,free,small,window⟩ := capacity_pos capacity
    have some_bytes : 0 < min connection.send_capacity stream.output.length :=
      Nat.lt_min.mpr ⟨capacity,List.length_pos_iff.mpr pending⟩
    have taken : (stream.output.take (min connection.send_capacity stream.output.length)).length =
        min connection.send_capacity stream.output.length :=
      List.length_take_of_le (min_le_right _ _)
    have nonempty : stream.output.take (min connection.send_capacity stream.output.length) ≠ [] := by
      rw [← List.length_pos_iff,taken]
      exact some_bytes
    have accepted : (⟨some connection,listening,sequence⟩ : TcpEndpoint).tcp_send socket
        (stream.output.take (min connection.send_capacity stream.output.length)) now =
        .ok (⟨some (connection.send socket (TcpFlags.ACK.or .PSH)
          (stream.output.take (min connection.send_capacity stream.output.length)) now).1,listening,sequence⟩,
          connection.segment socket (TcpFlags.ACK.or .PSH)
            (stream.output.take (min connection.send_capacity stream.output.length))) := by
      unfold TcpEndpoint.tcp_send
      rw [if_neg (not_or.mpr ⟨nonempty,by rw [taken]; omega⟩)]
      simp only
      rw [if_neg (not_not.mpr state),if_neg (not_or.mpr ⟨by simp [free],by rw [taken]; omega⟩)]
      rfl
    simp only [accepted]
    exact ⟨_,rfl,.sent _ some_bytes (min_le_right _ _) ((min_le_left _ _).trans small) free state⟩
  · rw [if_neg sends]
    have idle : connection.send_capacity = 0 ∨ stream.output = [] := by
      by_contra both
      rw [not_or] at both
      exact sends ⟨Nat.pos_of_ne_zero both.1,both.2⟩
    by_cases closes : 0 < connection.send_capacity ∧ (stream.close = true ∨ connection.state = .CloseWait)
    · rw [if_pos closes]
      obtain ⟨state,free,-,-⟩ := capacity_pos closes.1
      have empty : stream.output = [] := idle.resolve_left (Nat.ne_of_gt closes.1)
      rcases state with established | closing
      · rw [tcp_close_of (.inl ⟨established,rfl⟩) free listening sequence]
        exact ⟨_,rfl,.closed .FinWait empty free closes.2 (.inl ⟨established,rfl⟩)⟩
      · rw [tcp_close_of (.inr ⟨closing,rfl⟩) free listening sequence]
        exact ⟨_,rfl,.closed .LastAck empty free closes.2 (.inr ⟨closing,rfl⟩)⟩
    · rw [if_neg closes]
      exact ⟨_,rfl,.rests idle⟩

end Visits

/-! ### A tick, seen from one socket -/

/-- What a tick of the services does to the lane of a socket, and the segments it sends there. -/
inductive Pumped (service : Option ServiceConfig) (socket : TcpSocket) (now : SimTime) (lane : Lane) :
    Lane × List TcpSegment → Prop
  | absent (gone : lane.connection = none) : Pumped service socket now lane (⟨none,none⟩,[])
  | idle {connection : TcpConnection} (present : lane.connection = some connection)
      (reason : service = none ∨ Host.served connection = false) : Pumped service socket now lane (lane,[])
  | served {connection : TcpConnection} {found : ServiceConfig} {middle next : TcpConnection × Stream × List TcpSegment}
      (present : lane.connection = some connection) (offered : service = some found)
      (able : Host.served connection = true)
      (reads : Reads found socket connection (lane.stream.getD .default) middle)
      (writes : Writes socket now middle.1 middle.2.1 next) :
      Pumped service socket now lane (⟨some next.1,some next.2.1⟩,middle.2.2 ++ next.2.2)

theorem serve_cases (service : ServiceConfig) (socket : TcpSocket) (now : SimTime) (connection : TcpConnection)
    (listening : Bool) (sequence : UInt32) (stream : Stream) : ∃ middle next : TcpConnection × Stream × List TcpSegment,
      serve service socket now connection ⟨some connection,listening,sequence⟩ stream =
        (⟨some next.1,listening,sequence⟩,next.2.1,middle.2.2 ++ next.2.2) ∧
      Reads service socket connection stream middle ∧ Writes socket now middle.1 middle.2.1 next := by
  obtain ⟨middle,read,reads⟩ := serve_read_cases service socket connection listening sequence stream
  obtain ⟨next,written,writes⟩ := serve_write_cases socket now middle.1 listening sequence middle.2.1
  refine ⟨middle,next,?_,reads,writes⟩
  -- reading changes neither the state nor the capacity
  have sampled : connection.state = middle.1.state ∧ connection.send_capacity = middle.1.send_capacity := by
    cases reads with
    | waits reason => exact ⟨rfl,rfl⟩
    | drained unclosed empty pending => exact ⟨rfl,rfl⟩
  unfold serve
  simp only [read,sampled.1,sampled.2,written]

namespace Host
variable {socket : TcpSocket} (now : SimTime) {entry : TcpSocket × TcpConnection}
    {result : Host × List (TcpSocket × TcpSegment)}

@[simp] theorem visit_definitions : (visit now result entry).1.definitions = result.1.definitions := by
  unfold visit
  split <;> rfl

theorem visit_other (elsewhere : entry.1 ≠ socket) (present : result.1.tcp.connections.get? entry.1 = some entry.2) :
    (visit now result entry).1.lane socket = result.1.lane socket ∧
      ofSocket socket (visit now result entry).2 = ofSocket socket result.2 := by
  unfold visit
  split
  · exact ⟨rfl,rfl⟩
  · rename_i service _
    obtain ⟨middle,next,served,-,-⟩ := serve_cases service entry.1 now entry.2
      (result.1.tcp.listeners.contains entry.1.local_port) result.1.tcp.next_sequence ((result.1.streams.get? entry.1).getD .default)
    have endpoint : result.1.tcp.endpoint entry.1 =
        ⟨some entry.2,(result.1.tcp.listeners.contains entry.1.local_port),result.1.tcp.next_sequence⟩ := by
      rw [TcpRuntime.endpoint,present]
    rw [endpoint]
    simp only [served]
    constructor
    · simp only [lane,TcpRuntime.set_endpoint,OrderedMap.get?_insert,if_neg (Ne.symm elsewhere)]
    · rw [ofSocket_append,ofSocket_map,if_neg elsewhere,List.append_nil]

theorem visit_self (present : result.1.tcp.connections.get? entry.1 = some entry.2) (able : served entry.2 = true) :
    ∃ outcome, Pumped (result.1.service entry.1.local_port) entry.1 now (result.1.lane entry.1) outcome ∧
      (visit now result entry).1.lane entry.1 = outcome.1 ∧
      ofSocket entry.1 (visit now result entry).2 = ofSocket entry.1 result.2 ++ outcome.2 := by
  have connection : (result.1.lane entry.1).connection = some entry.2 := present
  unfold visit
  cases offered : result.1.service entry.1.local_port with
  | none => exact ⟨_,.idle connection (.inl rfl),rfl,(List.append_nil _).symm⟩
  | some service =>
    obtain ⟨middle,next,served,reads,writes⟩ := serve_cases service entry.1 now entry.2
      (result.1.tcp.listeners.contains entry.1.local_port) result.1.tcp.next_sequence ((result.1.streams.get? entry.1).getD .default)
    have endpoint : result.1.tcp.endpoint entry.1 =
        ⟨some entry.2,(result.1.tcp.listeners.contains entry.1.local_port),result.1.tcp.next_sequence⟩ := by
      rw [TcpRuntime.endpoint,present]
    refine ⟨_,.served connection rfl able reads writes,?_,?_⟩
    · simp only [endpoint,served,lane,TcpRuntime.set_endpoint,OrderedMap.get?_insert_self]
    · simp only [endpoint,served]
      rw [ofSocket_append,ofSocket_map,if_pos rfl]

/-- Visits elsewhere leave the other connections as the tick has found them. -/
theorem visits_other (entries : List (TcpSocket × TcpConnection)) (elsewhere : socket ∉ entries.map (·.1))
    (unique : (entries.map (·.1)).Nodup) (result : Host × List (TcpSocket × TcpSegment))
    (present : ∀ entry ∈ entries, result.1.tcp.connections.get? entry.1 = some entry.2) :
    (entries.foldl (visit now) result).1.lane socket = result.1.lane socket ∧
      ofSocket socket (entries.foldl (visit now) result).2 = ofSocket socket result.2 := by
  induction entries generalizing result with
  | nil => exact ⟨rfl,rfl⟩
  | cons entry rest ih =>
    simp only [List.map_cons,List.mem_cons,not_or,List.nodup_cons] at elsewhere unique
    have here := present entry List.mem_cons_self
    have later : ∀ other ∈ rest, (visit now result entry).1.tcp.connections.get? other.1 = some other.2 := by
      intro other member
      have apart : entry.1 ≠ other.1 := fun same => unique.1 (same ▸ List.mem_map_of_mem member)
      have kept := congrArg Lane.connection (visit_other now apart here).1
      exact kept.trans (present other (List.mem_cons_of_mem entry member))
    obtain ⟨lane,packets⟩ := ih elsewhere.2 unique.2 _ later
    obtain ⟨before,sent⟩ := visit_other now (Ne.symm elsewhere.1) here
    rw [List.foldl_cons]
    exact ⟨lane.trans before,packets.trans sent⟩

theorem visits_definitions (entries : List (TcpSocket × TcpConnection)) (result : Host × List (TcpSocket × TcpSegment)) :
    (entries.foldl (visit now) result).1.definitions = result.1.definitions := by
  induction entries generalizing result with
  | nil => rfl
  | cons entry rest ih => rw [List.foldl_cons,ih,visit_definitions]

/-- The visits of a tick, seen from a socket that is among them. -/
theorem visits_self (entries : List (TcpSocket × TcpConnection)) {connection : TcpConnection}
    (member : (socket,connection) ∈ entries) (unique : (entries.map (·.1)).Nodup)
    (result : Host × List (TcpSocket × TcpSegment))
    (present : ∀ entry ∈ entries, result.1.tcp.connections.get? entry.1 = some entry.2)
    (able : served connection = true) :
    ∃ outcome, Pumped (result.1.service socket.local_port) socket now (result.1.lane socket) outcome ∧
      (entries.foldl (visit now) result).1.lane socket = outcome.1 ∧
      ofSocket socket (entries.foldl (visit now) result).2 = ofSocket socket result.2 ++ outcome.2 := by
  induction entries generalizing result with
  | nil => cases member
  | cons entry rest ih =>
    have here := present entry List.mem_cons_self
    simp only [List.map_cons,List.nodup_cons] at unique
    have later : ∀ other ∈ rest, (visit now result entry).1.tcp.connections.get? other.1 = some other.2 := by
      intro other among
      have apart : entry.1 ≠ other.1 := fun same => unique.1 (same ▸ List.mem_map_of_mem among)
      have kept := congrArg Lane.connection (visit_other now apart here).1
      exact kept.trans (present other (List.mem_cons_of_mem entry among))
    rw [List.foldl_cons]
    rcases List.mem_cons.mp member with rfl | among
    · obtain ⟨outcome,pumped,lane,packets⟩ := visit_self now here able
      obtain ⟨after,sent⟩ := visits_other now rest unique.1 unique.2 _ later
      exact ⟨outcome,pumped,after.trans lane,sent.trans packets⟩
    · have apart : entry.1 ≠ socket := fun same => unique.1 (same ▸ List.mem_map_of_mem among)
      obtain ⟨lane,packets⟩ := visit_other now apart here
      obtain ⟨outcome,pumped,after,sent⟩ := ih among unique.2 _ later
      have offered : (visit now result entry).1.service socket.local_port = result.1.service socket.local_port := by
        rw [service,visit_definitions]
        rfl
      rw [offered,lane] at pumped
      rw [packets] at sent
      exact ⟨outcome,pumped,after,sent⟩

/-- What a tick does to one socket depends on the lane of this socket only. -/
theorem service_tcp_tick_lane (self : Host) (socket : TcpSocket) (now : SimTime) :
    ∃ outcome, Pumped (self.service socket.local_port) socket now (self.lane socket) outcome ∧
      (self.service_tcp_tick now).1.lane socket = outcome.1 ∧
      ofSocket socket (self.service_tcp_tick now).2 = outcome.2 := by
  unfold service_tcp_tick
  simp only
  set kept := self.streams.retain (fun socket _ => self.tcp.connections.contains socket) with retained
  set entries := self.tcp.connections.entries.filter (fun entry => served entry.2) with chosen
  have unique : (entries.map (·.1)).Nodup :=
    (List.filter_sublist.map _).nodup self.tcp.connections.keys_nodup
  have present : ∀ entry ∈ entries, self.tcp.connections.get? entry.1 = some entry.2 := by
    intro entry member
    exact (OrderedMap.get?_eq_some _ _ _).mpr (List.mem_filter.mp member).1
  have stream : kept.get? socket =
      if self.tcp.connections.contains socket then self.streams.get? socket else none := by
    rw [retained,OrderedMap.get?_retain]
    cases self.streams.get? socket with
    | none => simp
    | some held => by_cases contained : self.tcp.connections.contains socket = true <;> simp [contained]
  cases connected : self.tcp.connections.get? socket with
  | none =>
    have elsewhere : socket ∉ entries.map (·.1) := by
      intro member
      obtain ⟨entry,among,rfl⟩ := List.mem_map.mp member
      rw [present entry among] at connected
      cases connected
    obtain ⟨lane,packets⟩ := visits_other now entries elsewhere unique ({ self with streams := kept },[]) present
    refine ⟨_,.absent connected,?_,packets⟩
    rw [lane]
    simp only [Host.lane,connected,stream,OrderedMap.contains,Option.isSome_none,Bool.false_eq_true,if_false]
  | some connection =>
    have contained : self.tcp.connections.contains socket = true := by
      rw [OrderedMap.contains,connected]
      rfl
    have lane : ({ self with streams := kept } : Host).lane socket = self.lane socket := by
      simp only [Host.lane,stream,contained,if_true]
    by_cases able : served connection = true
    · have member : (socket,connection) ∈ entries :=
        List.mem_filter.mpr ⟨(OrderedMap.get?_eq_some _ _ _).mp connected,able⟩
      obtain ⟨outcome,pumped,after,sent⟩ := visits_self now entries member unique
        ({ self with streams := kept },[]) present able
      rw [lane] at pumped
      exact ⟨outcome,pumped,after,sent⟩
    · have elsewhere : socket ∉ entries.map (·.1) := by
        intro member
        obtain ⟨entry,among,rfl⟩ := List.mem_map.mp member
        have same := (present entry among).symm.trans connected
        cases same
        exact able (List.mem_filter.mp among).2
      obtain ⟨after,packets⟩ := visits_other now entries elsewhere unique ({ self with streams := kept },[]) present
      refine ⟨_,.idle connected (.inr (Bool.eq_false_iff.mpr able)),after.trans lane,packets⟩

@[simp] theorem service_tcp_tick_definitions (self : Host) (now : SimTime) :
    (self.service_tcp_tick now).1.definitions = self.definitions := by
  unfold service_tcp_tick
  exact visits_definitions now _ _

end Host

end Rios.Services
