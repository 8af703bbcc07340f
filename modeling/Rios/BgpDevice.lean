import Rios.BgpRib

/-!
# BGP on a device

One tick of the BGP process: reconciliation with the configuration, the transports
of each peer with collisions and received UPDATEs, the recomputation of routes,
their advertisement, and the output to TCP. Segments are returned with their
sockets; wrapping them into packets never fails.
-/

namespace Rios.Bgp
open Rios.Machine Rios.Device Rios.Tcp Rios.Routing

/-- A segment that is handed to the network. -/
abbrev Sent := TcpSocket × TcpSegment

/-- What the transports of all peers share. -/
structure Work where
  tcp : TcpRuntime
  next_port : UInt16
  out : List Sent

namespace Work

def abort (self : Work) (socket : TcpSocket) : Work :=
  match self.tcp.tcp_abort socket with
  | .error _ => self
  | .ok (tcp,segment) => { self with tcp := tcp, out := self.out ++ [(socket,segment)] }

def abort_all (self : Work) (sockets : List TcpSocket) : Work := sockets.foldl abort self

end Work

/-! ### One transport -/

namespace PeerStream

/-- A message that does not fit fails the transport. -/
def queue_or_fail (now : SimTime) (stream : PeerStream) (message : BgpMessage) : PeerStream :=
  match stream.queue message with
  | .error error => stream.fail error now
  | .ok next => next

/-- Queue the messages of an action. -/
def queue_messages (now : SimTime) (messages : List BgpMessage) (stream : PeerStream) : PeerStream :=
  messages.foldl (queue_or_fail now) stream

/-- `stream.closing` after an action. -/
def close_if (close : Bool) (now : SimTime) (stream : PeerStream) : PeerStream :=
  if close then { stream with closing := some (satAdd64 now 5000000) } else stream

/-- The numbers that the routes of an UPDATE will be checked against. -/
def reception (config : BgpConfig) (router_id : Ipv4Addr) (remote_as : UInt32) (update : BgpUpdate) : Reception :=
  ⟨update,config.local_as,router_id,config.cluster router_id,remote_as ≠ config.local_as⟩

/-- One complete message. -/
def receive_message (config : BgpConfig) (router_id : Ipv4Addr) (remote_as : UInt32) (now : SimTime) (stream : PeerStream)
    (message : BgpMessage) : PeerStream :=
  let received := stream.fsm.receive message now
  close_if received.2.close_transport now (queue_messages now received.2.messages
    { stream with fsm := received.1
                  delivered := stream.delivered ++ received.2.update.toList.map (reception config router_id remote_as) })

/-- The loop over complete messages, for at most the given number of them; the UPDATEs are collected. -/
def read_messages (config : BgpConfig) (router_id : Ipv4Addr) (remote_as : UInt32) (now : SimTime) :
    Nat → PeerStream → List BgpUpdate → PeerStream × List BgpUpdate
  | 0,stream,updates => (stream,updates)
  | fuel + 1,stream,updates =>
    if stream.closing.isSome then (stream,updates)
    else
      match stream.input.next_message stream.fsm.four_octet_as with
      | .error error => (stream.fail error now,updates)
      | .ok (none,_) => (stream,updates)
      | .ok (some message,input) =>
        read_messages config router_id remote_as now fuel
          (receive_message config router_id remote_as now { stream with input := input } message)
          (updates ++ (stream.fsm.receive message now).2.update.toList)

/-- Bytes that TCP has delivered. -/
def read_bytes (config : BgpConfig) (router_id : Ipv4Addr) (remote_as : UInt32) (now : SimTime) (bytes : List UInt8)
    (stream : PeerStream) : PeerStream × List BgpUpdate :=
  match stream.input.push bytes with
  | .error error => (stream.fail error now,[])
  | .ok input =>
    read_messages config router_id remote_as now (input.bytes.length + 1) { stream with input := input } []

/-- The OPEN of a transport whose handshake has completed. -/
def start (now : SimTime) (stream : PeerStream) : PeerStream :=
  if stream.started then stream
  else
    let connected := stream.fsm.transport_connected now
    queue_messages now connected.2.messages { stream with started := true, fsm := connected.1 }

/-- The timers of an open transport. -/
def run_timers (now : SimTime) (stream : PeerStream) : PeerStream :=
  if stream.closing.isSome then stream
  else
    let ticked := stream.fsm.tick now
    close_if ticked.2.close_transport now (queue_messages now ticked.2.messages { stream with fsm := ticked.1 })

/-- The peer has finished its side of the connection. -/
def half_closed (state : TcpState) (now : SimTime) (stream : PeerStream) : PeerStream :=
  if state = .CloseWait ∧ stream.closing.isNone then
    { stream with closing := some now, fsm := (stream.fsm.transport_failed now).1 }
  else stream

/-- One round of the loop over the transports of a peer. -/
def serve (config : BgpConfig) (router_id : Ipv4Addr) (remote_as : UInt32) (now : SimTime) (socket : TcpSocket) (work : Work)
    (stream : PeerStream) : Work × PeerStream × List BgpUpdate :=
  match work.tcp.connections.get? socket with
  | none => (work,stream,[])
  | some connection =>
    let stream := stream.half_closed connection.state now
    if connection.state ≠ .Established ∨ stream.closing.isSome then (work,stream,[])
    else
      let stream := stream.start now
      if connection.received = [] then (work,stream.run_timers now,[])
      else
        match work.tcp.tcp_read socket with
        | .error _ => (work,stream.run_timers now,[])
        | .ok (tcp,bytes,window) =>
          let read := stream.read_bytes config router_id remote_as now bytes
          ({ work with tcp := tcp, out := work.out ++ [(socket,window)] },read.1.run_timers now,read.2)

end PeerStream

/-! ### The transports of a peer -/

/-- Whether TCP has given a connection up. -/
def TcpState.ended : TcpState → Bool
  | .Closed | .TimeWait | .LastAck | .FinWait => true
  | _ => false

namespace Peer

/-- Remove the transport of one connection that has ended. -/
def drop_stale (now : SimTime) (peer : Peer) (socket : TcpSocket) : Peer :=
  let peer := { peer with streams := peer.streams.erase socket }
  let peer := if peer.selected = some socket then { peer with selected := none, received := ∅ } else peer
  { peer with retry_at := satAdd64 now RETRY_US, state := .Active }

/-- The transports whose connections have ended. -/
def stale (connections : OrderedMap TcpSocket TcpConnection) (peer : Peer) : List TcpSocket :=
  peer.streams.keys.filter (fun socket => (connections.get? socket).all (fun connection => TcpState.ended connection.state))

/-- The connections that the neighbor has opened and that have no transport yet. -/
def incoming (connections : OrderedMap TcpSocket TcpConnection) (address : Ipv4Addr) (peer : Peer) : List TcpSocket :=
  (connections.entries.filter (fun entry =>
    entry.1.remote_address = address && entry.1.local_port = 179 &&
      (entry.2.state = .SynReceived || entry.2.state = .Established || entry.2.state = .CloseWait) &&
      !peer.streams.contains entry.1)).map (·.1)

/-- At most two transports are accepted. -/
def accept (config : BgpConfig) (router_id : Ipv4Addr) (now : SimTime) (state : Work × Peer) (socket : TcpSocket) :
    Work × Peer :=
  if 2 ≤ state.2.streams.size then (state.1.abort socket,state.2)
  else
    match PeerStream.new config state.2.config.remote_as router_id now with
    | .error _ => state
    | .ok stream =>
      ({ state.1 with tcp := state.1.tcp.tcp_set_idle_timeout socket none },
        { state.2 with streams := state.2.streams.insert socket stream })

/-- The next ports that are tried for an active open, until one is free. -/
def free_port (connections : OrderedMap TcpSocket TcpConnection) (local_address address : Ipv4Addr) :
    Nat → UInt16 → UInt16 × Option TcpSocket
  | 0,next_port => (next_port,none)
  | rounds + 1,next_port =>
    let port := if next_port < 49152 ∨ next_port = 65535 then 49152 else next_port + 1
    let candidate : TcpSocket := ⟨local_address,port,address,179⟩
    if connections.contains candidate then free_port connections local_address address rounds port
    else (port,some candidate)

/-- The address that an active open uses. -/
def source (surroundings : Surroundings) (peer : Peer) (route : ResolvedRoute) : Option Ipv4Addr :=
  match peer.config.update_source with
  | some id => if surroundings.protocol_up id then (surroundings.interface_ipv4 id).map (·.address) else none
  | none => some route.source_ip

/-- Open a connection to a neighbor without transports, once its time has come. -/
def active_open (surroundings : Surroundings) (config : BgpConfig) (router_id : Ipv4Addr) (now : SimTime)
    (address : Ipv4Addr) (work : Work) (peer : Peer) : Work × Peer :=
  if peer.streams.isEmpty ∧ peer.retry_at ≤ now then
    let peer := { peer with retry_at := satAdd64 now RETRY_US, state := .Active }
    match (surroundings.resolve_non_bgp_route address).bind (source surroundings peer) with
    | none => (work,peer)
    | some local_address =>
      let found := free_port work.tcp.connections local_address address 16384 work.next_port
      let work := { work with next_port := found.1 }
      match found.2 with
      | none => (work,peer)
      | some socket =>
        match PeerStream.new config peer.config.remote_as router_id now with
        | .error _ => (work,peer)
        | .ok stream =>
          match work.tcp.tcp_connect surroundings.owns_any_ipv4 socket now with
          | .error _ => (work,peer)
          | .ok (tcp,segment) =>
            ({ work with tcp := tcp.tcp_set_idle_timeout socket none, out := work.out ++ [(socket,segment)] },
              { peer with streams := peer.streams.insert socket stream, state := .Connect })
  else (work,peer)

/-- What the loop over the transports carries along: the transports already served, and all UPDATEs. -/
structure Served where
  work : Work
  streams : OrderedMap TcpSocket PeerStream
  updates : List (TcpSocket × BgpUpdate)

def serve_one (config : BgpConfig) (router_id : Ipv4Addr) (remote_as : UInt32) (now : SimTime) (state : Served)
    (entry : TcpSocket × PeerStream) : Served :=
  let served := entry.2.serve config router_id remote_as now entry.1 state.work
  ⟨served.1,state.streams.insert entry.1 served.2.1,state.updates ++ served.2.2.map (fun update => (entry.1,update))⟩

def serve_all (config : BgpConfig) (router_id : Ipv4Addr) (now : SimTime) (work : Work) (peer : Peer) : Served :=
  peer.streams.entries.foldl (serve_one config router_id peer.config.remote_as now) ⟨work,∅,[]⟩

/-! ### Collisions -/

/-- Whether a transport takes part in a collision. -/
def colliding (stream : PeerStream) : Bool := stream.started && stream.closing.isNone

/-- Whether the connection of a socket is the one that the comparison of identifiers keeps. -/
def preferred (router_id address remote_id : Ipv4Addr) (socket : TcpSocket) : Bool :=
  decide (socket.remote_port = 179) == decide (toLex (remote_id,address) < toLex (router_id,socket.local_address))

/-- The transport that survives: an established one, or that which both sides prefer. -/
def winner (router_id address : Ipv4Addr) (candidates : List (TcpSocket × PeerStream)) : Option TcpSocket :=
  if candidates.length ≤ 1 then none
  else
    match candidates.findSome? (·.2.fsm.peer_router_id) with
    | none => none
    | some remote_id =>
      ((candidates.find? (·.2.fsm.state = .Established)).map (·.1)) <|>
        ((candidates.find? (fun entry => preferred router_id address remote_id entry.1)).map (·.1))

/-- Close all colliding transports but the winner. -/
def collide (router_id address : Ipv4Addr) (now : SimTime) (streams : OrderedMap TcpSocket PeerStream) :
    OrderedMap TcpSocket PeerStream :=
  match winner router_id address (streams.entries.filter (fun entry => colliding entry.2)) with
  | none => streams
  | some kept => streams.mapValues (fun socket stream =>
      if colliding stream && socket ≠ kept then stream.fail ⟨6,7⟩ now else stream)

/-- The transport that carries routes: the one so far while it is open, or another open one. -/
def choose (selected : Option TcpSocket) (streams : OrderedMap TcpSocket PeerStream) : Option TcpSocket :=
  selected.filter (fun socket => (streams.get? socket).any PeerStream.open_session) <|>
    (streams.entries.find? (·.2.open_session)).map (·.1)

/-! ### Received UPDATEs -/

/-- Whether a route leads back to this router. -/
def looped (config : BgpConfig) (router_id : Ipv4Addr) (attributes : BgpAttributes) : Bool :=
  attributes.contains_as config.local_as || attributes.originator_id = some router_id ||
    attributes.cluster_list.contains (config.cluster router_id)

/-- The loop over announced prefixes; it ends where the table is full. -/
def insert_announced (looped : Bool) (attributes : BgpAttributes) :
    List Ipv4Network → OrderedMap Ipv4Network BgpAttributes → Option (OrderedMap Ipv4Network BgpAttributes)
  | [],received => some received
  | network :: rest,received =>
    if looped then insert_announced looped attributes rest (received.erase network)
    else if ROUTE_LIMIT ≤ received.size ∧ !received.contains network then none
    else insert_announced looped attributes rest (received.insert network attributes)

/-- The NOTIFICATION that an UPDATE without the mandatory attributes of its peer is answered with. -/
def refusal (external : Bool) (remote_as : UInt32) (attributes : BgpAttributes) : Option BgpError :=
  if external ∧ attributes.first_as ≠ some remote_as then some ⟨3,11⟩
  else if !external ∧ attributes.local_preference.isNone then some ⟨3,3⟩
  else none

/-- Fail a transport and forget what it has told. -/
def reject (peer : Peer) (socket : TcpSocket) (stream : PeerStream) (error : BgpError) (now : SimTime) : Peer :=
  { peer with streams := peer.streams.insert socket (stream.fail error now), received := ∅ }

/-- One UPDATE of the selected transport. -/
def receive_update (config : BgpConfig) (router_id : Ipv4Addr) (now : SimTime) (selected : Option TcpSocket) (peer : Peer)
    (entry : TcpSocket × BgpUpdate) : Peer :=
  if selected ≠ some entry.1 then peer
  else
    match (peer.streams.get? entry.1).filter (·.closing.isNone) with
    | none => peer
    | some stream =>
      let peer := { peer with received := entry.2.withdrawn.foldl OrderedMap.erase peer.received }
      match entry.2.attributes with
      | none => peer
      | some attributes =>
        let external : Bool := peer.config.remote_as ≠ config.local_as
        match refusal external peer.config.remote_as attributes with
        | some error => peer.reject entry.1 stream error now
        | none =>
          let attributes := if external then { attributes with local_preference := none } else attributes
          match insert_announced (looped config router_id attributes) attributes entry.2.announced peer.received with
          | none => peer.reject entry.1 stream ⟨6,1⟩ now
          | some received => { peer with received := received }

/-- The errors of sessions, the last one of them kept. The source notes them also while it serves the transports; this
    is the loop behind, which meets all of them again. -/
def note_errors (streams : OrderedMap TcpSocket PeerStream) (last_error : Option BgpError) : Option BgpError :=
  streams.values.foldl (fun last stream => stream.fsm.last_error <|> last) last_error

/-- What remains to be done once the transports have been served. -/
def settle (config : BgpConfig) (router_id address : Ipv4Addr) (now : SimTime) (updates : List (TcpSocket × BgpUpdate))
    (peer : Peer) : Peer :=
  let streams := collide router_id address now peer.streams
  let selected := choose peer.selected streams
  let received := if selected ≠ peer.selected then ∅ else peer.received
  let state := ((streams.values.find? (·.closing.isNone)).map (·.fsm.state)).getD .Active
  let peer := { peer with streams := streams, selected := selected, received := received, state := state }
  let peer := updates.foldl (receive_update config router_id now selected) peer
  let peer := { peer with last_error := note_errors peer.streams peer.last_error }
  if (selected.bind peer.streams.get?).any PeerStream.open_session then peer
  else { peer with received := ∅, selected := none }

/-- Accepts, active opens, stream framing, collision resolution and received UPDATEs of one peer. -/
def bgp_transport_peer (surroundings : Surroundings) (config : BgpConfig) (router_id : Ipv4Addr) (now : SimTime)
    (address : Ipv4Addr) (work : Work) (peer : Peer) : Work × Peer :=
  let peer := (peer.stale work.tcp.connections).foldl (drop_stale now) peer
  let accepted := (peer.incoming work.tcp.connections address).foldl (accept config router_id now) (work,peer)
  let opened := active_open surroundings config router_id now address accepted.1 accepted.2
  let served := serve_all config router_id now opened.1 opened.2
  (served.work,settle config router_id address now served.updates
    { opened.2 with streams := served.streams })

end Peer

/-! ### Output -/

/-- `bgp_flush` on a connection: the remaining work, the transport, and whether it stays. -/
def bgp_flush (now : SimTime) (socket : TcpSocket) (work : Work) (stream : PeerStream) : Work × PeerStream × Bool :=
  if stream.closing.any (· ≤ now) then (work.abort socket,stream,false)
  else
    match work.tcp.connections.get? socket with
    | none => (work,stream,false)
    | some connection =>
      if connection.send_capacity = 0 then (work,stream,true)
      else
        match stream.output with
        | message :: rest =>
          let stop := min (stream.offset + connection.send_capacity) message.length
          match work.tcp.tcp_send socket ((message.take stop).drop stream.offset) now with
          | .error _ => (work,stream,true)
          | .ok (tcp,segment) =>
            let work := { work with tcp := tcp, out := work.out ++ [(socket,segment)] }
            if stop = message.length then (work,{ stream with output := rest, offset := 0 },true)
            else (work,{ stream with offset := stop },true)
        | [] =>
          if stream.closing.isSome then
            match work.tcp.tcp_close socket now with
            | .error _ => (work,stream,true)
            | .ok (tcp,segment) => ({ work with tcp := tcp, out := work.out ++ [(socket,segment)] },stream,false)
          else (work,stream,true)

namespace Peer

/-- One transport of a peer is flushed, or removed. -/
def flush_one (now : SimTime) (state : Work × Peer) (socket : TcpSocket) : Work × Peer :=
  match state.2.streams.get? socket with
  | none => state
  | some stream =>
    let flushed := bgp_flush now socket state.1 stream
    if flushed.2.2 then (flushed.1,{ state.2 with streams := state.2.streams.insert socket flushed.2.1 })
    else
      let streams := state.2.streams.erase socket
      if state.2.selected = some socket then
        (flushed.1,{ state.2 with streams := streams, selected := none, received := ∅, retry_at := satAdd64 now RETRY_US })
      else (flushed.1,{ state.2 with streams := streams })

def flush_all (now : SimTime) (work : Work) (peer : Peer) : Work × Peer := peer.streams.keys.foldl (flush_one now) (work,peer)

end Peer

/-! ### Ticks -/

/-- What a tick reads and writes of a device. -/
structure Speaker where
  surroundings : Surroundings
  config : Option BgpConfig
  routing_policy : RoutingPolicyConfig
  tcp : TcpRuntime
  bgp : BgpRuntime

namespace Speaker

/-- The highest address of the interfaces that are up. -/
def highest_address (surroundings : Surroundings) (loopbacks : Bool) : Option Ipv4Addr :=
  ((surroundings.interfaces.entries.filter (fun entry =>
      surroundings.protocol_up entry.1 && (!loopbacks || entry.2.loopback))).filterMap (fun entry =>
    (surroundings.interface_ipv4 entry.1).map (·.address))).max?

/-- The configured router id, the one used so far, or the highest address. -/
def router_id (self : Speaker) : Option Ipv4Addr :=
  self.config.bind (·.router_id) <|> self.bgp.router_id <|> highest_address self.surroundings true <|>
    highest_address self.surroundings false

/-- All transports of all peers. -/
def sockets (peers : OrderedMap Ipv4Addr Peer) : List TcpSocket := peers.values.flatMap (·.streams.keys)

/-- A change of the local AS or of the router id, or the end of the process, resets all peers. -/
def reset_if_changed (self : Speaker) : Work × BgpRuntime :=
  let work : Work := ⟨self.tcp,self.bgp.next_port,[]⟩
  let local_as := self.config.map (·.local_as)
  if self.bgp.local_as ≠ local_as ∨ self.bgp.router_id ≠ self.router_id ∨ self.config = none then
    (work.abort_all (sockets self.bgp.peers),
      { self.bgp with local_as := local_as, router_id := self.router_id, peers := ∅, routes := [], best := ∅ })
  else (work,self.bgp)

/-- The peers that are configured no more are removed with their transports. -/
def remove_peers (config : BgpConfig) (work : Work) (peers : OrderedMap Ipv4Addr Peer) : Work × OrderedMap Ipv4Addr Peer :=
  (work.abort_all (sockets (peers.retain (fun address _ => !config.neighbors.contains address))),
    peers.retain (fun address _ => config.neighbors.contains address))

/-- The peer of a neighbor statement: the one there is, or a new one where there is none or where it has changed. -/
def reconcile (now : SimTime) (policy : BgpNeighborConfig) (work : Work) (old : Option Peer) : Work × Peer :=
  let peer := old.getD (Peer.new policy now)
  if peer.config.remote_as ≠ policy.remote_as ∨ peer.config.update_source ≠ policy.update_source then
    (work.abort_all peer.streams.keys,Peer.new policy now)
  else (work,{ peer with config := policy })

/-- One round of the loop over the neighbor statements. -/
def serve_neighbor (surroundings : Surroundings) (config : BgpConfig) (router_id : Ipv4Addr) (now : SimTime)
    (state : Work × OrderedMap Ipv4Addr Peer) (neighbor : Ipv4Addr × BgpNeighborConfig) : Work × OrderedMap Ipv4Addr Peer :=
  let reconciled := reconcile now neighbor.2 state.1 (state.2.get? neighbor.1)
  let served := Peer.bgp_transport_peer surroundings config router_id now neighbor.1 reconciled.1 reconciled.2
  (served.1,state.2.insert neighbor.1 served.2)

/-- Unconfigured inbound connections on the listener never become protocol neighbors. -/
def abort_unconfigured (config : BgpConfig) (work : Work) : Work :=
  work.abort_all (work.tcp.connections.keys.filter (fun socket =>
    socket.local_port = 179 && !config.neighbors.contains socket.remote_address))

def flush_peer (now : SimTime) (state : Work × OrderedMap Ipv4Addr Peer) (entry : Ipv4Addr × Peer) :
    Work × OrderedMap Ipv4Addr Peer :=
  let flushed := Peer.flush_all now state.1 entry.2
  (flushed.1,state.2.insert entry.1 flushed.2)

def flush_peers (now : SimTime) (work : Work) (peers : OrderedMap Ipv4Addr Peer) : Work × OrderedMap Ipv4Addr Peer :=
  peers.entries.foldl (flush_peer now) (work,∅)

/-- The part of a tick behind the listener. -/
def run_process (self : Speaker) (config : BgpConfig) (router_id : Ipv4Addr) (now : SimTime) (work : Work)
    (bgp : BgpRuntime) : Work × BgpRuntime :=
  let removed := remove_peers config work bgp.peers
  let served := config.neighbors.entries.foldl (serve_neighbor self.surroundings config router_id now) removed
  let work := abort_unconfigured config served.1
  let bgp := { bgp with peers := served.2 }
  let bgp := bgp.bgp_recompute self.surroundings self.routing_policy config router_id
  let bgp := bgp.bgp_advertise self.surroundings self.routing_policy config router_id now
  let flushed := flush_peers now work bgp.peers
  (flushed.1,{ bgp with peers := flushed.2 }.bgp_recompute self.surroundings self.routing_policy config router_id)

/-- Reconcile configuration, TCP streams and route selection at virtual time. -/
def bgp_tick (self : Speaker) (now : SimTime) : Speaker × List Sent :=
  let reset := self.reset_if_changed
  match self.config with
  | none =>
    let tcp := if reset.2.listening then reset.1.tcp.tcp_unlisten 179 else reset.1.tcp
    ({ self with tcp := tcp, bgp := { reset.2 with listening := false } },reset.1.out)
  | some config =>
    match self.router_id with
    | none => ({ self with tcp := reset.1.tcp, bgp := reset.2 },reset.1.out)
    | some router_id =>
      match reset.1.tcp.tcp_listen 179 with
      | .error _ => ({ self with tcp := reset.1.tcp, bgp := reset.2 },reset.1.out)
      | .ok tcp =>
        let run := self.run_process config router_id now { reset.1 with tcp := tcp } { reset.2 with listening := true }
        ({ self with tcp := run.1.tcp, bgp := { run.2 with next_port := run.1.next_port } },run.1.out)

/-! ### Runs -/

/-- The states of a device: it starts without BGP state, and between ticks everything else may change, except that
    nothing else closes the listener. -/
inductive Reached : Speaker → Prop
  | boot (speaker : Speaker) (fresh : speaker.bgp = BgpRuntime.default) : Reached speaker
  | change (speaker next : Speaker) (reached : Reached speaker) (same : next.bgp = speaker.bgp)
      (listening : speaker.tcp.listeners.contains 179 = true → next.tcp.listeners.contains 179 = true) : Reached next
  | tick (speaker : Speaker) (reached : Reached speaker) (now : SimTime) : Reached (speaker.bgp_tick now).1

end Speaker
end Rios.Bgp
