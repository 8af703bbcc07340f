import Rios.BgpDevice

/-!
# Forwarding over BGP routes

A tick installs each selected route with the interface that its next hop is resolved
to without BGP. Forwarding resolves the next hop in the table with the BGP routes,
and gets to the same place unless they take over the way there.
-/

namespace Rios.Bgp
open Rios.Machine Rios.Device Rios.Tcp Rios.Routing Rios.OspfSpf

/-! ### The listener -/

section
variable {runtime next : TcpRuntime} {socket : TcpSocket} {segment : TcpSegment} {now : SimTime}

theorem tcp_set_idle_timeout_listeners (runtime : TcpRuntime) (socket : TcpSocket) (timeout_us : Option UInt64) :
    (runtime.tcp_set_idle_timeout socket timeout_us).listeners = runtime.listeners := by
  unfold TcpRuntime.tcp_set_idle_timeout
  split <;> rfl

theorem tcp_connect_listeners {owns_any_ipv4 : Ipv4Addr → Bool}
    (connected : runtime.tcp_connect owns_any_ipv4 socket now = .ok (next,segment)) :
    next.listeners = runtime.listeners := by
  unfold TcpRuntime.tcp_connect at connected
  split at connected
  · cases connected
  · split at connected
    · cases connected
    · split at connected
      · cases connected
      · split at connected
        · cases connected
        · cases connected
          rfl

theorem tcp_send_listeners {payload : List UInt8} (sent : runtime.tcp_send socket payload now = .ok (next,segment)) :
    next.listeners = runtime.listeners := by
  unfold TcpRuntime.tcp_send at sent
  cases done : (runtime.endpoint socket).tcp_send socket payload now with
  | error error => rw [done] at sent; cases sent
  | ok result => rw [done] at sent; cases sent; rfl

theorem tcp_close_listeners (closed : runtime.tcp_close socket now = .ok (next,segment)) :
    next.listeners = runtime.listeners := by
  unfold TcpRuntime.tcp_close at closed
  cases done : (runtime.endpoint socket).tcp_close socket now with
  | error error => rw [done] at closed; cases closed
  | ok result => rw [done] at closed; cases closed; rfl

theorem tcp_read_listeners {bytes : List UInt8} (read : runtime.tcp_read socket = .ok (next,bytes,segment)) :
    next.listeners = runtime.listeners := by
  unfold TcpRuntime.tcp_read at read
  cases done : (runtime.endpoint socket).tcp_read socket with
  | error error => rw [done] at read; cases read
  | ok result => rw [done] at read; cases read; rfl

end

namespace Work

theorem abort_listeners (work : Work) (socket : TcpSocket) : (work.abort socket).tcp.listeners = work.tcp.listeners := by
  unfold abort TcpRuntime.tcp_abort
  cases work.tcp.connections.get? socket <;> rfl

theorem abort_all_listeners (work : Work) (sockets : List TcpSocket) :
    (work.abort_all sockets).tcp.listeners = work.tcp.listeners := by
  unfold abort_all
  refine List.foldlRecOn (motive := fun (after : Work) => after.tcp.listeners = work.tcp.listeners) _ _ rfl
    (fun after same socket member => ?_)
  rw [abort_listeners,same]

end Work

theorem PeerStream.serve_listeners (config : BgpConfig) (router_id : Ipv4Addr) (remote_as : UInt32) (now : SimTime)
    (socket : TcpSocket) (work : Work) (stream : PeerStream) :
    (stream.serve config router_id remote_as now socket work).1.tcp.listeners = work.tcp.listeners := by
  unfold serve
  cases work.tcp.connections.get? socket with
  | none => rfl
  | some connection =>
    simp only
    split
    · rfl
    · split
      · rfl
      · cases read : work.tcp.tcp_read socket with
        | error error => rfl
        | ok result => exact tcp_read_listeners read

namespace Peer
variable (config : BgpConfig) (router_id : Ipv4Addr) (now : SimTime)

theorem accept_listeners (state : Work × Peer) (socket : TcpSocket) :
    (accept config router_id now state socket).1.tcp.listeners = state.1.tcp.listeners := by
  unfold accept
  split
  · exact state.1.abort_listeners socket
  · split
    · rfl
    · exact tcp_set_idle_timeout_listeners state.1.tcp socket none

theorem accept_all_listeners (state : Work × Peer) (sockets : List TcpSocket) :
    (sockets.foldl (accept config router_id now) state).1.tcp.listeners = state.1.tcp.listeners := by
  refine List.foldlRecOn (motive := fun (after : Work × Peer) => after.1.tcp.listeners = state.1.tcp.listeners) _ _ rfl
    (fun after same socket member => ?_)
  rw [accept_listeners,same]

theorem active_open_listeners (surroundings : Surroundings) (address : Ipv4Addr) (work : Work) (peer : Peer) :
    (active_open surroundings config router_id now address work peer).1.tcp.listeners = work.tcp.listeners := by
  unfold active_open
  split
  · simp only
    split
    · rfl
    · rename_i local_address chosen
      generalize free_port work.tcp.connections local_address address 16384 work.next_port = tried
      split
      · rfl
      · split
        · rfl
        · split
          · rfl
          · rename_i tcp segment connected
            exact (tcp_set_idle_timeout_listeners tcp _ none).trans (tcp_connect_listeners connected)
  · rfl

theorem serve_all_listeners (work : Work) (peer : Peer) :
    (serve_all config router_id now work peer).work.tcp.listeners = work.tcp.listeners := by
  unfold serve_all
  refine List.foldlRecOn (motive := fun (after : Served) => after.work.tcp.listeners = work.tcp.listeners) _ _ rfl
    (fun after same entry member => ?_)
  exact (entry.2.serve_listeners config router_id peer.config.remote_as now entry.1 after.work).trans same

theorem bgp_transport_peer_listeners (surroundings : Surroundings) (address : Ipv4Addr) (work : Work) (peer : Peer) :
    (bgp_transport_peer surroundings config router_id now address work peer).1.tcp.listeners = work.tcp.listeners := by
  unfold bgp_transport_peer
  simp only
  rw [serve_all_listeners,active_open_listeners,accept_all_listeners]

theorem bgp_flush_listeners (socket : TcpSocket) (work : Work) (stream : PeerStream) :
    (bgp_flush now socket work stream).1.tcp.listeners = work.tcp.listeners := by
  unfold bgp_flush
  split
  · exact work.abort_listeners socket
  · split
    · rfl
    · split
      · rfl
      · split
        · simp only
          split
          · rfl
          · rename_i tcp segment sent
            split <;> exact tcp_send_listeners sent
        · split
          · split
            · rfl
            · rename_i tcp segment closed
              exact tcp_close_listeners closed
          · rfl

theorem flush_all_listeners (work : Work) (peer : Peer) :
    (peer.flush_all now work).1.tcp.listeners = work.tcp.listeners := by
  unfold flush_all
  refine List.foldlRecOn (motive := fun (after : Work × Peer) => after.1.tcp.listeners = work.tcp.listeners) _ _ rfl
    (fun after same socket member => ?_)
  unfold flush_one
  cases after.2.streams.get? socket with
  | none => exact same
  | some stream =>
    have flushed := bgp_flush_listeners now socket after.1 stream
    simp only
    split
    · exact flushed.trans same
    · split <;> exact flushed.trans same

end Peer

namespace Speaker

theorem run_process_listeners (speaker : Speaker) (config : BgpConfig) (router_id : Ipv4Addr) (now : SimTime) (work : Work)
    (bgp : BgpRuntime) : (speaker.run_process config router_id now work bgp).1.tcp.listeners = work.tcp.listeners := by
  have served : ∀ state : Work × OrderedMap Ipv4Addr Peer,
      (config.neighbors.entries.foldl (serve_neighbor speaker.surroundings config router_id now) state).1.tcp.listeners =
        state.1.tcp.listeners := by
    intro state
    refine List.foldlRecOn (motive := fun (after : Work × OrderedMap Ipv4Addr Peer) =>
      after.1.tcp.listeners = state.1.tcp.listeners) _ _ rfl (fun after same neighbor member => ?_)
    unfold serve_neighbor
    simp only
    rw [Peer.bgp_transport_peer_listeners]
    unfold reconcile
    simp only
    split
    · exact (Work.abort_all_listeners _ _).trans same
    · exact same
  have flushed : ∀ (work : Work) (peers : OrderedMap Ipv4Addr Peer),
      (flush_peers now work peers).1.tcp.listeners = work.tcp.listeners := by
    intro work peers
    unfold flush_peers
    refine List.foldlRecOn (motive := fun (after : Work × OrderedMap Ipv4Addr Peer) =>
      after.1.tcp.listeners = work.tcp.listeners) _ _ rfl (fun after same entry member => ?_)
    exact (Peer.flush_all_listeners now after.1 entry.2).trans same
  unfold run_process
  simp only
  rw [flushed]
  unfold abort_unconfigured
  rw [Work.abort_all_listeners,served]
  exact Work.abort_all_listeners work _

end Speaker

/-! ### Installed routes -/

/-- A route to a next hop, with the interface of what the next hop is resolved to without BGP. -/
structure Installed (surroundings : Surroundings) (route : Route) (next_hop : Ipv4Addr) (direct : ResolvedRoute) : Prop where
  leads : route.next_hop = some next_hop
  resolves : surroundings.resolve_non_bgp_route next_hop = some direct
  egress : route.outgoing_interface = some direct.interface

theorem installed_spec {surroundings : Surroundings} {path : BgpPath} {route : Route}
    (installs : installed surroundings path = some route) :
    ∃ next_hop direct, Installed surroundings route next_hop direct := by
  unfold installed at installs
  split at installs
  · cases installs
  · obtain ⟨direct,resolved,rfl⟩ := Option.map_eq_some_iff.mp installs
    exact ⟨path.attributes.next_hop,direct,rfl,resolved,rfl⟩

namespace Speaker

theorem run_process_installed (speaker : Speaker) (config : BgpConfig) (router_id : Ipv4Addr) (now : SimTime) (work : Work)
    (bgp : BgpRuntime) : ∀ route ∈ (speaker.run_process config router_id now work bgp).2.routes,
      ∃ next_hop direct, Installed speaker.surroundings route next_hop direct := by
  intro route member
  unfold run_process BgpRuntime.bgp_recompute at member
  obtain ⟨path,-,installs⟩ := List.mem_filterMap.mp member
  exact installed_spec installs

/-- Routes are kept only while the process has a router id and its listener. -/
def Listening (speaker : Speaker) : Prop :=
  speaker.bgp.routes = [] ∨ (speaker.bgp.router_id.isSome = true ∧ speaker.tcp.listeners.contains 179 = true)

theorem reset_listeners (speaker : Speaker) : speaker.reset_if_changed.1.tcp.listeners = speaker.tcp.listeners := by
  unfold reset_if_changed
  simp only
  split
  · exact Work.abort_all_listeners _ _
  · rfl

/-- What a reset leaves of the routes. -/
theorem reset_routes {speaker : Speaker} (listening : speaker.Listening) :
    speaker.reset_if_changed.2.router_id = speaker.router_id ∧
      (speaker.reset_if_changed.2.routes = [] ∨
        (speaker.config ≠ none ∧ speaker.router_id.isSome = true ∧ speaker.tcp.listeners.contains 179 = true)) := by
  unfold reset_if_changed
  simp only
  split
  · exact ⟨rfl,.inl rfl⟩
  · rename_i same
    simp only [not_or,not_not] at same
    refine ⟨same.2.1,?_⟩
    rcases listening with none | kept
    · exact .inl none
    · exact .inr ⟨same.2.2,same.2.1 ▸ kept.1,kept.2⟩

theorem tcp_listen_listeners {runtime next : TcpRuntime} {port : UInt16} (listens : runtime.tcp_listen port = .ok next) :
    next.listeners.contains port = true := by
  unfold TcpRuntime.tcp_listen at listens
  split at listens
  · cases listens
  · split at listens
    · cases listens
    · cases listens
      simp [OrderedMap.contains]

theorem tcp_listen_refused {runtime : TcpRuntime} {error : TcpRefusal} (refused : runtime.tcp_listen 179 = .error error) :
    runtime.listeners.contains 179 = false := by
  unfold TcpRuntime.tcp_listen at refused
  rw [if_neg (by decide)] at refused
  split at refused
  · rename_i full
    simpa using full.2
  · cases refused

/-- After a tick every route is installed as the current interfaces have it. -/
theorem bgp_tick_installed {speaker : Speaker} (listening : speaker.Listening) (now : SimTime) :
    (speaker.bgp_tick now).1.Listening ∧ ∀ route ∈ (speaker.bgp_tick now).1.bgp.routes,
      ∃ next_hop direct, Installed speaker.surroundings route next_hop direct := by
  obtain ⟨same_id,kept⟩ := reset_routes listening
  have listeners := speaker.reset_listeners
  unfold bgp_tick
  simp only
  generalize speaker.reset_if_changed = reset at same_id kept listeners
  have silent : ∀ (tcp : TcpRuntime) (bgp : BgpRuntime), bgp.routes = [] →
      ({ speaker with tcp := tcp, bgp := bgp } : Speaker).Listening ∧ ∀ route ∈ bgp.routes,
        ∃ next_hop direct, Installed speaker.surroundings route next_hop direct := by
    intro tcp bgp none
    refine ⟨.inl none,?_⟩
    rw [none]
    intro route member
    cases member
  split
  · rename_i none
    have empty : reset.2.routes = [] := kept.resolve_right (fun some => some.1 none)
    exact silent _ { reset.2 with listening := false } empty
  · rename_i config configured
    split
    · rename_i none
      refine silent _ reset.2 (kept.resolve_right (fun some => ?_))
      rw [none] at some
      exact absurd some.2.1 (by decide)
    · rename_i router_id known
      split
      · rename_i error refused
        refine silent _ reset.2 (kept.resolve_right (fun some => ?_))
        have missing := tcp_listen_refused refused
        rw [listeners,some.2.2] at missing
        cases missing
      · rename_i tcp listens
        dsimp only
        have admitted := run_process_installed speaker config router_id now { reset.1 with tcp := tcp }
          { reset.2 with listening := true }
        refine ⟨.inr ⟨?_,?_⟩,admitted⟩
        · show reset.2.router_id.isSome = true
          rw [same_id,known]
          rfl
        · rw [run_process_listeners]
          exact tcp_listen_listeners listens

theorem Reached.listening {speaker : Speaker} (reached : speaker.Reached) : speaker.Listening := by
  induction reached with
  | boot speaker fresh =>
    left
    rw [fresh]
    rfl
  | change speaker next before same still listening =>
    unfold Listening
    rw [same]
    exact listening.imp_right (fun kept => ⟨kept.1,still kept.2⟩)
  | tick speaker before now listening => exact (bgp_tick_installed listening now).1

end Speaker

/-! ### Resolution -/

section
variable {surroundings : Surroundings} {table : RoutingTable}

/-- The addresses that an address is resolved through, itself first. -/
def way (surroundings : Surroundings) (table : RoutingTable) : Nat → Ipv4Addr → List Ipv4Addr
  | 0,_ => []
  | rounds + 1,address =>
    address :: match surroundings.hop table address with
      | .Via next_hop => way surroundings table rounds next_hop
      | _ => []

variable {address : Ipv4Addr}

/-- One round, for a route whose interface is up and has an address. -/
theorem hop_of_route {route : Route} (winner : table.lookup address = some route) {interface : InterfaceId}
    (outgoing : route.outgoing_interface = some interface) (up : surroundings.protocol_up interface = true)
    {ip : Ipv4InterfaceConfig} (addressed : surroundings.interface_ipv4 interface = some ip) {port : Port}
    (known : surroundings.interfaces.get? interface = some port) :
    surroundings.hop table address =
      if route.next_hop.isNone || (attached ip).contains (route.next_hop.getD address) then
        .Egress ⟨interface,ip.address,port.mac_address,route.next_hop.getD address⟩
      else .Via (route.next_hop.getD address) := by
  unfold Surroundings.hop
  simp [winner,outgoing,up,addressed,known]

variable {resolved : ResolvedRoute}

/-- An egress is an interface that is up and has an address. -/
theorem hop_egress (egress : surroundings.hop table address = .Egress resolved) :
    surroundings.protocol_up resolved.interface = true ∧ ∃ ip port,
      surroundings.interface_ipv4 resolved.interface = some ip ∧
        surroundings.interfaces.get? resolved.interface = some port := by
  unfold Surroundings.hop at egress
  split at egress
  · cases egress
  · split at egress
    · cases egress
    · rename_i interface outgoing
      split at egress
      · cases egress
      · rename_i down
        split at egress
        · rename_i ip port addressed known
          simp only at egress
          split at egress
          · cases egress
            exact ⟨by simpa using down,ip,port,addressed,known⟩
          · cases egress
        · cases egress

theorem resolve_rounds_egress {rounds : Nat} {visited : List Ipv4Addr}
    (found : surroundings.resolve_rounds table rounds visited address = some resolved) :
    ∃ last, surroundings.hop table last = .Egress resolved := by
  induction rounds generalizing visited address with
  | zero => cases found
  | succ rounds ih =>
    rw [Surroundings.resolve_rounds] at found
    split at found
    · cases found
    · cases one : surroundings.hop table address with
      | Unreachable => rw [one] at found; cases found
      | Egress egress =>
        rw [one] at found
        cases found
        exact ⟨address,one⟩
      | Via next_hop =>
        rw [one] at found
        exact ih found

/-- No address on the way of a resolved one leads back to an address before it. -/
theorem way_forward {rounds : Nat} {visited : List Ipv4Addr}
    (found : surroundings.resolve_rounds table rounds visited address = some resolved) {between next_hop : Ipv4Addr}
    (member : between ∈ way surroundings table rounds address) (leads : surroundings.hop table between = .Via next_hop) :
    next_hop ∉ address :: visited := by
  induction rounds generalizing visited address with
  | zero => cases found
  | succ rounds ih =>
    rw [Surroundings.resolve_rounds] at found
    rw [way] at member
    split at found
    · cases found
    · cases one : surroundings.hop table address with
      | Unreachable => rw [one] at found; cases found
      | Egress egress =>
        rw [one] at member
        rw [List.mem_singleton] at member
        subst member
        rw [one] at leads
        cases leads
      | Via other =>
        rw [one] at member found
        rcases List.mem_cons.mp member with rfl | later
        · rw [one] at leads
          cases leads
          -- the next round has not met this address yet
          cases rounds with
          | zero => cases found
          | succ rounds =>
            simp only [Surroundings.resolve_rounds] at found
            split at found
            · cases found
            · rename_i fresh
              simpa using fresh
        · intro seen
          exact ih found later (List.mem_cons_of_mem other seen)

/-- Two tables resolve an address alike if the second takes over no address on the way in the first, or leads from
    there to the same neighbor. -/
theorem resolve_rounds_kept {other : RoutingTable} {rounds more : Nat} {visited : List Ipv4Addr} {start : Ipv4Addr}
    (found : surroundings.resolve_rounds table rounds visited address = some resolved)
    (short : (way surroundings table rounds address).length ≤ more) (apart : start ∉ way surroundings table rounds address)
    (kept : ∀ between ∈ way surroundings table rounds address, other.lookup between = table.lookup between ∨
    ∃ egress, surroundings.hop other between = .Egress egress ∧ egress.interface = resolved.interface ∧
    egress.next_hop = resolved.next_hop) :
    ∃ result, surroundings.resolve_rounds other more (visited ++ [start]) address = some result ∧
      result.interface = resolved.interface ∧ result.next_hop = resolved.next_hop := by
  induction rounds generalizing visited address more with
  | zero => cases found
  | succ rounds ih =>
    rw [Surroundings.resolve_rounds] at found
    rw [way] at short apart kept
    obtain ⟨more,rfl⟩ : ∃ fewer, more = fewer + 1 := ⟨more - 1,by rw [List.length_cons] at short; omega⟩
    rw [List.mem_cons,not_or] at apart
    split at found
    · cases found
    · rename_i fresh
      have unseen : (visited ++ [start]).contains address = false := by
        simp only [List.contains_eq_mem,decide_eq_true_eq] at fresh
        simp [fresh,Ne.symm apart.1]
      rw [Surroundings.resolve_rounds,unseen]
      simp only [Bool.false_eq_true,if_false]
      rcases kept address List.mem_cons_self with same | ⟨egress,straight,alike⟩
      · have hops : surroundings.hop other address = surroundings.hop table address := by
          unfold Surroundings.hop
          rw [same]
        rw [hops]
        cases one : surroundings.hop table address with
        | Unreachable => rw [one] at found; cases found
        | Egress egress =>
          rw [one] at found
          cases found
          exact ⟨resolved,rfl,rfl,rfl⟩
        | Via next_hop =>
          rw [one] at found
          simp only [one] at short apart kept
          exact ih found (by simpa using short) apart.2 (fun between later => kept between (List.mem_cons_of_mem _ later))
      · rw [straight]
        exact ⟨egress,rfl,alike⟩

end

/-! ### Usable routes -/

/-- An address gets to the interface and the neighbor that the next hop of its route is resolved to without BGP. -/
def Usable (surroundings : Surroundings) (bgp_routes : List Route) (address : Ipv4Addr) (route : Route) : Prop :=
  ∃ next_hop direct result, route.next_hop = some next_hop ∧ surroundings.resolve_non_bgp_route next_hop = some direct ∧
    surroundings.resolve_route bgp_routes address = some result ∧ result.interface = direct.interface ∧
    result.next_hop = direct.next_hop

/-- The way to the next hop of a route is not taken over: an attached next hop is its own neighbor, and any other is
    resolved through at most 15 addresses that BGP routes leave alone, or lead to the same neighbor. -/
def Undisturbed (surroundings : Surroundings) (bgp_routes : List Route) (route : Route) : Prop :=
  ∀ next_hop direct ip, Installed surroundings route next_hop direct →
    surroundings.interface_ipv4 direct.interface = some ip →
    if (attached ip).contains next_hop then direct.next_hop = next_hop
    else
      (way surroundings surroundings.routing_table_without_bgp 16 next_hop).length ≤ 15 ∧
        ∀ between ∈ way surroundings surroundings.routing_table_without_bgp 16 next_hop,
          (surroundings.routing_table bgp_routes).lookup between = surroundings.routing_table_without_bgp.lookup between ∨
            ∃ egress, surroundings.hop (surroundings.routing_table bgp_routes) between = .Egress egress ∧
              egress.interface = direct.interface ∧ egress.next_hop = direct.next_hop

theorem Installed.usable {surroundings : Surroundings} {bgp_routes : List Route} {route : Route} {next_hop : Ipv4Addr}
    {direct : ResolvedRoute} (admitted : Installed surroundings route next_hop direct)
    (undisturbed : Undisturbed surroundings bgp_routes route) {address : Ipv4Addr}
    (winner : (surroundings.routing_table bgp_routes).lookup address = some route) :
    Usable surroundings bgp_routes address route := by
  have resolves := admitted.resolves
  unfold Surroundings.resolve_non_bgp_route Surroundings.resolve_in_table at resolves
  obtain ⟨last,egress⟩ := resolve_rounds_egress resolves
  obtain ⟨up,ip,port,addressed,known⟩ := hop_egress egress
  have condition := undisturbed next_hop direct ip admitted addressed
  have first := hop_of_route winner admitted.egress up addressed known
  rw [admitted.leads,Option.getD_some,Option.isNone_some,Bool.false_or] at first
  refine ⟨next_hop,direct,?_⟩
  unfold Surroundings.resolve_route Surroundings.resolve_in_table
  rw [Surroundings.resolve_rounds]
  simp only [List.contains_nil,Bool.false_eq_true,if_false]
  by_cases near : (attached ip).contains next_hop = true
  · rw [if_pos near] at condition first
    rw [first]
    exact ⟨_,admitted.leads,admitted.resolves,rfl,rfl,condition.symm⟩
  · rw [if_neg near] at condition first
    rw [first]
    -- the address itself is not on the way of its next hop: it would lead back to it
    have apart : address ∉ way surroundings surroundings.routing_table_without_bgp 16 next_hop := by
      intro member
      rcases condition.2 address member with same | ⟨straight,one,-⟩
      · have hops : surroundings.hop surroundings.routing_table_without_bgp address = .Via next_hop := by
          rw [← first]
          unfold Surroundings.hop
          rw [same]
        exact way_forward resolves member hops List.mem_cons_self
      · rw [first] at one
        cases one
    obtain ⟨result,found,interface,neighbor⟩ := resolve_rounds_kept resolves condition.1 apart condition.2
    exact ⟨result,admitted.leads,admitted.resolves,found,interface,neighbor⟩

end Rios.Bgp
