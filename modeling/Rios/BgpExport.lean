import Rios.BgpRib

/-!
# Advertising the export table

What the two loops of a refresh do to a transport: which routes they withdraw and
announce before the queue is filled, and which of them close the session because
the encoder refuses their attributes.
-/

namespace Rios.Bgp
open Rios.Machine Rios.Device Rios.Tcp Rios.Routing

namespace PeerStream
variable {now : SimTime} {stream next : PeerStream}

/-! ### Queueing -/

theorem queue_eq_ok {message : BgpMessage} :
    stream.queue message = .ok next ↔ stream.output.length < TX_LIMIT ∧
      ∃ bytes, message.encode stream.fsm.four_octet_as = .ok bytes ∧
        next = { stream with output := stream.output ++ [bytes], updates := stream.updates ++ message.updates } := by
  unfold queue Stream.queue
  by_cases full : TX_LIMIT ≤ stream.output.length
  · rw [if_pos full]
    constructor
    · intro impossible; cases impossible
    · rintro ⟨room,-⟩; omega
  · rw [if_neg full]
    cases message.encode stream.fsm.four_octet_as with
    | error error => simp
    | ok bytes => simp [not_le.mp full,eq_comm]

theorem queue_encodes {message : BgpMessage} (room : stream.output.length < TX_LIMIT) :
    (∃ next, stream.queue message = .ok next) ↔ ∃ bytes, message.encode stream.fsm.four_octet_as = .ok bytes := by
  constructor
  · rintro ⟨next,queued⟩
    obtain ⟨-,bytes,encoded,-⟩ := queue_eq_ok.mp queued
    exact ⟨bytes,encoded⟩
  · rintro ⟨bytes,encoded⟩
    exact ⟨_,queue_eq_ok.mpr ⟨room,bytes,encoded,rfl⟩⟩

theorem open_session_iff : stream.open_session = true ↔ stream.closing = none ∧ stream.fsm.state = .Established := by
  simp [open_session]

/-- A transport that failed is closing. -/
theorem fail_closed (stream : PeerStream) (error : BgpError) (now : SimTime) :
    (stream.fail error now).open_session = false := rfl

/-! ### Withdrawals -/

/-- What a refresh leaves alone on a transport that stays open. -/
structure SameSession (before after : PeerStream) : Prop where
  fsm : after.fsm = before.fsm
  closing : after.closing = before.closing
  input : after.input = before.input
  started : after.started = before.started
  refreshed : after.refreshed = before.refreshed
  delivered : after.delivered = before.delivered

theorem SameSession.trans {first second third : PeerStream} (one : SameSession first second)
    (two : SameSession second third) : SameSession first third :=
  ⟨two.fsm.trans one.fsm,two.closing.trans one.closing,two.input.trans one.input,two.started.trans one.started,
    two.refreshed.trans one.refreshed,two.delivered.trans one.delivered⟩

/-- The free places of the queue for routes. -/
def room (stream : PeerStream) : Nat := TX_LIMIT / 2 - stream.output.length

/-- Withdrawals are always encoded; as many are queued as there are free places. -/
structure Withdrawn (before after : PeerStream) (networks : List Ipv4Network) : Prop where
  same : SameSession before after
  length : after.output.length = before.output.length + (networks.take before.room).length
  advertised : after.advertised = (networks.take before.room).foldl OrderedMap.erase before.advertised
  updates : after.updates = before.updates ++ (networks.take before.room).map withdrawal
  complete : after.stopped = false → before.stopped = false ∧ networks.length ≤ before.room

theorem withdraw_spec (now : SimTime) (networks : List Ipv4Network) (stream : PeerStream) :
    Withdrawn stream (stream.withdraw now networks) networks := by
  induction networks generalizing stream with
  | nil =>
    rw [withdraw]
    exact ⟨⟨rfl,rfl,rfl,rfl,rfl,rfl⟩,by simp,by simp,by simp,by simp⟩
  | cons network rest ih =>
    by_cases full : TX_LIMIT / 2 ≤ stream.output.length
    · have none : stream.room = 0 := by rw [room]; omega
      rw [withdraw,if_pos full]
      exact ⟨⟨rfl,rfl,rfl,rfl,rfl,rfl⟩,by simp [none],by simp [none],by simp [none],by simp⟩
    · have free : stream.output.length < TX_LIMIT := by simp only [TX_LIMIT] at full ⊢; omega
      obtain ⟨bytes,encoded⟩ := withdrawal_encodes network stream.fsm.four_octet_as
      have queued := queue_eq_ok.mpr ⟨free,bytes,encoded,rfl⟩
      rw [withdraw,if_neg full,queued]
      simp only
      generalize step : ({ stream with
        output := stream.output ++ [bytes]
        advertised := stream.advertised.erase network
        updates := stream.updates ++ (BgpMessage.Update (withdrawal network)).updates } : PeerStream) = between
      have output : between.output.length = stream.output.length + 1 := by simp [← step]
      have advertised : between.advertised = stream.advertised.erase network := by simp [← step]
      have updates : between.updates = stream.updates ++ [withdrawal network] := by simp [← step,BgpMessage.updates]
      have kept : SameSession stream between := by rw [← step]; exact ⟨rfl,rfl,rfl,rfl,rfl,rfl⟩
      have stops : between.stopped = stream.stopped := by simp [← step]
      have more : stream.room = between.room + 1 := by rw [room,room,output]; omega
      have later := ih between
      refine ⟨kept.trans later.same,?_,?_,?_,?_⟩
      · rw [later.length,output,more,List.take_succ_cons,List.length_cons]
        omega
      · rw [later.advertised,advertised,more,List.take_succ_cons,List.foldl_cons]
      · rw [later.updates,updates,more,List.take_succ_cons,List.map_cons,List.append_assoc,List.singleton_append]
      · intro ends
        obtain ⟨before,fits⟩ := later.complete ends
        exact ⟨stops ▸ before,by rw [List.length_cons,more]; omega⟩

/-! ### Announcements -/

/-- The routes whose advertised attributes differ from the wanted ones. -/
def changed (stream : PeerStream) (entries : List (Ipv4Network × BgpAttributes)) : List (Ipv4Network × BgpAttributes) :=
  entries.filter (fun entry => stream.advertised.get? entry.1 ≠ some entry.2)

/-- What is advertised for the other routes decides whether they have changed. -/
theorem changed_congr {before after : PeerStream} {entries : List (Ipv4Network × BgpAttributes)}
    (same : ∀ entry ∈ entries, after.advertised.get? entry.1 = before.advertised.get? entry.1) :
    after.changed entries = before.changed entries :=
  List.filter_congr (fun entry member => by rw [same entry member])

/-- The session survives exactly if every announcement that there is room for can be encoded. -/
theorem announce_open {entries : List (Ipv4Network × BgpAttributes)} (sorted : entries.Pairwise (fun a b => a.1 < b.1))
    (isOpen : stream.open_session = true) :
    (stream.announce now entries).open_session = true ↔
      ∀ route ∈ (stream.changed entries).take stream.room,
        ∃ bytes, (BgpMessage.Update (announcement route.1 route.2)).encode stream.fsm.four_octet_as = .ok bytes := by
  induction entries generalizing stream with
  | nil => simpa [announce,changed] using isOpen
  | cons entry rest ih =>
    obtain ⟨network,attributes⟩ := entry
    obtain ⟨above,tail⟩ := List.pairwise_cons.mp sorted
    have awake : stream.closing.isSome = false := by simp [(open_session_iff.mp isOpen).1]
    by_cases full : TX_LIMIT / 2 ≤ stream.output.length
    · have none : stream.room = 0 := by rw [room]; omega
      rw [announce,if_pos (by simp [full]),none,List.take_zero]
      exact iff_of_true isOpen (by simp)
    · rw [announce,if_neg (by simp [full,awake])]
      by_cases same : stream.advertised.get? network = some attributes
      · rw [if_pos same,ih tail isOpen,changed,changed,List.filter_cons_of_neg (by simpa using same)]
      · rw [if_neg same]
        have free : stream.output.length < TX_LIMIT := by simp only [TX_LIMIT] at full ⊢; omega
        have first : stream.changed ((network,attributes) :: rest) = (network,attributes) :: stream.changed rest :=
          List.filter_cons_of_pos (by simpa using same)
        have more : stream.room = TX_LIMIT / 2 - (stream.output.length + 1) + 1 := by rw [room]; omega
        rw [first,more,List.take_succ_cons,List.forall_mem_cons]
        cases queued : stream.queue (.Update (announcement network attributes)) with
        | error error =>
          have refused : ¬ ∃ bytes, (BgpMessage.Update (announcement network attributes)).encode
              stream.fsm.four_octet_as = .ok bytes := by
            rw [← queue_encodes free,queued]
            rintro ⟨next,impossible⟩
            cases impossible
          simp only [fail_closed,Bool.false_eq_true,false_iff]
          exact fun all => refused all.1
        | ok next =>
          obtain ⟨-,bytes,encoded,step⟩ := queue_eq_ok.mp queued
          simp only
          generalize announced : ({ next with advertised := next.advertised.insert network attributes } : PeerStream) = between
          have session : between.fsm = stream.fsm ∧ between.closing = stream.closing := by simp [← announced,step]
          have output : between.output.length = stream.output.length + 1 := by simp [← announced,step]
          have others : between.changed rest = stream.changed rest := by
            refine changed_congr (fun entry member => ?_)
            rw [← announced,step,OrderedMap.get?_insert,if_neg (above entry member).ne']
          have still : between.open_session = true := by
            rw [open_session_iff,session.1,session.2]
            exact open_session_iff.mp isOpen
          have later := ih tail still
          rw [later,others,session.1,room,output]
          exact (and_iff_right ⟨bytes,encoded⟩).symm

/-- The announcements that a refresh comes to. -/
def reached (stream : PeerStream) (desired : OrderedMap Ipv4Network BgpAttributes) : List (Ipv4Network × BgpAttributes) :=
  (stream.changed desired.entries).take (TX_LIMIT / 2 - (stream.output.length + (stream.unwanted desired).length))

/-- The withdrawals of a refresh do not touch the wanted routes. -/
theorem get?_withdrawn {desired : OrderedMap Ipv4Network BgpAttributes} {networks : List Ipv4Network}
    (others : ∀ network ∈ networks, desired.contains network = false) (table : OrderedMap Ipv4Network BgpAttributes) :
    ∀ entry ∈ desired.entries, (networks.foldl OrderedMap.erase table).get? entry.1 = table.get? entry.1 := by
  intro entry member
  induction networks generalizing table with
  | nil => rfl
  | cons network rest ih =>
    have present : desired.contains entry.1 = true :=
      (OrderedMap.contains_iff desired entry.1).mpr ⟨entry.2,(OrderedMap.get?_eq_some desired entry.1 entry.2).mpr member⟩
    have different : entry.1 ≠ network := by
      rintro rfl
      rw [others entry.1 List.mem_cons_self] at present
      cases present
    rw [List.foldl_cons,ih (fun other later => others other (List.mem_cons_of_mem network later)),OrderedMap.get?_erase,
      if_neg different]

theorem unwanted_others (stream : PeerStream) (desired : OrderedMap Ipv4Network BgpAttributes) :
    ∀ network ∈ stream.unwanted desired, desired.contains network = false := by
  intro network member
  simpa using (List.mem_filter.mp member).2

theorem refresh_open {desired : OrderedMap Ipv4Network BgpAttributes} (isOpen : stream.open_session = true) :
    (stream.refresh now desired).open_session = true ↔
      ∀ route ∈ stream.reached desired,
        ∃ bytes, (BgpMessage.Update (announcement route.1 route.2)).encode stream.fsm.four_octet_as = .ok bytes := by
  rw [refresh]
  generalize prepared : ({ stream with refreshed := some desired, stopped := false } : PeerStream) = start
  have session : start.fsm = stream.fsm ∧ start.closing = stream.closing := by simp [← prepared]
  have output : start.output = stream.output := by simp [← prepared]
  have table : start.advertised = stream.advertised := by simp [← prepared]
  have withdrawn := withdraw_spec now (stream.unwanted desired) start
  have others := unwanted_others stream desired
  have same : (start.withdraw now (stream.unwanted desired)).changed desired.entries = stream.changed desired.entries := by
    refine changed_congr (fun entry member => ?_)
    rw [withdrawn.advertised,table]
    exact get?_withdrawn (fun network taken => others network (List.mem_of_mem_take taken)) stream.advertised entry member
  have free : (start.withdraw now (stream.unwanted desired)).room =
      TX_LIMIT / 2 - (stream.output.length + (stream.unwanted desired).length) := by
    rw [room,withdrawn.length,List.length_take,room,output]
    omega
  rw [announce_open desired.sorted (by
      rw [open_session_iff,withdrawn.same.fsm,withdrawn.same.closing,session.1,session.2]
      exact open_session_iff.mp isOpen),same,free,withdrawn.same.fsm,session.1]
  rfl

end PeerStream

/-! ### Exported attributes -/

theorem insert_mem {table : OrderedMap Ipv4Network BgpAttributes} {network : Ipv4Network} {attributes : BgpAttributes}
    {entry : Ipv4Network × BgpAttributes} (member : entry ∈ (table.insert network attributes).entries) :
    entry = (network,attributes) ∨ entry ∈ table.entries := by
  have found := (OrderedMap.get?_eq_some _ entry.1 entry.2).mpr member
  rw [OrderedMap.get?_insert] at found
  split at found
  · rename_i same
    cases found
    exact .inl (Prod.ext same rfl)
  · exact .inr ((OrderedMap.get?_eq_some table entry.1 entry.2).mp found)

section
variable {policies : RoutingPolicyConfig} {config : BgpConfig} {attributes next : BgpAttributes}

theorem leave_as_sound {external : Bool} (sound : attributes.Sound true)
    (left : leave_as config external attributes = some next) :
    next.Sound true := by
  unfold leave_as at left
  split at left
  · cases prepended : attributes.prepend [config.local_as] with
    | error error => rw [prepended] at left; cases left
    | ok value =>
      rw [prepended] at left
      cases left
      have kept := BgpAttributes.prepend_sound sound prepended
      exact ⟨kept.path,kept.unknown⟩
  · cases left
    exact sound

/-- The partial bit is not among the two highest. -/
theorem or_and_high (flags : UInt8) : (flags ||| 0x20) &&& 0xc0 = flags &&& 0xc0 := by
  apply UInt8.toBitVec_inj.mp
  rw [UInt8.toBitVec_and,UInt8.toBitVec_or,UInt8.toBitVec_and]
  ext i
  interval_cases i <;> simp

/-- Marking keeps the bits that the encoder checks. -/
theorem mark_unknown_sound (sound : attributes.Sound true) : (mark_unknown attributes).Sound true := by
  refine ⟨sound.path,fun raw member => ?_,fun raw member => ?_,?_⟩
  · obtain ⟨old,before,rfl⟩ := List.mem_map.mp member
    have kept := sound.unknown.transitive old before
    show (old.flags ||| 0x20) &&& 0xc0 = 0xc0
    rw [or_and_high,kept]
  · obtain ⟨old,before,rfl⟩ := List.mem_map.mp member
    exact sound.unknown.fresh old before
  · have codes : (mark_unknown attributes).unknown_transitive.map (·.code) = attributes.unknown_transitive.map (·.code) := by
      simp [mark_unknown]
    rw [codes]
    exact sound.unknown.distinct

theorem exported_sound {router_id address local_address : Ipv4Addr} {peer : BgpNeighborConfig}
    {peer_router_id : Option Ipv4Addr} {network : Ipv4Network} {path : BgpPath} (sound : path.attributes.Sound true)
    (left : exported policies config router_id address peer local_address peer_router_id network path = some next) :
    next.Sound true := by
  unfold exported at left
  simp only at left
  split at left
  · cases left
  split at left
  · cases left
  obtain ⟨reflected,reflection,left⟩ := Option.bind_eq_some_iff.mp left
  have one : reflected.Sound true := by
    split at reflection
    · unfold reflect at reflection
      split at reflection
      · cases reflection
      · cases reflection
        exact ⟨sound.path,sound.unknown⟩
    · cases reflection
      exact sound
  obtain ⟨edited,edits,left⟩ := Option.bind_eq_some_iff.mp left
  have two : edited.Sound true := by
    refine BgpAttributes.apply_sound ?_ edits
    have scope : ∀ external, (for_scope external path reflected).Sound true := by
      intro external
      unfold for_scope
      split <;> exact ⟨one.path,one.unknown⟩
    split
    · exact ⟨(scope _).path,(scope _).unknown⟩
    · exact scope _
  split at left
  · cases left
  · obtain ⟨last,gone,rfl⟩ := Option.map_eq_some_iff.mp left
    exact mark_unknown_sound (leave_as_sound two gone)

theorem default_route_sound {prefixes : List Ipv4Network} {peer : BgpNeighborConfig} {local_address : Ipv4Addr}
    (left : default_route policies config prefixes peer local_address = some next) : next.Sound true := by
  unfold default_route at left
  split at left
  · cases left
  · obtain ⟨edited,edits,gone⟩ := Option.bind_eq_some_iff.mp left
    refine leave_as_sound ?_ gone
    split at edits
    · cases edits
      exact BgpAttributes.local_attributes_sound local_address
    · obtain ⟨entry,-,changed⟩ := Option.bind_eq_some_iff.mp edits
      exact BgpAttributes.set_attributes_sound (BgpAttributes.local_attributes_sound local_address) changed

/-- Whatever is exported is well formed; only its size and the width of its numbers can be refused. -/
theorem desired_routes_sound {router_id address : Ipv4Addr} {prefixes : List Ipv4Network}
    {best : OrderedMap Ipv4Network BgpPath} (sound : ∀ path ∈ best.values, path.attributes.Sound true)
    {peer : BgpNeighborConfig} {socket : TcpSocket} {stream : PeerStream} :
    ∀ entry ∈ (desired_routes policies config router_id prefixes best address peer socket stream).entries,
      entry.2.Sound true := by
  have learned : ∀ (entries : List (Ipv4Network × BgpPath)) (desired : OrderedMap Ipv4Network BgpAttributes),
      (∀ entry ∈ entries, entry.2.attributes.Sound true) → (∀ entry ∈ desired.entries, entry.2.Sound true) →
      ∀ entry ∈ (entries.foldl (insert_exported policies config router_id address peer socket stream) desired).entries,
        entry.2.Sound true := by
    intro entries
    induction entries with
    | nil => exact fun desired _ kept => kept
    | cons entry rest ih =>
      intro desired origin kept
      rw [List.forall_mem_cons] at origin
      refine ih _ origin.2 ?_
      unfold insert_exported
      split
      · exact kept
      · rename_i attributes left
        intro other member
        rcases insert_mem member with rfl | old
        · exact exported_sound origin.1 left
        · exact kept other old
  have whole := learned best.entries ∅ (fun entry member => sound entry.2 (List.mem_map_of_mem member)) (by simp)
  unfold desired_routes
  simp only
  split
  · exact whole
  · rename_i attributes left
    intro entry member
    rcases insert_mem member with rfl | old
    · exact default_route_sound left
    · exact whole entry old

end

/-! ### Sessions -/

namespace Peer

/-- The session on a peer's transport, after the routes of the device have been advertised. -/
def session_after (runtime : BgpRuntime) (address : Ipv4Addr) (socket : TcpSocket) : Option PeerStream :=
  (runtime.peers.get? address).bind (·.streams.get? socket)

end Peer

/-- An established session survives the export exactly if every changed route that there is room for can be
    represented in one message for the peer. -/
theorem export_keeps_session (surroundings : Surroundings) (policies : RoutingPolicyConfig) (config : BgpConfig)
    (router_id : Ipv4Addr) (now : SimTime) {runtime : BgpRuntime}
    (acquired : ∀ path ∈ runtime.best.values, path.attributes.Acquired) {address : Ipv4Addr} {peer : Peer}
    (known : runtime.peers.get? address = some peer) {socket : TcpSocket} {stream : PeerStream}
    (selected : peer.selected = some socket) (present : peer.streams.get? socket = some stream)
    (waking : stream.closing = none) (established : stream.fsm.state = .Established) :
    (∃ after, Peer.session_after (runtime.bgp_advertise surroundings policies config router_id now) address socket =
        some after ∧ after.closing = none ∧ after.fsm.state = .Established) ↔
      ∀ route ∈ stream.reached (desired_routes policies config router_id
          ((surroundings.routing_table runtime.routes).routes.map (·.network)) runtime.best address peer.config socket stream),
        Representable stream.fsm.four_octet_as route.1 route.2 := by
  have isOpen := PeerStream.open_session_iff.mpr ⟨waking,established⟩
  have exporting : peer.exporting = some (socket,stream) := by
    simp [Peer.exporting,selected,present,isOpen]
  have after : Peer.session_after (runtime.bgp_advertise surroundings policies config router_id now) address socket =
      some (stream.refresh now (desired_routes policies config router_id
        ((surroundings.routing_table runtime.routes).routes.map (·.network)) runtime.best address peer.config socket
        stream)) := by
    simp [Peer.session_after,BgpRuntime.bgp_advertise,OrderedMap.get?_mapValues,known,advertise_peer,exporting]
  have sound := @desired_routes_sound policies config router_id address
    ((surroundings.routing_table runtime.routes).routes.map (·.network)) runtime.best
    (fun path member => (acquired path member).sound) peer.config socket stream
  rw [after]
  generalize desired_routes policies config router_id ((surroundings.routing_table runtime.routes).routes.map (·.network))
    runtime.best address peer.config socket stream = desired at sound
  have survives := @PeerStream.refresh_open now stream desired isOpen
  rw [PeerStream.open_session_iff] at survives
  constructor
  · rintro ⟨_,⟨rfl⟩,alive⟩ route member
    have inside : route ∈ desired.entries := (List.mem_filter.mp (List.mem_of_mem_take member)).1
    exact (announcement_encodes (sound route inside) route.1 _).mp (survives.mp alive route member)
  · intro all
    refine ⟨_,rfl,survives.mpr (fun route member => ?_)⟩
    have inside : route ∈ desired.entries := (List.mem_filter.mp (List.mem_of_mem_take member)).1
    exact (announcement_encodes (sound route inside) route.1 _).mpr (all route member)

/-! ### A route that closes another session -/

/-- An UPDATE of a peer with four-octet AS numbers: 10.0.0.0/8 from AS 70000. -/
def wide_frame : List UInt8 :=
  List.replicate 16 255 ++ [0,45,2,0,0,0,20,64,1,1,0,64,2,6,2,1,0,1,17,112,64,3,4,192,0,2,1,8,10]

def wide_network : Ipv4Network := ⟨0x0a000000,8,by decide,by decide⟩

def wide_attributes : BgpAttributes := ⟨.Igp,[.Sequence [70000]],0xc0000201,false,none,none,none,[],[]⟩

theorem wide_acquired : wide_attributes.Acquired :=
  .received wide_frame true (announcement wide_network wide_attributes) wide_attributes (by decide +kernel) rfl

/-- A router in AS 65001 between AS 70000, behind 192.0.2.1, and AS 65002, behind 198.51.100.2. -/
def between_config : BgpConfig :=
  ⟨65001,some 0x01010101,none,
    .ofList [(0xc0000201,⟨70000,⟨none,none⟩,⟨none,none⟩,none,none,false,false⟩),
      (0xc6336402,⟨65002,⟨none,none⟩,⟨none,none⟩,none,none,false,false⟩)],∅⟩

/-- The transport to 198.51.100.2, whose OPEN did not name the capability of four-octet AS numbers. -/
def narrow_socket : TcpSocket := ⟨0xc6336401,49152,0xc6336402,179⟩

def narrow_stream : PeerStream :=
  ⟨⟨⟨.Established,some 0x02020202,false,180,some 0,none,65001,65002,0x01010101,180,0,some 180000000,some 60000000⟩,
    [],0,none⟩,⟨[]⟩,true,∅,[],none,false,[]⟩

def narrow_peer : Peer :=
  ⟨⟨65002,⟨none,none⟩,⟨none,none⟩,none,none,false,false⟩,.ofList [(narrow_socket,narrow_stream)],some narrow_socket,∅,0,0,
    .Established,none⟩

def between_runtime : BgpRuntime :=
  ⟨some 65001,some 0x01010101,true,.ofList [(0xc6336402,narrow_peer)],49152,[],
    .ofList [(wide_network,⟨wide_network,wide_attributes,some 0xc0000201,0x03030303,true,0⟩)]⟩

theorem between_acquired : ∀ path ∈ between_runtime.best.values, path.attributes.Acquired := by
  intro path member
  have only : path = ⟨wide_network,wide_attributes,some 0xc0000201,0x03030303,true,0⟩ := by
    simpa [between_runtime,OrderedMap.ofList,OrderedMap.values,OrderedMap.insert,OrderedMap.insertEntry] using member
  rw [only]
  exact wide_acquired

def no_surroundings : Surroundings := ⟨∅,∅,∅,[]⟩

theorem export_keeps_session_narrow :
    (∃ after, Peer.session_after (between_runtime.bgp_advertise no_surroundings .default between_config 0x01010101 1)
        0xc6336402 narrow_socket = some after ∧ after.closing = none ∧ after.fsm.state = .Established) ↔
      ∀ route ∈ narrow_stream.reached (desired_routes .default between_config 0x01010101
          ((no_surroundings.routing_table between_runtime.routes).routes.map (·.network)) between_runtime.best 0xc6336402
          narrow_peer.config narrow_socket narrow_stream),
        Representable narrow_stream.fsm.four_octet_as route.1 route.2 :=
  export_keeps_session no_surroundings .default between_config 0x01010101 1 between_acquired rfl rfl rfl rfl rfl

/-- The route of AS 70000 closes the session with AS 65002. -/
theorem export_closes_session :
    ¬ ∀ (surroundings : Surroundings) (policies : RoutingPolicyConfig) (config : BgpConfig) (router_id : Ipv4Addr)
      (now : SimTime) (runtime : BgpRuntime), (∀ path ∈ runtime.best.values, path.attributes.Acquired) →
      ∀ (address : Ipv4Addr) (peer : Peer) (socket : TcpSocket) (stream : PeerStream),
        runtime.peers.get? address = some peer → peer.selected = some socket → peer.streams.get? socket = some stream →
        stream.closing = none → stream.fsm.state = .Established →
        ∃ after, Peer.session_after (runtime.bgp_advertise surroundings policies config router_id now) address socket =
          some after ∧ after.closing = none ∧ after.fsm.state = .Established := by
  intro always
  obtain ⟨after,found,waking,-⟩ := always no_surroundings .default between_config 0x01010101 1 between_runtime
    between_acquired 0xc6336402 narrow_peer narrow_socket narrow_stream rfl rfl rfl rfl rfl
  have closed : (Peer.session_after (between_runtime.bgp_advertise no_surroundings .default between_config 0x01010101 1)
      0xc6336402 narrow_socket).map (·.closing.isSome) = some true := by decide +kernel
  rw [found,Option.map_some,waking] at closed
  cases closed

end Rios.Bgp
