import Rios.BgpTables

/-!
# Peers over whole runs

At the end of every tick, only the selected transport of a peer is open, and what the
peer is taken to have told is the replay of what that transport has delivered.
-/

namespace Rios.Bgp
open Rios.Machine Rios.Device Rios.Tcp Rios.Routing

namespace Peer

/-- What holds of a peer between ticks. -/
structure Sound (peer : Peer) : Prop where
  faithful : ∀ socket stream, peer.streams.get? socket = some stream → stream.Faithful
  chosen : ∀ socket stream, peer.streams.get? socket = some stream → stream.open_session = true → peer.selected = some socket
  present : ∀ socket, peer.selected = some socket →
    ∃ stream, peer.streams.get? socket = some stream ∧ peer.received = replay_received stream.delivered

theorem new_sound (config : BgpNeighborConfig) (now : SimTime) : (Peer.new config now).Sound :=
  ⟨by simp [Peer.new],by simp [Peer.new],by simp [Peer.new]⟩

/-- Only the transports and what is known of the selected one matter. -/
theorem Sound.congr {peer other : Peer} (sound : peer.Sound) (streams : other.streams = peer.streams)
    (selected : other.selected = peer.selected) (received : other.received = peer.received) : other.Sound := by
  refine ⟨?_,?_,?_⟩
  · rw [streams]
    exact sound.faithful
  · rw [streams,selected]
    exact sound.chosen
  · rw [streams,selected,received]
    exact sound.present

/-- A transport may be removed, with the selection if it was selected. -/
theorem Sound.erase {peer other : Peer} (sound : peer.Sound) (socket : TcpSocket)
    (streams : other.streams = peer.streams.erase socket)
    (selected : other.selected = if peer.selected = some socket then none else peer.selected)
    (received : peer.selected ≠ some socket → other.received = peer.received) : other.Sound := by
  refine ⟨fun key stream found => ?_,fun key stream found opened => ?_,fun key chosen => ?_⟩
  · rw [streams] at found
    exact sound.faithful key stream (OrderedMap.get?_erase_some found)
  · rw [streams,OrderedMap.get?_erase] at found
    split at found
    · cases found
    · rename_i different
      have old := sound.chosen key stream found opened
      rw [selected,old,if_neg (by simpa using different)]
  · rw [selected] at chosen
    split at chosen
    · cases chosen
    · rename_i different
      obtain ⟨stream,found,told⟩ := sound.present key chosen
      refine ⟨stream,?_,(received different).trans told⟩
      rw [streams,OrderedMap.get?_erase,if_neg ?_]
      · exact found
      · rintro rfl
        exact different chosen

theorem drop_stale_sound {peer : Peer} (sound : peer.Sound) (now : SimTime) (socket : TcpSocket) :
    (peer.drop_stale now socket).Sound := by
  refine sound.erase socket ?_ ?_ ?_
  · unfold drop_stale
    simp only
    split <;> rfl
  · unfold drop_stale
    simp only
    split <;> rfl
  · intro different
    unfold drop_stale
    simp only
    rw [if_neg different]

variable {socket : TcpSocket}

/-- A transport that is not open may be added under a new socket. -/
theorem Sound.add {peer other : Peer} (sound : peer.Sound) {stream : PeerStream}
    (fresh : peer.streams.get? socket = none) (faithful : stream.Faithful) (closed : stream.open_session = false)
    (streams : other.streams = peer.streams.insert socket stream) (selected : other.selected = peer.selected)
    (received : other.received = peer.received) : other.Sound := by
  refine ⟨fun key found present => ?_,fun key found present opened => ?_,fun key chosen => ?_⟩
  · rw [streams,OrderedMap.get?_insert] at present
    split at present
    · cases present
      exact faithful
    · exact sound.faithful key found present
  · rw [streams,OrderedMap.get?_insert] at present
    split at present
    · cases present
      rw [closed] at opened
      cases opened
    · rw [selected]
      exact sound.chosen key found present opened
  · rw [selected] at chosen
    obtain ⟨old,found,told⟩ := sound.present key chosen
    refine ⟨old,?_,received.trans told⟩
    rw [streams,OrderedMap.get?_insert,if_neg ?_]
    · exact found
    · rintro rfl
      rw [fresh] at found
      cases found

theorem accept_sound {config : BgpConfig} {router_id : Ipv4Addr} {now : SimTime} {state : Work × Peer}
    (sound : state.2.Sound) (fresh : state.2.streams.get? socket = none) :
    (accept config router_id now state socket).2.Sound := by
  unfold accept
  split
  · exact sound
  · split
    · exact sound
    · rename_i stream created
      obtain ⟨faithful,-,closed⟩ := PeerStream.new_faithful created
      exact sound.add fresh faithful closed rfl rfl rfl

/-- Accepting one connection leaves the other sockets alone. -/
theorem accept_get? (config : BgpConfig) (router_id : Ipv4Addr) (now : SimTime) (state : Work × Peer) {key : TcpSocket}
    (different : key ≠ socket) :
    (accept config router_id now state socket).2.streams.get? key = state.2.streams.get? key := by
  unfold accept
  split
  · rfl
  · split
    · rfl
    · rw [OrderedMap.get?_insert,if_neg different]

theorem accept_all_sound (config : BgpConfig) (router_id : Ipv4Addr) (now : SimTime) {sockets : List TcpSocket}
    (distinct : sockets.Nodup) (state : Work × Peer) (sound : state.2.Sound)
    (fresh : ∀ socket ∈ sockets, state.2.streams.get? socket = none) :
    (sockets.foldl (accept config router_id now) state).2.Sound := by
  induction sockets generalizing state with
  | nil => exact sound
  | cons socket rest ih =>
    rw [List.nodup_cons] at distinct
    rw [List.foldl_cons]
    refine ih distinct.2 _ (accept_sound sound (fresh socket List.mem_cons_self)) (fun other later => ?_)
    have different : other ≠ socket := fun same => distinct.1 (same ▸ later)
    rw [accept_get? config router_id now state different]
    exact fresh other (List.mem_cons_of_mem socket later)

theorem incoming_fresh (connections : OrderedMap TcpSocket TcpConnection) (address : Ipv4Addr) (peer : Peer) :
    (peer.incoming connections address).Nodup ∧
      ∀ socket ∈ peer.incoming connections address, peer.streams.get? socket = none := by
  constructor
  · exact (List.Sublist.map Prod.fst List.filter_sublist).nodup connections.keys_nodup
  · intro socket member
    obtain ⟨entry,kept,rfl⟩ := List.mem_map.mp member
    have unknown := (List.mem_filter.mp kept).2
    simp only [Bool.and_eq_true,Bool.not_eq_true'] at unknown
    exact Option.not_isSome_iff_eq_none.mp (by simpa [OrderedMap.contains] using unknown.2)

theorem Sound.with_timer {peer : Peer} (sound : peer.Sound) (retry_at : SimTime) (state : BgpState) :
    Sound { peer with retry_at := retry_at, state := state } := sound.congr rfl rfl rfl

/-- A transport that is not open may be added to a peer without transports, with new timers. -/
theorem Sound.opened {peer : Peer} (sound : peer.Sound) (empty : peer.streams.entries = []) (socket : TcpSocket)
    {stream : PeerStream} (faithful : stream.Faithful) (closed : stream.open_session = false) (retry_at : SimTime)
    (state : BgpState) :
    Sound { peer with retry_at := retry_at, state := state, streams := peer.streams.insert socket stream } := by
  have fresh : peer.streams.get? socket = none := by
    rw [OrderedMap.get?,empty]
    rfl
  exact sound.add fresh faithful closed rfl rfl rfl

theorem active_open_sound (surroundings : Surroundings) (config : BgpConfig) (router_id : Ipv4Addr) (now : SimTime)
    (address : Ipv4Addr) (work : Work) {peer : Peer} (sound : peer.Sound) :
    (active_open surroundings config router_id now address work peer).2.Sound := by
  unfold active_open
  split
  · rename_i idle
    have empty : peer.streams.entries = [] := List.isEmpty_iff.mp idle.1
    simp only
    split
    · exact sound.with_timer _ _
    · rename_i local_address chosen
      generalize free_port work.tcp.connections local_address address 16384 work.next_port = tried
      split
      · exact sound.with_timer _ _
      · split
        · exact sound.with_timer _ _
        · rename_i stream created
          split
          · exact sound.with_timer _ _
          · obtain ⟨faithful,-,closed⟩ := PeerStream.new_faithful created
            exact sound.opened empty _ faithful closed _ _
  · exact sound

/-! ### Serving all transports -/

/-- The UPDATEs of one transport among those of all. -/
def updatesOf (socket : TcpSocket) (updates : List (TcpSocket × BgpUpdate)) : List BgpUpdate :=
  (updates.filter (·.1 = socket)).map (·.2)

theorem updatesOf_append (socket : TcpSocket) (first second : List (TcpSocket × BgpUpdate)) :
    updatesOf socket (first ++ second) = updatesOf socket first ++ updatesOf socket second := by
  simp [updatesOf]

theorem updatesOf_tagged (socket key : TcpSocket) (updates : List BgpUpdate) :
    updatesOf socket (updates.map (fun update => (key,update))) = if socket = key then updates else [] := by
  unfold updatesOf
  by_cases same : socket = key
  · subst same
    simp [List.filter_map,Function.comp_def]
  · have other : key ≠ socket := Ne.symm same
    simp [List.filter_map,Function.comp_def,same,other]

section
variable (config : BgpConfig) (router_id : Ipv4Addr) (remote_as : UInt32) (now : SimTime)

/-- Each transport is served once, and its UPDATEs are found under its socket. -/
theorem serve_entries_spec {entries : List (TcpSocket × PeerStream)} (sorted : entries.Pairwise (fun a b => a.1 < b.1))
    (faithful : ∀ entry ∈ entries, entry.2.Faithful) (state : Served) :
    (∀ key, OrderedMap.lookupEntry key entries = none →
      (entries.foldl (serve_one config router_id remote_as now) state).streams.get? key = state.streams.get? key ∧
        updatesOf key (entries.foldl (serve_one config router_id remote_as now) state).updates = updatesOf key state.updates) ∧
    ∀ key before, OrderedMap.lookupEntry key entries = some before →
      ∃ after more, (entries.foldl (serve_one config router_id remote_as now) state).streams.get? key = some after ∧
        updatesOf key (entries.foldl (serve_one config router_id remote_as now) state).updates =
          updatesOf key state.updates ++ more ∧
        PeerStream.ServedBy (PeerStream.reception config router_id remote_as) before after more := by
  induction entries generalizing state with
  | nil =>
    refine ⟨fun key _ => ⟨rfl,rfl⟩,fun key before impossible => ?_⟩
    cases impossible
  | cons entry rest ih =>
    obtain ⟨socket,stream⟩ := entry
    obtain ⟨above,tail⟩ := List.pairwise_cons.mp sorted
    rw [List.forall_mem_cons] at faithful
    have served := PeerStream.serve_served config router_id remote_as now socket state.work faithful.1
    obtain ⟨untouched,touched⟩ := ih tail faithful.2 (serve_one config router_id remote_as now state (socket,stream))
    have absent : OrderedMap.lookupEntry socket rest = none := by
      cases found : OrderedMap.lookupEntry socket rest with
      | none => rfl
      | some other => exact absurd (above _ ((OrderedMap.lookupEntry_eq_some tail socket other).mp found)) (lt_irrefl _)
    rw [List.foldl_cons]
    have streams : ∀ key, (serve_one config router_id remote_as now state (socket,stream)).streams.get? key =
        if key = socket then some (stream.serve config router_id remote_as now socket state.work).2.1
        else state.streams.get? key := by
      intro key
      show (state.streams.insert socket _).get? key = _
      rw [OrderedMap.get?_insert]
      by_cases here : key = socket <;> simp only [here,if_true,if_false]
    have updates : ∀ key, updatesOf key (serve_one config router_id remote_as now state (socket,stream)).updates =
        updatesOf key state.updates ++
          if key = socket then (stream.serve config router_id remote_as now socket state.work).2.2 else [] := by
      intro key
      rw [← updatesOf_tagged key socket,← updatesOf_append]
      rfl
    constructor
    · intro key missing
      rw [OrderedMap.lookupEntry] at missing
      split at missing
      · cases missing
      · rename_i different
        obtain ⟨same,none⟩ := untouched key missing
        rw [same,none,streams,updates,if_neg different,if_neg different,List.append_nil]
        exact ⟨rfl,rfl⟩
    · intro key before found
      rw [OrderedMap.lookupEntry] at found
      split at found
      · rename_i here
        cases found
        subst here
        obtain ⟨same,all⟩ := untouched key absent
        refine ⟨_,(stream.serve config router_id remote_as now key state.work).2.2,?_,?_,served⟩
        · rw [same,streams,if_pos rfl]
        · rw [all,updates,if_pos rfl]
      · rename_i different
        obtain ⟨after,more,same,all,kept⟩ := touched key before found
        refine ⟨after,more,same,?_,kept⟩
        rw [all,updates,if_neg different,List.append_nil]

end

/-- Serving the transports of a sound peer. -/
theorem serve_all_spec (config : BgpConfig) (router_id : Ipv4Addr) (now : SimTime) (work : Work) {peer : Peer}
    (sound : peer.Sound) :
    (∀ socket after, (serve_all config router_id now work peer).streams.get? socket = some after →
      ∃ before, peer.streams.get? socket = some before ∧
        PeerStream.ServedBy (PeerStream.reception config router_id peer.config.remote_as) before after
          (updatesOf socket (serve_all config router_id now work peer).updates)) := by
  intro socket after found
  have faithful : ∀ entry ∈ peer.streams.entries, entry.2.Faithful := fun entry member =>
    sound.faithful entry.1 entry.2 ((OrderedMap.get?_eq_some _ _ _).mpr member)
  obtain ⟨untouched,touched⟩ := serve_entries_spec config router_id peer.config.remote_as now peer.streams.sorted faithful
    ⟨work,∅,[]⟩
  cases before : peer.streams.get? socket with
  | none =>
    have missing := (untouched socket before).1
    unfold serve_all at found
    rw [missing] at found
    cases found
  | some stream =>
    obtain ⟨served,more,same,all,kept⟩ := touched socket stream before
    unfold serve_all at found ⊢
    rw [same] at found
    cases found
    refine ⟨stream,rfl,?_⟩
    rw [all]
    exact kept

/-! ### Collisions -/

variable {streams : OrderedMap TcpSocket PeerStream}

theorem collide_get? {router_id address : Ipv4Addr} {now : SimTime} {after : PeerStream}
    (found : (collide router_id address now streams).get? socket = some after) :
    ∃ before, streams.get? socket = some before ∧ (after = before ∨ after = before.fail ⟨6,7⟩ now) := by
  unfold collide at found
  split at found
  · exact ⟨after,found,.inl rfl⟩
  · rw [OrderedMap.get?_mapValues] at found
    obtain ⟨before,present,rfl⟩ := Option.map_eq_some_iff.mp found
    refine ⟨before,present,?_⟩
    split
    · exact .inr rfl
    · exact .inl rfl

/-- After a collision at most one transport is open. -/
theorem collide_unique {router_id address : Ipv4Addr} {now : SimTime}
    (faithful : ∀ socket stream, streams.get? socket = some stream → stream.Faithful) {first second : TcpSocket}
    {one two : PeerStream} (here : (collide router_id address now streams).get? first = some one)
    (there : (collide router_id address now streams).get? second = some two) (openOne : one.open_session = true)
    (openTwo : two.open_session = true) : first = second := by
  have candidate : ∀ {socket : TcpSocket} {stream : PeerStream}, streams.get? socket = some stream →
      stream.open_session = true → (socket,stream) ∈ streams.entries.filter (fun entry => colliding entry.2) := by
    intro socket stream found opened
    obtain ⟨waking,established⟩ := PeerStream.open_session_iff.mp opened
    have begun := (faithful socket stream found).begun (by rw [established]; rfl)
    exact List.mem_filter.mpr ⟨(OrderedMap.get?_eq_some _ _ _).mp found,by simp [colliding,begun,waking]⟩
  have survivor : ∀ {socket : TcpSocket} {after : PeerStream}, (collide router_id address now streams).get? socket =
    some after →
      after.open_session = true → streams.get? socket = some after := by
    intro socket after found opened
    obtain ⟨before,present,rfl | rfl⟩ := collide_get? found
    · exact present
    · rw [PeerStream.fail_closed] at opened
      cases opened
  have firstFound := survivor here openOne
  have secondFound := survivor there openTwo
  by_contra different
  -- an established transport is the winner, and both would have to be it
  have many : ¬ (streams.entries.filter (fun entry => colliding entry.2)).length ≤ 1 := by
    intro few
    have inFirst := candidate firstFound openOne
    have inSecond := candidate secondFound openTwo
    obtain ⟨only,single⟩ := List.length_eq_one_iff.mp (le_antisymm few (List.length_pos_of_mem inFirst))
    rw [single,List.mem_singleton] at inFirst inSecond
    exact different (congrArg Prod.fst (inFirst.trans inSecond.symm))
  obtain ⟨remote_id,identified⟩ : ∃ remote_id, (streams.entries.filter (fun entry => colliding entry.2)).findSome?
      (·.2.fsm.peer_router_id) = some remote_id := by
    refine Option.isSome_iff_exists.mp (List.findSome?_isSome_iff.mpr ⟨_,candidate firstFound openOne,?_⟩)
    exact (faithful first one firstFound).identified (.inr (PeerStream.open_session_iff.mp openOne).2)
  obtain ⟨kept,established⟩ : ∃ kept, (streams.entries.filter (fun entry => colliding entry.2)).find?
      (·.2.fsm.state = .Established) = some kept := by
    refine Option.isSome_iff_exists.mp (List.find?_isSome.mpr ⟨_,candidate firstFound openOne,?_⟩)
    simpa using (PeerStream.open_session_iff.mp openOne).2
  have wins : winner router_id address (streams.entries.filter (fun entry => colliding entry.2)) = some kept.1 := by
    rw [winner,if_neg many,identified]
    simp [established]
  have is_kept : ∀ {socket : TcpSocket} {after : PeerStream}, (collide router_id address now streams).get? socket =
    some after →
      after.open_session = true → socket = kept.1 := by
    intro socket after found opened
    by_contra other
    have present := survivor found opened
    unfold collide at found
    rw [wins] at found
    simp only [OrderedMap.get?_mapValues,present,Option.map_some,Option.some.injEq] at found
    have collides : colliding after = true := (List.mem_filter.mp (candidate present opened)).2
    rw [if_pos (by simp [collides,other])] at found
    rw [← found,PeerStream.fail_closed] at opened
    cases opened
  exact different ((is_kept here openOne).trans (is_kept there openTwo).symm)

/-- What is chosen is open, and an open transport is chosen if there is only one. -/
theorem choose_open {selected : Option TcpSocket} (chosen : choose selected streams = some socket) :
    ∃ stream, streams.get? socket = some stream ∧ stream.open_session = true := by
  unfold choose at chosen
  cases old : selected.filter (fun socket => (streams.get? socket).any PeerStream.open_session) with
  | some kept =>
    rw [old] at chosen
    cases chosen
    have open_still := (Option.filter_eq_some_iff.mp old).2
    cases found : streams.get? socket with
    | none =>
      rw [found] at open_still
      cases open_still
    | some stream =>
      rw [found] at open_still
      exact ⟨stream,rfl,open_still⟩
  | none =>
    rw [old] at chosen
    change (streams.entries.find? (·.2.open_session)).map (·.1) = some socket at chosen
    obtain ⟨entry,found,rfl⟩ := Option.map_eq_some_iff.mp chosen
    exact ⟨entry.2,(OrderedMap.get?_eq_some _ _ _).mpr (List.mem_of_find?_eq_some found),by
      simpa using List.find?_some found⟩

theorem choose_unique (selected : Option TcpSocket) {stream : PeerStream} (found : streams.get? socket = some stream)
    (opened : stream.open_session = true)
    (unique : ∀ other one, streams.get? other = some one → one.open_session = true → other = socket) :
    choose selected streams = some socket := by
  cases chosen : choose selected streams with
  | some other =>
    obtain ⟨one,present,isOpen⟩ := choose_open chosen
    rw [unique other one present isOpen]
  | none =>
    unfold choose at chosen
    cases old : selected.filter (fun socket => (streams.get? socket).any PeerStream.open_session) with
    | some kept =>
      rw [old] at chosen
      cases chosen
    | none =>
      rw [old] at chosen
      change (streams.entries.find? (·.2.open_session)).map (·.1) = none at chosen
      have none := List.find?_eq_none.mp (Option.map_eq_none_iff.mp chosen) _ ((OrderedMap.get?_eq_some _ _ _).mp found)
      exact absurd opened none

/-! ### Received UPDATEs -/

section
variable {config : BgpConfig} {router_id : Ipv4Addr} {now : SimTime}

/-- The loop over announced prefixes, where the table has room for all of them. -/
theorem insert_announced_replay {networks : List Ipv4Network} {leads_back : Bool} {attributes : BgpAttributes}
    {received result : OrderedMap Ipv4Network BgpAttributes}
    (inserted : insert_announced leads_back attributes networks received = some result) :
    result = networks.foldl (fun table network =>
      if leads_back then table.erase network else table.insert network attributes) received := by
  induction networks generalizing received with
  | nil =>
    rw [insert_announced] at inserted
    cases inserted
    rfl
  | cons network rest ih =>
    rw [insert_announced] at inserted
    rw [List.foldl_cons]
    by_cases back : leads_back = true
    · rw [if_pos back] at inserted ⊢
      exact ih inserted
    · rw [if_neg back] at inserted ⊢
      by_cases full : ROUTE_LIMIT ≤ received.size ∧ (!received.contains network) = true
      · rw [if_pos full] at inserted
        cases inserted
      · rw [if_neg full] at inserted
        exact ih inserted

/-- What holds of a peer while UPDATEs are received: `told` is what its selected transport has told so far. -/
structure Receiving (selected : Option TcpSocket) (remote_as : UInt32) (whole told : List Reception) (peer : Peer) : Prop where
  faithful : ∀ socket stream, peer.streams.get? socket = some stream → stream.Faithful
  chosen : ∀ socket stream, peer.streams.get? socket = some stream → stream.open_session = true → selected = some socket
  present : ∀ socket, selected = some socket → ∃ stream, peer.streams.get? socket = some stream ∧ stream.delivered = whole ∧
    (stream.closing = none → peer.received = replay_received told)
  remote_as : peer.config.remote_as = remote_as
  selected : peer.selected = selected

variable {selected : Option TcpSocket} {remote_as : UInt32} {whole told : List Reception} {peer : Peer}

theorem Receiving.reject (receiving : Receiving selected remote_as whole told peer) {socket : TcpSocket}
    (key : selected = some socket) {stream : PeerStream} (found : peer.streams.get? socket = some stream)
    (received : OrderedMap Ipv4Network BgpAttributes) (error : BgpError) (told' : List Reception) :
    Receiving selected remote_as whole told' (Peer.reject { peer with received := received } socket stream error now) := by
  obtain ⟨same,closing,ended,delivered⟩ := stream.fail_same error now
  refine ⟨fun other one here => ?_,fun other one here opened => ?_,fun other chosen => ?_,receiving.remote_as,
    receiving.selected⟩
  · change (peer.streams.insert socket (stream.fail error now)).get? other = some one at here
    rw [OrderedMap.get?_insert] at here
    split at here
    · cases here
      exact (receiving.faithful socket stream found).closed same closing ended
    · exact receiving.faithful other one here
  · change (peer.streams.insert socket (stream.fail error now)).get? other = some one at here
    rw [OrderedMap.get?_insert] at here
    split at here
    · cases here
      rw [PeerStream.fail_closed] at opened
      cases opened
    · exact receiving.chosen other one here opened
  · have same : socket = other := Option.some.inj (key.symm.trans chosen)
    subst same
    refine ⟨stream.fail error now,?_,?_,fun waking => ?_⟩
    · show (peer.streams.insert socket (stream.fail error now)).get? socket = _
      rw [OrderedMap.get?_insert,if_pos rfl]
    · obtain ⟨one,here,all,-⟩ := receiving.present socket key
      rw [found] at here
      cases here
      rw [delivered,all]
    · rw [waking] at closing
      cases closing

theorem Receiving.hear (receiving : Receiving selected remote_as whole told peer) {told' : List Reception}
    {received : OrderedMap Ipv4Network BgpAttributes} (replayed : received = replay_received told') :
    Receiving selected remote_as whole told' { peer with received := received } :=
  ⟨receiving.faithful,receiving.chosen,fun socket chosen => by
      obtain ⟨stream,found,all,-⟩ := receiving.present socket chosen
      exact ⟨stream,found,all,fun _ => replayed⟩,receiving.remote_as,receiving.selected⟩

theorem replay_received_append (told : List Reception) (reception : Reception) :
    replay_received (told ++ [reception]) = Reception.replay (replay_received told) reception := by
  rw [replay_received,List.foldl_append]
  rfl

variable (config router_id now)

/-- One UPDATE of the selected transport is replayed, or the transport is closed. -/
theorem receive_update_receiving (receiving : Receiving selected remote_as whole told peer) {socket : TcpSocket}
    (key : selected = some socket) (update : BgpUpdate) :
    Receiving selected remote_as whole (told ++ [PeerStream.reception config router_id remote_as update])
      (receive_update config router_id now selected peer (socket,update)) := by
  obtain ⟨stream,found,all,known⟩ := receiving.present socket key
  unfold receive_update
  rw [if_neg (not_not.mpr key)]
  by_cases shut : stream.closing.isSome = true
  · have none : (peer.streams.get? socket).filter (·.closing.isNone) = none := by
      rw [found]
      simpa [Option.filter,Option.isSome_iff_ne_none] using shut
    rw [none]
    refine ⟨receiving.faithful,receiving.chosen,fun other chosen => ?_,receiving.remote_as,receiving.selected⟩
    cases key.symm.trans chosen
    refine ⟨stream,found,all,fun waking => ?_⟩
    rw [waking] at shut
    cases shut
  have waking : stream.closing = none := by simpa using shut
  have some_stream : (peer.streams.get? socket).filter (·.closing.isNone) = some stream := by
    rw [found]
    simp [Option.filter,waking]
  rw [some_stream]
  have before := known waking
  simp only
  cases carried : update.attributes with
  | none =>
    refine receiving.hear ?_
    rw [replay_received_append,← before]
    simp [Reception.replay,PeerStream.reception,carried]
  | some attributes =>
    simp only
    split
    · exact receiving.reject key found _ _ _
    · split
      · exact receiving.reject key found _ _ _
      · rename_i result inserted
        refine receiving.hear ?_
        rw [insert_announced_replay inserted,replay_received_append,← before,receiving.remote_as]
        have back : looped config router_id (if (decide (remote_as ≠ config.local_as)) = true then
              { attributes with local_preference := none } else attributes) =
            (PeerStream.reception config router_id remote_as update).looped attributes := by
          split <;> rfl
        simp only [Reception.replay,PeerStream.reception,carried,Option.elim_some] at back ⊢
        rw [back]
        rfl

/-- All UPDATEs of one tick. -/
theorem receive_updates_receiving {socket : TcpSocket} (key : selected = some socket)
    (updates : List (TcpSocket × BgpUpdate)) (receiving : Receiving selected remote_as whole told peer) :
    Receiving selected remote_as whole
      (told ++ (updatesOf socket updates).map (PeerStream.reception config router_id remote_as))
      (updates.foldl (receive_update config router_id now selected) peer) := by
  induction updates generalizing peer told with
  | nil => simpa [updatesOf] using receiving
  | cons entry rest ih =>
    obtain ⟨origin,update⟩ := entry
    rw [List.foldl_cons]
    by_cases same : origin = socket
    · subst same
      have next := ih (receive_update_receiving config router_id now receiving key update)
      simpa [updatesOf] using next
    · have skipped : receive_update config router_id now selected peer (origin,update) = peer := by
        unfold receive_update
        rw [if_pos]
        rw [key]
        exact fun other => same (Option.some.inj other).symm
      rw [skipped]
      have next := ih receiving
      simpa [updatesOf,same] using next

/-- Without a selected transport nothing is received. -/
theorem receive_updates_none (updates : List (TcpSocket × BgpUpdate)) (peer : Peer) :
    updates.foldl (receive_update config router_id now none) peer = peer := by
  induction updates with
  | nil => rfl
  | cons entry rest ih =>
    rw [List.foldl_cons]
    exact ih

end

/-! ### A whole tick of a peer -/

section
variable {config : BgpConfig} {router_id : Ipv4Addr} {now : SimTime}

variable {peer : Peer}

/-- After collisions and received UPDATEs only the selected transport is open. -/
theorem settle_sound {address : Ipv4Addr} {before : Peer} {updates : List (TcpSocket × BgpUpdate)}
    (sound : before.Sound) (selected : peer.selected = before.selected) (received : peer.received = before.received)
    (served : ∀ socket after, peer.streams.get? socket = some after →
    ∃ stream, before.streams.get? socket = some stream ∧
    PeerStream.ServedBy (PeerStream.reception config router_id peer.config.remote_as) stream after
    (updatesOf socket updates)) :
    (settle config router_id address now updates peer).Sound := by
  have faithful : ∀ socket stream, peer.streams.get? socket = some stream → stream.Faithful := by
    intro socket stream found
    obtain ⟨_,-,kept⟩ := served socket stream found
    exact kept.faithful
  unfold settle
  simp only
  generalize survivors : collide router_id address now peer.streams = streams
  have kept : ∀ socket stream, streams.get? socket = some stream → stream.Faithful := by
    intro socket stream found
    rw [← survivors] at found
    obtain ⟨after,present,rfl | rfl⟩ := collide_get? found
    · exact faithful socket stream present
    · obtain ⟨same,closing,ended,-⟩ := after.fail_same ⟨6,7⟩ now
      exact (faithful socket after present).closed same closing ended
  have unique : ∀ {first second : TcpSocket} {one two : PeerStream}, streams.get? first = some one →
      streams.get? second = some two → one.open_session = true → two.open_session = true → first = second := by
    intro first second one two here there
    rw [← survivors] at here there
    exact collide_unique faithful here there
  have still : ∀ socket stream, streams.get? socket = some stream → stream.open_session = true →
      peer.streams.get? socket = some stream := by
    intro socket stream found opened
    rw [← survivors] at found
    obtain ⟨after,present,rfl | rfl⟩ := collide_get? found
    · exact present
    · rw [PeerStream.fail_closed] at opened
      cases opened
  generalize chosen : choose peer.selected streams = selection
  generalize told : (if selection ≠ peer.selected then ∅ else peer.received : OrderedMap Ipv4Network BgpAttributes) = known
  generalize (((streams.values.find? (·.closing.isNone)).map (·.fsm.state)).getD .Active) = state
  cases selection with
  | none =>
    have silent : ∀ socket stream, streams.get? socket = some stream → stream.open_session ≠ true := by
      intro socket stream found opened
      have only := choose_unique peer.selected found opened (fun other one present isOpen =>
        unique present found isOpen opened)
      rw [chosen] at only
      cases only
    rw [receive_updates_none]
    simp only [Option.bind_none,Option.any_none,Bool.false_eq_true,if_false]
    exact ⟨kept,fun socket stream found opened => absurd opened (silent socket stream found),by simp⟩
  | some socket =>
    obtain ⟨stream,found,opened⟩ := choose_open chosen
    obtain ⟨old,previous,turned⟩ := served socket stream (still socket stream found opened)
    -- what the transport had told before this tick is known: everything if it was selected, nothing otherwise
    have start : known = replay_received old.delivered := by
      rw [← told]
      by_cases same : peer.selected = some socket
      · rw [if_neg (not_not.mpr same.symm),received]
        obtain ⟨other,here,replayed⟩ := sound.present socket (selected ▸ same)
        rw [previous] at here
        cases here
        exact replayed
      · rw [if_pos (Ne.symm same)]
        have waking := turned.waking (PeerStream.open_session_iff.mp opened).1
        have unestablished : old.fsm.state ≠ .Established := by
          intro established
          have was := sound.chosen socket old previous (PeerStream.open_session_iff.mpr ⟨waking,established⟩)
          exact same (selected.trans was)
        rw [((sound.faithful socket old previous).quiet waking unestablished).1]
        rfl
    have begin_receiving : Receiving (some socket) peer.config.remote_as stream.delivered old.delivered
        { peer with streams := streams, selected := some socket, received := known, state := state } := by
      refine ⟨kept,fun other one present isOpen => ?_,fun other same => ?_,rfl,rfl⟩
      · rw [unique present found isOpen opened]
      · cases same
        exact ⟨stream,found,rfl,fun _ => start⟩
    have heard := receive_updates_receiving config router_id now rfl updates begin_receiving
    rw [← turned.delivered] at heard
    generalize updates.foldl (receive_update config router_id now (some socket))
      { peer with streams := streams, selected := some socket, received := known, state := state } = result at heard
    rw [Option.bind_some]
    obtain ⟨last,present,all,knows⟩ := heard.present socket rfl
    by_cases isOpen : last.open_session = true
    · have any : (result.streams.get? socket).any PeerStream.open_session = true := by rw [present]; exact isOpen
      rw [if_pos any]
      refine ⟨heard.faithful,fun other one there opens => ?_,fun other same => ?_⟩
      · exact heard.selected.trans (heard.chosen other one there opens)
      · cases heard.selected.symm.trans same
        exact ⟨last,present,by rw [all]; exact knows (PeerStream.open_session_iff.mp isOpen).1⟩
    · have any : ¬ (result.streams.get? socket).any PeerStream.open_session = true := by rw [present]; exact isOpen
      rw [if_neg any]
      refine ⟨heard.faithful,fun other one there opens => ?_,by simp⟩
      cases heard.chosen other one there opens
      cases present.symm.trans there
      exact absurd opens isOpen

theorem drop_all_sound (now : SimTime) (sockets : List TcpSocket) (sound : peer.Sound) :
    (sockets.foldl (drop_stale now) peer).Sound := by
  induction sockets generalizing peer with
  | nil => exact sound
  | cons socket rest ih => exact ih (drop_stale_sound sound now socket)

theorem bgp_transport_peer_sound {surroundings : Surroundings} {address : Ipv4Addr} {work : Work} (sound : peer.Sound) :
    (bgp_transport_peer surroundings config router_id now address work peer).2.Sound := by
  unfold bgp_transport_peer
  simp only
  have dropped := drop_all_sound now (peer.stale work.tcp.connections) sound
  generalize (peer.stale work.tcp.connections).foldl (drop_stale now) peer = remaining at dropped
  obtain ⟨distinct,fresh⟩ := incoming_fresh work.tcp.connections address remaining
  have accepted := accept_all_sound config router_id now distinct (work,remaining) dropped fresh
  generalize (remaining.incoming work.tcp.connections address).foldl (accept config router_id now) (work,remaining) =
    accepting at accepted
  have opened := active_open_sound surroundings config router_id now address accepting.1 accepted
  generalize active_open surroundings config router_id now address accepting.1 accepting.2 = opening at opened
  exact settle_sound opened rfl rfl (serve_all_spec config router_id now opening.1 opened)

/-! ### Advertisement and output -/

/-- A transport may be replaced by one with the same session and the same history of UPDATEs received, or a closed one. -/
theorem Sound.replace (sound : peer.Sound) {socket : TcpSocket} {before after : PeerStream}
    (found : peer.streams.get? socket = some before) (faithful : after.Faithful)
    (delivered : after.delivered = before.delivered) (opened : after.open_session = true → before.open_session = true) :
    Sound { peer with streams := peer.streams.insert socket after } := by
  refine ⟨fun key stream present => ?_,fun key stream present isOpen => ?_,fun key chosen => ?_⟩
  · rw [OrderedMap.get?_insert] at present
    split at present
    · cases present
      exact faithful
    · exact sound.faithful key stream present
  · rw [OrderedMap.get?_insert] at present
    split at present
    · rename_i same
      cases present
      subst same
      exact sound.chosen key before found (opened isOpen)
    · exact sound.chosen key stream present isOpen
  · obtain ⟨stream,present,told⟩ := sound.present key chosen
    rw [OrderedMap.get?_insert]
    by_cases same : key = socket
    · subst same
      cases found.symm.trans present
      exact ⟨after,if_pos rfl,told.trans (congrArg replay_received delivered.symm)⟩
    · exact ⟨stream,(if_neg same).trans present,told⟩

theorem advertise_peer_sound {policies : RoutingPolicyConfig} {prefixes : List Ipv4Network}
    {best : OrderedMap Ipv4Network BgpPath} {address : Ipv4Addr} (sound : peer.Sound) :
    (advertise_peer policies config router_id now prefixes best address peer).Sound := by
  unfold advertise_peer
  cases exports : peer.exporting with
  | none => exact sound
  | some entry =>
    obtain ⟨socket,stream⟩ := entry
    unfold exporting at exports
    obtain ⟨chosen,-,isOpen⟩ := Option.bind_eq_some_iff.mp exports
    obtain ⟨one,passes,same⟩ := Option.map_eq_some_iff.mp isOpen
    cases same
    obtain ⟨found,opened⟩ := Option.filter_eq_some_iff.mp passes
    simp only
    generalize desired_routes policies config router_id prefixes best address peer.config socket stream = desired
    obtain ⟨faithful,delivered⟩ :=
      PeerStream.refresh_faithful (sound.faithful socket stream found) opened now desired
    exact sound.replace found faithful delivered (fun _ => opened)

/-- Output changes nothing of a transport but what is still to be written. -/
theorem bgp_flush_spec (now : SimTime) (socket : TcpSocket) (work : Work) (stream : PeerStream) :
    ∃ output offset, (bgp_flush now socket work stream).2.1 = { stream with output := output, offset := offset } := by
  unfold bgp_flush
  split
  · exact ⟨stream.output,stream.offset,rfl⟩
  · split
    · exact ⟨stream.output,stream.offset,rfl⟩
    · split
      · exact ⟨stream.output,stream.offset,rfl⟩
      · split
        · rename_i message rest _
          simp only
          split
          · exact ⟨stream.output,stream.offset,rfl⟩
          · split
            · exact ⟨rest,0,rfl⟩
            · exact ⟨stream.output,_,rfl⟩
        · split
          · split <;> exact ⟨stream.output,stream.offset,rfl⟩
          · exact ⟨stream.output,stream.offset,rfl⟩

theorem Sound.with_retry (sound : peer.Sound) (retry_at : SimTime) :
    Sound { peer with retry_at := retry_at } :=
  sound.congr rfl rfl rfl

theorem Sound.dropped (sound : peer.Sound) (socket : TcpSocket) (chosen : peer.selected = some socket) :
    Sound { peer with streams := peer.streams.erase socket, selected := none, received := ∅ } :=
  sound.erase socket rfl (if_pos chosen).symm (fun different => absurd chosen different)

theorem Sound.dropped_other (sound : peer.Sound) (socket : TcpSocket) (other : peer.selected ≠ some socket) :
    Sound { peer with streams := peer.streams.erase socket } :=
  sound.erase socket rfl (if_neg other).symm (fun _ => rfl)

theorem flush_one_sound {state : Work × Peer} (sound : state.2.Sound) (socket : TcpSocket) :
    (flush_one now state socket).2.Sound := by
  unfold flush_one
  cases found : state.2.streams.get? socket with
  | none => exact sound
  | some stream =>
    simp only
    obtain ⟨output,offset,written⟩ := bgp_flush_spec now socket state.1 stream
    generalize bgp_flush now socket state.1 stream = flushed at written
    split
    · rw [written]
      have faithful := sound.faithful socket stream found
      exact sound.replace found ⟨faithful.sent,faithful.current,faithful.shut,faithful.begun,faithful.identified,
        faithful.quiet⟩ rfl id
    · generalize satAdd64 now RETRY_US = retry_at
      split
      · rename_i chosen
        exact (sound.dropped socket chosen).with_retry retry_at
      · rename_i other
        exact sound.dropped_other socket other

theorem flush_all_sound {work : Work} (sound : peer.Sound) : (peer.flush_all now work).2.Sound := by
  unfold flush_all
  generalize peer.streams.keys = sockets
  have whole : ∀ (state : Work × Peer), state.2.Sound → (sockets.foldl (flush_one now) state).2.Sound := by
    induction sockets with
    | nil => exact fun _ kept => kept
    | cons socket rest ih => exact fun state kept => ih _ (flush_one_sound kept socket)
  exact whole (work,peer) sound

end

end Peer

/-! ### All peers -/

/-- Every peer of a table is sound. -/
def PeersSound (peers : OrderedMap Ipv4Addr Peer) : Prop := ∀ address peer, peers.get? address = some peer → peer.Sound

theorem PeersSound.empty : PeersSound ∅ := by
  intro address peer found
  cases found

theorem PeersSound.insert {peers : OrderedMap Ipv4Addr Peer} (sound : PeersSound peers) {address : Ipv4Addr} {peer : Peer}
    (fresh : peer.Sound) : PeersSound (peers.insert address peer) := by
  intro key other found
  rw [OrderedMap.get?_insert] at found
  split at found
  · cases found
    exact fresh
  · exact sound key other found

theorem PeersSound.retain {peers : OrderedMap Ipv4Addr Peer} (sound : PeersSound peers) (keep : Ipv4Addr → Peer → Bool) :
    PeersSound (peers.retain keep) := fun key peer found => sound key peer (OrderedMap.get?_retain_eq_some.mp found).1

theorem PeersSound.entries {peers : OrderedMap Ipv4Addr Peer} (sound : PeersSound peers) :
    ∀ entry ∈ peers.entries, entry.2.Sound :=
  fun entry member => sound entry.1 entry.2 ((OrderedMap.get?_eq_some _ _ _).mpr member)

section
variable {surroundings : Surroundings} {policies : RoutingPolicyConfig} {config : BgpConfig} {router_id : Ipv4Addr}
  {now : SimTime}

theorem consider_peers_sound {peers : OrderedMap Ipv4Addr Peer} (sound : PeersSound peers) :
    PeersSound (consider_peers surroundings policies config router_id peers).1 := by
  unfold consider_peers
  refine List.foldlRecOn (motive := fun (state : OrderedMap Ipv4Addr Peer × Candidates) => PeersSound state.1) _ _
    .empty (fun state kept entry member => ?_)
  exact kept.insert ((sound.entries entry member).congr rfl rfl rfl)

theorem recompute_sound {runtime : BgpRuntime} (sound : PeersSound runtime.peers) :
    PeersSound (runtime.bgp_recompute surroundings policies config router_id).peers := consider_peers_sound sound

theorem advertise_sound {runtime : BgpRuntime} (sound : PeersSound runtime.peers) :
    PeersSound (runtime.bgp_advertise surroundings policies config router_id now).peers := by
  intro address peer found
  unfold BgpRuntime.bgp_advertise at found
  simp only [OrderedMap.get?_mapValues] at found
  obtain ⟨before,present,rfl⟩ := Option.map_eq_some_iff.mp found
  exact Peer.advertise_peer_sound (sound address before present)

namespace Speaker

theorem flush_peers_sound {work : Work} {peers : OrderedMap Ipv4Addr Peer} (sound : PeersSound peers) :
    PeersSound (flush_peers now work peers).2 := by
  unfold flush_peers
  refine List.foldlRecOn (motive := fun (state : Work × OrderedMap Ipv4Addr Peer) => PeersSound state.2) _ _ .empty
    (fun state kept entry member => ?_)
  exact kept.insert (Peer.flush_all_sound (sound.entries entry member))

theorem serve_neighbors_sound {neighbors : List (Ipv4Addr × BgpNeighborConfig)} {state : Work × OrderedMap Ipv4Addr Peer}
    (sound : PeersSound state.2) : PeersSound (neighbors.foldl (serve_neighbor surroundings config router_id now) state).2 := by
  refine List.foldlRecOn (motive := fun (state : Work × OrderedMap Ipv4Addr Peer) => PeersSound state.2) _ _ sound
    (fun state kept neighbor member => ?_)
  refine kept.insert (Peer.bgp_transport_peer_sound ?_)
  unfold reconcile
  cases found : state.2.get? neighbor.1 with
  | none =>
    simp only [Option.getD_none]
    split
    · exact Peer.new_sound neighbor.2 now
    · exact (Peer.new_sound neighbor.2 now).congr rfl rfl rfl
  | some peer =>
    simp only [Option.getD_some]
    split
    · exact Peer.new_sound neighbor.2 now
    · exact (kept neighbor.1 peer found).congr rfl rfl rfl

theorem run_process_sound {speaker : Speaker} {work : Work} {bgp : BgpRuntime} (sound : PeersSound bgp.peers) :
    PeersSound (speaker.run_process config router_id now work bgp).2.peers := by
  unfold run_process
  simp only
  refine recompute_sound (flush_peers_sound (advertise_sound (recompute_sound ?_)))
  exact serve_neighbors_sound (sound.retain _)

theorem bgp_tick_sound {speaker : Speaker} (sound : PeersSound speaker.bgp.peers) :
    PeersSound (speaker.bgp_tick now).1.bgp.peers := by
  have reset : PeersSound speaker.reset_if_changed.2.peers := by
    unfold reset_if_changed
    simp only
    split
    · exact .empty
    · exact sound
  unfold bgp_tick
  simp only
  generalize speaker.reset_if_changed = start at reset
  split
  · exact reset
  · split
    · exact reset
    · split
      · exact reset
      · dsimp only
        exact run_process_sound reset

/-- Every peer of a device is sound after every run. -/
theorem Reached.sound {speaker : Speaker} (reached : Reached speaker) : PeersSound speaker.bgp.peers := by
  induction reached with
  | boot speaker fresh =>
    rw [fresh]
    exact .empty
  | change speaker next before same listening sound =>
    rw [same]
    exact sound
  | tick speaker before now sound => exact bgp_tick_sound sound

end Speaker

end

/-! ### The tables of an established transport -/

/-- On an established transport, the advertised table is the replay of the UPDATEs that were queued, the last refresh
    completed it unless the queue was full, and the received table is the replay of the UPDATEs that were delivered. -/
theorem tables_replayed {speaker : Speaker} (reached : speaker.Reached) {address : Ipv4Addr} {peer : Peer}
    (known : speaker.bgp.peers.get? address = some peer) {socket : TcpSocket} {stream : PeerStream}
    (present : peer.streams.get? socket = some stream) (established : stream.fsm.state = .Established) :
    replay stream.updates = stream.advertised ∧
      (∀ desired, stream.refreshed = some desired → stream.stopped = false → stream.advertised = desired) ∧
      peer.received = replay_received stream.delivered := by
  have sound := reached.sound address peer known
  have faithful := sound.faithful socket stream present
  have opened : stream.open_session = true := by
    refine PeerStream.open_session_iff.mpr ⟨?_,established⟩
    by_contra closes
    have ended := faithful.shut (Option.isSome_iff_ne_none.mpr closes)
    rw [established] at ended
    cases ended
  obtain ⟨other,found,told⟩ := sound.present socket (sound.chosen socket stream present opened)
  cases present.symm.trans found
  exact ⟨faithful.sent,faithful.current opened,told⟩

/-- A router in AS 65001 that its neighbor 192.0.2.1 in AS 65002 has connected to; the neighbor has sent an OPEN, a
    KEEPALIVE and an UPDATE. The neighbor is told a default route. -/
def listener_socket : TcpSocket := ⟨0xc00002fe,179,0xc0000201,50000⟩

def neighbor_bytes : List UInt8 :=
  List.replicate 16 255 ++ [0,29,1,4,253,234,0,180,2,2,2,2,0] ++ List.replicate 16 255 ++ [0,19,4] ++
    List.replicate 16 255 ++ [0,43,2,0,0,0,18,64,1,1,0,64,2,4,2,1,253,234,64,3,4,192,0,2,1,8,10]

def listening_speaker : Speaker :=
  ⟨⟨∅,∅,∅,[]⟩,
    some ⟨65001,some 0x01010101,none,.ofList [(0xc0000201,⟨65002,⟨none,none⟩,⟨none,none⟩,some ⟨none⟩,none,false,false⟩)],∅⟩,
    .default,
    ⟨.ofList [(listener_socket,⟨.Established,0,1,1,65535,neighbor_bytes,none,0,none,none,false,true⟩)],∅,0⟩,.default⟩

def served_speaker : Speaker := (listening_speaker.bgp_tick 0).1

theorem served_peer_some : (served_speaker.bgp.peers.get? 0xc0000201).isSome = true := by decide +kernel

def served_peer : Peer := (served_speaker.bgp.peers.get? 0xc0000201).get served_peer_some

theorem served_stream_some : (served_peer.streams.get? listener_socket).isSome = true := by decide +kernel

def served_stream : PeerStream := (served_peer.streams.get? listener_socket).get served_stream_some

theorem tables_replayed_served :
    replay served_stream.updates = served_stream.advertised ∧
      (∀ desired, served_stream.refreshed = some desired → served_stream.stopped = false →
        served_stream.advertised = desired) ∧
      served_peer.received = replay_received served_stream.delivered :=
  tables_replayed (.tick listening_speaker (.boot listening_speaker rfl) 0) (Option.some_get served_peer_some).symm
    (Option.some_get served_stream_some).symm (by decide +kernel)

end Rios.Bgp
