import Rios.BgpDevice
import Rios.BgpExport
import Rios.BgpFraming

/-!
# The tables of BGP and the UPDATEs behind them

What was advertised on a transport is the replay of the UPDATEs that were queued on
it, and what a peer has told is the replay of the UPDATEs that its session
delivered. Both hold in every state that ticks of a device reach.
-/

namespace Rios.Bgp
open Rios.Machine Rios.Device Rios.Tcp Rios.Routing

/-! ### Replays -/

/-- A table after an UPDATE: withdrawals delete, announcements insert. -/
def BgpUpdate.replay (table : OrderedMap Ipv4Network BgpAttributes) (update : BgpUpdate) :
    OrderedMap Ipv4Network BgpAttributes :=
  update.attributes.elim (update.withdrawn.foldl OrderedMap.erase table) (fun attributes =>
    update.announced.foldl (fun table network => table.insert network attributes)
      (update.withdrawn.foldl OrderedMap.erase table))

def replay (updates : List BgpUpdate) : OrderedMap Ipv4Network BgpAttributes := updates.foldl BgpUpdate.replay ∅

namespace Reception

/-- Whether the routes of an UPDATE lead back to the router that received it. -/
def looped (reception : Reception) (attributes : BgpAttributes) : Bool :=
  attributes.contains_as reception.local_as || attributes.originator_id = some reception.router_id ||
    attributes.cluster_list.contains reception.cluster

/-- The preference of an external peer is not taken over. -/
def kept (reception : Reception) (attributes : BgpAttributes) : BgpAttributes :=
  if reception.external then { attributes with local_preference := none } else attributes

/-- A table after a received UPDATE: a looped announcement deletes the older route. -/
def replay (table : OrderedMap Ipv4Network BgpAttributes) (reception : Reception) : OrderedMap Ipv4Network BgpAttributes :=
  reception.update.attributes.elim (reception.update.withdrawn.foldl OrderedMap.erase table) (fun attributes =>
    reception.update.announced.foldl (fun table network =>
        if reception.looped attributes then table.erase network else table.insert network (reception.kept attributes))
      (reception.update.withdrawn.foldl OrderedMap.erase table))

end Reception

def replay_received (delivered : List Reception) : OrderedMap Ipv4Network BgpAttributes :=
  delivered.foldl Reception.replay ∅

/-! ### Sessions -/

/-- What a message or a tick can do to a session. -/
inductive Turned (before after : BgpSession) (actions : BgpSessionActions) : Prop
  /-- The session ends. -/
  | ended (idle : after.state = .Idle)
      (same : after.peer_router_id = before.peer_router_id) (closes : actions.close_transport = true)
      (undelivered : actions.update = none)
  /-- An OPEN is accepted. -/
  | confirmed (waiting : before.state = .OpenSent)
      (confirms : after.state = .OpenConfirm) (identified : after.peer_router_id.isSome = true)
      (stays : actions.close_transport = false) (undelivered : actions.update = none)
  /-- The first KEEPALIVE. -/
  | established (waiting : before.state = .OpenConfirm)
      (established : after.state = .Established) (same : after.peer_router_id = before.peer_router_id)
      (stays : actions.close_transport = false) (undelivered : actions.update = none)
  /-- An UPDATE. -/
  | delivered (update : BgpUpdate) (open_before : before.state = .Established)
      (open_after : after.state = .Established) (same : after.peer_router_id = before.peer_router_id)
      (stays : actions.close_transport = false) (delivers : actions.update = some update)
  /-- Nothing but timers. -/
  | kept (state : after.state = before.state)
      (same : after.peer_router_id = before.peer_router_id) (stays : actions.close_transport = false)
      (undelivered : actions.update = none)
  /-- A retry before the handshake. -/
  | retried (unconnected : before.state.connected = false)
      (connecting : after.state = .Connect) (same : after.peer_router_id = before.peer_router_id)
      (stays : actions.close_transport = false) (undelivered : actions.update = none)

namespace BgpSession

theorem protocol_error_turned (session : BgpSession) (error : BgpError) (now : SimTime) :
    Turned session (session.protocol_error error now).1 (session.protocol_error error now).2 :=
  .ended rfl rfl rfl rfl

theorem receive_open_turned {session : BgpSession} (sent : session.state = .OpenSent) (opening : BgpOpen) (now : SimTime) :
    Turned session (session.receive_open opening now).1 (session.receive_open opening now).2 := by
  unfold receive_open
  split
  · exact session.protocol_error_turned _ now
  · by_cases asn : opening.effective_asn ≠ session.remote_as
    · rw [if_pos asn]
      exact session.protocol_error_turned _ now
    rw [if_neg asn]
    by_cases same : session.local_as = session.remote_as ∧ opening.router_id = session.router_id
    · rw [if_pos same]
      exact session.protocol_error_turned _ now
    rw [if_neg same]
    by_cases narrow : !opening.four_octet_as ∧ 0xffff < session.local_as
    · rw [if_pos narrow]
      exact session.protocol_error_turned _ now
    · rw [if_neg narrow]
      exact .confirmed sent rfl rfl rfl rfl

theorem receive_turned (session : BgpSession) (message : BgpMessage) (now : SimTime) :
    Turned session (session.receive message now).1 (session.receive message now).2 := by
  cases message with
  | Notification code subcode data => exact .ended rfl rfl rfl rfl
  | Open opening =>
    simp only [receive]
    split
    · rename_i sent
      exact receive_open_turned sent opening now
    · exact session.protocol_error_turned _ now
  | Keepalive =>
    simp only [receive]
    split
    · rename_i confirming
      exact .established confirming rfl rfl rfl rfl
    · exact .kept rfl rfl rfl rfl
    · exact session.protocol_error_turned _ now
  | Update update =>
    simp only [receive]
    split
    · rename_i established
      exact .delivered update established established rfl rfl rfl
    · exact session.protocol_error_turned _ now

theorem tick_turned (session : BgpSession) (now : SimTime) :
    Turned session (session.tick now).1 (session.tick now).2 := by
  unfold tick
  by_cases retry : session.retrying = true ∧ session.retry_at ≤ now
  · rw [if_pos retry]
    refine .retried ?_ rfl rfl rfl rfl
    have waits := retry.1
    unfold retrying at waits
    cases state : session.state <;> simp_all [BgpState.connected]
  · rw [if_neg retry]
    by_cases expired : session.hold_at.any (· ≤ now) = true
    · rw [if_pos expired]
      exact session.protocol_error_turned _ now
    · rw [if_neg expired]
      by_cases due : session.keepalive_at.any (· ≤ now) = true
      · rw [if_pos due]
        exact .kept rfl rfl rfl rfl
      · rw [if_neg due]
        exact .kept rfl rfl rfl rfl

/-- Sessions ask for OPENs, KEEPALIVEs and NOTIFICATIONs only. -/
theorem receive_messages (session : BgpSession) (message : BgpMessage) (now : SimTime) :
    ∀ answer ∈ (session.receive message now).2.messages, answer.updates = [] := by
  cases message with
  | Notification code subcode data => simp [receive,BgpSessionActions.default]
  | Open opening =>
    simp only [receive]
    split
    · unfold receive_open
      split
      · simp [protocol_error,BgpMessage.updates]
      · split_ifs <;> simp [protocol_error,BgpMessage.updates]
    · simp [protocol_error,BgpMessage.updates]
  | Keepalive =>
    simp only [receive]
    split <;> simp [protocol_error,BgpMessage.updates,BgpSessionActions.default]
  | Update update =>
    simp only [receive]
    split <;> simp [protocol_error,BgpMessage.updates,BgpSessionActions.default]

theorem tick_messages (session : BgpSession) (now : SimTime) :
    ∀ answer ∈ (session.tick now).2.messages, answer.updates = [] := by
  unfold tick
  split_ifs <;> simp [protocol_error,BgpMessage.updates,BgpSessionActions.default]

end BgpSession

/-! ### One transport -/

/-- Queueing does not touch the session. -/
theorem Stream.queue_all_fsm (messages : List BgpMessage) (stream : Stream) :
    (stream.queue_all messages).fsm = stream.fsm := by
  unfold Stream.queue_all
  induction messages generalizing stream with
  | nil => rfl
  | cons message rest ih =>
    rw [List.foldl_cons,ih]
    cases queued : stream.queue message with
    | error error => rfl
    | ok next =>
      unfold Stream.queue at queued
      split at queued
      · cases queued
      · cases encoded : message.encode stream.fsm.four_octet_as with
        | error error => rw [encoded] at queued; cases queued
        | ok bytes => rw [encoded] at queued; cases queued; rfl

namespace PeerStream
variable {stream : PeerStream} {now : SimTime}

/-- What holds of every transport. -/
structure Faithful (stream : PeerStream) : Prop where
  sent : replay stream.updates = stream.advertised
  current : stream.open_session = true → ∀ desired, stream.refreshed = some desired → stream.stopped = false →
    stream.advertised = desired
  shut : stream.closing.isSome = true → stream.fsm.state.connected = false
  begun : stream.fsm.state.connected = true → stream.started = true
  identified : stream.fsm.state = .OpenConfirm ∨ stream.fsm.state = .Established → stream.fsm.peer_router_id.isSome = true
  quiet : stream.closing = none → stream.fsm.state ≠ .Established →
    stream.delivered = [] ∧ stream.updates = [] ∧ stream.refreshed = none

/-- The tables and histories of a transport, other than the one of delivered UPDATEs, stay as they are. -/
structure SameTables (before after : PeerStream) : Prop where
  advertised : after.advertised = before.advertised
  updates : after.updates = before.updates
  refreshed : after.refreshed = before.refreshed
  stopped : after.stopped = before.stopped
  started : after.started = before.started

theorem SameTables.rfl' (stream : PeerStream) : SameTables stream stream := ⟨rfl,rfl,rfl,rfl,rfl⟩

theorem SameTables.trans {first second third : PeerStream} (one : SameTables first second) (two : SameTables second third) :
    SameTables first third :=
  ⟨two.advertised.trans one.advertised,two.updates.trans one.updates,two.refreshed.trans one.refreshed,
    two.stopped.trans one.stopped,two.started.trans one.started⟩

/-- A transport that closes without a connected session keeps what was proved of it. -/
theorem Faithful.closed {before after : PeerStream} (faithful : Faithful before) (same : SameTables before after)
    (closing : after.closing.isSome = true) (ended : after.fsm.state.connected = false) : Faithful after where
  sent := by rw [same.updates,same.advertised]; exact faithful.sent
  current := by
    intro opened
    rw [(open_session_iff.mp opened).1] at closing
    cases closing
  shut _ := ended
  begun connected := by rw [ended] at connected; cases connected
  identified := by
    rintro (state | state) <;> · rw [state] at ended; cases ended
  quiet none := by rw [none] at closing; cases closing

theorem fail_same (stream : PeerStream) (error : BgpError) (now : SimTime) :
    SameTables stream (stream.fail error now) ∧ (stream.fail error now).closing.isSome = true ∧
      (stream.fail error now).fsm.state.connected = false ∧ (stream.fail error now).delivered = stream.delivered := by
  have fsm : (stream.fail error now).fsm = (stream.fsm.protocol_error error now).1 := Stream.queue_all_fsm _ _
  refine ⟨⟨rfl,rfl,rfl,rfl,rfl⟩,rfl,?_,rfl⟩
  rw [fsm]
  rfl

/-- What asking a transport to send something may do to it. -/
structure Asked (before after : PeerStream) : Prop where
  same : SameTables before after
  delivered : after.delivered = before.delivered
  session : (after.fsm = before.fsm ∧ after.closing = before.closing) ∨
    (after.closing.isSome = true ∧ after.fsm.state.connected = false)

theorem Asked.trans {first second third : PeerStream} (one : Asked first second) (two : Asked second third) :
    Asked first third := by
  refine ⟨one.same.trans two.same,two.delivered.trans one.delivered,?_⟩
  rcases two.session with ⟨fsm,closing⟩ | failed
  · rw [fsm,closing]
    exact one.session
  · exact .inr failed

theorem queue_or_fail_asked (now : SimTime) (stream : PeerStream) {message : BgpMessage} (plain : message.updates = []) :
    Asked stream (stream.queue_or_fail now message) := by
  unfold queue_or_fail
  cases queued : stream.queue message with
  | error error =>
    obtain ⟨same,closing,ended,delivered⟩ := stream.fail_same error now
    exact ⟨same,delivered,.inr ⟨closing,ended⟩⟩
  | ok next =>
    obtain ⟨-,bytes,-,rfl⟩ := queue_eq_ok.mp queued
    refine ⟨⟨rfl,?_,rfl,rfl,rfl⟩,rfl,.inl ⟨rfl,rfl⟩⟩
    show stream.updates ++ message.updates = stream.updates
    rw [plain,List.append_nil]

/-- Messages other than UPDATEs leave a transport as it is, or fail it. -/
theorem queue_messages_asked (now : SimTime) {messages : List BgpMessage}
    (plain : ∀ message ∈ messages, message.updates = [])
    (stream : PeerStream) : Asked stream (stream.queue_messages now messages) := by
  unfold queue_messages
  induction messages generalizing stream with
  | nil => exact ⟨.rfl' stream,rfl,.inl ⟨rfl,rfl⟩⟩
  | cons message rest ih =>
    rw [List.forall_mem_cons] at plain
    rw [List.foldl_cons]
    exact (queue_or_fail_asked now stream plain.1).trans (ih plain.2 _)

/-- A transport that stays open keeps what was proved of it. -/
theorem Faithful.stays {before after : PeerStream} (faithful : Faithful before) (waking : before.closing = none)
    (begun : before.started = true) (same : SameTables before after) (open_after : after.closing = none)
    (identified : after.fsm.state = .OpenConfirm ∨ after.fsm.state = .Established → after.fsm.peer_router_id.isSome = true)
    (opened : after.fsm.state = .Established → before.fsm.state = .Established ∨ before.refreshed = none)
    (unheard : after.fsm.state ≠ .Established → before.fsm.state ≠ .Established ∧ after.delivered = before.delivered) :
    Faithful after where
  sent := by rw [same.updates,same.advertised]; exact faithful.sent
  current := by
    intro established desired refreshed stopped
    rw [same.advertised]
    rw [same.refreshed] at refreshed
    rcases opened (open_session_iff.mp established).2 with state | none
    · exact faithful.current (open_session_iff.mpr ⟨waking,state⟩) desired refreshed (same.stopped ▸ stopped)
    · rw [none] at refreshed
      cases refreshed
  shut closing := by rw [open_after] at closing; cases closing
  begun _ := by rw [same.started]; exact begun
  identified := identified
  quiet _ state := by
    obtain ⟨unestablished,delivered⟩ := unheard state
    obtain ⟨nothing,unsent,fresh⟩ := faithful.quiet waking unestablished
    rw [delivered,same.updates,same.refreshed]
    exact ⟨nothing,unsent,fresh⟩

theorem close_if_same (close : Bool) (now : SimTime) (stream : PeerStream) :
    SameTables stream (stream.close_if close now) ∧ (stream.close_if close now).delivered = stream.delivered ∧
      (stream.close_if close now).fsm = stream.fsm := by
  unfold close_if
  split <;> exact ⟨⟨rfl,rfl,rfl,rfl,rfl⟩,rfl,rfl⟩

/-- A turn of the session of an open transport, with the messages it asks for and the UPDATE it delivers. -/
theorem Faithful.turn {stream moved : PeerStream} (faithful : Faithful stream) (waking : stream.closing = none)
    (begun : stream.started = true) {actions : BgpSessionActions} (turned : Turned stream.fsm moved.fsm actions)
    (same : SameTables stream moved) (awake : moved.closing = none)
    (plain : ∀ message ∈ actions.messages, message.updates = [])
    (undelivered : actions.update = none → moved.delivered = stream.delivered) (now : SimTime) :
    Faithful ((moved.queue_messages now actions.messages).close_if actions.close_transport now) := by
  have asked := queue_messages_asked now plain moved
  generalize moved.queue_messages now actions.messages = queued at asked
  obtain ⟨tables,delivered,fsm⟩ := close_if_same actions.close_transport now queued
  have whole := (same.trans asked.same).trans tables
  rcases asked.session with ⟨session,closing⟩ | ⟨closing,ended⟩
  · have quiet_open : actions.close_transport = false →
        (queued.close_if actions.close_transport now).closing = none := by
      intro stays
      rw [stays]
      show queued.closing = none
      rw [closing]
      exact awake
    have known : (queued.close_if actions.close_transport now).fsm = moved.fsm := fsm.trans session
    have heard : actions.update = none → (queued.close_if actions.close_transport now).delivered = stream.delivered :=
      fun nothing => (delivered.trans asked.delivered).trans (undelivered nothing)
    cases turned with
    | ended idle peer closes nothing =>
      refine faithful.closed whole ?_ ?_
      · rw [closes]
        rfl
      · rw [known,idle]
        rfl
    | confirmed waiting confirms identified stays nothing =>
      refine faithful.stays waking begun whole (quiet_open stays) ?_ ?_ ?_
      · intro _
        rw [known]
        exact identified
      · intro established
        rw [known,confirms] at established
        cases established
      · intro _
        exact ⟨by rw [waiting]; decide,heard nothing⟩
    | established waiting established peer stays nothing =>
      have fresh := (faithful.quiet waking (by rw [waiting]; decide)).2.2
      refine faithful.stays waking begun whole (quiet_open stays) ?_ (fun _ => .inr fresh) ?_
      · intro _
        rw [known,peer]
        exact faithful.identified (.inl waiting)
      · intro other
        rw [known] at other
        exact absurd established other
    | delivered update before after peer stays delivers =>
      refine faithful.stays waking begun whole (quiet_open stays) ?_ (fun _ => .inl before) ?_
      · intro _
        rw [known,peer]
        exact faithful.identified (.inr before)
      · intro other
        rw [known] at other
        exact absurd after other
    | kept state peer stays nothing =>
      refine faithful.stays waking begun whole (quiet_open stays) ?_ ?_ ?_
      · rw [known,state,peer]
        exact faithful.identified
      · rw [known,state]
        exact .inl
      · rw [known,state]
        exact fun other => ⟨other,heard nothing⟩
    | retried unconnected connecting peer stays nothing =>
      refine faithful.stays waking begun whole (quiet_open stays) ?_ ?_ ?_
      · rw [known,connecting]
        rintro (state | state) <;> cases state
      · rw [known,connecting]
        intro state
        cases state
      · intro _
        refine ⟨fun established => ?_,heard nothing⟩
        rw [established] at unconnected
        cases unconnected
  · refine faithful.closed whole ?_ ?_
    · unfold close_if
      split
      · rfl
      · exact closing
    · rw [fsm]
      exact ended

theorem Faithful.asked {before after : PeerStream} (faithful : Faithful before) (asked : Asked before after) :
    Faithful after := by
  rcases asked.session with ⟨fsm,closing⟩ | ⟨closing,ended⟩
  · have same := asked.same
    refine ⟨?_,?_,?_,?_,?_,?_⟩
    · rw [same.updates,same.advertised]
      exact faithful.sent
    · rw [open_session_iff,fsm,closing,same.refreshed,same.stopped,same.advertised,← open_session_iff]
      exact faithful.current
    · rw [fsm,closing]
      exact faithful.shut
    · rw [fsm,same.started]
      exact faithful.begun
    · rw [fsm]
      exact faithful.identified
    · rw [fsm,closing,asked.delivered,same.updates,same.refreshed]
      exact faithful.quiet
  · exact faithful.closed asked.same closing ended

/-- What serving does to a transport, with the UPDATEs that it delivers. -/
structure ServedBy (receive : BgpUpdate → Reception) (before after : PeerStream) (updates : List BgpUpdate) : Prop where
  faithful : Faithful after
  delivered : after.delivered = before.delivered ++ updates.map receive
  waking : after.closing = none → before.closing = none

theorem start_served (faithful : Faithful stream) (waking : stream.closing = none) (receive : BgpUpdate → Reception)
    (now : SimTime) : ServedBy receive stream (stream.start now) [] ∧ (stream.start now).started = true := by
  unfold start
  by_cases begun : stream.started = true
  · rw [if_pos begun]
    exact ⟨⟨faithful,by simp,id⟩,begun⟩
  · rw [if_neg begun]
    simp only
    have unconnected : stream.fsm.state.connected ≠ true := fun connected => begun (faithful.begun connected)
    have quiet := faithful.quiet waking (by rintro state; rw [state] at unconnected; exact unconnected rfl)
    generalize moves : ({ stream with started := true, fsm := (stream.fsm.transport_connected now).1 } : PeerStream) = moved
    have state : moved.fsm.state = .OpenSent := by rw [← moves]; rfl
    have kept : Faithful moved := by
      refine ⟨?_,?_,?_,?_,?_,?_⟩
      · rw [← moves]
        exact faithful.sent
      · intro opened
        have other := (open_session_iff.mp opened).2
        rw [state] at other
        cases other
      · rw [← moves]
        intro closing
        rw [waking] at closing
        cases closing
      · rw [← moves]
        exact fun _ => rfl
      · rw [state]
        rintro (other | other) <;> cases other
      · rw [← moves]
        exact fun _ _ => quiet
    have plain : ∀ message ∈ (stream.fsm.transport_connected now).2.messages, message.updates = [] := by
      simp [BgpSession.transport_connected,BgpMessage.updates]
    have asked := queue_messages_asked now plain moved
    refine ⟨⟨kept.asked asked,?_,fun _ => waking⟩,?_⟩
    · rw [asked.delivered,← moves]
      simp
    · rw [asked.same.started,← moves]

theorem run_timers_served (faithful : Faithful stream) (begun : stream.closing = none → stream.started = true)
    (receive : BgpUpdate → Reception) (now : SimTime) : ServedBy receive stream (stream.run_timers now) [] := by
  unfold run_timers
  by_cases shut : stream.closing.isSome = true
  · rw [if_pos shut]
    exact ⟨faithful,by simp,id⟩
  · rw [if_neg shut]
    have waking : stream.closing = none := by simpa using shut
    have plain := stream.fsm.tick_messages now
    have same : SameTables stream { stream with fsm := (stream.fsm.tick now).1 } := ⟨rfl,rfl,rfl,rfl,rfl⟩
    have turn := faithful.turn waking (begun waking) (stream.fsm.tick_turned now) same waking plain (fun _ => rfl) now
    refine ⟨turn,?_,fun _ => waking⟩
    rw [(close_if_same _ now _).2.1,(queue_messages_asked now plain _).delivered]
    simp

section
variable (config : BgpConfig) (router_id : Ipv4Addr) (remote_as : UInt32)

theorem receive_message_served (faithful : Faithful stream) (waking : stream.closing = none) (begun : stream.started = true)
    (now : SimTime) (message : BgpMessage) (input : BgpStream) :
    ServedBy (reception config router_id remote_as) stream
        (receive_message config router_id remote_as now { stream with input := input } message)
        (stream.fsm.receive message now).2.update.toList ∧
      (receive_message config router_id remote_as now { stream with input := input } message).started = true := by
  unfold receive_message
  have plain := stream.fsm.receive_messages message now
  have same : SameTables stream { stream with
      input := input
      fsm := (stream.fsm.receive message now).1
      delivered := stream.delivered ++
        (stream.fsm.receive message now).2.update.toList.map (reception config router_id remote_as) } := ⟨rfl,rfl,rfl,rfl,rfl⟩
  have turn := faithful.turn waking begun (stream.fsm.receive_turned message now) same waking plain
    (fun nothing => by simp [nothing]) now
  refine ⟨⟨turn,?_,fun _ => waking⟩,?_⟩
  · rw [(close_if_same _ now _).2.1,(queue_messages_asked now plain _).delivered]
  · rw [(close_if_same _ now _).1.started,(queue_messages_asked now plain _).same.started]
    exact begun

/-- Queued messages do not touch what was received. -/
theorem queue_messages_input (now : SimTime) (messages : List BgpMessage) (stream : PeerStream) :
    (stream.queue_messages now messages).input = stream.input := by
  unfold queue_messages
  refine List.foldlRecOn (motive := fun (after : PeerStream) => after.input = stream.input) _ _ rfl
    (fun after same message member => ?_)
  unfold queue_or_fail
  cases queued : after.queue message with
  | error error => exact same
  | ok next =>
    obtain ⟨-,bytes,-,rfl⟩ := queue_eq_ok.mp queued
    exact same

theorem receive_message_input (now : SimTime) (stream : PeerStream) (message : BgpMessage) :
    (receive_message config router_id remote_as now stream message).input = stream.input := by
  have closed : ∀ (close : Bool) (after : PeerStream), (after.close_if close now).input = after.input := by
    intro close after
    unfold close_if
    split <;> rfl
  unfold receive_message
  rw [closed,queue_messages_input]

/-- A complete message has at least its header. -/
theorem next_message_shorter {input rest : BgpStream} {four : Bool} {message : BgpMessage}
    (read : input.next_message four = .ok (some message,rest)) : rest.bytes.length < input.bytes.length := by
  unfold BgpStream.next_message at read
  split at read
  · cases read
  · rename_i enough
    split at read
    · cases read
    · rename_i length known
      have long : 19 ≤ length := by
        unfold message_length at known
        simp only at known
        split at known
        · cases known
        · split at known
          · cases known
          · split at known
            · cases known
            · rename_i range
              split at known
              · cases known
              · cases known
                simp only [Bool.or_eq_true,decide_eq_true_eq] at range
                omega
      split at read
      · cases read
      · split at read
        · cases read
        · cases read
          simp only [List.length_drop]
          omega

/-- The loop over messages never ends for want of rounds: more rounds than bytes change nothing. -/
theorem read_messages_enough (now : SimTime) {rounds more : Nat} (stream : PeerStream) (updates : List BgpUpdate)
    (enough : stream.input.bytes.length < rounds) (most : stream.input.bytes.length < more) :
    read_messages config router_id remote_as now rounds stream updates =
      read_messages config router_id remote_as now more stream updates := by
  induction rounds generalizing more stream updates with
  | zero => omega
  | succ rounds ih =>
    obtain ⟨more,rfl⟩ : ∃ fewer, more = fewer + 1 := ⟨more - 1,by omega⟩
    rw [read_messages,read_messages]
    split
    · rfl
    · cases read : stream.input.next_message stream.fsm.four_octet_as with
      | error error => rfl
      | ok result =>
        obtain ⟨message,input⟩ := result
        cases message with
        | none => rfl
        | some message =>
          have shorter := next_message_shorter read
          have left : (receive_message config router_id remote_as now { stream with input := input } message).input = input :=
            receive_message_input config router_id remote_as now { stream with input := input } message
          exact ih _ _ (by rw [left]; omega) (by rw [left]; omega)

/-- Every UPDATE that the loop over messages collects was delivered, in that order. -/
theorem read_messages_served (now : SimTime) (fuel : Nat) (faithful : Faithful stream) (begun : stream.started = true)
    (updates : List BgpUpdate) :
    ∃ more, (read_messages config router_id remote_as now fuel stream updates).2 = updates ++ more ∧
      Faithful (read_messages config router_id remote_as now fuel stream updates).1 ∧
      (read_messages config router_id remote_as now fuel stream updates).1.started = true ∧
      (read_messages config router_id remote_as now fuel stream updates).1.delivered =
        stream.delivered ++ more.map (reception config router_id remote_as) := by
  induction fuel generalizing stream updates with
  | zero => exact ⟨[],by simp [read_messages],faithful,begun,by simp [read_messages]⟩
  | succ fuel ih =>
    rw [read_messages]
    by_cases shut : stream.closing.isSome = true
    · rw [if_pos shut]
      exact ⟨[],by simp,faithful,begun,by simp⟩
    · rw [if_neg shut]
      have waking : stream.closing = none := by simpa using shut
      cases read : stream.input.next_message stream.fsm.four_octet_as with
      | error error =>
        obtain ⟨same,closing,ended,delivered⟩ := stream.fail_same error now
        exact ⟨[],by simp,faithful.closed same closing ended,same.started.trans begun,by simp [delivered]⟩
      | ok result =>
        obtain ⟨message,input⟩ := result
        cases message with
        | none => exact ⟨[],by simp,faithful,begun,by simp⟩
        | some message =>
          obtain ⟨served,still⟩ := receive_message_served config router_id remote_as faithful waking begun now message input
          obtain ⟨more,collected,kept,started,delivered⟩ :=
            ih served.faithful still (updates ++ (stream.fsm.receive message now).2.update.toList)
          refine ⟨(stream.fsm.receive message now).2.update.toList ++ more,?_,kept,started,?_⟩
          · rw [collected,List.append_assoc]
          · rw [delivered,served.delivered,List.map_append,List.append_assoc]

theorem read_bytes_served (now : SimTime) (bytes : List UInt8) (faithful : Faithful stream) (begun : stream.started = true) :
    Faithful (read_bytes config router_id remote_as now bytes stream).1 ∧
      (read_bytes config router_id remote_as now bytes stream).1.started = true ∧
      (read_bytes config router_id remote_as now bytes stream).1.delivered = stream.delivered ++
        (read_bytes config router_id remote_as now bytes stream).2.map (reception config router_id remote_as) := by
  unfold read_bytes
  cases pushed : stream.input.push bytes with
  | error error =>
    obtain ⟨same,closing,ended,delivered⟩ := stream.fail_same error now
    exact ⟨faithful.closed same closing ended,same.started.trans begun,by simp [delivered]⟩
  | ok input =>
    have fresh : Faithful { stream with input := input } :=
      ⟨faithful.sent,faithful.current,faithful.shut,faithful.begun,faithful.identified,faithful.quiet⟩
    obtain ⟨more,collected,kept,started,delivered⟩ :=
      read_messages_served config router_id remote_as now (input.bytes.length + 1) fresh begun []
    exact ⟨kept,started,by rw [collected,delivered]; rfl⟩

/-- Serving a transport keeps its tables faithful and collects exactly what it delivers. -/
theorem serve_served (now : SimTime) (socket : TcpSocket) (work : Work) (faithful : Faithful stream) :
    ServedBy (reception config router_id remote_as) stream
      (stream.serve config router_id remote_as now socket work).2.1
      (stream.serve config router_id remote_as now socket work).2.2 := by
  unfold serve
  cases work.tcp.connections.get? socket with
  | none => exact ⟨faithful,by simp,id⟩
  | some connection =>
    simp only
    have half : ServedBy (reception config router_id remote_as) stream (stream.half_closed connection.state now) [] := by
      unfold half_closed
      split
      · rename_i ends
        have waking : stream.closing = none := by simpa using ends.2
        exact ⟨faithful.closed ⟨rfl,rfl,rfl,rfl,rfl⟩ rfl rfl,by simp,fun _ => waking⟩
      · exact ⟨faithful,by simp,id⟩
    generalize stream.half_closed connection.state now = kept at half
    by_cases idle : connection.state ≠ .Established ∨ kept.closing.isSome = true
    · rw [if_pos idle]
      exact half
    · rw [if_neg idle]
      have waking : kept.closing = none := by simpa using (not_or.mp idle).2
      obtain ⟨started,begun⟩ := start_served half.faithful waking (reception config router_id remote_as) now
      have first := half.delivered
      have second := started.delivered
      simp only [List.map_nil,List.append_nil] at first second
      by_cases empty : connection.received = []
      · rw [if_pos empty]
        have timers := run_timers_served started.faithful (fun _ => begun) (reception config router_id remote_as) now
        exact ⟨timers.faithful,by rw [timers.delivered,second,first],fun _ => half.waking waking⟩
      · rw [if_neg empty]
        cases work.tcp.tcp_read socket with
        | error error =>
          have timers := run_timers_served started.faithful (fun _ => begun) (reception config router_id remote_as) now
          exact ⟨timers.faithful,by rw [timers.delivered,second,first],fun _ => half.waking waking⟩
        | ok result =>
          obtain ⟨tcp,bytes,window⟩ := result
          obtain ⟨read,still,delivered⟩ :=
            read_bytes_served config router_id remote_as now bytes started.faithful begun
          have timers := run_timers_served read (fun _ => still) (reception config router_id remote_as) now
          refine ⟨timers.faithful,?_,fun _ => half.waking waking⟩
          simp only
          rw [timers.delivered,delivered,second,first]
          simp

end

/-- A new transport has sent and heard nothing. -/
theorem new_faithful {config : BgpConfig} {remote_as : UInt32} {router_id : Ipv4Addr}
    (created : PeerStream.new config remote_as router_id now = .ok stream) :
    Faithful stream ∧ stream.delivered = [] ∧ stream.open_session = false := by
  unfold PeerStream.new at created
  cases made : BgpSession.new config.local_as remote_as router_id 180 now with
  | error error => rw [made] at created; cases created
  | ok fsm =>
    rw [made] at created
    cases created
    have idle : fsm.state = .Idle := by
      unfold BgpSession.new at made
      split at made
      · cases made
      · simp only at made
        split at made
        · cases made
        · cases made
          rfl
    have unconnected : (fsm.tick now).1.state.connected = false := by
      cases fsm.tick_turned now with
      | ended idle => rw [idle]; rfl
      | confirmed waiting => rw [idle] at waiting; cases waiting
      | established waiting => rw [idle] at waiting; cases waiting
      | delivered update before => rw [idle] at before; cases before
      | kept state => rw [state,idle]; rfl
      | retried unconnected connecting => rw [connecting]; rfl
    have shut : ∀ state, state = (fsm.tick now).1.state → state.connected = true → False := by
      rintro state rfl connected
      rw [unconnected] at connected
      cases connected
    refine ⟨⟨rfl,?_,fun _ => unconnected,?_,?_,fun _ _ => ⟨rfl,rfl,rfl⟩⟩,rfl,?_⟩
    · intro _ desired none
      cases none
    · intro connected
      exact (shut _ rfl connected).elim
    · rintro (state | state)
      · exact (shut _ state.symm rfl).elim
      · exact (shut _ state.symm rfl).elim
    · rw [← Bool.not_eq_true,open_session_iff]
      exact fun opened => shut _ opened.2.symm rfl

/-! ### Refreshing a table -/

theorem replay_withdrawals (networks : List Ipv4Network) (updates : List BgpUpdate) :
    replay (updates ++ networks.map withdrawal) = networks.foldl OrderedMap.erase (replay updates) := by
  induction networks generalizing updates with
  | nil => simp
  | cons network rest ih =>
    have one : replay (updates ++ [withdrawal network]) = (replay updates).erase network := by
      rw [replay,List.foldl_append]
      rfl
    rw [List.map_cons,List.append_cons,ih,one,List.foldl_cons]

theorem get?_foldl_erase (networks : List Ipv4Network) (table : OrderedMap Ipv4Network BgpAttributes) (key : Ipv4Network) :
    (networks.foldl OrderedMap.erase table).get? key = if key ∈ networks then none else table.get? key := by
  induction networks generalizing table with
  | nil => simp
  | cons network rest ih =>
    rw [List.foldl_cons,ih,OrderedMap.get?_erase]
    by_cases here : key = network
    · simp [here]
    · by_cases later : key ∈ rest <;> simp [here,later]

/-- What the announcements of a refresh do to a transport. -/
structure Announced (entries : List (Ipv4Network × BgpAttributes)) (before after : PeerStream) : Prop where
  sent : replay after.updates = after.advertised
  delivered : after.delivered = before.delivered
  started : after.started = before.started
  refreshed : after.refreshed = before.refreshed
  session : (after.fsm = before.fsm ∧ after.closing = before.closing) ∨
    (after.closing.isSome = true ∧ after.fsm.state.connected = false)
  complete : after.open_session = true → after.stopped = false → before.stopped = false ∧
    ∀ key, after.advertised.get? key = (OrderedMap.lookupEntry key entries).or (before.advertised.get? key)

theorem announce_spec (now : SimTime) {entries : List (Ipv4Network × BgpAttributes)}
    (sorted : entries.Pairwise (fun a b => a.1 < b.1)) (stream : PeerStream) (sent : replay stream.updates = stream.advertised) :
    Announced entries stream (stream.announce now entries) := by
  induction entries generalizing stream with
  | nil =>
    rw [announce]
    exact ⟨sent,rfl,rfl,rfl,.inl ⟨rfl,rfl⟩,fun _ stopped => ⟨stopped,fun key => rfl⟩⟩
  | cons entry rest ih =>
    obtain ⟨network,attributes⟩ := entry
    obtain ⟨above,tail⟩ := List.pairwise_cons.mp sorted
    have absent : OrderedMap.lookupEntry network rest = none := by
      cases found : OrderedMap.lookupEntry network rest with
      | none => rfl
      | some other => exact absurd (above _ ((OrderedMap.lookupEntry_eq_some tail network other).mp found)) (lt_irrefl _)
    rw [announce]
    by_cases full : (decide (TX_LIMIT / 2 ≤ stream.output.length) || stream.closing.isSome) = true
    · rw [if_pos full]
      exact ⟨sent,rfl,rfl,rfl,.inl ⟨rfl,rfl⟩,fun _ impossible => by cases impossible⟩
    · rw [if_neg full]
      by_cases same : stream.advertised.get? network = some attributes
      · rw [if_pos same]
        have later := ih tail stream sent
        refine ⟨later.sent,later.delivered,later.started,later.refreshed,later.session,fun opened ends => ?_⟩
        obtain ⟨before,table⟩ := later.complete opened ends
        refine ⟨before,fun key => ?_⟩
        rw [table key,OrderedMap.lookupEntry]
        by_cases here : key = network
        · subst here
          rw [if_pos rfl,absent]
          exact same
        · rw [if_neg here]
      · rw [if_neg same]
        cases queued : stream.queue (.Update (announcement network attributes)) with
        | error error =>
          obtain ⟨kept,closing,ended,delivered⟩ := stream.fail_same error now
          refine ⟨?_,delivered,kept.started,kept.refreshed,.inr ⟨closing,ended⟩,fun opened => ?_⟩
          · rw [kept.updates,kept.advertised]
            exact sent
          · have closed : (stream.fail error now).open_session = false := fail_closed stream error now
            simp only [closed] at opened
            cases opened
        | ok next =>
          obtain ⟨-,bytes,-,step⟩ := queue_eq_ok.mp queued
          simp only
          generalize announced : ({ next with advertised := next.advertised.insert network attributes } : PeerStream) = between
          have replayed : replay between.updates = between.advertised := by
            have one : replay (stream.updates ++ [announcement network attributes]) =
                (replay stream.updates).insert network attributes := by
              rw [replay,List.foldl_append]
              rfl
            rw [← announced,step]
            show replay (stream.updates ++ [announcement network attributes]) = _
            rw [one,sent]
          have table : between.advertised = stream.advertised.insert network attributes := by rw [← announced,step]
          have later := ih tail between replayed
          rw [step] at announced
          refine ⟨later.sent,?_,?_,?_,?_,fun opened ends => ?_⟩
          · rw [later.delivered,← announced]
          · rw [later.started,← announced]
          · rw [later.refreshed,← announced]
          · have session := later.session
            rwa [← announced] at session ⊢
          · obtain ⟨before,after⟩ := later.complete opened ends
            refine ⟨by rw [← announced] at before; exact before,fun key => ?_⟩
            rw [after key,table,OrderedMap.get?_insert,OrderedMap.lookupEntry]
            by_cases here : key = network
            · subst here
              rw [if_pos rfl,if_pos rfl,absent]
              rfl
            · rw [if_neg here,if_neg here]

/-- A refresh keeps the table faithful, and completes it unless the limit of the queue stops it. -/
theorem refresh_faithful (faithful : Faithful stream) (opened : stream.open_session = true) (now : SimTime)
    (desired : OrderedMap Ipv4Network BgpAttributes) :
    Faithful (stream.refresh now desired) ∧ (stream.refresh now desired).delivered = stream.delivered := by
  rw [refresh]
  generalize prepared : ({ stream with refreshed := some desired, stopped := false } : PeerStream) = start
  obtain ⟨waking,established⟩ := open_session_iff.mp opened
  have session : start.fsm = stream.fsm ∧ start.closing = stream.closing ∧ start.started = stream.started ∧
      start.delivered = stream.delivered := by simp [← prepared]
  have fresh : start.refreshed = some desired ∧ start.advertised = stream.advertised ∧ start.updates = stream.updates := by
    simp [← prepared]
  have withdrawn := withdraw_spec now (stream.unwanted desired) start
  generalize start.withdraw now (stream.unwanted desired) = middle at withdrawn
  have sent : replay middle.updates = middle.advertised := by
    rw [withdrawn.updates,withdrawn.advertised,replay_withdrawals,fresh.2.1,fresh.2.2,faithful.sent]
  have announced := announce_spec now desired.sorted middle sent
  generalize middle.announce now desired.entries = after at announced
  have delivered : after.delivered = stream.delivered := by
    rw [announced.delivered,withdrawn.same.delivered,session.2.2.2]
  have begun : after.started = true := by
    rw [announced.started,withdrawn.same.started,session.2.2.1]
    exact faithful.begun (by rw [established]; rfl)
  have refreshed : after.refreshed = some desired := by rw [announced.refreshed,withdrawn.same.refreshed,fresh.1]
  have current : after.open_session = true → ∀ wanted, after.refreshed = some wanted → after.stopped = false →
      after.advertised = wanted := by
    intro isOpen wanted found ends
    rw [refreshed] at found
    cases found
    obtain ⟨complete,table⟩ := announced.complete isOpen ends
    have all := (withdrawn.complete complete).2
    refine OrderedMap.ext (fun key => ?_)
    rw [table key,withdrawn.advertised,List.take_of_length_le all,get?_foldl_erase,fresh.2.1]
    show (desired.get? key).or _ = _
    cases wanted : desired.get? key with
    | some attributes => rfl
    | none =>
      by_cases old : key ∈ stream.unwanted desired
      · rw [if_pos old]
        rfl
      · rw [if_neg old,Option.none_or]
        cases before : stream.advertised.get? key with
        | none => rfl
        | some attributes =>
          refine absurd (List.mem_filter.mpr ⟨(OrderedMap.mem_keys _ key).mpr ⟨attributes,before⟩,?_⟩) old
          simp [OrderedMap.contains,wanted]
  refine ⟨?_,delivered⟩
  rcases announced.session with ⟨fsm,closing⟩ | ⟨closing,ended⟩
  · rw [withdrawn.same.fsm,session.1] at fsm
    rw [withdrawn.same.closing,session.2.1] at closing
    refine ⟨announced.sent,current,?_,fun _ => begun,?_,?_⟩
    · rw [closing,waking]
      intro impossible
      cases impossible
    · rw [fsm]
      exact faithful.identified
    · rw [fsm]
      exact fun _ other => absurd established other
  · refine ⟨announced.sent,current,fun _ => ended,fun _ => begun,?_,?_⟩
    · rintro (state | state) <;> · rw [state] at ended; cases ended
    · intro none
      rw [none] at closing
      cases closing

end PeerStream
end Rios.Bgp
